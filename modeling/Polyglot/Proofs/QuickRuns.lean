import Polyglot.Proofs.Accounts
import Polyglot.Proofs.OptionReadings
import Polyglot.Proofs.ResolversInStep

namespace Polyglot

open Polyglot.Files
open Polyglot.Data (Scalar Entries)

/-- The options for a quick run. -/
def Options.quickened (options : Options) : Options := { options with quick := true }

variable {ws : Workspace} {catalog : Catalog} {options : Options}

namespace Resolver

variable {resolver : Resolver}

theorem load_quick (quick : resolver.options.quick = true) (ws : Workspace) (folder : String) :
    resolver.load ws folder = { resolver } := by
  rw [load, quick]
  rfl

theorem folderRules_unchecked (unchecked : resolver.options.Unchecked) (ws : Workspace)
    (folder : String) : resolver.folderRules ws folder = {} := by
  simp only [folderRules, fileRules, unchecked.ignored, unchecked.attributes]
  rfl

theorem load_unchecked (unchecked : resolver.options.Unchecked) (ws : Workspace) (folder : String) :
    (resolver.load ws folder).fault = none ∧
      (resolver.load ws folder).resolver.rules = resolver.rules ∧
      (resolver.load ws folder).resolver.options = resolver.options := by
  rw [load, folderRules_unchecked unchecked]
  split
  · exact ⟨rfl, rfl, rfl⟩
  · split
    · exact ⟨rfl, rfl, rfl⟩
    · exact ⟨rfl, RuleSet.append_empty resolver.rules, rfl⟩

end Resolver

namespace Analysis

/-- A resolver of a run in which nothing is checked, and one of a quick run with the same rules. -/
structure Idle (resolver other : Resolver) : Prop where
  unchecked : resolver.options.Unchecked
  quick : other.options.quick = true
  rules : other.rules = resolver.rules

theorem resolversInStep_quick (ws : Workspace) (catalog : Catalog) (unchecked : options.Unchecked) :
    ResolversInStep ws catalog options options.quickened Idle := by
  refine ⟨rfl, fun _ _ => ⟨unchecked, rfl, rfl⟩, fun h => h.rules, fun {resolver other} h folder => ?_⟩
  obtain ⟨hfault, hrules, hoptions⟩ := resolver.load_unchecked h.unchecked ws folder
  rw [other.load_quick h.quick, hfault]
  exact ⟨rfl, hoptions ▸ h.unchecked, h.quick, h.rules.trans hrules.symm⟩

end Analysis

namespace Aggregator

/-- An aggregator for a quick run. -/
def quickened (aggregator : Aggregator) : Aggregator :=
  { aggregator with options := aggregator.options.quickened }

theorem add_quickened (item : Classified) (aggregator : Aggregator) :
    aggregator.quickened.add item =
      ((aggregator.add item).1, (aggregator.add item).2.1, (aggregator.add item).2.2.quickened) := by
  have hfilters : filters aggregator.quickened.options = filters aggregator.options := rfl
  have hshare : newShare aggregator.quickened.options = newShare aggregator.options := rfl
  have hcatalog : aggregator.quickened.catalog = aggregator.catalog := rfl
  have hsummary : aggregator.quickened.summary = aggregator.summary := rfl
  -- Of the options only the categories and the shares are read, and neither tells a quick run.
  rw [add, add, hfilters, hshare, hcatalog, hsummary]
  generalize item.label.bind aggregator.catalog.ofLabel? = language
  generalize item.label = label
  by_cases hb : item.binary = true
  · simp only [hb, ↓reduceIte]
    rfl
  · by_cases hf : language.any (filters aggregator.options) = true
    · simp only [hb, hf, Bool.false_eq_true, ↓reduceIte]
      rfl
    · simp only [hb, hf, Bool.false_eq_true, ↓reduceIte]
      cases language with
      | none => cases label <;> simp only [quickened]
      | some language =>
        simp only
        cases aggregator.summary.languages.get? language.name with
        | some share => simp only [quickened]
        | none => cases newShare aggregator.options language <;> simp only [quickened]

theorem addAll_quickened (aggregator : Aggregator) (items : List Classified) :
    aggregator.quickened.addAll items =
      ((aggregator.addAll items).1, (aggregator.addAll items).2.map quickened) := by
  induction items generalizing aggregator with
  | nil => rfl
  | cons item rest ih =>
    rw [addAll, addAll, add_quickened]
    rcases aggregator.add item with ⟨journal, answer, next⟩
    cases answer with
    | error faults => rfl
    | ok answer => simp only [ih]

end Aggregator

namespace Analysis

variable {σ : Type} (source : SampleSource σ)

theorem classifyAll_quickened (ws : Workspace) (catalog : Catalog) (options : Options)
    (entries : List Entry) (session : Session σ) (account : Account) :
    classifyAll ws catalog options.quickened source entries session account =
      classifyAll ws catalog options source entries session account := by
  have hclassify : classify ws catalog options.quickened source = classify ws catalog options source :=
    rfl
  induction entries generalizing session account with
  | nil => rfl
  | cons entry rest ih => simp only [classifyAll, hclassify, ih]

/-- What has been reported before makes no difference to what comes of the files. -/
theorem classifyAll_reported {account other : Account} (same : other.progress = account.progress)
    (ws : Workspace) (catalog : Catalog) (options : Options) (entries : List Entry)
    (session : Session σ) :
    let done := classifyAll ws catalog options source entries session account
    let done' := classifyAll ws catalog options source entries session other
    done'.1 = done.1 ∧ done'.2.1.progress = done.2.1.progress ∧ done'.2.2 = done.2.2 := by
  induction entries generalizing session account other with
  | nil => exact ⟨rfl, same, rfl⟩
  | cons entry rest ih =>
    rcases hc : (classify ws catalog options source entry).run session with ⟨⟨journal, said⟩, next⟩
    cases said with
    | error e =>
      rw [classifyAll, classifyAll, hc]
      exact ⟨rfl, same, rfl⟩
    | ok item =>
      rw [classifyAll_cons hc, classifyAll_cons hc]
      have hstep : (((other.report journal).step (.done item.signal.name item.size)).progress =
          ((account.report journal).step (.done item.signal.name item.size)).progress) :=
        congrArg (Progress.step · (.done item.signal.name item.size)) same
      obtain ⟨hsession, hprogress, hitems⟩ := ih hstep next
      exact ⟨hsession, hprogress, congrArg (Except.map (item :: ·)) hitems⟩

/-- What an analysis leaves behind, but for what it reports on the way. -/
def Outcome.unlogged (outcome : Outcome σ) : Progress × σ × Except AnalysisError Summary :=
  (outcome.progress, outcome.samples, outcome.result)

theorem Account.fail_unlogged {account other : Account} (same : other.progress = account.progress)
    (samples : σ) (error : AnalysisError) :
    (other.fail samples error).unlogged = (account.fail samples error).unlogged := by
  simp only [Account.fail, Account.step, Outcome.unlogged, same]

/-- What is left to do when the files are classified. -/
def summedUp (catalog : Catalog) (options : Options) (session : Session σ) (account : Account)
    (classified : Except ClassifyError (List Classified)) : Outcome σ :=
  let account := account.report (session.skipped.map .heuristicSkipped)
  match classified with
  | .error e => account.fail session.samples (.classify e)
  | .ok items =>
    let account := (account.step (.leave .completed)).step (.enter "aggregate")
    let (journal, aggregated) := Aggregator.addAll { catalog, options } items
    let account := account.report journal
    match aggregated with
    | .error faults => account.fail session.samples (.aggregate faults)
    | .ok aggregator =>
      let summary := aggregator.result
      let account := account.step (.leave .completed)
      let account := account.report [.analysisDone summary.fileCount summary.bytes.toNat
        summary.languageCount aggregator.dropped catalog.source]
      ⟨account.progress, account.journal, session.samples, .ok summary⟩

theorem summedUp_quickened {account other : Account} (same : other.progress = account.progress)
    (catalog : Catalog) (options : Options) (session : Session σ)
    (items : Except ClassifyError (List Classified)) :
    (summedUp catalog options.quickened session other items).unlogged =
      (summedUp catalog options session account items).unlogged := by
  cases items with
  | error e => exact Account.fail_unlogged same _ _
  | ok items =>
    have hadded := Aggregator.addAll_quickened { catalog, options } items
    simp only [Aggregator.quickened] at hadded
    simp only [summedUp, hadded]
    generalize Aggregator.addAll { catalog, options } items = added
    obtain ⟨journal, aggregated⟩ := added
    cases aggregated with
    | error faults =>
      refine Account.fail_unlogged ?_ _ _
      simp only [Account.report, Account.step, same]
    | ok aggregator =>
      simp only [Except.map, Outcome.unlogged, Account.report, Account.step, same]
      rfl

/-- What is left to do when the files are found. -/
def concluded (ws : Workspace) (catalog : Catalog) (options : Options) (entries : List Entry)
    (session : Session σ) (account : Account) : Outcome σ :=
  let (session, account, classified) := classifyAll ws catalog options source entries session account
  summedUp catalog options session account classified

theorem run_eq_concluded (ws : Workspace) (catalog : Catalog) (options : Options) (paths : List Path)
    (samples : σ) :
    run ws catalog options source paths samples =
      match resolveInputs ws (catalog.without options.ignoredLanguages) options paths with
      | (journal, .error e) =>
        ((({} : Account).step (.enter "resolve")).report journal).fail samples (.resolve e)
      | (journal, .ok entries) =>
        concluded source ws (catalog.without options.ignoredLanguages) options entries { samples }
          (Account.resolved journal entries.length) := by
  rw [run]
  rcases resolveInputs ws (catalog.without options.ignoredLanguages) options paths with
    ⟨journal, _ | entries⟩ <;> rfl

theorem concluded_quickened {account other : Account} (same : other.progress = account.progress)
    (ws : Workspace) (catalog : Catalog) (options : Options) (entries : List Entry)
    (session : Session σ) :
    (concluded source ws catalog options.quickened entries session other).unlogged =
      (concluded source ws catalog options entries session account).unlogged := by
  obtain ⟨hsession, hprogress, hitems⟩ :=
    classifyAll_reported source same ws catalog options entries session
  rw [concluded, concluded, classifyAll_quickened]
  generalize classifyAll ws catalog options source entries session account = done
    at hsession hprogress hitems ⊢
  generalize classifyAll ws catalog options source entries session other = done'
    at hsession hprogress hitems ⊢
  obtain ⟨last, account, items⟩ := done
  obtain ⟨last', other, items'⟩ := done'
  obtain rfl : last' = last := hsession
  obtain rfl : items' = items := hitems
  have hsame : other.progress = account.progress := hprogress
  exact summedUp_quickened hsame catalog options last' items'

theorem run_quickened (unchecked : options.Unchecked) (ws : Workspace) (catalog : Catalog)
    (paths : List Path) (samples : σ) :
    (run ws catalog options.quickened source paths samples).unlogged =
      (run ws catalog options source paths samples).unlogged := by
  have hignored : options.quickened.ignoredLanguages = options.ignoredLanguages := rfl
  have hinputs := (resolversInStep_quick ws (catalog.without options.ignoredLanguages)
    unchecked).resolveInputs_eq paths
  rw [run_eq_concluded, run_eq_concluded, hignored]
  generalize resolveInputs ws (catalog.without options.ignoredLanguages) options paths = resolved
    at hinputs ⊢
  generalize resolveInputs ws (catalog.without options.ignoredLanguages) options.quickened paths =
    resolved' at hinputs ⊢
  obtain ⟨journal, resolved⟩ := resolved
  obtain ⟨journal', resolved'⟩ := resolved'
  obtain rfl : resolved' = resolved := hinputs
  cases resolved' with
  | error e => exact Account.fail_unlogged rfl _ _
  | ok entries =>
    have hsame : (Account.resolved journal' entries.length).progress =
        (Account.resolved journal entries.length).progress := rfl
    exact concluded_quickened source hsame ws _ options entries _

/-- A quick run is refused for the same faults as the run with every check off, or both end with the
same progress, the same samples and the same result. -/
theorem run_quickly (given : Entries) (ws : Workspace) (catalog : Catalog) (paths : List Path)
    (samples : σ) :
    let outcome (options : Options) := (run ws catalog options source paths samples).unlogged
    (Options.ofEntries (Options.quickly given)).map outcome =
      (Options.ofEntries (Options.unchecked given)).map outcome := by
  intro outcome
  rw [Options.ofEntries_quickly]
  cases ho : Options.ofEntries (Options.unchecked given) with
  | error faults => rfl
  | ok options =>
    obtain ⟨unchecked, -⟩ := Options.ofEntries_unchecked ho
    exact congrArg Except.ok (run_quickened source unchecked ws catalog paths samples)

end Analysis

end Polyglot
