import Polyglot.Proofs.FolderRuns
import Polyglot.Proofs.Selection

namespace Polyglot.Analysis

open Polyglot.Files

section
variable (ws : Workspace) (catalog : Catalog) (options : Options)
  (answer : Label → Except SampleFault (Option String)) (root : Path) (node : Node) (base : RuleSet)

/-- What is said of the file at a place by the rules of the folders above it. -/
def verdictAt (place : Place) : Except ClassifyError Classified :=
  verdict ws catalog options answer
    (entryAt root (rulesAbove catalog options node base place) place)

/-- Files at some places of a tree are taken up, and this is said of them. -/
structure Settles (places : List Place) (items : List Classified) : Prop where
  starts : (Resolver.builtin catalog options).2 = .ok base
  distinct : places.Nodup
  admitted : ∀ place ∈ places, Admitted catalog options node base place
  settled : places.mapM (verdictAt ws catalog options answer root node base) = .ok items

/-- Why an analysis of a tree has no result. -/
def Explains : AnalysisError → Prop
  | .resolve (.pattern error) => FatalPattern catalog options error
  | .resolve (.refused refusal) => Unaskable root node refusal
  | .classify error => ∃ base place, (Resolver.builtin catalog options).2 = .ok base ∧
      Admitted catalog options node base place ∧
      verdictAt ws catalog options answer root node base place = .error error
  | .resolve (.missing _) | .aggregate _ => False

/-- An analysis of a tree fails at something other than some files: at a path that is too long, or at
another file that it takes up. -/
def FailsBeside (spared : Place → Prop) : AnalysisError → Prop
  | .resolve (.refused refusal) => Unaskable root node refusal
  | .classify error => ∃ base place, (Resolver.builtin catalog options).2 = .ok base ∧
      Admitted catalog options node base place ∧ ¬ spared place ∧
      verdictAt ws catalog options answer root node base place = .error error
  | .resolve (.pattern _) | .resolve (.missing _) | .aggregate _ => False

end

variable {σ : Type} {ws : Workspace} {catalog : Catalog} {options : Options} {source : SampleSource σ}
  {answer : Label → Except SampleFault (Option String)} {root : Path} {node : Node} {base : RuleSet}
  {places : List Place} {items : List Classified} {samples : σ}

theorem verdictAt_path (place : Place) (item : Classified)
    (h : verdictAt ws catalog options answer root node base place = .ok item) :
    item.path = (root ++ (⟨"", place⟩ : Path)).text :=
  (verdict_item h).1

theorem mapM_declared {rules : RuleSet}
    (h : ∀ place ∈ places, rules.on (relText place) =
      (rulesAbove catalog options node base place).on (relText place)) :
    (places.map (entryAt root rules)).mapM (verdict ws catalog options answer) =
      places.mapM (verdictAt ws catalog options answer root node base) :=
  mapM_entryAt h

theorem paths_settled {f : Place → Except ClassifyError Classified} {key : Place → String}
    (h : places.mapM f = .ok items) (paths : ∀ place item, f place = .ok item → item.path = key place) :
    items.map Classified.path = places.map key := by
  induction places generalizing items with
  | nil =>
    cases h
    rfl
  | cons first rest ih =>
    have hall := mapM_eq_ok_iff.mp h
    cases items with
    | nil => simp at hall
    | cons item others =>
      rw [List.map_cons, List.map_cons, List.cons.injEq] at hall
      rw [List.map_cons, List.map_cons, paths first item hall.1, ih (mapM_eq_ok_iff.mpr hall.2)]

/-- The item under the path of a place is what is said of the place, if that is among the places. -/
theorem find?_settled {f : Place → Except ClassifyError Classified} {key : Place → String}
    (h : places.mapM f = .ok items) (keeps : Classified → Bool)
    (paths : ∀ place item, f place = .ok item → item.path = key place) {place : Place}
    (inj : ∀ other ∈ places, key other = key place → other = place) :
    (items.filter keeps).find? (·.path == key place) =
      if place ∈ places then (f place).toOption.filter keeps else none := by
  induction places generalizing items with
  | nil =>
    cases h
    rfl
  | cons first rest ih =>
    have hinj : ∀ other ∈ rest, key other = key place → other = place :=
      fun other hm => inj other (List.mem_cons_of_mem _ hm)
    have hall := mapM_eq_ok_iff.mp h
    cases items with
    | nil => simp at hall
    | cons item others =>
      rw [List.map_cons, List.map_cons, List.cons.injEq] at hall
      obtain ⟨hfirst, hothers⟩ := hall
      have hrest := ih (mapM_eq_ok_iff.mpr hothers) hinj
      have hpath := paths first item hfirst
      by_cases he : first = place
      · subst he
        cases hk : keeps item with
        | true =>
          rw [List.filter_cons_of_pos hk, List.find?_cons_of_pos (by simp [hpath])]
          simp [hfirst, Except.toOption, Option.filter, hk]
        | false =>
          rw [List.filter_cons_of_neg (by simp [hk]), hrest]
          simp [hfirst, Except.toOption, Option.filter, hk]
      · have hkey : ¬ item.path = key place := fun hk => he (inj first (by simp) (hpath ▸ hk))
        have hmem : place ∈ first :: rest ↔ place ∈ rest := by simp [Ne.symm he]
        simp only [hmem, ← hrest]
        cases hk : keeps item with
        | true =>
          rw [List.filter_cons_of_pos hk, List.find?_cons_of_neg (by simpa using hkey)]
        | false => rw [List.filter_cons_of_neg (by simp [hk])]

section
variable (settles : Settles ws catalog options answer root node base places items)
  (holds : ws.HoldsTree root node)
include settles holds

theorem Settles.text_inj {place other : Place} (hp : (node.content? place).isSome = true)
    (ho : other ∈ places) (h : (root ++ (⟨"", other⟩ : Path)).text = (root ++ (⟨"", place⟩ : Path)).text) :
    other = place := by
  have hfile := (settles.admitted other ho).file
  exact text_injective (content?_ne_nil holds hfile) (content?_ne_nil holds hp)
    (content?_names holds hfile) (content?_names holds hp) h

theorem Settles.find? (keeps : Classified → Bool) {place : Place}
    (hp : (node.content? place).isSome = true) :
    (items.filter keeps).find? (·.path == (root ++ (⟨"", place⟩ : Path)).text) =
      if place ∈ places then
        (verdictAt ws catalog options answer root node base place).toOption.filter keeps
      else none := by
  exact find?_settled settles.settled keeps verdictAt_path fun _ ho => settles.text_inj holds hp ho

theorem Settles.nodup_paths : (items.map Classified.path).Nodup := by
  rw [paths_settled settles.settled verdictAt_path]
  refine settles.distinct.map_on ?_
  intro place hp other ho h
  exact settles.text_inj holds (settles.admitted other ho).file hp h

end

theorem hasFolder_tree (holds : ws.HoldsTree root node) : ws.hasFolder root = .ok true := by
  have hnode : ws.node? (root ++ (⟨"", []⟩ : Path)) = .ok node := holds.node?_below rfl
  rw [append_here] at hnode
  rw [Workspace.hasFolder, hnode]
  simp only [holds.isFolder]

theorem content?_named (holds : ws.HoldsTree root node)
    (files : ∀ place ∈ places, (node.content? place).isSome = true) :
    ∀ place ∈ places, place ≠ [] ∧ ∀ name ∈ place, IsName name :=
  fun place hm => ⟨content?_ne_nil holds (files place hm), content?_names holds (files place hm)⟩

/-- An analysis of a folder takes up the admitted files and says of each what holds of its place, unless
one of the folders that it goes into cannot be read or one of the files cannot be settled. -/
theorem classified_unless (holds : ws.HoldsTree root node) (answers : source.Answers answer)
    (hb : (Resolver.builtin (catalog.without options.ignoredLanguages) options).2 = .ok base)
    (samples : σ) :
    let known := catalog.without options.ignoredLanguages
    match classified ws catalog options source [root] samples with
    | .ok items =>
      (∃ places, Settles ws known options answer root node base places items ∧
        places.Pairwise Precedes ∧
        ∀ place, Admitted known options node base place → place ∈ places) ∧
      ∀ folder, GoneInto known options node base folder →
        (reading ws root known options folder).fault = none
    | .error (.resolve error) => ∃ refusal folder, error = .refused refusal ∧
        GoneInto known options node base folder ∧
        (reading ws root known options folder).fault = some refusal
    | .error (.classify error) => ∃ place, Admitted known options node base place ∧
        verdictAt ws known options answer root node base place = .error error
    | .error (.aggregate _) => False := by
  intro known
  rw [classified_eq answers, resolveInputs_folder (hasFolder_tree holds)]
  rcases resolveTree_unless_unread holds hb with
    ⟨places, rules, hentries, taken, readable⟩ | ⟨refusal, hfail, folder, hunread⟩
  · have hadmitted : ∀ place ∈ places, Admitted known options node base place :=
      fun place hm => (taken.mem_iff place).mp hm
    rw [hentries]
    simp only [Except.map]
    have named := content?_named holds fun place hm => (hadmitted place hm).file
    rw [firstOfEachKey_entryAt root rules named, eraseDups_eq_self taken.nodup,
      mapM_declared taken.rules_on]
    cases hv : places.mapM (verdictAt ws known options answer root node base) with
    | error e =>
      obtain ⟨place, hm, he⟩ := mapM_eq_error hv
      exact ⟨place, hadmitted place hm, he⟩
    | ok items =>
      exact ⟨⟨places, ⟨hb, taken.nodup, hadmitted, hv⟩, taken.ordered,
        fun place ha => (taken.mem_iff place).mpr ha⟩, readable⟩
  · rw [hfail]
    exact ⟨refusal, folder, rfl, hunread⟩

/-- An analysis of a folder takes up the admitted files and says of each what holds of its place. It
fails only for a reason. -/
theorem classified_tree (holds : ws.HoldsTree root node) (answers : source.Answers answer)
    (catalog : Catalog) (options : Options) (samples : σ) :
    match classified ws catalog options source [root] samples with
    | .ok items => ∃ base places, Settles ws (catalog.without options.ignoredLanguages) options answer
          root node base places items ∧
        places.Pairwise Precedes ∧
        ∀ place, Admitted (catalog.without options.ignoredLanguages) options node base place →
          place ∈ places
    | .error error =>
      Explains ws (catalog.without options.ignoredLanguages) options answer root node error := by
  cases hb : (Resolver.builtin (catalog.without options.ignoredLanguages) options).2 with
  | error e =>
    rw [classified_fault (hasFolder_tree holds) answers hb]
    exact builtin_error hb
  | ok base =>
    have h := classified_unless holds answers hb samples
    cases hc : classified ws catalog options source [root] samples with
    | ok items =>
      rw [hc] at h
      exact ⟨base, h.1⟩
    | error e =>
      rw [hc] at h
      cases e with
      | resolve e =>
        obtain ⟨refusal, folder, rfl, hgone, hfault⟩ := h
        exact hgone.unaskable holds hfault
      | classify e =>
        obtain ⟨place, hp, he⟩ := h
        exact ⟨base, place, hb, hp, he⟩
      | aggregate e => exact h.elim

/-- An analysis that has settled its files has a result, in which the retained files are listed in
their order. -/
theorem Settles.run_ok {paths : List Path} (holds : ws.HoldsTree root node)
    (settles : Settles ws (catalog.without options.ignoredLanguages) options answer root node base
      places items)
    (textual : catalog.Textual)
    (hc : classified ws catalog options source paths samples = .ok items) :
    ∃ summary, (run ws catalog options source paths samples).result = .ok summary ∧
      Aggregator.SumsUp (catalog.without options.ignoredLanguages) options
        (retained ws catalog options source paths samples) summary ∧
      summary.files = Aggregator.labelsOf (retained ws catalog options source paths samples) := by
  obtain ⟨summary, hresult, hsums, hfiles⟩ := Analysis.run_ok textual hc
  refine ⟨summary, hresult, hsums, hfiles ?_⟩
  simp only [retained, hc]
  exact (settles.nodup_paths holds).sublist (List.filter_sublist.map Classified.path)

/-- An analysis of a folder has a result that is determined by what is said of the admitted files, or
it fails for a reason. -/
theorem run_tree (holds : ws.HoldsTree root node) (textual : catalog.Textual)
    (answers : source.Answers answer) (options : Options) (samples : σ) :
    match (run ws catalog options source [root] samples).result with
    | .ok summary => ∃ base places items,
        classified ws catalog options source [root] samples = .ok items ∧
        Settles ws (catalog.without options.ignoredLanguages) options answer root node base places items ∧
        (∀ place, Admitted (catalog.without options.ignoredLanguages) options node base place →
          place ∈ places) ∧
        Aggregator.SumsUp (catalog.without options.ignoredLanguages) options
          (retained ws catalog options source [root] samples) summary ∧
        summary.files = Aggregator.labelsOf (retained ws catalog options source [root] samples)
    | .error error =>
      Explains ws (catalog.without options.ignoredLanguages) options answer root node error := by
  have htree := classified_tree holds answers catalog options samples
  cases hc : classified ws catalog options source [root] samples with
  | error e =>
    rw [hc] at htree
    rw [run_error hc]
    exact htree
  | ok items =>
    rw [hc] at htree
    obtain ⟨base, places, settles, _, complete⟩ := htree
    obtain ⟨summary, hresult, hsums, hfiles⟩ := settles.run_ok holds textual hc
    rw [hresult]
    exact ⟨base, places, items, rfl, settles, complete, hsums, hfiles⟩

theorem run_failsBeside (holds : ws.HoldsTree root node) (textual : catalog.Textual)
    (answers : source.Answers answer)
    (hb : (Resolver.builtin (catalog.without options.ignoredLanguages) options).2 = .ok base)
    {spared : Place → Prop}
    (settled : ∀ place, spared place →
      Admitted (catalog.without options.ignoredLanguages) options node base place →
      ∃ item, verdictAt ws (catalog.without options.ignoredLanguages) options answer root node base place =
        .ok item)
    {error : AnalysisError}
    (h : (run ws catalog options source [root] samples).result = .error error) :
    FailsBeside ws (catalog.without options.ignoredLanguages) options answer root node spared error := by
  have htree := classified_unless holds answers hb samples
  cases hc : classified ws catalog options source [root] samples with
  | ok items =>
    obtain ⟨summary, hresult, -⟩ := Analysis.run_ok textual hc
    rw [hresult] at h
    cases h
  | error other =>
    obtain rfl : other = error := Except.error.inj ((run_error hc).symm.trans h)
    rw [hc] at htree
    cases other with
    | resolve error =>
      obtain ⟨refusal, folder, rfl, hgone, hfault⟩ := htree
      exact hgone.unaskable holds hfault
    | classify error =>
      obtain ⟨place, hadmitted, he⟩ := htree
      refine ⟨base, place, hb, hadmitted, fun hspared => ?_, he⟩
      obtain ⟨item, hsaid⟩ := settled place hspared hadmitted
      rw [hsaid] at he
      cases he
    | aggregate faults => exact htree.elim

/-- An analysis of a tree has a result where nothing can fail: the catalog has no patterns, no samples
are to be had, and no path is too long. -/
theorem run_tree_returns (holds : ws.HoldsTree root node) (textual : catalog.Textual)
    (answers : source.Answers fun _ => .ok none) (options : Options) (samples : σ)
    (patternless : catalog.vendor ++ catalog.generated = []) (ruleless : catalog.disambiguations = [])
    (askable : ∀ refusal, ¬ Unaskable root node refusal) :
    ∃ summary, (run ws catalog options source [root] samples).result = .ok summary := by
  have htree := run_tree holds textual answers options samples
  obtain ⟨hvendor, hgenerated, hrules, -⟩ := catalog.without_rest options.ignoredLanguages
  cases hrun : (run ws catalog options source [root] samples).result with
  | ok summary => exact ⟨summary, rfl⟩
  | error error =>
    rw [hrun] at htree
    cases error with
    | resolve error =>
      cases error with
      | missing path => exact htree.elim
      | refused refusal => exact (askable refusal htree).elim
      | pattern error =>
        obtain ⟨-, -, pattern, hm, -⟩ := htree
        rw [hvendor, hgenerated, patternless] at hm
        cases hm
    | classify error =>
      obtain ⟨base, place, -, -, he⟩ := htree
      obtain ⟨item, hi⟩ := verdict_silent ws options (hrules.trans ruleless)
        (entryAt root (rulesAbove (catalog.without options.ignoredLanguages) options node base place) place)
      rw [verdictAt, hi] at he
      cases he
    | aggregate faults => exact htree.elim

end Polyglot.Analysis
