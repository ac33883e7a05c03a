import Polyglot.Analysis
import Polyglot.Proofs.Totals
import Polyglot.Proofs.Verdicts

namespace Polyglot

open Polyglot.Data (Ledger)
open Polyglot.Files (Workspace)

section
variable {ε α β : Type} {f : α → Except ε β}

theorem eq_ok_of_bind {first : Except ε α} {next : α → Except ε β} {value : β}
    (h : first >>= next = .ok value) : ∃ between, first = .ok between ∧ next between = .ok value := by
  cases first with
  | error e => cases h
  | ok between => exact ⟨between, rfl, h⟩

theorem eq_error_of_bind {first : Except ε α} {next : α → Except ε β} {error : ε}
    (h : first >>= next = .error error) :
    first = .error error ∨ ∃ between, first = .ok between ∧ next between = .error error := by
  cases first with
  | error e =>
    cases h
    exact .inl rfl
  | ok between => exact .inr ⟨between, rfl, h⟩

theorem mapError_eq_ok_iff {ε' : Type} {outcome : Except ε β} {value : β} {report : ε → ε'} :
    outcome.mapError report = .ok value ↔ outcome = .ok value := by
  cases outcome <;> simp [Except.mapError]

theorem mapM_eq_ok_iff {list : List α} {outcomes : List β} :
    list.mapM f = .ok outcomes ↔ list.map f = outcomes.map .ok := by
  induction list generalizing outcomes with
  | nil => cases outcomes <;> simp [pure, Except.pure]
  | cons item rest ih =>
    rw [List.mapM_cons, List.map_cons]
    cases hf : f item with
    | error e => cases outcomes <;> simp [bind, Except.bind]
    | ok outcome =>
      cases hr : rest.mapM f with
      | error e =>
        cases outcomes with
        | nil => simp [bind, Except.bind]
        | cons first others =>
          have hnot : rest.map f ≠ others.map .ok := fun h => by simp [ih.mpr h] at hr
          simp [bind, Except.bind, hnot]
      | ok others =>
        have hrest := ih.mp hr
        cases outcomes with
        | nil => simp [bind, Except.bind, pure, Except.pure]
        | cons first more =>
          have hinj : others.map (Except.ok (ε := ε)) = more.map .ok ↔ others = more :=
            (List.map_injective_iff.mpr fun _ _ => Except.ok.inj).eq_iff
          simp [bind, Except.bind, pure, Except.pure, hrest, hinj]

theorem mapM_eq_error {list : List α} {error : ε} (h : list.mapM f = .error error) :
    ∃ item ∈ list, f item = .error error := by
  induction list with
  | nil => cases h
  | cons item rest ih =>
    rw [List.mapM_cons] at h
    cases hf : f item with
    | error e =>
      rw [hf] at h
      cases h
      exact ⟨item, by simp, hf⟩
    | ok outcome =>
      cases hr : rest.mapM f with
      | error e =>
        rw [hf, hr] at h
        cases h
        obtain ⟨other, hm, ho⟩ := ih hr
        exact ⟨other, List.mem_cons_of_mem _ hm, ho⟩
      | ok others =>
        rw [hf, hr] at h
        cases h

theorem eq_filterMap_of_mapM {list : List α} {outcomes : List β} (h : list.mapM f = .ok outcomes) :
    outcomes = list.filterMap fun item => (f item).toOption := by
  have hall := congrArg (List.filterMap Except.toOption) (mapM_eq_ok_iff.mp h)
  rw [List.filterMap_map, List.filterMap_map] at hall
  have hself : outcomes.filterMap (Except.toOption ∘ Except.ok (ε := ε)) = outcomes :=
    List.filterMap_some
  exact (hall.trans hself).symm

theorem mem_of_mapM {list : List α} {outcomes : List β} (h : list.mapM f = .ok outcomes) {outcome : β}
    (hm : outcome ∈ outcomes) : ∃ item ∈ list, f item = .ok outcome := by
  have hin : Except.ok outcome ∈ outcomes.map (Except.ok (ε := ε)) := List.mem_map_of_mem hm
  rw [← mapM_eq_ok_iff.mp h] at hin
  simpa using hin

theorem outcome_of_mapM {list : List α} {outcomes : List β} (h : list.mapM f = .ok outcomes) {item : α}
    (hm : item ∈ list) : ∃ outcome ∈ outcomes, f item = .ok outcome := by
  have hin : f item ∈ list.map f := List.mem_map_of_mem hm
  rw [mapM_eq_ok_iff.mp h] at hin
  obtain ⟨outcome, ho, he⟩ := List.mem_map.mp hin
  exact ⟨outcome, ho, he.symm⟩

theorem mapM_congr {g : α → Except ε β} {list : List α}
    (h : ∀ item ∈ list, f item = g item) : list.mapM f = list.mapM g := by
  induction list with
  | nil => rfl
  | cons item rest ih =>
    rw [List.mapM_cons, List.mapM_cons, h item (by simp),
      ih fun other hm => h other (List.mem_cons_of_mem _ hm)]

theorem said_of_mapM {list : List α} {outcomes : List β}
    (h : list.mapM f = .ok outcomes) (other : β) :
    ∃ said : α → β, ∀ item ∈ list, f item = .ok (said item) := by
  refine ⟨fun item => (f item).toOption.getD other, fun item hm => ?_⟩
  obtain ⟨outcome, -, hf⟩ := outcome_of_mapM h hm
  simp only [hf, Except.toOption, Option.getD_some]

theorem map_of_mapM {list : List α} {outcomes : List β} {said : α → β}
    (h : list.mapM f = .ok outcomes) (hs : ∀ item ∈ list, f item = .ok (said item)) :
    outcomes = list.map said := by
  have hmap : outcomes.map Except.ok = (list.map said).map (Except.ok : β → Except ε β) := by
    rw [← mapM_eq_ok_iff.mp h, List.map_map]
    exact List.map_congr_left hs
  exact List.map_injective_iff.mpr (fun _ _ he => Except.ok.inj he) hmap

theorem mapM_filter {keeps : α → Bool} {list : List α}
    (h : ∀ item ∈ list, keeps item = false → ∃ outcome, f item = .ok outcome) :
    match list.mapM f with
    | .ok _ => ∃ others, (list.filter keeps).mapM f = .ok others
    | .error error => (list.filter keeps).mapM f = .error error := by
  induction list with
  | nil => exact ⟨[], rfl⟩
  | cons item rest ih =>
    have hrest := ih fun other hm => h other (List.mem_cons_of_mem _ hm)
    rw [List.mapM_cons]
    cases hk : keeps item with
    | true =>
      rw [List.filter_cons_of_pos hk, List.mapM_cons]
      cases f item with
      | error error => rfl
      | ok outcome =>
        cases hm : rest.mapM f with
        | error error =>
          rw [hm] at hrest
          simp only [bind, Except.bind, hrest]
        | ok outcomes =>
          rw [hm] at hrest
          obtain ⟨others, hothers⟩ := hrest
          exact ⟨outcome :: others, by rw [hothers]; rfl⟩
    | false =>
      rw [List.filter_cons_of_neg (by simp [hk])]
      obtain ⟨outcome, hf⟩ := h item (by simp) hk
      rw [hf]
      cases hm : rest.mapM f with
      | error error =>
        rw [hm] at hrest
        exact hrest
      | ok outcomes =>
        rw [hm] at hrest
        exact hrest

end

section
variable {α : Type} [BEq α]

@[elab_as_elim]
theorem distinct_induction {motive : List α → Prop} (list : List α) (nil : motive [])
    (cons : ∀ first rest, motive (rest.filter fun other => !other == first) → motive (first :: rest)) :
    motive list := by
  induction hn : list.length using Nat.strong_induction_on generalizing list with
  | _ n ih =>
    cases list with
    | nil => exact nil
    | cons first rest =>
      have hle := List.length_filter_le (fun other => !other == first) rest
      rw [List.length_cons] at hn
      exact cons first rest (ih _ (by omega) _ rfl)

variable [LawfulBEq α]

theorem nodup_eraseDups (list : List α) : list.eraseDups.Nodup := by
  induction list using distinct_induction with
  | nil => exact List.nodup_nil
  | cons first rest ih =>
    rw [List.eraseDups_cons, List.nodup_cons]
    exact ⟨by simp, ih⟩

theorem eraseDups_eq_self {list : List α} (h : list.Nodup) : list.eraseDups = list := by
  induction list with
  | nil => rfl
  | cons first rest ih =>
    rw [List.nodup_cons] at h
    have hrest : (rest.filter fun other => !other == first) = rest := by
      refine List.filter_eq_self.mpr fun other hm => ?_
      have hne : other ≠ first := fun he => h.1 (he ▸ hm)
      simp [hne]
    rw [List.eraseDups_cons, hrest, ih h.2]

theorem eraseDups_concat (list : List α) (item : α) :
    (list ++ [item]).eraseDups =
      if item ∈ list then list.eraseDups else list.eraseDups ++ [item] := by
  rw [List.eraseDups_append]
  split
  · rename_i hm
    simp [List.removeAll, hm]
  · rename_i hm
    simp [List.removeAll, hm, List.eraseDups_cons]

theorem eraseDups_filter (keeps : α → Bool) (list : List α) :
    (list.filter keeps).eraseDups = list.eraseDups.filter keeps := by
  induction list using distinct_induction with
  | nil => rfl
  | cons first rest ih =>
    rw [List.eraseDups_cons]
    cases hk : keeps first with
    | true =>
      rw [List.filter_cons_of_pos hk, List.filter_cons_of_pos hk, List.eraseDups_cons, ← ih,
        List.filter_filter, List.filter_filter]
      simp only [Bool.and_comm]
    | false =>
      rw [List.filter_cons_of_neg (by simp [hk]), List.filter_cons_of_neg (by simp [hk]), ← ih,
        List.filter_filter]
      congr 1
      refine List.filter_congr fun other _ => ?_
      by_cases he : other = first
      · simp [he, hk]
      · simp [he]

theorem firstOfEachKey_cons (first : Analysis.Entry) (rest : List Analysis.Entry) :
    Analysis.firstOfEachKey (first :: rest) =
      first :: Analysis.firstOfEachKey (rest.filter fun other => !other.key == first.key) := by
  rw [Analysis.firstOfEachKey, List.eraseDupsBy_cons]
  simp only [Bool.decide_eq_false]

/-- Induction on what is left of entries without those that have the key of the first. -/
@[elab_as_elim]
theorem key_induction {motive : List Analysis.Entry → Prop} (entries : List Analysis.Entry)
    (nil : motive [])
    (cons : ∀ first rest, motive (rest.filter fun other => !other.key == first.key) →
      motive (first :: rest)) : motive entries := by
  let sameKey : BEq Analysis.Entry := ⟨fun a b => a.key == b.key⟩
  exact distinct_induction entries nil cons

/-- Entries whose keys tell them apart are kept as often as what they are made from. -/
theorem firstOfEachKey_map {entry : α → Analysis.Entry} {list : List α}
    (inj : ∀ a ∈ list, ∀ b ∈ list, (entry a).key = (entry b).key → a = b) :
    Analysis.firstOfEachKey (list.map entry) = list.eraseDups.map entry := by
  induction list using distinct_induction with
  | nil => rfl
  | cons first rest ih =>
    have hinj : ∀ a ∈ rest.filter (fun other => !other == first),
        ∀ b ∈ rest.filter (fun other => !other == first), (entry a).key = (entry b).key → a = b :=
      fun a ha b hb => inj a (List.mem_cons_of_mem _ (List.mem_filter.mp ha).1) b
        (List.mem_cons_of_mem _ (List.mem_filter.mp hb).1)
    have hsame : (rest.map entry).filter (fun other => !other.key == (entry first).key) =
        (rest.filter fun other => !other == first).map entry := by
      rw [List.filter_map]
      congr 1
      refine List.filter_congr fun other hm => ?_
      by_cases he : other = first
      · simp [he]
      · have hk : (entry other).key ≠ (entry first).key :=
          fun hk => he (inj other (List.mem_cons_of_mem _ hm) first (by simp) hk)
        simp [he, hk]
    rw [List.map_cons, firstOfEachKey_cons, hsame, ih hinj, List.eraseDups_cons, List.map_cons]

end

namespace Aggregator

variable {catalog : Catalog} {options : Options} {items : List Classified} {aggregator : Aggregator}

theorem addRetained_files (catalog : Catalog) (options : Options) (item : Classified)
    (summary : Summary) :
    (addRetained catalog options item summary).files = summary.files.put item.path item.label := by
  unfold addRetained
  split
  · rfl
  · simp only [addUnknown]
    split <;> rfl
  · rfl

theorem add_files {item : Classified} {answer : Bool} (ok : (aggregator.add item).2.1 = .ok answer) :
    (aggregator.add item).2.2.summary.files =
      if retains aggregator.catalog aggregator.options item then
        aggregator.summary.files.put item.path item.label
      else aggregator.summary.files := by
  cases hr : retains aggregator.catalog aggregator.options item with
  | false =>
    rw [add_dropped hr]
    rfl
  | true =>
    rw [add_retained hr ok]
    exact addRetained_files _ _ _ _

/-- What a list of files says of them: each path with its label. -/
def labelsOf (items : List Classified) : Ledger (Option Label) :=
  items.map fun item => (item.path, item.label)

theorem get?_labelsOf (items : List Classified) (path : String) :
    (labelsOf items).get? path = (items.find? (·.path == path)).map Classified.label := by
  induction items with
  | nil => rfl
  | cons item rest ih =>
    rw [labelsOf, List.map_cons, Ledger.get?, List.find?_cons]
    by_cases he : item.path = path
    · simp [he]
    · have hne : (item.path == path) = false := by simpa using he
      rw [if_neg he, hne]
      exact ih

theorem addAll_cons_eq_ok_iff {item : Classified} {rest : List Classified} {last : Aggregator} :
    (aggregator.addAll (item :: rest)).2 = .ok last ↔
      ∃ answer, (aggregator.add item).2.1 = .ok answer ∧
        ((aggregator.add item).2.2.addAll rest).2 = .ok last := by
  rw [addAll]
  rcases aggregator.add item with ⟨journal, answer, next⟩
  cases answer with
  | error faults => simp
  | ok answer =>
    simp only [Except.ok.injEq, exists_eq_left']

theorem Counts.addAll_answers (textual : catalog.Textual) (h : Counts catalog options items aggregator)
    (more : List Classified) : ∃ last, (aggregator.addAll more).2 = .ok last := by
  induction more generalizing items aggregator with
  | nil => exact ⟨aggregator, rfl⟩
  | cons item rest ih =>
    obtain ⟨answer, ok⟩ := add_answers (h.catalog_eq ▸ textual) item
    obtain ⟨last, hlast⟩ := ih (h.add ok).2
    exact ⟨last, addAll_cons_eq_ok_iff.mpr ⟨answer, ok, hlast⟩⟩

/-- Files that can be counted are all counted, and those that are retained are listed one after the
other. -/
theorem Counts.addAll (h : Counts catalog options items aggregator) {more : List Classified}
    {last : Aggregator} (ok : (aggregator.addAll more).2 = .ok last) :
    Counts catalog options (items ++ more) last ∧
      last.summary.files = (labelsOf (retainedOf catalog options more)).foldl
        (fun files entry => files.put entry.1 entry.2) aggregator.summary.files := by
  induction more generalizing items aggregator with
  | nil =>
    cases ok
    exact ⟨by simpa using h, rfl⟩
  | cons item rest ih =>
    obtain ⟨answer, hitem, hrest⟩ := addAll_cons_eq_ok_iff.mp ok
    obtain ⟨hall, hfiles⟩ := ih (h.add hitem).2 hrest
    refine ⟨by simpa using hall, ?_⟩
    rw [hfiles, add_files hitem, h.catalog_eq, h.options_eq]
    cases hr : retains catalog options item with
    | true => simp [retainedOf, labelsOf, hr]
    | false => simp [retainedOf, labelsOf, hr]

theorem files_addAll {last : Aggregator}
    (ok : (Aggregator.addAll { catalog, options } items).2 = .ok last)
    (distinct : ((retainedOf catalog options items).map Classified.path).Nodup) :
    last.summary.files = labelsOf (retainedOf catalog options items) := by
  rw [((Counts.start catalog options).addAll ok).2, Ledger.foldl_put]
  · rfl
  · simpa [Ledger.keys, labelsOf, Function.comp_def] using distinct

end Aggregator

namespace Analysis

variable {σ : Type}

/-- What is found of a path before what is found of the others, with the resolver that they share. -/
def foundBefore (found : List Found)
    (others : Journal × Except ResolveError (List Found × Option Resolver)) (journal : Journal) :
    Journal × Except ResolveError (List Found × Option Resolver) :=
  (journal ++ others.1, others.2.map fun rest => (found ++ rest.1, rest.2))

section
variable {ws : Workspace} {catalog : Catalog} {options : Options} {path : Path}

theorem resolveEach_folder (h : ws.hasFolder path = .ok true) (root : Files.Place)
    (rest : List Path) (shared : Option Resolver) :
    resolveEach ws catalog options root (path :: rest) shared =
      match resolveTree ws catalog options path with
      | (journal, .error e) => (journal, .error e)
      | (journal, .ok entries) =>
        foundBefore (entries.map .inTree) (resolveEach ws catalog options root rest shared) journal := by
  simp only [resolveEach, h]
  rfl

theorem resolveEach_named (h : ws.hasFolder path ≠ .ok true) (root : Files.Place)
    (rest : List Path) (shared : Option Resolver) :
    resolveEach ws catalog options root (path :: rest) shared =
      match shared with
      | none => foundBefore [] (resolveEach ws catalog options root rest none) []
      | some resolver =>
        match resolveFile ws root path resolver with
        | (journal, .error e) => (journal, .error e)
        | (journal, .ok (resolver, rel)) =>
          foundBefore (rel.map fun rel => Found.file path.text rel path).toList
            (resolveEach ws catalog options root rest (some resolver)) journal := by
  cases hf : ws.hasFolder path with
  | error e => cases shared <;> simp only [resolveEach, hf] <;> rfl
  | ok folder =>
    cases folder with
    | true => exact absurd hf h
    | false => cases shared <;> simp only [resolveEach, hf] <;> rfl

end

section
variable (ws : Workspace) (catalog : Catalog) (options : Options) (source : SampleSource σ)
  (paths : List Path) (samples : σ)

/-- What an analysis says of the files it takes up. -/
def classified : Except AnalysisError (List Classified) :=
  let known := catalog.without options.ignoredLanguages
  match (resolveInputs ws known options paths).2 with
  | .error e => .error (.resolve e)
  | .ok entries =>
    (classifyAll ws known options source entries { samples } {}).2.2.mapError .classify

/-- The files that the result of an analysis is about, with what is said of them. -/
def retained : List Classified :=
  match classified ws catalog options source paths samples with
  | .error _ => []
  | .ok items => Aggregator.retainedOf (catalog.without options.ignoredLanguages) options items

end

variable {ws : Workspace} {catalog : Catalog} {options : Options} {source : SampleSource σ}
  {answer : Label → Except SampleFault (Option String)} {paths : List Path} {samples : σ}

theorem retained_eq {items : List Classified}
    (hc : classified ws catalog options source paths samples = .ok items) :
    retained ws catalog options source paths samples =
      Aggregator.retainedOf (catalog.without options.ignoredLanguages) options items := by
  simp only [retained, hc]

theorem classifyAll_cons {entry : Entry} {rest : List Entry} {session next : Session σ}
    {account : Account} {journal : Journal} {item : Classified}
    (h : (classify ws catalog options source entry).run session = ((journal, .ok item), next)) :
    classifyAll ws catalog options source (entry :: rest) session account =
      let done := classifyAll ws catalog options source rest next
        ((account.report journal).step (.done item.signal.name item.size))
      (done.1, done.2.1, done.2.2.map (item :: ·)) := by
  rw [classifyAll, h]

theorem classifyAll_cons_eq_ok {entry : Entry} {rest : List Entry} {session : Session σ}
    {account : Account} {items : List Classified}
    (h : (classifyAll ws catalog options source (entry :: rest) session account).2.2 = .ok items) :
    ∃ journal item next others,
      (classify ws catalog options source entry).run session = ((journal, .ok item), next) ∧
      (classifyAll ws catalog options source rest next
        ((account.report journal).step (.done item.signal.name item.size))).2.2 = .ok others ∧
      items = item :: others := by
  rcases hc : (classify ws catalog options source entry).run session with ⟨⟨journal, said⟩, next⟩
  cases said with
  | error e =>
    rw [classifyAll, hc] at h
    cases h
  | ok item =>
    rw [classifyAll_cons hc] at h
    cases ho : (classifyAll ws catalog options source rest next
        ((account.report journal).step (.done item.signal.name item.size))).2.2 with
    | error e => simp [ho, Except.map] at h
    | ok others =>
      simp only [ho, Except.map, Except.ok.injEq] at h
      exact ⟨journal, item, next, others, rfl, ho, h.symm⟩

theorem classifyAll_account (entries : List Entry) (session : Session σ) (account other : Account) :
    (classifyAll ws catalog options source entries session account).2.2 =
      (classifyAll ws catalog options source entries session other).2.2 := by
  induction entries generalizing session account other with
  | nil => rfl
  | cons entry rest ih =>
    rcases hc : (classify ws catalog options source entry).run session with ⟨⟨journal, said⟩, next⟩
    cases said with
    | error e =>
      rw [classifyAll, classifyAll, hc]
    | ok item =>
      rw [classifyAll_cons hc, classifyAll_cons hc]
      exact congrArg (Except.map (item :: ·)) (ih _ _ _)

theorem classifyAll_items {entries : List Entry} {session : Session σ} {account : Account}
    {items : List Classified}
    (h : (classifyAll ws catalog options source entries session account).2.2 = .ok items) :
    items.map (fun item => (item.path, item.size)) =
      entries.map fun entry => (entry.key, sizeAt ws entry.path) := by
  induction entries generalizing session account items with
  | nil =>
    cases h
    rfl
  | cons entry rest ih =>
    obtain ⟨journal, item, next, others, hc, ho, rfl⟩ := classifyAll_cons_eq_ok h
    obtain ⟨hpath, hsize⟩ := classify_item (congrArg (·.1.2) hc)
    rw [List.map_cons, List.map_cons, ih ho, hpath, hsize]

theorem classifyAll_mem {entries : List Entry} {session : Session σ} {account : Account}
    {items : List Classified}
    (h : (classifyAll ws catalog options source entries session account).2.2 = .ok items)
    {item : Classified} (hm : item ∈ items) : ∃ entry ∈ entries, ∃ session : Session σ,
      ((classify ws catalog options source entry).run session).1.2 = .ok item := by
  induction entries generalizing session account items with
  | nil =>
    cases h
    cases hm
  | cons entry rest ih =>
    obtain ⟨journal, first, next, others, hc, ho, rfl⟩ := classifyAll_cons_eq_ok h
    rcases List.mem_cons.mp hm with rfl | hm
    · exact ⟨entry, by simp, session, congrArg (·.1.2) hc⟩
    · obtain ⟨other, he, said⟩ := ih ho hm
      exact ⟨other, List.mem_cons_of_mem _ he, said⟩

theorem classifyAll_value (h : source.Answers answer) (entries : List Entry) (session : Session σ)
    (account : Account) :
    (classifyAll ws catalog options source entries session account).2.2 =
      entries.mapM (verdict ws catalog options answer) := by
  induction entries generalizing session account with
  | nil => rfl
  | cons entry rest ih =>
    have hsaid := classify_eq_verdict h ws catalog options entry session
    rw [List.mapM_cons, ← hsaid]
    rcases hc : (classify ws catalog options source entry).run session with ⟨⟨journal, said⟩, next⟩
    cases said with
    | error e =>
      rw [classifyAll, hc]
      rfl
    | ok item =>
      rw [classifyAll_cons hc]
      simp only
      rw [ih]
      cases rest.mapM (verdict ws catalog options answer) <;> rfl

/-- An analysis that says something of its files has resolved and classified them all. -/
theorem classified_eq_ok {items : List Classified}
    (h : classified ws catalog options source paths samples = .ok items) :
    ∃ entries, (resolveInputs ws (catalog.without options.ignoredLanguages) options paths).2 =
        .ok entries ∧
      (classifyAll ws (catalog.without options.ignoredLanguages) options source entries { samples }
        {}).2.2 = .ok items := by
  rw [classified] at h
  cases hr : (resolveInputs ws (catalog.without options.ignoredLanguages) options paths).2 with
  | error e => simp [hr] at h
  | ok entries =>
    simp only [hr] at h
    exact ⟨entries, rfl, mapError_eq_ok_iff.mp h⟩

theorem classified_single {entry : Entry} {item : Classified}
    (hr : (resolveInputs ws (catalog.without options.ignoredLanguages) options paths).2 = .ok [entry])
    (hc : ((classify ws (catalog.without options.ignoredLanguages) options source entry).run
      { samples }).1.2 = .ok item) :
    classified ws catalog options source paths samples = .ok [item] := by
  rcases hs : (classify ws (catalog.without options.ignoredLanguages) options source entry).run
    { samples } with ⟨⟨journal, said⟩, next⟩
  rw [hs] at hc
  cases hc
  simp only [classified, hr, classifyAll_cons hs]
  rfl

theorem classified_eq (h : source.Answers answer) :
    classified ws catalog options source paths samples =
      match (resolveInputs ws (catalog.without options.ignoredLanguages) options paths).2 with
      | .error e => .error (.resolve e)
      | .ok entries =>
        (entries.mapM (verdict ws (catalog.without options.ignoredLanguages) options answer)).mapError
          .classify := by
  simp only [classified, classifyAll_value h]

theorem classified_sizes {items : List Classified}
    (hc : classified ws catalog options source paths samples = .ok items) :
    ∀ item ∈ items, 0 ≤ item.size := by
  obtain ⟨entries, _, hall⟩ := classified_eq_ok hc
  intro item hm
  have hin : (item.path, item.size) ∈ items.map fun item => (item.path, item.size) :=
    List.mem_map_of_mem hm
  rw [classifyAll_items hall] at hin
  obtain ⟨entry, _, he⟩ := List.mem_map.mp hin
  rw [← (Prod.mk.inj he).2]
  exact sizeAt_nonneg _ _

theorem run_result :
    (run ws catalog options source paths samples).result =
      (classified ws catalog options source paths samples).bind fun items =>
        ((Aggregator.addAll { catalog := catalog.without options.ignoredLanguages, options }
          items).2.mapError .aggregate).map Aggregator.result := by
  simp only [run, classified]
  rcases resolveInputs ws (catalog.without options.ignoredLanguages) options paths
    with ⟨journal, resolved⟩
  cases resolved with
  | error e => rfl
  | ok entries =>
    simp only [classifyAll_account entries { samples } _ {}]
    cases (classifyAll ws (catalog.without options.ignoredLanguages) options source entries
        { samples } {}).2.2 with
    | error e => rfl
    | ok items =>
      simp only [Except.mapError, Except.bind]
      cases (Aggregator.addAll { catalog := catalog.without options.ignoredLanguages, options } items).2 <;>
        rfl

theorem run_error {error : AnalysisError}
    (hc : classified ws catalog options source paths samples = .error error) :
    (run ws catalog options source paths samples).result = .error error := by
  rw [run_result, hc]
  rfl

theorem run_eq_ok {summary : Summary}
    (h : (run ws catalog options source paths samples).result = .ok summary) :
    ∃ items last, classified ws catalog options source paths samples = .ok items ∧
      (Aggregator.addAll { catalog := catalog.without options.ignoredLanguages, options } items).2 =
        .ok last ∧
      Aggregator.Counts (catalog.without options.ignoredLanguages) options items last ∧
      summary = last.result := by
  rw [run_result] at h
  cases hc : classified ws catalog options source paths samples with
  | error e => simp [hc, Except.bind] at h
  | ok items =>
    cases hlast : (Aggregator.addAll { catalog := catalog.without options.ignoredLanguages, options }
        items).2 with
    | error faults => simp [hc, hlast, Except.bind, Except.mapError, Except.map] at h
    | ok last =>
      simp only [hc, hlast, Except.bind, Except.mapError, Except.map, Except.ok.injEq] at h
      exact ⟨items, last, rfl, hlast, ((Aggregator.Counts.start _ _).addAll hlast).1, h.symm⟩

/-- The result of an analysis that has classified its files is determined by those that are retained.
They are listed in their order if their paths differ. -/
theorem run_ok (textual : catalog.Textual) {items : List Classified}
    (hc : classified ws catalog options source paths samples = .ok items) :
    ∃ summary, (run ws catalog options source paths samples).result = .ok summary ∧
      Aggregator.SumsUp (catalog.without options.ignoredLanguages) options
        (retained ws catalog options source paths samples) summary ∧
      (((retained ws catalog options source paths samples).map Classified.path).Nodup →
        summary.files = Aggregator.labelsOf (retained ws catalog options source paths samples)) := by
  have hstart := Aggregator.Counts.start (catalog.without options.ignoredLanguages) options
  obtain ⟨last, hlast⟩ := hstart.addAll_answers (textual.without options.ignoredLanguages) items
  rw [retained_eq hc]
  refine ⟨last.result, ?_, (hstart.addAll hlast).1.sumsUp (classified_sizes hc), fun distinct => ?_⟩
  · rw [run_result, hc, Except.bind, hlast]
    rfl
  · change last.summary.files = _
    exact Aggregator.files_addAll hlast distinct

/-- A workspace that holds one text. -/
def oneFile : Workspace := ⟨.folder [("a.c", .file "int a;".toUTF8)], []⟩

/-- Options with which no rules are read. -/
def ruleless (ignoredLanguages : List String) : Options :=
  { ignoredLanguages, keepVendored := true, checkAttributes := false, checkIgnored := false }

/-- The entry of the file where no rules are read. -/
def oneEntry : Entry := ⟨"a.c", "a.c", ⟨"", ["a.c"]⟩, {}⟩

/-- The entry of a file where no rules are read. -/
def named (name : String) : Entry := ⟨name, name, ⟨"", [name]⟩, {}⟩

/-- A source with a fault of its own for every label. -/
def faulty : SampleSource Unit := .ofAnswer fun _ => .error (.other "no sample")

theorem read_oneFile : oneFile.read oneEntry.path = .ok "int a;".toUTF8 := by cbv

theorem isBinary_oneFile (options : Options) :
    isBinary options oneEntry "int a;".toUTF8 = false := by
  have hextension : Files.hasBinaryExtension oneEntry.path = false := by cbv
  have hlooks : Files.looksBinary "int a;".toUTF8 = false := by cbv
  have hrules : oneEntry.rules.isBinary oneEntry.rel = false := rfl
  rw [isBinary, hextension, hlooks, hrules]
  simp

theorem resolveInputs_oneFile (catalog : Catalog) (names : List String) :
    (resolveInputs oneFile catalog (ruleless names) [oneEntry.path]).2 = .ok [oneEntry] := by
  cbv

/-- An analysis that takes up the one file, and finds nothing to choose there, has a result. -/
theorem oneFile_result (textual : catalog.Textual)
    (resolved : (resolveInputs oneFile (catalog.without options.ignoredLanguages) options paths).2 =
      .ok [oneEntry])
    (settled : isSettled (extraction (catalog.without options.ignoredLanguages) options oneEntry
      "int a;".toUTF8) = true) (source : SampleSource σ) (samples : σ) :
    ∃ summary, (run oneFile catalog options source paths samples).result = .ok summary := by
  obtain ⟨item, hsaid⟩ : ∃ item, ((classify oneFile (catalog.without options.ignoredLanguages) options
      source oneEntry).run { samples }).1.2 = .ok item :=
    ⟨_, by rw [classify_settled read_oneFile (isBinary_oneFile options) settled]⟩
  obtain ⟨summary, hresult, -⟩ := run_ok textual (classified_single resolved hsaid)
  exact ⟨summary, hresult⟩

end Analysis

end Polyglot
