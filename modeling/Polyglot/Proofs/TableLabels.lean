import Polyglot.Proofs.Accounts
import Polyglot.Proofs.Labels

namespace Polyglot

open Polyglot.Data (Ledger Scalar)
open Polyglot.Files (Workspace)
open Polyglot.Detection (FromTable fromTable_of_name labelOf_of_mem)

theorem Catalog.kept_of_without {catalog : Catalog} {names : List String} {language : Language}
    (h : language ∈ (catalog.without names).languages) :
    Text.lower language.name ∉ names.map Text.lower := by
  rw [Catalog.without] at h
  split at h
  · rename_i hnone
    rw [List.isEmpty_iff.mp hnone]
    simp
  · simpa [List.contains_iff_mem] using (List.mem_filter.mp h).2

namespace Analysis

variable {σ : Type} {ws : Workspace} {catalog : Catalog} {options : Options} {entry : Entry}
  {source : SampleSource σ} {session : Session σ} {paths : List Path} {samples : σ}

theorem classify_fromTable {item : Classified} {label : Label}
    (h : ((classify ws catalog options source entry).run session).1.2 = .ok item)
    (hl : item.label = some label) (override : item.signal ≠ .override) :
    FromTable catalog options label := by
  cases hr : ws.read entry.path with
  | error e =>
    rw [classify, hr] at h
    cases h
    cases hl
  | ok content =>
    cases hb : isBinary options entry content with
    | true =>
      rw [classify, hr] at h
      simp only [hb, ↓reduceIte] at h
      cases h
      cases hl
    | false =>
      have hdecided := classify_decided hr hb h
      rw [hl] at hdecided
      generalize item.signal = signal at hdecided override
      generalize hlabel : some label = decided at hdecided
      cases hdecided with
      | settled => exact extraction_fromTable override (List.mem_of_mem_head? hlabel.symm)
      | rule name hs able =>
        cases hlabel
        rw [Detection.eligible, Bool.and_eq_true] at able
        obtain ⟨language, hget⟩ := Option.isSome_iff_exists.mp able.1
        obtain ⟨hm, rfl⟩ := Catalog.get?_mem hget
        exact ⟨language, hm, rfl⟩
      | sample candidate hs hm =>
        cases hlabel
        exact extraction_fromTable (signal_ne_override hs) hm

theorem fromTable_cases {label : Label} (h : FromTable catalog options label) :
    (∃ language ∈ catalog.languages, label = .text language.name) ∨
      catalog.ofLabel? label = none ∧ options.childLanguages = false ∧
        ∃ language ∈ catalog.languages, language.group.truthy = true ∧ label = language.group := by
  obtain ⟨language, hm, rfl⟩ := h
  rw [labelOf_of_mem hm]
  split
  · exact .inl ⟨language, hm, rfl⟩
  · rename_i coarse
    rw [Language.coarse]
    split
    · rename_i htruthy
      cases ho : catalog.ofLabel? language.group with
      | none => exact .inr ⟨rfl, Bool.eq_false_iff.mpr coarse, language, hm, htruthy, rfl⟩
      | some group =>
        obtain ⟨he, hg⟩ := Aggregator.ofLabel?_eq_some ho
        exact .inl ⟨group, (Catalog.get?_mem hg).1, he⟩
    · exact .inl ⟨language, hm, rfl⟩

/-- The amount that is posted under a language of the table is the bytes of the files with its label. -/
theorem amount_eq_bytesOf {language : Language} (h : language ∈ catalog.languages)
    (retained : List Classified) :
    Ledger.amount (retained.filterMap (Aggregator.languagePosting? catalog)) language.name =
      Aggregator.bytesOf (retained.filter fun item => item.label == some (.text language.name)) := by
  induction retained with
  | nil => rfl
  | cons item rest ih =>
    by_cases hl : item.label = some (.text language.name)
    · have hposting : Aggregator.languagePosting? catalog item = some (language.name, item.size) := by
        simp [Aggregator.languagePosting?, Aggregator.languageFor, hl, Catalog.ofLabel?,
          Catalog.get?_of_mem h]
      rw [List.filterMap_cons_some hposting, List.filter_cons_of_pos (by simp [hl])]
      simp only [Ledger.amount, Aggregator.bytesOf] at ih ⊢
      simp [ih]
    · rw [List.filter_cons_of_neg (by simpa using hl), ← ih]
      cases hp : Aggregator.languagePosting? catalog item with
      | none => rw [List.filterMap_cons_none hp]
      | some posting =>
        obtain ⟨other, ho, rfl⟩ := Option.map_eq_some_iff.mp hp
        have hne : other.name ≠ language.name := by
          intro he
          exact hl (he ▸ (Aggregator.languageFor_eq_some ho).1)
        rw [List.filterMap_cons_some hp, Ledger.amount, Ledger.amount,
          List.filter_cons_of_neg (by simpa using hne)]

/-- The label of every file of a result is either the name of a language of the table that is not
ignored, and then its bytes are those of the files with this label, or the group of a language of the
table, and then the table does not hold the group. Only an override can name anything else. -/
theorem run_labels {summary : Summary}
    (h : (run ws catalog options source paths samples).result = .ok summary) :
    let known := catalog.without options.ignoredLanguages
    let retained := retained ws catalog options source paths samples
    ∀ item ∈ retained, summary.files.get? item.path = some item.label ∧
      ∀ label, item.label = some label → item.signal ≠ .override →
        (∃ language ∈ known.languages, label = .text language.name ∧
          Text.lower language.name ∉ options.ignoredLanguages.map Text.lower ∧
          ((summary.languages.get? language.name).map LanguageShare.bytes).getD 0 =
            Aggregator.bytesOf (retained.filter fun item => item.label == some label)) ∨
        known.ofLabel? label = none ∧ options.childLanguages = false ∧
          ∃ language ∈ known.languages, language.group.truthy = true ∧ label = language.group := by
  intro known retained item hm
  obtain ⟨items, last, hclassified, -, hcounts, rfl⟩ := run_eq_ok h
  have hsizes := classified_sizes hclassified
  have hsums := hcounts.sumsUp hsizes
  obtain ⟨entries, -, hall⟩ := classified_eq_ok hclassified
  have hretained : retained = Aggregator.retainedOf known options items := by
    simp only [retained, Analysis.retained, hclassified, known]
  rw [hretained] at hm ⊢
  refine ⟨?_, fun label hl override => ?_⟩
  · have hdistinct : ((Aggregator.retainedOf known options items).map Classified.path).Nodup :=
      (classified_distinct hclassified).sublist (List.filter_sublist.map _)
    rw [hsums.files]
    exact Aggregator.lastLabel?_of_nodup hdistinct hm
  · obtain ⟨entry, -, session, hsaid⟩ := classifyAll_mem hall (List.mem_filter.mp hm).1
    refine (fromTable_cases (classify_fromTable hsaid hl override)).imp ?_ id
    rintro ⟨language, hlanguage, rfl⟩
    refine ⟨language, hlanguage, rfl, Catalog.kept_of_without hlanguage, ?_⟩
    rw [← amount_eq_bytesOf hlanguage]
    exact hsums.language_bytes (fun item hi => hsizes item (List.mem_filter.mp hi).1) hlanguage

theorem grouped_classified : classified oneFile groupedCatalog (ruleless ["p"])
    (.ofAnswer fun _ => .ok none) [oneEntry.path] () = .ok [{
      path := "a.c"
      label := some (.text "P")
      size := ("int a;".toUTF8.size : Nat)
      signal := .heuristic }] :=
  classified_single (resolveInputs_oneFile _ ["p"]) (grouped_said _ _)

theorem grouped_run : (run oneFile groupedCatalog (ruleless ["p"]) (.ofAnswer fun _ => .ok none)
    [oneEntry.path] ()).result = .ok { files := [("a.c", some (.text "P"))] } := by
  rw [run_result, grouped_classified]
  cbv

/-- A group that is ignored still is what its members count as, and their bytes are counted nowhere. -/
theorem ignored_group_labels :
    ∃ (table : Catalog) (summary : Summary),
      (Catalog.ofTables grouped).2 = .ok table ∧
      (run oneFile table (ruleless ["p"]) (.ofAnswer fun _ => .ok none) [oneEntry.path] ()).result =
        .ok summary ∧
      (∃ item ∈ retained oneFile table (ruleless ["p"]) (.ofAnswer fun _ => .ok none)
        [oneEntry.path] (), item.signal = .heuristic ∧ item.label = some (.text "P")) ∧
      (table.without (ruleless ["p"]).ignoredLanguages).ofLabel? (.text "P") = none ∧
      summary.files = [("a.c", some (.text "P"))] ∧ summary.bytes = 0 := by
  refine ⟨groupedCatalog, _, grouped_made, grouped_run, ?_, by cbv, rfl, rfl⟩
  simp only [retained, grouped_classified]
  refine ⟨_, List.mem_filter.mpr ⟨List.mem_singleton.mpr rfl, ?_⟩, rfl, rfl⟩
  cbv

theorem run_labels_grouped :
    let known := groupedCatalog.without ["p"]
    let outcome := run oneFile groupedCatalog (ruleless ["p"]) (.ofAnswer fun _ => .ok none)
      [oneEntry.path] ()
    ∃ summary, outcome.result = .ok summary ∧
      ∀ item ∈ retained oneFile groupedCatalog (ruleless ["p"]) (.ofAnswer fun _ => .ok none)
        [oneEntry.path] (), summary.files.get? item.path = some item.label ∧
        ∀ label, item.label = some label → item.signal ≠ .override →
          (∃ language ∈ known.languages, label = .text language.name) ∨
            ∃ language ∈ known.languages, label = language.group := by
  intro known outcome
  refine ⟨_, grouped_run, fun item hm => ?_⟩
  obtain ⟨hlisted, hlabels⟩ := run_labels grouped_run item hm
  refine ⟨hlisted, fun label hl override => ?_⟩
  rcases hlabels label hl override with ⟨language, hlanguage, he, -⟩ | ⟨-, -, language, hlanguage, -, he⟩
  · exact .inl ⟨language, hlanguage, he⟩
  · exact .inr ⟨language, hlanguage, he⟩

end Analysis

end Polyglot
