import Polyglot.Proofs.Accounts
import Polyglot.Proofs.CategoryBlind

namespace Polyglot

open Polyglot.Data (Ledger)
open Polyglot.Data.Ledger (sumOf)
open Polyglot.Files (Workspace)

namespace Aggregator

section
variable (catalog : Catalog) (categories : List Category)

/-- Whether a label is none of a language of another category. -/
def inCategories (label : Option Label) : Bool :=
  (label.bind catalog.ofLabel?).all fun language => categories.contains language.category

/-- Whether a name is none of a language of another category. -/
def namesCategory (name : String) : Bool :=
  (catalog.get? name).all fun language => categories.contains language.category

end

variable {catalog : Catalog} {options : Options} {first : Category} {others : List Category}

/-- Of the files that are retained without categories, those are retained that are in one of them. -/
theorem retains_only (item : Classified) :
    retains catalog (options.only (some (first :: others))) item =
      (retains catalog (options.only none) item &&
        inCategories catalog (first :: others) item.label) := by
  have hlanguage : item.label.bind catalog.ofLabel? = languageFor catalog item := rfl
  have hnone (language : Language) : filters (options.only none) language = false := rfl
  have hsome (language : Language) : filters (options.only (some (first :: others))) language =
      !(first :: others).contains language.category := rfl
  rw [retains, retains, inCategories, hlanguage]
  cases languageFor catalog item with
  | none => simp
  | some language => simp [hnone, hsome]

theorem retainedOf_only (items : List Classified) :
    retainedOf catalog (options.only (some (first :: others))) items =
      (retainedOf catalog (options.only none) items).filter fun item =>
        inCategories catalog (first :: others) item.label := by
  rw [retainedOf, retainedOf, List.filter_filter]
  refine List.filter_congr fun item _ => ?_
  rw [retains_only, Bool.and_comm]

/-- A summary is another one without the languages of some names. -/
structure Narrows (keeps : String → Bool) (whole part : Summary) : Prop where
  languages : part.languages = whole.languages.filter fun entry => keeps entry.1
  extensions : part.extensions = whole.extensions
  filenames : part.filenames = whole.filenames

variable {keeps : String → Bool} {whole part : Summary} {item : Classified}

theorem shareOf_only (categories : Option (List Category)) (language : Language) (bytes : Int) :
    shareOf (options.only categories) language bytes = shareOf options language bytes := rfl

theorem Narrows.add (h : Narrows keeps whole part) {categories categories' : Option (List Category)}
    (kept : ∀ language, languageFor catalog item = some language → keeps language.name = true) :
    Narrows keeps (addRetained catalog (options.only categories) item whole)
      (addRetained catalog (options.only categories') item part) := by
  unfold addRetained
  cases hf : languageFor catalog item with
  | none =>
    cases item.label with
    | some label => exact ⟨h.languages, h.extensions, h.filenames⟩
    | none =>
      simp only [addUnknown]
      split
      · exact ⟨h.languages, h.extensions, by simp only [h.filenames]⟩
      · exact ⟨h.languages, by simp only [h.extensions], h.filenames⟩
  | some language =>
    have hk := kept language hf
    refine ⟨?_, h.extensions, h.filenames⟩
    simp only [addLanguage, shareOf_only]
    rw [Ledger.filter_put, if_pos hk, h.languages, Ledger.get?_filter_keys _ hk]

theorem Narrows.skip (h : Narrows keeps whole part) {language : Language}
    (hf : languageFor catalog item = some language) (left : keeps language.name = false) :
    Narrows keeps (addRetained catalog options item whole) part := by
  unfold addRetained
  rw [hf]
  refine ⟨?_, h.extensions, h.filenames⟩
  simp only [addLanguage]
  rw [Ledger.filter_put, if_neg (by simp [left]), h.languages]

theorem summary_addAll {aggregator last : Aggregator} {items : List Classified}
    (ok : (aggregator.addAll items).2 = .ok last) :
    last.summary = (retainedOf aggregator.catalog aggregator.options items).foldl
      (fun summary item => addRetained aggregator.catalog aggregator.options item summary)
      aggregator.summary := by
  induction items generalizing aggregator with
  | nil =>
    cases ok
    rfl
  | cons item rest ih =>
    obtain ⟨answer, hitem, hrest⟩ := addAll_cons_eq_ok_iff.mp ok
    rw [ih hrest]
    cases hr : retains aggregator.catalog aggregator.options item with
    | false => simp [retainedOf, add_dropped hr, hr]
    | true => simp [retainedOf, add_retained hr hitem, hr]

theorem namesCategory_eq {categories : List Category} {language : Language}
    (hf : languageFor catalog item = some language) :
    namesCategory catalog categories language.name = inCategories catalog categories item.label := by
  have hlabel : item.label.bind catalog.ofLabel? = some language := hf
  rw [namesCategory, inCategories, hlabel, (languageFor_eq_some hf).2]

/-- Counting files and counting those of some categories among them ends in sums that differ in the
languages of the other categories. -/
theorem Narrows.foldl {categories : List Category} {before after : Option (List Category)}
    (items : List Classified) (h : Narrows (namesCategory catalog categories) whole part) :
    Narrows (namesCategory catalog categories)
      (items.foldl (fun summary item => addRetained catalog (options.only before) item summary) whole)
      ((items.filter fun item => inCategories catalog categories item.label).foldl
        (fun summary item => addRetained catalog (options.only after) item summary) part) := by
  induction items generalizing whole part with
  | nil => exact h
  | cons item rest ih =>
    rw [List.foldl_cons]
    cases hk : inCategories catalog categories item.label with
    | true =>
      rw [List.filter_cons_of_pos (by simpa using hk), List.foldl_cons]
      exact ih (h.add fun language hf => (namesCategory_eq hf).trans hk)
    | false =>
      rw [List.filter_cons_of_neg (by simp [hk])]
      obtain ⟨language, hf⟩ : ∃ language, languageFor catalog item = some language := by
        cases hf : languageFor catalog item with
        | some language => exact ⟨language, rfl⟩
        | none =>
          have hlabel : item.label.bind catalog.ofLabel? = none := hf
          rw [inCategories, hlabel] at hk
          cases hk
      exact ih (h.skip hf ((namesCategory_eq hf).trans hk))

/-- A result is the one of some files, without the files and the languages of other categories. -/
structure Restricts (catalog : Catalog) (categories : List Category) (retained : List Classified)
    (whole part : Summary) : Prop where
  files : part.files = whole.files.filter fun entry => inCategories catalog categories entry.2
  languages : part.languages =
    whole.languages.filter fun entry => categories.contains entry.2.category
  extensions : part.extensions = whole.extensions
  filenames : part.filenames = whole.filenames
  unknownBytes : part.unknownBytes = whole.unknownBytes
  fileCount : part.fileCount +
    (whole.files.filter fun entry => !inCategories catalog categories entry.2).length = whole.fileCount
  languageCount : part.languageCount +
    (whole.languages.filter fun entry => !categories.contains entry.2.category).length =
      whole.languageCount
  /-- The files that are left out have the bytes of the languages that are left out. -/
  removed : bytesOf (retained.filter fun item => !inCategories catalog categories item.label) =
    sumOf LanguageShare.bytes
      (whole.languages.filter fun entry => !categories.contains entry.2.category)
  languageBytes : part.languageBytes +
    bytesOf (retained.filter fun item => !inCategories catalog categories item.label) =
      whole.languageBytes
  bytes : part.bytes +
    bytesOf (retained.filter fun item => !inCategories catalog categories item.label) = whole.bytes

theorem Shares.namesCategory_eq {ledger : Ledger LanguageShare} {postings : List (String × Int)}
    (h : Shares catalog options ledger postings) (categories : List Category)
    {entry : String × LanguageShare} (hm : entry ∈ ledger) :
    namesCategory catalog categories entry.1 = categories.contains entry.2.category := by
  obtain ⟨name, share⟩ := entry
  obtain ⟨language, hg, rfl⟩ := h.share name share ((Ledger.get?_eq_some_iff h.nodup).mpr hm)
  rw [namesCategory, hg]
  rfl

theorem not_isStranger_of_not_inCategories {categories : List Category}
    (h : inCategories catalog categories item.label = false) : isStranger catalog item = false := by
  have hlanguage : item.label.bind catalog.ofLabel? = languageFor catalog item := rfl
  rw [inCategories, hlanguage] at h
  cases hf : languageFor catalog item with
  | none => simp [hf] at h
  | some language => simp [isStranger, hf]

theorem labelsOf_filter (keeps : Option Label → Bool) (items : List Classified) :
    labelsOf (items.filter fun item => keeps item.label) =
      (labelsOf items).filter fun entry => keeps entry.2 := by
  rw [labelsOf, labelsOf, List.filter_map]
  rfl

theorem bytesOf_counted_filter (categories : List Category) (items : List Classified) :
    bytesOf ((items.filter fun item => inCategories catalog categories item.label).filter fun item =>
        !isStranger catalog item) +
      bytesOf (items.filter fun item => !inCategories catalog categories item.label) =
      bytesOf (items.filter fun item => !isStranger catalog item) := by
  rw [Analysis.bytesOf_filter (fun item => inCategories catalog categories item.label)
      (items.filter fun item => !isStranger catalog item), List.filter_filter, List.filter_filter,
    List.filter_filter]
  have hothers : (items.filter fun item =>
      !inCategories catalog categories item.label && !isStranger catalog item) =
      items.filter fun item => !inCategories catalog categories item.label := by
    refine List.filter_congr fun item _ => ?_
    cases hk : inCategories catalog categories item.label with
    | true => rfl
    | false => simp [not_isStranger_of_not_inCategories hk]
  rw [hothers]
  simp only [Bool.and_comm]

/-- Files that are added up without categories and with some of them leave a result and one that
restricts it. -/
theorem addAll_restricts {items : List Classified} {all kept : Aggregator}
    (hall : (Aggregator.addAll { catalog, options := options.only none } items).2 = .ok all)
    (hkept : (Aggregator.addAll { catalog, options := options.only (some (first :: others)) }
      items).2 = .ok kept)
    (sizes : ∀ item ∈ items, 0 ≤ item.size)
    (distinct : ((retainedOf catalog (options.only none) items).map Classified.path).Nodup) :
    Restricts catalog (first :: others) (retainedOf catalog (options.only none) items)
      all.result kept.result := by
  have hwhole : Counts catalog (options.only none) items all := ((Counts.start _ _).addAll hall).1
  have hpart : Counts catalog (options.only (some (first :: others))) items kept :=
    ((Counts.start _ _).addAll hkept).1
  have hwholeSums := hwhole.sumsUp sizes
  have hpartSums := hpart.sumsUp sizes
  have hnarrows : Narrows (namesCategory catalog (first :: others)) all.summary kept.summary := by
    rw [summary_addAll hall, summary_addAll hkept, retainedOf_only]
    exact Narrows.foldl _ ⟨rfl, rfl, rfl⟩
  have hfiles : kept.result.files =
      all.result.files.filter fun entry => inCategories catalog (first :: others) entry.2 := by
    have hdistinct : ((retainedOf catalog (options.only (some (first :: others))) items).map
        Classified.path).Nodup := by
      rw [retainedOf_only]
      exact distinct.sublist (List.filter_sublist.map Classified.path)
    change kept.summary.files = all.summary.files.filter _
    rw [files_addAll hkept hdistinct, files_addAll hall distinct, retainedOf_only, labelsOf_filter]
  have hlanguages : kept.result.languages =
      all.result.languages.filter fun entry => (first :: others).contains entry.2.category := by
    change kept.summary.languages.filter _ = (all.summary.languages.filter _).filter _
    rw [hnarrows.languages, List.filter_filter, List.filter_filter]
    refine List.filter_congr fun entry hm => ?_
    rw [hwhole.covers.shares.namesCategory_eq _ hm, Bool.and_comm]
  have hunknown : kept.result.unknownBytes = all.result.unknownBytes := by
    rw [hpartSums.unknownBytes, hwholeSums.unknownBytes]
    change sumOf id kept.summary.extensions + sumOf id kept.summary.filenames = _
    rw [hnarrows.extensions, hnarrows.filenames]
    rfl
  have hlanguageBytes : kept.result.languageBytes + sumOf LanguageShare.bytes
      (all.result.languages.filter fun entry => !(first :: others).contains entry.2.category) =
        all.result.languageBytes := by
    rw [hpartSums.languageBytes, hwholeSums.languageBytes, hlanguages, Ledger.sumOf_filter_add]
  have hbytes : kept.result.bytes + bytesOf ((retainedOf catalog (options.only none) items).filter
      fun item => !inCategories catalog (first :: others) item.label) = all.result.bytes := by
    change kept.summary.bytes + _ = all.summary.bytes
    rw [hpart.covers.counted, hwhole.covers.counted, retainedOf_only, bytesOf_counted_filter]
  -- The totals are what languages have and what has no language, and of that nothing is left out.
  have hremoved : bytesOf ((retainedOf catalog (options.only none) items).filter
      fun item => !inCategories catalog (first :: others) item.label) =
        sumOf LanguageShare.bytes
          (all.result.languages.filter fun entry => !(first :: others).contains entry.2.category) := by
    have hwholeBytes := hwholeSums.bytes
    have hpartBytes := hpartSums.bytes
    omega
  refine ⟨hfiles, hlanguages, hnarrows.extensions, hnarrows.filenames, hunknown, ?_, ?_, hremoved, ?_,
    hbytes⟩
  · rw [Summary.fileCount, Summary.fileCount, hfiles, ← List.length_eq_length_filter_add]
  · rw [Summary.languageCount, Summary.languageCount, hlanguages, ← List.length_eq_length_filter_add]
  · rw [hremoved, hlanguageBytes]

end Aggregator

namespace Analysis

variable {σ : Type} {catalog : Catalog} {source : SampleSource σ}
  {answer : Label → Except SampleFault (Option String)}

/-- Only the categories decide which classified files are retained, so an analysis that keeps some of
them restricts the one that keeps all, and fails where that one fails. -/
theorem run_categories (textual : catalog.Textual) (answers : source.Answers answer) (ws : Workspace)
    (options : Options) (first : Category) (others : List Category) (paths : List Path)
    (samples samples' : σ) :
    let known := catalog.without options.ignoredLanguages
    let before := retained ws catalog (options.only none) source paths samples
    match (run ws catalog (options.only none) source paths samples).result,
      (run ws catalog (options.only (some (first :: others))) source paths samples').result with
    | .ok whole, .ok part => Aggregator.Restricts known (first :: others) before whole part
    | .error error, .error error' => error = error'
    | _, _ => False := by
  intro known before
  have hsame : classified ws catalog (options.only (some (first :: others))) source paths samples' =
      classified ws catalog (options.only none) source paths samples :=
    (classified_only _ _ _ _ answers _ _ samples).trans (classified_only _ _ _ _ answers _ _ _).symm
  cases hc : classified ws catalog (options.only none) source paths samples with
  | error error =>
    rw [run_error hc, run_error (hsame.trans hc)]
  | ok items =>
    obtain ⟨whole, hwhole, -⟩ := run_ok textual hc
    obtain ⟨part, hpart, -⟩ := run_ok textual (hsame.trans hc)
    obtain ⟨itemsBefore, all, hbefore, hall, -, rfl⟩ := run_eq_ok hwhole
    obtain ⟨itemsAfter, kept, hafter, hkept, -, rfl⟩ := run_eq_ok hpart
    obtain rfl := Except.ok.inj (hbefore.symm.trans hc)
    obtain rfl := Except.ok.inj (hafter.symm.trans (hsame.trans hc))
    have hretained : before = Aggregator.retainedOf known (options.only none) itemsAfter := retained_eq hc
    rw [hwhole, hpart, hretained]
    refine Aggregator.addAll_restricts hall hkept (classified_sizes hc) ?_
    exact hretained ▸ retained_distinct

theorem run_categories_mixed :
    let options := mixedOptions false none
    let only := options.only (some [.programming])
    let source := SampleSource.ofAnswer fun _ => .ok none
    mixedCatalog.Textual ∧ source.Answers (fun _ => .ok none) ∧ ∃ whole part,
      (run mixedFiles mixedCatalog (options.only none) source [⟨"", []⟩] ()).result = .ok whole ∧
      (run mixedFiles mixedCatalog only source [⟨"", []⟩] ()).result = .ok part ∧
      whole.files = [("a.c", some (.text "C")), ("notes", none), ("read.md", some (.text "Markdown"))] ∧
      part.files = [("a.c", some (.text "C")), ("notes", none)] ∧
      Aggregator.Restricts (mixedCatalog.without []) [.programming]
        (retained mixedFiles mixedCatalog (options.only none) source [⟨"", []⟩] ()) whole part := by
  intro options only source
  have answers : source.Answers fun _ => .ok none := SampleSource.ofAnswer_answers _
  have hall : classified mixedFiles mixedCatalog (options.only none) source [⟨"", []⟩] () = .ok _ :=
    mixed_binary answers ()
  have hsome : classified mixedFiles mixedCatalog only source [⟨"", []⟩] () = .ok _ :=
    mixed_binary answers ()
  obtain ⟨whole, hwhole, -, hfiles⟩ := run_ok mixedCatalog_textual hall
  obtain ⟨part, hpart, -, hfiles'⟩ := run_ok mixedCatalog_textual hsome
  rw [retained_eq hall] at hfiles
  rw [retained_eq hsome] at hfiles'
  have h := run_categories mixedCatalog_textual answers mixedFiles options .programming [] [⟨"", []⟩] () ()
  simp only [hwhole, only, hpart] at h
  exact ⟨mixedCatalog_textual, answers, whole, part, hwhole, hpart, hfiles (by decide), hfiles' (by decide), h⟩

end Analysis

end Polyglot
