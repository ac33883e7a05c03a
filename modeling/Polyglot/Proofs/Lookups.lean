import Polyglot.Proofs.Labels

namespace Polyglot

open Polyglot.Data (Scalar)

namespace Index

theorem get_addLanguage (keys : Language → List String) (index : Index) (language : Language)
    (key : String) :
    (addLanguage keys index language).get key =
      if (keys language).any (Text.lower · == key) = true ∧ language.name ∉ index.get key then
        index.get key ++ [language.name]
      else index.get key := by
  rw [addLanguage]
  induction keys language generalizing index with
  | nil => simp
  | cons first rest ih =>
    rw [List.foldl_cons, ih, get_add, List.any_cons]
    by_cases hk : key = Text.lower first
    · by_cases hn : language.name ∈ index.get (Text.lower first) <;> simp [hk, hn]
    · have hne : (Text.lower first == key) = false := by simpa using fun he => hk he.symm
      simp [hk, hne]

theorem get_ofLanguages (keys : Language → List String) {languages : List Language}
    (nodup : (languages.map Language.name).Nodup) (key : String) :
    (ofLanguages keys languages).get key =
      (languages.filter fun language => (keys language).any (Text.lower · == key)).map
        Language.name := by
  -- No language that is still to come is under the key by then, since their names are different.
  suffices hfold : ∀ (index : Index), (∀ language ∈ languages, language.name ∉ index.get key) →
      (languages.foldl (addLanguage keys) index).get key = index.get key ++
        (languages.filter fun language => (keys language).any (Text.lower · == key)).map
          Language.name from
    hfold [] fun _ _ => List.not_mem_nil
  induction languages with
  | nil => simp
  | cons language rest ih =>
    intro index fresh
    rw [List.map_cons, List.nodup_cons] at nodup
    have hname : language.name ∉ index.get key := fresh language (by simp)
    have hrest (other : Language) (hm : other ∈ rest) : other.name ≠ language.name :=
      fun he => nodup.1 (he ▸ List.mem_map_of_mem hm)
    rw [List.foldl_cons, ih nodup.2, get_addLanguage]
    · cases hk : (keys language).any (Text.lower · == key) <;> simp [hk, hname]
    · intro other hm
      have hother : other.name ∉ index.get key := fresh other (List.mem_cons_of_mem _ hm)
      rw [get_addLanguage]
      split
      · simp [hother, hrest other hm]
      · exact hother

end Index

namespace Detection

theorem mem_dotSuffixes {name ending : List Char} :
    ending ∈ dotSuffixes name ↔ ending.head? = some '.' ∧ ending <:+ name := by
  induction name with
  | nil =>
    rw [List.suffix_nil]
    constructor
    · intro h
      cases h
    · rintro ⟨hdot, rfl⟩
      cases hdot
  | cons c rest ih =>
    rw [List.suffix_cons_iff, dotSuffixes]
    by_cases hc : c = '.'
    · rw [if_pos hc, List.mem_cons, ih]
      constructor
      · rintro (rfl | ⟨hdot, hends⟩)
        · exact ⟨by simp [hc], .inl rfl⟩
        · exact ⟨hdot, .inr hends⟩
      · rintro ⟨hdot, rfl | hends⟩
        · exact .inl rfl
        · exact .inr ⟨hdot, hends⟩
    · rw [if_neg hc, ih]
      constructor
      · rintro ⟨hdot, hends⟩
        exact ⟨hdot, .inr hends⟩
      · rintro ⟨hdot, rfl | hends⟩
        · exact absurd (Option.some.inj hdot) hc
        · exact ⟨hdot, hends⟩

theorem Candidates.labels_foldl (candidates : Candidates) (labels : List Label) :
    (labels.foldl add candidates).labels = candidates.labels ++
      (labels.filter fun label => !candidates.contains label).eraseDupsBy Scalar.same := by
  induction labels generalizing candidates with
  | nil => simp [List.eraseDupsBy, List.eraseDupsBy.loop]
  | cons label rest ih =>
    rw [List.foldl_cons, ih, add]
    cases hc : candidates.contains label with
    | true => simp [hc]
    | false =>
      rw [if_neg (by simp), List.filter_cons_of_pos (by simp [hc]), List.eraseDupsBy_cons,
        List.filter_filter, List.append_assoc, List.singleton_append]
      congr 3
      refine List.filter_congr fun other _ => ?_
      simp [contains, Data.Scalar.same_comm, Bool.and_comm]

theorem Candidates.labels_ofList (labels : List Label) :
    (ofList labels).labels = labels.eraseDupsBy Scalar.same := by
  have hall : (labels.filter fun label => !empty.contains label) = labels :=
    List.filter_eq_self.mpr fun _ _ => rfl
  rw [ofList, labels_foldl, hall, labels_empty, List.nil_append]

theorem Candidates.ofList_concat (labels : List Label) (label : Label) :
    ofList (labels ++ [label]) = (ofList labels).add label := by
  rw [ofList, List.foldl_append]
  rfl

theorem Candidates.contains_ofList {labels : List Label} {label : Label} (h : label ∈ labels) :
    (ofList labels).contains label = true := by
  induction labels using List.reverseRecOn with
  | nil => cases h
  | append_singleton labels last ih =>
    rw [ofList_concat]
    rcases List.mem_append.mp h with hm | hm
    · obtain ⟨found, hf, hsame⟩ := List.any_eq_true.mp (ih hm)
      exact List.any_eq_true.mpr ⟨found, labels_subset_add _ last hf, hsame⟩
    · obtain rfl := List.mem_singleton.mp hm
      exact contains_add _ label

theorem Candidates.ofList_map_eraseDups (labelOf : String → Label) (names : List String) :
    ofList (names.eraseDups.map labelOf) = ofList (names.map labelOf) := by
  induction names using List.reverseRecOn with
  | nil => rfl
  | append_singleton names name ih =>
    rw [eraseDups_concat, List.map_append, List.map_singleton, ofList_concat, ← ih]
    split
    · rename_i hm
      have hlabel : labelOf name ∈ names.eraseDups.map labelOf :=
        List.mem_map_of_mem (List.mem_eraseDups.mpr hm)
      rw [add, if_pos (contains_ofList hlabel)]
    · rw [List.map_append, List.map_singleton, ofList_concat]

theorem Candidates.labels_ofList_text {names : List String} (distinct : names.Nodup) :
    (ofList (names.map .text)).labels = names.map .text := by
  induction names using List.reverseRecOn with
  | nil => rfl
  | append_singleton names name ih =>
    have hnew : name ∉ names := fun hm => List.disjoint_of_nodup_append distinct hm (by simp)
    have hrest := ih (List.nodup_append.mp distinct).1
    have hlabel : ¬ (ofList (names.map .text)).contains (.text name) = true := by
      rw [contains_text, hrest]
      simpa using hnew
    rw [List.map_append, List.map_singleton, ofList_concat, add, if_neg hlabel, hrest]

section
variable (catalog : Catalog) (options : Options)

/-- The languages of the table, in its order, that declare something whose lower-case form passes a
test. -/
def declaring (declared : Language → List String) (test : String → Bool) : List Language :=
  catalog.languages.filter fun language => (declared language).any fun text => test (Text.lower text)

/-- Whether a name ends in a text that starts with a dot. -/
def endsIn (name ending : String) : Bool :=
  ending.toList.head? == some '.' && ending.toList.isSuffixOf name.toList

/-- What languages count as, each once: themselves, or their groups where they have one. -/
def counting (languages : List Language) : Candidates where
  labels := (languages.map fun language =>
    if options.childLanguages then .text language.name else language.coarse).eraseDupsBy Scalar.same

/-- The languages with the name of a path among their filenames. -/
def namedAs (path : String) : List Language :=
  declaring catalog Language.filenames (· == Text.lower (Path.ofText path).name)

/-- The languages with an extension in which the name of a path ends. -/
def endingAs (path : String) : List Language :=
  declaring catalog Language.extensions (endsIn (Text.lower (Path.ofText path).name))

/-- The candidates that a scan of the table finds for a path. -/
def scanned (path : String) : Extraction :=
  match namedAs catalog path, endingAs catalog path with
  | [], [] => ⟨.empty, .none⟩
  | [], ending => ⟨counting options ending, .extension⟩
  | named, _ => ⟨counting options named, .filename⟩

end

variable {catalog : Catalog} {options : Options}

theorem collected {languages : List Language} (table : languages ⊆ catalog.languages) :
    Candidates.ofList ((languages.map Language.name).map (labelOf catalog options)) =
      counting options languages := by
  have hlabels : (languages.map Language.name).map (labelOf catalog options) =
      languages.map fun language =>
        if options.childLanguages then .text language.name else language.coarse := by
    rw [List.map_map]
    exact List.map_congr_left fun language hm => labelOf_of_mem (table hm)
  have hset := Candidates.labels_ofList
    ((languages.map Language.name).map (labelOf catalog options))
  rw [hlabels] at hset ⊢
  exact congrArg Candidates.mk hset

theorem filenameIndex_get (catalog : Catalog) (path : String) :
    catalog.filenameIndex.get (Text.lower (Path.ofText path).name) =
      (namedAs catalog path).map Language.name := by
  rw [catalog.filenameIndex_eq, Index.get_ofLanguages _ catalog.names_nodup]
  rfl

/-- A language is found by some ending of a name if it has an extension in which the name ends. -/
theorem mem_found {name : String} {language : Language} (h : language ∈ catalog.languages) :
    language.name ∈ (dotSuffixes name.toList).flatMap (fun ending =>
        catalog.extensionIndex.get (String.ofList ending)) ↔
      language.extensions.any (fun text => endsIn name (Text.lower text)) = true := by
  have hkeys (key : String) : language.name ∈ catalog.extensionIndex.get key ↔
      language.extensions.any (Text.lower · == key) = true := by
    rw [catalog.extensionIndex_eq, Index.get_ofLanguages _ catalog.names_nodup, List.mem_map]
    constructor
    · rintro ⟨other, hm, hname⟩
      obtain ⟨ho, hdeclares⟩ := List.mem_filter.mp hm
      have hsame := Catalog.get?_of_mem ho
      rw [hname, Catalog.get?_of_mem h] at hsame
      rw [Option.some.inj hsame]
      exact hdeclares
    · exact fun hdeclares => ⟨language, List.mem_filter.mpr ⟨h, hdeclares⟩, rfl⟩
  simp only [List.mem_flatMap, mem_dotSuffixes, hkeys, List.any_eq_true, endsIn, Bool.and_eq_true,
    beq_iff_eq, List.isSuffixOf_iff_suffix]
  constructor
  · rintro ⟨ending, ⟨hdot, hends⟩, text, hm, hending⟩
    rw [← String.toList_ofList (l := ending), ← hending] at hdot hends
    exact ⟨text, hm, hdot, hends⟩
  · rintro ⟨text, hm, hdot, hends⟩
    exact ⟨(Text.lower text).toList, ⟨hdot, hends⟩, text, hm, by simp⟩

theorem byExtension_eq (catalog : Catalog) (name : String) :
    byExtension catalog name =
      (declaring catalog Language.extensions (endsIn name)).map Language.name := by
  rw [byExtension, declaring, List.filter_map]
  refine congrArg (List.map Language.name) (List.filter_congr fun language hm => ?_)
  rw [Bool.eq_iff_iff, Function.comp_apply, List.contains_iff_mem]
  exact mem_found hm

/-- Where neither a shebang nor an override decides, the candidates for a path are those of a plain
scan of the table, and there are none if and only if no language has the filename or an extension. -/
theorem extract_scanned (catalog : Catalog) (options : Options) (path : String)
    {firstLine override : Option String}
    (shebang : options.checkShebang = true → firstLine.bind (shebang? catalog) = none)
    (override_none : options.checkAttributes = true → override.filter (· != "") = none) :
    let found := extract catalog options path firstLine override
    found = scanned catalog options path ∧
      (found.candidates.labels = [] ↔ found.signal = .none) ∧
      (found.signal = .none ↔ namedAs catalog path = [] ∧ endingAs catalog path = []) := by
  intro found
  have hinterpreter : (if options.checkShebang then firstLine.bind (shebang? catalog) else none) =
      none := by
    split
    · rename_i hc
      exact shebang hc
    · rfl
  have hforced : (if options.checkAttributes then override.filter (· != "") else none) = none := by
    split
    · rename_i hc
      exact override_none hc
    · rfl
  have hfound : found = scanned catalog options path := by
    have hnamed : namedAs catalog path ⊆ catalog.languages := List.filter_subset_self _
    have hending : endingAs catalog path ⊆ catalog.languages := List.filter_subset_self _
    have hextension : byExtension catalog (Text.lower (Path.ofText path).name) =
        (endingAs catalog path).map Language.name := byExtension_eq catalog _
    simp only [found, extract, hinterpreter, hforced, filenameIndex_get, hextension, scanned]
    cases hn : namedAs catalog path with
    | cons language others => exact congrArg (Extraction.mk · .filename) (collected (hn ▸ hnamed))
    | nil =>
      cases he : endingAs catalog path with
      | cons language others => exact congrArg (Extraction.mk · .extension) (collected (he ▸ hending))
      | nil => rfl
  have hcounting (language : Language) (others : List Language) :
      (counting options (language :: others)).labels ≠ [] := by
    rw [counting, List.map_cons, List.eraseDupsBy_cons]
    exact List.cons_ne_nil _ _
  rw [hfound, scanned]
  refine ⟨rfl, ?_⟩
  cases hn : namedAs catalog path with
  | cons language others => simp [hcounting]
  | nil => cases he : endingAs catalog path <;> simp [hcounting]

/-- Archives, of which two count as one group, and notes. -/
def archives : Catalog := .ofLanguages [
  { name := "Tar", category := .data, group := .text "Archive", extensions := [".TAR.gz", ".tar"] },
  { name := "Notes", category := .prose, filenames := ["TODO"], extensions := [".gz", "z"] },
  { name := "Gzip", category := .data, group := .text "Archive", extensions := [".tgz", ".GZ", ".gz"] }]
  (by decide) "inline" [] [] []

/-- A first line that names no interpreter and an empty override leave it to the extensions. -/
theorem extract_scanned_archives :
    extract archives {} "x/.a.Tar.GZ" (some "#!sh") (some "") =
        ⟨⟨[.text "Archive", .text "Notes"]⟩, .extension⟩ ∧
      extract archives {} "x/ToDo" (some "#!sh") (some "") = ⟨⟨[.text "Notes"]⟩, .filename⟩ ∧
      extract archives {} "x/gz" (some "#!sh") (some "") = ⟨.empty, .none⟩ := by
  have hscan (path : String) : extract archives {} path (some "#!sh") (some "") =
      scanned archives {} path :=
    (extract_scanned archives {} path (fun _ => by cbv) (fun _ => by decide)).1
  rw [hscan, hscan, hscan]
  exact ⟨by cbv, by cbv, by cbv⟩

theorem extract_found (catalog : Catalog) (options : Options) (path : String)
    (firstLine override : Option String) :
    ∃ (names : List String) (signal : Signal), ∀ childLanguages,
      extract catalog { options with childLanguages } path firstLine override =
        ⟨.ofList (names.map (labelOf catalog { options with childLanguages })), signal⟩ := by
  cases hinterpreter : if options.checkShebang then firstLine.bind (shebang? catalog) else none with
  | some language =>
    refine ⟨[language], .shebang, fun _ => ?_⟩
    simp only [extract, hinterpreter]
  | none =>
    cases hforced : if options.checkAttributes then override.filter (· != "") else none with
    | some language =>
      refine ⟨[language], .override, fun _ => ?_⟩
      simp only [extract, hinterpreter, hforced]
    | none =>
      cases hnamed : catalog.filenameIndex.get (Text.lower (Path.ofText path).name) with
      | cons language others =>
        refine ⟨language :: others, .filename, fun _ => ?_⟩
        simp only [extract, hinterpreter, hforced, hnamed]
      | nil =>
        cases hending : byExtension catalog (Text.lower (Path.ofText path).name) with
        | cons language others =>
          refine ⟨language :: others, .extension, fun _ => ?_⟩
          simp only [extract, hinterpreter, hforced, hnamed, hending]
        | nil =>
          refine ⟨[], .none, fun _ => ?_⟩
          simp only [extract, hinterpreter, hforced, hnamed, hending]
          rfl

/-- Candidates that count as their groups are the candidates that count as themselves, each taken to
its group and each group kept once. The signal stays the same. -/
theorem extract_coarsened (catalog : Catalog) (options : Options) (path : String)
    (firstLine override : Option String) :
    let fine := extract catalog { options with childLanguages := true } path firstLine override
    let coarse := extract catalog { options with childLanguages := false } path firstLine override
    ∃ names : List String, fine.candidates.labels = names.map .text ∧
      coarse.candidates.labels = (names.map catalog.coarsen).eraseDupsBy Scalar.same ∧
      coarse.signal = fine.signal ∧ coarse.terminal = fine.terminal := by
  intro fine coarse
  obtain ⟨names, signal, hfound⟩ := extract_found catalog options path firstLine override
  have hfine : fine = ⟨.ofList (names.map .text), signal⟩ := hfound true
  have hcoarse : coarse = ⟨.ofList (names.map catalog.coarsen), signal⟩ := hfound false
  refine ⟨names.eraseDups, ?_, ?_, ?_, ?_⟩
  · rw [hfine, ← Candidates.ofList_map_eraseDups]
    exact Candidates.labels_ofList_text (nodup_eraseDups names)
  · rw [hcoarse, ← Candidates.ofList_map_eraseDups]
    exact Candidates.labels_ofList _
  · rw [hfine, hcoarse]
  · rw [hfine, hcoarse, Extraction.terminal, Extraction.terminal]

end Detection

end Polyglot
