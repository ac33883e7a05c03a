import Polyglot.Proofs.Lookups

namespace Polyglot

namespace Index

theorem mem_keys_add {index : Index} {key name other : String} :
    other ∈ (index.add key name).map Prod.fst ↔ other = key ∨ other ∈ index.map Prod.fst := by
  induction index with
  | nil => simp [add]
  | cons entry rest ih =>
    obtain ⟨k, names⟩ := entry
    by_cases hk : k = key
    · subst hk
      simp [add]
    · rw [add, if_neg hk, List.map_cons, List.mem_cons, ih, List.map_cons, List.mem_cons]
      tauto

/-- Every key of an index has names. -/
def Inhabited (index : Index) : Prop := ∀ key, key ∈ index.map Prod.fst ↔ index.get key ≠ []

theorem Inhabited.add {index : Index} (h : index.Inhabited) (key name : String) :
    (index.add key name).Inhabited := by
  intro other
  rw [mem_keys_add, h other, get_add]
  by_cases ho : other = key
  · subst ho
    by_cases hn : name ∈ index.get other
    · simp [hn, List.ne_nil_of_mem hn]
    · simp [hn]
  · simp [ho]

theorem Inhabited.addLanguage (keys : Language → List String) {index : Index} (h : index.Inhabited)
    (language : Language) : (index.addLanguage keys language).Inhabited := by
  rw [Index.addLanguage]
  induction keys language generalizing index with
  | nil => exact h
  | cons key rest ih => exact ih (h.add _ _)

theorem inhabited_ofLanguages (keys : Language → List String) (languages : List Language) :
    (ofLanguages keys languages).Inhabited := by
  rw [ofLanguages]
  suffices hfold : ∀ index : Index, index.Inhabited →
      (languages.foldl (Index.addLanguage keys) index).Inhabited from
    hfold [] (by simp [Inhabited, get])
  induction languages with
  | nil => exact fun _ h => h
  | cons language rest ih => exact fun index h => ih _ (h.addLanguage keys language)

end Index

/-- Whether a name stays when others are taken out: it is none of them in lower case. -/
def stays (names : List String) (name : String) : Bool :=
  !(names.map Text.lower).contains (Text.lower name)

theorem stays_append (names others : List String) (name : String) :
    stays (names ++ others) name = (stays names name && stays others name) := by
  simp [stays, List.contains_eq_mem]

/-- A language has an alias, in whatever case. -/
def Language.HasAlias (language : Language) (name : String) : Prop :=
  ∃ known ∈ language.aliases, Text.lower known = Text.lower name

/-- What a name that no language has stands for: the first language with the alias, or itself. -/
inductive StandsFor (languages : List Language) (name : String) : String → Prop where
  | language {front behind : List Language} {language : Language}
      (row : languages = front ++ language :: behind) (has : language.HasAlias name)
      (first : ∀ other ∈ front, ¬ other.HasAlias name) : StandsFor languages name language.name
  | itself (none : ∀ language ∈ languages, ¬ language.HasAlias name) : StandsFor languages name name

namespace Catalog

/-- What is left of a catalog without the languages of some names. -/
structure LeftOf (catalog : Catalog) (names : List String) (left : Catalog) : Prop where
  languages : left.languages = catalog.languages.filter fun language => stays names language.name
  filenames : ∀ key, left.filenameIndex.get key = (catalog.filenameIndex.get key).filter (stays names)
  extensions : ∀ key,
    left.extensionIndex.get key = (catalog.extensionIndex.get key).filter (stays names)
  /-- A key is in an index as long as a language under it is left. -/
  inhabited : left.filenameIndex.Inhabited ∧ left.extensionIndex.Inhabited
  interpreters : left.interpreterIndex =
    catalog.interpreterIndex.filter fun entry => stays names entry.1
  aliases : ∀ name, (∀ language ∈ left.languages, language.name ≠ name) →
    StandsFor left.languages name (left.resolveAlias name)
  vendor : left.vendor = catalog.vendor
  generated : left.generated = catalog.generated
  disambiguations : left.disambiguations = catalog.disambiguations
  source : left.source = catalog.source

theorem eq_of_tables {catalog other : Catalog} (languages : catalog.languages = other.languages)
    (vendor : catalog.vendor = other.vendor) (generated : catalog.generated = other.generated)
    (disambiguations : catalog.disambiguations = other.disambiguations)
    (source : catalog.source = other.source) : catalog = other := by
  obtain ⟨_, _, _, _, _, _, _, _, rfl, rfl⟩ := catalog
  obtain ⟨_, _, _, _, _, _, _, _, rfl, rfl⟩ := other
  cases languages
  cases vendor
  cases generated
  cases disambiguations
  cases source
  rfl

theorem languages_without (catalog : Catalog) (names : List String) :
    (catalog.without names).languages =
      catalog.languages.filter fun language => stays names language.name := by
  rw [without]
  split
  · rename_i hnone
    rw [List.isEmpty_iff.mp hnone]
    exact (List.filter_eq_self.mpr fun _ _ => rfl).symm
  · rfl

theorem eq_without {catalog left : Catalog} {names : List String}
    (languages : left.languages = catalog.languages.filter fun language => stays names language.name)
    (rest : left.vendor = catalog.vendor ∧ left.generated = catalog.generated ∧
      left.disambiguations = catalog.disambiguations ∧ left.source = catalog.source) :
    left = catalog.without names := by
  obtain ⟨vendor, generated, disambiguations, source⟩ := rest
  obtain ⟨vendor', generated', disambiguations', source'⟩ := catalog.without_rest names
  exact eq_of_tables (languages.trans (catalog.languages_without names).symm)
    (vendor.trans vendor'.symm) (generated.trans generated'.symm)
    (disambiguations.trans disambiguations'.symm) (source.trans source'.symm)

theorem without_without (catalog : Catalog) (names others : List String) :
    (catalog.without names).without others = catalog.without (names ++ others) := by
  obtain ⟨vendor, generated, disambiguations, source⟩ := catalog.without_rest names
  obtain ⟨vendor', generated', disambiguations', source'⟩ := (catalog.without names).without_rest others
  refine eq_without ?_ ⟨vendor'.trans vendor, generated'.trans generated,
    disambiguations'.trans disambiguations, source'.trans source⟩
  rw [languages_without, languages_without, List.filter_filter]
  exact List.filter_congr fun language _ => by rw [stays_append, Bool.and_comm]

theorem without_swap (catalog : Catalog) (names others : List String) :
    catalog.without (names ++ others) = catalog.without (others ++ names) := by
  refine eq_without ?_ (catalog.without_rest (names ++ others))
  rw [languages_without]
  exact List.filter_congr fun language _ => by rw [stays_append, stays_append, Bool.and_comm]

/-- An index that is made from the languages that stay has the names of the other that stay. -/
theorem get_ofLanguages_filter (keys : Language → List String) (catalog : Catalog)
    (names : List String) (key : String) :
    (Index.ofLanguages keys (catalog.without names).languages).get key =
      ((Index.ofLanguages keys catalog.languages).get key).filter (stays names) := by
  rw [Index.get_ofLanguages keys (catalog.without names).names_nodup,
    Index.get_ofLanguages keys catalog.names_nodup, languages_without, List.filter_map,
    List.filter_filter, List.filter_filter]
  refine congrArg (List.map Language.name) (List.filter_congr fun language _ => ?_)
  rw [Function.comp_apply, Bool.and_comm]

theorem interpreterIndex_without (catalog : Catalog) (names : List String) :
    (catalog.without names).interpreterIndex =
      catalog.interpreterIndex.filter fun entry => stays names entry.1 := by
  rw [interpreterIndex, interpreterIndex, languages_without, List.filter_map, List.filter_filter,
    List.filter_filter]
  refine congrArg (List.map _) (List.filter_congr fun language _ => ?_)
  rw [Function.comp_apply, Bool.and_comm]

theorem resolveAlias_standsFor {catalog : Catalog} {name : String}
    (stranger : ∀ language ∈ catalog.languages, language.name ≠ name) :
    StandsFor catalog.languages name (catalog.resolveAlias name) := by
  have hstranger : catalog.contains name = false := by
    rw [contains, get?, List.find?_eq_none.mpr fun language hm => by simpa using stranger language hm]
    rfl
  have hhas (language : Language) :
      (language.aliases.any fun other => Text.lower other == Text.lower name) = true ↔
        language.HasAlias name := by
    simp [Language.HasAlias]
  simp only [resolveAlias, hstranger, Bool.false_eq_true, ↓reduceIte]
  cases hf : catalog.languages.find? fun language =>
    language.aliases.any fun other => Text.lower other == Text.lower name with
  | none =>
    exact .itself fun language hm hl => List.find?_eq_none.mp hf language hm ((hhas language).mpr hl)
  | some language =>
    obtain ⟨hl, front, behind, hrow, hfirst⟩ := List.find?_eq_some_iff_append.mp hf
    refine .language hrow ((hhas language).mp hl) fun other ho hother => ?_
    simpa [(hhas other).mpr hother] using hfirst other ho

theorem without_leftOf (catalog : Catalog) (names : List String) :
    catalog.LeftOf names (catalog.without names) := by
  obtain ⟨vendor, generated, disambiguations, source⟩ := catalog.without_rest names
  refine ⟨catalog.languages_without names, fun key => ?_, fun key => ?_, ⟨?_, ?_⟩,
    catalog.interpreterIndex_without names, fun name => resolveAlias_standsFor, vendor, generated,
    disambiguations, source⟩
  · rw [filenameIndex_eq, filenameIndex_eq, get_ofLanguages_filter]
  · rw [extensionIndex_eq, extensionIndex_eq, get_ofLanguages_filter]
  · rw [filenameIndex_eq]
    exact Index.inhabited_ofLanguages _ _
  · rw [extensionIndex_eq]
    exact Index.inhabited_ofLanguages _ _

/-- Languages are taken out of a catalog as of a set: two steps make what one step with all the names
makes, in any order, and of the catalog nothing is missing but the languages of these names. -/
theorem without_setwise (catalog : Catalog) (names others : List String) :
    (catalog.without names).without others = catalog.without (names ++ others) ∧
      (catalog.without names).without others = (catalog.without others).without names ∧
      catalog.LeftOf names (catalog.without names) := by
  refine ⟨catalog.without_without names others, ?_, catalog.without_leftOf names⟩
  rw [without_without, without_without, without_swap]

/-- Without its first owner an alias goes to the next. -/
example :
    let catalog : Catalog := .ofLanguages [
      { name := "Shell", category := .programming, extensions := [".sh"], aliases := ["sh"] },
      { name := "Zsh", category := .programming, extensions := [".SH", ".zsh"], aliases := ["SH"] }]
      (by decide) "inline" [] [] []
    (catalog.without ["SHELL"]).resolveAlias "Sh" = "Zsh" ∧
      (catalog.without ["SHELL"]).extensionIndex.get ".sh" = ["Zsh"] := by
  cbv

end Catalog

end Polyglot
