import Mathlib
import Polyglot.Aggregator
import Polyglot.Catalog.Tables

namespace Polyglot

open Polyglot.Data (Value Scalar Entries)

/-- A text, or null for none. -/
def isTextual : Value → Bool
  | .null | .text _ => true
  | _ => false

def textOf? : Value → Option String
  | .text s => some s
  | _ => none

/-- The colours and the groups of the languages are texts or null. -/
def Catalog.Textual (catalog : Catalog) : Prop :=
  ∀ language ∈ catalog.languages,
    isTextual language.color = true ∧ isTextual (.scalar language.group) = true

theorem Catalog.get?_mem {catalog : Catalog} {name : String} {language : Language}
    (h : catalog.get? name = some language) :
    language ∈ catalog.languages ∧ language.name = name :=
  ⟨List.mem_of_find?_eq_some h, by simpa using List.find?_some h⟩

theorem find?_of_nodup {α : Type} {key : α → String} {list : List α} (nodup : (list.map key).Nodup)
    {item : α} (h : item ∈ list) : list.find? (fun other => key other == key item) = some item := by
  induction list with
  | nil => cases h
  | cons first rest ih =>
    rw [List.map_cons, List.nodup_cons] at nodup
    rcases List.mem_cons.mp h with rfl | h
    · simp
    · have hne : key first ≠ key item := fun he => nodup.1 (he ▸ List.mem_map_of_mem h)
      rw [List.find?_cons_of_neg (by simpa using hne)]
      exact ih nodup.2 h

theorem Catalog.get?_of_mem {catalog : Catalog} {language : Language}
    (h : language ∈ catalog.languages) : catalog.get? language.name = some language :=
  find?_of_nodup catalog.names_nodup h

theorem Catalog.without_rest (catalog : Catalog) (names : List String) :
    (catalog.without names).vendor = catalog.vendor ∧
      (catalog.without names).generated = catalog.generated ∧
      (catalog.without names).disambiguations = catalog.disambiguations ∧
      (catalog.without names).source = catalog.source := by
  rw [Catalog.without]
  split <;> exact ⟨rfl, rfl, rfl, rfl⟩

theorem Catalog.Textual.without {catalog : Catalog} (h : catalog.Textual) (names : List String) :
    (catalog.without names).Textual := by
  intro language hm
  rw [Catalog.without] at hm
  split at hm
  · exact h language hm
  · exact h language (List.mem_filter.mp hm).1

namespace Tables

/-- The colours and the groups in a table of languages are texts or null. -/
def TextualEntries (entries : Entries) : Prop :=
  ∀ key language, (key, .map language) ∈ entries →
    isTextual (entry language "color") = true ∧ isTextual (entry language "group") = true

theorem languageOf_eq_ok {source name : String} {entries : Entries} {language : Language}
    (h : languageOf source name entries = .ok language) :
    language.name = name ∧ language.color = entry entries "color" ∧ language.group = .null := by
  unfold languageOf at h
  split at h
  · cases hl : checkLength (entry entries "type").isTooLong <;>
      simp [hl, refuse, bind, Except.bind] at h
  · simp only [bind, Except.bind] at h
    repeat' split at h
    all_goals cases h
    exact ⟨rfl, rfl, rfl⟩

theorem mem_put {language other : Language} {languages : List Language}
    (h : other ∈ Language.put language languages) : other = language ∨ other ∈ languages := by
  induction languages with
  | nil => exact .inl (List.mem_singleton.mp h)
  | cons first rest ih =>
    rw [Language.put] at h
    split at h
    · exact (List.mem_cons.mp h).imp id (List.mem_cons_of_mem _)
    · rcases List.mem_cons.mp h with rfl | h
      · simp
      · exact (ih h).imp id (List.mem_cons_of_mem _)

theorem groupIn_textual {name : String} {entries : Entries}
    (h : isTextual (entry entries "group") = true) : isTextual (groupIn name entries) = true := by
  unfold groupIn
  simp only
  split
  · rfl
  · exact h

theorem setGroup_textual {groups : Groups} (h : ∀ group ∈ groups, isTextual group.2 = true)
    {name : String} {value : Value} (hv : isTextual value = true) :
    ∀ group ∈ setGroup groups name value, isTextual group.2 = true := by
  intro group hm
  rcases List.mem_cons.mp hm with rfl | hm
  · exact hv
  · exact h group (List.mem_filter.mp hm).1

theorem groupOf?_textual {groups : Groups} (h : ∀ group ∈ groups, isTextual group.2 = true)
    {name : String} {value : Value} (hg : groupOf? groups name = some value) :
    isTextual value = true := by
  obtain ⟨group, hf, rfl⟩ := Option.map_eq_some_iff.mp hg
  exact h group (List.mem_of_find?_eq_some hf)

theorem languagesIn_textual {source : String} {entries : Entries} {languages out : List Language}
    {groups groups' : Groups} (table : TextualEntries entries)
    (colors : ∀ language ∈ languages, isTextual language.color = true)
    (textual : ∀ group ∈ groups, isTextual group.2 = true)
    (h : languagesIn source entries languages groups = .ok (out, groups')) :
    (∀ language ∈ out, isTextual language.color = true) ∧
      ∀ group ∈ groups', isTextual group.2 = true := by
  revert table colors textual
  refine languagesIn_induction h (fun _ colors textual => ⟨colors, textual⟩) ?_
  intro key entries rest languages groups language hl ih table colors textual
  obtain ⟨hcolor, hgroup⟩ := table key entries (by simp)
  refine ih (fun k l hm => table k l (List.mem_cons_of_mem _ hm)) ?_
    (setGroup_textual textual (groupIn_textual hgroup))
  intro other hm
  rcases mem_put hm with rfl | hm
  · rw [(languageOf_eq_ok hl).2.1]
    exact hcolor
  · exact colors other hm

theorem climb_textual {groups : Groups} (textual : ∀ group ∈ groups, isTextual group.2 = true)
    {steps : Nat} {seen seen' : List String} {value : Value} {root : Scalar}
    (hv : isTextual value = true) (h : climb groups steps seen value = .ok (root, seen')) :
    isTextual (.scalar root) = true := by
  fun_induction climb groups steps seen value with
  | case1 seen group =>
    cases h
    exact hv
  | case2 steps seen name next hg _ ih => exact ih (groupOf?_textual textual hg) h
  | case3 =>
    cases h
    exact hv
  | case4 =>
    cases h
    exact hv
  | case5 =>
    cases h
    exact hv
  | case6 => cases h

theorem rootOf_textual {source name : String} {groups : Groups} {value : Value} {root : Scalar}
    (textual : ∀ group ∈ groups, isTextual group.2 = true) (hvalue : isTextual value = true)
    (h : rootOf source groups name value = .ok root) : isTextual (.scalar root) = true := by
  unfold rootOf at h
  cases hc : climb groups groups.length [name] value with
  | error e => simp [hc, bind, Except.bind] at h
  | ok found =>
    obtain ⟨top, seen⟩ := found
    have htop := climb_textual textual hvalue hc
    simp only [hc, bind, Except.bind] at h
    split at h
    · split at h
      · cases h
      · cases h
        exact htop
    · cases h
      exact htop

theorem flatten_textual {source : String} {groups : Groups} {languages out : List Language}
    (colors : ∀ language ∈ languages, isTextual language.color = true)
    (textual : ∀ group ∈ groups, isTextual group.2 = true)
    (h : (flatten source groups languages).2 = .ok out) :
    ∀ language ∈ out, isTextual language.color = true ∧ isTextual (.scalar language.group) = true := by
  induction languages generalizing groups out with
  | nil =>
    cases h
    simp
  | cons language rest ih =>
    rw [flatten] at h
    split at h
    · cases h
    · rename_i root hr
      have hgroup : isTextual ((groupOf? groups language.name).getD .null) = true := by
        cases hg : groupOf? groups language.name with
        | none => rfl
        | some value => exact groupOf?_textual textual hg
      have hroot : isTextual (.scalar root) = true := rootOf_textual textual hgroup hr
      cases hf : (flatten source (setGroup groups language.name (.scalar root)) rest).2 with
      | error e => simp [hf, Except.map] at h
      | ok others =>
        have hothers := ih (fun l hm => colors l (List.mem_cons_of_mem _ hm))
          (setGroup_textual textual hroot) hf
        simp only [hf, Except.map] at h
        cases h
        intro other hm
        rcases List.mem_cons.mp hm with rfl | hm
        · exact ⟨colors language (by simp), hroot⟩
        · exact hothers other hm

theorem languagesOf_eq_ok {source : String} {value : Value} {languages : List Language}
    (h : (languagesOf source value).2 = .ok languages) :
    ∃ entries read groups, value = .map entries ∧
      languagesIn source entries [] [] = .ok (read, groups) ∧
      (flatten source groups read).2 = .ok languages := by
  unfold languagesOf at h
  split at h
  · rename_i entries
    split at h
    · cases h
    · split at h
      · cases h
      · rename_i read groups hr
        exact ⟨entries, read, groups, rfl, hr, h⟩
  · cases h

end Tables

theorem Catalog.ofTables_languages {tables : Tables} {catalog : Catalog}
    (h : (Catalog.ofTables tables).2 = .ok catalog) :
    (Tables.languagesOf tables.source tables.languages).2 = .ok catalog.languages := by
  unfold Catalog.ofTables at h
  simp only at h
  split at h
  · cases h
  · rename_i languages hl
    simp only [bind, Except.bind] at h
    repeat' split at h
    all_goals
      cases h
    exact hl

/-- A table whose colours and groups are texts or null makes a catalog with such colours and groups. -/
theorem Catalog.ofTables_textual {tables : Tables} {catalog : Catalog}
    (table : ∀ entries, tables.languages = .map entries → Tables.TextualEntries entries)
    (h : (Catalog.ofTables tables).2 = .ok catalog) : catalog.Textual := by
  obtain ⟨entries, read, groups, he, hr, hf⟩ := Tables.languagesOf_eq_ok (ofTables_languages h)
  obtain ⟨hcolors, hgroups⟩ := Tables.languagesIn_textual (table entries he) (by simp) (by simp) hr
  exact Tables.flatten_textual hcolors hgroups hf

end Polyglot
