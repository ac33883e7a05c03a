import Polyglot.Proofs.Textual

namespace Polyglot

open Polyglot.Data (Value Scalar Entries)

namespace Tables

/-- The groups in a table of languages are texts or null. -/
def TextualGroups (entries : Entries) : Prop :=
  ∀ key language, (key, .map language) ∈ entries → isTextual (entry language "group") = true

/-- The empty text is no language of a table, or it is no group in it. -/
def EmptyAside (entries : Entries) : Prop :=
  (∀ key language, (key, .map language) ∈ entries → key.name ≠ "") ∨
    ∀ key language, (key, .map language) ∈ entries → entry language "group" ≠ .text ""

theorem groupOf?_setGroup (groups : Groups) (name other : String) (value : Value) :
    groupOf? (setGroup groups name value) other =
      if other = name then some value else groupOf? groups other := by
  rw [groupOf?, setGroup, List.find?_cons]
  by_cases h : other = name
  · simp [h]
  · have hne : (name == other) = false := by simpa using fun he => h he.symm
    have hkept : (fun group : String × Value =>
        decide ((group.1 != name) = true ∧ (group.1 == other) = true)) = (·.1 == other) := by
      funext group
      by_cases hg : group.1 = other <;> simp [hg, h]
    rw [hne, if_neg h, groupOf?, List.find?_filter, hkept]

theorem mem_of_groupOf? {groups : Groups} {name : String} {value : Value}
    (h : groupOf? groups name = some value) : (name, value) ∈ groups := by
  obtain ⟨group, hf, rfl⟩ := Option.map_eq_some_iff.mp h
  have hname : group.1 = name := by simpa using List.find?_some hf
  exact hname ▸ List.mem_of_find?_eq_some hf

theorem mem_setGroup {groups : Groups} {name : String} {value : Value} {group : String × Value}
    (h : group ∈ setGroup groups name value) : group = (name, value) ∨ group ∈ groups :=
  (List.mem_cons.mp h).imp id fun hm => (List.mem_filter.mp hm).1

/-- A name without a group above it. -/
def IsTop (groups : Groups) (name : String) : Prop :=
  ∀ group, groupOf? groups name = some group → group.truthy = false

variable {source : String} {groups : Groups} {steps : Nat} {seen seen' : List String}
  {name : String} {value : Value} {root : Scalar}

theorem climb_mem (h : climb groups steps seen value = .ok (root, seen')) :
    value = .scalar root ∨ ∃ group ∈ groups, group.2 = .scalar root := by
  fun_induction climb groups steps seen value with
  | case1 seen group =>
    cases h
    exact .inl rfl
  | case2 steps seen name next hg _ ih =>
    rcases ih h with rfl | hm
    · exact .inr ⟨_, mem_of_groupOf? hg, rfl⟩
    · exact .inr hm
  | case3 =>
    cases h
    exact .inl rfl
  | case4 =>
    cases h
    exact .inl rfl
  | case5 =>
    cases h
    exact .inl rfl
  | case6 => cases h

/-- From no group there is no way up, unless a language goes by the empty text. -/
theorem climb_absent (textual : isTextual value = true) (absent : value.truthy = false)
    (empty : value = .text "" → groupOf? groups "" = none)
    (h : climb groups steps seen value = .ok (root, seen')) : value = .scalar root := by
  fun_induction climb groups steps seen value with
  | case1 seen group =>
    cases h
    rfl
  | case2 steps seen name next hg =>
    have hname : name = "" := by simpa [Value.truthy, Scalar.truthy] using absent
    subst hname
    rw [empty rfl] at hg
    cases hg
  | case3 =>
    cases h
    rfl
  | case4 =>
    cases h
    rfl
  | case5 =>
    cases h
    rfl
  | case6 => cases h

/-- What was seen on the way up are different languages of the table. The way ends at the top, or as
many languages were met as there were steps. -/
theorem climb_top (distinct : seen.Nodup) (known : ∀ name ∈ seen, (groupOf? groups name).isSome = true)
    (h : climb groups steps seen value = .ok (.text name, seen')) :
    seen ⊆ seen' ∧ seen'.Nodup ∧ (∀ name ∈ seen', (groupOf? groups name).isSome = true) ∧
      (name ∉ seen' → IsTop groups name ∨ seen'.length = seen.length + steps) := by
  fun_induction climb groups steps seen value with
  | case1 seen group =>
    cases h
    exact ⟨List.Subset.refl _, distinct, known, fun _ => .inr rfl⟩
  | case2 steps seen other next hg hon ih =>
    have hknown : ∀ name ∈ other :: seen, (groupOf? groups name).isSome = true := by
      intro name hm
      rcases List.mem_cons.mp hm with rfl | hm
      · simp [hg]
      · exact known name hm
    obtain ⟨hsub, hdistinct, hall, htop⟩ := ih (List.nodup_cons.mpr ⟨hon.2, distinct⟩) hknown h
    refine ⟨fun _ hm => hsub (List.mem_cons_of_mem _ hm), hdistinct, hall, fun hn => ?_⟩
    refine (htop hn).imp id fun hlength => ?_
    rw [hlength, List.length_cons]
    omega
  | case3 steps seen other next hg hstop =>
    cases h
    refine ⟨List.Subset.refl _, distinct, known, fun hn => .inl fun group hgroup => ?_⟩
    rw [hg] at hgroup
    cases hgroup
    simpa [hn] using hstop
  | case4 steps seen other hg =>
    cases h
    refine ⟨List.Subset.refl _, distinct, known, fun _ => .inl fun group hgroup => ?_⟩
    rw [hg] at hgroup
    cases hgroup
  | case5 steps seen group hno =>
    cases h
    exact absurd rfl (hno name)
  | case6 => cases h

theorem rootOf_climb (h : rootOf source groups name value = .ok root) :
    ∃ seen, climb groups groups.length [name] value = .ok (root, seen) ∧
      ∀ top, root = .text top → top ∉ seen := by
  unfold rootOf at h
  cases hc : climb groups groups.length [name] value with
  | error e => simp [hc, bind, Except.bind] at h
  | ok found =>
    obtain ⟨last, seen⟩ := found
    simp only [hc, bind, Except.bind] at h
    split at h
    · split at h
      · cases h
      · rename_i hnot
        cases h
        refine ⟨seen, rfl, fun top ht => ?_⟩
        cases ht
        exact hnot
    · rename_i hno
      cases h
      exact ⟨seen, rfl, fun top ht => absurd ht (hno top)⟩

theorem length_le_of_known (distinct : seen.Nodup)
    (known : ∀ name ∈ seen, (groupOf? groups name).isSome = true) : seen.length ≤ groups.length := by
  have hsub : seen ⊆ groups.map Prod.fst := by
    intro name hm
    obtain ⟨value, hg⟩ := Option.isSome_iff_exists.mp (known name hm)
    exact List.mem_map_of_mem (mem_of_groupOf? hg)
  rw [← List.length_map Prod.fst]
  exact (distinct.subperm hsub).length_le

theorem rootOf_top (known : (groupOf? groups name).isSome = true) {top : String}
    (h : rootOf source groups name value = .ok (.text top)) : top ≠ name ∧ IsTop groups top := by
  obtain ⟨seen, hclimb, hnot⟩ := rootOf_climb h
  have hfirst : ∀ other ∈ [name], (groupOf? groups other).isSome = true := by simpa using known
  obtain ⟨hsub, hdistinct, hknown, htop⟩ := climb_top (List.nodup_singleton name) hfirst hclimb
  refine ⟨?_, ?_⟩
  · rintro rfl
    exact hnot top rfl (hsub (by simp))
  · rcases htop (hnot top rfl) with htop | hlength
    · exact htop
    · -- More languages would have been met than there are.
      have hle := length_le_of_known hdistinct hknown
      rw [hlength, List.length_singleton] at hle
      omega

/-- The groups of a table of which some languages are moved up. -/
structure Levelled (groups : Groups) (moved : List String) : Prop where
  textual : ∀ group ∈ groups, isTextual group.2 = true
  empty : groupOf? groups "" = none ∨ ∀ group ∈ groups, group.2 ≠ .text ""
  top : ∀ name ∈ moved, ∀ group, groupOf? groups name = some (.text group) → IsTop groups group

variable {moved : List String}

theorem Levelled.rootOf_absent (levelled : Levelled groups moved)
    (hg : groupOf? groups name = some value) (absent : value.truthy = false)
    (h : rootOf source groups name value = .ok root) : root.truthy = false := by
  obtain ⟨seen, hclimb, -⟩ := rootOf_climb h
  have hempty : value = .text "" → groupOf? groups "" = none := by
    rintro rfl
    exact levelled.empty.resolve_right fun hno => hno _ (mem_of_groupOf? hg) rfl
  have hroot := climb_absent (groupOf?_textual levelled.textual hg) absent hempty hclimb
  rw [hroot] at absent
  exact absent

theorem Levelled.move (levelled : Levelled groups moved) (hg : groupOf? groups name = some value)
    (h : rootOf source groups name value = .ok root) :
    Levelled (setGroup groups name (.scalar root)) (name :: moved) := by
  obtain ⟨seen, hclimb, -⟩ := rootOf_climb h
  have hknown : (groupOf? groups name).isSome = true := by simp [hg]
  refine ⟨?_, ?_, ?_⟩
  · exact setGroup_textual levelled.textual
      (climb_textual levelled.textual (groupOf?_textual levelled.textual hg) hclimb)
  · refine levelled.empty.imp (fun hno => ?_) fun hno group hm => ?_
    · have hne : "" ≠ name := by
        rintro rfl
        rw [hno] at hg
        cases hg
      rw [groupOf?_setGroup, if_neg hne, hno]
    · rcases mem_setGroup hm with rfl | hm
      · rcases climb_mem hclimb with hv | ⟨other, ho, hv⟩
        · exact hv ▸ hno _ (mem_of_groupOf? hg)
        · rw [← hv]
          exact hno other ho
      · exact hno group hm
  · -- What is at the top stays there, also where it is the language that is moved.
    have hstays (top : String) (ht : IsTop groups top) :
        IsTop (setGroup groups name (.scalar root)) top := by
      intro group hgroup
      rw [groupOf?_setGroup] at hgroup
      split at hgroup
      · rename_i he
        cases hgroup
        exact levelled.rootOf_absent hg (ht value (he ▸ hg)) h
      · exact ht group hgroup
    intro other hm group hgroup
    rw [groupOf?_setGroup] at hgroup
    split at hgroup
    · cases hgroup
      exact hstays group (rootOf_top hknown h).2
    · rename_i hne
      exact hstays group (levelled.top other ((List.mem_cons.mp hm).resolve_left hne) group hgroup)

theorem flatten_levelled {languages out : List Language} (levelled : Levelled groups moved)
    (known : ∀ language ∈ languages, (groupOf? groups language.name).isSome = true)
    (distinct : (languages.map Language.name).Nodup)
    (h : (flatten source groups languages).2 = .ok out) :
    ∃ final, Levelled final ((languages.map Language.name).reverse ++ moved) ∧
      (∀ language ∈ out, groupOf? final language.name = some (.scalar language.group)) ∧
      ∀ name, name ∉ languages.map Language.name → groupOf? final name = groupOf? groups name := by
  induction languages generalizing groups moved out with
  | nil =>
    cases h
    exact ⟨groups, levelled, by simp, fun _ _ => rfl⟩
  | cons language rest ih =>
    obtain ⟨value, hg⟩ := Option.isSome_iff_exists.mp (known language (by simp))
    rw [List.map_cons, List.nodup_cons] at distinct
    rw [flatten, hg, Option.getD_some] at h
    cases hr : rootOf source groups language.name value with
    | error e => simp [hr] at h
    | ok root =>
      cases hf : (flatten source (setGroup groups language.name (.scalar root)) rest).2 with
      | error e => simp [hr, hf, Except.map] at h
      | ok others =>
        simp only [hr, hf, Except.map, Except.ok.injEq] at h
        subst h
        have hknown : ∀ other ∈ rest,
            (groupOf? (setGroup groups language.name (.scalar root)) other.name).isSome = true := by
          intro other hm
          rw [groupOf?_setGroup]
          split
          · rfl
          · exact known other (List.mem_cons_of_mem _ hm)
        obtain ⟨final, hlevelled, hgroups, hothers⟩ := ih (levelled.move hg hr) hknown distinct.2 hf
        refine ⟨final, by simpa using hlevelled, ?_, ?_⟩
        · intro other hm
          rcases List.mem_cons.mp hm with rfl | hm
          -- Names are different, so the group that was set for this one is not set again.
          · rw [hothers _ distinct.1, groupOf?_setGroup, if_pos rfl]
          · exact hgroups other hm
        · intro name hn
          rw [List.map_cons, List.mem_cons, not_or] at hn
          rw [hothers name hn.2, groupOf?_setGroup, if_neg hn.1]

theorem languagesIn_groups (holds : Value → Prop) (null : holds .null) {entries : Entries}
    (table : ∀ key language, (key, .map language) ∈ entries → holds (entry language "group"))
    {languages out : List Language} {groups groups' : Groups} (before : ∀ group ∈ groups, holds group.2)
    (h : languagesIn source entries languages groups = .ok (out, groups')) :
    ∀ group ∈ groups', holds group.2 := by
  revert table before
  refine languagesIn_induction h (fun _ before => before) ?_
  intro key entries rest languages groups language _ ih table before
  refine ih (fun k l hm => table k l (List.mem_cons_of_mem _ hm)) ?_
  intro group hm
  rcases mem_setGroup hm with rfl | hm
  · simp only [groupIn]
    split
    · exact null
    · exact table key entries (by simp)
  · exact before group hm

/-- The languages that are read are those with groups, each under the name of an entry. -/
theorem languagesIn_names {entries : Entries} {languages out : List Language} {groups groups' : Groups}
    (same : ∀ name, (groupOf? groups name).isSome = true ↔ name ∈ languages.map Language.name)
    (h : languagesIn source entries languages groups = .ok (out, groups')) :
    (∀ name, (groupOf? groups' name).isSome = true ↔ name ∈ out.map Language.name) ∧
      ∀ name ∈ out.map Language.name, name ∈ languages.map Language.name ∨
        ∃ key language, (key, .map language) ∈ entries ∧ name = key.name := by
  revert same
  refine languagesIn_induction h (fun same => ⟨same, fun _ => .inl⟩) ?_
  intro key entries rest languages groups language hl ih same
  have hsame : ∀ name, (groupOf? (setGroup groups language.name
        (groupIn language.name entries)) name).isSome = true ↔
      name ∈ (Language.put language languages).map Language.name := by
    intro name
    rw [groupOf?_setGroup, Language.mem_names_put]
    by_cases hn : name = language.name
    · simp [hn]
    · rw [if_neg hn, same name]
      simp [hn]
  obtain ⟨hall, hfrom⟩ := ih hsame
  refine ⟨hall, fun name hm => ?_⟩
  rcases hfrom name hm with hm | ⟨k, l, hm, hn⟩
  · rcases Language.mem_names_put.mp hm with rfl | hm
    · exact .inr ⟨key, entries, by simp, (languageOf_eq_ok hl).1⟩
    · exact .inl hm
  · exact .inr ⟨k, l, List.mem_cons_of_mem _ hm, hn⟩

end Tables

/-- The groups of the languages are texts or null. A language whose name is a group has no group
itself, and the empty text is no language or no group. -/
structure Catalog.TwoLevels (catalog : Catalog) : Prop where
  textual : ∀ language ∈ catalog.languages, isTextual (.scalar language.group) = true
  top : ∀ language ∈ catalog.languages, ∀ other ∈ catalog.languages,
    language.group = .text other.name → other.group.truthy = false
  empty : (∀ language ∈ catalog.languages, language.name ≠ "") ∨
    ∀ language ∈ catalog.languages, language.group ≠ .text ""

theorem Catalog.TwoLevels.without {catalog : Catalog} (h : catalog.TwoLevels) (names : List String) :
    (catalog.without names).TwoLevels := by
  have hsub : (catalog.without names).languages ⊆ catalog.languages := by
    intro language hm
    rw [Catalog.without] at hm
    split at hm
    · exact hm
    · exact (List.mem_filter.mp hm).1
  exact ⟨fun language hm => h.textual language (hsub hm),
    fun language hm other ho => h.top language (hsub hm) other (hsub ho),
    h.empty.imp (fun hno language hm => hno language (hsub hm))
      fun hno language hm => hno language (hsub hm)⟩

theorem Catalog.TwoLevels.withoutAll {catalog : Catalog} (h : catalog.TwoLevels)
    (filters : List (List String)) : (filters.foldl Catalog.without catalog).TwoLevels := by
  induction filters generalizing catalog with
  | nil => exact h
  | cons names rest ih => exact ih (h.without names)

theorem Tables.languagesIn_levelled {source : String} {entries : Entries} {read : List Language}
    {groups : Groups} (textual : TextualGroups entries) (empty : EmptyAside entries)
    (h : languagesIn source entries [] [] = .ok (read, groups)) : Levelled groups [] := by
  refine ⟨languagesIn_groups (fun value => isTextual value = true) rfl textual (by simp) h,
    empty.imp (fun hno => ?_) fun hno => ?_, by simp⟩
  · obtain ⟨hsame, hfrom⟩ := languagesIn_names (by simp [groupOf?]) h
    by_contra hsome
    have hm := (hsame "").mp (Option.ne_none_iff_isSome.mp hsome)
    rcases hfrom "" hm with hm | ⟨key, language, hm, hn⟩
    · cases hm
    · exact hno key language hm hn.symm
  · exact languagesIn_groups (· ≠ .text "") (by simp) hno (by simp) h

/-- A table whose groups are texts or null makes a catalog in two levels, if the empty text is no
language or no group in it. -/
theorem Catalog.ofTables_twoLevels {tables : Tables} {catalog : Catalog}
    (groups : ∀ entries, tables.languages = .map entries → Tables.TextualGroups entries)
    (empty : ∀ entries, tables.languages = .map entries → Tables.EmptyAside entries)
    (h : (Catalog.ofTables tables).2 = .ok catalog) : catalog.TwoLevels := by
  obtain ⟨entries, read, found, he, hr, hf⟩ := Tables.languagesOf_eq_ok (ofTables_languages h)
  have hsame := (Tables.languagesIn_names (by simp [Tables.groupOf?]) hr).1
  obtain ⟨final, hlevelled, hgroups, -⟩ :=
    Tables.flatten_levelled (Tables.languagesIn_levelled (groups entries he) (empty entries he) hr)
      (fun language hm => (hsame language.name).mpr (List.mem_map_of_mem hm))
      (Tables.languagesIn_nodup (by simp) hr) hf
  rw [List.append_nil, ← Tables.names_flatten hf] at hlevelled
  refine ⟨fun language hm => ?_, fun language hm other ho hgroup => ?_, ?_⟩
  · exact hlevelled.textual _ (Tables.mem_of_groupOf? (hgroups language hm))
  · have hmoved : language.name ∈ (catalog.languages.map Language.name).reverse :=
      List.mem_reverse.mpr (List.mem_map_of_mem hm)
    have habove := hgroups language hm
    rw [hgroup] at habove
    exact hlevelled.top language.name hmoved other.name habove _ (hgroups other ho)
  · refine hlevelled.empty.imp (fun hno language hm hn => ?_) fun hno language hm hg => ?_
    · have hsome := hgroups language hm
      rw [hn, hno] at hsome
      cases hsome
    · exact hno _ (Tables.mem_of_groupOf? (hgroups language hm)) (congrArg Value.scalar hg)

end Polyglot
