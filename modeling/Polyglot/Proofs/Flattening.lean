import Polyglot.Proofs.Grouping
import Polyglot.Proofs.Refusals
import Polyglot.Proofs.Runs

namespace Polyglot

open Polyglot.Data (Value Scalar Entries)
open Relation (ReflTransGen TransGen)

section Links

variable {link : String → String → Prop} {name last other : String} {root : Scalar}

/-- Links from a name lead into a cycle. -/
def RunsIntoCycle (link : String → String → Prop) (name : String) : Prop :=
  ∃ other, ReflTransGen link name other ∧ TransGen link other other

/-- What is last above a name: the name at which the links from it end, or null if it has none. -/
inductive LastAbove (link : String → String → Prop) (name : String) : Scalar → Prop
  | none (top : ∀ other, ¬ link name other) : LastAbove link name .null
  | group {last : String} (above : TransGen link name last) (top : ∀ other, ¬ link last other) :
    LastAbove link name (.text last)

theorem cycle_goes_on (unique : Relator.RightUnique link) (cycle : TransGen link name name)
    (reached : ReflTransGen link name other) : TransGen link other other := by
  induction reached with
  | refl => exact cycle
  | tail _ hstep ih =>
    obtain ⟨next, hnext, hback⟩ := TransGen.head'_iff.mp ih
    obtain rfl := unique hnext hstep
    exact TransGen.tail' hback hstep

theorem LastAbove.acyclic (unique : Relator.RightUnique link) (h : LastAbove link name root) :
    ¬ RunsIntoCycle link name := by
  rintro ⟨other, hreached, hcycle⟩
  obtain ⟨last, hlast, htop⟩ : ∃ last, ReflTransGen link name last ∧ ∀ other, ¬ link last other := by
    cases h with
    | none top => exact ⟨name, .refl, top⟩
    | group above top => exact ⟨_, above.to_reflTransGen, top⟩
  have hends : ¬ TransGen link last last := by
    intro h
    obtain ⟨next, hnext, -⟩ := TransGen.head'_iff.mp h
    exact htop next hnext
  rcases ReflTransGen.total_of_right_unique unique hlast hreached with hto | hfrom
  · rcases ReflTransGen.cases_head hto with rfl | ⟨next, hnext, -⟩
    · exact hends hcycle
    · exact htop next hnext
  · exact hends (cycle_goes_on unique hcycle hfrom)

end Links

namespace Tables

/-- Groups that are as the links are, or further up: a group is a name to which links lead, and
where there is a link there is a group. No link leads to the empty text, which counts as no group.
-/
structure Leads (link : String → String → Prop) (groups : Groups) : Prop where
  group : ∀ name value, groupOf? groups name = some value →
    value = .null ∨ ∃ above, value = .text above ∧ TransGen link name above
  linked : ∀ name above, link name above → ∃ other, groupOf? groups name = some (.text other)
  proper : ∀ name, ¬ link name ""

variable {link : String → String → Prop} {source : String} {groups : Groups} {name : String}
  {value : Value} {root : Scalar}

theorem Leads.truthy (leads : Leads link groups) {above : String} (h : TransGen link name above) :
    (Value.text above).truthy = true := by
  obtain ⟨before, -, hstep⟩ := TransGen.tail'_iff.mp h
  have hne : above ≠ "" := by
    rintro rfl
    exact leads.proper before hstep
  simpa [Value.truthy, Scalar.truthy] using hne

theorem Leads.top (leads : Leads link groups) (h : ∀ group, groupOf? groups name ≠ some (.text group))
    (other : String) : ¬ link name other := by
  intro hlink
  obtain ⟨group, hgroup⟩ := leads.linked name other hlink
  exact h group hgroup

/-- The way up goes where the links go. It ends at a name that was met before only where they run
into a cycle, and otherwise at a name without a link. -/
theorem climb_leads (leads : Leads link groups) {steps : Nat} {seen : List String} {above : String}
    (start : TransGen link name above) (met : ∀ other ∈ seen, TransGen link other above)
    (distinct : seen.Nodup) (known : ∀ other ∈ seen, (groupOf? groups other).isSome = true)
    (enough : seen.length + steps = groups.length + 1) :
    ∃ last seen', climb groups steps seen (.text above) = .ok (.text last, seen') ∧
      TransGen link name last ∧ (last ∈ seen' → TransGen link last last) ∧
      (last ∉ seen' → ∀ other, ¬ link last other) := by
  induction steps generalizing seen above with
  | zero =>
    -- More languages would have been met than there are.
    have hle := length_le_of_known distinct known
    omega
  | succ steps ih =>
    rw [climb]
    cases hg : groupOf? groups above with
    | none =>
      refine ⟨above, seen, rfl, start, met above, fun _ => leads.top fun group hgroup => ?_⟩
      rw [hg] at hgroup
      cases hgroup
    | some next =>
      simp only
      split
      · rename_i hon
        rcases leads.group above next hg with rfl | ⟨further, rfl, hlinks⟩
        · cases hon.1
        · refine ih (start.trans hlinks) ?_ (List.nodup_cons.mpr ⟨hon.2, distinct⟩) ?_ ?_
          · intro other hm
            rcases List.mem_cons.mp hm with rfl | hm
            · exact hlinks
            · exact (met other hm).trans hlinks
          · intro other hm
            rcases List.mem_cons.mp hm with rfl | hm
            · simp [hg]
            · exact known other hm
          · rw [List.length_cons]
            omega
      · rename_i hstop
        refine ⟨above, seen, rfl, start, met above, fun hnew => leads.top fun group hgroup => ?_⟩
        rw [hg] at hgroup
        cases hgroup
        rcases leads.group above _ hg with h | ⟨further, h, hlinks⟩
        · cases h
        · exact hstop ⟨h ▸ leads.truthy hlinks, hnew⟩

/-- A language either runs into a cycle and is refused, or gets the last group above it. -/
theorem rootOf_leads (leads : Leads link groups) (hg : groupOf? groups name = some value) :
    (RunsIntoCycle link name ∧
        rootOf source groups name value = refuse (source ++ ":languages") (.cyclicGroup name)) ∨
      ∃ root, LastAbove link name root ∧ rootOf source groups name value = .ok root := by
  rcases leads.group name value hg with rfl | ⟨above, rfl, hlinks⟩
  · refine .inr ⟨.null, .none (leads.top fun group hgroup => ?_), ?_⟩
    · rw [hg] at hgroup
      cases hgroup
    · unfold rootOf
      cases groups.length <;> rfl
  · obtain ⟨last, seen, hclimb, hlast, hcycle, htop⟩ := climb_leads leads hlinks
      (List.forall_mem_singleton.mpr hlinks) (List.nodup_singleton name)
      (List.forall_mem_singleton.mpr (by simp [hg])) (Nat.add_comm 1 groups.length)
    unfold rootOf
    by_cases hm : last ∈ seen
    · exact .inl ⟨⟨last, hlast.to_reflTransGen, hcycle hm⟩, by simp [hclimb, hm, bind, Except.bind]⟩
    · exact .inr ⟨.text last, .group hlast (htop hm), by simp [hclimb, hm, bind, Except.bind]⟩

theorem Leads.move (leads : Leads link groups) (hroot : LastAbove link name root) :
    Leads link (setGroup groups name (.scalar root)) := by
  refine ⟨fun other value hother => ?_, fun other above hlink => ?_, leads.proper⟩
  · rw [groupOf?_setGroup] at hother
    split at hother
    · rename_i he
      cases he
      cases hother
      cases hroot with
      | none => exact .inl rfl
      | group above => exact .inr ⟨_, rfl, above⟩
    · exact leads.group other value hother
  · rw [groupOf?_setGroup]
    split
    · rename_i he
      cases he
      cases hroot with
      | none top => exact absurd hlink (top above)
      | group => exact ⟨_, rfl⟩
    · exact leads.linked other above hlink

/-- A language, moved to what is last above it. -/
structure MovedUp (link : String → String → Prop) (before after : Language) : Prop where
  kept : after = { before with group := after.group }
  last : LastAbove link before.name after.group

/-- The languages are refused as soon as one of them runs into a cycle. Otherwise all are moved up. -/
theorem flatten_leads (source : String) {languages : List Language} (leads : Leads link groups)
    (known : ∀ language ∈ languages, (groupOf? groups language.name).isSome = true) :
    (∃ language ∈ languages, RunsIntoCycle link language.name ∧ (flatten source groups languages).2 =
        refuse (source ++ ":languages") (.cyclicGroup language.name)) ∨
      ∃ out, (flatten source groups languages).2 = .ok out ∧
        ∀ after ∈ out, ∃ before ∈ languages, MovedUp link before after := by
  induction languages generalizing groups with
  | nil => exact .inr ⟨[], rfl, by simp⟩
  | cons language rest ih =>
    obtain ⟨value, hg⟩ := Option.isSome_iff_exists.mp (known language (by simp))
    rw [flatten, hg, Option.getD_some]
    rcases rootOf_leads leads hg with ⟨hcycle, hroot⟩ | ⟨root, hlast, hroot⟩
    · refine .inl ⟨language, by simp, hcycle, ?_⟩
      rw [hroot]
      rfl
    · have hknown : ∀ other ∈ rest,
          (groupOf? (setGroup groups language.name (.scalar root)) other.name).isSome = true := by
        intro other hm
        rw [groupOf?_setGroup]
        split
        · rfl
        · exact known other (List.mem_cons_of_mem _ hm)
      rw [hroot]
      rcases ih (leads.move hlast) hknown with ⟨other, hm, hcycle, hrest⟩ | ⟨out, hrest, hmoved⟩
      · exact .inl ⟨other, List.mem_cons_of_mem _ hm, hcycle, by simp [hrest, refuse, Except.map]⟩
      · refine .inr ⟨{ language with group := root } :: out, by simp [hrest, Except.map], ?_⟩
        intro after hm
        rcases List.mem_cons.mp hm with rfl | hm
        · exact ⟨language, by simp, rfl, hlast⟩
        · obtain ⟨before, hb, hup⟩ := hmoved after hm
          exact ⟨before, List.mem_cons_of_mem _ hb, hup⟩

/-- The last entry under a name, which is the one that counts. -/
def entryUnder? (entries : Entries) (name : String) : Option Value :=
  (entries.reverse.find? (·.1.name == name)).map Prod.snd

/-- The entry of a language names another language as its group. -/
def Follows (entries : Entries) (name group : String) : Prop :=
  ∃ own, entryUnder? entries name = some (.map own) ∧ entry own "group" = .text group ∧ group ≠ name

/-- Nothing, a text or a list of texts. -/
def HoldsTexts (value : Value) : Prop :=
  value = .null ∨ (∃ text, value = .text text) ∨ ∃ texts : List String, value = .list (texts.map .text)

/-- An entry with a category, with texts where there can be texts, and with no group or the name of
one. -/
structure WellFormed (own : Entries) : Prop where
  category : ∃ category : Category, entry own "type" = .text category.name
  texts : ∀ key ∈ ["filenames", "extensions", "interpreters", "aliases"], HoldsTexts (entry own key)
  group : entry own "group" = .null ∨ ∃ group, group ≠ "" ∧ entry own "group" = .text group

/-- All entries are well formed, and their names can be written. -/
def WellFormedTable (entries : Entries) : Prop :=
  ∀ key value, (key, value) ∈ entries →
    key.isTooLong = false ∧ ∃ own, value = .map own ∧ WellFormed own

theorem WellFormedTable.own {entries own : Entries} {key : Scalar} (formed : WellFormedTable entries)
    (h : (key, .map own) ∈ entries) : WellFormed own := by
  obtain ⟨-, other, he, hformed⟩ := formed key _ h
  cases he
  exact hformed

theorem WellFormedTable.textualGroups {entries : Entries} (formed : WellFormedTable entries) :
    TextualGroups entries := by
  intro key own hm
  rcases (formed.own hm).group with hnull | ⟨group, -, hgroup⟩
  · rw [hnull]
    rfl
  · rw [hgroup]
    rfl

theorem WellFormedTable.emptyAside {entries : Entries} (formed : WellFormedTable entries) :
    EmptyAside entries := by
  refine .inr fun key own hm hempty => ?_
  rcases (formed.own hm).group with hnull | ⟨group, hne, hgroup⟩
  · rw [hnull] at hempty
    cases hempty
  · rw [hgroup] at hempty
    cases hempty
    exact hne rfl

theorem entryUnder?_append (entries : Entries) (key : Scalar) (value : Value) (name : String) :
    entryUnder? (entries ++ [(key, value)]) name =
      if name = key.name then some value else entryUnder? entries name := by
  rw [entryUnder?, List.reverse_append, List.reverse_singleton, List.singleton_append, List.find?_cons]
  by_cases h : name = key.name
  · simp [h]
  · have hne : (key.name == name) = false := by simpa using fun he => h he.symm
    rw [hne, if_neg h, entryUnder?]

theorem mem_of_entryUnder? {entries : Entries} (h : entryUnder? entries name = some value) :
    ∃ key, (key, value) ∈ entries ∧ key.name = name := by
  obtain ⟨found, hf, rfl⟩ := Option.map_eq_some_iff.mp h
  exact ⟨found.1, List.mem_reverse.mp (List.mem_of_find?_eq_some hf), by simpa using List.find?_some hf⟩

theorem follows_unique (entries : Entries) : Relator.RightUnique (Follows entries) := by
  rintro name group other ⟨own, hown, hgroup, -⟩ ⟨own', hown', hother, -⟩
  rw [hown] at hown'
  cases hown'
  rw [hgroup] at hother
  cases hother
  rfl

theorem textsUnder_of_holdsTexts (source key : String) (h : HoldsTexts value) :
    ∃ texts, textsUnder source key value = .ok texts := by
  rcases h with rfl | ⟨text, rfl⟩ | ⟨texts, rfl⟩
  · exact ⟨[], rfl⟩
  · exact ⟨[text], rfl⟩
  · exact ⟨texts, by simp [textsUnder, texts?_eq_some_iff.mpr rfl]⟩

theorem languageOf_wellFormed {own : Entries} (source name : String) (h : WellFormed own) :
    ∃ language, languageOf source name own = .ok language := by
  obtain ⟨category, hcategory⟩ := h.category
  have htexts (key : String) (hm : key ∈ ["filenames", "extensions", "interpreters", "aliases"]) :=
    textsUnder_of_holdsTexts source (name ++ "." ++ key) (h.texts key hm)
  obtain ⟨filenames, hfilenames⟩ := htexts "filenames" (by simp)
  obtain ⟨extensions, hextensions⟩ := htexts "extensions" (by simp)
  obtain ⟨interpreters, hinterpreters⟩ := htexts "interpreters" (by simp)
  obtain ⟨aliases, haliases⟩ := htexts "aliases" (by simp)
  unfold languageOf
  rw [hcategory, categoryOf?, Category.ofName?_name]
  simp only [hfilenames, hextensions, hinterpreters, haliases, bind, Except.bind]
  exact ⟨_, rfl⟩

theorem names_put (language : Language) (languages : List Language) :
    (Language.put language languages).map Language.name =
      if language.name ∈ languages.map Language.name then languages.map Language.name
      else languages.map Language.name ++ [language.name] := by
  induction languages with
  | nil => rfl
  | cons first rest ih =>
    rw [Language.put]
    by_cases h : first.name = language.name
    · simp [h]
    · have hne : language.name ≠ first.name := fun he => h he.symm
      rw [if_neg h, List.map_cons, ih, List.map_cons]
      simp only [List.mem_cons, or_iff_right hne]
      split <;> rfl

theorem mem_put_of_nodup {language other : Language} {languages : List Language}
    (nodup : (languages.map Language.name).Nodup) (h : other ∈ Language.put language languages) :
    other = language ∨ other ∈ languages ∧ other.name ≠ language.name := by
  by_cases hn : other.name = language.name
  · have hm : language ∈ Language.put language languages := by
      induction languages with
      | nil => simp [Language.put]
      | cons first rest ih =>
        rw [Language.put]
        split
        · simp
        · rename_i hne
          rw [Language.put, if_neg hne] at h
          rcases List.mem_cons.mp h with rfl | h
          · exact absurd hn hne
          · exact List.mem_cons_of_mem _ (ih (List.nodup_cons.mp nodup).2 h)
    exact .inl (List.inj_on_of_nodup_map (Language.names_put_nodup nodup) h hm hn)
  · refine (mem_put h).imp id fun hm => ⟨hm, hn⟩

/-- Languages and groups as some entries have them: in the order in which the names come first, each
as the last entry under its name says. -/
structure ReadFrom (source : String) (entries : Entries) (languages : List Language) (groups : Groups) :
    Prop where
  names : languages.map Language.name = (entries.map (·.1.name)).eraseDups
  described : ∀ language ∈ languages, ∃ own,
    entryUnder? entries language.name = some (.map own) ∧ languageOf source language.name own = .ok language
  groups : ∀ name value, groupOf? groups name = some value ↔
    ∃ own, entryUnder? entries name = some (.map own) ∧ value = groupIn name own

theorem ReadFrom.put {entries own : Entries} {languages : List Language} {key : Scalar}
    {language : Language} (read : ReadFrom source entries languages groups)
    (h : languageOf source key.name own = .ok language) :
    ReadFrom source (entries ++ [(key, .map own)]) (Language.put language languages)
      (setGroup groups language.name (groupIn language.name own)) := by
  have hname : language.name = key.name := (languageOf_eq_ok h).1
  have hnodup : (languages.map Language.name).Nodup := read.names ▸ nodup_eraseDups _
  refine ⟨?_, fun other hm => ?_, fun name value => ?_⟩
  · rw [names_put, read.names, hname, List.map_append, List.eraseDups_append]
    by_cases hm : key.name ∈ entries.map (·.1.name)
    · simp [List.removeAll, hm]
    · simp [List.removeAll, hm, List.eraseDups_cons]
  · rw [entryUnder?_append]
    rcases mem_put_of_nodup hnodup hm with rfl | ⟨hm, hne⟩
    · exact ⟨own, by simp [hname], hname ▸ h⟩
    · rw [if_neg (hname ▸ hne)]
      exact read.described other hm
  · rw [groupOf?_setGroup, entryUnder?_append, hname]
    split
    · rename_i he
      simp [he, eq_comm]
    · exact read.groups name value

theorem languagesIn_reads {rest : Entries} (formed : WellFormedTable rest) {entries : Entries}
    {languages : List Language} (read : ReadFrom source entries languages groups) :
    ∃ out groups', languagesIn source rest languages groups = .ok (out, groups') ∧
      ReadFrom source (entries ++ rest) out groups' := by
  induction rest generalizing entries languages groups with
  | nil => exact ⟨languages, groups, rfl, by simpa using read⟩
  | cons first rest ih =>
    obtain ⟨key, value⟩ := first
    obtain ⟨hkey, own, rfl, hown⟩ := formed key value (by simp)
    obtain ⟨language, hlanguage⟩ := languageOf_wellFormed source key.name hown
    obtain ⟨out, groups', hout, hread⟩ :=
      ih (fun k v hm => formed k v (List.mem_cons_of_mem _ hm)) (read.put hlanguage)
    refine ⟨out, groups', ?_, by simpa using hread⟩
    rw [languagesIn, checkLength, hkey]
    simpa [hlanguage, bind, Except.bind] using hout

theorem ReadFrom.leads {entries : Entries} {languages : List Language} (formed : WellFormedTable entries)
    (read : ReadFrom source entries languages groups) : Leads (Follows entries) groups := by
  have hown {name : String} {own : Entries} (h : entryUnder? entries name = some (.map own)) :
      WellFormed own := by
    obtain ⟨key, hm, -⟩ := mem_of_entryUnder? h
    exact formed.own hm
  refine ⟨fun name value hg => ?_, fun name above hlink => ?_, fun name hlink => ?_⟩
  · obtain ⟨own, he, rfl⟩ := (read.groups name value).mp hg
    rw [groupIn]
    rcases (hown he).group with hnull | ⟨group, -, hgroup⟩
    · simp [hnull]
    · by_cases hself : group = name
      · simp [hgroup, hself, isText]
      · exact .inr ⟨group, by simp [hgroup, hself, isText], .single ⟨own, he, hgroup, hself⟩⟩
  · obtain ⟨own, he, hgroup, hself⟩ := hlink
    exact ⟨above, (read.groups name _).mpr ⟨own, he, by simp [groupIn, hgroup, hself, isText]⟩⟩
  · obtain ⟨own, he, hgroup, -⟩ := hlink
    rcases (hown he).group with hnull | ⟨group, hne, hsome⟩
    · rw [hnull] at hgroup
      cases hgroup
    · rw [hsome] at hgroup
      cases hgroup
      exact hne rfl

/-- The languages of a table under their last groups: in the order in which their names come first,
each as the last entry under its name says, but for the group. -/
structure Flattened (source : String) (entries : Entries) (languages : List Language) : Prop where
  names : languages.map Language.name = (entries.map (·.1.name)).eraseDups
  described : ∀ language ∈ languages, ∃ own, entryUnder? entries language.name = some (.map own) ∧
    languageOf source language.name own = .ok { language with group := .null }
  last : ∀ language ∈ languages, LastAbove (Follows entries) language.name language.group

theorem known_of_cycle {entries : Entries} (h : RunsIntoCycle (Follows entries) name) :
    ∃ own, entryUnder? entries name = some (.map own) := by
  obtain ⟨other, hreached, hcycle⟩ := h
  have hfirst : ∃ next, Follows entries name next := by
    rcases ReflTransGen.cases_head hreached with rfl | ⟨next, hnext, -⟩
    · obtain ⟨next, hnext, -⟩ := TransGen.head'_iff.mp hcycle
      exact ⟨next, hnext⟩
    · exact ⟨next, hnext⟩
  obtain ⟨next, own, hown, -⟩ := hfirst
  exact ⟨own, hown⟩

/-- A table is refused for a cycle, or its languages are moved up and none runs into a cycle. -/
theorem languagesOf_flattens (source : String) {entries : Entries} (formed : WellFormedTable entries)
    (nonempty : entries ≠ []) :
    (∃ name, RunsIntoCycle (Follows entries) name ∧ (languagesOf source (.map entries)).2 =
        refuse (source ++ ":languages") (.cyclicGroup name)) ∨
      ∃ languages, (languagesOf source (.map entries)).2 = .ok languages ∧
        Flattened source entries languages ∧ ∀ name, ¬ RunsIntoCycle (Follows entries) name := by
  have hempty : ReadFrom source [] [] [] := ⟨rfl, by simp, by simp [groupOf?, entryUnder?]⟩
  obtain ⟨read, groups, hin, hread⟩ := languagesIn_reads formed hempty
  rw [List.nil_append] at hread
  have hknown : ∀ language ∈ read, (groupOf? groups language.name).isSome = true := by
    intro language hm
    obtain ⟨own, hown, -⟩ := hread.described language hm
    exact Option.isSome_iff_exists.mpr ⟨_, (hread.groups _ _).mpr ⟨own, hown, rfl⟩⟩
  have hof : languagesOf source (.map entries) = flatten source groups read := by
    rw [languagesOf, List.isEmpty_eq_false_iff.mpr nonempty]
    simp [hin]
  rw [hof]
  rcases flatten_leads source (hread.leads formed) hknown with
    ⟨language, -, hcycle, hrefused⟩ | ⟨out, hout, hmoved⟩
  · exact .inl ⟨language.name, hcycle, hrefused⟩
  · have hnames := names_flatten hout
    have hlast : ∀ after ∈ out, LastAbove (Follows entries) after.name after.group := by
      intro after hm
      obtain ⟨before, hb, hkept, hlast⟩ := hmoved after hm
      rw [hkept]
      exact hlast
    refine .inr ⟨out, hout, ⟨hnames.trans hread.names, fun after hm => ?_, hlast⟩, fun name hcycle => ?_⟩
    · obtain ⟨before, hb, hkept, -⟩ := hmoved after hm
      obtain ⟨own, hown, hlanguage⟩ := hread.described before hb
      have hbefore : { after with group := .null } = before := by
        rw [hkept, ← (languageOf_eq_ok hlanguage).2.2]
      rw [hbefore, hkept]
      exact ⟨own, hown, hlanguage⟩
    · obtain ⟨own, hown⟩ := known_of_cycle hcycle
      have hm : name ∈ read.map Language.name := by
        rw [hread.names, List.mem_eraseDups]
        obtain ⟨key, hm, hkey⟩ := mem_of_entryUnder? hown
        exact List.mem_map.mpr ⟨_, hm, hkey⟩
      rw [← hnames] at hm
      obtain ⟨after, hout, rfl⟩ := List.mem_map.mp hm
      exact (hlast after hout).acyclic (follows_unique entries) hcycle

theorem Flattened.top {entries : Entries} {languages : List Language}
    (flattened : Flattened source entries languages) {language other : Language}
    (hl : language ∈ languages) (ho : other ∈ languages) (hgroup : language.group = .text other.name) :
    other.group = .null := by
  have hlast := flattened.last language hl
  rw [hgroup] at hlast
  cases hlast with
  | group _ top =>
    generalize hother : other.group = group
    have habove := flattened.last other ho
    rw [hother] at habove
    cases habove with
    | none => rfl
    | group above =>
      obtain ⟨next, hnext, -⟩ := TransGen.head'_iff.mp above
      exact absurd hnext (top next)

end Tables

variable {tables : Tables} {languages : List Language}

theorem Catalog.TwoLevels.coarsen_coarsen {catalog : Catalog} (h : catalog.TwoLevels) (name : String) :
    ∃ label, catalog.coarsen name = .text label ∧ catalog.coarsen label = .text label := by
  cases hget : catalog.get? name with
  | none =>
    have hstranger : catalog.coarsen name = .text name := by simp [Catalog.coarsen, hget]
    exact ⟨name, hstranger, hstranger⟩
  | some language =>
    obtain ⟨hm, hname⟩ := Catalog.get?_mem hget
    have hcoarse : catalog.coarsen name = language.coarse := by simp [Catalog.coarsen, hget]
    by_cases hgroup : language.group.truthy = true
    · obtain ⟨label, hlabel⟩ : ∃ label, language.group = .text label := by
        have htextual := h.textual language hm
        cases hg : language.group with
        | text label => exact ⟨label, rfl⟩
        | null =>
          rw [hg] at hgroup
          cases hgroup
        | _ =>
          rw [hg] at htextual
          cases htextual
      refine ⟨label, by rw [hcoarse, Language.coarse, if_pos hgroup, hlabel], ?_⟩
      cases hother : catalog.get? label with
      | none => simp [Catalog.coarsen, hother]
      | some other =>
        obtain ⟨ho, rfl⟩ := Catalog.get?_mem hother
        simp [Catalog.coarsen, hother, Language.coarse, h.top language hm other ho hlabel]
    · have hself : catalog.coarsen name = .text name := by
        rw [hcoarse, Language.coarse, if_neg hgroup, hname]
      exact ⟨name, hself, hself⟩

theorem Catalog.ofTables_of_error {e : TableError}
    (h : (Tables.languagesOf tables.source tables.languages).2 = .error e) :
    (Catalog.ofTables tables).2 = .error e := by
  unfold Catalog.ofTables
  simp only
  split
  · rename_i he
    exact congrArg Except.error (Except.error.inj (he.symm.trans h))
  · rename_i hl
    rw [h] at hl
    cases hl

theorem Catalog.ofTables_of_languages
    (h : (Tables.languagesOf tables.source tables.languages).2 = .ok languages) :
    (Catalog.ofTables tables).2 = (do
      let vendor ← Tables.patternsOf (tables.source ++ ":vendor") tables.vendor
      let generated ← Tables.patternsOf (tables.source ++ ":generated") tables.generated
      let disambiguations ←
        Tables.disambiguationsOf (tables.source ++ ":heuristics") tables.heuristics
      .ok (Catalog.ofLanguages languages (Tables.languagesOf_nodup h) tables.source vendor generated
        disambiguations)) := by
  unfold Catalog.ofTables
  simp only
  split
  · rename_i he
    rw [h] at he
    cases he
  · rename_i hl
    obtain rfl := Except.ok.inj (hl.symm.trans h)
    rfl

theorem Catalog.ofTables_blames (h : (Tables.languagesOf tables.source tables.languages).2 = .ok languages)
    (fault : TableFault) :
    (Catalog.ofTables tables).2 ≠ .error (.refused (tables.source ++ ":languages") fault) := by
  have hapart {kind : String} (hne : kind ≠ ":languages") :
      tables.source ++ ":languages" ≠ tables.source ++ kind := by
    intro he
    exact hne (String.append_right_inj _ |>.mp he).symm
  rw [ofTables_of_languages h]
  intro he
  cases hvendor : Tables.patternsOf (tables.source ++ ":vendor") tables.vendor with
  | error e =>
    simp only [hvendor, bind, Except.bind] at he
    cases he
    exact hapart (by decide) (Tables.patternsOf_blames _ _ _ hvendor)
  | ok vendor =>
    cases hgenerated : Tables.patternsOf (tables.source ++ ":generated") tables.generated with
    | error e =>
      simp only [hvendor, hgenerated, bind, Except.bind] at he
      cases he
      exact hapart (by decide) (Tables.patternsOf_blames _ _ _ hgenerated)
    | ok generated =>
      cases hrules : Tables.disambiguationsOf (tables.source ++ ":heuristics") tables.heuristics with
      | error e =>
        simp only [hvendor, hgenerated, hrules, bind, Except.bind] at he
        cases he
        exact hapart (by decide) (Tables.disambiguationsOf_blames _ _ _ hrules)
      | ok disambiguations => simp [hvendor, hgenerated, hrules, bind, Except.bind] at he

open Tables

/-- A table of languages is refused for a cycle if and only if its links run into one. Otherwise, as
soon as the other tables are read, there is a catalog. It has the languages of the table in their
order with all that the table says, but each under the last group that the links from it lead to,
which is no language with a group. What a language counts as then counts as itself, whichever
languages are taken out. -/
theorem Catalog.ofTables_flattens {entries : Entries} (table : tables.languages = .map entries)
    (formed : WellFormedTable entries) :
    ((∃ name, (Catalog.ofTables tables).2 =
        .error (.refused (tables.source ++ ":languages") (.cyclicGroup name))) ↔
      ∃ name, RunsIntoCycle (Follows entries) name) ∧
    (entries ≠ [] → (∀ name, ¬ RunsIntoCycle (Follows entries) name) →
      ∀ vendor generated disambiguations,
        patternsOf (tables.source ++ ":vendor") tables.vendor = .ok vendor →
        patternsOf (tables.source ++ ":generated") tables.generated = .ok generated →
        disambiguationsOf (tables.source ++ ":heuristics") tables.heuristics = .ok disambiguations →
        ∃ catalog, (Catalog.ofTables tables).2 = .ok catalog ∧
          catalog.vendor = vendor ∧ catalog.generated = generated ∧
          catalog.disambiguations = disambiguations ∧ catalog.source = tables.source ∧
          Flattened tables.source entries catalog.languages ∧
          (∀ language ∈ catalog.languages, ∀ other ∈ catalog.languages,
            language.group = .text other.name → other.group = .null) ∧
          ∀ (filters : List (List String)) (name : String), ∃ label,
            (filters.foldl Catalog.without catalog).coarsen name = .text label ∧
              (filters.foldl Catalog.without catalog).coarsen label = .text label) := by
  refine ⟨⟨?_, ?_⟩, ?_⟩
  · rintro ⟨name, hrefused⟩
    by_cases nonempty : entries = []
    · have hnone : (languagesOf tables.source tables.languages).2 =
          refuse (tables.source ++ ":languages") .noLanguages := by
        rw [table, nonempty]
        rfl
      rw [ofTables_of_error hnone] at hrefused
      cases hrefused
    · rcases languagesOf_flattens tables.source formed nonempty with
        ⟨other, hcycle, -⟩ | ⟨languages, hlanguages, -, -⟩
      · exact ⟨other, hcycle⟩
      -- What comes after the languages is refused for other reasons.
      · exact absurd hrefused (ofTables_blames (table ▸ hlanguages) _)
  · rintro ⟨name, hcycle⟩
    have nonempty : entries ≠ [] := by
      rintro rfl
      obtain ⟨own, hown⟩ := known_of_cycle hcycle
      cases hown
    rcases languagesOf_flattens tables.source formed nonempty with
      ⟨other, -, hrefused⟩ | ⟨languages, -, -, hacyclic⟩
    · exact ⟨other, ofTables_of_error (table ▸ hrefused)⟩
    · exact absurd hcycle (hacyclic name)
  · intro nonempty hacyclic vendor generated disambiguations hvendor hgenerated hrules
    rcases languagesOf_flattens tables.source formed nonempty with
      ⟨name, hcycle, -⟩ | ⟨languages, hlanguages, hflattened, -⟩
    · exact absurd hcycle (hacyclic name)
    · have hof := ofTables_of_languages (table ▸ hlanguages)
      simp only [hvendor, hgenerated, hrules, bind, Except.bind] at hof
      have hgroups (other : Entries) (he : tables.languages = .map other) : other = entries := by
        rw [table] at he
        cases he
        rfl
      have htwo := ofTables_twoLevels (fun other he => hgroups other he ▸ formed.textualGroups)
        (fun other he => hgroups other he ▸ formed.emptyAside) hof
      exact ⟨_, hof, rfl, rfl, rfl, rfl, hflattened, fun language hl other ho => hflattened.top hl ho,
        fun filters name => (htwo.withoutAll filters).coarsen_coarsen name⟩

theorem wellFormed_pair (category : Category) {group : String} (proper : group ≠ "") :
    WellFormed [(.text "type", .text category.name), (.text "group", .text group)] :=
  ⟨⟨category, rfl⟩, by simp [HoldsTexts, entry, Entries.get?], .inr ⟨group, proper, rfl⟩⟩

/-- A table with a language that is two levels below its last group. -/
def threeLevels : Entries := [
  (.text "C", .map [(.text "type", .text "programming"), (.text "group", .text "C")]),
  (.text "A", .map [(.text "type", .text "programming"), (.text "group", .text "B")]),
  (.text "B", .map [(.text "type", .text "data"), (.text "group", .text "C")])]

theorem threeLevels_wellFormed : WellFormedTable threeLevels := by
  intro key value hm
  simp only [threeLevels, List.mem_cons, Prod.mk.injEq, List.not_mem_nil, or_false] at hm
  rcases hm with ⟨rfl, rfl⟩ | ⟨rfl, rfl⟩ | ⟨rfl, rfl⟩
  · exact ⟨rfl, _, rfl, wellFormed_pair .programming (by decide)⟩
  · exact ⟨rfl, _, rfl, wellFormed_pair .programming (by decide)⟩
  · exact ⟨rfl, _, rfl, wellFormed_pair .data (by decide)⟩

theorem Catalog.ofTables_flattens_threeLevels :
    WellFormedTable threeLevels ∧
      ∃ catalog, (Catalog.ofTables { languages := .map threeLevels }).2 = .ok catalog ∧
        Flattened "inline" threeLevels catalog.languages ∧
        catalog.languages.map Language.group = [.null, .text "C", .text "C"] := by
  obtain ⟨hcycles, hflattens⟩ :=
    @Catalog.ofTables_flattens { languages := .map threeLevels } threeLevels rfl threeLevels_wellFormed
  have hacyclic : ∀ name, ¬ RunsIntoCycle (Follows threeLevels) name := by
    intro name hcycle
    obtain ⟨other, hrefused⟩ := hcycles.mpr ⟨name, hcycle⟩
    cases hrefused
  obtain ⟨catalog, hcatalog, -, -, -, -, hflattened, -⟩ :=
    hflattens (by decide) hacyclic [] [] [] rfl rfl rfl
  refine ⟨threeLevels_wellFormed, catalog, hcatalog, hflattened, ?_⟩
  cases hcatalog
  rfl

end Polyglot
