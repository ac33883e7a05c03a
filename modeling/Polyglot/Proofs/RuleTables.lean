import Polyglot.Proofs.Misfits
import Polyglot.Proofs.Signals

namespace Polyglot

open Polyglot.Data (Value Scalar Entries)

namespace Tables

/-- The items of a list, or of a pair. -/
def itemsOf : Value → List Value
  | .list items => items
  | .pair first second => [first, second]
  | _ => []

/-- A text, or the texts of a list. -/
def textsOf : Value → List String
  | .text text => [text]
  | .list items => items.filterMap fun
    | .text text => some text
    | _ => none
  | _ => []

def entriesOf : Value → Entries
  | .map entries => entries
  | _ => []

/-- The patterns that go by a name. -/
def patternsNamed (named : Entries) : Value → List String
  | .text name => ((entryUnder? named name).map textsOf).getD []
  | _ => []

/-- The patterns of a rule, one of which must be found: its own, and those that it names. -/
def patternsIn (named own : Entries) : List String :=
  textsOf (entry own "pattern") ++ patternsNamed named (entry own "named_pattern")

def negativeIn (own : Entries) : List String := textsOf (entry own "negative_pattern")

def clausesWithin (own : Entries) : List Value := itemsOf (entry own "and")

/-- The rules of the groups that list an ending. -/
def rulesFor (heuristics : Value) (ending : String) : List Value :=
  ((itemsOf (entry (entriesOf heuristics) "disambiguations")).filter fun group =>
    (textsOf (entry (entriesOf group) "extensions")).any (Text.lower · == ending)).flatMap
      fun group => itemsOf (entry (entriesOf group) "rules")

/-- The patterns that rules can name. -/
def namedIn (heuristics : Value) : Entries := entriesOf (entry (entriesOf heuristics) "named_patterns")

end Tables

namespace Detection

open Tables

section
variable (named : Entries) (content : String)

/-- Whether a pattern is found in a content; one that does not compile is not. -/
def isFound (pattern : String) : Bool :=
  match compilePattern .regex "heuristics" pattern with
  | .ok matcher => matcher.test content
  | .error _ => false

/-- A rule of the table is satisfied: some pattern is found unless there is none, no negative pattern
is found, and all clauses are satisfied. -/
inductive Satisfied : Value → Prop
  | intro {own : Entries}
      (wanted : patternsIn named own = [] ∨ ∃ pattern ∈ patternsIn named own, isFound content pattern = true)
      (unwanted : ∀ pattern ∈ negativeIn own, isFound content pattern = false)
      (clauses : ∀ clause ∈ clausesWithin own, Satisfied clause) : Satisfied (.map own)

/-- A pattern does not compile and cannot be skipped either. -/
def Unskippable (pattern : String) (error : PatternError) : Prop :=
  compilePattern .regex "heuristics" pattern = .error error ∧ error.fatal = true

/-- A rule of the table, or a clause of it, has a pattern that cannot be skipped. -/
inductive Breaks : Value → PatternError → Prop
  | own {own : Entries} {pattern : String} {error : PatternError}
      (member : pattern ∈ patternsIn named own ++ negativeIn own) (fatal : Unskippable pattern error) :
      Breaks (.map own) error
  | clause {own : Entries} {clause : Value} {error : PatternError} (member : clause ∈ clausesWithin own)
      (breaks : Breaks clause error) : Breaks (.map own) error

end

section
variable (catalog : Catalog) (options : Options) (candidates : Candidates) (named : Entries)
  (content : String)

/-- A rule is for a language of the catalog that is a candidate, or whose group is one. -/
structure IsFor (rule : Value) (language : Language) : Prop where
  named : ruleLanguage? (entry (entriesOf rule) "language") = some language.name
  known : language ∈ catalog.languages
  candidate : candidates.contains (.text language.name) = true ∨
    language.group ≠ .null ∧ candidates.contains language.group = true

/-- What rules of the table choose, in their order: the first that is for a candidate and is satisfied
decides. A rule for a candidate with a pattern that cannot be skipped may end the search. -/
inductive Choose : List Value → Except PatternError (Option Label) → Prop
  | none : Choose [] (.ok none)
  | first {rule : Value} {rest : List Value} {language : Language}
      (able : IsFor catalog candidates rule language) (satisfied : Satisfied named content rule) :
      Choose (rule :: rest)
        (.ok (some (if options.childLanguages then .text language.name else language.coarse)))
  | next {rule : Value} {rest : List Value} {chosen : Except PatternError (Option Label)}
      (passed : ∀ language, IsFor catalog candidates rule language → ¬ Satisfied named content rule)
      (others : Choose rest chosen) : Choose (rule :: rest) chosen
  | ended {rule : Value} {rest : List Value} {language : Language} {error : PatternError}
      (able : IsFor catalog candidates rule language) (breaks : Breaks named rule error) :
      Choose (rule :: rest) (.error error)

end

section
variable {α : Type} {search : Sifting Bool} {found other : Prop} {faults faults' : PatternError → Prop}

/-- A search decides a question, whatever was skipped before: its answer is right, and an error is one
of some faults. -/
def Decides (search : Sifting Bool) (found : Prop) (faults : PatternError → Prop) : Prop :=
  ∀ skipped, (∀ answer, (search.run.run skipped).1 = .ok answer → (answer = true ↔ found)) ∧
    ∀ error, (search.run.run skipped).1 = .error error → faults error

theorem Decides.congr (h : Decides search found faults) (same : found ↔ other)
    (more : ∀ error, faults error → faults' error) : Decides search other faults' := by
  intro skipped
  obtain ⟨right, explained⟩ := h skipped
  exact ⟨fun answer ha => (right answer ha).trans same, fun error he => more error (explained error he)⟩

theorem Decides.pure {answer : Bool} (right : answer = true ↔ found) :
    Decides (Pure.pure answer) found faults := by
  intro skipped
  refine ⟨fun other ho => ?_, nofun⟩
  cases ho
  exact right

theorem Decides.bind {next : Bool → Sifting Bool} (first : Decides search found faults)
    (rest : ∀ answer, (answer = true ↔ found) → Decides (next answer) other faults) :
    Decides (search >>= next) other faults := by
  intro skipped
  obtain ⟨right, explained⟩ := first skipped
  rw [ExceptT.run_bind, run_andThen]
  rcases hs : (search.run.run skipped) with ⟨outcome, later⟩
  rw [hs] at right explained
  cases outcome with
  | error error =>
    refine ⟨nofun, fun e he => ?_⟩
    cases he
    exact explained error rfl
  | ok answer => exact rest answer (right answer rfl) later

theorem Decides.anyM {test : α → Sifting Bool} {holds : α → Prop} (items : List α)
    (each : ∀ item ∈ items, Decides (test item) (holds item) faults) :
    Decides (items.anyM test) (∃ item ∈ items, holds item) faults := by
  induction items with
  | nil => exact .pure (by simp)
  | cons item rest ih =>
    have hrest := ih fun other hm => each other (List.mem_cons_of_mem _ hm)
    rw [List.anyM]
    refine (each item (by simp)).bind fun answer right => ?_
    cases answer with
    | true => exact .pure (by simp [right.mp rfl])
    | false =>
      have hnot : ¬ holds item := fun h => Bool.false_ne_true (right.mpr h)
      exact hrest.congr (by simp [hnot]) fun _ he => he

end

theorem decides_finds (content pattern : String) :
    Decides (finds content pattern) (isFound content pattern = true) (Unskippable pattern) := by
  unfold finds isFound Unskippable
  cases hc : compilePattern .regex "heuristics" pattern with
  | ok matcher => exact .pure Iff.rfl
  | error error =>
    simp only
    split
    · rename_i hfatal
      refine fun skipped => ⟨nofun, fun other he => ?_⟩
      cases he
      exact ⟨rfl, hfatal⟩
    · refine fun skipped => ⟨fun answer ha => ?_, nofun⟩
      cases ha
      simp

theorem decides_anyFound (content : String) (patterns : List String) :
    Decides (patterns.anyM (finds content)) (∃ pattern ∈ patterns, isFound content pattern = true)
      fun error => ∃ pattern ∈ patterns, Unskippable pattern error :=
  Decides.anyM patterns fun pattern hm => (decides_finds content pattern).congr Iff.rfl
    fun _ he => ⟨pattern, hm, he⟩

end Detection

namespace Tables

variable {source key language : String} {value : Value} {named : NamedPatterns} {table : Entries}

theorem textsUnder_eq {texts : List String} (h : textsUnder source key value = .ok texts) :
    texts = textsOf value := by
  unfold textsUnder at h
  split at h
  · cases h
    rfl
  · cases h
    rfl
  · split at h
    · rename_i found hfound
      cases h
      rw [texts?_eq_some_iff.mp hfound]
      simp [textsOf, List.filterMap_map]
    · cases h
  · cases h

theorem partsOf_eq {parts : List Value} (h : partsOf value = .ok parts)
    (maps : ∀ part ∈ parts, ∃ own, part = .map own) : itemsOf value = parts := by
  unfold partsOf at h
  split at h
  · rename_i absent
    cases h
    cases value with
    | list items => simpa [Value.truthy, itemsOf] using absent
    | pair first second => simp [Value.truthy] at absent
    | _ => rfl
  · rename_i given
    have noScalars {α : Type} {items : List α} {scalar : α → Scalar}
        (hparts : parts = items.map fun item => .scalar (scalar item)) : parts = [] := by
      rw [hparts] at maps ⊢
      cases items with
      | nil => rfl
      | cons first rest =>
        obtain ⟨own, ho⟩ := maps _ (List.mem_map_of_mem (List.mem_cons_self ..))
        cases ho
    split at h
    · cases h
      rfl
    · exact (noScalars (Except.ok.inj h).symm).symm
    · exact (noScalars (Except.ok.inj h).symm).symm
    · exact (noScalars (Except.ok.inj h).symm).symm
    · cases h
      rfl
    · exact (noScalars (Except.ok.inj h).symm).symm
    · cases h
    · cases h

theorem entryUnder?_cons (key : Scalar) (value : Value) (rest : Entries) (name : String) :
    entryUnder? ((key, value) :: rest) name =
      (entryUnder? rest name).or (if key.name = name then some value else none) := by
  rw [entryUnder?, List.reverse_cons, List.find?_append, entryUnder?]
  by_cases h : key.name = name <;> cases rest.reverse.find? (·.1.name == name) <;> simp [h]

theorem namedPatternsIn_find? {entries : Entries} {out : NamedPatterns}
    (h : namedPatternsIn source entries named = .ok out) (name : String) :
    (out.find? (·.1 == name)).map Prod.snd =
      ((entryUnder? entries name).map textsOf).or ((named.find? (·.1 == name)).map Prod.snd) := by
  induction entries generalizing named with
  | nil =>
    cases h
    rfl
  | cons item rest ih =>
    obtain ⟨key, value⟩ := item
    obtain ⟨_, -, h⟩ := eq_ok_of_bind h
    obtain ⟨patterns, hpatterns, h⟩ := eq_ok_of_bind h
    rw [ih h, entryUnder?_cons, textsUnder_eq hpatterns, List.find?_append, List.find?_filter]
    by_cases hk : key.name = name
    · have hnone : (named.find? fun entry => decide
          ((entry.1 != key.name) = true ∧ (entry.1 == name) = true)) = none := by
        simp [List.find?_eq_none, hk]
      rw [hnone]
      cases entryUnder? rest name <;> simp [hk]
    · have hsame : (fun entry : String × List String => decide
          ((entry.1 != key.name) = true ∧ (entry.1 == name) = true)) = (·.1 == name) := by
        funext entry
        by_cases he : entry.1 = name
        · simp [he, Ne.symm hk]
        · simp [he]
      rw [hsame]
      cases entryUnder? rest name <;> simp [hk]

/-- Each name stands for the patterns that a table has under it. -/
def NamedAsIn (named : NamedPatterns) (table : Entries) : Prop :=
  ∀ name, (named.find? (·.1 == name)).map Prod.snd = (entryUnder? table name).map textsOf

theorem namedPatternsOf_namedAsIn (h : namedPatternsOf source value = .ok named) :
    NamedAsIn named (entriesOf value) := by
  intro name
  unfold namedPatternsOf at h
  split at h
  · rename_i absent
    cases h
    cases value with
    | map entries =>
      obtain rfl : entries = [] := by simpa [Value.truthy] using absent
      rfl
    | _ => rfl
  · split at h
    · rw [namedPatternsIn_find? h]
      simp [entriesOf]
    · cases h

theorem namedBy_eq (reads : NamedAsIn named table) {patterns : List String}
    (h : namedBy source named value = .ok patterns) : patterns = patternsNamed table value := by
  unfold namedBy at h
  split at h
  · cases h
    rfl
  · rename_i name
    split at h
    · rename_i found hfound
      cases h
      rw [patternsNamed, ← reads, hfound]
      rfl
    · cases h
  · obtain ⟨_, -, h⟩ := eq_ok_of_bind h
    cases h
  · cases h

end Tables

namespace Detection

open Tables

section
variable {source language content : String} {named : NamedPatterns} {table : Entries}

theorem satisfied_map {own : Entries} :
    Satisfied table content (.map own) ↔
      (patternsIn table own = [] ∨ ∃ pattern ∈ patternsIn table own, isFound content pattern = true) ∧
        (∀ pattern ∈ negativeIn own, isFound content pattern = false) ∧
          ∀ clause ∈ clausesWithin own, Satisfied table content clause := by
  constructor
  · rintro ⟨wanted, unwanted, clauses⟩
    exact ⟨wanted, unwanted, clauses⟩
  · rintro ⟨wanted, unwanted, clauses⟩
    exact ⟨wanted, unwanted, clauses⟩

theorem decides_conditions {own : Entries} {clauses : List ContentRule}
    (below : Decides (allHold content clauses)
      (∀ clause ∈ clausesWithin own, Satisfied table content clause)
      fun error => ∃ clause ∈ clausesWithin own, Breaks table clause error) :
    Decides (holds content ⟨language, patternsIn table own, negativeIn own, clauses⟩)
      (Satisfied table content (.map own)) (Breaks table (.map own)) := by
  have hpatterns : Decides ((patternsIn table own).anyM (finds content))
      (∃ pattern ∈ patternsIn table own, isFound content pattern = true) (Breaks table (.map own)) :=
    (decides_anyFound content _).congr Iff.rfl fun _ ⟨_, hm, fatal⟩ =>
      .own (List.mem_append_left _ hm) fatal
  have hnegative : Decides ((negativeIn own).anyM (finds content))
      (∃ pattern ∈ negativeIn own, isFound content pattern = true) (Breaks table (.map own)) :=
    (decides_anyFound content _).congr Iff.rfl fun _ ⟨_, hm, fatal⟩ =>
      .own (List.mem_append_right _ hm) fatal
  rw [holds]
  refine hpatterns.bind fun wanted hwanted => ?_
  split
  · rename_i hnone
    refine .pure (iff_of_false Bool.false_ne_true fun h => ?_)
    simp only [Bool.and_eq_true, Bool.not_eq_true', List.isEmpty_eq_false_iff] at hnone
    have hfound := (satisfied_map.mp h).1.resolve_left hnone.1
    simp [hwanted.mpr hfound] at hnone
  · rename_i hsome
    have hpositive : patternsIn table own = [] ∨
        ∃ pattern ∈ patternsIn table own, isFound content pattern = true := by
      simp only [Bool.and_eq_true, Bool.not_eq_true', List.isEmpty_eq_false_iff, not_and,
        Bool.not_eq_false] at hsome
      by_cases hempty : patternsIn table own = []
      · exact .inl hempty
      · exact .inr (hwanted.mp (hsome hempty))
    -- The clauses are asked only if no unwanted pattern is found.
    refine hnegative.bind fun unwanted hunwanted => ?_
    split
    · rename_i hfound
      refine .pure (iff_of_false Bool.false_ne_true fun h => ?_)
      obtain ⟨pattern, hm, hf⟩ := hunwanted.mp hfound
      simp [(satisfied_map.mp h).2.1 pattern hm] at hf
    · rename_i hnot
      have hnone : ∀ pattern ∈ negativeIn own, isFound content pattern = false := by
        intro pattern hm
        cases hf : isFound content pattern with
        | false => rfl
        | true => exact absurd (hunwanted.mpr ⟨pattern, hm, hf⟩) hnot
      refine below.congr ?_ fun _ ⟨_, hm, breaks⟩ => .clause hm breaks
      rw [satisfied_map]
      exact ⟨fun h => ⟨hpositive, hnone, h⟩, fun h => h.2.2⟩

-- The readers of a rule, of its clauses and of a list of clauses call each other, and so do the proofs.
mutual

theorem decides_ruleOf (reads : NamedAsIn named table) (value : Value) {rule : ContentRule}
    (h : ruleOf source language named value = .ok rule) :
    Decides (holds content rule) (Satisfied table content value) (Breaks table value) := by
  unfold ruleOf at h
  split at h
  · obtain ⟨inline, hinline, h⟩ := eq_ok_of_bind h
    obtain ⟨byName, hbyName, h⟩ := eq_ok_of_bind h
    obtain ⟨clauses, hclauses, h⟩ := eq_ok_of_bind h
    obtain ⟨negative, hnegative, h⟩ := eq_ok_of_bind h
    cases h
    rw [textsUnder_eq hinline, namedBy_eq reads hbyName, textsUnder_eq hnegative]
    exact decides_conditions (decides_clausesIn reads _ hclauses)
  · cases h
  · cases h

theorem decides_clausesIn (reads : NamedAsIn named table) (own : Entries) {clauses : List ContentRule}
    (h : clausesIn source language named own = .ok clauses) :
    Decides (allHold content clauses)
      (∀ clause ∈ clausesWithin own, Satisfied table content clause)
      fun error => ∃ clause ∈ clausesWithin own, Breaks table clause error := by
  unfold clausesIn at h
  split at h
  · cases h
    rw [allHold]
    exact .pure (by simp [clausesWithin, entry, Entries.get?, itemsOf])
  · rename_i key value rest
    split at h
    · rename_i hkey
      have hfound : clausesWithin ((key, value) :: rest) = itemsOf value := by
        simp [clausesWithin, entry, Entries.get?, hkey]
      rw [hfound]
      exact decides_clausesOf reads value h
    · rename_i hkey
      have hrest : clausesWithin ((key, value) :: rest) = clausesWithin rest := by
        simp [clausesWithin, entry, Entries.get?, hkey]
      rw [hrest]
      exact decides_clausesIn reads rest h

theorem decides_clausesOf (reads : NamedAsIn named table) (value : Value) {clauses : List ContentRule}
    (h : clausesOf source language named value = .ok clauses) :
    Decides (allHold content clauses) (∀ clause ∈ itemsOf value, Satisfied table content clause)
      fun error => ∃ clause ∈ itemsOf value, Breaks table clause error := by
  unfold clausesOf at h
  split at h
  · exact decides_rulesOf reads _ h
  · cases h
  · obtain ⟨parts, hparts, h⟩ := eq_ok_of_bind h
    split at h
    · rename_i hempty
      cases h
      obtain rfl := List.isEmpty_iff.mp hempty
      rw [partsOf_eq hparts (by simp), allHold]
      exact .pure (by simp)
    · cases h

theorem decides_rulesOf (reads : NamedAsIn named table) (items : List Value) {rules : List ContentRule}
    (h : rulesOf source language named items = .ok rules) :
    Decides (allHold content rules) (∀ item ∈ items, Satisfied table content item)
      fun error => ∃ item ∈ items, Breaks table item error := by
  unfold rulesOf at h
  split at h
  · cases h
    rw [allHold]
    exact .pure (by simp)
  · rename_i item rest
    obtain ⟨rule, hrule, h⟩ := eq_ok_of_bind h
    obtain ⟨others, hothers, h⟩ := eq_ok_of_bind h
    cases h
    rw [allHold]
    refine ((decides_ruleOf reads item hrule).congr Iff.rfl fun error he =>
      ⟨item, List.mem_cons_self .., he⟩).bind fun here hhere => ?_
    split
    · rename_i htrue
      refine (decides_rulesOf reads rest hothers).congr ?_ fun error ⟨other, hm, he⟩ =>
        ⟨other, List.mem_cons_of_mem _ hm, he⟩
      simp [hhere.mp htrue]
    · rename_i hfalse
      refine .pure (iff_of_false Bool.false_ne_true fun h => ?_)
      exact hfalse (hhere.mpr (h item (List.mem_cons_self ..)))

end

end

/-- A rule that is made of an entry: it is for the same language, and holds if and only if the entry is
satisfied. -/
structure Means (table : Entries) (value : Value) (rule : ContentRule) : Prop where
  language : ruleLanguage? (entry (entriesOf value) "language") = some rule.language
  decides : ∀ content, Decides (holds content rule) (Satisfied table content value) (Breaks table value)

/-- A group that is made of an entry. -/
structure MeansGroup (table : Entries) (value : Value) (group : Disambiguation) : Prop where
  extensions : group.extensions = (textsOf (entry (entriesOf value) "extensions")).map Text.lower
  rules : List.Forall₂ (Means table) (itemsOf (entry (entriesOf value) "rules")) group.rules

section
variable {source : String} {value : Value} {named : NamedPatterns} {table : Entries}

theorem forall₂_of_mapM {ε α β : Type} {f : α → Except ε β} {list : List α} {outcomes : List β}
    (h : list.mapM f = .ok outcomes) :
    List.Forall₂ (fun item outcome => f item = .ok outcome) list outcomes := by
  have hall : List.Forall₂ Eq (list.map f) (outcomes.map .ok) :=
    List.forall₂_eq_eq_eq ▸ mapM_eq_ok_iff.mp h
  rwa [List.forall₂_map_left_iff, List.forall₂_map_right_iff] at hall

theorem items_of_mapM {α : Type} {read : Value → Result α} {parts : List Value} {outcomes : List α}
    (hparts : partsOf value = .ok parts) (h : parts.mapM read = .ok outcomes)
    (maps : ∀ item outcome, read item = .ok outcome → ∃ own, item = .map own) :
    List.Forall₂ (fun item outcome => read item = .ok outcome) (itemsOf value) outcomes := by
  have hall := forall₂_of_mapM h
  have hmaps : ∀ part ∈ parts, ∃ own, part = .map own := by
    intro part hm
    obtain ⟨outcome, -, ho⟩ := outcome_of_mapM h hm
    exact maps part outcome ho
  rw [partsOf_eq hparts hmaps]
  exact hall

theorem ruleOf_language {language : String} {rule : ContentRule}
    (h : ruleOf source language named value = .ok rule) : rule.language = language := by
  unfold ruleOf at h
  split at h
  · obtain ⟨_, -, h⟩ := eq_ok_of_bind h
    obtain ⟨_, -, h⟩ := eq_ok_of_bind h
    obtain ⟨_, -, h⟩ := eq_ok_of_bind h
    obtain ⟨_, -, h⟩ := eq_ok_of_bind h
    cases h
    rfl
  · cases h
  · cases h

theorem groupRule_means (reads : NamedAsIn named table) {extensions : List String} {rule : ContentRule}
    (h : groupRule source named extensions value = .ok rule) :
    (∃ own, value = .map own) ∧ Means table value rule := by
  unfold groupRule at h
  split at h
  · rename_i own
    split at h
    · rename_i language hlanguage
      refine ⟨⟨own, rfl⟩, ?_, fun content => decides_ruleOf reads _ h⟩
      rw [ruleOf_language h]
      exact hlanguage
    · cases h
  · cases h

theorem disambiguationOf_means (reads : NamedAsIn named table) {group : Disambiguation}
    (h : disambiguationOf source named value = .ok group) :
    (∃ own, value = .map own) ∧ MeansGroup table value group := by
  unfold disambiguationOf at h
  split at h
  · rename_i own
    obtain ⟨extensions, hextensions, h⟩ := eq_ok_of_bind h
    obtain ⟨parts, hparts, h⟩ := eq_ok_of_bind h
    obtain ⟨rules, hrules, h⟩ := eq_ok_of_bind h
    cases h
    have hitems := items_of_mapM hparts hrules fun _ _ h => (groupRule_means reads h).1
    exact ⟨⟨own, rfl⟩, by rw [textsUnder_eq hextensions]; rfl,
      hitems.imp fun _ _ h => (groupRule_means reads h).2⟩
  · cases h

theorem disambiguationsOf_means {groups : List Disambiguation}
    (h : disambiguationsOf source value = .ok groups) :
    List.Forall₂ (MeansGroup (namedIn value)) (itemsOf (entry (entriesOf value) "disambiguations"))
      groups := by
  unfold disambiguationsOf at h
  split at h
  · rename_i absent
    cases h
    have hnone : entry (entriesOf value) "disambiguations" = .null := by
      cases value with
      | map entries =>
        obtain rfl : entries = [] := by simpa [Value.truthy] using absent
        rfl
      | _ => rfl
    rw [hnone]
    exact .nil
  · split at h
    · obtain ⟨named, hnamed, h⟩ := eq_ok_of_bind h
      obtain ⟨parts, hparts, h⟩ := eq_ok_of_bind h
      have reads := namedPatternsOf_namedAsIn hnamed
      exact (items_of_mapM hparts h fun _ _ h => (disambiguationOf_means reads h).1).imp
        fun _ _ h => (disambiguationOf_means reads h).2
    · cases h

theorem rulesFor_means {groups : List Disambiguation}
    (h : disambiguationsOf source value = .ok groups) (ending : String) :
    List.Forall₂ (Means (namedIn value)) (rulesFor value ending)
      ((groups.filter fun group => group.extensions.contains ending).flatMap Disambiguation.rules) := by
  have hgroups := disambiguationsOf_means h
  clear h
  rw [rulesFor]
  generalize itemsOf (entry (entriesOf value) "disambiguations") = listed at hgroups ⊢
  induction hgroups with
  | nil => exact .nil
  | @cons item group items others means _ ih =>
    have hlists : group.extensions.contains ending =
        (textsOf (entry (entriesOf item) "extensions")).any (Text.lower · == ending) := by
      rw [means.extensions, List.contains_eq_any_beq, List.any_map]
      simp only [Function.comp_def, BEq.comm]
    rw [List.filter_cons, List.filter_cons, hlists]
    split
    · rw [List.flatMap_cons, List.flatMap_cons]
      exact List.rel_append means.rules ih
    · exact ih

end

/-- A group that lists an ending twice is gone through twice, and nothing new is found there. -/
theorem find?_disambiguationsFor (catalog : Catalog) (path : String) (test : ContentRule → Bool) :
    ((disambiguationsFor catalog path).flatMap Disambiguation.rules).find? test =
      ((catalog.disambiguations.filter fun group =>
        group.extensions.contains (Text.lower (Path.ofText path).suffix)).flatMap
          Disambiguation.rules).find? test := by
  rw [disambiguationsFor]
  generalize Text.lower (Path.ofText path).suffix = ending
  -- As often as a group comes again, its first rule that passes is the one found already.
  have hgroup (group : Disambiguation) : (((group.extensions.filter (· == ending)).map fun _ =>
      group).flatMap Disambiguation.rules).find? test =
        if group.extensions.contains ending then group.rules.find? test else none := by
    induction group.extensions with
    | nil => rfl
    | cons first rest ih =>
      by_cases hf : first = ending
      · rw [List.filter_cons_of_pos (by simp [hf]), List.map_cons, List.flatMap_cons, List.find?_append,
          ih]
        cases group.rules.find? test <;> simp [hf]
      · rw [List.filter_cons_of_neg (by simp [hf]), ih]
        simp [Ne.symm hf]
  induction catalog.disambiguations with
  | nil => rfl
  | cons group rest ih =>
    rw [List.flatMap_cons, List.flatMap_append, List.find?_append, hgroup, ih, List.filter_cons]
    split
    · rw [List.flatMap_cons, List.find?_append]
    · rfl

section
variable {catalog : Catalog} {options : Options} {candidates : Candidates} {table : Entries}
  {content : String}

theorem eligible_iff (catalog : Catalog) (candidates : Candidates) {value : Value} {name : String}
    (language : ruleLanguage? (entry (entriesOf value) "language") = some name) :
    eligible catalog candidates name = true ↔
      ∃ known, IsFor catalog candidates value known ∧ known.name = name := by
  rw [eligible, Bool.and_eq_true, Bool.or_eq_true, Bool.and_eq_true, Catalog.contains,
    Option.isSome_iff_exists]
  constructor
  · rintro ⟨⟨known, hget⟩, candidate⟩
    obtain ⟨hm, rfl⟩ := Catalog.get?_mem hget
    rw [Catalog.parentOf, hget] at candidate
    exact ⟨known, ⟨language, hm, by simpa using candidate⟩, rfl⟩
  · rintro ⟨known, able, rfl⟩
    have hget := Catalog.get?_of_mem able.known
    refine ⟨⟨known, hget⟩, ?_⟩
    rw [Catalog.parentOf, hget]
    simpa using able.candidate

/-- The first of the rules that are asked, and do not refuse, gives what the entries choose. -/
theorem choose_of_means {values : List Value} {rules : List ContentRule}
    (means : List.Forall₂ (Means table) values rules) :
    Choose catalog options candidates table content values
      (Except.map (Option.map (labelOf catalog options))
        (match rules.find? fun rule =>
            eligible catalog candidates rule.language && !refuses content rule with
          | none => .ok none
          | some rule => (tested content rule).map fun _ => some rule.language)) := by
  induction means with
  | nil => exact .none
  | @cons value rule values rules first _ ih =>
    -- The answer does not depend on what was skipped, so it is enough to ask at the start.
    obtain ⟨right, explained⟩ := first.decides content []
    have hable := eligible_iff catalog candidates first.language
    rw [List.find?_cons]
    cases he : eligible catalog candidates rule.language with
    | false =>
      rw [Bool.false_and]
      refine .next (fun known able _ => ?_) ih
      have hname : known.name = rule.language := Option.some.inj (able.named.symm.trans first.language)
      rw [hable.mpr ⟨known, able, hname⟩] at he
      cases he
    | true =>
      obtain ⟨known, able, hname⟩ := hable.mp he
      rw [Bool.true_and]
      cases ht : tested content rule with
      | error error =>
        simp only [refuses, ht, Bool.not_false]
        exact .ended able (explained error ht)
      | ok answer =>
        cases answer with
        | false =>
          simp only [refuses, ht, Bool.not_true]
          exact .next (fun _ _ satisfied => Bool.false_ne_true ((right false ht).mpr satisfied)) ih
        | true =>
          have hlabel : labelOf catalog options rule.language =
              if options.childLanguages then .text known.name else known.coarse :=
            hname ▸ labelOf_of_mem able.known
          simp only [refuses, ht, Bool.not_false, Except.map, Option.map_some, hlabel]
          exact .first able ((right true ht).mp rfl)

theorem disambiguations_withoutAll (catalog : Catalog) (filters : List (List String)) :
    (filters.foldl Catalog.without catalog).disambiguations = catalog.disambiguations := by
  induction filters generalizing catalog with
  | nil => rfl
  | cons names rest ih =>
    rw [List.foldl_cons, ih, Catalog.without]
    split <;> rfl

theorem disambiguations_ofTables {tables : Tables} {table : Catalog}
    (made : (Catalog.ofTables tables).2 = .ok table) :
    disambiguationsOf (tables.source ++ ":heuristics") tables.heuristics = .ok table.disambiguations := by
  rw [Catalog.ofTables_of_languages (Catalog.ofTables_languages made)] at made
  obtain ⟨vendor, -, made⟩ := eq_ok_of_bind made
  obtain ⟨generated, -, made⟩ := eq_ok_of_bind made
  obtain ⟨disambiguations, hread, made⟩ := eq_ok_of_bind made
  rw [← Except.ok.inj made]
  exact hread

end

/-- What the rules choose for a path and a content does not depend on what was skipped before. Nothing
is chosen where rules are not asked or there are not several candidates. Otherwise it is what the table
chooses: the label of the first rule that is for a candidate and is satisfied. -/
theorem chosen?_byTable {tables : Tables} {table : Catalog}
    (made : (Catalog.ofTables tables).2 = .ok table) (filters : List (List String)) (options : Options)
    (path : String) (candidates : Candidates) (content : String) :
    let known := filters.foldl Catalog.without table
    ∃ chosen : Except PatternError (Option Label),
      (∀ skipped, ((chosen? known options path candidates content).run.run skipped).1.map
        (Option.map (labelOf known options)) = chosen) ∧
      (options.checkHeuristics = false ∨ candidates.size < 2 → chosen = .ok none) ∧
      (options.checkHeuristics = true → 2 ≤ candidates.size →
        Choose known options candidates (namedIn tables.heuristics) content
          (rulesFor tables.heuristics (Text.lower (Path.ofText path).suffix)) chosen) := by
  intro known
  have hvalue (skipped : List PatternError) := chosen?_value known options path candidates content skipped
  refine ⟨_, fun skipped => congrArg _ (hvalue skipped), fun unasked => ?_, fun asked several => ?_⟩
  · have hnone : asksRules known options path candidates = false := by
      rcases unasked with off | few
      · simp [asksRules, off]
      · have hnot : ¬ 1 < candidates.size := by omega
        simp [asksRules, hnot]
    simp [applicable, hnone, Except.map]
  · have hmeans : List.Forall₂ (Means (namedIn tables.heuristics))
        (rulesFor tables.heuristics (Text.lower (Path.ofText path).suffix))
        ((known.disambiguations.filter fun group =>
          group.extensions.contains (Text.lower (Path.ofText path).suffix)).flatMap
            Disambiguation.rules) := by
      rw [disambiguations_withoutAll]
      exact rulesFor_means (disambiguations_ofTables made) _
    have hfind : (applicable known options path candidates).find? (!refuses content ·) =
        ((known.disambiguations.filter fun group =>
          group.extensions.contains (Text.lower (Path.ofText path).suffix)).flatMap
            Disambiguation.rules).find? fun rule =>
              eligible known candidates rule.language && !refuses content rule := by
      rw [← find?_disambiguationsFor, applicable]
      split
      · rw [List.find?_filter]
        congr 1
        funext rule
        simp
      · rename_i hnone
        have hempty : disambiguationsFor known path = [] := by
          have hsize : 1 < candidates.size := several
          simpa [asksRules, asked, hsize] using hnone
        rw [hempty]
        rfl
    rw [hfind]
    exact choose_of_means hmeans

/-- Two languages of headers, with rules that name patterns and have clauses. -/
def headers : Tables where
  languages := .map [
    (.text "C", .map [(.text "type", .text "data"), (.text "extensions", .text ".h")]),
    (.text "C++", .map [(.text "type", .text "data"), (.text "extensions", .text ".h")])]
  heuristics := .map [
    (.text "disambiguations", .list [.map [
      (.text "extensions", .list [.text ".hh", .text ".H"]),
      (.text "rules", .list [
        .map [
          (.text "language", .list [.text "C++", .text "C"]),
          (.text "named_pattern", .text "cpp"),
          (.text "and", .list [.map [(.text "negative_pattern", .text "define")]])],
        .map [(.text "language", .text "C")]])]]),
    (.text "named_patterns", .map [(.text "cpp", .list [.text "^class", .text "^template"])])]

/-- Also after other patterns were skipped, the rule with the named pattern decides. -/
theorem chosen?_byTable_headers :
    ∃ table, (Catalog.ofTables headers).2 = .ok table ∧
      (∀ skipped, ((chosen? table {} "x/a.h" ⟨[.text "C", .text "C++"]⟩ "class A").run.run
        skipped).1.map (Option.map (labelOf table {})) = .ok (some (.text "C++"))) ∧
      Choose table {} ⟨[.text "C", .text "C++"]⟩ (namedIn headers.heuristics) "class A"
        (rulesFor headers.heuristics ".h") (.ok (some (.text "C++"))) := by
  let table : Catalog := Catalog.ofLanguages [
    { name := "C", category := .data, extensions := [".h"] },
    { name := "C++", category := .data, extensions := [".h"] }] (by decide) "inline" [] []
    [⟨[".hh", ".h"], [
      { language := "C++", patterns := ["^class", "^template"],
        clauses := [{ language := "C++", negative := ["define"] }] },
      { language := "C" }]⟩]
  have hmade : (Catalog.ofTables headers).2 = .ok table := by cbv
  obtain ⟨chosen, hsame, -, hchoose⟩ := chosen?_byTable hmade [] {} "x/a.h"
    ⟨[.text "C", .text "C++"]⟩ "class A"
  have hfirst : ((chosen? table {} "x/a.h" ⟨[.text "C", .text "C++"]⟩ "class A").run.run
      []).1.map (Option.map (labelOf table {})) = .ok (some (.text "C++")) := by cbv
  obtain rfl : chosen = .ok (some (.text "C++")) := (hsame []).symm.trans hfirst
  have hending : Text.lower (Path.ofText "x/a.h").suffix = ".h" := by cbv
  exact ⟨table, hmade, hsame, hending ▸ hchoose rfl (by decide)⟩

/-- A rule with a repetition that is too large to compile, before one that always holds. -/
def excessive : Tables where
  languages := headers.languages
  heuristics := .map [(.text "disambiguations", .list [.map [
    (.text "extensions", .text ".h"),
    (.text "rules", .list [
      .map [(.text "language", .text "C"), (.text "pattern", .text "a\x7b99999999999999999999\x7d")],
      .map [(.text "language", .text "C++")]])]])]

/-- The pattern is not found, and the rule after it is not reached. -/
theorem chosen?_unreached :
    ∃ table, (Catalog.ofTables excessive).2 = .ok table ∧
      isFound "int a;" "a\x7b99999999999999999999\x7d" = false ∧
      (∃ first second language,
        rulesFor excessive.heuristics (Text.lower (Path.ofText "a.h").suffix) = [first, second] ∧
        ¬ Satisfied (namedIn excessive.heuristics) "int a;" first ∧
        IsFor table ⟨[.text "C", .text "C++"]⟩ second language ∧ language.name = "C++" ∧
        Satisfied (namedIn excessive.heuristics) "int a;" second) ∧
      ∃ error, (chosen? table {} "a.h" ⟨[.text "C", .text "C++"]⟩ "int a;").run.run [] =
        (.error error, []) := by
  let table : Catalog := Catalog.ofLanguages [
    { name := "C", category := .data, extensions := [".h"] },
    { name := "C++", category := .data, extensions := [".h"] }] (by decide) "inline" [] []
    [⟨[".h"], [
      { language := "C", patterns := ["a\x7b99999999999999999999\x7d"] },
      { language := "C++" }]⟩]
  have hmade : (Catalog.ofTables excessive).2 = .ok table := by cbv
  have hfound : isFound "int a;" "a\x7b99999999999999999999\x7d" = false := by cbv
  have hrules : rulesFor excessive.heuristics (Text.lower (Path.ofText "a.h").suffix) = [
      .map [(.text "language", .text "C"), (.text "pattern", .text "a\x7b99999999999999999999\x7d")],
      .map [(.text "language", .text "C++")]] := by cbv
  have hlisted : { name := "C++", category := .data, extensions := [".h"] } ∈ table.languages := by
    simp [table, Catalog.ofLanguages]
  refine ⟨table, hmade, hfound, ⟨_, _, _, hrules, ?_, ⟨rfl, hlisted, .inl rfl⟩, rfl, ?_⟩, _, by cbv⟩
  · rintro ⟨wanted, -, -⟩
    rcases wanted with hnone | ⟨pattern, hm, hf⟩
    · cases hnone
    · obtain rfl := List.mem_singleton.mp hm
      rw [hfound] at hf
      cases hf
  · exact .intro (.inl rfl) (fun _ hm => absurd hm List.not_mem_nil)
      fun _ hm => absurd hm List.not_mem_nil

end Detection

end Polyglot
