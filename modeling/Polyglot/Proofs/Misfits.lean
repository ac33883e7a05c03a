import Polyglot.Proofs.Flattening

namespace Polyglot

open Polyglot.Data (Value Scalar Entries)

namespace Tables

/-- Whether a value can be looked up as a key. -/
def isKey : Value → Bool
  | .scalar _ => true
  | _ => false

/-- A value through which nobody can go: a number, say, or a list that holds itself. -/
inductive Partless : Value → TableError → Prop
  | scalar {s : Scalar} (given : s.truthy = true) (noText : ∀ text, s ≠ .text text)
      (noBytes : ∀ bytes, s ≠ .bytes bytes) : Partless (.scalar s) .noParts
  | again (isMap : Bool) : Partless (.again isMap) .endless

/-- An entry with a number that is too long to be written: its name, or one in what is no category. -/
inductive Unwritable : Scalar × Value → Prop
  | name {key : Scalar} {value : Value} (long : key.isTooLong = true) : Unwritable (key, value)
  | category {key : Scalar} {own : Entries} (unknown : categoryOf? (entry own "type") = none)
      (long : (entry own "type").isTooLong = true) : Unwritable (key, .map own)

/-- A misfit in a table of languages. Of two entries under one name, the group of the last one counts. -/
inductive LanguageMisfit : Value → TableError → Prop
  | unwritable {entries : Entries} {item : Scalar × Value} (member : item ∈ entries)
      (long : Unwritable item) : LanguageMisfit (.map entries) .tooManyDigits
  | group {entries own : Entries} {name : String} (last : entryUnder? entries name = some (.map own))
      (noKey : isKey (entry own "group") = false) : LanguageMisfit (.map entries) .notAKey

mutual

/-- A misfit in a rule, or in one of its clauses. -/
inductive RuleMisfit : Value → TableError → Prop
  | noMap {value : Value} (noMap : ∀ own, value ≠ .map own) : RuleMisfit value .noEntries
  | again : RuleMisfit (.again true) .endless
  | reference {own : Entries} (noKey : isKey (entry own "named_pattern") = false) :
    RuleMisfit (.map own) .notAKey
  | longReference {own : Entries} (key : isKey (entry own "named_pattern") = true)
      (long : (entry own "named_pattern").isTooLong = true) : RuleMisfit (.map own) .tooManyDigits
  | clauses {own : Entries} {e : TableError} (misfit : ClausesMisfit (entry own "and") e) :
    RuleMisfit (.map own) e

/-- A misfit in what should be the clauses of a rule. -/
inductive ClausesMisfit : Value → TableError → Prop
  | partless {value : Value} {e : TableError} (misfit : Partless value e) : ClausesMisfit value e
  | noList {value : Value} (given : value.truthy = true) (noList : ∀ items, value ≠ .list items) :
    ClausesMisfit value .noEntries
  | clause {items : List Value} {item : Value} {e : TableError} (member : item ∈ items)
      (misfit : RuleMisfit item e) : ClausesMisfit (.list items) e

end

/-- A misfit in a group of rules. -/
inductive GroupMisfit : Value → TableError → Prop
  | rules {own : Entries} {e : TableError} (misfit : Partless (entry own "rules") e) :
    GroupMisfit (.map own) e
  | rule {own rule : Entries} {parts : List Value} {e : TableError}
      (parts_eq : partsOf (entry own "rules") = .ok parts) (member : .map rule ∈ parts)
      (misfit : RuleMisfit (.map rule) e) : GroupMisfit (.map own) e

/-- A misfit in the table of rules. -/
inductive HeuristicMisfit : Value → TableError → Prop
  | patterns {own : Entries} (given : (entry own "named_patterns").truthy = true)
      (noMap : ∀ named, entry own "named_patterns" ≠ .map named) :
    HeuristicMisfit (.map own) .noEntries
  | patternName {own named : Entries} {item : Scalar × Value}
      (named_eq : entry own "named_patterns" = .map named) (member : item ∈ named)
      (long : item.1.isTooLong = true) : HeuristicMisfit (.map own) .tooManyDigits
  | groups {own : Entries} {e : TableError} (misfit : Partless (entry own "disambiguations") e) :
    HeuristicMisfit (.map own) e
  | group {own : Entries} {parts : List Value} {group : Value} {e : TableError}
      (parts_eq : partsOf (entry own "disambiguations") = .ok parts) (member : group ∈ parts)
      (misfit : GroupMisfit group e) : HeuristicMisfit (.map own) e

/-- A misfit in one of the tables. In the lists of patterns there is none. -/
def Misfit (tables : Tables) (e : TableError) : Prop :=
  LanguageMisfit tables.languages e ∨ HeuristicMisfit tables.heuristics e

variable {α β : Type} {source : String} {result : Result α} {misfit other : TableError → Prop}

/-- A result is in keeping with some misfits: an error is a refusal or one of them, and with a misfit
there is no value. -/
structure Judges (misfit : TableError → Prop) (result : Result α) : Prop where
  explained : ∀ e, result = .error e → (∃ source fault, e = .refused source fault) ∨ misfit e
  rejected : ∀ value, result = .ok value → ∀ e, ¬ misfit e

theorem Judges.ok (value : α) (none : ∀ e, ¬ misfit e) : Judges misfit (.ok value : Result α) :=
  ⟨nofun, fun _ _ => none⟩

theorem Judges.refuse (fault : TableFault) : Judges misfit (refuse source fault : Result α) := by
  refine ⟨fun e h => ?_, fun _ h => nomatch h⟩
  cases h
  exact .inl ⟨source, fault, rfl⟩

theorem Judges.error {e : TableError} (h : misfit e) : Judges misfit (.error e : Result α) := by
  refine ⟨fun e' he => ?_, fun _ h => nomatch h⟩
  cases he
  exact .inr h

theorem Judges.congr (h : Judges misfit result) (same : ∀ e, misfit e ↔ other e) :
    Judges other result := by
  obtain rfl : misfit = other := funext fun e => propext (same e)
  exact h

theorem Judges.bind {next : α → Result β} (first : Judges misfit result)
    (rest : ∀ value, result = .ok value → Judges other (next value)) :
    Judges (fun e => misfit e ∨ other e) (result >>= next) := by
  cases result with
  | error e =>
    refine ⟨fun e' he => ?_, fun _ h => nomatch h⟩
    cases he
    exact (first.explained e rfl).imp id .inl
  | ok value =>
    obtain ⟨explained, rejected⟩ := rest value rfl
    refine ⟨fun e he => (explained e he).imp id .inr, fun out ho e => ?_⟩
    rintro (h | h)
    · exact first.rejected value rfl e h
    · exact rejected out ho e h

theorem Judges.bindOf {later : α → TableError → Prop} {next : α → Result β}
    (first : Judges misfit result)
    (rest : ∀ value, result = .ok value → Judges (later value) (next value)) :
    Judges (fun e => misfit e ∨ ∃ value, result = .ok value ∧ later value e) (result >>= next) := by
  refine first.bind fun value hvalue => (rest value hvalue).congr fun e => ?_
  rw [hvalue]
  simp

theorem Judges.andThen {next : α → Result β} (first : Judges misfit result)
    (rest : ∀ value, result = .ok value → Judges (fun _ => False) (next value)) :
    Judges misfit (result >>= next) :=
  (first.bind rest).congr fun _ => by rw [or_false]

theorem Judges.mapM {misfit : α → TableError → Prop} {step : α → Result β} (items : List α)
    (each : ∀ item ∈ items, Judges (misfit item) (step item)) :
    Judges (fun e => ∃ item ∈ items, misfit item e) (items.mapM step) := by
  induction items with
  | nil => exact .ok _ (by simp)
  | cons item rest ih =>
    rw [List.mapM_cons]
    have hrest := ih fun other hm => each other (List.mem_cons_of_mem _ hm)
    refine ((each item (by simp)).bind fun _ _ => hrest.andThen fun _ _ =>
      .ok _ (by simp)).congr fun e => ?_
    simp

theorem checkLength_judges (isTooLong : Bool) :
    Judges (fun e => e = .tooManyDigits ∧ isTooLong = true) (checkLength isTooLong) := by
  cases isTooLong with
  | false => exact .ok _ (by simp)
  | true => exact .error ⟨rfl, rfl⟩

theorem textsUnder_judges (key : String) (value : Value) :
    Judges (fun _ => False) (textsUnder source key value) := by
  unfold textsUnder
  split
  · exact .ok _ (by simp)
  · exact .ok _ (by simp)
  · split
    · exact .ok _ (by simp)
    · exact .refuse _
  · exact .refuse _

theorem patternsOf_judges (value : Value) : Judges (fun _ => False) (patternsOf source value) := by
  unfold patternsOf
  split
  · exact .ok _ (by simp)
  · split
    · split
      · exact .ok _ (by simp)
      · exact .refuse _
    · exact .refuse _

theorem partless_truthy {value : Value} {e : TableError} (h : Partless value e) :
    value.truthy = true := by
  cases h with
  | scalar given => exact given
  | again => rfl

theorem partsOf_judges (value : Value) : Judges (Partless value) (partsOf value) := by
  unfold partsOf
  split
  · rename_i absent
    refine .ok _ fun e h => ?_
    rw [partless_truthy h] at absent
    cases absent
  · rename_i given
    split
    · exact .ok _ nofun
    · exact .ok _ nofun
    · exact .ok _ nofun
    · refine .ok _ fun e h => ?_
      cases h with
      | scalar _ noText => exact noText _ rfl
    · exact .ok _ nofun
    · refine .ok _ fun e h => ?_
      cases h with
      | scalar _ _ noBytes => exact noBytes _ rfl
    · rename_i s noText noBytes
      exact .error (.scalar (by simpa [Value.truthy] using given) (fun text h => noText text (by rw [h]))
        fun bytes h => noBytes bytes (by rw [h]))
    · exact .error (.again _)

theorem isEmpty_partsOf {value : Value} {parts : List Value} (h : partsOf value = .ok parts) :
    parts.isEmpty = !value.truthy := by
  unfold partsOf at h
  split at h
  · rename_i absent
    cases h
    simpa using absent
  · rename_i given
    have given : value.truthy = true := by simpa using given
    rw [given]
    split at h <;> cases h
    · simpa [Value.truthy] using given
    · simpa [Value.truthy] using given
    · simpa [Value.truthy] using given
    · simpa [Value.truthy, Scalar.truthy] using given
    · rfl
    · simpa [Value.truthy, Scalar.truthy] using given

theorem languageOf_judges (name : String) (own : Entries) :
    Judges (fun e => e = .tooManyDigits ∧ categoryOf? (entry own "type") = none ∧
      (entry own "type").isTooLong = true) (languageOf source name own) := by
  unfold languageOf
  split
  · rename_i unknown
    refine ((checkLength_judges _).andThen fun _ _ => .refuse _).congr fun e => ?_
    simp [unknown]
  · rename_i category known
    have htexts (key : String) :
        Judges (fun _ => False) (textsUnder source (name ++ "." ++ key) (entry own key)) :=
      textsUnder_judges _ _
    refine ((htexts "filenames").bind fun _ _ => (htexts "extensions").bind fun _ _ =>
      (htexts "interpreters").bind fun _ _ => (htexts "aliases").andThen
        fun _ _ => .ok _ (by simp)).congr fun e => ?_
    simp [known]

theorem languagesIn_judges (entries : Entries) (languages : List Language) (groups : Groups) :
    Judges (fun e => e = .tooManyDigits ∧ ∃ item ∈ entries, Unwritable item)
      (languagesIn source entries languages groups) := by
  fun_induction languagesIn source entries languages groups with
  | case1 => exact .ok _ (by simp)
  | case2 key own rest languages groups ih =>
    refine ((checkLength_judges _).bind fun _ _ => (languageOf_judges _ _).bind fun language _ =>
      ih language).congr fun e => ?_
    have hfirst : Unwritable (key, .map own) ↔ key.isTooLong = true ∨
        categoryOf? (entry own "type") = none ∧ (entry own "type").isTooLong = true := by
      constructor
      · intro h
        cases h with
        | name long => exact .inl long
        | category unknown long => exact .inr ⟨unknown, long⟩
      · rintro (long | ⟨unknown, long⟩)
        · exact .name long
        · exact .category unknown long
    simp only [List.mem_cons, exists_eq_or_imp, hfirst]
    tauto
  | case3 key value rest _ _ noMap =>
    -- Nothing behind this entry is read.
    refine ⟨fun e he => ?_, fun value h => ?_⟩
    · cases hlong : key.isTooLong with
      | true =>
        simp only [checkLength, hlong, ↓reduceIte, bind, Except.bind] at he
        cases he
        exact .inr ⟨rfl, (key, value), by simp, .name hlong⟩
      | false =>
        simp only [checkLength, hlong, Bool.false_eq_true, ↓reduceIte, bind, Except.bind, refuse] at he
        cases he
        exact .inl ⟨_, _, rfl⟩
    · cases hlong : key.isTooLong <;> simp [checkLength, hlong, refuse, bind, Except.bind] at h

theorem languagesIn_readFrom {before entries : Entries} {languages out : List Language}
    {groups groups' : Groups} (read : ReadFrom source before languages groups)
    (h : languagesIn source entries languages groups = .ok (out, groups')) :
    ReadFrom source (before ++ entries) out groups' := by
  suffices hall : ∀ before, ReadFrom source before languages groups →
      ReadFrom source (before ++ entries) out groups' from hall before read
  refine languagesIn_induction h (fun before read => by simpa using read) ?_
  intro key own rest languages groups language hl ih before read
  simpa using ih _ (read.put hl)

/-- The way up fails only at a group that is no key: that where it starts, or one of the table. -/
theorem climb_error {groups : Groups} {steps : Nat} {seen : List String} {value : Value} {e : TableError}
    (h : climb groups steps seen value = .error e) : e = .notAKey ∧
      (isKey value = false ∨ ∃ name group, groupOf? groups name = some group ∧ isKey group = false) := by
  fun_induction climb groups steps seen value with
  | case1 => cases h
  | case2 steps seen name next hnext _ ih =>
    obtain ⟨rfl, hstart | hothers⟩ := ih h
    · exact ⟨rfl, .inr ⟨name, next, hnext, hstart⟩⟩
    · exact ⟨rfl, .inr hothers⟩
  | case3 => cases h
  | case4 => cases h
  | case5 => cases h
  | case6 _ _ value noStart noKey =>
    cases h
    refine ⟨rfl, .inl ?_⟩
    cases value with
    | scalar s => cases ‹Nat› <;> simp_all
    | _ => rfl

theorem rootOf_error {groups : Groups} {name : String} {value : Value} {e : TableError}
    (h : rootOf source groups name value = .error e) :
    (∃ source fault, e = .refused source fault) ∨ e = .notAKey ∧
      (isKey value = false ∨ ∃ name group, groupOf? groups name = some group ∧ isKey group = false) := by
  unfold rootOf at h
  cases hc : climb groups groups.length [name] value with
  | error e' =>
    simp only [hc, bind, Except.bind] at h
    cases h
    exact .inr (climb_error hc)
  | ok top =>
    simp only [hc, bind, Except.bind] at h
    repeat' split at h
    all_goals cases h
    exact .inl ⟨_, _, rfl⟩

theorem flatten_error {groups : Groups} {languages : List Language} {e : TableError}
    (h : (flatten source groups languages).2 = .error e) :
    (∃ source fault, e = .refused source fault) ∨ e = .notAKey ∧
      ∃ name group, groupOf? groups name = some group ∧ isKey group = false := by
  induction languages generalizing groups with
  | nil => cases h
  | cons language rest ih =>
    rw [flatten] at h
    split at h
    · rename_i hroot
      cases h
      refine (rootOf_error hroot).imp id (And.imp id fun hbad => ?_)
      rcases hbad with hstart | hbad
      · cases hg : groupOf? groups language.name with
        | none =>
          rw [hg] at hstart
          cases hstart
        | some group =>
          rw [hg] at hstart
          exact ⟨_, group, hg, hstart⟩
      · exact hbad
    · rename_i root _
      have hrest : (flatten source (setGroup groups language.name (.scalar root)) rest).2 = .error e := by
        cases hr : (flatten source (setGroup groups language.name (.scalar root)) rest).2 with
        | error e' =>
          simp only [hr, Except.map] at h
          cases h
          rfl
        | ok out => simp [hr, Except.map] at h
      refine (ih hrest).imp id (And.imp id ?_)
      rintro ⟨name, group, hg, hbad⟩
      rw [groupOf?_setGroup] at hg
      split at hg
      · cases hg
        cases hbad
      · exact ⟨name, group, hg, hbad⟩

theorem isKey_of_climb {groups : Groups} {steps : Nat} {seen : List String} {value : Value}
    {top : Scalar × List String} (h : climb groups steps seen value = .ok top) : isKey value = true := by
  cases value with
  | scalar s => rfl
  | _ => cases steps <;> cases h

theorem flatten_ok {groups : Groups} {languages out : List Language}
    (nodup : (languages.map Language.name).Nodup) (h : (flatten source groups languages).2 = .ok out)
    {language : Language} (member : language ∈ languages) {group : Value}
    (hg : groupOf? groups language.name = some group) : isKey group = true := by
  induction languages generalizing groups out with
  | nil => cases member
  | cons first rest ih =>
    rw [List.map_cons, List.nodup_cons] at nodup
    rw [flatten] at h
    split at h
    · cases h
    · rename_i root hroot
      rcases List.mem_cons.mp member with rfl | member
      · rw [hg, Option.getD_some, rootOf] at hroot
        cases hc : climb groups groups.length [language.name] group with
        | error e => simp [hc, bind, Except.bind] at hroot
        | ok top => exact isKey_of_climb hc
      · cases hr : (flatten source (setGroup groups first.name (.scalar root)) rest).2 with
        | error e => simp [hr, Except.map] at h
        | ok others =>
          have hne : language.name ≠ first.name := fun he =>
            nodup.1 (he ▸ List.mem_map_of_mem member)
          exact ih nodup.2 hr member (by rw [groupOf?_setGroup, if_neg hne, hg])

theorem isKey_groupIn (name : String) (own : Entries) :
    isKey (groupIn name own) = isKey (entry own "group") := by
  unfold groupIn
  cases h : entry own "group" with
  | scalar s => simp only; split <;> rfl
  | _ => rfl

theorem languagesOf_judges (value : Value) :
    Judges (LanguageMisfit value) (languagesOf source value).2 := by
  unfold languagesOf
  split
  · rename_i entries
    split
    · exact .refuse _
    · have hin : Judges (fun e => e = .tooManyDigits ∧ ∃ item ∈ entries, Unwritable item)
          (languagesIn source entries [] []) :=
        languagesIn_judges entries [] []
      split
      · rename_i e he
        rcases hin.explained e he with ⟨other, fault, rfl⟩ | ⟨rfl, item, member, long⟩
        · exact .refuse fault
        · exact .error (.unwritable member long)
      · rename_i read groups hr
        have hstart : ReadFrom source [] [] [] := ⟨rfl, by simp, by simp [groupOf?, entryUnder?]⟩
        have hread : ReadFrom source entries read groups := languagesIn_readFrom hstart hr
        refine ⟨fun e he => ?_, fun out ho e misfit => ?_⟩
        · refine (flatten_error he).imp id ?_
          rintro ⟨rfl, name, group, hg, hbad⟩
          obtain ⟨own, hown, rfl⟩ := (hread.groups name group).mp hg
          exact .group hown (isKey_groupIn name own ▸ hbad)
        · cases misfit with
          | unwritable member long => exact hin.rejected _ hr _ ⟨rfl, _, member, long⟩
          | @group _ own name last noKey =>
            have hmem : name ∈ read.map Language.name := by
              obtain ⟨key, hm, hkey⟩ := mem_of_entryUnder? last
              rw [hread.names, List.mem_eraseDups]
              exact List.mem_map.mpr ⟨_, hm, hkey⟩
            obtain ⟨language, hm, rfl⟩ := List.mem_map.mp hmem
            have hkey := flatten_ok (hread.names ▸ nodup_eraseDups _) ho hm
              ((hread.groups _ _).mpr ⟨own, last, rfl⟩)
            rw [isKey_groupIn, noKey] at hkey
            cases hkey
  · exact .refuse _

variable {named : NamedPatterns} {language : String}

theorem namedPatternsIn_judges (entries : Entries) :
    Judges (fun e => e = .tooManyDigits ∧ ∃ item ∈ entries, item.1.isTooLong = true)
      (namedPatternsIn source entries named) := by
  induction entries generalizing named with
  | nil => exact .ok _ (by simp)
  | cons item rest ih =>
    obtain ⟨key, value⟩ := item
    refine ((checkLength_judges _).bind fun _ _ => (textsUnder_judges _ _).bind fun _ _ => ih).congr
      fun e => ?_
    simp only [List.mem_cons, exists_eq_or_imp]
    tauto

theorem namedPatternsOf_judges (value : Value) :
    Judges (fun e => (e = .noEntries ∧ value.truthy = true ∧ ∀ named, value ≠ .map named) ∨
      e = .tooManyDigits ∧ ∃ named, value = .map named ∧ ∃ item ∈ named, item.1.isTooLong = true)
      (namedPatternsOf source value) := by
  unfold namedPatternsOf
  split
  · rename_i absent
    refine .ok _ ?_
    rintro e (⟨-, given, -⟩ | ⟨-, named, rfl, item, member, -⟩)
    · simp [given] at absent
    · simp only [Value.truthy, Bool.not_not, List.isEmpty_iff] at absent
      rw [absent] at member
      cases member
  · rename_i given
    split
    · exact (namedPatternsIn_judges _).congr fun e => by simp
    · rename_i noMap
      exact .error (.inl ⟨rfl, by simpa using given, fun named he => noMap named he⟩)

theorem namedBy_judges (value : Value) :
    Judges (fun e => (e = .notAKey ∧ isKey value = false) ∨
      e = .tooManyDigits ∧ isKey value = true ∧ value.isTooLong = true) (namedBy source named value) := by
  unfold namedBy
  split
  · exact .ok _ (by simp [isKey, Value.isTooLong, Scalar.isTooLong])
  · split
    · exact .ok _ (by simp [isKey, Value.isTooLong, Scalar.isTooLong])
    · exact .refuse _
  · refine ((checkLength_judges _).andThen fun _ _ => .refuse _).congr fun e => ?_
    simp [isKey, Value.isTooLong]
  · rename_i noScalar
    refine .error (.inl ⟨rfl, ?_⟩)
    cases value with
    | scalar s => exact absurd rfl (noScalar s)
    | _ => rfl

theorem clausesMisfit_list {items : List Value} {e : TableError} :
    ClausesMisfit (.list items) e ↔ ∃ item ∈ items, RuleMisfit item e := by
  constructor
  · intro h
    cases h with
    | partless h => cases h
    | noList _ noList => exact absurd rfl (noList items)
    | clause member misfit => exact ⟨_, member, misfit⟩
  · rintro ⟨item, member, misfit⟩
    exact .clause member misfit

theorem clausesMisfit_of_not_list {value : Value} (noList : ∀ items, value ≠ .list items)
    {e : TableError} :
    ClausesMisfit value e ↔ Partless value e ∨ e = .noEntries ∧ value.truthy = true := by
  constructor
  · intro h
    cases h with
    | partless h => exact .inl h
    | noList given => exact .inr ⟨rfl, given⟩
    | clause => exact absurd rfl (noList _)
  · rintro (h | ⟨rfl, given⟩)
    · exact .partless h
    · exact .noList given noList

theorem ruleMisfit_map {own : Entries} {e : TableError} :
    RuleMisfit (.map own) e ↔ ((e = .notAKey ∧ isKey (entry own "named_pattern") = false) ∨
      e = .tooManyDigits ∧ isKey (entry own "named_pattern") = true ∧
        (entry own "named_pattern").isTooLong = true) ∨ ClausesMisfit (entry own "and") e := by
  constructor
  · intro h
    cases h with
    | noMap noMap => exact absurd rfl (noMap own)
    | reference noKey => exact .inl (.inl ⟨rfl, noKey⟩)
    | longReference key long => exact .inl (.inr ⟨rfl, key, long⟩)
    | clauses misfit => exact .inr misfit
  · rintro ((⟨rfl, noKey⟩ | ⟨rfl, key, long⟩) | misfit)
    · exact .reference noKey
    · exact .longReference key long
    · exact .clauses misfit

mutual

theorem ruleOf_judges (value : Value) :
    Judges (RuleMisfit value) (ruleOf source language named value) := by
  unfold ruleOf
  split
  · refine ((textsUnder_judges _ _).bind fun _ _ => (namedBy_judges _).bind fun _ _ =>
      (clausesIn_judges _).bind fun _ _ => (textsUnder_judges _ _).andThen
        fun _ _ => .ok _ (by simp)).congr fun e => ?_
    rw [ruleMisfit_map]
    tauto
  · exact .error .again
  · rename_i noMap _
    exact .error (.noMap noMap)

theorem clausesIn_judges (entries : Entries) :
    Judges (ClausesMisfit (entry entries "and")) (clausesIn source language named entries) := by
  unfold clausesIn
  split
  · refine .ok _ fun e h => ?_
    have habsent : entry [] "and" = Value.null := rfl
    rw [habsent, clausesMisfit_of_not_list (by simp)] at h
    rcases h with h | ⟨-, given⟩
    · cases partless_truthy h
    · cases given
  · rename_i key value rest
    split
    · rename_i hkey
      have hfound : entry ((key, value) :: rest) "and" = value := by
        simp [entry, Entries.get?, hkey]
      rw [hfound]
      exact clausesOf_judges value
    · rename_i hkey
      have hrest : entry ((key, value) :: rest) "and" = entry rest "and" := by
        simp [entry, Entries.get?, hkey]
      rw [hrest]
      exact clausesIn_judges rest

theorem clausesOf_judges (value : Value) :
    Judges (ClausesMisfit value) (clausesOf source language named value) := by
  unfold clausesOf
  split
  · exact (rulesOf_judges _).congr fun e => clausesMisfit_list.symm
  · exact .error (.noList rfl (by simp))
  · rename_i noList noAgain
    have hparts (parts : List Value) (h : partsOf value = .ok parts) :
        Judges (fun e => e = .noEntries ∧ value.truthy = true)
          (if parts.isEmpty then .ok [] else .error .noEntries : Result (List ContentRule)) := by
      rw [isEmpty_partsOf h]
      cases hv : value.truthy with
      | false => exact .ok _ (by simp)
      | true => exact .error ⟨rfl, rfl⟩
    exact ((partsOf_judges value).bind hparts).congr fun e => (clausesMisfit_of_not_list noList).symm

theorem rulesOf_judges (items : List Value) :
    Judges (fun e => ∃ item ∈ items, RuleMisfit item e) (rulesOf source language named items) := by
  unfold rulesOf
  split
  · exact .ok _ (by simp)
  · refine ((ruleOf_judges _).bind fun _ _ => (rulesOf_judges _).andThen
      fun _ _ => .ok _ (by simp)).congr fun e => ?_
    simp

end

theorem groupRule_judges (extensions : List String) (value : Value) :
    Judges (fun e => ∃ own, value = .map own ∧ RuleMisfit value e)
      (groupRule source named extensions value) := by
  unfold groupRule
  split
  · split
    · exact (ruleOf_judges _).congr fun e => by simp
    · exact .refuse _
  · exact .refuse _

theorem disambiguationOf_judges (value : Value) :
    Judges (GroupMisfit value) (disambiguationOf source named value) := by
  unfold disambiguationOf
  split
  · rename_i own
    refine ((textsUnder_judges _ _).bind fun extensions _ => (partsOf_judges _).bindOf fun parts _ =>
      (Judges.mapM parts fun item _ => groupRule_judges extensions item).andThen fun _ _ =>
        .ok _ (by simp)).congr fun e => ?_
    constructor
    · rintro (h | h | ⟨parts, hparts, _, member, rule, rfl, misfit⟩)
      · exact h.elim
      · exact .rules h
      · exact .rule hparts member misfit
    · intro h
      cases h with
      | rules h => exact .inr (.inl h)
      | rule hparts member misfit => exact .inr (.inr ⟨_, hparts, _, member, _, rfl, misfit⟩)
  · exact .refuse _

theorem not_heuristicMisfit {value : Value} (absent : value.truthy = false) (e : TableError) :
    ¬ HeuristicMisfit value e := by
  have hentry (key : String) : entry [] key = Value.null := rfl
  intro h
  cases h with
  | @patterns own given =>
    obtain rfl : own = [] := by simpa [Value.truthy] using absent
    cases given
  | @patternName own _ _ named_eq =>
    obtain rfl : own = [] := by simpa [Value.truthy] using absent
    rw [hentry] at named_eq
    cases named_eq
  | @groups own _ misfit =>
    obtain rfl : own = [] := by simpa [Value.truthy] using absent
    cases partless_truthy misfit
  | @group own _ _ _ parts_eq member =>
    obtain rfl : own = [] := by simpa [Value.truthy] using absent
    cases parts_eq
    cases member

theorem disambiguationsOf_judges (value : Value) :
    Judges (HeuristicMisfit value) (disambiguationsOf source value) := by
  unfold disambiguationsOf
  split
  · rename_i absent
    exact .ok _ (not_heuristicMisfit (by simpa using absent))
  · split
    · rename_i own _
      refine ((namedPatternsOf_judges _).bind fun named _ => (partsOf_judges _).bindOf fun parts _ =>
        Judges.mapM parts fun item _ => disambiguationOf_judges item).congr fun e => ?_
      constructor
      · rintro ((⟨rfl, given, noMap⟩ | ⟨rfl, named, hnamed, item, member, long⟩) | h |
          ⟨parts, hparts, group, member, misfit⟩)
        · exact .patterns given noMap
        · exact .patternName hnamed member long
        · exact .groups h
        · exact .group hparts member misfit
      · intro h
        cases h with
        | patterns given noMap => exact .inl (.inl ⟨rfl, given, noMap⟩)
        | patternName hnamed member long => exact .inl (.inr ⟨rfl, _, hnamed, _, member, long⟩)
        | groups h => exact .inr (.inl h)
        | group hparts member misfit => exact .inr (.inr ⟨_, hparts, _, member, misfit⟩)
    · exact .refuse _

end Tables

open Tables

theorem Catalog.ofTables_judges (tables : Tables) : Judges (Misfit tables) (Catalog.ofTables tables).2 := by
  have hlanguages : Judges (LanguageMisfit tables.languages)
      (languagesOf tables.source tables.languages).2 :=
    languagesOf_judges _
  cases hl : (languagesOf tables.source tables.languages).2 with
  | error e =>
    rw [ofTables_of_error hl]
    rcases hlanguages.explained e hl with ⟨source, fault, rfl⟩ | misfit
    · exact .refuse fault
    · exact .error (.inl misfit)
  | ok languages =>
    rw [ofTables_of_languages hl]
    refine ((patternsOf_judges _).bind fun _ _ => (patternsOf_judges _).bind fun _ _ =>
      (disambiguationsOf_judges _).andThen fun _ _ => .ok _ (by simp)).congr
        fun e => ?_
    have hnone : ¬ LanguageMisfit tables.languages e := hlanguages.rejected languages hl e
    simp [Misfit, hnone]

/-- Tables make a catalog, or they are refused, or there is a misfit in them that is named. Tables with
a misfit, whichever it is, never make a catalog. -/
theorem Catalog.ofTables_outcome (tables : Tables) :
    ((∃ catalog, (Catalog.ofTables tables).2 = .ok catalog) ∨
      (∃ source fault, (Catalog.ofTables tables).2 = .error (.refused source fault)) ∨
      ∃ e, (Catalog.ofTables tables).2 = .error e ∧ Misfit tables e) ∧
    ∀ e, Misfit tables e → ∀ catalog, (Catalog.ofTables tables).2 ≠ .ok catalog := by
  obtain ⟨explained, rejected⟩ := ofTables_judges tables
  refine ⟨?_, fun e misfit catalog h => rejected catalog h e misfit⟩
  cases h : (Catalog.ofTables tables).2 with
  | ok catalog => exact .inl ⟨catalog, rfl⟩
  | error e =>
    rcases explained e h with ⟨source, fault, rfl⟩ | misfit
    · exact .inr (.inl ⟨source, fault, rfl⟩)
    · exact .inr (.inr ⟨e, rfl, misfit⟩)

/-- A list in the place of named patterns is no refusal. -/
theorem Catalog.ofTables_listedPatterns :
    let tables : Tables := {
      languages := .map [(.text "A", .map [(.text "type", .text "data")])]
      heuristics := .map [(.text "named_patterns", .list [.text "x"])] }
    Misfit tables .noEntries ∧ (Catalog.ofTables tables).2 = .error .noEntries ∧
      ¬ ((∃ catalog, (Catalog.ofTables tables).2 = .ok catalog) ∨
        ∃ source fault, (Catalog.ofTables tables).2 = .error (.refused source fault)) := by
  intro tables
  have misfit : Misfit tables .noEntries := .inr (.patterns rfl nofun)
  have fails : (Catalog.ofTables tables).2 = .error .noEntries := by cbv
  refine ⟨misfit, fails, ?_⟩
  rw [fails]
  rintro (⟨_, h⟩ | ⟨_, _, h⟩) <;> cases h

end Polyglot
