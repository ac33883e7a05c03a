import Mathlib
import Polyglot.Catalog.Tables

namespace Polyglot

open Polyglot.Data (Value Scalar Entries)

namespace Tables

variable {α β : Type} {source : String}

/-- If this is a refusal, it names the table. -/
def Blames (source : String) (result : Result α) : Prop :=
  ∀ other fault, result = .error (.refused other fault) → other = source

theorem Blames.ok (value : α) : Blames source (.ok value) := by
  intro other fault h
  cases h

theorem Blames.refuse (fault : TableFault) : Blames source (refuse source fault : Result α) := by
  intro other fault' h
  cases h
  rfl

/-- An error that is no refusal names no table. -/
theorem Blames.error {e : TableError} (unnamed : ∀ other fault, e ≠ .refused other fault) :
    Blames source (.error e : Result α) :=
  fun other fault h => absurd (Except.error.inj h) (unnamed other fault)

theorem Blames.bind {result : Result α} {next : α → Result β} (first : Blames source result)
    (rest : ∀ value, Blames source (next value)) : Blames source (result >>= next) := by
  intro other fault h
  cases result with
  | error e =>
    cases h
    exact first other fault rfl
  | ok value => exact rest value other fault h

theorem Blames.mapM {items : List α} {step : α → Result β} (each : ∀ item, Blames source (step item)) :
    Blames source (items.mapM step) := by
  induction items with
  | nil => exact .ok _
  | cons item rest ih =>
    rw [List.mapM_cons]
    exact .bind (each item) fun _ => .bind ih fun _ => .ok _

theorem checkLength_blames (isTooLong : Bool) : Blames source (checkLength isTooLong) := by
  cases isTooLong
  · exact .ok _
  · exact .error nofun

theorem textsUnder_blames (key : String) (value : Value) : Blames source (textsUnder source key value) := by
  unfold textsUnder
  split
  · exact .ok _
  · exact .ok _
  · split
    · exact .ok _
    · exact .refuse _
  · exact .refuse _

theorem patternsOf_blames (value : Value) : Blames source (patternsOf source value) := by
  unfold patternsOf
  split
  · exact .ok _
  · split
    · split
      · exact .ok _
      · exact .refuse _
    · exact .refuse _

variable {named : NamedPatterns} {language : String}

theorem partsOf_blames (value : Value) : Blames source (partsOf value) := by
  unfold partsOf
  split
  · exact .ok _
  · split <;> first | exact .ok _ | exact .error nofun

theorem namedPatternsIn_blames (entries : Entries) : Blames source (namedPatternsIn source entries named) := by
  induction entries generalizing named with
  | nil => exact .ok _
  | cons entry rest ih =>
    exact .bind (checkLength_blames _) fun _ => .bind (textsUnder_blames _ _) fun _ => ih

theorem namedPatternsOf_blames (value : Value) : Blames source (namedPatternsOf source value) := by
  unfold namedPatternsOf
  split
  · exact .ok _
  · split
    · exact namedPatternsIn_blames _
    · exact .error nofun

theorem namedBy_blames (value : Value) : Blames source (namedBy source named value) := by
  unfold namedBy
  split
  · exact .ok _
  · split
    · exact .ok _
    · exact .refuse _
  · exact .bind (checkLength_blames _) fun _ => .refuse _
  · exact .error nofun

mutual

theorem ruleOf_blames (value : Value) : Blames source (ruleOf source language named value) := by
  unfold ruleOf
  split
  · exact .bind (textsUnder_blames _ _) fun _ => .bind (namedBy_blames _) fun _ =>
      .bind (clausesIn_blames _) fun _ => .bind (textsUnder_blames _ _) fun _ => .ok _
  · exact .error nofun
  · exact .error nofun

theorem clausesIn_blames (entries : List (Scalar × Value)) :
    Blames source (clausesIn source language named entries) := by
  unfold clausesIn
  split
  · exact .ok _
  · split
    · exact clausesOf_blames _
    · exact clausesIn_blames _

theorem clausesOf_blames (value : Value) : Blames source (clausesOf source language named value) := by
  unfold clausesOf
  split
  · exact rulesOf_blames _
  · exact .error nofun
  · refine .bind (partsOf_blames _) fun parts => ?_
    split
    · exact .ok _
    · exact .error nofun

theorem rulesOf_blames (items : List Value) : Blames source (rulesOf source language named items) := by
  unfold rulesOf
  split
  · exact .ok _
  · exact .bind (ruleOf_blames _) fun _ => .bind (rulesOf_blames _) fun _ => .ok _

end

theorem groupRule_blames (extensions : List String) (value : Value) :
    Blames source (groupRule source named extensions value) := by
  unfold groupRule
  split
  · split
    · exact ruleOf_blames _
    · exact .refuse _
  · exact .refuse _

theorem disambiguationOf_blames (value : Value) : Blames source (disambiguationOf source named value) := by
  unfold disambiguationOf
  split
  · exact .bind (textsUnder_blames _ _) fun _ => .bind (partsOf_blames _) fun _ =>
      .bind (.mapM (groupRule_blames _)) fun _ => .ok _
  · exact .refuse _

theorem disambiguationsOf_blames (value : Value) : Blames source (disambiguationsOf source value) := by
  unfold disambiguationsOf
  split
  · exact .ok _
  · split
    · exact .bind (namedPatternsOf_blames _) fun _ => .bind (partsOf_blames _) fun _ =>
        .mapM disambiguationOf_blames
    · exact .refuse _

end Tables

end Polyglot
