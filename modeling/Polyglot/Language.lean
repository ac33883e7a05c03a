import Polyglot.Category
import Polyglot.Data.Value

namespace Polyglot

open Polyglot.Data (Value Scalar)

/-- What a file is said to be written in: the name of a language. A table can group languages under
a value that is no text, which is then the name. -/
abbrev Label := Scalar

/-- A language as a table describes it. -/
structure Language where
  name : String
  category : Category
  /-- The language that this one counts as; null for none. -/
  group : Label := .null
  filenames : List String := []
  extensions : List String := []
  interpreters : List String := []
  aliases : List String := []
  color : Value := .null

namespace Language

/-- What the language counts as: its group, or itself. -/
def coarse (language : Language) : Label :=
  if language.group.truthy then language.group else .text language.name

/-- Puts a language into a table, in the place of one of the same name or at the end. -/
def put (language : Language) : List Language → List Language
  | [] => [language]
  | other :: rest =>
    if other.name = language.name then language :: rest else other :: put language rest

theorem mem_names_put {language : Language} {languages : List Language} {name : String} :
    name ∈ (put language languages).map Language.name ↔
      name = language.name ∨ name ∈ languages.map Language.name := by
  induction languages with
  | nil => simp [put]
  | cons other rest ih =>
    by_cases h : other.name = language.name <;> simp [put, h] at ih ⊢
    rw [ih]
    grind

theorem names_put_nodup {language : Language} {languages : List Language}
    (h : (languages.map Language.name).Nodup) : ((put language languages).map Language.name).Nodup := by
  induction languages with
  | nil => simp [put]
  | cons other rest ih =>
    rw [List.map_cons, List.nodup_cons] at h
    by_cases hn : other.name = language.name
    · rw [put, if_pos hn, List.map_cons, List.nodup_cons, ← hn]
      exact h
    · rw [put, if_neg hn, List.map_cons, List.nodup_cons]
      exact ⟨fun hm => (mem_names_put.1 hm).elim hn h.1, ih h.2⟩

end Language

/-- A rule that holds for the contents of files in a language: some pattern is found unless there
are none, no negative pattern is found, and all clauses hold. -/
structure ContentRule where
  language : String
  patterns : List String := []
  negative : List String := []
  clauses : List ContentRule := []

def ContentRule.unconditional (rule : ContentRule) : Bool :=
  rule.patterns.isEmpty && rule.negative.isEmpty && rule.clauses.isEmpty

/-- Rules for the files with certain extensions, in the order in which they are tried. -/
structure Disambiguation where
  extensions : List String
  rules : List ContentRule

end Polyglot
