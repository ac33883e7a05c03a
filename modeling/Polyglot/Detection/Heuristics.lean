import Polyglot.Detection.Extraction
import Polyglot.Pattern

namespace Polyglot.Detection

open Polyglot.Data (Scalar)

/-- A search that remembers the patterns it skipped. A pattern that cannot even be skipped ends
it. -/
abbrev Sifting := ExceptT PatternError (StateM (List PatternError))

def noteSkipped (error : PatternError) (skipped : List PatternError) : List PatternError :=
  if skipped.any (·.pattern == error.pattern) then skipped else skipped ++ [error]

def finds (content pattern : String) : Sifting Bool :=
  match compilePattern .regex "heuristics" pattern with
  | .ok matcher => pure (matcher.test content)
  | .error error =>
    if error.fatal then throw error
    else do
      modify (noteSkipped error)
      pure false

mutual

def holds (content : String) : ContentRule → Sifting Bool
  | ⟨_, patterns, negative, clauses⟩ => do
    let wanted ← patterns.anyM (finds content)
    if !patterns.isEmpty && !wanted then return false
    let unwanted ← negative.anyM (finds content)
    if unwanted then return false
    allHold content clauses

def allHold (content : String) : List ContentRule → Sifting Bool
  | [] => pure true
  | rule :: rules => do
    let here ← holds content rule
    if here then allHold content rules else pure false

end

/-- The disambiguations for the extension of a path; one that lists it twice counts twice. -/
def disambiguationsFor (catalog : Catalog) (path : String) : List Disambiguation :=
  let suffix := Text.lower (Path.ofText path).suffix
  catalog.disambiguations.flatMap fun group =>
    (group.extensions.filter (· == suffix)).map fun _ => group

/-- Rules are asked only if there is a choice and something to ask. -/
def asksRules (catalog : Catalog) (options : Options) (path : String) (candidates : Candidates) :
    Bool :=
  options.checkHeuristics && 1 < candidates.size && !(disambiguationsFor catalog path).isEmpty

/-- Whether a language is in the table and is a candidate, by itself or by its group. -/
def eligible (catalog : Catalog) (candidates : Candidates) (language : String) : Bool :=
  catalog.contains language &&
    (candidates.contains (.text language) ||
      (catalog.parentOf language != .null && candidates.contains (catalog.parentOf language)))

def firstRule? (eligible : String → Bool) (content : String) :
    List ContentRule → Sifting (Option String)
  | [] => pure none
  | rule :: rules =>
    if eligible rule.language then do
      let here ← holds content rule
      if here then pure (some rule.language) else firstRule? eligible content rules
    else firstRule? eligible content rules

/-- The language that the rules choose for a path with a content. -/
def chosen? (catalog : Catalog) (options : Options) (path : String) (candidates : Candidates)
    (content : String) : Sifting (Option String) :=
  if asksRules catalog options path candidates then
    firstRule? (eligible catalog candidates) content
      ((disambiguationsFor catalog path).flatMap Disambiguation.rules)
  else pure none

end Polyglot.Detection
