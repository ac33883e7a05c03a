import Polyglot.Language
import Polyglot.Data.Shown

namespace Polyglot.Detection

open Polyglot.Data (Value)

/-- The labels that a file may get, in the order of preference. -/
structure Candidates where
  labels : List Label
  deriving DecidableEq, Repr

namespace Candidates

def empty : Candidates := ⟨[]⟩

def contains (candidates : Candidates) (label : Label) : Bool :=
  candidates.labels.any (·.same label)

def add (candidates : Candidates) (label : Label) : Candidates :=
  if candidates.contains label then candidates else ⟨candidates.labels ++ [label]⟩

def ofList (labels : List Label) : Candidates := labels.foldl add empty

def first? (candidates : Candidates) : Option Label := candidates.labels.head?

def size (candidates : Candidates) : Nat := candidates.labels.length

def isEmpty (candidates : Candidates) : Bool := candidates.labels.isEmpty

/-- Whether two sets hold the same languages in the same order. -/
def same (a b : Candidates) : Bool :=
  a.labels.map Data.Scalar.key == b.labels.map Data.Scalar.key

def shown (candidates : Candidates) : String :=
  "CandidateSet(" ++ (Value.list (candidates.labels.map .scalar)).shown ++ ")"

@[simp] theorem labels_empty : empty.labels = [] := rfl

theorem contains_add (candidates : Candidates) (label : Label) :
    (candidates.add label).contains label = true := by
  by_cases h : candidates.contains label = true
  · simp [add, h]
  · rw [add, if_neg h]
    simp [contains, Data.Scalar.same]

theorem labels_subset_add (candidates : Candidates) (label : Label) :
    candidates.labels ⊆ (candidates.add label).labels := by
  by_cases h : candidates.contains label = true <;> simp [add, h]

end Candidates

end Polyglot.Detection
