import Polyglot.Proofs.TreeRuns

namespace Polyglot.Analysis

open Polyglot.Files

/-- Two trees have the same file at a place, and the folders above it have the same files of rules. -/
structure AgreeAt (first second : Node) (place : Place) : Prop where
  file : (first.content? place).isSome = true
  content : first.content? place = second.content? place
  rules : ∀ folder, StrictlyAbove folder place → ∀ name ∈ ruleFileNames,
    first.content? (folder ++ [name]) = second.content? (folder ++ [name])

variable {ws others : Workspace} {root other : Path} {catalog : Catalog} {options : Options}
  {first second : Node} {base : RuleSet} {place : Place}

theorem AgreeAt.rulesAbove_eq (agree : AgreeAt first second place) {folder : Place}
    (h : folder <+: place) :
    rulesAbove catalog options first base folder = rulesAbove catalog options second base folder := by
  rw [rulesAbove, rulesAbove]
  refine RuleSet.gather_congr base fun above ha => declared_congr fun name hn => ?_
  have hstrict := mem_above.mp ha
  refine agree.rules above (strictlyAbove_iff.mpr ⟨hstrict.isPrefix.trans h, ?_⟩) name hn
  rintro rfl
  have := hstrict.length_lt
  have := h.length_le
  omega

theorem AgreeAt.leavesOut_eq (agree : AgreeAt first second place) {folder : Place}
    (h : folder <+: place) (isFolder : Bool) :
    leavesOut catalog options first base isFolder folder =
      leavesOut catalog options second base isFolder folder := by
  rw [leavesOut, leavesOut, agree.rulesAbove_eq h]

theorem AgreeAt.admitted_iff (agree : AgreeAt first second place) :
    Admitted catalog options first base place ↔ Admitted catalog options second base place := by
  constructor
  · rintro ⟨file, kept, way⟩
    refine ⟨agree.content ▸ file, agree.leavesOut_eq List.prefix_rfl false ▸ kept, ?_⟩
    intro folder hne ha
    exact agree.leavesOut_eq ha.isPrefix true ▸ way folder hne ha
  · rintro ⟨file, kept, way⟩
    refine ⟨agree.content ▸ file, (agree.leavesOut_eq List.prefix_rfl false).symm ▸ kept, ?_⟩
    intro folder hne ha
    exact (agree.leavesOut_eq ha.isPrefix true).symm ▸ way folder hne ha

variable {answer : Label → Except SampleFault (Option String)}

variable {σ : Type} {source : SampleSource σ}

theorem AgreeAt.symm (agree : AgreeAt first second place) : AgreeAt second first place :=
  ⟨agree.content ▸ agree.file, agree.content.symm, fun folder ha name hn => (agree.rules folder ha name hn).symm⟩

end Polyglot.Analysis
