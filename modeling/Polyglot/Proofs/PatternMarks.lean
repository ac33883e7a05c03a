import Mathlib
import Polyglot.Regex.Dialect
import Polyglot.Text.Basic

namespace Polyglot.Regex

open Polyglot.Text (isWord)

/-- Where a reader of a pattern is. -/
inductive Spot where
  | outside
  /-- Right behind the bracket that opens a class. -/
  | opening
  /-- Right behind the circumflex that negates a class. -/
  | negated
  | inClass
  /-- In the name of a class, between its colons. -/
  | inName
  /-- Right behind a backslash, which may stand in a class. -/
  | escaped (inClass : Bool)
  deriving DecidableEq, Repr

/-- What a reader comes across, with what stands behind it where that matters. -/
inductive Mark where
  | escape (behind : List Char)
  | bracket
  | group (behind : List Char)
  | cutOff
  deriving DecidableEq, Repr

/-- The names of classes. -/
def classNames : List String :=
  ["alnum", "alpha", "ascii", "blank", "cntrl", "digit", "graph", "lower", "print", "punct", "space",
    "upper", "word", "xdigit"]

/-- Whether a bracket inside a class opens a class that is given by its name. -/
def namesClass (behind : List Char) : Bool :=
  classNames.any fun name =>
    (':' :: name.toList ++ [':', ']']).isPrefixOf behind ||
      (':' :: '^' :: name.toList ++ [':', ']']).isPrefixOf behind

namespace Spot

/-- Where a reader is behind a member of a class. A bracket inside a class can be the start of a name
where classes can be given by name. -/
def behindMember (named : Bool) (c : Char) (behind : List Char) : Spot :=
  if c = '\\' then escaped true
  else if c = '[' && named && namesClass behind then inName
  else inClass

/-- Where a reader is one character further. -/
def next (named : Bool) (c : Char) (behind : List Char) : Spot → Spot
  | outside => if c = '\\' then escaped false else if c = '[' then opening else outside
  | opening => if c = '^' then negated else behindMember named c behind
  | negated => behindMember named c behind
  | inClass => if c = ']' then outside else behindMember named c behind
  | inName => if c = ']' then inClass else inName
  | escaped true => inClass
  | escaped false => outside

/-- The mark that a character is. -/
def mark? (c : Char) (behind : List Char) : Spot → Option Mark
  | outside =>
    if c = '\\' then some (.escape behind) else if c = '(' then some (.group behind) else none
  | opening | negated | inClass =>
    if c = '\\' then some (.escape behind) else if c = '[' then some .bracket else none
  | inName | escaped _ => none

/-- What a reader comes across at the end. -/
def ending : Spot → List Mark
  | outside | escaped false => []
  | _ => [.cutOff]

/-- The spot between two pieces of a conversion. -/
def between (inClass : Bool) : Spot := if inClass then .inClass else outside

end Spot

/-- The marks of a pattern from some spot on, in their order. -/
def marks (named : Bool) (spot : Spot) : List Char → List Mark
  | [] => spot.ending
  | c :: rest => (spot.mark? c rest).toList ++ marks named (spot.next named c rest) rest

/-- A character that means nothing to a reader outside of classes. -/
def isPlain (c : Char) : Bool := c != '\\' && c != '[' && c != '('

/-- A character that is a member to a reader inside a class, wherever it stands. -/
def isMember (c : Char) : Bool := c != '\\' && c != '[' && c != ']'

/-- A character that a reader passes, in classes and outside of them. -/
def isPassed (c : Char) : Bool := isPlain c && isMember c

theorem isPlain_iff {c : Char} : isPlain c = true ↔ c ≠ '\\' ∧ c ≠ '[' ∧ c ≠ '(' := by
  simp [isPlain, and_assoc]

theorem isMember_iff {c : Char} : isMember c = true ↔ c ≠ '\\' ∧ c ≠ '[' ∧ c ≠ ']' := by
  simp [isMember, and_assoc]

theorem isPlain_of_isPassed {c : Char} (h : isPassed c = true) : isPlain c = true :=
  (Bool.and_eq_true_iff.mp h).1

theorem isPassed_of_isWord {c : Char} (h : isWord c = true) : isPassed c = true := by
  by_contra hc
  rw [isPassed, Bool.and_eq_true, isPlain_iff, isMember_iff] at hc
  have hmark : c = '\\' ∨ c = '[' ∨ c = '(' ∨ c = ']' := by tauto
  rcases hmark with rfl | rfl | rfl | rfl <;> simp [isWord, Text.isAlphanumeric] at h

variable (named : Bool)

theorem marks_plain {c : Char} (h : isPlain c = true) (rest : List Char) :
    marks named .outside (c :: rest) = marks named .outside rest := by
  obtain ⟨hescape, hbracket, hgroup⟩ := isPlain_iff.mp h
  simp [marks, Spot.mark?, Spot.next, hescape, hbracket, hgroup]

theorem marks_member {c : Char} (h : isMember c = true) (rest : List Char) :
    marks named .inClass (c :: rest) = marks named .inClass rest := by
  obtain ⟨hescape, hbracket, hclose⟩ := isMember_iff.mp h
  simp [marks, Spot.mark?, Spot.next, Spot.behindMember, hescape, hbracket, hclose]

theorem marks_passed (inClass : Bool) {run : List Char} (h : ∀ c ∈ run, isPassed c = true)
    (rest : List Char) :
    marks named (.between inClass) (run ++ rest) = marks named (.between inClass) rest := by
  induction run with
  | nil => rfl
  | cons c run ih =>
    rw [List.forall_mem_cons, isPassed, Bool.and_eq_true] at h
    rw [← ih h.2]
    cases inClass with
    | true => exact marks_member named h.1.2 (run ++ rest)
    | false => exact marks_plain named h.1.1 (run ++ rest)

theorem marks_escape (inClass : Bool) (c : Char) (rest : List Char) :
    marks named (.between inClass) ('\\' :: c :: rest) =
      .escape (c :: rest) :: marks named (.between inClass) rest := by
  cases inClass <;> rfl

theorem marks_group (rest : List Char) :
    marks named .outside ('(' :: rest) = .group rest :: marks named .outside rest := rfl

theorem marks_close (rest : List Char) :
    marks named .inClass (']' :: rest) = marks named .outside rest := rfl

theorem marks_bracket (rest : List Char) :
    marks named .inClass ('[' :: rest) =
      .bracket :: marks named (if named && namesClass rest then .inName else .inClass) rest := by
  cases named <;> rfl

theorem marks_name_run {run : List Char} (h : ∀ c ∈ run, c ≠ ']') (rest : List Char) :
    marks named .inName (run ++ ']' :: rest) = marks named .inClass rest := by
  induction run with
  | nil => rfl
  | cons c run ih =>
    rw [List.forall_mem_cons] at h
    rw [← ih h.2]
    simp [marks, Spot.mark?, Spot.next, h.1]

/-- Behind the bracket that opens a class, a reader is inside of it. -/
theorem marks_opens {rest : List Char} (h : rest.head? ≠ some '^' ∧ rest.head? ≠ some ']') :
    marks named .outside ('[' :: rest) = marks named .inClass rest := by
  cases rest with
  | nil => rfl
  | cons c rest =>
    obtain ⟨hnegated, hclose⟩ : c ≠ '^' ∧ c ≠ ']' := by simpa using h
    simp [marks, Spot.mark?, Spot.next, hnegated, hclose]

theorem marks_opensBracket (rest : List Char) :
    marks named .outside ('[' :: ']' :: rest) = marks named .inClass rest := rfl

theorem marks_opensNegated {rest : List Char} (h : rest.head? ≠ some ']') :
    marks named .outside ('[' :: '^' :: rest) = marks named .inClass rest := by
  cases rest with
  | nil => rfl
  | cons c rest =>
    have hclose : c ≠ ']' := by simpa using h
    simp [marks, Spot.mark?, Spot.next, hclose]

theorem marks_opensNegatedBracket (rest : List Char) :
    marks named .outside ('[' :: '^' :: ']' :: rest) = marks named .inClass rest := rfl

end Polyglot.Regex
