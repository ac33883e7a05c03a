namespace Polyglot.Text

/-- A set of code points. A code point is in it when it lies in one of the ranges. -/
abbrev CodeRanges := List (Nat × Nat)

def CodeRanges.contains (ranges : CodeRanges) (code : Nat) : Bool :=
  ranges.any fun range => range.1 ≤ code && code ≤ range.2

theorem CodeRanges.contains_iff {ranges : CodeRanges} {code : Nat} :
    ranges.contains code = true ↔ ∃ range ∈ ranges, range.1 ≤ code ∧ code ≤ range.2 := by
  simp [CodeRanges.contains]

/-- The separators of Unicode, the five line and column controls, and the four separators of
records among the controls. -/
def blankRanges : CodeRanges := [
  (0x09, 0x0d), (0x1c, 0x20), (0x85, 0x85), (0xa0, 0xa0), (0x1680, 0x1680), (0x2000, 0x200a),
  (0x2028, 0x2029), (0x202f, 0x202f), (0x205f, 0x205f), (0x3000, 0x3000)]

def isBlank (c : Char) : Bool := blankRanges.contains c.toNat

/-- The pieces between the separating characters, in order. There is one more of them than there
are separators. -/
def splitWhere (separates : Char → Bool) : List Char → List (List Char)
  | [] => [[]]
  | c :: rest =>
    if separates c then [] :: splitWhere separates rest
    else match splitWhere separates rest with
      | [] => [[c]]
      | piece :: pieces => (c :: piece) :: pieces

theorem splitWhere_ne_nil (separates : Char → Bool) (chars : List Char) :
    splitWhere separates chars ≠ [] := by
  cases chars with
  | nil => simp [splitWhere]
  | cons c rest =>
    simp only [splitWhere]
    split
    · simp
    · split <;> simp

def splitOn (separator : Char) (chars : List Char) : List (List Char) :=
  splitWhere (· == separator) chars

def words (chars : List Char) : List (List Char) :=
  (splitWhere isBlank chars).filter fun word => !word.isEmpty

def trimStart (chars : List Char) : List Char := chars.dropWhile isBlank

def dropWhileEnd (drops : Char → Bool) (chars : List Char) : List Char :=
  (chars.reverse.dropWhile drops).reverse

def trimEnd (chars : List Char) : List Char := dropWhileEnd isBlank chars

def trim (chars : List Char) : List Char := trimEnd (trimStart chars)

/-- The text before the first `separator` and the text after it, which is empty without one. -/
def cutAt (separator : Char) (chars : List Char) : List Char × List Char :=
  (chars.takeWhile (· != separator), (chars.dropWhile (· != separator)).drop 1)

def after? : (lead chars : List Char) → Option (List Char)
  | [], chars => some chars
  | _ :: _, [] => none
  | l :: lead, c :: chars => if l = c then after? lead chars else none

theorem after?_eq_some_iff {lead chars rest : List Char} :
    after? lead chars = some rest ↔ chars = lead ++ rest := by
  induction lead generalizing chars with
  | nil => simp [after?]
  | cons l lead ih =>
    cases chars with
    | nil => simp [after?]
    | cons c chars =>
      by_cases h : l = c
      · simp [after?, h, ih]
      · simp [after?, h, Ne.symm h]

def startsWith (lead text : String) : Bool := (after? lead.toList text.toList).isSome

def ofPieces (pieces : List (List Char)) : List String := pieces.map String.ofList

def unifyGo : List Char → List Char → List Char
  | [], out => out.reverse
  | '\r' :: '\n' :: rest, out => unifyGo rest ('\n' :: out)
  | c :: rest, out => unifyGo rest ((if c = '\r' then '\n' else c) :: out)

def unifyNewlines (chars : List Char) : List Char := unifyGo chars []

def firstLine (chars : List Char) : List Char := chars.takeWhile fun c => c != '\n' && c != '\r'

end Polyglot.Text
