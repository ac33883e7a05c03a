namespace Polyglot.Text.Punycode

/-- The value of a digit: the letters are 0 to 25, and the digits follow them. -/
def digit? (c : Char) : Option Nat :=
  if c.isDigit then some (c.toNat - 22)
  else if c.isAlpha then some (c.toLower.toNat - 97)
  else none

def threshold (bias place : Nat) : Nat := max 1 (min 26 (36 * (place + 1) - bias))

/-- A number in front of a text, its digits taken as those from a place on with a weight, and the
rest of the text. -/
def readNumber (bias : Nat) : (place weight : Nat) → List Char → Option (Nat × List Char)
  | _, _, [] => none
  | place, weight, c :: rest => do
    let digit ← digit? c
    if digit < threshold bias place then return (digit * weight, rest)
    let (number, rest) ← readNumber bias (place + 1) (weight * (36 - threshold bias place)) rest
    return (digit * weight + number, rest)

theorem length_readNumber {bias place weight number : Nat} {chars rest : List Char}
    (h : readNumber bias place weight chars = some (number, rest)) : rest.length < chars.length := by
  induction chars generalizing place weight number with
  | nil => simp [readNumber] at h
  | cons c chars ih =>
    cases hd : digit? c with
    | none => simp [readNumber, hd] at h
    | some digit =>
      simp only [readNumber, hd, Option.bind_eq_bind, Option.bind_some] at h
      split at h
      · simp only [Option.pure_def, Option.some.injEq, Prod.mk.injEq] at h
        simp [← h.2]
      · obtain ⟨⟨more, left⟩, hm, he⟩ := Option.bind_eq_some_iff.1 h
        simp only [Option.pure_def, Option.some.injEq, Prod.mk.injEq] at he
        have := ih (he.2 ▸ hm)
        simp only [List.length_cons]
        omega

private def shrink (number bias : Nat) : Nat :=
  if 455 < number then shrink (number / 35) (bias + 36) else bias + 36 * number / (number + 38)
termination_by number

/-- How the thresholds lie behind a number, with so many letters written. -/
def biasAfter (number letters : Nat) (first : Bool) : Nat :=
  let number := if first then number / 700 else number / 2
  shrink (number + number / letters) 0

/-- Puts in the letters that the rest of a text tells of. The letters are code points; the next one
is at least `code`, and `place` is behind the last one that was put in. -/
def insertAll (letters : List Nat) (code place bias : Nat) (first : Bool) (chars : List Char) :
    Option (List Nat) :=
  if chars.isEmpty then some letters
  else match h : readNumber bias 0 1 chars with
    | none => none
    | some (number, rest) =>
      let places := letters.length + 1
      let code := code + (place + number) / places
      let place := (place + number) % places
      if 0x10ffff < code then none
      else
        insertAll (letters.insertIdx place code) code (place + 1) (biasAfter number places first)
          false rest
termination_by chars.length
decreasing_by exact length_readNumber h

def decode? (chars : List Char) : Option (List Nat) :=
  let behind := (chars.reverse.takeWhile (· != '-')).reverse
  let ascii := (chars.take (chars.length - behind.length)).dropLast
  insertAll (ascii.map Char.toNat) 0x80 0 72 true behind

end Polyglot.Text.Punycode
