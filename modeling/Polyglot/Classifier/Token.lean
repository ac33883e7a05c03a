import Polyglot.Text.Alphanumeric
import Polyglot.Text.Basic

namespace Polyglot.Classifier

open Polyglot.Text (isWord isDecimal isBlank)

abbrev Token := List Char

def startsName (c : Char) : Bool := c.isAlpha || c == '_'

def continuesName (c : Char) : Bool := c.isAlphanum || c == '_'

def isMark (c : Char) : Bool := !isWord c && !isBlank c

/-- The token at the front of a text, if its first character starts one, and the rest. A name is
ASCII, a number is a run of decimal digits, and punctuation comes in runs of at most three. -/
def nextToken? : List Char → Option (Token × List Char)
  | [] => none
  | c :: rest =>
    if startsName c then some (c :: rest.takeWhile continuesName, rest.dropWhile continuesName)
    else if isDecimal c then some (c :: rest.takeWhile isDecimal, rest.dropWhile isDecimal)
    else if isMark c then
      some (c :: (rest.takeWhile isMark).take 2, rest.drop (rest.takeWhile isMark |>.take 2).length)
    else none

theorem length_rest_lt {chars : List Char} {token : Token} {rest : List Char}
    (h : nextToken? chars = some (token, rest)) : rest.length < chars.length := by
  cases chars with
  | nil => simp [nextToken?] at h
  | cons c tail =>
    have fewer (p : Char → Bool) : (tail.dropWhile p).length ≤ tail.length :=
      (List.dropWhile_sublist p).length_le
    simp only [nextToken?] at h
    split at h
    · simp only [Option.some.injEq, Prod.mk.injEq] at h
      simp only [← h.2, List.length_cons]
      exact Nat.lt_succ_of_le (fewer _)
    · split at h
      · simp only [Option.some.injEq, Prod.mk.injEq] at h
        simp only [← h.2, List.length_cons]
        exact Nat.lt_succ_of_le (fewer _)
      · split at h
        · simp only [Option.some.injEq, Prod.mk.injEq] at h
          simp only [← h.2, List.length_cons, List.length_drop]
          omega
        · simp at h

/-- The tokens of a text, the last one first, in front of the tokens of what came before it. -/
def tokenizeOnto (before : List Token) (chars : List Char) : List Token :=
  match chars with
  | [] => before
  | c :: rest =>
    match _h : nextToken? (c :: rest) with
    | some (token, rest) => tokenizeOnto (token :: before) rest
    | none => tokenizeOnto before rest
termination_by chars.length
decreasing_by
  · exact length_rest_lt _h
  · simp

/-- The tokens of a text, in order. What starts no token is skipped. -/
def tokenize (chars : List Char) : List Token := (tokenizeOnto [] chars).reverse

end Polyglot.Classifier
