import Polyglot.Regex.Reader.Escape
import Polyglot.Text.Numeral

namespace Polyglot.Regex.Reader

/-- The bounds in braces, if they are well formed, and the input behind them. -/
def bounds? (rest : List Lexeme) : Option (List Char × List Char × List Lexeme) :=
  let (low, after) := digitsOf rest
  let (high, after) : List Char × List Lexeme := match after with
    | .char ',' :: after => digitsOf after
    | after => (low, after)
  match rest, after with
  | .char '\x7d' :: _, _ => none
  | _, .char '\x7d' :: after => some (low, high, after)
  | _, _ => none

def repeatLast (st : State) (least : Nat) (most : Option Nat) (rest : List Lexeme) : Step :=
  match st.frame.pieces with
  | [] => .error .malformed
  | piece :: pieces =>
    match rowOf piece.parts, piece with
    | _, .part { kind := .symbol (.anchor _), .. } => .error .malformed
    | _, .part { kind := .repeated, .. } => .error .malformed
    | body, _ =>
      let (greed, rest) : Greed × List Lexeme := match rest with
        | .char '?' :: rest => (.lazy, rest)
        | .char '+' :: rest => (.possessive, rest)
        | rest => (.greedy, rest)
      let repeated : Part :=
        { regex := .many greed least most body.regex, low := body.low * least
          high := body.high * most.getD maxRepeat, kind := .repeated }
      .ok ({ st with
        frame := { st.frame with pieces := .part repeated :: pieces }
        unusable := st.unusable || st.noRepeats }, rest)

def bound (digits : List Char) : Except ReadError Nat :=
  if Text.maxDigits < digits.length then .error (.repetitionTooLong digits.length)
  else if maxRepeat ≤ natOf digits then .error .repetitionTooLarge
  else .ok (natOf digits)

def quantifier (st : State) (c : Char) (rest : List Lexeme) : Step :=
  match c with
  | '*' => repeatLast st 0 none rest
  | '+' => repeatLast st 1 none rest
  | '?' => repeatLast st 0 (some 1) rest
  | _ =>
    match bounds? rest with
    | none => .ok (st.push (literalPart st.mode (Text.codeOf c)), rest)
    | some (low, high, after) => do
      let least ← bound low
      let most ← if high.isEmpty then .ok none else (bound high).map some
      if most.any (· < least) then .error .malformed else repeatLast st least most after

end Polyglot.Regex.Reader
