import Polyglot.Data.Value
import Polyglot.Json.Encoding
import Polyglot.Text.Numeral
import Polyglot.Text.StandIn

namespace Polyglot.Json

open Polyglot.Data (Value Scalar Entries Binary64)

/-- Why something cannot be read as JSON. -/
inductive Fault where
  | notText
  | malformed
  /-- Lists and maps stand inside of others beyond all bounds. -/
  | tooDeep
  | tooManyDigits (digits : Nat)
  deriving DecidableEq, Repr

private def isSpace (c : Char) : Bool := c == ' ' || c == '\t' || c == '\n' || c == '\r'

private def skipSpace (chars : List Char) : List Char := chars.dropWhile isSpace

private def hexValue? (c : Char) : Option Nat :=
  if c.isDigit then some (c.toNat - 48)
  else if 'a' ≤ c ∧ c ≤ 'f' then some (c.toNat - 87)
  else if 'A' ≤ c ∧ c ≤ 'F' then some (c.toNat - 55)
  else none

private def hexQuad? : List Char → Option (Nat × List Char)
  | a :: b :: c :: d :: rest => do
    let a ← hexValue? a
    let b ← hexValue? b
    let c ← hexValue? c
    let d ← hexValue? d
    some (((a * 16 + b) * 16 + c) * 16 + d, rest)
  | _ => none

private def simpleEscape? (c : Char) : Option Char :=
  match c with
  | '"' => some '"'
  | '\\' => some '\\'
  | '/' => some '/'
  | 'b' => some (Char.ofNat 8)
  | 'f' => some (Char.ofNat 12)
  | 'n' => some '\n'
  | 'r' => some '\r'
  | 't' => some '\t'
  | _ => none

private def lowHalf? : List Char → Option (Nat × List Char)
  | '\\' :: 'u' :: rest =>
    match hexQuad? rest with
    | some (code, rest) => if Text.isLowHalf code then some (code, rest) else none
    | none => none
  | _ => none

/-- The character of a `\u` escape whose four digits come first. Two halves in a row make one. -/
private def unicodeEscape? (chars : List Char) : Option (Char × List Char) := do
  let (code, rest) ← hexQuad? chars
  match if Text.isHighHalf code then lowHalf? rest else none with
  | some (low, rest) => some (Text.joinHalves code low, rest)
  | none => some (Text.charOfCode code, rest)

private def readText : (fuel : Nat) → List Char → List Char → Option (String × List Char)
  | 0, _, _ => none
  | _ + 1, [], _ => none
  | _ + 1, '"' :: rest, out => some (String.ofList out.reverse, rest)
  | fuel + 1, '\\' :: 'u' :: rest, out =>
    match unicodeEscape? rest with
    | some (c, rest) => readText fuel rest (c :: out)
    | none => none
  | fuel + 1, '\\' :: c :: rest, out =>
    match simpleEscape? c with
    | some c => readText fuel rest (c :: out)
    | none => none
  | fuel + 1, c :: rest, out => if c.toNat < 0x20 ∨ c = '\\' then none else readText fuel rest (c :: out)

private def natOf (digits : List Char) : Nat :=
  digits.foldl (fun n c => n * 10 + (c.toNat - 48)) 0

private def takeDigits (chars : List Char) : List Char × List Char := chars.span Char.isDigit

private def exponent? : List Char → Option (Int × List Char)
  | e :: rest =>
    if e = 'e' ∨ e = 'E' then
      let (negative, rest) : Bool × List Char := match rest with
        | '-' :: rest => (true, rest)
        | '+' :: rest => (false, rest)
        | rest => (false, rest)
      match takeDigits rest with
      | ([], _) => none
      | (digits, rest) => some (if negative then -(natOf digits : Int) else natOf digits, rest)
    else none
  | [] => none

/-- A number: its whole part has no needless zero in front. A point or an exponent that is not
complete is left behind the number. -/
private def readNumber (negative : Bool) (chars : List Char) : Except Fault (Value × List Char) :=
  let (whole, rest) : List Char × List Char := match chars with
    | '0' :: rest => (['0'], rest)
    | chars => takeDigits chars
  if whole.isEmpty then .error .malformed
  else
    let (places, rest) : List Char × List Char := match rest with
      | '.' :: after => match takeDigits after with
        | ([], _) => ([], rest)
        | (places, after) => (places, after)
      | _ => ([], rest)
    match exponent? rest with
    | some (exponent, rest) =>
      .ok (.float (Binary64.ofDecimal negative (natOf (whole ++ places)) (exponent - places.length)), rest)
    | none =>
      if places.isEmpty then
        if Text.maxDigits < whole.length then .error (.tooManyDigits whole.length)
        else .ok (.int (if negative then -(natOf whole : Int) else natOf whole), rest)
      else
        .ok (.float (Binary64.ofDecimal negative (natOf (whole ++ places)) (-(places.length : Int))), rest)

private def readWord (word : String) (value : Value) (chars : List Char) :
    Except Fault (Value × List Char) :=
  if word.toList.isPrefixOf chars then .ok (value, chars.drop word.length) else .error .malformed

private def readAtom (chars : List Char) : Except Fault (Value × List Char) :=
  match chars with
  | 'n' :: _ => readWord "null" .null chars
  | 't' :: _ => readWord "true" (.bool true) chars
  | 'f' :: _ => readWord "false" (.bool false) chars
  | 'N' :: _ => readWord "NaN" (.float Binary64.nan) chars
  | 'I' :: _ => readWord "Infinity" (.float (Binary64.infinity false)) chars
  | '-' :: 'I' :: _ => readWord "-Infinity" (.float (Binary64.infinity true)) chars
  | '-' :: rest => readNumber true rest
  | chars => readNumber false chars

def maxOpen : Nat := 970

mutual

private def readValue (depth : Nat) : (fuel : Nat) → List Char → Except Fault (Value × List Char)
  | 0, _ => .error .malformed
  | fuel + 1, chars =>
    match chars with
    | '"' :: rest => match readText (rest.length + 1) rest [] with
      | some (s, rest) => .ok (.text s, rest)
      | none => .error .malformed
    | '[' :: rest =>
      if maxOpen ≤ depth then .error .tooDeep
      else match skipSpace rest with
      | ']' :: rest => .ok (.list [], rest)
      | rest => readItems depth fuel rest []
    | '\x7b' :: rest =>
      if maxOpen ≤ depth then .error .tooDeep
      else match skipSpace rest with
      | '\x7d' :: rest => .ok (.map [], rest)
      | rest => readEntries depth fuel rest []
    | chars => readAtom chars

private def readItems (depth : Nat) : (fuel : Nat) → List Char → List Value → Except Fault (Value × List Char)
  | 0, _, _ => .error .malformed
  | fuel + 1, chars, out =>
    match readValue (depth + 1) fuel chars with
    | .error e => .error e
    | .ok (value, rest) =>
      match skipSpace rest with
      | ',' :: rest => readItems depth fuel (skipSpace rest) (value :: out)
      | ']' :: rest => .ok (.list (value :: out).reverse, rest)
      | _ => .error .malformed

private def readEntries (depth : Nat) : (fuel : Nat) → List Char → List (Scalar × Value) → Except Fault (Value × List Char)
  | 0, _, _ => .error .malformed
  | fuel + 1, chars, out =>
    match chars with
    | '"' :: rest =>
      match readText (rest.length + 1) rest [] with
      | none => .error .malformed
      | some (key, rest) =>
        match skipSpace rest with
        | ':' :: rest =>
          match readValue (depth + 1) fuel (skipSpace rest) with
          | .error e => .error e
          | .ok (value, rest) =>
            match skipSpace rest with
            | ',' :: rest => readEntries depth fuel (skipSpace rest) ((.text key, value) :: out)
            | '\x7d' :: rest =>
              .ok (.map (Entries.ofList ((.text key, value) :: out).reverse), rest)
            | _ => .error .malformed
        | _ => .error .malformed
    | _ => .error .malformed

end

def readChars (chars : List Char) : Except Fault Value :=
  let chars := skipSpace chars
  match readValue 0 (2 * chars.length + 2) chars with
  | .ok (value, rest) => if (skipSpace rest).isEmpty then .ok value else .error .malformed
  | .error e => .error e

def read (text : String) : Except Fault Value := readChars text.toList

def readBytes (bytes : ByteArray) : Except Fault Value :=
  match decode? bytes with
  | some chars => readChars chars
  | none => .error .notText

end Polyglot.Json
