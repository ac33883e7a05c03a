import Polyglot.Text.Alphanumeric
import Polyglot.Text.Basic

namespace Polyglot.Text

/-- No decimal number has more digits, neither when it is read nor when it is written. -/
def maxDigits : Nat := 4300

/-- Why a text is no number. -/
inductive NumeralError where
  | malformed
  | tooLong (digits : Nat)
  deriving DecidableEq, Repr

/-- What is said of a number with too many digits. They have been counted where it is read. -/
def tooLongMessage (digits : Option Nat) : String :=
  "Exceeds the limit (" ++ toString maxDigits ++ " digits) for integer string conversion" ++
    digits.elim "" (fun digits => ": value has " ++ toString digits ++ " digits") ++
    "; use sys.set_int_max_str_digits() to increase the limit"

def digitValue? (base : Nat) (c : Char) : Option Nat :=
  let value? := if c.isDigit then some (c.toNat - 48)
    else if 'a' ≤ c ∧ c ≤ 'z' then some (c.toNat - 87)
    else if 'A' ≤ c ∧ c ≤ 'Z' then some (c.toNat - 55)
    else none
  value?.filter (· < base)

/-- A digit beyond ASCII as the ASCII digit of its value: its range starts with a zero. -/
def asciiDigit? (c : Char) : Option Char :=
  (decimalRanges.find? fun (low, high) => low ≤ c.toNat && c.toNat ≤ high).map fun (low, _) =>
    Char.ofNat (48 + (c.toNat - low) % 10)

/-- The text with blanks and digits beyond ASCII as ASCII. A character that is neither is a question
mark, and the text ends there. -/
def asciiForm : List Char → List Char
  | [] => []
  | c :: rest =>
    if c.toNat < 127 then c :: asciiForm rest
    else if isBlank c then ' ' :: asciiForm rest
    else match asciiDigit? c with
      | some digit => digit :: asciiForm rest
      | none => ['?']

/-- The ASCII form; a text that is ASCII altogether stays as it is. -/
def numeralForm (chars : List Char) : List Char :=
  if chars.all (·.toNat < 128) then chars else asciiForm chars

/-- A blank of ASCII: a space, or a control from the tabulator to the carriage return. -/
def isAsciiBlank (c : Char) : Bool := c == ' ' || (9 ≤ c.toNat && c.toNat ≤ 13)

def signed (chars : List Char) : Bool × List Char :=
  match chars with
  | '-' :: rest => (true, rest)
  | '+' :: rest => (false, rest)
  | chars => (false, chars)

/-- The digits behind the mark of a base, which may stand in front of them with an underscore. -/
def behindBase (base : Nat) (chars : List Char) : List Char :=
  match chars with
  | '0' :: mark :: rest =>
    let low := mark.toLower
    if (base = 2 && low == 'b') || (base = 8 && low == 'o') || (base = 16 && low == 'x') then
      match rest with
      | '_' :: rest => rest
      | rest => rest
    else chars
  | chars => chars

def wellSpaced : List Char → Bool
  | [] => true
  | ['_'] => false
  | '_' :: '_' :: _ => false
  | _ :: rest => wellSpaced rest

def natOfDigits (base : Nat) (digits : List Char) : Nat :=
  digits.foldl (fun n c => n * base + (digitValue? base c).getD 0) 0

def readInt (base : Nat) (chars : List Char) : Except NumeralError Int :=
  let (negative, body) := signed ((numeralForm chars).dropWhile isAsciiBlank)
  let body := behindBase base body
  let inDigits (c : Char) : Bool := c == '_' || (digitValue? base c).isSome
  let written := body.takeWhile inDigits
  let digits := written.filter (· != '_')
  if written.head? == some '_' || !wellSpaced written then .error .malformed
  else if base = 10 ∧ maxDigits < digits.length then .error (.tooLong digits.length)
  else if digits.isEmpty || !((body.dropWhile inDigits).all isAsciiBlank) then .error .malformed
  else
    let n : Int := natOfDigits base digits
    .ok (if negative then -n else n)

end Polyglot.Text
