import Polyglot.Data.Value
import Polyglot.Text.LetterCase
import Polyglot.Yaml.Fault
import Polyglot.Yaml.Tag

namespace Polyglot.Yaml

open Polyglot.Data (Scalar Binary64 Moment daysIn)

/-- A whole number with blanks around it, a sign and the mark of its base. -/
private def readInt (base : Nat) (chars : List Char) : Result Int :=
  (Text.readInt base chars).mapError fun
    | .malformed => .notAnInt base (String.ofList chars)
    | .tooLong digits => .tooManyDigits digits

/-- The value of parts to the base sixty, the last one the smallest. -/
private def sixtieths (parts : List Int) : Int := parts.foldl (fun n part => n * 60 + part) 0

private def withoutUnderscores (text : String) : List Char := text.toList.filter (· != '_')

/-- A whole number to the base two, sixteen, eight, sixty or ten. -/
def intOf (text : String) : Result Int := do
  let chars := withoutUnderscores text
  if chars.isEmpty then .error .noNumber
  else
    let (negative, digits) := Text.signed chars
    let n ← match digits with
      | ['0'] => .ok 0
      | '0' :: 'b' :: rest => readInt 2 rest
      | '0' :: 'x' :: rest => readInt 16 rest
      | '0' :: _ => readInt 8 digits
      | [] => .error .noNumber
      | _ =>
        if digits.contains ':' then do
          let parts ← (Text.splitOn ':' digits).mapM (readInt 10)
          Except.ok (sixtieths parts)
        else readInt 10 digits
    .ok (if negative then -n else n)

private def plainNat (digits : List Char) : Nat := Text.natOfDigits 10 digits

/-- The digits of a decimal, and the count of those behind the point. -/
private def decimal? (chars : List Char) : Option (List Char × Nat × List Char) :=
  let (whole, rest) := chars.span Char.isDigit
  let (places, rest) : List Char × List Char := match rest with
    | '.' :: rest => rest.span Char.isDigit
    | rest => ([], rest)
  if (whole ++ places).isEmpty then none else some (whole ++ places, places.length, rest)

private def trimmed (chars : List Char) : List Char :=
  Text.dropWhileEnd Text.isAsciiBlank (chars.dropWhile Text.isAsciiBlank)

private def readFloat? (chars : List Char) : Option Binary64 :=
  let (negative, body) := Text.signed (trimmed (Text.numeralForm chars))
  match String.ofList body with
  | "inf" | "infinity" => some (Binary64.infinity negative)
  | "nan" => some Binary64.nan
  | _ => do
    let (digits, places, rest) ← decimal? body
    match rest with
    | [] => some (Binary64.ofDecimal negative (plainNat digits) (-(places : Int)))
    | 'e' :: rest =>
      let (down, exponent) := Text.signed rest
      if exponent.isEmpty || !exponent.all Char.isDigit then none
      else
        let size : Int := plainNat exponent
        some (Binary64.ofDecimal negative (plainNat digits) ((if down then -size else size) - places))
    | _ => none

private def readFloat (chars : List Char) : Result Binary64 :=
  match readFloat? chars with
  | some x => .ok x
  | none => .error (.notAFloat (String.ofList chars))

private def toFloat (x : Binary64) : Float := Float.ofBits x.bits

def partLimit : Nat := 174

private def floatSixtieths (parts : List Binary64) : Result Float :=
  if partLimit < parts.length then .error .tooManyParts
  else
    .ok (parts.foldr (fun part (sum, unit) =>
      (sum + toFloat part * toFloat (Binary64.ofDecimal false unit 0), unit * 60))
      ((0 : Float), 1)).1

/-- A floating-point number to the base ten or sixty, or a word for one without digits. -/
def floatOf (text : String) : Result Binary64 := do
  let chars := (Text.lower (String.ofList (withoutUnderscores text))).toList
  if chars.isEmpty then .error .noNumber
  else
    let (negative, body) := Text.signed chars
    let sign (x : Float) : Binary64 := .ofFloat (if negative then -x else x)
    match String.ofList body with
    | ".inf" => .ok (Binary64.infinity negative)
    | ".nan" => .ok Binary64.nan
    | _ =>
      if body.contains ':' then do
        let parts ← (Text.splitOn ':' body).mapM readFloat
        .ok (sign (← floatSixtieths parts))
      else do
        let x ← readFloat body
        if x.isNaN then .ok x else .ok (sign (toFloat x))

def boolOf (text : String) : Result Bool :=
  match Text.lower text with
  | "yes" | "true" | "on" => .ok true
  | "no" | "false" | "off" => .ok false
  | _ => .error .notABool

private def checked (fits : Bool) (part : TimePart) : Result Unit :=
  if fits then .ok () else .error (.outOfRange part)

private def checkDate (year month day : Nat) : Result Unit := do
  checked (1 ≤ year) (.year year)
  checked (1 ≤ month && month ≤ 12) .month
  checked (1 ≤ day && day ≤ daysIn year month) .day

private def zoneOf : Option (Option Char × List Char × List Char) → Result (Option Int)
  | none => .ok none
  | some (none, _) => .ok (some 0)
  | some (some sign, hours, minutes) => do
    let size : Int := plainNat hours * 60 + plainNat minutes
    let offset := if sign == '-' then -size else size
    checked (size < 1440) (.zone offset)
    .ok (some offset)

/-- Millionths of a second: six digits behind the point, and no more. -/
private def millionths (digits : List Char) : Nat :=
  plainNat ((digits ++ List.replicate 6 '0').take 6)

def timeOf (text : String) : Result Scalar :=
  let chars := text.toList
  match TimeText.ofChars? (if chars.getLast? = some '\n' then chars.dropLast else chars) with
  | none => .error .notATime
  | some time => do
    let (year, month, day) := (plainNat time.year, plainNat time.month, plainNat time.day)
    match time.clock with
    | none => do
      checkDate year month day
      .ok (.date year month day)
    | some (hour, minute, second) => do
      let offset ← zoneOf time.zone
      checkDate year month day
      let (hour, minute, second) := (plainNat hour, plainNat minute, plainNat second)
      checked (hour < 24) .hour
      checked (minute < 60) .minute
      checked (second < 60) .second
      .ok (.moment { year, month, day, hour, minute, second, offset
                     microsecond := millionths time.fraction })

private def sextet? (c : Char) : Option Nat :=
  if 'A' ≤ c ∧ c ≤ 'Z' then some (c.toNat - 65)
  else if 'a' ≤ c ∧ c ≤ 'z' then some (c.toNat - 71)
  else if c.isDigit then some (c.toNat + 4)
  else if c = '+' then some 62
  else if c = '/' then some 63
  else none

/-- Digits to the base 64, four for three bytes. Other characters do not count, and padding that
completes a group of four ends the bytes. -/
private def sextets : List Char → (count padding : Nat) → Result (List Nat)
  | [], count, _ => if count % 4 = 0 then .ok [] else broken (.notBytes count)
  | c :: rest, count, padding =>
    if c = '=' then
      if 2 ≤ count % 4 ∧ 4 ≤ count % 4 + padding + 1 then .ok []
      else sextets rest count (if 2 ≤ count % 4 then padding + 1 else padding)
    else match sextet? c with
      | some n => (sextets rest (count + 1) 0).map (n :: ·)
      | none => sextets rest count padding

private def bytesOfSextets : List Nat → List UInt8
  | a :: b :: rest =>
    UInt8.ofNat (a * 4 + b / 16) :: match rest with
      | c :: rest =>
        UInt8.ofNat (b % 16 * 16 + c / 4) :: match rest with
          | d :: rest => UInt8.ofNat (c % 4 * 64 + d) :: bytesOfSextets rest
          | [] => []
      | [] => []
  | _ => []

private def isAscii (c : Char) : Bool := c.toNat < 0x80

def bytesOf (text : String) : Result (List UInt8) :=
  let chars := text.toList
  match chars.dropWhile isAscii with
  | [] => bytesOfSextets <$> sextets chars 0 0
  | first :: rest =>
    broken (.notAscii first (chars.takeWhile isAscii).length
      ((rest.takeWhile (!isAscii ·)).length + 1))

def scalarOf (tag : Tag) (text : String) : Result Scalar :=
  match tag with
  | .null => .ok .null
  | .bool => .bool <$> boolOf text
  | .int => .int <$> intOf text
  | .float => .float <$> floatOf text
  | .text => .ok (.text text)
  | .time => timeOf text
  | .binary => .bytes <$> bytesOf text
  | tag => broken (.unknownTag tag.name)

end Polyglot.Yaml
