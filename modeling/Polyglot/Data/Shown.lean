import Polyglot.Data.Value
import Polyglot.Text.Numeral
import Polyglot.Text.Quoted

namespace Polyglot.Data

open Polyglot.Text (quoted)

private def digitText (digits : List Nat) : String :=
  String.ofList (digits.map fun d => Char.ofNat (48 + d))

private def zeros (count : Nat) : List Nat := List.replicate count 0

private def padded (width n : Nat) : String :=
  let digits := Nat.toDigits 10 n
  String.ofList (List.replicate (width - digits.length) '0' ++ digits)

/-- Magnitudes from `0.0001` up to `10 ^ 16` are written with their point in place and at least one
digit behind it, all others with an exponent of at least two digits. -/
private def magnitudeText (d : Digits) : String :=
  let count := d.digits.length
  if -4 < d.point ∧ d.point ≤ 16 then
    if d.point ≤ 0 then "0." ++ digitText (zeros (-d.point).toNat ++ d.digits)
    else
      let whole := d.point.toNat
      if count ≤ whole then digitText (d.digits ++ zeros (whole - count)) ++ ".0"
      else digitText (d.digits.take whole) ++ "." ++ digitText (d.digits.drop whole)
  else
    let mantissa := match d.digits with
      | [] => "0"
      | [digit] => digitText [digit]
      | digit :: rest => digitText [digit] ++ "." ++ digitText rest
    let exponent := d.point - 1
    mantissa ++ (if exponent < 0 then "e-" else "e+") ++ padded 2 exponent.natAbs

def Binary64.shown (x : Binary64) : String :=
  if x.isNaN then "nan"
  else (if x.isNegative then "-" else "") ++
    (if x.isInfinite then "inf" else if x.isZero then "0.0" else magnitudeText x.shortest)

private def dateText (year month day : Nat) : String :=
  padded 4 year ++ "-" ++ padded 2 month ++ "-" ++ padded 2 day

private def offsetText (minutes : Int) : String :=
  (if minutes < 0 then "-" else "+") ++ padded 2 (minutes.natAbs / 60) ++ ":" ++
    padded 2 (minutes.natAbs % 60)

private def momentText (m : Moment) : String :=
  dateText m.year m.month m.day ++ " " ++ padded 2 m.hour ++ ":" ++ padded 2 m.minute ++ ":" ++
    padded 2 m.second ++ (if m.microsecond = 0 then "" else "." ++ padded 6 m.microsecond) ++
    m.offset.elim "" offsetText

private def listed (items : List String) : String := ", ".intercalate items

private def zoneShown (minutes : Int) : String :=
  let span (seconds : Nat) := "datetime.timedelta(seconds=" ++ toString seconds ++ ")"
  if minutes = 0 then "datetime.timezone.utc"
  else if 0 < minutes then "datetime.timezone(" ++ span (minutes.toNat * 60) ++ ")"
  else "datetime.timezone(datetime.timedelta(days=-1, seconds=" ++
    toString (86400 + minutes * 60) ++ "))"

private def momentShown (m : Moment) : String :=
  let clock := if m.microsecond ≠ 0 then [m.hour, m.minute, m.second, m.microsecond]
    else if m.second ≠ 0 then [m.hour, m.minute, m.second] else [m.hour, m.minute]
  "datetime.datetime(" ++ listed (([m.year, m.month, m.day] ++ clock).map toString) ++
    (m.offset.elim "" fun minutes => ", tzinfo=" ++ zoneShown minutes) ++ ")"

private def byteShown (quote : Char) (byte : UInt8) : List Char :=
  let c := Char.ofNat byte.toNat
  if byte < 0x80 then Text.quotedChar quote c
  else ['\\', 'x'] ++ Text.hexDigits 2 byte.toNat

private def bytesShown (bytes : List UInt8) : String :=
  let quote := Text.quoteFor (bytes.map fun byte => Char.ofNat byte.toNat)
  String.ofList ('b' :: quote :: bytes.flatMap (byteShown quote) ++ [quote])

def Scalar.shown : Scalar → String
  | .null => "None"
  | .bool b => if b then "True" else "False"
  | .int n => toString n
  | .float x => x.shown
  | .text s => quoted s
  | .date year month day =>
    "datetime.date(" ++ listed ([year, month, day].map toString) ++ ")"
  | .moment m => momentShown m
  | .bytes b => bytesShown b

def Scalar.name : Scalar → String
  | .text s => s
  | .date year month day => dateText year month day
  | .moment m => momentText m
  | s => s.shown

@[simp] theorem Scalar.name_text (s : String) : (Scalar.text s).name = s := rfl

private def places (count : Nat) : Nat := if count < 5 then 8 else Nat.pow 2 (Nat.log2 (2 * count) + 1)

private def modulus : Nat := 0x1fffffffffffffff

/-- The remainder of a finite double: the 61st power of two leaves one, so a power of two below
one counts like one above it. -/
private def remainder (x : Binary64) : Int :=
  let rest : Int := (x.significand * Nat.pow 2 (x.scale % 61).toNat) % modulus
  if x.isNegative then -rest else rest

private def mark? (member : Scalar) : Option Nat :=
  let word (rest : Int) := ((if rest = -1 then -2 else rest) % 0x10000000000000000).toNat
  match member.key with
  | .int n => some (word (n.tmod modulus))
  | .float x =>
    if x.isNaN then none
    else if x.isInfinite then some (word (if x.isNegative then -314159 else 314159))
    else some (word (remainder x))
  | _ => none

/-- How many places behind a taken one are tried before a place elsewhere. -/
private def near : Nat := 9

private def freePlace (size : Nat) (taken : List Nat) : (fuel place mark : Nat) → Nat
  | 0, place, _ => place
  | fuel + 1, place, mark =>
    let run := if place + near < size then List.range' place (near + 1) else [place]
    match run.find? fun place => !taken.contains place with
    | some free => free
    | none => freePlace size taken fuel ((place * 5 + 1 + mark / 32) % size) (mark / 32)

/-- Members with their places, where each takes the first place that those before have left. -/
private def placed (size : Nat) (members : List (Nat × Scalar)) : List (Nat × Scalar) :=
  members.foldl (fun done (mark, member) =>
    done ++ [(freePlace size (done.map Prod.fst) (size + 13) (mark % size) mark, member)]) []

/-- The members of a set: numbers stand in the order of their places, and members among which
there are others as they came. -/
private def inSetOrder (members : List Scalar) : List Scalar :=
  let marked := members.filterMap fun member => (mark? member).map fun mark => (mark, member)
  if marked.length = members.length then
    ((placed (places members.length) marked).mergeSort fun a b => decide (a.1 ≤ b.1)).map Prod.snd
  else members

mutual

def Value.shown : Value → String
  | .scalar s => s.shown
  | .list items => "[" ++ listed (Value.shownAll items) ++ "]"
  | .map entries => "\x7b" ++ listed (Value.shownEntries entries) ++ "\x7d"
  | .set [] => "set()"
  | .set members => "\x7b" ++ listed ((inSetOrder members).map Scalar.shown) ++ "\x7d"
  | .pair first second => "(" ++ first.shown ++ ", " ++ second.shown ++ ")"
  | .again isMap => if isMap then "\x7b...\x7d" else "[...]"

def Value.shownAll : List Value → List String
  | [] => []
  | item :: items => item.shown :: Value.shownAll items

def Value.shownEntries : List (Scalar × Value) → List String
  | [] => []
  | (key, value) :: entries => (key.shown ++ ": " ++ value.shown) :: Value.shownEntries entries

end

/-- A fixed row of texts as a message shows it: in round brackets, with a comma behind a lone
one. -/
def shownRow : List String → String
  | [item] => "(" ++ quoted item ++ ",)"
  | items => "(" ++ listed (items.map quoted) ++ ")"

def Scalar.isTooLong : Scalar → Bool
  | .int n => Nat.pow 10 Text.maxDigits ≤ n.natAbs
  | _ => false

mutual

/-- Whether a number that is too long to be written is anywhere in a value. -/
def Value.isTooLong : Value → Bool
  | .scalar s => s.isTooLong
  | .list items => anyTooLong items
  | .map entries => anyEntryTooLong entries
  | .set members => members.any Scalar.isTooLong
  | .pair first second => first.isTooLong || second.isTooLong
  | .again _ => false

def Value.anyTooLong : List Value → Bool
  | [] => false
  | item :: items => item.isTooLong || anyTooLong items

def Value.anyEntryTooLong : List (Scalar × Value) → Bool
  | [] => false
  | (key, value) :: entries => key.isTooLong || value.isTooLong || anyEntryTooLong entries

end

end Polyglot.Data
