import Polyglot.Yaml.Cursor

namespace Polyglot.Yaml

/-- What kind of value a node stands for. -/
inductive Tag where
  | null
  | bool
  | int
  | float
  | text
  | time
  | binary
  /-- The key under which a map takes over the entries of others. -/
  | merge
  /-- The key under which a map keeps its value. -/
  | value
  | list
  | map
  | set
  | orderedMap
  | pairs
  | unknown (name : String)
  deriving DecidableEq, Repr

namespace Tag

def family : String := "tag:yaml.org,2002:"

def ofName (name : String) : Tag :=
  match (Text.after? family.toList name.toList).map String.ofList with
  | some "null" => null
  | some "bool" => bool
  | some "int" => int
  | some "float" => float
  | some "str" => text
  | some "timestamp" => time
  | some "binary" => binary
  | some "merge" => merge
  | some "value" => value
  | some "seq" => list
  | some "map" => map
  | some "set" => set
  | some "omap" => orderedMap
  | some "pairs" => pairs
  | _ => unknown name

def name : Tag → String
  | null => family ++ "null"
  | bool => family ++ "bool"
  | int => family ++ "int"
  | float => family ++ "float"
  | text => family ++ "str"
  | time => family ++ "timestamp"
  | binary => family ++ "binary"
  | merge => family ++ "merge"
  | value => family ++ "value"
  | list => family ++ "seq"
  | map => family ++ "map"
  | set => family ++ "set"
  | orderedMap => family ++ "omap"
  | pairs => family ++ "pairs"
  | unknown name => name

def isCollection : Tag → Bool
  | list | map | set | orderedMap | pairs => true
  | _ => false

/-- Whether a tag asks for the text of a node and says what it is. -/
def isScalar : Tag → Bool
  | null | bool | int | float | text | time | binary => true
  | _ => false

private def isGrouped (c : Char) : Bool := c.isDigit || c == '_'

private def startsGrouped : List Char → Bool
  | c :: rest => c.isDigit && rest.all isGrouped
  | [] => false

private def unsigned : List Char → List Char
  | '+' :: rest => rest
  | '-' :: rest => rest
  | chars => chars

private def isSixtieth : List Char → Bool
  | [a] => a.isDigit
  | [a, b] => a.isDigit && a < '6' && b.isDigit
  | _ => false

private def isDecimal (chars : List Char) : Bool :=
  match chars with
  | '0' :: rest => rest.isEmpty
  | chars => startsGrouped chars

def spellsInt (chars : List Char) : Bool :=
  match unsigned chars with
  | '0' :: 'b' :: digits => !digits.isEmpty && digits.all fun c => c == '0' || c == '1' || c == '_'
  | '0' :: 'x' :: digits => !digits.isEmpty && digits.all fun c =>
      c.isDigit || ('a' ≤ c ∧ c ≤ 'f') || ('A' ≤ c ∧ c ≤ 'F') || c == '_'
  | '0' :: c :: digits => (c :: digits).all fun c => ('0' ≤ c ∧ c ≤ '7') || c == '_'
  | chars => match Text.splitOn ':' chars with
    | [whole] => isDecimal whole
    | whole :: parts => whole.head? != some '0' && startsGrouped whole && parts.all isSixtieth
    | [] => false

private def isExponent : List Char → Bool
  | sign :: digits => (sign == '+' || sign == '-') && !digits.isEmpty && digits.all Char.isDigit
  | [] => false

private def isPlaces (chars : List Char) : Bool :=
  match chars.dropWhile isGrouped with
  | [] => true
  | e :: exponent => (e == 'e' || e == 'E') && isExponent exponent

def spellsFloat (chars : List Char) : Bool :=
  let body := unsigned chars
  match body with
  | '.' :: rest =>
    ["inf", "Inf", "INF"].contains (String.ofList rest) ||
      (body == chars && (["nan", "NaN", "NAN"].contains (String.ofList rest) ||
        (rest.head?.any Char.isDigit && isPlaces rest)))
  | body =>
    let (whole, places) := (body.takeWhile (· != '.'), body.dropWhile (· != '.'))
    match Text.splitOn ':' whole, places with
    | [whole], '.' :: places => startsGrouped whole && isPlaces places
    | whole :: parts, '.' :: places => startsGrouped whole && parts.all isSixtieth && places.all isGrouped
    | _, _ => false

def boolWords : List String := ["yes", "no", "true", "false", "on", "off"]

/-- A word in lower case, in capitals, or with a capital in front. -/
def spellings (word : String) : List String := [word, word.capitalize, word.map Char.toUpper]

end Tag

/-- The parts of a time, as they are written. -/
structure TimeText where
  year : List Char
  month : List Char
  day : List Char
  clock : Option (List Char × List Char × List Char) := none
  fraction : List Char := []
  /-- The sign, the hours and the minutes of the zone; no sign stands for the zone without offset. -/
  zone : Option (Option Char × List Char × List Char) := none

namespace TimeText

private def digitsUpTo (least most : Nat) (chars : List Char) : Option (List Char × List Char) :=
  let digits := (chars.takeWhile Char.isDigit).take most
  if digits.length < least then none else some (digits, chars.drop digits.length)

private def mark? (c : Char) (chars : List Char) : Option (List Char) := Text.after? [c] chars

private def zone? (time : TimeText) (chars : List Char) : Option TimeText :=
  match chars with
  | [] => some time
  | chars => match chars.dropWhile isGap with
    | ['Z'] => some { time with zone := some (none, [], []) }
    | sign :: rest =>
      if sign == '+' || sign == '-' then do
        let (hours, rest) ← digitsUpTo 1 2 rest
        match rest with
        | [] => some { time with zone := some (some sign, hours, []) }
        | rest => do
          let (minutes, rest) ← digitsUpTo 2 2 (← mark? ':' rest)
          if rest.isEmpty then some { time with zone := some (some sign, hours, minutes) } else none
      else none
    | [] => none

private def clock? (time : TimeText) (chars : List Char) : Option TimeText := do
  let (hour, rest) ← digitsUpTo 1 2 chars
  let (minute, rest) ← digitsUpTo 2 2 (← mark? ':' rest)
  let (second, rest) ← digitsUpTo 2 2 (← mark? ':' rest)
  let time := { time with clock := some (hour, minute, second) }
  match rest with
  | '.' :: rest =>
    zone? { time with fraction := rest.takeWhile Char.isDigit } (rest.dropWhile Char.isDigit)
  | rest => zone? time rest

/-- Reads a date and, behind the letter `T` or a gap, a time of the day and its zone. -/
def ofChars? (chars : List Char) : Option TimeText := do
  let (year, rest) ← digitsUpTo 4 4 chars
  let (month, rest) ← digitsUpTo 1 2 (← mark? '-' rest)
  let (day, rest) ← digitsUpTo 1 2 (← mark? '-' rest)
  let time : TimeText := { year, month, day }
  match rest with
  | [] => some time
  | c :: after =>
    if c == 'T' || c == 't' then clock? time after
    else if isGap c then clock? time (after.dropWhile isGap)
    else none

/-- A date alone resolves as a time only with two digits for the month and the day. -/
def isSpelled (time : TimeText) : Bool :=
  time.clock.isSome || (time.month.length == 2 && time.day.length == 2)

end TimeText

/-- A text without the end of its line, if it has more than that. -/
private def withoutEnd (text : String) : List Char :=
  match text.toList with
  | first :: rest => first :: if rest.getLast? = some '\n' then rest.dropLast else rest
  | [] => []

/-- What a text is resolved to by its spelling. The end of a line may follow. -/
def Tag.ofPlain (text : String) : Tag :=
  let chars := withoutEnd text
  let text := String.ofList chars
  if (boolWords.flatMap spellings).contains text then .bool
  else if spellsFloat chars then .float
  else if spellsInt chars then .int
  else if text == "<<" then .merge
  else if text == "" || text == "~" || (spellings "null").contains text then .null
  else if (TimeText.ofChars? chars).any TimeText.isSpelled then .time
  else if text == "=" then .value
  else .text

end Polyglot.Yaml
