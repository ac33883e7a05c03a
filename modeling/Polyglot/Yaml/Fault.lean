import Polyglot.Text.Numeral
import Polyglot.Yaml.Flaw

namespace Polyglot.Yaml

open Polyglot.Text (quoted)

/-- A part of a moment that can be out of its range. -/
inductive TimePart where
  | year (value : Nat)
  | month
  | day
  | hour
  | minute
  | second
  | zone (minutes : Int)
  deriving DecidableEq, Repr

/-- What is wrong with a document. -/
inductive Fault where
  | malformed (flaw : Flaw)
  /-- Lists and maps stand inside of others beyond all bounds. -/
  | tooDeep
  | notAnInt (base : Nat) (text : String)
  | tooManyDigits (digits : Nat)
  | notAFloat (text : String)
  /-- A number to the base sixty has so many parts that the first of them is beyond all doubles. -/
  | tooManyParts
  | noNumber
  | notABool
  | notATime
  /-- A map stands where the text of a time is asked for. -/
  | notAText
  | endless
  | outOfRange (part : TimePart)
  /-- The code of an escape is beyond the last character, or beyond what a code can be. -/
  | notAChar (code : Nat)
  deriving DecidableEq, Repr

private def spanText (minutes : Int) : String :=
  let days := minutes / 1440
  let seconds := minutes % 1440 * 60
  "datetime.timedelta(days=" ++ toString days ++
    (if seconds = 0 then "" else ", seconds=" ++ toString seconds) ++ ")"

def TimePart.message : TimePart → String
  | .year value => "year " ++ toString value ++ " is out of range"
  | .month => "month must be in 1..12"
  | .day => "day is out of range for month"
  | .hour => "hour must be in 0..23"
  | .minute => "minute must be in 0..59"
  | .second => "second must be in 0..59"
  | .zone minutes => "offset must be a timedelta strictly between -timedelta(hours=24) and " ++
      "timedelta(hours=24), not " ++ spanText minutes ++ "."

/-- How many characters of a text are shown that is no whole number. -/
def shownLength : Nat := 200

def Fault.message : Fault → String
  | .malformed flaw => "invalid YAML: " ++ flaw.message
  | .notAnInt base text =>
    "invalid literal for int() with base " ++ toString base ++ ": " ++
      String.ofList ((quoted text).toList.take shownLength)
  | .tooManyDigits digits => Text.tooLongMessage (some digits)
  | .notAFloat text => "could not convert string to float: " ++ quoted text
  | .outOfRange part => part.message
  | .notAChar code => if code < 0x80000000 then "chr() arg not in range(0x110000)" else ""
  | .tooDeep | .noNumber | .tooManyParts | .notABool | .notATime | .notAText | .endless => ""

/-- What reading gives. -/
abbrev Result := Except Fault

def broken {α : Type} (flaw : Flaw) : Result α := .error (.malformed flaw)

end Polyglot.Yaml
