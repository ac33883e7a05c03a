import Polyglot.Options
import Polyglot.Text.Quoted

namespace Polyglot.CommandLine

open Polyglot.Text (quoted)

/-- What is wrong with the value of an option or an argument. -/
inductive ValueFault where
  | notAChoice (value : String) (choices : List String)
  | notAnInt (value : String)
  | noPath (value : String)
  | noFolder (value : String)
  | notAFolder (value : String)
  deriving DecidableEq, Repr

def ValueFault.message : ValueFault → String
  | .notAChoice value choices =>
    quoted value ++ " is not one of " ++ ", ".intercalate (choices.map quoted) ++ "."
  | .notAnInt value => quoted value ++ " is not a valid integer."
  | .noPath value => "Path " ++ quoted value ++ " does not exist."
  | .noFolder value => "Directory " ++ quoted value ++ " does not exist."
  | .notAFolder value => "Directory " ++ quoted value ++ " is a file."

/-- Why the arguments cannot be followed. -/
inductive UsageError where
  | nothing
  | noCommand
  /-- A command that is not there; with those whose names are close. -/
  | unknownCommand (name : String) (close : List String)
  /-- An option that is not there; with those whose names are close. -/
  | unknownOption (name : String) (close : List String)
  | noArgument (option : String)
  | needlessValue (option : String)
  /-- The value at a place, which is an option or an argument. -/
  | invalidValue (place : String) (fault : ValueFault)
  | twoSampleSources
  | invalidOptions (faults : List OptionFault)
  | unknownKey (key : String)
  deriving DecidableEq, Repr

def suggestion (names : List String) : String :=
  match names.mergeSort fun a b => a ≤ b with
  | [] => ""
  | [name] => " Did you mean " ++ quoted name ++ "?"
  | names => " (Did you mean one of: " ++ ", ".intercalate (names.map quoted) ++ "?)"

/-- The first line of what is said about an error. Without arguments only the usage is shown. -/
def UsageError.message? : UsageError → Option String
  | .nothing => none
  | .noCommand => some "Missing command."
  | .unknownCommand name close =>
    some ("No such command " ++ quoted name ++ "." ++ suggestion close)
  | .unknownOption name close => some ("No such option " ++ quoted name ++ "." ++ suggestion close)
  | .noArgument option => some ("Option " ++ quoted option ++ " requires an argument.")
  | .needlessValue option => some ("Option " ++ quoted option ++ " does not take a value.")
  | .invalidValue place fault => some ("Invalid value for " ++ place ++ ": " ++ fault.message)
  | .twoSampleSources => some "--samples-dir and --github-samples are mutually exclusive"
  | .invalidOptions faults =>
    some (toString faults.length ++
      (if faults.length = 1 then " validation error" else " validation errors") ++
      " for AnalysisOptions")
  | .unknownKey key => some ("Key '" ++ key ++ "' cannot be found on the output object")

end Polyglot.CommandLine
