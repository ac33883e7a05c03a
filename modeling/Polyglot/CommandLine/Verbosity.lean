import Polyglot.Environment
import Polyglot.Journal
import Polyglot.Json.Writer
import Polyglot.Text.LetterCase

namespace Polyglot.CommandLine

/-- How an event is written to the log. -/
inductive LogFormat where
  | json
  | console
  deriving DecidableEq, Repr

/-- Which events are logged, and how. -/
structure Verbosity where
  /-- The least rank of an event that is logged. -/
  least : Nat
  format : LogFormat
  deriving DecidableEq, Repr

/-- The ranks of the levels that can be asked for. Where none is set, warnings are logged. -/
def rankOf? (name : String) : Option Nat :=
  match Text.upper name with
  | "DEBUG" => some Level.debug.rank
  | "INFO" => some Level.info.rank
  | "WARN" | "WARNING" | "NOTSET" => some Level.warning.rank
  | "ERROR" => some 40
  | "FATAL" | "CRITICAL" => some 50
  | _ => none

def LogFormat.line (format : LogFormat) (event : Event) : String :=
  match format with
  | .json => Json.write Json.line (.map ((.text "event", .text event.name) ::
      event.fields.map (fun (name, value) => (.text name, value)) ++
      [(.text "level", .text event.level.name), (.text "logger", .text event.logger)]))
  | .console => " ".intercalate (("[" ++ event.level.name ++ "]") :: event.name ::
      event.fields.map fun (name, value) => name ++ "=" ++ value.shown)

/-- The verbosity that the command line and the environment ask for; none, if the environment names
an unknown level. -/
def Verbosity.of? (verbose : Bool) (environment : Environment) : Option Verbosity :=
  let level := if verbose then "DEBUG" else environment.logLevel.getD "INFO"
  let format := Text.lower (environment.logFormat.getD "console")
  (rankOf? level).map fun least => { least, format := if format = "json" then .json else .console }

def Verbosity.logged (verbosity : Verbosity) (journal : Journal) : Journal :=
  journal.filter fun event => verbosity.least ≤ event.level.rank

end Polyglot.CommandLine
