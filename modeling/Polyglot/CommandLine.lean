import Polyglot.Analysis
import Polyglot.Catalog.Download
import Polyglot.CommandLine.Request
import Polyglot.CommandLine.Verbosity
import Polyglot.Json.Writer
import Polyglot.Report
import Polyglot.Samples.Directory
import Polyglot.Samples.Repository

namespace Polyglot.CommandLine

open Polyglot.Data (Value)
open Polyglot.Files (Workspace)

variable {ν : Type}

/-- An error that the command line does not report but dies of. -/
inductive Crash where
  | unknownLevel (name : String)
  /-- A path among the arguments has a zero character. -/
  | zeroCharacter
  | table (error : TableError)
  | analysis (error : AnalysisError)

/-- How a run ends. -/
inductive End where
  | success (output : String)
  | usage (error : UsageError)
  | failure (message : String)
  | crash (crash : Crash)

/-- What a run of the command comes to: its ending, its log and the network it leaves behind. -/
structure Outcome (ν : Type) where
  ending : End
  logged : Journal := []
  format : LogFormat := .console
  network : ν

def End.exitCode : End → Nat
  | .success _ => 0
  | .usage _ => 2
  | .failure _ | .crash _ => 1

def End.output : End → String
  | .success output => output
  | _ => ""

def End.message? : End → Option String
  | .usage error => error.message?
  | .failure message => some message
  | _ => none

/-- The surroundings of a run. -/
structure World (ν : Type) where
  workspace : Workspace
  environment : Environment := {}
  network : Http.Network ν

def versionText : String := "repolang, version 0.1.0\n"

def usageText : String := "Usage: repolang [-v] analyse [OPTIONS] [PATHS]...\n"

/-- A value as it is printed alone: with parts as JSON, without parts as its text. -/
def partText : Value → String
  | .scalar s => s.name
  | value => Json.write Json.indentedAscii value

def resultText (format : Format) (summary : Summary) : Except UsageError String :=
  match format with
  | .report => .ok ("".intercalate ((Report.ofSummary summary).lines.map (· ++ "\n")))
  | .json => .ok (Json.write Json.indented summary.toValue ++ "\n")
  | .part keys =>
    match valueUnder keys summary.toValue with
    | .ok value => .ok (partText value ++ "\n")
    | .error key => .error (.unknownKey key)

def catalogFor (world : World ν) (request : Request) :
    StateM ν (Journal × Except TableError Catalog) :=
  Catalog.load { network := world.network } world.environment
    (if request.remoteTables then "remote" else "bundled") none

/-- Analyses the paths of a request with the samples that it asks for. -/
def analyse (world : World ν) (request : Request) (catalog : Catalog) (network : ν) :
    Journal × Except AnalysisError Summary × ν :=
  let ws := world.workspace
  let paths := request.paths.map Path.ofText
  match request.samples with
  | .none =>
    let outcome := Analysis.run ws catalog request.options (.ofTexts []) paths ()
    (outcome.journal, outcome.result, network)
  | .folder root =>
    let outcome := Analysis.run ws catalog request.options (.ofFolder ws (.ofText root)) paths ()
    (outcome.journal, outcome.result, network)
  | .repository =>
    let repository : Repository ν := {
      client := { network := world.network }
      ref := world.environment.refFor none
      token := world.environment.tokenFor none }
    let outcome := Analysis.run ws catalog request.options (.ofRepository repository) paths
      { network : Repository.Memory ν }
    (outcome.journal ++ outcome.samples.journal, outcome.result, outcome.samples.network)

/-- How an analysis that fails ends: a path that is not there, or cannot be read, is reported. -/
def endOf : AnalysisError → End
  | .resolve (.missing path) => .failure (AnalysisError.resolve (.missing path)).message
  | .resolve (.refused refusal) => .failure refusal.message
  | error => .crash (.analysis error)

def endOfTable : TableError → End
  | .refused source fault => .failure (TableError.refused source fault).message
  | error => .crash (.table error)

/-- Answers a request; with all that is reported on the way. -/
def answer (world : World ν) (request : Request) (network : ν) : Journal × End × ν :=
  let ((fetched, catalog), network) := (catalogFor world request).run network
  match catalog with
  | .error e => (fetched, endOfTable e, network)
  | .ok catalog =>
    let (journal, result, network) := analyse world request catalog network
    let ending := match result with
      | .error e => endOf e
      | .ok summary => match resultText request.format summary with
        | .ok text => .success text
        | .error e => .usage e
    (fetched ++ journal, ending, network)

def run (world : World ν) (args : List String) (network : ν) : Outcome ν :=
  match Command.ofArgs args with
  | .error e => { ending := .usage e, network }
  | .ok .version => { ending := .success versionText, network }
  | .ok .help => { ending := .success usageText, network }
  | .ok (.analyse verbose args) =>
    match Verbosity.of? verbose world.environment with
    | none =>
      { ending := .crash (.unknownLevel (world.environment.logLevel.getD "")), network }
    | some verbosity =>
      let request : Except Refusal (Option Request) := do
        let arguments ← (Arguments.read Switch.behindCommand true args).mapError .usage
        if arguments.isOn .help then return none
        return some (← Request.ofArguments world.workspace arguments)
      match request with
      | .error (.usage e) => { ending := .usage e, format := verbosity.format, network }
      | .error .zeroCharacter => { ending := .crash .zeroCharacter, format := verbosity.format, network }
      | .ok none => { ending := .success usageText, format := verbosity.format, network }
      | .ok (some request) =>
        let (journal, ending, network) := answer world request network
        { ending, logged := verbosity.logged journal, format := verbosity.format, network }

end Polyglot.CommandLine
