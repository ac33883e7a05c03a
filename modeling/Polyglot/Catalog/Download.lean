import Polyglot.Catalog.Bundled
import Polyglot.Catalog.NamePatterns
import Polyglot.Catalog.Tables
import Polyglot.Environment
import Polyglot.Http
import Polyglot.Yaml.Reader

namespace Polyglot.Catalog

open Polyglot.Data (Value)

variable {ν : Type}

/-- Where a file of the tables is at a state of the public repository. -/
def tableUrl (ref file : String) : String :=
  "https://raw.githubusercontent.com/github-linguist/linguist/" ++ ref ++ "/lib/linguist/" ++ file

/-- Work with a network that reports what it does and may be cut short by an error. -/
abbrev Fetching (ν : Type) := ExceptT TableError (StateT Journal (StateM ν))

def fetchTable (client : Http.Client ν) (ref file : String) : Fetching ν String := do
  let url := tableUrl ref file
  match ← (client.getAt url : StateM ν _) with
  | .error (.invalidAddress fault) => throw (.invalidAddress fault)
  | .error .notAscii => throw .notAscii
  | .error (.invalidLabel fault) => throw (.invalidLabel fault)
  | .error failure => throw (.refused url (.unreached failure))
  | .ok response =>
    if !response.isSuccess then throw (.refused url (.unserved response))
    modify (· ++ [.tableFetched url response.text.length])
    return response.text

/-- The files of the public repository from which a catalog is built. -/
structure TableTexts where
  languages : String
  vendor : String
  heuristics : String
  generated : String

def fetchTables (client : Http.Client ν) (ref : String) : Fetching ν TableTexts := do
  let languages ← fetchTable client ref "languages.yml"
  let vendor ← fetchTable client ref "vendor.yml"
  let heuristics ← fetchTable client ref "heuristics.yml"
  let generated ← fetchTable client ref "generated.rb"
  return { languages, vendor, heuristics, generated }

def languageLevels : Nat := 2

/-- The table of heuristics, its disambiguations, one of these and its rules. -/
def heuristicLevels : Nat := 4

/-- The value of a file in YAML, whose upper levels have their own form. -/
def tableIn (levels : Nat) (file text : String) : Except TableError Value :=
  (Yaml.read levels text).mapError fun
    | .malformed flaw => .refused file (.notYaml flaw)
    | fault => .unreadable fault

def TableTexts.read (texts : TableTexts) (ref : String) : Except TableError Tables := do
  let languages ← tableIn languageLevels "languages.yml" texts.languages
  let vendor ← tableIn 0 "vendor.yml" texts.vendor
  let heuristics ← tableIn heuristicLevels "heuristics.yml" texts.heuristics
  .ok {
    languages, vendor, heuristics
    generated := .list ((namePatterns texts.generated).map .text)
    source := "remote@" ++ ref }

/-- The catalog at a state of the public repository. -/
def download (client : Http.Client ν) (ref : String) :
    StateM ν (Journal × Except TableError Catalog) := do
  let (texts, fetched) ← (fetchTables client ref).run []
  match texts.bind fun texts => texts.read ref with
  | .error e => return (fetched, .error e)
  | .ok tables =>
    let (journal, catalog) := ofTables tables
    return (fetched ++ journal, catalog)

/-- The catalog from a named source: the bundled one, or that of the public repository. -/
def load (client : Http.Client ν) (environment : Environment) (source : String)
    (ref : Option String) : StateM ν (Journal × Except TableError Catalog) :=
  if source = "bundled" then pure ([], .ok .bundled)
  else if source = "remote" then download client (environment.refFor ref)
  else pure ([], .error (.refused source .unknownSource))

end Polyglot.Catalog
