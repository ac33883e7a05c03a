import Polyglot.CommandLine.Arguments
import Polyglot.Files.Workspace
import Polyglot.Text.Numeral

namespace Polyglot.CommandLine

open Polyglot.Data (Value)
open Polyglot.Files (Workspace Node)

namespace Switch

def verbose : Switch := { names := ["-v", "--verbose"] }
def version : Switch := { names := ["--version"] }
def help : Switch := { names := ["--help"] }

def beforeCommand : List Switch := [verbose, version, help]

def ignoredFiles : Switch := { names := ["-i", "--ignored-files"], takesValue := true }
def ignoredLanguages : Switch := { names := ["-l", "--ignored-languages"], takesValue := true }
def categories : Switch := { names := ["-c", "--categories"], takesValue := true }
def childLanguages : Switch := { names := ["-C", "--child-languages"] }
def json : Switch := { names := ["-j", "--json"] }
def tree : Switch := { names := ["-t", "--tree"], takesValue := true }
def quick : Switch := { names := ["-q", "--quick"] }
def keepVendored : Switch := { names := ["-V", "--keep-vendored"] }
def keepBinary : Switch := { names := ["-B", "--keep-binary"] }
def attributes : Switch := { names := ["--attributes"], offNames := ["--no-attributes"] }
def ignored : Switch := { names := ["--ignored"], offNames := ["--no-ignored"] }
def heuristics : Switch := { names := ["--heuristics"], offNames := ["--no-heuristics"] }
def shebang : Switch := { names := ["--shebang"], offNames := ["--no-shebang"] }
def remoteTables : Switch := { names := ["--remote-tables"] }
def samplesFolder : Switch := { names := ["--samples-dir"], takesValue := true }
def repositorySamples : Switch := { names := ["--github-samples"] }
def concurrency : Switch := { names := ["--concurrency"], takesValue := true }

def behindCommand : List Switch := [
  ignoredFiles, ignoredLanguages, categories, childLanguages, json, tree, quick, keepVendored,
  keepBinary, attributes, ignored, heuristics, shebang, remoteTables, samplesFolder,
  repositorySamples, concurrency, help]

end Switch

def commandNames : List String := ["analyse", "analyze"]

/-- Where the samples of the languages come from. -/
inductive SampleChoice where
  | none
  | folder (path : String)
  | repository
  deriving DecidableEq, Repr

/-- How the result is printed. -/
inductive Format where
  | report
  | json
  | part (keys : String)
  deriving DecidableEq, Repr

/-- What the arguments ask for. -/
structure Request where
  paths : List String
  options : Options
  format : Format
  remoteTables : Bool
  samples : SampleChoice
  deriving DecidableEq, Repr

/-- Why no request can be made of arguments. -/
inductive Refusal where
  | usage (error : UsageError)
  /-- A path has a zero character, so that nothing can be asked of it. -/
  | zeroCharacter
  deriving DecidableEq, Repr

def nodeAt? (ws : Workspace) (path : String) : Except Refusal (Option Node) :=
  match ws.nodeAt path with
  | .ok node => .ok (some node)
  | .error .zeroCharacter => .error .zeroCharacter
  | .error _ => .ok none

def intOf? (text : String) : Option Int := (Text.readInt 10 text.toList).toOption

def categoryNames : List String := ["data", "markup", "programming", "prose"]

def faultOf? (ws : Workspace) (arguments : Arguments) (switch : Switch) :
    Except Refusal (Option ValueFault) :=
  if switch = .categories then
    .ok (((arguments.values switch).find? fun value => !categoryNames.contains value).map
      (.notAChoice · categoryNames))
  else if switch = .concurrency then
    .ok ((arguments.value? switch).bind fun value =>
      if (intOf? value).isNone then some (.notAnInt value) else none)
  else if switch = .samplesFolder then
    match arguments.value? switch with
    | none => .ok none
    | some value => (nodeAt? ws value).map fun
      | none => some (.noFolder value)
      | some node => if node.isFolder then none else some (.notAFolder value)
  else .ok none

def checkOptions (ws : Workspace) (arguments : Arguments) : List Switch → Except Refusal Unit
  | [] => .ok ()
  | switch :: rest => do
    match ← faultOf? ws arguments switch with
    | some fault => throw (.usage (.invalidValue switch.place fault))
    | none => checkOptions ws arguments rest

def checkPaths (ws : Workspace) : List String → Except Refusal Unit
  | [] => .ok ()
  | path :: rest => do
    match ← nodeAt? ws path with
    | none => throw (.usage (.invalidValue "'[PATHS]...'" (.noPath path)))
    | some _ => checkPaths ws rest

def check (ws : Workspace) (arguments : Arguments) : Except Refusal Unit := do
  checkOptions ws arguments (arguments.settings.map Prod.fst)
  checkPaths ws arguments.rest

private def texts (items : List String) : Value := .list (items.map .text)

def optionEntries (arguments : Arguments) : Data.Entries :=
  let flag (name : String) (switch : Switch) (default : Bool) : Data.Scalar × Value :=
    (.text name, .bool (arguments.isOn switch default))
  [(.text "ignored_files", texts (arguments.values .ignoredFiles)),
    (.text "ignored_languages", texts (arguments.values .ignoredLanguages)),
    (.text "categories", match arguments.values .categories with
      | [] => .null
      | names => texts names),
    flag "child_languages" .childLanguages false, flag "keep_vendored" .keepVendored false,
    flag "keep_binary" .keepBinary false, flag "check_attributes" .attributes true,
    flag "check_ignored" .ignored true, flag "check_heuristics" .heuristics true,
    flag "check_shebang" .shebang true, flag "quick" .quick false,
    (.text "concurrency", .int (((arguments.value? .concurrency).bind intOf?).getD 8))]

def Request.ofArguments (ws : Workspace) (arguments : Arguments) : Except Refusal Request := do
  check ws arguments
  let samples ← match arguments.value? .samplesFolder, arguments.isOn .repositorySamples with
    | some _, true => throw (Refusal.usage .twoSampleSources)
    | some path, false => pure (SampleChoice.folder path)
    | none, true => pure SampleChoice.repository
    | none, false => pure SampleChoice.none
  let options ← (Options.ofEntries (optionEntries arguments)).mapError
    fun faults => Refusal.usage (.invalidOptions faults)
  return {
    paths := if arguments.rest.isEmpty then ["."] else arguments.rest
    options
    format := match (arguments.value? .tree).filter (· != "") with
      | some keys => .part keys
      | none => if arguments.isOn .json then .json else .report
    remoteTables := arguments.isOn .remoteTables
    samples }

/-- What a whole command line comes to: a version, a help text, or a request with its verbosity. -/
inductive Command where
  | version
  | help
  | analyse (verbose : Bool) (arguments : List String)
  deriving DecidableEq, Repr

/-- The command that a setting among the options before it asks for at once. -/
def Command.ofSettings? (arguments : Arguments) : Option Command :=
  arguments.settings.findSome? fun (switch, _) =>
    if switch = .version then some .version
    else if switch = .help then some .help
    else none

/-- Whether a name starts as an option may start: not with a letter or a digit. -/
def looksLikeOption (name : String) : Bool := name.toList.head?.any (!Text.isAlphanumeric ·)

/-- Takes the options before the command and the command from a command line. A name that is no
command, but may be an option, is read as one once more before it is refused. -/
def Command.ofArgs (args : List String) : Except UsageError Command :=
  if args.isEmpty then .error .nothing
  else do
    let arguments ← Arguments.read Switch.beforeCommand false args
    if let some command := Command.ofSettings? arguments then return command
    match arguments.rest with
    | [] => throw .noCommand
    | name :: rest =>
      if commandNames.contains name then return .analyse (arguments.isOn .verbose) rest
      if looksLikeOption name then
        let again ← Arguments.read Switch.beforeCommand false arguments.rest
        if let some command := Command.ofSettings? again then return command
      throw (.unknownCommand name (Text.closest name commandNames))

end Polyglot.CommandLine
