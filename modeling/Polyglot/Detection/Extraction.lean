import Polyglot.Detection.Candidates
import Polyglot.Detection.Shebang
import Polyglot.Options
import Polyglot.Path

namespace Polyglot.Detection

open Polyglot.Data (Scalar)

/-- What decided the language of a file. -/
inductive Signal where
  | shebang
  | override
  | filename
  | extension
  | heuristic
  | classifier
  | none
  deriving DecidableEq, Repr

def Signal.name : Signal → String
  | .shebang => "shebang"
  | .override => "override"
  | .filename => "filename"
  | .extension => "extension"
  | .heuristic => "heuristic"
  | .classifier => "classifier"
  | .none => "none"

/-- The candidates for a file, with the signal that gave them. -/
structure Extraction where
  candidates : Candidates
  signal : Signal

/-- A shebang and an override are final: nothing else is asked. -/
def Extraction.terminal (extraction : Extraction) : Bool :=
  extraction.signal == .shebang || extraction.signal == .override

/-- The label of a language: itself, or what it counts as. -/
def labelOf (catalog : Catalog) (options : Options) (name : String) : Label :=
  if options.childLanguages then .text name else catalog.coarsen name

def dotSuffixes : List Char → List (List Char)
  | [] => []
  | c :: rest => if c = '.' then (c :: rest) :: dotSuffixes rest else dotSuffixes rest

/-- The languages of the table with some extension that a name ends in, in the order of the table. -/
def byExtension (catalog : Catalog) (name : String) : List String :=
  let matched := (dotSuffixes name.toList).flatMap fun suffix =>
    catalog.extensionIndex.get (String.ofList suffix)
  (catalog.languages.map Language.name).filter fun language => matched.contains language

/-- The candidates for a path, given its first line and the override that applies to it. -/
def extract (catalog : Catalog) (options : Options) (path : String)
    (firstLine override : Option String) : Extraction :=
  let collect (signal : Signal) (names : List String) : Extraction :=
    ⟨.ofList (names.map (labelOf catalog options)), signal⟩
  let interpreter := if options.checkShebang then firstLine.bind (shebang? catalog) else none
  let forced := if options.checkAttributes then override.filter (· != "") else none
  match interpreter, forced with
  | some language, _ => collect .shebang [language]
  | none, some language => collect .override [language]
  | none, none =>
    let name := Text.lower (Path.ofText path).name
    match catalog.filenameIndex.get name with
    | language :: others => collect .filename (language :: others)
    | [] => match byExtension catalog name with
      | language :: others => collect .extension (language :: others)
      | [] => ⟨.empty, .none⟩

end Polyglot.Detection
