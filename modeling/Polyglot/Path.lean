import Polyglot.Text.Basic

namespace Polyglot

/-- The name of a place in a file tree, cut at its slashes. -/
structure Path where
  /-- What an absolute path starts with; two slashes differ from one and from three. -/
  root : String := ""
  parts : List String
  deriving DecidableEq, Repr

namespace Path

def rootOf : List Char → String
  | '/' :: '/' :: '/' :: _ => "/"
  | '/' :: '/' :: _ => "//"
  | '/' :: _ => "/"
  | _ => ""

def partsOf (text : String) : List String :=
  (Text.ofPieces (Text.splitOn '/' text.toList)).filter fun part => part != "" && part != "."

def ofText (text : String) : Path := ⟨rootOf text.toList, partsOf text⟩

def text (path : Path) : String :=
  if path.root = "" ∧ path.parts = [] then "." else path.root ++ "/".intercalate path.parts

/-- The last part; a path without parts has no name. -/
def name (path : Path) : String := path.parts.getLast?.getD ""

/-- The end of a name from its last dot on, if something stands before and behind the dot. -/
def suffixOf (name : List Char) : List Char :=
  let tail := (name.reverse.takeWhile (· != '.')).reverse
  if tail.isEmpty ∨ name.length ≤ tail.length + 1 then [] else '.' :: tail

def suffix (path : Path) : String := String.ofList (suffixOf path.name.toList)

/-- A path below another; an absolute path stands for itself. -/
def append (above below : Path) : Path :=
  if below.root = "" then ⟨above.root, above.parts ++ below.parts⟩ else below

instance : Append Path := ⟨append⟩

end Path

end Polyglot
