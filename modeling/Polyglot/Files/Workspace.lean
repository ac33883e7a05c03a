import Polyglot.Files.Node
import Polyglot.Path
import Polyglot.Text.Quoted

namespace Polyglot.Files

/-- Why a path leads to nothing. -/
inductive LookupError where
  | missing
  | notAFolder
  | tooManyLinks
  | nameTooLong
  /-- A path holds a zero character, which no name can. -/
  | zeroCharacter
  deriving DecidableEq, Repr

/-- Whether the error means that there is nothing at a path, where others stop the asker. -/
def LookupError.isAbsence : LookupError → Bool
  | .missing | .notAFolder | .tooManyLinks | .zeroCharacter => true
  | .nameTooLong => false

/-- What the system says of a path that leads to nothing. -/
def LookupError.message (path : Path) : LookupError → String
  | .missing => "[Errno 2] No such file or directory: " ++ Text.quoted path.text
  | .notAFolder => "[Errno 20] Not a directory: " ++ Text.quoted path.text
  | .nameTooLong => "[Errno 36] File name too long: " ++ Text.quoted path.text
  | .tooManyLinks => "[Errno 40] Too many levels of symbolic links: " ++ Text.quoted path.text
  | .zeroCharacter => "embedded null byte"

/-- A path that the system refuses to look up. -/
structure Refusal where
  path : Path
  error : LookupError
  deriving DecidableEq, Repr

def Refusal.message (refusal : Refusal) : String := refusal.error.message refusal.path

/-- Which path was refused is not always asked. -/
instance : Coe Refusal LookupError := ⟨Refusal.error⟩

/-- A place in a tree: the names on the way from its root, none of them a link. -/
abbrev Place := List String

/-- A file tree and the folder in it from which relative paths start. -/
structure Workspace where
  root : Node
  here : Place := []

namespace Workspace

def linkLimit : Nat := 40

def nameLimit : Nat := 255

/-- A path of more bytes that leads nowhere is called too long. Paths that lead somewhere are taken to be
shorter. -/
def pathLimit : Nat := 4095

/-- The steps of a path as it is written. A slash at the end asks for a folder, as a dot does. -/
def stepsOf (text : String) : List String :=
  (Text.ofPieces (Text.splitOn '/' text.toList)).filter (· != "") ++
    (if text.endsWith "/" then ["."] else [])

def startOf (place : Place) (text : String) : Place := if text.startsWith "/" then [] else place

def follow (ws : Workspace) (links : Nat) (place : Place) (parts : List String) :
    Except LookupError Place :=
  match parts with
  | [] => .ok place
  | part :: rest =>
    match ws.root.at? place with
    | some (.folder entries) =>
      if part = "." then follow ws links place rest
      else if part = ".." then follow ws links place.dropLast rest
      else match entries.find? (·.1 == part) with
        | none => .error (if nameLimit < part.utf8ByteSize then .nameTooLong else .missing)
        | some (_, .link target) =>
          match links with
          | 0 => .error .tooManyLinks
          | links + 1 =>
            follow ws links (startOf place target) (stepsOf target ++ rest)
        | some _ => follow ws links (place ++ [part]) rest
    | some _ => .error .notAFolder
    | none => .error .missing
termination_by (links, parts.length)

/-- Why a path leads nowhere: what is wrong with its text comes before what was met on the way. -/
def faultOf (text : String) (met : LookupError) : LookupError :=
  if text.contains '\x00' then .zeroCharacter
  else if pathLimit < text.utf8ByteSize then .nameTooLong
  else met

def locate (ws : Workspace) (path : Path) : Except LookupError Place :=
  (ws.follow linkLimit (if path.root = "" then ws.here else []) path.parts).mapError
    (faultOf path.text)

def nodeIn (ws : Workspace) (place : Place) : Except LookupError Node :=
  match ws.root.at? place with
  | some node => .ok node
  | none => .error .missing

def node? (ws : Workspace) (path : Path) : Except LookupError Node := do
  ws.nodeIn (← ws.locate path)

/-- The node that a path leads to as it is written, where nothing is left out of the path. -/
def nodeAt (ws : Workspace) (text : String) : Except LookupError Node :=
  if text = "" then .error .missing
  else do
    ws.nodeIn (← (ws.follow linkLimit (startOf ws.here text) (stepsOf text)).mapError (faultOf text))

def has (ws : Workspace) (path : Path) : Except LookupError Bool :=
  match ws.node? path with
  | .ok _ => .ok true
  | .error e => if e.isAbsence then .ok false else .error e

def hasFolder (ws : Workspace) (path : Path) : Except LookupError Bool :=
  match ws.node? path with
  | .ok node => .ok node.isFolder
  | .error e => if e.isAbsence then .ok false else .error e

/-- Why a file cannot be read. -/
inductive ReadError where
  | lookup (error : LookupError)
  | isAFolder
  deriving DecidableEq, Repr

def contentOf : Except LookupError Node → Except ReadError ByteArray
  | .ok (.file content) => .ok content
  | .ok _ => .error .isAFolder
  | .error e => .error (.lookup e)

def read (ws : Workspace) (path : Path) : Except ReadError ByteArray := contentOf (ws.node? path)

/-- The content of the file at a path as it is written. -/
def readAt (ws : Workspace) (text : String) : Except ReadError ByteArray := contentOf (ws.nodeAt text)

def readIfFile (ws : Workspace) (path : Path) : Except LookupError (Option ByteArray) :=
  match ws.node? path with
  | .ok (.file content) => .ok (some content)
  | .ok _ => .ok none
  | .error e => if e.isAbsence then .ok none else .error e

def absolute (place : Place) : Path := ⟨"/", place⟩

end Workspace

end Polyglot.Files
