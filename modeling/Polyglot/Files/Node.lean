namespace Polyglot.Files

/-- A file, a symbolic link or a folder with what it holds. -/
inductive Node where
  | file (content : ByteArray)
  | link (target : String)
  | folder (entries : List (String × Node))

namespace Node

def empty : Node := .folder []

def entries : Node → List (String × Node)
  | folder entries => entries
  | _ => []

def isFolder : Node → Bool
  | folder _ => true
  | _ => false

def child? (node : Node) (name : String) : Option Node :=
  (node.entries.find? (·.1 == name)).map Prod.snd

/-- The node that a row of names leads to, without following links. -/
def at? (node : Node) : List String → Option Node
  | [] => some node
  | name :: rest => (node.child? name).bind (at? · rest)

/-- Puts a node at the end of a row of names and makes the folders on the way. An empty folder
leaves a folder as it is. -/
def put (new : Node) : List String → Node → Node
  | [], old => if old.isFolder && new.isFolder && new.entries.isEmpty then old else new
  | name :: rest, old =>
    let child := put new rest ((old.child? name).getD empty)
    if (old.child? name).isSome then
      folder (old.entries.map fun entry => if entry.1 = name then (name, child) else entry)
    else folder (old.entries ++ [(name, child)])

mutual

def linkFree : Node → Bool
  | file _ => true
  | link _ => false
  | folder entries => linkFreeAll entries

def linkFreeAll : List (String × Node) → Bool
  | [] => true
  | (_, node) :: rest => linkFree node && linkFreeAll rest

end

mutual

/-- The entries of each folder have names of their own, which are neither empty nor dots and hold no
slash. -/
def WellNamed : Node → Prop
  | file _ | link _ => True
  | folder entries => (entries.map Prod.fst).Nodup ∧ AllWellNamed entries

def AllWellNamed : List (String × Node) → Prop
  | [] => True
  | (name, node) :: rest =>
    (name ≠ "" ∧ name ≠ "." ∧ name ≠ ".." ∧ '/' ∉ name.toList) ∧ WellNamed node ∧ AllWellNamed rest

end

end Node

end Polyglot.Files
