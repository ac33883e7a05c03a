import Polyglot.Yaml.Document
import Polyglot.Yaml.Fault

namespace Polyglot.Yaml.Document

def setEntries (document : Document) (place : Nat) (entries : List (Nat × Nat)) : Document :=
  document.setNode place { document.nodeAt place with content := .map entries }

/-- In a map that is asked for its entries the value key is a text like others. -/
def withTextKey (document : Document) (key : Nat) : Document :=
  if document.tagAt key = .value then
    document.setNode key { document.nodeAt key with tag := .text }
  else document

/-- The value of the first entry that asks for the entries of others, and the entries around it. -/
def splitAtMerge (document : Document) (entries : List (Nat × Nat)) :
    Option (List (Nat × Nat) × Nat × List (Nat × Nat)) :=
  let (before, rest) := entries.span fun entry => document.tagAt entry.1 != .merge
  match rest with
  | (_, value) :: after => some (before, value, after)
  | [] => none

/-- A change of a document that may fail. -/
abbrev Change := StateT Document Result

mutual

/-- Gives a map the entries that it takes over. Each entry that asks for others is removed before
those are looked for, so a map that asks itself takes over what it has beside that. -/
def flatten (place : Nat) : (fuel : Nat) → Change Unit
  | 0 => throw (.malformed (.building .map))
  | fuel + 1 => do
    let taken ← takeOver place fuel
    modify fun document =>
      let entries := taken ++ document.entriesAt place
      entries.foldl (fun document entry => document.withTextKey entry.1)
        (document.setEntries place entries)

/-- Removes the entries of a map that ask for others, and answers with what they ask for. -/
def takeOver (place : Nat) : (fuel : Nat) → Change (List (Nat × Nat))
  | 0 => throw (.malformed (.building .map))
  | fuel + 1 => do
    let document ← get
    match document.splitAtMerge (document.entriesAt place) with
    | none => return []
    | some (before, value, after) =>
      set (document.setEntries place (before ++ after))
      let taken ← takenFrom value fuel
      return taken ++ (← takeOver place fuel)

/-- The entries to take over from a map, or from the maps of a list, of which the first wins. -/
def takenFrom (place : Nat) : (fuel : Nat) → Change (List (Nat × Nat))
  | 0 => throw (.malformed (.building .map))
  | fuel + 1 => do
    match ((← get).nodeAt place).content with
    | .map _ => takenFromMap place fuel
    | .list items => return (← items.mapM fun item => takenFromMap item fuel).reverse.flatten
    | .scalar _ => throw (.malformed (.building .map))

def takenFromMap (place : Nat) : (fuel : Nat) → Change (List (Nat × Nat))
  | 0 => throw (.malformed (.building .map))
  | fuel + 1 => do
    match ((← get).nodeAt place).content with
    | .map _ =>
      flatten place fuel
      return (← get).entriesAt place
    | _ => throw (.malformed (.building .map))

end

/-- Enough steps to take over entries: every fourth one removes an entry of the document. -/
def mergeFuel (document : Document) : Nat :=
  4 * (document.nodes.foldr (fun node sum => match node.content with
    | .map entries => entries.length + sum
    | _ => sum) 0 + 1)

def merged (document : Document) (place : Nat) : Result Document := do
  let (_, document) ← (flatten place document.mergeFuel).run document
  .ok document

end Polyglot.Yaml.Document
