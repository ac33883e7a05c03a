import Polyglot.Yaml.Merge
import Polyglot.Yaml.ScalarValue

namespace Polyglot.Yaml

open Polyglot.Data (Scalar)

namespace Document

/-- The text of a node where a scalar is asked for: its own, or that under the value key of a map.
On a way that is longer than the document there is none. -/
def textAt (document : Document) : (fuel : Nat) → Nat → Result String
  | 0, _ => .error .endless
  | fuel + 1, place => match (document.nodeAt place).content with
    | .scalar text => .ok text
    | .list _ => broken (.wrongKind .scalar .list)
    | .map entries => match entries.find? fun entry => document.tagAt entry.1 = .value with
      | some (_, value) => document.textAt fuel value
      | none => broken (.wrongKind .scalar .map)

/-- The value of a node whose tag asks for a scalar. A time must be the text of the node itself. -/
def scalarAt (document : Document) (place : Nat) : Result Scalar := do
  let node := document.nodeAt place
  if node.tag.isScalar then
    let text ← document.textAt (document.nodes.size + 1) place
    match node.tag, node.content with
    | .time, .map _ => .error .notAText
    | tag, _ => scalarOf tag text
  else broken (.unknownTag node.tag.name)

end Document

/-- A document that is being checked, which of its nodes have been entered, and the lists and maps
among these that wait for their turn. -/
structure Inspection where
  document : Document
  entered : Array Bool
  waiting : List Nat := []

namespace Inspection

abbrev Check := StateT Inspection Result

private def nodeAt (place : Nat) : Check Node := do return (← get).document.nodeAt place

def enter (place : Nat) : Check Unit := do
  let s ← get
  if !s.entered.getD place false then
    set { s with entered := s.entered.setIfInBounds place true }
    if (s.document.tagAt place).isCollection then
      modify fun s => { s with waiting := s.waiting ++ [place] }
    else
      let _ ← s.document.scalarAt place

private def enterKey (place : Nat) : Check Unit := do
  enter place
  if (← nodeAt place).tag.isCollection then throw (.malformed (.building .map))

private def enterEntry (entry : Nat × Nat) : Check Unit := do
  enterKey entry.1
  enter entry.2

private def enterPair (part : Part) (place : Nat) : Check Unit := do
  match (← nodeAt place).content with
  | .map [(key, value)] =>
    enter key
    enter value
  | _ => throw (.malformed (.building part))

def inspect (place : Nat) : Check Unit := do
  let node ← nodeAt place
  match node.tag, node.content with
  | .list, .list items => items.forM enter
  | .orderedMap, .list items => items.forM (enterPair .orderedMap)
  | .pairs, .list items => items.forM (enterPair .pairs)
  | .map, .map _ | .set, .map _ =>
    let document ← (← get).document.merged place
    modify fun s => { s with document }
    (document.entriesAt place).forM enterEntry
  | .orderedMap, _ => throw (.malformed (.building .orderedMap))
  | .pairs, _ => throw (.malformed (.building .pairs))
  | .list, content => throw (.malformed (.wrongKind .list content.kind))
  | _, content => throw (.malformed (.wrongKind .map content.kind))

private def run : (fuel : Nat) → Check Unit
  | 0 => pure ()
  | fuel + 1 => do
    match (← get).waiting with
    | [] => pure ()
    | place :: waiting =>
      modify fun s => { s with waiting }
      inspect place
      run fuel

end Inspection

/-- The document, where each node is what its tag says and each map has what it takes over. -/
def Document.checked (document : Document) : Result Document := do
  let all : Inspection.Check Unit := do
    Inspection.enter document.root
    Inspection.run document.nodes.size
  let (_, s) ← all.run { document, entered := .replicate document.nodes.size false }
  .ok s.document

end Polyglot.Yaml
