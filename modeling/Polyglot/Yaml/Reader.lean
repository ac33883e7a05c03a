import Polyglot.Yaml.Check

namespace Polyglot.Yaml

open Polyglot.Data (Value Scalar Entries)

namespace Document

/-- The value of a node, behind a number of levels on which the way does not count and with the way
from there on. -/
def valueAt (document : Document) :
    (fuel : Nat) → (free : Nat) → (way : List Nat) → Nat → Result Value
  | 0, _, _, _ => .error .endless
  | fuel + 1, free, way, place =>
    let node := document.nodeAt place
    if way.contains place then .ok (.again (node.content matches .map _))
    else
      let within := document.valueAt fuel (free - 1) (if free = 0 then place :: way else way)
      match node.tag, node.content with
      | .list, .list items => .list <$> items.mapM within
      | .orderedMap, .list items | .pairs, .list items =>
        .list <$> items.mapM fun item => match document.entriesAt item with
          | [(key, value)] => do .ok (.pair (← within key) (← within value))
          | _ => broken (.building .pairs)
      | .map, .map entries => do
        let entries ← entries.mapM fun (key, value) => do
          Except.ok (← document.scalarAt key, ← within value)
        .ok (.map (Entries.ofList entries))
      | .set, .map entries => do
        let keys ← entries.mapM fun entry => document.scalarAt entry.1
        .ok (.set ((Entries.ofList (keys.map fun key => (key, Value.null))).map Prod.fst))
      | _, _ => .scalar <$> document.scalarAt place

def toValue (document : Document) (free : Nat) : Result Value := do
  let document ← document.checked
  document.valueAt (document.nodes.size + free + 1) free [] document.root

end Document

/-- The value of a text, which is taken apart down to a level. A text without a document is null. -/
def read (free : Nat) (text : String) : Result Value := do
  match ← Document.ofTokens? (.ofText text) with
  | none => .ok .null
  | some document => document.toValue free

end Polyglot.Yaml
