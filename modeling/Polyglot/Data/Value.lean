import Polyglot.Data.Binary64
import Polyglot.Data.Moment

namespace Polyglot.Data

/-- A value without parts. These are the values that can be keys of a map. -/
inductive Scalar where
  | null
  | bool (value : Bool)
  | int (value : Int)
  | float (value : Binary64)
  | text (value : String)
  | date (year month day : Nat)
  | moment (value : Moment)
  | bytes (value : List UInt8)
  deriving DecidableEq, Repr

/-- A map keeps its entries in order; a set is a map without values. A list or a map that holds itself
does so through a mark that stands in its place. -/
inductive Value where
  | scalar (value : Scalar)
  | list (items : List Value)
  | map (entries : List (Scalar × Value))
  | set (members : List Scalar)
  | pair (first second : Value)
  /-- The list, or the map, that holds this place, once more. -/
  | again (isMap : Bool)

/-- What two scalars have in common when they are equal: truth values count as zero and one, a whole
floating-point number as that number, and a moment as its instant. -/
def Scalar.key : Scalar → Scalar
  | .bool b => .int (if b then 1 else 0)
  | .float x => match x.toInt? with
    | some n => .int n
    | none => .float x
  | .moment m => .moment m.key
  | s => s

def Scalar.same (a b : Scalar) : Bool := a.key == b.key

@[simp] theorem Scalar.key_text (s : String) : (Scalar.text s).key = .text s := rfl

@[simp] theorem Scalar.same_text (a b : String) :
    (Scalar.text a).same (.text b) = decide (a = b) := by
  by_cases h : a = b <;> simp [Scalar.same, h]

theorem Scalar.same_comm (first second : Scalar) : first.same second = second.same first := by
  rw [Scalar.same, Scalar.same, Bool.beq_comm]

/-- A scalar that is one key with a text is the text. -/
theorem Scalar.same_text_iff {scalar : Scalar} {text : String} :
    scalar.same (.text text) = true ↔ scalar = .text text := by
  cases scalar with
  | float x =>
    simp only [same, key, beq_iff_eq, reduceCtorEq, iff_false]
    split <;> simp
  | _ => simp [same, key]

def Scalar.truthy : Scalar → Bool
  | .null => false
  | .bool b => b
  | .int n => n != 0
  | .float x => !x.isZero
  | .text s => s != ""
  | .date .. => true
  | .moment _ => true
  | .bytes b => !b.isEmpty

namespace Value

@[match_pattern] abbrev null : Value := .scalar .null
@[match_pattern] abbrev bool (b : Bool) : Value := .scalar (.bool b)
@[match_pattern] abbrev int (n : Int) : Value := .scalar (.int n)
@[match_pattern] abbrev float (x : Binary64) : Value := .scalar (.float x)
@[match_pattern] abbrev text (s : String) : Value := .scalar (.text s)

def truthy : Value → Bool
  | .scalar s => s.truthy
  | .list items => !items.isEmpty
  | .map entries => !entries.isEmpty
  | .set members => !members.isEmpty
  | .pair .. | .again _ => true

def ofNat (n : Nat) : Value := .int n

def kind : Value → String
  | .null => "NoneType"
  | .bool _ => "bool"
  | .int _ => "int"
  | .float _ => "float"
  | .text _ => "str"
  | .scalar (.date ..) => "date"
  | .scalar (.moment _) => "datetime"
  | .scalar (.bytes _) => "bytes"
  | .list _ | .again false => "list"
  | .map _ | .again true => "dict"
  | .set _ => "set"
  | .pair .. => "tuple"

def ofOption : Option String → Value
  | none => .null
  | some s => .text s

end Value

/-- The entries of a map, in order. -/
abbrev Entries := List (Scalar × Value)

namespace Entries

/-- The value under a key; an entry that is given again replaces the value where the key stands. -/
def get? (entries : Entries) (key : String) : Option Value :=
  (entries.find? fun entry => entry.1.same (.text key)).map Prod.snd

def put (entries : Entries) (key : Scalar) (value : Value) : Entries :=
  if entries.any fun entry => entry.1.same key then
    entries.map fun entry => if entry.1.same key then (entry.1, value) else entry
  else entries ++ [(key, value)]

/-- The map that a list of entries makes when they are put one after the other. -/
def ofList (entries : List (Scalar × Value)) : Entries :=
  entries.foldl (fun done entry => put done entry.1 entry.2) []

end Entries

end Polyglot.Data
