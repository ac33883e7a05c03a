import Polyglot.Data.Shown

namespace Polyglot.Json

open Polyglot.Data (Value Scalar)

/-- How a value is laid out: on one line, or a line for each part, `indent` blanks deeper than what
holds it; with characters beyond ASCII as they are, or escaped; with the entries of a map in their
order, or by key; and with blanks behind commas and colons, or without. -/
structure Layout where
  indent : Option Nat := none
  ascii : Bool := true
  sorted : Bool := false
  tight : Bool := false

private def unicodeEscape (code : Nat) : List Char := '\\' :: 'u' :: Text.hexDigits 4 code

private def escapedChar (ascii : Bool) (c : Char) : List Char :=
  let code := Text.codeOf c
  match c with
  | '"' => ['\\', '"']
  | '\\' => ['\\', '\\']
  | '\n' => ['\\', 'n']
  | '\r' => ['\\', 'r']
  | '\t' => ['\\', 't']
  | c =>
    if code = 8 then ['\\', 'b']
    else if code = 12 then ['\\', 'f']
    else if code < 0x20 then unicodeEscape code
    else if code < 0x7f || !ascii then [c]
    else if code < 0x10000 then unicodeEscape code
    else unicodeEscape (0xd800 + (code - 0x10000) / 0x400) ++
      unicodeEscape (0xdc00 + (code - 0x10000) % 0x400)

def quote (ascii : Bool) (text : String) : String :=
  String.ofList ('"' :: text.toList.flatMap (escapedChar ascii) ++ ['"'])

private def scalarText (ascii : Bool) : Scalar → String
  | .null => "null"
  | .bool b => if b then "true" else "false"
  | .int n => toString n
  | .float x =>
    if x.isNaN then "NaN"
    else if x.isInfinite then (if x.isNegative then "-Infinity" else "Infinity")
    else x.shown
  | s => quote ascii s.name

private def lineBreak (layout : Layout) (depth : Nat) : String :=
  match layout.indent with
  | none => ""
  | some width => String.ofList ('\n' :: List.replicate (width * depth) ' ')

private def comma (layout : Layout) (depth : Nat) : String :=
  if layout.tight then "," else if layout.indent.isNone then ", " else "," ++ lineBreak layout depth

private def enclose (layout : Layout) (depth : Nat) (opening closing : String) (parts : List String) :
    String :=
  if parts.isEmpty then opening ++ closing
  else
    opening ++ lineBreak layout (depth + 1) ++ (comma layout (depth + 1)).intercalate parts ++
      lineBreak layout depth ++ closing

private def inOrder (layout : Layout) (entries : List (String × String)) : List (String × String) :=
  if layout.sorted then entries.mergeSort fun a b => a.1 ≤ b.1 else entries

mutual

private def writeAt (layout : Layout) (depth : Nat) : Value → String
  | .scalar s => scalarText layout.ascii s
  | .list items => enclose layout depth "[" "]" (writeItems layout (depth + 1) items)
  | .map entries =>
    enclose layout depth "\x7b" "\x7d"
      ((inOrder layout (writeEntries layout (depth + 1) entries)).map fun (key, value) =>
        quote layout.ascii key ++ (if layout.tight then ":" else ": ") ++ value)
  | .set members => enclose layout depth "[" "]" (members.map (scalarText layout.ascii))
  | .pair first second =>
    enclose layout depth "[" "]"
      [writeAt layout (depth + 1) first, writeAt layout (depth + 1) second]
  | .again isMap => if isMap then "\x7b\x7d" else "[]"

private def writeItems (layout : Layout) (depth : Nat) : List Value → List String
  | [] => []
  | item :: items => writeAt layout depth item :: writeItems layout depth items

private def writeEntries (layout : Layout) (depth : Nat) :
    List (Scalar × Value) → List (String × String)
  | [] => []
  | (key, value) :: entries =>
    (key.name, writeAt layout depth value) :: writeEntries layout depth entries

end

def write (layout : Layout) (value : Value) : String := writeAt layout 0 value

def line : Layout := {}

def compact : Layout := { ascii := false, tight := true }

/-- One line with the keys of each map in order, in ASCII: equal values have equal texts. -/
def canonical : Layout := { sorted := true }

def indentedAscii : Layout := { indent := some 2 }

def indented : Layout := { indent := some 2, ascii := false }

end Polyglot.Json
