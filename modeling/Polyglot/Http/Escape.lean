import Polyglot.Text.Utf8

namespace Polyglot.Http

private def hexDigit (n : Nat) : Char := Char.ofNat (if n < 10 then 48 + n else 55 + n)

private def escapedByte (byte : UInt8) : List Char :=
  ['%', hexDigit (byte.toNat / 16), hexDigit (byte.toNat % 16)]

def escape (admits : Char → Bool) (text : String) : String :=
  String.ofList (text.toList.flatMap fun c =>
    if admits c then [c] else (String.singleton c).toUTF8.toList.flatMap escapedByte)

private def hexValue? (c : Char) : Option Nat :=
  if c.isDigit then some (c.toNat - 48)
  else if 'a' ≤ c ∧ c ≤ 'f' then some (c.toNat - 87)
  else if 'A' ≤ c ∧ c ≤ 'F' then some (c.toNat - 55)
  else none

private def unescapedBytes : List Char → List UInt8
  | '%' :: high :: low :: rest =>
    match hexValue? high, hexValue? low with
    | some h, some l => UInt8.ofNat (16 * h + l) :: unescapedBytes rest
    | _, _ => '%'.toUInt8 :: unescapedBytes (high :: low :: rest)
  | c :: rest => (String.singleton c).toUTF8.toList ++ unescapedBytes rest
  | [] => []
termination_by chars => chars.length

def unescape (text : String) : String :=
  String.ofList (Text.decode ⟨(unescapedBytes text.toList).toArray⟩)

/-- The characters of a part of a path that stand for themselves, whatever the part is about. -/
def isPlain (c : Char) : Bool :=
  c.isAlphanum || c == '_' || c == '.' || c == '-' || c == '~' || c == '/'

/-- A path as part of an address: every character that has or could have a meaning is escaped. -/
def escapedPath (path : String) : String := escape isPlain path

def isShown (c : Char) : Bool := 0x20 < c.toNat && c.toNat < 0x7f

def inFragment (c : Char) : Bool :=
  isShown c && c != '"' && c != '<' && c != '>' && c != '\x60'

def inQuery (c : Char) : Bool := isShown c && c != '"' && c != '#' && c != '<' && c != '>'

def inPath (c : Char) : Bool :=
  inQuery c && c != '?' && c != '\x60' && c != '\x7b' && c != '\x7d'

def inUserinfo (c : Char) : Bool :=
  inPath c && !(['/', ';', '=', '@', '[', '\\', ']', '^', '|'].contains c)

def inHost (c : Char) : Bool :=
  c.isAlphanum || ['-', '.', '_', '~', '!', '$', '&', '\'', '(', ')', '*', '+', ',', ';', '=', '"',
    '\x60', '\x7b', '\x7d', '%', '|', '\\'].contains c

end Polyglot.Http
