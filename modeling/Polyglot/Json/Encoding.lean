import Polyglot.Text.StandIn
import Polyglot.Text.Utf8

namespace Polyglot.Json

/-- An encoding by units of one, two or four bytes. Wide units start with their high or low end. -/
inductive Encoding where
  | bytes
  | pairs (highFirst : Bool)
  | quads (highFirst : Bool)
  deriving DecidableEq, Repr

def Encoding.ofBytes : List UInt8 → Encoding
  | [a, b] => if a = 0 then .pairs true else if b = 0 then .pairs false else .bytes
  | a :: b :: c :: d :: _ =>
    if a = 0 then (if b = 0 then .quads true else .pairs true)
    else if b = 0 then (if c = 0 ∧ d = 0 then .quads false else .pairs false)
    else .bytes
  | _ => .bytes

def pairs? (highFirst : Bool) : List UInt8 → Option (List Nat)
  | [] => some []
  | [_] => none
  | a :: b :: rest =>
    (pairs? highFirst rest).map fun units =>
      (if highFirst then a.toNat * 256 + b.toNat else b.toNat * 256 + a.toNat) :: units

def quads? (highFirst : Bool) : List Nat → Option (List Nat)
  | [] => some []
  | [_] => none
  | a :: b :: rest =>
    (quads? highFirst rest).map fun units =>
      (if highFirst then a * 65536 + b else b * 65536 + a) :: units

def charsOfPairs : List Nat → List Char
  | [] => []
  | high :: low :: rest =>
    if Text.isHighHalf high && Text.isLowHalf low then Text.joinHalves high low :: charsOfPairs rest
    else Text.charOfCode high :: charsOfPairs (low :: rest)
  | [unit] => [Text.charOfCode unit]

/-- The characters of units of four bytes; none, if one is no character. -/
def charsOfQuads? : List Nat → Option (List Char)
  | [] => some []
  | unit :: rest =>
    if 0x110000 ≤ unit then none
    else (charsOfQuads? rest).map (Text.charOfCode unit :: ·)

def withoutMark : List Char → List Char
  | '\ufeff' :: rest => rest
  | chars => chars

def decode? (bytes : ByteArray) : Option (List Char) :=
  match Encoding.ofBytes bytes.toList with
  | .bytes => some (withoutMark (Text.decode bytes))
  | .pairs highFirst => (pairs? highFirst bytes.toList).map charsOfPairs
  | .quads highFirst =>
    ((pairs? highFirst bytes.toList).bind (quads? highFirst)).bind charsOfQuads?

end Polyglot.Json
