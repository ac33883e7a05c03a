namespace Polyglot.Text

def replacement : Char := Char.ofNat 0xfffd

/-- A decoder between two bytes: the characters so far, the last one first, the number of bytes that
the sequence begun still needs, the bounds of the next of them, and the bits it has given. -/
structure Decoder where
  out : List Char := []
  needed : Nat := 0
  low : Nat := 0x80
  high : Nat := 0xbf
  bits : Nat := 0

namespace Decoder

def emit (d : Decoder) (c : Char) : Decoder := { out := c :: d.out }

def start (d : Decoder) (byte : Nat) : Decoder :=
  if byte < 0x80 then d.emit (Char.ofNat byte)
  else if byte < 0xc2 then d.emit replacement
  else if byte < 0xe0 then { d with needed := 1, low := 0x80, high := 0xbf, bits := byte - 0xc0 }
  else if byte < 0xf0 then
    { d with
      needed := 2, low := if byte = 0xe0 then 0xa0 else 0x80
      high := if byte = 0xed then 0x9f else 0xbf, bits := byte - 0xe0 }
  else if byte < 0xf5 then
    { d with
      needed := 3, low := if byte = 0xf0 then 0x90 else 0x80
      high := if byte = 0xf4 then 0x8f else 0xbf, bits := byte - 0xf0 }
  else d.emit replacement

def step (d : Decoder) (byte : Nat) : Decoder :=
  if d.needed = 0 then d.start byte
  else if d.low ≤ byte ∧ byte ≤ d.high then
    if d.needed = 1 then d.emit (Char.ofNat (d.bits * 64 + (byte - 0x80)))
    else
      { d with needed := d.needed - 1, low := 0x80, high := 0xbf, bits := d.bits * 64 + (byte - 0x80) }
  else (d.emit replacement).start byte

def finish (d : Decoder) : List Char :=
  (if d.needed = 0 then d.out else replacement :: d.out).reverse

end Decoder

def decode (bytes : ByteArray) : List Char :=
  (bytes.foldl (fun (d : Decoder) byte => d.step byte.toNat) {}).finish

end Polyglot.Text
