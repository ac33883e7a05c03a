namespace Polyglot.Text

/-- Whether a code belongs to no character because it is half of a pair of units. -/
def isHalf (code : Nat) : Bool := 0xd800 ≤ code && code ≤ 0xdfff

def isHighHalf (code : Nat) : Bool := 0xd800 ≤ code && code ≤ 0xdbff

def isLowHalf (code : Nat) : Bool := 0xdc00 ≤ code && code ≤ 0xdfff

def joinHalves (high low : Nat) : Char :=
  Char.ofNat (0x10000 + (high - 0xd800) * 0x400 + (low - 0xdc00))

/-- How far a code without a character and the character that stands for it are apart. -/
def standInDistance : Nat := 0x100000

/-- The character with a code, or that which stands for the code. -/
def charOfCode (code : Nat) : Char :=
  Char.ofNat (if isHalf code then code + standInDistance else code)

def isStandIn (c : Char) : Bool := standInDistance ≤ c.toNat && isHalf (c.toNat - standInDistance)

def codeOf (c : Char) : Nat := if isStandIn c then c.toNat - standInDistance else c.toNat

def codesOf (text : String) : List Nat := text.toList.map codeOf

def inOrder : List Nat → List Nat → Bool
  | [], _ => true
  | _ :: _, [] => false
  | first :: rest, other :: others => first < other || (first == other && inOrder rest others)

end Polyglot.Text
