import Polyglot.Text.CharacterName.Table
import Polyglot.Text.Basic

namespace Polyglot.Text

namespace CharacterName

/-- Where the reading of the list of names stands. -/
structure ListState where
  code : Nat := 0
  next : Nat := 0
  /-- The words of the current name that are complete, the last first, and the one being read. -/
  words : List String := []
  word : String := ""
  inCode : Bool := false
  found : Option Nat := none

namespace ListState

def name (st : ListState) : List String :=
  if st.word.isEmpty then st.words else st.word :: st.words

def close (wanted : List String) (st : ListState) : ListState :=
  if st.found.isNone && st.name == wanted then { st with found := some st.code } else st

def hexDigit (c : Char) : Nat := if c.isDigit then c.toNat - 48 else c.toNat - 55

def step (wanted : List String) (st : ListState) (c : Char) : ListState :=
  if st.found.isSome then st
  else if st.inCode then
    if c = ')' then { st with inCode := false }
    else { st with next := st.next * 16 + hexDigit c }
  else if c = '(' then
    let st := st.close wanted
    { st with inCode := true, next := 0, words := st.name, word := "" }
  else if c.isLower then
    let st := st.close wanted
    { st with
      code := st.next, next := st.next + 1, words := st.name.drop (st.name.length - (c.toNat - 97))
      word := "" }
  else if c = ' ' ∨ c = '\n' then { st with words := st.name, word := "" }
  else { st with word := st.word.push c }

end ListState

def listed? (name : List Char) : Option Nat :=
  let wanted := ((String.ofList name).splitOn " ").reverse
  ((characterNames.foldl (ListState.step wanted) {}).close wanted).found

def unifiedIdeographs : CodeRanges := [
  (0x3400, 0x4dbf), (0x4e00, 0x9fff), (0x20000, 0x2a6df), (0x2a700, 0x2b738), (0x2b740, 0x2b81d),
  (0x2b820, 0x2cea1), (0x2ceb0, 0x2ebe0), (0x30000, 0x3134a)]

/-- The characters that are named by a title, a hyphen and their code. -/
def titles : List (String × CodeRanges) := [
  ("CJK COMPATIBILITY IDEOGRAPH", [(0xf900, 0xfa6d), (0xfa70, 0xfad9), (0x2f800, 0x2fa1d)]),
  ("NUSHU CHARACTER", [(0x1b170, 0x1b2fb)]),
  ("KHITAN SMALL SCRIPT CHARACTER", [(0x18b00, 0x18cd5)])]

/-- A code of four or five hexadecimal digits with capital letters. -/
def code? (digits : List Char) : Option Nat :=
  if (digits.length = 4 ∨ digits.length = 5) ∧ digits.all (fun c => c.isDigit || ('A' ≤ c && c ≤ 'F')) then
    some (digits.foldl (fun n c => n * 16 + ListState.hexDigit c) 0)
  else none

def titled? (name : List Char) : Option Nat :=
  titles.findSome? fun (title, codes) => do
    let digits ← after? (title.toList ++ ['-']) name
    let code ← code? digits
    if codes.contains code && (digits.length = 4 || 0x10000 ≤ code) then some code else none

def initials : List String :=
  ["G", "GG", "N", "D", "DD", "R", "M", "B", "BB", "S", "SS", "", "J", "JJ", "C", "K", "T", "P", "H"]

def medials : List String :=
  ["A", "AE", "YA", "YAE", "EO", "E", "YEO", "YE", "O", "WA", "WAE", "OE", "YO", "U", "WEO", "WE",
   "WI", "YU", "EU", "YI", "I"]

def finals : List String :=
  ["", "G", "GG", "GS", "N", "NJ", "NH", "D", "L", "LG", "LM", "LB", "LS", "LT", "LP", "LH", "M",
   "B", "BS", "S", "SS", "NG", "J", "C", "K", "T", "P", "H"]

/-- The longest of some parts in front of the name: its place among them, and what follows it. -/
def longestPart (parts : List String) (name : List Char) : Option (Nat × List Char) :=
  (parts.zipIdx.filterMap fun (part, index) =>
      (after? part.toList name).map fun rest => (index, rest)).foldl
    (fun best next => match best with
      | some (index, rest) => if next.2.length < rest.length then some next else some (index, rest)
      | none => some next) none

def syllable? (name : List Char) : Option Nat := do
  let (initial, name) ← longestPart initials name
  let (medial, name) ← longestPart medials name
  let (final, name) ← longestPart finals name
  if name.isEmpty then some (0xac00 + (initial * 21 + medial) * 28 + final) else none

end CharacterName

open CharacterName in
/-- The character with a name. The case of listed names does not count. -/
def namedCharacter? (name : List Char) : Option Nat :=
  match after? "HANGUL SYLLABLE ".toList name, after? "CJK UNIFIED IDEOGRAPH-".toList name with
  | some syllable, _ => syllable? syllable
  | none, some digits => (code? digits).filter unifiedIdeographs.contains
  | none, none =>
    let name := name.map Char.toUpper
    (titled? name).or (listed? name)

end Polyglot.Text
