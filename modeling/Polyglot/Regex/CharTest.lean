import Polyglot.Text.Alphanumeric
import Polyglot.Text.Basic
import Polyglot.Text.LetterCase

namespace Polyglot.Regex

open Polyglot.Text

/-- A class of characters that has an escape of its own. -/
inductive CharClass where
  | digit
  | space
  | word
  deriving DecidableEq, Repr

def CharClass.holds (ascii : Bool) (class_ : CharClass) (code : Nat) : Bool :=
  let c := Char.ofNat code
  match class_ with
  | .digit => if ascii then c.isDigit else isDecimal c
  | .space =>
    if ascii then code == 32 || (9 ≤ code && code ≤ 13) else isBlank c
  | .word => if ascii then c.isAlphanum || c == '_' else isWord c

/-- A member of a bracket, as it is written. -/
inductive CharItem where
  | code (code : Nat)
  | range (low high : Nat)
  | named (class_ : CharClass) (negated : Bool)
  deriving DecidableEq, Repr

/-- A part of a pattern that takes one character, as it is written. -/
inductive Atom where
  | any
  | char (negated : Bool) (code : Nat)
  | members (negated : Bool) (items : List CharItem)
  deriving DecidableEq, Repr

/-- What happens to the case of a character before it is looked up. -/
inductive Folding where
  | keep
  | ascii
  | all
  deriving DecidableEq, Repr

def caselessGroups : List (List Nat) := [
  [105, 305], [115, 383], [181, 956], [837, 953, 8126], [912, 8147], [944, 8163], [946, 976],
  [949, 1013], [952, 977], [954, 1008], [960, 982], [961, 1009], [962, 963], [966, 981],
  [1074, 7296], [1076, 7297], [1086, 7298], [1089, 7299], [1090, 7300, 7301], [1098, 7302],
  [1123, 7303], [7304, 42571], [7777, 7835], [64261, 64262]]

/-- The lower-case letters that are one letter with `code`, itself among them. -/
def caselessGroup (code : Nat) : List Nat :=
  (caselessGroups.find? (·.contains code)).getD [code]

def asciiLower (code : Nat) : Nat := if 65 ≤ code ∧ code ≤ 90 then code + 32 else code

namespace Folding

def fold : Folding → Nat → Nat
  | .keep, code => code
  | .ascii, code => asciiLower code
  | .all, code => lowerCode code

def group : Folding → Nat → List Nat
  | .all, code => caselessGroup code
  | _, code => [code]

def cased : Folding → Nat → Bool
  | .keep, _ => false
  | .ascii, code => (65 ≤ code && code ≤ 90) || (97 ≤ code && code ≤ 122)
  | .all, code => isCased code

def casedWithin : Folding → (low high : Nat) → Bool
  | .keep, _, _ => false
  | .ascii, low, high => (low ≤ 90 && 65 ≤ high) || (low ≤ 122 && 97 ≤ high)
  | .all, low, high => anyCased low high

/-- Whether one of the characters from `low` to `high` is one letter with a folded one. -/
def reaches (folding : Folding) (low high code : Nat) : Bool :=
  let within (code : Nat) : Bool := low ≤ code && code ≤ high
  within code || match folding with
    | .keep => false
    | .ascii => 97 ≤ code && code ≤ 122 && within (code - 32)
    | .all => (caselessGroup code).any fun same => (lowerSources same).any within

end Folding

/-- A member of a test. -/
inductive Member where
  | code (code : Nat)
  | range (low high : Nat)
  /-- The letters from `low` to `high`, up to their case. -/
  | letters (low high : Nat)
  /-- The characters from `low` to `high`, and those whose upper case lies there. -/
  | orUpper (low high : Nat)
  | named (class_ : CharClass) (negated ascii : Bool)
  deriving DecidableEq, Repr

def Member.holds (folding : Folding) (code : Nat) : Member → Bool
  | .code n => n == code
  | .range low high => low ≤ code && code ≤ high
  | .letters low high => folding.reaches low high code
  | .orUpper low high =>
    (low ≤ code && code ≤ high) || (low ≤ upperLead code && upperLead code ≤ high)
  | .named class_ negated ascii => class_.holds ascii code != negated

/-- A test of one character: any one, with or without the line feed; one that folds to `code`, or all
others; one that folds to a member, or all others. -/
inductive CharTest where
  | any (lineFeed : Bool)
  | char (negated : Bool) (folding : Folding) (code : Nat)
  | members (negated : Bool) (folding : Folding) (items : List Member)
  deriving DecidableEq, Repr

def CharTest.accepts (test : CharTest) (c : Char) : Bool :=
  match test with
  | .any lineFeed => lineFeed || c != '\n'
  | .char negated folding code => (folding.fold c.toNat == code) != negated
  | .members negated folding items =>
    items.any (·.holds folding (folding.fold c.toNat)) != negated

/-- Whether the test looks the folded character up among several. -/
def CharTest.foldsMembers : CharTest → Bool
  | .members _ folding _ => folding != .keep
  | _ => false

/-- Above it no two characters have the same lower case, a range over capital letters apart. -/
def lastFolded : Nat := 0xffff

def CharItem.plain (ascii : Bool) : CharItem → Member
  | .code n => .code n
  | .range low high => .range low high
  | .named class_ negated => .named class_ negated ascii

/-- A member up to its case. A character above `lastFolded` stands for itself. -/
def CharItem.folded (folding : Folding) (ascii : Bool) : CharItem → List Member
  | .code n =>
    if lastFolded < n then [.code n] else (folding.group (folding.fold n)).map .code
  | .range low high =>
    if lastFolded < high then [.letters low lastFolded, .orUpper low high] else [.letters low high]
  | .named class_ negated => [.named class_ negated ascii]

def CharItem.cased (folding : Folding) : CharItem → Bool
  | .code n => folding.cased n
  | .range low high => lastFolded < high || folding.casedWithin low high
  | .named _ _ => false

/-- The test that an atom stands for where case is folded, the classes are those of ASCII alone, and
the dot takes a line feed or not. Case is left alone where it changes none of the members. -/
def Atom.test (folding : Folding) (ascii lineFeed : Bool) : Atom → CharTest
  | .any => .any lineFeed
  | .char negated code =>
    if !folding.cased code then .char negated .keep code
    else match folding.group (folding.fold code) with
      | [code] => .char negated folding code
      | codes => .members negated folding (codes.map .code)
  | .members negated items =>
    let above := items.any fun item => match item with
      | .code n => lastFolded < n
      | _ => false
    if folding != .keep && (above || items.any (·.cased folding)) then
      .members negated folding (items.flatMap (·.folded folding ascii))
    else .members negated .keep (items.map (·.plain ascii))

end Polyglot.Regex
