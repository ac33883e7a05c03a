import Polyglot.Regex.Finder

namespace Polyglot.Regex

/-- What is wrong with a pattern: its syntax, groups inside of groups beyond all bounds, a number of
repetitions beyond all bounds or with too many digits, or that it asks for two alphabets. -/
inductive ReadError where
  | malformed
  | tooDeep
  | repetitionTooLarge
  | repetitionTooLong (digits : Nat)
  | twoAlphabets
  deriving DecidableEq, Repr

namespace Reader

/-- A character, or a character behind a backslash. -/
inductive Lexeme where
  | char (c : Char)
  | escape (c : Char)
  deriving DecidableEq, Repr

def lexemes? : List Char → Option (List Lexeme)
  | [] => some []
  | ['\\'] => none
  | '\\' :: c :: rest => (lexemes? rest).map (.escape c :: ·)
  | c :: rest => (lexemes? rest).map (.char c :: ·)

/-- The flags at a place of the pattern. -/
structure Mode where
  ignoreCase : Bool
  lines : Bool
  dotAll : Bool
  verbose : Bool
  ascii : Bool

def Mode.folding (mode : Mode) : Folding :=
  if !mode.ignoreCase then .keep else if mode.ascii then .ascii else .all

/-- A part that is written as one symbol. Alternatives are compared by their symbols. -/
inductive Symbol where
  | atom (atom : Atom)
  | anchor (anchor : Anchor)
  | reference (number : Nat)
  deriving DecidableEq

inductive Kind where
  | symbol (symbol : Symbol)
  | repeated
  | other
  deriving DecidableEq

/-- How a part starts: it is empty, or with a character that case does not change, or with a bracket
whose members case does not change. -/
inductive Start where
  | nothing
  | literal
  | members (negated : Bool) (items : List CharItem)
  | other

/-- A piece of the pattern with the least and the greatest number of characters it can match. -/
structure Part where
  regex : Regex
  low : Nat
  high : Nat
  start : Start := .other
  kind : Kind := .other

def maxRepeat : Nat := 0xffffffff

def startOf (folding : Folding) (atom : Atom) : Start :=
  match atom with
  | .char false code => if folding.cased code then .other else .literal
  | .members negated items =>
    if folding != .keep && items.any (·.cased folding) then .other else .members negated items
  | _ => .other

def atomPart (mode : Mode) (atom : Atom) : Part :=
  { regex := .one (atom.test mode.folding mode.ascii mode.dotAll), low := 1, high := 1
    start := startOf mode.folding atom, kind := .symbol (.atom atom) }

def literalPart (mode : Mode) (code : Nat) : Part := atomPart mode (.char false code)

def anchorPart (anchor : Anchor) : Part :=
  { regex := .anchor anchor, low := 0, high := 0, kind := .symbol (.anchor anchor) }

/-- A row starts as its first part does. Parts that are empty give way to a fixed character behind
them and to nothing else. -/
def startOfRow : List Part → Start
  | [] => .nothing
  | part :: parts =>
    match part.start with
    | .nothing =>
      match startOfRow parts with
      | .nothing => .nothing
      | .literal => .literal
      | _ => .other
    | start => start

def rowOf (parts : List Part) : Part :=
  { regex := seqOf (parts.map Part.regex)
    low := (parts.foldr (Part.low · + ·) 0).min (maxRepeat - 1)
    high := (parts.foldr (Part.high · + ·) 0).min maxRepeat
    start := startOfRow parts }

/-- The symbols that all alternatives have in front, and what is left of each. -/
def commonFront : List Part → List (List Part) → List Part × List Part × List (List Part)
  | part :: first, others =>
    match part.kind with
    | .symbol symbol =>
      if others.all fun other => other.head?.any (·.kind = .symbol symbol) then
        let (front, first, others) := commonFront first (others.map List.tail)
        (part :: front, first, others)
      else ([], part :: first, others)
    | _ => ([], part :: first, others)
  | [], others => ([], [], others)

def Part.items? (part : Part) : Option (List CharItem) :=
  match part.kind with
  | .symbol (.atom (.char false code)) => some [.code code]
  | .symbol (.atom (.members false items)) => some items
  | _ => none

def commonItems? (alternatives : List (List Part)) : Option (List CharItem) :=
  (alternatives.mapM fun (alternative : List Part) => match alternative with
    | [part] => part.items?
    | _ => none).map List.flatten

/-- The characters that alternatives start with, if case changes none of them. -/
def startOfAll (folding : Folding) (alternatives : List (List Part)) : Start :=
  let codes := alternatives.mapM fun alternative => match alternative.head?.map Part.kind with
    | some (.symbol (.atom (.char false code))) => if folding.cased code then none else some code
    | _ => none
  match codes with
  | some codes => .members false (codes.map .code)
  | none => .other

def choicePart (mode : Mode) (alternatives : List (List Part)) : Part :=
  match commonItems? alternatives with
  | some items => atomPart mode (.members false items.eraseDups)
  | none =>
    let rows := alternatives.map rowOf
    { regex := eitherOf (rows.map Part.regex)
      low := (rows.map Part.low).foldl Nat.min (maxRepeat - 1)
      high := (rows.map Part.high).foldl Nat.max 0
      start := startOfAll mode.folding alternatives }

/-- The row that alternatives make. What all have in front comes first, and alternatives of one
character each are one bracket. -/
def alternation (mode : Mode) (alternatives : List (List Part)) : List Part :=
  match alternatives with
  | [] => []
  | [row] => row
  | first :: others =>
    let (front, first, others) := commonFront first others
    front ++ [choicePart mode (first :: others)]

/-- A part of a row, or a row in brackets of its own that it will be a stretch of. -/
inductive Piece where
  | part (part : Part)
  | row (parts : List Part)

def Piece.parts : Piece → List Part
  | .part single => [single]
  | .row parts => parts

/-- What the bracket of a frame opens. -/
inductive Bracket where
  | pattern
  | plain
  | flags
  | capture (number : Nat)
  | atomic
  | ahead (negated : Bool)
  /-- Where this is the outermost one, groups inside of it cannot be referred to. -/
  | behind (negated outermost : Bool)
  | ifGroup (number : Nat)

/-- A group that is open, with what was read of it. -/
structure Frame where
  bracket : Bracket
  mode : Mode
  /-- The alternatives before the current one, the last first. -/
  done : List (List Part) := []
  /-- The pieces of the current alternative, the last first. -/
  pieces : List Piece := []

namespace Frame

def current (frame : Frame) : List Part := frame.pieces.reverse.flatMap Piece.parts

def alternatives (frame : Frame) : List (List Part) := (frame.current :: frame.done).reverse

def row (frame : Frame) : List Part := alternation frame.mode frame.alternatives

end Frame

/-- What a reader knows behind the part of a pattern that it has read. -/
structure State where
  frame : Frame
  outer : List Frame := []
  widths : Array (Option (Nat × Nat)) := #[]
  names : List (List Char × Nat) := []
  behindLimit : Option Nat := none
  /-- Groups that conditions ask for by number. -/
  asked : List Nat := []
  unicode : Bool := false
  noRepeats : Bool := false
  /-- A fault that shows only when the whole pattern was read. -/
  unusable : Bool := false

abbrev Step := Except ReadError (State × List Lexeme)

namespace State

def mode (st : State) : Mode := st.frame.mode

def pushPiece (st : State) (piece : Piece) : State :=
  { st with frame := { st.frame with pieces := piece :: st.frame.pieces } }

def push (st : State) (part : Part) : State := st.pushPiece (.part part)

def maxOpen : Nat := 485

def checkDepth (st : State) : Except ReadError Unit :=
  if maxOpen < st.outer.length then .error .tooDeep else .ok ()

def open_ (st : State) (bracket : Bracket) (mode : Mode) : State :=
  { st with outer := st.frame :: st.outer, frame := { bracket := bracket, mode := mode } }

def nextGroup (st : State) : Nat := st.widths.size + 1

def closedWidth? (st : State) (number : Nat) : Option (Nat × Nat) :=
  if number = 0 then none else st.widths[number - 1]?.join

/-- Inside of a look behind only groups closed before it can be asked for. -/
def mayRefer (st : State) (number : Nat) : Bool :=
  match st.behindLimit with
  | none => true
  | some limit => (st.closedWidth? number).isSome && number < limit

def refer (st : State) (number : Nat) : Except ReadError State :=
  match st.closedWidth? number with
  | some (low, high) =>
    if st.mayRefer number then
      .ok (st.push { regex := .reference number st.mode.folding, low := low, high := high
                     kind := .symbol (.reference number) })
    else .error .malformed
  | none => .error .malformed

def capture (st : State) (name : Option (List Char)) : Except ReadError State :=
  let number := st.nextGroup
  let named := match name with
    | none => some st.names
    | some name =>
      if st.names.any (·.1 == name) then none else some ((name, number) :: st.names)
  match named with
  | none => .error .malformed
  | some names =>
    let st := { st with widths := st.widths.push none, names := names }
    .ok (st.open_ (.capture number) st.mode)

end State

end Reader

end Polyglot.Regex
