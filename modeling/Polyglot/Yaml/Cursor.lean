import Polyglot.Text.Basic

namespace Polyglot.Yaml

def isBreak (c : Char) : Bool :=
  c == '\n' || c == '\r' || c == '\x85' || c == '\u2028' || c == '\u2029'

def isGap (c : Char) : Bool := c == ' ' || c == '\t'

def endsWord : Option Char → Bool
  | none => true
  | some c => isGap c || isBreak c

/-- Whether what stands here, if anything does, is a space or ends the line. A tab does neither. -/
def endsMark : Option Char → Bool
  | none => true
  | some c => c == ' ' || isBreak c

/-- A place in a text: what is left of it, and how far it is from the start. -/
structure Cursor where
  rest : List Char
  index : Nat := 0
  line : Nat := 0
  column : Nat := 0

namespace Cursor

def head? (c : Cursor) : Option Char := c.rest.head?

def at? (c : Cursor) (distance : Nat) : Option Char := c.rest[distance]?

def isAt (c : Cursor) (char : Char) : Bool := c.head? == some char

/-- One character on. Of a carriage return and a line feed together only the latter ends the line,
and a byte order mark has no width. -/
def advance (c : Cursor) : Cursor :=
  match c.rest with
  | [] => c
  | char :: rest =>
    let place : Cursor := { c with rest, index := c.index + 1 }
    if isBreak char && !(char == '\r' && rest.head? == some '\n') then
      { place with line := c.line + 1, column := 0 }
    else if char == '\ufeff' then place
    else { place with column := c.column + 1 }

def advanceBy : Nat → Cursor → Cursor
  | 0, c => c
  | count + 1, c => advanceBy count c.advance

/-- The characters from here on that pass a test, and the place behind them. -/
def span (p : Char → Bool) (c : Cursor) : List Char × Cursor :=
  let chars := c.rest.takeWhile p
  (chars, c.advanceBy chars.length)

def skip (p : Char → Bool) (c : Cursor) : Cursor := (c.span p).2

def skipSpaces (c : Cursor) : Cursor := c.skip (· == ' ')

def skipSpacesTo (column : Nat) (c : Cursor) : Cursor :=
  let spaces := (c.rest.takeWhile (· == ' ')).length
  c.advanceBy (min spaces (column - c.column))

def skipComment (c : Cursor) : Cursor := if c.isAt '#' then c.skip fun char => !isBreak char else c

/-- The end of the line, if it is here, and the place behind it. What counts as the end of a line is
kept as a line feed, but for the two separators. -/
def break? (c : Cursor) : Option (Char × Cursor) :=
  match c.rest with
  | '\r' :: '\n' :: _ => some ('\n', c.advanceBy 2)
  | char :: _ =>
    if char == '\u2028' || char == '\u2029' then some (char, c.advance)
    else if isBreak char then some ('\n', c.advance)
    else none
  | [] => none

def isAtMark (mark : Char) (c : Cursor) : Bool :=
  c.rest.take 3 == [mark, mark, mark] && endsWord (c.at? 3)

def isAtMarker (c : Cursor) : Bool := c.isAtMark '-' || c.isAtMark '.'

end Cursor

end Polyglot.Yaml
