import Polyglot.Regex.Reader.Escape
import Polyglot.Text.Identifier
import Polyglot.Text.Numeral

namespace Polyglot.Regex.Reader

def identifierUntil? (stop : Char) (rest : List Lexeme) : Option (List Char × List Lexeme) :=
  (nameUntil? stop [] rest).filter fun (name, _) => Text.isIdentifier name

def isFlagLetter (c : Char) : Bool := "iLmsxatu".toList.contains c

def flagLetters : List Lexeme → List Char × List Lexeme
  | .char c :: rest =>
    if isFlagLetter c then
      let (letters, rest) := flagLetters rest
      (c :: letters, rest)
    else ([], .char c :: rest)
  | rest => ([], rest)

/-- The mode with the flags of some letters switched. A letter for an alphabet sets the alphabet. -/
def Mode.switch (mode : Mode) (letters : List Char) (on : Bool) : Mode :=
  let pick (c : Char) (old : Bool) : Bool := if letters.contains c then on else old
  { ignoreCase := pick 'i' mode.ignoreCase
    lines := pick 'm' mode.lines
    dotAll := pick 's' mode.dotAll
    verbose := pick 'x' mode.verbose
    ascii := if letters.contains 'a' then true else if letters.contains 'u' then false else mode.ascii }

/-- A group of flags, read behind `(?`. Without a body it must stand at the start of the pattern. -/
def flagGroup (st : State) (rest : List Lexeme) : Step :=
  let (on, rest) := flagLetters rest
  if on.contains 'L' || (on.contains 'a' && on.contains 'u') then .error .malformed
  else match rest with
    | .char ')' :: rest =>
      match st.outer, st.frame.done, st.frame.pieces with
      | [], [], [] =>
        let mode := { st.mode.switch on true with ascii := st.mode.ascii || on.contains 'a' }
        .ok ({ st with
          frame := { st.frame with mode := mode }
          unicode := st.unicode || on.contains 'u'
          noRepeats := st.noRepeats || on.contains 't' }, rest)
      | _, _, _ => .error .malformed
    | .char ':' :: rest =>
      if on.contains 't' then .error .malformed else .ok (st.open_ .flags (st.mode.switch on true), rest)
    | .char '-' :: rest =>
      let (off, rest) := flagLetters rest
      let wrong := on.contains 't' || off.isEmpty || off.any ("aLut".toList.contains ·) ||
        off.any (on.contains ·)
      match rest with
      | .char ':' :: rest =>
        if wrong then .error .malformed
        else .ok (st.open_ .flags ((st.mode.switch on true).switch off false), rest)
      | _ => .error .malformed
    | _ => .error .malformed

def dropComment : List Lexeme → Option (List Lexeme)
  | [] => none
  | .char ')' :: rest => some rest
  | _ :: rest => dropComment rest

/-- The condition of a group, read behind `(?(`: the name of a group or its number, written in any of
the ways to write one. -/
def condition (st : State) (rest : List Lexeme) : Step :=
  match nameUntil? ')' [] rest with
  | none => .error .malformed
  | some (name, rest) =>
    let number := if Text.isIdentifier name then (st.names.find? (·.1 == name)).map Prod.snd
      else match Text.readInt 10 name with
        | .ok (.ofNat number) => some number
        | _ => none
    match number with
    | none => .error .malformed
    | some number =>
      if number = 0 || !st.mayRefer number then .error .malformed
      else .ok ({ st with asked := number :: st.asked }.open_ (.ifGroup number) st.mode, rest)

def lookBehind (st : State) (negated : Bool) (rest : List Lexeme) : Step :=
  let opened := st.open_ (.behind negated st.behindLimit.isNone) st.mode
  .ok ({ opened with behindLimit := some (st.behindLimit.getD st.nextGroup) }, rest)

def openGroup (st : State) (rest : List Lexeme) : Step :=
  match rest with
  | .char '?' :: .char 'P' :: .char '<' :: rest =>
    match identifierUntil? '>' rest with
    | some (name, rest) => (st.capture (some name)).map (·, rest)
    | none => .error .malformed
  | .char '?' :: .char 'P' :: .char '=' :: rest =>
    match identifierUntil? ')' rest with
    | some (name, rest) =>
      match st.names.find? (·.1 == name) with
      | some (_, number) => (st.refer number).map (·, rest)
      | none => .error .malformed
    | none => .error .malformed
  | .char '?' :: .char ':' :: rest => .ok (st.open_ .plain st.mode, rest)
  | .char '?' :: .char '#' :: rest =>
    match dropComment rest with
    | some rest => .ok (st, rest)
    | none => .error .malformed
  | .char '?' :: .char '=' :: rest => .ok (st.open_ (.ahead false) st.mode, rest)
  | .char '?' :: .char '!' :: rest => .ok (st.open_ (.ahead true) st.mode, rest)
  | .char '?' :: .char '<' :: .char '=' :: rest => lookBehind st false rest
  | .char '?' :: .char '<' :: .char '!' :: rest => lookBehind st true rest
  | .char '?' :: .char '(' :: rest => condition st rest
  | .char '?' :: .char '>' :: rest => .ok (st.open_ .atomic st.mode, rest)
  | .char '?' :: .char c :: rest =>
    if isFlagLetter c || c == '-' then flagGroup st (.char c :: rest) else .error .malformed
  | .char '?' :: _ => .error .malformed
  | rest => (st.capture none).map (·, rest)

def branchPart (frame : Frame) (number : Nat) : Part :=
  match frame.alternatives.map rowOf with
  | [yes] => { regex := .ifGroup number yes.regex .empty, low := 0, high := yes.high }
  | yes :: no :: _ =>
    { regex := .ifGroup number yes.regex no.regex, low := yes.low.min no.low
      high := yes.high.max no.high }
  | [] => rowOf []

def closeGroup (st : State) (rest : List Lexeme) : Step :=
  match st.outer with
  | [] => .error (if st.mode.ascii && st.unicode then .twoAlphabets else .malformed)
  | frame :: outer =>
    let row := st.frame.row
    let body := rowOf row
    let outside := { st with frame := frame, outer := outer }
    match st.frame.bracket with
    | .pattern => .error .malformed
    | .plain => .ok (outside.pushPiece (.row row), rest)
    | .flags => .ok (outside.push body, rest)
    | .capture number =>
      let widths := outside.widths.setIfInBounds (number - 1) (some (body.low, body.high))
      .ok ({ outside with widths := widths }.push { body with regex := .group number body.regex }, rest)
    | .atomic =>
      .ok (outside.push { regex := .atomic body.regex, low := body.low, high := body.high }, rest)
    | .ahead negated =>
      .ok (outside.push { regex := .look none negated body.regex, low := 0, high := 0 }, rest)
    | .behind negated outermost =>
      .ok ({ outside with
          behindLimit := if outermost then none else outside.behindLimit
          unusable := outside.unusable || body.low != body.high }.push
        { regex := .look (some body.low) negated body.regex, low := 0, high := 0 }, rest)
    | .ifGroup number => .ok (outside.push (branchPart st.frame number), rest)

/-- The state behind a bar. A condition has two branches at the most. -/
def alternate (st : State) (rest : List Lexeme) : Step :=
  match st.frame.bracket, st.frame.done with
  | .ifGroup _, _ :: _ => .error .malformed
  | _, done =>
    .ok ({ st with frame := { st.frame with done := st.frame.current :: done, pieces := [] } }, rest)

end Polyglot.Regex.Reader
