import Polyglot.Yaml.Cursor
import Polyglot.Text.StandIn
import Polyglot.Yaml.Fault

namespace Polyglot.Yaml

private def textOf (chars : List Char) : String := String.ofList chars

def folded (first : Char) (blankLines : List Char) : List Char :=
  if first != '\n' then first :: blankLines
  else if blankLines.isEmpty then [' ']
  else blankLines

/-- The brackets and marks that end a plain text inside brackets. -/
def endsFlowText (c : Char) : Bool := c == ',' || c == '?' || c == '[' || c == ']' || c == '\x7b' || c == '\x7d'

def endsKey (flow : Bool) (next : Option Char) : Bool :=
  endsWord next || (flow && next.any fun c => c == ',' || c == '[' || c == ']' || c == '\x7b' || c == '\x7d')

/-- The characters of a plain text up to the next gap or the end of the text. -/
def plainWord (flow : Bool) : List Char → List Char
  | [] => []
  | c :: rest =>
    if endsWord (some c) || (c == ':' && endsKey flow rest.head?) || (flow && endsFlowText c) then []
    else c :: plainWord flow rest

/-- What a gap in a plain text stands for, the place behind it, and whether it goes over lines. -/
structure PlainGap where
  text : List Char
  after : Cursor
  newLine : Bool

/-- The ends of the blank lines ahead; none, if a marker follows one of the ends. -/
private def plainBlankLines : (fuel : Nat) → Cursor → Option (List Char) × Cursor
  | 0, c => (some [], c)
  | fuel + 1, c =>
    let c := c.skipSpaces
    match c.break? with
    | none => (some [], c)
    | some (ending, c) =>
      if c.isAtMarker then (none, c)
      else
        let (endings, c) := plainBlankLines fuel c
        (endings.map (ending :: ·), c)

def plainGap (c : Cursor) : PlainGap :=
  let (spaces, c) := c.span (· == ' ')
  match c.break? with
  | none => ⟨spaces, c, false⟩
  | some (first, c) =>
    if c.isAtMarker then ⟨[], c, true⟩
    else match plainBlankLines c.rest.length c with
      | (none, c) => ⟨[], c, true⟩
      | (some endings, c) => ⟨folded first endings, c, true⟩

private def plainWords (flow : Bool) (indent : Int) : (fuel : Nat) → PlainGap → PlainGap
  | 0, gap => { gap with text := [] }
  | fuel + 1, gap =>
    let word := if gap.after.isAt '#' then [] else plainWord flow gap.after.rest
    if word.isEmpty then { gap with text := [] }
    else
      let next := plainGap (gap.after.advanceBy word.length)
      if next.text.isEmpty || next.after.isAt '#' || (!flow && next.after.column < indent) then
        { next with text := gap.text ++ word }
      else
        let more := plainWords flow indent fuel next
        { more with text := gap.text ++ word ++ more.text }

/-- A plain text, with the gap behind it. Outside brackets the text ends where a line starts left of
`indent`. -/
def plainText (flow : Bool) (indent : Int) (c : Cursor) : String × Cursor × Bool :=
  let read := plainWords flow indent c.rest.length ⟨[], c, false⟩
  (textOf read.text, read.after, read.newLine)

private def hexDigit? (c : Char) : Option Nat :=
  if c.isDigit then some (c.toNat - 48)
  else if 'a' ≤ c ∧ c ≤ 'f' then some (c.toNat - 87)
  else if 'A' ≤ c ∧ c ≤ 'F' then some (c.toNat - 55)
  else none

def hexNumber? (count : Nat) (chars : List Char) : Option Nat :=
  let digits := chars.take count
  if digits.length < count then none
  else digits.foldl (fun n c => do some ((← n) * 16 + (← hexDigit? c))) (some 0)

def escapedChar? (c : Char) : Option Char :=
  match c with
  | '0' => some (Char.ofNat 0)
  | 'a' => some (Char.ofNat 7)
  | 'b' => some (Char.ofNat 8)
  | 't' | '\t' => some '\t'
  | 'n' => some '\n'
  | 'v' => some (Char.ofNat 0xb)
  | 'f' => some (Char.ofNat 0xc)
  | 'r' => some '\r'
  | 'e' => some (Char.ofNat 0x1b)
  | ' ' | '"' | '\\' | '/' => some c
  | 'N' => some '\x85'
  | '_' => some (Char.ofNat 0xa0)
  | 'L' => some '\u2028'
  | 'P' => some '\u2029'
  | _ => none

/-- The number of hexadecimal digits behind the letter of a numeric escape. -/
def escapeWidth? (c : Char) : Option Nat :=
  match c with
  | 'x' => some 2
  | 'u' => some 4
  | 'U' => some 8
  | _ => none

private def charOfCode (code : Nat) : Result Char :=
  if 0x110000 ≤ code then .error (.notAChar code) else .ok (Text.charOfCode code)

private def quotedBlankLines : (fuel : Nat) → Cursor → Result (List Char × Cursor)
  | 0, _ => broken (.scanning .quoted)
  | fuel + 1, c =>
    if c.isAtMarker then broken (.scanning .quoted)
    else
      let c := c.skip isGap
      match c.break? with
      | none => .ok ([], c)
      | some (ending, c) => do
        let (endings, c) ← quotedBlankLines fuel c
        .ok (ending :: endings, c)

private def blankLinesAt (c : Cursor) : Result (List Char × Cursor) :=
  quotedBlankLines (c.rest.length + 1) c

/-- What stands behind a backslash: a letter, a code, or the end of a line that is to be joined. -/
private def escapeAt (c : Cursor) : Result (List Char × Cursor) :=
  match c.head? with
  | none => broken (.scanning .doubleQuoted)
  | some letter =>
    match escapedChar? letter, escapeWidth? letter with
    | some char, _ => .ok ([char], c.advance)
    | none, some width => match hexNumber? width c.advance.rest with
      | none => broken (.scanning .doubleQuoted)
      | some code => do
        let char ← charOfCode code
        .ok ([char], c.advanceBy (width + 1))
    | none, none => match c.break? with
      | some (_, c) => blankLinesAt c
      | none => broken (.scanning .doubleQuoted)

/-- A quoted text up to the next gap or the closing quote. Between double quotes a backslash escapes;
between single ones a quote is written twice. -/
private def quotedWord (double : Bool) : (fuel : Nat) → Cursor → Result (List Char × Cursor)
  | 0, c => .ok ([], c)
  | fuel + 1, c =>
    match c.rest with
    | [] => .ok ([], c)
    | char :: rest =>
      let onward (found : List Char) (c : Cursor) : Result (List Char × Cursor) := do
        let (more, c) ← quotedWord double fuel c
        .ok (found ++ more, c)
      if endsWord (some char) then .ok ([], c)
      else if double && char == '\\' then do
        let (found, c) ← escapeAt c.advance
        onward found c
      else if double && char == '"' then .ok ([], c)
      else if !double && char == '\'' then
        if rest.head? == some '\'' then onward ['\''] (c.advanceBy 2) else .ok ([], c)
      else onward [char] c.advance

private def quotedGap (c : Cursor) : Result (List Char × Cursor) :=
  let (blanks, c) := c.span isGap
  match c.break? with
  | some (first, c) => do
    let (endings, c) ← blankLinesAt c
    .ok (folded first endings, c)
  | none => if c.rest.isEmpty then broken (.scanning .quoted) else .ok (blanks, c)

private def quotedWords (double : Bool) : (fuel : Nat) → Cursor → Result (List Char × Cursor)
  | 0, _ => broken (.scanning .quoted)
  | fuel + 1, c => do
    let (word, c) ← quotedWord double (c.rest.length + 1) c
    if c.isAt (if double then '"' else '\'') then .ok (word, c.advance)
    else
      let (gap, c) ← quotedGap c
      let (more, c) ← quotedWords double fuel c
      .ok (word ++ gap ++ more, c)

def quotedText (double : Bool) (c : Cursor) : Result (String × Cursor) := do
  let (text, c) ← quotedWords double (c.rest.length + 1) c.advance
  .ok (textOf text, c)

/-- What becomes of the line breaks at the end of a block: none is kept, one, or all. -/
inductive Chomping where
  | strip
  | clip
  | keep

private def chompingAt (c : Cursor) : Option (Chomping × Cursor) :=
  if c.isAt '+' then some (.keep, c.advance)
  else if c.isAt '-' then some (.strip, c.advance)
  else none

private def indentAt (c : Cursor) : Result (Option Nat × Cursor) :=
  match c.head? with
  | some d =>
    if d == '0' then broken (.scanning .block)
    else if d.isDigit then .ok (some (d.toNat - 48), c.advance)
    else .ok (none, c)
  | none => .ok (none, c)

/-- The header of a block: what becomes of its last line breaks and how deep it is indented, in any
order, and a comment. -/
private def blockHeader (c : Cursor) : Result (Chomping × Option Nat × Cursor) := do
  let (chomping, indent, c) ← match chompingAt c with
    | some (chomping, c) => do
      let (indent, c) ← indentAt c
      Except.ok (chomping, indent, c)
    | none => do
      let (indent, c) ← indentAt c
      match indent, chompingAt c with
      | some _, some (chomping, c) => Except.ok (chomping, indent, c)
      | _, _ => Except.ok (Chomping.clip, indent, c)
  if !endsMark c.head? then broken (.scanning .block)
  else
    let c := c.skipSpaces.skipComment
    match c.break? with
    | some (_, c) => .ok (chomping, indent, c)
    | none => if c.rest.isEmpty then .ok (chomping, indent, c) else broken (.scanning .block)

/-- The ends of the blank lines ahead, and the greatest column among the spaces of them and of the
first line that is not blank. -/
private def firstBlankLines : (fuel : Nat) → Cursor → List Char × Nat × Cursor
  | 0, c => ([], 0, c)
  | fuel + 1, c =>
    let c := c.skipSpaces
    match c.break? with
    | none => ([], c.column, c)
    | some (ending, after) =>
      let (endings, column, after) := firstBlankLines fuel after
      (ending :: endings, max c.column column, after)

/-- The ends of the blank lines ahead, whose spaces count up to a column. -/
private def blockBlankLines (indent : Nat) : (fuel : Nat) → Cursor → List Char × Cursor
  | 0, c => ([], c)
  | fuel + 1, c =>
    let c := c.skipSpacesTo indent
    match c.break? with
    | none => ([], c)
    | some (ending, c) =>
      let (endings, c) := blockBlankLines indent fuel c
      (ending :: endings, c)

private structure Block where
  text : List Char
  /-- The end of the last line, if it has one, and those of the blank lines behind it. -/
  ending : List Char
  trailing : List Char
  after : Cursor

/-- The lines of a block. Where it folds, a line that starts with a blank is kept apart from its
neighbours. -/
private def blockLines (folds : Bool) (indent : Nat) : (fuel : Nat) → Cursor → Block
  | 0, c => ⟨[], [], [], c⟩
  | fuel + 1, c =>
    let flush (c : Cursor) : Bool := !c.head?.any isGap
    let (line, behind) := c.span fun char => !isBreak char
    let (ending, behind) : List Char × Cursor := match behind.break? with
      | some (ending, behind) => ([ending], behind)
      | none => ([], behind)
    let (trailing, next) := blockBlankLines indent (behind.rest.length + 1) behind
    if next.column = indent && !next.rest.isEmpty then
      let joint := if folds && ending == ['\n'] && flush c && flush next then
          (if trailing.isEmpty then [' '] else [])
        else ending
      let more := blockLines folds indent fuel next
      { more with text := line ++ joint ++ trailing ++ more.text }
    else ⟨line, ending, trailing, next⟩

/-- A block from its mark on, inside what is indented to `outer`. -/
def blockText (folds : Bool) (outer : Int) (c : Cursor) : Result (String × Cursor) := do
  let (chomping, increment, c) ← blockHeader c.advance
  let least := (max (outer + 1) 1).toNat
  let (endings, indent, c) : List Char × Nat × Cursor := match increment with
    | some increment =>
      let indent := least + increment - 1
      let (endings, c) := blockBlankLines indent (c.rest.length + 1) c
      (endings, indent, c)
    | none =>
      let (endings, column, c) := firstBlankLines (c.rest.length + 1) c
      (endings, max least column, c)
  let block := if c.column = indent && !c.rest.isEmpty then
      let block := blockLines folds indent (c.rest.length + 1) c
      { block with text := endings ++ block.text }
    else ⟨[], [], endings, c⟩
  .ok (textOf (match chomping with
    | .strip => block.text
    | .clip => block.text ++ block.ending
    | .keep => block.text ++ block.ending ++ block.trailing), block.after)

end Polyglot.Yaml
