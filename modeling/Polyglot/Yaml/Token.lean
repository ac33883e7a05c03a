import Polyglot.Yaml.ScalarText
import Polyglot.Text.Utf8

namespace Polyglot.Yaml

/-- A mark or a text of a document. -/
inductive Token where
  /-- A directive that names the version of the format, by its first number. -/
  | version (major : Nat)
  /-- A directive that gives a handle for the start of tags. -/
  | handle (name start : String)
  | remark
  | documentStart
  | documentEnd
  | blockListStart
  | blockMapStart
  | blockEnd
  | flowListStart
  | flowListEnd
  | flowMapStart
  | flowMapEnd
  | item
  | comma
  | key
  | value
  | alias (name : String)
  | anchor (name : String)
  | tag (handle : Option String) (suffix : String)
  | scalar (text : String) (plain : Bool)
  deriving DecidableEq, Repr

def Token.name : Token → String
  | .version _ | .handle .. | .remark => "<directive>"
  | .documentStart => "<document start>"
  | .documentEnd => "<document end>"
  | .blockListStart => "<block sequence start>"
  | .blockMapStart => "<block mapping start>"
  | .blockEnd => "<block end>"
  | .flowListStart => "["
  | .flowListEnd => "]"
  | .flowMapStart => "\x7b"
  | .flowMapEnd => "\x7d"
  | .item => "-"
  | .comma => ","
  | .key => "?"
  | .value => ":"
  | .alias _ => "<alias>"
  | .anchor _ => "<anchor>"
  | .tag .. => "<tag>"
  | .scalar .. => "<scalar>"

/-- A place where a key may start: the depth of the brackets, the slot among the tokens, and whether
what starts there must be a key. -/
structure KeyPlace where
  depth : Nat
  slot : Nat
  required : Bool
  index : Nat
  line : Nat
  column : Nat

/-- What a lexer knows behind the part of a document that it has cut into tokens. -/
structure Lexer where
  cursor : Cursor
  /-- The tokens so far in groups; a slot is a group. -/
  groups : Array (List Token) := #[]
  /-- The column of the innermost open list or map, and those around it. -/
  indent : Int := -1
  outer : List Int := []
  depth : Nat := 0
  keyAllowed : Bool := true
  keys : List KeyPlace := []

namespace Lexer

def emit (token : Token) (s : Lexer) : Lexer := { s with groups := s.groups.push [token] }

def skipTo (c : Cursor) (s : Lexer) : Lexer := { s with cursor := c }

def column (s : Lexer) : Int := s.cursor.column

def allowKey (allowed : Bool) (s : Lexer) : Lexer := { s with keyAllowed := allowed }

/-- Closes what is open to the right of a column. Inside brackets columns mean nothing. -/
def unwindGo (column : Int) : List Int → Lexer → Lexer
  | [], s => s
  | outer :: rest, s =>
    if column < s.indent then
      unwindGo column rest { s.emit .blockEnd with indent := outer, outer := rest }
    else s

def unwind (column : Int) (s : Lexer) : Lexer :=
  if s.depth = 0 then unwindGo column s.outer s else s

/-- Forgets the place of a key in the innermost brackets. What must be a key must not be forgotten. -/
def forgetKey (s : Lexer) : Result Lexer :=
  if s.keys.any fun place => place.depth == s.depth && place.required then broken .unfinishedKey
  else .ok { s with keys := s.keys.filter fun place => place.depth != s.depth }

/-- How many characters may lie between the start of a key and the colon behind it. -/
def keyReach : Nat := 1024

def isStale (s : Lexer) (place : KeyPlace) : Bool :=
  place.line != s.cursor.line || keyReach < s.cursor.index - place.index

/-- Forgets the places on other lines and those that are too far behind. -/
def forgetStaleKeys (s : Lexer) : Result Lexer :=
  if s.keys.any fun place => s.isStale place && place.required then broken .unfinishedKey
  else .ok { s with keys := s.keys.filter fun place => !s.isStale place }

/-- The tokens before the first place where a key may still come or must come. -/
def settled (s : Lexer) : List Token :=
  let places := s.keys.filter fun place => place.required || !s.isStale place
  let count := (places.map (·.slot)).foldl min s.groups.size
  (s.groups.toList.take count).flatten

def markKey (s : Lexer) : Result Lexer :=
  if s.keyAllowed then do
    let s ← s.forgetKey
    let place : KeyPlace := {
      depth := s.depth, slot := s.groups.size, required := s.depth == 0 && s.indent == s.column
      index := s.cursor.index, line := s.cursor.line, column := s.cursor.column }
    .ok { s with groups := s.groups.push [], keys := place :: s.keys }
  else .ok s

/-- Opens a list or a map at a column, unless one is open there or to the right of it. -/
def opens (column : Int) (s : Lexer) : Bool := s.depth == 0 && s.indent < column

def openAt (column : Int) (s : Lexer) : Lexer :=
  if s.opens column then { s with indent := column, outer := s.indent :: s.outer } else s

def emitMark (token : Token) (s : Lexer) : Lexer := (s.emit token).skipTo s.cursor.advance

def openBracket (token : Token) (s : Lexer) : Result Lexer := do
  let s ← s.markKey
  .ok ({ s with depth := s.depth + 1, keyAllowed := true }.emitMark token)

/-- A bracket closes. Where none is open, the token is in no place where one may stand. -/
def closeBracket (token : Token) (s : Lexer) : Result Lexer := do
  let s ← s.forgetKey
  .ok ({ s with depth := s.depth - 1, keyAllowed := false }.emitMark token)

def comma (s : Lexer) : Result Lexer := do
  let s ← (s.allowKey true).forgetKey
  .ok (s.emitMark .comma)

/-- The mark of a list's item or of a key that is announced. Outside brackets it may open the list or
the map, where one is allowed. -/
def entryMark (opening token : Token) (misplaced : Flaw) (keyAllowed : Bool) (s : Lexer) :
    Result Lexer :=
  if s.depth = 0 && !s.keyAllowed then broken misplaced
  else do
    let opened := if s.opens s.column then (s.emit opening).openAt s.column else s
    let s ← (opened.allowKey keyAllowed).forgetKey
    .ok (s.emitMark token)

/-- The colon between a key and its value. The key is behind it in its slot, or there is none. -/
def valueMark (s : Lexer) : Result Lexer :=
  match s.keys.find? (·.depth == s.depth) with
  | some place =>
    let group := if s.opens place.column then [Token.blockMapStart, .key] else [.key]
    let s := { s with
      groups := s.groups.setIfInBounds place.slot group
      keys := s.keys.filter fun place => place.depth != s.depth
      keyAllowed := false }
    .ok ((s.openAt place.column).emitMark .value)
  | none => s.entryMark .blockMapStart .value .misplacedValue (s.depth == 0)

def isNameChar (c : Char) : Bool := c.isAlphanum || c == '-' || c == '_'

def isTagChar (c : Char) : Bool :=
  c.isAlphanum || ['-', ';', '/', '?', ':', '@', '&', '=', '+', '$', ',', '_', '.', '!', '~', '*',
    '\'', '(', ')', '[', ']', '%'].contains c

def nameAt (part : Part) (c : Cursor) : Result (String × Cursor) :=
  let (name, c) := c.span isNameChar
  let ends := endsWord c.head? ||
    c.head?.any fun char => ['?', ':', ',', ']', '\x7d', '%', '@', '\x60'].contains char
  if name.isEmpty || !ends then broken (.scanning part) else .ok (String.ofList name, c)

private def escapedBytes (part : Part) : (fuel : Nat) → List Char → Result (List UInt8 × List Char)
  | fuel + 1, '%' :: rest =>
    match hexNumber? 2 rest with
    | none => broken (.scanning part)
    | some byte => do
      let (bytes, rest) ← escapedBytes part fuel (rest.drop 2)
      .ok (UInt8.ofNat byte :: bytes, rest)
  | _, rest => .ok ([], rest)

private def unescape (part : Part) : (fuel : Nat) → List Char → Result (List Char)
  | 0, _ => .ok []
  | _, [] => .ok []
  | fuel + 1, '%' :: rest => do
    let (bytes, rest) ← escapedBytes part (rest.length + 1) ('%' :: rest)
    match String.fromUTF8? bytes.toByteArray with
    | none => broken (.scanning part)
    | some text => do
      let more ← unescape part fuel rest
      .ok (text.toList ++ more)
  | fuel + 1, c :: rest => do
    let more ← unescape part fuel rest
    .ok (c :: more)

def tagTextAt (part : Part) (c : Cursor) : Result (String × Cursor) := do
  let (chars, c) := c.span isTagChar
  if chars.isEmpty then broken (.parsing part)
  else
    let text ← unescape part (chars.length + 1) chars
    .ok (String.ofList text, c)

/-- A handle: one exclamation mark, or a name between two of them. -/
def handleAt (part : Part) (c : Cursor) : Result (String × Cursor) :=
  if !c.isAt '!' then broken (.scanning part)
  else
    let (name, behind) := c.advance.span isNameChar
    if behind.isAt '!' then .ok ("!" ++ String.ofList name ++ "!", behind.advance)
    else if c.advance.isAt ' ' then .ok ("!", c.advance)
    else broken (.scanning part)

/-- Whether an exclamation mark comes before the next space or the end of the line. -/
private def hasHandle (chars : List Char) : Bool :=
  (chars.takeWhile fun c => !endsMark (some c)).contains '!'

def tagAt (c : Cursor) : Result (Token × Cursor) := do
  let (tag, c) ←
    if c.at? 1 == some '<' then do
      let (suffix, c) ← tagTextAt .tag (c.advanceBy 2)
      if c.isAt '>' then Except.ok (Token.tag none suffix, c.advance) else broken (.parsing .tag)
    else if endsWord (c.at? 1) then Except.ok (Token.tag none "!", c.advance)
    else do
      let (handle, c) ←
        if hasHandle c.advance.rest then handleAt .tag c else Except.ok ("!", c.advance)
      let (suffix, c) ← tagTextAt .tag c
      Except.ok (Token.tag (some handle) suffix, c)
  if endsMark c.head? then .ok (tag, c) else broken (.scanning .tag)

private def numberAt (c : Cursor) : Result (Nat × Cursor) :=
  let (digits, c) := c.span Char.isDigit
  if digits.isEmpty then broken (.scanning .directive)
  else if Text.maxDigits < digits.length then .error (.tooManyDigits digits.length)
  else .ok (Text.natOfDigits 10 digits, c)

private def versionAt (c : Cursor) : Result (Token × Cursor) := do
  let (major, c) ← numberAt c.skipSpaces
  if !c.isAt '.' then broken (.scanning .directive)
  else
    let (_, c) ← numberAt c.advance
    if endsMark c.head? then .ok (.version major, c) else broken (.scanning .directive)

private def handleDirectiveAt (c : Cursor) : Result (Token × Cursor) := do
  let (name, c) ← handleAt .directive c.skipSpaces
  if !c.isAt ' ' then broken (.scanning .directive)
  else
    let (start, c) ← tagTextAt .directive c.skipSpaces
    if endsMark c.head? then .ok (.handle name start, c) else broken (.scanning .directive)

/-- A directive with the rest of its line, which may be a comment. -/
def directiveAt (c : Cursor) : Result (Token × Cursor) := do
  let (name, c) := c.advance.span isNameChar
  if name.isEmpty || !endsMark c.head? then broken (.scanning .directive)
  else
    let (token, c) ← match String.ofList name with
      | "YAML" => versionAt c
      | "TAG" => handleDirectiveAt c
      | _ => Except.ok (Token.remark, c.skip fun char => !isBreak char)
    let c := c.skipSpaces.skipComment
    match c.break? with
    | some (_, c) => .ok (token, c)
    | none => if c.rest.isEmpty then .ok (token, c) else broken (.scanning .directive)

/-- Skips spaces, comments and ends of lines. Outside brackets a key may start a line. -/
def skipBlank : (fuel : Nat) → Lexer → Lexer
  | 0, s => s
  | fuel + 1, s =>
    let c := s.cursor.skipSpaces.skipComment
    match c.break? with
    | none => s.skipTo c
    | some (_, c) => skipBlank fuel { s with cursor := c, keyAllowed := s.keyAllowed || s.depth == 0 }

/-- What ends all that is open: a directive or the marker of a document. -/
private def closeAll (s : Lexer) : Result Lexer := do
  let s ← (s.unwind (-1)).forgetKey
  .ok (s.allowKey false)

private def markedScalar (read : Cursor → Result (Token × Cursor)) (s : Lexer) : Result Lexer := do
  let s ← s.markKey
  let (token, c) ← read s.cursor
  .ok (((s.allowKey false).emit token).skipTo c)

private def nameToken (part : Part) (make : String → Token) (c : Cursor) :
    Result (Token × Cursor) := do
  let (name, c) ← nameAt part c.advance
  .ok (make name, c)

private def quotedToken (double : Bool) (c : Cursor) : Result (Token × Cursor) := do
  let (text, c) ← quotedText double c
  .ok (.scalar text false, c)

private def block (folds : Bool) (s : Lexer) : Result Lexer := do
  let s ← (s.allowKey true).forgetKey
  let (text, c) ← blockText folds s.indent s.cursor
  .ok ((s.emit (.scalar text false)).skipTo c)

private def plain (s : Lexer) : Result Lexer := do
  let s ← s.markKey
  let (text, c, newLine) := plainText (s.depth != 0) (s.indent + 1) s.cursor
  .ok (((s.allowKey newLine).emit (.scalar text true)).skipTo c)

private def startsPlain (s : Lexer) (c : Char) : Bool :=
  !(endsWord (some c) || ['-', '?', ':', ',', '[', ']', '\x7b', '\x7d', '#', '&', '*', '!', '|', '>',
      '\'', '"', '%', '@', '\x60'].contains c) ||
    (!endsWord (s.cursor.at? 1) && (c == '-' || (s.depth == 0 && (c == '?' || c == ':'))))

def step (s : Lexer) (c : Char) : Result Lexer :=
  let atStart := s.cursor.column == 0
  let standsAlone := endsWord (s.cursor.at? 1)
  let marker (token : Token) : Result Lexer := do
    let s ← closeAll s
    .ok ((s.emit token).skipTo (s.cursor.advanceBy 3))
  if c == '%' && atStart then do
    let s ← closeAll s
    let (token, c) ← directiveAt s.cursor
    .ok ((s.emit token).skipTo c)
  else if atStart && s.cursor.isAtMark '-' then marker .documentStart
  else if atStart && s.cursor.isAtMark '.' then marker .documentEnd
  else if c == '[' then s.openBracket .flowListStart
  else if c == '\x7b' then s.openBracket .flowMapStart
  else if c == ']' then s.closeBracket .flowListEnd
  else if c == '\x7d' then s.closeBracket .flowMapEnd
  else if c == ',' then s.comma
  else if c == '-' && standsAlone then s.entryMark .blockListStart .item .misplacedItem true
  else if c == '?' && (s.depth != 0 || standsAlone) then
    s.entryMark .blockMapStart .key .misplacedKey (s.depth == 0)
  else if c == ':' && (s.depth != 0 || standsAlone) then s.valueMark
  else if c == '*' then markedScalar (nameToken .alias .alias) s
  else if c == '&' then markedScalar (nameToken .anchor .anchor) s
  else if c == '!' then markedScalar tagAt s
  else if c == '|' && s.depth == 0 then block false s
  else if c == '>' && s.depth == 0 then block true s
  else if c == '\'' then markedScalar (quotedToken false) s
  else if c == '"' then markedScalar (quotedToken true) s
  else if startsPlain s c then plain s
  else broken .nextToken

/-- Reads the next token, or closes what is open at the end of the text, and tells whether this is the
end. -/
def next (s : Lexer) : Result (Lexer × Bool) := do
  let s ← (s.skipBlank (s.cursor.rest.length + 1)).forgetStaleKeys
  let s := s.unwind s.column
  match s.cursor.head? with
  | none => do .ok (← (s.unwind (-1)).forgetKey, true)
  | some c => do .ok (← s.step c, false)

end Lexer

/-- The tokens of a text, up to a place where something is wrong. That place is known only when a
token behind the last one is asked for. -/
structure Tokens where
  tokens : List Token
  fault : Option Fault := none

/-- Reads tokens up to the end of the text or to what is wrong in it. -/
def Lexer.run : (fuel : Nat) → Lexer → Tokens
  | 0, s => ⟨s.settled, some (.malformed .nextToken)⟩
  | fuel + 1, s =>
    match s.next with
    | .error fault => ⟨s.settled, some fault⟩
    | .ok (s, true) => ⟨s.groups.toList.flatten, none⟩
    | .ok (s, false) => run fuel s

def isAdmitted (c : Char) : Bool :=
  let code := c.toNat
  code == 9 || code == 0xa || code == 0xd || (0x20 ≤ code && code ≤ 0x7e) || code == 0x85 ||
    (0xa0 ≤ code && code ≤ 0xd7ff) || (0xe000 ≤ code && code ≤ 0xfffd) || 0x10000 ≤ code

def Tokens.ofText (text : String) : Tokens :=
  let chars := text.toList
  match chars.find? (!isAdmitted ·) with
  | some c => ⟨[], some (.malformed (.unacceptable c))⟩
  | none =>
    let start : Cursor := { rest := chars }
    let start := if start.isAt '\ufeff' then start.advance else start
    Lexer.run (chars.length + 1) { cursor := start }

end Polyglot.Yaml
