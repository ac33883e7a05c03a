import Polyglot.Regex.Dialect
import Polyglot.Regex.Reader.Bracket
import Polyglot.Regex.Reader.Group
import Polyglot.Regex.Reader.Repetition

namespace Polyglot.Regex

namespace Reader

def isLayout (c : Char) : Bool := c == ' ' || (9 ≤ c.toNat && c.toNat ≤ 13)

def step (st : State) (lexeme : Lexeme) (rest : List Lexeme) : Step :=
  match lexeme with
  | .escape c => escape st c rest
  | .char c =>
    if c = '|' then alternate st rest
    else if c = ')' then closeGroup st rest
    else if st.mode.verbose && isLayout c then .ok (st, rest)
    else if st.mode.verbose && c == '#' then .ok (st, (rest.dropWhile (· != .char '\n')).drop 1)
    else match c with
      | '[' => class_ st rest
      | '(' => do
        let (st, rest) ← openGroup st rest
        st.checkDepth
        .ok (st, rest)
      | '*' | '+' | '?' | '\x7b' => quantifier st c rest
      | '.' => .ok (st.push (atomPart st.mode .any), rest)
      | '^' => .ok (st.push (anchorPart (.lineStart st.mode.lines)), rest)
      | '$' => .ok (st.push (anchorPart (.lineEnd st.mode.lines)), rest)
      | c => .ok (st.push (literalPart st.mode (Text.codeOf c)), rest)

/-- What the search may rely on. A bracket at the start is read by the alphabet of the whole pattern,
whatever alphabet holds where it stands. -/
def finderOf (mode : Mode) (row : Part) : Finder :=
  { regex := row.regex, shortest := row.low
    opening := match row.start with
      | .literal => .literal
      | .members negated items => .members (.members negated .keep (items.map (·.plain mode.ascii)))
      | _ => .unknown }

def finish (st : State) : Except ReadError Finder :=
  if !st.outer.isEmpty then .error .malformed
  else if st.mode.ascii && st.unicode then .error .twoAlphabets
  else if st.asked.any (st.nextGroup ≤ ·) || st.unusable then .error .malformed
  else .ok (finderOf st.mode (rowOf st.frame.row))

/-- Every step takes a lexeme at least, so as many steps as there are lexemes are enough. -/
def run : (fuel : Nat) → State → List Lexeme → Except ReadError Finder
  | _, st, [] => finish st
  | 0, _, _ :: _ => .error .malformed
  | fuel + 1, st, lexeme :: rest =>
    match step st lexeme rest with
    | .error e => .error e
    | .ok (st, rest) => run fuel st rest

end Reader

def read (pattern : List Char) (flags : Flags) : Except ReadError Finder :=
  match Reader.lexemes? pattern with
  | none => .error .malformed
  | some lexemes =>
    let mode := ⟨flags.ignoreCase, true, flags.dotAll, flags.verbose, false⟩
    Reader.run lexemes.length { frame := { bracket := .pattern, mode := mode } } lexemes

end Polyglot.Regex
