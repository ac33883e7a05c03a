import Polyglot.Regex.Reader.State
import Polyglot.Text.CharacterName

namespace Polyglot.Regex.Reader

def hexValue? (c : Char) : Option Nat :=
  if c.isDigit then some (c.toNat - 48)
  else if 'a' ≤ c ∧ c ≤ 'f' then some (c.toNat - 87)
  else if 'A' ≤ c ∧ c ≤ 'F' then some (c.toNat - 55)
  else none

def hexCode? : (count code : Nat) → List Lexeme → Option (Nat × List Lexeme)
  | 0, code, rest => some (code, rest)
  | count + 1, code, .char c :: rest =>
    match hexValue? c with
    | some digit => hexCode? count (code * 16 + digit) rest
    | none => none
  | _ + 1, _, _ => none

def isOctal (c : Char) : Bool := '0' ≤ c && c ≤ '7'

def octalCode : (count code : Nat) → List Lexeme → Nat × List Lexeme
  | count + 1, code, .char c :: rest =>
    if isOctal c then octalCode count (code * 8 + (c.toNat - 48)) rest else (code, .char c :: rest)
  | _, code, rest => (code, rest)

def controlCode? (c : Char) : Option Nat :=
  match c with
  | 'a' => some 7
  | 'f' => some 12
  | 'n' => some 10
  | 'r' => some 13
  | 't' => some 9
  | 'v' => some 11
  | '\\' => some 92
  | _ => none

def classItem? (c : Char) : Option CharItem :=
  match c with
  | 'd' => some (.named .digit false)
  | 'D' => some (.named .digit true)
  | 's' => some (.named .space false)
  | 'S' => some (.named .space true)
  | 'w' => some (.named .word false)
  | 'W' => some (.named .word true)
  | _ => none

/-- The characters up to `stop`, which is left out, and the input behind it. -/
def nameUntil? (stop : Char) : List Char → List Lexeme → Option (List Char × List Lexeme)
  | name, .char c :: rest =>
    if c = stop then (if name.isEmpty then none else some (name.reverse, rest))
    else nameUntil? stop (c :: name) rest
  | _, _ => none

def namedCode? : List Lexeme → Option (Nat × List Lexeme)
  | .char '\x7b' :: rest => do
    let (name, rest) ← nameUntil? '\x7d' [] rest
    let code ← Text.namedCharacter? name
    some (code, rest)
  | _ => none

/-- A character by its code or its name, or by itself where it is no letter. -/
def codeEscape (c : Char) (rest : List Lexeme) : Except ReadError (Nat × List Lexeme) :=
  let coded := match c with
    | 'x' => hexCode? 2 0 rest
    | 'u' => hexCode? 4 0 rest
    | 'U' => (hexCode? 8 0 rest).filter (·.1 < 0x110000)
    | 'N' => namedCode? rest
    | c => if c.isAlphanum then none else some (Text.codeOf c, rest)
  match coded with
  | some coded => .ok coded
  | none => .error .malformed

def classEscape (c : Char) (rest : List Lexeme) : Except ReadError (CharItem × List Lexeme) :=
  match controlCode? c, classItem? c with
  | some code, _ => .ok (.code code, rest)
  | none, some item => .ok (item, rest)
  | none, none =>
    if c = 'b' then .ok (.code 8, rest)
    else if isOctal c then
      let (code, rest) := octalCode 2 (c.toNat - 48) rest
      if 0o377 < code then .error .malformed else .ok (.code code, rest)
    else (codeEscape c rest).map fun (code, rest) => (.code code, rest)

def digitsOf (lexemes : List Lexeme) : List Char × List Lexeme :=
  match lexemes with
  | .char c :: rest =>
    if c.isDigit then
      let (digits, rest) := digitsOf rest
      (c :: digits, rest)
    else ([], lexemes)
  | _ => ([], lexemes)

def natOf (digits : List Char) : Nat := digits.foldl (fun n c => n * 10 + (c.toNat - 48)) 0

/-- A backslash with a digit other than zero: three octal digits are a code, else one or two digits
are a reference. -/
def digitEscape (st : State) (c : Char) (rest : List Lexeme) : Step :=
  let refer (number : Nat) (rest : List Lexeme) : Step := (st.refer number).map (·, rest)
  match rest with
  | .char d :: rest' =>
    if d.isDigit then
      match rest' with
      | .char e :: rest'' =>
        if isOctal c && isOctal d && isOctal e then
          let code := natOf [c] * 64 + natOf [d] * 8 + natOf [e]
          if 0o377 < code then .error .malformed else .ok (st.push (literalPart st.mode code), rest'')
        else refer (natOf [c, d]) rest'
      | _ => refer (natOf [c, d]) rest'
    else refer (natOf [c]) rest
  | _ => refer (natOf [c]) rest

def escape (st : State) (c : Char) (rest : List Lexeme) : Step :=
  match c with
  | 'A' => .ok (st.push (anchorPart .textStart), rest)
  | 'Z' => .ok (st.push (anchorPart .textEnd), rest)
  | 'b' => .ok (st.push (anchorPart (.wordEdge false st.mode.ascii)), rest)
  | 'B' => .ok (st.push (anchorPart (.wordEdge true st.mode.ascii)), rest)
  | c =>
    match classItem? c, controlCode? c with
    | some item, _ => .ok (st.push (atomPart st.mode (.members false [item])), rest)
    | none, some code => .ok (st.push (literalPart st.mode code), rest)
    | none, none =>
      if c = '0' then
        let (code, rest) := octalCode 2 0 rest
        .ok (st.push (literalPart st.mode code), rest)
      else if c.isDigit then digitEscape st c rest
      else (codeEscape c rest).map fun (code, rest) => (st.push (literalPart st.mode code), rest)

end Polyglot.Regex.Reader
