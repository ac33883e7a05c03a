import Polyglot.Regex.Reader.Escape

namespace Polyglot.Regex.Reader

def member (lexeme : Lexeme) (rest : List Lexeme) : Except ReadError (CharItem × List Lexeme) :=
  match lexeme with
  | .char c => .ok (.code (Text.codeOf c), rest)
  | .escape c => classEscape c rest

/-- The members up to the closing bracket, which is a member itself where none is read yet. -/
def members : (fuel : Nat) → List CharItem → List Lexeme → Except ReadError (List CharItem × List Lexeme)
  | 0, _, _ => .error .malformed
  | _ + 1, _, [] => .error .malformed
  | fuel + 1, items, lexeme :: rest =>
    if lexeme = .char ']' ∧ items ≠ [] then .ok (items.reverse, rest)
    else
      match member lexeme rest with
      | .error e => .error e
      | .ok (low, .char '-' :: rest) =>
        match rest with
        | [] => .error .malformed
        | .char ']' :: rest => .ok ((.code 45 :: low :: items).reverse, rest)
        | lexeme :: rest =>
          match member lexeme rest with
          | .error e => .error e
          | .ok (high, rest) =>
            match low, high with
            | .code low, .code high =>
              if high < low then .error .malformed
              else members fuel (.range low high :: items) rest
            | _, _ => .error .malformed
      | .ok (item, rest) => members fuel (item :: items) rest

/-- The atom for a bracket. A bracket with one character is that character, or any other. -/
def bracketAtom (negated : Bool) (items : List CharItem) : Atom :=
  match items.eraseDups with
  | [.code code] => .char negated code
  | items => .members negated items

def class_ (st : State) (rest : List Lexeme) : Step :=
  let (negated, rest) := match rest with
    | .char '^' :: rest => (true, rest)
    | rest => (false, rest)
  (members (rest.length + 1) [] rest).map fun (items, rest) =>
    (st.push (atomPart st.mode (bracketAtom negated items)), rest)

end Polyglot.Regex.Reader
