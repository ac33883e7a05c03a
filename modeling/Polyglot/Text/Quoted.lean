import Polyglot.Text.Printable
import Polyglot.Text.StandIn

namespace Polyglot.Text

def hexDigit (n : Nat) : Char := if n < 10 then Char.ofNat (48 + n) else Char.ofNat (87 + n)

def hexDigits : (width n : Nat) → List Char
  | 0, _ => []
  | width + 1, n => hexDigits width (n / 16) ++ [hexDigit (n % 16)]

/-- A character between quotes: the quote and the backslash get a backslash, the three usual
controls their letter, and what is not printable its code in hexadecimal. -/
def quotedChar (quote c : Char) : List Char :=
  if c = quote ∨ c = '\\' then ['\\', c]
  else if c = '\t' then ['\\', 't']
  else if c = '\n' then ['\\', 'n']
  else if c = '\r' then ['\\', 'r']
  else if isPrintable c then [c]
  else
    let code := codeOf c
    if code ≤ 0xff then '\\' :: 'x' :: hexDigits 2 code
    else if code ≤ 0xffff then '\\' :: 'u' :: hexDigits 4 code
    else '\\' :: 'U' :: hexDigits 8 code

/-- Single quotes stand around a text, unless it holds one and no double quote. -/
def quoteFor (chars : List Char) : Char :=
  if chars.contains '\'' && !chars.contains '"' then '"' else '\''

def quotedChars (chars : List Char) : List Char :=
  quoteFor chars :: chars.flatMap (quotedChar (quoteFor chars)) ++ [quoteFor chars]

def quoted (text : String) : String := String.ofList (quotedChars text.toList)

end Polyglot.Text
