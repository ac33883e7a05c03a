import Polyglot.Http.Escape
import Polyglot.Text.LetterCase
import Polyglot.Text.Basic

namespace Polyglot.Http

/-- Why a text names no host. -/
inductive HostFault where
  | notFourParts (host : String)
  | notBracketed (host : String)
  | notAName (host : String)
  deriving DecidableEq, Repr

namespace Host

private def numberOf (digits : List Char) : Nat :=
  digits.foldl (fun n c => n * 10 + (c.toNat - 48)) 0

def isByte (digits : List Char) : Bool :=
  !digits.isEmpty && digits.all Char.isDigit && digits.length ≤ 3 &&
    (digits == ['0'] || digits.head? != some '0') && numberOf digits < 256

def isFourParts (host : List Char) : Bool :=
  let parts := Text.splitOn '.' host
  parts.length == 4 && parts.all isByte

/-- Whether a text is `n` runs of digits, each with one more character of any kind behind it, and a
last run of digits. -/
private def hasRuns : (n : Nat) → List Char → Bool
  | 0, host => !host.isEmpty && host.all Char.isDigit
  | n + 1, host =>
    (List.range (host.takeWhile Char.isDigit).length).any fun more => hasRuns n (host.drop (more + 2))

/-- Four runs of digits with any three characters between them: such a host is meant as a number. -/
def looksLikeFourParts (host : List Char) : Bool :=
  (host.filter (!·.isDigit)).length ≤ 3 && host.getLast?.any Char.isDigit && hasRuns 3 host

private def isHexDigit (c : Char) : Bool :=
  c.isDigit || ('a' ≤ c && c ≤ 'f') || ('A' ≤ c && c ≤ 'F')

/-- Up to four hexadecimal digits; there may be none, if the word is left out. -/
private def isWord (digits : List Char) : Bool :=
  !digits.isEmpty && digits.all isHexDigit && digits.length ≤ 4

/-- The words with the four bytes at their end, if they stand there, as two words. -/
private def withoutBytes? (words : List (List Char)) : Option (List (List Char)) :=
  match words.getLast? with
  | some last =>
    if last.contains '.' then
      if isFourParts last then some (words.dropLast ++ [['0'], ['0']]) else none
    else some words
  | none => none

/-- Eight words with colons between them. One run of words may be left out, and two colons stand there
instead. -/
def isEightWords (host : List Char) : Bool :=
  let parts := Text.splitOn ':' host
  if parts.length < 3 then false
  else match withoutBytes? parts with
    | none => false
    | some words =>
      let inner := (words.drop 1).dropLast
      if 9 < words.length then false
      else if inner.any List.isEmpty then
        let gap := inner.findIdx List.isEmpty + 1
        let front := words.take gap
        let back := words.drop (gap + 1)
        let front := if front == [[]] then [] else front
        let back := if back == [[]] then [] else back
        (inner.filter List.isEmpty).length == 1 && front.all isWord && back.all isWord &&
          front.length + back.length < 8
      else words.length == 8 && words.all isWord

/-- Eight words, which the name of a zone may follow behind a percent sign. -/
def isZoned (host : List Char) : Bool :=
  let words := host.takeWhile (· != '%')
  match host.dropWhile (· != '%') with
  | [] => isEightWords words
  | _ :: zone => !zone.isEmpty && !zone.contains '%' && isEightWords words

def bracketed? (host : List Char) : Option (List Char) :=
  match host with
  | '[' :: rest => if rest.getLast? = some ']' then some rest.dropLast else none
  | _ => none

def ofText (text : String) : Except HostFault String :=
  let host := text.toList
  if looksLikeFourParts host then
    if isFourParts host then .ok text else .error (.notFourParts text)
  else match bracketed? host with
    | some words => if isZoned words then .ok (String.ofList words) else .error (.notBracketed text)
    | none =>
      if host.all (·.toNat < 128) then .ok (escape inHost (Text.lower text))
      else .error (.notAName text)

end Host

end Polyglot.Http
