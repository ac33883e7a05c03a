import Polyglot.Http.HostLabel.Letters
import Polyglot.Text.Alphanumeric
import Polyglot.Text.Identifier
import Polyglot.Text.Basic
import Polyglot.Text.Punycode

namespace Polyglot.Http

/-- Why a label stands for no letters. -/
inductive HostLabelFault where
  /-- The label, or what it stands for, has not the form of a label. -/
  | malformed
  | character (code : Nat)
  | company (code : Nat)
  deriving DecidableEq, Repr

namespace HostLabel

/-- What a label starts with that stands for letters in punycode. -/
def mark : List Char := ['x', 'n', '-', '-']

def lengthLimit : Nat := 254

private def isGreek (code : Nat) : Bool := 0x370 ≤ code && code < 0x400
private def isHebrew (code : Nat) : Bool := 0x591 ≤ code && code < 0x5f5
private def isArabicDigit (code : Nat) : Bool := 0x660 ≤ code && code ≤ 0x669
private def isPersianDigit (code : Nat) : Bool := 0x6f0 ≤ code && code ≤ 0x6f9
private def isJapanese (code : Nat) : Bool :=
  (0x3041 ≤ code && code ≤ 0x30ff && code != 0x30fb) || (0x3400 ≤ code && code < 0xa000)

/-- Whether a code point that is right in certain company only stands in it, between what is before and
what is behind it. Others are right in no label. -/
def inCompany? (before : List Nat) (code : Nat) (behind : List Nat) : Option Bool :=
  let label := before ++ code :: behind
  if code = 0xb7 then some (before.getLast? == some 0x6c && behind.head? == some 0x6c)
  else if code = 0x375 then some (behind.head?.any isGreek)
  else if code = 0x5f3 ∨ code = 0x5f4 then some (before.getLast?.any isHebrew)
  else if code = 0x30fb then some (label.any isJapanese)
  else if isArabicDigit code then some (!label.any isPersianDigit)
  else if isPersianDigit code then some (!label.any isArabicDigit)
  else if code = 0x200c ∨ code = 0x200d then some false
  else none

/-- Whether a code point belongs to a mark that changes the letter before it. -/
def isCombining (code : Nat) : Bool :=
  let c := Char.ofNat code
  0x80 ≤ code && Text.continuesIdentifier c && !Text.startsIdentifier c && !Text.isDecimal c &&
    (inCompany? [] code []).isNone

/-- The first character that has no place between what stands before and behind it. -/
def misplaced? (before : List Nat) : List Nat → Option HostLabelFault
  | [] => none
  | code :: behind =>
    if isLetter code then misplaced? (before ++ [code]) behind
    else match inCompany? before code behind with
      | none => some (.character code)
      | some false => some (.company code)
      | some true => misplaced? (before ++ [code]) behind

def fault? (letters : List Nat) : Option HostLabelFault :=
  let hyphen := 0x2d
  if letters = [] ∨ lengthLimit < letters.length then some .malformed
  else if (letters.drop 2).take 2 = [hyphen, hyphen] then some .malformed
  else if letters.head? = some hyphen ∨ letters.getLast? = some hyphen then some .malformed
  else if letters.head?.any isCombining then some .malformed
  else misplaced? [] letters

/-- What is wrong with a label that may stand for letters in punycode. -/
def writtenFault? (label : List Char) : Option HostLabelFault :=
  if label.take 4 = mark then
    let rest := label.drop 4
    if rest = [] ∨ rest.getLast? = some '-' then some .malformed
    else match Text.Punycode.decode? rest with
      | none => some .malformed
      | some letters => fault? letters
  else fault? (label.map Char.toNat)

/-- What is wrong with a host whose first label stands for letters. Other hosts are taken as they
are. -/
def hostFault? (host : String) : Option HostLabelFault :=
  let chars := host.toList
  if chars.take 4 = mark then
    if lengthLimit < chars.length then some .malformed
    else
      let labels := Text.splitOn '.' chars
      (if labels.getLast? = some [] then labels.dropLast else labels).findSome? writtenFault?
  else none

end HostLabel

end Polyglot.Http
