import Polyglot.Regex.Search
import Polyglot.Text.Basic

namespace Polyglot.Glob

open Polyglot.Regex
open Polyglot.Text (splitOn trimEnd)

/-- Why a text is no glob. -/
inductive GlobError where
  /-- Nothing is left to match, or a backslash stands alone at the end. -/
  | invalid
  | badRange
  deriving DecidableEq, Repr

/-- A line's pattern; a negated line takes back what it matches. -/
structure Rule where
  negated : Bool
  regex : Regex

def literal (c : Char) : Regex := .one (.char false .keep (Text.codeOf c))

def slash : Regex := literal '/'

def anyChar : Regex := .one (.any false)

def notSlash : Regex := .one (.char true .keep 47)

def optional (parts : List Regex) : Regex := .many .greedy 0 (some 1) (.seqOf parts)

def oneOrMore (part : Regex) : Regex := .many .greedy 1 none part

def atStart : Regex := .anchor (.lineStart false)

def folderMark : Regex := .group 1 slash

/-- Behind the last segment a folder's slash follows, or nothing. -/
def segmentEnd : Regex := .eitherOf [folderMark, .anchor (.lineEnd false)]

/-- One sign of a segment. -/
inductive Sign where
  | char (c : Char)
  | star
  | question
  | bracket (negated : Bool) (body : List Char)

/-- Where the signs of a segment end too early: behind a backslash, or in a bracket. -/
inductive Break where
  | backslash
  | bracket
  deriving DecidableEq, Repr

/-- The text of a bracket up to the bracket that closes it, and the input behind that. A closing
bracket at the start is a member. -/
def bracketBody? (input : List Char) : Option (Bool × List Char × List Char) :=
  let (negated, body) : Bool × List Char := match input with
    | '!' :: body => (true, body)
    | '^' :: body => (true, body)
    | body => (false, body)
  let (first, rest) : List Char × List Char := match body with
    | ']' :: rest => ([']'], rest)
    | rest => ([], rest)
  match rest.dropWhile (· != ']') with
  | ']' :: after => some (negated, first ++ rest.takeWhile (· != ']'), after)
  | _ => none

def signs : (fuel : Nat) → List Char → Except Break (List Sign)
  | _, [] => .ok []
  | 0, _ :: _ => .ok []
  | fuel + 1, c :: rest =>
    match c with
    | '\\' =>
      match rest with
      | [] => .error .backslash
      | c :: rest => (signs fuel rest).map (.char c :: ·)
    | '*' => (signs fuel rest).map (.star :: ·)
    | '?' => (signs fuel rest).map (.question :: ·)
    | '[' =>
      match bracketBody? rest with
      | none => .error .bracket
      | some (negated, body, rest) => (signs fuel rest).map (.bracket negated body :: ·)
    | c => (signs fuel rest).map (.char c :: ·)

/-- The members of a bracket: characters and ranges. A minus at the end stands for itself. -/
def bracketItems : List Char → Except GlobError (List Member)
  | low :: '-' :: high :: rest =>
    if Text.codeOf high < Text.codeOf low then .error .badRange
    else (bracketItems rest).map (.range (Text.codeOf low) (Text.codeOf high) :: ·)
  | c :: rest => (bracketItems rest).map (.code (Text.codeOf c) :: ·)
  | [] => .ok []

def Sign.regex : Sign → Except GlobError Regex
  | .char c => .ok (literal c)
  | .star => .ok (.many .greedy 0 none notSlash)
  | .question => .ok notSlash
  | .bracket negated body =>
    (bracketItems body).map fun items => .one (.members negated .keep items)

/-- A segment: any number of folders, or signs. -/
inductive Segment where
  | folders
  | signs (signs : List Sign)

def doubleStar : List Char := ['*', '*']

def collapse : List (List Char) → List (List Char)
  | a :: b :: rest =>
    if a = doubleStar ∧ b = doubleStar then collapse (b :: rest) else a :: collapse (b :: rest)
  | segments => segments

/-- The segments of a glob. A glob with a slash in front or inside starts at the folder itself, any
other at any depth; a slash at the end stands for all below. -/
def segments (glob : List Char) : List (List Char) :=
  let pieces := splitOn '/' glob
  let rooted := match pieces with
    | [] :: rest => rest
    | [first] => if first = doubleStar then [first] else [doubleStar, first]
    | [first, []] => if first = doubleStar then [first, []] else [doubleStar, first, []]
    | pieces => pieces
  let closed := match rooted.getLast? with
    | some [] => rooted.dropLast ++ [doubleStar]
    | _ => rooted
  collapse closed

def Segment.ofChars (segment : List Char) : Except Break Segment :=
  if segment = doubleStar then .ok .folders
  else (Glob.signs segment.length segment).map .signs

/-- The parts of a pattern for the signs of a segment. A star alone stands for one character at
least. -/
def signParts : List Sign → Except GlobError (List Regex)
  | [.star] => .ok [oneOrMore notSlash]
  | signs => signs.mapM Sign.regex

/-- The parts for the segments behind the first. `joined` says that a slash must come first. -/
def laterParts (folderOnly : Bool) (joined : Bool) : List Segment → Except GlobError (List Regex)
  | [] => .ok []
  | .folders :: [] => .ok [if folderOnly then folderMark else slash]
  | .folders :: rest =>
    (laterParts folderOnly true rest).map (optional [slash, oneOrMore anyChar] :: ·)
  | .signs signs :: rest => do
    let own ← signParts signs
    let parts ← laterParts folderOnly true rest
    .ok ((if joined then [slash] else []) ++ own ++ (if rest.isEmpty then [segmentEnd] else []) ++ parts)

def regexOf (folderOnly : Bool) (segments : List Segment) : Except GlobError Regex :=
  match segments with
  | [] => .error .invalid
  | [.folders] => .ok (if folderOnly then folderMark else anyChar)
  | [.folders, .signs [.star]] => .ok anyChar
  | [.folders, .signs [.star], .folders] => .ok (if folderOnly then folderMark else slash)
  | .folders :: rest => do
    let parts ← laterParts folderOnly false rest
    .ok (.seqOf (atStart :: optional [oneOrMore anyChar, slash] :: parts))
  | segments => do
    let parts ← laterParts folderOnly false segments
    .ok (.seqOf (atStart :: parts))

/-- The rule of a line. A blank line, a comment, a lone slash and a line with a bracket that is not
closed make none. Blanks at the end do not count, unless a backslash stands before the last. -/
def rule? (line : List Char) : Except GlobError (Option Rule) :=
  let glob := if ['\\', ' '].isSuffixOf line then line else trimEnd line
  match glob with
  | [] | '#' :: _ | ['/'] => .ok none
  | c :: rest =>
    let negated := c == '!'
    let glob := if negated then rest else glob
    let folderOnly := glob.getLast?.all (· == '/')
    match (segments glob).mapM Segment.ofChars with
    | .error .bracket => .ok none
    | .error .backslash => .error .invalid
    | .ok segments => (regexOf folderOnly segments).map fun regex => some ⟨negated, regex⟩

def relative (path : List Char) : List Char :=
  match path with
  | '/' :: rest => rest
  | '.' :: '/' :: rest => rest
  | path => path

/-- Whether a rule matched the path itself (`some true`) or a folder above it (`some false`). -/
def Rule.hit? (rule : Rule) (path : Array Char) : Option Bool :=
  (rule.regex.search? path).map fun place => (place.marks.group? 1).isNone

/-- The decision of rules, the last first: the first that matches the path itself decides, or else
the first that matches a folder above it. -/
def decide? (path : Array Char) : (above : Option Bool) → List Rule → Option Bool
  | above, [] => above
  | above, rule :: rules =>
    match rule.hit? path with
    | some true => some !rule.negated
    | some false => decide? path (above.or (some !rule.negated)) rules
    | none => decide? path above rules

def takes (rules : List Rule) (path : String) : Bool :=
  (decide? (relative path.toList).toArray none rules.reverse).getD false

end Polyglot.Glob
