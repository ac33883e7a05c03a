import Polyglot.Text.Alphanumeric

namespace Polyglot.Regex

open Polyglot.Text (isWord)

/-- Flags of a whole pattern. Line anchors match at every line in any case. -/
structure Flags where
  ignoreCase : Bool := false
  dotAll : Bool := false
  verbose : Bool := false
  deriving DecidableEq, Repr

def Flags.union (a b : Flags) : Flags :=
  ⟨a.ignoreCase || b.ignoreCase, a.dotAll || b.dotAll, a.verbose || b.verbose⟩

/-- What a pattern holds that has no counterpart in the other notation. -/
inductive DialectError where
  | trailingBackslash
  | unicodeProperty (letter : Char)
  | searchAnchor
  | malformedReference
  | negatedHexInClass
  | negatedClassName (name : List Char)
  | unknownClassName (name : List Char)
  | unterminatedClass
  deriving DecidableEq, Repr

def DialectError.message : DialectError → String
  | .trailingBackslash => "trailing backslash"
  | .unicodeProperty letter =>
    "unicode property escape \\" ++ String.singleton letter ++ "\x7b...\x7d is not supported"
  | .searchAnchor => "\\G anchor is not supported"
  | .malformedReference => "malformed named backreference"
  | .negatedHexInClass => "\\H inside a character class is not supported"
  | .negatedClassName name => "negated POSIX class [:^" ++ String.ofList name ++ ":] is not supported"
  | .unknownClassName name => "unknown POSIX class [:" ++ String.ofList name ++ ":]"
  | .unterminatedClass => "unterminated character class"

namespace Dialect

/-- One converted piece: its text for the engine, the input behind it, whether a bracket class is
open there, and the flags it sets. -/
structure Piece where
  out : List Char
  rest : List Char
  inClass : Bool
  flags : Flags := {}

def angledName? : List Char → Option (List Char × List Char)
  | '<' :: c :: input =>
    if c.isAlpha || c == '_' then
      match input.dropWhile isWord with
      | '>' :: rest => some (c :: input.takeWhile isWord, rest)
      | _ => none
    else none
  | _ => none

def isFlag (c : Char) : Bool := c == 'i' || c == 'm' || c == 'x'

/-- A group of flags, read behind `(?`: the flags set, the flags cleared behind a minus, and whether
the group has a body. -/
structure FlagGroup where
  set : List Char
  cleared : Option (List Char)
  hasBody : Bool

def clearedFlags : List Char → Option (List Char) × List Char
  | '-' :: rest => (some (rest.takeWhile isFlag), rest.dropWhile isFlag)
  | rest => (none, rest)

/-- What closes the flags: a colon if a body follows, or the bracket. -/
def bodyMark? : List Char → Option (Bool × List Char)
  | ')' :: rest => some (false, rest)
  | ':' :: rest => some (true, rest)
  | _ => none

/-- A flag group that names a flag or has a minus, and the input behind its colon or bracket. -/
def flagGroup? (input : List Char) : Option (FlagGroup × List Char) :=
  let set := input.takeWhile isFlag
  let cleared := clearedFlags (input.dropWhile isFlag)
  if set.isEmpty && cleared.1.isNone then none
  else (bodyMark? cleared.2).map fun (hasBody, rest) => (⟨set, cleared.1, hasBody⟩, rest)

def flagsOf (letters : List Char) : Flags :=
  ⟨letters.contains 'i', letters.contains 'm', letters.contains 'x'⟩

def engineFlag (c : Char) : Char := if c = 'm' then 's' else c

def FlagGroup.header (group : FlagGroup) : List Char :=
  let cleared := group.cleared.getD []
  '(' :: '?' :: group.set.map engineFlag ++
    (if cleared.isEmpty then [] else '-' :: cleared.map engineFlag) ++ [':']

def namedClass? (name : List Char) : Option (List Char) :=
  match String.ofList name with
  | "alpha" => some "a-zA-Z".toList
  | "digit" => some "0-9".toList
  | "alnum" => some "a-zA-Z0-9".toList
  | "upper" => some "A-Z".toList
  | "lower" => some "a-z".toList
  | "space" => some "\\s".toList
  | "blank" => some " \\t".toList
  | "xdigit" => some "0-9a-fA-F".toList
  | "word" => some "\\w".toList
  | "punct" => some "!-/:-@\\[-`\x7b-~".toList
  | _ => none

def isLowerLetter (c : Char) : Bool := 'a' ≤ c && c ≤ 'z'

def negation : List Char → Bool × List Char
  | '^' :: input => (true, input)
  | input => (false, input)

/-- A class name between colons, read behind its opening bracket: whether it is negated, the name,
and the input behind the closing bracket. -/
def className? : List Char → Option (Bool × List Char × List Char)
  | ':' :: input =>
    let (negated, input) := negation input
    match input.takeWhile isLowerLetter, input.dropWhile isLowerLetter with
    | c :: name, ':' :: ']' :: rest => some (negated, c :: name, rest)
    | _, _ => none
  | _ => none

def hexMembers : List Char := "0-9a-fA-F".toList

def escape (inClass : Bool) : List Char → Except DialectError Piece
  | [] => .error .trailingBackslash
  | c :: rest =>
    if (c == 'p' || c == 'P') && rest.head? == some '\x7b' then .error (.unicodeProperty c)
    else match c with
      | 'G' => .error .searchAnchor
      | 'k' =>
        match angledName? rest with
        | some (name, rest) => .ok ⟨"(?P=".toList ++ name ++ [')'], rest, inClass, {}⟩
        | none => .error .malformedReference
      | 'h' => .ok ⟨if inClass then hexMembers else '[' :: hexMembers ++ [']'], rest, inClass, {}⟩
      | 'H' =>
        if inClass then .error .negatedHexInClass
        else .ok ⟨'[' :: '^' :: hexMembers ++ [']'], rest, inClass, {}⟩
      | 'z' => .ok ⟨if inClass then ['\\', 'z'] else ['\\', 'Z'], rest, inClass, {}⟩
      | 'Z' => .ok ⟨if inClass then ['\\', 'Z'] else "(?=\\n?\\Z)".toList, rest, inClass, {}⟩
      | c => .ok ⟨['\\', c], rest, inClass, {}⟩

def innerBracket (rest : List Char) : Except DialectError Piece :=
  match className? rest with
  | some (true, name, _) => .error (.negatedClassName name)
  | some (false, name, rest) =>
    match namedClass? name with
    | some members => .ok ⟨members, rest, true, {}⟩
    | none => .error (.unknownClassName name)
  | none => .ok ⟨['\\', '['], rest, true, {}⟩

def openClass : List Char → Piece
  | '^' :: ']' :: rest => ⟨['[', '^', ']'], rest, true, {}⟩
  | '^' :: rest => ⟨['[', '^'], rest, true, {}⟩
  | ']' :: rest => ⟨['[', ']'], rest, true, {}⟩
  | rest => ⟨['['], rest, true, {}⟩

def openGroup : List Char → Piece
  | '?' :: input =>
    match angledName? input with
    | some (name, rest) => ⟨"(?P<".toList ++ name ++ ['>'], rest, false, {}⟩
    | none =>
      match flagGroup? input with
      | some (group, rest) =>
        if group.hasBody then ⟨group.header, rest, false, {}⟩
        else ⟨[], rest, false, flagsOf group.set⟩
      | none => ⟨['('], '?' :: input, false, {}⟩
  | input => ⟨['('], input, false, {}⟩

def piece (inClass : Bool) (c : Char) (rest : List Char) : Except DialectError Piece :=
  if c = '\\' then escape inClass rest
  else if inClass then
    if c = '[' then innerBracket rest else .ok ⟨[c], rest, c != ']', {}⟩
  else if c = '[' then .ok (openClass rest)
  else if c = '(' then .ok (openGroup rest)
  else .ok ⟨[c], rest, false, {}⟩

theorem length_dropWhile_le (p : Char → Bool) (input : List Char) :
    (input.dropWhile p).length ≤ input.length :=
  (List.dropWhile_sublist p).length_le

theorem length_angledName? {input name rest : List Char}
    (h : angledName? input = some (name, rest)) : rest.length < input.length := by
  unfold angledName? at h
  split at h
  · rename_i c tail
    split at h
    · split at h
      · rename_i more heq
        have := length_dropWhile_le isWord tail
        simp only [Option.some.injEq, Prod.mk.injEq] at h
        rw [heq] at this
        simp only [← h.2, List.length_cons] at *
        omega
      · simp at h
    · simp at h
  · simp at h

theorem length_clearedFlags (input : List Char) : (clearedFlags input).2.length ≤ input.length := by
  unfold clearedFlags
  split
  · rename_i rest
    have := length_dropWhile_le isFlag rest
    simp only [List.length_cons]
    omega
  · simp

theorem length_bodyMark? {input rest : List Char} {hasBody : Bool}
    (h : bodyMark? input = some (hasBody, rest)) : rest.length < input.length := by
  unfold bodyMark? at h
  split at h <;> simp_all

theorem length_flagGroup? {input rest : List Char} {group : FlagGroup}
    (h : flagGroup? input = some (group, rest)) : rest.length < input.length := by
  unfold flagGroup? at h
  simp only at h
  split at h
  · simp at h
  · obtain ⟨⟨hasBody, after⟩, mark, eq⟩ := Option.map_eq_some_iff.mp h
    have := length_bodyMark? mark
    have := length_clearedFlags (input.dropWhile isFlag)
    have := length_dropWhile_le isFlag input
    simp only [Prod.mk.injEq] at eq
    rw [← eq.2]
    omega

theorem length_negation (input : List Char) : (negation input).2.length ≤ input.length := by
  unfold negation
  split <;> simp

theorem length_className? {input name rest : List Char} {negated : Bool}
    (h : className? input = some (negated, name, rest)) : rest.length < input.length := by
  unfold className? at h
  split at h
  · rename_i tail
    simp only at h
    split at h
    · rename_i heq
      have := length_negation tail
      have inner := length_dropWhile_le isLowerLetter (negation tail).2
      rw [heq] at inner
      simp only [Option.some.injEq, Prod.mk.injEq] at h
      simp only [← h.2.2, List.length_cons] at *
      omega
    · simp at h
  · simp at h

theorem length_rest_le {inClass : Bool} {c : Char} {input : List Char} {p : Piece}
    (h : piece inClass c input = .ok p) : p.rest.length ≤ input.length := by
  unfold piece at h
  split at h
  · unfold escape at h
    split at h
    · simp at h
    · split at h
      · simp at h
      · split at h
        all_goals (repeat' split at h)
        all_goals first
          | (simp only [Except.ok.injEq, reduceCtorEq] at h; subst h; simp; done)
          | contradiction
          | (rename_i heq
             have := length_angledName? heq
             simp only [Except.ok.injEq] at h
             subst h
             simp only [List.length_cons]
             omega)
  · split at h
    · split at h
      · unfold innerBracket at h
        split at h
        · simp at h
        · rename_i heq
          have := length_className? heq
          split at h
          · simp only [Except.ok.injEq] at h
            subst h
            simp only
            omega
          · simp at h
        · simp only [Except.ok.injEq] at h
          subst h
          simp
      · simp only [Except.ok.injEq] at h
        subst h
        simp
    · split at h
      · simp only [Except.ok.injEq] at h
        subst h
        unfold openClass
        split <;> simp only [List.length_cons] <;> omega
      · split at h
        · simp only [Except.ok.injEq] at h
          subst h
          unfold openGroup
          split
          · split
            · rename_i heq
              have := length_angledName? heq
              simp only [List.length_cons]
              omega
            · split
              · rename_i heq
                have := length_flagGroup? heq
                split <;> (simp only [List.length_cons]; omega)
              · simp
          · simp
        · simp only [Except.ok.injEq] at h
          subst h
          simp

/-- Converts the input piece by piece, with the output so far reversed in front. -/
def convertOnto (out : List Char) (flags : Flags) (inClass : Bool) (input : List Char) :
    Except DialectError (List Char × Flags) :=
  match input with
  | [] => if inClass then .error .unterminatedClass else .ok (out.reverse, flags)
  | c :: rest =>
    match _h : piece inClass c rest with
    | .error e => .error e
    | .ok p => convertOnto (p.out.reverse ++ out) (flags.union p.flags) p.inClass p.rest
termination_by input.length
decreasing_by simpa using Nat.lt_succ_of_le (length_rest_le _h)

end Dialect

/-- The pattern in the dialect of the engine, with the flags that hold for all of it. -/
def convert (pattern : List Char) : Except DialectError (List Char × Flags) :=
  Dialect.convertOnto [] {} false pattern

end Polyglot.Regex
