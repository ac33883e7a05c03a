import Mathlib
import Polyglot.Regex.Dialect

namespace Polyglot.Regex

open Polyglot.Text (isWord)

/-- What a group can be called: an ASCII letter or an underscore, and characters of words. -/
def isGroupName : List Char → Bool
  | [] => false
  | c :: rest => (c.isAlpha || c == '_') && rest.all isWord

theorem isWord_of_first {c : Char} (h : (c.isAlpha || c == '_') = true) : isWord c = true := by
  rw [Bool.or_eq_true] at h
  rcases h with h | h
  · have halnum : c.isAlphanum = true := by simp [Char.isAlphanum, h]
    simp [isWord, Text.isAlphanumeric_of_isAlphanum halnum]
  · simp [isWord, h]

theorem isWord_of_isGroupName {name : List Char} (h : isGroupName name = true) :
    ∀ c ∈ name, isWord c = true := by
  cases name with
  | nil => simp
  | cons c rest =>
    rw [isGroupName, Bool.and_eq_true] at h
    exact List.forall_mem_cons.mpr ⟨isWord_of_first h.1, List.all_eq_true.mp h.2⟩

namespace Dialect

theorem angledName?_eq_some_iff {input name rest : List Char} :
    angledName? input = some (name, rest) ↔
      isGroupName name = true ∧ input = '<' :: (name ++ '>' :: rest) := by
  constructor
  · intro h
    unfold angledName? at h
    split at h
    · rename_i c more
      split at h
      · rename_i hfirst
        split at h
        · rename_i after hdrop
          obtain ⟨rfl, rfl⟩ := Prod.mk.inj (Option.some.inj h)
          refine ⟨?_, ?_⟩
          · rw [isGroupName, hfirst, Bool.true_and, List.all_eq_true]
            exact fun d hd => List.mem_takeWhile_imp hd
          · rw [← hdrop, List.cons_append, List.takeWhile_append_dropWhile]
        · cases h
      · cases h
    · cases h
  · rintro ⟨hname, rfl⟩
    cases name with
    | nil => cases hname
    | cons c others =>
      rw [isGroupName, Bool.and_eq_true] at hname
      have hword : ∀ d ∈ others, isWord d = true := List.all_eq_true.mp hname.2
      have hstop : isWord '>' = false := by decide
      simp only [List.cons_append, angledName?, if_pos hname.1, List.dropWhile_append_of_pos hword,
        List.takeWhile_append_of_pos hword]
      simp [hstop]

/-- The text of the flags that are cleared. -/
def clearedText : Option (List Char) → List Char
  | some letters => '-' :: letters
  | none => []

/-- What ends the flags of a group. -/
def bodyMark (hasBody : Bool) : Char := if hasBody then ':' else ')'

/-- The text of a group of flags behind its question mark. -/
def FlagGroup.text (group : FlagGroup) : List Char :=
  group.set ++ clearedText group.cleared ++ [bodyMark group.hasBody]

/-- A group that names flags and no other letters, or clears flags. -/
structure FlagGroup.Proper (group : FlagGroup) : Prop where
  set : ∀ c ∈ group.set, isFlag c = true
  cleared : ∀ c ∈ group.cleared.getD [], isFlag c = true
  some : group.set ≠ [] ∨ group.cleared ≠ none

theorem bodyMark?_eq_some_iff {input rest : List Char} {hasBody : Bool} :
    bodyMark? input = some (hasBody, rest) ↔ input = bodyMark hasBody :: rest := by
  unfold bodyMark?
  split
  · cases hasBody <;> simp [bodyMark]
  · cases hasBody <;> simp [bodyMark]
  · rename_i hclose hopen
    cases hasBody with
    | true => simpa [bodyMark] using hopen rest
    | false => simpa [bodyMark] using hclose rest

theorem clearedFlags_text (input : List Char) :
    clearedText (clearedFlags input).1 ++ (clearedFlags input).2 = input ∧
      ∀ c ∈ (clearedFlags input).1.getD [], isFlag c = true := by
  unfold clearedFlags
  split
  · exact ⟨by simp [clearedText], fun c hc => List.mem_takeWhile_imp hc⟩
  · exact ⟨rfl, by simp⟩

theorem isFlag_bodyMark (hasBody : Bool) : isFlag (bodyMark hasBody) = false := by
  cases hasBody <;> decide

theorem clearedFlags_append {cleared : Option (List Char)} (hasBody : Bool) (rest : List Char)
    (letters : ∀ c ∈ cleared.getD [], isFlag c = true) :
    clearedFlags (clearedText cleared ++ bodyMark hasBody :: rest) =
      (cleared, bodyMark hasBody :: rest) := by
  cases cleared with
  | none => cases hasBody <;> rfl
  | some off =>
    have hoff : ∀ c ∈ off, isFlag c = true := by simpa using letters
    simp [clearedText, clearedFlags, List.takeWhile_append_of_pos hoff,
      List.dropWhile_append_of_pos hoff, isFlag_bodyMark]

theorem isSome_flags_iff {set : List Char} {cleared : Option (List Char)} :
    ¬ (set.isEmpty && cleared.isNone) = true ↔ set ≠ [] ∨ cleared ≠ none := by
  rw [Bool.and_eq_true, List.isEmpty_iff, Option.isNone_iff_eq_none]
  tauto

theorem flagGroup?_eq_some_iff {input rest : List Char} {group : FlagGroup} :
    flagGroup? input = some (group, rest) ↔ group.Proper ∧ input = group.text ++ rest := by
  constructor
  · intro h
    simp only [flagGroup?] at h
    split at h
    · cases h
    · rename_i hsome
      obtain ⟨⟨hasBody, after⟩, hmark, heq⟩ := Option.map_eq_some_iff.mp h
      obtain ⟨rfl, rfl⟩ := Prod.mk.inj heq
      obtain ⟨htext, hletters⟩ := clearedFlags_text (input.dropWhile isFlag)
      refine ⟨⟨fun c hc => List.mem_takeWhile_imp hc, hletters, ?_⟩, ?_⟩
      · exact isSome_flags_iff.mp hsome
      · calc input = input.takeWhile isFlag ++ input.dropWhile isFlag :=
              List.takeWhile_append_dropWhile.symm
          _ = input.takeWhile isFlag ++ (clearedText (clearedFlags (input.dropWhile isFlag)).1 ++
                bodyMark hasBody :: after) := by rw [← bodyMark?_eq_some_iff.mp hmark, htext]
          _ = _ := by simp [FlagGroup.text]
  · rintro ⟨proper, rfl⟩
    obtain ⟨set, cleared, hasBody⟩ := group
    have hset : ∀ c ∈ set, isFlag c = true := proper.set
    have hstop : (clearedText cleared ++ bodyMark hasBody :: rest).takeWhile isFlag = [] ∧
        (clearedText cleared ++ bodyMark hasBody :: rest).dropWhile isFlag =
          clearedText cleared ++ bodyMark hasBody :: rest := by
      cases cleared with
      | none => simp [clearedText, isFlag_bodyMark]
      | some off => simp [clearedText, isFlag]
    have hsome := isSome_flags_iff.mpr proper.some
    have htext : FlagGroup.text ⟨set, cleared, hasBody⟩ ++ rest =
        set ++ (clearedText cleared ++ bodyMark hasBody :: rest) := by simp [FlagGroup.text]
    rw [htext, flagGroup?, List.takeWhile_append_of_pos hset, List.dropWhile_append_of_pos hset]
    simp only [hstop, List.append_nil, clearedFlags_append hasBody rest proper.cleared, if_neg hsome,
      bodyMark?_eq_some_iff.mpr rfl, Option.map_some]

theorem negation_text (input : List Char) :
    (if (negation input).1 then ['^'] else []) ++ (negation input).2 = input := by
  unfold negation
  split <;> rfl

theorem className?_eq_some_iff {input name rest : List Char} {negated : Bool} :
    className? input = some (negated, name, rest) ↔
      (name ≠ [] ∧ ∀ c ∈ name, isLowerLetter c = true) ∧
        input = ':' :: ((if negated then ['^'] else []) ++ name ++ ':' :: ']' :: rest) := by
  constructor
  · intro h
    unfold className? at h
    split at h
    · rename_i more
      simp only at h
      split at h
      · rename_i c others after htake hdrop
        simp only [Option.some.injEq, Prod.mk.injEq] at h
        obtain ⟨rfl, rfl, rfl⟩ := h
        have hletters : ∀ d ∈ c :: others, isLowerLetter d = true := by
          rw [← htake]
          exact fun d hd => List.mem_takeWhile_imp hd
        refine ⟨⟨List.cons_ne_nil _ _, hletters⟩, ?_⟩
        rw [List.append_assoc, ← hdrop, ← htake, List.takeWhile_append_dropWhile, negation_text]
      · cases h
    · cases h
  · rintro ⟨⟨hne, hletters⟩, rfl⟩
    have hnegation : negation ((if negated then ['^'] else []) ++ name ++ ':' :: ']' :: rest) =
        (negated, name ++ ':' :: ']' :: rest) := by
      cases negated with
      | true => rfl
      | false =>
        cases name with
        | nil => exact absurd rfl hne
        | cons c others =>
          have hc : c ≠ '^' := by
            rintro rfl
            simp [isLowerLetter] at hletters
          simp [negation, hc]
    have hstop : isLowerLetter ':' = false := by decide
    cases name with
    | nil => exact absurd rfl hne
    | cons c others =>
      simp only [className?, hnegation, List.takeWhile_append_of_pos hletters,
        List.dropWhile_append_of_pos hletters]
      simp [hstop]

/-- The piece that is taken from the front of a text, outside of classes or inside of one. -/
inductive Takes : Bool → List Char → Piece → Prop where
  | reference {inClass : Bool} {name rest : List Char} (isName : isGroupName name = true) :
      Takes inClass ('\\' :: 'k' :: '<' :: (name ++ '>' :: rest))
        ⟨"(?P=".toList ++ name ++ [')'], rest, inClass, {}⟩
  | hex {rest : List Char} :
      Takes false ('\\' :: 'h' :: rest) ⟨'[' :: hexMembers ++ [']'], rest, false, {}⟩
  | hexMember {rest : List Char} : Takes true ('\\' :: 'h' :: rest) ⟨hexMembers, rest, true, {}⟩
  | notHex {rest : List Char} :
      Takes false ('\\' :: 'H' :: rest) ⟨'[' :: '^' :: hexMembers ++ [']'], rest, false, {}⟩
  | textEnd {rest : List Char} : Takes false ('\\' :: 'z' :: rest) ⟨['\\', 'Z'], rest, false, {}⟩
  | lastLine {rest : List Char} :
      Takes false ('\\' :: 'Z' :: rest) ⟨"(?=\\n?\\Z)".toList, rest, false, {}⟩
  | escape {inClass : Bool} {c : Char} {rest : List Char} :
      Takes inClass ('\\' :: c :: rest) ⟨['\\', c], rest, inClass, {}⟩
  | className {name members rest : List Char} (known : namedClass? name = some members) :
      Takes true ('[' :: ':' :: (name ++ ':' :: ']' :: rest)) ⟨members, rest, true, {}⟩
  | bracket {rest : List Char} (unnamed : className? rest = none) :
      Takes true ('[' :: rest) ⟨['\\', '['], rest, true, {}⟩
  | close {rest : List Char} : Takes true (']' :: rest) ⟨[']'], rest, false, {}⟩
  | member {c : Char} {rest : List Char} (other : c ≠ '\\' ∧ c ≠ '[' ∧ c ≠ ']') :
      Takes true (c :: rest) ⟨[c], rest, true, {}⟩
  | opens {rest : List Char} (next : rest.head? ≠ some '^' ∧ rest.head? ≠ some ']') :
      Takes false ('[' :: rest) ⟨['['], rest, true, {}⟩
  | opensBracket {rest : List Char} : Takes false ('[' :: ']' :: rest) ⟨['[', ']'], rest, true, {}⟩
  | opensNegated {rest : List Char} (next : rest.head? ≠ some ']') :
      Takes false ('[' :: '^' :: rest) ⟨['[', '^'], rest, true, {}⟩
  | opensNegatedBracket {rest : List Char} :
      Takes false ('[' :: '^' :: ']' :: rest) ⟨['[', '^', ']'], rest, true, {}⟩
  | named {name rest : List Char} (isName : isGroupName name = true) :
      Takes false ('(' :: '?' :: '<' :: (name ++ '>' :: rest))
        ⟨"(?P<".toList ++ name ++ ['>'], rest, false, {}⟩
  | bodied {group : FlagGroup} {rest : List Char} (proper : group.Proper)
      (hasBody : group.hasBody = true) :
      Takes false ('(' :: '?' :: (group.text ++ rest)) ⟨group.header, rest, false, {}⟩
  | flags {group : FlagGroup} {rest : List Char} (proper : group.Proper)
      (hasBody : group.hasBody = false) :
      Takes false ('(' :: '?' :: (group.text ++ rest)) ⟨[], rest, false, flagsOf group.set⟩
  | group {rest : List Char}
      (unnamed : ∀ name more, isGroupName name = true → rest ≠ '?' :: '<' :: (name ++ '>' :: more)) :
      Takes false ('(' :: rest) ⟨['('], rest, false, {}⟩
  | plain {c : Char} {rest : List Char} (other : c ≠ '\\' ∧ c ≠ '[' ∧ c ≠ '(') :
      Takes false (c :: rest) ⟨[c], rest, false, {}⟩

theorem takes_escape {inClass : Bool} {input : List Char} {p : Piece}
    (h : escape inClass input = .ok p) : Takes inClass ('\\' :: input) p := by
  unfold escape at h
  split at h
  · cases h
  · rename_i c rest
    split at h
    · cases h
    · split at h
      · cases h
      · split at h
        · rename_i name more hname
          obtain ⟨isName, rfl⟩ := angledName?_eq_some_iff.mp hname
          cases h
          exact .reference isName
        · cases h
      · cases h
        cases inClass with
        | true => exact .hexMember
        | false => exact .hex
      · cases inClass with
        | true => cases h
        | false =>
          cases h
          exact .notHex
      · cases h
        cases inClass with
        | true => exact .escape
        | false => exact .textEnd
      · cases h
        cases inClass with
        | true => exact .escape
        | false => exact .lastLine
      · cases h
        exact .escape

theorem takes_innerBracket {rest : List Char} {p : Piece} (h : innerBracket rest = .ok p) :
    Takes true ('[' :: rest) p := by
  unfold innerBracket at h
  split at h
  · cases h
  · rename_i name more hname
    split at h
    · rename_i members known
      cases h
      rw [(className?_eq_some_iff.mp hname).2]
      exact .className known
    · cases h
  · rename_i hname
    cases h
    exact .bracket hname

theorem takes_openClass (rest : List Char) : Takes false ('[' :: rest) (openClass rest) := by
  unfold openClass
  split
  · exact .opensNegatedBracket
  · rename_i more hnext
    exact .opensNegated fun he => by
      obtain ⟨tail, rfl⟩ := List.head?_eq_some_iff.mp he
      exact hnext tail rfl
  · exact .opensBracket
  · rename_i _ hnegated hbracket
    refine .opens ⟨fun he => ?_, fun he => ?_⟩ <;> obtain ⟨tail, rfl⟩ := List.head?_eq_some_iff.mp he
    · exact hnegated tail rfl
    · exact hbracket tail rfl

theorem takes_openGroup (rest : List Char) : Takes false ('(' :: rest) (openGroup rest) := by
  unfold openGroup
  split
  · rename_i input
    split
    · rename_i name more hname
      obtain ⟨isName, rfl⟩ := angledName?_eq_some_iff.mp hname
      exact .named isName
    · rename_i hname
      split
      · rename_i group more hgroup
        obtain ⟨proper, rfl⟩ := flagGroup?_eq_some_iff.mp hgroup
        cases hbody : group.hasBody with
        | true => exact .bodied proper hbody
        | false => exact .flags proper hbody
      · refine .group fun name more isName he => ?_
        have := angledName?_eq_some_iff.mpr ⟨isName, (List.cons.inj he).2⟩
        rw [this] at hname
        cases hname
  · rename_i hnext
    exact .group fun name more _ he => hnext _ he

/-- What the front of a text is converted to. -/
theorem takes_piece {inClass : Bool} {c : Char} {rest : List Char} {p : Piece}
    (h : piece inClass c rest = .ok p) : Takes inClass (c :: rest) p := by
  unfold piece at h
  split at h
  · rename_i hc
    exact hc ▸ takes_escape h
  · rename_i hescape
    cases inClass with
    | true =>
      rw [if_pos rfl] at h
      split at h
      · rename_i hc
        exact hc ▸ takes_innerBracket h
      · rename_i hbracket
        cases h
        by_cases hclose : c = ']'
        · subst hclose
          exact .close
        · rw [bne_iff_ne.mpr hclose]
          exact .member ⟨hescape, hbracket, hclose⟩
    | false =>
      rw [if_neg (by simp)] at h
      split at h
      · rename_i hc
        cases h
        exact hc ▸ takes_openClass rest
      · rename_i hbracket
        split at h
        · rename_i hc
          cases h
          exact hc ▸ takes_openGroup rest
        · rename_i hgroup
          cases h
          exact .plain ⟨hescape, hbracket, hgroup⟩

/-- A text is converted piece by piece up to its end, which is outside of classes. -/
inductive Converts : Bool → List Char → List Char → Flags → Prop where
  | done : Converts false [] [] {}
  | step {inClass : Bool} {c : Char} {rest out : List Char} {p : Piece} {flags : Flags}
      (front : piece inClass c rest = .ok p) (others : Converts p.inClass p.rest out flags) :
      Converts inClass (c :: rest) (p.out ++ out) (p.flags.union flags)

theorem union_assoc (a b c : Flags) : (a.union b).union c = a.union (b.union c) := by
  simp [Flags.union, Bool.or_assoc]

@[simp] theorem union_none (flags : Flags) : flags.union {} = flags := by simp [Flags.union]

theorem converts_of_convertOnto {before input converted : List Char} {flags all : Flags}
    {inClass : Bool} (h : convertOnto before flags inClass input = .ok (converted, all)) :
    ∃ out more, Converts inClass input out more ∧ converted = before.reverse ++ out ∧
      all = flags.union more := by
  fun_induction convertOnto before flags inClass input with
  | case1 => cases h
  | case2 before flags inClass outside =>
    cases h
    obtain rfl := Bool.not_eq_true _ ▸ outside
    exact ⟨[], {}, .done, by simp, by simp⟩
  | case3 => cases h
  | case4 before flags inClass c rest p front ih =>
    obtain ⟨out, more, hconverts, rfl, rfl⟩ := ih h
    exact ⟨_, _, .step front hconverts, by simp, union_assoc _ _ _⟩

theorem Converts.convertOnto_eq {inClass : Bool} {input out : List Char} {more : Flags}
    (h : Converts inClass input out more) (before : List Char) (flags : Flags) :
    convertOnto before flags inClass input = .ok (before.reverse ++ out, flags.union more) := by
  induction h generalizing before flags with
  | done => simp [convertOnto]
  | step front _ ih =>
    rw [convertOnto]
    split
    · rename_i he
      rw [front] at he
      cases he
    · rename_i p he
      obtain rfl := Except.ok.inj (front.symm.trans he)
      rw [ih, union_assoc]
      simp

end Dialect

theorem convert_eq_ok_iff {pattern out : List Char} {flags : Flags} :
    convert pattern = .ok (out, flags) ↔ Dialect.Converts false pattern out flags := by
  constructor
  · intro h
    obtain ⟨out, more, hconverts, rfl, rfl⟩ := Dialect.converts_of_convertOnto h
    simpa [Flags.union] using hconverts
  · intro h
    rw [convert, h.convertOnto_eq]
    simp [Flags.union]

end Polyglot.Regex
