import Polyglot.Proofs.Conversions
import Polyglot.Proofs.PatternMarks

namespace Polyglot.Regex

open Dialect
open Polyglot.Text (after? after?_eq_some_iff)

/-- The letters behind a backslash that differ. -/
def convertedEscapes : List Char := ['h', 'H', 'z', 'Z', 'k', 'G']

/-- What a reader can come across where both notations agree. -/
def Mark.Shared : Mark → Prop
  | escape [] => False
  | escape (c :: rest) =>
    c ∉ convertedEscapes ∧ ¬ ((c = 'p' ∨ c = 'P') ∧ rest.head? = some '\x7b')
  | group behind =>
    (∀ name, isGroupName name = true → ¬ '?' :: '<' :: name ++ ['>'] <+: behind) ∧
      ∀ flags : FlagGroup, flags.Proper → ¬ '?' :: flags.text <+: behind
  | bracket | cutOff => False

/-- What is left of a pattern, outside of classes or inside of one, holds nothing that differs. -/
def SharedFrom (inClass : Bool) (pattern : List Char) : Prop :=
  ∀ mark ∈ marks true (.between inClass) pattern, mark.Shared

def SharedSyntax (pattern : List Char) : Prop := SharedFrom false pattern

/-- Nothing is read behind a lead exactly where no text that is read stands there. -/
theorem bind_after?_eq_none_iff {α : Type} {read : List Char → Option (α × List Char)}
    {text : α → List Char} {Proper : α → Prop} {lead behind : List Char}
    (h : ∀ {input found rest},
      read input = some (found, rest) ↔ Proper found ∧ input = text found ++ rest) :
    (after? lead behind).bind read = none ↔
      ∀ found, Proper found → ¬ lead ++ text found <+: behind := by
  rw [Option.eq_none_iff_forall_ne_some]
  constructor
  · rintro hnone found proper ⟨rest, rfl⟩
    refine hnone (found, rest) (Option.bind_eq_some_iff.mpr ⟨text found ++ rest, ?_, ?_⟩)
    · rw [after?_eq_some_iff, List.append_assoc]
    · exact h.mpr ⟨proper, rfl⟩
  · rintro hnone ⟨found, rest⟩ hsome
    obtain ⟨input, hinput, hread⟩ := Option.bind_eq_some_iff.mp hsome
    obtain ⟨proper, rfl⟩ := h.mp hread
    refine hnone found proper ⟨rest, ?_⟩
    rw [after?_eq_some_iff.mp hinput, List.append_assoc]

theorem Mark.shared_group_iff {behind : List Char} :
    (Mark.group behind).Shared ↔ (after? ['?'] behind).bind angledName? = none ∧
      (after? ['?'] behind).bind flagGroup? = none := by
  have hangled : ∀ {input name rest}, angledName? input = some (name, rest) ↔
      isGroupName name = true ∧ input = '<' :: name ++ ['>'] ++ rest := by
    simp [angledName?_eq_some_iff]
  rw [bind_after?_eq_none_iff hangled, bind_after?_eq_none_iff flagGroup?_eq_some_iff]
  rfl

instance : DecidablePred Mark.Shared
  | .escape [] => isFalse not_false
  | .escape (c :: _) =>
    inferInstanceAs (Decidable (c ∉ convertedEscapes ∧ ¬ ((c = 'p' ∨ c = 'P') ∧ _)))
  | .group _ => decidable_of_iff _ Mark.shared_group_iff.symm
  | .bracket | .cutOff => isFalse not_false

instance (pattern : List Char) : Decidable (SharedSyntax pattern) :=
  inferInstanceAs (Decidable (∀ mark ∈ marks true .outside pattern, mark.Shared))

variable {inClass : Bool} {c : Char} {rest : List Char}

theorem SharedFrom.of_marks {later : Bool} {input text : List Char}
    (h : SharedFrom inClass input)
    (hmarks : marks true (.between inClass) input = marks true (.between later) text) :
    SharedFrom later text :=
  fun mark hmem => h mark (hmarks ▸ hmem)

theorem SharedFrom.cons_escape (h : SharedFrom inClass ('\\' :: c :: rest)) :
    (Mark.escape (c :: rest)).Shared ∧ SharedFrom inClass rest := by
  rw [SharedFrom, marks_escape, List.forall_mem_cons] at h
  exact h

theorem SharedFrom.cons_group (h : SharedFrom false ('(' :: rest)) :
    (Mark.group rest).Shared ∧ SharedFrom false rest :=
  List.forall_mem_cons.mp h

theorem not_sharedFrom_bracket : ¬ SharedFrom true ('[' :: rest) :=
  fun h => h .bracket List.mem_cons_self

theorem not_sharedFrom_escape (h : c ∈ convertedEscapes) : ¬ SharedFrom inClass ('\\' :: c :: rest) :=
  fun shared => shared.cons_escape.1.1 h

theorem Dialect.Takes.copies {input : List Char} {p : Piece} (taken : Takes inClass input p)
    (shared : SharedFrom inClass input) :
    input = p.out ++ p.rest ∧ p.flags = {} ∧ SharedFrom p.inClass p.rest := by
  cases taken with
  | reference => exact absurd shared (not_sharedFrom_escape (by decide))
  | hex => exact absurd shared (not_sharedFrom_escape (by decide))
  | hexMember => exact absurd shared (not_sharedFrom_escape (by decide))
  | notHex => exact absurd shared (not_sharedFrom_escape (by decide))
  | textEnd => exact absurd shared (not_sharedFrom_escape (by decide))
  | lastLine => exact absurd shared (not_sharedFrom_escape (by decide))
  | escape => exact ⟨rfl, rfl, shared.cons_escape.2⟩
  | className => exact absurd shared not_sharedFrom_bracket
  | bracket => exact absurd shared not_sharedFrom_bracket
  | close => exact ⟨rfl, rfl, shared.of_marks (marks_close true _)⟩
  | @member c rest other =>
    have hc : isMember c = true := isMember_iff.mpr other
    exact ⟨rfl, rfl, shared.of_marks (marks_member true hc rest)⟩
  | opens next => exact ⟨rfl, rfl, shared.of_marks (marks_opens true next)⟩
  | opensBracket => exact ⟨rfl, rfl, shared.of_marks (marks_opensBracket true _)⟩
  | opensNegated next => exact ⟨rfl, rfl, shared.of_marks (marks_opensNegated true next)⟩
  | opensNegatedBracket => exact ⟨rfl, rfl, shared.of_marks (marks_opensNegatedBracket true _)⟩
  | @named name rest isName =>
    have hlead : '?' :: '<' :: name ++ ['>'] <+: '?' :: '<' :: (name ++ '>' :: rest) :=
      ⟨rest, by simp⟩
    exact absurd hlead (shared.cons_group.1.1 name isName)
  | @bodied group rest proper =>
    have hlead : '?' :: group.text <+: '?' :: (group.text ++ rest) := ⟨rest, rfl⟩
    exact absurd hlead (shared.cons_group.1.2 group proper)
  | @flags group rest proper =>
    have hlead : '?' :: group.text <+: '?' :: (group.text ++ rest) := ⟨rest, rfl⟩
    exact absurd hlead (shared.cons_group.1.2 group proper)
  | group => exact ⟨rfl, rfl, shared.cons_group.2⟩
  | @plain c rest other =>
    have hc : isPlain c = true := isPlain_iff.mpr other
    exact ⟨rfl, rfl, shared.of_marks (marks_plain true hc rest)⟩

theorem escape_of_shared (shared : (Mark.escape rest).Shared) :
    ∃ p, escape inClass rest = .ok p := by
  cases rest with
  | nil => exact shared.elim
  | cons c rest =>
    obtain ⟨hletter, hproperty⟩ := shared
    rw [escape, if_neg (by simpa using hproperty)]
    · exact ⟨_, rfl⟩
    all_goals
      rintro rfl
      exact hletter (by decide)

theorem piece_of_shared (shared : SharedFrom inClass (c :: rest)) :
    ∃ p, piece inClass c rest = .ok p := by
  unfold piece
  split
  · rename_i hc
    subst hc
    exact escape_of_shared (shared (.escape rest) (by cases inClass <;> exact List.mem_cons_self))
  · split
    · rename_i hinside
      subst hinside
      split
      · rename_i hc
        subst hc
        exact absurd shared not_sharedFrom_bracket
      · exact ⟨_, rfl⟩
    · split
      · exact ⟨_, rfl⟩
      · split
        · exact ⟨_, rfl⟩
        · exact ⟨_, rfl⟩

theorem converts_self {pattern : List Char} (shared : SharedFrom inClass pattern) :
    Converts inClass pattern pattern {} := by
  induction hlength : pattern.length using Nat.strong_induction_on generalizing inClass pattern with
  | _ length ih =>
    cases pattern with
    | nil =>
      cases inClass with
      | true => exact (shared .cutOff List.mem_cons_self).elim
      | false => exact .done
    | cons c rest =>
      obtain ⟨p, front⟩ := piece_of_shared shared
      obtain ⟨hcopy, hflags, hshared⟩ := (takes_piece front).copies shared
      have hlt : p.rest.length < length := by
        have := length_rest_le front
        rw [List.length_cons] at hlength
        omega
      have hconverts := Converts.step front (ih _ hlt hshared rfl)
      rwa [← hcopy, hflags, union_none] at hconverts

/-- Shared syntax is converted to itself, and sets no flag. -/
theorem convert_shared {pattern : List Char} (shared : SharedSyntax pattern) :
    convert pattern = .ok (pattern, {}) :=
  convert_eq_ok_iff.mpr (converts_self shared)

theorem convert_shared_mixed :
    convert "(?:^|[^])\\w-]|(?<=a)(b)\\1(?=\\p)|(?s:.))$".toList =
      .ok ("(?:^|[^])\\w-]|(?<=a)(b)\\1(?=\\p)|(?s:.))$".toList, {}) :=
  convert_shared (by decide +kernel)

end Polyglot.Regex
