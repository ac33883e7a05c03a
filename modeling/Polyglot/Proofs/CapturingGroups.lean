import Polyglot.Proofs.Conversions
import Polyglot.Proofs.PatternMarks

namespace Polyglot.Regex

open Dialect
open Polyglot.Text (after? after?_eq_some_iff)

/-- The notation of the language tables, and that of the search engine. -/
inductive Side where
  | tables
  | engine
  deriving DecidableEq, Repr

/-- What stands between a round bracket and the name of its group. -/
def Side.leads : Side → List (List Char)
  | tables => [['?', '<'], ['?', 'P', '<']]
  | engine => [['?', 'P', '<']]

/-- The name that a text starts with, up to its closing bracket. -/
def name? (text : List Char) : Option (List Char) :=
  match text.dropWhile (· != '>') with
  | [] => none
  | _ :: _ => (some (text.takeWhile (· != '>'))).filter isGroupName

/-- The group that a round bracket opens, if it captures: its name, if it has one. -/
def opened? (side : Side) (behind : List Char) : Option (Option (List Char)) :=
  if behind.head? = some '?' then
    (side.leads.filterMap fun lead => (after? lead behind).bind name?).head?.map some
  else some none

def Mark.opened? (side : Side) : Mark → Option (Option (List Char))
  | group behind => Regex.opened? side behind
  | escape _ | bracket | cutOff => none

/-- The capturing groups that are opened in a pattern, from some spot on. Classes are given by name in
the tables only. -/
def groupsFrom (side : Side) (spot : Spot) (pattern : List Char) : List (Option (List Char)) :=
  (marks (side == .tables) spot pattern).filterMap (Mark.opened? side)

def groups (side : Side) (pattern : List Char) : List (Option (List Char)) :=
  groupsFrom side .outside pattern

/-- A round bracket starts a group of flags without a body. -/
def Mark.SetsFlags : Mark → Prop
  | group behind =>
    ∃ flags : FlagGroup, flags.Proper ∧ flags.hasBody = false ∧ '?' :: flags.text <+: behind
  | escape _ | bracket | cutOff => False

/-- No round bracket starts a group of flags without a body. -/
def Flagless (inClass : Bool) (pattern : List Char) : Prop :=
  ∀ mark ∈ marks true (.between inClass) pattern, ¬ mark.SetsFlags

/-- A pattern whose groups of flags without a body all stand at its front. -/
inductive FlagsInFront : List Char → Prop where
  | flags {group : FlagGroup} {rest : List Char} (proper : group.Proper)
      (bodiless : group.hasBody = false) (others : FlagsInFront rest) :
      FlagsInFront ('(' :: '?' :: (group.text ++ rest))
  | rest {pattern : List Char} (flagless : Flagless false pattern) : FlagsInFront pattern

theorem Mark.setsFlags_iff {behind : List Char} :
    (Mark.group behind).SetsFlags ↔
      ((after? ['?'] behind).bind flagGroup?).any (fun found => !found.1.hasBody) = true := by
  simp only [Mark.SetsFlags, Option.any_eq_true, Option.bind_eq_some_iff, after?_eq_some_iff,
    flagGroup?_eq_some_iff, Prod.exists]
  constructor
  · rintro ⟨flags, proper, bodiless, rest, rfl⟩
    exact ⟨flags, rest, ⟨_, rfl, proper, rfl⟩, by simpa using bodiless⟩
  · rintro ⟨flags, rest, ⟨_, rfl, proper, rfl⟩, bodiless⟩
    exact ⟨flags, proper, by simpa using bodiless, rest, rfl⟩

instance : DecidablePred Mark.SetsFlags
  | .group _ => decidable_of_iff _ Mark.setsFlags_iff.symm
  | .escape _ | .bracket | .cutOff => isFalse not_false

instance (inClass : Bool) (pattern : List Char) : Decidable (Flagless inClass pattern) :=
  inferInstanceAs (Decidable (∀ mark ∈ marks true (.between inClass) pattern, ¬ mark.SetsFlags))

theorem isPassed_of_isGroupName {name : List Char} (h : isGroupName name = true) :
    ∀ c ∈ name, isPassed c = true :=
  fun c hc => isPassed_of_isWord (isWord_of_isGroupName h c hc)

theorem name?_eq_some_iff {text name : List Char} :
    name? text = some name ↔ isGroupName name = true ∧ name ++ ['>'] <+: text := by
  constructor
  · intro h
    unfold name? at h
    split at h
    · cases h
    · rename_i c rest hdrop
      obtain ⟨hsome, hname⟩ := Option.filter_eq_some_iff.mp h
      obtain rfl := Option.some.inj hsome
      obtain rfl : c = '>' := by
        have := List.head?_dropWhile_not (fun d => d != '>') text
        simpa [hdrop] using this
      refine ⟨hname, rest, ?_⟩
      rw [List.append_assoc, List.singleton_append, ← hdrop, List.takeWhile_append_dropWhile]
  · rintro ⟨hname, rest, rfl⟩
    have hrun : ∀ c ∈ name, (c != '>') = true := by
      intro c hc
      rw [bne_iff_ne]
      rintro rfl
      exact absurd (isWord_of_isGroupName hname _ hc) (by decide)
    simp [name?, List.append_assoc, List.takeWhile_append_of_pos hrun,
      List.dropWhile_append_of_pos hrun, Option.filter, hname]

/-- The text up to the first character that means something to a reader outside of classes. -/
def plainFront (text : List Char) : List Char := text.takeWhile isPlain

theorem plainFront_cons {c : Char} (h : isPlain c = true) (text : List Char) :
    plainFront (c :: text) = c :: plainFront text := by
  rw [plainFront, List.takeWhile_cons_of_pos h, plainFront]

theorem plainFront_stop {c : Char} (h : isPlain c = false) (text : List Char) :
    plainFront (c :: text) = [] := by
  simp [plainFront, h]

theorem prefix_plainFront_iff {run text : List Char} (h : ∀ c ∈ run, isPlain c = true) :
    run <+: plainFront text ↔ run <+: text := by
  constructor
  · exact fun hrun => hrun.trans (List.takeWhile_prefix isPlain)
  · rintro ⟨rest, rfl⟩
    rw [plainFront, List.takeWhile_append_of_pos h]
    exact List.prefix_append _ _

theorem name?_plainFront (text : List Char) : name? (plainFront text) = name? text := by
  refine Option.ext fun name => ?_
  rw [name?_eq_some_iff, name?_eq_some_iff]
  refine and_congr_right fun hname => prefix_plainFront_iff fun c hc => ?_
  rcases List.mem_append.mp hc with hc | hc
  · exact isPlain_of_isPassed (isPassed_of_isGroupName hname c hc)
  · rw [List.mem_singleton.mp hc]
    decide

theorem after?_plainFront {lead : List Char} (h : ∀ c ∈ lead, isPlain c = true) (text : List Char) :
    after? lead (plainFront text) = (after? lead text).map plainFront := by
  induction lead generalizing text with
  | nil => rfl
  | cons l lead ih =>
    rw [List.forall_mem_cons] at h
    cases text with
    | nil => rfl
    | cons c text =>
      by_cases hc : isPlain c = true
      · rw [plainFront_cons hc]
        by_cases hl : l = c
        · simp [after?, hl, ih h.2]
        · simp [after?, hl]
      · have hl : l ≠ c := fun hl => hc (hl ▸ h.1)
        rw [plainFront_stop (Bool.eq_false_iff.mpr hc)]
        simp [after?, hl]

theorem isPlain_of_mem_leads {side : Side} :
    ∀ lead ∈ side.leads, ∀ c ∈ lead, isPlain c = true := by
  cases side <;> simp [Side.leads, isPlain]

theorem opened?_plainFront (side : Side) (behind : List Char) :
    opened? side (plainFront behind) = opened? side behind := by
  have hhead : (plainFront behind).head? = some '?' ↔ behind.head? = some '?' := by
    cases behind with
    | nil => rfl
    | cons c behind =>
      by_cases hc : isPlain c = true
      · rw [plainFront_cons hc, List.head?_cons, List.head?_cons]
      · rw [plainFront_stop (Bool.eq_false_iff.mpr hc)]
        refine iff_of_false (by simp) fun he => hc ?_
        rw [Option.some.inj he]
        decide
  have hleads : ∀ lead ∈ side.leads,
      (after? lead (plainFront behind)).bind name? = (after? lead behind).bind name? := by
    intro lead hlead
    rw [after?_plainFront (isPlain_of_mem_leads lead hlead), Option.bind_map]
    exact congrArg _ (funext name?_plainFront)
  simp only [opened?, hhead, List.filterMap_congr hleads]

theorem mem_classNames_of_namedClass? {name members : List Char}
    (h : namedClass? name = some members) : String.ofList name ∈ classNames := by
  unfold namedClass? at h
  split at h <;> simp_all [classNames]

theorem isLowerLetter_of_mem_classNames :
    ∀ name ∈ classNames, name.toList ≠ [] ∧ ∀ c ∈ name.toList, isLowerLetter c = true := by
  simp [classNames, isLowerLetter]

theorem namesClass_of_namedClass? {name members rest : List Char}
    (h : namedClass? name = some members) :
    namesClass (':' :: (name ++ ':' :: ']' :: rest)) = true := by
  refine List.any_eq_true.mpr ⟨_, mem_classNames_of_namedClass? h, ?_⟩
  simp

theorem namesClass_of_unnamed {rest : List Char} (h : className? rest = none) :
    namesClass rest = false := by
  by_contra hnames
  obtain ⟨name, hmem, hlead⟩ := List.any_eq_true.mp (Bool.eq_true_of_not_eq_false hnames)
  have hlower := isLowerLetter_of_mem_classNames name hmem
  rw [Bool.or_eq_true, List.isPrefixOf_iff_prefix, List.isPrefixOf_iff_prefix] at hlead
  have hclass : ∃ negated more, className? rest = some (negated, name.toList, more) := by
    rcases hlead with ⟨more, rfl⟩ | ⟨more, rfl⟩
    · exact ⟨false, more, className?_eq_some_iff.mpr ⟨hlower, by simp⟩⟩
    · exact ⟨true, more, className?_eq_some_iff.mpr ⟨hlower, by simp⟩⟩
  obtain ⟨negated, more, hsome⟩ := hclass
  rw [hsome] at h
  cases h

theorem marks_className {name members : List Char} (h : namedClass? name = some members)
    (rest : List Char) :
    marks true .inClass ('[' :: ':' :: (name ++ ':' :: ']' :: rest)) =
      .bracket :: marks true .inClass rest := by
  have hlower := (isLowerLetter_of_mem_classNames _ (mem_classNames_of_namedClass? h)).2
  have hname : ∀ c ∈ ':' :: (name ++ [':']), c ≠ ']' := by
    rintro c hc rfl
    simp only [List.mem_cons, List.mem_append, List.not_mem_nil, or_false] at hc
    rcases hc with hc | hc | hc
    · exact absurd hc (by decide)
    · exact absurd (hlower ']' (by simpa using hc)) (by decide)
    · exact absurd hc (by decide)
  rw [marks_bracket, namesClass_of_namedClass? h, ← marks_name_run true hname]
  simp

theorem marks_members {name members : List Char} (h : namedClass? name = some members)
    (out : List Char) :
    ∃ written, marks false .inClass (members ++ out) = written ++ marks false .inClass out ∧
      written.filterMap (Mark.opened? .engine) = [] := by
  unfold namedClass? at h
  split at h
  all_goals first
    | obtain rfl := Option.some.inj h
      first
        | exact ⟨[], rfl, rfl⟩
        | exact ⟨[.escape _], rfl, rfl⟩
    | cases h

theorem head?_members {name members : List Char} (h : namedClass? name = some members)
    (out : List Char) : (members ++ out).head? ≠ some '^' ∧ (members ++ out).head? ≠ some ']' := by
  unfold namedClass? at h
  split at h <;> cases h <;> simp

theorem not_flagless {group : FlagGroup} {rest : List Char} (proper : group.Proper)
    (bodiless : group.hasBody = false) : ¬ Flagless false ('(' :: '?' :: (group.text ++ rest)) := by
  intro h
  exact h (.group ('?' :: (group.text ++ rest))) List.mem_cons_self ⟨group, proper, bodiless, rest, rfl⟩

theorem Flagless.of_plain {c : Char} {rest : List Char} (hc : isPlain c = true)
    (h : Flagless false (c :: rest)) : Flagless false rest := by
  intro mark hmem
  exact h mark ((marks_plain true hc rest).symm ▸ hmem)

theorem Dialect.Converts.plainFront_eq {inClass : Bool} {input out : List Char} {flags : Flags}
    (h : Converts inClass input out flags) (outside : inClass = false)
    (flagless : Flagless inClass input) : plainFront out = plainFront input := by
  induction h with
  | done => rfl
  | @step _ c rest _ _ _ front _ ih =>
    subst outside
    cases takes_piece front with
    | flags proper bodiless => exact absurd flagless (not_flagless proper bodiless)
    | plain other =>
      have hc : isPlain c = true := isPlain_iff.mpr other
      rw [List.singleton_append, plainFront_cons hc, plainFront_cons hc, ih rfl (flagless.of_plain hc)]
    | reference => simp [plainFront, isPlain]
    | lastLine => simp [plainFront, isPlain]
    | named => simp [plainFront, isPlain]
    | bodied => simp [plainFront, isPlain, FlagGroup.header]
    | _ => rfl

/-- What is written for the inside of a class starts as that does where it could negate or close. -/
theorem Dialect.Converts.head?_inside {input out : List Char} {flags : Flags}
    (h : Converts true input out flags) :
    (out.head? ≠ some '^' ∧ out.head? ≠ some ']') ∨ out.head? = input.head? := by
  cases h with
  | step front _ =>
    cases takes_piece front with
    | reference => exact .inl (by simp)
    | hexMember => exact .inl ⟨nofun, nofun⟩
    | escape => exact .inl (by simp)
    | className known => exact .inl (head?_members known _)
    | bracket => exact .inl (by simp)
    | close => exact .inr rfl
    | member => exact .inr rfl

theorem marks_around (named inClass : Bool) {name before behind : List Char}
    (h : isGroupName name = true) (hbefore : before.all isPassed = true)
    (hbehind : behind.all isPassed = true) (rest : List Char) :
    marks named (.between inClass) (before ++ (name ++ (behind ++ rest))) =
      marks named (.between inClass) rest := by
  rw [List.all_eq_true] at hbefore hbehind
  rw [marks_passed named inClass hbefore, marks_passed named inClass (isPassed_of_isGroupName h),
    marks_passed named inClass hbehind]

theorem marks_angled (named inClass : Bool) {name : List Char} (h : isGroupName name = true)
    (rest : List Char) :
    marks named (.between inClass) ('<' :: (name ++ '>' :: rest)) =
      marks named (.between inClass) rest := by
  change marks named _ (['<'] ++ (name ++ (['>'] ++ rest))) = _
  exact marks_around named inClass h (by decide) (by decide) rest

/-- Flags, and the characters that part them. -/
def isFlagText (c : Char) : Bool := isFlag c || c == 's' || c == '-' || c == ':' || c == ')'

theorem isPassed_of_isFlagText {c : Char} (h : isFlagText c = true) : isPassed c = true := by
  simp only [isFlagText, isFlag, Bool.or_eq_true, beq_iff_eq] at h
  rcases h with ((((((rfl | rfl) | rfl) | rfl) | rfl) | rfl) | rfl) <;> decide

theorem isFlagText_of_isFlag {c : Char} (h : isFlag c = true) : isFlagText c = true := by
  simp [isFlagText, h]

theorem isFlagText_engineFlag {c : Char} (h : isFlag c = true) : isFlagText (engineFlag c) = true := by
  unfold engineFlag
  split
  · decide
  · exact isFlagText_of_isFlag h

theorem Dialect.FlagGroup.text_ne_nil (group : FlagGroup) : group.text ≠ [] := by
  simp [FlagGroup.text]

theorem isFlagText_text {group : FlagGroup} (proper : group.Proper) :
    ∀ c ∈ group.text, isFlagText c = true := by
  intro c hc
  rw [FlagGroup.text, List.mem_append, List.mem_append, List.mem_singleton] at hc
  rcases hc with (hc | hc) | rfl
  · exact isFlagText_of_isFlag (proper.set c hc)
  · cases hoff : group.cleared with
    | none => simp [hoff, clearedText] at hc
    | some off =>
      rw [hoff, clearedText, List.mem_cons] at hc
      rcases hc with rfl | hc
      · decide
      · exact isFlagText_of_isFlag (proper.cleared c (by simpa [hoff] using hc))
  · unfold bodyMark
    split <;> decide

theorem header_eq {group : FlagGroup} (proper : group.Proper) :
    ∃ flags, group.header = '(' :: '?' :: flags ∧ flags ≠ [] ∧ ∀ c ∈ flags, isFlagText c = true := by
  have hset : ∀ c ∈ group.set.map engineFlag, isFlagText c = true := by
    simpa using fun c hc => isFlagText_engineFlag (proper.set c hc)
  have hcleared : ∀ c ∈ (group.cleared.getD []).map engineFlag, isFlagText c = true := by
    simpa using fun c hc => isFlagText_engineFlag (proper.cleared c hc)
  refine ⟨group.set.map engineFlag ++ (if (group.cleared.getD []).isEmpty then []
    else '-' :: (group.cleared.getD []).map engineFlag) ++ [':'], rfl, by simp, fun c hc => ?_⟩
  rw [List.mem_append, List.mem_append, List.mem_singleton] at hc
  rcases hc with (hc | hc) | rfl
  · exact hset c hc
  · split at hc
    · cases hc
    · rcases List.mem_cons.mp hc with rfl | hc
      · decide
      · exact hcleared c hc
  · decide

theorem opened?_flags (side : Side) {flags : List Char} (hne : flags ≠ [])
    (h : ∀ c ∈ flags, isFlagText c = true) (rest : List Char) :
    opened? side ('?' :: (flags ++ rest)) = none := by
  obtain ⟨c, more, rfl⟩ := List.exists_cons_of_ne_nil hne
  replace h := h c List.mem_cons_self
  have hname : c ≠ '<' := by rintro rfl; exact absurd h (by decide)
  have hlead : c ≠ 'P' := by rintro rfl; exact absurd h (by decide)
  cases side <;> simp [opened?, Side.leads, after?, hname.symm, hlead.symm]

theorem opened?_named {side : Side} {lead name : List Char} (hlead : lead ∈ side.leads)
    (h : isGroupName name = true) (rest : List Char) :
    opened? side (lead ++ (name ++ '>' :: rest)) = some (some name) := by
  have hname : name? (name ++ '>' :: rest) = some name :=
    name?_eq_some_iff.mpr ⟨h, rest, by simp⟩
  cases side with
  | tables =>
    obtain rfl | rfl : lead = ['?', '<'] ∨ lead = ['?', 'P', '<'] := by
      simpa [Side.leads] using hlead
    · simp [opened?, Side.leads, after?, hname]
    · simp [opened?, Side.leads, after?, hname]
  | engine =>
    obtain rfl : lead = ['?', 'P', '<'] := by simpa [Side.leads] using hlead
    simp [opened?, Side.leads, after?, hname]

theorem opened?_unnamed {behind : List Char}
    (h : ∀ name more, isGroupName name = true → behind ≠ '?' :: '<' :: (name ++ '>' :: more)) :
    opened? .tables behind = opened? .engine behind := by
  have hnone : (after? ['?', '<'] behind).bind name? = none := by
    refine Option.eq_none_iff_forall_ne_some.mpr fun name hsome => ?_
    obtain ⟨text, htext, hname⟩ := Option.bind_eq_some_iff.mp hsome
    obtain ⟨isName, more, rfl⟩ := name?_eq_some_iff.mp hname
    refine h name more isName ?_
    rw [after?_eq_some_iff.mp htext]
    simp
  simp only [opened?, Side.leads, List.filterMap_cons, hnone]

theorem marks_flags (named : Bool) {flags : List Char} (h : ∀ c ∈ flags, isFlagText c = true)
    (rest : List Char) :
    marks named .outside ('(' :: '?' :: (flags ++ rest)) =
      [.group ('?' :: (flags ++ rest))] ++ marks named .outside rest := by
  have hrun : ∀ c ∈ '?' :: flags, isPassed c = true :=
    List.forall_mem_cons.mpr ⟨by decide, fun c hc => isPassed_of_isFlagText (h c hc)⟩
  rw [marks_group]
  exact congrArg _ (marks_passed named false hrun rest)

theorem marks_named_written {name : List Char} (h : isGroupName name = true) (out : List Char) :
    marks false .outside ("(?P<".toList ++ name ++ ['>'] ++ out) =
      .group ('?' :: 'P' :: '<' :: (name ++ '>' :: out)) :: marks false .outside out := by
  have hout : "(?P<".toList ++ name ++ ['>'] ++ out =
      '(' :: (['?', 'P', '<'] ++ (name ++ (['>'] ++ out))) := by simp
  rw [hout, marks_group]
  exact congrArg _ (marks_around false false h (by decide) (by decide) out)

theorem marks_reference_written {name : List Char} (h : isGroupName name = true) (inClass : Bool)
    (out : List Char) :
    marks false (.between inClass) ("(?P=".toList ++ name ++ [')'] ++ out) =
      (if inClass then [] else [.group ('?' :: 'P' :: '=' :: (name ++ ')' :: out))]) ++
        marks false (.between inClass) out := by
  have hout : "(?P=".toList ++ name ++ [')'] ++ out =
      '(' :: (['?', 'P', '='] ++ (name ++ ([')'] ++ out))) := by simp
  rw [hout]
  cases inClass with
  | true =>
    have hopen : isMember '(' = true := by decide
    exact (marks_member false hopen _).trans (marks_around false true h (by decide) (by decide) out)
  | false => exact congrArg _ (marks_around false false h (by decide) (by decide) out)

theorem filterMap_group {behind written : List Char}
    (h : opened? .engine written = opened? .tables behind) :
    [Mark.group written].filterMap (Mark.opened? .engine) =
      [Mark.group behind].filterMap (Mark.opened? .tables) := by
  simp only [List.filterMap_cons, List.filterMap_nil, Mark.opened?, h]

theorem Dialect.Takes.groups {inClass : Bool} {input out : List Char} {p : Piece} {flags : Flags}
    (taken : Takes inClass input p) (others : Converts p.inClass p.rest out flags)
    (flagless : Flagless inClass input) :
    ∃ passed written,
      marks true (.between inClass) input = passed ++ marks true (.between p.inClass) p.rest ∧
      marks false (.between inClass) (p.out ++ out) =
        written ++ marks false (.between p.inClass) out ∧
      written.filterMap (Mark.opened? .engine) = passed.filterMap (Mark.opened? .tables) := by
  cases taken with
  | @reference inClass name rest isName =>
    refine ⟨[.escape ('k' :: '<' :: (name ++ '>' :: rest))], _, ?_,
      marks_reference_written isName inClass out, ?_⟩
    · rw [marks_escape, marks_angled true inClass isName]
      rfl
    · cases inClass <;> rfl
  | hex => exact ⟨[.escape _], [], rfl, rfl, rfl⟩
  | hexMember => exact ⟨[.escape _], [], rfl, rfl, rfl⟩
  | notHex => exact ⟨[.escape _], [], rfl, rfl, rfl⟩
  | textEnd => exact ⟨[.escape _], [.escape _], rfl, rfl, rfl⟩
  | lastLine => exact ⟨[.escape _], [.group _, .escape _, .escape _], rfl, rfl, rfl⟩
  | escape => exact ⟨[.escape _], [.escape _], marks_escape .., marks_escape .., rfl⟩
  | @className name members rest known =>
    obtain ⟨written, hwritten, hnone⟩ := marks_members known out
    exact ⟨[.bracket], written, marks_className known rest, hwritten, hnone⟩
  | bracket unnamed =>
    refine ⟨[.bracket], [.escape _], ?_, rfl, rfl⟩
    simp [Spot.between, marks_bracket, namesClass_of_unnamed unnamed]
  | close => exact ⟨[], [], rfl, rfl, rfl⟩
  | @member c rest other =>
    have hc : isMember c = true := isMember_iff.mpr other
    exact ⟨[], [], marks_member true hc _, marks_member false hc _, rfl⟩
  | opens next =>
    -- What is written first in a bracket must not be taken for the negation or the end of it.
    have hout : out.head? ≠ some '^' ∧ out.head? ≠ some ']' :=
      others.head?_inside.elim id fun he => by rwa [he]
    exact ⟨[], [], marks_opens true next, marks_opens false hout, rfl⟩
  | opensBracket => exact ⟨[], [], rfl, rfl, rfl⟩
  | opensNegated next =>
    have hout : out.head? ≠ some ']' := others.head?_inside.elim And.right fun he => by rwa [he]
    exact ⟨[], [], marks_opensNegated true next, marks_opensNegated false hout, rfl⟩
  | opensNegatedBracket => exact ⟨[], [], rfl, rfl, rfl⟩
  | @named name rest isName =>
    refine ⟨[.group ('?' :: '<' :: (name ++ '>' :: rest))], [.group _], ?_,
      marks_named_written isName out, filterMap_group ?_⟩
    · change _ :: marks true .outside (['?', '<'] ++ (name ++ (['>'] ++ rest))) = _
      exact congrArg _ (marks_around true false isName (by decide) (by decide) rest)
    · calc opened? .engine (['?', 'P', '<'] ++ (name ++ '>' :: out))
        _ = some (some name) := opened?_named (by simp [Side.leads]) isName out
        _ = opened? .tables (['?', '<'] ++ (name ++ '>' :: rest)) :=
          (opened?_named (by simp [Side.leads]) isName rest).symm
  | @bodied group rest proper hasBody =>
    obtain ⟨flags, hheader, hne, hflags⟩ := header_eq proper
    have htext := isFlagText_text proper
    refine ⟨[.group _], [.group ('?' :: (flags ++ out))], marks_flags true htext rest, ?_,
      filterMap_group ?_⟩
    · rw [hheader]
      exact marks_flags false hflags out
    · rw [opened?_flags _ hne hflags, opened?_flags _ group.text_ne_nil htext]
  -- Flags without a body would be put in front, and shift what is behind them.
  | flags proper bodiless => exact absurd flagless (not_flagless proper bodiless)
  | @group rest unnamed =>
    refine ⟨[.group rest], [.group out], rfl, rfl, filterMap_group ?_⟩
    have hsame : plainFront out = plainFront rest :=
      others.plainFront_eq rfl fun mark hmem => flagless mark (List.mem_cons_of_mem _ hmem)
    rw [← opened?_plainFront, hsame, opened?_plainFront, opened?_unnamed unnamed]
  | @plain c rest other =>
    have hc : isPlain c = true := isPlain_iff.mpr other
    exact ⟨[], [], marks_plain true hc _, marks_plain false hc _, rfl⟩

theorem groupsFrom_append (side : Side) {spot later : Spot} {passed : List Mark}
    {text rest : List Char}
    (h : marks (side == .tables) spot text = passed ++ marks (side == .tables) later rest) :
    groupsFrom side spot text =
      passed.filterMap (Mark.opened? side) ++ groupsFrom side later rest := by
  rw [groupsFrom, h, List.filterMap_append, groupsFrom]

theorem Dialect.Converts.groupsFrom_eq {inClass : Bool} {input out : List Char} {flags : Flags}
    (h : Converts inClass input out flags) (flagless : Flagless inClass input) :
    groupsFrom .engine (.between inClass) out = groupsFrom .tables (.between inClass) input := by
  induction h with
  | done => rfl
  | step front others ih =>
    obtain ⟨passed, written, hinput, hout, hsame⟩ := (takes_piece front).groups others flagless
    have hflagless : Flagless _ _ := fun mark hmem =>
      flagless mark (hinput ▸ List.mem_append_right passed hmem)
    rw [groupsFrom_append .engine hout, groupsFrom_append .tables hinput, hsame, ih hflagless]

theorem piece_flags {group : FlagGroup} (proper : group.Proper) (bodiless : group.hasBody = false)
    (rest : List Char) :
    piece false '(' ('?' :: (group.text ++ rest)) = .ok ⟨[], rest, false, flagsOf group.set⟩ := by
  have hangled : angledName? (group.text ++ rest) = none := by
    refine Option.eq_none_iff_forall_ne_some.mpr fun ⟨name, more⟩ hsome => ?_
    obtain ⟨c, others, htext⟩ := List.exists_cons_of_ne_nil group.text_ne_nil
    have hflag := isFlagText_text proper c (htext ▸ List.mem_cons_self)
    have hc := (angledName?_eq_some_iff.mp hsome).2
    rw [htext, List.cons_append] at hc
    rw [(List.cons.inj hc).1] at hflag
    exact absurd hflag (by decide)
  simp [piece, openGroup, hangled, flagGroup?_eq_some_iff.mpr ⟨proper, rfl⟩, bodiless]

/-- A conversion opens the capturing groups of its pattern, name by name and in their order. -/
theorem convert_groups {pattern out : List Char} {flags : Flags}
    (h : convert pattern = .ok (out, flags)) (front : FlagsInFront pattern) :
    groups .engine out = groups .tables pattern := by
  have hconverts := convert_eq_ok_iff.mp h
  clear h
  induction front generalizing flags with
  | rest flagless => exact hconverts.groupsFrom_eq flagless
  | @flags group rest proper bodiless _ ih =>
    cases hconverts with
    | step first others =>
      obtain rfl := Except.ok.inj ((piece_flags proper bodiless rest).symm.trans first)
      have htext : groups .tables ('(' :: '?' :: (group.text ++ rest)) = groups .tables rest := by
        have hmarks := marks_flags true (isFlagText_text proper) rest
        have hopened := opened?_flags .tables group.text_ne_nil (isFlagText_text proper) rest
        rw [groups, groupsFrom_append .tables hmarks]
        simp [Mark.opened?, hopened, groups]
      rw [htext]
      exact ih others

theorem convert_groups_mixed :
    convert "(?i)(a)(?<q>[[:alpha:](]+)\\k<q>".toList =
        .ok ("(a)(?P<q>[a-zA-Z(]+)(?P=q)".toList, ⟨true, false, false⟩) ∧
      groups .engine "(a)(?P<q>[a-zA-Z(]+)(?P=q)".toList =
        groups .tables "(?i)(a)(?<q>[[:alpha:](]+)\\k<q>".toList ∧
      groups .engine "(a)(?P<q>[a-zA-Z(]+)(?P=q)".toList = [none, some ['q']] := by
  have hconvert : convert "(?i)(a)(?<q>[[:alpha:](]+)\\k<q>".toList =
      .ok ("(a)(?P<q>[a-zA-Z(]+)(?P=q)".toList, ⟨true, false, false⟩) := by decide +kernel
  have proper : FlagGroup.Proper ⟨['i'], none, false⟩ := ⟨by simp [isFlag], by simp, .inl (by simp)⟩
  have hflags : FlagsInFront "(?i)(a)(?<q>[[:alpha:](]+)\\k<q>".toList :=
    .flags proper rfl (.rest (by decide +kernel))
  exact ⟨hconvert, convert_groups hconvert hflags, by decide +kernel⟩

end Polyglot.Regex
