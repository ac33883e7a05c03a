import Mathlib
import Polyglot.Catalog.NamePatterns

/-!
The calls in a script, and the bodies that are read from it.

A script is text with calls in it. A body is read from behind the opening of a call to the next slash with
a bracket behind it, on the same line. Behind a body without flags that is its own end. Behind a body with
flags it is not, so the reading goes on over everything that follows on the line, to the end of a later
call without flags, and only where there is none on the line the call is passed over. So a script gives the
bodies of its calls without flags as long as no call with flags stands before one of them on a line. Two
kinds of bodies make an exception: one that begins with a bracket ends a reading at its own opening, and
one that ends in the name of a call opens another reading behind itself.
-/
namespace Polyglot.Catalog

/-- A call with a pattern: a body between slashes and flags behind it. -/
structure MatchCall where
  body : List Char
  flags : List Char
  deriving DecidableEq

namespace MatchCall

/-- What is behind the opening of a call. -/
def behind (call : MatchCall) : List Char := call.body ++ '/' :: (call.flags ++ [')'])

theorem behind_ne_nil (call : MatchCall) : call.behind ≠ [] := by simp [behind]

theorem getLast?_behind (call : MatchCall) : call.behind.getLast? = some ')' := by
  rw [behind, ← List.cons_append, ← List.append_assoc, List.getLast?_concat]

def text (call : MatchCall) : List Char := callOpening ++ call.behind

/-- A body has characters, on one line, no slash without a backslash before it and no backslash at its end,
and flags are letters. -/
structure WellFormed (call : MatchCall) : Prop where
  body_ne_nil : call.body ≠ []
  oneLine : '\n' ∉ call.body
  ends : call.body.getLast? ≠ some '\\'
  slashes : ∀ front back, call.body = front ++ '/' :: back → front.getLast? = some '\\'
  flags : ∀ c ∈ call.flags, c.isAlpha = true

theorem wellFormed_iff {call : MatchCall} : call.WellFormed ↔
    (call.body ≠ [] ∧ '\n' ∉ call.body ∧ call.body.getLast? ≠ some '\\') ∧
      (∀ i < call.body.length, call.body[i]? = some '/' → (call.body.take i).getLast? = some '\\') ∧
      call.flags.all Char.isAlpha = true := by
  rw [List.all_eq_true]
  constructor
  · rintro ⟨hne, line, ends, slashes, flags⟩
    refine ⟨⟨hne, line, ends⟩, fun i hi h => ?_, flags⟩
    refine slashes _ (call.body.drop (i + 1)) ?_
    rw [← (List.getElem?_eq_some_iff.mp h).2, List.cons_getElem_drop_succ, List.take_append_drop]
  · rintro ⟨⟨hne, line, ends⟩, slashes, flags⟩
    refine ⟨hne, line, ends, fun front back h => ?_, flags⟩
    have hslash := slashes front.length (by simp [h]) (by simp [h])
    rwa [h, List.take_left] at hslash

instance : DecidablePred MatchCall.WellFormed := fun _ => decidable_of_iff _ wellFormed_iff.symm

end MatchCall

/-- Text without an opening and without an end of a call. -/
def IsPlain (text : List Char) : Prop := ¬ callOpening <:+: text ∧ ¬ ['/', ')'] <:+: text

instance : DecidablePred IsPlain := fun text =>
  inferInstanceAs (Decidable (¬ callOpening <:+: text ∧ ¬ ['/', ')'] <:+: text))

/-- Text with calls in it, each with the text behind it. -/
structure Script where
  lead : List Char
  calls : List (MatchCall × List Char)

/-- The text of calls, each with what is behind it. -/
def textOf (calls : List (MatchCall × List Char)) : List Char :=
  calls.flatMap fun entry => entry.1.text ++ entry.2

def AllWellFormed (calls : List (MatchCall × List Char)) : Prop :=
  ∀ entry ∈ calls, entry.1.WellFormed ∧ IsPlain entry.2

instance : DecidablePred AllWellFormed := fun calls =>
  inferInstanceAs (Decidable (∀ entry ∈ calls, entry.1.WellFormed ∧ IsPlain entry.2))

namespace Script

def text (script : Script) : List Char := script.lead ++ textOf script.calls

structure WellFormed (script : Script) : Prop where
  lead : IsPlain script.lead
  calls : AllWellFormed script.calls

instance : DecidablePred Script.WellFormed := fun script =>
  decidable_of_iff (IsPlain script.lead ∧ AllWellFormed script.calls)
    ⟨fun h => ⟨h.1, h.2⟩, fun h => ⟨h.1, h.2⟩⟩

end Script

/-- The opening of a call without the slash. -/
def callName : List Char := "name.match(".toList

theorem callOpening_eq : callOpening = callName ++ ['/'] := rfl

theorem length_callName : callName.length = 11 := rfl

theorem getLast?_of_suffix {word text : List Char} (h : word <:+ text) (hne : word ≠ []) :
    text.getLast? = word.getLast? := by
  obtain ⟨front, rfl⟩ := h
  exact List.getLast?_append_of_ne_nil _ hne

theorem getLast?_of_opening {text : List Char} (h : callOpening <:+ text) : text.getLast? = some '/' := by
  rw [getLast?_of_suffix h (by decide)]
  rfl

theorem getLast?_of_callName {text : List Char} (h : callName <:+ text) : text.getLast? = some '(' := by
  rw [getLast?_of_suffix h (by decide)]
  rfl

theorem getLast?_of_opening_append {front text : List Char} (h : callOpening <:+ front ++ text)
    (hne : text ≠ []) : text.getLast? = some '/' := by
  rw [← List.getLast?_append_of_ne_nil front hne]
  exact getLast?_of_opening h

/-- A word at the end of a text reaches into its front only if it has the last character of the front. -/
theorem suffix_append_iff {word front text : List Char}
    (h : ∀ c, front.getLast? = some c → c ∉ word) : word <:+ front ++ text ↔ word <:+ text := by
  refine ⟨fun hs => ?_, fun hs => hs.trans (List.suffix_append front text)⟩
  rcases List.suffix_or_suffix_of_suffix hs (List.suffix_append front text) with hw | ⟨lead, rfl⟩
  · exact hw
  · obtain ⟨more, he⟩ := hs
    rw [← List.append_assoc, List.append_left_inj] at he
    rcases List.eq_nil_or_concat lead with rfl | ⟨start, c, rfl⟩
    · exact List.suffix_rfl
    · rw [List.concat_eq_append] at he h
      exact absurd (by simp) (h c (by simp [← he]))

/-- In plain text no opening ends, if the text stands at the start of a script or behind a call. -/
theorem IsPlain.not_opening {front text lead behind : List Char} (plain : IsPlain text)
    (apart : ∀ c, front.getLast? = some c → c = ')') (h : text = lead ++ behind) :
    ¬ callOpening <:+ front ++ lead := by
  rw [suffix_append_iff]
  · rintro ⟨start, rfl⟩
    exact plain.1 ⟨start, behind, h.symm⟩
  · intro c hc
    rw [apart c hc]
    decide

theorem IsPlain.no_end {text lead tail rest : List Char} (plain : IsPlain text)
    (h : text = lead ++ '/' :: tail) (hrest : rest.head? ≠ some ')') :
    (tail ++ rest).head? ≠ some ')' := by
  cases tail with
  | nil => exact hrest
  | cons c tail =>
    rintro he
    obtain rfl : c = ')' := by simpa using he
    exact plain.2 ⟨lead, tail, by simp [h]⟩

namespace MatchCall

variable {call : MatchCall}

theorem WellFormed.not_opening (wf : call.WellFormed) {front lead tail : List Char}
    (h : call.body = lead ++ tail) (hne : lead ≠ []) : ¬ callOpening <:+ front ++ lead := by
  intro ho
  obtain ⟨start, rfl⟩ := List.getLast?_eq_some_iff.mp (getLast?_of_opening_append ho hne)
  have hback := wf.slashes start tail (by rw [h]; simp)
  -- A slash in a body is behind a backslash, and the slash of an opening is behind a bracket.
  rw [callOpening_eq, ← List.append_assoc, List.suffix_append_self_iff] at ho
  have hbracket := getLast?_of_callName ho
  have hstart : start ≠ [] := by
    rintro rfl
    cases hback
  rw [List.getLast?_append_of_ne_nil _ hstart, hback] at hbracket
  exact absurd hbracket (by decide)

theorem opening_iff {front : List Char} :
    callOpening <:+ front ++ callOpening ++ call.body ++ ['/'] ↔ callName <:+ call.body := by
  rw [callOpening_eq, List.suffix_append_self_iff, suffix_append_iff]
  intro c hc
  rw [List.getLast?_append_of_ne_nil _ (by simp)] at hc
  obtain rfl : c = '/' := by simpa using hc.symm
  decide

theorem WellFormed.flag_ne (wf : call.WellFormed) {c : Char} (h : c ∈ call.flags) :
    c ≠ '/' ∧ c ≠ ')' ∧ c ≠ '\n' := by
  have hc := wf.flags c h
  refine ⟨?_, ?_, ?_⟩ <;>
  · rintro rfl
    exact absurd hc (by decide)

theorem WellFormed.slash_notMem (wf : call.WellFormed) : '/' ∉ call.flags ++ [')'] := by
  simp only [List.mem_append, List.mem_singleton, not_or]
  exact ⟨fun hm => (wf.flag_ne hm).1 rfl, by decide⟩

theorem WellFormed.newline_notMem (wf : call.WellFormed) : '\n' ∉ call.flags ++ [')'] := by
  simp only [List.mem_append, List.mem_singleton, not_or]
  exact ⟨fun hm => (wf.flag_ne hm).2.2 rfl, by decide⟩

end MatchCall

/-- Whether a text is passed over while a body is read, which has some characters by then: it is on one
line, and no slash in it ends the body. -/
def PassedOver (taken text rest : List Char) : Prop :=
  '\n' ∉ text ∧ ∀ lead tail, text = lead ++ '/' :: tail → (tail ++ rest).head? = some ')' →
    taken ++ lead = [] ∨ (taken ++ lead).getLast? = some '\\'

theorem callBody?_passedOver {taken text rest : List Char} (h : PassedOver taken text rest) :
    callBody? taken.reverse (text ++ rest) = callBody? (taken ++ text).reverse rest := by
  induction text generalizing taken with
  | nil => simp
  | cons c text ih =>
    obtain ⟨line, ends⟩ := h
    have hstop : ¬ (c = '/' ∧ (text ++ rest).head? = some ')' ∧ taken.reverse ≠ [] ∧
        taken.reverse.head? ≠ some '\\') := by
      rintro ⟨rfl, hbracket, hne, hback⟩
      rcases ends [] text rfl hbracket with h | h
      · exact hne (by simpa using h)
      · exact hback (by simpa using h)
    have hnext : PassedOver (taken ++ [c]) text rest := by
      refine ⟨fun hm => line (List.mem_cons_of_mem _ hm), fun lead tail ht hb => ?_⟩
      rw [List.append_assoc]
      exact ends (c :: lead) tail (by rw [ht]; rfl) hb
    rw [List.cons_append, callBody?, if_neg hstop, if_neg fun hc => line (by simp [hc])]
    simpa using ih hnext

theorem callBody?_newline (taken rest : List Char) : callBody? taken.reverse ('\n' :: rest) = none := by
  rw [callBody?, if_neg (by simp), if_pos rfl]

theorem callBody?_end {taken : List Char} (hne : taken ≠ []) (hback : taken.getLast? ≠ some '\\')
    (rest : List Char) : callBody? taken.reverse ('/' :: ')' :: rest) =
      some (taken.reverse, '/' :: ')' :: rest) := by
  rw [callBody?, if_pos]
  exact ⟨rfl, rfl, by simpa using hne, by simpa using hback⟩

theorem IsPlain.passedOver {text : List Char} (plain : IsPlain text) (line : '\n' ∉ text)
    (taken : List Char) {rest : List Char} (hrest : rest.head? ≠ some ')') :
    PassedOver taken text rest :=
  ⟨line, fun _ _ h hb => absurd hb (plain.no_end h hrest)⟩

theorem passedOver_of_slashless {text : List Char} (line : '\n' ∉ text) (slash : '/' ∉ text)
    (taken rest : List Char) : PassedOver taken text rest := by
  refine ⟨line, fun lead tail h => absurd ?_ slash⟩
  simp [h]

namespace MatchCall

variable {call : MatchCall}

theorem WellFormed.body_passedOver (wf : call.WellFormed) (taken rest : List Char) :
    PassedOver taken call.body rest := by
  refine ⟨wf.oneLine, fun lead tail h _ => .inr ?_⟩
  have hback := wf.slashes lead tail h
  have hne : lead ≠ [] := by
    rintro rfl
    cases hback
  rw [List.getLast?_append_of_ne_nil _ hne, hback]

theorem WellFormed.flags_passedOver (wf : call.WellFormed) (flagged : call.flags ≠ [])
    (taken rest : List Char) : PassedOver taken ('/' :: (call.flags ++ [')'])) rest := by
  refine ⟨?_, fun lead tail h hb => ?_⟩
  · rw [List.mem_cons, not_or]
    exact ⟨by decide, wf.newline_notMem⟩
  · exfalso
    cases lead with
    | nil =>
      obtain ⟨-, rfl⟩ := List.cons.inj h
      obtain ⟨flag, flags, hf⟩ := List.exists_cons_of_ne_nil flagged
      obtain rfl : flag = ')' := by simpa [hf] using hb
      exact (wf.flag_ne (hf ▸ List.mem_cons_self)).2.1 rfl
    | cons c lead =>
      refine wf.slash_notMem ?_
      rw [(List.cons.inj h).2]
      simp

end MatchCall

/-- In a piece of a script nothing is read: behind an opening in it there is no body. -/
def NothingRead (front piece rest : List Char) : Prop :=
  ∀ lead c tail, piece = lead ++ c :: tail → callOpening <:+ front ++ lead →
    callBody? [] (c :: (tail ++ rest)) = none

theorem isPrefixOf_iff {front : List Char} :
    callOpening.reverse.isPrefixOf front.reverse = true ↔ callOpening <:+ front := by
  rw [List.isPrefixOf_iff_prefix, List.reverse_prefix]

theorem callBodies_pass {front : List Char} {c : Char} {rest : List Char}
    (h : callOpening <:+ front → callBody? [] (c :: rest) = none) :
    callBodies front.reverse (c :: rest) = callBodies (front ++ [c]).reverse rest := by
  have hnone : (if callOpening.reverse.isPrefixOf front.reverse then callBody? [] (c :: rest) else none) =
      none := by
    split
    · next ho => exact h (isPrefixOf_iff.mp ho)
    · rfl
  rw [callBodies, hnone]
  simp

theorem callBodies_found {front input found tail : List Char} (ho : callOpening <:+ front)
    (h : callBody? [] input = some (found.reverse, tail)) :
    callBodies front.reverse input = found :: callBodies (front ++ found).reverse tail := by
  cases input with
  | nil => simp [callBody?] at h
  | cons c rest =>
    rw [callBodies, if_pos (isPrefixOf_iff.mpr ho), h]
    simp

theorem callBodies_nothingRead {front piece rest : List Char} (h : NothingRead front piece rest) :
    callBodies front.reverse (piece ++ rest) = callBodies (front ++ piece).reverse rest := by
  induction piece generalizing front with
  | nil => simp
  | cons c piece ih =>
    have hnext : NothingRead (front ++ [c]) piece rest := by
      intro lead d tail hp ho
      rw [List.append_assoc] at ho
      exact h (c :: lead) d tail (by rw [hp]; rfl) ho
    rw [List.cons_append, callBodies_pass fun ho => h [] c piece rfl (by simpa using ho), ih hnext]
    simp

theorem IsPlain.nothingRead {front text : List Char} (plain : IsPlain text)
    (apart : ∀ c, front.getLast? = some c → c = ')') (rest : List Char) : NothingRead front text rest :=
  fun _ _ _ h ho => absurd ho (plain.not_opening apart h)

/-- Nothing is read in a piece without an opening in it if there is no body from its start on. -/
theorem nothingRead_of_missed {front piece rest : List Char} (missed : callBody? [] (piece ++ rest) = none)
    (inner : ∀ lead tail, piece = lead ++ tail → lead ≠ [] → ¬ callOpening <:+ front ++ lead) :
    NothingRead front piece rest := by
  intro lead c tail h ho
  by_cases hne : lead = []
  · subst hne
    rwa [h] at missed
  · exact absurd ho (inner lead _ h hne)

theorem not_opening_of_slashless {front piece lead tail : List Char} (hpiece : '/' ∉ piece)
    (h : piece = lead ++ tail) (hne : lead ≠ []) : ¬ callOpening <:+ front ++ lead := by
  intro ho
  have hslash := List.mem_of_getLast? (getLast?_of_opening_append ho hne)
  exact hpiece (h ▸ List.mem_append_left _ hslash)

/-- The characters read so far, behind a text: a reading is over at the end of the line. -/
def carried (text : List Char) (reading : Option (List Char)) : Option (List Char) :=
  if '\n' ∈ text then none else reading.map (· ++ text)

namespace MatchCall

/-- What is being read behind a call without flags. Where its body ends in the name of a call, the slash
behind it makes another opening of it. -/
def left (call : MatchCall) : Option (List Char) := if callName <:+ call.body then some [')'] else none

/-- What a call does to a reading that comes to it: its opening ends the reading if the body begins with a
bracket, and is read too otherwise. -/
def met (call : MatchCall) : Option (List Char) → List (List Char) × List Char
  | none => ([], [])
  | some chars =>
    if call.body.head? = some ')' then ([chars ++ callName], []) else ([], chars ++ callOpening)

end MatchCall

/-- The bodies that are read from calls. -/
def taken : Option (List Char) → List (MatchCall × List Char) → List (List Char)
  | _, [] => []
  | reading, (call, text) :: rest =>
    (call.met reading).1 ++
      if call.flags = [] then
        ((call.met reading).2 ++ call.body) :: taken (carried text call.left) rest
      else taken (carried text (some ((call.met reading).2 ++ call.behind))) rest

/-- Whether a reading that goes on over the text and the calls behind it comes to an end. -/
def ComesToEnd (text : List Char) : List (MatchCall × List Char) → Prop
  | [] => False
  | (call, next) :: rest =>
    '\n' ∉ text ∧ (call.body.head? = some ')' ∨ call.flags = [] ∨ ComesToEnd next rest)

def decideComesToEnd (text : List Char) : (calls : List (MatchCall × List Char)) →
    Decidable (ComesToEnd text calls)
  | [] => inferInstanceAs (Decidable False)
  | (call, next) :: rest =>
    have := decideComesToEnd next rest
    inferInstanceAs (Decidable ('\n' ∉ text ∧
      (call.body.head? = some ')' ∨ call.flags = [] ∨ ComesToEnd next rest)))

instance (text : List Char) : DecidablePred (ComesToEnd text) := decideComesToEnd text

theorem taken_not_comesToEnd {text : List Char} {calls : List (MatchCall × List Char)}
    (h : ¬ ComesToEnd text calls) (reading : Option (List Char)) :
    taken (carried text reading) calls = taken none calls := by
  induction calls generalizing text reading with
  | nil => rfl
  | cons entry rest ih =>
    obtain ⟨call, next⟩ := entry
    by_cases line : '\n' ∈ text
    · rw [carried, if_pos line]
    · rw [carried, if_neg line]
      cases reading with
      | none => rfl
      | some chars =>
        simp only [ComesToEnd, line, not_false_eq_true, true_and, not_or] at h
        obtain ⟨hhead, hflags, hnext⟩ := h
        simp only [taken, Option.map_some, MatchCall.met, if_neg hhead, if_neg hflags, ih hnext]

theorem head?_textOf_ne {calls : List (MatchCall × List Char)} : (textOf calls).head? ≠ some ')' := by
  cases calls with
  | nil => simp [textOf]
  | cons entry rest =>
    have hn : (textOf (entry :: rest)).head? = some 'n' := rfl
    rw [hn]
    decide

theorem textOf_cons (call : MatchCall) (text : List Char) (rest : List (MatchCall × List Char)) :
    textOf ((call, text) :: rest) =
      callName ++ '/' :: (call.behind ++ (text ++ textOf rest)) := by
  simp [textOf, MatchCall.text, callOpening_eq]

theorem callBody?_text {text rest : List Char} (plain : IsPlain text) (line : '\n' ∉ text)
    (hrest : rest.head? ≠ some ')') (lead : List Char) :
    callBody? lead.reverse (text ++ rest) = callBody? (lead ++ text).reverse rest :=
  callBody?_passedOver (plain.passedOver line lead hrest)

theorem callBody?_line {text : List Char} (plain : IsPlain text) (line : '\n' ∈ text)
    (lead rest : List Char) : callBody? lead.reverse (text ++ rest) = none := by
  obtain ⟨front, back, rfl, hfront⟩ := List.eq_append_cons_of_mem line
  have hplain : IsPlain front :=
    ⟨fun h => plain.1 (h.trans (List.infix_append' [] front _)),
      fun h => plain.2 (h.trans (List.infix_append' [] front _))⟩
  rw [List.append_assoc, callBody?_text hplain hfront (by simp)]
  exact callBody?_newline _ _

/-- A reading that comes to the opening of a call goes on over it and the body, if that does not begin with
a bracket. -/
theorem callBody?_call {call : MatchCall} (wf : call.WellFormed) (hhead : call.body.head? ≠ some ')')
    (lead rest : List Char) :
    callBody? lead.reverse (callName ++ '/' :: (call.body ++ rest)) =
      callBody? (lead ++ callOpening ++ call.body).reverse rest := by
  have hslash : PassedOver (lead ++ callName) ['/'] (call.body ++ rest) := by
    refine ⟨by decide, fun front tail h hb => absurd hb ?_⟩
    obtain rfl : tail = [] := by
      have := congrArg List.length h
      simp only [List.length_cons, List.length_append, List.length_nil] at this
      exact List.eq_nil_of_length_eq_zero (by omega)
    rwa [List.nil_append, List.head?_append_of_ne_nil _ wf.body_ne_nil]
  rw [callBody?_passedOver (passedOver_of_slashless (by decide) (by decide) _ _), ← List.singleton_append,
    callBody?_passedOver hslash, callBody?_passedOver (wf.body_passedOver _ _)]
  simp [callOpening_eq]

theorem callBody?_flagged {call : MatchCall} (wf : call.WellFormed) (flagged : call.flags ≠ [])
    (lead rest : List Char) :
    callBody? (lead ++ call.body).reverse ('/' :: (call.flags ++ [')']) ++ rest) =
      callBody? (lead ++ call.behind).reverse rest := by
  rw [callBody?_passedOver (wf.flags_passedOver flagged _ _), MatchCall.behind, List.append_assoc]

theorem callBody?_unflagged {call : MatchCall} (wf : call.WellFormed) (unflagged : call.flags = [])
    (rest : List Char) :
    callBody? [] (call.behind ++ rest) = some (call.body.reverse, '/' :: ')' :: rest) := by
  rw [← List.reverse_nil, MatchCall.behind, unflagged, List.append_assoc,
    callBody?_passedOver (wf.body_passedOver [] _)]
  exact callBody?_end wf.body_ne_nil wf.ends rest

theorem callBody?_behind {call : MatchCall} (wf : call.WellFormed) (flagged : call.flags ≠ [])
    (rest : List Char) :
    callBody? [] (call.behind ++ rest) = callBody? call.behind.reverse rest := by
  conv_lhs => rw [← List.reverse_nil, MatchCall.behind, List.append_assoc,
    callBody?_passedOver (wf.body_passedOver [] _)]
  exact callBody?_flagged wf flagged [] rest

theorem callBody?_not_comesToEnd {text : List Char} {calls : List (MatchCall × List Char)}
    (wf : AllWellFormed calls) (plain : IsPlain text) (h : ¬ ComesToEnd text calls) (lead : List Char) :
    callBody? lead.reverse (text ++ textOf calls) = none := by
  by_cases line : '\n' ∈ text
  · exact callBody?_line plain line lead _
  rw [callBody?_text plain line head?_textOf_ne]
  induction calls generalizing text lead with
  | nil => simp [textOf, callBody?]
  | cons entry rest ih =>
    obtain ⟨call, next⟩ := entry
    obtain ⟨wfCall, plainNext⟩ := wf _ List.mem_cons_self
    simp only [ComesToEnd, line, not_false_eq_true, true_and, not_or] at h
    obtain ⟨hhead, hflags, hnext⟩ := h
    rw [textOf_cons, MatchCall.behind, List.append_assoc, callBody?_call wfCall hhead,
      callBody?_flagged wfCall hflags]
    by_cases lineNext : '\n' ∈ next
    · exact callBody?_line plainNext lineNext _ _
    · rw [callBody?_text plainNext lineNext head?_textOf_ne]
      exact ih (fun e he => wf e (List.mem_cons_of_mem _ he)) plainNext hnext _ lineNext

/-- What is read from the text in front of calls. -/
def ReadFromText (calls : List (MatchCall × List Char)) : Prop :=
  ∀ ⦃text front : List Char⦄, IsPlain text → (∀ c, front.getLast? = some c → c = ')') →
    callBodies front.reverse (text ++ textOf calls) = taken none calls

/-- What is read where a body is being read that goes on over the text in front of calls. -/
def ReadInBody (calls : List (MatchCall × List Char)) : Prop :=
  ∀ ⦃text lead : List Char⦄, IsPlain text → lead ≠ [] → ComesToEnd text calls →
    ∃ found tail, callBody? lead.reverse (text ++ textOf calls) = some (found.reverse, tail) ∧
      ∀ front, found :: callBodies (front ++ found).reverse tail = taken (carried text (some lead)) calls

/-- What is read behind the body of a call without flags. -/
def ReadBehindBody (calls : List (MatchCall × List Char)) : Prop :=
  ∀ ⦃call : MatchCall⦄ ⦃text : List Char⦄, call.WellFormed → IsPlain text → ∀ front,
    callBodies (front ++ callOpening ++ call.body).reverse ('/' :: ')' :: (text ++ textOf calls)) =
      taken (carried text call.left) calls

theorem not_opening_of_callName {front : List Char} (h : callName <:+ front) : ¬ callOpening <:+ front := by
  intro ho
  have hlast := getLast?_of_opening ho
  rw [getLast?_of_callName h] at hlast
  exact absurd hlast (by decide)

theorem readBehindBody {calls : List (MatchCall × List Char)} (wf : AllWellFormed calls)
    (fromText : ReadFromText calls) (inBody : ReadInBody calls) : ReadBehindBody calls := by
  intro call text wfCall plain front
  have hslash : ¬ callOpening <:+ front ++ callOpening ++ call.body :=
    wfCall.not_opening (List.append_nil _).symm wfCall.body_ne_nil
  rw [callBodies_pass fun ho => absurd ho hslash]
  -- What is read behind the slash begins with the bracket of the call.
  have hread : callBody? [] (')' :: (text ++ textOf calls)) =
      callBody? [')'].reverse (text ++ textOf calls) := by
    rw [callBody?, if_neg (by simp), if_neg (by decide)]
    rfl
  have hbehind : (callOpening <:+ front ++ callOpening ++ call.body ++ ['/'] →
        callBody? [] (')' :: (text ++ textOf calls)) = none) →
      taken (carried text call.left) calls = taken none calls →
      callBodies (front ++ callOpening ++ call.body ++ ['/']).reverse (')' :: (text ++ textOf calls)) =
        taken (carried text call.left) calls := by
    intro hpass htaken
    rw [callBodies_pass hpass, fromText plain (by simp), htaken]
  by_cases hname : callName <:+ call.body
  · by_cases hend : ComesToEnd text calls
    · have hne : [')'] ≠ [] := by simp
      obtain ⟨found, tail, hfound, hrest⟩ := inBody plain hne hend
      rw [callBodies_found (MatchCall.opening_iff.mpr hname) (hread.trans hfound), hrest,
        MatchCall.left, if_pos hname]
    · refine hbehind (fun _ => ?_) (taken_not_comesToEnd hend _)
      rw [hread]
      exact callBody?_not_comesToEnd wf plain hend _
  · refine hbehind (fun ho => absurd (MatchCall.opening_iff.mp ho) hname) ?_
    rw [MatchCall.left, if_neg hname, carried]
    simp

theorem callBodies_missed {calls : List (MatchCall × List Char)} (wf : AllWellFormed calls)
    {call : MatchCall} {text front : List Char} (wfCall : call.WellFormed) (plain : IsPlain text)
    (flagged : call.flags ≠ []) (hend : ¬ ComesToEnd text calls) :
    callBodies (front ++ callOpening).reverse (call.behind ++ (text ++ textOf calls)) =
      callBodies (front ++ callOpening ++ call.behind).reverse (text ++ textOf calls) := by
  have hmissed (lead : List Char) : callBody? lead.reverse (text ++ textOf calls) = none :=
    callBody?_not_comesToEnd wf plain hend lead
  have hbody : NothingRead (front ++ callOpening) call.body
      ('/' :: (call.flags ++ [')']) ++ (text ++ textOf calls)) := by
    refine nothingRead_of_missed ?_ fun lead tail h hne => wfCall.not_opening h hne
    rw [← List.append_assoc]
    exact (callBody?_behind wfCall flagged _).trans (hmissed _)
  have hslash : ¬ callOpening <:+ front ++ callOpening ++ call.body :=
    wfCall.not_opening (List.append_nil _).symm wfCall.body_ne_nil
  have hflags : NothingRead (front ++ callOpening ++ call.body ++ ['/']) (call.flags ++ [')'])
      (text ++ textOf calls) := by
    refine nothingRead_of_missed ?_ fun lead tail h hne =>
      not_opening_of_slashless wfCall.slash_notMem h hne
    have hpassed := passedOver_of_slashless wfCall.newline_notMem wfCall.slash_notMem []
      (text ++ textOf calls)
    exact (callBody?_passedOver hpassed).trans (hmissed _)
  rw [MatchCall.behind, List.append_assoc, callBodies_nothingRead hbody, List.cons_append,
    callBodies_pass fun ho => absurd ho hslash, callBodies_nothingRead hflags]
  simp

theorem callBodies_call {calls : List (MatchCall × List Char)} (wf : AllWellFormed calls)
    (fromText : ReadFromText calls) (inBody : ReadInBody calls) (behindBody : ReadBehindBody calls)
    {call : MatchCall} {text front : List Char} (wfCall : call.WellFormed) (plain : IsPlain text)
    (hname : callName <:+ front) :
    callBodies front.reverse ('/' :: (call.behind ++ (text ++ textOf calls))) =
      taken none ((call, text) :: calls) := by
  rw [callBodies_pass fun ho => absurd ho (not_opening_of_callName hname)]
  obtain ⟨front, rfl⟩ := hname
  rw [List.append_assoc, ← callOpening_eq]
  have hopening : callOpening <:+ front ++ callOpening := List.suffix_append _ _
  by_cases flagged : call.flags = []
  · rw [callBodies_found hopening (callBody?_unflagged wfCall flagged _), behindBody wfCall plain]
    simp [taken, MatchCall.met, flagged]
  by_cases hend : ComesToEnd text calls
  · obtain ⟨found, tail, hfound, hrest⟩ := inBody plain call.behind_ne_nil hend
    rw [callBodies_found hopening ((callBody?_behind wfCall flagged _).trans hfound), hrest]
    simp [taken, MatchCall.met, flagged]
  · rw [callBodies_missed wf wfCall plain flagged hend,
      fromText plain (by simp [call.getLast?_behind])]
    simp [taken, MatchCall.met, flagged, taken_not_comesToEnd hend]

theorem readFromText_cons {calls : List (MatchCall × List Char)} {call : MatchCall} {next : List Char}
    (fromCall : ∀ {front : List Char}, callName <:+ front →
      callBodies front.reverse ('/' :: (call.behind ++ (next ++ textOf calls))) =
        taken none ((call, next) :: calls)) : ReadFromText ((call, next) :: calls) := by
  intro text front plain apart
  have hname : NothingRead (front ++ text) callName ('/' :: (call.behind ++ (next ++ textOf calls))) := by
    intro lead c tail h ho
    by_cases hne : lead = []
    · rw [hne, List.append_nil] at ho
      exact absurd ho (plain.not_opening apart (List.append_nil _).symm)
    · exact absurd ho (not_opening_of_slashless (by decide) h hne)
  rw [callBodies_nothingRead (plain.nothingRead apart _), textOf_cons, callBodies_nothingRead hname]
  exact fromCall (List.suffix_append _ _)

theorem readInBody_cons {calls : List (MatchCall × List Char)} (inBody : ReadInBody calls)
    (behindBody : ReadBehindBody calls) {call : MatchCall} {next : List Char} (wfCall : call.WellFormed)
    (plainNext : IsPlain next)
    (fromCall : ∀ {front : List Char}, callName <:+ front →
      callBodies front.reverse ('/' :: (call.behind ++ (next ++ textOf calls))) =
        taken none ((call, next) :: calls)) : ReadInBody ((call, next) :: calls) := by
  intro text lead plain hlead hend
  obtain ⟨line, hend⟩ := hend
  rw [callBody?_text plain line head?_textOf_ne, carried, if_neg line, Option.map_some]
  obtain ⟨chars, hchars, hne⟩ : ∃ chars, lead ++ text = chars ∧ chars ≠ [] :=
    ⟨_, rfl, by simp [hlead]⟩
  rw [hchars, textOf_cons]
  by_cases hhead : call.body.head? = some ')'
  · refine ⟨chars ++ callName, '/' :: (call.behind ++ (next ++ textOf calls)), ?_, fun front => ?_⟩
    · obtain ⟨body, hbody⟩ : ∃ body, call.behind = ')' :: body := by
        rw [MatchCall.behind, ← List.cons_head?_tail hhead]
        exact ⟨_, rfl⟩
      have hlast : (chars ++ callName).getLast? = some '(' := getLast?_of_callName (List.suffix_append _ _)
      rw [callBody?_passedOver (passedOver_of_slashless (by decide) (by decide) _ _), hbody]
      exact callBody?_end (by simp [hne]) (by rw [hlast]; decide) _
    · rw [fromCall (by rw [← List.append_assoc]; exact List.suffix_append _ _)]
      simp [taken, MatchCall.met, hhead]
  rw [MatchCall.behind, List.append_assoc, callBody?_call wfCall hhead]
  by_cases flagged : call.flags = []
  · refine ⟨chars ++ callOpening ++ call.body, '/' :: ')' :: (next ++ textOf calls), ?_, fun front => ?_⟩
    · have hlast := List.getLast?_append_of_ne_nil (chars ++ callOpening) wfCall.body_ne_nil
      rw [flagged]
      exact callBody?_end (by simp [hne]) (by rw [hlast]; exact wfCall.ends) _
    · have hbehind := behindBody wfCall plainNext (front ++ chars)
      simp only [List.append_assoc] at hbehind ⊢
      rw [hbehind]
      simp [taken, MatchCall.met, hhead, flagged]
  · rw [callBody?_flagged wfCall flagged]
    have hlead : chars ++ callOpening ++ call.behind ≠ [] := by simp [hne]
    obtain ⟨found, tail, hfound, hrest⟩ :=
      inBody plainNext hlead (hend.resolve_left hhead |>.resolve_left flagged)
    refine ⟨found, tail, hfound, fun front => ?_⟩
    rw [hrest]
    simp [taken, MatchCall.met, hhead, flagged]

theorem reads_of_wellFormed {calls : List (MatchCall × List Char)} (wf : AllWellFormed calls) :
    ReadFromText calls ∧ ReadInBody calls ∧ ReadBehindBody calls := by
  induction calls with
  | nil =>
    have fromText : ReadFromText [] := by
      intro text front plain apart
      rw [callBodies_nothingRead (plain.nothingRead apart _), textOf, List.flatMap_nil, callBodies, taken]
    have inBody : ReadInBody [] := fun _ _ _ _ hend => hend.elim
    exact ⟨fromText, inBody, readBehindBody wf fromText inBody⟩
  | cons entry calls ih =>
    obtain ⟨call, next⟩ := entry
    obtain ⟨wfCall, plainNext⟩ := wf _ List.mem_cons_self
    have wfCalls : AllWellFormed calls := fun e he => wf e (List.mem_cons_of_mem _ he)
    obtain ⟨fromText, inBody, behindBody⟩ := ih wfCalls
    have fromCall {front : List Char} (hname : callName <:+ front) :=
      callBodies_call wfCalls fromText inBody behindBody wfCall plainNext hname
    have fromText' := readFromText_cons fromCall
    have inBody' := readInBody_cons inBody behindBody wfCall plainNext fromCall
    exact ⟨fromText', inBody', readBehindBody wf fromText' inBody'⟩

/-- The bodies of the calls without flags. -/
def bodiesOf (calls : List (MatchCall × List Char)) : List (List Char) :=
  (calls.filter fun entry => entry.1.flags.isEmpty).map (·.1.body)

/-- A call leaves a reading behind it that goes on over what follows, if it has flags or if its body ends
in the name of a call. -/
def MatchCall.RunsOn (call : MatchCall) : Prop := call.flags ≠ [] ∨ callName <:+ call.body

instance : DecidablePred MatchCall.RunsOn := fun call =>
  inferInstanceAs (Decidable (call.flags ≠ [] ∨ callName <:+ call.body))

/-- No reading that a call leaves behind it comes to an end on its line. -/
def ApartOnLines : List (MatchCall × List Char) → Prop
  | [] => True
  | (call, text) :: rest => (call.RunsOn → ¬ ComesToEnd text rest) ∧ ApartOnLines rest

def decideApartOnLines : (calls : List (MatchCall × List Char)) → Decidable (ApartOnLines calls)
  | [] => inferInstanceAs (Decidable True)
  | (call, text) :: rest =>
    have := decideApartOnLines rest
    inferInstanceAs (Decidable ((call.RunsOn → ¬ ComesToEnd text rest) ∧ ApartOnLines rest))

instance : DecidablePred ApartOnLines := decideApartOnLines

theorem taken_apart {calls : List (MatchCall × List Char)} (apart : ApartOnLines calls) :
    taken none calls = bodiesOf calls := by
  induction calls with
  | nil => rfl
  | cons entry rest ih =>
    obtain ⟨call, text⟩ := entry
    obtain ⟨hcall, hrest⟩ := apart
    have htail (reading : Option (List Char)) (h : call.RunsOn ∨ reading = none) :
        taken (carried text reading) rest = bodiesOf rest := by
      rcases h with h | rfl
      · rw [taken_not_comesToEnd (hcall h), ih hrest]
      · rw [carried, Option.map_none, ite_self, ih hrest]
    by_cases flagged : call.flags = []
    · have hleft : call.RunsOn ∨ call.left = none := by
        by_cases hname : callName <:+ call.body
        · exact .inl (.inr hname)
        · exact .inr (if_neg hname)
      simp [taken, MatchCall.met, flagged, bodiesOf, htail _ hleft]
    · simp [taken, MatchCall.met, flagged, bodiesOf, htail _ (.inl (.inl flagged))]

/-- How many characters bodies have. -/
def extent (bodies : List (List Char)) : Nat := bodies.flatten.length

/-- What is being read behind a call and the text that follows it. -/
def MatchCall.onward (call : MatchCall) (reading : Option (List Char)) : Option (List Char) :=
  if call.flags = [] then call.left else some ((call.met reading).2 ++ call.behind)

theorem extent_taken_cons (reading : Option (List Char)) (call : MatchCall) (text : List Char)
    (rest : List (MatchCall × List Char)) :
    extent (taken reading ((call, text) :: rest)) =
      extent (call.met reading).1 +
        (if call.flags = [] then (call.met reading).2.length + call.body.length else 0) +
        extent (taken (carried text (call.onward reading)) rest) := by
  by_cases flagged : call.flags = []
  · simp [taken, flagged, extent, MatchCall.onward]
    omega
  · simp [taken, flagged, extent, MatchCall.onward]

theorem extent_bodiesOf_cons (call : MatchCall) (text : List Char) (rest : List (MatchCall × List Char)) :
    extent (bodiesOf ((call, text) :: rest)) =
      (if call.flags = [] then call.body.length else 0) + extent (bodiesOf rest) := by
  by_cases flagged : call.flags = [] <;> simp [bodiesOf, flagged, extent]

theorem extent_bodiesOf_le (calls : List (MatchCall × List Char)) (reading : Option (List Char)) :
    extent (bodiesOf calls) ≤ extent (taken reading calls) := by
  induction calls generalizing reading with
  | nil => exact Nat.le_refl 0
  | cons entry rest ih =>
    obtain ⟨call, text⟩ := entry
    have hrest := ih (carried text (call.onward reading))
    rw [extent_taken_cons, extent_bodiesOf_cons]
    split <;> omega

theorem extent_bodiesOf_lt {text : List Char} {calls : List (MatchCall × List Char)}
    (hend : ComesToEnd text calls) (chars : List Char) :
    extent (bodiesOf calls) < extent (taken (carried text (some chars)) calls) := by
  induction calls generalizing text chars with
  | nil => exact hend.elim
  | cons entry rest ih =>
    obtain ⟨call, next⟩ := entry
    obtain ⟨line, hend⟩ := hend
    rw [carried, if_neg line, Option.map_some, extent_taken_cons, extent_bodiesOf_cons]
    have hrest := extent_bodiesOf_le rest (carried next (call.onward (some (chars ++ text))))
    by_cases hhead : call.body.head? = some ')'
    · have hmet : 0 < extent (call.met (some (chars ++ text))).1 := by
        rw [MatchCall.met, if_pos hhead]
        simp only [extent, List.flatten_singleton, List.length_append, length_callName]
        omega
      split <;> omega
    have hlead : 0 < (call.met (some (chars ++ text))).2.length := by
      rw [MatchCall.met, if_neg hhead]
      simp only [callOpening_eq, List.length_append, length_callName]
      omega
    by_cases flagged : call.flags = []
    · rw [if_pos flagged, if_pos flagged]
      omega
    · have hnext := ih (hend.resolve_left hhead |>.resolve_left flagged)
        ((call.met (some (chars ++ text))).2 ++ call.behind)
      rw [if_neg flagged, if_neg flagged, MatchCall.onward, if_neg flagged]
      omega

theorem apart_of_extent_le {calls : List (MatchCall × List Char)} {reading : Option (List Char)}
    (h : extent (taken reading calls) ≤ extent (bodiesOf calls)) : ApartOnLines calls := by
  induction calls generalizing reading with
  | nil => trivial
  | cons entry rest ih =>
    obtain ⟨call, text⟩ := entry
    rw [extent_taken_cons, extent_bodiesOf_cons] at h
    have hrest : extent (taken (carried text (call.onward reading)) rest) ≤ extent (bodiesOf rest) := by
      split at h <;> omega
    refine ⟨fun runsOn hend => ?_, ih hrest⟩
    obtain ⟨chars, hchars⟩ : ∃ chars, call.onward reading = some chars := by
      by_cases flagged : call.flags = []
      · rw [MatchCall.onward, if_pos flagged]
        exact ⟨_, if_pos (runsOn.resolve_left fun hf => hf flagged)⟩
      · exact ⟨_, if_neg flagged⟩
    rw [hchars] at hrest
    exact absurd (extent_bodiesOf_lt hend chars) (by omega)

theorem taken_eq_iff {calls : List (MatchCall × List Char)} :
    taken none calls = bodiesOf calls ↔ ApartOnLines calls :=
  ⟨fun h => apart_of_extent_le (le_of_eq (by rw [h])), taken_apart⟩

theorem namePatterns_eq_taken {script : Script} (wf : script.WellFormed) :
    namePatterns (String.ofList script.text) = (taken none script.calls).map String.ofList := by
  have apart : ∀ c, [].getLast? = some c → c = ')' := by simp
  have fromText := (reads_of_wellFormed wf.calls).1 wf.lead apart
  rw [namePatterns, String.toList_ofList, Script.text, ← List.reverse_nil, fromText]

/-- A script gives what is read from its calls, and this is the bodies of its calls without flags exactly
if no reading that a call leaves behind it comes to an end on its line. -/
theorem namePatterns_text {script : Script} (wf : script.WellFormed) :
    namePatterns (String.ofList script.text) = (taken none script.calls).map String.ofList ∧
    (namePatterns (String.ofList script.text) = (bodiesOf script.calls).map String.ofList ↔
      ApartOnLines script.calls) := by
  refine ⟨namePatterns_eq_taken wf, ?_⟩
  rw [namePatterns_eq_taken wf, ← taken_eq_iff]
  refine ⟨fun h => ?_, fun h => by rw [h]⟩
  exact List.map_injective_iff.mpr (fun _ _ => String.ofList_inj.mp) h

/-- A script with two calls on its first line and one with flags on a line of its own. -/
def linesScript : Script where
  lead := "!!".toList
  calls := [(⟨"Cargo\\.lock".toList, []⟩, " || ".toList),
    (⟨"(^|\\/)esy\\.lock$".toList, []⟩, "\n!!".toList),
    (⟨"\\.designer\\.(cs|vb)$".toList, ['i']⟩, "\n".toList)]

theorem namePatterns_text_lines : linesScript.WellFormed ∧ ApartOnLines linesScript.calls ∧
    namePatterns (String.ofList linesScript.text) = ["Cargo\\.lock", "(^|\\/)esy\\.lock$"] := by
  have wf : linesScript.WellFormed := by decide
  have apart : ApartOnLines linesScript.calls := by decide
  have bodies : bodiesOf linesScript.calls =
      ["Cargo\\.lock".toList, "(^|\\/)esy\\.lock$".toList] := by decide
  refine ⟨wf, apart, ((namePatterns_text wf).2.mpr apart).trans ?_⟩
  rw [bodies]
  simp only [List.map_cons, List.map_nil, String.ofList_toList]

/-- A call with flags and behind it on the same line one without. -/
def lineScript : Script where
  lead := []
  calls := [(⟨['a'], ['i']⟩, " || ".toList), (⟨['b'], []⟩, [])]

theorem namePatterns_flagged : lineScript.WellFormed ∧
    String.ofList lineScript.text = "name.match(/a/i) || name.match(/b/)" ∧
    bodiesOf lineScript.calls = [['b']] ∧
    namePatterns (String.ofList lineScript.text) = ["a/i) || name.match(/b"] := by
  have wf : lineScript.WellFormed := by decide
  have items : taken none lineScript.calls = ["a/i) || name.match(/b".toList] := by decide
  refine ⟨wf, by decide, by decide, (namePatterns_eq_taken wf).trans ?_⟩
  rw [items, List.map_singleton, String.ofList_toList]

end Polyglot.Catalog
