import Mathlib
import Polyglot.Classifier.Token

namespace Polyglot.Classifier

open Polyglot.Text (isWord isDecimal isBlank blankRanges CodeRanges.contains_iff)

/-- A character that no token holds: a blank, or one of a word that is neither an ASCII letter nor an
underscore nor a decimal digit. -/
def isLost (c : Char) : Bool :=
  isBlank c || isWord c && !(c.isAlpha || c == '_' || isDecimal c)

/-- What a token can be: an ASCII identifier, decimal digits, or up to three marks. -/
inductive IsToken : Token → Prop where
  | name {c : Char} {rest : List Char} (first : startsName c = true)
      (others : ∀ d ∈ rest, continuesName d = true) : IsToken (c :: rest)
  | number {token : Token} (some : token ≠ []) (digits : ∀ d ∈ token, isDecimal d = true) :
      IsToken token
  | marks {token : Token} (some : token ≠ []) (few : token.length ≤ 3)
      (marks : ∀ d ∈ token, isWord d = false ∧ isBlank d = false) : IsToken token

/-- All blanks. -/
def blanks : List Char :=
  blankRanges.flatMap fun (first, last) => (List.range' first (last + 1 - first)).map Char.ofNat

theorem mem_blanks {c : Char} (h : isBlank c = true) : c ∈ blanks := by
  obtain ⟨range, hm, hfirst, hlast⟩ := CodeRanges.contains_iff.mp h
  refine List.mem_flatMap.mpr ⟨range, hm, List.mem_map.mpr ⟨c.toNat, ?_, Char.ofNat_toNat c⟩⟩
  rw [List.mem_range'_1]
  omega

theorem apart_of_isBlank {c : Char} (h : isBlank c = true) :
    continuesName c = false ∧ isDecimal c = false := by
  have hall : blanks.all (fun c => !continuesName c && !isDecimal c) = true := by decide +kernel
  simpa using List.all_eq_true.mp hall c (mem_blanks h)

theorem isMark_of_isBlank {c : Char} (h : isBlank c = true) : isMark c = false := by
  simp [isMark, h]

theorem continuesName_of_startsName {c : Char} (h : startsName c = true) :
    continuesName c = true := by
  simp only [startsName, continuesName, Char.isAlphanum, Bool.or_eq_true] at *
  tauto

theorem isDecimal_of_isDigit {c : Char} (h : c.isDigit = true) : isDecimal c = true := by
  have hsmall : c.toNat < 128 := by
    simp only [Char.isDigit, Bool.and_eq_true, decide_eq_true_eq] at h
    have : c.toNat ≤ 57 := h.2
    omega
  rw [isDecimal, if_pos hsmall, h]

theorem isLost_of_continuesName {c : Char} (h : continuesName c = true) : isLost c = false := by
  have hblank : isBlank c = false := by
    by_contra hb
    simp [(apart_of_isBlank (Bool.not_eq_false _ ▸ hb)).1] at h
  simp only [continuesName, Char.isAlphanum, Bool.or_eq_true] at h
  rcases h with (h | h) | h
  · simp [isLost, hblank, h]
  · simp [isLost, hblank, isDecimal_of_isDigit h]
  · simp [isLost, hblank, h]

theorem isLost_of_isDecimal {c : Char} (h : isDecimal c = true) : isLost c = false := by
  have hblank : isBlank c = false := by
    by_contra hb
    simp [(apart_of_isBlank (Bool.not_eq_false _ ▸ hb)).2] at h
  simp [isLost, hblank, h]

theorem isLost_of_isMark {c : Char} (h : isMark c = true) : isLost c = false := by
  simp only [isMark, Bool.and_eq_true, Bool.not_eq_true'] at h
  simp [isLost, h.1, h.2]

theorem nextToken?_name {c : Char} (h : startsName c = true) (rest : List Char) :
    nextToken? (c :: rest) = some (c :: rest.takeWhile continuesName, rest.dropWhile continuesName) := by
  rw [nextToken?, if_pos h]

theorem nextToken?_number {c : Char} (hname : startsName c = false) (h : isDecimal c = true)
    (rest : List Char) :
    nextToken? (c :: rest) = some (c :: rest.takeWhile isDecimal, rest.dropWhile isDecimal) := by
  rw [nextToken?, if_neg (by simp [hname]), if_pos h]

theorem nextToken?_marks {c : Char} (hname : startsName c = false) (hdecimal : isDecimal c = false)
    (h : isMark c = true) (rest : List Char) :
    nextToken? (c :: rest) = some (c :: (rest.takeWhile isMark).take 2,
      rest.drop ((rest.takeWhile isMark).take 2).length) := by
  rw [nextToken?, if_neg (by simp [hname]), if_neg (by simp [hdecimal]), if_pos h]

theorem nextToken?_eq_none_iff {c : Char} {rest : List Char} :
    nextToken? (c :: rest) = none ↔ isLost c = true := by
  cases hname : startsName c with
  | true =>
    rw [nextToken?_name hname, isLost_of_continuesName (continuesName_of_startsName hname)]
    simp
  | false =>
    cases hdecimal : isDecimal c with
    | true =>
      rw [nextToken?_number hname hdecimal, isLost_of_isDecimal hdecimal]
      simp
    | false =>
      cases hmark : isMark c with
      | true =>
        rw [nextToken?_marks hname hdecimal hmark, isLost_of_isMark hmark]
        simp
      | false =>
        have hlost : isLost c = true := by
          simp only [startsName] at hname
          simp only [isMark, Bool.and_eq_false_iff, Bool.not_eq_false'] at hmark
          rcases hmark with hword | hblank
          · simp [isLost, hword, hname, hdecimal]
          · simp [isLost, hblank]
        simp [nextToken?, hname, hdecimal, hmark, hlost]

theorem token_of_nextToken? {text rest : List Char} {token : Token}
    (h : nextToken? text = some (token, rest)) :
    text = token ++ rest ∧ IsToken token ∧ ∀ d ∈ token, isLost d = false := by
  cases text with
  | nil => simp [nextToken?] at h
  | cons c tail =>
    cases hname : startsName c with
    | true =>
      rw [nextToken?_name hname] at h
      obtain ⟨rfl, rfl⟩ := Prod.mk.inj (Option.some.inj h)
      have hothers : ∀ d ∈ tail.takeWhile continuesName, continuesName d = true :=
        fun d hd => List.mem_takeWhile_imp hd
      refine ⟨by simp, .name hname hothers, fun d hd => isLost_of_continuesName ?_⟩
      rcases List.mem_cons.mp hd with rfl | hd
      · exact continuesName_of_startsName hname
      · exact hothers d hd
    | false =>
      cases hdecimal : isDecimal c with
      | true =>
        rw [nextToken?_number hname hdecimal] at h
        obtain ⟨rfl, rfl⟩ := Prod.mk.inj (Option.some.inj h)
        have hdigits : ∀ d ∈ c :: tail.takeWhile isDecimal, isDecimal d = true := by
          intro d hd
          rcases List.mem_cons.mp hd with rfl | hd
          · exact hdecimal
          · exact List.mem_takeWhile_imp hd
        exact ⟨by simp, .number (by simp) hdigits, fun d hd => isLost_of_isDecimal (hdigits d hd)⟩
      | false =>
        cases hmark : isMark c with
        | true =>
          rw [nextToken?_marks hname hdecimal hmark] at h
          obtain ⟨rfl, rfl⟩ := Prod.mk.inj (Option.some.inj h)
          have hmarks : ∀ d ∈ c :: (tail.takeWhile isMark).take 2, isMark d = true := by
            intro d hd
            rcases List.mem_cons.mp hd with rfl | hd
            · exact hmark
            · exact List.mem_takeWhile_imp (List.mem_of_mem_take hd)
          have hfront : (tail.takeWhile isMark).take 2 <+: tail :=
            (List.take_prefix 2 _).trans (List.takeWhile_prefix isMark)
          refine ⟨?_, .marks (by simp) (by simp) ?_, fun d hd => isLost_of_isMark (hmarks d hd)⟩
          · rw [List.cons_append, List.prefix_iff_eq_append.mp hfront]
          · intro d hd
            simpa [isMark] using hmarks d hd
        | false => simp [nextToken?, hname, hdecimal, hmark] at h

/-- Where a run ends before a blank, it ends there as well if more follows the blank. -/
theorem takeWhile_append_blank {p : Char → Bool} {blank : Char} (h : p blank = false)
    (rest tail : List Char) :
    (rest ++ blank :: tail).takeWhile p = rest.takeWhile p ∧
      (rest ++ blank :: tail).dropWhile p = rest.dropWhile p ++ blank :: tail := by
  induction rest with
  | nil => simp [h]
  | cons c rest ih => cases hc : p c <;> simp [hc, ih]

theorem nextToken?_append_blank {blank : Char} (h : isBlank blank = true) (c : Char)
    (rest tail : List Char) :
    nextToken? (c :: rest ++ blank :: tail) =
      (nextToken? (c :: rest)).map fun (token, rest) => (token, rest ++ blank :: tail) := by
  obtain ⟨hname, hdecimal⟩ := apart_of_isBlank h
  have names := takeWhile_append_blank hname rest tail
  have digits := takeWhile_append_blank hdecimal rest tail
  have marks := (takeWhile_append_blank (isMark_of_isBlank h) rest tail).1
  have few : ((rest.takeWhile isMark).take 2).length ≤ rest.length :=
    ((List.take_sublist 2 _).trans (List.takeWhile_sublist isMark)).length_le
  simp only [List.cons_append, nextToken?, names, digits, marks]
  split
  · rfl
  · split
    · rfl
    · split
      · simp only [Option.map_some, List.drop_append_of_le_length few]
      · rfl

/-- A text is scanned from its front: a token is taken as a whole, and what starts none is passed
over. -/
inductive Scans : List Char → List Token → Prop where
  | done : Scans [] []
  | take {text rest : List Char} {token : Token} {tokens : List Token}
      (next : nextToken? text = some (token, rest)) (others : Scans rest tokens) :
      Scans text (token :: tokens)
  | pass {c : Char} {rest : List Char} {tokens : List Token} (none : nextToken? (c :: rest) = none)
      (others : Scans rest tokens) : Scans (c :: rest) tokens

theorem Scans.unique {text : List Char} {tokens others : List Token} (h : Scans text tokens)
    (h' : Scans text others) : tokens = others := by
  induction h generalizing others with
  | done =>
    cases h' with
    | done => rfl
    | take next _ => simp [nextToken?] at next
  | take next _ ih =>
    cases h' with
    | done => simp [nextToken?] at next
    | take next' rest' =>
      obtain ⟨rfl, rfl⟩ := Prod.mk.inj (Option.some.inj (next.symm.trans next'))
      rw [ih rest']
    | pass none _ => rw [none] at next; cases next
  | pass none _ ih =>
    cases h' with
    | take next _ => rw [none] at next; cases next
    | pass _ rest' => exact ih rest'

theorem scans_tokenizeOnto (before : List Token) (text : List Char) :
    ∃ tokens, Scans text tokens ∧ (tokenizeOnto before text).reverse = before.reverse ++ tokens := by
  fun_induction tokenizeOnto before text with
  | case1 before => exact ⟨[], .done, by simp⟩
  | case2 before c rest token others next ih =>
    obtain ⟨tokens, hscans, heq⟩ := ih
    exact ⟨token :: tokens, .take next hscans, by simp [heq]⟩
  | case3 before c rest none ih =>
    obtain ⟨tokens, hscans, heq⟩ := ih
    exact ⟨tokens, .pass none hscans, heq⟩

theorem scans_tokenize (text : List Char) : Scans text (tokenize text) := by
  obtain ⟨tokens, hscans, heq⟩ := scans_tokenizeOnto [] text
  rwa [tokenize, heq, List.reverse_nil, List.nil_append]

theorem Scans.flatten_eq {text : List Char} {tokens : List Token} (h : Scans text tokens) :
    tokens.flatten = text.filter (!isLost ·) := by
  induction h with
  | done => rfl
  | @take text rest token tokens next _ ih =>
    obtain ⟨rfl, -, hkept⟩ := token_of_nextToken? next
    have hwhole : token.filter (!isLost ·) = token :=
      List.filter_eq_self.mpr fun d hd => by simp [hkept d hd]
    rw [List.flatten_cons, ih, List.filter_append, hwhole]
  | pass none _ ih => rw [ih, List.filter_cons_of_neg (by simp [nextToken?_eq_none_iff.mp none])]

theorem Scans.isToken {text : List Char} {tokens : List Token} (h : Scans text tokens) :
    ∀ token ∈ tokens, IsToken token := by
  induction h with
  | done => simp
  | take next _ ih => exact List.forall_mem_cons.mpr ⟨(token_of_nextToken? next).2.1, ih⟩
  | pass _ _ ih => exact ih

theorem Scans.append_blank {text other : List Char} {tokens others : List Token} {blank : Char}
    (h : Scans text tokens) (hblank : isBlank blank = true) (h' : Scans other others) :
    Scans (text ++ blank :: other) (tokens ++ others) := by
  induction h with
  | done => exact .pass (nextToken?_eq_none_iff.mpr (by simp [isLost, hblank])) h'
  | @take text rest token tokens next _ ih =>
    cases text with
    | nil => simp [nextToken?] at next
    | cons c text =>
      have hnext := nextToken?_append_blank hblank c text other
      rw [next] at hnext
      exact .take hnext ih
  | @pass c rest tokens none _ ih =>
    have hnext := nextToken?_append_blank hblank c rest other
    rw [none] at hnext
    exact .pass hnext ih

/-- The tokens of a text, put together, are the text without what is lost. Each is an identifier, a
number or a run of marks, and a blank keeps what is before it apart from what is behind it. -/
theorem tokenize_lossless (text : List Char) :
    (tokenize text).flatten = text.filter (!isLost ·) ∧
      (∀ token ∈ tokenize text, IsToken token) ∧
      ∀ blank other, isBlank blank = true →
        tokenize (text ++ blank :: other) = tokenize text ++ tokenize other := by
  have hscans := scans_tokenize text
  refine ⟨hscans.flatten_eq, hscans.isToken, ?_⟩
  intro blank other hblank
  exact (scans_tokenize _).unique (hscans.append_blank hblank (scans_tokenize other))

/-- A letter beyond ASCII ends a name and is lost; of five marks in a row, the first three stand
together. -/
theorem tokenize_lossless_mixed :
    isBlank '\t' = true ∧
      tokenize "aé1<<<=b\t_2".toList = tokenize "aé1<<<=b".toList ++ tokenize "_2".toList ∧
      (tokenize "aé1<<<=b".toList).flatten = "a1<<<=b".toList := by
  have hblank : isBlank '\t' = true := by decide
  obtain ⟨hflatten, -, hapart⟩ := tokenize_lossless "aé1<<<=b".toList
  refine ⟨hblank, hapart '\t' "_2".toList hblank, hflatten.trans ?_⟩
  decide +kernel

end Polyglot.Classifier
