import Polyglot.Proofs.Lessons

namespace Polyglot

section
variable {α β γ : Type}

theorem argmax_map [LinearOrder γ] (value : β → γ) (f : α → β) (list : List α) :
    (list.map f).argmax value = (list.argmax (value ∘ f)).map f := by
  induction list using List.reverseRecOn with
  | nil => rfl
  | append_singleton list item ih =>
    rw [List.map_append, List.map_singleton, List.argmax_concat, List.argmax_concat, ih]
    cases list.argmax (value ∘ f) with
    | none => rfl
    | some best =>
      simp only [Option.map_some, Function.comp_apply]
      split <;> rfl

/-- Values in the same order have the same first greatest one. -/
theorem argmax_congr [LinearOrder β] [LinearOrder γ] {value : α → β} {other : α → γ} {list : List α}
    (h : ∀ a ∈ list, ∀ b ∈ list, value a < value b ↔ other a < other b) :
    list.argmax value = list.argmax other := by
  induction list using List.reverseRecOn with
  | nil => rfl
  | append_singleton list item ih =>
    have hrest := ih fun a ha b hb =>
      h a (List.mem_append_left _ ha) b (List.mem_append_left _ hb)
    rw [List.argmax_concat, List.argmax_concat, hrest]
    cases hm : list.argmax other with
    | none => rfl
    | some best =>
      have hbest : best ∈ list := List.argmax_mem hm
      simp only [h best (List.mem_append_left _ hbest) item (by simp)]

end

namespace Classifier

theorem Bayes.best_eq_argmax {α : Type} (first : α × Rat) (others : List (α × Rat)) :
    (first :: others).argmax Prod.snd = some (best first others) := by
  induction others using List.reverseRecOn with
  | nil => rfl
  | append_singleton others entry ih =>
    rw [← List.cons_append, List.argmax_concat, ih, best, best, List.foldl_append]
    simp only [List.foldl_cons, List.foldl_nil]
    split <;> rfl

namespace Bayes

section
variable {α : Type} {bayes : Bayes α}

theorem score_eq (bayes : Bayes α) (tokens : List Token) (profile : Profile α) :
    bayes.score tokens profile =
      bayes.documentShare profile * (tokens.map (bayes.tokenShare profile)).prod := by
  rw [score]
  generalize bayes.documentShare profile = start
  induction tokens generalizing start with
  | nil => simp
  | cons token rest ih => rw [List.foldl_cons, ih, List.map_cons, List.prod_cons, mul_assoc]

/-- A classifier that forms its shares exactly, with a positive smoothing. -/
structure Exact (bayes : Bayes α) : Prop where
  arithmetic : bayes.arithmetic = .exact
  positive : 0 < bayes.smoothing

variable (exact : bayes.Exact)
include exact

theorem Exact.denominator_eq (profile : Profile α) : bayes.denominator? profile =
    some (profile.total + bayes.smoothing * bayes.vocabularySize) := by
  rw [denominator?, exact.arithmetic]
  rfl

theorem Exact.denominator_pos (profile : Profile α) :
    0 < profile.total + bayes.smoothing * bayes.vocabularySize := by
  have hsize : (0 : Rat) < bayes.vocabularySize := by
    exact_mod_cast Nat.lt_of_lt_of_le Nat.zero_lt_one (Nat.le_max_right _ _)
  have hsmoothing := exact.positive
  positivity

theorem Exact.tokenShare_eq (profile : Profile α) (token : Token) : bayes.tokenShare profile token =
    (profile.tally.count token + bayes.smoothing) /
      (profile.total + bayes.smoothing * bayes.vocabularySize) := by
  rw [tokenShare, exact.denominator_eq, smoothedCount?, exact.arithmetic]
  rfl

theorem Exact.tokenShare_pos (profile : Profile α) (token : Token) :
    0 < bayes.tokenShare profile token := by
  have hsmoothing := exact.positive
  rw [exact.tokenShare_eq]
  exact div_pos (by positivity) (exact.denominator_pos profile)

theorem Exact.no_fault (tokens : List Token) (profile : Profile α) :
    bayes.fault? tokens profile = none := by
  have hdenominator : bayes.denominator? profile ≠ some 0 := by
    rw [exact.denominator_eq]
    intro h
    exact (exact.denominator_pos profile).ne' (Option.some.inj h)
  have hshares : ¬ (tokens.any fun token => bayes.tokenShare profile token ≤ 0) = true := by
    simp only [List.any_eq_true, decide_eq_true_eq, not_exists, not_and, not_le]
    exact fun token _ => exact.tokenShare_pos profile token
  rw [fault?, if_neg hdenominator, if_neg hshares, ite_self]

/-- What is predicted for some tokens: the first label with the greatest score, and for each label its
part of the sum of all scores. -/
structure Predicts (bayes : Bayes α) (tokens : List Token) (prediction : Prediction α) : Prop where
  label : (bayes.profiles.argmax (bayes.score tokens)).map Profile.label = some prediction.label
  shares : prediction.shares = bayes.profiles.map fun profile =>
    (profile.label, bayes.score tokens profile / (bayes.profiles.map (bayes.score tokens)).sum)

theorem Exact.predict_eq [DecidableEq α] (trained : bayes.profiles ≠ []) (text : List Char) :
    ∃ prediction, bayes.predict text = .ok prediction ∧ bayes.Predicts (tokenize text) prediction := by
  have hnone : bayes.profiles.findSome? (bayes.fault? (tokenize text)) = none :=
    List.findSome?_eq_none_iff.mpr fun profile _ => exact.no_fault (tokenize text) profile
  let scored (profile : Profile α) : α × Rat := (profile.label, bayes.score (tokenize text) profile)
  rw [predict]
  simp only [hnone]
  cases hp : bayes.profiles.map scored with
  | nil => exact absurd (List.map_eq_nil_iff.mp hp) trained
  | cons first others =>
    refine ⟨_, rfl, ?_, ?_⟩
    · have hbest := best_eq_argmax first others
      rw [← hp, argmax_map] at hbest
      have hlabel := congrArg (Option.map Prod.fst) hbest
      rw [Option.map_map] at hlabel
      exact hlabel
    · have hsum : (first :: others).foldr (Prod.snd · + ·) 0 =
          (bayes.profiles.map (bayes.score (tokenize text))).sum := by
        rw [← hp, List.foldr_map, List.sum, List.foldr_map]
      rw [hsum, ← hp, List.map_map]
      rfl

end

section
variable {α : Type} [DecidableEq α] {bayes : Bayes α} {smoothing : Rat}

theorem exact_taught (positive : 0 < smoothing) (lessons : List (Lesson α)) :
    (taught smoothing lessons).Exact :=
  ⟨arithmetic_taught smoothing lessons, by rwa [smoothing_taught]⟩

end

end Bayes

section
variable {α : Type} [DecidableEq α] (smoothing : Rat) (lessons : List (Lesson α))

/-- How many different tokens some lessons have, or one if they have none. -/
def variety : Nat := max (lessons.flatMap Lesson.tokens).eraseDups.length 1

/-- The smoothed share of a token among those of a label. -/
def shareIn (label : α) (token : Token) : Rat :=
  ((tokensOf lessons label).count token + smoothing) /
    ((tokensOf lessons label).length + smoothing * variety lessons)

/-- The share of a label among the lessons times the shares of some tokens among those of the label. -/
def scoreIn (tokens : List Token) (label : α) : Rat :=
  lessons.countP (·.label = label) / lessons.length *
    (tokens.map (shareIn smoothing lessons label)).prod

/-- The score of a label that a classifier knows. -/
def Bayes.scoreOf? (bayes : Bayes α) (tokens : List Token) (label : α) : Option Rat :=
  (bayes.profiles.find? (·.label = label)).map (bayes.score tokens)

end

namespace Bayes

section
variable {α : Type} [DecidableEq α] {smoothing : Rat} {lessons others : List (Lesson α)}

theorem vocabularySize_taught : (taught smoothing lessons).vocabularySize = variety lessons := by
  rw [vocabularySize, vocabulary_taught, variety]

theorem documentShare_taught (label : α) :
    (taught smoothing lessons).documentShare (.ofLessons lessons label) =
      lessons.countP (·.label = label) / lessons.length := by
  rw [documentShare, documents_taught]
  rfl

theorem tokenShare_taught (positive : 0 < smoothing) (label : α) (token : Token) :
    (taught smoothing lessons).tokenShare (.ofLessons lessons label) token =
      shareIn smoothing lessons label token := by
  rw [(exact_taught positive lessons).tokenShare_eq, Profile.count_ofLessons, smoothing_taught,
    vocabularySize_taught]
  rfl

theorem score_taught (positive : 0 < smoothing) (tokens : List Token) (label : α) :
    (taught smoothing lessons).score tokens (.ofLessons lessons label) =
      scoreIn smoothing lessons tokens label := by
  have hshares : (taught smoothing lessons).tokenShare (.ofLessons lessons label) =
      shareIn smoothing lessons label := funext (tokenShare_taught positive label)
  rw [score_eq, documentShare_taught, hshares, scoreIn]

theorem scoreOf?_taught (positive : 0 < smoothing) (tokens : List Token) (label : α) :
    (taught smoothing lessons).scoreOf? tokens label =
      if label ∈ labelsOf lessons then some (scoreIn smoothing lessons tokens label) else none := by
  have hfind : (taught smoothing lessons).profiles.find? (·.label = label) =
      ((labelsOf lessons).find? (· = label)).map (Profile.ofLessons lessons) := by
    rw [profiles_taught, List.find?_map]
    rfl
  rw [scoreOf?, hfind, Option.map_map]
  split
  · rename_i hm
    have hsame : (labelsOf lessons).find? (· = label) = some label := by
      have hsome : ((labelsOf lessons).find? (· = label)).isSome :=
        List.find?_isSome.mpr ⟨label, hm, by simp⟩
      obtain ⟨found, hf⟩ := Option.isSome_iff_exists.mp hsome
      have he : found = label := by simpa using List.find?_some hf
      rw [hf, he]
    rw [hsame, Option.map_some, Function.comp_apply, score_taught positive]
  · rename_i hm
    have hnone : (labelsOf lessons).find? (· = label) = none := by
      simp only [List.find?_eq_none, decide_eq_true_eq]
      exact fun other ho he => hm (he ▸ ho)
    rw [hnone, Option.map_none]

theorem predict_taught (positive : 0 < smoothing) (trained : lessons ≠ []) (text : List Char) :
    ∃ prediction, (taught smoothing lessons).predict text = .ok prediction ∧
      (taught smoothing lessons).Predicts (tokenize text) prediction :=
  (exact_taught positive lessons).predict_eq (profiles_taught_ne_nil trained) text

theorem documentShare_pos {profile : Profile α} (h : profile ∈ (taught smoothing lessons).profiles) :
    0 < (taught smoothing lessons).documentShare profile := by
  obtain ⟨lesson, hm, rfl⟩ := mem_profiles_taught.mp h
  have hcount : 0 < lessons.countP (·.label = lesson.label) :=
    List.countP_pos_iff.mpr ⟨lesson, hm, by simp⟩
  have hlength : 0 < lessons.length := List.length_pos_of_mem hm
  rw [documentShare_taught]
  positivity

theorem documentShare_le_one {profile : Profile α}
    (h : profile ∈ (taught smoothing lessons).profiles) :
    (taught smoothing lessons).documentShare profile ≤ 1 := by
  obtain ⟨lesson, -, rfl⟩ := mem_profiles_taught.mp h
  rw [documentShare_taught]
  refine div_le_one_of_le₀ ?_ (Nat.cast_nonneg _)
  exact_mod_cast List.countP_le_length

/-- No token stands more often than all tokens of a label together, and the smoothing is counted at
least once among them. -/
theorem tokenShare_le_one (positive : 0 < smoothing) {profile : Profile α}
    (h : profile ∈ (taught smoothing lessons).profiles) (token : Token) :
    (taught smoothing lessons).tokenShare profile token ≤ 1 := by
  obtain ⟨lesson, -, rfl⟩ := mem_profiles_taught.mp h
  have hcount : ((tokensOf lessons lesson.label).count token : Rat) ≤
      (tokensOf lessons lesson.label).length := by
    exact_mod_cast List.count_le_length
  have hvariety : (1 : Rat) ≤ variety lessons := by
    exact_mod_cast Nat.le_max_right _ _
  have hsmoothing : smoothing ≤ smoothing * variety lessons :=
    le_mul_of_one_le_right positive.le hvariety
  have hlength : (0 : Rat) ≤ (tokensOf lessons lesson.label).length := Nat.cast_nonneg _
  rw [tokenShare_taught positive, shareIn]
  exact div_le_one_of_le₀ (by linarith) (by linarith)

theorem score_pos (positive : 0 < smoothing) (tokens : List Token) {profile : Profile α}
    (h : profile ∈ (taught smoothing lessons).profiles) :
    0 < (taught smoothing lessons).score tokens profile := by
  rw [score_eq]
  refine mul_pos (documentShare_pos h) (List.prod_pos fun share hm => ?_)
  obtain ⟨token, -, rfl⟩ := List.mem_map.mp hm
  exact (exact_taught positive lessons).tokenShare_pos profile token

end

end Bayes

end Classifier

end Polyglot
