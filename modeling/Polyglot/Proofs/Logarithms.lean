import Polyglot.Proofs.Predictions

namespace Polyglot.Classifier.Bayes

noncomputable section
variable {α : Type} (bayes : Bayes α) (tokens : List Token)

/-- The logarithm of a score, summed up from those of the shares. -/
def logScore (profile : Profile α) : ℝ :=
  tokens.foldl (fun sum token => sum + Real.log (bayes.tokenShare profile token))
    (Real.log (bayes.documentShare profile))

/-- A number is the greatest logarithm of a score. -/
def IsTop (top : ℝ) : Prop :=
  (∃ profile ∈ bayes.profiles, bayes.logScore tokens profile = top) ∧
    ∀ profile ∈ bayes.profiles, bayes.logScore tokens profile ≤ top

/-- The sum of the scores, from whose logarithms a number is taken off. -/
def normaliser (top : ℝ) : ℝ :=
  (bayes.profiles.map fun profile => Real.exp (bayes.logScore tokens profile - top)).sum

/-- Nothing is divided by zero, and the numbers whose logarithms are taken are above zero and at most
one, apart from a normaliser that is at least one. -/
structure InDomain : Prop where
  documents : bayes.documents ≠ 0
  documentShare : ∀ profile ∈ bayes.profiles, bayes.documentShare profile ∈ Set.Ioc 0 1
  denominator : ∀ profile ∈ bayes.profiles,
    ∃ denominator, bayes.denominator? profile = some denominator ∧ denominator ≠ 0
  tokenShare : ∀ profile ∈ bayes.profiles, ∀ token ∈ tokens,
    bayes.tokenShare profile token ∈ Set.Ioc 0 1
  normaliser : ∃ top, bayes.IsTop tokens top ∧ 1 ≤ bayes.normaliser tokens top

/-- A prediction is what the logarithms of the scores come to. -/
structure Reckons (prediction : Prediction α) : Prop where
  label : (bayes.profiles.argmax (bayes.logScore tokens)).map Profile.label = some prediction.label
  shares : ∀ top, bayes.IsTop tokens top →
    prediction.shares.map (fun entry => (entry.1, (entry.2 : ℝ))) =
      bayes.profiles.map fun profile => (profile.label,
        Real.exp (bayes.logScore tokens profile - (top + Real.log (bayes.normaliser tokens top))))

end

section
variable {α : Type} {bayes : Bayes α} {tokens : List Token} {top : ℝ}

theorem logScore_eq {profile : Profile α} (documents : 0 < bayes.documentShare profile)
    (shares : ∀ token, 0 < bayes.tokenShare profile token) :
    bayes.logScore tokens profile = Real.log (bayes.score tokens profile) := by
  rw [logScore, score]
  generalize bayes.documentShare profile = start at documents
  induction tokens generalizing start with
  | nil => rfl
  | cons token rest ih =>
    have hstart : (start : ℝ) ≠ 0 := by exact_mod_cast documents.ne'
    have hshare : (bayes.tokenShare profile token : ℝ) ≠ 0 := by exact_mod_cast (shares token).ne'
    rw [List.foldl_cons, List.foldl_cons, ← ih _ (mul_pos documents (shares token)), Rat.cast_mul,
      Real.log_mul hstart hshare]

/-- The greatest logarithm adds one to the normaliser, and none adds less than nothing. -/
theorem one_le_normaliser (isTop : bayes.IsTop tokens top) : 1 ≤ bayes.normaliser tokens top := by
  obtain ⟨⟨profile, hm, rfl⟩, -⟩ := isTop
  have hone : (1 : ℝ) ∈ bayes.profiles.map fun other =>
      Real.exp (bayes.logScore tokens other - bayes.logScore tokens profile) :=
    List.mem_map.mpr ⟨profile, hm, by rw [sub_self, Real.exp_zero]⟩
  refine List.single_le_sum (fun part hp => ?_) 1 hone
  obtain ⟨other, -, rfl⟩ := List.mem_map.mp hp
  exact (Real.exp_pos _).le

theorem exists_isTop (tokens : List Token) (trained : bayes.profiles ≠ []) :
    ∃ top, bayes.IsTop tokens top := by
  obtain ⟨profile, hargmax⟩ := Option.ne_none_iff_exists'.mp
    (mt List.argmax_eq_none.mp trained : bayes.profiles.argmax (bayes.logScore tokens) ≠ none)
  exact ⟨_, ⟨profile, List.argmax_mem hargmax, rfl⟩, fun other hm =>
    List.le_of_mem_argmax hm hargmax⟩

variable (scores : ∀ profile ∈ bayes.profiles,
  0 < bayes.score tokens profile ∧
    bayes.logScore tokens profile = Real.log (bayes.score tokens profile))
include scores

theorem exp_logScore {profile : Profile α} (h : profile ∈ bayes.profiles) (top : ℝ) :
    Real.exp (bayes.logScore tokens profile - top) = bayes.score tokens profile / Real.exp top := by
  obtain ⟨hpos, hlog⟩ := scores profile h
  have hreal : (0 : ℝ) < bayes.score tokens profile := by exact_mod_cast hpos
  rw [hlog, Real.exp_sub, Real.exp_log hreal]

theorem normaliser_eq (top : ℝ) : bayes.normaliser tokens top =
    (bayes.profiles.map (bayes.score tokens)).sum / Real.exp top := by
  rw [normaliser, List.map_congr_left fun profile hm => exp_logScore scores hm top]
  induction bayes.profiles with
  | nil => simp
  | cons profile rest ih => simp only [List.map_cons, List.sum_cons, ih, Rat.cast_add, add_div]

theorem Predicts.reckons {prediction : Prediction α} (predicts : bayes.Predicts tokens prediction) :
    bayes.Reckons tokens prediction where
  label := by
    have horder : bayes.profiles.argmax (bayes.logScore tokens) =
        bayes.profiles.argmax (bayes.score tokens) := by
      refine argmax_congr fun first hf second hs => ?_
      obtain ⟨hpos, hlog⟩ := scores first hf
      obtain ⟨hpos', hlog'⟩ := scores second hs
      rw [hlog, hlog', Real.log_lt_log_iff (by exact_mod_cast hpos) (by exact_mod_cast hpos'),
        Rat.cast_lt]
    rw [horder, predicts.label]
  shares top isTop := by
    have hnormaliser : 0 < bayes.normaliser tokens top :=
      lt_of_lt_of_le one_pos (one_le_normaliser isTop)
    rw [predicts.shares, List.map_map]
    refine List.map_congr_left fun profile hm => ?_
    rw [Function.comp_apply, exp_logScore scores hm, Real.exp_add, Real.exp_log hnormaliser,
      normaliser_eq scores, mul_div_cancel₀ _ (Real.exp_ne_zero top), Rat.cast_div]

end

section
variable {α : Type} [DecidableEq α] {smoothing : Rat} (positive : 0 < smoothing)
  {lessons : List (Lesson α)}
include positive

theorem scores_taught (tokens : List Token) {profile : Profile α}
    (h : profile ∈ (taught smoothing lessons).profiles) :
    0 < (taught smoothing lessons).score tokens profile ∧
      (taught smoothing lessons).logScore tokens profile =
        Real.log ((taught smoothing lessons).score tokens profile) :=
  ⟨score_pos positive tokens h, logScore_eq (documentShare_pos h)
    ((exact_taught positive lessons).tokenShare_pos profile)⟩

theorem inDomain_taught (trained : lessons ≠ []) (tokens : List Token) :
    (taught smoothing lessons).InDomain tokens where
  documents := by
    rw [documents_taught]
    exact (List.length_pos_of_ne_nil trained).ne'
  documentShare _ hm := ⟨documentShare_pos hm, documentShare_le_one hm⟩
  denominator profile _ :=
    ⟨_, (exact_taught positive lessons).denominator_eq profile,
      ((exact_taught positive lessons).denominator_pos profile).ne'⟩
  tokenShare profile hm token _ :=
    ⟨(exact_taught positive lessons).tokenShare_pos profile token, tokenShare_le_one positive hm token⟩
  normaliser := by
    obtain ⟨top, isTop⟩ := exists_isTop tokens (profiles_taught_ne_nil trained)
    exact ⟨top, isTop, one_le_normaliser isTop⟩

/-- After any lessons the counters hold what was taught, and a prediction for any text forms all its
numbers in their domain and comes to what their logarithms come to. -/
theorem predict_inDomain (trained : lessons ≠ []) (text : List Char) :
    let bayes := taught smoothing lessons
    Counted lessons bayes ∧ bayes.InDomain (tokenize text) ∧
      ∃ prediction, bayes.predict text = .ok prediction ∧
        bayes.Reckons (tokenize text) prediction := by
  intro bayes
  obtain ⟨prediction, hpredict, predicts⟩ := predict_taught positive trained text
  exact ⟨counted_taught smoothing lessons, inDomain_taught positive trained (tokenize text), prediction,
    hpredict, predicts.reckons fun _ hm => scores_taught positive (tokenize text) hm⟩

end

/-- Nothing was met in the lessons, so a new token has the whole share of each label. -/
theorem predict_inDomain_blank :
    let lessons : List (Lesson String) := [⟨[], "First"⟩, ⟨"  ".toList, "Second"⟩]
    let bayes := taught (1 / 10) lessons
    (0 < (1 / 10 : Rat) ∧ lessons ≠ []) ∧ Counted lessons bayes ∧ bayes.InDomain ["x".toList] ∧
      ∃ prediction, bayes.predict "x".toList = .ok prediction ∧
        bayes.Reckons ["x".toList] prediction ∧
        prediction.label = "First" ∧ prediction.shares = [("First", 1 / 2), ("Second", 1 / 2)] := by
  intro lessons bayes
  have positive : 0 < (1 / 10 : Rat) := by norm_num
  have trained : lessons ≠ [] := List.cons_ne_nil _ _
  have htokens : tokenize "x".toList = ["x".toList] := by cbv
  obtain ⟨counted, domain, prediction, hpredict, reckons⟩ :=
    predict_inDomain positive trained "x".toList
  rw [htokens] at domain reckons
  have hvalue : (bayes.predict "x".toList).toOption.map (fun said => (said.label, said.shares)) =
      some ("First", [("First", 1 / 2), ("Second", 1 / 2)]) := by cbv
  rw [hpredict] at hvalue
  have hsaid := Option.some.inj hvalue
  exact ⟨⟨positive, trained⟩, counted, domain, prediction, hpredict, reckons,
    congrArg Prod.fst hsaid, congrArg Prod.snd hsaid⟩

end Polyglot.Classifier.Bayes
