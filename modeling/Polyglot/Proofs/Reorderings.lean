import Polyglot.Proofs.Predictions

namespace Polyglot

theorem eraseDups_perm {α : Type} [BEq α] [LawfulBEq α] {list other : List α} (h : list.Perm other) :
    list.eraseDups.Perm other.eraseDups := by
  refine (List.perm_ext_iff_of_nodup (nodup_eraseDups list) (nodup_eraseDups other)).mpr fun item => ?_
  rw [List.mem_eraseDups, List.mem_eraseDups, h.mem_iff]

namespace Classifier

variable {α : Type} [DecidableEq α] {smoothing : Rat} {lessons others : List (Lesson α)}
  {tokens moved : List Token}

section
variable (reordered : lessons.Perm others)
include reordered

theorem labelsOf_perm : (labelsOf lessons).Perm (labelsOf others) :=
  eraseDups_perm (reordered.map Lesson.label)

theorem tokensOf_perm (label : α) : (tokensOf lessons label).Perm (tokensOf others label) :=
  (reordered.filter _).flatMap_right _

omit [DecidableEq α] in
theorem variety_perm : variety lessons = variety others := by
  rw [variety, variety, (eraseDups_perm (reordered.flatMap_right Lesson.tokens)).length_eq]

theorem shareIn_perm (label : α) (token : Token) :
    shareIn smoothing lessons label token = shareIn smoothing others label token := by
  have htokens := tokensOf_perm reordered label
  rw [shareIn, shareIn, htokens.count_eq, htokens.length_eq, variety_perm reordered]

theorem scoreIn_perm (shuffled : tokens.Perm moved) (label : α) :
    scoreIn smoothing lessons tokens label = scoreIn smoothing others moved label := by
  have hshares : shareIn smoothing lessons label = shareIn smoothing others label :=
    funext (shareIn_perm reordered label)
  rw [scoreIn, scoreIn, hshares, reordered.countP_eq, reordered.length_eq,
    (shuffled.map (shareIn smoothing others label)).prod_eq]

end

/-- The label of a prediction is the first of those with the greatest share, in the order in which the
labels were first taught. -/
structure FirstOfBest (lessons : List (Lesson α)) (prediction : Prediction α) : Prop where
  inOrder : prediction.shares.map Prod.fst = labelsOf lessons
  first : (prediction.shares.argmax Prod.snd).map Prod.fst = some prediction.label

/-- One share is greater than all others. -/
def HasOneBest (shares : List (α × Rat)) : Prop :=
  ∃ best ∈ shares, ∀ entry ∈ shares, entry ≠ best → entry.2 < best.2

theorem FirstOfBest.label_eq {prediction : Prediction α} (h : FirstOfBest lessons prediction)
    {best : α × Rat} (member : best ∈ prediction.shares)
    (alone : ∀ entry ∈ prediction.shares, entry ≠ best → entry.2 < best.2) :
    prediction.label = best.1 := by
  obtain ⟨entry, hargmax, hlabel⟩ := Option.map_eq_some_iff.mp h.first
  have hle : best.2 ≤ entry.2 := List.le_of_mem_argmax member hargmax
  by_cases he : entry = best
  · rw [← hlabel, he]
  · exact absurd (alone entry (List.argmax_mem hargmax) he) (not_lt.mpr hle)

namespace Bayes

section
variable {prediction : Prediction α} (positive : 0 < smoothing)
include positive

theorem sum_pos (trained : lessons ≠ []) (tokens : List Token) :
    0 < ((taught smoothing lessons).profiles.map ((taught smoothing lessons).score tokens)).sum := by
  refine List.sum_pos _ (fun share hm => ?_) ?_
  · obtain ⟨profile, hp, rfl⟩ := List.mem_map.mp hm
    exact score_pos positive tokens hp
  · exact mt List.map_eq_nil_iff.mp (profiles_taught_ne_nil trained)

/-- Parts of the sum of all scores are in the order of the scores. -/
theorem Predicts.firstOfBest (trained : lessons ≠ [])
    (predicts : (taught smoothing lessons).Predicts tokens prediction) :
    FirstOfBest lessons prediction := by
  let bayes := taught smoothing lessons
  have hsum : 0 < (bayes.profiles.map (bayes.score tokens)).sum := sum_pos positive trained tokens
  constructor
  · rw [predicts.shares, List.map_map, ← labels_taught smoothing lessons]
    rfl
  · have hparts : bayes.profiles.argmax (fun profile =>
        bayes.score tokens profile / (bayes.profiles.map (bayes.score tokens)).sum) =
          bayes.profiles.argmax (bayes.score tokens) :=
      argmax_congr fun _ _ _ _ => div_lt_div_iff_of_pos_right hsum
    rw [predicts.shares, argmax_map, Option.map_map, ← predicts.label]
    exact congrArg (Option.map Profile.label) hparts

theorem Predicts.shares_taught
    (predicts : (taught smoothing lessons).Predicts tokens prediction) :
    prediction.shares = (labelsOf lessons).map fun label =>
      (label, scoreIn smoothing lessons tokens label /
        ((labelsOf lessons).map (scoreIn smoothing lessons tokens)).sum) := by
  have hscore : (taught smoothing lessons).score tokens ∘ Profile.ofLessons lessons =
      scoreIn smoothing lessons tokens := funext (score_taught positive tokens)
  rw [predicts.shares, profiles_taught, List.map_map, List.map_map, hscore]
  refine List.map_congr_left fun label _ => ?_
  rw [Function.comp_apply, score_taught positive]
  rfl

/-- The same lessons in any order give all labels the same scores, also for a text with the same tokens
in another order. The labels that are predicted are the same where one share is the greatest, and the
first of the greatest in the order of the lessons otherwise. -/
theorem predict_reordered (reordered : lessons.Perm others) {text other : List Char}
    (shuffled : (tokenize text).Perm (tokenize other)) :
    let bayes := taught smoothing lessons
    let again := taught smoothing others
    (∀ label, bayes.scoreOf? (tokenize text) label = again.scoreOf? (tokenize other) label) ∧
      ((lessons = [] ∧ bayes.predict text = .error .untrained ∧
          again.predict other = .error .untrained) ∨
        ∃ first second, bayes.predict text = .ok first ∧ again.predict other = .ok second ∧
          first.shares.Perm second.shares ∧
          FirstOfBest lessons first ∧ FirstOfBest others second ∧
          (HasOneBest first.shares → second.label = first.label)) := by
  intro bayes again
  have hlabels := labelsOf_perm reordered
  have hscores : scoreIn smoothing lessons (tokenize text) =
      scoreIn smoothing others (tokenize other) := funext (scoreIn_perm reordered shuffled)
  refine ⟨fun label => ?_, ?_⟩
  · rw [scoreOf?_taught positive, scoreOf?_taught positive, hscores]
    simp only [hlabels.mem_iff]
  · by_cases trained : lessons = []
    · subst trained
      obtain rfl := reordered.nil_eq
      exact .inl ⟨rfl, rfl, rfl⟩
    · have trained' : others ≠ [] := fun he => trained (he ▸ reordered).eq_nil
      obtain ⟨first, hfirst, predicts⟩ := predict_taught positive trained text
      obtain ⟨second, hsecond, predicts'⟩ := predict_taught positive trained' other
      have hshares : first.shares.Perm second.shares := by
        rw [predicts.shares_taught positive, predicts'.shares_taught positive, hscores,
          (hlabels.map _).sum_eq]
        exact hlabels.map _
      have best := predicts.firstOfBest positive trained
      have best' := predicts'.firstOfBest positive trained'
      refine .inr ⟨first, second, hfirst, hsecond, hshares, best, best', ?_⟩
      rintro ⟨entry, member, alone⟩
      rw [best.label_eq member alone, best'.label_eq (hshares.mem_iff.mp member) fun e he =>
        alone e (hshares.mem_iff.mpr he)]

end

/-- Two lessons that share no token. -/
def strangers : List (Lesson String) := [⟨"aaa".toList, "First"⟩, ⟨"bbb".toList, "Second"⟩]

/-- Where two labels have the greatest share, the one that was taught first is predicted. -/
theorem predict_reordered_strangers :
    let bayes := taught 1 strangers
    let again := taught 1 strangers.reverse
    (0 < (1 : Rat) ∧ strangers.Perm strangers.reverse ∧
        (tokenize "bbb aaa".toList).Perm (tokenize "aaa bbb".toList)) ∧
      (∀ label, bayes.scoreOf? (tokenize "bbb aaa".toList) label =
        again.scoreOf? (tokenize "aaa bbb".toList) label) ∧
      ∃ first second, bayes.predict "bbb aaa".toList = .ok first ∧
        again.predict "aaa bbb".toList = .ok second ∧ first.shares.Perm second.shares ∧
        FirstOfBest strangers first ∧ FirstOfBest strangers.reverse second ∧
        first.label = "First" ∧ second.label = "Second" := by
  intro bayes again
  have positive : 0 < (1 : Rat) := by decide
  have reordered : strangers.Perm strangers.reverse := (List.reverse_perm _).symm
  have shuffled : (tokenize "bbb aaa".toList).Perm (tokenize "aaa bbb".toList) := by
    have htokens : tokenize "bbb aaa".toList = (tokenize "aaa bbb".toList).reverse := by cbv
    rw [htokens]
    exact List.reverse_perm _
  obtain ⟨scores, ⟨h, -⟩ | ⟨first, second, hfirst, hsecond, shares, best, best', -⟩⟩ :=
    predict_reordered positive reordered shuffled
  · cases h
  · have hone : (bayes.predict "bbb aaa".toList).toOption.map Prediction.label = some "First" := by cbv
    have htwo : (again.predict "aaa bbb".toList).toOption.map Prediction.label = some "Second" := by cbv
    rw [hfirst] at hone
    rw [hsecond] at htwo
    exact ⟨⟨positive, reordered, shuffled⟩, scores, first, second, hfirst, hsecond, shares, best, best',
      Option.some.inj hone, Option.some.inj htwo⟩

end Bayes

end Classifier

end Polyglot
