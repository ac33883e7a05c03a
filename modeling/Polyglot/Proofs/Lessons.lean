import Polyglot.Proofs.Runs

namespace Polyglot

namespace Classifier

/-- A text to learn from, with its label. -/
structure Lesson (α : Type) where
  text : List Char
  label : α

def Lesson.tokens {α : Type} (lesson : Lesson α) : List Token := tokenize lesson.text

namespace Tally

theorem count_cons (entry : Token × Nat) (rest : Tally) (token : Token) :
    count (entry :: rest) token = if entry.1 = token then entry.2 else count rest token := by
  by_cases h : entry.1 = token <;> simp [count, h]

theorem count_see (tally : Tally) (token other : Token) :
    (see token tally).count other = tally.count other + if token = other then 1 else 0 := by
  induction tally with
  | nil => by_cases h : token = other <;> simp [see, count, h]
  | cons entry rest ih =>
    rw [see]
    split <;> simp only [count_cons, ih] <;> grind

theorem total_see (token : Token) (tally : Tally) : (see token tally).total = tally.total + 1 := by
  induction tally with
  | nil => rfl
  | cons entry rest ih =>
    simp only [total] at ih
    rw [see]
    split <;> simp only [total, List.foldr_cons, ih] <;> omega

theorem keys_see (token : Token) (tally : Tally) :
    (see token tally).map Prod.fst =
      if token ∈ tally.map Prod.fst then tally.map Prod.fst else tally.map Prod.fst ++ [token] := by
  induction tally with
  | nil => rfl
  | cons entry rest ih =>
    by_cases he : entry.1 = token
    · simp [see, he]
    · rw [see, if_neg he, List.map_cons, ih]
      grind

theorem count_seeAll (tally : Tally) (tokens : List Token) (token : Token) :
    (tally.seeAll tokens).count token = tally.count token + tokens.count token := by
  induction tokens generalizing tally with
  | nil => rfl
  | cons first rest ih =>
    change (Tally.seeAll (see first tally) rest).count token = _
    rw [ih, count_see, List.count_cons]
    simp only [beq_iff_eq]
    omega

theorem total_seeAll (tally : Tally) (tokens : List Token) :
    (tally.seeAll tokens).total = tally.total + tokens.length := by
  induction tokens generalizing tally with
  | nil => rfl
  | cons first rest ih =>
    change (Tally.seeAll (see first tally) rest).total = _
    rw [ih, total_see, List.length_cons]
    omega

theorem nodup_seeAll {tally : Tally} (h : (tally.map Prod.fst).Nodup) (tokens : List Token) :
    ((tally.seeAll tokens).map Prod.fst).Nodup := by
  refine List.foldlRecOn tokens _
    (motive := fun tally : Tally => (tally.map Prod.fst).Nodup) h ?_
  intro tally h token _
  rw [keys_see]
  split
  · exact h
  · rename_i hm
    simp only [List.nodup_append, List.mem_singleton]
    exact ⟨h, List.nodup_singleton _, fun a ha b hb he => hm (hb ▸ he ▸ ha)⟩

end Tally

variable {α : Type} [DecidableEq α]

/-- The tokens of the lessons with a label. -/
def tokensOf (lessons : List (Lesson α)) (label : α) : List Token :=
  (lessons.filter (·.label = label)).flatMap Lesson.tokens

/-- What is known of a label after some lessons. -/
def Profile.ofLessons (lessons : List (Lesson α)) (label : α) : Profile α where
  label
  documents := lessons.countP (·.label = label)
  tally := Tally.seeAll [] (tokensOf lessons label)
  total := (tokensOf lessons label).length

/-- The labels of some lessons, in the order in which they were first taught. -/
def labelsOf (lessons : List (Lesson α)) : List α := (lessons.map Lesson.label).eraseDups

theorem mem_labelsOf {lessons : List (Lesson α)} {label : α} :
    label ∈ labelsOf lessons ↔ ∃ lesson ∈ lessons, lesson.label = label := by
  rw [labelsOf, List.mem_eraseDups, List.mem_map]

theorem mem_tokensOf {lessons : List (Lesson α)} {label : α} {token : Token} :
    token ∈ tokensOf lessons label ↔
      ∃ lesson ∈ lessons, lesson.label = label ∧ token ∈ lesson.tokens := by
  simp [tokensOf, and_assoc]

theorem labelsOf_concat (lessons : List (Lesson α)) (lesson : Lesson α) :
    labelsOf (lessons ++ [lesson]) =
      if lesson.label ∈ labelsOf lessons then labelsOf lessons
      else labelsOf lessons ++ [lesson.label] := by
  rw [labelsOf, List.map_append, List.map_singleton, eraseDups_concat]
  simp only [labelsOf, List.mem_eraseDups]

theorem Profile.ofLessons_concat (lessons : List (Lesson α)) (lesson : Lesson α) (label : α) :
    ofLessons (lessons ++ [lesson]) label =
      if label = lesson.label then (ofLessons lessons label).learn lesson.tokens
      else ofLessons lessons label := by
  by_cases h : lesson.label = label
  · simp [ofLessons, tokensOf, learn, h, Tally.seeAll]
  · simp [ofLessons, tokensOf, h, Ne.symm h]

theorem Profile.ofLessons_of_not_mem {lessons : List (Lesson α)} {label : α}
    (h : label ∉ lessons.map Lesson.label) : ofLessons lessons label = ⟨label, 0, [], 0⟩ := by
  have hnone (lesson : Lesson α) (hm : lesson ∈ lessons) : lesson.label ≠ label :=
    fun he => h (he ▸ List.mem_map_of_mem hm)
  have hfilter : lessons.filter (·.label = label) = [] := by simpa using hnone
  have hcount : lessons.countP (·.label = label) = 0 := by
    rw [List.countP_eq_length_filter, hfilter, List.length_nil]
  simp [ofLessons, tokensOf, hfilter, hcount, Tally.seeAll]

theorem Profile.count_ofLessons (lessons : List (Lesson α)) (label : α) (token : Token) :
    (ofLessons lessons label).tally.count token = (tokensOf lessons label).count token := by
  rw [ofLessons, Tally.count_seeAll]
  exact Nat.zero_add _

theorem Profile.total_ofLessons (lessons : List (Lesson α)) (label : α) :
    (ofLessons lessons label).tally.total = (ofLessons lessons label).total := by
  rw [ofLessons, Tally.total_seeAll]
  exact Nat.zero_add _

namespace Bayes

/-- Learns some lessons, one after the other. -/
def teach (bayes : Bayes α) (lessons : List (Lesson α)) : Bayes α :=
  lessons.foldl (fun bayes lesson => bayes.train lesson.text lesson.label) bayes

/-- A new classifier with exact shares that was taught some lessons. -/
def taught (smoothing : Rat) (lessons : List (Lesson α)) : Bayes α := teach { smoothing } lessons

theorem taught_concat (smoothing : Rat) (lessons : List (Lesson α)) (lesson : Lesson α) :
    taught smoothing (lessons ++ [lesson]) =
      (taught smoothing lessons).train lesson.text lesson.label := by
  rw [taught, teach, List.foldl_append]
  rfl

theorem learnLabel_map (profileOf : α → Profile α) (named : ∀ label, (profileOf label).label = label)
    (tokens : List Token) (label : α) {labels : List α} (nodup : labels.Nodup) :
    learnLabel tokens label (labels.map profileOf) =
      if label ∈ labels then
        labels.map fun other =>
          if other = label then (profileOf other).learn tokens else profileOf other
      else labels.map profileOf ++ [Profile.learn tokens ⟨label, 0, [], 0⟩] := by
  induction labels with
  | nil => rfl
  | cons first rest ih =>
    rw [List.nodup_cons] at nodup
    rw [List.map_cons, learnLabel, named]
    by_cases hf : first = label
    · subst hf
      have hrest (other : α) (hm : other ∈ rest) :
          (if other = first then (profileOf other).learn tokens else profileOf other) =
            profileOf other := if_neg fun he : other = first => nodup.1 (he ▸ hm)
      rw [if_pos rfl, if_pos List.mem_cons_self, List.map_cons, if_pos rfl, List.map_congr_left hrest]
    · rw [if_neg hf, ih nodup.2]
      by_cases hm : label ∈ rest
      · simp [hm, hf]
      · simp [hm, Ne.symm hf]

/-- The profiles of a taught classifier are those of the labels that were taught. -/
theorem profiles_taught (smoothing : Rat) (lessons : List (Lesson α)) :
    (taught smoothing lessons).profiles = (labelsOf lessons).map (Profile.ofLessons lessons) := by
  induction lessons using List.reverseRecOn with
  | nil => rfl
  | append_singleton lessons lesson ih =>
    have hlabels : (labelsOf lessons).Nodup := nodup_eraseDups _
    have hlearnt := learnLabel_map (Profile.ofLessons lessons) (fun _ => rfl)
      lesson.tokens lesson.label hlabels
    rw [taught_concat, train, ih, labelsOf_concat,
      funext (Profile.ofLessons_concat lessons lesson)]
    refine hlearnt.trans ?_
    split
    · rfl
    · rename_i hnew
      have hothers (label : α) (hm : label ∈ labelsOf lessons) :
          (if label = lesson.label then (Profile.ofLessons lessons label).learn lesson.tokens
            else Profile.ofLessons lessons label) = Profile.ofLessons lessons label :=
        if_neg fun he : label = lesson.label => hnew (he ▸ hm)
      have hfresh : lesson.label ∉ lessons.map Lesson.label := fun hm => hnew (List.mem_eraseDups.mpr hm)
      rw [List.map_append, List.map_congr_left hothers, List.map_singleton, if_pos rfl,
        Profile.ofLessons_of_not_mem hfresh]

theorem mem_profiles_taught {smoothing : Rat} {lessons : List (Lesson α)} {profile : Profile α} :
    profile ∈ (taught smoothing lessons).profiles ↔
      ∃ lesson ∈ lessons, profile = Profile.ofLessons lessons lesson.label := by
  rw [profiles_taught, List.mem_map]
  constructor
  · rintro ⟨label, hl, rfl⟩
    obtain ⟨lesson, hm, rfl⟩ := mem_labelsOf.mp hl
    exact ⟨lesson, hm, rfl⟩
  · rintro ⟨lesson, hm, rfl⟩
    exact ⟨lesson.label, mem_labelsOf.mpr ⟨lesson, hm, rfl⟩, rfl⟩

theorem profiles_taught_ne_nil {smoothing : Rat} {lessons : List (Lesson α)} (trained : lessons ≠ []) :
    (taught smoothing lessons).profiles ≠ [] := by
  obtain ⟨lesson, hm⟩ := List.exists_mem_of_ne_nil lessons trained
  exact List.ne_nil_of_mem (mem_profiles_taught.mpr ⟨lesson, hm, rfl⟩)

theorem labels_taught (smoothing : Rat) (lessons : List (Lesson α)) :
    (taught smoothing lessons).labels = labelsOf lessons := by
  rw [labels, profiles_taught, List.map_map]
  exact List.map_id'' (fun _ => rfl) _

theorem vocabulary_taught (smoothing : Rat) (lessons : List (Lesson α)) :
    (taught smoothing lessons).vocabulary = (lessons.flatMap Lesson.tokens).eraseDups := by
  have hmeet (known tokens : List Token) :
      tokens.foldl meet known.eraseDups = (known ++ tokens).eraseDups := by
    induction tokens generalizing known with
    | nil => rw [List.append_nil]; rfl
    | cons token rest ih =>
      have hstep : meet known.eraseDups token = (known ++ [token]).eraseDups := by
        rw [meet, eraseDups_concat]
        simp only [List.mem_eraseDups]
      rw [List.foldl_cons, hstep, ih, List.append_assoc, List.singleton_append]
  induction lessons using List.reverseRecOn with
  | nil => rfl
  | append_singleton lessons lesson ih =>
    rw [taught_concat, train, ih, hmeet]
    simp [Lesson.tokens]

theorem documents_learnLabel (tokens : List Token) (label : α) (profiles : List (Profile α)) :
    (learnLabel tokens label profiles).foldr (Profile.documents · + ·) 0 =
      profiles.foldr (Profile.documents · + ·) 0 + 1 := by
  induction profiles with
  | nil => rfl
  | cons profile rest ih =>
    rw [learnLabel]
    split <;> simp only [List.foldr_cons, Profile.learn, ih] <;> omega

theorem documents_taught (smoothing : Rat) (lessons : List (Lesson α)) :
    (taught smoothing lessons).documents = lessons.length := by
  induction lessons using List.reverseRecOn with
  | nil => rfl
  | append_singleton lessons lesson ih =>
    rw [taught_concat, documents, train, documents_learnLabel, ← documents, ih, List.length_append]
    rfl

theorem smoothing_taught (smoothing : Rat) (lessons : List (Lesson α)) :
    (taught smoothing lessons).smoothing = smoothing := by
  induction lessons using List.reverseRecOn with
  | nil => rfl
  | append_singleton lessons lesson ih => rw [taught_concat, train, ih]

theorem arithmetic_taught (smoothing : Rat) (lessons : List (Lesson α)) :
    (taught smoothing lessons).arithmetic = .exact := by
  induction lessons using List.reverseRecOn with
  | nil => rfl
  | append_singleton lessons lesson ih => rw [taught_concat, train, ih]

/-- The counters of a classifier, held against the lessons that it was taught. -/
structure Counted (lessons : List (Lesson α)) (bayes : Bayes α) : Prop where
  labels : bayes.labels = labelsOf lessons
  distinct : bayes.labels.Nodup
  documents : bayes.documents = lessons.length
  /-- Each token of a label stands once in its tally, with its number among the tokens of the lessons. -/
  once : ∀ profile ∈ bayes.profiles, (profile.tally.map Prod.fst).Nodup
  counts : ∀ profile ∈ bayes.profiles, ∀ token,
    profile.tally.count token = (tokensOf lessons profile.label).count token
  totals : ∀ profile ∈ bayes.profiles, profile.total = profile.tally.total
  met : bayes.vocabulary.Nodup
  vocabulary : ∀ token, token ∈ bayes.vocabulary ↔
    ∃ profile ∈ bayes.profiles, 0 < profile.tally.count token

theorem counted_taught (smoothing : Rat) (lessons : List (Lesson α)) :
    Counted lessons (taught smoothing lessons) where
  labels := labels_taught smoothing lessons
  distinct := labels_taught smoothing lessons ▸ nodup_eraseDups _
  documents := documents_taught smoothing lessons
  once profile hm := by
    obtain ⟨lesson, -, rfl⟩ := mem_profiles_taught.mp hm
    have hempty : (([] : Tally).map Prod.fst).Nodup := List.nodup_nil
    exact Tally.nodup_seeAll hempty _
  counts profile hm token := by
    obtain ⟨lesson, -, rfl⟩ := mem_profiles_taught.mp hm
    exact Profile.count_ofLessons lessons lesson.label token
  totals profile hm := by
    obtain ⟨lesson, -, rfl⟩ := mem_profiles_taught.mp hm
    exact (Profile.total_ofLessons lessons lesson.label).symm
  met := vocabulary_taught smoothing lessons ▸ nodup_eraseDups _
  vocabulary token := by
    rw [vocabulary_taught, List.mem_eraseDups, List.mem_flatMap]
    constructor
    · rintro ⟨lesson, hm, ht⟩
      refine ⟨_, mem_profiles_taught.mpr ⟨lesson, hm, rfl⟩, ?_⟩
      rw [Profile.count_ofLessons, List.count_pos_iff, mem_tokensOf]
      exact ⟨lesson, hm, rfl, ht⟩
    · rintro ⟨profile, hp, hcount⟩
      obtain ⟨other, -, rfl⟩ := mem_profiles_taught.mp hp
      rw [Profile.count_ofLessons, List.count_pos_iff, mem_tokensOf] at hcount
      obtain ⟨lesson, hm, -, ht⟩ := hcount
      exact ⟨lesson, hm, ht⟩

end Bayes

end Classifier

end Polyglot
