import Polyglot.Proofs.Predictions
import Polyglot.Proofs.Requests

namespace Polyglot.Detection

open Polyglot.Classifier (Bayes Lesson Profile tokenize tokensOf labelsOf variety scoreIn shareIn)

/-- How likely the tokens of a content are in a sample among others, with each counted once more. -/
def likelihood (samples : List (Lesson Label)) (content : List Char) (sample : Lesson Label) : Rat :=
  ((tokenize content).map fun token =>
    ((sample.tokens.count token + 1) / (sample.tokens.length + variety samples) : Rat)).prod

/-- What a comparison comes to after some requests: the first candidate without any sample, else the
first with the likeliest sample. A fault that ends the requests ends the comparison. -/
inductive Concludes (candidates : Candidates) (content : List Char) (requests : List Request) :
    Except SampleFault Unit → Except FallbackError (Option Label) → Prop where
  | broken (fault : SampleFault) :
      Concludes candidates content requests (.error fault) (.error (.sample fault))
  | first (none : samplesIn requests = []) :
      Concludes candidates content requests (.ok ()) (.ok candidates.first?)
  | likeliest (sample : Lesson Label)
      (best : (samplesIn requests).argmax (likelihood (samplesIn requests) content) = some sample) :
      Concludes candidates content requests (.ok ()) (.ok (some sample.label))

theorem mem_samplesIn {requests : List Request} {sample : Lesson Label}
    (h : sample ∈ samplesIn requests) : ∃ text, (sample.label, .ok (some text)) ∈ requests := by
  obtain ⟨⟨label, answer⟩, hm, hsample⟩ := List.mem_filterMap.mp h
  rw [Request.sample?] at hsample
  split at hsample
  · rename_i text he
    cases hsample
    cases he
    exact ⟨text, hm⟩
  · cases hsample

theorem labels_samplesIn (requests : List Request) :
    ((samplesIn requests).map Lesson.label).Sublist (requests.map Prod.fst) := by
  induction requests with
  | nil => exact List.Sublist.slnil
  | cons request rest ih =>
    obtain ⟨label, fault | _ | text⟩ := request
    · exact ih.cons _
    · exact ih.cons _
    · exact ih.cons_cons _

theorem labels_asked {labels : List Label} {requests : List Request} {ended : Except SampleFault Unit}
    (h : Asks labels requests ended) : (requests.map Prod.fst).Sublist labels := by
  cases h with
  | all _ inOrder _ => exact inOrder ▸ List.Sublist.refl _
  | upTo requests label others _ inOrder _ _ =>
    rw [← inOrder, List.map_append, List.map_singleton]
    exact (List.Sublist.refl _).append (List.singleton_sublist.mpr List.mem_cons_self)

section
variable {samples : List (Lesson Label)} (distinct : (samples.map Lesson.label).Nodup)
include distinct

theorem filter_label {sample : Lesson Label} (h : sample ∈ samples) :
    samples.filter (·.label = sample.label) = [sample] := by
  induction samples with
  | nil => cases h
  | cons first rest ih =>
    rw [List.map_cons, List.nodup_cons] at distinct
    have hother (other : Lesson Label) (hm : other ∈ rest) : other.label ≠ first.label :=
      fun he => distinct.1 (he ▸ List.mem_map_of_mem hm)
    rcases List.mem_cons.mp h with rfl | hm
    · simpa using hother
    · simp [Ne.symm (hother sample hm), ih distinct.2 hm]

/-- Each label has the same share of the lessons, so that the tokens decide. -/
theorem scoreIn_of_distinct (content : List Char) {sample : Lesson Label} (h : sample ∈ samples) :
    scoreIn 1 samples (tokenize content) sample.label =
      1 / samples.length * likelihood samples content sample := by
  have hfilter := filter_label distinct h
  have htokens : tokensOf samples sample.label = sample.tokens := by
    rw [tokensOf, hfilter, List.flatMap_singleton]
  have hshare (token : Classifier.Token) : shareIn 1 samples sample.label token =
      (sample.tokens.count token + 1) / (sample.tokens.length + variety samples) := by
    rw [shareIn, htokens, one_mul]
  rw [scoreIn, List.countP_eq_length_filter, hfilter, List.length_singleton, Nat.cast_one, likelihood,
    funext hshare]

theorem predicts_likeliest {content : List Char} {prediction : Classifier.Prediction Label}
    (h : (Bayes.taught 1 samples).Predicts (tokenize content) prediction) :
    ∃ sample, samples.argmax (likelihood samples content) = some sample ∧
      prediction.label = sample.label := by
  let profileOf (sample : Lesson Label) : Profile Label := .ofLessons samples sample.label
  have hprofiles : (Bayes.taught 1 samples).profiles = samples.map profileOf := by
    rw [Bayes.profiles_taught, labelsOf, eraseDups_eq_self distinct, List.map_map]
    rfl
  have hscore (sample : Lesson Label) (hm : sample ∈ samples) :
      (Bayes.taught 1 samples).score (tokenize content) (profileOf sample) =
        1 / samples.length * likelihood samples content sample := by
    rw [Bayes.score_taught one_pos, scoreIn_of_distinct distinct content hm]
  have hbest : samples.argmax ((Bayes.taught 1 samples).score (tokenize content) ∘ profileOf) =
      samples.argmax (likelihood samples content) := by
    refine argmax_congr fun sample hs other ho => ?_
    have hlength : 0 < samples.length := List.length_pos_of_mem hs
    have hshare : (0 : Rat) < 1 / samples.length := by positivity
    rw [Function.comp_apply, Function.comp_apply, hscore sample hs, hscore other ho,
      mul_lt_mul_iff_right₀ hshare]
  have hlabel := h.label
  rw [hprofiles, argmax_map, hbest, Option.map_map] at hlabel
  obtain ⟨sample, hlikeliest, he⟩ := Option.map_eq_some_iff.mp hlabel
  exact ⟨sample, hlikeliest, he.symm⟩

end

section
variable (path : String) (candidates : Candidates) (content : List Char) (journal : Journal)

theorem conclusion_untaught :
    (conclusion path candidates content (journal, .ok (.taught 1 []))).2 = .ok candidates.first? := rfl

theorem conclusion_taught {lessons : List (Lesson Label)} (trained : lessons ≠ []) :
    ∃ prediction, (Bayes.taught 1 lessons).predict content = .ok prediction ∧
      (Bayes.taught 1 lessons).Predicts (tokenize content) prediction ∧
      (conclusion path candidates content (journal, .ok (.taught 1 lessons))).2 =
        .ok (some prediction.label) := by
  obtain ⟨prediction, hp, hpredicts⟩ := Bayes.predict_taught one_pos trained content
  have hprofiles : (Bayes.taught 1 lessons).profiles ≠ [] := Bayes.profiles_taught_ne_nil trained
  have hlabels : ¬ (Bayes.taught 1 lessons).labels.isEmpty = true := by
    simpa [Bayes.labels] using hprofiles
  refine ⟨prediction, hp, hpredicts, ?_⟩
  simp only [conclusion, if_neg hlabels, hp]

end

theorem Learns.concludes {candidates : Candidates} {requests : List Request} {journal : Journal}
    {learnt : Except SampleFault (Bayes Label)} (learns : Learns candidates.labels {} requests learnt)
    (distinct : candidates.labels.Nodup) (path : String) (content : List Char) :
    Concludes candidates content requests (learnt.map fun _ => ())
      (conclusion path candidates content (journal, learnt)).2 := by
  cases learnt with
  | error fault => exact .broken fault
  | ok bayes =>
    obtain rfl : bayes = .taught 1 (samplesIn requests) := learns.taught bayes rfl
    by_cases hnone : samplesIn requests = []
    · rw [hnone, conclusion_untaught]
      exact .first hnone
    · have hlabels := (labels_samplesIn requests).trans (labels_asked learns.asks)
      obtain ⟨prediction, -, hpredicts, hlabel⟩ :=
        conclusion_taught path candidates content journal hnone
      obtain ⟨sample, hbest, he⟩ := predicts_likeliest (distinct.sublist hlabels) hpredicts
      rw [hlabel, he]
      exact .likeliest sample hbest

/-- The comparison with samples asks for the candidates, each once, up to an answer with which no run
goes on. If there is none, it gives the first of the candidates with the likeliest sample, and without
any sample the first candidate. -/
theorem fallback_likeliest {σ : Type} (source : SampleSource σ) (path : String) (labels : List Label)
    (content : List Char) (state : σ) :
    let candidates := Candidates.ofList labels
    let compared := (fallback source path candidates content).run state
    ∃ requests ended,
      (fallback source.logged path candidates content).run (state, []) =
        (compared.1, (compared.2, requests)) ∧
      Asks candidates.labels requests ended ∧
      Concludes candidates content requests ended compared.1.2 ∧
      (samplesIn requests ≠ [] → ∀ label, compared.1.2 = .ok (some label) →
        ∃ text, (label, .ok (some text)) ∈ requests) := by
  intro candidates compared
  have hlogs : Logs (fallback source path candidates content)
      (fallback source.logged path candidates content) fun requests compared => ∃ ended,
        Asks candidates.labels requests ended ∧
          Concludes candidates content requests ended compared.2 := by
    rw [fallback_eq, fallback_eq]
    refine (logs_learnSamples source candidates.labels {}).map _ fun requests learnt learns => ?_
    exact ⟨_, learns.asks, learns.concludes (Candidates.nodup_ofList labels) path content⟩
  obtain ⟨requests, hrun, ended, asks, concludes⟩ := hlogs state []
  refine ⟨requests, ended, hrun, asks, concludes, fun sampled label hlabel => ?_⟩
  generalize hresult : compared.1.2 = result at hlabel concludes
  cases concludes with
  | broken fault => cases hlabel
  | first none => exact absurd none sampled
  | likeliest sample best =>
    cases hlabel
    exact mem_samplesIn (List.argmax_mem best)

/-- A source with a fault of its own for one label, and a text for all others. -/
def patchy : SampleSource Unit := fun label =>
  pure (if label = .text "A" then .error (.other "no sample") else .ok (some "x"))

/-- A fault of the source itself is the last answer, and not left out as a sample that is missing. -/
theorem fallback_cutShort :
    let candidates := Candidates.ofList [.text "A", .text "B"]
    let (compared, _, requests) := (fallback patchy.logged "" candidates "x".toList).run ((), [])
    candidates.labels = [.text "A", .text "B"] ∧ requests.map Prod.fst = [.text "A"] ∧
      compared.2 = .error (.sample (.other "no sample")) ∧ compared.2 ≠ .ok (some (.text "B")) := by
  have hcandidates : Candidates.ofList [.text "A", .text "B"] = ⟨[.text "A", .text "B"]⟩ := by decide
  rw [hcandidates]
  refine ⟨rfl, rfl, rfl, ?_⟩
  intro h
  cases h

end Polyglot.Detection
