import Polyglot.Proofs.Labels
import Polyglot.Proofs.Lessons

namespace Polyglot

open Polyglot.Classifier (Lesson)
open Polyglot.Detection (run_andThen)

variable {σ : Type}

/-- A label that a source was asked for, with its answer. -/
abbrev Request := Label × Except SampleFault (Option String)

/-- Whether a run goes on after an answer. -/
def Request.goesOn (request : Request) : Bool :=
  match request.2 with
  | .ok _ => true
  | .error fault => fault.recoverable

/-- The sample that was answered, if there was one. An empty text is one. -/
def Request.sample? (request : Request) : Option (Lesson Label) :=
  match request.2 with
  | .ok (some sample) => some ⟨sample.toList, request.1⟩
  | _ => none

/-- The samples among the answers, in the order in which they were asked for. -/
def samplesIn (requests : List Request) : List (Lesson Label) := requests.filterMap Request.sample?

/-- A source that answers as another one, and writes down what it was asked. -/
def SampleSource.logged (source : SampleSource σ) : SampleSource (σ × List Request) := fun label => do
  let (state, requests) ← get
  let (answer, state) := (source label).run state
  set (state, requests ++ [(label, answer)])
  return answer

/-- Some labels are asked for, each once and in their order, unless there is an answer with which no run
goes on. It is then the last. -/
inductive Asks (labels : List Label) : List Request → Except SampleFault Unit → Prop where
  | all (requests : List Request) (inOrder : requests.map Prod.fst = labels)
      (answered : ∀ request ∈ requests, request.goesOn = true) : Asks labels requests (.ok ())
  | upTo (requests : List Request) (label : Label) (others : List Label) (fault : SampleFault)
      (inOrder : requests.map Prod.fst ++ label :: others = labels)
      (answered : ∀ request ∈ requests, request.goesOn = true) (fatal : fault.recoverable = false) :
      Asks labels (requests ++ [(label, .error fault)]) (.error fault)

theorem Asks.cons {labels : List Label} {requests : List Request} {ended : Except SampleFault Unit}
    (h : Asks labels requests ended) {label : Label} {answer : Except SampleFault (Option String)}
    (answered : Request.goesOn (label, answer) = true) :
    Asks (label :: labels) ((label, answer) :: requests) ended := by
  cases h with
  | all _ inOrder rest =>
    exact .all _ (by simp [inOrder]) (List.forall_mem_cons.mpr ⟨answered, rest⟩)
  | upTo requests label others fault inOrder rest fatal =>
    exact .upTo (_ :: requests) label others fault (by simp [← inOrder])
      (List.forall_mem_cons.mpr ⟨answered, rest⟩) fatal

theorem Asks.ne_nil {labels : List Label} {requests : List Request} {ended : Except SampleFault Unit}
    (h : Asks labels requests ended) (nonempty : labels ≠ []) : requests ≠ [] := by
  cases h with
  | all _ inOrder _ =>
    rintro rfl
    exact nonempty inOrder.symm
  | upTo _ _ _ _ _ _ _ => simp

section
variable {α β : Type} {first : StateM σ α} {second : StateM (σ × List Request) α}
  {asked : List Request → α → Prop}

/-- A computation does what another does, and writes down what it asks for. -/
def Logs (first : StateM σ α) (second : StateM (σ × List Request) α)
    (asked : List Request → α → Prop) : Prop :=
  ∀ state before, ∃ requests, second.run (state, before) =
    ((first.run state).1, ((first.run state).2, before ++ requests)) ∧ asked requests (first.run state).1

theorem Logs.pure {value : α} (h : asked [] value) :
    Logs (Pure.pure value : StateM σ α) (Pure.pure value) asked :=
  fun _ before => ⟨[], by rw [List.append_nil]; rfl, h⟩

theorem Logs.bind {next : α → StateM σ β} {other : α → StateM (σ × List Request) β}
    {all : List Request → β → Prop} (h : Logs first second asked)
    (rest : ∀ value, Logs (next value) (other value) fun more out =>
      ∀ requests, asked requests value → all (requests ++ more) out) :
    Logs (first >>= next) (second >>= other) all := by
  intro state before
  obtain ⟨requests, hfirst, hasked⟩ := h state before
  obtain ⟨more, hrest, hall⟩ := rest (first.run state).1 (first.run state).2 (before ++ requests)
  refine ⟨requests ++ more, ?_, hall requests hasked⟩
  rw [run_andThen, run_andThen, hfirst, hrest, List.append_assoc]

theorem Logs.mono {asked' : List Request → α → Prop} (h : Logs first second asked)
    (imp : ∀ requests value, asked requests value → asked' requests value) :
    Logs first second asked' := by
  intro state before
  obtain ⟨requests, hrun, hasked⟩ := h state before
  exact ⟨requests, hrun, imp _ _ hasked⟩

theorem Logs.map {all : List Request → β → Prop} (h : Logs first second asked) (f : α → β)
    (imp : ∀ requests value, asked requests value → all requests (f value)) :
    Logs (f <$> first) (f <$> second) all := by
  intro state before
  obtain ⟨requests, hrun, hasked⟩ := h state before
  refine ⟨requests, ?_, imp _ _ hasked⟩
  rw [StateT.run_map, hrun]
  rfl

theorem logs_ask (source : SampleSource σ) (label : Label) :
    Logs (source label) (source.logged label) fun requests answer => requests = [(label, answer)] :=
  fun _ _ => ⟨_, rfl, rfl⟩

end

namespace Detection

open Polyglot.Classifier (Bayes)

/-- What comes of learning from some requests for labels: where it does not end with a fault, the lessons
learnt are the samples. -/
structure Learns (labels : List Label) (bayes : Bayes Label) (requests : List Request)
    (learnt : Except SampleFault (Bayes Label)) : Prop where
  asks : Asks labels requests (learnt.map fun _ => ())
  taught : ∀ after, learnt = .ok after → after = bayes.teach (samplesIn requests)

theorem Learns.cons {labels : List Label} {bayes before : Bayes Label} {requests : List Request}
    {learnt : Except SampleFault (Bayes Label)} (h : Learns labels before requests learnt) {label : Label}
    {answer : Except SampleFault (Option String)} (answered : Request.goesOn (label, answer) = true)
    (lesson : before = bayes.teach (samplesIn [(label, answer)])) :
    Learns (label :: labels) bayes ((label, answer) :: requests) learnt where
  asks := h.asks.cons answered
  taught after he := by
    rw [h.taught after he, lesson, Bayes.teach, Bayes.teach, ← List.foldl_append, samplesIn, samplesIn,
      ← List.filterMap_append]
    rfl

theorem logs_learnSamples (source : SampleSource σ) (labels : List Label) (bayes : Bayes Label) :
    Logs (learnSamples source labels bayes) (learnSamples source.logged labels bayes)
      fun requests learnt => Learns labels bayes requests learnt.2 := by
  induction labels generalizing bayes with
  | nil =>
    refine Logs.pure ⟨.all [] rfl (by simp), fun after he => ?_⟩
    cases he
    rfl
  | cons label rest ih =>
    rw [learnSamples, learnSamples]
    refine (logs_ask source label).bind fun answer => ?_
    cases answer with
    | ok sample =>
      cases sample with
      | none =>
        refine (ih bayes).mono fun requests learnt learns _ he => ?_
        rw [he]
        exact learns.cons rfl rfl
      | some sample =>
        refine (ih _).mono fun requests learnt learns _ he => ?_
        rw [he]
        exact learns.cons rfl rfl
    | error fault =>
      by_cases hr : fault.recoverable = true
      · simp only [hr, ↓reduceIte]
        refine (ih bayes).bind fun learnt => Logs.pure fun requests learns _ he => ?_
        rw [he, List.append_nil]
        exact learns.cons hr rfl
      · simp only [if_neg hr]
        refine Logs.pure fun requests he => ⟨?_, fun _ hafter => by cases hafter⟩
        rw [he]
        exact .upTo [] label rest fault rfl (by simp) (Bool.eq_false_iff.mpr hr)

/-- What a comparison with samples makes of what was learnt. -/
def conclusion (path : String) (candidates : Candidates) (content : List Char)
    (learnt : Journal × Except SampleFault (Bayes Label)) :
    Journal × Except FallbackError (Option Label) :=
  match learnt.2 with
  | .error fault => (learnt.1, .error (.sample fault))
  | .ok bayes =>
    if bayes.labels.isEmpty then
      (learnt.1 ++ [.noSamples path candidates.labels], .ok candidates.first?)
    else match bayes.predict content with
      | .error error => (learnt.1, .error (.prediction error))
      | .ok prediction => (learnt.1, .ok (some prediction.label))

theorem fallback_eq (source : SampleSource σ) (path : String) (candidates : Candidates)
    (content : List Char) : fallback source path candidates content =
      conclusion path candidates content <$> learnSamples source candidates.labels {} := by
  rw [fallback, map_eq_pure_bind]
  refine bind_congr fun learnt => ?_
  obtain ⟨journal, fault | bayes⟩ := learnt
  · rfl
  · simp only [conclusion]
    split
    · rfl
    · cases bayes.predict content <;> rfl

/-- The comparison with samples asks for the candidates. A fault that stops it is what it ends with. -/
theorem logs_fallback (source : SampleSource σ) (path : String) (candidates : Candidates)
    (content : List Char) :
    Logs (fallback source path candidates content) (fallback source.logged path candidates content)
      fun requests compared => ∃ ended, Asks candidates.labels requests ended ∧
        ∀ fault, ended = .error fault → compared.2 = .error (.sample fault) := by
  rw [fallback_eq, fallback_eq]
  refine (logs_learnSamples source candidates.labels {}).map _ fun requests learnt learns => ?_
  refine ⟨_, learns.asks, fun fault he => ?_⟩
  obtain ⟨journal, other | bayes⟩ := learnt
  · cases he
    rfl
  · cases he

end Detection

end Polyglot
