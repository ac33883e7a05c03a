import Mathlib
import Polyglot.Progress

/-!
Work that is tracked.

Work enters and leaves phases, finds files and gets them done, raises errors and catches them. Seen from the
outside it is a row of steps in which every phase that is entered is left, and it ends with an error or
without one; all such rows are those of some work. A phase is ended where it was entered; since all that was
entered after it has been left by then, it is the innermost phase that is running. Listeners are called after
each step. Whatever they do, they see the progress and do not change it, so the progress of a run is that of
its steps alone.
-/
namespace Polyglot

namespace Step

/-- The number of files that a step finds. -/
def count? : Step → Option Int
  | .found count => some count
  | _ => none

/-- The file that a step gets done: what decided it, and its size. -/
def file? : Step → Option (String × Int)
  | .done source size => some (source, size)
  | _ => none

end Step

namespace Progress

/-- Steps are counted: the last number of files that was found holds, and files that are done add up. -/
structure Counted (steps : List Step) (before after : Progress) : Prop where
  found : after.found = (steps.filterMap Step.count?).foldl (fun _ count => count) before.found
  done : after.done = before.done + (steps.filterMap Step.file?).length
  bytes : after.bytes = before.bytes + ((steps.filterMap Step.file?).map Prod.snd).sum
  sources : after.sources = ((steps.filterMap Step.file?).map Prod.fst).foldl
    (fun sources source => sources.change source 0 (· + 1)) before.sources

theorem counted_steps (steps : List Step) (progress : Progress) :
    Counted steps progress (steps.foldl step progress) := by
  induction steps generalizing progress with
  | nil => exact ⟨rfl, rfl, by simp, rfl⟩
  | cons first rest ih =>
    obtain ⟨found, done, bytes, sources⟩ := ih (progress.step first)
    rw [List.foldl_cons]
    cases first with
    | enter phase => exact ⟨found, done, bytes, sources⟩
    | leave status => exact ⟨found, done, bytes, sources⟩
    | found count => exact ⟨found, done, bytes, sources⟩
    | done source size =>
      refine ⟨found, ?_, ?_, sources⟩
      · rw [done]
        simp [step, Step.file?]
        omega
      · rw [bytes]
        simp [step, Step.file?]
        omega

/-- The progress after each of some steps. -/
def after : Progress → List Step → List Progress
  | _, [] => []
  | progress, step :: rest => progress.step step :: (progress.step step).after rest

theorem endFirst_of_ended {status : PhaseStatus} {ended rest : List Phase}
    (h : ∀ phase ∈ ended, phase.status ≠ .running) :
    endFirst status (ended ++ rest) = ended ++ endFirst status rest := by
  induction ended with
  | nil => rfl
  | cons phase others ih =>
    rw [List.cons_append, endFirst, if_neg (h phase List.mem_cons_self),
      ih fun other ho => h other (List.mem_cons_of_mem _ ho), List.cons_append]

theorem endInnermost_of_ended (status : PhaseStatus) (name : String) {before ended : List Phase}
    (h : ∀ phase ∈ ended, phase.status ≠ .running) :
    endInnermost status (before ++ { name } :: ended) = before ++ { name, status } :: ended := by
  have hreverse : (before ++ { name } :: ended).reverse = ended.reverse ++ { name } :: before.reverse := by
    simp
  rw [endInnermost, hreverse, endFirst_of_ended (by simpa using h)]
  simp [endFirst]

theorem innermost?_of_ended (progress : Progress) (name : String) {before ended : List Phase}
    (h : ∀ phase ∈ ended, phase.status ≠ .running)
    (phases : progress.phases = before ++ { name } :: ended) : progress.innermost? = some { name } := by
  have hnone : ended.reverse.find? (·.status == .running) = none := by
    simpa using h
  rw [innermost?, phases]
  simp [List.find?_append, hnone]

theorem endAt_of_entered (progress : Progress) (status : PhaseStatus) {phase : Phase} {before since : List Phase}
    (phases : progress.phases = before ++ phase :: since) :
    progress.endAt before.length status =
      { progress with phases := before ++ { phase with status } :: since } := by
  rw [endAt, phases, List.modify_eq_take_cons_drop (by simp)]
  simp

end Progress

namespace Tracker

variable {ρ : Type}

@[simp] theorem progress_call (tracker : Tracker ρ) (listener : Listener ρ) :
    (tracker.call listener).progress = tracker.progress := by
  unfold call
  split <;> rfl

@[simp] theorem listeners_call (tracker : Tracker ρ) (listener : Listener ρ) :
    (tracker.call listener).listeners = tracker.listeners := by
  unfold call
  split <;> rfl

theorem records_call (tracker : Tracker ρ) (listener : Listener ρ) :
    (tracker.call listener).records = (listener tracker.progress tracker.records).2 := by
  unfold call
  split <;> rename_i h <;> rw [h]

theorem foldl_call (listeners : List (Listener ρ)) (tracker : Tracker ρ) :
    (listeners.foldl call tracker).progress = tracker.progress ∧
      (listeners.foldl call tracker).listeners = tracker.listeners ∧
      (listeners.foldl call tracker).records =
        listeners.foldl (fun records listener => (listener tracker.progress records).2) tracker.records := by
  induction listeners generalizing tracker with
  | nil => exact ⟨rfl, rfl, rfl⟩
  | cons listener rest ih =>
    obtain ⟨hprogress, hlisteners, hrecords⟩ := ih (tracker.call listener)
    rw [List.foldl_cons, List.foldl_cons, ← records_call]
    rw [progress_call] at hprogress hrecords
    rw [listeners_call] at hlisteners
    exact ⟨hprogress, hlisteners, hrecords⟩

@[simp] theorem progress_change (tracker : Tracker ρ) (progress : Progress) (journal : Journal) :
    (tracker.change progress journal).progress = progress := (foldl_call _ _).1

@[simp] theorem listeners_change (tracker : Tracker ρ) (progress : Progress) (journal : Journal) :
    (tracker.change progress journal).listeners = tracker.listeners := (foldl_call _ _).2.1

@[simp] theorem progress_step (tracker : Tracker ρ) (step : Step) :
    (tracker.step step).progress = tracker.progress.step step := progress_change _ _ _

@[simp] theorem listeners_step (tracker : Tracker ρ) (step : Step) :
    (tracker.step step).listeners = tracker.listeners := listeners_change _ _ _

/-- The calls when listeners are shown some progress, one after the other: each time each of them is called
once, in the order in which they came. -/
def callsOf (listeners : List (Listener ρ)) (shown : List Progress) : List (Listener ρ × Progress) :=
  shown.flatMap fun progress => listeners.map fun listener => (listener, progress)

/-- What calls leave of the records. -/
def keptBy (calls : List (Listener ρ × Progress)) (records : List ρ) : List ρ :=
  calls.foldl (fun records call => (call.1 call.2 records).2) records

theorem records_step (tracker : Tracker ρ) (step : Step) : (tracker.step step).records =
    keptBy (tracker.listeners.map fun listener => (listener, tracker.progress.step step)) tracker.records := by
  rw [keptBy, List.foldl_map]
  exact (foldl_call _ _).2.2

theorem progress_steps (steps : List Step) (tracker : Tracker ρ) :
    (steps.foldl step tracker).progress = steps.foldl Progress.step tracker.progress := by
  induction steps generalizing tracker with
  | nil => rfl
  | cons first rest ih => rw [List.foldl_cons, List.foldl_cons, ih, progress_step]

theorem listeners_steps (steps : List Step) (tracker : Tracker ρ) :
    (steps.foldl step tracker).listeners = tracker.listeners := by
  induction steps generalizing tracker with
  | nil => rfl
  | cons first rest ih => rw [List.foldl_cons, ih, listeners_step]

theorem records_steps (steps : List Step) (tracker : Tracker ρ) : (steps.foldl step tracker).records =
    keptBy (callsOf tracker.listeners (tracker.progress.after steps)) tracker.records := by
  induction steps generalizing tracker with
  | nil => rfl
  | cons first rest ih =>
    rw [List.foldl_cons, ih, records_step, listeners_step, progress_step, Progress.after, callsOf, callsOf,
      List.flatMap_cons, keptBy, keptBy, keptBy, List.foldl_append]

/-- What is reported, but for the failures of listeners. -/
def reported (tracker : Tracker ρ) : Journal := tracker.journal.filter (· != .listenerFailed)

theorem reported_foldl_call (listeners : List (Listener ρ)) (tracker : Tracker ρ) :
    (listeners.foldl call tracker).reported = tracker.reported := by
  induction listeners generalizing tracker with
  | nil => rfl
  | cons listener rest ih =>
    rw [List.foldl_cons, ih, call]
    split
    · rfl
    · simp [reported]

theorem reported_step (tracker : Tracker ρ) (step : Step) : (tracker.step step).reported =
    tracker.reported ++ (tracker.progress.journalOf step).filter (· != .listenerFailed) := by
  rw [Tracker.step, change, notify, reported_foldl_call]
  exact List.filter_append _ _

theorem reported_steps (steps : List Step) {first second : Tracker ρ}
    (progress : first.progress = second.progress) (reported : first.reported = second.reported) :
    (steps.foldl step first).reported = (steps.foldl step second).reported := by
  induction steps generalizing first second with
  | nil => exact reported
  | cons next rest ih =>
    apply ih
    · rw [progress_step, progress_step, progress]
    · rw [reported_step, reported_step, progress, reported]

/-- Leaving the innermost phase that is running ends the phase at the place where it was entered. -/
theorem step_leave (tracker : Tracker ρ) (status : PhaseStatus) {name : String} {before since : List Phase}
    (phases : tracker.progress.phases = before ++ { name } :: since)
    (ended : ∀ phase ∈ since, phase.status ≠ .running) :
    tracker.step (.leave status) = tracker.change (tracker.progress.endAt before.length status)
      (match status with
        | .failed _ => [.phaseFailed name]
        | _ => [.phaseDone name]) := by
  have hprogress : tracker.progress.step (.leave status) = tracker.progress.endAt before.length status := by
    rw [Progress.endAt_of_entered _ status phases, Progress.step, phases,
      Progress.endInnermost_of_ended status name ended]
  rw [step, hprogress]
  cases status <;> simp [Progress.journalOf, Progress.innermost?_of_ended _ name ended phases]

end Tracker

/-- What is done while it is tracked. -/
inductive Work (ε : Type) where
  | nothing
  | found (count : Int)
  | done (source : String) (size : Int)
  | raise (error : ε)
  | andThen (first next : Work ε)
  | phase (name : String) (work : Work ε)
  | catching (work : Work ε) (handler : ε → Work ε)

namespace Work

variable {ε ρ : Type}

/-- The error that comes out of work, if any. -/
def error? : Work ε → Option ε
  | nothing | found _ | done .. => none
  | raise error => some error
  | andThen first next => first.error?.or next.error?
  | phase _ work => work.error?
  | catching work handler => work.error?.bind fun error => (handler error).error?

variable [ToString ε]

/-- How a phase is left by an error, or without one. -/
def leftBy : Option ε → PhaseStatus
  | none => .completed
  | some error => .failed (toString error)

/-- The phases of work in the order in which they are entered, each with how it is left: an error that comes
out of what is done in a phase fails the phase. -/
def phases : Work ε → List Phase
  | nothing | found _ | done .. | raise _ => []
  | andThen first next => first.phases ++ if first.error?.isSome then [] else next.phases
  | phase name work => { name, status := leftBy work.error? } :: work.phases
  | catching work handler => work.phases ++ match work.error? with
    | none => []
    | some error => (handler error).phases

/-- The steps of work. -/
def steps : Work ε → List Step
  | nothing | raise _ => []
  | found count => [.found count]
  | done source size => [.done source size]
  | andThen first next => first.steps ++ if first.error?.isSome then [] else next.steps
  | phase name work => .enter name :: (work.steps ++ [.leave (leftBy work.error?)])
  | catching work handler => work.steps ++ match work.error? with
    | none => []
    | some error => (handler error).steps

/-- Does work with a tracker. -/
def perform : Work ε → Tracker ρ → Except ε Unit × Tracker ρ
  | nothing, tracker => (.ok (), tracker)
  | found count, tracker => (.ok (), tracker.step (.found count))
  | done source size, tracker => (.ok (), tracker.step (.done source size))
  | raise error, tracker => (.error error, tracker)
  | andThen first next, tracker => match first.perform tracker with
    | (.ok (), tracker) => next.perform tracker
    | (.error error, tracker) => (.error error, tracker)
  | phase name work, tracker => tracker.phase name work.perform
  | catching work handler, tracker => match work.perform tracker with
    | (.ok (), tracker) => (.ok (), tracker)
    | (.error error, tracker) => (handler error).perform tracker

section
variable (work : Work ε)

theorem leftBy_ne_running (error? : Option ε) : leftBy error? ≠ .running := by
  cases error? <;> simp [leftBy]

theorem phases_ended : ∀ phase ∈ work.phases, phase.status ≠ .running := by
  induction work with
  | nothing | found | done | raise => simp [phases]
  | andThen first next ihFirst ihNext =>
    simp only [phases, List.mem_append]
    rintro phase (hm | hm)
    · exact ihFirst phase hm
    · split at hm
      · cases hm
      · exact ihNext phase hm
  | phase name work ih =>
    simp only [phases, List.forall_mem_cons]
    exact ⟨leftBy_ne_running _, ih⟩
  | catching work handler ihWork ihHandler =>
    simp only [phases, List.mem_append]
    rintro phase (hm | hm)
    · exact ihWork phase hm
    · split at hm
      · cases hm
      · exact ihHandler _ phase hm

theorem phases_steps (progress : Progress) :
    (work.steps.foldl Progress.step progress).phases = progress.phases ++ work.phases := by
  induction work generalizing progress with
  | nothing | found | done | raise => simp [steps, phases, Progress.step]
  | andThen first next ihFirst ihNext =>
    simp only [steps, phases, List.foldl_append]
    cases first.error? with
    | some error => simp [ihFirst]
    | none => simp [ihFirst, ihNext]
  | phase name work ih =>
    have hentered := ih (progress.step (.enter name))
    simp only [Progress.step, List.append_assoc, List.singleton_append] at hentered
    simp only [steps, phases, List.foldl_cons, List.foldl_append, List.foldl_nil, Progress.step, hentered]
    exact Progress.endInnermost_of_ended _ _ work.phases_ended
  | catching work handler ihWork ihHandler =>
    simp only [steps, phases, List.foldl_append]
    cases work.error? with
    | some error => simp [ihWork, ihHandler]
    | none => simp [ihWork]

/-- How work ends. -/
def ending : Except ε Unit :=
  match work.error? with
  | none => .ok ()
  | some error => .error error

theorem perform_eq (tracker : Tracker ρ) :
    work.perform tracker = (work.ending, work.steps.foldl Tracker.step tracker) := by
  induction work generalizing tracker with
  | nothing | found | done | raise => rfl
  | andThen first next ihFirst ihNext =>
    simp only [perform, ihFirst, ihNext, steps, ending, error?]
    cases first.error? <;> simp
  | phase name work ih =>
    have hphases : (work.steps.foldl Tracker.step (tracker.step (.enter name))).progress.phases =
        tracker.progress.phases ++ { name } :: work.phases := by
      rw [Tracker.progress_steps, phases_steps, Tracker.progress_step]
      simp [Progress.step]
    simp only [perform, Tracker.phase, ih, steps, List.foldl_cons, List.foldl_append, List.foldl_nil,
      Tracker.step_leave _ _ hphases work.phases_ended, ending, error?]
    cases work.error? <;> rfl
  | catching work handler ihWork ihHandler =>
    simp only [perform, ihWork, ihHandler, steps, ending, error?]
    cases work.error? <;> simp

end

/-- Something is done in a phase, with other work before it and behind it. -/
structure Frame (ε : Type) where
  name : String
  before : Work ε
  behind : Work ε

/-- Work within phases, the outermost first. -/
def within : List (Frame ε) → Work ε → Work ε
  | [], work => work
  | frame :: inner, work =>
    .phase frame.name (.andThen frame.before (.andThen (within inner work) frame.behind))

theorem within_fails {enclosing : List (Frame ε)} (calm : ∀ frame ∈ enclosing, frame.before.error? = none)
    {inner : Work ε} {error : ε} (raised : inner.error? = some error) :
    (within enclosing inner).error? = some error ∧
      (within enclosing inner).phases = (enclosing.flatMap fun frame =>
        { name := frame.name, status := .failed (toString error) } :: frame.before.phases) ++
          inner.phases := by
  induction enclosing with
  | nil => exact ⟨raised, rfl⟩
  | cons frame rest ih =>
    have hbefore := calm frame List.mem_cons_self
    obtain ⟨herror, hphases⟩ := ih fun other ho => calm other (List.mem_cons_of_mem _ ho)
    constructor
    · simp [within, error?, hbefore, herror]
    · simp [within, error?, phases, hbefore, herror, hphases, leftBy]

/-- Rows of steps in which each phase that is entered is left, after all that was entered in it. -/
inductive WellNested : List Step → Prop where
  | nil : WellNested []
  | found (count : Int) {rest : List Step} (h : WellNested rest) : WellNested (.found count :: rest)
  | done (source : String) (size : Int) {rest : List Step} (h : WellNested rest) :
      WellNested (.done source size :: rest)
  | phase (name : String) {status : PhaseStatus} (left : status ≠ .running) {inner rest : List Step}
      (inside : WellNested inner) (h : WellNested rest) :
      WellNested (.enter name :: (inner ++ .leave status :: rest))

theorem WellNested.append {first next : List Step} (hf : WellNested first) (hn : WellNested next) :
    WellNested (first ++ next) := by
  induction hf with
  | nil => exact hn
  | found count _ ih => exact .found count ih
  | done source size _ ih => exact .done source size ih
  | phase name left inside _ _ ih =>
    rw [List.cons_append, List.append_assoc, List.cons_append]
    exact .phase name left inside ih

theorem wellNested_steps (work : Work ε) : WellNested work.steps := by
  induction work with
  | nothing | raise => exact .nil
  | found count => exact .found count .nil
  | done source size => exact .done source size .nil
  | andThen first next ihFirst ihNext =>
    simp only [steps]
    split
    · exact ihFirst.append .nil
    · exact ihFirst.append ihNext
  | phase name work ih => exact .phase name (leftBy_ne_running _) ih .nil
  | catching work handler ihWork ihHandler =>
    simp only [steps]
    split
    · exact ihWork.append .nil
    · exact ihWork.append (ihHandler _)

theorem WellNested.exists_work {steps : List Step} (h : WellNested steps) :
    ∃ work : Work String, work.error? = none ∧ work.steps = steps := by
  induction h with
  | nil => exact ⟨.nothing, rfl, rfl⟩
  | found count _ ih =>
    obtain ⟨work, herror, rfl⟩ := ih
    exact ⟨.andThen (.found count) work, herror, rfl⟩
  | done source size _ ih =>
    obtain ⟨work, herror, rfl⟩ := ih
    exact ⟨.andThen (.done source size) work, herror, rfl⟩
  | @phase name status left inner rest _ _ ihInside ih =>
    obtain ⟨inside, hinside, rfl⟩ := ihInside
    obtain ⟨work, herror, rfl⟩ := ih
    cases status with
    | running => exact absurd rfl left
    | completed =>
      refine ⟨.andThen (.phase name inside) work, ?_, ?_⟩
      · simp [error?, hinside, herror]
      · simp [Work.steps, error?, hinside, leftBy]
    | failed text =>
      -- The error is raised at the end of the phase, and caught behind it.
      refine ⟨.andThen (.catching (.phase name (.andThen inside (.raise text))) fun _ => .nothing) work,
        ?_, ?_⟩
      · simp [error?, hinside, herror]
      · simp [Work.steps, error?, hinside, leftBy]
        rfl

theorem wellNested_iff {steps : List Step} :
    WellNested steps ↔ ∃ work : Work String, work.error? = none ∧ work.steps = steps := by
  constructor
  · exact WellNested.exists_work
  · rintro ⟨work, -, rfl⟩
    exact work.wellNested_steps

/-- What work comes to with a tracker whose listeners hear of it. -/
structure Tracks (work : Work ε) (before : Tracker ρ) (result : Except ε Unit) (after : Tracker ρ) :
    Prop where
  /-- An error that nothing catches reaches the caller. -/
  result_eq : result = work.ending
  nested : WellNested work.steps
  taken : after = work.steps.foldl Tracker.step before
  phases : after.progress.phases = before.progress.phases ++ work.phases
  counted : Progress.Counted work.steps before.progress after.progress
  /-- An error that passes through phases reaches the caller and fails them. -/
  passed : ∀ enclosing inner error, work = within enclosing inner →
    (∀ frame ∈ enclosing, frame.before.error? = none) → inner.error? = some error →
      result = .error error ∧ after.progress.phases = before.progress.phases ++
        ((enclosing.flatMap fun frame =>
          { name := frame.name, status := .failed (toString error) } :: frame.before.phases) ++ inner.phases)
  listeners : after.listeners = before.listeners
  /-- Each listener is called once after each step, in the order in which they came. -/
  records : after.records =
    Tracker.keptBy (Tracker.callsOf before.listeners (before.progress.after work.steps)) before.records

theorem tracks_perform (work : Work ε) (tracker : Tracker ρ) :
    work.Tracks tracker (work.perform tracker).1 (work.perform tracker).2 := by
  have hphases : (work.steps.foldl Tracker.step tracker).progress.phases =
      tracker.progress.phases ++ work.phases := by
    rw [Tracker.progress_steps, phases_steps]
  rw [perform_eq]
  constructor
  case result_eq => rfl
  case nested => exact work.wellNested_steps
  case taken => rfl
  case phases => exact hphases
  case counted =>
    rw [Tracker.progress_steps]
    exact Progress.counted_steps _ _
  case passed =>
    rintro enclosing inner error rfl calm raised
    obtain ⟨herror, hfailed⟩ := within_fails calm raised
    constructor
    · simp only [ending, herror]
    · rw [hphases, hfailed]
  case listeners => exact Tracker.listeners_steps _ _
  case records => exact Tracker.records_steps _ _

/-- Whatever listeners do, work ends as it does where nobody listens, with the same progress, and but for
their failures the same is reported. This holds for all well-nested rows of steps: they are those of work. -/
theorem perform_undisturbed (tracker : Tracker ρ) :
    (∀ work : Work ε,
      let heard := work.perform tracker
      let unheard := work.perform { tracker with listeners := [] }
      work.Tracks tracker heard.1 heard.2 ∧ heard.1 = unheard.1 ∧
        heard.2.progress = unheard.2.progress ∧ heard.2.reported = unheard.2.reported) ∧
    ∀ steps, WellNested steps ↔ ∃ work : Work String, work.error? = none ∧ work.steps = steps := by
  constructor
  · intro work heard unheard
    refine ⟨tracks_perform work tracker, ?_, ?_, ?_⟩
    · simp only [heard, unheard, perform_eq]
    · simp only [heard, unheard, perform_eq, Tracker.progress_steps]
    · simp only [heard, unheard, perform_eq]
      exact Tracker.reported_steps work.steps rfl rfl
  · intro steps
    exact wellNested_iff

/-- The error passes through two phases. The first listener fails each time, after it has kept a record. -/
example :
    let work : Work String := .phase "classify" (.andThen (.found 2) (.phase "read" (.raise "disk error")))
    let tracker : Tracker (String × Nat) := { listeners := [
      fun progress records => (.error "broken", records ++ [("first", progress.phases.length)]),
      fun progress records => (.ok (), records ++ [("second", progress.phases.length)])] }
    (work.perform tracker).2.progress = { found := 2, phases := [
      { name := "classify", status := .failed "disk error" },
      { name := "read", status := .failed "disk error" }] } ∧
    (work.perform tracker).2.records = [("first", 1), ("second", 1), ("first", 1), ("second", 1),
      ("first", 2), ("second", 2), ("first", 2), ("second", 2), ("first", 2), ("second", 2)] := by decide

end Work

end Polyglot
