import Polyglot.Proofs.Accounts
import Polyglot.Proofs.Stages

/-!
Files that are classified side by side.

Any file that waits may be started as long as there is room, and of the files in flight any may take
its next step. They share the session and the progress. What is said of a file does not depend on
the session, and each file keeps its place, so the files say the same in whichever order they come
to an end, and the progress counts the same.
-/
namespace Polyglot.Analysis

open Polyglot.Data (Ledger)
open Polyglot.Files (Workspace)
open Polyglot.Progress (Tallies)
open Relation (ReflTransGen)

variable {σ : Type}

/-- Where a file stands. -/
inductive Status where
  | waiting
  | running (stage : Stage)
  | done (item : Classified)

def Status.isRunning : Status → Bool
  | .running _ => true
  | _ => false

def Status.item? : Status → Option Classified
  | .done item => some item
  | _ => none

/-- The phase in which files are classified: the files in the order in which they were found, what
they share, and the error that has ended the phase, if one has. -/
structure Schedule (σ : Type) where
  files : List (Entry × Status)
  session : Session σ
  progress : Progress
  failure : Option ClassifyError := none

namespace Schedule

/-- All files wait; their number is known. -/
def start (entries : List Entry) (samples : σ) : Schedule σ where
  files := entries.map (·, .waiting)
  session := { samples }
  progress := (Account.resolved [] entries.length).progress

def inFlight (schedule : Schedule σ) : Nat := schedule.files.countP (·.2.isRunning)

/-- What is said of the files that are done, each in its place. -/
def items (schedule : Schedule σ) : List Classified := schedule.files.filterMap (·.2.item?)

/-- Every file is done. -/
def Complete (schedule : Schedule σ) : Prop := ∀ file ∈ schedule.files, ∃ item, file.2 = .done item

/-- What the files that are done add up to. -/
def result (catalog : Catalog) (options : Options) (schedule : Schedule σ) : Except AnalysisError Summary :=
  ((Aggregator.addAll { catalog, options } schedule.items).2.mapError .aggregate).map Aggregator.result

section
variable (ws : Workspace) (catalog : Catalog) (options : Options) (source : SampleSource σ)

/-- What can happen next. The first error ends the phase. -/
inductive Step (schedule : Schedule σ) : Schedule σ → Prop where
  | start {before after : List (Entry × Status)} {entry : Entry} (going : schedule.failure = none)
    (files : schedule.files = before ++ (entry, .waiting) :: after)
    (room : (schedule.inFlight : Int) < options.concurrency) :
    Step schedule { schedule with files := before ++ (entry, .running .begun) :: after }
  | proceed {before after : List (Entry × Status)} {entry : Entry} {stage : Stage}
    (going : schedule.failure = none)
    (files : schedule.files = before ++ (entry, .running stage) :: after)
    (unsettled : ∀ said, stage ≠ .settled said) :
    Step schedule { schedule with
      files := before ++
        (entry, .running (stage.advance ws catalog options source entry schedule.session).1.2) :: after
      session := (stage.advance ws catalog options source entry schedule.session).2 }
  | finish {before after : List (Entry × Status)} {entry : Entry} {item : Classified}
    (going : schedule.failure = none)
    (files : schedule.files = before ++ (entry, .running (.settled (.ok item))) :: after) :
    Step schedule { schedule with
      files := before ++ (entry, .done item) :: after
      progress := schedule.progress.step (.done item.signal.name item.size) }
  | fail {before after : List (Entry × Status)} {entry : Entry} {error : ClassifyError}
    (going : schedule.failure = none)
    (files : schedule.files = before ++ (entry, .running (.settled (.error error))) :: after) :
    Step schedule { schedule with failure := some error }

end

section
variable (ws : Workspace) (catalog : Catalog) (options : Options) (source : SampleSource σ)
  (answer : Label → Except SampleFault (Option String))

/-- Where a file stands it comes, or has come, to what is said of it by itself. -/
def Accords (entry : Entry) : Status → Prop
  | .waiting => True
  | .running stage => ∀ session : Session σ,
    (stage.rest ws catalog options source entry session).1.2 = verdict ws catalog options answer entry
  | .done item => verdict ws catalog options answer entry = .ok item

/-- The files are the entries in their order, no more are in flight than may be, and the progress
has counted those that are done. -/
structure Sound (entries : List Entry) (schedule : Schedule σ) : Prop where
  inOrder : schedule.files.map Prod.fst = entries
  accords : ∀ file ∈ schedule.files, Accords ws catalog options source answer file.1 file.2
  room : (schedule.inFlight : Int) ≤ options.concurrency
  found : schedule.progress.found = entries.length
  tallies : Tallies schedule.progress schedule.items
  failure : ∀ error, schedule.failure = some error →
    ∃ entry ∈ entries, verdict ws catalog options answer entry = .error error

end

variable {ws : Workspace} {catalog : Catalog} {options : Options} {source : SampleSource σ}
  {answer : Label → Except SampleFault (Option String)} {entries : List Entry} {samples : σ}
  {schedule next : Schedule σ}

theorem start_sound (positive : 1 ≤ options.concurrency) :
    Sound ws catalog options source answer entries (.start entries samples) := by
  refine ⟨?_, ?_, ?_, rfl, ?_, nofun⟩
  · simp [start, Function.comp_def]
  · intro file hm
    obtain ⟨entry, -, rfl⟩ := List.mem_map.mp hm
    trivial
  · have hnone : (start entries samples).inFlight = 0 := by
      simp [inFlight, start, Status.isRunning]
    omega
  · have hnone : (start entries samples).items = [] := by
      simp [items, start, Status.item?]
    rw [hnone]
    exact Account.resolved_tallies [] entries.length

theorem mem_moved {before after : List (Entry × Status)} {old moved file : Entry × Status}
    (h : file ∈ before ++ moved :: after) : file = moved ∨ file ∈ before ++ old :: after := by
  rcases List.mem_append.mp h with h | h
  · exact .inr (List.mem_append_left _ h)
  · rcases List.mem_cons.mp h with rfl | h
    · exact .inl rfl
    · exact .inr (List.mem_append_right _ (List.mem_cons_of_mem _ h))

theorem tallies_perm {progress : Progress} {items others : List Classified} (h : Tallies progress items)
    (perm : items.Perm others) : Tallies progress others where
  done := h.done.trans perm.length_eq
  bytes := h.bytes.trans (perm.map Classified.size).sum_eq
  sources source := (h.sources source).trans (perm.countP_eq _)
  total := by rw [h.total, perm.length_eq]

theorem Sound.step (answers : source.Answers answer)
    (sound : Sound ws catalog options source answer entries schedule)
    (h : Step ws catalog options source schedule next) :
    Sound ws catalog options source answer entries next := by
  have hroom := sound.room
  have horder := sound.inOrder
  have htallies := sound.tallies
  cases h with
  | start going files room =>
    simp only [inFlight, items, files] at hroom horder htallies room
    refine ⟨by simpa using horder, fun file hm => ?_, ?_, sound.found, ?_, sound.failure⟩
    · rcases mem_moved hm with rfl | hm
      · exact classify_eq_verdict answers ws catalog options _
      · exact sound.accords file (files ▸ hm)
    · simp [inFlight, List.countP_append, Status.isRunning] at room ⊢
      omega
    · simpa [items, List.filterMap_append, Status.item?] using htallies
  | @proceed before after entry stage going files unsettled =>
    simp only [inFlight, items, files] at hroom horder htallies
    refine ⟨by simpa using horder, fun file hm => ?_, ?_, sound.found, ?_, sound.failure⟩
    · rcases mem_moved hm with rfl | hm
      · intro session
        have hsaid := sound.accords (entry, .running stage) (by simp [files]) schedule.session
        rw [Stage.rest_advance] at hsaid
        rw [← hsaid]
        exact Stage.rest_value answers _ _ _
      · exact sound.accords file (files ▸ hm)
    · simpa [inFlight, List.countP_append, Status.isRunning] using hroom
    · simpa [items, List.filterMap_append, Status.item?] using htallies
  | @finish before after entry item going files =>
    simp only [inFlight, items, files] at hroom horder htallies
    refine ⟨by simpa using horder, fun file hm => ?_, ?_, sound.found, ?_, sound.failure⟩
    · rcases mem_moved hm with rfl | hm
      · have hsaid := sound.accords (entry, .running (.settled (.ok item))) (by simp [files])
        exact (hsaid schedule.session).symm
      · exact sound.accords file (files ▸ hm)
    · simp [inFlight, List.countP_append, Status.isRunning] at hroom ⊢
      omega
    -- What is done is counted as it comes, and sorted as the files were found.
    · have hone := htallies.done_step item
      refine tallies_perm hone ((List.perm_append_singleton item _).trans ?_)
      simpa [items, List.filterMap_append, Status.item?] using List.perm_middle.symm
  | @fail before after entry error going files =>
    refine ⟨horder, sound.accords, hroom, sound.found, htallies, fun other he => ?_⟩
    cases he
    have hsaid := sound.accords (entry, .running (.settled (.error error))) (by simp [files])
    exact ⟨entry, by simp [← horder, files], (hsaid schedule.session).symm⟩

/-- What holds at first and is kept by every step holds in every state that is reached. -/
theorem Sound.reached (positive : 1 ≤ options.concurrency) (answers : source.Answers answer)
    (h : ReflTransGen (Step ws catalog options source) (.start entries samples) schedule) :
    Sound ws catalog options source answer entries schedule := by
  induction h with
  | refl => exact start_sound positive
  | tail _ hstep ih => exact ih.step answers hstep

theorem Sound.done_le (sound : Sound ws catalog options source answer entries schedule) :
    (schedule.progress.done : Int) ≤ schedule.progress.found := by
  have hfiles : schedule.items.length ≤ schedule.files.length := List.length_filterMap_le _ _
  rw [sound.tallies.done, sound.found, ← sound.inOrder, List.length_map]
  exact_mod_cast hfiles

theorem Sound.complete (sound : Sound ws catalog options source answer entries schedule)
    (complete : schedule.Complete) :
    entries.mapM (verdict ws catalog options answer) = .ok schedule.items := by
  have haccords := sound.accords
  rw [← sound.inOrder, mapM_eq_ok_iff, items]
  unfold Complete at complete
  generalize schedule.files = files at haccords complete
  induction files with
  | nil => rfl
  | cons file rest ih =>
    obtain ⟨item, hitem⟩ := complete file (by simp)
    have hfile := haccords file (by simp)
    rw [hitem] at hfile
    have hrest := ih (fun other hm => haccords other (List.mem_cons_of_mem _ hm))
      fun other hm => complete other (List.mem_cons_of_mem _ hm)
    rw [List.filterMap_cons, hitem]
    simp only [Status.item?, List.map_cons]
    rw [hrest]
    exact congrArg (· :: _) hfile

/-- A file in flight can be the next to end, whatever the others do: it is done, or it ends the
phase. -/
theorem finishes_next (ws : Workspace) (catalog : Catalog) (options : Options) (source : SampleSource σ)
    (going : schedule.failure = none) {before after : List (Entry × Status)}
    {entry : Entry} {stage : Stage}
    (files : schedule.files = before ++ (entry, .running stage) :: after) :
    ∃ next, ReflTransGen (Step ws catalog options source) schedule next ∧
      (next.failure.isSome = true ∨ next.failure = none ∧
        ∃ item, next.files = before ++ (entry, .done item) :: after) := by
  generalize hleft : stage.left ws catalog options entry = left
  induction left using Nat.strong_induction_on generalizing schedule stage with
  | _ left ih =>
    by_cases hsettled : ∃ said, stage = .settled said
    · obtain ⟨said, rfl⟩ := hsettled
      cases said with
      | ok item => exact ⟨_, .single (.finish going files), .inr ⟨going, item, rfl⟩⟩
      | error error => exact ⟨_, .single (.fail going files), .inl rfl⟩
    · have hunsettled : ∀ said, stage ≠ .settled said := fun said he => hsettled ⟨said, he⟩
      let advanced := (stage.advance ws catalog options source entry schedule.session).1.2
      obtain ⟨moved, hstep, hgoing, hmoved⟩ : ∃ moved, Step ws catalog options source schedule moved ∧
          moved.failure = none ∧ moved.files = before ++ (entry, .running advanced) :: after :=
        ⟨_, .proceed going files hunsettled, going, rfl⟩
      have hless : Stage.left ws catalog options entry advanced < left :=
        hleft ▸ Stage.left_advance stage schedule.session hunsettled
      obtain ⟨next, hreached, hended⟩ := ih _ hless hgoing hmoved rfl
      exact ⟨next, .head hstep hreached, hended⟩

/-- How many files are not done. -/
def unfinished (schedule : Schedule σ) : Nat := schedule.files.countP (·.2.item?.isNone)

theorem exists_running (ws : Workspace) (catalog : Catalog) (source : SampleSource σ)
    (positive : 1 ≤ options.concurrency) (going : schedule.failure = none)
    (incomplete : ¬ schedule.Complete) :
    ∃ next, ReflTransGen (Step ws catalog options source) schedule next ∧ next.failure = none ∧
      next.unfinished = schedule.unfinished ∧ ∃ before entry stage after,
        next.files = before ++ (entry, .running stage) :: after := by
  by_cases hrunning : schedule.inFlight = 0
  · obtain ⟨⟨entry, status⟩, hm, hopen⟩ : ∃ file ∈ schedule.files, ∀ item, file.2 ≠ .done item := by
      simpa [Complete] using incomplete
    obtain ⟨before, after, files⟩ := List.append_of_mem hm
    cases status with
    | waiting =>
      refine ⟨_, .single (.start going files (by omega)), going, ?_, before, entry, .begun, after, rfl⟩
      simp [unfinished, files, List.countP_append, Status.item?]
    | running stage =>
      have hnone := List.countP_eq_zero.mp hrunning _ hm
      exact absurd rfl hnone
    | done item => exact absurd rfl (hopen item)
  · obtain ⟨⟨entry, status⟩, hm, hrun⟩ := List.countP_pos_iff.mp (Nat.pos_of_ne_zero hrunning)
    obtain ⟨before, after, files⟩ := List.append_of_mem hm
    cases status with
    | running stage => exact ⟨schedule, .refl, going, rfl, before, entry, stage, after, files⟩
    | waiting => cases hrun
    | done item => cases hrun

theorem comes_to_end (ws : Workspace) (catalog : Catalog) (source : SampleSource σ)
    (positive : 1 ≤ options.concurrency) (schedule : Schedule σ) :
    ∃ last, ReflTransGen (Step ws catalog options source) schedule last ∧
      (last.Complete ∨ last.failure.isSome = true) := by
  generalize hcount : schedule.unfinished = count
  induction count using Nat.strong_induction_on generalizing schedule with
  | _ count ih =>
    by_cases going : schedule.failure = none
    · by_cases complete : schedule.Complete
      · exact ⟨schedule, .refl, .inl complete⟩
      · obtain ⟨begun, hbegun, hgoing, hsame, before, entry, stage, after, files⟩ :=
          exists_running ws catalog source positive going complete
        obtain ⟨next, hnext, failed | ⟨hgoing', item, hdone⟩⟩ :=
          finishes_next ws catalog options source hgoing files
        · exact ⟨next, hbegun.trans hnext, .inr failed⟩
        · have hless : next.unfinished < count := by
            rw [← hcount, ← hsame, unfinished, unfinished, hdone, files]
            simp [List.countP_append, Status.item?]
          obtain ⟨last, hlast, hended⟩ := ih _ hless next rfl
          exact ⟨last, (hbegun.trans hnext).trans hlast, hended⟩
    · exact ⟨schedule, .refl, .inr (Option.isSome_iff_ne_none.mpr going)⟩

end Schedule

variable {ws : Workspace} {catalog : Catalog} {options : Options} {source : SampleSource σ}
  {answer : Label → Except SampleFault (Option String)} {paths : List Path} {samples : σ}

/-- In every state that files side by side can reach, no more are in flight than may be and no more
are done than were found. When all are done, the result is that of an analysis that takes them one
after the other, and the progress has counted the same. When an error ends the phase, that analysis
fails in it as well. One of the two can always be reached. -/
theorem run_schedules (textual : catalog.Textual) (answers : source.Answers answer)
    (positive : 1 ≤ options.concurrency) {entries : List Entry} {schedule : Schedule σ}
    (resolved : (resolveInputs ws (catalog.without options.ignoredLanguages) options paths).2 = .ok entries)
    (reached : ReflTransGen (Schedule.Step ws (catalog.without options.ignoredLanguages) options source)
      (.start entries samples) schedule) :
    let known := catalog.without options.ignoredLanguages
    let outcome := run ws catalog options source paths samples
    (schedule.inFlight : Int) ≤ options.concurrency ∧
      (schedule.progress.done : Int) ≤ schedule.progress.found ∧
      (schedule.Complete → ∃ summary,
        schedule.result known options = .ok summary ∧ outcome.result = .ok summary ∧
        schedule.progress.found = outcome.progress.found ∧
        schedule.progress.done = outcome.progress.done ∧
        schedule.progress.bytes = outcome.progress.bytes ∧
        ∀ signal, (schedule.progress.sources.get? signal).getD 0 =
          (outcome.progress.sources.get? signal).getD 0) ∧
      (schedule.failure.isSome = true → ∃ error, outcome.result = .error (.classify error)) ∧
      ∃ last, ReflTransGen (Schedule.Step ws known options source) schedule last ∧
        (last.Complete ∨ last.failure.isSome = true) := by
  intro known outcome
  have sound : Schedule.Sound ws known options source answer entries schedule :=
    Schedule.Sound.reached positive answers reached
  have hsaid : classified ws catalog options source paths samples =
      (entries.mapM (verdict ws known options answer)).mapError .classify := by
    rw [classified_eq answers, resolved]
  refine ⟨sound.room, sound.done_le, fun complete => ?_, fun failed => ?_,
    Schedule.comes_to_end ws known source positive schedule⟩
  · have hall := sound.complete complete
    have hclassified : classified ws catalog options source paths samples = .ok schedule.items := by
      rw [hsaid, hall]
      rfl
    obtain ⟨summary, hsummary, -⟩ := run_ok textual hclassified
    have hresult : outcome.result = schedule.result known options := by
      rw [run_result, hclassified]
      rfl
    obtain ⟨entries', items, last, hresolved, hitems, -, -, htallies, hfound, -⟩ := run_progress hsummary
    rw [resolved] at hresolved
    cases hresolved
    rw [classifyAll_value answers, hall] at hitems
    cases hitems
    exact ⟨summary, hresult ▸ hsummary, hsummary, sound.found.trans hfound.symm,
      sound.tallies.done.trans htallies.done.symm, sound.tallies.bytes.trans htallies.bytes.symm,
      fun signal => (sound.tallies.sources signal).trans (htallies.sources signal).symm⟩
  · obtain ⟨error, herror⟩ := Option.isSome_iff_exists.mp failed
    obtain ⟨entry, hm, hverdict⟩ := sound.failure error herror
    -- One after the other the files may fail with another error, but fail they do.
    cases hall : entries.mapM (verdict ws known options answer) with
    | ok items =>
      obtain ⟨item, -, hitem⟩ := outcome_of_mapM hall hm
      rw [hverdict] at hitem
      cases hitem
    | error other =>
      refine ⟨other, run_error ?_⟩
      rw [hsaid, hall]
      rfl

/-- A workspace that holds two texts. -/
def twoFiles : Workspace := ⟨.folder [("a", .file "int a;".toUTF8), ("b", .file "int a;".toUTF8)], []⟩

def onlyC : Catalog := Catalog.ofLanguages
  [{ name := "C", category := .programming, filenames := ["a", "b"] }] (List.nodup_singleton "C") "inline"

theorem isBinary_named {name : String} (h : Files.hasBinaryExtension (named name).path = false) :
    isBinary options (named name) "int a;".toUTF8 = false := by
  have hlooks : Files.looksBinary "int a;".toUTF8 = false := by cbv
  have hrules : (named name).rules.isBinary (named name).rel = false := rfl
  rw [isBinary, h, hlooks, hrules]
  simp

theorem resolveInputs_twoFiles (catalog : Catalog) (names : List String) :
    (resolveInputs twoFiles catalog (ruleless names) [⟨"", []⟩]).2 = .ok [named "a", named "b"] := by
  cbv

/-- The second file is started and done before the first, which is in flight by then. -/
theorem run_schedules_secondFirst :
    let source := SampleSource.ofAnswer fun _ => .ok none
    ∃ schedule,
      ReflTransGen (Schedule.Step twoFiles onlyC (ruleless []) source)
        (.start [named "a", named "b"] ()) schedule ∧
      schedule.items.map Classified.path = ["a", "b"] ∧
      ∃ summary, schedule.result onlyC (ruleless []) = .ok summary ∧
        (run twoFiles onlyC (ruleless []) source [⟨"", []⟩] ()).result = .ok summary := by
  intro source
  let step := Schedule.Step twoFiles onlyC (ruleless []) source
  let session : Session Unit := { samples := () }
  have hfirst := @Stage.advance_begun _ twoFiles onlyC (ruleless []) source (named "a") _ (by cbv)
    (isBinary_named (by cbv)) (by cbv) session
  have hsecond := @Stage.advance_begun _ twoFiles onlyC (ruleless []) source (named "b") _ (by cbv)
    (isBinary_named (by cbv)) (by cbv) session
  let said (entry : Entry) : Classified := {
    path := entry.key
    label := (extraction onlyC (ruleless []) entry "int a;".toUTF8).candidates.first?
    size := "int a;".toUTF8.size
    signal := (extraction onlyC (ruleless []) entry "int a;".toUTF8).signal }
  let state (first second : Status) (progress : Progress) : Schedule Unit :=
    ⟨[(named "a", first), (named "b", second)], session, progress, none⟩
  let begun := (Account.resolved [] 2).progress
  let oneDone := begun.step (.done (said (named "b")).signal.name (said (named "b")).size)
  let bothDone := oneDone.step (.done (said (named "a")).signal.name (said (named "a")).size)
  have unsettled (said : Except ClassifyError Classified) : Stage.begun ≠ .settled said :=
    fun he => by cases he
  have h1 : step (state .waiting .waiting begun) (state .waiting (.running .begun) begun) :=
    @Schedule.Step.start _ _ _ _ _ _ [(named "a", .waiting)] [] (named "b") rfl rfl (by decide)
  have h2 : step (state .waiting (.running .begun) begun) (state (.running .begun) (.running .begun) begun) :=
    @Schedule.Step.start _ _ _ _ _ _ [] [(named "b", .running .begun)] (named "a") rfl rfl (by decide)
  have h3 : step (state (.running .begun) (.running .begun) begun)
      (state (.running .begun) (.running (.settled (.ok (said (named "b"))))) begun) := by
    have h := @Schedule.Step.proceed _ twoFiles onlyC (ruleless []) source
      (state (.running .begun) (.running .begun) begun) [(named "a", .running .begun)] []
      (named "b") .begun rfl rfl unsettled
    rwa [hsecond] at h
  have h4 : step (state (.running .begun) (.running (.settled (.ok (said (named "b"))))) begun)
      (state (.running .begun) (.done (said (named "b"))) oneDone) :=
    @Schedule.Step.finish _ _ _ _ _ _ [(named "a", .running .begun)] [] (named "b") _ rfl rfl
  have h5 : step (state (.running .begun) (.done (said (named "b"))) oneDone)
      (state (.running (.settled (.ok (said (named "a"))))) (.done (said (named "b"))) oneDone) := by
    have h := @Schedule.Step.proceed _ twoFiles onlyC (ruleless []) source
      (state (.running .begun) (.done (said (named "b"))) oneDone) []
      [(named "b", .done (said (named "b")))] (named "a") .begun rfl rfl unsettled
    rwa [hfirst] at h
  have h6 : step (state (.running (.settled (.ok (said (named "a"))))) (.done (said (named "b"))) oneDone)
      (state (.done (said (named "a"))) (.done (said (named "b"))) bothDone) :=
    @Schedule.Step.finish _ _ _ _ _ _ [] [(named "b", .done (said (named "b")))] (named "a") _ rfl rfl
  have hreached : ReflTransGen step (.start [named "a", named "b"] ())
      (state (.done (said (named "a"))) (.done (said (named "b"))) bothDone) :=
    .head h1 (.head h2 (.head h3 (.head h4 (.head h5 (.single h6)))))
  have textual : onlyC.Textual := by
    intro language hm
    rw [List.mem_singleton.mp hm]
    exact ⟨rfl, rfl⟩
  have hcomplete : (state (.done (said (named "a"))) (.done (said (named "b"))) bothDone).Complete := by
    simp [Schedule.Complete, state]
  obtain ⟨-, -, hagrees, -⟩ := @run_schedules _ twoFiles onlyC (ruleless []) source _ [⟨"", []⟩] () textual
    (SampleSource.ofAnswer_answers _) (by decide) _ _ (resolveInputs_twoFiles _ []) hreached
  obtain ⟨summary, hsummary, hresult, -⟩ := hagrees hcomplete
  exact ⟨_, hreached, rfl, summary, hsummary, hresult⟩

end Polyglot.Analysis
