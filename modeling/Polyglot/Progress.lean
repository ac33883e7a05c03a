import Polyglot.Data.Ledger
import Polyglot.Journal

namespace Polyglot

open Polyglot.Data (Ledger)

/-- Where a phase stands. -/
inductive PhaseStatus where
  | running
  | completed
  | failed (error : String)
  deriving DecidableEq, Repr

/-- A stretch of a run that is entered and left. -/
structure Phase where
  name : String
  status : PhaseStatus := .running
  deriving DecidableEq, Repr

/-- What is known of a run under way. -/
structure Progress where
  found : Int := 0
  done : Nat := 0
  bytes : Int := 0
  sources : Ledger Nat := []
  /-- The phases in the order in which they were entered. -/
  phases : List Phase := []
  deriving DecidableEq, Repr

/-- A change of the progress. -/
inductive Step where
  | enter (phase : String)
  /-- The innermost phase that is running ends. -/
  | leave (status : PhaseStatus)
  | found (count : Int)
  | done (source : String) (size : Int)
  deriving DecidableEq, Repr

namespace Progress

/-- The share of the files that are done; nothing to do is done. -/
def fraction (progress : Progress) : Rat :=
  if progress.found = 0 then 1 else (progress.done : Rat) / progress.found

def endFirst (status : PhaseStatus) : List Phase → List Phase
  | [] => []
  | phase :: rest =>
    if phase.status = .running then { phase with status } :: rest else phase :: endFirst status rest

def endInnermost (status : PhaseStatus) (phases : List Phase) : List Phase :=
  (endFirst status phases.reverse).reverse

def innermost? (progress : Progress) : Option Phase :=
  progress.phases.reverse.find? (·.status == .running)

def step (progress : Progress) : Step → Progress
  | .enter phase => { progress with phases := progress.phases ++ [{ name := phase }] }
  | .leave status => { progress with phases := endInnermost status progress.phases }
  | .found count => { progress with found := count }
  | .done source size =>
    { progress with
      done := progress.done + 1
      bytes := progress.bytes + size
      sources := progress.sources.change source 0 (· + 1) }

/-- Ends the phase at a place among the phases, whatever has been entered since. -/
def endAt (place : Nat) (status : PhaseStatus) (progress : Progress) : Progress :=
  { progress with phases := progress.phases.modify place fun phase => { phase with status } }

def journalOf (progress : Progress) : Step → Journal
  | .leave (.failed _) => (progress.innermost?.map fun phase => .phaseFailed phase.name).toList
  | .leave _ => (progress.innermost?.map fun phase => .phaseDone phase.name).toList
  | _ => []

end Progress

/-- A listener is shown the progress, and can only read it. It may do anything with the records that the
listeners keep, and it may fail, also after that. -/
abbrev Listener (ρ : Type) := Progress → List ρ → Except String Unit × List ρ

/-- The listener that keeps a record of the progress, or fails where it makes none. -/
def Listener.recording {ρ : Type} (record? : Progress → Option ρ) : Listener ρ := fun progress records =>
  match record? progress with
  | some record => (.ok (), records ++ [record])
  | none => (.error "no record", records)

/-- Progress with listeners, the records that they keep, and what is reported. -/
structure Tracker (ρ : Type) where
  progress : Progress := {}
  /-- The listeners in the order in which they came. -/
  listeners : List (Listener ρ) := []
  records : List ρ := []
  journal : Journal := []

namespace Tracker

variable {ρ ε α : Type}

def listen (tracker : Tracker ρ) (record? : Progress → Option ρ) : Tracker ρ :=
  { tracker with listeners := tracker.listeners ++ [.recording record?] }

/-- Calls a listener. That it fails is reported, and ends nothing but its call. -/
def call (tracker : Tracker ρ) (listener : Listener ρ) : Tracker ρ :=
  match listener tracker.progress tracker.records with
  | (.ok (), records) => { tracker with records }
  | (.error _, records) => { tracker with records, journal := tracker.journal ++ [.listenerFailed] }

def notify (tracker : Tracker ρ) : Tracker ρ := tracker.listeners.foldl call tracker

/-- Sets the progress, reports something and calls the listeners. -/
def change (tracker : Tracker ρ) (progress : Progress) (journal : Journal) : Tracker ρ :=
  notify { tracker with progress, journal := tracker.journal ++ journal }

def step (tracker : Tracker ρ) (step : Step) : Tracker ρ :=
  tracker.change (tracker.progress.step step) (tracker.progress.journalOf step)

/-- Does something as a phase. An error fails the phase, with its text, and comes out of it. -/
def phase [ToString ε] (name : String) (action : Tracker ρ → Except ε α × Tracker ρ)
    (tracker : Tracker ρ) : Except ε α × Tracker ρ :=
  let place := tracker.progress.phases.length
  match action (tracker.step (.enter name)) with
  | (.ok value, tracker) =>
    (.ok value, tracker.change (tracker.progress.endAt place .completed) [.phaseDone name])
  | (.error error, tracker) =>
    (.error error,
      tracker.change (tracker.progress.endAt place (.failed (toString error))) [.phaseFailed name])

end Tracker

end Polyglot
