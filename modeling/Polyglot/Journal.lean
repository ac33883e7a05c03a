import Polyglot.Pattern
import Polyglot.Data.Shown

namespace Polyglot

open Polyglot.Data (Value Scalar Entries)

/-- How much an event matters. -/
inductive Level where
  | debug
  | info
  | warning
  deriving DecidableEq, Repr

def Level.name : Level → String
  | .debug => "debug"
  | .info => "info"
  | .warning => "warning"

def Level.rank : Level → Nat
  | .debug => 10
  | .info => 20
  | .warning => 30

/-- Something that happens in a run and may be logged. -/
inductive Event where
  /-- A language belongs to a group that belongs to another, and is moved up to that. -/
  | groupFlattened (language : String) (group root : Scalar)
  | tableFetched (url : String) (size : Nat)
  | ignoreSkipped (error : PatternError)
  | ignoreMatched (path origin pattern : String)
  | ignoreFileLoaded (source : String) (patterns : Nat)
  | folderSkipped (folder : String)
  | unreadableFolder (path : String)
  | treeResolved (root : String) (files rules : Nat)
  /-- A file that was asked for by name is left out: itself or for the sake of a folder above. -/
  | fileIgnored (path : String) (folder : Option String)
  | heuristicSkipped (error : PatternError)
  | heuristicMatched (path language : String)
  | readFailed (path : String)
  | noSamples (path : String) (candidates : List Scalar)
  | sampleFailed (language : Scalar)
  | serverError (url : String) (status attempt limit : Nat)
  | serverTimeout (url : String) (attempt limit : Nat)
  | sampleTreeLoaded (ref : String) (files : Nat)
  | sampleFetched (language : Scalar) (path : String)
  | strangerAdded (path : String) (language : Scalar)
  | fileDropped (path : String) (language : Scalar) (reason : String)
  | phaseDone (phase : String)
  | phaseFailed (phase : String)
  | listenerFailed
  | analysisDone (files bytes languages dropped : Nat) (tables : String)
  deriving DecidableEq, Repr

/-- The events of a run, the first one first. -/
abbrev Journal := List Event

namespace Event

def name : Event → String
  | groupFlattened .. => "tables.group_flattened"
  | tableFetched .. => "tables.fetched"
  | ignoreSkipped .. => "ignore.pattern_skipped"
  | ignoreMatched .. => "ignore.matched"
  | ignoreFileLoaded .. => "ignore.gitignore_loaded"
  | folderSkipped .. => "walk.folder_skipped"
  | unreadableFolder .. => "walk.unreadable_folder"
  | treeResolved .. => "resolve.tree"
  | fileIgnored .. => "resolve.file_ignored"
  | heuristicSkipped .. => "heuristics.pattern_skipped"
  | heuristicMatched .. => "heuristics.matched"
  | readFailed .. => "classify.read_failed"
  | noSamples .. => "fallback.no_samples"
  | sampleFailed .. => "fallback.sample_failed"
  | serverError .. => "samples.server_error"
  | serverTimeout .. => "samples.timeout"
  | sampleTreeLoaded .. => "samples.tree_loaded"
  | sampleFetched .. => "samples.fetched"
  | strangerAdded .. => "aggregate.language_not_in_table"
  | fileDropped .. => "aggregate.dropped"
  | phaseDone .. => "progress.phase_done"
  | phaseFailed .. => "progress.phase_failed"
  | listenerFailed => "progress.callback_failed"
  | analysisDone .. => "analyse.done"

/-- The part of the program that reports the event. -/
def logger : Event → String
  | groupFlattened .. | tableFetched .. => "repolang.tables"
  | ignoreSkipped .. | ignoreMatched .. | ignoreFileLoaded .. => "repolang.ignore"
  | folderSkipped .. | unreadableFolder .. => "repolang.walker"
  | treeResolved .. | fileIgnored .. | readFailed .. | analysisDone .. => "repolang.analyser"
  | heuristicSkipped .. | heuristicMatched .. => "repolang.heuristics"
  | noSamples .. | sampleFailed .. => "repolang.fallback"
  | serverError .. | serverTimeout .. | sampleTreeLoaded .. | sampleFetched .. => "repolang.samples"
  | strangerAdded .. | fileDropped .. => "repolang.aggregator"
  | phaseDone .. | phaseFailed .. | listenerFailed => "repolang.progress"

def level : Event → Level
  | groupFlattened .. | ignoreSkipped .. | unreadableFolder .. | heuristicSkipped ..
  | readFailed .. | sampleFailed .. | serverError .. | serverTimeout .. => .warning
  | noSamples .. | sampleTreeLoaded .. | analysisDone .. => .info
  | tableFetched .. | ignoreMatched .. | ignoreFileLoaded .. | folderSkipped .. | treeResolved ..
  | fileIgnored .. | heuristicMatched .. | sampleFetched .. | strangerAdded .. | fileDropped ..
  | phaseDone .. | phaseFailed .. | listenerFailed => .debug

def fields : Event → List (String × Value)
  | groupFlattened language group root =>
    [("language", .text language), ("group", .scalar group), ("root", .scalar root)]
  | tableFetched url size => [("url", .text url), ("size", .ofNat size)]
  | ignoreSkipped error => [("source", .text error.source), ("pattern", .text error.pattern)]
  | ignoreMatched path origin pattern =>
    [("path", .text path), ("origin", .text origin), ("pattern", .text pattern)]
  | ignoreFileLoaded source patterns => [("source", .text source), ("patterns", .ofNat patterns)]
  | folderSkipped folder => [("folder", .text folder)]
  | unreadableFolder path => [("path", .text path)]
  | treeResolved root files rules =>
    [("root", .text root), ("files", .ofNat files), ("rules", .ofNat rules)]
  | fileIgnored path none => [("path", .text path)]
  | fileIgnored path (some folder) => [("path", .text path), ("folder", .text folder)]
  | heuristicSkipped error => [("pattern", .text error.pattern)]
  | heuristicMatched path language => [("path", .text path), ("language", .text language)]
  | readFailed path => [("path", .text path)]
  | noSamples path candidates =>
    [("path", .text path), ("candidates", .list (candidates.map .scalar))]
  | sampleFailed language => [("language", .scalar language)]
  | serverError url status attempt limit =>
    [("url", .text url), ("status", .ofNat status), ("attempt", .ofNat attempt),
      ("max_retries", .ofNat limit)]
  | serverTimeout url attempt limit =>
    [("url", .text url), ("attempt", .ofNat attempt), ("max_retries", .ofNat limit)]
  | sampleTreeLoaded ref files => [("ref", .text ref), ("blobs", .ofNat files)]
  | sampleFetched language path => [("language", .scalar language), ("path", .text path)]
  | strangerAdded path language => [("path", .text path), ("language", .scalar language)]
  | fileDropped path language reason =>
    [("path", .text path), ("language", .scalar language), ("reason", .text reason)]
  | phaseDone phase => [("phase", .text phase)]
  | phaseFailed phase => [("phase", .text phase)]
  | listenerFailed => []
  | analysisDone files bytes languages dropped tables =>
    [("files", .ofNat files), ("bytes", .ofNat bytes), ("languages", .ofNat languages),
      ("dropped", .ofNat dropped), ("tables", .text tables)]

end Event

def Journal.atLeast (level : Level) (journal : Journal) : Journal :=
  journal.filter fun event => level.rank ≤ event.level.rank

end Polyglot
