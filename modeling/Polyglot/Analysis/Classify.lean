import Polyglot.Aggregator
import Polyglot.Analysis.Entry
import Polyglot.Detection.Fallback
import Polyglot.Detection.Heuristics

namespace Polyglot.Analysis

open Polyglot.Detection
open Polyglot.Files (Workspace)

variable {σ : Type}

/-- Why the label of a file cannot be settled. -/
inductive ClassifyError where
  | pattern (error : PatternError)
  | fallback (error : FallbackError)

/-- What lasts from file to file: the patterns that were skipped, and what the source of samples
remembers. -/
structure Session (σ : Type) where
  skipped : List PatternError := []
  samples : σ

/-- Whether a file is left aside as binary. Attributes win over what the file looks like. -/
def isBinary (options : Options) (entry : Entry) (content : ByteArray) : Bool :=
  !options.keepBinary && !entry.rules.isText entry.rel &&
    (entry.rules.isBinary entry.rel || Files.hasBinaryExtension entry.path ||
      Files.looksBinary content)

/-- What can be seen of a file without its content. -/
def extraction (catalog : Catalog) (options : Options) (entry : Entry) (content : ByteArray) :
    Extraction :=
  let firstLine :=
    if options.checkShebang then some (String.ofList (Files.firstLineOf content)) else none
  let override := if options.checkAttributes then entry.rules.override? entry.rel else none
  extract catalog options entry.rel firstLine override

def isSettled (found : Extraction) : Bool := found.terminal || found.candidates.size ≤ 1

/-- The label of a text, and the signal that decided. -/
def detect (catalog : Catalog) (options : Options) (source : SampleSource σ) (entry : Entry)
    (content : ByteArray) :
    StateM (Session σ) (Journal × Except ClassifyError (Option Label × Signal)) := do
  let found := extraction catalog options entry content
  if isSettled found then return ([], .ok (found.candidates.first?, found.signal))
  let text := Files.textOf content
  let session ← get
  let (chosen, skipped) :=
    (chosen? catalog options entry.rel found.candidates (String.ofList text)).run session.skipped
  set { session with skipped }
  match chosen with
  | .error e => return ([], .error (.pattern e))
  | .ok (some language) =>
    return ([.heuristicMatched entry.rel language],
      .ok (some (labelOf catalog options language), .heuristic))
  | .ok none =>
    let ((journal, label), samples) :=
      (fallback source entry.key found.candidates text).run session.samples
    set { skipped, samples : Session σ }
    return (journal, (label.mapError ClassifyError.fallback).map fun label => (label, .classifier))

/-- Classifies the file of an entry. A file that cannot be read has no label and no size. -/
def classify (ws : Workspace) (catalog : Catalog) (options : Options) (source : SampleSource σ)
    (entry : Entry) : StateM (Session σ) (Journal × Except ClassifyError Classified) := do
  match ws.read entry.path with
  | .error _ => return ([.readFailed entry.key], .ok { path := entry.key })
  | .ok content =>
    let size : Int := content.size
    if isBinary options entry content then
      return ([], .ok { path := entry.key, size, binary := true })
    let (journal, found) ← detect catalog options source entry content
    return (journal, found.map fun (label, signal) => { path := entry.key, label, size, signal })

end Polyglot.Analysis
