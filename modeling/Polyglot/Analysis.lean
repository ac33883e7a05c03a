import Polyglot.Analysis.Classify
import Polyglot.Progress

/-!
An analysis: resolve the inputs, classify the files, add up their bytes.
-/
namespace Polyglot

open Polyglot.Analysis
open Polyglot.Files (Workspace)

/-- Why an analysis ends without a result. -/
inductive AnalysisError where
  | resolve (error : ResolveError)
  | classify (error : ClassifyError)
  | aggregate (faults : List ShareFault)

namespace AnalysisError

def patternMessage (error : PatternError) : String :=
  if error.fault = .engine .tooDeep then "maximum recursion depth exceeded"
  else "the repetition number is too large"

def message : AnalysisError → String
  | .resolve (.missing path) => "Input path not found: " ++ path.text
  | .resolve (.refused refusal) => refusal.message
  | .resolve (.pattern error) | .classify (.pattern error) => patternMessage error
  | .classify (.fallback (.sample fault)) => fault.message
  | .classify (.fallback (.prediction error)) => error.message
  | .aggregate faults => ShareFault.message faults

end AnalysisError

namespace Analysis

variable {σ : Type}

/-- What an analysis leaves behind, whether it succeeds or not. -/
structure Outcome (σ : Type) where
  progress : Progress
  journal : Journal
  samples : σ
  result : Except AnalysisError Summary

/-- The progress and the journal of a run. -/
structure Account where
  progress : Progress := {}
  journal : Journal := []

def Account.step (account : Account) (step : Step) : Account :=
  ⟨account.progress.step step, account.journal ++ account.progress.journalOf step⟩

def Account.report (account : Account) (journal : Journal) : Account :=
  { account with journal := account.journal ++ journal }

/-- Ends the phase that is running, and with it the analysis. -/
def Account.fail (account : Account) (samples : σ) (error : AnalysisError) : Outcome σ :=
  let account := account.step (.leave (.failed error.message))
  ⟨account.progress, account.journal, samples, .error error⟩

/-- Classifies entries one after the other, up to the first that fails. -/
def classifyAll (ws : Workspace) (catalog : Catalog) (options : Options) (source : SampleSource σ) :
    List Entry → Session σ → Account → Session σ × Account × Except ClassifyError (List Classified)
  | [], session, account => (session, account, .ok [])
  | entry :: rest, session, account =>
    match (classify ws catalog options source entry).run session with
    | ((journal, .error e), session) => (session, account.report journal, .error e)
    | ((journal, .ok item), session) =>
      let account := (account.report journal).step (.done item.signal.name item.size)
      let (session, account, items) := classifyAll ws catalog options source rest session account
      (session, account, items.map (item :: ·))

/-- Analyses the files at some paths. The catalog loses the languages that are to be ignored. -/
def run (ws : Workspace) (catalog : Catalog) (options : Options) (source : SampleSource σ)
    (paths : List Path) (samples : σ) : Outcome σ :=
  let catalog := catalog.without options.ignoredLanguages
  let account : Account := ({} : Account).step (.enter "resolve")
  let (journal, resolved) := resolveInputs ws catalog options paths
  let account := account.report journal
  match resolved with
  | .error e => account.fail samples (.resolve e)
  | .ok entries =>
    let account := ((account.step (.leave .completed)).step (.found entries.length)).step
      (.enter "classify")
    let (session, account, classified) :=
      classifyAll ws catalog options source entries { samples } account
    let account := account.report (session.skipped.map .heuristicSkipped)
    match classified with
    | .error e => account.fail session.samples (.classify e)
    | .ok items =>
      let account := (account.step (.leave .completed)).step (.enter "aggregate")
      let (journal, aggregated) := Aggregator.addAll { catalog, options } items
      let account := account.report journal
      match aggregated with
      | .error faults => account.fail session.samples (.aggregate faults)
      | .ok aggregator =>
        let summary := aggregator.result
        let account := account.step (.leave .completed)
        let account := account.report [.analysisDone summary.fileCount summary.bytes.toNat
          summary.languageCount aggregator.dropped catalog.source]
        ⟨account.progress, account.journal, session.samples, .ok summary⟩

end Analysis

end Polyglot
