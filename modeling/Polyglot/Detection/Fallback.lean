import Polyglot.Classifier.Bayes
import Polyglot.Detection.Candidates
import Polyglot.Journal
import Polyglot.Samples

namespace Polyglot.Detection

open Polyglot.Classifier (Bayes PredictError)

/-- Why the comparison with samples gives no label. -/
inductive FallbackError where
  | sample (fault : SampleFault)
  | prediction (error : PredictError)

variable {σ : Type}

/-- Asks for the sample of each candidate in turn and learns it. -/
def learnSamples (source : SampleSource σ) :
    List Label → Bayes Label → StateM σ (Journal × Except SampleFault (Bayes Label))
  | [], bayes => pure ([], .ok bayes)
  | label :: labels, bayes => do
    match ← source label with
    | .ok none => learnSamples source labels bayes
    | .ok (some sample) => learnSamples source labels (bayes.train sample.toList label)
    | .error fault =>
      if fault.recoverable then
        let (journal, learnt) ← learnSamples source labels bayes
        pure (.sampleFailed label :: journal, learnt)
      else pure ([], .error fault)

/-- The candidate for a content, with what is reported on the way. -/
def fallback (source : SampleSource σ) (path : String) (candidates : Candidates)
    (content : List Char) : StateM σ (Journal × Except FallbackError (Option Label)) := do
  let (journal, learnt) ← learnSamples source candidates.labels {}
  match learnt with
  | .error fault => pure (journal, .error (.sample fault))
  | .ok bayes =>
    if bayes.labels.isEmpty then
      pure (journal ++ [.noSamples path candidates.labels], .ok candidates.first?)
    else match bayes.predict content with
      | .error error => pure (journal, .error (.prediction error))
      | .ok prediction => pure (journal, .ok (some prediction.label))

end Polyglot.Detection
