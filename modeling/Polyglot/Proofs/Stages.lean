import Polyglot.Proofs.Verdicts

namespace Polyglot.Analysis

open Polyglot.Classifier (Bayes)
open Polyglot.Detection
open Polyglot.Files (Workspace)

/-- How far the classification of a file has come. -/
inductive Stage where
  | begun
  /-- It is a text, and there are several candidates. -/
  | choosing (content : ByteArray)
  /-- No rule chose a language. Some candidates still have to be learnt. -/
  | learning (content : ByteArray) (labels : List Label) (bayes : Bayes Label)
  | settled (said : Except ClassifyError Classified)

namespace Stage

variable {σ : Type}

section
variable (ws : Workspace) (catalog : Catalog) (options : Options) (source : SampleSource σ)
  (entry : Entry)

/-- What is said of a text once its label is found, or cannot be found. -/
def ofLabel (entry : Entry) (content : ByteArray) (found : Except ClassifyError (Option Label × Signal)) :
    Except ClassifyError Classified :=
  found.map fun (label, signal) => { path := entry.key, label, size := content.size, signal }

/-- The label of a text of which all candidates with samples are learnt. -/
def predicted (content : ByteArray) (bayes : Bayes Label) :
    Journal × Except ClassifyError (Option Label × Signal) :=
  let candidates := (extraction catalog options entry content).candidates
  if bayes.labels.isEmpty then
    ([.noSamples entry.key candidates.labels], .ok (candidates.first?, .classifier))
  else match bayes.predict (Files.textOf content) with
    | .error error => ([], .error (.fallback (.prediction error)))
    | .ok prediction => ([], .ok (some prediction.label, .classifier))

/-- One step of a file, in the session that it shares with others. -/
def advance : Stage → Session σ → (Journal × Stage) × Session σ
  | .begun, session =>
    match ws.read entry.path with
    | .error _ => (([.readFailed entry.key], .settled (.ok { path := entry.key })), session)
    | .ok content =>
      if isBinary options entry content then
        (([], .settled (.ok { path := entry.key, size := content.size, binary := true })), session)
      else
        let found := extraction catalog options entry content
        if isSettled found then
          (([], .settled (ofLabel entry content (.ok (found.candidates.first?, found.signal)))), session)
        else (([], .choosing content), session)
  | .choosing content, session =>
    let candidates := (extraction catalog options entry content).candidates
    let sifted := (chosen? catalog options entry.rel candidates
      (String.ofList (Files.textOf content))).run.run session.skipped
    (match sifted.1 with
      | .error e => ([], .settled (.error (.pattern e)))
      | .ok (some language) =>
        ([.heuristicMatched entry.rel language],
          .settled (ofLabel entry content (.ok (some (labelOf catalog options language), .heuristic))))
      | .ok none => ([], .learning content candidates.labels {}),
      { session with skipped := sifted.2 })
  | .learning content [] bayes, session =>
    let said := predicted catalog options entry content bayes
    ((said.1, .settled (ofLabel entry content said.2)), session)
  | .learning content (label :: labels) bayes, session =>
    let asked := (source label).run session.samples
    (match asked.1 with
      | .ok none => ([], .learning content labels bayes)
      | .ok (some sample) => ([], .learning content labels (bayes.train sample.toList label))
      | .error fault =>
        if fault.recoverable then ([.sampleFailed label], .learning content labels bayes)
        else ([], .settled (.error (.fallback (.sample fault)))),
      { session with samples := asked.2 })
  | .settled said, session => (([], .settled said), session)

/-- All steps that remain, with none of another file between them. -/
def rest : Stage → Session σ → (Journal × Except ClassifyError Classified) × Session σ
  | .begun, session => (classify ws catalog options source entry).run session
  | .choosing content, session =>
    let candidates := (extraction catalog options entry content).candidates
    let sifted := (chosen? catalog options entry.rel candidates
      (String.ofList (Files.textOf content))).run.run session.skipped
    match sifted.1 with
    | .error e => (([], .error (.pattern e)), { session with skipped := sifted.2 })
    | .ok (some language) =>
      (([.heuristicMatched entry.rel language],
        ofLabel entry content (.ok (some (labelOf catalog options language), .heuristic))),
        { session with skipped := sifted.2 })
    | .ok none =>
      let asked := (fallback source entry.key candidates (Files.textOf content)).run session.samples
      ((asked.1.1, ofLabel entry content
        ((asked.1.2.mapError .fallback).map fun label => (label, .classifier))),
        { skipped := sifted.2, samples := asked.2 })
  | .learning content labels bayes, session =>
    let learnt := (learnSamples source labels bayes).run session.samples
    (match learnt.1.2 with
      | .error fault => (learnt.1.1, .error (.fallback (.sample fault)))
      | .ok bayes =>
        let said := predicted catalog options entry content bayes
        (learnt.1.1 ++ said.1, ofLabel entry content said.2),
      { session with samples := learnt.2 })
  | .settled said, session => (([], said), session)

/-- The next step of a file, and what remains behind it. -/
def stepThenRest (stage : Stage) (session : Session σ) :
    (Journal × Except ClassifyError Classified) × Session σ :=
  let next := advance ws catalog options source entry stage session
  let left := rest ws catalog options source entry next.1.2 next.2
  ((next.1.1 ++ left.1.1, left.1.2), left.2)

end

variable {ws : Workspace} {catalog : Catalog} {options : Options} {source : SampleSource σ} {entry : Entry}
  {answer : Label → Except SampleFault (Option String)}

theorem value_bind {α β : Type} (value : α) (next : α → Id β) : ((value : Id α) >>= next) = next value := rfl

theorem learnSamples_cons (label : Label) (labels : List Label) (bayes : Bayes Label) (state : σ) :
    (learnSamples source (label :: labels) bayes).run state =
      let asked := (source label).run state
      match asked.1 with
      | .ok none => (learnSamples source labels bayes).run asked.2
      | .ok (some sample) => (learnSamples source labels (bayes.train sample.toList label)).run asked.2
      | .error fault =>
        if fault.recoverable then
          let learnt := (learnSamples source labels bayes).run asked.2
          ((.sampleFailed label :: learnt.1.1, learnt.1.2), learnt.2)
        else (([], .error fault), asked.2) := by
  rw [learnSamples, StateT.run_bind]
  rcases (source label).run state with ⟨reply, left⟩
  cases reply with
  | ok sample => cases sample <;> rfl
  | error fault =>
    cases hr : fault.recoverable with
    | true =>
      simp only [value_bind, hr, ↓reduceIte]
      rfl
    | false =>
      simp only [value_bind, hr, Bool.false_eq_true, ↓reduceIte]
      rfl

theorem fallback_run (content : ByteArray) (state : σ) :
    let asked := (fallback source entry.key (extraction catalog options entry content).candidates
      (Files.textOf content)).run state
    let learnt := (learnSamples source (extraction catalog options entry content).candidates.labels
      {}).run state
    ((asked.1.1, (asked.1.2.mapError .fallback).map fun label => (label, .classifier)), asked.2) =
      match learnt.1.2 with
      | .error fault => ((learnt.1.1, .error (.fallback (.sample fault))), learnt.2)
      | .ok bayes =>
        let said := predicted catalog options entry content bayes
        ((learnt.1.1 ++ said.1, said.2), learnt.2) := by
  unfold fallback
  simp only [StateT.run_bind]
  rcases (learnSamples source (extraction catalog options entry content).candidates.labels {}).run state
    with ⟨⟨journal, learnt⟩, samples⟩
  cases learnt with
  | error fault => rfl
  | ok bayes =>
    simp only [predicted, value_bind]
    cases hb : bayes.labels.isEmpty with
    | true => rfl
    | false =>
      cases bayes.predict (Files.textOf content) with
      | error error =>
        simp only [Bool.false_eq_true, ↓reduceIte, List.append_nil]
        rfl
      | ok prediction =>
        simp only [Bool.false_eq_true, ↓reduceIte, List.append_nil]
        rfl

theorem rest_begun (session : Session σ) :
    rest ws catalog options source entry .begun session =
      stepThenRest ws catalog options source entry .begun session := by
  rw [stepThenRest, rest, advance]
  cases hr : ws.read entry.path with
  | error e =>
    unfold classify
    rw [hr]
    rfl
  | ok content =>
    cases hb : isBinary options entry content with
    | true =>
      unfold classify
      simp only [hr, hb, ↓reduceIte]
      rfl
    | false =>
      rw [classify_text hr hb]
      simp only [hb, Bool.false_eq_true, ↓reduceIte]
      cases hs : isSettled (extraction catalog options entry content) with
      | true =>
        rw [detect_settled hs]
        rfl
      | false =>
        rcases hrules : (chosen? catalog options entry.rel
          (extraction catalog options entry content).candidates
          (String.ofList (Files.textOf content))).run.run session.skipped with ⟨chosen, skipped⟩
        rw [detect_choice rfl hs hrules]
        simp only [Bool.false_eq_true, ↓reduceIte, rest, hrules]
        cases chosen with
        | error e => rfl
        | ok choice => cases choice <;> rfl

theorem rest_choosing (content : ByteArray) (session : Session σ) :
    rest ws catalog options source entry (.choosing content) session =
      stepThenRest ws catalog options source entry (.choosing content) session := by
  rw [stepThenRest, rest, advance]
  simp only
  rcases (chosen? catalog options entry.rel (extraction catalog options entry content).candidates
    (String.ofList (Files.textOf content))).run.run session.skipped with ⟨chosen, skipped⟩
  cases chosen with
  | error e => rfl
  | ok choice =>
    cases choice with
    | some language => rfl
    | none =>
      have hrun := @fallback_run _ catalog options source entry content session.samples
      simp only [rest]
      rcases hf : (fallback source entry.key (extraction catalog options entry content).candidates
        (Files.textOf content)).run session.samples with ⟨⟨journal, label⟩, samples⟩
      rcases hl : (learnSamples source (extraction catalog options entry content).candidates.labels
        {}).run session.samples with ⟨⟨reported, learnt⟩, left⟩
      simp only [hf, hl] at hrun
      cases learnt with
      | error fault =>
        obtain ⟨hsaid, rfl⟩ := Prod.mk.inj hrun
        obtain ⟨rfl, hlabel⟩ := Prod.mk.inj hsaid
        simp only [hlabel]
        rfl
      | ok bayes =>
        obtain ⟨hsaid, rfl⟩ := Prod.mk.inj hrun
        obtain ⟨rfl, hlabel⟩ := Prod.mk.inj hsaid
        simp only [hlabel]
        rfl

theorem rest_learning (content : ByteArray) (labels : List Label) (bayes : Bayes Label)
    (session : Session σ) :
    rest ws catalog options source entry (.learning content labels bayes) session =
      stepThenRest ws catalog options source entry (.learning content labels bayes) session := by
  rw [stepThenRest]
  cases labels with
  | nil =>
    simp only [advance, rest, List.append_nil]
    rfl
  | cons label labels =>
    simp only [rest, advance, learnSamples_cons]
    rcases (source label).run session.samples with ⟨reply, samples⟩
    cases reply with
    | ok sample => cases sample <;> rfl
    | error fault =>
      cases hr : fault.recoverable with
      | true =>
        simp only [hr, ↓reduceIte]
        rcases (learnSamples source labels bayes).run samples with ⟨⟨journal, learnt⟩, left⟩
        cases learnt <;> rfl
      | false =>
        simp only [hr]
        rfl

theorem rest_advance (stage : Stage) (session : Session σ) :
    rest ws catalog options source entry stage session =
      let next := advance ws catalog options source entry stage session
      let left := rest ws catalog options source entry next.1.2 next.2
      ((next.1.1 ++ left.1.1, left.1.2), left.2) := by
  cases stage with
  | begun => exact rest_begun session
  | choosing content => exact rest_choosing content session
  | learning content labels bayes => exact rest_learning content labels bayes session
  | settled said => rfl

/-- What is said of a file in the end does not depend on what happens to the session before. -/
theorem rest_value (answers : source.Answers answer) (stage : Stage) (session other : Session σ) :
    (rest ws catalog options source entry stage session).1.2 =
      (rest ws catalog options source entry stage other).1.2 := by
  cases stage with
  | begun =>
    exact (classify_eq_verdict answers ws catalog options entry session).trans
      (classify_eq_verdict answers ws catalog options entry other).symm
  | choosing content =>
    have hchosen := blind_chosen? catalog options entry.rel
      (extraction catalog options entry content).candidates (String.ofList (Files.textOf content))
      session.skipped other.skipped
    have hlabel := (fallback_value answers entry.key entry.key
        (extraction catalog options entry content).candidates (Files.textOf content) session.samples ()).trans
      (fallback_value answers entry.key entry.key
        (extraction catalog options entry content).candidates (Files.textOf content) other.samples ()).symm
    simp only [id] at hchosen
    simp only [rest, hchosen]
    split
    · rfl
    · rfl
    · rw [hlabel]
  | learning content labels bayes =>
    have hlearnt := (learnSamples_value answers labels bayes session.samples ()).trans
      (learnSamples_value answers labels bayes other.samples ()).symm
    simp only [id] at hlearnt
    simp only [rest, hlearnt]
  | settled said => rfl

theorem advance_begun {content : ByteArray} (read : ws.read entry.path = .ok content)
    (text : isBinary options entry content = false)
    (settled : isSettled (extraction catalog options entry content) = true) (session : Session σ) :
    advance ws catalog options source entry .begun session =
      (([], .settled (.ok {
        path := entry.key
        label := (extraction catalog options entry content).candidates.first?
        size := content.size
        signal := (extraction catalog options entry content).signal })), session) := by
  simp only [advance, read, text, settled, Bool.false_eq_true, ↓reduceIte]
  rfl

/-- How many steps remain for a file, at most. -/
def left (ws : Workspace) (catalog : Catalog) (options : Options) (entry : Entry) : Stage → Nat
  | .begun => match ws.read entry.path with
    | .error _ => 1
    | .ok content => (extraction catalog options entry content).candidates.labels.length + 3
  | .choosing content => (extraction catalog options entry content).candidates.labels.length + 2
  | .learning _ labels _ => labels.length + 1
  | .settled _ => 0

theorem left_advance (stage : Stage) (session : Session σ) (unsettled : ∀ said, stage ≠ .settled said) :
    left ws catalog options entry (advance ws catalog options source entry stage session).1.2 <
      left ws catalog options entry stage := by
  cases stage with
  | begun =>
    rw [advance]
    cases hr : ws.read entry.path with
    | error e => simp [left, hr]
    | ok content =>
      simp only
      split
      · simp [left, hr]
      · split <;> simp [left, hr]
  | choosing content =>
    rw [advance]
    split <;> simp [left]
  | learning content labels bayes =>
    cases labels with
    | nil => simp [advance, left]
    | cons label labels =>
      rw [advance]
      split
      · simp [left]
      · simp [left]
      · split <;> simp [left]
  | settled said => exact absurd rfl (unsettled said)

end Stage

end Polyglot.Analysis
