import Polyglot.Analysis.Classify
import Polyglot.Proofs.Scope

namespace Polyglot

section
variable {σ τ α β γ : Type}

/-- Two computations whose values look the same in a view, whatever their states. -/
def Alike (view : α → β) (first : StateM σ α) (second : StateM τ α) : Prop :=
  ∀ state other, view (first.run state).1 = view (second.run other).1

/-- Two computations that come to the same value, whatever their states. -/
def SameValue (first : StateM σ α) (second : StateM τ α) : Prop := Alike id first second

theorem Alike.pure {view : α → β} {value other : α} (h : view value = view other) :
    Alike view (Pure.pure value : StateM σ α) (Pure.pure other : StateM τ α) :=
  fun _ _ => h

theorem Alike.bind {view : β → γ} {first : StateM σ α} {second : StateM τ α} {next : α → StateM σ β}
    {other : α → StateM τ β} (h : SameValue first second)
    (rest : ∀ value, Alike view (next value) (other value)) :
    Alike view (first >>= next) (second >>= other) := by
  intro state state'
  have hvalue : (first.run state).1 = (second.run state').1 := h state state'
  change view ((next (first.run state).1).run (first.run state).2).1 =
    view ((other (second.run state').1).run (second.run state').2).1
  rw [hvalue]
  exact rest _ _ _

theorem SameValue.pure (value : α) : SameValue (Pure.pure value : StateM σ α) (Pure.pure value : StateM τ α) :=
  Alike.pure rfl

end

namespace Detection

/-- A search that finds the same whatever patterns were skipped before. -/
def Blind {α : Type} (search : Sifting α) : Prop := SameValue search.run search.run

variable {α β : Type}

theorem blind_pure (value : α) : Blind (pure value : Sifting α) := SameValue.pure _

theorem blind_bind {search : Sifting α} {next : α → Sifting β} (first : Blind search)
    (rest : ∀ value, Blind (next value)) : Blind (search >>= next) := by
  unfold Blind
  rw [ExceptT.run_bind]
  refine Alike.bind first fun found => ?_
  cases found with
  | ok value => exact rest value
  | error e => exact SameValue.pure _

theorem blind_finds (content pattern : String) : Blind (finds content pattern) := by
  intro skipped others
  unfold finds
  split
  · rfl
  · split <;> rfl

theorem blind_anyM {test : α → Sifting Bool} (h : ∀ item, Blind (test item)) (items : List α) :
    Blind (items.anyM test) := by
  induction items with
  | nil => exact blind_pure false
  | cons item rest ih =>
    rw [List.anyM]
    refine blind_bind (h item) fun found => ?_
    cases found with
    | true => exact blind_pure true
    | false => exact ih

mutual

theorem blind_holds (content : String) : ∀ rule : ContentRule, Blind (holds content rule)
  | ⟨_, patterns, negative, clauses⟩ => by
    rw [holds]
    refine blind_bind (blind_anyM (blind_finds content) patterns) fun wanted => ?_
    split
    · exact blind_pure false
    · refine blind_bind (blind_anyM (blind_finds content) negative) fun unwanted => ?_
      split
      · exact blind_pure false
      · exact blind_allHold content clauses

theorem blind_allHold (content : String) : ∀ rules : List ContentRule, Blind (allHold content rules)
  | [] => by
    rw [allHold]
    exact blind_pure true
  | rule :: rules => by
    rw [allHold]
    refine blind_bind (blind_holds content rule) fun here => ?_
    split
    · exact blind_allHold content rules
    · exact blind_pure false

end

theorem blind_firstRule? (eligible : String → Bool) (content : String) (rules : List ContentRule) :
    Blind (firstRule? eligible content rules) := by
  induction rules with
  | nil => exact blind_pure none
  | cons rule rest ih =>
    rw [firstRule?]
    split
    · refine blind_bind (blind_holds content rule) fun here => ?_
      split
      · exact blind_pure _
      · exact ih
    · exact ih

theorem blind_chosen? (catalog : Catalog) (options : Options) (path : String)
    (candidates : Candidates) (content : String) :
    Blind (chosen? catalog options path candidates content) := by
  unfold chosen?
  split
  · exact blind_firstRule? _ _ _
  · exact blind_pure none

end Detection

variable {σ : Type}

/-- What a source answers depends on the language alone. -/
def SampleSource.Answers (source : SampleSource σ)
    (answer : Label → Except SampleFault (Option String)) : Prop :=
  ∀ label state, ((source label).run state).1 = answer label

/-- The source that gives the answers and remembers nothing. -/
def SampleSource.ofAnswer (answer : Label → Except SampleFault (Option String)) :
    SampleSource Unit := fun label => pure (answer label)

theorem SampleSource.ofAnswer_answers (answer : Label → Except SampleFault (Option String)) :
    (SampleSource.ofAnswer answer).Answers answer := fun _ _ => rfl

namespace Detection

open Polyglot.Classifier (Bayes)

variable {source : SampleSource σ} {answer : Label → Except SampleFault (Option String)}

theorem learnSamples_value (h : source.Answers answer) (labels : List Label) (bayes : Bayes Label) :
    SameValue (learnSamples source labels bayes) (learnSamples (.ofAnswer answer) labels bayes) := by
  induction labels generalizing bayes with
  | nil => exact SameValue.pure _
  | cons label rest ih =>
    rw [learnSamples, learnSamples]
    refine Alike.bind (fun state _ => h label state) fun reply => ?_
    match reply with
    | .ok none => exact ih bayes
    | .ok (some sample) => exact ih _
    | .error fault =>
      by_cases hr : fault.recoverable = true
      · simp only [hr, ↓reduceIte]
        exact Alike.bind (ih bayes) fun learnt => SameValue.pure _
      · simp only [if_neg hr]
        exact SameValue.pure _

/-- The label that the comparison with samples gives depends on the answers alone, and not on the path
under which it is reported. -/
theorem fallback_value (h : source.Answers answer) (path other : String) (candidates : Candidates)
    (content : List Char) :
    Alike Prod.snd (fallback source path candidates content)
      (fallback (.ofAnswer answer) other candidates content) := by
  unfold fallback
  refine Alike.bind (learnSamples_value h candidates.labels {}) fun learnt => ?_
  obtain ⟨journal, learnt⟩ := learnt
  cases learnt with
  | error fault => exact Alike.pure rfl
  | ok bayes =>
    simp only
    split
    · exact Alike.pure rfl
    · split <;> exact Alike.pure rfl

end Detection

namespace Analysis

open Polyglot.Detection
open Polyglot.Files (Workspace)

variable {ws others : Workspace} {catalog : Catalog} {options : Options} {entry other : Entry}
  {source : SampleSource σ} {answer : Label → Except SampleFault (Option String)}

theorem classify_text {content : ByteArray} (read : ws.read entry.path = .ok content)
    (text : isBinary options entry content = false) (session : Session σ) :
    (classify ws catalog options source entry).run session =
      let detected := (detect catalog options source entry content).run session
      ((detected.1.1, detected.1.2.map fun found =>
        { path := entry.key, label := found.1, size := content.size, signal := found.2 }),
        detected.2) := by
  unfold classify
  simp only [read, text, Bool.false_eq_true, ↓reduceIte]
  rfl

theorem detect_settled {content : ByteArray}
    (settled : isSettled (extraction catalog options entry content) = true) (session : Session σ) :
    (detect catalog options source entry content).run session =
      (([], .ok ((extraction catalog options entry content).candidates.first?,
        (extraction catalog options entry content).signal)), session) := by
  unfold detect
  simp only [settled, ↓reduceIte]
  rfl

/-- Where there is a choice the rules on contents are asked, and samples where they choose nothing. -/
theorem detect_choice {content : ByteArray} {found : Extraction}
    (seen : extraction catalog options entry content = found) (choice : isSettled found = false)
    {session : Session σ} {chosen : Except PatternError (Option String)} {skipped : List PatternError}
    (rules : (chosen? catalog options entry.rel found.candidates
      (String.ofList (Files.textOf content))).run.run session.skipped = (chosen, skipped)) :
    (detect catalog options source entry content).run session =
      match chosen with
      | .error e => (([], .error (.pattern e)), { session with skipped })
      | .ok (some language) => (([.heuristicMatched entry.rel language],
          .ok (some (labelOf catalog options language), .heuristic)), { session with skipped })
      | .ok none =>
        let asked := (fallback source entry.key found.candidates (Files.textOf content)).run
          session.samples
        ((asked.1.1, (asked.1.2.mapError .fallback).map fun label => (label, .classifier)),
          { skipped, samples := asked.2 }) := by
  subst seen
  unfold detect
  simp only [choice, Bool.false_eq_true, ↓reduceIte]
  generalize extraction catalog options entry content = found at rules ⊢
  have hrules : (chosen? catalog options entry.rel found.candidates
    (String.ofList (Files.textOf content))).run session.skipped = (chosen, skipped) := rules
  simp only [StateT.run_bind, StateT.run_get, pure_bind, hrules]
  match chosen with
  | .error e => rfl
  | .ok (some language) => rfl
  | .ok none => rfl

/-- Two entries that show the same file: with the same content, under the same path below the roots
of their resolvers, and with the same rules for this path. -/
structure SameFile (ws others : Workspace) (entry other : Entry) : Prop where
  rel : entry.rel = other.rel
  extension : Files.hasBinaryExtension entry.path = Files.hasBinaryExtension other.path
  content : ws.read entry.path = others.read other.path
  rules : entry.rules.on entry.rel = other.rules.on entry.rel

theorem SameFile.refl (ws : Workspace) (entry : Entry) : SameFile ws ws entry entry :=
  ⟨rfl, rfl, rfl, rfl⟩

theorem SameFile.isBinary_eq (same : SameFile ws others entry other) (content : ByteArray) :
    isBinary options entry content = isBinary options other content := by
  have htext := RuleSet.isText_congr same.rules
  have hbinary := RuleSet.isBinary_congr same.rules
  simp only [isBinary, ← same.rel, htext, hbinary, same.extension]

theorem SameFile.extraction_eq (same : SameFile ws others entry other) (content : ByteArray) :
    extraction catalog options entry content = extraction catalog options other content := by
  have hoverride := RuleSet.override?_congr same.rules
  simp only [extraction, ← same.rel, hoverride]

theorem SameFile.detect_value (same : SameFile ws others entry other) (h : source.Answers answer)
    (catalog : Catalog) (options : Options) (content : ByteArray) :
    Alike Prod.snd (detect catalog options source entry content)
      (detect catalog options (.ofAnswer answer) other content) := by
  intro session session'
  have hseen : extraction catalog options entry content = extraction catalog options other content :=
    same.extraction_eq content
  cases hs : isSettled (extraction catalog options other content) with
  | true => rw [detect_settled (hseen ▸ hs), detect_settled hs, hseen]
  | false =>
    generalize hfound : extraction catalog options other content = found at hseen hs
    rcases hc : (chosen? catalog options entry.rel found.candidates
      (String.ofList (Files.textOf content))).run.run session.skipped with ⟨chosen, skipped⟩
    rcases hc' : (chosen? catalog options other.rel found.candidates
      (String.ofList (Files.textOf content))).run.run session'.skipped with ⟨chosen', skipped'⟩
    have hchosen := blind_chosen? catalog options entry.rel found.candidates
      (String.ofList (Files.textOf content)) session.skipped session'.skipped
    rw [hc, same.rel, hc'] at hchosen
    change chosen = chosen' at hchosen
    subst hchosen
    rw [detect_choice hseen hs hc, detect_choice hfound hs hc']
    match chosen with
    | .error e => rfl
    | .ok (some language) => rfl
    | .ok none =>
      have hfallback := fallback_value h entry.key other.key found.candidates (Files.textOf content)
        session.samples session'.samples
      simp only [hfallback]

/-- What is said of a file, reported under some path. -/
def under (path : String) (item : Classified) : Classified := { item with path }

/-- What is said of a file does not depend on the files before, nor on where its tree stands. -/
theorem SameFile.classify_value (same : SameFile ws others entry other) (h : source.Answers answer)
    (catalog : Catalog) (options : Options) (path : String) :
    Alike (fun said => said.2.map (under path)) (classify ws catalog options source entry)
      (classify others catalog options (.ofAnswer answer) other) := by
  unfold classify
  rw [same.content]
  cases others.read other.path with
  | error e => exact Alike.pure rfl
  | ok content =>
    simp only [same.isBinary_eq]
    split
    · exact Alike.pure rfl
    · intro session session'
      have hdetect := same.detect_value h catalog options content session session'
      rcases hd : (detect catalog options source entry content).run session
        with ⟨⟨journal, found⟩, left⟩
      rcases hd' : (detect catalog options (.ofAnswer answer) other content).run session'
        with ⟨⟨journal', found'⟩, left'⟩
      rw [hd, hd'] at hdetect
      change found = found' at hdetect
      subst hdetect
      rw [StateT.run_bind, StateT.run_bind, hd, hd']
      cases found <;> rfl

/-- The size of the file at a path; what cannot be read has none. -/
def sizeAt (ws : Workspace) (path : Path) : Int :=
  match ws.read path with
  | .ok content => content.size
  | .error _ => 0

theorem sizeAt_nonneg (ws : Workspace) (path : Path) : 0 ≤ sizeAt ws path := by
  unfold sizeAt
  split
  · exact Int.natCast_nonneg _
  · exact le_rfl

theorem classify_item {session : Session σ} {item : Classified}
    (h : ((classify ws catalog options source entry).run session).1.2 = .ok item) :
    item.path = entry.key ∧ item.size = sizeAt ws entry.path := by
  unfold classify at h
  rw [sizeAt]
  cases hr : ws.read entry.path with
  | error e =>
    rw [hr] at h
    cases h
    exact ⟨rfl, rfl⟩
  | ok content =>
    simp only [hr] at h ⊢
    split at h
    · cases h
      exact ⟨rfl, rfl⟩
    · rcases hd : (detect catalog options source entry content).run session
        with ⟨⟨journal, found⟩, left⟩
      rw [StateT.run_bind, hd] at h
      cases found with
      | error e => cases h
      | ok chosen =>
        cases h
        exact ⟨rfl, rfl⟩

theorem classify_settled {content : ByteArray} (read : ws.read entry.path = .ok content)
    (text : isBinary options entry content = false)
    (settled : isSettled (extraction catalog options entry content) = true) (session : Session σ) :
    (classify ws catalog options source entry).run session =
      (([], .ok {
        path := entry.key
        label := (extraction catalog options entry content).candidates.first?
        size := content.size
        signal := (extraction catalog options entry content).signal }), session) := by
  rw [classify_text read text, detect_settled settled]
  rfl

theorem classify_chosen {content : ByteArray} (read : ws.read entry.path = .ok content)
    (text : isBinary options entry content = false)
    (settled : isSettled (extraction catalog options entry content) = false) {session : Session σ}
    {language : String}
    (chosen : ((chosen? catalog options entry.rel (extraction catalog options entry content).candidates
      (String.ofList (Files.textOf content))).run.run session.skipped).1 = .ok (some language)) :
    ((classify ws catalog options source entry).run session).1.2 = .ok {
      path := entry.key
      label := some (labelOf catalog options language)
      size := content.size
      signal := .heuristic } := by
  rw [classify_text read text, detect_choice rfl settled (Prod.ext chosen rfl)]
  rfl

theorem fallback_silent (path : String) (candidates : Candidates) (content : List Char) :
    ((fallback (.ofAnswer fun _ => .ok none) path candidates content).run ()).1.2 =
      .ok candidates.first? := by
  have hlearnt (labels : List Label) : (learnSamples (.ofAnswer fun _ => .ok none) labels {}).run () =
      (([], .ok {}), ()) := by
    induction labels with
    | nil => rfl
    | cons label rest ih =>
      rw [learnSamples]
      exact ih
  unfold fallback
  simp only [StateT.run_bind, hlearnt]
  rfl

/-- What is said of the file of an entry. -/
def verdict (ws : Workspace) (catalog : Catalog) (options : Options)
    (answer : Label → Except SampleFault (Option String)) (entry : Entry) :
    Except ClassifyError Classified :=
  ((classify ws catalog options (.ofAnswer answer) entry).run { samples := () }).1.2

theorem verdict_unread {error : Workspace.ReadError} (unread : ws.read entry.path = .error error) :
    verdict ws catalog options answer entry = .ok { path := entry.key } := by
  unfold verdict classify
  rw [unread]
  rfl

theorem verdict_binary {content : ByteArray} (read : ws.read entry.path = .ok content)
    (binary : isBinary options entry content = true) :
    verdict ws catalog options answer entry =
      .ok { path := entry.key, size := content.size, binary := true } := by
  unfold verdict classify
  simp only [read, binary, ↓reduceIte]
  rfl

theorem verdict_settled {content : ByteArray} (read : ws.read entry.path = .ok content)
    (text : isBinary options entry content = false) {found : Extraction}
    (seen : extraction catalog options entry content = found) (settled : isSettled found = true) :
    verdict ws catalog options answer entry = .ok {
      path := entry.key
      label := found.candidates.first?
      size := content.size
      signal := found.signal } := by
  subst seen
  rw [verdict, classify_settled read text settled]

theorem verdict_compared {content : ByteArray} (read : ws.read entry.path = .ok content)
    (text : isBinary options entry content = false) {found : Extraction}
    (seen : extraction catalog options entry content = found) (choice : isSettled found = false)
    (ruleless : catalog.disambiguations = []) :
    verdict ws catalog options answer entry =
      ((((fallback (.ofAnswer answer) entry.key found.candidates (Files.textOf content)).run
        ()).1.2.mapError ClassifyError.fallback).map fun label =>
          { path := entry.key, label, size := content.size, signal := .classifier }) := by
  have hchosen : (chosen? catalog options entry.rel found.candidates
      (String.ofList (Files.textOf content))).run.run [] = (.ok none, []) := by
    simp [chosen?, asksRules, disambiguationsFor, ruleless]
    rfl
  rw [verdict, classify_text read text, detect_choice seen choice hchosen]
  simp only
  cases ((fallback (.ofAnswer answer) entry.key found.candidates (Files.textOf content)).run ()).1.2 <;> rfl

theorem verdict_silent (ws : Workspace) (options : Options) (ruleless : catalog.disambiguations = [])
    (entry : Entry) : ∃ item, verdict ws catalog options (fun _ => .ok none) entry = .ok item := by
  cases read : ws.read entry.path with
  | error e => exact ⟨_, verdict_unread read⟩
  | ok content =>
    cases text : isBinary options entry content with
    | true => exact ⟨_, verdict_binary read text⟩
    | false =>
      cases settled : isSettled (extraction catalog options entry content) with
      | true => exact ⟨_, verdict_settled read text rfl settled⟩
      | false =>
        rw [verdict_compared read text rfl settled ruleless, fallback_silent]
        exact ⟨_, rfl⟩

theorem verdict_item {item : Classified} (h : verdict ws catalog options answer entry = .ok item) :
    item.path = entry.key ∧ item.size = sizeAt ws entry.path :=
  classify_item h

theorem map_under {said : Except ClassifyError Classified} {path : String}
    (h : ∀ item, said = .ok item → item.path = path) : said.map (under path) = said := by
  cases said with
  | error e => rfl
  | ok item =>
    have hpath := h item rfl
    subst hpath
    rfl

theorem classify_eq_verdict (h : source.Answers answer) (ws : Workspace) (catalog : Catalog)
    (options : Options) (entry : Entry) (session : Session σ) :
    ((classify ws catalog options source entry).run session).1.2 =
      verdict ws catalog options answer entry := by
  have hvalue := (SameFile.refl ws entry).classify_value h catalog options entry.key session
    { samples := () }
  simp only [map_under fun item hi => (classify_item hi).1] at hvalue
  exact hvalue

theorem verdict_congr (same : SameFile ws others entry other) :
    (verdict ws catalog options answer entry).map (under other.key) =
      verdict others catalog options answer other := by
  have hvalue := same.classify_value (SampleSource.ofAnswer_answers answer) catalog options other.key
    { samples := () } { samples := () }
  exact hvalue.trans (map_under fun item hi => (verdict_item hi).1)

theorem verdict_congr_key (same : SameFile ws others entry other) (key : entry.key = other.key) :
    verdict ws catalog options answer entry = verdict others catalog options answer other := by
  rw [← verdict_congr same, ← key]
  exact (map_under fun item hi => (verdict_item hi).1).symm

end Analysis

end Polyglot
