import Polyglot.Proofs.Requests
import Polyglot.Proofs.Signals

namespace Polyglot.Analysis

open Polyglot.Detection
open Polyglot.Files (Workspace)

variable {σ : Type} {ws : Workspace} {catalog : Catalog} {options : Options} {entry : Entry}
  {content : ByteArray} {source : SampleSource σ} {session : Session σ}

/-- A session in which nothing was asked for. -/
def Session.logged (session : Session σ) : Session (σ × List Request) where
  skipped := session.skipped
  samples := (session.samples, [])

/-- What a source is asked for while a file is classified. -/
def requestsOf (ws : Workspace) (catalog : Catalog) (options : Options) (source : SampleSource σ)
    (entry : Entry) (session : Session σ) : List Request :=
  ((classify ws catalog options source.logged entry).run session.logged).2.samples.2

theorem detect_logged (catalog : Catalog) (options : Options) (source : SampleSource σ)
    (entry : Entry) (content : ByteArray) (session : Session σ) :
    let detected := (detect catalog options source entry content).run session
    ∃ requests, (detect catalog options source.logged entry content).run session.logged =
      (detected.1, ⟨detected.2.skipped, (detected.2.samples, requests)⟩) := by
  cases hs : isSettled (extraction catalog options entry content) with
  | true =>
    rw [detect_settled hs, detect_settled hs]
    exact ⟨[], rfl⟩
  | false =>
    rcases hc : (chosen? catalog options entry.rel (extraction catalog options entry content).candidates
      (String.ofList (Files.textOf content))).run.run session.skipped with ⟨chosen, skipped⟩
    have hc' : (chosen? catalog options entry.rel
        (extraction catalog options entry content).candidates
        (String.ofList (Files.textOf content))).run.run session.logged.skipped = (chosen, skipped) := hc
    rw [detect_choice rfl hs hc, detect_choice rfl hs hc']
    match chosen with
    | .error e => exact ⟨[], rfl⟩
    | .ok (some language) => exact ⟨[], rfl⟩
    | .ok none =>
      obtain ⟨requests, hrun, -⟩ := logs_fallback source entry.key
        (extraction catalog options entry content).candidates (Files.textOf content) session.samples []
      refine ⟨[] ++ requests, ?_⟩
      simp only [Session.logged, hrun]

theorem classify_logged (ws : Workspace) (catalog : Catalog) (options : Options)
    (source : SampleSource σ) (entry : Entry) (session : Session σ) :
    let classified := (classify ws catalog options source entry).run session
    (classify ws catalog options source.logged entry).run session.logged =
      (classified.1, ⟨classified.2.skipped,
        (classified.2.samples, requestsOf ws catalog options source entry session)⟩) := by
  suffices h : ∃ requests, (classify ws catalog options source.logged entry).run session.logged =
      (((classify ws catalog options source entry).run session).1,
        ⟨((classify ws catalog options source entry).run session).2.skipped,
          (((classify ws catalog options source entry).run session).2.samples, requests)⟩) by
    obtain ⟨requests, hrun⟩ := h
    simp only [requestsOf, hrun]
  cases hr : ws.read entry.path with
  | error e => exact ⟨[], by simp only [classify, hr]; rfl⟩
  | ok content =>
    cases hb : isBinary options entry content with
    | true => exact ⟨[], by simp only [classify, hr, hb]; rfl⟩
    | false =>
      obtain ⟨requests, hrun⟩ := detect_logged catalog options source entry content session
      refine ⟨requests, ?_⟩
      rw [classify_text hr hb, classify_text hr hb, hrun]

theorem requestsOf_binary
    (binary : ∀ content, ws.read entry.path = .ok content → isBinary options entry content = true) :
    requestsOf ws catalog options source entry session = [] := by
  unfold requestsOf classify
  cases hr : ws.read entry.path with
  | error e => rfl
  | ok content =>
    simp only [binary content hr, ↓reduceIte]
    rfl

theorem requestsOf_decided (read : ws.read entry.path = .ok content)
    (text : isBinary options entry content = false)
    (decides : ¬ Undecided catalog options entry content) :
    requestsOf ws catalog options source entry session = [] := by
  rw [requestsOf, classify_text read text]
  have hsamples := (detect_signals source.logged session.logged decides).1
  simp only [hsamples]
  rfl

theorem asks_undecided (source : SampleSource σ) (session : Session σ)
    (read : ws.read entry.path = .ok content)
    (text : isBinary options entry content = false) (h : Undecided catalog options entry content) :
    ∃ ended, Asks (candidatesOf catalog options entry).labels
        (requestsOf ws catalog options source entry session) ended ∧
      ∀ fault, ended = .error fault →
        ((classify ws catalog options source entry).run session).1.2 =
          .error (.fallback (.sample fault)) := by
  obtain ⟨requests, hrun, ended, hasks, hfault⟩ := logs_fallback source entry.key
    (candidatesOf catalog options entry) (Files.textOf content) session.samples []
  have hrequests : requestsOf ws catalog options source entry session = requests := by
    rw [requestsOf, classify_text read text, h.detect_eq]
    simp only [Session.logged, hrun, List.nil_append]
  rw [hrequests]
  refine ⟨ended, hasks, fun fault he => ?_⟩
  rw [classify_text read text, h.detect_eq]
  simp only [hfault fault he]
  rfl

/-- No signal gives an answer: there is neither a shebang nor an override, several candidates are left,
and no rule on contents matches. -/
structure Unanswered (catalog : Catalog) (options : Options) (entry : Entry) (content : ByteArray) :
    Prop where
  shebang : shebangOf catalog options content = none
  override : overrideOf options entry = none
  several : 1 < (candidatesOf catalog options entry).size
  unmatched : ∀ rule ∈ applicable catalog options entry.rel (candidatesOf catalog options entry),
    tested (String.ofList (Files.textOf content)) rule ≠ .ok true

/-- Where no pattern ends the search, a rule that does not match was found not to hold. -/
theorem unanswered_iff (unended : ∀ error, ¬ EndedBy catalog options entry content error) :
    Unanswered catalog options entry content ↔ Undecided catalog options entry content := by
  constructor
  · intro h
    have hdecision := @decision_named catalog options entry content h.shebang h.override
    rw [decisionOf_eq_none (by have := h.several; omega), Option.none_or, ruledOf] at hdecision
    refine undecided_of_no_rule h.shebang h.override h.several (Option.eq_none_iff_forall_ne_some.mpr ?_)
    intro rule first
    rw [first, Option.bind_some] at hdecision
    cases ht : tested (String.ofList (Files.textOf content)) rule with
    | error error =>
      rw [ht] at hdecision
      exact unended error ⟨hdecision, rule, first, ht⟩
    | ok matched =>
      cases matched with
      | true => exact h.unmatched rule (List.mem_of_find?_eq_some first) ht
      | false => simpa [refuses, ht] using List.find?_some first
  · intro h
    refine ⟨h.shebang, h.override, h.several, fun rule hm ht => ?_⟩
    cases (h.rules rule hm).symm.trans ht

/-- What is asked for and what is said of a file follow the order of the signals. -/
structure Follows (ws : Workspace) (catalog : Catalog) (options : Options) (entry : Entry)
    (requests : List Request) (said : Except ClassifyError Classified) : Prop where
  /-- Samples are asked for of texts for which no signal gives an answer, and of no other files. -/
  asks_iff : requests ≠ [] ↔ ∃ content, ws.read entry.path = .ok content ∧
    isBinary options entry content = false ∧ Unanswered catalog options entry content
  /-- In all other texts the first signal that decides gives the label. -/
  decided : ∀ content, ws.read entry.path = .ok content → isBinary options entry content = false →
    requests = [] →
      said = .ok {
        path := entry.key
        label := (decidedBy (decision (readings catalog options entry content))).1
        size := content.size
        signal := (decidedBy (decision (readings catalog options entry content))).2 }

theorem undecided_of_asked (asked : requestsOf ws catalog options source entry session ≠ []) :
    ∃ content, ws.read entry.path = .ok content ∧ isBinary options entry content = false ∧
      Undecided catalog options entry content := by
  by_contra hnot
  refine asked ?_
  by_cases hbinary : ∀ content, ws.read entry.path = .ok content →
      isBinary options entry content = true
  · exact requestsOf_binary hbinary
  · obtain ⟨content, read, text⟩ : ∃ content, ws.read entry.path = .ok content ∧
        isBinary options entry content = false := by simpa using hbinary
    exact requestsOf_decided read text fun h => hnot ⟨content, read, text, h⟩

theorem asked_of_undecided (read : ws.read entry.path = .ok content)
    (text : isBinary options entry content = false) (h : Undecided catalog options entry content) :
    requestsOf ws catalog options source entry session ≠ [] := by
  obtain ⟨ended, hasks, -⟩ := asks_undecided source session read text h
  exact hasks.ne_nil (List.ne_nil_of_length_pos (Nat.lt_trans Nat.zero_lt_one h.several))

theorem classify_follows (source : SampleSource σ) (session : Session σ)
    (unended : ∀ content error, ws.read entry.path = .ok content →
      ¬ EndedBy catalog options entry content error) :
    Follows ws catalog options entry (requestsOf ws catalog options source entry session)
      ((classify ws catalog options source entry).run session).1.2 := by
  refine ⟨⟨fun asked => ?_, ?_⟩, ?_⟩
  · obtain ⟨content, read, text, h⟩ := undecided_of_asked asked
    exact ⟨content, read, text, (unanswered_iff fun error => unended content error read).mpr h⟩
  · rintro ⟨content, read, text, h⟩
    exact asked_of_undecided read text ((unanswered_iff fun error => unended content error read).mp h)
  · intro content read text hasked
    have hnot : ¬ Undecided catalog options entry content := fun h => asked_of_undecided read text h hasked
    rw [classify_text read text]
    rcases (detect_signals source session hnot).2 with hok | ⟨error, hended, -⟩
    · simp only [hok]
      rfl
    · exact absurd hended (unended content error read)

theorem classify_decision (source : SampleSource σ) (session : Session σ)
    (read : ws.read entry.path = .ok content)
    (text : isBinary options entry content = false)
    (decides : (decision (readings catalog options entry content)).isSome = true) :
    ∃ item, ((classify ws catalog options source entry).run session).1.2 = .ok item ∧
      (item.label, item.signal) = decidedBy (decision (readings catalog options entry content)) := by
  have hnot : ¬ Undecided catalog options entry content := by
    intro h
    rw [h.no_decision] at decides
    cases decides
  rw [classify_text read text]
  rcases (detect_signals source session hnot).2 with
    hok | ⟨error, ⟨hnone, -⟩, -⟩
  · refine ⟨_, by simp only [hok]; rfl, rfl⟩
  · rw [hnone] at decides
    cases decides

/-- The order of the signals decides what is asked for and what is said of a file, and writing down what
is asked for changes nothing of it. What is asked for are the candidates, each once and in order, up to a
fault that ends it all. Texts with the same readings up to the first signal that decides get the same
label, whatever comes after it. -/
theorem classify_precedence (ws : Workspace) (catalog : Catalog) (options : Options)
    (source : SampleSource σ) (entry : Entry) (session : Session σ) :
    let run := (classify ws catalog options source entry).run session
    let requests := requestsOf ws catalog options source entry session
    (classify ws catalog options source.logged entry).run session.logged =
        (run.1, ⟨run.2.skipped, (run.2.samples, requests)⟩) ∧
      ((∀ content error, ws.read entry.path = .ok content →
          ¬ EndedBy catalog options entry content error) →
        Follows ws catalog options entry requests run.1.2) ∧
      (requests ≠ [] → (candidatesOf catalog options entry).labels.Nodup ∧
        ∃ ended, Asks (candidatesOf catalog options entry).labels requests ended ∧
          ∀ fault, ended = .error fault → run.1.2 = .error (.fallback (.sample fault))) ∧
      ∀ (others : Workspace) (τ : Type) (source' : SampleSource τ) (other : Entry)
        (session' : Session τ) (content content' : ByteArray),
        ws.read entry.path = .ok content → isBinary options entry content = false →
        others.read other.path = .ok content' → isBinary options other content' = false →
        SameUpToDecision (readings catalog options entry content)
          (readings catalog options other content') →
        ∃ item item', run.1.2 = .ok item ∧
          ((classify others catalog options source' other).run session').1.2 = .ok item' ∧
          item.label = item'.label ∧ item.signal = item'.signal := by
  intro run requests
  refine ⟨classify_logged ws catalog options source entry session, classify_follows source session,
    fun asked => ?_, ?_⟩
  · obtain ⟨content, read, text, h⟩ := undecided_of_asked asked
    exact ⟨Candidates.nodup_ofList _, asks_undecided source session read text h⟩
  · intro others τ source' other session' content content' read text read' text' same
    obtain ⟨hsame, hdecided⟩ := same.decision_eq
    obtain ⟨item, hitem, hdecision⟩ := classify_decision source session read text hdecided
    obtain ⟨item', hitem', hdecision'⟩ := classify_decision source' session' read' text'
      (hsame ▸ hdecided)
    have hall := hdecision.trans ((congrArg decidedBy hsame).trans hdecision'.symm)
    exact ⟨item, item', hitem, hitem', (Prod.mk.inj hall).1, (Prod.mk.inj hall).2⟩

/-- Two languages with one extension, one of them with an interpreter, and a language that goes by the
empty text. -/
def rivals : Catalog := Catalog.ofLanguages [
  { name := "", category := .data, aliases := ["e"] },
  { name := "A", category := .data, extensions := [".c"], interpreters := ["a"] },
  { name := "B", category := .data, extensions := [".c"] }] (by decide) "inline"

/-- A workspace with two scripts. -/
def scripts : Workspace := ⟨.folder [("a", .file "#!a".toUTF8), ("a.c", .file "#!a".toUTF8)], []⟩

/-- The entry of the script without an extension. -/
def plainEntry : Entry := ⟨"a", "a", ⟨"", ["a"]⟩, {}⟩

theorem candidatesOf_rivals : candidatesOf rivals {} oneEntry = ⟨[.text "A", .text "B"]⟩ := by cbv

theorem applicable_rivals : applicable rivals {} oneEntry.rel (candidatesOf rivals {} oneEntry) = [] := by
  cbv

theorem undecided_rivals : Undecided rivals {} oneEntry "int a;".toUTF8 := by
  refine ⟨by cbv, by cbv, ?_, by simp [applicable_rivals]⟩
  rw [candidatesOf_rivals]
  decide

/-- The extension leaves two languages to one script and none to the other. -/
theorem classify_precedence_scripts :
    let source : SampleSource Unit := .ofAnswer fun _ => .ok none
    let session : Session Unit := { samples := () }
    requestsOf oneFile rivals {} source oneEntry session ≠ [] ∧
      ∃ item item',
        ((classify scripts rivals {} source oneEntry).run session).1.2 = .ok item ∧
        ((classify scripts rivals {} source plainEntry).run session).1.2 = .ok item' ∧
        item.label = item'.label ∧ item.signal = item'.signal := by
  intro source session
  have hread : scripts.read oneEntry.path = .ok "#!a".toUTF8 := by cbv
  have hread' : scripts.read plainEntry.path = .ok "#!a".toUTF8 := by cbv
  have htext : isBinary {} oneEntry "#!a".toUTF8 = false := by cbv
  have htext' : isBinary {} plainEntry "#!a".toUTF8 = false := by cbv
  have hsame : SameUpToDecision (readings rivals {} oneEntry "#!a".toUTF8)
      (readings rivals {} plainEntry "#!a".toUTF8) := by
    have hreadings : readings rivals {} oneEntry "#!a".toUTF8 =
        [] ++ (.shebang, [.text "A"]) :: [(.override, []), (.filename, []),
          (.extension, [.text "A", .text "B"]), (.heuristic, [])] := by cbv
    have hreadings' : readings rivals {} plainEntry "#!a".toUTF8 =
        [] ++ (.shebang, [.text "A"]) :: [(.override, []), (.filename, []), (.extension, []),
          (.heuristic, [])] := by cbv
    exact ⟨_, _, _, _, rfl, hreadings, hreadings'⟩
  refine ⟨?_, ?_⟩
  · have hunended : ∀ content error, oneFile.read oneEntry.path = .ok content →
        ¬ EndedBy rivals {} oneEntry content error := by
      rintro content error - ⟨-, rule, first, -⟩
      rw [ruleFor?, applicable_rivals] at first
      cases first
    have hunanswered : Unanswered rivals {} oneEntry "int a;".toUTF8 :=
      (unanswered_iff fun error => hunended _ error read_oneFile).mpr undecided_rivals
    exact ((classify_precedence oneFile rivals {} source oneEntry session).2.1 hunended).asks_iff.mpr
      ⟨_, read_oneFile, isBinary_oneFile _, hunanswered⟩
  · exact (classify_precedence scripts rivals {} source oneEntry session).2.2.2 scripts Unit source
      plainEntry session _ _ hread htext hread' htext' hsame

/-- The entry of the file where attributes name an alias of the empty text. -/
def overriddenEntry : Entry :=
  { oneEntry with rules := (attributesFileRules rivals {} "" "* linguist-language=e".toList).2 }

theorem overriddenEntry_rules : ∃ matcher : Matcher, matcher.test "a.c" = true ∧
    overriddenEntry.rules = { overrides := [⟨⟨matcher, ""⟩, ""⟩] } := by
  let line : AttributeLine := ⟨"*", ["linguist-language=e"]⟩
  have hglob : (compilePattern .glob attributesFileName "*").toOption.map (·.test "a.c") =
      some true := by cbv
  have hlines : (linesOf "* linguist-language=e".toList).filterMap AttributeLine.ofText? = [line] := by
    cbv
  have hkind : line.kind? = none := by
    have hstart : Text.startsWith "text=" "linguist-language=e" = false := by cbv
    simp [line, AttributeLine.kind?, contentKind?, hstart]
  have hexcludes : line.excludes = false := by cbv
  have hlanguage : line.language? = some "e" := by cbv
  have halias : rivals.resolveAlias "e" = "" := by cbv
  cases hm : compilePattern .glob attributesFileName "*" with
  | error e => simp [hm, Except.toOption] at hglob
  | ok matcher =>
    have hsource : sourceIn "" attributesFileName = attributesFileName := rfl
    have hpattern : line.pattern = "*" := rfl
    refine ⟨matcher, by simpa [hm, Except.toOption] using hglob, ?_⟩
    simp only [overriddenEntry, attributesFileRules, hlines, attributeRules, hsource, hpattern, hm,
      AttributeLine.rules, hkind, hexcludes, hlanguage, halias]
    rfl

/-- Not all candidates are asked for where the source has a fault of its own, and samples are asked for
where an override gives the empty text. -/
theorem precedence_exceptions :
    let text := "int a;".toUTF8
    let silent : SampleSource Unit := .ofAnswer fun _ => .ok none
    let session : Session Unit := { samples := () }
    (Undecided rivals {} oneEntry text ∧
      (requestsOf oneFile rivals {} faulty oneEntry session).map Prod.fst ≠
        (candidatesOf rivals {} oneEntry).labels) ∧
    overriddenEntry.rules.override? overriddenEntry.rel = some "" ∧
      requestsOf oneFile rivals {} silent overriddenEntry session ≠ [] := by
  intro text silent session
  refine ⟨⟨undecided_rivals, ?_⟩, ?_⟩
  · have hrequests : requestsOf oneFile rivals {} faulty oneEntry session =
        [(.text "A", .error (.other "no sample"))] := by
      rw [requestsOf, classify_text read_oneFile (isBinary_oneFile _), undecided_rivals.detect_eq,
        candidatesOf_rivals]
      rfl
    rw [hrequests, candidatesOf_rivals]
    decide
  · obtain ⟨matcher, hmatches, hrules⟩ := overriddenEntry_rules
    have hoverride : overriddenEntry.rules.override? overriddenEntry.rel = some "" := by
      have hrel : overriddenEntry.rel = "a.c" := rfl
      rw [hrules, hrel]
      simp [RuleSet.override?, PathRule.test, scoped?, hmatches]
    have htext : isBinary {} overriddenEntry text = false := by
      have hplain := isBinary_oneFile {}
      rw [isBinary] at hplain ⊢
      rw [hrules]
      exact hplain
    have hundecided : Undecided rivals {} overriddenEntry text := by
      have h := undecided_rivals
      refine ⟨h.shebang, ?_, h.several, h.rules⟩
      rw [overrideOf, hoverride]
      rfl
    have hread : oneFile.read overriddenEntry.path = .ok text := read_oneFile
    exact ⟨hoverride, asked_of_undecided hread htext hundecided⟩

end Polyglot.Analysis
