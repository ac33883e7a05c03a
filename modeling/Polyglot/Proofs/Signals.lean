import Polyglot.Proofs.Labels

namespace Polyglot

namespace Detection

/-- What a rule says of a content: whether it holds, unless a pattern ends the search. -/
def tested (content : String) (rule : ContentRule) : Except PatternError Bool :=
  ((holds content rule).run.run []).1

/-- Whether a rule was found not to hold. -/
def refuses (content : String) (rule : ContentRule) : Bool :=
  match tested content rule with
  | .ok false => true
  | _ => false

theorem refuses_iff {content : String} {rule : ContentRule} :
    refuses content rule = true ↔ tested content rule = .ok false := by
  unfold refuses
  split <;> simp_all

section
variable (catalog : Catalog) (options : Options) (path : String) (candidates : Candidates)

/-- The rules that are asked of a file with a path and some candidates. -/
def applicable : List ContentRule :=
  if asksRules catalog options path candidates then
    ((disambiguationsFor catalog path).flatMap Disambiguation.rules).filter fun rule =>
      eligible catalog candidates rule.language
  else []

end

theorem firstRule?_value (eligible : String → Bool) (content : String) (rules : List ContentRule)
    (skipped : List PatternError) :
    ((firstRule? eligible content rules).run.run skipped).1 =
      match (rules.filter fun rule => eligible rule.language).find? (!refuses content ·) with
      | none => .ok none
      | some rule => (tested content rule).map fun _ => some rule.language := by
  induction rules generalizing skipped with
  | nil => rfl
  | cons rule rest ih =>
    rw [firstRule?]
    cases he : eligible rule.language with
    | false =>
      rw [if_neg (by simp), List.filter_cons_of_neg (by simp [he])]
      exact ih skipped
    | true =>
      have htested : ((holds content rule).run.run skipped).1 = tested content rule :=
        blind_holds content rule skipped []
      rw [if_pos rfl, List.filter_cons_of_pos (by simpa using he), List.find?_cons, ExceptT.run_bind,
        run_andThen]
      rcases hh : (holds content rule).run.run skipped with ⟨here, next⟩
      rw [hh] at htested
      rcases here with e | _ | _
      · simp [refuses, ← htested, Except.map]
        rfl
      · simp only [refuses, ← htested]
        exact ih next
      · simp [refuses, ← htested, Except.map]
        rfl

theorem chosen?_value (catalog : Catalog) (options : Options) (path : String) (candidates : Candidates)
    (content : String) (skipped : List PatternError) :
    ((chosen? catalog options path candidates content).run.run skipped).1 =
      match (applicable catalog options path candidates).find? (!refuses content ·) with
      | none => .ok none
      | some rule => (tested content rule).map fun _ => some rule.language := by
  rw [chosen?, applicable]
  split
  · exact firstRule?_value _ _ _ _
  · rfl

end Detection

namespace Analysis

open Polyglot.Detection

section
variable (catalog : Catalog) (options : Options) (entry : Entry) (content : ByteArray)

/-- The language of the interpreter that the first line names, if shebangs are asked. -/
def shebangOf : Option String :=
  if options.checkShebang then shebang? catalog (String.ofList (Files.firstLineOf content)) else none

/-- The language that attributes give to the file, if they are asked. The empty text is none. -/
def overrideOf : Option String :=
  if options.checkAttributes then (entry.rules.override? entry.rel).filter (· != "") else none

/-- The name that filenames and extensions are compared with. -/
def comparedName : String := Text.lower (Path.ofText entry.rel).name

def byFilename : List String := catalog.filenameIndex.get (comparedName entry)

/-- The languages with the extension are asked for where none has the filename. -/
def byExtensionOnly : List String :=
  if (byFilename catalog entry).isEmpty then byExtension catalog (comparedName entry) else []

/-- What some languages count as, each once. -/
def countedAs (names : List String) : Candidates := .ofList (names.map (labelOf catalog options))

/-- What the languages count as that have the filename, or else the extension. -/
def candidatesOf : Candidates :=
  countedAs catalog options (if (byFilename catalog entry).isEmpty then byExtensionOnly catalog entry
    else byFilename catalog entry)

/-- The first rule on contents that does not refuse. -/
def ruleFor? : Option ContentRule :=
  (applicable catalog options entry.rel (candidatesOf catalog options entry)).find?
    (!refuses (String.ofList (Files.textOf content)) ·)

/-- The language of this rule, unless a pattern ended the search. -/
def ruledOf : Option String :=
  (ruleFor? catalog options entry content).bind fun rule =>
    (tested (String.ofList (Files.textOf content)) rule).toOption.map fun _ => rule.language

/-- What each signal leaves, in their order. -/
def readings : List (Signal × List Label) := [
  (.shebang, (countedAs catalog options (shebangOf catalog options content).toList).labels),
  (.override, (countedAs catalog options (overrideOf options entry).toList).labels),
  (.filename, (countedAs catalog options (byFilename catalog entry)).labels),
  (.extension, (countedAs catalog options (byExtensionOnly catalog entry)).labels),
  (.heuristic, (countedAs catalog options (ruledOf catalog options entry content).toList).labels)]

/-- No signal decides: there is neither a shebang nor an override, several candidates are left, and no
rule on contents holds. -/
structure Undecided : Prop where
  shebang : shebangOf catalog options content = none
  override : overrideOf options entry = none
  several : 1 < (candidatesOf catalog options entry).size
  rules : ∀ rule ∈ applicable catalog options entry.rel (candidatesOf catalog options entry),
    tested (String.ofList (Files.textOf content)) rule = .ok false

end

/-- A signal decides if it leaves one label. -/
def decisionOf (reading : Signal × List Label) : Option (Signal × Label) :=
  match reading.2 with
  | [label] => some (reading.1, label)
  | _ => none

/-- The first signal that decides, and its label. -/
def decision (readings : List (Signal × List Label)) : Option (Signal × Label) :=
  readings.findSome? decisionOf

variable {catalog : Catalog} {options : Options} {entry : Entry} {content : ByteArray}

theorem countedAs_eq_nil {names : List String} :
    (countedAs catalog options names).labels = [] ↔ names = [] :=
  Candidates.labels_ofList_eq_nil.trans List.map_eq_nil_iff

/-- The signal of what the filename or the extension leaves. -/
def namedSignal (catalog : Catalog) (entry : Entry) : Signal :=
  if !(byFilename catalog entry).isEmpty then .filename
  else if !(byExtensionOnly catalog entry).isEmpty then .extension else .none

theorem extraction_shebang {language : String}
    (shebang : shebangOf catalog options content = some language) :
    extraction catalog options entry content = ⟨countedAs catalog options [language], .shebang⟩ := by
  rw [extraction, extract]
  rw [shebangOf] at shebang
  split at shebang
  · rename_i hc
    simp only [hc, ↓reduceIte, Option.bind_some, shebang]
    rfl
  · cases shebang

theorem extraction_no_shebang (entry : Entry) (shebang : shebangOf catalog options content = none) :
    extraction catalog options entry content =
      match overrideOf options entry with
      | some language => ⟨countedAs catalog options [language], .override⟩
      | none => ⟨candidatesOf catalog options entry, namedSignal catalog entry⟩ := by
  have hinterpreter : (if options.checkShebang then
      (if options.checkShebang then some (String.ofList (Files.firstLineOf content)) else none).bind
        (shebang? catalog) else none) = none := by
    rw [shebangOf] at shebang
    split at shebang
    · rename_i hc
      simp only [hc, ↓reduceIte, Option.bind_some, shebang]
    · rename_i hc
      simp only [hc, Bool.false_eq_true, ↓reduceIte]
  have hforced : (if options.checkAttributes then
      (if options.checkAttributes then entry.rules.override? entry.rel else none).filter (· != "")
        else none) = overrideOf options entry := by
    rw [overrideOf]
    split <;> rfl
  have hname : Text.lower (Path.ofText entry.rel).name = comparedName entry := rfl
  rw [extraction, extract]
  simp only [hinterpreter, hforced, hname]
  cases overrideOf options entry with
  | some language => rfl
  | none =>
    cases hf : catalog.filenameIndex.get (comparedName entry) with
    | cons language others =>
      have hnames : byFilename catalog entry = language :: others := hf
      simp only [candidatesOf, namedSignal, byExtensionOnly, hnames]
      rfl
    | nil =>
      have hnames : byFilename catalog entry = [] := hf
      simp only [candidatesOf, namedSignal, byExtensionOnly, hnames]
      cases byExtension catalog (comparedName entry) <;> rfl

theorem extraction_named (shebang : shebangOf catalog options content = none)
    (override : overrideOf options entry = none) :
    extraction catalog options entry content =
      ⟨candidatesOf catalog options entry, namedSignal catalog entry⟩ := by
  rw [extraction_no_shebang entry shebang, override]

/-- Lists of readings that are the same up to the first that decides. -/
def SameUpToDecision (first second : List (Signal × List Label)) : Prop :=
  ∃ before reading rest others, (decisionOf reading).isSome = true ∧
    first = before ++ reading :: rest ∧ second = before ++ reading :: others

theorem SameUpToDecision.decision_eq {first second : List (Signal × List Label)}
    (h : SameUpToDecision first second) :
    decision first = decision second ∧ (decision first).isSome = true := by
  obtain ⟨before, reading, rest, others, hdecides, rfl, rfl⟩ := h
  obtain ⟨decided, hd⟩ := Option.isSome_iff_exists.mp hdecides
  simp only [decision, List.findSome?_append, List.findSome?_cons, hd]
  cases before.findSome? decisionOf <;> exact ⟨trivial, rfl⟩

theorem applicable_eq_nil {path : String} {candidates : Candidates} (h : candidates.size ≤ 1) :
    applicable catalog options path candidates = [] := by
  rw [applicable, if_neg]
  have hnot : ¬ 1 < candidates.size := by omega
  simp [asksRules, hnot]

theorem decision_cons (reading : Signal × List Label) (rest : List (Signal × List Label)) :
    decision (reading :: rest) = (decisionOf reading).or (decision rest) := by
  rw [decision, List.findSome?_cons]
  cases decisionOf reading <;> rfl

theorem decision_nil : decision [] = none := rfl

theorem decisionOf_eq_none {signal : Signal} {candidates : Candidates} (h : candidates.size ≠ 1) :
    decisionOf (signal, candidates.labels) = none := by
  rw [Candidates.size] at h
  rw [decisionOf]
  split
  · rename_i label hl
    exact absurd (congrArg List.length hl) h
  · rfl

theorem decisionOf_countedAs_nil (signal : Signal) :
    decisionOf (signal, (countedAs catalog options []).labels) = none := rfl

theorem decisionOf_toList (signal : Signal) (language : Option String) :
    decisionOf (signal, (countedAs catalog options language.toList).labels) =
      language.map fun language => (signal, labelOf catalog options language) := by
  cases language <;> rfl

theorem decision_shebang {language : String}
    (shebang : shebangOf catalog options content = some language) :
    decision (readings catalog options entry content) =
      some (.shebang, labelOf catalog options language) := by
  simp only [readings, decision_cons, decisionOf_toList, shebang, Option.map_some, Option.some_or]

theorem decision_override {language : String} (shebang : shebangOf catalog options content = none)
    (override : overrideOf options entry = some language) :
    decision (readings catalog options entry content) =
      some (.override, labelOf catalog options language) := by
  simp only [readings, decision_cons, decisionOf_toList, shebang, override, Option.map_none,
    Option.none_or, Option.map_some, Option.some_or]

/-- Without a shebang and an override, filename and extension decide if they leave one candidate, and
else the rules. -/
theorem decision_named (shebang : shebangOf catalog options content = none)
    (override : overrideOf options entry = none) :
    decision (readings catalog options entry content) =
      (decisionOf (namedSignal catalog entry, (candidatesOf catalog options entry).labels)).or
        ((ruledOf catalog options entry content).map fun language =>
          (.heuristic, labelOf catalog options language)) := by
  simp only [readings, decision_cons, decision_nil, decisionOf_toList, shebang, override,
    Option.map_none, Option.none_or, Option.or_none]
  cases hf : byFilename catalog entry with
  | cons language others =>
    have hextension : byExtensionOnly catalog entry = [] := by simp [byExtensionOnly, hf]
    simp [candidatesOf, namedSignal, hextension, hf, decisionOf_countedAs_nil]
  | nil =>
    simp only [candidatesOf, namedSignal, hf, decisionOf_countedAs_nil]
    cases byExtensionOnly catalog entry <;> simp [decisionOf_countedAs_nil]

theorem Undecided.no_rule (h : Undecided catalog options entry content) :
    ruleFor? catalog options entry content = none :=
  List.find?_eq_none.mpr fun rule hm => by simpa using refuses_iff.mpr (h.rules rule hm)

theorem Undecided.no_decision (h : Undecided catalog options entry content) :
    decision (readings catalog options entry content) = none := by
  have hseveral := h.several
  rw [decision_named h.shebang h.override, decisionOf_eq_none (by omega), ruledOf, h.no_rule]
  rfl

theorem undecided_of_no_rule (shebang : shebangOf catalog options content = none)
    (override : overrideOf options entry = none)
    (several : 1 < (candidatesOf catalog options entry).size)
    (first : ruleFor? catalog options entry content = none) :
    Undecided catalog options entry content :=
  ⟨shebang, override, several, fun rule hm =>
    refuses_iff.mp (by simpa using List.find?_eq_none.mp first rule hm)⟩

variable {σ : Type} {source : SampleSource σ} {session : Session σ}

/-- What the first signal that decides makes of a text. -/
def decidedBy (decided : Option (Signal × Label)) : Option Label × Signal :=
  (decided.map Prod.snd, (decided.map Prod.fst).getD .none)

/-- A pattern that can neither be searched for nor be skipped ends the search before a rule holds. -/
def EndedBy (catalog : Catalog) (options : Options) (entry : Entry) (content : ByteArray)
    (error : PatternError) : Prop :=
  decision (readings catalog options entry content) = none ∧
    ∃ rule, ruleFor? catalog options entry content = some rule ∧
      tested (String.ofList (Files.textOf content)) rule = .error error

/-- What is detected is what the first signal that decides says, unless a pattern ends the search. -/
def BySignals (catalog : Catalog) (options : Options) (entry : Entry) (content : ByteArray)
    (said : Except ClassifyError (Option Label × Signal)) : Prop :=
  said = .ok (decidedBy (decision (readings catalog options entry content))) ∨
    ∃ error, EndedBy catalog options entry content error ∧ said = .error (.pattern error)

theorem chosen?_ruleFor? (catalog : Catalog) (options : Options) (entry : Entry) (content : ByteArray)
    (skipped : List PatternError) :
    ((chosen? catalog options entry.rel (candidatesOf catalog options entry)
      (String.ofList (Files.textOf content))).run.run skipped).1 =
      match ruleFor? catalog options entry content with
      | none => .ok none
      | some rule =>
        (tested (String.ofList (Files.textOf content)) rule).map fun _ => some rule.language :=
  chosen?_value _ _ _ _ _ _

theorem decidedBy_named (shebang : shebangOf catalog options content = none)
    (override : overrideOf options entry = none)
    (few : (candidatesOf catalog options entry).size ≤ 1) :
    decidedBy (decision (readings catalog options entry content)) =
      ((candidatesOf catalog options entry).first?, namedSignal catalog entry) := by
  have hrule : ruleFor? catalog options entry content = none := by
    rw [ruleFor?, applicable_eq_nil few]
    rfl
  rw [decision_named shebang override, ruledOf, hrule]
  cases hl : (candidatesOf catalog options entry).labels with
  | nil =>
    have hnames : namedSignal catalog entry = .none := by
      rw [candidatesOf, countedAs_eq_nil] at hl
      split at hl
      · rename_i hf
        simp [namedSignal, hf, hl]
      · rename_i hf
        simp [hl] at hf
    rw [hnames, Candidates.first?, hl]
    rfl
  | cons label rest =>
    have hrest : rest = [] := by simpa [Candidates.size, hl] using few
    rw [Candidates.first?, hl, hrest]
    rfl

theorem isSettled_named (several : 1 < (candidatesOf catalog options entry).size) :
    isSettled ⟨candidatesOf catalog options entry, namedSignal catalog entry⟩ = false := by
  have hopen : Extraction.terminal ⟨candidatesOf catalog options entry, namedSignal catalog entry⟩ =
      false := by
    rw [Extraction.terminal, namedSignal]
    split
    · rfl
    · split <;> rfl
  simp [isSettled, hopen, several]

/-- Rules that are asked of several candidates, and do not all refuse, decide or end the search. -/
theorem detect_rule (shebang : shebangOf catalog options content = none)
    (override : overrideOf options entry = none)
    (several : 1 < (candidatesOf catalog options entry).size) {rule : ContentRule}
    (first : ruleFor? catalog options entry content = some rule) :
    let detected := (detect catalog options source entry content).run session
    detected.2.samples = session.samples ∧
      BySignals catalog options entry content detected.1.2 := by
  have hdecision := decision_named shebang override
  rw [decisionOf_eq_none (by omega), Option.none_or, ruledOf, first, Option.bind_some] at hdecision
  have hvalue := chosen?_ruleFor? catalog options entry content session.skipped
  simp only [first] at hvalue
  rcases hc : (chosen? catalog options entry.rel (candidatesOf catalog options entry)
    (String.ofList (Files.textOf content))).run.run session.skipped with ⟨chosen, skipped⟩
  rw [hc] at hvalue
  rw [detect_choice (extraction_named shebang override) (isSettled_named several) hc]
  unfold BySignals
  rw [hdecision]
  cases ht : tested (String.ofList (Files.textOf content)) rule with
  | error error =>
    rw [ht] at hvalue hdecision
    subst hvalue
    exact ⟨rfl, .inr ⟨error, ⟨hdecision, rule, first, ht⟩, rfl⟩⟩
  | ok here =>
    rw [ht] at hvalue
    subst hvalue
    exact ⟨rfl, .inl rfl⟩

theorem Undecided.detect_eq (h : Undecided catalog options entry content) :
    (detect catalog options source entry content).run session =
      let compared := (fallback source entry.key (candidatesOf catalog options entry)
        (Files.textOf content)).run session.samples
      ((compared.1.1, (compared.1.2.mapError .fallback).map fun label => (label, .classifier)),
        { skipped := ((chosen? catalog options entry.rel (candidatesOf catalog options entry)
            (String.ofList (Files.textOf content))).run.run session.skipped).2
          samples := compared.2 }) := by
  have hvalue := chosen?_ruleFor? catalog options entry content session.skipped
  simp only [h.no_rule] at hvalue
  rw [detect_choice (extraction_named h.shebang h.override) (isSettled_named h.several)
    (Prod.ext hvalue rfl)]

/-- A text that is not undecided gets its label by the first signal that decides, and no sample is asked
for. -/
theorem detect_signals (source : SampleSource σ) (session : Session σ)
    (decides : ¬ Undecided catalog options entry content) :
    let detected := (detect catalog options source entry content).run session
    detected.2.samples = session.samples ∧
      BySignals catalog options entry content detected.1.2 := by
  have settled {found : Extraction} (seen : extraction catalog options entry content = found)
      (h : isSettled found = true)
      (same : decidedBy (decision (readings catalog options entry content)) =
        (found.candidates.first?, found.signal)) :
      (detect catalog options source entry content).run session =
        (([], .ok (decidedBy (decision (readings catalog options entry content)))), session) := by
    subst seen
    rw [same, detect_settled h]
  cases hs : shebangOf catalog options content with
  | some language =>
    rw [settled (extraction_shebang hs) rfl (by rw [decision_shebang hs]; rfl)]
    exact ⟨rfl, .inl rfl⟩
  | none =>
    cases ho : overrideOf options entry with
    | some language =>
      have hseen := extraction_no_shebang entry hs
      rw [ho] at hseen
      rw [settled hseen rfl (by rw [decision_override hs ho]; rfl)]
      exact ⟨rfl, .inl rfl⟩
    | none =>
      by_cases hsize : 1 < (candidatesOf catalog options entry).size
      · cases hr : ruleFor? catalog options entry content with
        | none => exact absurd (undecided_of_no_rule hs ho hsize hr) decides
        | some rule => exact detect_rule hs ho hsize hr
      · have few : (candidatesOf catalog options entry).size ≤ 1 := by omega
        rw [settled (extraction_named hs ho) (by simp [isSettled, few]) (decidedBy_named hs ho few)]
        exact ⟨rfl, .inl rfl⟩

end Analysis

end Polyglot
