import Polyglot.Proofs.Selection

namespace Polyglot

open Polyglot.Files
open Polyglot.Analysis (compiled compiled_cons compileEach_ok globsOf_eq FatalPattern
  toOption_compilePattern)

/-- A pattern in its notation, and what errors call the place that it stands in. -/
structure SourcedPattern where
  dialect : PatternDialect
  source : String
  pattern : String

/-- Why a pattern does not compile, if it does not. -/
def SourcedPattern.error? (item : SourcedPattern) : Option PatternError :=
  match compilePattern item.dialect item.source item.pattern with
  | .ok _ => none
  | .error e => some e

/-- Whether a pattern compiles, which does not depend on where it stands. -/
def compiles (dialect : PatternDialect) (pattern : String) : Bool :=
  (compilePattern dialect "" pattern).toOption.isSome

theorem compiles_eq (dialect : PatternDialect) (source pattern : String) :
    compiles dialect pattern = (compilePattern dialect source pattern).toOption.isSome := by
  rw [compiles, toOption_compilePattern dialect "" source]

theorem compiles_iff_error? (item : SourcedPattern) :
    compiles item.dialect item.pattern = true ↔ item.error? = none := by
  rw [compiles_eq item.dialect item.source, SourcedPattern.error?]
  cases compilePattern item.dialect item.source item.pattern <;> simp [Except.toOption]

theorem compiled_filter (dialect : PatternDialect) (patterns : List String) :
    compiled dialect (patterns.filter (compiles dialect)) = compiled dialect patterns := by
  rw [compiled, compiled, List.filterMap_filter]
  refine List.filterMap_congr fun pattern _ => ?_
  rw [compiles]
  cases (compilePattern dialect "" pattern).toOption <;> rfl

/-- The pattern that an event reports to be left out of the rules. -/
def Event.skipped? : Event → Option PatternError
  | .ignoreSkipped e => some e
  | _ => none

/-- The errors of the patterns that are reported to be left out of the rules. -/
def skippedIn (journal : Journal) : List PatternError := journal.filterMap Event.skipped?

/-- A journal without the reports of patterns that are left out of the rules. -/
def sparing (journal : Journal) : Journal := journal.filter fun event => event.skipped?.isNone

@[simp] theorem skippedIn_append (a b : Journal) : skippedIn (a ++ b) = skippedIn a ++ skippedIn b :=
  List.filterMap_append

@[simp] theorem sparing_append (a b : Journal) : sparing (a ++ b) = sparing a ++ sparing b :=
  List.filter_append ..

/-- The errors of patterns, in order. -/
def errorsOf (patterns : List SourcedPattern) : List PatternError :=
  patterns.filterMap SourcedPattern.error?

@[simp] theorem errorsOf_append (a b : List SourcedPattern) :
    errorsOf (a ++ b) = errorsOf a ++ errorsOf b :=
  List.filterMap_append

/-- The reports of the patterns that do not compile. -/
def reportsOf (patterns : List SourcedPattern) : Journal := (errorsOf patterns).map .ignoreSkipped

@[simp] theorem reportsOf_append (a b : List SourcedPattern) :
    reportsOf (a ++ b) = reportsOf a ++ reportsOf b := by
  simp [reportsOf]

@[simp] theorem skippedIn_reportsOf (patterns : List SourcedPattern) :
    skippedIn (reportsOf patterns) = errorsOf patterns := by
  rw [skippedIn, reportsOf, List.filterMap_map]
  exact List.filterMap_some

@[simp] theorem sparing_reportsOf (patterns : List SourcedPattern) : sparing (reportsOf patterns) = [] := by
  simp [sparing, reportsOf, Event.skipped?]

/-- Those of some patterns that compile. -/
def unbroken (patterns : List SourcedPattern) : List SourcedPattern :=
  patterns.filter fun item => compiles item.dialect item.pattern

@[simp] theorem unbroken_append (a b : List SourcedPattern) :
    unbroken (a ++ b) = unbroken a ++ unbroken b :=
  List.filter_append ..

@[simp] theorem reportsOf_unbroken (patterns : List SourcedPattern) : reportsOf (unbroken patterns) = [] := by
  rw [reportsOf, errorsOf, unbroken, List.filterMap_filter]
  simp only [List.map_eq_nil_iff, List.filterMap_eq_nil_iff]
  intro item _
  split
  · exact (compiles_iff_error? item).mp ‹_›
  · rfl

/-- Patterns of one place. -/
def standingIn (dialect : PatternDialect) (source : String) (patterns : List String) :
    List SourcedPattern :=
  patterns.map (⟨dialect, source, ·⟩)

theorem standingIn_filter (dialect : PatternDialect) (source : String) (patterns : List String) :
    standingIn dialect source (patterns.filter (compiles dialect)) =
      unbroken (standingIn dialect source patterns) := by
  rw [unbroken, standingIn, standingIn, List.filter_map]
  rfl

theorem reportsOf_cons (dialect : PatternDialect) (source pattern : String) (rest : List String) :
    reportsOf (standingIn dialect source (pattern :: rest)) =
      (match compilePattern dialect source pattern with
        | .ok _ => []
        | .error e => [.ignoreSkipped e]) ++ reportsOf (standingIn dialect source rest) := by
  rw [standingIn, List.map_cons, reportsOf, errorsOf, List.filterMap_cons, SourcedPattern.error?]
  cases compilePattern dialect source pattern <;> rfl

theorem globsOf_reports (source : String) (patterns : List String) :
    globsOf source patterns =
      (reportsOf (standingIn .glob source patterns), compiled .glob patterns) := by
  refine Prod.ext ?_ (globsOf_eq source patterns)
  induction patterns with
  | nil => rfl
  | cons pattern rest ih =>
    rw [reportsOf_cons, globsOf]
    cases compilePattern .glob source pattern <;> simp [ih]

theorem compileEach_reports {dialect : PatternDialect} {source : String} {patterns : List String}
    (harmless : ∀ pattern ∈ patterns, ∀ error, compilePattern dialect source pattern = .error error →
      error.fatal = false) :
    compileEach dialect source patterns =
      (reportsOf (standingIn dialect source patterns), .ok (compiled dialect patterns)) := by
  induction patterns with
  | nil => rfl
  | cons pattern rest ih =>
    have hrest := ih fun other hm => harmless other (List.mem_cons_of_mem _ hm)
    rw [reportsOf_cons, compiled_cons dialect source, compileEach]
    cases hp : compilePattern dialect source pattern with
    | ok matcher => simp [hrest, Except.map, Except.toOption]
    | error e =>
      simp [hrest, harmless pattern List.mem_cons_self e hp, Except.toOption]

/-- A catalog without the patterns that do not compile. -/
def Catalog.unbroken (catalog : Catalog) : Catalog :=
  { catalog with
    vendor := catalog.vendor.filter (compiles .regex)
    generated := catalog.generated.filter (compiles .regex) }

/-- Options without the patterns that do not compile. -/
def Options.unbroken (options : Options) : Options :=
  { options with ignoredFiles := options.ignoredFiles.filter (compiles .glob) }

/-- The patterns that a resolver reads before any folder. -/
def patternsAtStart (catalog : Catalog) (options : Options) : List SourcedPattern :=
  (if options.keepVendored then [] else
    standingIn .regex RuleOrigin.builtinVendor.name catalog.vendor ++
      standingIn .regex RuleOrigin.builtinGenerated.name catalog.generated) ++
    standingIn .glob "ignored_files" options.ignoredFiles

/-- The rules of the patterns that compile of those. -/
def rulesAtStart (catalog : Catalog) (options : Options) : RuleSet where
  ignores := (if options.keepVendored then [] else
    rootRules .builtinVendor (compiled .regex catalog.vendor) ++
      rootRules .builtinGenerated (compiled .regex catalog.generated)) ++ suppliedRules options

section
variable {catalog : Catalog} {options : Options}

theorem patternsAtStart_unbroken :
    patternsAtStart catalog.unbroken options.unbroken = unbroken (patternsAtStart catalog options) := by
  simp only [patternsAtStart, Catalog.unbroken, Options.unbroken, standingIn_filter, unbroken_append]
  cases options.keepVendored <;> simp [unbroken]

theorem rulesAtStart_unbroken :
    rulesAtStart catalog.unbroken options.unbroken = rulesAtStart catalog options := by
  simp only [rulesAtStart, Catalog.unbroken, Options.unbroken, suppliedRules, globsOf_eq,
    compiled_filter]

theorem builtin_reports (harmless : ∀ error, ¬ FatalPattern catalog options error) :
    Resolver.builtin catalog options =
      (reportsOf (patternsAtStart catalog options), .ok (rulesAtStart catalog options)) := by
  cases hk : options.keepVendored with
  | true =>
    simp only [Resolver.builtin, patternsAtStart, rulesAtStart, suppliedRules, globsOf_reports, hk,
      ↓reduceIte, List.nil_append]
    rfl
  | false =>
    have hregex {patterns : List String} {origin : RuleOrigin}
        (within : ∀ pattern ∈ patterns, pattern ∈ catalog.vendor ++ catalog.generated) :
        compileEach .regex origin.name patterns =
          (reportsOf (standingIn .regex origin.name patterns), .ok (compiled .regex patterns)) := by
      refine compileEach_reports fun pattern hm error hp => ?_
      by_contra hfatal
      exact harmless error ⟨hk, by simpa using hfatal, pattern, within pattern hm, _, hp⟩
    simp only [Resolver.builtin, patternsAtStart, rulesAtStart, suppliedRules, globsOf_reports, hk,
      Bool.false_eq_true, ↓reduceIte, Except.map, reportsOf_append,
      hregex fun pattern hm => List.mem_append_left _ hm,
      hregex fun pattern hm => List.mem_append_right _ hm]
    rfl

theorem harmless_unbroken (harmless : ∀ error, ¬ FatalPattern catalog options error)
    (error : PatternError) : ¬ FatalPattern catalog.unbroken options.unbroken error := by
  rintro ⟨hk, hfatal, pattern, hm, source, hp⟩
  refine harmless error ⟨hk, hfatal, pattern, ?_, source, hp⟩
  rw [List.mem_append] at hm ⊢
  exact hm.imp List.mem_of_mem_filter List.mem_of_mem_filter

end

/-- The pattern that a line of a file of rules holds. -/
def patternIn? (name line : String) : Option String :=
  if name = ignoreFileName then (some line).filter isIgnoreLine
  else (AttributeLine.ofText? line).map AttributeLine.pattern

/-- Whether the pattern of a line does not compile. -/
def isBroken (name line : String) : Bool := (patternIn? name line).any fun pattern => !compiles .glob pattern

/-- A text without some of its lines. -/
def withoutLines (drop : String → Bool) (text : List Char) : List Char :=
  ['\n'].intercalate (((linesOf text).filter (!drop ·)).map String.toList)

/-- The text of a file of rules without the lines whose patterns do not compile. -/
def unbrokenText (name : String) (text : List Char) : List Char := withoutLines (isBroken name) text

theorem linesOf_withoutLines (drop : String → Bool) (text : List Char) :
    linesOf (withoutLines drop text) = (linesOf text).filter (!drop ·) ∨
      (linesOf text).filter (!drop ·) = [] ∧ linesOf (withoutLines drop text) = [""] := by
  by_cases hnone : (linesOf text).filter (!drop ·) = []
  · right
    refine ⟨hnone, ?_⟩
    rw [withoutLines, hnone]
    rfl
  · left
    have hwhole : ∀ piece ∈ ((linesOf text).filter (!drop ·)).map String.toList, '\n' ∉ piece := by
      intro piece hp
      obtain ⟨line, hl, rfl⟩ := List.mem_map.mp hp
      obtain ⟨chars, hc, rfl⟩ := List.mem_map.mp (List.mem_of_mem_filter hl)
      rw [String.toList_ofList]
      exact not_mem_of_mem_splitOn hc
    rw [linesOf, withoutLines, splitOn_intercalate (by simpa using hnone) hwhole, Text.ofPieces,
      List.map_map]
    simp [Function.comp_def]

theorem mem_intercalate {α : Type} {sep c : α} {pieces : List (List α)}
    (h : c ∈ [sep].intercalate pieces) : c = sep ∨ ∃ piece ∈ pieces, c ∈ piece := by
  induction pieces with
  | nil => cases h
  | cons piece rest ih =>
    cases rest with
    | nil => exact .inr ⟨piece, List.mem_cons_self, by simpa using h⟩
    | cons next others =>
      rw [List.intercalate_cons_cons, List.mem_append, List.mem_append, List.mem_singleton] at h
      rcases h with (h | h) | h
      · exact .inr ⟨piece, List.mem_cons_self, h⟩
      · exact .inl h
      · obtain rfl | ⟨other, ho, hm⟩ := ih h
        · exact .inl rfl
        · exact .inr ⟨other, List.mem_cons_of_mem _ ho, hm⟩

/-- What is left holds nothing that the text does not hold, but for the ends of lines. -/
theorem mem_of_mem_withoutLines {drop : String → Bool} {text : List Char} {c : Char}
    (h : c ∈ withoutLines drop text) : c = '\n' ∨ c ∈ text := by
  refine (mem_intercalate h).imp_right ?_
  rintro ⟨piece, hp, hm⟩
  obtain ⟨line, hl, rfl⟩ := List.mem_map.mp hp
  obtain ⟨chars, hc, rfl⟩ := List.mem_map.mp (List.mem_of_mem_filter hl)
  rw [String.toList_ofList] at hm
  exact (mem_splitWhere hc c hm).1

theorem filterMap_withoutLines {α : Type} {f : String → Option α} (blank : f "" = none)
    {keep : α → Bool} {drop : String → Bool} (drops : ∀ line, drop line = (f line).any (!keep ·))
    (text : List Char) :
    (linesOf (withoutLines drop text)).filterMap f = ((linesOf text).filterMap f).filter keep := by
  have hkept : ((linesOf text).filter (!drop ·)).filterMap f =
      ((linesOf text).filterMap f).filter keep := by
    rw [List.filterMap_filter, List.filter_filterMap]
    refine List.filterMap_congr fun line _ => ?_
    rw [drops]
    cases f line with
    | none => simp
    | some item => cases hk : keep item <;> simp [hk, Option.filter]
  rcases linesOf_withoutLines drop text with hl | ⟨hnone, hl⟩
  · rw [hl, hkept]
  · rw [hl, ← hkept, hnone]
    simp [blank]

/-- The patterns of a file of rules. -/
def linePatterns (name : String) (text : List Char) : List String :=
  (linesOf text).filterMap (patternIn? name)

theorem linePatterns_unbrokenText (name : String) (text : List Char) :
    linePatterns name (unbrokenText name text) = (linePatterns name text).filter (compiles .glob) := by
  refine filterMap_withoutLines ?_ (fun line => rfl) text
  rw [patternIn?]
  split <;> rfl

theorem linePatterns_ignoreFile (text : List Char) :
    linePatterns ignoreFileName text = (linesOf text).filter isIgnoreLine := by
  rw [linePatterns, ← List.filterMap_eq_filter]
  refine List.filterMap_congr fun line _ => ?_
  simp [patternIn?, Option.guard, Option.filter]

theorem linePatterns_attributesFile (text : List Char) :
    linePatterns attributesFileName text =
      ((linesOf text).filterMap AttributeLine.ofText?).map AttributeLine.pattern := by
  have hname : attributesFileName ≠ ignoreFileName := by decide
  rw [linePatterns, List.map_filterMap]
  refine List.filterMap_congr fun line _ => ?_
  rw [patternIn?, if_neg hname]

theorem attributeLines_unbrokenText (text : List Char) :
    (linesOf (unbrokenText attributesFileName text)).filterMap AttributeLine.ofText? =
      ((linesOf text).filterMap AttributeLine.ofText?).filter fun line => compiles .glob line.pattern := by
  have hname : attributesFileName ≠ ignoreFileName := by decide
  refine filterMap_withoutLines rfl (fun line => ?_) text
  rw [isBroken, patternIn?, if_neg hname, Option.any_map]

section
variable {catalog : Catalog} {options : Options}

theorem ignoreFileRules_unbroken (folder : String) (text : List Char) :
    ignoreFileRules options.unbroken folder (unbrokenText ignoreFileName text) =
      (sparing (ignoreFileRules options folder text).1, (ignoreFileRules options folder text).2) := by
  simp only [ignoreFileRules, ← linePatterns_ignoreFile, linePatterns_unbrokenText, globsOf_reports,
    compiled_filter, standingIn_filter, reportsOf_unbroken, Options.unbroken]
  split
  · simp
  · rw [sparing_append, sparing_reportsOf]
    rfl

theorem skippedIn_ignoreFileRules (folder : String) (text : List Char) :
    skippedIn (ignoreFileRules options folder text).1 =
      errorsOf (standingIn .glob (sourceIn folder ignoreFileName) (linePatterns ignoreFileName text)) := by
  simp only [ignoreFileRules, ← linePatterns_ignoreFile, globsOf_reports]
  split
  · simp
  · rw [skippedIn_append, skippedIn_reportsOf]
    exact List.append_nil _

theorem attributeRules_unbroken (folder : String) (lines : List AttributeLine) :
    attributeRules catalog.unbroken options.unbroken folder
        (lines.filter fun line => compiles .glob line.pattern) =
      ([], (attributeRules catalog options folder lines).2) := by
  induction lines with
  | nil => rfl
  | cons line rest ih =>
    have hcompiles := compiles_eq .glob (sourceIn folder attributesFileName) line.pattern
    rw [List.filter_cons, hcompiles, attributeRules]
    cases hp : compilePattern .glob (sourceIn folder attributesFileName) line.pattern with
    | ok matcher =>
      simp only [Except.toOption, Option.isSome_some, ↓reduceIte, attributeRules, ih, hp]
      rfl
    | error e =>
      simp only [Except.toOption, Option.isSome_none, Bool.false_eq_true, ↓reduceIte, ih]

theorem attributeRules_reports (folder : String) (lines : List AttributeLine) :
    (attributeRules catalog options folder lines).1 =
      reportsOf (standingIn .glob (sourceIn folder attributesFileName)
        (lines.map AttributeLine.pattern)) := by
  induction lines with
  | nil => rfl
  | cons line rest ih =>
    rw [List.map_cons, reportsOf_cons, attributeRules]
    cases compilePattern .glob (sourceIn folder attributesFileName) line.pattern <;> simp [ih]

theorem attributesFileRules_unbroken (folder : String) (text : List Char) :
    attributesFileRules catalog.unbroken options.unbroken folder
        (unbrokenText attributesFileName text) =
      (sparing (attributesFileRules catalog options folder text).1,
        (attributesFileRules catalog options folder text).2) := by
  rw [attributesFileRules, attributeLines_unbrokenText, attributeRules_unbroken, attributesFileRules,
    attributeRules_reports, sparing_reportsOf]

theorem skippedIn_attributesFileRules (folder : String) (text : List Char) :
    skippedIn (attributesFileRules catalog options folder text).1 =
      errorsOf (standingIn .glob (sourceIn folder attributesFileName)
        (linePatterns attributesFileName text)) := by
  rw [attributesFileRules, attributeRules_reports, skippedIn_reportsOf, linePatterns_attributesFile]

end

end Polyglot
