import Polyglot.Proofs.AmendedFiles
import Polyglot.Proofs.DeadLinkRuns
import Polyglot.Proofs.Encodings
import Polyglot.Proofs.ForcedText
import Polyglot.Proofs.PatternReports

namespace Polyglot

open Polyglot.Files
open Polyglot.Analysis (FatalPattern)

/-- The files of rules in a folder read as they do in another workspace without the lines whose
patterns do not compile. -/
def ReadsUnbroken (ws cleaned : Workspace) (root : Path) (folder : String) : Prop :=
  ∀ name ∈ ruleFileNames,
    (cleaned.readIfFile (root ++ Path.ofText folder ++ Path.ofText name)).map (·.map textOf) =
      (ws.readIfFile (root ++ Path.ofText folder ++ Path.ofText name)).map
        (·.map fun content => unbrokenText name (textOf content))

/-- What a file holds without the lines whose patterns do not compile, if it is a file of rules. -/
def unbrokenContent (name : String) (content : ByteArray) : ByteArray :=
  if name ∈ ruleFileNames then (String.ofList (unbrokenText name (textOf content))).toUTF8 else content

/-- A workspace whose files of rules are left without the lines whose patterns do not compile. -/
def unbrokenWorkspace (ws : Workspace) : Workspace := ws.amend unbrokenContent

theorem textOf_unbrokenContent {name : String} (hn : name ∈ ruleFileNames) (content : ByteArray) :
    textOf (unbrokenContent name content) = unbrokenText name (textOf content) := by
  have hreturn : '\r' ∉ unbrokenText name (textOf content) := fun h =>
    (mem_of_mem_withoutLines h).elim (by decide) (not_mem_textOf content)
  rw [unbrokenContent, if_pos hn, textOf_toUTF8 hreturn]

theorem readsUnbroken_unbrokenWorkspace {ws : Workspace}
    (unlinked : ∀ name ∈ ruleFileNames, ws.Unlinked name) (root : Path) (folder : String) :
    ReadsUnbroken ws (unbrokenWorkspace ws) root folder := by
  intro name hn
  have ends : (root ++ Path.ofText folder ++ Path.ofText name).parts =
      (root ++ Path.ofText folder).parts ++ [name] := by
    rw [ofText_name (isName_of_ruleFile hn)]
    rfl
  rw [unbrokenWorkspace, Workspace.readIfFile_amend fun _ =>
    (unlinked name hn).locate (isName_of_ruleFile hn) ends]
  cases ws.readIfFile (root ++ Path.ofText folder ++ Path.ofText name) with
  | error e => rfl
  | ok content =>
    cases content with
    | none => rfl
    | some content =>
      exact congrArg (fun text => Except.ok (some text)) (textOf_unbrokenContent hn content)

namespace Resolver

/-- A resolver with the same rules, whose catalog and options hold no pattern that does not compile. -/
def unbroken (resolver : Resolver) : Resolver :=
  { resolver with catalog := resolver.catalog.unbroken, options := resolver.options.unbroken }

/-- What is read without the patterns that do not compile. -/
def Reading.sparing (reading : Reading) : Reading :=
  { reading with journal := Polyglot.sparing reading.journal }

/-- What loading comes to without the patterns that do not compile. -/
def Loading.unbroken (loading : Loading) : Loading :=
  { journal := Polyglot.sparing loading.journal, resolver := loading.resolver.unbroken
    fault := loading.fault }

/-- The patterns of a file of rules, if it is asked for and there. -/
def patternsOf (ws : Workspace) (resolver : Resolver) (folder name : String) (asked : Bool) :
    List SourcedPattern :=
  match resolver.askedText ws folder name asked with
  | .ok (some text) => standingIn .glob (sourceIn folder name) (linePatterns name text)
  | _ => []

/-- The patterns that reading a folder comes across. -/
def patternsOfFolder (ws : Workspace) (resolver : Resolver) (folder : String) : List SourcedPattern :=
  resolver.patternsOf ws folder ignoreFileName resolver.options.checkIgnored ++
    match resolver.askedText ws folder ignoreFileName resolver.options.checkIgnored with
    | .ok _ => resolver.patternsOf ws folder attributesFileName resolver.options.checkAttributes
    | .error _ => []

/-- The patterns that loading a folder comes across: none, where the folder is not read. -/
def patternsOfLoad (ws : Workspace) (resolver : Resolver) (folder : String) : List SourcedPattern :=
  if resolver.options.quick || resolver.loaded.contains folder ||
      (folder != "" && resolver.ignores (folder ++ "/")) then []
  else resolver.patternsOfFolder ws folder

/-- What each of some calls comes to. -/
def loadings (ws : Workspace) : List String → Resolver → List Loading
  | [], _ => []
  | folder :: rest, resolver =>
    let loading := resolver.load ws folder
    loading :: loadings ws rest loading.resolver

/-- The patterns that some calls come across. -/
def patternsOfLoads (ws : Workspace) : List String → Resolver → List SourcedPattern
  | [], _ => []
  | folder :: rest, resolver =>
    resolver.patternsOfLoad ws folder ++ patternsOfLoads ws rest (resolver.load ws folder).resolver

section
variable {ws cleaned : Workspace} {resolver : Resolver} {folder name : String}

theorem map_mapError {ε ε' α β : Type} (outcome : Except ε α) (f : ε → ε') (g : α → β) :
    (outcome.mapError f).map g = (outcome.map g).mapError f := by
  cases outcome <;> rfl

theorem askedText_unbroken (reads : ReadsUnbroken ws cleaned resolver.root folder)
    (hn : name ∈ ruleFileNames) (asked : Bool) :
    resolver.unbroken.askedText cleaned folder name asked =
      (resolver.askedText ws folder name asked).map (·.map (unbrokenText name)) := by
  cases asked with
  | false => rfl
  | true =>
    let path := resolver.root ++ Path.ofText folder ++ Path.ofText name
    have hread : (cleaned.readIfFile path).map (·.map textOf) =
        (ws.readIfFile path).map (·.map fun content => unbrokenText name (textOf content)) :=
      reads name hn
    change ((cleaned.readIfFile path).mapError (Refusal.mk path)).map (·.map textOf) =
      (((ws.readIfFile path).mapError (Refusal.mk path)).map (·.map textOf)).map
        (·.map (unbrokenText name))
    rw [map_mapError, hread]
    cases ws.readIfFile path with
    | error e => rfl
    | ok content => cases content <;> rfl

theorem patternsOf_unbroken (reads : ReadsUnbroken ws cleaned resolver.root folder)
    (hn : name ∈ ruleFileNames) (asked : Bool) :
    resolver.unbroken.patternsOf cleaned folder name asked =
      Polyglot.unbroken (resolver.patternsOf ws folder name asked) := by
  rw [patternsOf, patternsOf, askedText_unbroken reads hn]
  cases resolver.askedText ws folder name asked with
  | error e => rfl
  | ok text =>
    cases text with
    | none => rfl
    | some text =>
      change standingIn .glob _ (linePatterns name (unbrokenText name text)) = _
      rw [linePatterns_unbrokenText, standingIn_filter]

theorem fileRules_unbroken (reads : ReadsUnbroken ws cleaned resolver.root folder)
    (hn : name ∈ ruleFileNames) (asked : Bool) {rulesOf rulesOf' : List Char → Journal × RuleSet}
    (spares : ∀ text, rulesOf' (unbrokenText name text) =
      (Polyglot.sparing (rulesOf text).1, (rulesOf text).2)) :
    resolver.unbroken.fileRules cleaned folder name asked rulesOf' =
      (resolver.fileRules ws folder name asked rulesOf).sparing := by
  rw [fileRules_eq, fileRules_eq, askedText_unbroken reads hn]
  cases resolver.askedText ws folder name asked with
  | error e => rfl
  | ok text =>
    cases text with
    | none => rfl
    | some text => simp [Except.map, spares, Reading.sparing]

theorem sparing_followedBy (first second : Reading) :
    (first.followedBy second).sparing = first.sparing.followedBy second.sparing := by
  cases hf : first.fault.isSome <;> simp [Reading.followedBy, Reading.sparing, hf]

theorem folderRules_unbroken (reads : ReadsUnbroken ws cleaned resolver.root folder) :
    resolver.unbroken.folderRules cleaned folder = (resolver.folderRules ws folder).sparing := by
  rw [folderRules_eq_followedBy, folderRules_eq_followedBy, sparing_followedBy,
    ← fileRules_unbroken reads (by simp [ruleFileNames]) _ (ignoreFileRules_unbroken folder),
    ← fileRules_unbroken reads (by simp [ruleFileNames]) _ (attributesFileRules_unbroken folder)]
  rfl

theorem skippedIn_fileRules {asked : Bool} {rulesOf : List Char → Journal × RuleSet}
    (reports : ∀ text, skippedIn (rulesOf text).1 =
      errorsOf (standingIn .glob (sourceIn folder name) (linePatterns name text))) :
    skippedIn (resolver.fileRules ws folder name asked rulesOf).journal =
      errorsOf (resolver.patternsOf ws folder name asked) := by
  rw [fileRules_eq, patternsOf]
  cases resolver.askedText ws folder name asked with
  | error e => rfl
  | ok text =>
    cases text with
    | none => rfl
    | some text => exact reports text

theorem skippedIn_folderRules :
    skippedIn (resolver.folderRules ws folder).journal =
      errorsOf (resolver.patternsOfFolder ws folder) := by
  have hignored : skippedIn (resolver.fileRules ws folder ignoreFileName resolver.options.checkIgnored
      (ignoreFileRules resolver.options folder)).journal = errorsOf (resolver.patternsOf ws folder
        ignoreFileName resolver.options.checkIgnored) :=
    skippedIn_fileRules (skippedIn_ignoreFileRules folder)
  have hattributes : skippedIn (resolver.fileRules ws folder attributesFileName
      resolver.options.checkAttributes (attributesFileRules resolver.catalog resolver.options
        folder)).journal = errorsOf (resolver.patternsOf ws folder attributesFileName
          resolver.options.checkAttributes) :=
    skippedIn_fileRules (skippedIn_attributesFileRules folder)
  rw [folderRules_eq_followedBy, Reading.followedBy, patternsOfFolder, errorsOf_append, ← hignored]
  cases hasked : resolver.askedText ws folder ignoreFileName resolver.options.checkIgnored with
  | error e =>
    rw [fileRules_eq, hasked]
    rfl
  | ok text =>
    have hread : ¬ (resolver.fileRules ws folder ignoreFileName resolver.options.checkIgnored
        (ignoreFileRules resolver.options folder)).fault.isSome = true := by
      rw [fileRules_eq, hasked]
      cases text <;> simp
    rw [if_neg hread, skippedIn_append, hattributes]

theorem skippedIn_journalFor (path : String) : skippedIn (resolver.journalFor path) = [] := by
  rw [journalFor]
  cases resolver.exclusion? path with
  | none => rfl
  | some exclusion => cases exclusion <;> rfl

theorem sparing_journalFor (path : String) :
    Polyglot.sparing (resolver.journalFor path) = resolver.journalFor path := by
  rw [journalFor]
  cases resolver.exclusion? path with
  | none => rfl
  | some exclusion => cases exclusion <;> rfl

/-- One call comes to the same without the patterns that do not compile, but for the reports of them. -/
theorem load_unbroken (reads : ReadsUnbroken ws cleaned resolver.root folder) :
    resolver.unbroken.load cleaned folder = (resolver.load ws folder).unbroken := by
  have hfolder := folderRules_unbroken reads
  simp only [load, hfolder]
  change (if resolver.options.quick || resolver.loaded.contains folder then _ else
    if folder != "" && resolver.ignores (folder ++ "/") then _ else _) = _
  split
  · rfl
  · split
    · rw [Loading.unbroken, sparing_journalFor]
      rfl
    · rfl

theorem skippedIn_load :
    skippedIn (resolver.load ws folder).journal = errorsOf (resolver.patternsOfLoad ws folder) := by
  rw [load, patternsOfLoad]
  by_cases hdone : (resolver.options.quick || resolver.loaded.contains folder) = true
  · rw [if_pos hdone, hdone, Bool.true_or]
    rfl
  · rw [if_neg hdone, Bool.eq_false_iff.mpr hdone, Bool.false_or]
    split
    · exact skippedIn_journalFor _
    · exact skippedIn_folderRules

theorem patternsOfLoad_unbroken (reads : ReadsUnbroken ws cleaned resolver.root folder) :
    resolver.unbroken.patternsOfLoad cleaned folder =
      Polyglot.unbroken (resolver.patternsOfLoad ws folder) := by
  have hfolder : resolver.unbroken.patternsOfFolder cleaned folder =
      Polyglot.unbroken (resolver.patternsOfFolder ws folder) := by
    have hname : ignoreFileName ∈ ruleFileNames := by simp [ruleFileNames]
    have hname' : attributesFileName ∈ ruleFileNames := by simp [ruleFileNames]
    have hignored : resolver.unbroken.options.checkIgnored = resolver.options.checkIgnored := rfl
    have hattributes : resolver.unbroken.options.checkAttributes = resolver.options.checkAttributes :=
      rfl
    rw [patternsOfFolder, patternsOfFolder, hignored, hattributes, patternsOf_unbroken reads hname,
      askedText_unbroken reads hname, patternsOf_unbroken reads hname', unbroken_append]
    cases hasked : resolver.askedText ws folder ignoreFileName resolver.options.checkIgnored with
    | error e => rfl
    | ok text => rfl
  rw [patternsOfLoad, patternsOfLoad, hfolder]
  change (if resolver.options.quick || resolver.loaded.contains folder ||
    (folder != "" && resolver.ignores (folder ++ "/")) then _ else _) = _
  split <;> rfl

theorem root_load : (resolver.load ws folder).resolver.root = resolver.root := by
  rw [load]
  split
  · rfl
  · split <;> rfl

theorem fault_load {refusal : Refusal} (h : (resolver.load ws folder).fault = some refusal) :
    ∃ name ∈ ruleFileNames,
      refusal.path = resolver.root ++ Path.ofText folder ++ Path.ofText name ∧
      ws.readIfFile refusal.path = .error refusal.error := by
  have hfile {name : String} {asked : Bool} {rulesOf : List Char → Journal × RuleSet}
      (hf : (resolver.fileRules ws folder name asked rulesOf).fault = some refusal) :
      refusal.path = resolver.root ++ Path.ofText folder ++ Path.ofText name ∧
        ws.readIfFile refusal.path = .error refusal.error := by
    cases asked with
    | false => cases hf
    | true =>
      simp only [fileRules, textIn?, Bool.not_true, Bool.false_eq_true, ↓reduceIte] at hf
      cases hr : ws.readIfFile (resolver.root ++ Path.ofText folder ++ Path.ofText name) with
      | error e =>
        rw [hr] at hf
        cases hf
        exact ⟨rfl, hr⟩
      | ok content =>
        rw [hr] at hf
        cases content <;> cases hf
  rw [load] at h
  split at h
  · cases h
  · split at h
    · cases h
    · change (resolver.folderRules ws folder).fault = some refusal at h
      rw [folderRules_eq_followedBy, Reading.followedBy] at h
      split at h
      · exact ⟨ignoreFileName, by simp [ruleFileNames], hfile h⟩
      · exact ⟨attributesFileName, by simp [ruleFileNames], hfile h⟩

end

section
variable {ws cleaned : Workspace}

theorem reads_behind {folder : String} {rest : List String} {resolver : Resolver}
    (reads : ∀ other ∈ folder :: rest, ReadsUnbroken ws cleaned resolver.root other) :
    ∀ other ∈ rest, ReadsUnbroken ws cleaned (resolver.load ws folder).resolver.root other := by
  intro other hm
  rw [root_load]
  exact reads other (List.mem_cons_of_mem _ hm)

theorem loadings_unbroken {calls : List String} {resolver : Resolver}
    (reads : ∀ folder ∈ calls, ReadsUnbroken ws cleaned resolver.root folder) :
    resolver.unbroken.loadings cleaned calls = (resolver.loadings ws calls).map Loading.unbroken := by
  induction calls generalizing resolver with
  | nil => rfl
  | cons folder rest ih =>
    have hload := load_unbroken (reads folder List.mem_cons_self)
    have hrest := ih (reads_behind reads)
    rw [loadings, loadings, hload]
    exact congrArg _ hrest

theorem loadFolders_unbroken {calls : List String} {resolver : Resolver}
    (reads : ∀ folder ∈ calls, ReadsUnbroken ws cleaned resolver.root folder) :
    resolver.unbroken.loadFolders cleaned calls = (resolver.loadFolders ws calls).unbroken := by
  induction calls generalizing resolver with
  | nil => rfl
  | cons folder rest ih =>
    have hload := load_unbroken (reads folder List.mem_cons_self)
    have hrest := ih (reads_behind reads)
    rw [loadFolders, loadFolders, List.foldl_cons, List.foldl_cons, hload]
    exact hrest

theorem patternsOfLoads_unbroken {calls : List String} {resolver : Resolver}
    (reads : ∀ folder ∈ calls, ReadsUnbroken ws cleaned resolver.root folder) :
    resolver.unbroken.patternsOfLoads cleaned calls =
      Polyglot.unbroken (resolver.patternsOfLoads ws calls) := by
  induction calls generalizing resolver with
  | nil => rfl
  | cons folder rest ih =>
    have hfolder := reads folder List.mem_cons_self
    have hrest := ih (reads_behind reads)
    rw [patternsOfLoads, patternsOfLoads, load_unbroken hfolder, patternsOfLoad_unbroken hfolder,
      unbroken_append]
    exact congrArg _ hrest

theorem skippedIn_loadings (calls : List String) (resolver : Resolver) :
    skippedIn ((resolver.loadings ws calls).flatMap Loading.journal) =
      errorsOf (resolver.patternsOfLoads ws calls) := by
  induction calls generalizing resolver with
  | nil => rfl
  | cons folder rest ih =>
    rw [loadings, patternsOfLoads, List.flatMap_cons, skippedIn_append, errorsOf_append, skippedIn_load,
      ih]

theorem fault_loadings {calls : List String} {resolver : Resolver} {call : String × Loading}
    (hm : call ∈ calls.zip (resolver.loadings ws calls)) {refusal : Refusal}
    (h : call.2.fault = some refusal) : ∃ name ∈ ruleFileNames,
      refusal.path = resolver.root ++ Path.ofText call.1 ++ Path.ofText name ∧
      ws.readIfFile refusal.path = .error refusal.error := by
  induction calls generalizing resolver with
  | nil => cases hm
  | cons folder rest ih =>
    rw [loadings, List.zip_cons_cons] at hm
    rcases List.mem_cons.mp hm with rfl | hm
    · exact fault_load h
    · obtain ⟨name, hn, hread⟩ := ih hm
      rw [root_load] at hread
      exact ⟨name, hn, hread⟩

end

end Resolver

/-- What a resolver reports from its start to the last of some calls. -/
def reported (ws : Workspace) (catalog : Catalog) (options : Options) (fresh : Resolver)
    (calls : List String) : Journal :=
  (Resolver.builtin catalog options).1 ++ (fresh.loadings ws calls).flatMap Resolver.Loading.journal

/-- The patterns that a resolver comes across from its start to the last of some calls. -/
def patternsRead (ws : Workspace) (catalog : Catalog) (options : Options) (fresh : Resolver)
    (calls : List String) : List SourcedPattern :=
  patternsAtStart catalog options ++ fresh.patternsOfLoads ws calls

/-- Calls come to the same with and without the patterns that do not compile. Each of these that is
read is reported once, in the order in which they are read, and nothing else is reported less. -/
structure Inert (ws cleaned : Workspace) (catalog : Catalog) (options : Options) (fresh : Resolver)
    (calls : List String) : Prop where
  answers : ∀ path, AnswerAlike (fresh.loadFolders ws calls)
    (fresh.unbroken.loadFolders cleaned calls) path
  rules_eq : (fresh.unbroken.loadFolders cleaned calls).rules = (fresh.loadFolders ws calls).rules
  read : patternsRead cleaned catalog.unbroken options.unbroken fresh.unbroken calls =
    unbroken (patternsRead ws catalog options fresh calls)
  skipped : skippedIn (reported ws catalog options fresh calls) =
    errorsOf (patternsRead ws catalog options fresh calls)
  spared : reported cleaned catalog.unbroken options.unbroken fresh.unbroken calls =
    sparing (reported ws catalog options fresh calls)
  faults : (fresh.unbroken.loadings cleaned calls).map Resolver.Loading.fault =
    (fresh.loadings ws calls).map Resolver.Loading.fault
  unread : ∀ call ∈ calls.zip (fresh.loadings ws calls), ∀ refusal, call.2.fault = some refusal →
    ∃ name ∈ ruleFileNames, refusal.path = fresh.root ++ Path.ofText call.1 ++ Path.ofText name ∧
      ws.readIfFile refusal.path = .error refusal.error

theorem inert_of_reads {ws cleaned : Workspace} {catalog : Catalog} {options : Options}
    (harmless : ∀ error, ¬ FatalPattern catalog options error) {fresh : Resolver} {calls : List String}
    (reads : ∀ folder ∈ calls, ReadsUnbroken ws cleaned fresh.root folder) :
    Inert ws cleaned catalog options fresh calls := by
  have hb := builtin_reports harmless
  have hb' := builtin_reports (harmless_unbroken harmless)
  rw [patternsAtStart_unbroken] at hb'
  have hloadings := Resolver.loadings_unbroken reads
  have hrules : (fresh.unbroken.loadFolders cleaned calls).rules =
      (fresh.loadFolders ws calls).rules := by
    rw [Resolver.loadFolders_unbroken reads]
    rfl
  refine ⟨fun path => .of_on (by rw [hrules]), hrules, ?_, ?_, ?_, ?_, ?_⟩
  · rw [patternsRead, patternsRead, patternsAtStart_unbroken, Resolver.patternsOfLoads_unbroken reads,
      unbroken_append]
  · rw [reported, patternsRead, hb, skippedIn_append, skippedIn_reportsOf, Resolver.skippedIn_loadings,
      errorsOf_append]
  · rw [reported, reported, hb, hb', hloadings, sparing_append, sparing_reportsOf, reportsOf_unbroken,
      List.nil_append, List.nil_append, List.flatMap_map, sparing, List.filter_flatMap]
    rfl
  · rw [hloadings, List.map_map]
    rfl
  · exact fun call hm refusal h => Resolver.fault_loadings hm h

/-- Patterns that do not compile, wherever they stand, make no difference to what a resolver says after
any calls. Reading them goes wrong only where the file that they stand in cannot be asked for. The
lines can be taken out of every tree in which no link has the name of a file of rules, and with the
links that the other trees have it is the same where the files read as they would without the lines. -/
theorem brokenPatterns_inert {root : Path} {catalog : Catalog} {options : Options}
    (harmless : ∀ error, ¬ FatalPattern catalog options error) :
    ∃ fresh, (Resolver.start root catalog options).2 = .ok fresh ∧
      (Resolver.start root catalog.unbroken options.unbroken).2 = .ok fresh.unbroken ∧
      (∀ (ws cleaned : Workspace) (calls : List String),
        (∀ folder ∈ calls, ReadsUnbroken ws cleaned root folder) →
        Inert ws cleaned catalog options fresh calls) ∧
      ∀ (ws : Workspace) (calls : List String), (∀ name ∈ ruleFileNames, ws.Unlinked name) →
        Inert ws (unbrokenWorkspace ws) catalog options fresh calls := by
  have hb := builtin_reports harmless
  have hb' := builtin_reports (harmless_unbroken harmless)
  rw [patternsAtStart_unbroken, rulesAtStart_unbroken] at hb'
  let fresh : Resolver := { root, catalog, options, rules := rulesAtStart catalog options }
  refine ⟨fresh, by rw [Resolver.start, hb]; rfl, by rw [Resolver.start, hb']; rfl, ?_, ?_⟩
  · intro ws cleaned calls reads
    have reads' : ∀ folder ∈ calls, ReadsUnbroken ws cleaned fresh.root folder := reads
    exact inert_of_reads harmless reads'
  · intro ws calls unlinked
    have reads : ∀ folder ∈ calls, ReadsUnbroken ws (unbrokenWorkspace ws) fresh.root folder :=
      fun folder _ => readsUnbroken_unbrokenWorkspace unlinked root folder
    exact inert_of_reads harmless reads

/-- A folder with an ignore file. -/
def ignoring (text : String) : Workspace := ⟨.folder [(ignoreFileName, .file text.toUTF8)], []⟩

/-- The catalog of no language and one pattern that does not compile. -/
def brokenCatalog : Catalog := Catalog.ofLanguages [] List.nodup_nil "inline" ["("]

theorem harmless_brokenCatalog (options : Options) (error : PatternError) :
    ¬ FatalPattern brokenCatalog options error := by
  rintro ⟨-, hfatal, pattern, hm, source, hp⟩
  obtain rfl : pattern = "(" := by simpa [brokenCatalog, Catalog.ofLanguages] using hm
  have hbroken : compileRegex "(" = .error (.engine .malformed) := by cbv
  simp only [compilePattern, hbroken, Except.mapError] at hp
  cases hp
  simp [PatternError.fatal] at hfatal

/-- Patterns that do not compile in a table, among the options and in an ignore file. -/
theorem brokenPatterns_inert_everywhere :
    let ws := ignoring "\\\na"
    let cleaned := ignoring "a"
    let root : Path := ⟨"", []⟩
    let options : Options := { ignoredFiles := ["\\"] }
    (∀ error, ¬ FatalPattern brokenCatalog options error) ∧
      (∀ folder ∈ [""], ReadsUnbroken ws cleaned root folder) ∧
      (∀ name ∈ ruleFileNames, ws.Unlinked name) ∧
      ∃ fresh, (Resolver.start root brokenCatalog options).2 = .ok fresh ∧
        (Resolver.start root brokenCatalog.unbroken options.unbroken).2 = .ok fresh.unbroken ∧
        Inert ws cleaned brokenCatalog options fresh [""] ∧
        Inert ws (unbrokenWorkspace ws) brokenCatalog options fresh [""] ∧
        (skippedIn (reported ws brokenCatalog options fresh [""])).map
            (fun error => (error.source, error.pattern)) =
          [("builtin-vendor", "("), ("ignored_files", "\\"), (".gitignore", "\\")] := by
  intro ws cleaned root options
  have reads : ∀ folder ∈ [""], ReadsUnbroken ws cleaned root folder := by
    intro folder hf name hn
    obtain rfl := List.mem_singleton.mp hf
    rcases List.mem_cons.mp hn with rfl | hn
    · have htext : unbrokenText ignoreFileName (textOf "\\\na".toUTF8) = textOf "a".toUTF8 := by cbv
      have hread : ws.readIfFile (root ++ Path.ofText "" ++ Path.ofText ignoreFileName) =
          .ok (some "\\\na".toUTF8) := by cbv
      have hread' : cleaned.readIfFile (root ++ Path.ofText "" ++ Path.ofText ignoreFileName) =
          .ok (some "a".toUTF8) := by cbv
      rw [hread, hread']
      exact congrArg (fun text => Except.ok (some text)) htext.symm
    · obtain rfl := List.mem_singleton.mp hn
      have hread : ws.readIfFile (root ++ Path.ofText "" ++ Path.ofText attributesFileName) =
          .ok none := by cbv
      have hread' : cleaned.readIfFile (root ++ Path.ofText "" ++ Path.ofText attributesFileName) =
          .ok none := by cbv
      rw [hread, hread']
      rfl
  have unlinked : ∀ name ∈ ruleFileNames, ws.Unlinked name :=
    fun name _ => Workspace.unlinked_of_linkFree (by cbv) name
  obtain ⟨fresh, started, started', between, without⟩ :=
    brokenPatterns_inert (harmless_brokenCatalog options)
  have inert := between ws cleaned [""] reads
  refine ⟨harmless_brokenCatalog options, reads, unlinked, fresh, started, started', inert,
    without ws [""] unlinked, ?_⟩
  rw [inert.skipped]
  have hstart := started
  rw [Resolver.start, builtin_reports (harmless_brokenCatalog options)] at hstart
  obtain rfl := Except.ok.inj hstart
  cbv

/-- A call goes wrong, though there is no pattern at all: the ignore file is a link to too long a
name. -/
theorem load_choked :
    let ws := Analysis.linkedRules 256
    let fresh : Resolver := { root := ⟨"", []⟩, catalog := Analysis.catalogOfC, options := {}, rules := {} }
    (Resolver.start ⟨"", []⟩ Analysis.catalogOfC {}).2 = .ok fresh ∧
      patternsRead ws Analysis.catalogOfC {} fresh [""] = [] ∧
      (fresh.load ws "").fault = some ⟨⟨"", [ignoreFileName]⟩, .nameTooLong⟩ := by
  intro ws fresh
  have hread : ws.readIfFile (⟨"", []⟩ ++ Path.ofText "" ++ Path.ofText ignoreFileName) =
      .error .nameTooLong := Analysis.readIfFile_linkedRules (by decide)
  have hasked : fresh.askedText ws "" ignoreFileName true =
      .error ⟨⟨"", [ignoreFileName]⟩, .nameTooLong⟩ := by
    change ((ws.readIfFile _).mapError _).map _ = _
    rw [hread]
    rfl
  have hchecked : fresh.options.checkIgnored = true := rfl
  refine ⟨rfl, ?_, ?_⟩
  · change [] ++ (fresh.patternsOfFolder ws "" ++ []) = []
    simp [Resolver.patternsOfFolder, Resolver.patternsOf, hchecked, hasked]
  · change (fresh.folderRules ws "").fault = _
    simp [Resolver.folderRules_eq_followedBy, Resolver.Reading.followedBy, Resolver.fileRules_eq,
      hchecked, hasked]

end Polyglot
