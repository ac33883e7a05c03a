import Polyglot.Files.Content
import Polyglot.Files.Walk
import Polyglot.Rules.Attributes

namespace Polyglot

open Polyglot.Files (Workspace Refusal)

/-- The rules for the files under a root, as far as its folders are loaded. -/
structure Resolver where
  root : Path
  catalog : Catalog
  options : Options
  rules : RuleSet
  loaded : List String := []

/-- Why a path is left out. -/
inductive Exclusion where
  /-- A folder of version control is on the way. -/
  | versionControl
  | rule (rule : IgnoreRule)

def RuleSet.exclusion? (rules : RuleSet) (path : String) : Option Exclusion :=
  let parts := Text.splitOn '/' (Text.dropWhileEnd (· == '/') path.toList)
  if parts.any fun part => Files.isVersionControl (String.ofList part) then some .versionControl
  else (rules.ignoredBy? path).map .rule

def Exclusion.journal (path : String) : Exclusion → Journal
  | .versionControl => []
  | .rule hit => [.ignoreMatched path hit.origin.name hit.matcher.pattern]

namespace Resolver

/-- The rules before any folder is read: those of the catalog and those of the options. -/
def builtin (catalog : Catalog) (options : Options) : Journal × Except PatternError RuleSet :=
  let regexes (origin : RuleOrigin) (patterns : List String) :
      Journal × Except PatternError (List IgnoreRule) :=
    let (journal, matchers) := compileEach .regex origin.name patterns
    (journal, matchers.map fun matchers => matchers.map fun matcher => ⟨⟨matcher, ""⟩, origin⟩)
  let (vendorJournal, vendor) :=
    if options.keepVendored then ([], .ok []) else regexes .builtinVendor catalog.vendor
  match vendor with
  | .error e => (vendorJournal, .error e)
  | .ok vendor =>
    let (generatedJournal, generated) :=
      if options.keepVendored then ([], .ok []) else regexes .builtinGenerated catalog.generated
    match generated with
    | .error e => (vendorJournal ++ generatedJournal, .error e)
    | .ok generated =>
      let (suppliedJournal, supplied) := globsOf "ignored_files" options.ignoredFiles
      (vendorJournal ++ generatedJournal ++ suppliedJournal, .ok {
        ignores := vendor ++ generated ++
          if supplied.isEmpty then [] else [⟨⟨.join supplied, ""⟩, .supplied⟩] })

def start (root : Path) (catalog : Catalog) (options : Options) :
    Journal × Except PatternError Resolver :=
  let (journal, rules) := builtin catalog options
  (journal, rules.map fun rules => { root, catalog, options, rules })

def exclusion? (resolver : Resolver) (path : String) : Option Exclusion :=
  resolver.rules.exclusion? path

def ignores (resolver : Resolver) (path : String) : Bool := (resolver.exclusion? path).isSome

def journalFor (resolver : Resolver) (path : String) : Journal :=
  ((resolver.exclusion? path).map (Exclusion.journal path)).getD []

/-- The text of a file in a folder, if there is one. -/
def textIn? (ws : Workspace) (resolver : Resolver) (folder name : String) :
    Except Refusal (Option (List Char)) :=
  let path := resolver.root ++ Path.ofText folder ++ Path.ofText name
  ((ws.readIfFile path).mapError (⟨path, ·⟩)).map (·.map Files.textOf)

/-- What reading files of rules comes to: the rules, and why no more could be read. -/
structure Reading where
  journal : Journal := []
  rules : RuleSet := {}
  fault : Option Refusal := none

/-- Reads one file of rules, if it is asked for and there. -/
def fileRules (ws : Workspace) (resolver : Resolver) (folder name : String) (asked : Bool)
    (rulesOf : List Char → Journal × RuleSet) : Reading :=
  if !asked then {}
  else match textIn? ws resolver folder name with
    | .error e => { fault := some e }
    | .ok none => {}
    | .ok (some text) =>
      let (journal, rules) := rulesOf text
      { journal, rules }

/-- The rules that a folder's own files hold. The file of attributes is read second. -/
def folderRules (ws : Workspace) (resolver : Resolver) (folder : String) : Reading :=
  let options := resolver.options
  let ignored := fileRules ws resolver folder ignoreFileName options.checkIgnored
    (ignoreFileRules options folder)
  if ignored.fault.isSome then ignored
  else
    let attributes := fileRules ws resolver folder attributesFileName options.checkAttributes
      (attributesFileRules resolver.catalog options folder)
    { journal := ignored.journal ++ attributes.journal, rules := ignored.rules ++ attributes.rules
      fault := attributes.fault }

/-- What is left of a resolver that has read a folder, and why the folder could not be read. -/
structure Loading where
  journal : Journal := []
  resolver : Resolver
  fault : Option Refusal := none

/-- Reads the files of a folder. Nothing happens in a quick run, for a folder that was read, and for
one that is ignored. -/
def load (ws : Workspace) (folder : String) (resolver : Resolver) : Loading :=
  if resolver.options.quick || resolver.loaded.contains folder then { resolver }
  else
    let reached := { resolver with loaded := resolver.loaded ++ [folder] }
    if folder != "" && resolver.ignores (folder ++ "/") then
      { journal := resolver.journalFor (folder ++ "/"), resolver := reached }
    else
      let reading := resolver.folderRules ws folder
      { journal := reading.journal, fault := reading.fault
        resolver := { reached with rules := resolver.rules ++ reading.rules } }

end Resolver

end Polyglot
