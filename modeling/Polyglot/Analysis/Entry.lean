import Polyglot.Rules.Resolver

namespace Polyglot.Analysis

open Polyglot.Files (Workspace Place Refusal)

/-- A file to be analysed, with the rules that were loaded when it was admitted. -/
structure Entry where
  key : String
  rel : String
  path : Path
  rules : RuleSet

/-- Why the inputs cannot be turned into entries. -/
inductive ResolveError where
  | missing (path : Path)
  /-- A path, or that of a file of rules, cannot be asked for. -/
  | refused (refusal : Refusal)
  | pattern (error : PatternError)

/-- Some path cannot be asked for. -/
@[match_pattern] abbrev ResolveError.unreadable {refusal : Refusal} : ResolveError := .refused refusal

/-- The state of a walk through a folder: the rules loaded so far, the files found, and why the walk
had to stop. -/
structure TreeWalk where
  resolver : Resolver
  found : List String := []
  journal : Journal := []
  fault : Option Refusal := none

/-- Reads the rules of a folder and takes up its files. -/
def TreeWalk.enter (ws : Workspace) (folder : String) (files : List String) (state : TreeWalk) :
    TreeWalk :=
  if state.fault.isSome then state
  else
    let { journal, resolver, fault } := state.resolver.load ws folder
    let rels := if fault.isSome then [] else files.map (Files.below folder)
    { resolver, fault
      found := state.found ++ rels.filter fun rel => !resolver.ignores rel
      journal := state.journal ++ journal ++ rels.flatMap resolver.journalFor }

def TreeWalk.skips (folder : String) (state : TreeWalk) : Bool × TreeWalk :=
  if state.fault.isSome then (true, state)
  else
    let skipped := state.resolver.ignores (folder ++ "/")
    (skipped, { state with
      journal := state.journal ++ state.resolver.journalFor (folder ++ "/") ++
        if skipped then [.folderSkipped folder] else [] })

def treeVisitor (ws : Workspace) : Files.Visitor TreeWalk := ⟨TreeWalk.enter ws, TreeWalk.skips⟩

/-- The entries below a folder, in the order of the walk. -/
def resolveTree (ws : Workspace) (catalog : Catalog) (options : Options) (root : Path) :
    Journal × Except ResolveError (List Entry) :=
  match Resolver.start root catalog options with
  | (journal, .error e) => (journal, .error (.pattern e))
  | (journal, .ok resolver) =>
    match ws.listing root with
    | .error _ => (journal ++ [.unreadableFolder root.text], .ok [])
    | .ok listing =>
      let done := Files.walk (treeVisitor ws) "" listing { resolver }
      match done.fault with
      | some refusal => (journal ++ done.journal, .error (.refused refusal))
      | none =>
        let entries := done.found.map fun rel =>
          let path := root ++ Path.ofText rel
          ⟨path.text, rel, path, done.resolver.rules⟩
        (journal ++ done.journal ++
          [.treeResolved root.text entries.length done.resolver.rules.ignores.length], .ok entries)

/-- What places have in common from their roots on. -/
def commonPlace : List Place → Place
  | [] => []
  | place :: places => places.foldl common place
where
  common : Place → Place → Place
    | a :: as, b :: bs => if a = b then a :: common as bs else []
    | _, _ => []

def fileRoot (here : Place) (places : List Place) : Place :=
  if places.all here.isPrefixOf then here else commonPlace (places.map List.dropLast)

def foldersAbove (rel : List String) : List String :=
  (List.range rel.length).map fun depth => "/".intercalate (rel.take depth)

/-- Reads the rules of folders from the root down, until one is ignored. Says whether none is. -/
def loadAbove (ws : Workspace) (path : String) :
    List String → Resolver → Journal × Except ResolveError (Resolver × Bool)
  | [], resolver => ([], .ok (resolver, true))
  | folder :: rest, resolver =>
    if folder != "" && resolver.ignores (folder ++ "/") then
      (resolver.journalFor (folder ++ "/") ++ [.fileIgnored path (some folder)],
        .ok (resolver, false))
    else
      let loading := resolver.load ws folder
      match loading.fault with
      | some refusal => (loading.journal, .error (.refused refusal))
      | none =>
        let (journal, reached) := loadAbove ws path rest loading.resolver
        (loading.journal ++ journal, reached)

/-- The path of a file below the root of the resolver, if the file is not ignored. -/
def resolveFile (ws : Workspace) (root : Place) (path : Path) (resolver : Resolver) :
    Journal × Except ResolveError (Resolver × Option String) :=
  match ws.locate path with
  | .error _ => ([], .ok (resolver, none))
  | .ok place =>
    let parts := place.drop root.length
    let rel := "/".intercalate parts
    match loadAbove ws path.text (foldersAbove parts) resolver with
    | (journal, .error e) => (journal, .error e)
    | (journal, .ok (resolver, false)) => (journal, .ok (resolver, none))
    | (journal, .ok (resolver, true)) =>
      if resolver.ignores rel then
        (journal ++ resolver.journalFor rel ++ [.fileIgnored path.text none], .ok (resolver, none))
      else (journal, .ok (resolver, some rel))

/-- An entry of a folder, or a file that was asked for by name, whose rules are still growing. -/
inductive Found where
  | inTree (entry : Entry)
  | file (key rel : String) (path : Path)

def Found.entry (rules : RuleSet) : Found → Entry
  | inTree entry => entry
  | file key rel path => ⟨key, rel, path, rules⟩

/-- Resolves inputs one after the other, with the resolver that the files share. -/
def resolveEach (ws : Workspace) (catalog : Catalog) (options : Options) (root : Place) :
    List Path → Option Resolver → Journal × Except ResolveError (List Found × Option Resolver)
  | [], shared => ([], .ok ([], shared))
  | path :: rest, shared =>
    let behind (journal : Journal) (found : List Found) (shared : Option Resolver) :=
      let (reported, others) := resolveEach ws catalog options root rest shared
      (journal ++ reported, others.map fun (others, shared) => (found ++ others, shared))
    match ws.hasFolder path with
    | .ok true =>
      match resolveTree ws catalog options path with
      | (journal, .error e) => (journal, .error e)
      | (journal, .ok entries) => behind journal (entries.map .inTree) shared
    | _ =>
      match shared with
      | none => behind [] [] none
      | some resolver =>
        match resolveFile ws root path resolver with
        | (journal, .error e) => (journal, .error e)
        | (journal, .ok (resolver, rel)) =>
          behind journal (rel.map fun rel => Found.file path.text rel path).toList (some resolver)

/-- The entries with different keys: of several with one key the first. -/
def firstOfEachKey : List Entry → List Entry :=
  List.eraseDupsBy fun a b => a.key == b.key

def firstMissing? (ws : Workspace) : List Path → Option ResolveError
  | [] => none
  | path :: rest =>
    match ws.has path with
    | .ok true => firstMissing? ws rest
    | .ok false => some (.missing path)
    | .error error => some (.refused ⟨path, error⟩)

/-- The entries of inputs, in the order in which they are first met. -/
def resolveInputs (ws : Workspace) (catalog : Catalog) (options : Options) (paths : List Path) :
    Journal × Except ResolveError (List Entry) :=
  match firstMissing? ws paths with
  | some e => ([], .error e)
  | none =>
    let files := paths.filter fun path => match ws.hasFolder path with
      | .ok folder => !folder
      | .error _ => true
    let root := fileRoot ws.here (files.filterMap fun path => (ws.locate path).toOption)
    let (starting, shared) : Journal × Except PatternError (Option Resolver) :=
      if files.isEmpty then ([], .ok none)
      else
        let (journal, resolver) := Resolver.start (Workspace.absolute root) catalog options
        (journal, resolver.map some)
    match shared with
    | .error e => (starting, .error (.pattern e))
    | .ok shared =>
      match resolveEach ws catalog options root paths shared with
      | (journal, .error e) => (starting ++ journal, .error e)
      | (journal, .ok (found, shared)) =>
        let rules := (shared.map Resolver.rules).getD {}
        (starting ++ journal, .ok (firstOfEachKey (found.map (Found.entry rules))))

end Polyglot.Analysis
