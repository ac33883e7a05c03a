import Polyglot.Files.Workspace

/-!
The walk through a tree of folders: a folder first, then the folders in it, in the order of their
names.

The visitor of a walk sees each folder with its files. For each folder below it is asked, behind
that, whether to skip it. Folders of version control are never entered nor asked for, and linked
folders are asked for but not entered.
-/
namespace Polyglot.Files

/-- What a walk sees of a folder: the names of its files, and its folders, where a linked one has
nothing below. Names are in order. -/
inductive Listing where
  | mk (files : List String) (folders : List (String × Option Listing))

namespace Listing

def files : Listing → List String
  | mk files _ => files

def folders : Listing → List (String × Option Listing)
  | mk _ folders => folders

end Listing

/-- An entry of a folder, as a walk sees it. -/
inductive Listed where
  | file
  | folder (below : Listing)
  | linkedFolder

def Listing.ofEntries (entries : List (String × Listed)) : Listing :=
  let sorted := entries.mergeSort fun a b => a.1 ≤ b.1
  .mk (sorted.filterMap fun (name, entry) => match entry with
      | .file => some name
      | _ => none)
    (sorted.filterMap fun (name, entry) => match entry with
      | .file => none
      | .folder below => some (name, some below)
      | .linkedFolder => some (name, none))

namespace Workspace

def leadsToFolder (ws : Workspace) (place : Place) (target : String) : Bool :=
  match ws.follow (linkLimit - 1) (startOf place target) (stepsOf target) with
  | .ok place => (ws.root.at? place).any Node.isFolder
  | .error _ => false

mutual

def listed (ws : Workspace) (place : Place) : Node → Listed
  | .file _ => .file
  | .link target => if ws.leadsToFolder place.dropLast target then .linkedFolder else .file
  | .folder entries => .folder (.ofEntries (listedAll ws place entries))

def listedAll (ws : Workspace) (place : Place) : List (String × Node) → List (String × Listed)
  | [] => []
  | (name, node) :: rest => (name, listed ws (place ++ [name]) node) :: listedAll ws place rest

end

/-- What a walk sees below a path, which has to lead to a folder. However deep a folder lies, its path is
taken to be short enough. -/
def listing (ws : Workspace) (path : Path) : Except LookupError Listing := do
  let place ← ws.locate path
  match ws.listed place (← ws.nodeIn place) with
  | .folder listing => .ok listing
  | _ => .error .notAFolder

/-- What a walk sees below the path that a text stands for. The empty text stands for no folder. -/
def listingAt (ws : Workspace) (text : String) : Except LookupError Listing :=
  if text = "" then .error .missing else ws.listing (Path.ofText text)

end Workspace

def versionControlFolders : List String := [".git", ".hg", ".svn"]

def isVersionControl (name : String) : Bool := versionControlFolders.contains name

/-- The path of an entry of a folder. The root has the empty path. -/
def below (folder name : String) : String := if folder = "" then name else folder ++ "/" ++ name

/-- What is done on a walk, with a state. -/
structure Visitor (σ : Type) where
  enter : (folder : String) → (files : List String) → σ → σ
  skips : (folder : String) → σ → Bool × σ

variable {σ : Type}

def askAll (visitor : Visitor σ) (folder : String) :
    List (String × Option Listing) → σ → List Bool × σ
  | [], state => ([], state)
  | (name, _) :: rest, state =>
    if isVersionControl name then
      let (entered, state) := askAll visitor folder rest state
      (false :: entered, state)
    else
      let (skipped, state) := visitor.skips (below folder name) state
      let (entered, state) := askAll visitor folder rest state
      ((!skipped) :: entered, state)

mutual

def walk (visitor : Visitor σ) (folder : String) : Listing → σ → σ
  | .mk files folders, state =>
    let state := visitor.enter folder files state
    let (entered, state) := askAll visitor folder folders state
    walkInto visitor folder folders entered state

/-- Walks through the folders that were not skipped. -/
def walkInto (visitor : Visitor σ) (folder : String) :
    List (String × Option Listing) → List Bool → σ → σ
  | (name, some listing) :: rest, true :: entered, state =>
    walkInto visitor folder rest entered (walk visitor (below folder name) listing state)
  | _ :: rest, _ :: entered, state => walkInto visitor folder rest entered state
  | _, _, state => state

end

end Polyglot.Files
