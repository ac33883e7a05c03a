import Polyglot.Files.Content
import Polyglot.Samples

namespace Polyglot

open Polyglot.Files (Workspace Node)

/-- The files among the entries of a folder, also behind links, in the order of their names. -/
def fileNamesIn (ws : Workspace) (path : Path) (folder : Node) : List String :=
  ((folder.entries.map Prod.fst).mergeSort fun a b => a ≤ b).filter fun name =>
    match ws.node? (path ++ ⟨"", [name]⟩) with
    | .ok (.file _) => true
    | _ => false

def sampleIn (ws : Workspace) (root : Path) : Label → Except SampleFault (Option String)
  | .text language =>
    let path := root ++ Path.ofText language
    match ws.node? path with
    | .ok (.folder entries) =>
      match fileNamesIn ws path (.folder entries) with
      | [] => .ok none
      | name :: _ => match ws.read (path ++ ⟨"", [name]⟩) with
        | .ok content => .ok (some (String.ofList (Files.textOf content)))
        | .error _ => .error .unreadable
    | .ok _ => .ok none
    | .error e => if e.isAbsence then .ok none else .error .unreadable
  | label => .error (.unnamed label)

def SampleSource.ofFolder (ws : Workspace) (root : Path) : SampleSource PUnit := fun label =>
  pure (sampleIn ws root label)

end Polyglot
