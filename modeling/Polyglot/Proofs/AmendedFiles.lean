import Polyglot.Proofs.LinkedFolders

namespace Polyglot.Files

namespace Node

mutual

/-- The node of a name with what its files hold changed. -/
def amend (change : String → ByteArray → ByteArray) (name : String) : Node → Node
  | .file content => .file (change name content)
  | .link target => .link target
  | .folder entries => .folder (amendAll change entries)

def amendAll (change : String → ByteArray → ByteArray) :
    List (String × Node) → List (String × Node)
  | [] => []
  | (name, node) :: rest => (name, amend change name node) :: amendAll change rest

end

variable {change : String → ByteArray → ByteArray}

theorem amendAll_eq (entries : List (String × Node)) :
    amendAll change entries = entries.map fun entry => (entry.1, amend change entry.1 entry.2) := by
  induction entries with
  | nil => rw [amendAll, List.map_nil]
  | cons entry rest ih =>
    obtain ⟨name, node⟩ := entry
    rw [amendAll, ih, List.map_cons]

theorem find?_amendAll (entries : List (String × Node)) (name : String) :
    (amendAll change entries).find? (·.1 == name) =
      (entries.find? (·.1 == name)).map fun entry => (entry.1, amend change name entry.2) := by
  rw [amendAll_eq, find?_map]
  · refine Option.map_congr fun entry he => ?_
    have hname : entry.1 = name := by simpa using List.find?_some he
    rw [hname]
  · exact fun _ => rfl

theorem child?_amend (node : Node) (own name : String) :
    (node.amend change own).child? name = (node.child? name).map (amend change name) := by
  cases node with
  | file content => simp [amend, child?, entries]
  | link target => simp [amend, child?, entries]
  | folder list =>
    rw [amend]
    change ((amendAll change list).find? (·.1 == name)).map Prod.snd = _
    rw [find?_amendAll, Option.map_map]
    change _ = ((list.find? (·.1 == name)).map Prod.snd).map _
    rw [Option.map_map]
    rfl

/-- The name at the end of a place below a node with a name. -/
def nameAt (own : String) (place : Place) : String := place.getLast?.getD own

theorem at?_amend (node : Node) (own : String) (place : Place) :
    (node.amend change own).at? place = (node.at? place).map (amend change (nameAt own place)) := by
  induction place generalizing node own with
  | nil => rfl
  | cons name rest ih =>
    have hname : nameAt own (name :: rest) = nameAt name rest := by
      cases rest with
      | nil => rfl
      | cons other others => rw [nameAt, nameAt, List.getLast?_cons_cons, List.getLast?_cons]; rfl
    rw [at?, at?, child?_amend, hname]
    cases node.child? name with
    | none => rfl
    | some child => exact ih child name

end Node

namespace Workspace

/-- A workspace with what its files hold changed. -/
def amend (change : String → ByteArray → ByteArray) (ws : Workspace) : Workspace :=
  { ws with root := ws.root.amend change "" }

variable {ws : Workspace} {change : String → ByteArray → ByteArray}

theorem at?_amend (place : Place) :
    (ws.amend change).root.at? place =
      (ws.root.at? place).map (Node.amend change (Node.nameAt "" place)) :=
  Node.at?_amend ws.root "" place

theorem folder_amend {place : Place} {entries : List (String × Node)}
    (h : ws.root.at? place = some (.folder entries)) :
    (ws.amend change).root.at? place = some (.folder (Node.amendAll change entries)) := by
  rw [at?_amend, h, Option.map_some, Node.amend]

theorem follow_amend (links : Nat) (place : Place) (parts : List String) :
    (ws.amend change).follow links place parts = ws.follow links place parts := by
  fun_induction ws.follow links place parts with
  | case1 links place => rw [follow]
  | case2 links place others entries hat ih => exact (follow_dot (folder_amend hat)).trans ih
  | case3 links place others entries hat hdot ih => exact (follow_dots (folder_amend hat)).trans ih
  | case4 links place part others entries hat hdot hdots hfind =>
    exact follow_absent (folder_amend hat) hdot hdots (by rw [Node.find?_amendAll, hfind]; rfl)
  | case5 place part others entries hat hdot hdots name target hfind =>
    exact follow_linkless (folder_amend hat) hdot hdots
      (by rw [Node.find?_amendAll, hfind, Option.map_some, Node.amend])
  | case6 place part others entries hat hdot hdots name target hfind links ih =>
    exact (follow_link (folder_amend hat) hdot hdots
      (by rw [Node.find?_amendAll, hfind, Option.map_some, Node.amend])).trans ih
  | case7 links place part others entries hat hdot hdots entry hlink hfind ih =>
    have hfind' : (Node.amendAll change entries).find? (·.1 == part) =
        some (entry.1, Node.amend change part entry.2) := by
      rw [Node.find?_amendAll, hfind]
      rfl
    have noLink : ∀ target, Node.amend change part entry.2 ≠ .link target := by
      obtain ⟨name, child⟩ := entry
      cases child with
      | link target => exact absurd rfl (hlink name target)
      | file content => simp [Node.amend]
      | folder list => simp [Node.amend]
    exact (follow_entry (folder_amend hat) hdot hdots hfind' noLink).trans ih
  | case8 links place part others node noFolder hat =>
    cases node with
    | folder entries => exact absurd rfl (noFolder entries)
    | file content =>
      rw [follow]
      simp [at?_amend, hat, Node.amend]
    | link target =>
      rw [follow]
      simp [at?_amend, hat, Node.amend]
  | case9 links place part others hat =>
    rw [follow]
    simp [at?_amend, hat]

theorem locate_amend (path : Path) : (ws.amend change).locate path = ws.locate path := by
  rw [locate, locate, follow_amend]
  rfl

theorem node?_amend {path : Path} {place : Place} (h : ws.locate path = .ok place) :
    (ws.amend change).node? path =
      (ws.node? path).map (Node.amend change (Node.nameAt "" place)) := by
  have h' : (ws.amend change).locate path = .ok place := (locate_amend path).trans h
  simp only [node?, h, h', bind, Except.bind, nodeIn, at?_amend]
  cases ws.root.at? place <;> rfl

theorem readIfFile_amend {path : Path} {name : String}
    (leads : ∀ place, ws.locate path = .ok place → place.getLast? = some name) :
    (ws.amend change).readIfFile path = (ws.readIfFile path).map (·.map (change name)) := by
  cases hlocate : ws.locate path with
  | error e =>
    have hlocate' : (ws.amend change).locate path = .error e := (locate_amend path).trans hlocate
    simp only [readIfFile, node?, hlocate, hlocate', bind, Except.bind]
    split <;> rfl
  | ok place =>
    have hname : Node.nameAt "" place = name := by
      rw [Node.nameAt, leads place hlocate]
      rfl
    rw [readIfFile, readIfFile, node?_amend hlocate, hname]
    cases ws.node? path with
    | error e =>
      simp only [Except.map]
      split <;> rfl
    | ok node => cases node <;> rfl

/-- No link has a name. -/
def Unlinked (ws : Workspace) (name : String) : Prop :=
  ∀ place target, ws.root.at? (place ++ [name]) ≠ some (.link target)

theorem unlinked_of_linkFree (free : ws.root.linkFree = true) (name : String) : ws.Unlinked name :=
  fun _ target h => Node.not_link_of_linkFree (Node.linkFree_at? free h) target rfl

/-- A way that ends in a name that no link has leads to a place that ends in the name. -/
theorem Unlinked.follow {name : String} (unlinked : ws.Unlinked name) (hn : IsName name)
    {links : Nat} {place reached : Place} {parts : List String}
    (leads : ws.follow links place (parts ++ [name]) = .ok reached) :
    reached.getLast? = some name := by
  obtain ⟨_, hdot, hdots, _⟩ := hn
  obtain ⟨between, hbetween⟩ := follow_start leads
  obtain ⟨left, hleft⟩ := follow_append hbetween
  rw [hleft] at leads
  have hfolder : ∃ entries, ws.root.at? between = some (.folder entries) := by
    rw [Workspace.follow] at leads
    split at leads
    · exact ⟨_, ‹_›⟩
    · cases leads
    · cases leads
  obtain ⟨entries, hat⟩ := hfolder
  cases hfind : entries.find? (·.1 == name) with
  | none =>
    rw [follow_absent hat hdot hdots hfind] at leads
    cases leads
  | some entry =>
    have hchild : ws.root.at? (between ++ [name]) = some entry.2 := by
      rw [Node.at?_concat, hat, Option.bind_some, Node.child?, Node.entries, hfind]
      rfl
    have noLink : ∀ target, entry.2 ≠ .link target :=
      fun target h => unlinked between target (h ▸ hchild)
    rw [follow_entry hat hdot hdots hfind noLink, Workspace.follow] at leads
    cases leads
    exact List.getLast?_concat

theorem Unlinked.locate {name : String} (unlinked : ws.Unlinked name) (hn : IsName name) {path : Path}
    {front : List String} (ends : path.parts = front ++ [name]) {place : Place}
    (h : ws.locate path = .ok place) : place.getLast? = some name := by
  have hfollow := follow_of_locate h
  rw [ends] at hfollow
  exact unlinked.follow hn hfollow

end Workspace

end Polyglot.Files
