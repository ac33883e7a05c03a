import Polyglot.Proofs.Places

namespace Polyglot.Files

namespace Node

theorem at?_append (node : Node) (place rest : Place) :
    node.at? (place ++ rest) = (node.at? place).bind (·.at? rest) := by
  induction place generalizing node with
  | nil => rfl
  | cons name others ih =>
    simp only [List.cons_append, at?]
    cases node.child? name with
    | none => rfl
    | some child => simpa using ih child

theorem at?_concat (node : Node) (place : Place) (name : String) :
    node.at? (place ++ [name]) = (node.at? place).bind (·.child? name) := by
  rw [at?_append]
  cases node.at? place with
  | none => rfl
  | some child => simp [at?]

theorem folder_of_child? {node child : Node} {name : String} (h : node.child? name = some child) :
    ∃ entries, node = folder entries := by
  cases node with
  | folder entries => exact ⟨entries, rfl⟩
  | file content => simp [child?, entries] at h
  | link target => simp [child?, entries] at h

theorem find?_map {entries : List (String × Node)} {change : String × Node → String × Node}
    (names : ∀ entry, (change entry).1 = entry.1) (name : String) :
    (entries.map change).find? (·.1 == name) = (entries.find? (·.1 == name)).map change := by
  have hnames : (fun entry : String × Node => entry.1 == name) ∘ change = (·.1 == name) := by
    funext entry
    simp [names entry]
  rw [List.find?_map, hnames]

theorem child?_mem {node child : Node} {name : String} (h : node.child? name = some child) :
    (name, child) ∈ node.entries := by
  obtain ⟨entry, he, rfl⟩ := Option.map_eq_some_iff.mp h
  have hn : entry.1 = name := by simpa using List.find?_some he
  have := List.mem_of_find?_eq_some he
  rwa [← hn]

theorem allWellNamed_mem {entries : List (String × Node)} (h : AllWellNamed entries)
    {name : String} {node : Node} (hm : (name, node) ∈ entries) : IsName name ∧ node.WellNamed := by
  induction entries with
  | nil => simp at hm
  | cons entry rest ih =>
    obtain ⟨k, n⟩ := entry
    rw [AllWellNamed] at h
    rcases List.mem_cons.mp hm with he | hm
    · cases he
      exact ⟨h.1, h.2.1⟩
    · exact ih h.2.2 hm

theorem WellNamed.nodup {node : Node} (h : node.WellNamed) : (node.entries.map Prod.fst).Nodup := by
  cases node with
  | folder entries => rw [WellNamed] at h; exact h.1
  | file content => simp [entries]
  | link target => simp [entries]

theorem WellNamed.mem {node child : Node} {name : String} (h : node.WellNamed)
    (hm : (name, child) ∈ node.entries) : IsName name ∧ child.WellNamed := by
  cases node with
  | folder entries => rw [WellNamed] at h; exact allWellNamed_mem h.2 hm
  | file content => simp [entries] at hm
  | link target => simp [entries] at hm

theorem WellNamed.child?_eq_some_iff {node child : Node} {name : String} (h : node.WellNamed) :
    node.child? name = some child ↔ (name, child) ∈ node.entries := by
  refine ⟨child?_mem, fun hm => ?_⟩
  have hn := h.nodup
  rw [child?]
  generalize node.entries = entries at hm hn
  induction entries with
  | nil => simp at hm
  | cons entry rest ih =>
    rw [List.map_cons, List.nodup_cons] at hn
    rcases List.mem_cons.mp hm with rfl | hm
    · simp
    · have hne : entry.1 ≠ name := by
        rintro rfl
        exact hn.1 (List.mem_map.mpr ⟨_, hm, rfl⟩)
      rw [List.find?_cons_of_neg (by simpa using hne)]
      exact ih hm hn.2

theorem WellNamed.at? {node found : Node} {place : Place} (h : node.WellNamed)
    (hf : node.at? place = some found) : (∀ name ∈ place, IsName name) ∧ found.WellNamed := by
  induction place generalizing node with
  | nil =>
    cases hf
    exact ⟨by simp, h⟩
  | cons name rest ih =>
    obtain ⟨child, hc, hr⟩ := Option.bind_eq_some_iff.mp hf
    obtain ⟨hn, hw⟩ := h.mem (child?_mem hc)
    obtain ⟨hs, hfound⟩ := ih hw hr
    exact ⟨by simpa using ⟨hn, hs⟩, hfound⟩

theorem linkFree_mem {node child : Node} {name : String} (h : node.linkFree = true)
    (hm : (name, child) ∈ node.entries) : child.linkFree = true := by
  cases node with
  | file content => simp [entries] at hm
  | link target => simp [entries] at hm
  | folder list =>
    rw [linkFree] at h
    change (name, child) ∈ list at hm
    induction list with
    | nil => simp at hm
    | cons entry rest ih =>
      obtain ⟨k, n⟩ := entry
      rw [linkFreeAll, Bool.and_eq_true] at h
      rcases List.mem_cons.mp hm with he | hm
      · cases he
        exact h.1
      · exact ih h.2 hm

theorem linkFree_at? {node found : Node} {place : Place} (h : node.linkFree = true)
    (hf : node.at? place = some found) : found.linkFree = true := by
  induction place generalizing node with
  | nil =>
    cases hf
    exact h
  | cons name rest ih =>
    obtain ⟨child, hc, hr⟩ := Option.bind_eq_some_iff.mp hf
    exact ih (linkFree_mem h (child?_mem hc)) hr

theorem not_link_of_linkFree {node : Node} (h : node.linkFree = true) (target : String) :
    node ≠ link target := by
  rintro rfl
  simp [linkFree] at h

theorem not_link_of_isFolder {node : Node} (h : node.isFolder = true) (target : String) :
    node ≠ link target := by
  rintro rfl
  simp [isFolder] at h
theorem entries_of_isFolder {node : Node} (h : node.isFolder = true) :
    ∃ entries, node = folder entries := by
  cases node with
  | folder entries => exact ⟨entries, rfl⟩
  | file content => cases h
  | link target => cases h

/-- The content of the file at a place, if there is one. -/
def content? (node : Node) (place : Place) : Option ByteArray :=
  match node.at? place with
  | some (file content) => some content
  | _ => none

theorem content?_eq_some_iff {node : Node} {place : Place} {content : ByteArray} :
    node.content? place = some content ↔ node.at? place = some (file content) := by
  unfold content?
  split
  · rename_i c h
    simp [h]
  · rename_i h
    constructor
    · intro hn; simp at hn
    · intro hs; exact absurd hs (h content)

end Node

namespace Workspace

variable {ws : Workspace}

section
variable {links : Nat} {place : Place} {part name : String} {rest : List String}
  {entries : List (String × Node)} (hat : ws.root.at? place = some (.folder entries))
include hat

theorem follow_dot : ws.follow links place ("." :: rest) = ws.follow links place rest := by
  rw [follow]
  simp [hat]

theorem follow_dots : ws.follow links place (".." :: rest) = ws.follow links place.dropLast rest := by
  rw [follow]
  simp [hat]

variable (hdot : part ≠ ".") (hdots : part ≠ "..")
include hdot hdots

theorem follow_absent (hfind : entries.find? (·.1 == part) = none) :
    ws.follow links place (part :: rest) =
      .error (if nameLimit < part.utf8ByteSize then .nameTooLong else .missing) := by
  rw [follow]
  simp [hat, hdot, hdots, hfind]

theorem follow_entry {child : Node} (hfind : entries.find? (·.1 == part) = some (name, child))
    (noLink : ∀ target, child ≠ .link target) :
    ws.follow links place (part :: rest) = ws.follow links (place ++ [part]) rest := by
  rw [follow]
  cases child with
  | link target => exact absurd rfl (noLink target)
  | file content => simp [hat, hdot, hdots, hfind]
  | folder below => simp [hat, hdot, hdots, hfind]

theorem follow_link {target : String} (hfind : entries.find? (·.1 == part) = some (name, .link target)) :
    ws.follow (links + 1) place (part :: rest) =
      ws.follow links (startOf place target) (stepsOf target ++ rest) := by
  rw [follow]
  simp [hat, hdot, hdots, hfind]

theorem follow_linkless {target : String}
    (hfind : entries.find? (·.1 == part) = some (name, .link target)) :
    ws.follow 0 place (part :: rest) = .error .tooManyLinks := by
  rw [follow]
  simp [hat, hdot, hdots, hfind]

end

theorem follow_append {links : Nat} {place reached : Place} {parts : List String}
    (h : ws.follow links place parts = .ok reached) :
    ∃ left, ∀ rest, ws.follow links place (parts ++ rest) = ws.follow left reached rest := by
  fun_induction ws.follow links place parts with
  | case1 links place =>
    cases h
    exact ⟨links, fun rest => rfl⟩
  | case2 links place rest entries hat ih =>
    obtain ⟨left, hl⟩ := ih h
    exact ⟨left, fun more => (follow_dot hat).trans (hl more)⟩
  | case3 links place rest entries hat hdot ih =>
    obtain ⟨left, hl⟩ := ih h
    exact ⟨left, fun more => (follow_dots hat).trans (hl more)⟩
  | case4 => cases h
  | case5 => cases h
  | case6 place part rest entries hat hdot hdots name target hfind links ih =>
    obtain ⟨left, hl⟩ := ih h
    refine ⟨left, fun more => ?_⟩
    rw [List.cons_append, follow_link hat hdot hdots hfind, ← List.append_assoc]
    exact hl more
  | case7 links place part rest entries hat hdot hdots entry hlink hfind ih =>
    obtain ⟨left, hl⟩ := ih h
    exact ⟨left, fun more => (follow_entry hat hdot hdots hfind
      fun target he => hlink entry.1 target (by rw [← he])).trans (hl more)⟩
  | case8 => cases h
  | case9 => cases h

theorem follow_names {links : Nat} {place : Place} {parts : List String} {node found : Node}
    (hat : ws.root.at? place = some node) (names : ∀ part ∈ parts, IsName part)
    (h : node.at? parts = some found) (isFolder : found.isFolder = true) (rest : List String) :
    ws.follow links place (parts ++ rest) = ws.follow links (place ++ parts) rest := by
  induction parts generalizing place node with
  | nil => simp
  | cons part others ih =>
    obtain ⟨child, hc, hr⟩ := Option.bind_eq_some_iff.mp h
    obtain ⟨entries, rfl⟩ := Node.folder_of_child? hc
    obtain ⟨_, hdot, hdots, _⟩ := names part (by simp)
    have hchild : ws.root.at? (place ++ [part]) = some child := by
      rw [Node.at?_concat, hat]
      exact hc
    have hnext := ih hchild (fun p hp => names p (List.mem_cons_of_mem _ hp)) hr
    obtain ⟨⟨name, child⟩, hfind, rfl⟩ := Option.map_eq_some_iff.mp hc
    change entries.find? (·.1 == part) = some (name, child) at hfind
    rw [List.append_assoc, List.singleton_append] at hnext
    rw [List.cons_append, follow]
    cases child with
    | link target =>
      cases others with
      | nil =>
        cases hr
        cases isFolder
      | cons next more => simp [Node.at?, Node.child?, Node.entries] at hr
    | file content => simpa [hat, hdot, hdots, hfind] using hnext
    | folder below => simpa [hat, hdot, hdots, hfind] using hnext

theorem follow_at? {links : Nat} {place : Place} {parts : List String} {node found : Node}
    (hat : ws.root.at? place = some node) (names : ∀ part ∈ parts, IsName part)
    (h : node.at? parts = some found) (noLink : ∀ target, found ≠ .link target) :
    ws.follow links place parts = .ok (place ++ parts) := by
  rcases List.eq_nil_or_concat parts with rfl | ⟨front, part, rfl⟩
  · simp [follow]
  · rw [List.concat_eq_append] at names h ⊢
    obtain ⟨above, ha, hc⟩ := Option.bind_eq_some_iff.mp ((Node.at?_concat ..).symm.trans h)
    obtain ⟨entries, rfl⟩ := Node.folder_of_child? hc
    obtain ⟨_, hdot, hdots, _⟩ := names part (by simp)
    obtain ⟨⟨name, child⟩, hfind, rfl⟩ := Option.map_eq_some_iff.mp hc
    have hplace : ws.root.at? (place ++ front) = some (.folder entries) := by
      rw [Node.at?_append, hat]
      exact ha
    rw [follow_names hat (fun p hp => names p (by simp [hp])) ha rfl,
      follow_entry hplace hdot hdots hfind noLink, follow, List.append_assoc]

theorem follow_missing {links : Nat} {place : Place} {name : String} {node : Node}
    (hat : ws.root.at? place = some node) (isFolder : node.isFolder = true) (hn : IsName name)
    (short : name.utf8ByteSize ≤ nameLimit) (h : node.child? name = none) :
    ws.follow links place [name] = .error .missing := by
  obtain ⟨_, hdot, hdots, _⟩ := hn
  cases node with
  | file content => simp [Node.isFolder] at isFolder
  | link target => simp [Node.isFolder] at isFolder
  | folder entries =>
    have hfind : entries.find? (·.1 == name) = none := by
      simpa [Node.child?, Node.entries] using h
    rw [follow_absent hat hdot hdots hfind, if_neg (Nat.not_lt.mpr short)]

/-- A path leads to a folder below which names differ and nothing is linked. -/
structure HoldsTree (ws : Workspace) (root : Path) (node : Node) : Prop where
  located : ∃ place, ws.locate root = .ok place ∧ ws.root.at? place = some node
  isFolder : node.isFolder = true
  linkFree : node.linkFree = true
  wellNamed : node.WellNamed

/-- The current folder is at a place with names, nothing below it is linked, and names differ. -/
structure StandsIn (ws : Workspace) (node : Node) : Prop where
  at_here : ws.root.at? ws.here = some node
  here_names : ∀ name ∈ ws.here, IsName name
  isFolder : node.isFolder = true
  linkFree : node.linkFree = true
  wellNamed : node.WellNamed

theorem StandsIn.holdsTree {ws : Workspace} {node : Node} (h : ws.StandsIn node) :
    ws.HoldsTree ⟨"", []⟩ node := by
  refine ⟨⟨ws.here, ?_, h.at_here⟩, h.isFolder, h.linkFree, h.wellNamed⟩
  rw [locate, if_pos rfl, follow]
  rfl

/-- The tree in the current folder is found by the absolute path of the folder too. -/
theorem StandsIn.holdsTree_absolute {ws : Workspace} {node : Node} (h : ws.StandsIn node) :
    ws.HoldsTree (absolute ws.here) node := by
  refine ⟨⟨ws.here, ?_, h.at_here⟩, h.isFolder, h.linkFree, h.wellNamed⟩
  have hfollow : ws.follow linkLimit [] ws.here = .ok ([] ++ ws.here) :=
    follow_at? rfl h.here_names h.at_here (Node.not_link_of_isFolder h.isFolder)
  rw [locate, absolute, if_neg (by simp), hfollow]
  rfl

theorem append_relative (root : Path) (parts : List String) :
    root ++ (⟨"", parts⟩ : Path) = ⟨root.root, root.parts ++ parts⟩ := rfl

variable {root : Path} {node : Node}

theorem HoldsTree.locate_below (h : ws.HoldsTree root node) :
    ∃ top left, ws.root.at? top = some node ∧ ∀ place : Place,
      ws.locate (root ++ (⟨"", place⟩ : Path)) =
        (ws.follow left top place).mapError (faultOf (root ++ (⟨"", place⟩ : Path)).text) := by
  obtain ⟨top, hl, hat⟩ := h.located
  cases hfollow : ws.follow linkLimit (if root.root = "" then ws.here else []) root.parts with
  | error e => rw [locate, hfollow] at hl; cases hl
  | ok reached =>
    rw [locate, hfollow] at hl
    cases hl
    obtain ⟨left, hon⟩ := follow_append hfollow
    refine ⟨top, left, hat, fun place => ?_⟩
    rw [append_relative, locate]
    simp only [hon]

theorem HoldsTree.node?_below (h : ws.HoldsTree root node) {place : Place} {found : Node}
    (hf : node.at? place = some found) : ws.node? (root ++ (⟨"", place⟩ : Path)) = .ok found := by
  obtain ⟨top, left, hat, hl⟩ := h.locate_below
  have hto : ws.follow left top place = .ok (top ++ place) :=
    follow_at? hat (h.wellNamed.at? hf).1 hf
      (Node.not_link_of_linkFree (Node.linkFree_at? h.linkFree hf))
  have hnode : ws.root.at? (top ++ place) = some found := by rw [Node.at?_append, hat]; exact hf
  rw [node?, hl, hto]
  change ws.nodeIn (top ++ place) = _
  rw [nodeIn, hnode]

theorem HoldsTree.read_below (h : ws.HoldsTree root node) {place : Place} {content : ByteArray}
    (hc : node.content? place = some content) :
    ws.read (root ++ (⟨"", place⟩ : Path)) = .ok content := by
  rw [read, h.node?_below (Node.content?_eq_some_iff.mp hc)]
  rfl

/-- Where a folder of the tree has nothing of a short name, there is nothing to be found. -/
theorem HoldsTree.node?_missing (h : ws.HoldsTree root node) {folder : Place} {found : Node}
    (hf : node.at? folder = some found) (isFolder : found.isFolder = true) {name : String}
    (hn : IsName name) (short : name.utf8ByteSize ≤ nameLimit)
    (hnone : node.at? (folder ++ [name]) = none) :
    ws.node? (root ++ (⟨"", folder ++ [name]⟩ : Path)) =
      .error (faultOf (root ++ (⟨"", folder ++ [name]⟩ : Path)).text .missing) := by
  rw [Node.at?_concat, hf, Option.bind_some] at hnone
  obtain ⟨top, left, htop, hl⟩ := h.locate_below
  have hto : ws.follow left top folder = .ok (top ++ folder) :=
    follow_at? htop (h.wellNamed.at? hf).1 hf (Node.not_link_of_isFolder isFolder)
  obtain ⟨last, hlast⟩ := follow_append hto
  have hplace : ws.root.at? (top ++ folder) = some found := by
    rw [Node.at?_append, htop]
    exact hf
  have hmissing : ws.follow last (top ++ folder) [name] = .error .missing :=
    follow_missing hplace isFolder hn short hnone
  rw [node?, hl, hlast, hmissing]
  rfl

/-- A file of a folder can be asked for: its content is had if it is there, unless its path is too
long for an answer. -/
theorem HoldsTree.readIfFile_below (h : ws.HoldsTree root node) {folder : Place} {found : Node}
    (hf : node.at? folder = some found) (isFolder : found.isFolder = true) {name : String}
    (hn : IsName name) (short : name.utf8ByteSize ≤ nameLimit) :
    ws.readIfFile (root ++ (⟨"", folder ++ [name]⟩ : Path)) = .ok (node.content? (folder ++ [name])) ∨
      pathLimit < (root ++ (⟨"", folder ++ [name]⟩ : Path)).text.utf8ByteSize ∧
      ws.readIfFile (root ++ (⟨"", folder ++ [name]⟩ : Path)) = .error .nameTooLong := by
  cases hat : node.at? (folder ++ [name]) with
  | some child =>
    left
    rw [readIfFile, h.node?_below hat, Node.content?, hat]
    cases child <;> rfl
  | none =>
    rw [readIfFile, h.node?_missing hf isFolder hn short hat, Node.content?, hat, faultOf]
    by_cases hzero : (root ++ (⟨"", folder ++ [name]⟩ : Path)).text.contains '\x00' = true
    · exact .inl (by simp [hzero, LookupError.isAbsence])
    · by_cases hlong : pathLimit < (root ++ (⟨"", folder ++ [name]⟩ : Path)).text.utf8ByteSize
      · exact .inr ⟨hlong, by simp [hzero, hlong, LookupError.isAbsence]⟩
      · exact .inl (by simp [hzero, hlong, LookupError.isAbsence])

/-- A folder with a file and a folder, which ignores one of its two files. -/
def smallTree : Node :=
  .folder [("main.c", .file "int a;".toUTF8),
    ("lib", .folder [(".gitignore", .file "old.c".toUTF8), ("old.c", .file "int b;".toUTF8)])]

theorem smallTree_stands : StandsIn ⟨smallTree, []⟩ smallTree := by
  refine ⟨rfl, by simp, rfl, by decide, ?_⟩
  simp [smallTree, Node.WellNamed, Node.AllWellNamed]

end Workspace

namespace Node

mutual

/-- How many bytes the names in a tree have, with a separator behind each. -/
def nameBytes : Node → Nat
  | .file _ | .link _ => 0
  | .folder entries => nameBytesAll entries

def nameBytesAll : List (String × Node) → Nat
  | [] => 0
  | (name, node) :: rest => name.utf8ByteSize + 1 + nameBytes node + nameBytesAll rest

end

theorem nameBytes_child {node child : Node} {name : String} (h : node.child? name = some child) :
    name.utf8ByteSize + 1 + child.nameBytes ≤ node.nameBytes := by
  have hm := child?_mem h
  obtain ⟨entries, rfl⟩ := folder_of_child? h
  change (name, child) ∈ entries at hm
  rw [nameBytes]
  clear h
  induction entries with
  | nil => cases hm
  | cons entry rest ih =>
    obtain ⟨first, node⟩ := entry
    rw [nameBytesAll]
    rcases List.mem_cons.mp hm with he | hm
    · cases he
      omega
    · have := ih hm
      omega

theorem utf8ByteSize_relText_le {node found : Node} {place : Place}
    (h : node.at? place = some found) : (relText place).utf8ByteSize ≤ node.nameBytes := by
  induction place generalizing node with
  | nil => simp
  | cons name rest ih =>
    obtain ⟨child, hc, hr⟩ := Option.bind_eq_some_iff.mp h
    have hbytes := nameBytes_child hc
    have hrest := ih hr
    by_cases he : rest = []
    · rw [he, relText_singleton]
      omega
    · have hslash : "/".utf8ByteSize = 1 := by decide
      rw [← List.singleton_append, relText_append (by simp) he, relText_singleton,
        String.utf8ByteSize_append, String.utf8ByteSize_append, hslash]
      omega

end Node

end Polyglot.Files
