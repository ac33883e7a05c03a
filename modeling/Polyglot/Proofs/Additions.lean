import Polyglot.Proofs.Tree

namespace Polyglot.Files

namespace Node

variable {node more : Node} {place : Place} {content : ByteArray}

/-- A tree with one more file than another, which has nothing at the place of the file. -/
structure Gains (node more : Node) (place : Place) (content : ByteArray) : Prop where
  free : node.at? place = none
  file : more.content? place = some content
  elsewhere : ∀ other, other ≠ place → more.at? other = node.at? other ∨
    ∃ entries others, node.at? other = some (.folder entries) ∧ more.at? other = some (.folder others)

theorem child?_map {entries : List (String × Node)} {change : String × Node → String × Node}
    (names : ∀ entry, (change entry).1 = entry.1) (name : String) :
    (folder (entries.map change)).child? name =
      (entries.find? (·.1 == name)).map fun entry => (change entry).2 := by
  change ((entries.map change).find? (·.1 == name)).map Prod.snd = _
  rw [find?_map names, Option.map_map]
  rfl

theorem child?_put_self (new : Node) (name : String) (rest : Place) (old : Node) :
    (put new (name :: rest) old).child? name = some (put new rest ((old.child? name).getD empty)) := by
  rw [put]
  cases hc : old.child? name with
  | none =>
    have hnone : old.entries.find? (·.1 == name) = none := by simpa [child?] using hc
    change ((old.entries ++ _).find? (·.1 == name)).map Prod.snd = _
    rw [List.find?_append, hnone]
    simp
  | some child =>
    obtain ⟨entry, hfind, _⟩ := Option.map_eq_some_iff.mp hc
    have hname : entry.1 = name := by simpa using List.find?_some hfind
    simp only [Option.isSome_some, ↓reduceIte]
    rw [child?_map (fun entry => by split <;> simp_all), hfind]
    simp [hname]

theorem child?_put_ne (new : Node) {name other : String} (h : other ≠ name) (rest : Place)
    (old : Node) : (put new (name :: rest) old).child? other = old.child? other := by
  rw [put]
  cases hc : old.child? name with
  | none =>
    change ((old.entries ++ _).find? (·.1 == other)).map Prod.snd = _
    rw [List.find?_append, child?]
    simp [Ne.symm h]
  | some child =>
    simp only [Option.isSome_some, ↓reduceIte]
    rw [child?_map (fun entry => by split <;> simp_all), child?]
    refine Option.map_congr fun entry hfind => ?_
    have hname : entry.1 = other := by simpa using List.find?_some hfind
    simp [hname, h]

/-- A folder gains what one of its entries gains, if its other entries stay. -/
theorem Gains.under {child after : Node} {name : String} (h : Gains child after place content)
    (hc : node.child? name = some child) (hm : more.child? name = some after)
    (stay : ∀ other, other ≠ name → more.child? other = node.child? other) :
    Gains node more (name :: place) content := by
  refine ⟨?_, ?_, ?_⟩
  · rw [at?, hc]
    exact h.free
  · rw [content?_eq_some_iff, at?, hm]
    exact content?_eq_some_iff.mp h.file
  · intro other hne
    cases other with
    | nil =>
      obtain ⟨entries, rfl⟩ := folder_of_child? hc
      obtain ⟨others, rfl⟩ := folder_of_child? hm
      exact .inr ⟨entries, others, rfl, rfl⟩
    | cons first rest =>
      rw [at?, at?]
      by_cases he : first = name
      · subst he
        rw [hc, hm]
        exact h.elsewhere rest fun hr => hne (by rw [hr])
      · rw [stay first he]
        exact .inl rfl

theorem gains_put {front : Place} {name : String} {found : Node} (hf : node.at? front = some found)
    (isFolder : found.isFolder = true) (free : node.at? (front ++ [name]) = none)
    (content : ByteArray) :
    Gains node (put (file content) (front ++ [name]) node) (front ++ [name]) content := by
  induction front generalizing node with
  | nil =>
    obtain rfl : found = node := (Option.some.inj hf).symm
    have hnone : found.child? name = none := by simpa [at?] using free
    have hself : (put (file content) [name] found).child? name = some (file content) := by
      rw [child?_put_self, hnone]
      simp [put, Node.isFolder]
    refine ⟨free, ?_, ?_⟩
    · simpa [content?_eq_some_iff, at?] using hself
    · intro other hne
      cases other with
      | nil =>
        obtain ⟨others, ho⟩ := folder_of_child? hself
        cases found with
        | folder entries => exact .inr ⟨entries, others, rfl, congrArg some ho⟩
        | file content => cases isFolder
        | link target => cases isFolder
      | cons first rest =>
        left
        rw [List.nil_append, at?, at?]
        by_cases he : first = name
        -- There is nothing below the new file, and there was nothing below it before.
        · subst he
          rw [hself, hnone]
          cases rest with
          | nil => exact absurd rfl hne
          | cons next others => simp [at?, child?, entries]
        · rw [child?_put_ne _ he]
  | cons first rest ih =>
    obtain ⟨child, hc, hr⟩ := Option.bind_eq_some_iff.mp hf
    have hfree : child.at? (rest ++ [name]) = none := by
      rw [List.cons_append, at?, hc] at free
      exact free
    refine (ih hr hfree).under hc ?_ fun other ho => child?_put_ne _ ho _ _
    rw [List.cons_append, child?_put_self, hc, Option.getD_some]

section
variable (gains : Gains node more place content)
include gains

theorem Gains.content?_eq {other : Place} (hne : other ≠ place) :
    more.content? other = node.content? other := by
  rcases gains.elsewhere other hne with he | ⟨entries, others, hnode, hmore⟩
  · rw [content?, content?, he]
  · rw [content?, content?, hnode, hmore]

theorem Gains.folder_of_more {other : Place} {found : Node} (hf : more.at? other = some found)
    (isFolder : found.isFolder = true) :
    ∃ before, node.at? other = some before ∧ before.isFolder = true := by
  by_cases he : other = place
  · subst he
    rw [content?_eq_some_iff.mp gains.file] at hf
    cases hf
    cases isFolder
  · rcases gains.elsewhere other he with h | ⟨entries, others, hnode, _⟩
    · exact ⟨found, h ▸ hf, isFolder⟩
    · exact ⟨_, hnode, rfl⟩

end

end Node

namespace Workspace

variable {ws others : Workspace} {root : Path} {node more : Node} {place : Place}
  {content : ByteArray}

theorem HoldsTree.readIfFile_gains (holds : ws.HoldsTree root node)
    (holds' : others.HoldsTree root more) (gains : node.Gains more place content) {folder : Place}
    {found after : Node} (hf : node.at? folder = some found) (isFolder : found.isFolder = true)
    (hf' : more.at? folder = some after) (isFolder' : after.isFolder = true) {name : String}
    (hn : IsName name) (short : name.utf8ByteSize ≤ nameLimit) (hne : folder ++ [name] ≠ place) :
    others.readIfFile (root ++ (⟨"", folder ++ [name]⟩ : Path)) =
      ws.readIfFile (root ++ (⟨"", folder ++ [name]⟩ : Path)) := by
  rcases gains.elsewhere _ hne with he | ⟨entries, inner, hnode, hmore⟩
  · cases hat : node.at? (folder ++ [name]) with
    | some child =>
      rw [readIfFile, readIfFile, holds.node?_below hat, holds'.node?_below (he.trans hat)]
    | none =>
      rw [readIfFile, readIfFile, holds.node?_missing hf isFolder hn short hat,
        holds'.node?_missing hf' isFolder' hn short (he.trans hat)]
  · rw [readIfFile, readIfFile, holds.node?_below hnode, holds'.node?_below hmore]

end Workspace

end Polyglot.Files
