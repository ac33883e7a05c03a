import Polyglot.Proofs.Tree
import Polyglot.Proofs.Visits

namespace Polyglot.Files

namespace Listing

theorem mem_files_ofEntries {entries : List (String × Listed)} {name : String} :
    name ∈ (ofEntries entries).files ↔ (name, .file) ∈ entries := by
  simp only [ofEntries, files, List.mem_filterMap, List.mem_mergeSort]
  constructor
  · rintro ⟨⟨other, entry⟩, hm, h⟩
    cases entry <;> simp_all
  · exact fun hm => ⟨_, hm, rfl⟩

theorem mem_folders_ofEntries {entries : List (String × Listed)} {name : String} {below : Listing} :
    (name, some below) ∈ (ofEntries entries).folders ↔ (name, .folder below) ∈ entries := by
  simp only [ofEntries, folders, List.mem_filterMap, List.mem_mergeSort]
  constructor
  · rintro ⟨⟨other, entry⟩, hm, h⟩
    cases entry <;> simp_all
  · exact fun hm => ⟨_, hm, rfl⟩

theorem pairwise_mergeSort_lt {α : Type} {entries : List (String × α)}
    (nodup : (entries.map Prod.fst).Nodup) :
    (entries.mergeSort fun a b => a.1 ≤ b.1).Pairwise fun a b => a.1 < b.1 := by
  have hle : (entries.mergeSort fun a b => a.1 ≤ b.1).Pairwise fun a b => a.1 ≤ b.1 := by
    have htrans : ∀ a b c : String × α, decide (a.1 ≤ b.1) = true → decide (b.1 ≤ c.1) = true →
        decide (a.1 ≤ c.1) = true := by
      intro a b c hab hbc
      rw [decide_eq_true_eq] at hab hbc ⊢
      exact le_trans hab hbc
    have htotal : ∀ a b : String × α, (decide (a.1 ≤ b.1) || decide (b.1 ≤ a.1)) = true := by
      intro a b
      rw [Bool.or_eq_true, decide_eq_true_eq, decide_eq_true_eq]
      exact le_total a.1 b.1
    exact (List.pairwise_mergeSort htrans htotal entries).imp of_decide_eq_true
  have hne : (entries.mergeSort fun a b => a.1 ≤ b.1).Pairwise fun a b => a.1 ≠ b.1 := by
    rw [← List.pairwise_map]
    exact ((List.mergeSort_perm entries _).map Prod.fst).nodup_iff.mpr nodup
  exact (hle.and hne).imp fun h => lt_of_le_of_ne h.1 h.2

theorem ofEntries_ordered {entries : List (String × Listed)}
    (nodup : (entries.map Prod.fst).Nodup) (names : ∀ entry ∈ entries, IsName entry.1)
    (below : ∀ name listing, (name, .folder listing) ∈ entries → listing.Ordered) :
    (ofEntries entries).Ordered := by
  have hsorted := pairwise_mergeSort_lt nodup
  refine .mk ?_ ?_ ?_ ?_ ?_
  · refine List.Pairwise.filterMap _ ?_ hsorted
    rintro ⟨name, entry⟩ ⟨other, another⟩ hlt _ h _ h'
    cases entry <;> cases another <;> simp_all
  · refine List.Pairwise.filterMap _ ?_ hsorted
    rintro ⟨name, entry⟩ ⟨other, another⟩ hlt _ h _ h'
    cases entry <;> cases another <;> simp_all
    all_goals
      subst h h'
      exact hlt
  · intro name hm
    exact names _ (mem_files_ofEntries.mp hm)
  · intro folder hm
    obtain ⟨⟨name, entry⟩, hm, h⟩ := List.mem_filterMap.mp hm
    have hn := names _ (List.mem_mergeSort.mp hm)
    cases entry <;> simp_all
    all_goals
      subst h
      exact hn
  · intro name listing hm
    exact below name listing (mem_folders_ofEntries.mp hm)

end Listing

namespace Workspace

variable {ws : Workspace}

theorem listedAll_eq (place : Place) (entries : List (String × Node)) :
    ws.listedAll place entries =
      entries.map fun entry => (entry.1, ws.listed (place ++ [entry.1]) entry.2) := by
  induction entries with
  | nil => rfl
  | cons entry rest ih => rw [listedAll, ih, List.map_cons]

mutual

theorem listed_ordered (place : Place) :
    ∀ (node : Node) (listing : Listing), node.WellNamed → ws.listed place node = .folder listing →
      listing.Ordered
  | .file _, listing, _, h => by simp [listed] at h
  | .link target, listing, _, h => by
    rw [listed] at h
    split at h <;> simp at h
  | .folder entries, listing, hw, h => by
    rw [Node.WellNamed] at hw
    rw [listed] at h
    cases h
    have hnames : (ws.listedAll place entries).map Prod.fst = entries.map Prod.fst := by
      simp [listedAll_eq]
    refine Listing.ofEntries_ordered (hnames ▸ hw.1) ?_ ?_
    · intro entry hm
      rw [listedAll_eq] at hm
      obtain ⟨⟨name, node⟩, hin, rfl⟩ := List.mem_map.mp hm
      exact (Node.allWellNamed_mem hw.2 hin).1
    · exact listedAll_ordered place entries hw.2

theorem listedAll_ordered (place : Place) :
    ∀ entries : List (String × Node), Node.AllWellNamed entries →
      ∀ name listing, (name, .folder listing) ∈ ws.listedAll place entries → listing.Ordered
  | [], _, name, listing, h => by simp [listedAll] at h
  | (first, node) :: rest, hw, name, listing, h => by
    rw [Node.AllWellNamed] at hw
    rw [listedAll] at h
    rcases List.mem_cons.mp h with he | h
    · exact listed_ordered (place ++ [first]) node listing hw.2.1 (by injection he with _ he; exact he.symm)
    · exact listedAll_ordered place rest hw.2.2 name listing h

end

/-- A path to a folder is listed in order, whatever links there are, if names differ everywhere. -/
theorem listing_ordered {root : Path} (wellNamed : ws.root.WellNamed)
    (folder : ws.hasFolder root = .ok true) :
    ∃ listing, ws.listing root = .ok listing ∧ listing.Ordered := by
  cases hl : ws.locate root with
  | error e =>
    rw [hasFolder, node?, hl] at folder
    change (if e.isAbsence then .ok false else .error e : Except LookupError Bool) = .ok true at folder
    split at folder <;> cases folder
  | ok place =>
    cases hat : ws.root.at? place with
    | none => simp [hasFolder, node?, hl, bind, Except.bind, nodeIn, hat, LookupError.isAbsence] at folder
    | some node =>
      have hfolder : node.isFolder = true := by
        simpa [hasFolder, node?, hl, bind, Except.bind, nodeIn, hat] using folder
      cases node with
      | file content => simp [Node.isFolder] at hfolder
      | link target => simp [Node.isFolder] at hfolder
      | folder entries =>
        have hlisted : ws.listed place (.folder entries) =
            .folder (.ofEntries (ws.listedAll place entries)) := by
          rw [listed]
        refine ⟨_, ?_, listed_ordered place _ _ (wellNamed.at? hat).2 hlisted⟩
        simp only [listing, hl, bind, Except.bind, nodeIn, hat, hlisted]

theorem mem_listedAll {place : Place} {entries : List (String × Node)} {name : String}
    {entry : Listed} : (name, entry) ∈ ws.listedAll place entries ↔
      ∃ child, (name, child) ∈ entries ∧ ws.listed (place ++ [name]) child = entry := by
  rw [listedAll_eq, List.mem_map]
  constructor
  · rintro ⟨⟨other, child⟩, hm, he⟩
    injection he with hn he
    subst hn
    exact ⟨child, hm, he⟩
  · rintro ⟨child, hm, rfl⟩
    exact ⟨(name, child), hm, rfl⟩

theorem folder_of_listed {place : Place} {node : Node} {listing : Listing}
    (h : ws.listed place node = .folder listing) :
    ∃ entries, node = .folder entries ∧ listing = .ofEntries (ws.listedAll place entries) := by
  cases node with
  | file content => simp [listed] at h
  | link target =>
    rw [listed] at h
    split at h <;> simp at h
  | folder entries =>
    rw [listed] at h
    cases h
    exact ⟨entries, rfl, rfl⟩

theorem file_of_listed {place : Place} {node : Node} (free : node.linkFree = true) :
    ws.listed place node = .file ↔ ∃ content, node = .file content := by
  cases node with
  | file content => simp [listed]
  | link target => simp [Node.linkFree] at free
  | folder entries => simp [listed]

theorem at_listed {rest top : Place} {node : Node} {listing found : Listing} (hw : node.WellNamed)
    (h : ws.listed top node = .folder listing) :
    listing.At rest found ↔
      ∃ child, node.at? rest = some child ∧ ws.listed (top ++ rest) child = .folder found := by
  induction rest generalizing top node listing with
  | nil =>
    rw [List.append_nil]
    constructor
    · rintro ⟨⟩
      exact ⟨node, rfl, h⟩
    · rintro ⟨child, hc, hl⟩
      cases hc
      rw [h] at hl
      cases hl
      exact .here _
  | cons name others ih =>
    obtain ⟨entries, rfl, rfl⟩ := folder_of_listed h
    constructor
    · rintro (_ | ⟨hm, hat⟩)
      obtain ⟨child, hin, hl⟩ := mem_listedAll.mp (Listing.mem_folders_ofEntries.mp hm)
      obtain ⟨below, hb, hf⟩ := (ih (hw.mem hin).2 hl).mp hat
      refine ⟨below, ?_, by simpa using hf⟩
      rw [Node.at?, hw.child?_eq_some_iff.mpr hin]
      exact hb
    · rintro ⟨below, hb, hf⟩
      obtain ⟨child, hc, hb⟩ := Option.bind_eq_some_iff.mp hb
      have hin := hw.child?_eq_some_iff.mp hc
      -- A node that has something below it is a folder, and listed as one.
      have hl : ∃ inner, ws.listed (top ++ [name]) child = .folder inner := by
        cases others with
        | nil =>
          cases hb
          exact ⟨found, hf⟩
        | cons next more =>
          obtain ⟨_, hnext, _⟩ := Option.bind_eq_some_iff.mp hb
          obtain ⟨inner, rfl⟩ := Node.folder_of_child? hnext
          exact ⟨_, rfl⟩
      obtain ⟨inner, hl⟩ := hl
      refine .deeper (Listing.mem_folders_ofEntries.mpr (mem_listedAll.mpr ⟨child, hin, hl⟩)) ?_
      exact (ih (hw.mem hin).2 hl).mpr ⟨below, hb, by simpa using hf⟩

end Workspace

/-- A listing shows a tree: its folders, its files and nothing else, in order. -/
structure Listing.Shows (listing : Listing) (node : Node) : Prop where
  ordered : listing.Ordered
  folder : ∀ {place found}, listing.At place found → ∃ child, node.at? place = some child ∧
    child.isFolder = true
  file : ∀ {place name}, (∃ found, listing.At place found ∧ name ∈ found.files) ↔
    (node.content? (place ++ [name])).isSome = true

theorem Workspace.HoldsTree.listing {ws : Workspace} {root : Path} {node : Node}
    (h : ws.HoldsTree root node) : ∃ listing, ws.listing root = .ok listing ∧ listing.Shows node := by
  obtain ⟨top, hl, hat⟩ := h.located
  have hfolder := h.isFolder
  cases node with
  | file content => simp [Node.isFolder] at hfolder
  | link target => simp [Node.isFolder] at hfolder
  | folder entries =>
    have hlisted : ws.listed top (.folder entries) = .folder (.ofEntries (ws.listedAll top entries)) := by
      rw [listed]
    refine ⟨.ofEntries (ws.listedAll top entries), ?_, listed_ordered top _ _ h.wellNamed hlisted, ?_, ?_⟩
    · rw [Workspace.listing, hl]
      change (ws.nodeIn top >>= fun node => _) = _
      rw [nodeIn, hat, bind, Monad.toBind, Except.instMonad]
      simp only [Except.bind, hlisted]
    · intro place found hplace
      obtain ⟨child, hc, hf⟩ := (at_listed h.wellNamed hlisted).mp hplace
      obtain ⟨_, rfl, _⟩ := folder_of_listed hf
      exact ⟨_, hc, rfl⟩
    · intro place name
      constructor
      · rintro ⟨found, hplace, hname⟩
        obtain ⟨child, hc, hf⟩ := (at_listed h.wellNamed hlisted).mp hplace
        obtain ⟨inner, rfl, rfl⟩ := folder_of_listed hf
        obtain ⟨file, hin, hfile⟩ := mem_listedAll.mp (Listing.mem_files_ofEntries.mp hname)
        have hw := (h.wellNamed.at? hc).2
        have hfree := Node.linkFree_mem (Node.linkFree_at? h.linkFree hc) hin
        obtain ⟨content, rfl⟩ := (file_of_listed hfree).mp hfile
        have hcontent : (Node.folder entries).content? (place ++ [name]) = some content := by
          rw [Node.content?_eq_some_iff, Node.at?_concat, hc]
          exact hw.child?_eq_some_iff.mpr hin
        simp [hcontent]
      · intro hsome
        obtain ⟨content, hcontent⟩ := Option.isSome_iff_exists.mp hsome
        rw [Node.content?_eq_some_iff, Node.at?_concat] at hcontent
        obtain ⟨child, hc, hname⟩ := Option.bind_eq_some_iff.mp hcontent
        obtain ⟨inner, rfl⟩ := Node.folder_of_child? hname
        have hf : ws.listed (top ++ place) (.folder inner) =
            .folder (.ofEntries (ws.listedAll (top ++ place) inner)) := by
          rw [listed]
        refine ⟨_, (at_listed h.wellNamed hlisted).mpr ⟨_, hc, hf⟩, ?_⟩
        refine Listing.mem_files_ofEntries.mpr (mem_listedAll.mpr ⟨_, Node.child?_mem hname, ?_⟩)
        rw [listed]

theorem Workspace.HoldsTree.at_folder {ws : Workspace} {root : Path} {node : Node}
    (h : ws.HoldsTree root node) {listing : Listing} (hl : ws.listing root = .ok listing)
    {place : Place} {child : Node} (hc : node.at? place = some child)
    (isFolder : child.isFolder = true) : ∃ found, listing.At place found := by
  obtain ⟨top, hloc, hat⟩ := h.located
  have hlisted : ws.listed top node = .folder listing := by
    simp only [Workspace.listing, hloc, bind, Except.bind, nodeIn, hat] at hl
    split at hl
    · rename_i shown hs
      cases hl
      exact hs
    · cases hl
  obtain ⟨inner, hinner⟩ : ∃ inner, ws.listed (top ++ place) child = .folder inner := by
    cases child with
    | file content => cases isFolder
    | link target => cases isFolder
    | folder entries => exact ⟨_, by rw [listed]⟩
  exact ⟨inner, (at_listed h.wellNamed hlisted).mpr ⟨child, hc, hinner⟩⟩

theorem Listing.Shows.mem_offered {listing : Listing} {node : Node} (h : listing.Shows node)
    {rejects : Place → Bool} {file : Place} :
    file ∈ offeredBy (moves rejects [] listing) ↔ (node.content? file).isSome = true ∧
      ∀ front name, StrictlyAbove (front ++ [name]) file → goesInto rejects front name = true := by
  rw [mem_offered_moves h.ordered]
  constructor
  · rintro ⟨folder, name, found, rfl, hat, hname, hp⟩
    refine ⟨h.file.mp ⟨found, hat, hname⟩, ?_⟩
    intro front other ho
    simpa using hp front other (strictlyAbove_concat.mp ho)
  · rintro ⟨hsome, hp⟩
    rcases List.eq_nil_or_concat file with rfl | ⟨folder, name, rfl⟩
    · obtain ⟨child, hc, hfolder⟩ := h.folder (.here listing)
      cases hc
      cases node <;> simp_all [Node.content?, Node.at?, Node.isFolder]
    · rw [List.concat_eq_append] at hsome hp ⊢
      obtain ⟨found, hat, hname⟩ := h.file.mpr hsome
      refine ⟨folder, name, found, rfl, hat, hname, ?_⟩
      intro front other ho
      simpa using hp front other (strictlyAbove_concat.mpr ho)

end Polyglot.Files
