import Polyglot.Proofs.Links
import Polyglot.Proofs.Listings

namespace Polyglot.Files

namespace Workspace

variable {ws : Workspace}

/-- Where both workspaces have the same thing at a path, its content is the same in both. -/
theorem node?_withoutDead (wellNamed : ws.root.WellNamed) {path : Path}
    (same : ws.withoutDead.locate path = ws.locate path)
    (stands : ∀ reached, ws.locate path = .ok reached → ws.Stands reached)
    (rooted : ws.isDead [] ws.root = false) :
    (∃ place node, ws.node? path = .ok node ∧ ws.withoutDead.node? path = .ok (ws.alive place node)) ∨
      ∃ error, ws.node? path = .error error ∧ ws.withoutDead.node? path = .error error := by
  cases hl : ws.locate path with
  | error error => exact .inr ⟨error, by rw [node?, hl]; rfl, by rw [node?, same, hl]; rfl⟩
  | ok reached =>
    obtain ⟨node, hat, noLink⟩ := stands reached hl
    have hat' := at?_withoutDead wellNamed hat (isDead_of_not_link noLink _) rooted
    refine .inl ⟨reached, node, ?_, ?_⟩
    · rw [node?, hl]
      change ws.nodeIn reached = _
      rw [nodeIn, hat]
    · rw [node?, same, hl]
      change ws.withoutDead.nodeIn reached = _
      rw [nodeIn, hat']

theorem faultOf_cases (text : String) :
    (∀ met, faultOf text met = faultOf text .missing) ∨ ∀ met, faultOf text met = met := by
  by_cases hzero : text.contains '\x00' = true
  · exact .inl fun met => by simp only [faultOf, hzero, ↓reduceIte]
  · by_cases hlong : pathLimit < text.utf8ByteSize
    · exact .inl fun met => by simp only [faultOf, hzero, hlong, Bool.false_eq_true, ↓reduceIte]
    · exact .inr fun met => by simp only [faultOf, hzero, hlong, Bool.false_eq_true, ↓reduceIte]

/-- A path leads to a folder, and below it names differ. -/
structure HoldsFolder (ws : Workspace) (root : Path) (top : Place) (node : Node) : Prop where
  wellNamed : ws.root.WellNamed
  located : ws.locate root = .ok top
  at_top : ws.root.at? top = some node
  isFolder : node.isFolder = true

section
variable {root : Path} {top : Place} {node : Node}

theorem follow_of_locate {path : Path} {reached : Place} (h : ws.locate path = .ok reached) :
    ws.follow linkLimit (if path.root = "" then ws.here else []) path.parts = .ok reached := by
  rw [locate] at h
  cases hfollow : ws.follow linkLimit (if path.root = "" then ws.here else []) path.parts with
  | error error =>
    rw [hfollow] at h
    cases h
  | ok place =>
    rw [hfollow] at h
    cases h
    rfl

variable (holds : ws.HoldsFolder root top node)
include holds

theorem HoldsFolder.rooted : ws.isDead [] ws.root = false :=
  isDead_of_not_link (root_not_link holds.at_top holds.isFolder) []

theorem HoldsFolder.live : ws.isDead top node = false :=
  isDead_of_not_link (Node.not_link_of_isFolder holds.isFolder) top

theorem HoldsFolder.locate_below : ∃ left ≤ linkLimit, ∀ place : Place,
    let path := root ++ (⟨"", place⟩ : Path)
    ws.locate path = (ws.follow left top place).mapError (faultOf path.text) ∧
      ws.withoutDead.locate path = (ws.withoutDead.follow left top place).mapError
        (faultOf path.text) := by
  have hfollow := follow_of_locate holds.located
  rcases leadsAlike_withoutDead holds.wellNamed hfollow le_rfl linkLimit le_rfl with
    ⟨left, hl, hboth⟩ | hboth
  · refine ⟨left, hl, fun place => ?_⟩
    simp only [append_relative, locate]
    exact ⟨congrArg _ (hboth place).1, congrArg _ (hboth place).2⟩
  · have hnone := (hboth []).1
    rw [List.append_nil, hfollow] at hnone
    cases hnone

theorem HoldsFolder.withoutDead : ws.withoutDead.HoldsFolder root top (ws.alive top node) := by
  have hat := at?_withoutDead holds.wellNamed holds.at_top holds.live holds.rooted
  refine ⟨alive_wellNamed [] _ holds.wellNamed, ?_, hat, by simpa using holds.isFolder⟩
  obtain ⟨left, -, hboth⟩ := holds.locate_below
  have hsame := (hboth []).2
  rw [append_relative, List.append_nil, follow] at hsame
  exact hsame

theorem HoldsFolder.at?_eq (place : Place) : (ws.alive top node).at? place =
    ((node.at? place).filter fun found => !ws.isDead (top ++ place) found).map
      (ws.alive (top ++ place)) := by
  have hw : node.WellNamed := (holds.wellNamed.at? holds.at_top).2
  exact at?_alive hw holds.live place

theorem HoldsFolder.at?_root (place : Place) : ws.root.at? (top ++ place) = node.at? place := by
  rw [Node.at?_append, holds.at_top, Option.bind_some]

theorem HoldsFolder.names {place : Place} {found : Node} (h : node.at? place = some found) :
    ∀ name ∈ place, IsName name :=
  ((holds.wellNamed.at? holds.at_top).2.at? h).1

/-- The way to an entry below the root goes by its folder, with as many links left in both
workspaces. -/
theorem HoldsFolder.locate_entry : ∃ left ≤ linkLimit, ∀ (folder : Place) (name : String)
    (found : Node), node.at? folder = some found → found.isFolder = true →
    let path := root ++ (⟨"", folder ++ [name]⟩ : Path)
    ws.locate path = (ws.follow left (top ++ folder) [name]).mapError (faultOf path.text) ∧
      ws.withoutDead.locate path =
        (ws.withoutDead.follow left (top ++ folder) [name]).mapError (faultOf path.text) := by
  obtain ⟨left, hl, hboth⟩ := holds.locate_below
  refine ⟨left, hl, fun folder name found hf isFolder => ?_⟩
  have hnames := holds.names hf
  have hf' : (ws.alive top node).at? folder = some (ws.alive (top ++ folder) found) := by
    rw [holds.at?_eq, hf]
    simp [Option.filter, isDead_of_not_link (Node.not_link_of_isFolder isFolder)]
  have hgo : ws.follow left top (folder ++ [name]) = ws.follow left (top ++ folder) [name] :=
    follow_names holds.at_top hnames hf isFolder [name]
  have hgo' : ws.withoutDead.follow left top (folder ++ [name]) =
      ws.withoutDead.follow left (top ++ folder) [name] :=
    follow_names holds.withoutDead.at_top hnames hf' (by simpa using isFolder) [name]
  have hpath := hboth (folder ++ [name])
  rwa [hgo, hgo'] at hpath

variable {folder : Place} {name : String} {found : Node} (hf : node.at? folder = some found)
  (isFolder : found.isFolder = true) (hn : IsName name)
include hf isFolder hn

theorem HoldsFolder.node?_live (live : ws.deadAt (top ++ folder ++ [name]) = false) :
    let path := root ++ (⟨"", folder ++ [name]⟩ : Path)
    (∃ place node, ws.node? path = .ok node ∧ ws.withoutDead.node? path = .ok (ws.alive place node)) ∨
      ∃ error, ws.node? path = .error error ∧ ws.withoutDead.node? path = .error error := by
  intro path
  obtain ⟨left, hl, hboth⟩ := holds.locate_entry
  obtain ⟨hlocate, hlocate'⟩ := hboth folder name found hf isFolder
  have hplace : ws.root.at? (top ++ folder) = some found := by rw [holds.at?_root, hf]
  obtain ⟨entries, rfl⟩ := Node.entries_of_isFolder isFolder
  have hsame : ws.withoutDead.locate path = ws.locate path := by
    rw [hlocate, hlocate', follow_live holds.wellNamed hplace hn hl live]
  refine node?_withoutDead holds.wellNamed hsame ?_ holds.rooted
  intro reached hreached
  cases hfollow : ws.follow left (top ++ folder) [name] with
  | error error =>
    rw [hlocate, hfollow] at hreached
    cases hreached
  | ok place =>
    rw [hlocate, hfollow] at hreached
    cases hreached
    exact (stands_folder hplace rfl).follow hfollow

theorem HoldsFolder.read_live (live : ws.deadAt (top ++ folder ++ [name]) = false) :
    ws.withoutDead.read (root ++ (⟨"", folder ++ [name]⟩ : Path)) =
      ws.read (root ++ (⟨"", folder ++ [name]⟩ : Path)) := by
  rw [read, read]
  rcases holds.node?_live hf isFolder hn live with ⟨place, node, h, h'⟩ | ⟨error, h, h'⟩
  · rw [h, h']
    cases node <;> simp [alive, contentOf]
  · rw [h, h']

theorem HoldsFolder.readIfFile_live (live : ws.deadAt (top ++ folder ++ [name]) = false) :
    ws.withoutDead.readIfFile (root ++ (⟨"", folder ++ [name]⟩ : Path)) =
      ws.readIfFile (root ++ (⟨"", folder ++ [name]⟩ : Path)) := by
  rw [readIfFile, readIfFile]
  rcases holds.node?_live hf isFolder hn live with ⟨place, node, h, h'⟩ | ⟨error, h, h'⟩
  · rw [h, h']
    cases node <;> simp [alive]
  · rw [h, h']

theorem HoldsFolder.node?_taken (short : name.utf8ByteSize ≤ nameLimit)
    (dead : ws.deadAt (top ++ folder ++ [name]) = true) :
    let path := root ++ (⟨"", folder ++ [name]⟩ : Path)
    ws.withoutDead.node? path = .error (faultOf path.text .missing) := by
  intro path
  obtain ⟨left, -, hboth⟩ := holds.locate_entry
  have hlocate := (hboth folder name found hf isFolder).2
  have hplace : ws.root.at? (top ++ folder) = some found := by rw [holds.at?_root, hf]
  obtain ⟨entries, rfl⟩ := Node.entries_of_isFolder isFolder
  rw [follow_taken holds.wellNamed hplace hn short dead] at hlocate
  rw [node?, hlocate]
  rfl

/-- A dead entry leads nowhere. A name is too long on the way only if the link by itself ends in too
long a name. -/
theorem HoldsFolder.node?_dead (dead : ws.deadAt (top ++ folder ++ [name]) = true) :
    let path := root ++ (⟨"", folder ++ [name]⟩ : Path)
    ∃ error, ws.node? path = .error (faultOf path.text error) ∧
      (error = .nameTooLong → ∃ target, ws.root.at? (top ++ folder ++ [name]) = some (.link target) ∧
        ws.aim (top ++ folder) target = .error .nameTooLong) := by
  intro path
  obtain ⟨left, hl, hboth⟩ := holds.locate_entry
  have hlocate := (hboth folder name found hf isFolder).1
  have hplace : ws.root.at? (top ++ folder) = some found := by rw [holds.at?_root, hf]
  obtain ⟨entries, rfl⟩ := Node.entries_of_isFolder isFolder
  obtain ⟨error, hfollow, hlong⟩ := follow_dead hplace hn hl dead
  rw [hfollow] at hlocate
  refine ⟨error, ?_, hlong⟩
  rw [node?, hlocate]
  rfl

/-- Asking for a dead entry is as asking for what is not there, but for one case: a link to a name
that is too long cannot be asked for. -/
theorem HoldsFolder.readIfFile_dead (short : name.utf8ByteSize ≤ nameLimit)
    (dead : ws.deadAt (top ++ folder ++ [name]) = true) :
    let path := root ++ (⟨"", folder ++ [name]⟩ : Path)
    ws.withoutDead.readIfFile path = ws.readIfFile path ∨
      ws.readIfFile path = .error .nameTooLong ∧
        ∃ target, ws.root.at? (top ++ folder ++ [name]) = some (.link target) ∧
          ws.aim (top ++ folder) target = .error .nameTooLong := by
  intro path
  have hmissing := holds.node?_taken hf isFolder hn short dead
  obtain ⟨error, hnode, hlong⟩ := holds.node?_dead hf isFolder hn dead
  rw [readIfFile, readIfFile, hmissing, hnode]
  rcases faultOf_cases path.text with htext | hmet
  · left
    rw [htext error]
  · rw [hmet, hmet]
    cases error with
    | nameTooLong => exact .inr ⟨rfl, hlong rfl⟩
    | missing => exact .inl rfl
    | notAFolder => exact .inl rfl
    | tooManyLinks => exact .inl rfl
    | zeroCharacter => exact .inl rfl

end

/-- Whether there is a file at a place, or a link that is no way into a folder. -/
def fileAt (ws : Workspace) (place : Place) : Prop :=
  ∃ node, ws.root.at? place = some node ∧ ws.listed place node = .file

theorem fileAt_of_dead {place : Place} (dead : ws.deadAt place = true) : ws.fileAt place := by
  rw [deadAt] at dead
  cases hat : ws.root.at? place with
  | none => simp [hat] at dead
  | some node =>
    rw [hat, Option.any_some] at dead
    obtain ⟨target, error, rfl, haim⟩ := isDead_eq_true.mp dead
    refine ⟨_, hat, ?_⟩
    rw [aim] at haim
    simp [listed, leadsToFolder, haim]

section
variable {root : Path} {top : Place} {node : Node} (holds : ws.HoldsFolder root top node)
include holds

theorem HoldsFolder.listing_eq : ∃ listing, ws.listing root = .ok listing ∧ listing.Ordered ∧
    ws.listed top node = .folder listing := by
  obtain ⟨entries, rfl⟩ := Node.entries_of_isFolder holds.isFolder
  have hw : (Node.folder entries).WellNamed := (holds.wellNamed.at? holds.at_top).2
  have hlisted : ws.listed top (.folder entries) = .folder (.ofEntries (ws.listedAll top entries)) := by
    rw [listed]
  refine ⟨_, ?_, listed_ordered top _ _ hw hlisted, hlisted⟩
  rw [Workspace.listing, holds.located]
  change (ws.nodeIn top >>= fun node => _) = _
  rw [nodeIn, holds.at_top, bind, Monad.toBind, Except.instMonad]
  simp only [Except.bind, hlisted]

theorem HoldsFolder.hasFolder : ws.hasFolder root = .ok true := by
  have hnode : ws.node? root = .ok node := by
    rw [node?, holds.located]
    change ws.nodeIn top = _
    rw [nodeIn, holds.at_top]
  rw [Workspace.hasFolder, hnode]
  exact congrArg Except.ok holds.isFolder

theorem HoldsFolder.leadsToFolder_eq {folder reached : Place} {target : String}
    (h : ws.aim folder target = .ok reached) :
    ws.withoutDead.leadsToFolder folder target = ws.leadsToFolder folder target := by
  have hfollow : ws.withoutDead.aim folder target = .ok reached := by
    rcases leadsAlike_withoutDead holds.wellNamed h (by simp [linkLimit]) _ le_rfl with
      ⟨left, -, hboth⟩ | hboth
    · have hsame := hboth []
      rw [List.append_nil, follow, follow] at hsame
      exact hsame.2
    · have hnone := (hboth []).1
      rw [List.append_nil] at hnone
      exact absurd (h.symm.trans hnone) (by simp)
  rw [aim] at h hfollow
  rw [leadsToFolder, leadsToFolder, h, hfollow]
  change (ws.withoutDead.root.at? reached).any _ = (ws.root.at? reached).any _
  rw [Workspace.withoutDead, at?_alive holds.wellNamed holds.rooted, List.nil_append]
  cases ws.root.at? reached with
  | none => rfl
  | some found =>
    cases found with
    | file content => rfl
    | folder entries => rfl
    | link target =>
      cases hd : ws.isDead reached (.link target) <;>
        simp [Option.filter, hd, alive, Node.isFolder]

theorem HoldsFolder.fileAt_withoutDead (place : Place) :
    ws.withoutDead.fileAt place ↔ ws.fileAt place ∧ ws.deadAt place = false := by
  have hat := at?_alive holds.wellNamed holds.rooted place
  rw [List.nil_append] at hat
  change (∃ node, (ws.alive [] ws.root).at? place = some node ∧ _) ↔ _
  rw [hat, fileAt, deadAt]
  cases ws.root.at? place with
  | none => simp
  | some found =>
    rw [Option.any_some]
    cases hd : ws.isDead place found with
    | true => simp [Option.filter, hd]
    | false =>
      have hlisted : ws.withoutDead.listed place (ws.alive place found) = .file ↔
          ws.listed place found = .file := by
        cases found with
        | file content => simp [alive, listed]
        | folder entries => simp [alive, listed]
        | link target =>
          cases haim : ws.aim place.dropLast target with
          | error error => simp [isDead, haim, Except.isOk, Except.toBool] at hd
          | ok reached => simp only [alive, listed, holds.leadsToFolder_eq haim]
      simpa [Option.filter, hd] using hlisted

variable {listing : Listing} (hl : ws.listing root = .ok listing) {rejects : Place → Bool}
include hl

theorem HoldsFolder.mem_offered {file : Place} : file ∈ offeredBy (moves rejects [] listing) ↔
    ∃ folder name, file = folder ++ [name] ∧ Passes rejects [] folder ∧ ws.fileAt (top ++ file) := by
  obtain ⟨_, hl', ordered, hlisted⟩ := holds.listing_eq
  obtain rfl := Except.ok.inj (hl'.symm.trans hl)
  have hw : node.WellNamed := (holds.wellNamed.at? holds.at_top).2
  rw [mem_offered_moves ordered]
  constructor
  · rintro ⟨folder, name, found, rfl, hat, hname, hp⟩
    obtain ⟨child, hc, hf⟩ := (at_listed hw hlisted).mp hat
    obtain ⟨entries, rfl, rfl⟩ := folder_of_listed hf
    obtain ⟨entry, hm, hfile⟩ := mem_listedAll.mp (Listing.mem_files_ofEntries.mp hname)
    refine ⟨folder, name, rfl, hp, entry, ?_, by rwa [← List.append_assoc]⟩
    rw [holds.at?_root, Node.at?_concat, hc]
    exact (hw.at? hc).2.child?_eq_some_iff.mpr hm
  · rintro ⟨folder, name, rfl, hp, entry, hat, hfile⟩
    rw [holds.at?_root, Node.at?_concat] at hat
    obtain ⟨child, hc, hname⟩ := Option.bind_eq_some_iff.mp hat
    obtain ⟨entries, rfl⟩ := Node.folder_of_child? hname
    have hf : ws.listed (top ++ folder) (.folder entries) =
        .folder (.ofEntries (ws.listedAll (top ++ folder) entries)) := by
      rw [listed]
    refine ⟨folder, name, _, rfl, (at_listed hw hlisted).mpr ⟨_, hc, hf⟩, ?_, hp⟩
    refine Listing.mem_files_ofEntries.mpr (mem_listedAll.mpr ⟨entry, Node.child?_mem hname, ?_⟩)
    rwa [List.append_assoc]

theorem HoldsFolder.mem_entered {folder : Place} : folder ∈ enteredBy (moves rejects [] listing) ↔
    Passes rejects [] folder ∧ ∃ found, node.at? folder = some found ∧ found.isFolder = true := by
  obtain ⟨_, hl', ordered, hlisted⟩ := holds.listing_eq
  obtain rfl := Except.ok.inj (hl'.symm.trans hl)
  have hw : node.WellNamed := (holds.wellNamed.at? holds.at_top).2
  constructor
  · intro h
    obtain ⟨move, hm, hf⟩ := List.mem_flatMap.mp h
    cases move with
    | ask other => simp [Move.entered] at hf
    | enter other files =>
      simp only [Move.entered, List.mem_singleton] at hf
      subst hf
      obtain ⟨_, found, rfl, rfl, hat, hp⟩ := (enter_mem_moves ordered).mp hm
      obtain ⟨child, hc, hf⟩ := (at_listed hw hlisted).mp hat
      obtain ⟨entries, rfl, rfl⟩ := folder_of_listed hf
      exact ⟨hp, _, hc, rfl⟩
  · rintro ⟨hp, found, hc, isFolder⟩
    obtain ⟨entries, rfl⟩ := Node.entries_of_isFolder isFolder
    have hf : ws.listed (top ++ folder) (.folder entries) =
        .folder (.ofEntries (ws.listedAll (top ++ folder) entries)) := by
      rw [listed]
    have hat := (at_listed hw hlisted).mpr ⟨_, hc, hf⟩
    exact List.mem_flatMap.mpr ⟨.enter folder _,
      (enter_mem_moves ordered).mpr ⟨folder, _, rfl, rfl, hat, hp⟩, by simp [Move.entered]⟩

variable {listing' : Listing} (hl' : ws.withoutDead.listing root = .ok listing')
include hl'

theorem HoldsFolder.mem_entered_withoutDead {folder : Place} :
    folder ∈ enteredBy (moves rejects [] listing') ↔ folder ∈ enteredBy (moves rejects [] listing) := by
  rw [holds.mem_entered hl, holds.withoutDead.mem_entered hl', holds.at?_eq]
  refine and_congr_right fun _ => ?_
  cases node.at? folder with
  | none => simp
  | some found =>
    cases hd : ws.isDead (top ++ folder) found with
    | false => simp [Option.filter, hd]
    | true =>
      obtain ⟨target, _, rfl, _⟩ := isDead_eq_true.mp hd
      simp [Option.filter, hd, Node.isFolder]

/-- Without dead links a walk comes across the same files in the same order, but for the dead links. -/
theorem HoldsFolder.offered_withoutDead : offeredBy (moves rejects [] listing') =
    (offeredBy (moves rejects [] listing)).filter fun file => !ws.deadAt (top ++ file) := by
  obtain ⟨_, hlisting, ordered, -⟩ := holds.listing_eq
  obtain rfl := Except.ok.inj (hlisting.symm.trans hl)
  obtain ⟨_, hlisting', ordered', -⟩ := holds.withoutDead.listing_eq
  obtain rfl := Except.ok.inj (hlisting'.symm.trans hl')
  refine eq_of_precedes (offered_ordered ordered' []) ((offered_ordered ordered []).filter _) ?_
  intro file
  rw [List.mem_filter, holds.mem_offered hl, holds.withoutDead.mem_offered hl', Bool.not_eq_true']
  constructor
  · rintro ⟨folder, name, rfl, hp, hfile⟩
    obtain ⟨hfile, live⟩ := (holds.fileAt_withoutDead _).mp hfile
    exact ⟨⟨folder, name, rfl, hp, hfile⟩, live⟩
  · rintro ⟨⟨folder, name, rfl, hp, hfile⟩, live⟩
    exact ⟨folder, name, rfl, hp, (holds.fileAt_withoutDead _).mpr ⟨hfile, live⟩⟩

end

end Workspace

end Polyglot.Files
