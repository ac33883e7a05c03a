import Polyglot.Proofs.TreeRuns

namespace Polyglot.Analysis

open Polyglot.Files

/-- Folders of which each comes behind those above it, if these were not read before. -/
def Downward (folders rest : List Place) : Prop :=
  ∀ before folder after, rest = before ++ folder :: after →
    ∀ other, StrictlyAbove other folder → other ∈ folders ∨ other ∈ before

theorem above_downward (folders : List Place) (place : Place) : Downward folders (above place) := by
  intro before folder after hsplit other ha
  right
  have hfolder : StrictlyAbove folder place := mem_above.mp (by simp [hsplit])
  have hother : other ∈ above place := by
    refine mem_above.mpr (strictlyAbove_iff.mpr ⟨ha.isPrefix.trans hfolder.isPrefix, ?_⟩)
    rintro rfl
    have := ha.length_lt
    have := hfolder.length_lt
    omega
  have hshorter := above_shorter place
  rw [hsplit] at hother hshorter
  rcases List.mem_append.mp hother with hm | hm
  · exact hm
  · -- What comes behind the folder has more names than it.
    exfalso
    have hlt := ha.length_lt
    rcases List.mem_cons.mp hm with rfl | hm
    · omega
    · have := (List.pairwise_cons.mp (List.pairwise_append.mp hshorter).2.1).1 other hm
      omega

theorem Downward.rest {folders more rest : List Place} {first : Place}
    (h : Downward folders (first :: rest)) (hs : folders ⊆ more) (hf : first ∈ more) :
    Downward more rest := by
  rintro before folder after rfl other ha
  rcases h (first :: before) folder after rfl other ha with hm | hm
  · exact .inl (hs hm)
  · rcases List.mem_cons.mp hm with rfl | hm
    · exact .inl hf
    · exact .inr hm

theorem Downward.first {folders rest : List Place} {first : Place}
    (h : Downward folders (first :: rest)) :
    ∀ other, StrictlyAbove other first → other ∈ folders := by
  intro other ha
  simpa using h [] first rest rfl other ha

theorem foldersAbove_eq (place : Place) : foldersAbove place = (above place).map relText := by
  rw [foldersAbove, above, List.map_map]
  rfl

theorem isFolder_above {node : Node} {place folder : Place} (hp : (node.content? place).isSome = true)
    (ha : StrictlyAbove folder place) :
    ∃ found, node.at? folder = some found ∧ found.isFolder = true := by
  obtain ⟨content, hc⟩ := Option.isSome_iff_exists.mp hp
  have hat := Node.content?_eq_some_iff.mp hc
  obtain ⟨rest, hr, rfl⟩ := ha
  obtain ⟨name, names, rfl⟩ := List.exists_cons_of_ne_nil hr
  rw [Node.at?_append] at hat
  obtain ⟨found, hf, hbelow⟩ := Option.bind_eq_some_iff.mp hat
  obtain ⟨child, hchild, _⟩ := Option.bind_eq_some_iff.mp hbelow
  obtain ⟨entries, rfl⟩ := Node.folder_of_child? hchild
  exact ⟨_, hf, rfl⟩

section
variable (ws : Workspace) (root : Path) (catalog : Catalog) (options : Options) (node : Node)
  (base : RuleSet)

/-- What comes of going through folders: whether none of them is left out, unless one before that
cannot be read. -/
def passage : List Place → Except ResolveError Bool
  | [] => .ok true
  | folder :: rest =>
    if folder ≠ [] ∧ leavesOut catalog options node base true folder = true then .ok false
    else match (reading ws root catalog options folder).fault with
      | some refusal => .error (.refused refusal)
      | none => passage rest

/-- Whether a file that is asked for by name is taken up, unless a folder above it cannot be read. -/
def admission (place : Place) : Except ResolveError Bool :=
  (passage ws root catalog options node base (above place)).map
    (· && !leavesOut catalog options node base false place)

/-- What is found at a place, if nothing but that is asked for. -/
def foundAt (place : Place) : Except ResolveError (List Found) :=
  if (node.content? place).isSome then
    (admission ws (Workspace.absolute ws.here) catalog options node base place).map fun taken =>
      if taken then [.file (⟨"", place⟩ : Path).text (relText place) ⟨"", place⟩] else []
  else (resolveTree ws catalog options ⟨"", place⟩).2.map (·.map .inTree)

/-- A resolver has read some folders, and with each of them those above. -/
structure ReadsDown (folders : List Place) (resolver : Resolver) : Prop
    extends Reads root catalog options (declared catalog options node) base folders resolver where
  downward : ∀ folder ∈ folders, ∀ other, other <+: folder → other ∈ folders
  readable : ∀ folder ∈ folders, (reading ws root catalog options folder).fault = none

end

variable {ws : Workspace} {root : Path} {catalog : Catalog} {options : Options} {node : Node}
  {base : RuleSet} {folders : List Place} {resolver : Resolver}

theorem passage_ok {rest : List Place} {reached : Bool}
    (h : passage ws root catalog options node base rest = .ok reached) :
    reached = true ↔ ∀ folder ∈ rest, folder ≠ [] →
      leavesOut catalog options node base true folder = false := by
  induction rest with
  | nil =>
    cases h
    simp
  | cons folder rest ih =>
    rw [passage] at h
    split at h
    · rename_i hout
      cases h
      simp only [Bool.false_eq_true, false_iff]
      intro hall
      rw [hall folder (by simp) hout.1] at hout
      cases hout.2
    · rename_i hkept
      cases hf : (reading ws root catalog options folder).fault with
      | some refusal => simp [hf] at h
      | none =>
        rw [hf] at h
        rw [ih h, List.forall_mem_cons]
        refine ⟨fun hrest => ⟨fun hne => ?_, hrest⟩, fun hboth => hboth.2⟩
        exact (Bool.not_eq_true _).mp fun hout => hkept ⟨hne, hout⟩

theorem passage_error (holds : ws.HoldsTree root node) {rest : List Place}
    (isFolder : ∀ folder ∈ rest, ∃ found, node.at? folder = some found ∧ found.isFolder = true)
    {error : ResolveError} (h : passage ws root catalog options node base rest = .error error) :
    ∃ refusal, error = .refused refusal ∧ Unaskable root node refusal := by
  induction rest with
  | nil => cases h
  | cons folder rest ih =>
    rw [passage] at h
    split at h
    · cases h
    · cases hfault : (reading ws root catalog options folder).fault with
      | some refusal =>
        rw [hfault] at h
        cases h
        obtain ⟨found, hf, hfolder⟩ := isFolder folder (by simp)
        exact ⟨refusal, rfl, reading_refused holds hf hfolder hfault⟩
      | none =>
        rw [hfault] at h
        exact ih (fun other ho => isFolder other (List.mem_cons_of_mem _ ho)) h

theorem admission_ok {place : Place} (hp : (node.content? place).isSome = true) {taken : Bool}
    (h : admission ws root catalog options node base place = .ok taken) :
    taken = true ↔ Admitted catalog options node base place := by
  rw [admission] at h
  cases hway : passage ws root catalog options node base (above place) with
  | error e => simp [hway, Except.map] at h
  | ok reached =>
    simp only [hway, Except.map, Except.ok.injEq] at h
    rw [← h, Bool.and_eq_true, passage_ok hway, Bool.not_eq_true']
    constructor
    · rintro ⟨way, kept⟩
      exact ⟨hp, kept, fun folder hne ha => way folder (mem_above.mpr ha) hne⟩
    · rintro ⟨_, kept, way⟩
      exact ⟨fun folder hm hne => way folder hne (mem_above.mp hm), kept⟩

theorem admission_error (holds : ws.HoldsTree root node) {place : Place}
    (hp : (node.content? place).isSome = true) {error : ResolveError}
    (h : admission ws root catalog options node base place = .error error) :
    ∃ refusal, error = .refused refusal ∧ Unaskable root node refusal := by
  rw [admission] at h
  cases hway : passage ws root catalog options node base (above place) with
  | ok reached => simp [hway, Except.map] at h
  | error e =>
    simp only [hway, Except.map, Except.error.injEq] at h
    exact h ▸ passage_error holds (fun folder hm => isFolder_above hp (mem_above.mp hm)) hway

theorem ReadsDown.load (h : ReadsDown ws root catalog options node base folders resolver)
    (holds : ws.HoldsTree root node) {folder : Place} {found : Node}
    (hf : node.at? folder = some found) (isFolder : found.isFolder = true)
    (covered : ∀ other, StrictlyAbove other folder → other ∈ folders)
    (kept : folder ≠ [] → leavesOut catalog options node base true folder = false) :
    (resolver.load ws (relText folder)).fault = (reading ws root catalog options folder).fault ∧
      ((reading ws root catalog options folder).fault = none → ∃ more, folders ⊆ more ∧ folder ∈ more ∧
        ReadsDown ws root catalog options node base more
          (resolver.load ws (relText folder)).resolver) := by
  have hnames := (holds.wellNamed.at? hf).1
  by_cases hm : folder ∈ folders
  · rw [h.load_again hm]
    exact ⟨(h.readable folder hm).symm, fun _ => ⟨folders, fun _ ho => ho, hm, h⟩⟩
  · have hfresh : ∀ other ∈ folders, ¬ folder <+: other :=
      fun other ho hp => hm (h.downward other ho folder hp)
    have hopen : folder ≠ [] → resolver.ignores (ruleText true folder) = false := by
      intro hne
      rw [h.ignores_eq hne hnames covered true]
      exact kept hne
    obtain ⟨hload, hreads⟩ := h.toReads.load hnames hfresh hopen
      fun hnone => reading_declared holds hf isFolder hnone
    refine ⟨hload, fun hfault => ⟨folders ++ [folder], by simp, by simp, hreads hfault, ?_, ?_⟩⟩
    · intro other ho above hp
      rcases List.mem_append.mp ho with ho | ho
      · exact List.mem_append_left _ (h.downward other ho above hp)
      · rw [List.mem_singleton.mp ho] at hp
        by_cases he : above = folder
        · simp [he]
        · exact List.mem_append_left _ (covered above (strictlyAbove_iff.mpr ⟨hp, he⟩))
    · intro other ho
      rcases List.mem_append.mp ho with ho | ho
      · exact h.readable other ho
      · rw [List.mem_singleton.mp ho]
        exact hfault

theorem ReadsDown.loadAbove (h : ReadsDown ws root catalog options node base folders resolver)
    (holds : ws.HoldsTree root node) (path : String) {rest : List Place}
    (isFolder : ∀ folder ∈ rest, ∃ found, node.at? folder = some found ∧ found.isFolder = true)
    (downward : Downward folders rest) :
    match passage ws root catalog options node base rest with
    | .error e => (loadAbove ws path (rest.map relText) resolver).2 = .error e
    | .ok reached => ∃ last more,
        (loadAbove ws path (rest.map relText) resolver).2 = .ok (last, reached) ∧
        folders ⊆ more ∧ ReadsDown ws root catalog options node base more last ∧
        (reached = true → rest ⊆ more) := by
  induction rest generalizing folders resolver with
  | nil => exact ⟨resolver, folders, rfl, fun _ ho => ho, h, by simp⟩
  | cons folder rest ih =>
    obtain ⟨found, hf, hfolder⟩ := isFolder folder (by simp)
    have hnames := (holds.wellNamed.at? hf).1
    have hout : (relText folder != "" && resolver.ignores (relText folder ++ "/")) = true ↔
        folder ≠ [] ∧ leavesOut catalog options node base true folder = true := by
      by_cases hne : folder = []
      · simp [hne]
      · rw [leavesOut, rulesAbove, ← h.ignores_eq hne hnames downward.first true, ruleText_folder]
        simp [hne, relText_ne_empty hne hnames]
    rw [List.map_cons, Analysis.loadAbove, passage]
    by_cases hleft : folder ≠ [] ∧ leavesOut catalog options node base true folder = true
    · rw [if_pos hleft, if_pos (hout.mpr hleft)]
      exact ⟨resolver, folders, rfl, fun _ ho => ho, h, by simp⟩
    · have hkept : folder ≠ [] → leavesOut catalog options node base true folder = false :=
        fun hne => (Bool.not_eq_true _).mp fun ho => hleft ⟨hne, ho⟩
      obtain ⟨hload, hreads⟩ := h.load holds hf hfolder downward.first hkept
      rw [if_neg hleft, if_neg (hout.not.mpr hleft)]
      simp only [hload]
      cases hfault : (reading ws root catalog options folder).fault with
      | some fault => rfl
      | none =>
        obtain ⟨more, hs, hm, hmore⟩ := hreads hfault
        have hrest := ih hmore (fun other ho => isFolder other (List.mem_cons_of_mem _ ho))
          (downward.rest hs hm)
        cases hp : passage ws root catalog options node base rest with
        | error e =>
          rw [hp] at hrest
          exact hrest
        | ok reached =>
          rw [hp] at hrest
          obtain ⟨last, more', hok, hs', hlast, hall⟩ := hrest
          refine ⟨last, more', hok, fun _ ho => hs' (hs ho), hlast, fun hr => ?_⟩
          exact List.cons_subset.mpr ⟨hs' hm, hall hr⟩

theorem locate_at (stands : ws.StandsIn node) {place : Place} {found : Node}
    (hf : node.at? place = some found) : ws.locate ⟨"", place⟩ = .ok (ws.here ++ place) := by
  have hfollow : ws.follow Workspace.linkLimit ws.here place = .ok (ws.here ++ place) :=
    Workspace.follow_at? stands.at_here (stands.wellNamed.at? hf).1 hf
      (Node.not_link_of_linkFree (Node.linkFree_at? stands.linkFree hf))
  rw [Workspace.locate, if_pos rfl, hfollow]
  rfl

theorem locate_file (stands : ws.StandsIn node) {place : Place}
    (hp : (node.content? place).isSome = true) :
    ws.locate ⟨"", place⟩ = .ok (ws.here ++ place) := by
  obtain ⟨content, hc⟩ := Option.isSome_iff_exists.mp hp
  exact locate_at stands (Node.content?_eq_some_iff.mp hc)

theorem holdsTree_at (stands : ws.StandsIn node) {place : Place} {found : Node}
    (hf : node.at? place = some found) (isFolder : found.isFolder = true) :
    ws.HoldsTree ⟨"", place⟩ found := by
  refine ⟨⟨ws.here ++ place, locate_at stands hf, ?_⟩, isFolder, Node.linkFree_at? stands.linkFree hf,
    (stands.wellNamed.at? hf).2⟩
  rw [Node.at?_append, stands.at_here]
  exact hf

/-- What becomes of a file: it is taken up if no folder above it is ignored, nor the file itself. -/
theorem resolveFile_eq {place : Place} {path : Path} (hl : ws.locate path = .ok (ws.here ++ place))
    (resolver : Resolver) :
    (resolveFile ws ws.here path resolver).2 =
      (loadAbove ws path.text ((above place).map relText) resolver).2.map fun (last, reached) =>
        (last, if reached && !last.ignores (relText place) then some (relText place) else none) := by
  simp only [resolveFile, hl, List.drop_left, foldersAbove_eq]
  rcases loadAbove ws path.text ((above place).map relText) resolver with
    ⟨journal, e | ⟨last, _ | _⟩⟩
  · rfl
  · rfl
  · change (if last.ignores (relText place) = true then _ else _ : Journal × Except _ _).2 = _
    cases hi : last.ignores (relText place) with
    | true => simp [Except.map, hi]
    | false =>
      simp only [Except.map, hi]
      rfl

/-- A file that is asked for by name comes to the same whatever was read before, and if it is taken up
the folders above it have been read by then. -/
theorem ReadsDown.resolveFile
    (h : ReadsDown ws (Workspace.absolute ws.here) catalog options node base folders resolver)
    (stands : ws.StandsIn node) {place : Place} (hp : (node.content? place).isSome = true) :
    match admission ws (Workspace.absolute ws.here) catalog options node base place with
    | .error e => (resolveFile ws ws.here ⟨"", place⟩ resolver).2 = .error e
    | .ok taken => ∃ last more, (resolveFile ws ws.here ⟨"", place⟩ resolver).2 =
          .ok (last, if taken then some (relText place) else none) ∧
        folders ⊆ more ∧
        ReadsDown ws (Workspace.absolute ws.here) catalog options node base more last ∧
        (taken = true → above place ⊆ more) := by
  have hload := h.loadAbove stands.holdsTree_absolute (⟨"", place⟩ : Path).text
    (fun folder hm => isFolder_above hp (mem_above.mp hm)) (above_downward folders place)
  rw [resolveFile_eq (locate_file stands hp), admission]
  cases hway : passage ws (Workspace.absolute ws.here) catalog options node base (above place) with
  | error e =>
    rw [hway] at hload
    simp only [hload, Except.map]
  | ok reached =>
    rw [hway] at hload
    obtain ⟨last, more, hok, hs, hreads, hall⟩ := hload
    have hkept : reached = true → last.ignores (relText place) =
        leavesOut catalog options node base false place := by
      intro hr
      have hsame := hreads.ignores_eq (content?_ne_nil stands.holdsTree hp)
        (content?_names stands.holdsTree hp) (fun folder ha => hall hr (mem_above.mpr ha)) false
      simpa [leavesOut, rulesAbove] using hsame
    refine ⟨last, more, ?_, hs, hreads, fun ht => hall (Bool.and_eq_true _ _ ▸ ht).1⟩
    rw [hok, Except.map]
    cases reached with
    | false => rfl
    | true => simp only [hkept rfl]

variable {places : List Place} {shared : Option Resolver}

theorem node?_at (stands : ws.StandsIn node) {place : Place} {found : Node}
    (hp : node.at? place = some found) : ws.node? ⟨"", place⟩ = .ok found :=
  stands.holdsTree.node?_below hp

theorem hasFolder_at (stands : ws.StandsIn node) {place : Place} {found : Node}
    (hp : node.at? place = some found) : ws.hasFolder ⟨"", place⟩ = .ok found.isFolder := by
  rw [Workspace.hasFolder, node?_at stands hp]

theorem hasFolder_eq (stands : ws.StandsIn node) {place : Place} (hp : (node.at? place).isSome = true) :
    ws.hasFolder ⟨"", place⟩ = .ok (!(node.content? place).isSome) := by
  obtain ⟨found, hf⟩ := Option.isSome_iff_exists.mp hp
  have hlink := Node.not_link_of_linkFree (Node.linkFree_at? stands.linkFree hf)
  rw [hasFolder_at stands hf, Node.content?, hf]
  cases found with
  | file content => rfl
  | folder entries => rfl
  | link target => exact absurd rfl (hlink target)

/-- The first input is resolved as if it was alone, and leaves behind what was read for it. -/
theorem resolveEach_step (stands : ws.StandsIn node) {place : Place}
    (there : (node.at? place).isSome = true)
    (ready : (node.content? place).isSome = true → shared.isSome = true)
    (h : ∀ resolver ∈ shared,
      ReadsDown ws (Workspace.absolute ws.here) catalog options node base folders resolver)
    (rest : List Path) :
    match foundAt ws catalog options node base place with
    | .error e => (resolveEach ws catalog options ws.here (⟨"", place⟩ :: rest) shared).2 = .error e
    | .ok found => ∃ next more,
        (resolveEach ws catalog options ws.here (⟨"", place⟩ :: rest) shared).2 =
          (resolveEach ws catalog options ws.here rest next).2.map
            (fun others => (found ++ others.1, others.2)) ∧
        folders ⊆ more ∧ next.isSome = shared.isSome ∧
        (∀ resolver ∈ next,
          ReadsDown ws (Workspace.absolute ws.here) catalog options node base more resolver) ∧
        (Admitted catalog options node base place → above place ⊆ more) := by
  have hfolder := hasFolder_eq stands there
  by_cases hp : (node.content? place).isSome = true
  · obtain ⟨resolver, rfl⟩ := Option.isSome_iff_exists.mp (ready hp)
    have hfile := (h resolver rfl).resolveFile stands hp
    rw [resolveEach_named (by simp [hfolder, hp]), foundAt, if_pos hp]
    cases ha : admission ws (Workspace.absolute ws.here) catalog options node base place with
    | error e =>
      rw [ha] at hfile
      rcases hr : resolveFile ws ws.here ⟨"", place⟩ resolver with ⟨journal, outcome⟩
      rw [hr] at hfile
      cases hfile
      simp only [hr, Except.map]
    | ok taken =>
      rw [ha] at hfile
      obtain ⟨last, more, hok, hs, hreads, hall⟩ := hfile
      rcases hr : resolveFile ws ws.here ⟨"", place⟩ resolver with ⟨journal, outcome⟩
      rw [hr] at hok
      cases hok
      refine ⟨some last, more, ?_, hs, rfl, ?_, fun admitted => hall ?_⟩
      · simp only [hr]
        cases taken <;> rfl
      · rintro _ ⟨⟩
        exact hreads
      · exact (admission_ok hp ha).mpr admitted
  -- A folder is walked with rules of its own, and nothing of them is left behind.
  · rw [resolveEach_folder (by simp [hfolder, hp]), foundAt, if_neg hp]
    rcases resolveTree ws catalog options ⟨"", place⟩ with ⟨journal, outcome⟩
    cases outcome with
    | error e => rfl
    | ok entries =>
      exact ⟨shared, folders, rfl, fun _ ho => ho, rfl, h, fun hadmitted => absurd hadmitted.file hp⟩

/-- Inputs are resolved one after the other as each is resolved alone, up to the first that cannot be
had, and the folders above the files that are taken up have been read in the end. -/
theorem resolveEach_found (stands : ws.StandsIn node)
    (exist : ∀ place ∈ places, (node.at? place).isSome = true)
    (ready : ∀ place ∈ places, (node.content? place).isSome = true → shared.isSome = true)
    (h : ∀ resolver ∈ shared,
      ReadsDown ws (Workspace.absolute ws.here) catalog options node base folders resolver) :
    match places.mapM (foundAt ws catalog options node base) with
    | .error e =>
      (resolveEach ws catalog options ws.here (places.map (⟨"", ·⟩)) shared).2 = .error e
    | .ok each => ∃ last more,
        (resolveEach ws catalog options ws.here (places.map (⟨"", ·⟩)) shared).2 =
          .ok (each.flatten, last) ∧
        folders ⊆ more ∧ last.isSome = shared.isSome ∧
        (∀ resolver ∈ last,
          ReadsDown ws (Workspace.absolute ws.here) catalog options node base more resolver) ∧
        ∀ place ∈ places, Admitted catalog options node base place → above place ⊆ more := by
  induction places generalizing folders shared with
  | nil => exact ⟨shared, folders, rfl, fun _ ho => ho, rfl, h, by simp⟩
  | cons place rest ih =>
    have hstep := resolveEach_step stands (exist place (by simp)) (ready place (by simp)) h
      (rest.map (⟨"", ·⟩))
    rw [List.map_cons, List.mapM_cons]
    cases hf : foundAt ws catalog options node base place with
    | error e =>
      rw [hf] at hstep
      exact hstep
    | ok found =>
      rw [hf] at hstep
      obtain ⟨next, more, hnext, hs, hsome, hreads, hall⟩ := hstep
      have hrest := ih (fun other ho => exist other (List.mem_cons_of_mem _ ho))
        (fun other ho hp => hsome ▸ ready other (List.mem_cons_of_mem _ ho) hp) hreads
      rw [hnext]
      cases hr : rest.mapM (foundAt ws catalog options node base) with
      | error e =>
        rw [hr] at hrest
        simp only [bind, Except.bind, hrest, Except.map]
      | ok each =>
        rw [hr] at hrest
        obtain ⟨last, more', hok, hs', hsome', hlast, hall'⟩ := hrest
        refine ⟨last, more', ?_, fun _ ho => hs' (hs ho), hsome'.trans hsome, hlast, ?_⟩
        · rw [hok]
          rfl
        · intro other ho hadmitted
          rcases List.mem_cons.mp ho with rfl | ho
          · exact fun _ hm => hs' (hall hadmitted hm)
          · exact hall' other ho hadmitted

theorem firstMissing?_existing (stands : ws.StandsIn node)
    (exist : ∀ place ∈ places, (node.at? place).isSome = true) :
    firstMissing? ws (places.map (⟨"", ·⟩)) = none := by
  induction places with
  | nil => rfl
  | cons place rest ih =>
    obtain ⟨found, hf⟩ := Option.isSome_iff_exists.mp (exist place (by simp))
    have hhas : ws.has ⟨"", place⟩ = .ok true := by rw [Workspace.has, node?_at stands hf]
    simp only [List.map_cons, firstMissing?, hhas]
    exact ih fun other ho => exist other (List.mem_cons_of_mem _ ho)

theorem fileRoot_files (stands : ws.StandsIn node)
    (files : ∀ place ∈ places, (node.content? place).isSome = true) :
    fileRoot ws.here ((places.map (⟨"", ·⟩)).filterMap fun path => (ws.locate path).toOption) =
      ws.here := by
  have hlocated : ((places.map (⟨"", ·⟩ : Place → Path)).filterMap
      fun path => (ws.locate path).toOption) = places.map (ws.here ++ ·) := by
    rw [List.filterMap_map, ← List.filterMap_eq_map]
    refine List.filterMap_congr fun place hp => ?_
    simp [locate_file stands (files place hp), Except.toOption]
  rw [hlocated, fileRoot, if_pos]
  simp

/-- The resolver that files share at first, if there are any. -/
def sharedAtFirst (ws : Workspace) (catalog : Catalog) (options : Options) (node : Node)
    (places : List Place) : Except PatternError (Option Resolver) :=
  if (places.filter fun place => (node.content? place).isSome).isEmpty then .ok none
  else (Resolver.start (Workspace.absolute ws.here) catalog options).2.map some

/-- The entries of inputs are what is found of them, the files each with the rules that are there in
the end. -/
theorem resolveInputs_eq (stands : ws.StandsIn node)
    (exist : ∀ place ∈ places, (node.at? place).isSome = true) :
    (resolveInputs ws catalog options (places.map (⟨"", ·⟩))).2 =
      ((sharedAtFirst ws catalog options node places).mapError .pattern).bind fun shared =>
        (resolveEach ws catalog options ws.here (places.map (⟨"", ·⟩)) shared).2.map
          fun (found, last) =>
            firstOfEachKey (found.map (Found.entry ((last.map Resolver.rules).getD {}))) := by
  have hfiles (asks : Path → Bool)
      (ha : ∀ place ∈ places, asks ⟨"", place⟩ = (node.content? place).isSome) :
      (places.map (⟨"", ·⟩)).filter asks =
        (places.filter fun place => (node.content? place).isSome).map (⟨"", ·⟩) := by
    rw [List.filter_map]
    exact congrArg _ (List.filter_congr ha)
  have hroot : fileRoot ws.here (((places.filter fun place => (node.content? place).isSome).map
      (⟨"", ·⟩)).filterMap fun path => (ws.locate path).toOption) = ws.here :=
    fileRoot_files stands fun place hm => (List.mem_filter.mp hm).2
  simp only [resolveInputs, firstMissing?_existing stands exist]
  rw [hfiles _ fun place hm => by simp [hasFolder_eq stands (exist place hm)], hroot,
    List.isEmpty_map, sharedAtFirst]
  split_ifs
  · simp only [Except.mapError, Except.bind]
    rcases resolveEach ws catalog options ws.here (places.map (⟨"", ·⟩)) none with ⟨journal, outcome⟩
    cases outcome <;> rfl
  · cases hs : (Resolver.start (Workspace.absolute ws.here) catalog options).2 with
    | error e => rfl
    | ok resolver =>
      simp only [Except.map, Except.mapError, Except.bind]
      rcases resolveEach ws catalog options ws.here (places.map (⟨"", ·⟩)) (some resolver)
        with ⟨journal, outcome⟩
      cases outcome <;> rfl

theorem sharedAtFirst_of_builtin (hb : (Resolver.builtin catalog options).2 = .ok base)
    (node : Node) (places : List Place) :
    ∃ shared, sharedAtFirst ws catalog options node places = .ok shared ∧
      (∀ place ∈ places, (node.content? place).isSome = true → shared.isSome = true) ∧
      ∀ resolver ∈ shared,
        ReadsDown ws (Workspace.absolute ws.here) catalog options node base [] resolver := by
  rw [sharedAtFirst]
  split_ifs with hempty
  · refine ⟨none, rfl, fun place hm hp => ?_, by simp⟩
    have hin : place ∈ places.filter fun place => (node.content? place).isSome :=
      List.mem_filter.mpr ⟨hm, hp⟩
    rw [List.isEmpty_iff.mp hempty] at hin
    cases hin
  · rw [start_of_builtin _ hb]
    refine ⟨_, rfl, fun _ _ _ => rfl, ?_⟩
    rintro _ ⟨⟩
    exact ⟨Reads.start _ catalog options _ base, by simp, by simp⟩

/-- The entries of inputs are what each of them comes to alone, one after the other, unless one of
them cannot be had alone. -/
theorem resolveInputs_found (stands : ws.StandsIn node)
    (hb : (Resolver.builtin catalog options).2 = .ok base)
    (exist : ∀ place ∈ places, (node.at? place).isSome = true) :
    match places.mapM (foundAt ws catalog options node base) with
    | .error e => (resolveInputs ws catalog options (places.map (⟨"", ·⟩))).2 = .error e
    | .ok each => ∃ rules, (resolveInputs ws catalog options (places.map (⟨"", ·⟩))).2 =
          .ok (firstOfEachKey (each.flatten.map (Found.entry rules))) ∧
        ∀ place ∈ places, Admitted catalog options node base place →
          rules.on (relText place) =
            (rulesAbove catalog options node base place).on (relText place) := by
  obtain ⟨shared, hshared, ready, hreads⟩ := sharedAtFirst_of_builtin hb node places
  have hfound := resolveEach_found stands exist ready hreads
  rw [resolveInputs_eq stands exist, hshared]
  simp only [Except.mapError, Except.bind]
  cases hm : places.mapM (foundAt ws catalog options node base) with
  | error e =>
    rw [hm] at hfound
    simp only [hfound, Except.map]
  | ok each =>
    rw [hm] at hfound
    obtain ⟨last, more, hok, _, hsome, hlast, hall⟩ := hfound
    refine ⟨(last.map Resolver.rules).getD {}, by simp only [hok, Except.map], fun place hp ha => ?_⟩
    obtain ⟨resolver, rfl⟩ := Option.isSome_iff_exists.mp (hsome.trans (ready place hp ha.file))
    have hon := (hlast resolver rfl).on_eq (content?_ne_nil stands.holdsTree ha.file)
      (content?_names stands.holdsTree ha.file) (fun folder hf => hall place hp ha (mem_above.mpr hf))
      false
    simpa [rulesAbove] using hon

theorem resolveInputs_fault (stands : ws.StandsIn node) {error : PatternError}
    (hb : (Resolver.builtin catalog options).2 = .error error)
    (exist : ∀ place ∈ places, (node.at? place).isSome = true) (hne : places ≠ []) :
    (resolveInputs ws catalog options (places.map (⟨"", ·⟩))).2 = .error (.pattern error) := by
  rw [resolveInputs_eq stands exist, sharedAtFirst]
  split_ifs with hempty
  · obtain ⟨place, rest, rfl⟩ := List.exists_cons_of_ne_nil hne
    have hp : (node.content? place).isSome = false := by
      simpa using List.filter_eq_nil_iff.mp (List.isEmpty_iff.mp hempty) place (by simp)
    have hfolder : ws.hasFolder ⟨"", place⟩ = .ok true := by
      rw [hasFolder_eq stands (exist place (by simp)), hp]
      rfl
    have htree : (resolveTree ws catalog options ⟨"", place⟩).2 = .error (.pattern error) :=
      resolveTree_of_fault hb
    rw [List.map_cons]
    simp only [Except.mapError, Except.bind, resolveEach_folder hfolder]
    rcases hr : resolveTree ws catalog options ⟨"", place⟩ with ⟨journal, outcome⟩
    rw [hr] at htree
    cases htree
    rfl
  · rw [Resolver.start]
    rcases hbuiltin : Resolver.builtin catalog options with ⟨journal, outcome⟩
    rw [hbuiltin] at hb
    cases hb
    rfl

/-- What is found of the files of which some are admitted. -/
def foundOf (admitted : List Place) : List Found :=
  admitted.map fun place => .file (⟨"", place⟩ : Path).text (relText place) ⟨"", place⟩

theorem foundOf_entries (admitted : List Place) (rules : RuleSet) :
    (foundOf admitted).map (Found.entry rules) = admitted.map (entryAt ⟨"", []⟩ rules) := by
  rw [foundOf, List.map_map]
  rfl

theorem foundAt_file (stands : ws.StandsIn node) {place : Place}
    (hp : (node.content? place).isSome = true) :
    foundAt ws catalog options node base place =
        .ok (foundOf ([place].filter (Admitted catalog options node base ·))) ∨
      ∃ refusal, foundAt ws catalog options node base place = .error (.refused refusal) ∧
        Unaskable (Workspace.absolute ws.here) node refusal := by
  rw [foundAt, if_pos hp]
  cases ha : admission ws (Workspace.absolute ws.here) catalog options node base place with
  | error e =>
    obtain ⟨refusal, rfl, hlong⟩ := admission_error stands.holdsTree_absolute hp ha
    exact .inr ⟨refusal, rfl, hlong⟩
  | ok taken =>
    left
    by_cases hadmitted : Admitted catalog options node base place
    · simp [Except.map, foundOf, hadmitted, (admission_ok hp ha).mpr hadmitted]
    · have hnot : taken = false := (Bool.not_eq_true _).mp (mt (admission_ok hp ha).mp hadmitted)
      simp [Except.map, foundOf, hadmitted, hnot]

theorem foundAt_files (stands : ws.StandsIn node) (catalog : Catalog) (options : Options)
    (base : RuleSet) (files : ∀ place ∈ places, (node.content? place).isSome = true) :
    match places.mapM (foundAt ws catalog options node base) with
    | .error e => ∃ refusal, e = .refused refusal ∧ Unaskable (Workspace.absolute ws.here) node refusal
    | .ok each => each.flatten = foundOf (places.filter (Admitted catalog options node base ·)) := by
  induction places with
  | nil => rfl
  | cons place rest ih =>
    have hrest := ih fun other ho => files other (List.mem_cons_of_mem _ ho)
    rw [List.mapM_cons]
    rcases foundAt_file stands (files place (by simp)) with hf | ⟨refusal, hf, hlong⟩
    · rw [hf]
      cases hm : rest.mapM (foundAt ws catalog options node base) with
      | error e =>
        rw [hm] at hrest
        exact hrest
      | ok each =>
        rw [hm] at hrest
        change (foundOf ([place].filter (Admitted catalog options node base ·)) :: each).flatten =
          foundOf (([place] ++ rest).filter (Admitted catalog options node base ·))
        rw [List.flatten_cons, hrest, List.filter_append, foundOf, foundOf, foundOf, List.map_append]
    · rw [hf]
      exact ⟨refusal, rfl, hlong⟩

/-- The entries of files that are asked for by name are those of the admitted ones, in the order in
which they are first mentioned, unless a path is too long. -/
theorem resolveInputs_files (stands : ws.StandsIn node)
    (hb : (Resolver.builtin catalog options).2 = .ok base)
    (files : ∀ place ∈ places, (node.content? place).isSome = true) :
    (∃ rules, (resolveInputs ws catalog options (places.map (⟨"", ·⟩))).2 =
          .ok ((places.eraseDups.filter (Admitted catalog options node base ·)).map
            (entryAt ⟨"", []⟩ rules)) ∧
        ∀ place ∈ places, Admitted catalog options node base place →
          rules.on (relText place) =
            (rulesAbove catalog options node base place).on (relText place)) ∨
      ∃ refusal, (resolveInputs ws catalog options (places.map (⟨"", ·⟩))).2 =
          .error (.refused refusal) ∧ Unaskable (Workspace.absolute ws.here) node refusal := by
  have exist : ∀ place ∈ places, (node.at? place).isSome = true := by
    intro place hm
    obtain ⟨content, hc⟩ := Option.isSome_iff_exists.mp (files place hm)
    rw [Node.content?_eq_some_iff.mp hc]
    rfl
  have hfound := resolveInputs_found stands hb exist
  have hfiles := foundAt_files stands catalog options base files
  cases hm : places.mapM (foundAt ws catalog options node base) with
  | error e =>
    rw [hm] at hfound hfiles
    obtain ⟨refusal, rfl, hlong⟩ := hfiles
    exact .inr ⟨refusal, hfound, hlong⟩
  | ok each =>
    rw [hm] at hfound hfiles
    obtain ⟨rules, hok, hon⟩ := hfound
    have hadmitted : ∀ place ∈ places.filter (Admitted catalog options node base ·),
        (node.content? place).isSome = true :=
      fun place hp => files place (List.mem_filter.mp hp).1
    refine .inl ⟨rules, ?_, hon⟩
    rw [hok, hfiles, foundOf_entries,
      firstOfEachKey_entryAt _ _ (content?_named stands.holdsTree hadmitted), eraseDups_filter]

end Polyglot.Analysis
