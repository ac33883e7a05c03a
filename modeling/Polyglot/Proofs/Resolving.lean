import Polyglot.Analysis.Entry
import Polyglot.Proofs.Listings
import Polyglot.Proofs.Loading

namespace Polyglot.Analysis

open Polyglot.Files

section
variable (catalog : Catalog) (options : Options) (node : Node) (base : RuleSet)

/-- Whether a place is left out by the rules of the options and of the folders above it. -/
def leavesOut (isFolder : Bool) (place : Place) : Bool :=
  ((rulesAbove catalog options node base place).exclusion? (ruleText isFolder place)).isSome

/-- A file of a tree is taken up if neither it nor a folder on the way to it is left out. -/
structure Admitted (place : Place) : Prop where
  file : (node.content? place).isSome = true
  kept : leavesOut catalog options node base false place = false
  way : ∀ folder, folder ≠ [] → StrictlyAbove folder place →
    leavesOut catalog options node base true folder = false

/-- A folder of a tree is gone into if neither it nor a folder above it is left out. -/
structure GoneInto (folder : Place) : Prop where
  isFolder : ∃ found, node.at? folder = some found ∧ found.isFolder = true
  way : ∀ other, other ≠ [] → other <+: folder →
    leavesOut catalog options node base true other = false

instance (place : Place) : Decidable (Admitted catalog options node base place) :=
  decidable_of_iff ((node.content? place).isSome = true ∧
      leavesOut catalog options node base false place = false ∧
      ∀ folder ∈ above place, folder ≠ [] → leavesOut catalog options node base true folder = false) <| by
    constructor
    · rintro ⟨file, kept, way⟩
      exact ⟨file, kept, fun folder hne ha => way folder (mem_above.mpr ha) hne⟩
    · rintro ⟨file, kept, way⟩
      exact ⟨file, kept, fun folder ha hne => way folder hne (mem_above.mp ha)⟩

end

/-- What is reported of a file at a place below a root. -/
def entryAt (root : Path) (rules : RuleSet) (place : Place) : Entry :=
  let path := root ++ (⟨"", place⟩ : Path)
  ⟨path.text, relText place, path, rules⟩

section
variable (own : Place → RuleSet) (base : RuleSet)

/-- Whether a place is left out by some rules and by those that the folders above it hold. -/
def excluded (isFolder : Bool) (place : Place) : Bool :=
  ((RuleSet.gather own base (above place)).exclusion? (ruleText isFolder place)).isSome

/-- The moves of a walk that goes by what folders hold. -/
def tour (listing : Listing) : List Move := moves (excluded own base true) [] listing

/-- The files that such a walk comes across and keeps. -/
def keptBy (listing : Listing) : List Place :=
  (offeredBy (tour own base listing)).filter fun place => !excluded own base false place

end

variable {ws : Workspace} {root : Path} {catalog : Catalog} {options : Options}
  {own : Place → RuleSet} {base : RuleSet}

/-- A folder is gone into unless it is left out: names of version control are left out anyway. -/
theorem goesInto_eq {front : Place} {name : String} (names : ∀ n ∈ front ++ [name], IsName n) :
    goesInto (excluded own base true) front name = !excluded own base true (front ++ [name]) := by
  rw [goesInto, excluded, RuleSet.isSome_exclusion? _ (by simp) names]
  cases hv : isVersionControl name <;> simp [hv]

/-- Why the first of some folders cannot be read whose files of rules cannot. -/
def firstRefusal? (ws : Workspace) (root : Path) (catalog : Catalog) (options : Options)
    (folders : List Place) : Option Refusal :=
  folders.findSome? fun folder => (reading ws root catalog options folder).fault

/-- The walk stopped at the first folder whose files of rules cannot be read. -/
def Stopped (ws : Workspace) (root : Path) (catalog : Catalog) (options : Options)
    (folders : List Place) (state : TreeWalk) : Prop :=
  state.fault.isSome = true ∧ state.fault = firstRefusal? ws root catalog options folders

/-- Folders that are read one after the other hold rules of their own, as far as they can be read. -/
def Holding (ws : Workspace) (root : Path) (catalog : Catalog) (options : Options)
    (own : Place → RuleSet) (folders : List Place) : Prop :=
  ∀ before folder, before ++ [folder] <+: folders →
    firstRefusal? ws root catalog options (before ++ [folder]) = none →
      (reading ws root catalog options folder).rules = own folder

theorem firstRefusal?_append (ws : Workspace) (root : Path) (catalog : Catalog) (options : Options)
    (folders others : List Place) :
    firstRefusal? ws root catalog options (folders ++ others) =
      (firstRefusal? ws root catalog options folders).or
        (firstRefusal? ws root catalog options others) :=
  List.findSome?_append

theorem exists_of_firstRefusal? {ws : Workspace} {root : Path} {catalog : Catalog} {options : Options}
    {folders : List Place} {refusal : Refusal}
    (h : firstRefusal? ws root catalog options folders = some refusal) :
    ∃ folder ∈ folders, (reading ws root catalog options folder).fault = some refusal :=
  List.exists_of_findSome?_eq_some h

/-- After some moves, the walk has read the folders that were entered, and taken up those files it
came across that are not left out. -/
structure Gathered (ws : Workspace) (root : Path) (catalog : Catalog) (options : Options)
    (own : Place → RuleSet) (base : RuleSet) (made : List Move) (state : TreeWalk) : Prop where
  sound : state.fault = none
  reads : Reads root catalog options own base (enteredBy made) state.resolver
  readable : ∀ folder ∈ enteredBy made, (reading ws root catalog options folder).fault = none
  found : state.found = ((offeredBy made).filter fun place =>
    !excluded own base false place).map relText

theorem stopped_keeps {folders : List Place} :
    (treeVisitor ws).Keeps (Stopped ws root catalog options folders) := by
  refine ⟨?_, ?_⟩
  · intro folder files state h
    change Stopped ws root catalog options folders (TreeWalk.enter ws folder files state)
    rwa [TreeWalk.enter, if_pos h.1]
  · intro folder state h
    change Stopped ws root catalog options folders (TreeWalk.skips folder state).2
    rwa [TreeWalk.skips, if_pos h.1]

variable {made : List Move} {state : TreeWalk}

theorem Gathered.not_stopped (h : Gathered ws root catalog options own base made state) :
    ¬ state.fault.isSome = true := by
  rw [h.sound]
  simp

theorem files_admitted {resolver : Resolver} {folders : List Place} {folder : Place}
    {files : List String} (reads : Reads root catalog options own base folders resolver)
    (names : ∀ name ∈ folder, IsName name) (fileNames : ∀ name ∈ files, IsName name)
    (covered : ∀ other, other <+: folder → other ∈ folders) :
    ((files.map (below (relText folder))).filter fun rel => !resolver.ignores rel) =
      ((files.map fun name => folder ++ [name]).filter fun place =>
        !excluded own base false place).map relText := by
  rw [List.filter_map, List.filter_map, List.map_map]
  have hmap : below (relText folder) = relText ∘ fun name => folder ++ [name] := by
    funext name
    exact (relText_concat names).symm
  have hfilter : files.filter ((fun rel => !resolver.ignores rel) ∘ below (relText folder)) =
      files.filter ((fun place => !excluded own base false place) ∘
        fun name => folder ++ [name]) := by
    apply List.filter_congr
    intro name hn
    have hplace := names_concat names (fileNames name hn)
    have hcovered : ∀ other, StrictlyAbove other (folder ++ [name]) → other ∈ folders :=
      fun other ho => covered other (strictlyAbove_concat.mp ho)
    have hsame := reads.ignores_eq (by simp) hplace hcovered false
    rw [ruleText_file] at hsame
    rw [hmap]
    simp [excluded, hsame]
  rw [hfilter, hmap]

/-- Entering a folder that is not left out reads it and takes up its files, unless the folder cannot
be read. -/
theorem Gathered.enter (h : Gathered ws root catalog options own base made state) {folder : Place}
    {files : List String} (ready : (Move.enter folder files).Ready (enteredBy made))
    (admitted : folder ≠ [] → excluded own base true folder = false)
    (holds : (reading ws root catalog options folder).fault = none →
      (reading ws root catalog options folder).rules = own folder)
    {whole : List Move} (met : made ++ [.enter folder files] <+: whole) :
    Stopped ws root catalog options (enteredBy whole) (TreeWalk.enter ws (relText folder) files state) ∨
      Gathered ws root catalog options own base (made ++ [.enter folder files])
        (TreeWalk.enter ws (relText folder) files state) := by
  obtain ⟨names, fileNames, covered, fresh⟩ := ready
  have hadmitted : folder ≠ [] → state.resolver.ignores (ruleText true folder) = false := by
    intro hne
    rw [h.reads.ignores_eq hne names covered true]
    exact admitted hne
  obtain ⟨hload, hreads⟩ := h.reads.load names fresh hadmitted holds
  have hentered : enteredBy (made ++ [.enter folder files]) = enteredBy made ++ [folder] := by
    simp [enteredBy, Move.entered]
  rw [TreeWalk.enter, if_neg h.not_stopped]
  cases hfault : (reading ws root catalog options folder).fault with
  | none =>
    right
    have hoffered : offeredBy (made ++ [.enter folder files]) =
        offeredBy made ++ files.map fun name => folder ++ [name] := by
      simp [offeredBy, Move.offered]
    have hcovered : ∀ other, other <+: folder → other ∈ enteredBy made ++ [folder] := by
      intro other ho
      by_cases he : other = folder
      · simp [he]
      · exact List.mem_append_left _ (covered other (strictlyAbove_iff.mpr ⟨ho, he⟩))
    refine ⟨hload.trans hfault, hentered ▸ hreads hfault, ?_, ?_⟩
    · intro other ho
      rw [hentered, List.mem_append, List.mem_singleton] at ho
      rcases ho with ho | rfl
      · exact h.readable other ho
      · exact hfault
    · simp only [hload, hfault, Option.isSome_none, Bool.false_eq_true, ↓reduceIte]
      rw [hoffered, List.filter_append, List.map_append, h.found,
        files_admitted (hreads hfault) names fileNames hcovered]
  | some refusal =>
    left
    -- All folders before could be read, so this is the first refusal of the whole walk.
    obtain ⟨rest, rfl⟩ := met
    have hbefore : firstRefusal? ws root catalog options (enteredBy made) = none :=
      List.findSome?_eq_none_iff.mpr h.readable
    refine ⟨by simp [hload, hfault], ?_⟩
    rw [enteredBy_append, hentered, firstRefusal?_append, firstRefusal?_append, hbefore]
    simp [firstRefusal?, hload, hfault]

theorem Gathered.ask (h : Gathered ws root catalog options own base made state) {folder : Place}
    (ready : (Move.ask folder).Ready (enteredBy made)) :
    Gathered ws root catalog options own base (made ++ [.ask folder])
        (TreeWalk.skips (relText folder) state).2 ∧
      (TreeWalk.skips (relText folder) state).1 = excluded own base true folder := by
  obtain ⟨names, hne, covered⟩ := ready
  have hanswer := h.reads.ignores_eq hne names covered true
  have hentered : enteredBy (made ++ [.ask folder]) = enteredBy made := by
    simp [enteredBy, Move.entered]
  have hoffered : offeredBy (made ++ [.ask folder]) = offeredBy made := by
    simp [offeredBy, Move.offered]
  rw [TreeWalk.skips, if_neg h.not_stopped]
  refine ⟨⟨h.sound, hentered ▸ h.reads, hentered ▸ h.readable, ?_⟩, hanswer⟩
  rw [hoffered]
  exact h.found

theorem walk_gathers {listing : Listing} (ordered : listing.Ordered)
    (holds : Holding ws root catalog options own (enteredBy (tour own base listing)))
    (whole : ¬ Stopped ws root catalog options (enteredBy (tour own base listing))
      (walk (treeVisitor ws) "" listing { resolver := { root, catalog, options, rules := base } })) :
    Gathered ws root catalog options own base (tour own base listing)
      (walk (treeVisitor ws) "" listing { resolver := { root, catalog, options, rules := base } }) := by
  have hstart : Gathered ws root catalog options own base []
      { resolver := { root, catalog, options, rules := base } } :=
    ⟨rfl, Reads.start root catalog options own base, by simp [enteredBy], rfl⟩
  refine (walk_keeps (fun made state =>
    Stopped ws root catalog options (enteredBy (tour own base listing)) state ∨
      Gathered ws root catalog options own base made state) stopped_keeps ordered ?_ (.inr hstart)
    whole).resolve_left whole
  intro made move state met ready h
  have hm : move ∈ tour own base listing := met.subset (by simp)
  rcases h with h | h
  · refine ⟨.inl ?_, fun folder _ hs => absurd h hs⟩
    cases move with
    | enter folder files => exact stopped_keeps.enter _ _ _ h
    | ask folder => exact stopped_keeps.skips _ _ h
  · cases move with
    | enter folder files =>
      have hentered : enteredBy (made ++ [.enter folder files]) = enteredBy made ++ [folder] := by
        simp [enteredBy, Move.entered]
      have howned : (reading ws root catalog options folder).fault = none →
          (reading ws root catalog options folder).rules = own folder := by
        intro hnone
        refine holds (enteredBy made) folder ?_ (List.findSome?_eq_none_iff.mpr fun other ho => ?_)
        · obtain ⟨rest, hrest⟩ := met
          exact ⟨enteredBy rest, by rw [← hentered, ← enteredBy_append, hrest, tour]⟩
        · rcases List.mem_append.mp ho with ho | ho
          · exact h.readable other ho
          · rwa [List.mem_singleton.mp ho]
      refine ⟨h.enter ready ?_ howned met, by simp⟩
      obtain ⟨_, found, rfl, rfl, hat, hpasses⟩ := (enter_mem_moves ordered).mp hm
      intro hne
      -- The walk has asked for the folder by its last name.
      rcases List.eq_nil_or_concat folder with rfl | ⟨front, name, rfl⟩
      · exact absurd rfl hne
      · rw [List.concat_eq_append] at hpasses ready ⊢
        have hpass := hpasses front name List.prefix_rfl
        rw [List.nil_append, goesInto_eq ready.1] at hpass
        simpa using hpass
    | ask folder =>
      obtain ⟨hnext, hanswer⟩ := h.ask ready
      refine ⟨.inr hnext, ?_⟩
      intro other he _
      cases he
      exact hanswer

theorem keptBy_names {listing : Listing} (ordered : listing.Ordered) {place : Place}
    (hm : place ∈ keptBy own base listing) : place ≠ [] ∧ ∀ name ∈ place, IsName name :=
  offered_names (grounded_walk ordered) (List.mem_filter.mp hm).1

/-- The rules that a walk has in the end say of a file that it keeps what the folders above it hold. -/
theorem Gathered.on_eq {listing : Listing}
    (h : Gathered ws root catalog options own base (tour own base listing) state)
    (ordered : listing.Ordered) {place : Place} (hm : place ∈ keptBy own base listing) :
    state.resolver.rules.on (relText place) =
      (RuleSet.gather own base (above place)).on (relText place) := by
  obtain ⟨hne, names⟩ := keptBy_names ordered hm
  have hon := h.reads.on_eq hne names
    (fun folder ha => grounded_offered (grounded_walk ordered) (List.mem_filter.mp hm).1 ha) false
  simpa using hon

theorem start_of_builtin (root : Path) (hb : (Resolver.builtin catalog options).2 = .ok base) :
    Resolver.start root catalog options =
      ((Resolver.builtin catalog options).1, .ok { root, catalog, options, rules := base }) := by
  simp only [Resolver.start, hb]
  rfl

/-- Resolving a folder takes up the files that its walk keeps, in the order of the walk, unless one of
the folders on the walk cannot be read. -/
theorem resolveTree_of_listing {listing : Listing} (hl : ws.listing root = .ok listing)
    (ordered : listing.Ordered) (hb : (Resolver.builtin catalog options).2 = .ok base)
    (holds : Holding ws root catalog options own (enteredBy (tour own base listing))) :
    (∃ rules, (resolveTree ws catalog options root).2 =
          .ok ((keptBy own base listing).map (entryAt root rules)) ∧
        (∀ place ∈ keptBy own base listing, rules.on (relText place) =
          (RuleSet.gather own base (above place)).on (relText place)) ∧
        ∀ folder ∈ enteredBy (tour own base listing),
          (reading ws root catalog options folder).fault = none) ∨
      ∃ refusal, (resolveTree ws catalog options root).2 = .error (.refused refusal) ∧
        firstRefusal? ws root catalog options (enteredBy (tour own base listing)) = some refusal := by
  simp only [resolveTree, start_of_builtin root hb, hl]
  by_cases hs : Stopped ws root catalog options (enteredBy (tour own base listing))
      (walk (treeVisitor ws) "" listing { resolver := { root, catalog, options, rules := base } })
  · right
    obtain ⟨refusal, hrefusal⟩ := Option.isSome_iff_exists.mp hs.1
    rw [hrefusal]
    exact ⟨refusal, rfl, hs.2.symm.trans hrefusal⟩
  · left
    have h := walk_gathers ordered holds hs
    rw [h.sound]
    refine ⟨_, ?_, fun place hm => h.on_eq ordered hm, h.readable⟩
    rw [h.found, List.map_map]
    refine congrArg Except.ok (List.map_congr_left ?_)
    intro place hm
    simp only [Function.comp_apply, entryAt, ofText_relText (keptBy_names ordered hm).2]

theorem resolveTree_of_fault {error : PatternError}
    (hb : (Resolver.builtin catalog options).2 = .error error) :
    (resolveTree ws catalog options root).2 = .error (.pattern error) := by
  have hstart : Resolver.start root catalog options =
      ((Resolver.builtin catalog options).1, .error error) := by
    simp only [Resolver.start, hb]
    rfl
  simp only [resolveTree, hstart]

variable {node : Node}

theorem leavesOut_eq :
    leavesOut catalog options node base = excluded (declared catalog options node) base := rfl

theorem isFolder_entered {listing : Listing} (shows : listing.Shows node) {folder : Place}
    (hm : folder ∈ enteredBy (tour own base listing)) :
    ∃ found, node.at? folder = some found ∧ found.isFolder = true := by
  obtain ⟨move, hmove, hf⟩ := List.mem_flatMap.mp hm
  cases move with
  | ask other => simp [Move.entered] at hf
  | enter other files =>
    obtain rfl : folder = other := by simpa [Move.entered] using hf
    obtain ⟨_, found, rfl, rfl, hat, _⟩ := (enter_mem_moves shows.ordered).mp hmove
    exact shows.folder hat

theorem content?_names (holds : ws.HoldsTree root node) {place : Place}
    (h : (node.content? place).isSome = true) : ∀ name ∈ place, IsName name := by
  obtain ⟨content, hc⟩ := Option.isSome_iff_exists.mp h
  exact (holds.wellNamed.at? (Node.content?_eq_some_iff.mp hc)).1

theorem content?_ne_nil (holds : ws.HoldsTree root node) {place : Place}
    (h : (node.content? place).isSome = true) : place ≠ [] := by
  rintro rfl
  have hfolder := holds.isFolder
  cases node <;> simp_all [Node.content?, Node.at?, Node.isFolder]

theorem admitted_iff (holds : ws.HoldsTree root node) {listing : Listing} (shows : listing.Shows node)
    {place : Place} :
    place ∈ keptBy (declared catalog options node) base listing ↔
      Admitted catalog options node base place := by
  rw [keptBy, List.mem_filter, tour, shows.mem_offered]
  constructor
  · rintro ⟨⟨hfile, hway⟩, hkept⟩
    refine ⟨hfile, by simpa [leavesOut_eq] using hkept, ?_⟩
    intro folder hne hf
    rcases List.eq_nil_or_concat folder with rfl | ⟨front, name, rfl⟩
    · exact absurd rfl hne
    · rw [List.concat_eq_append] at hf ⊢
      have hnames : ∀ n ∈ front ++ [name], IsName n :=
        fun n hn => content?_names holds hfile n (hf.isPrefix.subset hn)
      simpa [leavesOut_eq, goesInto_eq hnames] using hway front name hf
  · rintro ⟨hfile, hkept, hway⟩
    refine ⟨⟨hfile, ?_⟩, by simp [← leavesOut_eq, hkept]⟩
    intro front name hf
    have hnames : ∀ n ∈ front ++ [name], IsName n :=
      fun n hn => content?_names holds hfile n (hf.isPrefix.subset hn)
    rw [goesInto_eq hnames, ← leavesOut_eq, hway _ (by simp) hf]
    rfl

/-- The places that a walk takes up, with the rules that it has in the end. -/
structure TakenUp (catalog : Catalog) (options : Options) (node : Node) (base : RuleSet)
    (places : List Place) (rules : RuleSet) : Prop where
  ordered : places.Pairwise Precedes
  mem_iff : ∀ place, place ∈ places ↔ Admitted catalog options node base place
  rules_on : ∀ place ∈ places, rules.on (relText place) =
    (rulesAbove catalog options node base place).on (relText place)

theorem TakenUp.nodup {places : List Place} {rules : RuleSet}
    (h : TakenUp catalog options node base places rules) : places.Nodup :=
  nodup_of_precedes h.ordered

theorem entered_iff (holds : ws.HoldsTree root node) {listing : Listing}
    (hl : ws.listing root = .ok listing) (shows : listing.Shows node) {folder : Place} :
    folder ∈ enteredBy (tour (declared catalog options node) base listing) ↔
      GoneInto catalog options node base folder := by
  have hpasses (hnames : ∀ name ∈ folder, IsName name) :
      Passes (excluded (declared catalog options node) base true) [] folder ↔
        ∀ other, other ≠ [] → other <+: folder →
          leavesOut catalog options node base true other = false := by
    have hgoes (front : Place) (name : String) (hp : front ++ [name] <+: folder) :
        goesInto (excluded (declared catalog options node) base true) front name = true ↔
          leavesOut catalog options node base true (front ++ [name]) = false := by
      rw [goesInto_eq fun n hn => hnames n (hp.subset hn), Bool.not_eq_true', leavesOut_eq]
    constructor
    · intro h other hne hp
      rcases List.eq_nil_or_concat other with rfl | ⟨front, name, rfl⟩
      · exact absurd rfl hne
      · rw [List.concat_eq_append] at hp ⊢
        exact (hgoes front name hp).mp (by simpa using h front name hp)
    · intro h front name hp
      simpa using (hgoes front name hp).mpr (h _ (by simp) hp)
  constructor
  · intro hm
    obtain ⟨found, hf, isFolder⟩ := isFolder_entered shows hm
    refine ⟨⟨found, hf, isFolder⟩, (hpasses (holds.wellNamed.at? hf).1).mp ?_⟩
    obtain ⟨move, hmove, hin⟩ := List.mem_flatMap.mp hm
    cases move with
    | ask other => simp [Move.entered] at hin
    | enter other files =>
      obtain rfl : folder = other := by simpa [Move.entered] using hin
      obtain ⟨_, _, rfl, _, _, hp⟩ := (enter_mem_moves shows.ordered).mp hmove
      exact hp
  · rintro ⟨⟨found, hf, isFolder⟩, hway⟩
    obtain ⟨inner, hat⟩ := holds.at_folder hl hf isFolder
    refine List.mem_flatMap.mpr ⟨.enter folder inner.files, ?_, by simp [Move.entered]⟩
    exact (enter_mem_moves shows.ordered).mpr
      ⟨folder, inner, rfl, rfl, hat, (hpasses (holds.wellNamed.at? hf).1).mpr hway⟩

/-- Resolving a tree takes up the files that are admitted, in the order of the walk, unless one of the
folders that it goes into cannot be read. -/
theorem resolveTree_unless_unread (holds : ws.HoldsTree root node)
    (hb : (Resolver.builtin catalog options).2 = .ok base) :
    (∃ places rules, (resolveTree ws catalog options root).2 =
          .ok (places.map (entryAt root rules)) ∧
        TakenUp catalog options node base places rules ∧
        ∀ folder, GoneInto catalog options node base folder →
          (reading ws root catalog options folder).fault = none) ∨
      ∃ refusal, (resolveTree ws catalog options root).2 = .error (.refused refusal) ∧
        ∃ folder, GoneInto catalog options node base folder ∧
          (reading ws root catalog options folder).fault = some refusal := by
  obtain ⟨listing, hl, shows⟩ := holds.listing
  have hreading : Holding ws root catalog options (declared catalog options node)
      (enteredBy (tour (declared catalog options node) base listing)) := by
    intro before folder hp hreadable
    have hm := hp.subset (show folder ∈ before ++ [folder] by simp)
    have hnone := List.findSome?_eq_none_iff.mp hreadable folder (by simp)
    obtain ⟨found, hf, isFolder⟩ := isFolder_entered shows hm
    exact reading_declared holds hf isFolder hnone
  rcases resolveTree_of_listing hl shows.ordered hb hreading with
    ⟨rules, hentries, hon, hreadable⟩ | ⟨refusal, hfail, hfirst⟩
  · left
    exact ⟨_, rules, hentries, ⟨(offered_ordered shows.ordered []).filter _,
      fun place => admitted_iff holds shows, hon⟩,
      fun folder hgone => hreadable folder ((entered_iff holds hl shows).mpr hgone)⟩
  · right
    obtain ⟨folder, hm, hfault⟩ := exists_of_firstRefusal? hfirst
    exact ⟨refusal, hfail, folder, (entered_iff holds hl shows).mp hm, hfault⟩

theorem GoneInto.unaskable (holds : ws.HoldsTree root node) {folder : Place}
    (h : GoneInto catalog options node base folder) {refusal : Refusal}
    (fault : (reading ws root catalog options folder).fault = some refusal) :
    Unaskable root node refusal := by
  obtain ⟨found, hf, isFolder⟩ := h.isFolder
  exact reading_refused holds hf isFolder fault

/-- Resolving a tree takes up the files that are admitted, in the order of the walk, unless a path is
too long. -/
theorem resolveTree_of_builtin (holds : ws.HoldsTree root node)
    (hb : (Resolver.builtin catalog options).2 = .ok base) :
    (∃ places rules, (resolveTree ws catalog options root).2 =
        .ok (places.map (entryAt root rules)) ∧ TakenUp catalog options node base places rules) ∨
      ∃ refusal, (resolveTree ws catalog options root).2 = .error (.refused refusal) ∧
        Unaskable root node refusal := by
  rcases resolveTree_unless_unread holds hb with
    ⟨places, rules, hentries, taken, _⟩ | ⟨refusal, hfail, folder, hgone, hfault⟩
  · exact .inl ⟨places, rules, hentries, taken⟩
  · exact .inr ⟨refusal, hfail, hgone.unaskable holds hfault⟩

end Polyglot.Analysis
