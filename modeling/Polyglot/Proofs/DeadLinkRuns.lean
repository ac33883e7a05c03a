import Polyglot.Proofs.Accounts
import Polyglot.Proofs.FolderRuns
import Polyglot.Proofs.WalkRecords

namespace Polyglot

open Polyglot.Files

/-- A file of rules in a folder is a link that ends in too long a name, and is refused for that. -/
def Choked (ws : Workspace) (root : Path) (top folder : Place) (refusal : Refusal) : Prop :=
  ∃ name ∈ ruleFileNames, ∃ target, ws.root.at? (top ++ folder ++ [name]) = some (.link target) ∧
    ws.aim (top ++ folder) target = .error .nameTooLong ∧
    refusal = ⟨root ++ (⟨"", folder ++ [name]⟩ : Path), .nameTooLong⟩

section
variable {ws : Workspace} {root : Path} {top : Place} {node : Node}
  (holds : ws.HoldsFolder root top node) {folder : Place} {found : Node}
  (hf : node.at? folder = some found) (isFolder : found.isFolder = true)
include holds hf isFolder

/-- A file of rules is read as if dead links were not there, or it is a link to too long a name. -/
theorem fileRules_withoutDead {resolver : Resolver} (hr : resolver.root = root) {name : String}
    (hn : name ∈ ruleFileNames) (asked : Bool) (rulesOf : List Char → Journal × RuleSet) :
    resolver.fileRules ws.withoutDead (relText folder) name asked rulesOf =
        resolver.fileRules ws (relText folder) name asked rulesOf ∨
      ∃ refusal, (resolver.fileRules ws (relText folder) name asked rulesOf).fault = some refusal ∧
        Choked ws root top folder refusal := by
  have hname := isName_of_ruleFile hn
  simp only [Resolver.fileRules, Resolver.textIn?, hr, append_ruleFile root (holds.names hf) hname]
  cases asked with
  | false => exact .inl rfl
  | true =>
    cases hdead : ws.deadAt (top ++ folder ++ [name]) with
    | false =>
      rw [holds.readIfFile_live hf isFolder hname hdead]
      exact .inl rfl
    | true =>
      rcases holds.readIfFile_dead hf isFolder hname (ruleFile_short hn) hdead with
        hsame | ⟨hfault, target, hlink, haim⟩
      · rw [hsame]
        exact .inl rfl
      · rw [hfault]
        exact .inr ⟨_, rfl, name, hn, target, hlink, haim, rfl⟩

/-- A folder is read as if dead links were not there, unless one of them chokes the reading. -/
theorem reading_withoutDead (catalog : Catalog) (options : Options) :
    reading ws.withoutDead root catalog options folder = reading ws root catalog options folder ∨
      ∃ refusal, (reading ws root catalog options folder).fault = some refusal ∧
        Choked ws root top folder refusal := by
  cases hq : options.quick with
  | true => exact .inl (by simp [reading, hq])
  | false =>
    simp only [reading, hq, Bool.false_eq_true, ↓reduceIte, Resolver.folderRules_eq_followedBy]
    have hroot : (bareResolver root catalog options).root = root := rfl
    have hignore : ignoreFileName ∈ ruleFileNames := by simp [ruleFileNames]
    have hattributes : attributesFileName ∈ ruleFileNames := by simp [ruleFileNames]
    have hfirst := fileRules_withoutDead holds hf isFolder hroot hignore
      (bareResolver root catalog options).options.checkIgnored
      (ignoreFileRules (bareResolver root catalog options).options (relText folder))
    have hsecond := fileRules_withoutDead holds hf isFolder hroot hattributes
      (bareResolver root catalog options).options.checkAttributes
      (attributesFileRules (bareResolver root catalog options).catalog
        (bareResolver root catalog options).options (relText folder))
    generalize Resolver.fileRules ws (bareResolver root catalog options) (relText folder)
      ignoreFileName _ _ = first at hfirst ⊢
    rcases hfirst with hfirst | ⟨refusal, hfault, choked⟩
    · rw [hfirst]
      -- Where the first file is refused, nothing depends on the second.
      cases hread : first.fault with
      | some refusal => exact .inl (by simp [Resolver.Reading.followedBy, hread])
      | none =>
        rcases hsecond with hsecond | ⟨refusal, hfault, choked⟩
        · rw [hsecond]
          exact .inl rfl
        · exact .inr ⟨refusal, by simp [Resolver.Reading.followedBy, hread, hfault], choked⟩
    · exact .inr ⟨refusal, by simp [Resolver.Reading.followedBy, hfault], choked⟩

end

namespace Analysis

/-- Neither a place nor a folder on the way to it is left out. -/
structure Unignored (own : Place → RuleSet) (base : RuleSet) (place : Place) : Prop where
  kept : excluded own base false place = false
  way : ∀ folder, folder ≠ [] → StrictlyAbove folder place → excluded own base true folder = false

theorem passes_iff {own : Place → RuleSet} {base : RuleSet} {folder : Place}
    (names : ∀ name ∈ folder, IsName name) : Passes (excluded own base true) [] folder ↔
      ∀ other, other ≠ [] → other <+: folder → excluded own base true other = false := by
  constructor
  · intro hp other hne ho
    rcases List.eq_nil_or_concat other with rfl | ⟨front, last, rfl⟩
    · exact absurd rfl hne
    · rw [List.concat_eq_append] at ho ⊢
      have hinto := hp front last ho
      rw [List.nil_append, goesInto_eq fun n hn => names n (ho.subset hn)] at hinto
      simpa using hinto
  · intro way front last ho
    rw [List.nil_append, goesInto_eq fun n hn => names n (ho.subset hn), way _ (by simp) ho]
    rfl

section
variable {ws : Workspace} {root : Path} {top : Place} {node : Node}
  (holds : ws.HoldsFolder root top node) {listing : Listing} (hl : ws.listing root = .ok listing)
  {own : Place → RuleSet} {base : RuleSet}
include holds hl

theorem mem_keptBy {place : Place} : place ∈ keptBy own base listing ↔
    place ≠ [] ∧ ws.fileAt (top ++ place) ∧ Unignored own base place := by
  rw [keptBy, List.mem_filter, tour, holds.mem_offered hl, Bool.not_eq_true']
  have hnames {folder : Place} {name : String} (h : ws.fileAt (top ++ (folder ++ [name]))) :
      ∀ n ∈ folder, IsName n := by
    obtain ⟨entry, hat, -⟩ := h
    rw [holds.at?_root] at hat
    exact fun n hn => holds.names hat n (by simp [hn])
  constructor
  · rintro ⟨⟨folder, name, rfl, hp, hfile⟩, kept⟩
    refine ⟨by simp, hfile, kept, fun other hne ho => ?_⟩
    exact (passes_iff (hnames hfile)).mp hp other hne (strictlyAbove_concat.mp ho)
  · rintro ⟨hne, hfile, kept, way⟩
    rcases List.eq_nil_or_concat place with rfl | ⟨folder, name, rfl⟩
    · exact absurd rfl hne
    · rw [List.concat_eq_append] at hfile kept way ⊢
      refine ⟨⟨folder, name, rfl, (passes_iff (hnames hfile)).mpr fun other hne ho => ?_, hfile⟩, kept⟩
      exact way other hne (strictlyAbove_concat.mpr ho)

theorem keptBy_withoutDead {listing' : Listing} (hl' : ws.withoutDead.listing root = .ok listing') :
    keptBy own base listing' =
      (keptBy own base listing).filter fun place => !ws.deadAt (top ++ place) := by
  rw [keptBy, tour, holds.offered_withoutDead hl hl', keptBy, tour, List.filter_filter,
    List.filter_filter]
  exact List.filter_congr fun place _ => Bool.and_comm _ _

theorem entered_withoutDead {listing' : Listing} (hl' : ws.withoutDead.listing root = .ok listing') :
    enteredBy (tour own base listing') = enteredBy (tour own base listing) := by
  have hsorted {listing : Listing} (ordered : listing.Ordered) :
      (enteredBy (tour own base listing)).Pairwise (· < ·) := by
    have h : (enteredIn ((tour own base listing).map (Move.call (excluded own base true)))).Pairwise
        (· < ·) := enteredIn_ordered (moves_inOrder ordered [])
    rwa [enteredIn_map] at h
  have hs := hsorted (holds.ordered hl)
  have hs' := hsorted (holds.withoutDead.ordered hl')
  have hperm := (List.perm_ext_iff_of_nodup hs'.nodup hs.nodup).mpr
    fun folder => holds.mem_entered_withoutDead hl hl'
  exact hperm.eq_of_pairwise (fun _ _ _ _ hlt hgt => absurd hgt hlt.asymm) hs' hs

end

theorem verdictBy_unread {ws : Workspace} {root : Path} {place : Place} {error : Workspace.ReadError}
    (h : ws.read (root ++ (⟨"", place⟩ : Path)) = .error error) (catalog : Catalog)
    (options : Options) (answer : Label → Except SampleFault (Option String))
    (own : Place → RuleSet) (base : RuleSet) :
    verdictBy ws catalog options answer root own base place =
      .ok { path := (root ++ (⟨"", place⟩ : Path)).text } :=
  verdict_unread h

section
variable {ws : Workspace} {root : Path} {top : Place} {node : Node}
  (holds : ws.HoldsFolder root top node) {listing : Listing} (hl : ws.listing root = .ok listing)
  {own : Place → RuleSet} {base : RuleSet} {place : Place}
  (hp : place ∈ keptBy own base listing) (catalog : Catalog) (options : Options)
  (answer : Label → Except SampleFault (Option String))
include holds hl hp

theorem entry_of_kept : ∃ folder name found, place = folder ++ [name] ∧
    node.at? folder = some found ∧ found.isFolder = true ∧ IsName name := by
  obtain ⟨hne, ⟨entry, hat, -⟩, -⟩ := (mem_keptBy holds hl).mp hp
  rw [holds.at?_root] at hat
  rcases List.eq_nil_or_concat place with rfl | ⟨folder, name, rfl⟩
  · exact absurd rfl hne
  · rw [List.concat_eq_append] at hat ⊢
    have hname := holds.names hat name (by simp)
    rw [Node.at?_concat] at hat
    obtain ⟨found, hf, hc⟩ := Option.bind_eq_some_iff.mp hat
    obtain ⟨entries, rfl⟩ := Node.folder_of_child? hc
    exact ⟨folder, name, _, rfl, hf, rfl, hname⟩

theorem read_of_dead (dead : ws.deadAt (top ++ place) = true) :
    ∃ error, ws.read (root ++ (⟨"", place⟩ : Path)) = .error error := by
  obtain ⟨folder, name, found, rfl, hf, isFolder, hname⟩ := entry_of_kept holds hl hp
  rw [← List.append_assoc] at dead
  obtain ⟨error, hnode, -⟩ := holds.node?_dead hf isFolder hname dead
  exact ⟨.lookup _, by rw [Workspace.read, hnode]; rfl⟩

theorem verdictBy_withoutDead (live : ws.deadAt (top ++ place) = false) :
    verdictBy ws.withoutDead catalog options answer root own base place =
      verdictBy ws catalog options answer root own base place := by
  obtain ⟨folder, name, found, rfl, hf, isFolder, hname⟩ := entry_of_kept holds hl hp
  rw [← List.append_assoc] at live
  exact verdict_congr_key ⟨rfl, rfl, (holds.read_live hf isFolder hname live), rfl⟩ rfl

end

section
variable (ws : Workspace) (catalog : Catalog) (options : Options) (root : Path) (top : Place)
  (own : Place → RuleSet) (base : RuleSet)

/-- The files of a walk and what is said of each, with dead links and without them. -/
structure Spares (places : List Place) (said : Place → Classified)
    (before after : List Classified) : Prop where
  ordered : places.Pairwise Precedes
  mem_iff : ∀ place, place ∈ places ↔
    place ≠ [] ∧ ws.fileAt (top ++ place) ∧ Unignored own base place
  path_eq : ∀ place ∈ places, (said place).path = (root ++ (⟨"", place⟩ : Path)).text
  unread : ∀ place ∈ places, ∀ error, ws.read (root ++ (⟨"", place⟩ : Path)) = .error error →
    said place = { path := (root ++ (⟨"", place⟩ : Path)).text }
  dead : ∀ place ∈ places, ws.deadAt (top ++ place) = true →
    ∃ error, ws.read (root ++ (⟨"", place⟩ : Path)) = .error error
  with_dead : before = Aggregator.retainedOf catalog options (places.map said)
  without_dead : after = Aggregator.retainedOf catalog options
    ((places.filter fun place => !ws.deadAt (top ++ place)).map said)

end

variable {σ : Type} {ws : Workspace} {catalog : Catalog} {options : Options} {source : SampleSource σ}
  {answer : Label → Except SampleFault (Option String)} {root : Path} {top : Place} {node : Node}
  {base : RuleSet} {samples samples' : σ}

section
variable (holds : ws.HoldsFolder root top node) {listing listing' : Listing}
  (hl : ws.listing root = .ok listing) (hl' : ws.withoutDead.listing root = .ok listing')
include holds hl

theorem reading_of_entered {own : Place → RuleSet} {folder : Place}
    (hm : folder ∈ enteredBy (tour own base listing)) (catalog : Catalog) (options : Options) :
    reading ws.withoutDead root catalog options folder = reading ws root catalog options folder ∨
      ∃ refusal, (reading ws root catalog options folder).fault = some refusal ∧
        Choked ws root top folder refusal := by
  obtain ⟨-, found, hf, isFolder⟩ := (holds.mem_entered hl).mp hm
  exact reading_withoutDead holds hf isFolder catalog options

theorem reading_of_readable {own : Place → RuleSet} {folder : Place}
    (hm : folder ∈ enteredBy (tour own base listing))
    (readable : (reading ws root catalog options folder).fault = none) :
    reading ws.withoutDead root catalog options folder = reading ws root catalog options folder := by
  refine (reading_of_entered holds hl hm catalog options).resolve_right ?_
  rintro ⟨refusal, hfault, -⟩
  cases readable.symm.trans hfault

include hl'

/-- Where each folder on the walk can be read, the walk without dead links keeps the other files. -/
theorem classified_withoutDead_readable (answers : source.Answers answer)
    (hb : (Resolver.builtin (catalog.without options.ignoredLanguages) options).2 = .ok base)
    (readable : ∀ folder ∈
      enteredBy (tour (heldIn ws root (catalog.without options.ignoredLanguages) options) base listing),
      (reading ws root (catalog.without options.ignoredLanguages) options folder).fault = none)
    (samples : σ) :
    let known := catalog.without options.ignoredLanguages
    let own := heldIn ws root known options
    classified ws.withoutDead catalog options source [root] samples =
      (((keptBy own base listing).filter fun place => !ws.deadAt (top ++ place)).mapM
        (verdictBy ws known options answer root own base)).mapError .classify := by
  intro known own
  have hentered : enteredBy (tour own base listing') = enteredBy (tour own base listing) :=
    entered_withoutDead holds hl hl'
  have hsame : ∀ folder ∈ enteredBy (tour own base listing'),
      reading ws.withoutDead root known options folder = reading ws root known options folder := by
    intro folder hm
    rw [hentered] at hm
    exact reading_of_readable holds hl hm (readable folder hm)
  have hheld : Holding ws.withoutDead root known options own (enteredBy (tour own base listing')) := by
    intro before folder hp _
    rw [hsame folder (hp.subset (by simp))]
    rfl
  rcases classified_walk holds.withoutDead.hasFolder hl' (holds.withoutDead.ordered hl') answers hb
      hheld samples with ⟨-, hwithout⟩ | ⟨refusal, hfirst, -⟩
  · rw [hwithout, keptBy_withoutDead holds hl hl', mapM_congr]
    intro place hm
    rw [List.mem_filter, Bool.not_eq_true'] at hm
    exact verdictBy_withoutDead holds hl hm.1 known options answer hm.2
  · obtain ⟨folder, hm, hfault⟩ := exists_of_firstRefusal? hfirst
    rw [hsame folder hm, readable folder (hentered ▸ hm)] at hfault
    cases hfault

/-- Where the first folder that cannot be read is refused for no dead link, the analysis ends there
without dead links too. -/
theorem classified_withoutDead_refused (answers : source.Answers answer)
    (hb : (Resolver.builtin (catalog.without options.ignoredLanguages) options).2 = .ok base)
    {before after : List Place} {folder : Place}
    (hcut : enteredBy
      (tour (heldIn ws root (catalog.without options.ignoredLanguages) options) base listing) =
        before ++ folder :: after)
    (hbefore : ∀ other ∈ before,
      (reading ws root (catalog.without options.ignoredLanguages) options other).fault = none)
    {refusal : Refusal}
    (hfault : (reading ws root (catalog.without options.ignoredLanguages) options folder).fault =
      some refusal)
    (hsame : reading ws.withoutDead root (catalog.without options.ignoredLanguages) options folder =
      reading ws root (catalog.without options.ignoredLanguages) options folder)
    (samples : σ) :
    classified ws.withoutDead catalog options source [root] samples =
      .error (.resolve (.refused refusal)) := by
  have hsames : ∀ other ∈ before,
      reading ws.withoutDead root (catalog.without options.ignoredLanguages) options other =
        reading ws root (catalog.without options.ignoredLanguages) options other :=
    fun other ho => reading_of_readable holds hl (hcut ▸ List.mem_append_left _ ho) (hbefore other ho)
  have hcut' : enteredBy
      (tour (heldIn ws root (catalog.without options.ignoredLanguages) options) base listing') =
        (before ++ [folder]) ++ after :=
    (entered_withoutDead holds hl hl').trans (hcut.trans (List.append_cons before folder after))
  refine classified_refused holds.withoutDead.hasFolder hl' (holds.withoutDead.ordered hl') answers hb
    hcut' ?_ ?_ samples
  · intro other ho
    rcases List.mem_append.mp ho with ho | ho
    · rw [hsames other ho]
      rfl
    · rw [List.mem_singleton.mp ho, hsame]
      rfl
  · refine List.findSome?_eq_some_iff.mpr ⟨before, folder, [], rfl, by rw [hsame, hfault], ?_⟩
    exact fun other ho => by rw [hsames other ho, hbefore other ho]

/-- An analysis with dead links settles what it settles without them, unless one of them chokes the
reading of the first folder that cannot be read. -/
theorem classified_withoutDead (answers : source.Answers answer)
    (hb : (Resolver.builtin (catalog.without options.ignoredLanguages) options).2 = .ok base)
    (samples samples' : σ) :
    let known := catalog.without options.ignoredLanguages
    let own := heldIn ws root known options
    let live := fun place => !ws.deadAt (top ++ place)
    (∃ refusal, (∃ folder ∈ enteredBy (tour own base listing), Choked ws root top folder refusal) ∧
        classified ws catalog options source [root] samples = .error (.resolve (.refused refusal))) ∨
      (∃ error, classified ws catalog options source [root] samples = .error error ∧
        classified ws.withoutDead catalog options source [root] samples' = .error error) ∨
      classified ws catalog options source [root] samples =
          ((keptBy own base listing).mapM
            (verdictBy ws known options answer root own base)).mapError .classify ∧
        classified ws.withoutDead catalog options source [root] samples' =
          (((keptBy own base listing).filter live).mapM
            (verdictBy ws known options answer root own base)).mapError .classify := by
  intro known own live
  rcases classified_folder holds.hasFolder hl (holds.ordered hl) answers hb samples with
    ⟨readable, hwith⟩ | ⟨refusal, hfirst, hwith⟩
  · right
    right
    exact ⟨hwith, classified_withoutDead_readable holds hl hl' answers hb readable samples'⟩
  -- The first folder that cannot be read decides: it is choked, or it cannot be read in either way.
  · obtain ⟨before, folder, after, hcut, hfault, hbefore⟩ := List.findSome?_eq_some_iff.mp hfirst
    change enteredBy (tour own base listing) = _ at hcut
    have hm : folder ∈ enteredBy (tour own base listing) := by simp [hcut]
    rcases reading_of_entered holds hl hm known options with hsame | ⟨_, hfault', choked⟩
    · right
      left
      exact ⟨_, hwith, classified_withoutDead_refused holds hl hl' answers hb hcut hbefore hfault hsame
        samples'⟩
    · obtain rfl : refusal = _ := Option.some.inj (hfault.symm.trans hfault')
      exact .inl ⟨refusal, ⟨folder, hm, choked⟩, hwith⟩

end

/-- A path is summed up without a label: under its extension, or under its name where it has none. -/
structure SummedUnknown (summary : Summary) (path : String) : Prop where
  byName : (Path.ofText (Path.ofText path).name).suffix = "" →
    (summary.filenames.get? (Path.ofText path).name).isSome = true
  byExtension : (Path.ofText (Path.ofText path).name).suffix ≠ "" →
    (summary.extensions.get? (Path.ofText (Path.ofText path).name).suffix).isSome = true

theorem summedUnknown_of_retained {retained : List Classified} {summary : Summary}
    (sums : Aggregator.SumsUp catalog options retained summary) {item : Classified}
    (hm : item ∈ retained) (hlabel : item.label = none) : SummedUnknown summary item.path := by
  constructor
  · intro hext
    have hposting : ((Path.ofText item.path).name, item.size) ∈
        retained.filterMap Aggregator.filenamePosting? :=
      List.mem_filterMap.mpr ⟨item, hm, if_pos ⟨hlabel, hext⟩⟩
    rw [sums.filenames.get, if_pos (List.mem_map_of_mem hposting), Option.isSome_some]
  · intro hext
    have hposting : (Aggregator.extensionOf item, item.size) ∈
        retained.filterMap Aggregator.extensionPosting? :=
      List.mem_filterMap.mpr ⟨item, hm, if_pos ⟨hlabel, hext⟩⟩
    change (summary.extensions.get? (Aggregator.extensionOf item)).isSome = true
    rw [sums.extensions.get, if_pos (List.mem_map_of_mem hposting), Option.isSome_some]

section
variable {own : Place → RuleSet} {places : List Place} {said : Place → Classified}
  {before after : List Classified}

theorem Spares.unread_retained
    (h : Spares ws catalog options root top own base places said before after) {place : Place}
    (hp : place ∈ places) {error : Workspace.ReadError}
    (unread : ws.read (root ++ (⟨"", place⟩ : Path)) = .error error) :
    { path := (root ++ (⟨"", place⟩ : Path)).text } ∈ before := by
  rw [h.with_dead, Aggregator.retainedOf, List.mem_filter]
  exact ⟨List.mem_map.mpr ⟨place, hp, h.unread place hp error unread⟩, rfl⟩

end

theorem spares_of_settled (holds : ws.HoldsFolder root top node) {listing : Listing}
    (hl : ws.listing root = .ok listing) {own : Place → RuleSet} {items others : List Classified}
    (hitems : (keptBy own base listing).mapM (verdictBy ws catalog options answer root own base) =
      .ok items)
    (hothers : ((keptBy own base listing).filter fun place => !ws.deadAt (top ++ place)).mapM
      (verdictBy ws catalog options answer root own base) = .ok others) :
    ∃ said, Spares ws catalog options root top own base (keptBy own base listing) said
      (Aggregator.retainedOf catalog options items) (Aggregator.retainedOf catalog options others) := by
  obtain ⟨said, hsaid⟩ := said_of_mapM hitems { path := "" }
  obtain ⟨_, hlisting, ordered, -⟩ := holds.listing_eq
  obtain rfl := Except.ok.inj (hl.symm.trans hlisting)
  refine ⟨said, (offered_ordered ordered []).filter _, fun place => mem_keptBy holds hl, ?_, ?_, ?_, ?_, ?_⟩
  · intro place hp
    obtain ⟨hpath, -⟩ := verdict_item (hsaid place hp)
    exact hpath
  · intro place hp error unread
    have hplace := hsaid place hp
    rw [verdictBy_unread unread] at hplace
    exact (Except.ok.inj hplace).symm
  · intro place hp dead
    exact read_of_dead holds hl hp dead
  · rw [map_of_mapM hitems hsaid]
  · rw [map_of_mapM hothers fun place hm => hsaid place (List.mem_of_mem_filter hm)]

/-- One link that leads nowhere never spoils an analysis, unless it is a file of rules that cannot be
asked for. An analysis of a folder fails as it would without all dead links, or it has a result. Then
every dead link that is not left out is listed without a label and without bytes, as is whatever else
cannot be read, and of all other files the same is said in the same order as without dead links. -/
theorem run_withoutDead (holds : ws.HoldsFolder root top node) (textual : catalog.Textual)
    (answers : source.Answers answer) (options : Options) (samples samples' : σ) :
    let known := catalog.without options.ignoredLanguages
    let own := heldIn ws root known options
    let before := retained ws catalog options source [root] samples
    let after := retained ws.withoutDead catalog options source [root] samples'
    (∃ base folder found refusal, (Resolver.builtin known options).2 = .ok base ∧
        node.at? folder = some found ∧ found.isFolder = true ∧
        (∀ other, other ≠ [] → other <+: folder → excluded own base true other = false) ∧
        Choked ws root top folder refusal ∧
        (run ws catalog options source [root] samples).result =
          .error (.resolve (.refused refusal))) ∨
      match (run ws catalog options source [root] samples).result,
        (run ws.withoutDead catalog options source [root] samples').result with
      | .ok summary, .ok summary' =>
        Aggregator.SumsUp known options before summary ∧ summary.files = Aggregator.labelsOf before ∧
        Aggregator.SumsUp known options after summary' ∧ summary'.files = Aggregator.labelsOf after ∧
        ∃ base places said, (Resolver.builtin known options).2 = .ok base ∧
          Spares ws known options root top own base places said before after ∧
          ∀ place ∈ places, ∀ error, ws.read (root ++ (⟨"", place⟩ : Path)) = .error error →
            let path := (root ++ (⟨"", place⟩ : Path)).text
            summary.files.get? path = some none ∧ SummedUnknown summary path
      | .error error, .error error' => error' = error
      | _, _ => False := by
  intro known own before after
  obtain ⟨listing, hl, ordered, -⟩ := holds.listing_eq
  obtain ⟨listing', hl', -⟩ := holds.withoutDead.listing_eq
  cases hb : (Resolver.builtin known options).2 with
  | error error =>
    right
    rw [run_error (classified_fault holds.hasFolder answers hb samples),
      run_error (classified_fault holds.withoutDead.hasFolder answers hb samples')]
  | ok base =>
    rcases classified_withoutDead holds hl hl' answers hb samples samples' with
      ⟨refusal, ⟨folder, hm, choked⟩, hfail⟩ | ⟨_, hfail, hfail'⟩ | ⟨hc, hc'⟩
    · left
      obtain ⟨hp, found, hf, isFolder⟩ := (holds.mem_entered hl).mp hm
      have way := (passes_iff (holds.names hf)).mp hp
      exact ⟨base, folder, found, refusal, rfl, hf, isFolder, way, choked, run_error hfail⟩
    · right
      rw [run_error hfail, run_error hfail']
    -- A dead link is settled whatever the rules say of it, so only another file can end the run.
    · right
      have hdead : ∀ place ∈ keptBy own base listing, (!ws.deadAt (top ++ place)) = false →
          ∃ item, verdictBy ws known options answer root own base place = .ok item := by
        intro place hp dead
        obtain ⟨error, unread⟩ := read_of_dead holds hl hp (by simpa using dead)
        exact ⟨_, verdictBy_unread unread known options answer own base⟩
      have hfilter := mapM_filter hdead
      cases hitems : (keptBy own base listing).mapM
          (verdictBy ws known options answer root own base) with
      | error error =>
        rw [hitems] at hfilter hc
        rw [hfilter] at hc'
        rw [run_error hc, run_error hc']
      | ok items =>
        rw [hitems] at hfilter hc
        obtain ⟨others, hothers⟩ := hfilter
        rw [hothers] at hc'
        obtain ⟨summary, hrun, hsums, hfiles⟩ := run_ok textual hc
        obtain ⟨summary', hrun', hsums', hfiles'⟩ := run_ok textual hc'
        obtain ⟨said, spares⟩ := spares_of_settled holds hl hitems hothers
        have hbefore : before = Aggregator.retainedOf known options items := retained_eq hc
        have hafter : after = Aggregator.retainedOf known options others := retained_eq hc'
        rw [← hbefore, ← hafter] at spares
        rw [hrun, hrun']
        refine ⟨hsums, hfiles retained_distinct, hsums', hfiles' retained_distinct, base, _, said, rfl,
          spares, ?_⟩
        intro place hp error unread
        have hretained := spares.unread_retained hp unread
        exact ⟨hsums.get?_of_retained retained_distinct hretained,
          summedUnknown_of_retained hsums hretained rfl⟩

/-- A folder with a file and a link that leads nowhere. -/
def danglingTree : Node := .folder [("a.c", .file "int a;".toUTF8), ("b.c", .link "gone")]

theorem run_withoutDead_dangling :
    let ws : Workspace := ⟨danglingTree, []⟩
    let source := SampleSource.ofAnswer fun _ => .ok none
    let options := ruleless []
    ws.HoldsFolder ⟨"", []⟩ [] danglingTree ∧ ws.deadAt ["b.c"] = true ∧ mixedCatalog.Textual ∧
      source.Answers (fun _ => .ok none) ∧
      ∃ summary summary', (run ws mixedCatalog options source [⟨"", []⟩] ()).result = .ok summary ∧
        (run ws.withoutDead mixedCatalog options source [⟨"", []⟩] ()).result = .ok summary' ∧
        summary.files.get? "a.c" = some (some (.text "C")) ∧ summary.files.get? "b.c" = some none := by
  intro ws source options
  have holds : ws.HoldsFolder ⟨"", []⟩ [] danglingTree := by
    refine ⟨by simp [ws, danglingTree, Node.WellNamed, Node.AllWellNamed], ?_, rfl, rfl⟩
    rw [Workspace.locate, if_pos rfl, Workspace.follow]
    rfl
  have dead : ws.deadAt ["b.c"] = true := by cbv
  have answers : source.Answers fun _ => .ok none := SampleSource.ofAnswer_answers _
  have hl : ws.listing ⟨"", []⟩ = .ok ⟨["a.c", "b.c"], []⟩ := by cbv
  have hsaid : classified ws mixedCatalog options source [⟨"", []⟩] () =
      .ok [{ path := "a.c", label := some (.text "C"), size := 6, signal := .extension },
        { path := "b.c" }] := by
    have hkept : keptBy (fun _ => {}) {} ⟨["a.c", "b.c"], []⟩ = [["a.c"], ["b.c"]] := by
      refine keptBy_flat ?_
      simp [IsName, isVersionControl, versionControlFolders]
    have hseen : extraction mixedCatalog options oneEntry "int a;".toUTF8 =
        { candidates := ⟨[.text "C"]⟩, signal := .extension } := by cbv
    have hread : ws.read oneEntry.path = .ok "int a;".toUTF8 := by cbv
    have hunread : ws.read (named "b.c").path = .error (.lookup .missing) := by cbv
    have hfile : verdict ws mixedCatalog options (fun _ => .ok none) oneEntry = .ok _ :=
      verdict_settled hread (isBinary_oneFile options) hseen rfl
    have hlink := @verdict_unread ws mixedCatalog options (named "b.c") (fun _ => .ok none) _ hunread
    rw [classified_unruled holds.hasFolder hl (holds.ordered hl) answers rfl rfl ⟨rfl, rfl⟩, hkept]
    change ([oneEntry, named "b.c"].mapM (verdict ws mixedCatalog options _)).mapError _ = _
    simp only [List.mapM_cons, List.mapM_nil, hfile, hlink]
    rfl
  obtain ⟨summary, hrun, -, hfiles⟩ := run_ok mixedCatalog_textual hsaid
  rw [retained_eq hsaid] at hfiles
  rcases run_withoutDead holds mixedCatalog_textual answers options () () with
    ⟨_, _, _, _, -, -, -, -, -, hfail⟩ | h
  · rw [hrun] at hfail
    cases hfail
  · rw [hrun] at h
    cases hrun' : (run ws.withoutDead mixedCatalog options source [⟨"", []⟩] ()).result with
    | error error =>
      rw [hrun'] at h
      exact h.elim
    | ok summary' =>
      rw [hrun'] at h
      obtain ⟨-, -, -, -, base, places, said, hb, spares, hlisted⟩ := h
      have hbase : base = {} := Except.ok.inj (hb.symm.trans (builtin_keeping rfl _))
      have hunignored : Unignored (heldIn ws ⟨"", []⟩ (mixedCatalog.without []) options) base ["b.c"] := by
        subst hbase
        refine ⟨by cbv, fun folder hne above => ?_⟩
        exact absurd (List.prefix_nil.mp (strictlyAbove_concat.mp above)) hne
      have hplace : ["b.c"] ∈ places :=
        (spares.mem_iff _).mpr ⟨by simp, Workspace.fileAt_of_dead dead, hunignored⟩
      obtain ⟨error, unread⟩ := spares.dead ["b.c"] hplace dead
      refine ⟨holds, dead, mixedCatalog_textual, answers, summary, summary', hrun, rfl, ?_,
        (hlisted ["b.c"] hplace error unread).1⟩
      rw [hfiles (by decide)]
      rfl

/-- A name of some length. -/
def nameOfLength (n : Nat) : String := String.ofList (List.replicate n 'a')

theorem utf8ByteSize_nameOfLength (n : Nat) : (nameOfLength n).utf8ByteSize = n := by
  rw [nameOfLength]
  induction n with
  | zero => rfl
  | succ n ih =>
    have hone : "a".utf8ByteSize = 1 := by decide
    rw [List.replicate_succ, String.ofList_cons]
    simp [ih, hone, Nat.add_comm]

theorem nameOfLength_ne {n : Nat} {name : String} (longer : name.utf8ByteSize < n) :
    name ≠ nameOfLength n := by
  rintro rfl
  rw [utf8ByteSize_nameOfLength] at longer
  exact lt_irrefl n longer

theorem isName_nameOfLength {n : Nat} (longer : 2 < n) : IsName (nameOfLength n) := by
  have hdots : "..".utf8ByteSize = 2 := by decide
  have hdot : ".".utf8ByteSize = 1 := by decide
  have hempty : "".utf8ByteSize = 0 := by decide
  refine ⟨(nameOfLength_ne (by omega)).symm, (nameOfLength_ne (by omega)).symm,
    (nameOfLength_ne (by omega)).symm, ?_⟩
  rw [nameOfLength, String.toList_ofList, List.mem_replicate]
  rintro ⟨-, h⟩
  cases h

/-- One file, beside an ignore file that is a link to a name of some length. -/
def linkedRules (n : Nat) : Workspace :=
  ⟨.folder [("a.c", .file "int a;".toUTF8), (ignoreFileName, .link (nameOfLength n))], []⟩

theorem aim_linkedRules {n : Nat} (long : Workspace.nameLimit < n) :
    (linkedRules n).aim [] (nameOfLength n) = .error .nameTooLong := by
  have hlimit : Workspace.nameLimit = 255 := rfl
  have hstart : Workspace.startOf [] (nameOfLength n) = [] := by
    rw [Workspace.startOf]
    split <;> rfl
  have hname : IsName (nameOfLength n) := isName_nameOfLength (by omega)
  have hfind : ([("a.c", .file "int a;".toUTF8), (ignoreFileName, .link (nameOfLength n))] :
      List (String × Node)).find? (·.1 == nameOfLength n) = none := by
    have hfile : "a.c".utf8ByteSize = 3 := by decide
    have hrules : ignoreFileName.utf8ByteSize = 10 := by decide
    have hfile' : "a.c" ≠ nameOfLength n := nameOfLength_ne (by omega)
    have hrules' : ignoreFileName ≠ nameOfLength n := nameOfLength_ne (by omega)
    simp [hfile', hrules']
  rw [Workspace.aim, hstart, Workspace.stepsOf_name hname,
    Workspace.follow_absent rfl hname.2.1 hname.2.2.1 hfind, utf8ByteSize_nameOfLength, if_pos long]

theorem readIfFile_linkedRules {n : Nat} (long : Workspace.nameLimit < n) :
    (linkedRules n).readIfFile ⟨"", [ignoreFileName]⟩ = .error .nameTooLong := by
  have hfind : ([("a.c", .file "int a;".toUTF8), (ignoreFileName, .link (nameOfLength n))] :
      List (String × Node)).find? (·.1 == ignoreFileName) =
        some (ignoreFileName, .link (nameOfLength n)) := by
    simp [ignoreFileName]
  have hfollow : (linkedRules n).follow Workspace.linkLimit [] [ignoreFileName] =
      .error .nameTooLong := by
    rw [Workspace.linkLimit, Workspace.follow_link rfl (by decide) (by decide) hfind, List.append_nil]
    exact aim_linkedRules long
  have hfault : Workspace.faultOf (⟨"", [ignoreFileName]⟩ : Path).text .nameTooLong =
      .nameTooLong := by cbv
  have hlocate : (linkedRules n).locate ⟨"", [ignoreFileName]⟩ = .error .nameTooLong := by
    rw [Workspace.locate, if_pos rfl]
    change ((linkedRules n).follow Workspace.linkLimit [] [ignoreFileName]).mapError _ = _
    rw [hfollow, Except.mapError, hfault]
  rw [Workspace.readIfFile, Workspace.node?, hlocate]
  rfl

theorem linkedRules_holds (n : Nat) :
    (linkedRules n).HoldsFolder ⟨"", []⟩ [] (linkedRules n).root := by
  refine ⟨by simp [linkedRules, ignoreFileName, Node.WellNamed, Node.AllWellNamed], ?_, rfl, rfl⟩
  rw [Workspace.locate, if_pos rfl, Workspace.follow]
  rfl

theorem linkedRules_dead {n : Nat} (long : Workspace.nameLimit < n) :
    (linkedRules n).isDead [ignoreFileName] (.link (nameOfLength n)) = true :=
  Workspace.isDead_eq_true.mpr ⟨nameOfLength n, _, rfl, aim_linkedRules long⟩

theorem linkedRules_withoutDead {n : Nat} (long : Workspace.nameLimit < n) :
    (linkedRules n).withoutDead = oneFile := by
  have hroot : (linkedRules n).alive [] (linkedRules n).root = oneFile.root := by
    change (linkedRules n).alive [] (.folder [("a.c", .file "int a;".toUTF8),
      (ignoreFileName, .link (nameOfLength n))]) = _
    have dead : (linkedRules n).isDead ([] ++ [ignoreFileName]) (.link (nameOfLength n)) = true :=
      linkedRules_dead long
    rw [Workspace.alive, Workspace.aliveAll, if_neg (by simp [Workspace.isDead]), Workspace.aliveAll,
      if_pos dead, Workspace.aliveAll, Workspace.alive]
    rfl
  rw [Workspace.withoutDead, hroot]
  rfl

/-- A dead link ends the analysis of a folder that has a result without it. -/
theorem run_choked :
    let ws : Workspace := linkedRules 256
    let catalog := Catalog.ofLanguages
      [{ name := "C", category := .programming, extensions := [".c"] }] (List.nodup_singleton "C")
      "inline"
    let source := SampleSource.ofAnswer fun _ => .ok none
    ws.deadAt [ignoreFileName] = true ∧ catalog.Textual ∧ source.Answers (fun _ => .ok none) ∧
      (run ws catalog {} source [⟨"", []⟩] ()).result =
        .error (.resolve (.refused ⟨⟨"", [ignoreFileName]⟩, .nameTooLong⟩)) ∧
      ∃ summary, (run ws.withoutDead catalog {} source [⟨"", []⟩] ()).result = .ok summary := by
  intro ws catalog source
  have long : Workspace.nameLimit < 256 := by decide
  have dead : ws.deadAt [ignoreFileName] = true := by
    have hat : ws.root.at? [ignoreFileName] = some (.link (nameOfLength 256)) := by
      simp [ws, linkedRules, Node.at?, Node.child?, Node.entries, ignoreFileName]
    rw [Workspace.deadAt, hat, Option.any_some]
    exact linkedRules_dead long
  have textual : catalog.Textual := by
    intro language hm
    rw [List.mem_singleton.mp hm]
    exact ⟨rfl, rfl⟩
  have answers : source.Answers fun _ => .ok none := SampleSource.ofAnswer_answers _
  refine ⟨dead, textual, answers, ?_, ?_⟩
  · have holds : ws.HoldsFolder ⟨"", []⟩ [] ws.root := linkedRules_holds 256
    have hfault : (reading ws ⟨"", []⟩ (catalog.without ({} : Options).ignoredLanguages) {} []).fault =
        some ⟨⟨"", [ignoreFileName]⟩, .nameTooLong⟩ := by
      have hread : ws.readIfFile (⟨"", []⟩ ++ Path.ofText (relText []) ++ Path.ofText ignoreFileName) =
          .error .nameTooLong := by
        rw [append_ruleFile ⟨"", []⟩ (by simp) (isName_of_ruleFile (by simp [ruleFileNames]))]
        exact readIfFile_linkedRules long
      change (Resolver.fileRules ws _ _ _ true _ |>.followedBy _).fault = _
      simp only [Resolver.fileRules, Resolver.textIn?, bareResolver, hread]
      rfl
    obtain ⟨listing, hl, ordered, -⟩ := holds.listing_eq
    have hb : (Resolver.builtin (catalog.without ({} : Options).ignoredLanguages) {}).2 = .ok {} := by
      cbv
    obtain ⟨files, folders⟩ := listing
    let own := heldIn ws ⟨"", []⟩ (catalog.without ({} : Options).ignoredLanguages) {}
    have hcut : ∃ back, enteredBy (tour own {} (.mk files folders)) = [[]] ++ back := by
      rw [tour, moves, enteredBy, List.flatMap_cons]
      exact ⟨_, rfl⟩
    obtain ⟨back, hcut⟩ := hcut
    exact run_error (classified_refused holds.hasFolder hl ordered answers hb hcut
      (fun _ _ => rfl) (List.findSome?_singleton.trans hfault) ())
  · have hfolder : oneFile.hasFolder ⟨"", []⟩ = .ok true := by cbv
    have htree : (resolveTree oneFile (catalog.without ({} : Options).ignoredLanguages) {} ⟨"", []⟩).2 =
        .ok [oneEntry] := by cbv
    have hresolved : (resolveInputs oneFile (catalog.without ({} : Options).ignoredLanguages) {}
        [⟨"", []⟩]).2 = .ok [oneEntry] := by
      rw [resolveInputs_folder hfolder, htree]
      rfl
    rw [linkedRules_withoutDead long]
    exact oneFile_result textual hresolved (by cbv) source ()

end Analysis

end Polyglot
