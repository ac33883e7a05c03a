import Polyglot.Proofs.Resolving
import Polyglot.Proofs.Runs

namespace Polyglot.Analysis

open Polyglot.Files
open Polyglot.Detection (fallback)

theorem append_here (root : Path) : root ++ (⟨"", []⟩ : Path) = root := by
  rw [Workspace.append_relative, List.append_nil]

theorem text_below (root : Path) {place : Place} (hne : place ≠ []) :
    (root ++ (⟨"", place⟩ : Path)).text = root.root ++
      ((if root.parts = [] then "" else relText root.parts ++ "/") ++ relText place) := by
  rw [Workspace.append_relative, Path.text, if_neg (by simp [hne])]
  change root.root ++ relText (root.parts ++ place) = _
  by_cases hp : root.parts = []
  · simp [hp]
  · rw [if_neg hp, relText_append hp hne]

theorem text_injective {root : Path} {place other : Place} (hne : place ≠ []) (hne' : other ≠ [])
    (names : ∀ name ∈ place, IsName name) (names' : ∀ name ∈ other, IsName name)
    (h : (root ++ (⟨"", place⟩ : Path)).text = (root ++ (⟨"", other⟩ : Path)).text) :
    place = other := by
  rw [text_below root hne, text_below root hne'] at h
  exact relText_injective names names' ((String.append_right_inj _).mp ((String.append_right_inj _).mp h))

theorem firstOfEachKey_entryAt (root : Path) (rules : RuleSet) {places : List Place}
    (named : ∀ place ∈ places, place ≠ [] ∧ ∀ name ∈ place, IsName name) :
    firstOfEachKey (places.map (entryAt root rules)) = places.eraseDups.map (entryAt root rules) := by
  refine firstOfEachKey_map fun place hp other ho h => ?_
  obtain ⟨hne, names⟩ := named place hp
  obtain ⟨hne', names'⟩ := named other ho
  exact text_injective hne hne' names names' h

section
variable (ws : Workspace) (catalog : Catalog) (options : Options)
  (answer : Label → Except SampleFault (Option String)) (root : Path) (own : Place → RuleSet)
  (base : RuleSet)

/-- What is said of the file at a place by some rules and by those that the folders above it hold. -/
def verdictBy (place : Place) : Except ClassifyError Classified :=
  verdict ws catalog options answer (entryAt root (RuleSet.gather own base (above place)) place)

end

variable {σ : Type} {ws : Workspace} {catalog : Catalog} {options : Options} {source : SampleSource σ}
  {answer : Label → Except SampleFault (Option String)} {root : Path} {own : Place → RuleSet}
  {base : RuleSet} {places : List Place} {samples : σ}

theorem verdict_entryAt {rules : RuleSet} {place : Place}
    (h : rules.on (relText place) = (RuleSet.gather own base (above place)).on (relText place)) :
    verdict ws catalog options answer (entryAt root rules place) =
      verdictBy ws catalog options answer root own base place :=
  verdict_congr_key ⟨rfl, rfl, rfl, h⟩ rfl

theorem mapM_entryAt {rules : RuleSet}
    (h : ∀ place ∈ places,
      rules.on (relText place) = (RuleSet.gather own base (above place)).on (relText place)) :
    (places.map (entryAt root rules)).mapM (verdict ws catalog options answer) =
      places.mapM (verdictBy ws catalog options answer root own base) := by
  rw [List.mapM_map]
  exact mapM_congr fun place hm => verdict_entryAt (h place hm)

theorem inTree_entries (entries : List Entry) (rules : RuleSet) :
    (entries.map Found.inTree).map (Found.entry rules) = entries := by
  rw [List.map_map]
  exact List.map_id _

theorem resolveInputs_folder (folder : ws.hasFolder root = .ok true) (catalog : Catalog)
    (options : Options) :
    (resolveInputs ws catalog options [root]).2 =
      (resolveTree ws catalog options root).2.map firstOfEachKey := by
  have hhas : ws.has root = .ok true := by
    rw [Workspace.hasFolder] at folder
    rw [Workspace.has]
    cases hnode : ws.node? root with
    | ok node => rfl
    | error e =>
      rw [hnode] at folder
      cases ha : e.isAbsence <;> simp [ha] at folder
  simp only [resolveInputs, firstMissing?, hhas, List.filter_cons, List.filter_nil, folder,
    Bool.not_true, Bool.false_eq_true, List.isEmpty_nil, ↓reduceIte, resolveEach]
  rcases resolveTree ws catalog options root with ⟨journal, resolved⟩
  cases resolved with
  | error e => rfl
  | ok entries =>
    change Except.ok (firstOfEachKey ((entries.map Found.inTree ++ []).map (Found.entry {}))) = _
    rw [List.append_nil, inTree_entries]
    rfl

theorem keptBy_nodup {listing : Listing} (ordered : listing.Ordered) :
    (keptBy own base listing).Nodup :=
  nodup_of_precedes ((offered_ordered ordered []).filter _)

/-- An analysis of a folder settles each file that its walk keeps by what the folders above it hold,
unless one of the folders on the walk cannot be read. -/
theorem classified_walk (folder : ws.hasFolder root = .ok true) {listing : Listing}
    (hl : ws.listing root = .ok listing) (ordered : listing.Ordered) (answers : source.Answers answer)
    (hb : (Resolver.builtin (catalog.without options.ignoredLanguages) options).2 = .ok base)
    (holds : Holding ws root (catalog.without options.ignoredLanguages) options own
      (enteredBy (tour own base listing)))
    (samples : σ) :
    let known := catalog.without options.ignoredLanguages
    (∀ folder ∈ enteredBy (tour own base listing), (reading ws root known options folder).fault = none) ∧
        classified ws catalog options source [root] samples =
          ((keptBy own base listing).mapM
            (verdictBy ws known options answer root own base)).mapError .classify ∨
      ∃ refusal, firstRefusal? ws root known options (enteredBy (tour own base listing)) = some refusal ∧
        classified ws catalog options source [root] samples =
          .error (.resolve (.refused refusal)) := by
  intro known
  rw [classified_eq answers, resolveInputs_folder folder]
  rcases resolveTree_of_listing hl ordered hb holds with
    ⟨rules, hentries, hon, hreadable⟩ | ⟨refusal, hfail, hfirst⟩
  · left
    refine ⟨hreadable, ?_⟩
    rw [hentries]
    simp only [Except.map]
    rw [firstOfEachKey_entryAt root rules fun place hm => keptBy_names ordered hm,
      eraseDups_eq_self (keptBy_nodup ordered), mapM_entryAt hon]
  · right
    refine ⟨refusal, hfirst, ?_⟩
    rw [hfail]
    rfl

/-- An analysis of a folder ends with the first refusal, whatever the folders behind it hold. -/
theorem classified_refused (folder : ws.hasFolder root = .ok true) {listing : Listing}
    (hl : ws.listing root = .ok listing) (ordered : listing.Ordered) (answers : source.Answers answer)
    (hb : (Resolver.builtin (catalog.without options.ignoredLanguages) options).2 = .ok base)
    {front back : List Place} (cut : enteredBy (tour own base listing) = front ++ back)
    (held : ∀ other ∈ front,
      (reading ws root (catalog.without options.ignoredLanguages) options other).rules = own other)
    {refusal : Refusal}
    (refused : firstRefusal? ws root (catalog.without options.ignoredLanguages) options front =
      some refusal) (samples : σ) :
    classified ws catalog options source [root] samples = .error (.resolve (.refused refusal)) := by
  have hfirst : firstRefusal? ws root (catalog.without options.ignoredLanguages) options
      (enteredBy (tour own base listing)) = some refusal := by
    rw [cut, firstRefusal?_append, refused, Option.some_or]
  have holding : Holding ws root (catalog.without options.ignoredLanguages) options own
      (enteredBy (tour own base listing)) := by
    intro before other hp readable
    rw [cut] at hp
    rcases List.prefix_or_prefix_of_prefix hp (List.prefix_append front back) with hin | ⟨rest, hrest⟩
    · exact held other (hin.subset (by simp))
    · rw [← hrest, firstRefusal?_append, refused, Option.some_or] at readable
      cases readable
  rcases classified_walk folder hl ordered answers hb holding samples with
    ⟨readable, -⟩ | ⟨other, hother, hfail⟩
  · obtain ⟨folder, hm, hfault⟩ := exists_of_firstRefusal? hfirst
    rw [readable folder hm] at hfault
    cases hfault
  · rwa [Option.some.inj (hfirst.symm.trans hother)]

theorem classified_folder (folder : ws.hasFolder root = .ok true) {listing : Listing}
    (hl : ws.listing root = .ok listing) (ordered : listing.Ordered) (answers : source.Answers answer)
    (hb : (Resolver.builtin (catalog.without options.ignoredLanguages) options).2 = .ok base)
    (samples : σ) :
    let known := catalog.without options.ignoredLanguages
    let own := heldIn ws root known options
    (∀ folder ∈ enteredBy (tour own base listing), (reading ws root known options folder).fault = none) ∧
        classified ws catalog options source [root] samples =
          ((keptBy own base listing).mapM
            (verdictBy ws known options answer root own base)).mapError .classify ∨
      ∃ refusal, firstRefusal? ws root known options (enteredBy (tour own base listing)) = some refusal ∧
        classified ws catalog options source [root] samples = .error (.resolve (.refused refusal)) :=
  classified_walk folder hl ordered answers hb (fun _ _ _ _ => rfl) samples

/-- Where the catalog has a pattern that ends every run, an analysis of a folder ends with it. -/
theorem classified_fault (folder : ws.hasFolder root = .ok true) (answers : source.Answers answer)
    {error : PatternError}
    (hb : (Resolver.builtin (catalog.without options.ignoredLanguages) options).2 = .error error)
    (samples : σ) :
    classified ws catalog options source [root] samples = .error (.resolve (.pattern error)) := by
  rw [classified_eq answers, resolveInputs_folder folder, resolveTree_of_fault hb]
  rfl

theorem keptBy_flat {files : List String}
    (names : ∀ name ∈ files, IsName name ∧ isVersionControl name = false) :
    keptBy (fun _ => {}) {} ⟨files, []⟩ = files.map ([·]) := by
  have hoffered : offeredBy (tour (fun _ => {}) {} ⟨files, []⟩) = files.map ([·]) := by
    simp [tour, moves, asks, movesInto, offeredBy, Move.offered]
  rw [keptBy, hoffered, List.filter_eq_self]
  intro place hm
  obtain ⟨name, hn, rfl⟩ := List.mem_map.mp hm
  obtain ⟨hname, visible⟩ := names name hn
  rw [excluded, RuleSet.gather_empty, RuleSet.isSome_exclusion? _ (by simp) (by simpa using hname)]
  simp [visible]

/-- An analysis with which no rules are given and none are read settles every file outside of version
control by its content. -/
theorem classified_unruled (folder : ws.hasFolder root = .ok true) {listing : Listing}
    (hl : ws.listing root = .ok listing) (ordered : listing.Ordered) (answers : source.Answers answer)
    (vendored : options.keepVendored = true) (unsupplied : options.ignoredFiles = [])
    (unchecked : options.checkIgnored = false ∧ options.checkAttributes = false) (samples : σ) :
    classified ws catalog options source [root] samples =
      ((keptBy (fun _ => {}) {} listing).mapM fun place =>
        verdict ws (catalog.without options.ignoredLanguages) options answer
          (entryAt root {} place)).mapError .classify := by
  have hb : (Resolver.builtin (catalog.without options.ignoredLanguages) options).2 = .ok {} := by
    rw [builtin_keeping vendored, suppliedRules, unsupplied]
    rfl
  have hread (known : Catalog) (place : Place) : reading ws root known options place = {} := by
    unfold reading
    split
    · rfl
    · simp [Resolver.folderRules, Resolver.fileRules, bareResolver, unchecked]
  have holding : Holding ws root (catalog.without options.ignoredLanguages) options (fun _ => {})
      (enteredBy (tour (fun _ => {}) {} listing)) := fun _ _ _ _ => by rw [hread]
  rcases classified_walk folder hl ordered answers hb holding samples with
    ⟨-, hsaid⟩ | ⟨refusal, hfirst, -⟩
  · rw [hsaid]
    congr 1
    refine mapM_congr fun place _ => ?_
    rw [verdictBy, RuleSet.gather_empty]
  · obtain ⟨place, -, hfault⟩ := exists_of_firstRefusal? hfirst
    rw [hread] at hfault
    cases hfault

/-- A folder with a text, a file that looks binary, a text without an extension and prose. -/
def mixedFiles : Workspace := ⟨.folder [("a.c", .file "int a;".toUTF8), ("b.h", .file ⟨#[0]⟩),
  ("notes", .file "x".toUTF8), ("read.md", .file "# A".toUTF8)], []⟩

/-- Two of the languages share an extension. -/
def mixedCatalog : Catalog := Catalog.ofLanguages [
  { name := "C", category := .programming, extensions := [".c", ".h"] },
  { name := "C++", category := .programming, extensions := [".h"] },
  { name := "Markdown", category := .prose, extensions := [".md"] }] (by decide) "inline"

def mixedOptions (keepBinary : Bool) (categories : Option (List Category)) : Options :=
  { ruleless [] with keepBinary, categories }

/-- What is said of the four files, of which the second one is settled in more than one way. -/
def mixedItems (second : Classified) : List Classified := [
  { path := "a.c", label := some (.text "C"), size := 6, signal := .extension },
  second,
  { path := "notes", size := 1 },
  { path := "read.md", label := some (.text "Markdown"), size := 3, signal := .extension }]

theorem mixedCatalog_textual : mixedCatalog.Textual := by
  simp [Catalog.Textual, mixedCatalog, Catalog.ofLanguages, isTextual]

theorem mixedFiles_wellNamed : mixedFiles.root.WellNamed := by
  simp [mixedFiles, Node.WellNamed, Node.AllWellNamed]

theorem mixedFiles_hasFolder : mixedFiles.hasFolder ⟨"", []⟩ = .ok true := by cbv

section
variable {keepBinary : Bool} {categories : Option (List Category)}

theorem mixed_others :
    let said name := verdict mixedFiles mixedCatalog (mixedOptions keepBinary categories) answer (named name)
    said "a.c" = .ok { path := "a.c", label := some (.text "C"), size := 6, signal := .extension } ∧
      said "notes" = .ok { path := "notes", size := 1 } ∧
      said "read.md" =
        .ok { path := "read.md", label := some (.text "Markdown"), size := 3, signal := .extension } := by
  intro said
  have hcode : extraction mixedCatalog (mixedOptions keepBinary categories) (named "a.c")
      "int a;".toUTF8 = { candidates := ⟨[.text "C"]⟩, signal := .extension } := by cbv
  have hplain : extraction mixedCatalog (mixedOptions keepBinary categories) (named "notes")
      "x".toUTF8 = { candidates := ⟨[]⟩, signal := .none } := by cbv
  have hprose : extraction mixedCatalog (mixedOptions keepBinary categories) (named "read.md")
      "# A".toUTF8 = { candidates := ⟨[.text "Markdown"]⟩, signal := .extension } := by cbv
  have htext (name : String) (content : ByteArray) (hextension : hasBinaryExtension ⟨"", [name]⟩ = false)
      (hlooks : looksBinary content = false) :
      isBinary (mixedOptions keepBinary categories) (named name) content = false := by
    have hrules : (named name).rules.isBinary name = false := rfl
    simp [isBinary, named, hextension, hlooks] at hrules ⊢
    simp [hrules]
  refine ⟨?_, ?_, ?_⟩
  · exact verdict_settled (by cbv) (htext _ _ (by cbv) (by cbv)) hcode rfl
  · exact verdict_settled (by cbv) (htext _ _ (by cbv) (by cbv)) hplain rfl
  · exact verdict_settled (by cbv) (htext _ _ (by cbv) (by cbv)) hprose rfl

theorem mixed_items {second : Except ClassifyError Classified} (answers : source.Answers answer)
    (said : verdict mixedFiles mixedCatalog (mixedOptions keepBinary categories) answer (named "b.h") =
      second) (samples : σ) :
    classified mixedFiles mixedCatalog (mixedOptions keepBinary categories) source [⟨"", []⟩] samples =
      (second.map mixedItems).mapError .classify := by
  let files := ["a.c", "b.h", "notes", "read.md"]
  have hl : mixedFiles.listing ⟨"", []⟩ = .ok ⟨files, []⟩ := by cbv
  obtain ⟨listing, hl', ordered⟩ := Workspace.listing_ordered mixedFiles_wellNamed mixedFiles_hasFolder
  obtain rfl := Except.ok.inj (hl'.symm.trans hl)
  have hkept : keptBy (fun _ => {}) {} ⟨files, []⟩ = files.map ([·]) := by
    refine keptBy_flat ?_
    simp [files, IsName, isVersionControl, versionControlFolders]
  obtain ⟨hcode, hplain, hprose⟩ := @mixed_others answer keepBinary categories
  rw [classified_unruled mixedFiles_hasFolder hl ordered answers rfl rfl ⟨rfl, rfl⟩, hkept]
  change ((files.map named).mapM (verdict mixedFiles mixedCatalog
    (mixedOptions keepBinary categories) answer)).mapError _ = _
  simp only [files, List.map_cons, List.map_nil, List.mapM_cons, List.mapM_nil, hcode, hplain, hprose,
    said]
  cases second <;> rfl

theorem mixed_binary (answers : source.Answers answer) (samples : σ) :
    classified mixedFiles mixedCatalog (mixedOptions false categories) source [⟨"", []⟩] samples =
      .ok (mixedItems { path := "b.h", size := 1, binary := true }) := by
  have hread : mixedFiles.read (named "b.h").path = .ok ⟨#[0]⟩ := by cbv
  exact mixed_items answers (verdict_binary hread (by cbv)) samples

end

end Polyglot.Analysis
