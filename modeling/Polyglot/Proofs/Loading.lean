import Polyglot.Proofs.Scope
import Polyglot.Proofs.Tree

namespace Polyglot

open Polyglot.Files

/-- The rules in one file of a folder of a tree, if it is asked for and there. -/
def declaredIn (node : Node) (folder : Place) (name : String) (asked : Bool)
    (rulesOf : List Char → Journal × RuleSet) : RuleSet :=
  match asked, node.content? (folder ++ [name]) with
  | true, some content => (rulesOf (textOf content)).2
  | _, _ => {}

/-- The rules that a folder of a tree declares, as far as the options let its files be read. -/
def declared (catalog : Catalog) (options : Options) (node : Node) (folder : Place) : RuleSet :=
  if options.quick then {}
  else
    declaredIn node folder ignoreFileName options.checkIgnored
        (ignoreFileRules options (relText folder)) ++
      declaredIn node folder attributesFileName options.checkAttributes
        (attributesFileRules catalog options (relText folder))

/-- The rules for the paths at a place: those of the options, and those of the folders above. -/
def rulesAbove (catalog : Catalog) (options : Options) (node : Node) (base : RuleSet)
    (place : Place) : RuleSet :=
  RuleSet.gather (declared catalog options node) base (above place)

/-- Names of files that a folder is asked for. -/
def ruleFileNames : List String := [ignoreFileName, attributesFileName]

theorem isName_of_ruleFile {name : String} (h : name ∈ ruleFileNames) : IsName name := by
  rcases List.mem_cons.mp h with rfl | h
  · exact ⟨by decide, by decide, by decide, by decide⟩
  · rw [List.mem_singleton.mp h]
    exact ⟨by decide, by decide, by decide, by decide⟩

theorem ruleFile_short {name : String} (h : name ∈ ruleFileNames) :
    name.utf8ByteSize ≤ Workspace.nameLimit := by
  rcases List.mem_cons.mp h with rfl | h
  · decide
  · rw [List.mem_singleton.mp h]
    decide

/-- A folder of a tree cannot be asked for a file of rules: the path of the file is too long. -/
def Unaskable (root : Path) (node : Node) (refusal : Refusal) : Prop :=
  ∃ folder found name, node.at? folder = some found ∧ found.isFolder = true ∧ name ∈ ruleFileNames ∧
    Workspace.pathLimit < (root ++ (⟨"", folder ++ [name]⟩ : Path)).text.utf8ByteSize ∧
    refusal = ⟨root ++ (⟨"", folder ++ [name]⟩ : Path), .nameTooLong⟩

theorem ignoreFileRules_within (options : Options) (folder : String) (text : List Char) :
    (ignoreFileRules options folder text).2.Within folder := by
  simp only [ignoreFileRules]
  split
  · exact .empty folder
  · exact ⟨by simp, by simp, by simp, by simp⟩

theorem lineRules_within (catalog : Catalog) (options : Options) (line : AttributeLine)
    (rule : PathRule) : (line.rules catalog options rule).Within rule.folder := by
  refine ⟨?_, ?_, ?_, ?_⟩ <;> intro found hf <;> simp only [AttributeLine.rules] at hf <;>
    split at hf <;> simp_all

theorem attributeRules_within (catalog : Catalog) (options : Options) (folder : String)
    (lines : List AttributeLine) : (attributeRules catalog options folder lines).2.Within folder := by
  induction lines with
  | nil => exact .empty folder
  | cons line rest ih =>
    simp only [attributeRules]
    split
    · rename_i matcher _
      exact RuleSet.Within.append (lineRules_within catalog options line ⟨matcher, folder⟩) ih
    · exact ih

theorem attributesFileRules_within (catalog : Catalog) (options : Options) (folder : String)
    (text : List Char) : (attributesFileRules catalog options folder text).2.Within folder :=
  attributeRules_within catalog options folder _

theorem declaredIn_within {node : Node} {folder : Place} {name : String} {asked : Bool}
    {rulesOf : List Char → Journal × RuleSet} {text : String}
    (h : ∀ content, (rulesOf content).2.Within text) :
    (declaredIn node folder name asked rulesOf).Within text := by
  unfold declaredIn
  split
  · exact h _
  · exact .empty text

theorem declared_within (catalog : Catalog) (options : Options) (node : Node) (folder : Place) :
    (declared catalog options node folder).Within (relText folder) := by
  unfold declared
  split
  · exact .empty _
  · exact RuleSet.Within.append (declaredIn_within (ignoreFileRules_within options _))
      (declaredIn_within (attributesFileRules_within catalog options _))

theorem declared_congr {catalog : Catalog} {options : Options} {node other : Node} {folder : Place}
    (h : ∀ name ∈ ruleFileNames, node.content? (folder ++ [name]) = other.content? (folder ++ [name])) :
    declared catalog options node folder = declared catalog options other folder := by
  have hi := h ignoreFileName (by simp [ruleFileNames])
  have ha := h attributesFileName (by simp [ruleFileNames])
  simp only [declared, declaredIn, hi, ha]

/-- The rules of matchers for paths below the root. -/
def rootRules (origin : RuleOrigin) (matchers : List Matcher) : List IgnoreRule :=
  matchers.map fun matcher => ⟨⟨matcher, ""⟩, origin⟩

/-- The rule of the globs that the options supply, if any compiles. -/
def suppliedRules (options : Options) : List IgnoreRule :=
  let matchers := (globsOf "ignored_files" options.ignoredFiles).2
  if matchers.isEmpty then [] else rootRules .supplied [.join matchers]

theorem builtin_keeping {options : Options} (kept : options.keepVendored = true) (catalog : Catalog) :
    (Resolver.builtin catalog options).2 = .ok { ignores := suppliedRules options } := by
  simp only [Resolver.builtin, kept, ↓reduceIte]
  rfl

/-- A resolver starts with the globs that the options supply, and unless vendored files are kept with
all patterns of the catalog. -/
theorem builtin_eq_ok {catalog : Catalog} {options : Options} {base : RuleSet}
    (h : (Resolver.builtin catalog options).2 = .ok base) :
    options.keepVendored = true ∧ base = { ignores := suppliedRules options } ∨
      options.keepVendored = false ∧ ∃ vendor generated,
        (compileEach .regex RuleOrigin.builtinVendor.name catalog.vendor).2 = .ok vendor ∧
        (compileEach .regex RuleOrigin.builtinGenerated.name catalog.generated).2 = .ok generated ∧
        base = { ignores := rootRules .builtinVendor vendor ++ rootRules .builtinGenerated generated ++
          suppliedRules options } := by
  cases hk : options.keepVendored with
  | true =>
    rw [builtin_keeping hk] at h
    exact .inl ⟨rfl, (Except.ok.inj h).symm⟩
  | false =>
    right
    simp only [Resolver.builtin, hk, Bool.false_eq_true, ↓reduceIte] at h
    cases hv : (compileEach .regex RuleOrigin.builtinVendor.name catalog.vendor).2 with
    | error e => simp [hv, Except.map] at h
    | ok vendor =>
      cases hg : (compileEach .regex RuleOrigin.builtinGenerated.name catalog.generated).2 with
      | error e => simp [hv, hg, Except.map] at h
      | ok generated =>
        simp only [hv, hg, Except.map, Except.ok.injEq] at h
        exact ⟨rfl, vendor, generated, rfl, rfl, h.symm⟩

/-- What is read one after the other. Where the first goes wrong, the second is not read. -/
def Resolver.Reading.followedBy (first second : Resolver.Reading) : Resolver.Reading :=
  if first.fault.isSome then first
  else
    { journal := first.journal ++ second.journal, rules := first.rules ++ second.rules
      fault := second.fault }

theorem Resolver.folderRules_eq_followedBy (ws : Workspace) (resolver : Resolver) (folder : String) :
    resolver.folderRules ws folder =
      (resolver.fileRules ws folder ignoreFileName resolver.options.checkIgnored
        (ignoreFileRules resolver.options folder)).followedBy
      (resolver.fileRules ws folder attributesFileName resolver.options.checkAttributes
        (attributesFileRules resolver.catalog resolver.options folder)) := rfl

/-- A resolver that has no rules. -/
def bareResolver (root : Path) (catalog : Catalog) (options : Options) : Resolver :=
  { root, catalog, options, rules := {} }

/-- What comes of reading the files of rules in a folder below a root. A quick run reads none. -/
def reading (ws : Workspace) (root : Path) (catalog : Catalog) (options : Options) (folder : Place) :
    Resolver.Reading :=
  if options.quick then {}
  else (bareResolver root catalog options).folderRules ws (relText folder)

/-- What a folder below a root holds in its files of rules. -/
def heldIn (ws : Workspace) (root : Path) (catalog : Catalog) (options : Options) (folder : Place) :
    RuleSet :=
  (reading ws root catalog options folder).rules

theorem fileRules_within (ws : Workspace) (resolver : Resolver) (folder name : String) (asked : Bool)
    {rulesOf : List Char → Journal × RuleSet} {text : String}
    (h : ∀ content, (rulesOf content).2.Within text) :
    (resolver.fileRules ws folder name asked rulesOf).rules.Within text := by
  unfold Resolver.fileRules
  split
  · exact .empty text
  · split
    · exact .empty text
    · exact .empty text
    · exact h _

theorem folderRules_within (ws : Workspace) (resolver : Resolver) (folder : String) :
    (resolver.folderRules ws folder).rules.Within folder := by
  have hignored := fileRules_within ws resolver folder ignoreFileName resolver.options.checkIgnored
    (ignoreFileRules_within resolver.options folder)
  have hattributes := fileRules_within ws resolver folder attributesFileName
    resolver.options.checkAttributes
    (attributesFileRules_within resolver.catalog resolver.options folder)
  rw [Resolver.folderRules_eq_followedBy, Resolver.Reading.followedBy]
  split
  · exact hignored
  · exact hignored.append hattributes

theorem reading_within (ws : Workspace) (root : Path) (catalog : Catalog) (options : Options)
    (folder : Place) : (reading ws root catalog options folder).rules.Within (relText folder) := by
  unfold reading
  split
  · exact .empty _
  · exact folderRules_within ws _ _

section
variable {ws : Workspace} {root : Path} {catalog : Catalog} {options : Options} {node : Node}
  {resolver : Resolver}

theorem folderRules_eq (hr : resolver.root = root) (hc : resolver.catalog = catalog)
    (ho : resolver.options = options) (active : options.quick = false) (folder : Place) :
    resolver.folderRules ws (relText folder) = reading ws root catalog options folder := by
  subst hr hc ho
  rw [reading, active, if_neg (by simp)]
  rfl

theorem append_ruleFile (root : Path) {folder : Place} (names : ∀ n ∈ folder, IsName n)
    {name : String} (hn : IsName name) :
    root ++ Path.ofText (relText folder) ++ Path.ofText name =
      root ++ (⟨"", folder ++ [name]⟩ : Path) := by
  rw [ofText_relText names, ofText_name hn]
  simp [Workspace.append_relative, List.append_assoc]

/-- A file of rules is read as the tree has it, or its path is too long to be asked for. -/
theorem fileRules_below (holds : ws.HoldsTree root node) (hr : resolver.root = root)
    {folder : Place} {found : Node} (hf : node.at? folder = some found)
    (isFolder : found.isFolder = true) {name : String} (hn : name ∈ ruleFileNames) (asked : Bool)
    (rulesOf : List Char → Journal × RuleSet) :
    (resolver.fileRules ws (relText folder) name asked rulesOf).fault = none ∧
        (resolver.fileRules ws (relText folder) name asked rulesOf).rules =
          declaredIn node folder name asked rulesOf ∨
      ∃ refusal, (resolver.fileRules ws (relText folder) name asked rulesOf).fault = some refusal ∧
        Unaskable root node refusal := by
  have hnames := (holds.wellNamed.at? hf).1
  have hname := isName_of_ruleFile hn
  cases asked with
  | false => exact .inl ⟨rfl, rfl⟩
  | true =>
    rw [Resolver.fileRules, Resolver.textIn?, hr, append_ruleFile root hnames hname]
    rcases holds.readIfFile_below hf isFolder hname (ruleFile_short hn) with he | ⟨hlong, he⟩
    · left
      rw [he]
      unfold declaredIn
      cases node.content? (folder ++ [name]) <;> exact ⟨rfl, rfl⟩
    · right
      rw [he]
      exact ⟨_, rfl, folder, found, name, hf, isFolder, hn, hlong, rfl⟩

theorem folderRules_below (holds : ws.HoldsTree root node) (hr : resolver.root = root)
    (active : resolver.options.quick = false) {folder : Place} {found : Node}
    (hf : node.at? folder = some found) (isFolder : found.isFolder = true) :
    (resolver.folderRules ws (relText folder)).fault = none ∧
        (resolver.folderRules ws (relText folder)).rules =
          declared resolver.catalog resolver.options node folder ∨
      ∃ refusal, (resolver.folderRules ws (relText folder)).fault = some refusal ∧
        Unaskable root node refusal := by
  have hi : ignoreFileName ∈ ruleFileNames := by simp [ruleFileNames]
  have ha : attributesFileName ∈ ruleFileNames := by simp [ruleFileNames]
  have hignore := fileRules_below holds hr hf isFolder hi resolver.options.checkIgnored
    (ignoreFileRules resolver.options (relText folder))
  have hattributes := fileRules_below holds hr hf isFolder ha resolver.options.checkAttributes
    (attributesFileRules resolver.catalog resolver.options (relText folder))
  rw [Resolver.folderRules_eq_followedBy, Resolver.Reading.followedBy]
  rcases hignore with ⟨hfault, hrules⟩ | ⟨refusal, hfault, hlong⟩
  · rw [if_neg (by simp [hfault])]
    rcases hattributes with ⟨hfault', hrules'⟩ | ⟨refusal, hfault', hlong⟩
    · left
      refine ⟨hfault', ?_⟩
      rw [declared, active, if_neg (by simp), ← hrules, ← hrules']
    · exact .inr ⟨refusal, hfault', hlong⟩
  · right
    rw [if_pos (by simp [hfault])]
    exact ⟨refusal, hfault, hlong⟩

/-- What is read in a folder of a tree is what the tree declares, or some path is too long. -/
theorem reading_below (holds : ws.HoldsTree root node) (catalog : Catalog) (options : Options)
    {folder : Place} {found : Node} (hf : node.at? folder = some found)
    (isFolder : found.isFolder = true) :
    (reading ws root catalog options folder).fault = none ∧
        (reading ws root catalog options folder).rules = declared catalog options node folder ∨
      ∃ refusal, (reading ws root catalog options folder).fault = some refusal ∧
        Unaskable root node refusal := by
  cases hq : options.quick with
  | true => simp [reading, declared, hq]
  | false =>
    have hroot : (bareResolver root catalog options).root = root := rfl
    rw [reading, hq, if_neg (by simp)]
    exact folderRules_below holds hroot hq hf isFolder

theorem reading_declared (holds : ws.HoldsTree root node) {folder : Place} {found : Node}
    (hf : node.at? folder = some found) (isFolder : found.isFolder = true)
    (readable : (reading ws root catalog options folder).fault = none) :
    (reading ws root catalog options folder).rules = declared catalog options node folder := by
  rcases reading_below holds catalog options hf isFolder with ⟨_, hrules⟩ | ⟨refusal, hfault, _⟩
  · exact hrules
  · simp [readable] at hfault

theorem reading_refused (holds : ws.HoldsTree root node) {folder : Place} {found : Node}
    (hf : node.at? folder = some found) (isFolder : found.isFolder = true) {refusal : Refusal}
    (fault : (reading ws root catalog options folder).fault = some refusal) :
    Unaskable root node refusal := by
  rcases reading_below holds catalog options hf isFolder with ⟨hnone, _⟩ | ⟨_, hfault, hlong⟩
  · simp [hnone] at fault
  · rwa [Option.some.inj (fault.symm.trans hfault)]

end

/-- A resolver that has read folders from the root down, each of which held rules of its own. -/
structure Reads (root : Path) (catalog : Catalog) (options : Options) (own : Place → RuleSet)
    (base : RuleSet) (folders : List Place) (resolver : Resolver) : Prop where
  root_eq : resolver.root = root
  catalog_eq : resolver.catalog = catalog
  options_eq : resolver.options = options
  rules_eq : resolver.rules = RuleSet.gather own base folders
  loaded_eq : options.quick = false → resolver.loaded = folders.map relText
  topDown : TopDown folders
  names : ∀ folder ∈ folders, ∀ name ∈ folder, IsName name
  within : ∀ folder ∈ folders, (own folder).Within (relText folder)

section
variable {ws : Workspace} {root : Path} {catalog : Catalog} {options : Options}
  {own : Place → RuleSet} {base : RuleSet} {folders : List Place} {resolver : Resolver}

theorem Reads.on_eq (h : Reads root catalog options own base folders resolver) {place : Place}
    (hne : place ≠ []) (names : ∀ name ∈ place, IsName name)
    (covered : ∀ folder, StrictlyAbove folder place → folder ∈ folders) (isFolder : Bool) :
    resolver.rules.on (ruleText isFolder place) =
      (RuleSet.gather own base (above place)).on (ruleText isFolder place) := by
  rw [h.rules_eq]
  exact RuleSet.on_gather_above h.topDown h.within h.names hne names covered isFolder

theorem Reads.ignores_eq (h : Reads root catalog options own base folders resolver) {place : Place}
    (hne : place ≠ []) (names : ∀ name ∈ place, IsName name)
    (covered : ∀ folder, StrictlyAbove folder place → folder ∈ folders) (isFolder : Bool) :
    resolver.ignores (ruleText isFolder place) =
      ((RuleSet.gather own base (above place)).exclusion? (ruleText isFolder place)).isSome := by
  rw [Resolver.ignores, Resolver.exclusion?]
  rw [RuleSet.exclusion?_congr (h.on_eq hne names covered isFolder)]

theorem Reads.not_loaded (h : Reads root catalog options own base folders resolver)
    (active : options.quick = false) {folder : Place} (names : ∀ name ∈ folder, IsName name)
    (fresh : folder ∉ folders) : resolver.loaded.contains (relText folder) = false := by
  rw [h.loaded_eq active, ← Bool.not_eq_true, List.contains_iff_mem, List.mem_map]
  rintro ⟨other, ho, he⟩
  rw [relText_injective (h.names other ho) names he] at ho
  exact fresh ho

theorem Reads.load (h : Reads root catalog options own base folders resolver) {folder : Place}
    (names : ∀ name ∈ folder, IsName name) (fresh : ∀ other ∈ folders, ¬ folder <+: other)
    (admitted : folder ≠ [] → resolver.ignores (ruleText true folder) = false)
    (holds : (reading ws root catalog options folder).fault = none →
      (reading ws root catalog options folder).rules = own folder) :
    (resolver.load ws (relText folder)).fault = (reading ws root catalog options folder).fault ∧
      ((reading ws root catalog options folder).fault = none →
        Reads root catalog options own base (folders ++ [folder])
          (resolver.load ws (relText folder)).resolver) := by
  have htop : TopDown (folders ++ [folder]) := by
    refine List.pairwise_append.mpr ⟨h.topDown, List.pairwise_singleton _ _, ?_⟩
    intro other ho last hl
    rw [List.mem_singleton.mp hl]
    exact fresh other ho
  have hall : ∀ other ∈ folders ++ [folder], ∀ name ∈ other, IsName name := by
    intro other ho
    rcases List.mem_append.mp ho with ho | ho
    · exact h.names other ho
    · rw [List.mem_singleton.mp ho]
      exact names
  have hwithin (hown : (reading ws root catalog options folder).rules = own folder) :
      ∀ other ∈ folders ++ [folder], (own other).Within (relText other) := by
    intro other ho
    rcases List.mem_append.mp ho with ho | ho
    · exact h.within other ho
    · rw [List.mem_singleton.mp ho, ← hown]
      exact reading_within ws root catalog options folder
  cases hq : options.quick with
  -- A quick run reads nothing, and what the folder holds is then nothing as well.
  | true =>
    have hload : resolver.load ws (relText folder) = { resolver } := by
      rw [Resolver.load, if_pos (by simp [h.options_eq, hq])]
    have hreading : reading ws root catalog options folder = {} := by rw [reading, if_pos hq]
    rw [hload, hreading]
    refine ⟨rfl, fun _ => ⟨h.root_eq, h.catalog_eq, h.options_eq, ?_, by simp [hq], htop, hall, ?_⟩⟩
    · rw [RuleSet.gather_concat, ← holds (by rw [hreading]), hreading, RuleSet.append_empty, h.rules_eq]
    · exact hwithin (holds (by rw [hreading]))
  | false =>
    have hopen : ¬ ((relText folder != "" && resolver.ignores (relText folder ++ "/")) = true) := by
      by_cases hne : folder = []
      · simp [hne]
      · have := admitted hne
        rw [ruleText_folder] at this
        simp [this]
    have hnew : folder ∉ folders := fun hm => fresh folder hm List.prefix_rfl
    have hgo : ¬ ((resolver.options.quick || resolver.loaded.contains (relText folder)) = true) := by
      rw [h.options_eq, hq, h.not_loaded hq names hnew]
      simp
    simp only [Resolver.load, if_neg hgo, if_neg hopen,
      folderRules_eq h.root_eq h.catalog_eq h.options_eq hq folder]
    refine ⟨trivial, fun hfault => ⟨h.root_eq, h.catalog_eq, h.options_eq, ?_, ?_, htop, hall, ?_⟩⟩
    · rw [RuleSet.gather_concat, holds hfault, h.rules_eq]
    · intro _
      simp [h.loaded_eq hq]
    · exact hwithin (holds hfault)

theorem Reads.load_again (h : Reads root catalog options own base folders resolver)
    {folder : Place} (hm : folder ∈ folders) :
    resolver.load ws (relText folder) = { resolver } := by
  rw [Resolver.load, if_pos]
  cases hq : options.quick with
  | true => simp [h.options_eq, hq]
  | false =>
    rw [h.loaded_eq hq, Bool.or_eq_true, List.contains_iff_mem]
    exact .inr (List.mem_map_of_mem hm)

theorem Reads.start (root : Path) (catalog : Catalog) (options : Options) (own : Place → RuleSet)
    (base : RuleSet) :
    Reads root catalog options own base [] { root, catalog, options, rules := base } :=
  ⟨rfl, rfl, rfl, rfl, fun _ => rfl, List.Pairwise.nil, by simp, by simp⟩

end

end Polyglot
