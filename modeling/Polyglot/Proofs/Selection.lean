import Polyglot.Proofs.FolderRuns

namespace Polyglot.Analysis

open Polyglot.Files

/-- The matchers of the patterns that compile. -/
def compiled (dialect : PatternDialect) (patterns : List String) : List Matcher :=
  patterns.filterMap fun pattern => (compilePattern dialect "" pattern).toOption

/-- The globs of one file act together, so that one can take back what others match. -/
def joined (matchers : List Matcher) : List Matcher :=
  if matchers.isEmpty then [] else [.join matchers]

/-- What excludes paths as they are seen from the root. -/
def rootMatchers (catalog : Catalog) (options : Options) : List Matcher :=
  (if options.keepVendored then [] else
    compiled .regex catalog.vendor ++ compiled .regex catalog.generated) ++
  joined (compiled .glob options.ignoredFiles)

/-- What an ignore file excludes. -/
def ignoreFileMatchers (content : ByteArray) : List Matcher :=
  joined (compiled .glob ((linesOf (textOf content)).filter isIgnoreLine))

/-- What an attributes file excludes. -/
def attributesFileMatchers (content : ByteArray) : List Matcher :=
  let lines := (linesOf (textOf content)).filterMap AttributeLine.ofText?
  compiled .glob ((lines.filter AttributeLine.excludes).map AttributeLine.pattern)

/-- What a folder of a tree declares to be excluded, as far as the options let it be read and used. -/
def folderMatchers (options : Options) (node : Node) (folder : Place) : List Matcher :=
  if options.quick || options.keepVendored then []
  else
    (if options.checkIgnored then
      (node.content? (folder ++ [ignoreFileName])).toList.flatMap ignoreFileMatchers else []) ++
    (if options.checkAttributes then
      (node.content? (folder ++ [attributesFileName])).toList.flatMap attributesFileMatchers else [])

/-- Whether a place is matched, from the root or from a folder above it. -/
def Matches (catalog : Catalog) (options : Options) (node : Node) (isFolder : Bool)
    (place : Place) : Prop :=
  (∃ matcher ∈ rootMatchers catalog options, matcher.test (ruleText isFolder place) = true) ∨
    ∃ folder rest, rest ≠ [] ∧ place = folder ++ rest ∧
      ∃ matcher ∈ folderMatchers options node folder, matcher.test (ruleText isFolder rest) = true

/-- A file that is analysed. -/
structure Selected (catalog : Catalog) (options : Options) (node : Node) (place : Place) : Prop where
  file : (node.content? place).isSome = true
  visible : ∀ name ∈ place, isVersionControl name = false
  kept : ¬ Matches catalog options node false place
  reachable : ∀ folder, folder ≠ [] → StrictlyAbove folder place →
    ¬ Matches catalog options node true folder

/-- A pattern of the catalog that ends every run that uses it. -/
def FatalPattern (catalog : Catalog) (options : Options) (error : PatternError) : Prop :=
  options.keepVendored = false ∧ error.fatal = true ∧
    ∃ pattern ∈ catalog.vendor ++ catalog.generated, ∃ source,
      compilePattern .regex source pattern = .error error

theorem toOption_compilePattern (dialect : PatternDialect) (source other pattern : String) :
    (compilePattern dialect source pattern).toOption =
      (compilePattern dialect other pattern).toOption := by
  cases dialect with
  | glob =>
    simp only [compilePattern]
    cases compileGlob pattern <;> rfl
  | regex =>
    simp only [compilePattern]
    cases compileRegex pattern <;> rfl

theorem compiled_cons (dialect : PatternDialect) (source pattern : String) (rest : List String) :
    compiled dialect (pattern :: rest) =
      (compilePattern dialect source pattern).toOption.toList ++ compiled dialect rest := by
  rw [toOption_compilePattern dialect source ""]
  rw [compiled, List.filterMap_cons]
  cases (compilePattern dialect "" pattern).toOption <;> rfl

theorem compileEach_ok {dialect : PatternDialect} {source : String} {patterns : List String}
    {matchers : List Matcher} (h : (compileEach dialect source patterns).2 = .ok matchers) :
    matchers = compiled dialect patterns := by
  induction patterns generalizing matchers with
  | nil =>
    cases h
    rfl
  | cons pattern rest ih =>
    rw [compiled_cons dialect source]
    rw [compileEach] at h
    cases hp : compilePattern dialect source pattern with
    | ok matcher =>
      simp only [hp] at h
      cases hr : (compileEach dialect source rest).2 with
      | error e => simp [hr, Except.map] at h
      | ok others =>
        rw [hr] at h
        cases h
        rw [ih hr]
        rfl
    | error e =>
      simp only [hp] at h
      split at h
      · cases h
      · exact ih h

theorem compileEach_error {dialect : PatternDialect} {source : String} {patterns : List String}
    {error : PatternError} (h : (compileEach dialect source patterns).2 = .error error) :
    error.fatal = true ∧
      ∃ pattern ∈ patterns, compilePattern dialect source pattern = .error error := by
  induction patterns with
  | nil => cases h
  | cons pattern rest ih =>
    have hlater : (compileEach dialect source rest).2 = .error error →
        error.fatal = true ∧ ∃ other ∈ pattern :: rest,
          compilePattern dialect source other = .error error := by
      intro hr
      obtain ⟨hfatal, other, hm, ho⟩ := ih hr
      exact ⟨hfatal, other, List.mem_cons_of_mem _ hm, ho⟩
    rw [compileEach] at h
    cases hp : compilePattern dialect source pattern with
    | ok matcher =>
      simp only [hp] at h
      cases hr : (compileEach dialect source rest).2 with
      | ok others => simp [hr, Except.map] at h
      | error e =>
        rw [hr] at h
        cases h
        exact hlater hr
    | error e =>
      simp only [hp] at h
      split at h
      · rename_i hfatal
        cases h
        exact ⟨hfatal, pattern, by simp, hp⟩
      · exact hlater h

theorem globsOf_eq (source : String) (patterns : List String) :
    (globsOf source patterns).2 = compiled .glob patterns := by
  induction patterns with
  | nil => rfl
  | cons pattern rest ih =>
    rw [compiled_cons .glob source, ← ih, globsOf]
    cases compilePattern .glob source pattern <;> rfl

/-- The rules of a resolver that has read no folder. -/
structure Starts (catalog : Catalog) (options : Options) (base : RuleSet) : Prop where
  matchers : base.ignores.map (fun rule => rule.matcher) = rootMatchers catalog options
  folders : ∀ rule ∈ base.ignores, rule.folder = ""

theorem matchers_rootRules (origin : RuleOrigin) (matchers : List Matcher) :
    (rootRules origin matchers).map (fun rule => rule.matcher) = matchers := by
  rw [rootRules, List.map_map]
  exact List.map_id _

theorem folder_rootRules {origin : RuleOrigin} {matchers : List Matcher} {rule : IgnoreRule}
    (h : rule ∈ rootRules origin matchers) : rule.folder = "" := by
  obtain ⟨matcher, _, rfl⟩ := List.mem_map.mp h
  rfl

theorem matchers_suppliedRules (options : Options) :
    (suppliedRules options).map (fun rule => rule.matcher) =
      joined (compiled .glob options.ignoredFiles) := by
  rw [suppliedRules, globsOf_eq, joined]
  split
  · rfl
  · exact matchers_rootRules _ _

theorem folder_suppliedRules {options : Options} {rule : IgnoreRule}
    (h : rule ∈ suppliedRules options) : rule.folder = "" := by
  simp only [suppliedRules] at h
  split at h
  · cases h
  · exact folder_rootRules h

theorem builtin_ok {catalog : Catalog} {options : Options} {base : RuleSet}
    (h : (Resolver.builtin catalog options).2 = .ok base) : Starts catalog options base := by
  rcases builtin_eq_ok h with ⟨hk, rfl⟩ | ⟨hk, vendor, generated, hv, hg, rfl⟩
  · refine ⟨?_, fun rule hr => folder_suppliedRules hr⟩
    simp only [matchers_suppliedRules, rootMatchers, hk, ↓reduceIte, List.nil_append]
  · refine ⟨?_, ?_⟩
    · simp only [List.map_append, matchers_rootRules, matchers_suppliedRules, rootMatchers, hk,
        Bool.false_eq_true, ↓reduceIte]
      rw [compileEach_ok hv, compileEach_ok hg]
    · intro rule hr
      rcases List.mem_append.mp hr with hr | hr
      · exact (List.mem_append.mp hr).elim folder_rootRules folder_rootRules
      · exact folder_suppliedRules hr

theorem builtin_error {catalog : Catalog} {options : Options} {error : PatternError}
    (h : (Resolver.builtin catalog options).2 = .error error) : FatalPattern catalog options error := by
  cases hk : options.keepVendored with
  | true =>
    simp only [Resolver.builtin, hk, ↓reduceIte] at h
    cases h
  | false =>
    simp only [Resolver.builtin, hk, Bool.false_eq_true, ↓reduceIte] at h
    cases hv : (compileEach .regex RuleOrigin.builtinVendor.name catalog.vendor).2 with
    | error e =>
      simp only [hv, Except.map] at h
      cases h
      obtain ⟨hfatal, pattern, hm, hp⟩ := compileEach_error hv
      exact ⟨hk, hfatal, pattern, List.mem_append_left _ hm, _, hp⟩
    | ok vendor =>
      cases hg : (compileEach .regex RuleOrigin.builtinGenerated.name catalog.generated).2 with
      | error e =>
        simp only [hv, hg, Except.map] at h
        cases h
        obtain ⟨hfatal, pattern, hm, hp⟩ := compileEach_error hg
        exact ⟨hk, hfatal, pattern, List.mem_append_right _ hm, _, hp⟩
      | ok generated =>
        simp only [hv, hg, Except.map] at h
        cases h

theorem declaredIn_matchers (node : Node) (folder : Place) (name : String) (asked : Bool)
    {rulesOf : List Char → Journal × RuleSet} {matchersOf : ByteArray → List Matcher}
    (h : ∀ content, (rulesOf (textOf content)).2.ignores.map (fun rule => rule.matcher) =
      matchersOf content) :
    (declaredIn node folder name asked rulesOf).ignores.map (fun rule => rule.matcher) =
      if asked then (node.content? (folder ++ [name])).toList.flatMap matchersOf else [] := by
  unfold declaredIn
  cases asked with
  | false => rfl
  | true =>
    cases node.content? (folder ++ [name]) with
    | none => rfl
    | some content => simp [h]

theorem ignoreFileRules_matchers (options : Options) (folder : String) (content : ByteArray) :
    (ignoreFileRules options folder (textOf content)).2.ignores.map (fun rule => rule.matcher) =
      if options.keepVendored then [] else ignoreFileMatchers content := by
  simp only [ignoreFileRules, globsOf_eq, ignoreFileMatchers, joined]
  cases options.keepVendored <;>
    cases (compiled .glob ((linesOf (textOf content)).filter isIgnoreLine)).isEmpty <;> rfl

theorem attributeRules_matchers (catalog : Catalog) (options : Options) (folder : String)
    (lines : List AttributeLine) :
    (attributeRules catalog options folder lines).2.ignores.map (fun rule => rule.matcher) =
      if options.keepVendored then [] else
        compiled .glob ((lines.filter AttributeLine.excludes).map AttributeLine.pattern) := by
  induction lines with
  | nil => cases options.keepVendored <;> rfl
  | cons line rest ih =>
    simp only [attributeRules]
    cases hk : options.keepVendored with
    | true =>
      rw [hk, if_pos rfl] at ih
      split
      · simp [AttributeLine.rules, hk, ih]
      · simp [ih]
    | false =>
      rw [hk, if_neg (by simp)] at ih
      cases he : line.excludes with
      | false =>
        rw [List.filter_cons_of_neg (by simp [he])]
        split
        · simp [AttributeLine.rules, hk, ih, he]
        · simp [ih]
      | true =>
        rw [List.filter_cons_of_pos he, List.map_cons,
          compiled_cons .glob (sourceIn folder attributesFileName)]
        split
        · rename_i hc
          simp [AttributeLine.rules, hk, ih, he, hc, Except.toOption]
        · rename_i hc
          simp [ih, hc, Except.toOption]

theorem attributesFileRules_matchers (catalog : Catalog) (options : Options) (folder : String)
    (content : ByteArray) :
    (attributesFileRules catalog options folder (textOf content)).2.ignores.map
        (fun rule => rule.matcher) =
      if options.keepVendored then [] else attributesFileMatchers content :=
  attributeRules_matchers catalog options folder _

/-- The ignore rules that a folder declares are those of its matchers. -/
theorem declared_matchers (catalog : Catalog) (options : Options) (node : Node) (folder : Place) :
    (declared catalog options node folder).ignores.map (fun rule => rule.matcher) =
      folderMatchers options node folder := by
  cases hq : options.quick with
  | true => simp [declared, folderMatchers, hq]
  | false =>
    have hi := declaredIn_matchers node folder ignoreFileName options.checkIgnored
      (ignoreFileRules_matchers options (relText folder))
    have ha := declaredIn_matchers node folder attributesFileName options.checkAttributes
      (attributesFileRules_matchers catalog options (relText folder))
    rw [declared, hq, if_neg (by simp), RuleSet.ignores_append, List.map_append, hi, ha,
      folderMatchers, hq]
    cases options.keepVendored <;> simp

theorem test_root {rule : IgnoreRule} (h : rule.folder = "") (path : String) :
    rule.test path = rule.matcher.test path := by
  simp [PathRule.test, scoped?, h]

theorem test_folder {rule : IgnoreRule} {folder rest : Place} (h : rule.folder = relText folder)
    (names : ∀ name ∈ folder ++ rest, IsName name) (hr : rest ≠ []) (isFolder : Bool) :
    rule.test (ruleText isFolder (folder ++ rest)) = rule.matcher.test (ruleText isFolder rest) := by
  simp [PathRule.test, h, scoped?_below names hr]

theorem exists_test_iff {rules : List IgnoreRule} {path seen : String}
    (h : ∀ rule ∈ rules, rule.test path = rule.matcher.test seen) :
    (∃ rule ∈ rules, rule.test path = true) ↔
      ∃ matcher ∈ rules.map fun rule => rule.matcher, matcher.test seen = true := by
  constructor
  · rintro ⟨rule, hm, ht⟩
    exact ⟨_, List.mem_map_of_mem hm, h rule hm ▸ ht⟩
  · rintro ⟨_, hm, ht⟩
    obtain ⟨rule, hin, rfl⟩ := List.mem_map.mp hm
    exact ⟨rule, hin, (h rule hin).symm ▸ ht⟩

theorem matches_iff {catalog : Catalog} {options : Options} {node : Node} {base : RuleSet}
    (starts : Starts catalog options base) {place : Place} (names : ∀ name ∈ place, IsName name)
    (isFolder : Bool) :
    (∃ rule ∈ (rulesAbove catalog options node base place).ignores,
        rule.test (ruleText isFolder place) = true) ↔
      Matches catalog options node isFolder place := by
  have hroot : (∃ rule ∈ base.ignores, rule.test (ruleText isFolder place) = true) ↔
      ∃ matcher ∈ rootMatchers catalog options, matcher.test (ruleText isFolder place) = true := by
    rw [← starts.matchers]
    exact exists_test_iff fun rule hm => test_root (starts.folders rule hm) _
  have hfolder (folder rest : Place) (hr : rest ≠ []) (he : place = folder ++ rest) :
      (∃ rule ∈ (declared catalog options node folder).ignores,
          rule.test (ruleText isFolder place) = true) ↔
        ∃ matcher ∈ folderMatchers options node folder,
          matcher.test (ruleText isFolder rest) = true := by
    subst he
    rw [← declared_matchers catalog]
    have hwithin := (declared_within catalog options node folder).ignores
    exact exists_test_iff fun rule hm => test_folder (hwithin rule hm) names hr isFolder
  rw [rulesAbove, RuleSet.gather_ignores, Matches, ← hroot]
  constructor
  · rintro ⟨rule, hm, ht⟩
    rcases List.mem_append.mp hm with hm | hm
    · exact .inl ⟨rule, hm, ht⟩
    · obtain ⟨folder, ha, hm⟩ := List.mem_flatMap.mp hm
      obtain ⟨rest, hr, he⟩ := mem_above.mp ha
      exact .inr ⟨folder, rest, hr, he, (hfolder folder rest hr he).mp ⟨rule, hm, ht⟩⟩
  · rintro (⟨rule, hm, ht⟩ | ⟨folder, rest, hr, he, hmatch⟩)
    · exact ⟨rule, List.mem_append_left _ hm, ht⟩
    · obtain ⟨rule, hm, ht⟩ := (hfolder folder rest hr he).mpr hmatch
      have ha : folder ∈ above place := mem_above.mpr ⟨rest, hr, he⟩
      exact ⟨rule, List.mem_append_right _ (List.mem_flatMap.mpr ⟨folder, ha, hm⟩), ht⟩

theorem leavesOut_iff {catalog : Catalog} {options : Options} {node : Node} {base : RuleSet}
    (starts : Starts catalog options base) {place : Place} (hne : place ≠ [])
    (names : ∀ name ∈ place, IsName name) (isFolder : Bool) :
    leavesOut catalog options node base isFolder place = true ↔
      (∃ name ∈ place, isVersionControl name = true) ∨ Matches catalog options node isFolder place := by
  rw [leavesOut, RuleSet.isSome_exclusion? _ hne names, Bool.or_eq_true, List.any_eq_true,
    List.any_eq_true, ← matches_iff starts names]

variable {ws : Workspace} {root : Path} {catalog : Catalog} {options : Options} {node : Node}

theorem admitted_iff_selected (holds : ws.HoldsTree root node) {base : RuleSet}
    (starts : Starts catalog options base) {place : Place} :
    Admitted catalog options node base place ↔ Selected catalog options node place := by
  constructor
  · rintro ⟨hfile, hkept, hway⟩
    have hnames := content?_names holds hfile
    have hnot : ¬ ((∃ name ∈ place, isVersionControl name = true) ∨
        Matches catalog options node false place) := by
      rw [← leavesOut_iff starts (content?_ne_nil holds hfile) hnames, hkept]
      simp
    refine ⟨hfile, ?_, fun hm => hnot (.inr hm), ?_⟩
    · intro name hn
      exact Bool.eq_false_iff.mpr fun hv => hnot (.inl ⟨name, hn, hv⟩)
    · intro folder hne ha hm
      have hl := (leavesOut_iff starts hne (fun n hn => hnames n (ha.isPrefix.subset hn)) true).mpr
        (.inr hm)
      rw [hway folder hne ha] at hl
      cases hl
  · rintro ⟨hfile, hvisible, hkept, hreach⟩
    have hnames := content?_names holds hfile
    refine ⟨hfile, ?_, ?_⟩
    · refine Bool.eq_false_iff.mpr fun hl => ?_
      rcases (leavesOut_iff starts (content?_ne_nil holds hfile) hnames false).mp hl with hv | hm
      · obtain ⟨name, hn, hv⟩ := hv
        rw [hvisible name hn] at hv
        cases hv
      · exact hkept hm
    · intro folder hne ha
      refine Bool.eq_false_iff.mpr fun hl => ?_
      have hsub := ha.isPrefix.subset
      rcases (leavesOut_iff starts hne (fun n hn => hnames n (hsub hn)) true).mp hl with hv | hm
      · obtain ⟨name, hn, hv⟩ := hv
        rw [hvisible name (hsub hn)] at hv
        cases hv
      · exact hreach folder hne ha hm

theorem not_unaskable {refusal : Refusal}
    (short : root.root.utf8ByteSize + (relText root.parts).utf8ByteSize + node.nameBytes +
      Workspace.nameLimit + 2 ≤ Workspace.pathLimit) : ¬ Unaskable root node refusal := by
  rintro ⟨folder, found, name, hf, -, hn, hlong, -⟩
  have hslash : "/".utf8ByteSize = 1 := by decide
  have hname := ruleFile_short hn
  have hfolder := Node.utf8ByteSize_relText_le hf
  have hrel : (relText (folder ++ [name])).utf8ByteSize ≤ node.nameBytes + 1 + name.utf8ByteSize := by
    by_cases he : folder = []
    · rw [he, List.nil_append, relText_singleton]
      omega
    · rw [relText_append he (by simp), relText_singleton, String.utf8ByteSize_append,
        String.utf8ByteSize_append, hslash]
      omega
  rw [text_below root (by simp), String.utf8ByteSize_append, String.utf8ByteSize_append] at hlong
  split at hlong
  · rw [String.utf8ByteSize_empty] at hlong
    omega
  · rw [String.utf8ByteSize_append, hslash] at hlong
    omega

/-- Resolving a tree without links takes up exactly the selected files, each once and in the order of
the walk. It fails only for a pattern of the catalog that ends every run, and for a path that is too
long to be asked for. -/
theorem resolveTree_selects (catalog : Catalog) (options : Options) (holds : ws.HoldsTree root node) :
    match (resolveTree ws catalog options root).2 with
    | .ok entries => ∃ (places : List Place) (rules : RuleSet),
        entries = places.map (entryAt root rules) ∧ places.Nodup ∧ places.Pairwise Precedes ∧
          ∀ place, place ∈ places ↔ Selected catalog options node place
    | .error (.pattern error) => FatalPattern catalog options error
    | .error (.refused refusal) => Unaskable root node refusal
    | .error (.missing _) => False := by
  cases hb : (Resolver.builtin catalog options).2 with
  | error e =>
    rw [resolveTree_of_fault hb]
    exact builtin_error hb
  | ok base =>
    rcases resolveTree_of_builtin holds hb with
      ⟨places, rules, hentries, taken⟩ | ⟨refusal, hfail, hlong⟩
    · rw [hentries]
      refine ⟨places, rules, rfl, taken.nodup, taken.ordered, fun place => ?_⟩
      rw [taken.mem_iff, admitted_iff_selected holds (builtin_ok hb)]
    · rw [hfail]
      exact hlong

theorem smallTree_askable (refusal : Refusal) : ¬ Unaskable ⟨"", []⟩ Workspace.smallTree refusal :=
  not_unaskable (by decide)

/-- One of two files with an extension is ignored in its own folder. -/
theorem resolveTree_selects_smallTree :
    let ws : Workspace := ⟨Workspace.smallTree, []⟩
    ws.HoldsTree ⟨"", []⟩ Workspace.smallTree ∧
      ∃ (entries : List Entry) (places : List Place) (rules : RuleSet),
        (resolveTree ws mixedCatalog {} ⟨"", []⟩).2 = .ok entries ∧
        entries = places.map (entryAt ⟨"", []⟩ rules) ∧ places.Nodup ∧ places.Pairwise Precedes ∧
        (∀ place, place ∈ places ↔ Selected mixedCatalog {} Workspace.smallTree place) ∧
        ["main.c"] ∈ places ∧ ["lib", "old.c"] ∉ places := by
  intro ws
  have holds : ws.HoldsTree ⟨"", []⟩ Workspace.smallTree := Workspace.smallTree_stands.holdsTree
  have hroot : rootMatchers mixedCatalog {} = [] := rfl
  have hnone : folderMatchers {} Workspace.smallTree [] = [] := by
    simp [folderMatchers, Workspace.smallTree, Node.content?, Node.at?, Node.child?, Node.entries,
      ignoreFileName, attributesFileName]
  have hmain : Selected mixedCatalog {} Workspace.smallTree ["main.c"] := by
    refine ⟨?_, by decide, ?_, ?_⟩
    · simp [Workspace.smallTree, Node.content?, Node.at?, Node.child?, Node.entries]
    · rintro (⟨matcher, hm, -⟩ | ⟨folder, rest, hne, hp, matcher, hm, -⟩)
      · rw [hroot] at hm
        cases hm
      · have hfolder : folder = [] := by
          cases folder with
          | nil => rfl
          | cons name others =>
            rw [List.cons_append, List.cons.injEq] at hp
            exact absurd (List.append_eq_nil_iff.mp hp.2.symm).2 hne
        rw [hfolder, hnone] at hm
        cases hm
    · intro folder hne ha
      exact absurd (List.length_eq_zero_iff.mp (Nat.lt_one_iff.mp ha.length_lt)) hne
  have hold : ¬ Selected mixedCatalog {} Workspace.smallTree ["lib", "old.c"] := by
    intro h
    have hmatched : (folderMatchers {} Workspace.smallTree ["lib"]).any
        (·.test (ruleText false ["old.c"])) = true := by cbv
    exact h.kept (.inr ⟨["lib"], ["old.c"], by simp, rfl, List.any_eq_true.mp hmatched⟩)
  have h := resolveTree_selects mixedCatalog {} holds
  split at h
  · rename_i entries hentries
    obtain ⟨places, rules, hplaces, distinct, ordered, hselected⟩ := h
    exact ⟨holds, entries, places, rules, hentries, hplaces, distinct, ordered, hselected,
      (hselected _).mpr hmain, fun hm => hold ((hselected _).mp hm)⟩
  · obtain ⟨-, -, pattern, hm, -⟩ := h
    cases hm
  · exact absurd h (smallTree_askable _)
  · exact h.elim

end Polyglot.Analysis
