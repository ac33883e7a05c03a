import Polyglot.Proofs.LoadedRows

namespace Polyglot

open Polyglot.Files (Workspace)

def textAttributes : List String := ["text", "-binary"]

def binaryAttributes : List String := ["-text", "binary"]

/-- Whether an attribute decides the kind of content. -/
def decidesContent (word : String) : Bool := (textAttributes ++ binaryAttributes).contains word

namespace AttributeLine

/-- The first attribute that decides the kind of content forces text. -/
def ForcesText (line : AttributeLine) : Prop :=
  ∃ word ∈ textAttributes, line.attributes.find? decidesContent = some word

/-- A value is given to text before any attribute that decides the kind of content. -/
def SetsText (line : AttributeLine) : Prop :=
  ∃ word ∈ line.attributes.takeWhile (!decidesContent ·), Text.startsWith "text=" word = true

instance : DecidablePred ForcesText := fun line =>
  inferInstanceAs (Decidable (∃ word ∈ textAttributes,
    line.attributes.find? decidesContent = some word))

instance : DecidablePred SetsText := fun line =>
  inferInstanceAs (Decidable (∃ word ∈ line.attributes.takeWhile (!decidesContent ·),
    Text.startsWith "text=" word = true))

theorem contentKind?_of_decides {word : String} (h : decidesContent word = true) :
    contentKind? word = if word ∈ textAttributes then some .text else some .binary := by
  have hword : word = "text" ∨ word = "-binary" ∨ word = "-text" ∨ word = "binary" := by
    simpa [decidesContent, textAttributes, binaryAttributes] using h
  rcases hword with rfl | rfl | rfl | rfl <;> rfl

theorem contentKind?_of_not_decides {word : String} (h : decidesContent word = false) :
    contentKind? word = if Text.startsWith "text=" word then some .text else none := by
  have hword : word ≠ "text" ∧ word ≠ "-binary" ∧ word ≠ "-text" ∧ word ≠ "binary" := by
    simpa [decidesContent, textAttributes, binaryAttributes] using h
  obtain ⟨htext, hbinary, hnoText, hnoBinary⟩ := hword
  simp [contentKind?, htext, hbinary, hnoText, hnoBinary]

theorem kind?_eq_text_iff (line : AttributeLine) :
    line.kind? = some .text ↔ line.ForcesText ∨ line.SetsText := by
  obtain ⟨pattern, attributes⟩ := line
  simp only [kind?, ForcesText, SetsText]
  induction attributes with
  | nil => simp
  | cons word rest ih =>
    rw [List.findSome?_cons]
    cases hw : decidesContent word with
    | true =>
      rw [contentKind?_of_decides hw, List.find?_cons_of_pos hw]
      by_cases ht : word ∈ textAttributes <;> simp [ht, hw]
    | false =>
      rw [contentKind?_of_not_decides hw, List.find?_cons_of_neg (by simp [hw])]
      cases hs : Text.startsWith "text=" word with
      | true => simp [hw, hs]
      | false => simp [hw, hs, ih]

example : (⟨"*", ["text=auto", "-text"]⟩ : AttributeLine).kind? = some .text :=
  (kind?_eq_text_iff _).mpr (.inr (by decide))

/-- A line in a folder matches a path below the folder. -/
def Matches (folder path : String) (line : AttributeLine) : Prop :=
  ∃ rel matcher, scoped? folder path = some rel ∧
    compilePattern .glob (sourceIn folder attributesFileName) line.pattern = .ok matcher ∧
    matcher.test rel = true

end AttributeLine

theorem exists_matcher {source pattern : String} {holds : Matcher → Bool}
    (h : (compilePattern .glob source pattern).toOption.any holds = true) :
    ∃ matcher, compilePattern .glob source pattern = .ok matcher ∧ holds matcher = true := by
  cases hm : compilePattern .glob source pattern with
  | error e => simp [hm, Except.toOption] at h
  | ok matcher => exact ⟨matcher, rfl, by simpa [hm, Except.toOption] using h⟩

theorem mem_text_attributeRules {catalog : Catalog} {options : Options} {folder : String}
    {lines : List AttributeLine} {rule : PathRule} :
    rule ∈ (attributeRules catalog options folder lines).2.text ↔
      ∃ line ∈ lines, line.kind? = some .text ∧ rule.folder = folder ∧
        compilePattern .glob (sourceIn folder attributesFileName) line.pattern = .ok rule.matcher := by
  induction lines with
  | nil => simp [attributeRules]
  | cons line rest ih =>
    simp only [attributeRules, List.mem_cons, exists_eq_or_imp, ← ih]
    cases hc : compilePattern .glob (sourceIn folder attributesFileName) line.pattern with
    | error e => simp
    | ok matcher =>
      simp only [RuleSet.text_append, List.mem_append, AttributeLine.rules]
      refine or_congr_left ?_
      by_cases hk : line.kind? = some .text
      · rw [if_pos hk, List.mem_singleton]
        obtain ⟨found, place⟩ := rule
        simp only [hk, true_and, PathRule.mk.injEq, Except.ok.injEq]
        tauto
      · simp [hk]

theorem text_ignoreFileRules (options : Options) (folder : String) (text : List Char) :
    (ignoreFileRules options folder text).2.text = [] := by
  simp only [ignoreFileRules]
  split <;> rfl

namespace Resolver

variable {ws : Workspace} {fresh : Resolver}

/-- The text of a file of rules, if it is asked for and there. -/
def askedText (ws : Workspace) (resolver : Resolver) (folder name : String) (asked : Bool) :
    Except Files.Refusal (Option (List Char)) :=
  if asked then textIn? ws resolver folder name else .ok none

/-- The lines of the attributes file of a folder, which is read behind the ignore file. -/
def attributeLines (ws : Workspace) (resolver : Resolver) (folder : String) : List AttributeLine :=
  match resolver.askedText ws folder ignoreFileName resolver.options.checkIgnored,
    resolver.askedText ws folder attributesFileName resolver.options.checkAttributes with
  | .ok _, .ok (some text) => (linesOf text).filterMap AttributeLine.ofText?
  | _, _ => []

theorem fileRules_eq (resolver : Resolver) (folder name : String) (asked : Bool)
    (rulesOf : List Char → Journal × RuleSet) :
    resolver.fileRules ws folder name asked rulesOf =
      match resolver.askedText ws folder name asked with
      | .error e => { fault := some e }
      | .ok none => {}
      | .ok (some text) => { journal := (rulesOf text).1, rules := (rulesOf text).2 } := by
  cases asked <;> rfl

/-- The rules of a kind that ignore files do not make are those of the lines of the attributes file. -/
theorem folderRules_part {α : Type} {part : RuleSet → List α}
    (append : ∀ a b, part (a ++ b) = part a ++ part b) (empty : part {} = [])
    (ignoreless : ∀ options folder text, part (ignoreFileRules options folder text).2 = [])
    (resolver : Resolver) (folder : String) :
    part (resolver.folderRules ws folder).rules =
      part (attributeRules resolver.catalog resolver.options folder
        (resolver.attributeLines ws folder)).2 := by
  have hnone : part (attributeRules resolver.catalog resolver.options folder []).2 = [] := empty
  simp only [folderRules, fileRules_eq, attributeLines]
  cases resolver.askedText ws folder ignoreFileName resolver.options.checkIgnored with
  | error e => simp [hnone, empty]
  | ok ignored =>
    cases resolver.askedText ws folder attributesFileName resolver.options.checkAttributes with
    | error e => cases ignored <;> simp [ignoreless, empty, hnone]
    | ok attributes =>
      cases ignored <;> cases attributes <;>
        simp [append, ignoreless, empty, hnone, attributesFileRules]

theorem text_folderRules (resolver : Resolver) (folder : String) :
    (resolver.folderRules ws folder).rules.text =
      (attributeRules resolver.catalog resolver.options folder
        (resolver.attributeLines ws folder)).2.text :=
  folderRules_part RuleSet.text_append rfl text_ignoreFileRules resolver folder

/-- The rules that are loaded leave a folder out. -/
def Bars (resolver : Resolver) (folder : String) : Prop :=
  folder ≠ "" ∧ resolver.ignores (folder ++ "/") = true

/-- A folder is read at its turn in a row: nothing is read in a quick run, and else a folder is if it
comes for the first time and the rules that are loaded by then do not leave it out. -/
structure ReadsIn (ws : Workspace) (fresh : Resolver) (folders : List String) (folder : String) :
    Prop where
  active : fresh.options.quick = false
  turn : ∃ front behind, folders = front ++ folder :: behind ∧ folder ∉ front ∧
    ¬ (fresh.loadFolders ws front).Bars folder

theorem readsIn_concat {folders : List String} {last folder : String} :
    ReadsIn ws fresh (folders ++ [last]) folder ↔ ReadsIn ws fresh folders folder ∨
      fresh.options.quick = false ∧ folder = last ∧ last ∉ folders ∧
        ¬ (fresh.loadFolders ws folders).Bars last := by
  constructor
  · rintro ⟨active, front, behind, hrow, hfirst, hbars⟩
    rcases List.eq_nil_or_concat behind with rfl | ⟨others, final, rfl⟩
    · obtain ⟨rfl, hlast⟩ := List.append_inj' hrow rfl
      obtain rfl : last = folder := by simpa using hlast
      exact .inr ⟨active, rfl, hfirst, hbars⟩
    · rw [List.concat_eq_append, ← List.cons_append, ← List.append_assoc] at hrow
      exact .inl ⟨active, front, others, (List.append_inj' hrow rfl).1, hfirst, hbars⟩
  · rintro (⟨active, front, behind, rfl, hfirst, hbars⟩ | ⟨active, rfl, hfirst, hbars⟩)
    · exact ⟨active, front, behind ++ [last], by simp, hfirst, hbars⟩
    · exact ⟨active, folders, [], rfl, hfirst, hbars⟩

/-- What reading depends on is the same after a row, and what is remembered is the row. -/
structure KeptIn (fresh : Resolver) (folders : List String) (resolver : Resolver) : Prop where
  root_eq : resolver.root = fresh.root
  catalog_eq : resolver.catalog = fresh.catalog
  options_eq : resolver.options = fresh.options
  loaded_iff : fresh.options.quick = false →
    ∀ folder, folder ∈ resolver.loaded ↔ folder ∈ fresh.loaded ∨ folder ∈ folders

theorem KeptIn.load {folders : List String} {resolver : Resolver} (h : KeptIn fresh folders resolver)
    (folder : String) : KeptIn fresh (folders ++ [folder]) (resolver.load ws folder).resolver := by
  unfold Resolver.load
  split
  · rename_i hdone
    refine ⟨h.root_eq, h.catalog_eq, h.options_eq, fun active other => ?_⟩
    have hloaded : folder ∈ resolver.loaded := by
      simpa [h.options_eq, active] using hdone
    rw [List.mem_append, List.mem_singleton, h.loaded_iff active, ← or_assoc, iff_self_or]
    rintro rfl
    exact (h.loaded_iff active _).mp hloaded
  · have hloaded : fresh.options.quick = false → ∀ other,
        other ∈ resolver.loaded ++ [folder] ↔ other ∈ fresh.loaded ∨ other ∈ folders ++ [folder] := by
      intro active other
      rw [List.mem_append, h.loaded_iff active, List.mem_append, or_assoc]
    split
    · exact ⟨h.root_eq, h.catalog_eq, h.options_eq, hloaded⟩
    · exact ⟨h.root_eq, h.catalog_eq, h.options_eq, hloaded⟩

theorem keptIn_loadFolders (folders : List String) :
    KeptIn fresh folders (fresh.loadFolders ws folders) := by
  induction folders using List.reverseRecOn with
  | nil => exact ⟨rfl, rfl, rfl, by simp [loadFolders]⟩
  | append_singleton front last ih =>
    rw [loadFolders_concat]
    exact ih.load last

theorem folderRules_kept {folders : List String} {resolver : Resolver}
    (h : KeptIn fresh folders resolver) (folder : String) :
    resolver.folderRules ws folder = fresh.folderRules ws folder := by
  obtain ⟨root, catalog, options, rules, loaded⟩ := resolver
  obtain ⟨rfl, rfl, rfl, -⟩ := h
  rfl

/-- The text rules after a row of folders are those of the folders that were read. -/
theorem mem_text_loadFolders (unread : fresh.loaded = []) (folders : List String) (rule : PathRule) :
    rule ∈ (fresh.loadFolders ws folders).rules.text ↔ rule ∈ fresh.rules.text ∨
      ∃ folder, ReadsIn ws fresh folders folder ∧ rule ∈ (fresh.folderRules ws folder).rules.text := by
  -- From the end: whether a folder is read depends on those before it.
  induction folders using List.reverseRecOn with
  | nil =>
    have hnone : ∀ folder, ¬ ReadsIn ws fresh [] folder := by
      rintro folder ⟨-, front, behind, hrow, -⟩
      simp at hrow
    simp [hnone, loadFolders]
  | append_singleton front last ih =>
    have kept : KeptIn fresh front (fresh.loadFolders ws front) := keptIn_loadFolders front
    have hsplit : (∃ folder, ReadsIn ws fresh (front ++ [last]) folder ∧
          rule ∈ (fresh.folderRules ws folder).rules.text) ↔
        (∃ folder, ReadsIn ws fresh front folder ∧ rule ∈ (fresh.folderRules ws folder).rules.text) ∨
          (fresh.options.quick = false ∧ last ∉ front ∧ ¬ (fresh.loadFolders ws front).Bars last) ∧
            rule ∈ (fresh.folderRules ws last).rules.text := by
      simp only [readsIn_concat, or_and_right, exists_or, and_assoc, exists_and_left, exists_eq_left]
    rw [hsplit, ← or_assoc, ← ih, loadFolders_concat, Resolver.load]
    split
    · rename_i hdone
      have hnot : ¬ (fresh.options.quick = false ∧ last ∉ front ∧
          ¬ (fresh.loadFolders ws front).Bars last) := by
        rintro ⟨active, hfirst, -⟩
        have hloaded : last ∈ (fresh.loadFolders ws front).loaded := by
          simpa [kept.options_eq, active] using hdone
        rw [kept.loaded_iff active, unread] at hloaded
        exact hfirst (by simpa using hloaded)
      simp [hnot]
    · rename_i hnew
      obtain ⟨active, hloaded⟩ : fresh.options.quick = false ∧
          last ∉ (fresh.loadFolders ws front).loaded := by
        simpa [kept.options_eq] using hnew
      have hfirst : last ∉ front := fun hm => hloaded ((kept.loaded_iff active last).mpr (.inr hm))
      split
      · rename_i hbarred
        have hbars : (fresh.loadFolders ws front).Bars last := by simpa [Bars] using hbarred
        simp [hbars]
      · rename_i hopen
        have hbars : ¬ (fresh.loadFolders ws front).Bars last := by simpa [Bars] using hopen
        rw [folderRules_kept kept]
        simp [active, hfirst, hbars]

/-- A line applies to a path after a row of folders: it stands in the attributes file of a folder that
was read, and matches the path. -/
def Applies (ws : Workspace) (fresh : Resolver) (folders : List String) (path : String)
    (line : AttributeLine) : Prop :=
  ∃ folder, ReadsIn ws fresh folders folder ∧ line ∈ fresh.attributeLines ws folder ∧
    line.Matches folder path

theorem start_textless {root : Path} {catalog : Catalog} {options : Options}
    (started : (start root catalog options).2 = .ok fresh) :
    fresh.rules.text = [] ∧ fresh.loaded = [] := by
  simp only [start] at started
  cases hb : (builtin catalog options).2 with
  | error e => simp [hb, Except.map] at started
  | ok base =>
    simp only [hb, Except.map, Except.ok.injEq] at started
    subst started
    rcases builtin_eq_ok hb with ⟨-, rfl⟩ | ⟨-, _, _, -, -, rfl⟩ <;> exact ⟨rfl, rfl⟩

theorem test_iff {rule : PathRule} {path : String} :
    rule.test path = true ↔
      ∃ rel, scoped? rule.folder path = some rel ∧ rule.matcher.test rel = true := by
  rw [PathRule.test, Option.any_eq_true]

theorem isText_iff {root : Path} {catalog : Catalog} {options : Options}
    (started : (start root catalog options).2 = .ok fresh) (folders : List String) (path : String) :
    (fresh.loadFolders ws folders).rules.isText path = true ↔
      ∃ line, Applies ws fresh folders path line ∧ (line.ForcesText ∨ line.SetsText) := by
  obtain ⟨textless, unread⟩ := start_textless started
  simp only [RuleSet.isText, List.any_eq_true, mem_text_loadFolders unread, textless,
    List.not_mem_nil, false_or, text_folderRules, mem_text_attributeRules, test_iff]
  constructor
  · rintro ⟨rule, ⟨folder, reads, line, hline, htext, rfl, hpattern⟩, rel, hscoped, htest⟩
    exact ⟨line, ⟨rule.folder, reads, hline, rel, rule.matcher, hscoped, hpattern, htest⟩,
      line.kind?_eq_text_iff.mp htext⟩
  · rintro ⟨line, ⟨folder, reads, hline, rel, matcher, hscoped, hpattern, htest⟩, hsays⟩
    exact ⟨⟨matcher, folder⟩, ⟨folder, reads, line, hline, line.kind?_eq_text_iff.mpr hsays, rfl,
      hpattern⟩, rel, hscoped, htest⟩

end Resolver

namespace Analysis

variable {σ : Type} {ws : Workspace} {catalog : Catalog} {options : Options}
  {source : SampleSource σ} {paths : List Path} {samples : σ}

theorem isBinary_of_looks {entry : Entry} {content : ByteArray} (dropping : options.keepBinary = false)
    (looks : Files.hasBinaryExtension entry.path = true ∨ Files.looksBinary content = true)
    (text : entry.rules.isText entry.rel = false) : isBinary options entry content = true := by
  rcases looks with h | h <;> simp [isBinary, dropping, text, h]

theorem classify_binary {entry : Entry} {content : ByteArray} {session : Session σ}
    {item : Classified} (read : ws.read entry.path = .ok content)
    (binary : isBinary options entry content = true)
    (said : ((classify ws catalog options source entry).run session).1.2 = .ok item) :
    item.binary = true := by
  unfold classify at said
  simp only [read, binary, ↓reduceIte] at said
  cases said
  rfl

theorem listed_not_binary {entries : List Entry} {summary : Summary}
    (resolved : (resolveInputs ws (catalog.without options.ignoredLanguages) options paths).2 =
      .ok entries)
    (result : (run ws catalog options source paths samples).result = .ok summary) {entry : Entry}
    (hm : entry ∈ entries) (listed : (summary.files.get? entry.key).isSome = true) {content : ByteArray}
    (read : ws.read entry.path = .ok content) : isBinary options entry content = false := by
  obtain ⟨items, last, hc, hlast, -, rfl⟩ := run_eq_ok result
  obtain ⟨others, hothers, hall⟩ := classified_eq_ok hc
  obtain rfl : others = entries := Except.ok.inj (hothers.symm.trans resolved)
  have hfiles : last.result.files = Aggregator.labelsOf
      (Aggregator.retainedOf (catalog.without options.ignoredLanguages) options items) := by
    change last.summary.files = _
    exact Aggregator.files_addAll hlast (retained_eq hc ▸ retained_distinct)
  rw [hfiles, Aggregator.get?_labelsOf, Option.isSome_map] at listed
  obtain ⟨item, hfind⟩ := Option.isSome_iff_exists.mp listed
  have hpath : item.path = entry.key := by simpa using List.find?_some hfind
  obtain ⟨hitem, hretains⟩ := List.mem_filter.mp (List.mem_of_find?_eq_some hfind)
  obtain ⟨other, ho, session, said⟩ := classifyAll_mem hall hitem
  -- Keys are distinct, so nothing else is listed under the key.
  obtain rfl : other = entry := List.inj_on_of_nodup_map (resolveInputs_distinct resolved) ho hm
    ((classify_item said).1.symm.trans hpath)
  cases hbinary : isBinary options other content with
  | false => rfl
  | true => simp [Aggregator.retains, classify_binary read hbinary said] at hretains

/-- Text is forced by lines of attributes files and by nothing else: a path counts as text after a row
of folders exactly if a line of a file that was read applies to it and says so, and of the files that
look binary an analysis lists only those to which such a line applies. -/
theorem forcedText (ws : Workspace) (catalog : Catalog) (options : Options) :
    (∀ root fresh, (Resolver.start root catalog options).2 = .ok fresh → ∀ folders path,
      (fresh.loadFolders ws folders).rules.isText path = true ↔
        ∃ line, fresh.Applies ws folders path line ∧ (line.ForcesText ∨ line.SetsText)) ∧
    (options.keepBinary = false → ∀ (σ : Type) (source : SampleSource σ) paths samples entries summary,
      (resolveInputs ws (catalog.without options.ignoredLanguages) options paths).2 = .ok entries →
      (run ws catalog options source paths samples).result = .ok summary →
      ∀ entry ∈ entries, ∀ content, ws.read entry.path = .ok content →
        Files.hasBinaryExtension entry.path = true ∨ Files.looksBinary content = true →
        (summary.files.get? entry.key).isSome = true →
        ∃ root fresh folders line, RootOf ws paths entry root ∧
          (Resolver.start root (catalog.without options.ignoredLanguages) options).2 = .ok fresh ∧
          entry.rules = (fresh.loadFolders ws folders).rules ∧
          fresh.Applies ws folders entry.rel line ∧ (line.ForcesText ∨ line.SetsText)) := by
  refine ⟨fun root fresh started => Resolver.isText_iff started, ?_⟩
  intro dropping σ source paths samples entries summary resolved result entry hm content read looks
    listed
  obtain ⟨root, rootOf, resolver, ⟨fresh, folders, started, rfl⟩, hrules⟩ :=
    resolveInputs_from resolved entry hm
  have htext : entry.rules.isText entry.rel = true := by
    by_contra hnot
    have := listed_not_binary resolved result hm listed read
    rw [isBinary_of_looks dropping looks (by simpa using hnot)] at this
    cases this
  rw [hrules, Resolver.isText_iff started] at htext
  obtain ⟨line, applies, forces⟩ := htext
  exact ⟨root, fresh, folders, line, rootOf, started, hrules, applies, forces⟩

/-- A folder with an attributes file and a file that holds a zero byte. -/
def zeroUnder (attributes : ByteArray) : Workspace :=
  ⟨.folder [(attributesFileName, .file attributes), ("a.c", .file ⟨#[0]⟩)], []⟩

def zeroPath : Path := ⟨"", ["a.c"]⟩

/-- The attributes are one line, which makes a text of the file and says nothing else. -/
structure MarkedBy (attributes : ByteArray) (line : AttributeLine) (matcher : Matcher) : Prop where
  lines : (linesOf (Files.textOf attributes)).filterMap AttributeLine.ofText? = [line]
  compiles : compilePattern .glob attributesFileName line.pattern = .ok matcher
  test : matcher.test "a.c" = true
  kind : line.kind? = some .text
  excludes : line.excludes = false
  language : line.language? = none

/-- The resolver with which the file is found. -/
def zeroResolver (catalog : Catalog) : Resolver := bareResolver (Workspace.absolute []) catalog {}

section

variable {attributes : ByteArray} {line : AttributeLine} {matcher : Matcher}

theorem zeroUnder_ignoreFile : (zeroUnder attributes).readIfFile
    (Workspace.absolute [] ++ Path.ofText "" ++ Path.ofText ignoreFileName) = .ok none := by
  cbv

theorem zeroUnder_attributesFile : (zeroUnder attributes).readIfFile
    (Workspace.absolute [] ++ Path.ofText "" ++ Path.ofText attributesFileName) =
      .ok (some attributes) := by
  cbv

theorem attributeLines_zeroUnder (h : MarkedBy attributes line matcher) :
    (zeroResolver catalog).attributeLines (zeroUnder attributes) "" = [line] := by
  simp only [Resolver.attributeLines, Resolver.askedText, Resolver.textIn?, zeroResolver, bareResolver,
    zeroUnder_ignoreFile, zeroUnder_attributesFile, Except.mapError, Except.map, Option.map, h.lines, ↓reduceIte]

theorem load_lineUnder (lines : (linesOf (Files.textOf attributes)).filterMap AttributeLine.ofText? =
      [line]) (compiles : compilePattern .glob attributesFileName line.pattern = .ok matcher) :
    (zeroResolver catalog).load (zeroUnder attributes) "" =
      { resolver := { zeroResolver catalog with
          rules := line.rules catalog {} ⟨matcher, ""⟩, loaded := [""] } } := by
  have hsource : sourceIn "" attributesFileName = attributesFileName := rfl
  have hempty (rules : RuleSet) : ({} : RuleSet) ++ rules = rules := rfl
  simp only [Resolver.load, Resolver.folderRules, Resolver.fileRules, Resolver.textIn?, zeroResolver,
    bareResolver, zeroUnder_ignoreFile, zeroUnder_attributesFile, Except.mapError, Except.map, Option.map,
    attributesFileRules, lines, attributeRules, hsource, compiles]
  simp [hempty]

theorem load_zeroUnder (h : MarkedBy attributes line matcher) :
    (zeroResolver catalog).load (zeroUnder attributes) "" =
      { resolver := { zeroResolver catalog with
          rules := { text := [⟨matcher, ""⟩] }, loaded := [""] } } := by
  simp [load_lineUnder h.lines h.compiles, AttributeLine.rules, h.kind, h.excludes, h.language]

theorem resolveFile_zeroUnder (h : MarkedBy attributes line matcher) :
    (resolveFile (zeroUnder attributes) [] zeroPath (zeroResolver catalog)).2 =
      .ok ({ zeroResolver catalog with rules := { text := [⟨matcher, ""⟩] }, loaded := [""] },
        some "a.c") := by
  have hlocate : (zeroUnder attributes).locate zeroPath = .ok ["a.c"] := by cbv
  have habove : foldersAbove ["a.c"] = [""] := by decide
  simp only [resolveFile, hlocate, List.length_nil, List.drop_zero, habove, loadAbove,
    load_zeroUnder h]
  rfl

/-- The entry of the file has one rule. -/
def zeroEntry (matcher : Matcher) : Entry := ⟨"a.c", "a.c", zeroPath, { text := [⟨matcher, ""⟩] }⟩

theorem resolveInputs_zeroUnder (h : MarkedBy attributes line matcher)
    (start : (Resolver.start (Workspace.absolute []) catalog {}).2 = .ok (zeroResolver catalog)) :
    (resolveInputs (zeroUnder attributes) catalog {} [zeroPath]).2 = .ok [zeroEntry matcher] := by
  have hhas : (zeroUnder attributes).has zeroPath = .ok true := by cbv
  have hfolder : (zeroUnder attributes).hasFolder zeroPath = .ok false := by cbv
  have hlocate : (zeroUnder attributes).locate zeroPath = .ok ["a.c"] := by cbv
  have hroot : fileRoot (zeroUnder attributes).here [["a.c"]] = [] := by cbv
  have heach : (resolveEach (zeroUnder attributes) catalog {} [] [zeroPath]
      (some (zeroResolver catalog))).2 = .ok ([.file "a.c" "a.c" zeroPath],
        some { zeroResolver catalog with rules := { text := [⟨matcher, ""⟩] }, loaded := [""] }) := by
    rw [resolveEach_named (by simp [hfolder])]
    rcases hr : resolveFile (zeroUnder attributes) [] zeroPath (zeroResolver catalog) with ⟨_, said⟩
    obtain rfl : said = _ := (congrArg Prod.snd hr).symm.trans (resolveFile_zeroUnder h)
    simp only [hr]
    rfl
  rcases he : resolveEach (zeroUnder attributes) catalog {} [] [zeroPath]
    (some (zeroResolver catalog)) with ⟨_, said⟩
  rw [he] at heach
  cases heach
  simp only [resolveInputs, firstMissing?, hhas, hfolder, hlocate, List.filter_cons, List.filter_nil,
    Bool.not_false, ↓reduceIte, List.filterMap_cons, List.filterMap_nil, Except.toOption, hroot,
    List.isEmpty_cons, Bool.false_eq_true, start, Except.map, he]
  rfl

theorem isText_zeroEntry (h : MarkedBy attributes line matcher) :
    (zeroEntry matcher).rules.isText (zeroEntry matcher).rel = true := by
  have hscoped : scoped? "" "a.c" = some "a.c" := by cbv
  simp [zeroEntry, RuleSet.isText, PathRule.test, hscoped, h.test]

/-- A catalog of one language. -/
def catalogOfC : Catalog :=
  Catalog.ofLanguages [{ name := "C", category := .programming, extensions := [".c"] }]
    (List.nodup_singleton "C") "inline"

theorem run_zeroUnder (h : MarkedBy attributes line matcher) (source : SampleSource σ) (samples : σ) :
    ∃ summary, (run (zeroUnder attributes) catalogOfC {} source [zeroPath] samples).result =
      .ok summary ∧ (summary.files.get? "a.c").isSome = true := by
  have textual : catalogOfC.Textual := by
    intro language hm
    rw [List.mem_singleton.mp hm]
    exact ⟨rfl, rfl⟩
  have hread : (zeroUnder attributes).read (zeroEntry matcher).path = .ok ⟨#[0]⟩ := by cbv
  have htext : isBinary {} (zeroEntry matcher) ⟨#[0]⟩ = false := by
    simp [isBinary, isText_zeroEntry h]
  have hsettled : isSettled (extraction (catalogOfC.without []) {} (zeroEntry matcher) ⟨#[0]⟩) =
      true := by
    cbv
  let found := extraction (catalogOfC.without []) {} (zeroEntry matcher) ⟨#[0]⟩
  let item : Classified :=
    { path := "a.c", label := found.candidates.first?, size := 1, signal := found.signal }
  have hsaid : ((classify (zeroUnder attributes) (catalogOfC.without []) {} source
      (zeroEntry matcher)).run { samples }).1.2 = .ok item := by
    rw [classify_settled hread htext hsettled]
    rfl
  have hclassified : classified (zeroUnder attributes) catalogOfC {} source [zeroPath] samples =
      .ok [item] := classified_single (resolveInputs_zeroUnder h rfl) hsaid
  have hretains : Aggregator.retains (catalogOfC.without []) {} item = true := by
    have hfilters : Aggregator.filters {} = fun _ => false := rfl
    simp [item, Aggregator.retains, hfilters]
  have hretained : retained (zeroUnder attributes) catalogOfC {} source [zeroPath] samples =
      [item] := by
    rw [retained_eq hclassified]
    exact List.filter_cons_of_pos hretains
  obtain ⟨summary, hresult, -, hfiles⟩ := run_ok textual hclassified
  refine ⟨summary, hresult, ?_⟩
  rw [hfiles (by simp [hretained]), hretained, Aggregator.get?_labelsOf]
  rfl

theorem readsIn_zeroUnder : Resolver.ReadsIn (zeroUnder attributes) (zeroResolver catalog) [""] "" :=
  ⟨rfl, [], [], rfl, by simp, by simp [Resolver.Bars]⟩

theorem markedBy_of_test (lines : (linesOf (Files.textOf attributes)).filterMap AttributeLine.ofText? =
      [line])
    (test : (compilePattern .glob attributesFileName line.pattern).toOption.any (·.test "a.c") = true)
    (kind : line.kind? = some .text) (excludes : line.excludes = false)
    (language : line.language? = none) : ∃ matcher, MarkedBy attributes line matcher := by
  obtain ⟨matcher, compiles, matched⟩ := exists_matcher test
  exact ⟨matcher, lines, compiles, matched, kind, excludes, language⟩

end

/-- The attribute text makes a text of a file with a zero byte. -/
theorem forcedText_marked :
    let ws := zeroUnder "a* text".toUTF8
    let source : SampleSource Unit := .ofAnswer fun _ => .ok none
    ((Resolver.start (Workspace.absolute []) catalogOfC {}).2 = .ok (zeroResolver catalogOfC) ∧
      (((zeroResolver catalogOfC).loadFolders ws [""]).rules.isText "a.c" = true)) ∧
    ∃ entry summary, (resolveInputs ws (catalogOfC.without []) {} [zeroPath]).2 = .ok [entry] ∧
      (run ws catalogOfC {} source [zeroPath] ()).result = .ok summary ∧
      ws.read entry.path = .ok ⟨#[0]⟩ ∧ Files.looksBinary ⟨#[0]⟩ = true ∧
      (summary.files.get? entry.key).isSome = true ∧
      ∃ root fresh folders line, RootOf ws [zeroPath] entry root ∧
        (Resolver.start root (catalogOfC.without []) {}).2 = .ok fresh ∧
        entry.rules = (fresh.loadFolders ws folders).rules ∧
        fresh.Applies ws folders entry.rel line ∧ (line.ForcesText ∨ line.SetsText) := by
  intro ws source
  let line : AttributeLine := ⟨"a*", ["text"]⟩
  obtain ⟨matcher, marked⟩ : ∃ matcher, MarkedBy "a* text".toUTF8 line matcher :=
    markedBy_of_test (by cbv) (by cbv) (by cbv) (by cbv) (by cbv)
  have forces : line.ForcesText := by decide
  have applies : (zeroResolver catalogOfC).Applies ws [""] "a.c" line :=
    ⟨"", readsIn_zeroUnder, by rw [attributeLines_zeroUnder marked]; exact List.mem_singleton_self _,
      "a.c", matcher, by cbv, marked.compiles, marked.test⟩
  have hread : ws.read (zeroEntry matcher).path = .ok ⟨#[0]⟩ := by cbv
  have hlooks : Files.looksBinary ⟨#[0]⟩ = true := by cbv
  have hresolved : (resolveInputs ws (catalogOfC.without []) {} [zeroPath]).2 =
      .ok [zeroEntry matcher] := resolveInputs_zeroUnder marked rfl
  obtain ⟨summary, hresult, hlisted⟩ := run_zeroUnder marked source ()
  have h := forcedText ws catalogOfC {}
  refine ⟨⟨rfl, (h.1 _ _ rfl [""] "a.c").mpr ⟨line, applies, .inl forces⟩⟩, zeroEntry matcher, summary,
    hresolved, hresult, hread, hlooks, hlisted, ?_⟩
  exact h.2 rfl Unit source [zeroPath] () [zeroEntry matcher] summary hresolved hresult
    (zeroEntry matcher) (List.mem_singleton_self _) _ hread (.inr hlooks) hlisted

/-- A value makes a text of it too, though no line that applies forces text. -/
theorem forcedText_valued :
    let ws := zeroUnder "* text=auto".toUTF8
    let source : SampleSource Unit := .ofAnswer fun _ => .ok none
    (Resolver.start (Workspace.absolute []) catalogOfC {}).2 = .ok (zeroResolver catalogOfC) ∧
      (∀ line, (zeroResolver catalogOfC).Applies ws [""] "a.c" line → ¬ line.ForcesText) ∧
      ((zeroResolver catalogOfC).loadFolders ws [""]).rules.isText "a.c" = true ∧
      ws.read zeroPath = .ok ⟨#[0]⟩ ∧ Files.looksBinary ⟨#[0]⟩ = true ∧
      ∃ summary, (run ws catalogOfC {} source [zeroPath] ()).result = .ok summary ∧
        (summary.files.get? "a.c").isSome = true := by
  intro ws source
  let line : AttributeLine := ⟨"*", ["text=auto"]⟩
  obtain ⟨matcher, marked⟩ : ∃ matcher, MarkedBy "* text=auto".toUTF8 line matcher :=
    markedBy_of_test (by cbv) (by cbv) (by cbv) (by cbv) (by cbv)
  have hlines : (zeroResolver catalogOfC).attributeLines ws "" = [line] :=
    attributeLines_zeroUnder marked
  have hnot : ¬ line.ForcesText := by decide
  refine ⟨rfl, ?_, ?_, by cbv, by cbv, run_zeroUnder marked source ()⟩
  · rintro other ⟨folder, ⟨-, front, behind, hrow, -⟩, hm, -⟩
    obtain rfl : folder = "" := by
      have : folder ∈ [""] := hrow ▸ List.mem_append_right front List.mem_cons_self
      simpa using this
    rw [hlines, List.mem_singleton] at hm
    exact hm ▸ hnot
  · change ((zeroResolver catalogOfC).load ws "").resolver.rules.isText "a.c" = true
    rw [load_zeroUnder marked]
    exact isText_zeroEntry marked

end Analysis

end Polyglot
