import Polyglot.Proofs.Additions
import Polyglot.Proofs.Keeping
import Polyglot.Proofs.TreeRuns

namespace Polyglot

open Polyglot.Files

theorem ignoreFileRules_only (options : Options) (folder : String) (text : List Char) :
    ({} : RuleSet).Milder (ignoreFileRules options folder text).2 := by
  simp only [ignoreFileRules]
  split
  · exact .refl _
  · exact ⟨by simp, rfl, rfl, rfl⟩

theorem Resolver.Reading.fault_followedBy {first second : Resolver.Reading} :
    (first.followedBy second).fault = none ↔ first.fault = none ∧ second.fault = none := by
  rw [Resolver.Reading.followedBy]
  split
  · rename_i h
    exact ⟨fun hn => by simp [hn] at h, fun hb => hb.1⟩
  · rename_i h
    exact ⟨fun hn => ⟨by simpa using h, hn⟩, fun hb => hb.2⟩

section
variable {node more : Node} {folder : Place} {name : String} {asked : Bool}
  {rulesOf : List Char → Journal × RuleSet}

theorem declaredIn_congr
    (h : more.content? (folder ++ [name]) = node.content? (folder ++ [name])) :
    declaredIn more folder name asked rulesOf = declaredIn node folder name asked rulesOf := by
  simp only [declaredIn, h]

theorem declaredIn_missing (h : node.content? (folder ++ [name]) = none) :
    declaredIn node folder name asked rulesOf = {} := by
  cases asked <;> simp [declaredIn, h]

theorem declaredIn_only (h : ∀ text, ({} : RuleSet).Milder (rulesOf text).2) :
    ({} : RuleSet).Milder (declaredIn node folder name asked rulesOf) := by
  unfold declaredIn
  split
  · exact h _
  · exact .refl _

end

section
variable {ws others : Workspace} {root : Path} {catalog : Catalog} {options : Options}
  {node more : Node} {folder : Place} {content : ByteArray}
  (gains : node.Gains more (folder ++ [ignoreFileName]) content)
include gains

theorem ignoreFile_gains (options : Options) (other : Place) :
    (declaredIn node other ignoreFileName options.checkIgnored
        (ignoreFileRules options (relText other))).Milder
      (declaredIn more other ignoreFileName options.checkIgnored
        (ignoreFileRules options (relText other))) := by
  by_cases he : other = folder
  · subst he
    have hnone : node.content? (other ++ [ignoreFileName]) = none := by
      rw [Node.content?, gains.free]
    rw [declaredIn_missing hnone]
    exact declaredIn_only (ignoreFileRules_only options _)
  · rw [declaredIn_congr (gains.content?_eq fun h => he (List.append_cancel_right h))]
    exact .refl _

theorem declared_gains (catalog : Catalog) (options : Options) (other : Place) :
    (declared catalog options node other).Milder (declared catalog options more other) := by
  have hne : other ++ [attributesFileName] ≠ folder ++ [ignoreFileName] := by
    intro he
    have := congrArg List.getLast? he
    simp [attributesFileName, ignoreFileName] at this
  rw [declared, declared, declaredIn_congr (gains.content?_eq hne)]
  split
  · exact .refl _
  · exact (ignoreFile_gains gains options other).append (.refl _)

theorem reading_gains (holds : ws.HoldsTree root node) (holds' : others.HoldsTree root more)
    {other : Place} {found after : Node} (hf : node.at? other = some found)
    (isFolder : found.isFolder = true) (hf' : more.at? other = some after)
    (isFolder' : after.isFolder = true)
    (readable : (reading ws root catalog options other).fault = none) :
    (reading others root catalog options other).fault = none := by
  have hnames := (holds.wellNamed.at? hf).1
  have hfile {name : String} (hn : name ∈ ruleFileNames) (asked : Bool)
      (rulesOf : List Char → Journal × RuleSet)
      (h : ((bareResolver root catalog options).fileRules ws (relText other) name asked rulesOf).fault =
        none) :
      ((bareResolver root catalog options).fileRules others (relText other) name asked rulesOf).fault =
        none := by
    have hname := isName_of_ruleFile hn
    simp only [Resolver.fileRules, Resolver.textIn?, bareResolver,
      append_ruleFile root hnames hname] at h ⊢
    by_cases hne : other ++ [name] = folder ++ [ignoreFileName]
    · have hread : others.readIfFile (root ++ (⟨"", other ++ [name]⟩ : Path)) = .ok (some content) := by
        rw [hne, Workspace.readIfFile,
          holds'.node?_below (Node.content?_eq_some_iff.mp gains.file)]
      rw [hread]
      cases asked <;> rfl
    · rw [holds.readIfFile_gains holds' gains hf isFolder hf' isFolder' hname (ruleFile_short hn) hne]
      exact h
  cases hq : options.quick with
  | true => simp [reading, hq]
  | false =>
    simp only [reading, hq, Bool.false_eq_true, ↓reduceIte, Resolver.folderRules_eq_followedBy,
      Resolver.Reading.fault_followedBy] at readable ⊢
    exact ⟨hfile (by simp [ruleFileNames]) _ _ readable.1, hfile (by simp [ruleFileNames]) _ _ readable.2⟩

end

namespace Analysis

section
variable {ws others : Workspace} {root : Path} {catalog : Catalog} {options : Options}
  {answer : Label → Except SampleFault (Option String)} {node more : Node} {base : RuleSet}
  {folder place : Place} {content : ByteArray}
  (gains : node.Gains more (folder ++ [ignoreFileName]) content)
include gains

theorem leavesOut_gains {isFolder : Bool} {other : Place}
    (kept : leavesOut catalog options more base isFolder other = false) :
    leavesOut catalog options node base isFolder other = false := by
  rw [Bool.eq_false_iff] at kept ⊢
  exact fun out => kept (excluded_milder (.refl base) (declared_gains gains catalog options) out)

theorem Admitted.of_gains (h : Admitted catalog options more base place)
    (hne : place ≠ folder ++ [ignoreFileName]) : Admitted catalog options node base place :=
  ⟨gains.content?_eq hne ▸ h.file, leavesOut_gains gains h.kept,
    fun other ho ha => leavesOut_gains gains (h.way other ho ha)⟩

theorem GoneInto.of_gains {other : Place} (h : GoneInto catalog options more base other) :
    GoneInto catalog options node base other := by
  obtain ⟨found, hf, isFolder⟩ := h.isFolder
  exact ⟨gains.folder_of_more hf isFolder, fun above hne ha => leavesOut_gains gains (h.way above hne ha)⟩

end

theorem verdict_milder (ws : Workspace) (catalog : Catalog) (options : Options)
    (answer : Label → Except SampleFault (Option String)) {entry : Entry} {rules : RuleSet}
    (milder : rules.Milder entry.rules) :
    verdict ws catalog options answer { entry with rules } = verdict ws catalog options answer entry := by
  have hsame : options.keepingMore false false = options := by simp [Options.keepingMore]
  have hbinary (content : ByteArray) :
      isBinary options { entry with rules } content = isBinary options entry content := by
    simp only [isBinary, RuleSet.isText, RuleSet.isBinary, milder.text, milder.binary]
  have hdetect (content : ByteArray) :
      detect catalog options (.ofAnswer answer) { entry with rules } content =
        detect catalog options (.ofAnswer answer) entry content := by
    have hmore : detect catalog (options.keepingMore false false) (.ofAnswer answer)
        { entry with rules } content = detect catalog options (.ofAnswer answer) entry content :=
      detect_keepingMore milder false false _ content
    rwa [hsame] at hmore
  unfold verdict classify
  simp only [hbinary, hdetect]

section
variable {ws others : Workspace} {root : Path} {catalog : Catalog} {options : Options}
  {answer : Label → Except SampleFault (Option String)} {node more : Node} {base : RuleSet}
  {folder place : Place} {content : ByteArray}

theorem verdictAt_gains (gains : node.Gains more (folder ++ [ignoreFileName]) content)
    (holds : ws.HoldsTree root node) (holds' : others.HoldsTree root more)
    (hp : (node.content? place).isSome = true) (hne : place ≠ folder ++ [ignoreFileName]) :
    verdictAt others catalog options answer root more base place =
      verdictAt ws catalog options answer root node base place := by
  obtain ⟨text, hc⟩ := Option.isSome_iff_exists.mp hp
  have hread : ws.read (root ++ (⟨"", place⟩ : Path)) = others.read (root ++ (⟨"", place⟩ : Path)) := by
    rw [holds.read_below hc, holds'.read_below ((gains.content?_eq hne).trans hc)]
  have hmilder : (rulesAbove catalog options node base place).Milder
      (entryAt root (rulesAbove catalog options more base place) place).rules :=
    (RuleSet.Milder.refl base).gather (above place) (declared_gains gains catalog options)
  have hrules := verdict_milder others catalog options answer hmilder
  have same : SameFile ws others
      (entryAt root (rulesAbove catalog options node base place) place)
      (entryAt root (rulesAbove catalog options node base place) place) := ⟨rfl, rfl, hread, rfl⟩
  exact hrules.symm.trans (verdict_congr_key same rfl).symm

end

section
variable (ws : Workspace) (catalog : Catalog) (options : Options)
  (answer : Label → Except SampleFault (Option String)) (root : Path) (node : Node)

/-- This is said of some file that an analysis of a tree takes up. -/
def SaidOfSome (said : Except ClassifyError Classified) : Prop :=
  ∃ base place, (Resolver.builtin catalog options).2 = .ok base ∧
    Admitted catalog options node base place ∧
    verdictAt ws catalog options answer root node base place = said

end

section
variable {σ : Type} {ws others : Workspace} {catalog : Catalog} {options : Options}
  {source : SampleSource σ} {answer : Label → Except SampleFault (Option String)} {root : Path}
  {node more : Node} {folder : Place} {content : ByteArray} {samples samples' : σ}
  (gains : node.Gains more (folder ++ [ignoreFileName]) content)
  (holds : ws.HoldsTree root node) (holds' : others.HoldsTree root more)
  (answers : source.Answers answer)
include gains holds holds' answers

theorem classified_gains {items : List Classified}
    (hc : classified others catalog options source [root] samples = .ok items) :
    ∀ item ∈ items, item.path = (root ++ (⟨"", folder ++ [ignoreFileName]⟩ : Path)).text ∨
      SaidOfSome ws (catalog.without options.ignoredLanguages) options answer root node (.ok item) := by
  have htree := classified_tree holds' answers catalog options samples
  rw [hc] at htree
  obtain ⟨base, places, settles, -⟩ := htree
  intro item hm
  obtain ⟨place, hp, hsaid⟩ := mem_of_mapM settles.settled hm
  by_cases hne : place = folder ++ [ignoreFileName]
  · subst hne
    exact .inl (verdictAt_path _ _ hsaid)
  · have hadmitted := Admitted.of_gains gains (settles.admitted place hp) hne
    refine .inr ⟨base, place, settles.starts, hadmitted, ?_⟩
    rw [← hsaid]
    exact (verdictAt_gains gains holds holds' hadmitted.file hne).symm

/-- Where an analysis has settled its files, an analysis with the file can fail at this file only. -/
theorem classified_gains_error {items : List Classified}
    (hc : classified ws catalog options source [root] samples = .ok items) {error : AnalysisError}
    (hc' : classified others catalog options source [root] samples' = .error error) :
    ∃ fault base, error = .classify fault ∧
      Admitted (catalog.without options.ignoredLanguages) options more base
        (folder ++ [ignoreFileName]) ∧
      verdictAt others (catalog.without options.ignoredLanguages) options answer root more base
        (folder ++ [ignoreFileName]) = .error fault := by
  have htree := classified_tree holds answers catalog options samples
  rw [hc] at htree
  obtain ⟨base, places, settles, -⟩ := htree
  have hunless := classified_unless holds answers settles.starts samples
  rw [hc] at hunless
  obtain ⟨⟨places, settles, -, complete⟩, readable⟩ := hunless
  have hunless' := classified_unless holds' answers settles.starts samples'
  rw [hc'] at hunless'
  cases error with
  | resolve fault =>
    -- The folder would have been gone into without the file too, and could be read.
    obtain ⟨refusal, other, -, hgone, hfault⟩ := hunless'
    obtain ⟨after, hf', isFolder'⟩ := hgone.isFolder
    have hbefore := GoneInto.of_gains gains hgone
    obtain ⟨found, hf, isFolder⟩ := hbefore.isFolder
    have hreadable := reading_gains gains holds holds' hf isFolder hf' isFolder' (readable other hbefore)
    cases hfault.symm.trans hreadable
  | classify fault =>
    obtain ⟨place, hadmitted', hfault⟩ := hunless'
    by_cases hne : place = folder ++ [ignoreFileName]
    · subst hne
      exact ⟨fault, base, rfl, hadmitted', hfault⟩
    · exfalso
      have hadmitted := Admitted.of_gains gains hadmitted' hne
      obtain ⟨item, -, hsaid⟩ := outcome_of_mapM settles.settled (complete place hadmitted)
      rw [verdictAt_gains gains holds holds' hadmitted.file hne, hsaid] at hfault
      cases hfault
  | aggregate faults => exact hunless'.elim

end

section
variable {σ : Type} {ws others : Workspace} {catalog : Catalog} {options : Options}
  {source : SampleSource σ} {answer : Label → Except SampleFault (Option String)} {root : Path}
  {node : Node} {folder : Place} {samples : σ}

/-- Where an analysis settles its files, it says of them what holds of the files that it takes up. -/
theorem said_of_some (holds : ws.HoldsTree root node) (answers : source.Answers answer)
    {items : List Classified}
    (hc : classified ws catalog options source [root] samples = .ok items) {item : Classified}
    (said : SaidOfSome ws (catalog.without options.ignoredLanguages) options answer root node
      (.ok item)) : item ∈ items := by
  obtain ⟨base, place, hb, hadmitted, hsaid⟩ := said
  have hunless := classified_unless holds answers hb samples
  rw [hc] at hunless
  obtain ⟨⟨places, settles, -, complete⟩, -⟩ := hunless
  obtain ⟨other, hm, ho⟩ := outcome_of_mapM settles.settled (complete place hadmitted)
  rw [hsaid] at ho
  cases ho
  exact hm

theorem mem_retained {paths : List Path} {items : List Classified}
    (hc : classified ws catalog options source paths samples = .ok items) {item : Classified} :
    item ∈ retained ws catalog options source paths samples ↔
      item ∈ items ∧ Aggregator.retains (catalog.without options.ignoredLanguages) options item = true := by
  rw [retained_eq hc, Aggregator.retainedOf, List.mem_filter]

/-- A folder of a tree without links gets an ignore file, whatever its lines say. An analysis of the
tree then retains no file, but for the new one, that it did not retain before, and what it retains has
kept its label and its size. It can fail anew at the new file only. -/
theorem run_addedIgnoreFile {found : Node} (hf : node.at? folder = some found)
    (isFolder : found.isFolder = true) (free : node.at? (folder ++ [ignoreFileName]) = none)
    (content : ByteArray) (holds : ws.HoldsTree root node)
    (holds' : others.HoldsTree root (Node.put (.file content) (folder ++ [ignoreFileName]) node))
    (textual : catalog.Textual) (answers : source.Answers answer) (options : Options)
    (samples samples' : σ) :
    let known := catalog.without options.ignoredLanguages
    let more := Node.put (.file content) (folder ++ [ignoreFileName]) node
    let added := (root ++ (⟨"", folder ++ [ignoreFileName]⟩ : Path)).text
    let before := retained ws catalog options source [root] samples
    let after := retained others catalog options source [root] samples'
    match (run ws catalog options source [root] samples).result,
      (run others catalog options source [root] samples').result with
    | .ok summary, .ok summary' =>
      Aggregator.SumsUp known options before summary ∧
        Aggregator.SumsUp known options after summary' ∧
        (∀ item ∈ after, item.path = added ∨ item ∈ before) ∧
        ∀ path label, path ≠ added → summary'.files.get? path = some label →
          summary.files.get? path = some label
    | .ok _, .error error => ∃ fault base, error = .classify fault ∧
        Admitted known options more base (folder ++ [ignoreFileName]) ∧
        verdictAt others known options answer root more base (folder ++ [ignoreFileName]) =
          .error fault
    | .error error, .ok _ => Explains ws known options answer root node error ∧
        ∀ item ∈ after, item.path = added ∨
          SaidOfSome ws known options answer root node (.ok item)
    | .error error, .error _ => Explains ws known options answer root node error := by
  intro known more added before after
  have gains := Node.gains_put hf isFolder free content
  have htree := run_tree holds textual answers options samples
  cases hc' : classified others catalog options source [root] samples' with
  | error error' =>
    rw [run_error hc']
    cases hrun : (run ws catalog options source [root] samples).result with
    | error error =>
      rw [hrun] at htree
      exact htree
    | ok summary =>
      obtain ⟨items, _, hc, -⟩ := run_eq_ok hrun
      exact classified_gains_error gains holds holds' answers hc hc'
  | ok items' =>
    obtain ⟨summary', hrun', hsums', -⟩ := run_ok textual hc'
    have hsaid := classified_gains gains holds holds' answers hc'
    rw [hrun']
    cases hrun : (run ws catalog options source [root] samples).result with
    | error error =>
      rw [hrun] at htree
      exact ⟨htree, fun item hm => hsaid item ((mem_retained hc').mp hm).1⟩
    | ok summary =>
      obtain ⟨items, _, hc, -⟩ := run_eq_ok hrun
      obtain ⟨_, hresult, hsums, -⟩ := run_ok textual hc
      obtain rfl := Except.ok.inj (hresult.symm.trans hrun)
      have hafter : ∀ item ∈ after, item.path = added ∨ item ∈ before := by
        intro item hm
        obtain ⟨hitem, hretains⟩ := (mem_retained hc').mp hm
        exact (hsaid item hitem).imp_right fun said =>
          (mem_retained hc).mpr ⟨said_of_some holds answers hc said, hretains⟩
      refine ⟨hsums, hsums', hafter, ?_⟩
      intro path label hne listed
      obtain ⟨item, hm, rfl, rfl⟩ := hsums'.retained_of_get? listed
      exact hsums.get?_of_retained retained_distinct ((hafter item hm).resolve_left hne)

end

theorem run_addedIgnoreFile_smallTree :
    let ws : Workspace := ⟨Workspace.smallTree, []⟩
    let content := "*.c\n!main.c".toUTF8
    let more : Node := Node.put (.file content) ([] ++ [ignoreFileName]) Workspace.smallTree
    let others : Workspace := ⟨more, []⟩
    let source := SampleSource.ofAnswer fun _ => .ok none
    Workspace.smallTree.at? [] = some Workspace.smallTree ∧ Workspace.smallTree.isFolder = true ∧
      Workspace.smallTree.at? ([] ++ [ignoreFileName]) = none ∧
      ws.HoldsTree ⟨"", []⟩ Workspace.smallTree ∧ others.HoldsTree ⟨"", []⟩ more ∧
      mixedCatalog.Textual ∧ source.Answers (fun _ => .ok none) ∧
      ∃ summary summary', (run ws mixedCatalog {} source [⟨"", []⟩] ()).result = .ok summary ∧
        (run others mixedCatalog {} source [⟨"", []⟩] ()).result = .ok summary' ∧
        ∀ path label, path ≠ ignoreFileName → summary'.files.get? path = some label →
          summary.files.get? path = some label := by
  intro ws content more others source
  have free : Workspace.smallTree.at? ([] ++ [ignoreFileName]) = none := by
    simp [Workspace.smallTree, Node.at?, Node.child?, Node.entries, ignoreFileName]
  have holds : ws.HoldsTree ⟨"", []⟩ Workspace.smallTree := Workspace.smallTree_stands.holdsTree
  have holds' : others.HoldsTree ⟨"", []⟩ more := by
    have stands : others.StandsIn more := by
      refine ⟨rfl, by simp [others], rfl, by decide, ?_⟩
      simp [more, Node.put, Workspace.smallTree, Node.child?, Node.entries, ignoreFileName,
        Node.isFolder, Node.WellNamed, Node.AllWellNamed]
    exact stands.holdsTree
  have answers : source.Answers fun _ => .ok none := SampleSource.ofAnswer_answers _
  obtain ⟨summary, hfirst⟩ := run_tree_returns holds mixedCatalog_textual answers {} () rfl rfl
    smallTree_askable
  obtain ⟨summary', hsecond⟩ := run_tree_returns holds' mixedCatalog_textual answers {} () rfl rfl
    fun _ => not_unaskable (by decide)
  have h := run_addedIgnoreFile rfl rfl free content holds holds' mixedCatalog_textual answers {} () ()
  simp only [hfirst, hsecond] at h
  exact ⟨rfl, rfl, free, holds, holds', mixedCatalog_textual, answers, summary, summary', hfirst, hsecond,
    h.2.2.2⟩

end Analysis

end Polyglot
