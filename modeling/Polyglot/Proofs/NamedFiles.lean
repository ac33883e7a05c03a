import Polyglot.Proofs.Inputs

namespace Polyglot.Analysis

open Polyglot.Files

variable {σ : Type} {ws : Workspace} {catalog : Catalog} {options : Options} {node : Node}
  {base : RuleSet} {places : List Place} {source : SampleSource σ}
  {answer : Label → Except SampleFault (Option String)} {items : List Classified} {samples others : σ}

/-- Why an analysis of files that are asked for by name has no result: a pattern ends every run, a path
is too long, or one of the files cannot be settled. -/
def ExplainsNamed (ws : Workspace) (catalog : Catalog) (options : Options)
    (answer : Label → Except SampleFault (Option String)) (node : Node) (places : List Place) :
    AnalysisError → Prop
  | .resolve (.pattern error) => FatalPattern catalog options error
  | .resolve (.refused refusal) => Unaskable (Workspace.absolute ws.here) node refusal
  | .classify error => ∃ base, ∃ place ∈ places, (Resolver.builtin catalog options).2 = .ok base ∧
      Admitted catalog options node base place ∧
      verdictAt ws catalog options answer ⟨"", []⟩ node base place = .error error
  | .resolve (.missing _) | .aggregate _ => False

/-- Of files that are asked for by name the admitted ones are settled, and of each the same is said as on
a walk. -/
theorem classified_named (stands : ws.StandsIn node) (answers : source.Answers answer)
    (hb : (Resolver.builtin (catalog.without options.ignoredLanguages) options).2 = .ok base)
    (files : ∀ place ∈ places, (node.content? place).isSome = true) (others : σ) :
    let known := catalog.without options.ignoredLanguages
    match classified ws catalog options source (places.map (⟨"", ·⟩)) others with
    | .ok part => Settles ws known options answer ⟨"", []⟩ node base
        (places.eraseDups.filter (Admitted known options node base ·)) part
    | .error (.resolve error) => ∃ refusal, error = .refused refusal ∧
        Unaskable (Workspace.absolute ws.here) node refusal
    | .error (.classify error) => ∃ place ∈ places, Admitted known options node base place ∧
        verdictAt ws known options answer ⟨"", []⟩ node base place = .error error
    | .error (.aggregate _) => False := by
  intro known
  rw [classified_eq answers]
  rcases resolveInputs_files stands hb files with ⟨rules, hentries, hon⟩ | ⟨refusal, hfail, hlong⟩
  · have hadmitted : ∀ place ∈ places.eraseDups.filter (Admitted known options node base ·),
        place ∈ places ∧ Admitted known options node base place := by
      intro place hm
      simpa using hm
    rw [hentries]
    simp only
    rw [mapM_declared fun place hm => hon place (hadmitted place hm).1 (hadmitted place hm).2]
    cases hpart : (places.eraseDups.filter (Admitted known options node base ·)).mapM
        (verdictAt ws known options answer ⟨"", []⟩ node base) with
    | ok part =>
      exact ⟨hb, (nodup_eraseDups places).filter _, fun place hm => (hadmitted place hm).2, hpart⟩
    | error error =>
      obtain ⟨place, hm, he⟩ := mapM_eq_error hpart
      exact ⟨place, (hadmitted place hm).1, (hadmitted place hm).2, he⟩
  · rw [hfail]
    exact ⟨refusal, rfl, hlong⟩

/-- An analysis of files that are asked for by name has a result that is determined by what is said of the
admitted ones, or it fails as their classification does. -/
theorem run_named (stands : ws.StandsIn node) (textual : catalog.Textual)
    (answers : source.Answers answer)
    (hb : (Resolver.builtin (catalog.without options.ignoredLanguages) options).2 = .ok base)
    (files : ∀ place ∈ places, (node.content? place).isSome = true) (others : σ) :
    let known := catalog.without options.ignoredLanguages
    let named := retained ws catalog options source (places.map (⟨"", ·⟩)) others
    match (run ws catalog options source (places.map (⟨"", ·⟩)) others).result with
    | .ok listed => ∃ part, Settles ws known options answer ⟨"", []⟩ node base
          (places.eraseDups.filter (Admitted known options node base ·)) part ∧
        named = Aggregator.retainedOf known options part ∧
        Aggregator.SumsUp known options named listed ∧ listed.files = Aggregator.labelsOf named
    | .error (.resolve error) => ∃ refusal, error = .refused refusal ∧
        Unaskable (Workspace.absolute ws.here) node refusal
    | .error (.classify error) => ∃ place ∈ places, Admitted known options node base place ∧
        verdictAt ws known options answer ⟨"", []⟩ node base place = .error error
    | .error (.aggregate _) => False := by
  intro known named
  have hnamed := classified_named stands answers hb files others
  cases hpart : classified ws catalog options source (places.map (⟨"", ·⟩)) others with
  | error error =>
    rw [hpart] at hnamed
    rw [run_error hpart]
    cases error <;> exact hnamed
  | ok part =>
    rw [hpart] at hnamed
    obtain ⟨listed, hlisted, hsums, hfiles⟩ := hnamed.run_ok stands.holdsTree textual hpart
    rw [hlisted]
    exact ⟨part, hnamed, retained_eq hpart, hsums, hfiles⟩

/-- A pattern that ends every run ends one in which files are asked for by name, if there are any. -/
theorem run_named_fault (stands : ws.StandsIn node) (answers : source.Answers answer)
    {error : PatternError}
    (hb : (Resolver.builtin (catalog.without options.ignoredLanguages) options).2 = .error error)
    (files : ∀ place ∈ places, (node.content? place).isSome = true) (hne : places ≠ []) (others : σ) :
    (run ws catalog options source (places.map (⟨"", ·⟩)) others).result =
      .error (.resolve (.pattern error)) := by
  have exist : ∀ place ∈ places, (node.at? place).isSome = true := by
    intro place hm
    obtain ⟨content, hc⟩ := Option.isSome_iff_exists.mp (files place hm)
    rw [Node.content?_eq_some_iff.mp hc]
    rfl
  refine run_error ?_
  rw [classified_eq answers, resolveInputs_fault stands hb exist hne]

/-- Of what is said of files, what is said of those at some places, in the order in which the places
are first mentioned. -/
def mentioned (said : List Classified) (places : List Place) : List Classified :=
  places.eraseDups.filterMap fun place => said.find? (·.path == (⟨"", place⟩ : Path).text)

/-- The files that are retained by name are those that are retained on a walk. -/
theorem Settles.mentioned {taken : List Place} {part : List Classified} (stands : ws.StandsIn node)
    (settles : Settles ws catalog options answer ⟨"", []⟩ node base taken items)
    (whole : ∀ place, Admitted catalog options node base place → place ∈ taken)
    (files : ∀ place ∈ places, (node.content? place).isSome = true)
    (named : Settles ws catalog options answer ⟨"", []⟩ node base
      (places.eraseDups.filter (Admitted catalog options node base ·)) part)
    (keeps : Classified → Bool) :
    part.filter keeps = Analysis.mentioned (items.filter keeps) places := by
  rw [eq_filterMap_of_mapM named.settled, List.filter_filterMap, List.filterMap_filter,
    Analysis.mentioned]
  refine List.filterMap_congr fun place hm => ?_
  have hfind := settles.find? stands.holdsTree keeps (files place (List.mem_eraseDups.mp hm))
  have htaken : place ∈ taken ↔ Admitted catalog options node base place :=
    ⟨settles.admitted place, whole place⟩
  change _ = (items.filter keeps).find? (·.path == ((⟨"", []⟩ : Path) ++ (⟨"", place⟩ : Path)).text)
  rw [hfind]
  simp [htaken]

theorem labelsOf_mentioned (said : List Classified) (places : List Place) :
    Aggregator.labelsOf (mentioned said places) = places.eraseDups.filterMap fun place =>
      ((Aggregator.labelsOf said).get? (⟨"", place⟩ : Path).text).map
        ((⟨"", place⟩ : Path).text, ·) := by
  rw [Aggregator.labelsOf, mentioned, List.map_filterMap]
  refine List.filterMap_congr fun place _ => ?_
  rw [Aggregator.get?_labelsOf]
  cases hs : said.find? (·.path == (⟨"", place⟩ : Path).text) with
  | none => rfl
  | some item =>
    have hpath : item.path = (⟨"", place⟩ : Path).text := by simpa using List.find?_some hs
    simp [hpath]

/-- Files that are asked for by name are treated as a walk through the current folder treats them: of
those that are mentioned the same ones are retained, with the same labels and sizes, in the order in
which they are first mentioned. Where the walk fails for another file, the same is still said of them as
is said on a walk. -/
theorem run_files_restricts (stands : ws.StandsIn node) (textual : catalog.Textual)
    (answers : source.Answers answer) (options : Options) (samples others : σ)
    (files : ∀ place ∈ places, (node.content? place).isSome = true) :
    let known := catalog.without options.ignoredLanguages
    let walked := retained ws catalog options source [⟨"", []⟩] samples
    let named := retained ws catalog options source (places.map (⟨"", ·⟩)) others
    match (run ws catalog options source [⟨"", []⟩] samples).result,
      (run ws catalog options source (places.map (⟨"", ·⟩)) others).result with
    | .ok whole, .ok listed =>
      Aggregator.SumsUp known options walked whole ∧ Aggregator.SumsUp known options named listed ∧
        named = mentioned walked places ∧
        listed.files = places.eraseDups.filterMap fun place =>
          (whole.files.get? (⟨"", place⟩ : Path).text).map ((⟨"", place⟩ : Path).text, ·)
    | .ok _, .error error => ∃ refusal, error = .resolve (.refused refusal) ∧
        Unaskable (Workspace.absolute ws.here) node refusal
    | .error error, .ok listed =>
      Explains ws known options answer ⟨"", []⟩ node error ∧
        Aggregator.SumsUp known options named listed ∧
        (places ≠ [] → FailsBeside ws known options answer ⟨"", []⟩ node (· ∈ places) error ∧
          ∃ base part, Settles ws known options answer ⟨"", []⟩ node base
              (places.eraseDups.filter (Admitted known options node base ·)) part ∧
            named = Aggregator.retainedOf known options part)
    | .error error, .error error' =>
      Explains ws known options answer ⟨"", []⟩ node error ∧
        ExplainsNamed ws known options answer node places error' := by
  intro known walked named
  have holds := stands.holdsTree
  have htree := run_tree holds textual answers options samples
  cases hb : (Resolver.builtin known options).2 with
  | error e =>
    have hexplained : Explains ws known options answer ⟨"", []⟩ node (.resolve (.pattern e)) :=
      builtin_error hb
    rw [run_error (classified_fault (hasFolder_tree holds) answers hb samples)]
    by_cases hne : places = []
    · subst hne
      have hnone : classified ws catalog options source (([] : List Place).map (⟨"", ·⟩)) others =
          .ok [] := rfl
      obtain ⟨listed, hlisted, hsums, -⟩ := run_ok textual hnone
      rw [hlisted]
      exact ⟨hexplained, hsums, fun hne => absurd rfl hne⟩
    · rw [run_named_fault stands answers hb files hne others]
      exact ⟨hexplained, hexplained⟩
  | ok base =>
    have hnamed := run_named stands textual answers hb files others
    cases hwhole : (run ws catalog options source [⟨"", []⟩] samples).result with
    | error error =>
      rw [hwhole] at htree
      cases hlisted : (run ws catalog options source (places.map (⟨"", ·⟩)) others).result with
      | ok listed =>
        rw [hlisted] at hnamed
        obtain ⟨part, settles, hretained, hsums, -⟩ := hnamed
        -- Every mentioned file was settled by name, so what ends the walk lies elsewhere.
        refine ⟨htree, hsums, fun _ => ⟨?_, base, part, settles, hretained⟩⟩
        refine run_failsBeside holds textual answers hb (fun place hm hadmitted => ?_) hwhole
        obtain ⟨item, -, hsaid⟩ := outcome_of_mapM settles.settled (by simpa using ⟨hm, hadmitted⟩)
        exact ⟨item, hsaid⟩
      | error error' =>
        rw [hlisted] at hnamed
        refine ⟨htree, ?_⟩
        cases error' with
        | resolve error' =>
          obtain ⟨refusal, rfl, hlong⟩ := hnamed
          exact hlong
        | classify error' =>
          obtain ⟨place, hm, hadmitted, he⟩ := hnamed
          exact ⟨base, place, hm, hb, hadmitted, he⟩
        | aggregate faults => exact hnamed
    | ok whole =>
      rw [hwhole] at htree
      obtain ⟨base', taken, items, hc, settles, complete, hsums, hfiles⟩ := htree
      obtain rfl := Except.ok.inj (hb.symm.trans settles.starts)
      cases hlisted : (run ws catalog options source (places.map (⟨"", ·⟩)) others).result with
      | ok listed =>
        rw [hlisted] at hnamed
        obtain ⟨part, settles', hretained, hsums', hfiles'⟩ := hnamed
        have hmentioned : named = mentioned walked places := by
          have := settles.mentioned stands complete files settles' (Aggregator.retains known options)
          exact hretained.trans (this.trans (congrArg (mentioned · places) (retained_eq hc).symm))
        refine ⟨hsums, hsums', hmentioned, ?_⟩
        rw [hfiles', hfiles, ← labelsOf_mentioned]
        exact congrArg _ hmentioned
      | error error' =>
        rw [hlisted] at hnamed
        cases error' with
        | resolve error' => exact hnamed.imp fun refusal h => ⟨congrArg _ h.1, h.2⟩
        | classify error' =>
          obtain ⟨place, hm, hadmitted, he⟩ := hnamed
          -- The walk has settled the file without an error.
          obtain ⟨item, -, hsaid⟩ := outcome_of_mapM settles.settled (complete place hadmitted)
          cases hsaid.symm.trans he
        | aggregate faults => exact hnamed.elim

theorem run_files_restricts_smallTree :
    let ws : Workspace := ⟨Workspace.smallTree, []⟩
    let source := SampleSource.ofAnswer fun _ => .ok none
    let places : List Place := [["main.c"], ["lib", "old.c"], ["main.c"]]
    ws.StandsIn Workspace.smallTree ∧ mixedCatalog.Textual ∧ source.Answers (fun _ => .ok none) ∧
      (∀ place ∈ places, (Workspace.smallTree.content? place).isSome = true) ∧
      ∃ whole listed, (run ws mixedCatalog {} source [⟨"", []⟩] ()).result = .ok whole ∧
        (run ws mixedCatalog {} source (places.map (⟨"", ·⟩)) ()).result = .ok listed ∧
        listed.files = [["main.c"], ["lib", "old.c"]].filterMap fun place =>
          (whole.files.get? (⟨"", place⟩ : Path).text).map ((⟨"", place⟩ : Path).text, ·) := by
  intro ws source places
  have stands : ws.StandsIn Workspace.smallTree := Workspace.smallTree_stands
  have files : ∀ place ∈ places, (Workspace.smallTree.content? place).isSome = true := by
    simp [places, Workspace.smallTree, Node.content?, Node.at?, Node.child?, Node.entries]
  have answers : source.Answers fun _ => .ok none := SampleSource.ofAnswer_answers _
  obtain ⟨whole, hwhole⟩ := run_tree_returns stands.holdsTree mixedCatalog_textual answers {} () rfl rfl
    smallTree_askable
  have h := run_files_restricts stands mixedCatalog_textual answers {} () () files
  simp only [hwhole] at h
  cases hlisted : (run ws mixedCatalog {} source (places.map (⟨"", ·⟩)) ()).result with
  | error error =>
    simp only [hlisted] at h
    obtain ⟨refusal, -, hlong⟩ := h
    exact absurd hlong (not_unaskable (by decide))
  | ok listed =>
    simp only [hlisted] at h
    exact ⟨stands, mixedCatalog_textual, answers, files, whole, listed, hwhole, rfl, h.2.2.2⟩

end Polyglot.Analysis
