import Polyglot.Proofs.Grouping
import Polyglot.Proofs.Runs

namespace Polyglot

open Polyglot.Data (Value Scalar Entries)

namespace Index

/-- All names in an index are among some names. -/
def Within (index : Index) (names : List String) : Prop :=
  ∀ key, ∀ name ∈ index.get key, name ∈ names

variable {index : Index} {names : List String}

theorem Within.add (h : index.Within names) (key : String) {name : String} (hn : name ∈ names) :
    (index.add key name).Within names := by
  intro other found hm
  rw [get_add] at hm
  split at hm
  · split at hm
    · exact h key found hm
    · rcases List.mem_append.mp hm with hm | hm
      · exact h key found hm
      · exact List.mem_singleton.mp hm ▸ hn
  · exact h other found hm

theorem Within.addLanguage (h : index.Within names) (keys : Language → List String)
    {language : Language} (hn : language.name ∈ names) :
    (Index.addLanguage keys index language).Within names := by
  rw [Index.addLanguage]
  induction keys language generalizing index with
  | nil => exact h
  | cons key rest ih => exact ih (h.add (Text.lower key) hn)

theorem within_ofLanguages (keys : Language → List String) (languages : List Language) :
    (Index.ofLanguages keys languages).Within (languages.map Language.name) := by
  have hfold (more : List Language) (hsub : more ⊆ languages) (index : Index)
      (h : index.Within (languages.map Language.name)) :
      (more.foldl (Index.addLanguage keys) index).Within (languages.map Language.name) := by
    induction more generalizing index with
    | nil => exact h
    | cons language rest ih =>
      have hin : language ∈ languages := hsub (by simp)
      exact ih (fun _ hm => hsub (List.mem_cons_of_mem _ hm)) _
        (h.addLanguage keys (List.mem_map_of_mem hin))
  exact hfold languages (List.Subset.refl _) [] (by simp [Within, get])

end Index

namespace Detection

namespace Candidates

theorem mem_add {candidates : Candidates} {label other : Label}
    (h : other ∈ (candidates.add label).labels) : other ∈ candidates.labels ∨ other = label := by
  rw [add] at h
  split at h
  · exact .inl h
  · simpa using h

theorem mem_ofList {labels : List Label} {label : Label} (h : label ∈ (ofList labels).labels) :
    label ∈ labels := by
  have hfold (more : List Label) (candidates : Candidates)
      (h : label ∈ (more.foldl add candidates).labels) :
      label ∈ candidates.labels ∨ label ∈ more := by
    induction more generalizing candidates with
    | nil => exact .inl h
    | cons first rest ih =>
      rcases ih _ h with hm | hm
      · rcases mem_add hm with hm | rfl
        · exact .inl hm
        · exact .inr (by simp)
      · exact .inr (List.mem_cons_of_mem _ hm)
  exact (hfold labels empty h).resolve_left (by simp)

theorem labels_subset_foldl (candidates : Candidates) (more : List Label) :
    candidates.labels ⊆ (more.foldl add candidates).labels := by
  induction more generalizing candidates with
  | nil => exact List.Subset.refl _
  | cons label rest ih => exact fun _ hm => ih _ (labels_subset_add candidates label hm)

theorem labels_ofList_eq_nil {labels : List Label} : (ofList labels).labels = [] ↔ labels = [] := by
  cases labels with
  | nil => simp [ofList]
  | cons label rest =>
    have hin : label ∈ (ofList (label :: rest)).labels :=
      labels_subset_foldl (empty.add label) rest (by simp [add, contains])
    simp [List.ne_nil_of_mem hin]

theorem nodup_add {candidates : Candidates} (h : candidates.labels.Nodup) (label : Label) :
    (candidates.add label).labels.Nodup := by
  rw [add]
  split
  · exact h
  · rename_i hnot
    have hfresh : label ∉ candidates.labels :=
      fun hm => hnot (List.any_eq_true.mpr ⟨label, hm, by simp [Scalar.same]⟩)
    simp only [List.nodup_append, List.mem_singleton]
    exact ⟨h, List.nodup_singleton _, fun a ha b hb he => hfresh (hb ▸ he ▸ ha)⟩

theorem nodup_ofList (labels : List Label) : (ofList labels).labels.Nodup :=
  List.foldlRecOn labels add (motive := fun candidates => candidates.labels.Nodup) List.nodup_nil
    fun _ h label _ => nodup_add h label

theorem contains_text {candidates : Candidates} {text : String} :
    candidates.contains (.text text) = true ↔ .text text ∈ candidates.labels := by
  simp only [contains, List.any_eq_true, Scalar.same_text_iff]
  constructor
  · rintro ⟨_, hm, rfl⟩
    exact hm
  · exact fun hm => ⟨_, hm, rfl⟩

end Candidates

section
variable (catalog : Catalog) (options : Options)

/-- A label is what a language of the table counts as. -/
def FromTable (label : Label) : Prop :=
  ∃ language ∈ catalog.languages, label = labelOf catalog options language.name

end

variable {catalog : Catalog} {options : Options} {candidates : Candidates}

theorem labelOf_of_mem {language : Language} (h : language ∈ catalog.languages) :
    labelOf catalog options language.name =
      if options.childLanguages then .text language.name else language.coarse := by
  rw [labelOf, Catalog.coarsen, Catalog.get?_of_mem h]
  rfl

theorem fromTable_of_name {name : String} (h : name ∈ catalog.languages.map Language.name) :
    FromTable catalog options (labelOf catalog options name) := by
  obtain ⟨language, hm, rfl⟩ := List.mem_map.mp h
  exact ⟨language, hm, rfl⟩

theorem fromTable_of_names {names : List String} (h : names ⊆ catalog.languages.map Language.name)
    {label : Label} (hl : label ∈ (Candidates.ofList (names.map (labelOf catalog options))).labels) :
    FromTable catalog options label := by
  obtain ⟨name, hm, rfl⟩ := List.mem_map.mp (Candidates.mem_ofList hl)
  exact fromTable_of_name (h hm)

theorem shebang?_mem {line name : String} (h : shebang? catalog line = some name) :
    name ∈ catalog.languages.map Language.name := by
  unfold shebang? at h
  split at h
  · obtain ⟨found, hf, rfl⟩ := Option.map_eq_some_iff.mp h
    obtain ⟨language, hm, rfl⟩ := List.mem_map.mp (List.mem_of_find?_eq_some hf)
    exact List.mem_map_of_mem (List.mem_filter.mp hm).1
  · cases h

theorem filenameIndex_subset (catalog : Catalog) (key : String) :
    catalog.filenameIndex.get key ⊆ catalog.languages.map Language.name := by
  rw [catalog.filenameIndex_eq]
  exact fun name hm => Index.within_ofLanguages Language.filenames catalog.languages key name hm

theorem extract_fromTable {path : String} {firstLine override : Option String}
    (signal : (extract catalog options path firstLine override).signal ≠ .override) {label : Label}
    (h : label ∈ (extract catalog options path firstLine override).candidates.labels) :
    FromTable catalog options label := by
  unfold extract at signal h
  simp only at signal h
  split at h
  · rename_i language hshebang
    have hline : firstLine.bind (shebang? catalog) = some language := by
      split at hshebang
      · exact hshebang
      · cases hshebang
    obtain ⟨line, -, hname⟩ := Option.bind_eq_some_iff.mp hline
    exact fromTable_of_names (by simpa using shebang?_mem hname) h
  · rename_i hshebang hforced
    simp only [hshebang, hforced, ne_eq, not_true_eq_false] at signal
  · split at h
    · rename_i language others hnames
      exact fromTable_of_names (hnames ▸ filenameIndex_subset catalog _) h
    · split at h
      · rename_i language others hnames
        have hsub : language :: others ⊆ catalog.languages.map Language.name :=
          hnames ▸ List.filter_subset_self _
        exact fromTable_of_names hsub h
      · cases h

open Polyglot.Classifier (Bayes Profile)

section
variable {α : Type} [DecidableEq α]

theorem learnLabel_labels {tokens : List Classifier.Token} {label : α} {profiles : List (Profile α)} :
    (Bayes.learnLabel tokens label profiles).map Profile.label ⊆ label :: profiles.map Profile.label := by
  induction profiles with
  | nil => simp [Bayes.learnLabel, Profile.learn]
  | cons profile rest ih =>
    rw [Bayes.learnLabel]
    split
    · rename_i he
      simp [Profile.learn]
    · intro other hm
      rcases List.mem_cons.mp hm with rfl | hm
      · simp
      · have := ih hm
        simp only [List.mem_cons, List.map_cons] at this ⊢
        exact this.imp id .inr

omit [DecidableEq α] in
theorem best_mem (first : α × Rat) (others : List (α × Rat)) :
    Bayes.best first others ∈ first :: others := by
  induction others generalizing first with
  | nil => simp [Bayes.best]
  | cons other rest ih =>
    rw [Bayes.best, List.foldl_cons, ← Bayes.best]
    split
    · exact List.mem_cons_of_mem _ (ih other)
    · rcases List.mem_cons.mp (ih first) with he | hm
      · rw [he]
        simp
      · exact List.mem_cons_of_mem _ (List.mem_cons_of_mem _ hm)

omit [DecidableEq α] in
theorem predict_mem {bayes : Bayes α} {text : List Char} {prediction : Classifier.Prediction α}
    (h : bayes.predict text = .ok prediction) : prediction.label ∈ bayes.labels := by
  unfold Bayes.predict at h
  simp only at h
  split at h
  · cases h
  · split at h
    · cases h
    · rename_i first others hscores
      cases h
      have hm := List.mem_map_of_mem (f := Prod.fst) (best_mem first others)
      rw [← hscores, List.map_map] at hm
      exact hm

end

variable {σ : Type} {source : SampleSource σ}

theorem run_andThen {α β : Type} (first : StateM σ α) (next : α → StateM σ β) (state : σ) :
    (first >>= next).run state = (next (first.run state).1).run (first.run state).2 := rfl

theorem learnSamples_labels {labels : List Label} {bayes learnt : Bayes Label} {samples : σ}
    (h : ((learnSamples source labels bayes).run samples).1.2 = .ok learnt) :
    learnt.labels ⊆ bayes.labels ++ labels := by
  induction labels generalizing bayes samples with
  | nil =>
    cases h
    simp
  | cons label rest ih =>
    rw [learnSamples, run_andThen] at h
    rcases hs : (source label).run samples with ⟨reply, next⟩
    rw [hs] at h
    have hrest : bayes.labels ++ rest ⊆ bayes.labels ++ label :: rest := by
      intro other hm
      simp only [List.mem_append, List.mem_cons] at hm ⊢
      exact hm.imp id .inr
    cases reply with
    | ok sample =>
      cases sample with
      | none => exact fun other hm => hrest (ih h hm)
      | some sample =>
        intro other hm
        rcases List.mem_append.mp (ih h hm) with hm | hm
        · rcases List.mem_cons.mp (learnLabel_labels hm) with rfl | hm
          · simp
          · exact List.mem_append_left _ hm
        · simp [hm]
    | error fault =>
      simp only at h
      split at h
      · exact fun other hm => hrest (ih h hm)
      · cases h

theorem fallback_mem {path : String} {content : List Char} {samples : σ} {label : Option Label}
    (h : ((fallback source path candidates content).run samples).1.2 = .ok label) :
    label = candidates.first? ∨ ∃ candidate ∈ candidates.labels, label = some candidate := by
  rw [fallback, run_andThen] at h
  rcases hl : (learnSamples source candidates.labels {}).run samples with ⟨⟨journal, learnt⟩, next⟩
  rw [hl] at h
  cases learnt with
  | error fault => cases h
  | ok bayes =>
    simp only at h
    split at h
    · cases h
      exact .inl rfl
    · split at h
      · cases h
      · rename_i prediction hp
        cases h
        have hm := learnSamples_labels (congrArg (·.1.2) hl) (predict_mem hp)
        exact .inr ⟨prediction.label, by simpa [Bayes.labels] using hm, rfl⟩

theorem firstRule?_eligible {eligible : String → Bool} {content language : String}
    {rules : List ContentRule} {skipped : List PatternError}
    (h : ((firstRule? eligible content rules).run.run skipped).1 = .ok (some language)) :
    eligible language = true := by
  induction rules generalizing skipped with
  | nil => cases h
  | cons rule rest ih =>
    rw [firstRule?] at h
    split at h
    · rename_i heligible
      rw [ExceptT.run_bind, run_andThen] at h
      rcases hh : (holds content rule).run.run skipped with ⟨here, next⟩
      rw [hh] at h
      rcases here with e | _ | _
      · cases h
      · exact ih h
      · cases h
        exact heligible
    · exact ih h

theorem chosen?_eligible {path content language : String} {skipped : List PatternError}
    (h : ((chosen? catalog options path candidates content).run.run skipped).1 = .ok (some language)) :
    eligible catalog candidates language = true := by
  unfold chosen? at h
  split at h
  · exact firstRule?_eligible h
  · cases h

theorem holds_unconditional {rule : ContentRule} (h : rule.unconditional = true) (content : String) :
    holds content rule = pure true := by
  obtain ⟨language, patterns, negative, clauses⟩ := rule
  simp only [ContentRule.unconditional, Bool.and_eq_true, List.isEmpty_iff] at h
  obtain ⟨⟨rfl, rfl⟩, rfl⟩ := h
  simp [holds, allHold]

theorem chosen?_unconditional {path content : String} {rule : ContentRule} {rules : List ContentRule}
    (asked : asksRules catalog options path candidates = true)
    (first : (disambiguationsFor catalog path).flatMap Disambiguation.rules = rule :: rules)
    (able : eligible catalog candidates rule.language = true) (h : rule.unconditional = true)
    (skipped : List PatternError) :
    ((chosen? catalog options path candidates content).run.run skipped).1 = .ok (some rule.language) := by
  rw [chosen?, if_pos asked, first, firstRule?, if_pos able, holds_unconditional h]
  rfl

end Detection

namespace Analysis

open Polyglot.Detection
open Polyglot.Files (Workspace)

section
variable (catalog : Catalog) (options : Options) (found : Extraction)

/-- The ways in which a text gets its label, each with the signal that is given for it. -/
inductive Decided : Option Label → Signal → Prop where
  | settled (h : isSettled found = true) : Decided found.candidates.first? found.signal
  /-- A rule on contents holds for a language that is a candidate, by itself or by its group. -/
  | rule (language : String) (h : isSettled found = false)
      (eligible : eligible catalog found.candidates language = true) :
      Decided (some (labelOf catalog options language)) .heuristic
  | sample (candidate : Label) (h : isSettled found = false)
      (mem : candidate ∈ found.candidates.labels) : Decided (some candidate) .classifier

end

variable {σ : Type} {ws : Workspace} {catalog : Catalog} {options : Options} {entry : Entry}
  {source : SampleSource σ} {session : Session σ} {content : ByteArray}

theorem first?_of_not_settled {found : Extraction} (h : isSettled found = false) :
    ∃ candidate ∈ found.candidates.labels, found.candidates.first? = some candidate := by
  rw [isSettled, Bool.or_eq_false_iff, decide_eq_false_iff_not, Candidates.size] at h
  cases hl : found.candidates.labels with
  | nil => simp [hl] at h
  | cons first rest => exact ⟨first, by simp, by rw [Candidates.first?, hl]; rfl⟩

theorem detect_decided {label : Option Label} {signal : Signal}
    (h : ((detect catalog options source entry content).run session).1.2 = .ok (label, signal)) :
    Decided catalog options (extraction catalog options entry content) label signal := by
  cases hs : isSettled (extraction catalog options entry content) with
  | true =>
    rw [detect_settled hs] at h
    cases h
    exact .settled hs
  | false =>
    generalize hfound : extraction catalog options entry content = found at hs ⊢
    rcases hc : (chosen? catalog options entry.rel found.candidates
      (String.ofList (Files.textOf content))).run.run session.skipped with ⟨chosen, skipped⟩
    rw [detect_choice hfound hs hc] at h
    match chosen with
    | .error e => cases h
    | .ok (some language) =>
      cases h
      exact .rule language hs (chosen?_eligible (congrArg Prod.fst hc))
    | .ok none =>
      cases ha : ((fallback source entry.key found.candidates (Files.textOf content)).run
          session.samples).1.2 with
      | error e =>
        simp only [ha] at h
        cases h
      | ok answer =>
        simp only [ha] at h
        cases h
        rcases fallback_mem ha with hfirst | ⟨candidate, hm, rfl⟩
        · obtain ⟨candidate, hm, he⟩ := first?_of_not_settled hs
          rw [hfirst, he]
          exact .sample candidate hs hm
        · exact .sample candidate hs hm

theorem classify_decided {item : Classified} (read : ws.read entry.path = .ok content)
    (text : isBinary options entry content = false)
    (h : ((classify ws catalog options source entry).run session).1.2 = .ok item) :
    Decided catalog options (extraction catalog options entry content) item.label item.signal := by
  rw [classify_text read text] at h
  cases hd : ((detect catalog options source entry content).run session).1.2 with
  | error e =>
    simp only [hd] at h
    cases h
  | ok found =>
    simp only [hd] at h
    cases h
    exact detect_decided hd

/-- The label of a text with several candidates is what the language of the first eligible rule counts
as, if this rule has no conditions. -/
theorem classify_unconditional (source : SampleSource σ) (session : Session σ) {found : Extraction}
    {rule : ContentRule} {rules : List ContentRule} (read : ws.read entry.path = .ok content)
    (text : isBinary options entry content = false)
    (seen : extraction catalog options entry content = found) (choice : isSettled found = false)
    (asked : asksRules catalog options entry.rel found.candidates = true)
    (first : (disambiguationsFor catalog entry.rel).flatMap Disambiguation.rules = rule :: rules)
    (able : eligible catalog found.candidates rule.language = true)
    (always : rule.unconditional = true) :
    ((classify ws catalog options source entry).run session).1.2 = .ok {
      path := entry.key
      label := some (labelOf catalog options rule.language)
      size := content.size
      signal := .heuristic } := by
  subst seen
  exact classify_chosen read text choice
    (chosen?_unconditional asked first able always session.skipped)

theorem text_fromTable {text : String} (coarse : options.childLanguages = false)
    (h : FromTable catalog options (.text text)) :
    ∃ language ∈ catalog.languages, language.group.truthy = true ∧ language.group = .text text ∨
      language.group.truthy = false ∧ language.name = text := by
  obtain ⟨language, hm, hl⟩ := h
  rw [labelOf_of_mem hm, coarse, if_neg Bool.false_ne_true, Language.coarse] at hl
  refine ⟨language, hm, ?_⟩
  split at hl
  · rename_i htruthy
    exact .inl ⟨htruthy, hl.symm⟩
  · rename_i hfalsy
    exact .inr ⟨Bool.eq_false_iff.mpr hfalsy, (Scalar.text.inj hl).symm⟩

/-- With groups in two levels, a language whose name others count as counts as itself. -/
theorem coarse_of_mem (levels : catalog.TwoLevels) {language : Language}
    (hm : language ∈ catalog.languages) (coarse : options.childLanguages = false)
    (h : FromTable catalog options (.text language.name)) : language.coarse = .text language.name := by
  have hfalsy : language.group.truthy = false := by
    obtain ⟨other, ho, ⟨-, hgroup⟩ | ⟨hgroup, hname⟩⟩ := text_fromTable coarse h
    · exact levels.top other ho language hm hgroup
    · have hsame := Catalog.get?_of_mem ho
      rw [hname, Catalog.get?_of_mem hm] at hsame
      rw [Option.some.inj hsame]
      exact hgroup
  simp [Language.coarse, hfalsy]

theorem truthy_of_candidate (levels : catalog.TwoLevels) {language : Language}
    (hm : language ∈ catalog.languages) (coarse : options.childLanguages = false) {text : String}
    (hgroup : language.group = .text text) (h : FromTable catalog options (.text text)) :
    language.group.truthy = true := by
  by_contra hfalsy
  have hempty : text = "" := by simpa [hgroup, Scalar.truthy] using hfalsy
  subst hempty
  obtain ⟨other, ho, ⟨htruthy, hother⟩ | ⟨-, hname⟩⟩ := text_fromTable coarse h
  · rw [hother] at htruthy
    cases htruthy
  · rcases levels.empty with hno | hno
    · exact hno other ho hname
    · exact hno language hm hgroup

/-- With groups in two levels, what an eligible language counts as is a candidate, if languages count
as their groups. -/
theorem labelOf_mem (levels : catalog.TwoLevels) {candidates : Candidates} {name : String}
    (coarse : options.childLanguages = false)
    (table : ∀ label ∈ candidates.labels, FromTable catalog options label)
    (h : eligible catalog candidates name = true) :
    labelOf catalog options name ∈ candidates.labels := by
  rw [eligible, Bool.and_eq_true, Bool.or_eq_true, Bool.and_eq_true, Catalog.contains] at h
  obtain ⟨hknown, hcandidate⟩ := h
  obtain ⟨language, hget⟩ := Option.isSome_iff_exists.mp hknown
  obtain ⟨hm, rfl⟩ := Catalog.get?_mem hget
  rw [labelOf_of_mem hm, coarse, if_neg Bool.false_ne_true]
  rw [Catalog.parentOf, hget, Option.map_some, Option.getD_some] at hcandidate
  rcases hcandidate with hself | ⟨hgroup, hparent⟩
  · have hin := Candidates.contains_text.mp hself
    rw [coarse_of_mem levels hm coarse (table _ hin)]
    exact hin
  · have htextual := levels.textual language hm
    cases hg : language.group with
    | null => simp [hg] at hgroup
    | text group =>
      rw [hg] at hparent
      have hin := Candidates.contains_text.mp hparent
      rw [Language.coarse, if_pos (truthy_of_candidate levels hm coarse hg (table _ hin)), hg]
      exact hin
    | _ => simp [hg, isTextual] at htextual

theorem signal_ne_override {found : Extraction} (h : isSettled found = false) :
    found.signal ≠ .override := by
  rw [isSettled, Extraction.terminal, Bool.or_eq_false_iff, Bool.or_eq_false_iff] at h
  simpa using h.1.2

/-- The candidates of a text that no override decides come from the table. -/
theorem extraction_fromTable {label : Label}
    (signal : (extraction catalog options entry content).signal ≠ .override)
    (h : label ∈ (extraction catalog options entry content).candidates.labels) :
    FromTable catalog options label :=
  extract_fromTable signal h

/-- Where languages count as themselves, an eligible language is a candidate, or its group is. -/
theorem parentOf_mem {candidates : Candidates} {name : String} (fine : options.childLanguages = true)
    (table : ∀ label ∈ candidates.labels, FromTable catalog options label)
    (h : eligible catalog candidates name = true) :
    .text name ∈ candidates.labels ∨ catalog.parentOf name ∈ candidates.labels := by
  rw [eligible, Bool.and_eq_true, Bool.or_eq_true, Bool.and_eq_true] at h
  rcases h.2 with hself | ⟨-, hparent⟩
  · exact .inl (Candidates.contains_text.mp hself)
  · right
    obtain ⟨candidate, hm, hsame⟩ := List.any_eq_true.mp hparent
    obtain ⟨language, hl, rfl⟩ := table candidate hm
    rw [labelOf_of_mem hl, if_pos fine, Scalar.same_comm, Scalar.same_text_iff] at hsame
    rw [hsame]
    rw [labelOf_of_mem hl, if_pos fine] at hm
    exact hm

/-- A text that neither a shebang nor an override decides has no label only if it has no candidates.
Where languages count as their groups, its label is a candidate, and else the label or its group is
one. The groups of the table are texts or null. It must not be that a language goes by the empty text
and is a group of others, if languages count as their groups: for the rules on contents such a group is
a candidate, and yet those languages count as themselves. -/
theorem label_among_candidates {tables : Tables} {table : Catalog}
    (groups : ∀ entries, tables.languages = .map entries → Tables.TextualGroups entries)
    (empty : options.childLanguages = false →
      ∀ entries, tables.languages = .map entries → Tables.EmptyAside entries)
    (made : (Catalog.ofTables tables).2 = .ok table) (filters : List (List String)) {item : Classified}
    (read : ws.read entry.path = .ok content) (text : isBinary options entry content = false)
    (said : ((classify ws (filters.foldl Catalog.without table) options source entry).run
      session).1.2 = .ok item)
    (shebang : item.signal ≠ .shebang) (override : item.signal ≠ .override) :
    let known := filters.foldl Catalog.without table
    let candidates := (extraction known options entry content).candidates
    (item.label = none ↔ candidates.labels = []) ∧
      ∀ label, item.label = some label →
        if options.childLanguages then
          label ∈ candidates.labels ∨
            ∃ name, label = .text name ∧ known.parentOf name ∈ candidates.labels
        else label ∈ candidates.labels := by
  intro known candidates
  have hdecided := classify_decided read text said
  have hfirst : candidates.first? = none ↔ candidates.labels = [] := List.head?_eq_none_iff
  generalize item.label = label at hdecided ⊢
  generalize item.signal = signal at hdecided shebang override
  cases hdecided with
  | settled =>
    refine ⟨hfirst, fun label hl => ?_⟩
    have hm : label ∈ candidates.labels := List.mem_of_mem_head? hl
    split
    · exact .inl hm
    · exact hm
  | rule name hs able =>
    have htable (label) (hm : label ∈ candidates.labels) : FromTable known options label :=
      extraction_fromTable (signal_ne_override hs) hm
    obtain ⟨candidate, hm, -⟩ := first?_of_not_settled hs
    have hne : candidates.labels ≠ [] := List.ne_nil_of_mem hm
    refine ⟨by simp [hne], fun label hl => ?_⟩
    cases hl
    split
    · rename_i fine
      rw [labelOf, if_pos fine]
      exact (parentOf_mem fine htable able).imp id fun hp => ⟨name, rfl, hp⟩
    · rename_i coarse
      -- The table has two levels, so the group of a candidate is what the candidate counts as.
      have hcoarse : options.childLanguages = false := Bool.eq_false_iff.mpr coarse
      have hlevels := (Catalog.ofTables_twoLevels groups (empty hcoarse) made).withoutAll filters
      exact labelOf_mem hlevels hcoarse htable able
  | sample candidate hs hm =>
    have hne : candidates.labels ≠ [] := List.ne_nil_of_mem hm
    refine ⟨by simp [hne], fun label hl => ?_⟩
    cases hl
    split
    · exact .inl hm
    · exact hm

/-- The entry of a language of data. -/
def dataLanguage (more : Entries) : Value := .map ((.text "type", .text "data") :: more)

/-- Rules on the contents of files, one for each language, that always hold. -/
def unconditionalRules (languages : List String) : Value :=
  .map [(.text "disambiguations", .list [.map [
    (.text "extensions", .text ".c"),
    (.text "rules", .list (languages.map fun language => .map [(.text "language", .text language)]))]])]

/-- A language with a group, and a rule that chooses it. -/
def grouped : Tables where
  languages := .map [
    (.text "A", dataLanguage [(.text "group", .text "P"), (.text "extensions", .text ".c")]),
    (.text "B", dataLanguage [(.text "extensions", .text ".c")]),
    (.text "P", dataLanguage [])]
  heuristics := unconditionalRules ["A"]

def groupedCatalog : Catalog := Catalog.ofLanguages [
  { name := "A", category := .data, group := .text "P", extensions := [".c"] },
  { name := "B", category := .data, extensions := [".c"] },
  { name := "P", category := .data }] (by decide) "inline" [] [] [⟨[".c"], [{ language := "A" }]⟩]

theorem grouped_made : (Catalog.ofTables grouped).2 = .ok groupedCatalog := by cbv

theorem grouped_said {σ : Type} (source : SampleSource σ) (session : Session σ) :
    ((classify oneFile (groupedCatalog.without ["p"]) (ruleless ["p"]) source oneEntry).run
      session).1.2 = .ok {
        path := "a.c"
        label := some (.text "P")
        size := ("int a;".toUTF8.size : Nat)
        signal := .heuristic } := by
  have hfound : extraction (groupedCatalog.without ["p"]) (ruleless ["p"]) oneEntry
      "int a;".toUTF8 = ⟨⟨[.text "P", .text "B"]⟩, .extension⟩ := by cbv
  have hasked : asksRules (groupedCatalog.without ["p"]) (ruleless ["p"]) oneEntry.rel
      ⟨[.text "P", .text "B"]⟩ = true := by cbv
  have hrules : (disambiguationsFor (groupedCatalog.without ["p"]) oneEntry.rel).flatMap
      Disambiguation.rules = [{ language := "A" }] := by cbv
  have hable : eligible (groupedCatalog.without ["p"]) ⟨[.text "P", .text "B"]⟩ "A" = true := by cbv
  have hlabel : labelOf (groupedCatalog.without ["p"]) (ruleless ["p"]) "A" = .text "P" := by cbv
  rw [classify_unconditional source session read_oneFile (isBinary_oneFile _) hfound rfl hasked hrules
    hable rfl, hlabel]
  rfl

theorem label_among_candidates_grouped :
    ∃ (table : Catalog) (item : Classified),
      (Catalog.ofTables grouped).2 = .ok table ∧
      ((classify oneFile (table.without ["p"]) (ruleless ["p"]) (.ofAnswer fun _ => .ok none)
        oneEntry).run { samples := () }).1.2 = .ok item ∧
      item.label = some (.text "P") ∧
      .text "P" ∈ (extraction (table.without ["p"]) (ruleless ["p"]) oneEntry
        "int a;".toUTF8).candidates.labels := by
  have hentries : ∀ entries, grouped.languages = .map entries →
      Tables.TextualGroups entries ∧ Tables.EmptyAside entries := by
    intro entries he
    cases he
    refine ⟨fun key language hm => ?_, .inl fun key language hm => ?_⟩ <;>
    · simp only [dataLanguage, List.mem_cons, Prod.mk.injEq, Value.map.injEq, List.not_mem_nil,
        or_false] at hm
      rcases hm with ⟨rfl, rfl⟩ | ⟨rfl, rfl⟩ | ⟨rfl, rfl⟩ <;> first | rfl | decide
  have hsaid := grouped_said (.ofAnswer fun _ => .ok none) { samples := () }
  have hlabel := label_among_candidates (fun entries he => (hentries entries he).1)
    (fun _ entries he => (hentries entries he).2) grouped_made [["p"]] read_oneFile
    (isBinary_oneFile _) hsaid (by decide) (by decide)
  exact ⟨groupedCatalog, _, grouped_made, hsaid, rfl, hlabel.2 (.text "P") rfl⟩

/-- A language that goes by the empty text, and is the group of another. -/
def emptyGroup : Tables where
  languages := .map [
    (.text "", dataLanguage [(.text "extensions", .text ".c")]),
    (.text "B", dataLanguage [(.text "extensions", .text ".c")]),
    (.text "L", dataLanguage [(.text "group", .text "")])]
  heuristics := unconditionalRules ["L", ""]

/-- Its member is chosen for its sake, counts as itself, and is no candidate. -/
theorem label_astray_emptyGroup :
    ∃ (catalog : Catalog) (item : Classified),
      (Catalog.ofTables emptyGroup).2 = .ok catalog ∧
      (∀ entries, emptyGroup.languages = .map entries → Tables.TextualGroups entries) ∧
      oneFile.read oneEntry.path = .ok "int a;".toUTF8 ∧
      isBinary (ruleless []) oneEntry "int a;".toUTF8 = false ∧
      ((classify oneFile catalog (ruleless []) (.ofAnswer fun _ => .ok none) oneEntry).run
        { samples := () }).1.2 = .ok item ∧
      item.signal = .heuristic ∧ item.label = some (.text "L") ∧
      .text "L" ∉ (extraction catalog (ruleless []) oneEntry "int a;".toUTF8).candidates.labels := by
  let catalog : Catalog := Catalog.ofLanguages [
    { name := "", category := .data, extensions := [".c"] },
    { name := "B", category := .data, extensions := [".c"] },
    { name := "L", category := .data, group := .text "" }] (by decide) "inline" [] []
    [⟨[".c"], [{ language := "L" }, { language := "" }]⟩]
  have hmade : (Catalog.ofTables emptyGroup).2 = .ok catalog := by cbv
  have hfound : extraction catalog (ruleless []) oneEntry "int a;".toUTF8 =
      ⟨⟨[.text "", .text "B"]⟩, .extension⟩ := by cbv
  have hasked : asksRules catalog (ruleless []) oneEntry.rel ⟨[.text "", .text "B"]⟩ = true := by cbv
  have hrules : (disambiguationsFor catalog oneEntry.rel).flatMap Disambiguation.rules =
      [{ language := "L" }, { language := "" }] := by cbv
  have hable : eligible catalog ⟨[.text "", .text "B"]⟩ "L" = true := by cbv
  have hsaid := classify_unconditional (.ofAnswer fun _ => .ok none) { samples := () } read_oneFile
    (isBinary_oneFile (ruleless [])) hfound rfl hasked hrules hable rfl
  refine ⟨catalog, _, hmade, ?_, read_oneFile, isBinary_oneFile _, hsaid, rfl, rfl, ?_⟩
  · intro entries he key language hm
    cases he
    simp only [dataLanguage, List.mem_cons, Prod.mk.injEq, Value.map.injEq, List.not_mem_nil,
      or_false] at hm
    rcases hm with ⟨-, rfl⟩ | ⟨-, rfl⟩ | ⟨-, rfl⟩ <;> rfl
  · rw [hfound]
    decide

end Analysis

end Polyglot
