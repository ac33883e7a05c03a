import Polyglot.Proofs.FolderRuns

namespace Polyglot

open Polyglot.Data (Ledger)
open Polyglot.Data.Ledger (sumOf)
open Polyglot.Files (Workspace)

namespace Progress

/-- The progress has counted some files: how many, their bytes, and how many each signal decided. -/
structure Tallies (progress : Progress) (items : List Classified) : Prop where
  done : progress.done = items.length
  bytes : progress.bytes = Aggregator.bytesOf items
  sources : ∀ source, (progress.sources.get? source).getD 0 =
    items.countP fun item => item.signal.name == source
  total : sumOf Nat.cast progress.sources = items.length

theorem Tallies.start : Tallies {} [] := ⟨rfl, rfl, fun _ => rfl, rfl⟩

variable {progress : Progress} {items : List Classified}

theorem Tallies.done_step (h : Tallies progress items) (item : Classified) :
    Tallies (progress.step (.done item.signal.name item.size)) (items ++ [item]) := by
  refine ⟨?_, ?_, ?_, ?_⟩
  · rw [step, h.done, List.length_append]
    rfl
  · rw [step, h.bytes]
    simp [Aggregator.bytesOf]
  · intro source
    change ((Ledger.put _ _ progress.sources).get? source).getD 0 = _
    rw [Ledger.get?_put, List.countP_append, ← h.sources source]
    by_cases hs : source = item.signal.name
    · simp [hs]
    · have hne : ¬ item.signal.name = source := fun he => hs he.symm
      simp [hs, hne]
  · change sumOf Nat.cast (Ledger.put _ _ progress.sources) = _
    rw [Ledger.sumOf_put, h.total]
    cases progress.sources.get? item.signal.name with
    | none => simp
    | some count =>
      simp only [Option.map_some, Option.getD_some, List.length_append, List.length_singleton]
      omega

theorem Tallies.congr (h : Tallies progress items) {other : Progress}
    (done : other.done = progress.done) (bytes : other.bytes = progress.bytes)
    (sources : other.sources = progress.sources) : Tallies other items :=
  ⟨done.trans h.done, bytes.trans h.bytes, sources ▸ h.sources, sources ▸ h.total⟩

end Progress

namespace Analysis

open Polyglot.Progress (Tallies)

variable {σ : Type} {ws : Workspace} {catalog : Catalog} {options : Options}
  {source : SampleSource σ} {paths : List Path} {samples : σ} {items : List Classified}

theorem tallies_classifyAll {entries : List Entry} {session : Session σ} {account : Account}
    (h : Tallies account.progress items) {more : List Classified}
    (hc : (classifyAll ws catalog options source entries session account).2.2 = .ok more) :
    let left := (classifyAll ws catalog options source entries session account).2.1
    Tallies left.progress (items ++ more) ∧ left.progress.found = account.progress.found := by
  induction entries generalizing session account items more with
  | nil =>
    cases hc
    rw [List.append_nil]
    exact ⟨h, rfl⟩
  | cons entry rest ih =>
    obtain ⟨journal, item, next, others, hitem, hrest, rfl⟩ := classifyAll_cons_eq_ok hc
    rw [classifyAll_cons hitem]
    obtain ⟨htallies, hfound⟩ := ih (h.done_step item) hrest
    exact ⟨by simpa using htallies, hfound⟩

/-- The account of an analysis that has resolved its inputs to some number of entries. -/
def Account.resolved (journal : Journal) (count : Nat) : Account :=
  ((((({} : Account).step (.enter "resolve")).report journal).step (.leave .completed)).step
    (.found count)).step (.enter "classify")

theorem Account.resolved_tallies (journal : Journal) (count : Nat) :
    Tallies (resolved journal count).progress [] :=
  Tallies.start.congr rfl rfl rfl

/-- The progress of an analysis with a result has found and counted what was classified, and the last
that is reported are its sums. -/
theorem run_progress {summary : Summary}
    (h : (run ws catalog options source paths samples).result = .ok summary) :
    ∃ entries items last,
      (resolveInputs ws (catalog.without options.ignoredLanguages) options paths).2 = .ok entries ∧
      (classifyAll ws (catalog.without options.ignoredLanguages) options source entries { samples }
        {}).2.2 = .ok items ∧
      (Aggregator.addAll { catalog := catalog.without options.ignoredLanguages, options } items).2 =
        .ok last ∧
      summary = last.result ∧
      Tallies (run ws catalog options source paths samples).progress items ∧
      (run ws catalog options source paths samples).progress.found = entries.length ∧
      (run ws catalog options source paths samples).journal.getLast? =
        some (.analysisDone summary.fileCount summary.bytes.toNat summary.languageCount last.dropped
          (catalog.without options.ignoredLanguages).source) := by
  obtain ⟨items, last, hclassified, hlast, -, rfl⟩ := run_eq_ok h
  obtain ⟨entries, hentries, hall⟩ := classified_eq_ok hclassified
  refine ⟨entries, items, last, hentries, hall, hlast, rfl, ?_⟩
  have hsaid (account : Account) := (classifyAll_account entries { samples } account {}).trans hall
  rcases hr : resolveInputs ws (catalog.without options.ignoredLanguages) options paths
    with ⟨journal, resolved⟩
  rcases ha : Aggregator.addAll { catalog := catalog.without options.ignoredLanguages, options } items
    with ⟨added, counted⟩
  rw [hr] at hentries
  rw [ha] at hlast
  cases hentries
  cases hlast
  simp only [run, hr, hsaid, ha]
  obtain ⟨htallies, hfound⟩ := tallies_classifyAll
    (Account.resolved_tallies journal entries.length) (hsaid _)
  rw [List.nil_append] at htallies
  refine ⟨htallies.congr rfl rfl rfl, hfound, ?_⟩
  rw [Account.report, List.getLast?_append]
  rfl

theorem firstOfEachKey_keys (entries : List Entry) :
    (firstOfEachKey entries).map Entry.key = (entries.map Entry.key).eraseDups := by
  induction entries using key_induction with
  | nil => rfl
  | cons first rest ih =>
    have hother : (rest.map Entry.key).filter (fun key => !key == first.key) =
        (rest.filter fun other => !other.key == first.key).map Entry.key := List.filter_map
    rw [firstOfEachKey_cons, List.map_cons, List.map_cons, List.eraseDups_cons, hother, ih]

theorem resolveInputs_distinct {entries : List Entry}
    (h : (resolveInputs ws catalog options paths).2 = .ok entries) :
    (entries.map Entry.key).Nodup := by
  simp only [resolveInputs] at h
  split at h
  · cases h
  · split at h
    · cases h
    · split at h
      · cases h
      · cases h
        rw [firstOfEachKey_keys]
        exact nodup_eraseDups _

theorem classified_distinct (h : classified ws catalog options source paths samples = .ok items) :
    (items.map Classified.path).Nodup := by
  obtain ⟨entries, hentries, hall⟩ := classified_eq_ok h
  have hpaths : items.map Classified.path = entries.map Entry.key := by
    simpa [Function.comp_def] using congrArg (List.map Prod.fst) (classifyAll_items hall)
  rw [hpaths]
  exact resolveInputs_distinct hentries

theorem retained_distinct : ((retained ws catalog options source paths samples).map
    Classified.path).Nodup := by
  cases hc : classified ws catalog options source paths samples with
  | error e => simp [retained, hc]
  | ok items =>
    rw [retained_eq hc]
    exact (classified_distinct hc).sublist (List.filter_sublist.map Classified.path)

section
variable (catalog : Catalog) (options : Options) (items : List Classified)

/-- The files that are dropped of those that are classified. -/
def droppedOf : List Classified := items.filter fun item => !Aggregator.retains catalog options item

/-- The retained files with a label that is no language of the table. -/
def strangersOf : List Classified :=
  (Aggregator.retainedOf catalog options items).filter (Aggregator.isStranger catalog)

end

/-- The books of a run come together: its entries, what was said of them, its progress and its
result. -/
structure Balances (ws : Workspace) (catalog : Catalog) (options : Options) (entries : List Entry)
    (items : List Classified) (progress : Progress) (summary : Summary) : Prop where
  distinct : (entries.map Entry.key).Nodup
  /-- Each entry has an item, with its key and the size of its file. -/
  items_eq : items.map (fun item => (item.path, item.size)) =
    entries.map fun entry => (entry.key, sizeAt ws entry.path)
  found : progress.found = entries.length
  done : progress.done = entries.length
  sources : sumOf Nat.cast progress.sources = entries.length
  files : summary.fileCount + (droppedOf catalog options items).length = entries.length
  bytes : progress.bytes = summary.bytes + Aggregator.bytesOf (droppedOf catalog options items) +
    Aggregator.bytesOf (strangersOf catalog options items)
  shown : summary.bytes = sumOf LanguageShare.bytes summary.languages + sumOf id summary.extensions +
    sumOf id summary.filenames

theorem bytesOf_filter (keeps : Classified → Bool) (items : List Classified) :
    Aggregator.bytesOf items = Aggregator.bytesOf (items.filter keeps) +
      Aggregator.bytesOf (items.filter fun item => !keeps item) := by
  induction items with
  | nil => rfl
  | cons item rest ih =>
    simp only [Aggregator.bytesOf] at ih ⊢
    cases hk : keeps item <;> simp [hk, ih] <;> omega

variable {aggregator : Aggregator}

theorem listed_or_dropped (h : Aggregator.Counts catalog options items aggregator)
    (sizes : ∀ item ∈ items, 0 ≤ item.size) (distinct : (items.map Classified.path).Nodup) :
    aggregator.result.fileCount + (droppedOf catalog options items).length = items.length := by
  have hretained : ((Aggregator.retainedOf catalog options items).map Classified.path).Nodup :=
    distinct.sublist (List.filter_sublist.map Classified.path)
  rw [(h.sumsUp sizes).fileCount, List.Nodup.dedup hretained, List.length_map,
    Aggregator.retainedOf, droppedOf, ← List.countP_eq_length_filter, ← List.countP_eq_length_filter]
  simp only [List.length_eq_countP_add_countP (Aggregator.retains catalog options), Bool.not_eq_true,
    Bool.decide_eq_false]

/-- The bytes of files are in the sums, or they belong to dropped files or to strangers. -/
theorem bytes_accounted (h : Aggregator.Counts catalog options items aggregator) :
    Aggregator.bytesOf items = aggregator.result.bytes +
      Aggregator.bytesOf (droppedOf catalog options items) +
      Aggregator.bytesOf (strangersOf catalog options items) := by
  have hcounted : aggregator.result.bytes = _ := h.covers.counted
  have hsplit := bytesOf_filter (Aggregator.retains catalog options) items
  have hretained := bytesOf_filter (Aggregator.isStranger catalog)
    (Aggregator.retainedOf catalog options items)
  rw [hcounted, droppedOf, strangersOf]
  rw [Aggregator.retainedOf] at hretained ⊢
  omega

/-- The books of every analysis with a result come together. The last event that is reported says how
many files were dropped. -/
theorem run_balances {summary : Summary}
    (h : (run ws catalog options source paths samples).result = .ok summary) :
    let known := catalog.without options.ignoredLanguages
    let outcome := run ws catalog options source paths samples
    ∃ entries items,
      (resolveInputs ws known options paths).2 = .ok entries ∧
      classified ws catalog options source paths samples = .ok items ∧
      Balances ws known options entries items outcome.progress summary ∧
      outcome.journal.getLast? = some (.analysisDone summary.fileCount summary.bytes.toNat
        summary.languageCount (droppedOf known options items).length known.source) := by
  obtain ⟨entries, items, last, hentries, hsaid, hlast, rfl, htallies, hfound, hjournal⟩ :=
    run_progress h
  have hclassified : classified ws catalog options source paths samples = .ok items := by
    simp only [classified, hentries, hsaid, Except.mapError]
  have hcounts : Aggregator.Counts (catalog.without options.ignoredLanguages) options items last :=
    ((Aggregator.Counts.start _ _).addAll hlast).1
  have hsizes := classified_sizes hclassified
  have hsums := hcounts.sumsUp hsizes
  have hitems := classifyAll_items hsaid
  have hlength : items.length = entries.length := by simpa using congrArg List.length hitems
  refine ⟨entries, items, hentries, hclassified,
    ⟨resolveInputs_distinct hentries, hitems, hfound, ?_, ?_, ?_, ?_, ?_⟩, ?_⟩
  · rw [htallies.done, hlength]
  · rw [htallies.total, hlength]
  · rw [listed_or_dropped hcounts hsizes (classified_distinct hclassified), hlength]
  · rw [htallies.bytes, bytes_accounted hcounts]
  · rw [hsums.bytes, hsums.languageBytes, hsums.unknownBytes, add_assoc]
  · rw [hjournal, hcounts.dropped, List.countP_eq_length_filter]
    rfl

theorem run_balances_mixed :
    let options := mixedOptions false (some [.programming])
    let source := SampleSource.ofAnswer fun _ => .ok none
    let outcome := run mixedFiles mixedCatalog options source [⟨"", []⟩] ()
    ∃ summary, outcome.result = .ok summary ∧
      summary.files = [("a.c", some (.text "C")), ("notes", none)] ∧
      ∃ entries items, (resolveInputs mixedFiles mixedCatalog options [⟨"", []⟩]).2 = .ok entries ∧
        Balances mixedFiles mixedCatalog options entries items outcome.progress summary ∧
        (droppedOf mixedCatalog options items).map Classified.path = ["b.h", "read.md"] := by
  intro options source outcome
  have hsaid : classified mixedFiles mixedCatalog options source [⟨"", []⟩] () = .ok _ :=
    mixed_binary (SampleSource.ofAnswer_answers _) ()
  obtain ⟨summary, hresult, -, hfiles⟩ := run_ok mixedCatalog_textual hsaid
  rw [retained_eq hsaid] at hfiles
  obtain ⟨entries, items, hresolved, hitems, hbalances, -⟩ := run_balances hresult
  obtain rfl := Except.ok.inj (hitems.symm.trans hsaid)
  exact ⟨summary, hresult, hfiles (by decide), entries, _, hresolved, hbalances, by decide⟩

end Analysis

end Polyglot
