import Polyglot.Proofs.Leftovers
import Polyglot.Proofs.Runs
import Polyglot.Report

namespace Polyglot

open Polyglot.Data (Ledger)
open Polyglot.Data.Ledger (Sums amount totalOf sumOf)

namespace Report

/-- Languages with their ranks are those of a ledger, by their bytes. -/
structure Ranks (ranked : List RankedLanguage) (languages : Ledger LanguageShare) : Prop where
  once : (ranked.map fun language => (language.name, language.bytes)).Perm
    (languages.map fun entry => (entry.1, entry.2.bytes))
  numbered : ranked.map RankedLanguage.rank = List.range' 1 languages.length
  ordered : ranked.Pairwise fun language later => later.bytes ≤ language.bytes
  /-- Those with as many bytes are in the order of the ledger. -/
  ties : ∀ bytes, (ranked.filter (·.bytes = bytes)).map RankedLanguage.name =
    (languages.filter (·.2.bytes = bytes)).map Prod.fst

/-- Entries by their bytes, the most first. -/
def byBytes (languages : Ledger LanguageShare) : Ledger LanguageShare :=
  languages.mergeSort fun a b => b.2.bytes ≤ a.2.bytes

section
variable (languages : Ledger LanguageShare)

theorem byBytes_trans (a b c : String × LanguageShare) (hab : decide (b.2.bytes ≤ a.2.bytes) = true)
    (hbc : decide (c.2.bytes ≤ b.2.bytes) = true) : decide (c.2.bytes ≤ a.2.bytes) = true := by
  rw [decide_eq_true_eq] at hab hbc ⊢
  exact hbc.trans hab

theorem byBytes_total (a b : String × LanguageShare) :
    (decide (b.2.bytes ≤ a.2.bytes) || decide (a.2.bytes ≤ b.2.bytes)) = true := by
  rw [Bool.or_eq_true, decide_eq_true_eq, decide_eq_true_eq]
  exact le_total _ _

theorem byBytes_ordered : (byBytes languages).Pairwise fun a b => b.2.bytes ≤ a.2.bytes :=
  (List.pairwise_mergeSort byBytes_trans byBytes_total languages).imp of_decide_eq_true

theorem byBytes_ties (bytes : Int) : (byBytes languages).filter (·.2.bytes = bytes) =
    languages.filter (·.2.bytes = bytes) := by
  have hties : (languages.filter (·.2.bytes = bytes)).Pairwise fun a b =>
      decide (b.2.bytes ≤ a.2.bytes) = true := by
    refine List.pairwise_of_forall_mem_list fun a ha b hb => ?_
    have ha := of_decide_eq_true (List.mem_filter.mp ha).2
    have hb := of_decide_eq_true (List.mem_filter.mp hb).2
    rw [decide_eq_true_eq, ha, hb]
  have hsub := (List.sublist_mergeSort byBytes_trans byBytes_total hties List.filter_sublist).filter
    (·.2.bytes = bytes)
  simp only [List.filter_filter, Bool.and_self] at hsub
  have hperm : ((byBytes languages).filter (·.2.bytes = bytes)).Perm
      (languages.filter (·.2.bytes = bytes)) := (List.mergeSort_perm languages _).filter _
  exact (hsub.eq_of_length hperm.length_eq.symm).symm

end

theorem ranked_eq (summary : Summary) : ranked summary =
    (byBytes summary.languages).zipIdx.map fun entry => ⟨entry.2 + 1, entry.1.1, entry.1.2.bytes⟩ := rfl

theorem ranked_map (summary : Summary) :
    (ranked summary).map (fun language => (language.name, language.bytes)) =
      (byBytes summary.languages).map fun entry => (entry.1, entry.2.bytes) := by
  have hfst : (fun language : RankedLanguage => (language.name, language.bytes)) ∘
      (fun entry : (String × LanguageShare) × Nat => ⟨entry.2 + 1, entry.1.1, entry.1.2.bytes⟩) =
        (fun entry => (entry.1, entry.2.bytes)) ∘ Prod.fst := rfl
  rw [ranked_eq, List.map_map, hfst, ← List.map_map, List.zipIdx_map_fst]

theorem ranks_ranked (summary : Summary) : Ranks (ranked summary) summary.languages := by
  have hperm : (byBytes summary.languages).Perm summary.languages := List.mergeSort_perm _ _
  constructor
  case once =>
    rw [ranked_map]
    exact hperm.map _
  case numbered =>
    have hsnd : RankedLanguage.rank ∘
        (fun entry : (String × LanguageShare) × Nat => ⟨entry.2 + 1, entry.1.1, entry.1.2.bytes⟩) =
          (· + 1) ∘ Prod.snd := rfl
    rw [ranked_eq, List.map_map, hsnd, ← List.map_map, List.zipIdx_map_snd, hperm.length_eq]
    simp [List.range'_eq_map_range, Nat.add_comm]
  case ordered =>
    have hbytes : ((ranked summary).map fun language => (language.name, language.bytes)).Pairwise
        fun a b => b.2 ≤ a.2 := by
      rw [ranked_map, List.pairwise_map]
      exact byBytes_ordered _
    exact List.pairwise_map.mp hbytes
  case ties =>
    intro bytes
    have hfilter := congrArg (fun list => (list.filter (·.2 = bytes)).map Prod.fst) (ranked_map summary)
    simp only [List.filter_map, List.map_map] at hfilter
    rw [← byBytes_ties]
    exact hfilter

def unknownHeading : String := " Unknown files and extensions:"

/-- The lines that show a summary with its ranked languages: these with their total, and if there are any
bytes without a language, the file names, the extensions and their total. -/
def linesOf (summary : Summary) (ranked : List RankedLanguage) : List String :=
  ["Analysed " ++ grouped summary.bytes ++ " B from " ++ toString summary.fileCount ++
      " files with repolang", "", " Language analysis results:"] ++
    ranked.map (languageLine summary.languageBytes) ++ [totalLine summary.languageBytes] ++
    if 0 < summary.unknownBytes then
      ["", unknownHeading] ++ (summary.filenames ++ summary.extensions).map unknownLine ++
        [totalLine summary.unknownBytes]
    else []

theorem lines_ofSummary (summary : Summary) :
    (ofSummary summary).lines = linesOf summary (ranked summary) := by
  by_cases h : 0 < summary.unknownBytes <;>
    simp [lines, ofSummary, unknownLines, unknownHeading, linesOf, h]

theorem languageLine_ne (total : Int) (language : RankedLanguage) :
    languageLine total language ≠ unknownHeading := by
  intro h
  have := congrArg String.toList h
  simp [languageLine, unknownHeading, String.toList_append] at this

theorem totalLine_ne (bytes : Int) : totalLine bytes ≠ unknownHeading := by
  intro h
  have := congrArg String.toList h
  simp [totalLine, unknownHeading, String.toList_append] at this

theorem heading_mem_lines (summary : Summary) :
    unknownHeading ∈ (ofSummary summary).lines ↔ 0 < summary.unknownBytes := by
  have hfirst (text : String) : unknownHeading ≠ "Analysed " ++ text := by
    intro h
    have := congrArg String.toList h
    simp [unknownHeading, String.toList_append] at this
  have hlanguages : unknownHeading ∉ (ranked summary).map (languageLine summary.languageBytes) := by
    intro hm
    obtain ⟨language, -, h⟩ := List.mem_map.mp hm
    exact languageLine_ne _ _ h
  rw [lines_ofSummary, linesOf]
  constructor
  · intro hm
    by_contra hnot
    rw [if_neg hnot, List.append_nil, List.mem_append, List.mem_append] at hm
    rcases hm with (hm | hm) | hm
    · simp only [String.append_assoc, List.mem_cons, List.not_mem_nil, or_false] at hm
      rcases hm with hm | hm | hm
      · exact hfirst _ hm
      · exact absurd hm (by decide)
      · exact absurd hm (by decide)
    · exact hlanguages hm
    · exact totalLine_ne _ (List.mem_singleton.mp hm).symm
  · intro hpos
    rw [if_pos hpos]
    simp

end Report

namespace Aggregator

/-- A ledger holds the sums of some postings, and its keys in the order in which they came up. -/
structure InOrder (ledger : Ledger Int) (postings : List (String × Int)) : Prop extends
    Sums ledger postings where
  order : ledger.keys = (postings.map Prod.fst).eraseDups

theorem InOrder.nil : InOrder [] [] := ⟨Sums.nil, by simp [Ledger.keys]⟩

theorem InOrder.change {ledger : Ledger Int} {postings : List (String × Int)} (h : InOrder ledger postings)
    (key : String) (size : Int) :
    InOrder (ledger.change key 0 (· + size)) (postings ++ [(key, size)]) := by
  refine ⟨h.toSums.change key size, ?_⟩
  rw [Ledger.change, Ledger.keys_put, h.order, List.map_append, List.map_singleton, eraseDups_concat]
  simp only [List.mem_eraseDups]

/-- What one file adds to a summary: nothing, if it is not retained, fails or has a label that is no
language of the table; something without a language; or something to a language. It may be listed and
counted besides. -/
inductive Adds (catalog : Catalog) (options : Options) (item : Classified) (before : Summary) :
    Summary → Prop where
  | nothing (files : Ledger (Option Label)) (bytes : Int)
      (labelled : retains catalog options item = true → item.label ≠ none) :
      Adds catalog options item before { before with files, bytes }
  | unknown (files : Ledger (Option Label)) (bytes : Int) (retained : retains catalog options item = true)
      (unlabelled : item.label = none) :
      Adds catalog options item before (addUnknown item.path item.size { before with files, bytes })
  | language (files : Ledger (Option Label)) (bytes : Int) (share : LanguageShare) (name : String)
      (labelled : item.label ≠ none)
      (current : share.bytes = ((before.languages.get? name).map LanguageShare.bytes).getD 0) :
      Adds catalog options item before (addLanguage share name item.size { before with files, bytes })

theorem adds_retained {catalog : Catalog} {options : Options} {item : Classified}
    (h : retains catalog options item = true) (summary : Summary) :
    Adds catalog options item summary (addRetained catalog options item summary) := by
  unfold addRetained
  cases hl : languageFor catalog item with
  | some language =>
    refine .language _ _ _ _ (by simp [(languageFor_eq_some hl).1]) ?_
    cases summary.languages.get? language.name <;> rfl
  | none =>
    cases hlabel : item.label with
    | none => exact .unknown _ _ h hlabel
    | some label => exact .nothing _ summary.bytes fun _ => by simp [hlabel]

theorem adds_add (aggregator : Aggregator) (item : Classified) :
    (aggregator.add item).2.2.catalog = aggregator.catalog ∧
      (aggregator.add item).2.2.options = aggregator.options ∧
      Adds aggregator.catalog aggregator.options item aggregator.summary (aggregator.add item).2.2.summary := by
  cases hr : retains aggregator.catalog aggregator.options item with
  | false =>
    rw [add_dropped hr]
    exact ⟨rfl, rfl, .nothing _ _ fun h => by simp [hr] at h⟩
  | true =>
    cases ha : (aggregator.add item).2.1 with
    | error faults =>
      obtain ⟨⟨language, hl, -⟩, hadd⟩ := add_failed ha
      rw [hadd]
      exact ⟨rfl, rfl, .nothing _ _ fun _ => by simp [(languageFor_eq_some hl).1]⟩
    | ok answer =>
      rw [add_retained hr ha]
      exact ⟨rfl, rfl, adds_retained hr _⟩

/-- What a summary shows of the files that were added. -/
structure Tallies (catalog : Catalog) (options : Options) (items : List Classified) (summary : Summary) :
    Prop where
  languages_nodup : summary.languages.keys.Nodup
  languages : (∀ item ∈ items, 0 ≤ item.size) → (∀ entry ∈ summary.languages, 0 ≤ entry.2.bytes) ∧
    sumOf LanguageShare.bytes summary.languages = summary.languageBytes
  filenames : InOrder summary.filenames ((retainedOf catalog options items).filterMap filenamePosting?)
  extensions : InOrder summary.extensions ((retainedOf catalog options items).filterMap extensionPosting?)
  unknownBytes : sumOf id summary.filenames + sumOf id summary.extensions = summary.unknownBytes

theorem Tallies.start (catalog : Catalog) (options : Options) : Tallies catalog options [] {} :=
  ⟨List.nodup_nil, fun _ => ⟨by simp, rfl⟩, InOrder.nil, InOrder.nil, rfl⟩

variable {catalog : Catalog} {options : Options} {items : List Classified} {item : Classified}
  {summary after : Summary}

theorem postings_concat {posting? : Classified → Option (String × Int)}
    (h : retains catalog options item = true → posting? item = none) :
    (retainedOf catalog options (items ++ [item])).filterMap posting? =
      (retainedOf catalog options items).filterMap posting? := by
  rw [retainedOf, List.filter_append, List.filterMap_append]
  cases hr : retains catalog options item with
  | false => simp [hr, retainedOf]
  | true => simp [hr, h hr, retainedOf]

theorem postings_concat_some {posting? : Classified → Option (String × Int)} {posting : String × Int}
    (hr : retains catalog options item = true) (h : posting? item = some posting) :
    (retainedOf catalog options (items ++ [item])).filterMap posting? =
      (retainedOf catalog options items).filterMap posting? ++ [posting] := by
  rw [retainedOf, List.filter_append, List.filterMap_append]
  simp [hr, h, retainedOf]

theorem Tallies.languages_concat (h : Tallies catalog options items summary)
    (sizes : ∀ each ∈ items ++ [item], 0 ≤ each.size) :
    (∀ entry ∈ summary.languages, 0 ≤ entry.2.bytes) ∧
      sumOf LanguageShare.bytes summary.languages = summary.languageBytes :=
  h.languages fun each hm => sizes each (List.mem_append_left _ hm)

/-- A file without a label posts its size under its extension, or under its name. -/
theorem Tallies.unknown (h : Tallies catalog options items summary)
    (retained : retains catalog options item = true) (unlabelled : item.label = none) :
    Tallies catalog options (items ++ [item]) (addUnknown item.path item.size summary) := by
  by_cases he : extensionOf item = ""
  · have hnamed : filenamePosting? item = some ((Path.ofText item.path).name, item.size) :=
      if_pos ⟨unlabelled, he⟩
    have hextended : extensionPosting? item = none := if_neg fun hl => hl.2 he
    rw [addUnknown_named he]
    refine ⟨h.languages_nodup, h.languages_concat, ?_, ?_, ?_⟩
    · rw [postings_concat_some retained hnamed]
      exact h.filenames.change _ _
    · rw [postings_concat fun _ => hextended]
      exact h.extensions
    · change sumOf id (summary.filenames.change _ 0 (· + item.size)) + sumOf id summary.extensions =
        summary.unknownBytes + item.size
      rw [sum_change h.filenames.toSums, ← h.unknownBytes]
      omega
  · have hnamed : filenamePosting? item = none := if_neg fun hl => he hl.2
    have hextended : extensionPosting? item = some (extensionOf item, item.size) :=
      if_pos ⟨unlabelled, he⟩
    rw [addUnknown_extended he]
    refine ⟨h.languages_nodup, h.languages_concat, ?_, ?_, ?_⟩
    · rw [postings_concat fun _ => hnamed]
      exact h.filenames
    · rw [postings_concat_some retained hextended]
      exact h.extensions.change _ _
    · change sumOf id summary.filenames + sumOf id (summary.extensions.change _ 0 (· + item.size)) =
        summary.unknownBytes + item.size
      rw [sum_change h.extensions.toSums, ← h.unknownBytes]
      omega

theorem languages_put {languages : Ledger LanguageShare} {total : Int} (nodup : languages.keys.Nodup)
    (nonneg : ∀ entry ∈ languages, 0 ≤ entry.2.bytes) (sum : sumOf LanguageShare.bytes languages = total)
    {share : LanguageShare} {name : String} {size : Int} (positive : 0 ≤ size)
    (current : share.bytes = ((languages.get? name).map LanguageShare.bytes).getD 0) :
    let put := languages.put name { share with bytes := share.bytes + size }
    (∀ entry ∈ put, 0 ≤ entry.2.bytes) ∧ sumOf LanguageShare.bytes put = total + size := by
  intro put
  have hshare : 0 ≤ share.bytes := by
    rw [current]
    cases hg : languages.get? name with
    | none => exact le_rfl
    | some old => exact nonneg _ (Ledger.mem_of_get? hg)
  constructor
  · rintro ⟨key, value⟩ hm
    have hg := (Ledger.get?_eq_some_iff (Ledger.nodup_keys_put nodup _ _)).mpr hm
    rw [Ledger.get?_put] at hg
    split at hg
    · obtain rfl := Option.some.inj hg
      exact add_nonneg hshare positive
    · exact nonneg _ (Ledger.mem_of_get? hg)
  · rw [Ledger.sumOf_put, ← current, sum]
    change total - share.bytes + (share.bytes + size) = total + size
    omega

theorem Tallies.adds (h : Tallies catalog options items summary)
    (adds : Adds catalog options item summary after) : Tallies catalog options (items ++ [item]) after := by
  -- A file with a label, or one that is not retained, posts nothing to what has no language.
  have hposts (labelled : retains catalog options item = true → item.label ≠ none) :
      InOrder summary.filenames
          ((retainedOf catalog options (items ++ [item])).filterMap filenamePosting?) ∧
        InOrder summary.extensions
          ((retainedOf catalog options (items ++ [item])).filterMap extensionPosting?) := by
    rw [postings_concat fun hr => if_neg fun hl => labelled hr hl.1,
      postings_concat fun hr => if_neg fun hl => labelled hr hl.1]
    exact ⟨h.filenames, h.extensions⟩
  cases adds with
  | nothing files bytes labelled =>
    exact ⟨h.languages_nodup, h.languages_concat, (hposts labelled).1, (hposts labelled).2, h.unknownBytes⟩
  | unknown files bytes retained unlabelled =>
    have hbefore : Tallies catalog options items { summary with files, bytes } :=
      ⟨h.languages_nodup, h.languages, h.filenames, h.extensions, h.unknownBytes⟩
    exact hbefore.unknown retained unlabelled
  | language files bytes share name labelled current =>
    obtain ⟨hfilenames, hextensions⟩ := hposts fun _ => labelled
    refine ⟨Ledger.nodup_keys_put h.languages_nodup _ _, fun sizes => ?_, hfilenames, hextensions,
      h.unknownBytes⟩
    obtain ⟨nonneg, sum⟩ := h.languages_concat sizes
    exact languages_put h.languages_nodup nonneg sum (sizes item (by simp)) current

theorem Tallies.settle (h : Tallies catalog options items summary) : Tallies catalog options items
    { summary with languages := summary.languages.filter fun entry => 0 < entry.2.bytes } := by
  refine ⟨Ledger.nodup_keys_filter h.languages_nodup _, fun sizes => ?_, h.filenames, h.extensions,
    h.unknownBytes⟩
  obtain ⟨nonneg, sum⟩ := h.languages sizes
  refine ⟨fun entry hm => nonneg entry (List.mem_filter.mp hm).1, ?_⟩
  change sumOf LanguageShare.bytes (summary.languages.filter _) = summary.languageBytes
  rw [Ledger.sumOf_filter, sum]
  intro entry hm hk
  exact le_antisymm (not_lt.mp (of_decide_eq_false hk)) (nonneg entry hm)

theorem Tallies.calls {aggregator : Aggregator}
    (h : Tallies aggregator.catalog aggregator.options items aggregator.summary) (calls : List Call) :
    Tallies aggregator.catalog aggregator.options (items ++ calls.flatMap Call.items)
      (calls.foldl call aggregator).summary := by
  induction calls generalizing items aggregator with
  | nil => simpa using h
  | cons next rest ih =>
    rw [List.flatMap_cons, ← List.append_assoc, List.foldl_cons]
    cases next with
    | add item =>
      obtain ⟨hc, ho, hadds⟩ := adds_add aggregator item
      have hnext := h.adds hadds
      rw [← hc, ← ho] at hnext ⊢
      exact ih hnext
    | result =>
      rw [Call.items, List.append_nil]
      have hsettled : Tallies aggregator.settle.catalog aggregator.settle.options items
          aggregator.settle.summary := h.settle
      exact ih hsettled

end Aggregator

namespace Report

open Aggregator (filenamePosting? extensionPosting?)

/-- A report shows a summary of some retained files. -/
structure Agrees (report : Report) (summary : Summary) (retained : List Classified) : Prop where
  lines : report.lines = linesOf summary report.languages
  languages : Ranks report.languages summary.languages
  languages_nodup : (report.languages.map RankedLanguage.name).Nodup
  heading : unknownHeading ∈ report.lines ↔ 0 < summary.unknownBytes
  /-- File names without a language are there in the order in which they came up. -/
  filenames : summary.filenames.keys = ((retained.filterMap filenamePosting?).map Prod.fst).eraseDups
  extensions : summary.extensions.keys = ((retained.filterMap extensionPosting?).map Prod.fst).eraseDups
  unknown_nodup : summary.filenames.keys.Nodup ∧ summary.extensions.keys.Nodup
  unknownBytes : ((summary.filenames ++ summary.extensions).map Prod.snd).sum = summary.unknownBytes

theorem Ranks.sum {ranked : List RankedLanguage} {languages : Ledger LanguageShare}
    (h : Ranks ranked languages) :
    (ranked.map RankedLanguage.bytes).sum = sumOf LanguageShare.bytes languages := by
  have hperm := (h.once.map Prod.snd).sum_eq
  rwa [List.map_map, List.map_map] at hperm

theorem Ranks.nodup {ranked : List RankedLanguage} {languages : Ledger LanguageShare}
    (h : Ranks ranked languages) (nodup : languages.keys.Nodup) :
    (ranked.map RankedLanguage.name).Nodup := by
  have hperm := h.once.map Prod.fst
  rw [List.map_map, List.map_map] at hperm
  exact hperm.nodup_iff.mpr nodup

end Report

namespace Aggregator

/-- Whatever calls an aggregator gets, the report of its result agrees with it. Files have no sizes below
zero, and then the total of the languages is the sum over those that are listed. -/
theorem result_reported (catalog : Catalog) (options : Options) (calls : List Call) :
    let summary := (calls.foldl call { catalog, options }).result
    let report := Report.ofSummary summary
    let added := calls.flatMap Call.items
    report.Agrees summary (retainedOf catalog options added) ∧
      ((∀ item ∈ added, 0 ≤ item.size) →
        (report.languages.map RankedLanguage.bytes).sum = summary.languageBytes) := by
  intro summary report added
  let start : Aggregator := { catalog, options }
  have hstart : Tallies start.catalog start.options [] start.summary := Tallies.start catalog options
  have tallies : Tallies catalog options added summary := (hstart.calls calls).settle
  have ranks : Report.Ranks report.languages summary.languages := Report.ranks_ranked summary
  have hunknown : ((summary.filenames ++ summary.extensions).map Prod.snd).sum = summary.unknownBytes := by
    rw [List.map_append, List.sum_append]
    exact tallies.unknownBytes
  refine ⟨⟨Report.lines_ofSummary summary, ranks, ranks.nodup tallies.languages_nodup,
    Report.heading_mem_lines summary, tallies.filenames.order, tallies.extensions.order,
    ⟨tallies.filenames.nodup, tallies.extensions.nodup⟩, hunknown⟩, fun sizes => ?_⟩
  rw [ranks.sum]
  exact (tallies.languages sizes).2

def tiedCatalog : Catalog := Catalog.ofLanguages
  [{ name := "C", category := .programming }, { name := "R", category := .programming }] (by simp) "inline"

/-- Files in two languages with as many bytes, and one without a language. -/
def tiedCalls : List Call :=
  [.add { path := "a.r", label := some (.text "R"), size := 3 },
    .add { path := "a.c", label := some (.text "C"), size := 3 }, .add { path := "NEWS", size := 2 }]

example : Report.ofSummary (tiedCalls.foldl call { catalog := tiedCatalog, options := {} }).result =
    { fileCount := 3, bytes := 8, languages := [⟨1, "R", 3⟩, ⟨2, "C", 3⟩], languageBytes := 6,
      unknown := [("NEWS", 2)], unknownBytes := 2 } := by cbv

theorem result_reported_tied :
    let summary := (tiedCalls.foldl call { catalog := tiedCatalog, options := {} }).result
    let report := Report.ofSummary summary
    (∀ item ∈ tiedCalls.flatMap Call.items, 0 ≤ item.size) ∧
      report.Agrees summary (retainedOf tiedCatalog {} (tiedCalls.flatMap Call.items)) ∧
      (report.languages.map RankedLanguage.bytes).sum = summary.languageBytes := by
  intro summary report
  have sizes : ∀ item ∈ tiedCalls.flatMap Call.items, 0 ≤ item.size := by simp [tiedCalls, Call.items]
  obtain ⟨agrees, sum⟩ := result_reported tiedCatalog {} tiedCalls
  exact ⟨sizes, agrees, sum sizes⟩

end Aggregator

end Polyglot
