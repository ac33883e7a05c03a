import Polyglot.Proofs.Ledgers
import Polyglot.Proofs.Textual

namespace Polyglot

open Polyglot.Data (Value Ledger)
open Polyglot.Data.Ledger (Sums amount totalOf sumOf)

namespace Aggregator

section
variable (catalog : Catalog) (options : Options)

/-- The language of the table that a file is labelled with. -/
def languageFor (item : Classified) : Option Language := item.label.bind catalog.ofLabel?

/-- Whether a file is retained. -/
def retains (item : Classified) : Bool :=
  !item.binary && !(languageFor catalog item).any (filters options)

/-- The share of a language with some bytes. -/
def shareOf (language : Language) (bytes : Int) : LanguageShare where
  category := language.category
  bytes
  color := textOf? language.color
  parent := if options.childLanguages then textOf? (.scalar language.group) else none

/-- Whether a file has a label that is no language of the table. -/
def isStranger (item : Classified) : Bool := item.label.isSome && (languageFor catalog item).isNone

/-- What a file adds to the sums of languages. -/
def languagePosting? (item : Classified) : Option (String × Int) :=
  (languageFor catalog item).map fun language => (language.name, item.size)

end

/-- The extension of a file, or nothing. -/
def extensionOf (item : Classified) : String := (Path.ofText (Path.ofText item.path).name).suffix

/-- What a file without a label adds to the sums of extensions. -/
def extensionPosting? (item : Classified) : Option (String × Int) :=
  if item.label = none ∧ extensionOf item ≠ "" then some (extensionOf item, item.size) else none

/-- What a file without a label and without an extension adds to the sums of names. -/
def filenamePosting? (item : Classified) : Option (String × Int) :=
  if item.label = none ∧ extensionOf item = "" then
    some ((Path.ofText item.path).name, item.size) else none

/-- The bytes of some files together. -/
def bytesOf (items : List Classified) : Int := (items.map Classified.size).sum

/-- The label of the last file with a path. -/
def lastLabel? (items : List Classified) (path : String) : Option (Option Label) :=
  (items.reverse.find? (·.path == path)).map Classified.label

/-- The shares of the languages that came up. A language can be missing if it has no bytes. -/
structure Shares (catalog : Catalog) (options : Options) (ledger : Ledger LanguageShare)
    (postings : List (String × Int)) : Prop where
  nodup : ledger.keys.Nodup
  share : ∀ name share, ledger.get? name = some share → ∃ language, catalog.get? name = some language ∧
    share = shareOf options language (amount postings name)
  missing : ∀ name, ledger.get? name = none → amount postings name = 0

/-- A summary covers the files that were retained. -/
structure Covers (catalog : Catalog) (options : Options) (retained : List Classified)
    (summary : Summary) : Prop where
  files_nodup : summary.files.keys.Nodup
  files : ∀ path, summary.files.get? path = lastLabel? retained path
  shares : Shares catalog options summary.languages (retained.filterMap (languagePosting? catalog))
  extensions : Sums summary.extensions (retained.filterMap extensionPosting?)
  filenames : Sums summary.filenames (retained.filterMap filenamePosting?)
  languageBytes : summary.languageBytes = sumOf LanguageShare.bytes summary.languages
  unknownBytes : summary.unknownBytes = sumOf id summary.extensions + sumOf id summary.filenames
  bytes : summary.bytes = summary.languageBytes + summary.unknownBytes
  counted : summary.bytes = bytesOf (retained.filter fun item => !isStranger catalog item)

theorem newShare_textual {options : Options} {language : Language}
    (color : isTextual language.color = true) (group : isTextual (.scalar language.group) = true) :
    newShare options language = .ok (shareOf options language 0) := by
  have htext (field : String) {value : Value} (h : isTextual value = true) :
      shareText field value = .ok (textOf? value) := by
    unfold isTextual at h
    split at h <;> first | rfl | cases h
  rw [newShare, htext "color" color]
  cases hc : options.childLanguages with
  | true => simp [htext "parent" group, shareOf, hc]
  | false => simp [shareText, shareOf, hc]

variable {catalog : Catalog} {options : Options} {retained : List Classified} {summary : Summary}
  {item : Classified}

theorem lastLabel?_append (items : List Classified) (item : Classified) (path : String) :
    lastLabel? (items ++ [item]) path =
      if path = item.path then some item.label else lastLabel? items path := by
  rw [lastLabel?, List.reverse_append, List.reverse_singleton, List.singleton_append, List.find?_cons]
  by_cases h : path = item.path
  · simp [h]
  · have h' : (item.path == path) = false := by simpa using fun he => h he.symm
    simp [h, h', lastLabel?]

theorem files_put {files : Ledger (Option Label)}
    (h : ∀ path, files.get? path = lastLabel? retained path) (path : String) :
    (files.put item.path item.label).get? path = lastLabel? (retained ++ [item]) path := by
  rw [Ledger.get?_put, lastLabel?_append, h]

theorem bytesOf_counted {bytes : Int}
    (h : bytes = bytesOf (retained.filter fun item => !isStranger catalog item))
    (known : isStranger catalog item = false) :
    bytes + item.size = bytesOf ((retained ++ [item]).filter fun item => !isStranger catalog item) := by
  rw [h, bytesOf, bytesOf, List.filter_append, List.map_append, List.sum_append]
  simp [known]

theorem Covers.stranger (h : Covers catalog options retained summary) {label : Label}
    (unknown : languageFor catalog item = none) (hl : item.label = some label) :
    Covers catalog options (retained ++ [item])
      { summary with files := summary.files.put item.path item.label } := by
  have hstranger : isStranger catalog item = true := by simp [isStranger, unknown, hl]
  refine ⟨Ledger.nodup_keys_put h.files_nodup _ _, files_put h.files, ?_, ?_, ?_, h.languageBytes,
    h.unknownBytes, h.bytes, by simpa [List.filter_append, hstranger] using h.counted⟩
  · simpa [List.filterMap_append, languagePosting?, unknown] using h.shares
  · simpa [List.filterMap_append, extensionPosting?, hl] using h.extensions
  · simpa [List.filterMap_append, filenamePosting?, hl] using h.filenames

theorem addUnknown_named (he : extensionOf item = "") (summary : Summary) :
    addUnknown item.path item.size summary = { summary with
      unknownBytes := summary.unknownBytes + item.size
      filenames := summary.filenames.change (Path.ofText item.path).name 0 (· + item.size) } := by
  rw [extensionOf] at he
  simp only [addUnknown, he, ↓reduceIte]

theorem addUnknown_extended (he : extensionOf item ≠ "") (summary : Summary) :
    addUnknown item.path item.size summary = { summary with
      unknownBytes := summary.unknownBytes + item.size
      extensions := summary.extensions.change (extensionOf item) 0 (· + item.size) } := by
  rw [extensionOf] at he ⊢
  simp only [addUnknown, if_neg he]

theorem sum_change {ledger : Ledger Int} {postings : List (String × Int)} (h : Sums ledger postings)
    (key : String) (size : Int) :
    sumOf id (ledger.change key 0 (· + size)) = sumOf id ledger + size := by
  rw [(h.change key size).sum, Ledger.totalOf_append, ← h.sum]
  simp [totalOf]

theorem Covers.unknown (h : Covers catalog options retained summary) (hl : item.label = none) :
    Covers catalog options (retained ++ [item])
      (addUnknown item.path item.size
        { summary with
          files := summary.files.put item.path item.label
          bytes := summary.bytes + item.size }) := by
  have hlanguage : languageFor catalog item = none := by simp [languageFor, hl]
  have hfiles := Ledger.nodup_keys_put h.files_nodup item.path item.label
  have hshares : Shares catalog options summary.languages
      ((retained ++ [item]).filterMap (languagePosting? catalog)) := by
    simpa [List.filterMap_append, languagePosting?, hlanguage] using h.shares
  have hbytes : summary.bytes + item.size =
      summary.languageBytes + (summary.unknownBytes + item.size) := by
    rw [h.bytes, add_assoc]
  have hknown : isStranger catalog item = false := by simp [isStranger, hl]
  have hcounted := bytesOf_counted h.counted hknown
  by_cases he : extensionOf item = ""
  · rw [addUnknown_named he]
    refine ⟨hfiles, files_put h.files, hshares, ?_, ?_, h.languageBytes, ?_, hbytes, hcounted⟩
    · simpa [List.filterMap_append, extensionPosting?, he] using h.extensions
    · have hfilenames := h.filenames.change (Path.ofText item.path).name item.size
      simpa [List.filterMap_append, filenamePosting?, hl, he] using hfilenames
    · change summary.unknownBytes + item.size =
        sumOf id summary.extensions + sumOf id (summary.filenames.change _ 0 (· + item.size))
      rw [sum_change h.filenames, h.unknownBytes, add_assoc]
  · rw [addUnknown_extended he]
    refine ⟨hfiles, files_put h.files, hshares, ?_, ?_, h.languageBytes, ?_, hbytes, hcounted⟩
    · have hextensions := h.extensions.change (extensionOf item) item.size
      simpa [List.filterMap_append, extensionPosting?, hl, he] using hextensions
    · simpa [List.filterMap_append, filenamePosting?, he] using h.filenames
    · change summary.unknownBytes + item.size =
        sumOf id (summary.extensions.change _ 0 (· + item.size)) + sumOf id summary.filenames
      rw [sum_change h.extensions, h.unknownBytes]
      omega

theorem ofLabel?_eq_some {label : Label} {language : Language}
    (h : catalog.ofLabel? label = some language) :
    label = .text language.name ∧ catalog.get? language.name = some language := by
  unfold Catalog.ofLabel? at h
  split at h
  · rename_i name
    rw [(Catalog.get?_mem h).2]
    exact ⟨rfl, h⟩
  · cases h

theorem languageFor_eq_some {language : Language} (h : languageFor catalog item = some language) :
    item.label = some (.text language.name) ∧ catalog.get? language.name = some language := by
  obtain ⟨label, hl, hf⟩ := Option.bind_eq_some_iff.mp h
  obtain ⟨rfl, hg⟩ := ofLabel?_eq_some hf
  exact ⟨hl, hg⟩

theorem Shares.current {ledger : Ledger LanguageShare} {postings : List (String × Int)}
    (h : Shares catalog options ledger postings) {language : Language}
    (hg : catalog.get? language.name = some language) :
    (ledger.get? language.name).getD (shareOf options language 0) =
      shareOf options language (amount postings language.name) := by
  cases hs : ledger.get? language.name with
  | none => rw [h.missing _ hs, Option.getD_none]
  | some share =>
    obtain ⟨other, ho, rfl⟩ := h.share _ _ hs
    rw [hg] at ho
    cases ho
    rfl

theorem Shares.put {ledger : Ledger LanguageShare} {postings : List (String × Int)}
    (h : Shares catalog options ledger postings) {language : Language}
    (hg : catalog.get? language.name = some language) (size : Int) :
    Shares catalog options
      (ledger.put language.name
        (shareOf options language (amount postings language.name + size)))
      (postings ++ [(language.name, size)]) := by
  refine ⟨Ledger.nodup_keys_put h.nodup _ _, ?_, ?_⟩
  · intro name share hs
    rw [Ledger.get?_put] at hs
    rw [Ledger.amount_append, Ledger.amount_singleton]
    split at hs
    · rename_i hn
      cases hs
      rw [hn, if_pos rfl]
      exact ⟨language, hg, rfl⟩
    · rename_i hn
      rw [if_neg hn, add_zero]
      exact h.share name share hs
  · intro name hs
    rw [Ledger.get?_put] at hs
    split at hs
    · cases hs
    · rename_i hn
      rw [Ledger.amount_append, Ledger.amount_singleton, if_neg hn, add_zero]
      exact h.missing name hs

theorem Covers.language (h : Covers catalog options retained summary) {language : Language}
    (hf : languageFor catalog item = some language) :
    Covers catalog options (retained ++ [item])
      (addLanguage ((summary.languages.get? language.name).getD (shareOf options language 0))
        language.name item.size
        { summary with
          files := summary.files.put item.path item.label
          bytes := summary.bytes + item.size }) := by
  obtain ⟨hl, hg⟩ := languageFor_eq_some hf
  have hlanguages : (retained ++ [item]).filterMap (languagePosting? catalog) =
      retained.filterMap (languagePosting? catalog) ++ [(language.name, item.size)] := by
    simp [languagePosting?, hf]
  have hextensions : (retained ++ [item]).filterMap extensionPosting? =
      retained.filterMap extensionPosting? := by
    simp [extensionPosting?, hl]
  have hfilenames : (retained ++ [item]).filterMap filenamePosting? =
      retained.filterMap filenamePosting? := by
    simp [filenamePosting?, hl]
  rw [h.shares.current hg]
  refine ⟨Ledger.nodup_keys_put h.files_nodup _ _, files_put h.files, ?_, ?_, ?_, ?_,
    h.unknownBytes, ?_, bytesOf_counted h.counted (by simp [isStranger, hf])⟩
  · rw [hlanguages]
    exact h.shares.put hg item.size
  · rw [hextensions]
    exact h.extensions
  · rw [hfilenames]
    exact h.filenames
  · change summary.languageBytes + item.size = sumOf LanguageShare.bytes (summary.languages.put _ _)
    -- What the language had is taken from the sum, and what it has now is added.
    have hold : ((summary.languages.get? language.name).map LanguageShare.bytes).getD 0 =
        amount (retained.filterMap (languagePosting? catalog)) language.name := by
      have hcurrent := congrArg LanguageShare.bytes (h.shares.current hg)
      cases hs : summary.languages.get? language.name with
      | none => exact (h.shares.missing _ hs).symm
      | some share =>
        rw [hs] at hcurrent
        exact hcurrent
    rw [Ledger.sumOf_put, hold, h.languageBytes]
    change _ = _ - _ + (amount (retained.filterMap (languagePosting? catalog)) language.name + item.size)
    omega
  · change summary.bytes + item.size = summary.languageBytes + item.size + summary.unknownBytes
    rw [h.bytes]
    omega

theorem languagePosting?_size {posting : String × Int}
    (h : languagePosting? catalog item = some posting) : posting.2 = item.size := by
  obtain ⟨_, _, rfl⟩ := Option.map_eq_some_iff.mp h
  rfl

theorem postings_nonneg {items : List Classified} (sizes : ∀ item ∈ items, 0 ≤ item.size)
    {posting? : Classified → Option (String × Int)}
    (sized : ∀ item posting, posting? item = some posting → posting.2 = item.size) :
    ∀ posting ∈ items.filterMap posting?, 0 ≤ posting.2 := by
  intro posting hm
  obtain ⟨item, hi, hp⟩ := List.mem_filterMap.mp hm
  rw [sized item posting hp]
  exact sizes item hi

theorem languageAmount_nonneg (sizes : ∀ item ∈ retained, 0 ≤ item.size) (name : String) :
    0 ≤ amount (retained.filterMap (languagePosting? catalog)) name :=
  Ledger.amount_nonneg (postings_nonneg sizes fun _ _ => languagePosting?_size) name

theorem Covers.settle (h : Covers catalog options retained summary)
    (sizes : ∀ item ∈ retained, 0 ≤ item.size) :
    Covers catalog options retained { summary with
      languages := summary.languages.filter fun entry => 0 < entry.2.bytes } := by
  refine ⟨h.files_nodup, h.files, ⟨Ledger.nodup_keys_filter h.shares.nodup _, ?_, ?_⟩, h.extensions,
    h.filenames, ?_, h.unknownBytes, h.bytes, h.counted⟩
  · intro name share hs
    rw [Ledger.get?_filter h.shares.nodup, Option.filter_eq_some_iff] at hs
    exact h.shares.share name share hs.1
  · intro name hs
    rw [Ledger.get?_filter h.shares.nodup, Option.filter_eq_none_iff] at hs
    cases hg : summary.languages.get? name with
    | none => exact h.shares.missing name hg
    | some share =>
      obtain ⟨language, _, rfl⟩ := h.shares.share name share hg
      have hzero : ¬ 0 < amount (retained.filterMap (languagePosting? catalog)) name :=
        fun hpos => hs _ hg (decide_eq_true hpos)
      exact le_antisymm (not_lt.mp hzero) (languageAmount_nonneg sizes name)
  · change summary.languageBytes = sumOf LanguageShare.bytes (summary.languages.filter _)
    rw [Ledger.sumOf_filter, h.languageBytes]
    intro entry hm hk
    obtain ⟨name, share⟩ := entry
    have hg := (Ledger.get?_eq_some_iff h.shares.nodup).mpr hm
    obtain ⟨language, _, rfl⟩ := h.shares.share name _ hg
    have hzero : ¬ 0 < amount (retained.filterMap (languagePosting? catalog)) name :=
      of_decide_eq_false hk
    exact le_antisymm (not_lt.mp hzero) (languageAmount_nonneg sizes name)

/-- What is asked of an aggregator. -/
inductive Call where
  | add (item : Classified)
  | result

/-- What a call leaves behind. -/
def call (aggregator : Aggregator) : Call → Aggregator
  | .add item => (aggregator.add item).2.2
  | .result => aggregator.settle

/-- The files that calls add. -/
def Call.items : Call → List Classified
  | .add item => [item]
  | .result => []

/-- The files that are retained of those that calls add. -/
def retainedOf (catalog : Catalog) (options : Options) (items : List Classified) : List Classified :=
  items.filter (retains catalog options)

/-- An aggregator after some files were added. -/
structure Counts (catalog : Catalog) (options : Options) (items : List Classified)
    (aggregator : Aggregator) : Prop where
  catalog_eq : aggregator.catalog = catalog
  options_eq : aggregator.options = options
  dropped : aggregator.dropped = items.countP fun item => !retains catalog options item
  covers : Covers catalog options (retainedOf catalog options items) aggregator.summary

theorem Counts.start (catalog : Catalog) (options : Options) :
    Counts catalog options [] { catalog, options } :=
  ⟨rfl, rfl, rfl, List.nodup_nil, fun _ => rfl, ⟨List.nodup_nil, by simp [Ledger.get?], fun _ _ => rfl⟩,
    Sums.nil, Sums.nil, rfl, rfl, rfl, rfl⟩

variable {items : List Classified} {aggregator : Aggregator}

theorem add_dropped (h : retains aggregator.catalog aggregator.options item = false) :
    (aggregator.add item).2 = (.ok false, { aggregator with dropped := aggregator.dropped + 1 }) := by
  rw [retains, Bool.and_eq_false_iff, Bool.not_eq_false', Bool.not_eq_false'] at h
  have hl : item.label.bind aggregator.catalog.ofLabel? = languageFor aggregator.catalog item := rfl
  rcases h with h | h
  · simp only [add, h, ↓reduceIte]
    rfl
  · simp only [add, hl, h, ↓reduceIte]
    split <;> rfl

/-- What a retained file leaves of a summary. -/
def addRetained (catalog : Catalog) (options : Options) (item : Classified) (summary : Summary) :
    Summary :=
  let listed := { summary with files := summary.files.put item.path item.label }
  let counted := { listed with bytes := summary.bytes + item.size }
  match languageFor catalog item, item.label with
  | none, some _ => listed
  | none, none => addUnknown item.path item.size counted
  | some language, _ =>
    addLanguage ((summary.languages.get? language.name).getD (shareOf options language 0))
      language.name item.size counted

theorem newShare_ok {language : Language} {share : LanguageShare}
    (h : newShare options language = .ok share) : share = shareOf options language 0 := by
  have htext {field : String} {value : Value} {text : Option String}
      (h : shareText field value = .ok text) : text = textOf? value := by
    unfold shareText at h
    split at h <;> cases h <;> rfl
  rw [newShare] at h
  split at h
  · rename_i color parent hcolor hparent
    cases h
    rw [shareOf, htext hcolor, htext hparent]
    cases options.childLanguages <;> rfl
  · cases h

theorem add_retained (h : retains aggregator.catalog aggregator.options item = true) {answer : Bool}
    (ok : (aggregator.add item).2.1 = .ok answer) :
    (aggregator.add item).2 = (.ok true, { aggregator with
      summary := addRetained aggregator.catalog aggregator.options item aggregator.summary }) := by
  rw [retains, Bool.and_eq_true, Bool.not_eq_true', Bool.not_eq_true'] at h
  obtain ⟨hbinary, hfilter⟩ := h
  have hl : item.label.bind aggregator.catalog.ofLabel? = languageFor aggregator.catalog item := rfl
  simp only [add, addRetained, hl, hbinary, hfilter, Bool.false_eq_true, ↓reduceIte] at ok ⊢
  cases hf : languageFor aggregator.catalog item with
  | none => cases item.label <;> rfl
  | some language =>
    simp only [hf] at ok
    cases hs : aggregator.summary.languages.get? language.name with
    | some share =>
      simp only [hs]
      rfl
    | none =>
      cases hn : newShare aggregator.options language with
      | error faults => simp [hs, hn] at ok
      | ok share =>
        simp only [hs, hn, newShare_ok hn]
        rfl

theorem add_answers (textual : aggregator.catalog.Textual) (item : Classified) :
    ∃ answer, (aggregator.add item).2.1 = .ok answer := by
  cases hr : retains aggregator.catalog aggregator.options item with
  | false => exact ⟨false, congrArg Prod.fst (add_dropped hr)⟩
  | true =>
    rw [retains, Bool.and_eq_true, Bool.not_eq_true', Bool.not_eq_true'] at hr
    obtain ⟨hbinary, hfilter⟩ := hr
    have hl : item.label.bind aggregator.catalog.ofLabel? = languageFor aggregator.catalog item := rfl
    simp only [add, hl, hbinary, hfilter, Bool.false_eq_true, ↓reduceIte]
    cases hf : languageFor aggregator.catalog item with
    | none => cases item.label <;> exact ⟨true, rfl⟩
    | some language =>
      have hm := (Catalog.get?_mem (languageFor_eq_some hf).2).1
      have hnew : newShare aggregator.options language = .ok (shareOf aggregator.options language 0) :=
        newShare_textual (textual language hm).1 (textual language hm).2
      simp only [hnew]
      cases aggregator.summary.languages.get? language.name <;> exact ⟨true, rfl⟩

theorem Covers.add (h : Covers catalog options retained summary) (item : Classified) :
    Covers catalog options (retained ++ [item]) (addRetained catalog options item summary) := by
  unfold addRetained
  cases hf : languageFor catalog item with
  | some language => exact h.language hf
  | none =>
    cases hl : item.label with
    | none =>
      have hunknown : Covers catalog options (retained ++ [item]) _ := h.unknown hl
      rwa [hl] at hunknown
    | some label =>
      have hstranger := h.stranger hf hl
      rwa [hl] at hstranger

/-- A file that is answered for is answered for by whether it is retained, and counted if it is. -/
theorem Counts.add (h : Counts catalog options items aggregator) {item : Classified} {answer : Bool}
    (ok : (aggregator.add item).2.1 = .ok answer) :
    answer = retains catalog options item ∧
      Counts catalog options (items ++ [item]) (aggregator.add item).2.2 := by
  obtain ⟨hc, ho, hdropped, hcovers⟩ := h
  cases hr : retains catalog options item with
  | false =>
    have hdrop : retains aggregator.catalog aggregator.options item = false := by rw [hc, ho, hr]
    have hadd := add_dropped hdrop
    rw [hadd] at ok ⊢
    cases ok
    refine ⟨rfl, hc, ho, ?_, ?_⟩
    · simp [List.countP_append, hdropped, hr]
    · simpa [retainedOf, List.filter_append, hr] using hcovers
  | true =>
    have hadd := add_retained (by rw [hc, ho, hr]) ok
    rw [hadd] at ok ⊢
    cases ok
    refine ⟨rfl, hc, ho, ?_, ?_⟩
    · simp [List.countP_append, hdropped, hr]
    · have hadded := hcovers.add item
      simpa [retainedOf, List.filter_append, hr, hc, ho] using hadded

theorem Counts.settle (h : Counts catalog options items aggregator)
    (sizes : ∀ item ∈ items, 0 ≤ item.size) :
    Counts catalog options items aggregator.settle :=
  ⟨h.catalog_eq, h.options_eq, h.dropped,
    h.covers.settle fun item hm => sizes item (List.mem_filter.mp hm).1⟩

theorem Counts.calls (textual : catalog.Textual) (h : Counts catalog options items aggregator)
    (calls : List Call) (sizes : ∀ item ∈ items ++ calls.flatMap Call.items, 0 ≤ item.size) :
    Counts catalog options (items ++ calls.flatMap Call.items) (calls.foldl call aggregator) := by
  induction calls generalizing items aggregator with
  | nil => simpa using h
  | cons next rest ih =>
    rw [List.flatMap_cons, ← List.append_assoc] at sizes ⊢
    rw [List.foldl_cons]
    cases next with
    | add item =>
      obtain ⟨answer, ok⟩ := add_answers (h.catalog_eq ▸ textual) item
      exact ih (h.add ok).2 sizes
    | result =>
      rw [Call.items, List.append_nil] at sizes ⊢
      exact ih (h.settle fun item hm => sizes item (List.mem_append_left _ hm)) sizes

/-- A summary is the one that the retained files determine: each path has the label that it was last
retained with, each language of the table with any bytes has a share with all of them, and what has no
label is summed up by extensions, and by names where there is none. -/
structure SumsUp (catalog : Catalog) (options : Options) (retained : List Classified)
    (summary : Summary) : Prop where
  files_nodup : summary.files.keys.Nodup
  files : ∀ path, summary.files.get? path = lastLabel? retained path
  fileCount : summary.fileCount = (retained.map Classified.path).dedup.length
  languages_nodup : summary.languages.keys.Nodup
  languages : ∀ name, summary.languages.get? name = (catalog.get? name).bind fun language =>
    let bytes := amount (retained.filterMap (languagePosting? catalog)) name
    if 0 < bytes then some (shareOf options language bytes) else none
  languageCount : summary.languageCount = (catalog.languages.filter fun language =>
    0 < amount (retained.filterMap (languagePosting? catalog)) language.name).length
  extensions : Sums summary.extensions (retained.filterMap extensionPosting?)
  filenames : Sums summary.filenames (retained.filterMap filenamePosting?)
  unknownCount : summary.unknownCount =
    ((retained.filterMap extensionPosting?).map Prod.fst).dedup.length +
      ((retained.filterMap filenamePosting?).map Prod.fst).dedup.length
  languageBytes : summary.languageBytes = sumOf LanguageShare.bytes summary.languages
  unknownBytes : summary.unknownBytes = sumOf id summary.extensions + sumOf id summary.filenames
  bytes : summary.bytes = summary.languageBytes + summary.unknownBytes

theorem SumsUp.language_bytes (h : SumsUp catalog options retained summary)
    (sizes : ∀ item ∈ retained, 0 ≤ item.size) {language : Language}
    (hm : language ∈ catalog.languages) :
    ((summary.languages.get? language.name).map LanguageShare.bytes).getD 0 =
      amount (retained.filterMap (languagePosting? catalog)) language.name := by
  have hnonneg : 0 ≤ amount (retained.filterMap (languagePosting? catalog)) language.name :=
    languageAmount_nonneg sizes language.name
  rw [h.languages, Catalog.get?_of_mem hm, Option.bind_some]
  by_cases hpos : 0 < amount (retained.filterMap (languagePosting? catalog)) language.name
  · simp [hpos, shareOf]
  · simp only [hpos, ↓reduceIte, Option.map_none, Option.getD_none]
    omega

theorem isSome_lastLabel? (items : List Classified) (path : String) :
    (lastLabel? items path).isSome = true ↔ path ∈ items.map Classified.path := by
  rw [lastLabel?, Option.isSome_map, List.find?_isSome, List.mem_map]
  simp

theorem Sums.length {ledger : Ledger Int} {postings : List (String × Int)} (h : Sums ledger postings) :
    ledger.length = (postings.map Prod.fst).dedup.length := by
  refine Ledger.length_eq h.nodup (List.nodup_dedup _) fun key => ?_
  rw [h.get, List.mem_dedup]
  split <;> simp_all

theorem lastLabel?_of_nodup {items : List Classified} (distinct : (items.map Classified.path).Nodup)
    {item : Classified} (h : item ∈ items) : lastLabel? items item.path = some item.label := by
  have hreverse : (items.reverse.map Classified.path).Nodup := by
    rw [List.map_reverse]
    exact List.nodup_reverse.mpr distinct
  rw [lastLabel?, find?_of_nodup hreverse (List.mem_reverse.mpr h)]
  rfl

section
variable {catalog : Catalog} {options : Options} {retained : List Classified} {summary : Summary}

theorem SumsUp.retained_of_get? (h : SumsUp catalog options retained summary) {path : String}
    {label : Option Label} (listed : summary.files.get? path = some label) :
    ∃ item ∈ retained, item.path = path ∧ item.label = label := by
  rw [h.files, lastLabel?, Option.map_eq_some_iff] at listed
  obtain ⟨item, hfound, hl⟩ := listed
  exact ⟨item, List.mem_reverse.mp (List.mem_of_find?_eq_some hfound),
    by simpa using List.find?_some hfound, hl⟩

/-- Where no path is retained twice, every file that was retained is listed with its label. -/
theorem SumsUp.get?_of_retained (h : SumsUp catalog options retained summary)
    (distinct : (retained.map Classified.path).Nodup) {item : Classified} (hm : item ∈ retained) :
    summary.files.get? item.path = some item.label := by
  rw [h.files]
  exact lastLabel?_of_nodup distinct hm

end

/-- Languages with bytes have their shares, and those without have none once they are taken out. -/
theorem Covers.languages_settled (h : Covers catalog options retained summary) (name : String) :
    Ledger.get? (summary.languages.filter fun entry => 0 < entry.2.bytes) name =
      (catalog.get? name).bind fun language =>
        let bytes := amount (retained.filterMap (languagePosting? catalog)) name
        if 0 < bytes then some (shareOf options language bytes) else none := by
  rw [Ledger.get?_filter h.shares.nodup]
  cases hs : summary.languages.get? name with
  | none =>
    rw [h.shares.missing name hs]
    cases catalog.get? name <;> rfl
  | some share =>
    obtain ⟨language, hg, rfl⟩ := h.shares.share name share hs
    rw [hg, Option.bind_some, Option.filter_some]
    change (if decide (0 < amount _ name) = true then _ else _) = _
    simp only [decide_eq_true_eq]

theorem Covers.isSome_settled (h : Covers catalog options retained summary) (name : String) :
    (Ledger.get? (summary.languages.filter fun entry => 0 < entry.2.bytes) name).isSome = true ↔
      name ∈ (catalog.languages.filter fun language =>
        0 < amount (retained.filterMap (languagePosting? catalog)) language.name).map
          Language.name := by
  rw [h.languages_settled, List.mem_map]
  constructor
  · intro hs
    cases hg : catalog.get? name with
    | none => simp [hg] at hs
    | some language =>
      obtain ⟨hm, rfl⟩ := Catalog.get?_mem hg
      refine ⟨language, List.mem_filter.mpr ⟨hm, decide_eq_true ?_⟩, rfl⟩
      by_contra hzero
      simp [hg, hzero] at hs
  · rintro ⟨language, hm, rfl⟩
    obtain ⟨hm, hpos⟩ := List.mem_filter.mp hm
    rw [Catalog.get?_of_mem hm]
    simp [of_decide_eq_true hpos]

theorem Counts.sumsUp (h : Counts catalog options items aggregator)
    (sizes : ∀ item ∈ items, 0 ≤ item.size) :
    SumsUp catalog options (retainedOf catalog options items) aggregator.result := by
  have hsettled := (h.settle sizes).covers
  refine ⟨hsettled.files_nodup, hsettled.files, ?_, hsettled.shares.nodup, h.covers.languages_settled,
    ?_, hsettled.extensions, hsettled.filenames, ?_, hsettled.languageBytes, hsettled.unknownBytes,
    hsettled.bytes⟩
  · refine Ledger.length_eq hsettled.files_nodup (List.nodup_dedup _) fun path => ?_
    rw [hsettled.files, isSome_lastLabel?, List.mem_dedup]
  · rw [← List.length_map Language.name]
    refine Ledger.length_eq hsettled.shares.nodup ?_ h.covers.isSome_settled
    exact catalog.names_nodup.sublist (List.filter_sublist.map Language.name)
  · exact congrArg₂ (· + ·) (Sums.length hsettled.extensions) (Sums.length hsettled.filenames)

/-- The last result of an aggregator is the one that the retained files determine, whatever results
were asked for before, and all other files were dropped. -/
theorem result_sumsUp (textual : catalog.Textual) (options : Options) (calls : List Call)
    (sizes : ∀ item ∈ calls.flatMap Call.items, 0 ≤ item.size) :
    SumsUp catalog options (retainedOf catalog options (calls.flatMap Call.items))
        (calls.foldl call { catalog, options }).result ∧
      (calls.foldl call { catalog, options }).dropped =
        (calls.flatMap Call.items).countP fun item => !retains catalog options item := by
  have h := (Counts.start catalog options).calls textual calls (by simpa using sizes)
  rw [List.nil_append] at h
  exact ⟨h.sumsUp sizes, h.dropped⟩

theorem result_sumsUp_emptyFile :
    let catalog := Catalog.ofLanguages [{ name := "C", category := .programming }]
      (List.nodup_singleton "C") "inline"
    let calls := [Call.add { path := "a.c", label := some (.text "C") }, Call.result,
      Call.add { path := "b.c", label := some (.text "C"), size := 3 }]
    catalog.Textual ∧ (∀ item ∈ calls.flatMap Call.items, 0 ≤ item.size) ∧
      SumsUp catalog {} (retainedOf catalog {} (calls.flatMap Call.items))
        (calls.foldl call { catalog, options := {} }).result := by
  intro catalog calls
  have textual : catalog.Textual := by
    intro language hm
    rw [List.mem_singleton.mp hm]
    exact ⟨rfl, rfl⟩
  have sizes : ∀ item ∈ calls.flatMap Call.items, 0 ≤ item.size := by decide
  exact ⟨textual, sizes, (result_sumsUp textual {} calls sizes).1⟩

end Aggregator

end Polyglot
