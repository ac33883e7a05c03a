import Polyglot.CommandLine
import Polyglot.Proofs.Reports

namespace Polyglot

open Polyglot.Data (Value Entries Ledger Scalar)
open Polyglot.Text (splitOn splitWhere)

namespace Data

namespace Entries

theorem get?_of_mem {entries : Entries} (nodup : (entries.map Prod.fst).Nodup) {key : String} {value : Value}
    (mem : (.text key, value) ∈ entries) : get? entries key = some value := by
  induction entries with
  | nil => cases mem
  | cons first rest ih =>
    rw [List.map_cons, List.nodup_cons] at nodup
    rcases List.mem_cons.mp mem with rfl | hm
    · simp [get?]
    · have hne : first.1.same (.text key) = false := by
        rw [← Bool.not_eq_true, Scalar.same_text_iff]
        intro he
        exact nodup.1 (he ▸ List.mem_map_of_mem hm)
      simpa [get?, hne] using ih nodup.2 hm

theorem mem_of_get? {entries : Entries} {key : String} {value : Value} (h : get? entries key = some value) :
    (.text key, value) ∈ entries := by
  obtain ⟨⟨scalar, found⟩, hf, rfl⟩ := Option.map_eq_some_iff.mp h
  have hkey : scalar = .text key := by
    have hs := List.find?_some hf
    exact Scalar.same_text_iff.mp hs
  exact hkey ▸ List.mem_of_find?_eq_some hf

end Entries

namespace Value

/-- A row of keys leads from map to map to a value. -/
inductive LeadsTo : Value → List String → Value → Prop where
  | here (value : Value) : LeadsTo value [] value
  | entry {entries : Entries} {key : String} {under value : Value} {keys : List String}
      (mem : (.text key, under) ∈ entries) (rest : LeadsTo under keys value) :
      LeadsTo (.map entries) (key :: keys) value

/-- A key is the first of a row that cannot be followed: what the keys before it lead to has nothing
under it. -/
def FirstLost (value : Value) (keys : List String) (key : String) : Prop :=
  ∃ before after reached, keys = before ++ key :: after ∧ value.LeadsTo before reached ∧
    ∀ under, ¬ reached.LeadsTo [key] under

/-- No map in a value, and in its maps, has a key twice. -/
inductive DistinctKeys : Value → Prop where
  | map {entries : Entries} (nodup : (entries.map Prod.fst).Nodup)
      (under : ∀ entry ∈ entries, DistinctKeys entry.2) : DistinctKeys (.map entries)
  | mapless {value : Value} (h : ∀ entries, value ≠ .map entries) : DistinctKeys value

theorem DistinctKeys.scalar (scalar : Scalar) : DistinctKeys (.scalar scalar) :=
  .mapless fun _ h => by cases h

theorem DistinctKeys.of_map {entries : Entries} (h : DistinctKeys (.map entries)) :
    (entries.map Prod.fst).Nodup ∧ ∀ entry ∈ entries, DistinctKeys entry.2 := by
  cases h with
  | map nodup under => exact ⟨nodup, under⟩
  | mapless h => exact absurd rfl (h entries)

theorem leadsTo_single_iff {entries : Entries} {key : String} {value : Value} :
    LeadsTo (.map entries) [key] value ↔ (.text key, value) ∈ entries := by
  constructor
  · intro h
    cases h with
    | entry mem rest =>
      cases rest
      exact mem
  · intro h
    exact .entry h (.here value)

end Value

end Data

open Polyglot.Data.Value (LeadsTo FirstLost DistinctKeys)

section
variable {value reached : Value} {keys : List String} {key : String}

theorem valueAt_of_leadsTo (distinct : value.DistinctKeys) (h : value.LeadsTo keys reached) :
    valueAt keys value = .ok reached := by
  induction h with
  | here value => rfl
  | entry mem rest ih =>
    obtain ⟨nodup, under⟩ := distinct.of_map
    simp only [valueAt, Entries.get?_of_mem nodup mem]
    exact ih (under _ mem)

theorem leadsTo_of_valueAt (h : valueAt keys value = .ok reached) : value.LeadsTo keys reached := by
  induction keys generalizing value with
  | nil =>
    cases h
    exact .here reached
  | cons key keys ih =>
    cases value with
    | map entries =>
      simp only [valueAt] at h
      cases hg : Entries.get? entries key with
      | none =>
        rw [hg] at h
        cases h
      | some under =>
        rw [hg] at h
        exact .entry (Entries.mem_of_get? hg) (ih h)
    | _ => cases h

theorem firstLost_of_valueAt (distinct : value.DistinctKeys) (h : valueAt keys value = .error key) :
    value.FirstLost keys key := by
  induction keys generalizing value with
  | nil => cases h
  | cons first keys ih =>
    cases value with
    | map entries =>
      obtain ⟨nodup, distinct⟩ := distinct.of_map
      simp only [valueAt] at h
      cases hg : Entries.get? entries first with
      | none =>
        rw [hg] at h
        cases h
        refine ⟨[], keys, .map entries, rfl, .here _, ?_⟩
        intro under hu
        rw [Value.leadsTo_single_iff] at hu
        simp [Entries.get?_of_mem nodup hu] at hg
      | some under =>
        rw [hg] at h
        have hm := Entries.mem_of_get? hg
        obtain ⟨before, after, reached, rfl, leads, lost⟩ := ih (distinct _ hm) h
        exact ⟨first :: before, after, reached, rfl, .entry hm leads, lost⟩
    | _ =>
      cases h
      refine ⟨[], keys, _, rfl, .here _, ?_⟩
      intro under hu
      cases hu

end

/-- The keys of a text: its pieces between dots. -/
def keysOf (text : String) : List String := Text.ofPieces (splitOn '.' text.toList)

/-- A text spells keys out: there are some, none of them has a dot, and they are joined by dots. -/
structure Spells (text : String) (keys : List String) : Prop where
  some_key : keys ≠ []
  dotless : ∀ key ∈ keys, '.' ∉ key.toList
  joined : ".".intercalate keys = text

theorem intercalate_splitOn (separator : Char) (chars : List Char) :
    [separator].intercalate (splitOn separator chars) = chars := by
  induction chars with
  | nil => rfl
  | cons c rest ih =>
    obtain ⟨piece, pieces, hp⟩ := List.exists_cons_of_ne_nil
      (Text.splitWhere_ne_nil (· == separator) rest)
    rw [splitOn] at ih ⊢
    rw [splitWhere]
    split
    · rename_i hc
      rw [hp, List.intercalate_cons_cons, ← hp, ih, eq_of_beq hc]
      rfl
    · rw [hp] at ih ⊢
      rw [List.intercalate_cons_cons_left, ih]

theorem spells_keysOf (text : String) : Spells text (keysOf text) := by
  constructor
  case some_key => simp [keysOf, Text.ofPieces, splitOn, Text.splitWhere_ne_nil]
  case dotless =>
    intro key hk
    obtain ⟨piece, hp, rfl⟩ := List.mem_map.mp hk
    rw [String.toList_ofList]
    exact Files.not_mem_of_mem_splitOn hp
  case joined =>
    rw [← String.toList_inj, String.toList_intercalate, keysOf, Text.ofPieces, List.map_map]
    simpa [Function.comp_def] using intercalate_splitOn '.' text.toList

theorem Spells.eq_keysOf {text : String} {keys : List String} (h : Spells text keys) : keys = keysOf text := by
  have hdot : ".".toList = ['.'] := rfl
  have hpieces : ∀ piece ∈ keys.map String.toList, '.' ∉ piece := by
    intro piece hp
    obtain ⟨key, hk, rfl⟩ := List.mem_map.mp hp
    exact h.dotless key hk
  rw [keysOf, ← h.joined, String.toList_intercalate, hdot,
    Files.splitOn_intercalate (by simpa using h.some_key) hpieces, Text.ofPieces, List.map_map]
  simp [Function.comp_def]

theorem valueUnder_eq (text : String) (value : Value) : valueUnder text value = valueAt (keysOf text) value := rfl

/-- No ledger of a summary has a key twice. -/
structure Summary.Distinct (summary : Summary) : Prop where
  files : summary.files.keys.Nodup
  languages : summary.languages.keys.Nodup
  extensions : summary.extensions.keys.Nodup
  filenames : summary.filenames.keys.Nodup

namespace Summary

theorem distinctKeys_ledgerValue {α : Type} {ledger : Ledger α} (nodup : ledger.keys.Nodup)
    {value : α → Value} (distinct : ∀ a, (value a).DistinctKeys) :
    (ledgerValue value ledger).DistinctKeys := by
  have hkeys : (ledger.map fun entry => (Scalar.text entry.1, value entry.2)).map Prod.fst =
      ledger.keys.map Scalar.text := by simp [Ledger.keys]
  apply DistinctKeys.map
  · rw [hkeys]
    apply nodup.map
    intro first second h
    exact Scalar.text.inj h
  · intro entry hm
    obtain ⟨known, -, rfl⟩ := List.mem_map.mp hm
    exact distinct known.2

theorem distinctKeys_ofOption (text : Option String) : (Value.ofOption text).DistinctKeys := by
  cases text <;> exact .scalar _

theorem distinctKeys_labelValue (label : Option Label) : (labelValue label).DistinctKeys := by
  cases label <;> exact .scalar _

theorem distinctKeys_share (share : LanguageShare) : share.toValue.DistinctKeys := by
  apply DistinctKeys.map (by simp)
  simp [DistinctKeys.scalar, distinctKeys_ofOption]

theorem distinctKeys_toValue {summary : Summary} (distinct : summary.Distinct) :
    summary.toValue.DistinctKeys := by
  have hfiles := distinctKeys_ledgerValue distinct.files distinctKeys_labelValue
  have hlanguages := distinctKeys_ledgerValue distinct.languages distinctKeys_share
  have hextensions := distinctKeys_ledgerValue distinct.extensions fun n => .scalar (.int n)
  have hfilenames := distinctKeys_ledgerValue distinct.filenames fun n => .scalar (.int n)
  apply DistinctKeys.map (by simp)
  simp only [List.forall_mem_cons, List.not_mem_nil, false_implies, implies_true, and_true]
  refine ⟨.map (by simp) ?_, .map (by simp) ?_, .map (by simp) ?_⟩
  · simp [Value.ofNat, DistinctKeys.scalar, hfiles]
  · simp [Value.ofNat, DistinctKeys.scalar, hlanguages]
  · simp [Value.ofNat, DistinctKeys.scalar, hextensions, hfilenames]

end Summary

/-- Whatever calls an aggregator gets, its result has no key twice. -/
theorem Aggregator.result_distinct (catalog : Catalog) (options : Options) (calls : List Call) :
    (calls.foldl call { catalog, options }).result.Distinct := by
  let start : Aggregator := { catalog, options }
  have hstart : Tallies start.catalog start.options [] start.summary := Tallies.start catalog options
  have tallies := (hstart.calls calls).settle
  have hfiles : ((calls.foldl call start).summary.files).keys.Nodup := by
    rw [calls_files, listing]
    apply List.foldlRecOn (motive := fun files : Ledger (Option Label) => files.keys.Nodup)
    · exact List.nodup_nil
    · intro files nodup item _
      exact Ledger.nodup_keys_put nodup _ _
  exact ⟨hfiles, tallies.languages_nodup, tallies.extensions.nodup, tallies.filenames.nodup⟩

open Polyglot.CommandLine (UsageError resultText partText)

/-- Under keys without dots that lead to something, this is found when they are joined by dots. A text that
spells out no such keys is refused, and the first of its keys that cannot be followed is named. -/
theorem valueUnder_reaches {summary : Summary} (distinct : summary.Distinct) :
    (∀ keys value, keys ≠ [] → (∀ key ∈ keys, '.' ∉ key.toList) →
      summary.toValue.LeadsTo keys value →
        valueUnder (".".intercalate keys) summary.toValue = .ok value ∧
        resultText (.part (".".intercalate keys)) summary = .ok (partText value ++ "\n")) ∧
    ∀ text, (¬ ∃ keys value, Spells text keys ∧ summary.toValue.LeadsTo keys value) →
      ∃ keys key, Spells text keys ∧ summary.toValue.FirstLost keys key ∧
        valueUnder text summary.toValue = .error key ∧
        resultText (.part text) summary = .error (.unknownKey key) ∧
        (UsageError.unknownKey key).message? =
          some ("Key '" ++ key ++ "' cannot be found on the output object") := by
  have hkeys : summary.toValue.DistinctKeys := Summary.distinctKeys_toValue distinct
  constructor
  · intro keys value some_key dotless leads
    have spelt : Spells (".".intercalate keys) keys := ⟨some_key, dotless, rfl⟩
    have hvalue : valueUnder (".".intercalate keys) summary.toValue = .ok value := by
      rw [valueUnder_eq, ← spelt.eq_keysOf]
      exact valueAt_of_leadsTo hkeys leads
    refine ⟨hvalue, ?_⟩
    simp only [resultText, hvalue]
  · intro text unspelt
    -- Every text spells out some keys, so what fails here is that they are followed.
    have spelt := spells_keysOf text
    cases hvalue : valueUnder text summary.toValue with
    | ok value => exact absurd ⟨_, value, spelt, leadsTo_of_valueAt hvalue⟩ unspelt
    | error key =>
      refine ⟨_, key, spelt, firstLost_of_valueAt hkeys hvalue, rfl, ?_, rfl⟩
      simp only [resultText, hvalue]

/-- The result of a folder with one script. -/
def scriptSummary : Summary where
  bytes := 21
  files := [("main.py", some (.text "Python"))]
  languageBytes := 21
  languages := [("Python", { category := .programming, bytes := 21, color := some "#3572A5", parent := none })]

theorem scriptSummary_distinct : scriptSummary.Distinct := by
  constructor <;> simp [scriptSummary, Ledger.keys]

theorem valueUnder_reaches_script :
    scriptSummary.Distinct ∧
      valueUnder "languages.results.Python.color" scriptSummary.toValue = .ok (.text "#3572A5") ∧
      ∃ keys key, Spells "languages.nope" keys ∧ scriptSummary.toValue.FirstLost keys key ∧
        resultText (.part "languages.nope") scriptSummary = .error (.unknownKey key) := by
  have hkeys : scriptSummary.toValue.DistinctKeys := Summary.distinctKeys_toValue scriptSummary_distinct
  have hcolor : valueAt ["languages", "results", "Python", "color"] scriptSummary.toValue =
      .ok (.text "#3572A5") := by cbv
  have hnope : valueUnder "languages.nope" scriptSummary.toValue = .error "nope" := by cbv
  obtain ⟨reaches, refuses⟩ := valueUnder_reaches scriptSummary_distinct
  refine ⟨scriptSummary_distinct, ?_, ?_⟩
  · exact (reaches _ _ (by simp) (by simp) (leadsTo_of_valueAt hcolor)).1
  · obtain ⟨keys, key, spelt, lost, -, hrefused, -⟩ := refuses "languages.nope" (by
      rintro ⟨keys, value, spelt, leads⟩
      have hvalue := valueAt_of_leadsTo hkeys leads
      rw [spelt.eq_keysOf, ← valueUnder_eq, hnope] at hvalue
      cases hvalue)
    exact ⟨keys, key, spelt, lost, hrefused⟩

/-- The path of a file is a key of the result. It has a dot, and so the file is not found under it. -/
theorem valueUnder_dotted :
    scriptSummary.toValue.LeadsTo ["files", "results", "main.py"] (.text "Python") ∧
      valueUnder "files.results.main.py" scriptSummary.toValue = .error "main" ∧
      ¬ ∀ summary : Summary, summary.Distinct → ∀ keys value, keys ≠ [] →
        summary.toValue.LeadsTo keys value →
          valueUnder (".".intercalate keys) summary.toValue = .ok value := by
  have hpath : valueAt ["files", "results", "main.py"] scriptSummary.toValue = .ok (.text "Python") := by cbv
  have hlost : valueUnder "files.results.main.py" scriptSummary.toValue = .error "main" := by cbv
  have hleads := leadsTo_of_valueAt hpath
  refine ⟨hleads, hlost, ?_⟩
  intro reaches
  have hfound := reaches scriptSummary scriptSummary_distinct _ _ (by simp) hleads
  have hjoined : ".".intercalate ["files", "results", "main.py"] = "files.results.main.py" := by decide
  rw [hjoined, hlost] at hfound
  cases hfound

end Polyglot
