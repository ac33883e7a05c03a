import Polyglot.Catalog.Tables
import Polyglot.Proofs.Totals

namespace Polyglot

open Polyglot.Data (Value Ledger Scalar)

namespace Aggregator

variable {aggregator failed spared : Aggregator} {item : Classified} {later : List Classified}

/-- A file fails for the sake of a language of the table that has no share yet. It is retained, listed,
and its size is counted. -/
theorem add_failed {faults : List ShareFault} (h : (aggregator.add item).2.1 = .error faults) :
    (∃ language, languageFor aggregator.catalog item = some language ∧
        aggregator.summary.languages.get? language.name = none ∧
        newShare aggregator.options language = .error faults) ∧
      (aggregator.add item).2.2 = { aggregator with summary := { aggregator.summary with
        files := aggregator.summary.files.put item.path item.label
        bytes := aggregator.summary.bytes + item.size } } := by
  have hl : item.label.bind aggregator.catalog.ofLabel? = languageFor aggregator.catalog item := rfl
  unfold add at h ⊢
  simp only [hl] at h ⊢
  split at h
  · cases h
  · rename_i hbinary
    split at h
    · cases h
    · rename_i hfilter
      rw [if_neg hbinary, if_neg hfilter]
      cases hf : languageFor aggregator.catalog item with
      | none => cases hlabel : item.label <;> simp [hf, hlabel] at h
      | some language =>
        simp only [hf] at h ⊢
        cases hs : aggregator.summary.languages.get? language.name with
        | some share => simp [hs] at h
        | none =>
          cases hn : newShare aggregator.options language with
          | ok share => simp [hs, hn] at h
          | error others =>
            simp only [hs, hn, Except.error.injEq] at h
            exact ⟨⟨language, rfl, hs, h ▸ hn⟩, rfl⟩

/-- An aggregator with other files listed and some more bytes counted. -/
def besides (files : Ledger (Option Label)) (extra : Int) (aggregator : Aggregator) : Aggregator :=
  { aggregator with summary := { aggregator.summary with
      files, bytes := aggregator.summary.bytes + extra } }

theorem addUnknown_besides (path : String) (size : Int) (files : Ledger (Option Label)) (bytes : Int)
    (summary : Summary) : addUnknown path size { summary with files, bytes } =
      { addUnknown path size summary with files, bytes } := by
  unfold addUnknown
  simp only
  split <;> rfl

/-- Whatever is listed and counted besides, a file is answered for in the same way and adds the same to
all sums. It is listed if it is retained, whether its share can be made or not. -/
theorem add_besides (files : Ledger (Option Label)) (extra : Int) (aggregator : Aggregator)
    (next : Classified) :
    (aggregator.besides files extra).add next =
      ((aggregator.add next).1, (aggregator.add next).2.1, (aggregator.add next).2.2.besides
        (if retains aggregator.catalog aggregator.options next then files.put next.path next.label
          else files) extra) := by
  have hl : next.label.bind aggregator.catalog.ofLabel? = languageFor aggregator.catalog next := rfl
  have hbytes : aggregator.summary.bytes + extra + next.size =
      aggregator.summary.bytes + next.size + extra := by omega
  unfold add besides
  simp only [hl, retains]
  split
  · rename_i hbinary
    simp [hbinary, drop]
  · rename_i hbinary
    split
    · rename_i hfilter
      simp [hfilter, drop]
    · rename_i hfilter
      simp only [hbinary, hfilter, Bool.not_false, Bool.and_self, ↓reduceIte]
      cases hf : languageFor aggregator.catalog next with
      | none =>
        cases hlabel : next.label with
        | some label => rfl
        | none => simp only [hbytes, addUnknown_besides]
      | some language =>
        simp only
        cases hs : aggregator.summary.languages.get? language.name with
        | some share => simp only [addLanguage, hbytes]
        | none =>
          cases hn : newShare aggregator.options language with
          | ok share => simp only [addLanguage, hbytes]
          | error faults => simp only [hbytes]

/-- What is listed once some more files are. -/
def listing (files : Ledger (Option Label)) (items : List Classified) : Ledger (Option Label) :=
  items.foldl (fun files item => files.put item.path item.label) files

theorem call_keeps (aggregator : Aggregator) (next : Call) :
    (aggregator.call next).catalog = aggregator.catalog ∧
      (aggregator.call next).options = aggregator.options := by
  cases next with
  | result => exact ⟨rfl, rfl⟩
  | add item =>
    rw [call, add]
    dsimp only
    split
    · exact ⟨rfl, rfl⟩
    · split
      · exact ⟨rfl, rfl⟩
      · split
        · exact ⟨rfl, rfl⟩
        · exact ⟨rfl, rfl⟩
        · split <;> exact ⟨rfl, rfl⟩

/-- What is listed and counted besides stays so over all calls. The files that they retain are listed
there as well. -/
theorem calls_besides (after : List Call) (files : Ledger (Option Label)) (extra : Int)
    (aggregator : Aggregator) :
    after.foldl call (aggregator.besides files extra) = (after.foldl call aggregator).besides
      (listing files (retainedOf aggregator.catalog aggregator.options (after.flatMap Call.items)))
      extra := by
  induction after generalizing files aggregator with
  | nil => rfl
  | cons next rest ih =>
    obtain ⟨hcatalog, hoptions⟩ := call_keeps aggregator next
    rw [List.foldl_cons, List.foldl_cons]
    cases next with
    | result => exact ih files aggregator.settle
    | add item =>
      rw [call] at hcatalog hoptions ⊢
      rw [add_besides, ih, hcatalog, hoptions, call, List.flatMap_cons, Call.items,
        List.singleton_append, retainedOf, retainedOf, List.filter_cons]
      split <;> rfl

theorem calls_files (after : List Call) (aggregator : Aggregator) :
    (after.foldl call aggregator).summary.files = listing aggregator.summary.files
      (retainedOf aggregator.catalog aggregator.options (after.flatMap Call.items)) := by
  have hself : aggregator.besides aggregator.summary.files 0 = aggregator := by
    rw [besides, add_zero]
  have hcalls := calls_besides after aggregator.summary.files 0 aggregator
  rw [hself] at hcalls
  exact congrArg (fun aggregator => aggregator.summary.files) hcalls

end Aggregator

end Polyglot
