import Polyglot.Proofs.Accounts
import Polyglot.Proofs.FolderRuns

namespace Polyglot

open Polyglot.Files

/-- Options that keep vendored files, or binary ones, where others may not. -/
def Options.keepingMore (options : Options) (vendored binary : Bool) : Options :=
  { options with
    keepVendored := options.keepVendored || vendored
    keepBinary := options.keepBinary || binary }

namespace RuleSet

/-- Rules of which fewer ignore, and which are the same otherwise. -/
structure Milder (fewer rules : RuleSet) : Prop where
  ignores : fewer.ignores ⊆ rules.ignores
  text : fewer.text = rules.text
  binary : fewer.binary = rules.binary
  overrides : fewer.overrides = rules.overrides

theorem Milder.refl (rules : RuleSet) : Milder rules rules := ⟨fun _ h => h, rfl, rfl, rfl⟩

theorem Milder.append {a b c d : RuleSet} (first : Milder a b) (second : Milder c d) :
    Milder (a ++ c) (b ++ d) := by
  refine ⟨?_, ?_, ?_, ?_⟩
  · intro rule hr
    rw [ignores_append, List.mem_append] at hr ⊢
    exact hr.imp (fun h => first.ignores h) (fun h => second.ignores h)
  · rw [text_append, text_append, first.text, second.text]
  · rw [binary_append, binary_append, first.binary, second.binary]
  · rw [overrides_append, overrides_append, first.overrides, second.overrides]

theorem Milder.gather {own others : Place → RuleSet} {base start : RuleSet} (h : Milder base start)
    (folders : List Place) (each : ∀ folder, Milder (own folder) (others folder)) :
    Milder (gather own base folders) (gather others start folders) := by
  induction folders generalizing base start with
  | nil => exact h
  | cons folder rest ih => exact ih (h.append (each folder))

theorem Milder.exclusion? {fewer rules : RuleSet} (h : Milder fewer rules) {path : String}
    (out : (fewer.exclusion? path).isSome = true) : (rules.exclusion? path).isSome = true := by
  simp only [RuleSet.exclusion?] at out ⊢
  split
  · rfl
  · rename_i hv
    rw [if_neg hv, Option.isSome_map, ignoredBy?, List.find?_isSome] at out
    obtain ⟨rule, hm, ht⟩ := out
    rw [Option.isSome_map, ignoredBy?, List.find?_isSome]
    exact ⟨rule, h.ignores hm, ht⟩

end RuleSet

namespace Resolver.Reading

/-- What is read goes wrong in the same way, and its rules are milder. -/
structure Milder (mild read : Reading) : Prop where
  fault : mild.fault = read.fault
  rules : mild.rules.Milder read.rules

theorem Milder.refl (read : Reading) : Milder read read := ⟨rfl, .refl _⟩

theorem Milder.followedBy {a b c d : Reading} (first : Milder a b) (second : Milder c d) :
    Milder (a.followedBy c) (b.followedBy d) := by
  rw [Reading.followedBy, Reading.followedBy, first.fault]
  split
  · exact first
  · exact ⟨second.fault, first.rules.append second.rules⟩

end Resolver.Reading

section
variable (catalog : Catalog) (options : Options) (vendored binary : Bool)

variable (ws : Workspace) (root : Path)

end

namespace Analysis

open Polyglot.Detection

section
variable {own fewer : Place → RuleSet} {base start : RuleSet}

theorem excluded_milder (hb : start.Milder base) (each : ∀ folder, (fewer folder).Milder (own folder))
    {isFolder : Bool} {place : Place} (out : excluded fewer start isFolder place = true) :
    excluded own base isFolder place = true :=
  (hb.gather (above place) each).exclusion? out

end

section
variable {σ : Type} {ws : Workspace} {catalog : Catalog} {options : Options}
  {answer : Label → Except SampleFault (Option String)} {entry : Entry} {rules : RuleSet}
  (milder : rules.Milder entry.rules) (vendored binary : Bool)
include milder

theorem detect_keepingMore (source : SampleSource σ) (content : ByteArray) :
    detect catalog (options.keepingMore vendored binary) source { entry with rules } content =
      detect catalog options source entry content := by
  have hextraction : extraction catalog (options.keepingMore vendored binary) { entry with rules }
      content = extraction catalog options entry content := by
    simp only [extraction, RuleSet.override?, milder.overrides]
    rfl
  unfold detect
  rw [hextraction]
  rfl

end

section
variable (ws : Workspace) (catalog : Catalog) (options : Options)
  (answer : Label → Except SampleFault (Option String)) (root : Path)

end

end Analysis

namespace Aggregator

open Polyglot.Data (Ledger)
open Polyglot.Data.Ledger (amount)

theorem Sums.le {ledger other : Ledger Int} {postings more : List (String × Int)}
    (few : Ledger.Sums ledger postings) (many : Ledger.Sums other more)
    (sub : postings.Sublist more) (nonneg : ∀ posting ∈ more, 0 ≤ posting.2) {key : String}
    {bytes : Int} (h : ledger.get? key = some bytes) :
    ∃ others, other.get? key = some others ∧ bytes ≤ others := by
  rw [few.get] at h
  split at h
  · rename_i hm
    cases h
    refine ⟨amount more key, ?_, Ledger.amount_le_of_sublist sub nonneg key⟩
    rw [many.get, if_pos ((sub.map Prod.fst).subset hm)]
  · cases h

variable {catalog : Catalog} {options others : Options} {retained more : List Classified}
  {fewer summary : Summary}

end Aggregator

namespace Analysis

variable {σ : Type} {ws : Workspace} {catalog : Catalog} {options : Options} {source : SampleSource σ}
  {answer : Label → Except SampleFault (Option String)} {root : Path} {samples : σ}

section
variable {own fewer : Place → RuleSet} {base start : RuleSet} (hb : start.Milder base)
  (each : ∀ folder, (fewer folder).Milder (own folder)) {listing : Listing}
  (ordered : listing.Ordered) (vendored binary : Bool) {items : List Classified}
  (settled : (keptBy own base listing).mapM (verdictBy ws catalog options answer root own base) =
    .ok items)
include hb each ordered settled

end

end Analysis

end Polyglot
