import Polyglot.Proofs.Runs
import Polyglot.Samples.Repository

namespace Polyglot

open Polyglot.Data (Value Entries)

namespace Text

theorem codeOf_injective : Function.Injective codeOf := by
  -- What stands in for a code without a character has this code, which no other character has.
  have hhalf (c : Char) : isHalf (codeOf c) = isStandIn c := by
    have hvalid := c.valid
    have hval : c.toNat = c.val.toNat := rfl
    cases h : isStandIn c with
    | true =>
      rw [codeOf, if_pos h]
      exact (Bool.and_eq_true_iff.mp h).2
    | false =>
      rw [codeOf, if_neg (Bool.eq_false_iff.mp h)]
      simp only [isHalf, Bool.and_eq_false_iff, decide_eq_false_iff_not]
      simp only [UInt32.isValidChar, Nat.isValidChar] at hvalid
      omega
  intro c d h
  have hcd : isStandIn c = isStandIn d := by rw [← hhalf c, ← hhalf d, h]
  have heq : c.toNat = d.toNat := by
    cases hs : isStandIn c with
    | true =>
      have hd : isStandIn d = true := hcd ▸ hs
      rw [codeOf, codeOf, if_pos hs, if_pos hd] at h
      simp only [isStandIn, Bool.and_eq_true, decide_eq_true_eq] at hs hd
      omega
    | false =>
      have hd : isStandIn d = false := hcd ▸ hs
      rwa [codeOf, codeOf, if_neg (Bool.eq_false_iff.mp hs), if_neg (Bool.eq_false_iff.mp hd)] at h
  exact Char.ext (UInt32.toNat_inj.mp heq)

theorem codesOf_injective : Function.Injective codesOf := by
  intro text other h
  exact String.toList_inj.mp (List.map_injective_iff.mpr codeOf_injective h)

theorem inOrder_total (codes others : List Nat) :
    (inOrder codes others || inOrder others codes) = true := by
  induction codes generalizing others with
  | nil => simp [inOrder]
  | cons first rest ih =>
    cases others with
    | nil => simp [inOrder]
    | cons other more =>
      rcases Nat.lt_trichotomy first other with h | rfl | h
      · simp [inOrder, h]
      · simpa [inOrder] using ih more
      · simp [inOrder, h]

theorem inOrder_trans {codes others more : List Nat} (first : inOrder codes others = true)
    (second : inOrder others more = true) : inOrder codes more = true := by
  induction codes generalizing others more with
  | nil => simp [inOrder]
  | cons code rest ih =>
    cases others with
    | nil => cases first
    | cons other others =>
      cases more with
      | nil => cases second
      | cons last more =>
        simp only [inOrder, Bool.or_eq_true, Bool.and_eq_true, decide_eq_true_eq, beq_iff_eq] at *
        rcases first with first | ⟨rfl, first⟩
        · left
          omega
        · exact second.imp id fun h => ⟨h.1, ih first h.2⟩

theorem lex_of_inOrder {codes others : List Nat} (h : inOrder codes others = true) :
    codes = others ∨ List.Lex (· < ·) codes others := by
  induction codes generalizing others with
  | nil =>
    cases others with
    | nil => exact .inl rfl
    | cons other more => exact .inr .nil
  | cons first rest ih =>
    cases others with
    | nil => cases h
    | cons other more =>
      simp only [inOrder, Bool.or_eq_true, Bool.and_eq_true, decide_eq_true_eq, beq_iff_eq] at h
      rcases h with h | ⟨rfl, h⟩
      · exact .inr (.rel h)
      · exact (ih h).imp (congrArg (first :: ·)) .cons

end Text

theorem Text.startsWith_iff {lead text : String} :
    Text.startsWith lead text = true ↔ ∃ rest, text.toList = lead.toList ++ rest := by
  rw [Text.startsWith, Option.isSome_iff_exists]
  exact exists_congr fun _ => Text.after?_eq_some_iff

theorem Text.startsWith_of_append {lead more text : String} (h : Text.startsWith (lead ++ more) text = true) :
    Text.startsWith lead text = true := by
  obtain ⟨rest, hrest⟩ := Text.startsWith_iff.mp h
  exact Text.startsWith_iff.mpr ⟨more.toList ++ rest, by rw [hrest, String.toList_append, List.append_assoc]⟩

namespace Repository

/-- A listing has a file at a path. -/
def HasFile (listing : Value) (path : String) : Prop :=
  ∃ entries items own, listing = .map entries ∧ Entries.get? entries "tree" = some (.list items) ∧
    .map own ∈ items ∧ Entries.get? own "type" = some (.text "blob") ∧
    Entries.get? own "path" = some (.text path)

/-- The first file, by code points, that a listing has in the folder of a language. -/
structure IsFirstSample (listing : Value) (language : Label) (path : String) : Prop where
  listed : HasFile listing path
  inFolder : Text.startsWith ("samples/" ++ language.name ++ "/") path = true
  first : ∀ other, HasFile listing other → Text.startsWith ("samples/" ++ language.name ++ "/") other = true →
    path = other ∨ List.Lex (· < ·) (Text.codesOf path) (Text.codesOf other)

theorem isFile_iff {own : Entries} : isFile own = true ↔ Entries.get? own "type" = some (.text "blob") := by
  unfold isFile field
  cases Entries.get? own "type" with
  | none => simp
  | some value =>
    simp only [Option.getD_some, Option.some.injEq]
    split <;> simp_all

theorem samplePath?_eq_some_iff {item : Value} {path : String} :
    samplePath? item = .ok (some path) ↔ ∃ own, item = .map own ∧
      Entries.get? own "type" = some (.text "blob") ∧ Entries.get? own "path" = some (.text path) ∧
      Text.startsWith samplesFolder path = true := by
  constructor
  · intro h
    unfold samplePath? at h
    split at h
    · rename_i own
      split at h
      · rename_i hfile
        split at h
        · cases h
        · rename_i other hpath
          split at h
          · rename_i hstarts
            cases h
            exact ⟨own, rfl, isFile_iff.mp hfile, hpath, hstarts⟩
          · cases h
        · cases h
      · cases h
    · cases h
  · rintro ⟨own, rfl, htype, hpath, hstarts⟩
    simp [samplePath?, isFile_iff.mpr htype, hpath, hstarts]

theorem sorted_inOrder (paths : List String) :
    (paths.mergeSort fun a b => Text.inOrder (Text.codesOf a) (Text.codesOf b)).Pairwise fun a b =>
      a = b ∨ List.Lex (· < ·) (Text.codesOf a) (Text.codesOf b) := by
  refine (List.pairwise_mergeSort ?_ ?_ paths).imp fun h => ?_
  · intro a b c hab hbc
    exact Text.inOrder_trans hab hbc
  · intro a b
    exact Text.inOrder_total _ _
  · exact (Text.lex_of_inOrder h).imp (fun he => Text.codesOf_injective he) id

theorem listed_list {tree : Value} {items : List Value} (h : listed tree = .ok items) {own : Entries}
    (hm : .map own ∈ items) : tree = .list items := by
  unfold listed at h
  split at h <;> cases h
  · rfl
  · simp at hm
  · simp at hm

/-- The paths that are read off a listing are those of its files in the folder of all samples, in
order. -/
theorem samplePaths_ok {listing : Value} {paths : List String} (h : samplePaths listing = .ok paths) :
    (paths.Pairwise fun a b => a = b ∨ List.Lex (· < ·) (Text.codesOf a) (Text.codesOf b)) ∧
      ∀ path, path ∈ paths ↔ HasFile listing path ∧ Text.startsWith samplesFolder path = true := by
  unfold samplePaths at h
  split at h
  · rename_i entries
    cases htree : Entries.get? entries "tree" with
    | none =>
      rw [htree] at h
      cases h
      refine ⟨sorted_inOrder _, fun path => ⟨fun hm => by simp at hm, ?_⟩⟩
      rintro ⟨⟨_, items, own, ⟨⟩, hitems, -⟩, -⟩
      rw [htree] at hitems
      cases hitems
    | some tree =>
      rw [htree] at h
      obtain ⟨items, hitems, h⟩ := eq_ok_of_bind h
      obtain ⟨found, hfound, h⟩ := eq_ok_of_bind h
      cases h
      refine ⟨sorted_inOrder _, fun path => ?_⟩
      rw [List.mem_mergeSort, List.mem_filterMap]
      constructor
      · rintro ⟨outcome, hm, rfl⟩
        obtain ⟨item, hi, hpath⟩ := mem_of_mapM hfound hm
        obtain ⟨own, rfl, htype, hown, hstarts⟩ := samplePath?_eq_some_iff.mp hpath
        have hlist : Entries.get? entries "tree" = some (.list items) := by
          rw [htree, listed_list hitems hi]
        exact ⟨⟨entries, items, own, rfl, hlist, hi, htype, hown⟩, hstarts⟩
      · rintro ⟨⟨_, others, own, ⟨⟩, hlist, hi, htype, hown⟩, hstarts⟩
        obtain rfl : tree = .list others := Option.some.inj (htree.symm.trans hlist)
        cases hitems
        obtain ⟨outcome, hm, hpath⟩ := outcome_of_mapM hfound hi
        rw [samplePath?_eq_some_iff.mpr ⟨own, rfl, htype, hown, hstarts⟩] at hpath
        cases hpath
        exact ⟨some path, hm, rfl⟩
  · cases h

/-- The sample among the paths of a listing is the first one in the folder of the language. -/
theorem sampleAmong_first {listing : Value} {paths : List String} (h : samplePaths listing = .ok paths)
    {language : Label} {path : String} (found : sampleAmong paths language = some path) :
    IsFirstSample listing language path := by
  obtain ⟨hsorted, hmem⟩ := samplePaths_ok h
  obtain ⟨hstarts, before, after, rfl, hnone⟩ := List.find?_eq_some_iff_append.mp found
  refine ⟨((hmem path).mp (by simp)).1, hstarts, ?_⟩
  intro other hlisted hother
  have hin : other ∈ before ++ path :: after :=
    (hmem other).mpr ⟨hlisted, Text.startsWith_of_append (Text.startsWith_of_append hother)⟩
  rcases List.mem_append.mp hin with hb | ha
  · have hno := hnone other hb
    rw [samplesFolder, hother] at hno
    cases hno
  · rcases List.mem_cons.mp ha with rfl | ha
    · exact .inl rfl
    · exact List.rel_of_pairwise_cons (List.pairwise_append.mp hsorted).2.1 ha

end Repository

end Polyglot
