import Mathlib
import Polyglot.Files.Walk

namespace Polyglot.Files

open Polyglot.Text (splitWhere splitOn dropWhileEnd after?)

/-- What an entry of a folder can be called. -/
def IsName (name : String) : Prop := name ≠ "" ∧ name ≠ "." ∧ name ≠ ".." ∧ '/' ∉ name.toList

theorem names_concat {place : Place} {name : String} (names : ∀ n ∈ place, IsName n)
    (hn : IsName name) : ∀ n ∈ place ++ [name], IsName n := by
  intro n hm
  rcases List.mem_append.mp hm with hm | hm
  · exact names n hm
  · rwa [List.mem_singleton.mp hm]

/-- The text of a place below a root, which itself has the empty text. -/
def relText (place : Place) : String := "/".intercalate place

/-- The text that rules test: a folder has a slash behind its names. -/
def ruleText (isFolder : Bool) (place : Place) : String :=
  relText place ++ if isFolder then "/" else ""

@[simp] theorem ruleText_file (place : Place) : ruleText false place = relText place := by
  simp [ruleText]

@[simp] theorem ruleText_folder (place : Place) : ruleText true place = relText place ++ "/" := rfl

/-- Some entry of a place is below it. -/
def StrictlyAbove (folder place : Place) : Prop := ∃ rest, rest ≠ [] ∧ place = folder ++ rest

theorem StrictlyAbove.ne {folder place : Place} (h : StrictlyAbove folder place) :
    folder ≠ place := by
  obtain ⟨rest, hr, rfl⟩ := h
  simpa using hr

theorem StrictlyAbove.isPrefix {folder place : Place} (h : StrictlyAbove folder place) :
    folder <+: place := by
  obtain ⟨rest, _, rfl⟩ := h
  exact List.prefix_append folder rest

theorem strictlyAbove_iff {folder place : Place} :
    StrictlyAbove folder place ↔ folder <+: place ∧ folder ≠ place := by
  constructor
  · exact fun h => ⟨h.isPrefix, h.ne⟩
  · rintro ⟨⟨rest, rfl⟩, hne⟩
    exact ⟨rest, fun he => hne (by simp [he]), rfl⟩

theorem StrictlyAbove.length_lt {folder place : Place} (h : StrictlyAbove folder place) :
    folder.length < place.length := by
  obtain ⟨rest, hr, rfl⟩ := h
  have := List.length_pos_iff.mpr hr
  simp only [List.length_append]
  omega

theorem strictlyAbove_concat {folder place : Place} {name : String} :
    StrictlyAbove folder (place ++ [name]) ↔ folder <+: place := by
  rw [strictlyAbove_iff]
  constructor
  · rintro ⟨hp, hne⟩
    rcases List.prefix_concat_iff.mp hp with he | hp
    · exact absurd he hne
    · exact hp
  · intro hp
    refine ⟨hp.trans (List.prefix_append place [name]), ?_⟩
    rintro rfl
    have := hp.length_le
    simp at this

instance (folder place : Place) : Decidable (StrictlyAbove folder place) :=
  decidable_of_iff _ strictlyAbove_iff.symm

/-- The folders above a place, the root first. -/
def above (place : Place) : List Place := (List.range place.length).map place.take

theorem mem_above {folder place : Place} : folder ∈ above place ↔ StrictlyAbove folder place := by
  rw [above, List.mem_map]
  constructor
  · rintro ⟨depth, hd, rfl⟩
    refine ⟨place.drop depth, ?_, (List.take_append_drop depth place).symm⟩
    simpa using List.mem_range.mp hd
  · intro h
    refine ⟨folder.length, List.mem_range.mpr h.length_lt, ?_⟩
    obtain ⟨rest, _, rfl⟩ := h
    simp

theorem above_shorter (place : Place) :
    (above place).Pairwise fun folder other => folder.length < other.length := by
  rw [above, List.pairwise_map]
  refine List.Pairwise.imp_of_mem ?_ List.pairwise_lt_range
  intro a b ha hb hab
  have hla := List.mem_range.mp ha
  have hlb := List.mem_range.mp hb
  simp only [List.length_take]
  omega

/-- A list of folders in which none comes behind a folder below it, nor behind itself. -/
def TopDown (folders : List Place) : Prop := folders.Pairwise fun folder later => ¬ later <+: folder

theorem above_topDown (place : Place) : TopDown (above place) := by
  refine (above_shorter place).imp ?_
  intro folder later hlt hp
  have := hp.length_le
  omega

theorem TopDown.filter_eq {folders others : List Place} (ordered : TopDown folders)
    (ordered' : TopDown others) {onWay : Place → Bool}
    (way : ∀ folder ∈ folders, ∀ other ∈ folders, onWay folder = true → onWay other = true →
      folder <+: other ∨ other <+: folder)
    (same : ∀ folder, onWay folder = true → (folder ∈ folders ↔ folder ∈ others)) :
    folders.filter onWay = others.filter onWay := by
  have shorter {list : List Place} (h : TopDown list)
      (hs : ∀ folder ∈ list, onWay folder = true → folder ∈ folders) :
      (list.filter onWay).Pairwise fun folder later => folder.length < later.length := by
    refine List.Pairwise.imp_of_mem ?_ (List.Pairwise.filter _ h)
    intro a b ha hb hab
    obtain ⟨ha, hwa⟩ := List.mem_filter.mp ha
    obtain ⟨hb, hwb⟩ := List.mem_filter.mp hb
    rcases way a (hs a ha hwa) b (hs b hb hwb) hwa hwb with hp | hp
    · refine lt_of_le_of_ne hp.length_le ?_
      intro he
      exact hab (hp.eq_of_length he ▸ List.prefix_rfl)
    · exact absurd hp hab
  have distinct {list : List Place}
      (h : list.Pairwise fun folder later => folder.length < later.length) : list.Nodup := by
    refine h.imp ?_
    rintro a b hab rfl
    exact Nat.lt_irrefl _ hab
  have hm : ∀ folder, folder ∈ folders.filter onWay ↔ folder ∈ others.filter onWay := by
    intro folder
    rw [List.mem_filter, List.mem_filter]
    exact and_congr_left fun h => same folder h
  have hshort := shorter ordered fun _ hf _ => hf
  have hshort' := shorter ordered' fun folder hf hw => (same folder hw).mpr hf
  have hperm := (List.perm_ext_iff_of_nodup (distinct hshort) (distinct hshort')).mpr hm
  refine hperm.eq_of_pairwise ?_ hshort hshort'
  intro a b _ _ hab hba
  exact absurd hba (Nat.lt_asymm hab)

/-- Of folders from the root down, those above a place are the folders above it in their order. -/
theorem filter_above {folders : List Place} (ordered : TopDown folders) {place : Place}
    (covered : ∀ folder, StrictlyAbove folder place → folder ∈ folders) :
    folders.filter (StrictlyAbove · place) = above place := by
  have hall : (above place).filter (StrictlyAbove · place) = above place :=
    List.filter_eq_self.mpr fun folder hf => decide_eq_true (mem_above.mp hf)
  rw [← hall]
  apply ordered.filter_eq (above_topDown place)
  · intro folder _ other _ hf ho
    exact List.prefix_or_prefix_of_prefix (of_decide_eq_true hf).isPrefix
      (of_decide_eq_true ho).isPrefix
  · intro folder hf
    have ha := of_decide_eq_true hf
    exact ⟨fun _ => mem_above.mpr ha, fun _ => covered folder ha⟩

theorem splitWhere_append_cons {separates : Char → Bool} {c : Char} (hc : separates c = true)
    (before behind : List Char) :
    splitWhere separates (before ++ c :: behind) =
      splitWhere separates before ++ splitWhere separates behind := by
  induction before with
  | nil => simp [splitWhere, hc]
  | cons first rest ih =>
    rw [List.cons_append, splitWhere, splitWhere, ih]
    split
    · rfl
    · cases hw : splitWhere separates rest with
      | nil => exact absurd hw (Text.splitWhere_ne_nil _ _)
      | cons piece pieces => rfl

theorem splitWhere_of_none {separates : Char → Bool} {chars : List Char}
    (h : ∀ c ∈ chars, separates c = false) : splitWhere separates chars = [chars] := by
  induction chars with
  | nil => rfl
  | cons c rest ih =>
    rw [splitWhere, h c List.mem_cons_self, ih fun other ho => h other (List.mem_cons_of_mem _ ho)]
    rfl

theorem mem_splitWhere {separates : Char → Bool} {chars piece : List Char}
    (h : piece ∈ splitWhere separates chars) : ∀ c ∈ piece, c ∈ chars ∧ separates c = false := by
  induction chars generalizing piece with
  | nil =>
    obtain rfl : piece = [] := by simpa [splitWhere] using h
    simp
  | cons first rest ih =>
    have hrest {piece : List Char} (hp : piece ∈ splitWhere separates rest) :
        ∀ c ∈ piece, c ∈ first :: rest ∧ separates c = false := fun c hc =>
      ⟨List.mem_cons_of_mem _ (ih hp c hc).1, (ih hp c hc).2⟩
    rw [splitWhere] at h
    cases hs : separates first with
    | true =>
      rw [if_pos hs] at h
      rcases List.mem_cons.mp h with rfl | h
      · simp
      · exact hrest h
    | false =>
      rw [if_neg (by simp [hs])] at h
      cases hw : splitWhere separates rest with
      | nil => exact absurd hw (Text.splitWhere_ne_nil _ _)
      | cons front pieces =>
        rw [hw] at h
        simp only [List.mem_cons] at h
        rcases h with rfl | h
        · intro c hc
          rcases List.mem_cons.mp hc with rfl | hc
          · exact ⟨List.mem_cons_self, hs⟩
          · exact hrest (hw ▸ List.mem_cons_self) c hc
        · exact hrest (hw ▸ List.mem_cons_of_mem _ h)

theorem splitOn_of_not_mem {sep : Char} {chars : List Char} (h : sep ∉ chars) :
    splitOn sep chars = [chars] :=
  splitWhere_of_none fun c hc => by simpa using ne_of_mem_of_not_mem hc h

theorem splitOn_append_cons (sep : Char) (before behind : List Char) :
    splitOn sep (before ++ sep :: behind) = splitOn sep before ++ splitOn sep behind :=
  splitWhere_append_cons (by simp) before behind

theorem not_mem_of_mem_splitOn {sep : Char} {chars piece : List Char}
    (h : piece ∈ splitOn sep chars) : sep ∉ piece := by
  intro hm
  simpa using (mem_splitWhere h sep hm).2

theorem splitOn_intercalate {sep : Char} {pieces : List (List Char)} (hne : pieces ≠ [])
    (h : ∀ piece ∈ pieces, sep ∉ piece) :
    splitOn sep (List.intercalate [sep] pieces) = pieces := by
  induction pieces with
  | nil => exact absurd rfl hne
  | cons piece rest ih =>
    have hp : sep ∉ piece := h piece (by simp)
    cases rest with
    | nil => simpa using splitOn_of_not_mem hp
    | cons next others =>
      have hr := ih (by simp) (fun q hq => h q (List.mem_cons_of_mem _ hq))
      rw [List.intercalate_cons_cons, List.append_assoc, List.singleton_append,
        splitOn_append_cons, splitOn_of_not_mem hp, hr, List.singleton_append]

theorem toList_relText (place : Place) :
    (relText place).toList = List.intercalate ['/'] (place.map String.toList) := by
  simp [relText]

theorem splitOn_relText {place : Place} (hne : place ≠ []) (names : ∀ name ∈ place, IsName name) :
    splitOn '/' (relText place).toList = place.map String.toList := by
  rw [toList_relText]
  apply splitOn_intercalate
  · simpa using hne
  · intro piece hp
    obtain ⟨name, hn, rfl⟩ := List.mem_map.mp hp
    exact (names name hn).2.2.2

@[simp] theorem relText_nil : relText [] = "" := by simp [relText]

@[simp] theorem relText_singleton (name : String) : relText [name] = name := by simp [relText]

theorem relText_append {place rest : Place} (hp : place ≠ []) (hr : rest ≠ []) :
    relText (place ++ rest) = relText place ++ "/" ++ relText rest :=
  String.intercalate_append_of_ne_nil hp hr

theorem relText_ne_empty {place : Place} (hne : place ≠ []) (names : ∀ name ∈ place, IsName name) :
    relText place ≠ "" := by
  intro he
  have hs := splitOn_relText hne names
  rw [he] at hs
  obtain ⟨name, rest, rfl⟩ := List.exists_cons_of_ne_nil hne
  have hn : name.toList = [] := by
    simp only [String.toList_empty, List.map_cons] at hs
    exact ((List.cons.inj hs).1).symm
  exact (names name (by simp)).1 (by simpa using hn)

theorem relText_concat {place : Place} {name : String} (names : ∀ n ∈ place, IsName n) :
    relText (place ++ [name]) = below (relText place) name := by
  by_cases hp : place = []
  · simp [hp, below]
  · rw [relText_append hp (by simp), below, if_neg (relText_ne_empty hp names), relText_singleton]

theorem relText_injective {place other : Place} (hp : ∀ name ∈ place, IsName name)
    (ho : ∀ name ∈ other, IsName name) (h : relText place = relText other) : place = other := by
  by_cases he : place = [] <;> by_cases hf : other = []
  · rw [he, hf]
  · exact absurd (by rw [← h, he, relText_nil]) (relText_ne_empty hf ho)
  · exact absurd (by rw [h, hf, relText_nil]) (relText_ne_empty he hp)
  · have hs := splitOn_relText he hp
    rw [h, splitOn_relText hf ho] at hs
    exact (List.map_injective_iff.mpr (fun _ _ => String.toList_injective) hs).symm

theorem partsOf_relText {place : Place} (names : ∀ name ∈ place, IsName name) :
    Path.partsOf (relText place) = place := by
  by_cases hp : place = []
  · simp [hp, Path.partsOf, splitOn, splitWhere, Text.ofPieces]
  · rw [Path.partsOf, splitOn_relText hp names, Text.ofPieces, List.map_map]
    have hid : (String.ofList ∘ String.toList) = id := by
      funext name
      simp
    rw [hid, List.map_id]
    apply List.filter_eq_self.mpr
    intro name hn
    obtain ⟨h₁, h₂, _⟩ := names name hn
    simp [h₁, h₂]

theorem head_relText {place : Place} (names : ∀ name ∈ place, IsName name) :
    (relText place).toList.head? ≠ some '/' := by
  cases place with
  | nil => simp
  | cons name rest =>
    obtain ⟨hne, _, _, hs⟩ := names name (by simp)
    obtain ⟨c, cs, hc⟩ : ∃ c cs, name.toList = c :: cs :=
      List.exists_cons_of_ne_nil (by simpa using hne)
    have hh : c ≠ '/' := by
      rintro rfl
      exact hs (by simp [hc])
    rw [toList_relText, List.map_cons, hc, List.intercalate_cons_cons_left]
    simpa using hh

theorem ofText_relText {place : Place} (names : ∀ name ∈ place, IsName name) :
    Path.ofText (relText place) = ⟨"", place⟩ := by
  have hr : Path.rootOf (relText place).toList = "" := by
    have hh := head_relText names
    generalize (relText place).toList = chars at hh
    unfold Path.rootOf
    split <;> simp_all
  rw [Path.ofText, partsOf_relText names, hr]

theorem ofText_name {name : String} (hn : IsName name) : Path.ofText name = ⟨"", [name]⟩ := by
  rw [← relText_singleton name]
  exact ofText_relText (by simpa using hn)

theorem dropWhileEnd_relText {place : Place} (names : ∀ name ∈ place, IsName name) :
    dropWhileEnd (· == '/') (relText place).toList = (relText place).toList := by
  rcases List.eq_nil_or_concat place with rfl | ⟨front, name, rfl⟩
  · simp [dropWhileEnd]
  · obtain ⟨hne, _, _, hs⟩ := names name (by simp)
    obtain ⟨cs, c, hc⟩ : ∃ cs c, name.toList = cs ++ [c] := by
      rcases List.eq_nil_or_concat name.toList with he | ⟨cs, c, hc⟩
      · exact absurd (by simpa using he) hne
      · exact ⟨cs, c, by simpa using hc⟩
    have hl : c ≠ '/' := by
      rintro rfl
      exact hs (by simp [hc])
    have ht : ∃ lead, (relText (front ++ [name])).toList = lead ++ [c] := by
      by_cases hf : front = []
      · exact ⟨cs, by simp [hf, hc]⟩
      · exact ⟨(relText front).toList ++ '/' :: cs, by
          simp [relText_append hf, hc]⟩
    obtain ⟨lead, ht⟩ := ht
    simp [dropWhileEnd, List.concat_eq_append, ht, hl]

end Polyglot.Files
