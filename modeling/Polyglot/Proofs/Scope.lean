import Polyglot.Proofs.Places
import Polyglot.Rules.Resolver

namespace Polyglot

open Polyglot.Files
open Polyglot.Text (splitWhere splitOn dropWhileEnd after? after?_eq_some_iff)

theorem scoped?_below {folder rest : Place} (names : ∀ name ∈ folder ++ rest, IsName name)
    (hr : rest ≠ []) (isFolder : Bool) :
    scoped? (relText folder) (ruleText isFolder (folder ++ rest)) = some (ruleText isFolder rest) := by
  have hf : ∀ name ∈ folder, IsName name := fun n hn => names n (List.mem_append_left _ hn)
  have hrest : ∀ name ∈ rest, IsName name := fun n hn => names n (List.mem_append_right _ hn)
  by_cases hfolder : folder = []
  · simp [scoped?, hfolder]
  · obtain ⟨c, cs, hc⟩ : ∃ c cs, (ruleText isFolder rest).toList = c :: cs := by
      apply List.exists_cons_of_ne_nil
      have hne := relText_ne_empty hr hrest
      simp [ruleText, hne]
    have ht : (ruleText isFolder (folder ++ rest)).toList =
        ((relText folder).toList ++ ['/']) ++ c :: cs := by
      rw [← hc, ruleText, ruleText, relText_append hfolder hr]
      simp
    have ha := after?_eq_some_iff.mpr ht
    simp only [scoped?, if_neg (relText_ne_empty hfolder hf), dropWhileEnd_relText hf, ha]
    rw [← hc]
    simp

theorem splitOn_ruleText {place : Place} (hne : place ≠ []) (names : ∀ name ∈ place, IsName name)
    (isFolder : Bool) :
    splitOn '/' (ruleText isFolder place).toList =
      place.map String.toList ++ if isFolder then [[]] else [] := by
  cases isFolder with
  | false => simpa using splitOn_relText hne names
  | true =>
    rw [ruleText_folder, String.toList_append]
    change splitOn '/' ((relText place).toList ++ '/' :: []) = _
    rw [splitOn_append_cons, splitOn_relText hne names]
    rfl

theorem splitOn_cons_ne (c : Char) (cs : List Char) : splitOn '/' (c :: cs) ≠ [[]] := by
  rw [splitOn, splitWhere]
  split
  · simp [Text.splitWhere_ne_nil]
  · split <;> simp

theorem prefix_of_map_toList {folder place : Place} {tail : List (List Char)}
    (h : place.map String.toList = folder.map String.toList ++ tail) : folder <+: place := by
  obtain ⟨front, rest, rfl, hf, _⟩ := List.map_eq_append_iff.mp h
  have := List.map_injective_iff.mpr (fun _ _ => String.toList_injective) hf
  exact this ▸ List.prefix_append front rest

theorem scoped?_outside {folder place : Place} (hf : ∀ name ∈ folder, IsName name)
    (hp : ∀ name ∈ place, IsName name) (hne : place ≠ []) (h : ¬ StrictlyAbove folder place)
    (isFolder : Bool) : scoped? (relText folder) (ruleText isFolder place) = none := by
  have hfolder : folder ≠ [] := by
    rintro rfl
    exact h ⟨place, hne, rfl⟩
  simp only [scoped?, if_neg (relText_ne_empty hfolder hf), dropWhileEnd_relText hf]
  split
  · rename_i c cs hc
    exfalso
    have ht := after?_eq_some_iff.mp hc
    rw [List.append_assoc, List.singleton_append] at ht
    have hs := congrArg (splitOn '/') ht
    rw [splitOn_append_cons, splitOn_relText hfolder hf, splitOn_ruleText hne hp] at hs
    -- The slash behind the folder ends its last name, which is not empty.
    have hpre : folder <+: place ∧ place.map String.toList ++ (if isFolder then [[]] else []) =
        folder.map String.toList ++ splitOn '/' (c :: cs) := by
      refine ⟨?_, hs⟩
      cases isFolder with
      | false => exact prefix_of_map_toList (by simpa using hs)
      | true =>
        have hq : folder.map String.toList <+: place.map String.toList ++ [[]] := ⟨_, hs.symm⟩
        rcases List.prefix_concat_iff.mp hq with he | ⟨tail, ht⟩
        · have hm : ([] : List Char) ∈ folder.map String.toList := by rw [he]; simp
          obtain ⟨name, hn, hnil⟩ := List.mem_map.mp hm
          exact absurd (by simpa using hnil) (hf name hn).1
        · exact prefix_of_map_toList ht.symm
    obtain ⟨hpre, hs⟩ := hpre
    apply h
    refine strictlyAbove_iff.mpr ⟨hpre, ?_⟩
    rintro rfl
    have hend := List.append_cancel_left hs
    cases isFolder with
    | false => exact Text.splitWhere_ne_nil _ _ hend.symm
    | true => exact splitOn_cons_ne c cs hend.symm
  · rfl

namespace RuleSet

/-- The rules that test a path. -/
def on (rules : RuleSet) (path : String) : RuleSet where
  ignores := rules.ignores.filter (·.test path)
  text := rules.text.filter (·.test path)
  binary := rules.binary.filter (·.test path)
  overrides := rules.overrides.filter (·.test path)

theorem ignoredBy?_on (rules : RuleSet) (path : String) :
    (rules.on path).ignoredBy? path = rules.ignoredBy? path := by
  simp [ignoredBy?, on, List.find?_filter]

theorem isText_on (rules : RuleSet) (path : String) : (rules.on path).isText path = rules.isText path := by
  simp [isText, on]

theorem isBinary_on (rules : RuleSet) (path : String) :
    (rules.on path).isBinary path = rules.isBinary path := by
  simp [isBinary, on]

theorem override?_on (rules : RuleSet) (path : String) :
    (rules.on path).override? path = rules.override? path := by
  simp [override?, on, List.find?_filter]

section
variable {rules others : RuleSet} {path : String}

theorem exclusion?_congr (h : rules.on path = others.on path) :
    rules.exclusion? path = others.exclusion? path := by
  rw [exclusion?, exclusion?, ← ignoredBy?_on rules, h, ignoredBy?_on]

theorem isText_congr (h : rules.on path = others.on path) : rules.isText path = others.isText path := by
  rw [← isText_on rules, h, isText_on]

theorem isBinary_congr (h : rules.on path = others.on path) :
    rules.isBinary path = others.isBinary path := by
  rw [← isBinary_on rules, h, isBinary_on]

theorem override?_congr (h : rules.on path = others.on path) :
    rules.override? path = others.override? path := by
  rw [← override?_on rules, h, override?_on]

end

@[simp] theorem on_append (a b : RuleSet) (path : String) :
    (a ++ b).on path = a.on path ++ b.on path := by
  change RuleSet.mk _ _ _ _ = RuleSet.mk _ _ _ _
  simp [on]

@[simp] theorem append_empty (rules : RuleSet) : rules ++ ({} : RuleSet) = rules := by
  change RuleSet.mk _ _ _ _ = rules
  simp

theorem dropWhileEnd_ruleText {place : Place} (names : ∀ name ∈ place, IsName name)
    (isFolder : Bool) :
    dropWhileEnd (· == '/') (ruleText isFolder place).toList = (relText place).toList := by
  have h := dropWhileEnd_relText names
  cases isFolder with
  | false => simpa using h
  | true =>
    rw [dropWhileEnd] at h ⊢
    simpa using h

/-- A path is left out for a name of version control on it, or by an ignore rule. -/
theorem isSome_exclusion? (rules : RuleSet) {place : Place} (hne : place ≠ [])
    (names : ∀ name ∈ place, IsName name) (isFolder : Bool) :
    (rules.exclusion? (ruleText isFolder place)).isSome =
      (place.any isVersionControl || rules.ignores.any (·.test (ruleText isFolder place))) := by
  simp only [exclusion?, dropWhileEnd_ruleText names, splitOn_relText hne names, List.any_map,
    Function.comp_def, String.ofList_toList]
  by_cases hv : place.any isVersionControl = true
  · simp [hv]
  · simp [hv, ignoredBy?, List.isSome_find?]

/-- Every rule acts below one folder. -/
structure Within (folder : String) (rules : RuleSet) : Prop where
  ignores : ∀ rule ∈ rules.ignores, rule.folder = folder
  text : ∀ rule ∈ rules.text, rule.folder = folder
  binary : ∀ rule ∈ rules.binary, rule.folder = folder
  overrides : ∀ rule ∈ rules.overrides, rule.folder = folder

theorem Within.empty (folder : String) : Within folder {} :=
  ⟨by simp, by simp, by simp, by simp⟩

theorem Within.append {folder : String} {a b : RuleSet} (ha : a.Within folder) (hb : b.Within folder) :
    (a ++ b).Within folder := by
  refine ⟨?_, ?_, ?_, ?_⟩ <;> intro rule hr <;> rcases List.mem_append.mp hr with hr | hr
  · exact ha.ignores rule hr
  · exact hb.ignores rule hr
  · exact ha.text rule hr
  · exact hb.text rule hr
  · exact ha.binary rule hr
  · exact hb.binary rule hr
  · exact ha.overrides rule hr
  · exact hb.overrides rule hr

theorem Within.on_of_outside {folder path : String} {rules : RuleSet} (h : rules.Within folder)
    (outside : scoped? folder path = none) : rules.on path = {} := by
  have hn (rule : PathRule) (hr : rule.folder = folder) : ¬ rule.test path = true := by
    simp [PathRule.test, hr, outside]
  have hi : rules.ignores.filter (·.test path) = [] :=
    List.filter_eq_nil_iff.mpr fun rule hr => hn _ (h.ignores rule hr)
  have ht : rules.text.filter (·.test path) = [] :=
    List.filter_eq_nil_iff.mpr fun rule hr => hn _ (h.text rule hr)
  have hb : rules.binary.filter (·.test path) = [] :=
    List.filter_eq_nil_iff.mpr fun rule hr => hn _ (h.binary rule hr)
  have ho : rules.overrides.filter (·.test path) = [] :=
    List.filter_eq_nil_iff.mpr fun rule hr => hn _ (h.overrides rule hr)
  rw [on, hi, ht, hb, ho]

/-- What comes together when the rules of folders are put behind each other. -/
def gather (own : Place → RuleSet) (base : RuleSet) (folders : List Place) : RuleSet :=
  folders.foldl (fun rules folder => rules ++ own folder) base

variable {own : Place → RuleSet} {base : RuleSet}

@[simp] theorem gather_nil : gather own base [] = base := rfl

theorem gather_append (folders others : List Place) :
    gather own base (folders ++ others) = gather own (gather own base folders) others :=
  List.foldl_append

theorem gather_concat (folders : List Place) (folder : Place) :
    gather own base (folders ++ [folder]) = gather own base folders ++ own folder := by
  rw [gather_append]
  rfl

theorem gather_empty (base : RuleSet) (folders : List Place) :
    gather (fun _ => {}) base folders = base := by
  induction folders with
  | nil => rfl
  | cons folder rest ih =>
    change gather _ (base ++ {}) rest = base
    rw [append_empty, ih]

theorem gather_ignores (folders : List Place) :
    (gather own base folders).ignores =
      base.ignores ++ folders.flatMap fun folder => (own folder).ignores := by
  induction folders generalizing base with
  | nil => simp
  | cons folder rest ih =>
    change (gather own (base ++ own folder) rest).ignores = _
    rw [ih, ignores_append, List.flatMap_cons, List.append_assoc]

theorem on_gather (path : String) (folders : List Place) :
    (gather own base folders).on path =
      gather (fun folder => (own folder).on path) (base.on path) folders := by
  induction folders generalizing base with
  | nil => rfl
  | cons folder rest ih =>
    change (gather own (base ++ own folder) rest).on path = _
    rw [ih, on_append]
    rfl

theorem gather_congr {own others : Place → RuleSet} (base : RuleSet) {folders : List Place}
    (h : ∀ folder ∈ folders, own folder = others folder) :
    gather own base folders = gather others base folders := by
  induction folders generalizing base with
  | nil => rfl
  | cons folder rest ih =>
    change gather own (base ++ own folder) rest = gather others (base ++ others folder) rest
    rw [h folder (by simp)]
    exact ih _ fun f hf => h f (List.mem_cons_of_mem _ hf)

theorem gather_filter {keeps : Place → Bool} (folders : List Place)
    (h : ∀ folder ∈ folders, keeps folder = false → own folder = {}) :
    gather own base folders = gather own base (folders.filter keeps) := by
  induction folders generalizing base with
  | nil => rfl
  | cons folder rest ih =>
    change gather own (base ++ own folder) rest = _
    rw [ih (fun f hf => h f (List.mem_cons_of_mem _ hf))]
    cases hk : keeps folder with
    | true => rw [List.filter_cons_of_pos hk]; rfl
    | false =>
      rw [List.filter_cons_of_neg (by simp [hk]), h folder (by simp) hk, append_empty]

theorem on_gather_filter {keeps : Place → Bool} {folders : List Place} {path : String}
    (h : ∀ folder ∈ folders, keeps folder = false → (own folder).on path = {}) :
    (gather own base folders).on path = (gather own base (folders.filter keeps)).on path := by
  rw [on_gather, on_gather, gather_filter folders h]

/-- Of rules that were gathered from the root down, those of the folders above a path are all that
test it, and they stand in the order of these folders. -/
theorem on_gather_above {folders : List Place} (ordered : TopDown folders)
    (within : ∀ folder ∈ folders, (own folder).Within (relText folder))
    (names : ∀ folder ∈ folders, ∀ name ∈ folder, IsName name)
    {place : Place} (hne : place ≠ []) (hp : ∀ name ∈ place, IsName name)
    (covered : ∀ folder, StrictlyAbove folder place → folder ∈ folders) (isFolder : Bool) :
    (gather own base folders).on (ruleText isFolder place) =
      (gather own base (above place)).on (ruleText isFolder place) := by
  have hout : ∀ folder ∈ folders, decide (StrictlyAbove folder place) = false →
      (own folder).on (ruleText isFolder place) = {} := by
    intro folder hf hn
    have hnot : ¬ StrictlyAbove folder place := by simpa using hn
    exact (within folder hf).on_of_outside (scoped?_outside (names folder hf) hp hne hnot isFolder)
  rw [on_gather_filter hout, filter_above ordered covered]

end RuleSet

end Polyglot
