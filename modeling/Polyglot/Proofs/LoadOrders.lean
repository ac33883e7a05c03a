import Polyglot.Proofs.Loading

namespace Polyglot

open Polyglot.Files
open Polyglot.Text (splitOn dropWhileEnd after? after?_eq_some_iff)

/-- What is left of a resolver after folders were loaded, whatever came of each call. -/
def Resolver.loadAll (ws : Workspace) (calls : List Place) (resolver : Resolver) : Resolver :=
  calls.foldl (fun resolver folder => (resolver.load ws (relText folder)).resolver) resolver

theorem Resolver.loadAll_concat (ws : Workspace) (calls : List Place) (folder : Place)
    (resolver : Resolver) :
    resolver.loadAll ws (calls ++ [folder]) =
      ((resolver.loadAll ws calls).load ws (relText folder)).resolver := by
  rw [loadAll, List.foldl_append]
  rfl

/-- Calls in which each folder comes behind the folders above it that are called at all. -/
def AncestorsFirst (calls : List Place) : Prop :=
  ∀ turn, (h : turn < calls.length) → ∀ folder ∈ calls, StrictlyAbove folder calls[turn] →
    folder ∈ calls.take turn

instance (calls : List Place) : Decidable (AncestorsFirst calls) :=
  inferInstanceAs (Decidable (∀ turn, (h : turn < calls.length) → ∀ folder ∈ calls,
    StrictlyAbove folder calls[turn] → folder ∈ calls.take turn))

/-- Two resolvers say the same of a path. -/
structure AnswerAlike (first second : Resolver) (path : String) : Prop where
  ignores_eq : first.ignores path = second.ignores path
  ignoredBy_eq : first.rules.ignoredBy? path = second.rules.ignoredBy? path
  override_eq : first.rules.override? path = second.rules.override? path
  isText_eq : first.rules.isText path = second.rules.isText path
  isBinary_eq : first.rules.isBinary path = second.rules.isBinary path

theorem AnswerAlike.of_on {first second : Resolver} {path : String}
    (h : first.rules.on path = second.rules.on path) : AnswerAlike first second path where
  ignores_eq := by
    rw [Resolver.ignores, Resolver.exclusion?, RuleSet.exclusion?_congr h]
    rfl
  ignoredBy_eq := by rw [← RuleSet.ignoredBy?_on first.rules, h, RuleSet.ignoredBy?_on]
  override_eq := RuleSet.override?_congr h
  isText_eq := RuleSet.isText_congr h
  isBinary_eq := RuleSet.isBinary_congr h

/-- A folder sees a path. -/
def sees (path : String) (folder : Place) : Bool := (scoped? (relText folder) path).isSome

theorem splitOn_of_sees {folder : Place} (names : ∀ name ∈ folder, IsName name) {path : String}
    (h : sees path folder = true) :
    folder.map String.toList <+: splitOn '/' path.toList := by
  by_cases hf : folder = []
  · simp [hf]
  · simp only [sees, scoped?, if_neg (relText_ne_empty hf names), dropWhileEnd_relText names] at h
    split at h
    · rename_i c rest hc
      have ht := after?_eq_some_iff.mp hc
      rw [List.append_assoc, List.singleton_append] at ht
      rw [ht, splitOn_append_cons, splitOn_relText hf names]
      exact List.prefix_append _ _
    · simp at h

theorem way_of_sees {folder other : Place} (hf : ∀ name ∈ folder, IsName name)
    (ho : ∀ name ∈ other, IsName name) {path : String} (h : sees path folder = true)
    (h' : sees path other = true) : folder <+: other ∨ other <+: folder := by
  have of_names {a b : Place} (hab : a.map String.toList <+: b.map String.toList) : a <+: b := by
    obtain ⟨tail, ht⟩ := hab
    exact prefix_of_map_toList ht.symm
  exact (List.prefix_or_prefix_of_prefix (splitOn_of_sees hf h) (splitOn_of_sees ho h')).imp
    of_names of_names

theorem strictlyAbove_of_sees {folder place : Place} (hf : ∀ name ∈ folder, IsName name)
    (hp : ∀ name ∈ place, IsName name) (hne : place ≠ []) {isFolder : Bool}
    (h : sees (ruleText isFolder place) folder = true) : StrictlyAbove folder place := by
  by_contra hnot
  simp [sees, scoped?_outside hf hp hne hnot isFolder] at h

theorem RuleSet.on_gather_eq {own : Place → RuleSet} {base : RuleSet} {folders others : List Place}
    (within : ∀ folder, (own folder).Within (relText folder))
    (names : ∀ folder ∈ folders, ∀ name ∈ folder, IsName name) (ordered : TopDown folders)
    (ordered' : TopDown others) {path : String}
    (same : ∀ folder, sees path folder = true → (folder ∈ folders ↔ folder ∈ others)) :
    (gather own base folders).on path = (gather own base others).on path := by
  have hout : ∀ folder, sees path folder = false → (own folder).on path = {} := by
    intro folder hf
    exact (within folder).on_of_outside (by simpa [sees] using hf)
  have hway : folders.filter (sees path) = others.filter (sees path) := by
    refine ordered.filter_eq ordered' ?_ same
    intro folder hf other ho
    exact way_of_sees (names folder hf) (names other ho)
  rw [on_gather_filter fun folder _ => hout folder, hway, ← on_gather_filter fun folder _ => hout folder]

/-- A folder other than the root is left out by rules. -/
def Hidden (rules : RuleSet) (folder : Place) : Prop :=
  folder ≠ [] ∧ (rules.exclusion? (ruleText true folder)).isSome = true

theorem Hidden.congr {rules others : RuleSet} {folder : Place}
    (h : folder ≠ [] → rules.on (ruleText true folder) = others.on (ruleText true folder)) :
    Hidden rules folder ↔ Hidden others folder :=
  and_congr_right fun hne => by rw [RuleSet.exclusion?_congr (h hne)]

/-- Folders were called, and those of them that their rules together do not leave out were read. -/
structure Loads (ws : Workspace) (root : Path) (catalog : Catalog) (options : Options)
    (base : RuleSet) (calls folders : List Place) (resolver : Resolver) : Prop where
  root_eq : resolver.root = root
  catalog_eq : resolver.catalog = catalog
  options_eq : resolver.options = options
  rules_eq : resolver.rules =
    RuleSet.gather (heldIn ws root catalog options) base folders
  loaded_iff : ∀ folder, (∀ name ∈ folder, IsName name) →
    (relText folder ∈ resolver.loaded ↔ folder ∈ calls)
  topDown : TopDown folders
  called : folders ⊆ calls
  names : ∀ folder ∈ calls, ∀ name ∈ folder, IsName name
  read_iff : ∀ folder ∈ calls, folder ∈ folders ↔
    ¬ Hidden (RuleSet.gather (heldIn ws root catalog options) base folders) folder

section
variable {ws : Workspace} {root : Path} {catalog : Catalog} {options : Options} {base : RuleSet}
  {calls others folders reads : List Place} {resolver : Resolver}

theorem Loads.start (ws : Workspace) (root : Path) (catalog : Catalog) (options : Options)
    (base : RuleSet) :
    Loads ws root catalog options base [] [] { root, catalog, options, rules := base } :=
  ⟨rfl, rfl, rfl, rfl, by simp, List.Pairwise.nil, by simp, by simp, by simp⟩

theorem hidden_concat (rules : RuleSet) {folder other : Place} (hf : ∀ name ∈ folder, IsName name)
    (ho : ∀ name ∈ other, IsName name) (h : ¬ StrictlyAbove folder other) :
    Hidden (rules ++ heldIn ws root catalog options folder) other ↔ Hidden rules other := by
  apply Hidden.congr
  intro hne
  have hout := (reading_within ws root catalog options folder).on_of_outside
    (scoped?_outside hf ho hne h true)
  rw [RuleSet.on_append, heldIn, hout, RuleSet.append_empty]

theorem Loads.load_again (h : Loads ws root catalog options base calls folders resolver)
    {folder : Place} (hm : folder ∈ calls) :
    (resolver.load ws (relText folder)).resolver = resolver := by
  have hloaded := (h.loaded_iff folder (h.names folder hm)).mpr hm
  rw [Resolver.load, if_pos (by simp [hloaded])]

theorem Loads.load_new (h : Loads ws root catalog options base calls folders resolver)
    (active : options.quick = false) {folder : Place} (names : ∀ name ∈ folder, IsName name)
    (fresh : folder ∉ calls) :
    (resolver.load ws (relText folder)).resolver =
      { resolver with
        loaded := resolver.loaded ++ [relText folder]
        rules := if relText folder != "" && resolver.ignores (relText folder ++ "/") then
          resolver.rules else resolver.rules ++ heldIn ws root catalog options folder } := by
  have hnew : ¬ ((resolver.options.quick || resolver.loaded.contains (relText folder)) = true) := by
    rw [h.options_eq, active, Bool.false_or, List.contains_iff_mem, h.loaded_iff folder names]
    exact fresh
  rw [Resolver.load, if_neg hnew]
  split
  · rfl
  · rw [heldIn, ← folderRules_eq h.root_eq h.catalog_eq h.options_eq active folder]

theorem Loads.ignores_iff (h : Loads ws root catalog options base calls folders resolver)
    {folder : Place} (names : ∀ name ∈ folder, IsName name) :
    (relText folder != "" && resolver.ignores (relText folder ++ "/")) = true ↔
      Hidden (RuleSet.gather (heldIn ws root catalog options) base folders) folder := by
  rw [← h.rules_eq, Hidden, Bool.and_eq_true, bne_iff_ne, ruleText_folder]
  refine and_congr_left fun _ => not_congr ?_
  exact ⟨fun he => by_contra fun hne => relText_ne_empty hne names he, fun he => by simp [he]⟩

theorem Loads.names_concat (h : Loads ws root catalog options base calls folders resolver)
    {folder : Place} (names : ∀ name ∈ folder, IsName name) :
    ∀ other ∈ calls ++ [folder], ∀ name ∈ other, IsName name := by
  intro other ho
  rcases List.mem_append.mp ho with ho | ho
  · exact h.names other ho
  · rwa [List.mem_singleton.mp ho]

theorem Loads.loaded_concat (h : Loads ws root catalog options base calls folders resolver)
    {folder : Place} (names : ∀ name ∈ folder, IsName name) :
    ∀ other, (∀ name ∈ other, IsName name) →
      (relText other ∈ resolver.loaded ++ [relText folder] ↔ other ∈ calls ++ [folder]) := by
  intro other ho
  rw [List.mem_append, List.mem_append, h.loaded_iff other ho, List.mem_singleton,
    List.mem_singleton]
  exact or_congr_right ⟨relText_injective ho names, fun he => by rw [he]⟩

theorem Loads.again (h : Loads ws root catalog options base calls folders resolver) {folder : Place}
    (hm : folder ∈ calls) :
    Loads ws root catalog options base (calls ++ [folder]) folders resolver := by
  have hsame : ∀ other, other ∈ calls ++ [folder] ↔ other ∈ calls := by
    intro other
    simp only [List.mem_append, List.mem_singleton, or_iff_left_iff_imp]
    rintro rfl
    exact hm
  exact ⟨h.root_eq, h.catalog_eq, h.options_eq, h.rules_eq,
    fun other ho => (h.loaded_iff other ho).trans (hsame other).symm, h.topDown,
    fun _ ho => List.mem_append_left _ (h.called ho), h.names_concat (h.names folder hm),
    fun other ho => h.read_iff other ((hsame other).mp ho)⟩

theorem Loads.passOver (h : Loads ws root catalog options base calls folders resolver)
    {folder : Place} (names : ∀ name ∈ folder, IsName name) (fresh : folder ∉ calls)
    (hidden : Hidden (RuleSet.gather (heldIn ws root catalog options) base folders) folder) :
    Loads ws root catalog options base (calls ++ [folder]) folders
      { resolver with loaded := resolver.loaded ++ [relText folder] } := by
  refine ⟨h.root_eq, h.catalog_eq, h.options_eq, h.rules_eq, h.loaded_concat names, h.topDown,
    fun _ ho => List.mem_append_left _ (h.called ho), h.names_concat names, ?_⟩
  intro other ho
  rcases List.mem_append.mp ho with ho | ho
  · exact h.read_iff other ho
  · rw [List.mem_singleton.mp ho]
    exact ⟨fun hf => absurd (h.called hf) fresh, fun hnot => absurd hidden hnot⟩

/-- A folder that the rules let through adds its own. As nothing below it was called, they leave out
none of the folders that were. -/
theorem Loads.read (h : Loads ws root catalog options base calls folders resolver)
    {folder : Place} (names : ∀ name ∈ folder, IsName name) (fresh : folder ∉ calls)
    (below : ∀ other ∈ calls, ¬ StrictlyAbove folder other)
    (hidden : ¬ Hidden (RuleSet.gather (heldIn ws root catalog options) base folders)
      folder) :
    Loads ws root catalog options base (calls ++ [folder]) (folders ++ [folder])
      { resolver with
        loaded := resolver.loaded ++ [relText folder]
        rules := resolver.rules ++ heldIn ws root catalog options folder } := by
  refine ⟨h.root_eq, h.catalog_eq, h.options_eq, ?_, h.loaded_concat names, ?_, ?_,
    h.names_concat names, ?_⟩
  · rw [RuleSet.gather_concat, h.rules_eq]
  · refine List.pairwise_append.mpr ⟨h.topDown, List.pairwise_singleton _ _, ?_⟩
    intro other ho last hl hp
    rw [List.mem_singleton.mp hl] at hp
    exact below other (h.called ho)
      (strictlyAbove_iff.mpr ⟨hp, fun he => fresh (he ▸ h.called ho)⟩)
  · intro other ho
    rcases List.mem_append.mp ho with ho | ho
    · exact List.mem_append_left _ (h.called ho)
    · exact List.mem_append_right _ ho
  · intro other ho
    rw [RuleSet.gather_concat]
    rcases List.mem_append.mp ho with hc | hc
    · have hne : other ≠ folder := fun he => fresh (he ▸ hc)
      rw [hidden_concat _ names (h.names other hc) (below other hc), ← h.read_iff other hc]
      simp [hne]
    · rw [List.mem_singleton.mp hc, hidden_concat _ names names fun ha => ha.ne rfl]
      simpa using hidden

theorem Loads.load (h : Loads ws root catalog options base calls folders resolver)
    (active : options.quick = false) {folder : Place} (names : ∀ name ∈ folder, IsName name)
    (behind : ∀ other ∈ calls, StrictlyAbove folder other → folder ∈ calls) :
    ∃ reads, Loads ws root catalog options base (calls ++ [folder]) reads
      (resolver.load ws (relText folder)).resolver := by
  by_cases hm : folder ∈ calls
  · rw [h.load_again hm]
    exact ⟨folders, h.again hm⟩
  · rw [h.load_new active names hm]
    by_cases hidden : Hidden (RuleSet.gather (heldIn ws root catalog options) base folders)
        folder
    · rw [if_pos ((h.ignores_iff names).mpr hidden)]
      exact ⟨folders, h.passOver names hm hidden⟩
    · rw [if_neg fun hi => hidden ((h.ignores_iff names).mp hi)]
      exact ⟨folders ++ [folder], h.read names hm (fun other ho ha => hm (behind other ho ha)) hidden⟩

/-- Without its last call a row of calls is in order, and what the last call is for was called before
anything below it. -/
theorem AncestorsFirst.front {front : List Place} {last : Place}
    (h : AncestorsFirst (front ++ [last])) :
    AncestorsFirst front ∧ ∀ folder ∈ front, StrictlyAbove last folder → last ∈ front := by
  have hturn : ∀ turn, (ht : turn < front.length) → ∀ folder ∈ front ++ [last],
      StrictlyAbove folder front[turn] → folder ∈ front.take turn := by
    intro turn ht folder hf ha
    have hm := h turn (by simp; omega) folder hf
    rw [List.getElem_append_left ht, List.take_append_of_le_length (by omega)] at hm
    exact hm ha
  refine ⟨fun turn ht folder hf => hturn turn ht folder (List.mem_append_left _ hf), ?_⟩
  intro folder hf ha
  obtain ⟨turn, ht, rfl⟩ := List.mem_iff_getElem.mp hf
  exact List.mem_of_mem_take (hturn turn ht last (by simp) ha)

/-- Calls in order leave a resolver that has read the folders that their rules together let through. -/
theorem loads_loadAll (active : options.quick = false)
    (names : ∀ folder ∈ calls, ∀ name ∈ folder, IsName name) (ordered : AncestorsFirst calls) :
    ∃ folders, Loads ws root catalog options base calls folders
      (Resolver.loadAll ws calls { root, catalog, options, rules := base }) := by
  induction calls using List.reverseRecOn with
  | nil => exact ⟨[], Loads.start ws root catalog options base⟩
  | append_singleton front last ih =>
    obtain ⟨hfront, hlast⟩ := ordered.front
    obtain ⟨folders, hloads⟩ := ih (fun folder hf => names folder (List.mem_append_left _ hf)) hfront
    rw [Resolver.loadAll_concat]
    exact hloads.load active (names last (by simp)) hlast

theorem Loads.names_read (h : Loads ws root catalog options base calls folders resolver) :
    ∀ folder ∈ folders, ∀ name ∈ folder, IsName name :=
  fun folder hf => h.names folder (h.called hf)

/-- Which of the folders that were called are read does not depend on the order of the calls. -/
theorem Loads.mem_iff {other : Resolver}
    (h : Loads ws root catalog options base calls folders resolver)
    (h' : Loads ws root catalog options base others reads other)
    (same : ∀ folder, folder ∈ calls ↔ folder ∈ others) (folder : Place) :
    folder ∈ folders ↔ folder ∈ reads := by
  have of_called : ∀ other, (other ∈ calls → (other ∈ folders ↔ other ∈ reads)) →
      (other ∈ folders ↔ other ∈ reads) := by
    intro other hc
    by_cases hm : other ∈ calls
    · exact hc hm
    · exact ⟨fun hf => absurd (h.called hf) hm,
        fun hf => absurd ((same other).mpr (h'.called hf)) hm⟩
  induction hn : folder.length using Nat.strong_induction_on generalizing folder with
  | h n ih =>
    apply of_called
    intro hm
    rw [h.read_iff folder hm, h'.read_iff folder ((same folder).mp hm)]
    refine not_congr (Hidden.congr fun hne => ?_)
    -- The folder is seen from those above it only, which are shorter.
    apply RuleSet.on_gather_eq (reading_within ws root catalog options) h.names_read
      h.topDown h'.topDown
    intro above hs
    apply of_called
    intro ha
    have hlt := (strictlyAbove_of_sees (h.names above ha) (h.names folder hm) hne hs).length_lt
    exact ih above.length (hn ▸ hlt) above rfl

theorem loadAll_quick (hq : resolver.options.quick = true) : resolver.loadAll ws calls = resolver := by
  induction calls with
  | nil => rfl
  | cons folder rest ih =>
    have hload : (resolver.load ws (relText folder)).resolver = resolver := by
      rw [Resolver.load, if_pos (by simp [hq])]
    rw [Resolver.loadAll, List.foldl_cons, hload]
    exact ih

theorem fresh_eq {fresh : Resolver} (started : (Resolver.start root catalog options).2 = .ok fresh) :
    ∃ base, fresh = { root, catalog, options, rules := base } := by
  simp only [Resolver.start] at started
  cases hb : (Resolver.builtin catalog options).2 with
  | error e => simp [hb, Except.map] at started
  | ok base =>
    simp only [hb, Except.map, Except.ok.injEq] at started
    exact ⟨base, started.symm⟩

/-- Calls that load the same folders, each behind those above it, leave resolvers that say the same of
every path, whatever their order and however often they repeat a folder. -/
theorem loadAll_confluent {fresh : Resolver}
    (started : (Resolver.start root catalog options).2 = .ok fresh)
    (names : ∀ folder ∈ calls, ∀ name ∈ folder, IsName name)
    (ordered : AncestorsFirst calls) (ordered' : AncestorsFirst others)
    (same : ∀ folder, folder ∈ calls ↔ folder ∈ others) (path : String) :
    AnswerAlike (fresh.loadAll ws calls) (fresh.loadAll ws others) path := by
  obtain ⟨base, rfl⟩ := fresh_eq started
  apply AnswerAlike.of_on
  cases hq : options.quick with
  | true => rw [loadAll_quick hq, loadAll_quick hq]
  | false =>
    have names' : ∀ folder ∈ others, ∀ name ∈ folder, IsName name :=
      fun folder hf => names folder ((same folder).mpr hf)
    obtain ⟨folders, h⟩ : ∃ folders, Loads ws root catalog options base calls folders
        (Resolver.loadAll ws calls { root, catalog, options, rules := base }) :=
      loads_loadAll hq names ordered
    obtain ⟨reads, h'⟩ : ∃ folders, Loads ws root catalog options base others folders
        (Resolver.loadAll ws others { root, catalog, options, rules := base }) :=
      loads_loadAll hq names' ordered'
    rw [h.rules_eq, h'.rules_eq]
    exact RuleSet.on_gather_eq (reading_within ws root catalog options) h.names_read h.topDown
      h'.topDown fun folder _ => h.mem_iff h' same folder

end

theorem loadAll_confluent_siblings :
    let ws : Workspace := ⟨.folder [(".gitignore", .file "b/".toUTF8),
      ("a", .folder [(".gitignore", .file "*.c".toUTF8)]),
      ("b", .folder [(".gitattributes", .file "*.h binary".toUTF8)])], []⟩
    let root : Path := ⟨"", []⟩
    let catalog := Catalog.ofLanguages [] List.nodup_nil "empty"
    let fresh : Resolver := { root, catalog, options := {}, rules := {} }
    let calls : List Place := [[], ["a"], ["b"]]
    let others : List Place := [[], ["b"], ["a"], ["b"]]
    (Resolver.start root catalog {}).2 = .ok fresh ∧
      (∀ folder ∈ calls, ∀ name ∈ folder, IsName name) ∧ AncestorsFirst calls ∧
      AncestorsFirst others ∧ (∀ folder, folder ∈ calls ↔ folder ∈ others) ∧
      ∀ path, AnswerAlike (fresh.loadAll ws calls) (fresh.loadAll ws others) path := by
  intro ws root catalog fresh calls others
  have started : (Resolver.start root catalog {}).2 = .ok fresh := rfl
  have names : ∀ folder ∈ calls, ∀ name ∈ folder, IsName name := by
    simp [calls, IsName]
  have ordered : AncestorsFirst calls := by decide
  have ordered' : AncestorsFirst others := by decide
  have same : ∀ folder, folder ∈ calls ↔ folder ∈ others := by
    intro folder
    simp only [calls, others, List.mem_cons, List.not_mem_nil, or_false]
    tauto
  exact ⟨started, names, ordered, ordered', same,
    loadAll_confluent started names ordered ordered' same⟩

end Polyglot
