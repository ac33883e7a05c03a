import Polyglot.Proofs.LoadOrders
import Polyglot.Proofs.Overlaps

namespace Polyglot

open Polyglot.Files

/-- What is left of a resolver after folders were loaded, given by their paths. -/
def Resolver.loadFolders (ws : Workspace) (folders : List String) (resolver : Resolver) : Resolver :=
  folders.foldl (fun resolver folder => (resolver.load ws folder).resolver) resolver

theorem Resolver.loadFolders_concat (ws : Workspace) (folders : List String) (folder : String)
    (resolver : Resolver) :
    resolver.loadFolders ws (folders ++ [folder]) =
      ((resolver.loadFolders ws folders).load ws folder).resolver := by
  rw [loadFolders, List.foldl_append]
  rfl

/-- A resolver was started at a root and has loaded folders since. -/
def Resolver.StartedAt (ws : Workspace) (catalog : Catalog) (options : Options) (root : Path)
    (resolver : Resolver) : Prop :=
  ∃ fresh folders, (Resolver.start root catalog options).2 = .ok fresh ∧
    resolver = fresh.loadFolders ws folders

theorem Resolver.StartedAt.load {ws : Workspace} {catalog : Catalog} {options : Options} {root : Path}
    {resolver : Resolver} (h : resolver.StartedAt ws catalog options root) (folder : String) :
    (resolver.load ws folder).resolver.StartedAt ws catalog options root := by
  obtain ⟨fresh, folders, started, rfl⟩ := h
  exact ⟨fresh, folders ++ [folder], started, (loadFolders_concat ws folders folder fresh).symm⟩

namespace Files.Visitor

theorem Keeps.walk_any {σ : Type} {visitor : Visitor σ} {keeps : σ → Prop} (h : visitor.Keeps keeps) :
    ∀ folder listing state, keeps state → keeps (Files.walk visitor folder listing state) := by
  refine Files.walk.induct visitor
    (fun folder listing state => keeps state → keeps (Files.walk visitor folder listing state))
    (fun folder folders entered state =>
      keeps state → keeps (Files.walkInto visitor folder folders entered state)) ?_ ?_ ?_ ?_
  · intro folder files folders state _ entered next hask ih hs
    have hnext := h.askAll folder folders (h.enter folder files state hs)
    rw [Files.walk]
    rw [hask] at hnext ⊢
    exact ih hnext
  · intro folder name listing rest entered state ihBelow ihRest hs
    rw [Files.walkInto]
    exact ihRest (ihBelow hs)
  · intro folder head rest go entered state hnot ih hs
    rw [Files.walkInto]
    · exact ih hs
    · exact hnot
  · intro folders folder entered state hnot hnone hs
    rw [Files.walkInto]
    · exact hs
    · exact hnot
    · exact hnone

end Files.Visitor

namespace Analysis

variable {ws : Workspace} {catalog : Catalog} {options : Options} {paths : List Path}

theorem treeVisitor_keeps {root : Path} : (treeVisitor ws).Keeps fun state =>
    state.resolver.StartedAt ws catalog options root where
  enter folder files state h := by
    change (TreeWalk.enter ws folder files state).resolver.StartedAt ws catalog options root
    unfold TreeWalk.enter
    split
    · exact h
    · exact h.load folder
  skips folder state h := by
    change (TreeWalk.skips folder state).2.resolver.StartedAt ws catalog options root
    unfold TreeWalk.skips
    split
    · exact h
    · exact h

/-- Rules are those of a resolver that was started at a root. -/
def RulesFrom (ws : Workspace) (catalog : Catalog) (options : Options) (root : Path)
    (rules : RuleSet) : Prop :=
  ∃ resolver : Resolver, resolver.StartedAt ws catalog options root ∧ rules = resolver.rules

theorem resolveTree_from {root : Path} {entries : List Entry}
    (h : (resolveTree ws catalog options root).2 = .ok entries) :
    ∀ entry ∈ entries, entry.path = root ++ Path.ofText entry.rel ∧
      RulesFrom ws catalog options root entry.rules := by
  unfold resolveTree at h
  split at h
  · cases h
  · rename_i journal fresh hstart
    split at h
    · cases h
      simp
    · rename_i listing _
      have started : fresh.StartedAt ws catalog options root := ⟨fresh, [], by rw [hstart], rfl⟩
      have done := treeVisitor_keeps.walk_any "" listing { resolver := fresh } started
      simp only at h
      split at h
      · cases h
      · cases h
        intro entry hm
        obtain ⟨rel, _, rfl⟩ := List.mem_map.mp hm
        exact ⟨rfl, _, done, rfl⟩

theorem loadAbove_started {root : Path} {path : String} {folders : List String}
    {resolver last : Resolver} {reached : Bool} (h : resolver.StartedAt ws catalog options root)
    (ok : (loadAbove ws path folders resolver).2 = .ok (last, reached)) :
    last.StartedAt ws catalog options root := by
  induction folders generalizing resolver with
  | nil =>
    cases ok
    exact h
  | cons folder rest ih =>
    simp only [loadAbove] at ok
    split at ok
    · cases ok
      exact h
    · split at ok
      · cases ok
      · exact ih (h.load folder) ok

/-- A file at a place has a path below a root. -/
def Lies (ws : Workspace) (root : Place) (path : Path) (rel : String) : Prop :=
  ∃ place, ws.locate path = .ok place ∧ rel = "/".intercalate (place.drop root.length)

theorem resolveFile_from {root : Path} {shared : Place} {path : Path} {resolver last : Resolver}
    {found : Option String} (h : resolver.StartedAt ws catalog options root)
    (ok : (resolveFile ws shared path resolver).2 = .ok (last, found)) :
    last.StartedAt ws catalog options root ∧ ∀ rel ∈ found, Lies ws shared path rel := by
  unfold resolveFile at ok
  split at ok
  · cases ok
    exact ⟨h, by simp⟩
  · rename_i place located
    simp only at ok
    split at ok
    · cases ok
    · rename_i journal reached habove
      cases ok
      exact ⟨loadAbove_started h (congrArg Prod.snd habove), by simp⟩
    · rename_i journal reached habove
      have hreached := loadAbove_started h (congrArg Prod.snd habove)
      split at ok
      · cases ok
        exact ⟨hreached, by simp⟩
      · cases ok
        refine ⟨hreached, ?_⟩
        rintro rel ⟨⟩
        exact ⟨place, located, rfl⟩

/-- Where what is found of some inputs comes from. Files are found only if there is a resolver for
them. -/
inductive Found.From (ws : Workspace) (catalog : Catalog) (options : Options) (shared : Place)
    (present : Bool) (paths : List Path) : Found → Prop where
  | inTree {root : Path} {entry : Entry} (asked : root ∈ paths)
      (path_eq : entry.path = root ++ Path.ofText entry.rel)
      (rules : RulesFrom ws catalog options root entry.rules) :
      Found.From ws catalog options shared present paths (.inTree entry)
  | file {path : Path} {rel : String} (asked : path ∈ paths) (lies : Lies ws shared path rel)
      (found : present = true) :
      Found.From ws catalog options shared present paths (.file path.text rel path)

theorem Found.From.cons {shared : Place} {present : Bool} {found : Found}
    (h : found.From ws catalog options shared present paths) (path : Path) :
    found.From ws catalog options shared present (path :: paths) := by
  cases h with
  | inTree asked path_eq rules => exact .inTree (List.mem_cons_of_mem _ asked) path_eq rules
  | file asked lies found => exact .file (List.mem_cons_of_mem _ asked) lies found

theorem foundBefore_eq_ok {before found : List Found} {last : Option Resolver}
    {others : Journal × Except ResolveError (List Found × Option Resolver)} {journal : Journal}
    (h : (foundBefore before others journal).2 = .ok (found, last)) :
    ∃ behind, others.2 = .ok (behind, last) ∧ found = before ++ behind := by
  simp only [foundBefore] at h
  cases ho : others.2 with
  | error e => simp [ho, Except.map] at h
  | ok rest =>
    obtain ⟨behind, resolver⟩ := rest
    simp only [ho, Except.map, Except.ok.injEq, Prod.mk.injEq] at h
    obtain ⟨rfl, rfl⟩ := h
    exact ⟨behind, rfl, rfl⟩

theorem resolveEach_from {root : Path} {shared : Place} {resolver last : Option Resolver}
    {found : List Found} (h : ∀ known ∈ resolver, known.StartedAt ws catalog options root)
    (ok : (resolveEach ws catalog options shared paths resolver).2 = .ok (found, last)) :
    (∀ known ∈ last, known.StartedAt ws catalog options root) ∧ last.isSome = resolver.isSome ∧
      ∀ item ∈ found, item.From ws catalog options shared resolver.isSome paths := by
  induction paths generalizing resolver found with
  | nil =>
    cases ok
    exact ⟨h, rfl, by simp⟩
  | cons path rest ih =>
    by_cases hf : ws.hasFolder path = .ok true
    · rw [resolveEach_folder hf] at ok
      split at ok
      · cases ok
      · rename_i journal entries htree
        obtain ⟨behind, hothers, rfl⟩ := foundBefore_eq_ok ok
        obtain ⟨hlast, hpresent, hbehind⟩ := ih h hothers
        refine ⟨hlast, hpresent, fun item hm => ?_⟩
        rcases List.mem_append.mp hm with hm | hm
        · obtain ⟨entry, he, rfl⟩ := List.mem_map.mp hm
          obtain ⟨path_eq, rules⟩ := resolveTree_from (congrArg Prod.snd htree) entry he
          exact .inTree List.mem_cons_self path_eq rules
        · exact (hbehind item hm).cons path
    · rw [resolveEach_named hf] at ok
      cases resolver with
      | none =>
        obtain ⟨behind, hothers, rfl⟩ := foundBefore_eq_ok ok
        obtain ⟨hlast, hpresent, hbehind⟩ := ih h hothers
        exact ⟨hlast, hpresent, fun item hm => (hbehind item hm).cons path⟩
      | some known =>
        simp only at ok
        split at ok
        · cases ok
        · rename_i journal reached rel hfile
          obtain ⟨hreached, hlies⟩ := resolveFile_from (h known rfl) (congrArg Prod.snd hfile)
          obtain ⟨behind, hothers, rfl⟩ := foundBefore_eq_ok ok
          have hknown : ∀ other ∈ some reached, other.StartedAt ws catalog options root := by
            rintro other ⟨⟩
            exact hreached
          obtain ⟨hlast, hpresent, hbehind⟩ := ih hknown hothers
          refine ⟨hlast, hpresent, fun item hm => ?_⟩
          rcases List.mem_append.mp hm with hm | hm
          · obtain ⟨rel, hrel, rfl⟩ := Option.map_eq_some_iff.mp (Option.mem_toList.mp hm)
            exact .file List.mem_cons_self (hlies rel hrel) rfl
          · exact (hbehind item hm).cons path

/-- The root that the files among some inputs share. -/
def sharedRoot (ws : Workspace) (paths : List Path) : Place :=
  let files := paths.filter fun path => match ws.hasFolder path with
    | .ok folder => !folder
    | .error _ => true
  fileRoot ws.here (files.filterMap fun path => (ws.locate path).toOption)

/-- The root of the resolver whose rules an entry has. -/
inductive RootOf (ws : Workspace) (paths : List Path) (entry : Entry) : Path → Prop where
  | folder {root : Path} (asked : root ∈ paths)
      (path_eq : entry.path = root ++ Path.ofText entry.rel) : RootOf ws paths entry root
  | shared (asked : entry.path ∈ paths) (lies : Lies ws (sharedRoot ws paths) entry.path entry.rel) :
      RootOf ws paths entry (Workspace.absolute (sharedRoot ws paths))

theorem mem_of_firstOfEachKey {entries : List Entry} {entry : Entry}
    (h : entry ∈ firstOfEachKey entries) : entry ∈ entries :=
  List.mem_of_find?_eq_some (find?_of_firstOfEachKey h)

theorem Found.From.entry_rules {found : Found} {rules : RuleSet} {present : Bool}
    (h : found.From ws catalog options (sharedRoot ws paths) present paths)
    (shared : present = true →
      RulesFrom ws catalog options (Workspace.absolute (sharedRoot ws paths)) rules) :
    ∃ root, RootOf ws paths (found.entry rules) root ∧
      RulesFrom ws catalog options root (found.entry rules).rules := by
  cases h with
  | inTree asked path_eq rules => exact ⟨_, .folder asked path_eq, rules⟩
  | file asked lies found => exact ⟨_, .shared asked lies, shared found⟩

theorem startedAt_of_start {root : Path} {shared : Option Resolver}
    (h : (Resolver.start root catalog options).2.map some = .ok shared) :
    ∀ known ∈ shared, known.StartedAt ws catalog options root := by
  cases hs : (Resolver.start root catalog options).2 with
  | error e => simp [hs, Except.map] at h
  | ok fresh =>
    simp only [hs, Except.map, Except.ok.injEq] at h
    subst h
    rintro known ⟨⟩
    exact ⟨fresh, [], hs, rfl⟩

/-- Every entry has the rules of a resolver that was started at its root and has loaded folders. -/
theorem resolveInputs_from {entries : List Entry}
    (ok : (resolveInputs ws catalog options paths).2 = .ok entries) :
    ∀ entry ∈ entries, ∃ root, RootOf ws paths entry root ∧
      RulesFrom ws catalog options root entry.rules := by
  simp only [resolveInputs] at ok
  split at ok
  · cases ok
  · split at ok
    · cases ok
    · rename_i shared hstart
      split at ok
      · cases ok
      · rename_i journal found last heach
        cases ok
        have started : ∀ known ∈ shared,
            known.StartedAt ws catalog options (Workspace.absolute (sharedRoot ws paths)) := by
          split at hstart
          · cases hstart
            simp
          · exact startedAt_of_start hstart
        obtain ⟨hlast, hpresent, hfound⟩ := resolveEach_from started (congrArg Prod.snd heach)
        intro entry hm
        obtain ⟨item, hitem, rfl⟩ := List.mem_map.mp (mem_of_firstOfEachKey hm)
        refine (hfound item hitem).entry_rules fun hsome => ?_
        rw [← hpresent] at hsome
        obtain ⟨known, rfl⟩ := Option.isSome_iff_exists.mp hsome
        exact ⟨known, hlast known rfl, rfl⟩

end Analysis

end Polyglot
