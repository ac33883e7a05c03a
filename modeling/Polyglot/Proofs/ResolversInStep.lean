import Polyglot.Proofs.Runs

namespace Polyglot

open Polyglot.Files

namespace Files

variable {σ τ : Type} {visitor : Visitor σ} {other : Visitor τ} {related : σ → τ → Prop}

/-- Two visitors skip the same folders and leave related states related. -/
structure InStep (visitor : Visitor σ) (other : Visitor τ) (related : σ → τ → Prop) : Prop where
  enter : ∀ {state state'}, related state state' → ∀ folder files,
    related (visitor.enter folder files state) (other.enter folder files state')
  skips : ∀ {state state'}, related state state' → ∀ folder,
    (other.skips folder state').1 = (visitor.skips folder state).1 ∧
      related (visitor.skips folder state).2 (other.skips folder state').2

theorem InStep.askAll (h : InStep visitor other related) (folder : String)
    (folders : List (String × Option Listing)) {state : σ} {state' : τ} (hs : related state state') :
    (Files.askAll other folder folders state').1 = (Files.askAll visitor folder folders state).1 ∧
      related (Files.askAll visitor folder folders state).2
        (Files.askAll other folder folders state').2 := by
  induction folders generalizing state state' with
  | nil => exact ⟨rfl, hs⟩
  | cons entry rest ih =>
    rw [Files.askAll, Files.askAll]
    split
    · obtain ⟨hsame, hrest⟩ := ih hs
      exact ⟨congrArg _ hsame, hrest⟩
    · obtain ⟨hskips, hnext⟩ := h.skips hs (below folder entry.1)
      obtain ⟨hsame, hrest⟩ := ih hnext
      exact ⟨by simp only [hskips, hsame], hrest⟩

mutual

theorem InStep.walk (h : InStep visitor other related) :
    ∀ (listing : Listing) (folder : String) {state : σ} {state' : τ}, related state state' →
      related (Files.walk visitor folder listing state) (Files.walk other folder listing state')
  | .mk files folders, folder, state, state', hs => by
    rw [Files.walk, Files.walk]
    obtain ⟨hsame, hnext⟩ := h.askAll folder folders (h.enter hs folder files)
    simp only [hsame]
    exact InStep.walkInto h folders folder _ hnext

theorem InStep.walkInto (h : InStep visitor other related) :
    ∀ (folders : List (String × Option Listing)) (folder : String) (entered : List Bool) {state : σ}
      {state' : τ}, related state state' →
        related (Files.walkInto visitor folder folders entered state)
          (Files.walkInto other folder folders entered state')
  | [], folder, entered, state, state', hs => by simpa only [Files.walkInto] using hs
  | (name, none) :: rest, folder, [], state, state', hs => by simpa only [Files.walkInto] using hs
  | (name, some listing) :: rest, folder, [], state, state', hs => by
    simpa only [Files.walkInto] using hs
  | (name, none) :: rest, folder, go :: entered, state, state', hs => by
    simp only [Files.walkInto]
    exact InStep.walkInto h rest folder entered hs
  | (name, some listing) :: rest, folder, false :: entered, state, state', hs => by
    simp only [Files.walkInto]
    exact InStep.walkInto h rest folder entered hs
  | (name, some listing) :: rest, folder, true :: entered, state, state', hs => by
    rw [Files.walkInto, Files.walkInto]
    exact InStep.walkInto h rest folder entered (InStep.walk h listing _ hs)

end

end Files

/-- Two outcomes are the same error, or values that are related. -/
inductive Agree {ε α β : Type} (related : α → β → Prop) : Except ε α → Except ε β → Prop
  | ok {value : α} {value' : β} (h : related value value') : Agree related (.ok value) (.ok value')
  | error (e : ε) : Agree related (.error e) (.error e)

namespace Analysis

variable {ws : Workspace} {catalog : Catalog} {options others : Options}
  {related : Resolver → Resolver → Prop} {resolver other : Resolver}

/-- Resolvers by different options that are related at the start and when both have read a folder,
and have the same rules while they are related. -/
structure ResolversInStep (ws : Workspace) (catalog : Catalog) (options others : Options)
    (related : Resolver → Resolver → Prop) : Prop where
  builtin : (Resolver.builtin catalog others).2 = (Resolver.builtin catalog options).2
  start : ∀ root rules, related { root, catalog, options, rules } { root, catalog, options := others, rules }
  rules : ∀ {resolver other}, related resolver other → other.rules = resolver.rules
  load : ∀ {resolver other}, related resolver other → ∀ folder,
    (other.load ws folder).fault = (resolver.load ws folder).fault ∧
      related (resolver.load ws folder).resolver (other.load ws folder).resolver

namespace ResolversInStep

theorem starts (h : ResolversInStep ws catalog options others related) (root : Path) :
    Agree related (Resolver.start root catalog options).2 (Resolver.start root catalog others).2 := by
  simp only [Resolver.start, h.builtin]
  cases (Resolver.builtin catalog options).2 with
  | error e => exact .error e
  | ok rules => exact .ok (h.start root rules)

theorem ignores_eq (h : ResolversInStep ws catalog options others related)
    (hr : related resolver other) (path : String) : other.ignores path = resolver.ignores path := by
  rw [Resolver.ignores, Resolver.ignores, Resolver.exclusion?, Resolver.exclusion?, h.rules hr]

/-- Walks with related resolvers that have found the same. -/
structure WalksInStep (related : Resolver → Resolver → Prop) (state state' : TreeWalk) : Prop where
  resolver : related state.resolver state'.resolver
  found : state'.found = state.found
  fault : state'.fault = state.fault

theorem visitors (h : ResolversInStep ws catalog options others related) :
    InStep (treeVisitor ws) (treeVisitor ws) (WalksInStep related) := by
  refine ⟨fun {state state'} hs folder files => ?_, fun {state state'} hs folder => ?_⟩
  · change WalksInStep related (TreeWalk.enter ws folder files state)
      (TreeWalk.enter ws folder files state')
    rw [TreeWalk.enter, TreeWalk.enter, hs.fault]
    split
    · exact hs
    · obtain ⟨hfault, hnext⟩ := h.load hs.resolver folder
      -- Files are tested with the rules after the folder was read.
      refine ⟨hnext, ?_, hfault⟩
      simp only [hs.found, hfault, h.ignores_eq hnext]
  · change (TreeWalk.skips folder state').1 = (TreeWalk.skips folder state).1 ∧
      WalksInStep related (TreeWalk.skips folder state).2 (TreeWalk.skips folder state').2
    rw [TreeWalk.skips, TreeWalk.skips, hs.fault]
    split
    · exact ⟨rfl, hs⟩
    · exact ⟨h.ignores_eq hs.resolver _, hs.resolver, hs.found, rfl⟩

theorem resolveTree_eq (h : ResolversInStep ws catalog options others related) (root : Path) :
    (resolveTree ws catalog others root).2 = (resolveTree ws catalog options root).2 := by
  have hstarts := h.starts root
  rw [resolveTree, resolveTree]
  generalize Resolver.start root catalog options = started at hstarts ⊢
  generalize Resolver.start root catalog others = started' at hstarts ⊢
  obtain ⟨journal, started⟩ := started
  obtain ⟨journal', started'⟩ := started'
  cases (hstarts : Agree related started started') with
  | error e => rfl
  | @ok resolver other hr =>
    simp only
    cases ws.listing root with
    | error e => rfl
    | ok listing =>
      have hstart : WalksInStep related { resolver } { resolver := other } := ⟨hr, rfl, rfl⟩
      have hwalk := h.visitors.walk listing "" hstart
      simp only [hwalk.fault, hwalk.found, h.rules hwalk.resolver]
      split <;> rfl

theorem loadAbove_agree (h : ResolversInStep ws catalog options others related) (path : String)
    (folders : List String) (hr : related resolver other) :
    Agree (fun reached reached' => related reached.1 reached'.1 ∧ reached'.2 = reached.2)
      (loadAbove ws path folders resolver).2 (loadAbove ws path folders other).2 := by
  induction folders generalizing resolver other with
  | nil => exact .ok ⟨hr, rfl⟩
  | cons folder rest ih =>
    rw [loadAbove, loadAbove, h.ignores_eq hr]
    split
    · exact .ok ⟨hr, rfl⟩
    · obtain ⟨hfault, hnext⟩ := h.load hr folder
      simp only [hfault]
      split
      · exact .error _
      · exact ih hnext

theorem resolveFile_agree (h : ResolversInStep ws catalog options others related) (root : Place)
    (path : Path) (hr : related resolver other) :
    Agree (fun taken taken' => related taken.1 taken'.1 ∧ taken'.2 = taken.2)
      (resolveFile ws root path resolver).2 (resolveFile ws root path other).2 := by
  rw [resolveFile, resolveFile]
  cases ws.locate path with
  | error e => exact .ok ⟨hr, rfl⟩
  | ok place =>
    have habove := h.loadAbove_agree path.text (foldersAbove (place.drop root.length)) hr
    simp only
    generalize loadAbove ws path.text (foldersAbove (place.drop root.length)) resolver = outcome
      at habove ⊢
    generalize loadAbove ws path.text (foldersAbove (place.drop root.length)) other = outcome'
      at habove ⊢
    obtain ⟨journal, outcome⟩ := outcome
    obtain ⟨journal', outcome'⟩ := outcome'
    cases (habove : Agree _ outcome outcome') with
    | error e => exact .error e
    | @ok reached reached' hreached =>
      obtain ⟨last, before⟩ := reached
      obtain ⟨last', passed⟩ := reached'
      obtain ⟨hlast, rfl⟩ : related last last' ∧ passed = before := hreached
      cases passed with
      | false => exact .ok ⟨hlast, rfl⟩
      | true =>
        simp only [h.ignores_eq hlast]
        split <;> exact .ok ⟨hlast, rfl⟩

/-- What is found is the same, and the resolvers that files share are related. -/
def FindsAlike (related : Resolver → Resolver → Prop) :
    Except ResolveError (List Found × Option Resolver) →
      Except ResolveError (List Found × Option Resolver) → Prop :=
  Agree fun found found' => found'.1 = found.1 ∧ Option.Rel related found.2 found'.2

theorem FindsAlike.before {found found' : Journal × Except ResolveError (List Found × Option Resolver)}
    (h : FindsAlike related found.2 found'.2) (first : List Found) (journal journal' : Journal) :
    FindsAlike related (foundBefore first found journal).2 (foundBefore first found' journal').2 := by
  rw [foundBefore, foundBefore]
  generalize found.2 = outcome at h ⊢
  generalize found'.2 = outcome' at h ⊢
  cases h with
  | error e => exact .error e
  | ok h => exact .ok ⟨congrArg (first ++ ·) h.1, h.2⟩

theorem resolveEach_agree (h : ResolversInStep ws catalog options others related) (root : Place)
    (paths : List Path) {shared shared' : Option Resolver} (hs : Option.Rel related shared shared') :
    FindsAlike related (resolveEach ws catalog options root paths shared).2
      (resolveEach ws catalog others root paths shared').2 := by
  induction paths generalizing shared shared' with
  | nil => exact .ok ⟨rfl, hs⟩
  | cons path rest ih =>
    by_cases hf : ws.hasFolder path = .ok true
    · rw [resolveEach_folder hf, resolveEach_folder hf]
      have htree := h.resolveTree_eq path
      generalize resolveTree ws catalog options path = resolved at htree ⊢
      generalize resolveTree ws catalog others path = resolved' at htree ⊢
      obtain ⟨journal, resolved⟩ := resolved
      obtain ⟨journal', resolved'⟩ := resolved'
      obtain rfl : resolved' = resolved := htree
      cases resolved' with
      | error e => exact .error e
      | ok entries => exact (ih hs).before _ _ _
    · rw [resolveEach_named hf, resolveEach_named hf]
      cases hs with
      | none => exact (ih .none).before _ _ _
      | @some resolver other hr =>
        have hfile := h.resolveFile_agree root path hr
        simp only
        generalize resolveFile ws root path resolver = taken at hfile ⊢
        generalize resolveFile ws root path other = taken' at hfile ⊢
        obtain ⟨journal, taken⟩ := taken
        obtain ⟨journal', taken'⟩ := taken'
        cases (hfile : Agree _ taken taken') with
        | error e => exact .error e
        | @ok taken taken' htaken =>
          obtain ⟨next, rel⟩ := taken
          obtain ⟨next', rel'⟩ := taken'
          obtain ⟨hnext, rfl⟩ : related next next' ∧ rel' = rel := htaken
          exact (ih (.some hnext)).before _ _ _

/-- The entries that are made in the end of what was found, with the rules that files share. -/
def entriesOf (starting : Journal) (found : Journal × Except ResolveError (List Found × Option Resolver)) :
    Journal × Except ResolveError (List Entry) :=
  match found with
  | (journal, .error e) => (starting ++ journal, .error e)
  | (journal, .ok (found, shared)) =>
    let rules := (shared.map Resolver.rules).getD {}
    (starting ++ journal, .ok (firstOfEachKey (found.map (Found.entry rules))))

theorem entriesOf_eq (h : ResolversInStep ws catalog options others related)
    {found found' : Journal × Except ResolveError (List Found × Option Resolver)}
    (hf : FindsAlike related found.2 found'.2) (starting starting' : Journal) :
    (entriesOf starting' found').2 = (entriesOf starting found).2 := by
  obtain ⟨journal, found⟩ := found
  obtain ⟨journal', found'⟩ := found'
  cases (hf : FindsAlike related found found') with
  | error e => rfl
  | @ok found found' hf =>
    obtain ⟨found, shared⟩ := found
    obtain ⟨others, shared'⟩ := found'
    obtain ⟨rfl, hshared⟩ : others = found ∧ Option.Rel related shared shared' := hf
    have hrules : shared'.map Resolver.rules = shared.map Resolver.rules := by
      cases hshared with
      | none => rfl
      | some hr => exact congrArg some (h.rules hr)
    simp only [entriesOf, hrules]

/-- Analyses with resolvers in step take up the same files. -/
theorem resolveInputs_eq (h : ResolversInStep ws catalog options others related) (paths : List Path) :
    (resolveInputs ws catalog others paths).2 = (resolveInputs ws catalog options paths).2 := by
  simp only [resolveInputs]
  cases firstMissing? ws paths with
  | some e => rfl
  | none =>
    simp only
    generalize (paths.filter _).isEmpty = nameless
    generalize fileRoot ws.here _ = root
    cases nameless with
    | true => exact h.entriesOf_eq (h.resolveEach_agree root paths .none) _ _
    | false =>
      have hstarts := h.starts (Workspace.absolute root)
      generalize Resolver.start (Workspace.absolute root) catalog options = started at hstarts ⊢
      generalize Resolver.start (Workspace.absolute root) catalog others = started' at hstarts ⊢
      obtain ⟨journal, started⟩ := started
      obtain ⟨journal', started'⟩ := started'
      cases (hstarts : Agree related started started') with
      | error e => rfl
      | ok hr => exact h.entriesOf_eq (h.resolveEach_agree root paths (.some hr)) _ _

end ResolversInStep

end Analysis

end Polyglot
