import Polyglot.Proofs.LinkedFolders

/-!
What a walk does, call by call, whatever its visitor makes of the calls.

A visitor may answer from what it has seen so far. The answers of one walk still are the answers of a test
of the folders alone, since no folder is asked for twice. So the walk makes the moves that are known for
that test: it enters a folder as soon as it goes there, asks for all folders in it, and then goes into
those that are not rejected, in the order of their names.
-/
namespace Polyglot.Files

variable {σ : Type}

/-- A call of a walk: a folder is entered with its files, or its visitor is asked whether to skip a folder
and answers. -/
inductive Call (Folder : Type) where
  | enter (folder : Folder) (files : List String)
  | ask (folder : Folder) (skipped : Bool)

namespace Call

/-- The call as the visitor gets it. -/
def text : Call Place → Call String
  | enter folder files => .enter (relText folder) files
  | ask folder skipped => .ask (relText folder) skipped

def entered : Call Place → List Place
  | enter folder _ => [folder]
  | ask _ _ => []

def asked : Call Place → List Place
  | enter _ _ => []
  | ask folder _ => [folder]

end Call

/-- The folders that calls enter, in order. -/
def enteredIn (calls : List (Call Place)) : List Place := calls.flatMap Call.entered

/-- The folders that calls ask for, in order. -/
def askedIn (calls : List (Call Place)) : List Place := calls.flatMap Call.asked

theorem mem_askedIn {calls : List (Call Place)} {folder : Place} :
    folder ∈ askedIn calls ↔ ∃ skipped, .ask folder skipped ∈ calls := by
  rw [askedIn, List.mem_flatMap]
  constructor
  · rintro ⟨call, hm, hf⟩
    cases call with
    | enter other files => simp [Call.asked] at hf
    | ask other skipped =>
      obtain rfl : folder = other := by simpa [Call.asked] using hf
      exact ⟨skipped, hm⟩
  · rintro ⟨skipped, hm⟩
    exact ⟨_, hm, by simp [Call.asked]⟩

/-- The call that is made by a move where some folders are rejected. -/
def Move.call (rejects : Place → Bool) : Move → Call Place
  | .enter folder files => .enter folder files
  | .ask folder => .ask folder (rejects folder)

/-- A visitor that also writes down its calls. -/
def Visitor.recording (visitor : Visitor σ) : Visitor (σ × List (Call String)) where
  enter folder files state := (visitor.enter folder files state.1, state.2 ++ [.enter folder files])
  skips folder state :=
    let (skipped, after) := visitor.skips folder state.1
    (skipped, after, state.2 ++ [.ask folder skipped])

namespace Visitor

variable {visitor : Visitor σ} {rejects other : Place → Bool}

/-- Along moves the visitor answers what is known beforehand. -/
def Follows (visitor : Visitor σ) (rejects : Place → Bool) (row : List Move) (state : σ) : Prop :=
  visitor.Answers rejects (fun _ => False) row state

theorem keeps_never : visitor.Keeps fun _ => False := ⟨fun _ _ _ h => h, fun _ _ h => h⟩

theorem follows_ask {folder : Place} {row : List Move} {state : σ} :
    visitor.Follows rejects (.ask folder :: row) state ↔
      (visitor.skips (relText folder) state).1 = rejects folder ∧
        visitor.Follows rejects row (visitor.act state (.ask folder)) := by
  simp [Follows, Answers]

theorem Follows.congr {row : List Move} {state : σ} (h : visitor.Follows rejects row state)
    (same : ∀ folder, .ask folder ∈ row → other folder = rejects folder) :
    visitor.Follows other row state := by
  induction row generalizing state with
  | nil => trivial
  | cons move rest ih =>
    have hsame : ∀ folder, .ask folder ∈ rest → other folder = rejects folder :=
      fun folder hm => same folder (List.mem_cons_of_mem _ hm)
    cases move with
    | enter folder files =>
      have hrest : visitor.Follows rejects rest (visitor.act state (.enter folder files)) := h
      exact ih hrest hsame
    | ask folder =>
      obtain ⟨hanswer, hrest⟩ := follows_ask.mp h
      exact follows_ask.mpr ⟨hanswer.trans (same folder List.mem_cons_self).symm, ih hrest hsame⟩

theorem foldl_recording {row : List Move} {state : σ} (h : visitor.Follows rejects row state)
    (record : List (Call String)) :
    visitor.recording.Follows rejects row (state, record) ∧
      row.foldl visitor.recording.act (state, record) =
        (row.foldl visitor.act state, record ++ row.map fun move => (move.call rejects).text) := by
  induction row generalizing state record with
  | nil => exact ⟨trivial, by simp⟩
  | cons move rest ih =>
    cases move with
    | enter folder files =>
      have hfollows : visitor.Follows rejects rest (visitor.act state (.enter folder files)) := h
      have hrest := ih hfollows (record ++ [.enter (relText folder) files])
      refine ⟨hrest.1, hrest.2.trans ?_⟩
      simp [Move.call, Call.text]
    | ask folder =>
      obtain ⟨hanswer, hfollows⟩ := follows_ask.mp h
      have hrest := ih hfollows (record ++ [.ask (relText folder) (rejects folder)])
      have hact : visitor.recording.act (state, record) (.ask folder) =
          (visitor.act state (.ask folder), record ++ [.ask (relText folder) (rejects folder)]) := by
        simp [act, recording, ← hanswer]
      rw [follows_ask, List.foldl_cons, hact]
      refine ⟨⟨hanswer, hrest.1⟩, hrest.2.trans ?_⟩
      simp [Move.call, Call.text]

end Visitor

theorem ask_mem_asks {place folder : Place} {folders : List (String × Option Listing)} :
    .ask folder ∈ asks place folders ↔ ∃ name entry, (name, entry) ∈ folders ∧
      isVersionControl name = false ∧ folder = place ++ [name] := by
  simp only [asks, List.mem_map, List.mem_filter, Bool.not_eq_true', Move.ask.injEq]
  constructor
  · rintro ⟨⟨name, entry⟩, ⟨hm, hv⟩, rfl⟩
    exact ⟨name, entry, hm, hv, rfl⟩
  · rintro ⟨name, entry, hm, hv, rfl⟩
    exact ⟨⟨name, entry⟩, ⟨hm, hv⟩, rfl⟩

variable {rejects other : Place → Bool}

theorem ask_mem_moves {listing : Listing} (ordered : listing.Ordered) {place folder : Place} :
    .ask folder ∈ moves rejects place listing ↔ ∃ rest name found entry,
      folder = place ++ rest ++ [name] ∧ listing.At rest found ∧ Passes rejects place rest ∧
        (name, entry) ∈ found.folders ∧ isVersionControl name = false := by
  constructor
  · intro h
    induction ordered generalizing place with
    | @mk files folders _ _ _ _ _ ih =>
      rw [moves, List.mem_cons, List.mem_append] at h
      rcases h with h | h | h
      · cases h
      · obtain ⟨name, entry, hm, hv, rfl⟩ := ask_mem_asks.mp h
        exact ⟨[], name, _, entry, by simp, .here _, fun front other hp => by simp at hp, hm, hv⟩
      · obtain ⟨first, inner, hm, hg, h⟩ := mem_movesInto.mp h
        obtain ⟨rest, name, found, entry, rfl, hat, hp, hin, hv⟩ := ih first inner hm h
        exact ⟨first :: rest, name, found, entry, by simp, .deeper hm hat, passes_cons.mpr ⟨hg, hp⟩, hin, hv⟩
  · rintro ⟨rest, name, found, entry, rfl, hat, hp, hm, hv⟩
    clear ordered
    induction hat generalizing place with
    | here listing =>
      obtain ⟨files, folders⟩ := listing
      rw [moves, List.mem_cons, List.mem_append, List.append_nil]
      exact .inr (.inl (ask_mem_asks.mpr ⟨name, entry, hm, hv, rfl⟩))
    | @deeper listing inner found first rest hfirst _ ih =>
      obtain ⟨files, folders⟩ := listing
      obtain ⟨hg, hp⟩ := passes_cons.mp hp
      have hin := ih hp hm
      rw [List.append_assoc place, List.singleton_append] at hin
      rw [moves, List.mem_cons, List.mem_append]
      exact .inr (.inr (mem_movesInto.mpr ⟨first, inner, hfirst, hg, hin⟩))

theorem below_of_ask {listing : Listing} (ordered : listing.Ordered) {place folder : Place}
    (h : .ask folder ∈ moves rejects place listing) : StrictlyAbove place folder := by
  obtain ⟨rest, name, _, _, rfl, -⟩ := (ask_mem_moves ordered).mp h
  exact ⟨rest ++ [name], by simp, by simp⟩

theorem branch_unique {place folder : Place} {name next : String} (h : place ++ [name] <+: folder)
    (h' : place ++ [next] <+: folder) : name = next := by
  have heq : place ++ [name] = place ++ [next] := by
    rcases List.prefix_or_prefix_of_prefix h h' with hp | hp
    · exact hp.eq_of_length (by simp)
    · exact (hp.eq_of_length (by simp)).symm
  simpa using heq

theorem movesInto_congr {place : Place} {folders : List (String × Option Listing)}
    (same : ∀ entry ∈ folders, other (place ++ [entry.1]) = rejects (place ++ [entry.1]))
    (below : ∀ name listing, (name, some listing) ∈ folders →
      moves other (place ++ [name]) listing = moves rejects (place ++ [name]) listing) :
    movesInto other place folders = movesInto rejects place folders := by
  induction folders with
  | nil => simp [movesInto]
  | cons entry rest ih =>
    have hrest := ih (fun entry hm => same entry (List.mem_cons_of_mem _ hm))
      fun name listing hm => below name listing (List.mem_cons_of_mem _ hm)
    obtain ⟨name, listing⟩ := entry
    cases listing with
    | none => rw [movesInto, movesInto, hrest]
    | some listing =>
      rw [movesInto, movesInto, hrest, below name listing List.mem_cons_self, goesInto, goesInto,
        same _ List.mem_cons_self]

theorem moves_congr {listing : Listing} (ordered : listing.Ordered) :
    ∀ place, (∀ folder, StrictlyAbove place folder → other folder = rejects folder) →
      moves other place listing = moves rejects place listing := by
  induction ordered with
  | mk _ _ _ _ _ ih =>
    intro place same
    rw [moves, moves, movesInto_congr]
    · exact fun entry _ => same _ (strictlyAbove_concat.mpr List.prefix_rfl)
    · intro name listing hm
      refine ih name listing hm _ fun folder hf => same folder ?_
      obtain ⟨rest, hr, rfl⟩ := hf
      exact ⟨name :: rest, by simp, by simp⟩

/-- One test below a folder, and another one elsewhere. -/
def branched (branch : Place) (inside outside : Place → Bool) (folder : Place) : Bool :=
  if StrictlyAbove branch folder then inside folder else outside folder

section
variable {inside outside : Place → Bool} {place folder : Place} {name next : String}

theorem branched_below {branch : Place} (h : StrictlyAbove branch folder) :
    branched branch inside outside folder = inside folder := if_pos h

theorem branched_beside (hne : next ≠ name) (h : place ++ [next] <+: folder) :
    branched (place ++ [name]) inside outside folder = outside folder :=
  if_neg fun hf => hne (branch_unique h hf.isPrefix)

theorem branched_entry :
    branched (place ++ [name]) inside outside (place ++ [next]) = outside (place ++ [next]) := by
  refine if_neg fun hf => ?_
  have := hf.length_lt
  simp at this

end

namespace Visitor

variable {visitor : Visitor σ}

theorem Follows.moves {listing : Listing} (ordered : listing.Ordered) {place : Place} {state : σ}
    (h : visitor.Follows rejects (moves rejects place listing) state)
    (same : ∀ folder, StrictlyAbove place folder → other folder = rejects folder) :
    visitor.Follows other (Files.moves other place listing) state := by
  rw [moves_congr ordered place same]
  exact h.congr fun folder hm => same folder (below_of_ask ordered hm)

theorem Follows.movesInto {place : Place} {folders : List (String × Option Listing)} {state : σ}
    (ordered : ∀ name listing, (name, some listing) ∈ folders → listing.Ordered)
    (h : visitor.Follows rejects (movesInto rejects place folders) state)
    (same : ∀ entry ∈ folders, ∀ folder, place ++ [entry.1] <+: folder → other folder = rejects folder) :
    visitor.Follows other (Files.movesInto other place folders) state := by
  have hmoves : Files.movesInto other place folders = Files.movesInto rejects place folders := by
    refine movesInto_congr (fun entry hm => same entry hm _ List.prefix_rfl) fun name listing hm => ?_
    exact moves_congr (ordered name listing hm) _ fun folder hf => same _ hm folder hf.isPrefix
  rw [hmoves]
  refine h.congr fun folder hm => ?_
  obtain ⟨name, listing, hin, -, hask⟩ := mem_movesInto.mp hm
  exact same _ hin folder (below_of_ask (ordered name listing hin) hask).isPrefix

/-- The answers below one folder and those below the folders that come later are put together. -/
theorem Follows.branch {place : Place} {name : String} {listing : Listing}
    {rest : List (String × Option Listing)} (later : ∀ entry ∈ rest, name < entry.1)
    (ordered : ∀ n inner, (n, some inner) ∈ (name, some listing) :: rest → inner.Ordered)
    {inside outside : Place → Bool} {state : σ}
    (hinside : visitor.Follows inside (Files.moves inside (place ++ [name]) listing) state)
    (houtside : visitor.Follows outside (Files.movesInto outside place rest)
      ((Files.moves inside (place ++ [name]) listing).foldl visitor.act state))
    (goes : goesInto outside place name = true) :
    let rejects := branched (place ++ [name]) inside outside
    visitor.Follows rejects (Files.movesInto rejects place ((name, some listing) :: rest)) state := by
  intro rejects
  have hordered := ordered name listing List.mem_cons_self
  have hmoves : Files.moves rejects (place ++ [name]) listing = Files.moves inside (place ++ [name]) listing :=
    moves_congr hordered _ fun folder hf => branched_below hf
  have hgoes : goesInto rejects place name = true := by
    rw [goesInto] at goes ⊢
    rwa [show rejects (place ++ [name]) = outside (place ++ [name]) from branched_entry]
  rw [Files.movesInto, if_pos hgoes, Follows, answers_append]
  refine ⟨hinside.moves hordered fun folder hf => branched_below hf, ?_⟩
  rw [hmoves]
  exact houtside.movesInto (fun n inner hm => ordered n inner (List.mem_cons_of_mem _ hm))
    fun entry hm folder hf => branched_beside (later entry hm).ne' hf

theorem exists_follows_asks (visitor : Visitor σ) {place : Place}
    {folders : List (String × Option Listing)}
    (inOrder : folders.Pairwise fun folder other => folder.1 < other.1) (state : σ) :
    ∃ rejects, visitor.Follows rejects (asks place folders) state := by
  induction folders generalizing state with
  | nil => exact ⟨fun _ => false, trivial⟩
  | cons entry rest ih =>
    rw [List.pairwise_cons] at inOrder
    by_cases hv : isVersionControl entry.1 = true
    · have hasks : asks place (entry :: rest) = asks place rest := by simp [asks, hv]
      rw [hasks]
      exact ih inOrder.2 state
    · have hasks : asks place (entry :: rest) = .ask (place ++ [entry.1]) :: asks place rest := by
        simp [asks, hv]
      obtain ⟨rejects, hrest⟩ := ih inOrder.2 (visitor.act state (.ask (place ++ [entry.1])))
      rw [hasks]
      refine ⟨Function.update rejects (place ++ [entry.1])
        (visitor.skips (relText (place ++ [entry.1])) state).1,
        follows_ask.mpr ⟨by rw [Function.update_self], hrest.congr fun folder hm => ?_⟩⟩
      obtain ⟨name, listing, hin, -, rfl⟩ := ask_mem_asks.mp hm
      refine Function.update_of_ne ?_ _ _
      simpa using (inOrder.1 _ hin).ne'

theorem exists_follows_movesInto (visitor : Visitor σ) {place : Place}
    {folders : List (String × Option Listing)}
    (inOrder : folders.Pairwise fun folder other => folder.1 < other.1)
    (ordered : ∀ name listing, (name, some listing) ∈ folders → listing.Ordered)
    (below : ∀ name listing, (name, some listing) ∈ folders → ∀ state,
      ∃ rejects, visitor.Follows rejects (moves rejects (place ++ [name]) listing) state)
    (known : Place → Bool) (state : σ) :
    ∃ rejects, (∀ name, rejects (place ++ [name]) = known (place ++ [name])) ∧
      visitor.Follows rejects (movesInto rejects place folders) state := by
  induction folders generalizing state with
  | nil => exact ⟨known, fun _ => rfl, by simp [Files.movesInto, Follows, Answers]⟩
  | cons entry rest ih =>
    rw [List.pairwise_cons] at inOrder
    have hrest := ih inOrder.2 (fun name listing hm => ordered name listing (List.mem_cons_of_mem _ hm))
      fun name listing hm => below name listing (List.mem_cons_of_mem _ hm)
    obtain ⟨name, listing⟩ := entry
    cases listing with
    | none =>
      obtain ⟨rejects, hknown, hfollows⟩ := hrest state
      exact ⟨rejects, hknown, by rwa [Files.movesInto]⟩
    | some listing =>
      by_cases hg : goesInto known place name = true
      · obtain ⟨inside, hinside⟩ := below name listing List.mem_cons_self state
        obtain ⟨outside, hknown, houtside⟩ :=
          hrest ((Files.moves inside (place ++ [name]) listing).foldl visitor.act state)
        have hgoes : goesInto outside place name = true := by rwa [goesInto, hknown, ← goesInto]
        exact ⟨_, fun next => branched_entry.trans (hknown next),
          hinside.branch inOrder.1 ordered houtside hgoes⟩
      · obtain ⟨rejects, hknown, hfollows⟩ := hrest state
        have hg' : ¬ goesInto rejects place name = true := by rwa [goesInto, hknown, ← goesInto]
        exact ⟨rejects, hknown, by rwa [Files.movesInto, if_neg hg', List.nil_append]⟩

theorem exists_follows (visitor : Visitor σ) {listing : Listing} (ordered : listing.Ordered) :
    ∀ place state, ∃ rejects, visitor.Follows rejects (moves rejects place listing) state := by
  induction ordered with
  | @mk files folders _ foldersInOrder _ _ below ih =>
    intro place state
    let started := visitor.act state (.enter place files)
    obtain ⟨known, hasks⟩ : ∃ known, visitor.Follows known (asks place folders) started :=
      visitor.exists_follows_asks foldersInOrder started
    obtain ⟨rejects, hknown, hinto⟩ := visitor.exists_follows_movesInto foldersInOrder below
      (fun name listing hm => ih name listing hm _) known ((asks place folders).foldl visitor.act started)
    refine ⟨rejects, ?_⟩
    rw [moves, Follows, Answers, answers_append]
    refine ⟨hasks.congr fun folder hm => ?_, hinto⟩
    obtain ⟨name, _, -, -, rfl⟩ := ask_mem_asks.mp hm
    exact hknown name

end Visitor

namespace Move

/-- Whether a move may come before another: folders are entered in the order of their names, none below
that of an asked folder before it is asked for, and none is asked for twice. -/
def InOrder : Move → Move → Prop
  | enter folder _, enter other _ => folder < other
  | enter folder _, ask other => ¬ StrictlyAbove other.dropLast folder
  | ask folder, ask other => folder ≠ other
  | ask _, enter _ _ => True

/-- Whether a move is about a folder or what lies below it. -/
def Within (place : Place) : Move → Prop
  | enter folder _ => place <+: folder
  | ask folder => StrictlyAbove place folder

end Move

theorem within_moves {listing : Listing} (ordered : listing.Ordered) {place : Place} {move : Move}
    (h : move ∈ moves rejects place listing) : move.Within place := by
  cases move with
  | enter folder files =>
    obtain ⟨rest, _, rfl, -⟩ := (enter_mem_moves ordered).mp h
    exact List.prefix_append place rest
  | ask folder => exact below_of_ask ordered h

theorem StrictlyAbove.prefix_dropLast {place folder : Place} (h : StrictlyAbove place folder) :
    place <+: folder.dropLast := by
  obtain ⟨rest, hr, rfl⟩ := h
  rw [List.dropLast_append_of_ne_nil hr]
  exact List.prefix_append place _

theorem inOrder_of_branches {place : Place} {name next : String} (hlt : name < next) {first second : Move}
    (hf : first.Within (place ++ [name])) (hs : second.Within (place ++ [next])) :
    first.InOrder second := by
  cases first with
  | enter folder files =>
    cases second with
    | enter other files =>
      obtain ⟨rest, rfl⟩ := hf
      obtain ⟨others, rfl⟩ := hs
      rw [List.append_assoc, List.append_assoc]
      exact List.append_left_lt (List.cons_lt_cons_iff.mpr (.inl hlt))
    | ask other =>
      intro hb
      exact hlt.ne (branch_unique hf (hs.prefix_dropLast.trans hb.isPrefix))
  | ask folder =>
    cases second with
    | enter other files => trivial
    | ask other =>
      rintro rfl
      exact hlt.ne (branch_unique hf.isPrefix hs.isPrefix)

theorem asks_inOrder {place : Place} {folders : List (String × Option Listing)}
    (inOrder : folders.Pairwise fun folder other => folder.1 < other.1) :
    (asks place folders).Pairwise Move.InOrder := by
  rw [asks, List.pairwise_map]
  refine (inOrder.sublist List.filter_sublist).imp fun hlt => ?_
  simpa [Move.InOrder] using hlt.ne

theorem movesInto_inOrder {place : Place} {folders : List (String × Option Listing)}
    (inOrder : folders.Pairwise fun folder other => folder.1 < other.1)
    (ordered : ∀ name listing, (name, some listing) ∈ folders → listing.Ordered)
    (below : ∀ name listing, (name, some listing) ∈ folders →
      (moves rejects (place ++ [name]) listing).Pairwise Move.InOrder) :
    (movesInto rejects place folders).Pairwise Move.InOrder := by
  induction folders with
  | nil => simp [movesInto]
  | cons entry rest ih =>
    rw [List.pairwise_cons] at inOrder
    have ordered' : ∀ name listing, (name, some listing) ∈ rest → listing.Ordered :=
      fun name listing hm => ordered name listing (List.mem_cons_of_mem _ hm)
    have hrest := ih inOrder.2 ordered' fun name listing hm => below name listing (List.mem_cons_of_mem _ hm)
    obtain ⟨name, listing⟩ := entry
    cases listing with
    | none => rwa [movesInto]
    | some listing =>
      rw [movesInto]
      split
      · rw [List.pairwise_append]
        refine ⟨below name listing List.mem_cons_self, hrest, fun first hf second hs => ?_⟩
        obtain ⟨next, inner, hm, -, hs⟩ := mem_movesInto.mp hs
        exact inOrder_of_branches (inOrder.1 _ hm) (within_moves (ordered name listing List.mem_cons_self) hf)
          (within_moves (ordered' next inner hm) hs)
      · rwa [List.nil_append]

theorem inOrder_enter_ask {place folder : Place} (files : List String) (h : StrictlyAbove place folder) :
    (Move.enter place files).InOrder (.ask folder) := fun hb =>
  absurd hb.length_lt (Nat.not_lt.mpr h.prefix_dropLast.length_le)

theorem inOrder_enter {place : Place} {name : String} (files : List String) {second : Move}
    (h : second.Within (place ++ [name])) : (Move.enter place files).InOrder second := by
  cases second with
  | enter other files =>
    obtain ⟨rest, rfl⟩ := h
    have hlt : place ++ [] < place ++ name :: rest := List.append_left_lt (List.nil_lt_cons name rest)
    simpa [Move.InOrder] using hlt
  | ask other =>
    obtain ⟨rest, -, rfl⟩ := h
    exact inOrder_enter_ask files ⟨name :: rest, by simp, by simp⟩

theorem moves_inOrder {listing : Listing} (ordered : listing.Ordered) :
    ∀ place, (moves rejects place listing).Pairwise Move.InOrder := by
  induction ordered with
  | @mk files folders _ foldersInOrder _ _ below ih =>
    intro place
    have hinto := movesInto_inOrder foldersInOrder below fun name listing hm =>
      ih name listing hm (place ++ [name])
    have hwithin : ∀ move ∈ movesInto rejects place folders, ∃ name, move.Within (place ++ [name]) := by
      intro move hm
      obtain ⟨name, listing, hin, -, hmove⟩ := mem_movesInto.mp hm
      exact ⟨name, within_moves (below name listing hin) hmove⟩
    rw [moves, List.pairwise_cons, List.pairwise_append]
    refine ⟨fun second hs => ?_, asks_inOrder foldersInOrder, hinto, fun first hf second hs => ?_⟩
    · rcases List.mem_append.mp hs with hs | hs
      · obtain ⟨name, _, rfl⟩ := List.mem_map.mp hs
        exact inOrder_enter_ask files (strictlyAbove_concat.mpr List.prefix_rfl)
      · obtain ⟨name, hw⟩ := hwithin second hs
        exact inOrder_enter files hw
    · obtain ⟨⟨next, _⟩, _, rfl⟩ := List.mem_map.mp hf
      obtain ⟨name, hw⟩ := hwithin second hs
      cases second with
      | enter other files => trivial
      | ask other =>
        rintro rfl
        have := hw.length_lt
        simp at this

theorem mem_folders_iff {entries : List (String × Listed)} {name : String} :
    (∃ below, (name, below) ∈ (Listing.ofEntries entries).folders) ↔
      ∃ entry, (name, entry) ∈ entries ∧ entry ≠ .file := by
  simp only [Listing.ofEntries, Listing.folders, List.mem_filterMap, List.mem_mergeSort]
  constructor
  · rintro ⟨below, ⟨other, entry⟩, hm, h⟩
    cases entry with
    | file => cases h
    | folder inner =>
      cases h
      exact ⟨_, hm, by simp⟩
    | linkedFolder =>
      cases h
      exact ⟨_, hm, by simp⟩
  · rintro ⟨entry, hm, hne⟩
    cases entry with
    | file => exact absurd rfl hne
    | folder inner => exact ⟨some inner, _, hm, rfl⟩
    | linkedFolder => exact ⟨none, _, hm, rfl⟩

theorem Listing.Ordered.at {listing found : Listing} {place : Place} (ordered : listing.Ordered)
    (h : listing.At place found) : found.Ordered := by
  induction h with
  | here => exact ordered
  | deeper hm _ ih =>
    obtain ⟨_, _, _, _, below⟩ := ordered
    exact ih (below _ _ hm)

namespace Workspace

/-- At a place there is a folder, or a link that leads to one. -/
def LeadsOn (ws : Workspace) (place : Place) : Prop :=
  ∃ node, ws.root.at? place = some node ∧ (node.isFolder = true ∨
    ∃ target, node = .link target ∧ ws.leadsToFolder place.dropLast target = true)

/-- The calls of a walk from the folder at a place on. -/
structure Tours (ws : Workspace) (top : Place) (calls : List (Call Place)) : Prop where
  first : ∃ files rest, calls = .enter [] files :: rest
  /-- A folder is entered unless a folder of version control, a link or a rejected folder is on the way. -/
  entered : ∀ folder, folder ∈ enteredIn calls ↔
    (∃ entries, ws.root.at? (top ++ folder) = some (.folder entries)) ∧
      ∀ front name, front ++ [name] <+: folder →
        isVersionControl name = false ∧ .ask (front ++ [name]) true ∉ calls
  /-- A folder is entered with the names of its other entries, in order. -/
  files : ∀ folder files, .enter folder files ∈ calls → files.Pairwise (· < ·) ∧
    ∀ name, name ∈ files ↔ (ws.root.at? (top ++ folder ++ [name])).isSome = true ∧
      ¬ ws.LeadsOn (top ++ folder ++ [name])
  /-- Folders come before those below them, and by their names. -/
  inOrder : (enteredIn calls).Pairwise (· < ·)
  /-- The visitor is asked for the folders in a folder that was entered. -/
  asked : ∀ folder, folder ∈ askedIn calls ↔ ∃ front name, folder = front ++ [name] ∧
    front ∈ enteredIn calls ∧ isVersionControl name = false ∧ ws.LeadsOn (top ++ folder)
  askedOnce : (askedIn calls).Nodup
  /-- The visitor is asked when the folder has been entered, and before any folder in it is. -/
  between : ∀ before folder skipped after, calls = before ++ .ask folder skipped :: after →
    folder.dropLast ∈ enteredIn before ∧
      ∀ other ∈ enteredIn before, ¬ StrictlyAbove folder.dropLast other
  /-- What the visitor is asked for has neither of these on the way to it. -/
  unbarred : ∀ folder ∈ askedIn calls, ∀ front name, StrictlyAbove (front ++ [name]) folder →
    (∃ entries, ws.root.at? (top ++ front ++ [name]) = some (.folder entries)) ∧
      isVersionControl name = false ∧ .ask (front ++ [name]) true ∉ calls

end Workspace

section
variable {row : List Move} {folder : Place}

theorem enteredIn_map : enteredIn (row.map (Move.call rejects)) = enteredBy row := by
  rw [enteredIn, enteredBy, List.flatMap_map]
  congr 1
  funext move
  cases move <;> rfl

theorem ask_mem_map {skipped : Bool} :
    .ask folder skipped ∈ row.map (Move.call rejects) ↔ .ask folder ∈ row ∧ rejects folder = skipped := by
  rw [List.mem_map]
  constructor
  · rintro ⟨move, hm, h⟩
    cases move with
    | enter other files => cases h
    | ask other =>
      injection h with ho hs
      subst ho
      exact ⟨hm, hs⟩
  · rintro ⟨hm, rfl⟩
    exact ⟨_, hm, rfl⟩

theorem mem_askedIn_map : folder ∈ askedIn (row.map (Move.call rejects)) ↔ .ask folder ∈ row := by
  rw [mem_askedIn]
  constructor
  · rintro ⟨skipped, hm⟩
    exact (ask_mem_map.mp hm).1
  · exact fun hm => ⟨_, ask_mem_map.mpr ⟨hm, rfl⟩⟩

theorem enter_mem_map {files : List String} :
    .enter folder files ∈ row.map (Move.call rejects) ↔ .enter folder files ∈ row := by
  rw [List.mem_map]
  constructor
  · rintro ⟨move, hm, h⟩
    cases move with
    | enter other others =>
      injection h with ho hs
      rwa [← ho, ← hs]
    | ask other => cases h
  · exact fun hm => ⟨_, hm, rfl⟩

theorem enteredIn_ordered (h : row.Pairwise Move.InOrder) :
    (enteredIn (row.map (Move.call rejects))).Pairwise (· < ·) := by
  rw [enteredIn, List.pairwise_flatMap, List.pairwise_map]
  refine ⟨fun call _ => by cases call <;> simp [Call.entered], h.imp ?_⟩
  intro first second horder folder hf next hn
  cases first <;> cases second <;> simp_all [Move.call, Call.entered, Move.InOrder]

theorem nodup_askedIn (h : row.Pairwise Move.InOrder) :
    (askedIn (row.map (Move.call rejects))).Nodup := by
  rw [askedIn, List.Nodup, List.pairwise_flatMap, List.pairwise_map]
  refine ⟨fun call _ => by cases call <;> simp [Call.asked], h.imp ?_⟩
  intro first second horder folder hf next hn
  cases first <;> cases second <;> simp_all [Move.call, Call.asked, Move.InOrder]

theorem split_of_ask {before after : List (Call Place)} {skipped : Bool}
    (h : row.map (Move.call rejects) = before ++ .ask folder skipped :: after) :
    ∃ front back, row = front ++ .ask folder :: back ∧ before = front.map (Move.call rejects) := by
  obtain ⟨front, rest, hrow, rfl, hrest⟩ := List.map_eq_append_iff.mp h
  obtain ⟨move, back, rfl, hmove, -⟩ := List.map_eq_cons_iff.mp hrest
  refine ⟨front, back, ?_, rfl⟩
  cases move with
  | enter other files => cases hmove
  | ask other =>
    injection hmove with ho
    rw [hrow, ho]

theorem not_below_of_inOrder {front back : List Move}
    (h : (front ++ .ask folder :: back).Pairwise Move.InOrder) {entered : Place}
    (hm : entered ∈ enteredBy front) : ¬ StrictlyAbove folder.dropLast entered := by
  obtain ⟨move, hmove, hentered⟩ := List.mem_flatMap.mp hm
  have hbefore := (List.pairwise_append.mp h).2.2 move hmove _ List.mem_cons_self
  cases move with
  | ask next => simp [Move.entered] at hentered
  | enter next files =>
    obtain rfl : entered = next := by simpa [Move.entered] using hentered
    exact hbefore

end

namespace Workspace

variable {ws : Workspace}

theorem listed_ne_file {place : Place} {node : Node} : ws.listed place node ≠ .file ↔
    node.isFolder = true ∨ ∃ target, node = .link target ∧
      ws.leadsToFolder place.dropLast target = true := by
  cases node with
  | file content => simp [listed, Node.isFolder]
  | folder entries => simp [listed, Node.isFolder]
  | link target =>
    rw [listed]
    split <;> simp_all [Node.isFolder]

section
variable {root : Path} {top : Place} {node : Node} (holds : ws.HoldsFolder root top node)
include holds

theorem HoldsFolder.at?_entry {folder : Place} {entries : List (String × Node)}
    (hc : node.at? folder = some (.folder entries)) {name : String} {child : Node} :
    ws.root.at? (top ++ folder ++ [name]) = some child ↔ (name, child) ∈ entries := by
  have hw : node.WellNamed := (holds.wellNamed.at? holds.at_top).2
  rw [List.append_assoc, holds.at?_root, Node.at?_concat, hc]
  exact (hw.at? hc).2.child?_eq_some_iff

theorem HoldsFolder.leadsOn_iff {folder : Place} {entries : List (String × Node)}
    (hc : node.at? folder = some (.folder entries)) {name : String} :
    ws.LeadsOn (top ++ folder ++ [name]) ↔
      ∃ entry, (name, entry) ∈ ws.listedAll (top ++ folder) entries ∧ entry ≠ .file := by
  constructor
  · rintro ⟨child, hat, hleads⟩
    exact ⟨_, mem_listedAll.mpr ⟨child, (holds.at?_entry hc).mp hat, rfl⟩, listed_ne_file.mpr hleads⟩
  · rintro ⟨_, hm, hne⟩
    obtain ⟨child, hin, rfl⟩ := mem_listedAll.mp hm
    exact ⟨child, (holds.at?_entry hc).mpr hin, listed_ne_file.mp hne⟩

theorem HoldsFolder.isFile_iff {folder : Place} {entries : List (String × Node)}
    (hc : node.at? folder = some (.folder entries)) {name : String} :
    (name, .file) ∈ ws.listedAll (top ++ folder) entries ↔
      (ws.root.at? (top ++ folder ++ [name])).isSome = true ∧ ¬ ws.LeadsOn (top ++ folder ++ [name]) := by
  rw [mem_listedAll, Option.isSome_iff_exists]
  constructor
  · rintro ⟨child, hin, hfile⟩
    have hat := (holds.at?_entry hc).mpr hin
    refine ⟨⟨child, hat⟩, ?_⟩
    rintro ⟨other, hother, hleads⟩
    obtain rfl := Option.some.inj (hat.symm.trans hother)
    exact listed_ne_file.mpr hleads hfile
  · rintro ⟨⟨child, hat⟩, hleads⟩
    refine ⟨child, (holds.at?_entry hc).mp hat, ?_⟩
    by_contra hne
    exact hleads ⟨child, hat, listed_ne_file.mp hne⟩

variable {listing : Listing} (hl : ws.listing root = .ok listing)
include hl

theorem HoldsFolder.at_iff {folder : Place} {found : Listing} : listing.At folder found ↔
    ∃ entries, node.at? folder = some (.folder entries) ∧
      found = .ofEntries (ws.listedAll (top ++ folder) entries) := by
  obtain ⟨_, hl', ordered, hlisted⟩ := holds.listing_eq
  obtain rfl := Except.ok.inj (hl'.symm.trans hl)
  have hw : node.WellNamed := (holds.wellNamed.at? holds.at_top).2
  rw [at_listed hw hlisted]
  constructor
  · rintro ⟨child, hc, hf⟩
    obtain ⟨entries, rfl, rfl⟩ := folder_of_listed hf
    exact ⟨entries, hc, rfl⟩
  · rintro ⟨entries, hc, rfl⟩
    exact ⟨_, hc, by rw [listed]⟩

theorem HoldsFolder.ordered : listing.Ordered := by
  obtain ⟨_, hl', ordered, -⟩ := holds.listing_eq
  obtain rfl := Except.ok.inj (hl'.symm.trans hl)
  exact ordered

theorem HoldsFolder.enter_mem {folder : Place} {files : List String}
    (h : .enter folder files ∈ moves rejects [] listing) : files.Pairwise (· < ·) ∧
      ∀ name, name ∈ files ↔ (ws.root.at? (top ++ folder ++ [name])).isSome = true ∧
        ¬ ws.LeadsOn (top ++ folder ++ [name]) := by
  obtain ⟨_, found, rfl, rfl, hat, -⟩ := (enter_mem_moves (holds.ordered hl)).mp h
  obtain ⟨entries, hc, hfound⟩ := (holds.at_iff hl).mp hat
  refine ⟨?_, fun name => ?_⟩
  · obtain ⟨filesInOrder, _, _, _, _⟩ := (holds.ordered hl).at hat
    exact filesInOrder
  · rw [← holds.isFile_iff hc, hfound, Listing.mem_files_ofEntries]

theorem HoldsFolder.ask_mem {folder : Place} : .ask folder ∈ moves rejects [] listing ↔
    ∃ front name, folder = front ++ [name] ∧ front ∈ enteredBy (moves rejects [] listing) ∧
      isVersionControl name = false ∧ ws.LeadsOn (top ++ folder) := by
  rw [ask_mem_moves (holds.ordered hl)]
  constructor
  · rintro ⟨rest, name, found, entry, rfl, hat, hp, hm, hv⟩
    obtain ⟨entries, hc, rfl⟩ := (holds.at_iff hl).mp hat
    refine ⟨rest, name, rfl, (holds.mem_entered hl).mpr ⟨hp, _, hc, rfl⟩, hv, ?_⟩
    rw [List.nil_append, ← List.append_assoc, holds.leadsOn_iff hc]
    exact mem_folders_iff.mp ⟨entry, hm⟩
  · rintro ⟨front, name, rfl, hf, hv, hleads⟩
    obtain ⟨hp, child, hc, isFolder⟩ := (holds.mem_entered hl).mp hf
    obtain ⟨entries, rfl⟩ := Node.entries_of_isFolder isFolder
    rw [← List.append_assoc, holds.leadsOn_iff hc] at hleads
    obtain ⟨entry, hm⟩ := mem_folders_iff.mpr hleads
    exact ⟨front, name, _, entry, rfl, (holds.at_iff hl).mpr ⟨entries, hc, rfl⟩, hp, hm, hv⟩

/-- A walk is let into a folder if nothing bars the way to it, since it asks for everything on the way. -/
theorem HoldsFolder.passes_iff {folder : Place} {entries : List (String × Node)}
    (hc : node.at? folder = some (.folder entries)) : Passes rejects [] folder ↔
      ∀ front name, front ++ [name] <+: folder → isVersionControl name = false ∧
        .ask (front ++ [name]) true ∉ (moves rejects [] listing).map (Move.call rejects) := by
  constructor
  · intro h front name hp
    have hg := h front name hp
    rw [goesInto, Bool.and_eq_true, Bool.not_eq_true', Bool.not_eq_true', List.nil_append] at hg
    refine ⟨hg.1, fun hm => ?_⟩
    have := (ask_mem_map.mp hm).2
    simp [hg.2] at this
  · intro h
    induction folder using List.reverseRecOn generalizing entries with
    | nil => exact fun front name hp => by simp at hp
    | append_singleton front name ih =>
      obtain ⟨child, hfront, hname⟩ := Option.bind_eq_some_iff.mp (Node.at?_concat node front name ▸ hc)
      obtain ⟨inner, rfl⟩ := Node.folder_of_child? hname
      have hp := ih hfront fun above next ha => h above next (ha.trans (List.prefix_append front [name]))
      obtain ⟨hv, hask⟩ := h front name List.prefix_rfl
      have hasked : .ask (front ++ [name]) ∈ moves rejects [] listing := by
        have hentered := (holds.mem_entered hl).mpr ⟨hp, _, hfront, rfl⟩
        have hleads : ws.LeadsOn (top ++ (front ++ [name])) :=
          ⟨_, (holds.at?_root _).trans hc, .inl rfl⟩
        exact (holds.ask_mem hl).mpr ⟨front, name, rfl, hentered, hv, hleads⟩
      have hrejects : rejects (front ++ [name]) = false :=
        Bool.eq_false_iff.mpr fun hr => hask (ask_mem_map.mpr ⟨hasked, hr⟩)
      intro above next ha
      rcases List.prefix_concat_iff.mp ha with he | ha
      · obtain ⟨rfl, hlast⟩ := List.append_inj' he rfl
        obtain rfl : next = name := by simpa using hlast
        simp [goesInto, hv, hrejects]
      · exact hp above next ha

theorem HoldsFolder.entered_iff (folder : Place) : folder ∈ enteredBy (moves rejects [] listing) ↔
    (∃ entries, ws.root.at? (top ++ folder) = some (.folder entries)) ∧
      ∀ front name, front ++ [name] <+: folder → isVersionControl name = false ∧
        .ask (front ++ [name]) true ∉ (moves rejects [] listing).map (Move.call rejects) := by
  rw [holds.mem_entered hl, holds.at?_root]
  constructor
  · rintro ⟨hp, child, hc, isFolder⟩
    obtain ⟨entries, rfl⟩ := Node.entries_of_isFolder isFolder
    exact ⟨⟨entries, hc⟩, (holds.passes_iff hl hc).mp hp⟩
  · rintro ⟨⟨entries, hc⟩, h⟩
    exact ⟨(holds.passes_iff hl hc).mpr h, _, hc, rfl⟩

theorem HoldsFolder.entered_of_ask {before after : List Move} {folder : Place}
    (h : moves rejects [] listing = before ++ .ask folder :: after) :
    folder ≠ [] ∧ ∀ other, StrictlyAbove other folder → other ∈ enteredBy before := by
  have hg : Grounded [] (moves rejects [] listing) := grounded_walk (holds.ordered hl)
  rw [h, grounded_append, List.nil_append] at hg
  exact ⟨hg.2.1.2.1, hg.2.1.2.2⟩

theorem HoldsFolder.tours : ws.Tours top ((moves rejects [] listing).map (Move.call rejects)) := by
  have hpairs : (moves rejects [] listing).Pairwise Move.InOrder := moves_inOrder (holds.ordered hl) []
  constructor
  case first =>
    obtain ⟨files, folders⟩ := listing
    exact ⟨files, _, by rw [moves, List.map_cons, Move.call]⟩
  case entered =>
    intro folder
    rw [enteredIn_map, holds.entered_iff hl]
  case files => exact fun folder files hm => holds.enter_mem hl (enter_mem_map.mp hm)
  case inOrder => exact enteredIn_ordered hpairs
  case asked =>
    intro folder
    rw [mem_askedIn_map, enteredIn_map, holds.ask_mem hl]
  case askedOnce => exact nodup_askedIn hpairs
  case between =>
    intro before folder skipped after h
    obtain ⟨front, back, hrow, rfl⟩ := split_of_ask h
    obtain ⟨hne, habove⟩ := holds.entered_of_ask hl hrow
    have hparent : StrictlyAbove folder.dropLast folder :=
      ⟨[folder.getLast hne], by simp, (List.dropLast_append_getLast hne).symm⟩
    rw [enteredIn_map]
    rw [hrow] at hpairs
    exact ⟨habove _ hparent, fun other ho => not_below_of_inOrder hpairs ho⟩
  case unbarred =>
    intro folder hf front name habove
    obtain ⟨before, after, hrow⟩ := List.append_of_mem (mem_askedIn_map.mp hf)
    have hin : front ++ [name] ∈ enteredBy (moves rejects [] listing) := by
      rw [hrow, enteredBy_append]
      exact List.mem_append_left _ ((holds.entered_of_ask hl hrow).2 _ habove)
    obtain ⟨hfolder, hway⟩ := (holds.entered_iff hl _).mp hin
    rw [List.append_assoc]
    exact ⟨hfolder, hway front name List.prefix_rfl⟩

end

/-- Whatever the visitor answers, a walk through a folder makes the calls of a tour of it. -/
theorem walk_tours {root : Path} {top : Place} {node : Node} (holds : ws.HoldsFolder root top node)
    (visitor : Visitor σ) (start : σ) :
    ∃ listing calls, ws.listing root = .ok listing ∧
      walk visitor.recording "" listing (start, []) =
        (walk visitor "" listing start, calls.map Call.text) ∧ ws.Tours top calls := by
  obtain ⟨listing, hl, ordered, -⟩ := holds.listing_eq
  obtain ⟨rejects, hfollows⟩ := visitor.exists_follows ordered [] start
  obtain ⟨hrecording, hrecord⟩ := Visitor.foldl_recording hfollows []
  refine ⟨listing, (moves rejects [] listing).map (Move.call rejects), hl, ?_, holds.tours hl⟩
  rw [← relText_nil, Visitor.walk_eq Visitor.keeps_never ordered [] (by simp) _ hrecording not_false,
    Visitor.walk_eq Visitor.keeps_never ordered [] (by simp) _ hfollows not_false, hrecord,
    List.nil_append, List.map_map]
  rfl

/-- A folder with a link to one of its folders in it. -/
def linkedTree : Workspace where
  root := .folder [("l", .link "a"), ("b", .folder [("x", .file ⟨#[]⟩)]), (".git", .folder []),
    ("a", .folder [("c", .folder []), ("d", .file ⟨#[]⟩)])]

/-- A visitor that rejects the folders that it is asked for when it has seen one file. -/
def fileCounter : Visitor Nat where
  enter _ files count := count + files.length
  skips _ count := (count = 1, count)

example : (linkedTree.listing ⟨"", []⟩).toOption.map (fun listing =>
    walk fileCounter.recording "" listing (0, [])) = some (2,
    [.enter "" [], .ask "a" false, .ask "b" false, .ask "l" false, .enter "a" ["d"], .ask "a/c" true,
      .enter "b" ["x"]]) := by cbv

theorem walk_tours_linkedTree :
    linkedTree.HoldsFolder ⟨"", []⟩ [] linkedTree.root ∧ ∃ listing calls,
      linkedTree.listing ⟨"", []⟩ = .ok listing ∧
      walk fileCounter.recording "" listing (0, []) =
        (walk fileCounter "" listing 0, calls.map Call.text) ∧ linkedTree.Tours [] calls := by
  have wellNamed : linkedTree.root.WellNamed := by
    simp [linkedTree, Node.WellNamed, Node.AllWellNamed]
  have holds : linkedTree.HoldsFolder ⟨"", []⟩ [] linkedTree.root := ⟨wellNamed, by cbv, rfl, rfl⟩
  exact ⟨holds, walk_tours holds fileCounter 0⟩

end Workspace

end Polyglot.Files
