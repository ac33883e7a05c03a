import Polyglot.Proofs.Places

namespace Polyglot.Files

variable {σ : Type}

/-- A listing in which the names of the files and those of the folders are in order. -/
inductive Listing.Ordered : Listing → Prop where
  | mk {files : List String} {folders : List (String × Option Listing)}
      (filesInOrder : files.Pairwise (· < ·))
      (foldersInOrder : folders.Pairwise fun folder other => folder.1 < other.1)
      (fileNames : ∀ name ∈ files, IsName name)
      (folderNames : ∀ folder ∈ folders, IsName folder.1)
      (below : ∀ name listing, (name, some listing) ∈ folders → listing.Ordered) :
      (Listing.mk files folders).Ordered

/-- What a walk does next. -/
inductive Move where
  | enter (folder : Place) (files : List String)
  | ask (folder : Place)

/-- Whether a walk that is in a folder goes on into the folder of a name. -/
def goesInto (rejects : Place → Bool) (place : Place) (name : String) : Bool :=
  !isVersionControl name && !rejects (place ++ [name])

/-- A walk asks for the folders that are not of version control. -/
def asks (place : Place) (folders : List (String × Option Listing)) : List Move :=
  (folders.filter fun folder => !isVersionControl folder.1).map fun folder =>
    .ask (place ++ [folder.1])

mutual

/-- The moves of a walk through a folder if some folders are rejected. -/
def moves (rejects : Place → Bool) (place : Place) : Listing → List Move
  | .mk files folders => .enter place files :: (asks place folders ++ movesInto rejects place folders)

def movesInto (rejects : Place → Bool) (place : Place) : List (String × Option Listing) → List Move
  | [] => []
  | (name, some listing) :: rest =>
    (if goesInto rejects place name then moves rejects (place ++ [name]) listing else []) ++
      movesInto rejects place rest
  | (_, none) :: rest => movesInto rejects place rest

end

namespace Visitor

/-- What a move makes of the state. -/
def act (visitor : Visitor σ) (state : σ) : Move → σ
  | .enter folder files => visitor.enter (relText folder) files state
  | .ask folder => (visitor.skips (relText folder) state).2

/-- Along moves the visitor answers what is known beforehand, unless the state is broken. -/
def Answers (visitor : Visitor σ) (rejects : Place → Bool) (broken : σ → Prop) :
    List Move → σ → Prop
  | [], _ => True
  | .enter folder files :: rest, state =>
    visitor.Answers rejects broken rest (visitor.act state (.enter folder files))
  | .ask folder :: rest, state =>
    (¬ broken state → (visitor.skips (relText folder) state).1 = rejects folder) ∧
      visitor.Answers rejects broken rest (visitor.act state (.ask folder))

/-- What is broken stays broken. -/
structure Keeps (visitor : Visitor σ) (broken : σ → Prop) : Prop where
  enter : ∀ folder files state, broken state → broken (visitor.enter folder files state)
  skips : ∀ folder state, broken state → broken (visitor.skips folder state).2

variable {visitor : Visitor σ} {rejects : Place → Bool} {broken : σ → Prop}

theorem answers_append {first second : List Move} {state : σ} :
    visitor.Answers rejects broken (first ++ second) state ↔
      visitor.Answers rejects broken first state ∧
        visitor.Answers rejects broken second (first.foldl visitor.act state) := by
  induction first generalizing state with
  | nil => simp [Answers]
  | cons move rest ih =>
    cases move with
    | enter folder files => exact ih
    | ask folder =>
      simp only [List.cons_append, Answers, ih, List.foldl_cons, and_assoc]

theorem Keeps.askAll (keeps : visitor.Keeps broken) (folder : String)
    (folders : List (String × Option Listing)) {state : σ} (h : broken state) :
    broken (Files.askAll visitor folder folders state).2 := by
  induction folders generalizing state with
  | nil => exact h
  | cons entry rest ih =>
    rw [Files.askAll]
    split
    · exact ih h
    · exact ih (keeps.skips _ _ h)

theorem keeps_walkInto {folder : String} {folders : List (String × Option Listing)}
    (below : ∀ name listing, (name, some listing) ∈ folders →
      ∀ text state, broken state → broken (Files.walk visitor text listing state))
    (entered : List Bool) {state : σ} (h : broken state) :
    broken (Files.walkInto visitor folder folders entered state) := by
  induction folders generalizing entered state with
  | nil => simpa [Files.walkInto] using h
  | cons entry rest ih =>
    have hrest := ih (fun name listing hm => below name listing (List.mem_cons_of_mem _ hm))
    obtain ⟨name, listing⟩ := entry
    cases entered with
    | nil => cases listing <;> simpa [Files.walkInto] using h
    | cons go others =>
      cases listing with
      | none => simpa [Files.walkInto] using hrest others h
      | some listing =>
        cases go with
        | false => simpa [Files.walkInto] using hrest others h
        | true =>
          rw [Files.walkInto]
          exact hrest others (below name listing (by simp) _ _ h)

theorem Keeps.walk (keeps : visitor.Keeps broken) {listing : Listing} (ordered : listing.Ordered) :
    ∀ text state, broken state → broken (Files.walk visitor text listing state) := by
  induction ordered with
  | mk _ _ _ _ _ ih =>
    intro text state h
    rw [Files.walk]
    exact keeps_walkInto ih _ (keeps.askAll _ _ (keeps.enter _ _ _ h))

/-- Asking for folders gives the answers that are known and makes the moves of asking. -/
theorem askAll_eq (keeps : visitor.Keeps broken) {place : Place}
    (names : ∀ name ∈ place, IsName name) (folders : List (String × Option Listing)) {state : σ}
    (answers : visitor.Answers rejects broken (asks place folders) state)
    (whole : ¬ broken (Files.askAll visitor (relText place) folders state).2) :
    Files.askAll visitor (relText place) folders state =
      (folders.map (goesInto rejects place ·.1), (asks place folders).foldl visitor.act state) := by
  induction folders generalizing state with
  | nil => rfl
  | cons entry rest ih =>
    obtain ⟨name, listing⟩ := entry
    by_cases hv : isVersionControl name = true
    · have hasks : asks place ((name, listing) :: rest) = asks place rest := by simp [asks, hv]
      rw [hasks] at answers ⊢
      rw [Files.askAll, if_pos hv] at whole ⊢
      simp only [ih answers whole, List.map_cons, goesInto, hv, Bool.not_true, Bool.false_and]
    · have hasks : asks place ((name, listing) :: rest) =
          .ask (place ++ [name]) :: asks place rest := by simp [asks, hv]
      rw [hasks] at answers ⊢
      obtain ⟨hanswer, hanswers⟩ := answers
      rw [Files.askAll, if_neg hv, ← relText_concat names] at whole ⊢
      have hstate : ¬ broken state := fun hb => whole (keeps.askAll _ _ (keeps.skips _ _ hb))
      have hrest := ih hanswers whole
      simp only [act] at hrest
      simp only [hrest, hanswer hstate, List.map_cons, List.foldl_cons, goesInto, hv, act,
        Bool.not_false, Bool.true_and]

theorem walkInto_eq (keeps : visitor.Keeps broken) {place : Place}
    (names : ∀ name ∈ place, IsName name) {folders : List (String × Option Listing)}
    (ordered : ∀ name listing, (name, some listing) ∈ folders → listing.Ordered)
    (below : ∀ name listing, (name, some listing) ∈ folders → ∀ state,
      visitor.Answers rejects broken (moves rejects (place ++ [name]) listing) state →
      ¬ broken (Files.walk visitor (relText (place ++ [name])) listing state) →
      Files.walk visitor (relText (place ++ [name])) listing state =
        (moves rejects (place ++ [name]) listing).foldl visitor.act state)
    {state : σ} (answers : visitor.Answers rejects broken (movesInto rejects place folders) state)
    (whole : ¬ broken (Files.walkInto visitor (relText place) folders
      (folders.map (goesInto rejects place ·.1)) state)) :
    Files.walkInto visitor (relText place) folders (folders.map (goesInto rejects place ·.1)) state =
      (movesInto rejects place folders).foldl visitor.act state := by
  induction folders generalizing state with
  | nil => simp [Files.walkInto, movesInto]
  | cons entry rest ih =>
    have ordered' : ∀ name listing, (name, some listing) ∈ rest → listing.Ordered :=
      fun name listing hm => ordered name listing (List.mem_cons_of_mem _ hm)
    have below' := fun name listing hm => below name listing (List.mem_cons_of_mem entry hm)
    obtain ⟨name, listing⟩ := entry
    rw [List.map_cons] at whole ⊢
    cases listing with
    | none =>
      rw [movesInto] at answers ⊢
      simp only [Files.walkInto] at whole ⊢
      exact ih ordered' below' answers whole
    | some listing =>
      rw [movesInto] at answers ⊢
      cases hg : goesInto rejects place name with
      | false =>
        simp only [hg, Bool.false_eq_true, ↓reduceIte, List.nil_append, Files.walkInto]
          at answers whole ⊢
        exact ih ordered' below' answers whole
      | true =>
        simp only [hg, ↓reduceIte, Files.walkInto] at answers whole ⊢
        rw [← relText_concat names] at whole ⊢
        obtain ⟨hfirst, hothers⟩ := answers_append.mp answers
        -- What is broken stays broken, and in the end the walk is not.
        have hwalk : ¬ broken (Files.walk visitor (relText (place ++ [name])) listing state) := by
          intro hb
          exact whole (keeps_walkInto (fun n l hm => keeps.walk (ordered' n l hm)) _ hb)
        have heq := below name listing (by simp) state hfirst hwalk
        rw [heq] at whole ⊢
        rw [List.foldl_append]
        exact ih ordered' below' hothers whole

/-- If the visitor answers what is known beforehand, a walk that does not break makes the moves that
are known beforehand. -/
theorem walk_eq (keeps : visitor.Keeps broken) {listing : Listing} (ordered : listing.Ordered) :
    ∀ place, (∀ name ∈ place, IsName name) → ∀ state,
      visitor.Answers rejects broken (moves rejects place listing) state →
      ¬ broken (Files.walk visitor (relText place) listing state) →
      Files.walk visitor (relText place) listing state =
        (moves rejects place listing).foldl visitor.act state := by
  induction ordered with
  | @mk files folders _ _ _ folderNames below ih =>
    intro place names state answers whole
    rw [moves] at answers ⊢
    obtain ⟨hasks, hinto⟩ := answers_append.mp answers
    rw [Files.walk] at whole ⊢
    have hasked : ¬ broken (Files.askAll visitor (relText place) folders
        (visitor.enter (relText place) files state)).2 := by
      intro hb
      exact whole (keeps_walkInto (fun n l hm => keeps.walk (below n l hm)) _ hb)
    have heq : Files.askAll visitor (relText place) folders
        (visitor.enter (relText place) files state) = _ := askAll_eq keeps names folders hasks hasked
    simp only [heq] at whole ⊢
    have hwalked := walkInto_eq keeps names below
      (fun name listing hm => ih name listing hm _ (names_concat names (folderNames _ hm))) hinto whole
    rw [List.foldl_cons, List.foldl_append]
    exact hwalked

end Visitor

end Polyglot.Files
