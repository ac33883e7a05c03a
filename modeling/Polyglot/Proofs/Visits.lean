import Polyglot.Proofs.Moves

namespace Polyglot.Files

/-- Whether a walk meets a file before another: the files of a folder come in order, before those of
the folders in it, which come in order too. -/
def Precedes : Place → Place → Prop
  | [name], [other] => name < other
  | [_], _ :: _ :: _ => True
  | name :: rest, other :: others =>
    rest ≠ [] ∧ others ≠ [] ∧ (name < other ∨ name = other ∧ Precedes rest others)
  | _, _ => False

theorem precedes_cons {name other : String} {rest others : Place} (hr : rest ≠ []) (ho : others ≠ []) :
    Precedes (name :: rest) (other :: others) ↔ name < other ∨ name = other ∧ Precedes rest others := by
  obtain ⟨a, as, rfl⟩ := List.exists_cons_of_ne_nil hr
  obtain ⟨b, bs, rfl⟩ := List.exists_cons_of_ne_nil ho
  simp [Precedes]

theorem precedes_append (place : Place) {rest others : Place} (hr : rest ≠ []) (ho : others ≠ []) :
    Precedes (place ++ rest) (place ++ others) ↔ Precedes rest others := by
  induction place with
  | nil => rfl
  | cons name front ih =>
    rw [List.cons_append, List.cons_append, precedes_cons (by simp [hr]) (by simp [ho]), ih]
    simp

theorem precedes_irrefl (place : Place) : ¬ Precedes place place := by
  induction place with
  | nil => simp [Precedes]
  | cons name rest ih =>
    cases rest with
    | nil => simp [Precedes]
    | cons next others =>
      rw [precedes_cons (by simp) (by simp)]
      simpa using ih

theorem nodup_of_precedes {files : List Place} (h : files.Pairwise Precedes) : files.Nodup := by
  refine h.imp ?_
  rintro file _ hp rfl
  exact precedes_irrefl file hp

theorem precedes_asymm {place other : Place} (h : Precedes place other) : ¬ Precedes other place := by
  induction place generalizing other with
  | nil => simp [Precedes] at h
  | cons name rest ih =>
    cases other with
    | nil => simp [Precedes] at h
    | cons next others =>
      by_cases hr : rest = []
      · subst hr
        cases others with
        | nil => exact lt_asymm (by simpa [Precedes] using h)
        | cons => simp [Precedes]
      · by_cases ho : others = []
        · subst ho
          cases rest <;> simp [Precedes] at h hr
        · rw [precedes_cons hr ho] at h
          rw [precedes_cons ho hr]
          rintro (hlt | ⟨rfl, hlt⟩) <;> rcases h with h | ⟨he, h⟩
          · exact lt_asymm h hlt
          · exact lt_irrefl _ (he ▸ hlt)
          · exact lt_irrefl _ h
          · exact ih h hlt

theorem eq_of_precedes {files others : List Place} (h : files.Pairwise Precedes)
    (h' : others.Pairwise Precedes) (same : ∀ file, file ∈ files ↔ file ∈ others) :
    files = others := by
  have hperm : files.Perm others :=
    (List.perm_ext_iff_of_nodup (nodup_of_precedes h) (nodup_of_precedes h')).mpr same
  exact hperm.eq_of_pairwise (fun _ _ _ _ hlt hgt => absurd hgt (precedes_asymm hlt)) h h'

namespace Move

/-- The folder that a move enters. -/
def entered : Move → List Place
  | enter folder _ => [folder]
  | ask _ => []

/-- The files that a move comes across. -/
def offered : Move → List Place
  | enter folder files => files.map fun name => folder ++ [name]
  | ask _ => []

/-- A move can be made: every folder above its own has been entered, and none below. -/
def Ready (before : List Place) : Move → Prop
  | enter folder files =>
    (∀ name ∈ folder, IsName name) ∧ (∀ name ∈ files, IsName name) ∧
      (∀ other, StrictlyAbove other folder → other ∈ before) ∧ ∀ other ∈ before, ¬ folder <+: other
  | ask folder =>
    (∀ name ∈ folder, IsName name) ∧ folder ≠ [] ∧ ∀ other, StrictlyAbove other folder → other ∈ before

end Move

/-- The folders that moves enter, in order. -/
def enteredBy (moves : List Move) : List Place := moves.flatMap Move.entered

/-- The files that moves come across, in order. -/
def offeredBy (moves : List Move) : List Place := moves.flatMap Move.offered

@[simp] theorem enteredBy_append (first second : List Move) :
    enteredBy (first ++ second) = enteredBy first ++ enteredBy second := List.flatMap_append

@[simp] theorem offeredBy_append (first second : List Move) :
    offeredBy (first ++ second) = offeredBy first ++ offeredBy second := List.flatMap_append

/-- Moves that can be made one after the other. -/
def Grounded : (before : List Place) → List Move → Prop
  | _, [] => True
  | before, move :: rest => move.Ready before ∧ Grounded (before ++ move.entered) rest

theorem grounded_append {before : List Place} {first second : List Move} :
    Grounded before (first ++ second) ↔
      Grounded before first ∧ Grounded (before ++ enteredBy first) second := by
  induction first generalizing before with
  | nil => simp [Grounded, enteredBy]
  | cons move rest ih =>
    rw [List.cons_append, Grounded, Grounded, ih, and_assoc]
    simp [enteredBy, List.append_assoc]

variable {rejects : Place → Bool}

theorem mem_movesInto {place : Place} {folders : List (String × Option Listing)} {move : Move} :
    move ∈ movesInto rejects place folders ↔ ∃ name listing, (name, some listing) ∈ folders ∧
      goesInto rejects place name = true ∧ move ∈ moves rejects (place ++ [name]) listing := by
  induction folders with
  | nil => simp [movesInto]
  | cons entry rest ih =>
    obtain ⟨name, listing⟩ := entry
    cases listing with
    | none =>
      rw [movesInto, ih]
      simp
    | some listing =>
      rw [movesInto, List.mem_append, ih]
      constructor
      · rintro (hm | ⟨other, below, hm, hg, h⟩)
        · by_cases hg : goesInto rejects place name = true
          · rw [if_pos hg] at hm
            exact ⟨name, listing, by simp, hg, hm⟩
          · simp [hg] at hm
        · exact ⟨other, below, List.mem_cons_of_mem _ hm, hg, h⟩
      · rintro ⟨other, below, hm, hg, h⟩
        rcases List.mem_cons.mp hm with he | hm
        · cases he
          left
          rwa [if_pos hg]
        · exact .inr ⟨other, below, hm, hg, h⟩

/-- What lies below a listing at a row of names. -/
inductive Listing.At : Listing → Place → Listing → Prop where
  | here (listing : Listing) : listing.At [] listing
  | deeper {listing inner found : Listing} {name : String} {rest : Place}
      (entry : (name, some inner) ∈ listing.folders) (further : inner.At rest found) :
      listing.At (name :: rest) found

/-- Whether a walk goes into every folder on the way from a place on. -/
def Passes (rejects : Place → Bool) (place rest : Place) : Prop :=
  ∀ front name, front ++ [name] <+: rest → goesInto rejects (place ++ front) name = true

theorem passes_cons {place rest : Place} {name : String} :
    Passes rejects place (name :: rest) ↔
      goesInto rejects place name = true ∧ Passes rejects (place ++ [name]) rest := by
  constructor
  · intro h
    refine ⟨by simpa using h [] name (by simp), fun front other hp => ?_⟩
    have := h (name :: front) other (by simpa using hp)
    simpa using this
  · rintro ⟨hn, hr⟩ front other hp
    cases front with
    | nil =>
      obtain ⟨rfl, -⟩ := List.cons_prefix_cons.mp hp
      simpa using hn
    | cons first front =>
      obtain ⟨rfl, hq⟩ := List.cons_prefix_cons.mp (List.cons_append ▸ hp)
      simpa using hr front other hq

theorem enter_mem_moves {listing : Listing} (ordered : listing.Ordered) {place folder : Place}
    {files : List String} :
    .enter folder files ∈ moves rejects place listing ↔ ∃ rest found, folder = place ++ rest ∧
      files = found.files ∧ listing.At rest found ∧ Passes rejects place rest := by
  constructor
  · intro h
    induction ordered generalizing place with
    | mk _ _ _ _ _ ih =>
      rw [moves, List.mem_cons, List.mem_append] at h
      rcases h with h | h | h
      · cases h
        exact ⟨[], _, by simp, rfl, .here _, fun front name hp => by simp at hp⟩
      · simp [asks] at h
      · obtain ⟨name, inner, hm, hg, h⟩ := mem_movesInto.mp h
        obtain ⟨rest, found, rfl, hf, hat, hp⟩ := ih name inner hm h
        exact ⟨name :: rest, found, by simp, hf, .deeper hm hat, passes_cons.mpr ⟨hg, hp⟩⟩
  · rintro ⟨rest, found, rfl, rfl, hat, hp⟩
    clear ordered
    induction hat generalizing place with
    | here listing =>
      obtain ⟨files, folders⟩ := listing
      simp [moves, Listing.files]
    | @deeper listing inner found name rest hm _ ih =>
      obtain ⟨files, folders⟩ := listing
      obtain ⟨hg, hp⟩ := passes_cons.mp hp
      have hin := ih hp
      rw [List.append_assoc, List.singleton_append] at hin
      rw [moves, List.mem_cons, List.mem_append]
      exact .inr (.inr (mem_movesInto.mpr ⟨name, inner, hm, hg, hin⟩))

theorem entered_moves {listing : Listing} (ordered : listing.Ordered) {place folder : Place}
    (h : folder ∈ enteredBy (moves rejects place listing)) : place <+: folder := by
  obtain ⟨move, hm, hf⟩ := List.mem_flatMap.mp h
  cases move with
  | ask other => simp [Move.entered] at hf
  | enter other files =>
    obtain rfl : folder = other := by simpa [Move.entered] using hf
    obtain ⟨rest, _, rfl, _⟩ := (enter_mem_moves ordered).mp hm
    exact List.prefix_append place rest

theorem grounded_asks {place : Place} (names : ∀ name ∈ place, IsName name)
    {folders : List (String × Option Listing)} (folderNames : ∀ folder ∈ folders, IsName folder.1)
    {before : List Place} (covered : ∀ other, other <+: place → other ∈ before) :
    Grounded before (asks place folders) := by
  induction folders with
  | nil => simp [asks, Grounded]
  | cons entry rest ih =>
    have hrest := ih fun folder hf => folderNames folder (List.mem_cons_of_mem _ hf)
    by_cases hv : isVersionControl entry.1 = true
    · simpa [asks, hv] using hrest
    · have hasks : asks place (entry :: rest) = .ask (place ++ [entry.1]) :: asks place rest := by
        simp [asks, hv]
      rw [hasks, Grounded]
      refine ⟨⟨names_concat names (folderNames entry (by simp)), by simp, ?_⟩, ?_⟩
      · exact fun other ho => covered other (strictlyAbove_concat.mp ho)
      · simpa [Move.entered] using hrest

theorem entered_asks (place : Place) (folders : List (String × Option Listing)) :
    enteredBy (asks place folders) = [] := by
  rw [enteredBy, List.flatMap_eq_nil_iff]
  intro move hm
  obtain ⟨folder, _, rfl⟩ := List.mem_map.mp hm
  rfl

theorem grounded_movesInto {place : Place} {folders : List (String × Option Listing)}
    (inOrder : folders.Pairwise fun folder other => folder.1 < other.1)
    (ordered : ∀ name listing, (name, some listing) ∈ folders → listing.Ordered)
    (grounded : ∀ name listing, (name, some listing) ∈ folders → ∀ before : List Place,
      (∀ other, StrictlyAbove other (place ++ [name]) → other ∈ before) →
      (∀ other ∈ before, ¬ place ++ [name] <+: other) →
      Grounded before (moves rejects (place ++ [name]) listing)) :
    ∀ before : List Place, (∀ other, other <+: place → other ∈ before) →
      (∀ folder ∈ folders, ∀ other ∈ before, ¬ place ++ [folder.1] <+: other) →
      Grounded before (movesInto rejects place folders) := by
  induction folders with
  | nil => simp [movesInto, Grounded]
  | cons entry rest ih =>
    intro before covered fresh
    obtain ⟨name, listing⟩ := entry
    rw [List.pairwise_cons] at inOrder
    have hothers := ih inOrder.2 (fun n l hm => ordered n l (List.mem_cons_of_mem _ hm))
      (fun n l hm => grounded n l (List.mem_cons_of_mem _ hm))
    have hfresh : ∀ folder ∈ rest, ∀ other ∈ before, ¬ place ++ [folder.1] <+: other :=
      fun folder hf => fresh folder (List.mem_cons_of_mem _ hf)
    cases listing with
    | none =>
      rw [movesInto]
      exact hothers before covered hfresh
    | some listing =>
      have hm : (name, some listing) ∈ (name, some listing) :: rest := by simp
      rw [movesInto, grounded_append]
      split
      · refine ⟨grounded name listing hm before ?_ (fresh _ hm), hothers _ ?_ ?_⟩
        · exact fun other ho => covered other (strictlyAbove_concat.mp ho)
        · exact fun other ho => List.mem_append_left _ (covered other ho)
        · intro folder hf other ho hp
          rcases List.mem_append.mp ho with ho | ho
          · exact hfresh folder hf other ho hp
          · have hin := entered_moves (ordered name listing hm) ho
            have hne : place ++ [name] ≠ place ++ [folder.1] := by
              simpa using (inOrder.1 folder hf).ne
            rcases List.prefix_or_prefix_of_prefix hin hp with h | h
            · exact hne (h.eq_of_length (by simp))
            · exact hne (h.eq_of_length (by simp)).symm
      · refine ⟨trivial, ?_⟩
        simp only [enteredBy, List.flatMap_nil, List.append_nil]
        exact hothers before covered hfresh

/-- A walk enters a folder after those above it and before those below it. -/
theorem grounded_moves {listing : Listing} (ordered : listing.Ordered) :
    ∀ place, (∀ name ∈ place, IsName name) → ∀ before : List Place,
      (∀ other, StrictlyAbove other place → other ∈ before) → (∀ other ∈ before, ¬ place <+: other) →
      Grounded before (moves rejects place listing) := by
  induction ordered with
  | @mk files folders _ foldersInOrder fileNames folderNames below ih =>
    intro place names before covered fresh
    have hcovered : ∀ other, other <+: place → other ∈ before ++ [place] := by
      intro other ho
      by_cases he : other = place
      · simp [he]
      · exact List.mem_append_left _ (covered other (strictlyAbove_iff.mpr ⟨ho, he⟩))
    have hfresh : ∀ folder ∈ folders, ∀ other ∈ before ++ [place], ¬ place ++ [folder.1] <+: other := by
      intro folder _ other ho hp
      have hplace : place <+: other := (List.prefix_append place [folder.1]).trans hp
      rcases List.mem_append.mp ho with ho | ho
      · exact fresh other ho hplace
      · rw [List.mem_singleton.mp ho] at hp
        have := hp.length_le
        simp at this
    rw [moves, Grounded, grounded_append, entered_asks, List.append_nil]
    refine ⟨⟨names, fileNames, covered, fresh⟩, grounded_asks names folderNames hcovered, ?_⟩
    refine grounded_movesInto foldersInOrder below ?_ _ hcovered hfresh
    intro name listing hm
    exact ih name listing hm _ (names_concat names (folderNames _ hm))

theorem grounded_walk {listing : Listing} (ordered : listing.Ordered) :
    Grounded [] (moves rejects [] listing) := by
  apply grounded_moves ordered [] (by simp)
  · rintro other ⟨rest, hr, he⟩
    exact absurd (List.append_eq_nil_iff.mp he.symm).2 hr
  · simp

theorem grounded_offered {before : List Place} {row : List Move} (h : Grounded before row)
    {file folder : Place} (hf : file ∈ offeredBy row) (ha : StrictlyAbove folder file) :
    folder ∈ before ++ enteredBy row := by
  induction row generalizing before with
  | nil => simp [offeredBy] at hf
  | cons move rest ih =>
    have hentered : enteredBy (move :: rest) = move.entered ++ enteredBy rest := by
      simp [enteredBy]
    rw [hentered, ← List.append_assoc]
    rw [offeredBy, List.flatMap_cons, List.mem_append] at hf
    rcases hf with hf | hf
    · cases move with
      | ask other => simp [Move.offered] at hf
      | enter other files =>
        obtain ⟨name, _, rfl⟩ := List.mem_map.mp hf
        refine List.mem_append_left _ ?_
        by_cases he : folder = other
        · simp [Move.entered, he]
        · have habove := strictlyAbove_iff.mpr ⟨strictlyAbove_concat.mp ha, he⟩
          exact List.mem_append_left _ (h.1.2.2.1 folder habove)
    · exact ih h.2 hf

theorem offered_names {before : List Place} {row : List Move} (h : Grounded before row) {file : Place}
    (hf : file ∈ offeredBy row) : file ≠ [] ∧ ∀ name ∈ file, IsName name := by
  induction row generalizing before with
  | nil => simp [offeredBy] at hf
  | cons move rest ih =>
    rw [offeredBy, List.flatMap_cons, List.mem_append] at hf
    rcases hf with hf | hf
    · cases move with
      | ask other => simp [Move.offered] at hf
      | enter folder files =>
        obtain ⟨name, hn, rfl⟩ := List.mem_map.mp hf
        exact ⟨by simp, names_concat h.1.1 (h.1.2.1 name hn)⟩
    · exact ih h.2 hf

/-- What every move keeps that can be made is kept by moves one after the other, along which the
visitor then answers what is known beforehand. -/
theorem moves_keep {σ : Type} {visitor : Visitor σ} {broken : σ → Prop} (inv : List Move → σ → Prop)
    {whole : List Move}
    (step : ∀ made move state, made ++ [move] <+: whole → move.Ready (enteredBy made) →
      inv made state → inv (made ++ [move]) (visitor.act state move) ∧
        ∀ folder, move = .ask folder → ¬ broken state →
          (visitor.skips (relText folder) state).1 = rejects folder) :
    ∀ row made state, made ++ row <+: whole → Grounded (enteredBy made) row → inv made state →
      visitor.Answers rejects broken row state ∧ inv (made ++ row) (row.foldl visitor.act state) := by
  intro row
  induction row with
  | nil =>
    intro made state _ _ h
    exact ⟨trivial, by simpa using h⟩
  | cons move rest ih =>
    intro made state hw hg h
    obtain ⟨hready, hrest⟩ := hg
    rw [List.append_cons] at hw
    obtain ⟨hnext, hanswer⟩ := step made move state ((List.prefix_append _ rest).trans hw) hready h
    have hentered : enteredBy (made ++ [move]) = enteredBy made ++ move.entered := by
      rw [enteredBy_append]
      simp [enteredBy]
    rw [← hentered] at hrest
    obtain ⟨hanswers, hinv⟩ := ih (made ++ [move]) _ hw hrest hnext
    rw [List.append_assoc, List.singleton_append] at hinv
    refine ⟨?_, hinv⟩
    cases move with
    | enter folder files => exact hanswers
    | ask folder => exact ⟨hanswer folder rfl, hanswers⟩

theorem walk_keeps {σ : Type} {visitor : Visitor σ} {broken : σ → Prop} (inv : List Move → σ → Prop)
    (keeps : visitor.Keeps broken) {listing : Listing} (ordered : listing.Ordered)
    (step : ∀ made move state, made ++ [move] <+: moves rejects [] listing →
      move.Ready (enteredBy made) → inv made state →
      inv (made ++ [move]) (visitor.act state move) ∧
        ∀ folder, move = .ask folder → ¬ broken state →
          (visitor.skips (relText folder) state).1 = rejects folder)
    {state : σ} (start : inv [] state) (whole : ¬ broken (walk visitor "" listing state)) :
    inv (moves rejects [] listing) (walk visitor "" listing state) := by
  obtain ⟨hanswers, hinv⟩ := moves_keep inv step _ [] state List.prefix_rfl (grounded_walk ordered) start
  rw [← relText_nil] at whole ⊢
  rw [Visitor.walk_eq keeps ordered [] (by simp) state hanswers whole]
  exact hinv

theorem offered_prefix {listing : Listing} (ordered : listing.Ordered) {place file : Place}
    (h : file ∈ offeredBy (moves rejects place listing)) :
    ∃ rest, rest ≠ [] ∧ file = place ++ rest := by
  obtain ⟨move, hm, hf⟩ := List.mem_flatMap.mp h
  cases move with
  | ask other => simp [Move.offered] at hf
  | enter other files =>
    obtain ⟨name, _, rfl⟩ := List.mem_map.mp hf
    obtain ⟨rest, _, rfl, _⟩ := (enter_mem_moves ordered).mp hm
    exact ⟨rest ++ [name], by simp, by simp⟩

theorem mem_offered_moves {listing : Listing} (ordered : listing.Ordered) {file : Place} :
    file ∈ offeredBy (moves rejects [] listing) ↔ ∃ folder name found, file = folder ++ [name] ∧
      listing.At folder found ∧ name ∈ found.files ∧ Passes rejects [] folder := by
  constructor
  · intro h
    obtain ⟨move, hm, hf⟩ := List.mem_flatMap.mp h
    cases move with
    | ask other => simp [Move.offered] at hf
    | enter folder files =>
      obtain ⟨name, hname, rfl⟩ := List.mem_map.mp hf
      obtain ⟨_, found, rfl, rfl, hat, hp⟩ := (enter_mem_moves ordered).mp hm
      exact ⟨folder, name, found, rfl, hat, hname, hp⟩
  · rintro ⟨folder, name, found, rfl, hat, hname, hp⟩
    exact List.mem_flatMap.mpr ⟨.enter folder found.files,
      (enter_mem_moves ordered).mpr ⟨folder, found, rfl, rfl, hat, hp⟩,
      List.mem_map.mpr ⟨name, hname, rfl⟩⟩

theorem offered_asks (place : Place) (folders : List (String × Option Listing)) :
    offeredBy (asks place folders) = [] := by
  rw [offeredBy, List.flatMap_eq_nil_iff]
  intro move hm
  obtain ⟨folder, _, rfl⟩ := List.mem_map.mp hm
  rfl

theorem offered_movesInto {place file : Place} {folders : List (String × Option Listing)}
    (h : file ∈ offeredBy (movesInto rejects place folders)) : ∃ name listing,
      (name, some listing) ∈ folders ∧ file ∈ offeredBy (moves rejects (place ++ [name]) listing) := by
  obtain ⟨move, hm, hf⟩ := List.mem_flatMap.mp h
  obtain ⟨name, listing, hm, _, h⟩ := mem_movesInto.mp hm
  exact ⟨name, listing, hm, List.mem_flatMap.mpr ⟨move, h, hf⟩⟩

theorem offered_movesInto_ordered {place : Place} {folders : List (String × Option Listing)}
    (inOrder : folders.Pairwise fun folder other => folder.1 < other.1)
    (ordered : ∀ name listing, (name, some listing) ∈ folders → listing.Ordered)
    (below : ∀ name listing, (name, some listing) ∈ folders →
      (offeredBy (moves rejects (place ++ [name]) listing)).Pairwise Precedes) :
    (offeredBy (movesInto rejects place folders)).Pairwise Precedes := by
  induction folders with
  | nil => simp [movesInto, offeredBy]
  | cons entry rest ih =>
    obtain ⟨name, listing⟩ := entry
    rw [List.pairwise_cons] at inOrder
    have hothers := ih inOrder.2 (fun n l hm => ordered n l (List.mem_cons_of_mem _ hm))
      (fun n l hm => below n l (List.mem_cons_of_mem _ hm))
    cases listing with
    | none => rwa [movesInto]
    | some listing =>
      rw [movesInto, offeredBy_append, List.pairwise_append]
      refine ⟨?_, hothers, ?_⟩
      · split
        · exact below name listing (by simp)
        · exact List.Pairwise.nil
      · intro file hf other ho
        split at hf
        · obtain ⟨r, hr, rfl⟩ := offered_prefix (ordered name listing (by simp)) hf
          obtain ⟨later, inner, hm, ho⟩ := offered_movesInto ho
          obtain ⟨s, hs, rfl⟩ := offered_prefix (ordered later inner (List.mem_cons_of_mem _ hm)) ho
          rw [List.append_assoc, List.append_assoc, precedes_append place (by simp) (by simp)]
          exact (precedes_cons hr hs).mpr (.inl (inOrder.1 _ hm))
        · simp [offeredBy] at hf

theorem offered_ordered {listing : Listing} (ordered : listing.Ordered) :
    ∀ place, (offeredBy (moves rejects place listing)).Pairwise Precedes := by
  induction ordered with
  | @mk files folders filesInOrder foldersInOrder _ _ below ih =>
    intro place
    have hinto : (offeredBy (movesInto rejects place folders)).Pairwise Precedes :=
      offered_movesInto_ordered foldersInOrder below fun name listing hm => ih name listing hm _
    rw [moves, offeredBy, List.flatMap_cons]
    change (files.map (fun name => place ++ [name]) ++
      offeredBy (asks place folders ++ movesInto rejects place folders)).Pairwise Precedes
    rw [offeredBy_append, offered_asks, List.nil_append, List.pairwise_append, List.pairwise_map]
    refine ⟨?_, hinto, ?_⟩
    · refine filesInOrder.imp ?_
      intro name other h
      rw [precedes_append place (by simp) (by simp)]
      exact h
    · intro file hf other ho
      obtain ⟨name, _, rfl⟩ := List.mem_map.mp hf
      obtain ⟨folder, inner, hm, ho⟩ := offered_movesInto ho
      obtain ⟨rest, hr, rfl⟩ := offered_prefix (below folder inner hm) ho
      obtain ⟨next, others, rfl⟩ := List.exists_cons_of_ne_nil hr
      rw [List.append_assoc, precedes_append place (by simp) (by simp)]
      simp [Precedes]

end Polyglot.Files
