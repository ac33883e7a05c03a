import Polyglot.Proofs.Tree

namespace Polyglot.Files

namespace Workspace

/-- Where a link in a folder leads. -/
def aim (ws : Workspace) (folder : Place) (target : String) : Except LookupError Place :=
  ws.follow (linkLimit - 1) (startOf folder target) (stepsOf target)

/-- Whether the node of a place is a link that leads nowhere. -/
def isDead (ws : Workspace) (place : Place) : Node → Bool
  | .link target => !(ws.aim place.dropLast target).isOk
  | _ => false

mutual

/-- What is left of the node of a place without dead links. -/
def alive (ws : Workspace) (place : Place) : Node → Node
  | .file content => .file content
  | .link target => .link target
  | .folder entries => .folder (aliveAll ws place entries)

def aliveAll (ws : Workspace) (place : Place) : List (String × Node) → List (String × Node)
  | [] => []
  | (name, node) :: rest =>
    if ws.isDead (place ++ [name]) node then aliveAll ws place rest
    else (name, alive ws (place ++ [name]) node) :: aliveAll ws place rest

end

/-- A workspace without its dead links. -/
def withoutDead (ws : Workspace) : Workspace := { ws with root := ws.alive [] ws.root }

/-- Whether there is a dead link at a place. -/
def deadAt (ws : Workspace) (place : Place) : Bool := (ws.root.at? place).any (ws.isDead place)

variable {ws : Workspace}

theorem isDead_eq_true {place : Place} {node : Node} : ws.isDead place node = true ↔
    ∃ target error, node = .link target ∧ ws.aim place.dropLast target = .error error := by
  cases node with
  | file content => simp [isDead]
  | folder entries => simp [isDead]
  | link target =>
    cases h : ws.aim place.dropLast target with
    | ok reached => simp [isDead, h, Except.isOk, Except.toBool]
    | error error => simp [isDead, h, Except.isOk, Except.toBool]

theorem isDead_of_not_link {node : Node} (h : ∀ target, node ≠ .link target) (place : Place) :
    ws.isDead place node = false := by
  cases node with
  | file content => rfl
  | folder entries => rfl
  | link target => exact absurd rfl (h target)

@[simp] theorem isFolder_alive (place : Place) (node : Node) :
    (ws.alive place node).isFolder = node.isFolder := by
  cases node <;> simp [alive, Node.isFolder]

theorem aliveAll_eq (place : Place) (entries : List (String × Node)) :
    ws.aliveAll place entries =
      (entries.filter fun entry => !ws.isDead (place ++ [entry.1]) entry.2).map fun entry =>
        (entry.1, ws.alive (place ++ [entry.1]) entry.2) := by
  induction entries with
  | nil => simp [aliveAll]
  | cons entry rest ih =>
    obtain ⟨name, node⟩ := entry
    rw [aliveAll, ih]
    cases h : ws.isDead (place ++ [name]) node <;> simp [h]

theorem entries_alive (place : Place) (node : Node) :
    (ws.alive place node).entries = ws.aliveAll place node.entries := by
  cases node <;> simp [alive, Node.entries, aliveAll]

mutual

theorem alive_wellNamed (place : Place) :
    ∀ node : Node, node.WellNamed → (ws.alive place node).WellNamed
  | .file _, _ => by simp [alive, Node.WellNamed]
  | .link _, _ => by simp [alive, Node.WellNamed]
  | .folder entries, h => by
    rw [Node.WellNamed] at h
    rw [alive, Node.WellNamed]
    refine ⟨?_, aliveAll_wellNamed place entries h.2⟩
    rw [aliveAll_eq, List.map_map]
    exact h.1.sublist (List.filter_sublist.map _)

theorem aliveAll_wellNamed (place : Place) : ∀ entries : List (String × Node),
    Node.AllWellNamed entries → Node.AllWellNamed (ws.aliveAll place entries)
  | [], _ => by simp [aliveAll, Node.AllWellNamed]
  | (name, node) :: rest, h => by
    rw [Node.AllWellNamed] at h
    rw [aliveAll]
    split
    · exact aliveAll_wellNamed place rest h.2.2
    · rw [Node.AllWellNamed]
      exact ⟨h.1, alive_wellNamed _ node h.2.1, aliveAll_wellNamed place rest h.2.2⟩

end

theorem find?_aliveAll {entries : List (String × Node)} (nodup : (entries.map Prod.fst).Nodup)
    (place : Place) (name : String) :
    (ws.aliveAll place entries).find? (·.1 == name) =
      ((entries.find? (·.1 == name)).filter fun entry => !ws.isDead (place ++ [name]) entry.2).map
        fun entry => (entry.1, ws.alive (place ++ [name]) entry.2) := by
  induction entries with
  | nil => simp [aliveAll]
  | cons entry rest ih =>
    obtain ⟨first, node⟩ := entry
    rw [List.map_cons, List.nodup_cons] at nodup
    by_cases he : first = name
    · subst he
      have hnone : (ws.aliveAll place rest).find? (·.1 == first) = none := by
        rw [ih nodup.2]
        have : rest.find? (·.1 == first) = none := by
          rw [List.find?_eq_none]
          intro entry hm he
          exact nodup.1 (List.mem_map.mpr ⟨entry, hm, by simpa using he⟩)
        simp [this]
      rw [aliveAll]
      cases h : ws.isDead (place ++ [first]) node <;> simp [h, hnone]
    · rw [List.find?_cons_of_neg (by simpa using he), ← ih nodup.2, aliveAll]
      split
      · rfl
      · rw [List.find?_cons_of_neg (by simpa using he)]

theorem child?_alive {node : Node} (hw : node.WellNamed) (place : Place) (name : String) :
    (ws.alive place node).child? name =
      ((node.child? name).filter fun child => !ws.isDead (place ++ [name]) child).map
        (ws.alive (place ++ [name])) := by
  rw [Node.child?, entries_alive, find?_aliveAll hw.nodup, Node.child?]
  cases node.entries.find? (·.1 == name) with
  | none => rfl
  | some entry => cases h : ws.isDead (place ++ [name]) entry.2 <;> simp [Option.filter, h]

theorem at?_alive {node : Node} (hw : node.WellNamed) {top : Place}
    (live : ws.isDead top node = false) (place : Place) :
    (ws.alive top node).at? place =
      ((node.at? place).filter fun found => !ws.isDead (top ++ place) found).map
        (ws.alive (top ++ place)) := by
  induction place generalizing top node with
  | nil => simp [Node.at?, live]
  | cons name rest ih =>
    rw [Node.at?, child?_alive hw, Node.at?]
    cases hc : node.child? name with
    | none => rfl
    | some child =>
      cases hd : ws.isDead (top ++ [name]) child with
      | false => simpa [Option.filter, hd] using ih (hw.mem (Node.child?_mem hc)).2 hd
      | true =>
        -- A link has nothing below it.
        obtain ⟨target, _, rfl, _⟩ := isDead_eq_true.mp hd
        cases rest with
        | nil => simp [Option.filter, hd, Node.at?]
        | cons next others => simp [Option.filter, hd, Node.at?, Node.child?, Node.entries]

/-- Where there is a folder at a place, the root of the tree is no link. -/
theorem root_not_link {place : Place} {node : Node} (h : ws.root.at? place = some node)
    (isFolder : node.isFolder = true) (target : String) : ws.root ≠ .link target := by
  intro hroot
  rw [hroot] at h
  cases place with
  | nil =>
    cases h
    cases isFolder
  | cons name rest => simp [Node.at?, Node.child?, Node.entries] at h

theorem stepsOf_name {name : String} (hn : IsName name) : stepsOf name = [name] := by
  obtain ⟨hne, _, _, slash⟩ := hn
  have hend : name.endsWith "/" = false := by
    rw [Bool.eq_false_iff, ← String.endsWith_toSlice]
    intro h
    have hsuffix := String.Slice.endsWith_string_iff.mp h
    rw [String.copy_toSlice] at hsuffix
    exact slash (hsuffix.subset (by simp))
  rw [stepsOf, hend, splitOn_of_not_mem slash]
  simp [Text.ofPieces, hne]

theorem follow_start {links : Nat} {place reached : Place} {parts rest : List String}
    (h : ws.follow links place (parts ++ rest) = .ok reached) :
    ∃ between, ws.follow links place parts = .ok between := by
  fun_induction ws.follow links place parts with
  | case1 links place => exact ⟨place, rfl⟩
  | case2 links place others entries hat ih => exact ih (by rwa [List.cons_append, follow_dot hat] at h)
  | case3 links place others entries hat hdot ih =>
    exact ih (by rwa [List.cons_append, follow_dots hat] at h)
  | case4 links place part others entries hat hdot hdots hfind =>
    rw [List.cons_append, follow_absent hat hdot hdots hfind] at h
    cases h
  | case5 place part others entries hat hdot hdots name target hfind =>
    rw [List.cons_append, follow_linkless hat hdot hdots hfind] at h
    cases h
  | case6 place part others entries hat hdot hdots name target hfind links ih =>
    rw [List.cons_append, follow_link hat hdot hdots hfind, ← List.append_assoc] at h
    exact ih h
  | case7 links place part others entries hat hdot hdots entry hlink hfind ih =>
    rw [List.cons_append, follow_entry hat hdot hdots hfind
      fun target he => hlink entry.1 target (by rw [← he])] at h
    exact ih h
  | case8 links place part others node noFolder hat =>
    rw [List.cons_append, follow] at h
    simp only [hat] at h
    cases h
  | case9 links place part others hat =>
    rw [List.cons_append, follow] at h
    simp [hat] at h

theorem follow_more {links more : Nat} {place : Place} {parts : List String}
    (h : ws.follow links place parts ≠ .error .tooManyLinks) (le : links ≤ more) :
    ws.follow more place parts = ws.follow links place parts := by
  fun_induction ws.follow links place parts generalizing more with
  | case1 links place => rw [follow]
  | case2 links place others entries hat ih => exact (follow_dot hat).trans (ih h le)
  | case3 links place others entries hat hdot ih => exact (follow_dots hat).trans (ih h le)
  | case4 links place part others entries hat hdot hdots hfind =>
    exact follow_absent hat hdot hdots hfind
  | case5 => exact absurd rfl h
  | case6 place part others entries hat hdot hdots name target hfind links ih =>
    obtain ⟨more, rfl⟩ : ∃ less, more = less + 1 := ⟨more - 1, by omega⟩
    exact (follow_link hat hdot hdots hfind).trans (ih h (by omega))
  | case7 links place part others entries hat hdot hdots entry hlink hfind ih =>
    exact (follow_entry hat hdot hdots hfind
      fun target he => hlink entry.1 target (by rw [← he])).trans (ih h le)
  | case8 links place part others node noFolder hat =>
    rw [follow]
    simp only [hat]
  | case9 links place part others hat =>
    rw [follow]
    simp only [hat]

/-- There is a node at a place, and it is no link. -/
def Stands (ws : Workspace) (place : Place) : Prop :=
  ∃ node, ws.root.at? place = some node ∧ ∀ target, node ≠ .link target

theorem stands_folder {place : Place} {node : Node} (h : ws.root.at? place = some node)
    (isFolder : node.isFolder = true) : ws.Stands place :=
  ⟨node, h, Node.not_link_of_isFolder isFolder⟩

theorem stands_dropLast {place : Place} {node : Node} (h : ws.root.at? place = some node)
    (isFolder : node.isFolder = true) : ws.Stands place.dropLast := by
  rcases List.eq_nil_or_concat place with rfl | ⟨front, name, rfl⟩
  · exact stands_folder h isFolder
  · rw [List.concat_eq_append, Node.at?_concat] at h
    obtain ⟨above, ha, hc⟩ := Option.bind_eq_some_iff.mp h
    obtain ⟨entries, rfl⟩ := Node.folder_of_child? hc
    simpa using stands_folder ha rfl

theorem stands_startOf {place : Place} {node : Node} (h : ws.root.at? place = some node)
    (isFolder : node.isFolder = true) (target : String) : ws.Stands (startOf place target) := by
  rw [startOf]
  split
  · exact ⟨ws.root, rfl, root_not_link h isFolder⟩
  · exact stands_folder h isFolder

theorem Stands.follow {links : Nat} {place reached : Place} {parts : List String}
    (start : ws.Stands place) (h : ws.follow links place parts = .ok reached) :
    ws.Stands reached := by
  fun_induction ws.follow links place parts with
  | case1 links place =>
    cases h
    exact start
  | case2 links place others entries hat ih => exact ih start h
  | case3 links place others entries hat hdot ih => exact ih (stands_dropLast hat rfl) h
  | case4 => cases h
  | case5 => cases h
  | case6 place part others entries hat hdot hdots name target hfind links ih =>
    exact ih (stands_startOf hat rfl target) h
  | case7 links place part others entries hat hdot hdots entry hlink hfind ih =>
    refine ih ⟨entry.2, ?_, fun target he => hlink entry.1 target (by rw [← he])⟩ h
    rw [Node.at?_concat, hat]
    simp [Node.child?, Node.entries, hfind]
  | case8 => cases h
  | case9 => cases h

/-- What leads to a place in one workspace leads there in both, with as many links left, unless links
run out in both. -/
def LeadsAlike (ws others : Workspace) (links : Nat) (place : Place) (parts : List String)
    (reached : Place) : Prop :=
  (∃ left ≤ links, ∀ rest, ws.follow links place (parts ++ rest) = ws.follow left reached rest ∧
      others.follow links place (parts ++ rest) = others.follow left reached rest) ∨
    ∀ rest, ws.follow links place (parts ++ rest) = .error .tooManyLinks ∧
      others.follow links place (parts ++ rest) = .error .tooManyLinks

theorem at?_withoutDead (wellNamed : ws.root.WellNamed) {place : Place} {node : Node}
    (h : ws.root.at? place = some node) (live : ws.isDead place node = false)
    (rooted : ws.isDead [] ws.root = false) :
    ws.withoutDead.root.at? place = some (ws.alive place node) := by
  have hat := at?_alive wellNamed rooted place
  rw [List.nil_append, h] at hat
  rw [withoutDead, hat]
  simp [Option.filter, live]

theorem folder_withoutDead (wellNamed : ws.root.WellNamed) {place : Place}
    {entries : List (String × Node)} (h : ws.root.at? place = some (.folder entries)) :
    ws.withoutDead.root.at? place = some (.folder (ws.aliveAll place entries)) := by
  rw [at?_withoutDead wellNamed h rfl (isDead_of_not_link (root_not_link h rfl) []), alive]

theorem find?_withoutDead (wellNamed : ws.root.WellNamed) {place : Place} {part name : String}
    {entries : List (String × Node)} (hat : ws.root.at? place = some (.folder entries)) {child : Node}
    (hfind : entries.find? (·.1 == part) = some (name, child))
    (live : ws.isDead (place ++ [part]) child = false) :
    (ws.aliveAll place entries).find? (·.1 == part) =
      some (name, ws.alive (place ++ [part]) child) := by
  have nodup : (entries.map Prod.fst).Nodup := (wellNamed.at? hat).2.nodup
  rw [find?_aliveAll nodup, hfind]
  simp [Option.filter, live]

theorem live_of_follow {links : Nat} {place reached : Place} {target part : String}
    {rest : List String} (within : links < linkLimit)
    (h : ws.follow links (startOf place target) (stepsOf target ++ rest) = .ok reached) :
    ws.isDead (place ++ [part]) (.link target) = false := by
  obtain ⟨between, hb⟩ := follow_start h
  have haim : ws.aim place target = .ok between := by
    rw [aim, follow_more (by rw [hb]; simp) (by omega), hb]
  simp [isDead, haim, Except.isOk, Except.toBool]

/-- What leads somewhere leads there without the dead links, however many links may be followed. -/
theorem leadsAlike_withoutDead (wellNamed : ws.root.WellNamed) {limit : Nat} {place reached : Place}
    {parts : List String} (h : ws.follow limit place parts = .ok reached) (within : limit ≤ linkLimit) :
    ∀ links ≤ limit, LeadsAlike ws ws.withoutDead links place parts reached := by
  -- Along the names that are followed: only a link uses up one of those that may be followed.
  fun_induction ws.follow limit place parts with
  | case1 limit place =>
    cases h
    exact fun links le => .inl ⟨links, le_rfl, fun rest => ⟨rfl, rfl⟩⟩
  | case2 limit place others entries hat ih =>
    intro links le
    have hnext := ih h within links le
    simpa only [LeadsAlike, List.cons_append, follow_dot hat,
      follow_dot (folder_withoutDead wellNamed hat)] using hnext
  | case3 limit place others entries hat hdot ih =>
    intro links le
    have hnext := ih h within links le
    simpa only [LeadsAlike, List.cons_append, follow_dots hat,
      follow_dots (folder_withoutDead wellNamed hat)] using hnext
  | case4 => cases h
  | case5 => cases h
  | case6 place part others entries hat hdot hdots name target hfind limit ih =>
    have live : ws.isDead (place ++ [part]) (.link target) = false := live_of_follow (by omega) h
    have hat' := folder_withoutDead wellNamed hat
    have hfind' := find?_withoutDead wellNamed hat hfind live
    rw [alive] at hfind'
    intro links le
    cases links with
    | zero =>
      exact .inr fun rest => ⟨follow_linkless hat hdot hdots hfind,
        follow_linkless hat' hdot hdots hfind'⟩
    | succ links =>
      have hnext := ih h (by omega) links (by omega)
      rcases hnext with ⟨left, hl, hnext⟩ | hnext
      · refine .inl ⟨left, by omega, fun rest => ?_⟩
        rw [List.cons_append, follow_link hat hdot hdots hfind, follow_link hat' hdot hdots hfind',
          ← List.append_assoc]
        exact hnext rest
      · refine .inr fun rest => ?_
        rw [List.cons_append, follow_link hat hdot hdots hfind, follow_link hat' hdot hdots hfind',
          ← List.append_assoc]
        exact hnext rest
  | case7 limit place part others entries hat hdot hdots entry hlink hfind ih =>
    obtain ⟨name, child⟩ := entry
    have noLink : ∀ target, child ≠ .link target := fun target he => hlink name target (by rw [he])
    have hat' := folder_withoutDead wellNamed hat
    have hfind' := find?_withoutDead wellNamed hat hfind (isDead_of_not_link noLink _)
    have noLink' : ∀ target, ws.alive (place ++ [part]) child ≠ .link target := by
      cases child with
      | link target => exact absurd rfl (noLink target)
      | file content => simp [alive]
      | folder below => simp [alive]
    intro links le
    have hnext := ih h within links le
    simpa only [LeadsAlike, List.cons_append, follow_entry hat hdot hdots hfind noLink,
      follow_entry hat' hdot hdots hfind' noLink'] using hnext
  | case8 => cases h
  | case9 => cases h

section
variable (wellNamed : ws.root.WellNamed) {place : Place} {name : String} {entries : List (String × Node)}
  (hat : ws.root.at? place = some (.folder entries)) (hn : IsName name) {links : Nat}
include wellNamed hat hn

theorem follow_live (within : links ≤ linkLimit) (live : ws.deadAt (place ++ [name]) = false) :
    ws.withoutDead.follow links place [name] = ws.follow links place [name] := by
  obtain ⟨_, hdot, hdots, _⟩ := hn
  have hat' := folder_withoutDead wellNamed hat
  cases hfind : entries.find? (·.1 == name) with
  | none =>
    have nodup : (entries.map Prod.fst).Nodup := (wellNamed.at? hat).2.nodup
    have hfind' : (ws.aliveAll place entries).find? (·.1 == name) = none := by
      rw [find?_aliveAll nodup, hfind]
      rfl
    rw [follow_absent hat hdot hdots hfind, follow_absent hat' hdot hdots hfind']
  | some entry =>
    obtain ⟨first, child⟩ := entry
    have hchild : ws.root.at? (place ++ [name]) = some child := by
      rw [Node.at?_concat, hat]
      simp [Node.child?, Node.entries, hfind]
    rw [deadAt, hchild, Option.any_some] at live
    have hfind' := find?_withoutDead wellNamed hat hfind live
    cases child with
    | file content =>
      rw [alive] at hfind'
      rw [follow_entry hat hdot hdots hfind (by simp), follow_entry hat' hdot hdots hfind' (by simp),
        follow, follow]
    | folder below =>
      rw [alive] at hfind'
      rw [follow_entry hat hdot hdots hfind (by simp), follow_entry hat' hdot hdots hfind' (by simp),
        follow, follow]
    | link target =>
      rw [alive] at hfind'
      cases links with
      | zero => rw [follow_linkless hat hdot hdots hfind, follow_linkless hat' hdot hdots hfind']
      | succ links =>
        rw [follow_link hat hdot hdots hfind, follow_link hat' hdot hdots hfind']
        cases haim : ws.aim place target with
        | error error => simp [isDead, haim, Except.isOk, Except.toBool] at live
        | ok reached =>
          rcases leadsAlike_withoutDead wellNamed haim (by simp [linkLimit]) links
            (by simp only [linkLimit] at within ⊢; omega) with ⟨left, -, hboth⟩ | hboth
          · rw [(hboth []).1, (hboth []).2, follow, follow]
          · rw [(hboth []).1, (hboth []).2]

theorem follow_taken (short : name.utf8ByteSize ≤ nameLimit)
    (dead : ws.deadAt (place ++ [name]) = true) :
    ws.withoutDead.follow links place [name] = .error .missing := by
  obtain ⟨_, hdot, hdots, _⟩ := hn
  have hat' := folder_withoutDead wellNamed hat
  have nodup : (entries.map Prod.fst).Nodup := (wellNamed.at? hat).2.nodup
  rw [deadAt, Node.at?_concat, hat, Option.bind_some, Node.child?, Node.entries] at dead
  have hfind : (ws.aliveAll place entries).find? (·.1 == name) = none := by
    rw [find?_aliveAll nodup]
    cases hentry : entries.find? (·.1 == name) with
    | none => rfl
    | some entry =>
      rw [hentry, Option.map_some, Option.any_some] at dead
      simp [Option.filter, dead]
  rw [follow_absent hat' hdot hdots hfind, if_neg (Nat.not_lt.mpr short)]

omit wellNamed

/-- An entry that is dead leads nowhere. A name is too long on the way only if the link by itself ends
in too long a name. -/
theorem follow_dead (within : links ≤ linkLimit) (dead : ws.deadAt (place ++ [name]) = true) :
    ∃ error, ws.follow links place [name] = .error error ∧
      (error = .nameTooLong → ∃ target, ws.root.at? (place ++ [name]) = some (.link target) ∧
        ws.aim place target = .error .nameTooLong) := by
  obtain ⟨_, hdot, hdots, _⟩ := hn
  rw [deadAt] at dead
  obtain ⟨child, hchild⟩ : ∃ child, ws.root.at? (place ++ [name]) = some child := by
    cases hnone : ws.root.at? (place ++ [name]) with
    | none => simp [hnone] at dead
    | some child => exact ⟨child, rfl⟩
  rw [hchild, Option.any_some] at dead
  obtain ⟨target, error, rfl, haim⟩ := isDead_eq_true.mp dead
  rw [List.dropLast_concat] at haim
  have hname := hchild
  rw [Node.at?_concat, hat] at hname
  obtain ⟨⟨first, _⟩, hfind, rfl⟩ := Option.map_eq_some_iff.mp hname
  change entries.find? (·.1 == name) = _ at hfind
  cases links with
  | zero =>
    rw [follow_linkless hat hdot hdots hfind]
    exact ⟨.tooManyLinks, rfl, by simp⟩
  | succ links =>
    rw [follow_link hat hdot hdots hfind, List.append_nil]
    have hmore {outcome : Except LookupError Place}
        (h : ws.follow links (startOf place target) (stepsOf target) = outcome)
        (hne : outcome ≠ .error .tooManyLinks) : ws.aim place target = outcome := by
      rw [aim, follow_more (by rwa [h]) (by omega), h]
    cases hfollow : ws.follow links (startOf place target) (stepsOf target) with
    | ok reached =>
      have hreached := hmore hfollow (by simp)
      rw [haim] at hreached
      cases hreached
    | error met =>
      refine ⟨met, rfl, ?_⟩
      rintro rfl
      exact ⟨target, hchild, hmore hfollow (by simp)⟩

end

end Workspace

end Polyglot.Files
