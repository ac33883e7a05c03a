import Polyglot.Proofs.Accounts
import Polyglot.Proofs.Inputs

namespace Polyglot.Analysis

open Polyglot.Files

theorem find?_of_firstOfEachKey {entries : List Entry} {entry : Entry}
    (hm : entry ∈ firstOfEachKey entries) : entries.find? (·.key == entry.key) = some entry := by
  induction entries using key_induction with
  | nil => cases hm
  | cons first rest ih =>
    rw [firstOfEachKey_cons, List.mem_cons] at hm
    rcases hm with rfl | hm
    · simp
    · have hfind := ih hm
      have hne : first.key ≠ entry.key := by
        have hother := (List.mem_filter.mp (List.mem_of_find?_eq_some hfind)).2
        intro he
        simp [he] at hother
      rw [List.find?_cons_of_neg (by simpa using hne), ← hfind, List.find?_filter]
      refine congrArg (rest.find? ·) (funext fun other => ?_)
      by_cases hk : other.key = entry.key
      · simp [hk, Ne.symm hne]
      · simp [hk]

/-- An entry is for the file at a place of the tree and reported under the path of the place. -/
structure IsAt (node : Node) (entry : Entry) (place : Place) : Prop where
  file : (node.content? place).isSome = true
  key_eq : entry.key = (⟨"", place⟩ : Path).text
  path_eq : entry.path = ⟨"", place⟩

/-- Two entries are for one file, and the rules of both say the same of it. -/
structure RuledAlike (entry other : Entry) : Prop where
  key : entry.key = other.key
  rel : entry.rel = other.rel
  path : entry.path = other.path
  rules : entry.rules.on entry.rel = other.rules.on other.rel

variable {ws : Workspace} {catalog : Catalog} {options : Options} {node : Node} {base : RuleSet}
  {places : List Place} {entry other : Entry}

theorem RuledAlike.refl (entry : Entry) : RuledAlike entry entry := ⟨rfl, rfl, rfl, rfl⟩

/-- The same language is named for the file by both, and it is forced to be text, or to be binary, by
both or by none. -/
theorem RuledAlike.says_eq (h : RuledAlike entry other) :
    entry.rules.override? entry.rel = other.rules.override? other.rel ∧
      entry.rules.isText entry.rel = other.rules.isText other.rel ∧
      entry.rules.isBinary entry.rel = other.rules.isBinary other.rel := by
  obtain ⟨-, hrel, -, hon⟩ := h
  rw [hrel] at hon ⊢
  exact ⟨RuleSet.override?_congr hon, RuleSet.isText_congr hon, RuleSet.isBinary_congr hon⟩

theorem IsAt.locate (stands : ws.StandsIn node) {place : Place} (h : IsAt node entry place) :
    ws.locate entry.path = .ok (ws.here ++ place) := by
  rw [h.path_eq]
  exact locate_file stands h.file

theorem place_of_text (stands : ws.StandsIn node) {place place' : Place}
    (file : (node.content? place).isSome = true) (file' : (node.content? place').isSome = true)
    (he : (⟨"", place⟩ : Path).text = (⟨"", place'⟩ : Path).text) : place = place' := by
  have hbelow : ((⟨"", []⟩ : Path) ++ (⟨"", place⟩ : Path)).text =
      ((⟨"", []⟩ : Path) ++ (⟨"", place'⟩ : Path)).text := he
  exact text_injective (content?_ne_nil stands.holdsTree file) (content?_ne_nil stands.holdsTree file')
    (content?_names stands.holdsTree file) (content?_names stands.holdsTree file') hbelow

theorem IsAt.key_iff (stands : ws.StandsIn node) {place place' : Place} (h : IsAt node entry place)
    (h' : IsAt node other place') : entry.key = other.key ↔ place = place' := by
  rw [h.key_eq, h'.key_eq]
  constructor
  · exact place_of_text stands h.file h'.file
  · rintro rfl
    rfl

theorem firstOfEachKey_isAt (stands : ws.StandsIn node) {listed : List Entry} {files : List Place}
    (h : List.Forall₂ (IsAt node) listed files) :
    List.Forall₂ (IsAt node) (firstOfEachKey listed) files.eraseDups := by
  induction listed using key_induction generalizing files with
  | nil =>
    cases h
    exact .nil
  | cons first rest ih =>
    obtain ⟨place, others, hfirst, hrest, rfl⟩ := List.forall₂_cons_left_iff.mp h
    rw [firstOfEachKey_cons, List.eraseDups_cons]
    refine .cons hfirst (ih (List.rel_filter (fun entry file h => ?_) hrest))
    simp [h.key_iff stands hfirst]

theorem map_eq_of_forall₂ {α β γ : Type} {r : α → β → Prop} {f : α → γ} {g : β → γ}
    (hr : ∀ a b, r a b → f a = g b) {as : List α} {bs : List β} (h : List.Forall₂ r as bs) :
    as.map f = bs.map g := by
  induction h with
  | nil => rfl
  | cons hab _ ih => rw [List.map_cons, List.map_cons, hr _ _ hab, ih]

theorem exists_of_forall₂ {α β : Type} {r : α → β → Prop} {as : List α} {bs : List β}
    (h : List.Forall₂ r as bs) {a : α} (hm : a ∈ as) : ∃ b ∈ bs, r a b := by
  induction h with
  | nil => cases hm
  | cons hab _ ih =>
    rcases List.mem_cons.mp hm with rfl | hm
    · exact ⟨_, List.mem_cons_self, hab⟩
    · obtain ⟨b, hb, hr⟩ := ih hm
      exact ⟨b, List.mem_cons_of_mem _ hb, hr⟩

theorem forall₂_of_exists {α β : Type} {r : α → β → Prop} {as : List α}
    (h : ∀ a ∈ as, ∃ b, r a b) : ∃ bs, List.Forall₂ r as bs := by
  induction as with
  | nil => exact ⟨[], .nil⟩
  | cons a rest ih =>
    obtain ⟨b, hb⟩ := h a (by simp)
    obtain ⟨bs, hbs⟩ := ih fun other ho => h other (List.mem_cons_of_mem _ ho)
    exact ⟨b :: bs, .cons hb hbs⟩

theorem split_of_forall₂ {α β : Type} {r : α → β → Prop} {before : List α} {first : α}
    {after : List α} {bs : List β} (h : List.Forall₂ r (before ++ first :: after) bs) :
    ∃ before' first' after', bs = before' ++ first' :: after' ∧ List.Forall₂ r before before' ∧
      r first first' := by
  induction before generalizing bs with
  | nil =>
    obtain ⟨first', after', hfirst, _, rfl⟩ := List.forall₂_cons_left_iff.mp h
    exact ⟨[], first', after', rfl, .nil, hfirst⟩
  | cons other before ih =>
    obtain ⟨other', rest, hother, hrest, rfl⟩ := List.forall₂_cons_left_iff.mp h
    obtain ⟨before', first', after', rfl, hbefore, hfirst⟩ := ih hrest
    exact ⟨other' :: before', first', after', rfl, .cons hother hbefore, hfirst⟩

/-- Of the entries that were met each file is kept once, where it is met first and with the rules that
it is met with there. -/
structure KeptOnce (ws : Workspace) (node : Node) (met kept : List Entry) : Prop where
  distinct : (kept.map fun entry => ws.locate entry.path).Nodup
  /-- The files that are met are kept, and no others, in the order in which they are first met. -/
  order : ∃ files : List Place, (∀ file ∈ files, (node.content? file).isSome = true) ∧
    met.map (fun entry => ws.locate entry.path) = files.map (fun file => .ok (ws.here ++ file)) ∧
    kept.map (fun entry => ws.locate entry.path) =
      files.eraseDups.map (fun file => .ok (ws.here ++ file))
  /-- The rules say of a file what they say of it where it is first met. -/
  first : ∀ entry ∈ kept, ∃ before first after, met = before ++ first :: after ∧
    (∀ other ∈ before, ws.locate other.path ≠ ws.locate entry.path) ∧
    ws.locate first.path = ws.locate entry.path ∧ RuledAlike entry first ∧
    entry.rules.override? entry.rel = first.rules.override? first.rel ∧
    entry.rules.isText entry.rel = first.rules.isText first.rel ∧
    entry.rules.isBinary entry.rel = first.rules.isBinary first.rel

/-- Entries for files of the tree are kept once if they are kept once under each key. -/
theorem keptOnce (stands : ws.StandsIn node) {listed met : List Entry} {files : List Place}
    (hat : List.Forall₂ (IsAt node) listed files) (alike : List.Forall₂ RuledAlike listed met) :
    KeptOnce ws node met (firstOfEachKey listed) := by
  have hkept := firstOfEachKey_isAt stands hat
  have hlocate {entries : List Entry} {places : List Place}
      (h : List.Forall₂ (IsAt node) entries places) :
      entries.map (fun entry => ws.locate entry.path) =
        places.map (fun file => .ok (ws.here ++ file)) :=
    map_eq_of_forall₂ (fun _ _ h => h.locate stands) h
  refine ⟨?_, ⟨files, ?_, ?_, hlocate hkept⟩, ?_⟩
  · rw [hlocate hkept]
    refine (nodup_eraseDups files).map fun file file' he => ?_
    exact List.append_cancel_left (Except.ok.inj he)
  · intro file hm
    obtain ⟨entry, _, h⟩ := exists_of_forall₂ hat.flip hm
    exact h.file
  · rw [← hlocate hat]
    exact (map_eq_of_forall₂ (fun _ _ h => by rw [h.path]) alike).symm
  · intro entry hm
    obtain ⟨-, before, after, rfl, hbefore⟩ :=
      List.find?_eq_some_iff_append.mp (find?_of_firstOfEachKey hm)
    obtain ⟨before', first, after', rfl, hsame, hfirst⟩ := split_of_forall₂ alike
    refine ⟨before', first, after', rfl, ?_, by rw [hfirst.path], hfirst, hfirst.says_eq⟩
    intro other ho he
    obtain ⟨listed, hl, halike⟩ := exists_of_forall₂ hsame.flip ho
    obtain ⟨file, _, hfile⟩ := exists_of_forall₂ hat (List.mem_append_left _ hl)
    obtain ⟨file', _, hfile'⟩ := exists_of_forall₂ hat (a := entry) (by simp)
    rw [← halike.path, hfile.locate stands, hfile'.locate stands] at he
    have hkey := (hfile.key_iff stands hfile').mpr (List.append_cancel_left (Except.ok.inj he))
    simpa [hkey] using hbefore listed hl

theorem firstOfEachKey_eq_self {entries : List Entry} (h : (entries.map Entry.key).Nodup) :
    firstOfEachKey entries = entries := by
  induction entries with
  | nil => rfl
  | cons first rest ih =>
    rw [List.map_cons, List.nodup_cons] at h
    have hrest : (rest.filter fun other => !other.key == first.key) = rest := by
      refine List.filter_eq_self.mpr fun other hm => ?_
      have hne : other.key ≠ first.key := fun he => h.1 (he ▸ List.mem_map_of_mem hm)
      simp [hne]
    rw [firstOfEachKey_cons, hrest, ih h.2]

theorem folder_of_not_file (stands : ws.StandsIn node) {place : Place}
    (there : (node.at? place).isSome = true) (hp : ¬ (node.content? place).isSome = true) :
    ∃ tree, node.at? place = some tree ∧ tree.isFolder = true := by
  obtain ⟨tree, htree⟩ := Option.isSome_iff_exists.mp there
  have hfolder := hasFolder_eq stands there
  rw [hasFolder_at stands htree] at hfolder
  exact ⟨tree, htree, by simpa [hp] using hfolder⟩

/-- What is found at a place: a file that is admitted, or the files that are admitted in the tree
there. -/
theorem foundAt_eq_ok (stands : ws.StandsIn node) (hb : (Resolver.builtin catalog options).2 = .ok base)
    {place : Place} (there : (node.at? place).isSome = true) {found : List Found}
    (h : foundAt ws catalog options node base place = .ok found) :
    found = [] ∨
      Admitted catalog options node base place ∧
        found = [.file (⟨"", place⟩ : Path).text (relText place) ⟨"", place⟩] ∨
      ∃ tree files rules, node.at? place = some tree ∧ TakenUp catalog options tree base files rules ∧
        found = (files.map (entryAt ⟨"", place⟩ rules)).map .inTree := by
  rw [foundAt] at h
  split at h
  · rename_i hp
    cases ha : admission ws (Workspace.absolute ws.here) catalog options node base place with
    | error e => simp [ha, Except.map] at h
    | ok taken =>
      rw [ha] at h
      cases h
      cases taken with
      | false => exact .inl rfl
      | true => exact .inr (.inl ⟨(admission_ok hp ha).mp rfl, rfl⟩)
  · rename_i hp
    obtain ⟨tree, htree, isFolder⟩ := folder_of_not_file stands there hp
    rcases resolveTree_unless_unread (holdsTree_at stands htree isFolder) hb with
      ⟨files, rules, hentries, taken, _⟩ | ⟨_, hfail, _⟩
    · rw [hentries] at h
      cases h
      exact .inr (.inr ⟨tree, files, rules, htree, taken, rfl⟩)
    · rw [hfail] at h
      cases h

theorem unaskable_of_at {place : Place} {tree : Node} (htree : node.at? place = some tree)
    {refusal : Refusal} (h : Unaskable ⟨"", place⟩ tree refusal) : Unaskable ⟨"", []⟩ node refusal := by
  obtain ⟨folder, found, name, hf, isFolder, hn, hlong, rfl⟩ := h
  have hpath : (⟨"", place⟩ : Path) ++ (⟨"", folder ++ [name]⟩ : Path) =
      (⟨"", []⟩ : Path) ++ (⟨"", place ++ folder ++ [name]⟩ : Path) := by
    simp [Workspace.append_relative]
  rw [hpath] at hlong ⊢
  refine ⟨place ++ folder, found, name, ?_, isFolder, hn, hlong, rfl⟩
  rw [Node.at?_append, htree]
  exact hf

theorem foundAt_error (stands : ws.StandsIn node) (hb : (Resolver.builtin catalog options).2 = .ok base)
    {place : Place} (there : (node.at? place).isSome = true) {error : ResolveError}
    (h : foundAt ws catalog options node base place = .error error) :
    ∃ refusal, error = .refused refusal ∧
      ∃ root ∈ [⟨"", []⟩, Workspace.absolute ws.here], Unaskable root node refusal := by
  rw [foundAt] at h
  split at h
  · rename_i hp
    cases ha : admission ws (Workspace.absolute ws.here) catalog options node base place with
    | error e =>
      rw [ha] at h
      cases h
      obtain ⟨refusal, rfl, hlong⟩ := admission_error stands.holdsTree_absolute hp ha
      exact ⟨refusal, rfl, _, by simp, hlong⟩
    | ok taken => simp [ha, Except.map] at h
  · rename_i hp
    obtain ⟨tree, htree, isFolder⟩ := folder_of_not_file stands there hp
    rcases resolveTree_of_builtin (holdsTree_at stands htree isFolder) hb with
      ⟨files, rules, hentries, _⟩ | ⟨refusal, hfail, hlong⟩
    · rw [hentries] at h
      cases h
    · rw [hfail] at h
      cases h
      exact ⟨refusal, rfl, _, by simp, unaskable_of_at htree hlong⟩

theorem foundAt_isAt (stands : ws.StandsIn node) (hb : (Resolver.builtin catalog options).2 = .ok base)
    {place : Place} (there : (node.at? place).isSome = true) {found : List Found}
    (h : foundAt ws catalog options node base place = .ok found) (rules : RuleSet) :
    ∃ files : List Place, files.Nodup ∧
      List.Forall₂ (IsAt node) (found.map (Found.entry rules)) files := by
  rcases foundAt_eq_ok stands hb there h with
    rfl | ⟨hadmitted, rfl⟩ | ⟨tree, files, own, htree, taken, rfl⟩
  · exact ⟨[], List.nodup_nil, .nil⟩
  · exact ⟨[place], List.nodup_singleton place, .cons ⟨hadmitted.file, rfl, rfl⟩ .nil⟩
  · refine ⟨files.map (place ++ ·), taken.nodup.map fun _ _ => List.append_cancel_left, ?_⟩
    rw [inTree_entries, List.forall₂_map_left_iff, List.forall₂_map_right_iff, List.forall₂_same]
    intro file hm
    refine ⟨?_, rfl, rfl⟩
    have hfile := ((taken.mem_iff file).mp hm).file
    rwa [Node.content?, Node.at?_append, htree]

/-- What is found at a place has the same entries with all rules that say the same of it, if it is an
admitted file. -/
theorem foundAt_alike (stands : ws.StandsIn node) (hb : (Resolver.builtin catalog options).2 = .ok base)
    {place : Place} (there : (node.at? place).isSome = true) {found : List Found}
    (h : foundAt ws catalog options node base place = .ok found) {rules others : RuleSet}
    (same : Admitted catalog options node base place →
      rules.on (relText place) = others.on (relText place)) :
    List.Forall₂ RuledAlike (found.map (Found.entry rules)) (found.map (Found.entry others)) := by
  rcases foundAt_eq_ok stands hb there h with
    rfl | ⟨hadmitted, rfl⟩ | ⟨tree, files, own, htree, taken, rfl⟩
  · exact .nil
  · exact .cons ⟨rfl, rfl, rfl, same hadmitted⟩ .nil
  · rw [inTree_entries, inTree_entries]
    exact List.forall₂_same.mpr fun entry _ => .refl entry

theorem resolveInputs_single (stands : ws.StandsIn node)
    (hb : (Resolver.builtin catalog options).2 = .ok base) {place : Place}
    (there : (node.at? place).isSome = true) :
    match foundAt ws catalog options node base place with
    | .error e => (resolveInputs ws catalog options [⟨"", place⟩]).2 = .error e
    | .ok found => ∃ rules,
        (resolveInputs ws catalog options [⟨"", place⟩]).2 = .ok (found.map (Found.entry rules)) ∧
        (Admitted catalog options node base place →
          rules.on (relText place) =
            (rulesAbove catalog options node base place).on (relText place)) := by
  have exist : ∀ other ∈ [place], (node.at? other).isSome = true := by simpa using there
  have hfound := resolveInputs_found stands hb exist
  rw [List.mapM_cons, List.mapM_nil] at hfound
  cases hf : foundAt ws catalog options node base place with
  | error e =>
    rw [hf] at hfound
    exact hfound
  | ok found =>
    rw [hf] at hfound
    obtain ⟨rules, hok, hon⟩ := hfound
    obtain ⟨files, distinct, hat⟩ := foundAt_isAt stands hb there hf rules
    refine ⟨rules, ?_, hon place (by simp)⟩
    have hkeys : ((found.map (Found.entry rules)).map Entry.key).Nodup := by
      rw [map_eq_of_forall₂ (fun _ _ h => h.key_eq) hat]
      refine distinct.map_on fun file hm file' hm' he => ?_
      obtain ⟨_, _, h⟩ := exists_of_forall₂ hat.flip hm
      obtain ⟨_, _, h'⟩ := exists_of_forall₂ hat.flip hm'
      exact place_of_text stands h.file h'.file he
    have hflat : [found].flatten = found := by simp
    rw [← firstOfEachKey_eq_self hkeys, ← hflat]
    exact hok

theorem mapM_isAt (stands : ws.StandsIn node) (hb : (Resolver.builtin catalog options).2 = .ok base)
    (exist : ∀ place ∈ places, (node.at? place).isSome = true) {each : List (List Found)}
    (h : places.mapM (foundAt ws catalog options node base) = .ok each) (rules : RuleSet) :
    ∃ files, List.Forall₂ (IsAt node) (each.flatten.map (Found.entry rules)) files := by
  refine forall₂_of_exists fun entry hm => ?_
  obtain ⟨item, hitem, rfl⟩ := List.mem_map.mp hm
  obtain ⟨found, hfound, hin⟩ := List.mem_flatten.mp hitem
  obtain ⟨place, hplace, hf⟩ := mem_of_mapM h hfound
  obtain ⟨files, _, hat⟩ := foundAt_isAt stands hb (exist place hplace) hf rules
  obtain ⟨file, _, hfile⟩ := exists_of_forall₂ hat (List.mem_map_of_mem hin)
  exact ⟨file, hfile⟩

/-- The entries that an input comes to if nothing else is asked for. -/
def alone (ws : Workspace) (catalog : Catalog) (options : Options) (place : Place) :
    Except ResolveError (List Entry) :=
  (resolveInputs ws catalog options [⟨"", place⟩]).2

/-- Inputs that are asked for one by one come to what is found at their places, as far as the rules of
the folders above a file have a say in it. -/
theorem mapM_alone (stands : ws.StandsIn node) (hb : (Resolver.builtin catalog options).2 = .ok base)
    (exist : ∀ place ∈ places, (node.at? place).isSome = true) :
    match places.mapM (foundAt ws catalog options node base) with
    | .error e => places.mapM (alone ws catalog options) = .error e
    | .ok each => ∃ met, places.mapM (alone ws catalog options) = .ok met ∧
        ∀ rules : RuleSet, (∀ place ∈ places, Admitted catalog options node base place →
            rules.on (relText place) =
              (rulesAbove catalog options node base place).on (relText place)) →
          List.Forall₂ RuledAlike (each.flatten.map (Found.entry rules)) met.flatten := by
  induction places with
  | nil => exact ⟨[], rfl, fun _ _ => .nil⟩
  | cons place rest ih =>
    have there := exist place (by simp)
    have hsingle := resolveInputs_single stands hb there
    have hrest := ih fun other ho => exist other (List.mem_cons_of_mem _ ho)
    rw [List.mapM_cons, List.mapM_cons, alone]
    cases hf : foundAt ws catalog options node base place with
    | error e =>
      rw [hf] at hsingle
      rw [hsingle]
      rfl
    | ok found =>
      rw [hf] at hsingle
      obtain ⟨own, hok, hown⟩ := hsingle
      rw [hok]
      cases hm : rest.mapM (foundAt ws catalog options node base) with
      | error e =>
        rw [hm] at hrest
        rw [hrest]
        rfl
      | ok each =>
        rw [hm] at hrest
        obtain ⟨met, hmet, halike⟩ := hrest
        rw [hmet]
        refine ⟨found.map (Found.entry own) :: met, rfl, fun rules hon => ?_⟩
        have hfirst := foundAt_alike stands hb there hf fun hadmitted =>
          (hon place (by simp) hadmitted).trans (hown hadmitted).symm
        change List.Forall₂ RuledAlike ((found ++ each.flatten).map (Found.entry rules))
          (found.map (Found.entry own) ++ met.flatten)
        rw [List.map_append]
        exact List.rel_append hfirst
          (halike rules fun other ho => hon other (List.mem_cons_of_mem _ ho))

/-- Why inputs in a tree cannot be resolved: a pattern ends every run, or a path is too long. -/
def Unresolvable (ws : Workspace) (catalog : Catalog) (options : Options) (node : Node) :
    ResolveError → Prop
  | .pattern error => FatalPattern catalog options error
  | .refused refusal => ∃ root ∈ [⟨"", []⟩, Workspace.absolute ws.here], Unaskable root node refusal
  | .missing _ => False

/-- Of what the inputs come to alone, the entries hold every file once, unless an input cannot be had
alone. -/
theorem resolveInputs_keptOnce (stands : ws.StandsIn node) (catalog : Catalog) (options : Options)
    (exist : ∀ place ∈ places, (node.at? place).isSome = true) :
    match places.mapM (alone ws catalog options) with
    | .error e => (resolveInputs ws catalog options (places.map (⟨"", ·⟩))).2 = .error e ∧
        Unresolvable ws catalog options node e
    | .ok met => ∃ entries,
        (resolveInputs ws catalog options (places.map (⟨"", ·⟩))).2 = .ok entries ∧
        KeptOnce ws node met.flatten entries := by
  cases hb : (Resolver.builtin catalog options).2 with
  | error e =>
    cases places with
    | nil => exact ⟨[], rfl, keptOnce stands .nil .nil⟩
    | cons place rest =>
      have hfirst : alone ws catalog options place = .error (.pattern e) := by
        have there : ∀ other ∈ [place], (node.at? other).isSome = true := by
          simpa using exist place (by simp)
        exact resolveInputs_fault stands hb there (by simp)
      rw [List.mapM_cons, hfirst]
      exact ⟨resolveInputs_fault stands hb exist (by simp), builtin_error hb⟩
  | ok base =>
    have hwhole := resolveInputs_found stands hb exist
    have halone := mapM_alone stands hb exist
    cases hm : places.mapM (foundAt ws catalog options node base) with
    | error e =>
      rw [hm] at hwhole halone
      obtain ⟨place, hplace, he⟩ := mapM_eq_error hm
      obtain ⟨refusal, rfl, hlong⟩ := foundAt_error stands hb (exist place hplace) he
      rw [halone]
      exact ⟨hwhole, hlong⟩
    | ok each =>
      rw [hm] at hwhole halone
      obtain ⟨rules, hok, hon⟩ := hwhole
      obtain ⟨met, hmet, halike⟩ := halone
      rw [hmet]
      obtain ⟨files, hat⟩ := mapM_isAt stands hb exist hm rules
      exact ⟨_, hok, keptOnce stands hat (halike rules hon)⟩

section
variable {σ : Type} {source : SampleSource σ} {samples : σ} {paths : List Path} {entries : List Entry}
  {summary : Summary}

/-- What a result sums up are entries of the analysis, each with the size of its file and none of them
twice. -/
theorem counted_sublist
    (hr : (resolveInputs ws (catalog.without options.ignoredLanguages) options paths).2 = .ok entries)
    (h : (run ws catalog options source paths samples).result = .ok summary) :
    let counted := retained ws catalog options source paths samples
    Aggregator.SumsUp (catalog.without options.ignoredLanguages) options counted summary ∧
      (counted.map fun item => (item.path, item.size)).Sublist
        (entries.map fun entry => (entry.key, sizeAt ws entry.path)) ∧
      summary.bytes ≤ (entries.map fun entry => sizeAt ws entry.path).sum := by
  obtain ⟨items, last, hc, -, hcounts, rfl⟩ := run_eq_ok h
  have hsizes := classified_sizes hc
  have hitems : items.map (fun item => (item.path, item.size)) =
      entries.map fun entry => (entry.key, sizeAt ws entry.path) := by
    obtain ⟨entries', hr', hall⟩ := classified_eq_ok hc
    obtain rfl : entries = entries' := Except.ok.inj (hr.symm.trans hr')
    exact classifyAll_items hall
  intro counted
  have hcounted : counted =
      Aggregator.retainedOf (catalog.without options.ignoredLanguages) options items := retained_eq hc
  refine ⟨hcounted ▸ hcounts.sumsUp hsizes, ?_, ?_⟩
  · rw [hcounted, ← hitems]
    exact List.filter_sublist.map _
  · have hbytes : Aggregator.bytesOf items = (entries.map fun entry => sizeAt ws entry.path).sum := by
      have hsecond := congrArg (List.map Prod.snd) hitems
      rw [List.map_map, List.map_map] at hsecond
      exact congrArg List.sum hsecond
    have hpositive (part : List Classified) (hp : part ⊆ items) : 0 ≤ Aggregator.bytesOf part :=
      List.sum_nonneg fun size hm => by
        obtain ⟨item, hin, rfl⟩ := List.mem_map.mp hm
        exact hsizes item (hp hin)
    have hdropped := hpositive
      (droppedOf (catalog.without options.ignoredLanguages) options items) (List.filter_subset_self _)
    have hstrangers := hpositive
      (strangersOf (catalog.without options.ignoredLanguages) options items)
      fun item hm => (List.mem_filter.mp (List.mem_filter.mp hm).1).1
    have haccount := bytes_accounted hcounts
    omega

end

/-- Inputs may overlap in any way. An analysis takes up a file if one of them does when it is asked
for alone, in the order in which the inputs come to the files, and with what the rules say of the
file where the first of them comes to it. No file is taken up twice, so its bytes are counted once
at most. Nothing is taken up if one of the inputs cannot be resolved alone. -/
theorem run_overlapping (stands : ws.StandsIn node) (catalog : Catalog) (options : Options)
    (exist : ∀ place ∈ places, (node.at? place).isSome = true) {σ : Type} (source : SampleSource σ)
    (samples : σ) :
    let known := catalog.without options.ignoredLanguages
    let inputs : List Path := places.map (⟨"", ·⟩)
    let counted := retained ws catalog options source inputs samples
    match places.mapM (alone ws known options) with
    | .error error => (resolveInputs ws known options inputs).2 = .error error ∧
        Unresolvable ws known options node error
    | .ok met => ∃ entries, (resolveInputs ws known options inputs).2 = .ok entries ∧
        KeptOnce ws node met.flatten entries ∧
        ∀ summary, (run ws catalog options source inputs samples).result = .ok summary →
          Aggregator.SumsUp known options counted summary ∧
          (counted.map fun item => (item.path, item.size)).Sublist
            (entries.map fun entry => (entry.key, sizeAt ws entry.path)) ∧
          summary.bytes ≤ (entries.map fun entry => sizeAt ws entry.path).sum := by
  intro known inputs counted
  have hresolved := resolveInputs_keptOnce stands known options exist
  cases hm : places.mapM (alone ws known options) with
  | error e =>
    rw [hm] at hresolved
    exact hresolved
  | ok met =>
    rw [hm] at hresolved
    obtain ⟨entries, hentries, honce⟩ := hresolved
    exact ⟨entries, hentries, honce, fun summary h => counted_sublist hentries h⟩

theorem run_overlapping_oneFile :
    let node : Node := .folder [("a.c", .file "int a;".toUTF8)]
    let catalog := Catalog.ofLanguages [] List.nodup_nil "empty"
    let places : List Place := [["a.c"], [], ["a.c"]]
    oneFile.StandsIn node ∧ (∀ place ∈ places, (node.at? place).isSome = true) ∧
      places.mapM (alone oneFile catalog (ruleless [])) = .ok [[oneEntry], [oneEntry], [oneEntry]] ∧
      ∃ entries, (resolveInputs oneFile catalog (ruleless []) (places.map (⟨"", ·⟩))).2 = .ok entries ∧
        KeptOnce oneFile node [oneEntry, oneEntry, oneEntry] entries := by
  intro node catalog places
  have stands : oneFile.StandsIn node := by
    refine ⟨rfl, by simp [oneFile], rfl, by decide, ?_⟩
    simp [node, Node.WellNamed, Node.AllWellNamed]
  have exist : ∀ place ∈ places, (node.at? place).isSome = true := by
    simp [places, node, Node.at?, Node.child?, Node.entries]
  have hfile : alone oneFile catalog (ruleless []) ["a.c"] = .ok [oneEntry] :=
    resolveInputs_oneFile catalog []
  have hfolder : alone oneFile catalog (ruleless []) [] = .ok [oneEntry] := by
    rw [alone]
    cbv
  have hmet : places.mapM (alone oneFile catalog (ruleless [])) =
      .ok [[oneEntry], [oneEntry], [oneEntry]] := by
    simp only [places, List.mapM_cons, List.mapM_nil, hfile, hfolder]
    rfl
  have h := run_overlapping stands catalog (ruleless []) exist (SampleSource.ofAnswer fun _ => .ok none) ()
  have hnone : catalog.without (ruleless []).ignoredLanguages = catalog := rfl
  simp only [hnone, hmet] at h
  obtain ⟨entries, hentries, honce, -⟩ := h
  exact ⟨stands, exist, hmet, entries, hentries, honce⟩

end Polyglot.Analysis
