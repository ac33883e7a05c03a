import Polyglot.Proofs.ForcedText

namespace Polyglot

open Polyglot.Files
open Polyglot.Text (after? after?_eq_some_iff)

namespace AttributeLine

/-- The first attribute of a line that names a language names this one. -/
def Names (line : AttributeLine) (name : String) : Prop :=
  name ≠ "" ∧ ∃ front behind, line.attributes = front ++ ("linguist-language=" ++ name) :: behind ∧
    ∀ word ∈ front, ∀ other, other ≠ "" → word ≠ "linguist-language=" ++ other

/-- The glob of a line in a folder compiles, and matches a place by the names behind the folder. -/
def Marks (line : AttributeLine) (folder place : Place) : Prop :=
  ∃ matcher, compilePattern .glob (sourceIn (relText folder) attributesFileName) line.pattern =
      .ok matcher ∧ matcher.test (relText (place.drop folder.length)) = true

theorem languageIn?_eq_some_iff {word name : String} :
    languageIn? word = some name ↔ name ≠ "" ∧ word = "linguist-language=" ++ name := by
  rw [languageIn?]
  constructor
  · intro h
    split at h
    · rename_i c rest hafter
      cases h
      refine ⟨by simp, String.toList_injective ?_⟩
      have htext := after?_eq_some_iff.mp hafter
      rwa [← String.toList_ofList (l := c :: rest), ← String.toList_append] at htext
    · cases h
  · rintro ⟨hne, rfl⟩
    have hafter : after? "linguist-language=".toList ("linguist-language=" ++ name).toList =
        some name.toList := after?_eq_some_iff.mpr String.toList_append
    obtain ⟨c, rest, hname⟩ : ∃ c rest, name.toList = c :: rest :=
      List.exists_cons_of_ne_nil (by simpa using hne)
    rw [hafter, hname]
    simp only [← hname, String.ofList_toList]

theorem language?_eq_some_iff {line : AttributeLine} {name : String} :
    line.language? = some name ↔ line.Names name := by
  rw [language?, List.findSome?_eq_some_iff, Names]
  simp only [languageIn?_eq_some_iff]
  constructor
  · rintro ⟨front, word, behind, hrow, ⟨hne, rfl⟩, hfront⟩
    refine ⟨hne, front, behind, hrow, fun word hw other hother he => ?_⟩
    have := hfront word hw
    rw [languageIn?_eq_some_iff.mpr ⟨hother, he⟩] at this
    cases this
  · rintro ⟨hne, front, behind, hrow, hfront⟩
    refine ⟨front, _, behind, hrow, ⟨hne, rfl⟩, fun word hw => ?_⟩
    refine Option.eq_none_iff_forall_ne_some.mpr fun other ho => ?_
    obtain ⟨hother, he⟩ := languageIn?_eq_some_iff.mp ho
    exact hfront word hw other hother he

end AttributeLine

/-- The lines of the attributes file of a folder below a root, as the file is read. -/
def linesIn (ws : Workspace) (root : Path) (folder : Place) : List AttributeLine :=
  match ws.readIfFile (root ++ (⟨"", folder ++ [attributesFileName]⟩ : Path)) with
  | .ok (some content) => (linesOf (textOf content)).filterMap AttributeLine.ofText?
  | _ => []

/-- The lines of the attributes files above a place, the root's first, each with its folder. -/
def linesAbove (ws : Workspace) (root : Path) (place : Place) : List (Place × AttributeLine) :=
  (above place).flatMap fun folder => (linesIn ws root folder).map (folder, ·)

/-- The language that lines give to a place: what the first that matches it and names a language calls
it, by the name that the catalog knows it by. -/
inductive Gives (catalog : Catalog) (place : Place) (lines : List (Place × AttributeLine)) :
    Option String → Prop where
  | named {front behind : List (Place × AttributeLine)} {folder : Place} {line : AttributeLine}
      {name : String} (row : lines = front ++ (folder, line) :: behind)
      (marks : line.Marks folder place) (names : line.Names name)
      (first : ∀ entry ∈ front, entry.2.Marks entry.1 place → ∀ other, ¬ entry.2.Names other) :
      Gives catalog place lines (some (catalog.resolveAlias name))
  | unnamed (silent : ∀ entry ∈ lines, entry.2.Marks entry.1 place → ∀ other, ¬ entry.2.Names other) :
      Gives catalog place lines none

section
variable {catalog : Catalog} {options : Options} {place : Place}

theorem Gives.cons {lines : List (Place × AttributeLine)} {language : Option String}
    (h : Gives catalog place lines language) {entry : Place × AttributeLine}
    (silent : entry.2.Marks entry.1 place → ∀ other, ¬ entry.2.Names other) :
    Gives catalog place (entry :: lines) language := by
  cases h with
  | @named front behind folder line name row marks names first =>
    have hrow : entry :: lines = (entry :: front) ++ (folder, line) :: behind := by
      rw [row]
      rfl
    refine .named hrow marks names fun other ho => ?_
    rcases List.mem_cons.mp ho with rfl | ho
    · exact silent
    · exact first other ho
  | unnamed others =>
    refine .unnamed fun other ho => ?_
    rcases List.mem_cons.mp ho with rfl | ho
    · exact silent
    · exact others other ho

theorem Gives.cons_cases {entry : Place × AttributeLine} {rest : List (Place × AttributeLine)}
    {language : Option String} (h : Gives catalog place (entry :: rest) language) :
    (entry.2.Marks entry.1 place ∧
        ∃ name, entry.2.Names name ∧ language = some (catalog.resolveAlias name)) ∨
      (entry.2.Marks entry.1 place → ∀ other, ¬ entry.2.Names other) ∧
        Gives catalog place rest language := by
  cases h with
  | @named front behind folder line name row marks names first =>
    cases front with
    | nil =>
      obtain ⟨rfl, -⟩ := List.cons.inj row
      exact .inl ⟨marks, name, names, rfl⟩
    | cons other others =>
      obtain ⟨rfl, hrest⟩ := List.cons.inj row
      exact .inr ⟨first _ List.mem_cons_self,
        .named hrest marks names fun entry he => first entry (List.mem_cons_of_mem _ he)⟩
  | unnamed silent =>
    exact .inr ⟨silent _ List.mem_cons_self,
      .unnamed fun entry he => silent entry (List.mem_cons_of_mem _ he)⟩

theorem Gives.eq_none {language : Option String} (h : Gives catalog place [] language) :
    language = none := by
  cases h with
  | named row => simp at row
  | unnamed _ => rfl

theorem Gives.unique {lines : List (Place × AttributeLine)} {language other : Option String}
    (h : Gives catalog place lines language) (h' : Gives catalog place lines other) :
    language = other := by
  induction lines with
  | nil => rw [h.eq_none, h'.eq_none]
  | cons entry rest ih =>
    rcases h.cons_cases with ⟨marks, name, names, rfl⟩ | ⟨silent, hrest⟩
    · rcases h'.cons_cases with ⟨-, name', names', rfl⟩ | ⟨silent, -⟩
      · have hname := (AttributeLine.language?_eq_some_iff.mpr names).symm.trans
          (AttributeLine.language?_eq_some_iff.mpr names')
        rw [Option.some.inj hname]
      · exact absurd names (silent marks name)
    · rcases h'.cons_cases with ⟨marks, name, names, -⟩ | ⟨-, hrest'⟩
      · exact absurd names (silent marks name)
      · exact ih hrest hrest'

/-- The rule that a line of a folder makes for the language, if its glob compiles and it names one. -/
def overrideOf? (catalog : Catalog) (folder : Place) (line : AttributeLine) : Option OverrideRule :=
  match compilePattern .glob (sourceIn (relText folder) attributesFileName) line.pattern,
    line.language? with
  | .ok matcher, some name => some ⟨⟨matcher, relText folder⟩, catalog.resolveAlias name⟩
  | _, _ => none

theorem overrides_attributeRules (folder : Place) (lines : List AttributeLine) :
    (attributeRules catalog options (relText folder) lines).2.overrides =
      lines.filterMap (overrideOf? catalog folder) := by
  induction lines with
  | nil => rfl
  | cons line rest ih =>
    simp only [attributeRules, List.filterMap_cons, overrideOf?]
    cases compilePattern .glob (sourceIn (relText folder) attributesFileName) line.pattern with
    | error e => exact ih
    | ok matcher =>
      rw [RuleSet.overrides_append, ih, AttributeLine.rules]
      cases line.language? <;> rfl

theorem overrideOf?_eq_some {folder : Place} {line : AttributeLine} {rule : OverrideRule}
    (h : overrideOf? catalog folder line = some rule) :
    ∃ matcher name, compilePattern .glob (sourceIn (relText folder) attributesFileName) line.pattern =
      .ok matcher ∧ line.Names name ∧
        rule = ⟨⟨matcher, relText folder⟩, catalog.resolveAlias name⟩ := by
  rw [overrideOf?] at h
  split at h
  · rename_i matcher name hmatcher hname
    cases h
    exact ⟨matcher, name, hmatcher, AttributeLine.language?_eq_some_iff.mp hname, rfl⟩
  · cases h

theorem silent_of_overrideOf? {folder : Place} {line : AttributeLine}
    (h : overrideOf? catalog folder line = none) (marks : line.Marks folder place) (name : String) :
    ¬ line.Names name := by
  intro names
  obtain ⟨matcher, hmatcher, -⟩ := marks
  rw [overrideOf?, hmatcher, AttributeLine.language?_eq_some_iff.mpr names] at h
  cases h

theorem gives_of_rules (names : ∀ name ∈ place, IsName name) {lines : List (Place × AttributeLine)}
    (above : ∀ entry ∈ lines, StrictlyAbove entry.1 place) :
    Gives catalog place lines
      (((lines.filterMap fun entry => overrideOf? catalog entry.1 entry.2).find?
        (·.test (relText place))).map OverrideRule.language) := by
  induction lines with
  | nil => exact .unnamed fun entry hm => absurd hm List.not_mem_nil
  | cons entry rest ih =>
    have hrest := ih fun other ho => above other (List.mem_cons_of_mem _ ho)
    rw [List.filterMap_cons]
    cases hrule : overrideOf? catalog entry.1 entry.2 with
    | none => exact hrest.cons fun marks => silent_of_overrideOf? hrule marks
    | some rule =>
      obtain ⟨matcher, name, hmatcher, hname, rfl⟩ := overrideOf?_eq_some hrule
      have hseen : (⟨matcher, relText entry.1⟩ : PathRule).test (relText place) =
          matcher.test (relText (place.drop entry.1.length)) := by
        obtain ⟨below, hbelow, rfl⟩ := above entry List.mem_cons_self
        have hscoped := scoped?_below names hbelow false
        rw [ruleText_file, ruleText_file] at hscoped
        simp [PathRule.test, hscoped]
      cases ht : matcher.test (relText (place.drop entry.1.length)) with
      | true =>
        rw [List.find?_cons_of_pos (by rw [hseen]; exact ht)]
        exact .named (List.nil_append _).symm ⟨matcher, hmatcher, ht⟩ hname
          fun other ho => absurd ho List.not_mem_nil
      | false =>
        rw [List.find?_cons_of_neg (by rw [hseen, ht]; simp)]
        refine hrest.cons ?_
        rintro ⟨other, hother, hmatched⟩
        obtain rfl := Except.ok.inj (hmatcher.symm.trans hother)
        rw [ht] at hmatched
        cases hmatched

end

theorem RuleSet.gather_overrides {own : Place → RuleSet} {base : RuleSet} (folders : List Place) :
    (RuleSet.gather own base folders).overrides =
      base.overrides ++ folders.flatMap fun folder => (own folder).overrides := by
  induction folders generalizing base with
  | nil => simp
  | cons folder rest ih =>
    change (RuleSet.gather own (base ++ own folder) rest).overrides = _
    rw [ih, RuleSet.overrides_append, List.flatMap_cons, List.append_assoc]

theorem overrides_ignoreFileRules (options : Options) (folder : String) (text : List Char) :
    (ignoreFileRules options folder text).2.overrides = [] := by
  simp only [ignoreFileRules]
  split <;> rfl

section
variable {ws : Workspace} {root : Path} {catalog : Catalog} {options : Options}

theorem attributeLines_eq_linesIn (checked : options.checkAttributes = true)
    (active : options.quick = false) {folder : Place} (names : ∀ name ∈ folder, IsName name)
    (readable : (reading ws root catalog options folder).fault = none) :
    (bareResolver root catalog options).attributeLines ws (relText folder) = linesIn ws root folder := by
  have hname : IsName attributesFileName := isName_of_ruleFile (by simp [ruleFileNames])
  have hpath := append_ruleFile root names hname
  rw [reading, active, if_neg (by simp)] at readable
  simp only [Resolver.folderRules, Resolver.fileRules_eq] at readable
  simp only [Resolver.attributeLines]
  cases hi : (bareResolver root catalog options).askedText ws (relText folder) ignoreFileName
      (bareResolver root catalog options).options.checkIgnored with
  | error e => simp [hi] at readable
  | ok ignored =>
    have hasked : (bareResolver root catalog options).askedText ws (relText folder) attributesFileName
        (bareResolver root catalog options).options.checkAttributes =
          ((ws.readIfFile (root ++ (⟨"", folder ++ [attributesFileName]⟩ : Path))).mapError
            (⟨root ++ (⟨"", folder ++ [attributesFileName]⟩ : Path), ·⟩)).map (·.map textOf) := by
      rw [Resolver.askedText, if_pos (show (bareResolver root catalog options).options.checkAttributes =
        true from checked), Resolver.textIn?, ← hpath]
      rfl
    rw [hasked, linesIn]
    cases ws.readIfFile (root ++ (⟨"", folder ++ [attributesFileName]⟩ : Path)) with
    | error e => rfl
    | ok content => cases content <;> rfl

theorem overrides_reading (checked : options.checkAttributes = true) (active : options.quick = false)
    {folder : Place} (names : ∀ name ∈ folder, IsName name)
    (readable : (reading ws root catalog options folder).fault = none) :
    (heldIn ws root catalog options folder).overrides =
      (linesIn ws root folder).filterMap (overrideOf? catalog folder) := by
  have hlines : (attributeRules catalog options (relText folder)
      ((bareResolver root catalog options).attributeLines ws (relText folder))).2.overrides = _ :=
    overrides_attributeRules folder _
  rw [← attributeLines_eq_linesIn checked active names readable, ← hlines, heldIn, reading,
    active, if_neg (by simp)]
  exact Resolver.folderRules_part RuleSet.overrides_append rfl overrides_ignoreFileRules _ _

/-- Where the folders above a place can be read, their rules say what their lines give to the place. -/
theorem gives_of_gather {base : RuleSet} (hb : (Resolver.builtin catalog options).2 = .ok base)
    (checked : options.checkAttributes = true) (active : options.quick = false) {place : Place}
    (names : ∀ name ∈ place, IsName name)
    (readable : ∀ folder, StrictlyAbove folder place →
      (reading ws root catalog options folder).fault = none) :
    Gives catalog place (linesAbove ws root place)
      ((RuleSet.gather (heldIn ws root catalog options) base (above place)).override?
        (relText place)) := by
  have hbase : base.overrides = [] := by
    rcases builtin_eq_ok hb with ⟨-, rfl⟩ | ⟨-, _, _, -, -, rfl⟩ <;> rfl
  have hlines : (RuleSet.gather (heldIn ws root catalog options) base (above place)).overrides =
      (linesAbove ws root place).filterMap fun entry => overrideOf? catalog entry.1 entry.2 := by
    rw [RuleSet.gather_overrides, hbase, List.nil_append, linesAbove, List.filterMap_flatMap]
    refine List.flatMap_congr fun folder hf => ?_
    have ha := mem_above.mp hf
    rw [overrides_reading checked active (fun name hn => names name (ha.isPrefix.subset hn))
      (readable folder ha), List.filterMap_map]
    rfl
  rw [RuleSet.override?, hlines]
  refine gives_of_rules names fun entry he => ?_
  obtain ⟨folder, hf, line, _, rfl⟩ : ∃ folder ∈ above place, ∃ line ∈ linesIn ws root folder,
      (folder, line) = entry := by simpa [linesAbove] using he
  exact mem_above.mp hf

end

namespace Analysis

variable {ws : Workspace} {root : Path} {catalog : Catalog} {options : Options}

/-- An entry of a walk is for a file below the root, and what the lines above the file give to it, and
nothing else, is the language that the file is taken to be overridden to. -/
structure OverriddenByLines (ws : Workspace) (root : Path) (catalog : Catalog) (options : Options)
    (entry : Entry) (place : Place) : Prop where
  place_ne : place ≠ []
  names : ∀ name ∈ place, IsName name
  path_eq : entry.path = root ++ (⟨"", place⟩ : Path)
  rel_eq : entry.rel = relText place
  override_iff : ∀ language, entry.rules.override? entry.rel = language ↔
    Gives catalog place (linesAbove ws root place) language
  used : ∀ content, extraction catalog options entry content =
    Detection.extract catalog options entry.rel
      (if options.checkShebang then some (String.ofList (firstLineOf content)) else none)
      (entry.rules.override? entry.rel)

theorem hasFolder_of_listing {listing : Listing} (hl : ws.listing root = .ok listing) :
    ws.hasFolder root = .ok true := by
  cases hplace : ws.locate root with
  | error e => simp [Workspace.listing, hplace, bind, Except.bind] at hl
  | ok place =>
    cases hnode : ws.nodeIn place with
    | error e => simp [Workspace.listing, hplace, hnode, bind, Except.bind] at hl
    | ok node =>
      simp only [Workspace.listing, hplace, hnode, bind, Except.bind] at hl
      cases hlisted : ws.listed place node with
      | folder inner =>
        obtain ⟨entries, rfl, -⟩ := Workspace.folder_of_listed hlisted
        simp [Workspace.hasFolder, Workspace.node?, hplace, hnode, bind, Except.bind, Node.isFolder]
      | file => simp [hlisted] at hl
      | linkedFolder => simp [hlisted] at hl

/-- The walk through a folder takes up files with the languages that the attributes files on the way to
them give to them. -/
theorem resolveTree_overrides (wellNamed : ws.root.WellNamed) (checked : options.checkAttributes = true)
    (active : options.quick = false) {entries : List Entry}
    (resolved : (resolveTree ws catalog options root).2 = .ok entries) {entry : Entry}
    (taken : entry ∈ entries) : ∃ place, OverriddenByLines ws root catalog options entry place := by
  cases hb : (Resolver.builtin catalog options).2 with
  | error e =>
    rw [resolveTree_of_fault hb] at resolved
    cases resolved
  | ok base =>
    cases hl : ws.listing root with
    | error e =>
      simp only [resolveTree, start_of_builtin root hb, hl] at resolved
      cases resolved
      cases taken
    | ok listing =>
      obtain ⟨listing', hl', ordered⟩ := Workspace.listing_ordered wellNamed (hasFolder_of_listing hl)
      obtain rfl : listing = listing' := Except.ok.inj (hl.symm.trans hl')
      have holds : Holding ws root catalog options (heldIn ws root catalog options)
          (enteredBy (tour (heldIn ws root catalog options) base listing)) :=
        fun _ _ _ _ => rfl
      rcases resolveTree_of_listing hl ordered hb holds with
        ⟨rules, hentries, hon, readable⟩ | ⟨_, hfail, -⟩
      · obtain rfl := Except.ok.inj (resolved.symm.trans hentries)
        obtain ⟨place, hm, rfl⟩ := List.mem_map.mp taken
        obtain ⟨hne, names⟩ := keptBy_names ordered hm
        have gives := gives_of_gather hb checked active names fun folder ha =>
          readable folder (grounded_offered (grounded_walk ordered) (List.mem_filter.mp hm).1 ha)
        rw [← RuleSet.override?_congr (hon place hm)] at gives
        refine ⟨place, hne, names, rfl, rfl, fun language => ⟨?_, gives.unique⟩, fun content => ?_⟩
        · rintro rfl
          exact gives
        · simp [extraction, checked]
      · rw [hfail] at resolved
        cases resolved

theorem listing_zeroUnder (attributes : ByteArray) :
    (zeroUnder attributes).listing (Workspace.absolute []) =
      .ok (.mk [attributesFileName, "a.c"] []) := by
  have hlocate : (zeroUnder attributes).locate (Workspace.absolute []) = .ok [] := by cbv
  have hsorted : [(attributesFileName, Listed.file), ("a.c", .file)].mergeSort
      (fun a b => a.1 ≤ b.1) = [(attributesFileName, .file), ("a.c", .file)] :=
    List.mergeSort_of_pairwise (by simp; decide)
  rw [Workspace.listing, hlocate]
  simp [Workspace.nodeIn, zeroUnder, bind, Except.bind, Node.at?, Workspace.listed,
    Workspace.listedAll, Listing.ofEntries, hsorted]

theorem exclusion?_of_keeping {rules : RuleSet} (keeps : rules.ignores = []) {name : String}
    (hn : IsName name) (visible : isVersionControl name = false) : rules.exclusion? name = none := by
  have h := rules.isSome_exclusion? (List.cons_ne_nil name []) (by simpa using hn) false
  simpa [ruleText_file, relText_singleton, keeps, visible] using h

theorem resolveTree_lineUnder {attributes : ByteArray} {line : AttributeLine} {matcher : Matcher}
    (lines : (linesOf (textOf attributes)).filterMap AttributeLine.ofText? = [line])
    (compiles : compilePattern .glob attributesFileName line.pattern = .ok matcher)
    (keeps : (line.rules catalogOfC {} ⟨matcher, ""⟩).ignores = []) :
    (resolveTree (zeroUnder attributes) catalogOfC {} (Workspace.absolute [])).2 =
      .ok ([[attributesFileName], ["a.c"]].map
        (entryAt (Workspace.absolute []) (line.rules catalogOfC {} ⟨matcher, ""⟩))) := by
  have hstart : Resolver.start (Workspace.absolute []) catalogOfC {} =
      ([], .ok (zeroResolver catalogOfC)) := rfl
  have hfile : IsName attributesFileName := isName_of_ruleFile (by simp [ruleFileNames])
  have hname : IsName "a.c" := ⟨by decide, by decide, by decide, by decide⟩
  simp only [resolveTree, hstart, listing_zeroUnder, walk, treeVisitor, TreeWalk.enter,
    load_lineUnder lines compiles]
  simp [Resolver.ignores, Resolver.exclusion?, askAll, walkInto, below, entryAt, relText_singleton,
    exclusion?_of_keeping keeps hfile (by decide), exclusion?_of_keeping keeps hname (by decide),
    ofText_name hfile, ofText_name hname]

/-- A line that names a language gives it to the file. -/
theorem resolveTree_overrides_named :
    let ws := zeroUnder "a* linguist-language=C".toUTF8
    let root := Workspace.absolute []
    ws.root.WellNamed ∧ ({} : Options).checkAttributes = true ∧ ({} : Options).quick = false ∧
      ∃ entries entry place, (resolveTree ws catalogOfC {} root).2 = .ok entries ∧ entry ∈ entries ∧
        OverriddenByLines ws root catalogOfC {} entry place ∧
        Gives catalogOfC place (linesAbove ws root place) (some "C") := by
  intro ws root
  obtain ⟨matcher, compiles, test⟩ : ∃ matcher, compilePattern .glob attributesFileName "a*" =
      .ok matcher ∧ matcher.test "a.c" = true := exists_matcher (by cbv)
  have hrules : AttributeLine.rules catalogOfC {} ⟨"a*", ["linguist-language=C"]⟩ ⟨matcher, ""⟩ =
      { overrides := [⟨⟨matcher, ""⟩, "C"⟩] } := by
    have hlanguage : AttributeLine.language? ⟨"a*", ["linguist-language=C"]⟩ = some "C" := by cbv
    have hkind : AttributeLine.kind? ⟨"a*", ["linguist-language=C"]⟩ = none := by decide
    have hexcludes : AttributeLine.excludes ⟨"a*", ["linguist-language=C"]⟩ = false := by decide
    have halias : catalogOfC.resolveAlias "C" = "C" := by cbv
    simp [AttributeLine.rules, hlanguage, halias, hkind, hexcludes]
  have hlines : (linesOf (textOf "a* linguist-language=C".toUTF8)).filterMap AttributeLine.ofText? =
      [⟨"a*", ["linguist-language=C"]⟩] := by cbv
  have hresolved := resolveTree_lineUnder hlines compiles (by rw [hrules])
  rw [hrules] at hresolved
  have wellNamed : ws.root.WellNamed := by
    simp [ws, zeroUnder, Node.WellNamed, Node.AllWellNamed, attributesFileName]
  let entry := entryAt root { overrides := [⟨⟨matcher, ""⟩, "C"⟩] } ["a.c"]
  have taken : entry ∈ [[attributesFileName], ["a.c"]].map
      (entryAt root { overrides := [⟨⟨matcher, ""⟩, "C"⟩] }) := by simp [entry]
  obtain ⟨place, overridden⟩ := resolveTree_overrides wellNamed rfl rfl hresolved taken
  refine ⟨wellNamed, rfl, rfl, _, entry, place, hresolved, taken, overridden,
    (overridden.override_iff _).mp ?_⟩
  have hscoped : scoped? "" "a.c" = some "a.c" := by cbv
  simp [entry, entryAt, relText_singleton, RuleSet.override?, PathRule.test, hscoped, test]

end Analysis

end Polyglot
