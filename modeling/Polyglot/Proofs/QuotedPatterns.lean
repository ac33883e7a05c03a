import Polyglot.Proofs.ForcedText

namespace Polyglot

open Polyglot.Files (splitWhere_append_cons splitWhere_of_none mem_splitWhere)
open Polyglot.Text (splitWhere words dropWhileEnd isBlank ofPieces)

theorem words_append {word tail : List Char} (hne : word ≠ []) (unbroken : ∀ c ∈ word, isBlank c = false)
    (apart : tail.head?.any isBlank = true) : words (word ++ tail) = word :: words tail := by
  cases tail with
  | nil => simp at apart
  | cons blank rest =>
    have hb : isBlank blank = true := by simpa using apart
    have hrest : words (blank :: rest) = words rest := by
      rw [words, splitWhere, if_pos hb]
      rfl
    rw [hrest, words, splitWhere_append_cons hb, splitWhere_of_none unbroken, List.singleton_append,
      List.filter_cons_of_pos (by simpa using hne), words]

theorem unbroken_of_mem_words {chars word : List Char} (h : word ∈ words chars) :
    ∀ c ∈ word, isBlank c = false :=
  fun c hc => (mem_splitWhere (List.mem_filter.mp h).1 c hc).2

/-- A pattern in quotes and what follows on its line. -/
def quotedLine (pattern : String) (tail : List Char) : String :=
  String.ofList ('"' :: pattern.toList ++ '"' :: tail)

theorem dropQuotes_of_plain {chars : List Char} (plain : '"' ∉ chars) :
    chars.dropWhile (· == '"') = chars := by
  cases chars with
  | nil => rfl
  | cons first rest =>
    have hfirst : first ≠ '"' := fun he => plain (he ▸ List.mem_cons_self)
    exact List.dropWhile_cons_of_neg (by simpa using hfirst)

theorem unquoted {chars : List Char} (plain : '"' ∉ chars) :
    dropWhileEnd (· == '"') (('"' :: chars ++ ['"']).dropWhile (· == '"')) = chars := by
  cases chars with
  | nil => rfl
  | cons first rest =>
    have hfirst : first ≠ '"' := fun he => plain (he ▸ List.mem_cons_self)
    have hfront : ('"' :: (first :: rest) ++ ['"']).dropWhile (· == '"') = first :: rest ++ ['"'] := by
      simp [hfirst]
    have hback : '"' ∉ (first :: rest).reverse := fun hm => plain (List.mem_reverse.mp hm)
    rw [hfront, dropWhileEnd, List.reverse_append, List.reverse_singleton, List.singleton_append,
      List.dropWhile_cons_of_pos rfl, dropQuotes_of_plain hback, List.reverse_reverse]

namespace AttributeLine

/-- What a line is made of: its first word without the quotes around it, and its other words. -/
theorem ofText?_of_words {text : String} {word : List Char} {attributes : List (List Char)}
    (hwords : words text.toList = word :: attributes) (hne : attributes ≠ [])
    (comment : word.head? ≠ some '#') :
    ofText? text = some ⟨String.ofList (dropWhileEnd (· == '"') (word.dropWhile (· == '"'))),
      ofPieces attributes⟩ := by
  obtain ⟨first, rest, rfl⟩ := List.exists_cons_of_ne_nil hne
  rw [ofText?, hwords]
  cases word with
  | nil => rfl
  | cons c chars =>
    have hc : c ≠ '#' := by simpa using comment
    split
    · cases ‹_›
    · cases ‹_›
    · rename_i heq
      exact absurd (List.cons.inj (List.cons.inj heq).1).1 hc
    · rename_i heq
      cases heq
      rfl

theorem ofText?_quotedLine {pattern : String} {tail : List Char} (plain : '"' ∉ pattern.toList)
    (unbroken : ∀ c ∈ pattern.toList, isBlank c = false) (apart : tail.head?.any isBlank = true)
    (attributes : words tail ≠ []) :
    ofText? (quotedLine pattern tail) = some ⟨pattern, ofPieces (words tail)⟩ := by
  have hquote : isBlank '"' = false := by decide
  have hword : ∀ c ∈ '"' :: pattern.toList ++ ['"'], isBlank c = false := by
    intro c hc
    simp only [List.cons_append, List.mem_cons, List.mem_append, List.not_mem_nil, or_false] at hc
    rcases hc with rfl | hc | rfl
    · exact hquote
    · exact unbroken c hc
    · exact hquote
  have hwords : words (quotedLine pattern tail).toList =
      ('"' :: pattern.toList ++ ['"']) :: words tail := by
    rw [← words_append (by simp) hword apart]
    simp [quotedLine]
  rw [ofText?_of_words hwords attributes (by simp), unquoted plain, String.ofList_toList]

theorem unbroken_of_ofText? {text : String} {line : AttributeLine} (h : ofText? text = some line) :
    ∀ c ∈ line.pattern.toList, isBlank c = false := by
  rw [ofText?] at h
  split at h
  · cases h
  · cases h
  · cases h
  · rename_i word attributes _ _ hwords
    cases h
    intro c hc
    rw [String.toList_ofList] at hc
    have hm : c ∈ word :=
      (List.dropWhile_suffix _).subset (List.mem_reverse.mp
        ((List.dropWhile_suffix _).subset (List.mem_reverse.mp hc)))
    exact unbroken_of_mem_words (hwords ▸ List.mem_cons_self) c hm

end AttributeLine

theorem RuleSet.append_assoc (a b c : RuleSet) : a ++ b ++ c = a ++ (b ++ c) := by
  change RuleSet.mk _ _ _ _ = RuleSet.mk _ _ _ _
  simp

variable {catalog : Catalog} {options : Options} {folder : String}

theorem attributeRules_append (front behind : List AttributeLine) :
    (attributeRules catalog options folder (front ++ behind)).2 =
      (attributeRules catalog options folder front).2 ++
        (attributeRules catalog options folder behind).2 := by
  induction front with
  | nil => rfl
  | cons line rest ih =>
    simp only [List.cons_append, attributeRules]
    split
    · rw [ih, RuleSet.append_assoc]
    · exact ih

/-- Every rule matches a path below a folder exactly if a matcher does, as the folder sees the path. -/
structure ActBy (rules : RuleSet) (folder : String) (matcher : Matcher) : Prop where
  ignores : ∀ rule ∈ rules.ignores, ∀ path, rule.test path = (scoped? folder path).any matcher.test
  text : ∀ rule ∈ rules.text, ∀ path, rule.test path = (scoped? folder path).any matcher.test
  binary : ∀ rule ∈ rules.binary, ∀ path, rule.test path = (scoped? folder path).any matcher.test
  overrides : ∀ rule ∈ rules.overrides, ∀ path, rule.test path = (scoped? folder path).any matcher.test

theorem AttributeLine.rules_actBy (line : AttributeLine) (matcher : Matcher) :
    ActBy (line.rules catalog options ⟨matcher, folder⟩) folder matcher := by
  refine ⟨?_, ?_, ?_, ?_⟩ <;> intro rule hm path <;> simp only [rules] at hm <;> split at hm <;>
    simp_all [PathRule.test]

/-- The rules of lines, those that are no line of attributes left out. -/
def rulesOfLines (catalog : Catalog) (options : Options) (folder : String) (lines : List String) :
    RuleSet :=
  (attributeRules catalog options folder (lines.filterMap AttributeLine.ofText?)).2

/-- A pattern in quotes that has no blank gives the rules that its attributes give to the pattern, in the
place of its line. One that has a blank is never read as the pattern of its line. -/
theorem quotedLine_contributes {text : List Char} {front behind : List String} {pattern : String}
    {tail : List Char} {matcher : Matcher}
    (stands : linesOf text = front ++ quotedLine pattern tail :: behind)
    (compiles : compilePattern .glob (sourceIn folder attributesFileName) pattern = .ok matcher)
    (plain : '"' ∉ pattern.toList) (apart : tail.head?.any isBlank = true)
    (attributes : words tail ≠ []) :
    ((∀ c ∈ pattern.toList, isBlank c = false) →
      let line : AttributeLine := ⟨pattern, ofPieces (words tail)⟩
      let rules := line.rules catalog options ⟨matcher, folder⟩
      (attributesFileRules catalog options folder text).2 =
          rulesOfLines catalog options folder front ++ rules ++
            rulesOfLines catalog options folder behind ∧
        ActBy rules folder matcher) ∧
    ((∃ c ∈ pattern.toList, isBlank c = true) →
      ∀ line ∈ AttributeLine.ofText? (quotedLine pattern tail), line.pattern ≠ pattern) := by
  refine ⟨fun unbroken => ⟨?_, AttributeLine.rules_actBy _ _⟩, ?_⟩
  · have hline := AttributeLine.ofText?_quotedLine plain unbroken apart attributes
    rw [attributesFileRules, stands, List.filterMap_append, List.filterMap_cons, hline,
      attributeRules_append, attributeRules]
    simp only [compiles]
    rw [← RuleSet.append_assoc]
    rfl
  · rintro ⟨c, hc, hblank⟩ line hl rfl
    rw [AttributeLine.unbroken_of_ofText? hl c hc] at hblank
    cases hblank

/-- A pattern in quotes between other lines. -/
theorem quotedLine_contributes_between :
    let text := "*.h text\n\"a*\"\tbinary  linguist-language=C\n".toList
    let tail := "\tbinary  linguist-language=C".toList
    let line : AttributeLine := ⟨"a*", ["binary", "linguist-language=C"]⟩
    linesOf text = ["*.h text"] ++ quotedLine "a*" tail :: [""] ∧
      '"' ∉ "a*".toList ∧ tail.head?.any isBlank = true ∧ words tail ≠ [] ∧
      ∃ matcher, compilePattern .glob (sourceIn "lib" attributesFileName) "a*" = .ok matcher ∧
        (attributesFileRules Analysis.catalogOfC {} "lib" text).2 =
          rulesOfLines Analysis.catalogOfC {} "lib" ["*.h text"] ++
            line.rules Analysis.catalogOfC {} ⟨matcher, "lib"⟩ ++
            rulesOfLines Analysis.catalogOfC {} "lib" [""] := by
  intro text tail line
  have stands : linesOf text = ["*.h text"] ++ quotedLine "a*" tail :: [""] := by decide +kernel
  have plain : '"' ∉ "a*".toList := by decide
  have apart : tail.head?.any isBlank = true := by decide
  have hwords : words tail ≠ [] := by decide +kernel
  obtain ⟨matcher, compiles, -⟩ : ∃ matcher,
      compilePattern .glob (sourceIn "lib" attributesFileName) "a*" = .ok matcher ∧
        matcher.test "a.c" = true := exists_matcher (by cbv)
  have hline : line = ⟨"a*", ofPieces (words tail)⟩ := by decide +kernel
  have unbroken : ∀ c ∈ "a*".toList, isBlank c = false := by
    have hall : isBlank 'a' = false ∧ isBlank '*' = false := by decide
    simpa using hall
  rw [hline]
  exact ⟨stands, plain, apart, hwords, matcher, compiles,
    ((quotedLine_contributes stands compiles plain apart hwords).1 unbroken).1⟩

/-- A blank between the quotes splits the pattern: the line says nothing of the file that the pattern
matches, and what it says it says of another. -/
theorem quotedLine_astray :
    let text := "\"a b\" binary".toList
    let rules := (attributesFileRules Analysis.catalogOfC {} "" text).2
    linesOf text = [quotedLine "a b" " binary".toList] ∧ '"' ∉ "a b".toList ∧
      (∃ matcher, compilePattern .glob (sourceIn "" attributesFileName) "a b" = .ok matcher ∧
        matcher.test "a b" = true ∧
        (AttributeLine.rules Analysis.catalogOfC {} ⟨"a b", ["binary"]⟩ ⟨matcher, ""⟩).isBinary "a b" =
          true) ∧
      rules.isBinary "a b" = false ∧ rules.isBinary "a" = true := by
  obtain ⟨matcher, compiles, matched⟩ : ∃ matcher,
      compilePattern .glob (sourceIn "" attributesFileName) "a b" = .ok matcher ∧
        matcher.test "a b" = true := exists_matcher (by cbv)
  obtain ⟨other, compiles', matched'⟩ : ∃ matcher,
      compilePattern .glob (sourceIn "" attributesFileName) "a" = .ok matcher ∧
        (matcher.test "a" && !matcher.test "a b") = true := exists_matcher (by cbv)
  rw [Bool.and_eq_true, Bool.not_eq_true'] at matched'
  have hlines : (linesOf "\"a b\" binary".toList).filterMap AttributeLine.ofText? =
      [⟨"a", ["b\"", "binary"]⟩] := by decide +kernel
  have hrules : (attributesFileRules Analysis.catalogOfC {} "" "\"a b\" binary".toList).2 =
      { binary := [⟨other, ""⟩] } := by
    rw [attributesFileRules, hlines, attributeRules]
    simp only [compiles']
    rfl
  have hbinary (matcher : Matcher) (path : String) :
      RuleSet.isBinary { binary := [⟨matcher, ""⟩] } path = matcher.test path := by
    simp [RuleSet.isBinary, PathRule.test, scoped?]
  refine ⟨by decide +kernel, by decide, ⟨matcher, compiles, matched, (hbinary matcher _).trans matched⟩,
    ?_, ?_⟩
  · rw [hrules, hbinary, matched'.2]
  · rw [hrules, hbinary, matched'.1]

end Polyglot
