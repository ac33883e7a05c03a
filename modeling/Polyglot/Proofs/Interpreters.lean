import Polyglot.Detection.Shebang
import Polyglot.Proofs.Places

namespace Polyglot.Detection

open Polyglot.Text (after? isWord splitWhere after?_eq_some_iff)

/-- A word stands in a text if it has a boundary on either side there. -/
def StandsIn (word text : List Char) : Prop :=
  ∃ front back, text = front ++ word ++ back ∧ isBoundary front.getLast? (word ++ back).head? = true ∧
    isBoundary (front ++ word).getLast? back.head? = true

theorem startsWithWord_iff {word chars : List Char} {before : Option Char} :
    startsWithWord word before chars = true ↔ ∃ back, chars = word ++ back ∧
      isBoundary before chars.head? = true ∧
        isBoundary (word.getLast?.or before) back.head? = true := by
  rw [startsWithWord]
  cases hafter : after? word chars with
  | none =>
    simp only [Bool.false_eq_true, false_iff]
    rintro ⟨back, hchars, -⟩
    rw [after?_eq_some_iff.mpr hchars] at hafter
    cases hafter
  | some rest =>
    obtain rfl := after?_eq_some_iff.mp hafter
    simp

theorem getLast?_cons_or (c : Char) (chars : List Char) (before : Option Char) :
    (c :: chars).getLast?.or before = chars.getLast?.or (some c) := by
  rw [List.getLast?_cons]
  cases chars.getLast? <;> rfl

theorem mentions_iff {word chars : List Char} {before : Option Char} :
    mentions word before chars = true ↔ ∃ front back, chars = front ++ word ++ back ∧
      isBoundary (front.getLast?.or before) (word ++ back).head? = true ∧
        isBoundary ((front ++ word).getLast?.or before) back.head? = true := by
  induction chars generalizing before with
  | nil =>
    rw [mentions, startsWithWord_iff]
    constructor
    · rintro ⟨back, hchars, hleft, hright⟩
      exact ⟨[], back, hchars, hchars ▸ hleft, hright⟩
    · rintro ⟨front, back, hchars, hleft, hright⟩
      obtain ⟨rfl, rfl, rfl⟩ : front = [] ∧ word = [] ∧ back = [] := by simpa using hchars.symm
      exact ⟨[], rfl, hleft, hright⟩
  | cons c rest ih =>
    rw [mentions, Bool.or_eq_true, startsWithWord_iff, ih]
    constructor
    · rintro (⟨back, hchars, hleft, hright⟩ | ⟨front, back, rfl, hleft, hright⟩)
      · exact ⟨[], back, hchars, hchars ▸ hleft, hright⟩
      · refine ⟨c :: front, back, rfl, ?_, ?_⟩
        · rwa [getLast?_cons_or]
        · rwa [List.cons_append, getLast?_cons_or]
    · rintro ⟨front, back, hchars, hleft, hright⟩
      cases front with
      | nil => exact .inl ⟨back, hchars, hchars ▸ hleft, hright⟩
      | cons first front =>
        obtain ⟨rfl, rfl⟩ := List.cons.inj hchars
        rw [getLast?_cons_or] at hleft
        rw [List.cons_append, getLast?_cons_or] at hright
        exact .inr ⟨front, back, rfl, hleft, hright⟩

theorem mentions_eq_true {word text : List Char} :
    mentions word none text = true ↔ StandsIn word text := by
  simp only [mentions_iff, StandsIn, Option.or_none]

/-- The longest runs of word characters, and empty pieces between other characters. -/
def runsOf (text : List Char) : List (List Char) := splitWhere (fun c => !isWord c) text

/-- Whether a text is a word all through. -/
def IsRun (word : List Char) : Prop := word ≠ [] ∧ ∀ c ∈ word, isWord c = true

instance (word : List Char) : Decidable (IsRun word) :=
  decidable_of_iff (word ≠ [] ∧ word.all isWord = true) (by rw [IsRun, List.all_eq_true])

theorem runsOf_append_cons {c : Char} (hc : isWord c = false) (front back : List Char) :
    runsOf (front ++ c :: back) = runsOf front ++ runsOf back :=
  Files.splitWhere_append_cons (by simp [hc]) front back

theorem runsOf_word {word : List Char} (h : ∀ c ∈ word, isWord c = true) : runsOf word = [word] :=
  Files.splitWhere_of_none fun c hc => by simp [h c hc]

/-- A text starts with a run of word characters, which ends with the text or before another character. -/
theorem exists_first_run (text : List Char) : ∃ word back, text = word ++ back ∧
    (∀ c ∈ word, isWord c = true) ∧ back.head?.any isWord = false := by
  induction text with
  | nil => exact ⟨[], [], rfl, by simp, rfl⟩
  | cons c rest ih =>
    cases hc : isWord c with
    | false => exact ⟨[], c :: rest, rfl, by simp, by simp [hc]⟩
    | true =>
      obtain ⟨word, back, rfl, hword, hback⟩ := ih
      exact ⟨c :: word, back, rfl, by simpa [hc] using hword, hback⟩

theorem exists_of_mem_runsOf {word text : List Char} (h : word ∈ runsOf text) :
    ∃ front back, text = front ++ word ++ back ∧ front.getLast?.any isWord = false ∧
      back.head?.any isWord = false := by
  induction hn : text.length using Nat.strong_induction_on generalizing text with
  | _ n ih =>
    obtain ⟨first, back, rfl, hfirst, hback⟩ := exists_first_run text
    cases back with
    | nil =>
      rw [List.append_nil, runsOf_word hfirst, List.mem_singleton] at h
      exact ⟨[], [], by simp [h], rfl, rfl⟩
    | cons c rest =>
      have hc : isWord c = false := by simpa using hback
      rw [runsOf_append_cons hc, runsOf_word hfirst, List.singleton_append, List.mem_cons] at h
      rcases h with rfl | h
      · exact ⟨[], c :: rest, rfl, rfl, hback⟩
      · have hshorter : rest.length < n := by
          rw [← hn, List.length_append, List.length_cons]
          omega
        obtain ⟨front, back, rfl, hleft, hright⟩ := ih rest.length hshorter h rfl
        refine ⟨first ++ c :: front, back, by simp, ?_, hright⟩
        rw [List.getLast?_append_of_ne_nil _ (by simp), List.getLast?_cons]
        cases hlast : front.getLast? with
        | none => simpa using hc
        | some last => simpa [hlast] using hleft

theorem runsOf_behind {front : List Char} (h : front.getLast?.any isWord = false) (back : List Char) :
    front = [] ∨ runsOf (front ++ back) = runsOf front.dropLast ++ runsOf back := by
  rcases List.eq_nil_or_concat front with rfl | ⟨front, c, rfl⟩
  · exact .inl rfl
  · have hc : isWord c = false := by simpa using h
    right
    rw [List.concat_eq_append, List.append_assoc, List.singleton_append, runsOf_append_cons hc,
      List.dropLast_concat]

theorem mem_runsOf {word text : List Char} (hword : ∀ c ∈ word, isWord c = true) :
    word ∈ runsOf text ↔ ∃ front back, text = front ++ word ++ back ∧
      front.getLast?.any isWord = false ∧ back.head?.any isWord = false := by
  refine ⟨exists_of_mem_runsOf, ?_⟩
  rintro ⟨front, back, rfl, hleft, hright⟩
  have hrun : word ∈ runsOf (word ++ back) := by
    cases back with
    | nil => simp [runsOf_word hword]
    | cons c rest =>
      have hc : isWord c = false := by simpa using hright
      simp [runsOf_append_cons hc, runsOf_word hword]
  rw [List.append_assoc]
  rcases runsOf_behind hleft (word ++ back) with rfl | hcut
  · exact hrun
  · rw [hcut]
    exact List.mem_append_right _ hrun

theorem standsIn_iff_mem_runsOf {word text : List Char} (h : IsRun word) :
    StandsIn word text ↔ word ∈ runsOf text := by
  obtain ⟨hne, hword⟩ := h
  rw [mem_runsOf hword, StandsIn]
  have hfirst (back : List Char) : (word ++ back).head?.any isWord = true := by
    obtain ⟨c, rest, rfl⟩ := List.exists_cons_of_ne_nil hne
    simpa using hword c List.mem_cons_self
  have hlast (front : List Char) : (front ++ word).getLast?.any isWord = true := by
    rw [List.getLast?_append_of_ne_nil _ hne, List.getLast?_eq_some_getLast hne]
    exact hword _ (List.getLast_mem hne)
  simp only [isBoundary, hfirst, hlast, bne_iff_ne, ne_eq, Bool.not_eq_true, Bool.true_eq,
    Bool.not_eq_true]

/-- A language of a row of which something holds, while it holds of none before it. -/
def Foremost (holds : Language → Prop) (languages : List Language) (language : Language) : Prop :=
  ∃ before behind, languages = before ++ language :: behind ∧ holds language ∧
    ∀ other ∈ before, ¬ holds other

/-- Whether an interpreter of a language stands in a line. -/
def NamedIn (line : String) (language : Language) : Prop :=
  ∃ interpreter ∈ language.interpreters, StandsIn interpreter.toList line.toList

theorem any_mentions_iff {line : String} {language : Language} :
    (language.interpreters.any fun interpreter => mentions interpreter.toList none line.toList) = true ↔
      NamedIn line language := by
  simp only [List.any_eq_true, mentions_eq_true, NamedIn]

variable {catalog : Catalog}

theorem find?_interpreterIndex (catalog : Catalog) (line : String) :
    (catalog.interpreterIndex.find? fun (_, interpreters) =>
        interpreters.any fun interpreter => mentions interpreter.toList none line.toList).map Prod.fst =
      (catalog.languages.find? fun language => language.interpreters.any fun interpreter =>
        mentions interpreter.toList none line.toList).map Language.name := by
  rw [Catalog.interpreterIndex, List.find?_map, List.find?_filter, Option.map_map]
  refine congrArg (Option.map Language.name) (congrArg (List.find? · catalog.languages) ?_)
  funext language
  cases hi : language.interpreters with
  | nil => simp [hi]
  | cons first others =>
    simp only [Function.comp_apply, hi, List.isEmpty_cons, Bool.not_false, true_and, Bool.decide_eq_true]

theorem shebang?_eq_some_iff {line name : String} (h : Text.startsWith "#!" line = true) :
    shebang? catalog line = some name ↔ ∃ language,
      Foremost (NamedIn line) catalog.languages language ∧ language.name = name := by
  rw [shebang?, if_pos h, find?_interpreterIndex, Option.map_eq_some_iff]
  refine exists_congr fun language => and_congr_left fun _ => ?_
  simp only [List.find?_eq_some_iff_append, any_mentions_iff, Foremost, Bool.not_eq_true',
    Bool.eq_false_iff, ne_eq]
  constructor
  · rintro ⟨hnamed, before, behind, hrow, hnone⟩
    exact ⟨before, behind, hrow, hnamed, hnone⟩
  · rintro ⟨before, behind, hrow, hnamed, hnone⟩
    exact ⟨hnamed, before, behind, hrow, hnone⟩

theorem exists_foremost {holds : Language → Prop} {row : List Language}
    (h : ∃ language ∈ row, holds language) (behind : List Language) :
    ∃ language ∈ row, Foremost holds (row ++ behind) language := by
  induction row with
  | nil => simp at h
  | cons first rest ih =>
    by_cases hfirst : holds first
    · exact ⟨first, List.mem_cons_self, [], rest ++ behind, rfl, hfirst, by simp⟩
    · obtain ⟨language, hm, hl⟩ := h
      rcases List.mem_cons.mp hm with rfl | hm
      · exact absurd hl hfirst
      · obtain ⟨found, hfound, before, others, hrow, hholds, hnone⟩ := ih ⟨language, hm, hl⟩
        refine ⟨found, List.mem_cons_of_mem _ hfound, first :: before, others, ?_, hholds, ?_⟩
        · rw [List.cons_append, hrow, List.cons_append]
        · intro other ho
          rcases List.mem_cons.mp ho with rfl | ho
          · exact hfirst
          · exact hnone other ho

/-- The line that asks the environment for an interpreter. -/
def envLine (interpreter : String) : String := "#!/usr/bin/env " ++ interpreter

/-- Whether a text begins and ends as a word does. -/
def HasWordEnds (text : List Char) : Prop :=
  text.head?.any isWord = true ∧ text.getLast?.any isWord = true

theorem IsRun.hasWordEnds {word : List Char} (h : IsRun word) : HasWordEnds word := by
  obtain ⟨hne, hword⟩ := h
  obtain ⟨c, rest, rfl⟩ := List.exists_cons_of_ne_nil hne
  refine ⟨by simpa using hword c List.mem_cons_self, ?_⟩
  rw [List.getLast?_eq_some_getLast hne]
  exact hword _ (List.getLast_mem hne)

theorem toList_envLine (interpreter : String) :
    (envLine interpreter).toList = "#!/usr/bin/env".toList ++ ' ' :: interpreter.toList := by
  rw [envLine, String.toList_append]
  rfl

theorem startsWith_envLine (interpreter : String) :
    Text.startsWith "#!" (envLine interpreter) = true := by
  rw [Text.startsWith, toList_envLine]
  rfl

theorem standsIn_envLine {interpreter : String} (h : HasWordEnds interpreter.toList) :
    StandsIn interpreter.toList (envLine interpreter).toList := by
  refine ⟨"#!/usr/bin/env ".toList, [], ?_, ?_, ?_⟩
  · rw [toList_envLine, List.append_nil]
    rfl
  · rw [List.append_nil, isBoundary, h.1]
    rfl
  · have hne : interpreter.toList ≠ [] := by
      rintro he
      simp [HasWordEnds, he] at h
    rw [isBoundary, List.getLast?_append_of_ne_nil _ hne, h.2]
    rfl

theorem runsOf_envLine (interpreter : String) :
    runsOf (envLine interpreter).toList =
      [[], [], [], "usr".toList, "bin".toList, "env".toList] ++ runsOf interpreter.toList := by
  rw [toList_envLine, runsOf_append_cons (by decide)]
  exact congrArg (· ++ _) (by decide)

theorem standsIn_envLine_iff {word interpreter : String} (pathless : word ∉ ["usr", "bin", "env"])
    (run : IsRun word.toList) :
    StandsIn word.toList (envLine interpreter).toList ↔ word.toList ∈ runsOf interpreter.toList := by
  have hpath (name : String) (h : name ∈ ["usr", "bin", "env"]) : word.toList ≠ name.toList :=
    fun he => pathless (String.toList_injective he ▸ h)
  rw [standsIn_iff_mem_runsOf run, runsOf_envLine, List.mem_append]
  simp only [List.mem_cons, run.1, hpath "usr" (by simp), hpath "bin" (by simp), hpath "env" (by simp),
    List.not_mem_nil, or_self, false_or]

section
variable {interpreter : String} {before behind : List Language} {first : Language}

theorem shebang?_envLine {name : String} : shebang? catalog (envLine interpreter) = some name ↔
    ∃ language, Foremost (NamedIn (envLine interpreter)) catalog.languages language ∧
      language.name = name :=
  shebang?_eq_some_iff (startsWith_envLine interpreter)

/-- If a language of the front of the table has an interpreter in the line, so has the one that the line
names. -/
theorem shebang?_front (row : catalog.languages = before ++ behind)
    (h : ∃ language ∈ before, NamedIn (envLine interpreter) language) :
    ∃ language ∈ before, shebang? catalog (envLine interpreter) = some language.name := by
  obtain ⟨language, hm, hforemost⟩ := exists_foremost h behind
  rw [← row] at hforemost
  exact ⟨language, hm, shebang?_envLine.mpr ⟨language, hforemost, rfl⟩⟩

/-- The line names a language with an interpreter in it unless a language before it has one in it too. -/
theorem shebang?_first_iff (row : catalog.languages = before ++ first :: behind)
    (named : NamedIn (envLine interpreter) first) :
    shebang? catalog (envLine interpreter) = some first.name ↔
      ∀ other ∈ before, ¬ NamedIn (envLine interpreter) other := by
  constructor
  · intro hname other ho hnamed
    obtain ⟨language, hm, hl⟩ := shebang?_front row ⟨other, ho, hnamed⟩
    have hnodup := catalog.names_nodup
    rw [row, List.map_append, List.map_cons] at hnodup
    refine (List.nodup_append.mp hnodup).2.2 language.name (List.mem_map_of_mem hm) first.name (by simp) ?_
    exact Option.some.inj (hl.symm.trans hname)
  · intro hnone
    exact shebang?_envLine.mpr ⟨first, ⟨before, behind, row, named, hnone⟩, rfl⟩

/-- Where the environment is asked for an interpreter, the line names the first language of the table that
has any interpreter standing in it. That is the first language that declares the interpreter, if the
interpreter has the ends of a word, unless a language before it has another interpreter in the line. An
interpreter that is a word all through stands there only as a word of the interpreter that is asked for,
so among such interpreters the line always names the first language that declares the one it asks for. -/
theorem shebang?_env
    (pathless : ∀ language ∈ catalog.languages, ∀ name ∈ ["usr", "bin", "env"],
      name ∉ language.interpreters)
    (row : catalog.languages = before ++ first :: behind) (declares : interpreter ∈ first.interpreters)
    (new : ∀ other ∈ before, interpreter ∉ other.interpreters) :
    (∀ name, shebang? catalog (envLine interpreter) = some name ↔ ∃ language,
        Foremost (NamedIn (envLine interpreter)) catalog.languages language ∧ language.name = name) ∧
      (HasWordEnds interpreter.toList →
        (∃ language ∈ before ++ [first],
          shebang? catalog (envLine interpreter) = some language.name) ∧
        (shebang? catalog (envLine interpreter) = some first.name ↔
          ∀ other ∈ before, ¬ NamedIn (envLine interpreter) other)) ∧
      (∀ language ∈ catalog.languages, ∀ word ∈ language.interpreters, IsRun word.toList →
        (StandsIn word.toList (envLine interpreter).toList ↔
          word.toList ∈ runsOf interpreter.toList)) ∧
      (IsRun interpreter.toList →
        (∀ other ∈ before, ∀ word ∈ other.interpreters, IsRun word.toList) →
        shebang? catalog (envLine interpreter) = some first.name) := by
  have hruns : ∀ language ∈ catalog.languages, ∀ word ∈ language.interpreters, IsRun word.toList →
      (StandsIn word.toList (envLine interpreter).toList ↔
        word.toList ∈ runsOf interpreter.toList) := by
    intro language hm word hw run
    exact standsIn_envLine_iff (fun hp => pathless language hm word hp hw) run
  have hfirst (ends : HasWordEnds interpreter.toList) : NamedIn (envLine interpreter) first :=
    ⟨interpreter, declares, standsIn_envLine ends⟩
  refine ⟨fun name => shebang?_envLine, fun ends => ⟨?_, shebang?_first_iff row (hfirst ends)⟩, hruns, ?_⟩
  · have hfront : catalog.languages = (before ++ [first]) ++ behind := by rw [row]; simp
    exact shebang?_front hfront ⟨first, by simp, hfirst ends⟩
  · intro run words
    rw [shebang?_first_iff row (hfirst run.hasWordEnds)]
    rintro other ho ⟨word, hw, hstands⟩
    have hother : other ∈ catalog.languages := row ▸ List.mem_append_left _ ho
    rw [hruns other hother word hw (words other ho word hw), runsOf_word run.2, List.mem_singleton] at hstands
    exact new other ho (String.toList_injective hstands ▸ hw)

end

/-- Languages with interpreters that are words all through, and two with other characters. -/
def scriptCatalog : Catalog := .ofLanguages [
  { name := "JavaScript", category := .programming, interpreters := ["node", "nodejs"] },
  { name := "TypeScript", category := .programming, interpreters := ["deno", "ts-node"] },
  { name := "C++", category := .programming, interpreters := ["c++"] }] (by decide) "inline"

theorem scriptCatalog_pathless : ∀ language ∈ scriptCatalog.languages,
    ∀ name ∈ ["usr", "bin", "env"], name ∉ language.interpreters := by
  decide

theorem shebang?_env_deno : shebang? scriptCatalog (envLine "deno") = some "TypeScript" := by
  have row : scriptCatalog.languages =
      [{ name := "JavaScript", category := .programming, interpreters := ["node", "nodejs"] }] ++
      { name := "TypeScript", category := .programming, interpreters := ["deno", "ts-node"] } ::
      [{ name := "C++", category := .programming, interpreters := ["c++"] }] := rfl
  have declares : "deno" ∈ ["deno", "ts-node"] := by decide
  obtain ⟨-, -, -, hwords⟩ := shebang?_env scriptCatalog_pathless row declares (by decide)
  exact hwords (by decide) (by decide)

/-- A shorter interpreter can stand in a longer one next to a hyphen. Then the line names the language of
the shorter one, though the longer one is asked for. An interpreter without the ends of a word is not
found at all. -/
theorem shebang?_env_exceptions :
    (∀ language ∈ scriptCatalog.languages, ∀ name ∈ ["usr", "bin", "env"],
      name ∉ language.interpreters) ∧
    (scriptCatalog.languages.find? ("ts-node" ∈ ·.interpreters)).map Language.name =
      some "TypeScript" ∧
    shebang? scriptCatalog (envLine "ts-node") = some "JavaScript" ∧
    (scriptCatalog.languages.find? ("c++" ∈ ·.interpreters)).map Language.name = some "C++" ∧
    shebang? scriptCatalog (envLine "c++") = none := by
  refine ⟨scriptCatalog_pathless, ?_, ?_, ?_, ?_⟩ <;> decide

end Polyglot.Detection
