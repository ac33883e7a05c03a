import Polyglot.Catalog
import Polyglot.Http
import Polyglot.Journal
import Polyglot.Yaml.Fault

namespace Polyglot

open Polyglot.Data (Value Scalar Entries shownRow)
open Polyglot.Text (quoted)

/-- The values of the data files, and the name that errors have for where they come from. -/
structure Tables where
  languages : Value
  vendor : Value := .null
  generated : Value := .null
  heuristics : Value := .null
  source : String := "inline"

/-- What makes a table unusable as a source of a catalog. -/
inductive TableFault where
  | unknownSource
  | unreached (failure : Http.Failure)
  | unserved (response : Http.Response)
  | notYaml (flaw : Yaml.Flaw)
  | noLanguages
  | languageNotAMap (name : String)
  | invalidCategory (name : String) (category : Value)
  | cyclicGroup (name : String)
  | notTexts
  | notTextsUnder (key : String)
  | noDisambiguations
  | disambiguationNotAMap
  | ruleNotAMap (extensions : List String)
  | ruleWithoutLanguage (extensions : List String)
  | unknownNamedPattern (name : Value)

def TableFault.message : TableFault → String
  | .unknownSource => "unknown table source (expected 'bundled' or 'remote')"
  | .unreached failure => failure.message
  | .unserved response => response.refusal
  | .notYaml flaw => (Yaml.Fault.malformed flaw).message
  | .noLanguages => "expected a non-empty mapping of languages"
  | .languageNotAMap name => "entry for " ++ quoted name ++ " is not a mapping"
  | .invalidCategory name category => quoted name ++ " has invalid type " ++ category.shown
  | .cyclicGroup name => "cyclic group for " ++ quoted name
  | .notTexts => "expected a list of strings"
  | .notTextsUnder key => "'" ++ key ++ "' must be a string or a list of strings"
  | .noDisambiguations => "expected a mapping with 'disambiguations'"
  | .disambiguationNotAMap => "each disambiguation must be a mapping"
  | .ruleNotAMap extensions => "rule for " ++ shownRow extensions ++ " is not a mapping"
  | .ruleWithoutLanguage extensions => "rule for " ++ shownRow extensions ++ " has no language"
  | .unknownNamedPattern name => "unknown named_pattern " ++ name.shown

/-- Why no catalog can be built from tables. -/
inductive TableError where
  | refused (source : String) (fault : TableFault)
  | invalidAddress (fault : Http.UrlFault)
  /-- An answer of the server would have to say something beside its text that is not ASCII. -/
  | notAscii
  /-- A redirect leads to a host whose letters break the rules for them. -/
  | invalidLabel (fault : Http.HostLabelFault)
  | notAKey
  | noParts
  /-- A value that is no map is asked for its entries. -/
  | noEntries
  | endless
  /-- A number has to be written that is too long for that. -/
  | tooManyDigits
  /-- A scalar of a table is not what its tag or its spelling says. -/
  | unreadable (fault : Yaml.Fault)

def TableError.message : TableError → String
  | .refused source fault => "Cannot load table '" ++ source ++ "': " ++ fault.message
  | .unreadable fault => fault.message
  | .invalidAddress fault => fault.message
  | .tooManyDigits => Text.tooLongMessage none
  | .notAscii | .invalidLabel _ | .notAKey | .noParts | .noEntries | .endless => ""

namespace Tables

abbrev Result := Except TableError

def refuse {α : Type} (source : String) (fault : TableFault) : Result α :=
  .error (.refused source fault)

def checkLength (isTooLong : Bool) : Result Unit :=
  if isTooLong then .error .tooManyDigits else .ok ()

def entry (entries : Entries) (key : String) : Value := (entries.get? key).getD .null

def texts? : List Value → Option (List String)
  | [] => some []
  | .text s :: rest => (texts? rest).map (s :: ·)
  | _ :: _ => none

theorem texts?_eq_some_iff {items : List Value} {texts : List String} :
    texts? items = some texts ↔ items = texts.map .text := by
  induction items generalizing texts with
  | nil => cases texts <;> simp [texts?]
  | cons item rest ih => cases texts <;> unfold texts? <;> split <;> grind [Option.map_eq_some_iff]

def textsUnder (source key : String) : Value → Result (List String)
  | .null => .ok []
  | .text s => .ok [s]
  | .list items => match texts? items with
    | some texts => .ok texts
    | none => refuse source (.notTextsUnder key)
  | _ => refuse source (.notTextsUnder key)

/-- A list of patterns; what counts as absent is empty. -/
def patternsOf (source : String) (value : Value) : Result (List String) :=
  if !value.truthy then .ok []
  else match value with
    | .list items => match texts? items with
      | some texts => .ok texts
      | none => refuse source .notTexts
    | _ => refuse source .notTexts

/-- The groups of languages, as the table has them, by the names of the languages. -/
abbrev Groups := List (String × Value)

def groupOf? (groups : Groups) (name : String) : Option Value :=
  (groups.find? (·.1 == name)).map Prod.snd

def setGroup (groups : Groups) (name : String) (group : Value) : Groups :=
  (name, group) :: groups.filter (·.1 != name)

def isText (name : String) : Value → Bool
  | .text s => s == name
  | _ => false

def categoryOf? : Value → Option Category
  | .text name => Category.ofName? name
  | _ => none

def languageOf (source name : String) (entries : Entries) : Result Language :=
  match categoryOf? (entry entries "type") with
  | none => do
    checkLength (entry entries "type").isTooLong
    refuse (source ++ ":languages") (.invalidCategory name (entry entries "type"))
  | some category => do
    let texts (key : String) := textsUnder source (name ++ "." ++ key) (entry entries key)
    let filenames ← texts "filenames"
    let extensions ← texts "extensions"
    let interpreters ← texts "interpreters"
    let aliases ← texts "aliases"
    .ok {
      name, category, filenames, extensions, interpreters, aliases
      color := entry entries "color" }

/-- The group in an entry. A language that is its own group has none. -/
def groupIn (name : String) (entries : Entries) : Value :=
  let group := entry entries "group"
  if isText name group then .null else group

/-- Reads the entries one after the other, behind the languages that are read already. -/
def languagesIn (source : String) : Entries → List Language → Groups →
    Result (List Language × Groups)
  | [], languages, groups => .ok (languages, groups)
  | (key, .map entries) :: rest, languages, groups => do
    checkLength key.isTooLong
    let language ← languageOf source key.name entries
    languagesIn source rest (Language.put language languages)
      (setGroup groups language.name (groupIn language.name entries))
  | (key, _) :: _, _, _ => do
    checkLength key.isTooLong
    refuse (source ++ ":languages") (.languageNotAMap key.name)

/-- Induction along entries that are read one after the other without a fault. -/
@[elab_as_elim]
theorem languagesIn_induction {source : String} {out : List Language} {groups' : Groups}
    {motive : Entries → List Language → Groups → Prop} {entries : Entries} {languages : List Language}
    {groups : Groups} (h : languagesIn source entries languages groups = .ok (out, groups'))
    (done : motive [] out groups')
    (step : ∀ key entries rest languages groups language,
      languageOf source key.name entries = .ok language →
      motive rest (Language.put language languages)
        (setGroup groups language.name (groupIn language.name entries)) →
      motive ((key, .map entries) :: rest) languages groups) : motive entries languages groups := by
  fun_induction languagesIn source entries languages groups with
  | case1 =>
    cases h
    exact done
  | case2 key entries rest languages groups ih =>
    cases hk : checkLength key.isTooLong with
    | error e => simp [hk, bind, Except.bind] at h
    | ok _ =>
      cases hl : languageOf source key.name entries with
      | error e => simp [hk, hl, bind, Except.bind] at h
      | ok language =>
        rw [hk, hl] at h
        exact step key entries rest languages groups language hl (ih language h)
  | case3 key =>
    cases hk : checkLength key.isTooLong <;> simp [hk, refuse, bind, Except.bind] at h

theorem languagesIn_nodup {source : String} {entries : Entries} {languages out : List Language}
    {groups groups' : Groups} (nodup : (languages.map Language.name).Nodup)
    (h : languagesIn source entries languages groups = .ok (out, groups')) :
    (out.map Language.name).Nodup := by
  revert nodup
  refine languagesIn_induction h id ?_
  intro _ _ _ _ _ _ _ ih nodup
  exact ih (Language.names_put_nodup nodup)

/-- Climbs from a group to the group of that and so on, until one has no group, is no language or
has been seen. The answer tells the last group and what was seen. -/
def climb (groups : Groups) : (steps : Nat) → (seen : List String) → Value →
    Result (Scalar × List String)
  | 0, seen, .scalar group => .ok (group, seen)
  | steps + 1, seen, .scalar group =>
    match group with
    | .text name =>
      match groupOf? groups name with
      | some next =>
        if next.truthy ∧ name ∉ seen then climb groups steps (name :: seen) next
        else .ok (group, seen)
      | none => .ok (group, seen)
    | _ => .ok (group, seen)
  | _, _, _ => .error .notAKey

/-- The last group above a language, which must not be one on the way. -/
def rootOf (source : String) (groups : Groups) (name : String) (group : Value) : Result Scalar := do
  let (root, seen) ← climb groups groups.length [name] group
  match root with
  | .text s => if s ∈ seen then refuse (source ++ ":languages") (.cyclicGroup name) else .ok root
  | _ => .ok root

def flattened (name : String) (root : Scalar) : Value → Journal
  | .scalar group => if root = group then [] else [.groupFlattened name group root]
  | _ => []

/-- Gives the languages their last groups, one after the other. -/
def flatten (source : String) : Groups → List Language → Journal × Result (List Language)
  | _, [] => ([], .ok [])
  | groups, language :: rest =>
    let group := (groupOf? groups language.name).getD .null
    match rootOf source groups language.name group with
    | .error e => ([], .error e)
    | .ok root =>
      let (journal, languages) := flatten source (setGroup groups language.name (.scalar root)) rest
      (flattened language.name root group ++ journal,
        languages.map ({ language with group := root } :: ·))

theorem names_flatten {source : String} {groups : Groups} {languages out : List Language}
    (h : (flatten source groups languages).2 = .ok out) :
    out.map Language.name = languages.map Language.name := by
  induction languages generalizing groups out with
  | nil => simp [flatten] at h; simp [← h]
  | cons language rest ih =>
    rw [flatten] at h
    split at h
    · simp at h
    · rename_i root _
      cases hr : (flatten source (setGroup groups language.name (.scalar root)) rest).2 with
      | error e => simp [hr, Except.map] at h
      | ok languages =>
        simp only [hr, Except.map, Except.ok.injEq] at h
        simp [← h, ih hr]

def languagesOf (source : String) : Value → Journal × Result (List Language)
  | .map entries =>
    if entries.isEmpty then ([], refuse (source ++ ":languages") .noLanguages)
    else match languagesIn source entries [] [] with
      | .error e => ([], .error e)
      | .ok (languages, groups) => flatten source groups languages
  | _ => ([], refuse (source ++ ":languages") .noLanguages)

theorem languagesOf_nodup {source : String} {value : Value} {languages : List Language}
    (h : (languagesOf source value).2 = .ok languages) :
    (languages.map Language.name).Nodup := by
  unfold languagesOf at h
  split at h
  · split at h
    · simp [refuse] at h
    · split at h
      · simp at h
      · rename_i hl
        exact names_flatten h ▸ languagesIn_nodup (by simp) hl
  · simp [refuse] at h

/-- Lists of patterns by their names. -/
abbrev NamedPatterns := List (String × List String)

/-- The items that one meets on the way through a value: of a list its items, of a map its keys, of
a text its characters. A value that counts as absent has none. -/
def partsOf (value : Value) : Result (List Value) :=
  if !value.truthy then .ok []
  else match value with
    | .list items => .ok items
    | .map entries => .ok (entries.map fun entry => .scalar entry.1)
    | .set members => .ok (members.map .scalar)
    | .text s => .ok (s.toList.map fun c => .text (String.singleton c))
    | .pair first second => .ok [first, second]
    | .scalar (.bytes bytes) => .ok (bytes.map fun byte => .int byte.toNat)
    | .scalar _ => .error .noParts
    | .again _ => .error .endless

def namedPatternsIn (source : String) : Entries → NamedPatterns → Result NamedPatterns
  | [], named => .ok named
  | (key, value) :: rest, named => do
    checkLength key.isTooLong
    let patterns ← textsUnder source ("named_patterns." ++ key.name) value
    namedPatternsIn source rest
      (named.filter (fun entry => entry.1 != key.name) ++ [(key.name, patterns)])

def namedPatternsOf (source : String) (value : Value) : Result NamedPatterns :=
  if !value.truthy then .ok []
  else match value with
    | .map entries => namedPatternsIn source entries []
    | _ => .error .noEntries

def namedBy (source : String) (named : NamedPatterns) : Value → Result (List String)
  | .null => .ok []
  | .text name => match named.find? (·.1 == name) with
    | some (_, patterns) => .ok patterns
    | none => refuse source (.unknownNamedPattern (.text name))
  | .scalar s => do
    checkLength s.isTooLong
    refuse source (.unknownNamedPattern (.scalar s))
  | _ => .error .notAKey

mutual

/-- The rule of an entry. Inline patterns come before named ones, and the clauses are under `and`. A
rule that is met once more among its own clauses has no end. -/
def ruleOf (source language : String) (named : NamedPatterns) : Value → Result ContentRule
  | .map entries => do
    let inline ← textsUnder source "pattern" (entry entries "pattern")
    let byName ← namedBy source named (entry entries "named_pattern")
    let clauses ← clausesIn source language named entries
    let negative ← textsUnder source "negative_pattern" (entry entries "negative_pattern")
    .ok { language, patterns := inline ++ byName, negative, clauses }
  | .again true => .error .endless
  | _ => .error .noEntries

def clausesIn (source language : String) (named : NamedPatterns) :
    List (Scalar × Value) → Result (List ContentRule)
  | [] => .ok []
  | (key, value) :: rest =>
    if key.same (.text "and") then clausesOf source language named value
    else clausesIn source language named rest

def clausesOf (source language : String) (named : NamedPatterns) :
    Value → Result (List ContentRule)
  | .list items => rulesOf source language named items
  | .again true => .error .noEntries
  | value => do
    let parts ← partsOf value
    if parts.isEmpty then .ok [] else .error .noEntries

def rulesOf (source language : String) (named : NamedPatterns) :
    List Value → Result (List ContentRule)
  | [] => .ok []
  | item :: items => do
    let rule ← ruleOf source language named item
    let rules ← rulesOf source language named items
    .ok (rule :: rules)

end

/-- The language of a rule; of a list the first counts. -/
def ruleLanguage? : Value → Option String
  | .text name => some name
  | .list (.text name :: _) => some name
  | _ => none

def groupRule (source : String) (named : NamedPatterns) (extensions : List String) :
    Value → Result ContentRule
  | .map entries => match ruleLanguage? (entry entries "language") with
    | some language => ruleOf source language named (.map entries)
    | none => refuse source (.ruleWithoutLanguage extensions)
  | _ => refuse source (.ruleNotAMap extensions)

def disambiguationOf (source : String) (named : NamedPatterns) : Value → Result Disambiguation
  | .map entries => do
    let extensions ← textsUnder source "extensions" (entry entries "extensions")
    let items ← partsOf (entry entries "rules")
    let rules ← items.mapM (groupRule source named extensions)
    .ok ⟨extensions.map Text.lower, rules⟩
  | _ => refuse source .disambiguationNotAMap

def disambiguationsOf (source : String) (value : Value) : Result (List Disambiguation) :=
  if !value.truthy then .ok []
  else match value with
    | .map entries => do
      let named ← namedPatternsOf source (entry entries "named_patterns")
      let groups ← partsOf (entry entries "disambiguations")
      groups.mapM (disambiguationOf source named)
    | _ => refuse source .noDisambiguations

end Tables

/-- The catalog of tables, or the first error; with what is reported on the way. -/
def Catalog.ofTables (tables : Tables) : Journal × Except TableError Catalog :=
  let read := Tables.languagesOf tables.source tables.languages
  (read.1, match h : read.2 with
    | .error e => .error e
    | .ok languages => do
      let vendor ← Tables.patternsOf (tables.source ++ ":vendor") tables.vendor
      let generated ← Tables.patternsOf (tables.source ++ ":generated") tables.generated
      let disambiguations ←
        Tables.disambiguationsOf (tables.source ++ ":heuristics") tables.heuristics
      .ok (Catalog.ofLanguages languages (Tables.languagesOf_nodup h) tables.source vendor generated
        disambiguations))

end Polyglot
