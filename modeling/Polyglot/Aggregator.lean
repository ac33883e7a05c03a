import Polyglot.Catalog
import Polyglot.Data.Ledger
import Polyglot.Data.Shown
import Polyglot.Detection.Extraction
import Polyglot.Journal

namespace Polyglot

open Polyglot.Data (Value Ledger)
open Polyglot.Detection (Signal)

/-- What is known of a file in the end. -/
structure Classified where
  path : String
  label : Option Label := none
  size : Int := 0
  binary : Bool := false
  signal : Signal := .none
  deriving DecidableEq, Repr

/-- What a language has of the result: its bytes, and what a report shows of the language itself. -/
structure LanguageShare where
  category : Category
  bytes : Int := 0
  color : Option String
  parent : Option String
  deriving DecidableEq, Repr

/-- The result of an analysis; every ledger is in the order in which its keys were first met. -/
structure Summary where
  /-- The bytes of all files with a language, and of those without a label. -/
  bytes : Int := 0
  files : Ledger (Option Label) := []
  languageBytes : Int := 0
  languages : Ledger LanguageShare := []
  unknownBytes : Int := 0
  extensions : Ledger Int := []
  filenames : Ledger Int := []
  deriving DecidableEq, Repr

namespace Summary

def fileCount (summary : Summary) : Nat := summary.files.length

def languageCount (summary : Summary) : Nat := summary.languages.length

def unknownCount (summary : Summary) : Nat := summary.extensions.length + summary.filenames.length

end Summary

/-- A field of a language that is no text, where its share needs one. -/
structure ShareFault where
  field : String
  value : Value

namespace ShareFault

/-- The longest start of a text within a number of bytes. -/
def startWithin : Nat → List Char → List Char
  | _, [] => []
  | room, c :: rest =>
    if c.utf8Size ≤ room then c :: startWithin (room - c.utf8Size) rest else []

/-- A text of at most fifty bytes stays; of a longer one the start and the end are shown. -/
def abridged (text : String) : String :=
  if text.utf8ByteSize ≤ 50 then text
  else String.ofList (startWithin 25 text.toList) ++ "..." ++
    String.ofList (startWithin 24 text.toList.reverse).reverse

def text (fault : ShareFault) : String :=
  fault.field ++ "\n  Input should be a valid string [type=string_type, input_value=" ++
    abridged fault.value.shown ++ ", input_type=" ++ fault.value.kind ++
    "]\n    For further information visit https://errors.pydantic.dev/2.14/v/string_type"

def message (faults : List ShareFault) : String :=
  toString faults.length ++ (if faults.length = 1 then " validation error" else " validation errors") ++
    " for LanguageStats\n" ++ "\n".intercalate (faults.map text)

end ShareFault

/-- The summary of the files added so far, and how many of them were dropped. -/
structure Aggregator where
  catalog : Catalog
  options : Options
  summary : Summary := {}
  dropped : Nat := 0

namespace Aggregator

/-- Whether the categories of the options leave a language out. -/
def filters (options : Options) (language : Language) : Bool :=
  match options.categories with
  | some (first :: others) => !(first :: others).contains language.category
  | _ => false

def shareText (field : String) : Value → Except ShareFault (Option String)
  | .null => .ok none
  | .text s => .ok (some s)
  | value => .error ⟨field, value⟩

def faultOf {α : Type} : Except ShareFault α → List ShareFault
  | .ok _ => []
  | .error fault => [fault]

def newShare (options : Options) (language : Language) : Except (List ShareFault) LanguageShare :=
  let parent : Value := if options.childLanguages then .scalar language.group else .null
  match shareText "color" language.color, shareText "parent" parent with
  | .ok color, .ok parent => .ok { category := language.category, color, parent }
  | color, parent => .error (faultOf color ++ faultOf parent)

/-- Adds to the bytes of what has no language: under the extension of the path, or under its name
where it has none. -/
def addUnknown (path : String) (size : Int) (summary : Summary) : Summary :=
  let name := (Path.ofText path).name
  let extension := (Path.ofText name).suffix
  let summary := { summary with unknownBytes := summary.unknownBytes + size }
  if extension = "" then { summary with filenames := summary.filenames.change name 0 (· + size) }
  else { summary with extensions := summary.extensions.change extension 0 (· + size) }

def addLanguage (share : LanguageShare) (name : String) (size : Int) (summary : Summary) : Summary :=
  { summary with
    languageBytes := summary.languageBytes + size
    languages := summary.languages.put name { share with bytes := share.bytes + size } }

def drop (item : Classified) (reason : String) (aggregator : Aggregator) : Journal × Aggregator :=
  ([.fileDropped item.path (item.label.getD .null) reason],
    { aggregator with dropped := aggregator.dropped + 1 })

/-- Counts a file, and answers whether it was kept. Where the share of its language cannot be made,
the file stays listed and counted among all bytes. -/
def add (item : Classified) (aggregator : Aggregator) :
    Journal × Except (List ShareFault) Bool × Aggregator :=
  let language := item.label.bind aggregator.catalog.ofLabel?
  let dropFor (reason : String) :=
    let (journal, aggregator) := aggregator.drop item reason
    (journal, Except.ok false, aggregator)
  if item.binary then dropFor "binary"
  else if language.any (filters aggregator.options) then dropFor "category_filtered"
  else
    let summary := { aggregator.summary with files := aggregator.summary.files.put item.path item.label }
    let counted := { summary with bytes := summary.bytes + item.size }
    let keep (summary : Summary) : Aggregator := { aggregator with summary }
    match language, item.label with
    | none, some label => ([.strangerAdded item.path label], .ok true, keep summary)
    | none, none => ([], .ok true, keep (addUnknown item.path item.size counted))
    | some language, _ =>
      let share := match counted.languages.get? language.name with
        | some share => Except.ok share
        | none => newShare aggregator.options language
      match share with
      | .error faults => ([], .error faults, keep counted)
      | .ok share => ([], .ok true, keep (addLanguage share language.name item.size counted))

/-- The languages without bytes leave the sums for good. -/
def settle (aggregator : Aggregator) : Aggregator :=
  { aggregator with summary := { aggregator.summary with
      languages := aggregator.summary.languages.filter fun entry => 0 < entry.2.bytes } }

/-- The sums so far, without languages that have no bytes. -/
def result (aggregator : Aggregator) : Summary := aggregator.settle.summary

/-- Counts files up to the first one that cannot be counted. -/
def addAll (aggregator : Aggregator) :
    List Classified → Journal × Except (List ShareFault) Aggregator
  | [] => ([], .ok aggregator)
  | item :: items =>
    match aggregator.add item with
    | (journal, .error faults, _) => (journal, .error faults)
    | (journal, .ok _, aggregator) =>
      let (rest, aggregator) := addAll aggregator items
      (journal ++ rest, aggregator)

end Aggregator

end Polyglot
