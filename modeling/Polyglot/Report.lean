import Polyglot.Aggregator
import Polyglot.Data.Binary64

namespace Polyglot

open Polyglot.Data (Value Ledger Binary64)

/-- What the report says of one language. -/
structure RankedLanguage where
  rank : Nat
  name : String
  bytes : Int
  deriving DecidableEq, Repr

/-- A summary as it is printed: languages by size, then what has no language. -/
structure Report where
  fileCount : Nat
  bytes : Int
  languages : List RankedLanguage
  languageBytes : Int
  /-- File names and extensions without a language, with their bytes. -/
  unknown : Ledger Int
  unknownBytes : Int
  deriving DecidableEq, Repr

namespace Report

def ranked (summary : Summary) : List RankedLanguage :=
  let sorted := summary.languages.mergeSort fun a b => b.2.bytes ≤ a.2.bytes
  sorted.zipIdx.map fun ((name, share), index) => ⟨index + 1, name, share.bytes⟩

def ofSummary (summary : Summary) : Report where
  fileCount := summary.fileCount
  bytes := summary.bytes
  languages := ranked summary
  languageBytes := summary.languageBytes
  unknown := if 0 < summary.unknownBytes then summary.filenames ++ summary.extensions else []
  unknownBytes := summary.unknownBytes

def groupsOfThree : List Char → List Char
  | a :: b :: c :: d :: rest => a :: b :: c :: ',' :: groupsOfThree (d :: rest)
  | digits => digits

def grouped (n : Int) : String :=
  (if n < 0 then "-" else "") ++
    String.ofList (groupsOfThree (Nat.toDigits 10 n.natAbs).reverse).reverse

def padStart (width : Nat) (text : String) : String :=
  String.ofList (List.replicate (width - text.length) ' ') ++ text

def padEnd (width : Nat) (text : String) : String :=
  text ++ String.ofList (List.replicate (width - text.length) ' ')

def percent (bytes total : Int) : Binary64 :=
  .ofFloat (Float.ofInt bytes / Float.ofInt (if total = 0 then 1 else total) * 100)

def twoPlaces (x : Binary64) : String :=
  let units := x.inUnits 2
  (if x.isNegative then "-" else "") ++ toString (units / 100) ++ "." ++
    String.ofList (((Nat.toDigits 10 (100 + units % 100))).drop 1)

def languageLine (total : Int) (language : RankedLanguage) : String :=
  "  " ++ padStart 2 (toString language.rank) ++ ". " ++ padEnd 24 language.name ++ " " ++
    padStart 5 (twoPlaces (percent language.bytes total)) ++ "% " ++
    padStart 10 (grouped language.bytes) ++ " B"

def unknownLine (entry : String × Int) : String :=
  "  '" ++ entry.1 ++ "': " ++ grouped entry.2 ++ " B"

def totalLine (bytes : Int) : String := " Total: " ++ grouped bytes ++ " B"

def unknownLines (report : Report) : List String :=
  if 0 < report.unknownBytes then
    ["", " Unknown files and extensions:"] ++ report.unknown.map unknownLine ++
      [totalLine report.unknownBytes]
  else []

def lines (report : Report) : List String :=
  ["Analysed " ++ grouped report.bytes ++ " B from " ++ toString report.fileCount ++
      " files with repolang", "", " Language analysis results:"] ++
    report.languages.map (languageLine report.languageBytes) ++
    [totalLine report.languageBytes] ++ report.unknownLines

end Report

namespace LanguageShare

def toValue (share : LanguageShare) : Value :=
  .map [(.text "type", .text share.category.name), (.text "bytes", .int share.bytes),
    (.text "color", .ofOption share.color), (.text "parent", .ofOption share.parent)]

end LanguageShare

namespace Summary

def ledgerValue {α : Type} (value : α → Value) (ledger : Ledger α) : Value :=
  .map (ledger.map fun entry => (.text entry.1, value entry.2))

def labelValue : Option Label → Value
  | some label => .scalar label
  | none => .null

def toValue (summary : Summary) : Value :=
  .map [
    (.text "files", .map [
      (.text "count", .ofNat summary.fileCount), (.text "bytes", .int summary.bytes),
      (.text "results", ledgerValue labelValue summary.files)]),
    (.text "languages", .map [
      (.text "count", .ofNat summary.languageCount), (.text "bytes", .int summary.languageBytes),
      (.text "results", ledgerValue LanguageShare.toValue summary.languages)]),
    (.text "unknown", .map [
      (.text "count", .ofNat summary.unknownCount), (.text "bytes", .int summary.unknownBytes),
      (.text "extensions", ledgerValue .int summary.extensions),
      (.text "filenames", ledgerValue .int summary.filenames)])]

end Summary

/-- The value that a row of keys leads to, or the first key that leads nowhere. -/
def valueAt : List String → Value → Except String Value
  | [], value => .ok value
  | key :: keys, .map entries =>
    match Data.Entries.get? entries key with
    | some value => valueAt keys value
    | none => .error key
  | key :: _, _ => .error key

def valueUnder (keys : String) (value : Value) : Except String Value :=
  valueAt (Text.ofPieces (Text.splitOn '.' keys.toList)) value

end Polyglot
