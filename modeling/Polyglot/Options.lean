import Polyglot.Category
import Polyglot.Data.Value
import Polyglot.Text.Numeral
import Polyglot.Text.Basic

namespace Polyglot

open Polyglot.Data (Value Scalar Entries Binary64)

/-- What an analysis leaves out, looks at and keeps. -/
structure Options where
  ignoredFiles : List String := []
  ignoredLanguages : List String := []
  /-- The categories to keep; all of them where none are given. -/
  categories : Option (List Category) := none
  childLanguages : Bool := false
  keepVendored : Bool := false
  keepBinary : Bool := false
  checkAttributes : Bool := true
  checkIgnored : Bool := true
  checkHeuristics : Bool := true
  checkShebang : Bool := true
  quick : Bool := false
  concurrency : Int := 8
  deriving DecidableEq, Repr

/-- What is wrong with a value given for an option. -/
inductive FaultKind where
  | notAMap
  | unknownKey
  | notACategory
  | tooSmall
  | unreadableInt
  | tooManyDigits
  | notWhole
  | notFinite
  | notAnInt
  | unreadableBool
  | notABool
  | notAList
  | notAText
  | notUnicode
  deriving DecidableEq, Repr

def FaultKind.code : FaultKind → String
  | .notAMap => "model_type"
  | .unknownKey => "extra_forbidden"
  | .notACategory => "literal_error"
  | .tooSmall => "greater_than_equal"
  | .unreadableInt => "int_parsing"
  | .tooManyDigits => "int_parsing_size"
  | .notWhole => "int_from_float"
  | .notFinite => "finite_number"
  | .notAnInt => "int_type"
  | .unreadableBool => "bool_parsing"
  | .notABool => "bool_type"
  | .notAList => "list_type"
  | .notAText => "string_type"
  | .notUnicode => "string_unicode"

/-- A fault and where it is: a key and, in a list, a position. -/
structure OptionFault where
  place : List String
  kind : FaultKind
  deriving DecidableEq, Repr

def OptionFault.text (fault : OptionFault) : String :=
  ".".intercalate fault.place ++ ":" ++ fault.kind.code

/-- The faults of a map of options, in the order of their texts. -/
def faultsText (faults : List OptionFault) : String :=
  "; ".intercalate ((faults.map OptionFault.text).mergeSort fun a b => a ≤ b)

namespace Options

/-- A value that was read from a field, with the faults on the way: a key's own, or those of places
in a list. -/
abbrev Reading (α : Type) := Except (List (List String × FaultKind)) α

def fault {α : Type} (kind : FaultKind) : Reading α := .error [([], kind)]

def falseWords : List String := ["0", "f", "n", "no", "off", "false"]

def trueWords : List String := ["1", "t", "y", "on", "yes", "true"]

def asciiLower (s : String) : String := s.map Char.toLower

def isWord (n : Int) : Bool := -0x8000000000000000 ≤ n && n < 0x8000000000000000

/-- The whole numbers that a floating-point number may stand for: those strictly between the ends of a
machine word. -/
def wordOfFloat? (x : Binary64) : Option Int :=
  x.toInt?.filter fun n => -0x8000000000000000 < n && n < 0x8000000000000000

def boolOfInt (n : Int) : Reading Bool :=
  if n = 0 then .ok false else if n = 1 then .ok true else fault .unreadableBool

def textOfBytes? (bytes : List UInt8) : Option String := String.fromUTF8? ⟨bytes.toArray⟩

def boolOfText (word : String) : Reading Bool :=
  if falseWords.contains (asciiLower word) then .ok false
  else if trueWords.contains (asciiLower word) then .ok true
  else fault .unreadableBool

/-- A truth value: itself, zero or one, or a word for one of them in any case. -/
def readBool : Value → Reading Bool
  | .bool b => .ok b
  | .int n => if isWord n then boolOfInt n else fault .notABool
  | .float x => match wordOfFloat? x with
    | some n => boolOfInt n
    | none => fault .notABool
  | .text s => boolOfText s
  | .scalar (.bytes bytes) => (textOfBytes? bytes).elim (fault .unreadableBool) boolOfText
  | _ => fault .notABool

def isNumberSpace (c : Char) : Bool :=
  Text.isBlank c && !(0x1c ≤ c.toNat && c.toNat ≤ 0x1f)

/-- What is behind a plus, which no minus may follow. -/
def behindPlus? : List Char → Option (List Char)
  | '+' :: '-' :: _ => none
  | '+' :: rest => some rest
  | chars => some chars

/-- Leading zeros and the underscores among them do not count. A zero stays where nothing but a point
follows; a minus may stand behind zeros. -/
def dropZeros? (chars : List Char) : Option (List Char) :=
  match chars with
  | '0' :: rest =>
    let zeros := rest.takeWhile fun c => c == '0' || c == '_'
    let last := zeros.getLastD '0'
    match rest.drop zeros.length with
    | [] => some [last]
    | '.' :: places => some (last :: '.' :: places)
    | c :: after => if c.isDigit || c == '-' then some (c :: after) else none
  | c :: _ => if c.isDigit || c == '-' then some chars else none
  | [] => none

/-- Zeros behind a point do not count, if there is one at least. -/
def dropPlaces (chars : List Char) : List Char :=
  let (whole, places) := Text.cutAt '.' chars
  if !places.isEmpty && places.all (· == '0') then whole else chars

/-- Underscores do not count where none is the first or the last sign and no two stand together. -/
def dropUnderscores (chars : List Char) : List Char :=
  if (Text.splitOn '_' chars).any List.isEmpty then chars else chars.filter (· != '_')

/-- A whole number without a zero in front, if it does not have too many digits. -/
def decimal (chars : List Char) : Reading Int :=
  let (negative, digits) : Bool × List Char := match chars with
    | '-' :: rest => (true, rest)
    | rest => (false, rest)
  match digits.takeWhile Char.isDigit with
  | [] => fault .unreadableInt
  | first :: others =>
    if first = '0' ∧ digits ≠ ['0'] then fault .unreadableInt
    else if Text.maxDigits < others.length + 1 then fault .tooManyDigits
    else if digits.length ≠ others.length + 1 then fault .unreadableInt
    else
      let n : Int := Text.natOfDigits 10 digits
      .ok (if negative then -n else n)

/-- A whole number in a text: a sign, digits with underscores between them, and a point with zeros
behind it. -/
def intOfText (text : String) : Reading Int :=
  let chars := Text.dropWhileEnd isNumberSpace (text.toList.dropWhile isNumberSpace)
  match (behindPlus? chars).bind dropZeros? with
  | some digits => decimal (dropUnderscores (dropPlaces digits))
  | none => fault .unreadableInt

/-- A whole number: itself, a truth value, a floating-point number without places, or a text. -/
def readInt : Value → Reading Int
  | .int n => .ok n
  | .bool b => .ok (if b then 1 else 0)
  | .float x =>
    match wordOfFloat? x, x.toInt? with
    | some n, _ => .ok n
    | none, some _ => fault .tooManyDigits
    | none, none => fault (if x.isInfinite || x.isNaN then .notFinite else .notWhole)
  | .text s => intOfText s
  | .scalar (.bytes bytes) => (textOfBytes? bytes).elim (fault .unreadableInt) intOfText
  | _ => fault .notAnInt

def readConcurrency (value : Value) : Reading Int :=
  match readInt value with
  | .ok n => if n < 1 then fault .tooSmall else .ok n
  | .error faults => .error faults

/-- Reads the items of a list; a fault is placed at the position of its item. -/
def readItems {α : Type} (read : Value → Except FaultKind α) (items : List Value) :
    Reading (List α) :=
  let results := items.map read
  let faults := results.zipIdx.filterMap fun (result, position) => match result with
    | .ok _ => none
    | .error kind => some ([toString position], kind)
  if faults.isEmpty then .ok (results.filterMap Except.toOption) else .error faults

def trimText (s : String) : String := String.ofList (Text.trim s.toList)

def trimItem? : Value → Option Value
  | .text s => if trimText s = "" then none else some (.text (trimText s))
  | value => some value

/-- Texts without blanks around them. Blank ones are dropped, and a text alone is a list of one. -/
def readTexts (value : Value) : Reading (List String) :=
  let items := match value with
    | .text s => some [Value.text s]
    | .list items => some items
    | _ => none
  match items with
  | none => fault .notAList
  | some items =>
    readItems (fun item => match item with
      | .text s => .ok s
      | .scalar (.bytes bytes) => (textOfBytes? bytes).elim (.error .notUnicode) .ok
      | _ => .error .notAText) (items.filterMap trimItem?)

def readCategories : Value → Reading (Option (List Category))
  | .null => .ok none
  | .list items =>
    (readItems (fun item => match item with
      | .text s => match Category.ofName? s with
        | some category => .ok category
        | none => .error .notACategory
      | _ => .error .notACategory) items).map some
  | _ => fault .notAList

/-- A field by its two spellings. -/
structure Field where
  name : String
  camel : String
  deriving DecidableEq

/-- The value given for a field, and the spelling under which it is given. -/
def Field.given? (field : Field) (entries : Entries) : Option (String × Value) :=
  match Entries.get? entries field.camel with
  | some value => some (field.camel, value)
  | none => (Entries.get? entries field.name).map (field.name, ·)

def checkFields : List Field := [
  ⟨"check_attributes", "checkAttributes"⟩, ⟨"check_ignored", "checkIgnored"⟩,
  ⟨"check_heuristics", "checkHeuristics"⟩, ⟨"check_shebang", "checkShebang"⟩]

def fields : List Field := [
  ⟨"ignored_files", "ignoredFiles"⟩, ⟨"ignored_languages", "ignoredLanguages"⟩,
  ⟨"categories", "categories"⟩, ⟨"child_languages", "childLanguages"⟩,
  ⟨"keep_vendored", "keepVendored"⟩, ⟨"keep_binary", "keepBinary"⟩] ++ checkFields ++
  [⟨"quick", "quick"⟩, ⟨"concurrency", "concurrency"⟩]

/-- The value that a field gets, or its default where it is not given, and the faults. -/
def take {α : Type} (entries : Entries) (name camel : String) (default : α)
    (read : Value → Reading α) : α × List OptionFault :=
  match Field.given? ⟨name, camel⟩ entries with
  | none => (default, [])
  | some (key, value) =>
    match read value with
    | .ok read => (read, [])
    | .error faults => (default, faults.map fun (place, kind) => ⟨key :: place, kind⟩)

def consumed (entries : Entries) (key : String) : Bool :=
  fields.any fun field => match field.given? entries with
    | some (used, _) => used == key
    | none => false

/-- The values of `quick` that switch the checks off. -/
def asksQuick (entries : Entries) : Bool :=
  match Entries.get? entries "quick" with
  | some (.text s) => s == "true" || s == "True" || s == "1"
  | some (.scalar s) => s.key == .int 1
  | _ => false

/-- The entries with every check off, if a quick run is asked for. -/
def settleQuick (entries : Entries) : Entries :=
  if asksQuick entries then
    (entries.filter fun (key, _) =>
      !checkFields.any fun field => key == Scalar.text field.name || key == Scalar.text field.camel) ++
      checkFields.map fun field => (.text field.name, .bool false)
  else entries

/-- The options that entries give, or all faults of the entries. -/
def ofEntries (given : Entries) : Except (List OptionFault) Options :=
  let entries := settleQuick given
  let ignoredFiles := take entries "ignored_files" "ignoredFiles" [] readTexts
  let ignoredLanguages := take entries "ignored_languages" "ignoredLanguages" [] readTexts
  let categories := take entries "categories" "categories" none readCategories
  let childLanguages := take entries "child_languages" "childLanguages" false readBool
  let keepVendored := take entries "keep_vendored" "keepVendored" false readBool
  let keepBinary := take entries "keep_binary" "keepBinary" false readBool
  let checkAttributes := take entries "check_attributes" "checkAttributes" true readBool
  let checkIgnored := take entries "check_ignored" "checkIgnored" true readBool
  let checkHeuristics := take entries "check_heuristics" "checkHeuristics" true readBool
  let checkShebang := take entries "check_shebang" "checkShebang" true readBool
  let quick := take entries "quick" "quick" false readBool
  let concurrency := take entries "concurrency" "concurrency" 8 readConcurrency
  let strangers := entries.filterMap fun (key, _) => match key with
    | .text key => if consumed entries key then none else some ⟨[key], .unknownKey⟩
    | _ => none
  let faults := ignoredFiles.2 ++ ignoredLanguages.2 ++ categories.2 ++ childLanguages.2 ++
    keepVendored.2 ++ keepBinary.2 ++ checkAttributes.2 ++ checkIgnored.2 ++ checkHeuristics.2 ++
    checkShebang.2 ++ quick.2 ++ concurrency.2 ++ strangers
  if faults.isEmpty then
    .ok {
      ignoredFiles := ignoredFiles.1
      ignoredLanguages := ignoredLanguages.1
      categories := categories.1
      childLanguages := childLanguages.1
      keepVendored := keepVendored.1
      keepBinary := keepBinary.1
      checkAttributes := checkAttributes.1
      checkIgnored := checkIgnored.1
      checkHeuristics := checkHeuristics.1
      checkShebang := checkShebang.1
      quick := quick.1
      concurrency := concurrency.1 }
  else .error faults

def ofValue : Value → Except (List OptionFault) Options
  | .map entries => ofEntries entries
  | _ => .error [⟨[], .notAMap⟩]

/-- The options as a map, under the spellings with underscores. -/
def toValue (options : Options) : Value :=
  let texts (items : List String) : Value := .list (items.map .text)
  .map [
    (.text "ignored_files", texts options.ignoredFiles),
    (.text "ignored_languages", texts options.ignoredLanguages),
    (.text "categories", match options.categories with
      | none => .null
      | some categories => texts (categories.map Category.name)),
    (.text "child_languages", .bool options.childLanguages),
    (.text "keep_vendored", .bool options.keepVendored),
    (.text "keep_binary", .bool options.keepBinary),
    (.text "check_attributes", .bool options.checkAttributes),
    (.text "check_ignored", .bool options.checkIgnored),
    (.text "check_heuristics", .bool options.checkHeuristics),
    (.text "check_shebang", .bool options.checkShebang),
    (.text "quick", .bool options.quick),
    (.text "concurrency", .int options.concurrency)]

end Options

end Polyglot
