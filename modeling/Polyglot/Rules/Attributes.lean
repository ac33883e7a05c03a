import Polyglot.Catalog
import Polyglot.Journal
import Polyglot.Options
import Polyglot.Rules
import Polyglot.Text.LetterCase

namespace Polyglot

open Polyglot.Text (after?)

def linesOf (text : List Char) : List String := Text.ofPieces (Text.splitOn '\n' text)

/-- Compiles patterns and leaves out those that do not compile. A fatal error ends that. -/
def compileEach (dialect : PatternDialect) (source : String) :
    List String → Journal × Except PatternError (List Matcher)
  | [] => ([], .ok [])
  | pattern :: rest =>
    match compilePattern dialect source pattern with
    | .ok matcher =>
      let (journal, matchers) := compileEach dialect source rest
      (journal, matchers.map (matcher :: ·))
    | .error error =>
      if error.fatal then ([], .error error)
      else
        let (journal, matchers) := compileEach dialect source rest
        (.ignoreSkipped error :: journal, matchers)

def globsOf (source : String) : List String → Journal × List Matcher
  | [] => ([], [])
  | pattern :: rest =>
    let (journal, matchers) := globsOf source rest
    match compilePattern .glob source pattern with
    | .ok matcher => (journal, matcher :: matchers)
    | .error error => (.ignoreSkipped error :: journal, matchers)

def ignoreFileName : String := ".gitignore"

def sourceIn (folder name : String) : String := if folder = "" then name else folder ++ "/" ++ name

def isIgnoreLine (line : String) : Bool :=
  !(Text.trim line.toList).isEmpty && !Text.startsWith "#" line

/-- The rules of an ignore file: one for all its lines, if any compiles. Where vendored files are
kept there is none. -/
def ignoreFileRules (options : Options) (folder : String) (text : List Char) : Journal × RuleSet :=
  let source := sourceIn folder ignoreFileName
  let (journal, matchers) := globsOf source ((linesOf text).filter isIgnoreLine)
  if matchers.isEmpty || options.keepVendored then (journal, {})
  else (journal ++ [.ignoreFileLoaded source matchers.length],
    { ignores := [⟨⟨.join matchers, folder⟩, .ignoreFile⟩] })

def attributesFileName : String := ".gitattributes"

/-- A line of an attributes file. -/
structure AttributeLine where
  pattern : String
  attributes : List String
  deriving DecidableEq, Repr

/-- The words of a line: a pattern, without the quotes around it, and at least one attribute. -/
def AttributeLine.ofText? (line : String) : Option AttributeLine :=
  match Text.words line.toList with
  | [] | [_] => none
  | ('#' :: _) :: _ => none
  | pattern :: attributes =>
    some ⟨String.ofList (Text.dropWhileEnd (· == '"') (pattern.dropWhile (· == '"'))),
      Text.ofPieces attributes⟩

/-- What an attribute says of the content of a file. -/
inductive ContentKind where
  | text
  | binary
  deriving DecidableEq, Repr

/-- What an attribute says of the kind of content. -/
def contentKind? (word : String) : Option ContentKind :=
  if word = "text" ∨ word = "-binary" then some .text
  else if word = "-text" ∨ word = "binary" then some .binary
  else if Text.startsWith "text=" word then some .text
  else none

def excludingAttributes : List String :=
  ["linguist-vendored", "linguist-generated", "linguist-documentation"]

/-- Whether an attribute excludes files: it is one of those that do, and is not set to false. -/
def isExclusion (word : String) : Bool :=
  let (name, value) := Text.cutAt '=' word.toList
  excludingAttributes.contains (String.ofList name) && Text.lowerChars value != "false".toList

def languageIn? (word : String) : Option String :=
  match after? "linguist-language=".toList word.toList with
  | some (c :: rest) => some (String.ofList (c :: rest))
  | _ => none

namespace AttributeLine

/-- The first attribute that decides the kind of content. -/
def kind? (line : AttributeLine) : Option ContentKind := line.attributes.findSome? contentKind?

def excludes (line : AttributeLine) : Bool := line.attributes.any isExclusion

def language? (line : AttributeLine) : Option String := line.attributes.findSome? languageIn?

def rules (catalog : Catalog) (options : Options) (line : AttributeLine) (rule : PathRule) :
    RuleSet where
  text := if line.kind? = some .text then [rule] else []
  binary := if line.kind? = some .binary then [rule] else []
  ignores := if line.excludes && !options.keepVendored then [⟨rule, .attributesFile⟩] else []
  overrides := match line.language? with
    | some name => [⟨rule, catalog.resolveAlias name⟩]
    | none => []

end AttributeLine

def attributeRules (catalog : Catalog) (options : Options) (folder : String) :
    List AttributeLine → Journal × RuleSet
  | [] => ([], {})
  | line :: rest =>
    let (journal, rules) := attributeRules catalog options folder rest
    match compilePattern .glob (sourceIn folder attributesFileName) line.pattern with
    | .ok matcher => (journal, line.rules catalog options ⟨matcher, folder⟩ ++ rules)
    | .error error => (.ignoreSkipped error :: journal, rules)

def attributesFileRules (catalog : Catalog) (options : Options) (folder : String)
    (text : List Char) : Journal × RuleSet :=
  attributeRules catalog options folder ((linesOf text).filterMap AttributeLine.ofText?)

end Polyglot
