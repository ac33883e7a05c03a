import Polyglot.Text.Quoted

namespace Polyglot.Yaml

open Polyglot.Text (quoted)

/-- What a node holds. -/
inductive Kind where
  | scalar
  | list
  | map
  deriving DecidableEq, Repr

def Kind.name : Kind → String
  | .scalar => "scalar"
  | .list => "sequence"
  | .map => "mapping"

/-- What is read or built where a rule is broken. -/
inductive Part where
  | directive
  | alias
  | anchor
  | tag
  | block
  | doubleQuoted
  | quoted
  | node
  | blockNode
  | flowNode
  | blockList
  | blockMap
  | flowList
  | flowMap
  | map
  | orderedMap
  | pairs
  deriving DecidableEq, Repr

def Part.name : Part → String
  | .directive => "a directive"
  | .alias => "an alias"
  | .anchor => "an anchor"
  | .tag => "a tag"
  | .block => "a block scalar"
  | .doubleQuoted => "a double-quoted scalar"
  | .quoted => "a quoted scalar"
  | .node => "a node"
  | .blockNode => "a block node"
  | .flowNode => "a flow node"
  | .blockList => "a block collection"
  | .blockMap => "a block mapping"
  | .flowList => "a flow sequence"
  | .flowMap => "a flow mapping"
  | .map => "a mapping"
  | .orderedMap => "an ordered map"
  | .pairs => "pairs"

/-- Which rule of the format a text breaks. -/
inductive Flaw where
  | unacceptable (c : Char)
  | nextToken
  /-- What must be a key has no colon behind it. -/
  | unfinishedKey
  | misplacedItem
  | misplacedKey
  | misplacedValue
  | scanning (part : Part)
  | parsing (part : Part)
  | building (part : Part)
  /-- Where a document must start, another token stands. -/
  | noStart (found : String)
  | secondVersion
  | otherVersion
  | secondHandle (name : String)
  | secondDocument
  | unknownAlias (name : String)
  | secondAnchor (name : String)
  | wrongKind (expected found : Kind)
  /-- Nothing is known of values with this tag. -/
  | unknownTag (name : String)
  /-- Bytes are written with characters that are not ASCII: so many, from a place on. -/
  | notAscii (first : Char) (place count : Nat)
  /-- Bytes are written with so many digits, which are no whole number of groups. -/
  | notBytes (digits : Nat)
  deriving DecidableEq, Repr

private def escapeText (c : Char) : String :=
  let code := c.toNat
  String.ofList ('\\' :: if code ≤ 0xff then 'x' :: Text.hexDigits 2 code
    else if code ≤ 0xffff then 'u' :: Text.hexDigits 4 code
    else 'U' :: Text.hexDigits 8 code)

def Flaw.message : Flaw → String
  | .unacceptable c => "unacceptable character #x" ++
      String.ofList (Text.hexDigits 4 c.toNat) ++ ": special characters are not allowed"
  | .nextToken => "while scanning for the next token"
  | .unfinishedKey => "while scanning a simple key"
  | .misplacedItem => "sequence entries are not allowed here"
  | .misplacedKey => "mapping keys are not allowed here"
  | .misplacedValue => "mapping values are not allowed here"
  | .scanning part => "while scanning " ++ part.name
  | .parsing part => "while parsing " ++ part.name
  | .building part => "while constructing " ++ part.name
  | .noStart found => "expected '<document start>', but found " ++ quoted found
  | .secondVersion => "found duplicate YAML directive"
  | .otherVersion => "found incompatible YAML document (version 1.* is required)"
  | .secondHandle name => "duplicate tag handle " ++ quoted name
  | .secondDocument => "expected a single document in the stream"
  | .unknownAlias name => "found undefined alias " ++ quoted name
  | .secondAnchor name => "found duplicate anchor " ++ quoted name ++ "; first occurrence"
  | .wrongKind expected found =>
    "expected a " ++ expected.name ++ " node, but found " ++ found.name
  | .unknownTag name => "could not determine a constructor for the tag " ++ quoted name
  | .notAscii first place count =>
    "failed to convert base64 data into ascii: 'ascii' codec can't encode character" ++
      (if count = 1 then " '" ++ escapeText first ++ "' in position " ++ toString place
        else "s in position " ++ toString place ++ "-" ++ toString (place + count - 1)) ++
      ": ordinal not in range(128)"
  | .notBytes digits =>
    "failed to decode base64 data: " ++
      (if digits % 4 = 1 then
        "Invalid base64-encoded string: number of data characters (" ++ toString digits ++
          ") cannot be 1 more than a multiple of 4"
      else "Incorrect padding")

end Polyglot.Yaml
