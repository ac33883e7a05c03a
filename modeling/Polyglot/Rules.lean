import Polyglot.Pattern

namespace Polyglot

open Polyglot.Text (after?)

/-- Where an ignore rule comes from. -/
inductive RuleOrigin where
  | builtinVendor
  | builtinGenerated
  | ignoreFile
  | attributesFile
  | supplied
  deriving DecidableEq, Repr

def RuleOrigin.name : RuleOrigin → String
  | .builtinVendor => "builtin-vendor"
  | .builtinGenerated => "builtin-generated"
  | .ignoreFile => "user-gitignore"
  | .attributesFile => "user-gitattributes"
  | .supplied => "user-supplied"

/-- A path as its folder sees it; nothing for the folder itself and for what is outside. -/
def scoped? (folder path : String) : Option String :=
  if folder = "" then some path
  else
    let front := Text.dropWhileEnd (· == '/') folder.toList ++ ['/']
    match after? front path.toList with
    | some (c :: rest) => some (String.ofList (c :: rest))
    | _ => none

/-- A matcher for the paths below a folder. -/
structure PathRule where
  matcher : Matcher
  folder : String := ""

def PathRule.test (rule : PathRule) (path : String) : Bool :=
  (scoped? rule.folder path).any rule.matcher.test

/-- A rule that leaves out the files it matches. -/
structure IgnoreRule extends PathRule where
  origin : RuleOrigin

/-- A rule that names the language of the files it matches. -/
structure OverrideRule extends PathRule where
  language : String

/-- What has been collected from the options and the folders that were read so far. -/
structure RuleSet where
  ignores : List IgnoreRule := []
  text : List PathRule := []
  binary : List PathRule := []
  overrides : List OverrideRule := []

namespace RuleSet

def append (a b : RuleSet) : RuleSet :=
  ⟨a.ignores ++ b.ignores, a.text ++ b.text, a.binary ++ b.binary, a.overrides ++ b.overrides⟩

instance : Append RuleSet := ⟨append⟩

@[simp] theorem ignores_append (a b : RuleSet) : (a ++ b).ignores = a.ignores ++ b.ignores := rfl

@[simp] theorem text_append (a b : RuleSet) : (a ++ b).text = a.text ++ b.text := rfl

@[simp] theorem binary_append (a b : RuleSet) : (a ++ b).binary = a.binary ++ b.binary := rfl

@[simp] theorem overrides_append (a b : RuleSet) :
    (a ++ b).overrides = a.overrides ++ b.overrides := rfl

def ignoredBy? (rules : RuleSet) (path : String) : Option IgnoreRule :=
  rules.ignores.find? (·.test path)

def isText (rules : RuleSet) (path : String) : Bool := rules.text.any (·.test path)

def isBinary (rules : RuleSet) (path : String) : Bool := rules.binary.any (·.test path)

/-- The language of the first override for a path. -/
def override? (rules : RuleSet) (path : String) : Option String :=
  (rules.overrides.find? (·.test path)).map OverrideRule.language

end RuleSet

end Polyglot
