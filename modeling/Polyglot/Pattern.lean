import Polyglot.Glob
import Polyglot.Regex.Reader
import Polyglot.Text.Quoted

namespace Polyglot

/-- The notation of a pattern. -/
inductive PatternDialect where
  | glob
  | regex
  deriving DecidableEq, Repr

/-- A compiled pattern, with the text it was compiled from. -/
inductive Matcher where
  | glob (pattern : String) (rules : List Glob.Rule)
  | regex (pattern : String) (finder : Regex.Finder)

namespace Matcher

def pattern : Matcher → String
  | .glob pattern _ => pattern
  | .regex pattern _ => pattern

def globRules : Matcher → List Glob.Rule
  | .glob _ rules => rules
  | .regex _ _ => []

/-- The matcher of several globs, in which a negated one takes back what those before it match. -/
def join (matchers : List Matcher) : Matcher :=
  .glob ("\n".intercalate (matchers.map pattern)) (matchers.flatMap globRules)

def test : Matcher → String → Bool
  | .glob _ rules, path => Glob.takes rules path
  | .regex _ finder, text => finder.found text

end Matcher

/-- Why a pattern does not compile. -/
inductive PatternFault where
  | emptyGlob
  | dialect (error : Regex.DialectError)
  | engine (error : Regex.ReadError)
  | glob (line : String) (error : Glob.GlobError)
  deriving DecidableEq, Repr

def PatternFault.message : PatternFault → String
  | .emptyGlob => "empty glob"
  | .dialect error => error.message
  | .engine .twoAlphabets => "ASCII and UNICODE flags are incompatible"
  | .engine (.repetitionTooLong digits) => Text.tooLongMessage (some digits)
  | .engine _ => "re.error"
  | .glob line .invalid => "Invalid git pattern: " ++ Text.quoted line
  | .glob _ .badRange => "re.error"

/-- A pattern that does not compile, and where it stands. -/
structure PatternError where
  source : String
  pattern : String
  fault : PatternFault
  deriving DecidableEq, Repr

/-- Whether the error ends the run, where others leave only the pattern out: a repetition or the depth
of groups is out of bounds. -/
def PatternError.fatal (e : PatternError) : Bool :=
  e.fault == .engine .repetitionTooLarge || e.fault == .engine .tooDeep

def PatternError.message (e : PatternError) : String :=
  "Invalid pattern " ++ Text.quoted e.pattern ++ " from " ++ e.source ++ ": " ++ e.fault.message

/-- The matcher of several lines of globs. A negated line takes back what lines before it match. -/
def Matcher.ofLines (lines : List String) : Except PatternFault Matcher := do
  let rules ← (lines.filter (· != "")).mapM fun line =>
    (Glob.rule? line.toList).mapError (PatternFault.glob line)
  .ok (.glob ("\n".intercalate lines) (rules.filterMap id))

def compileRegex (pattern : String) : Except PatternFault Matcher := do
  let (converted, flags) ← (Regex.convert pattern.toList).mapError .dialect
  let finder ← (Regex.read converted flags).mapError .engine
  .ok (.regex pattern finder)

def compileGlob (pattern : String) : Except PatternFault Matcher :=
  if (Text.trim pattern.toList).isEmpty then .error .emptyGlob else Matcher.ofLines [pattern]

/-- Compiles a pattern; an error names the source. -/
def compilePattern (dialect : PatternDialect) (source pattern : String) : Except PatternError Matcher :=
  let compiled := match dialect with
    | .glob => compileGlob pattern
    | .regex => compileRegex pattern
  compiled.mapError fun fault => ⟨source, pattern, fault⟩

end Polyglot
