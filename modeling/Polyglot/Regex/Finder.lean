import Polyglot.Regex.Search

namespace Polyglot.Regex

/-- What is known of the first character of a match. -/
inductive Opening where
  /-- It is a certain one, so that every position may be tried at once. -/
  | literal
  | members (test : CharTest)
  | unknown

structure Finder where
  regex : Regex
  shortest : Nat
  opening : Opening

namespace Finder

/-- A search tries a position if its character may open a match. Where nothing is known of the
character, enough of them must follow. -/
def admits (finder : Finder) (text : Array Char) (pos : Nat) : Bool :=
  match finder.opening with
  | .literal => true
  | .members test => text[pos]?.any test.accepts
  | .unknown => pos ≤ text.size - (finder.shortest - 1)

def found (finder : Finder) (text : String) : Bool :=
  let text := text.toList.toArray
  finder.shortest ≤ text.size &&
    (finder.regex.searchFrom text (finder.admits text) 0 text.size).isSome

end Finder

end Polyglot.Regex
