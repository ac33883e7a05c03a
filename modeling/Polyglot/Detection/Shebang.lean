import Polyglot.Catalog
import Polyglot.Text.Alphanumeric
import Polyglot.Text.Basic

namespace Polyglot.Detection

open Polyglot.Text (after? isWord)

/-- Between the characters around it, a word begins or ends. -/
def isBoundary (before after : Option Char) : Bool := before.any isWord != after.any isWord

/-- Whether a text starts with a word that has boundaries on both sides. -/
def startsWithWord (word : List Char) (before : Option Char) (chars : List Char) : Bool :=
  match after? word chars with
  | some rest =>
    isBoundary before chars.head? && isBoundary (word.getLast?.or before) rest.head?
  | none => false

def mentions (word : List Char) (before : Option Char) : List Char → Bool
  | [] => startsWithWord word before []
  | c :: rest => startsWithWord word before (c :: rest) || mentions word (some c) rest

/-- The first language with an interpreter that stands in a line that starts with `#!`. -/
def shebang? (catalog : Catalog) (line : String) : Option String :=
  if Text.startsWith "#!" line then
    (catalog.interpreterIndex.find? fun (_, interpreters) =>
      interpreters.any fun interpreter => mentions interpreter.toList none line.toList).map Prod.fst
  else none

end Polyglot.Detection
