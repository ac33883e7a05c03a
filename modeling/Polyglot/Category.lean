namespace Polyglot

/-- What kind of text a language is for. -/
inductive Category where
  | data
  | markup
  | programming
  | prose
  deriving DecidableEq, Repr

namespace Category

def all : List Category := [.data, .markup, .programming, .prose]

def name : Category → String
  | .data => "data"
  | .markup => "markup"
  | .programming => "programming"
  | .prose => "prose"

def ofName? (name : String) : Option Category := all.find? (·.name == name)

theorem ofName?_name (category : Category) : ofName? category.name = some category := by
  cases category <;> decide

end Category

end Polyglot
