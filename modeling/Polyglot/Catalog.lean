import Polyglot.Language
import Polyglot.Text.LetterCase

namespace Polyglot

open Polyglot.Data (Scalar)

/-- Names of languages under keys in lower case. -/
abbrev Index := List (String × List String)

namespace Index

def get (index : Index) (key : String) : List String :=
  match index with
  | [] => []
  | (k, names) :: rest => if k = key then names else get rest key

def add (key name : String) : Index → Index
  | [] => [(key, [name])]
  | (k, names) :: rest =>
    if k = key then (k, if name ∈ names then names else names ++ [name]) :: rest
    else (k, names) :: add key name rest

def addLanguage (keys : Language → List String) (index : Index) (language : Language) : Index :=
  (keys language).foldl (fun index key => index.add (Text.lower key) language.name) index

def ofLanguages (keys : Language → List String) (languages : List Language) : Index :=
  languages.foldl (addLanguage keys) []

theorem get_add (index : Index) (key name other : String) :
    (index.add key name).get other =
      if other = key then
        if name ∈ index.get key then index.get key else index.get key ++ [name]
      else index.get other := by
  induction index with
  | nil => grind [add, get]
  | cons entry rest ih =>
    obtain ⟨k, names⟩ := entry
    by_cases hk : k = key <;> by_cases ho : other = key <;> grind [add, get]

end Index

/-- The languages with all that tells them apart; the indexes are those of its languages. -/
structure Catalog where
  languages : List Language
  vendor : List String := []
  generated : List String := []
  disambiguations : List Disambiguation := []
  source : String
  filenameIndex : Index
  extensionIndex : Index
  names_nodup : (languages.map Language.name).Nodup
  filenameIndex_eq : filenameIndex = Index.ofLanguages Language.filenames languages
  extensionIndex_eq : extensionIndex = Index.ofLanguages Language.extensions languages

namespace Catalog

def ofLanguages (languages : List Language) (nodup : (languages.map Language.name).Nodup)
    (source : String) (vendor : List String := []) (generated : List String := [])
    (disambiguations : List Disambiguation := []) : Catalog where
  languages
  vendor
  generated
  disambiguations
  source
  filenameIndex := Index.ofLanguages Language.filenames languages
  extensionIndex := Index.ofLanguages Language.extensions languages
  names_nodup := nodup
  filenameIndex_eq := rfl
  extensionIndex_eq := rfl

def get? (catalog : Catalog) (name : String) : Option Language :=
  catalog.languages.find? (·.name == name)

def contains (catalog : Catalog) (name : String) : Bool := (catalog.get? name).isSome

/-- The language of a label; a label that is no text names none. -/
def ofLabel? (catalog : Catalog) : Label → Option Language
  | .text name => catalog.get? name
  | _ => none

def parentOf (catalog : Catalog) (name : String) : Label :=
  ((catalog.get? name).map Language.group).getD .null

/-- What a language counts as. A stranger counts as itself. -/
def coarsen (catalog : Catalog) (name : String) : Label :=
  ((catalog.get? name).map Language.coarse).getD (.text name)

/-- The name of the language that goes by a name or, in any case, an alias. A stranger keeps the
name. -/
def resolveAlias (catalog : Catalog) (name : String) : String :=
  if catalog.contains name then name
  else
    let lowered := Text.lower name
    let byAlias := catalog.languages.find? fun language =>
      language.aliases.any fun other => Text.lower other == lowered
    (byAlias.map Language.name).getD name

def interpreterIndex (catalog : Catalog) : List (String × List String) :=
  (catalog.languages.filter fun language => !language.interpreters.isEmpty).map
    fun language => (language.name, language.interpreters)

/-- The catalog without some languages, whose names are compared in lower case. -/
def without (catalog : Catalog) (names : List String) : Catalog :=
  if names.isEmpty then catalog
  else
    let dropped := names.map Text.lower
    ofLanguages (catalog.languages.filter fun language => !dropped.contains (Text.lower language.name))
      (catalog.names_nodup.sublist (List.filter_sublist.map _)) catalog.source catalog.vendor
      catalog.generated catalog.disambiguations

end Catalog

end Polyglot
