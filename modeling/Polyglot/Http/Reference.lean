import Polyglot.Http.Url

namespace Polyglot.Http

/-- A reference in its parts. A part that is left out is empty. -/
structure Reference where
  scheme : String := ""
  authority : String := ""
  path : String := ""
  /-- What follows the last part of the path behind a semicolon. -/
  params : String := ""
  query : String := ""
  fragment : String := ""
  deriving DecidableEq, Repr

namespace Reference

def relativeSchemes : List String := [
  "", "ftp", "http", "gopher", "nntp", "imap", "wais", "file", "https", "shttp", "mms", "prospero",
  "rtsp", "rtspu", "sftp", "svn", "svn+ssh", "ws", "wss"]

def authoritySchemes : List String := relativeSchemes ++ [
  "telnet", "snews", "rsync", "nfs", "git", "git+ssh"]

def paramSchemes : List String := [
  "", "ftp", "hdl", "prospero", "http", "imap", "https", "shttp", "rtsp", "rtspu", "sip", "sips",
  "mms", "sftp", "tel"]

def cutParams (path : List Char) : List Char × List Char :=
  let last := (path.reverse.takeWhile (· != '/')).reverse
  if last.contains ';' then
    (path.take (path.length - last.length) ++ last.takeWhile (· != ';'),
      (last.dropWhile (· != ';')).tail)
  else (path, [])

/-- Takes a reference apart, which has the given scheme if it leaves its own out. -/
def ofText (scheme text : String) : Reference :=
  let parts := Url.Parts.ofText text
  let (path, params) :=
    if paramSchemes.contains (if parts.scheme = "" then scheme else parts.scheme) then
      cutParams parts.path.toList
    else (parts.path.toList, [])
  { scheme := if parts.scheme = "" then scheme else parts.scheme, authority := parts.authority
    path := String.ofList path, params := String.ofList params
    query := parts.query.getD "", fragment := parts.fragment.getD "" }

def text (reference : Reference) : String :=
  let path := if reference.params = "" then reference.path
    else reference.path ++ ";" ++ reference.params
  let hasAuthority := reference.authority ≠ "" ∨
    (reference.scheme ≠ "" ∧ authoritySchemes.contains reference.scheme ∧ !path.startsWith "//")
  let path := if hasAuthority then
      "//" ++ reference.authority ++ (if path = "" ∨ path.startsWith "/" then path else "/" ++ path)
    else path
  (if reference.scheme = "" then "" else reference.scheme ++ ":") ++ path ++
    (if reference.query = "" then "" else "?" ++ reference.query) ++
    (if reference.fragment = "" then "" else "#" ++ reference.fragment)

/-- The parts of a path without dots. Double dots lead back to the part before, if there is one. -/
def withoutDots : (done : List String) → List String → List String
  | done, [] => done.reverse
  | done, part :: rest =>
    if part = ".." then withoutDots done.tail rest
    else if part = "." then withoutDots done rest
    else withoutDots (part :: done) rest

def withoutGaps (parts : List String) : List String :=
  match parts with
  | [] => []
  | first :: rest => first :: rest.dropLast.filter (· != "") ++ rest.getLast?.toList

private def partsOf (path : String) : List String := Text.ofPieces (Text.splitOn '/' path.toList)

def pathAt (base path : String) : String :=
  let parts :=
    if path.startsWith "/" then partsOf path
    else
      let folder := partsOf base
      withoutGaps ((if folder.getLast? = some "" then folder else folder.dropLast) ++ partsOf path)
  let last := parts.getLast?.getD ""
  let resolved := withoutDots [] parts ++ if last = "." ∨ last = ".." then [""] else []
  let path := "/".intercalate resolved
  if path = "" then "/" else path

def resolve (base reference : String) : String :=
  if base = "" then reference
  else if reference = "" then base
  else
    let origin := ofText "" base
    let target := ofText origin.scheme reference
    if target.scheme ≠ origin.scheme ∨ !relativeSchemes.contains target.scheme then reference
    else if target.authority ≠ "" then target.text
    else
      let target := { target with authority := origin.authority }
      if target.path = "" ∧ target.params = "" then
        text { target with
          path := origin.path, params := origin.params
          query := if target.query = "" then origin.query else target.query }
      else text { target with path := pathAt origin.path target.path }

end Reference

def Url.join (base reference : Url) : Except UrlFault Url :=
  Url.ofText (Reference.resolve base.text reference.text)

end Polyglot.Http
