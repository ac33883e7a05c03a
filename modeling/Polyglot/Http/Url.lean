import Polyglot.Http.Host
import Polyglot.Text.Numeral
import Polyglot.Text.Quoted

namespace Polyglot.Http

/-- An address in its parts. -/
structure Url where
  scheme : String
  userinfo : String := ""
  /-- A name or a number. An address in words stands here without its brackets. -/
  host : String
  port : Option Int := none
  path : String
  query : Option String := none
  fragment : Option String := none
  deriving DecidableEq, Repr

/-- Why a text is no address. -/
inductive UrlFault where
  | tooLong
  | partTooLong
  | control (c : Char) (position : Nat)
  | host (fault : HostFault)
  | port (text : String)
  /-- A path that does not start with a slash follows a host. -/
  | pathBehindHost
  /-- A path without a host starts with two slashes. -/
  | doubleSlash
  | leadingColon
  deriving DecidableEq, Repr

open Polyglot.Text (quoted)

def UrlFault.message : UrlFault → String
  | .tooLong => "URL too long"
  | .partTooLong => "URL component too long"
  | .control c position =>
    "Invalid non-printable ASCII character in URL, " ++ quoted (String.singleton c) ++
      " at position " ++ toString position ++ "."
  | .host (.notFourParts text) => "Invalid IPv4 address: " ++ quoted text
  | .host (.notBracketed text) => "Invalid IPv6 address: " ++ quoted text
  | .host (.notAName text) => "Invalid IDNA hostname: " ++ quoted text
  | .port text => "Invalid port: " ++ quoted text
  | .pathBehindHost => "For absolute URLs, path must be empty or begin with '/'"
  | .doubleSlash => "Relative URLs cannot have a path starting with '//'"
  | .leadingColon => "Relative URLs cannot have a path starting with ':'"

namespace Url

def authority (url : Url) : String :=
  (if url.userinfo = "" then "" else url.userinfo ++ "@") ++
    (if url.host.contains ':' then "[" ++ url.host ++ "]" else url.host) ++
    (url.port.elim "" fun port => ":" ++ toString port)

def text (url : Url) : String :=
  (if url.scheme = "" then "" else url.scheme ++ ":") ++
    (if url.authority = "" then "" else "//" ++ url.authority) ++ url.path ++
    (url.query.elim "" ("?" ++ ·)) ++ (url.fragment.elim "" ("#" ++ ·))

/-- The parts of an address as they are written. -/
structure Parts where
  scheme : String
  authority : String
  path : String
  query : Option String
  fragment : Option String
  deriving DecidableEq, Repr

def isSchemeChar (c : Char) : Bool := c.isAlphanum || c == '+' || c == '.' || c == '-'

/-- The scheme in front of the first colon, if it is one. It may be empty. -/
def cutScheme (chars : List Char) : List Char × List Char :=
  match chars.takeWhile isSchemeChar, chars.dropWhile isSchemeChar with
  | [], ':' :: rest => ([], rest)
  | first :: scheme, ':' :: rest => if first.isAlpha then (first :: scheme, rest) else ([], chars)
  | _, _ => ([], chars)

/-- What stands behind a mark, if the text starts with it, and ends before another. -/
def cutBehind (mark : Char) (ends : Char → Bool) (chars : List Char) :
    Option String × List Char :=
  match chars with
  | c :: rest =>
    if c = mark then
      (some (String.ofList (rest.takeWhile (!ends ·))), rest.dropWhile (!ends ·))
    else (none, chars)
  | [] => (none, [])

def Parts.ofText (text : String) : Parts :=
  let (scheme, rest) := cutScheme text.toList
  let inAuthority (c : Char) : Bool := c != '/' && c != '?' && c != '#'
  let (authority, rest) := match rest with
    | '/' :: '/' :: rest => (rest.takeWhile inAuthority, rest.dropWhile inAuthority)
    | rest => ([], rest)
  let inPath (c : Char) : Bool := c != '?' && c != '#'
  let (query, behind) := cutBehind '?' (· == '#') (rest.dropWhile inPath)
  let (fragment, _) := cutBehind '#' (fun _ => false) behind
  { scheme := String.ofList scheme, authority := String.ofList authority
    path := String.ofList (rest.takeWhile inPath), query, fragment }

/-- The parts of an authority: what stands before the last at sign, the host, and what follows. -/
structure Authority where
  userinfo : String := ""
  host : String
  port : String := ""
  deriving DecidableEq, Repr

def Authority.ofText (text : String) : Authority :=
  let chars := text.toList
  let rest := (chars.reverse.takeWhile (· != '@')).reverse
  let userinfo := (chars.take (chars.length - rest.length)).dropLast
  let (host, behind) :=
    if rest.head? == some '[' && rest.contains ']' then
      let behind := (rest.reverse.takeWhile (· != ']')).reverse
      (rest.take (rest.length - behind.length), behind)
    else (rest.takeWhile (· != ':'), rest.dropWhile (· != ':'))
  let port := match behind with
    | ':' :: port => port
    | port => port
  ⟨String.ofList userinfo, String.ofList host, String.ofList port⟩

def impliedPort? (scheme : String) : Option Int :=
  match scheme with
  | "ftp" => some 21
  | "http" | "ws" => some 80
  | "https" | "wss" => some 443
  | _ => none

/-- The number of a port, if it says more than the scheme as it is written. -/
def portOf (scheme text : String) : Except UrlFault (Option Int) :=
  if text = "" then .ok none
  else match Text.readInt 10 text.toList with
    | .ok port => .ok (if impliedPort? scheme = some port then none else some port)
    | .error _ => .error (.port text)

private def dropDots : List String → List String → List String
  | done, [] => done.reverse
  | done, part :: rest =>
    if part = "." then dropDots done rest
    else if part = ".." then dropDots (if done = [] ∨ done = [""] then done else done.tail) rest
    else dropDots (part :: done) rest

/-- The path without dots as parts. Double dots lead back to the part before. -/
def withoutDots (path : String) : String :=
  "/".intercalate (dropDots [] (Text.ofPieces (Text.splitOn '/' path.toList)))

/-- What is wrong with a path behind a scheme or an authority, or behind none of them. -/
def pathFault? (path : String) (hasScheme hasAuthority : Bool) : Option UrlFault :=
  if hasAuthority then
    if path ≠ "" ∧ !path.startsWith "/" then some .pathBehindHost else none
  else if hasScheme then none
  else if path.startsWith "//" then some .doubleSlash
  else if path.startsWith ":" then some .leadingColon
  else none

/-- The address that parts make, with a host of its own or with the given one. -/
def ofParts (parts : Parts) (host : Option String := none) : Except UrlFault Url := do
  let authority := Authority.ofText parts.authority
  let scheme := parts.scheme.map Char.toLower
  let userinfo := escape inUserinfo authority.userinfo
  let host ← (Host.ofText (host.getD authority.host)).mapError .host
  let port ← portOf parts.scheme authority.port
  let hasScheme := scheme ≠ ""
  let hasAuthority := userinfo ≠ "" ∨ host ≠ "" ∨ port.isSome
  if let some fault := pathFault? parts.path hasScheme hasAuthority then throw fault
  return {
    scheme, userinfo, host, port
    path := escape inPath (if hasScheme ∨ hasAuthority then withoutDots parts.path else parts.path)
    query := parts.query.map (escape inQuery)
    fragment := parts.fragment.map (escape inFragment) }

def lengthLimit : Nat := 65536

def isControl (c : Char) : Bool := c.toNat < 0x20 || c.toNat == 0x7f

def control? (text : String) : Option (Char × Nat) :=
  (text.toList.find? isControl).map fun c => (c, text.toList.findIdx isControl)

def ofText (text : String) : Except UrlFault Url :=
  if lengthLimit < text.length then .error .tooLong
  else match control? text with
    | some (c, position) => .error (.control c position)
    | none => ofParts (.ofText text)

def parts (url : Url) : Parts := ⟨url.scheme, url.authority, url.path, url.query, url.fragment⟩

/-- The address of parts that are given one by one, each of them of limited length. -/
def ofCheckedParts (parts : Parts) (host : Option String := none) : Except UrlFault Url :=
  let texts := [parts.scheme, parts.authority, parts.path, parts.query.getD "",
    parts.fragment.getD "", host.getD ""]
  if texts.any fun text => lengthLimit < text.length then .error .partTooLong
  else match texts.findSome? control? with
    | some (c, position) => .error (.control c position)
    | none => ofParts parts host

def withHost (url : Url) (host : String) : Except UrlFault Url :=
  ofCheckedParts url.parts
    (some (if host.contains ':' ∧ !(host.startsWith "[" ∧ host.endsWith "]") then
      "[" ++ host ++ "]" else host))

def withQuery (url : Url) (query : String) : Except UrlFault Url :=
  ofCheckedParts { url.parts with query := some query }

def withFragment (url : Url) (fragment : String) : Except UrlFault Url :=
  ofCheckedParts { url.parts with fragment := some fragment }

/-- An address with a scheme and a host needs no other to be understood. -/
def isAbsolute (url : Url) : Bool := url.scheme ≠ "" ∧ url.host ≠ ""

def askedPort? (url : Url) : Option Int :=
  url.port <|> match url.scheme with
    | "http" => some 80
    | "https" => some 443
    | _ => none

def sameOrigin (a b : Url) : Bool :=
  a.scheme == b.scheme && a.host == b.host && a.askedPort? == b.askedPort?

/-- Whether an address is another one behind a secured connection. -/
def isSecured (url other : Url) : Bool :=
  url.host == other.host && other.scheme == "http" && other.askedPort? == some 80 &&
    url.scheme == "https" && url.askedPort? == some 443

end Url

end Polyglot.Http
