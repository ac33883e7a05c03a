import Polyglot.Http.HostLabel
import Polyglot.Http.Reference
import Polyglot.Http.Status

namespace Polyglot.Http

/-- What the network gives for one request: an answer, or nothing in time, or no connection. -/
inductive Reply where
  | answer (status : Nat) (text : String) (location : Option String)
  | timeout
  | offline
  deriving DecidableEq, Repr

/-- A request for what stands at an address. -/
structure Request where
  url : Url
  authorization : Option String := none
  deriving DecidableEq, Repr

abbrev Network (ν : Type) := Request → StateM ν Reply

def Network.unreachable : Network PUnit := fun _ => pure .offline

/-- The answer to a request, after any redirects. -/
structure Response where
  url : Url
  status : Nat
  text : String
  deriving DecidableEq, Repr

def Response.isSuccess (response : Response) : Bool :=
  200 ≤ response.status && response.status < 300

def Response.refusal (response : Response) : String :=
  statusKind response.status ++ " '" ++ toString response.status ++ " " ++
    statusPhrase response.status ++ "' for url '" ++ response.url.text ++ "'"

/-- Why no response comes. -/
inductive Failure where
  | timeout
  | offline
  | tooManyRedirects
  /-- The server names a location that is no address. -/
  | invalidLocation (fault : UrlFault)
  /-- There is no address to ask: the one that was given, or the one that a redirect leads to, is
  none. -/
  | invalidAddress (fault : UrlFault)
  /-- A request or an answer would have to say something beside its text that is not ASCII. -/
  | notAscii
  /-- A redirect leads to a host whose letters break the rules for them. -/
  | invalidLabel (fault : HostLabelFault)
  deriving DecidableEq, Repr

def Failure.message : Failure → String
  | .timeout => "timeout"
  | .offline => "offline"
  | .tooManyRedirects => "Exceeded maximum allowed redirects."
  | .invalidLocation fault => "Invalid URL in location header: " ++ fault.message ++ "."
  | .invalidAddress fault => fault.message
  | .notAscii | .invalidLabel _ => ""

/-- What asks a network, and follows the redirects that it answers or not. -/
structure Client (ν : Type) where
  network : Network ν
  followsRedirects : Bool := true

def isRedirect (status : Nat) : Bool := [301, 302, 303, 307, 308].contains status

def isAscii (text : String) : Bool := text.toList.all (·.toNat < 0x80)

/-- The request for an address that a text gives, with a query of its own or the given one. -/
def Request.ofText (address : String) (query : Option String := none)
    (authorization : Option String := none) : Except Failure Request := do
  let url ← (Url.ofText address).mapError .invalidAddress
  if !authorization.all isAscii then throw .notAscii
  let url ← query.elim (.ok url) fun query => (url.withQuery query).mapError .invalidAddress
  return { url, authorization }

/-- The address that a location means at an address. A scheme alone goes with the same host, and a
fragment stays until another comes. -/
def Url.redirected (url : Url) (location : String) : Except Failure Url := do
  let target ← (Url.ofText location).mapError .invalidLocation
  let target ←
    if target.scheme ≠ "" ∧ target.host = "" then
      (target.withHost url.host).mapError .invalidAddress
    else pure target
  let target ←
    if target.isAbsolute then pure target else (url.join target).mapError .invalidAddress
  let fragment := unescape (url.fragment.getD "")
  if fragment ≠ "" ∧ target.fragment.getD "" = "" then
    (target.withFragment fragment).mapError .invalidAddress
  else pure target

/-- The request that a redirect asks for. Another server is not told who asks. -/
def Request.redirected (request : Request) (location : String) : Except Failure Request := do
  let url ← request.url.redirected location
  if let some fault := HostLabel.hostFault? url.host then throw (.invalidLabel fault)
  let trusted := url.sameOrigin request.url || url.isSecured request.url
  return { url, authorization := if trusted then request.authorization else none }

namespace Client

variable {ν : Type}

def redirectLimit : Nat := 20

/-- Asks, and asks on as long as redirects come and requests are left. What a redirect asks for is
worked out even where redirects are not followed. -/
def follow (client : Client ν) : (requests : Nat) → Request → StateM ν (Except Failure Response)
  | 0, _ => pure (.error .tooManyRedirects)
  | requests + 1, request => do
    match ← client.network request with
    | .timeout => pure (.error .timeout)
    | .offline => pure (.error .offline)
    | .answer status text (some location) =>
      if !isAscii location then pure (.error .notAscii)
      else if isRedirect status then
        match request.redirected location with
        | .error failure => pure (.error failure)
        | .ok next =>
          if client.followsRedirects then client.follow requests next
          else pure (.ok ⟨request.url, status, text⟩)
      else pure (.ok ⟨request.url, status, text⟩)
    | .answer status text none => pure (.ok ⟨request.url, status, text⟩)

def get (client : Client ν) (request : Request) : StateM ν (Except Failure Response) :=
  client.follow (redirectLimit + 1) request

/-- Asks at the address that a text gives. Without one, nobody is asked. -/
def getAt (client : Client ν) (address : String) (query : Option String := none)
    (authorization : Option String := none) : StateM ν (Except Failure Response) :=
  match Request.ofText address query authorization with
  | .error failure => pure (.error failure)
  | .ok request => client.get request

end Client

end Polyglot.Http
