import Polyglot.Http
import Polyglot.Journal
import Polyglot.Json.Reader
import Polyglot.Samples
import Polyglot.Text.StandIn

namespace Polyglot

open Polyglot.Data (Value Entries)

/-- A public repository of samples, and how it is reached. -/
structure Repository (ν : Type) where
  client : Http.Client ν
  ref : String
  token : Option String := none

/-- What is remembered between two questions. -/
structure Repository.Memory (ν : Type) where
  network : ν
  tree : Option (List String) := none
  known : List (Label × Option String) := []
  journal : Journal := []

namespace Repository

def samplesFolder : String := "samples/"

def field (entries : Entries) (key : String) : Value := (Entries.get? entries key).getD .null

def isFile (entries : Entries) : Bool :=
  match field entries "type" with
  | .text kind => kind == "blob"
  | _ => false

def samplePath? : Value → Except SampleFault (Option String)
  | .map entries =>
    if isFile entries then
      match Entries.get? entries "path" with
      | none => .ok none
      | some (.text path) => .ok (if Text.startsWith samplesFolder path then some path else none)
      | some value => .error (.lacking value.kind "startswith")
    else .ok none
  | value => .error (.lacking value.kind "get")

/-- The entries of a listing. A map or a text in their place has only what has no entries itself. -/
def listed : Value → Except SampleFault (List Value)
  | .list items => .ok items
  | .map entries => .ok (entries.map fun entry => .scalar entry.1)
  | .text s => .ok (s.toList.map fun c => .text (String.singleton c))
  | value => .error (.partless value.kind)

def samplePaths (listing : Value) : Except SampleFault (List String) :=
  match listing with
  | .map entries => do
    let items ← match Entries.get? entries "tree" with
      | none => Except.ok []
      | some tree => listed tree
    let paths ← items.mapM samplePath?
    .ok ((paths.filterMap id).mergeSort fun a b => Text.inOrder (Text.codesOf a) (Text.codesOf b))
  | _ => .error (.lacking listing.kind "get")

def readListing (text : String) : Except SampleFault Value :=
  (Json.readBytes text.toUTF8).mapError fun
    | .notText => .notText
    | .malformed => .notJson
    | .tooDeep => .tooDeep
    | .tooManyDigits digits => .tooManyDigits digits

/-- The sample among paths in order: the first one in the folder of a language. -/
def sampleAmong (paths : List String) (language : Label) : Option String :=
  paths.find? (Text.startsWith (samplesFolder ++ language.name ++ "/"))

variable {ν : Type}

/-- Work that a fault cuts short; what is remembered by then stays. -/
abbrev Asking (ν : Type) := ExceptT SampleFault (StateM (Memory ν))

def report (event : Event) : Asking ν Unit :=
  modify fun memory => { memory with journal := memory.journal ++ [event] }

/-- A question to a server: the address, by which it goes in reports, and what is sent with it. -/
structure Question where
  address : String
  query : Option String := none
  authorization : Option String := none
  deriving DecidableEq, Repr

def ask (repository : Repository ν) (question : Question) :
    Asking ν (Except Http.Failure Http.Response) :=
  modifyGet fun memory =>
    let (answer, network) := (repository.client.getAt question.address question.query
      question.authorization).run memory.network
    (answer, { memory with network })

def attemptLimit : Nat := 3

/-- Puts a question and gives the text of the answer, or a fault after which it is worth to ask
again. -/
def attempt (repository : Repository ν) (question : Question) (number : Nat) :
    Asking ν (Except SampleFault String) := do
  match ← repository.ask question with
  | .ok response =>
    if response.isSuccess then return .ok response.text
    else if response.status < 500 then throw (.status response.status)
    else
      report (.serverError question.address response.status number attemptLimit)
      return .error (.status response.status)
  | .error .timeout =>
    report (.serverTimeout question.address number attemptLimit)
    return .error .timeout
  | .error .offline => throw .offline
  | .error .tooManyRedirects => throw .tooManyRedirects
  | .error (.invalidLocation _) => throw .invalidLocation
  | .error (.invalidAddress fault) => throw (.misaddressed fault)
  | .error .notAscii => throw .notEncodable
  | .error (.invalidLabel fault) => throw (.invalidLabel fault)

def fetchWithin (repository : Repository ν) (question : Question) :
    (retries : Nat) → Asking ν String
  | 0 => do
    match ← repository.attempt question attemptLimit with
    | .ok text => return text
    | .error fault => throw fault
  | retries + 1 => do
    match ← repository.attempt question (attemptLimit - (retries + 1)) with
    | .ok text => return text
    | .error _ => repository.fetchWithin question retries

def fetch (repository : Repository ν) (question : Question) : Asking ν String :=
  repository.fetchWithin question (attemptLimit - 1)

def treeUrl (repository : Repository ν) : String :=
  "https://api.github.com/repos/github-linguist/linguist/git/trees/" ++ repository.ref

def treeQuestion (repository : Repository ν) : Question where
  address := repository.treeUrl
  query := some "recursive=1"
  authorization := repository.token.map ("token " ++ ·)

def sampleUrl (repository : Repository ν) (path : String) : String :=
  "https://raw.githubusercontent.com/github-linguist/linguist/" ++ repository.ref ++ "/" ++
    Http.escapedPath path

/-- The paths of all samples. They are listed at the first question that gets a listing. -/
def paths (repository : Repository ν) : Asking ν (List String) := do
  match (← get).tree with
  | some paths => return paths
  | none =>
    let text ← repository.fetch repository.treeQuestion
    let paths ← (readListing text).bind samplePaths
    modify fun memory => { memory with tree := some paths }
    report (.sampleTreeLoaded repository.ref paths.length)
    return paths

def remember (language : Label) (sample : Option String) : Asking ν (Option String) := do
  modify fun memory => { memory with known := (language, sample) :: memory.known }
  return sample

def sample (repository : Repository ν) (language : Label) : Asking ν (Option String) := do
  match (← get).known.find? fun entry => entry.1.same language with
  | some (_, sample) => return sample
  | none =>
    match sampleAmong (← repository.paths) language with
    | none => remember language none
    | some path =>
      if path.toList.any Text.isStandIn then throw .notEncodable
      let text ← repository.fetch { address := repository.sampleUrl path }
      let _ ← remember language (some text)
      report (.sampleFetched language path)
      return some text

end Repository

def SampleSource.ofRepository {ν : Type} (repository : Repository ν) :
    SampleSource (Repository.Memory ν) := fun language => (repository.sample language).run

end Polyglot
