import Polyglot.Http.HostLabel
import Polyglot.Http.Url
import Polyglot.Language
import Polyglot.Text.Numeral

namespace Polyglot

open Polyglot.Data (Value)

/-- Why a source has no answer for a language. -/
inductive SampleFault where
  | status (code : Nat)
  | timeout
  | offline
  | tooManyRedirects
  /-- The server names a location that is no address. -/
  | invalidLocation
  | misaddressed (fault : Http.UrlFault)
  | unreadable
  /-- The label of the language is no name of a folder. -/
  | unnamed (label : Label)
  | notText
  /-- The listing of the server is not in the format. -/
  | notJson
  /-- The parts of the listing stand inside of others beyond all bounds. -/
  | tooDeep
  /-- A number in the listing has too many digits. -/
  | tooManyDigits (digits : Nat)
  /-- The listing, or something in it, is of a kind that has no such member. -/
  | lacking (kind member : String)
  | partless (kind : String)
  /-- What has to be sent has no form in bytes: a path as part of an address, or what a request or an
  answer says beside its text. -/
  | notEncodable
  /-- A redirect leads to a host whose letters break the rules for them. -/
  | invalidLabel (fault : Http.HostLabelFault)
  | other (message : String)
  deriving DecidableEq, Repr

namespace SampleFault

@[match_pattern] abbrev invalidAddress {fault : Http.UrlFault} : SampleFault := .misaddressed fault
@[match_pattern] abbrev notAName {label : Label} : SampleFault := .unnamed label
@[match_pattern] abbrev noEntries {kind member : String} : SampleFault := .lacking kind member
@[match_pattern] abbrev noParts {kind : String} : SampleFault := .partless kind

/-- What is said of a fault. Where a library would name the place in the data, there is only what is
wrong. -/
def message : SampleFault → String
  | .status code => toString code
  | .timeout => "timeout"
  | .offline => "offline"
  | .tooManyRedirects => "Exceeded maximum allowed redirects."
  | .invalidLocation => "Invalid URL in location header."
  | .misaddressed fault => fault.message
  | .unreadable => "Input/output error"
  | .unnamed (.date ..) => "unsupported operand type(s) for /: 'PosixPath' and 'datetime.date'"
  | .unnamed (.moment _) => "unsupported operand type(s) for /: 'PosixPath' and 'datetime.datetime'"
  | .unnamed label =>
    "unsupported operand type(s) for /: 'PosixPath' and '" ++ (Value.scalar label).kind ++ "'"
  | .notText => "invalid UTF-8"
  | .notJson => "invalid JSON"
  | .tooDeep => "maximum recursion depth exceeded"
  | .tooManyDigits digits => Text.tooLongMessage digits
  | .lacking kind member => "'" ++ kind ++ "' object has no attribute '" ++ member ++ "'"
  | .partless kind => "'" ++ kind ++ "' object is not iterable"
  | .notEncodable => "not encodable"
  | .invalidLabel _ => "invalid label"
  | .other message => message

/-- Whether a fault of the network or the file system is at work. A run goes on without the sample
then. -/
def recoverable : SampleFault → Bool
  | .status _ | .timeout | .offline | .tooManyRedirects | .invalidLocation | .unreadable => true
  | .invalidAddress | .notAName | .notText | .notJson | .tooDeep | .tooManyDigits _ | .noEntries
  | .noParts | .notEncodable | .invalidLabel _ | .other _ => false

end SampleFault

/-- A source of samples: it has a text for a language, or none, and may remember what it was asked. -/
abbrev SampleSource (σ : Type) := Label → StateM σ (Except SampleFault (Option String))

def SampleSource.ofTexts (texts : List (String × String)) : SampleSource PUnit := fun label =>
  pure (.ok (match label with
    | .text name => (texts.find? (·.1 == name)).map Prod.snd
    | _ => none))

end Polyglot
