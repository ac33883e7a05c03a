import Polyglot.CommandLine.Usage
import Polyglot.Text.Likeness

namespace Polyglot.CommandLine

/-- An option: the names that switch it on or go before its value, and those that switch it off. -/
structure Switch where
  names : List String
  offNames : List String := []
  takesValue : Bool := false
  deriving DecidableEq, Repr

def Switch.place (switch : Switch) : String :=
  " / ".intercalate (switch.names.map fun name => "'" ++ name ++ "'")

/-- How a switch was set on the command line. -/
inductive Setting where
  | on
  | off
  | value (text : String)
  deriving DecidableEq, Repr

/-- The settings of the options in order, and the other arguments. -/
structure Arguments where
  settings : List (Switch × Setting) := []
  rest : List String := []
  deriving DecidableEq, Repr

namespace Arguments

def find? (switches : List Switch) (name : String) : Option (Switch × Setting) :=
  switches.findSome? fun switch =>
    if switch.names.contains name then some (switch, .on)
    else if switch.offNames.contains name then some (switch, .off)
    else none

/-- What one argument sets, and the option that waits for the next argument as its value, with the
name by which it was called. -/
structure Reading where
  settings : List (Switch × Setting) := []
  waiting : Option (Switch × String) := none

def longNames (switches : List Switch) : List String :=
  (switches.flatMap fun switch => switch.names ++ switch.offNames).filter (·.startsWith "--")

private def readLong (switches : List Switch) (arg : List Char) : Except UsageError Reading :=
  let name := String.ofList (arg.takeWhile (· != '='))
  let value := (arg.dropWhile (· != '=')).tail
  let attached := arg.contains '='
  match find? switches name with
  | none => .error (.unknownOption name (Text.closest name (longNames switches)))
  | some (switch, setting) =>
    if switch.takesValue then
      if attached then .ok { settings := [(switch, .value (String.ofList value))] }
      else .ok { waiting := some (switch, name) }
    else if attached then .error (.needlessValue name)
    else .ok { settings := [(switch, setting)] }

private def readLetters (switches : List Switch) : List Char → Except UsageError Reading
  | [] => .ok {}
  | letter :: rest =>
    let name := String.ofList ['-', letter]
    match find? switches name with
    | none => .error (.unknownOption name [])
    | some (switch, setting) =>
      if switch.takesValue then
        if rest.isEmpty then .ok { waiting := some (switch, name) }
        else .ok { settings := [(switch, .value (String.ofList rest))] }
      else do
        let more ← readLetters switches rest
        .ok { more with settings := (switch, setting) :: more.settings }

/-- Takes arguments apart. Where options may not follow other arguments, the first of these ends
them. -/
def read (switches : List Switch) (mixed : Bool) : List String → Except UsageError Arguments
  | [] => .ok {}
  | arg :: rest =>
    match arg.toList with
    | ['-', '-'] => .ok { rest }
    | '-' :: c :: chars => do
      let reading ← if c = '-' then readLong switches ('-' :: c :: chars)
        else readLetters switches (c :: chars)
      match reading.waiting with
      | none => do
        let more ← read switches mixed rest
        .ok { more with settings := reading.settings ++ more.settings }
      | some (switch, name) =>
        match rest with
        | [] => .error (.noArgument name)
        | value :: rest => do
          let more ← read switches mixed rest
          .ok { more with settings := reading.settings ++ (switch, .value value) :: more.settings }
    | _ =>
      if mixed then do
        let more ← read switches mixed rest
        .ok { more with rest := arg :: more.rest }
      else .ok { rest := arg :: rest }

def isOn (arguments : Arguments) (switch : Switch) (default : Bool := false) : Bool :=
  match arguments.settings.reverse.find? (·.1 == switch) with
  | some (_, setting) => setting != .off
  | none => default

def values (arguments : Arguments) (switch : Switch) : List String :=
  arguments.settings.filterMap fun (other, setting) => match setting with
    | .value text => if other = switch then some text else none
    | _ => none

def value? (arguments : Arguments) (switch : Switch) : Option String :=
  (arguments.values switch).getLast?

end Arguments

end Polyglot.CommandLine
