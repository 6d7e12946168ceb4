/-
  CommandLine/Parse.lean --- reading a command line.

  Arguments are read from left to right.  The value of a parameter is attached
  to its switch, or it is the next argument.  A value in an argument of its own
  is only looked at when the next switch, or the end, shows that it is complete;
  a name that is not known is refused before that.  After `--` all arguments are
  values.

  A switch that is given twice is refused where it is given again; switches that
  exclude each other are refused at the end.
-/
import LoadWatch.CommandLine.Options

set_option autoImplicit false

namespace LoadWatch.CommandLine

/-- Why a command line is refused, or not carried out. -/
inductive Refusal where
  /-- Switches that exclude each other, or a switch that is given twice. -/
  | conflict
  /-- A name that is not known, or a value too many. -/
  | unknown
  /-- A switch without its value. -/
  | missingValue
  /-- A value that is not a number in range. -/
  | badValue
  /-- A value for a flag. -/
  | needlessValue
  | helpWanted
  | versionWanted
  deriving DecidableEq

/-- A parameter whose switch was given, and its value as soon as it is known. -/
structure Pending where
  parameter : Parameter
  value : Option String

/-- What has been read. -/
structure Progress where
  options : Options := {}
  flags : List Flag := []
  parameters : List Parameter := []
  /-- The parameter that has not been looked at yet. -/
  pending : Option Pending := none
  /-- The sleep time was given. -/
  sleepTimeSeen : Bool := false
  /-- All further arguments are values. -/
  valuesOnly : Bool := false

namespace Progress

/-- Sets a parameter. -/
def assign (progress : Progress) (parameter : Parameter) (value : String) :
    Except Refusal Progress :=
  if progress.parameters.contains parameter then .error .conflict
  else
    match progress.options.assign? parameter value with
    | some options =>
      .ok { progress with options := options, parameters := parameter :: progress.parameters }
    | none => .error .badValue

/-- Looks at the pending parameter. -/
def settle (progress : Progress) : Except Refusal Progress :=
  match progress.pending with
  | none => .ok progress
  | some ⟨_, none⟩ => .error .missingValue
  | some ⟨parameter, some value⟩ => { progress with pending := none }.assign parameter value

/-- A flag is given. -/
def giveFlag (progress : Progress) (flag : Flag) : Except Refusal Progress :=
  match progress.settle with
  | .error refusal => .error refusal
  | .ok progress =>
    if progress.flags.contains flag then .error .conflict
    else
      .ok { progress with
        options := progress.options.setFlag flag
        flags := flag :: progress.flags }

/-- The switch of a parameter is given, with its value if that is attached. -/
def giveParameter (progress : Progress) (parameter : Parameter) (value : Option String) :
    Except Refusal Progress :=
  match progress.settle with
  | .error refusal => .error refusal
  | .ok progress =>
    match value with
    | some value => progress.assign parameter value
    | none => .ok { progress with pending := some ⟨parameter, none⟩ }

/-- Help or the version is asked for. -/
def giveRequest (progress : Progress) (request : Refusal) : Except Refusal Progress :=
  match progress.settle with
  | .error refusal => .error refusal
  | .ok _ => .error request

/-- A value that belongs to no switch: the sleep time, which is given once. -/
def giveValue (progress : Progress) (value : String) : Except Refusal Progress :=
  if progress.sleepTimeSeen then .error .unknown
  else
    match progress.settle with
    | .error refusal => .error refusal
    | .ok progress =>
      .ok { progress with pending := some ⟨.sleepTime, some value⟩, sleepTimeSeen := true }

/-! ## Arguments -/

/-- The text before the first equals sign, and the text after it if there is one. -/
def splitValue (text : List Char) : List Char × Option String :=
  match text.dropWhile (· ≠ '=') with
  | [] => (text, none)
  | _ :: value => (text.takeWhile (· ≠ '='), some (String.ofList value))

/-- An argument with a long name, after its hyphens. -/
def giveLong (progress : Progress) (text : List Char) : Except Refusal Progress :=
  let (name, value) := splitValue text
  match Switch.ofLong? name, value with
  | none, _ => .error .unknown
  | some (.parameter parameter), value => progress.giveParameter parameter value
  | some _, some _ => .error .needlessValue
  | some (.flag flag), none => progress.giveFlag flag
  | some .help, none => progress.giveRequest .helpWanted
  | some .version, none => progress.giveRequest .versionWanted

/-- The value attached to a short name; an equals sign before it is dropped. -/
def attachedValue? : List Char → Option String
  | [] => none
  | '=' :: value => some (String.ofList value)
  | value => some (String.ofList value)

/-- The short names of an argument, after its hyphen. What follows the name of a parameter is its
value. -/
def giveShorts : Progress → List Char → Except Refusal Progress
  | progress, [] => .ok progress
  | progress, name :: rest =>
    match Switch.ofShort? name with
    | none => .error .unknown
    | some (.parameter parameter) => progress.giveParameter parameter (attachedValue? rest)
    | some (.flag flag) =>
      match progress.giveFlag flag with
      | .ok progress => giveShorts progress rest
      | .error refusal => .error refusal
    | some .help => progress.giveRequest .helpWanted
    | some .version => progress.giveRequest .versionWanted

/-- An argument that is not a switch: the value that is waited for, or one of its own. -/
def givePlain (progress : Progress) (value : String) : Except Refusal Progress :=
  match progress.pending with
  | some ⟨parameter, none⟩ =>
    .ok { progress with pending := some ⟨parameter, some value⟩ }
  | _ => progress.giveValue value

/-- One argument. A single hyphen is a value. -/
def give (progress : Progress) (argument : String) : Except Refusal Progress :=
  if progress.valuesOnly then progress.giveValue argument
  else
    match argument.toList with
    | ['-', '-'] => .ok { progress with valuesOnly := true }
    | '-' :: '-' :: text => progress.giveLong text
    | '-' :: name :: rest => progress.giveShorts (name :: rest)
    | _ => progress.givePlain argument

/-- All arguments of a list. -/
def giveAll : Progress → List String → Except Refusal Progress
  | progress, [] => .ok progress
  | progress, argument :: rest =>
    match progress.give argument with
    | .ok next => giveAll next rest
    | .error refusal => .error refusal

end Progress

/-- The options that a command line asks for. -/
def parse (arguments : List String) : Except Refusal Options :=
  match Progress.giveAll {} arguments with
  | .error refusal => .error refusal
  | .ok progress =>
    match progress.settle with
    | .error refusal => .error refusal
    | .ok progress =>
      if progress.options.conflicting then .error .conflict else .ok progress.options

end LoadWatch.CommandLine
