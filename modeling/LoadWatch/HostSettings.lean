/-
  HostSettings.lean --- which servers to poll.

  The hosts and the ports are each taken from a switch, else from a variable of
  the environment, else they have a default.  On request, the values that did
  not come from a default are written to a file of variables, from which the
  next run takes them without any switch.

  Main property: the file is written exactly if that is asked for and there is
  something to write (`wantsWriting_eq_true_iff`).
-/
import LoadWatch.Text.CommaList

set_option autoImplicit false

namespace LoadWatch.HostSettings

/-- A setting and where its value may come from. -/
structure Source where
  /-- The name of the variable. -/
  name : String
  default : String
  switch : Option String
  environment : Option String

namespace Source

/-- The value of the switch or of the environment. -/
def given? (source : Source) : Option String :=
  match source.switch with
  | some value => some value
  | none => source.environment

/-- The value, which may be the default. -/
def value (source : Source) : String := source.given?.getD source.default

/-- The items of the value. -/
def items (source : Source) : List String := Text.commaList source.value

/-- The variable with its value, unless that is the default. -/
def changed (source : Source) : List (String × String) :=
  match source.given? with
  | some value => [(source.name, value)]
  | none => []

end Source

/-- The sources of the hosts. -/
def hostsSource (switch environment : Option String) : Source :=
  ⟨"TOPSTAT_HOSTS", "localhost", switch, environment⟩

/-- The sources of the ports. -/
def portsSource (switch environment : Option String) : Source :=
  ⟨"TOPSTAT_PORTS", "28017", switch, environment⟩

/-- The variables that did not come from a default, in the order of their names. -/
def changedVariables (hosts ports : Source) : List (String × String) :=
  hosts.changed ++ ports.changed

/-! ## The file of variables -/

/-- What is found where the file of variables is kept. -/
inductive VariablesFile where
  | absent
  | present (content : String)
  /-- Something that cannot be opened for writing, with its content if it is a file. -/
  | unwritable (content : Option String)
  deriving DecidableEq

/-- A directory, which cannot be written to and has no content. -/
def VariablesFile.directory : VariablesFile := .unwritable none

/-- The line of a variable. -/
def variableLine (entry : String × String) : String := entry.1 ++ "=" ++ entry.2 ++ "\n"

/-- The content of a file with the given variables. -/
def variablesContent (settings : List (String × String)) : String :=
  String.join (settings.map variableLine)

/-- Why the file was not written. -/
inductive WriteFault where
  | cannotOpen
  deriving DecidableEq

/-- The wording of a fault. -/
def WriteFault.message : WriteFault → String
  | .cannotOpen => "Error writing .env file: .env"

/-- There is a request to write, and something to write. -/
def wantsWriting (requested : Bool) (settings : List (String × String)) : Bool :=
  requested && !settings.isEmpty

/-- Writes the variables, and gives the file as it is afterwards. -/
def writeVariables (requested : Bool) (settings : List (String × String))
    (file : VariablesFile) : Except WriteFault Unit × VariablesFile :=
  if wantsWriting requested settings then
    match file with
    | .unwritable content => (.error .cannotOpen, .unwritable content)
    | _ => (.ok (), .present (variablesContent settings))
  else (.ok (), file)

/-- Writing happens exactly on request, and if there is something to write. -/
theorem wantsWriting_eq_true_iff (requested : Bool) (settings : List (String × String)) :
    wantsWriting requested settings = true ↔ requested = true ∧ settings ≠ [] := by
  simp [wantsWriting]

end LoadWatch.HostSettings
