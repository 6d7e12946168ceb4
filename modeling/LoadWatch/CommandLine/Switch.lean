/-
  CommandLine/Switch.lean --- the switches of the command line.

  A flag is given or not.  A parameter has a value; the sleep time is the one
  parameter that has no switch and is given by its value alone.  The names of
  switches are exact.
-/
import LoadWatch.Mode

set_option autoImplicit false

namespace LoadWatch.CommandLine

/-- A switch without a value. -/
inductive Flag where
  | locks
  | operationMetrics
  | stat
  | sortLatency
  | json
  | ignoreCores
  | all
  | rawNumbers
  | writeDotenv
  deriving DecidableEq

/-- A setting with a value. -/
inductive Parameter where
  | hosts
  | ports
  | rowCount
  | listCount
  | fields
  | timeout
  /-- The setting that is given by its value alone. -/
  | sleepTime
  deriving DecidableEq

/-- What a name stands for. -/
inductive Switch where
  | flag (flag : Flag)
  | parameter (parameter : Parameter)
  | help
  | version
  deriving DecidableEq

/-- The long names, which are written after two hyphens. -/
def longNames : List (String × Switch) := [
  ("hosts", .parameter .hosts),
  ("ports", .parameter .ports),
  ("locks", .flag .locks),
  ("operation-metrics", .flag .operationMetrics),
  ("stat", .flag .stat),
  ("rowcount", .parameter .rowCount),
  ("listcount", .parameter .listCount),
  ("sortlatency", .flag .sortLatency),
  ("json", .flag .json),
  ("ignorecpu", .flag .ignoreCores),
  ("all", .flag .all),
  ("fields", .parameter .fields),
  ("raw-numbers", .flag .rawNumbers),
  ("timeout", .parameter .timeout),
  ("write-dotenv", .flag .writeDotenv),
  ("help", .help),
  ("version", .version)]

/-- The short names, which are written after one hyphen. -/
def shortNames : List (Char × Switch) := [
  ('H', .parameter .hosts),
  ('p', .parameter .ports),
  ('n', .parameter .rowCount),
  ('l', .parameter .listCount),
  ('s', .flag .sortLatency),
  ('h', .help),
  ('V', .version)]

/-- The switch with a long name. -/
def Switch.ofLong? (name : List Char) : Option Switch := longNames.lookup (String.ofList name)

/-- The switch with a short name. -/
def Switch.ofShort? (name : Char) : Option Switch := shortNames.lookup name

/-- The mode that a flag selects. -/
def Flag.mode? : Flag → Option Mode
  | .locks => some .locks
  | .operationMetrics => some .operationMetrics
  | .stat => some .stat
  | _ => none

end LoadWatch.CommandLine
