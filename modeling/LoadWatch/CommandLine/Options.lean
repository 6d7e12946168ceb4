/-
  CommandLine/Options.lean --- what a command line asks for.

  Options collect the settings of a command line.  From them follow the mode,
  and how each server is polled.
-/
import LoadWatch.CommandLine.Switch
import LoadWatch.Poll.Run
import LoadWatch.Text.CommaList

set_option autoImplicit false

namespace LoadWatch.CommandLine

/-- The settings of a command line. -/
structure Options where
  hosts : Option String := none
  ports : Option String := none
  locks : Bool := false
  operationMetrics : Bool := false
  stat : Bool := false
  rowCount : Nat := 0
  listCount : Nat := 0
  sortLatency : Bool := false
  json : Bool := false
  ignoreCores : Bool := false
  all : Bool := false
  fields : Option String := none
  rawNumbers : Bool := false
  /-- Seconds that a command may take. -/
  timeout : Nat := 10
  writeDotenv : Bool := false
  /-- Seconds between samples. -/
  sleepTime : Nat := 1
  deriving DecidableEq

namespace Options

/-! ## Single settings -/

/-- The options with a flag given. -/
def setFlag (options : Options) : Flag → Options
  | .locks => { options with locks := true }
  | .operationMetrics => { options with operationMetrics := true }
  | .stat => { options with stat := true }
  | .sortLatency => { options with sortLatency := true }
  | .json => { options with json := true }
  | .ignoreCores => { options with ignoreCores := true }
  | .all => { options with all := true }
  | .rawNumbers => { options with rawNumbers := true }
  | .writeDotenv => { options with writeDotenv := true }

/-- A flag is given. -/
def hasFlag (options : Options) : Flag → Bool
  | .locks => options.locks
  | .operationMetrics => options.operationMetrics
  | .stat => options.stat
  | .sortLatency => options.sortLatency
  | .json => options.json
  | .ignoreCores => options.ignoreCores
  | .all => options.all
  | .rawNumbers => options.rawNumbers
  | .writeDotenv => options.writeDotenv

/-- A number of 64 bits in decimal digits, with an optional plus. -/
def readNumber? (text : String) : Option Nat :=
  let digits := match text.toList with
    | '+' :: rest => rest
    | all => all
  if digits.isEmpty || !digits.all Char.isDigit then none
  else
    let n := Nat.ofDigitChars 10 digits 0
    if n < wordCount then some n else none

/-- The options with a parameter set, none if its value is not a number where one is needed. -/
def assign? (options : Options) (parameter : Parameter) (value : String) : Option Options :=
  match parameter with
  | .hosts => some { options with hosts := some value }
  | .ports => some { options with ports := some value }
  | .fields => some { options with fields := some value }
  | .rowCount => (readNumber? value).map fun n => { options with rowCount := n }
  | .listCount => (readNumber? value).map fun n => { options with listCount := n }
  | .timeout => (readNumber? value).map fun n => { options with timeout := n }
  | .sleepTime => (readNumber? value).map fun n => { options with sleepTime := n }

/-! ## What follows from the options -/

/-- Two of the flags that select a mode are given. -/
def conflicting (options : Options) : Bool :=
  (options.locks && options.operationMetrics) || (options.locks && options.stat) ||
    (options.operationMetrics && options.stat)

/-- The mode that is asked for. -/
def mode (options : Options) : Mode :=
  if options.locks then .locks
  else if options.operationMetrics then .operationMetrics
  else if options.stat then .stat
  else .namespaces

/-- What the entries of a report are ordered by. -/
def sortMode (options : Options) : Ranking.SortMode :=
  if options.sortLatency then .latency else .total

/-- How the differences of a server are shown. The server is named where there are several. -/
def renderOptions (options : Options) (server : String) (multipleHosts : Bool) :
    RenderOptions where
  listCount := options.listCount
  sortMode := options.sortMode
  humanReadable := !options.rawNumbers
  all := options.all
  fields := options.fields.map Text.commaList
  multipleHosts := multipleHosts
  host := if multipleHosts then some server else none

/-- How a server is polled. -/
def pollSettings (options : Options) (server : String) (multipleHosts : Bool) :
    Poll.Settings where
  rowCount := options.rowCount
  sleepMillis := options.sleepTime * 1000
  json := options.json
  connection := "http://" ++ server
  render := options.renderOptions server multipleHosts

end Options

end LoadWatch.CommandLine
