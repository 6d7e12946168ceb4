/-
  HostInfo.lean --- the machine a server runs on.

  Only the name, the processor cores and the memory size are used.  The number
  of cores is zero where it is not to be asked for, or cannot be read.
-/
import LoadWatch.Json.Record
import LoadWatch.Sampling

set_option autoImplicit false

namespace LoadWatch

open Json

/-- The machine a server runs on. -/
structure HostInfo where
  hostname : String := ""
  cores : Int := 0
  /-- Megabytes of memory. -/
  memorySize : Int := 0

namespace HostInfo

/-- The declared members of the description of the machine. -/
def systemSchema : Schema HostInfo where
  name := "HostInfoSystem"
  initial := {}
  fields := [
    .of "hostname" decodeText fun text info => { info with hostname := text },
    .of "numCores" decodeCounter fun n info => { info with cores := n },
    .of "memSizeMB" decodeCounter fun n info => { info with memorySize := n }]

/-- The declared members of the reply. -/
def replySchema : Schema HostInfo where
  name := "HostInfo"
  initial := {}
  fields := [.of "system" systemSchema.decode fun system _ => system]

/-- The machine that a reply describes. -/
def ofReply (reply : Value) : Except Failure HostInfo :=
  match replySchema.decode reply with
  | .ok info => .ok info
  | .error mismatch =>
    .error { context := ["Unable to parse hostInfo reply"], cause := .mismatch mismatch }

/-- A number of cores, and the number of commands it took to learn it. -/
structure CoreCount where
  cores : Int
  commands : Nat

/-- The number of cores that an answer tells. The context of a failure leaves the server out, like
those of the reports. -/
def coresOfAnswer (answer : Answer Value) : Int :=
  match (Sampling.attempt "command hostInfo failed" Reply.parse .ok answer).outcome with
  | .ok reply =>
    match ofReply reply with
    | .ok info => info.cores
    | .error _ => 0
  | .error _ => 0

/-- The number of cores of a server, which is only asked if the cores matter. -/
def coreCount (ignoreCores : Bool) (answer : Answer Value) : CoreCount :=
  if ignoreCores then ⟨0, 0⟩ else ⟨coresOfAnswer answer, 1⟩

end HostInfo

end LoadWatch
