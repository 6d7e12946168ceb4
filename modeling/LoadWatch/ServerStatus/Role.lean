/-
  ServerStatus/Role.lean --- what a server is, and what it reports.

  The storage engine, the role in a cluster, and the sections that are there
  decide which columns of the stat line suit a server.
-/
import LoadWatch.ServerStatus.Basic
import LoadWatch.ServerStatus.Process

set_option autoImplicit false

namespace LoadWatch.ServerStatus

open Json

/-- A flag is set when it is true, a number other than zero, a text that is not empty, or any
array or object. -/
def isSet : Option Value → Bool
  | some (.bool b) => b
  | some (.number n) => !n.isZero
  | some (.string text) => text ≠ ""
  | some (.array _) => true
  | some (.object _) => true
  | some .null => false
  | none => false

namespace Status

/-- The storage engine; servers that name none have the oldest one. -/
def engineName (status : Status) : String :=
  match status.storageEngine with
  | some engine => if engine.name = "" then "mmapv1" else engine.name
  | none => "mmapv1"

/-- The server is a router of a sharded cluster. -/
def isRouter (status : Status) : Bool :=
  status.shardCursorType.isSome || isRouterProcess status.process

/-- The server is a member of a replica set. -/
def isReplicaSetMember (status : Status) : Bool :=
  match status.replication with
  | some replication =>
    (match replication.isReplicaSet with
      | some (.bool true) => true
      | _ => false) || replication.setName ≠ ""
  | none => false

/-- The server maps its data files into memory. -/
def isMapped (status : Status) : Bool := status.engineName = "mmapv1"

/-- The server has a cache of its own. -/
def isCached (status : Status) : Bool := status.engineName = "wiredTiger"

/-- The lock statistics of the entry with the given name. -/
def lock? (status : Status) (name : String) : Option LockUsage.Statistics :=
  status.locks.bind fun locks => locks.get? name

/-- The role in a replica set, empty outside of one. -/
def replicationRole (status : Status) : String :=
  match status.replication with
  | none => if status.isRouter then "RTR" else ""
  | some replication =>
    if isSet replication.isMaster then "PRI"
    else if isSet replication.secondary then "SEC"
    else if isSet replication.isReplicaSet then "REC"
    else if isSet replication.arbiterOnly then "ARB"
    else if replication.passives.contains replication.me then "PSV"
    else if !status.isReplicaSetMember then "UNK"
    else "SLV"

end Status

end LoadWatch.ServerStatus
