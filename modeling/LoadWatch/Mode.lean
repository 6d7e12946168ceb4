/-
  Mode.lean --- what is reported on.
-/

set_option autoImplicit false

namespace LoadWatch

/-- The kind of report. -/
inductive Mode where
  /-- Time per namespace. -/
  | namespaces
  /-- Lock time per database. -/
  | locks
  /-- Document units and processor time per database. -/
  | operationMetrics
  /-- A line of counters of the whole server. -/
  | stat
  deriving DecidableEq

end LoadWatch
