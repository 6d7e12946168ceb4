/-
  Proofs/CellSafety.lean --- which divisions of a stat line can go wrong.

  WHAT THIS FILE IS FOR.  The cells of a stat line are full of quotients: of
  integers, which have none for a zero divisor and for one pair of operands that
  64 bits do not hold, and of floating point numbers, which would be shown as an
  infinity or as no number.  Only the averages can go wrong, as is known
  (`fails_cells`).  Here it is shown that all other quotients are guarded, for
  all operands of 64 bits (`Guarded`).

  A floating point quotient is finite as soon as its divisor keeps clear of
  zero, since the operands are made from integers (`Binary64.Below.div`).

  Main result: `cells_guarded`.
-/
import LoadWatch.Proofs.Binary64Range
import LoadWatch.Proofs.FailingCells

set_option autoImplicit false

namespace LoadWatch.ServerStatus

/-! ## Guarded quotients -/

section Guards

variable {value outOf : Int}

/-- Of the smallest integer only the quotient by minus one leaves 64 bits, and of any other integer
none does. -/
theorem fits_tdiv_iff (h : FitsInt64 value) :
    FitsInt64 (value.tdiv outOf) ↔ ¬(value = minInt64 ∧ outOf = -1) := by
  constructor
  · rintro hfits ⟨rfl, rfl⟩
    revert hfits
    decide
  · intro hleast
    unfold FitsInt64 minInt64 maxInt64 at *
    by_cases hlarge : 2 ≤ outOf.natAbs
    · have hhalf : (value.tdiv outOf).natAbs ≤ value.natAbs / 2 := by
        rw [Int.natAbs_tdiv]
        exact Nat.div_le_div_left hlarge (by decide)
      omega
    · obtain rfl | rfl | rfl : outOf = 0 ∨ outOf = 1 ∨ outOf = -1 := by omega
      · rw [Int.tdiv_zero]
        omega
      · rwa [Int.tdiv_one]
      · rw [Int.tdiv_neg, Int.tdiv_one]
        omega

/-- Microseconds of 64 bits are milliseconds of 64 bits. -/
theorem fits_thousandth (h : FitsInt64 value) : FitsInt64 (value.tdiv 1000) :=
  (fits_tdiv_iff h).mpr fun hleast => absurd hleast.2 (by decide)

/-- There is a quotient exactly if the divisor is not zero and 64 bits hold it. -/
theorem quotient_eq_ok_iff (h : FitsInt64 value) (result : Int) :
    quotient value outOf = .ok result ↔
      outOf ≠ 0 ∧ FitsInt64 (value.tdiv outOf) ∧ result = value.tdiv outOf := by
  rw [fits_tdiv_iff h]
  unfold quotient
  split
  · rename_i hzero
    exact iff_of_false nofun fun hne => hne.1 hzero
  · rename_i hzero
    split
    · rename_i hleast
      exact iff_of_false nofun fun hne => hne.2.1 hleast
    · rename_i hleast
      rw [Except.ok.injEq, and_iff_right hzero, and_iff_right hleast, eq_comm]

theorem fits_quotient (h : FitsInt64 value) {result : Int}
    (hresult : quotient value outOf = .ok result) : FitsInt64 result := by
  obtain ⟨-, hfits, rfl⟩ := (quotient_eq_ok_iff h result).mp hresult
  exact hfits

theorem fits_average (h : FitsInt64 value) {result : Int}
    (hresult : average value outOf = .ok result) : FitsInt64 result := by
  unfold average at hresult
  split at hresult
  · obtain rfl := Except.ok.inj hresult
    decide
  · exact fits_quotient h hresult

theorem fits_share (h : FitsInt64 value) : FitsInt64 (share value outOf) := by
  unfold share
  cases hquotient : quotient value outOf with
  | ok result => exact fits_quotient h hquotient
  | error fault => exact (by decide : FitsInt64 0)

theorem below_hundred : (Binary64.ofNat 100).Below 9 :=
  Binary64.below_ofNat (a := 7) (by decide) (by decide)

/-- A percentage of 64-bit integers is a finite number. -/
theorem isFinite_percentage (hvalue : FitsInt64 value) (houtOf : FitsInt64 outOf) :
    (percentage value outOf).IsFinite := by
  unfold percentage
  split
  · exact ⟨false, 0, Binary64.isMagnitude_zero, rfl⟩
  · rename_i hzero
    have hne : outOf ≠ 0 := fun h => hzero (.inr h)
    have hdivisor := Binary64.above_ofInt_of_fits houtOf hne
    have hquotient := (Binary64.below_ofInt_of_fits hvalue).div hdivisor (by decide)
    exact (below_hundred.mul hquotient (by decide)).isFinite

/-- A part of a cache whose size is not zero is a finite number. -/
theorem isFinite_cachePart (hvalue : FitsInt64 value) (houtOf : FitsInt64 outOf)
    (hne : outOf ≠ 0) : (Binary64.ofNat 100 * .ofInt value / .ofInt outOf).IsFinite := by
  have hproduct := below_hundred.mul (Binary64.below_ofInt_of_fits hvalue) (by decide)
  exact (hproduct.div (Binary64.above_ofInt_of_fits houtOf hne) (by decide)).isFinite

/-- The ratio of what was scanned to what was returned is a finite number, also if nothing was
returned. -/
theorem isFinite_efficiency {keys documents returned : Int} (hkeys : FitsInt64 keys)
    (hdocuments : FitsInt64 documents) (hreturned : FitsInt64 returned) :
    ((Binary64.ofInt keys).larger (.ofInt documents) /
      (Binary64.ofInt returned).larger (.ofNat 1)).IsFinite := by
  have hscanned :=
    (Binary64.below_ofInt_of_fits hkeys).larger (Binary64.below_ofInt_of_fits hdocuments)
  have hdivisor : ((Binary64.ofInt returned).larger (.ofNat 1)).Above 1 := by
    have hfinite := (Binary64.below_ofNat (n := 1) (a := 0) (by decide) (by decide)).isFinite
    obtain ⟨units, magnitude, heq, hone⟩ := Binary64.ofNat_eq_positive (by decide) hfinite
    rw [heq]
    exact hone.larger (Binary64.below_ofInt_of_fits hreturned).isFinite
  exact (hscanned.div hdivisor (by decide)).isFinite

end Guards

section Rates

variable {now before : Int} {current previous : Sample}

theorem below_thousand : (Binary64.ofNat 1000).Below 12 :=
  Binary64.below_ofNat (a := 10) (by decide) (by decide)

theorem above_thousand : (Binary64.ofNat 1000).Above 1 :=
  Binary64.above_ofNat (by decide) below_thousand.isFinite

/-- Nothing happens per second while no time passes or the clock runs backwards. -/
theorem rate_of_no_time (h : (current.time.since previous.time).millis ≤ 0) :
    rate now before (sampleSeconds current previous) = 0 := by
  have hseconds : (sampleSeconds current previous).NonPositive := by
    obtain ⟨units, magnitude, heq, habove⟩ :=
      Binary64.ofNat_eq_positive (by decide) below_thousand.isFinite
    rw [sampleSeconds, heq]
    exact (Binary64.nonPositive_ofInt h).div habove.units_pos
  rw [rate, if_pos hseconds.le_zero]

theorem isFinite_sampleSeconds (hmillis : FitsInt64 (current.time.since previous.time).millis) :
    (sampleSeconds current previous).IsFinite :=
  ((Binary64.below_ofInt_of_fits hmillis).div above_thousand (by decide)).isFinite

/-- While time passes, a change per second is a finite number. -/
theorem isFinite_rate (hpos : 0 < (current.time.since previous.time).millis)
    (hmillis : FitsInt64 (current.time.since previous.time).millis)
    (hchange : FitsInt64 (now - before)) :
    (Binary64.ofInt (now - before) / sampleSeconds current previous).IsFinite := by
  have hseconds : (sampleSeconds current previous).Above 14 :=
    (Binary64.above_ofInt_of_fits hmillis (by omega)).div below_thousand
      (isFinite_sampleSeconds hmillis) (by decide)
  exact ((Binary64.below_ofInt_of_fits hchange).div hseconds (by decide)).isFinite

theorem fits_toInt64 (x : Binary64) : FitsInt64 x.toInt64 := by
  cases x with
  | nan => decide
  | infinite negative => cases negative <;> decide
  | finite negative units magnitude => exact clampInt64_mem _

theorem fits_rate (seconds : Binary64) : FitsInt64 (rate now before seconds) := by
  unfold rate
  split
  · decide
  · exact fits_toInt64 _

end Rates

section Locks

/-- The growth that exceeds all others is one of them. -/
theorem LockGrowth.mem_of_top? {growths : List LockGrowth} {top : LockGrowth}
    (h : LockGrowth.top? growths = some top) : top ∈ growths := by
  cases growths with
  | nil => cases h
  | cons first rest =>
    obtain rfl := Option.some.inj h
    clear h
    induction rest generalizing first with
    | nil => exact List.mem_cons_self
    | cons growth rest ih =>
      rw [List.foldl_cons]
      split
      · exact List.mem_cons_of_mem first (ih growth)
      · rcases List.mem_cons.mp (ih first) with heq | hmem
        · rw [heq]
          exact List.mem_cons_self
        · exact List.mem_cons_of_mem first (List.mem_cons_of_mem growth hmem)

/-- What the cell of the most locked database is made of has 64 bits: the time that has passed, the
time that is charged to a database, and the times of the global lock. -/
structure LockTimesFit (current previous : Status) : Prop where
  elapsed : FitsInt64 (current.uptimeMillis - previous.uptimeMillis)
  charged : ∀ now before, current.locks = some now → previous.locks = some before →
    ∀ growth ∈ lockGrowths now before, FitsInt64 (chargedWrite (lockGrowths now before) growth)
  globalLock : ∀ lock, current.globalLock = some lock →
    FitsInt64 lock.lockTime ∧ FitsInt64 lock.totalTime

/-- The most locked database is shown with a percentage that is a finite number. -/
theorem lockedDatabase_cases {current previous : Status} (fit : LockTimesFit current previous) :
    lockedDatabase current previous = "" ∨ ∃ name value outOf,
      lockedDatabase current previous = name ++ ":" ++ percentCell value outOf ∧
        (percentage value outOf).IsFinite := by
  unfold lockedDatabase
  split
  · exact .inl rfl
  · split
    · rename_i now before hnow hbefore
      split
      · exact .inl rfl
      · dsimp only
        split
        · rename_i top htop
          have hcharged := fit.charged now before hnow hbefore top (LockGrowth.mem_of_top? htop)
          exact .inr ⟨top.database, _, _, rfl,
            isFinite_percentage (fits_thousandth hcharged) fit.elapsed⟩
        · split
          · rename_i lock hlock
            obtain ⟨hlockTime, htotalTime⟩ := fit.globalLock lock hlock
            exact .inr ⟨"", _, _, rfl, isFinite_percentage hlockTime htotalTime⟩
          · exact .inl rfl
    · exact .inl rfl

end Locks

/-! ## All quotients -/

/-- Every division of a stat line other than an average has a result, for all integers of 64
bits: those that stay among integers do so within 64 bits, and the others give finite numbers. -/
structure Guarded : Prop where
  /-- A quotient of integers is there exactly if the divisor is not zero and 64 bits hold it, and
  each of the two leaves a fault of its own. -/
  quotients : ∀ value divisor, FitsInt64 value →
    (quotient value divisor = .error .divisionByZero ↔ divisor = 0) ∧
      (quotient value divisor = .error .divisionOverflow ↔ ¬FitsInt64 (value.tdiv divisor)) ∧
      ∀ result, quotient value divisor = .ok result ↔
        divisor ≠ 0 ∧ FitsInt64 (value.tdiv divisor) ∧ result = value.tdiv divisor
  /-- An average is never divided by zero. It is the quotient, or zero if there is nothing to divide
  or to divide by, and has 64 bits, if it has a value at all. -/
  averages : ∀ value outOf, FitsInt64 value →
    average value outOf ≠ .error .divisionByZero ∧
      (value = 0 ∨ outOf = 0 → average value outOf = .ok 0) ∧
      (outOf ≠ 0 → average value outOf = quotient value outOf) ∧
      ∀ result, average value outOf = .ok result → FitsInt64 result
  /-- The time per core is the quotient, and zero where there is none. -/
  shares : ∀ value cores, FitsInt64 value →
    FitsInt64 (share value cores) ∧
      (cores = 0 ∨ ¬FitsInt64 (value.tdiv cores) → share value cores = 0) ∧
      ∀ result, quotient value cores = .ok result → share value cores = result
  /-- Microseconds of 64 bits are milliseconds of 64 bits. -/
  thousandths : ∀ n, FitsInt64 n →
    quotient n 1000 = .ok (n.tdiv 1000) ∧ FitsInt64 (n.tdiv 1000)
  /-- A percentage is a finite number, and zero if there is nothing to divide or to divide by. -/
  percentages : ∀ value outOf, FitsInt64 value → FitsInt64 outOf →
    (percentage value outOf).IsFinite ∧
      (value = 0 ∨ outOf = 0 → percentage value outOf = .zero false)
  /-- Nothing happens per second while no time passes or the clock runs backwards. -/
  stopped : ∀ (now before : Int) (current previous : Sample),
    (current.time.since previous.time).millis ≤ 0 →
      rate now before (sampleSeconds current previous) = 0
  /-- Otherwise a change per second is a finite number, and its integer part has 64 bits. -/
  rates : ∀ (now before : Int) (current previous : Sample),
    0 < (current.time.since previous.time).millis →
    FitsInt64 (current.time.since previous.time).millis → FitsInt64 (now - before) →
      (Binary64.ofInt (now - before) / sampleSeconds current previous).IsFinite ∧
        FitsInt64 (rate now before (sampleSeconds current previous))
  /-- A part of the cache is a finite number, and not shown without a configured size. -/
  cacheFractions : ∀ (settings : CellSettings) (bytes max : Int), FitsInt64 bytes → FitsInt64 max →
    if max = 0 then cacheFraction settings bytes max = ""
    else ∃ part : Binary64, part.IsFinite ∧ cacheFraction settings bytes max =
      part.fixed 1 ++ (if settings.humanReadable then "%" else "")
  /-- What was scanned per document returned is a finite number, also if none was returned. -/
  efficiencies : ∀ (current previous : Sample) (now before : Metrics),
    current.status.metrics = some now → previous.status.metrics = some before →
    FitsInt64 (now.queryExecutor.scanned - before.queryExecutor.scanned) →
    FitsInt64 (now.queryExecutor.scannedObjects - before.queryExecutor.scannedObjects) →
    FitsInt64 (now.document.returned - before.document.returned) →
      ∃ ratio : Binary64, ratio.IsFinite ∧ queryEfficiency current previous = ratio.fixed 1
  /-- The part of the time that a database was locked is a finite number. -/
  lockedDatabases : ∀ current previous : Status, LockTimesFit current previous →
    lockedDatabase current previous = "" ∨ ∃ name value outOf,
      lockedDatabase current previous = name ++ ":" ++ percentCell value outOf ∧
        (percentage value outOf).IsFinite

theorem guarded : Guarded where
  quotients value divisor h := by
    refine ⟨?_, ?_, quotient_eq_ok_iff h⟩
    · simp [quotient_eq_error_iff]
    · simp [quotient_eq_error_iff, fits_tdiv_iff h]
  averages value outOf h := by
    refine ⟨?_, fun hguard => if_pos hguard, ?_, fun result hresult => fits_average h hresult⟩
    · intro hzero
      cases ((average_eq_error_iff value outOf .divisionByZero).mp hzero).1
    · intro hne
      by_cases hvalue : value = 0
      · rw [average, if_pos (.inl hvalue), hvalue]
        exact ((quotient_eq_ok_iff (by decide) 0).mpr
          ⟨hne, by rw [Int.zero_tdiv]; decide, (Int.zero_tdiv outOf).symm⟩).symm
      · exact if_neg (not_or.mpr ⟨hvalue, hne⟩)
  shares value cores h := by
    refine ⟨fits_share h, ?_, ?_⟩
    · intro hguard
      cases hquotient : quotient value cores with
      | ok result =>
        obtain ⟨hne, hfits, -⟩ := (quotient_eq_ok_iff h result).mp hquotient
        exact absurd hguard (not_or.mpr ⟨hne, not_not_intro hfits⟩)
      | error fault => rw [share, hquotient]; rfl
    · intro result hresult
      rw [share, hresult]
      rfl
  thousandths n h :=
    ⟨(quotient_eq_ok_iff h _).mpr ⟨by decide, fits_thousandth h, rfl⟩, fits_thousandth h⟩
  percentages value outOf hvalue houtOf := ⟨isFinite_percentage hvalue houtOf, fun h => if_pos h⟩
  stopped _ _ _ _ h := rate_of_no_time h
  rates _ _ _ _ hpos hmillis hchange := ⟨isFinite_rate hpos hmillis hchange, fits_rate _⟩
  cacheFractions settings bytes max hbytes hmax := by
    unfold cacheFraction
    split
    · rfl
    · rename_i hne
      exact ⟨_, isFinite_cachePart hbytes hmax hne, rfl⟩
  efficiencies current previous now before hnow hbefore hkeys hdocuments hreturned := by
    refine ⟨_, isFinite_efficiency hkeys hdocuments hreturned, ?_⟩
    rw [queryEfficiency, withMetrics, hnow, hbefore]
  lockedDatabases _ _ fit := lockedDatabase_cases fit

/-- A line has no cells exactly if one of the averages that it shows is the quotient that 64 bits
do not hold, and that is the fault then; all other divisions are guarded. -/
theorem cells_guarded (line : StatLine) (options : RenderOptions) :
    (Fails (line.cells options) ↔ Overflows line options) ∧
      (∀ fault, line.cells options = .error fault → fault = .divisionOverflow) ∧ Guarded :=
  ⟨fails_cells line options,
    fun fault hfault => ((dividesOnly_cells line options fault).mp hfault).1, guarded⟩

/-- The average wait of such a server cannot be shown, its connections can. -/
theorem overflowingLine_fails :
    Fails (overflowingLine.cells { fields := some ["conn", "glems"] }) ∧
      ¬Fails (overflowingLine.cells { fields := some ["conn"] }) := by
  constructor
  · rw [(cells_guarded overflowingLine _).1]
    decide
  · rw [(cells_guarded overflowingLine _).1]
    decide

end LoadWatch.ServerStatus
