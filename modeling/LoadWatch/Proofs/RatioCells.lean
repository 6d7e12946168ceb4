/-
  Proofs/RatioCells.lean --- what the ratios of the grids show.

  WHAT THIS FILE IS FOR.  Most cells of the grids on namespaces and on operation
  metrics are quotients of floating point numbers, and nothing keeps their
  divisors from zero: two samples can be less than a millisecond apart, a
  namespace can be without operations, the number of cores can be unknown.  Here
  it is said what every such cell shows, for all numbers of 64 bits
  (`ratioCells`).

  A ratio is described by its divisors and by a direction, an integer with the
  sign of what is divided (`IsRatio`).  If a divisor is zero the ratio is no
  number or an infinity, as the direction says (`sentinel`), and the operations
  that follow keep it that way.  If none is zero, bounds on the operands keep it
  among the finite numbers, and from zero if the direction is not zero
  (`Directed`).  The last point matters for the part of all cores: its dividend
  is a quotient itself, which must not be rounded to zero before it is divided
  by a number of cores that is.
-/
import Mathlib.Algebra.Order.Ring.Int
import LoadWatch.Proofs.CellSafety
import LoadWatch.Proofs.ExactNumbers
import LoadWatch.Proofs.ReportGrids
import LoadWatch.Proofs.ReportLines

set_option autoImplicit false

namespace LoadWatch

/-! ## Texts of ratios -/

/-- The text is a decimal with the given number of places: a sign if it is negative, at least one
digit, a point, and the places. -/
def IsDecimal (places : Nat) (text : String) : Prop :=
  ∃ sign whole fraction : List Char, text = String.ofList (sign ++ (whole ++ '.' :: fraction)) ∧
    (sign = [] ∨ sign = ['-']) ∧ whole ≠ [] ∧ fraction.length = places ∧
    (∀ c ∈ whole, c.isDigit = true) ∧ ∀ c ∈ fraction, c.isDigit = true

/-- The texts of what is not a finite number. -/
def sentinelTexts : List String := ["NaN", "+Inf", "-Inf"]

/-- A text shows a ratio with the given divisors, whose dividend has the sign of the direction. -/
structure ShowsRatio (places : Nat) (divisors : List Int) (direction : Int) (text : String) :
    Prop where
  sentinel : text ∈ sentinelTexts ↔ 0 ∈ divisors
  noNumber : text = "NaN" ↔ 0 ∈ divisors ∧ direction = 0
  above : text = "+Inf" ↔ 0 ∈ divisors ∧ 0 < direction
  below : text = "-Inf" ↔ 0 ∈ divisors ∧ direction < 0
  decimal : 0 ∉ divisors → IsDecimal places text

theorem IsDecimal.not_mem_sentinelTexts {places : Nat} {text : String}
    (h : IsDecimal places text) : text ∉ sentinelTexts := by
  obtain ⟨sign, whole, fraction, rfl, -⟩ := h
  have hpoint : '.' ∈ (String.ofList (sign ++ (whole ++ '.' :: fraction))).toList := by
    rw [String.toList_ofList]
    exact List.mem_append_right _ (List.mem_append_right _ List.mem_cons_self)
  have hnone : ∀ text ∈ sentinelTexts, '.' ∉ text.toList := by decide
  exact fun hmem => hnone _ hmem hpoint

namespace Binary64

-- Powers of natural numbers are those of `Nat`, also where other powers are in scope.
attribute [local instance (2000)] instPowNat

variable {x y : Binary64} {a b : Nat} {direction : Int}

/-- Finite numbers are shown as decimals. -/
theorem isDecimal_fixed {places : Nat} (hplaces : places ≠ 0) (h : x.IsFinite) :
    IsDecimal places (x.fixed places) := by
  obtain ⟨negative, units, magnitude, rfl⟩ := h
  have hfixed : (finite negative units magnitude).fixed places =
      String.ofList (signText negative ++
        (Nat.toDigits 10 (scaledMagnitude units places / 10 ^ places) ++
          '.' :: lastDigits places (scaledMagnitude units places))) := by
    rw [fixed, fixedDigits, if_neg hplaces]
  refine ⟨_, _, _, hfixed, ?_, Nat.toDigits_ne_nil, length_lastDigits _ _,
    fun c hc => Nat.isDigit_of_mem_toDigits (by decide) (by decide) hc,
    fun c hc => isDigit_of_mem_lastDigits hc⟩
  cases negative
  · exact .inl rfl
  · exact .inr rfl

/-! ## Quotients by zero -/

/-- What is left of a number that is divided by zero: no number if it is zero, and the infinity on
its side otherwise. -/
def sentinel (direction : Int) : Binary64 :=
  if direction = 0 then .nan else .infinite (direction < 0)

/-- The number is a quotient with the given divisors, whose dividend has the sign of the
direction. -/
structure IsRatio (divisors : List Int) (direction : Int) (x : Binary64) : Prop where
  degenerate : 0 ∈ divisors → x = sentinel direction
  finite : 0 ∉ divisors → x.IsFinite

theorem fixed_sentinel (places : Nat) (direction : Int) : (sentinel direction).fixed places =
    if direction = 0 then "NaN" else if direction < 0 then "-Inf" else "+Inf" := by
  rw [sentinel, apply_ite (fixed places)]
  by_cases hneg : direction < 0
  · simp [fixed, hneg]
  · simp [fixed, hneg]

/-- A ratio is shown as one. -/
theorem IsRatio.showsRatio {divisors : List Int} {places : Nat} (hplaces : places ≠ 0)
    (h : IsRatio divisors direction x) : ShowsRatio places divisors direction (x.fixed places) := by
  by_cases hzero : 0 ∈ divisors
  · rw [h.degenerate hzero, fixed_sentinel]
    rcases lt_trichotomy direction 0 with hneg | rfl | hpos
    · rw [if_neg hneg.ne, if_pos hneg]
      constructor <;> simp [sentinelTexts, hzero] <;> omega
    · constructor <;> simp [sentinelTexts, hzero]
    · rw [if_neg hpos.ne', if_neg hpos.not_gt]
      constructor <;> simp [sentinelTexts, hzero] <;> omega
  · have hdecimal := isDecimal_fixed hplaces (h.finite hzero)
    have hnone := hdecimal.not_mem_sentinelTexts
    have hothers : x.fixed places ≠ "NaN" ∧ x.fixed places ≠ "+Inf" ∧ x.fixed places ≠ "-Inf" := by
      simpa [sentinelTexts] using hnone
    obtain ⟨hnan, hplus, hminus⟩ := hothers
    exact ⟨iff_of_false hnone hzero, iff_of_false hnan fun h => hzero h.1,
      iff_of_false hplus fun h => hzero h.1, iff_of_false hminus fun h => hzero h.1,
      fun _ => hdecimal⟩

/-- A number that is finite and has the direction of an integer: it is zero if the integer is, and
otherwise it has the sign of the integer and keeps from zero. -/
def Directed (exponent : Nat) (direction : Int) (x : Binary64) : Prop :=
  ∃ negative units magnitude, x = .finite negative units magnitude ∧
    (direction = 0 → units = 0) ∧
    (direction ≠ 0 → negative = decide (direction < 0) ∧ x.Above exponent)

theorem directed_ofInt {n : Int} (h : FitsInt64 n) : (ofInt n).Directed 1 n := by
  obtain ⟨magnitude, heq⟩ := ofRatio_eq_finite (below_ofInt_of_fits h).isFinite
  refine ⟨_, _, magnitude, heq, ?_, fun hne => ⟨rfl, above_ofInt_of_fits h hne⟩⟩
  rintro rfl
  rw [Int.natAbs_zero, Nat.zero_mul]
  exact roundUnits_zero 1

/-- Divided by zero, a number leaves nothing but its direction. -/
theorem Directed.div_zero (h : x.Directed a direction) : x / zero false = sentinel direction := by
  obtain ⟨negative, units, magnitude, rfl, hzero, hsign⟩ := h
  rw [zero, finite_div_zero rfl, sentinel]
  by_cases hdirection : direction = 0
  · rw [if_pos hdirection, if_pos (hzero hdirection)]
  · obtain ⟨rfl, habove⟩ := hsign hdirection
    rw [if_neg hdirection, if_neg habove.units_pos.ne', Bool.bne_false]

/-- A quotient has the direction of the product of the directions. -/
theorem Directed.div {other : Int} {c : Nat} (hx : x.Directed a direction)
    (hy : y.Directed b other) (hother : other ≠ 0) (hbelow : y.Below c)
    (hfinite : (x / y).IsFinite) (hlimit : a + c ≤ 1074) :
    (x / y).Directed (a + c + 1) (direction * other) := by
  obtain ⟨s, u, hu, rfl, hxzero, hxsign⟩ := hx
  obtain ⟨t, v, hv, rfl, -, hysign⟩ := hy
  obtain ⟨rfl, hyabove⟩ := hysign hother
  have hquotient : finite s u hu / finite (decide (other < 0)) v hv =
      ofRatio (s != decide (other < 0)) (u * unitsPerOne) v := finite_div_finite hyabove.units_pos
  rw [hquotient] at hfinite
  obtain ⟨magnitude, heq⟩ := ofRatio_eq_finite hfinite
  refine ⟨_, _, magnitude, hquotient.trans heq, ?_, ?_⟩
  · intro hproduct
    have hdirection := (mul_eq_zero.mp hproduct).resolve_right hother
    rw [hxzero hdirection, Nat.zero_mul]
    exact roundUnits_zero _
  · intro hproduct
    have hne : direction ≠ 0 := left_ne_zero_of_mul hproduct
    obtain ⟨rfl, hxabove⟩ := hxsign hne
    rw [← hquotient] at hfinite
    refine ⟨?_, hxabove.div hbelow hfinite hlimit⟩
    rw [Bool.eq_iff_iff, bne_iff_ne, Ne, decide_eq_decide, decide_eq_true_iff, mul_neg_iff]
    omega

/-- A factor without a sign keeps the direction. -/
theorem Directed.mul_positive {v : Nat} {hv : IsMagnitude v} (hx : x.Directed a direction)
    (hy : (finite false v hv).Above b) (hfinite : (x * finite false v hv).IsFinite)
    (hlimit : a + b ≤ 1074) : (x * finite false v hv).Directed (a + b + 1) direction := by
  obtain ⟨s, u, hu, rfl, hzero, hsign⟩ := hx
  have hproduct : finite s u hu * finite false v hv = ofRatio s (u * v) unitsPerOne := by
    rw [finite_mul_finite, Bool.bne_false]
  rw [hproduct] at hfinite
  obtain ⟨magnitude, heq⟩ := ofRatio_eq_finite hfinite
  refine ⟨s, _, magnitude, hproduct.trans heq, ?_, ?_⟩
  · intro hdirection
    rw [hzero hdirection, Nat.zero_mul]
    exact roundUnits_zero _
  · intro hdirection
    obtain ⟨rfl, habove⟩ := hsign hdirection
    rw [← hproduct] at hfinite
    exact ⟨rfl, habove.mul hy hfinite hlimit⟩

/-- A positive factor does not bring anything back that was divided by zero. -/
theorem sentinel_mul {v : Nat} {hv : IsMagnitude v} (hpos : 0 < v) :
    sentinel direction * finite false v hv = sentinel direction := by
  show Binary64.mul _ _ = _
  rw [sentinel]
  split
  · rfl
  · rw [Binary64.mul, if_neg hpos.ne', Bool.bne_false]

/-- Neither does a divisor without a sign. -/
theorem sentinel_div {v : Nat} {hv : IsMagnitude v} :
    sentinel direction / finite false v hv = sentinel direction := by
  show Binary64.div _ _ = _
  rw [sentinel]
  split
  · rfl
  · rw [Binary64.div, Bool.bne_false]

/-! ## The ratios of the grids -/

section Ratios

open ServerStatus (below_hundred below_thousand above_thousand)

variable {value divisor millis cores : Int}

/-- The quotient of two integers. -/
theorem isRatio_quotient (hvalue : FitsInt64 value) (hdivisor : FitsInt64 divisor) :
    IsRatio [divisor] value (ofInt value / ofInt divisor) where
  degenerate hzero := by
    rw [← List.mem_singleton.mp hzero, ofInt_zero]
    exact (directed_ofInt hvalue).div_zero
  finite hzero := by
    have hne : divisor ≠ 0 := fun heq => hzero (List.mem_singleton.mpr heq.symm)
    exact isFinite_div hvalue hdivisor hne

/-- The change of a count per second. -/
theorem isRatio_perSecond (hvalue : FitsInt64 value) (hmillis : FitsInt64 millis) :
    IsRatio [millis] value (ofInt value / (ofInt millis / ofNat 1000)) where
  degenerate hzero := by
    obtain ⟨units, magnitude, hthousand, habove⟩ :=
      ofNat_eq_positive (by decide) below_thousand.isFinite
    rw [← List.mem_singleton.mp hzero, ofInt_zero, hthousand, zero,
      finite_div_finite habove.units_pos, Nat.zero_mul, Bool.bne_false, ofRatio_zero]
    exact (directed_ofInt hvalue).div_zero
  finite hzero := by
    have hne : millis ≠ 0 := fun heq => hzero (List.mem_singleton.mpr heq.symm)
    have hfinite := ((below_ofInt_of_fits hmillis).div above_thousand (by decide)).isFinite
    have hseconds :=
      (above_ofInt_of_fits hmillis hne).div below_thousand hfinite (by decide)
    exact ((below_ofInt_of_fits hvalue).div hseconds (by decide)).isFinite

theorem below_percentage (hvalue : FitsInt64 value) (hmillis : FitsInt64 millis)
    (hne : millis ≠ 0) : (ofInt value / ofInt millis * ofNat 100).Below 79 := by
  have hquotient :=
    (below_ofInt_of_fits hvalue).div (above_ofInt_of_fits hmillis hne) (by decide)
  exact (hquotient.mul below_hundred (by decide) :)

/-- A percentage that is a number has the direction of its terms. -/
theorem directed_percentage (hvalue : FitsInt64 value) (hmillis : FitsInt64 millis)
    (hne : millis ≠ 0) :
    (ofInt value / ofInt millis * ofNat 100).Directed 69 (value * millis) := by
  have hfinite := isFinite_div hvalue hmillis hne
  have hquotient := (directed_ofInt hvalue).div (directed_ofInt hmillis) hne
    (below_ofInt_of_fits hmillis) hfinite (by decide)
  have hproduct := (below_percentage hvalue hmillis hne).isFinite
  obtain ⟨units, magnitude, hhundred, habove⟩ :=
    ofNat_eq_positive (by decide) below_hundred.isFinite
  rw [hhundred] at hproduct ⊢
  exact hquotient.mul_positive habove hproduct (by decide)

/-- A part of the elapsed time as a percentage. -/
theorem isRatio_percentage (hvalue : FitsInt64 value) (hmillis : FitsInt64 millis) :
    IsRatio [millis] value (ofInt value / ofInt millis * ofNat 100) where
  degenerate hzero := by
    obtain ⟨units, magnitude, hhundred, habove⟩ :=
      ofNat_eq_positive (by decide) below_hundred.isFinite
    rw [(isRatio_quotient hvalue hmillis).degenerate hzero, hhundred]
    exact sentinel_mul habove.units_pos
  finite hzero := by
    have hne : millis ≠ 0 := fun heq => hzero (List.mem_singleton.mpr heq.symm)
    exact (below_percentage hvalue hmillis hne).isFinite

/-- A part of the elapsed time of all cores as a percentage. If both divisors are zero, the elapsed
time comes first, so that its sign does not count. -/
theorem isRatio_perCore (hvalue : FitsInt64 value) (hmillis : FitsInt64 millis)
    (hcores : FitsInt64 cores) (hnonneg : 0 ≤ cores) :
    IsRatio [millis, cores] (if millis = 0 then value else value * millis)
      (ofInt value / ofInt millis * ofNat 100 / ofInt cores) where
  degenerate hzero := by
    by_cases hmillis_zero : millis = 0
    · have hpart := isRatio_percentage hvalue hmillis
      obtain ⟨count, rfl⟩ := Int.eq_ofNat_of_zero_le hnonneg
      have hfinite := (below_ofInt_of_fits hcores).isFinite
      rw [ofInt_natCast] at hfinite ⊢
      obtain ⟨units, magnitude, heq⟩ := ofNat_eq_finite hfinite
      rw [if_pos hmillis_zero, hpart.degenerate (List.mem_singleton.mpr hmillis_zero.symm), heq]
      exact sentinel_div
    · have hcores_zero : cores = 0 := by
        rcases List.mem_pair.mp hzero with heq | heq
        · exact absurd heq.symm hmillis_zero
        · exact heq.symm
      rw [if_neg hmillis_zero, hcores_zero, ofInt_zero]
      exact (directed_percentage hvalue hmillis hmillis_zero).div_zero
  finite hzero := by
    have hmillis_ne : millis ≠ 0 := fun heq => hzero (List.mem_pair.mpr (.inl heq.symm))
    have hcores_ne : cores ≠ 0 := fun heq => hzero (List.mem_pair.mpr (.inr heq.symm))
    exact ((below_percentage hvalue hmillis hmillis_ne).div
      (above_ofInt_of_fits hcores hcores_ne) (by decide)).isFinite

end Ratios

end Binary64

/-! ## Rows -/

namespace Report

variable {Delta : Type}

/-- The rows are those of the ranked entries of a table, in order and none left out: each has the
key, cells that show what the table has under that very key, and nothing below the last heading. -/
def RowsShow (totals : Table Delta) (shows : Delta → List String → Prop)
    (ranked : List Ranking.Entry) (rows : List (List String)) : Prop :=
  List.Forall₂ (fun entry row => ∃ delta cells, totals.get? entry.key = some delta ∧
    shows delta cells ∧ row = entry.key :: (cells ++ [""])) ranked rows

section Rows

variable {totals : Table Delta} {row : String → Delta → List String}
  {cells : Delta → List String} {entries : List Ranking.Entry}
  {shows : Delta → List String → Prop}

theorem rowsShow_of_cells (keys : entries.map Ranking.Entry.key = totals.keys)
    (hrow : ∀ key delta, row key delta = key :: (cells delta ++ [""]))
    (hshows : ∀ key delta, totals.get? key = some delta → shows delta (cells delta))
    (listCount : Nat) : RowsShow totals shows (Ranking.shown entries listCount)
      (rowsOf totals row (Ranking.shown entries listCount)) := by
  let rows := rowsOf totals row (Ranking.shown entries listCount)
  have hsame : List.Forall₂ (fun row shown => row = shown) rows rows :=
    List.forall₂_same.mpr fun _ _ => rfl
  refine (forall₂_of_rowsOf (get?_of_mem_shown keys) hsame).imp ?_
  rintro entry shown ⟨delta, hdelta, rfl⟩
  exact ⟨delta, _, hdelta, hshows _ _ hdelta, hrow _ _⟩

/-- A row with a key is made of what the table has under the key. -/
theorem eq_row_of_mem_rowsOf {ranked : List Ranking.Entry} {key : String} {shown : List String}
    (hrow : ∀ key delta, (row key delta).head? = some key) (hmem : shown ∈ rowsOf totals row ranked)
    (hhead : shown.head? = some key) :
    ∃ delta, totals.get? key = some delta ∧ shown = row key delta := by
  obtain ⟨entry, -, hfound⟩ := List.mem_filterMap.mp hmem
  obtain ⟨delta, hdelta, rfl⟩ := Option.map_eq_some_iff.mp hfound
  obtain rfl := Option.some.inj ((hrow entry.key delta).symm.trans hhead)
  exact ⟨delta, hdelta, rfl⟩

end Rows

end Report

namespace NamespaceTop

/-- The texts of the ratios of a usage within an elapsed time. -/
structure UsageTexts (millis : Int) (usage : Usage) where
  percentage : String
  latency : String
  rate : String
  percentage_shows : ShowsRatio 1 [millis] usage.time percentage
  latency_shows : ShowsRatio 1 [usage.count] usage.time latency
  rate_shows : ShowsRatio 1 [millis] usage.count rate

/-- The cells of a usage: its time, and its ratios with their units. -/
def UsageTexts.cells {millis : Int} {usage : Usage} (texts : UsageTexts millis usage) :
    List String :=
  [decimal usage.time ++ "ms", texts.percentage ++ "%", texts.latency ++ "ms/op",
    texts.rate ++ "op/s"]

/-- The cells show the usages of a namespace and, second among the ratios, its part of the elapsed
time of all cores. -/
def ShowsRatios (millis cores : Int) (activity : Activity) (cells : List String) : Prop :=
  ∃ (total : UsageTexts millis activity.total) (read : UsageTexts millis activity.read)
    (write : UsageTexts millis activity.write) (perCore : String),
    ShowsRatio 2 [millis, cores]
      (if millis = 0 then activity.total.time else activity.total.time * millis) perCore ∧
    cells = [decimal activity.total.time ++ "ms", total.percentage ++ "%", perCore ++ "%",
      total.latency ++ "ms/op", total.rate ++ "op/s"] ++ read.cells ++ write.cells

/-- The numbers that the ratios of a difference are made of have 64 bits, and the number of cores
is not negative. -/
structure Diff.Fits (diff : Diff) : Prop where
  elapsed : FitsInt64 diff.elapsed.millis
  cores : FitsInt64 diff.cores
  cores_nonneg : 0 ≤ diff.cores
  activities : ∀ key activity, diff.totals.get? key = some activity → activity.Fits

theorem exists_usageTexts {millis : Int} {usage : Usage} (h : usage.Fits)
    (hmillis : FitsInt64 millis) :
    ∃ texts : UsageTexts millis usage, usageCells (.ofInt millis) usage = texts.cells := by
  have hpercentage := Binary64.isRatio_percentage h.time hmillis
  have hlatency := Binary64.isRatio_quotient h.time h.count
  have hrate := Binary64.isRatio_perSecond h.count hmillis
  let texts : UsageTexts millis usage :=
    ⟨_, _, _, hpercentage.showsRatio (by decide), hlatency.showsRatio (by decide),
      hrate.showsRatio (by decide)⟩
  exact ⟨texts, by simp only [usageCells, percentText, UsageTexts.cells, texts]⟩

theorem showsRatios_cells {diff : Diff} (h : diff.Fits) {key : String} {activity : Activity}
    (hmem : diff.totals.get? key = some activity) :
    ShowsRatios diff.elapsed.millis diff.cores activity (diff.cells activity) := by
  obtain ⟨htotal, hread, hwrite⟩ := h.activities key activity hmem
  obtain ⟨total, htotalCells⟩ := exists_usageTexts htotal h.elapsed
  obtain ⟨read, hreadCells⟩ := exists_usageTexts hread h.elapsed
  obtain ⟨write, hwriteCells⟩ := exists_usageTexts hwrite h.elapsed
  have hperCore := Binary64.isRatio_perCore htotal.time h.elapsed h.cores h.cores_nonneg
  refine ⟨total, read, write, _, hperCore.showsRatio (by decide), ?_⟩
  rw [Diff.cells, htotalCells, hreadCells, hwriteCells, perCoreCell]
  simp only [UsageTexts.cells, List.take, List.drop, List.cons_append, List.nil_append]

/-- Nothing but the elapsed time, the number of cores and the activity of a namespace has an
influence on its row. -/
theorem row_eq {diff other : Diff} (helapsed : diff.elapsed.millis = other.elapsed.millis)
    (hcores : diff.cores = other.cores) {key : String}
    (hkey : diff.totals.get? key = other.totals.get? key) {options options' : RenderOptions}
    {row row' : List String} (hrow : row ∈ diff.rows options) (hrow' : row' ∈ other.rows options')
    (hhead : row.head? = some key) (hhead' : row'.head? = some key) : row = row' := by
  obtain ⟨activity, hactivity, rfl⟩ := Report.eq_row_of_mem_rowsOf (fun _ _ => rfl) hrow hhead
  obtain ⟨same, hsame, rfl⟩ := Report.eq_row_of_mem_rowsOf (fun _ _ => rfl) hrow' hhead'
  obtain rfl := Option.some.inj (hactivity.symm.trans (hkey.trans hsame))
  rw [Diff.row, Diff.row, helapsed, hcores]

end NamespaceTop

namespace OperationMetrics

/-- The cells show the document units of a database per second: all of them, those read on the
primary and on the secondaries, and those written. -/
def ShowsRatios (millis : Int) (metrics : Metrics) (cells : List String) : Prop :=
  ∃ total read written : String,
    ShowsRatio 1 [millis] (metrics.primary.documentUnits + metrics.secondary.documentUnits +
      metrics.documentUnitsWritten) total ∧
    ShowsRatio 1 [millis] (metrics.primary.documentUnits + metrics.secondary.documentUnits) read ∧
    ShowsRatio 1 [millis] metrics.documentUnitsWritten written ∧
    cells = ["", total ++ "Units/s", read ++ "RUnits/s", written ++ "WUnits/s"]

/-- The numbers that the ratios of a difference are made of have 64 bits. -/
structure Diff.Fits (diff : Diff) : Prop where
  elapsed : FitsInt64 diff.elapsed.millis
  units : ∀ key metrics, diff.totals.get? key = some metrics →
    FitsInt64 (metrics.primary.documentUnits + metrics.secondary.documentUnits +
        metrics.documentUnitsWritten) ∧
      FitsInt64 (metrics.primary.documentUnits + metrics.secondary.documentUnits) ∧
      FitsInt64 metrics.documentUnitsWritten

theorem showsRatios_cells {diff : Diff} (h : diff.Fits) {key : String} {metrics : Metrics}
    (hmem : diff.totals.get? key = some metrics) :
    ShowsRatios diff.elapsed.millis metrics (diff.cells metrics) := by
  obtain ⟨htotal, hread, hwritten⟩ := h.units key metrics hmem
  have hshows : ∀ units, FitsInt64 units → ShowsRatio 1 [diff.elapsed.millis] units
      ((Binary64.ofInt units / (.ofInt diff.elapsed.millis / .ofNat 1000)).fixed 1) :=
    fun units hunits => (Binary64.isRatio_perSecond hunits h.elapsed).showsRatio (by decide)
  refine ⟨_, _, _, hshows _ htotal, hshows _ hread, hshows _ hwritten, ?_⟩
  rw [Diff.cells, Metrics.totalUnits, Metrics.unitsRead, wrapInt64_eq_self htotal,
    wrapInt64_eq_self hread]
  rfl

/-- Nothing but the elapsed time and the metrics of a database has an influence on its row. -/
theorem row_eq {diff other : Diff} (helapsed : diff.elapsed.millis = other.elapsed.millis)
    {key : String} (hkey : diff.totals.get? key = other.totals.get? key)
    {options options' : RenderOptions} {row row' : List String} (hrow : row ∈ diff.rows options)
    (hrow' : row' ∈ other.rows options') (hhead : row.head? = some key)
    (hhead' : row'.head? = some key) : row = row' := by
  obtain ⟨metrics, hmetrics, rfl⟩ := Report.eq_row_of_mem_rowsOf (fun _ _ => rfl) hrow hhead
  obtain ⟨same, hsame, rfl⟩ := Report.eq_row_of_mem_rowsOf (fun _ _ => rfl) hrow' hhead'
  obtain rfl := Option.some.inj (hmetrics.symm.trans (hkey.trans hsame))
  rw [Diff.row, Diff.row, helapsed]

end OperationMetrics

open Report (RowsShow)

/-- In the grids on namespaces and on operation metrics every ratio shows what its own divisors and
dividend give: a sentinel exactly if one of the divisors is zero, and otherwise a decimal. The row
of an entry is the same whatever other entries there are. -/
theorem ratioCells :
    (∀ (diff : NamespaceTop.Diff) (options : RenderOptions), diff.Fits →
      RowsShow diff.totals (NamespaceTop.ShowsRatios diff.elapsed.millis diff.cores)
        (diff.ranked options) (diff.rows options)) ∧
    (∀ (diff : OperationMetrics.Diff) (options : RenderOptions), diff.Fits →
      RowsShow diff.totals (OperationMetrics.ShowsRatios diff.elapsed.millis)
        (diff.ranked options) (diff.rows options)) ∧
    (∀ (diff other : NamespaceTop.Diff) (options options' : RenderOptions),
      diff.elapsed.millis = other.elapsed.millis → diff.cores = other.cores →
      ∀ key, diff.totals.get? key = other.totals.get? key →
        ∀ row ∈ diff.rows options, ∀ row' ∈ other.rows options',
          row.head? = some key → row'.head? = some key → row = row') ∧
    (∀ (diff other : OperationMetrics.Diff) (options options' : RenderOptions),
      diff.elapsed.millis = other.elapsed.millis →
      ∀ key, diff.totals.get? key = other.totals.get? key →
        ∀ row ∈ diff.rows options, ∀ row' ∈ other.rows options',
          row.head? = some key → row'.head? = some key → row = row') := by
  refine ⟨?_, ?_, ?_, ?_⟩
  · intro diff options h
    exact Report.rowsShow_of_cells (NamespaceTop.keys_entries diff options.sortMode)
      (fun _ _ => rfl) (fun _ _ => NamespaceTop.showsRatios_cells h) options.listCount
  · intro diff options h
    exact Report.rowsShow_of_cells (OperationMetrics.keys_entries diff options.sortMode)
      (fun _ _ => rfl) (fun _ _ => OperationMetrics.showsRatios_cells h) options.listCount
  · intro diff other options options' helapsed hcores key hkey row hrow row' hrow'
    exact NamespaceTop.row_eq helapsed hcores hkey hrow hrow'
  · intro diff other options options' helapsed key hkey row hrow row' hrow'
    exact OperationMetrics.row_eq helapsed hkey hrow hrow'

/-- A difference of namespaces between samples of the same moment, one of which was busy for two
milliseconds without an operation, on a server with an unknown number of cores. -/
def busyTop : NamespaceTop.Diff where
  cores := 0
  elapsed := ⟨0⟩
  current := ⟨⟨0, 0⟩, 0, .empty⟩
  totals := ⟨[("db.coll", { total := ⟨2, 0⟩ })], List.pairwise_singleton ..⟩
  time := ⟨0, 0⟩

/-- All its numbers have 64 bits, and so have those of a difference of operation metrics between
samples of the same moment. -/
theorem busyTop_shown :
    (busyTop.Fits ∧ RowsShow busyTop.totals (NamespaceTop.ShowsRatios 0 0) (busyTop.ranked {})
      (busyTop.rows {})) ∧
    stillMetrics.Fits ∧ RowsShow stillMetrics.totals (OperationMetrics.ShowsRatios 0)
      (stillMetrics.ranked {}) (stillMetrics.rows {}) := by
  obtain ⟨hnamespaces, hdatabases, -⟩ := ratioCells
  have top : busyTop.Fits := by
    refine ⟨by decide, by decide, by decide, fun key activity h => ?_⟩
    obtain ⟨-, rfl⟩ := Prod.mk.inj (List.mem_singleton.mp (Table.get?_eq_some_iff.mp h))
    have still : NamespaceTop.Usage.Fits {} := ⟨by decide, by decide⟩
    exact ⟨⟨by decide, by decide⟩, still, still⟩
  have metrics : stillMetrics.Fits := by
    refine ⟨by decide, fun key metrics h => ?_⟩
    obtain ⟨-, rfl⟩ := Prod.mk.inj (List.mem_singleton.mp (Table.get?_eq_some_iff.mp h))
    decide
  exact ⟨⟨top, hnamespaces busyTop {} top⟩, metrics, hdatabases stillMetrics {} metrics⟩

end LoadWatch
