/-
  Proofs/Lines.lean --- the lines of a text, and texts without blanks.

  WHAT THIS FILE IS FOR.  What a report shows is one text, and what its readers
  see are lines.  A text that was put together from ended lines is taken apart
  into the same lines, if none of them contains a line end of its own
  (`lines_ofList`).  Whatever a text is cut at, there is one way to cut it
  (`stretches_iff`).

  The texts of numbers and of moments contain no blank at all.  So they stay on
  one line, and at the right end of a line nothing of them is cut off
  (`trimEnd_append_unbroken`).

  Main results: `stretches_iff`, `lines_ofList`, `unbroken_decimal`, `unbroken_fixed` and
  `unbroken_moment`.
-/
import LoadWatch.Text.Blank
import LoadWatch.Text.Pieces
import LoadWatch.Time.Moment
import LoadWatch.Units

set_option autoImplicit false

namespace LoadWatch.Text

/-! ## Lines -/

/-- The lines of a text, which are its pieces between line ends. What comes after the last line
end is none. -/
def lines (text : String) : List (List Char) := (pieces '\n' text.toList).dropLast

/-- A text without line ends. -/
def OneLine (text : String) : Prop := '\n' ∉ text.toList

instance (text : String) : Decidable (OneLine text) := inferInstanceAs (Decidable (¬ _))

/-- A stretch without separators is its only piece. -/
theorem pieces_of_not_mem {separator : Char} {stretch : List Char} (h : separator ∉ stretch) :
    pieces separator stretch = [stretch] := by
  induction stretch with
  | nil => rfl
  | cons c stretch ih =>
    obtain ⟨hc, hstretch⟩ := not_or.mp (mt List.mem_cons.mpr h)
    rw [pieces, if_neg (Ne.symm hc), ih hstretch]

/-- A stretch without separators that is followed by one is a piece. -/
theorem pieces_append_separator {separator : Char} {stretch : List Char} (rest : List Char)
    (h : separator ∉ stretch) :
    pieces separator (stretch ++ separator :: rest) = stretch :: pieces separator rest := by
  induction stretch with
  | nil => simp [pieces]
  | cons c stretch ih =>
    obtain ⟨hc, hstretch⟩ := not_or.mp (mt List.mem_cons.mpr h)
    rw [List.cons_append, pieces, if_neg (Ne.symm hc), ih hstretch]

/-- Stretches without separators that are joined with the separator are the pieces of the text that
they make up. -/
theorem pieces_intercalate {separator : Char} {stretches : List (List Char)}
    (nonempty : stretches ≠ []) (h : ∀ stretch ∈ stretches, separator ∉ stretch) :
    pieces separator ([separator].intercalate stretches) = stretches := by
  induction stretches with
  | nil => contradiction
  | cons stretch rest ih =>
    obtain ⟨hstretch, hrest⟩ := List.forall_mem_cons.mp h
    cases rest with
    | nil => rw [List.intercalate_singleton, pieces_of_not_mem hstretch]
    | cons next rest =>
      rw [List.intercalate_cons_cons, List.append_assoc, List.singleton_append,
        pieces_append_separator _ hstretch, ih (List.cons_ne_nil next rest) hrest]

/-- The parts are the stretches of a text between its separators, in order. -/
structure Stretches (separator : Char) (text : String) (parts : List String) : Prop where
  nonempty : parts ≠ []
  unseparated : ∀ part ∈ parts, separator ∉ part.toList
  joined : (String.singleton separator).intercalate parts = text

/-- The stretches of a text are its pieces, whatever they are. -/
theorem stretches_iff (separator : Char) (text : String) (parts : List String) :
    Stretches separator text parts ↔ parts = (pieces separator text.toList).map String.ofList := by
  have hjoined (parts : List String) : ((String.singleton separator).intercalate parts).toList =
      [separator].intercalate (parts.map String.toList) := by
    rw [String.toList_intercalate, String.toList_singleton]
  have hparts (cut : List (List Char)) : (cut.map String.ofList).map String.toList = cut := by
    simp [Function.comp_def]
  constructor
  · rintro ⟨nonempty, unseparated, rfl⟩
    have hunseparated : ∀ part ∈ parts.map String.toList, separator ∉ part := by
      simpa using unseparated
    rw [hjoined, pieces_intercalate (by simpa using nonempty) hunseparated]
    simp [Function.comp_def]
  · rintro rfl
    constructor
    · simp [pieces_ne_nil]
    · intro part hpart
      obtain ⟨piece, hpiece, rfl⟩ := List.mem_map.mp hpart
      rw [String.toList_ofList]
      exact separator_not_mem_piece hpiece
    · rw [← String.toList_inj, hjoined, hparts, intercalate_pieces]

/-- Texts that are ended one by one are the pieces of the text that they make up, and nothing comes
after the last end. -/
theorem pieces_flatten {texts : List (List Char)} (h : ∀ text ∈ texts, '\n' ∉ text) :
    pieces '\n' (texts.map fun text => text ++ ['\n']).flatten = texts ++ [[]] := by
  induction texts with
  | nil => rfl
  | cons text texts ih =>
    obtain ⟨htext, htexts⟩ := List.forall_mem_cons.mp h
    rw [List.map_cons, List.flatten_cons, List.append_assoc, List.singleton_append,
      pieces_append_separator _ htext, ih htexts, List.cons_append]

/-- Texts that are ended one by one are the lines of the text that they make up. -/
theorem lines_ofList {texts : List (List Char)} (h : ∀ text ∈ texts, '\n' ∉ text) :
    lines (String.ofList (texts.map fun text => text ++ ['\n']).flatten) = texts := by
  rw [lines, String.toList_ofList, pieces_flatten h, List.dropLast_concat]

/-! ## Cutting the right end off -/

/-- Blanks at the right end of a text do not change what is left of it. -/
theorem trimEnd_append_of_blank (text : List Char) {blanks : List Char}
    (h : ∀ c ∈ blanks, isBlank c = true) : trimEnd (text ++ blanks) = trimEnd text := by
  have hreverse : ∀ c ∈ blanks.reverse, isBlank c = true := fun c hc => h c (List.mem_reverse.mp hc)
  rw [trimEnd, List.reverse_append, List.dropWhile_append_of_pos hreverse, ← trimEnd]

/-! ## Texts without blanks -/

/-- A text without blanks. -/
def Unbroken (text : String) : Prop := ∀ c ∈ text.toList, isBlank c = false

instance (text : String) : Decidable (Unbroken text) := List.decidableBAll _ _

/-- A line end is a blank. -/
theorem Unbroken.oneLine {text : String} (h : Unbroken text) : OneLine text :=
  fun hmem => absurd (h '\n' hmem) (by decide)

/-- A text without blanks at the right end is not cut off. -/
theorem trimEnd_append_unbroken (front : List Char) {text : String} (h : Unbroken text)
    (nonempty : text.toList ≠ []) : trimEnd (front ++ text.toList) = front ++ text.toList := by
  refine trimEnd_eq_self fun c hc => ?_
  rw [List.getLast?_append, List.getLast?_eq_some_getLast nonempty, Option.some_or] at hc
  obtain rfl := Option.some.inj hc
  exact h _ (List.getLast_mem nonempty)

/-- A text with a suffix is not empty. -/
theorem toList_append_ne_nil (text : String) {suffix : String} (h : suffix.toList ≠ []) :
    (text ++ suffix).toList ≠ [] := by
  rw [String.toList_append]
  exact List.append_ne_nil_of_right_ne_nil _ h

theorem unbroken_append {left right : String} (hleft : Unbroken left) (hright : Unbroken right) :
    Unbroken (left ++ right) := by
  intro c hc
  rw [String.toList_append] at hc
  exact (List.mem_append.mp hc).elim (hleft c) (hright c)

theorem unbroken_ite {condition : Prop} [Decidable condition] {left right : String}
    (hleft : Unbroken left) (hright : Unbroken right) :
    Unbroken (if condition then left else right) := by
  split
  · exact hleft
  · exact hright

theorem toList_pushn (text : String) (c : Char) (count : Nat) :
    (text.pushn c count).toList = text.toList ++ List.replicate count c := by
  rw [String.pushn_eq_repeat_push]
  induction count with
  | zero => simp [Nat.repeat]
  | succ count ih =>
    rw [Nat.repeat, String.toList_push, ih, List.append_assoc, ← List.replicate_succ']

/-! ## Numbers -/

/-- A digit is no blank. -/
theorem isBlank_of_isDigit {c : Char} (h : c.isDigit = true) : isBlank c = false := by
  have hdigit : 48 ≤ c.toNat ∧ c.toNat ≤ 57 := by
    simpa [Char.isDigit, UInt32.le_iff_toNat_le] using h
  simp only [isBlank, Bool.or_eq_false_iff, Bool.and_eq_false_iff, decide_eq_false_iff_not,
    beq_eq_false_iff_ne]
  omega

theorem isBlank_toDigits {n : Nat} {c : Char} (h : c ∈ Nat.toDigits 10 n) : isBlank c = false :=
  isBlank_of_isDigit (Nat.isDigit_of_mem_toDigits (by decide) (by decide) h)

theorem isBlank_fixedDigits {scaled places : Nat} {c : Char}
    (h : c ∈ Binary64.fixedDigits scaled places) : isBlank c = false := by
  unfold Binary64.fixedDigits at h
  rcases List.mem_append.mp h with hwhole | hplaces
  · exact isBlank_toDigits hwhole
  · split at hplaces
    · cases hplaces
    · rcases List.mem_cons.mp hplaces with rfl | hdigits
      · rfl
      · exact isBlank_of_isDigit (Binary64.isDigit_of_mem_lastDigits hdigits)

/-- The decimal text of an integer has no blanks. -/
theorem unbroken_decimal (n : Int) : Unbroken (decimal n) := by
  intro c hc
  rw [decimal, Json.integerText, String.toList_ofList] at hc
  rcases List.mem_append.mp hc with hsign | hdigits
  · split at hsign
    · rw [List.mem_singleton.mp hsign]
      rfl
    · cases hsign
  · exact isBlank_toDigits hdigits

/-- A number with fixed decimal places has no blanks, also if it is none or infinite. -/
theorem unbroken_fixed (places : Nat) (x : Binary64) : Unbroken (x.fixed places) := by
  cases x with
  | nan =>
    show Unbroken "NaN"
    decide
  | infinite negative =>
    show Unbroken (if negative then "-Inf" else "+Inf")
    exact unbroken_ite (by decide) (by decide)
  | finite negative units magnitude =>
    intro c hc
    rw [Binary64.fixed, String.toList_ofList] at hc
    rcases List.mem_append.mp hc with hsign | hdigits
    · rw [Binary64.signText] at hsign
      split at hsign
      · rw [List.mem_singleton.mp hsign]
        rfl
      · cases hsign
    · exact isBlank_fixedDigits hdigits

/-! ## Moments -/

section Moments

open Time.Moment

theorem unbroken_zeroPadded (width n : Nat) : Unbroken (zeroPadded width n) := by
  intro c hc
  rw [zeroPadded, String.toList_append, toList_pushn, String.toList_empty, List.nil_append] at hc
  rcases List.mem_append.mp hc with hzeros | hdigits
  · rw [List.eq_of_mem_replicate hzeros]
    rfl
  · rw [Nat.toString_eq_ofList_toDigits, String.toList_ofList] at hdigits
    exact isBlank_toDigits hdigits

theorem unbroken_yearText (year : Int) : Unbroken (yearText year) :=
  unbroken_ite (unbroken_zeroPadded _ _)
    (unbroken_append (unbroken_ite (by decide) (by decide)) (unbroken_zeroPadded _ _))

theorem unbroken_offsetText (offset : Int) : Unbroken (offsetText offset) := by
  have hsign : Unbroken (if offset < 0 then "-" else "+") := unbroken_ite (by decide) (by decide)
  have hhours := unbroken_append hsign (unbroken_zeroPadded 2 ((offset.natAbs + 30) / 60 / 60))
  exact unbroken_ite (by decide)
    (unbroken_append (unbroken_append hhours (by decide)) (unbroken_zeroPadded _ _))

/-- The text of a moment has no blanks. -/
theorem unbroken_moment (moment : Time.Moment) : Unbroken moment.text := by
  have hyear := unbroken_append (unbroken_yearText moment.date.year) (by decide : Unbroken "-")
  have hmonth := unbroken_append hyear (unbroken_zeroPadded 2 moment.date.month)
  have hdate : Unbroken moment.dateText :=
    unbroken_append (unbroken_append hmonth (by decide)) (unbroken_zeroPadded _ _)
  have hhour := unbroken_append (unbroken_zeroPadded 2 (moment.secondOfDay / 3600))
    (by decide : Unbroken ":")
  have hminute := unbroken_append hhour (unbroken_zeroPadded 2 (moment.secondOfDay / 60 % 60))
  have htime : Unbroken moment.timeText :=
    unbroken_append (unbroken_append hminute (by decide)) (unbroken_zeroPadded _ _)
  exact unbroken_append (unbroken_append (unbroken_append hdate (by decide)) htime)
    (unbroken_offsetText _)

end Moments

end LoadWatch.Text
