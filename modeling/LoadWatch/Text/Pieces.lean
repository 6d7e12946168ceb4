/-
  Text/Pieces.lean --- cutting a text at a separator.

  `pieces separator text` is the list of the maximal stretches of `text`
  without the separator, in order; empty stretches count.

  Main properties: no piece contains the separator (`separator_not_mem_piece`),
  and joining the pieces with the separator gives the text back
  (`intercalate_pieces`).
-/

set_option autoImplicit false

namespace LoadWatch.Text

/-- The stretches of a text between its separators. A text has at least one piece. -/
def pieces (separator : Char) : List Char → List (List Char)
  | [] => [[]]
  | c :: rest =>
    if c = separator then [] :: pieces separator rest
    else
      match pieces separator rest with
      | [] => [[c]]
      | piece :: others => (c :: piece) :: others

theorem pieces_ne_nil (separator : Char) (text : List Char) : pieces separator text ≠ [] := by
  cases text with
  | nil => simp [pieces]
  | cons c rest =>
    rw [pieces]
    split
    · simp
    · split <;> simp

/-- No piece contains the separator. -/
theorem separator_not_mem_piece {separator : Char} {text piece : List Char}
    (h : piece ∈ pieces separator text) : separator ∉ piece := by
  induction text generalizing piece with
  | nil => simp_all [pieces]
  | cons c rest ih =>
    rw [pieces] at h
    split at h
    · rcases List.mem_cons.1 h with rfl | h
      · simp
      · exact ih h
    · rename_i hc
      split at h
      · simp_all [Ne.symm hc]
      · rename_i first others heq
        rcases List.mem_cons.1 h with rfl | h
        · have := @ih first (by simp [heq])
          simp [this, Ne.symm hc]
        · exact ih (by simp [heq, h])

/-- Joining the pieces with the separator gives the text back. -/
theorem intercalate_pieces (separator : Char) (text : List Char) :
    [separator].intercalate (pieces separator text) = text := by
  induction text with
  | nil => rfl
  | cons c rest ih =>
    rw [pieces]
    cases hp : pieces separator rest with
    | nil => exact absurd hp (pieces_ne_nil separator rest)
    | cons piece others =>
      rw [hp] at ih
      split
      · rename_i hc
        subst hc
        simp_all [List.intercalate]
      · cases others <;> simp_all [List.intercalate]

end LoadWatch.Text
