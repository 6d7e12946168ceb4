/-
  Text/CommaList.lean --- lists written with commas.

  The items of a list are its comma-free pieces without the blanks around them;
  a piece of blanks only is no item.

  Main properties: an item contains no comma (`comma_not_mem_item`) and is never
  empty (`item_ne_nil`).
-/
import LoadWatch.Text.Blank
import LoadWatch.Text.Pieces

set_option autoImplicit false

namespace LoadWatch.Text

/-- The items of a comma separated list, as characters. -/
def commaItems (text : List Char) : List (List Char) :=
  ((pieces ',' text).map trim).filter fun item => !item.isEmpty

/-- The items of a comma separated list. -/
def commaList (text : String) : List String :=
  (commaItems text.toList).map String.ofList

/-- No item is empty. -/
theorem item_ne_nil {text item : List Char} (h : item ∈ commaItems text) : item ≠ [] := by
  have := (List.mem_filter.1 h).2
  rintro rfl
  simp at this

/-- No item contains a comma. -/
theorem comma_not_mem_item {text item : List Char} (h : item ∈ commaItems text) :
    ',' ∉ item := by
  obtain ⟨piece, hp, rfl⟩ := List.mem_map.1 (List.mem_filter.1 h).1
  intro hc
  refine separator_not_mem_piece hp ?_
  have hs : ',' ∈ trimStart piece := by
    obtain ⟨blanks, he, -⟩ := trimEnd_append_blanks (trimStart piece)
    rw [he]
    exact List.mem_append_left _ hc
  exact (List.dropWhile_suffix isBlank).subset hs

end LoadWatch.Text
