/-
  Text/Blank.lean --- blanks, and cutting them off.

  A blank is a character with the Unicode property `White_Space`.  `trim`
  removes blanks from both ends of a text, `trimEnd` from its right end only.

  Main properties: a trimmed text starts and ends with no blank
  (`head?_trimStart_not_blank`, `getLast?_trimEnd_not_blank`), and a text that
  ends with no blank keeps its right end (`trimEnd_eq_self`).
-/

set_option autoImplicit false

namespace LoadWatch.Text

/-- The characters with the Unicode property `White_Space`. -/
def isBlank (c : Char) : Bool :=
  let n := c.toNat
  (0x09 ≤ n && n ≤ 0x0D) || n == 0x20 || n == 0x85 || n == 0xA0 || n == 0x1680 ||
    (0x2000 ≤ n && n ≤ 0x200A) || n == 0x2028 || n == 0x2029 || n == 0x202F ||
    n == 0x205F || n == 0x3000

/-- The text without the blanks at its left end. -/
def trimStart (text : List Char) : List Char := text.dropWhile isBlank

/-- The text without the blanks at its right end. -/
def trimEnd (text : List Char) : List Char := (text.reverse.dropWhile isBlank).reverse

/-- The text without the blanks at both ends. -/
def trim (text : List Char) : List Char := trimEnd (trimStart text)

/-- A text cut at its left end does not start with a blank. -/
theorem head?_trimStart_not_blank {text : List Char} {c : Char}
    (h : (trimStart text).head? = some c) : isBlank c = false := by
  have := List.head?_dropWhile_not isBlank text
  rw [← trimStart, h] at this
  simpa using this

/-- A text cut at its right end does not end with a blank. -/
theorem getLast?_trimEnd_not_blank {text : List Char} {c : Char}
    (h : (trimEnd text).getLast? = some c) : isBlank c = false := by
  rw [trimEnd, List.getLast?_reverse] at h
  have := List.head?_dropWhile_not isBlank text.reverse
  rw [h] at this
  simpa using this

/-- A text that does not end with a blank is not changed by cutting its right end. -/
theorem trimEnd_eq_self {text : List Char}
    (h : ∀ c, text.getLast? = some c → isBlank c = false) : trimEnd text = text := by
  cases hr : text.reverse with
  | nil => simp_all [trimEnd]
  | cons c rest =>
    have last : text.getLast? = some c := by
      rw [← List.head?_reverse, hr]; rfl
    have keep : (c :: rest).dropWhile isBlank = c :: rest := by
      simp [h c last]
    rw [trimEnd, hr, keep, ← hr, List.reverse_reverse]

/-- What is cut off at the right end is blank. -/
theorem trimEnd_append_blanks (text : List Char) :
    ∃ blanks, text = trimEnd text ++ blanks ∧ ∀ c ∈ blanks, isBlank c = true := by
  refine ⟨(text.reverse.takeWhile isBlank).reverse, ?_, ?_⟩
  · rw [trimEnd, ← List.reverse_append, List.takeWhile_append_dropWhile, List.reverse_reverse]
  · intro c hc
    rw [List.mem_reverse] at hc
    exact List.all_eq_true.1 List.all_takeWhile c hc

end LoadWatch.Text
