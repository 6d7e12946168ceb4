/-
  Json/StringText.lean --- how JSON strings are written and read.

  Between its quotes a string is written character by character; only the
  quote, the backslash and the control characters are escaped.  Reading accepts
  every escape of the format: the short ones, and code units in hexadecimal
  digits, where a character beyond the basic plane is a pair of surrogates.

  Main property: reading undoes writing (`readString_stringText`), whatever
  follows the closing quote.
-/

set_option autoImplicit false

namespace LoadWatch.Json

/-! ## Writing -/

/-- A control character as the hexadecimal digits of its code unit. -/
def unitEscape (c : Char) : List Char :=
  ['\\', 'u', '0', '0', Nat.digitChar (c.toNat / 16), Nat.digitChar (c.toNat % 16)]

/-- How a character is written inside a string. -/
def characterText (c : Char) : List Char :=
  if c = '"' then ['\\', '"']
  else if c = '\\' then ['\\', '\\']
  else if c.toNat < 0x20 then
    if c = '\n' then ['\\', 'n']
    else if c = '\r' then ['\\', 'r']
    else if c = '\t' then ['\\', 't']
    else if c = '\x08' then ['\\', 'b']
    else if c = '\x0c' then ['\\', 'f']
    else unitEscape c
  else [c]

/-- A string in quotes. -/
def stringText (text : List Char) : List Char :=
  '"' :: (text.flatMap characterText ++ ['"'])

/-! ## Reading -/

/-- The character of a short escape. -/
def shortEscape? (c : Char) : Option Char :=
  if c = '"' then some '"'
  else if c = '\\' then some '\\'
  else if c = '/' then some '/'
  else if c = 'b' then some '\x08'
  else if c = 'f' then some '\x0c'
  else if c = 'n' then some '\n'
  else if c = 'r' then some '\r'
  else if c = 't' then some '\t'
  else none

/-- The value of a hexadecimal digit. -/
def hexDigit? (c : Char) : Option Nat :=
  if c.isDigit then some (c.toNat - '0'.toNat)
  else if 'a' ≤ c ∧ c ≤ 'f' then some (c.toNat - 'a'.toNat + 10)
  else if 'A' ≤ c ∧ c ≤ 'F' then some (c.toNat - 'A'.toNat + 10)
  else none

/-- Reads the four digits of a code unit. -/
def readCodeUnit : List Char → Option (Nat × List Char)
  | a :: b :: c :: d :: rest =>
    match hexDigit? a, hexDigit? b, hexDigit? c, hexDigit? d with
    | some a, some b, some c, some d => some (((a * 16 + b) * 16 + c) * 16 + d, rest)
    | _, _, _, _ => none
  | _ => none

/-- Reads the second half of a surrogate pair whose first half was `high`. -/
def readLowSurrogate (high : Nat) : List Char → Option (Char × List Char)
  | '\\' :: 'u' :: digits =>
    match readCodeUnit digits with
    | some (low, rest) =>
      if 0xDC00 ≤ low ∧ low ≤ 0xDFFF then
        some (Char.ofNat (0x10000 + (high - 0xD800) * 0x400 + (low - 0xDC00)), rest)
      else none
    | none => none
  | _ => none

/-- Reads an escape after its backslash. A surrogate without its other half is refused. -/
def readEscape : List Char → Option (Char × List Char)
  | [] => none
  | c :: rest =>
    match shortEscape? c with
    | some plain => some (plain, rest)
    | none =>
      if c = 'u' then
        match readCodeUnit rest with
        | some (unit, after) =>
          if 0xD800 ≤ unit ∧ unit ≤ 0xDBFF then readLowSurrogate unit after
          else if 0xDC00 ≤ unit ∧ unit ≤ 0xDFFF then none
          else some (Char.ofNat unit, after)
        | none => none
      else none

theorem length_readCodeUnit {text rest : List Char} {unit : Nat}
    (h : readCodeUnit text = some (unit, rest)) : rest.length < text.length := by
  unfold readCodeUnit at h
  split at h
  · split at h
    · simp only [Option.some.injEq, Prod.mk.injEq] at h
      obtain ⟨-, rfl⟩ := h
      simp only [List.length_cons]
      omega
    · contradiction
  · contradiction

theorem length_readLowSurrogate {high : Nat} {text rest : List Char} {c : Char}
    (h : readLowSurrogate high text = some (c, rest)) : rest.length < text.length := by
  unfold readLowSurrogate at h
  split at h
  · split at h
    · rename_i hu
      split at h
      · simp only [Option.some.injEq, Prod.mk.injEq] at h
        obtain ⟨-, rfl⟩ := h
        have := length_readCodeUnit hu
        simp only [List.length_cons]
        omega
      · contradiction
    · contradiction
  · contradiction

/-- An escape is at least one character long. -/
theorem length_readEscape {text rest : List Char} {c : Char}
    (h : readEscape text = some (c, rest)) : rest.length < text.length := by
  unfold readEscape at h
  split at h
  · contradiction
  · split at h
    · simp only [Option.some.injEq, Prod.mk.injEq] at h
      obtain ⟨-, rfl⟩ := h
      simp
    · split at h
      · split at h
        · rename_i hu
          have hlen := length_readCodeUnit hu
          split at h
          · have := length_readLowSurrogate h
            simp only [List.length_cons]
            omega
          · split at h
            · contradiction
            · simp only [Option.some.injEq, Prod.mk.injEq] at h
              obtain ⟨-, rfl⟩ := h
              simp only [List.length_cons]
              omega
        · contradiction
      · contradiction

/-- Reads a string after its opening quote: its text, and what follows the closing quote. A
control character inside a string is refused. -/
def readString (text : List Char) : Option (List Char × List Char) :=
  match text with
  | [] => none
  | c :: rest =>
    if c = '"' then some ([], rest)
    else if c = '\\' then
      match _read : readEscape rest with
      | some (escaped, after) =>
        (readString after).map fun result => (escaped :: result.1, result.2)
      | none => none
    else if c.toNat < 0x20 then none
    else (readString rest).map fun result => (c :: result.1, result.2)
termination_by text.length
decreasing_by
  · have := length_readEscape _read
    simp only [List.length_cons]
    omega
  · simp

/-- What follows the closing quote is shorter than the text that was read. -/
theorem length_readString {text content rest : List Char}
    (h : readString text = some (content, rest)) : rest.length < text.length := by
  fun_induction readString text generalizing content rest with
  | case1 => contradiction
  | case2 after =>
    simp only [Option.some.injEq, Prod.mk.injEq] at h
    obtain ⟨-, rfl⟩ := h
    simp
  | case3 after escaped rest' hread hc ih =>
    obtain ⟨⟨content', rest''⟩, hr, he⟩ := Option.map_eq_some_iff.1 h
    obtain ⟨rfl, rfl⟩ := Prod.mk.inj he
    have := ih hr
    have := length_readEscape hread
    simp only [List.length_cons]
    omega
  | case4 => contradiction
  | case5 => contradiction
  | case6 c after hquote hslash hcontrol ih =>
    obtain ⟨⟨content', rest''⟩, hr, he⟩ := Option.map_eq_some_iff.1 h
    obtain ⟨rfl, rfl⟩ := Prod.mk.inj he
    have := ih hr
    simp only [List.length_cons]
    omega

/-! ## Reading undoes writing -/

theorem hexDigit?_digitChar : ∀ n : Fin 16, hexDigit? (Nat.digitChar n) = some n.val := by
  decide

/-- The escape of a control character reads back. -/
theorem readEscape_unitEscape {c : Char} (h : c.toNat < 0x20) (rest : List Char) :
    readEscape ((unitEscape c).drop 1 ++ rest) = some (c, rest) := by
  have high := hexDigit?_digitChar ⟨c.toNat / 16, by omega⟩
  have low := hexDigit?_digitChar ⟨c.toNat % 16, by omega⟩
  have zero : hexDigit? '0' = some 0 := by decide
  have unit : readCodeUnit ('0' :: '0' :: Nat.digitChar (c.toNat / 16) ::
      Nat.digitChar (c.toNat % 16) :: rest) = some (c.toNat, rest) := by
    simp only [readCodeUnit, zero, high, low]
    congr 2
    omega
  have long : shortEscape? 'u' = none := by decide
  simp only [unitEscape, List.drop_succ_cons, List.drop_zero, List.cons_append, List.nil_append,
    readEscape, long, unit, if_true]
  rw [if_neg (by omega), if_neg (by omega), Char.ofNat_toNat]

/-- A written character reads back, whatever follows it. -/
theorem readString_characterText (c : Char) (rest : List Char) :
    readString (characterText c ++ rest) =
      (readString rest).map fun result => (c :: result.1, result.2) := by
  unfold characterText
  split
  · subst c; rw [List.cons_append, readString]; rfl
  · split
    · subst c; rw [List.cons_append, readString]; rfl
    · split
      · split
        · subst c; rw [List.cons_append, readString]; rfl
        · split
          · subst c; rw [List.cons_append, readString]; rfl
          · split
            · subst c; rw [List.cons_append, readString]; rfl
            · split
              · subst c; rw [List.cons_append, readString]; rfl
              · split
                · subst c; rw [List.cons_append, readString]; rfl
                · rename_i hcontrol _ _ _ _ _
                  have he := readEscape_unitEscape hcontrol rest
                  have hsplit : unitEscape c ++ rest =
                      '\\' :: ((unitEscape c).drop 1 ++ rest) := rfl
                  rw [hsplit, readString, if_neg (by decide), if_pos rfl]
                  split
                  · rename_i escaped after hread
                    rw [he] at hread
                    obtain ⟨rfl, rfl⟩ := Prod.mk.inj (Option.some.inj hread)
                    rfl
                  · rename_i hread
                    rw [he] at hread
                    contradiction
      · rename_i hquote hslash hcontrol
        rw [List.cons_append, List.nil_append, readString, if_neg hquote, if_neg hslash,
          if_neg hcontrol]

/-- Reading undoes writing, whatever follows the closing quote. -/
theorem readString_stringText (text rest : List Char) :
    readString ((stringText text).drop 1 ++ rest) = some (text, rest) := by
  induction text with
  | nil => simp [stringText, readString]
  | cons c text ih =>
    simp only [stringText, List.drop_succ_cons, List.drop_zero, List.flatMap_cons,
      List.append_assoc] at ih ⊢
    rw [readString_characterText, ih]
    rfl

end LoadWatch.Json
