/-
  Proofs/WrittenTokens.lean --- reading the tokens that were written.

  WHAT THIS FILE IS FOR.  A document is written as a row of tokens without any
  blank between them.  Here such a row is scanned back into the same tokens
  (`Row.scans`).

  A mark and a string say themselves where they end, so that anything may follow
  them.  A word, which is a literal or a number, ends where no character of a
  word follows.  So rows of tokens can be put together unless a word would come
  to stand before another one (`Row`).

  Floats are left out: what is read from the shortest digits of a float need not
  be that float.  An integer that 64 bits hold is read back from its digits
  (`ofText?_integerText`).

  Nothing is written with a control character, since strings escape them
  (`Row.printable`).

  Main results: `ofText?_integerText`, `Row.scans` and `Row.printable`.
-/
import Mathlib.Data.List.Basic
import Mathlib.Data.List.TakeWhile
import LoadWatch.Json.Token

set_option autoImplicit false

namespace LoadWatch.Json

/-! ## Integers -/

theorem toDigits_of_ten_le {n : Nat} (h : 10 ≤ n) :
    Nat.toDigits 10 n = Nat.toDigits 10 (n / 10) ++ [Nat.digitChar (n % 10)] :=
  Nat.toDigits_of_base_le (by decide) h

/-- The first digit of a number other than zero is none. -/
theorem head?_toDigits_ne_zero {n : Nat} (h : 0 < n) :
    (Nat.toDigits 10 n).head? ≠ some '0' := by
  induction n using Nat.strongRecOn with
  | ind n ih =>
    by_cases hdigit : n < 10
    · rw [Nat.toDigits_of_lt_base hdigit]
      simp
      omega
    · rw [toDigits_of_ten_le (by omega), List.head?_append_of_ne_nil _ Nat.toDigits_ne_nil]
      exact ih (n / 10) (by omega) (by omega)

/-- A number has no leading zeros, so that its digits may stand before a point. -/
theorem isWhole_toDigits (n : Nat) : isWhole (Nat.toDigits 10 n) = true := by
  by_cases hdigit : n < 10
  · rw [Nat.toDigits_of_lt_base hdigit]
    rfl
  · have hfirst := head?_toDigits_ne_zero (n := n) (by omega)
    cases hdigits : Nat.toDigits 10 n with
    | nil => exact absurd hdigits Nat.toDigits_ne_nil
    | cons first others =>
      rw [hdigits] at hfirst
      cases others with
      | nil => rfl
      | cons second others => simpa [isWhole] using hfirst

/-- Further digits do not make a number smaller. -/
theorem le_ofDigitChars (digits : List Char) (significand : Nat) :
    significand ≤ Nat.ofDigitChars 10 digits significand := by
  induction digits generalizing significand with
  | nil => exact Nat.le_refl significand
  | cons digit digits ih =>
    rw [Nat.ofDigitChars_cons]
    have := ih (10 * significand + (digit.toNat - '0'.toNat))
    omega

/-- All digits are taken into the significand if 64 bits hold the number. -/
theorem takeDigits_eq {digits : List Char} {significand : Nat}
    (h : Nat.ofDigitChars 10 digits significand < wordCount) :
    takeDigits significand digits = (Nat.ofDigitChars 10 digits significand, []) := by
  induction digits generalizing significand with
  | nil => rfl
  | cons digit digits ih =>
    rw [Nat.ofDigitChars_cons, Nat.mul_comm 10] at h ⊢
    have hnext : significand * 10 + (digit.toNat - '0'.toNat) < wordCount :=
      Nat.lt_of_le_of_lt (le_ofDigitChars digits _) h
    rw [takeDigits]
    simp only [hnext, if_true]
    exact ih h

/-- The parts of the text of an integer are its sign and its digits. -/
theorem numeral_integerText (n : Int) : Numeral.ofText? (integerText n) =
    some ⟨decide (n < 0), Nat.toDigits 10 n.natAbs, [], false, 0⟩ := by
  have hall : ∀ c ∈ Nat.toDigits 10 n.natAbs, c.isDigit = true := by
    intro c hc
    exact Nat.isDigit_of_mem_toDigits (by decide) (by decide) hc
  have htake : (Nat.toDigits 10 n.natAbs).takeWhile Char.isDigit = Nat.toDigits 10 n.natAbs :=
    List.takeWhile_eq_self_iff.mpr hall
  have hdrop : (Nat.toDigits 10 n.natAbs).dropWhile Char.isDigit = [] :=
    List.dropWhile_eq_nil_iff.mpr hall
  unfold integerText Numeral.ofText?
  split
  rename_i negative unsigned hsign
  have hparts : negative = decide (n < 0) ∧ unsigned = Nat.toDigits 10 n.natAbs := by
    split at hsign
    · rename_i rest htext
      obtain ⟨rfl, rfl⟩ := Prod.mk.inj hsign
      by_cases hnegative : n < 0
      · rw [if_pos hnegative] at htext
        exact ⟨(decide_eq_true hnegative).symm, (List.cons.inj htext).2.symm⟩
      · rw [if_neg hnegative, List.nil_append] at htext
        exact absurd (hall '-' (by rw [htext]; exact List.mem_cons_self)) (by decide)
    · rename_i hplain
      obtain ⟨rfl, rfl⟩ := Prod.mk.inj hsign
      by_cases hnegative : n < 0
      · rw [if_pos hnegative] at hplain
        exact absurd rfl (hplain _)
      · rw [if_neg hnegative]
        exact ⟨(decide_eq_false hnegative).symm, rfl⟩
  obtain ⟨rfl, rfl⟩ := hparts
  simp [htake, hdrop, isWhole_toDigits, readExponentPart]

/-- An integer that 64 bits hold, with a sign or without, is read back from its text. -/
theorem ofText?_integerText {n : Int} (low : minInt64 ≤ n) (high : n < wordCount) :
    Number.ofText? (integerText n) = some (.integer n) := by
  unfold minInt64 at low
  unfold wordCount at high
  have hvalue : Nat.ofDigitChars 10 (Nat.toDigits 10 n.natAbs) 0 = n.natAbs :=
    Nat.ofDigitChars_ten_toDigits
  have hdigits : takeDigits 0 (Nat.toDigits 10 n.natAbs) = (n.natAbs, []) := by
    rw [takeDigits_eq, hvalue]
    rw [hvalue, wordCount]
    omega
  rw [Number.ofText?, numeral_integerText]
  simp only [Numeral.value?, hdigits, Bool.not_false, List.isEmpty_nil, Bool.and_self, if_true]
  by_cases hnegative : n < 0
  · have hfits : ¬(decide (n.natAbs = 0) || decide (maxInt64 + 1 < (n.natAbs : Int))) = true := by
      rw [Bool.or_eq_true, decide_eq_true_iff, decide_eq_true_iff, maxInt64]
      omega
    rw [decide_eq_true hnegative, if_neg (by decide), if_neg hfits]
    congr
    omega
  · rw [decide_eq_false hnegative, Bool.not_false, if_pos rfl]
    congr
    omega

/-! ## Words -/

namespace Token

/-- The token is a word, so that its text could go on. -/
def isWord : Token → Bool
  | .null => true
  | .bool _ => true
  | .number _ => true
  | _ => false

/-- The token can be read back from its text: it is no float, and 64 bits hold an integer. -/
def Readable : Token → Prop
  | .number (.integer n) => minInt64 ≤ n ∧ n < wordCount
  | .number (.float _) => False
  | _ => True

/-- No word goes on at the start of a text. -/
def EndsWord (text : List Char) : Prop := ∀ c ∈ text.head?, isWordPart c = false

/-- A part of a word is neither a blank nor a mark nor a quote. -/
theorem not_mark_of_isWordPart {c : Char} (h : isWordPart c = true) :
    isSpace c = false ∧ ofMark? c = none ∧ c ≠ '"' := by
  have hne : ∀ other, isWordPart other = false → c ≠ other := by
    rintro other hother rfl
    rw [h] at hother
    cases hother
  refine ⟨?_, ?_, hne '"' (by decide)⟩
  · simp [isSpace, hne ' ' (by decide), hne '\n' (by decide), hne '\r' (by decide),
      hne '\t' (by decide)]
  · simp [ofMark?, hne '[' (by decide), hne ']' (by decide), hne '\x7b' (by decide),
      hne '\x7d' (by decide), hne ',' (by decide), hne ':' (by decide)]

/-- A word is scanned as its token if it goes on to where it ends. -/
theorem scan_word {c : Char} {letters rest : List Char} {token : Token}
    (parts : ∀ part ∈ c :: letters, isWordPart part = true)
    (h : ofWord? (c :: letters) = some token) (ends : EndsWord rest) :
    scan (c :: letters ++ rest) = (scan rest).map (token :: ·) := by
  obtain ⟨hfirst, hletters⟩ := List.forall_mem_cons.mp parts
  obtain ⟨hspace, hmark, hquote⟩ := not_mark_of_isWordPart hfirst
  have htake : rest.takeWhile isWordPart = [] := by
    cases rest with
    | nil => rfl
    | cons d rest => simp [ends d rfl]
  have hdrop : rest.dropWhile isWordPart = rest := by
    cases rest with
    | nil => rfl
    | cons d rest => simp [ends d rfl]
  rw [List.cons_append, scan]
  simp only [hspace, hmark, hquote, Bool.false_eq_true, if_false]
  rw [List.takeWhile_append_of_pos hletters, List.dropWhile_append_of_pos hletters, htake, hdrop,
    List.append_nil, h]

theorem isWordPart_of_isDigit {c : Char} (h : c.isDigit = true) : isWordPart c = true := by
  simp [isWordPart, Char.isAlphanum, h]

/-- The text of an integer is one word. -/
theorem isWordPart_integerText {n : Int} {c : Char} (h : c ∈ integerText n) :
    isWordPart c = true := by
  rw [integerText] at h
  rcases List.mem_append.mp h with hsign | hdigits
  · split at hsign
    · rw [List.mem_singleton.mp hsign]
      rfl
    · cases hsign
  · exact isWordPart_of_isDigit (Nat.isDigit_of_mem_toDigits (by decide) (by decide) hdigits)

/-- The text of an integer starts with a digit or a sign, and so it is no literal. -/
theorem head?_integerText (n : Int) :
    ∃ c letters, integerText n = c :: letters ∧ (c.isDigit = true ∨ c = '-') := by
  by_cases hnegative : n < 0
  · exact ⟨'-', Nat.toDigits 10 n.natAbs, by simp [integerText, hnegative], .inr rfl⟩
  · cases hdigits : Nat.toDigits 10 n.natAbs with
    | nil => exact absurd hdigits Nat.toDigits_ne_nil
    | cons c letters =>
      refine ⟨c, letters, by simp [integerText, hnegative, hdigits], .inl ?_⟩
      have hmem : c ∈ Nat.toDigits 10 n.natAbs := by
        rw [hdigits]
        exact List.mem_cons_self
      exact Nat.isDigit_of_mem_toDigits (by decide) (by decide) hmem

/-- The word of an integer is a number. -/
theorem ofWord?_integerText {n : Int} (low : minInt64 ≤ n) (high : n < wordCount) :
    ofWord? (integerText n) = some (.number (.integer n)) := by
  obtain ⟨c, letters, htext, hfirst⟩ := head?_integerText n
  have hne : ∀ letter rest, letter.isDigit = false → letter ≠ '-' →
      integerText n ≠ letter :: rest := by
    intro letter rest hdigit hsign h
    rw [htext] at h
    obtain ⟨rfl, -⟩ := List.cons.inj h
    rcases hfirst with hfirst | hfirst
    · rw [hdigit] at hfirst
      cases hfirst
    · exact hsign hfirst
  rw [ofWord?, if_neg (hne _ _ (by decide) (by decide)), if_neg (hne _ _ (by decide) (by decide)),
    if_neg (hne _ _ (by decide) (by decide)), ofText?_integerText low high]
  rfl

/-! ## Rows of tokens -/

/-- The text of a row of tokens is scanned as these tokens, unless a word goes on after it. -/
def Scans (tokens : List Token) : Prop :=
  ∀ rest, EndsWord rest →
    scan (tokens.flatMap chars ++ rest) = (scan rest).map (tokens ++ ·)

/-- The text of the token says itself where it ends. -/
theorem scan_chars_of_not_word {token : Token} (h : token.isWord = false) (rest : List Char) :
    scan (token.chars ++ rest) = (scan rest).map (token :: ·) := by
  cases token with
  | openArray | closeArray | openObject | closeObject | comma | colon =>
    exact scan_mark rfl rfl rest
  | null | bool _ | number _ => cases h
  | string text => exact scan_string text rest

/-- The text of a readable word is scanned as its token. -/
theorem scan_chars_of_word {token : Token} (word : token.isWord = true) (readable : token.Readable)
    {rest : List Char} (ends : EndsWord rest) :
    scan (token.chars ++ rest) = (scan rest).map (token :: ·) := by
  cases token with
  | openArray | closeArray | openObject | closeObject | comma | colon | string _ => cases word
  | null => exact scan_word (List.all_eq_true.mp rfl) rfl ends
  | bool b =>
    cases b with
    | false => exact scan_word (List.all_eq_true.mp rfl) rfl ends
    | true => exact scan_word (List.all_eq_true.mp rfl) rfl ends
  | number n =>
    cases n with
    | float x => exact readable.elim
    | integer n =>
      obtain ⟨c, letters, htext, -⟩ := head?_integerText n
      have hword := ofWord?_integerText readable.1 readable.2
      have hparts : ∀ part ∈ integerText n, isWordPart part = true :=
        fun _ => isWordPart_integerText
      rw [htext] at hword hparts
      show scan (integerText n ++ rest) = _
      rw [htext]
      exact scan_word hparts hword ends

/-- A readable token by itself. -/
theorem scans_singleton {token : Token} (readable : token.Readable) : Scans [token] := by
  intro rest ends
  rw [List.flatMap_singleton]
  cases hword : token.isWord with
  | false => exact scan_chars_of_not_word hword rest
  | true => exact scan_chars_of_word hword readable ends

/-- A mark or a string may stand before any row of tokens. -/
theorem Scans.cons {token : Token} {tokens : List Token} (h : token.isWord = false)
    (scans : Scans tokens) : Scans (token :: tokens) := by
  intro rest ends
  rw [List.flatMap_cons, List.append_assoc, scan_chars_of_not_word h, scans rest ends,
    Option.map_map]
  rfl

/-- The first character of a mark or of a string is no part of a word. -/
theorem endsWord_of_not_word {token : Token} (h : token.isWord = false) (tokens : List Token)
    (rest : List Char) : EndsWord ((token :: tokens).flatMap chars ++ rest) := by
  intro c hc
  rw [List.flatMap_cons] at hc
  cases token with
  | openArray | closeArray | openObject | closeObject | comma | colon | string _ =>
    obtain rfl := Option.some.inj hc
    decide
  | null | bool _ | number _ => cases h

/-- A row of tokens starts with a mark or a string. -/
def StartsApart (tokens : List Token) : Prop :=
  ∃ token others, tokens = token :: others ∧ token.isWord = false

/-- A row that starts with a mark or a string may stand after any other row. -/
theorem Scans.append {left right : List Token} (hleft : Scans left) (apart : StartsApart right)
    (hright : Scans right) : Scans (left ++ right) := by
  obtain ⟨token, others, rfl, hword⟩ := apart
  intro rest ends
  rw [List.flatMap_append, List.append_assoc, hleft _ (endsWord_of_not_word hword others rest),
    hright rest ends, Option.map_map]
  congr 1
  funext tokens
  exact (List.append_assoc left (token :: others) tokens).symm

/-- A row of readable tokens in which no word comes to stand before another one. -/
inductive Row : List Token → Prop
  | single {token : Token} (readable : token.Readable) : Row [token]
  | mark {token : Token} {tokens : List Token} (h : token.isWord = false)
      (readable : token.Readable) (row : Row tokens) : Row (token :: tokens)
  | join {left right : List Token} (hleft : Row left) (apart : StartsApart right)
      (hright : Row right) : Row (left ++ right)

/-- The text of a row is scanned as the row. -/
theorem Row.scans {tokens : List Token} (h : Row tokens) : Scans tokens := by
  induction h with
  | single readable => exact scans_singleton readable
  | mark h _ _ ih => exact ih.cons h
  | join _ apart _ ihleft ihright => exact ihleft.append apart ihright

theorem Row.readable {tokens : List Token} (h : Row tokens) :
    ∀ token ∈ tokens, token.Readable := by
  induction h with
  | single readable => exact List.forall_mem_singleton.mpr readable
  | mark _ readable _ ih => exact List.forall_mem_cons.mpr ⟨readable, ih⟩
  | join _ _ _ ihleft ihright => exact List.forall_mem_append.mpr ⟨ihleft, ihright⟩

end Token

/-! ## Control characters -/

/-- A text without control characters. -/
def Printable (text : List Char) : Prop := ∀ c ∈ text, 0x20 ≤ c.toNat

instance (text : List Char) : Decidable (Printable text) := List.decidableBAll _ _

theorem printable_append {left right : List Char} (hleft : Printable left)
    (hright : Printable right) : Printable (left ++ right) := by
  intro c hc
  exact (List.mem_append.mp hc).elim (hleft c) (hright c)

theorem printable_flatMap {α : Type} {items : List α} {text : α → List Char}
    (h : ∀ item ∈ items, Printable (text item)) : Printable (items.flatMap text) := by
  intro c hc
  obtain ⟨item, hitem, hmem⟩ := List.mem_flatMap.mp hc
  exact h item hitem c hmem

theorem printable_digitChar (n : Nat) : 0x20 ≤ (Nat.digitChar n).toNat := by
  by_cases h : n < 16
  · have hdigits : ∀ digit : Fin 16, 0x20 ≤ (Nat.digitChar digit).toNat := by decide
    exact hdigits ⟨n, h⟩
  · rw [Nat.digitChar_eq_star.mpr (by omega)]
    decide

theorem printable_ite {condition : Prop} [Decidable condition] {left right : List Char}
    (hleft : Printable left) (hright : Printable right) :
    Printable (if condition then left else right) := by
  split
  · exact hleft
  · exact hright

theorem printable_unitEscape (c : Char) : Printable (unitEscape c) := by
  have hhigh := printable_digitChar (c.toNat / 16)
  have hlow := printable_digitChar (c.toNat % 16)
  rw [unitEscape]
  simp [Printable, hhigh, hlow]

/-- Inside of a string a control character is written with other characters. -/
theorem printable_characterText (c : Char) : Printable (characterText c) := by
  refine printable_ite (by decide) (printable_ite (by decide) ?_)
  split
  · have hescape := printable_unitEscape c
    exact printable_ite (by decide) (printable_ite (by decide) (printable_ite (by decide)
      (printable_ite (by decide) (printable_ite (by decide) hescape))))
  · rename_i hcontrol
    simpa [Printable] using hcontrol

theorem printable_stringText (text : List Char) : Printable (stringText text) := by
  have hinside : Printable (text.flatMap characterText) :=
    printable_flatMap fun c _ => printable_characterText c
  have hquote : Printable ['"'] := by decide
  exact printable_append hquote (printable_append hinside hquote)

theorem printable_integerText (n : Int) : Printable (integerText n) := by
  refine printable_append (printable_ite (by decide) (by decide)) ?_
  intro c hc
  have hdigit := Nat.isDigit_of_mem_toDigits (by decide) (by decide) hc
  simp only [Char.isDigit, Bool.and_eq_true, decide_eq_true_eq, UInt32.le_iff_toNat_le] at hdigit
  exact Nat.le_trans (by decide) hdigit.1

/-- A readable token is written without control characters. -/
theorem printable_chars {token : Token} (readable : token.Readable) : Printable token.chars := by
  cases token with
  | openArray | closeArray | openObject | closeObject | comma | colon | null => decide
  | bool b => cases b <;> decide
  | number n =>
    cases n with
    | float x => exact readable.elim
    | integer n => exact printable_integerText n
  | string text => exact printable_stringText text.toList

/-- A row of tokens is written without control characters. -/
theorem Token.Row.printable {tokens : List Token} (h : Row tokens) :
    Printable (tokens.flatMap chars) :=
  printable_flatMap fun token htoken => printable_chars (h.readable token htoken)

end LoadWatch.Json
