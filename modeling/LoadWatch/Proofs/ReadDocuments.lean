/-
  Proofs/ReadDocuments.lean --- what comes out of reading a text.

  WHAT THIS FILE IS FOR.  A text can spell a document in many ways: with its
  members in any order, some of them twice, and with numbers of any length.  The
  document that is read is canonical all the same (`canonical_of_ofText?`): the
  members of its objects are in the order of their keys, with no key twice, and
  its integers fit 64 bits.

  The integers are already checked when the text is taken apart into tokens
  (`canonical_of_scan`).  The rest is an invariant of the reader: one token keeps
  everything canonical that was read so far (`Reader.canonical_step`), and so do
  all tokens of a text (`Reader.canonical_run`).

  A number can be spelled in many ways, too.  One without any digit but zeros is
  read as zero, with or without a sign, places and an exponent
  (`ofText?_zeros`), since scaling by a power of ten that is finite does not
  change it (`scaleByTen?_zero`).

  Main results: `canonical_of_ofText?`, `Number.isZero_iff` and `ofText?_zeros`.
-/
import LoadWatch.Proofs.Documents
import LoadWatch.Proofs.NumberLine

set_option autoImplicit false

namespace LoadWatch.Json

/-! ## Numbers -/

/-- A significand is one of 64 bits. -/
theorem takeDigits_lt {significand : Nat} (h : significand < wordCount) (digits : List Char) :
    (takeDigits significand digits).1 < wordCount := by
  fun_induction takeDigits significand digits with
  | case1 significand => exact h
  | case2 significand digit rest next hlt ih => exact ih hlt
  | case3 significand digit rest next hge => exact h

/-- An integer that is read fits 64 bits. -/
theorem fits_of_value? {numeral : Numeral} {k : Int} (h : numeral.value? = some (.integer k)) :
    minInt64 ≤ k ∧ k < wordCount := by
  have hhead := takeDigits_lt (show 0 < wordCount by decide) numeral.whole
  unfold Numeral.value? at h
  generalize takeDigits 0 numeral.whole = taken at h hhead
  obtain ⟨head, left⟩ := taken
  dsimp only at h hhead
  split at h
  · split at h
    · obtain rfl := Number.integer.inj (Option.some.inj h)
      unfold minInt64
      omega
    · split at h
      · cases Option.some.inj h
      · rename_i small
        obtain rfl := Number.integer.inj (Option.some.inj h)
        simp only [Bool.or_eq_true, decide_eq_true_eq, not_or] at small
        unfold maxInt64 at small
        unfold minInt64 wordCount
        omega
  · -- What has a point or an exponent is a float, and so is what 64 bits do not hold.
    obtain ⟨_, -, hfloat⟩ := Option.map_eq_some_iff.mp h
    cases hfloat

theorem canonical_of_ofWord? {word : List Char} {n : Number}
    (h : Token.ofWord? word = some (.number n)) : (Value.number n).Canonical := by
  unfold Token.ofWord? at h
  split at h
  · cases h
  split at h
  · cases h
  split at h
  · cases h
  obtain ⟨number, hnumber, heq⟩ := Option.map_eq_some_iff.mp h
  obtain rfl := Token.number.inj heq
  cases number with
  | float x => trivial
  | integer k =>
    unfold Number.ofText? at hnumber
    split at hnumber
    · exact fits_of_value? hnumber
    · cases hnumber

theorem ofMark?_ne_number {c : Char} {n : Number} : Token.ofMark? c ≠ some (.number n) := by
  unfold Token.ofMark?
  repeat' split
  all_goals exact nofun

/-- The integers among the tokens of a text fit 64 bits. -/
theorem canonical_of_scan {text : List Char} {tokens : List Token}
    (h : Token.scan text = some tokens) {n : Number} (hmem : .number n ∈ tokens) :
    (Value.number n).Canonical := by
  fun_induction Token.scan text generalizing tokens with
  | case1 =>
    obtain rfl := Option.some.inj h
    cases hmem
  | case2 c rest hspace ih => exact ih h hmem
  | case3 c rest hspace mark hmark ih =>
    obtain ⟨others, hothers, rfl⟩ := Option.map_eq_some_iff.mp h
    rcases List.mem_cons.mp hmem with rfl | hmem
    · exact absurd hmark ofMark?_ne_number
    · exact ih hothers hmem
  | case4 rest content after hread hspace hmark ih =>
    obtain ⟨others, hothers, rfl⟩ := Option.map_eq_some_iff.mp h
    rcases List.mem_cons.mp hmem with heq | hmem
    · cases heq
    · exact ih hothers hmem
  | case6 c rest hspace hmark hquote word hword ih =>
    obtain ⟨others, hothers, rfl⟩ := Option.map_eq_some_iff.mp h
    rcases List.mem_cons.mp hmem with rfl | hmem
    · exact canonical_of_ofWord? hword
    · exact ih hothers hmem
  | case5 | case7 => cases h

/-! ## Documents -/

theorem canonical_ofMembers {members : List (String × Value)}
    (h : ∀ member ∈ members, member.2.Canonical) : (Value.ofMembers members).Canonical :=
  Value.canonical_object_iff.mpr
    ⟨Keyed.ascending_ofPairs members, fun member hmem => h member (Keyed.mem_of_mem_ofPairs hmem)⟩

/-- What was read into an open container is canonical. -/
def Frame.Canonical : Frame → Prop
  | .element before => ∀ value ∈ before, value.Canonical
  | .member before _ => ∀ member ∈ before, member.2.Canonical

/-- What a reader has read is canonical. -/
def Reader.Canonical : Reader → Prop
  | .document stack | .firstElement stack | .firstKey stack => ∀ frame ∈ stack, frame.Canonical
  | .nextKey stack before | .colon stack before _ =>
    (∀ frame ∈ stack, frame.Canonical) ∧ ∀ member ∈ before, member.2.Canonical
  | .complete stack value => (∀ frame ∈ stack, frame.Canonical) ∧ value.Canonical

namespace Reader

variable {limit : Nat} {token : Token} {next : Reader}

theorem canonical_start (limit : Nat) {stack : List Frame}
    (hstack : ∀ frame ∈ stack, frame.Canonical)
    (hnumber : ∀ n, token = .number n → (Value.number n).Canonical)
    (h : start limit stack token = some next) : next.Canonical := by
  cases token with
  | null | bool _ | string _ =>
    obtain rfl := Option.some.inj h
    exact ⟨hstack, trivial⟩
  | number n =>
    obtain rfl := Option.some.inj h
    exact ⟨hstack, hnumber n rfl⟩
  | openArray | openObject =>
    rw [start] at h
    split at h
    · obtain rfl := Option.some.inj h
      exact hstack
    · cases h
  | closeArray | closeObject | comma | colon => cases h

theorem canonical_proceed {stack : List Frame} {value : Value}
    (hstack : ∀ frame ∈ stack, frame.Canonical) (hvalue : value.Canonical)
    (h : proceed value stack token = some next) : next.Canonical := by
  unfold proceed at h
  split at h
  · rename_i before stack
    obtain ⟨hframe, hrest⟩ := List.forall_mem_cons.mp hstack
    obtain rfl := Option.some.inj h
    exact List.forall_mem_cons.mpr ⟨List.forall_mem_cons.mpr ⟨hvalue, hframe⟩, hrest⟩
  · rename_i before stack
    obtain ⟨hframe, hrest⟩ := List.forall_mem_cons.mp hstack
    obtain rfl := Option.some.inj h
    refine ⟨hrest, Value.canonical_array_iff.mpr fun item hitem => ?_⟩
    exact List.forall_mem_cons.mpr ⟨hvalue, hframe⟩ item (List.mem_reverse.mp hitem)
  · rename_i before key stack
    obtain ⟨hframe, hrest⟩ := List.forall_mem_cons.mp hstack
    obtain rfl := Option.some.inj h
    exact ⟨hrest, List.forall_mem_cons.mpr ⟨hvalue, hframe⟩⟩
  · rename_i before key stack
    obtain ⟨hframe, hrest⟩ := List.forall_mem_cons.mp hstack
    obtain rfl := Option.some.inj h
    refine ⟨hrest, canonical_ofMembers fun member hmember => ?_⟩
    rcases List.mem_cons.mp (List.mem_reverse.mp hmember) with rfl | hmember
    · exact hvalue
    · exact hframe member hmember
  · cases h

/-- A token keeps it so. -/
theorem canonical_step {reader : Reader} (canonical : reader.Canonical)
    (hnumber : ∀ n, token = .number n → (Value.number n).Canonical)
    (h : step limit reader token = some next) : next.Canonical := by
  cases reader with
  | document stack => exact canonical_start limit canonical hnumber h
  | firstElement stack =>
    have hstack : ∀ frame ∈ .element [] :: stack, frame.Canonical :=
      List.forall_mem_cons.mpr ⟨nofun, canonical⟩
    cases token with
    | closeArray =>
      obtain rfl := Option.some.inj h
      exact ⟨canonical, trivial⟩
    | _ => exact canonical_start limit hstack hnumber h
  | firstKey stack =>
    cases token with
    | closeObject =>
      obtain rfl := Option.some.inj h
      exact ⟨canonical, List.Pairwise.nil, trivial⟩
    | string text =>
      obtain rfl := Option.some.inj h
      exact ⟨canonical, nofun⟩
    | _ => cases h
  | nextKey stack before =>
    cases token with
    | string text =>
      obtain rfl := Option.some.inj h
      exact canonical
    | _ => cases h
  | colon stack before key =>
    cases token with
    | colon =>
      obtain rfl := Option.some.inj h
      exact List.forall_mem_cons.mpr ⟨canonical.2, canonical.1⟩
    | _ => cases h
  | complete stack value => exact canonical_proceed canonical.1 canonical.2 h

/-- All tokens of a list keep it so. -/
theorem canonical_run {reader : Reader} {tokens : List Token} (canonical : reader.Canonical)
    (hnumbers : ∀ n, .number n ∈ tokens → (Value.number n).Canonical)
    (h : run limit reader tokens = some next) : next.Canonical := by
  induction tokens generalizing reader with
  | nil =>
    obtain rfl := Option.some.inj h
    exact canonical
  | cons token tokens ih =>
    rw [run] at h
    split at h
    · rename_i following hstep
      refine ih ?_ (fun n hmem => hnumbers n (List.mem_cons_of_mem _ hmem)) h
      exact canonical_step canonical (fun n hn => hnumbers n (hn ▸ List.mem_cons_self)) hstep
    · cases h

end Reader

/-- A document that is read has its members in the order of their keys, and its integers fit 64
bits. -/
theorem canonical_of_ofText? {text : String} {value : Value} (h : Value.ofText? text = some value) :
    value.Canonical := by
  unfold Value.ofText? Value.ofTextWithin? at h
  split at h
  · rename_i tokens hscan
    split at h
    · rename_i reader hrun
      have hreader : reader.Canonical := Reader.canonical_run
        (show Reader.Canonical (.document []) from nofun)
        (fun n hmem => canonical_of_scan hscan hmem) hrun
      unfold Reader.result? at h
      split at h
      · obtain rfl := Option.some.inj h
        exact hreader.2
      · cases h
    · cases h
  · cases h

/-! ## Zero -/

section Zero

open Binary64 (zero unitsPerOne roundUnits IsMagnitude)

attribute [local instance (2000)] instPowNat

/-- A number is taken for zero exactly if its value is zero. -/
theorem Number.isZero_iff (n : Number) : n.isZero = true ↔ n.toBinary64.value? = some 0 := by
  rw [← Binary64.position?_eq_zero_iff]
  cases n with
  | integer k => simp [isZero, toBinary64, Binary64.position?_ofInt_eq_zero_iff]
  | float x => simp [isZero, toBinary64]

/-- Smaller powers of ten are finite if a larger one is. -/
theorem roundUnits_ten_pow_lt {k n : Nat}
    (hn : roundUnits (10 ^ n * unitsPerOne) 1 < Binary64.limit) (hk : k ≤ n) :
    roundUnits (10 ^ k * unitsPerOne) 1 < Binary64.limit := by
  have hpow : 10 ^ k ≤ 10 ^ n := Nat.pow_le_pow_right (by decide) hk
  exact Nat.lt_of_le_of_lt (Binary64.roundUnits_mono 1 (Nat.mul_le_mul_right _ hpow)) hn

/-- Powers of ten up to 10^308 are finite. -/
theorem tenTo_eq_finite {exponent : Nat} (h : exponent ≤ 308) : ∃ units magnitude,
    tenTo exponent = .finite false units magnitude ∧ 0 < units := by
  have hpos : 0 < 10 ^ exponent * unitsPerOne :=
    Nat.mul_pos (Nat.pow_pos (by decide)) Binary64.unitsPerOne_pos
  have hlast : roundUnits (10 ^ (308 : Nat) * unitsPerOne) 1 < Binary64.limit := by decide +kernel
  have hlt := roundUnits_ten_pow_lt hlast h
  have hunits := Binary64.le_roundUnits_mul Nat.one_pos hpos
  refine ⟨_, Binary64.isMagnitude_roundUnits hlt, ?_, by omega⟩
  have hlarge : ¬ (400 < (exponent : Int)) := by omega
  have hsmall : ¬ ((exponent : Int) < -(400 + (Nat.log2 1 : Int))) := by omega
  have hsign : 0 ≤ (exponent : Int) := by omega
  rw [tenTo, Binary64.ofScientific, if_neg Nat.one_ne_zero, if_neg hlarge, if_neg hsmall,
    if_pos hsign, Int.toNat_natCast, Nat.one_mul, Binary64.ofRatio, dif_pos hlt]

theorem zero_mul_finite {units : Nat} {magnitude : IsMagnitude units} :
    zero false * .finite false units magnitude = zero false := by
  rw [zero, Binary64.finite_mul_finite, Nat.zero_mul]
  exact Binary64.ofRatio_zero false _

theorem zero_div_finite {units : Nat} {magnitude : IsMagnitude units} (hpos : 0 < units) :
    zero false / .finite false units magnitude = zero false := by
  rw [zero, Binary64.finite_div_finite hpos, Nat.zero_mul]
  exact Binary64.ofRatio_zero false _

theorem zero_div_tenTo {exponent : Nat} (h : exponent ≤ 308) :
    zero false / tenTo exponent = zero false := by
  obtain ⟨units, magnitude, heq, hpos⟩ := tenTo_eq_finite h
  rw [heq, zero_div_finite hpos]

theorem ofNat_zero : Binary64.ofNat 0 = zero false :=
  (Binary64.ofInt_natCast 0).symm.trans Binary64.ofInt_zero

/-- However it is scaled, zero remains zero. -/
theorem scaleByTen?_zero (exponent : Int) : scaleByTen? 0 exponent = some (zero false) := by
  unfold scaleByTen?
  rw [ofNat_zero]
  dsimp only
  split
  · rfl
  split
  · obtain ⟨units, magnitude, heq, hpos⟩ :=
      tenTo_eq_finite (show exponent.toNat ≤ 308 by omega)
    rw [heq, zero_mul_finite]
    rfl
  split
  · rw [zero_div_tenTo (by omega)]
  split
  · rw [zero_div_tenTo (Nat.le_refl 308), zero_div_tenTo (by omega)]
  · rfl

theorem takeDigits_zeros {digits : List Char} (h : ∀ c ∈ digits, c = '0') :
    takeDigits 0 digits = (0, []) := by
  induction digits with
  | nil => rfl
  | cons digit digits ih =>
    obtain ⟨rfl, hdigits⟩ := List.forall_mem_cons.mp h
    exact ih hdigits

/-- A number without any digit but zeros is read as zero, whatever its sign, its places and its
exponent. -/
theorem ofText?_zeros {word : List Char} {numeral : Numeral}
    (h : Numeral.ofText? word = some numeral) (whole : ∀ c ∈ numeral.whole, c = '0')
    (fraction : ∀ c ∈ numeral.fraction, c = '0') :
    ∃ n, Number.ofText? word = some n ∧ n.toBinary64.value? = some 0 := by
  have hsigned : ∀ x : Binary64, x = zero false →
      (if numeral.negative then -x else x).value? = some 0 := by
    rintro x rfl
    cases numeral.negative with
    | true => exact Binary64.value?_zero true
    | false => exact Binary64.value?_zero false
  rw [Number.ofText?, h]
  dsimp only
  unfold Numeral.value?
  rw [takeDigits_zeros whole]
  dsimp only
  split
  · split
    · refine ⟨_, rfl, ?_⟩
      rw [Number.toBinary64, Int.natCast_zero, Binary64.ofInt_zero, Binary64.value?_zero]
    · exact ⟨_, rfl, hsigned _ ofNat_zero⟩
  · rw [takeDigits_zeros fraction, scaleByTen?_zero]
    exact ⟨_, rfl, hsigned _ rfl⟩

end Zero

end LoadWatch.Json
