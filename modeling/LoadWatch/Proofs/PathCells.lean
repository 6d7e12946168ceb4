/-
  Proofs/PathCells.lean --- what is shown for a path.

  WHAT THIS FILE IS FOR.  A column that is no column of the registry shows a
  field of the reply.  Its key is a path: keys with dots between them, which are
  followed from object to object (`Leads`), and at the end of which there is a
  document that is no container (`Resolves`).  Positions of arrays are no keys,
  and the empty key is one like any other.

  Here it is said for all paths and all replies what such a column shows
  (`TellsPath`): the field itself, or with one of two endings what has become of
  a number since the previous sample.  Only the end of the path is looked at for
  that; what stands before it is followed like any other path, even if it ends
  in the same way.  `INVALID` is shown exactly where there is nothing to show,
  or where a text that reads so is to be shown (`fieldText_eq_invalid_iff`).

  Main result: `path_tells`.
-/
import LoadWatch.Proofs.CellSafety
import LoadWatch.Proofs.Lines
import LoadWatch.ServerStatus.Path

set_option autoImplicit false

namespace LoadWatch

namespace Json

/-! ## Numbers are no words -/

/-- The word for what cannot be shown starts with a letter that no number has. -/
theorem capitalI_not_mem_toDigits (n : Nat) : 'I' ∉ Nat.toDigits 10 n :=
  fun h => absurd (Nat.isDigit_of_mem_toDigits (by decide) (by decide) h) (by decide)

theorem capitalI_not_mem_integerText (n : Int) : 'I' ∉ integerText n := by
  rw [integerText, List.mem_append, not_or]
  exact ⟨by split <;> decide, capitalI_not_mem_toDigits n.natAbs⟩

theorem capitalI_not_mem_pointForm {digits : List Char} (h : 'I' ∉ digits) (exponent lead : Int) :
    'I' ∉ pointForm digits exponent lead := by
  have htake (count : Nat) : 'I' ∉ digits.take count := fun hmem => h (List.mem_of_mem_take hmem)
  have hdrop (count : Nat) : 'I' ∉ digits.drop count := fun hmem => h (List.mem_of_mem_drop hmem)
  unfold pointForm
  split
  · simp [h]
  · split <;> simp [h, htake, hdrop]

theorem capitalI_not_mem_exponentForm {digits : List Char} (h : 'I' ∉ digits) (lead : Int) :
    'I' ∉ exponentForm digits lead := by
  have hmark : 'I' ∉ ['e', if lead < 0 then '-' else '+'] := by split <;> decide
  unfold exponentForm
  simp only [List.mem_append, not_or]
  refine ⟨⟨?_, hmark⟩, capitalI_not_mem_toDigits lead.natAbs⟩
  split <;> simp_all

theorem capitalI_not_mem_floatText (x : Binary64) : 'I' ∉ floatText x := by
  cases x with
  | nan | infinite => simp [floatText]
  | finite negative units =>
    have hmagnitude : 'I' ∉ magnitudeText units := by
      unfold magnitudeText
      split
      · decide
      · dsimp only
        split
        · exact capitalI_not_mem_pointForm (capitalI_not_mem_toDigits _) _ _
        · exact capitalI_not_mem_exponentForm (capitalI_not_mem_toDigits _) _
    rw [floatText, List.mem_append, not_or]
    exact ⟨by split <;> decide, hmagnitude⟩

theorem capitalI_not_mem_numberText (n : Number) : 'I' ∉ n.text := by
  cases n with
  | integer n => exact capitalI_not_mem_integerText n
  | float x => exact capitalI_not_mem_floatText x

end Json

theorem decimal_ne_invalid (n : Int) : decimal n ≠ ServerStatus.invalid := by
  intro h
  have hchars : Json.integerText n = ServerStatus.invalid.toList := by
    rw [← h, decimal, String.toList_ofList]
  exact Json.capitalI_not_mem_integerText n (hchars ▸ by decide)

namespace ServerStatus

open Json

/-! ## Paths -/

/-- The path consists of the keys, with a dot between each two of them. -/
structure Joins (path : String) (keys : List String) : Prop where
  nonempty : keys ≠ []
  dotless : ∀ key ∈ keys, '.' ∉ key.toList
  joined : ".".intercalate keys = path

/-- Keys of members lead from one document to another. Only objects have members. -/
inductive Leads : List String → Value → Value → Prop
  | here (value : Value) : Leads [] value value
  | member {key : String} {keys : List String} {members : List (String × Value)}
      {next value : Value} (found : Keyed.lookup key members = some next)
      (rest : Leads keys next value) : Leads (key :: keys) (.object members) value

/-- The document is neither an object nor an array. -/
structure IsLeaf (value : Value) : Prop where
  noObject : ∀ members, value ≠ .object members
  noArray : ∀ items, value ≠ .array items

/-- The path leads to a leaf of the reply. -/
def Resolves (reply : Value) (path : String) (leaf : Value) : Prop :=
  ∃ keys, Joins path keys ∧ Leads keys reply leaf ∧ IsLeaf leaf

theorem isLeaf_iff (value : Value) : IsLeaf value ↔ value.isContainer = false := by
  constructor
  · intro h
    cases value with
    | object members => exact absurd rfl (h.noObject members)
    | array items => exact absurd rfl (h.noArray items)
    | null | bool | number | string => rfl
  · intro h
    constructor
    · rintro members rfl
      cases h
    · rintro items rfl
      cases h

/-- A path has one list of keys. -/
theorem joins_iff (path : String) (keys : List String) :
    Joins path keys ↔ keys = pathKeys path.toList := by
  have hstretches : Joins path keys ↔ Text.Stretches '.' path keys :=
    ⟨fun h => ⟨h.nonempty, h.dotless, h.joined⟩, fun h => ⟨h.nonempty, h.unseparated, h.joined⟩⟩
  rw [hstretches, Text.stretches_iff, pathKeys]

theorem descend_eq_some_iff {keys : List String} {reply value : Value} :
    descend keys reply = some value ↔ Leads keys reply value := by
  constructor
  · intro h
    induction keys generalizing reply with
    | nil =>
      obtain rfl := Option.some.inj h
      exact .here reply
    | cons key keys ih =>
      obtain ⟨next, hnext, hrest⟩ := Option.bind_eq_some_iff.mp h
      cases reply with
      | object members => exact .member hnext (ih hrest)
      | null | bool | number | string | array => cases hnext
  · intro h
    induction h with
    | here value => rfl
    | member found rest ih => exact Option.bind_eq_some_iff.mpr ⟨_, found, ih⟩

/-- A path leads to one leaf or to none. -/
theorem field?_eq_some_iff {reply leaf : Value} {path : String} :
    field? reply path.toList = some leaf ↔ Resolves reply path leaf := by
  rw [field?, Option.filter_eq_some_iff, descend_eq_some_iff, Bool.not_eq_true', ← isLeaf_iff]
  constructor
  · rintro ⟨leads, isLeaf⟩
    exact ⟨_, (joins_iff path _).mpr rfl, leads, isLeaf⟩
  · rintro ⟨keys, joins, leads, isLeaf⟩
    obtain rfl := (joins_iff path keys).mp joins
    exact ⟨leads, isLeaf⟩

theorem Resolves.isLeaf {reply leaf : Value} {path : String} (h : Resolves reply path leaf) :
    IsLeaf leaf := by
  obtain ⟨_, _, _, isLeaf⟩ := h
  exact isLeaf

theorem Resolves.unique {reply leaf other : Value} {path : String} (h : Resolves reply path leaf)
    (hother : Resolves reply path other) : leaf = other :=
  Option.some.inj ((field?_eq_some_iff.mpr h).symm.trans (field?_eq_some_iff.mpr hother))

theorem number_of_counter? {reply : Value} {path : String} {n : Int}
    (h : counter? reply path.toList = some n) :
    ∃ number, Resolves reply path (.number number) ∧ n = number.toCounter := by
  obtain ⟨number, hnumber, hn⟩ := Option.map_eq_some_iff.mp h
  obtain ⟨leaf, hleaf, hnumber⟩ := Option.bind_eq_some_iff.mp hnumber
  cases leaf with
  | number other =>
    obtain rfl := Option.some.inj hnumber
    exact ⟨other, field?_eq_some_iff.mp hleaf, hn.symm⟩
  | null | bool | string | array | object => cases hnumber

theorem counter?_of_resolves {reply : Value} {path : String} {number : Number}
    (h : Resolves reply path (.number number)) :
    counter? reply path.toList = some number.toCounter := by
  rw [counter?, field?_eq_some_iff.mpr h]
  rfl

/-! ## Endings -/

theorem stripEnding?_eq_some_iff {ending text stem : List Char} :
    stripEnding? ending text = some stem ↔ text = stem ++ ending := by
  rw [stripEnding?]
  constructor
  · intro h
    split at h
    · rename_i hsuffix
      obtain ⟨front, rfl⟩ := List.isSuffixOf_iff_suffix.mp hsuffix
      obtain rfl := Option.some.inj h
      simp
    · cases h
  · rintro rfl
    simp

/-- No path has both endings. -/
theorem endings_differ (left right : List Char) :
    left ++ ".rate()".toList ≠ right ++ ".diff()".toList := by
  intro h
  have hends := List.append_inj_right' h (by decide)
  exact absurd hends (by decide)

/-! ## Cells of fields -/

/-- The text of a leaf: that of a string without quotes, and any other leaf as JSON. -/
inductive Spells : Value → String → Prop
  | text (text : String) : Spells (.string text) text
  | other {leaf : Value} (noText : ∀ text, leaf ≠ .string text) : Spells leaf leaf.render

theorem spells_fieldText (leaf : Value) : Spells leaf (fieldText leaf) := by
  cases leaf with
  | string text => exact .text text
  | null | bool | number | array | object => exact .other fun _ h => nomatch h

/-- No leaf but a string reads `INVALID`. -/
theorem fieldText_eq_invalid_iff {leaf : Value} (isLeaf : IsLeaf leaf) :
    fieldText leaf = invalid ↔ leaf = .string invalid := by
  have hword : 'I' ∈ invalid.toList := by decide
  constructor
  · intro h
    cases leaf with
    | string text => exact congrArg Value.string h
    | array items => exact absurd rfl (isLeaf.noArray items)
    | object members => exact absurd rfl (isLeaf.noObject members)
    | number n =>
      have hrender : fieldText (.number n) = String.ofList n.text := by
        simp [fieldText, Value.render, Value.chars, Value.tokens, Token.chars]
      have hchars : n.text = invalid.toList := by rw [← h, hrender, String.toList_ofList]
      exact absurd (hchars ▸ hword) (capitalI_not_mem_numberText n)
    | null => exact absurd h (by decide)
    | bool b => cases b <;> exact absurd h (by decide)
  · rintro rfl
    rfl

/-! ## Cells of comparisons -/

section Comparison

variable {path : String} {current previous : Sample} {combine : Int → Int → Int}

theorem comparison_of_numbers {now before : Number}
    (hnow : Resolves current.reply path (.number now))
    (hbefore : Resolves previous.reply path (.number before)) :
    comparison path.toList current previous combine =
      decimal (combine now.toCounter before.toCounter) := by
  rw [comparison, counter?_of_resolves hnow, counter?_of_resolves hbefore]

/-- A comparison needs a number in both samples. -/
theorem comparison_eq_invalid_iff : comparison path.toList current previous combine = invalid ↔
    ¬((∃ now, Resolves current.reply path (.number now)) ∧
      ∃ before, Resolves previous.reply path (.number before)) := by
  constructor
  · rintro h ⟨⟨now, hnow⟩, before, hbefore⟩
    rw [comparison_of_numbers hnow hbefore] at h
    exact decimal_ne_invalid _ h
  · intro h
    rw [comparison]
    split
    · rename_i now before hnow hbefore
      obtain ⟨current, hcurrent, -⟩ := number_of_counter? hnow
      obtain ⟨previous, hprevious, -⟩ := number_of_counter? hbefore
      exact absurd ⟨⟨current, hcurrent⟩, previous, hprevious⟩ h
    · rfl

end Comparison

/-- A counter of 64 bits is compared as it is. -/
theorem toCounter_integer {n : Int} (h : FitsInt64 n) : (Number.integer n).toCounter = n := if_pos h

section Endings

variable (stem : String) (current previous : Sample)

theorem pathCell_difference : pathCell (stem ++ ".diff()") current previous =
    comparison stem.toList current previous change := by
  have hstrip : stripEnding? ".diff()".toList (stem ++ ".diff()").toList = some stem.toList :=
    stripEnding?_eq_some_iff.mpr String.toList_append
  rw [pathCell, hstrip]

theorem pathCell_rate : pathCell (stem ++ ".rate()") current previous =
    comparison stem.toList current previous fun now before =>
      rate now before (sampleSeconds current previous) := by
  have hstrip : stripEnding? ".rate()".toList (stem ++ ".rate()").toList = some stem.toList :=
    stripEnding?_eq_some_iff.mpr String.toList_append
  have hother : stripEnding? ".diff()".toList (stem ++ ".rate()").toList = none := by
    refine Option.eq_none_iff_forall_not_mem.mpr fun other hmem => ?_
    rw [Option.mem_def, stripEnding?_eq_some_iff, String.toList_append] at hmem
    exact endings_differ stem.toList other hmem
  rw [pathCell, hother, hstrip]

end Endings

/-- The path ends in none of the two ways that compare the samples. -/
structure Plain (path : String) : Prop where
  noDifference : ∀ stem, path ≠ stem ++ ".diff()"
  noRate : ∀ stem, path ≠ stem ++ ".rate()"

theorem Plain.pathCell_eq {path : String} (h : Plain path) (current previous : Sample) :
    pathCell path current previous =
      ((field? current.reply path.toList).map fieldText).getD invalid := by
  have hnone {ending : String} (hne : ∀ stem, path ≠ stem ++ ending) :
      stripEnding? ending.toList path.toList = none := by
    refine Option.eq_none_iff_forall_not_mem.mpr fun stem hmem => ?_
    refine hne (String.ofList stem) (String.toList_inj.mp ?_)
    rw [stripEnding?_eq_some_iff.mp hmem, String.toList_append, String.toList_ofList]
  rw [pathCell, hnone h.noDifference, hnone h.noRate]

/-- `INVALID` is shown for a path without an ending only if there is nothing else to show. -/
theorem Plain.pathCell_eq_invalid_iff {path : String} {current previous : Sample}
    (h : Plain path) : pathCell path current previous = invalid ↔
      (¬∃ leaf, Resolves current.reply path leaf) ∨
        Resolves current.reply path (.string invalid) := by
  rw [h.pathCell_eq]
  cases hfield : field? current.reply path.toList with
  | none =>
    have hnone : ¬∃ leaf, Resolves current.reply path leaf := by
      rintro ⟨leaf, resolves⟩
      rw [field?_eq_some_iff.mpr resolves] at hfield
      cases hfield
    exact iff_of_true rfl (.inl hnone)
  | some leaf =>
    -- There is a leaf, and no two of them: the text is its own.
    have resolves := field?_eq_some_iff.mp hfield
    have hword := fieldText_eq_invalid_iff resolves.isLeaf
    constructor
    · intro htext
      exact .inr (hword.mp htext ▸ resolves)
    · rintro (hnone | hinvalid)
      · exact absurd ⟨leaf, resolves⟩ hnone
      · exact hword.mpr (resolves.unique hinvalid)

/-! ## The main theorem -/

/-- The path leads to a counter in each of the samples, and 64 bits hold the difference of the
two. -/
structure Counts (path : String) (current previous : Sample) (now before : Int) : Prop where
  resolvesNow : Resolves current.reply path (.number (.integer now))
  resolvesBefore : Resolves previous.reply path (.number (.integer before))
  fitsNow : FitsInt64 now
  fitsBefore : FitsInt64 before
  fitsDifference : FitsInt64 (now - before)

theorem Counts.comparison_eq {path : String} {current previous : Sample} {now before : Int}
    (h : Counts path current previous now before) (combine : Int → Int → Int) :
    comparison path.toList current previous combine = decimal (combine now before) := by
  rw [comparison_of_numbers h.resolvesNow h.resolvesBefore, toCounter_integer h.fitsNow,
    toCounter_integer h.fitsBefore]

theorem Counts.comparison_swapped {path : String} {current previous : Sample} {now before : Int}
    (h : Counts path current previous now before) (combine : Int → Int → Int) :
    comparison path.toList previous current combine = decimal (combine before now) := by
  rw [comparison_of_numbers h.resolvesBefore h.resolvesNow, toCounter_integer h.fitsBefore,
    toCounter_integer h.fitsNow]

/-- What the column of a path shows. -/
structure TellsPath (path : String) (current previous : Sample) : Prop where
  /-- A path is followed at every dot, through members of objects only, and up to a leaf. -/
  followed : ∀ reply leaf, field? reply path.toList = some leaf ↔ Resolves reply path leaf
  /-- Without an ending the leaf of the current sample is shown. -/
  shown : Plain path → ∀ leaf, Resolves current.reply path leaf →
    Spells leaf (pathCell path current previous)
  /-- `INVALID` is shown if there is none, and otherwise only for a text that reads so. -/
  missing : Plain path → (pathCell path current previous = "INVALID" ↔
    (¬∃ leaf, Resolves current.reply path leaf) ∨
      Resolves current.reply path (.string "INVALID"))
  /-- With an ending `INVALID` is shown unless the rest of the path leads to a number in both
  samples. -/
  incomparable : ∀ stem, path = stem ++ ".diff()" ∨ path = stem ++ ".rate()" →
    (pathCell path current previous = "INVALID" ↔
      ¬((∃ now, Resolves current.reply stem (.number now)) ∧
        ∃ before, Resolves previous.reply stem (.number before)))
  /-- The difference of counters is exact. -/
  difference : ∀ stem, path = stem ++ ".diff()" → ∀ now before,
    Counts stem current previous now before →
      pathCell path current previous = decimal (now - before)
  /-- It changes its sign when the samples change places, which among 64-bit integers leaves the
  smallest one as it is. -/
  swapped : ∀ stem, path = stem ++ ".diff()" → ∀ now before,
    Counts stem current previous now before → pathCell path previous current =
      decimal (if now - before = minInt64 then minInt64 else -(now - before))
  /-- The rate of counters is that of the columns of the registry. -/
  perSecond : ∀ stem, path = stem ++ ".rate()" → ∀ now before,
    Counts stem current previous now before →
      pathCell path current previous = decimal (rate now before (sampleSeconds current previous))
  /-- Nothing happens per second as long as no whole millisecond has passed. -/
  stopped : ∀ stem, path = stem ++ ".rate()" → ∀ now before : Number,
    Resolves current.reply stem (.number now) → Resolves previous.reply stem (.number before) →
    (current.time.since previous.time).millis ≤ 0 → pathCell path current previous = "0"

/-- Every path tells what it leads to. -/
theorem path_tells (path : String) (current previous : Sample) :
    TellsPath path current previous where
  followed _ _ := field?_eq_some_iff
  shown plain leaf resolves := by
    rw [plain.pathCell_eq, field?_eq_some_iff.mpr resolves]
    exact spells_fieldText leaf
  missing plain := plain.pathCell_eq_invalid_iff
  incomparable stem hpath := by
    rcases hpath with rfl | rfl
    · rw [pathCell_difference]
      exact comparison_eq_invalid_iff
    · rw [pathCell_rate]
      exact comparison_eq_invalid_iff
  difference stem hpath _ _ counts := by
    rw [hpath, pathCell_difference, counts.comparison_eq, change_eq_sub counts.fitsDifference]
  swapped stem hpath now before counts := by
    rw [hpath, pathCell_difference, counts.comparison_swapped, change, ← Int.neg_sub,
      wrapInt64_neg counts.fitsDifference]
  perSecond stem hpath _ _ counts := by
    rw [hpath, pathCell_rate, counts.comparison_eq]
  stopped stem hpath now before hnow hbefore hmillis := by
    rw [hpath, pathCell_rate, comparison_of_numbers hnow hbefore, rate_of_no_time hmillis]
    rfl

/-- A member that is named like an ending cannot be asked for. -/
example :
    let sample : Sample := ⟨⟨0, 0⟩, 0, {}, .object [("x", .object [("diff()", .ofInt 5)])]⟩
    pathCell "x.diff()" sample sample = "INVALID" := by decide

end ServerStatus

end LoadWatch
