/-
  Proofs/Documents.lean --- reading the documents that were written.

  WHAT THIS FILE IS FOR.  A document is written as the text of a row of tokens.
  Here that text is read back into the same document (`ofText?_render`).

  There are two steps, as in reading.  The tokens of a document are scanned back
  from their characters, since wherever one document ends inside of another one
  there is a mark (`row_tokens`).  And from the place where a document must
  start they take the reader to the place where the document is complete,
  whatever containers are open around it, as long as there is room for those of
  the document itself (`reads_tokens`).  Both are inductions over the document,
  with one over the rest of its items or members inside.

  What the text says is all of a document that has no floats, whose integers 64
  bits hold and whose members are in the order of their keys.

  Main results: `ofText?_render`, `render_injective` and `printable_render`.
-/
import LoadWatch.Json.Text
import LoadWatch.Proofs.Tables
import LoadWatch.Proofs.WrittenTokens

set_option autoImplicit false

namespace LoadWatch.Json

namespace Value

/-! ## Documents as trees -/

/-- What holds of a document if it holds of the documents in it holds of all of them. -/
@[elab_as_elim]
theorem inductionOn {motive : Value → Prop} (value : Value) (null : motive .null)
    (bool : ∀ b, motive (.bool b)) (number : ∀ n, motive (.number n))
    (string : ∀ text, motive (.string text))
    (array : ∀ items, (∀ item ∈ items, motive item) → motive (.array items))
    (object : ∀ members : List (String × Value), (∀ member ∈ members, motive member.2) →
      motive (.object members)) : motive value := by
  refine @Value.rec motive (fun items => ∀ item ∈ items, motive item)
    (fun members => ∀ member ∈ members, motive member.2) (fun member => motive member.2)
    null bool number string array object ?_ ?_ ?_ ?_ (fun _ _ h => h) value
  · exact fun _ h => absurd h List.not_mem_nil
  · exact fun _ _ hfirst hrest => List.forall_mem_cons.mpr ⟨hfirst, hrest⟩
  · exact fun _ h => absurd h List.not_mem_nil
  · exact fun _ _ hfirst hrest => List.forall_mem_cons.mpr ⟨hfirst, hrest⟩

/-- No number of the document is a float. -/
inductive FloatFree : Value → Prop
  | null : FloatFree .null
  | bool (b : Bool) : FloatFree (.bool b)
  | integer (n : Int) : FloatFree (.ofInt n)
  | string (text : String) : FloatFree (.string text)
  | array {items : List Value} (h : ∀ item ∈ items, FloatFree item) : FloatFree (.array items)
  | object {members : List (String × Value)} (h : ∀ member ∈ members, FloatFree member.2) :
      FloatFree (.object members)

theorem canonicalItems_iff {items : List Value} :
    CanonicalItems items ↔ ∀ item ∈ items, item.Canonical := by
  induction items with
  | nil => simp [CanonicalItems]
  | cons item items ih => simp [CanonicalItems, ih]

theorem canonicalMembers_iff {members : List (String × Value)} :
    CanonicalMembers members ↔ ∀ member ∈ members, member.2.Canonical := by
  induction members with
  | nil => simp [CanonicalMembers]
  | cons member members ih => simp [CanonicalMembers, ih]

theorem canonical_array_iff {items : List Value} :
    (Value.array items).Canonical ↔ ∀ item ∈ items, item.Canonical := by
  rw [Canonical, canonicalItems_iff]

theorem canonical_object_iff {members : List (String × Value)} :
    (Value.object members).Canonical ↔
      Keyed.Ascending members ∧ ∀ member ∈ members, member.2.Canonical := by
  rw [Canonical, canonicalMembers_iff]

/-- An array is one deeper than its items. -/
theorem depth_array_le_iff {items : List Value} {limit : Nat} :
    (Value.array items).depth ≤ limit + 1 ↔ ∀ item ∈ items, item.depth ≤ limit := by
  rw [depth, Nat.add_le_add_iff_right]
  induction items with
  | nil => simp [depthItems]
  | cons item items ih => rw [depthItems, Nat.max_le, ih, List.forall_mem_cons]

/-- An object is one deeper than its members. -/
theorem depth_object_le_iff {members : List (String × Value)} {limit : Nat} :
    (Value.object members).depth ≤ limit + 1 ↔ ∀ member ∈ members, member.2.depth ≤ limit := by
  rw [depth, Nat.add_le_add_iff_right]
  induction members with
  | nil => simp [depthMembers]
  | cons member members ih => rw [depthMembers, Nat.max_le, ih, List.forall_mem_cons]

theorem depth_item_lt {items : List Value} {item : Value} (h : item ∈ items) :
    item.depth < (Value.array items).depth :=
  Nat.lt_succ_of_le (depth_array_le_iff.mp (Nat.le_refl (depthItems items + 1)) item h)

theorem depth_member_lt {members : List (String × Value)} {member : String × Value}
    (h : member ∈ members) : member.2.depth < (Value.object members).depth :=
  Nat.lt_succ_of_le (depth_object_le_iff.mp (Nat.le_refl (depthMembers members + 1)) member h)

/-- The document can be written and read back: it has no floats, it is canonical, and its containers
are nested up to a limit. -/
structure Writable (limit : Nat) (document : Value) : Prop where
  floatFree : document.FloatFree
  canonical : document.Canonical
  depth : document.depth ≤ limit

theorem Writable.mono {limit bound : Nat} {document : Value} (h : document.Writable limit)
    (hle : limit ≤ bound) : document.Writable bound :=
  ⟨h.floatFree, h.canonical, Nat.le_trans h.depth hle⟩

theorem writable_string (limit : Nat) (text : String) : (Value.string text).Writable limit :=
  ⟨.string text, trivial, Nat.zero_le limit⟩

theorem writable_ofInt (limit : Nat) {n : Int} (h : FitsInt64 n) : (ofInt n).Writable limit := by
  refine ⟨.integer n, ⟨h.1, ?_⟩, Nat.zero_le limit⟩
  obtain ⟨-, high⟩ := h
  unfold maxInt64 at high
  unfold wordCount
  omega

/-- An array can be written if its items can. -/
theorem writable_array {limit : Nat} {items : List Value}
    (h : ∀ item ∈ items, item.Writable limit) : (Value.array items).Writable (limit + 1) where
  floatFree := .array fun item hitem => (h item hitem).floatFree
  canonical := canonical_array_iff.mpr fun item hitem => (h item hitem).canonical
  depth := depth_array_le_iff.mpr fun item hitem => (h item hitem).depth

/-- An object can be written if its members can, in the order of their keys. -/
theorem writable_object_iff {limit : Nat} {members : List (String × Value)} :
    (Value.object members).Writable (limit + 1) ↔
      Keyed.Ascending members ∧ ∀ member ∈ members, member.2.Writable limit := by
  constructor
  · rintro ⟨floatFree, canonical, depth⟩
    obtain ⟨ascending, hcanonical⟩ := canonical_object_iff.mp canonical
    cases floatFree with
    | object hfree =>
      refine ⟨ascending, fun member hmember => ?_⟩
      exact ⟨hfree member hmember, hcanonical member hmember,
        depth_object_le_iff.mp depth member hmember⟩
  · rintro ⟨ascending, h⟩
    refine ⟨.object fun member hmember => (h member hmember).floatFree, ?_, ?_⟩
    · exact canonical_object_iff.mpr
        ⟨ascending, fun member hmember => (h member hmember).canonical⟩
    · exact depth_object_le_iff.mpr fun member hmember => (h member hmember).depth

theorem writable_pair {limit : Nat} {first second : String} {left right : Value}
    (hlt : first < second) (hleft : left.Writable limit) (hright : right.Writable limit) :
    (Value.object [(first, left), (second, right)]).Writable (limit + 1) := by
  refine writable_object_iff.mpr ⟨List.pairwise_pair.mpr hlt, ?_⟩
  exact List.forall_mem_cons.mpr ⟨hleft, List.forall_mem_singleton.mpr hright⟩

/-! ## Scanning -/

section Scanning

open Token (Row StartsApart)

theorem startsApart_moreItemTokens (items : List Value) : StartsApart (moreItemTokens items) := by
  cases items with
  | nil => exact ⟨_, _, rfl, rfl⟩
  | cons item items => exact ⟨_, _, rfl, rfl⟩

theorem startsApart_moreMemberTokens (members : List (String × Value)) :
    StartsApart (moreMemberTokens members) := by
  cases members with
  | nil => exact ⟨_, _, rfl, rfl⟩
  | cons member members => exact ⟨_, _, rfl, rfl⟩

theorem row_moreItemTokens {items : List Value} (h : ∀ item ∈ items, Row item.tokens) :
    Row (moreItemTokens items) := by
  induction items with
  | nil => exact .single trivial
  | cons item items ih =>
    obtain ⟨hitem, hitems⟩ := List.forall_mem_cons.mp h
    exact .mark rfl trivial (.join hitem (startsApart_moreItemTokens items) (ih hitems))

theorem row_moreMemberTokens {members : List (String × Value)}
    (h : ∀ member ∈ members, Row member.2.tokens) : Row (moreMemberTokens members) := by
  induction members with
  | nil => exact .single trivial
  | cons member members ih =>
    obtain ⟨hmember, hmembers⟩ := List.forall_mem_cons.mp h
    have hvalue := Row.join hmember (startsApart_moreMemberTokens members) (ih hmembers)
    exact .mark rfl trivial (.mark rfl trivial (.mark rfl trivial hvalue))

/-- The tokens of a document can be scanned one by one. -/
theorem row_tokens {value : Value} (floatFree : value.FloatFree) (canonical : value.Canonical) :
    Row value.tokens := by
  induction floatFree with
  | null => exact .single trivial
  | bool b => exact .single trivial
  | integer n => exact .single canonical
  | string text => exact .single trivial
  | @array items _ ih =>
    have hitems : ∀ item ∈ items, Row item.tokens := by
      intro item hitem
      exact ih item hitem (canonical_array_iff.mp canonical item hitem)
    cases items with
    | nil => exact .mark rfl trivial (.single trivial)
    | cons item items =>
      obtain ⟨hitem, hitems⟩ := List.forall_mem_cons.mp hitems
      have hrest := row_moreItemTokens hitems
      exact .mark rfl trivial (.join hitem (startsApart_moreItemTokens items) hrest)
  | @object members _ ih =>
    have hmembers : ∀ member ∈ members, Row member.2.tokens := by
      intro member hmember
      exact ih member hmember ((canonical_object_iff.mp canonical).2 member hmember)
    cases members with
    | nil => exact .mark rfl trivial (.single trivial)
    | cons member members =>
      obtain ⟨hmember, hmembers⟩ := List.forall_mem_cons.mp hmembers
      have hrest := row_moreMemberTokens hmembers
      have hvalue := Row.join hmember (startsApart_moreMemberTokens members) hrest
      exact .mark rfl trivial (.mark rfl trivial (.mark rfl trivial hvalue))

end Scanning

/-! ## Reading -/

section Reading

variable {limit : Nat}

/-- The tokens of a document take the reader from its start to its end, if there is room for its
containers inside of those that are open. -/
def Reads (limit : Nat) (value : Value) : Prop :=
  ∀ (stack : List Frame) (rest : List Token), stack.length + value.depth ≤ limit →
    Reader.run limit (.document stack) (value.tokens ++ rest) =
      Reader.run limit (.complete stack value) rest

/-- Where an array may end, a document may start as well. -/
theorem run_firstElement (value : Value) (stack : List Frame) (rest : List Token) :
    Reader.run limit (.firstElement stack) (value.tokens ++ rest) =
      Reader.run limit (.document (.element [] :: stack)) (value.tokens ++ rest) := by
  cases value <;> rfl

/-- After an element of an array the others are read up to its end. -/
theorem run_moreItemTokens {items : List Value} (h : ∀ item ∈ items, Reads limit item)
    {stack : List Frame} (room : ∀ item ∈ items, stack.length + 1 + item.depth ≤ limit)
    (before : List Value) (value : Value) (rest : List Token) :
    Reader.run limit (.complete (.element before :: stack) value) (moreItemTokens items ++ rest) =
      Reader.run limit (.complete stack (.array ((value :: before).reverse ++ items))) rest := by
  induction items generalizing before value with
  | nil =>
    rw [List.append_nil]
    rfl
  | cons item items ih =>
    obtain ⟨hitem, hitems⟩ := List.forall_mem_cons.mp h
    obtain ⟨hroom, hrooms⟩ := List.forall_mem_cons.mp room
    have hread := hitem (.element (value :: before) :: stack) (moreItemTokens items ++ rest) hroom
    rw [moreItemTokens, List.cons_append, List.append_assoc]
    show Reader.run limit (.document (.element (value :: before) :: stack)) _ = _
    rw [hread, ih hitems hrooms, List.reverse_cons, List.append_assoc, List.singleton_append]

/-- After a member of an object the others are read up to its end. -/
theorem run_moreMemberTokens {members : List (String × Value)}
    (h : ∀ member ∈ members, Reads limit member.2) {stack : List Frame}
    (room : ∀ member ∈ members, stack.length + 1 + member.2.depth ≤ limit)
    (before : List (String × Value)) (key : String) (value : Value) (rest : List Token) :
    Reader.run limit (.complete (.member before key :: stack) value)
        (moreMemberTokens members ++ rest) =
      Reader.run limit (.complete stack
        (.ofMembers (((key, value) :: before).reverse ++ members))) rest := by
  induction members generalizing before key value with
  | nil =>
    rw [List.append_nil]
    rfl
  | cons member members ih =>
    obtain ⟨hmember, hmembers⟩ := List.forall_mem_cons.mp h
    obtain ⟨hroom, hrooms⟩ := List.forall_mem_cons.mp room
    have hread := hmember (.member ((key, value) :: before) member.1 :: stack)
      (moreMemberTokens members ++ rest) hroom
    rw [moreMemberTokens, List.cons_append, List.cons_append, List.cons_append, List.append_assoc]
    show Reader.run limit (.document (.member ((key, value) :: before) member.1 :: stack)) _ = _
    rw [hread, ih hmembers hrooms, List.reverse_cons, List.append_assoc, List.singleton_append]

/-- The tokens of a document are read as the document. -/
theorem reads_tokens {value : Value} (canonical : value.Canonical) : Reads limit value := by
  induction value using inductionOn with
  | null => exact fun _ _ _ => rfl
  | bool b => exact fun _ _ _ => rfl
  | number n => exact fun _ _ _ => rfl
  | string text => exact fun _ _ _ => rfl
  | array items ih =>
    intro stack rest room
    have hopen : stack.length < limit := by
      rw [depth] at room
      omega
    have hitems : ∀ item ∈ items, Reads limit item := by
      intro item hitem
      exact ih item hitem (canonical_array_iff.mp canonical item hitem)
    have hroom : ∀ item ∈ items, stack.length + 1 + item.depth ≤ limit := by
      intro item hitem
      have := depth_item_lt hitem
      omega
    rw [tokens, List.cons_append, Reader.run]
    simp only [Reader.step, Reader.start, hopen, if_true]
    cases items with
    | nil => rfl
    | cons item items =>
      obtain ⟨hread, hreads⟩ := List.forall_mem_cons.mp hitems
      obtain ⟨hfirst, hothers⟩ := List.forall_mem_cons.mp hroom
      rw [firstItemTokens, List.append_assoc, run_firstElement,
        hread (.element [] :: stack) _ hfirst, run_moreItemTokens hreads hothers]
      rfl
  | object members ih =>
    intro stack rest room
    obtain ⟨ascending, hcanonical⟩ := canonical_object_iff.mp canonical
    have hopen : stack.length < limit := by
      rw [depth] at room
      omega
    have hmembers : ∀ member ∈ members, Reads limit member.2 := by
      intro member hmember
      exact ih member hmember (hcanonical member hmember)
    have hroom : ∀ member ∈ members, stack.length + 1 + member.2.depth ≤ limit := by
      intro member hmember
      have := depth_member_lt hmember
      omega
    rw [tokens, List.cons_append, Reader.run]
    simp only [Reader.step, Reader.start, hopen, if_true]
    cases members with
    | nil => rfl
    | cons member members =>
      obtain ⟨hread, hreads⟩ := List.forall_mem_cons.mp hmembers
      obtain ⟨hfirst, hothers⟩ := List.forall_mem_cons.mp hroom
      rw [firstMemberTokens, List.cons_append, List.cons_append, List.append_assoc]
      show Reader.run limit (.document (.member [] member.1 :: stack)) _ = _
      rw [hread (.member [] member.1 :: stack) _ hfirst, run_moreMemberTokens hreads hothers]
      show Reader.run limit (.complete stack (.ofMembers (member :: members))) rest = _
      rw [ofMembers, Keyed.ofPairs_eq_self ascending]

/-- The text of a document is read as the document. -/
theorem ofText?_render {value : Value} (h : value.Writable nestingLimit) :
    ofText? value.render = some value := by
  obtain ⟨floatFree, canonical, depth⟩ := h
  have hscan : Token.scan value.chars = some value.tokens := by
    have h := (row_tokens floatFree canonical).scans [] nofun
    rwa [List.append_nil, Token.scan, Option.map_some, List.append_nil] at h
  have hread : Reader.run nestingLimit (.document []) value.tokens = some (.complete [] value) := by
    have h := reads_tokens canonical [] [] (by simpa using depth)
    rwa [List.append_nil] at h
  rw [ofText?, ofTextWithin?, render, String.toList_ofList, hscan]
  simp only [hread]
  rfl

end Reading

/-- Different documents have different texts. -/
theorem render_injective {left right : Value} (hleft : left.Writable nestingLimit)
    (hright : right.Writable nestingLimit) (h : left.render = right.render) : left = right := by
  have hread := ofText?_render hleft
  rw [h, ofText?_render hright] at hread
  exact (Option.some.inj hread).symm

/-! ## Characters -/

/-- The text of a document has no control characters, whatever its keys and strings have. -/
theorem printable_render {limit : Nat} {value : Value} (h : value.Writable limit) :
    Printable value.render.toList := by
  rw [render, String.toList_ofList]
  exact (row_tokens h.floatFree h.canonical).printable

end Value

end LoadWatch.Json
