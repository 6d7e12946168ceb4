/-
  Proofs/Records.lean --- what the documents of a record show.

  WHAT THIS FILE IS FOR.  A record is decoded by visiting the members of a
  document one after the other, and each one is stored on its own.  Here this is
  brought to what it comes to: every declared member, wherever it stands, is
  what its own part of the document shows, and one that is missing is what the
  record starts with (`Layout.decodesAs`).

  A layout pairs the declared members of a record with the places they are kept
  in.  The places are apart from each other and make up the whole record, so
  storing one part leaves all others as they were, and the record is known from
  its parts.  The proof is one induction over the members of the document; an
  array comes to the same as the object that has its elements under the declared
  keys, in order (`decodePositions_eq_decodeMembers`).

  An object under arbitrary keys is decoded entry by entry
  (`DecodesAs.table`).  What is not declared has no influence at all, not
  even on why a document does not decode (`Schema.decode_restrict`,
  `decodeTable_mapMembers`).
-/
import Mathlib.Data.List.Pairwise
import LoadWatch.Json.Record
import LoadWatch.Proofs.Documents

set_option autoImplicit false

namespace LoadWatch.Json

/-! ## Parts of a document -/

namespace Value

/-- The document is an object that has the value under the key. -/
def Has (document : Value) (key : String) (value : Value) : Prop :=
  ∃ members, document = .object members ∧ (key, value) ∈ members

/-- The parts of a document that stands for a record with the given members: those of an object
are its members, and those of an array its elements under the given names, in order. -/
def parts? (names : List String) : Value → Option (List (String × Value))
  | .object members => some members
  | .array items => if items.length ≤ names.length then some (names.zip items) else none
  | _ => none

/-- The document with these members only, if it is an object, and with every part changed. -/
def restrict (names : List String) (change : Value → Value) : Value → Value
  | .object members =>
    .object ((members.filter fun member => member.1 ∈ names).map fun member =>
      (member.1, change member.2))
  | .array items => .array (items.map change)
  | value => value

/-- The document with every member changed, if it is an object. -/
def mapMembers (change : Value → Value) : Value → Value
  | .object members => .object (members.map fun member => (member.1, change member.2))
  | value => value

theorem canonical_singleton {key : String} {value : Value} (h : value.Canonical) :
    (object [(key, value)]).Canonical :=
  canonical_object_iff.mpr ⟨List.pairwise_singleton .., List.forall_mem_singleton.mpr h⟩

theorem canonical_pair {first second : String} {left right : Value} (hlt : first < second)
    (hleft : left.Canonical) (hright : right.Canonical) :
    (object [(first, left), (second, right)]).Canonical := by
  refine canonical_object_iff.mpr ⟨List.pairwise_pair.mpr hlt, ?_⟩
  exact List.forall_mem_cons.mpr ⟨hleft, List.forall_mem_singleton.mpr hright⟩

/-- Reading a member of a canonical document finds exactly what the document has. -/
theorem Canonical.member?_eq_some_iff {document : Value} (canonical : document.Canonical)
    {key : String} {value : Value} :
    document.member? key = some value ↔ document.Has key value := by
  cases document with
  | object members =>
    rw [member?, Keyed.lookup_eq_some_iff (canonical_object_iff.mp canonical).1]
    exact ⟨fun h => ⟨members, rfl, h⟩, fun ⟨_, heq, h⟩ => Value.object.inj heq ▸ h⟩
  | _ =>
    refine ⟨nofun, ?_⟩
    rintro ⟨members, h, -⟩
    cases h

theorem Canonical.member?_eq_none_iff {document : Value} (canonical : document.Canonical)
    {key : String} : document.member? key = none ↔ ¬∃ value, document.Has key value := by
  rw [Option.eq_none_iff_forall_ne_some, not_exists]
  exact forall_congr' fun value => not_congr canonical.member?_eq_some_iff

theorem Canonical.of_has {document value : Value} {key : String} (canonical : document.Canonical)
    (h : document.Has key value) : value.Canonical := by
  obtain ⟨members, rfl, hmem⟩ := h
  exact (canonical_object_iff.mp canonical).2 _ hmem

/-- A canonical document has one value under a key. -/
theorem Has.unique {document left right : Value} {key : String} (canonical : document.Canonical)
    (hleft : document.Has key left) (hright : document.Has key right) : left = right := by
  rw [← canonical.member?_eq_some_iff] at hleft hright
  exact Option.some.inj (hleft.symm.trans hright)

/-- What some value under the key does is what the value under the key does. -/
theorem exists_has_iff {document value : Value} {key : String} (canonical : document.Canonical)
    (has : document.Has key value) {Holds : Value → Prop} :
    (∃ other, document.Has key other ∧ Holds other) ↔ Holds value := by
  refine ⟨?_, fun h => ⟨value, has, h⟩⟩
  rintro ⟨other, hother, h⟩
  obtain rfl := has.unique canonical hother
  exact h

theorem nodup_keys_of_ascending {members : List (String × Value)} (h : Keyed.Ascending members) :
    (members.map Prod.fst).Nodup :=
  List.pairwise_map.mpr (h.imp fun hlt => String.ne_of_lt hlt)

theorem keys_zip_sublist (names : List String) (items : List Value) :
    ((names.zip items).map Prod.fst).Sublist names := by
  induction names generalizing items with
  | nil => exact List.Sublist.refl _
  | cons name names ih =>
    cases items with
    | nil => exact List.nil_sublist _
    | cons item items => exact (ih items).cons_cons name

theorem parts?_array {names : List String} {items : List Value}
    (h : items.length ≤ names.length) : (array items).parts? names = some (names.zip items) :=
  if_pos h

/-- The parts of a canonical document have different keys and are canonical. -/
theorem Canonical.parts {names : List String} (nodup : names.Nodup) {value : Value}
    (canonical : value.Canonical) {parts : List (String × Value)}
    (h : value.parts? names = some parts) :
    (parts.map Prod.fst).Nodup ∧ ∀ part ∈ parts, part.2.Canonical := by
  cases value with
  | object members =>
    obtain ⟨ascending, hmembers⟩ := canonical_object_iff.mp canonical
    obtain rfl := Option.some.inj h
    exact ⟨nodup_keys_of_ascending ascending, hmembers⟩
  | array items =>
    have hitems := canonical_array_iff.mp canonical
    by_cases hle : items.length ≤ names.length
    · obtain rfl := Option.some.inj ((parts?_array hle).symm.trans h)
      exact ⟨nodup.sublist (keys_zip_sublist names items),
        fun part hpart => hitems _ (List.of_mem_zip hpart).2⟩
    · exact absurd ((if_neg hle).symm.trans h) nofun
  | _ => cases h

end Value

/-- The part under a key shows the item, and if there is no such part then the item is the initial
one. -/
def PartShows {α : Type} (parts : List (String × Value)) (key : String)
    (Shows : Value → α → Prop) (initial item : α) : Prop :=
  match Keyed.lookup key parts with
  | none => item = initial
  | some value => Shows value item

/-- What the initial item has and what is shown always has, a part has. -/
theorem PartShows.of_shows {α : Type} {parts : List (String × Value)} {key : String}
    {Shows : Value → α → Prop} {initial item : α} {holds : α → Prop}
    (h : PartShows parts key Shows initial item) (hinitial : holds initial)
    (hshows : ∀ value item, Shows value item → holds item) : holds item := by
  unfold PartShows at h
  split at h
  · exact h ▸ hinitial
  · exact hshows _ _ h

/-! ## Decoders -/

/-- On canonical documents the decoder gives exactly the item that the document shows. -/
def DecodesAs {α : Type} (decode : Decoder α) (Shows : Value → α → Prop) : Prop :=
  ∀ ⦃value : Value⦄, value.Canonical → ∀ item, decode value = .ok item ↔ Shows value item

/-- The document shows a counter: an integer of 64 bits. -/
def ShowsCounter (value : Value) (n : Int) : Prop := value = .ofInt n ∧ FitsInt64 n

/-- The document shows a text. -/
def ShowsText (value : Value) (text : String) : Prop := value = .string text

/-- The document shows an item that may be missing: null for none. -/
def ShowsOptional {α : Type} (Shows : Value → α → Prop) (value : Value) : Option α → Prop
  | none => value = .null
  | some item => value ≠ .null ∧ Shows value item

/-- A decoder fails exactly on the documents that show nothing. -/
theorem DecodesAs.exists_error_iff {α : Type} {decode : Decoder α} {Shows : Value → α → Prop}
    (h : DecodesAs decode Shows) {value : Value} (canonical : value.Canonical) :
    (∃ mismatch, decode value = .error mismatch) ↔ ¬∃ item, Shows value item := by
  simp only [← h canonical]
  cases decode value with
  | error mismatch => simp
  | ok item => simp

theorem map_eq_ok_iff {α β : Type} {result : Except Mismatch α} {f : α → β} {item : β} :
    result.map f = .ok item ↔ ∃ origin, result = .ok origin ∧ f origin = item := by
  cases result with
  | error mismatch => simp [Except.map]
  | ok origin => simp [Except.map]

theorem decodesAs_counter : DecodesAs decodeCounter ShowsCounter := by
  intro value canonical n
  cases value with
  | number number =>
    cases number with
    | integer m =>
      have low : minInt64 ≤ m := canonical.1
      rw [decodeCounter]
      constructor
      · intro h
        split at h
        · obtain rfl := Except.ok.inj h
          exact ⟨rfl, low, by assumption⟩
        · cases h
      · rintro ⟨heq, -, high⟩
        obtain rfl : m = n := by cases heq; rfl
        exact if_pos high
    | float x => exact ⟨nofun, fun h => nomatch h.1⟩
  | _ => exact ⟨nofun, fun h => nomatch h.1⟩

theorem decodesAs_text : DecodesAs decodeText ShowsText := by
  intro value _ text
  cases value with
  | string other => rw [decodeText, Except.ok.injEq, ShowsText, Value.string.injEq]
  | _ => exact ⟨nofun, nofun⟩

theorem decodeOptional_of_ne_null {α : Type} (decode : Decoder α) {value : Value}
    (h : value ≠ .null) : decodeOptional decode value = (decode value).map some := by
  cases value with
  | null => exact absurd rfl h
  | _ => rfl

theorem DecodesAs.optional {α : Type} {decode : Decoder α} {Shows : Value → α → Prop}
    (h : DecodesAs decode Shows) : DecodesAs (decodeOptional decode) (ShowsOptional Shows) := by
  intro value canonical item
  by_cases hnull : value = .null
  · subst hnull
    cases item with
    | none => exact ⟨fun _ => rfl, fun _ => rfl⟩
    | some item => exact ⟨nofun, fun hshows => absurd rfl hshows.1⟩
  · rw [decodeOptional_of_ne_null decode hnull, map_eq_ok_iff]
    cases item with
    | none => simp [ShowsOptional, hnull]
    | some item => simp [ShowsOptional, hnull, h canonical]

theorem lookup_eq_none {α : Type} {name : String} {parts : List (String × α)}
    (h : name ∉ parts.map Prod.fst) : Keyed.lookup name parts = none := by
  induction parts with
  | nil => rfl
  | cons part parts ih =>
    rw [List.map_cons, List.mem_cons, not_or] at h
    rw [Keyed.lookup, if_neg h.1, ih h.2]

/-! ## Layouts -/

/-- A declared member with the place it is kept in, and what its documents show. -/
structure Slot (σ : Type) where
  /-- The key of the member. -/
  name : String
  Item : Type
  decode : Decoder Item
  Shows : Value → Item → Prop
  decodesAs : DecodesAs decode Shows
  store : Item → σ → σ
  get : σ → Item
  get_store : ∀ item record, get (store item record) = item

namespace Slot

variable {σ : Type}

/-- The slot of a member that is decoded as `Shows` says. -/
def of {α : Type} {decode : Decoder α} {Shows : Value → α → Prop} (name : String)
    (decodesAs : DecodesAs decode Shows) (store : α → σ → σ) (get : σ → α)
    (get_store : ∀ item record, get (store item record) = item := by exact fun _ _ => rfl) :
    Slot σ :=
  ⟨name, α, decode, Shows, decodesAs, store, get, get_store⟩

/-- The declared member of a slot. -/
def field (slot : Slot σ) : RecordField σ := .of slot.name slot.decode slot.store

/-- What is kept in one slot is left alone by storing in the other. -/
def Apart (left right : Slot σ) : Prop :=
  (∀ item record, left.get (right.store item record) = left.get record) ∧
    ∀ item record, right.get (left.store item record) = right.get record

instance : Std.Symm (Apart (σ := σ)) := ⟨fun _ _ h => h.symm⟩

/-- After the parts of a document the slot holds what its own part shows, and what it held before
if it has no part. -/
def Holds (slot : Slot σ) (parts : List (String × Value)) (before after : σ) : Prop :=
  PartShows parts slot.name slot.Shows (slot.get before) (slot.get after)

variable {slot : Slot σ} {part : String × Value} {parts : List (String × Value)} {before after : σ}

theorem holds_cons_of_ne (h : slot.name ≠ part.1) :
    slot.Holds (part :: parts) before after ↔ slot.Holds parts before after := by
  simp only [Holds, PartShows, Keyed.lookup, if_neg h]

theorem holds_cons_of_eq (h : slot.name = part.1) :
    slot.Holds (part :: parts) before after ↔ slot.Shows part.2 (slot.get after) := by
  simp only [Holds, PartShows, Keyed.lookup, if_pos h]

theorem holds_of_missing (h : slot.name ∉ parts.map Prod.fst) :
    slot.Holds parts before after ↔ slot.get after = slot.get before := by
  simp only [Holds, PartShows, lookup_eq_none h]

end Slot

/-- The declared members of a record as slots that are apart and make up the whole record. -/
structure Layout {σ : Type} (schema : Schema σ) where
  slots : List (Slot σ)
  fields_eq : schema.fields = slots.map Slot.field
  nodup : (slots.map Slot.name).Nodup
  apart : slots.Pairwise Slot.Apart
  ext : ∀ {left right : σ}, (∀ slot ∈ slots, slot.get left = slot.get right) → left = right

namespace Layout

variable {σ : Type} {schema : Schema σ} (layout : Layout schema)

/-- The keys of the declared members, in order of declaration. -/
def names : List String := layout.slots.map Slot.name

variable {layout}

theorem eq_of_name_eq {left right : Slot σ} (hleft : left ∈ layout.slots)
    (hright : right ∈ layout.slots) (h : left.name = right.name) : left = right :=
  List.inj_on_of_nodup_map layout.nodup hleft hright h

theorem get_store_of_ne {left right : Slot σ} (hleft : left ∈ layout.slots)
    (hright : right ∈ layout.slots) (h : left ≠ right) (item : right.Item) (record : σ) :
    left.get (right.store item record) = left.get record :=
  (layout.apart.forall hleft hright h).1 item record

theorem field?_eq_none_iff {name : String} :
    schema.field? name = none ↔ ∀ slot ∈ layout.slots, slot.name ≠ name := by
  rw [Schema.field?, layout.fields_eq, List.find?_eq_none]
  simp [Slot.field, RecordField.of]

theorem field?_eq_some {slot : Slot σ} (hslot : slot ∈ layout.slots) :
    schema.field? slot.name = some slot.field := by
  cases hfind : schema.field? slot.name with
  | none => exact absurd rfl (field?_eq_none_iff.mp hfind slot hslot)
  | some field =>
    rw [Schema.field?, layout.fields_eq] at hfind
    have hname : field.name = slot.name := by simpa using List.find?_some hfind
    obtain ⟨other, hother, rfl⟩ := List.mem_map.mp (List.mem_of_find?_eq_some hfind)
    rw [layout.eq_of_name_eq hother hslot hname]

/-! ## Members in order -/

/-- A member that is not declared is passed over. -/
theorem decodeMembers_cons_undeclared {part : String × Value} {parts : List (String × Value)}
    (h : ∀ slot ∈ layout.slots, slot.name ≠ part.1) (record : σ) :
    schema.decodeMembers (part :: parts) record = schema.decodeMembers parts record := by
  rw [Schema.decodeMembers, field?_eq_none_iff.mpr h]

/-- A declared member is decoded and stored before the others are visited. -/
theorem decodeMembers_cons_declared {slot : Slot σ} (hslot : slot ∈ layout.slots)
    {part : String × Value} (hname : slot.name = part.1) {parts : List (String × Value)}
    {before after : σ} : schema.decodeMembers (part :: parts) before = .ok after ↔
      ∃ item, slot.decode part.2 = .ok item ∧
        schema.decodeMembers parts (slot.store item before) = .ok after := by
  rw [Schema.decodeMembers, ← hname, field?_eq_some hslot]
  simp only [Slot.field, RecordField.of]
  cases slot.decode part.2 with
  | error mismatch => simp [Except.map]
  | ok item => simp [Except.map]

/-- Storing the first part is as good as having it among the parts: its own slot has no other part,
and all other slots are apart. -/
theorem holds_cons_declared {slot other : Slot σ} (hslot : slot ∈ layout.slots)
    (hother : other ∈ layout.slots) {part : String × Value} (canonical : part.2.Canonical)
    (hname : slot.name = part.1) {parts : List (String × Value)}
    (fresh : part.1 ∉ parts.map Prod.fst) {item : slot.Item}
    (hitem : slot.decode part.2 = .ok item) {before after : σ} :
    other.Holds (part :: parts) before after ↔
      other.Holds parts (slot.store item before) after := by
  by_cases heq : other = slot
  · subst heq
    rw [Slot.holds_cons_of_eq hname, Slot.holds_of_missing (hname ▸ fresh), other.get_store,
      ← other.decodesAs canonical, hitem, Except.ok.injEq, eq_comm]
  · have hne : other.name ≠ part.1 := fun h =>
      heq (layout.eq_of_name_eq hother hslot (h.trans hname.symm))
    rw [Slot.holds_cons_of_ne hne, Slot.Holds, Slot.Holds, get_store_of_ne hother hslot heq]

/-- The members of an object, in whatever order, come to what every slot holds of its own part. -/
theorem decodeMembers_eq_ok_iff {parts : List (String × Value)} (nodup : (parts.map Prod.fst).Nodup)
    (canonical : ∀ part ∈ parts, part.2.Canonical) {before after : σ} :
    schema.decodeMembers parts before = .ok after ↔
      ∀ slot ∈ layout.slots, slot.Holds parts before after := by
  induction parts generalizing before with
  | nil =>
    rw [Schema.decodeMembers, Except.ok.injEq]
    constructor
    · rintro rfl slot _
      rfl
    · intro h
      exact layout.ext fun slot hslot => (h slot hslot).symm
  | cons part parts ih =>
    obtain ⟨fresh, hnodup⟩ := List.nodup_cons.mp nodup
    obtain ⟨hpart, hparts⟩ := List.forall_mem_cons.mp canonical
    by_cases hdeclared : ∃ slot ∈ layout.slots, slot.name = part.1
    · obtain ⟨slot, hslot, hname⟩ := hdeclared
      rw [decodeMembers_cons_declared hslot hname]
      constructor
      · rintro ⟨item, hitem, hrest⟩ other hother
        rw [holds_cons_declared hslot hother hpart hname fresh hitem]
        exact (ih hnodup hparts).mp hrest other hother
      · intro h
        have hitem := h slot hslot
        rw [Slot.holds_cons_of_eq hname, ← slot.decodesAs hpart] at hitem
        refine ⟨_, hitem, (ih hnodup hparts).mpr fun other hother => ?_⟩
        rw [← holds_cons_declared hslot hother hpart hname fresh hitem]
        exact h other hother
    · have hnone : ∀ slot ∈ layout.slots, slot.name ≠ part.1 := by
        intro slot hslot heq
        exact hdeclared ⟨slot, hslot, heq⟩
      rw [decodeMembers_cons_undeclared hnone, ih hnodup hparts]
      exact forall₂_congr fun slot hslot => (Slot.holds_cons_of_ne (hnone slot hslot)).symm

/-! ## Documents -/

/-- The elements of an array that is not too long come to the object that has them under the
declared keys, in order. -/
theorem decodePositions_eq_decodeMembers {slots : List (Slot σ)}
    (hslots : ∀ slot ∈ slots, slot ∈ layout.slots) {items : List Value}
    (hle : items.length ≤ slots.length) (count : Nat) (record : σ) :
    Schema.decodePositions count (slots.map Slot.field) items record =
      schema.decodeMembers ((slots.map Slot.name).zip items) record := by
  induction slots generalizing items record with
  | nil =>
    obtain rfl := List.length_eq_zero_iff.mp (Nat.le_zero.mp hle)
    rfl
  | cons slot slots ih =>
    obtain ⟨hslot, hrest⟩ := List.forall_mem_cons.mp hslots
    cases items with
    | nil => rfl
    | cons item items =>
      have hle : items.length ≤ slots.length := Nat.le_of_succ_le_succ hle
      rw [List.map_cons, List.map_cons, List.zip_cons_cons, Schema.decodePositions,
        Schema.decodeMembers, field?_eq_some hslot]
      cases hd : slot.field.decodeInto item record with
      | error mismatch => simp only [hd]
      | ok next => simp only [hd, ih hrest hle next]

/-- An array with more elements than there are members does not decode. -/
theorem decodePositions_ne_ok {fields : List (RecordField σ)} {items : List Value}
    (hlt : fields.length < items.length) (count : Nat) (before after : σ) :
    Schema.decodePositions count fields items before ≠ .ok after := by
  induction fields generalizing items before with
  | nil =>
    cases items with
    | nil => exact absurd hlt (Nat.lt_irrefl 0)
    | cons item items => exact nofun
  | cons field fields ih =>
    cases items with
    | nil => exact absurd hlt (Nat.not_lt_zero _)
    | cons item items =>
      rw [Schema.decodePositions]
      cases field.decodeInto item before with
      | error mismatch => exact nofun
      | ok next => exact ih (Nat.lt_of_succ_lt_succ hlt) next

/-- What a document of the record shows: it has parts, and every slot holds what its own part shows,
or what the record starts with. -/
def Shows (layout : Layout schema) (value : Value) (record : σ) : Prop :=
  ∃ parts, value.parts? layout.names = some parts ∧
    ∀ slot ∈ layout.slots, slot.Holds parts schema.initial record

/-- A document decodes as a record exactly if it shows this record. -/
theorem decodesAs (layout : Layout schema) : DecodesAs schema.decode layout.Shows := by
  intro value canonical record
  have hparts {parts : List (String × Value)} (h : value.parts? layout.names = some parts) :
      schema.decodeMembers parts schema.initial = .ok record ↔ layout.Shows value record := by
    obtain ⟨nodup, hcanonical⟩ := canonical.parts layout.nodup h
    rw [layout.decodeMembers_eq_ok_iff nodup hcanonical, Shows, h]
    simp only [Option.some.injEq, exists_eq_left']
  cases value with
  | object members => exact hparts rfl
  | array items =>
    by_cases hle : items.length ≤ layout.slots.length
    · have hlen : items.length ≤ layout.names.length := by rwa [names, List.length_map]
      rw [← hparts (Value.parts?_array hlen), Schema.decode, layout.fields_eq,
        decodePositions_eq_decodeMembers (fun _ h => h) hle]
      rfl
    · have hlen : ¬items.length ≤ layout.names.length := by rwa [names, List.length_map]
      have hlt : schema.fields.length < items.length := by
        rw [layout.fields_eq, List.length_map]
        exact Nat.lt_of_not_le hle
      refine ⟨fun h => absurd h (decodePositions_ne_ok hlt _ _ _), ?_⟩
      rintro ⟨parts, h, -⟩
      exact absurd ((if_neg hlen).symm.trans h) nofun
  | _ =>
    refine ⟨nofun, ?_⟩
    rintro ⟨parts, h, -⟩
    cases h

end Layout

/-! ## Tables -/

section Tables

variable {α : Type} {decode : Decoder α} {Shows : Value → α → Prop}

/-- The members show the entries one by one, under the same keys. -/
def ShowsEntries (Shows : Value → α → Prop) (members : List (String × Value))
    (entries : List (String × α)) : Prop :=
  List.Forall₂ (fun member entry => member.1 = entry.1 ∧ Shows member.2 entry.2) members entries

/-- The document is an object whose members show the entries of the table. -/
def ShowsTable (Shows : Value → α → Prop) (value : Value) (table : Table α) : Prop :=
  ∃ members, value = .object members ∧ ShowsEntries Shows members table.entries

theorem decodeEntries_eq_ok_iff (h : DecodesAs decode Shows) {members : List (String × Value)}
    (canonical : ∀ member ∈ members, member.2.Canonical) {entries : List (String × α)} :
    decodeEntries decode members = .ok entries ↔ ShowsEntries Shows members entries := by
  induction members generalizing entries with
  | nil => rw [decodeEntries, Except.ok.injEq, ShowsEntries, List.forall₂_nil_left_iff, eq_comm]
  | cons member members ih =>
    obtain ⟨hmember, hmembers⟩ := List.forall_mem_cons.mp canonical
    rw [decodeEntries, ShowsEntries, List.forall₂_cons_left_iff]
    constructor
    · intro hok
      cases hd : decode member.2 with
      | error mismatch => simp [hd] at hok
      | ok item =>
        rw [hd] at hok
        obtain ⟨rest, hrest, rfl⟩ := map_eq_ok_iff.mp hok
        exact ⟨_, _, ⟨rfl, (h hmember item).mp hd⟩, (ih hmembers).mp hrest, rfl⟩
    · rintro ⟨⟨name, item⟩, rest, ⟨hname, hitem⟩, hrest, rfl⟩
      obtain rfl : member.1 = name := hname
      rw [(h hmember item).mpr hitem, (ih hmembers).mpr hrest]
      rfl

theorem ShowsEntries.keys_eq {members : List (String × Value)} {entries : List (String × α)}
    (h : ShowsEntries Shows members entries) : entries.map Prod.fst = members.map Prod.fst := by
  induction h with
  | nil => rfl
  | cons hhead _ ih => rw [List.map_cons, List.map_cons, ih, hhead.1]

/-- The entries that ascending members show ascend as well. -/
theorem ShowsEntries.ascending {members : List (String × Value)} {entries : List (String × α)}
    (h : ShowsEntries Shows members entries) (ascending : Keyed.Ascending members) :
    Keyed.Ascending entries :=
  Keyed.ascending_of_keys _ h.keys_eq (List.pairwise_map.mpr ascending)

theorem lookup_eq_none_of_lt {α : Type} {key : String} {entries : List (String × α)}
    (h : ∀ entry ∈ entries, key < entry.1) : Keyed.lookup key entries = none := by
  refine lookup_eq_none fun hmem => ?_
  obtain ⟨entry, hentry, rfl⟩ := List.mem_map.mp hmem
  exact String.lt_irrefl _ (h entry hentry)

/-- Ascending entries have nothing under a name before their first one. -/
theorem lookup_cons_eq_none {α : Type} {key : String} {entry : String × α}
    {entries : List (String × α)} (hentry : ∀ other ∈ entries, entry.1 < other.1)
    (hlt : key < entry.1) : Keyed.lookup key (entry :: entries) = none :=
  lookup_eq_none_of_lt <|
    List.forall_mem_cons.mpr ⟨hlt, fun _ hother => String.lt_trans hlt (hentry _ hother)⟩

/-- Ascending members show ascending entries exactly if they do so under every name. -/
theorem showsEntries_iff_lookup {members : List (String × Value)} {entries : List (String × α)}
    (hmembers : Keyed.Ascending members) (hentries : Keyed.Ascending entries) :
    ShowsEntries Shows members entries ↔
      ∀ name, Option.Rel Shows (Keyed.lookup name members) (Keyed.lookup name entries) := by
  constructor
  · intro h name
    induction h with
    | nil => exact .none
    | cons hhead _ ih =>
      rw [Keyed.lookup, Keyed.lookup, hhead.1]
      split
      · exact .some hhead.2
      · exact ih (List.Pairwise.of_cons hmembers) (List.Pairwise.of_cons hentries)
  · intro h
    induction members generalizing entries with
    | nil =>
      cases entries with
      | nil => exact .nil
      | cons entry entries =>
        have hshows := h entry.1
        rw [Keyed.lookup, Keyed.lookup, if_pos rfl] at hshows
        cases hshows
    | cons member members ih =>
      cases entries with
      | nil =>
        have hshows := h member.1
        rw [Keyed.lookup, Keyed.lookup, if_pos rfl] at hshows
        cases hshows
      | cons entry entries =>
        obtain ⟨hmember, hmembers⟩ := List.pairwise_cons.mp hmembers
        obtain ⟨hentry, hentries⟩ := List.pairwise_cons.mp hentries
        -- The smaller of two different first names would be found on one side only.
        have hkey : member.1 = entry.1 := by
          refine String.le_antisymm (String.not_lt.mp fun hlt => ?_)
            (String.not_lt.mp fun hlt => ?_)
          · have hshows := h entry.1
            rw [lookup_cons_eq_none hmember hlt, Keyed.lookup, if_pos rfl] at hshows
            cases hshows
          · have hshows := h member.1
            rw [lookup_cons_eq_none hentry hlt, Keyed.lookup, if_pos rfl] at hshows
            cases hshows
        refine .cons ⟨hkey, ?_⟩ (ih hmembers hentries fun name => ?_)
        · have hshows := h member.1
          rw [Keyed.lookup, Keyed.lookup, if_pos rfl, if_pos hkey] at hshows
          cases hshows with
          | some hshows => exact hshows
        · by_cases hname : name = member.1
          · subst hname
            rw [lookup_eq_none_of_lt hmember, lookup_eq_none_of_lt (hkey ▸ hentry)]
            exact .none
          · have hshows := h name
            rwa [Keyed.lookup, Keyed.lookup, if_neg hname, if_neg (hkey ▸ hname)] at hshows

/-- Members show some entries exactly if each of them shows something. -/
theorem exists_showsEntries_iff {members : List (String × Value)} :
    (∃ entries, ShowsEntries Shows members entries) ↔
      ∀ member ∈ members, ∃ item, Shows member.2 item := by
  induction members with
  | nil => exact ⟨fun _ => List.forall_mem_nil _, fun _ => ⟨[], .nil⟩⟩
  | cons member members ih =>
    rw [List.forall_mem_cons, ← ih]
    constructor
    · rintro ⟨_, _ | ⟨⟨-, hitem⟩, hentries⟩⟩
      exact ⟨⟨_, hitem⟩, ⟨_, hentries⟩⟩
    · rintro ⟨⟨item, hitem⟩, ⟨entries, hentries⟩⟩
      exact ⟨(member.1, item) :: entries, .cons ⟨rfl, hitem⟩ hentries⟩

/-- What can be told from what a member shows is told by its entry. -/
theorem ShowsEntries.exists_iff {members : List (String × Value)} {entries : List (String × α)}
    (h : ShowsEntries Shows members entries) {Tells : Value → Prop} {Says : α → Prop}
    (hiff : ∀ {value item}, Shows value item → (Tells value ↔ Says item)) :
    (∃ member ∈ members, Tells member.2) ↔ ∃ entry ∈ entries, Says entry.2 := by
  induction h with
  | nil => simp only [List.not_mem_nil, false_and, exists_false]
  | cons hhead _ ih =>
    simp only [List.mem_cons, exists_eq_or_imp, ih, hiff hhead.2]

/-- A document decodes as a table exactly if its members show the entries of the table. -/
theorem DecodesAs.table (h : DecodesAs decode Shows) :
    DecodesAs (decodeTable decode) (ShowsTable Shows) := by
  intro value canonical table
  cases value with
  | object members =>
    obtain ⟨ascending, hmembers⟩ := Value.canonical_object_iff.mp canonical
    rw [decodeTable, map_eq_ok_iff]
    constructor
    · rintro ⟨entries, hentries, rfl⟩
      have hshows := (decodeEntries_eq_ok_iff h hmembers).mp hentries
      refine ⟨members, rfl, ?_⟩
      simpa only [Table.ofPairs, Keyed.ofPairs_eq_self (hshows.ascending ascending)] using hshows
    · rintro ⟨_, ⟨⟩, hshows⟩
      refine ⟨table.entries, (decodeEntries_eq_ok_iff h hmembers).mpr hshows, ?_⟩
      simp only [Table.ofPairs, Keyed.ofPairs_eq_self table.ascending]
  | _ =>
    refine ⟨nofun, ?_⟩
    rintro ⟨members, h, -⟩
    cases h

theorem ShowsTable.exists_members {value : Value} {table : Table α}
    (h : ShowsTable Shows value table) :
    ∃ members, value = .object members ∧ ∀ member ∈ members, ∃ item, Shows member.2 item := by
  obtain ⟨members, heq, hshows⟩ := h
  exact ⟨members, heq, exists_showsEntries_iff.mp ⟨_, hshows⟩⟩

/-- A canonical document shows some table exactly if it is an object each of whose members shows
something. -/
theorem exists_showsTable_iff {value : Value} (canonical : value.Canonical) :
    (∃ table, ShowsTable Shows value table) ↔
      ∃ members, value = .object members ∧ ∀ member ∈ members, ∃ item, Shows member.2 item := by
  refine ⟨fun ⟨_, h⟩ => h.exists_members, ?_⟩
  rintro ⟨members, rfl, h⟩
  obtain ⟨entries, hshows⟩ := exists_showsEntries_iff.mpr h
  have ascending := (Value.canonical_object_iff.mp canonical).1
  exact ⟨⟨entries, hshows.ascending ascending⟩, members, rfl, hshows⟩

end Tables

/-! ## Members that are not declared -/

namespace Schema

variable {σ : Type} {schema : Schema σ} {change : Value → Value}

theorem declares_eq_decide (schema : Schema σ) (name : String) :
    schema.declares name = decide (name ∈ schema.fields.map RecordField.name) := by
  rw [declares, field?, Bool.eq_iff_iff, List.find?_isSome, decide_eq_true_iff, List.mem_map]
  simp only [decide_eq_true_eq]

/-- The declared members decode alike after the change. -/
def Unmoved (fields : List (RecordField σ)) (change : Value → Value) : Prop :=
  ∀ field ∈ fields, ∀ value record,
    field.decodeInto (change value) record = field.decodeInto value record

theorem decodeMembers_change (h : Unmoved schema.fields change) (members : List (String × Value))
    (record : σ) :
    schema.decodeMembers (members.map fun member => (member.1, change member.2)) record =
      schema.decodeMembers members record := by
  induction members generalizing record with
  | nil => rfl
  | cons member members ih =>
    rw [List.map_cons, decodeMembers, decodeMembers]
    cases hf : schema.field? member.1 with
    | none => exact ih record
    | some field =>
      simp only [h field (List.mem_of_find?_eq_some hf), ih]

theorem decodePositions_change (count : Nat) {fields : List (RecordField σ)}
    (h : Unmoved fields change) (items : List Value) (record : σ) :
    decodePositions count fields (items.map change) record =
      decodePositions count fields items record := by
  induction fields generalizing items record with
  | nil => cases items <;> rfl
  | cons field fields ih =>
    obtain ⟨hfield, hfields⟩ := List.forall_mem_cons.mp h
    cases items with
    | nil => rfl
    | cons item items =>
      simp only [List.map_cons, decodePositions, hfield, ih hfields]

/-- What is not declared, and what changes about the parts without changing how they decode, has no
influence on how a document of a record decodes. -/
theorem decode_restrict (h : Unmoved schema.fields change) (value : Value) :
    schema.decode (value.restrict (schema.fields.map RecordField.name) change) =
      schema.decode value := by
  cases value with
  | object members =>
    rw [Value.restrict, decode, decode, decodeMembers_change h]
    simp only [← declares_eq_decide]
    exact decodeMembers_filter_declared schema members schema.initial
  | array items =>
    rw [Value.restrict, decode, decode, List.length_map]
    exact decodePositions_change _ h items schema.initial
  | _ => rfl

end Schema

theorem Value.member?_restrict {names : List String} {change : Value → Value} {key : String}
    (h : key ∈ names) (document : Value) :
    (document.restrict names change).member? key = (document.member? key).map change := by
  cases document with
  | object members =>
    rw [restrict, member?, member?]
    induction members with
    | nil => rfl
    | cons member members ih =>
      by_cases hkey : key = member.1
      · subst hkey
        simp [Keyed.lookup, h]
      · by_cases hname : member.1 ∈ names <;> simp [Keyed.lookup, hkey, hname, ih]
  | _ => rfl

theorem decodeOptional_restrict {α : Type} {decode : Decoder α} {names : List String}
    {change : Value → Value} (h : ∀ value, decode (value.restrict names change) = decode value)
    (value : Value) :
    decodeOptional decode (value.restrict names change) = decodeOptional decode value := by
  cases value with
  | object members => exact congrArg (Except.map some) (h (.object members))
  | array items => exact congrArg (Except.map some) (h (.array items))
  | _ => rfl

theorem decodeTable_mapMembers {α : Type} {decode : Decoder α} {change : Value → Value}
    (h : ∀ value, decode (change value) = decode value) (value : Value) :
    decodeTable decode (value.mapMembers change) = decodeTable decode value := by
  have hentries (members : List (String × Value)) :
      decodeEntries decode (members.map fun member => (member.1, change member.2)) =
        decodeEntries decode members := by
    induction members with
    | nil => rfl
    | cons member members ih => simp only [List.map_cons, decodeEntries, h, ih]
  cases value with
  | object members => exact congrArg (Except.map Table.ofPairs) (hentries members)
  | _ => rfl

end LoadWatch.Json
