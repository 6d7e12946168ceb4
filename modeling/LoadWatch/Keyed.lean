/-
  Keyed.lean --- tables with text keys, in ascending order of keys.

  The entries of a table are a list of pairs with strictly ascending keys, so a
  table is determined by what it holds and is always walked in the same order.
  The order of keys is that of their characters' code points.

  Main properties: inserting keeps the order (`Keyed.ascending_insert`), a
  lookup after an insertion finds the new value under the new key and the old
  value elsewhere (`Keyed.lookup_insert`), and a join has exactly the keys of
  both tables (`Table.mem_join_iff`).
-/

set_option autoImplicit false

namespace LoadWatch

/-! ## Lists of entries -/

namespace Keyed

variable {α β γ : Type}

/-- The keys of the entries ascend strictly. -/
def Ascending (entries : List (String × α)) : Prop :=
  entries.Pairwise fun left right => left.1 < right.1

/-- The entries with one more, which replaces an entry with the same key. -/
def insert (key : String) (value : α) : List (String × α) → List (String × α)
  | [] => [(key, value)]
  | entry :: rest =>
    if key < entry.1 then (key, value) :: entry :: rest
    else if key = entry.1 then (key, value) :: rest
    else entry :: insert key value rest

/-- The value of the first entry with the given key. -/
def lookup (key : String) : List (String × α) → Option α
  | [] => none
  | entry :: rest => if key = entry.1 then some entry.2 else lookup key rest

/-- The entries of a list of pairs in any order; of several pairs with one key the last counts. -/
def ofPairs (pairs : List (String × α)) : List (String × α) :=
  pairs.foldl (fun entries pair => insert pair.1 pair.2 entries) []

/-- The entries without the one with the given key. -/
def erase (key : String) (entries : List (String × α)) : List (String × α) :=
  entries.filter fun entry => entry.1 ≠ key

theorem mem_insert {key : String} {value : α} {entries : List (String × α)}
    {entry : String × α} (h : entry ∈ insert key value entries) :
    entry = (key, value) ∨ entry ∈ entries := by
  induction entries with
  | nil => simp_all [insert]
  | cons first rest ih =>
    rw [insert] at h
    split at h
    · simpa using h
    · split at h
      · rcases List.mem_cons.1 h with h | h
        · exact .inl h
        · exact .inr (List.mem_cons_of_mem _ h)
      · rcases List.mem_cons.1 h with h | h
        · exact .inr (h ▸ List.mem_cons_self)
        · exact (ih h).imp id (List.mem_cons_of_mem _)

/-- Inserting keeps the keys ascending. -/
theorem ascending_insert {entries : List (String × α)} (h : Ascending entries) (key : String)
    (value : α) : Ascending (insert key value entries) := by
  induction entries with
  | nil => simp [insert, Ascending]
  | cons first rest ih =>
    have hrest : Ascending rest := List.Pairwise.of_cons h
    have hfirst : ∀ entry ∈ rest, first.1 < entry.1 := fun _ => List.rel_of_pairwise_cons h
    rw [insert]
    split
    · rename_i hlt
      refine List.Pairwise.cons (fun entry hm => ?_) h
      rcases List.mem_cons.1 hm with rfl | hm
      · exact hlt
      · exact String.lt_trans hlt (hfirst _ hm)
    · split
      · rename_i heq
        subst heq
        exact List.Pairwise.cons (fun entry hm => hfirst _ hm) hrest
      · rename_i hnlt hne
        refine List.Pairwise.cons (fun entry hm => ?_) (ih hrest)
        rcases mem_insert hm with rfl | hm
        · exact Decidable.byContradiction fun hge =>
            hne (String.le_antisymm (String.not_lt.1 hge) (String.not_lt.1 hnlt))
        · exact hfirst _ hm

/-- After an insertion the new key has the new value, the others have what they had. -/
theorem lookup_insert (key : String) (value : α) (entries : List (String × α)) (k : String) :
    lookup k (insert key value entries) = if k = key then some value else lookup k entries := by
  induction entries with
  | nil => rfl
  | cons first rest ih =>
    rw [insert]
    split
    · rfl
    · split
      · rename_i heq
        by_cases hk : k = key <;> simp [lookup, hk, ← heq]
      · rename_i hne
        by_cases hk : k = first.1
        · simp [lookup, hk, Ne.symm hne]
        · simp [lookup, hk, ih]

/-- Lists of pairs give ascending entries. -/
theorem ascending_ofPairs (pairs : List (String × α)) : Ascending (ofPairs pairs) := by
  suffices h : ∀ entries : List (String × α), Ascending entries →
      Ascending (pairs.foldl (fun entries pair => insert pair.1 pair.2 entries) entries) from
    h [] List.Pairwise.nil
  induction pairs with
  | nil => exact fun _ h => h
  | cons pair rest ih => exact fun entries h => ih _ (ascending_insert h pair.1 pair.2)

/-- Taking entries out keeps the keys ascending. -/
theorem ascending_erase {entries : List (String × α)} (h : Ascending entries) (key : String) :
    Ascending (erase key entries) :=
  h.filter _

/-- With ascending keys a lookup finds exactly the entries there are. -/
theorem lookup_eq_some_iff {entries : List (String × α)} (h : Ascending entries) {key : String}
    {value : α} : lookup key entries = some value ↔ (key, value) ∈ entries := by
  induction entries with
  | nil => simp [lookup]
  | cons first rest ih =>
    have hrest := ih (List.Pairwise.of_cons h)
    have hfirst : ∀ entry ∈ rest, first.1 < entry.1 := fun _ => List.rel_of_pairwise_cons h
    obtain ⟨k, v⟩ := first
    rw [lookup]
    by_cases hk : key = k
    · subst hk
      have hnot : (key, value) ∉ rest := fun hm => String.lt_irrefl key (hfirst _ hm)
      simp [hnot, eq_comm]
    · simp [hk, hrest]

end Keyed

/-! ## Tables -/

/-- A table of values under text keys. -/
structure Table (α : Type) where
  entries : List (String × α)
  ascending : Keyed.Ascending entries

namespace Table

variable {α β γ : Type}

/-- The table without entries. -/
def empty : Table α := ⟨[], List.Pairwise.nil⟩

instance : Inhabited (Table α) := ⟨empty⟩

/-- The table with one more entry, which replaces an entry with the same key. -/
def insert (table : Table α) (key : String) (value : α) : Table α :=
  ⟨Keyed.insert key value table.entries, Keyed.ascending_insert table.ascending key value⟩

/-- The table of a list of pairs; of several pairs with one key the last counts. -/
def ofPairs (pairs : List (String × α)) : Table α :=
  ⟨Keyed.ofPairs pairs, Keyed.ascending_ofPairs pairs⟩

/-- The value under a key. -/
def get? (table : Table α) (key : String) : Option α := Keyed.lookup key table.entries

/-- The keys in ascending order. -/
def keys (table : Table α) : List String := table.entries.map Prod.fst

/-- The values in the order of their keys. -/
def values (table : Table α) : List α := table.entries.map Prod.snd

/-- The number of entries. -/
def size (table : Table α) : Nat := table.entries.length

/-- The entries of `left` whose key is also in `right`, combined with the value found there. -/
def join (combine : α → β → γ) (left : Table α) (right : Table β) : Table γ where
  entries := left.entries.filterMap fun entry =>
    (right.get? entry.1).map fun other => (entry.1, combine entry.2 other)
  ascending := by
    refine List.Pairwise.filterMap _ (fun a b hab c hc d hd => ?_) left.ascending
    obtain ⟨_, -, rfl⟩ := Option.map_eq_some_iff.1 hc
    obtain ⟨_, -, rfl⟩ := Option.map_eq_some_iff.1 hd
    exact hab

/-- A lookup finds exactly the entries there are. -/
theorem get?_eq_some_iff {table : Table α} {key : String} {value : α} :
    table.get? key = some value ↔ (key, value) ∈ table.entries :=
  Keyed.lookup_eq_some_iff table.ascending

/-- A join holds exactly the combinations of values under a key of both tables. -/
theorem mem_join_iff {combine : α → β → γ} {left : Table α} {right : Table β} {key : String}
    {value : γ} : (left.join combine right).get? key = some value ↔
      ∃ l r, left.get? key = some l ∧ right.get? key = some r ∧ value = combine l r := by
  rw [get?_eq_some_iff, join, List.mem_filterMap]
  constructor
  · rintro ⟨⟨k, l⟩, hm, hc⟩
    obtain ⟨r, hr, he⟩ := Option.map_eq_some_iff.1 hc
    obtain ⟨rfl, rfl⟩ := Prod.mk.inj he
    exact ⟨l, r, get?_eq_some_iff.2 hm, hr, rfl⟩
  · rintro ⟨l, r, hl, hr, rfl⟩
    exact ⟨(key, l), get?_eq_some_iff.1 hl, by simp [hr]⟩

end Table

end LoadWatch
