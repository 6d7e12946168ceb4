/-
  Proofs/Tables.lean --- the keys of a table.

  WHAT THIS FILE IS FOR.  A table is walked by its entries and asked by its
  keys.  Here the two views are brought together: no key comes twice, and a key
  is there exactly if a lookup finds a value.  For a join this gives the keys of
  both tables.

  Ascending entries are what their lookups make them (`Keyed.eq_of_lookup`).
  Entries that ascend already are not put in another order
  (`Keyed.ofPairs_eq_self`), and none of them is lost unless two contradict each
  other (`Keyed.mem_ofPairs_iff`).
-/
import Mathlib.Data.List.Nodup
import LoadWatch.Keyed

set_option autoImplicit false

namespace LoadWatch.Keyed

variable {α : Type}

/-- An entry whose key is above all others comes last. -/
theorem insert_last {key : String} {entries : List (String × α)}
    (h : ∀ entry ∈ entries, entry.1 < key) (value : α) :
    insert key value entries = entries ++ [(key, value)] := by
  induction entries with
  | nil => rfl
  | cons first rest ih =>
    obtain ⟨hfirst, hrest⟩ := List.forall_mem_cons.mp h
    have hnot : ¬key < first.1 := fun hlt => String.lt_irrefl key (String.lt_trans hlt hfirst)
    have hne : key ≠ first.1 := fun heq => String.lt_irrefl key (heq ▸ hfirst)
    rw [insert, if_neg hnot, if_neg hne, ih hrest, List.cons_append]

/-- Whether entries ascend is seen from their keys. -/
theorem ascending_of_keys {entries : List (String × α)} (keys : List String)
    (hkeys : entries.map Prod.fst = keys) (h : keys.Pairwise (· < ·)) : Ascending entries := by
  rw [← hkeys] at h
  exact List.pairwise_map.mp h

/-- Pairs in ascending order are entries as they are. -/
theorem ofPairs_eq_self {pairs : List (String × α)} (h : Ascending pairs) :
    ofPairs pairs = pairs := by
  suffices hfold : ∀ front : List (String × α), Ascending (front ++ pairs) →
      pairs.foldl (fun entries pair => insert pair.1 pair.2 entries) front = front ++ pairs from
    hfold [] h
  clear h
  induction pairs with
  | nil => exact fun front _ => (List.append_nil front).symm
  | cons pair rest ih =>
    intro front hfront
    have hbelow : ∀ entry ∈ front, entry.1 < pair.1 := by
      intro entry hentry
      exact (List.pairwise_append.mp hfront).2.2 entry hentry pair List.mem_cons_self
    rw [List.foldl_cons, insert_last hbelow, ih _ (by rwa [List.append_assoc]), List.append_assoc]
    rfl

/-- Every entry is one of the pairs. -/
theorem mem_of_mem_ofPairs {pairs : List (String × α)} {entry : String × α}
    (h : entry ∈ ofPairs pairs) : entry ∈ pairs := by
  suffices hfold : ∀ front : List (String × α),
      entry ∈ pairs.foldl (fun entries pair => insert pair.1 pair.2 entries) front →
        entry ∈ front ∨ entry ∈ pairs from
    (hfold [] h).resolve_left List.not_mem_nil
  clear h
  induction pairs with
  | nil => exact fun front h => .inl h
  | cons pair rest ih =>
    intro front h
    rcases ih _ h with hfront | hrest
    · rcases mem_insert hfront with rfl | hfront
      · exact .inr List.mem_cons_self
      · exact .inl hfront
    · exact .inr (List.mem_cons_of_mem pair hrest)

/-- Every key of the pairs has an entry. -/
theorem isSome_lookup_ofPairs {pairs : List (String × α)} {key : String}
    (h : key ∈ pairs.map Prod.fst) : (lookup key (ofPairs pairs)).isSome := by
  suffices hfold : ∀ front : List (String × α), (lookup key front).isSome ∨
      key ∈ pairs.map Prod.fst → (lookup key
        (pairs.foldl (fun entries pair => insert pair.1 pair.2 entries) front)).isSome from
    hfold [] (.inr h)
  clear h
  induction pairs with
  | nil => exact fun front h => h.resolve_right List.not_mem_nil
  | cons pair rest ih =>
    intro front h
    refine ih _ ?_
    rw [lookup_insert]
    by_cases hkey : key = pair.1
    · exact .inl (by rw [if_pos hkey]; rfl)
    · rw [if_neg hkey]
      exact h.imp_right fun hmem => (List.mem_cons.mp hmem).resolve_left hkey

/-- If no two pairs contradict each other, then the entries are exactly the pairs. -/
theorem mem_ofPairs_iff {pairs : List (String × α)}
    (agree : ∀ pair ∈ pairs, ∀ other ∈ pairs, pair.1 = other.1 → pair = other)
    {entry : String × α} : entry ∈ ofPairs pairs ↔ entry ∈ pairs := by
  refine ⟨mem_of_mem_ofPairs, ?_⟩
  intro hentry
  obtain ⟨value, hvalue⟩ :=
    Option.isSome_iff_exists.mp (isSome_lookup_ofPairs (List.mem_map_of_mem hentry))
  have hmem := (lookup_eq_some_iff (ascending_ofPairs pairs)).mp hvalue
  rwa [agree entry hentry _ (mem_of_mem_ofPairs hmem) rfl]

/-- Under every key there is what the value found there becomes. -/
theorem lookup_map {β : Type} (f : String → α → β) (key : String) (entries : List (String × α)) :
    lookup key (entries.map fun entry => (entry.1, f entry.1 entry.2)) =
      (lookup key entries).map (f key) := by
  induction entries with
  | nil => rfl
  | cons entry entries ih =>
    rw [List.map_cons, lookup, lookup, ih]
    split
    · rename_i h
      rw [h, Option.map_some]
    · rfl

theorem erase_cons (key : String) (first : String × α) (rest : List (String × α)) :
    erase key (first :: rest) =
      if first.1 = key then erase key rest else first :: erase key rest := by
  simp only [erase, List.filter_cons, decide_eq_true_eq, ite_not]

/-- After a key is taken out there is nothing under it, and all other keys have what they had. -/
theorem lookup_erase (key : String) (entries : List (String × α)) (k : String) :
    lookup k (erase key entries) = if k = key then none else lookup k entries := by
  induction entries with
  | nil => exact (ite_self none).symm
  | cons first rest ih =>
    rw [erase_cons]
    by_cases hfirst : first.1 = key
    · rw [if_pos hfirst, ih, lookup, hfirst]
      split
      · rfl
      · rfl
    · rw [if_neg hfirst, lookup, lookup, ih]
      by_cases hk : k = first.1
      · rw [if_pos hk, if_neg (hk ▸ hfirst), if_pos hk]
      · rw [if_neg hk, if_neg hk]

/-- What is inserted under a key is gone after the key is taken out. -/
theorem erase_insert (key : String) (value : α) (entries : List (String × α)) :
    erase key (insert key value entries) = erase key entries := by
  induction entries with
  | nil => rw [insert, erase_cons, if_pos rfl]
  | cons first rest ih =>
    rw [insert]
    split
    · rw [erase_cons, if_pos rfl]
    · split
      · rename_i heq
        rw [erase_cons, erase_cons, if_pos rfl, if_pos heq.symm]
      · rw [erase_cons, erase_cons, ih]

/-- Ascending entries that are found alike are the same. -/
theorem eq_of_lookup {left right : List (String × α)} (hleft : Ascending left)
    (hright : Ascending right) (h : ∀ key, lookup key left = lookup key right) : left = right := by
  have hnodup : ∀ {entries : List (String × α)}, Ascending entries → entries.Nodup := by
    intro entries hentries
    refine List.Pairwise.imp ?_ hentries
    rintro first second hlt rfl
    exact String.lt_irrefl _ hlt
  have hperm : left.Perm right := by
    rw [List.perm_ext_iff_of_nodup (hnodup hleft) (hnodup hright)]
    rintro ⟨key, value⟩
    rw [← lookup_eq_some_iff hleft, ← lookup_eq_some_iff hright, h key]
  refine List.Perm.eq_of_pairwise ?_ hleft hright hperm
  intro first second _ _ hlt hgt
  exact absurd (String.lt_trans hlt hgt) (String.lt_irrefl _)

end LoadWatch.Keyed

namespace LoadWatch.Table

variable {α β γ : Type}

/-- No key comes twice, since keys ascend strictly. -/
theorem nodup_keys (table : Table α) : table.keys.Nodup := by
  have hkeys : table.keys.Pairwise (· < ·) := List.pairwise_map.mpr table.ascending
  exact hkeys.imp fun h => String.ne_of_lt h

/-- A key is there exactly if a lookup finds a value. -/
theorem mem_keys_iff {table : Table α} {key : String} :
    key ∈ table.keys ↔ ∃ value, table.get? key = some value := by
  constructor
  · intro h
    obtain ⟨⟨name, value⟩, hentry, rfl⟩ := List.mem_map.mp h
    exact ⟨value, get?_eq_some_iff.mpr hentry⟩
  · rintro ⟨value, h⟩
    exact List.mem_map.mpr ⟨(key, value), get?_eq_some_iff.mp h, rfl⟩

/-- Tables that are asked alike are the same. -/
theorem eq_of_get? {left right : Table α} (h : ∀ key, left.get? key = right.get? key) :
    left = right := by
  obtain ⟨entries, hentries⟩ := left
  obtain ⟨others, hothers⟩ := right
  obtain rfl := Keyed.eq_of_lookup hentries hothers h
  rfl

/-- A join has exactly the keys of both tables. -/
theorem mem_keys_join_iff {combine : α → β → γ} {left : Table α} {right : Table β} {key : String} :
    key ∈ (left.join combine right).keys ↔ key ∈ left.keys ∧ key ∈ right.keys := by
  rw [mem_keys_iff, mem_keys_iff, mem_keys_iff]
  constructor
  · rintro ⟨value, h⟩
    obtain ⟨l, r, hl, hr, -⟩ := mem_join_iff.mp h
    exact ⟨⟨l, hl⟩, ⟨r, hr⟩⟩
  · rintro ⟨⟨l, hl⟩, ⟨r, hr⟩⟩
    exact ⟨combine l r, mem_join_iff.mpr ⟨l, r, hl, hr, rfl⟩⟩

/-- A join holds under a key of both tables the combination of what they hold. -/
theorem get?_join {combine : α → β → γ} {left : Table α} {right : Table β} {key : String} {l : α}
    {r : β} (hl : left.get? key = some l) (hr : right.get? key = some r) :
    (left.join combine right).get? key = some (combine l r) :=
  mem_join_iff.mpr ⟨l, r, hl, hr, rfl⟩

end LoadWatch.Table
