/-
  Proofs/CommaLists.lean --- what the items of a list with commas are.

  WHAT THIS FILE IS FOR.  Hosts, ports and fields are given as texts with commas.
  Here it is said what items such a text has, without the functions that take it
  apart: the text is cut at its commas (`Stretches`), what is left of each stretch
  without the blanks around it is found (`Trims`), and what is left empty does
  not count (`commaList_eq_iff`).

  An item neither contains what the text is cut at nor has at its ends what is
  taken away (`IsItem`).  So items can be joined again, with blanks around the
  commas and with stretches of blanks put in anywhere (`Carries`), and what comes
  out are the same items (`commaList_of_carries`).  That is what lets the hosts
  and the ports of one run be written for the next one.

  Main result: `commaList_splits`.
-/
import Mathlib.Data.List.Forall2
import Mathlib.Data.List.TakeWhile
import LoadWatch.CommandLine.Options
import LoadWatch.HostSettings
import LoadWatch.Proofs.Lines

set_option autoImplicit false

namespace LoadWatch.Text

/-! ## Cutting off blanks -/

/-- A text of nothing but blanks. -/
def AllBlank (text : String) : Prop := ∀ c ∈ text.toList, isBlank c = true

/-- A text with no blank at either end. -/
structure Tight (text : String) : Prop where
  starts : ∀ c, text.toList.head? = some c → isBlank c = false
  ends : ∀ c, text.toList.getLast? = some c → isBlank c = false

/-- What is left of a text without the blanks around it. -/
structure Trims (text rest : String) : Prop where
  tight : Tight rest
  surrounded : ∃ before after, AllBlank before ∧ AllBlank after ∧ text = before ++ rest ++ after

section Characters

variable {text before rest after : List Char}

/-- A text that does not start with a blank is not changed by cutting its left end. -/
theorem trimStart_eq_self (h : ∀ c, text.head? = some c → isBlank c = false) :
    trimStart text = text := by
  cases text with
  | nil => rfl
  | cons c text =>
    rw [trimStart, List.dropWhile_cons_of_neg]
    rw [h c rfl]
    exact Bool.false_ne_true

/-- The blanks around a text are cut off, and nothing else is. -/
theorem trim_surrounded (hbefore : ∀ c ∈ before, isBlank c = true)
    (hafter : ∀ c ∈ after, isBlank c = true)
    (starts : ∀ c, rest.head? = some c → isBlank c = false)
    (ends : ∀ c, rest.getLast? = some c → isBlank c = false) :
    trim (before ++ rest ++ after) = rest := by
  have hstart : trimStart (before ++ rest ++ after) = trimStart (rest ++ after) := by
    rw [trimStart, List.append_assoc, List.dropWhile_append_of_pos hbefore, ← trimStart]
  cases rest with
  | nil =>
    have hnil : trimStart after = [] := List.dropWhile_eq_nil_iff.mpr hafter
    rw [trim, hstart, List.nil_append, hnil]
    rfl
  | cons c rest =>
    have hfirst : ∀ d, (c :: rest ++ after).head? = some d → isBlank d = false := starts
    rw [trim, hstart, trimStart_eq_self hfirst, trimEnd_append_of_blank _ hafter,
      trimEnd_eq_self ends]

theorem trimStart_eq_trim_append (text : List Char) :
    ∃ after, trimStart text = trim text ++ after ∧ ∀ c ∈ after, isBlank c = true :=
  trimEnd_append_blanks (trimStart text)

/-- A trimmed text does not start with a blank. -/
theorem head?_trim_not_blank {c : Char} (h : (trim text).head? = some c) : isBlank c = false := by
  obtain ⟨after, hsplit, -⟩ := trimStart_eq_trim_append text
  have hfirst : (trimStart text).head? = some c := by
    rw [hsplit, List.head?_append, h, Option.some_or]
  exact head?_trimStart_not_blank hfirst

end Characters

theorem tight_trim (text : List Char) : Tight (String.ofList (trim text)) where
  starts c h := head?_trim_not_blank (by rwa [String.toList_ofList] at h)
  ends c h := getLast?_trimEnd_not_blank (by rwa [String.toList_ofList] at h)

theorem Trims.eq {text rest : String} (h : Trims text rest) :
    String.ofList (trim text.toList) = rest := by
  obtain ⟨⟨starts, ends⟩, before, after, hbefore, hafter, rfl⟩ := h
  rw [String.toList_append, String.toList_append, trim_surrounded hbefore hafter starts ends,
    String.ofList_toList]

/-- There is one way to take the blanks around a text away. -/
theorem trims_iff (text rest : String) :
    Trims text rest ↔ String.ofList (trim text.toList) = rest := by
  constructor
  · exact Trims.eq
  · rintro rfl
    refine ⟨tight_trim _, ?_⟩
    obtain ⟨after, hsplit, hafter⟩ := trimStart_eq_trim_append text.toList
    refine ⟨String.ofList (text.toList.takeWhile isBlank), String.ofList after, ?_, ?_, ?_⟩
    · intro c hc
      rw [String.toList_ofList] at hc
      exact List.all_eq_true.1 List.all_takeWhile c hc
    · rwa [AllBlank, String.toList_ofList]
    · rw [← String.ofList_append, ← String.ofList_append, List.append_assoc, ← hsplit, trimStart,
        List.takeWhile_append_dropWhile, String.ofList_toList]

/-! ## Items -/

/-- A text that can be an item of a list. -/
structure IsItem (item : String) : Prop where
  nonempty : item ≠ ""
  commaless : ',' ∉ item.toList
  tight : Tight item

/-- The items are the trimmed pieces that are not empty. -/
theorem commaList_eq (text : String) : commaList text =
    ((pieces ',' text.toList).map fun piece => String.ofList (trim piece)).filter (· ≠ "") := by
  have hkept (piece : List Char) :
      (!(trim piece).isEmpty) = decide (String.ofList (trim piece) ≠ "") := by
    rw [Bool.eq_iff_iff]
    simp
  rw [commaList, commaItems, List.filter_map, List.filter_map, List.map_map]
  simp only [Function.comp_def, hkept]

theorem forall₂_trims_iff (stretches rests : List String) : List.Forall₂ Trims stretches rests ↔
    stretches.map (fun stretch => String.ofList (trim stretch.toList)) = rests := by
  have htrims : Trims = fun text rest => String.ofList (trim text.toList) = rest :=
    funext fun text => funext fun rest => propext (trims_iff text rest)
  have hpairs := List.forall₂_map_left_iff (R := Eq) (l := stretches) (u := rests)
    (f := fun stretch => String.ofList (trim stretch.toList))
  rw [htrims, ← hpairs, List.forall₂_eq_eq_eq]

/-- What the items of a text are, without the functions that find them. -/
theorem commaList_eq_iff (text : String) (items : List String) : commaList text = items ↔
    ∃ stretches rests, Stretches ',' text stretches ∧ List.Forall₂ Trims stretches rests ∧
      rests.filter (· ≠ "") = items := by
  simp only [stretches_iff, forall₂_trims_iff, exists_and_left, exists_eq_left, exists_eq_left',
    List.map_map, Function.comp_def, String.toList_ofList, commaList_eq]

theorem isItem_of_mem {text item : String} (h : item ∈ commaList text) : IsItem item := by
  obtain ⟨characters, hmem, rfl⟩ := List.mem_map.mp h
  obtain ⟨piece, -, rfl⟩ := List.mem_map.mp (List.mem_filter.mp hmem).1
  refine ⟨?_, ?_, tight_trim piece⟩
  · exact fun hempty => item_ne_nil hmem (String.ofList_eq_empty_iff.mp hempty)
  · rw [String.toList_ofList]
    exact comma_not_mem_item hmem

/-! ## Lists that are put together -/

/-- A separator between two texts is one between their pieces. -/
theorem pieces_append (separator : Char) (front back : List Char) :
    pieces separator (front ++ separator :: back) =
      pieces separator front ++ pieces separator back := by
  induction front with
  | nil => simp [pieces]
  | cons c front ih =>
    rw [List.cons_append, pieces, pieces, ih]
    split
    · rfl
    · cases hfront : pieces separator front with
      | nil => exact absurd hfront (pieces_ne_nil separator front)
      | cons piece others => rfl

/-- A list that goes on after a comma has the items of both parts. -/
theorem commaList_append (front back : String) :
    commaList (front ++ "," ++ back) = commaList front ++ commaList back := by
  have hcomma : (front ++ "," ++ back).toList = front.toList ++ ',' :: back.toList := by
    rw [String.toList_append, String.toList_append, List.append_assoc]
    rfl
  rw [commaList_eq, commaList_eq, commaList_eq, hcomma, pieces_append, List.map_append,
    List.filter_append]

/-- Stretches carry items in their order: each item is one of them, with any blanks around it, and
between these there can be stretches of blanks. -/
inductive Carries : List String → List String → Prop
  | done : Carries [] []
  | blanks {stretch : String} {stretches items : List String} (blank : AllBlank stretch)
      (rest : Carries stretches items) : Carries (stretch :: stretches) items
  | item {before item after : String} {stretches items : List String}
      (before_blank : AllBlank before) (after_blank : AllBlank after)
      (rest : Carries stretches items) :
      Carries ((before ++ item ++ after) :: stretches) (item :: items)

theorem comma_not_mem_of_allBlank {text : String} (h : AllBlank text) : ',' ∉ text.toList :=
  fun hmem => absurd (h ',' hmem) (by decide)

/-- No comma comes into the stretches but by an item. -/
theorem Carries.commaless {stretches items : List String} (h : Carries stretches items)
    (hitems : ∀ item ∈ items, IsItem item) : ∀ stretch ∈ stretches, ',' ∉ stretch.toList := by
  induction h with
  | done => simp
  | blanks blank rest ih =>
    exact List.forall_mem_cons.mpr ⟨comma_not_mem_of_allBlank blank, ih hitems⟩
  | item before_blank after_blank rest ih =>
    obtain ⟨hitem, hrest⟩ := List.forall_mem_cons.mp hitems
    refine List.forall_mem_cons.mpr ⟨?_, ih hrest⟩
    simp only [String.toList_append, List.mem_append, not_or]
    exact ⟨⟨comma_not_mem_of_allBlank before_blank, hitem.commaless⟩,
      comma_not_mem_of_allBlank after_blank⟩

theorem trims_of_allBlank {text : String} (h : AllBlank text) : Trims text "" :=
  ⟨⟨by simp, by simp⟩, text, "", h, by simp [AllBlank], by simp⟩

/-- What is left of the stretches are the items, but for what is empty. -/
theorem Carries.exists_rests {stretches items : List String} (h : Carries stretches items)
    (hitems : ∀ item ∈ items, IsItem item) :
    ∃ rests, List.Forall₂ Trims stretches rests ∧ rests.filter (· ≠ "") = items := by
  induction h with
  | done => exact ⟨[], .nil, rfl⟩
  | blanks blank rest ih =>
    obtain ⟨rests, htrims, hkept⟩ := ih hitems
    exact ⟨"" :: rests, .cons (trims_of_allBlank blank) htrims, by simpa using hkept⟩
  | item before_blank after_blank rest ih =>
    obtain ⟨hitem, hrest⟩ := List.forall_mem_cons.mp hitems
    obtain ⟨rests, htrims, hkept⟩ := ih hrest
    refine ⟨_ :: rests, .cons ⟨hitem.tight, _, _, before_blank, after_blank, rfl⟩ htrims, ?_⟩
    simpa [hitem.nonempty] using hkept

/-- Items that are joined with commas are the items of what they make up. -/
theorem commaList_of_carries {stretches items : List String} (h : Carries stretches items)
    (hitems : ∀ item ∈ items, IsItem item) : commaList (",".intercalate stretches) = items := by
  obtain ⟨rests, htrims, hkept⟩ := h.exists_rests hitems
  cases stretches with
  | nil =>
    -- A text has a stretch even if it is empty, and nothing is left of that one.
    cases h
    rfl
  | cons first others =>
    have hstretches : Stretches ',' (",".intercalate (first :: others)) (first :: others) :=
      ⟨List.cons_ne_nil first others, h.commaless hitems, rfl⟩
    exact (commaList_eq_iff _ items).mpr ⟨_, rests, hstretches, htrims, hkept⟩

/-! ## Lists with commas -/

/-- The function takes a list with commas apart. -/
structure SplitsAtCommas (split : String → List String) : Prop where
  /-- The items are what is left of the stretches between the commas, in order, without the blanks
  around it and without what is empty then. -/
  trimmed : ∀ text items, split text = items ↔
    ∃ stretches rests, Stretches ',' text stretches ∧ List.Forall₂ Trims stretches rests ∧
      rests.filter (· ≠ "") = items
  isItem : ∀ text, ∀ item ∈ split text, IsItem item
  /-- Joined again, with any blanks around the commas and any stretches of blanks, the items stay
  the same. -/
  rejoined : ∀ text stretches, Carries stretches (split text) →
    split (",".intercalate stretches) = split text
  continued : ∀ front back, split (front ++ "," ++ back) = split front ++ split back

/-- Hosts, ports and fields are all taken apart by one function, which splits at commas. -/
theorem commaList_splits :
    SplitsAtCommas commaList ∧
      (∀ source : HostSettings.Source, source.items = commaList source.value) ∧
      ∀ (options : CommandLine.Options) (server : String) (multipleHosts : Bool),
        (options.pollSettings server multipleHosts).render.fields =
          options.fields.map commaList := by
  refine ⟨⟨commaList_eq_iff, fun _ _ => isItem_of_mem, ?_, commaList_append⟩, ?_, ?_⟩
  · intro text stretches h
    exact commaList_of_carries h fun _ => isItem_of_mem
  · exact fun source => rfl
  · exact fun options server multipleHosts => rfl

/-- Blanks of any kind around the commas are cut off, and blanks within an item are not. -/
example : commaList "\u3000db-1\u00a0,, db 2 ," = ["db-1", "db 2"] := by decide

end LoadWatch.Text
