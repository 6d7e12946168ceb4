/-
  Proofs/CommandLineRoundTrip.lean --- options that are written as a command line and read again.

  WHAT THIS FILE IS FOR.  Options are described by settings: its flags, and a
  text for each value that is not the default one (`Describes`).  However these
  settings are ordered and spelled, the options are read back from them
  (`parse_of_describes`).

  THE ARGUMENT.  Reading is taking one setting after another.  A setting that
  was not given before changes what it is about and nothing else, so that what
  all of them tell is told at the end (`takeAll_fresh`); and that determines the
  options (`Tells.unique`).  A setting that was given before is refused, and
  nothing else is refused as long as the numbers are numbers (`takeAll_repeated`).

  Main results: `parse_of_describes`, `parse_of_clash` and
  `commandLine_roundTrip`, which joins them with the mode that follows.
-/
import Mathlib.Data.List.Nodup
import LoadWatch.Proofs.ModeSwitches

set_option autoImplicit false

namespace LoadWatch.CommandLine

/-! ## Values and their texts -/

/-- The value of a parameter. -/
inductive Setting where
  | text (value : Option String)
  | number (n : Nat)

/-- The value that the options have for a parameter. -/
def Options.setting (options : Options) : Parameter → Setting
  | .hosts => .text options.hosts
  | .ports => .text options.ports
  | .fields => .text options.fields
  | .rowCount => .number options.rowCount
  | .listCount => .number options.listCount
  | .timeout => .number options.timeout
  | .sleepTime => .number options.sleepTime

/-- The text is a number in decimal digits. A plus, and then zeros, may be in front of it. -/
def WritesNumber (n : Nat) (text : String) : Prop :=
  ∃ sign zeros, sign ∈ [[], ['+']] ∧
    text.toList = sign ++ (List.replicate zeros '0' ++ Nat.toDigits 10 n)

/-- The text writes the value. -/
def Setting.WrittenAs : Setting → String → Prop
  | .text value, written => value = some written
  | .number n, written => n < wordCount ∧ WritesNumber n written

/-- The number is read from its text. -/
theorem readNumber?_of_writes {n : Nat} {text : String} (h : n < wordCount)
    (written : WritesNumber n text) : Options.readNumber? text = some n := by
  obtain ⟨sign, zeros, hsign, htext⟩ := written
  generalize hdigits : List.replicate zeros '0' ++ Nat.toDigits 10 n = digits at htext
  have hall : ∀ c ∈ digits, c.isDigit = true := by
    rw [← hdigits]
    intro c hc
    rcases List.mem_append.mp hc with hc | hc
    · rw [List.eq_of_mem_replicate hc]
      rfl
    · exact Nat.isDigit_of_mem_toDigits (by decide) (by decide) hc
  have hnonempty : digits ≠ [] := by
    rw [← hdigits]
    exact List.append_ne_nil_of_right_ne_nil _ Nat.toDigits_ne_nil
  have hvalue : Nat.ofDigitChars 10 digits 0 = n := by
    rw [← hdigits, Nat.ofDigitChars_append, Nat.ofDigitChars_replicate_zero, Nat.mul_zero,
      Nat.ofDigitChars_ten_toDigits]
  have hread : ∀ unsigned, unsigned = digits →
      (if unsigned.isEmpty || !unsigned.all Char.isDigit then none
        else if Nat.ofDigitChars 10 unsigned 0 < wordCount then
          some (Nat.ofDigitChars 10 unsigned 0)
        else none) = some n := by
    rintro unsigned rfl
    have hcheck : (unsigned.isEmpty || !unsigned.all Char.isDigit) = false := by
      rw [List.all_eq_true.mpr hall]
      simpa using hnonempty
    rw [hcheck, hvalue, if_neg Bool.false_ne_true, if_pos h]
  unfold Options.readNumber?
  refine hread _ ?_
  rw [htext]
  rcases List.mem_pair.mp hsign with rfl | rfl
  · -- Digits do not start with a plus, so that they are taken as they are.
    split
    · rename_i rest heq
      have hplus := hall '+' (by rw [← List.nil_append digits, heq]; exact List.mem_cons_self)
      exact absurd hplus (by decide)
    · rfl
  · rfl

namespace Options

theorem setting_setFlag (options : Options) (flag : Flag) :
    (options.setFlag flag).setting = options.setting := by
  funext parameter
  cases flag <;> cases parameter <;> rfl

/-- A value that is written as it must be is set, and nothing else is changed. -/
theorem assign?_of_writtenAs (base : Options) {options : Options} {parameter : Parameter}
    {text : String} (h : (options.setting parameter).WrittenAs text) :
    ∃ next, base.assign? parameter text = some next ∧ next.hasFlag = base.hasFlag ∧
      next.setting parameter = options.setting parameter ∧
      ∀ other, other ≠ parameter → next.setting other = base.setting other := by
  cases parameter with
  | hosts | ports | fields =>
    have htext : _ = some text := h
    refine ⟨_, rfl, rfl, by simp only [setting, htext], ?_⟩
    intro other hother
    cases other <;> simp_all [setting]
  | rowCount | listCount | timeout | sleepTime =>
    have hnumber := readNumber?_of_writes h.1 h.2
    refine ⟨_, Option.map_eq_some_iff.mpr ⟨_, hnumber, rfl⟩, rfl, rfl, ?_⟩
    intro other hother
    cases other <;> simp_all [setting]

/-- A text writes one value. -/
theorem setting_unique {one other : Options} {parameter : Parameter} {text : String}
    (h : (one.setting parameter).WrittenAs text)
    (h' : (other.setting parameter).WrittenAs text) :
    one.setting parameter = other.setting parameter := by
  cases parameter with
  | hosts | ports | fields => exact congrArg Setting.text (Eq.trans h (Eq.symm h'))
  | rowCount | listCount | timeout | sleepTime =>
    have hread := readNumber?_of_writes h.1 h.2
    rw [readNumber?_of_writes h'.1 h'.2] at hread
    exact congrArg Setting.number (Option.some.inj hread).symm

/-- Options are determined by their flags and their values. -/
theorem ext_settings {one other : Options} (flags : ∀ flag, one.hasFlag flag = other.hasFlag flag)
    (settings : ∀ parameter, one.setting parameter = other.setting parameter) : one = other := by
  have hlocks := flags .locks
  have hmetrics := flags .operationMetrics
  have hstat := flags .stat
  have hlatency := flags .sortLatency
  have hjson := flags .json
  have hcores := flags .ignoreCores
  have hall := flags .all
  have hraw := flags .rawNumbers
  have hwrite := flags .writeDotenv
  have hhosts := settings .hosts
  have hports := settings .ports
  have hfields := settings .fields
  have hrows := settings .rowCount
  have hlist := settings .listCount
  have htimeout := settings .timeout
  have hsleep := settings .sleepTime
  cases one
  cases other
  simp_all [hasFlag, setting]

end Options

/-! ## What settings tell -/

/-- The settings lead from one set of options to another. -/
structure Tells (base : Options) (items : List Given) (options : Options) : Prop where
  flags : ∀ flag, options.hasFlag flag = true ↔ base.hasFlag flag = true ∨ .flag flag ∈ items
  given : ∀ parameter text, .parameter parameter text ∈ items →
    (options.setting parameter).WrittenAs text
  kept : ∀ parameter, (∀ text, .parameter parameter text ∉ items) →
    options.setting parameter = base.setting parameter

/-- Settings lead to one set of options only. -/
theorem Tells.unique {base one other : Options} {items : List Given} (h : Tells base items one)
    (h' : Tells base items other) : one = other := by
  refine Options.ext_settings (fun flag => ?_) (fun parameter => ?_)
  · rw [Bool.eq_iff_iff, h.flags, h'.flags]
  · by_cases hgiven : ∃ text, .parameter parameter text ∈ items
    · obtain ⟨text, hmem⟩ := hgiven
      exact Options.setting_unique (h.given _ _ hmem) (h'.given _ _ hmem)
    · have hnone := not_exists.mp hgiven
      rw [h.kept _ hnone, h'.kept _ hnone]

theorem Tells.nil (base : Options) : Tells base [] base where
  flags := by simp
  given := by simp
  kept := fun _ _ => rfl

/-- Settings that set something else do not touch what one setting told. -/
theorem Tells.cons {base next options : Options} {item : Given} {items : List Given}
    (first : Tells base [item] next) (others : Tells next items options)
    (h : item.switch ∉ items.map Given.switch) : Tells base (item :: items) options where
  flags := by
    intro flag
    rw [others.flags, first.flags, List.mem_singleton, List.mem_cons, or_assoc]
  given := by
    intro parameter text hmem
    rcases List.mem_cons.mp hmem with rfl | hmem
    · have hnone : ∀ text', .parameter parameter text' ∉ items :=
        fun text' hmem' => h (List.mem_map.mpr ⟨_, hmem', rfl⟩)
      rw [others.kept parameter hnone]
      exact first.given parameter text List.mem_cons_self
    · exact others.given parameter text hmem
  kept := by
    intro parameter hnone
    rw [others.kept parameter fun text hmem => hnone text (List.mem_cons_of_mem _ hmem)]
    refine first.kept parameter fun text hmem => hnone text ?_
    rw [List.mem_singleton.mp hmem]
    exact List.mem_cons_self

/-- The setting is a flag, or its text writes a value that its parameter can have. -/
def Given.Valid : Given → Prop
  | .flag _ => True
  | .parameter which text => ∃ options : Options, (options.setting which).WrittenAs text

/-- Settings from which options follow write values. -/
theorem Tells.valid {base options : Options} {items : List Given} (h : Tells base items options) :
    ∀ item ∈ items, item.Valid := by
  intro item hmem
  cases item with
  | flag => trivial
  | parameter which text => exact ⟨options, h.given which text hmem⟩

/-! ## Taking what is told -/

namespace Progress

variable {p : Progress}

/-- What was set. -/
def given (progress : Progress) : List Switch :=
  progress.flags.map Switch.flag ++ progress.parameters.map Switch.parameter

/-- What was set before is refused. -/
theorem take_of_mem {item : Given} (h : item.switch ∈ p.given) :
    p.take item = .error .conflict := by
  have hrefused : ∀ (p : Progress) parameter text, parameter ∈ p.parameters →
      p.assign parameter text = .error .conflict := by
    intro p parameter text hmem
    rw [assign, if_pos (List.contains_iff_mem.mpr hmem)]
  cases item with
  | flag which =>
    have hmem : which ∈ p.flags := by simpa [given, Given.switch] using h
    rw [take, if_pos (List.contains_iff_mem.mpr hmem)]
  | parameter which text =>
    have hmem : which ∈ p.parameters := by simpa [given, Given.switch] using h
    cases which <;> exact hrefused _ _ _ hmem

/-- A value that was not set before is set, and nothing else is changed. -/
theorem assign_of_not_mem {parameter : Parameter} {text : String}
    (valid : (Given.parameter parameter text).Valid) (h : parameter ∉ p.parameters) :
    ∃ next, p.assign parameter text = .ok next ∧
      next.given.Perm (.parameter parameter :: p.given) ∧
      Tells p.options [.parameter parameter text] next.options := by
  obtain ⟨options, hwritten⟩ := valid
  obtain ⟨next, hassign, hflags, hset, hkept⟩ := Options.assign?_of_writtenAs p.options hwritten
  refine ⟨{ p with options := next, parameters := parameter :: p.parameters }, ?_,
    List.perm_middle, ?_, ?_, ?_⟩
  · unfold assign
    rw [if_neg (mt List.contains_iff_mem.mp h), hassign]
  · intro flag
    simp [hflags]
  · intro other text' hmem
    obtain ⟨rfl, rfl⟩ := Given.parameter.inj (List.mem_singleton.mp hmem)
    exact hset.symm ▸ hwritten
  · intro other hnone
    refine hkept other ?_
    rintro rfl
    exact hnone text List.mem_cons_self

/-- What was not set before is set, and nothing else is changed. -/
theorem take_of_not_mem {item : Given} (valid : item.Valid) (h : item.switch ∉ p.given) :
    ∃ next, p.take item = .ok next ∧ next.given.Perm (item.switch :: p.given) ∧
      Tells p.options [item] next.options := by
  cases item with
  | flag which =>
    have hmem : which ∉ p.flags := by simpa [given, Given.switch] using h
    refine ⟨_, if_neg (mt List.contains_iff_mem.mp hmem), List.Perm.refl _, ?_, by simp, ?_⟩
    · intro flag
      rw [Options.hasFlag_setFlag, Bool.or_eq_true, decide_eq_true_iff, List.mem_singleton,
        Given.flag.injEq, @eq_comm _ which]
    · intro parameter _
      rw [Options.setting_setFlag]
  | parameter which text =>
    have hmem : which ∉ p.parameters := by simpa [given, Given.switch] using h
    cases which with
    | sleepTime => exact assign_of_not_mem (p := { p with sleepTimeSeen := true }) valid hmem
    | _ => exact assign_of_not_mem valid hmem

/-- Taking a setting moves its switch to what was set. -/
theorem perm_switches {next : Progress} {item : Given} {items : List Given}
    (h : next.given.Perm (item.switch :: p.given)) :
    ((item :: items).map Given.switch ++ p.given).Perm (items.map Given.switch ++ next.given) :=
  List.perm_middle.symm.trans (h.symm.append_left _)

/-- Settings that were not given before, and are given once, are told at the end. The induction is
on the settings, while what was set before grows. -/
theorem takeAll_fresh {items : List Given} (valid : ∀ item ∈ items, item.Valid)
    (fresh : (items.map Given.switch ++ p.given).Nodup) :
    ∃ last, p.takeAll items = .ok last ∧ Tells p.options items last.options := by
  induction items generalizing p with
  | nil => exact ⟨p, rfl, .nil p.options⟩
  | cons item items ih =>
    obtain ⟨hvalid, hothers⟩ := List.forall_mem_cons.mp valid
    have hmem : item.switch ∉ items.map Given.switch ++ p.given := (List.nodup_cons.mp fresh).1
    obtain ⟨hitems, hgiven⟩ := not_or.mp (mt List.mem_append.mpr hmem)
    obtain ⟨next, htake, hperm, htells⟩ := take_of_not_mem hvalid hgiven
    obtain ⟨last, hlast, htells'⟩ := ih hothers ((perm_switches hperm).nodup fresh)
    refine ⟨last, ?_, htells.cons htells' hitems⟩
    rw [takeAll, htake]
    exact hlast

/-- A setting that was given before, or is given twice, is refused. -/
theorem takeAll_repeated {items : List Given} (valid : ∀ item ∈ items, item.Valid)
    (once : p.given.Nodup) (repeated : ¬(items.map Given.switch ++ p.given).Nodup) :
    p.takeAll items = .error .conflict := by
  induction items generalizing p with
  | nil => exact absurd once repeated
  | cons item items ih =>
    obtain ⟨hvalid, hothers⟩ := List.forall_mem_cons.mp valid
    by_cases hgiven : item.switch ∈ p.given
    · rw [takeAll, take_of_mem hgiven]
      rfl
    · obtain ⟨next, htake, hperm, -⟩ := take_of_not_mem hvalid hgiven
      have honce : next.given.Nodup := hperm.nodup_iff.mpr (List.nodup_cons.mpr ⟨hgiven, once⟩)
      rw [takeAll, htake]
      exact ih hothers honce fun hnodup => repeated ((perm_switches hperm).symm.nodup hnodup)

end Progress

/-! ## Options and command lines -/

/-- The settings describe the options: each is given once, and what is not given has its
default. -/
structure Describes (items : List Given) (options : Options) : Prop where
  once : (items.map Given.switch).Nodup
  tells : Tells {} items options

/-- The order of the settings does not matter. -/
theorem Describes.perm {items order : List Given} {options : Options} (h : Describes items options)
    (hperm : order.Perm items) : Describes order options where
  once := (hperm.map Given.switch).symm.nodup h.once
  tells := {
    flags := fun flag => by rw [h.tells.flags, hperm.mem_iff]
    given := fun parameter text hmem => h.tells.given parameter text (hperm.mem_iff.mp hmem)
    kept := fun parameter hnone =>
      h.tells.kept parameter fun text hmem => hnone text (hperm.mem_iff.mpr hmem) }

/-- Reading the arguments of settings is taking the settings from the start. -/
theorem parse_of_gives {arguments : List String} {items : List Given}
    (gives : Gives arguments items)
    (once : (items.map Given.switch).count (.parameter .sleepTime) ≤ 1) :
    parse arguments = Progress.takeAll {} items >>= fun last =>
      if last.options.conflicting then .error .conflict else .ok last.options := by
  have hbetween : Progress.Between {} := ⟨rfl, fun _ => nofun⟩
  rw [parse_eq, Progress.settle_giveAll gives hbetween once]
  rfl

/-- Options are read back from settings that describe them, however these are spelled. -/
theorem parse_of_describes {arguments : List String} {items : List Given} {options : Options}
    (one : options.AtMostOneMode) (describes : Describes items options)
    (gives : Gives arguments items) : parse arguments = .ok options := by
  have honce : (items.map Given.switch).count (.parameter .sleepTime) ≤ 1 :=
    List.nodup_iff_count.mp describes.once _
  have hfresh : (items.map Given.switch ++ Progress.given {}).Nodup :=
    (List.append_nil _).symm ▸ describes.once
  obtain ⟨last, htake, htells⟩ := Progress.takeAll_fresh describes.tells.valid hfresh
  obtain rfl : last.options = options := htells.unique describes.tells
  have hconflict : last.options.conflicting = false := Options.conflicting_eq_false_iff.mpr one
  rw [parse_of_gives gives honce, htake]
  exact if_neg (by rw [hconflict]; exact Bool.false_ne_true)

/-- Settings that do not go together: a switch is given twice, or two modes are selected. -/
def Clash (items : List Given) : Prop :=
  ¬(items.map Given.switch).Nodup ∨
    ∃ flag other : Flag, flag ≠ other ∧ flag.mode?.isSome ∧ other.mode?.isSome ∧
      .flag flag ∈ items ∧ .flag other ∈ items

/-- Settings that do not go together are refused for that, if each of them is valid by itself. -/
theorem parse_of_clash {arguments : List String} {items : List Given}
    (gives : Gives arguments items) (valid : ∀ item ∈ items, item.Valid)
    (once : (items.map Given.switch).count (.parameter .sleepTime) ≤ 1) (clash : Clash items) :
    parse arguments = .error .conflict := by
  rw [parse_of_gives gives once]
  by_cases hnodup : (items.map Given.switch).Nodup
  · -- All settings are taken, and the two modes are refused at the end.
    have hfresh : (items.map Given.switch ++ Progress.given {}).Nodup :=
      (List.append_nil _).symm ▸ hnodup
    obtain ⟨last, htake, htells⟩ := Progress.takeAll_fresh valid hfresh
    obtain hrepeated | ⟨flag, other, hne, hflag, hother, hmem, hmem'⟩ := clash
    · exact absurd hnodup hrepeated
    · have hset := (htells.flags flag).mpr (.inr hmem)
      have hset' := (htells.flags other).mpr (.inr hmem')
      have hconflict : last.options.conflicting = true := by
        rw [← Bool.not_eq_false]
        intro hnone
        exact hne (Options.conflicting_eq_false_iff.mp hnone flag other hflag hother hset hset')
      rw [htake]
      exact if_pos hconflict
  · -- The second of two equal switches is refused where it is given.
    have hrepeated : ¬(items.map Given.switch ++ Progress.given {}).Nodup :=
      (List.append_nil _).symm ▸ hnodup
    have honce : (Progress.given {}).Nodup := List.nodup_nil
    rw [Progress.takeAll_repeated valid honce hrepeated]
    rfl

/-! ## A command line for all options -/

/-- The numbers of the options are numbers of 64 bits. -/
def Options.InRange (options : Options) : Prop :=
  ∀ parameter n, options.setting parameter = .number n → n < wordCount

/-- The text of a value, if it has one. -/
def Setting.text? : Setting → Option String
  | .text value => value
  | .number n => some (String.ofList (Nat.toDigits 10 n))

/-- All flags. -/
def everyFlag : List Flag :=
  [.locks, .operationMetrics, .stat, .sortLatency, .json, .ignoreCores, .all, .rawNumbers,
    .writeDotenv]

/-- All parameters. -/
def everyParameter : List Parameter :=
  [.hosts, .ports, .rowCount, .listCount, .fields, .timeout, .sleepTime]

/-- The settings of options: their flags, and the values that have a text. -/
def Options.items (options : Options) : List Given :=
  (everyFlag.filter options.hasFlag).map .flag ++
    everyParameter.filterMap fun parameter =>
      (options.setting parameter).text?.map (.parameter parameter)

theorem mem_items_flag {options : Options} {flag : Flag} :
    .flag flag ∈ options.items ↔ options.hasFlag flag = true := by
  have hevery : flag ∈ everyFlag := by cases flag <;> decide
  simp [Options.items, hevery]

theorem mem_items_parameter {options : Options} {parameter : Parameter} {text : String} :
    .parameter parameter text ∈ options.items ↔
      (options.setting parameter).text? = some text := by
  have hevery : parameter ∈ everyParameter := by cases parameter <;> decide
  rw [Options.items, List.mem_append, List.mem_filterMap]
  constructor
  · rintro (hflag | ⟨other, -, htext⟩)
    · obtain ⟨flag, -, heq⟩ := List.mem_map.mp hflag
      cases heq
    · obtain ⟨text', htext', heq⟩ := Option.map_eq_some_iff.mp htext
      obtain ⟨rfl, rfl⟩ := Given.parameter.inj heq
      exact htext'
  · intro htext
    exact .inr ⟨parameter, hevery, by rw [htext, Option.map_some]⟩

/-- The settings of options are switched one by one, so that none is given twice. -/
theorem nodup_items (options : Options) : (options.items.map Given.switch).Nodup := by
  rw [Options.items, List.map_append, List.map_map, List.map_filterMap, List.nodup_append]
  refine ⟨?_, ?_, ?_⟩
  · exact ((by decide : everyFlag.Nodup).filter _).map fun flag other heq => Switch.flag.inj heq
  · refine (by decide : everyParameter.Nodup).filterMap fun parameter other switch hmem hmem' => ?_
    simp only [Option.mem_def, Option.map_map, Option.map_eq_some_iff] at hmem hmem'
    obtain ⟨text, -, rfl⟩ := hmem
    obtain ⟨text', -, heq⟩ := hmem'
    exact (Switch.parameter.inj heq).symm
  · intro switch hmem switch' hmem' heq
    obtain ⟨flag, -, rfl⟩ := List.mem_map.mp hmem
    obtain ⟨parameter, -, htext⟩ := List.mem_filterMap.mp hmem'
    simp only [Option.map_map, Option.map_eq_some_iff] at htext
    obtain ⟨text, -, rfl⟩ := htext
    cases heq

/-- The text of a value writes it. -/
theorem writtenAs_of_text? {setting : Setting} {text : String}
    (inRange : ∀ n, setting = .number n → n < wordCount) (h : setting.text? = some text) :
    setting.WrittenAs text := by
  cases setting with
  | text value => exact h
  | number n =>
    obtain rfl := Option.some.inj h
    exact ⟨inRange n rfl, [], 0, List.mem_cons_self, String.toList_ofList⟩

theorem describes_items {options : Options} (inRange : options.InRange) :
    Describes options.items options where
  once := nodup_items options
  tells := {
    flags := fun flag => by
      simp [mem_items_flag]
    given := fun parameter text hmem =>
      writtenAs_of_text? (inRange parameter) (mem_items_parameter.mp hmem)
    kept := fun parameter hnone => by
      -- Only a text can be absent, and then it has its default.
      have htext : (options.setting parameter).text? = none :=
        Option.eq_none_iff_forall_ne_some.mpr fun text heq =>
          hnone text (mem_items_parameter.mpr heq)
      cases parameter with
      | hosts | ports | fields => exact congrArg Setting.text htext
      | rowCount | listCount | timeout | sleepTime => cases htext }

/-- A number is no switch. -/
theorem plain_of_writesNumber {n : Nat} {text : String} (h : WritesNumber n text) : Plain text := by
  obtain ⟨sign, zeros, hsign, htext⟩ := h
  intro rest hrest
  have hmem : '-' ∈ text.toList := hrest ▸ List.mem_cons_self
  rw [htext, List.mem_append, List.mem_append] at hmem
  rcases hmem with hmem | hmem | hmem
  · rcases List.mem_pair.mp hsign with rfl | rfl <;> simp at hmem
  · exact absurd (List.eq_of_mem_replicate hmem) (by decide)
  · exact absurd (Nat.isDigit_of_mem_toDigits (by decide) (by decide) hmem) (by decide)

/-- A valid setting can be spelled. -/
theorem exists_spelled {item : Given} (valid : item.Valid) : ∃ token, Spelled item token := by
  by_cases h : item.switch = .parameter .sleepTime
  · cases item with
    | flag => cases h
    | parameter which text =>
      obtain rfl : which = .sleepTime := Switch.parameter.inj h
      obtain ⟨options, -, hwrites⟩ := valid
      exact ⟨_, .sleepTime (plain_of_writesNumber hwrites)⟩
  · obtain ⟨name, named⟩ := exists_longName h
    cases item with
    | flag => exact ⟨_, .longFlag named⟩
    | parameter => exact ⟨_, .longAttached named⟩

/-- Valid settings can be given by a command line. -/
theorem exists_gives {items : List Given} (valid : ∀ item ∈ items, item.Valid) :
    ∃ arguments, Gives arguments items := by
  induction items with
  | nil => exact ⟨[], .nil⟩
  | cons item items ih =>
    obtain ⟨hvalid, hothers⟩ := List.forall_mem_cons.mp valid
    obtain ⟨token, spelled⟩ := exists_spelled hvalid
    obtain ⟨arguments, gives⟩ := ih hothers
    exact ⟨token ++ arguments, .cons spelled gives⟩

/-! ## The round trip -/

/-- Options are read back from each order and each spelling of their settings. The mode of a
command line that is not refused is that of the only switch which selects one, so that the order in
which such switches are tested does not matter. Settings that do not go together are refused. -/
theorem commandLine_roundTrip :
    (∀ options : Options, options.AtMostOneMode → options.InRange →
      (∃ items arguments, Describes items options ∧ Gives arguments items) ∧
      ∀ items order arguments, Describes items options → order.Perm items →
        Gives arguments order → parse arguments = .ok options) ∧
    (∀ arguments options, parse arguments = .ok options →
      options.AtMostOneMode ∧
      (∀ mode, Selects arguments mode → options.mode = mode) ∧
      ((∀ mode, ¬Selects arguments mode) → options.mode = .namespaces) ∧
      ∀ tests : List Flag, (∀ flag : Flag, flag.mode?.isSome ↔ flag ∈ tests) →
        ((tests.find? options.hasFlag).bind Flag.mode?).getD .namespaces = options.mode) ∧
    ∀ items arguments, Gives arguments items → (∀ item ∈ items, item.Valid) →
      (items.map Given.switch).count (.parameter .sleepTime) ≤ 1 → Clash items →
      parse arguments = .error .conflict := by
  refine ⟨?_, ?_, ?_⟩
  · intro options one inRange
    have hdescribes := describes_items inRange
    obtain ⟨arguments, gives⟩ := exists_gives hdescribes.tells.valid
    refine ⟨⟨options.items, arguments, hdescribes, gives⟩, ?_⟩
    intro items order arguments describes hperm gives
    exact parse_of_describes one (describes.perm hperm) gives
  · intro arguments options h
    obtain ⟨one, selected, unselected⟩ := mode_of_parse h
    exact ⟨one, selected, unselected, fun _ complete => Options.mode_eq_find? one complete⟩
  · intro items arguments gives valid once clash
    exact parse_of_clash gives valid once clash

/-- Options with settings of every kind. -/
def busyOptions : Options where
  hosts := some "-a=b,c"
  stat := true
  rowCount := 3
  listCount := 7
  sortLatency := true
  sleepTime := 5

/-- The settings of these options, as texts. -/
def busySettings : List Given :=
  [.flag .sortLatency, .parameter .rowCount "3", .parameter .hosts "-a=b,c",
    .parameter .sleepTime "+05", .parameter .listCount "7", .flag .stat]

theorem describes_busySettings : Describes busySettings busyOptions where
  once := by decide
  tells := {
    flags := by
      intro flag
      cases flag <;> simp [busySettings, busyOptions, Options.hasFlag]
    given := by
      intro parameter text hmem
      simp only [busySettings, List.mem_cons, Given.parameter.injEq, List.not_mem_nil, reduceCtorEq,
        false_or, or_false] at hmem
      rcases hmem with ⟨rfl, rfl⟩ | ⟨rfl, rfl⟩ | ⟨rfl, rfl⟩ | ⟨rfl, rfl⟩
      · exact ⟨by decide, [], 0, by decide, by decide⟩
      · rfl
      · exact ⟨by decide, ['+'], 1, by decide, by decide⟩
      · exact ⟨by decide, [], 0, by decide, by decide⟩
    kept := by
      intro parameter hnone
      cases parameter with
      | ports | fields | timeout => rfl
      | hosts => exact absurd (by simp [busySettings]) (hnone "-a=b,c")
      | rowCount => exact absurd (by simp [busySettings]) (hnone "3")
      | listCount => exact absurd (by simp [busySettings]) (hnone "7")
      | sleepTime => exact absurd (by simp [busySettings]) (hnone "+05") }

/-- The settings are spelled as `-sn3 --hosts=-a=b,c +05 -l 7 --stat`. -/
theorem gives_busySettings :
    Gives ["-sn3", "--hosts=-a=b,c", "+05", "-l", "7", "--stat"] busySettings := by
  have hplus : Plain "+05" := by
    intro rest h
    cases h
  have hseven : Plain "7" := by
    intro rest h
    cases h
  have hrows : Spelled (.parameter .rowCount "3") ["-n3"] :=
    Spelled.shortAttached (by decide : ('n', Switch.parameter .rowCount) ∈ shortNames) (by decide)
      (by decide)
  have hhosts : Spelled (.parameter .hosts "-a=b,c") ["--hosts=-a=b,c"] :=
    Spelled.longAttached (by decide : ("hosts", Switch.parameter .hosts) ∈ longNames)
  have hlist : Spelled (.parameter .listCount "7") ["-l", "7"] :=
    Spelled.shortApart (by decide : ('l', Switch.parameter .listCount) ∈ shortNames) hseven
  have hstat : Spelled (.flag .stat) ["--stat"] :=
    Spelled.longFlag (by decide : ("stat", Switch.flag .stat) ∈ longNames)
  have hlatency : ('s', Switch.flag .sortLatency) ∈ shortNames := by decide
  exact .combined hlatency (by decide)
    (.cons hrows (.cons hhosts (.cons (.sleepTime hplus) (.cons hlist (.cons hstat .nil)))))

/-- The options are read back and give their mode, and with two switches for a mode the same
settings are refused. -/
theorem busySettings_roundTrip :
    parse ["-sn3", "--hosts=-a=b,c", "+05", "-l", "7", "--stat"] = .ok busyOptions ∧
      busyOptions.mode = .stat ∧
      parse ["--locks", "-sn3", "--hosts=-a=b,c", "+05", "-l", "7", "--stat"] =
        .error .conflict := by
  have hone : busyOptions.AtMostOneMode := Options.conflicting_eq_false_iff.mp rfl
  have hrange : busyOptions.InRange := by
    intro parameter n h
    cases parameter <;> cases h <;> decide
  have hread := (commandLine_roundTrip.1 busyOptions hone hrange).2 busySettings busySettings _
    describes_busySettings (List.Perm.refl _) gives_busySettings
  have hmode := (commandLine_roundTrip.2.1 _ busyOptions hread).2.1 .stat
    ⟨"stat", .stat, by decide, rfl, by decide⟩
  have hlocks : Spelled (.flag .locks) ["--locks"] :=
    Spelled.longFlag (by decide : ("locks", Switch.flag .locks) ∈ longNames)
  have hboth : Gives ["--locks", "-sn3", "--hosts=-a=b,c", "+05", "-l", "7", "--stat"]
      (.flag .locks :: busySettings) := .cons hlocks gives_busySettings
  have hvalid : ∀ item ∈ Given.flag .locks :: busySettings, item.Valid :=
    List.forall_mem_cons.mpr ⟨trivial, describes_busySettings.tells.valid⟩
  have hclash : Clash (.flag .locks :: busySettings) :=
    .inr ⟨.locks, .stat, by decide, rfl, rfl, by simp, by simp [busySettings]⟩
  exact ⟨hread, hmode, commandLine_roundTrip.2.2 _ _ hboth hvalid (by decide) hclash⟩

end LoadWatch.CommandLine
