/-
  Proofs/ModeSwitches.lean --- the switch that selects the mode.

  WHAT THIS FILE IS FOR.  A command line that is not refused has at most one of
  the switches that select a mode, and its mode is that of this switch, or the
  default if there is none (`mode_of_parse`).  So it does not matter in which
  order the switches are tested (`mode_eq_find?`).

  WHERE A SWITCH STANDS.  A flag without a short name is set exactly if its long
  name is among the arguments (`hasFlag_iff_mem`).  A long name is no value of
  another switch, since it starts with a hyphen.  Behind `--` it would be the
  sleep time, which is a number, so that the command line is refused.

  Main results: `hasFlag_iff_mem`, `mode_of_parse` and `mode_eq_find?`.
-/
import LoadWatch.Proofs.SpelledArguments

set_option autoImplicit false

namespace LoadWatch.CommandLine

/-! ## Names and switches -/

/-- Each switch has at most one long name. -/
theorem eq_name_of_ofLong? {name : String} {text : List Char} {switch : Switch}
    (h : Switch.ofLong? text = some switch) (named : (name, switch) ∈ longNames) :
    text = name.toList := by
  have hunique : ∀ one ∈ longNames, ∀ other ∈ longNames, one.2 = other.2 → one.1 = other.1 := by
    decide
  obtain ⟨before, after, hsplit, -⟩ := List.lookup_eq_some_iff.mp h
  have hmem : (String.ofList text, switch) ∈ longNames := by
    rw [hsplit]
    exact List.mem_append_right before List.mem_cons_self
  have hname : String.ofList text = name := hunique _ hmem _ named rfl
  rw [← hname, String.toList_ofList]

namespace Options

@[simp] theorem hasFlag_default (flag : Flag) : ({} : Options).hasFlag flag = false := by
  cases flag <;> rfl

theorem hasFlag_setFlag (options : Options) (flag other : Flag) :
    (options.setFlag flag).hasFlag other = (options.hasFlag other || decide (flag = other)) := by
  cases flag <;> cases other <;> simp [setFlag, hasFlag]

/-- A value changes no flag. -/
theorem hasFlag_assign? {options next : Options} {parameter : Parameter} {text : String}
    (h : options.assign? parameter text = some next) : next.hasFlag = options.hasFlag := by
  cases parameter with
  | hosts | ports | fields =>
    cases h
    rfl
  | rowCount | listCount | timeout | sleepTime =>
    obtain ⟨n, -, rfl⟩ := Option.map_eq_some_iff.mp h
    rfl

end Options

namespace Progress

variable {p q last : Progress}

/-! ## Flags through one argument -/

theorem hasFlag_assign {parameter : Parameter} {text : String}
    (h : p.assign parameter text = .ok q) : q.options.hasFlag = p.options.hasFlag := by
  unfold assign at h
  split at h
  · cases h
  · split at h
    · rename_i options hassign
      cases h
      exact Options.hasFlag_assign? hassign
    · cases h

theorem hasFlag_settle (h : p.settle = .ok q) : q.options.hasFlag = p.options.hasFlag := by
  unfold settle at h
  split at h
  · cases h
    rfl
  · cases h
  · exact (hasFlag_assign h).trans rfl

theorem hasFlag_giveFlag {flag other : Flag} (h : p.giveFlag flag = .ok q) :
    q.options.hasFlag other = (p.options.hasFlag other || decide (flag = other)) := by
  unfold giveFlag at h
  split at h
  · cases h
  · rename_i next hsettle
    split at h
    · cases h
    · cases h
      rw [Options.hasFlag_setFlag, hasFlag_settle hsettle]

theorem hasFlag_giveParameter {parameter : Parameter} {value : Option String}
    (h : p.giveParameter parameter value = .ok q) : q.options.hasFlag = p.options.hasFlag := by
  unfold giveParameter at h
  split at h
  · cases h
  · rename_i next hsettle
    rw [← hasFlag_settle hsettle]
    split at h
    · exact hasFlag_assign h
    · cases h
      rfl

/-- A request is never carried on with. -/
theorem giveRequest_ne_ok {request : Refusal} : p.giveRequest request ≠ .ok q := by
  intro h
  unfold giveRequest at h
  split at h <;> cases h

/-- A value of its own is held as the sleep time. -/
theorem giveValue_holds {text : String} (h : p.giveValue text = .ok q) :
    q.options.hasFlag = p.options.hasFlag ∧ q.pending = some ⟨.sleepTime, some text⟩ ∧
      q.sleepTimeSeen = true ∧ q.valuesOnly = p.valuesOnly := by
  unfold giveValue at h
  split at h
  · cases h
  · split at h
    · cases h
    · rename_i next hsettle
      have hflags := hasFlag_settle hsettle
      cases h
      exact ⟨hflags, rfl, rfl, (settle_frame hsettle).2.1⟩

/-- A text that has no value behind an equals sign is a name. -/
theorem eq_of_splitValue_none {text name : List Char} (h : splitValue text = (name, none)) :
    text = name := by
  unfold splitValue at h
  split at h
  · exact (Prod.mk.inj h).1
  · cases (Prod.mk.inj h).2

/-- A long name gives its flag, and other arguments with two hyphens do not. -/
theorem hasFlag_giveLong {name : String} {flag : Flag} {text : List Char}
    (named : (name, .flag flag) ∈ longNames) (h : p.giveLong text = .ok q) :
    q.options.hasFlag flag = (p.options.hasFlag flag || decide (text = name.toList)) := by
  obtain ⟨hname, -, hequals⟩ := ofLong?_of_mem named
  by_cases htext : text = name.toList
  · subst htext
    rw [giveLong, (splitValue_of_not_mem hequals).1] at h
    simp only [hname] at h
    simp [hasFlag_giveFlag h]
  · have hother : q.options.hasFlag flag = p.options.hasFlag flag := by
      unfold giveLong at h
      split at h
      rename_i written value hsplit
      split at h
      · cases h
      · exact congrFun (hasFlag_giveParameter h) flag
      · cases h
      · rename_i other hwritten
        have hne : other ≠ flag := by
          rintro rfl
          exact htext ((eq_of_splitValue_none hsplit).trans (eq_name_of_ofLong? hwritten named))
        simp [hasFlag_giveFlag h, hne]
      · exact absurd h giveRequest_ne_ok
      · exact absurd h giveRequest_ne_ok
    simp [hother, htext]

/-- Short names do not give a flag that has none. -/
theorem hasFlag_giveShorts {flag : Flag} {text : List Char}
    (unnamed : ∀ name, (name, .flag flag) ∉ shortNames) (h : p.giveShorts text = .ok q) :
    q.options.hasFlag flag = p.options.hasFlag flag := by
  induction text generalizing p with
  | nil =>
    cases h
    rfl
  | cons name text ih =>
    rw [giveShorts] at h
    split at h
    · cases h
    · exact congrFun (hasFlag_giveParameter h) flag
    · rename_i other hshort
      have hne : other ≠ flag := by
        rintro rfl
        obtain ⟨before, after, hsplit, -⟩ := List.lookup_eq_some_iff.mp hshort
        exact unnamed name (hsplit ▸ List.mem_append_right before List.mem_cons_self)
      split at h
      · rename_i next hflag
        rw [ih h, hasFlag_giveFlag hflag]
        simp [hne]
      · cases h
    · exact absurd h giveRequest_ne_ok
    · exact absurd h giveRequest_ne_ok

/-- A value changes no flag. -/
theorem hasFlag_givePlain {text : String} (h : p.givePlain text = .ok q) :
    q.options.hasFlag = p.options.hasFlag := by
  unfold givePlain at h
  split at h
  · cases h
    rfl
  · exact (giveValue_holds h).1

/-- Where switches are looked for, an argument gives a flag exactly if it is its long name. -/
theorem hasFlag_give {name : String} {flag : Flag} {argument : String}
    (named : (name, .flag flag) ∈ longNames) (unnamed : ∀ name, (name, .flag flag) ∉ shortNames)
    (hvaluesOnly : p.valuesOnly = false) (h : p.give argument = .ok q) :
    q.options.hasFlag flag =
      (p.options.hasFlag flag || decide (argument = "--" ++ name)) := by
  obtain ⟨-, hnonempty, -⟩ := ofLong?_of_mem named
  have hargument : argument = "--" ++ name ↔ argument.toList = '-' :: '-' :: name.toList := by
    rw [← String.toList_inj, String.toList_append]
    rfl
  simp only [hargument]
  unfold give at h
  rw [hvaluesOnly] at h
  simp only [Bool.false_eq_true, if_false] at h
  split at h
  · rename_i htext
    cases h
    simp [htext, hnonempty.symm]
  · rename_i text _ htext
    rw [hasFlag_giveLong named h]
    simp [htext]
  · rename_i first rest hlong htext
    rw [hasFlag_giveShorts unnamed h]
    have hne : argument.toList ≠ '-' :: '-' :: name.toList := by
      rw [htext]
      exact fun heq => hlong (List.cons.inj (List.cons.inj heq).2).1
    simp [hne]
  · rename_i hlong _
    rw [hasFlag_givePlain h]
    have hne : argument.toList ≠ '-' :: '-' :: name.toList := hlong name.toList
    simp [hne]

/-! ## Flags through all arguments -/

/-- Behind `--` at most one value is left to be read. -/
theorem eq_nil_of_giveAll {arguments : List String} (hvaluesOnly : p.valuesOnly = true)
    (hseen : p.sleepTimeSeen = true) (h : p.giveAll arguments = .ok q) : arguments = [] := by
  cases arguments with
  | nil => rfl
  | cons argument rest =>
    rw [giveAll_cons] at h
    have hrefused : p.give argument = .error .unknown := by
      rw [give, hvaluesOnly, giveValue, hseen]
      rfl
    rw [hrefused] at h
    cases h

/-- A long name is no number, so that it is refused as the sleep time. -/
theorem settle_longName_ne_ok {name : String}
    (h : p.pending = some ⟨.sleepTime, some ("--" ++ name)⟩) : p.settle ≠ .ok q := by
  have hnumber : Options.readNumber? ("--" ++ name) = none := by simp [Options.readNumber?]
  intro hsettle
  rw [settle, h] at hsettle
  unfold assign at hsettle
  simp only [Options.assign?, hnumber, Option.map_none] at hsettle
  split at hsettle <;> cases hsettle

/-- The flag is set at the end if it was set before or if its long name is among the arguments.
The induction is on the arguments. Where only values are looked for, the long name would be held as
the sleep time, and no settled state would follow. -/
theorem hasFlag_giveAll {name : String} {flag : Flag} {arguments : List String}
    (named : (name, .flag flag) ∈ longNames) (unnamed : ∀ name, (name, .flag flag) ∉ shortNames)
    (h : p.giveAll arguments = .ok q) (hsettle : q.settle = .ok last) :
    last.options.hasFlag flag = true ↔
      p.options.hasFlag flag = true ∨ "--" ++ name ∈ arguments := by
  induction arguments generalizing p with
  | nil =>
    cases h
    simp [hasFlag_settle hsettle]
  | cons argument rest ih =>
    rw [giveAll_cons] at h
    cases hgive : p.give argument with
    | error => rw [hgive] at h; cases h
    | ok next =>
      rw [hgive] at h
      have hrest : next.giveAll rest = .ok q := h
      have hstep : next.options.hasFlag flag =
          (p.options.hasFlag flag || decide (argument = "--" ++ name)) := by
        cases hvaluesOnly : p.valuesOnly with
        | false => exact hasFlag_give named unnamed hvaluesOnly hgive
        | true =>
          have hvalue : p.giveValue argument = .ok next := by
            simpa [give, hvaluesOnly] using hgive
          obtain ⟨hflags, hpending, hseen, honly⟩ := giveValue_holds hvalue
          have hne : argument ≠ "--" ++ name := by
            rintro rfl
            obtain rfl := eq_nil_of_giveAll (honly.trans hvaluesOnly) hseen hrest
            cases hrest
            exact settle_longName_ne_ok hpending hsettle
          simp [hflags, hne]
      rw [ih hrest, hstep, List.mem_cons, Bool.or_eq_true, decide_eq_true_iff, or_assoc,
        @eq_comm _ argument]

end Progress

/-! ## The mode -/

/-- A command line is read by giving all its arguments, looking at what is still pending, and
refusing switches that exclude each other. -/
theorem parse_eq (arguments : List String) : parse arguments =
    (Progress.giveAll {} arguments >>= Progress.settle) >>= fun last =>
      if last.options.conflicting then .error .conflict else .ok last.options := by
  rw [parse]
  cases Progress.giveAll {} arguments with
  | error => rfl
  | ok read =>
    change _ = read.settle >>= _
    cases hsettle : read.settle <;> simp only [hsettle] <;> rfl

/-- What was read when a command line is not refused. -/
theorem parse_eq_ok {arguments : List String} {options : Options}
    (h : parse arguments = .ok options) : ∃ read last, Progress.giveAll {} arguments = .ok read ∧
      read.settle = .ok last ∧ last.options = options ∧ options.conflicting = false := by
  unfold parse at h
  split at h
  · cases h
  · rename_i read hread
    split at h
    · cases h
    · rename_i last hsettle
      split at h
      · cases h
      · rename_i hconflict
        cases h
        exact ⟨read, last, hread, hsettle, rfl, Bool.eq_false_iff.mpr hconflict⟩

/-- A flag without a short name is set exactly if its long name is among the arguments. -/
theorem hasFlag_iff_mem {arguments : List String} {options : Options} {name : String} {flag : Flag}
    (named : (name, .flag flag) ∈ longNames) (unnamed : ∀ name, (name, .flag flag) ∉ shortNames)
    (h : parse arguments = .ok options) :
    options.hasFlag flag = true ↔ "--" ++ name ∈ arguments := by
  obtain ⟨read, last, hread, hsettle, rfl, -⟩ := parse_eq_ok h
  rw [Progress.hasFlag_giveAll named unnamed hread hsettle]
  simp

namespace Options

/-- At most one of the flags that select a mode is set. -/
def AtMostOneMode (options : Options) : Prop :=
  ∀ flag other : Flag, flag.mode?.isSome → other.mode?.isSome →
    options.hasFlag flag = true → options.hasFlag other = true → flag = other

variable {options : Options}

theorem conflicting_eq_false_iff : options.conflicting = false ↔ options.AtMostOneMode := by
  constructor
  · intro h flag other hflag hother hset hset'
    cases flag <;> cases other <;> simp_all [Flag.mode?, hasFlag, conflicting]
  · intro h
    have hlocks := h .locks .operationMetrics rfl rfl
    have hlocks' := h .locks .stat rfl rfl
    have hmetrics := h .operationMetrics .stat rfl rfl
    simp only [hasFlag, reduceCtorEq] at hlocks hlocks' hmetrics
    cases hl : options.locks <;> cases hm : options.operationMetrics <;>
      cases hs : options.stat <;> simp_all [conflicting]

/-- The mode is that of the flag that selects one. -/
theorem mode_eq_of_hasFlag (h : options.AtMostOneMode) {flag : Flag} {mode : Mode}
    (hmode : flag.mode? = some mode) (hset : options.hasFlag flag = true) :
    options.mode = mode := by
  have hother : ∀ other : Flag, other.mode?.isSome → other ≠ flag →
      options.hasFlag other = false := by
    intro other hsome hne
    exact Bool.eq_false_iff.mpr fun hother =>
      hne (h other flag hsome (by rw [hmode]; rfl) hother hset)
  have hlocks := hother .locks rfl
  have hmetrics := hother .operationMetrics rfl
  cases flag <;> simp_all [Flag.mode?, Options.mode, hasFlag]

theorem mode_eq_namespaces (h : ∀ flag : Flag, flag.mode?.isSome → options.hasFlag flag = false) :
    options.mode = .namespaces := by
  have hlocks := h .locks rfl
  have hmetrics := h .operationMetrics rfl
  have hstat := h .stat rfl
  simp_all [Options.mode, hasFlag]

/-- The order in which the flags are tested does not matter. -/
theorem mode_eq_find? (h : options.AtMostOneMode) {order : List Flag}
    (complete : ∀ flag : Flag, flag.mode?.isSome ↔ flag ∈ order) :
    ((order.find? options.hasFlag).bind Flag.mode?).getD .namespaces = options.mode := by
  cases hfind : order.find? options.hasFlag with
  | none =>
    refine (mode_eq_namespaces fun flag hsome => ?_).symm
    exact Bool.eq_false_iff.mpr (List.find?_eq_none.mp hfind flag ((complete flag).mp hsome))
  | some flag =>
    have hsome := (complete flag).mpr (List.mem_of_find?_eq_some hfind)
    obtain ⟨mode, hmode⟩ := Option.isSome_iff_exists.mp hsome
    rw [mode_eq_of_hasFlag h hmode (List.find?_some hfind)]
    simp [hmode]

end Options

/-- A switch among the arguments selects the mode. -/
def Selects (arguments : List String) (mode : Mode) : Prop :=
  ∃ name flag, (name, .flag flag) ∈ longNames ∧ flag.mode? = some mode ∧ "--" ++ name ∈ arguments

/-- The mode of a command line that is not refused is the one that is selected, if one is. -/
theorem mode_of_parse {arguments : List String} {options : Options}
    (h : parse arguments = .ok options) : options.AtMostOneMode ∧
      (∀ mode, Selects arguments mode → options.mode = mode) ∧
      ((∀ mode, ¬Selects arguments mode) → options.mode = .namespaces) := by
  obtain ⟨read, last, -, -, -, hconflict⟩ := parse_eq_ok h
  have hone := Options.conflicting_eq_false_iff.mp hconflict
  have hunnamed : ∀ flag : Flag, flag.mode?.isSome → ∀ name, (name, .flag flag) ∉ shortNames := by
    intro flag hsome name
    cases flag <;> simp_all [shortNames, Flag.mode?]
  refine ⟨hone, ?_, ?_⟩
  · rintro mode ⟨name, flag, named, hmode, hmem⟩
    have hset := (hasFlag_iff_mem named (hunnamed flag (by rw [hmode]; rfl)) h).mpr hmem
    exact Options.mode_eq_of_hasFlag hone hmode hset
  · intro hnone
    refine Options.mode_eq_namespaces fun flag hsome => ?_
    obtain ⟨mode, hmode⟩ := Option.isSome_iff_exists.mp hsome
    have hnamed : Switch.flag flag ≠ .parameter .sleepTime := nofun
    obtain ⟨name, named⟩ := exists_longName hnamed
    rw [Bool.eq_false_iff]
    intro hset
    exact hnone mode ⟨name, flag, named, hmode,
      (hasFlag_iff_mem named (hunnamed flag hsome) h).mp hset⟩

end LoadWatch.CommandLine
