/-
  Proofs/SpelledArguments.lean --- how settings are spelled as arguments.

  WHAT THIS FILE IS FOR.  A setting can be spelled in several ways: with a long
  name or a short one, with its value attached or as an argument of its own, and
  short flags can be put in front of a further short name.  The relation `Gives`
  says which arguments give which settings.  It does not mention the reader.

  READING IS TAKING.  The reader looks at a value in an argument of its own only
  later, at the next switch or at the end.  Its result is nevertheless that of
  taking the settings one after another, at once (`settle_giveAll`).  So what a
  command line asks for depends on its settings alone, and not on their spelling.

  Main result: `settle_giveAll`.
-/
import Mathlib.Data.List.TakeWhile
import LoadWatch.CommandLine.Parse

set_option autoImplicit false

namespace LoadWatch.CommandLine

/-! ## Spellings -/

/-- A setting as it is given. -/
inductive Given where
  | flag (flag : Flag)
  | parameter (parameter : Parameter) (text : String)

/-- What a setting sets. -/
def Given.switch : Given → Switch
  | .flag which => .flag which
  | .parameter which _ => .parameter which

/-- The argument is no switch: at most a single hyphen starts it. -/
def Plain (text : String) : Prop := ∀ rest, text.toList = '-' :: rest → rest = []

/-- The arguments that spell one setting. -/
inductive Spelled : Given → List String → Prop where
  | longFlag {name : String} {flag : Flag} :
      (name, .flag flag) ∈ longNames → Spelled (.flag flag) ["--" ++ name]
  | shortFlag {name : Char} {flag : Flag} :
      (name, .flag flag) ∈ shortNames → Spelled (.flag flag) ["-" ++ name.toString]
  | longAttached {name : String} {parameter : Parameter} {text : String} :
      (name, .parameter parameter) ∈ longNames →
        Spelled (.parameter parameter text) ["--" ++ name ++ "=" ++ text]
  | longApart {name : String} {parameter : Parameter} {text : String} :
      (name, .parameter parameter) ∈ longNames → Plain text →
        Spelled (.parameter parameter text) ["--" ++ name, text]
  | shortAttached {name : Char} {parameter : Parameter} {text : String} :
      (name, .parameter parameter) ∈ shortNames → text ≠ "" → text.toList.head? ≠ some '=' →
        Spelled (.parameter parameter text) ["-" ++ name.toString ++ text]
  | shortEquals {name : Char} {parameter : Parameter} {text : String} :
      (name, .parameter parameter) ∈ shortNames →
        Spelled (.parameter parameter text) ["-" ++ name.toString ++ "=" ++ text]
  | shortApart {name : Char} {parameter : Parameter} {text : String} :
      (name, .parameter parameter) ∈ shortNames → Plain text →
        Spelled (.parameter parameter text) ["-" ++ name.toString, text]
  | sleepTime {text : String} : Plain text → Spelled (.parameter .sleepTime text) [text]

/-- The arguments give the settings, one after another. A short flag may be put in front of the
short names of the next argument. -/
inductive Gives : List String → List Given → Prop where
  | nil : Gives [] []
  | cons {item : Given} {token arguments : List String} {items : List Given} :
      Spelled item token → Gives arguments items → Gives (token ++ arguments) (item :: items)
  | combined {name next : Char} {flag : Flag} {shorts : List Char} {arguments : List String}
      {items : List Given} :
      (name, .flag flag) ∈ shortNames → next ≠ '-' →
        Gives (String.ofList ('-' :: next :: shorts) :: arguments) items →
        Gives (String.ofList ('-' :: name :: next :: shorts) :: arguments) (.flag flag :: items)

/-! ## Names -/

/-- A long name stands for its switch. It is not empty, and has no equals sign. -/
theorem ofLong?_of_mem {name : String} {switch : Switch} (h : (name, switch) ∈ longNames) :
    Switch.ofLong? name.toList = some switch ∧ name.toList ≠ [] ∧ '=' ∉ name.toList := by
  have hall : ∀ pair ∈ longNames, Switch.ofLong? pair.1.toList = some pair.2 ∧
      pair.1.toList ≠ [] ∧ '=' ∉ pair.1.toList := by decide
  exact hall (name, switch) h

/-- A short name stands for its switch. It is no hyphen. -/
theorem ofShort?_of_mem {name : Char} {switch : Switch} (h : (name, switch) ∈ shortNames) :
    Switch.ofShort? name = some switch ∧ name ≠ '-' := by
  have hall : ∀ pair ∈ shortNames, Switch.ofShort? pair.1 = some pair.2 ∧ pair.1 ≠ '-' := by
    decide
  exact hall (name, switch) h

/-- The sleep time has no long name. -/
theorem ne_sleepTime_of_longName {name : String} {parameter : Parameter}
    (h : (name, .parameter parameter) ∈ longNames) : parameter ≠ .sleepTime := by
  rintro rfl
  have hall : ∀ pair ∈ longNames, pair.2 ≠ .parameter .sleepTime := by decide
  exact hall _ h rfl

/-- The sleep time has no short name. -/
theorem ne_sleepTime_of_shortName {name : Char} {parameter : Parameter}
    (h : (name, .parameter parameter) ∈ shortNames) : parameter ≠ .sleepTime := by
  rintro rfl
  have hall : ∀ pair ∈ shortNames, pair.2 ≠ .parameter .sleepTime := by decide
  exact hall _ h rfl

/-- Every switch but the sleep time has a long name. -/
theorem exists_longName {switch : Switch} (h : switch ≠ .parameter .sleepTime) :
    ∃ name, (name, switch) ∈ longNames := by
  cases switch with
  | flag which => cases which <;> simp [longNames]
  | parameter which => cases which <;> simp_all [longNames]
  | help => simp [longNames]
  | version => simp [longNames]

namespace Progress

variable {p q : Progress}

/-! ## Taking settings -/

/-- Takes one setting at once. -/
def take (progress : Progress) : Given → Except Refusal Progress
  | .flag flag =>
    if progress.flags.contains flag then .error .conflict
    else
      .ok { progress with
        options := progress.options.setFlag flag
        flags := flag :: progress.flags }
  | .parameter .sleepTime text => { progress with sleepTimeSeen := true }.assign .sleepTime text
  | .parameter parameter text => progress.assign parameter text

/-- Takes one setting after another. -/
def takeAll : Progress → List Given → Except Refusal Progress
  | progress, [] => .ok progress
  | progress, item :: items => progress.take item >>= fun next => takeAll next items

theorem take_of_ne_sleepTime {parameter : Parameter} (h : parameter ≠ .sleepTime) (text : String) :
    p.take (.parameter parameter text) = p.assign parameter text := by
  cases parameter with
  | sleepTime => exact absurd rfl h
  | _ => rfl

/-! ## What stays as it was -/

/-- The reader is between two settings: it looks for switches and waits for no value. -/
def Between (progress : Progress) : Prop :=
  progress.valuesOnly = false ∧ ∀ parameter, progress.pending ≠ some ⟨parameter, none⟩

/-- Assigning changes neither what is pending nor how arguments are read. -/
theorem assign_frame {parameter : Parameter} {text : String} (h : p.assign parameter text = .ok q) :
    q.pending = p.pending ∧ q.valuesOnly = p.valuesOnly ∧ q.sleepTimeSeen = p.sleepTimeSeen := by
  unfold assign at h
  split at h
  · cases h
  · split at h
    · cases h
      exact ⟨rfl, rfl, rfl⟩
    · cases h

theorem settle_of_pending_none (h : p.pending = none) : p.settle = .ok p := by
  rw [settle, h]

/-- Nothing is pending after it was looked at. -/
theorem settle_frame (h : p.settle = .ok q) :
    q.pending = none ∧ q.valuesOnly = p.valuesOnly ∧ q.sleepTimeSeen = p.sleepTimeSeen := by
  unfold settle at h
  split at h
  · rename_i hnone
    cases h
    exact ⟨hnone, rfl, rfl⟩
  · cases h
  · exact assign_frame h

theorem take_frame {item : Given} (h : p.take item = .ok q) :
    q.pending = p.pending ∧ q.valuesOnly = p.valuesOnly ∧
      (q.sleepTimeSeen = true ↔
        p.sleepTimeSeen = true ∨ item.switch = .parameter .sleepTime) := by
  unfold take at h
  split at h
  · split at h
    · cases h
    · cases h
      simp [Given.switch]
  · obtain ⟨hpending, hvaluesOnly, hseen⟩ := assign_frame h
    exact ⟨hpending, hvaluesOnly, by simp [hseen, Given.switch]⟩
  · rename_i parameter text hparameter
    obtain ⟨hpending, hvaluesOnly, hseen⟩ := assign_frame h
    have hne : parameter ≠ .sleepTime := hparameter
    exact ⟨hpending, hvaluesOnly, by simp [hseen, Given.switch, hne]⟩

/-! ## One argument -/

/-- The text before an equals sign, and what is behind it. -/
theorem splitValue_of_not_mem {name : List Char} (h : '=' ∉ name) :
    splitValue name = (name, none) ∧
      ∀ value, splitValue (name ++ '=' :: value) = (name, some (String.ofList value)) := by
  have hname : ∀ c ∈ name, decide (c ≠ '=') = true := by
    intro c hc
    exact decide_eq_true fun heq => h (heq ▸ hc)
  constructor
  · have hdrop : name.dropWhile (· ≠ '=') = [] := List.dropWhile_eq_nil_iff.mpr hname
    rw [splitValue, hdrop]
  · intro value
    have hdrop : (name ++ '=' :: value).dropWhile (· ≠ '=') = '=' :: value := by
      rw [List.dropWhile_append_of_pos hname]
      rfl
    have htake : (name ++ '=' :: value).takeWhile (· ≠ '=') = name := by
      rw [List.takeWhile_append_of_pos hname]
      simp
    rw [splitValue, hdrop, htake]

theorem give_long {argument : String} {text : List Char} (between : p.Between) (h : text ≠ [])
    (hargument : argument.toList = '-' :: '-' :: text) : p.give argument = p.giveLong text := by
  cases text with
  | nil => exact absurd rfl h
  | cons c text => simp [give, between.1, hargument]

theorem give_shorts {argument : String} {name : Char} {text : List Char} (between : p.Between)
    (h : name ≠ '-') (hargument : argument.toList = '-' :: name :: text) :
    p.give argument = p.giveShorts (name :: text) := by
  simp [give, between.1, hargument, h]

/-- An argument that is no switch is the value that is waited for, or one of its own. -/
theorem give_plain {argument : String} (h : Plain argument) (hvaluesOnly : p.valuesOnly = false) :
    p.give argument = p.givePlain argument := by
  unfold give
  rw [hvaluesOnly]
  simp only [Bool.false_eq_true, if_false]
  split
  · exact absurd (h _ ‹_›) (by simp)
  · exact absurd (h _ ‹_›) (by simp)
  · exact absurd (h _ ‹_›) (by simp)
  · rfl

/-! ## Looking at a value later -/

/-- A value in an argument of its own, which is looked at later. -/
def hold (progress : Progress) (parameter : Parameter) (text : String) : Progress :=
  { progress with
    pending := some ⟨parameter, some text⟩
    sleepTimeSeen := progress.sleepTimeSeen || decide (parameter = .sleepTime) }

/-- Looking at a held value is taking it. -/
theorem settle_hold {parameter : Parameter} {text : String} (h : p.pending = none) :
    (p.hold parameter text).settle = p.take (.parameter parameter text) := by
  obtain ⟨options, flags, parameters, pending, sleepTimeSeen, valuesOnly⟩ := p
  obtain rfl : pending = none := h
  cases parameter <;> simp [hold, settle, take]

/-- A value that no switch waits for is the sleep time. -/
theorem givePlain_between {text : String} (between : p.Between) (h : p.sleepTimeSeen = false) :
    p.givePlain text = p.settle >>= fun next => .ok (next.hold .sleepTime text) := by
  have hvalue : p.givePlain text = p.giveValue text := by
    unfold givePlain
    split
    · exact absurd ‹_› (between.2 _)
    · rfl
  rw [hvalue, giveValue, h]
  cases p.settle with
  | error => rfl
  | ok next =>
    have hhold : next.hold .sleepTime text =
        { next with pending := some ⟨.sleepTime, some text⟩, sleepTimeSeen := true } := by
      simp [hold]
    exact congrArg Except.ok hhold.symm

theorem giveFlag_eq (flag : Flag) : p.giveFlag flag = p.settle >>= (·.take (.flag flag)) := by
  unfold giveFlag
  cases p.settle <;> rfl

theorem giveParameter_attached {parameter : Parameter} (h : parameter ≠ .sleepTime)
    (text : String) : p.giveParameter parameter (some text) =
      p.settle >>= (·.take (.parameter parameter text)) := by
  unfold giveParameter
  cases p.settle with
  | error => rfl
  | ok next => exact (take_of_ne_sleepTime h text).symm

/-- The value that a switch waits for is held. -/
theorem giveParameter_apart {parameter : Parameter} {text : String} (between : p.Between)
    (h : parameter ≠ .sleepTime) (plain : Plain text) :
    (p.giveParameter parameter none >>= (·.give text)) =
      p.settle >>= fun next => .ok (next.hold parameter text) := by
  unfold giveParameter
  cases hsettle : p.settle with
  | error => rfl
  | ok next =>
    have hvaluesOnly : next.valuesOnly = false := (settle_frame hsettle).2.1.trans between.1
    calc give { next with pending := some ⟨parameter, none⟩ } text
        = givePlain { next with pending := some ⟨parameter, none⟩ } text :=
          give_plain plain hvaluesOnly
      _ = .ok (next.hold parameter text) := by simp [givePlain, hold, h]

/-! ## The arguments of one setting -/

theorem giveAll_cons (argument : String) (rest : List String) :
    p.giveAll (argument :: rest) = p.give argument >>= (·.giveAll rest) := by
  rw [giveAll]
  cases p.give argument <;> rfl

theorem giveAll_append (first second : List String) :
    p.giveAll (first ++ second) = p.giveAll first >>= (·.giveAll second) := by
  induction first generalizing p with
  | nil => rfl
  | cons argument first ih =>
    rw [List.cons_append, giveAll_cons, giveAll_cons, bind_assoc]
    exact congrArg (p.give argument >>= ·) (funext fun _ => ih)

theorem giveAll_singleton (argument : String) : p.giveAll [argument] = p.give argument := by
  rw [giveAll_cons]
  exact bind_pure _

theorem giveAll_pair (first second : String) :
    p.giveAll [first, second] = p.give first >>= (·.give second) := by
  rw [giveAll_cons]
  exact congrArg (p.give first >>= ·) (funext fun _ => giveAll_singleton second)

theorem give_longFlag {name : String} {flag : Flag} (between : p.Between)
    (h : (name, .flag flag) ∈ longNames) : p.give ("--" ++ name) = p.giveFlag flag := by
  obtain ⟨hname, hnonempty, hequals⟩ := ofLong?_of_mem h
  rw [give_long between hnonempty (by simp), giveLong, (splitValue_of_not_mem hequals).1]
  simp only [hname]

theorem give_longParameter {name : String} {parameter : Parameter} (between : p.Between)
    (h : (name, .parameter parameter) ∈ longNames) :
    p.give ("--" ++ name) = p.giveParameter parameter none ∧
      ∀ text, p.give ("--" ++ name ++ "=" ++ text) = p.giveParameter parameter (some text) := by
  obtain ⟨hname, hnonempty, hequals⟩ := ofLong?_of_mem h
  obtain ⟨hplain, hvalue⟩ := splitValue_of_not_mem hequals
  constructor
  · rw [give_long between hnonempty (by simp), giveLong, hplain]
    simp only [hname]
  · intro text
    have hargument : ("--" ++ name ++ "=" ++ text).toList =
        '-' :: '-' :: (name.toList ++ '=' :: text.toList) := by simp
    rw [give_long between (by simp) hargument, giveLong, hvalue]
    simp only [hname, String.ofList_toList]

theorem give_shortFlag {name : Char} {flag : Flag} (between : p.Between)
    (h : (name, .flag flag) ∈ shortNames) :
    p.give ("-" ++ name.toString) = p.giveFlag flag := by
  obtain ⟨hname, hhyphen⟩ := ofShort?_of_mem h
  have hargument : ("-" ++ name.toString).toList = ['-', name] := by simp
  rw [give_shorts between hhyphen hargument, giveShorts, hname]
  cases hflag : p.giveFlag flag <;> simp [giveShorts, hflag]

theorem give_shortParameter {name : Char} {parameter : Parameter} (between : p.Between)
    (h : (name, .parameter parameter) ∈ shortNames) (text : String) :
    p.give ("-" ++ name.toString ++ text) =
      p.giveParameter parameter (attachedValue? text.toList) := by
  obtain ⟨hname, hhyphen⟩ := ofShort?_of_mem h
  have hargument : ("-" ++ name.toString ++ text).toList = '-' :: name :: text.toList := by simp
  rw [give_shorts between hhyphen hargument, giveShorts, hname]

/-- The value of a text that is attached to a short name. -/
theorem attachedValue?_of_ne {text : String} (h : text ≠ "")
    (hequals : text.toList.head? ≠ some '=') : attachedValue? text.toList = some text := by
  have htext : String.ofList text.toList = text := String.ofList_toList
  cases hlist : text.toList with
  | nil => exact absurd (by simpa using hlist) h
  | cons c rest =>
    have hc : c ≠ '=' := by simpa [hlist] using hequals
    rw [← hlist, attachedValue?, htext] <;> simp_all

/-- The arguments of a setting are taken at once, or its value is held. -/
theorem giveAll_spelled {item : Given} {token : List String} (spelled : Spelled item token)
    (between : p.Between) (once : item.switch = .parameter .sleepTime → p.sleepTimeSeen = false) :
    p.giveAll token = p.settle >>= (·.take item) ∨
      ∃ parameter text, item = .parameter parameter text ∧
        p.giveAll token = p.settle >>= fun next => .ok (next.hold parameter text) := by
  cases spelled with
  | longFlag h =>
    left
    rw [giveAll_singleton, give_longFlag between h, giveFlag_eq]
  | shortFlag h =>
    left
    rw [giveAll_singleton, give_shortFlag between h, giveFlag_eq]
  | longAttached h =>
    left
    have hne := ne_sleepTime_of_longName h
    rw [giveAll_singleton, (give_longParameter between h).2, giveParameter_attached hne]
  | longApart h plain =>
    right
    have hne := ne_sleepTime_of_longName h
    refine ⟨_, _, rfl, ?_⟩
    rw [giveAll_pair, (give_longParameter between h).1, giveParameter_apart between hne plain]
  | shortAttached h hnonempty hequals =>
    left
    have hne := ne_sleepTime_of_shortName h
    rw [giveAll_singleton, give_shortParameter between h, attachedValue?_of_ne hnonempty hequals,
      giveParameter_attached hne]
  | @shortEquals name parameter text h =>
    left
    have hne := ne_sleepTime_of_shortName h
    have hvalue : attachedValue? ("=" ++ text).toList = some text := by simp [attachedValue?]
    rw [giveAll_singleton, String.append_assoc, give_shortParameter between h, hvalue,
      giveParameter_attached hne]
  | @shortApart name parameter text h plain =>
    right
    have hne := ne_sleepTime_of_shortName h
    refine ⟨_, _, rfl, ?_⟩
    -- Without a text behind it, the short name is an argument to which nothing is attached.
    have hbare := give_shortParameter between h ""
    rw [String.append_empty] at hbare
    rw [giveAll_pair, hbare, ← giveParameter_apart between hne plain]
    rfl
  | @sleepTime text plain =>
    right
    refine ⟨_, _, rfl, ?_⟩
    rw [giveAll_singleton, give_plain plain between.1, givePlain_between between (once rfl)]

/-- A held value is looked at when the next setting is, so that the setting counts as taken. -/
theorem settle_spelled {item : Given} {token : List String} (spelled : Spelled item token)
    (between : p.Between) (once : item.switch = .parameter .sleepTime → p.sleepTimeSeen = false) :
    (p.giveAll token >>= settle) = p.settle >>= (·.take item) := by
  obtain h | ⟨parameter, text, rfl, h⟩ := giveAll_spelled spelled between once
  all_goals
    rw [h]
    cases hsettle : p.settle with
    | error => rfl
    | ok next => ?_
  · -- What is taken at once leaves nothing to be looked at.
    change (next.take item >>= settle) = next.take item
    cases htake : next.take item with
    | error => rfl
    | ok last =>
      exact settle_of_pending_none ((take_frame htake).1.trans (settle_frame hsettle).1)
  · exact settle_hold (settle_frame hsettle).1

/-- After the arguments of a setting the reader is between two settings again. -/
theorem between_spelled {item : Given} {token : List String} (spelled : Spelled item token)
    (between : p.Between) (once : item.switch = .parameter .sleepTime → p.sleepTimeSeen = false)
    (h : p.giveAll token = .ok q) : q.Between ∧
      (q.sleepTimeSeen = true ↔ p.sleepTimeSeen = true ∨ item.switch = .parameter .sleepTime) := by
  obtain hread | ⟨parameter, text, rfl, hread⟩ := giveAll_spelled spelled between once
  all_goals
    rw [hread] at h
    cases hsettle : p.settle with
    | error => rw [hsettle] at h; cases h
    | ok next => ?_
    rw [hsettle] at h
    obtain ⟨hpending, hvaluesOnly, hseen⟩ := settle_frame hsettle
  · obtain ⟨hpending', hvaluesOnly', hseen'⟩ := take_frame h
    refine ⟨⟨hvaluesOnly'.trans (hvaluesOnly.trans between.1), ?_⟩, hseen ▸ hseen'⟩
    rw [hpending', hpending]
    exact fun _ => nofun
  · cases h
    refine ⟨⟨hvaluesOnly.trans between.1, fun _ => nofun⟩, ?_⟩
    simp [hold, hseen, Given.switch]

/-! ## All arguments -/

/-- The sleep time is given at most once, counting what was read before. -/
def SleepTimeOnce (progress : Progress) (items : List Given) : Prop :=
  (items.map Given.switch).count (.parameter .sleepTime) + progress.sleepTimeSeen.toNat ≤ 1

theorem SleepTimeOnce.sleepTimeSeen {item : Given} {items : List Given}
    (once : p.SleepTimeOnce (item :: items)) (h : item.switch = .parameter .sleepTime) :
    p.sleepTimeSeen = false := by
  unfold SleepTimeOnce at once
  rw [List.map_cons, h, List.count_cons_self] at once
  cases hseen : p.sleepTimeSeen with
  | false => rfl
  | true =>
    rw [hseen, Bool.toNat_true] at once
    omega

theorem SleepTimeOnce.tail {item : Given} {items : List Given}
    (once : p.SleepTimeOnce (item :: items))
    (h : q.sleepTimeSeen = true ↔
      p.sleepTimeSeen = true ∨ item.switch = .parameter .sleepTime) : q.SleepTimeOnce items := by
  unfold SleepTimeOnce at once ⊢
  rw [List.map_cons, List.count_cons] at once
  by_cases hitem : item.switch = .parameter .sleepTime <;>
    cases hp : p.sleepTimeSeen <;> cases hq : q.sleepTimeSeen <;> simp_all

/-- A short flag in front of further short names is read as an argument of its own. -/
theorem giveAll_combined {name next : Char} {flag : Flag} {shorts : List Char}
    {arguments : List String} (between : p.Between) (h : (name, .flag flag) ∈ shortNames)
    (hnext : next ≠ '-') :
    p.giveAll (String.ofList ('-' :: name :: next :: shorts) :: arguments) =
      p.giveAll (["-" ++ name.toString] ++ String.ofList ('-' :: next :: shorts) :: arguments) := by
  obtain ⟨hname, hhyphen⟩ := ofShort?_of_mem h
  have hbare : p.giveAll ["-" ++ name.toString] = p.giveFlag flag := by
    rw [giveAll_singleton, give_shortFlag between h]
  have hfirst : p.give (String.ofList ('-' :: name :: next :: shorts)) =
      p.giveFlag flag >>= (·.giveShorts (next :: shorts)) := by
    rw [give_shorts between hhyphen String.toList_ofList, giveShorts, hname]
    cases hflag : p.giveFlag flag <;> simp only [hflag] <;> rfl
  rw [giveAll_append, hbare, giveAll_cons, hfirst, bind_assoc]
  cases hflag : p.giveFlag flag with
  | error => rfl
  | ok q =>
    have hbetween : q.Between :=
      (between_spelled (.shortFlag h) between nofun (hbare.trans hflag)).1
    have hrest : q.give (String.ofList ('-' :: next :: shorts)) = q.giveShorts (next :: shorts) :=
      give_shorts hbetween hnext String.toList_ofList
    change (q.giveShorts (next :: shorts) >>= (·.giveAll arguments)) = q.giveAll _
    rw [giveAll_cons, hrest]

/-- A setting in front of arguments that are read as they are taken. -/
theorem settle_giveAll_cons {item : Given} {token arguments : List String} {items : List Given}
    (spelled : Spelled item token) (between : p.Between) (once : p.SleepTimeOnce (item :: items))
    (ih : ∀ q : Progress, q.Between → q.SleepTimeOnce items →
      (q.giveAll arguments >>= settle) = q.settle >>= (·.takeAll items)) :
    (p.giveAll (token ++ arguments) >>= settle) = p.settle >>= (·.takeAll (item :: items)) := by
  calc (p.giveAll (token ++ arguments) >>= settle)
      = p.giveAll token >>= fun q => q.giveAll arguments >>= settle := by
        rw [giveAll_append, bind_assoc]
    _ = p.giveAll token >>= fun q => q.settle >>= (·.takeAll items) := by
        cases hread : p.giveAll token with
        | error => rfl
        | ok q =>
          obtain ⟨hbetween, hseen⟩ := between_spelled spelled between once.sleepTimeSeen hread
          exact ih q hbetween (once.tail hseen)
    _ = (p.giveAll token >>= settle) >>= (·.takeAll items) := (bind_assoc ..).symm
    _ = (p.settle >>= (·.take item)) >>= (·.takeAll items) := by
        rw [settle_spelled spelled between once.sleepTimeSeen]
    _ = p.settle >>= (·.takeAll (item :: items)) := bind_assoc ..

/-- What is read from the arguments of settings is what is taken from the settings. The induction
is on how the arguments give the settings; the reader is between two settings at each step. -/
theorem settle_giveAll {arguments : List String} {items : List Given} (h : Gives arguments items)
    (between : p.Between) (once : p.SleepTimeOnce items) :
    (p.giveAll arguments >>= settle) = p.settle >>= (·.takeAll items) := by
  induction h generalizing p with
  | nil => exact (bind_pure p.settle).symm
  | cons spelled _ ih => exact settle_giveAll_cons spelled between once fun _ => ih
  | combined h hnext _ ih =>
    rw [giveAll_combined between h hnext]
    exact settle_giveAll_cons (.shortFlag h) between once fun _ => ih

end Progress

end LoadWatch.CommandLine
