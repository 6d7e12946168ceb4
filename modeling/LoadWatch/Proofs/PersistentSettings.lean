/-
  Proofs/PersistentSettings.lean --- settings that are kept for the next run.

  WHAT THIS FILE IS FOR.  Where the hosts and the ports come from is decided for
  each of them on its own (`Takes`).  On request the values that were given are
  kept in a file, and a later run finds them in its environment.  Here the two
  runs are put together: the later one polls the same servers.

  WHAT THE FILE HOLDS.  It has one line for each value that was given, in the
  order of the names, and nothing else (`Keeps`).  It does not have the defaults,
  so the later run takes them from where the first one took them.

  How a line is read as a variable is left open.  All that is asked is that the
  lines that were written are read as what they were written for.

  Main result: `settings_persist`.
-/
import Mathlib.Data.List.Basic
import LoadWatch.HostSettings
import LoadWatch.Keyed
import LoadWatch.Proofs.Lines

set_option autoImplicit false

namespace LoadWatch.HostSettings

open Text

/-! ## Where values come from -/

/-- The value that a setting takes: that of the switch, or else that of the variable, or else the
default. -/
inductive Source.Takes (source : Source) : String → Prop
  | switch {text : String} (given : source.switch = some text) : Takes source text
  | environment {text : String} (absent : source.switch = none)
      (given : source.environment = some text) : Takes source text
  | default (absent : source.switch = none) (unset : source.environment = none) :
      Takes source source.default

/-- The value does not come from the default. -/
def Source.IsGiven (source : Source) (text : String) : Prop :=
  source.switch = some text ∨ source.switch = none ∧ source.environment = some text

theorem Source.given?_eq_some_iff {source : Source} {text : String} :
    source.given? = some text ↔ source.IsGiven text := by
  unfold given? IsGiven
  cases source.switch <;> simp

theorem Source.value_of_takes {source : Source} {text : String} (h : source.Takes text) :
    source.value = text := by
  cases h with
  | switch given => simp [value, given?, given]
  | environment absent given => simp [value, given?, absent, given]
  | default absent unset => simp [value, given?, absent, unset]

theorem Source.exists_takes (source : Source) : ∃ text, source.Takes text := by
  cases hswitch : source.switch with
  | some text => exact ⟨text, .switch hswitch⟩
  | none =>
    cases hvariable : source.environment with
    | some text => exact ⟨text, .environment hswitch hvariable⟩
    | none => exact ⟨_, .default hswitch hvariable⟩

/-- What is given is recorded under the name of its variable. -/
theorem Source.mem_changed_iff {source : Source} {name text : String} :
    (name, text) ∈ source.changed ↔ name = source.name ∧ source.IsGiven text := by
  rw [← given?_eq_some_iff, changed]
  cases source.given? with
  | none => simp
  | some given => simp [eq_comm]

/-! ## What the file holds -/

/-- The text consists of the given lines, each with its end. -/
def HasLines (content : String) (texts : List String) : Prop :=
  pieces '\n' content.toList = texts.map String.toList ++ [[]]

/-- The line that sets a variable, without its end. -/
def assignment (entry : String × String) : String := entry.1 ++ "=" ++ entry.2

/-- The content has a line for each value that was given, in the order of the names, and no other
line. -/
def Keeps (hosts ports : Source) (content : String) : Prop :=
  ∃ entries, Keyed.Ascending entries ∧ HasLines content (entries.map assignment) ∧
    ∀ name text, (name, text) ∈ entries ↔
      name = hosts.name ∧ hosts.IsGiven text ∨ name = ports.name ∧ ports.IsGiven text

theorem toList_variablesContent (entries : List (String × String)) :
    (variablesContent entries).toList =
      (((entries.map assignment).map String.toList).map fun text => text ++ ['\n']).flatten := by
  induction entries with
  | nil => rfl
  | cons entry entries ih =>
    have hcons : variablesContent (entry :: entries) =
        assignment entry ++ "\n" ++ variablesContent entries := by
      rw [variablesContent, List.map_cons, String.join_cons]
      rfl
    rw [hcons, String.toList_append, String.toList_append, ih]
    rfl

section

variable {hosts ports : Source}

theorem ascending_changedVariables (names : hosts.name < ports.name) :
    Keyed.Ascending (changedVariables hosts ports) := by
  have single : ∀ source : Source, Keyed.Ascending source.changed := by
    intro source
    unfold Source.changed
    split
    · exact List.pairwise_singleton _ _
    · exact List.Pairwise.nil
  refine List.pairwise_append.mpr ⟨single hosts, single ports, ?_⟩
  rintro ⟨name, text⟩ hhost ⟨name', text'⟩ hport
  rw [(Source.mem_changed_iff.mp hhost).1, (Source.mem_changed_iff.mp hport).1]
  exact names

theorem mem_changedVariables_iff {name text : String} :
    (name, text) ∈ changedVariables hosts ports ↔
      name = hosts.name ∧ hosts.IsGiven text ∨ name = ports.name ∧ ports.IsGiven text := by
  rw [changedVariables, List.mem_append, Source.mem_changed_iff, Source.mem_changed_iff]

/-- There is something to write exactly if a value does not come from the default. -/
theorem changedVariables_ne_nil_iff :
    changedVariables hosts ports ≠ [] ↔ ∃ text, hosts.IsGiven text ∨ ports.IsGiven text := by
  constructor
  · intro h
    obtain ⟨⟨name, text⟩, hentry⟩ := List.exists_mem_of_ne_nil _ h
    exact ⟨text, (mem_changedVariables_iff.mp hentry).imp And.right And.right⟩
  · rintro ⟨text, given | given⟩
    · exact List.ne_nil_of_mem (mem_changedVariables_iff.mpr (.inl ⟨rfl, given⟩))
    · exact List.ne_nil_of_mem (mem_changedVariables_iff.mpr (.inr ⟨rfl, given⟩))

/-- What is recorded has no line ends of its own. -/
theorem oneLine_assignment (hostsName : OneLine hosts.name) (portsName : OneLine ports.name)
    (hostsLine : ∀ text, hosts.IsGiven text → OneLine text)
    (portsLine : ∀ text, ports.IsGiven text → OneLine text) :
    ∀ entry ∈ changedVariables hosts ports, OneLine (assignment entry) := by
  rintro ⟨name, text⟩ h
  have hparts : OneLine name ∧ OneLine text := by
    rcases mem_changedVariables_iff.mp h with ⟨hname, given⟩ | ⟨hname, given⟩
    · exact ⟨hname ▸ hostsName, hostsLine _ given⟩
    · exact ⟨hname ▸ portsName, portsLine _ given⟩
  have hequals : '\n' ∉ "=".toList := by decide
  unfold OneLine assignment
  rw [String.toList_append, String.toList_append, List.mem_append, List.mem_append]
  exact not_or.mpr ⟨not_or.mpr ⟨hparts.1, hequals⟩, hparts.2⟩

theorem hasLines_variablesContent {entries : List (String × String)}
    (oneLine : ∀ entry ∈ entries, OneLine (assignment entry)) :
    HasLines (variablesContent entries) (entries.map assignment) := by
  have htexts : ∀ text ∈ (entries.map assignment).map String.toList, '\n' ∉ text := by
    intro text htext
    obtain ⟨_, hline, rfl⟩ := List.mem_map.mp htext
    obtain ⟨entry, hentry, rfl⟩ := List.mem_map.mp hline
    exact oneLine entry hentry
  rw [HasLines, toList_variablesContent, pieces_flatten htexts]

/-- What is written keeps the values that were given. -/
theorem keeps_variablesContent (names : hosts.name < ports.name)
    (oneLine : ∀ entry ∈ changedVariables hosts ports, OneLine (assignment entry)) :
    Keeps hosts ports (variablesContent (changedVariables hosts ports)) :=
  ⟨changedVariables hosts ports, ascending_changedVariables names,
    hasLines_variablesContent oneLine, fun _ _ => mem_changedVariables_iff⟩

/-- What a request to write does to the file: it is written exactly if there is a request, a value
that does not come from a default, and a file that can be opened. -/
structure Writes (hosts ports : Source) (requested : Bool) (file after : VariablesFile)
    (result : Except WriteFault Unit) : Prop where
  written : requested = true → (∃ text, hosts.IsGiven text ∨ ports.IsGiven text) →
    (∀ content, file ≠ .unwritable content) →
      result = .ok () ∧ ∃ content, after = .present content ∧ Keeps hosts ports content
  unopened : requested = true → (∃ text, hosts.IsGiven text ∨ ports.IsGiven text) →
    ∀ content, file = .unwritable content → result = .error .cannotOpen ∧ after = file
  untouched : (requested = true → ¬∃ text, hosts.IsGiven text ∨ ports.IsGiven text) →
    result = .ok () ∧ after = file

theorem writes_writeVariables (names : hosts.name < ports.name)
    (oneLine : ∀ entry ∈ changedVariables hosts ports, OneLine (assignment entry))
    (requested : Bool) (file : VariablesFile) :
    Writes hosts ports requested file
      (writeVariables requested (changedVariables hosts ports) file).2
      (writeVariables requested (changedVariables hosts ports) file).1 := by
  have hwanted : wantsWriting requested (changedVariables hosts ports) = true ↔
      requested = true ∧ ∃ text, hosts.IsGiven text ∨ ports.IsGiven text := by
    rw [wantsWriting_eq_true_iff, changedVariables_ne_nil_iff]
  refine ⟨fun request given opens => ?_, fun request given content fails => ?_, fun idle => ?_⟩
  · have hkeeps := keeps_variablesContent names oneLine
    unfold writeVariables
    rw [if_pos (hwanted.mpr ⟨request, given⟩)]
    cases file with
    | absent => exact ⟨rfl, _, rfl, hkeeps⟩
    | present content => exact ⟨rfl, _, rfl, hkeeps⟩
    | unwritable content => exact absurd rfl (opens content)
  · unfold writeVariables
    rw [if_pos (hwanted.mpr ⟨request, given⟩), fails]
    exact ⟨rfl, rfl⟩
  · unfold writeVariables
    rw [if_neg fun wanted => idle (hwanted.mp wanted).1 (hwanted.mp wanted).2]
    exact ⟨rfl, rfl⟩

/-- A directory in the place of the file stays what it is. -/
example : writeVariables true [("TOPSTAT_HOSTS", "db-1")] .directory =
    (.error .cannotOpen, .directory) := rfl

end

/-! ## The next run -/

/-- The variable with a name in the environment that the lines of a file make up. -/
def environmentOf (readLine : String → Option (String × String)) (file : VariablesFile)
    (name : String) : Option String :=
  match file with
  | .present content | .unwritable (some content) =>
    Keyed.lookup name (((lines content).map String.ofList).filterMap readLine)
  | .absent | .unwritable none => none

/-- Lines that are read as what they were written for give the variables back. -/
theorem filterMap_lines {readLine : String → Option (String × String)}
    {entries : List (String × String)} {content : String}
    (hasLines : HasLines content (entries.map assignment))
    (reads : ∀ entry ∈ entries, readLine (assignment entry) = some entry) :
    ((lines content).map String.ofList).filterMap readLine = entries := by
  have hlines : (lines content).map String.ofList = entries.map assignment := by
    rw [lines, hasLines, List.dropLast_concat, List.map_map]
    exact List.map_id'' (fun _ => String.ofList_toList) _
  rw [hlines, List.filterMap_map]
  exact (List.filterMap_congr reads).trans List.filterMap_some

/-- In the environment of a file that keeps them, the variables have the values that were given. -/
theorem environmentOf_keeps {hosts ports : Source} (names : hosts.name ≠ ports.name)
    {content : String} (keeps : Keeps hosts ports content)
    {readLine : String → Option (String × String)}
    (hostsRead : ∀ text, hosts.IsGiven text →
      readLine (assignment (hosts.name, text)) = some (hosts.name, text))
    (portsRead : ∀ text, ports.IsGiven text →
      readLine (assignment (ports.name, text)) = some (ports.name, text)) :
    environmentOf readLine (.present content) hosts.name = hosts.given? ∧
      environmentOf readLine (.present content) ports.name = ports.given? := by
  obtain ⟨entries, ascending, hasLines, mem_iff⟩ := keeps
  have reads : ∀ entry ∈ entries, readLine (assignment entry) = some entry := by
    rintro ⟨name, text⟩ hentry
    rcases (mem_iff name text).mp hentry with ⟨rfl, given⟩ | ⟨rfl, given⟩
    · exact hostsRead text given
    · exact portsRead text given
  rw [environmentOf, environmentOf, filterMap_lines hasLines reads]
  constructor
  · refine Option.ext fun text => ?_
    rw [Keyed.lookup_eq_some_iff ascending, mem_iff, Source.given?_eq_some_iff]
    simp [names]
  · refine Option.ext fun text => ?_
    rw [Keyed.lookup_eq_some_iff ascending, mem_iff, Source.given?_eq_some_iff]
    simp [names.symm]

/-- A run without the switch, with the value that was given in the environment, has the same
items. -/
theorem Source.items_eq {source later : Source} (default : later.default = source.default)
    (switch : later.switch = none) (environment : later.environment = source.given?) :
    later.items = source.items := by
  simp [items, value, given?, default, switch, environment]

theorem Source.exists_items (source : Source) :
    ∃ text, source.Takes text ∧ source.items = commaList text := by
  obtain ⟨text, takes⟩ := source.exists_takes
  exact ⟨text, takes, by rw [items, value_of_takes takes]⟩

/-- Hosts and ports whose values have no line ends are taken from their switches, from their
variables or from the defaults; a request to write keeps what does not come from a default, and a
run without switches in the environment of the written lines has the same hosts and the same
ports. -/
theorem settings_persist (hostsSwitch hostsVariable portsSwitch portsVariable : Option String)
    (oneLine : ∀ text, some text ∈ [hostsSwitch, hostsVariable, portsSwitch, portsVariable] →
      OneLine text) (requested : Bool) (file : VariablesFile) :
    let hosts := hostsSource hostsSwitch hostsVariable
    let ports := portsSource portsSwitch portsVariable
    let outcome := writeVariables requested (changedVariables hosts ports) file
    (∃ text, hosts.Takes text ∧ hosts.items = commaList text) ∧
    (∃ text, ports.Takes text ∧ ports.items = commaList text) ∧
    Writes hosts ports requested file outcome.2 outcome.1 ∧
    (requested = true → (∃ text, hosts.IsGiven text ∨ ports.IsGiven text) →
      (∀ content, file ≠ .unwritable content) →
      ∀ readLine : String → Option (String × String),
        (∀ text, hosts.IsGiven text →
          readLine ("TOPSTAT_HOSTS" ++ "=" ++ text) = some ("TOPSTAT_HOSTS", text)) →
        (∀ text, ports.IsGiven text →
          readLine ("TOPSTAT_PORTS" ++ "=" ++ text) = some ("TOPSTAT_PORTS", text)) →
        let later := environmentOf readLine outcome.2
        (hostsSource none (later "TOPSTAT_HOSTS")).items = hosts.items ∧
          (portsSource none (later "TOPSTAT_PORTS")).items = ports.items) := by
  intro hosts ports outcome
  have hostsLine : ∀ text, hosts.IsGiven text → OneLine text := by
    rintro text (given | ⟨-, given⟩)
    · exact oneLine text (by simp [← given, hosts, hostsSource])
    · exact oneLine text (by simp [← given, hosts, hostsSource])
  have portsLine : ∀ text, ports.IsGiven text → OneLine text := by
    rintro text (given | ⟨-, given⟩)
    · exact oneLine text (by simp [← given, ports, portsSource])
    · exact oneLine text (by simp [← given, ports, portsSource])
  have names : hosts.name < ports.name := by
    show "TOPSTAT_HOSTS" < "TOPSTAT_PORTS"
    decide
  have distinct : hosts.name ≠ ports.name := by
    show "TOPSTAT_HOSTS" ≠ "TOPSTAT_PORTS"
    decide
  have nameLines : OneLine hosts.name ∧ OneLine ports.name := by
    show OneLine "TOPSTAT_HOSTS" ∧ OneLine "TOPSTAT_PORTS"
    decide
  have writes : Writes hosts ports requested file outcome.2 outcome.1 :=
    writes_writeVariables names
      (oneLine_assignment nameLines.1 nameLines.2 hostsLine portsLine) requested file
  refine ⟨hosts.exists_items, ports.exists_items, writes, ?_⟩
  intro request given opens readLine hostsRead portsRead
  obtain ⟨-, content, after, keeps⟩ := writes.written request given opens
  obtain ⟨hostsFound, portsFound⟩ := environmentOf_keeps distinct keeps hostsRead portsRead
  simp only [after]
  exact ⟨Source.items_eq rfl rfl hostsFound, Source.items_eq rfl rfl portsFound⟩

/-- Reads a line as a name and a value with an equals sign between them. -/
def readAssignment (line : String) : Option (String × String) :=
  match line.toList.dropWhile (· ≠ '=') with
  | [] => none
  | _ :: value => some (String.ofList (line.toList.takeWhile (· ≠ '=')), String.ofList value)

/-- Hosts from the switch and ports from the variable take the place of what was in the file, and
are found there by the next run. -/
theorem twoHosts_persist :
    let hosts := hostsSource (some "db-1,db-2") (some "db-3")
    let ports := portsSource none (some "28018,28019")
    let file := (writeVariables true (changedVariables hosts ports) (.present "OLD=1\n")).2
    (∀ text, some text ∈ [some "db-1,db-2", some "db-3", none, some "28018,28019"] →
      OneLine text) ∧
    (hostsSource none (environmentOf readAssignment file "TOPSTAT_HOSTS")).items =
      ["db-1", "db-2"] ∧
    (portsSource none (environmentOf readAssignment file "TOPSTAT_PORTS")).items =
      ["28018", "28019"] := by
  intro hosts ports file
  have oneLine : ∀ text, some text ∈ [some "db-1,db-2", some "db-3", none, some "28018,28019"] →
      OneLine text := by
    simp only [List.mem_cons, Option.some.injEq, reduceCtorEq, List.not_mem_nil, or_false, false_or]
    rintro text (rfl | rfl | rfl)
    · decide
    · decide
    · decide
  obtain ⟨-, -, -, next⟩ := settings_persist (some "db-1,db-2") (some "db-3") none
    (some "28018,28019") oneLine true (.present "OLD=1\n")
  have given : ∃ text, hosts.IsGiven text ∨ ports.IsGiven text := ⟨"db-1,db-2", .inl (.inl rfl)⟩
  have hostsRead : ∀ text, hosts.IsGiven text →
      readAssignment ("TOPSTAT_HOSTS" ++ "=" ++ text) = some ("TOPSTAT_HOSTS", text) := by
    rintro text (h | ⟨h, -⟩)
    · obtain rfl := Option.some.inj h
      decide
    · cases h
  have portsRead : ∀ text, ports.IsGiven text →
      readAssignment ("TOPSTAT_PORTS" ++ "=" ++ text) = some ("TOPSTAT_PORTS", text) := by
    rintro text (h | ⟨-, h⟩)
    · cases h
    · obtain rfl := Option.some.inj h
      decide
  obtain ⟨hostsSame, portsSame⟩ := next rfl given nofun readAssignment hostsRead portsRead
  exact ⟨oneLine, hostsSame.trans (by decide), portsSame.trans (by decide)⟩

end LoadWatch.HostSettings
