/-
  Proofs/LineOrigins.lean --- telling where a JSON line comes from.

  WHAT THIS FILE IS FOR.  The loops of several hosts print to the same output.
  Here it is shown how a line is traced back to its host.

  In three of the reports the label of the host is the first member of the
  document, because its key comes before the others, so that a line begins with
  it (`NamesHost`).  Since the end of a written string can be told from what
  follows it, lines with different labels are different, whatever the samples
  are.

  A stat line has no label: it begins with the name that the server gives itself
  (`KeyedBy`).  Servers with different names have different lines; those with
  the same name may print the same one (`sameName_not_apart`).

  Main result: `lines_traced`.
-/
import LoadWatch.CommandLine.Options
import LoadWatch.LockUsage
import LoadWatch.NamespaceTop
import LoadWatch.OperationMetrics
import LoadWatch.Proofs.LabelledLines
import LoadWatch.Proofs.Refusals
import LoadWatch.ServerStatus.StatLine

set_option autoImplicit false

namespace LoadWatch

open Json

/-! ## How a line begins -/

namespace Report

/-- The text begins with an object whose first member has the given key. -/
def KeyedBy (key text : String) : Prop :=
  ∃ rest, text.toList = '\x7b' :: (stringText key.toList ++ ':' :: rest)

/-- The text begins with an object whose first member names the host. -/
def NamesHost (host text : String) : Prop :=
  ∃ rest, text.toList =
    '\x7b' :: (stringText "host".toList ++ ':' :: (stringText host.toList ++ rest))

/-- The end of a written string can be told from what follows it. -/
theorem eq_of_stringText_append {text other : String} {rest rest' : List Char}
    (h : stringText text.toList ++ rest = stringText other.toList ++ rest') :
    text = other ∧ rest = rest' := by
  have hdrop : (stringText text.toList).drop 1 ++ rest =
      (stringText other.toList).drop 1 ++ rest' := congrArg (List.drop 1) h
  have hread := readString_stringText text.toList rest
  rw [hdrop, readString_stringText] at hread
  obtain ⟨htext, hrest⟩ := Prod.mk.inj (Option.some.inj hread)
  exact ⟨String.toList_inj.mp htext.symm, hrest.symm⟩

/-- A text begins with one key only. -/
theorem KeyedBy.unique {key other text : String} (h : KeyedBy key text) (h' : KeyedBy other text) :
    key = other := by
  obtain ⟨rest, hrest⟩ := h
  obtain ⟨rest', hrest'⟩ := h'
  rw [hrest] at hrest'
  exact (eq_of_stringText_append (List.cons.inj hrest').2).1

/-- A text names one host only. -/
theorem NamesHost.unique {host other text : String} (h : NamesHost host text)
    (h' : NamesHost other text) : host = other := by
  obtain ⟨rest, hrest⟩ := h
  obtain ⟨rest', hrest'⟩ := h'
  rw [hrest] at hrest'
  have hmember := (eq_of_stringText_append (List.cons.inj hrest').2).2
  exact (eq_of_stringText_append (List.cons.inj hmember).2).1

/-- An object is written with its first member in front. -/
theorem exists_render_object (key : String) (value : Value) (members : List (String × Value)) :
    ∃ rest, (Value.object ((key, value) :: members)).render.toList =
      '\x7b' :: (stringText key.toList ++ ':' :: (value.chars ++ rest)) := by
  refine ⟨(Value.moreMemberTokens members).flatMap Token.chars, ?_⟩
  simp [Value.render, Value.chars, Value.tokens, Value.firstMemberTokens, Token.chars]

theorem keyedBy_render (key : String) (value : Value) (members : List (String × Value))
    (finish : String) :
    KeyedBy key ((Value.object ((key, value) :: members)).render ++ finish) := by
  obtain ⟨rest, hrest⟩ := exists_render_object key value members
  refine ⟨value.chars ++ rest ++ finish.toList, ?_⟩
  rw [String.toList_append, hrest, List.cons_append, List.append_assoc, List.cons_append]

/-- The label comes before members with later keys. -/
theorem namesHost_line {options : RenderOptions} {host : String} (hhost : options.host = some host)
    {key : String} (later : "host" < key) (value : Value) (members : List (String × Value))
    (finish : String) :
    NamesHost host (line (.object ((key, value) :: members)) options ++ finish) := by
  obtain ⟨rest, hrest⟩ := exists_render_object "host" (.string host) ((key, value) :: members)
  refine ⟨rest ++ finish.toList, ?_⟩
  rw [line, labelled_of_host_eq_some hhost, Keyed.insert, if_pos later, String.toList_append, hrest]
  simp [Value.chars, Value.tokens, Token.chars]

end Report

namespace ServerStatus

/-- A stat line is keyed by the name that its server gives itself. -/
theorem StatLine.keyedBy_json {statLine : StatLine} {options : RenderOptions} {text : String}
    (h : statLine.json options = .ok text) (finish : String) :
    Report.KeyedBy statLine.current.status.host (text ++ finish) := by
  cases hcells : statLine.cells options with
  | error fault =>
    rw [json, hcells] at h
    cases h
  | ok cells =>
    rw [json, hcells] at h
    obtain rfl : (document statLine.current.status.host cells).render = text := Except.ok.inj h
    exact Report.keyedBy_render statLine.current.status.host _ [] finish

end ServerStatus

/-! ## What loops print -/

namespace Poll

variable {Snapshot Diff : Type}

/-- The texts that a loop prints. -/
def Run.printed (run : Run Snapshot) : List String := (shownTexts run.events).map Prod.snd

/-- What a loop prints as JSON are the lines of differences between its samples. -/
theorem exists_of_mem_printed {report : Report Snapshot Diff} {settings : Settings}
    (json : settings.json = true) {streams : Streams} {script : List (Attempt Snapshot)}
    {text : String} (h : text ∈ (run report settings streams script).printed) :
    ∃ index previous current line, outcomeAt script index = some (.ok previous) ∧
      outcomeAt script (index + 1) = some (.ok current) ∧
      report.json settings.render (report.diff current previous) = .ok line ∧
      text = line ++ "\n" := by
  obtain ⟨⟨attempt, _⟩, hshown, rfl⟩ := List.mem_map.mp h
  obtain ⟨event, hevent, heq⟩ := List.mem_filterMap.mp hshown
  split at heq
  · rename_i out
    cases heq
    let session : Session Snapshot Diff :=
      { report := report, settings := settings, streams := streams, script := script }
    obtain ⟨index, previous, current, -, before, now, whole⟩ :=
      (session.writesWhole rfl).whole event hevent out
    obtain ⟨line, hline, htext⟩ := whole.json json
    exact ⟨index, previous, current, line, before, now, hline, htext⟩
  · cases heq

/-- Nothing that one of the loops prints is printed by the other, whatever they sample. -/
def Apart (report : Report Snapshot Diff) (settings other : Settings) : Prop :=
  ∀ streams streams' script script', ∀ text ∈ (run report settings streams script).printed,
    text ∉ (run report other streams' script').printed

/-- Everything that the loop prints names the host, whatever it samples. -/
def PrintsHost (report : Report Snapshot Diff) (settings : Settings) (host : String) : Prop :=
  ∀ streams script, ∀ text ∈ (run report settings streams script).printed,
    Report.NamesHost host text

/-- Loops that name different hosts print different texts. -/
theorem PrintsHost.apart {report : Report Snapshot Diff} {settings other : Settings}
    {host host' : String} (h : PrintsHost report settings host)
    (h' : PrintsHost report other host') (different : host ≠ host') :
    Apart report settings other := by
  intro streams streams' script script' text printed printed'
  exact different ((h streams script text printed).unique (h' streams' script' text printed'))

section

variable {settings : Settings} {host : String}

/-- A report names the host if its documents are objects whose keys come after that of the
label. -/
theorem printsHost_of_line {report : Report Snapshot Diff} (json : settings.json = true)
    (labelled : settings.render.host = some host)
    (lines : ∀ diff, ∃ key value members, "host" < key ∧
      report.json settings.render diff =
        .ok (Report.line (.object ((key, value) :: members)) settings.render)) :
    PrintsHost report settings host := by
  intro streams script text printed
  obtain ⟨_, previous, current, line, -, -, hline, rfl⟩ := exists_of_mem_printed json printed
  obtain ⟨key, value, members, later, hdocument⟩ := lines (report.diff current previous)
  rw [hdocument] at hline
  cases hline
  exact Report.namesHost_line labelled later value members "\n"

theorem printsHost_namespaces (json : settings.json = true)
    (labelled : settings.render.host = some host) :
    PrintsHost NamespaceTop.report settings host :=
  printsHost_of_line json labelled fun _ => ⟨"time", _, _, by decide, rfl⟩

theorem printsHost_locks (json : settings.json = true)
    (labelled : settings.render.host = some host) :
    PrintsHost LockUsage.report settings host :=
  printsHost_of_line json labelled fun _ => ⟨"time", _, _, by decide, rfl⟩

theorem printsHost_operationMetrics (json : settings.json = true)
    (labelled : settings.render.host = some host) :
    PrintsHost OperationMetrics.report settings host :=
  printsHost_of_line json labelled fun _ => ⟨"unsupported", _, _, by decide, rfl⟩

end

/-- What the stat loop prints is keyed by the name in the later one of two samples. -/
theorem keyedBy_of_mem_printed {settings : Settings} (json : settings.json = true)
    {streams : Streams} {script : List (Attempt ServerStatus.Sample)} {text : String}
    (h : text ∈ (run ServerStatus.report settings streams script).printed) :
    ∃ index sample, outcomeAt script index = some (.ok sample) ∧
      Report.KeyedBy sample.status.host text := by
  obtain ⟨index, previous, current, line, -, now, hline, rfl⟩ := exists_of_mem_printed json h
  exact ⟨index + 1, current, now, ServerStatus.StatLine.keyedBy_json hline "\n"⟩

/-! ## Tracing lines -/

/-- With a label, the lines of the reports on namespaces, on locks and on operation metrics name the
host that they come from, so that no two hosts print the same line. A stat line is keyed by the name
that its server gives itself, so that servers whose names differ do not print the same line, with
whatever labels, or with none. -/
theorem lines_traced {settings other : Settings} (json : settings.json = true)
    (json' : other.json = true) :
    (∀ host, settings.render.host = some host →
      PrintsHost NamespaceTop.report settings host ∧ PrintsHost LockUsage.report settings host ∧
        PrintsHost OperationMetrics.report settings host) ∧
    (∀ host host', settings.render.host = some host → other.render.host = some host' →
      host ≠ host' → Apart NamespaceTop.report settings other ∧
        Apart LockUsage.report settings other ∧ Apart OperationMetrics.report settings other) ∧
    ∀ streams script, ∀ text ∈ (run ServerStatus.report settings streams script).printed,
      (∃ index sample, outcomeAt script index = some (.ok sample) ∧
        Report.KeyedBy sample.status.host text) ∧
      ∀ streams' script',
        (∀ index sample index' sample', outcomeAt script index = some (.ok sample) →
          outcomeAt script' index' = some (.ok sample') →
            sample.status.host ≠ sample'.status.host) →
        text ∉ (run ServerStatus.report other streams' script').printed := by
  refine ⟨?_, ?_, ?_⟩
  · intro host labelled
    exact ⟨printsHost_namespaces json labelled, printsHost_locks json labelled,
      printsHost_operationMetrics json labelled⟩
  · intro host host' labelled labelled' different
    refine ⟨?_, ?_, ?_⟩
    · exact (printsHost_namespaces json labelled).apart (printsHost_namespaces json' labelled')
        different
    · exact (printsHost_locks json labelled).apart (printsHost_locks json' labelled') different
    · exact (printsHost_operationMetrics json labelled).apart
        (printsHost_operationMetrics json' labelled') different
  · intro streams script text printed
    have keyed := keyedBy_of_mem_printed json printed
    refine ⟨keyed, fun streams' script' names printed' => ?_⟩
    obtain ⟨index, sample, now, hkey⟩ := keyed
    obtain ⟨index', sample', now', hkey'⟩ := keyedBy_of_mem_printed json' printed'
    exact names index sample index' sample' now now' (hkey.unique hkey')

/-- How one of several servers is polled for JSON lines. -/
def serverSettings (server : String) : Settings :=
  ({ json := true, fields := some "conn" } : CommandLine.Options).pollSettings server true

/-- A sample of a namespace that has been in use for some time. -/
def busySample (micros : Int) : Attempt NamespaceTop.Snapshot where
  outcome := .ok {
    time := ⟨0, 0⟩
    cores := 1
    totals := .ofPairs [("shop.orders", { total := ⟨micros, 1⟩ })] }

/-- A sample of a server that says what it is called, and nothing else. -/
def namedSample (name : String) : Attempt ServerStatus.Sample where
  outcome := .ok { time := ⟨0, 0⟩, cores := 0, status := { host := name }, reply := .null }

theorem host_of_outcomeAt {name : String} {index : Nat} {sample : ServerStatus.Sample}
    (h : outcomeAt [namedSample name, namedSample name] index = some (.ok sample)) :
    sample.status.host = name := by
  obtain ⟨attempt, made, outcome⟩ := Option.map_eq_some_iff.mp h
  obtain rfl : attempt = namedSample name := by simpa using List.mem_of_getElem? made
  obtain rfl := Except.ok.inj outcome
  rfl

/-- What is printed for a busy server begins with its label, and is not printed for another one.
What is printed for a server that is called `left` is not printed for one that is called `right`,
even if the two are labelled alike. -/
theorem busySamples_traced :
    (serverSettings "db-1:28017").json = true ∧ (serverSettings "db-2:28017").json = true ∧
    (∃ text ∈ (run NamespaceTop.report (serverSettings "db-1:28017") .working
        [busySample 1000, busySample 5000]).printed,
      Report.NamesHost "db-1:28017" text ∧ ∀ streams script,
        text ∉ (run NamespaceTop.report (serverSettings "db-2:28017") streams script).printed) ∧
    ∃ text ∈ (run ServerStatus.report (serverSettings "db-1:28017") .working
        [namedSample "left", namedSample "left"]).printed,
      text ∉ (run ServerStatus.report (serverSettings "db-1:28017") .working
        [namedSample "right", namedSample "right"]).printed := by
  obtain ⟨names, apart, -⟩ := @lines_traced (serverSettings "db-1:28017")
    (serverSettings "db-2:28017") rfl rfl
  obtain ⟨-, -, keyed⟩ := @lines_traced (serverSettings "db-1:28017")
    (serverSettings "db-1:28017") rfl rfl
  have busy : (run NamespaceTop.report (serverSettings "db-1:28017") .working
      [busySample 1000, busySample 5000]).printed ≠ [] := by
    decide +kernel
  have named : (run ServerStatus.report (serverSettings "db-1:28017") .working
      [namedSample "left", namedSample "left"]).printed ≠ [] := by
    decide +kernel
  obtain ⟨text, htext⟩ := List.exists_mem_of_ne_nil _ busy
  obtain ⟨line, hline⟩ := List.exists_mem_of_ne_nil _ named
  refine ⟨rfl, rfl, ⟨text, htext, (names _ rfl).1 _ _ text htext, fun streams script => ?_⟩,
    line, hline, (keyed _ _ line hline).2 _ _ fun index sample index' sample' h h' => ?_⟩
  · exact (apart _ _ rfl rfl (by decide)).1 _ streams _ script text htext
  · rw [host_of_outcomeAt h, host_of_outcomeAt h']
    decide

/-- Servers that go by the same name print the same stat lines, though their labels differ. -/
theorem sameName_not_apart :
    (serverSettings "db-1:28017").render.host ≠ (serverSettings "db-2:28017").render.host ∧
      ¬Apart ServerStatus.report (serverSettings "db-1:28017") (serverSettings "db-2:28017") := by
  refine ⟨by decide, fun apart => ?_⟩
  have printed : ∀ server ∈ ["db-1:28017", "db-2:28017"],
      (run ServerStatus.report (serverSettings server) .working
        [namedSample "db", namedSample "db"]).printed =
          ["\x7b\"db\":\x7b\"conn\":\"0\"\x7d\x7d\n"] := by
    decide +kernel
  have separate := apart .working .working [namedSample "db", namedSample "db"]
    [namedSample "db", namedSample "db"]
  rw [printed _ (by decide), printed _ (by decide)] at separate
  exact separate _ (List.mem_singleton_self _) (List.mem_singleton_self _)

end Poll

end LoadWatch
