/-
  Proofs/Course.lean --- the course that a polling loop takes.

  WHAT THIS FILE IS FOR.  `Poll.runFrom` recurses over a script and hands a
  poller from one attempt to the next.  Here a run is described without the
  recursion: which attempts are made, what each of them does on its own, and the
  one way in which the loop comes to its end.

  THE INVARIANT.  An attempt that does not end the loop leaves a poller that
  depends on its outcome alone (`poller_turn`): it remembers the sample if there
  is one, and data has been seen, since a failure before that ends the loop.  So
  the poller of every attempt is known in advance (`pollerBefore`).

  Main result: every run takes one of three courses (`course_run`): it stops at
  the row count, its script ends first, or an attempt ends it.
-/
import LoadWatch.Poll.Run

set_option autoImplicit false

namespace LoadWatch.Poll

variable {Snapshot Diff : Type}

/-! ## What an attempt leaves behind -/

/-- A write that does not end the loop leaves the poller as it is. -/
theorem poller_write (streams : Streams) (attempt : Nat) (stream : Stream) (text : String)
    (poller : Poller Snapshot) :
    (Turn.write streams attempt stream text poller).poller = poller := by
  unfold Turn.write
  cases streams.refusal stream attempt <;> rfl

theorem poller_shownTurn (report : Report Snapshot Diff) (settings : Settings)
    (streams : Streams) (attempt : Nat) (diff : Option Diff) (poller : Poller Snapshot) :
    (shownTurn report settings streams attempt diff poller).poller = poller := by
  unfold shownTurn
  split
  · rfl
  · split
    · exact poller_write ..
    · rfl

/-- A successful attempt that does not end the loop has seen data. -/
theorem poller_successfulTurn {report : Report Snapshot Diff} {settings : Settings}
    {streams : Streams} {attempt : Nat} {diff : Option Diff} {poller : Poller Snapshot}
    (goesOn : (successfulTurn report settings streams attempt diff poller).ending = none) :
    (successfulTurn report settings streams attempt diff poller).poller =
      { poller with hasData := true } := by
  unfold successfulTurn at goesOn ⊢
  split
  · rename_i first
    rw [if_pos first] at goesOn
    cases refusal : streams.refusal .diagnostics attempt with
    | some reason => simp [Turn.write, refusal] at goesOn
    | none =>
      simp only [Turn.write, refusal]
      exact poller_shownTurn ..
  · exact poller_shownTurn ..

/-- A failed attempt that does not end the loop comes after data has been seen. -/
theorem poller_failedTurn {settings : Settings} {streams : Streams} {attempt : Nat}
    {failure : Failure} {poller : Poller Snapshot}
    (goesOn : (failedTurn settings streams attempt failure poller).ending = none) :
    (failedTurn settings streams attempt failure poller).poller = poller ∧
      poller.hasData = true := by
  unfold failedTurn at goesOn ⊢
  split
  · rename_i unsupported
    rw [if_pos unsupported] at goesOn
    cases goesOn
  · rename_i supported
    rw [if_neg supported] at goesOn
    split
    · rename_i noData
      rw [if_pos noData] at goesOn
      cases goesOn
    · rename_i data
      exact ⟨poller_write .., by simpa using data⟩

/-- The poller that an attempt with the given outcome leaves behind if the loop goes on. -/
def pollerAfter (outcome : Except Failure Snapshot) : Poller Snapshot :=
  { previous := outcome.toOption, hasData := true }

/-- What an attempt leaves behind depends on its outcome alone, unless it ends the loop. -/
theorem poller_turn {report : Report Snapshot Diff} {settings : Settings} {streams : Streams}
    {attempt : Nat} {outcome : Except Failure Snapshot} {poller : Poller Snapshot}
    (goesOn : (turn report settings streams attempt outcome poller).ending = none) :
    (turn report settings streams attempt outcome poller).poller = pollerAfter outcome := by
  cases outcome with
  | error failure =>
    have failed : (failedTurn settings streams attempt failure
        { poller with previous := none }).ending = none := goesOn
    obtain ⟨kept, data⟩ := poller_failedTurn failed
    show (failedTurn settings streams attempt failure { poller with previous := none }).poller = _
    rw [kept, pollerAfter, ← data]
    rfl
  | ok current =>
    exact poller_successfulTurn goesOn

/-! ## Turns on streams that work

With streams that refuse nothing a turn is known in full: what it writes, what it
leaves behind and which ending it brings. -/

/-- What an attempt has to show: the text of the difference between its sample and the one that
the poller remembers, or the fault of computing it. -/
def rendering? (report : Report Snapshot Diff) (settings : Settings) (poller : Poller Snapshot)
    (outcome : Except Failure Snapshot) : Option (Except ArithmeticFault String) :=
  match outcome with
  | .ok current =>
    poller.previous.map fun previous => output report settings (report.diff current previous)
  | .error _ => none

/-- The notice that goes with a success, if it is the first one and the output is a grid. -/
def noticeEvents (settings : Settings) (attempt : Nat) (poller : Poller Snapshot) : List Event :=
  if !poller.hasData && !settings.json then
    [⟨attempt, .diagnostics, connectedLine settings.connection⟩]
  else []

/-- The write of a text that could be computed. -/
def shownEvents (attempt : Nat) : Option (Except ArithmeticFault String) → List Event
  | some (.ok text) => [⟨attempt, .out, text⟩]
  | _ => []

/-- The ending that a text which could not be computed brings. -/
def faultEnding : Option (Except ArithmeticFault String) → Option Ending
  | some (.error fault) => some (.fault fault)
  | _ => none

theorem write_working (attempt : Nat) (stream : Stream) (text : String)
    (poller : Poller Snapshot) :
    Turn.write .working attempt stream text poller =
      { events := [⟨attempt, stream, text⟩], poller := poller } := rfl

theorem shownTurn_working (report : Report Snapshot Diff) (settings : Settings) (attempt : Nat)
    (diff : Option Diff) (poller : Poller Snapshot) :
    shownTurn report settings .working attempt diff poller =
      { events := shownEvents attempt (diff.map (output report settings))
        poller := poller
        ending := faultEnding (diff.map (output report settings)) } := by
  unfold shownTurn
  split
  · rfl
  · rename_i diff
    rw [Option.map_some]
    split
    · rename_i text rendered
      rw [rendered, write_working]
      rfl
    · rename_i fault faulty
      rw [faulty]
      rfl

/-- The turn of a success on streams that work. -/
theorem turn_ok_working (report : Report Snapshot Diff) (settings : Settings) (attempt : Nat)
    (current : Snapshot) (poller : Poller Snapshot) :
    turn report settings .working attempt (.ok current) poller =
      { events := noticeEvents settings attempt poller ++
          shownEvents attempt (rendering? report settings poller (.ok current))
        poller := pollerAfter (.ok current)
        ending := faultEnding (rendering? report settings poller (.ok current)) } := by
  have hrendering : rendering? report settings poller (.ok current) =
      (poller.previous.map (report.diff current)).map (output report settings) := by
    rw [Option.map_map]
    rfl
  show successfulTurn report settings .working attempt
    (poller.previous.map (report.diff current)) { poller with previous := some current } = _
  unfold successfulTurn noticeEvents
  rw [hrendering]
  simp only [write_working, shownTurn_working]
  split <;> rfl

/-- The turn of a failure on streams that work. -/
theorem turn_error_working (report : Report Snapshot Diff) (settings : Settings) (attempt : Nat)
    (failure : Failure) (poller : Poller Snapshot) :
    turn report settings .working attempt (.error failure) poller =
      if failure.isUnsupported then
        { poller := { poller with previous := none }, ending := some (.unsupported failure) }
      else if !poller.hasData then
        { poller := { poller with previous := none }, ending := some (.fatalStartup failure) }
      else
        { events := [⟨attempt, .diagnostics, errorLine settings.colour failure⟩]
          poller := { poller with previous := none } } := rfl

/-! ## A run without its recursion -/

/-- Everything that a run depends on. -/
structure Session (Snapshot Diff : Type) where
  report : Report Snapshot Diff
  settings : Settings
  streams : Streams := .working
  start : Poller Snapshot := .fresh
  script : List (Attempt Snapshot)

namespace Session

variable (session : Session Snapshot Diff)

/-- The run of the loop. -/
def run : Run Snapshot :=
  runFrom session.report session.settings session.streams 0 session.start session.script

/-- The poller before the attempt with the given index, if the loop gets there. -/
def pollerBefore : Nat → Poller Snapshot
  | 0 => session.start
  | index + 1 =>
    match session.script[index]? with
    | some attempt => pollerAfter attempt.outcome
    | none => session.start

/-- The turn of an attempt at an index of the script. Attempts are numbered from one. -/
def turnAt (index : Nat) (attempt : Attempt Snapshot) : Turn Snapshot :=
  turn session.report session.settings session.streams (index + 1) attempt.outcome
    (session.pollerBefore index)

/-- The writes of the attempt at an index of the script. -/
def eventsAt (index : Nat) : List Event :=
  match session.script[index]? with
  | some attempt => (session.turnAt index attempt).events
  | none => []

/-- The writes of the first attempts. -/
def eventsBefore (count : Nat) : List Event := (List.range count).flatMap session.eventsAt

/-- The time that passes until the first attempts are over and slept on. -/
def elapsedBefore (count : Nat) : Nat :=
  (session.script.take count).foldl
    (fun elapsed attempt => elapsed + (attempt.waitedMillis + session.settings.sleepMillis)) 0

/-- The first attempts are there to be made, and none of them ends the loop. -/
def GoesOn (count : Nat) : Prop :=
  ∀ index < count, ∃ attempt, session.script[index]? = some attempt ∧
    (session.turnAt index attempt).ending = none

/-- The row count allows for one more attempt after the given number of them. -/
def Allows (count : Nat) : Prop :=
  session.settings.rowCount = 0 ∨ count ≤ session.settings.rowCount

/-- The courses that a run can take. -/
inductive Course : Run Snapshot → Prop
  /-- The row count is reached. -/
  | finished (limit : 0 < session.settings.rowCount)
      (goesOn : session.GoesOn (session.settings.rowCount + 1)) :
      Course
        { events := session.eventsBefore (session.settings.rowCount + 1)
          ending := .finished
          attempts := session.settings.rowCount + 1
          poller := session.pollerBefore (session.settings.rowCount + 1)
          elapsedMillis := session.elapsedBefore (session.settings.rowCount + 1) }
  /-- The script ends before the loop. -/
  | interrupted (allowed : session.Allows session.script.length)
      (goesOn : session.GoesOn session.script.length) :
      Course
        { events := session.eventsBefore session.script.length
          ending := .interrupted
          attempts := session.script.length
          poller := session.pollerBefore session.script.length
          elapsedMillis := session.elapsedBefore session.script.length }
  /-- An attempt ends the loop. -/
  | ended {index : Nat} {attempt : Attempt Snapshot} {ending : Ending}
      (allowed : session.Allows index) (goesOn : session.GoesOn index)
      (made : session.script[index]? = some attempt)
      (ends : (session.turnAt index attempt).ending = some ending) :
      Course
        { events := session.eventsBefore (index + 1)
          ending := ending
          attempts := index + 1
          poller := (session.turnAt index attempt).poller
          elapsedMillis := session.elapsedBefore index + attempt.waitedMillis }

variable {session}

theorem eventsAt_of_made {index : Nat} {attempt : Attempt Snapshot}
    (made : session.script[index]? = some attempt) :
    session.eventsAt index = (session.turnAt index attempt).events := by
  simp only [eventsAt, made]

theorem eventsBefore_succ (index : Nat) :
    session.eventsBefore (index + 1) = session.eventsBefore index ++ session.eventsAt index := by
  simp [eventsBefore, List.range_succ]

theorem elapsedBefore_succ {index : Nat} {attempt : Attempt Snapshot}
    (made : session.script[index]? = some attempt) :
    session.elapsedBefore (index + 1) =
      session.elapsedBefore index + (attempt.waitedMillis + session.settings.sleepMillis) := by
  simp [elapsedBefore, List.take_add_one, made]

/-- The loop hands the poller over as `pollerBefore` says. -/
theorem pollerBefore_succ {index : Nat} {attempt : Attempt Snapshot}
    (made : session.script[index]? = some attempt)
    (goesOn : (session.turnAt index attempt).ending = none) :
    session.pollerBefore (index + 1) = (session.turnAt index attempt).poller := by
  simp only [pollerBefore, made]
  exact (poller_turn goesOn).symm

theorem goesOn_zero : session.GoesOn 0 := fun _ h => absurd h (Nat.not_lt_zero _)

theorem GoesOn.succ {index : Nat} {attempt : Attempt Snapshot} (h : session.GoesOn index)
    (made : session.script[index]? = some attempt)
    (goesOn : (session.turnAt index attempt).ending = none) : session.GoesOn (index + 1) := by
  intro k hk
  rcases Nat.lt_or_eq_of_le (Nat.le_of_lt_succ hk) with hlt | rfl
  · exact h k hlt
  · exact ⟨attempt, made, goesOn⟩

/-- As many attempts as are made are in the script. -/
theorem GoesOn.le_length {count : Nat} (h : session.GoesOn count) :
    count ≤ session.script.length := by
  rcases Nat.eq_zero_or_pos count with rfl | hpos
  · exact Nat.zero_le _
  · obtain ⟨attempt, made, -⟩ := h (count - 1) (by omega)
    have := (List.getElem?_eq_some_iff.mp made).1
    omega

/-! ## The course of every run -/

/-- A run on the rest of a script, together with what the attempts before it have done. -/
def continued (session : Session Snapshot Diff) (count : Nat) (run : Run Snapshot) :
    Run Snapshot :=
  { run with
    events := session.eventsBefore count ++ run.events
    elapsedMillis := session.elapsedBefore count + run.elapsedMillis }

/-- A loop that has used up the row count is finished. -/
theorem course_finished {count : Nat}
    (limit : 0 < session.settings.rowCount ∧ session.settings.rowCount < count)
    (bound : 0 < session.settings.rowCount → count ≤ session.settings.rowCount + 1)
    (goesOn : session.GoesOn count) :
    session.Course (session.continued count
      ⟨[], .finished, count, session.pollerBefore count, 0⟩) := by
  have hcount : count = session.settings.rowCount + 1 := by
    have := bound limit.1
    omega
  subst hcount
  simpa [continued] using Course.finished limit.1 goesOn

/-- From an attempt that the loop gets to it takes one of the courses. The induction is on the
rest of the script; the poller that is handed over is the one of `pollerBefore`. -/
theorem course_runFrom (rest : List (Attempt Snapshot)) :
    ∀ count, session.script.drop count = rest → session.GoesOn count →
      (0 < session.settings.rowCount → count ≤ session.settings.rowCount + 1) →
      session.Course (session.continued count
        (runFrom session.report session.settings session.streams count
          (session.pollerBefore count) rest)) := by
  induction rest with
  | nil =>
    intro count hdrop goesOn bound
    have hlength : count = session.script.length :=
      Nat.le_antisymm goesOn.le_length (List.drop_eq_nil_iff.mp hdrop)
    subst hlength
    rw [runFrom]
    split
    · rename_i limit
      exact course_finished limit bound goesOn
    · rename_i below
      have allowed : session.Allows session.script.length := by
        unfold Allows
        omega
      simpa [continued] using Course.interrupted allowed goesOn
  | cons attempt rest ih =>
    intro count hdrop goesOn bound
    have made : session.script[count]? = some attempt := by
      rw [← List.head?_drop, hdrop, List.head?_cons]
    rw [runFrom]
    split
    · rename_i limit
      exact course_finished limit bound goesOn
    · rename_i below
      have allowed : session.Allows count := by
        unfold Allows
        omega
      have hturn : turn session.report session.settings session.streams (count + 1)
          attempt.outcome (session.pollerBefore count) = session.turnAt count attempt := rfl
      simp only [hturn]
      cases ends : (session.turnAt count attempt).ending with
      | some ending =>
        have hevents : session.eventsBefore (count + 1) =
            session.eventsBefore count ++ (session.turnAt count attempt).events := by
          rw [eventsBefore_succ, eventsAt_of_made made]
        simp only [continued, ← hevents]
        exact Course.ended allowed goesOn made ends
      | none =>
        have hrest : session.script.drop (count + 1) = rest := by
          rw [← List.drop_drop, hdrop, List.drop_one, List.tail_cons]
        have course := ih (count + 1) hrest (goesOn.succ made ends) (by
          unfold Allows at allowed
          omega)
        rw [pollerBefore_succ made ends] at course
        simpa only [continued, eventsBefore_succ, eventsAt_of_made made, elapsedBefore_succ made,
          List.append_assoc, Nat.add_assoc] using course

/-- Every run takes one of the three courses. -/
theorem course_run (session : Session Snapshot Diff) : session.Course session.run := by
  have course : session.Course (session.continued 0 session.run) :=
    course_runFrom session.script 0 rfl goesOn_zero fun _ => Nat.zero_le _
  have hstart : session.continued 0 session.run = session.run := by
    simp [continued, eventsBefore, elapsedBefore]
  rwa [hstart] at course

end Session

end LoadWatch.Poll
