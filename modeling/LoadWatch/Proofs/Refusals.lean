/-
  Proofs/Refusals.lean --- streams that refuse writes cut a run short.

  WHAT THIS FILE IS FOR.  A loop that cannot write ends.  Here a run on any
  streams is compared with the run on streams that work: it is the same run up to
  the first write that its stream refuses, and nothing after that.

  A turn either is the turn on working streams or stops in front of a write
  (`Turn.Cut`).  Since the loop ends with such a turn, the same holds of a run
  (`Run.Cut`); the induction is on the script, with both loops side by side.

  Texts are never cut: an attempt of a fresh poller writes at most once, and what
  it writes on the output is a whole difference (`ShowsWhole`).

  Main result: `run_cutShort`.
-/
import Mathlib.Data.List.TakeWhile
import LoadWatch.Proofs.Writes

set_option autoImplicit false

namespace LoadWatch.Poll

variable {Snapshot Diff : Type}

/-- The stream of a write takes it. -/
def Streams.accepts (streams : Streams) (event : Event) : Bool :=
  (streams.refusal event.stream event.attempt).isNone

/-- Streams that fail from an attempt on take the writes of the attempts before it. -/
theorem accepts_failingFrom_iff {out diagnostics : Nat} {reason : String} {event : Event} :
    (Streams.failingFrom out diagnostics reason).accepts event = true ↔
      match event.stream with
      | .out => out = 0 ∨ event.attempt < out
      | .diagnostics => diagnostics = 0 ∨ event.attempt < diagnostics := by
  unfold Streams.accepts Streams.failingFrom
  cases event.stream with
  | out => grind
  | diagnostics => grind

/-! ## Turns -/

/-- A turn is the whole one, or it stops in front of a write that is refused. -/
inductive Turn.Cut (streams : Streams) (whole turn : Turn Snapshot) : Prop
  | same (accepted : ∀ event ∈ whole.events, streams.accepts event = true) (eq : turn = whole)
  | short {taken rest : List Event} {event : Event} {reason : String}
      (split : whole.events = taken ++ event :: rest)
      (accepted : ∀ other ∈ taken, streams.accepts other = true)
      (refused : streams.refusal event.stream event.attempt = some reason)
      (events : turn.events = taken) (ending : turn.ending = some (.refused reason))

/-- Writes that are taken before a turn make no difference to where it is cut. -/
theorem Turn.Cut.prepend {streams : Streams} {whole turn : Turn Snapshot} {events : List Event}
    (taken : ∀ event ∈ events, streams.accepts event = true) (cut : Turn.Cut streams whole turn) :
    Turn.Cut streams { whole with events := events ++ whole.events }
      { turn with events := events ++ turn.events } := by
  cases cut with
  | same accepted eq =>
    refine .same (fun event h => ?_) (by rw [eq])
    rcases List.mem_append.mp h with before | after
    · exact taken event before
    · exact accepted event after
  | @short tail rest event reason split accepted refused eq ending =>
    have hsplit : events ++ whole.events = events ++ tail ++ event :: rest := by
      rw [split, List.append_assoc]
    have haccepted : ∀ other ∈ events ++ tail, streams.accepts other = true := by
      intro other h
      rcases List.mem_append.mp h with before | after
      · exact taken other before
      · exact accepted other after
    exact .short hsplit haccepted refused (by rw [eq]) ending

theorem cut_write (streams : Streams) (attempt : Nat) (stream : Stream) (text : String)
    (poller : Poller Snapshot) :
    Turn.Cut streams (Turn.write .working attempt stream text poller)
      (Turn.write streams attempt stream text poller) := by
  rw [write_working]
  unfold Turn.write
  cases refusal : streams.refusal stream attempt with
  | some reason => exact .short (List.nil_append _).symm (List.forall_mem_nil _) refusal rfl rfl
  | none =>
    refine .same (fun event h => ?_) rfl
    rw [List.mem_singleton.mp h, Streams.accepts, refusal]
    rfl

/-- A turn that writes nothing is not cut. -/
theorem cut_of_silent (streams : Streams) {turn : Turn Snapshot} (silent : turn.events = []) :
    Turn.Cut streams turn turn := by
  refine .same (fun event h => ?_) rfl
  rw [silent] at h
  cases h

theorem cut_shownTurn (report : Report Snapshot Diff) (settings : Settings) (streams : Streams)
    (attempt : Nat) (diff : Option Diff) (poller : Poller Snapshot) :
    Turn.Cut streams (shownTurn report settings .working attempt diff poller)
      (shownTurn report settings streams attempt diff poller) := by
  unfold shownTurn
  split
  · exact cut_of_silent streams rfl
  · split
    · exact cut_write ..
    · exact cut_of_silent streams rfl

theorem cut_failedTurn (settings : Settings) (streams : Streams) (attempt : Nat)
    (failure : Failure) (poller : Poller Snapshot) :
    Turn.Cut streams (failedTurn settings .working attempt failure poller)
      (failedTurn settings streams attempt failure poller) := by
  unfold failedTurn
  split
  · exact cut_of_silent streams rfl
  · split
    · exact cut_of_silent streams rfl
    · exact cut_write ..

/-- A notice that is refused ends the turn; one that is taken leaves it to the difference. -/
theorem cut_successfulTurn (report : Report Snapshot Diff) (settings : Settings)
    (streams : Streams) (attempt : Nat) (diff : Option Diff) (poller : Poller Snapshot) :
    Turn.Cut streams (successfulTurn report settings .working attempt diff poller)
      (successfulTurn report settings streams attempt diff poller) := by
  have shown := cut_shownTurn report settings streams attempt diff { poller with hasData := true }
  unfold successfulTurn
  split
  · generalize shownTurn report settings .working attempt diff _ = wholeShown at shown ⊢
    generalize shownTurn report settings streams attempt diff _ = turnShown at shown ⊢
    simp only [write_working]
    cases refusal : streams.refusal .diagnostics attempt with
    | some reason =>
      simp only [Turn.write, refusal]
      exact .short (List.nil_append _).symm (List.forall_mem_nil _) refusal rfl rfl
    | none =>
      have accepted : streams.accepts
          ⟨attempt, .diagnostics, connectedLine settings.connection⟩ = true := by
        rw [Streams.accepts, refusal]
        rfl
      simp only [Turn.write, refusal]
      refine Turn.Cut.prepend (fun event h => ?_) shown
      rwa [List.mem_singleton.mp h]
  · exact shown

/-- A turn is cut short by the streams that it writes to, or not at all. -/
theorem cut_turn (report : Report Snapshot Diff) (settings : Settings) (streams : Streams)
    (attempt : Nat) (outcome : Except Failure Snapshot) (poller : Poller Snapshot) :
    Turn.Cut streams (turn report settings .working attempt outcome poller)
      (turn report settings streams attempt outcome poller) := by
  cases outcome with
  | error failure => exact cut_failedTurn ..
  | ok current => exact cut_successfulTurn ..

/-! ## Runs -/

/-- A run is the whole one, or it stops in front of a write that is refused, in the attempt that
the write belongs to. -/
inductive Run.Cut (streams : Streams) (whole run : Run Snapshot) : Prop
  | same (accepted : ∀ event ∈ whole.events, streams.accepts event = true) (eq : run = whole)
  | short {taken rest : List Event} {event : Event} {reason : String}
      (split : whole.events = taken ++ event :: rest)
      (accepted : ∀ other ∈ taken, streams.accepts other = true)
      (refused : streams.refusal event.stream event.attempt = some reason)
      (events : run.events = taken) (ending : run.ending = .refused reason)
      (attempts : run.attempts = event.attempt)

/-- An attempt whose writes are taken makes no difference to where the rest is cut. -/
theorem Run.Cut.prepend {streams : Streams} {whole run : Run Snapshot} {events : List Event}
    (taken : ∀ event ∈ events, streams.accepts event = true) (millis : Nat)
    (cut : Run.Cut streams whole run) :
    Run.Cut streams
      { whole with
        events := events ++ whole.events
        elapsedMillis := millis + whole.elapsedMillis }
      { run with
        events := events ++ run.events
        elapsedMillis := millis + run.elapsedMillis } := by
  cases cut with
  | same accepted eq =>
    refine .same (fun event h => ?_) (by rw [eq])
    rcases List.mem_append.mp h with before | after
    · exact taken event before
    · exact accepted event after
  | @short tail rest event reason split accepted refused eq ending attempts =>
    have hsplit : events ++ whole.events = events ++ tail ++ event :: rest := by
      rw [split, List.append_assoc]
    have haccepted : ∀ other ∈ events ++ tail, streams.accepts other = true := by
      intro other h
      rcases List.mem_append.mp h with before | after
      · exact taken other before
      · exact accepted other after
    exact .short hsplit haccepted refused (by rw [eq]) ending attempts

/-- The loop with refusing streams goes the same way as the loop with working ones, until a turn
of it is cut short. -/
theorem cut_runFrom (report : Report Snapshot Diff) (settings : Settings) (streams : Streams)
    (script : List (Attempt Snapshot)) : ∀ (attempts : Nat) (poller : Poller Snapshot),
      Run.Cut streams (runFrom report settings .working attempts poller script)
        (runFrom report settings streams attempts poller script) := by
  induction script with
  | nil =>
    intro attempts poller
    unfold runFrom
    split
    · exact .same (List.forall_mem_nil _) rfl
    · exact .same (List.forall_mem_nil _) rfl
  | cons attempt rest ih =>
    intro attempts poller
    unfold runFrom
    split
    · exact .same (List.forall_mem_nil _) rfl
    · have cut := cut_turn report settings streams (attempts + 1) attempt.outcome poller
      have numbered : ∀ event ∈ (turn report settings .working (attempts + 1) attempt.outcome
          poller).events, event.attempt = attempts + 1 := fun event => attempt_of_mem_turn
      dsimp only
      generalize turn report settings .working (attempts + 1) attempt.outcome poller = whole
        at cut numbered ⊢
      generalize turn report settings streams (attempts + 1) attempt.outcome poller = own at cut ⊢
      cases cut with
      | same accepted eq =>
        subst eq
        cases own.ending with
        | some ending => exact .same accepted rfl
        | none => exact (ih (attempts + 1) own.poller).prepend accepted _
      | @short taken others event reason split accepted refused events ending =>
        have made : attempts + 1 = event.attempt := by
          refine (numbered event ?_).symm
          rw [split]
          exact List.mem_append_right _ List.mem_cons_self
        simp only [ending]
        cases whole.ending with
        | some wholeEnding => exact .short split accepted refused events rfl made
        | none =>
          -- What the loop on working streams writes after this attempt is left out as well.
          let later := (runFrom report settings .working (attempts + 1) whole.poller rest).events
          have hsplit : whole.events ++ later = taken ++ event :: (others ++ later) := by
            rw [split, List.append_assoc, List.cons_append]
          exact .short hsplit accepted refused events rfl made

/-- What a run on streams that may refuse writes has to do with the run on streams that work. -/
structure CutShort (streams : Streams) (whole run : Run Snapshot) : Prop where
  /-- It makes the same writes up to the first one that is refused. -/
  events : run.events = whole.events.takeWhile streams.accepts
  /-- It ends with the refusal of that write, in the attempt that the write belongs to. -/
  refused : ∀ event, whole.events[run.events.length]? = some event →
    ∃ reason, streams.refusal event.stream event.attempt = some reason ∧
      run.ending = .refused reason ∧ run.attempts = event.attempt
  /-- If nothing is refused it is the same run in every respect. -/
  unchanged : run.events = whole.events → run = whole

theorem cutShort_of_cut {streams : Streams} {whole run : Run Snapshot}
    (cut : Run.Cut streams whole run) : CutShort streams whole run := by
  cases cut with
  | same accepted eq =>
    subst eq
    refine ⟨?_, fun event h => ?_, fun _ => rfl⟩
    · exact (List.takeWhile_eq_self_iff.mpr accepted).symm
    · rw [List.getElem?_eq_none (Nat.le_refl _)] at h
      cases h
  | @short taken rest event reason split accepted refused eq ending attempts =>
    have refuses : ¬ streams.accepts event = true := by
      rw [Streams.accepts, refused]
      exact Bool.false_ne_true
    refine ⟨?_, fun other h => ?_, fun h => ?_⟩
    · rw [eq, split, List.takeWhile_append_of_pos accepted, List.takeWhile_cons_of_neg refuses,
        List.append_nil]
    · rw [eq, split, List.getElem?_append_right (Nat.le_refl _), Nat.sub_self,
        List.getElem?_cons_zero] at h
      cases h
      exact ⟨reason, refused, ending, attempts⟩
    · rw [eq, split] at h
      cases List.self_eq_append_right.mp h

/-! ## Whole texts -/

/-- A text is the whole difference: a JSON line, or a grid under the label of its host if there is
one to name; and it ends its line. -/
structure ShowsWhole (report : Report Snapshot Diff) (settings : Settings) (diff : Diff)
    (text : String) : Prop where
  json : settings.json = true →
    ∃ line, report.json settings.render diff = .ok line ∧ text = line ++ "\n"
  labelled : settings.json = false → ∀ host, settings.render.host = some host →
    ∃ grid, report.grid settings.render diff = .ok grid ∧ text = host ++ "\n" ++ grid ++ "\n"
  unlabelled : settings.json = false → settings.render.host = none →
    ∃ grid, report.grid settings.render diff = .ok grid ∧ text = grid ++ "\n"

theorem showsWhole_of_output {report : Report Snapshot Diff} {settings : Settings} {diff : Diff}
    {text : String} (rendered : output report settings diff = .ok text) :
    ShowsWhole report settings diff text := by
  have hmap : ∀ {shown : Except ArithmeticFault String} {finish : String → String},
      shown.map finish = .ok text → ∃ part, shown = .ok part ∧ text = finish part := by
    intro shown finish h
    cases shown with
    | error fault => cases h
    | ok part =>
      cases h
      exact ⟨part, rfl, rfl⟩
  unfold output at rendered
  refine ⟨fun json => ?_, fun grid host hhost => ?_, fun grid hhost => ?_⟩
  · rw [if_pos json] at rendered
    exact hmap rendered
  · rw [grid, if_neg Bool.false_ne_true, hhost] at rendered
    exact hmap rendered
  · rw [grid, if_neg Bool.false_ne_true, hhost] at rendered
    obtain ⟨part, hpart, htext⟩ := hmap rendered
    exact ⟨part, hpart, by rw [htext, String.empty_append]⟩

/-- The writes of a loop with a fresh poller: at most one for every attempt, and on the output
whole differences, one for every two successes in a row that the loop has come past. -/
structure WritesWhole (report : Report Snapshot Diff) (settings : Settings)
    (script : List (Attempt Snapshot)) (run : Run Snapshot) : Prop where
  at_most_once : ∀ attempt, (eventsOf run.events attempt).length ≤ 1
  whole : ∀ event ∈ run.events, event.stream = .out → ∃ index previous current,
    event.attempt = index + 2 ∧ outcomeAt script index = some (.ok previous) ∧
      outcomeAt script (index + 1) = some (.ok current) ∧
      ShowsWhole report settings (report.diff current previous) event.text
  all : ∀ index previous current, index + 1 < run.completed →
    outcomeAt script index = some (.ok previous) →
    outcomeAt script (index + 1) = some (.ok current) →
    ∃ text, eventsOf run.events (index + 2) = [⟨index + 2, .out, text⟩] ∧
      ShowsWhole report settings (report.diff current previous) text

namespace Session

variable {session : Session Snapshot Diff}

/-- The session with streams that work. -/
def onWorking (session : Session Snapshot Diff) : Session Snapshot Diff :=
  { session with streams := .working }

/-- Which poller an attempt gets does not depend on the streams. -/
theorem pollerBefore_onWorking (index : Nat) :
    session.onWorking.pollerBefore index = session.pollerBefore index := by
  cases index <;> rfl

theorem cut_turnAt (index : Nat) (attempt : Attempt Snapshot) :
    Turn.Cut session.streams (session.onWorking.turnAt index attempt)
      (session.turnAt index attempt) := by
  unfold turnAt
  rw [pollerBefore_onWorking]
  exact cut_turn ..

/-- An attempt writes no more than it would on streams that work. -/
theorem eventsAt_isPrefix (session : Session Snapshot Diff) (index : Nat) :
    session.eventsAt index <+: session.onWorking.eventsAt index := by
  cases hmade : session.script[index]? with
  | none =>
    have hnone : session.eventsAt index = [] := by simp only [eventsAt, hmade]
    rw [hnone]
    exact List.nil_prefix
  | some attempt =>
    have hmade' : session.onWorking.script[index]? = some attempt := hmade
    rw [eventsAt_of_made hmade, eventsAt_of_made hmade']
    have cut := session.cut_turnAt index attempt
    cases cut with
    | same accepted eq => exact eq ▸ List.prefix_refl _
    | short split accepted refused events ending =>
      rw [events, split]
      exact List.prefix_append _ _

/-- An attempt that the loop goes on after writes what it would on streams that work. -/
theorem eventsAt_of_goesOn {index : Nat} {attempt : Attempt Snapshot}
    (made : session.script[index]? = some attempt)
    (goesOn : (session.turnAt index attempt).ending = none) :
    session.eventsAt index = session.onWorking.eventsAt index ∧
      (session.onWorking.turnAt index attempt).ending = none := by
  have made' : session.onWorking.script[index]? = some attempt := made
  have cut := session.cut_turnAt index attempt
  cases cut with
  | same accepted eq =>
    rw [eventsAt_of_made made, eventsAt_of_made made', ← eq]
    exact ⟨rfl, goesOn⟩
  | short split accepted refused events ending =>
    rw [goesOn] at ending
    cases ending

/-- An attempt ends the loop with a failure, a fault or a refusal. -/
theorem ending_turnAt_ne {index : Nat} {attempt : Attempt Snapshot} {ending : Ending}
    (ends : (session.turnAt index attempt).ending = some ending) :
    ending ≠ .finished ∧ ending ≠ .interrupted := by
  have cut := session.cut_turnAt index attempt
  cases cut with
  | same accepted eq =>
    rw [eq] at ends
    obtain ⟨failure, rfl⟩ | ⟨failure, rfl⟩ | ⟨fault, rfl⟩ := ending_turn_cases ends
    · exact ⟨nofun, nofun⟩
    · exact ⟨nofun, nofun⟩
    · exact ⟨nofun, nofun⟩
  | short split accepted refused events refusal =>
    rw [refusal] at ends
    cases ends
    exact ⟨nofun, nofun⟩

/-- The loop goes on after every attempt that is over when it ends. -/
theorem goesOn_completed (session : Session Snapshot Diff) :
    session.GoesOn session.run.completed := by
  have course := session.course_run
  generalize session.run = run at course ⊢
  cases course with
  | finished limit goesOn => exact goesOn
  | interrupted allowed goesOn => exact goesOn
  | @ended index attempt ending allowed goesOn made ends =>
    obtain ⟨unfinished, uninterrupted⟩ := ending_turnAt_ne ends
    rw [Run.completed_of_ne unfinished uninterrupted]
    exact goesOn

/-- Every attempt that is over has been made. -/
theorem completed_le (run : Run Snapshot) : run.completed ≤ run.attempts := by
  unfold Run.completed
  split
  · exact Nat.le_refl _
  · exact Nat.le_refl _
  · exact Nat.sub_le _ _

/-- A loop with a fresh poller writes whole texts, on whatever streams. -/
theorem writesWhole (fresh : session.start = .fresh) :
    WritesWhole session.report session.settings session.script session.run where
  at_most_once attempt := by
    cases attempt with
    | zero =>
      have hnone : eventsOf session.run.events 0 = [] := by
        refine List.filter_eq_nil_iff.mpr fun event h => ?_
        obtain ⟨index, -, hwritten⟩ := mem_run_iff.mp h
        simp [attempt_of_mem_eventsAt hwritten]
      rw [hnone]
      exact Nat.zero_le 1
    | succ index =>
      rw [events_run, eventsOf_eventsBefore]
      split
      · exact Nat.le_trans (session.eventsAt_isPrefix index).length_le
          (session.onWorking.length_eventsAt_le_one rfl fresh index)
      · exact Nat.zero_le 1
  whole event h hstream := by
    obtain ⟨index, -, hwritten⟩ := mem_run_iff.mp h
    have hworking := (session.eventsAt_isPrefix index).subset hwritten
    have writes := (session.onWorking.mem_eventsAt_iff rfl fresh).mp hworking
    cases writes with
    | connected succeeded grid => cases hstream
    | failed failed transient => cases hstream
    | @difference before previous current text hbefore hnow rendered =>
      exact ⟨before, previous, current, rfl, hbefore, hnow, showsWhole_of_output rendered⟩
  all index previous current passed before now := by
    obtain ⟨attempt, made, goesOn⟩ := session.goesOn_completed (index + 1) passed
    obtain ⟨hevents, hworking⟩ := eventsAt_of_goesOn made goesOn
    rw [eventsOf_run (Nat.lt_of_lt_of_le passed (completed_le _)), hevents,
      session.onWorking.eventsAt_later rfl before now]
    cases rendered : output session.report session.settings
        (session.report.diff current previous) with
    | ok text =>
      refine ⟨text, ?_, showsWhole_of_output rendered⟩
      show shownEvents (index + 2) (some (output session.report session.settings
        (session.report.diff current previous))) = _
      rw [rendered]
      rfl
    | error fault =>
      have ends := (session.onWorking.ending_turnAt_iff rfl fresh made).mpr
        (.fault before now rendered)
      rw [hworking] at ends
      cases ends

end Session

/-- Streams that refuse writes only cut a run short, whatever the poller remembers at its start;
and a loop with a fresh poller writes at most one text in every attempt, and whole differences. -/
theorem run_cutShort (report : Report Snapshot Diff) (settings : Settings)
    (script : List (Attempt Snapshot)) :
    (∀ (streams : Streams) (start : Poller Snapshot),
      CutShort streams (runFrom report settings .working 0 start script)
        (runFrom report settings streams 0 start script)) ∧
    (∀ (out diagnostics : Nat) (reason : String) (event : Event),
      (Streams.failingFrom out diagnostics reason).accepts event = true ↔
        match event.stream with
        | .out => out = 0 ∨ event.attempt < out
        | .diagnostics => diagnostics = 0 ∨ event.attempt < diagnostics) ∧
    ∀ streams : Streams,
      WritesWhole report settings script (run report settings streams script) := by
  refine ⟨?_, ?_, ?_⟩
  · intro streams start
    exact cutShort_of_cut (cut_runFrom report settings streams script 0 start)
  · intro out diagnostics reason event
    exact accepts_failingFrom_iff
  · intro streams
    let session : Session Snapshot Diff :=
      { report := report, settings := settings, streams := streams, script := script }
    exact session.writesWhole rfl

end LoadWatch.Poll
