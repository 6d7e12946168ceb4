/-
  Proofs/ElapsedTime.lean --- how long a polling loop takes.

  WHAT THIS FILE IS FOR.  The clock of a loop is moved by two things only: the
  loop sleeps, and it waits for an aggregation that never returns until the
  deadline has come.  Here the time of a whole run is told from how many of each
  there are (`KeepsTime`), whichever way the loop ends.

  A loop sleeps after every attempt that is over when it ends
  (`Session.elapsed_run`).  If it finishes these are all of its attempts, and if
  it ends with an error all but the last one, which it does not sleep after.

  An answer that never comes counts as a failure that took long.  What a loop
  does depends on the outcomes of its attempts alone (`runFrom_congr`), so a
  server that fails at once where it was silent brings about the same run, only a
  shorter one.

  Main result: `run_keepsTime`.
-/
import Mathlib.Algebra.GroupWithZero.Nat
import LoadWatch.Proofs.Diagnostics
import LoadWatch.Proofs.Refusals

set_option autoImplicit false

namespace LoadWatch

variable {α : Type}

/-- The answer never comes. -/
def Answer.isSilence : Answer α → Bool
  | .silence => true
  | _ => false

theorem Answer.isSilence_iff {answer : Answer α} :
    answer.isSilence = true ↔ answer = .silence := by
  cases answer <;> simp [isSilence]

namespace Poll

variable {Snapshot Diff : Type}

open Sampling (deadlineFailure aggregationDeadline)

/-! ## Sleeping and waiting -/

/-- The time that attempts spend on waiting for answers that never come. -/
def waited (script : List (Attempt Snapshot)) : Nat := (script.map Attempt.waitedMillis).sum

theorem waited_take_succ {script : List (Attempt Snapshot)} {count : Nat}
    {attempt : Attempt Snapshot} (made : script[count]? = some attempt) :
    waited (script.take (count + 1)) = waited (script.take count) + attempt.waitedMillis := by
  simp [waited, List.take_add_one, made]

namespace Session

variable {session : Session Snapshot Diff}

theorem elapsedBefore_eq {count : Nat} (made : count ≤ session.script.length) :
    session.elapsedBefore count =
      count * session.settings.sleepMillis + waited (session.script.take count) := by
  induction count with
  | zero =>
    rw [Nat.zero_mul, List.take_zero]
    rfl
  | succ count ih =>
    have hmade : session.script[count]? = some session.script[count] :=
      List.getElem?_eq_getElem made
    rw [elapsedBefore_succ hmade, ih (Nat.le_of_succ_le made), waited_take_succ hmade,
      Nat.succ_mul]
    omega

/-- A loop sleeps once for every attempt that is over when it ends, and waits in every attempt that
it makes: on whatever streams, and whatever it remembers at its start. -/
theorem elapsed_run (session : Session Snapshot Diff) : session.run.elapsedMillis =
    session.run.completed * session.settings.sleepMillis +
      waited (session.script.take session.run.attempts) := by
  have course := session.course_run
  generalize session.run = run at course ⊢
  cases course with
  | finished limit goesOn => exact elapsedBefore_eq goesOn.le_length
  | interrupted allowed goesOn => exact elapsedBefore_eq goesOn.le_length
  | @ended index attempt ending allowed goesOn made ends =>
    -- The last attempt has been waited for, but the loop does not sleep after it any more.
    obtain ⟨unfinished, uninterrupted⟩ := ending_turnAt_ne ends
    rw [Run.completed_of_ne unfinished uninterrupted]
    dsimp only
    rw [elapsedBefore_eq goesOn.le_length, waited_take_succ made, Nat.add_sub_cancel,
      Nat.add_assoc]

end Session

/-! ## Outcomes -/

/-- Loops whose attempts have the same outcomes do the same. Only the time that they take may
differ. -/
theorem runFrom_congr (report : Report Snapshot Diff) (settings : Settings) (streams : Streams)
    {script other : List (Attempt Snapshot)}
    (same : script.map Attempt.outcome = other.map Attempt.outcome) :
    ∀ (attempts : Nat) (poller : Poller Snapshot),
      let run := runFrom report settings streams attempts poller script
      let otherRun := runFrom report settings streams attempts poller other
      { run with elapsedMillis := otherRun.elapsedMillis } = otherRun := by
  -- Every turn changes the poller and the number of attempts, so both are left open.
  induction script generalizing other with
  | nil =>
    obtain rfl := List.map_eq_nil_iff.mp same.symm
    exact fun _ _ => rfl
  | cons attempt rest ih =>
    obtain ⟨otherAttempt, otherRest, rfl, houtcome, hrest⟩ := List.map_eq_cons_iff.mp same.symm
    intro attempts poller
    dsimp only
    rw [runFrom, runFrom]
    split
    · rfl
    · simp only [houtcome]
      generalize turn report settings streams (attempts + 1) attempt.outcome poller = turn
      cases turn.ending with
      | some ending => rfl
      | none =>
        have hrun := ih hrest.symm (attempts + 1) turn.poller
        dsimp only at hrun ⊢
        rw [Run.mk.injEq] at hrun
        obtain ⟨hevents, hending, hattempts, hpoller, -⟩ := hrun
        rw [hevents, hending, hattempts, hpoller]

/-! ## Silent servers -/

/-- The attempts that are made of what a server answers, and when. -/
def attemptsOf (sample : Time.Moment → Answer α → Attempt Snapshot)
    (answers : List (Time.Moment × Answer α)) : List (Attempt Snapshot) :=
  answers.map fun answer => sample answer.1 answer.2

/-- How many of the first answers never come. -/
def hangs (answers : List (Time.Moment × Answer α)) (count : Nat) : Nat :=
  (answers.take count).countP fun answer => answer.2.isSilence

/-- A server that fails at once where it was silent. -/
def failingAtOnce (answers : List (Time.Moment × Answer α)) : List (Time.Moment × Answer α) :=
  answers.map fun answer =>
    (answer.1, if answer.2.isSilence then .failed deadlineFailure else answer.2)

/-- Samples are taken of what is answered, and silence is waited for until the deadline. -/
structure WaitsForDeadline (sample : Time.Moment → Answer α → Attempt Snapshot) : Prop where
  silence : ∀ time, sample time .silence = ⟨.error deadlineFailure, aggregationDeadline⟩
  failed : ∀ time failure, sample time (.failed failure) = ⟨.error failure, 0⟩
  spoken : ∀ time answer, answer.isSilence = false → (sample time answer).waitedMillis = 0

theorem waitsForDeadline_attempt (context : String) (parse : String → Except Failure α)
    (decode : Time.Moment → α → Except DecodeFault Snapshot) :
    WaitsForDeadline fun time => Sampling.attempt context parse (decode time) where
  silence _ := rfl
  failed _ _ := rfl
  spoken time answer hspoken := by
    cases answer with
    | reply content => rfl
    | body text =>
      rw [Sampling.attempt]
      cases parse text <;> rfl
    | failed failure => rfl
    | silence => cases hspoken

variable {sample : Time.Moment → Answer α → Attempt Snapshot}
  {answers : List (Time.Moment × Answer α)}

/-- The waiting is for the silent answers only, thirty seconds for each. -/
theorem WaitsForDeadline.waited_take (h : WaitsForDeadline sample) (count : Nat) :
    waited ((attemptsOf sample answers).take count) = hangs answers count * 30000 := by
  rw [attemptsOf, ← List.map_take, waited, hangs]
  generalize answers.take count = first
  induction first with
  | nil => simp
  | cons answer first ih =>
    obtain ⟨time, answer⟩ := answer
    rw [List.map_cons, List.map_cons, List.sum_cons, ih, List.countP_cons]
    cases hsilence : answer.isSilence with
    | true =>
      obtain rfl := Answer.isSilence_iff.mp hsilence
      have hwaited : (sample time .silence).waitedMillis = 30000 := by
        rw [h.silence]
        rfl
      rw [hwaited, if_pos rfl, Nat.add_mul, Nat.one_mul, Nat.add_comm]
    | false =>
      rw [h.spoken time answer hsilence, if_neg Bool.false_ne_true, Nat.zero_add, Nat.add_zero]

theorem WaitsForDeadline.map_outcome_failingAtOnce (h : WaitsForDeadline sample) :
    (attemptsOf sample answers).map Attempt.outcome =
      (attemptsOf sample (failingAtOnce answers)).map Attempt.outcome := by
  rw [attemptsOf, attemptsOf, failingAtOnce, List.map_map, List.map_map, List.map_map]
  refine List.map_congr_left fun answer _ => ?_
  obtain ⟨time, answer⟩ := answer
  cases answer with
  | silence => simp [Answer.isSilence, h.silence, h.failed]
  | reply _ | body _ | failed _ => rfl

/-- Answers that all come are never waited for. -/
theorem hangs_eq_zero (answered : ∀ answer ∈ answers, answer.2.isSilence = false) (count : Nat) :
    hangs answers count = 0 := by
  rw [hangs, List.countP_eq_zero]
  intro answer hanswer
  rw [answered answer (List.mem_of_mem_take hanswer)]
  exact Bool.false_ne_true

theorem isSilence_of_mem_failingAtOnce {answer : Time.Moment × Answer α}
    (h : answer ∈ failingAtOnce answers) : answer.2.isSilence = false := by
  obtain ⟨⟨time, answer⟩, -, rfl⟩ := List.mem_map.mp h
  cases answer <;> rfl

theorem WaitsForDeadline.outcomeAt_of_silence (h : WaitsForDeadline sample) {index : Nat}
    {time : Time.Moment} (silent : answers[index]? = some (time, .silence)) :
    outcomeAt (attemptsOf sample answers) index = some (.error deadlineFailure) := by
  rw [outcomeAt, attemptsOf, List.getElem?_map, silent, Option.map_some, Option.map_some,
    h.silence]

/-! ## The time of a run -/

/-- How long a loop with a fresh poller takes, and what it does about answers that never come. -/
structure KeepsTime (report : Report Snapshot Diff) (settings : Settings)
    (sample : Time.Moment → Answer α → Attempt Snapshot) (answers : List (Time.Moment × Answer α))
    (run : Run Snapshot) : Prop where
  /-- A loop that finishes has slept after all of its attempts. -/
  finished : run.ending = .finished → run.elapsedMillis =
    run.attempts * settings.sleepMillis + hangs answers run.attempts * 30000
  /-- So has a loop that is still to go on when there are no more answers. -/
  interrupted : run.ending = .interrupted → run.elapsedMillis =
    run.attempts * settings.sleepMillis + hangs answers run.attempts * 30000
  /-- A loop that ends with an error does not sleep after the attempt that it ends with. -/
  failed : run.ending ≠ .finished → run.ending ≠ .interrupted → 0 < run.attempts ∧
    run.elapsedMillis =
      (run.attempts - 1) * settings.sleepMillis + hangs answers run.attempts * 30000
  /-- If it fails at its start then it does not sleep at all. -/
  fatalStartup : ∀ failure, run.ending = .fatalStartup failure → run.attempts = 1 ∧
    run.elapsedMillis = hangs answers 1 * 30000
  /-- An attempt that finds out that the server cannot report takes no time. -/
  unsupported : ∀ failure, run.ending = .unsupported failure → run.elapsedMillis =
    (run.attempts - 1) * settings.sleepMillis + hangs answers (run.attempts - 1) * 30000
  /-- Silence is a failure like any other: the run would be the same if the server failed at once,
  only shorter. -/
  ordinary :
    let quick := Poll.run report settings .working (attemptsOf sample (failingAtOnce answers))
    { run with elapsedMillis := quick.elapsedMillis } = quick ∧
      run.elapsedMillis = quick.elapsedMillis + hangs answers run.attempts * 30000
  /-- Silence in the first attempt is fatal. -/
  silent_start : ∀ time, answers[0]? = some (time, .silence) →
    run.ending = .fatalStartup deadlineFailure ∧ run.attempts = 1 ∧ run.events = [] ∧
      run.elapsedMillis = 30000
  /-- Later it is reported, and the loop goes on unless the row count or the answers end. -/
  silent_later : ∀ index time, index + 1 < run.attempts →
    answers[index + 1]? = some (time, .silence) →
      eventsOf run.events (index + 2) =
        [⟨index + 2, .diagnostics, errorLine settings.colour deadlineFailure⟩] ∧
      (index + 2 < run.attempts ∨ run.ending = .finished ∨ run.ending = .interrupted)
  /-- The sample before it is discarded: it is not remembered at the end, and not compared with the
  sample after it. -/
  discarded : ∀ index time, answers[index]? = some (time, .silence) →
    (run.attempts = index + 1 → run.poller.previous = none) ∧
    ∀ current, index + 1 < run.attempts →
      outcomeAt (attemptsOf sample answers) (index + 1) = some (.ok current) →
        eventsOf run.events (index + 2) = []

theorem hangs_succ_of_silence {index : Nat} {time : Time.Moment}
    (silent : answers[index]? = some (time, .silence)) :
    hangs answers (index + 1) = hangs answers index + 1 := by
  simp [hangs, List.take_add_one, silent, Answer.isSilence]

/-- A server that says that it cannot report is not silent. -/
theorem WaitsForDeadline.hangs_succ_of_unsupported (h : WaitsForDeadline sample) {index : Nat}
    {failure : Failure}
    (failed : outcomeAt (attemptsOf sample answers) index = some (.error failure))
    (never : failure.isUnsupported = true) :
    hangs answers (index + 1) = hangs answers index := by
  cases hanswer : answers[index]? with
  | none => simp [hangs, List.take_add_one, hanswer]
  | some answer =>
    obtain ⟨time, answer⟩ := answer
    have hspoken : answer.isSilence = false := by
      refine Bool.eq_false_iff.mpr fun hsilence => ?_
      obtain rfl := Answer.isSilence_iff.mp hsilence
      rw [h.outcomeAt_of_silence hanswer] at failed
      cases failed
      cases never
    simp [hangs, List.take_add_one, hanswer, hspoken]

namespace Session

variable {session : Session Snapshot Diff}

/-- A loop that an attempt ends has made that attempt. -/
theorem pos_attempts_of_ne (session : Session Snapshot Diff)
    (unfinished : session.run.ending ≠ .finished)
    (uninterrupted : session.run.ending ≠ .interrupted) : 0 < session.run.attempts := by
  have course := session.course_run
  generalize session.run = run at course unfinished uninterrupted ⊢
  cases course with
  | finished limit goesOn => exact absurd rfl unfinished
  | interrupted allowed goesOn => exact absurd rfl uninterrupted
  | ended allowed goesOn made ends => exact Nat.succ_pos _

/-- After a failure nothing is remembered. -/
theorem previous_run_of_error (working : session.streams = .working) {index : Nat}
    {failure : Failure} (last : session.run.attempts = index + 1)
    (failed : outcomeAt session.script index = some (.error failure)) :
    session.run.poller.previous = none := by
  obtain ⟨attempt, made, hfailed⟩ := made_of_outcomeAt failed
  have hbefore : (session.pollerBefore (index + 1)).previous = none := by
    simp [pollerBefore, made, pollerAfter, hfailed, Except.toOption]
  have course := session.course_run
  generalize session.run = run at course last ⊢
  cases course with
  | finished limit goesOn =>
    dsimp only at last ⊢
    rw [last, hbefore]
  | interrupted allowed goesOn =>
    dsimp only at last ⊢
    rw [last, hbefore]
  | @ended other otherAttempt ending allowed goesOn otherMade ends =>
    obtain rfl : other = index := Nat.succ.inj last
    obtain rfl := Option.some.inj (made.symm.trans otherMade)
    rw [turnAt, working, hfailed, turn_error_working]
    split
    · rfl
    · split
      · rfl
      · rfl

end Session

/-- Polling a server by its answers, with a fresh poller on streams that work. -/
def polling (report : Report Snapshot Diff) (settings : Settings)
    (sample : Time.Moment → Answer α → Attempt Snapshot)
    (answers : List (Time.Moment × Answer α)) : Session Snapshot Diff where
  report := report
  settings := settings
  script := attemptsOf sample answers

section Polling

variable (report : Report Snapshot Diff) (settings : Settings)

/-- Such a loop has a fresh poller, on streams that work. -/
theorem endsByProtocol_polling (sample : Time.Moment → Answer α → Attempt Snapshot)
    (answers : List (Time.Moment × Answer α)) :
    EndsByProtocol report settings (attemptsOf sample answers)
      (polling report settings sample answers).run := by
  let session := polling report settings sample answers
  have hprotocol : EndsByProtocol session.report session.settings session.script session.run :=
    Session.endsByProtocol rfl rfl
  exact hprotocol

theorem WaitsForDeadline.elapsed_polling (h : WaitsForDeadline sample) :
    let run := (polling report settings sample answers).run
    run.elapsedMillis =
      run.completed * settings.sleepMillis + hangs answers run.attempts * 30000 := by
  intro run
  rw [← h.waited_take]
  exact Session.elapsed_run _

/-- A loop that an attempt ends does not sleep after that attempt. -/
theorem WaitsForDeadline.elapsed_of_ne (h : WaitsForDeadline sample)
    (unfinished : (polling report settings sample answers).run.ending ≠ .finished)
    (uninterrupted : (polling report settings sample answers).run.ending ≠ .interrupted) :
    let run := (polling report settings sample answers).run
    run.elapsedMillis =
      (run.attempts - 1) * settings.sleepMillis + hangs answers run.attempts * 30000 := by
  intro run
  rw [h.elapsed_polling, Run.completed_of_ne unfinished uninterrupted]

theorem WaitsForDeadline.elapsed_fatalStartup (h : WaitsForDeadline sample) {failure : Failure}
    (ending : (polling report settings sample answers).run.ending = .fatalStartup failure) :
    (polling report settings sample answers).run.attempts = 1 ∧
      (polling report settings sample answers).run.elapsedMillis =
        hangs answers 1 * 30000 := by
  have hprotocol := endsByProtocol_polling report settings sample answers
  have hattempts := hprotocol.fatalStartup_first failure ending
  refine ⟨hattempts, ?_⟩
  rw [h.elapsed_of_ne, hattempts, Nat.sub_self, Nat.zero_mul, Nat.zero_add]
  all_goals
    rw [ending]
    exact nofun

/-- A server that fails at once where it was silent makes for the same run, only a shorter one. -/
theorem WaitsForDeadline.run_failingAtOnce (h : WaitsForDeadline sample) :
    let run := (polling report settings sample answers).run
    let quick := (polling report settings sample (failingAtOnce answers)).run
    { run with elapsedMillis := quick.elapsedMillis } = quick ∧
      run.elapsedMillis = quick.elapsedMillis + hangs answers run.attempts * 30000 := by
  intro run quick
  have hsame : { run with elapsedMillis := quick.elapsedMillis } = quick :=
    runFrom_congr report settings .working h.map_outcome_failingAtOnce 0 .fresh
  have hcompleted : quick.completed = run.completed := by
    rw [← hsame]
    rfl
  refine ⟨hsame, ?_⟩
  have hrun : run.elapsedMillis = _ := h.elapsed_polling report settings
  have hquick : quick.elapsedMillis = _ := h.elapsed_polling report settings
  rw [hrun, hquick, hangs_eq_zero fun _ => isSilence_of_mem_failingAtOnce, hcompleted,
    Nat.zero_mul, Nat.add_zero]

/-- A loop with a fresh poller on streams that work keeps time. -/
theorem WaitsForDeadline.keepsTime (h : WaitsForDeadline sample) :
    KeepsTime report settings sample answers
      (polling report settings sample answers).run where
  finished ending := by
    rw [h.elapsed_polling, Run.completed, ending]
  interrupted ending := by
    rw [h.elapsed_polling, Run.completed, ending]
  failed unfinished uninterrupted :=
    ⟨Session.pos_attempts_of_ne _ unfinished uninterrupted,
      h.elapsed_of_ne report settings unfinished uninterrupted⟩
  fatalStartup failure ending := h.elapsed_fatalStartup report settings ending
  unsupported failure ending := by
    have hprotocol := endsByProtocol_polling report settings sample answers
    obtain ⟨never, index, hattempts, failed⟩ := (hprotocol.unsupported failure).mp ending
    rw [h.elapsed_of_ne, hattempts, h.hangs_succ_of_unsupported failed never, Nat.add_sub_cancel]
    all_goals
      rw [ending]
      exact nofun
  ordinary := h.run_failingAtOnce report settings
  silent_start time silent := by
    have failed := h.outcomeAt_of_silence silent
    have hprotocol := endsByProtocol_polling report settings sample answers
    have ending := (hprotocol.fatalStartup deadlineFailure).mpr ⟨rfl, failed⟩
    obtain ⟨hattempts, hmillis⟩ := h.elapsed_fatalStartup report settings ending
    refine ⟨ending, hattempts, ?_, ?_⟩
    · rw [Session.events_run, hattempts, Session.eventsBefore_succ,
        Session.eventsAt_of_error rfl rfl failed, if_pos (.inr rfl)]
      rfl
    · rw [hmillis, hangs_succ_of_silence silent, hangs, List.take_zero, List.countP_nil]
  silent_later index time made silent := by
    have failed := h.outcomeAt_of_silence silent
    have hprotocol := endsByProtocol_polling report settings sample answers
    have hlast := hprotocol.transient (index + 1) deadlineFailure made
      (Nat.succ_ne_zero index) failed rfl
    refine ⟨?_, hlast.imp id (Or.imp And.right And.right)⟩
    rw [Session.eventsOf_run made, Session.eventsAt_of_error rfl rfl failed, if_neg]
    · rfl
    · rintro (never | first)
      · cases never
      · cases first
  discarded index time silent := by
    have failed := h.outcomeAt_of_silence silent
    refine ⟨fun last => Session.previous_run_of_error rfl last failed, ?_⟩
    intro current made succeeded
    exact (Session.reportsByProtocol rfl rfl).recovered index deadlineFailure current made failed
      succeeded

end Polling

/-- Loops with a fresh poller on streams that work keep time: on operation metrics whatever is
answered and whatever is not, and on the other reports, whose commands are always answered, so that
there is nothing but sleep. -/
theorem run_keepsTime (settings : Settings) (cores : Int) :
    (∀ answers : List (Time.Moment × Answer (List OperationMetrics.CursorItem)),
      let sample := fun time => Sampling.operations time cores
      KeepsTime OperationMetrics.report settings sample answers
        (Poll.run OperationMetrics.report settings .working (attemptsOf sample answers))) ∧
    ∀ answers : List (Time.Moment × Answer Json.Value),
      (∀ answer ∈ answers, answer.2.isSilence = false) →
        let top := fun time => Sampling.namespaces time cores
        let status := fun time => Sampling.status time cores
        (∀ count, hangs answers count = 0) ∧
        KeepsTime NamespaceTop.report settings top answers
          (Poll.run NamespaceTop.report settings .working (attemptsOf top answers)) ∧
        KeepsTime LockUsage.report settings Sampling.locks answers
          (Poll.run LockUsage.report settings .working (attemptsOf Sampling.locks answers)) ∧
        KeepsTime ServerStatus.report settings status answers
          (Poll.run ServerStatus.report settings .working (attemptsOf status answers)) := by
  refine ⟨fun answers => ?_, fun answers answered => ⟨hangs_eq_zero answered, ?_, ?_, ?_⟩⟩
  · exact (waitsForDeadline_attempt _ _ _).keepsTime OperationMetrics.report settings
  · exact (waitsForDeadline_attempt _ _ _).keepsTime NamespaceTop.report settings
  · exact (waitsForDeadline_attempt _ _ _).keepsTime LockUsage.report settings
  · exact (waitsForDeadline_attempt _ _ _).keepsTime ServerStatus.report settings

/-- A server whose second aggregation never returns. -/
def stalledAnswers : List (Time.Moment × Answer (List OperationMetrics.CursorItem)) :=
  [(⟨0, 0⟩, .reply []), (⟨1, 0⟩, .silence), (⟨32, 0⟩, .reply [])]

/-- A server that is lost after its first reply. -/
def lostAnswers : List (Time.Moment × Answer Json.Value) :=
  [(⟨0, 0⟩, .reply (.object [("locks", .object []), ("totals", .object [])])),
    (⟨1, 0⟩, .failed (.plain "connection reset"))]

/-- Three attempts, three sleeps of a second, and thirty seconds for the aggregation that never
returns; and two sleeps of a second for a server that is lost. -/
theorem stalledAnswers_timed :
    let settings : Settings := { rowCount := 2, sleepMillis := 1000 }
    let sample := fun time => Sampling.operations time 4
    let top := fun time => Sampling.namespaces time 4
    let run := Poll.run OperationMetrics.report settings .working
      (attemptsOf sample stalledAnswers)
    let lostRun := Poll.run NamespaceTop.report settings .working (attemptsOf top lostAnswers)
    (KeepsTime OperationMetrics.report settings sample stalledAnswers run ∧
      run.ending = .finished ∧ run.attempts = 3 ∧ run.elapsedMillis = 33000) ∧
    (∀ answer ∈ lostAnswers, answer.2.isSilence = false) ∧
      KeepsTime NamespaceTop.report settings top lostAnswers lostRun ∧
      lostRun.elapsedMillis = 2000 := by
  intro settings sample top run lostRun
  obtain ⟨operations, others⟩ := run_keepsTime settings 4
  have answered : ∀ answer ∈ lostAnswers, answer.2.isSilence = false := by decide
  have hstalled : run.elapsedMillis = 33000 := by decide +kernel
  have hlost : lostRun.elapsedMillis = 2000 := by decide +kernel
  exact ⟨⟨operations stalledAnswers, rfl, rfl, hstalled⟩, answered, (others _ answered).2.1, hlost⟩

end Poll

end LoadWatch
