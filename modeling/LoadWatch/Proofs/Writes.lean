/-
  Proofs/Writes.lean --- the writes of a polling loop, attempt by attempt.

  WHAT THIS FILE IS FOR.  A run is a list of writes, each numbered with its
  attempt.  Here the list is taken apart by these numbers: what an attempt writes
  is what its turn writes (`eventsOf_run`), and the writes come in the order of
  the attempts (`ordered_eventsBefore`).

  For a fresh poller on streams that work, each write is told from the script
  alone (`Writes`): the notice of the first success, the report of a failure that
  does not end the loop, or the difference of two successes in a row.  No attempt
  has two of them, because the notice belongs to the first attempt and the
  difference to a later one.

  Main results: `Session.mem_eventsAt_iff` and `Session.length_eventsAt_le_one`.
-/
import LoadWatch.Proofs.LoopEndings

set_option autoImplicit false

namespace LoadWatch.Poll

variable {Snapshot Diff : Type}

/-- The writes of one attempt. -/
def eventsOf (events : List Event) (attempt : Nat) : List Event :=
  events.filter fun event => event.attempt = attempt

/-! ## Writes belong to attempts -/

theorem attempt_of_mem_write {streams : Streams} {attempt : Nat} {stream : Stream} {text : String}
    {poller : Poller Snapshot} {event : Event}
    (h : event ∈ (Turn.write streams attempt stream text poller).events) :
    event.attempt = attempt := by
  unfold Turn.write at h
  split at h
  · cases h
  · rw [List.mem_singleton.mp h]

theorem attempt_of_mem_shownTurn {report : Report Snapshot Diff} {settings : Settings}
    {streams : Streams} {attempt : Nat} {diff : Option Diff} {poller : Poller Snapshot}
    {event : Event} (h : event ∈ (shownTurn report settings streams attempt diff poller).events) :
    event.attempt = attempt := by
  unfold shownTurn at h
  split at h
  · cases h
  · split at h
    · exact attempt_of_mem_write h
    · cases h

theorem attempt_of_mem_successfulTurn {report : Report Snapshot Diff} {settings : Settings}
    {streams : Streams} {attempt : Nat} {diff : Option Diff} {poller : Poller Snapshot}
    {event : Event}
    (h : event ∈ (successfulTurn report settings streams attempt diff poller).events) :
    event.attempt = attempt := by
  unfold successfulTurn at h
  split at h
  · simp only at h
    split at h
    · exact attempt_of_mem_write h
    · rcases List.mem_append.mp h with notice | shown
      · exact attempt_of_mem_write notice
      · exact attempt_of_mem_shownTurn shown
  · exact attempt_of_mem_shownTurn h

theorem attempt_of_mem_failedTurn {settings : Settings} {streams : Streams} {attempt : Nat}
    {failure : Failure} {poller : Poller Snapshot} {event : Event}
    (h : event ∈ (failedTurn settings streams attempt failure poller).events) :
    event.attempt = attempt := by
  unfold failedTurn at h
  split at h
  · cases h
  · split at h
    · cases h
    · exact attempt_of_mem_write h

/-- The writes of a turn are numbered with its attempt. -/
theorem attempt_of_mem_turn {report : Report Snapshot Diff} {settings : Settings}
    {streams : Streams} {attempt : Nat} {outcome : Except Failure Snapshot}
    {poller : Poller Snapshot} {event : Event}
    (h : event ∈ (turn report settings streams attempt outcome poller).events) :
    event.attempt = attempt := by
  cases outcome with
  | error failure => exact attempt_of_mem_failedTurn h
  | ok current => exact attempt_of_mem_successfulTurn h

namespace Session

variable {session : Session Snapshot Diff}

theorem attempt_of_mem_eventsAt {index : Nat} {event : Event}
    (h : event ∈ session.eventsAt index) : event.attempt = index + 1 := by
  unfold eventsAt at h
  split at h
  · exact attempt_of_mem_turn h
  · cases h

/-- The writes of a run are those of the attempts that it makes. -/
theorem events_run (session : Session Snapshot Diff) :
    session.run.events = session.eventsBefore session.run.attempts := by
  have course := session.course_run
  generalize session.run = run at course ⊢
  cases course with
  | finished limit goesOn => rfl
  | interrupted allowed goesOn => rfl
  | ended allowed goesOn made ends => rfl

/-- A write of a run belongs to one of the attempts that it makes. -/
theorem mem_run_iff {event : Event} : event ∈ session.run.events ↔
    ∃ index < session.run.attempts, event ∈ session.eventsAt index := by
  rw [events_run, eventsBefore]
  simp only [List.mem_flatMap, List.mem_range]

/-- The writes of a run are those of its first attempt and then those of other attempts. -/
theorem events_run_eq_append (made : 0 < session.run.attempts) :
    ∃ rest, session.run.events = session.eventsAt 0 ++ rest ∧
      ∀ event ∈ rest, event.attempt ≠ 1 := by
  obtain ⟨others, hothers⟩ := Nat.exists_eq_succ_of_ne_zero (Nat.ne_zero_of_lt made)
  refine ⟨(List.range others).flatMap fun index => session.eventsAt (index + 1), ?_, ?_⟩
  · rw [events_run, hothers, eventsBefore, List.range_succ_eq_map, List.flatMap_cons,
      List.flatMap_map]
  · intro event hevent
    obtain ⟨index, -, hmem⟩ := List.mem_flatMap.mp hevent
    rw [attempt_of_mem_eventsAt hmem]
    exact Nat.succ_succ_ne_one index

/-- The attempts before a given number write in their order. -/
theorem ordered_eventsBefore (count : Nat) : (session.eventsBefore count).Pairwise
    fun earlier later => earlier.attempt ≤ later.attempt := by
  induction count with
  | zero => exact List.Pairwise.nil
  | succ count ih =>
    rw [eventsBefore_succ]
    refine List.pairwise_append.mpr ⟨ih, ?_, ?_⟩
    · refine List.pairwise_of_forall_mem_list fun earlier hearlier later hlater => ?_
      exact Nat.le_of_eq ((attempt_of_mem_eventsAt hearlier).trans
        (attempt_of_mem_eventsAt hlater).symm)
    · intro earlier hearlier later hlater
      obtain ⟨index, hindex, hmem⟩ := List.mem_flatMap.mp hearlier
      rw [attempt_of_mem_eventsAt hmem, attempt_of_mem_eventsAt hlater]
      have := List.mem_range.mp hindex
      omega

/-- The writes of an attempt are those of its turn, as often as there are any. -/
theorem eventsOf_eventsBefore (count index : Nat) :
    eventsOf (session.eventsBefore count) (index + 1) =
      if index < count then session.eventsAt index else [] := by
  have hother : ∀ other ≠ index, eventsOf (session.eventsAt other) (index + 1) = [] := by
    intro other hne
    refine List.filter_eq_nil_iff.mpr fun event hevent => ?_
    rw [attempt_of_mem_eventsAt hevent]
    simpa using hne
  have hown : eventsOf (session.eventsAt index) (index + 1) = session.eventsAt index := by
    refine List.filter_eq_self.mpr fun event hevent => ?_
    simp [attempt_of_mem_eventsAt hevent]
  induction count with
  | zero => rfl
  | succ count ih =>
    rw [eventsBefore_succ, eventsOf, List.filter_append, ← eventsOf, ← eventsOf, ih]
    rcases Nat.lt_trichotomy index count with hlt | rfl | hgt
    · rw [if_pos hlt, if_pos (by omega), hother count (by omega), List.append_nil]
    · rw [if_neg (Nat.lt_irrefl _), if_pos (Nat.lt_succ_self _), hown, List.nil_append]
    · rw [if_neg (by omega), if_neg (by omega), hother count (by omega), List.append_nil]

theorem eventsOf_run {index : Nat} (made : index < session.run.attempts) :
    eventsOf session.run.events (index + 1) = session.eventsAt index := by
  rw [events_run, eventsOf_eventsBefore, if_pos made]

end Session

/-! ## What is written on streams that work -/

/-- What the attempt at an index of a script writes, if the loop gets there. -/
inductive Writes (report : Report Snapshot Diff) (settings : Settings)
    (script : List (Attempt Snapshot)) : Nat → Event → Prop
  /-- The notice of a success in the first attempt, before a grid. -/
  | connected {sample : Snapshot} (succeeded : outcomeAt script 0 = some (.ok sample))
      (grid : settings.json = false) :
      Writes report settings script 0
        ⟨1, .diagnostics, connectedLine settings.connection⟩
  /-- The report of a failure after the first attempt, if asking again may be of use. -/
  | failed {index : Nat} {failure : Failure}
      (failed : outcomeAt script (index + 1) = some (.error failure))
      (transient : failure.isUnsupported = false) :
      Writes report settings script (index + 1)
        ⟨index + 2, .diagnostics, errorLine settings.colour failure⟩
  /-- The difference from the sample before. -/
  | difference {index : Nat} {previous current : Snapshot} {text : String}
      (before : outcomeAt script index = some (.ok previous))
      (now : outcomeAt script (index + 1) = some (.ok current))
      (rendered : output report settings (report.diff current previous) = .ok text) :
      Writes report settings script (index + 1) ⟨index + 2, .out, text⟩

namespace Session

variable {session : Session Snapshot Diff}

theorem made_of_outcomeAt {index : Nat} {outcome : Except Failure Snapshot}
    (h : outcomeAt session.script index = some outcome) :
    ∃ attempt, session.script[index]? = some attempt ∧ attempt.outcome = outcome :=
  Option.map_eq_some_iff.mp h

/-- Before every attempt but the first there is another one. -/
theorem outcomeAt_before {index : Nat} {outcome : Except Failure Snapshot}
    (h : outcomeAt session.script (index + 1) = some outcome) :
    ∃ earlier, outcomeAt session.script index = some earlier := by
  obtain ⟨attempt, made, -⟩ := made_of_outcomeAt h
  have hlength := (List.getElem?_eq_some_iff.mp made).1
  exact ⟨_, outcomeAt_of_made (List.getElem?_eq_getElem (Nat.lt_of_succ_lt hlength))⟩

theorem eventsAt_of_none {index : Nat} (h : outcomeAt session.script index = none) :
    session.eventsAt index = [] := by
  have hnone : session.script[index]? = none := Option.map_eq_none_iff.mp h
  simp only [eventsAt, hnone]

/-- A failed attempt reports its failure, unless it ends the loop. -/
theorem eventsAt_of_error (working : session.streams = .working)
    (fresh : session.start = .fresh) {index : Nat} {failure : Failure}
    (h : outcomeAt session.script index = some (.error failure)) :
    session.eventsAt index =
      if failure.isUnsupported ∨ index = 0 then []
      else [⟨index + 1, .diagnostics, errorLine session.settings.colour failure⟩] := by
  obtain ⟨attempt, made, failed⟩ := made_of_outcomeAt h
  have hlength : index ≤ session.script.length :=
    Nat.le_of_lt (List.getElem?_eq_some_iff.mp made).1
  rw [eventsAt_of_made made, turnAt, working, failed, turn_error_working,
    hasData_pollerBefore fresh hlength]
  by_cases unsupported : failure.isUnsupported = true
  · simp [unsupported]
  · by_cases first : index = 0
    · simp [unsupported, first]
    · simp [unsupported, first]

/-- The first attempt has no difference to write, but a notice if the output is a grid. -/
theorem eventsAt_first (working : session.streams = .working) (fresh : session.start = .fresh)
    {sample : Snapshot} (h : outcomeAt session.script 0 = some (.ok sample)) :
    session.eventsAt 0 = if session.settings.json then []
      else [⟨1, .diagnostics, connectedLine session.settings.connection⟩] := by
  obtain ⟨attempt, made, succeeded⟩ := made_of_outcomeAt h
  have hpoller : session.pollerBefore 0 = .fresh := fresh
  rw [eventsAt_of_made made, turnAt, working, succeeded, turn_ok_working, hpoller]
  cases hjson : session.settings.json <;>
    simp [noticeEvents, shownEvents, rendering?, Poller.fresh, hjson]

/-- A later success has no notice to write, but a difference if it comes after a success. -/
theorem eventsAt_later (working : session.streams = .working) {index : Nat}
    {outcome : Except Failure Snapshot} {current : Snapshot}
    (before : outcomeAt session.script index = some outcome)
    (now : outcomeAt session.script (index + 1) = some (.ok current)) :
    session.eventsAt (index + 1) =
      shownEvents (index + 2) (outcome.toOption.map fun previous =>
        output session.report session.settings (session.report.diff current previous)) := by
  obtain ⟨attempt, made, succeeded⟩ := made_of_outcomeAt now
  obtain ⟨earlier, made', rfl⟩ := made_of_outcomeAt before
  have hpoller : session.pollerBefore (index + 1) = pollerAfter earlier.outcome := by
    simp only [pollerBefore, made']
  rw [eventsAt_of_made made, turnAt, working, succeeded, turn_ok_working, hpoller]
  rfl

/-- An attempt writes nothing, or one text that is told from the script. -/
theorem eventsAt_cases (working : session.streams = .working) (fresh : session.start = .fresh)
    (index : Nat) : session.eventsAt index = [] ∨ ∃ event, session.eventsAt index = [event] ∧
      Writes session.report session.settings session.script index event := by
  cases houtcome : outcomeAt session.script index with
  | none => exact .inl (eventsAt_of_none houtcome)
  | some outcome =>
    cases outcome with
    | error failure =>
      rw [eventsAt_of_error working fresh houtcome]
      split
      · exact .inl rfl
      · rename_i transient
        obtain ⟨supported, later⟩ := not_or.mp transient
        obtain ⟨before, rfl⟩ := Nat.exists_eq_succ_of_ne_zero later
        exact .inr ⟨_, rfl, .failed houtcome (by simpa using supported)⟩
    | ok current =>
      cases index with
      | zero =>
        rw [eventsAt_first working fresh houtcome]
        split
        · exact .inl rfl
        · rename_i grid
          exact .inr ⟨_, rfl, .connected houtcome (by simpa using grid)⟩
      | succ before =>
        obtain ⟨outcome, hbefore⟩ := outcomeAt_before houtcome
        rw [eventsAt_later working hbefore houtcome]
        cases outcome with
        | error failure => exact .inl rfl
        | ok previous =>
          cases rendered : output session.report session.settings
              (session.report.diff current previous) with
          | error fault => exact .inl (by simp [Except.toOption, shownEvents, rendered])
          | ok text =>
            refine .inr ⟨⟨before + 2, .out, text⟩, ?_, .difference hbefore houtcome rendered⟩
            simp [Except.toOption, shownEvents, rendered]

/-- What an attempt writes is told from the script. -/
theorem mem_eventsAt_iff (working : session.streams = .working) (fresh : session.start = .fresh)
    {index : Nat} {event : Event} : event ∈ session.eventsAt index ↔
      Writes session.report session.settings session.script index event := by
  constructor
  · intro h
    rcases eventsAt_cases working fresh index with hnone | ⟨other, hother, writes⟩
    · rw [hnone] at h
      cases h
    · rw [hother] at h
      rwa [List.mem_singleton.mp h]
  · intro h
    cases h with
    | connected succeeded grid =>
      rw [eventsAt_first working fresh succeeded, grid]
      exact List.mem_singleton_self _
    | failed failed transient =>
      rw [eventsAt_of_error working fresh failed, transient]
      exact List.mem_singleton_self _
    | difference before now rendered =>
      rw [eventsAt_later working before now]
      simp [Except.toOption, rendered, shownEvents]

/-- No attempt writes twice. -/
theorem length_eventsAt_le_one (working : session.streams = .working)
    (fresh : session.start = .fresh) (index : Nat) : (session.eventsAt index).length ≤ 1 := by
  rcases eventsAt_cases working fresh index with hnone | ⟨event, hevent, -⟩
  · rw [hnone]
    exact Nat.zero_le 1
  · rw [hevent]
    exact Nat.le_refl 1

end Session

end LoadWatch.Poll
