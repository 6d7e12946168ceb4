/-
  Proofs/Diagnostics.lean --- what a polling loop reports besides the differences.

  WHAT THIS FILE IS FOR.  A loop speaks to its user on a second stream: once that
  it is connected, and for every failure that it survives what went wrong.  Here
  this is said as a protocol over the whole run (`ReportsByProtocol`), for every
  order in which attempts can fail and succeed.

  The texts are told as they are read on the screen (`noticeText`, `failureText`).

  An attempt that the loop gets to has its writes told by the script.  What is
  left is to tell from the run which failures the loop survives: all but those
  that it ends with (`transient_of_not_endsWith`).

  Main result: `run_reportsByProtocol`.
-/
import LoadWatch.Proofs.Writes

set_option autoImplicit false

namespace LoadWatch.Poll

variable {Snapshot Diff : Type}

/-! ## Texts -/

/-- The line that says that the loop is connected. -/
def noticeText (settings : Settings) : String := "connected to: " ++ settings.connection ++ "\n"

/-- The line for a failure: a mark, which is red if there are colours, and what went wrong, from the
outermost context down to the causes. -/
def failureText (settings : Settings) (failure : Failure) : String :=
  (if settings.colour then "\x1b[31mError:\x1b[0m" else "Error:") ++ " " ++
    ": ".intercalate (failure.context ++ failure.cause.chain) ++ "\n"

/-- The write that reports the first success. -/
def notice (settings : Settings) : Event := ⟨1, .diagnostics, noticeText settings⟩

/-- The writes that say that the loop is connected, of whatever attempt they are. -/
def notices (settings : Settings) (events : List Event) : List Event :=
  events.filter fun event => event.stream = .diagnostics ∧ event.text = noticeText settings

theorem connectedLine_eq (settings : Settings) :
    connectedLine settings.connection = noticeText settings := rfl

theorem errorLine_eq (settings : Settings) (failure : Failure) :
    errorLine settings.colour failure = failureText settings failure := rfl

/-- The notice of a success is no report of a failure. -/
theorem noticeText_ne_failureText (settings : Settings) (failure : Failure) :
    noticeText settings ≠ failureText settings failure := by
  intro h
  have hnotice : (noticeText settings).toList.head? = some 'c' := by
    rw [noticeText, String.toList_append, String.toList_append]
    rfl
  have hfailure : (failureText settings failure).toList.head? ≠ some 'c' := by
    rw [failureText, String.toList_append, String.toList_append, String.toList_append]
    cases settings.colour with
    | false => exact nofun
    | true => exact nofun
  rw [← h] at hfailure
  exact hfailure hnotice

/-! ## The protocol -/

/-- A run ends with the failure of the attempt at an index. -/
def EndsWith (run : Run Snapshot) (index : Nat) (failure : Failure) : Prop :=
  run.attempts = index + 1 ∧
    (run.ending = .unsupported failure ∨ run.ending = .fatalStartup failure)

/-- What a loop with a fresh poller reports on streams that work. -/
structure ReportsByProtocol (settings : Settings) (script : List (Attempt Snapshot))
    (run : Run Snapshot) : Prop where
  /-- Every write belongs to an attempt that is made, and they come in the order of these. -/
  numbered : ∀ event ∈ run.events, 1 ≤ event.attempt ∧ event.attempt ≤ run.attempts
  ordered : run.events.Pairwise fun earlier later => earlier.attempt ≤ later.attempt
  /-- Before grids the first of all writes is the notice, if an attempt has succeeded, and it is
  not written again. -/
  connected : settings.json = false →
    (∃ index < run.attempts, ∃ sample, outcomeAt script index = some (.ok sample)) →
      run.events.head? = some (notice settings) ∧ notices settings run.events = [notice settings]
  /-- Otherwise there is no notice. -/
  not_connected : (settings.json = true ∨
    ∀ index < run.attempts, ∀ sample, outcomeAt script index ≠ some (.ok sample)) →
      notices settings run.events = []
  /-- A failure that does not end the loop is reported with its whole chain of causes, and that is
  all that its attempt writes. -/
  failed : ∀ index failure, index < run.attempts →
    outcomeAt script index = some (.error failure) → ¬ EndsWith run index failure →
      eventsOf run.events (index + 1) =
        [⟨index + 1, .diagnostics, failureText settings failure⟩]
  /-- The attempt that ends the loop with its failure writes nothing. -/
  ended : ∀ index failure, EndsWith run index failure → eventsOf run.events (index + 1) = []
  /-- A success reports at most that the loop is connected, and no failure. -/
  succeeded : ∀ index sample, index < run.attempts →
    outcomeAt script index = some (.ok sample) → ∀ event ∈ eventsOf run.events (index + 1),
      event.stream = .diagnostics →
        event = notice settings ∧ ∀ failure, event.text ≠ failureText settings failure
  /-- A success after a failure writes nothing at all. -/
  recovered : ∀ index failure sample, index + 1 < run.attempts →
    outcomeAt script index = some (.error failure) →
    outcomeAt script (index + 1) = some (.ok sample) → eventsOf run.events (index + 2) = []

namespace Session

variable {session : Session Snapshot Diff}

/-- The attempts that are made are in the script. -/
theorem outcomeAt_of_lt_attempts {index : Nat} (made : index < session.run.attempts) :
    ∃ outcome, outcomeAt session.script index = some outcome := by
  have hlength : session.run.attempts ≤ session.script.length := by
    have course := session.course_run
    generalize session.run = run at course ⊢
    cases course with
    | finished limit goesOn => exact goesOn.le_length
    | interrupted allowed goesOn => exact goesOn.le_length
    | ended allowed goesOn made ends => exact (List.getElem?_eq_some_iff.mp made).1
  exact ⟨_, outcomeAt_of_made (List.getElem?_eq_getElem (Nat.lt_of_lt_of_le made hlength))⟩

/-- A failure that does not end the loop is none that would have to. -/
theorem transient_of_not_endsWith (working : session.streams = .working)
    (fresh : session.start = .fresh) {index : Nat} {failure : Failure}
    (made : index < session.run.attempts)
    (failed : outcomeAt session.script index = some (.error failure))
    (survived : ¬ EndsWith session.run index failure) :
    failure.isUnsupported = false ∧ index ≠ 0 := by
  have supported : failure.isUnsupported = false := by
    by_contra never
    obtain ⟨attempts, ending⟩ := ends_where_brought working fresh made
      (.unsupported failed (by simpa using never))
    exact survived ⟨attempts, .inl ending⟩
  refine ⟨supported, ?_⟩
  rintro rfl
  obtain ⟨attempts, ending⟩ := ends_where_brought working fresh made
    (.fatalStartup failed supported)
  exact survived ⟨attempts, .inr ending⟩

/-- Nothing succeeds later if the first attempt does not. -/
theorem first_succeeds (working : session.streams = .working) (fresh : session.start = .fresh)
    {index : Nat} {sample : Snapshot} (made : index < session.run.attempts)
    (succeeded : outcomeAt session.script index = some (.ok sample)) :
    ∃ first, outcomeAt session.script 0 = some (.ok first) := by
  obtain ⟨outcome, hfirst⟩ := outcomeAt_of_lt_attempts (Nat.zero_lt_of_lt made)
  cases outcome with
  | ok first => exact ⟨first, hfirst⟩
  | error failure =>
    have ends : EndsWith session.run 0 failure := by
      by_contra survived
      exact (transient_of_not_endsWith working fresh (Nat.zero_lt_of_lt made) hfirst survived).2 rfl
    have hindex : index = 0 := by
      have := ends.1
      omega
    rw [hindex, hfirst] at succeeded
    cases succeeded

/-- The notice is only written by the first attempt. -/
theorem notices_run (working : session.streams = .working) (fresh : session.start = .fresh)
    {event : Event} (h : event ∈ notices session.settings session.run.events) :
    event ∈ session.eventsAt 0 ∧ 0 < session.run.attempts ∧ session.settings.json = false ∧
      ∃ sample, outcomeAt session.script 0 = some (.ok sample) := by
  obtain ⟨hmem, hnotice⟩ := List.mem_filter.mp h
  obtain ⟨hstream, htext⟩ := of_decide_eq_true hnotice
  obtain ⟨index, made, hwritten⟩ := mem_run_iff.mp hmem
  have writes := (mem_eventsAt_iff working fresh).mp hwritten
  cases writes with
  | connected succeeded grid => exact ⟨hwritten, made, grid, _, succeeded⟩
  | failed failed transient => exact absurd htext.symm (noticeText_ne_failureText _ _)
  | difference before now rendered => cases hstream

/-- The loop reports by the protocol. -/
theorem reportsByProtocol (working : session.streams = .working)
    (fresh : session.start = .fresh) :
    ReportsByProtocol session.settings session.script session.run where
  numbered event h := by
    obtain ⟨index, made, hwritten⟩ := mem_run_iff.mp h
    rw [attempt_of_mem_eventsAt hwritten]
    omega
  ordered := by
    rw [events_run]
    exact ordered_eventsBefore _
  connected grid success := by
    obtain ⟨index, made, sample, succeeded⟩ := success
    obtain ⟨first, hfirst⟩ := first_succeeds working fresh made succeeded
    have hnotice : session.eventsAt 0 = [notice session.settings] := by
      rw [eventsAt_first working fresh hfirst, grid, connectedLine_eq]
      rfl
    obtain ⟨rest, hevents, hrest⟩ := events_run_eq_append (Nat.zero_lt_of_lt made)
    rw [hnotice, List.singleton_append] at hevents
    -- The notice belongs to the first attempt, so it is not among the writes of the others.
    have hothers : notices session.settings rest = [] := by
      refine List.filter_eq_nil_iff.mpr fun event hevent hagain => ?_
      have hmem : event ∈ session.run.events := by
        rw [hevents]
        exact List.mem_cons_of_mem _ hevent
      have hfirst := (notices_run working fresh (List.mem_filter.mpr ⟨hmem, hagain⟩)).1
      exact hrest event hevent (attempt_of_mem_eventsAt hfirst)
    rw [hevents]
    refine ⟨rfl, ?_⟩
    rw [notices, List.filter_cons_of_pos (by simp [notice]), ← notices, hothers]
  not_connected h := by
    refine List.eq_nil_iff_forall_not_mem.mpr fun event hevent => ?_
    obtain ⟨-, made, grid, sample, succeeded⟩ := notices_run working fresh hevent
    rcases h with json | failures
    · rw [json] at grid
      cases grid
    · exact failures 0 made sample succeeded
  failed index failure made failed survived := by
    obtain ⟨supported, later⟩ := transient_of_not_endsWith working fresh made failed survived
    rw [eventsOf_run made, eventsAt_of_error working fresh failed,
      if_neg (by simp [supported, later]), errorLine_eq]
  ended index failure h := by
    obtain ⟨attempts, ending⟩ := h
    rw [eventsOf_run (by omega)]
    rcases ending with ending | ending
    · obtain ⟨last, hlast, brings⟩ := brings_ending working fresh ending nofun nofun
      obtain rfl : index = last := by omega
      cases brings with
      | unsupported failed never => rw [eventsAt_of_error working fresh failed, if_pos (.inl never)]
    · obtain ⟨last, hlast, brings⟩ := brings_ending working fresh ending nofun nofun
      obtain rfl : index = last := by omega
      cases brings with
      | fatalStartup failed other => rw [eventsAt_of_error working fresh failed, if_pos (.inr rfl)]
  succeeded index sample made succeeded event h hstream := by
    rw [eventsOf_run made] at h
    have writes := (mem_eventsAt_iff working fresh).mp h
    cases writes with
    | connected succeeded grid => exact ⟨rfl, noticeText_ne_failureText _⟩
    | failed failed transient =>
      rw [failed] at succeeded
      cases succeeded
    | difference before now rendered => cases hstream
  recovered index failure sample made failed succeeded := by
    rw [eventsOf_run made, eventsAt_later working failed succeeded]
    rfl

end Session

/-- Every loop with a fresh poller on streams that work reports by the protocol. -/
theorem run_reportsByProtocol (report : Report Snapshot Diff) (settings : Settings)
    (script : List (Attempt Snapshot)) :
    ReportsByProtocol settings script (run report settings .working script) := by
  let session : Session Snapshot Diff :=
    { report := report, settings := settings, script := script }
  exact session.reportsByProtocol rfl rfl

end LoadWatch.Poll
