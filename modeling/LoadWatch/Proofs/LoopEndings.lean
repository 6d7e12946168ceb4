/-
  Proofs/LoopEndings.lean --- how a polling loop ends.

  WHAT THIS FILE IS FOR.  The endings of a loop with a fresh poller, on streams
  that work, are told from its script alone: from the failures in it and where
  they stand, and from the differences that cannot be computed.

  An attempt brings an ending by itself (`Brings`); that data has been seen is
  the same as not being the first attempt.  The loop ends at the first attempt
  that brings an ending, unless the row count or the script comes first.

  Main result: `run_endsByProtocol`.
-/
import LoadWatch.Proofs.AdjacentDifferences
import LoadWatch.ServerStatus.StatLine

set_option autoImplicit false

namespace LoadWatch.Poll

variable {Snapshot Diff : Type}

/-! ## The ending that an attempt brings -/

/-- The outcome of the attempt at an index of a script. -/
def outcomeAt (script : List (Attempt Snapshot)) (index : Nat) :
    Option (Except Failure Snapshot) :=
  script[index]?.map Attempt.outcome

/-- The ending that the attempt at an index of a script brings, if the loop gets there. -/
inductive Brings (report : Report Snapshot Diff) (settings : Settings)
    (script : List (Attempt Snapshot)) : Nat → Ending → Prop
  /-- Asking again is of no use. -/
  | unsupported {index : Nat} {failure : Failure}
      (failed : outcomeAt script index = some (.error failure))
      (never : failure.isUnsupported = true) :
      Brings report settings script index (.unsupported failure)
  /-- Nothing has been seen yet. -/
  | fatalStartup {failure : Failure} (failed : outcomeAt script 0 = some (.error failure))
      (other : failure.isUnsupported = false) :
      Brings report settings script 0 (.fatalStartup failure)
  /-- The difference from the sample before cannot be computed. -/
  | fault {index : Nat} {previous current : Snapshot} {fault : ArithmeticFault}
      (before : outcomeAt script index = some (.ok previous))
      (now : outcomeAt script (index + 1) = some (.ok current))
      (faulty : output report settings (report.diff current previous) = .error fault) :
      Brings report settings script (index + 1) (.fault fault)

theorem faultEnding_eq_some_iff {text : Option (Except ArithmeticFault String)} {ending : Ending} :
    faultEnding text = some ending ↔
      ∃ fault, text = some (.error fault) ∧ ending = .fault fault := by
  constructor
  · intro h
    cases text with
    | none => cases h
    | some text =>
      cases text with
      | ok text => cases h
      | error fault =>
        cases h
        exact ⟨fault, rfl, rfl⟩
  · rintro ⟨fault, rfl, rfl⟩
    rfl

namespace Session

variable {session : Session Snapshot Diff}

theorem outcomeAt_of_made {index : Nat} {attempt : Attempt Snapshot}
    (made : session.script[index]? = some attempt) :
    outcomeAt session.script index = some attempt.outcome := by
  rw [outcomeAt, made]
  rfl

/-- A loop with a fresh poller has seen data before every attempt but the first. -/
theorem hasData_pollerBefore (fresh : session.start = .fresh) {index : Nat}
    (made : index ≤ session.script.length) :
    (session.pollerBefore index).hasData = decide (index ≠ 0) := by
  cases index with
  | zero =>
    rw [pollerBefore, fresh]
    rfl
  | succ before =>
    have hbefore : session.script[before]? = some session.script[before] :=
      List.getElem?_eq_getElem made
    simp [pollerBefore, hbefore, pollerAfter]

/-- The loop remembers before an attempt what a poller does that only observes the outcomes. -/
theorem previous_pollerBefore (unprimed : session.start.previous = none) (index : Nat) :
    (session.pollerBefore index).previous =
      Poller.rememberedAt (session.script.map Attempt.outcome) none index := by
  cases index with
  | zero => exact unprimed
  | succ before =>
    rw [Poller.rememberedAt, List.getElem?_map]
    cases hattempt : session.script[before]? with
    | none => simp [pollerBefore, hattempt, unprimed]
    | some attempt => simp [pollerBefore, hattempt, pollerAfter]

/-- The sample that is remembered before an attempt is that of the attempt before. -/
theorem previous_pollerBefore_eq_some_iff (unprimed : session.start.previous = none)
    {index : Nat} {previous : Snapshot} :
    (session.pollerBefore index).previous = some previous ↔
      ∃ before, index = before + 1 ∧ outcomeAt session.script before = some (.ok previous) := by
  rw [previous_pollerBefore unprimed, Poller.rememberedAt_eq_some_iff]
  simp only [List.getElem?_map, outcomeAt]

/-- The ending that a failed attempt brings. -/
theorem ending_turnAt_error (working : session.streams = .working)
    (fresh : session.start = .fresh) {index : Nat} {attempt : Attempt Snapshot}
    (made : session.script[index]? = some attempt) {failure : Failure}
    (failed : attempt.outcome = .error failure) :
    (session.turnAt index attempt).ending =
      if failure.isUnsupported then some (.unsupported failure)
      else if index = 0 then some (.fatalStartup failure)
      else none := by
  have hlength : index ≤ session.script.length :=
    Nat.le_of_lt (List.getElem?_eq_some_iff.mp made).1
  unfold turnAt
  rw [working, failed, turn_error_working, hasData_pollerBefore fresh hlength]
  by_cases unsupported : failure.isUnsupported = true
  · rw [if_pos unsupported, if_pos unsupported]
  · rw [if_neg unsupported, if_neg unsupported]
    by_cases first : index = 0
    · simp [first]
    · simp [first]

/-- The ending that a successful attempt brings. -/
theorem ending_turnAt_ok (working : session.streams = .working) {index : Nat}
    {attempt : Attempt Snapshot} {current : Snapshot}
    (succeeded : attempt.outcome = .ok current) :
    (session.turnAt index attempt).ending =
      faultEnding ((session.pollerBefore index).previous.map fun previous =>
        output session.report session.settings (session.report.diff current previous)) := by
  unfold turnAt
  rw [working, succeeded, turn_ok_working]
  rfl

/-- An attempt that the loop gets to ends it as the script says. -/
theorem ending_turnAt_iff (working : session.streams = .working)
    (fresh : session.start = .fresh) {index : Nat} {attempt : Attempt Snapshot}
    (made : session.script[index]? = some attempt) {ending : Ending} :
    (session.turnAt index attempt).ending = some ending ↔
      Brings session.report session.settings session.script index ending := by
  have houtcome := outcomeAt_of_made made
  have unprimed : session.start.previous = none := by
    rw [fresh]
    rfl
  cases failed : attempt.outcome with
  | error failure =>
    rw [ending_turnAt_error working fresh made failed]
    rw [failed] at houtcome
    constructor
    · intro h
      split at h
      · rename_i unsupported
        cases h
        exact .unsupported houtcome unsupported
      · rename_i supported
        split at h
        · rename_i first
          cases h
          subst first
          exact .fatalStartup houtcome (by simpa using supported)
        · cases h
    · intro h
      cases h with
      | unsupported failed' never =>
        obtain rfl : failure = _ := by simpa [houtcome] using failed'
        rw [if_pos never]
      | fatalStartup failed' other =>
        obtain rfl : failure = _ := by simpa [houtcome] using failed'
        simp [other]
      | fault before now faulty =>
        rw [houtcome] at now
        cases now
  | ok current =>
    rw [ending_turnAt_ok working failed, faultEnding_eq_some_iff]
    rw [failed] at houtcome
    constructor
    · rintro ⟨fault, h, rfl⟩
      obtain ⟨previous, hprevious, faulty⟩ := Option.map_eq_some_iff.mp h
      obtain ⟨before, rfl, hbefore⟩ := (previous_pollerBefore_eq_some_iff unprimed).mp hprevious
      exact .fault hbefore houtcome faulty
    · intro h
      cases h with
      | unsupported failed' never =>
        rw [houtcome] at failed'
        cases failed'
      | fatalStartup failed' other =>
        rw [houtcome] at failed'
        cases failed'
      | @fault before previous current' fault hbefore now faulty =>
        obtain rfl : current = current' := by simpa [houtcome] using now
        have hprevious := (previous_pollerBefore_eq_some_iff unprimed).mpr ⟨before, rfl, hbefore⟩
        refine ⟨fault, ?_, rfl⟩
        rw [hprevious, Option.map_some, faulty]

/-! ## The ending of a run -/

/-- The loop ends at an attempt that brings an ending. -/
theorem ends_where_brought (working : session.streams = .working)
    (fresh : session.start = .fresh) {index : Nat} (made : index < session.run.attempts)
    {ending : Ending}
    (brings : Brings session.report session.settings session.script index ending) :
    session.run.attempts = index + 1 ∧ session.run.ending = ending := by
  -- No attempt that the loop goes on after brings an ending.
  have quiet : ∀ {count : Nat}, session.GoesOn count → ¬ index < count := by
    intro count goesOn hlt
    obtain ⟨attempt, hattempt, going⟩ := goesOn index hlt
    have ends := (ending_turnAt_iff working fresh hattempt).mpr brings
    rw [going] at ends
    cases ends
  have course := session.course_run
  generalize session.run = run at course made ⊢
  cases course with
  | finished limit goesOn => exact absurd made (quiet goesOn)
  | interrupted allowed goesOn => exact absurd made (quiet goesOn)
  | @ended last attempt other allowed goesOn hattempt ends =>
    have hlast : index = last := by
      have := quiet goesOn
      have : index < last + 1 := made
      omega
    subst hlast
    have ends' := (ending_turnAt_iff working fresh hattempt).mpr brings
    rw [ends] at ends'
    cases ends'
    exact ⟨rfl, rfl⟩

/-- The loop ends at the row count, with its script, or at an attempt that brings the ending. -/
theorem ending_cases (working : session.streams = .working) (fresh : session.start = .fresh) :
    (session.run.ending = .finished ∧ 0 < session.settings.rowCount ∧
      session.run.attempts = session.settings.rowCount + 1) ∨
    (session.run.ending = .interrupted ∧ session.Allows session.script.length ∧
      session.run.attempts = session.script.length) ∨
    ∃ index, session.run.attempts = index + 1 ∧ session.Allows index ∧
      Brings session.report session.settings session.script index session.run.ending := by
  have course := session.course_run
  generalize session.run = run at course ⊢
  cases course with
  | finished limit goesOn => exact .inl ⟨rfl, limit, rfl⟩
  | interrupted allowed goesOn => exact .inr (.inl ⟨rfl, allowed, rfl⟩)
  | @ended index attempt ending allowed goesOn made ends =>
    exact .inr (.inr ⟨index, rfl, allowed, (ending_turnAt_iff working fresh made).mp ends⟩)

end Session

/-! ## The number of differences -/

/-- There is a difference wherever two successes are in a row. -/
theorem isSome_pairDiff_iff {report : Report Snapshot Diff}
    {outcomes : List (Except Failure Snapshot)} {index : Nat} :
    (pairDiff report outcomes index).isSome ↔
      (∃ previous, outcomes[index]? = some (.ok previous)) ∧
        ∃ current, outcomes[index + 1]? = some (.ok current) := by
  have hok : ∀ outcome : Option (Except Failure Snapshot),
      (outcome.bind Except.toOption).isSome ↔ ∃ sample, outcome = some (.ok sample) := by
    intro outcome
    cases outcome with
    | none => simp
    | some outcome => cases outcome <;> simp [Except.toOption]
  rw [← hok, ← hok]
  unfold pairDiff
  cases outcomes[index]?.bind Except.toOption with
  | none => simp
  | some previous => cases outcomes[index + 1]?.bind Except.toOption <;> simp

theorem length_adjacentDiffs_le (report : Report Snapshot Diff)
    (outcomes : List (Except Failure Snapshot)) :
    (adjacentDiffs report outcomes).length ≤ outcomes.length - 1 := by
  cases h : outcomes.length with
  | zero =>
    rw [List.length_eq_zero_iff.mp h]
    exact Nat.le_refl 0
  | succ count =>
    rw [adjacentDiffs_of_length report h]
    exact Nat.le_trans (List.length_filterMap_le ..) (Nat.le_of_eq List.length_range)

/-- Several outcomes have all the differences that they can have if none of them is a failure. -/
theorem length_adjacentDiffs_eq_iff (report : Report Snapshot Diff)
    {outcomes : List (Except Failure Snapshot)} (several : 2 ≤ outcomes.length) :
    (adjacentDiffs report outcomes).length = outcomes.length - 1 ↔
      ∀ index < outcomes.length, ∃ sample, outcomes[index]? = some (.ok sample) := by
  obtain ⟨count, h⟩ : ∃ count, outcomes.length = count + 1 := ⟨outcomes.length - 1, by omega⟩
  have hcount : (adjacentDiffs report outcomes).length = count ↔
      ∀ index < count, (pairDiff report outcomes index).isSome := by
    rw [adjacentDiffs_of_length report h]
    have hall := List.filterMap_length_eq_length (f := pairDiff report outcomes)
      (l := List.range count)
    rw [List.length_range] at hall
    simpa only [List.mem_range] using hall
  rw [h, Nat.add_sub_cancel, hcount]
  constructor
  · intro pairs index hindex
    cases index with
    | zero => exact (isSome_pairDiff_iff.mp (pairs 0 (by omega))).1
    | succ before =>
      exact (isSome_pairDiff_iff.mp (pairs before (Nat.lt_of_succ_lt_succ hindex))).2
  · intro successes index hindex
    exact isSome_pairDiff_iff.mpr
      ⟨successes index (Nat.lt_succ_of_lt hindex), successes (index + 1) (Nat.succ_lt_succ hindex)⟩

/-! ## The protocol -/

/-- How a loop with a fresh poller ends on streams that work. -/
structure EndsByProtocol (report : Report Snapshot Diff) (settings : Settings)
    (script : List (Attempt Snapshot)) (run : Run Snapshot) : Prop where
  /-- A loop ends as unsupported at an attempt whose failure says so. -/
  unsupported : ∀ failure, run.ending = .unsupported failure ↔ failure.isUnsupported = true ∧
    ∃ index, run.attempts = index + 1 ∧ outcomeAt script index = some (.error failure)
  /-- The first such failure ends the loop, whatever came before. -/
  unsupported_ends : ∀ index failure, index < run.attempts →
    outcomeAt script index = some (.error failure) → failure.isUnsupported = true →
      run.attempts = index + 1 ∧ run.ending = .unsupported failure
  /-- A startup is fatal if the first attempt has any other failure. -/
  fatalStartup : ∀ failure, run.ending = .fatalStartup failure ↔
    failure.isUnsupported = false ∧ outcomeAt script 0 = some (.error failure)
  /-- No startup is fatal later than that. -/
  fatalStartup_first : ∀ failure, run.ending = .fatalStartup failure → run.attempts = 1
  /-- Any other failure leaves it to the row count and to the script to end the loop. -/
  transient : ∀ index failure, index < run.attempts → index ≠ 0 →
    outcomeAt script index = some (.error failure) → failure.isUnsupported = false →
      index + 1 < run.attempts ∨
      (run.attempts = settings.rowCount + 1 ∧ run.ending = .finished) ∨
      (run.attempts = script.length ∧ run.ending = .interrupted)
  /-- A loop without a row count does not finish. -/
  finished : run.ending = .finished →
    0 < settings.rowCount ∧ run.attempts = settings.rowCount + 1
  /-- A script ends before the loop if it has no more attempts than the row count. -/
  interrupted : run.ending = .interrupted → run.attempts = script.length ∧
    (settings.rowCount = 0 ∨ script.length ≤ settings.rowCount)
  /-- A difference that cannot be computed ends the loop. -/
  fault : ∀ fault, run.ending = .fault fault ↔ ∃ index previous current,
    run.attempts = index + 2 ∧ outcomeAt script index = some (.ok previous) ∧
      outcomeAt script (index + 1) = some (.ok current) ∧
      output report settings (report.diff current previous) = .error fault
  not_refused : ∀ reason, run.ending ≠ .refused reason
  attempts_le : 0 < settings.rowCount → run.attempts ≤ settings.rowCount + 1
  shown_le : 0 < settings.rowCount → (shownTexts run.events).length ≤ settings.rowCount
  /-- All differences that the row count allows for are shown if no attempt fails and all of
  them can be computed. -/
  shown_eq_iff : 0 < settings.rowCount →
    ((shownTexts run.events).length = settings.rowCount ↔
      run.attempts = settings.rowCount + 1 ∧
      (∀ index < run.attempts, ∃ sample, outcomeAt script index = some (.ok sample)) ∧
      ∀ fault, run.ending ≠ .fault fault)

/-- An ending is counted as a fault if it is one. -/
theorem length_faultOf (attempt : Nat) (ending : Ending) :
    (faultOf attempt (some ending)).length ≤ 1 ∧
      ((faultOf attempt (some ending)).length = 0 ↔ ∀ fault, ending ≠ .fault fault) := by
  unfold faultOf
  split
  · rename_i fault h
    cases h
    exact ⟨Nat.le_refl 1, ⟨nofun, fun other => absurd rfl (other fault)⟩⟩
  · rename_i other
    exact ⟨Nat.zero_le 1, ⟨fun _ fault h => other fault (congrArg some h), fun _ => rfl⟩⟩

namespace Session

variable {session : Session Snapshot Diff}

/-- The first attempt of a script is made. -/
theorem attempts_pos (working : session.streams = .working) (fresh : session.start = .fresh)
    (hscript : session.script ≠ []) : 0 < session.run.attempts := by
  obtain ⟨-, -, h⟩ | ⟨-, -, h⟩ | ⟨index, h, -, -⟩ := ending_cases working fresh
  · omega
  · have := List.length_pos_iff.mpr hscript
    omega
  · omega

theorem attempts_le_rowCount (working : session.streams = .working)
    (fresh : session.start = .fresh) (limit : 0 < session.settings.rowCount) :
    session.run.attempts ≤ session.settings.rowCount + 1 := by
  obtain ⟨-, -, h⟩ | ⟨-, allowed, h⟩ | ⟨index, h, allowed, -⟩ := ending_cases working fresh
  · exact Nat.le_of_eq h
  · unfold Allows at allowed
    omega
  · unfold Allows at allowed
    omega

/-- An ending that is neither of the two quiet ones is brought by the last attempt. -/
theorem brings_ending (working : session.streams = .working) (fresh : session.start = .fresh)
    {ending : Ending} (h : session.run.ending = ending) (limited : ending ≠ .finished)
    (scripted : ending ≠ .interrupted) :
    ∃ index, session.run.attempts = index + 1 ∧
      Brings session.report session.settings session.script index ending := by
  subst h
  obtain ⟨quiet, -⟩ | ⟨quiet, -⟩ | ⟨index, made, -, brings⟩ := ending_cases working fresh
  · exact absurd quiet limited
  · exact absurd quiet scripted
  · exact ⟨index, made, brings⟩

/-- What is shown and what could not be computed is at most one difference for every attempt but
the first, and exactly that if there are several attempts and none of them fails. -/
theorem length_shownTexts_run (working : session.streams = .working)
    (fresh : session.start = .fresh) :
    let differences := (shownTexts session.run.events).length +
      (faultOf session.run.attempts (some session.run.ending)).length
    differences ≤ session.run.attempts - 1 ∧
      (2 ≤ session.run.attempts → (differences = session.run.attempts - 1 ↔
        ∀ index < session.run.attempts,
          ∃ sample, outcomeAt session.script index = some (.ok sample))) := by
  have unprimed : session.start.previous = none := by
    rw [fresh]
    rfl
  obtain ⟨made, -, hattempts⟩ := session.writesAdjacent_run working unprimed
  have hlength : (firstOutcomes session.script session.run.attempts).length =
      session.run.attempts := length_firstOutcomes made
  have hdifferences := congrArg List.length hattempts
  rw [List.length_append, written, List.length_map, renderings, List.length_map] at hdifferences
  refine ⟨?_, fun several => ?_⟩
  · have hle := length_adjacentDiffs_le session.report
      (firstOutcomes session.script session.run.attempts)
    rw [hlength] at hle
    rw [hdifferences]
    exact hle
  · have hiff := length_adjacentDiffs_eq_iff session.report (by rwa [hlength])
    rw [hlength] at hiff
    rw [hdifferences, hiff]
    constructor
    · intro successes index hindex
      have success := successes index hindex
      rwa [getElem?_firstOutcomes hindex] at success
    · intro successes index hindex
      rw [getElem?_firstOutcomes hindex]
      exact successes index hindex

/-- A loop with a fresh poller on streams that work ends by the protocol. -/
theorem endsByProtocol (working : session.streams = .working) (fresh : session.start = .fresh) :
    EndsByProtocol session.report session.settings session.script session.run where
  unsupported failure := by
    constructor
    · intro h
      obtain ⟨index, made, brings⟩ := brings_ending working fresh h nofun nofun
      cases brings with
      | unsupported failed never => exact ⟨never, index, made, failed⟩
    · rintro ⟨never, index, made, failed⟩
      exact (ends_where_brought working fresh (by omega) (.unsupported failed never)).2
  unsupported_ends index failure made failed never :=
    ends_where_brought working fresh made (.unsupported failed never)
  fatalStartup failure := by
    constructor
    · intro h
      obtain ⟨index, made, brings⟩ := brings_ending working fresh h nofun nofun
      cases brings with
      | fatalStartup failed other => exact ⟨other, failed⟩
    · rintro ⟨other, failed⟩
      have hscript : session.script ≠ [] := by
        intro h
        rw [h] at failed
        cases failed
      have made := attempts_pos working fresh hscript
      exact (ends_where_brought working fresh made (.fatalStartup failed other)).2
  fatalStartup_first failure h := by
    obtain ⟨index, made, brings⟩ := brings_ending working fresh h nofun nofun
    cases brings with
    | fatalStartup failed other => exact made
  transient index failure made later failed other := by
    obtain ⟨h, -, attempts⟩ | ⟨h, -, attempts⟩ | ⟨last, attempts, -, brings⟩ :=
      ending_cases working fresh
    · exact .inr (.inl ⟨attempts, h⟩)
    · exact .inr (.inr ⟨attempts, h⟩)
    · left
      have hlast : index ≠ last := by
        rintro rfl
        generalize session.run.ending = ending at brings
        cases brings with
        | unsupported failed' never =>
          obtain rfl : failure = _ := by simpa [failed] using failed'
          rw [never] at other
          cases other
        | fatalStartup failed' other' => exact later rfl
        | fault before now faulty =>
          rw [failed] at now
          cases now
      omega
  finished h := by
    obtain ⟨-, finished⟩ | ⟨other, -⟩ | ⟨index, made, -, brings⟩ := ending_cases working fresh
    · exact finished
    · rw [h] at other
      cases other
    · rw [h] at brings
      cases brings
  interrupted h := by
    obtain ⟨other, -⟩ | ⟨-, allowed, attempts⟩ | ⟨index, made, -, brings⟩ :=
      ending_cases working fresh
    · rw [h] at other
      cases other
    · exact ⟨attempts, allowed⟩
    · rw [h] at brings
      cases brings
  fault fault := by
    constructor
    · intro h
      obtain ⟨index, made, brings⟩ := brings_ending working fresh h nofun nofun
      cases brings with
      | fault before now faulty => exact ⟨_, _, _, made, before, now, faulty⟩
    · rintro ⟨index, previous, current, made, before, now, faulty⟩
      exact (ends_where_brought working fresh (by omega) (.fault before now faulty)).2
  not_refused reason h := by
    obtain ⟨index, made, brings⟩ := brings_ending working fresh h nofun nofun
    cases brings
  attempts_le limit := attempts_le_rowCount working fresh limit
  shown_le limit := by
    have hattempts := attempts_le_rowCount working fresh limit
    have hshown := (length_shownTexts_run working fresh).1
    omega
  shown_eq_iff limit := by
    have hattempts := attempts_le_rowCount working fresh limit
    obtain ⟨hle, hiff⟩ := length_shownTexts_run working fresh
    have hfault := length_faultOf session.run.attempts session.run.ending
    rw [← hfault.2]
    constructor
    · intro hshown
      have hall : session.run.attempts = session.settings.rowCount + 1 := by omega
      exact ⟨hall, (hiff (by omega)).mp (by omega), by omega⟩
    · rintro ⟨hall, successes, hnone⟩
      have hdifferences := (hiff (by omega)).mpr successes
      omega

end Session

/-- Every loop with a fresh poller on streams that work ends by the protocol. -/
theorem run_endsByProtocol (report : Report Snapshot Diff) (settings : Settings)
    (script : List (Attempt Snapshot)) :
    EndsByProtocol report settings script (run report settings .working script) := by
  let session : Session Snapshot Diff :=
    { report := report, settings := settings, script := script }
  exact session.endsByProtocol rfl rfl

/-- A sample of a server that reports only how often and how long its writes have waited. -/
def waitingSample (count totalMillis : Int) : ServerStatus.Sample where
  time := ⟨0, 0⟩
  cores := 0
  status := { metrics := some { getLastError := { waitTimes := ⟨count, totalMillis⟩ } } }
  reply := .null

/-- Without a failure all attempts are made, and still not all differences are shown: the average
wait has a quotient that 64 bits do not hold. -/
theorem overflowing_average_not_shown :
    let settings : Settings := { rowCount := 1, render := { fields := some ["glems"] } }
    let script : List (Attempt ServerStatus.Sample) :=
      [{ outcome := .ok (waitingSample 1 0) }, { outcome := .ok (waitingSample 0 minInt64) }]
    let run := run ServerStatus.report settings .working script
    run.attempts = settings.rowCount + 1 ∧
      (∀ index < run.attempts, ∃ sample, outcomeAt script index = some (.ok sample)) ∧
      (shownTexts run.events).length ≠ settings.rowCount := by
  intro settings script run
  have hattempts : run.attempts = 2 := by rfl
  have hshown : shownTexts run.events = [] := by rfl
  refine ⟨hattempts, ?_, ?_⟩
  · intro index made
    obtain rfl | rfl : index = 0 ∨ index = 1 := by omega
    · exact ⟨_, rfl⟩
    · exact ⟨_, rfl⟩
  · rw [hshown]
    exact nofun

end LoadWatch.Poll
