/-
  Proofs/AdjacentDifferences.lean --- differences are those of adjacent samples.

  WHAT THIS FILE IS FOR.  A poller remembers one sample, and a loop writes the
  difference that the poller gives it.  Neither knows the samples further back.
  Here both are compared with the list of all outcomes: a difference belongs to
  two neighbours in it that are both successes, and every such pair has one.

  The proof for the poller is an induction over the outcomes that carries what
  is remembered (`getElem?_observeAll`).  The proof for the loop has no
  induction of its own: it reads the attempts of a run off its course.

  Main results: `Poller.answersAdjacent_observeAll` and `Session.writesAdjacent_run`.
-/
import Mathlib.Data.List.Basic
import LoadWatch.Proofs.Course

set_option autoImplicit false

namespace LoadWatch.Poll

variable {Snapshot Diff : Type}

/-! ## The poller -/

namespace Poller

theorem length_observeAll (report : Report Snapshot Diff) (poller : Poller Snapshot)
    (outcomes : List (Except Failure Snapshot)) :
    (observeAll report poller outcomes).length = outcomes.length := by
  induction outcomes generalizing poller with
  | nil => rfl
  | cons outcome rest ih => rw [observeAll, List.length_cons, List.length_cons, ih]

/-- The sample that is remembered when the outcome at an index comes in. -/
def rememberedAt (outcomes : List (Except Failure Snapshot)) (start : Option Snapshot) :
    Nat → Option Snapshot
  | 0 => start
  | index + 1 => outcomes[index]?.bind Except.toOption

/-- The answer to the outcome at an index: it depends on that outcome and on what is remembered
then. -/
theorem getElem?_observeAll (report : Report Snapshot Diff)
    (outcomes : List (Except Failure Snapshot)) (poller : Poller Snapshot) (index : Nat) :
    (observeAll report poller outcomes)[index]? = outcomes[index]?.map fun outcome =>
      observe report ⟨rememberedAt outcomes poller.previous index, poller.hasData⟩ outcome := by
  induction outcomes generalizing poller index with
  | nil => rfl
  | cons outcome rest ih =>
    rw [observeAll]
    cases index with
    | zero => rfl
    | succ index =>
      have hdata : (observe report poller outcome).2.hasData = poller.hasData := by
        cases outcome <;> rfl
      rw [List.getElem?_cons_succ, List.getElem?_cons_succ, ih, previous_observe, hdata]
      cases index with
      | zero => rfl
      | succ index => rfl

/-- What an answer has to do with the outcomes, at its own index and at the one before. -/
structure AnswersAdjacent (report : Report Snapshot Diff)
    (outcomes : List (Except Failure Snapshot)) (index : Nat)
    (answer : Except Failure (Option Diff) × Poller Snapshot) : Prop where
  /-- A difference is that of two successes in a row. -/
  difference : ∀ diff, answer.1 = .ok (some diff) ↔
    ∃ before previous current, index = before + 1 ∧
      outcomes[before]? = some (.ok previous) ∧ outcomes[index]? = some (.ok current) ∧
      diff = report.diff current previous
  /-- There is none for a success that comes first or after a failure. -/
  nothing : answer.1 = .ok none ↔ (∃ current, outcomes[index]? = some (.ok current)) ∧
    (index = 0 ∨ ∃ before failure, index = before + 1 ∧
      outcomes[before]? = some (.error failure))
  /-- A failure is handed on. -/
  failed : ∀ failure, answer.1 = .error failure ↔ outcomes[index]? = some (.error failure)
  /-- A success is remembered, and after a failure nothing is. -/
  remembered : answer.2.previous = outcomes[index]?.bind Except.toOption

/-- What is remembered of the outcome before is a success. -/
theorem rememberedAt_eq_some_iff {outcomes : List (Except Failure Snapshot)} {index : Nat}
    {previous : Snapshot} : rememberedAt outcomes none index = some previous ↔
      ∃ before, index = before + 1 ∧ outcomes[before]? = some (.ok previous) := by
  cases index with
  | zero => simp [rememberedAt]
  | succ before =>
    rw [rememberedAt]
    constructor
    · intro h
      obtain ⟨outcome, houtcome, hok⟩ := Option.bind_eq_some_iff.mp h
      cases outcome with
      | error failure => cases hok
      | ok sample =>
        cases hok
        exact ⟨before, rfl, houtcome⟩
    · rintro ⟨other, heq, hother⟩
      obtain rfl : before = other := by omega
      rw [hother]
      rfl

/-- Nothing is remembered at the start and after a failure. -/
theorem rememberedAt_eq_none_iff {outcomes : List (Except Failure Snapshot)} {index : Nat}
    (made : index ≤ outcomes.length) : rememberedAt outcomes none index = none ↔
      index = 0 ∨ ∃ before failure, index = before + 1 ∧
        outcomes[before]? = some (.error failure) := by
  cases index with
  | zero => simp [rememberedAt]
  | succ before =>
    have hbefore : outcomes[before]? = some outcomes[before] := List.getElem?_eq_getElem made
    rw [rememberedAt, hbefore, Option.bind_some]
    cases houtcome : outcomes[before] with
    | ok sample => simp [Except.toOption, hbefore, houtcome]
    | error failure => simp [Except.toOption, hbefore, houtcome]

/-- Every answer of a poller that starts without a sample is about adjacent outcomes. -/
theorem answersAdjacent_observeAll {report : Report Snapshot Diff} {hasData : Bool}
    {outcomes : List (Except Failure Snapshot)} {index : Nat}
    {answer : Except Failure (Option Diff) × Poller Snapshot}
    (h : (observeAll report ⟨none, hasData⟩ outcomes)[index]? = some answer) :
    AnswersAdjacent report outcomes index answer := by
  rw [getElem?_observeAll] at h
  obtain ⟨outcome, houtcome, rfl⟩ := Option.map_eq_some_iff.mp h
  have made : index < outcomes.length := (List.getElem?_eq_some_iff.mp houtcome).1
  cases outcome with
  | error failure =>
    refine ⟨fun diff => ⟨nofun, ?_⟩, ⟨nofun, ?_⟩, fun other => ?_, ?_⟩
    · rintro ⟨before, previous, current, -, -, hcurrent, -⟩
      rw [houtcome] at hcurrent
      cases hcurrent
    · rintro ⟨⟨current, hcurrent⟩, -⟩
      rw [houtcome] at hcurrent
      cases hcurrent
    · simp [observe, houtcome]
    · rw [houtcome]
      rfl
  | ok sample =>
    have hanswer : (observe report ⟨rememberedAt outcomes none index, hasData⟩ (.ok sample)).1 =
        .ok ((rememberedAt outcomes none index).map (report.diff sample)) := rfl
    refine ⟨fun diff => ?_, ?_, fun other => ?_, ?_⟩
    · rw [hanswer, Except.ok.injEq, Option.map_eq_some_iff]
      constructor
      · rintro ⟨previous, hprevious, rfl⟩
        obtain ⟨before, rfl, hbefore⟩ := rememberedAt_eq_some_iff.mp hprevious
        exact ⟨before, previous, sample, rfl, hbefore, houtcome, rfl⟩
      · rintro ⟨before, previous, current, hindex, hbefore, hcurrent, rfl⟩
        obtain rfl : sample = current := by simpa [houtcome] using hcurrent
        exact ⟨previous, rememberedAt_eq_some_iff.mpr ⟨before, hindex, hbefore⟩, rfl⟩
    · rw [hanswer, Except.ok.injEq, Option.map_eq_none_iff,
        rememberedAt_eq_none_iff (Nat.le_of_lt made)]
      exact ⟨fun h => ⟨⟨sample, houtcome⟩, h⟩, fun h => h.2⟩
    · rw [hanswer, houtcome]
      simp
    · rw [houtcome]
      rfl

end Poller

/-! ## The loop -/

/-- The difference of the outcomes at an index and after it, if both are successes, with the
number of the attempt that completes the pair. Attempts are numbered from one. -/
def pairDiff (report : Report Snapshot Diff) (outcomes : List (Except Failure Snapshot))
    (index : Nat) : Option (Nat × Diff) := do
  let previous ← outcomes[index]?.bind Except.toOption
  let current ← outcomes[index + 1]?.bind Except.toOption
  return (index + 2, report.diff current previous)

/-- The differences of successes in a row. -/
def adjacentDiffs (report : Report Snapshot Diff) (outcomes : List (Except Failure Snapshot)) :
    List (Nat × Diff) :=
  (List.range outcomes.length).filterMap (pairDiff report outcomes)

/-- The outcomes of the first attempts of a script. -/
def firstOutcomes (script : List (Attempt Snapshot)) (count : Nat) :
    List (Except Failure Snapshot) :=
  (script.take count).map Attempt.outcome

/-- The texts on the output, each with the number of its attempt. -/
def shownTexts (events : List Event) : List (Nat × String) :=
  events.filterMap fun event =>
    if event.stream = .out then some (event.attempt, event.text) else none

/-- The texts on the output as results of rendering. -/
def written (events : List Event) : List (Nat × Except ArithmeticFault String) :=
  (shownTexts events).map fun shown => (shown.1, .ok shown.2)

/-- Differences as they are rendered. -/
def renderings (report : Report Snapshot Diff) (settings : Settings) (diffs : List (Nat × Diff)) :
    List (Nat × Except ArithmeticFault String) :=
  diffs.map fun diff => (diff.1, output report settings diff.2)

/-- The number of attempts that are over when the loop ends: all that are made, but for the one
that the loop ends in. -/
def Run.completed (run : Run Snapshot) : Nat :=
  match run.ending with
  | .finished => run.attempts
  | .interrupted => run.attempts
  | _ => run.attempts - 1

/-- A loop that an attempt ends is not over with that attempt. -/
theorem Run.completed_of_ne {run : Run Snapshot} (unfinished : run.ending ≠ .finished)
    (uninterrupted : run.ending ≠ .interrupted) : run.completed = run.attempts - 1 := by
  unfold completed
  split
  · contradiction
  · contradiction
  · rfl

/-- The fault that an attempt has ended with, if it has. -/
def faultOf (attempt : Nat) : Option Ending → List (Nat × Except ArithmeticFault String)
  | some (.fault fault) => [(attempt, .error fault)]
  | _ => []

theorem length_firstOutcomes {script : List (Attempt Snapshot)} {count : Nat}
    (h : count ≤ script.length) : (firstOutcomes script count).length = count := by
  rw [firstOutcomes, List.length_map, List.length_take, Nat.min_eq_left h]

theorem getElem?_firstOutcomes {script : List (Attempt Snapshot)} {count index : Nat}
    (h : index < count) :
    (firstOutcomes script count)[index]? = script[index]?.map Attempt.outcome := by
  rw [firstOutcomes, List.getElem?_map, List.getElem?_take_of_lt h]

theorem shownTexts_append (first second : List Event) :
    shownTexts (first ++ second) = shownTexts first ++ shownTexts second :=
  List.filterMap_append

theorem written_append (first second : List Event) :
    written (first ++ second) = written first ++ written second := by
  rw [written, shownTexts_append, List.map_append]
  rfl

/-- The last outcome is not followed by one that it could be a pair with. -/
theorem pairDiff_last (report : Report Snapshot Diff) {outcomes : List (Except Failure Snapshot)}
    {index : Nat} (last : outcomes.length ≤ index + 1) :
    pairDiff report outcomes index = none := by
  have hnext : outcomes[index + 1]? = none := List.getElem?_eq_none last
  unfold pairDiff
  rw [hnext]
  cases outcomes[index]?.bind Except.toOption <;> rfl

/-- The successes in a row are among all outcomes but the last. -/
theorem adjacentDiffs_of_length (report : Report Snapshot Diff)
    {outcomes : List (Except Failure Snapshot)} {count : Nat} (h : outcomes.length = count + 1) :
    adjacentDiffs report outcomes = (List.range count).filterMap (pairDiff report outcomes) := by
  have hlast : pairDiff report outcomes count = none := pairDiff_last report (Nat.le_of_eq h)
  rw [adjacentDiffs, h, List.range_succ, List.filterMap_append, List.filterMap_cons, hlast,
    List.filterMap_nil, List.append_nil]

/-- The notice of the first success does not go to the output. -/
theorem written_noticeEvents (settings : Settings) (attempt : Nat) (poller : Poller Snapshot) :
    written (noticeEvents settings attempt poller) = [] := by
  unfold noticeEvents
  split <;> rfl

/-- What an attempt has to show is what it writes on the output, or the fault that it ends with. -/
theorem written_turn (report : Report Snapshot Diff) (settings : Settings) (attempt : Nat)
    (outcome : Except Failure Snapshot) (poller : Poller Snapshot) :
    written (turn report settings .working attempt outcome poller).events ++
      faultOf attempt (turn report settings .working attempt outcome poller).ending =
    ((rendering? report settings poller outcome).map fun text => (attempt, text)).toList := by
  cases outcome with
  | error failure =>
    rw [turn_error_working]
    split
    · rfl
    · split
      · rfl
      · rfl
  | ok current =>
    rw [turn_ok_working]
    rw [written_append, written_noticeEvents, List.nil_append]
    cases rendering? report settings poller (.ok current) with
    | none => rfl
    | some text => cases text <;> rfl

/-- An attempt that ends the loop writes nothing on the output. -/
theorem written_of_ends {report : Report Snapshot Diff} {settings : Settings} {attempt : Nat}
    {outcome : Except Failure Snapshot} {poller : Poller Snapshot} {ending : Ending}
    (ends : (turn report settings .working attempt outcome poller).ending = some ending) :
    written (turn report settings .working attempt outcome poller).events = [] := by
  cases outcome with
  | error failure =>
    rw [turn_error_working] at ends ⊢
    split
    · rfl
    · rename_i supported
      rw [if_neg supported] at ends
      split
      · rfl
      · rename_i data
        rw [if_neg data] at ends
        cases ends
  | ok current =>
    rw [turn_ok_working] at ends ⊢
    rw [written_append, written_noticeEvents, List.nil_append]
    cases hrendering : rendering? report settings poller (.ok current) with
    | none => rfl
    | some text =>
      cases text with
      | error fault => rfl
      | ok text =>
        rw [hrendering] at ends
        cases ends

/-- The endings that an attempt can bring on streams that work. -/
theorem ending_turn_cases {report : Report Snapshot Diff} {settings : Settings} {attempt : Nat}
    {outcome : Except Failure Snapshot} {poller : Poller Snapshot} {ending : Ending}
    (ends : (turn report settings .working attempt outcome poller).ending = some ending) :
    (∃ failure, ending = .unsupported failure) ∨ (∃ failure, ending = .fatalStartup failure) ∨
      ∃ fault, ending = .fault fault := by
  cases outcome with
  | error failure =>
    rw [turn_error_working] at ends
    split at ends
    · cases ends
      exact .inl ⟨failure, rfl⟩
    · split at ends
      · cases ends
        exact .inr (.inl ⟨failure, rfl⟩)
      · cases ends
  | ok current =>
    rw [turn_ok_working] at ends
    unfold faultEnding at ends
    split at ends
    · rename_i fault hfault
      cases ends
      exact .inr (.inr ⟨fault, rfl⟩)
    · cases ends

/-- What a run writes on the output are the differences of adjacent successes. -/
structure WritesAdjacent (report : Report Snapshot Diff) (settings : Settings)
    (script : List (Attempt Snapshot)) (run : Run Snapshot) : Prop where
  made : run.attempts ≤ script.length
  /-- Every pair among the attempts that are over when the loop ends is written, once and in
  order, and nothing else is. -/
  completed : written run.events = renderings report settings
    (adjacentDiffs report (firstOutcomes script run.completed))
  /-- The attempt that the loop ends in completes no further pair, unless the loop ends with the
  fault of rendering it. -/
  attempts : written run.events ++ faultOf run.attempts (some run.ending) =
    renderings report settings (adjacentDiffs report (firstOutcomes script run.attempts))

namespace Session

/-- What the attempt at an index of the script has to show. -/
def renderedAt (session : Session Snapshot Diff) (index : Nat) :
    List (Nat × Except ArithmeticFault String) :=
  match session.script[index]? with
  | some attempt =>
    ((rendering? session.report session.settings (session.pollerBefore index)
      attempt.outcome).map fun text => (index + 1, text)).toList
  | none => []

variable {session : Session Snapshot Diff}

/-- The first attempt has nothing to show. -/
theorem renderedAt_zero (h : session.start.previous = none) : session.renderedAt 0 = [] := by
  unfold renderedAt
  cases session.script[0]? with
  | none => rfl
  | some attempt =>
    obtain ⟨outcome, waitedMillis⟩ := attempt
    cases outcome with
    | error failure => rfl
    | ok current => simp [rendering?, pollerBefore, h]

/-- Every other attempt has to show the difference from the attempt before. -/
theorem renderedAt_succ {count index : Nat} (h : index + 1 < count)
    (made : count ≤ session.script.length) :
    session.renderedAt (index + 1) =
      ((pairDiff session.report (firstOutcomes session.script count) index).map fun pair =>
        (pair.1, output session.report session.settings pair.2)).toList := by
  have hprevious : session.script[index]? = some session.script[index] :=
    List.getElem?_eq_getElem (by omega)
  have hcurrent : session.script[index + 1]? = some session.script[index + 1] :=
    List.getElem?_eq_getElem (by omega)
  unfold pairDiff renderedAt
  rw [getElem?_firstOutcomes h, getElem?_firstOutcomes (Nat.lt_of_succ_lt h), hprevious, hcurrent]
  simp only [pollerBefore, hprevious, Option.map_some, Option.bind_some]
  cases session.script[index].outcome with
  | error failure =>
    cases session.script[index + 1].outcome <;> rfl
  | ok previous =>
    cases session.script[index + 1].outcome <;> rfl

/-- Together the first attempts have to show the differences of successes in a row. -/
theorem adjacentDiffs_outcomes (h : session.start.previous = none) {count : Nat}
    (made : count ≤ session.script.length) :
    renderings session.report session.settings
        (adjacentDiffs session.report (firstOutcomes session.script count)) =
      (List.range count).flatMap session.renderedAt := by
  cases count with
  | zero => rfl
  | succ count =>
    rw [renderings, adjacentDiffs_of_length _ (length_firstOutcomes made), List.map_filterMap,
      List.filterMap_eq_flatMap_toList, List.range_succ_eq_map, List.flatMap_cons,
      renderedAt_zero h, List.nil_append, List.flatMap_map]
    refine List.flatMap_congr fun index hindex => ?_
    have hlt : index + 1 < count + 1 := Nat.succ_lt_succ (List.mem_range.mp hindex)
    rw [renderedAt_succ hlt made]

/-- An attempt writes what it has to show, or ends with the fault of computing it. -/
theorem written_turnAt (working : session.streams = .working) {index : Nat}
    {attempt : Attempt Snapshot} (made : session.script[index]? = some attempt) :
    written (session.turnAt index attempt).events ++
      faultOf (index + 1) (session.turnAt index attempt).ending = session.renderedAt index := by
  unfold turnAt renderedAt
  rw [working, made]
  exact written_turn ..

/-- As long as the loop goes on, everything that there is to show is written. -/
theorem written_eventsBefore (working : session.streams = .working) {count : Nat}
    (goesOn : session.GoesOn count) :
    written (session.eventsBefore count) = (List.range count).flatMap session.renderedAt := by
  rw [written, eventsBefore, shownTexts, List.filterMap_flatMap, List.map_flatMap]
  refine List.flatMap_congr fun index hindex => ?_
  obtain ⟨attempt, made, going⟩ := goesOn index (List.mem_range.mp hindex)
  have hturn := written_turnAt working made
  rw [going] at hturn
  rw [eventsAt_of_made made, ← hturn]
  exact (List.append_nil _).symm

/-- Where no attempt ends the loop, the differences of all successes in a row are written. -/
theorem written_eq_renderings (working : session.streams = .working)
    (unprimed : session.start.previous = none) {count : Nat} (goesOn : session.GoesOn count) :
    written (session.eventsBefore count) = renderings session.report session.settings
      (adjacentDiffs session.report (firstOutcomes session.script count)) := by
  rw [adjacentDiffs_outcomes unprimed goesOn.le_length, written_eventsBefore working goesOn]

/-- A run on streams that work writes the differences of adjacent successes. -/
theorem writesAdjacent_run (working : session.streams = .working)
    (unprimed : session.start.previous = none) :
    WritesAdjacent session.report session.settings session.script session.run := by
  have course := session.course_run
  generalize session.run = run at course ⊢
  cases course with
  | finished limit goesOn =>
    have hwritten := written_eq_renderings working unprimed goesOn
    exact ⟨goesOn.le_length, hwritten, (List.append_nil _).trans hwritten⟩
  | interrupted allowed goesOn =>
    have hwritten := written_eq_renderings working unprimed goesOn
    exact ⟨goesOn.le_length, hwritten, (List.append_nil _).trans hwritten⟩
  | @ended index attempt ending allowed goesOn made ends =>
    have hmade : index + 1 ≤ session.script.length := (List.getElem?_eq_some_iff.mp made).1
    have hturn : (turn session.report session.settings .working (index + 1) attempt.outcome
        (session.pollerBefore index)).ending = some ending := by
      rw [← working]
      exact ends
    have hlast : written (session.turnAt index attempt).events = [] := by
      unfold turnAt
      rw [working]
      exact written_of_ends hturn
    refine ⟨hmade, ?_, ?_⟩
    · rw [eventsBefore_succ, written_append, eventsAt_of_made made, hlast, List.append_nil,
        written_eq_renderings working unprimed goesOn]
      obtain ⟨failure, rfl⟩ | ⟨failure, rfl⟩ | ⟨fault, rfl⟩ := ending_turn_cases hturn
      · rfl
      · rfl
      · rfl
    · rw [adjacentDiffs_outcomes unprimed hmade, eventsBefore_succ, written_append,
        written_eventsBefore working goesOn, List.append_assoc, eventsAt_of_made made, ← ends,
        written_turnAt working made, List.range_succ, List.flatMap_append, List.flatMap_singleton]

end Session

/-! ## Both together -/

/-- A poller that starts without a sample gives the differences of adjacent successes, and the
loop on streams that work writes all of them, each once and in order. -/
theorem differences_of_adjacent_samples (report : Report Snapshot Diff) (hasData : Bool) :
    (∀ outcomes : List (Except Failure Snapshot),
      (Poller.observeAll report ⟨none, hasData⟩ outcomes).length = outcomes.length ∧
      ∀ index answer, (Poller.observeAll report ⟨none, hasData⟩ outcomes)[index]? = some answer →
        Poller.AnswersAdjacent report outcomes index answer) ∧
    ∀ (settings : Settings) (script : List (Attempt Snapshot)),
      WritesAdjacent report settings script
        (runFrom report settings .working 0 ⟨none, hasData⟩ script) := by
  constructor
  · intro outcomes
    exact ⟨Poller.length_observeAll .., fun index answer => Poller.answersAdjacent_observeAll⟩
  · intro settings script
    let session : Session Snapshot Diff :=
      { report := report, settings := settings, start := ⟨none, hasData⟩, script := script }
    exact session.writesAdjacent_run rfl rfl

end LoadWatch.Poll
