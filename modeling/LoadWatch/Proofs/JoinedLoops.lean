/-
  Proofs/JoinedLoops.lean --- waiting for loops that end in any order.

  WHAT THIS FILE IS FOR.  The loops of several hosts end when they end, and what
  is noted of them depends on the order.  `Poll.join` takes the order from the
  times at which the loops end.  Here any loop that is still running may be the
  next one to end (`Waiting.Ends`), so that a statement about all ways to wait
  (`Waiting.Waits`) holds of every interleaving.

  What is noted is told from the failures alone, in the order in which they
  happen (`Tells`): one line for each of them, and the last one as the result.
  The loops that end well do not appear in it, so it does not matter when they
  end.

  Main result: `every_wait_tells_failures`.
-/
import Mathlib.Logic.ExistsUnique
import LoadWatch.Poll.Join

set_option autoImplicit false

namespace LoadWatch.Poll

/-- Loops that are waited for: those that still run, and what was noted of the others. -/
structure Waiting where
  running : List EndedLoop
  joined : Joined := {}

namespace Waiting

/-- One of the running loops ends, whichever it is, and note is taken of its ending. -/
inductive Ends (colour : Bool) : Waiting → EndedLoop → Waiting → Prop
  | note (before after : List EndedLoop) (loop : EndedLoop) (joined : Joined) :
      Ends colour ⟨before ++ loop :: after, joined⟩ loop
        ⟨before ++ after, joined.add colour loop.failure⟩

/-- A wait that is finished when no loop runs any more. The loops are listed in the order in which
they end. -/
inductive Waits (colour : Bool) : Waiting → List EndedLoop → Joined → Prop
  | finished (joined : Joined) : Waits colour ⟨[], joined⟩ [] joined
  | wait {waiting next : Waiting} {loop : EndedLoop} {order : List EndedLoop} {joined : Joined}
      (ends : Ends colour waiting loop next) (rest : Waits colour next order joined) :
      Waits colour waiting (loop :: order) joined

variable {colour : Bool}

/-- A loop that ends was running, and the others go on. -/
theorem Ends.perm {waiting next : Waiting} {loop : EndedLoop}
    (h : Ends colour waiting loop next) : (loop :: next.running).Perm waiting.running := by
  cases h with
  | note before after loop joined => exact List.perm_middle.symm

theorem Ends.joined_eq {waiting next : Waiting} {loop : EndedLoop}
    (h : Ends colour waiting loop next) :
    next.joined = waiting.joined.add colour loop.failure := by
  cases h with
  | note before after loop joined => rfl

/-- A wait is over only when every loop has ended, each of them once. -/
theorem Waits.perm {waiting : Waiting} {order : List EndedLoop} {joined : Joined}
    (h : Waits colour waiting order joined) : order.Perm waiting.running := by
  induction h with
  | finished joined => exact List.Perm.refl []
  | @wait waiting next loop order joined ends _ ih => exact (ih.cons loop).trans ends.perm

/-- The loops may end in any order. -/
theorem waits_of_perm {order running : List EndedLoop} (h : order.Perm running)
    (colour : Bool) (joined : Joined) : Waits colour ⟨running, joined⟩ order
      ((order.map EndedLoop.failure).foldl (Joined.add colour) joined) := by
  induction order generalizing running joined with
  | nil =>
    obtain rfl := h.nil_eq
    exact .finished joined
  | cons loop order ih =>
    have running_loop : loop ∈ running := h.subset List.mem_cons_self
    obtain ⟨before, after, rfl⟩ := List.append_of_mem running_loop
    have others : order.Perm (before ++ after) := (h.trans List.perm_middle).cons_inv
    exact .wait (.note before after loop joined) (ih others _)

end Waiting

/-! ## What is noted -/

/-- The failures of loops, in the order in which the loops are listed. -/
def failures (order : List EndedLoop) : List Failure := order.filterMap EndedLoop.failure

/-- What is left tells the failures of loops that ended in the given order. -/
structure Tells (colour : Bool) (order : List EndedLoop) (joined : Joined) : Prop where
  /-- There is one line for every failure, with the whole chain, and no other text. -/
  diagnostics : joined.diagnostics = String.join ((failures order).map fun failure =>
    errorMark colour ++ " " ++ ": ".intercalate failure.chain ++ "\n")
  /-- All is well exactly if no loop failed. -/
  succeeds : joined.failure = none ↔ ∀ loop ∈ order, loop.failure = none
  /-- Otherwise the result is the failure that no other one came after. -/
  last : ∀ failure, joined.failure = some failure ↔ ∃ before loop after,
    order = before ++ loop :: after ∧ loop.failure = some failure ∧
      ∀ later ∈ after, later.failure = none

/-- One ending adds its line to what is there already, if it is a failure. -/
theorem diagnostics_add (colour : Bool) (joined : Joined) (ending : Option Failure) :
    (joined.add colour ending).diagnostics =
      joined.diagnostics ++ String.join (ending.toList.map (errorLine colour)) := by
  cases ending with
  | none => simp [Joined.add]
  | some failure => simp [Joined.add]

/-- A failure takes the place of the one before it. -/
theorem failure_add (colour : Bool) (joined : Joined) (ending : Option Failure) :
    (joined.add colour ending).failure = ending.or joined.failure := by
  cases ending <;> rfl

theorem failures_cons (loop : EndedLoop) (order : List EndedLoop) :
    failures (loop :: order) = loop.failure.toList ++ failures order := by
  unfold failures
  cases h : loop.failure with
  | none => rw [List.filterMap_cons_none h, Option.toList_none, List.nil_append]
  | some failure => rw [List.filterMap_cons_some h, Option.toList_some, List.singleton_append]

section

variable {colour : Bool} {waiting : Waiting} {order : List EndedLoop} {joined : Joined}

/-- What a wait has written follows what was there when it began. The induction is on the wait, with
one ending after the other. -/
theorem Waiting.Waits.diagnostics_eq (h : Waits colour waiting order joined) :
    joined.diagnostics =
      waiting.joined.diagnostics ++ String.join ((failures order).map (errorLine colour)) := by
  induction h with
  | finished joined => simp [failures]
  | @wait waiting next loop order joined ends _ ih =>
    rw [ih, ends.joined_eq, diagnostics_add, failures_cons, List.map_append, String.join_append,
      String.append_assoc]

/-- The last failure of a wait is left, or what was there when it began. -/
theorem Waiting.Waits.failure_eq (h : Waits colour waiting order joined) :
    joined.failure = (failures order).getLast?.or waiting.joined.failure := by
  induction h with
  | finished joined => rfl
  | @wait waiting next loop order joined ends _ ih =>
    rw [ih, ends.joined_eq, failure_add, failures_cons, List.getLast?_append, Option.or_assoc]
    cases loop.failure <;> rfl

end

/-- The last failure is that of a loop after which no other one failed. -/
theorem getLast?_failures_eq_some_iff {order : List EndedLoop} {failure : Failure} :
    (failures order).getLast? = some failure ↔ ∃ before loop after,
      order = before ++ loop :: after ∧ loop.failure = some failure ∧
        ∀ later ∈ after, later.failure = none := by
  constructor
  · intro h
    obtain ⟨earlier, hearlier⟩ := List.getLast?_eq_some_iff.mp h
    obtain ⟨before, rest, rfl, -, hrest⟩ := List.filterMap_eq_append_iff.mp hearlier
    obtain ⟨well, loop, after, rfl, -, hloop, hafter⟩ := List.filterMap_eq_cons_iff.mp hrest
    refine ⟨before ++ well, loop, after, ?_, hloop, List.filterMap_eq_nil_iff.mp hafter⟩
    rw [List.append_assoc]
  · rintro ⟨before, loop, after, rfl, hloop, hafter⟩
    have hnone : failures after = [] := List.filterMap_eq_nil_iff.mpr hafter
    have hsplit : failures (before ++ loop :: after) = failures before ++ [failure] := by
      rw [failures, List.filterMap_append, ← failures, ← failures, failures_cons, hloop, hnone]
      rfl
    rw [hsplit, List.getLast?_concat]

/-- What is left of a wait that began with nothing noted tells the failures. -/
theorem Waiting.Waits.tells {colour : Bool} {running order : List EndedLoop} {joined : Joined}
    (h : Waits colour { running } order joined) : Tells colour order joined := by
  have hfailure : joined.failure = (failures order).getLast? := by
    rw [h.failure_eq, Option.or_none]
  refine ⟨?_, ?_, ?_⟩
  · rw [h.diagnostics_eq, String.empty_append]
    rfl
  · rw [hfailure, List.getLast?_eq_none_iff]
    exact List.filterMap_eq_nil_iff
  · intro failure
    rw [hfailure]
    exact getLast?_failures_eq_some_iff

/-- What is left is determined by the failures and their order. -/
theorem Tells.unique {colour : Bool} {order other : List EndedLoop} {joined joined' : Joined}
    (h : Tells colour order joined) (h' : Tells colour other joined')
    (same : failures order = failures other) : joined = joined' := by
  have hdiagnostics : joined.diagnostics = joined'.diagnostics := by
    rw [h.diagnostics, h'.diagnostics, same]
  have hfailure : joined.failure = joined'.failure := by
    refine Option.ext fun failure => ?_
    rw [h.last, h'.last, ← getLast?_failures_eq_some_iff, ← getLast?_failures_eq_some_iff, same]
  cases joined
  cases joined'
  simp_all

/-! ## Every way to wait -/

/-- The loops are put in an order in which they can end. -/
theorem pairwise_inOrder (loops : List EndedLoop) :
    (inOrder loops).Pairwise fun earlier later => earlier.endedAt ≤ later.endedAt := by
  have transitive : ∀ a b c : EndedLoop, decide (a.endedAt ≤ b.endedAt) = true →
      decide (b.endedAt ≤ c.endedAt) = true → decide (a.endedAt ≤ c.endedAt) = true := by
    simp only [decide_eq_true_eq]
    exact fun a b c => Nat.le_trans
  have total : ∀ a b : EndedLoop,
      (decide (a.endedAt ≤ b.endedAt) || decide (b.endedAt ≤ a.endedAt)) = true := by
    simp only [Bool.or_eq_true, decide_eq_true_eq]
    exact fun a b => Nat.le_total a.endedAt b.endedAt
  exact (List.pairwise_mergeSort transitive total loops).imp of_decide_eq_true

/-- Loops that end in whatever order are all waited for, and what is left tells their failures in
that order. When the loops end that do not fail makes no difference to it. Waiting by the times at
which the loops end is one of these ways. -/
theorem every_wait_tells_failures (colour : Bool) (loops : List EndedLoop) :
    (∀ order joined, Waiting.Waits colour { running := loops } order joined →
      order.Perm loops ∧ Tells colour order joined) ∧
    (∀ order, order.Perm loops →
      ∃! joined, Waiting.Waits colour { running := loops } order joined) ∧
    (∀ order other joined joined', Waiting.Waits colour { running := loops } order joined →
      Waiting.Waits colour { running := loops } other joined' →
      failures order = failures other → joined = joined') ∧
    Waiting.Waits colour { running := loops } (inOrder loops) (join colour loops) ∧
    (inOrder loops).Pairwise fun earlier later => earlier.endedAt ≤ later.endedAt := by
  refine ⟨?_, ?_, ?_, ?_, pairwise_inOrder loops⟩
  · intro order joined waits
    exact ⟨waits.perm, waits.tells⟩
  · intro order perm
    have waits := Waiting.waits_of_perm perm colour {}
    exact ⟨_, waits, fun other waits' => waits'.tells.unique waits.tells rfl⟩
  · intro order other joined joined' waits waits' same
    exact waits.tells.unique waits'.tells same
  · exact Waiting.waits_of_perm (List.mergeSort_perm loops _) colour {}

/-- A loop that fails late, one that ends well, and one that fails early. -/
def unevenLoops : List EndedLoop :=
  [⟨30, some (.plain "late")⟩, ⟨20, none⟩, ⟨10, some (.plain "early")⟩]

/-- The loop that ends well may end between the failures or before them: the late failure is left
in both cases, after a line for each of the failures. -/
theorem unevenLoops_joined : ∃ joined,
    Waiting.Waits false { running := unevenLoops } unevenLoops.reverse joined ∧
    (∀ other, Waiting.Waits false { running := unevenLoops }
      [⟨20, none⟩, ⟨10, some (.plain "early")⟩, ⟨30, some (.plain "late")⟩] other →
        other = joined) ∧
    joined.diagnostics = "Error: early\nError: late\n" ∧
    joined.failure = some (.plain "late") := by
  obtain ⟨tells, anyOrder, same, -, -⟩ := every_wait_tells_failures false unevenLoops
  obtain ⟨joined, waits, -⟩ := anyOrder _ unevenLoops.reverse_perm
  have told := (tells _ _ waits).2
  refine ⟨joined, waits, fun other waits' => same _ _ _ _ waits' waits rfl, ?_, ?_⟩
  · rw [told.diagnostics]
    decide
  · exact (told.last _).mpr ⟨unevenLoops.reverse.take 2, ⟨30, some (.plain "late")⟩, [], rfl, rfl,
      List.forall_mem_nil _⟩

end LoadWatch.Poll
