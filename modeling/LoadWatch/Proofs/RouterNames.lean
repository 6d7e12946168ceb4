/-
  Proofs/RouterNames.lean --- which processes are routers.

  WHAT THIS FILE IS FOR.  A router is known by a cursor type in its status, or
  else by the name of its process.  The names are meant to be those that the
  pattern

      ^.*\bmongos\b[^\\/]*(\s.*)?$

  finds.  What patterns find is said here without a matcher (`Pattern.Found`),
  and the search of the model is shown to find the same in every text, with line
  ends or without (`found_routerPattern_iff`).

  The pattern does not say what a reader takes from it, since its stretch without
  separators may contain blanks and can be followed by nothing.  For names on one
  line it comes to this (`RouterWord`): the word stands in the name, and there is
  no separator up to the next blank.  Whatever stands before the word, and from
  the blank on, does not matter.

  Main result: `router_tells`.
-/
import LoadWatch.Proofs.Lines
import LoadWatch.Proofs.Records
import LoadWatch.ServerStatus.Decode
import LoadWatch.ServerStatus.Role

set_option autoImplicit false

namespace LoadWatch

/-! ## Patterns -/

namespace Text

/-- The patterns that are needed here. -/
inductive Pattern where
  /-- The start of the text. -/
  | start
  /-- The end of the text. -/
  | finish
  /-- A place with a word character on one side of it only. -/
  | wordEdge
  /-- These characters. -/
  | exactly (characters : List Char)
  /-- One character of a class. -/
  | one (accepts : Char → Bool)
  /-- Any number of characters of a class. -/
  | many (accepts : Char → Bool)
  /-- A pattern or nothing. -/
  | optional (pattern : Pattern)
  /-- Two patterns one after the other. -/
  | both (first second : Pattern)

namespace Pattern

/-- The pattern matches a stretch of a text, between what comes before it and what comes after. -/
def Matches : Pattern → List Char → List Char → List Char → Prop
  | .start, before, stretch, _ => before = [] ∧ stretch = []
  | .finish, _, stretch, after => stretch = [] ∧ after = []
  | .wordEdge, before, stretch, after =>
    stretch = [] ∧ before.getLast?.any isWordCharacter ≠ after.head?.any isWordCharacter
  | .exactly characters, _, stretch, _ => stretch = characters
  | .one accepts, _, stretch, _ => ∃ c, stretch = [c] ∧ accepts c = true
  | .many accepts, _, stretch, _ => ∀ c ∈ stretch, accepts c = true
  | .optional pattern, before, stretch, after =>
    stretch = [] ∨ pattern.Matches before stretch after
  | .both first second, before, stretch, after =>
    ∃ left right, stretch = left ++ right ∧ first.Matches before left (right ++ after) ∧
      second.Matches (before ++ left) right after

/-- The pattern matches some stretch of the text. -/
def Found (pattern : Pattern) (text : List Char) : Prop :=
  ∃ before stretch after, text = before ++ stretch ++ after ∧
    pattern.Matches before stretch after

/-- Patterns one after the other. -/
def inOrder : List Pattern → Pattern
  | [] => .exactly []
  | pattern :: patterns => .both pattern (inOrder patterns)

section Parts

variable {pattern : Pattern} {before stretch after : List Char}

theorem matches_start_both :
    (both .start pattern).Matches before stretch after ↔
      before = [] ∧ pattern.Matches before stretch after := by
  constructor
  · rintro ⟨_, stretch, rfl, ⟨rfl, rfl⟩, h⟩
    exact ⟨rfl, h⟩
  · rintro ⟨rfl, h⟩
    exact ⟨[], stretch, rfl, ⟨rfl, rfl⟩, h⟩

theorem matches_wordEdge_both :
    (both .wordEdge pattern).Matches before stretch after ↔
      before.getLast?.any isWordCharacter ≠ (stretch ++ after).head?.any isWordCharacter ∧
        pattern.Matches before stretch after := by
  constructor
  · rintro ⟨_, stretch, rfl, ⟨rfl, hedge⟩, h⟩
    rw [List.append_nil] at h
    exact ⟨hedge, h⟩
  · rintro ⟨hedge, h⟩
    refine ⟨[], stretch, rfl, ⟨rfl, hedge⟩, ?_⟩
    rwa [List.append_nil]

theorem matches_exactly_both {characters : List Char} :
    (both (.exactly characters) pattern).Matches before stretch after ↔
      ∃ rest, stretch = characters ++ rest ∧ pattern.Matches (before ++ characters) rest after := by
  constructor
  · rintro ⟨_, rest, hstretch, rfl, h⟩
    exact ⟨rest, hstretch, h⟩
  · rintro ⟨rest, hstretch, h⟩
    exact ⟨characters, rest, hstretch, rfl, h⟩

theorem matches_many_both {accepts : Char → Bool} :
    (both (.many accepts) pattern).Matches before stretch after ↔
      ∃ front rest, stretch = front ++ rest ∧ (∀ c ∈ front, accepts c = true) ∧
        pattern.Matches (before ++ front) rest after := Iff.rfl

theorem matches_finish_end :
    (inOrder [.finish]).Matches before stretch after ↔ stretch = [] ∧ after = [] := by
  constructor
  · rintro ⟨_, _, rfl, ⟨rfl, hafter⟩, rfl⟩
    exact ⟨rfl, hafter⟩
  · rintro ⟨rfl, rfl⟩
    exact ⟨[], [], rfl, ⟨rfl, rfl⟩, rfl⟩

end Parts

end Pattern

end Text

namespace ServerStatus

open Text (Pattern isBlank isWordCharacter OneLine)

/-- Any character but a line end. -/
def staysOnLine (c : Char) : Bool := c ≠ '\n'

/-- Any character that does not separate the segments of a path. -/
def staysInSegment (c : Char) : Bool := c ≠ '\\' && c ≠ '/'

/-- The pattern of the process names of routers. -/
def routerPattern : Pattern :=
  .inOrder [.start, .many staysOnLine, .wordEdge, .exactly routerName, .wordEdge,
    .many staysInSegment, .optional (.both (.one isBlank) (.many staysOnLine)), .finish]

/-! ## Finding the pattern -/

/-- What may follow the router name: a stretch without separators, and then nothing at all, or a
blank and the rest of its line. -/
def Follows (text : List Char) : Prop :=
  ∃ segment rest, text = segment ++ rest ∧ (∀ c ∈ segment, staysInSegment c = true) ∧
    (rest = [] ∨ ∃ blank others, rest = blank :: others ∧ isBlank blank = true ∧
      ∀ c ∈ others, staysOnLine c = true)

/-- The router name stands in the text as a whole word, on the first line and with something after
it that may follow. The character before the text is given. -/
def Occurs (previous : Option Char) (text : List Char) : Prop :=
  ∃ front rest, text = front ++ (routerName ++ rest) ∧ (∀ c ∈ front, staysOnLine c = true) ∧
    isWordEdge (front.getLast?.or previous) = true ∧ isWordEdge rest.head? = true ∧ Follows rest

theorem isWordEdge_eq (neighbour : Option Char) :
    isWordEdge neighbour = !neighbour.any isWordCharacter := by
  cases neighbour <;> rfl

/-- The router name starts and ends with a word character. -/
theorem routerName_wordEdges (front rest : List Char) :
    (routerName ++ rest).head?.any isWordCharacter = true ∧
      (front ++ routerName).getLast?.any isWordCharacter = true := by
  have hfirst : isWordCharacter 'm' = true := Text.isWordCharacter_of_isAlphanum (by decide)
  have hlast : isWordCharacter 's' = true := Text.isWordCharacter_of_isAlphanum (by decide)
  have hend : routerName.getLast? = some 's' := by decide
  constructor
  · exact hfirst
  · rw [List.getLast?_append, hend]
    exact hlast

/-- The last parts of the pattern match what may follow the router name, at the end of the text. -/
theorem matches_end_iff {before stretch after : List Char} :
    (Pattern.inOrder [.many staysInSegment, .optional (.both (.one isBlank) (.many staysOnLine)),
      .finish]).Matches before stretch after ↔ Follows stretch ∧ after = [] := by
  rw [Pattern.inOrder, Pattern.matches_many_both]
  constructor
  · rintro ⟨segment, _, rfl, hsegment, rest, finish, rfl, hrest, hfinish⟩
    obtain ⟨rfl, rfl⟩ := Pattern.matches_finish_end.mp hfinish
    rw [List.append_nil]
    refine ⟨⟨segment, rest, rfl, hsegment, ?_⟩, rfl⟩
    rcases hrest with rfl | ⟨_, others, rfl, ⟨blank, rfl, hblank⟩, hothers⟩
    · exact .inl rfl
    · exact .inr ⟨blank, others, rfl, hblank, hothers⟩
  · rintro ⟨⟨segment, rest, rfl, hsegment, hrest⟩, rfl⟩
    refine ⟨segment, rest, rfl, hsegment, rest, [], (List.append_nil rest).symm, ?_,
      Pattern.matches_finish_end.mpr ⟨rfl, rfl⟩⟩
    rcases hrest with rfl | ⟨blank, others, rfl, hblank, hothers⟩
    · exact .inl rfl
    · exact .inr ⟨[blank], others, rfl, ⟨blank, rfl, hblank⟩, hothers⟩

/-- Before the router name there is an edge of a word exactly if no word character is there. -/
theorem wordEdge_before_iff (front rest : List Char) : front.getLast?.any isWordCharacter ≠
    (routerName ++ rest).head?.any isWordCharacter ↔
      isWordEdge (front.getLast?.or none) = true := by
  rw [(routerName_wordEdges [] rest).1, isWordEdge_eq, Option.or_none, Bool.not_eq_true', ne_eq,
    Bool.not_eq_true]

theorem wordEdge_after_iff (front rest : List Char) : (front ++ routerName).getLast?.any
    isWordCharacter ≠ rest.head?.any isWordCharacter ↔ isWordEdge rest.head? = true := by
  rw [(routerName_wordEdges front []).2, isWordEdge_eq, Bool.not_eq_true', ne_comm, ne_eq,
    Bool.not_eq_true]

/-- The parts of the pattern from the router name on, after some of the text. -/
theorem matches_word_iff {front stretch after : List Char} :
    (Pattern.inOrder [.wordEdge, .exactly routerName, .wordEdge, .many staysInSegment,
      .optional (.both (.one isBlank) (.many staysOnLine)), .finish]).Matches front stretch after ↔
      ∃ rest, stretch = routerName ++ rest ∧ isWordEdge (front.getLast?.or none) = true ∧
        isWordEdge rest.head? = true ∧ Follows rest ∧ after = [] := by
  rw [Pattern.inOrder, Pattern.matches_wordEdge_both, Pattern.inOrder, Pattern.matches_exactly_both]
  constructor
  · rintro ⟨hbefore, rest, rfl, hrest⟩
    rw [Pattern.inOrder, Pattern.matches_wordEdge_both, matches_end_iff] at hrest
    obtain ⟨hafter, follows, rfl⟩ := hrest
    rw [List.append_nil, wordEdge_before_iff] at hbefore
    rw [List.append_nil, wordEdge_after_iff] at hafter
    exact ⟨rest, rfl, hbefore, hafter, follows, rfl⟩
  · rintro ⟨rest, rfl, hbefore, hafter, follows, rfl⟩
    rw [List.append_nil, wordEdge_before_iff]
    refine ⟨hbefore, rest, rfl, ?_⟩
    rw [Pattern.inOrder, Pattern.matches_wordEdge_both, matches_end_iff, List.append_nil,
      wordEdge_after_iff]
    exact ⟨hafter, follows, rfl⟩

/-- Both ends of the text are in the pattern, so that it matches the whole text or nothing. -/
theorem matches_routerPattern_iff {before stretch after : List Char} :
    routerPattern.Matches before stretch after ↔ before = [] ∧ after = [] ∧ Occurs none stretch := by
  rw [routerPattern, Pattern.inOrder, Pattern.matches_start_both, Pattern.inOrder,
    Pattern.matches_many_both]
  refine and_congr_right ?_
  rintro rfl
  constructor
  · rintro ⟨front, word, rfl, hfront, hword⟩
    obtain ⟨rest, rfl, hbefore, hafter, follows, rfl⟩ := matches_word_iff.mp hword
    exact ⟨rfl, front, rest, rfl, hfront, hbefore, hafter, follows⟩
  · rintro ⟨rfl, front, rest, rfl, hfront, hbefore, hafter, follows⟩
    exact ⟨front, routerName ++ rest, rfl, hfront,
      matches_word_iff.mpr ⟨rest, rfl, hbefore, hafter, follows, rfl⟩⟩

/-- The pattern is found exactly where the router name occurs. -/
theorem found_routerPattern_iff (text : List Char) :
    routerPattern.Found text ↔ Occurs none text := by
  constructor
  · rintro ⟨before, stretch, after, rfl, h⟩
    obtain ⟨rfl, rfl, occurs⟩ := matches_routerPattern_iff.mp h
    rwa [List.nil_append, List.append_nil]
  · intro occurs
    exact ⟨[], text, [], by simp, matches_routerPattern_iff.mpr ⟨rfl, rfl, occurs⟩⟩

/-! ## The search -/

theorem leavesPath_iff {text : List Char} : leavesPath text = true ↔ Follows text := by
  induction text with
  | nil => exact iff_of_true rfl ⟨[], [], rfl, by simp, .inl rfl⟩
  | cons c text ih =>
    have hline : (!text.contains '\n') = true ↔ ∀ c ∈ text, staysOnLine c = true := by
      simp [staysOnLine, List.forall_mem_ne']
    have hsegment : staysInSegment c = true ↔ c ≠ '/' ∧ c ≠ '\\' := by
      simp [staysInSegment, and_comm]
    rw [leavesPath, Bool.or_eq_true, Bool.and_eq_true, Bool.and_eq_true, Bool.and_eq_true, hline,
      ih, decide_eq_true_iff, decide_eq_true_iff, ← hsegment]
    constructor
    · rintro (⟨hblank, hrest⟩ | ⟨hc, segment, rest, rfl, hstays, hrest⟩)
      · exact ⟨[], c :: text, rfl, by simp, .inr ⟨c, text, rfl, hblank, hrest⟩⟩
      · exact ⟨c :: segment, rest, rfl, List.forall_mem_cons.mpr ⟨hc, hstays⟩, hrest⟩
    · rintro ⟨segment, rest, htext, hstays, hrest⟩
      cases segment with
      | nil =>
        rcases hrest with rfl | ⟨blank, others, rfl, hblank, hothers⟩
        · cases htext
        · obtain ⟨rfl, rfl⟩ := List.cons.inj htext
          exact .inl ⟨hblank, hothers⟩
      | cons first segment =>
        obtain ⟨rfl, rfl⟩ := List.cons.inj htext
        obtain ⟨hfirst, hstays⟩ := List.forall_mem_cons.mp hstays
        exact .inr ⟨hfirst, segment, rest, rfl, hstays, hrest⟩

theorem startsWithRouter_iff {previous : Option Char} {text : List Char} :
    startsWithRouter previous text = true ↔ ∃ rest, text = routerName ++ rest ∧
      isWordEdge previous = true ∧ isWordEdge rest.head? = true ∧ Follows rest := by
  rw [startsWithRouter, Bool.and_eq_true, Bool.and_eq_true, Bool.and_eq_true,
    List.isPrefixOf_iff_prefix, leavesPath_iff]
  constructor
  · rintro ⟨⟨⟨⟨rest, rfl⟩, hprevious⟩, hrest⟩, follows⟩
    rw [List.drop_left] at hrest follows
    exact ⟨rest, rfl, hprevious, hrest, follows⟩
  · rintro ⟨rest, rfl, hprevious, hrest, follows⟩
    rw [List.drop_left]
    exact ⟨⟨⟨List.prefix_append _ _, hprevious⟩, hrest⟩, follows⟩

/-- The search finds the router name wherever it occurs. -/
theorem namesRouter_iff {previous : Option Char} {text : List Char} :
    namesRouter previous text = true ↔ Occurs previous text := by
  -- The search goes through the text with the character before it, which is the one that ends what
  -- has been passed; so the word may start with the text or anywhere after its first character.
  induction text generalizing previous with
  | nil =>
    refine iff_of_false Bool.false_ne_true ?_
    rintro ⟨front, rest, htext, -⟩
    have hname : routerName ≠ [] := by decide
    simp [hname] at htext
  | cons c text ih =>
    rw [namesRouter, Bool.or_eq_true, Bool.and_eq_true, startsWithRouter_iff, ih,
      ← staysOnLine.eq_def]
    constructor
    · rintro (⟨rest, htext, hprevious, hrest, follows⟩ |
        ⟨hc, front, rest, rfl, hfront, hbefore, hrest, follows⟩)
      · exact ⟨[], rest, htext, by simp, hprevious, hrest, follows⟩
      · refine ⟨c :: front, rest, rfl, List.forall_mem_cons.mpr ⟨hc, hfront⟩, ?_, hrest, follows⟩
        rw [List.getLast?_cons, Option.some_or]
        rwa [Option.or_some] at hbefore
    · rintro ⟨front, rest, htext, hfront, hbefore, hrest, follows⟩
      cases front with
      | nil => exact .inl ⟨rest, htext, hbefore, hrest, follows⟩
      | cons first front =>
        obtain ⟨rfl, rfl⟩ := List.cons.inj htext
        obtain ⟨hfirst, hfront⟩ := List.forall_mem_cons.mp hfront
        refine .inr ⟨hfirst, front, rest, rfl, hfront, ?_, hrest, follows⟩
        rw [Option.or_some]
        rwa [List.getLast?_cons, Option.some_or] at hbefore

/-- A process is a router exactly if the pattern is found in its name. -/
theorem isRouterProcess_iff (process : String) :
    isRouterProcess process = true ↔ routerPattern.Found process.toList := by
  rw [isRouterProcess, namesRouter_iff, found_routerPattern_iff]

/-! ## Names on one line -/

/-- The router name stands in the name as a whole word, and no separator comes after it up to the
next blank, or up to the end if there is none. -/
structure RouterWord (name before segment rest : List Char) : Prop where
  name_eq : name = before ++ (routerName ++ (segment ++ rest))
  wordStart : ∀ c, before.getLast? = some c → isWordCharacter c = false
  wordEnd : ∀ c, (segment ++ rest).head? = some c → isWordCharacter c = false
  noBlank : ∀ c ∈ segment, isBlank c = false
  noSeparator : ∀ c ∈ segment, c ≠ '/' ∧ c ≠ '\\'
  nextBlank : ∀ c, rest.head? = some c → isBlank c = true

theorem isWordEdge_iff (neighbour : Option Char) :
    isWordEdge neighbour = true ↔ ∀ c, neighbour = some c → isWordCharacter c = false := by
  cases neighbour <;> simp [isWordEdge]

/-- What may follow has no separator before its first blank. -/
theorem Follows.exists_segment {text : List Char} (h : Follows text) :
    ∃ segment rest, text = segment ++ rest ∧ (∀ c ∈ segment, isBlank c = false) ∧
      (∀ c ∈ segment, c ≠ '/' ∧ c ≠ '\\') ∧ ∀ c, rest.head? = some c → isBlank c = true := by
  obtain ⟨stretch, rest, rfl, hstretch, hrest⟩ := h
  -- The stretch without separators may contain blanks; the segment ends before the first of them.
  let inWord (c : Char) : Bool := !isBlank c
  have hnone : rest.takeWhile inWord = [] := by
    rcases hrest with rfl | ⟨blank, others, rfl, hblank, -⟩
    · rfl
    · exact List.takeWhile_cons_of_neg (by simp [inWord, hblank])
  have hsubset : (stretch ++ rest).takeWhile inWord ⊆ stretch := by
    rw [List.takeWhile_append]
    split
    · rw [hnone, List.append_nil]
      exact List.Subset.refl stretch
    · exact List.takeWhile_subset inWord
  refine ⟨(stretch ++ rest).takeWhile inWord, (stretch ++ rest).dropWhile inWord,
    List.takeWhile_append_dropWhile.symm, ?_, ?_, ?_⟩
  · intro c hc
    have hword := List.all_eq_true.mp List.all_takeWhile c hc
    simpa [inWord] using hword
  · intro c hc
    have hstays := hstretch c (hsubset hc)
    simpa [staysInSegment, and_comm] using hstays
  · intro c hc
    have hblank := List.head?_dropWhile_not inWord (stretch ++ rest)
    rw [hc] at hblank
    simpa [inWord] using hblank

/-- On one line the router name occurs exactly where it is a word of its own. -/
theorem occurs_iff_routerWord {name : List Char} (oneLine : '\n' ∉ name) :
    Occurs none name ↔ ∃ before segment rest, RouterWord name before segment rest := by
  constructor
  · rintro ⟨before, following, rfl, -, hstart, hend, follows⟩
    obtain ⟨segment, rest, rfl, noBlank, noSeparator, nextBlank⟩ := follows.exists_segment
    rw [Option.or_none, isWordEdge_iff] at hstart
    exact ⟨before, segment, rest, rfl, hstart, (isWordEdge_iff _).mp hend, noBlank, noSeparator,
      nextBlank⟩
  · rintro ⟨before, segment, rest, rfl, wordStart, wordEnd, noBlank, noSeparator, nextBlank⟩
    have hline : ∀ c ∈ before ++ (routerName ++ (segment ++ rest)), staysOnLine c = true :=
      fun c hc => decide_eq_true fun heq => oneLine (heq ▸ hc)
    simp only [List.forall_mem_append] at hline
    obtain ⟨hbefore, -, -, hrest⟩ := hline
    refine ⟨before, segment ++ rest, rfl, hbefore, ?_, (isWordEdge_iff _).mpr wordEnd,
      segment, rest, rfl, ?_, ?_⟩
    · rw [Option.or_none]
      exact (isWordEdge_iff _).mpr wordStart
    · intro c hc
      have hstays := noSeparator c hc
      simpa [staysInSegment, and_comm] using hstays
    · cases rest with
      | nil => exact .inl rfl
      | cons blank others =>
        obtain ⟨-, hothers⟩ := List.forall_mem_cons.mp hrest
        exact .inr ⟨blank, others, rfl, nextBlank blank rfl, hothers⟩

/-! ## The cursor type -/

section Decoding

open Json

/-- Every decoder decodes what it decodes. -/
theorem decodesAs_self {α : Type} (decode : Decoder α) :
    DecodesAs decode fun value item => decode value = .ok item := fun _ _ _ => Iff.rfl

/-- Every member of a status is kept in a place of its own. -/
def statusLayout : Layout statusSchema where
  slots := [
    .of "host" (decodesAs_self decodeText) (fun text status => { status with host := text })
      (·.host),
    .of "version" (decodesAs_self decodeText)
      (fun text status => { status with version := text }) (·.version),
    .of "process" (decodesAs_self decodeText)
      (fun text status => { status with process := text }) (·.process),
    .of "uptimeMillis" (decodesAs_self decodeCounter)
      (fun n status => { status with uptimeMillis := n }) (·.uptimeMillis),
    .of "shardCursorType" (decodesAs_self (decodeOptional decodeAny))
      (fun value status => { status with shardCursorType := value }) (·.shardCursorType),
    .of "storageEngine" (decodesAs_self (decodeOptional storageEngineSchema.decode))
      (fun engine status => { status with storageEngine := engine }) (·.storageEngine),
    .of "opcounters" (decodesAs_self (decodeOptional opcountersSchema.decode))
      (fun counters status => { status with opcounters := counters }) (·.opcounters),
    .of "opcountersRepl" (decodesAs_self (decodeOptional opcountersSchema.decode))
      (fun counters status => { status with opcountersRepl := counters }) (·.opcountersRepl),
    .of "wiredTiger" (decodesAs_self (decodeOptional wiredTigerSchema.decode))
      (fun engine status => { status with wiredTiger := engine }) (·.wiredTiger),
    .of "backgroundFlushing" (decodesAs_self (decodeOptional flushingSchema.decode))
      (fun flushing status => { status with backgroundFlushing := flushing })
      (·.backgroundFlushing),
    .of "mem" (decodesAs_self (decodeOptional memorySchema.decode))
      (fun memory status => { status with memory := memory }) (·.memory),
    .of "extra_info" (decodesAs_self (decodeOptional extraInfoSchema.decode))
      (fun info status => { status with extraInfo := info }) (·.extraInfo),
    .of "metrics" (decodesAs_self (decodeOptional metricsSchema.decode))
      (fun metrics status => { status with metrics := metrics }) (·.metrics),
    .of "opLatencies" (decodesAs_self (decodeOptional latenciesSchema.decode))
      (fun latencies status => { status with latencies := latencies }) (·.latencies),
    .of "globalLock" (decodesAs_self (decodeOptional globalLockSchema.decode))
      (fun lock status => { status with globalLock := lock }) (·.globalLock),
    .of "locks" (decodesAs_self (decodeOptional (decodeTable LockUsage.statisticsSchema.decode)))
      (fun locks status => { status with locks := locks }) (·.locks),
    .of "network" (decodesAs_self networkSchema.decode)
      (fun network status => { status with network := network }) (·.network),
    .of "connections" (decodesAs_self connectionsSchema.decode)
      (fun connections status => { status with connections := connections }) (·.connections),
    .of "repl" (decodesAs_self (decodeOptional replicationSchema.decode))
      (fun replication status => { status with replication := replication }) (·.replication)]
  fields_eq := rfl
  nodup := by decide
  apart := by simp [Slot.Apart, Slot.of]
  ext {left right} h := by
    cases left
    cases right
    simpa [Slot.of] using h

/-- The reply has a cursor type that is not null. -/
def ShowsCursorType (reply value : Value) : Prop :=
  ∃ parts, reply.parts? statusLayout.names = some parts ∧
    Keyed.lookup "shardCursorType" parts = some value ∧ value ≠ .null

/-- The cursor type of a status is that of its reply; null is none. -/
theorem shardCursorType_eq_some_iff {reply : Value} {status : Status} (canonical : reply.Canonical)
    (h : statusSchema.decode reply = .ok status) (value : Value) :
    status.shardCursorType = some value ↔ ShowsCursorType reply value := by
  obtain ⟨parts, hparts, hslots⟩ := (statusLayout.decodesAs canonical status).mp h
  have hcursor : PartShows parts "shardCursorType"
      (fun value item => decodeOptional decodeAny value = .ok item) none status.shardCursorType :=
    hslots _ (List.getElem_mem (l := statusLayout.slots) (n := 4) (by decide))
  simp only [ShowsCursorType, hparts, Option.some.injEq, exists_eq_left']
  rw [PartShows] at hcursor
  cases hlookup : Keyed.lookup "shardCursorType" parts with
  | none =>
    simp only [hlookup] at hcursor
    simp [hcursor]
  | some part =>
    simp only [hlookup] at hcursor
    by_cases hnull : part = .null
    · subst hnull
      rw [← Except.ok.inj hcursor, Option.some.injEq]
      exact iff_of_false (Option.some_ne_none value).symm fun h => h.2 h.1.symm
    · rw [decodeOptional_of_ne_null decodeAny hnull] at hcursor
      rw [← Except.ok.inj hcursor, Option.some.injEq]
      exact (and_iff_left_of_imp fun heq => heq ▸ hnull).symm

end Decoding

/-! ## The main theorem -/

/-- The name of a process has the router's as a word of its own, and outside of a path. -/
def NamesRouter (process : String) : Prop :=
  ∃ before segment rest, RouterWord process.toList before segment rest

/-- What makes a server a router. -/
structure TellsRouter (status : Status) : Prop where
  /-- The search finds what the pattern finds, whatever the name of the process is. -/
  matched : isRouterProcess status.process = true ↔ routerPattern.Found status.process.toList
  /-- The server is a router exactly if it has a cursor type or its process is named like one. -/
  named : OneLine status.process →
    (status.isRouter = true ↔ status.shardCursorType ≠ none ∨ NamesRouter status.process)
  /-- The cursor type is that of the reply, where null is none. -/
  cursorType : ∀ reply : Json.Value, reply.Canonical → statusSchema.decode reply = .ok status →
    ∀ value, status.shardCursorType = some value ↔ ShowsCursorType reply value
  /-- So it is told by the reply: by a cursor type that is not null, or by the name. -/
  decoded : ∀ reply : Json.Value, reply.Canonical → statusSchema.decode reply = .ok status →
    OneLine status.process → (status.isRouter = true ↔
      (∃ value, ShowsCursorType reply value) ∨ NamesRouter status.process)

theorem isRouter_iff {status : Status} (oneLine : OneLine status.process) :
    status.isRouter = true ↔ status.shardCursorType ≠ none ∨ NamesRouter status.process := by
  rw [Status.isRouter, Bool.or_eq_true, Option.isSome_iff_ne_none, isRouterProcess_iff,
    found_routerPattern_iff, occurs_iff_routerWord oneLine, NamesRouter]

/-- Every status tells whether its server is a router. -/
theorem router_tells (status : Status) : TellsRouter status where
  matched := isRouterProcess_iff status.process
  named oneLine := isRouter_iff oneLine
  cursorType _ canonical h := shardCursorType_eq_some_iff canonical h
  decoded _ canonical h oneLine := by
    simp only [isRouter_iff oneLine, Option.ne_none_iff_exists',
      shardCursorType_eq_some_iff canonical h]

/-- The word in the path of the program and the path after the blank do not matter. -/
example : isRouterProcess "/opt/mongos/bin/mongos --config /etc/mongos.conf" = true := by decide

end ServerStatus

end LoadWatch
