/-
  Proofs/ServerReplies.lean --- what is taken from the reply of a server.

  WHAT THIS FILE IS FOR.  A reply is a text, and what it says is up to the
  document that the text stands for.  Here it is said, for every document,
  whether it is a refusal (`Refuses`), with which message (`Tells`), and of which
  documents it is the list (`Lists`).  Nothing depends on the order of members
  or on how a number is spelled.

  A reply is read exactly as these say (`ReadsReply`).  A refusal goes before
  everything else: it is reported as such also where there is a list.  So an
  array and the reply to a command that has the same array as its batch cannot be
  told apart by what is made of them (`ReadsReply.agrees`).

  The documents are canonical because they were read (`canonical_of_ofText?`), so
  that an object has one value at most under a key.

  Main result: `repliesRead`.
-/
import LoadWatch.Proofs.ReadDocuments
import LoadWatch.Proofs.Records
import LoadWatch.Sampling

set_option autoImplicit false

namespace LoadWatch.Reply

open Json

/-! ## What replies say -/

/-- The reply is an object whose member `ok` is a number equal to zero. -/
def Refuses (reply : Value) : Prop :=
  ∃ n : Number, reply.Has "ok" (.number n) ∧ n.toBinary64.value? = some 0

/-- The message of a refusal: its member `errmsg` if that is a string. -/
inductive Tells (reply : Value) : String → Prop
  | message {text : String} (h : reply.Has "errmsg" (.string text)) : Tells reply text
  | nothing (h : ¬∃ text, reply.Has "errmsg" (.string text)) : Tells reply "no error message"

/-- The reply lists documents: those of an array, or of the first batch of a cursor. -/
inductive Lists : Value → List Value → Prop
  | array (documents : List Value) : Lists (.array documents) documents
  | batch {reply cursor : Value} {documents : List Value} (accepted : ¬Refuses reply)
      (hcursor : reply.Has "cursor" cursor) (hbatch : cursor.Has "firstBatch" (.array documents)) :
      Lists reply documents

/-- The reply to a command that succeeded, with the documents as the first batch of its cursor. -/
structure IsCommandReply (reply : Value) (documents : List Value) : Prop where
  ok : ∃ n : Number, reply.Has "ok" (.number n) ∧ n.toBinary64.value? = some 1
  batch : ∃ cursor, reply.Has "cursor" cursor ∧ cursor.Has "firstBatch" (.array documents)

variable {text : String} {reply : Value} {documents : List Value}

/-! ## Refusals -/

/-- A reply is taken for a refusal exactly if it is one. -/
theorem isRefusal_eq_true_iff (canonical : reply.Canonical) :
    isRefusal reply = true ↔ Refuses reply := by
  unfold isRefusal
  cases hok : reply.member? "ok" with
  | none =>
    refine iff_of_false Bool.false_ne_true fun ⟨n, hn, _⟩ => ?_
    exact canonical.member?_eq_none_iff.mp hok ⟨_, hn⟩
  | some ok =>
    have hhas : reply.Has "ok" ok := canonical.member?_eq_some_iff.mp hok
    cases ok with
    | number n =>
      refine (Number.isZero_iff n).trans ⟨fun hzero => ⟨n, hhas, hzero⟩, ?_⟩
      rintro ⟨m, hm, hzero⟩
      obtain rfl := Value.number.inj (hm.unique canonical hhas)
      exact hzero
    | _ =>
      refine iff_of_false Bool.false_ne_true fun ⟨n, hn, _⟩ => ?_
      cases hn.unique canonical hhas

/-- A reply has one message. -/
theorem Tells.unique (canonical : reply.Canonical) {message other : String}
    (h : Tells reply message) (h' : Tells reply other) : message = other := by
  cases h with
  | message htext =>
    cases h' with
    | message hother => exact Value.string.inj (htext.unique canonical hother)
    | nothing hnone => exact absurd ⟨_, htext⟩ hnone
  | nothing hnone =>
    cases h' with
    | message hother => exact absurd ⟨_, hother⟩ hnone
    | nothing _ => rfl

/-- It is the one that is reported. -/
theorem tells_refusalMessage (canonical : reply.Canonical) :
    Tells reply (refusalMessage reply) := by
  unfold refusalMessage
  cases hmessage : reply.member? "errmsg" with
  | none =>
    refine .nothing fun ⟨text, htext⟩ => ?_
    exact canonical.member?_eq_none_iff.mp hmessage ⟨_, htext⟩
  | some message =>
    have hhas : reply.Has "errmsg" message := canonical.member?_eq_some_iff.mp hmessage
    cases message with
    | string text => exact .message hhas
    | _ =>
      refine .nothing fun ⟨text, htext⟩ => ?_
      cases htext.unique canonical hhas

theorem isObject_of_has {value : Value} {key : String} (h : reply.Has key value) :
    reply.isObject = true := by
  obtain ⟨members, rfl, -⟩ := h
  rfl

/-- Only an object is a refusal. -/
theorem Refuses.isObject (h : Refuses reply) : reply.isObject = true := by
  obtain ⟨n, hn, -⟩ := h
  exact isObject_of_has hn

/-- A reply whose member `ok` is one is no refusal. -/
theorem IsCommandReply.not_refuses (canonical : reply.Canonical)
    (h : IsCommandReply reply documents) : ¬Refuses reply := by
  rintro ⟨n, hn, hzero⟩
  obtain ⟨m, hm, hone⟩ := h.ok
  obtain rfl := Value.number.inj (hn.unique canonical hm)
  rw [hzero] at hone
  exact zero_ne_one (Option.some.inj hone)

theorem IsCommandReply.lists (canonical : reply.Canonical) (h : IsCommandReply reply documents) :
    Lists reply documents := by
  obtain ⟨cursor, hcursor, hbatch⟩ := h.batch
  exact .batch (h.not_refuses canonical) hcursor hbatch

/-! ## Documents -/

/-- The batch that is looked up is the one of the cursor. -/
theorem bind_firstBatch_eq_some_iff (canonical : reply.Canonical) {batch : Value} :
    (reply.member? "cursor").bind (Value.member? "firstBatch") = some batch ↔
      ∃ cursor, reply.Has "cursor" cursor ∧ cursor.Has "firstBatch" batch := by
  rw [Option.bind_eq_some_iff]
  refine exists_congr fun cursor => ?_
  rw [canonical.member?_eq_some_iff]
  exact and_congr_right fun hcursor => (canonical.of_has hcursor).member?_eq_some_iff

/-- An object that is accepted gives the batch of its cursor, if that is an array. -/
theorem cursorDocuments_object {members : List (String × Value)}
    (canonical : (Value.object members).Canonical) (accepted : ¬Refuses (.object members)) :
    cursorDocuments (.object members) = .ok documents ↔ Lists (.object members) documents := by
  have hlists : Lists (.object members) documents ↔
      ((Value.object members).member? "cursor").bind (Value.member? "firstBatch") =
        some (.array documents) := by
    rw [bind_firstBatch_eq_some_iff canonical]
    constructor
    · rintro ⟨⟩
      exact ⟨_, ‹_›, ‹_›⟩
    · rintro ⟨cursor, hcursor, hbatch⟩
      exact .batch accepted hcursor hbatch
  rw [hlists, cursorDocuments]
  split
  · rename_i found hfound
    rw [hfound, Option.some.injEq, Value.array.injEq, Except.ok.injEq]
  · rename_i hnone
    exact iff_of_false nofun (hnone documents)

/-- A reply that is accepted gives the documents that it lists. -/
theorem cursorDocuments_eq_ok_iff (canonical : reply.Canonical) (accepted : ¬Refuses reply) :
    cursorDocuments reply = .ok documents ↔ Lists reply documents := by
  cases reply with
  | array items =>
    rw [cursorDocuments, Except.ok.injEq]
    constructor
    · rintro rfl
      exact .array items
    · rintro (_ | ⟨_, hcursor, -⟩)
      · rfl
      · cases isObject_of_has hcursor
  | object members => exact cursorDocuments_object canonical accepted
  | _ =>
    refine iff_of_false nofun fun hlists => ?_
    cases hlists with
    | batch _ hcursor _ => cases isObject_of_has hcursor

/-- There is one reason why an object that is accepted gives no documents. -/
theorem cursorDocuments_object_eq_or (members : List (String × Value)) :
    (∃ documents, cursorDocuments (.object members) = .ok documents) ∨
      cursorDocuments (.object members) =
        .error (.plain "aggregation reply has no cursor.firstBatch array") := by
  unfold cursorDocuments
  dsimp only
  split
  · exact .inl ⟨_, rfl⟩
  · exact .inr rfl

/-- Only what is not refused is a list. -/
theorem Lists.not_refuses (h : Lists reply documents) : ¬Refuses reply := by
  cases h with
  | array documents => exact fun refuses => Bool.false_ne_true refuses.isObject
  | batch accepted _ _ => exact accepted

/-! ## Texts -/

section Texts

variable (h : Value.ofText? text = some reply)
include h

theorem parse_of_accepted (accepted : ¬Refuses reply) : parse text = .ok reply := by
  have hnot : ¬isRefusal reply = true :=
    mt (isRefusal_eq_true_iff (canonical_of_ofText? h)).mp accepted
  rw [parse, h]
  exact if_neg hnot

theorem parse_of_refuses (refuses : Refuses reply) :
    parse text = .error (.plain ("server reported: " ++ refusalMessage reply)) := by
  rw [parse, h]
  exact if_pos ((isRefusal_eq_true_iff (canonical_of_ofText? h)).mpr refuses)

theorem parseCursor_of_accepted (accepted : ¬Refuses reply) :
    parseCursor text = cursorDocuments reply := by
  rw [parseCursor, parse_of_accepted h accepted]

/-- A text gives documents exactly if its document lists them. -/
theorem parseCursor_eq_ok_iff : parseCursor text = .ok documents ↔ Lists reply documents := by
  by_cases refuses : Refuses reply
  · rw [parseCursor, parse_of_refuses h refuses]
    exact iff_of_false nofun fun hlists => hlists.not_refuses refuses
  · rw [parseCursor_of_accepted h refuses,
      cursorDocuments_eq_ok_iff (canonical_of_ofText? h) refuses]

end Texts

/-- A sample for the report on operation metrics is made of the documents alone. -/
theorem operations_body (h : parseCursor text = .ok documents) (time : Time.Moment) (cores : Int) :
    Sampling.operations time cores (.body text) =
      { outcome := (OperationMetrics.Snapshot.ofCursor (documents.map .ok) time cores).mapError
          Failure.ofFault } := by
  rw [Sampling.operations, Sampling.attempt, h]
  rfl

/-! ## Reading replies -/

/-- What is taken from a text that stands for the document `reply`. -/
structure ReadsReply (text : String) (reply : Value) : Prop where
  /-- The reply to a command is the document, without any change. -/
  accepted : ¬Refuses reply → parse text = .ok reply
  /-- Only a refusal is an error, with the message of the server. -/
  refused : Refuses reply → ∃ message, (∀ other, Tells reply other ↔ other = message) ∧
    parse text = .error (.plain ("server reported: " ++ message))
  /-- The documents of an aggregation are exactly those that are listed, in order. -/
  listed : ∀ documents, parseCursor text = .ok documents ↔ Lists reply documents
  /-- A refusal is reported as such, whatever else it has. -/
  refusedCursor : ∀ failure, parse text = .error failure → parseCursor text = .error failure
  /-- So is an object without a batch. -/
  noBatch : reply.isObject = true → ¬Refuses reply → (¬∃ documents, Lists reply documents) →
    parseCursor text = .error (.plain "aggregation reply has no cursor.firstBatch array")
  /-- And so is what is neither an object nor an array. -/
  noContainer : reply.isContainer = false →
    parseCursor text = .error (.plain "aggregation reply is not a document or an array")
  /-- A sample is made of the documents alone. -/
  sampled : ∀ documents, Lists reply documents → ∀ time cores,
    Sampling.operations time cores (.body text) =
      { outcome := (OperationMetrics.Snapshot.ofCursor (documents.map .ok) time cores).mapError
          Failure.ofFault }
  /-- An array and the reply to a command with the same documents come to the same. -/
  agrees : ∀ documents, reply = .array documents → ∀ (command : String) (value : Value),
    Value.ofText? command = some value → IsCommandReply value documents →
      parseCursor command = parseCursor text ∧ ∀ time cores,
        Sampling.operations time cores (.body command) =
          Sampling.operations time cores (.body text)

/-- The text of a document says what the document says. -/
theorem readsReply (h : Value.ofText? text = some reply) : ReadsReply text reply where
  accepted := parse_of_accepted h
  refused refuses := by
    have canonical := canonical_of_ofText? h
    have htells := tells_refusalMessage canonical
    refine ⟨_, fun other => ⟨fun hother => hother.unique canonical htells, ?_⟩,
      parse_of_refuses h refuses⟩
    rintro rfl
    exact htells
  listed documents := parseCursor_eq_ok_iff h
  refusedCursor failure hfailure := by rw [parseCursor, hfailure]
  noBatch object accepted unlisted := by
    rw [parseCursor_of_accepted h accepted]
    cases reply with
    | object members =>
      refine (cursorDocuments_object_eq_or members).resolve_left fun ⟨documents, hdocuments⟩ => ?_
      have hlists := (cursorDocuments_eq_ok_iff (canonical_of_ofText? h) accepted).mp hdocuments
      exact unlisted ⟨documents, hlists⟩
    | _ => cases object
  noContainer scalar := by
    cases reply with
    | array _ | object _ => cases scalar
    | _ => exact parseCursor_of_accepted h fun refuses => Bool.false_ne_true refuses.isObject
  sampled documents hlists := operations_body ((parseCursor_eq_ok_iff h).mpr hlists)
  agrees documents harray command value hcommand hreply := by
    have hleft := (parseCursor_eq_ok_iff hcommand).mpr
      (hreply.lists (canonical_of_ofText? hcommand))
    have hlists : Lists reply documents := harray ▸ Lists.array documents
    have hright := (parseCursor_eq_ok_iff h).mpr hlists
    refine ⟨hleft.trans hright.symm, fun time cores => ?_⟩
    rw [operations_body hleft, operations_body hright]

/-- The reply to a command with the documents as the first batch. -/
def commandReply (documents : List Value) : Value :=
  .object [("cursor", .object [("firstBatch", .array documents)]), ("ok", .ofInt 1)]

theorem isCommandReply_commandReply (documents : List Value) :
    IsCommandReply (commandReply documents) documents where
  ok := by
    refine ⟨.integer 1, ⟨_, rfl, by simp [Value.ofInt]⟩, ?_⟩
    rw [Number.toBinary64, Binary64.value?_ofInt (by decide)]
    simp
  batch := ⟨_, ⟨_, rfl, List.mem_cons_self⟩, _, rfl, List.mem_cons_self⟩

/-- Documents that can each be written inside of the reply to a command can be written so. -/
theorem writable_commandReply (h : ∀ document ∈ documents, document.Writable 124) :
    (commandReply documents).Writable nestingLimit := by
  have hcursor : (Value.object [("firstBatch", .array documents)]).Writable 126 :=
    Value.writable_object_iff.mpr ⟨List.pairwise_singleton .., List.forall_mem_singleton.mpr
      (Value.writable_array h)⟩
  exact Value.writable_pair (by decide) hcursor (Value.writable_ofInt 126 (by decide))

/-- How the replies of a server are read. -/
structure RepliesRead : Prop where
  /-- Every text that stands for a document is read as the document says. -/
  reads : ∀ text reply, Value.ofText? text = some reply → ReadsReply text reply
  /-- A number is zero in every spelling: it has no digits but zeros, whatever its sign, its places
  and its exponent. -/
  zeros : ∀ word numeral, Numeral.ofText? word = some numeral →
    (∀ c ∈ numeral.whole ++ numeral.fraction, c = '0') →
      ∃ n, Number.ofText? word = some n ∧ n.toBinary64.value? = some 0
  /-- Documents can be written both as an array and as the reply to a command. -/
  written : ∀ documents : List Value, (∀ document ∈ documents, document.Writable 124) →
    Value.ofText? (Value.array documents).render = some (.array documents) ∧
      Value.ofText? (commandReply documents).render = some (commandReply documents) ∧
        IsCommandReply (commandReply documents) documents

/-- The replies of a server are read as their documents say, whatever they are. -/
theorem repliesRead : RepliesRead where
  reads text reply h := readsReply h
  zeros word numeral h hzeros :=
    ofText?_zeros h (fun c hc => hzeros c (List.mem_append_left _ hc))
      (fun c hc => hzeros c (List.mem_append_right _ hc))
  written documents h := by
    have harray : (Value.array documents).Writable nestingLimit :=
      (Value.writable_array h).mono (by decide)
    exact ⟨Value.ofText?_render harray, Value.ofText?_render (writable_commandReply h),
      isCommandReply_commandReply documents⟩

/-- Zero in four spellings, and two documents in both kinds of reply. -/
theorem spelledReplies_read :
    (∀ word ∈ ["0", "-0", "0.0", "0e9"], ∃ n, Number.ofText? word.toList = some n ∧
      n.toBinary64.value? = some 0) ∧
    ∀ time cores,
      Sampling.operations time cores
          (.body (commandReply [.object [("db", .string "admin")], .null]).render) =
        Sampling.operations time cores
          (.body (Value.array [.object [("db", .string "admin")], .null]).render) := by
  constructor
  · simp only [List.forall_mem_cons, List.not_mem_nil, false_imp_iff, implies_true, and_true]
    exact ⟨repliesRead.zeros _ ⟨false, ['0'], [], false, 0⟩ rfl (by simp),
      repliesRead.zeros _ ⟨true, ['0'], [], false, 0⟩ rfl (by simp),
      repliesRead.zeros _ ⟨false, ['0'], ['0'], true, 0⟩ rfl (by simp),
      repliesRead.zeros _ ⟨false, ['0'], [], true, 9⟩ rfl (by simp)⟩
  · have hdocument : (Value.object [("db", .string "admin")]).Writable 124 :=
      Value.writable_object_iff.mpr ⟨List.pairwise_singleton .., List.forall_mem_singleton.mpr
        (Value.writable_string 123 "admin")⟩
    have hnull : Value.null.Writable 124 := ⟨.null, trivial, Nat.zero_le 124⟩
    obtain ⟨harray, hcommand, hreply⟩ := repliesRead.written _
      (List.forall_mem_cons.mpr ⟨hdocument, List.forall_mem_singleton.mpr hnull⟩)
    exact ((repliesRead.reads _ _ harray).agrees _ rfl _ _ hcommand hreply).2

end LoadWatch.Reply
