/-
  Proofs/LabelledLines.lean --- reading the lines that reports write.

  WHAT THIS FILE IS FOR.  A report writes a document on one line and puts the
  name of the host into it, if there is one to put.  Here the line is read the
  way the reply of a server is read, and the document comes back with the label
  and without any other change (`ReadsBack`).

  The label is described apart from how it is put in (`Labels`).  It takes the
  place of a member that has its key, and of no other.  So two documents can have
  the same line only by differing where the label goes.

  What reads replies refuses one whose member `ok` is zero.  That holds of a line
  exactly if it holds of the document, since `ok` is not the key of the label.

  Main result: `line_readsBack`.
-/
import LoadWatch.Proofs.Documents
import LoadWatch.Reply
import LoadWatch.Report

set_option autoImplicit false

namespace LoadWatch.Report

open Json

/-! ## Labels -/

/-- The label of a host is put into a document. -/
inductive Labels : Option String → Value → Value → Prop
  /-- Without a host there is no label. -/
  | unlabelled (document : Value) : Labels none document document
  /-- Only an object has a place for it. -/
  | noPlace (host : String) {document : Value} (h : document.isObject = false) :
      Labels (some host) document document
  /-- It is the member with its key, and no other member is touched. -/
  | member {host : String} {members labelled : List (String × Value)}
      (ascending : Keyed.Ascending labelled)
      (label : Keyed.lookup "host" labelled = some (.string host))
      (others : ∀ key ≠ "host", Keyed.lookup key labelled = Keyed.lookup key members) :
      Labels (some host) (.object members) (.object labelled)

variable {document : Value} {options : RenderOptions}

theorem labelled_of_host_eq_none (h : options.host = none) (document : Value) :
    labelled document options = document := by
  cases document <;> simp [labelled, h]

theorem labelled_of_host_eq_some {host : String} (h : options.host = some host)
    (members : List (String × Value)) : labelled (.object members) options =
      .object (Keyed.insert "host" (.string host) members) := by
  simp [labelled, h]

/-- The keys of a labelled document ascend as those of the document do. -/
theorem labels_labelled (canonical : document.Canonical) (options : RenderOptions) :
    Labels options.host document (labelled document options) := by
  cases hhost : options.host with
  | none =>
    rw [labelled_of_host_eq_none hhost]
    exact .unlabelled document
  | some host =>
    cases document with
    | null | bool _ | number _ | string _ | array _ => exact .noPlace host rfl
    | object members =>
      rw [labelled_of_host_eq_some hhost]
      refine .member (Keyed.ascending_insert (Value.canonical_object_iff.mp canonical).1 _ _) ?_ ?_
      · rw [Keyed.lookup_insert, if_pos rfl]
      · intro key hkey
        rw [Keyed.lookup_insert, if_neg hkey]

/-- What an object has under another key it has as well with the label. -/
theorem Labels.member?_eq {host : Option String} {labelled : Value}
    (h : Labels host document labelled) {key : String} (hkey : key ≠ "host") :
    labelled.member? key = document.member? key := by
  cases h with
  | unlabelled => rfl
  | noPlace => rfl
  | member _ _ others => exact others key hkey

/-- Two objects differ at most where the label of a host goes. -/
def DifferInLabel (left right : Value) : Prop :=
  ∃ members others : List (String × Value), left = .object members ∧ right = .object others ∧
    ∀ key ≠ "host", Keyed.lookup key members = Keyed.lookup key others

/-- Documents with the same labelled document differ at most where the label goes. -/
theorem Labels.eq_or_differ {host : Option String} {other labelled : Value}
    (h : Labels host document labelled) (h' : Labels host other labelled) :
    document = other ∨ host ≠ none ∧ DifferInLabel document other := by
  cases h with
  | unlabelled =>
    cases h'
    exact .inl rfl
  | noPlace host hscalar =>
    cases h' with
    | noPlace => exact .inl rfl
    | member => cases hscalar
  | @member host members labelled _ _ hothers =>
    cases h' with
    | noPlace _ hscalar => cases hscalar
    | @member _ members' _ _ _ hothers' =>
      refine .inr ⟨Option.some_ne_none host, members, members', rfl, rfl, ?_⟩
      intro key hkey
      rw [← hothers key hkey, hothers' key hkey]

/-- Documents that differ at most where the label goes have the same labelled document. -/
theorem Labels.unique {host : Option String} {other labelled labelled' : Value}
    (h : Labels host document labelled) (h' : Labels host other labelled')
    (hdiffer : document = other ∨ host ≠ none ∧ DifferInLabel document other) :
    labelled = labelled' := by
  cases h with
  | unlabelled =>
    cases h'
    rcases hdiffer with rfl | ⟨hhost, -⟩
    · rfl
    · exact absurd rfl hhost
  | noPlace host hscalar =>
    rcases hdiffer with rfl | ⟨-, members, _, rfl, -, -⟩
    · cases h' with
      | noPlace => rfl
      | member => cases hscalar
    · cases hscalar
  | @member host members labelled hascending hlabel hothers =>
    have hmembers : ∃ members', other = .object members' ∧
        ∀ key ≠ "host", Keyed.lookup key members = Keyed.lookup key members' := by
      rcases hdiffer with rfl | ⟨-, _, members', heq, hother, hsame⟩
      · exact ⟨members, rfl, fun _ _ => rfl⟩
      · obtain rfl := Value.object.inj heq
        exact ⟨members', hother, hsame⟩
    obtain ⟨members', rfl, hsame⟩ := hmembers
    cases h' with
    | noPlace _ hscalar => cases hscalar
    | @member _ _ labelled' hascending' hlabel' hothers' =>
      refine congrArg Value.object (Keyed.eq_of_lookup hascending hascending' ?_)
      intro key
      by_cases hkey : key = "host"
      · rw [hkey, hlabel, hlabel']
      · rw [hothers key hkey, hothers' key hkey, hsame key hkey]

/-! ## Labelled documents -/

/-- What holds of every member of an object and of strings holds of every member with the
label. -/
theorem forall_mem_label {motive : Value → Prop} (text : ∀ host, motive (.string host))
    {members : List (String × Value)} (h : ∀ member ∈ members, motive member.2) (host : String) :
    ∀ member ∈ Keyed.insert "host" (.string host) members, motive member.2 := by
  intro member hmember
  rcases Keyed.mem_insert hmember with rfl | hmember
  · exact text host
  · exact h member hmember

/-- A document that can be written can be written with the label. -/
theorem writable_labelled (h : document.Writable nestingLimit) (options : RenderOptions) :
    (labelled document options).Writable nestingLimit := by
  cases hhost : options.host with
  | none => rwa [labelled_of_host_eq_none hhost]
  | some host =>
    cases document with
    | null | bool _ | number _ | string _ | array _ => exact h
    | object members =>
      obtain ⟨ascending, hmembers⟩ := Value.writable_object_iff.mp h
      rw [labelled_of_host_eq_some hhost]
      refine Value.writable_object_iff.mpr ⟨Keyed.ascending_insert ascending _ _, ?_⟩
      exact forall_mem_label (Value.writable_string _) hmembers host

/-- A line is read as the labelled document. -/
theorem ofText?_line (h : document.Writable nestingLimit) (options : RenderOptions) :
    Value.ofText? (line document options) = some (labelled document options) :=
  Value.ofText?_render (writable_labelled h options)

/-- A line has no control character, so that it is one line. -/
theorem printable_line (h : document.Writable nestingLimit) (options : RenderOptions) :
    Printable (line document options).toList :=
  Value.printable_render (writable_labelled h options)

/-! ## Refusals -/

/-- A document without floats is a refusal exactly if its member `ok` is the integer zero. -/
theorem isRefusal_iff (floatFree : document.FloatFree) (canonical : document.Canonical) :
    Reply.isRefusal document = true ↔ document.member? "ok" = some (.ofInt 0) := by
  have hnumber : ∀ n, document.member? "ok" = some (.number n) → ∃ k, n = .integer k := by
    intro n h
    cases floatFree with
    | null | bool _ | integer _ | string _ | array _ => cases h
    | object hfree =>
      have hmem := (Keyed.lookup_eq_some_iff (Value.canonical_object_iff.mp canonical).1).mp h
      cases hfree _ hmem with
      | integer k => exact ⟨k, rfl⟩
  cases hok : document.member? "ok" with
  | none => simp [Reply.isRefusal, hok]
  | some ok =>
    cases ok with
    | null | bool _ | string _ | array _ | object _ =>
      simp [Reply.isRefusal, hok, Value.number?, Value.ofInt]
    | number n =>
      obtain ⟨k, rfl⟩ := hnumber n hok
      simp [Reply.isRefusal, hok, Value.number?, Value.ofInt, Number.isZero]

/-- The label does not make a refusal of a document, and leaves no refusal unseen. -/
theorem isRefusal_labelled (h : document.Writable nestingLimit) (options : RenderOptions) :
    Reply.isRefusal (labelled document options) = true ↔
      document.member? "ok" = some (.ofInt 0) := by
  obtain ⟨floatFree, canonical, -⟩ := writable_labelled h options
  have hlabels := labels_labelled h.canonical options
  rw [isRefusal_iff floatFree canonical, hlabels.member?_eq (by decide)]

/-- A line is taken as the labelled document is. -/
theorem parse_line (h : document.Writable nestingLimit) (options : RenderOptions) :
    Reply.parse (line document options) = Reply.accept (labelled document options) := by
  rw [Reply.parse, ofText?_line h options]

/-! ## Reading lines back -/

/-- What the line of a document says when it is read as the reply of a server. -/
structure ReadsBack (document : Value) (options : RenderOptions) : Prop where
  /-- There is no control character, so that it is one line. -/
  printable : Printable (line document options).toList
  /-- The document comes back with the label of the host. -/
  accepted : document.member? "ok" ≠ some (.ofInt 0) →
    ∃ labelled, Labels options.host document labelled ∧
      Reply.parse (line document options) = .ok labelled
  /-- Only a document that looks like the refusal of a command is taken for one. -/
  refused : document.member? "ok" = some (.ofInt 0) →
    Reply.parse (line document options) =
      .error (.plain ("server reported: " ++ Reply.refusalMessage document))
  /-- Another document has another line, unless the two differ where the label goes. -/
  distinct : ∀ other : Value, other.FloatFree → other.Canonical → other.depth ≤ 127 →
    (line document options = line other options ↔
      document = other ∨ options.host ≠ none ∧ DifferInLabel document other)

/-- The line of a document reads back as the document: of every document without floats, whose
integers 64 bits hold and whose members are in order, with at most 127 containers nested in each
other. -/
theorem line_readsBack (floatFree : document.FloatFree) (canonical : document.Canonical)
    (depth : document.depth ≤ 127) (options : RenderOptions) : ReadsBack document options := by
  have hwritable : document.Writable nestingLimit := ⟨floatFree, canonical, depth⟩
  have hlabels := labels_labelled canonical options
  have hrefusal := isRefusal_labelled hwritable options
  have hparse := parse_line hwritable options
  refine ⟨printable_line hwritable options, ?_, ?_, ?_⟩
  · intro hnot
    have haccepted : Reply.isRefusal (labelled document options) = false := by
      rwa [Bool.eq_false_iff, Ne, hrefusal]
    refine ⟨labelled document options, hlabels, ?_⟩
    rw [hparse, Reply.accept, haccepted]
    rfl
  · intro hzero
    have hmessage : Reply.refusalMessage (labelled document options) =
        Reply.refusalMessage document := by
      rw [Reply.refusalMessage, hlabels.member?_eq (by decide), ← Reply.refusalMessage]
    rw [hparse, Reply.accept, hrefusal.mpr hzero, if_pos rfl, hmessage]
  · intro other otherFree otherCanonical otherDepth
    have hlabels' := labels_labelled otherCanonical options
    constructor
    · intro hline
      have hread := ofText?_line hwritable options
      rw [hline, ofText?_line ⟨otherFree, otherCanonical, otherDepth⟩ options] at hread
      rw [← Option.some.inj hread] at hlabels
      exact hlabels.eq_or_differ hlabels'
    · intro hdiffer
      rw [line, line, hlabels.unique hlabels' hdiffer]

/-- A document with what has to be escaped, with both ends of the range of integers, and with a
member where the label goes. -/
def escapedDocument : Value :=
  .object [("\t\"\\\x00é", .array [.ofInt minInt64, .ofInt 18446744073709551615, .null]),
    ("host", .bool true), ("ok", .ofInt 0)]

/-- The document with escapes is one that reads back. -/
theorem escapedDocument_readsBack :
    escapedDocument.FloatFree ∧ escapedDocument.Canonical ∧ escapedDocument.depth ≤ 127 ∧
      ReadsBack escapedDocument { host := some "db-2:28017" } := by
  have floatFree : escapedDocument.FloatFree := by
    refine .object ?_
    simp only [List.forall_mem_cons, List.not_mem_nil, false_imp_iff, implies_true, and_true]
    refine ⟨.array ?_, .bool true, .integer 0⟩
    simp only [List.forall_mem_cons, List.not_mem_nil, false_imp_iff, implies_true, and_true]
    exact ⟨.integer _, .integer _, .null⟩
  have canonical : escapedDocument.Canonical := by
    refine ⟨?_, ?_⟩
    · unfold Keyed.Ascending
      decide
    · simp [Value.CanonicalMembers, Value.CanonicalItems, Value.Canonical, Value.ofInt, minInt64,
        wordCount]
  have depth : escapedDocument.depth ≤ 127 := by decide
  exact ⟨floatFree, canonical, depth, line_readsBack floatFree canonical depth _⟩

end LoadWatch.Report
