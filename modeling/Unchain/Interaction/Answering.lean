import Unchain.Interaction.SessionCrew

/-!
What recording an answer and cancelling a wait ask of the store.

`Agreed` is where a call of `record_receipt` that returns has got to: the receipt it returns was
shown to it under the interaction it answers, and its own answer was taken for that of the receipt.
-/

namespace Unchain.Interaction

open Lib Lib.Process Lib.Effect Memory Python

def Shown (host : RuntimeHost) (g : Told) (s id : String) (e : JournalEntry) : Prop :=
  ∃ doc revision j, (s, doc, revision) ∈ g.seen ∧
    readJournal host.interaction ((Value.dict doc).get interactionJournalKey) = .ok j ∧
    j.entry id = some e

theorem Shown.mono {host : RuntimeHost} {g g' : Told} {s id : String} {e : JournalEntry}
    (h : Shown host g s id e) (sub : g.seen ⊆ g'.seen) : Shown host g' s id e := by
  obtain ⟨doc, revision, j, mem, read, found⟩ := h
  exact ⟨doc, revision, j, sub mem, read, found⟩

structure OfEntry (host : RuntimeHost) (a : DurableInteractionSnapshot) (j : Journal)
    (e : JournalEntry) : Prop where
  journal : readJournal host.interaction (a.sessionSnapshot.get interactionJournalKey) = .ok j
  found : j.entry a.request.interactionId = some e
  request : a.request = e.request
  receipt : a.receipt = e.receipt

/-- The answer of a call was taken for the one of a receipt: the two are equal, or their receipts
have one digest, or the call wrote a receipt of its own. -/
inductive Taken (host : RuntimeHost) (c : RecordCall) (g : Told) (request : InteractionRequest)
    (normalized : Value) (r : InteractionReceipt) : Prop where
  | equal (same : r.response.eqPy normalized = true)
  | replayed {own : InteractionReceipt} {now : Int}
      (built : buildInteractionReceipt host.interaction (.built request) normalized c.submittedBy
        now = .ok own) (same : r.receiptDigest = own.receiptDigest)
  | written {own : InteractionReceipt} {now : Int} {e : JournalEntry}
      (built : buildInteractionReceipt host.interaction (.built request) normalized c.submittedBy
        now = .ok own)
      (shown : Shown host g c.sessionId c.interactionId e) (recorded : e.receipt = some own)

structure Agreed (host : RuntimeHost) (c : RecordCall) (g : Told) (a : DurableInteractionSnapshot)
    (first last : JournalEntry) (normalized : Value) (r : InteractionReceipt) : Prop where
  shownFirst : Shown host g c.sessionId c.interactionId first
  shownLast : Shown host g c.sessionId c.interactionId last
  request : a.request = last.request
  recorded : last.receipt = some r
  receipt : a.receipt = some r
  normal : normalizeInteractionResponse host first.request c.response = .ok normalized
  taken : Taken host c g first.request normalized r

/-- What holds of an answer that is returned. -/
def RecordCall.Post (c : RecordCall) (host : RuntimeHost) (g : Told)
    (a : DurableInteractionSnapshot) : Prop :=
  c.interactionId.isEmpty = false → ∃ first last normalized r,
    Agreed host c g a first last normalized r

/-- What holds of an operation that returns. -/
def SessionCall.Post (host : RuntimeHost) : SessionCall → Told → SessionResult → Prop
  | .recordReceipt c, g, .interaction a =>
    c.interactionId.isEmpty = false → ∃ first last normalized r,
      Agreed host c g a first last normalized r
  | _, _, _ => True

section Obeys

variable {host : RuntimeHost} {A : RecordCall → Prop} {role : SessionCall} {g : Told} {s : String}
  {a : DurableInteractionSnapshot} {interactionId : Option String} {requireActive : Bool}

theorem snapshotOf_ok {snapshot : SessionSnapshot}
    (h : snapshotOf host snapshot s interactionId requireActive = .ok a) :
    a.sessionSnapshot = snapshot ∧ ∃ j e, OfEntry host a j e ∧
      ∀ id, interactionId = some id → id.isEmpty = false → a.request.interactionId = id := by
  simp only [snapshotOf, bind_iff, raiseIf_ok, exists_const, pure_iff] at h
  obtain ⟨j, journal, id, resolved, -, e, existing, request, asked, receipt, received, rfl⟩ := h
  have found : j.entry id = some e := by
    simp only [requireExisting] at existing
    split at existing
    · next there =>
        cases existing
        exact there
    · cases existing
  have fixed := entryFixed (readJournal_fixed journal) found
  obtain rfl := Except.ok.inj (fixed.request.fromDict.symm.trans asked)
  obtain rfl := Except.ok.inj ((readReceipt_toDict fixed.request fixed.receipt).symm.trans received)
  refine ⟨rfl, j, e, ⟨journal, ?_, rfl, rfl⟩, ?_⟩
  · exact fixed.keyed.symm ▸ found
  · rintro id' rfl named
    have same : id' = id := by
      simp only [resolveId, Option.filter_some, named, Bool.not_false, ↓reduceIte,
        Option.some_or] at resolved
      exact Except.ok.inj resolved
    rw [same]
    exact fixed.keyed

structure LoadedFrom (host : RuntimeHost) (g : Told) (s : String) (interactionId : Option String)
    (a : DurableInteractionSnapshot) : Prop where
  seen : Seen g s a.sessionSnapshot
  entry : ∃ j e, OfEntry host a j e
  named : ∀ id, interactionId = some id → id.isEmpty = false → a.request.interactionId = id

variable {j : Journal}

theorem LoadedFrom.shown (h : LoadedFrom host g s interactionId a) {e : JournalEntry}
    (entry : OfEntry host a j e) : Shown host g s a.request.interactionId e := by
  obtain ⟨revision, -, mem⟩ := h.seen.revision
  exact ⟨_, revision, j, mem, entry.journal, entry.found⟩

theorem obeys_loadInteraction {reconcile : Bool} : Obeys ((sessionWatch host A).of role) g
      (loadInteraction host s interactionId requireActive reconcile) fun g' a =>
        s.isEmpty = false ∧ LoadedFrom host g' s interactionId a := by
  apply obeys_check_bind
  intro stripped
  have named : s.isEmpty = false := by
    cases empty : s.isEmpty with
    | false => rfl
    | true =>
      obtain rfl : s = "" := by simpa using empty
      cases stripped
  have session : Obeys ((sessionWatch host A).of role) g (loadSession host s reconcile)
      fun g' snapshot => Seen g' s snapshot := by
    cases reconcile with
    | false => exact obeys_loadSnapshot named
    | true =>
      refine obeys_bind (obeys_reconcile named) fun g' result done => ?_
      obtain ⟨snapshot, cancellation⟩ := result
      cases cancellation with
      | none => exact done rfl
      | some cancellation => trivial
  refine obeys_bind session fun g' snapshot seen => ?_
  refine obeys_lift fun a loaded => ?_
  obtain ⟨rfl, j, e, entry, resolved⟩ := snapshotOf_ok loaded
  exact ⟨named, seen, ⟨j, e, entry⟩, resolved⟩

/-- Any reconciliation leaves an operation where it may go on. -/
theorem obeys_anyReconcile {submittedBy : String} : Obeys ((sessionWatch host A).of role) g
      (reconcileCancelledExecutionCheckpoint host s submittedBy) fun _ _ => True := by
  cases named : s.isEmpty with
  | false => exact (obeys_reconcile named).mono fun _ _ _ => trivial
  | true =>
    rw [reconcileCancelledExecutionCheckpoint, if_pos named]
    trivial

-- from here on a load counts by what it leaves; evaluating it would strip the session id
attribute [local irreducible] loadInteraction reconcileCancelledExecutionCheckpoint

theorem obeys_reconcileAndRaise {e : PyError} (named : s.isEmpty = false)
    {post : Told → DurableInteractionSnapshot → Prop} :
    Obeys ((sessionWatch host A).of role) g (reconcileAndRaise host s e) post :=
  obeys_bind (obeys_reconcile named) fun _ _ _ => trivial

variable {fence : Option ExecutionFence}

theorem obeys_verifyAndReturn (named : s.isEmpty = false) :
    Obeys ((sessionWatch host A).of role) g (verifyAndReturn host s fence a)
      fun g' a' => g.seen ⊆ g'.seen ∧ a' = a := by
  refine obeys_bind (obeys_attempted obeys_verify) fun g' verified along => ?_
  cases verified with
  | ok u => exact ⟨along.1, rfl⟩
  | error e =>
    simp only
    split
    · exact obeys_reconcileAndRaise named
    · trivial

/-! ### `cancel_pending` -/

variable {current : DurableInteractionSnapshot}

theorem obeys_recordCancelled {c : CancelCall} {e : JournalEntry} :
    Obeys ((sessionWatch host A).of role) g (c.recordCancelled host current j e) fun _ recorded =>
      ∀ out, recorded = some out → ∃ receipt, Submitted host A current.request receipt ∧
        recordInteractionReceipt host.interaction j.toDict (.built receipt) = .ok out := by
  rw [CancelCall.recordCancelled]
  split
  · rintro out ⟨⟩
  · refine ⟨trivial, fun answer => ?_⟩
    cases answer with
    | error e => trivial
    | ok now =>
      refine obeys_lift_bind fun _ same => ?_
      cases same
      refine obeys_lift_bind fun receipt built => ?_
      refine obeys_lift_bind fun recorded ran => ?_
      rintro out ⟨⟩
      exact ⟨receipt, .cancelled built, ran⟩

theorem obeys_cancelPending (c : CancelCall) :
    Obeys ((sessionWatch host A).of role) g (cancelPending host c) fun _ _ => True := by
  refine obeys_lift_bind fun c _ => ?_
  rw [CancelCall.run]
  refine obeys_bind obeys_loadInteraction fun g' current loaded => ?_
  obtain ⟨named, loaded⟩ := loaded
  refine obeys_lift_bind fun _ _ => ?_
  refine obeys_lift_bind fun checkpoint held => ?_
  refine obeys_lift_bind fun j journal => ?_
  refine obeys_lift_bind fun e active => ?_
  refine obeys_bind (obeys_along obeys_recordCancelled) fun g'' recorded along => ?_
  refine obeys_lift_bind fun marked ran => ?_
  obtain ⟨applied, flag⟩ := marked
  obtain ⟨sub, written⟩ := along
  obtain ⟨j', e', entry⟩ := loaded.entry
  obtain rfl := Except.ok.inj (entry.journal.symm.trans journal)
  have found : j'.entry current.request.interactionId = some e := by
    simp only [requireActiveEntry] at active
    split at active
    · next there =>
        cases active
        exact there
    · cases active
  obtain rfl := Option.some.inj (entry.found.symm.trans found)
  have read : currentCheckpoint host.interaction current.sessionSnapshot.state =
      .ok (some checkpoint) := by
    simp only [CancelCall.checkpoint, bind_iff] at held
    obtain ⟨found, read, held⟩ := held
    cases found with
    | none => cases held
    | some v =>
      simp only [bind_iff, raiseIf_ok, exists_const, pure_iff] at held
      obtain ⟨-, rfl⟩ := held
      exact read
  have advances : Advances host A current.sessionSnapshot.state (dropCheckpoint applied) :=
    advances_cancelled read journal found entry.request.symm written ran
  obtain ⟨revision, held, mem⟩ := loaded.seen.revision
  show Obeys _ g'' (c.write host current (dropCheckpoint applied)) fun _ _ => True
  rw [CancelCall.write, held]
  refine obeys_bind (obeys_attempted
    (obeys_saveInteractionSessionState named (sub mem) advances)) fun _ saved _ => ?_
  cases saved with
  | ok persisted =>
    refine obeys_bind obeys_loadInteraction fun _ cancelled _ => ?_
    split
    · trivial
    · split
      · trivial
      · trivial
  | error e =>
    simp only
    split
    · refine obeys_bind obeys_loadInteraction fun _ winner _ => ?_
      split
      · trivial
      · split
        · trivial
        · trivial
    · trivial

/-! ### `record_receipt` -/

variable {normalized : Value}

theorem agreed_of_equal {c : RecordCall} {first : JournalEntry}
    (shown : Shown host g c.sessionId c.interactionId first)
    (normal : normalizeInteractionResponse host first.request c.response = .ok normalized)
    (loaded : LoadedFrom host g c.sessionId (some c.interactionId) a)
    (named : c.interactionId.isEmpty = false) (same : alreadyAnswered a normalized = true) :
    ∃ first last normalized r, Agreed host c g a first last normalized r := by
  obtain ⟨j, e, entry⟩ := loaded.entry
  have last := loaded.shown entry
  rw [loaded.named _ rfl named] at last
  simp only [alreadyAnswered, Option.any_eq_true_iff_get] at same
  obtain ⟨isSome, same⟩ := same
  obtain ⟨r, given⟩ := Option.isSome_iff_exists.mp isSome
  refine ⟨first, e, normalized, r, shown, last, entry.request, entry.receipt ▸ given, given, normal,
    .equal ?_⟩
  simpa [given] using same

variable {c : RecordCall}

theorem Agreed.mono {g' : Told} {a : DurableInteractionSnapshot} {first last : JournalEntry}
    {normalized : Value} {r : InteractionReceipt} (h : Agreed host c g a first last normalized r)
    (sub : g.seen ⊆ g'.seen) : Agreed host c g' a first last normalized r := by
  refine { h with
    shownFirst := h.shownFirst.mono sub, shownLast := h.shownLast.mono sub, taken := ?_ }
  cases h.taken with
  | equal same => exact .equal same
  | replayed built same => exact .replayed built same
  | written built shown recorded => exact .written built (shown.mono sub) recorded

structure Ready (host : RuntimeHost) (A : RecordCall → Prop) (c : RecordCall) (g : Told)
    (current : DurableInteractionSnapshot) (normalized : Value) : Prop where
  asked : A c
  named : c.sessionId.isEmpty = false
  loaded : LoadedFrom host g c.sessionId (some c.interactionId) current
  normal : normalizeInteractionResponse host current.request c.response = .ok normalized

theorem Ready.mono {g' : Told} {current : DurableInteractionSnapshot} {normalized : Value}
    (h : Ready host A c g current normalized) (sub : g.seen ⊆ g'.seen) :
    Ready host A c g' current normalized :=
  { h with loaded := { h.loaded with seen := h.loaded.seen.mono sub } }

/-- The entry the call found first. -/
theorem Ready.first (h : Ready host A c g current normalized)
    (named : c.interactionId.isEmpty = false) : ∃ first, first.request = current.request ∧
      Shown host g c.sessionId c.interactionId first := by
  obtain ⟨j, e, entry⟩ := h.loaded.entry
  have shown := h.loaded.shown entry
  rw [h.loaded.named _ rfl named] at shown
  exact ⟨e, entry.request.symm, shown⟩

section

variable (ready : Ready host A c g current normalized)

include ready

theorem obeys_yieldToWinner {e : PyError} :
    Obeys ((sessionWatch host A).of role) g (c.yieldToWinner host normalized fence e) (c.Post host) := by
  refine obeys_bind (obeys_along obeys_loadInteraction) fun g' winner loaded => ?_
  obtain ⟨sub, -, loaded⟩ := loaded
  split
  · next same =>
      refine (obeys_verifyAndReturn ready.named).mono ?_
      rintro g'' a ⟨sub', rfl⟩ named
      obtain ⟨first, request, shown⟩ := (ready.mono sub).first named
      obtain ⟨first, last, normalized, r, agreed⟩ :=
        agreed_of_equal shown (request.symm ▸ ready.normal) loaded named same
      exact ⟨first, last, normalized, r, agreed.mono sub'⟩
  · trivial

variable {now : Int} {receipt : InteractionReceipt}

/-- After its write came through, the call returns what is stored then. -/
theorem obeys_verifyWrite (built : buildInteractionReceipt host.interaction (.built current.request) normalized
      c.submittedBy now = .ok receipt) {persisted : SessionSnapshot}
    (written : c.interactionId.isEmpty = false → ∃ e,
      Shown host g c.sessionId c.interactionId e ∧ e.receipt = some receipt) :
    Obeys ((sessionWatch host A).of role) g (c.verify host receipt persisted) (c.Post host) := by
  refine obeys_bind (obeys_along obeys_loadInteraction) fun g' verified loaded => ?_
  obtain ⟨sub, -, loaded⟩ := loaded
  split
  · next r same =>
      intro named
      obtain ⟨given, -⟩ := Option.filter_eq_some_iff.mp same
      obtain ⟨first, request, shown⟩ := (ready.mono sub).first named
      obtain ⟨j, e, entry⟩ := loaded.entry
      have last := loaded.shown entry
      rw [loaded.named _ rfl named] at last
      obtain ⟨own, here, recorded⟩ := written named
      exact ⟨first, e, normalized, r, shown, last, entry.request, entry.receipt ▸ given, given,
        request.symm ▸ ready.normal, .written (request.symm ▸ built) (here.mono sub) recorded⟩
  · split
    · split
      · trivial
      · trivial
    · trivial

variable {updated : Value}

theorem obeys_writeReceipt (built : buildInteractionReceipt host.interaction (.built current.request) normalized
      c.submittedBy now = .ok receipt)
    (journal : readJournal host.interaction (current.sessionSnapshot.get interactionJournalKey) =
      .ok j)
    (ran : recordInteractionReceipt host.interaction j.toDict (.built receipt) = .ok updated)
    (fresh : updated.eqPy j.toDict = false) : Obeys ((sessionWatch host A).of role) g
      (c.write host current fence normalized receipt updated) (c.Post host) := by
  refine obeys_lift_bind fun _ ensured => ?_
  obtain ⟨j', e, entry⟩ := ready.loaded.entry
  obtain rfl := Except.ok.inj (entry.journal.symm.trans journal)
  obtain ⟨revision, held, mem⟩ := ready.loaded.seen.revision
  have submitted : Submitted host A current.request receipt :=
    .answer ready.asked (fun named => (ready.loaded.named _ rfl named).symm) ready.normal built
  have advances : Advances host A current.sessionSnapshot.state
      (Assoc.set interactionJournalKey updated current.sessionSnapshot.state) :=
    advances_submit journal entry.found entry.request.symm submitted ran
  simp only [expected_of_ensured held ensured]
  refine obeys_bind (obeys_attempted
    (obeys_saveInteractionSessionState ready.named mem advances)) fun g' saved along => ?_
  obtain ⟨sub, saved'⟩ := along
  cases saved with
  | ok persisted =>
    obtain ⟨state, seen⟩ := saved' persisted rfl
    refine obeys_verifyWrite (ready.mono sub) built ?_
    intro named
    obtain ⟨rev, -, there⟩ := seen.revision
    rw [state] at there
    -- what was written holds the receipt, since the journal did change
    have fixed := readJournal_fixed journal
    obtain ⟨bound, j₁, read, rfl, fixed₁, records⟩ := record_ok fixed ran
    have requestFixed := entry.request ▸
      (entryFixed fixed entry.found).request
    obtain ⟨receiptFixed, id, -⟩ := buildInteractionReceipt_ok requestFixed built
    obtain rfl := Except.ok.inj (receiptFixed.make.symm.trans read)
    cases records with
    | known =>
      rw [eqPy_self fixed.strict] at fresh
      cases fresh
    | @fresh e₁ found answers unanswered =>
      rw [id, ready.loaded.named _ rfl named] at fixed₁ there
      let answered : JournalEntry := { e₁ with receipt := some receipt }
      refine ⟨answered, ⟨_, rev,
        { j' with entries := Assoc.set c.interactionId answered j'.entries }, there, ?_,
        Assoc.get_set_self _ _ _⟩, rfl⟩
      simp only [Value.get, Value.entries, Assoc.get_set_self]
      exact fixed₁.read
  | error e =>
    simp only
    split
    · exact obeys_reconcileAndRaise ready.named
    · split
      · exact obeys_yieldToWinner (ready.mono sub)
      · trivial

theorem agreed_of_replayed (built : buildInteractionReceipt host.interaction (.built current.request) normalized
      c.submittedBy now = .ok receipt)
    (journal : readJournal host.interaction (current.sessionSnapshot.get interactionJournalKey) =
      .ok j)
    (ran : recordInteractionReceipt host.interaction j.toDict (.built receipt) = .ok updated)
    (replay : updated.eqPy j.toDict = true) (returned : c.replayed host current j = .ok a)
    (named : c.interactionId.isEmpty = false) :
    ∃ first last normalized r, Agreed host c g a first last normalized r := by
  obtain ⟨j', e, entry⟩ := ready.loaded.entry
  obtain rfl := Except.ok.inj (entry.journal.symm.trans journal)
  have id := ready.loaded.named _ rfl named
  have fixed := readJournal_fixed journal
  have entryFixed := entryFixed fixed entry.found
  have requestFixed := entry.request ▸ entryFixed.request
  have shown := ready.loaded.shown entry
  rw [id] at shown
  have found := entry.found
  rw [id] at found
  simp only [RecordCall.replayed, found, bind_iff, pure_iff] at returned
  obtain ⟨r, received, rfl⟩ := returned
  obtain ⟨read, -⟩ := (receipt_fromDict_ok requestFixed.built).mp received
  cases given : e.receipt with
  | none =>
    rw [given] at read
    cases read
  | some held =>
    rw [given] at read
    obtain ⟨heldFixed, -⟩ := entryFixed.receipt held given
    obtain rfl := Except.ok.inj (heldFixed.read.symm.trans read)
    obtain ⟨bound, j₁, read, rfl, fixed₁, records⟩ := record_ok fixed ran
    obtain ⟨receiptFixed, answers, -⟩ := buildInteractionReceipt_ok requestFixed built
    obtain rfl := Except.ok.inj (receiptFixed.make.symm.trans read)
    refine ⟨e, e, normalized, held, shown, shown, entry.request, given, rfl,
      entry.request ▸ ready.normal, ?_⟩
    cases records with
    | @known e₁ r₁ found₁ answers₁ given₁ same =>
      rw [answers] at found₁
      obtain rfl := Option.some.inj (entry.found.symm.trans found₁)
      obtain rfl := Option.some.inj (given.symm.trans given₁)
      exact .replayed (entry.request ▸ built) same
    | @fresh e₁ found₁ answers₁ unanswered =>
      rw [answers] at found₁
      obtain rfl := Option.some.inj (entry.found.symm.trans found₁)
      rw [given] at unanswered
      cases unanswered

theorem obeys_record :
    Obeys ((sessionWatch host A).of role) g (c.record host current fence normalized) (c.Post host) := by
  refine ⟨trivial, fun answer => ?_⟩
  cases answer with
  | error e => trivial
  | ok now =>
    refine obeys_lift_bind fun _ same => ?_
    cases same
    refine obeys_lift_bind fun receipt built => ?_
    refine obeys_lift_bind fun j journal => ?_
    refine obeys_lift_bind fun updated ran => ?_
    split
    · next replay =>
        refine obeys_bind (obeys_attempted obeys_verify) fun g' verified along => ?_
        cases verified with
        | error e =>
          simp only
          split
          · exact obeys_reconcileAndRaise ready.named
          · trivial
        | ok u =>
          refine obeys_lift fun a returned named => ?_
          exact agreed_of_replayed (ready.mono along.1) built journal ran replay returned named
    · next fresh =>
        exact obeys_writeReceipt ready built journal ran (by simpa using fresh)

end

theorem obeys_recordReceipt (asked : A c) :
    Obeys ((sessionWatch host A).of role) g (recordReceipt host c) (c.Post host) := by
  refine obeys_bind obeys_loadInteraction fun g' current loaded => ?_
  obtain ⟨named, loaded⟩ := loaded
  refine obeys_lift_bind fun fence _ => ?_
  refine obeys_lift_bind fun normalized normal => ?_
  have ready : Ready host A c g' current normalized := ⟨asked, named, loaded, normal⟩
  split
  · next same =>
      refine (obeys_verifyAndReturn named).mono ?_
      rintro g'' a ⟨sub, rfl⟩ id
      obtain ⟨first, request, shown⟩ := ready.first id
      obtain ⟨first, last, normalized, r, agreed⟩ :=
        agreed_of_equal shown (request.symm ▸ normal) loaded id same
      exact ⟨first, last, normalized, r, agreed.mono sub⟩
  · exact obeys_record ready

attribute [local irreducible] recordReceipt cancelPending

theorem obeys_run (hex : HexDigests host.interaction)
    (keeps : KeepsReserved host) (call : SessionCall) (asked : ∀ c, call = .recordReceipt c → A c) :
    Obeys ((sessionWatch host A).of call) (sessionWatch host A).start (call.run host)
      (call.Post host) := by
  cases call with
  | saveCheckpoint c => exact obeys_bind (obeys_saveCheckpoint hex c) fun _ _ _ => trivial
  | clearCheckpoint c => exact obeys_bind (obeys_clearCheckpoint c) fun _ _ _ => trivial
  | commitMessages c => exact obeys_bind (obeys_commit keeps c) fun _ _ _ => trivial
  | recordReceipt c =>
    exact obeys_bind (obeys_recordReceipt (asked c rfl)) fun _ _ agreed => agreed
  | cancelPending c =>
    exact obeys_bind (obeys_cancelPending c) fun _ _ _ => trivial
  | reconcile s submittedBy =>
    exact obeys_bind obeys_anyReconcile fun _ _ _ => trivial

end Obeys

end Unchain.Interaction
