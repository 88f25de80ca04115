import Unchain.Interaction.Bound

/-!
Every write of the session runtime advances a bound document.

One lemma for each function that computes the next document, whatever its arguments are.
-/

namespace Unchain.Interaction

open Lib Lib.Effect Memory Python

/-- A context strategy leaves the fields of the runtime alone. -/
def KeepsReserved (host : RuntimeHost) : Prop :=
  ∀ state conversation out, host.commitStrategy state conversation = .ok out →
    ∀ key ∈ [interactionJournalKey, executionCheckpointKey], Assoc.get key out = Assoc.get key state

variable {host : RuntimeHost} {A : RecordCall → Prop} {doc doc' : Dict} {j j' : Journal}

theorem Bound.congr (h : Bound host A doc j)
    (same : ∀ key ∈ [interactionJournalKey, executionCheckpointKey],
      Assoc.get key doc' = Assoc.get key doc) : Bound host A doc' j := by
  have journal := same interactionJournalKey (by simp)
  have checkpoint := same executionCheckpointKey (by simp)
  refine ⟨h.toRecorded.congr journal, ?_, ?_⟩
  · intro v stored
    exact h.validated v (checkpoint ▸ stored)
  · intro id active
    obtain ⟨v, e, refers⟩ := h.active id active
    exact ⟨v, e, { refers with stored := checkpoint.trans refers.stored }⟩

theorem Bound.idle (h : Bound host A doc j)
    (absent : ∀ v, Assoc.get executionCheckpointKey doc = some v → hasInteractionRef v = false) :
    j.activeId = none := by
  cases active : j.activeId with
  | none => rfl
  | some id =>
    obtain ⟨v, e, refers⟩ := h.active id active
    have missing := absent v refers.stored
    rw [refers.reference] at missing
    cases missing

variable {e : JournalEntry} {receipt : InteractionReceipt} {request : InteractionRequest}

theorem Bound.submit (h : Bound host A doc j) (found : j.entry request.interactionId = some e)
    (asked : e.request = request) (submitted : Submitted host A request receipt) {out : Value}
    (ran : recordInteractionReceipt host.interaction j.toDict (.built receipt) = .ok out) :
    ∃ j', Bound host A (Assoc.set interactionJournalKey out doc) j' ∧ Records j receipt j' := by
  obtain ⟨j', rfl, records, recorded⟩ := h.toRecorded.record found asked submitted ran
  exact ⟨j', h.record records recorded, records⟩

variable {recorded : Option Value}

theorem Bound.putCancelled (h : Bound host A doc j) (found : j.entry request.interactionId = some e)
    (asked : e.request = request)
    (written : ∀ out, recorded = some out → ∃ receipt, Submitted host A request receipt ∧
      recordInteractionReceipt host.interaction j.toDict (.built receipt) = .ok out) :
    ∃ j', Bound host A (putJournal doc recorded) j' ∧ Extends j j' ∧
      Assoc.get executionCheckpointKey (putJournal doc recorded) =
        Assoc.get executionCheckpointKey doc := by
  cases recorded with
  | none => exact ⟨j, h, .refl j, rfl⟩
  | some out =>
    obtain ⟨receipt, submitted, ran⟩ := written out rfl
    obtain ⟨j', bound, records⟩ := h.submit found asked submitted ran
    refine ⟨j', bound, records.extends, ?_⟩
    rw [putJournal, Assoc.get_set_of_ne (by decide)]

variable {applied : Dict} {appliedId : String} {checkpoint : Value} {flag : Bool}

theorem Bound.clears (h : Bound host A doc j)
    (stored : Assoc.get executionCheckpointKey doc = some checkpoint)
    (ran : applyCheckpointInteractionReceipt host.interaction doc checkpoint appliedId =
      .ok (applied, flag)) : ∃ j', Bound host A (dropCheckpoint applied) j' ∧ Extends j j' := by
  obtain ⟨j', recorded, longer, idle, -⟩ := h.applied stored ran
  exact ⟨j', recorded.dropped idle, longer⟩

theorem advances_submit (journal : readJournal host.interaction
      ((Value.dict doc).get interactionJournalKey) = .ok j)
    (found : j.entry request.interactionId = some e) (asked : e.request = request)
    (submitted : Submitted host A request receipt) {out : Value}
    (ran : recordInteractionReceipt host.interaction j.toDict (.built receipt) = .ok out) :
    Advances host A doc (Assoc.set interactionJournalKey out doc) := by
  intro j' h
  obtain rfl := Except.ok.inj (h.journal.symm.trans journal)
  obtain ⟨j', bound, records⟩ := h.submit found asked submitted ran
  exact ⟨j', bound, records.extends⟩

/-! ### Cancellations -/

theorem advances_cancelled (read : currentCheckpoint host.interaction doc = .ok (some checkpoint))
    (journal : readJournal host.interaction ((Value.dict doc).get interactionJournalKey) = .ok j)
    (found : j.entry request.interactionId = some e) (asked : e.request = request)
    (written : ∀ out, recorded = some out → ∃ receipt, Submitted host A request receipt ∧
      recordInteractionReceipt host.interaction j.toDict (.built receipt) = .ok out)
    (marked : applyCheckpointInteractionReceipt host.interaction (putJournal doc recorded) checkpoint
      appliedId = .ok (applied, flag)) : Advances host A doc (dropCheckpoint applied) := by
  intro j₀ h
  obtain rfl := Except.ok.inj (h.journal.symm.trans journal)
  obtain ⟨j₁, bound, longer, same⟩ := h.putCancelled found asked written
  obtain ⟨j₂, cleared, longer'⟩ := bound.clears (same.trans (h.current read)) marked
  exact ⟨j₂, cleared, longer.trans longer'⟩

variable {state : Dict}

theorem advances_reconciled (read : currentCheckpoint host.interaction doc = .ok (some checkpoint))
    {cancellation : ExecutionCancellation} {submittedBy : String}
    (ran : reconciledState host doc checkpoint cancellation submittedBy = .ok state) :
    Advances host A doc state := by
  rw [reconciledState] at ran
  split at ran
  · simp only [bind_iff, pure_iff] at ran
    obtain ⟨j, journal, e, found, recorded, cancelled, ⟨applied, flag⟩, marked, rfl⟩ := ran
    have entry : j.entry (textOf (refInteractionId checkpoint)) = some e := by
      simp only [requireCancelledEntry] at found
      split at found
      · next there =>
          split at found
          · cases found
            exact there
          · cases found
      · cases found
    have fixed := entryFixed (readJournal_fixed journal) entry
    rw [← fixed.keyed] at entry
    refine advances_cancelled read journal entry rfl ?_ marked
    rintro out rfl
    simp only [recordCancellation] at cancelled
    split at cancelled
    · cases cancelled
    · simp only [bind_iff, pure_iff, Option.some.injEq] at cancelled
      obtain ⟨receipt, built, out', ran, rfl⟩ := cancelled
      rw [buildInteractionReceipt_raw fixed.request] at built
      exact ⟨receipt, .cancelled built, ran⟩
  · next absent =>
      intro j h
      cases ran
      have stored := h.current read
      refine ⟨j, h.toRecorded.dropped (h.idle ?_), .refl j⟩
      intro v there
      obtain rfl := Option.some.inj (stored.symm.trans there)
      simpa using absent

/-! ### Saving a checkpoint -/

variable {current : Option Value} {retry : Bool} {snapshot : SessionSnapshot} {validated : Value}

theorem get_putDomain {c : SaveCall} {out : Dict}
    (ran : c.putDomain host validated snapshot current retry state = .ok out) {key : String}
    (ne : key ≠ executionCheckpointDomainKey) : Assoc.get key out = Assoc.get key state := by
  simp only [SaveCall.putDomain] at ran
  split at ran
  · cases ran
    rw [Assoc.get_erase_of_ne ne]
  · simp only [bind_iff, raiseIf_ok, exists_const] at ran
    obtain ⟨-, ran⟩ := ran
    split at ran
    · simp only [bind_iff, pure_iff] at ran
      obtain ⟨existing, -, rfl⟩ := ran
      split
      · rw [Assoc.get_set_of_ne ne]
      · split
        · rw [Assoc.get_erase_of_ne ne]
        · rw [Assoc.get_set_of_ne ne]
    · cases ran
      rw [Assoc.get_erase_of_ne ne]

structure Registered (host : InteractionHost) (checkpoint : Value)
    (given : Given InteractionRequest) (j : Journal) (bound : InteractionRequest)
    (e : JournalEntry) : Prop where
  asked : InteractionRequest.fromDict host given = .ok bound
  binding : validateCheckpointRequestBinding checkpoint bound = .ok ()
  reference : hasInteractionRef checkpoint = true
  named : refInteractionId checkpoint = .str bound.interactionId
  active : j.activeId = some bound.interactionId
  found : j.entry bound.interactionId = some e
  unapplied : e.application = none
  checkpointId : checkpoint.get "checkpoint_id" = .str e.checkpointId
  remembers : Remembers host j (.register (.built bound) (.str (checkpointIdOf checkpoint)))

theorem Bound.registered (hex : HexDigests host.interaction) (h : Bound host A doc j)
    (valid : Validated host.interaction checkpoint) {request : Given InteractionRequest}
    (ran : registerCheckpointInteractionRequest host.interaction doc checkpoint request =
      .ok state) : ∃ j' bound e, state = Assoc.set interactionJournalKey j'.toDict doc ∧
      Recorded host A state j' ∧ Extends j j' ∧
      Registered host.interaction checkpoint request j' bound e := by
  simp only [registerCheckpointInteractionRequest, readRegistration, bind_iff,
    except_mapError_eq, raiseIf_ok, exists_const, pure_iff] at ran
  obtain ⟨_, ⟨bound, asked, _, binding, journal, read, rfl⟩, retired, prior, journal₁, again,
    fresh, out, registered, rfl⟩ := ran
  obtain rfl := Except.ok.inj (h.journal.symm.trans read)
  have bindingOk := binding
  simp only [validateCheckpointRequestBinding, bind_iff, raiseIf_ok, exists_const] at binding
  obtain ⟨reference, named, -⟩ := binding
  simp only [Bool.not_eq_false', Bool.or_eq_false_iff] at reference named
  have named := Value.eqPy_str_iff.mp named.1
  -- the journal after the prior interaction was applied
  obtain ⟨j₁, rfl, recorded₁, longer₁⟩ : ∃ j₁, retired = j₁.toDict ∧
      Recorded host A (Assoc.set interactionJournalKey retired doc) j₁ ∧ Extends j j₁ := by
    simp only [retirePrior] at prior
    split at prior
    · cases prior
      exact ⟨j, rfl, recorded_set h.fixed h.submitted, .refl j⟩
    · simp only [bind_iff, except_mapError_eq, raiseIf_ok, exists_const] at prior
      obtain ⟨current, -, -, receipt, -, marked⟩ := prior
      obtain ⟨id, receiptId, checkpointId, j₁, -, rfl, applies, recorded⟩ :=
        h.toRecorded.apply marked
      exact ⟨j₁, rfl, recorded, applies.extends⟩
  obtain rfl := Except.ok.inj (recorded₁.fixed.read.symm.trans again)
  obtain ⟨bound', checkpointId, j₂, asked', bounded, rfl, fixed₂, registers⟩ :=
    register_ok recorded₁.fixed registered
  have requestFixed := InteractionRequest.fromDict_fixed asked
  obtain rfl := Except.ok.inj (requestFixed.built.symm.trans asked')
  obtain rfl := valid.checkpointId_required hex bounded
  have recorded₂ : Recorded host A (Assoc.set interactionJournalKey j₂.toDict doc) j₂ := by
    refine recorded_set fixed₂ ?_
    cases registers with
    | known => exact recorded₁.submitted
    | fresh absent idle =>
      intro id e r there given
      by_cases same : id = bound.interactionId
      · subst same
        obtain rfl := Option.some.inj
          (there.symm.trans (Assoc.get_set_self bound.interactionId _ _))
        cases given
      · exact recorded₁.submitted id e r (by simpa [Journal.entry, same] using there) given
  have active : j₂.activeId = some bound.interactionId ∧
      ∃ e, j₂.entry bound.interactionId = some e ∧ e.checkpointId = checkpointIdOf checkpoint ∧
        e.application = none ∧ (Value.dict e.request.toDict).eqPy (.dict bound.toDict) = true := by
    cases registers with
    | @known e found same bound' =>
      have unapplied : e.application = none := by
        have open' := fresh
        rw [found] at open'
        simpa using open'
      have pending : bound.interactionId ∈ j₁.pending :=
        (mem_pending recorded₁.fixed.distinct).mpr ⟨e, found, unapplied⟩
      rw [recorded₁.fixed.pending_eq] at pending
      exact ⟨by simpa using pending, e, found, bound', unapplied, same⟩
    | fresh absent idle =>
      exact ⟨rfl, _, Assoc.get_set_self _ _ _, rfl, rfl, eqPy_self requestFixed.strict⟩
  obtain ⟨active, e, found, same, unapplied, request'⟩ := active
  refine ⟨j₂, bound, e, rfl, recorded₂, longer₁.trans registers.extends, asked, bindingOk, reference,
    named, active, found, unapplied, ?_, ?_⟩
  · rw [same, valid.checkpointId_eq]
  · exact ⟨bound, checkpointIdOf checkpoint, e, requestFixed.built, bounded, found, request', same⟩

theorem advances_save (hex : HexDigests host.interaction) {c : SaveCall}
    (valid : Validated host.interaction validated) (checked : c.check validated = .ok ())
    (read : currentCheckpoint host.interaction snapshot.state = .ok current)
    (ran : c.nextState host validated snapshot current retry = .ok state) :
    Advances host A snapshot.state state := by
  intro j h
  simp only [SaveCall.nextState, bind_iff] at ran
  obtain ⟨journaled, moved, owned⟩ := ran
  have stored := h.current read
  simp only [SaveCall.check, bind_iff, raiseIf_ok, exists_const] at checked
  have journal : Assoc.get interactionJournalKey state =
      Assoc.get interactionJournalKey journaled := by
    rw [get_putDomain owned (by decide), Assoc.get_set_of_ne (by decide)]
  have checkpoint : Assoc.get executionCheckpointKey state = some validated := by
    rw [get_putDomain owned (by decide), Assoc.get_set_self]
  have allValid : ∀ v, Assoc.get executionCheckpointKey state = some v →
      Validated host.interaction v := by
    intro v there
    obtain rfl := Option.some.inj (checkpoint.symm.trans there)
    exact valid
  simp only [SaveCall.moveJournal] at moved
  split at moved
  · obtain ⟨j', bound, e, -, recorded, longer, registered⟩ := h.registered hex valid moved
    refine ⟨j', ⟨recorded.congr journal, allValid, ?_⟩, longer⟩
    intro id' active'
    obtain rfl := Option.some.inj (registered.active.symm.trans active')
    exact ⟨validated, e, checkpoint, registered.reference, registered.named, registered.found,
      registered.checkpointId⟩
  · split at moved
    · next current' held =>
        simp only [bind_iff, pure_iff] at moved
        obtain ⟨⟨applied, flag⟩, marked, rfl⟩ := moved
        obtain ⟨rfl, -⟩ := Option.filter_eq_some_iff.mp held
        obtain ⟨j', recorded, longer, idle, -⟩ := h.applied stored marked
        exact ⟨j', (recorded.congr journal).bound_of_idle idle allValid, longer⟩
    · next none =>
        cases moved
        have idle : j.activeId = Option.none := by
          apply h.idle
          intro v there
          rw [← stored, there] at none
          simpa using none
        exact ⟨j, (h.toRecorded.congr journal).bound_of_idle idle allValid, .refl j⟩

/-! ### Clearing and committing -/

theorem advances_clear {c : ClearCall} {id : String}
    (ran : c.nextState host snapshot = .ok (state, flag, id)) :
    Advances host A snapshot.state state := by
  intro j h
  simp only [ClearCall.nextState, bind_iff, raiseIf_ok, exists_const, pure_iff] at ran
  obtain ⟨current, validate, -, ⟨applied, flag'⟩, marked, same⟩ := ran
  cases same
  have stored : Assoc.get executionCheckpointKey snapshot.state = some current := by
    simp only [SessionSnapshot.get, Value.get, Value.entries] at validate
    cases there : Assoc.get executionCheckpointKey snapshot.state with
    | none =>
      rw [there] at validate
      cases validate
    | some v =>
      rw [there] at validate
      rw [← Except.ok.inj ((h.validated v there).validate.symm.trans validate)]
  exact h.clears stored marked

theorem advances_commit_clear {c : CommitCall} (ran : c.clear host doc = .ok state) :
    Advances host A doc state := by
  intro j h
  simp only [CommitCall.clear] at ran
  split at ran
  · simp only [clearForCommit, bind_iff, raiseIf_ok, exists_const] at ran
    obtain ⟨current, read, -, ran⟩ := ran
    have stored := h.current read
    cases current with
    | none =>
      cases ran
      refine ⟨j, h.toRecorded.dropped (h.idle ?_), .refl j⟩
      intro v there
      rw [stored] at there
      cases there
    | some current =>
      simp only [bind_iff, pure_iff] at ran
      obtain ⟨⟨applied, flag⟩, marked, rfl⟩ := ran
      exact h.clears stored marked
  · simp only [refuseCheckpoint] at ran
    split at ran
    · simp only [bind_iff] at ran
      obtain ⟨_, -, ⟨⟩⟩ := ran
    · cases ran
      exact ⟨j, h, .refl j⟩

theorem get_fill (keeps : KeepsReserved host) {c : CommitCall} (ran : c.fill host doc = .ok state) :
    ∀ key ∈ [interactionJournalKey, executionCheckpointKey],
      Assoc.get key state = Assoc.get key doc := by
  intro key mem
  simp only [CommitCall.fill, bind_iff, pure_iff] at ran
  obtain ⟨committed, strategy, rfl⟩ := ran
  have kept := keeps _ _ _ strategy key mem
  have messages : key ≠ "messages" ∧ key ≠ "summary" ∧ ∀ field : IndexField, key ≠ field.key := by
    simp only [List.mem_cons, List.not_mem_nil, or_false] at mem
    rcases mem with rfl | rfl
    · refine ⟨by decide, by decide, ?_⟩
      intro field
      cases field <;> decide
    · refine ⟨by decide, by decide, ?_⟩
      intro field
      cases field <;> decide
  obtain ⟨notMessages, notSummary, notIndexed⟩ := messages
  rw [Assoc.get_set_of_ne notMessages] at kept
  have summary : Assoc.get key (putSummary committed c.summaryText) = Assoc.get key committed := by
    cases c.summaryText with
    | none => rfl
    | some text => rw [putSummary, Assoc.get_set_of_ne notSummary]
  have indexed : ∀ (writes : List (IndexField × Value)) (state : Dict),
      Assoc.get key (writes.foldl (fun state write => Assoc.set write.1.key write.2 state) state) =
        Assoc.get key state := by
    intro writes
    induction writes with
    | nil => exact fun _ => rfl
    | cons write writes ih =>
      intro state
      rw [List.foldl_cons, ih, Assoc.get_set_of_ne (notIndexed write.1)]
  rw [indexed, summary, kept]

theorem advances_commit (keeps : KeepsReserved host) {c : CommitCall}
    (ran : c.nextState host doc = .ok state) : Advances host A doc state := by
  intro j h
  simp only [CommitCall.nextState, bind_iff] at ran
  obtain ⟨cleared, clear, fill⟩ := ran
  obtain ⟨j', bound, longer⟩ := advances_commit_clear clear j h
  exact ⟨j', bound.congr (get_fill keeps fill), longer⟩

end Unchain.Interaction
