import Unchain.Interaction.Runtime
import Unchain.Memory.Validated

/-!
Documents whose active interaction is bound to their checkpoint.

`Bound` is the invariant of a session document: its journal is readable, its checkpoint is its own
validated form, and the active interaction is the one the checkpoint refers to. `Advances` is what
every write of the runtime makes of a bound document: a bound document whose journal extends the
one before.
-/

namespace Unchain.Interaction

open Lib Lib.Effect Memory Python

/-- A call that names an interaction answers no other one. -/
def RecordCall.Addresses (c : RecordCall) (request : InteractionRequest) : Prop :=
  c.interactionId.isEmpty = false → c.interactionId = request.interactionId

inductive Submitted (host : RuntimeHost) (A : RecordCall → Prop) (request : InteractionRequest)
    (receipt : InteractionReceipt) : Prop where
  | answer {c : RecordCall} {normalized : Value} {now : Int} (asked : A c)
      (addressed : c.Addresses request)
      (normal : normalizeInteractionResponse host request c.response = .ok normalized)
      (built : buildInteractionReceipt host.interaction (.built request) normalized c.submittedBy now
        = .ok receipt)
  | cancelled {reason submittedBy : String} {now : Int}
      (built : buildInteractionReceipt host.interaction (.built request) (cancelledResponse reason)
        submittedBy now = .ok receipt)

structure Recorded (host : RuntimeHost) (A : RecordCall → Prop) (doc : Dict) (j : Journal) :
    Prop where
  journal : readJournal host.interaction ((Value.dict doc).get interactionJournalKey) = .ok j
  submitted : ∀ id e r, j.entry id = some e → e.receipt = some r → Submitted host A e.request r

structure RefersTo (doc : Dict) (j : Journal) (id : String) (checkpoint : Value)
    (e : JournalEntry) : Prop where
  stored : Assoc.get executionCheckpointKey doc = some checkpoint
  reference : hasInteractionRef checkpoint = true
  named : refInteractionId checkpoint = .str id
  found : j.entry id = some e
  bound : checkpoint.get "checkpoint_id" = .str e.checkpointId

structure Bound (host : RuntimeHost) (A : RecordCall → Prop) (doc : Dict) (j : Journal) : Prop
    extends Recorded host A doc j where
  validated : ∀ v, Assoc.get executionCheckpointKey doc = some v → Validated host.interaction v
  active : ∀ id, j.activeId = some id → ∃ checkpoint e, RefersTo doc j id checkpoint e

/-- A write that keeps a document bound and its journal growing. -/
def Advances (host : RuntimeHost) (A : RecordCall → Prop) (doc doc' : Dict) : Prop :=
  ∀ j, Bound host A doc j → ∃ j', Bound host A doc' j' ∧ Extends j j'

variable {host : RuntimeHost} {A : RecordCall → Prop} {doc doc' : Dict} {j j' : Journal}

/-! ### Receipts that are built -/

variable {receipt : InteractionReceipt} {request : InteractionRequest}

theorem buildInteractionReceipt_ok (fixed : RequestFixed host.interaction request)
    {response : Value} {submittedBy : String} {now : Int}
    (h : buildInteractionReceipt host.interaction (.built request) response submittedBy now =
      .ok receipt) :
    ReceiptFixed host.interaction receipt ∧ receipt.interactionId = request.interactionId ∧
      strictJsonCopy host.interaction "$.response" response = .ok receipt.response := by
  simp only [buildInteractionReceipt, bind_iff] at h
  obtain ⟨bound, asked, copied, copy, time, -, author, authored, answer, answered, core, cored,
    hash, -, made⟩ := h
  obtain rfl := Except.ok.inj (fixed.built.symm.trans asked)
  refine ⟨InteractionReceipt.make_fixed made, ?_⟩
  simp only [receiptCore, bind_iff, pure_iff] at cored
  obtain ⟨again, same, rfl⟩ := cored
  have strict := strict_of_strictJsonCopy _ copy
  obtain rfl := Except.ok.inj ((strictJsonCopy_of_strict _ _ strict).symm.trans same)
  simp only [InteractionReceipt.make, bind_iff, pure_iff] at made
  obtain ⟨_, -, interactionId, interaction, requestDigest, -, response, responded, made⟩ := made
  obtain ⟨_, -, _, -, _, -, _, -, _, -, _, -, _, -, _, -, _, -, _, -, _, -, rfl⟩ := made
  constructor
  · have named : requiredText "interaction_id" (.str request.interactionId) = .ok interactionId :=
      interaction
    exact Except.ok.inj (named.symm.trans fixed.named)
  · have copied' : strictJsonCopy host.interaction "$.response" copied = .ok response := responded
    rw [copy]
    exact (strictJsonCopy_of_strict _ _ strict).symm.trans copied'

theorem buildInteractionReceipt_raw (fixed : RequestFixed host.interaction request)
    (response : Value) (submittedBy : String) (now : Int) :
    buildInteractionReceipt host.interaction (.raw (.dict request.toDict)) response submittedBy now =
      buildInteractionReceipt host.interaction (.built request) response submittedBy now := by
  rw [buildInteractionReceipt, buildInteractionReceipt, fixed.fromDict, fixed.built]

theorem Submitted.built (h : Submitted host A request receipt) :
    ∃ response submittedBy now, buildInteractionReceipt host.interaction (.built request) response
      submittedBy now = .ok receipt := by
  cases h with
  | answer asked addressed normal built | cancelled built => exact ⟨_, _, _, built⟩

/-! ### Journals -/

theorem Recorded.fixed (h : Recorded host A doc j) : JournalFixed host.interaction j :=
  readJournal_fixed h.journal

variable {e : JournalEntry} {id : String}

theorem entryFixed {host : InteractionHost} (h : JournalFixed host j)
    (found : j.entry id = some e) : EntryFixed host id e :=
  h.entries (id, e) (Assoc.mem_of_get found)

theorem Recorded.congr (h : Recorded host A doc j)
    (same : Assoc.get interactionJournalKey doc' = Assoc.get interactionJournalKey doc) :
    Recorded host A doc' j := by
  refine ⟨?_, h.submitted⟩
  have journal := h.journal
  simp only [Value.get, Value.entries] at journal ⊢
  rw [same]
  exact journal

theorem recorded_set (fixed : JournalFixed host.interaction j)
    (submitted : ∀ id e r, j.entry id = some e → e.receipt = some r →
      Submitted host A e.request r) :
    Recorded host A (Assoc.set interactionJournalKey j.toDict doc) j := by
  refine ⟨?_, submitted⟩
  simp only [Value.get, Value.entries, Assoc.get_set_self]
  exact fixed.read

variable {out : Value}

theorem Recorded.record (h : Recorded host A doc j) (found : j.entry request.interactionId = some e)
    (asked : e.request = request) (submitted : Submitted host A request receipt)
    (ran : recordInteractionReceipt host.interaction j.toDict (.built receipt) = .ok out) :
    ∃ j', out = j'.toDict ∧ Records j receipt j' ∧
      Recorded host A (Assoc.set interactionJournalKey out doc) j' := by
  obtain ⟨bound, j', read, rfl, fixed, records⟩ := record_ok h.fixed ran
  obtain ⟨response, author, now, built⟩ := submitted.built
  have requestFixed := asked ▸ (entryFixed h.fixed found).request
  obtain ⟨receiptFixed, named, -⟩ := buildInteractionReceipt_ok requestFixed built
  obtain rfl := Except.ok.inj (receiptFixed.make.symm.trans read)
  refine ⟨j', rfl, records, recorded_set fixed ?_⟩
  cases records with
  | known => exact h.submitted
  | @fresh e' found' answers unanswered =>
    rw [named] at found'
    obtain rfl := Option.some.inj (found.symm.trans found')
    intro id e₀ r there given
    by_cases same : id = receipt.interactionId
    · subst same
      obtain rfl : { e with receipt := some receipt } = e₀ := by
        simpa [Journal.entry] using there
      obtain rfl := Option.some.inj given
      exact asked ▸ submitted
    · exact h.submitted id e₀ r (by simpa [Journal.entry, same] using there) given

theorem Applies.idle {host : InteractionHost} (fixed : JournalFixed host j)
    {receiptId checkpoint : String} (h : Applies j id receiptId checkpoint j')
    (only : ∀ a, j.activeId = some a → a = id) : j'.activeId = none := by
  cases h with
  | @known e a found given same =>
    cases active : j.activeId with
    | none => rfl
    | some id' =>
      obtain rfl := only id' active
      have pending : id' ∈ j.pending := by
        rw [fixed.pending_eq, active]
        simp
      obtain ⟨e', found', unapplied⟩ := (mem_pending fixed.distinct).mp pending
      obtain rfl := Option.some.inj (found.symm.trans found')
      rw [given] at unapplied
      cases unapplied
  | fresh => rfl

theorem Recorded.apply (h : Recorded host A doc j)
    {interactionId receiptId appliedCheckpointId : Value}
    (ran : markInteractionApplied host.interaction j.toDict interactionId receiptId
      appliedCheckpointId = .ok out) :
    ∃ id receipt checkpoint j', requiredText "interaction_id" interactionId = .ok id ∧
      out = j'.toDict ∧ Applies j id receipt checkpoint j' ∧
      Recorded host A (Assoc.set interactionJournalKey out doc) j' := by
  obtain ⟨id, receipt, checkpoint, j', named, -, -, rfl, fixed, applies⟩ := apply_ok h.fixed ran
  refine ⟨id, receipt, checkpoint, j', named, rfl, applies, recorded_set fixed ?_⟩
  cases applies with
  | known => exact h.submitted
  | @fresh e r found active answered unapplied =>
    intro id' e₀ r' there given
    by_cases same : id' = id
    · subst same
      obtain rfl : { e with application := some ⟨receipt, checkpoint⟩ } = e₀ := by
        simpa [Journal.entry] using there
      exact h.submitted id' e r' found given
    · exact h.submitted id' e₀ r' (by simpa [Journal.entry, same] using there) given

theorem Recorded.named (h : Recorded host A doc j) {bound : String} (found : j.entry id = some e)
    (named : requiredText "interaction_id" (.str id) = .ok bound) : bound = id := by
  have fixed := entryFixed h.fixed found
  have again := fixed.request.named
  rw [fixed.keyed] at again
  exact Except.ok.inj (named.symm.trans again)

/-! ### Documents -/

theorem Recorded.bound_of_idle (h : Recorded host A doc j) (idle : j.activeId = none)
    (validated : ∀ v, Assoc.get executionCheckpointKey doc = some v →
      Validated host.interaction v) : Bound host A doc j where
  toRecorded := h
  validated := validated
  active id active := by
    rw [idle] at active
    cases active

theorem Bound.record (h : Bound host A doc j) (records : Records j receipt j')
    (recorded : Recorded host A (Assoc.set interactionJournalKey j'.toDict doc) j') :
    Bound host A (Assoc.set interactionJournalKey j'.toDict doc) j' := by
  have key : executionCheckpointKey ≠ interactionJournalKey := by decide
  refine ⟨recorded, ?_, ?_⟩
  · intro v stored
    rw [Assoc.get_set_of_ne key] at stored
    exact h.validated v stored
  · intro id active
    have before : j.activeId = some id := by
      cases records with
      | known => exact active
      | fresh => exact active
    obtain ⟨checkpoint, e, refers⟩ := h.active id before
    obtain ⟨e', found, -, same, -⟩ := records.extends.entry id e refers.found
    refine ⟨checkpoint, e', ?_, refers.reference, refers.named, found, ?_⟩
    · rw [Assoc.get_set_of_ne key]
      exact refers.stored
    · rw [same]
      exact refers.bound

theorem Bound.current (h : Bound host A doc j) {current : Option Value}
    (read : currentCheckpoint host.interaction doc = .ok current) :
    Assoc.get executionCheckpointKey doc = current := by
  simp only [currentCheckpoint, Value.get, Value.entries] at read
  cases stored : Assoc.get executionCheckpointKey doc with
  | none =>
    rw [stored] at read
    cases read
    rfl
  | some v =>
    have valid := h.validated v stored
    have isDict := valid.isDict
    rw [stored] at read
    cases v with
    | dict es =>
      obtain ⟨checkpoint, validate, rfl⟩ := map_ok read
      rw [← Except.ok.inj (valid.validate.symm.trans validate)]
    | _ => cases isDict

theorem except_mapError_eq {f : PyError → PyError} {α : Type} {x : Except PyError α} {a : α} :
    x.mapError f = .ok a ↔ x = .ok a := by
  cases x with
  | ok b => rfl
  | error e => simp [Except.mapError]

theorem Bound.applied (h : Bound host A doc j) {checkpoint : Value}
    (stored : Assoc.get executionCheckpointKey doc = some checkpoint) {appliedId : String}
    {applied : Dict} {flag : Bool}
    (ran : applyCheckpointInteractionReceipt host.interaction doc checkpoint appliedId =
      .ok (applied, flag)) : ∃ j', Recorded host A applied j' ∧ Extends j j' ∧ j'.activeId = none ∧
      Assoc.get executionCheckpointKey applied = some checkpoint := by
  have key : executionCheckpointKey ≠ interactionJournalKey := by decide
  have refers : ∀ id, j.activeId = some id → ∃ e, RefersTo doc j id checkpoint e := by
    intro id active
    obtain ⟨checkpoint', e, refers⟩ := h.active id active
    obtain rfl := Option.some.inj (stored.symm.trans refers.stored)
    exact ⟨e, refers⟩
  rw [applyCheckpointInteractionReceipt] at ran
  split at ran
  · next absent =>
      cases ran
      refine ⟨j, h.toRecorded, .refl j, ?_, stored⟩
      cases active : j.activeId with
      | none => rfl
      | some id =>
        obtain ⟨e, refers⟩ := refers id active
        have reference := refers.reference
        rw [hasInteractionRef] at reference
        cases found : checkpoint.get "interaction_ref" with
        | none =>
          rw [found] at reference
          cases reference
        | _ =>
          rw [found] at absent
          cases absent
  · simp only [bind_iff, except_mapError_eq, raiseIf_ok, exists_const,
      pure_iff] at ran
    obtain ⟨journal, read, e, found, -, receipt, -, out, marked, same⟩ := ran
    obtain rfl := Except.ok.inj (h.journal.symm.trans read)
    cases same
    have entry : j.entry (textOf (refInteractionId checkpoint)) = some e := by
      simp only [requireEntry] at found
      split at found
      · next e' there =>
          cases found
          exact there
      · cases found
    obtain ⟨id, receiptId, checkpointId, j', named, rfl, applies, recorded⟩ :=
      h.toRecorded.apply marked
    obtain rfl := h.toRecorded.named entry named
    refine ⟨j', recorded, applies.extends, applies.idle h.fixed ?_, ?_⟩
    · intro a active
      obtain ⟨_, refers⟩ := refers a active
      rw [refers.named]
      rfl
    · rw [Assoc.get_set_of_ne key]
      exact stored

theorem get_dropCheckpoint (state : Dict) :
    Assoc.get interactionJournalKey (dropCheckpoint state) = Assoc.get interactionJournalKey state ∧
      Assoc.get executionCheckpointKey (dropCheckpoint state) = none := by
  have journalDomain : interactionJournalKey ≠ executionCheckpointDomainKey := by decide
  have journalCheckpoint : interactionJournalKey ≠ executionCheckpointKey := by decide
  have checkpointDomain : executionCheckpointKey ≠ executionCheckpointDomainKey := by decide
  constructor
  · rw [dropCheckpoint, Assoc.get_erase_of_ne journalDomain, Assoc.get_erase_of_ne journalCheckpoint]
  · rw [dropCheckpoint, Assoc.get_erase_of_ne checkpointDomain, Assoc.get_erase_self]

theorem Recorded.dropped (h : Recorded host A doc j) (idle : j.activeId = none) :
    Bound host A (dropCheckpoint doc) j := by
  obtain ⟨journal, checkpoint⟩ := get_dropCheckpoint doc
  refine (h.congr journal).bound_of_idle idle ?_
  intro v stored
  rw [checkpoint] at stored
  cases stored

end Unchain.Interaction
