import Unchain.Interaction.Durable
import Unchain.Lib.History

/-!
The journal of durable interactions as a state machine.

What a constructor or the validator has built, it builds again from its own object: requests,
receipts, entries and journals are fixed points. Every operation that returns leaves a valid
journal that extends the one before and remembers the call, and a remembered call changes nothing
when it is repeated.
-/

namespace Unchain.Interaction

open Lib Lib.Effect Lib.History Python
open Assoc (get_cons get_of_mem get_set_self mem_keys_of_get mem_of_get nodup_keys_set)

variable {host : InteractionHost}

/-! ### The checks, read back -/

variable {name : String} {v : Value}

theorem requiredText_ok {s : String} (h : requiredText name v = .ok s) :
    ∃ raw, v = .str raw ∧ (strip raw).isEmpty = false ∧ s = strip raw := by
  cases v with
  | str raw =>
    simp only [requiredText] at h
    split at h
    · cases h
    · next nonempty =>
        cases h
        exact ⟨raw, rfl, by simpa using nonempty, rfl⟩
  | _ => cases h

theorem requiredText_again {other : String} {s : String} (h : requiredText name v = .ok s) :
    requiredText other (.str s) = .ok s := by
  obtain ⟨raw, -, nonempty, rfl⟩ := requiredText_ok h
  simp [requiredText, strip_strip, nonempty]

/-- The text as it was given passes again. -/
theorem requiredText_textOf {s : String} (h : requiredText name v = .ok s) :
    requiredText name (.str (textOf v)) = .ok s := by
  obtain ⟨raw, rfl, -, -⟩ := requiredText_ok h
  exact h

theorem nonNegativeInt_ok {n : Int} (h : nonNegativeInt name v = .ok n) : v = .int n := by
  cases v with
  | int m =>
    simp only [nonNegativeInt] at h
    split at h
    · cases h
    · cases h
      rfl
  | _ => cases h

theorem validateKind_ok {kind : String} (h : validateKind host v = .ok kind) : v = .str kind := by
  cases v with
  | str s =>
    simp only [validateKind] at h
    split at h
    · cases h
      rfl
    · cases h
  | _ => cases h

/-- A schema version is a number of the value one. -/
theorem strict_of_version (h : foreignVersion v = false) : Strict v := by
  cases v with
  | float x => cases x <;> simp_all [foreignVersion, Value.eqPy, Value.numEq, Value.number?,
      PyFloat.ofInt, PyFloat.eq, Strict, PyFloat.isFinite]
  | bool b => simp [Strict]
  | int n => simp
  | str s => simp
  | none => simp
  | _ => simp [foreignVersion, Value.eqPy] at h

variable {es : Dict}

theorem requireExactFields_of_keys {expected : List String} {label : String}
    (h : (Assoc.keys es).Perm expected) : requireExactFields host es expected label = .ok () := by
  have missing : expected.filter (fun key => !Assoc.has key es) = [] := by
    rw [List.filter_eq_nil_iff]
    intro key mem
    have found : Assoc.has key es = true := Assoc.get_isSome_iff.mpr (h.mem_iff.mpr mem)
    simp [found]
  have unknown : (Assoc.keys es).filter (fun key => !decide (key ∈ expected)) = [] := by
    rw [List.filter_eq_nil_iff]
    intro key mem
    simpa using h.mem_iff.mp mem
  simp [requireExactFields, missing, unknown, sortedBy]

/-! ### Requests -/

/-- A request its constructor would build again. -/
structure RequestFixed (host : InteractionHost) (r : InteractionRequest) : Prop where
  make : InteractionRequest.make host r.toDict = .ok r
  named : requiredText "interaction_id" (.str r.interactionId) = .ok r.interactionId
  strict : Strict (.dict r.toDict)

theorem nodup_requestFields : requestFields.Nodup := by decide +kernel

theorem nodup_receiptFields : receiptFields.Nodup := by decide +kernel

theorem field_toDict (r : InteractionRequest) : field r.toDict "schema_version" = r.schemaVersion ∧
    field r.toDict "interaction_id" = .str r.interactionId ∧
    field r.toDict "session_id" = .str r.sessionId ∧ field r.toDict "kind" = .str r.kind ∧
    field r.toDict "source_run_id" = .str r.sourceRunId ∧
    field r.toDict "occurrence" = .str r.occurrence ∧ field r.toDict "payload" = r.payload ∧
    field r.toDict "response_contract" = r.responseContract ∧
    field r.toDict "schema_digest" = .str r.schemaDigest ∧
    field r.toDict "request_digest" = .str r.requestDigest ∧
    field r.toDict "created_revision" = .int r.createdRevision ∧
    field r.toDict "subject" = r.subject := by
  simp [field, InteractionRequest.toDict, get_cons]

variable {r : InteractionRequest}

theorem InteractionRequest.make_fixed (h : make host es = .ok r) : RequestFixed host r := by
  simp only [make, validateSchemaVersion, bind_iff, raiseIf_ok, exists_const, pure_iff] at h
  obtain ⟨version, sessionId, session, sourceRunId, source, occurrence, occurs, interactionId,
    interaction, kind, known, createdRevision, revision, payload, paid, contract, contracted,
    subject, subjected, schemaDigest, schema, requestDigest, requested, expectedSchema, schemaHash,
    schemaSame, core, cored, expected, hash, same, named, rfl⟩ := h
  have payloadStrict := strict_of_strictJsonCopy _ paid
  have contractStrict := strict_of_strictJsonCopy _ contracted
  have subjectStrict := strict_of_strictJsonCopy _ subjected
  constructor
  · obtain ⟨f1, f2, f3, f4, f5, f6, f7, f8, f9, f10, f11, f12⟩ := field_toDict
      { schemaVersion := field es "schema_version", interactionId, sessionId, kind, sourceRunId,
        occurrence, payload, responseContract := contract,
        schemaDigest := textOf (field es "schema_digest"),
        requestDigest := textOf (field es "request_digest"), createdRevision, subject }
    simp only [make, validateSchemaVersion, bind_iff, raiseIf_ok, exists_const,
      pure_iff, f1, f2, f3, f4, f5, f6, f7, f8, f9, f10, f11, f12]
    rw [validateKind_ok known] at known
    exact ⟨version, sessionId, requiredText_again session, sourceRunId, requiredText_again source,
      occurrence, requiredText_again occurs, interactionId, requiredText_again interaction, kind,
      known, createdRevision, nonNegativeInt_ok revision ▸ revision, payload,
      strictJsonCopy_of_strict _ _ payloadStrict, contract,
      strictJsonCopy_of_strict _ _ contractStrict, subject,
      strictJsonCopy_of_strict _ _ subjectStrict, schemaDigest, requiredText_textOf schema,
      requestDigest, requiredText_textOf requested, expectedSchema, schemaHash, schemaSame, core,
      cored, expected, hash, same, named, rfl⟩
  · exact requiredText_again interaction
  · rw [strict_dict_iff]
    refine ⟨nodup_requestFields, ?_⟩
    simp [InteractionRequest.toDict, strict_of_version version, payloadStrict, contractStrict,
      subjectStrict]

theorem RequestFixed.nonempty (h : RequestFixed host r) : r.interactionId.isEmpty = false := by
  obtain ⟨raw, -, nonempty, same⟩ := requiredText_ok h.named
  rw [same]
  exact nonempty

theorem RequestFixed.built (h : RequestFixed host r) :
    InteractionRequest.fromDict host (.built r) = .ok r := h.make

theorem RequestFixed.fromDict (h : RequestFixed host r) :
    InteractionRequest.fromDict host (.raw (.dict r.toDict)) = .ok r := by
  have fields : requireExactFields host r.toDict requestFields "interaction request" = .ok () :=
    requireExactFields_of_keys (.refl _)
  rw [InteractionRequest.fromDict, strictJsonCopy_of_strict _ _ h.strict]
  exact bind_iff.mpr ⟨_, rfl, bind_iff.mpr ⟨(), fields, h.make⟩⟩

theorem InteractionRequest.fromDict_fixed {g : Given InteractionRequest}
    (h : InteractionRequest.fromDict host g = .ok r) : RequestFixed host r := by
  cases g with
  | built given => exact make_fixed h
  | raw v =>
    cases v with
    | dict es =>
      simp only [fromDict, bind_iff] at h
      obtain ⟨copied, -, _, -, made⟩ := h
      exact make_fixed made
    | _ => cases h

/-! ### Receipts -/

/-- A receipt its constructor would build again. -/
structure ReceiptFixed (host : InteractionHost) (r : InteractionReceipt) : Prop where
  make : InteractionReceipt.make host r.toDict = .ok r
  strict : Strict (.dict r.toDict)

theorem field_receipt (r : InteractionReceipt) : field r.toDict "schema_version" = r.schemaVersion ∧
    field r.toDict "receipt_id" = .str r.receiptId ∧
    field r.toDict "interaction_id" = .str r.interactionId ∧
    field r.toDict "request_digest" = .str r.requestDigest ∧
    field r.toDict "response" = r.response ∧
    field r.toDict "response_digest" = .str r.responseDigest ∧
    field r.toDict "submitted_by" = .str r.submittedBy ∧
    field r.toDict "receipt_digest" = .str r.receiptDigest ∧
    field r.toDict "submitted_at_ms" = .int r.submittedAtMs := by
  simp [field, InteractionReceipt.toDict, get_cons]

theorem InteractionReceipt.make_fixed {r : InteractionReceipt} (h : make host es = .ok r) :
    ReceiptFixed host r := by
  simp only [make, validateSchemaVersion, bind_iff, raiseIf_ok, exists_const, pure_iff] at h
  obtain ⟨version, interactionId, interaction, requestDigest, requested, response, responded,
    responseDigest, answered, submittedBy, submitted, receiptDigest, received, receiptId, receipt,
    submittedAtMs, time, expectedResponse, responseHash, responseSame, core, cored, expected, hash,
    same, named, rfl⟩ := h
  have responseStrict := strict_of_strictJsonCopy _ responded
  constructor
  · obtain ⟨f1, f2, f3, f4, f5, f6, f7, f8, f9⟩ := field_receipt
      { schemaVersion := field es "schema_version",
        receiptId := textOf (field es "receipt_id"), interactionId, requestDigest, response,
        responseDigest := textOf (field es "response_digest"), submittedBy,
        receiptDigest := textOf (field es "receipt_digest"), submittedAtMs }
    simp only [make, validateSchemaVersion, bind_iff, raiseIf_ok, exists_const,
      pure_iff, f1, f2, f3, f4, f5, f6, f7, f8, f9]
    exact ⟨version, interactionId, requiredText_again interaction, requestDigest,
      requiredText_again requested, response, strictJsonCopy_of_strict _ _ responseStrict,
      responseDigest, requiredText_textOf answered, submittedBy, requiredText_again submitted,
      receiptDigest, requiredText_textOf received, receiptId, requiredText_textOf receipt,
      submittedAtMs, nonNegativeInt_ok time ▸ time, expectedResponse, responseHash, responseSame,
      core, cored, expected, hash, same, named, rfl⟩
  · rw [strict_dict_iff]
    refine ⟨nodup_receiptFields, ?_⟩
    simp [InteractionReceipt.toDict, strict_of_version version, responseStrict]

theorem ReceiptFixed.read {r : InteractionReceipt} (h : ReceiptFixed host r) :
    InteractionReceipt.read host (.raw (.dict r.toDict)) = .ok r := by
  have fields : requireExactFields host r.toDict receiptFields "interaction receipt" = .ok () :=
    requireExactFields_of_keys (.refl _)
  rw [InteractionReceipt.read, strictJsonCopy_of_strict _ _ h.strict]
  exact bind_iff.mpr ⟨_, rfl, bind_iff.mpr ⟨(), fields, h.make⟩⟩

theorem InteractionReceipt.read_fixed {g : Given InteractionReceipt} {r : InteractionReceipt}
    (h : InteractionReceipt.read host g = .ok r) : ReceiptFixed host r := by
  cases g with
  | built given => exact make_fixed h
  | raw v =>
    cases v with
    | dict es =>
      simp only [InteractionReceipt.read, bind_iff] at h
      obtain ⟨copied, -, _, -, made⟩ := h
      exact make_fixed made
    | _ => cases h

def Answers (receipt : InteractionReceipt) (request : InteractionRequest) : Prop :=
  receipt.interactionId = request.interactionId ∧ receipt.requestDigest = request.requestDigest

variable {request : InteractionRequest} {receipt : InteractionReceipt}

theorem checkBound_ok {g : Given InteractionRequest}
    (read : InteractionRequest.fromDict host g = .ok request) :
    checkBound host receipt g = .ok () ↔ Answers receipt request := by
  simp [checkBound, read, bind_iff, Answers]

theorem receipt_fromDict_ok {g : Given InteractionReceipt} {q : Given InteractionRequest}
    (asked : InteractionRequest.fromDict host q = .ok request) :
    InteractionReceipt.fromDict host g q = .ok receipt ↔
      InteractionReceipt.read host g = .ok receipt ∧ Answers receipt request := by
  simp only [InteractionReceipt.fromDict, bind_iff, pure_iff]
  constructor
  · rintro ⟨read, ran, ⟨⟩, bound, rfl⟩
    exact ⟨ran, (checkBound_ok asked).mp bound⟩
  · rintro ⟨ran, answers⟩
    exact ⟨receipt, ran, (), (checkBound_ok asked).mpr answers, rfl⟩

/-! ### Entries -/

/-- An application of a receipt that the validator would read again. -/
structure ApplicationFixed (receipt : InteractionReceipt) (a : Application) : Prop where
  receiptId_eq : a.receiptId = receipt.receiptId
  receiptId : requiredText "application.receipt_id" (.str a.receiptId) = .ok a.receiptId
  checkpoint : requiredText "application.applied_checkpoint_id" (.str a.appliedCheckpointId) =
    .ok a.appliedCheckpointId

theorem Application.strict (a : Application) : Strict a.toDict := by
  rw [Application.toDict, strict_dict_iff]
  exact ⟨by simp [Assoc.keys], by simp⟩

variable {a : Application} {raw : Value}

theorem validateApplication_fixed (h : validateApplication host receipt raw = .ok (some a)) :
    ApplicationFixed receipt a := by
  cases raw with
  | dict es =>
    simp only [validateApplication, validateSchemaVersion, bind_iff, raiseIf_ok,
      exists_const, pure_iff, Option.some.injEq] at h
    obtain ⟨copied, -, _, -, -, id, read, same, checkpoint, applied, rfl⟩ := h
    exact ⟨by simpa using same, requiredText_again read, requiredText_again applied⟩
  | _ => cases h

theorem ApplicationFixed.validate (h : ApplicationFixed receipt a) :
    validateApplication host receipt a.toDict = .ok (some a) := by
  have fields : requireExactFields host a.toDict.entries
      ["schema_version", "receipt_id", "applied_checkpoint_id"] "interaction application" =
        .ok () := requireExactFields_of_keys (.refl _)
  have copy : strictJsonCopy host "$" a.toDict = .ok a.toDict :=
    strictJsonCopy_of_strict _ "$" a.strict
  simp only [Application.toDict] at fields copy ⊢
  simp only [validateApplication, validateSchemaVersion, bind_iff, raiseIf_ok, exists_const,
    pure_iff, Option.some.injEq]
  refine ⟨_, copy, (), fields, ?_, a.receiptId, h.receiptId, ?_, a.appliedCheckpointId,
    h.checkpoint, rfl⟩
  · simp [Value.get, get_cons, foreignVersion]
  · simp [h.receiptId_eq]

/-- An entry of a journal that the validator would read again. -/
structure EntryFixed (host : InteractionHost) (id : String) (e : JournalEntry) : Prop where
  named : id.isEmpty = false
  request : RequestFixed host e.request
  keyed : e.request.interactionId = id
  checkpoint : requiredText "checkpoint_id" (.str e.checkpointId) = .ok e.checkpointId
  receipt : ∀ r, e.receipt = some r → ReceiptFixed host r ∧ Answers r e.request
  application : ∀ a, e.application = some a → ∃ r, e.receipt = some r ∧ ApplicationFixed r a

variable {e : JournalEntry} {id : String}

theorem EntryFixed.strict (h : EntryFixed host id e) : Strict e.toDict := by
  rw [JournalEntry.toDict, strict_dict_iff]
  refine ⟨by simp [Assoc.keys], ?_⟩
  have receipt : Strict (receiptDict e.receipt) := by
    cases found : e.receipt with
    | none => simp [receiptDict]
    | some r => exact (h.receipt r found).1.strict
  have application : Strict (applicationDict e.application) := by
    cases found : e.application with
    | none => simp [applicationDict]
    | some a => exact a.strict
  simp [h.request.strict, receipt, application]

theorem readReceipt_fixed (fixed : RequestFixed host request) {receipt : Option InteractionReceipt}
    (h : readReceipt host request raw = .ok receipt) :
    ∀ r, receipt = some r → ReceiptFixed host r ∧ Answers r request := by
  rintro r rfl
  simp only [readReceipt] at h
  split at h
  · cases h
  · obtain ⟨r', ran, ⟨⟩⟩ := map_ok h
    obtain ⟨read, answers⟩ := (receipt_fromDict_ok fixed.built).mp ran
    exact ⟨InteractionReceipt.read_fixed read, answers⟩

theorem readReceipt_toDict (fixed : RequestFixed host request) {receipt : Option InteractionReceipt}
    (h : ∀ r, receipt = some r → ReceiptFixed host r ∧ Answers r request) :
    readReceipt host request (receiptDict receipt) = .ok receipt := by
  cases receipt with
  | none => rfl
  | some r =>
    have ran := (receipt_fromDict_ok (g := .raw (.dict r.toDict)) fixed.built).mpr
      ⟨(h r rfl).1.read, (h r rfl).2⟩
    rw [receiptDict, readReceipt, if_neg (by simp [Value.isNone]), ran]
    rfl

variable {application : Option Application}

theorem readApplication_fixed {receipt : Option InteractionReceipt}
    (h : readApplication host receipt raw = .ok application) :
    ∀ a, application = some a → ∃ r, receipt = some r ∧ ApplicationFixed r a := by
  rintro a rfl
  cases receipt with
  | none =>
    simp only [readApplication, bind_iff, pure_iff] at h
    obtain ⟨_, -, ⟨⟩⟩ := h
  | some r => exact ⟨r, rfl, validateApplication_fixed h⟩

theorem readApplication_toDict {receipt : Option InteractionReceipt}
    (h : ∀ a, application = some a → ∃ r, receipt = some r ∧ ApplicationFixed r a) :
    readApplication host receipt (applicationDict application) = .ok application := by
  cases application with
  | none =>
    cases receipt with
    | none => rfl
    | some r => rfl
  | some a =>
    obtain ⟨r, rfl, fixed⟩ := h a rfl
    exact fixed.validate

theorem readEntry_fixed {item : String × Value} {out : String × JournalEntry}
    (h : readEntry host item = .ok out) : out.1 = item.1 ∧ EntryFixed host out.1 out.2 := by
  obtain ⟨id, raw⟩ := item
  cases raw with
  | dict es =>
    simp only [readEntry, bind_iff, raiseIf_ok, exists_const, pure_iff] at h
    obtain ⟨named, entry, copied, _, -, request, asked, keyed, checkpoint, bound, receipt,
      received, application, applied, rfl⟩ := h
    have fixed := InteractionRequest.fromDict_fixed asked
    exact ⟨rfl, named, fixed, by simpa using keyed, requiredText_again bound,
      readReceipt_fixed fixed received, readApplication_fixed applied⟩
  | _ =>
    simp only [readEntry, bind_iff] at h
    obtain ⟨_, -, ⟨⟩⟩ := h

theorem EntryFixed.read (h : EntryFixed host id e) :
    readEntry host (id, e.toDict) = .ok (id, e) := by
  have fields : requireExactFields host e.toDict.entries
      ["request", "checkpoint_id", "receipt", "application"] "interaction journal entry" =
        .ok () := requireExactFields_of_keys (.refl _)
  have copy : strictJsonCopy host "$" e.toDict = .ok e.toDict :=
    strictJsonCopy_of_strict _ "$" h.strict
  have request := h.request.fromDict
  have receipt := readReceipt_toDict h.request h.receipt
  have application : readApplication host e.receipt (applicationDict e.application) =
      .ok e.application := readApplication_toDict h.application
  simp only [JournalEntry.toDict] at fields copy ⊢
  simp only [readEntry, bind_iff, raiseIf_ok, exists_const, pure_iff]
  refine ⟨h.named, _, copy, (), fields, e.request, ?_, ?_, e.checkpointId, ?_, e.receipt, ?_,
    e.application, ?_, rfl⟩
  · simpa [Value.get, get_cons] using request
  · simp [h.keyed]
  · simpa [Value.get, get_cons] using h.checkpoint
  · simpa [Value.get, get_cons] using receipt
  · simpa [Value.get, get_cons] using application

/-! ### Journals -/

/-- A journal that the validator would read again. -/
structure JournalFixed (host : InteractionHost) (j : Journal) : Prop where
  entries : ∀ item ∈ j.entries, EntryFixed host item.1 item.2
  distinct : (Assoc.keys j.entries).Nodup
  order_nodup : j.order.Nodup
  order_iff : ∀ id, id ∈ j.order ↔ id ∈ Assoc.keys j.entries
  pending_eq : j.pending = j.activeId.toList

variable {j : Journal}

theorem mem_pending (distinct : (Assoc.keys j.entries).Nodup) :
    id ∈ j.pending ↔ ∃ e, j.entry id = some e ∧ e.application = none := by
  simp only [Journal.pending, List.mem_map, List.mem_filter, Option.isNone_iff_eq_none]
  constructor
  · rintro ⟨⟨id', e⟩, ⟨mem, none⟩, rfl⟩
    exact ⟨e, get_of_mem distinct mem, none⟩
  · rintro ⟨e, found, none⟩
    exact ⟨(id, e), ⟨mem_of_get found, none⟩, rfl⟩

theorem keys_of_mapM_readEntry {items : Dict} {entries : List (String × JournalEntry)}
    (h : items.mapM (readEntry host) = .ok entries) : Assoc.keys entries = Assoc.keys items := by
  induction mapM_iff.mp h with
  | nil => rfl
  | @cons item out items outs first rest ih =>
    have same := (readEntry_fixed first).1
    have tail := ih (mapM_iff.mpr rest)
    simp only [Assoc.keys, List.map_cons] at tail ⊢
    rw [same, tail]

theorem readJournal_fixed (h : readJournal host raw = .ok j) : JournalFixed host j := by
  cases raw with
  | none =>
    cases h
    constructor
    · simp [newInteractionJournal]
    · simp [newInteractionJournal, Assoc.keys]
    · simp [newInteractionJournal]
    · simp [newInteractionJournal, Assoc.keys]
    · rfl
  | dict es =>
    simp only [readJournal, bind_iff, raiseIf_ok, exists_const, pure_iff] at h
    obtain ⟨copied, copy, _, -, -, items, found, order, ordered, distinct, activeId, active,
      entries, read, covers, -, pending, rfl⟩ := h
    have strict : Strict copied := strict_of_strictJsonCopy _ copy
    have keys := keys_of_mapM_readEntry read
    have itemsStrict : Strict (.dict items) := by
      have inner : Strict (copied.get "entries") := by
        cases copied with
        | dict es => exact strict_of_get strict "entries"
        | _ => simp [Value.get, Value.entries]
      cases v : copied.get "entries" with
      | dict es =>
        rw [v] at found inner
        cases found
        exact inner
      | _ =>
        rw [v] at found
        cases found
    simp only [Bool.or_eq_false_iff, Bool.not_eq_false', List.all_eq_true,
      decide_eq_true_eq] at covers
    constructor
    · intro item mem
      obtain ⟨raw, -, ran⟩ := mem_of_mapM read item mem
      exact (readEntry_fixed ran).2
    · rw [keys]
      exact (strict_dict_iff.mp itemsStrict).1
    · have same : order.dedup.length = order.length := by simpa using distinct
      exact List.dedup_eq_self.mp ((List.dedup_sublist order).eq_of_length same)
    · intro id
      exact ⟨fun mem => Assoc.get_isSome_iff.mp (covers.1 id mem), fun mem => covers.2 id mem⟩
    · simpa using pending
  | _ => cases h

theorem JournalFixed.strict (h : JournalFixed host j) : Strict j.toDict := by
  have entries : Strict (.dict (j.entries.map fun e => (e.1, e.2.toDict))) := by
    rw [strict_dict_iff]
    refine ⟨?_, ?_⟩
    · have keys : Assoc.keys (j.entries.map fun e => (e.1, e.2.toDict)) = Assoc.keys j.entries := by
        simp [Assoc.keys]
      rw [keys]
      exact h.distinct
    · intro e mem
      obtain ⟨item, there, rfl⟩ := List.mem_map.mp mem
      exact (h.entries item there).strict
  have order : Strict (.list (j.order.map .str)) := by
    rw [Strict, strictItems_iff]
    simp
  have active : Strict (activeDict j.activeId) := by
    cases j.activeId with
    | none | some id => simp [activeDict]
  rw [Journal.toDict, strict_dict_iff]
  refine ⟨by simp [Assoc.keys], ?_⟩
  simp [entries, order, active]

theorem JournalFixed.read (h : JournalFixed host j) : readJournal host j.toDict = .ok j := by
  have fields : requireExactFields host j.toDict.entries
      ["schema_version", "active_id", "entries", "order"] "interaction journal" = .ok () :=
    requireExactFields_of_keys (by
      exact .refl _)
  have copy : strictJsonCopy host "$" j.toDict = .ok j.toDict :=
    strictJsonCopy_of_strict _ "$" h.strict
  have nonempty : ∀ id ∈ j.order, id.isEmpty = false := by
    intro id mem
    obtain ⟨e, found⟩ := Option.isSome_iff_exists.mp
      (Assoc.get_isSome_iff.mpr ((h.order_iff id).mp mem))
    exact (h.entries (id, e) (mem_of_get found)).named
  have order : orderOf (.list (j.order.map .str)) = .ok j.order := by
    apply mapM_map_ok
    intro id mem
    simp [idOf, nonempty id mem]
  have activeMem : ∀ id, j.activeId = some id → id ∈ Assoc.keys j.entries := by
    intro id active
    have pending : id ∈ j.pending := by
      rw [h.pending_eq, active]
      simp
    obtain ⟨e, found, -⟩ := (mem_pending h.distinct).mp pending
    exact mem_keys_of_get found
  have active : activeIdOf (activeDict j.activeId) = .ok j.activeId := by
    cases found : j.activeId with
    | none => rfl
    | some id => simp [activeDict, activeIdOf, nonempty id ((h.order_iff id).mpr (activeMem id found))]
  have entries : (j.entries.map fun e => (e.1, e.2.toDict)).mapM (readEntry host) =
      .ok j.entries := by
    apply mapM_map_ok (g := fun e : String × JournalEntry => (e.1, e.2.toDict))
    intro item mem
    exact (h.entries item mem).read
  simp only [Journal.toDict] at fields copy ⊢
  simp only [readJournal, bind_iff, raiseIf_ok, exists_const, pure_iff]
  refine ⟨_, copy, (), fields, ?_, j.entries.map (fun e => (e.1, e.2.toDict)), ?_, j.order, ?_, ?_,
    j.activeId, ?_, j.entries, entries, ?_, ?_, ?_, rfl⟩
  · simp [Value.get, get_cons, foreignVersion]
  · simp [Value.get, get_cons, entriesOf]
  · simpa [Value.get, get_cons] using order
  · simp [List.dedup_eq_self.mpr h.order_nodup]
  · simpa [Value.get, get_cons] using active
  · simp only [Bool.or_eq_false_iff, Bool.not_eq_false', List.all_eq_true, decide_eq_true_eq]
    exact ⟨fun id mem => Assoc.get_isSome_iff.mpr ((h.order_iff id).mp mem),
      fun id mem => (h.order_iff id).mpr mem⟩
  · cases found : j.activeId with
    | none => rfl
    | some id =>
      have present : Assoc.has id j.entries = true := Assoc.get_isSome_iff.mpr (activeMem id found)
      simp [present]
  · simp [h.pending_eq]

theorem JournalFixed.validate (h : JournalFixed host j) :
    validateInteractionJournal host j.toDict = .ok j.toDict := by
  rw [validateInteractionJournal, h.read]
  rfl

/-! ### Operations -/

/-- A later journal: entries are kept in their order, and with them requests, checkpoints,
recorded receipts and recorded applications. -/
structure Extends (j j' : Journal) : Prop where
  order : j.order <+: j'.order
  keys : Assoc.keys j.entries <+: Assoc.keys j'.entries
  entry : ∀ id e, j.entry id = some e → ∃ e', j'.entry id = some e' ∧ e'.request = e.request ∧
    e'.checkpointId = e.checkpointId ∧ (∀ r, e.receipt = some r → e'.receipt = some r) ∧
    ∀ a, e.application = some a → e'.application = some a

theorem Extends.refl (j : Journal) : Extends j j := by
  constructor
  · exact List.prefix_rfl
  · exact List.prefix_rfl
  · intro id e found
    exact ⟨e, found, rfl, rfl, fun _ h => h, fun _ h => h⟩

variable {j' : Journal}

theorem Extends.trans {j'' : Journal} (h : Extends j j') (h' : Extends j' j'') : Extends j j'' := by
  constructor
  · exact h.order.trans h'.order
  · exact h.keys.trans h'.keys
  · intro id e found
    obtain ⟨e', found', request, checkpoint, receipt, application⟩ := h.entry id e found
    obtain ⟨e'', found'', request', checkpoint', receipt', application'⟩ := h'.entry id e' found'
    exact ⟨e'', found'', request'.trans request, checkpoint'.trans checkpoint,
      fun r given => receipt' r (receipt r given), fun a given => application' a (application a given)⟩

variable {active : Option String} {e' : JournalEntry}

theorem extends_of_set (found : j.entry id = some e) (request : e'.request = e.request)
    (checkpoint : e'.checkpointId = e.checkpointId)
    (receipt : ∀ r, e.receipt = some r → e'.receipt = some r)
    (application : ∀ a, e.application = some a → e'.application = some a) :
    Extends j { j with activeId := active, entries := Assoc.set id e' j.entries } := by
  constructor
  · exact List.prefix_rfl
  · rw [Assoc.keys_set_of_mem e' (mem_keys_of_get found)]
  · intro other e₀ found₀
    by_cases same : other = id
    · subst same
      obtain rfl := Option.some.inj (found.symm.trans found₀)
      exact ⟨e', by simp [Journal.entry], request, checkpoint, receipt, application⟩
    · exact ⟨e₀, by simpa [Journal.entry, same] using found₀, rfl, rfl, fun _ h => h, fun _ h => h⟩

theorem extends_of_append (fresh : j.entry id = none) :
    Extends j { activeId := active, entries := Assoc.set id e j.entries, order := j.order ++ [id] } := by
  constructor
  · exact List.prefix_append _ _
  · rw [Assoc.set_of_not_mem e (Assoc.get_eq_none_iff.mp fresh)]
    simp [Assoc.keys]
  · intro other e₀ found
    have ne : other ≠ id := by
      rintro rfl
      rw [fresh] at found
      cases found
    exact ⟨e₀, by simpa [Journal.entry, ne] using found, rfl, rfl, fun _ h => h, fun _ h => h⟩

/-- A call whose effect the journal holds already. -/
def Remembers (host : InteractionHost) (j : Journal) : InteractionCall → Prop
  | .register request checkpointId =>
    ∃ bound checkpoint e, InteractionRequest.fromDict host request = .ok bound ∧
      requiredText "checkpoint_id" checkpointId = .ok checkpoint ∧
      j.entry bound.interactionId = some e ∧
      (Value.dict e.request.toDict).eqPy (.dict bound.toDict) = true ∧
      e.checkpointId = checkpoint
  | .record receipt =>
    ∃ bound e r, InteractionReceipt.read host receipt = .ok bound ∧
      j.entry bound.interactionId = some e ∧ Answers bound e.request ∧
      e.receipt = some r ∧ r.receiptDigest = bound.receiptDigest
  | .apply interactionId receiptId appliedCheckpointId =>
    ∃ id receipt checkpoint e a, requiredText "interaction_id" interactionId = .ok id ∧
      requiredText "receipt_id" receiptId = .ok receipt ∧
      requiredText "applied_checkpoint_id" appliedCheckpointId = .ok checkpoint ∧
      j.entry id = some e ∧ e.application = some a ∧
      a.toDict.eqPy (Application.toDict ⟨receipt, checkpoint⟩) = true

theorem Remembers.mono {j j' : Journal} (h : Extends j j') {call : InteractionCall}
    (remembers : Remembers host j call) : Remembers host j' call := by
  cases call with
  | register request checkpointId =>
    obtain ⟨bound, checkpoint, e, asked, named, found, same, bound'⟩ := remembers
    obtain ⟨e', found', request', checkpoint', -, -⟩ := h.entry _ e found
    exact ⟨bound, checkpoint, e', asked, named, found', request' ▸ same, checkpoint'.trans bound'⟩
  | record receipt =>
    obtain ⟨bound, e, r, read, found, answers, given, same⟩ := remembers
    obtain ⟨e', found', request', -, receipt', -⟩ := h.entry _ e found
    exact ⟨bound, e', r, read, found', request' ▸ answers, receipt' r given, same⟩
  | apply interactionId receiptId appliedCheckpointId =>
    obtain ⟨id, receipt, checkpoint, e, a, r1, r2, r3, found, given, same⟩ := remembers
    obtain ⟨e', found', -, -, -, application'⟩ := h.entry _ e found
    exact ⟨id, receipt, checkpoint, e', a, r1, r2, r3, found', application' a given, same⟩

variable {call : InteractionCall}

theorem Remembers.run (fixed : JournalFixed host j) (remembers : Remembers host j call) :
    call.run host j.toDict = .ok j.toDict := by
  cases call with
  | register request checkpointId =>
    obtain ⟨bound, checkpoint, e, asked, named, found, same, bound'⟩ := remembers
    simp only [InteractionCall.run, registerInteractionRequest, bind_iff]
    refine ⟨j, fixed.read, bound, asked, checkpoint, named, ?_⟩
    rw [found]
    simp only
    rw [if_pos ⟨same, bound'⟩]
    rfl
  | record receipt =>
    obtain ⟨bound, e, r, read, found, answers, given, same⟩ := remembers
    have entry := fixed.entries (bound.interactionId, e) (mem_of_get found)
    obtain ⟨receiptFixed, answered⟩ := entry.receipt r given
    simp only [InteractionCall.run, recordInteractionReceipt, bind_iff]
    refine ⟨j, fixed.read, bound, read, ?_⟩
    rw [found]
    simp only [bind_iff]
    refine ⟨e.request, entry.request.fromDict, bound, ?_, ?_⟩
    · exact (receipt_fromDict_ok entry.request.built).mpr
        ⟨(InteractionReceipt.read_fixed read).make, answers⟩
    · rw [given]
      simp only [bind_iff]
      refine ⟨r, (receipt_fromDict_ok entry.request.built).mpr ⟨receiptFixed.read, answered⟩, ?_⟩
      rw [if_pos same]
      rfl
  | apply interactionId receiptId appliedCheckpointId =>
    obtain ⟨id, receipt, checkpoint, e, a, r1, r2, r3, found, given, same⟩ := remembers
    simp only [InteractionCall.run, markInteractionApplied, bind_iff]
    refine ⟨j, fixed.read, id, r1, receipt, r2, checkpoint, r3, ?_⟩
    rw [found]
    simp only [given]
    rw [if_pos same]
    rfl

/-- What an operation that returns leaves behind. -/
def Leaves (host : InteractionHost) (j : Journal) (call : InteractionCall) (out : Value) : Prop :=
  ∃ j', out = j'.toDict ∧ JournalFixed host j' ∧ Extends j j' ∧ Remembers host j' call

theorem pending_set (distinct : (Assoc.keys j.entries).Nodup) (found : j.entry id = some e)
    (same : e'.application = e.application) :
    Journal.pending { j with entries := Assoc.set id e' j.entries } = j.pending := by
  have kept : ∀ item ∈ j.entries,
      (if item.1 = id then (id, e') else item).2.application = item.2.application := by
    rintro ⟨key, e₀⟩ mem
    by_cases here : key = id
    · subst here
      obtain rfl := Option.some.inj (found.symm.trans (get_of_mem distinct mem))
      simpa using same
    · simp [here]
  simp only [Journal.pending]
  rw [Assoc.set_of_mem e' distinct (mem_keys_of_get found), List.filter_map, List.map_map]
  have filters : j.entries.filter ((fun item : String × JournalEntry =>
      item.2.application.isNone) ∘ fun item => if item.1 = id then (id, e') else item) =
        j.entries.filter fun item => item.2.application.isNone := by
    apply List.filter_congr
    intro item mem
    simp only [Function.comp_apply, kept item mem]
  rw [filters]
  apply List.map_congr_left
  intro item mem
  simp only [Function.comp_apply]
  split
  · next here => exact here.symm
  · rfl

theorem JournalFixed.set (h : JournalFixed host j) (found : j.entry id = some e)
    (fixed : EntryFixed host id e')
    (pending : Journal.pending { j with activeId := active, entries := Assoc.set id e' j.entries } =
      active.toList) :
    JournalFixed host { j with activeId := active, entries := Assoc.set id e' j.entries } := by
  have keys := Assoc.keys_set_of_mem e' (mem_keys_of_get found)
  constructor
  · intro item mem
    rcases Assoc.mem_of_mem_set mem with rfl | mem
    · exact fixed
    · exact h.entries item mem
  · exact nodup_keys_set id e' h.distinct
  · exact h.order_nodup
  · intro other
    rw [keys]
    exact h.order_iff other
  · exact pending

inductive Registers (j : Journal) (request : InteractionRequest) (checkpoint : String) :
    Journal → Prop where
  | known {e : JournalEntry} (found : j.entry request.interactionId = some e)
      (same : (Value.dict e.request.toDict).eqPy (.dict request.toDict) = true)
      (bound : e.checkpointId = checkpoint) : Registers j request checkpoint j
  | fresh (absent : j.entry request.interactionId = none) (idle : j.activeId = none) :
      Registers j request checkpoint
        { activeId := some request.interactionId
          entries := Assoc.set request.interactionId
            { request, checkpointId := checkpoint, receipt := none, application := none } j.entries
          order := j.order ++ [request.interactionId] }

variable {checkpoint : String}

theorem Registers.extends (h : Registers j request checkpoint j') : Extends j j' := by
  cases h with
  | known => exact .refl j
  | fresh absent idle => exact extends_of_append absent

variable {checkpointId out : Value}

theorem register_ok (h : JournalFixed host j) {request : Given InteractionRequest}
    (ran : registerInteractionRequest host j.toDict request checkpointId = .ok out) :
    ∃ bound checkpoint j', InteractionRequest.fromDict host request = .ok bound ∧
      requiredText "checkpoint_id" checkpointId = .ok checkpoint ∧ out = j'.toDict ∧
      JournalFixed host j' ∧ Registers j bound checkpoint j' := by
  simp only [registerInteractionRequest, bind_iff] at ran
  obtain ⟨validated, read, bound, asked, checkpoint, named, ran⟩ := ran
  obtain rfl := Except.ok.inj (h.read.symm.trans read)
  refine ⟨bound, checkpoint, ?_⟩
  have fixed := InteractionRequest.fromDict_fixed asked
  cases found : j.entry bound.interactionId with
  | some existing =>
    rw [found] at ran
    simp only at ran
    split at ran
    · next same =>
        cases ran
        exact ⟨j, asked, named, rfl, h, .known found same.1 same.2⟩
    · cases ran
  | none =>
    rw [found] at ran
    simp only [bind_iff, raiseIf_ok, exists_const] at ran
    obtain ⟨alone, ran⟩ := ran
    have absent := Assoc.get_eq_none_iff.mp found
    -- an active id other than the new one was refused, and the new one has no entry yet
    have idle : j.activeId = none := by
      cases active : j.activeId with
      | none => rfl
      | some id =>
        rw [active] at alone
        obtain rfl : id = bound.interactionId := by simpa using alone
        have pending : bound.interactionId ∈ j.pending := by
          rw [h.pending_eq, active]
          simp
        obtain ⟨e, there, -⟩ := (mem_pending h.distinct).mp pending
        rw [found] at there
        cases there
    let entry : JournalEntry :=
      { request := bound, checkpointId := checkpoint, receipt := none, application := none }
    have appended := Assoc.set_of_not_mem entry absent
    let registered : Journal :=
      { activeId := some bound.interactionId
        entries := Assoc.set bound.interactionId entry j.entries
        order := j.order ++ [bound.interactionId] }
    have next : JournalFixed host registered := by
      constructor
      · intro item mem
        rcases Assoc.mem_of_mem_set mem with rfl | mem
        · refine ⟨?_, fixed, rfl, requiredText_again named, ?_, ?_⟩
          · exact fixed.nonempty
          · intro r given
            cases given
          · intro a given
            cases given
        · exact h.entries item mem
      · exact nodup_keys_set _ entry h.distinct
      · rw [List.nodup_append]
        refine ⟨h.order_nodup, List.nodup_singleton _, ?_⟩
        intro id mem other mem' same
        obtain rfl := List.mem_singleton.mp mem'
        exact absent ((h.order_iff _).mp (same ▸ mem))
      · intro id
        simp only [registered, appended, Assoc.keys, List.map_append, List.map_cons, List.map_nil,
          List.mem_append]
        rw [h.order_iff]
        rfl
      · have before := h.pending_eq
        simp only [Journal.pending] at before
        simp only [registered, Journal.pending, appended, List.filter_append, List.map_append,
          before, idle]
        simp [entry]
    have out_eq := Except.ok.inj (next.validate.symm.trans ran)
    exact ⟨registered, asked, named, out_eq.symm, next, .fresh found idle⟩

theorem register_leaves (h : JournalFixed host j) {request : Given InteractionRequest}
    (ran : registerInteractionRequest host j.toDict request checkpointId = .ok out) :
    Leaves host j (.register request checkpointId) out := by
  obtain ⟨bound, checkpoint, j', asked, named, rfl, fixed, registers⟩ := register_ok h ran
  refine ⟨j', rfl, fixed, registers.extends, bound, checkpoint, ?_⟩
  cases registers with
  | @known e found same bound' => exact ⟨e, asked, named, found, same, bound'⟩
  | fresh absent idle =>
    exact ⟨_, asked, named, get_set_self _ _ _,
      eqPy_self (InteractionRequest.fromDict_fixed asked).strict, rfl⟩

inductive Records (j : Journal) (receipt : InteractionReceipt) : Journal → Prop where
  | known {e : JournalEntry} {r : InteractionReceipt}
      (found : j.entry receipt.interactionId = some e) (answers : Answers receipt e.request)
      (given : e.receipt = some r) (same : r.receiptDigest = receipt.receiptDigest) :
      Records j receipt j
  | fresh {e : JournalEntry} (found : j.entry receipt.interactionId = some e)
      (answers : Answers receipt e.request) (unanswered : e.receipt = none) :
      Records j receipt { j with
        entries := Assoc.set receipt.interactionId { e with receipt := some receipt } j.entries }

theorem Records.extends (h : Records j receipt j') : Extends j j' := by
  cases h with
  | known => exact .refl j
  | fresh found answers unanswered =>
    refine extends_of_set found rfl rfl ?_ fun a applied => applied
    intro r recorded
    rw [unanswered] at recorded
    cases recorded

theorem record_ok (h : JournalFixed host j) {receipt : Given InteractionReceipt}
    (ran : recordInteractionReceipt host j.toDict receipt = .ok out) :
    ∃ bound j', InteractionReceipt.read host receipt = .ok bound ∧ out = j'.toDict ∧
      JournalFixed host j' ∧ Records j bound j' := by
  simp only [recordInteractionReceipt, bind_iff] at ran
  obtain ⟨validated, read, bound, received, ran⟩ := ran
  obtain rfl := Except.ok.inj (h.read.symm.trans read)
  refine ⟨bound, ?_⟩
  cases found : j.entry bound.interactionId with
  | none =>
    rw [found] at ran
    cases ran
  | some e =>
    rw [found] at ran
    simp only [bind_iff] at ran
    have entry := h.entries (bound.interactionId, e) (mem_of_get found)
    obtain ⟨request, asked, _, checked, ran⟩ := ran
    obtain rfl := Except.ok.inj (entry.request.fromDict.symm.trans asked)
    obtain ⟨same, answers⟩ := (receipt_fromDict_ok entry.request.built).mp checked
    have fixed := InteractionReceipt.read_fixed received
    obtain rfl := Except.ok.inj (fixed.make.symm.trans same)
    cases given : e.receipt with
    | some existing =>
      rw [given] at ran
      simp only [bind_iff] at ran
      obtain ⟨kept, again, ran⟩ := ran
      obtain ⟨existingFixed, answered⟩ := entry.receipt existing given
      have whole := (receipt_fromDict_ok (g := .raw (.dict existing.toDict))
        entry.request.built).mpr ⟨existingFixed.read, answered⟩
      obtain rfl := Except.ok.inj (whole.symm.trans again)
      split at ran
      · next digests =>
          cases ran
          exact ⟨j, received, rfl, h, .known found answers given digests⟩
      · split at ran
        · cases ran
        · cases ran
    | none =>
      rw [given] at ran
      simp only [recordFresh, bind_iff, raiseIf_ok, exists_const] at ran
      obtain ⟨-, -, ran⟩ := ran
      let e' : JournalEntry := { e with receipt := some bound }
      have entry' : EntryFixed host bound.interactionId e' := by
        refine { entry with receipt := ?_, application := ?_ }
        · intro r recorded
          obtain rfl := Option.some.inj recorded
          exact ⟨fixed, answers⟩
        · intro a applied
          obtain ⟨r, recorded, -⟩ := entry.application a applied
          rw [given] at recorded
          cases recorded
      have unapplied : e'.application = e.application := rfl
      have next := h.set found entry' ((pending_set h.distinct found unapplied).trans h.pending_eq)
      have out_eq := Except.ok.inj (next.validate.symm.trans ran)
      exact ⟨_, received, out_eq.symm, next, .fresh found answers given⟩

theorem record_leaves (h : JournalFixed host j) {receipt : Given InteractionReceipt}
    (ran : recordInteractionReceipt host j.toDict receipt = .ok out) :
    Leaves host j (.record receipt) out := by
  obtain ⟨bound, j', received, rfl, fixed, records⟩ := record_ok h ran
  refine ⟨j', rfl, fixed, records.extends, bound, ?_⟩
  cases records with
  | @known e r found answers given same => exact ⟨e, r, received, found, answers, given, same⟩
  | fresh found answers unanswered =>
    exact ⟨_, bound, received, get_set_self _ _ _, answers, rfl, rfl⟩

theorem pending_apply (h : JournalFixed host j) (active : j.activeId = some id)
    (found : j.entry id = some e) (applied : e'.application.isSome) :
    Journal.pending { j with activeId := none, entries := Assoc.set id e' j.entries } = [] := by
  rw [List.eq_nil_iff_forall_not_mem]
  intro other mem
  obtain ⟨e₀, found₀, none₀⟩ := (mem_pending (nodup_keys_set id e' h.distinct)).mp mem
  by_cases same : other = id
  · subst same
    obtain rfl : e' = e₀ := by simpa [Journal.entry] using found₀
    rw [none₀] at applied
    cases applied
  · have before : other ∈ j.pending :=
      (mem_pending h.distinct).mpr ⟨e₀, by simpa [Journal.entry, same] using found₀, none₀⟩
    rw [h.pending_eq, active] at before
    exact same (by simpa using before)

inductive Applies (j : Journal) (id receiptId checkpoint : String) : Journal → Prop where
  | known {e : JournalEntry} {a : Application} (found : j.entry id = some e)
      (given : e.application = some a)
      (same : a.toDict.eqPy (Application.toDict ⟨receiptId, checkpoint⟩) = true) :
      Applies j id receiptId checkpoint j
  | fresh {e : JournalEntry} {r : InteractionReceipt} (found : j.entry id = some e)
      (active : j.activeId = some id) (answered : e.receipt = some r)
      (unapplied : e.application = none) :
      Applies j id receiptId checkpoint { j with
        activeId := none
        entries := Assoc.set id { e with application := some ⟨receiptId, checkpoint⟩ } j.entries }

theorem Applies.extends {receiptId : String} (h : Applies j id receiptId checkpoint j') :
    Extends j j' := by
  cases h with
  | known => exact .refl j
  | fresh found active answered unapplied =>
    refine extends_of_set found rfl rfl (fun r kept => kept) ?_
    intro a applied
    rw [unapplied] at applied
    cases applied

variable {appliedCheckpointId interactionId : Value}

theorem apply_ok (h : JournalFixed host j) {receiptId : Value}
    (ran : markInteractionApplied host j.toDict interactionId receiptId appliedCheckpointId =
      .ok out) : ∃ id receipt checkpoint j', requiredText "interaction_id" interactionId = .ok id ∧
      requiredText "receipt_id" receiptId = .ok receipt ∧
      requiredText "applied_checkpoint_id" appliedCheckpointId = .ok checkpoint ∧
      out = j'.toDict ∧ JournalFixed host j' ∧ Applies j id receipt checkpoint j' := by
  simp only [markInteractionApplied, bind_iff] at ran
  obtain ⟨validated, read, id, named, receipt, wanted, checkpoint, bound, ran⟩ := ran
  obtain rfl := Except.ok.inj (h.read.symm.trans read)
  refine ⟨id, receipt, checkpoint, ?_⟩
  cases found : j.entry id with
  | none =>
    rw [found] at ran
    cases ran
  | some e =>
    rw [found] at ran
    have entry := h.entries (id, e) (mem_of_get found)
    cases given : e.application with
    | some existing =>
      simp only [given] at ran
      split at ran
      · next same =>
          cases ran
          exact ⟨j, named, wanted, bound, rfl, h, .known found given same⟩
      · cases ran
    | none =>
      simp only [given, applyFresh, bind_iff, raiseIf_ok, exists_const] at ran
      obtain ⟨active, ran⟩ := ran
      have active : j.activeId = some id := by simpa using active
      cases recorded : e.receipt with
      | none =>
        rw [recorded] at ran
        cases ran
      | some r =>
        rw [recorded] at ran
        simp only [bind_iff, raiseIf_ok, exists_const] at ran
        obtain ⟨r', again, same, ran⟩ := ran
        obtain ⟨fixed, answers⟩ := entry.receipt r recorded
        have whole := (receipt_fromDict_ok (g := .raw (.dict r.toDict))
          entry.request.fromDict).mpr ⟨fixed.read, answers⟩
        obtain rfl := Except.ok.inj (whole.symm.trans again)
        let a : Application := { receiptId := receipt, appliedCheckpointId := checkpoint }
        let e' : JournalEntry := { e with application := some a }
        have entry' : EntryFixed host id e' := by
          refine { entry with receipt := ?_, application := ?_ }
          · intro r' kept
            exact entry.receipt r' kept
          · intro a' applied
            obtain rfl := Option.some.inj applied
            exact ⟨r, recorded, (by simpa using same : r.receiptId = receipt).symm,
              requiredText_again wanted, requiredText_again bound⟩
        have next := h.set found entry' (pending_apply h active found rfl)
        have written : Assoc.set id e' j.entries =
            Assoc.set id { e with receipt := some r, application := some a } j.entries := by
          rw [← recorded]
        have out_eq := Except.ok.inj (next.validate.symm.trans (written ▸ ran))
        exact ⟨_, named, wanted, bound, out_eq.symm, next, .fresh found active recorded given⟩

theorem apply_leaves (h : JournalFixed host j) {receiptId : Value}
    (ran : markInteractionApplied host j.toDict interactionId receiptId appliedCheckpointId =
      .ok out) : Leaves host j (.apply interactionId receiptId appliedCheckpointId) out := by
  obtain ⟨id, receipt, checkpoint, j', named, wanted, bound, rfl, fixed, applies⟩ := apply_ok h ran
  refine ⟨j', rfl, fixed, applies.extends, id, receipt, checkpoint, ?_⟩
  cases applies with
  | @known e a found given same => exact ⟨e, a, named, wanted, bound, found, given, same⟩
  | fresh found active answered unapplied =>
    exact ⟨_, ⟨receipt, checkpoint⟩, named, wanted, bound, get_set_self _ _ _, rfl,
      eqPy_self (Application.strict _)⟩

theorem run_leaves (h : JournalFixed host j) (ran : call.run host j.toDict = .ok out) :
    Leaves host j call out := by
  cases call with
  | register request checkpointId => exact register_leaves h ran
  | record receipt => exact record_leaves h ran
  | apply interactionId receiptId appliedCheckpointId => exact apply_leaves h ran

/-! ### Runs -/

abbrev JournalEvent := Entry PyError Value Value InteractionCall

variable {s' : Value}

theorem perform_ok {s : Value} (h : performInteraction host call s = .ok out s') :
    call.run host s = .ok out ∧ s' = out := by
  simp only [performInteraction, bind_run, get_run] at h
  cases ran : call.run host s with
  | error e =>
    rw [ran] at h
    cases h
  | ok next =>
    rw [ran] at h
    cases h
    exact ⟨rfl, rfl⟩

theorem perform_error {s : Value} {e : PyError} (h : performInteraction host call s = .error e s') :
    s' = s := by
  simp only [performInteraction, bind_run, get_run] at h
  cases ran : call.run host s with
  | error e =>
    rw [ran] at h
    cases h
    rfl
  | ok next =>
    rw [ran] at h
    cases h

structure Kept (host : InteractionHost) (j : Journal) (e : JournalEvent) : Prop where
  returned : ∀ out, e.reply = some out → e.after = out ∧
    validateInteractionJournal host out = .ok out ∧ e.call.run host out = .ok out
  raised : e.reply = none → e.after = e.before
  remembered : e.reply.isSome → Remembers host j e.call

/-- Where a run stands: its journal is fixed, extends the one it started from and remembers every
call that returned. -/
def Standing (host : InteractionHost) (start : Journal) (past : List JournalEvent) (s : Value) :
    Prop :=
  ∃ j, s = j.toDict ∧ JournalFixed host j ∧ Extends start j ∧ ∀ e ∈ past, Kept host j e

theorem Standing.step {start : Journal} {past : List JournalEvent} {s : Value}
    (h : Standing host start past s) (call : InteractionCall) :
    Standing host start (past ++ [record (performInteraction host) s call])
      (endState (performInteraction host call s)) := by
  obtain ⟨j, rfl, fixed, longer, kept⟩ := h
  rw [record]
  cases outcome : performInteraction host call j.toDict with
  | error e s' =>
    obtain rfl := perform_error outcome
    refine ⟨j, rfl, fixed, longer, ?_⟩
    intro e mem
    rcases List.mem_append.mp mem with mem | mem
    · exact kept e mem
    · obtain rfl := List.mem_singleton.mp mem
      constructor
      · intro out replied
        cases replied
      · intro _
        rfl
      · intro replied
        cases replied
  | ok out s' =>
    obtain ⟨ran, rfl⟩ := perform_ok outcome
    obtain ⟨j', rfl, fixed', next, remembers⟩ := run_leaves fixed ran
    refine ⟨j', rfl, fixed', longer.trans next, ?_⟩
    intro e mem
    rcases List.mem_append.mp mem with mem | mem
    · exact { kept e mem with
        remembered := fun replied => ((kept e mem).remembered replied).mono next }
    · obtain rfl := List.mem_singleton.mp mem
      constructor
      · rintro out ⟨⟩
        exact ⟨rfl, fixed'.validate, remembers.run fixed'⟩
      · intro replied
        cases replied
      · intro _
        exact remembers

theorem newInteractionJournal_fixed : JournalFixed host newInteractionJournal :=
  readJournal_fixed (show readJournal host .none = .ok newInteractionJournal from rfl)

theorem standing_new : Standing host newInteractionJournal [] newInteractionJournal.toDict :=
  ⟨newInteractionJournal, rfl, newInteractionJournal_fixed, .refl _, by simp⟩

def journalAfter (host : InteractionHost) (calls : List InteractionCall) : Value :=
  final (performInteraction host) newInteractionJournal.toDict calls

def journalEvents (host : InteractionHost) (calls : List InteractionCall) : List JournalEvent :=
  history (performInteraction host) newInteractionJournal.toDict calls

/-- The durable interaction journal over every run. Between the calls of `first` and those of
`second` it only grows; it is always its own validated form, its pending entries are the active
one, an applied interaction is not active, a call that raises leaves it, and a call that returned
returns it unchanged when it is repeated at once or at the end. -/
theorem interaction_journal (host : InteractionHost) (first second : List InteractionCall) :
    ∃ j j' : Journal, journalAfter host first = j.toDict ∧
      journalAfter host (first ++ second) = j'.toDict ∧
      validateInteractionJournal host j'.toDict = .ok j'.toDict ∧
      j'.pending = j'.activeId.toList ∧
      Extends j j' ∧
      (∀ id e, j.entry id = some e → e.application.isSome → j'.activeId ≠ some id) ∧
      ∀ e ∈ journalEvents host (first ++ second),
        (∀ out, e.reply = some out → e.after = out ∧
          validateInteractionJournal host out = .ok out ∧ e.call.run host out = .ok out ∧
          e.call.run host j'.toDict = .ok j'.toDict) ∧
        (e.reply = none → e.after = e.before) := by
  obtain ⟨j, after, fixed, -, kept⟩ :=
    final_of (I := Standing host newInteractionJournal) standing_new
      (fun _ _ call h => h.step call) first
  obtain ⟨j', after', fixed', longer, -⟩ :=
    final_of (I := Standing host j) ⟨j, rfl, fixed, .refl j, by simp⟩
      (fun _ _ call h => h.step call) second
  obtain ⟨k, whole, fixed'', -, every⟩ :=
    final_of (I := Standing host newInteractionJournal) standing_new
      (fun _ _ call h => h.step call) (first ++ second)
  rw [← after, ← final_append] at after'
  obtain rfl : j' = k := by
    have same : readJournal host j'.toDict = readJournal host k.toDict := by
      rw [← after', ← whole]
    rw [fixed'.read, fixed''.read] at same
    exact Except.ok.inj same
  refine ⟨j, j', after, after', fixed'.validate, fixed'.pending_eq, longer, ?_, ?_⟩
  · intro id e found applied active
    obtain ⟨a, given⟩ := Option.isSome_iff_exists.mp applied
    obtain ⟨e', found', -, -, -, application⟩ := longer.entry id e found
    have pending : id ∈ j'.pending := by
      rw [fixed'.pending_eq, active]
      simp
    obtain ⟨e₀, found₀, none₀⟩ := (mem_pending fixed'.distinct).mp pending
    obtain rfl := Option.some.inj (found'.symm.trans found₀)
    rw [application a given] at none₀
    cases none₀
  · intro e mem
    have kept := every e mem
    refine ⟨?_, kept.raised⟩
    intro out replied
    obtain ⟨returned, validated, again⟩ := kept.returned out replied
    have remembers := kept.remembered (by rw [replied]; rfl)
    exact ⟨returned, validated, again, remembers.run fixed'⟩

end Unchain.Interaction
