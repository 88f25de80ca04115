import Unchain.Interaction.StrictJson

/-!
Durable interactions: requests, receipts and the journal that holds them.

A request and a receipt check themselves as they are built; the journal is validated as a whole
before and after every operation. `readJournal` is the validator up to the object it returns,
which `Journal.toDict` writes.
-/

namespace Unchain.Interaction

open Lib Lib.Effect Python

/-- `InteractionNotPendingError`. -/
def notPendingError (message : String) : PyError := .raised "InteractionNotPendingError" message

/-- `InteractionReceiptConflictError`. -/
def receiptConflictError (message : String) : PyError :=
  .raised "InteractionReceiptConflictError" message

/-- `InteractionAlreadyAppliedError`. -/
def alreadyAppliedError (message : String) : PyError :=
  .raised "InteractionAlreadyAppliedError" message

/-- `INTERACTION_KINDS`. -/
def interactionKinds : List String := ["human_input", "tool_approval", "max_budget"]

/-- An argument that is an instance of the class or a raw object. -/
inductive Given (α : Type) where
  | built (x : α)
  | raw (v : Value)

/-- A field of an object whose fields have been checked. -/
def field (es : Dict) (key : String) : Value := (Assoc.get key es).getD .none

/-- `InteractionRequest`. The schema version and the digests are kept as they were given. -/
@[ext]
structure InteractionRequest where
  schemaVersion : Value
  interactionId : String
  sessionId : String
  kind : String
  sourceRunId : String
  occurrence : String
  payload : Value
  responseContract : Value
  schemaDigest : String
  requestDigest : String
  createdRevision : Int
  subject : Value

/-- `InteractionReceipt`. The schema version, the digests and the receipt id are kept as they were
given. -/
@[ext]
structure InteractionReceipt where
  schemaVersion : Value
  receiptId : String
  interactionId : String
  requestDigest : String
  response : Value
  responseDigest : String
  submittedBy : String
  receiptDigest : String
  submittedAtMs : Int

/-- `to_dict`. -/
def InteractionRequest.toDict (r : InteractionRequest) : Dict :=
  [("schema_version", r.schemaVersion), ("interaction_id", .str r.interactionId),
    ("session_id", .str r.sessionId), ("kind", .str r.kind),
    ("source_run_id", .str r.sourceRunId), ("occurrence", .str r.occurrence),
    ("payload", r.payload), ("response_contract", r.responseContract),
    ("schema_digest", .str r.schemaDigest), ("request_digest", .str r.requestDigest),
    ("created_revision", .int r.createdRevision), ("subject", r.subject)]

/-- `to_dict`. -/
def InteractionReceipt.toDict (r : InteractionReceipt) : Dict :=
  [("schema_version", r.schemaVersion), ("receipt_id", .str r.receiptId),
    ("interaction_id", .str r.interactionId), ("request_digest", .str r.requestDigest),
    ("response", r.response), ("response_digest", .str r.responseDigest),
    ("submitted_by", .str r.submittedBy), ("receipt_digest", .str r.receiptDigest),
    ("submitted_at_ms", .int r.submittedAtMs)]

/-- The first thirty-two digits of a digest. -/
def shortDigest (digest : String) : String := String.ofList (digest.toList.take 32)

/-- A text that must be there, kept as it was given: the constructors check the stripped text and
keep the other. -/
def textOf : Value → String
  | .str s => s
  | _ => ""

section Durable

variable (host : InteractionHost)

/-! ### Requests -/

/-- `self.kind not in INTERACTION_KINDS`, which hashes the kind. -/
def validateKind : Value → Except PyError String
  | .str kind =>
    if kind ∈ interactionKinds then .ok kind
    else .error (integrityError ("unsupported interaction kind: " ++ host.repr (.str kind)))
  | .list _ => .error (.typeError "unhashable type: 'list'")
  | .dict _ => .error (.typeError "unhashable type: 'dict'")
  | v => .error (integrityError ("unsupported interaction kind: " ++ host.repr v))

/-- `_request_core`. -/
def requestCore (sessionId kind sourceRunId occurrence : String) (payload responseContract : Value)
    (schemaDigest : String) (createdRevision : Int) (subject : Value) : Except PyError Value := do
  let payload ← strictJsonCopy host "$.payload" payload
  let responseContract ← strictJsonCopy host "$.response_contract" responseContract
  let subject ← strictJsonCopy host "$.subject" subject
  return .dict
    [("schema_version", .int 1), ("session_id", .str sessionId), ("kind", .str kind),
      ("source_run_id", .str sourceRunId), ("occurrence", .str occurrence), ("payload", payload),
      ("response_contract", responseContract), ("schema_digest", .str schemaDigest),
      ("created_revision", .int createdRevision), ("subject", subject)]

/-- The constructor with its `__post_init__`. -/
def InteractionRequest.make (es : Dict) : Except PyError InteractionRequest := do
  validateSchemaVersion host "interaction request" (field es "schema_version")
  let sessionId ← requiredText "session_id" (field es "session_id")
  let sourceRunId ← requiredText "source_run_id" (field es "source_run_id")
  let occurrence ← requiredText "occurrence" (field es "occurrence")
  let interactionId ← requiredText "interaction_id" (field es "interaction_id")
  let kind ← validateKind host (field es "kind")
  let createdRevision ← nonNegativeInt "created_revision" (field es "created_revision")
  let payload ← strictJsonCopy host "$.payload" (field es "payload")
  let responseContract ← strictJsonCopy host "$.response_contract" (field es "response_contract")
  let subject ← strictJsonCopy host "$.subject" (field es "subject")
  let schemaDigest ← requiredText "schema_digest" (field es "schema_digest")
  let requestDigest ← requiredText "request_digest" (field es "request_digest")
  let expectedSchemaDigest ← digest host responseContract
  raiseIf (schemaDigest ≠ expectedSchemaDigest)
    (integrityError "interaction request response schema digest mismatch")
  let core ← requestCore host sessionId kind sourceRunId occurrence payload responseContract
    schemaDigest createdRevision subject
  let expectedRequestDigest ← digest host core
  raiseIf (requestDigest ≠ expectedRequestDigest)
    (integrityError "interaction request digest mismatch")
  raiseIf (interactionId ≠ "interaction_" ++ shortDigest expectedRequestDigest)
    (integrityError "interaction_id does not match request digest")
  return { schemaVersion := field es "schema_version", interactionId, sessionId, kind, sourceRunId,
           occurrence, payload, responseContract,
           schemaDigest := textOf (field es "schema_digest"),
           requestDigest := textOf (field es "request_digest"), createdRevision, subject }

def requestFields : List String :=
  ["schema_version", "interaction_id", "session_id", "kind", "source_run_id", "occurrence",
    "payload", "response_contract", "schema_digest", "request_digest", "created_revision",
    "subject"]

/-- `InteractionRequest.from_dict`. -/
def InteractionRequest.fromDict : Given InteractionRequest → Except PyError InteractionRequest
  | .built r => make host r.toDict
  | .raw (.dict es) => do
    let copied ← strictJsonCopy host "$" (.dict es)
    requireExactFields host copied.entries requestFields "interaction request"
    make host copied.entries
  | .raw _ => .error (integrityError "interaction request must be an object")

/-! ### Receipts -/

/-- `_receipt_core`. -/
def receiptCore (interactionId requestDigest : String) (response : Value)
    (responseDigest submittedBy : String) : Except PyError Value := do
  let response ← strictJsonCopy host "$.response" response
  return .dict
    [("schema_version", .int 1), ("interaction_id", .str interactionId),
      ("request_digest", .str requestDigest), ("response", response),
      ("response_digest", .str responseDigest), ("submitted_by", .str submittedBy)]

/-- The constructor with its `__post_init__`. -/
def InteractionReceipt.make (es : Dict) : Except PyError InteractionReceipt := do
  validateSchemaVersion host "interaction receipt" (field es "schema_version")
  let interactionId ← requiredText "interaction_id" (field es "interaction_id")
  let requestDigest ← requiredText "request_digest" (field es "request_digest")
  let response ← strictJsonCopy host "$.response" (field es "response")
  let responseDigest ← requiredText "response_digest" (field es "response_digest")
  let submittedBy ← requiredText "submitted_by" (field es "submitted_by")
  let receiptDigest ← requiredText "receipt_digest" (field es "receipt_digest")
  let receiptId ← requiredText "receipt_id" (field es "receipt_id")
  let submittedAtMs ← nonNegativeInt "submitted_at_ms" (field es "submitted_at_ms")
  let expectedResponseDigest ← digest host response
  raiseIf (responseDigest ≠ expectedResponseDigest)
    (integrityError "interaction response digest mismatch")
  let core ← receiptCore host interactionId requestDigest response responseDigest submittedBy
  let expectedReceiptDigest ← digest host core
  raiseIf (receiptDigest ≠ expectedReceiptDigest)
    (integrityError "interaction receipt digest mismatch")
  raiseIf (receiptId ≠ "receipt_" ++ shortDigest expectedReceiptDigest)
    (integrityError "receipt_id does not match receipt digest")
  return { schemaVersion := field es "schema_version",
           receiptId := textOf (field es "receipt_id"), interactionId, requestDigest, response,
           responseDigest := textOf (field es "response_digest"), submittedBy,
           receiptDigest := textOf (field es "receipt_digest"), submittedAtMs }

def receiptFields : List String :=
  ["schema_version", "receipt_id", "interaction_id", "request_digest", "response",
    "response_digest", "submitted_by", "receipt_digest", "submitted_at_ms"]

/-- The receipt of `InteractionReceipt.from_dict`, before it is bound to a request. -/
def InteractionReceipt.read : Given InteractionReceipt → Except PyError InteractionReceipt
  | .built r => make host r.toDict
  | .raw (.dict es) => do
    let copied ← strictJsonCopy host "$" (.dict es)
    requireExactFields host copied.entries receiptFields "interaction receipt"
    make host copied.entries
  | .raw _ => .error (integrityError "interaction receipt must be an object")

def checkBound (receipt : InteractionReceipt) (request : Given InteractionRequest) :
    Except PyError Unit := do
  let bound ← InteractionRequest.fromDict host request
  raiseIf (receipt.interactionId ≠ bound.interactionId
      ∨ receipt.requestDigest ≠ bound.requestDigest)
    (integrityError "interaction receipt does not belong to the request")

/-- `InteractionReceipt.from_dict` with a request. -/
def InteractionReceipt.fromDict (raw : Given InteractionReceipt)
    (request : Given InteractionRequest) : Except PyError InteractionReceipt := do
  let receipt ← read host raw
  checkBound host receipt request
  return receipt

/-- `build_interaction_receipt`. -/
def buildInteractionReceipt (request : Given InteractionRequest) (response : Value)
    (submittedBy : String) (submittedAtMs : Int) : Except PyError InteractionReceipt := do
  let bound ← InteractionRequest.fromDict host request
  let response ← strictJsonCopy host "$.response" response
  let submittedAtMs ← nonNegativeInt "submitted_at_ms" (.int submittedAtMs)
  let submittedBy ← requiredText "submitted_by" (.str submittedBy)
  let responseDigest ← digest host response
  let core ← receiptCore host bound.interactionId bound.requestDigest response responseDigest
    submittedBy
  let receiptDigest ← digest host core
  InteractionReceipt.make host
    (core.entries ++ [("receipt_id", .str ("receipt_" ++ shortDigest receiptDigest)),
      ("receipt_digest", .str receiptDigest), ("submitted_at_ms", .int submittedAtMs)])

/-! ### The journal -/

structure Application where
  receiptId : String
  appliedCheckpointId : String

def Application.toDict (a : Application) : Value :=
  .dict [("schema_version", .int 1), ("receipt_id", .str a.receiptId),
    ("applied_checkpoint_id", .str a.appliedCheckpointId)]

structure JournalEntry where
  request : InteractionRequest
  checkpointId : String
  receipt : Option InteractionReceipt
  application : Option Application

def receiptDict : Option InteractionReceipt → Value
  | some receipt => .dict receipt.toDict
  | none => .none

def applicationDict : Option Application → Value
  | some application => application.toDict
  | none => .none

def JournalEntry.toDict (e : JournalEntry) : Value :=
  .dict [("request", .dict e.request.toDict), ("checkpoint_id", .str e.checkpointId),
    ("receipt", receiptDict e.receipt), ("application", applicationDict e.application)]

structure Journal where
  activeId : Option String
  entries : List (String × JournalEntry)
  order : List String

def activeDict : Option String → Value
  | some id => .str id
  | none => .none

/-- The object a journal is kept as. -/
def Journal.toDict (j : Journal) : Value :=
  .dict [("schema_version", .int 1), ("active_id", activeDict j.activeId),
    ("entries", .dict (j.entries.map fun e => (e.1, e.2.toDict))),
    ("order", .list (j.order.map .str))]

/-- The ids of the entries that are not applied. -/
def Journal.pending (j : Journal) : List String :=
  (j.entries.filter fun e => e.2.application.isNone).map Prod.fst

/-- `new_interaction_journal`. -/
def newInteractionJournal : Journal := { activeId := none, entries := [], order := [] }

/-- `_validate_application`. -/
def validateApplication (receipt : InteractionReceipt) :
    Value → Except PyError (Option Application)
  | .none => .ok none
  | .dict es => do
    let copied ← strictJsonCopy host "$" (.dict es)
    requireExactFields host copied.entries
      ["schema_version", "receipt_id", "applied_checkpoint_id"] "interaction application"
    validateSchemaVersion host "interaction application" (copied.get "schema_version")
    let receiptId ← requiredText "application.receipt_id" (copied.get "receipt_id")
    raiseIf (receiptId ≠ receipt.receiptId)
      (integrityError "interaction application does not match its receipt")
    let appliedCheckpointId ← requiredText "application.applied_checkpoint_id"
      (copied.get "applied_checkpoint_id")
    return some { receiptId, appliedCheckpointId }
  | _ => .error (integrityError "interaction application must be an object")

def readReceipt (request : InteractionRequest) (raw : Value) :
    Except PyError (Option InteractionReceipt) :=
  if raw.isNone then .ok none
  else (InteractionReceipt.fromDict host (.raw raw) (.built request)).map some

def readApplication (receipt : Option InteractionReceipt) (raw : Value) :
    Except PyError (Option Application) :=
  match receipt with
  | some receipt => validateApplication host receipt raw
  | none => do
    raiseIf (!raw.isNone) (integrityError "interaction application requires a receipt")
    return none

/-- One round of the loop over the entries. -/
def readEntry (item : String × Value) : Except PyError (String × JournalEntry) :=
  match item.2 with
  | .dict es => do
    raiseIf item.1.isEmpty
      (integrityError "interaction journal entry ids must be non-empty strings")
    let entry ← strictJsonCopy host "$" (.dict es)
    requireExactFields host entry.entries ["request", "checkpoint_id", "receipt", "application"]
      "interaction journal entry"
    let request ← InteractionRequest.fromDict host (.raw (entry.get "request"))
    raiseIf (request.interactionId ≠ item.1)
      (integrityError "interaction journal entry id does not match its request")
    let checkpointId ← requiredText "checkpoint_id" (entry.get "checkpoint_id")
    let receipt ← readReceipt host request (entry.get "receipt")
    let application ← readApplication host receipt (entry.get "application")
    return (item.1, { request, checkpointId, receipt, application })
  | _ => do
    raiseIf item.1.isEmpty
      (integrityError "interaction journal entry ids must be non-empty strings")
    .error (integrityError "interaction journal entry must be an object")

def entriesOf : Value → Except PyError Dict
  | .dict es => .ok es
  | _ => .error (integrityError "interaction journal entries must be an object")

def idOf : Value → Except PyError String
  | .str id =>
    if id.isEmpty then
      .error (integrityError "interaction journal order must contain non-empty interaction ids")
    else .ok id
  | _ => .error (integrityError "interaction journal order must contain non-empty interaction ids")

def orderOf : Value → Except PyError (List String)
  | .list items => items.mapM idOf
  | _ => .error (integrityError "interaction journal order must contain non-empty interaction ids")

def activeIdOf : Value → Except PyError (Option String)
  | .none => .ok none
  | .str id =>
    if id.isEmpty then
      .error (integrityError "interaction journal active_id must be a non-empty string or null")
    else .ok (some id)
  | _ => .error (integrityError "interaction journal active_id must be a non-empty string or null")

/-- `validate_interaction_journal` up to the object it returns. -/
def readJournal : Value → Except PyError Journal
  | .none => .ok newInteractionJournal
  | .dict es => do
    let journal ← strictJsonCopy host "$" (.dict es)
    requireExactFields host journal.entries ["schema_version", "active_id", "entries", "order"]
      "interaction journal"
    raiseIf (foreignVersion (journal.get "schema_version"))
      (integrityError ("unsupported interaction journal schema_version: "
        ++ host.repr (journal.get "schema_version")))
    let entriesRaw ← entriesOf (journal.get "entries")
    let order ← orderOf (journal.get "order")
    raiseIf (order.dedup.length ≠ order.length)
      (integrityError "interaction journal order contains duplicates")
    let activeId ← activeIdOf (journal.get "active_id")
    let entries ← entriesRaw.mapM (readEntry host)
    raiseIf (!(order.all fun id => Assoc.has id entries) ||
        !(Assoc.keys entries).all fun id => decide (id ∈ order))
      (integrityError "interaction journal order must list every entry exactly once")
    raiseIf (activeId.any fun id => !Assoc.has id entries)
      (integrityError "interaction journal active_id does not identify an entry")
    let read : Journal := { activeId, entries, order }
    raiseIf (read.pending ≠ activeId.toList)
      (integrityError "interaction journal active_id does not match pending entries")
    return read
  | _ => .error (integrityError "interaction journal must be an object")

/-- `validate_interaction_journal`. -/
def validateInteractionJournal (raw : Value) : Except PyError Value :=
  (readJournal host raw).map Journal.toDict

/-! ### The operations -/

def Journal.entry (j : Journal) (id : String) : Option JournalEntry := Assoc.get id j.entries

/-- `register_interaction_request`. -/
def registerInteractionRequest (journal : Value) (request : Given InteractionRequest)
    (checkpointId : Value) : Except PyError Value := do
  let validated ← readJournal host journal
  let bound ← InteractionRequest.fromDict host request
  let checkpoint ← requiredText "checkpoint_id" checkpointId
  match validated.entry bound.interactionId with
  | some existing =>
    if (Value.dict existing.request.toDict).eqPy (.dict bound.toDict)
        ∧ existing.checkpointId = checkpoint then return validated.toDict
    else .error (integrityError
      "interaction_id is already registered with different request data")
  | none => do
    raiseIf (validated.activeId.any fun active => active ≠ bound.interactionId)
      (notPendingError ("another interaction is already pending: "
        ++ host.repr (activeDict validated.activeId)))
    let entry : JournalEntry :=
      { request := bound, checkpointId := checkpoint, receipt := none, application := none }
    let registered : Journal :=
      { activeId := some bound.interactionId
        entries := Assoc.set bound.interactionId entry validated.entries
        order := validated.order ++ [bound.interactionId] }
    validateInteractionJournal host registered.toDict

/-- `record_interaction_receipt` on an entry that has no receipt. -/
def recordFresh (validated : Journal) (entry : JournalEntry) (receipt : InteractionReceipt) :
    Except PyError Value := do
  raiseIf entry.application.isSome
    (integrityError "interaction application exists without a receipt")
  raiseIf (validated.activeId ≠ some receipt.interactionId)
    (notPendingError ("interaction is no longer pending: "
      ++ host.repr (.str receipt.interactionId)))
  let recorded : Journal :=
    { validated with
      entries :=
        Assoc.set receipt.interactionId { entry with receipt := some receipt } validated.entries }
  validateInteractionJournal host recorded.toDict

/-- `record_interaction_receipt`. -/
def recordInteractionReceipt (journal : Value) (receipt : Given InteractionReceipt) :
    Except PyError Value := do
  let validated ← readJournal host journal
  let bound ← InteractionReceipt.read host receipt
  match validated.entry bound.interactionId with
  | none =>
    .error (notPendingError ("interaction is not pending: "
      ++ host.repr (.str bound.interactionId)))
  | some entry => do
    let request ← InteractionRequest.fromDict host (.raw (.dict entry.request.toDict))
    let _ ← InteractionReceipt.fromDict host (.built bound) (.built request)
    match entry.receipt with
    | some existingRaw => do
      let existing ←
        InteractionReceipt.fromDict host (.raw (.dict existingRaw.toDict)) (.built request)
      if existing.receiptDigest = bound.receiptDigest then return validated.toDict
      else if entry.application.isSome then
        .error (alreadyAppliedError ("interaction receipt is already applied: "
          ++ host.repr (.str bound.interactionId)))
      else
        .error (receiptConflictError ("interaction already has a different receipt: "
          ++ host.repr (.str bound.interactionId)))
    | none => recordFresh host validated entry bound

/-- `mark_interaction_applied` on an entry that is not applied. -/
def applyFresh (validated : Journal) (id : String) (entry : JournalEntry)
    (application : Application) : Except PyError Value := do
  raiseIf (validated.activeId ≠ some id)
    (notPendingError ("interaction is no longer pending: " ++ host.repr (.str id)))
  match entry.receipt with
  | none =>
    .error (notPendingError "interaction cannot be applied before a receipt is recorded")
  | some raw => do
    let receipt ← InteractionReceipt.fromDict host (.raw (.dict raw.toDict))
      (.raw (.dict entry.request.toDict))
    raiseIf (receipt.receiptId ≠ application.receiptId)
      (integrityError "applied receipt_id does not match the recorded receipt")
    let applied : Journal :=
      { validated with
        activeId := none
        entries := Assoc.set id { entry with application := some application }
          validated.entries }
    validateInteractionJournal host applied.toDict

/-- `mark_interaction_applied`. -/
def markInteractionApplied (journal : Value) (interactionId receiptId appliedCheckpointId : Value) :
    Except PyError Value := do
  let validated ← readJournal host journal
  let id ← requiredText "interaction_id" interactionId
  let receiptId ← requiredText "receipt_id" receiptId
  let checkpoint ← requiredText "applied_checkpoint_id" appliedCheckpointId
  match validated.entry id with
  | none => .error (notPendingError ("interaction is not pending: " ++ host.repr (.str id)))
  | some entry =>
    let application : Application := { receiptId, appliedCheckpointId := checkpoint }
    match entry.application with
    | some existing =>
      if existing.toDict.eqPy application.toDict then return validated.toDict
      else .error (alreadyAppliedError ("interaction is already applied: "
        ++ host.repr (.str id)))
    | none => applyFresh host validated id entry application

/-! ### A journal under calls -/

/-- An operation with its arguments. -/
inductive InteractionCall where
  | register (request : Given InteractionRequest) (checkpointId : Value)
  | record (receipt : Given InteractionReceipt)
  | apply (interactionId receiptId appliedCheckpointId : Value)

def InteractionCall.run (journal : Value) : InteractionCall → Except PyError Value
  | .register request checkpointId => registerInteractionRequest host journal request checkpointId
  | .record receipt => recordInteractionReceipt host journal receipt
  | .apply interactionId receiptId appliedCheckpointId =>
    markInteractionApplied host journal interactionId receiptId appliedCheckpointId

def performInteraction (call : InteractionCall) : EStateM PyError Value Value := do
  let journal ← get
  let next ← lift (call.run host journal)
  set next
  return next

end Durable

end Unchain.Interaction
