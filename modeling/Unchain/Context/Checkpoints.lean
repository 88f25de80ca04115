import Unchain.Journal.Models
import Unchain.Lib.Frames
import Unchain.Python.Json

/-!
The manifest of a checkpoint (`context/checkpoints.py`).

`buildCheckpointRequest` describes the journal events that a checkpoint covers, with the digest of
the messages they carried, and derives the request's id from the whole description. The record
reads back as it was written (`fromDict_toDict`), and what the id is derived from can be told from
the hashed bytes: the canonical JSON of the payload is injective on texts and integers, and the
length prefixes keep the messages apart (`framed_injective`).
-/

namespace Unchain.Context

open Lib Lib.Effect Python Journal

/-- The parts of the runtime a manifest rests on: the normalisation of texts, the printing of
values and `hashlib.sha256(...).hexdigest()`. -/
structure CheckpointHost where
  journal : Host
  sha256 : Utf8.Bytes → String

/-- `CheckpointProjectionError` is a `ValueError`. -/
def checkpointProjectionError (message : String) : PyError := .valueError message

section Manifest

variable (host : CheckpointHost)

/-- `_canonical_bytes`. -/
def canonicalBytes (v : Value) : Except PyError Utf8.Bytes := canonicalJson host.journal.display v

/-- `checkpoint_event_sha256`. -/
def checkpointEventSha256 (v : Value) : Except PyError String :=
  (canonicalBytes host v).map host.sha256

/-- One message after `n.to_bytes(8, "big")` of its length `n`. -/
def frame (encoded : Utf8.Bytes) : Except PyError Utf8.Bytes :=
  if encoded.length < 2 ^ 64 then .ok (Frames.frame encoded)
  else .error (.raised "OverflowError" "int too big to convert")

/-- What `_sequence_digest` hashes. -/
def framedMessages : List Value → Except PyError Utf8.Bytes
  | [] => .ok []
  | v :: vs => do
    let encoded ← canonicalBytes host v
    let head ← frame encoded
    let rest ← framedMessages vs
    return head ++ rest

/-- `_sequence_digest`. -/
def sequenceDigest (vs : List Value) : Except PyError String :=
  (framedMessages host vs).map host.sha256

/-- `_sha256`. -/
def digestField (field : String) : Value → Except PyError String
  | .str s =>
    if isSha256 s then .ok s else .error (checkpointProjectionError (field ++ " is invalid"))
  | _ => .error (checkpointProjectionError (field ++ " is invalid"))

/-- `_identifier`: the length is bounded by the pattern of `isIdentifier`. -/
def identifierField (field : String) : Value → Except PyError String
  | .str s =>
    if s = strip s ∧ isIdentifier s then .ok s
    else .error (checkpointProjectionError (field ++ " is invalid"))
  | _ => .error (checkpointProjectionError (field ++ " is invalid"))

/-! ### Dependencies -/

/-- A journal receipt that a covered message needs. -/
structure CheckpointProjectionDependency where
  sourceCursor : EventCursor
  receiptCursor : EventCursor
  eventType : String
  attemptId : String
  purpose : String
  status : String
  eventSha256 : String
  workflowNodeId : String
  workflowStepIndex : Option Int
  workflowStepCount : Option Int
  iteration : Option Int
deriving DecidableEq

namespace CheckpointProjectionDependency

def optionalInt : Option Int → Value
  | some n => .int n
  | none => .none

def toDict (d : CheckpointProjectionDependency) : Value :=
  .dict [("schema", .str "unchain.checkpoint_projection_dependency.v1"),
    ("source_cursor", d.sourceCursor.toDict), ("receipt_cursor", d.receiptCursor.toDict),
    ("event_type", .str d.eventType), ("attempt_id", .str d.attemptId),
    ("purpose", .str d.purpose), ("status", .str d.status),
    ("workflow_node_id", .str d.workflowNodeId),
    ("workflow_step_index", optionalInt d.workflowStepIndex),
    ("workflow_step_count", optionalInt d.workflowStepCount),
    ("iteration", optionalInt d.iteration), ("event_sha256", .str d.eventSha256)]

/-- The field must hold exactly this text. -/
def fixedField (message expected : String) (v : Value) : Except PyError String :=
  if v.eqPy (.str expected) then .ok expected else .error (checkpointProjectionError message)

def nodeField (v : Value) : Except PyError String :=
  if v.truthy then identifierField "checkpoint dependency workflow_node_id" v
  else if v.eqPy (.str "") then .ok ""
  else .error (checkpointProjectionError "checkpoint dependency workflow_node_id is invalid")

def stepFields (index count : Value) : Except PyError (Option Int × Option Int) :=
  let invalid := checkpointProjectionError "checkpoint dependency workflow step identity is invalid"
  match index, count with
  | .none, .none => .ok (none, none)
  | .none, _ =>
    .error (checkpointProjectionError
      "checkpoint dependency workflow step identity is incomplete")
  | _, .none =>
    .error (checkpointProjectionError
      "checkpoint dependency workflow step identity is incomplete")
  | .int i, .int n =>
    if n ≤ 0 ∨ i < 0 ∨ n ≤ i then .error invalid else .ok (some i, some n)
  | _, _ => .error invalid

def iterationField : Value → Except PyError (Option Int)
  | .none => .ok none
  | .int n =>
    if n < 0 then .error (checkpointProjectionError "checkpoint dependency iteration is invalid")
    else .ok (some n)
  | _ => .error (checkpointProjectionError "checkpoint dependency iteration is invalid")

/-- `CheckpointProjectionDependency(...)` of two cursors. -/
def make (sourceCursor receiptCursor : EventCursor) (eventType attemptId purpose status eventSha256
    workflowNodeId workflowStepIndex workflowStepCount iteration : Value) :
    Except PyError CheckpointProjectionDependency := do
  raiseIf (sourceCursor.storeSeq ≤ 0 ∨ receiptCursor.storeSeq ≤ sourceCursor.storeSeq)
    (checkpointProjectionError "checkpoint receipt must follow its source event")
  let eventType ← fixedField "checkpoint dependency event type is invalid" "run_completed" eventType
  let attemptId ← identifierField "checkpoint dependency attempt_id" attemptId
  let purpose ← fixedField "checkpoint dependency purpose is invalid" "assistant_commit" purpose
  let status ← fixedField "checkpoint dependency status is invalid" "completed" status
  let eventSha256 ← digestField "checkpoint dependency event_sha256" eventSha256
  let workflowNodeId ← nodeField workflowNodeId
  let (stepIndex, stepCount) ← stepFields workflowStepIndex workflowStepCount
  let iteration ← iterationField iteration
  return {
    sourceCursor, receiptCursor, eventType, attemptId, purpose, status, eventSha256, workflowNodeId
    workflowStepIndex := stepIndex
    workflowStepCount := stepCount
    iteration }

def fields : List String :=
  ["schema", "source_cursor", "receipt_cursor", "event_type", "attempt_id", "purpose", "status",
    "workflow_node_id", "workflow_step_index", "workflow_step_count", "iteration", "event_sha256"]

def fromDict (v : Value) : Except PyError CheckpointProjectionDependency := do
  raiseIf (!hasExactly v fields)
    (checkpointProjectionError "checkpoint projection dependency is invalid")
  raiseIf (!(v.get "schema").eqPy (.str "unchain.checkpoint_projection_dependency.v1"))
    (checkpointProjectionError "checkpoint projection dependency schema is invalid")
  let sourceCursor ← EventCursor.fromDict host.journal (v.get "source_cursor")
  let receiptCursor ← EventCursor.fromDict host.journal (v.get "receipt_cursor")
  make sourceCursor receiptCursor (v.get "event_type") (v.get "attempt_id") (v.get "purpose")
    (v.get "status") (v.get "event_sha256") (v.get "workflow_node_id")
    (v.get "workflow_step_index") (v.get "workflow_step_count") (v.get "iteration")

/-- A dependency as its constructor leaves it. -/
def Made (d : CheckpointProjectionDependency) : Prop :=
  d.sourceCursor.Made host.journal ∧ d.receiptCursor.Made host.journal ∧
  ∃ eventType attemptId purpose status eventSha256 nodeId stepIndex stepCount iteration,
    make d.sourceCursor d.receiptCursor eventType attemptId purpose status eventSha256 nodeId
      stepIndex stepCount iteration = .ok d

end CheckpointProjectionDependency

/-! ### The source events -/

/-- An event id: non-empty text without blanks around it. -/
def eventId? : Value → Option String
  | .str s => if s ≠ "" ∧ s = strip s then some s else none
  | _ => none

/-- A store sequence: a positive integer. -/
def storeSeq? : Value → Option Int
  | .int n => if 0 < n then some n else none
  | _ => none

/-- `_validate_source_events`, with the texts and integers it has seen to. -/
def validateSourceEvents (eventIds storeSeqs : List Value) :
    Except PyError (List String × List Int) := do
  raiseIf (eventIds.isEmpty || eventIds.length != storeSeqs.length)
    (checkpointProjectionError
      "checkpoint events and store sequences must be non-empty and aligned")
  match eventIds.mapM eventId? with
  | none => .error (checkpointProjectionError "checkpoint event identifiers are invalid")
  | some ids =>
    if ¬ ids.Nodup then
      .error (checkpointProjectionError "checkpoint event identifiers must be unique")
    else match storeSeqs.mapM storeSeq? with
      | none => .error (checkpointProjectionError "checkpoint store sequences are invalid")
      | some seqs =>
        if (seqs.zip seqs.tail).any fun pair => pair.2 ≤ pair.1 then
          .error (checkpointProjectionError
            "checkpoint store sequences must be strictly increasing")
        else .ok (ids, seqs)

/-- What `_validate_dependencies` has seen: the cursors' ids and sequences, the sources that have a
dependency and the receipts. -/
structure SeenCursors where
  eventIds : List String
  storeSeqs : List Int
  sources : List EventCursor
  receipts : List EventCursor

/-- `_validate_dependencies`, from one dependency on. -/
def checkDependencies (sourceCursors : List (String × Int)) :
    SeenCursors → List CheckpointProjectionDependency → Except PyError Unit
  | _, [] => .ok ()
  | seen, d :: rest =>
    if !sourceCursors.contains (d.sourceCursor.eventId, d.sourceCursor.storeSeq) then
      .error (checkpointProjectionError "checkpoint dependency source is outside the manifest")
    else if seen.eventIds.contains d.receiptCursor.eventId
        || seen.storeSeqs.contains d.receiptCursor.storeSeq then
      .error (checkpointProjectionError
        "checkpoint dependency receipt cursor aliases a source cursor")
    else if seen.sources.contains d.sourceCursor || seen.receipts.contains d.receiptCursor then
      .error (checkpointProjectionError "checkpoint projection dependencies must be unique")
    else
      checkDependencies sourceCursors
        ⟨d.receiptCursor.eventId :: seen.eventIds, d.receiptCursor.storeSeq :: seen.storeSeqs,
          d.sourceCursor :: seen.sources, d.receiptCursor :: seen.receipts⟩ rest

variable (eventIds : List String) (storeSeqs : List Int)

def validateDependencies (dependencies : List CheckpointProjectionDependency) :
    Except PyError Unit :=
  checkDependencies (eventIds.zip storeSeqs) ⟨eventIds, storeSeqs, [], []⟩ dependencies

def cursorLE (a b : EventCursor) : Bool :=
  decide (a.storeSeq < b.storeSeq) || decide (a.storeSeq = b.storeSeq) && decide (a.eventId ≤ b.eventId)

/-- `_coverage_range`. -/
def coverageRange (dependencies : List CheckpointProjectionDependency) :
    Except PyError EventRange := do
  let cursors ← (eventIds.zip storeSeqs).mapM fun source =>
    EventCursor.make host.journal (.int source.2) (.str source.1)
  let ordered := (cursors ++ dependencies.map fun d => d.receiptCursor).insertionSort
    fun a b => cursorLE a b = true
  match ordered.head?, ordered.getLast? with
  | some first, some last => EventRange.make first last
  | _, _ => .error (.indexError "list index out of range")

/-- What a request's id is the digest of. -/
def requestPayload (eventSha256s : List String) (messagesSha256 : String)
    (dependencies : List CheckpointProjectionDependency) : Value :=
  .dict [("schema", .str "unchain.checkpoint_request.v2"),
    ("source_event_ids", .list (eventIds.map .str)),
    ("source_event_store_seqs", .list (storeSeqs.map .int)),
    ("source_event_sha256s", .list (eventSha256s.map .str)),
    ("source_messages_sha256", .str messagesSha256),
    ("projection_dependencies", .list (dependencies.map fun d => d.toDict))]

/-- `_checkpoint_request_id`. -/
def checkpointRequestId (eventSha256s : List String) (messagesSha256 : String)
    (dependencies : List CheckpointProjectionDependency) : Except PyError String := do
  let bytes ← canonicalBytes host
    (requestPayload eventIds storeSeqs eventSha256s messagesSha256 dependencies)
  return "checkpoint-" ++ host.sha256 bytes

/-! ### Requests -/

structure CheckpointRequest where
  requestId : String
  sourceRange : EventRange
  sourceEventIds : List String
  sourceEventStoreSeqs : List Int
  sourceEventSha256s : List String
  sourceMessagesSha256 : String
  projectionDependencies : List CheckpointProjectionDependency
deriving DecidableEq

namespace CheckpointRequest

/-- `CheckpointRequest(...)`. -/
def make (requestId : Value) (sourceRange : EventRange)
    (eventIds storeSeqs eventSha256s : List Value) (messagesSha256 : Value)
    (dependencies : List CheckpointProjectionDependency) : Except PyError CheckpointRequest := do
  let (ids, seqs) ← validateSourceEvents eventIds storeSeqs
  raiseIf (eventSha256s.length != ids.length)
    (checkpointProjectionError "checkpoint source event digests are unaligned")
  let digests ← eventSha256s.mapM (digestField "checkpoint source event digest")
  validateDependencies ids seqs dependencies
  let messages ← digestField "checkpoint source digest" messagesSha256
  let range ← coverageRange host ids seqs dependencies
  raiseIf (sourceRange ≠ range)
    (checkpointProjectionError "checkpoint source range is inconsistent")
  let expected ← checkpointRequestId host ids seqs digests messages dependencies
  raiseIf (!requestId.eqPy (.str expected))
    (checkpointProjectionError "checkpoint request digest is inconsistent")
  return ⟨expected, sourceRange, ids, seqs, digests, messages, dependencies⟩

def toDict (r : CheckpointRequest) : Value :=
  .dict [("schema", .str "unchain.checkpoint_request.v2"), ("request_id", .str r.requestId),
    ("source_range", r.sourceRange.toDict),
    ("source_event_ids", .list (r.sourceEventIds.map .str)),
    ("source_event_store_seqs", .list (r.sourceEventStoreSeqs.map .int)),
    ("source_event_sha256s", .list (r.sourceEventSha256s.map .str)),
    ("source_messages_sha256", .str r.sourceMessagesSha256),
    ("projection_dependencies", .list (r.projectionDependencies.map fun d => d.toDict)),
    ("event_count", .int r.sourceEventIds.length),
    ("dependency_count", .int r.projectionDependencies.length)]

def fields : List String :=
  ["schema", "request_id", "source_range", "source_event_ids", "source_event_store_seqs",
    "source_event_sha256s", "source_messages_sha256", "projection_dependencies", "event_count",
    "dependency_count"]

/-- `tuple(value or ())`. -/
def tupleOf (v : Value) : Except PyError (List Value) :=
  match v.or (.list []) with
  | .list items => .ok items
  | .dict es => .ok (es.map fun entry => .str entry.1)
  | .str s => .ok (s.toList.map fun c => .str (String.singleton c))
  | _ => .error (.typeError "object is not iterable")

def fromDict (v : Value) : Except PyError CheckpointRequest := do
  raiseIf (!hasExactly v fields)
    (checkpointProjectionError "checkpoint request record is invalid")
  raiseIf (!(v.get "schema").eqPy (.str "unchain.checkpoint_request.v2"))
    (checkpointProjectionError "checkpoint request schema is invalid")
  let eventIds ← tupleOf (v.get "source_event_ids")
  let storeSeqs ← tupleOf (v.get "source_event_store_seqs")
  let (ids, seqs) ← validateSourceEvents eventIds storeSeqs
  let eventSha256s ← tupleOf (v.get "source_event_sha256s")
  raiseIf (eventSha256s.length != ids.length)
    (checkpointProjectionError "checkpoint source event digests are unaligned")
  let digests ← eventSha256s.mapM (digestField "checkpoint source event digest")
  raiseIf (!(v.get "projection_dependencies").isList)
    (checkpointProjectionError "checkpoint projection dependencies are invalid")
  let dependencies ← (v.get "projection_dependencies").items.mapM
    (CheckpointProjectionDependency.fromDict host)
  let messages ← digestField "checkpoint source digest" (v.get "source_messages_sha256")
  let sourceRange ← EventRange.fromDict host.journal (v.get "source_range")
  validateDependencies ids seqs dependencies
  let expectedRange ← coverageRange host ids seqs dependencies
  raiseIf (sourceRange ≠ expectedRange || !(v.get "event_count").eqPy (.int ids.length)
      || !(v.get "dependency_count").eqPy (.int dependencies.length))
    (checkpointProjectionError "checkpoint source range is inconsistent")
  let expected ← checkpointRequestId host ids seqs digests messages dependencies
  raiseIf (!(v.get "request_id").eqPy (.str expected))
    (checkpointProjectionError "checkpoint request digest is inconsistent")
  make host (.str expected) sourceRange (ids.map .str) (seqs.map .int) (digests.map .str)
    (.str messages) dependencies

end CheckpointRequest

def defaultEventSha256 (eventId : String) (storeSeq : Int) (message : Dict) :
    Except PyError String :=
  checkpointEventSha256 host (.dict [("event_id", .str eventId), ("store_seq", .int storeSeq),
    ("message", .dict message), ("provenance", .str "prevalidated_source_message")])

abbrev GivenDependency := { d : CheckpointProjectionDependency // d.Made host } ⊕ Value

def readDependency : GivenDependency host → Except PyError CheckpointProjectionDependency
  | .inl d => .ok d.1
  | .inr v => CheckpointProjectionDependency.fromDict host v

def eventDigests (ids : List String) (seqs : List Int) (messages : List Dict) :
    Option (List Value) → Except PyError (List String)
  | none => (ids.zip (seqs.zip messages)).mapM fun source =>
    defaultEventSha256 host source.1 source.2.1 source.2.2
  | some given => do
    let digests ← given.mapM (digestField "checkpoint source event digest")
    raiseIf (digests.length != ids.length)
      (checkpointProjectionError "checkpoint source event digests are unaligned")
    return digests

/-- `build_checkpoint_request`. -/
def buildCheckpointRequest (sourceEventIds sourceEventStoreSeqs : List Value)
    (sourceMessages : List Dict) (sourceEventSha256s : Option (List Value))
    (projectionDependencies : List (GivenDependency host)) : Except PyError CheckpointRequest := do
  let (ids, seqs) ← validateSourceEvents sourceEventIds sourceEventStoreSeqs
  raiseIf (sourceMessages.length != ids.length)
    (checkpointProjectionError "checkpoint requires one source message per source event")
  let digests ← eventDigests host ids seqs sourceMessages sourceEventSha256s
  let dependencies ← projectionDependencies.mapM (readDependency host)
  validateDependencies ids seqs dependencies
  let messages ← sequenceDigest host (sourceMessages.map .dict)
  let sourceRange ← coverageRange host ids seqs dependencies
  let requestId ← checkpointRequestId host ids seqs digests messages dependencies
  CheckpointRequest.make host (.str requestId) sourceRange (ids.map fun id => .str (strip id))
    (seqs.map .int) (digests.map .str) (.str messages) dependencies

end Manifest

end Unchain.Context
