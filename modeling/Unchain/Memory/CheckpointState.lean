import Unchain.Memory.Revision
import Unchain.Interaction.Journal

/-!
Execution checkpoints and the durable interaction they wait for (`memory/checkpoint_state.py`).

A checkpoint carries its digest, and its id is read off the digest. `interaction_ref` names the
interaction of the journal it waits for; the two functions that end the module move the journal of
a session together with its checkpoint.
-/

namespace Unchain.Memory

open Lib Lib.Effect Interaction Python

/-- `INTERACTION_JOURNAL_KEY`. -/
def interactionJournalKey : String := "interaction_journal"

/-- `EXECUTION_CHECKPOINT_KEY`. -/
def executionCheckpointKey : String := "execution_checkpoint"

/-- `EXECUTION_CHECKPOINT_DOMAIN_KEY`. -/
def executionCheckpointDomainKey : String := "execution_checkpoint_domain"

/-- `_CHECKPOINT_STATUSES`. -/
def checkpointStatuses : List String :=
  ["max_iterations", "awaiting_human_input", "awaiting_interaction"]

/-- `ExecutionCheckpointIntegrityError`. -/
def checkpointIntegrityError (message : String) : PyError :=
  .raised "ExecutionCheckpointIntegrityError" message

/-- `ExecutionCheckpointCompatibilityError`. -/
def checkpointCompatibilityError (message : String) : PyError :=
  .raised "ExecutionCheckpointCompatibilityError" message

/-- `ExecutionCheckpointResumeRequiredError`. -/
def checkpointResumeRequiredError (message : String) : PyError :=
  .raised "ExecutionCheckpointResumeRequiredError" message

/-- `ExecutionCheckpointPersistenceError`. -/
def checkpointPersistenceError (message : String) : PyError :=
  .raised "ExecutionCheckpointPersistenceError" message

/-- The classes below `InteractionError`. -/
def interactionErrorClasses : List String :=
  ["InteractionError", "InteractionIntegrityError", "InteractionNotPendingError",
    "InteractionReceiptConflictError", "InteractionAlreadyAppliedError"]

/-- `except InteractionError as exc: raise wrap(f"{said}: {exc}")`. -/
def wrapInteraction (wrap : String → PyError) (said : String) (e : PyError) : PyError :=
  match e with
  | .raised cls message => if cls ∈ interactionErrorClasses then wrap (said ++ ": " ++ message) else e
  | _ => e

section Json

variable (display : Display)

mutual

/-- `_json_safe`: what a value is after it was written and read; an instance becomes its text. -/
def jsonSafe : Value → Except PyError Value
  | .int n => (intDigits n).map fun _ => .int n
  | .list items => (jsonSafeItems items).map .list
  | .dict es => (jsonSafeEntries es).map .dict
  | .obj cls attrs => .ok (.str (display (.obj cls attrs)))
  | v => .ok v

def jsonSafeItems : List Value → Except PyError (List Value)
  | [] => .ok []
  | v :: vs => do
    let item ← jsonSafe v
    let rest ← jsonSafeItems vs
    return item :: rest

def jsonSafeEntries : List (String × Value) → Except PyError (List (String × Value))
  | [] => .ok []
  | (key, v) :: es => do
    let item ← jsonSafe v
    let rest ← jsonSafeEntries es
    return (key, item) :: rest

end

end Json

section Checkpoints

variable (host : InteractionHost)

/-- `stable_payload_digest`. -/
def stablePayloadDigest (v : Value) : Except PyError String := do
  let safe ← jsonSafe host.display v
  let encoded ← canonicalContentBytes host.display safe
  return host.sha256 encoded

/-! ### `validate_execution_checkpoint` -/

def isText : Value → Bool
  | .str s => !s.isEmpty
  | _ => false

/-- The value is an integer, and not a negative one. -/
def isCount : Value → Bool
  | .int n => 0 ≤ n
  | _ => false

def isDict : Value → Bool
  | .dict _ => true
  | _ => false

def isList : Value → Bool
  | .list _ => true
  | _ => false

def isBool : Value → Bool
  | .bool _ => true
  | _ => false

def isMessages : Value → Bool
  | .list items => items.all isDict
  | _ => false

/-- The keys of a dictionary are the given ones. -/
def hasExactly (es : Dict) (names : List String) : Bool :=
  names.all (fun name => Assoc.has name es) && (Assoc.keys es).all fun key => decide (key ∈ names)

/-- `status not in _CHECKPOINT_STATUSES`, which hashes the status. -/
def checkStatus : Value → Except PyError Unit
  | .list _ => .error (.typeError "unhashable type: 'list'")
  | .dict _ => .error (.typeError "unhashable type: 'dict'")
  | v => raiseIf (!checkpointStatuses.any fun s => v.eqPy (.str s))
      (checkpointIntegrityError ("invalid execution checkpoint status: " ++ host.repr v))

def tokenKeys : List String :=
  ["consumed_tokens", "input_tokens", "output_tokens", "cache_read_input_tokens",
    "cache_creation_input_tokens", "last_turn_tokens", "last_turn_input_tokens",
    "last_turn_output_tokens", "last_turn_cache_read_input_tokens",
    "last_turn_cache_creation_input_tokens"]

variable (checkpoint : Value)

def checkText (key : String) : Except PyError Unit :=
  raiseIf (!isText (checkpoint.get key))
    (checkpointIntegrityError ("execution checkpoint requires non-empty " ++ key))

def checkToken (tokenState : Value) (key : String) : Except PyError Unit :=
  raiseIf (!isCount (tokenState.get key))
    (checkpointIntegrityError ("execution checkpoint token_state." ++ key
      ++ " must be a non-negative integer"))

/-- What an `interaction_ref` that is there must be. -/
def checkInteractionRef : Value → Except PyError Unit
  | .none => .ok ()
  | .dict es => do
    raiseIf (!hasExactly es ["interaction_id", "request_digest"])
      (checkpointIntegrityError ("execution checkpoint interaction_ref must contain only "
        ++ "interaction_id and request_digest"))
    ["interaction_id", "request_digest"].forM fun key =>
      raiseIf (!isText ((Value.dict es).get key))
        (checkpointIntegrityError ("execution checkpoint interaction_ref." ++ key
          ++ " must be a non-empty string"))
  | _ => .error (checkpointIntegrityError ("execution checkpoint interaction_ref must contain only "
      ++ "interaction_id and request_digest"))

def checkFields : Except PyError Unit := do
  raiseIf (!(checkpoint.get "schema_version").eqPy (.int 1))
    (checkpointIntegrityError ("unsupported execution checkpoint schema_version: "
      ++ host.repr (checkpoint.get "schema_version")))
  checkStatus host (checkpoint.get "status")
  ["session_id", "provider", "checkpoint_id"].forM (checkText checkpoint)
  raiseIf (!isList (checkpoint.get "transcript"))
    (checkpointIntegrityError "execution checkpoint transcript must be a list")
  raiseIf (!isCount (checkpoint.get "iteration"))
    (checkpointIntegrityError "execution checkpoint iteration must be a non-negative integer")
  raiseIf (!isCount (checkpoint.getD "max_context_window_tokens" (.int 0)))
    (checkpointIntegrityError
      "execution checkpoint max_context_window_tokens must be a non-negative integer")
  raiseIf (!isDict (checkpoint.get "token_state"))
    (checkpointIntegrityError "execution checkpoint token_state must be a dict")
  tokenKeys.forM (checkToken (checkpoint.get "token_state"))
  raiseIf (!isDict (checkpoint.get "workspace_change_state"))
    (checkpointIntegrityError "execution checkpoint workspace_change_state must be a dict")
  raiseIf (!(checkpoint.get "pending_model_context").isNone
      && !isMessages (checkpoint.get "pending_model_context"))
    (checkpointIntegrityError
      "execution checkpoint pending_model_context must be a message list or null")
  raiseIf (!isDict (checkpoint.get "replay_frame"))
    (checkpointIntegrityError "execution checkpoint replay_frame must be a dict")
  raiseIf (!isBool ((checkpoint.get "replay_frame").get "complete"))
    (checkpointIntegrityError "execution checkpoint replay_frame.complete must be a bool")
  raiseIf (!isList ((checkpoint.get "replay_frame").get "items"))
    (checkpointIntegrityError "execution checkpoint replay_frame.items must be a list")

def checkAwaiting (status key message : String) : Except PyError Unit :=
  raiseIf ((checkpoint.get "status").eqPy (.str status) && !isDict (checkpoint.get key))
    (checkpointIntegrityError message)

def checkpointPayload : Value :=
  .dict (checkpoint.entries.filter fun e => e.1 ≠ "checkpoint_id" && e.1 ≠ "integrity")

def checkIntegrity : Except PyError Unit := do
  let integrity := checkpoint.get "integrity"
  raiseIf (!isDict integrity || !(integrity.get "algorithm").eqPy (.str "sha256"))
    (checkpointIntegrityError "execution checkpoint integrity.algorithm must be sha256")
  let actualDigest ← stablePayloadDigest host (checkpointPayload checkpoint)
  raiseIf (!(integrity.get "payload_sha256").eqPy (.str actualDigest))
    (checkpointIntegrityError "execution checkpoint payload hash mismatch")
  raiseIf (!(checkpoint.get "checkpoint_id").eqPy (.str ("checkpoint_" ++ shortDigest actualDigest)))
    (checkpointIntegrityError "execution checkpoint id does not match its payload")

/-- The checks of `validate_execution_checkpoint` on the copy it returns. -/
def checkCheckpoint : Except PyError Unit := do
  checkFields host checkpoint
  checkAwaiting checkpoint "awaiting_human_input" "continuation"
    "awaiting_human_input checkpoint requires continuation"
  checkAwaiting checkpoint "awaiting_human_input" "human_input_request"
    "awaiting_human_input checkpoint requires human_input_request"
  checkInteractionRef (checkpoint.get "interaction_ref")
  checkAwaiting checkpoint "awaiting_interaction" "interaction_ref"
    "awaiting_interaction checkpoint requires interaction_ref"
  checkAwaiting checkpoint "awaiting_interaction" "continuation"
    "awaiting_interaction checkpoint requires continuation"
  raiseIf (!(checkpoint.get "base_session_revision").isNone
      && !isCount (checkpoint.get "base_session_revision"))
    (checkpointIntegrityError ("execution checkpoint base_session_revision must be a non-negative "
      ++ "integer or null"))
  checkIntegrity host checkpoint

/-- `validate_execution_checkpoint`. -/
def validateExecutionCheckpoint : Value → Except PyError Value
  | .dict es => do
    let checkpoint ← jsonSafe host.display (.dict es)
    checkCheckpoint host checkpoint
    return checkpoint
  | _ => .error (checkpointIntegrityError "execution checkpoint must be a dict")

/-! ### The interaction of a checkpoint -/

/-- `str(checkpoint.get("checkpoint_id") or "")` of a checkpoint that was validated. -/
def checkpointIdOf : String := textOf (checkpoint.get "checkpoint_id")

/-- `isinstance(checkpoint.get("interaction_ref"), dict)`. -/
def hasInteractionRef : Bool := isDict (checkpoint.get "interaction_ref")

/-- `interaction_ref["interaction_id"]`. -/
def refInteractionId : Value :=
  (checkpoint.get "interaction_ref").get "interaction_id"

/-- `_validate_checkpoint_request_binding`. -/
def validateCheckpointRequestBinding (request : InteractionRequest) : Except PyError Unit := do
  raiseIf (!hasInteractionRef checkpoint)
    (checkpointCompatibilityError
      "interaction_request was supplied for a checkpoint without interaction_ref")
  raiseIf (!(refInteractionId checkpoint).eqPy (.str request.interactionId)
      || !((checkpoint.get "interaction_ref").get "request_digest").eqPy (.str request.requestDigest))
    (checkpointCompatibilityError
      "interaction_request does not match the checkpoint interaction_ref")
  raiseIf (!(checkpoint.get "session_id").eqPy (.str request.sessionId))
    (checkpointCompatibilityError "interaction_request belongs to a different session")
  raiseIf (!(checkpoint.get "source_run_id").eqPy (.str request.sourceRunId))
    (checkpointCompatibilityError "interaction_request belongs to a different source run")
  raiseIf (!(checkpoint.get "base_session_revision").isNone
      && !(checkpoint.get "base_session_revision").eqPy (.int request.createdRevision))
    (checkpointCompatibilityError
      "interaction_request created_revision does not match the checkpoint")

def currentCheckpoint (state : Dict) : Except PyError (Option Value) :=
  match (Value.dict state).get executionCheckpointKey with
  | .dict es => (validateExecutionCheckpoint host (.dict es)).map some
  | _ => .ok none

/-- `str(receipt.get("receipt_id") or "")`. -/
def receiptIdOf (receipt : InteractionReceipt) : Value := .str receipt.receiptId

/-- The request and the journal of `register_checkpoint_interaction_request`. -/
def readRegistration (state : Dict) (checkpoint : Value) (request : Given InteractionRequest) :
    Except PyError (InteractionRequest × Journal) :=
  Except.mapError (wrapInteraction checkpointIntegrityError "invalid durable interaction state") do
    let bound ← InteractionRequest.fromDict host request
    validateCheckpointRequestBinding checkpoint bound
    let journal ← readJournal host ((Value.dict state).get interactionJournalKey)
    return (bound, journal)

def boundToCurrent (journal : Journal) (activeId : String) (current : Option Value) : Bool :=
  match journal.entry activeId, current with
  | some entry, some checkpoint =>
    hasInteractionRef checkpoint && (refInteractionId checkpoint).eqPy (.str activeId)
      && (checkpoint.get "checkpoint_id").eqPy (.str entry.checkpointId)
  | _, _ => false

def requireReceipt (message : String) (entry : Option JournalEntry) :
    Except PyError InteractionReceipt :=
  match entry.bind JournalEntry.receipt with
  | some receipt => .ok receipt
  | none => .error (checkpointResumeRequiredError message)

/-- The prior interaction is applied before another one takes its place. -/
def retirePrior (state : Dict) (checkpoint : Value) (journal : Journal) (requestId : String) :
    Except PyError Value :=
  match journal.activeId.filter fun active => active ≠ requestId with
  | none => .ok journal.toDict
  | some activeId => do
    let current ← currentCheckpoint host state
    raiseIf (!boundToCurrent journal activeId current)
      (checkpointCompatibilityError
        "active interaction is not bound to the current execution checkpoint")
    let receipt ← requireReceipt "cannot replace an unanswered durable interaction"
      (journal.entry activeId)
    Except.mapError
      (wrapInteraction checkpointIntegrityError "failed to apply the prior durable interaction")
      (markInteractionApplied host journal.toDict (.str activeId) (receiptIdOf receipt)
        (.str (checkpointIdOf checkpoint)))

/-- `register_checkpoint_interaction_request`: the state it leaves. -/
def registerCheckpointInteractionRequest (state : Dict) (checkpoint : Value)
    (interactionRequest : Given InteractionRequest) : Except PyError Dict := do
  let (request, journal) ← readRegistration host state checkpoint interactionRequest
  let retired ← retirePrior host state checkpoint journal request.interactionId
  let journal ← readJournal host retired
  raiseIf ((journal.entry request.interactionId).any fun e => e.application.isSome)
    (checkpointCompatibilityError "cannot reactivate an already-applied durable interaction")
  let registered ← Except.mapError
    (wrapInteraction checkpointCompatibilityError "failed to register checkpoint interaction")
    (registerInteractionRequest host journal.toDict (.built request)
      (.str (checkpointIdOf checkpoint)))
  return Assoc.set interactionJournalKey registered state

def entryMatches (entry : JournalEntry) : Bool :=
  ((checkpoint.get "interaction_ref").get "request_digest").eqPy (.str entry.request.requestDigest)
    && (checkpoint.get "session_id").eqPy (.str entry.request.sessionId)
    && (checkpoint.get "checkpoint_id").eqPy (.str entry.checkpointId)

def requireEntry (journal : Journal) (interactionId : String) : Except PyError JournalEntry :=
  match journal.entry interactionId with
  | some entry => .ok entry
  | none => .error (checkpointIntegrityError
      "checkpoint interaction_ref is missing from the interaction journal")

/-- `apply_checkpoint_interaction_receipt`: the state it leaves and what it returns. -/
def applyCheckpointInteractionReceipt (state : Dict) (checkpoint : Value)
    (appliedCheckpointId : String) : Except PyError (Dict × Bool) :=
  if (checkpoint.get "interaction_ref").isNone then .ok (state, false)
  else do
    let journal ← Except.mapError
      (wrapInteraction checkpointIntegrityError "invalid durable interaction journal")
      (readJournal host ((Value.dict state).get interactionJournalKey))
    let interactionId := textOf (refInteractionId checkpoint)
    let entry ← requireEntry journal interactionId
    raiseIf (!entryMatches checkpoint entry)
      (checkpointIntegrityError "checkpoint interaction_ref does not match its journal entry")
    let receipt ← requireReceipt
      "cannot clear an interaction checkpoint before its receipt is recorded" (some entry)
    let applied ← Except.mapError
      (wrapInteraction checkpointIntegrityError "failed to apply checkpoint interaction receipt")
      (markInteractionApplied host journal.toDict (.str interactionId) (receiptIdOf receipt)
        (.str appliedCheckpointId))
    return (Assoc.set interactionJournalKey applied state, true)

end Checkpoints

end Unchain.Memory
