import Unchain.Journal.Runtime
import Unchain.Lib.Process

/-!
What a durable tool execution asks of its surroundings.

The journal, the execution guard, the artifact service, the table of bound
invocations and the tool handler itself are reached through commands, so that
other executors may act between any two of them. Running the handler takes two
commands: it is started, and later its outcome arrives or does not.
-/

namespace Unchain.Context

open Lib Lib.Process Python Journal

/-! ### Exceptions -/

variable (message : String)

def corruptError : PyError := .raised "DurableToolBoundaryCorruptError" message

def uncertainError : PyError :=
  .raised "DurableToolExecutionUncertainError" message

def contractError : PyError := .raised "DurableToolExecutorContractError" message

def projectionError : PyError := .raised "SemanticEventProjectionError" message

def integrityError : PyError := .raised "DurableJournalIntegrityError" message

/-- `ArtifactServiceError` and its subclasses. -/
def isArtifactServiceError : PyError → Bool
  | .raised cls _ => ["ArtifactServiceError", "ArtifactTooLargeError", "ArtifactBudgetError",
      "ArtifactIntegrityError"].contains cls
  | _ => false

def isContractError : PyError → Bool
  | .raised cls _ => cls = "DurableToolExecutorContractError"
  | _ => false

def isJournalConflict : PyError → Bool
  | .raised cls _ => cls = "JournalConflictError"
  | _ => false

/-- `KeyError`, `TypeError`, `ValueError` or a `RuntimeError`; every class the journal and
the context raise by name is a `RuntimeError`. -/
def isRecordError : PyError → Bool
  | .keyError _ => true
  | .typeError _ => true
  | .valueError _ => true
  | .notImplementedError _ => true
  | .raised _ _ => true
  | _ => false

/-- `except <class>: raise e`. -/
def rewriting (caught : PyError → Bool) (e : PyError) (raised : PyError) : PyError :=
  if caught raised then e else raised

/-! ### Fences and guards -/

structure ExecutionFence where
  executionId : String
  ownerId : String
  fencingToken : Int
deriving DecidableEq

/-- One link of an official guard chain, by the identity of its objects. -/
inductive GuardNode where
  | root (guard runtime store : Nat)
  | borrowed (guard : Nat) (sessionId : String)
  | batch (guard failureEvent : Nat)
deriving DecidableEq

/-- What `_resolve_official_execution_guard` returns. -/
structure ResolvedGuard where
  fence : ExecutionFence
  root : Nat
  chain : List GuardNode

/-- `_same_execution_guard_chain`. -/
def sameExecutionGuardChain (left right : List GuardNode) : Bool := left = right

/-! ### Artifacts -/

structure ToolResultArtifactization where
  artifact : ArtifactRef
  visibleResult : Value

namespace ToolResultArtifactization

def fullOutputRef (a : ToolResultArtifactization) : ResourceRef := a.artifact.ref

def eventFields (a : ToolResultArtifactization) : Dict :=
  [("result", a.visibleResult), ("full_output_ref", a.fullOutputRef.toDict),
    ("result_bytes", .int a.artifact.byteLength), ("result_sha256", .str a.artifact.sha256)]

end ToolResultArtifactization

structure ToolCompletionArtifactization where
  artifact : ArtifactRef
  completion : Value

/-- The bytes of an artifact: the JSON they decode to, if any, and their preview. -/
structure Content where
  json : Option Value
  preview : String

/-- `DurableToolStateTransitionEnvelope`. -/
structure StateTransition where
  parentAttempt : AttemptRef
  callId : String
  executionSubjectSha256 : String
  operationId : String
  kind : String
  baseStateSha256 : String
  nextStateArtifact : ArtifactRef
  handoffRefs : List ResourceRef
deriving DecidableEq

/-- `DurableToolStateTransitionDraft`: built by the handler, so already checked. -/
structure StateTransitionDraft where
  kind : String
  baseState : Value
  nextState : Value
  handoffRefs : List ResourceRef

namespace StateTransition

def toDict (t : StateTransition) : Value :=
  .dict [("schema", .str "unchain.durable_tool_state_transition.v1"),
    ("parent_attempt", t.parentAttempt.toDict), ("call_id", .str t.callId),
    ("execution_subject_sha256", .str t.executionSubjectSha256),
    ("operation_id", .str t.operationId), ("kind", .str t.kind),
    ("base_state_sha256", .str t.baseStateSha256),
    ("next_state_artifact", t.nextStateArtifact.toDict),
    ("handoff_refs", .list (t.handoffRefs.map ResourceRef.toDict))]

def supportedKinds : List String := ["subagent_snapshot", "subagent_terminal_handoff"]

def make (host : Host) (parentAttempt : AttemptRef)
    (callId executionSubjectSha256 operationId kind baseStateSha256 : Value)
    (nextStateArtifact : ArtifactRef) (handoffRefs : List ResourceRef) :
    Except PyError StateTransition := do
  let callId ← requiredIdentifier host "call_id" callId
  let subject ← sha256Text "execution_subject_sha256" executionSubjectSha256
  let operationId ← requiredIdentifier host "operation_id" operationId
  if operationId ≠ "transition.subagent-completion." ++ subject then
    .error (contractError "transition operation must be derived from its execution subject")
  else
    match kind with
    | .str kind =>
      if !supportedKinds.contains kind then
        .error (contractError "durable tool state transition kind is unsupported")
      else
        let base ← sha256Text "base_state_sha256" baseStateSha256
        if nextStateArtifact.ref.kind ≠ "artifact" || !nextStateArtifact.ref.fragment.isEmpty
            || nextStateArtifact.mediaType ≠ "application/json" then
          .error (contractError "durable tool next-state artifact is invalid")
        else if handoffRefs.any fun ref => ref.kind ≠ "artifact" || !ref.fragment.isEmpty then
          .error (contractError "durable tool handoff refs must be whole artifacts")
        else
          .ok ⟨parentAttempt, callId, subject, operationId, kind, base, nextStateArtifact,
            handoffRefs⟩
    | _ => .error (contractError "durable tool state transition kind is unsupported")

def fromDict (host : Host) (v : Value) : Except PyError StateTransition :=
  if !v.isDict then .error (contractError "durable tool state transition must be an object")
  else if !hasExactly v ["schema", "parent_attempt", "call_id", "execution_subject_sha256",
      "operation_id", "kind", "base_state_sha256", "next_state_artifact", "handoff_refs"]
      || !(v.get "schema").eqPy (.str "unchain.durable_tool_state_transition.v1") then
    .error (contractError "durable tool state transition schema is invalid")
  else if !(v.get "handoff_refs").isList then
    .error (contractError "durable tool handoff refs are invalid")
  else do
    let parentAttempt ← AttemptRef.fromDict host (v.get "parent_attempt")
    let nextStateArtifact ← ArtifactRef.fromDict host (v.get "next_state_artifact")
    let handoffRefs ← (v.get "handoff_refs").items.mapM (ResourceRef.fromDict host)
    make host parentAttempt (v.get "call_id") (v.get "execution_subject_sha256")
      (v.get "operation_id") (v.get "kind") (v.get "base_state_sha256") nextStateArtifact
      handoffRefs

end StateTransition

/-! ### Bound invocations -/

inductive DurableToolRouteKind where
  | normal
  | plugin
deriving DecidableEq

/-- A frozen invocation; `identity` stands for `id(invocation)`, `handler` for the callable. -/
structure DurableToolInvocation where
  identity : Nat
  executorAuthority : Nat
  routeKind : DurableToolRouteKind
  routeManifestSha256 : String
  terminalHandlerManifestSha256 : String
  effectiveArguments : Value
  terminalHandler : Nat

/-- `DurableToolCompletionDraft`. -/
structure DurableToolCompletionDraft where
  result : Value
  shouldObserve : Bool
  stateTransition : Option StateTransitionDraft

/-! ### Commands -/

inductive Command where
  | lookupToolExecutionReceipts (attempt : AttemptRef) (callId : String)
  | append (request : JournalAppendRequest)
  | resolveGuard (executor : Nat)
  | popBinding (executor invocation : Nat)
  | startHandler (attempt : AttemptRef) (callId : String) (handler : Nat) (arguments : Value)
  | awaitHandler (attempt : AttemptRef) (callId : String)
  | artifactizeToolResult (result : Value) (operationId : String)
  | verifyToolResultArtifactization (artifactization : ToolResultArtifactization)
  | persistExactJson (value : Value) (operationId : String) (binding : Value)
  | loadVerifiedSubagentState (transition : StateTransition)
  | artifactizeToolCompletion (completion : Value) (operationId : String)
  | verifyToolCompletionArtifactization (artifactization : ToolCompletionArtifactization)
  | readFull (artifact : ArtifactRef)
  | projectToolOutput (artifactization : ToolResultArtifactization) (callId policy : String)

/-- The answers. A handler that returns something else than a draft answers `none`; a
projector without an active output manager answers `none` as well. -/
def Command.Answer : Command → Type
  | .lookupToolExecutionReceipts _ _ => Except PyError ToolExecutionReceiptLookup
  | .append _ => Except PyError JournalAppendResult
  | .resolveGuard _ => Except PyError ResolvedGuard
  | .popBinding _ _ => Option DurableToolInvocation
  | .startHandler _ _ _ _ => Unit
  | .awaitHandler _ _ => Except Unit (Option DurableToolCompletionDraft)
  | .artifactizeToolResult _ _ => Except PyError ToolResultArtifactization
  | .verifyToolResultArtifactization _ => Except PyError ToolResultArtifactization
  | .persistExactJson _ _ _ => Except PyError ArtifactRef
  | .loadVerifiedSubagentState _ => Except PyError Unit
  | .artifactizeToolCompletion _ _ => Except PyError ToolCompletionArtifactization
  | .verifyToolCompletionArtifactization _ => Except PyError ToolCompletionArtifactization
  | .readFull _ => Except PyError Content
  | .projectToolOutput _ _ _ => Except PyError (Option (Value × Value))

def ports : Interface := ⟨Command, Command.Answer⟩

/-- A piece of the executor's code. -/
abbrev Exec (α : Type) := Prog ports PyError α

namespace Exec

/-- Issue a command; an exception in the answer propagates. -/
def lookupToolExecutionReceipts (attempt : AttemptRef) (callId : String) :
    Exec ToolExecutionReceiptLookup :=
  .call (Command.lookupToolExecutionReceipts attempt callId) Prog.lift

def append (request : JournalAppendRequest) : Exec JournalAppendResult :=
  .call (Command.append request) Prog.lift

def resolveGuard (executor : Nat) : Exec ResolvedGuard :=
  .call (Command.resolveGuard executor) Prog.lift

def popBinding (executor invocation : Nat) : Exec (Option DurableToolInvocation) :=
  .call (Command.popBinding executor invocation) .ret

def artifactizeToolResult (result : Value) (operationId : String) :
    Exec ToolResultArtifactization :=
  .call (Command.artifactizeToolResult result operationId) Prog.lift

def verifyToolResultArtifactization (a : ToolResultArtifactization) :
    Exec ToolResultArtifactization :=
  .call (Command.verifyToolResultArtifactization a) Prog.lift

def persistExactJson (value : Value) (operationId : String) (binding : Value) : Exec ArtifactRef :=
  .call (Command.persistExactJson value operationId binding) Prog.lift

def loadVerifiedSubagentState (transition : StateTransition) : Exec Unit :=
  .call (Command.loadVerifiedSubagentState transition) Prog.lift

def artifactizeToolCompletion (completion : Value) (operationId : String) :
    Exec ToolCompletionArtifactization :=
  .call (Command.artifactizeToolCompletion completion operationId) Prog.lift

def verifyToolCompletionArtifactization (a : ToolCompletionArtifactization) :
    Exec ToolCompletionArtifactization :=
  .call (Command.verifyToolCompletionArtifactization a) Prog.lift

def readFull (artifact : ArtifactRef) : Exec Content :=
  .call (Command.readFull artifact) Prog.lift

def projectToolOutput (a : ToolResultArtifactization) (callId policy : String) :
    Exec (Option (Value × Value)) :=
  .call (Command.projectToolOutput a callId policy) Prog.lift

/-- Call the terminal handler: `none` when it raised. -/
def callHandler (attempt : AttemptRef) (callId : String) (handler : Nat) (arguments : Value) :
    Exec (Option (Option DurableToolCompletionDraft)) :=
  .call (Command.startHandler attempt callId handler arguments) fun _ =>
    .call (Command.awaitHandler attempt callId) fun r => .ret (Except.toOption r)

end Exec

/-! ### The sink -/

/-- `DurableEventSink.append_projected` of the sink bound to `attempt`. -/
def appendProjected (host : Host) (attempt : AttemptRef) (draft : SemanticEventDraft) :
    Exec JournalAppendResult := do
  Prog.raiseIf (runtimeEventIsEphemeral host draft.eventType)
    (integrityError "ephemeral events cannot be appended as projected drafts")
  Prog.raiseIf (draft.attempt ≠ attempt)
    (.raised "DurableJournalScopeError" "projected event attempt does not match the bound attempt")
  let request ← Prog.lift (draft.toAppendRequest host)
  let result ← Exec.append request
  Prog.raiseIf (!samePersistedEvent request result.event)
    (integrityError "persisted event does not match the exact append request")
  return result

/-- `DurableEventSink.recover_tool_side_effect` of the sink bound to `attempt`. -/
def recoverToolSideEffect (host : Host) (attempt : AttemptRef) (callId : String) :
    Exec ToolSideEffectRecovery := do
  let callId ← Prog.lift (requiredIdentifier host "call_id" (.str callId))
  let lookup ← Exec.lookupToolExecutionReceipts attempt callId
  Prog.raiseIf (lookup.attempt ≠ attempt || lookup.callId ≠ callId)
    (integrityError "tool receipt index crossed its requested subject")
  return recoverFromLookup host lookup callId

end Unchain.Context
