import Unchain.Interaction.Resume
import Unchain.Memory.Revision

/-!
The run loop (`kernel/loop.py`, `kernel/run_limits.py`, `kernel/run_outcomes.py`).

A run takes model turns until it completes, suspends or reaches its limit. Whatever it calls (hooks,
the model, callbacks, the lease, the ledger, the interaction runtime) answers by the clock, so the
answers are arbitrary. Hooks change the state of a run, except its iteration; only the hooks of a
tool batch suspend it, and the continuation they leave counts from the iteration they run in.
-/

namespace Unchain.Kernel

open Lib Lib.Effect Memory Interaction Python

/-! ### Events -/

inductive EventType where
  | runStarted | iterationStarted | responseReceived | iterationCompleted | interactionRequested
  | humanInputRequested | finalMessage | runCompleted | runFailed | runCancelled | runMaxIterations
  /-- An event that a hook or a retry wait reports. -/
  | hook (name : String)
deriving DecidableEq

namespace EventType

/-- `event_type in TERMINAL_EVENT_TYPES`. -/
def isTerminal : EventType → Bool
  | .runCompleted | .runFailed | .runCancelled | .runMaxIterations => true
  | _ => false

/-- The terminals after which a run never continues. -/
def isCanonical : EventType → Bool
  | .runCompleted | .runFailed | .runCancelled => true
  | _ => false

theorem isTerminal_of_isCanonical {t : EventType} (h : t.isCanonical = true) :
    t.isTerminal = true := by
  cases t <;> first | rfl | cases h

end EventType

structure Event where
  type : EventType
  runId : String
  iteration : Int

/-- `_RUN_OBSERVER`. -/
structure Observer where
  runId : String
  terminal : Bool

/-- What `emit_event` notes of an event. -/
def Observer.note (o : Observer) (type : EventType) (runId : String) : Observer :=
  if type = .runStarted ∧ o.runId = "" then { o with runId := runId }
  else if type.isTerminal ∧ runId = o.runId then { o with terminal := true }
  else o

/-! ### The state of a run -/

inductive RunStatus where
  | idle | running | completed | maxIterations | awaitingHumanInput | awaitingInteraction | failed
deriving DecidableEq

/-- `ledger.identity`. -/
structure RunIdentity where
  executionId : String
  runId : String

structure LoopState where
  iteration : Int
  runStatus : RunStatus
  identity : Option RunIdentity
  /-- `last_continuation`. -/
  continuation : Option Dict
  /-- The request in the payload of the suspend state. -/
  interactionRequest : Option Dict
  /-- `tool_batch_state.human_input_request is not None`. -/
  awaitsHuman : Bool
  pendingToolCalls : Nat
  /-- A checkpoint of status `max_iterations` was restored. -/
  restoredLimit : Bool
  hasSession : Bool
  /-- `memory_state["session_revision"]`. -/
  revision : Option Int

/-- What `build_tool_approval_continuation` writes of the iterations. -/
def approvalContinuation (iteration : Int) (rest : Dict) : Dict :=
  [("type", .str "tool_approval_continuation"), ("iteration", .int (iteration + 1)),
    ("tool_iteration", .int iteration)] ++ rest

/-- What `build_human_input_continuation` writes of them. -/
def humanInputContinuation (iteration : Int) (rest : Dict) : Dict :=
  [("type", .str "human_input_continuation"), ("iteration", .int (iteration + 1))] ++ rest

inductive HookStatus where
  | keep | running | completed

/-- One dispatch of a phase: what its hooks changed and reported, and what one of them raised. -/
structure HookRun where
  update : LoopState → LoopState
  status : HookStatus
  /-- `last_continuation` is set to nothing. -/
  clears : Bool
  emitted : List String
  raised : Option PyError

def HookRun.applied (h : HookRun) (s : LoopState) : LoopState :=
  { h.update s with
    iteration := s.iteration
    identity := s.identity
    continuation := if h.clears then none else s.continuation
    runStatus := match h.status with
      | .keep => s.runStatus
      | .running => .running
      | .completed => .completed }

inductive Suspend where
  | toolApproval (rest request : Dict)
  | humanInput (rest : Dict) (request : Option Dict)

/-- A tool batch waits for an answer. -/
def LoopState.suspended (s : LoopState) : Suspend → LoopState
  | .toolApproval rest request =>
    { s with
      runStatus := .awaitingInteraction
      continuation := some (approvalContinuation s.iteration rest)
      interactionRequest := some request }
  | .humanInput rest request =>
    { s with
      runStatus := .awaitingHumanInput
      continuation := some (humanInputContinuation s.iteration rest)
      interactionRequest := request
      awaitsHuman := true }

/-- The bootstrap hooks besides restore a checkpoint, whose iteration was validated. -/
structure Restored where
  iteration : Nat
  limit : Bool

structure FetchRun where
  emitted : List String
  toolCalls : Nat
  raised : Option PyError

/-- What the run is told by everything it calls. -/
structure LoopHost where
  /-- The callback of the events. -/
  callback : Nat → Option PyError
  fails : Nat → Option PyError
  hook : Nat → HookRun
  suspend : Nat → Option Suspend
  restored : Nat → Option Restored
  fetch : Nat → FetchRun
  /-- The answer to a question: a decision, an approval, what a person said. -/
  answer : Nat → Except PyError Value
  revision : Nat → Option Int
  failedIteration : Nat → Int
  executionId : String
  /-- `getattr(exc, "code", "kernel_run_failed")`. -/
  errorCode : PyError → String
  /-- The execution and the attempt of a `DurableInteractionSettlementPending`. -/
  settlement : PyError → Option (String × String)
  isLower : Char → Bool
  isDigit : Char → Bool

structure RunCall where
  runId : String
  named : runId ≠ ""
  callback : Bool
  maxIterations : Int
  onToolConfirm : Bool
  onHumanInput : Bool
  onMaxIterations : Bool
  skipBootstrap : Bool
  /-- `model_io is not None`. -/
  configured : Bool
  /-- There is an interaction runtime. -/
  durable : Bool
  /-- There is an execution guard. -/
  guarded : Bool

/-- What a run did with its budget. -/
inductive Mark where
  /-- The loop is entered, with the limit of a checkpoint restored or not. -/
  | started (iteration maxIterations : Int) (restored : Bool)
  /-- More budget was asked for. -/
  | asked
  | granted (extra : Int)
  | turn (iteration limit : Int)

structure World where
  clock : Nat
  state : LoopState
  observer : Option Observer
  events : List Event
  /-- Ghost state. -/
  marks : List Mark

abbrev LoopM := EStateM PyError World

/-! ### Primitives -/

def tick : LoopM Nat := modifyGet fun w => (w.clock, { w with clock := w.clock + 1 })

def raiseSome : Option PyError → LoopM Unit
  | none => pure ()
  | some e => throw e

def onlyIf (b : Bool) (m : LoopM Unit) : LoopM Unit := if b then m else pure ()

def setState (f : LoopState → LoopState) : LoopM Unit := modify fun w => { w with state := f w.state }

def mark (m : Mark) : LoopM Unit := modify fun w => { w with marks := w.marks ++ [m] }

section Loop

variable (host : LoopHost) (c : RunCall)

/-- A call that returns nothing, or raises. -/
def ask : LoopM Unit := do
  let now ← tick
  raiseSome (host.fails now)

def guardCall : LoopM Unit := onlyIf c.guarded (ask host)

/-- An event is written before the callback sees it. -/
def record (e : Event) (w : World) : World :=
  { w with
    observer := w.observer.map fun o => o.note e.type e.runId
    events := if c.callback then w.events ++ [e] else w.events }

/-- `emit_event`. -/
def emitEvent (type : EventType) (iteration : Int) : LoopM Unit := do
  modify (record c { type, runId := c.runId, iteration })
  onlyIf c.callback do
    let now ← tick
    raiseSome (host.callback now)

/-- `emit_event` of a payload that is built first. -/
def emitBuilt (type : EventType) (iteration : LoopState → Int) : LoopM Unit := do
  ask host
  emitEvent host c type (iteration (← get).state)

/-- `_completed_iteration`. -/
def completedIteration (s : LoopState) : Int := max 0 (s.iteration - 1)

/-- `dispatch_phase`. -/
def dispatchPhase : LoopM Unit := do
  let now ← tick
  setState (host.hook now).applied
  let s := (← get).state
  each (fun name => emitEvent host c (.hook name) s.iteration) (host.hook now).emitted
  raiseSome (host.hook now).raised

/-- The state that the hooks of a tool batch leave. -/
def LoopState.suspendedBy (s : LoopState) : Option Suspend → LoopState
  | none => s
  | some kind => s.suspended kind

/-- `dispatch_phase` of a phase whose hooks may suspend the run. -/
def dispatchToolPhase : LoopM Unit := do
  let now ← tick
  setState fun s => s.suspendedBy (host.suspend now)
  dispatchPhase host c

/-- A phase within the lease. -/
def guardedPhase : LoopM Unit := do
  dispatchPhase host c
  guardCall host c

/-- `_dispatch_run_finalizing` and `_dispatch_on_suspend`: the phase, then its persistence. -/
def dispatchPersisted : LoopM Unit := do
  guardCall host c
  guardedPhase host c
  guardedPhase host c

/-- `_dispatch_on_resume`. -/
def dispatchOnResume : LoopM Unit := do
  guardCall host c
  guardedPhase host c

def LoopState.restoredBy (s : LoopState) : Option Restored → LoopState
  | none => s
  | some r => { s with iteration := r.iteration, restoredLimit := r.limit }

/-- `_dispatch_bootstrap`. -/
def dispatchBootstrap : LoopM Unit := do
  guardCall host c
  let now ← tick
  setState fun s => s.restoredBy (host.restored now)
  guardedPhase host c

/-- `terminal_emit_event`. -/
def emitTerminal (type : EventType) (iteration : LoopState → Int) : LoopM Unit := do
  ask host
  guardCall host c
  emitEvent host c type (iteration (← get).state)
  guardCall host c

/-! ### Outcomes -/

structure RunResult where
  status : RunStatus
  iteration : Int
  continuation : Option Dict
  interactionRequest : Option Dict

/-- `build_kernel_run_result`. -/
def buildKernelRunResult (status : RunStatus) : LoopM RunResult := do
  ask host
  let s := (← get).state
  return { status, iteration := s.iteration, continuation := s.continuation,
           interactionRequest := s.interactionRequest }

/-- `finish_completed_run`. -/
def finishCompletedRun : LoopM RunResult := do
  setState fun s => { s with runStatus := .completed }
  dispatchPersisted host c
  emitTerminal host c .finalMessage completedIteration
  emitTerminal host c .runCompleted completedIteration
  buildKernelRunResult host .completed

/-- `finish_max_iterations_run`. -/
def finishMaxIterationsRun (emitRunMaxIterations : Bool) : LoopM RunResult := do
  setState fun s => { s with runStatus := .maxIterations }
  dispatchPersisted host c
  onlyIf emitRunMaxIterations (emitTerminal host c .runMaxIterations LoopState.iteration)
  buildKernelRunResult host .maxIterations

/-- `finish_awaiting_human_input_run` and `finish_awaiting_interaction_run`. -/
def finishAwaitingRun (status : RunStatus) : LoopM RunResult := do
  setState fun s => { s with runStatus := status }
  dispatchPersisted host c
  buildKernelRunResult host status

/-! ### The limit -/

/-- `MaxIterationsBoundary`. -/
structure MaxIterationsBoundary where
  effectiveMax : Int
  shouldFinish : Bool
  emitRunMaxIterationsOnFinish : Bool

/-- `release_for_wait`, when there is a revision to come back to. -/
def releaseForWait : LoopM Unit := do
  onlyIf (← get).state.revision.isSome (guardCall host c)

/-- `durable_max_wait`. -/
def durableMaxWait (s : LoopState) : Bool := c.onMaxIterations && c.durable && s.hasSession

/-- What `build_max_budget_continuation` writes of the iterations. -/
def maxBudgetContinuation (iteration effectiveMax : Int) : Dict :=
  [("type", .str "max_budget_continuation"), ("iteration", .int iteration),
    ("max_iterations", .int effectiveMax)]

/-- The durable question about the budget. -/
def suspendForBudget (effectiveMax : Int) : LoopM Unit := do
  ask host
  setState fun s =>
    { s with
      continuation := some (maxBudgetContinuation s.iteration effectiveMax)
      interactionRequest := some [("kind", .str "max_budget")] }

/-- `persist_before_legacy_max_wait`, and `before_wait` of a durable adapter. -/
def beforeMaxWait (durable : Bool) (effectiveMax : Int) : LoopM Unit := do
  setState fun s => { s with runStatus := .maxIterations }
  onlyIf durable (suspendForBudget host effectiveMax)
  dispatchPersisted host c
  releaseForWait host c
  onlyIf durable do
    emitEvent host c .interactionRequested (← get).state.iteration

/-- The answer to a question that the run waits for, under the lease again. -/
def waitForAnswer : LoopM Value := do
  let now ← tick
  let response ← lift (host.answer now)
  setState fun s => { s with revision := host.revision now }
  guardCall host c
  return response

/-- `max(1, int(response.get("extra_iterations", current_max)))`. -/
def extraIterations (response : Value) (currentMax : Int) : Except PyError Int :=
  (response.getD "extra_iterations" (.int currentMax)).toInt.map (max 1)

/-- `resolve_max_iterations_boundary`. -/
def resolveMaxIterationsBoundary (currentMax : Int) : LoopM MaxIterationsBoundary := do
  let s := (← get).state
  if s.iteration < currentMax then
    return { effectiveMax := currentMax, shouldFinish := false,
             emitRunMaxIterationsOnFinish := false }
  else if !c.onMaxIterations then
    return { effectiveMax := currentMax, shouldFinish := true, emitRunMaxIterationsOnFinish := true }
  else do
    beforeMaxWait host c (durableMaxWait c s) currentMax
    emitBuilt host c .runMaxIterations LoopState.iteration
    mark .asked
    let response ← waitForAnswer host c
    if response.isDict && (response.get "approved").truthy then do
      let extra ← lift (extraIterations response currentMax)
      mark (.granted extra)
      return { effectiveMax := currentMax + extra, shouldFinish := false,
               emitRunMaxIterationsOnFinish := false }
    else
      return { effectiveMax := currentMax, shouldFinish := true,
               emitRunMaxIterationsOnFinish := false }

/-- A durable question about the budget is dropped, whatever the answer was. -/
def dropBudgetQuestion (asked : Bool) : LoopM Unit :=
  setState fun s =>
    if asked then { s with continuation := none, interactionRequest := none } else s

/-! ### Turns -/

def toolCallPhases : Nat → LoopM Unit
  | 0 => pure ()
  | n + 1 => do
    guardCall host c
    dispatchToolPhase host c
    guardCall host c
    toolCallPhases n

def toolBatch (calls : Nat) : LoopM Unit := do
  toolCallPhases host c calls
  dispatchToolPhase host c
  guardCall host c

def finishTurn (calls : Nat) : LoopM Unit :=
  if calls = 0 then do
    guardCall host c
    guardedPhase host c
  else toolBatch host c calls

/-- `step_once`: whether the turn had tool calls. -/
def stepOnce (maxIterations : Int) : LoopM Bool := do
  let currentIteration := (← get).state.iteration
  mark (.turn currentIteration maxIterations)
  ask host
  guardedPhase host c
  let now ← tick
  let fetched := host.fetch now
  each (fun name => emitEvent host c (.hook name) currentIteration) fetched.emitted
  raiseSome fetched.raised
  ask host
  setState fun s => { s with runStatus := .running, pendingToolCalls := fetched.toolCalls }
  guardedPhase host c
  finishTurn host c (← get).state.pendingToolCalls
  setState fun s => { s with iteration := currentIteration + 1 }
  return fetched.toolCalls ≠ 0

/-- `InteractionIntegrityError`. -/
def interactionIntegrityError (message : String) : PyError :=
  .raised "InteractionIntegrityError" message

def checkToolCalls : Value → Except PyError Nat
  | .list (call :: calls) =>
    if !(call :: calls).all Value.isDict then
      .error (interactionIntegrityError
        "tool approval continuation contains an invalid tool call")
    else if (call :: calls).all fun call =>
        (call.get "call_id").truthy && (call.get "name").truthy then
      .ok (calls.length + 1)
    else .error (interactionIntegrityError
      "tool approval continuation tool call requires id and name")
  | _ => .error (interactionIntegrityError
      "tool approval continuation requires pending tool calls")

def checkBatchState (raw : Value) : Except PyError Unit := do
  raiseIf (!raw.isDict)
    (interactionIntegrityError "tool approval continuation requires tool_batch_state")
  raiseIf (!(raw.get "result_messages").isList || !(raw.get "executed_call_ids").isList)
    (interactionIntegrityError "tool approval continuation has invalid batch state")

variable (continuation : Dict)

/-- The part of `_dispatch_tool_approval_resume` that reads the continuation: the calls, the
iteration of the batch and the one after it. -/
def readApproval (s : LoopState) : Except PyError (Nat × Int × Int) := do
  let read := (Value.dict continuation).get
  raiseIf (!(read "type").eqPy (.str "tool_approval_continuation"))
    (interactionIntegrityError
      "tool approval receipt requires a tool_approval_continuation")
  let calls ← checkToolCalls (read "tool_calls")
  checkBatchState (read "tool_batch_state")
  let toolIteration ←
    ((Value.dict continuation).getD "tool_iteration" (.int (completedIteration s))).toInt
  let nextIteration ←
    ((Value.dict continuation).getD "iteration" (.int (toolIteration + 1))).toInt
  return (calls, toolIteration, nextIteration)

/-- `_dispatch_tool_approval_resume`. -/
def dispatchToolApprovalResume : LoopM Unit := do
  let (calls, toolIteration, nextIteration) ← lift (readApproval continuation (← get).state)
  ask host
  setState fun s =>
    { s with
      pendingToolCalls := calls, awaitsHuman := false, runStatus := .running
      continuation := none, interactionRequest := none, iteration := toolIteration }
  toolBatch host c calls
  setState fun s => { s with iteration := nextIteration }

/-- What a round of the loop ends with: `none` when its own loop is still running. -/
inductive Round where
  | again (effectiveMax : Int)
  | done (result : RunResult)

def answerApproval (suspended : RunResult) : LoopM Unit := do
  match suspended.interactionRequest, suspended.continuation with
  | some request, some continuation => do
    lift (raiseIf (!((Value.dict request).get "kind").eqPy (.str "tool_approval"))
      (.raised "InteractionNotPendingError" "awaiting interaction is not a tool approval"))
    let _ ← waitForAnswer host c
    dispatchToolApprovalResume host c continuation
  | _, _ => pure ()

/-- `awaiting_interaction` requires a request, a continuation and a runtime. -/
def checkSuspended (suspended : RunResult) : Except PyError Unit :=
  raiseIf (suspended.interactionRequest.isNone || suspended.continuation.isNone || !c.durable)
    (interactionIntegrityError "awaiting_interaction requires a durable request and continuation")

/-- `while state.run_status == "awaiting_interaction"`: the result it returned with, if it did. -/
def approvals : Nat → (receivedEmitted : Bool) → LoopM (Option (Option RunResult))
  | 0, _ => return none
  | rounds + 1, receivedEmitted => do
    if (← get).state.runStatus ≠ .awaitingInteraction then return some none
    else do
      onlyIf (!c.onToolConfirm) (ask host)
      let suspended ← finishAwaitingRun host c .awaitingInteraction
      lift (checkSuspended c suspended)
      releaseForWait host c
      onlyIf (!receivedEmitted) (emitBuilt host c .responseReceived completedIteration)
      emitEvent host c .interactionRequested (completedIteration (← get).state)
      if c.onToolConfirm then do
        answerApproval host c suspended
        approvals rounds true
      else return some (some suspended)

/-- A turn that waits for approvals. -/
def awaitApprovals (rounds : Nat) (effectiveMax : Int) : LoopM (Option Round) := do
  match ← approvals host c rounds false with
  | none => return none
  | some (some suspended) => return some (.done suspended)
  | some none => do
    emitBuilt host c .iterationCompleted completedIteration
    ask host
    return some (.again effectiveMax)

/-- The question of a person is stored with the session. -/
def durableWait (suspended : RunResult) (s : LoopState) : Bool :=
  suspended.interactionRequest.isSome && c.durable && s.hasSession

/-- A turn that waits for a person. -/
def awaitHumanInput (effectiveMax : Int) : LoopM Round := do
  ask host
  let suspended ← finishAwaitingRun host c .awaitingHumanInput
  let s := (← get).state
  onlyIf (durableWait c suspended s) (releaseForWait host c)
  emitBuilt host c .responseReceived completedIteration
  onlyIf s.awaitsHuman (emitEvent host c .humanInputRequested (completedIteration s))
  if c.onHumanInput ∧ s.awaitsHuman ∧ suspended.continuation.isSome then do
    onlyIf (!durableWait c suspended s) (releaseForWait host c)
    let _ ← waitForAnswer host c
    dispatchOnResume host c
    ask host
    return .again effectiveMax
  else return .done suspended

/-- What follows a turn that suspended nothing. -/
def closeTurn (hadToolCalls : Bool) (effectiveMax : Int) : LoopM Round := do
  emitBuilt host c .responseReceived completedIteration
  ask host
  if (← get).state.runStatus ≠ .completed ∧ hadToolCalls then do
    emitBuilt host c .iterationCompleted completedIteration
    return .again effectiveMax
  else do
    let result ← finishCompletedRun host c
    return .done result

/-- A turn within its budget, and what it waits for. -/
def takeTurn (rounds : Nat) (effectiveMax : Int) : LoopM (Option Round) := do
  setState fun s => if s.runStatus = .maxIterations then { s with runStatus := .running } else s
  emitBuilt host c .iterationStarted LoopState.iteration
  let hadToolCalls ← stepOnce host c effectiveMax
  match (← get).state.runStatus with
  | .awaitingInteraction => awaitApprovals host c rounds effectiveMax
  | .awaitingHumanInput => do
    let round ← awaitHumanInput host c effectiveMax
    return some round
  | _ => do
    let round ← closeTurn host c hadToolCalls effectiveMax
    return some round

/-- One round of `while True`. -/
def runRound (rounds : Nat) (effectiveMax : Int) : LoopM (Option Round) := do
  if (← get).state.runStatus = .completed then do
    let result ← finishCompletedRun host c
    return some (.done result)
  else do
    let s := (← get).state
    let boundary ← resolveMaxIterationsBoundary host c effectiveMax
    dropBudgetQuestion (durableMaxWait c s && decide (effectiveMax ≤ s.iteration))
    if boundary.shouldFinish then do
      let result ← finishMaxIterationsRun host c boundary.emitRunMaxIterationsOnFinish
      return some (.done result)
    else takeTurn host c rounds boundary.effectiveMax

/-- `while True`: `none` while the run goes on. -/
def runRounds : Nat → Int → LoopM (Option RunResult)
  | 0, _ => return none
  | rounds + 1, effectiveMax => do
    match ← runRound host c rounds effectiveMax with
    | none => return none
    | some (.done result) => return some result
    | some (.again effectiveMax) => runRounds rounds effectiveMax

/-! ### Runs -/

/-- `initialize_run_ledger` and the receipts that are appended to it. -/
def initializeRunLedger : LoopM Unit := do
  ask host
  setState fun s => { s with identity := some ⟨host.executionId, c.runId⟩ }
  ask host

/-- `_run_state` up to its loop. -/
def enterRun : LoopM Unit := do
  lift (raiseIf (!c.configured) (.raised "RuntimeError" "KernelLoop.model_io is not configured"))
  ask host
  initializeRunLedger host c
  onlyIf (!c.skipBootstrap) (dispatchBootstrap host c)
  ask host
  emitEvent host c .runStarted (← get).state.iteration

/-- `effective_max`: a restored limit counts from the iteration that was restored. -/
def effectiveMax (iteration maxIterations : Int) (restored : Bool) : Int :=
  if restored then maxIterations + iteration else maxIterations

/-- `_run_state`, for as many rounds. -/
def runState (rounds : Nat) : LoopM (Option RunResult) := do
  enterRun host c
  let s := (← get).state
  mark (.started s.iteration c.maxIterations s.restoredLimit)
  runRounds host c rounds (effectiveMax s.iteration c.maxIterations s.restoredLimit)

/-- The characters that an error code keeps. -/
def isCodeChar (ch : Char) : Bool := host.isLower ch || host.isDigit ch || "_.-".toList.contains ch

variable (e : PyError)

/-- The code of an exception, if it can be written down. -/
def sanitizedCode : String :=
  let raw := host.errorCode e
  if raw.toList.head?.any host.isLower && raw.toList.all (isCodeChar host) && raw.length ≤ 128
  then raw else "kernel_run_failed"

/-- Another owner may be running the attempt. -/
def lostOwnership : Bool := isExecutionLeaseError e && !isExecutionCancelled e

def settlementPending (executionId attemptId : String) : Bool :=
  host.settlement e == some (executionId, attemptId)

/-- `run_cancelled` or `run_failed`. -/
def failureTerminal : EventType :=
  if isExecutionCancelled e || sanitizedCode host e == "execution_cancelled" then .runCancelled
  else .runFailed

/-- `terminal_run_id`. -/
def terminalRunId (w : World) (identity : RunIdentity) : String :=
  let observed := (w.observer.map Observer.runId).getD ""
  if observed = "" then identity.runId else observed

def wantsFailureTerminal (w : World) (identity : RunIdentity) : Bool :=
  c.callback && !(terminalRunId w identity).isEmpty
    && !(w.observer.any Observer.terminal) && !lostOwnership e
    && !settlementPending host e identity.executionId (terminalRunId w identity)

/-- `emit_run_failure_terminal`, whose exception is swallowed. -/
def emitRunFailureTerminal (runId : String) (failedIteration : Int) : LoopM Unit := do
  modify (record c { type := failureTerminal host e, runId, iteration := max 0 failedIteration })
  let _ ← tick

/-- The handler of `_run_state_with_failure_bundle`. -/
def recordFailure : LoopM Unit := do
  match (← get).state.identity with
  | none => pure ()
  | some identity => do
    ask host
    ask host
    setState fun s => { s with runStatus := .failed }
    ask host
    let now ← tick
    if wantsFailureTerminal host c e (← get) identity then
      emitRunFailureTerminal host c e (terminalRunId (← get) identity) (host.failedIteration now)
    else pure ()

/-- `_run_state_with_failure_bundle`: the observer is its own. -/
def runStateWithFailureBundle (rounds : Nat) : LoopM (Option RunResult) := fun w =>
  match runState host c rounds { w with observer := some ⟨"", false⟩ } with
  | .ok result w' => .ok result { w' with observer := w.observer }
  | .error e w' =>
    match recordFailure host c e w' with
    | .ok _ w'' => .error e { w'' with observer := w.observer }
    | .error e' w'' => .error e' { w'' with observer := w.observer }

/-! ### Entries -/

/-- The state that `prepare_fresh_run_invocation` makes. -/
def LoopState.fresh (hasSession : Bool) : LoopState where
  iteration := 0
  runStatus := .running
  identity := none
  continuation := none
  interactionRequest := none
  awaitsHuman := false
  pendingToolCalls := 0
  restoredLimit := false
  hasSession := hasSession
  revision := none

/-- `run`. -/
def run (hasSession : Bool) (rounds : Nat) : LoopM (Option RunResult) := do
  ask host
  setState fun _ => .fresh hasSession
  guardCall host c
  runStateWithFailureBundle host { c with skipBootstrap := false } rounds

/-- The state that a resume plan makes, with its ledger. -/
def hydrate (hasSession : Bool) : LoopM Unit := do
  let iteration ← lift (intFromContinuation continuation "iteration" 0)
  setState fun _ => { LoopState.fresh hasSession with iteration := iteration }
  initializeRunLedger host c

/-- A resumed run that goes on, with the limit of its plan. -/
def continueRun (maxIterations : Int) (rounds : Nat) : LoopM (Option RunResult) :=
  runStateWithFailureBundle host
    { c with maxIterations := maxIterations, skipBootstrap := true } rounds

/-- `plan.max_iterations`. -/
def plannedMax : Except PyError Int :=
  intFromContinuation continuation "max_iterations" 6

/-- `resume_human_input`. -/
def resumeHumanInput (hasSession : Bool) (rounds : Nat) : LoopM (Option RunResult) := do
  ask host
  let maxIterations ← lift (plannedMax continuation)
  hydrate host c continuation hasSession
  guardCall host c
  let _ ← waitForAnswer host c
  dispatchBootstrap host c
  dispatchOnResume host c
  continueRun host c maxIterations rounds

inductive InteractionKind where
  | humanInput | toolApproval | maxBudget

/-- `extra_iterations` of a decision, and whether it approved. -/
def readDecision (decision : Value) : Except PyError (Bool × Int) :=
  if (decision.get "approved").truthy then
    ((decision.get "extra_iterations").or (.int 0)).toInt.map fun extra => (true, extra)
  else .ok (false, 0)

/-- `resume_interaction`. -/
def resumeInteraction (kind : InteractionKind) (continuation : Dict) (rounds : Nat) :
    LoopM (Option RunResult) := do
  guardCall host c
  ask host
  let response ← waitForAnswer host c
  let maxIterations ← lift (plannedMax continuation)
  hydrate host c continuation true
  dispatchBootstrap host c
  match kind with
  | .humanInput => do
    ask host
    dispatchOnResume host c
    continueRun host c maxIterations rounds
  | .toolApproval => do
    dispatchToolApprovalResume host c continuation
    if (← get).state.runStatus = .awaitingInteraction then do
      let suspended ← finishAwaitingRun host c .awaitingInteraction
      return some suspended
    else do
      emitBuilt host c .iterationCompleted completedIteration
      continueRun host c maxIterations rounds
  | .maxBudget => do
    ask host
    let (approved, extraIterations) ← lift (readDecision response)
    setState fun s => { s with continuation := none, interactionRequest := none }
    continueRun host { c with onMaxIterations := c.onMaxIterations && approved } extraIterations
      rounds

/-- How the loop is entered. -/
inductive Entry where
  | run (hasSession : Bool)
  | resumeHumanInput (continuation : Dict) (hasSession : Bool)
  | resumeInteraction (kind : InteractionKind) (continuation : Dict)

def invoke : Entry → Nat → LoopM (Option RunResult)
  | .run hasSession, rounds => run host c hasSession rounds
  | .resumeHumanInput continuation hasSession, rounds =>
    resumeHumanInput host c continuation hasSession rounds
  | .resumeInteraction kind continuation, rounds =>
    resumeInteraction host c kind continuation rounds

end Loop

end Unchain.Kernel
