import Unchain.Context.ToolPrograms

/-!
A terminal tool handler runs at most once per attempt and call.

The system is a pool of executions: any number of executors, of any boundaries
and guards, for any requests, running concurrently with other writers of the
journal. Between any two commands an execution may be overtaken or killed. The
journal stores an event at most once per operation and says so in its answer,
which may get lost; everything else the surroundings answer is unconstrained.

The permit of a call is the first answer to the append of its `tool.started`
event. The operation of that event is determined by the attempt and the call, so
the journal hands the permit out once; an execution calls the handler only while
it holds the permit, and spends it by doing so.
-/

namespace Unchain.Context

open Lib Lib.Process Python Journal

/-! ### The journal port -/

def SameOperation (event : JournalEvent) (request : JournalAppendRequest) : Prop :=
  event.attempt.executionId = request.attempt.executionId ∧
    event.operation.operationId = request.operation.operationId

/-- The request may be stored under this sequence number: its operation is new, and the
number follows those of the execution. -/
structure Storable (events : List JournalEvent) (request : JournalAppendRequest) (storeSeq : Int) :
    Prop where
  fresh : ∀ event ∈ events, ¬ SameOperation event request
  positive : 1 ≤ storeSeq
  follows : ∀ event ∈ events, event.attempt.executionId = request.attempt.executionId →
    event.storeSeq < storeSeq

inductive Appends (events : List JournalEvent) (request : JournalAppendRequest) :
    Except PyError JournalAppendResult → List JournalEvent → Prop where
  /-- The event is stored and acknowledged. -/
  | stored {storeSeq : Int} (h : Storable events request storeSeq) :
      Appends events request (.ok ⟨request.store storeSeq, false⟩)
        (events ++ [request.store storeSeq])
  /-- The event is stored and the acknowledgement is lost. -/
  | lost {storeSeq : Int} (h : Storable events request storeSeq) (e : PyError) :
      Appends events request (.error e) (events ++ [request.store storeSeq])
  /-- The operation was stored before. -/
  | replayed {event : JournalEvent} (mem : event ∈ events) (same : SameOperation event request) :
      Appends events request (.ok ⟨event, true⟩) events
  /-- The append conflicts or fails and stores nothing. -/
  | refused (e : PyError) : Appends events request (.error e) events

variable {events : List JournalEvent} {request : JournalAppendRequest}

theorem appends_keeps {events' : List JournalEvent} {r : Except PyError JournalAppendResult}
    (h : Appends events request r events') : ∀ event ∈ events, event ∈ events' := by
  intro event mem
  cases h with
  | stored _ | lost _ _ => exact List.mem_append_left _ mem
  | replayed _ _ | refused _ => exact mem

/-- `lookup_tool_execution_receipts`: the receipts of one call, up to the index's limit. -/
def lookupReceipts (events : List JournalEvent) (attempt : AttemptRef) (callId : String) :
    Except PyError ToolExecutionReceiptLookup :=
  let found := events.filter fun event =>
    event.attempt = attempt && toolExecutionReceiptTypes.contains event.eventType
      && (event.payload.get "call_id").eqPy (.str callId)
  ToolExecutionReceiptLookup.make attempt callId (found.take maxToolExecutionReceipts)
    (decide (maxToolExecutionReceipts < found.length))

/-! ### The world of the executions -/

structure HandlerCall where
  attempt : AttemptRef
  callId : String
  handler : Nat
  arguments : Value

/-- The stored events, the bound invocations of each executor and, as history, the calls
of terminal handlers. -/
structure World where
  events : List JournalEvent
  bindings : List (Nat × DurableToolInvocation)
  calls : List HandlerCall

/-- Commands whose answer nothing is assumed about: guards may be lost or fenced off at any
time, handlers may raise, artifacts may be unreadable. -/
def Unconstrained : Command → Prop
  | .lookupToolExecutionReceipts _ _ => False
  | .append _ => False
  | .popBinding _ _ => False
  | .startHandler _ _ _ _ => False
  | _ => True

def World.binding (w : World) (executor invocation : Nat) : Option DurableToolInvocation :=
  (w.bindings.find? fun b => b.1 = executor && b.2.identity = invocation).map Prod.snd

inductive Answers : World → (c : Command) → c.Answer → World → Prop where
  | lookup (w : World) (attempt : AttemptRef) (callId : String) :
      Answers w (.lookupToolExecutionReceipts attempt callId)
        (lookupReceipts w.events attempt callId) w
  | lookupFailed (w : World) (attempt : AttemptRef) (callId : String) (e : PyError) :
      Answers w (.lookupToolExecutionReceipts attempt callId) (Except.error e) w
  | append {w : World} {request : JournalAppendRequest} {r : Except PyError JournalAppendResult}
      {events : List JournalEvent} (h : Appends w.events request r events) :
      Answers w (.append request) r { w with events := events }
  | popBinding (w : World) (executor invocation : Nat) :
      Answers w (.popBinding executor invocation) (w.binding executor invocation)
        { w with bindings := w.bindings.filter fun b =>
            !(b.1 = executor && b.2.identity = invocation) }
  | startHandler (w : World) (attempt : AttemptRef) (callId : String) (handler : Nat)
      (arguments : Value) :
      Answers w (.startHandler attempt callId handler arguments) ()
        { w with calls := w.calls ++ [⟨attempt, callId, handler, arguments⟩] }
  | unconstrained (w : World) {c : Command} (h : Unconstrained c) (r : c.Answer) : Answers w c r w

inductive Moves : World → World → Prop where
  | append {w : World} {request : JournalAppendRequest} {r : Except PyError JournalAppendResult}
      {events : List JournalEvent} (h : Appends w.events request r events) :
      Moves w { w with events := events }
  | bindInvocation (w : World) (executor : Nat) (invocation : DurableToolInvocation) :
      Moves w { w with bindings := w.bindings ++ [(executor, invocation)] }

def executions (host : Host) : Process.Surroundings ports PyError DurableToolCompletionReceipt World where
  answers := Answers
  moves := Moves
  starts p := ∃ executor request guard invocation,
    p = executeOnce host executor request guard invocation

variable (host : Host)

/-! ### The permit of a call -/

variable (attempt : AttemptRef) (callId : String)

def startedOperationId : Except PyError String := do
  let callId ← requiredIdentifier host "call_id" (.str callId)
  let callId ← requiredIdentifier host "call_id" (.str callId)
  let operationId ← requiredIdentifier host "operation_id"
    (.str ("operation-" ++ host.digest (toolEventIdentity attempt "tool.started" callId)))
  requiredIdentifier host "operation_id" (.str operationId)

def startsCall (executionId operationId : String) : Bool :=
  executionId = attempt.executionId &&
    match startedOperationId host attempt callId with
    | .ok started => started = operationId
    | .error _ => false

/-- The answer says that the start of the call was stored just now. -/
def grantsStart : (c : Command) → c.Answer → Bool
  | .append request, r =>
    startsCall host attempt callId request.attempt.executionId request.operation.operationId &&
      match (r : Except PyError JournalAppendResult) with
      | .ok result => !result.duplicate
      | .error _ => false
  | _, _ => false

def callsHandler : Command → Bool
  | .startHandler attempt' callId' _ _ => attempt' = attempt && callId' = callId
  | _ => false

def startPermit : Permit ports :=
  ⟨grantsStart host attempt callId, callsHandler attempt callId⟩

def Started (w : World) : Prop :=
  ∃ event ∈ w.events,
    startsCall host attempt callId event.attempt.executionId event.operation.operationId = true

def handlerCalls (w : World) : Nat :=
  w.calls.countP fun call => call.attempt = attempt && call.callId = callId

/-- Only the store of a new operation answers without `duplicate`. -/
theorem started_of_appends {attempt : AttemptRef} {callId : String} {w : World}
    {result : JournalAppendResult} (h : Appends w.events request (.ok result) events)
    (fresh : result.duplicate = false)
    (start : startsCall host attempt callId request.attempt.executionId
      request.operation.operationId = true) :
    ¬ Started host attempt callId w ∧ Started host attempt callId { w with events := events } := by
  cases h with
  | replayed _ _ => simp at fresh
  | @stored storeSeq storable =>
    refine ⟨?_, request.store storeSeq, by simp, start⟩
    rintro ⟨event, mem, already⟩
    refine storable.fresh event mem ⟨?_, ?_⟩
    · simp only [startsCall, Bool.and_eq_true, decide_eq_true_eq] at start already
      rw [start.1, already.1]
    · simp only [startsCall, Bool.and_eq_true] at start already
      cases started : startedOperationId host attempt callId with
      | error e => simp [started] at start
      | ok id =>
        simp only [started, decide_eq_true_eq] at start already
        rw [← start.2, ← already.2]

/-- A durable start stays durable. -/
theorem Started.mono {attempt : AttemptRef} {callId : String} {w w' : World}
    (started : Started host attempt callId w) (keeps : ∀ event ∈ w.events, event ∈ w'.events) :
    Started host attempt callId w' := by
  obtain ⟨event, mem, start⟩ := started
  exact ⟨event, keeps event mem, start⟩

theorem startPermit_issuedOnce :
    (startPermit host attempt callId).IssuedOnce (executions host) (Started host attempt callId)
      (handlerCalls attempt callId) where
  grant := by
    intro w c r w' answers granted
    change grantsStart host attempt callId c r = true at granted
    cases answers with
    | append h =>
      rename_i r events
      simp only [grantsStart, Bool.and_eq_true] at granted
      cases r with
      | error e => simp at granted
      | ok result => exact started_of_appends host h (by simpa using granted.2) granted.1
    | unconstrained unconstrained r =>
      cases c <;> simp_all [grantsStart, Unconstrained]
    | lookup | lookupFailed | popBinding | startHandler => simp [grantsStart] at granted
  answers_taken := by
    intro w c r w' answers started
    cases answers with
    | append h => exact started.mono host (appends_keeps h)
    | lookup | lookupFailed | popBinding | startHandler | unconstrained => exact started
  moves_taken := by
    intro w w' moves started
    cases moves with
    | append h => exact started.mono host (appends_keeps h)
    | bindInvocation => exact started
  answers_used := by
    intro w c r w' answers
    change _ = _ + (callsHandler attempt callId c).toNat
    cases answers with
    | startHandler attempt' callId' handler arguments =>
      simp only [handlerCalls, callsHandler, List.countP_append, List.countP_singleton]
      cases decide (attempt' = attempt) && decide (callId' = callId) <;> rfl
    | unconstrained unconstrained r =>
      cases c <;> simp_all [callsHandler, Unconstrained]
    | append | popBinding => simp [callsHandler, handlerCalls]
    | lookup | lookupFailed => simp [callsHandler]
  moves_used := by
    intro w w' moves
    cases moves <;> rfl

/-! ### The monitor of one execution -/

section Monitor

variable {c : Command}

theorem callsHandler_passive (passive : Passive c) : callsHandler attempt callId c = false := by
  cases c <;> simp_all [Passive, callsHandler]

theorem grantsStart_quiet (quiet : Quiet c) (r : c.Answer) :
    grantsStart host attempt callId c r = false := by
  cases c <;> simp_all [Quiet, grantsStart]

theorem quiet_monitor (c : Command) (quiet : Quiet c) (g : Bool) :
    (startPermit host attempt callId).monitor.allows g c ∧
      ∀ r, (startPermit host attempt callId).monitor.next g c r = g := by
  have unused : callsHandler attempt callId c = false :=
    callsHandler_passive attempt callId (passive_of_quiet c quiet)
  refine ⟨fun uses => absurd (unused.symm.trans uses) (by decide), fun r => ?_⟩
  change (if callsHandler attempt callId c = true then false
    else g || grantsStart host attempt callId c r) = g
  simp [unused, grantsStart_quiet host attempt callId quiet r]

theorem passive_monitor (c : Command) (passive : Passive c) (g : Bool) :
    (startPermit host attempt callId).monitor.allows g c := fun uses =>
  absurd ((callsHandler_passive attempt callId passive).symm.trans uses) (by decide)

variable {attempt callId}

abbrev permitMonitor (attempt : AttemptRef) (callId : String) : Monitor ports :=
  (startPermit host attempt callId).monitor

variable {α : Type} {p : Exec α}

theorem quiet_obeys (quiet : p.Only Quiet) (g : (permitMonitor host attempt callId).State) :
    Obeys (permitMonitor host attempt callId) g p fun g' _ => g' = g :=
  (obeys_of_only (quiet_monitor host attempt callId) quiet (returns_true p) g).mono
    fun _ _ h => h.1

theorem passive_obeys (passive : p.Only Passive) (g : (permitMonitor host attempt callId).State) :
    Obeys (permitMonitor host attempt callId) g p fun _ _ => True :=
  obeys_of_allowed (passive_monitor host attempt callId) passive g

variable {call toolName : String} {iteration : Int} {subject : DurableToolExecutionSubject}

theorem callId_of_receiptFields {call' : String} {fields : Dict}
    (h : toolReceiptFields host attempt toolName call iteration subject = .ok (call', fields)) :
    requiredIdentifier host "call_id" (.str call) = .ok call' := by
  obtain ⟨normalized, hcall, h⟩ := Effect.bind_ok h
  iterate 5 obtain ⟨_, -, h⟩ := Effect.bind_ok h
  split at h
  · cases h
  · simp only [Except.ok.injEq, Prod.mk.injEq] at h
    rw [← h.1]
    exact onInvalid_ok hcall

variable {draft : SemanticEventDraft} {request : JournalAppendRequest}

theorem operation_of_projectDraft {eventType : String} {identity payload : Value}
    {refs : List ResourceRef}
    (hdraft : projectDraft host attempt eventType identity payload refs = .ok draft)
    (hrequest : draft.toAppendRequest host = .ok request) : request.attempt = attempt ∧ ∃ id,
      requiredIdentifier host "operation_id" (.str ("operation-" ++ host.digest identity))
        = .ok id ∧
      requiredIdentifier host "operation_id" (.str id) = .ok request.operation.operationId := by
  obtain ⟨_, -, hdraft⟩ := Effect.bind_ok hdraft
  obtain ⟨_, -, hdraft⟩ := Effect.bind_ok hdraft
  obtain ⟨id, hid, hdraft⟩ := Effect.bind_ok hdraft
  obtain ⟨_, -, hdraft⟩ := Effect.bind_ok hdraft
  split at hdraft
  · cases hdraft
  · cases hdraft
    obtain ⟨operation, hoperation, hrequest⟩ := Effect.bind_ok hrequest
    cases hrequest
    obtain ⟨normalized, hnormalized, hoperation⟩ := Effect.bind_ok hoperation
    obtain ⟨_, -, hoperation⟩ := Effect.bind_ok hoperation
    obtain ⟨_, -, hoperation⟩ := Effect.bind_ok hoperation
    cases hoperation
    exact ⟨rfl, id, hid, hnormalized⟩

theorem startsCall_of_project (hcall : requiredIdentifier host "call_id" (.str callId) = .ok call)
    (hdraft : projectToolStarted host attempt toolName call iteration subject = .ok draft)
    (hrequest : draft.toAppendRequest host = .ok request) :
    startsCall host attempt callId request.attempt.executionId request.operation.operationId
      = true := by
  obtain ⟨⟨call', payload⟩, hfields, hdraft⟩ := Effect.bind_ok hdraft
  obtain ⟨sanitized, -, hdraft⟩ := Effect.bind_ok hdraft
  have hcall' := callId_of_receiptFields host hfields
  obtain ⟨sameAttempt, id, hid, hoperation⟩ := operation_of_projectDraft host hdraft hrequest
  have started : startedOperationId host attempt callId = .ok request.operation.operationId := by
    simp only [startedOperationId, hcall, hcall', hid, hoperation, bind, Except.bind]
  simp [startsCall, started, sameAttempt]

theorem append_obeys (starts : startsCall host attempt callId request.attempt.executionId
      request.operation.operationId = true) :
    Obeys (permitMonitor host attempt callId) false (Exec.append request)
      fun g result => result.duplicate = false → g = true := by
  refine ⟨passive_monitor host attempt callId (.append request) trivial _, fun r => ?_⟩
  cases r with
  | error e => trivial
  | ok result =>
    intro fresh
    change (if callsHandler attempt callId (.append request) = true then false
      else false || grantsStart host attempt callId (.append request) (.ok result)) = true
    simp [callsHandler, grantsStart, starts, fresh]

theorem appendProjected_obeys (starts : ∀ request, draft.toAppendRequest host = .ok request →
      startsCall host attempt callId request.attempt.executionId request.operation.operationId
        = true) :
    Obeys (permitMonitor host attempt callId) false (appendProjected host attempt draft)
      fun g result => result.duplicate = false → g = true := by
  refine obeys_raiseIf_bind (obeys_raiseIf_bind (obeys_lift_bind fun request built => ?_))
  refine obeys_bind (append_obeys host (starts request built)) fun g result granted => ?_
  exact obeys_raiseIf_bind granted

theorem recovered_obeys (boundary : DurableToolBoundary) (recovery : ToolSideEffectRecovery)
    (call : ToolCall) (g : (permitMonitor host attempt callId).State) :
    Obeys (permitMonitor host attempt callId) g
      (authorizationFromRecovery host boundary recovery call)
      fun g a => a.disposition = .execute → g = true :=
  (obeys_of_only (quiet_monitor host attempt callId)
    (authorizationFromRecovery_quiet host)
    (authorizationFromRecovery_returns host) g).mono
    fun _ _ h eq => absurd eq h.2

theorem authorizeExecution_obeys {boundary : DurableToolBoundary}
    (bound : boundary.attempt = attempt) (toolName : String) (iteration : Int)
    (subject : DurableToolExecutionSubject) : Obeys (permitMonitor host attempt callId) false
      (authorizeExecution host boundary toolName callId iteration subject)
      fun g a => a.disposition = .execute → g = true := by
  subst bound
  refine obeys_lift_bind fun tool _ => obeys_lift_bind fun call hcall => ?_
  refine obeys_lift_bind fun iteration _ => ?_
  refine obeys_bind (quiet_obeys host (recoverToolSideEffect_quiet host _ _) _)
    fun g recovery same => ?_
  subst same
  refine obeys_lift_bind fun _ _ => ?_
  split
  · refine obeys_lift_bind fun draft hdraft => ?_
    refine obeys_bind (obeys_mapError (appendProjected_obeys host fun request built =>
      startsCall_of_project host hcall hdraft built)) fun g appended granted => ?_
    split
    · exact obeys_bind (quiet_obeys host (recoverToolSideEffect_quiet host _ _) _)
        fun g' recovery _ => recovered_obeys host boundary recovery _ g'
    · rename_i fresh
      exact obeys_lift fun _ _ _ => granted (by simpa using fresh)
  · exact recovered_obeys host boundary recovery _ _

variable {g : (permitMonitor host attempt callId).State}

theorem callHandler_obeys (attempt' : AttemptRef) (callId' : String) (handler : Nat)
    (arguments : Value) (permit : attempt' = attempt → callId' = callId → g = true) :
    Obeys (permitMonitor host attempt callId) g
      (Exec.callHandler attempt' callId' handler arguments) fun _ _ => True := by
  refine ⟨fun uses => ?_, fun _ => ?_⟩
  · change callsHandler attempt callId (.startHandler attempt' callId' handler arguments) = true
      at uses
    simp only [callsHandler, Bool.and_eq_true, decide_eq_true_eq] at uses
    exact permit uses.1 uses.2
  · exact ⟨passive_monitor host attempt callId (.awaitHandler attempt' callId') trivial _,
      fun _ => trivial⟩

/-- The handler is called with the permit in hand, and nothing after it needs one. -/
theorem actOn_obeys (executor : DurableToolExecutor) (request : DurableToolExecutionRequest)
    (bound : Option DurableToolInvocation) (authorization : DurableToolAuthorization)
    (currentFence : ExecutionFence)
    (permit : authorization.disposition = .execute → executor.boundary.attempt = attempt →
      request.callId = callId → g = true) : Obeys (permitMonitor host attempt callId) g
      (actOn host executor request bound authorization currentFence) fun _ _ => True := by
  have guard : ∀ g, Obeys (permitMonitor host attempt callId) g (assertLiveGuard executor request)
      fun g' _ => g' = g := quiet_obeys host assertLiveGuard_quiet
  unfold actOn
  cases disposition : authorization.disposition with
  | reuse =>
    refine obeys_bind (guard g) fun g _ _ => ?_
    refine obeys_bind (quiet_obeys host (recoverCompletion_quiet host) g) fun g _ _ => ?_
    exact obeys_bind (guard g) fun _ _ _ => trivial
  | finalize =>
    refine obeys_bind (guard g) fun g _ _ => ?_
    refine obeys_bind (passive_obeys host (finalizeSealedCompletion_passive host) g) fun g _ _ => ?_
    exact obeys_bind (guard g) fun _ _ _ => trivial
  | execute =>
    cases bound with
    | none => trivial
    | some invocation =>
      refine obeys_bind (guard g) fun g' _ same => ?_
      subst same
      refine obeys_bind (callHandler_obeys host _ _ _ _ (permit disposition))
        fun g' returned _ => ?_
      match returned with
      | none => trivial
      | some none => trivial
      | some (some draft) =>
        refine obeys_bind (guard g') fun g'' _ _ => ?_
        exact passive_obeys host (persistCompletion_passive host _) g''

theorem executeOnce_obeys (executor : DurableToolExecutor) (request : DurableToolExecutionRequest)
    (guard : Option Nat) (invocation : Option DurableToolInvocation) :
    Obeys (permitMonitor host attempt callId) false
      (executeOnce host executor request guard invocation) fun _ _ => True := by
  refine obeys_lift_bind fun _ _ => obeys_raiseIf_bind (obeys_raiseIf_bind ?_)
  refine obeys_bind (quiet_obeys host (recoverToolSideEffect_quiet host _ _) _)
    fun g recovery same => ?_
  subst same
  refine obeys_bind (quiet_obeys host (bindFresh_quiet host _) _) fun g _ same => ?_
  subst same
  refine obeys_bind (quiet_obeys host assertLiveGuard_quiet _) fun g currentFence same => ?_
  subst same
  have authorized : Obeys (permitMonitor host attempt callId) false
      (authorizeExecution host executor.boundary request.toolName request.callId
        request.iteration request.subject) fun g a => a.disposition = .execute →
          executor.boundary.attempt = attempt → request.callId = callId → g = true := by
    by_cases key : executor.boundary.attempt = attempt ∧ request.callId = callId
    · obtain ⟨sameAttempt, rfl⟩ := key
      exact (authorizeExecution_obeys host sameAttempt _ _ _).mono fun _ _ h eq _ _ => h eq
    · exact (passive_obeys host (authorizeExecution_passive host _ _ _ _) _).mono
        fun _ _ _ _ h h' => absurd ⟨h, h'⟩ key
  refine obeys_bind authorized fun g authorization permit => ?_
  refine obeys_bind (obeys_of_only (quiet_monitor host attempt callId)
    (validateAuthorization_quiet host)
    (validateAuthorization_returns host) g)
    fun g' validated h => ?_
  obtain ⟨rfl, kept⟩ := h
  exact actOn_obeys host _ _ _ _ _ fun execute => permit (kept execute)

end Monitor

/-! ### Faultless surroundings -/

section Faultless

def nextSeq (events : List JournalEvent) : Int :=
  events.foldr (fun event m => max event.storeSeq m) 0 + 1

theorem nextSeq_pos (events : List JournalEvent) : 1 ≤ nextSeq events := by
  induction events with
  | nil => decide
  | cons event events ih =>
    simp only [nextSeq, List.foldr_cons] at ih ⊢
    omega

theorem lt_nextSeq {events : List JournalEvent} {event : JournalEvent} (mem : event ∈ events) :
    event.storeSeq < nextSeq events := by
  induction mem with
  | head => simp only [nextSeq, List.foldr_cons]; omega
  | tail _ _ ih => simp only [nextSeq, List.foldr_cons] at ih ⊢; omega

variable (live : ResolvedGuard)

/-- Answers without faults: the journal acknowledges every append, the guard stays live,
and a handler that was started is not heard of again. -/
def serve (w : World) : (c : Command) → c.Answer × World
  | .lookupToolExecutionReceipts attempt callId => (lookupReceipts w.events attempt callId, w)
  | .append request =>
    match w.events.find? fun event =>
      event.attempt.executionId = request.attempt.executionId
        && event.operation.operationId = request.operation.operationId with
    | some event => (Except.ok ⟨event, true⟩, w)
    | none =>
      (Except.ok ⟨request.store (nextSeq w.events), false⟩,
        { w with events := w.events ++ [request.store (nextSeq w.events)] })
  | .resolveGuard _ => (Except.ok live, w)
  | .popBinding executor invocation =>
    (w.binding executor invocation,
      { w with bindings := w.bindings.filter fun b =>
          !(b.1 = executor && b.2.identity = invocation) })
  | .startHandler attempt callId handler arguments =>
    ((), { w with calls := w.calls ++ [⟨attempt, callId, handler, arguments⟩] })
  | .awaitHandler _ _ => (Except.error (), w)
  | .artifactizeToolResult _ _ => (Except.error (.raised "ArtifactServiceError" ""), w)
  | .verifyToolResultArtifactization _ => (Except.error (.raised "ArtifactServiceError" ""), w)
  | .persistExactJson _ _ _ => (Except.error (.raised "ArtifactServiceError" ""), w)
  | .loadVerifiedSubagentState _ => (Except.error (.raised "ArtifactServiceError" ""), w)
  | .artifactizeToolCompletion _ _ => (Except.error (.raised "ArtifactServiceError" ""), w)
  | .verifyToolCompletionArtifactization _ => (Except.error (.raised "ArtifactServiceError" ""), w)
  | .readFull _ => (Except.error (.raised "ArtifactServiceError" ""), w)
  | .projectToolOutput _ _ _ => (Except.error (.raised "ArtifactServiceError" ""), w)

theorem serve_answers (w : World) (c : Command) :
    Answers w c (serve live w c).1 (serve live w c).2 := by
  cases c with
  | lookupToolExecutionReceipts attempt callId => exact .lookup w attempt callId
  | popBinding executor invocation => exact .popBinding w executor invocation
  | startHandler attempt callId handler arguments => exact .startHandler w _ _ _ _
  | append request =>
    simp only [serve]
    split
    · rename_i event found
      refine .append (.replayed (List.mem_of_find?_eq_some found) ?_)
      simpa [SameOperation] using List.find?_some found
    · rename_i absent
      refine .append (.stored ⟨fun event mem same => ?_, nextSeq_pos _,
        fun event mem _ => lt_nextSeq mem⟩)
      have := List.find?_eq_none.mp absent event mem
      simp [same.1, same.2] at this
  | _ =>
    refine .unconstrained w ?_ _
    trivial

/-- Let the first program of the pool be answered once. -/
def advance (s : Pool ports PyError DurableToolCompletionReceipt World) :
    Pool ports PyError DurableToolCompletionReceipt World :=
  match s.programs with
  | .call c k :: rest => ⟨k (serve live s.world c).1 :: rest, (serve live s.world c).2⟩
  | _ => s

variable {init : World → Prop} {s : Pool ports PyError DurableToolCompletionReceipt World}

theorem reachable_advance (h : Reachable (executions host) init s) :
    Reachable (executions host) init (advance live s) := by
  obtain ⟨programs, w⟩ := s
  match programs with
  | [] => exact h
  | .ret _ :: _ => exact h
  | .raise _ :: _ => exact h
  | .call c k :: rest =>
    have answered : Step (executions host) ⟨[] ++ .call c k :: rest, w⟩
        ⟨[] ++ k (serve live w c).1 :: rest, (serve live w c).2⟩ :=
      .answer (serve_answers live w c)
    exact .step h answered

/-- Let the first program be answered `n` times. -/
def drive (live : ResolvedGuard) :
    Nat → Pool ports PyError DurableToolCompletionReceipt World →
      Pool ports PyError DurableToolCompletionReceipt World
  | 0, s => s
  | n + 1, s => drive live n (advance live s)

theorem reachable_drive (n : Nat) (h : Reachable (executions host) init s) :
    Reachable (executions host) init (drive live n s) := by
  induction n generalizing s with
  | zero => exact h
  | succ n ih => exact ih (reachable_advance host live h)

end Faultless

/-! ### Every run -/

/-- In every run of any number of executors over one journal, with executions killed,
overtaken or cut off from an acknowledgement at any point, the terminal handler of a call is
called at most once per attempt and call. -/
theorem handler_called_at_most_once {s : Pool ports PyError DurableToolCompletionReceipt World}
    (reachable : Reachable (executions host) (fun w => w.calls = []) s) (attempt : AttemptRef)
    (callId : String) : handlerCalls attempt callId s.world ≤ 1 := by
  refine used_le_one (startPermit_issuedOnce host attempt callId) ?_ ?_ reachable
  · rintro p ⟨executor, request, guard, invocation, rfl⟩
    exact executeOnce_obeys host executor request guard invocation
  · intro w none
    simp [handlerCalls, none]

/-! A fresh call: the intent is durable, the invocation is bound, and one execution runs
until its handler was called. The digests are those of the four values the run hashes. -/

def shellHost : Host where
  nfc s := s
  casefold s := s
  lower s := s
  digest v :=
    if v.hasKey "domain" then "98e825fd3485a5d8992cc220962d0cc898a7677d99a65af0e6aed04934003f13"
    else if v.hasKey "discriminator" then
      "57b51fd3545904b8a4b24eb648faacdb9d9698e01eaeaf8aa14a5f84996e6d61"
    else if v.hasKey "schema" then
      "54fbf6eb18b7b75754c5cb91a19336abbdf523ab38bf1d18ea4354c59374774b"
    else "44136fa355b3678a1146ad16f7e8649e94fb4fc21fe77e8310c060f61caaff8a"
  freeze _ v := .ok v
  sanitize _ v := .ok v
  display _ := ""

def shellAttempt : AttemptRef := ⟨⟨"execution-1", "generation-1"⟩, "attempt-1"⟩

def shellFence : ExecutionFence := ⟨"execution-1", "owner-1", 1⟩

def emptyDigest : String := "44136fa355b3678a1146ad16f7e8649e94fb4fc21fe77e8310c060f61caaff8a"

def shellIntent : JournalEvent :=
  ⟨"event-intent", "tool_call", shellAttempt, ⟨"operation-intent", emptyDigest⟩, 1,
    .dict [("tool_name", .str "shell"), ("call_id", .str "call-1"), ("iteration", .int 0),
      ("arguments", .dict [])], []⟩

def shellSubject : DurableToolExecutionSubject :=
  ⟨⟨1, "event-intent"⟩, emptyDigest, emptyDigest, .notRequired, "", "", .normal, emptyDigest,
    emptyDigest, shellFence⟩

def shellInvocation : DurableToolInvocation :=
  ⟨7, 0, .normal, emptyDigest, emptyDigest, .dict [], 3⟩

def shellExecution : Exec DurableToolCompletionReceipt :=
  executeOnce shellHost ⟨0, ⟨shellAttempt, 1⟩, 2, 2, [.root 2 4 5]⟩
    ⟨"shell", "call-1", 0, shellSubject, "default"⟩ none (some shellInvocation)

def shellStart : Pool ports PyError DurableToolCompletionReceipt World :=
  ⟨[shellExecution], ⟨[shellIntent], [(0, shellInvocation)], []⟩⟩

/-- The state after the given number of answers. -/
def shellRun (n : Nat) : Pool ports PyError DurableToolCompletionReceipt World :=
  drive ⟨shellFence, 2, [.root 2 4 5]⟩ n shellStart

theorem shellStart_reachable :
    Reachable (executions shellHost) (fun w => w.calls = []) shellStart :=
  .step (.init rfl) (.start shellExecution ⟨_, _, _, _, rfl⟩)

theorem shell_called_once :
    handlerCalls shellAttempt "call-1" (shellRun 8).world = 1 ∧
      handlerCalls shellAttempt "call-1" (shellRun 8).world ≤ 1 :=
  ⟨by decide +kernel, handler_called_at_most_once shellHost
    (reachable_drive shellHost _ 8 shellStart_reachable) shellAttempt "call-1"⟩

end Unchain.Context
