import Unchain.Lib.Interrupted
import Unchain.Providers.RequestLease

/-!
Durable provider turns: the wire envelope and its routes (`providers/wire_envelope.py`), the
single-send transports (`providers/exact_route_transport.py`), the turn runtime
(`providers/durable_turn_runtime.py`) over the request-lease coordinator, and the durable store
that serves it.

The runtime is one program: it may be cut off between any two of its commands. Its hooks are taken
not to raise, so a hook that only observes leaves no trace here.
-/

namespace Unchain.Providers

open Lib Lib.Process Lib.Interrupted Journal Python

/-- `ProviderTurnResultIntegrityError`. -/
def resultIntegrityError (message : String) : PyError :=
  .raised "ProviderTurnResultIntegrityError" message

/-- `DurableProviderTurnError`. -/
def turnError (message : String) : PyError := .raised "DurableProviderTurnError" message

/-! ### The wire envelope -/

inductive WireProvider where
  | openai | anthropic | hyperspace | ollama | gemini
deriving DecidableEq

/-- A `ProviderWireRoute`; of its request, whether it continues a previous response. -/
structure ProviderWireRoute where
  name : ProviderRoute
  routeSha256 : String
  hasPreviousResponseId : Bool

structure ProviderWireEnvelope where
  attempt : AttemptRef
  iteration : Nat
  envelopeSha256 : String
  provider : WireProvider
  routes : List ProviderWireRoute

/-- The names of the routes, as `_validate_openai_routes` leaves them. -/
def ProviderWireEnvelope.RoutesMatch (envelope : ProviderWireEnvelope) : Prop :=
  (∃ primary, envelope.routes = [primary] ∧ primary.name = .primary ∧
    (envelope.provider = .openai → primary.hasPreviousResponseId = false)) ∨
  ∃ primary fallback, envelope.routes = [primary, fallback] ∧ envelope.provider = .openai ∧
    primary.name = .primary ∧ primary.hasPreviousResponseId = true ∧
    fallback.name = .openaiPreviousResponseFallback ∧ fallback.hasPreviousResponseId = false

/-- An envelope that passed the checks of its constructor. -/
structure ProviderWireEnvelope.Made (host : Host) (envelope : ProviderWireEnvelope) : Prop where
  attempt : AttemptRef.fromDict host envelope.attempt.toDict = .ok envelope.attempt
  iteration : envelope.iteration ≤ maxProviderRequestIteration
  envelopeSha256 : isSha256 envelope.envelopeSha256 = true
  routeSha256 : ∀ route ∈ envelope.routes, isSha256 route.routeSha256 = true
  routes : envelope.RoutesMatch

/-! ### Transports -/

/-- What is looked at of an exception that a provider call raises. -/
structure ProviderException where
  /-- `isinstance(error, Exception)`. -/
  isException : Bool
  /-- `is_durable_persistence_failure`. -/
  durable : Bool
  /-- `type(error) is GeminiResponseFailure`. -/
  geminiResponseFailure : Bool
  /-- `_explicit_status_code`. -/
  statusCode : Option Int
  /-- An `APIError` with code 503 whose enclosing response has status 503. -/
  geminiUnavailable : Bool
  /-- `_is_previous_response_error`. -/
  previousResponseError : Bool
  /-- `ProviderFailureDiagnostic.from_exception`. -/
  failureDiagnostic : Option ProviderFailureDiagnostic
  /-- `ProviderUncertaintyDiagnostic.from_exception`. -/
  uncertaintyDiagnostic : ProviderUncertaintyDiagnostic
deriving DecidableEq

inductive ExactProviderRouteFailureKind where
  | transientRetrySafe | previousResponseFallback | terminal
deriving DecidableEq

/-- `_TRANSIENT_RETRY_SAFE_STATUSES`. -/
def transientRetrySafeStatuses : List Int := [429, 502, 503, 529]

/-- `_classified_failure_kind`. -/
def classifiedFailureKind (error : ProviderException) : Option ExactProviderRouteFailureKind :=
  if error.geminiResponseFailure then some .terminal
  else match error.statusCode with
    | none => none
    | some statusCode =>
      if statusCode = 503 then
        if error.geminiUnavailable then some .transientRetrySafe else none
      else if transientRetrySafeStatuses.contains statusCode then some .transientRetrySafe
      else if 400 ≤ statusCode ∧ statusCode < 500 ∧ statusCode ≠ 408 ∧ statusCode ≠ 409 then
        some .terminal
      else none

/-- What the model IO makes of one request: it may fail before the request is tried, and it may
return something that is not a `ModelTurnResult`. -/
inductive Fetched (R : Type) where
  | unprepared (error : ProviderException)
  | raised (error : ProviderException)
  | returned (result : R)
  | returnedOther

/-- How a transport's `send` ends: `failure` is an `ExactProviderRouteFailure`. -/
inductive SendOutcome (R : Type) where
  | result (result : R)
  | notResult
  | failure (kind : ExactProviderRouteFailureKind) (original : ProviderException)
  | raised (error : ProviderException)
deriving DecidableEq

/-- The end of a transport that classifies what it caught. -/
def classify {R : Type} (error : ProviderException) : SendOutcome R :=
  match classifiedFailureKind error with
  | some kind => .failure kind error
  | none => .raised error

/-- `except Exception` of `OpenAIExactRouteTransport.send`. -/
def openaiCaught {R : Type} (route : ProviderWireRoute) (error : ProviderException) :
    SendOutcome R :=
  if error.durable then .raised error
  else if route.name = .primary && route.hasPreviousResponseId && error.statusCode.isSome
      && error.previousResponseError then
    .failure .previousResponseFallback error
  else classify error

/-- `except Exception` of the Anthropic-family and Gemini transports. -/
def familyCaught {R : Type} (error : ProviderException) : SendOutcome R :=
  if error.durable then .raised error else classify error

/-- What a transport makes of an exception of the call itself. -/
def caught {R : Type} (provider : WireProvider) (route : ProviderWireRoute)
    (error : ProviderException) : SendOutcome R :=
  match provider with
  | .openai => if error.isException then openaiCaught route error else .raised error
  | .ollama => .raised error
  | _ => if error.isException then familyCaught error else .raised error

/-- `ExactProviderRouteTransport.send` of each provider. -/
def exactSend {R : Type} (provider : WireProvider) (route : ProviderWireRoute) :
    Fetched R → SendOutcome R
  | .unprepared error => .raised error
  | .raised error => caught provider route error
  | .returned result => .result result
  | .returnedOther => .notResult

/-! ### Results -/

/-- `ProviderTurnResultEnvelope`. -/
structure ProviderTurnResultEnvelope where
  subject : ProviderRequestSubject
  routeSha256 : String
  visibleOutput : Bool
  result : Value
  resultSha256 : String
deriving DecidableEq

/-- `ProviderTurnResultReceipt`, with the artifact's verified content read back. -/
structure ProviderTurnResultReceipt where
  envelope : ProviderTurnResultEnvelope
  artifact : ArtifactRef
  cursor : EventCursor

structure ResultCodec (R : Type) where
  /-- `_result_payload` and `_validated_result`. -/
  payload : R → Except PyError Value
  /-- `to_model_turn_result`. -/
  restore : Value → R

structure DurableProviderTurnOutcome (R : Type) where
  result : R
  recovered : Bool
deriving DecidableEq

/-- How a turn ends when it raises. -/
inductive TurnError where
  /-- `DurableProviderTurnTerminalError`. -/
  | terminal (classification : Option FailureClassification)
      (diagnostic : Option ProviderFailureDiagnostic)
  /-- `DurableProviderTurnUncertainError`. -/
  | uncertain (diagnostic : ProviderUncertaintyDiagnostic)
  /-- `RetriesExhaustedError`. -/
  | retriesExhausted (lastError : ProviderException) (attempts : Int)
  /-- The exception of the transport itself. -/
  | provider (error : ProviderException)
  | python (error : PyError)
deriving DecidableEq

/-- Errors that say the durable records contradict each other or were moved in a way that is not
allowed. -/
def TurnError.isIntegrityOrTransition : TurnError → Bool
  | .python (.raised cls _) =>
    ["ProviderRequestLeaseIntegrityError", "ProviderTurnResultIntegrityError",
      "ProviderRequestTransitionError"].contains cls
  | _ => false

/-! ### What the runtime asks for -/

inductive TurnCmd where
  | lease (c : LeaseCmd)
  /-- `lookup_provider_turn_result_receipts`. -/
  | lookupReceipts (subject : ProviderRequestSubject)
  /-- `persist_provider_turn_result_cas`. -/
  | persistResult (startedLease : ProviderRequestLease) (envelope : ProviderTurnResultEnvelope)
  /-- `self._transport.send(...)`. -/
  | send (provider : WireProvider) (route : ProviderWireRoute) (retryOrdinal : Nat)
  /-- `compute_delay_ms` and the wait. -/
  | delay (ordinal : Nat)

abbrev TurnPort (R : Type) : Interface where
  Cmd := TurnCmd
  Answer
    | .lease c => LeasePort.Answer c
    | .lookupReceipts _ => List ProviderTurnResultReceipt
    | .persistResult _ _ => Except PyError ProviderTurnResultReceipt
    | .send _ _ _ => SendOutcome R
    | .delay _ => Except PyError Unit

abbrev TurnProg (R α : Type) : Type := Prog (TurnPort R) TurnError α

/-- `RetryConfig`; the jitter only lengthens the wait. -/
structure RetryConfig where
  maxRetries : Int
  baseDelayMs : Int
  maxDelayMs : Int

inductive DurableProviderTurnMode where
  | off | shadow | enforce | enforceTest
deriving DecidableEq

def DurableProviderTurnMode.enforces (mode : DurableProviderTurnMode) : Bool :=
  mode = .enforce || mode = .enforceTest

/-! ### `DurableProviderTurnRuntime` -/

namespace TurnRuntime

variable {R α : Type}

def coordinator (p : LeaseProg α) : TurnProg R α := within TurnCmd.lease (fun _ r => r) .python p

def computed (x : Except PyError α) : TurnProg R α := Prog.lift (x.mapError .python)

/-- `_raise_durable(ProviderTurnResultIntegrityError(message))`. -/
def raiseIntegrity (message : String) : TurnProg R α :=
  .raise (.python (resultIntegrityError message))

section Runtime

variable (host : Host) (codec : ResultCodec R)

variable (subject : ProviderRequestSubject)

/-- `_operation`. -/
def operation (phase : String) (detail : Value) : Except PyError OperationRef :=
  let payload := Value.dict [("schema", .str "unchain.durable_provider_turn_operation.v1"),
    ("phase", .str phase), ("subject", subject.toDict), ("detail", detail)]
  let shortDigest := String.ofList ((host.digest subject.toDict).toList.take 32)
  OperationRef.make host (.str ("provider-turn-" ++ phase ++ "-" ++ shortDigest))
    (.str (host.digest payload))

/-- `_result_binding`. -/
def resultBinding (receipt : ProviderTurnResultReceipt) :
    Except PyError ProviderTurnResultBinding :=
  ProviderTurnResultBinding.make host (.str receipt.envelope.routeSha256)
    (.str receipt.envelope.resultSha256) receipt.artifact receipt.cursor

def subjectOf (envelope : ProviderWireEnvelope) (route : ProviderRoute) (ordinal : Nat) :
    Except PyError ProviderRequestSubject :=
  ProviderRequestSubject.make host envelope.attempt (.int envelope.iteration)
    (.str envelope.envelopeSha256) (.str route.text) (.int ordinal)

/-- `_lookup_result`, with `recover_provider_turn_result`. -/
def lookupResult (routeSha256 : String) : TurnProg R (Option ProviderTurnResultReceipt) :=
  .call (.lookupReceipts subject) fun events =>
    match events with
    | [] => return none
    | [_] => .call (.lookupReceipts subject) fun found =>
      match found with
      | [receipt] =>
        if receipt.envelope.routeSha256 ≠ routeSha256 then
          raiseIntegrity "provider result route digest changed"
        else return some receipt
      | _ => raiseIntegrity "provider result lookup is missing, conflicting, or overflowed"
    | _ => raiseIntegrity "provider result receipt evidence is conflicting"

/-- What `_inspect_subject` checks of a lease and a receipt it found. -/
def checkInspected (lease : ProviderRequestLease) (receipt : Option ProviderTurnResultReceipt)
    (routeSha256 : String) : Except PyError Unit := do
  Effect.raiseIf (lease.routeSha256 ≠ routeSha256)
    (resultIntegrityError "provider request route digest changed")
  Effect.raiseIf (receipt.isSome && lease.status = .failed)
    (resultIntegrityError "failed provider request also has a durable result")
  Effect.raiseIf (receipt.isNone && lease.status = .completed)
    (resultIntegrityError "completed provider request lost its durable result")

/-- `_inspect_subject`. -/
def inspectSubject (routeSha256 : String) :
    TurnProg R (Option ProviderRequestLease × Option ProviderTurnResultReceipt) := do
  let recovery ← coordinator (Coordinator.recover subject)
  let receipt ← lookupResult subject routeSha256
  match recovery.lease with
  | none =>
    if receipt.isSome then
      raiseIntegrity "provider result exists without a request lease"
    else return (none, none)
  | some lease =>
    computed (checkInspected lease receipt routeSha256)
    return (some lease, receipt)

/-- Whether an exception is a `ProviderRequestLeaseConflict`. -/
def isLeaseConflict : TurnError → Bool
  | .python (.raised cls _) => cls = "ProviderRequestLeaseConflict"
  | _ => false

def claimSubject (route : ProviderWireRoute) (previous fallbackParent : Option ProviderRequestLease)
    (operation : OperationRef) : TurnProg R ProviderRequestLease :=
  if subject.retryOrdinal > 0 then
    match previous with
    | none => raiseIntegrity "provider retry lost its predecessor lease"
    | some previous => coordinator (Coordinator.claimRetry host previous operation)
  else if subject.route = .openaiPreviousResponseFallback then
    match fallbackParent with
    | none => raiseIntegrity "provider fallback lost its primary lease"
    | some fallbackParent =>
      coordinator (Coordinator.claimOpenaiFallback host fallbackParent (.str route.routeSha256)
        operation)
  else
    coordinator (Coordinator.claimInitial host subject.attempt (.int subject.iteration)
      (.str subject.envelopeSha256) (.str subject.route.text) (.str route.routeSha256) operation)

/-- What `_claim` does after a conflict. -/
def claimConflicted (route : ProviderWireRoute) : TurnProg R (ProviderRequestLease × Bool) := do
  let (lease, _) ← inspectSubject subject route.routeSha256
  match lease with
  | none => raiseIntegrity "provider request claim conflicted without a durable winner"
  | some lease => return (lease, false)

/-- `_claim`: the lease, and whether it was claimed now. -/
def claim (subject : ProviderRequestSubject) (route : ProviderWireRoute)
    (previous fallbackParent : Option ProviderRequestLease) :
    TurnProg R (ProviderRequestLease × Bool) := do
  let operation ← computed (operation host subject "claim"
    (.dict [("route_sha256", .str route.routeSha256)]))
  let claimed : TurnProg R (ProviderRequestLease × Bool) := do
    let lease ← claimSubject host subject route previous fallbackParent operation
    return (lease, true)
  claimed.tryCatch fun e =>
    if isLeaseConflict e then claimConflicted subject route else .raise e

/-- `_record_failure`. -/
def recordFailure (lease : ProviderRequestLease) (classification : FailureClassification)
    (retryable : Bool) (diagnostic : Option ProviderFailureDiagnostic) :
    TurnProg R ProviderRequestLease := do
  let operation ← computed (operation host lease.subject "failure"
    (.dict ([("classification", .str classification.text), ("retryable", .bool retryable),
      ("visible_output", .bool false)]
      ++ (diagnostic.map fun d => ("failure_diagnostic", d.toDict)).toList)))
  coordinator (Coordinator.recordFailure host lease (.str classification.text) (.bool retryable)
    (.bool false) operation diagnostic)

/-- `raise self._uncertain_error(lease, diagnostic)`: a diagnostic that cannot be recorded is only
logged. -/
def raiseUncertain (lease : ProviderRequestLease) (diagnostic : ProviderUncertaintyDiagnostic) :
    TurnProg R α := do
  let record : TurnProg R ProviderRequestLease := do
    let operation ← computed (operation host lease.subject "uncertainty"
      (.dict [("uncertainty_diagnostic", diagnostic.toDict)]))
    coordinator (Coordinator.recordUncertainty host lease diagnostic operation)
  let _ ← record.attempt
  .raise (.uncertain diagnostic)

/-- `_complete`. -/
def complete (lease : ProviderRequestLease) (receipt : ProviderTurnResultReceipt) :
    TurnProg R ProviderRequestLease := do
  let binding ← computed (resultBinding host receipt)
  let operation ← computed (operation host lease.subject "completion"
    (.dict [("result_sha256", .str binding.resultSha256), ("artifact", binding.artifact.toDict),
      ("cursor", binding.cursor.toDict)]))
  coordinator (Coordinator.recordCompletedResult host lease binding
    (.bool receipt.envelope.visibleOutput) operation)

def completedLease (lease : ProviderRequestLease) (receipt : ProviderTurnResultReceipt) :
    TurnProg R ProviderRequestLease :=
  if lease.status = .started then complete host lease receipt else return lease

/-- `_recover_or_complete`. -/
def recoverOrComplete (lease : ProviderRequestLease) (receipt : ProviderTurnResultReceipt) :
    TurnProg R (DurableProviderTurnOutcome R) := do
  let binding ← computed (resultBinding host receipt)
  let lease ← completedLease host lease receipt
  Prog.raiseIf (lease.status ≠ .completed || lease.resultBinding ≠ some binding
      || lease.visibleOutput ≠ receipt.envelope.visibleOutput)
    (.python (resultIntegrityError "completed request lease changed its provider result binding"))
  return ⟨codec.restore receipt.envelope.result, true⟩

/-- `ProviderTurnResultEnvelope.from_model_turn_result`. -/
def envelopeOf (lease : ProviderRequestLease) (result : R) :
    Except PyError ProviderTurnResultEnvelope := do
  let payload ← codec.payload result
  return ⟨lease.subject, lease.routeSha256, true, payload, host.digest payload⟩

/-- `_persist_result`. -/
def persistResult (lease : ProviderRequestLease) (result : R) :
    TurnProg R (DurableProviderTurnOutcome R) :=
  match envelopeOf host codec lease result with
  | .error _ => raiseUncertain host lease ⟨"invalid_result", "result_processing", none, ""⟩
  | .ok envelope => do
    let _ ← computed (operation host lease.subject "result-artifact"
      (.dict [("result_sha256", .str envelope.resultSha256)]))
    let _ ← computed (operation host lease.subject "result-event"
      (.dict [("result_sha256", .str envelope.resultSha256),
        ("route_sha256", .str envelope.routeSha256)]))
    let receipt : ProviderTurnResultReceipt ← .call (.persistResult lease envelope) computed
    let _ ← complete host lease receipt
    return ⟨result, false⟩

variable (envelope : ProviderWireEnvelope) (route : ProviderWireRoute) (config : RetryConfig)

/-- `_route`. -/
def routeNamed (name : ProviderRoute) : Except PyError ProviderWireRoute :=
  match envelope.routes.find? fun route => route.name = name with
  | some route => .ok route
  | none => .error (turnError ("provider wire route " ++ name.text ++ " is unavailable"))

/-- How often a failure with this diagnostic may be retried: a busy Gemini model only twice. -/
def retryLimit (diagnostic : Option ProviderFailureDiagnostic) : Int :=
  if envelope.provider = .gemini && (diagnostic.bind (·.httpStatus)) = some 503 then
    min config.maxRetries 2
  else config.maxRetries

/-- How one pass of the loop over a route ends, when it does not raise. -/
inductive Pass (R : Type) where
  | done (outcome : DurableProviderTurnOutcome R)
  | fallBack (primary : ProviderRequestLease)
  | retry (previous : ProviderRequestLease)

/-- `_delay`. -/
def delay (ordinal : Nat) : TurnProg R Unit := .call (.delay ordinal) computed

/-- The wait before a retry that a recovered failure leads to, unless the retry was made. -/
def delayRecovered (lease : ProviderRequestLease) (ordinal : Nat) : TurnProg R Unit :=
  if ordinal ≤ config.maxRetries then do
    let nextSubject ← computed (subjectOf host envelope route.name ordinal)
    let (nextLease, _) ← inspectSubject nextSubject route.routeSha256
    match nextLease with
    | some _ => return ()
    | none =>
      if ordinal > retryLimit envelope config lease.failureDiagnostic then
        .raise (.terminal (some .transient) lease.failureDiagnostic)
      else delay ordinal
  else return ()

variable (ordinal : Nat) (lease : ProviderRequestLease)

/-- A lease that was found `FAILED`. -/
def passFailed : TurnProg R (Pass R) :=
  if lease.classification = some .previousResponseFallback then do
    let _ ← computed (routeNamed envelope .openaiPreviousResponseFallback)
    return .fallBack lease
  else if lease.classification = some .transient && lease.retryable && !lease.visibleOutput then do
    delayRecovered host envelope route config lease (ordinal + 1)
    return .retry lease
  else .raise (.terminal lease.classification lease.failureDiagnostic)

/-- A failure that the transport classified. -/
def passFailure (kind : ExactProviderRouteFailureKind) (original : ProviderException) :
    TurnProg R (Pass R) :=
  if original.durable then .raise (.provider original)
  else match kind with
    | .transientRetrySafe => do
      let diagnostic := original.failureDiagnostic
      let limit := retryLimit envelope config diagnostic
      let failed ← recordFailure host lease .transient (ordinal < limit) diagnostic
      if ordinal < limit then do
        delay (ordinal + 1)
        return .retry failed
      else if envelope.provider = .gemini && (diagnostic.bind (·.httpStatus)) = some 503 then
        .raise (.terminal (some .transient) diagnostic)
      else .raise (.retriesExhausted original limit)
    | .previousResponseFallback => do
      let failed ← recordFailure host lease .previousResponseFallback true none
      return .fallBack failed
    | .terminal => do
      let _ ← recordFailure host lease .nonRetryable false original.failureDiagnostic
      .raise (.terminal (some .nonRetryable) original.failureDiagnostic)

def passSend : TurnProg R (Pass R) :=
  .call (.send envelope.provider route ordinal) fun outcome =>
    match outcome with
    | .failure kind original => passFailure host envelope config ordinal lease kind original
    | .raised error =>
      if error.durable then .raise (.provider error)
      else raiseUncertain host lease error.uncertaintyDiagnostic
    | .notResult => raiseUncertain host lease ⟨"invalid_result", "result_processing", none, ""⟩
    | .result result => do
      let outcome ← persistResult host codec lease result
      return .done outcome

def passLease (receipt : Option ProviderTurnResultReceipt) (claimedNow : Bool) :
    TurnProg R (Pass R) :=
  match receipt with
  | some receipt => do
    let outcome ← recoverOrComplete host codec lease receipt
    return .done outcome
  | none =>
    match lease.status with
    | .completed => raiseIntegrity "completed provider request has no recovered result"
    | .started =>
      if claimedNow then passSend host codec envelope route config ordinal lease
      else .raise (.uncertain (lease.uncertaintyDiagnostic.getD
        ⟨"unrecorded_outcome", "recovery", none, ""⟩))
    | .failed => passFailed host envelope route config ordinal lease

def passClaim (fallbackParent previous : Option ProviderRequestLease)
    (subject : ProviderRequestSubject) (ordinal : Nat) : TurnProg R (Pass R) := do
  let previousDiagnostic := previous.bind (·.failureDiagnostic)
  Prog.raiseIf (ordinal > retryLimit envelope config previousDiagnostic)
    (.terminal (some .transient) previousDiagnostic)
  let (lease, claimedNow) ← claim host subject route previous fallbackParent
  if claimedNow then passLease host codec envelope route config ordinal lease none true
  else do
    let (found, receipt) ← inspectSubject subject route.routeSha256
    match found with
    | none => raiseIntegrity "provider request claim did not create a lease"
    | some found => passLease host codec envelope route config ordinal found receipt false

/-- One pass of the loop of `_execute_route`. -/
def pass (fallbackParent previous : Option ProviderRequestLease) (ordinal : Nat) :
    TurnProg R (Pass R) := do
  let subject ← computed (subjectOf host envelope route.name ordinal)
  let (lease, receipt) ← inspectSubject subject route.routeSha256
  match lease with
  | none => passClaim host codec envelope route config fallbackParent previous subject ordinal
  | some lease => passLease host codec envelope route config ordinal lease receipt false

/-- The loop of `_execute_route`, with what the route's fallback leads to. It is counted down from
the number of ordinals: the first ordinal past the last one is refused by the subject. -/
def routeLoop (envelope : ProviderWireEnvelope) (route : ProviderWireRoute) (config : RetryConfig)
    (fallbackParent : Option ProviderRequestLease)
    (fallBack : ProviderRequestLease → TurnProg R (DurableProviderTurnOutcome R)) :
    (left : Nat) → (previous : Option ProviderRequestLease) →
      TurnProg R (DurableProviderTurnOutcome R)
  | 0, _ => do
    let _ ← computed (subjectOf host envelope route.name (maxProviderRequestRetryOrdinal + 1))
    .raise (.python (modelValidationError "retry_ordinal"))
  | left + 1, previous => do
    let ended ← pass host codec envelope route config fallbackParent previous
      (maxProviderRequestRetryOrdinal - left)
    match ended with
    | .done outcome => return outcome
    | .fallBack primary => fallBack primary
    | .retry previous => routeLoop envelope route config fallbackParent fallBack left previous

def isFallbackParent (lease : ProviderRequestLease) : Bool :=
  lease.subject.route = .primary && lease.subject.retryOrdinal = 0 && lease.status = .failed
    && lease.classification = some .previousResponseFallback

/-- `_execute_route` of the fallback route. A fallback of the fallback route would be refused: its
parent is not of the primary route. -/
def executeFallback (fallbackParent : ProviderRequestLease) :
    TurnProg R (DurableProviderTurnOutcome R) := do
  let route ← computed (routeNamed envelope .openaiPreviousResponseFallback)
  let refused := resultIntegrityError "provider fallback requires the failed primary ordinal zero"
  Prog.raiseIf (!isFallbackParent fallbackParent) (.python refused)
  routeLoop host codec envelope route config (some fallbackParent)
    (fun _ => .raise (.python refused)) (maxProviderRequestRetryOrdinal + 1) none

/-- `_execute_route` of the primary route. -/
def executePrimary : TurnProg R (DurableProviderTurnOutcome R) := do
  let route ← computed (routeNamed envelope .primary)
  routeLoop host codec envelope route config none (executeFallback host codec envelope config)
    (maxProviderRequestRetryOrdinal + 1) none

/-- `_validate_retry_config`. -/
def validateRetryConfig (config : RetryConfig) : Except PyError Unit := do
  Effect.raiseIf (config.maxRetries < 0)
    (.valueError "max_retries must be a non-negative integer")
  Effect.raiseIf (config.baseDelayMs < 0)
    (.valueError "base_delay_ms must be a non-negative integer")
  Effect.raiseIf (config.maxDelayMs < 0)
    (.valueError "max_delay_ms must be a non-negative integer")

/-- A closed mode sends nothing, and refuses an envelope that was sent. -/
def executeClosed : TurnProg R (Option (DurableProviderTurnOutcome R)) := do
  let route ← computed (routeNamed envelope .primary)
  let subject ← computed (subjectOf host envelope route.name 0)
  let (lease, receipt) ← inspectSubject subject route.routeSha256
  Prog.raiseIf (lease.isSome || receipt.isSome)
    (.python (turnError "closed provider turn mode conflicts with durable evidence"))
  return none

/-- `execute`: the outcome of a completed turn, or nothing where the mode is closed. -/
def execute (executionId : String) (mode : DurableProviderTurnMode)
    (envelope : ProviderWireEnvelope) (config : RetryConfig) :
    TurnProg R (Option (DurableProviderTurnOutcome R)) := do
  computed (validateRetryConfig config)
  Prog.raiseIf (executionId ≠ envelope.attempt.generation.executionId)
    (.python (turnError "provider turn store crossed its execution scope"))
  if mode.enforces then do
    let outcome ← executePrimary host codec envelope config
    return some outcome
  else executeClosed host envelope

end Runtime

end TurnRuntime

/-- `provider_physical_ordinal`. -/
def physicalOrdinal (route : ProviderRoute) (retryOrdinal : Nat) : Nat :=
  match route with
  | .primary => retryOrdinal
  | .openaiPreviousResponseFallback => retryOrdinal + 1

/-! ### The durable store -/

/-- A send that was made, and how it ended. -/
structure Sent (R : Type) where
  route : ProviderRoute
  retryOrdinal : Nat
  outcome : SendOutcome R

/-- The stored leases and result receipts, and the sends of the envelope that reached its
provider. -/
structure TurnWorld (R : Type) where
  leases : LeaseWorld
  receipts : List ProviderTurnResultReceipt
  sends : List (Sent R)

/-- What is not the runtime's to decide about one answer. -/
structure Happening (R : Type) where
  fetched : Fetched R
  artifact : ArtifactRef
  cursor : EventCursor
  delay : Except PyError Unit

namespace TurnWorld

variable {R : Type}

def receiptsOf (w : TurnWorld R) (subject : ProviderRequestSubject) :
    List ProviderTurnResultReceipt :=
  w.receipts.filter fun receipt => receipt.envelope.subject = subject

instance (w : LeaseWorld) (subject : ProviderRequestSubject) (expectedRevision : Nat)
    (replacement : ProviderRequestLease) :
    Decidable (w.Swaps subject expectedRevision replacement) :=
  decidable_of_iff (replacement.subject = subject ∧ w.currentRevision subject = expectedRevision ∧
      replacement.revision = expectedRevision + 1)
    ⟨fun h => ⟨h.1, h.2.1, h.2.2⟩, fun h => ⟨h.subject_eq, h.expected, h.next⟩⟩

def answerLease (w : TurnWorld R) : (c : LeaseCmd) → LeasePort.Answer c × TurnWorld R
  | .load subject => (.ok (w.leases.current subject), w)
  | .compareAndSwap subject expectedRevision replacement =>
    if w.leases.Swaps subject expectedRevision replacement then
      (.ok replacement, { w with leases := w.leases.store replacement })
    else (.error (leaseConflict "provider request lease revision conflicted"), w)
  | .send _ => ((), w)

/-- `_persist_provider_turn_result_cas`: one result for a subject, while its lease stands
`STARTED`. -/
def persist (w : TurnWorld R) (startedLease : ProviderRequestLease)
    (envelope : ProviderTurnResultEnvelope) (artifact : ArtifactRef) (cursor : EventCursor) :
    Except PyError ProviderTurnResultReceipt × TurnWorld R :=
  if w.leases.current startedLease.subject ≠ some startedLease
      || startedLease.status ≠ .started then
    (.error (resultIntegrityError
      "provider result lease is no longer the exact STARTED revision"), w)
  else match w.receiptsOf startedLease.subject with
    | [] =>
      let receipt : ProviderTurnResultReceipt := ⟨envelope, artifact, cursor⟩
      (.ok receipt, { w with receipts := w.receipts ++ [receipt] })
    | receipt :: _ =>
      if receipt.envelope = envelope then (.ok receipt, w)
      else (.error (resultIntegrityError "provider result idempotent replay changed"), w)

/-- One command, served atomically. -/
def serve (happening : Happening R) (w : TurnWorld R) :
    (c : TurnCmd) → (TurnPort R).Answer c × TurnWorld R
  | .lease c => w.answerLease c
  | .lookupReceipts subject => (w.receiptsOf subject, w)
  | .persistResult startedLease envelope =>
    w.persist startedLease envelope happening.artifact happening.cursor
  | .send provider route retryOrdinal =>
    let outcome := exactSend provider route happening.fetched
    (outcome, { w with sends := w.sends ++ [⟨route.name, retryOrdinal, outcome⟩] })
  | .delay _ => (happening.delay, w)

end TurnWorld

/-- What the store returns of a result it wrote: an unpreviewed JSON artifact and a cursor, as
their constructors leave them. -/
structure StoredResult (host : Host) (artifact : ArtifactRef) (cursor : EventCursor) : Prop where
  artifactAgain : ArtifactRef.fromDict host artifact.toDict = .ok artifact
  kind : artifact.ref.kind = "artifact"
  fragment : artifact.ref.fragment = ""
  mediaType : artifact.mediaType = "application/json"
  preview : artifact.preview = ""
  cursorAgain : EventCursor.fromDict host cursor.toDict = .ok cursor

/-- What can happen: a wait fails only when its length cannot be computed. -/
structure Happening.Possible {R : Type} (host : Host) (h : Happening R) : Prop where
  stored : StoredResult host h.artifact h.cursor
  delay : ∀ e, h.delay = .error e → (∃ m, e = .overflowError m) ∨ ∃ m, e = .valueError m

/-- The surroundings of a turn, without failures of their own. -/
def turnService (R : Type) (host : Host) : Service (TurnPort R) (TurnWorld R) :=
  fun w c r w' => ∃ happening : Happening R, happening.Possible host ∧
    w.serve happening c = (r, w')

/-- The calls of `execute` for one envelope, one after the other. Each is run to its end or is cut
off between two of its commands. -/
inductive TurnRun {R : Type} (host : Host) (codec : ResultCodec R)
    (envelope : ProviderWireEnvelope) : List RetryConfig → TurnWorld R → Prop where
  | fresh {w : TurnWorld R} (sends : w.sends = [])
      (unclaimed : ∀ route n, w.leases.current ⟨envelope.attempt, envelope.iteration,
        envelope.envelopeSha256, route, n⟩ = none)
      (unstored : ∀ route n, w.receiptsOf ⟨envelope.attempt, envelope.iteration,
        envelope.envelopeSha256, route, n⟩ = []) : TurnRun host codec envelope [] w
  | execute {configs : List RetryConfig} {w w' : TurnWorld R} {executionId : String}
      {mode : DurableProviderTurnMode} {config : RetryConfig}
      {q : TurnProg R (Option (DurableProviderTurnOutcome R))}
      (before : TurnRun host codec envelope configs w)
      (run : Runs (turnService R host) w
        (TurnRuntime.execute host codec executionId mode envelope config) w' q) :
      TurnRun host codec envelope (configs ++ [config]) w'

end Unchain.Providers
