import Unchain.Journal.Models
import Unchain.Lib.Crew
import Unchain.Lib.KeyedLog
import Mathlib.Algebra.Ring.Nat

/-!
Provider request leases: the records (`providers/request_lease.py`), the coordinator over a
compare-and-swap port, and the world of a durable port that any number of coordinators share.

A claim that returns its lease tells the caller to send; that is the command `send` at the end of
a claiming call.
-/

namespace Unchain.Providers

open Lib Lib.Process Journal Python

def maxProviderRequestIteration : Nat := 2 ^ 31 - 1

def maxProviderRequestRetryOrdinal : Nat := 2 ^ 31 - 1

/-- `ProviderRequestLeaseConflict`. -/
def leaseConflict (message : String) : PyError := .raised "ProviderRequestLeaseConflict" message

/-- `ProviderRequestLeaseIntegrityError`. -/
def leaseIntegrityError (message : String) : PyError :=
  .raised "ProviderRequestLeaseIntegrityError" message

/-- `ProviderRequestTransitionError`. -/
def transitionError (message : String) : PyError :=
  .raised "ProviderRequestTransitionError" message

inductive ProviderRequestStatus where
  | started | failed | completed
deriving DecidableEq

inductive ProviderRequestDisposition where
  | notStarted | uncertain | retryableFailure | terminal
deriving DecidableEq

inductive ProviderRoute where
  | primary | openaiPreviousResponseFallback
deriving DecidableEq

inductive FailureClassification where
  | badRequest | nonRetryable | previousResponseFallback | transient
deriving DecidableEq

def ProviderRequestStatus.value : ProviderRequestStatus → String
  | .started => "started"
  | .failed => "failed"
  | .completed => "completed"

def ProviderRoute.text : ProviderRoute → String
  | .primary => "primary"
  | .openaiPreviousResponseFallback => "openai_previous_response_fallback"

/-- `_ROUTES`. -/
def ProviderRoute.read (s : String) : Option ProviderRoute :=
  [.primary, .openaiPreviousResponseFallback].find? fun route => route.text = s

def FailureClassification.text : FailureClassification → String
  | .badRequest => "bad_request"
  | .nonRetryable => "non_retryable"
  | .previousResponseFallback => "previous_response_fallback"
  | .transient => "transient"

/-- `_FAILURE_CLASSIFICATIONS`. -/
def FailureClassification.read (s : String) : Option FailureClassification :=
  [.badRequest, .nonRetryable, .previousResponseFallback, .transient].find? fun c => c.text = s

/-! ### Field checks -/

/-- `_bounded_int`. -/
def boundedInt (fieldName : String) (maximum : Nat) : Value → Except PyError Nat
  | .int n =>
    if 0 ≤ n ∧ n ≤ maximum then .ok n.toNat
    else .error (modelValidationError
      (fieldName ++ " must be between 0 and " ++ toString maximum))
  | _ => .error (.typeError (fieldName ++ " must be an exact integer"))

/-- `_canonical_text`. -/
def canonicalText (host : Host) (fieldName : String) : Value → Except PyError String
  | .str s =>
    if host.nfc (strip s) ≠ s || s.isEmpty || s.length > 128
        || s.toList.any fun c => c.toNat < 32 then
      .error (modelValidationError (fieldName ++ " must be canonical text"))
    else .ok s
  | _ => .error (.typeError (fieldName ++ " must be exact text"))

/-- `type(value) is bool`, or a `TypeError`. -/
def exactBoolean (fieldName : String) : Value → Except PyError Bool
  | .bool b => .ok b
  | _ => .error (.typeError (fieldName ++ " must be an exact boolean"))

/-! ### Records -/

structure ProviderFailureDiagnostic where
  httpStatus : Option Int
  providerCode : String
  parameter : String
  providerStatus : String
  replacementModel : String
deriving DecidableEq

structure ProviderUncertaintyDiagnostic where
  reason : String
  phase : String
  httpStatus : Option Int
  providerCode : String
deriving DecidableEq

/-- The complete durable uniqueness key for one provider send. -/
structure ProviderRequestSubject where
  attempt : AttemptRef
  iteration : Nat
  envelopeSha256 : String
  route : ProviderRoute
  retryOrdinal : Nat
deriving DecidableEq

/-- Durable result reference required by a completed provider lease. -/
structure ProviderTurnResultBinding where
  routeSha256 : String
  resultSha256 : String
  artifact : ArtifactRef
  cursor : EventCursor
deriving DecidableEq

structure ProviderRequestLease where
  subject : ProviderRequestSubject
  routeSha256 : String
  status : ProviderRequestStatus
  revision : Nat
  visibleOutput : Bool
  retryable : Bool
  classification : Option FailureClassification
  operation : OperationRef
  resultBinding : Option ProviderTurnResultBinding
  predecessorSha256 : Option String
  failureDiagnostic : Option ProviderFailureDiagnostic
  uncertaintyDiagnostic : Option ProviderUncertaintyDiagnostic
deriving DecidableEq

def intOrNone : Option Int → Value
  | none => .none
  | some n => .int n

namespace ProviderFailureDiagnostic

variable (d : ProviderFailureDiagnostic)

/-- Whether the record needs the fields of the extended HTTP schema. -/
def isExtended : Bool :=
  !d.providerStatus.isEmpty || !d.replacementModel.isEmpty

def schema : String :=
  if d.httpStatus.isNone || d.isExtended then "unchain.provider_failure_diagnostic.v2"
  else "unchain.provider_failure_diagnostic.v1"

def toDict : Value :=
  .dict ([("schema", .str d.schema), ("http_status", intOrNone d.httpStatus),
    ("provider_code", .str d.providerCode), ("parameter", .str d.parameter)]
    ++ if d.isExtended then
        [("provider_status", .str d.providerStatus), ("replacement_model", .str d.replacementModel)]
      else [])

end ProviderFailureDiagnostic

def ProviderUncertaintyDiagnostic.toDict (d : ProviderUncertaintyDiagnostic) : Value :=
  .dict [("schema", .str "unchain.provider_uncertainty_diagnostic.v1"), ("reason", .str d.reason),
    ("phase", .str d.phase), ("http_status", intOrNone d.httpStatus),
    ("provider_code", .str d.providerCode)]

namespace ProviderRequestSubject

def make (host : Host) (attempt : AttemptRef) (iteration envelopeSha256 route retryOrdinal : Value) :
    Except PyError ProviderRequestSubject := do
  let attempt ← AttemptRef.fromDict host attempt.toDict
  let iteration ← boundedInt "iteration" maxProviderRequestIteration iteration
  let envelopeSha256 ← sha256Text "envelope_sha256" envelopeSha256
  let text ← canonicalText host "route" route
  match ProviderRoute.read text with
  | none => .error (modelValidationError "route is unsupported")
  | some route =>
    let retryOrdinal ← boundedInt "retry_ordinal" maxProviderRequestRetryOrdinal retryOrdinal
    .ok ⟨attempt, iteration, envelopeSha256, route, retryOrdinal⟩

def toDict (s : ProviderRequestSubject) : Value :=
  .dict [("schema", .str "unchain.provider_request_subject.v1"), ("attempt", s.attempt.toDict),
    ("iteration", .int s.iteration), ("envelope_sha256", .str s.envelopeSha256),
    ("route", .str s.route.text), ("retry_ordinal", .int s.retryOrdinal)]

def fromDict (host : Host) (v : Value) : Except PyError ProviderRequestSubject := do
  let raw ← recordData "unchain.provider_request_subject.v1"
    ["attempt", "iteration", "envelope_sha256", "route", "retry_ordinal"] [] v
  let attempt ← AttemptRef.fromDict host (raw.get "attempt")
  make host attempt (raw.get "iteration") (raw.get "envelope_sha256") (raw.get "route")
    (raw.get "retry_ordinal")

end ProviderRequestSubject

namespace ProviderTurnResultBinding

def make (host : Host) (routeSha256 resultSha256 : Value) (artifact : ArtifactRef)
    (cursor : EventCursor) : Except PyError ProviderTurnResultBinding := do
  let routeSha256 ← sha256Text "route_sha256" routeSha256
  let resultSha256 ← sha256Text "result_sha256" resultSha256
  let artifact ← ArtifactRef.fromDict host artifact.toDict
  if artifact.ref.kind ≠ "artifact" || !artifact.ref.fragment.isEmpty
      || artifact.mediaType ≠ "application/json" || !artifact.preview.isEmpty then
    .error (modelValidationError "provider result binding requires one unpreviewed JSON artifact")
  else
    let cursor ← EventCursor.fromDict host cursor.toDict
    .ok ⟨routeSha256, resultSha256, artifact, cursor⟩

def toDict (b : ProviderTurnResultBinding) : Value :=
  .dict [("schema", .str "unchain.provider_turn_result_binding.v1"),
    ("route_sha256", .str b.routeSha256), ("result_sha256", .str b.resultSha256),
    ("artifact", b.artifact.toDict), ("cursor", b.cursor.toDict)]

def fromDict (host : Host) (v : Value) : Except PyError ProviderTurnResultBinding := do
  let raw ← recordData "unchain.provider_turn_result_binding.v1"
    ["route_sha256", "result_sha256", "artifact", "cursor"] [] v
  let artifact ← ArtifactRef.fromDict host (raw.get "artifact")
  let cursor ← EventCursor.fromDict host (raw.get "cursor")
  make host (raw.get "route_sha256") (raw.get "result_sha256") artifact cursor

end ProviderTurnResultBinding

namespace ProviderRequestLease

/-- The schema names the diagnostic that the record carries. -/
def schema (lease : ProviderRequestLease) : String :=
  if lease.uncertaintyDiagnostic.isSome then "unchain.provider_request_lease.v4"
  else match lease.failureDiagnostic with
    | none => "unchain.provider_request_lease.v2"
    | some d =>
      if d.httpStatus.isSome && d.schema = "unchain.provider_failure_diagnostic.v2" then
        "unchain.provider_request_lease.v4"
      else "unchain.provider_request_lease.v3"

def toDict (lease : ProviderRequestLease) : Value :=
  .dict ([("schema", .str lease.schema), ("subject", lease.subject.toDict),
    ("route_sha256", .str lease.routeSha256), ("status", .str lease.status.value),
    ("revision", .int lease.revision), ("visible_output", .bool lease.visibleOutput),
    ("retryable", .bool lease.retryable),
    ("classification", .str ((lease.classification.map FailureClassification.text).getD "")),
    ("operation", lease.operation.toDict),
    ("result_binding", (lease.resultBinding.map ProviderTurnResultBinding.toDict).getD .none),
    ("predecessor_sha256", (lease.predecessorSha256.map Value.str).getD .none)]
    ++ (lease.failureDiagnostic.map fun d => ("failure_diagnostic", d.toDict)).toList
    ++ (lease.uncertaintyDiagnostic.map fun d => ("uncertainty_diagnostic", d.toDict)).toList)

/-- `lease_sha256`. -/
def leaseSha256 (host : Host) (lease : ProviderRequestLease) : String := host.digest lease.toDict

def readClassification (host : Host) (v : Value) :
    Except PyError (Option FailureClassification) :=
  if v.truthy then do
    let text ← canonicalText host "classification" v
    match FailureClassification.read text with
    | none => .error (modelValidationError "classification is unsupported")
    | some c => .ok (some c)
  else match v with
    | .str _ => .ok none
    | _ => .error (.typeError "classification must be exact text")

def checkStatus (lease : ProviderRequestLease) : Except PyError Unit :=
  match lease.status with
  | .started =>
    if lease.resultBinding.isSome then
      .error (modelValidationError "started request lease cannot contain a result binding")
    else if lease.visibleOutput || lease.retryable || lease.classification.isSome then
      .error (modelValidationError "started request lease cannot contain terminal fields")
    else if lease.predecessorSha256.isSome then
      .error (modelValidationError "started request lease cannot contain a predecessor digest")
    else .ok ()
  | .failed =>
    if lease.resultBinding.isSome then
      .error (modelValidationError "failed request lease cannot contain a result binding")
    else if lease.predecessorSha256.isSome then
      .error (modelValidationError "failed request lease cannot contain a predecessor digest")
    else if lease.classification.isNone then
      .error (modelValidationError "failed request lease requires a classification")
    else if lease.classification = some .previousResponseFallback && !lease.retryable then
      .error (modelValidationError "previous_response_fallback must be retryable")
    else .ok ()
  | .completed =>
    if lease.retryable || lease.classification.isSome then
      .error (modelValidationError "completed request lease cannot contain failure fields")
    else match lease.resultBinding with
      | none =>
        .error (modelValidationError
          "completed request lease requires a durable result binding")
      | some binding =>
        if binding.routeSha256 ≠ lease.routeSha256 then
          .error (modelValidationError "completed request result binding route changed")
        else if lease.predecessorSha256.isNone then
          .error (modelValidationError
            "completed request lease requires a predecessor digest")
        else .ok ()

def make (host : Host) (subject : ProviderRequestSubject) (routeSha256 : Value)
    (status : ProviderRequestStatus) (revision : Nat)
    (visibleOutput retryable classification : Value) (operation : OperationRef)
    (resultBinding : Option ProviderTurnResultBinding) (predecessorSha256 : Option String)
    (failureDiagnostic : Option ProviderFailureDiagnostic)
    (uncertaintyDiagnostic : Option ProviderUncertaintyDiagnostic) :
    Except PyError ProviderRequestLease := do
  let subject ← ProviderRequestSubject.fromDict host subject.toDict
  let routeSha256 ← sha256Text "route_sha256" routeSha256
  Effect.raiseIf (failureDiagnostic.isSome && status ≠ .failed)
    (modelValidationError "only failed leases can contain failure diagnostics")
  Effect.raiseIf (uncertaintyDiagnostic.isSome && status ≠ .started)
    (modelValidationError "only started leases can contain uncertainty diagnostics")
  Effect.raiseIf (revision < 1) (modelValidationError "revision must be positive")
  let visibleOutput ← exactBoolean "visible_output" visibleOutput
  let retryable ← exactBoolean "retryable" retryable
  let classification ← readClassification host classification
  let operation ← OperationRef.fromDict host operation.toDict
  let resultBinding ← resultBinding.mapM fun b =>
    ProviderTurnResultBinding.fromDict host b.toDict
  let predecessorSha256 ← predecessorSha256.mapM fun s => sha256Text "predecessor_sha256" (.str s)
  let lease : ProviderRequestLease :=
    ⟨subject, routeSha256, status, revision, visibleOutput, retryable, classification, operation,
      resultBinding, predecessorSha256, failureDiagnostic, uncertaintyDiagnostic⟩
  lease.checkStatus
  return lease

end ProviderRequestLease

/-! ### The port -/

/-- What a coordinator asks of its port (`ProviderRequestLeasePort`), and the send its caller
makes when it is told to. -/
inductive LeaseCmd where
  | load (subject : ProviderRequestSubject)
  | compareAndSwap (subject : ProviderRequestSubject) (expectedRevision : Nat)
      (replacement : ProviderRequestLease)
  | send (subject : ProviderRequestSubject)

abbrev LeasePort : Interface where
  Cmd := LeaseCmd
  Answer
    | .load _ => Except PyError (Option ProviderRequestLease)
    | .compareAndSwap _ _ _ => Except PyError ProviderRequestLease
    | .send _ => Unit

abbrev LeaseProg (α : Type) : Type := Prog LeasePort PyError α

structure ProviderRequestRecovery where
  subject : ProviderRequestSubject
  disposition : ProviderRequestDisposition
  lease : Option ProviderRequestLease

def ProviderRequestRecovery.autoResendAllowed (r : ProviderRequestRecovery) : Bool :=
  r.disposition = .notStarted

/-! ### `ProviderRequestLeaseCoordinator` -/

namespace Coordinator

/-- `self._port.load(subject=subject)`. -/
def portLoad (subject : ProviderRequestSubject) : LeaseProg (Option ProviderRequestLease) :=
  .call (.load subject) Prog.lift

/-- `self._port.compare_and_swap(...)`. -/
def portCompareAndSwap (expectedRevision : Nat) (replacement : ProviderRequestLease) :
    LeaseProg ProviderRequestLease :=
  .call (.compareAndSwap replacement.subject expectedRevision replacement) Prog.lift

/-- `_load`. -/
def load (subject : ProviderRequestSubject) : LeaseProg (Option ProviderRequestLease) := do
  let record ← portLoad subject
  Prog.raiseIf (record.any fun r => r.subject ≠ subject)
    (leaseIntegrityError "durable request lease subject changed")
  return record

/-- `_current`: the current lease, as long as it is the expected one. -/
def current (expected : ProviderRequestLease) : LeaseProg ProviderRequestLease := do
  let found ← load expected.subject
  Prog.raiseIf (found ≠ some expected)
    (leaseIntegrityError "current durable request lease changed")
  return expected

/-- `_cas`. -/
def cas (expectedRevision : Nat) (replacement : ProviderRequestLease) :
    LeaseProg ProviderRequestLease := do
  let stored ← portCompareAndSwap expectedRevision replacement
  Prog.raiseIf (stored ≠ replacement)
    (leaseIntegrityError "request lease CAS returned changed status, revision, or subject")
  return stored

variable (host : Host)

/-- `_claim`. -/
def claim (subject : ProviderRequestSubject) (routeSha256 : Value) (operation : OperationRef) :
    LeaseProg ProviderRequestLease := do
  let found ← load subject
  Prog.raiseIf found.isSome (leaseConflict "provider request subject is already claimed")
  let replacement ← Prog.lift (ProviderRequestLease.make host subject routeSha256 .started 1
    (.bool false) (.bool false) (.str "") operation none none none none)
  cas 0 replacement

/-- `claim_initial`. -/
def claimInitial (attempt : AttemptRef) (iteration envelopeSha256 route routeSha256 : Value)
    (operation : OperationRef) : LeaseProg ProviderRequestLease := do
  Prog.raiseIf (!route.eqPy (.str "primary"))
    (transitionError "initial provider request must use the primary route")
  let subject ← Prog.lift
    (ProviderRequestSubject.make host attempt iteration envelopeSha256 route (.int 0))
  claim host subject routeSha256 operation

/-- `record_failure`. -/
def recordFailure (lease : ProviderRequestLease) (classification retryable visibleOutput : Value)
    (operation : OperationRef) (failureDiagnostic : Option ProviderFailureDiagnostic) :
    LeaseProg ProviderRequestLease := do
  let current ← current lease
  Prog.raiseIf (current.status ≠ .started)
    (transitionError "only a started request can record a terminal failure")
  Prog.raiseIf (classification.eqPy (.str "previous_response_fallback")
      && (current.subject.route ≠ .primary || current.subject.retryOrdinal ≠ 0))
    (transitionError "previous_response_fallback requires primary ordinal zero")
  let replacement ← Prog.lift (ProviderRequestLease.make host current.subject
    (.str current.routeSha256) .failed (current.revision + 1) visibleOutput retryable classification
    operation none none failureDiagnostic none)
  cas current.revision replacement

/-- `record_uncertainty`. -/
def recordUncertainty (lease : ProviderRequestLease) (diagnostic : ProviderUncertaintyDiagnostic)
    (operation : OperationRef) : LeaseProg ProviderRequestLease := do
  let current ← current lease
  Prog.raiseIf (current.status ≠ .started)
    (transitionError "only a started request can record uncertainty")
  Prog.raiseIf current.uncertaintyDiagnostic.isSome
    (transitionError "uncertainty is already recorded")
  let replacement ← Prog.lift (ProviderRequestLease.make host current.subject
    (.str current.routeSha256) .started (current.revision + 1) (.bool false) (.bool false)
    (.str "") operation none none none (some diagnostic))
  cas current.revision replacement

/-- `record_completed`. -/
def recordCompleted (_lease : ProviderRequestLease) (_visibleOutput : Value)
    (_operation : OperationRef) : LeaseProg ProviderRequestLease :=
  .raise (transitionError "completed provider request requires a durable result binding")

/-- The end of `record_completed_result`: a record that is already there is returned as it is. -/
def storeCompleted (lease replacement found : ProviderRequestLease) :
    LeaseProg ProviderRequestLease :=
  if found = replacement then return found
  else do
    Prog.raiseIf (found ≠ lease)
      (leaseIntegrityError "current completed durable request lease changed")
    Prog.raiseIf (found.status ≠ .started)
      (transitionError "only a started request can record completed status")
    cas found.revision replacement

/-- `record_completed_result`. -/
def recordCompletedResult (lease : ProviderRequestLease)
    (resultBinding : ProviderTurnResultBinding) (visibleOutput : Value) (operation : OperationRef) :
    LeaseProg ProviderRequestLease := do
  Prog.raiseIf (resultBinding.routeSha256 ≠ lease.routeSha256)
    (leaseIntegrityError "provider result binding route changed")
  let found ← load lease.subject
  match found with
  | none => .raise (leaseIntegrityError "current durable request lease is missing")
  | some found => do
    let replacement ← Prog.lift (ProviderRequestLease.make host lease.subject
      (.str lease.routeSha256) .completed (lease.revision + 1) visibleOutput (.bool false)
      (.str "") operation (some resultBinding) (some (lease.leaseSha256 host)) none none)
    storeCompleted lease replacement found

/-- Why a lease cannot be retried (`claim_retry`). -/
def checkRetry (current : ProviderRequestLease) : Except PyError Unit := do
  Effect.raiseIf (current.status = .completed)
    (transitionError "completed provider request cannot retry")
  Effect.raiseIf (current.status ≠ .failed)
    (transitionError "retry requires a durable terminal failure")
  Effect.raiseIf current.visibleOutput
    (transitionError "request with visible output cannot retry")
  Effect.raiseIf (!current.retryable)
    (transitionError "retry requires a durable retryable failure")
  Effect.raiseIf (current.classification ≠ some .transient)
    (transitionError "only transient failure may retry; route transition is separate")
  Effect.raiseIf (current.subject.retryOrdinal ≥ maxProviderRequestRetryOrdinal)
    (transitionError "retry ordinal is exhausted")

/-- `claim_retry`. -/
def claimRetry (previous : ProviderRequestLease) (operation : OperationRef) :
    LeaseProg ProviderRequestLease := do
  let current ← current previous
  Prog.lift (checkRetry current)
  let subject ← Prog.lift (ProviderRequestSubject.make host current.subject.attempt
    (.int current.subject.iteration) (.str current.subject.envelopeSha256)
    (.str current.subject.route.text) (.int (current.subject.retryOrdinal + 1)))
  claim host subject (.str current.routeSha256) operation

/-- `claim_openai_fallback`. -/
def claimOpenaiFallback (primary : ProviderRequestLease) (fallbackRouteSha256 : Value)
    (operation : OperationRef) : LeaseProg ProviderRequestLease := do
  let current ← current primary
  Prog.raiseIf (current.subject.route ≠ .primary || current.subject.retryOrdinal ≠ 0
      || current.status ≠ .failed || !current.retryable || current.visibleOutput
      || current.classification ≠ some .previousResponseFallback)
    (transitionError "OpenAI fallback route requires durable primary fallback classification")
  let subject ← Prog.lift (ProviderRequestSubject.make host current.subject.attempt
    (.int current.subject.iteration) (.str current.subject.envelopeSha256)
    (.str "openai_previous_response_fallback") (.int 0))
  claim host subject fallbackRouteSha256 operation

/-- What a lease says about sending its request again (`recover`). -/
def disposition : Option ProviderRequestLease → ProviderRequestDisposition
  | none => .notStarted
  | some lease =>
    if lease.status = .started then .uncertain
    else if lease.status = .failed && lease.retryable && !lease.visibleOutput then
      .retryableFailure
    else .terminal

/-- `recover`. -/
def recover (subject : ProviderRequestSubject) : LeaseProg ProviderRequestRecovery := do
  let lease ← load subject
  return ⟨subject, disposition lease, lease⟩

end Coordinator

/-! ### Calls and the durable world -/

/-- A call of one coordinator with its arguments. -/
inductive LeaseCall where
  | claimInitial (attempt : AttemptRef) (iteration envelopeSha256 route routeSha256 : Value)
      (operation : OperationRef)
  | recordFailure (lease : ProviderRequestLease) (classification retryable visibleOutput : Value)
      (operation : OperationRef) (failureDiagnostic : Option ProviderFailureDiagnostic)
  | recordUncertainty (lease : ProviderRequestLease) (diagnostic : ProviderUncertaintyDiagnostic)
      (operation : OperationRef)
  | recordCompleted (lease : ProviderRequestLease) (visibleOutput : Value)
      (operation : OperationRef)
  | recordCompletedResult (lease : ProviderRequestLease)
      (resultBinding : ProviderTurnResultBinding) (visibleOutput : Value)
      (operation : OperationRef)
  | claimRetry (previous : ProviderRequestLease) (operation : OperationRef)
  | claimOpenaiFallback (primary : ProviderRequestLease) (fallbackRouteSha256 : Value)
      (operation : OperationRef)
  | recover (subject : ProviderRequestSubject)

inductive LeaseResult where
  | lease (lease : ProviderRequestLease)
  | recovery (recovery : ProviderRequestRecovery)

def thenSend (claim : LeaseProg ProviderRequestLease) : LeaseProg LeaseResult := do
  let lease ← claim
  .call (.send lease.subject) fun _ => .ret (.lease lease)

def returnLease (p : LeaseProg ProviderRequestLease) : LeaseProg LeaseResult := do
  let lease ← p
  return .lease lease

def LeaseCall.run (host : Host) : LeaseCall → LeaseProg LeaseResult
  | .claimInitial attempt iteration envelopeSha256 route routeSha256 operation =>
    thenSend (Coordinator.claimInitial host attempt iteration envelopeSha256 route routeSha256
      operation)
  | .recordFailure lease classification retryable visibleOutput operation failureDiagnostic =>
    returnLease (Coordinator.recordFailure host lease classification retryable visibleOutput
      operation failureDiagnostic)
  | .recordUncertainty lease diagnostic operation =>
    returnLease (Coordinator.recordUncertainty host lease diagnostic operation)
  | .recordCompleted lease visibleOutput operation =>
    returnLease (Coordinator.recordCompleted lease visibleOutput operation)
  | .recordCompletedResult lease resultBinding visibleOutput operation =>
    returnLease (Coordinator.recordCompletedResult host lease resultBinding visibleOutput
      operation)
  | .claimRetry previous operation => thenSend (Coordinator.claimRetry host previous operation)
  | .claimOpenaiFallback primary fallbackRouteSha256 operation =>
    thenSend (Coordinator.claimOpenaiFallback host primary fallbackRouteSha256 operation)
  | .recover subject => do
    let recovery ← Coordinator.recover subject
    return .recovery recovery

/-- The durable revisions in the order in which they were stored, and the sends callers were told
to make. -/
structure LeaseWorld where
  stored : List ProviderRequestLease
  sends : List ProviderRequestSubject

namespace LeaseWorld

variable (w : LeaseWorld) (subject : ProviderRequestSubject)

/-- The head of a subject: its last stored revision. -/
def current : Option ProviderRequestLease :=
  KeyedLog.latest ProviderRequestLease.subject subject w.stored

def currentRevision : Nat :=
  ((w.current subject).map ProviderRequestLease.revision).getD 0

def store (w : LeaseWorld) (lease : ProviderRequestLease) : LeaseWorld :=
  { w with stored := w.stored ++ [lease] }

def send : LeaseWorld :=
  { w with sends := w.sends ++ [subject] }

/-- The test that `compare_and_swap` makes inside its transaction. -/
structure Swaps (w : LeaseWorld) (subject : ProviderRequestSubject) (expectedRevision : Nat)
    (replacement : ProviderRequestLease) : Prop where
  subject_eq : replacement.subject = subject
  expected : w.currentRevision subject = expectedRevision
  next : replacement.revision = expectedRevision + 1

end LeaseWorld

/-- How the port answers: at any time it may raise, and the answer of a swap that was made may be
lost. -/
inductive LeaseAnswers : LeaseWorld → (c : LeaseCmd) → LeasePort.Answer c → LeaseWorld → Prop where
  | loaded {w : LeaseWorld} {subject : ProviderRequestSubject} :
      LeaseAnswers w (.load subject) (.ok (w.current subject)) w
  | loadFailed {w : LeaseWorld} {subject : ProviderRequestSubject} {e : PyError} :
      LeaseAnswers w (.load subject) (.error e) w
  | swapped {w : LeaseWorld} {subject : ProviderRequestSubject} {expectedRevision : Nat}
      {replacement : ProviderRequestLease}
      (h : w.Swaps subject expectedRevision replacement) :
      LeaseAnswers w (.compareAndSwap subject expectedRevision replacement) (.ok replacement)
        (w.store replacement)
  | swapLost {w : LeaseWorld} {subject : ProviderRequestSubject} {expectedRevision : Nat}
      {replacement : ProviderRequestLease} {e : PyError}
      (h : w.Swaps subject expectedRevision replacement) :
      LeaseAnswers w (.compareAndSwap subject expectedRevision replacement) (.error e)
        (w.store replacement)
  | swapFailed {w : LeaseWorld} {subject : ProviderRequestSubject} {expectedRevision : Nat}
      {replacement : ProviderRequestLease} {e : PyError} :
      LeaseAnswers w (.compareAndSwap subject expectedRevision replacement) (.error e) w
  | sent {w : LeaseWorld} {subject : ProviderRequestSubject} :
      LeaseAnswers w (.send subject) () (w.send subject)

/-- Coordinators in any number of processes over one durable port. The role of a program is the
call it runs; a process that is killed leaves its call where it stands. -/
def leaseSurroundings (host : Host) :
    Crew.Surroundings LeasePort PyError LeaseResult LeaseCall LeaseWorld where
  answers _ _ := LeaseAnswers
  moves _ _ := False
  starts call p := p = call.run host

def LeaseWorld.Empty (w : LeaseWorld) : Prop := w = ⟨[], []⟩

end Unchain.Providers
