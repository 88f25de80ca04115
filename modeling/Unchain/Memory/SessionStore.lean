import Unchain.Memory.Execution

/-!
`InMemorySessionStore`: session states with revisions, one lease record for each execution, and
the tombstones of cancelled owners.

Every method runs under the store's lock, so it is one computation on the store. The clock is a
callable of the host that may answer anything; the store counts how often it asked.
-/

namespace Unchain.Memory

open Lib Lib.Effect Python

/-- What the store uses of the interpreter around it. -/
structure SessionHost where
  /-- The answers of `clock_ms`, in the order in which the store asks. -/
  clockMs : Nat → Except PyError Value
  /-- `copy.deepcopy`, which raises on what it cannot copy. -/
  deepcopy : Value → Except PyError Value
  /-- `repr` of a string. -/
  repr : String → String

/-- A record of `_execution_leases`. -/
structure LeaseRecord where
  lastFencingToken : Int
  lastOwnerId : String
  active : Option ExecutionLease

/-- The record `setdefault` puts in place. -/
def LeaseRecord.empty : LeaseRecord :=
  { lastFencingToken := 0, lastOwnerId := "", active := none }

structure InMemorySessionStore where
  sessions : List (String × Value)
  revisions : List (String × Int)
  executionLeases : List (String × LeaseRecord)
  executionCancellations : List (String × List (String × ExecutionCancellation))
  clockReads : Nat

namespace InMemorySessionStore

def new : InMemorySessionStore :=
  { sessions := [], revisions := [], executionLeases := [], executionCancellations := [],
    clockReads := 0 }

/-! ### Lookups -/

variable (store : InMemorySessionStore)

/-- `self._sessions.get(session_id, {})`. -/
def session (sessionId : String) : Value :=
  (Assoc.get sessionId store.sessions).getD (.dict [])

/-- `self._revisions.get(session_id, 0)`. -/
def revision (sessionId : String) : Int :=
  (Assoc.get sessionId store.revisions).getD 0

def leaseRecord (executionId : String) : LeaseRecord :=
  (Assoc.get executionId store.executionLeases).getD .empty

/-- `self._execution_cancellations.get(execution_id, {}).get(owner_id)`. -/
def cancellation (executionId ownerId : String) : Option ExecutionCancellation :=
  (Assoc.get executionId store.executionCancellations).bind (Assoc.get ownerId)

/-! ### Writes -/

def putRecord (executionId : String) (record : LeaseRecord) : InMemorySessionStore :=
  { store with executionLeases := Assoc.set executionId record store.executionLeases }

/-- `self._execution_cancellations.setdefault(execution_id, {})`. -/
def openCancellations (executionId : String) : InMemorySessionStore :=
  { store with
    executionCancellations :=
      Assoc.set executionId ((Assoc.get executionId store.executionCancellations).getD [])
        store.executionCancellations }

def putCancellation (executionId ownerId : String) (cancellation : ExecutionCancellation) :
    InMemorySessionStore :=
  { store with
    executionCancellations :=
      Assoc.set executionId
        (Assoc.set ownerId cancellation
          ((Assoc.get executionId store.executionCancellations).getD []))
        store.executionCancellations }

/-- The two assignments of every save. -/
def putSession (sessionId : String) (state : Value) (revision : Int) : InMemorySessionStore :=
  { store with
    sessions := Assoc.set sessionId state store.sessions
    revisions := Assoc.set sessionId revision store.revisions }

def tick : InMemorySessionStore :=
  { store with clockReads := store.clockReads + 1 }

end InMemorySessionStore

/-! ### Validation -/

/-- The check of an optional positive integer: `None` passes it. -/
def positiveInt (message : String) : Value → Except PyError (Option Int)
  | .none => .ok none
  | .int n => if 0 < n then .ok (some n) else .error (.valueError message)
  | _ => .error (.valueError message)

/-- `_validate_lease_request` on the identifiers. -/
def validateLeaseRequest (executionId ownerId : String) : Except PyError Unit := do
  raiseIf (!isIdentifier executionId) (.valueError "execution_id must be a non-empty string")
  raiseIf (!isIdentifier ownerId) (.valueError "owner_id must be a non-empty string")

/-- `_validate_lease_request` on `ttl_ms`. -/
def validateTtl : Value → Except PyError (Option Int) :=
  positiveInt "ttl_ms must be a positive integer"

/-- `_validate_lease_request` on `fencing_token`. -/
def validateToken : Value → Except PyError (Option Int) :=
  positiveInt "fencing_token must be a positive integer"

/-- The check of an `expected_revision` that must be given. -/
def validateRevision : Value → Except PyError Int
  | .int n =>
    if n < 0 then .error (.valueError "expected_revision must be a non-negative integer")
    else .ok n
  | _ => .error (.valueError "expected_revision must be a non-negative integer")

/-- `_validate_expected_revision`. -/
def validateExpectedRevision : Value → Except PyError (Option Int)
  | .none => .ok none
  | revision => (validateRevision revision).map some

/-- `_validate_execution_fence_target`. -/
def validateExecutionFenceTarget (sessionId executionId : String) : Except PyError Unit :=
  if sessionId = executionId ∨ (executionId ++ ":").toList <+: sessionId.toList then .ok ()
  else .error
    (.valueError "execution fence must target its own session_id or a descendant session")

/-- `now + ttl_ms`. -/
def addTtl (now : Int) : Option Int → Except PyError Int
  | some ttl => .ok (now + ttl)
  | none => .error (.typeError "unsupported operand type(s) for +: 'int' and 'NoneType'")

abbrev SessionM := EStateM PyError InMemorySessionStore

section Methods

variable (host : SessionHost)

/-- `_now_ms`. -/
def nowMs : SessionM Int := do
  let store ← get
  modify InMemorySessionStore.tick
  match ← lift (host.clockMs store.clockReads) with
  | .int now => return now
  | _ => throw (.typeError "clock_ms must return an integer epoch timestamp")

/-- `_lease_record_unlocked`. -/
def leaseRecordUnlocked (executionId : String) : SessionM LeaseRecord := do
  let store ← get
  modify fun s => s.putRecord executionId (store.leaseRecord executionId)
  return store.leaseRecord executionId

/-- `ExecutionCancelledError` for a tombstone. -/
def cancelledError (executionId ownerId : String) (cancellation : ExecutionCancellation)
    (fencingToken : Option Int) : PyError :=
  let reason := if cancellation.reason.isEmpty then "execution was cancelled"
    else cancellation.reason
  leaseError host.repr "ExecutionCancelledError" reason executionId ownerId fencingToken

variable (sessionId : String)

/-- `SessionRevisionConflictError`. -/
def revisionConflict (expected : Option Int) (actual : Int) : PyError :=
  let wanted := match expected with
    | some n => toString n
    | none => "None"
  .raised "SessionRevisionConflictError"
    ("session state revision conflict: session_id=" ++ host.repr sessionId ++ ", expected="
      ++ wanted ++ ", actual=" ++ toString actual)

/-- `_assert_active_lease_unlocked`. A token of `None` fails at the first comparison. -/
def assertActiveLeaseUnlocked (executionId ownerId : String) (fencingToken : Option Int) :
    SessionM ExecutionLease := do
  let store ← get
  let error cls message := leaseError host.repr cls message executionId ownerId fencingToken
  match store.cancellation executionId ownerId with
  | some cancellation =>
    throw (cancelledError host executionId ownerId cancellation
      (cancellation.fencingToken.or fencingToken))
  | none =>
    match (store.leaseRecord executionId).active, fencingToken with
    | none, none =>
      throw (.typeError "'<=' not supported between instances of 'NoneType' and 'int'")
    | none, some token =>
      if token ≤ (store.leaseRecord executionId).lastFencingToken then
        throw (error "StaleExecutionLeaseError"
          "execution lease has already been released or superseded")
      else throw (error "ExecutionLeaseNotOwnedError" "execution lease is not owned")
    | some _, none =>
      throw (.typeError "'<' not supported between instances of 'NoneType' and 'int'")
    | some active, some token =>
      if token ≠ active.fencingToken then
        let cls := if token < active.fencingToken then "StaleExecutionLeaseError"
          else "ExecutionLeaseNotOwnedError"
        throw (error cls "execution fencing token is not current")
      else if ownerId ≠ active.ownerId then
        throw (error "ExecutionLeaseNotOwnedError"
          "execution lease belongs to a different owner")
      else do
        let now ← nowMs host
        if active.expiresAtMs ≤ now then
          throw (error "ExecutionLeaseExpiredError" "execution lease has expired")
        else return active

/-- `_ensure_unfenced_write_allowed_unlocked`. -/
def ensureUnfencedWriteAllowedUnlocked : SessionM Unit := do
  let store ← get
  match (store.leaseRecord sessionId).active with
  | none => return ()
  | some active =>
    let now ← nowMs host
    if now < active.expiresAtMs then
      throw (leaseError host.repr "ActiveExecutionLeaseError"
        "unfenced session write is forbidden while an execution lease is active"
        sessionId active.ownerId (some active.fencingToken))
    else return ()

/-- The copy and the assignments that end every save. -/
def storeSession (state : Value) (revision : Int) : SessionM Unit := do
  let copied ← lift (host.deepcopy state)
  modify fun s => s.putSession sessionId copied revision

/-- The compare-and-swap that ends every save with a revision. -/
def swapSession (state : Value) (expected : Option Int) : SessionM Int := do
  let store ← get
  let actual := store.revision sessionId
  if expected ≠ some actual then throw (revisionConflict host sessionId expected actual)
  else do
    storeSession host sessionId state (actual + 1)
    return actual + 1

/-- `save`. -/
def save (state : Value) : SessionM Unit := do
  ensureUnfencedWriteAllowedUnlocked host sessionId
  let store ← get
  storeSession host sessionId state (store.revision sessionId + 1)

/-- `save_if_revision`. -/
def saveIfRevision (state expectedRevision : Value) : SessionM Int := do
  let expected ← lift (validateRevision expectedRevision)
  ensureUnfencedWriteAllowedUnlocked host sessionId
  swapSession host sessionId state (some expected)

/-- `acquire_lease`. -/
def acquireLease (executionId ownerId : String) (ttlMs expectedRevision : Value) :
    SessionM ExecutionLease := do
  lift (validateLeaseRequest executionId ownerId)
  let ttl ← lift (validateTtl ttlMs)
  let expected ← lift (validateExpectedRevision expectedRevision)
  let store ← get
  match store.cancellation executionId ownerId with
  | some cancellation =>
    throw (cancelledError host executionId ownerId cancellation cancellation.fencingToken)
  | none =>
    let actual := store.revision executionId
    if expected.isSome ∧ expected ≠ some actual then
      throw (revisionConflict host executionId expected actual)
    else do
      let now ← nowMs host
      let record ← leaseRecordUnlocked executionId
      match record.active.filter fun active => now < active.expiresAtMs with
      | some active =>
        if active.ownerId = ownerId then return active
        else throw (leaseError host.repr "ExecutionLeaseConflictError"
          "execution is already leased by another owner" executionId ownerId
          (some active.fencingToken))
      | none => do
        let token := record.lastFencingToken + 1
        let expires ← lift (addTtl now ttl)
        let lease ← lift (ExecutionLease.make executionId ownerId token now expires)
        modify fun s => s.putRecord executionId
          { lastFencingToken := token, lastOwnerId := ownerId, active := some lease }
        return lease

/-- The token a cancellation names: that of the owner's lease, or of the last one when it was
the owner's. -/
def cancelledToken (record : LeaseRecord) (ownerId : String) : Option Int :=
  match record.active.filter fun active => active.ownerId = ownerId with
  | some active => some active.fencingToken
  | none =>
    if record.lastOwnerId = ownerId ∧ record.lastFencingToken ≠ 0 then
      some record.lastFencingToken
    else none

/-- The record a cancellation leaves: without the lease the owner held. -/
def dropActive (record : LeaseRecord) (ownerId : String) : LeaseRecord :=
  { record with active := record.active.filter fun active => active.ownerId ≠ ownerId }

/-- `request_execution_cancel`. -/
def requestExecutionCancel (executionId ownerId reason : String) :
    SessionM ExecutionCancellation := do
  lift (validateLeaseRequest executionId ownerId)
  modify fun s => s.openCancellations executionId
  let store ← get
  match store.cancellation executionId ownerId with
  | some existing => return existing
  | none => do
    let record ← leaseRecordUnlocked executionId
    -- the owner's lease is gone before the tombstone is built, which may raise
    modify fun s => s.putRecord executionId (dropActive record ownerId)
    let now ← nowMs host
    let cancellation ← lift (ExecutionCancellation.make executionId ownerId
      (cancelledToken record ownerId) now reason)
    modify fun s => s.putCancellation executionId ownerId cancellation
    return cancellation

/-- `renew_lease`. -/
def renewLease (executionId ownerId : String) (fencingToken ttlMs : Value) :
    SessionM ExecutionLease := do
  lift (validateLeaseRequest executionId ownerId)
  let ttl ← lift (validateTtl ttlMs)
  let token ← lift (validateToken fencingToken)
  let active ← assertActiveLeaseUnlocked host executionId ownerId token
  let now ← nowMs host
  let expires ← lift (addTtl now ttl)
  let renewed ← lift (ExecutionLease.make active.executionId active.ownerId active.fencingToken
    active.acquiredAtMs (max active.expiresAtMs expires))
  let record ← leaseRecordUnlocked executionId
  modify fun s => s.putRecord executionId { record with active := some renewed }
  return renewed

/-- `release_lease`. -/
def releaseLease (executionId ownerId : String) (fencingToken : Value) : SessionM Unit := do
  lift (validateLeaseRequest executionId ownerId)
  let token ← lift (validateToken fencingToken)
  let store ← get
  let record := store.leaseRecord executionId
  match record.active with
  | none =>
    if (Assoc.get executionId store.executionLeases).isSome
        ∧ token = some record.lastFencingToken ∧ record.lastOwnerId = ownerId then return ()
    else do
      let _ ← assertActiveLeaseUnlocked host executionId ownerId token
      return ()
  | some _ => do
    let _ ← assertActiveLeaseUnlocked host executionId ownerId token
    modify fun s => s.putRecord executionId { record with active := none }

/-- `save_if_revision_and_fence`. -/
def saveIfRevisionAndFence (state expectedRevision : Value) (executionId ownerId : String)
    (fencingToken : Value) : SessionM Int := do
  lift (validateExecutionFenceTarget sessionId executionId)
  let expected ← lift (validateExpectedRevision expectedRevision)
  lift (validateLeaseRequest executionId ownerId)
  let token ← lift (validateToken fencingToken)
  let _ ← assertActiveLeaseUnlocked host executionId ownerId token
  swapSession host sessionId state expected

/-- A method with its arguments. -/
inductive SessionCall where
  | acquireLease (executionId ownerId : String) (ttlMs expectedRevision : Value)
  | renewLease (executionId ownerId : String) (fencingToken ttlMs : Value)
  | releaseLease (executionId ownerId : String) (fencingToken : Value)
  | requestExecutionCancel (executionId ownerId reason : String)
  | save (sessionId : String) (state : Value)
  | saveIfRevision (sessionId : String) (state expectedRevision : Value)
  | saveIfRevisionAndFence (sessionId : String) (state expectedRevision : Value)
      (executionId ownerId : String) (fencingToken : Value)

/-- What a method returns. -/
inductive SessionReply where
  | lease (lease : ExecutionLease)
  | cancellation (cancellation : ExecutionCancellation)
  | revision (revision : Int)
  | done

/-- Run a method. -/
def perform : SessionCall → SessionM SessionReply
  | .acquireLease executionId ownerId ttlMs expectedRevision => do
    return .lease (← acquireLease host executionId ownerId ttlMs expectedRevision)
  | .renewLease executionId ownerId fencingToken ttlMs => do
    return .lease (← renewLease host executionId ownerId fencingToken ttlMs)
  | .releaseLease executionId ownerId fencingToken => do
    releaseLease host executionId ownerId fencingToken
    return .done
  | .requestExecutionCancel executionId ownerId reason => do
    return .cancellation (← requestExecutionCancel host executionId ownerId reason)
  | .save sessionId state => do
    save host sessionId state
    return .done
  | .saveIfRevision sessionId state expectedRevision => do
    return .revision (← saveIfRevision host sessionId state expectedRevision)
  | .saveIfRevisionAndFence sessionId state expectedRevision executionId ownerId token => do
    return .revision
      (← saveIfRevisionAndFence host sessionId state expectedRevision executionId ownerId token)

end Methods

end Unchain.Memory
