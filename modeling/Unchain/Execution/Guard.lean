import Unchain.Memory.Execution
import Unchain.Lib.Ensures
import Unchain.Lib.History

/-!
`ExecutionGuard`, its heartbeat, and the guards borrowed from it (`execution.py`).

The guard of an execution owns a lease in a store. A heartbeat thread renews the lease while the
guard is active; `release_for_wait` gives the lease back until `reacquire`. A borrowed guard is a
view of another guard for a child session, with a state of its own and no lease.

The store is outside the model: it may answer every call with any lease or raise, depending on all
the calls made before. Every method holds the lock of its guard while it reads and writes it, so a
method is one step, and so is a beat of the heartbeat. `release` raises the stop flag of the
heartbeat first and waits for its thread at the end, so the thread is gone when it returns or
raises.
-/

namespace Unchain.Execution

open Lib Lib.Effect Memory Python

/-- What a call raises. `except Exception` does not catch a `KeyboardInterrupt` or a
`SystemExit`. -/
inductive Raised where
  | exception (e : PyError)
  | baseException (cls : String)

/-- `ExecutionLeaseConfig`. -/
structure ExecutionLeaseConfig where
  ttlMs : Int := 60000
  heartbeatIntervalMs : Int := 20000
  ttl_pos : 0 < ttlMs := by decide
  interval_nonneg : 0 ≤ heartbeatIntervalMs := by decide
  interval_lt : heartbeatIntervalMs ≠ 0 → heartbeatIntervalMs < ttlMs := by decide

/-- `ExecutionLease.fence`. -/
def fenceOf (lease : ExecutionLease) : ExecutionFence where
  executionId := lease.executionId
  ownerId := lease.ownerId
  fencingToken := lease.fencingToken
  execution_named := lease.execution_named
  owner_named := lease.owner_named
  token_pos := lease.token_pos

/-! ### The store -/

inductive StoreCall where
  | acquire (executionId ownerId : String) (ttlMs : Int) (expectedRevision : Option Int)
  | verify (executionId ownerId : String) (fencingToken : Int)
  | renew (executionId ownerId : String) (fencingToken ttlMs : Int)
  | release (executionId ownerId : String) (fencingToken : Int)

def StoreCall.isRelease : StoreCall → Bool
  | .release .. => true
  | _ => false

def renewCall (ttlMs : Int) (lease : ExecutionLease) : StoreCall :=
  .renew lease.executionId lease.ownerId lease.fencingToken ttlMs

def releaseCall (lease : ExecutionLease) : StoreCall :=
  .release lease.executionId lease.ownerId lease.fencingToken

/-- What a store returns: a lease, or something that is none. -/
inductive Answer where
  | lease (lease : ExecutionLease)
  | other

abbrev LeaseStore := List StoreCall → StoreCall → Except Raised Answer

/-! ### Guards -/

inductive GuardState where
  | active
  | waiting
  | released
deriving DecidableEq

/-- The fields of the `ExecutionGuard`. -/
structure OwnedGuard where
  lease : ExecutionLease
  state : GuardState
  heartbeatError : Option PyError
  /-- `_heartbeat_stop` is set. -/
  heartbeatStop : Bool
  /-- A heartbeat thread is running. -/
  heartbeatThread : Bool

/-- A guard in the hands of a caller: the one that owns the lease, or one borrowed from another
guard for a session, with the place where its own state is kept. -/
inductive Guard where
  | owned
  | borrowed (parent : Guard) (session : { s : String // isIdentifier s = true }) (place : Nat)

structure World where
  owned : OwnedGuard
  /-- The states of the borrowed guards. -/
  borrowed : List GuardState
  /-- The guards handed out so far; the first owns the lease. -/
  guards : List Guard
  /-- The calls made to the store so far. -/
  calls : List StoreCall

abbrev GuardM := EStateM Raised World

def World.stateOf (w : World) : Guard → Option GuardState
  | .owned => some w.owned.state
  | .borrowed _ _ place => w.borrowed[place]?

section Methods

variable (repr : String → String) (store : LeaseStore) (config : ExecutionLeaseConfig)

def ask (call : StoreCall) : GuardM Answer := do
  let w ← get
  modify fun w => { w with calls := w.calls ++ [call] }
  lift (store w.calls call)

/-- `_validate_store_lease`. -/
def validateStoreLease (answer : Answer) (executionId ownerId : String)
    (fencingToken : Option Int) : Except Raised ExecutionLease :=
  let error cls message := Raised.exception (leaseError repr cls message executionId ownerId
    fencingToken)
  match answer with
  | .other =>
    .error (error "ExecutionLeaseError" "execution lease store returned an invalid lease")
  | .lease lease =>
    if lease.executionId ≠ executionId ∨ lease.ownerId ≠ ownerId then
      .error (error "ExecutionLeaseNotOwnedError"
        "execution lease store returned ownership for a different execution")
    else if ∃ token ∈ fencingToken, lease.fencingToken ≠ token then
      .error (error "StaleExecutionLeaseError"
        "execution lease store changed the fencing token unexpectedly")
    else .ok lease

def heldError (cls message : String) (lease : ExecutionLease) : Raised :=
  .exception (leaseError repr cls message lease.executionId lease.ownerId
    (some lease.fencingToken))

/-- `_not_active_error_locked`. -/
def notActiveError (g : OwnedGuard) : Raised :=
  heldError repr "ExecutionLeaseNotOwnedError"
    (if g.state = .waiting then "execution lease is released while waiting"
      else "execution lease guard has been released") g.lease

/-- `_ensure_active_locked`. -/
def ensureActiveLocked (g : OwnedGuard) : Except Raised Unit :=
  if g.state ≠ .active then .error (notActiveError repr g)
  else match g.heartbeatError with
    | some e => .error (.exception e)
    | none => .ok ()

/-- `_renew_locked`. -/
def renewLocked : GuardM ExecutionLease := do
  let current := (← get).owned.lease
  let answer ← ask store (renewCall config.ttlMs current)
  let renewed ← lift (validateStoreLease repr answer current.executionId current.ownerId
    (some current.fencingToken))
  if renewed.acquiredAtMs ≠ current.acquiredAtMs then
    throw (heldError repr "ExecutionLeaseError"
      "execution lease store changed acquired_at_ms during renewal" current)
  if renewed.expiresAtMs < current.expiresAtMs then
    throw (heldError repr "ExecutionLeaseError"
      "execution lease store shortened the lease during renewal" current)
  modify fun w => { w with owned := { w.owned with lease := renewed } }
  return renewed

/-- `_project_lease`. -/
def projectLease (session : { s : String // isIdentifier s = true }) (lease : ExecutionLease) :
    ExecutionLease :=
  { lease with executionId := session.1, execution_named := session.2 }

/-! ### Reading a guard -/

/-- A borrowed guard that is not active names its own session and its parent's lease. -/
def borrowError (session : { s : String // isIdentifier s = true }) (cls message : String)
    (lease : ExecutionLease) : Raised :=
  heldError repr cls message (projectLease session lease)

/-- `_ensure_active` of a borrowed guard; `parentLease` reads the lease of its parent. -/
def ensureBorrowActive (session : { s : String // isIdentifier s = true }) (place : Nat)
    (parentLease : GuardM ExecutionLease) : GuardM Unit := do
  let state := (← get).borrowed.getD place .released
  if state = .active then return
  else
    let lease ← parentLease
    throw (borrowError repr session "ExecutionLeaseNotOwnedError"
      (if state = .waiting then "borrowed execution guard is released while waiting"
        else "borrowed execution guard has been released") lease)

/-- The property `lease`. -/
def lease : Guard → GuardM ExecutionLease
  | .owned => do return (← get).owned.lease
  | .borrowed parent session place => do
    ensureBorrowActive repr session place (lease parent)
    return projectLease session (← lease parent)

/-- The property `fence`. -/
def fence : Guard → GuardM ExecutionFence
  | .owned => do
    let g := (← get).owned
    lift (ensureActiveLocked repr g)
    return fenceOf g.lease
  | .borrowed parent session place => do
    ensureBorrowActive repr session place (lease repr parent)
    fence parent

def assertActive : Guard → GuardM ExecutionLease
  | .owned => do
    let g := (← get).owned
    lift (ensureActiveLocked repr g)
    let answer ← ask store (.verify g.lease.executionId g.lease.ownerId g.lease.fencingToken)
    let verified ← lift (validateStoreLease repr answer g.lease.executionId g.lease.ownerId
      (some g.lease.fencingToken))
    modify fun w => { w with owned := { w.owned with lease := verified } }
    return verified
  | .borrowed parent session place => do
    ensureBorrowActive repr session place (lease repr parent)
    return projectLease session (← assertActive parent)

def renew : Guard → GuardM ExecutionLease
  | .owned => do
    lift (ensureActiveLocked repr (← get).owned)
    renewLocked repr store config
  | .borrowed parent session place => do
    ensureBorrowActive repr session place (lease repr parent)
    return projectLease session (← renew parent)

/-! ### Giving the lease back -/

/-- `_request_heartbeat_stop`. -/
def requestHeartbeatStop : GuardM Unit :=
  modify fun w => { w with owned := { w.owned with heartbeatStop := true } }

def heartbeatEnded (w : World) : World :=
  { w with owned := { w.owned with heartbeatThread := false } }

/-- `try: … finally: self._join_heartbeat(thread)`. -/
def thenJoin (body : GuardM Unit) : GuardM Unit := fun w =>
  match body w with
  | .ok a w' => .ok a (heartbeatEnded w')
  | .error e w' => .error e (heartbeatEnded w')

def setState (state : GuardState) : GuardM Unit :=
  modify fun w => { w with owned := { w.owned with state := state, heartbeatError := none } }

def releaseLease (next : GuardState) : GuardM Unit := do
  let current := (← get).owned.lease
  let _ ← ask store (releaseCall current)
  setState next

def setBorrowState (place : Nat) (state : GuardState) : GuardM Unit :=
  modify fun w => { w with borrowed := w.borrowed.set place state }

def release : Guard → GuardM Unit
  | .owned => do
    requestHeartbeatStop
    thenJoin do
      match (← get).owned.state with
      | .released => return
      | .waiting => setState .released
      | .active => releaseLease store .released
  | .borrowed _ _ place => setBorrowState place .released

def releaseForWait : Guard → GuardM Unit
  | .owned => do
    requestHeartbeatStop
    thenJoin do
      let g := (← get).owned
      match g.state with
      | .waiting => return
      | .released => throw (notActiveError repr g)
      | .active => releaseLease store .waiting
  | .borrowed parent session place => do
    ensureBorrowActive repr session place (lease repr parent)
    let _ ← assertActive repr store parent
    setBorrowState place .waiting

/-! ### Taking it again -/

/-- `_validate_expected_revision`. -/
def validateExpectedRevision (revision : Option Int) : Except Raised Unit :=
  if ∃ n ∈ revision, n < 0 then
    .error (.exception (.valueError "expected_revision must be a non-negative integer"))
  else .ok ()

/-- The guard is active on the lease, with a new stop flag and, for a positive interval, a new
thread (`_start_heartbeat_locked`). -/
def started (lease : ExecutionLease) : OwnedGuard where
  lease := lease
  state := .active
  heartbeatError := none
  heartbeatStop := false
  heartbeatThread := decide (config.heartbeatIntervalMs ≠ 0)

def reacquire (revision : Option Int) : Guard → GuardM ExecutionLease
  | .owned => do
    lift (validateExpectedRevision revision)
    let g := (← get).owned
    if g.state ≠ .waiting then
      throw (heldError repr "ActiveExecutionLeaseError"
        "execution guard can only reacquire after release_for_wait" g.lease)
    let answer ← ask store (.acquire g.lease.executionId g.lease.ownerId config.ttlMs revision)
    let new ← lift (validateStoreLease repr answer g.lease.executionId g.lease.ownerId none)
    if new.fencingToken ≤ g.lease.fencingToken then
      throw (.exception (leaseError repr "StaleExecutionLeaseError"
        "reacquiring an execution must advance its fencing token" g.lease.executionId
        g.lease.ownerId (some new.fencingToken)))
    modify fun w => { w with owned := started config new }
    return new
  | .borrowed parent session place => do
    lift (validateExpectedRevision revision)
    if (← get).borrowed.getD place .released ≠ .waiting then
      let held ← lease repr parent
      throw (borrowError repr session "ActiveExecutionLeaseError"
        "borrowed execution guard can only reacquire after release_for_wait" held)
    let held ← assertActive repr store parent
    setBorrowState place .active
    return projectLease session held

/-! ### Borrowing -/

/-- `_borrow_execution_guard`: the guard is handed out after its parent was found active. -/
def borrow (parent : Guard) (sessionId : String) : GuardM Unit := do
  let root := (← fence repr parent).executionId
  if sessionId ≠ root ∧ ¬ (root ++ ":").toList <+: sessionId.toList then
    throw (.exception (.valueError
      "borrowed execution guard must target its root session or a descendant"))
  if named : isIdentifier sessionId = true then
    let _ ← assertActive repr store parent
    modify fun w => { w with
      borrowed := w.borrowed ++ [.active]
      guards := w.guards ++ [.borrowed parent ⟨sessionId, named⟩ w.borrowed.length] }
  else throw (.exception (.valueError "session_id must be a non-empty string"))

/-! ### The heartbeat -/

/-- A round of `_heartbeat_loop`, after the wait for the stop flag has ended one way or the other.
An exception of the renewal is kept and ends the loop; what is no `Exception` ends the thread. -/
def heartbeat : GuardM Unit := fun w =>
  if w.owned.heartbeatThread = false then .ok () w
  else if w.owned.heartbeatStop ∨ w.owned.state ≠ .active then .ok () (heartbeatEnded w)
  else match renewLocked repr store config w with
    | .ok _ w' => .ok () w'
    | .error (.exception e) w' =>
      .ok () (heartbeatEnded { w' with
        owned := { w'.owned with heartbeatError := some e, heartbeatStop := true } })
    | .error (.baseException _) w' => .ok () (heartbeatEnded w')

/-! ### Steps -/

inductive Call where
  | assertActive
  | renew
  | release
  | releaseForWait
  | reacquire (expectedRevision : Option Int)
  | fence
  | borrow (sessionId : String)

/-- A call on one of the guards handed out so far, or a beat of the heartbeat. -/
inductive Step where
  | on (guard : Nat) (call : Call)
  | tick

inductive Reply where
  | none
  | lease (lease : ExecutionLease)
  | fence (fence : ExecutionFence)

def Guard.perform (g : Guard) : Call → GuardM Reply
  | .assertActive => return .lease (← assertActive repr store g)
  | .renew => return .lease (← renew repr store config g)
  | .release => do
    release store g
    return .none
  | .releaseForWait => do
    releaseForWait repr store g
    return .none
  | .reacquire revision => return .lease (← reacquire repr store config revision g)
  | .fence => return .fence (← fence repr g)
  | .borrow sessionId => do
    borrow repr store g sessionId
    return .none

/-- A step of a run; a guard that was not handed out is called by nobody. -/
def perform : Step → GuardM Reply
  | .on guard call => do
    match (← get).guards[guard]? with
    | some g => g.perform repr store config call
    | none => return .none
  | .tick => do
    heartbeat repr store config
    return .none

end Methods

def start (config : ExecutionLeaseConfig) (lease : ExecutionLease) : World where
  owned := started config lease
  borrowed := []
  guards := [.owned]
  calls := []

end Unchain.Execution
