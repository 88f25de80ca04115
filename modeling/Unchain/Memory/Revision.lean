import Unchain.Memory.SessionStore
import Unchain.Interaction.StrictJson
import Unchain.Lib.Process

/-!
Session snapshots of a revisioned store (`memory/revision.py`).

The store is behind a port: a program loads a state with its revision and saves a state against
the revision it expects. Which of the optional methods the store has is asked of the host.
-/

namespace Unchain.Memory

open Lib Lib.Process Interaction Python

/-- What the session runtime uses of its surroundings. -/
structure RuntimeHost where
  interaction : InteractionHost
  /-- `callable(getattr(store, name, None))`. -/
  supports : String → Bool
  /-- `strategy.commit`: the state it leaves. -/
  commitStrategy : Dict → List Value → Except PyError Dict

/-- `repr` of a string. -/
def RuntimeHost.reprStr (host : RuntimeHost) (s : String) : String := host.interaction.repr (.str s)

/-! ### The port of the store -/

/-- The compare-and-swap methods of a store. -/
inductive SaveMethod where
  | saveIfRevision
  | saveIfRevisionAndFence (fence : ExecutionFence)
  | saveIfRevisionAndExecutionCancelled (executionId ownerId : String)
  | saveIfRevisionAndExecutionNotCancelled (executionId ownerId : String)

inductive StoreCmd where
  | loadWithRevision (sessionId : String)
  | save (method : SaveMethod) (sessionId : String) (state : Dict) (expectedRevision : Int)
  | loadExecutionCancellation (executionId ownerId : String)
  | verifyLease (fence : ExecutionFence)
  | clockMs

abbrev StorePort : Interface where
  Cmd := StoreCmd
  Answer
    | .loadWithRevision _ => Except PyError (Dict × Int)
    | .save _ _ _ _ => Except PyError Int
    | .loadExecutionCancellation _ _ => Except PyError (Option ExecutionCancellation)
    | .verifyLease _ => Except PyError Unit
    | .clockMs => Except PyError Int

abbrev StoreProg (α : Type) : Type := Prog StorePort PyError α

/-! ### Snapshots -/

/-- `SessionSnapshot`. -/
structure SessionSnapshot where
  state : Dict
  revision : Option Int

def SessionSnapshot.empty : SessionSnapshot := { state := [], revision := none }

/-- `state.get(key)`. -/
def SessionSnapshot.get (snapshot : SessionSnapshot) (key : String) : Value :=
  (Value.dict snapshot.state).get key

section Revision

variable (host : RuntimeHost)

variable (sessionId : String)

/-- `SessionRevisionConflictError`. -/
def sessionRevisionConflict (expected actual : Int) : PyError :=
  .raised "SessionRevisionConflictError"
    ("session state revision conflict: session_id=" ++ host.reprStr sessionId ++ ", expected="
      ++ toString expected ++ ", actual=" ++ toString actual)

/-- `SessionStoreCorruptionError`. -/
def sessionStoreCorruption (sessionId detail : String) : PyError :=
  .raised "SessionStoreCorruptionError"
    ("session state is corrupted: session_id=" ++ host.reprStr sessionId ++ ", " ++ detail)

/-- `_validate_revision`. -/
def checkRevision (revision : Int) : StoreProg Unit :=
  Prog.raiseIf (revision < 0)
    (sessionStoreCorruption host sessionId "revision must be a non-negative integer")

/-- `load_session_snapshot`. -/
def loadSessionSnapshot : StoreProg SessionSnapshot := do
  let (state, revision) ← .call (.loadWithRevision sessionId) Prog.lift
  checkRevision host sessionId revision
  return { state, revision := some revision }

def fencedMethods : List String :=
  ["acquire_lease", "verify_lease", "renew_lease", "release_lease", "save_if_revision_and_fence"]

/-- `_has_fenced_revision_capability`. -/
def hasFencedRevisionCapability : Except PyError Bool := do
  let missing := fencedMethods.filter fun name => !host.supports name
  Effect.raiseIf (!missing.isEmpty && fencedMethods.any host.supports)
    (.typeError ("execution lease store capability is incomplete; these methods must be "
      ++ "implemented together: " ++ ", ".intercalate missing))
  return missing.isEmpty

def fencedMethod : Option ExecutionFence → Except PyError SaveMethod
  | none => .ok .saveIfRevision
  | some fence => do
    let able ← hasFencedRevisionCapability host
    Effect.raiseIf (!able)
      (.typeError "execution_fence requires an atomic fenced revisioned session store")
    return .saveIfRevisionAndFence fence

/-- A fence writes only its own session and those below it. -/
def checkFenceTarget : Option ExecutionFence → Except PyError Unit
  | none => .ok ()
  | some fence => validateExecutionFenceTarget sessionId fence.executionId

/-- `expected_revision is None`. -/
def requireExpectedRevision : Option Int → Except PyError Int
  | none => .error (.valueError "expected_revision is required for a revisioned session store")
  | some expected => .ok expected

/-- `save_session_snapshot`. -/
def saveSessionSnapshot (state : Dict) (expectedRevision : Option Int)
    (executionFence : Option ExecutionFence) : StoreProg SessionSnapshot := do
  Prog.lift (checkFenceTarget sessionId executionFence)
  let expected ← Prog.lift (requireExpectedRevision expectedRevision)
  checkRevision host sessionId expected
  let method ← Prog.lift (fencedMethod host executionFence)
  let revision ← .call (.save method sessionId state expected) Prog.lift
  checkRevision host sessionId revision
  Prog.raiseIf (revision ≤ expected)
    (sessionStoreCorruption host sessionId "save_if_revision() did not advance the revision")
  return { state, revision := some revision }

/-- `_ensure_expected_revision`. -/
def ensureExpectedRevision (snapshot : SessionSnapshot) (sessionId : String) :
    Option Int → Except PyError Unit
  | none => .ok ()
  | some expected =>
    match snapshot.revision with
    | none => .ok ()
    | some actual =>
      Effect.raiseIf (actual ≠ expected) (sessionRevisionConflict host sessionId expected actual)

/-- `_verify_execution_fence`. -/
def verifyExecutionFence : Option ExecutionFence → StoreProg Unit
  | none => .ret ()
  | some fence => do
    Prog.raiseIf (!host.supports "verify_lease")
      (.typeError "execution fence requires a lease-aware session store")
    .call (.verifyLease fence) Prog.lift

end Revision

/-! ### The exceptions that are told apart -/

/-- `isinstance(error, ExecutionCancelledError)`. -/
def isExecutionCancelled : PyError → Bool
  | .raised cls _ => cls = "ExecutionCancelledError"
  | _ => false

/-- `isinstance(error, SessionRevisionConflictError)`. -/
def isRevisionConflict : PyError → Bool
  | .raised cls _ => cls = "SessionRevisionConflictError"
  | _ => false

/-- `ExecutionLeaseError` and the classes below it. -/
def leaseErrorClasses : List String :=
  ["ExecutionLeaseError", "ExecutionLeaseConflictError", "ExecutionLeaseExpiredError",
    "ExecutionLeaseNotOwnedError", "StaleExecutionLeaseError", "ActiveExecutionLeaseError",
    "ExecutionCancelledError"]

/-- `isinstance(error, ExecutionLeaseError)`. -/
def isExecutionLeaseError : PyError → Bool
  | .raised cls _ => cls ∈ leaseErrorClasses
  | _ => false

/-- The message of an exception. -/
def errorText : PyError → String
  | .typeError m | .valueError m | .keyError m | .indexError m | .attributeError m
  | .overflowError m | .notImplementedError m | .raised _ m => m

end Unchain.Memory
