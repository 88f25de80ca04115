import Unchain.Python.Builtins
import Unchain.Lib.Effect

/-!
Execution ownership: leases with their fencing tokens, and cancellation tombstones.

The dataclasses check themselves as they are built; a value of the structure carries what the
checks established.
-/

namespace Unchain.Memory

open Lib.Effect Python

/-- What the identifiers of an execution and its owner must be: strings with something in them. -/
def isIdentifier (s : String) : Bool := !(strip s).isEmpty

/-- `ExecutionFence`. -/
structure ExecutionFence where
  executionId : String
  ownerId : String
  fencingToken : Int
  execution_named : isIdentifier executionId = true
  owner_named : isIdentifier ownerId = true
  token_pos : 0 < fencingToken

/-- `ExecutionLease`. -/
structure ExecutionLease where
  executionId : String
  ownerId : String
  fencingToken : Int
  acquiredAtMs : Int
  expiresAtMs : Int
  execution_named : isIdentifier executionId = true
  owner_named : isIdentifier ownerId = true
  token_pos : 0 < fencingToken
  acquired_nonneg : 0 ≤ acquiredAtMs
  acquired_lt_expires : acquiredAtMs < expiresAtMs
deriving DecidableEq

/-- The constructor with its `__post_init__`. -/
def ExecutionLease.make (executionId ownerId : String)
    (fencingToken acquiredAtMs expiresAtMs : Int) : Except PyError ExecutionLease :=
  if execution_named : isIdentifier executionId = true then
    if owner_named : isIdentifier ownerId = true then
      if token_pos : 0 < fencingToken then
        if acquired_nonneg : 0 ≤ acquiredAtMs then
          if acquired_lt_expires : acquiredAtMs < expiresAtMs then
            .ok { executionId, ownerId, fencingToken, acquiredAtMs, expiresAtMs, execution_named,
                  owner_named, token_pos, acquired_nonneg, acquired_lt_expires }
          else .error (.valueError "expires_at_ms must be greater than acquired_at_ms")
        else .error (.valueError "acquired_at_ms must be a non-negative integer")
      else .error (.valueError "fencing_token must be a positive integer")
    else .error (.valueError "owner_id must be a non-empty string")
  else .error (.valueError "execution_id must be a non-empty string")

theorem ExecutionLease.make_ok {executionId ownerId : String}
    {fencingToken acquiredAtMs expiresAtMs : Int} {lease : ExecutionLease}
    (h : make executionId ownerId fencingToken acquiredAtMs expiresAtMs = .ok lease) :
    lease.executionId = executionId ∧ lease.ownerId = ownerId ∧
      lease.fencingToken = fencingToken ∧ lease.acquiredAtMs = acquiredAtMs ∧
      lease.expiresAtMs = expiresAtMs := by
  unfold make at h
  split_ifs at h
  cases h
  exact ⟨rfl, rfl, rfl, rfl, rfl⟩

/-- `ExecutionCancellation`. -/
structure ExecutionCancellation where
  executionId : String
  ownerId : String
  fencingToken : Option Int
  requestedAtMs : Int
  reason : String
  execution_named : isIdentifier executionId = true
  owner_named : isIdentifier ownerId = true
  token_pos : ∀ token ∈ fencingToken, 0 < token
  requested_nonneg : 0 ≤ requestedAtMs

/-- The constructor with its `__post_init__`. -/
def ExecutionCancellation.make (executionId ownerId : String) (fencingToken : Option Int)
    (requestedAtMs : Int) (reason : String) : Except PyError ExecutionCancellation :=
  if execution_named : isIdentifier executionId = true then
    if owner_named : isIdentifier ownerId = true then
      if token_pos : ∀ token ∈ fencingToken, 0 < token then
        if requested_nonneg : 0 ≤ requestedAtMs then
          .ok { executionId, ownerId, fencingToken, requestedAtMs, reason, execution_named,
                owner_named, token_pos, requested_nonneg }
        else .error (.valueError "requested_at_ms must be a non-negative integer")
      else .error (.valueError "fencing_token must be a positive integer")
    else .error (.valueError "owner_id must be a non-empty string")
  else .error (.valueError "execution_id must be a non-empty string")

theorem ExecutionCancellation.make_ok {executionId ownerId : String} {fencingToken : Option Int}
    {requestedAtMs : Int} {reason : String} {cancellation : ExecutionCancellation}
    (h : make executionId ownerId fencingToken requestedAtMs reason = .ok cancellation) :
    cancellation.executionId = executionId ∧ cancellation.ownerId = ownerId ∧
      cancellation.fencingToken = fencingToken ∧ cancellation.reason = reason := by
  unfold make at h
  split_ifs at h
  cases h
  exact ⟨rfl, rfl, rfl, rfl⟩

/-- The `ExecutionLeaseError` classes, with the text their constructor composes. -/
def leaseError (repr : String → String) (cls message executionId ownerId : String)
    (fencingToken : Option Int) : PyError :=
  let owned := "execution_id=" ++ repr executionId ++ ", owner_id=" ++ repr ownerId
  let context := match fencingToken with
    | some token => owned ++ ", fencing_token=" ++ toString token
    | none => owned
  .raised cls (message ++ ": " ++ context)

end Unchain.Memory
