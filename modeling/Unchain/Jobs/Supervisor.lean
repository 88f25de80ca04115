import Unchain.Jobs.Worker

/-!
Reconciliation: what a supervisor makes of the files of a job that is not terminal.

The supervisor's memory (its suspicions, its wrapper processes, the time of its last spawn) is
asked for like everything else, and the two comparisons of monotonic times are parameters.
-/

namespace Unchain.Jobs

open Lib Lib.Process Python JobStore

/-- The settings of a `ProcessJobSupervisor`, the digest of its environment profile, and the
comparisons it makes on monotonic times. -/
structure Supervisor where
  heartbeatStaleMs : Int
  launchGraceMs : Int
  suspectGraceMs : Int
  environmentDigest : String
  graceElapsed : (now first : PyFloat) → (graceMs : Int) → Bool
  coolingDown : (now last : PyFloat) → (launchGraceMs : Int) → Bool

/-- `_claim_matches`. -/
def claimMatches (snapshot : DurableJobSnapshot) (claim : WorkerClaim) : Bool :=
  claim.jobId = snapshot.jobId && claim.workerToken = snapshot.workerToken

/-- `max(0, now - updated_at_ms) <= limit`. -/
def withinAge (now updatedAtMs limit : Int) : Bool := max 0 (now - updatedAtMs) ≤ limit

def ofPid (pid : Option Int) : Value := (pid.map .int).getD .none

namespace Supervisor

variable (sup : Supervisor)

variable (snapshot : DurableJobSnapshot)

/-- `_heartbeat_is_fresh`. -/
def heartbeatIsFresh (heartbeat : Option Heartbeat) : Prog jobInterface PyError Bool :=
  match heartbeat with
  | none => return false
  | some heartbeat =>
    if heartbeat.workerToken ≠ snapshot.workerToken || heartbeat.workerPid ≤ 0
        || snapshot.workerPid.any (· ≠ heartbeat.workerPid) then return false
    else do
      let now ← ask .nowMs
      return withinAge now heartbeat.updatedAtMs sup.heartbeatStaleMs

/-- `_suspect_grace_elapsed`. -/
def suspectGraceElapsed (heartbeat : Option Heartbeat) (reason claimId : String) :
    Prog jobInterface PyError Bool := do
  let signature : Signature :=
    [.str snapshot.status.text, .int snapshot.revision, .str snapshot.workerToken,
      ofPid snapshot.workerPid, .str reason, .str claimId,
      ofPid (heartbeat.map (·.workerPid)), .int ((heartbeat.map (·.heartbeatSeq)).getD 0),
      ofPid (heartbeat.map (·.updatedAtMs))]
  let now ← ask .monotonic
  match ← ask .suspicion with
  | none => do
    ask (.setSuspicion signature now)
    return false
  | some (seen, first) =>
    if seen ≠ signature then do
      ask (.setSuspicion signature now)
      return false
    else return sup.graceElapsed now first sup.suspectGraceMs

/-- `_persist_outcome_unknown`. -/
def persistOutcomeUnknown (reason : String) (recheckHeartbeat : Bool) (heartbeat : Option Heartbeat)
    (expectedClaimId : Option String) : Prog jobInterface PyError DurableJobSnapshot := do
  let staleBefore ← (do
    if recheckHeartbeat then
      let now ← ask .nowMs
      return some (max 0 (now - sup.heartbeatStaleMs))
    else return none)
  let result ← ask (.transitionToOutcomeUnknown snapshot.executionId {
    expectedRevision := snapshot.revision
    expectedStatus := snapshot.status.text
    reason := reason
    error := "cannot safely prove the detached worker state"
    heartbeatStaleBeforeMs := staleBefore
    expectedHeartbeatSeq :=
      if recheckHeartbeat then some ((heartbeat.map (·.heartbeatSeq)).getD 0) else none
    expectedClaimId := expectedClaimId })
  ask .clearSuspicion
  return result

/-- `_spawn_worker`; the wrapper it starts runs on its own. -/
def spawnWorker : Prog jobInterface PyError Unit := do
  if ← ask .closed then return ()
  else if snapshot.environmentDigest ≠ sup.environmentDigest then
    .raise (conflictError
      "queued durable job environment profile does not match the current supervisor")
  else if ← ask .wrapperRunning then return ()
  else
    let now ← ask .monotonic
    let last ← ask .lastSpawnAt
    if sup.coolingDown now last sup.launchGraceMs then return ()
    else
      ask (.setLastSpawnAt now)
      ask (.popenWrapper snapshot.workerToken)

/-- The rest of `_reconcile` for a queued job with a claim. -/
def reconcileClaim (allowLaunch : Bool) (heartbeat : Option Heartbeat) (heartbeatFresh : Bool)
    (claim : WorkerClaim) : Prog jobInterface PyError DurableJobSnapshot := do
  if !claimMatches snapshot claim then
    sup.persistOutcomeUnknown snapshot "worker_claim_invalid" false heartbeat none
  else if heartbeatFresh then
    ask .clearSuspicion
    return snapshot
  else if (← ask .nowMs) - claim.claimedAtMs ≤ sup.launchGraceMs then
    ask .clearSuspicion
    return snapshot
  else if claim.workerPid ≤ 0 then
    sup.persistOutcomeUnknown snapshot "worker_claim_invalid" false heartbeat none
  else if ← ask (.pidMayBeAlive claim.workerPid) then
    if !(← sup.suspectGraceElapsed snapshot heartbeat "worker_heartbeat_lost_before_launch"
        claim.claimId) then return snapshot
    else
      sup.persistOutcomeUnknown snapshot "worker_heartbeat_lost_before_launch" true heartbeat
        (some claim.claimId)
  else
    ask .clearSuspicion
    if !allowLaunch then return snapshot
    else if ← ask (.clearStaleClaim snapshot.workerToken claim) then
      sup.spawnWorker snapshot
      ask (.load snapshot.executionId)
    else return snapshot

/-- `_reconcile`. -/
def reconcile (allowLaunch : Bool) : Prog jobInterface PyError DurableJobSnapshot := do
  if snapshot.completed then
    ask .clearSuspicion
    return snapshot
  else
    let heartbeat ← ask .readHeartbeat
    let heartbeatFresh ← sup.heartbeatIsFresh snapshot heartbeat
    if snapshot.status = .starting || snapshot.status = .running then
      if heartbeatFresh then
        ask .clearSuspicion
        return snapshot
      else if (← ask .nowMs) - snapshot.updatedAtMs ≤ sup.launchGraceMs then
        ask .clearSuspicion
        return snapshot
      else if !(← sup.suspectGraceElapsed snapshot heartbeat "worker_heartbeat_lost" "") then
        return snapshot
      else
        sup.persistOutcomeUnknown snapshot "worker_heartbeat_lost" true heartbeat none
    else if snapshot.status ≠ .queued then return snapshot
    else
      match ← ask .readClaim with
      | none =>
        ask .clearSuspicion
        if allowLaunch then
          sup.spawnWorker snapshot
          ask (.load snapshot.executionId)
        else return snapshot
      | some claim =>
        sup.reconcileClaim snapshot allowLaunch heartbeat heartbeatFresh claim

end Supervisor

end Unchain.Jobs
