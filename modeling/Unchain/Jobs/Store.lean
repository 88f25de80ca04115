import Unchain.Jobs.Models

/-!
The operations of `JsonFileJobStore` on one job.

Each runs under the lock of the job, so it is a function of the job's files. All but the
reservation raise before they write, and write one file; the reservation writes up to three and
may raise between them. The clock and the generated ids are arguments.
-/

namespace Unchain.Jobs

open Lib Lib.Effect Python

structure JobStore where
  host : JobHost
  storeId : String

/-- `now_ms`. -/
def nowMs : Value → Except PyError Int
  | .int n =>
    if n < 0 then .error (.typeError "clock_ms must return a non-negative integer timestamp")
    else .ok n
  | _ => .error (.typeError "clock_ms must return a non-negative integer timestamp")

/-- `_required_text`. -/
def requiredText (field value : String) : Except PyError String :=
  if (strip value).isEmpty then .error (.valueError (field ++ " must be a non-empty string"))
  else .ok (strip value)

/-! ### Reading -/

/-- `_ensure_owner`. -/
def ensureOwner (spec : JobSpec) (executionId : String) : Except PyError Unit :=
  raiseIf (spec.executionId ≠ executionId) (ownershipError spec.jobId)

/-- `_ensure_worker_token_matches`. -/
def ensureWorkerTokenMatches (spec : JobSpec) (state : JobState) : Except PyError Unit := do
  raiseIf (state.workerToken ≠ spec.workerToken)
    (corruptionError "durable job state worker token does not match its immutable spec")
  raiseIf (state.createdAtMs ≠ spec.createdAtMs)
    (corruptionError "durable job state creation timestamp does not match its immutable spec")

/-- `_read_state`. -/
def readState (jobId : String) (f : JobFiles) : Except PyError JobState :=
  match f.state with
  | none => .error (fileNotFoundError "state.json")
  | some state => do
    state.validate jobId
    return state

/-- `_read_cursor`. -/
def readCursor (jobId : String) (f : JobFiles) : Except PyError LogCursor :=
  match f.cursor with
  | none => .error (fileNotFoundError "cursor.json")
  | some cursor => do
    cursor.validate jobId
    return cursor

namespace JobStore

variable (store : JobStore)

/-- `_assert_store_identity`. -/
def assertStoreIdentity (f : JobFiles) : Except PyError Unit :=
  match f.manifest with
  | none => .error (corruptionError "durable job store manifest is missing")
  | some manifest => do
    manifest.validate
    raiseIf (manifest.storeId ≠ store.storeId)
      (corruptionError "durable job store identity changed while the store was open")

/-- `_paths`. -/
def paths (jobId : String) (f : JobFiles) : Except PyError Unit := do
  store.assertStoreIdentity f
  raiseIf (!isJobId jobId) (notFoundError jobId)

/-- `_read_spec`. -/
def readSpec (jobId : String) (f : JobFiles) : Except PyError JobSpec :=
  match f.spec with
  | none => .error (fileNotFoundError "spec.json")
  | some spec => do
    spec.validate store.host store.storeId jobId
    return spec

/-- How every locked section begins. -/
def enter (jobId : String) (f : JobFiles) : Except PyError JobSpec := do
  store.paths jobId f
  store.assertStoreIdentity f
  store.readSpec jobId f

/-- `load`. -/
def load (jobId executionId : String) (f : JobFiles) : Except PyError DurableJobSnapshot := do
  store.paths jobId f
  raiseIf (f.spec.isNone || f.state.isNone) (notFoundError jobId)
  let spec ← store.enter jobId f
  ensureOwner spec executionId
  let state ← readState jobId f
  ensureWorkerTokenMatches spec state
  return snapshot spec state

/-- `load_spec`. -/
def loadSpec (jobId : String) (f : JobFiles) : Except PyError JobSpec := do
  store.paths jobId f
  raiseIf f.spec.isNone (notFoundError jobId)
  store.enter jobId f

/-- `read_claim`. -/
def readClaim (jobId : String) (f : JobFiles) : Except PyError (Option WorkerClaim) := do
  let spec ← store.enter jobId f
  match f.claim with
  | none => return none
  | some claim => do
    claim.validate jobId
    raiseIf (claim.workerToken ≠ spec.workerToken)
      (corruptionError
        "durable job worker claim token does not match its immutable spec")
    return some claim

/-- `worker_claim_is_current`. -/
def workerClaimIsCurrent (jobId workerToken : String) (workerPid : Int) (f : JobFiles) :
    Except PyError Bool := do
  match ← store.readClaim jobId f with
  | none => return false
  | some claim => return claim.workerToken = workerToken && claim.workerPid = workerPid

/-- `read_heartbeat`. -/
def readHeartbeat (jobId : String) (f : JobFiles) : Except PyError (Option Heartbeat) := do
  let spec ← store.enter jobId f
  match f.heartbeat with
  | none => return none
  | some heartbeat => do
    heartbeat.validate jobId spec
    return some heartbeat

/-- `cancel_requested`. -/
def cancelRequested (jobId : String) (f : JobFiles) : Except PyError Bool := do
  let spec ← store.enter jobId f
  match f.cancel with
  | none => return false
  | some marker => do
    raiseIf (marker.schemaVersion ≠ jobSchemaVersion || marker.jobId ≠ jobId
        || marker.executionId ≠ spec.executionId)
      (corruptionError "durable job cancel marker identity is invalid")
    raiseIf (negative marker.requestedAtMs)
      (corruptionError "durable job cancel marker timestamp is invalid")
    return true

end JobStore

/-! ### The state file -/

/-- The fields of the state that `update_state` may be given. -/
def allowedUpdates : List String :=
  ["worker_pid", "child_pid", "returncode", "timed_out", "cancelled", "outcome_unknown_reason",
    "error", "stdout_truncated", "stderr_truncated"]

def stateFieldError (field : String) : PyError :=
  corruptionError ("durable job state " ++ field ++ " is invalid")

section Updates

variable (updates : Dict) (field : String)

/-- A field of `{**state, **updates}` that holds an integer or `None`. -/
def updatedInt (current : Option Int) : Except PyError (Option Int) :=
  match Assoc.get field updates with
  | none => .ok current
  | some .none => .ok none
  | some (.int n) => .ok (some n)
  | some _ => .error (stateFieldError field)

/-- A field that holds a process id or `None`. -/
def updatedPid (current : Option Int) : Except PyError (Option Int) := do
  let pid ← updatedInt updates field current
  raiseIf (notPositive pid) (stateFieldError field)
  return pid

def updatedBool (current : Bool) : Except PyError Bool :=
  match Assoc.get field updates with
  | none => .ok current
  | some (.bool b) => .ok b
  | some _ => .error (stateFieldError field)

def updatedText (current : String) : Except PyError String :=
  match Assoc.get field updates with
  | none => .ok current
  | some (.str s) => .ok s
  | some _ => .error (stateFieldError field)

end Updates

/-- `{**next, **updates}`, with `_validate_state` of it. The fields that the updates may change
are checked after all the others. -/
def JobState.updated (jobId : String) (updates : Dict) (next : JobState) :
    Except PyError JobState := do
  next.validate jobId
  let workerPid ← updatedPid updates "worker_pid" next.workerPid
  let childPid ← updatedPid updates "child_pid" next.childPid
  let returncode ← updatedInt updates "returncode" next.returncode
  let timedOut ← updatedBool updates "timed_out" next.timedOut
  let cancelled ← updatedBool updates "cancelled" next.cancelled
  let stdoutTruncated ← updatedBool updates "stdout_truncated" next.stdoutTruncated
  let stderrTruncated ← updatedBool updates "stderr_truncated" next.stderrTruncated
  let outcomeUnknownReason ← updatedText updates "outcome_unknown_reason" next.outcomeUnknownReason
  let error ← updatedText updates "error" next.error
  return { next with
    workerPid, childPid, returncode, timedOut, cancelled, stdoutTruncated, stderrTruncated,
    outcomeUnknownReason, error }

/-- `str(status or state["status"])`. -/
def nextStatusText (status : Option String) (current : JobStatus) : String :=
  match status with
  | none => current.text
  | some text => if text.isEmpty then current.text else text

namespace JobStore

variable (store : JobStore)

/-- `update_state`. -/
def updateState (jobId workerToken : String) (status : Option String) (updates : Dict)
    (clock : Value) (f : JobFiles) : Except PyError (DurableJobSnapshot × JobFiles) := do
  let spec ← store.enter jobId f
  raiseIf (spec.workerToken ≠ workerToken)
    (conflictError "durable job worker token does not match")
  let state ← readState jobId f
  ensureWorkerTokenMatches spec state
  let nextStatus ← validateTransition state.status (nextStatusText status state.status)
  let unknown := (Assoc.keys updates).filter fun field => !allowedUpdates.contains field
  raiseIf (!unknown.isEmpty) (.valueError ("unsupported durable job state fields: ['"
    ++ "', '".intercalate (unknown.mergeSort (· ≤ ·)) ++ "']"))
  let now ← nowMs clock
  let next ← JobState.updated jobId updates { state with
    status := nextStatus, updatedAtMs := now, revision := state.revision + 1 }
  return (snapshot spec next, { f with state := some next })

/-- The arguments of `transition_to_outcome_unknown` beside the job and its owner. -/
structure OutcomeUnknown where
  expectedRevision : Int
  expectedStatus : String
  reason : String
  error : String
  heartbeatStaleBeforeMs : Option Int
  expectedHeartbeatSeq : Option Int
  expectedClaimId : Option String

/-- The claim that the transition compares with, unless it is another generation. -/
def expectedClaim (jobId : String) (expected : Option String) (f : JobFiles) :
    Except PyError (Option (Option WorkerClaim)) :=
  match expected with
  | none => .ok (some none)
  | some claimId =>
    match f.claim with
    | none => .ok none
    | some claim => do
      claim.validate jobId
      return if claim.claimId = claimId then some (some claim) else none

/-- Whether the heartbeat is the expected one and old enough. -/
def leaseExpired (jobId : String) (spec : JobSpec) (state : JobState) (claim : Option WorkerClaim)
    (staleBefore seq : Option Int) (f : JobFiles) : Except PyError Bool :=
  if staleBefore.isNone && seq.isNone then .ok true
  else
    match f.heartbeat with
    | none => .ok (seq.all (· = 0))
    | some heartbeat => do
      heartbeat.validate jobId spec
      if seq.any (· ≠ heartbeat.heartbeatSeq) then return false
      match staleBefore with
      | none => return true
      | some cutoff =>
        return !(some heartbeat.workerPid = state.workerPid.orElse (fun _ => claim.map (·.workerPid))
          && cutoff ≤ heartbeat.updatedAtMs)

/-- `transition_to_outcome_unknown`. -/
def transitionToOutcomeUnknown (jobId executionId : String) (args : OutcomeUnknown)
    (clock : Value) (f : JobFiles) : Except PyError (DurableJobSnapshot × JobFiles) := do
  raiseIf (negative args.expectedRevision)
    (.valueError "expected_revision must be a non-negative integer")
  raiseIf (JobStatus.ofText? args.expectedStatus).isNone (.valueError "expected_status is invalid")
  let reason ← requiredText "reason" args.reason
  let error ← requiredText "error" args.error
  raiseIf (args.heartbeatStaleBeforeMs.any negative)
    (.valueError "heartbeat_stale_before_ms must be a non-negative integer")
  raiseIf (args.expectedHeartbeatSeq.any negative)
    (.valueError "expected_heartbeat_seq must be a non-negative integer")
  raiseIf (args.expectedClaimId.any (!isHex 32 ·))
    (.valueError "expected_claim_id must be a claim generation")
  let spec ← store.enter jobId f
  ensureOwner spec executionId
  let state ← readState jobId f
  ensureWorkerTokenMatches spec state
  if state.status.terminal then return (snapshot spec state, f)
  else if state.revision ≠ args.expectedRevision || state.status.text ≠ args.expectedStatus then
    return (snapshot spec state, f)
  else
    match ← expectedClaim jobId args.expectedClaimId f with
    | none => return (snapshot spec state, f)
    | some claim =>
      if ← leaseExpired jobId spec state claim args.heartbeatStaleBeforeMs
          args.expectedHeartbeatSeq f then
        let nextStatus ← validateTransition state.status "outcome_unknown"
        let now ← nowMs clock
        let next := { state with
          status := nextStatus, outcomeUnknownReason := reason, error := error,
          returncode := none, updatedAtMs := max state.updatedAtMs now,
          revision := state.revision + 1 }
        next.validate jobId
        return (snapshot spec next, { f with state := some next })
      else return (snapshot spec state, f)

/-! ### The claim, the heartbeat and the cancel marker -/

/-- `claim_worker`; `generated` is the fresh claim id. -/
def claimWorker (jobId workerToken : String) (workerPid : Int) (generated : String)
    (clock : Value) (f : JobFiles) : Except PyError (Bool × JobFiles) := do
  raiseIf (workerPid ≤ 0) (.valueError "worker_pid must be a positive integer")
  let spec ← store.enter jobId f
  raiseIf (spec.workerToken ≠ workerToken)
    (conflictError "durable job worker token does not match")
  let state ← readState jobId f
  ensureWorkerTokenMatches spec state
  if state.status ≠ .queued || f.claim.isSome then return (false, f)
  else
    let now ← nowMs clock
    return (true, { f with
      claim := some ⟨jobSchemaVersion, jobId, workerToken, generated, workerPid, now⟩ })

/-- `clear_stale_claim`. -/
def clearStaleClaim (jobId workerToken : String) (expected : WorkerClaim) (f : JobFiles) :
    Except PyError (Bool × JobFiles) := do
  expected.validate jobId
  if expected.workerToken ≠ workerToken then return (false, f)
  else
    let spec ← store.enter jobId f
    if spec.workerToken ≠ workerToken then return (false, f)
    else
      let state ← readState jobId f
      ensureWorkerTokenMatches spec state
      if state.status ≠ .queued then return (false, f)
      else
        match f.claim with
        | none => return (false, f)
        | some claim => do
          claim.validate jobId
          if claim.workerToken ≠ workerToken || claim ≠ expected then return (false, f)
          else return (true, { f with claim := none })

/-- The sequence number of the heartbeat that is there. -/
def previousSeq (jobId : String) (spec : JobSpec) (f : JobFiles) : Except PyError Int :=
  match f.heartbeat with
  | none => .ok 0
  | some heartbeat => do
    heartbeat.validate jobId spec
    return heartbeat.heartbeatSeq

/-- `write_heartbeat`. -/
def writeHeartbeat (jobId workerToken : String) (workerPid : Int) (clock : Value) (f : JobFiles) :
    Except PyError (Bool × JobFiles) := do
  raiseIf (workerPid ≤ 0) (.valueError "worker_pid must be a positive integer")
  let spec ← store.enter jobId f
  raiseIf (spec.workerToken ≠ workerToken)
    (conflictError "durable job worker token does not match")
  let state ← readState jobId f
  ensureWorkerTokenMatches spec state
  if state.status.terminal then return (false, f)
  else
    match f.claim with
    | none => .error (conflictError "durable job heartbeat requires a current worker claim")
    | some claim => do
      claim.validate jobId
      raiseIf (claim.workerToken ≠ workerToken || claim.workerPid ≠ workerPid)
        (conflictError "durable job heartbeat worker does not own the current claim")
      raiseIf (state.workerPid.any (· ≠ workerPid))
        (conflictError "durable job heartbeat worker does not match durable state")
      let previous ← previousSeq jobId spec f
      let now ← nowMs clock
      return (true, { f with
        heartbeat := some
          ⟨jobSchemaVersion, jobId, workerToken, workerPid, previous + 1, now⟩ })

/-- `request_cancel`. -/
def requestCancel (jobId executionId : String) (clock : Value) (f : JobFiles) :
    Except PyError (Unit × JobFiles) := do
  let spec ← store.enter jobId f
  ensureOwner spec executionId
  let now ← nowMs clock
  return ((), { f with cancel := some ⟨jobSchemaVersion, jobId, executionId, now⟩ })

/-! ### The reservation -/

/-- The arguments of `reserve_process_job`, the environment digest that
`JobEnvironmentProfile.capture` would give, and the fresh worker token. -/
structure Reservation where
  executionId : String
  adapter : String
  argv : List String
  cwd : String
  timeoutMs : Int
  idempotencyKey : String
  intentDigest : String
  maxLogBytes : Int
  environmentDigest : Option String
  capturedDigest : String
  generated : String

/-- A section that raises before it writes. -/
def atomically {α : Type} (op : JobFiles → Except PyError (α × JobFiles)) :
    EStateM PyError JobFiles α := fun f =>
  match op f with
  | .ok (a, f') => .ok a f'
  | .error e => .error e f

/-- `durable_job_id`. -/
def durableJobId (executionId idempotencyKey : String) : String :=
  "job_" ++ String.ofList ((store.host.sha256
    ("durable-process-job-v1\x00" ++ executionId ++ "\x00" ++ idempotencyKey)).toList.take 32)

/-- The launch artifacts, which exist only after a launch could have begun. -/
def launched (f : JobFiles) : Bool :=
  f.claim.isSome || f.heartbeat.isSome || f.cancel.isSome || f.stdout.isSome || f.stderr.isSome

def initialState (spec : JobSpec) : JobState where
  schemaVersion := jobSchemaVersion
  jobId := spec.jobId
  status := .queued
  createdAtMs := spec.createdAtMs
  updatedAtMs := spec.createdAtMs
  revision := 0
  workerToken := spec.workerToken
  workerPid := none
  childPid := none
  returncode := none
  timedOut := false
  cancelled := false
  outcomeUnknownReason := ""
  error := ""
  stdoutTruncated := false
  stderrTruncated := false

/-- The first half of `_ensure_initial_files`. -/
def ensureState (spec : JobSpec) (f : JobFiles) : Except PyError (Unit × JobFiles) :=
  if f.state.isSome then .ok ((), f)
  else do
    raiseIf (launched f)
      (corruptionError "durable job state is missing after launch artifacts were created")
    return ((), { f with state := some (initialState spec) })

/-- The second half of `_ensure_initial_files`. -/
def ensureCursor (spec : JobSpec) (f : JobFiles) : Except PyError (Unit × JobFiles) :=
  if f.cursor.isSome then .ok ((), f)
  else do
    let state ← readState spec.jobId f
    raiseIf (state.status ≠ .queued || state.revision ≠ 0 || launched f)
      (corruptionError "durable job cursor is missing after launch could have begun")
    return ((), { f with cursor := some ⟨jobSchemaVersion, spec.jobId, 0, 0, 0⟩ })

def reserveSpec (jobId : String) (spec : JobSpec) (clock : Value) (f : JobFiles) :
    Except PyError ((JobSpec × Bool) × JobFiles) := do
  store.assertStoreIdentity f
  if f.spec.isSome then
    let bound ← store.readSpec jobId f
    raiseIf (bound.requestDigest ≠ spec.requestDigest)
      (conflictError
        "the durable job idempotency key is already bound to a different intent")
    return ((bound, false), f)
  else
    let now ← nowMs clock
    let created := { spec with createdAtMs := now }
    return ((created, true), { f with spec := some created })

/-- The spec that the arguments describe, with the checks on them; its creation time is filled in
under the lock. -/
def reservedSpec (args : Reservation) : Except PyError JobSpec := do
  let executionId ← requiredText "execution_id" args.executionId
  let adapter ← requiredText "adapter" args.adapter
  let idempotencyKey ← requiredText "idempotency_key" args.idempotencyKey
  let intentDigest ← requiredText "intent_digest" args.intentDigest
  raiseIf (!isHex 64 intentDigest)
    (.valueError "intent_digest must be a lowercase SHA-256 digest")
  let given := strip (args.environmentDigest.getD "")
  let environmentDigest := if given.isEmpty then args.capturedDigest else given
  raiseIf (!isHex 64 environmentDigest)
    (.valueError "environment_digest must be a lowercase SHA-256 digest")
  raiseIf args.argv.isEmpty (.valueError "argv must be a non-empty list of strings")
  let cwd ← requiredText "cwd" args.cwd
  raiseIf (!isAbsolute cwd) (.valueError "cwd must be absolute")
  raiseIf (args.timeoutMs ≤ 0) (.valueError "timeout_ms must be a positive integer")
  raiseIf (args.maxLogBytes ≤ 0) (.valueError "max_log_bytes must be a positive integer")
  let spec : JobSpec := {
    schemaVersion := jobSchemaVersion
    jobId := store.durableJobId executionId idempotencyKey
    storeId := store.storeId
    executionId := executionId
    adapter := adapter
    argv := args.argv
    cwd := pathText cwd
    timeoutMs := args.timeoutMs
    idempotencyDigest := store.host.digest (.str idempotencyKey)
    intentDigest := intentDigest
    environmentDigest := environmentDigest
    maxLogBytes := args.maxLogBytes
    requestDigest := ""
    workerToken := args.generated
    createdAtMs := 0 }
  return { spec with requestDigest := store.host.digest spec.request }

/-- `reserve_process_job`, on the files of the job it names. -/
def reserveProcessJob (args : Reservation) (clock : Value) :
    EStateM PyError JobFiles (DurableJobSnapshot × Bool) := do
  let wanted ← lift (store.reservedSpec args)
  lift (store.paths wanted.jobId (← get))
  let (spec, created) ← atomically (store.reserveSpec wanted.jobId wanted clock)
  atomically (ensureState spec)
  atomically (ensureCursor spec)
  let loaded ← lift (store.load wanted.jobId wanted.executionId (← get))
  return (loaded, created)

/-! ### What each operation can do -/

section Specs

variable {store : JobStore} {jobId executionId workerToken : String} {clock : Value}
  {f f' : JobFiles} {state : JobState}

theorem readState_spec (h : readState jobId f = .ok state) : f.state = some state := by
  unfold readState at h
  cases found : f.state with
  | none =>
    rw [found] at h
    cases h
  | some there =>
    rw [found] at h
    obtain ⟨_, -, h⟩ := bind_ok h
    cases h
    rfl

variable {updates : Dict}

theorem updated_spec {next s : JobState} (h : JobState.updated jobId updates next = .ok s) :
    s.status = next.status ∧ s.revision = next.revision := by
  iterate 10 obtain ⟨_, -, h⟩ := bind_ok h
  cases h
  exact ⟨rfl, rfl⟩

/-- `update_state` writes the state: its status moves as declared, its revision goes up by one. -/
theorem updateState_spec {status : Option String} {result : DurableJobSnapshot}
    (h : store.updateState jobId workerToken status updates clock f = .ok (result, f')) :
    ∃ s s', f.state = some s ∧ f' = { f with state := some s' } ∧ s.status.Moves s'.status ∧
      validateTransition s.status (nextStatusText status s.status) = .ok s'.status ∧
      s'.revision = s.revision + 1 := by
  obtain ⟨spec, -, h⟩ := bind_ok h
  obtain ⟨-, h⟩ := raiseIf_bind_ok h
  obtain ⟨state, read, h⟩ := bind_ok h
  obtain ⟨_, -, h⟩ := bind_ok h
  obtain ⟨nextStatus, valid, h⟩ := bind_ok h
  obtain ⟨-, h⟩ := raiseIf_bind_ok h
  obtain ⟨now, -, h⟩ := bind_ok h
  obtain ⟨next, updated, h⟩ := bind_ok h
  cases h
  obtain ⟨sameStatus, sameRevision⟩ :
      next.status = nextStatus ∧ next.revision = state.revision + 1 := updated_spec updated
  have moves := validateTransition_moves valid
  rw [← sameStatus] at moves valid
  exact ⟨state, next, readState_spec read, rfl, moves, valid, sameRevision⟩

/-- The conditions that `transition_to_outcome_unknown` was given hold of the files. -/
structure OutcomeUnknown.Holds (args : OutcomeUnknown) (s : JobState) (f : JobFiles) : Prop where
  status : s.status.text = args.expectedStatus
  revision : s.revision = args.expectedRevision
  claim : ∀ claimId, args.expectedClaimId = some claimId →
    ∃ claim, f.claim = some claim ∧ claim.claimId = claimId
  heartbeat : ∀ seq, args.expectedHeartbeatSeq = some seq →
    seq = (f.heartbeat.map (·.heartbeatSeq)).getD 0
  stale : ∀ cutoff heartbeat, args.heartbeatStaleBeforeMs = some cutoff →
    f.heartbeat = some heartbeat → s.workerPid = some heartbeat.workerPid →
    heartbeat.updatedAtMs < cutoff

variable {claim : Option WorkerClaim}

theorem expectedClaim_spec {expected : Option String}
    (h : expectedClaim jobId expected f = .ok (some claim)) (claimId : String)
    (given : expected = some claimId) : ∃ c, f.claim = some c ∧ c.claimId = claimId := by
  subst given
  unfold expectedClaim at h
  cases found : f.claim with
  | none =>
    rw [found] at h
    cases h
  | some c =>
    rw [found] at h
    obtain ⟨_, -, h⟩ := bind_ok h
    by_cases same : c.claimId = claimId
    · exact ⟨c, rfl, same⟩
    · simp [same, pure, Except.pure] at h

variable {spec : JobSpec}

theorem leaseExpired_spec {staleBefore seq : Option Int}
    (h : leaseExpired jobId spec state claim staleBefore seq f = .ok true) :
    (∀ n, seq = some n → n = (f.heartbeat.map (·.heartbeatSeq)).getD 0) ∧
      ∀ cutoff heartbeat, staleBefore = some cutoff → f.heartbeat = some heartbeat →
        state.workerPid = some heartbeat.workerPid → heartbeat.updatedAtMs < cutoff := by
  unfold leaseExpired at h
  by_cases absent : (staleBefore.isNone && seq.isNone) = true
  · simp only [Bool.and_eq_true, Option.isNone_iff_eq_none] at absent
    simp [absent.1, absent.2]
  · rw [if_neg absent] at h
    cases found : f.heartbeat with
    | none =>
      rw [found] at h
      cases h' : seq with
      | none => simp
      | some n => simpa [h'] using h
    | some heartbeat =>
      rw [found] at h
      obtain ⟨_, -, h⟩ := bind_ok h
      by_cases other : (seq.any (· ≠ heartbeat.heartbeatSeq)) = true
      · rw [if_pos other] at h
        cases h
      · rw [if_neg other] at h
        have same : ∀ n, seq = some n → n = heartbeat.heartbeatSeq := by
          intro n given
          by_contra ne
          exact other (by simp [given, ne])
        refine ⟨by simpa using same, ?_⟩
        rintro cutoff _ rfl ⟨⟩ own
        simp only [own, pure, Except.pure] at h
        simpa using h

/-- `transition_to_outcome_unknown` leaves the files as they are, or writes the state from a
status that is not terminal while all its conditions hold. -/
theorem transitionToOutcomeUnknown_spec {args : OutcomeUnknown} {result : DurableJobSnapshot}
    (h : store.transitionToOutcomeUnknown jobId executionId args clock f = .ok (result, f')) :
    f' = f ∨ ∃ s s', f.state = some s ∧ f' = { f with state := some s' } ∧
      s.status.terminal = false ∧ args.Holds s f ∧ s.status.Moves s'.status ∧
      s'.status = .outcomeUnknown ∧ s'.revision = s.revision + 1 := by
  obtain ⟨-, h⟩ := raiseIf_bind_ok h
  obtain ⟨-, h⟩ := raiseIf_bind_ok h
  obtain ⟨reason, -, h⟩ := bind_ok h
  obtain ⟨error, -, h⟩ := bind_ok h
  obtain ⟨-, h⟩ := raiseIf_bind_ok h
  obtain ⟨-, h⟩ := raiseIf_bind_ok h
  obtain ⟨-, h⟩ := raiseIf_bind_ok h
  obtain ⟨spec, -, h⟩ := bind_ok h
  obtain ⟨_, -, h⟩ := bind_ok h
  obtain ⟨state, read, h⟩ := bind_ok h
  obtain ⟨_, -, h⟩ := bind_ok h
  by_cases terminal : state.status.terminal = true
  · rw [if_pos terminal] at h
    cases h
    exact .inl rfl
  rw [if_neg terminal] at h
  by_cases moved : (decide (state.revision ≠ args.expectedRevision)
      || decide (state.status.text ≠ args.expectedStatus)) = true
  · rw [if_pos moved] at h
    cases h
    exact .inl rfl
  rw [if_neg moved] at h
  obtain ⟨claim, compared, h⟩ := bind_ok h
  cases claim with
  | none =>
    cases h
    exact .inl rfl
  | some claim =>
    obtain ⟨expired, lease, h⟩ := bind_ok h
    cases expired with
    | false =>
      cases h
      exact .inl rfl
    | true =>
      obtain ⟨nextStatus, valid, h⟩ := bind_ok h
      obtain ⟨now, -, h⟩ := bind_ok h
      obtain ⟨_, -, h⟩ := bind_ok h
      cases h
      simp only [ne_eq, Bool.or_eq_true, decide_eq_true_eq, not_or, not_not] at moved
      obtain ⟨seq, stale⟩ := leaseExpired_spec lease
      refine .inr ⟨state, _, readState_spec read, rfl, by simpa using terminal,
        ⟨moved.2, moved.1, expectedClaim_spec compared, seq, stale⟩,
        validateTransition_moves valid, ?_, rfl⟩
      exact validateTransition_text valid rfl

variable {workerPid : Int}

/-- `claim_worker` returns false and writes nothing, or writes the claim of a queued job that has
none. -/
theorem claimWorker_spec {generated : String} {claimed : Bool}
    (h : store.claimWorker jobId workerToken workerPid generated clock f = .ok (claimed, f')) :
    claimed = false ∧ f' = f ∨
      claimed = true ∧ f.claim = none ∧ (∃ s, f.state = some s ∧ s.status = .queued) ∧
        ∃ now, f' = { f with
          claim := some ⟨jobSchemaVersion, jobId, workerToken, generated, workerPid, now⟩ } := by
  obtain ⟨-, h⟩ := raiseIf_bind_ok h
  obtain ⟨spec, -, h⟩ := bind_ok h
  obtain ⟨-, h⟩ := raiseIf_bind_ok h
  obtain ⟨state, read, h⟩ := bind_ok h
  obtain ⟨_, -, h⟩ := bind_ok h
  by_cases taken : (decide (state.status ≠ .queued) || f.claim.isSome) = true
  · rw [if_pos taken] at h
    cases h
    exact .inl ⟨rfl, rfl⟩
  · rw [if_neg taken] at h
    obtain ⟨now, -, h⟩ := bind_ok h
    cases h
    simp only [ne_eq, Bool.or_eq_true, decide_eq_true_eq, not_or, not_not, Bool.not_eq_true,
      Option.isSome_eq_false_iff, Option.isNone_iff_eq_none] at taken
    exact .inr ⟨rfl, taken.2, ⟨state, readState_spec read, taken.1⟩, now, rfl⟩

/-- `clear_stale_claim` returns false and writes nothing, or removes the very claim it was given
from a queued job. -/
theorem clearStaleClaim_spec {expected : WorkerClaim} {cleared : Bool}
    (h : store.clearStaleClaim jobId workerToken expected f = .ok (cleared, f')) :
    cleared = false ∧ f' = f ∨
      cleared = true ∧ f.claim = some expected ∧ (∃ s, f.state = some s ∧ s.status = .queued) ∧
        f' = { f with claim := none } := by
  obtain ⟨_, -, h⟩ := bind_ok h
  by_cases otherToken : expected.workerToken ≠ workerToken
  · rw [if_pos otherToken] at h
    cases h
    exact .inl ⟨rfl, rfl⟩
  rw [if_neg otherToken] at h
  obtain ⟨spec, -, h⟩ := bind_ok h
  by_cases otherSpec : spec.workerToken ≠ workerToken
  · rw [if_pos otherSpec] at h
    cases h
    exact .inl ⟨rfl, rfl⟩
  rw [if_neg otherSpec] at h
  obtain ⟨state, read, h⟩ := bind_ok h
  obtain ⟨_, -, h⟩ := bind_ok h
  by_cases started : state.status ≠ .queued
  · rw [if_pos started] at h
    cases h
    exact .inl ⟨rfl, rfl⟩
  rw [if_neg started] at h
  cases found : f.claim with
  | none =>
    rw [found] at h
    cases h
    exact .inl ⟨rfl, rfl⟩
  | some claim =>
    rw [found] at h
    obtain ⟨_, -, h⟩ := bind_ok h
    by_cases other : (decide (claim.workerToken ≠ workerToken) || decide (claim ≠ expected)) = true
    · rw [if_pos other] at h
      cases h
      exact .inl ⟨rfl, rfl⟩
    · rw [if_neg other] at h
      cases h
      simp only [ne_eq, Bool.or_eq_true, decide_eq_true_eq, not_or, not_not] at other
      exact .inr ⟨rfl, by rw [other.2], ⟨state, readState_spec read, not_not.mp started⟩, rfl⟩

/-- `write_heartbeat` returns false and writes nothing, or writes the heartbeat of a job whose
status is not terminal. -/
theorem writeHeartbeat_spec {written : Bool}
    (h : store.writeHeartbeat jobId workerToken workerPid clock f = .ok (written, f')) :
    written = false ∧ f' = f ∨
      written = true ∧ (∃ s, f.state = some s ∧ s.status.terminal = false) ∧
        (∃ claim, f.claim = some claim ∧ claim.workerPid = workerPid) ∧
        ∃ heartbeat, f' = { f with heartbeat := some heartbeat } := by
  obtain ⟨-, h⟩ := raiseIf_bind_ok h
  obtain ⟨spec, -, h⟩ := bind_ok h
  obtain ⟨-, h⟩ := raiseIf_bind_ok h
  obtain ⟨state, read, h⟩ := bind_ok h
  obtain ⟨_, -, h⟩ := bind_ok h
  by_cases terminal : state.status.terminal = true
  · rw [if_pos terminal] at h
    cases h
    exact .inl ⟨rfl, rfl⟩
  · rw [if_neg terminal] at h
    cases found : f.claim with
    | none =>
      rw [found] at h
      cases h
    | some claim =>
      rw [found] at h
      obtain ⟨_, -, h⟩ := bind_ok h
      obtain ⟨owned, h⟩ := raiseIf_bind_ok h
      obtain ⟨-, h⟩ := raiseIf_bind_ok h
      obtain ⟨previous, -, h⟩ := bind_ok h
      obtain ⟨now, -, h⟩ := bind_ok h
      cases h
      simp only [ne_eq, Bool.or_eq_false_iff, decide_eq_false_iff_not, not_not] at owned
      exact .inr ⟨rfl, ⟨state, readState_spec read, by simpa using terminal⟩,
        ⟨claim, rfl, owned.2⟩, _, rfl⟩

variable {u : Unit}

/-- `request_cancel` writes the cancel marker. -/
theorem requestCancel_spec (h : store.requestCancel jobId executionId clock f = .ok (u, f')) :
    ∃ marker, f' = { f with cancel := some marker } := by
  obtain ⟨spec, -, h⟩ := bind_ok h
  obtain ⟨_, -, h⟩ := bind_ok h
  obtain ⟨now, -, h⟩ := bind_ok h
  cases h
  exact ⟨_, rfl⟩

/-- What a reservation does to the files: it writes the spec, the state and the cursor where they
are missing, and a state it writes is queued at revision 0. -/
structure Reserves (f f' : JobFiles) : Prop where
  state : f'.state = f.state ∨
    f.state = none ∧ ∃ s, f'.state = some s ∧ s.status = .queued ∧ s.revision = 0
  claim : f'.claim = f.claim
  heartbeat : f'.heartbeat = f.heartbeat

theorem Reserves.refl (f : JobFiles) : Reserves f f := ⟨.inl rfl, rfl, rfl⟩

theorem Reserves.trans {f g h : JobFiles} (first : Reserves f g) (second : Reserves g h) :
    Reserves f h := by
  refine ⟨?_, second.claim.trans first.claim, second.heartbeat.trans first.heartbeat⟩
  rcases second.state with same | ⟨absent, s, written, queued, zero⟩
  · rw [same]
    exact first.state
  · rcases first.state with same | ⟨_, s', there, _, _⟩
    · exact .inr ⟨same ▸ absent, s, written, queued, zero⟩
    · rw [there] at absent
      cases absent

/-- A section that writes as allowed when it returns does so when it raises. -/
theorem within_atomically {α : Type} {R : JobFiles → JobFiles → Prop} (refl : ∀ f, R f f)
    {op : JobFiles → Except PyError (α × JobFiles)}
    (h : ∀ f a f', op f = .ok (a, f') → R f f') : Within R (atomically op) := by
  intro f
  unfold atomically
  cases outcome : op f with
  | error e => exact refl f
  | ok result => exact h f result.1 result.2 outcome

theorem reserveSpec_reserves {result : JobSpec × Bool}
    (h : store.reserveSpec jobId spec clock f = .ok (result, f')) : Reserves f f' := by
  obtain ⟨_, -, h⟩ := bind_ok h
  by_cases there : f.spec.isSome = true
  · rw [if_pos there] at h
    obtain ⟨bound, -, h⟩ := bind_ok h
    obtain ⟨-, h⟩ := raiseIf_bind_ok h
    cases h
    exact .refl f
  · rw [if_neg there] at h
    obtain ⟨now, -, h⟩ := bind_ok h
    cases h
    exact ⟨.inl rfl, rfl, rfl⟩

theorem ensureState_reserves (h : ensureState spec f = .ok (u, f')) : Reserves f f' := by
  unfold ensureState at h
  by_cases there : f.state.isSome = true
  · rw [if_pos there] at h
    cases h
    exact .refl f
  · rw [if_neg there] at h
    obtain ⟨-, h⟩ := raiseIf_bind_ok h
    cases h
    simp only [Bool.not_eq_true, Option.isSome_eq_false_iff, Option.isNone_iff_eq_none] at there
    exact ⟨.inr ⟨there, _, rfl, rfl, rfl⟩, rfl, rfl⟩

theorem ensureCursor_reserves (h : ensureCursor spec f = .ok (u, f')) : Reserves f f' := by
  unfold ensureCursor at h
  by_cases there : f.cursor.isSome = true
  · rw [if_pos there] at h
    cases h
    exact .refl f
  · rw [if_neg there] at h
    obtain ⟨state, -, h⟩ := bind_ok h
    obtain ⟨-, h⟩ := raiseIf_bind_ok h
    cases h
    exact ⟨.inl rfl, rfl, rfl⟩

/-- A reservation, returned or raised, only completes the files. -/
theorem reserveProcessJob_reserves (store : JobStore) (args : Reservation) (clock : Value) :
    Within Reserves (store.reserveProcessJob args clock) := by
  have trans : ∀ f g h, Reserves f g → Reserves g h → Reserves f h := fun _ _ _ => Reserves.trans
  refine (within_lift Reserves.refl _).bind trans fun wanted => ?_
  refine Within.bind trans (within_get Reserves.refl) fun f => ?_
  refine (within_lift Reserves.refl _).bind trans fun _ => ?_
  refine (within_atomically Reserves.refl fun _ _ _ => reserveSpec_reserves).bind trans ?_
  rintro ⟨spec, created⟩
  refine (within_atomically Reserves.refl fun _ _ _ => ensureState_reserves).bind trans fun _ => ?_
  refine (within_atomically Reserves.refl fun _ _ _ => ensureCursor_reserves).bind trans fun _ => ?_
  refine Within.bind trans (within_get Reserves.refl) fun g => ?_
  refine (within_lift Reserves.refl _).bind trans fun loaded => ?_
  exact within_pure Reserves.refl _

end Specs

end JobStore

/-! ### A job -/

def greetHost : JobHost where
  digest v :=
    if v = .str "greet" then "cf8b38b5b4f6e7fbf0c50d07034767b4ae1cb0e36ae4a29120ffb489faed3a05"
    else "50c917a2a46b617ebec9ced057f81b473c4f4cc1d9206b05c5e6e11f4f417349"
  sha256 _ := "1e5ac779102b0c6e2cd583b76f5f67a9517ef7dd41bfb6200519837fafc1f8e5"

def greetStore : JobStore := ⟨greetHost, "0123456789abcdef0123456789abcdef"⟩

def greetJob : String := "job_1e5ac779102b0c6e2cd583b76f5f67a9"

def greetSpec : JobSpec where
  schemaVersion := 1
  jobId := greetJob
  storeId := "0123456789abcdef0123456789abcdef"
  executionId := "run-1"
  adapter := "local_process"
  argv := ["greet"]
  cwd := "/tmp"
  timeoutMs := 1000
  idempotencyDigest := "cf8b38b5b4f6e7fbf0c50d07034767b4ae1cb0e36ae4a29120ffb489faed3a05"
  intentDigest := "231bf89d726826891c1578a8ffe06ad898e70ecad4adb07668c2d9beca734b0c"
  environmentDigest := "739c2820094af233eb88471b7bf75a61df6c03a07c5e0d2ab9065211f9d344ef"
  maxLogBytes := 1024
  requestDigest := "50c917a2a46b617ebec9ced057f81b473c4f4cc1d9206b05c5e6e11f4f417349"
  workerToken := "00112233445566778899aabbccddeeff"
  createdAtMs := 5

/-- The files after the job has been reserved. -/
def greetFiles : JobFiles where
  manifest := some ⟨1, "0123456789abcdef0123456789abcdef", 0⟩
  spec := some greetSpec
  state := some (JobStore.initialState greetSpec)
  cursor := some ⟨1, greetJob, 0, 0, 0⟩
  claim := none
  heartbeat := none
  cancel := none
  stdout := none
  stderr := none

end Unchain.Jobs
