import Unchain.Lib.Effect
import Unchain.Lib.Utf8
import Unchain.Python.Builtins

/-!
The records of a durable job: the immutable launch spec, the mutable state, the worker's
claim and heartbeat, the cancel marker and the log cursor.

Each record stands for one JSON file of the job's directory. The type tests that the store
makes when it reads a file are in the types here; the tests on values are in the `validate`
functions.
-/

namespace Unchain.Jobs

open Lib Lib.Effect Python

abbrev Bytes := Utf8.Bytes

def jobSchemaVersion : Int := 1

/-- What is taken as it is: the digest of canonical JSON and the hexadecimal SHA-256 digest of a
text. -/
structure JobHost where
  digest : Value → String
  sha256 : String → String

inductive JobStatus where
  | queued
  | starting
  | running
  | completed
  | failed
  | timedOut
  | cancelled
  | outcomeUnknown
deriving DecidableEq

namespace JobStatus

def all : List JobStatus :=
  [.queued, .starting, .running, .completed, .failed, .timedOut, .cancelled, .outcomeUnknown]

def text : JobStatus → String
  | .queued => "queued"
  | .starting => "starting"
  | .running => "running"
  | .completed => "completed"
  | .failed => "failed"
  | .timedOut => "timed_out"
  | .cancelled => "cancelled"
  | .outcomeUnknown => "outcome_unknown"

def ofText? (s : String) : Option JobStatus := all.find? fun status => status.text = s

/-- `TERMINAL_JOB_STATUSES`. -/
def terminal : JobStatus → Bool
  | .queued => false
  | .starting => false
  | .running => false
  | _ => true

end JobStatus

/-! ### Errors -/

def conflictError (message : String) : PyError := .raised "DurableJobConflictError" message

variable (jobId : String)

def notFoundError : PyError :=
  .raised "DurableJobNotFoundError" ("durable job not found: " ++ jobId)

def fileNotFoundError (file : String) : PyError :=
  .raised "DurableJobNotFoundError" ("durable job file not found: " ++ file)

def ownershipError : PyError :=
  .raised "DurableJobOwnershipError" ("durable job not found: " ++ jobId)

def corruptionError (message : String) : PyError :=
  .raised "DurableJobStoreCorruptionError" message

/-! ### The files of a job -/

/-- `store.json`. -/
structure StoreManifest where
  schemaVersion : Int
  storeId : String
  createdAtMs : Int

structure JobSpec where
  schemaVersion : Int
  jobId : String
  storeId : String
  executionId : String
  adapter : String
  argv : List String
  cwd : String
  timeoutMs : Int
  idempotencyDigest : String
  intentDigest : String
  environmentDigest : String
  maxLogBytes : Int
  requestDigest : String
  workerToken : String
  createdAtMs : Int
deriving DecidableEq

structure JobState where
  schemaVersion : Int
  jobId : String
  status : JobStatus
  createdAtMs : Int
  updatedAtMs : Int
  revision : Int
  workerToken : String
  workerPid : Option Int
  childPid : Option Int
  returncode : Option Int
  timedOut : Bool
  cancelled : Bool
  outcomeUnknownReason : String
  error : String
  stdoutTruncated : Bool
  stderrTruncated : Bool

structure LogCursor where
  schemaVersion : Int
  jobId : String
  stdoutOffset : Int
  stderrOffset : Int
  revision : Int

structure WorkerClaim where
  schemaVersion : Int
  jobId : String
  workerToken : String
  claimId : String
  workerPid : Int
  claimedAtMs : Int
deriving DecidableEq

structure Heartbeat where
  schemaVersion : Int
  jobId : String
  workerToken : String
  workerPid : Int
  heartbeatSeq : Int
  updatedAtMs : Int
deriving DecidableEq

structure CancelMarker where
  schemaVersion : Int
  jobId : String
  executionId : String
  requestedAtMs : Int

structure JobFiles where
  manifest : Option StoreManifest
  spec : Option JobSpec
  state : Option JobState
  cursor : Option LogCursor
  claim : Option WorkerClaim
  heartbeat : Option Heartbeat
  cancel : Option CancelMarker
  stdout : Option Bytes
  stderr : Option Bytes

/-- What a caller sees of a job. -/
structure DurableJobSnapshot where
  jobId : String
  executionId : String
  adapter : String
  status : JobStatus
  intentDigest : String
  environmentDigest : String
  createdAtMs : Int
  updatedAtMs : Int
  revision : Int
  workerToken : String
  workerPid : Option Int
  childPid : Option Int
  returncode : Option Int
  timedOut : Bool
  cancelled : Bool
  outcomeUnknownReason : String
  error : String
  stdoutTruncated : Bool
  stderrTruncated : Bool

/-- `completed`. -/
def DurableJobSnapshot.completed (snapshot : DurableJobSnapshot) : Bool := snapshot.status.terminal

/-- `_snapshot`. -/
def snapshot (spec : JobSpec) (state : JobState) : DurableJobSnapshot where
  jobId := spec.jobId
  executionId := spec.executionId
  adapter := spec.adapter
  status := state.status
  intentDigest := spec.intentDigest
  environmentDigest := spec.environmentDigest
  createdAtMs := state.createdAtMs
  updatedAtMs := state.updatedAtMs
  revision := state.revision
  workerToken := state.workerToken
  workerPid := state.workerPid
  childPid := state.childPid
  returncode := state.returncode
  timedOut := state.timedOut
  cancelled := state.cancelled
  outcomeUnknownReason := state.outcomeUnknownReason
  error := state.error
  stdoutTruncated := state.stdoutTruncated
  stderrTruncated := state.stderrTruncated

/-! ### Paths -/

/-- `str(Path(s))`: empty and `.` components are dropped; a root of exactly two slashes stays. -/
def pathText (s : String) : String :=
  let components := ((s.toList.splitOn '/').filter fun c => c ≠ [] && c ≠ ['.']).map String.ofList
  let slashes := (s.toList.takeWhile (· = '/')).length
  let root := if slashes = 2 then "//" else if 0 < slashes then "/" else ""
  let text := root ++ "/".intercalate components
  if text.isEmpty then "." else text

/-- `Path(s).is_absolute()`. -/
def isAbsolute (s : String) : Bool := s.toList.head? = some '/'

/-! ### Checks on the values -/

def isHex (length : Nat) (s : String) : Bool :=
  s.length = length && s.toList.all fun c => ('0' ≤ c && c ≤ '9') || ('a' ≤ c && c ≤ 'f')

/-- `_JOB_ID_RE.fullmatch`. -/
def isJobId (s : String) : Bool :=
  s.toList.take 4 = "job_".toList && isHex 32 (String.ofList (s.toList.drop 4))

def negative (n : Int) : Bool := n < 0

def notPositive (pid : Option Int) : Bool := pid.any (· ≤ 0)

/-- The first field that fails its check raises. -/
def rejectFields (record complaint : String) (checks : List (String × Bool)) :
    Except PyError Unit :=
  match checks.find? Prod.snd with
  | some (field, _) => .error (corruptionError (record ++ " " ++ field ++ complaint))
  | none => .ok ()

theorem rejectFields_ok {record complaint : String} {checks : List (String × Bool)} {u : Unit} :
    rejectFields record complaint checks = .ok u ↔ ∀ check ∈ checks, check.2 = false := by
  unfold rejectFields
  cases found : checks.find? Prod.snd with
  | none =>
    simpa using found
  | some check =>
    have bad := List.find?_some found
    have mem := List.mem_of_find?_eq_some found
    constructor
    · intro h
      cases h
    · intro all
      rw [all check mem] at bad
      cases bad

/-- `_read_store_manifest`, after the file has been decoded. -/
def StoreManifest.validate (manifest : StoreManifest) : Except PyError Unit := do
  raiseIf (manifest.schemaVersion ≠ 1)
    (corruptionError "unsupported durable job store manifest schema version")
  raiseIf (!isHex 32 manifest.storeId) (corruptionError "durable job store manifest id is invalid")
  raiseIf (negative manifest.createdAtMs)
    (corruptionError "durable job store manifest timestamp is invalid")

/-- The members of a launch request, which its digest covers. -/
def JobSpec.request (spec : JobSpec) : Value :=
  .dict [("store_id", .str spec.storeId), ("execution_id", .str spec.executionId),
    ("adapter", .str spec.adapter), ("argv", .list (spec.argv.map .str)), ("cwd", .str spec.cwd),
    ("timeout_ms", .int spec.timeoutMs), ("idempotency_digest", .str spec.idempotencyDigest),
    ("intent_digest", .str spec.intentDigest),
    ("environment_digest", .str spec.environmentDigest), ("max_log_bytes", .int spec.maxLogBytes)]

/-- `_read_spec`, after the file has been decoded; `storeId` and `dir` are the store's identity
and the name of the job's directory. -/
def JobSpec.validate (host : JobHost) (storeId dir : String) (spec : JobSpec) :
    Except PyError Unit := do
  raiseIf (spec.schemaVersion ≠ jobSchemaVersion)
    (corruptionError "unsupported durable job spec schema version")
  raiseIf (spec.storeId ≠ storeId)
    (corruptionError "durable job spec belongs to a different store identity")
  raiseIf (!isJobId spec.jobId || dir ≠ spec.jobId)
    (corruptionError "durable job spec id is invalid")
  raiseIf spec.argv.isEmpty (corruptionError "durable job spec argv is invalid")
  rejectFields "durable job spec" " is invalid"
    [("execution_id", spec.executionId.isEmpty), ("adapter", spec.adapter.isEmpty),
      ("cwd", spec.cwd.isEmpty), ("idempotency_digest", spec.idempotencyDigest.isEmpty),
      ("intent_digest", spec.intentDigest.isEmpty),
      ("environment_digest", spec.environmentDigest.isEmpty),
      ("request_digest", spec.requestDigest.isEmpty), ("worker_token", spec.workerToken.isEmpty)]
  rejectFields "durable job spec" " is invalid"
    [("timeout_ms", negative spec.timeoutMs), ("max_log_bytes", negative spec.maxLogBytes),
      ("created_at_ms", negative spec.createdAtMs)]
  raiseIf (spec.timeoutMs ≤ 0 || spec.maxLogBytes ≤ 0)
    (corruptionError "durable job spec timing or log limit is invalid")
  raiseIf (!isAbsolute spec.cwd) (corruptionError "durable job spec cwd is not absolute")
  rejectFields "durable job spec" " is not a SHA-256 digest"
    [("idempotency_digest", !isHex 64 spec.idempotencyDigest),
      ("intent_digest", !isHex 64 spec.intentDigest),
      ("environment_digest", !isHex 64 spec.environmentDigest),
      ("request_digest", !isHex 64 spec.requestDigest)]
  raiseIf (!isHex 32 spec.workerToken) (corruptionError "durable job spec worker token is invalid")
  raiseIf (host.digest spec.request ≠ spec.requestDigest)
    (corruptionError "durable job immutable launch spec digest does not match")

/-- `_validate_state`. -/
def JobState.validate (state : JobState) : Except PyError Unit := do
  raiseIf (state.schemaVersion ≠ jobSchemaVersion || state.jobId ≠ jobId)
    (corruptionError "durable job state identity is invalid")
  rejectFields "durable job state" " is invalid"
    [("created_at_ms", negative state.createdAtMs), ("updated_at_ms", negative state.updatedAtMs),
      ("revision", negative state.revision)]
  raiseIf (state.updatedAtMs < state.createdAtMs)
    (corruptionError "durable job state update timestamp predates creation")
  rejectFields "durable job state" " is invalid"
    [("worker_pid", notPositive state.workerPid), ("child_pid", notPositive state.childPid)]

/-- `_read_cursor`, after the file has been decoded. -/
def LogCursor.validate (cursor : LogCursor) : Except PyError Unit := do
  raiseIf (cursor.schemaVersion ≠ jobSchemaVersion)
    (corruptionError "unsupported durable job cursor schema version")
  raiseIf (cursor.jobId ≠ jobId) (corruptionError "durable job cursor identity is invalid")
  rejectFields "durable job cursor" " is invalid"
    [("stdout_offset", negative cursor.stdoutOffset),
      ("stderr_offset", negative cursor.stderrOffset), ("revision", negative cursor.revision)]

/-- `_validate_claim`. -/
def WorkerClaim.validate (claim : WorkerClaim) : Except PyError Unit := do
  raiseIf (claim.schemaVersion ≠ jobSchemaVersion || claim.jobId ≠ jobId)
    (corruptionError "durable job worker claim identity is invalid")
  raiseIf claim.workerToken.isEmpty (corruptionError "durable job worker claim token is invalid")
  raiseIf (!isHex 32 claim.claimId)
    (corruptionError "durable job worker claim generation is invalid")
  raiseIf (claim.workerPid ≤ 0) (corruptionError "durable job worker claim worker_pid is invalid")
  raiseIf (negative claim.claimedAtMs)
    (corruptionError "durable job worker claim claimed_at_ms is invalid")

/-- `_validate_heartbeat`. -/
def Heartbeat.validate (spec : JobSpec) (heartbeat : Heartbeat) : Except PyError Unit := do
  raiseIf (heartbeat.schemaVersion ≠ jobSchemaVersion || heartbeat.jobId ≠ jobId)
    (corruptionError "durable job heartbeat identity is invalid")
  raiseIf heartbeat.workerToken.isEmpty
    (corruptionError "durable job heartbeat token is invalid")
  rejectFields "durable job heartbeat" " is invalid"
    [("worker_pid", negative heartbeat.workerPid),
      ("heartbeat_seq", negative heartbeat.heartbeatSeq),
      ("updated_at_ms", negative heartbeat.updatedAtMs)]
  raiseIf (heartbeat.workerPid ≤ 0 || heartbeat.heartbeatSeq ≤ 0)
    (corruptionError "durable job heartbeat identity or sequence is invalid")
  raiseIf (heartbeat.workerToken ≠ spec.workerToken)
    (corruptionError "durable job heartbeat token does not match its immutable spec")

/-! ### The transition relation -/

/-- The statuses a job may go to. -/
def JobStatus.allowed : JobStatus → List JobStatus
  | .queued => [.queued, .starting, .cancelled, .failed, .outcomeUnknown]
  | .starting => [.starting, .running, .cancelled, .failed, .timedOut, .outcomeUnknown]
  | .running => [.running, .completed, .failed, .timedOut, .cancelled, .outcomeUnknown]
  | _ => []

/-- `_validate_transition`; a text that is no status is never allowed. -/
def validateTransition (current : JobStatus) (next : String) : Except PyError JobStatus :=
  match JobStatus.ofText? next with
  | some status =>
    if current.terminal then
      if status = current then .ok status
      else .error (conflictError ("terminal durable job cannot transition from " ++ current.text
        ++ " to " ++ next))
    else if current.allowed.contains status then .ok status
    else .error (conflictError ("invalid durable job transition from " ++ current.text
      ++ " to " ++ next))
  | none =>
    if current.terminal then
      .error (conflictError ("terminal durable job cannot transition from " ++ current.text
        ++ " to " ++ next))
    else .error (conflictError ("invalid durable job transition from " ++ current.text
      ++ " to " ++ next))

/-- The declared transition relation: a terminal status goes nowhere else. -/
def JobStatus.Moves (current next : JobStatus) : Prop :=
  if current.terminal then next = current else next ∈ current.allowed

instance : DecidableRel JobStatus.Moves := fun a b =>
  inferInstanceAs (Decidable (if a.terminal then b = a else b ∈ a.allowed))

theorem validateTransition_moves {current status : JobStatus} {next : String}
    (h : validateTransition current next = .ok status) : current.Moves status := by
  unfold validateTransition at h
  split at h
  · split at h
    · rename_i terminal
      split at h
      · rename_i same
        cases h
        simp only [JobStatus.Moves, terminal, if_true]
        exact same
      · cases h
    · rename_i terminal
      split at h
      · rename_i allowed
        cases h
        simp only [JobStatus.Moves, terminal]
        exact List.contains_iff_mem.mp allowed
      · cases h
  · split at h
    · cases h
    · cases h

theorem validateTransition_text {current status wanted : JobStatus} {next : String}
    (h : validateTransition current next = .ok status) (named : next = wanted.text) :
    status = wanted := by
  subst named
  have known : JobStatus.ofText? wanted.text = some wanted := by
    cases wanted <;> decide
  simp only [validateTransition, known] at h
  split at h
  · split at h
    · cases h
      rfl
    · cases h
  · split at h
    · cases h
      rfl
    · cases h

theorem JobStatus.Moves.of_terminal {current next : JobStatus} (moves : current.Moves next)
    (terminal : current.terminal = true) : next = current := by
  simpa [JobStatus.Moves, terminal] using moves

end Unchain.Jobs
