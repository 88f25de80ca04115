import Unchain.Jobs.Store
import Unchain.Lib.Process

/-!
The detached worker of a job, as a program over what it asks of the store and of the system.

Every command may raise. The command's process, its pipes and the time are answered from outside;
the loop that watches the command has a number of rounds, after which the program is still
running.
-/

namespace Unchain.Jobs

open Lib Lib.Process Python JobStore

/-- What `_suspect_grace_elapsed` compares. -/
abbrev Signature := List Value

structure PumpReport where
  errors : List String
  stdoutTruncated : Bool
  stderrTruncated : Bool

/-- What a worker or a supervisor asks of the store, of the system, and of its own memory. -/
inductive Cmd where
  | loadSpec
  | load (executionId : String)
  | claimWorker (workerToken : String) (workerPid : Int)
  | clearStaleClaim (workerToken : String) (expected : WorkerClaim)
  | readClaim
  | workerClaimIsCurrent (workerToken : String) (workerPid : Int)
  | writeHeartbeat (workerToken : String) (workerPid : Int)
  | readHeartbeat
  | updateState (workerToken : String) (status : Option String) (updates : Dict)
  | transitionToOutcomeUnknown (executionId : String) (args : OutcomeUnknown)
  | cancelRequested
  | captureEnvironment
  | nowMs
  | monotonic
  | pidMayBeAlive (pid : Int)
  | popen (argv : List String) (cwd : String)
  | poll
  | pastDeadline (timeoutMs : Int)
  | sleep
  | terminate
  | wait
  | finishPumps
  | popenWrapper (workerToken : String)
  | wrapperRunning
  | closed
  | lastSpawnAt
  | setLastSpawnAt (now : PyFloat)
  | suspicion
  | setSuspicion (signature : Signature) (now : PyFloat)
  | clearSuspicion

/-- What a command gives when it returns. -/
abbrev Reply : Cmd → Type
  | .loadSpec => JobSpec
  | .load _ => DurableJobSnapshot
  | .claimWorker _ _ => Bool
  | .clearStaleClaim _ _ => Bool
  | .readClaim => Option WorkerClaim
  | .workerClaimIsCurrent _ _ => Bool
  | .writeHeartbeat _ _ => Bool
  | .readHeartbeat => Option Heartbeat
  | .updateState _ _ _ => DurableJobSnapshot
  | .transitionToOutcomeUnknown _ _ => DurableJobSnapshot
  | .cancelRequested => Bool
  | .captureEnvironment => String
  | .nowMs => Int
  | .monotonic => PyFloat
  | .pidMayBeAlive _ => Bool
  | .popen _ _ => Int
  | .poll => Option Int
  | .pastDeadline _ => Bool
  | .sleep => Unit
  | .terminate => Unit
  | .wait => Option Int
  | .finishPumps => PumpReport
  | .popenWrapper _ => Unit
  | .wrapperRunning => Bool
  | .closed => Bool
  | .lastSpawnAt => PyFloat
  | .setLastSpawnAt _ => Unit
  | .suspicion => Option (Signature × PyFloat)
  | .setSuspicion _ _ => Unit
  | .clearSuspicion => Unit

abbrev jobInterface : Interface := ⟨Cmd, fun c => Except PyError (Reply c)⟩

def ask (c : Cmd) : Prog jobInterface PyError (Reply c) := .call c Prog.lift

/-- `type(error).__name__` and `str(error)`. -/
def errorText : PyError → String
  | .typeError m => "TypeError: " ++ m
  | .valueError m => "ValueError: " ++ m
  | .keyError m => "KeyError: " ++ m
  | .indexError m => "IndexError: " ++ m
  | .attributeError m => "AttributeError: " ++ m
  | .overflowError m => "OverflowError: " ++ m
  | .notImplementedError m => "NotImplementedError: " ++ m
  | .raised cls m => cls ++ ": " ++ m

inductive WorkerExit where
  | exited (code : Int)
  | running

/-! ### The protected part of `run_worker` -/

/-- The variables that the handler reads, when an exception arrives. -/
structure WorkerVars where
  snapshot : Option DurableJobSnapshot
  process : Option Int

abbrev WorkerFailure := WorkerVars × PyError

/-- A command inside the `try` block. -/
def attempt (vars : WorkerVars) (c : Cmd) : Prog jobInterface WorkerFailure (Reply c) :=
  .call c fun
    | .ok reply => .ret reply
    | .error e => .raise (vars, e)

/-- The loop that watches the command: whether it was cancelled and whether it timed out. -/
def watchCommand (vars : WorkerVars) (timeoutMs : Int) :
    (rounds : Nat) → Prog jobInterface WorkerFailure (Option (Bool × Bool))
  | 0 => return none
  | rounds + 1 => do
    match ← attempt vars .poll with
    | some _ => return some (false, false)
    | none =>
      if ← attempt vars .cancelRequested then
        attempt vars .terminate
        return some (true, false)
      else if ← attempt vars (.pastDeadline timeoutMs) then
        attempt vars .terminate
        return some (false, true)
      else
        attempt vars .sleep
        watchCommand vars timeoutMs rounds

/-- The terminal status of a command and the error that goes with it. -/
def commandOutcome (timeoutMs returncode : Int) (cancelled timedOut : Bool) (report : PumpReport) :
    String × String :=
  if cancelled then ("cancelled", "command cancelled")
  else if timedOut then ("timed_out", "command timed out after " ++ toString timeoutMs ++ " ms")
  else if !report.errors.isEmpty then ("failed", "; ".intercalate report.errors)
  else if returncode = 0 then ("completed", "")
  else ("failed", "command exited with return code " ++ toString returncode)

/-- `run_worker` once the command runs. -/
def superviseCommand (spec : JobSpec) (workerToken : String) (workerPid child : Int)
    (snapshot : DurableJobSnapshot) (rounds : Nat) : Prog jobInterface WorkerFailure WorkerExit := do
  let snapshot ← attempt ⟨some snapshot, some child⟩ (.updateState workerToken (some "running")
    [("worker_pid", .int workerPid), ("child_pid", .int child)])
  let vars : WorkerVars := ⟨some snapshot, some child⟩
  match ← watchCommand vars spec.timeoutMs rounds with
  | none => return .running
  | some (cancelled, timedOut) =>
    let returncode ← (do
      match ← attempt vars .wait with
      | some code => return some code
      | none =>
        attempt vars .terminate
        attempt vars .poll)
    let report ← attempt vars .finishPumps
    match returncode with
    | none => return .exited 3
    | some code =>
      let (status, error) := commandOutcome spec.timeoutMs code cancelled timedOut report
      let _ ← attempt vars (.updateState workerToken (some status)
        [("worker_pid", .int workerPid), ("child_pid", .int child), ("returncode", .int code),
          ("timed_out", .bool timedOut), ("cancelled", .bool cancelled), ("error", .str error),
          ("stdout_truncated", .bool report.stdoutTruncated),
          ("stderr_truncated", .bool report.stderrTruncated)])
      return .exited 0

/-- The `try` block of `run_worker`. -/
def launchCommand (spec : JobSpec) (workerToken : String) (workerPid : Int) (rounds : Nat) :
    Prog jobInterface WorkerFailure WorkerExit := do
  -- `lease.start()`; the thread it leaves behind writes further heartbeats
  if !(← attempt ⟨none, none⟩ (.writeHeartbeat workerToken workerPid)) then
    .raise (⟨none, none⟩,
      .raised "RuntimeError" "durable job became terminal before worker startup")
  else
    let loaded ← attempt ⟨none, none⟩ (.load spec.executionId)
    let snapshot ← attempt ⟨some loaded, none⟩ (.updateState workerToken (some "starting")
      [("worker_pid", .int workerPid)])
    let vars : WorkerVars := ⟨some snapshot, none⟩
    if ← attempt vars .cancelRequested then
      let _ ← attempt vars (.updateState workerToken (some "cancelled")
        [("worker_pid", .int workerPid), ("cancelled", .bool true),
          ("error", .str "cancelled before command launch")])
      return .exited 0
    else if !(← attempt vars (.workerClaimIsCurrent workerToken workerPid)) then
      let _ ← attempt vars (.transitionToOutcomeUnknown snapshot.executionId {
        expectedRevision := snapshot.revision
        expectedStatus := snapshot.status.text
        reason := "worker_claim_lost_before_launch"
        error := "worker claim changed before command launch"
        heartbeatStaleBeforeMs := none
        expectedHeartbeatSeq := none
        expectedClaimId := none })
      return .exited 3
    else
      let child ← attempt vars (.popen spec.argv spec.cwd)
      superviseCommand spec workerToken workerPid child snapshot rounds

/-! ### The handler -/

/-- `except Exception: return`. -/
def ignoring (p : Prog jobInterface PyError Unit) : Prog jobInterface PyError Unit :=
  p.tryCatch fun _ => return ()

/-- `_record_orchestration_failure`. -/
def recordOrchestrationFailure (snapshot : DurableJobSnapshot) (workerToken : String)
    (workerPid : Int) (process : Option Int) (error : PyError) : Prog jobInterface PyError Unit :=
  let fail (child returncode : Option Int) : Prog jobInterface PyError Unit := ignoring do
    let _ ← ask (.updateState workerToken (some "failed")
      [("worker_pid", .int workerPid), ("child_pid", (child.map .int).getD .none),
        ("returncode", (returncode.map .int).getD .none),
        ("error", .str ("durable worker failed: " ++ errorText error))])
  .call (.load snapshot.executionId) fun
    | .error _ => return ()
    | .ok current =>
      if current.completed then return ()
      else
        match process with
        | none => fail current.childPid none
        | some child => do
          ask .terminate
          match ← ask .poll with
          | none => return ()
          | some code => fail (some child) (some code)

/-- `run_worker`, in the process `workerPid`. -/
def runWorker (workerToken : String) (workerPid : Int) (rounds : Nat) :
    Prog jobInterface PyError WorkerExit := do
  let spec ← ask .loadSpec
  if (← ask .captureEnvironment) ≠ spec.environmentDigest then return .exited 4
  else if spec.workerToken ≠ workerToken then return .exited 2
  else if !(← ask (.claimWorker workerToken workerPid)) then return .exited 0
  else
    (launchCommand spec workerToken workerPid rounds).tryCatch fun (vars, e) => do
      match vars.snapshot with
      | none => return .exited 1
      | some snapshot =>
        recordOrchestrationFailure snapshot workerToken workerPid vars.process e
        return .exited 1

end Unchain.Jobs
