import Unchain.Jobs.Launch

/-!
The command of a job when its worker fails.

The handler of `run_worker` reads the job before it stops the command. A supervisor may have given
the job up by then, and the files may not be readable: in both cases the handler is left early, and
a command that runs is left running.
-/

namespace Unchain.Jobs

open Lib Lib.Process Lib.Effect Python JobStore

/-- The handler of `run_worker`. -/
def recover (workerToken : String) (workerPid : Int) (vars : WorkerVars) (error : PyError) :
    Prog jobInterface PyError WorkerExit :=
  match vars.snapshot with
  | none => return .exited 1
  | some snapshot => do
    recordOrchestrationFailure snapshot workerToken workerPid vars.process error
    return .exited 1

theorem runWorker_recovers (workerToken : String) (workerPid : Int) (rounds : Nat) :
    runWorker workerToken workerPid rounds = (do
      let spec ← ask .loadSpec
      if (← ask .captureEnvironment) ≠ spec.environmentDigest then return .exited 4
      else if spec.workerToken ≠ workerToken then return .exited 2
      else if !(← ask (.claimWorker workerToken workerPid)) then return .exited 0
      else
        (launchCommand spec workerToken workerPid rounds).tryCatch fun failure =>
          recover workerToken workerPid failure.1 failure.2) := rfl

/-! ### The command -/

/-- The files of the job, the error that reading them raises at present, and whether the command
runs. -/
structure ChildWorld where
  files : JobFiles
  unreadable : Option PyError
  running : Bool

section World

variable (store : JobStore) (jobId : String)

/-- What `load` gives at present. -/
def ChildWorld.load (w : ChildWorld) (executionId : String) : Except PyError DurableJobSnapshot :=
  match w.unreadable with
  | some e => .error e
  | none => store.load jobId executionId w.files

/-- Whether the command may run after an answer. It may stop by itself at any time, `popen` starts
it, and `_terminate_child` kills its process group. -/
def leaves (w : ChildWorld) : (c : Cmd) → Except PyError (Reply c) → (after : Bool) → Prop
  | .popen _ _, _, _ => True
  | .load executionId, r, after =>
    r = w.load store jobId executionId ∧ (after = true → w.running = true)
  | .terminate, r, after => r = .ok () ∧ after = false
  | .poll, r, after => r.toOption.isSome = true ∧ (r = .ok none ↔ after = true) ∧
      (after = true → w.running = true)
  | .wait, r, after => (∀ code, r = .ok (some code) → after = false) ∧
      (after = true → w.running = true)
  | _, _, after => after = true → w.running = true

/-- An answer comes from the files as they are; then others may change them. -/
structure Answered (w : ChildWorld) (c : Cmd) (r : Except PyError (Reply c)) (w' : ChildWorld) :
    Prop where
  given : ∃ alive launches issued job, answers store jobId alive ⟨w.files, launches, issued⟩ c r job
  child : leaves store jobId w c r w'.running

end World

variable {store : JobStore} {jobId : String} {w : ChildWorld}

theorem recover_harmless (token : String) (pid : Int) (vars : WorkerVars) (error : PyError) :
    (recover token pid vars error).Only Harmless := by
  unfold recover
  split
  · trivial
  · exact only_bind (recordOrchestrationFailure_harmless _ _ _ _ _) fun _ => only_pure _

theorem stopped_of {before after : Bool} (only : after = true → before = true)
    (stopped : before = false) : after = false := by
  cases after with
  | false => rfl
  | true => exact (only rfl).symm.trans stopped

theorem stopped_stays {c : Cmd} {r : Except PyError (Reply c)} {w' : ChildWorld}
    (harmless : Harmless c) (answered : Answered store jobId w c r w') (stopped : w.running = false) :
    w'.running = false := by
  have child := answered.child
  cases c with
  | popen argv cwd => cases harmless
  | terminate => exact child.2
  | load executionId | wait => exact stopped_of child.2 stopped
  | poll => exact stopped_of child.2.2 stopped
  | _ => exact stopped_of child stopped

theorem ends_of_stopped {ε α : Type} {p : Prog jobInterface ε α} (only : p.Only Harmless)
    (stopped : w.running = false) : p.Ends (Answered store jobId) (fun w => w.running = false) w :=
  ends_of_only (fun _ _ _ _ harmless answered => stopped_stays harmless answered) only stopped

theorem Answered.load (w : ChildWorld) (executionId : String) :
    Answered store jobId w (.load executionId) (w.load store jobId executionId) w where
  given := by
    refine ⟨[], 0, [], _, rfl, ?_⟩
    unfold ChildWorld.load
    split
    · exact .inr ⟨_, rfl⟩
    · exact .inl rfl
  child := ⟨rfl, id⟩

theorem recover_stops_iff {token : String} {pid child : Int} {snapshot : DurableJobSnapshot}
    {error : PyError} :
    (recover token pid ⟨some snapshot, some child⟩ error).Ends (Answered store jobId)
        (fun w => w.running = false) w ↔
      w.running = false ∨
        ∃ s, w.load store jobId snapshot.executionId = .ok s ∧ s.completed = false := by
  constructor
  · intro stops
    have ends := stops _ w (Answered.load w snapshot.executionId)
    cases loaded : w.load store jobId snapshot.executionId with
    | error e =>
      rw [loaded] at ends
      exact .inl ends
    | ok s =>
      cases terminal : s.completed with
      | false => exact .inr ⟨s, rfl, terminal⟩
      | true =>
        rw [loaded] at ends
        simp only [terminal, if_true] at ends
        exact .inl ends
  · rintro (stopped | ⟨s, loaded, open_⟩)
    · exact ends_of_stopped (recover_harmless _ _ _ _) stopped
    · intro r w' answered
      obtain rfl : r = .ok s := answered.child.1.trans loaded
      have rest := (recover_harmless token pid ⟨some snapshot, some child⟩ error).2 (.ok s)
      simp only [open_, Bool.false_eq_true, if_false] at rest ⊢
      intro r' w'' killed
      exact ends_of_stopped (rest.2 r') killed.child.2

/-! ### A job that was given up -/

/-- The files after a supervisor has given the started job up. -/
def abandonedFiles : JobFiles :=
  { greetFiles with
    state := some { initialState greetSpec with
      status := .outcomeUnknown
      revision := 3
      error := "worker heartbeat expired" } }

end Unchain.Jobs
