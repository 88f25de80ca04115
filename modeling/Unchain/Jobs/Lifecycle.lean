import Unchain.Jobs.Store
import Mathlib.Logic.Relation

/-!
The life of a job under any interleaving of calls.

Calls are atomic, so an interleaving of the calls of a supervisor and any number of workers is a
list of calls. `StepSafe` says what one call may do to the files of the job, `Evolves` what any
number of calls may do; `Evolves` is reflexive and transitive and contains every safe step.
-/

namespace Unchain.Jobs

open Lib Lib.Effect Python JobStore Relation

inductive Call where
  | reserveProcessJob (args : Reservation) (clock : Value)
  | claimWorker (workerToken : String) (workerPid : Int) (generated : String) (clock : Value)
  | clearStaleClaim (workerToken : String) (expected : WorkerClaim)
  | writeHeartbeat (workerToken : String) (workerPid : Int) (clock : Value)
  | updateState (workerToken : String) (status : Option String) (updates : Dict) (clock : Value)
  | transitionToOutcomeUnknown (executionId : String) (args : OutcomeUnknown) (clock : Value)
  | requestCancel (executionId : String) (clock : Value)

/-- The files after a section that raises before it writes. -/
def filesAfter {α : Type} (f : JobFiles) : Except PyError (α × JobFiles) → JobFiles
  | .ok (_, f') => f'
  | .error _ => f

variable (store : JobStore) (jobId : String) (f : JobFiles)

def Call.after : Call → JobFiles
  | .reserveProcessJob args clock => endState (store.reserveProcessJob args clock f)
  | .claimWorker workerToken workerPid generated clock =>
    filesAfter f (store.claimWorker jobId workerToken workerPid generated clock f)
  | .clearStaleClaim workerToken expected =>
    filesAfter f (store.clearStaleClaim jobId workerToken expected f)
  | .writeHeartbeat workerToken workerPid clock =>
    filesAfter f (store.writeHeartbeat jobId workerToken workerPid clock f)
  | .updateState workerToken status updates clock =>
    filesAfter f (store.updateState jobId workerToken status updates clock f)
  | .transitionToOutcomeUnknown executionId args clock =>
    filesAfter f (store.transitionToOutcomeUnknown jobId executionId args clock f)
  | .requestCancel executionId clock => filesAfter f (store.requestCancel jobId executionId clock f)

def runCalls (calls : List Call) : JobFiles :=
  calls.foldl (Call.after store jobId) f

/-! ### One call -/

inductive StateStep : Option JobState → Option JobState → Prop where
  | kept (state : Option JobState) : StateStep state state
  | created {s : JobState} (queued : s.status = .queued) (zero : s.revision = 0) :
      StateStep none (some s)
  | written {s s' : JobState} (moves : s.status.Moves s'.status)
      (revision : s'.revision = s.revision + 1) : StateStep (some s) (some s')

structure StepSafe (call : Call) (f f' : JobFiles) : Prop where
  state : StateStep f.state f'.state
  compared : ∀ executionId args clock, call = .transitionToOutcomeUnknown executionId args clock →
    f'.state ≠ f.state →
      ∃ s, f.state = some s ∧ s.status.terminal = false ∧ args.Holds s f
  heartbeat : f'.heartbeat ≠ f.heartbeat → ∃ s, f.state = some s ∧ s.status.terminal = false

theorem StepSafe.of_kept {call : Call} {f f' : JobFiles} (state : f'.state = f.state)
    (heartbeat : f'.heartbeat = f.heartbeat) : StepSafe call f f' where
  state := state ▸ .kept _
  compared _ _ _ _ changed := absurd state changed
  heartbeat changed := absurd heartbeat changed

/-- A section that raises writes nothing. -/
theorem filesAfter_cases {α : Type} {f : JobFiles} {P : JobFiles → Prop}
    {result : Except PyError (α × JobFiles)} (raised : P f)
    (returned : ∀ a f', result = .ok (a, f') → P f') : P (filesAfter f result) := by
  cases result with
  | error e => exact raised
  | ok value => exact returned value.1 value.2 rfl

theorem call_safe (call : Call) : StepSafe call f (call.after store jobId f) := by
  cases call with
  | reserveProcessJob args clock =>
    have reserves := reserveProcessJob_reserves store args clock f
    constructor
    · show StateStep f.state (endState (store.reserveProcessJob args clock f)).state
      rcases reserves.state with same | ⟨absent, s, written, queued, zero⟩
      · rw [same]
        exact .kept _
      · rw [absent, written]
        exact .created queued zero
    · intro _ _ _ other
      cases other
    · intro changed
      exact absurd reserves.heartbeat changed
  | claimWorker workerToken workerPid generated clock =>
    apply filesAfter_cases (StepSafe.of_kept rfl rfl)
    intro claimed f' ran
    rcases claimWorker_spec ran with ⟨-, rfl⟩ | ⟨-, -, -, now, rfl⟩
    · exact .of_kept rfl rfl
    · exact .of_kept rfl rfl
  | clearStaleClaim workerToken expected =>
    apply filesAfter_cases (StepSafe.of_kept rfl rfl)
    intro cleared f' ran
    rcases clearStaleClaim_spec ran with ⟨-, rfl⟩ | ⟨-, -, -, rfl⟩
    · exact .of_kept rfl rfl
    · exact .of_kept rfl rfl
  | writeHeartbeat workerToken workerPid clock =>
    apply filesAfter_cases (StepSafe.of_kept rfl rfl)
    intro written f' ran
    rcases writeHeartbeat_spec ran with ⟨-, rfl⟩ | ⟨-, live, -, heartbeat, rfl⟩
    · exact .of_kept rfl rfl
    · constructor
      · exact .kept _
      · intro _ _ _ other
        cases other
      · intro _
        exact live
  | updateState workerToken status updates clock =>
    apply filesAfter_cases (StepSafe.of_kept rfl rfl)
    intro result f' ran
    obtain ⟨s, s', there, rfl, moves, -, revision⟩ := updateState_spec ran
    constructor
    · rw [there]
      exact .written moves revision
    · intro _ _ _ other
      cases other
    · intro changed
      exact absurd rfl changed
  | transitionToOutcomeUnknown executionId args clock =>
    apply filesAfter_cases (StepSafe.of_kept rfl rfl)
    intro result f' ran
    rcases transitionToOutcomeUnknown_spec ran with
      rfl | ⟨s, s', there, rfl, live, holds, moves, -, revision⟩
    · exact .of_kept rfl rfl
    · constructor
      · rw [there]
        exact .written moves revision
      · intro _ _ _ same _
        cases same
        exact ⟨s, there, live, holds⟩
      · intro changed
        exact absurd rfl changed
  | requestCancel executionId clock =>
    apply filesAfter_cases (StepSafe.of_kept rfl rfl)
    intro u f' ran
    obtain ⟨marker, rfl⟩ := requestCancel_spec ran
    exact .of_kept rfl rfl

/-! ### Any number of calls -/

/-- How a state that is there looks after any number of calls. -/
structure StateEvolves (s s' : JobState) : Prop where
  path : ReflTransGen JobStatus.Moves s.status s'.status
  settled : s.status.terminal = true → s'.status = s.status
  revision : s' = s ∨ s.revision < s'.revision

theorem StateEvolves.refl (s : JobState) : StateEvolves s s :=
  ⟨.refl, fun _ => rfl, .inl rfl⟩

theorem StateEvolves.trans {s t u : JobState} (first : StateEvolves s t)
    (second : StateEvolves t u) : StateEvolves s u where
  path := first.path.trans second.path
  settled terminal := by
    have kept := first.settled terminal
    rw [← kept] at terminal ⊢
    exact second.settled terminal
  revision := by
    rcases second.revision with rfl | later
    · exact first.revision
    · rcases first.revision with rfl | earlier
      · exact .inr later
      · exact .inr (Int.lt_trans earlier later)

/-- What any number of calls may do to the files of the job. -/
structure Evolves (f f' : JobFiles) : Prop where
  state : ∀ s, f.state = some s → ∃ s', f'.state = some s' ∧ StateEvolves s s'
  heartbeat : ∀ s, f.state = some s → s.status.terminal = true → f'.heartbeat = f.heartbeat

theorem Evolves.refl (f : JobFiles) : Evolves f f :=
  ⟨fun s there => ⟨s, there, .refl s⟩, fun _ _ _ => rfl⟩

theorem Evolves.trans {f g h : JobFiles} (first : Evolves f g) (second : Evolves g h) :
    Evolves f h where
  state s there := by
    obtain ⟨t, between, early⟩ := first.state s there
    obtain ⟨u, last, late⟩ := second.state t between
    exact ⟨u, last, early.trans late⟩
  heartbeat s there terminal := by
    obtain ⟨t, between, early⟩ := first.state s there
    have settled : t.status.terminal = true := by rw [early.settled terminal, terminal]
    exact (second.heartbeat t between settled).trans (first.heartbeat s there terminal)

theorem StepSafe.evolves {call : Call} {f f' : JobFiles} (h : StepSafe call f f') :
    Evolves f f' where
  state s there := by
    have step := h.state
    rw [there] at step
    generalize f'.state = after at step
    cases step with
    | kept => exact ⟨s, rfl, .refl s⟩
    | @written _ s' moves revision =>
      refine ⟨s', rfl, .single moves, moves.of_terminal, .inr ?_⟩
      omega
  heartbeat s there terminal := by
    by_contra changed
    obtain ⟨t, here, live⟩ := h.heartbeat changed
    rw [there] at here
    cases here
    rw [terminal] at live
    cases live

theorem runCalls_evolves (store : JobStore) (jobId : String) (calls : List Call) (f : JobFiles) :
    Evolves f (runCalls store jobId f calls) := by
  induction calls generalizing f with
  | nil => exact .refl f
  | cons call calls ih => exact (call_safe store jobId f call).evolves.trans (ih _)

/-- In every interleaving of calls, from any files: each call is a safe step, and from each point
on the status follows the transition relation, a terminal status and the heartbeat beside it
stay, and the revision grows with every change of the state. -/
theorem job_lifecycle_safe (before : List Call) (call : Call) (later : List Call) :
    StepSafe call (runCalls store jobId f before) (runCalls store jobId f (before ++ [call])) ∧
      Evolves (runCalls store jobId f before)
        (runCalls store jobId f (before ++ call :: later)) := by
  constructor
  · simp only [runCalls, List.foldl_append, List.foldl_cons, List.foldl_nil]
    exact call_safe store jobId _ call
  · simp only [runCalls, List.foldl_append]
    exact runCalls_evolves store jobId (call :: later) _

end Unchain.Jobs
