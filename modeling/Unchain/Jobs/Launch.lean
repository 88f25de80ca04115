import Unchain.Jobs.Lifecycle
import Unchain.Jobs.Supervisor
import Unchain.Lib.Crew

/-!
At most one launch of the command of a job.

The crew consists of worker wrappers and of reconciliations, any number of each, over the files of
one job. Anybody may be killed at any point, and any store operation may raise before it does
anything or after its write. Heartbeats, cancellations and reservations come from outside at any
time.

The account: among the live members there is at most one holder, a worker whose claim succeeded and
which has not launched yet, and a launch uses it up. Whoever holds, holds the claim file; a claim
is cleared only by a supervisor that saw its worker's process gone; and a job that a worker has
started, or that was launched, never goes back to `queued`, where claims are given and cleared.
-/

namespace Unchain.Jobs

open Lib Lib.Process Lib.Crew Lib.Effect Python JobStore

inductive Role where
  | worker (pid : Int)
  | supervisor

inductive JobOutcome where
  | worker (exit : WorkerExit)
  | supervisor (snapshot : DurableJobSnapshot)

/-- The files of the job, how often its command has been started, and the ids of the claims that
have ever been written. -/
structure JobWorld where
  files : JobFiles
  launches : Nat
  issued : List String

def JobWorld.wrote (w : JobWorld) (f : JobFiles) : JobWorld :=
  { w with files := f, issued := (f.claim.map (·.claimId)).toList ++ w.issued }

/-- A store operation gives its result, or raises after its write or without one. -/
def Performs {α : Type} (w : JobWorld) (op : JobFiles → Except PyError (α × JobFiles))
    (r : Except PyError α) (w' : JobWorld) : Prop :=
  (∃ a f, op w.files = .ok (a, f) ∧ w' = w.wrote f ∧ (r = .ok a ∨ ∃ e, r = .error e)) ∨
    ∃ e, r = .error e ∧ w' = w

/-- A reading operation gives its result or raises. -/
def Gives {α : Type} (w : JobWorld) (op : JobFiles → Except PyError α) (r : Except PyError α)
    (w' : JobWorld) : Prop :=
  w' = w ∧ (r = op w.files ∨ ∃ e, r = .error e)

/-- How the world answers a command. `_pid_may_be_alive` answers false only when no worker with
that process id is alive; a claim id has never been used before. -/
def answers (store : JobStore) (jobId : String) (alive : List Role) (w : JobWorld) :
    (c : Cmd) → Except PyError (Reply c) → JobWorld → Prop
  | .loadSpec, r, w' => Gives w (store.loadSpec jobId) r w'
  | .load executionId, r, w' => Gives w (store.load jobId executionId) r w'
  | .readClaim, r, w' => Gives w (store.readClaim jobId) r w'
  | .workerClaimIsCurrent token pid, r, w' => Gives w (store.workerClaimIsCurrent jobId token pid) r w'
  | .readHeartbeat, r, w' => Gives w (store.readHeartbeat jobId) r w'
  | .cancelRequested, r, w' => Gives w (store.cancelRequested jobId) r w'
  | .claimWorker token pid, r, w' => ∃ generated clock, generated ∉ w.issued ∧
      Performs w (store.claimWorker jobId token pid generated clock) r w'
  | .clearStaleClaim token expected, r, w' =>
    Performs w (store.clearStaleClaim jobId token expected) r w'
  | .writeHeartbeat token pid, r, w' => ∃ clock,
      Performs w (store.writeHeartbeat jobId token pid clock) r w'
  | .updateState token status updates, r, w' => ∃ clock,
      Performs w (store.updateState jobId token status updates clock) r w'
  | .transitionToOutcomeUnknown executionId args, r, w' => ∃ clock,
      Performs w (store.transitionToOutcomeUnknown jobId executionId args clock) r w'
  | .pidMayBeAlive pid, r, w' => w' = w ∧ (r = .ok false → Role.worker pid ∉ alive)
  | .popen _ _, _, w' => w' = { w with launches := w.launches + 1 }
  | _, _, w' => w' = w

/-- Calls from outside that may come at any time. -/
def Outside : Call → Prop
  | .reserveProcessJob _ _ => True
  | .writeHeartbeat _ _ _ => True
  | .requestCancel _ _ => True
  | _ => False

def surroundings (store : JobStore) (jobId : String) :
    Surroundings jobInterface PyError JobOutcome Role JobWorld where
  answers alive _ w c r w' := answers store jobId alive w c r w'
  moves w w' := ∃ call, Outside call ∧ w' = w.wrote (call.after store jobId w.files)
  starts
    | .worker pid, p => ∃ token rounds, p = JobOutcome.worker <$> runWorker token pid rounds
    | .supervisor, p => ∃ (sup : Supervisor) (snapshot : DurableJobSnapshot) (allowLaunch : Bool),
        p = JobOutcome.supervisor <$> sup.reconcile snapshot allowLaunch

/-! ### The watch -/

/-- How far a member has come: a worker that holds the claim, has started the job, has launched
its command; a supervisor that has read a claim, and that has seen its worker gone. -/
inductive Stage where
  | idle
  | holding
  | started
  | launched
  | read (claim : WorkerClaim)
  | stale (claim : WorkerClaim)
deriving DecidableEq

def Stage.holds : Stage → Bool
  | .holding => true
  | .started => true
  | _ => false

def Stage.inHand : Stage → Option WorkerClaim
  | .read claim => some claim
  | .stale claim => some claim
  | _ => none

/-- The commands that a member may issue. -/
def launchAllows (role : Role) (g : Stage) : Cmd → Prop
  | .claimWorker _ pid => role = .worker pid
  | .clearStaleClaim _ claim => g = .stale claim
  | .popen _ _ => g = .started
  | _ => True

/-- The stage after a command and its answer. -/
def launchNext (g : Stage) : (c : Cmd) → Except PyError (Reply c) → Stage
  | .claimWorker _ _, .ok true => .holding
  | .updateState _ (some status) _, .ok _ =>
    if g = .holding ∧ status = "starting" then .started else g
  | .popen _ _, _ => .launched
  | .readClaim, .ok (some claim) => .read claim
  | .pidMayBeAlive pid, .ok false =>
    match g with
    | .read claim => if claim.workerPid = pid then .stale claim else g
    | g => g
  | _, _ => g

def launchWatch : Watch jobInterface Role where
  State := Stage
  start := .idle
  allows := launchAllows
  next _ := launchNext

/-! ### The account -/

/-- The job has been started and is not queued any more. -/
def Begun (f : JobFiles) : Prop := ∃ s, f.state = some s ∧ s.status ≠ .queued

def holders (xs : List (Role × Stage)) : Nat := xs.countP fun x => x.2.holds

structure Account (xs : List (Role × Stage)) (w : JobWorld) : Prop where
  once : holders xs + w.launches ≤ 1
  backed : ∀ x ∈ xs, x.2.holds = true →
    ∃ claim, w.files.claim = some claim ∧ x.1 = .worker claim.workerPid
  issued : ∀ claim, w.files.claim = some claim → claim.claimId ∈ w.issued
  seen : ∀ x ∈ xs, ∀ claim, x.2.inHand = some claim → claim.claimId ∈ w.issued
  gone : ∀ x ∈ xs, ∀ claim, x.2 = .stale claim → w.files.claim = some claim → holders xs = 0
  begun : (∃ x ∈ xs, x.2 = .started) ∨ 0 < w.launches → Begun w.files

theorem holders_middle (xs ys : List (Role × Stage)) (x : Role × Stage) :
    holders (xs ++ x :: ys) = holders (xs ++ ys) + x.2.holds.toNat := by
  unfold holders
  rw [List.countP_append, List.countP_cons, List.countP_append]
  cases x.2.holds <;> simp <;> omega

theorem holders_eq_zero {xs : List (Role × Stage)} :
    holders xs = 0 ↔ ∀ x ∈ xs, x.2.holds = false := by
  simp [holders, List.countP_eq_zero]

variable {f' : JobFiles} {f : JobFiles}

/-- A started job is never queued again. -/
theorem Begun.step (begun : Begun f) (step : StateStep f.state f'.state) : Begun f' := by
  obtain ⟨s, there, left⟩ := begun
  rw [there] at step
  generalize after : f'.state = state at step
  cases step with
  | kept => exact ⟨s, after, left⟩
  | @written _ s' moves revision =>
    refine ⟨s', after, fun queued => ?_⟩
    rw [queued] at moves
    cases status : s.status with
    | queued => exact left status
    | _ =>
      rw [status] at moves
      exact absurd moves (by decide)

variable {xs ys : List (Role × Stage)} {w w' : JobWorld} {role : Role} {g g' : Stage}

structure Quiet (w w' : JobWorld) : Prop where
  claim : w'.files.claim = w.files.claim
  launches : w'.launches = w.launches
  issued : ∀ id ∈ w.issued, id ∈ w'.issued
  begun : Begun w.files → Begun w'.files

theorem Quiet.refl (w : JobWorld) : Quiet w w := ⟨rfl, rfl, fun _ mem => mem, id⟩

theorem Quiet.of_wrote (claim : f.claim = w.files.claim) (begun : Begun w.files → Begun f) :
    Quiet w (w.wrote f) :=
  ⟨claim, rfl, fun _ mem => List.mem_append_right _ mem, begun⟩

theorem Account.quiet (h : Account xs w) (quiet : Quiet w w') : Account xs w' where
  once := by
    rw [quiet.launches]
    exact h.once
  backed x mem holds := by
    rw [quiet.claim]
    exact h.backed x mem holds
  issued claim there := quiet.issued _ (h.issued claim (quiet.claim ▸ there))
  seen x mem claim inHand := quiet.issued _ (h.seen x mem claim inHand)
  gone x mem claim stale there := h.gone x mem claim stale (quiet.claim ▸ there)
  begun started := by
    rw [quiet.launches] at started
    exact quiet.begun (h.begun started)

/-- A member moves on without becoming a holder. -/
theorem Account.stage (h : Account (xs ++ (role, g) :: ys) w)
    (holds : g'.holds = true → g.holds = true)
    (seen : ∀ claim, g'.inHand = some claim → claim.claimId ∈ w.issued)
    (gone : ∀ claim, g' = .stale claim → w.files.claim = some claim →
      holders (xs ++ (role, g) :: ys) = 0)
    (begun : g' = .started → Begun w.files) : Account (xs ++ (role, g') :: ys) w := by
  have fewer : holders (xs ++ (role, g') :: ys) ≤ holders (xs ++ (role, g) :: ys) := by
    rw [holders_middle, holders_middle]
    cases now : g'.holds
    · simp
    · simp [holds now]
  have others : ∀ x ∈ xs ++ (role, g') :: ys, x = (role, g') ∨ x ∈ xs ++ (role, g) :: ys := by
    intro x mem
    simp only [List.mem_append, List.mem_cons] at mem ⊢
    tauto
  have here : (role, g) ∈ xs ++ (role, g) :: ys := by simp
  constructor
  · exact Nat.le_trans (Nat.add_le_add_right fewer _) h.once
  · intro x mem now
    rcases others x mem with rfl | mem
    · exact h.backed (role, g) here (holds now)
    · exact h.backed x mem now
  · exact h.issued
  · intro x mem claim inHand
    rcases others x mem with rfl | mem
    · exact seen claim inHand
    · exact h.seen x mem claim inHand
  · intro x mem claim stale there
    apply Nat.le_zero.mp
    rcases others x mem with rfl | mem
    · rw [gone claim stale there] at fewer
      exact fewer
    · rw [h.gone x mem claim stale there] at fewer
      exact fewer
  · rintro (⟨x, mem, started⟩ | launched)
    · rcases others x mem with rfl | mem
      · exact begun started
      · exact h.begun (.inl ⟨x, mem, started⟩)
    · exact h.begun (.inr launched)

theorem Account.no_holder (h : Account xs w) (none : w.files.claim = none) : holders xs = 0 := by
  rw [holders_eq_zero]
  intro x mem
  by_contra holds
  obtain ⟨claim, there, -⟩ := h.backed x mem (by simpa using holds)
  rw [none] at there
  cases there

variable {claim : WorkerClaim}

theorem Account.claimed (h : Account xs w) (none : w.files.claim = none)
    (written : f = { w.files with claim := some claim }) (fresh : claim.claimId ∉ w.issued) :
    Account xs (w.wrote f) := by
  subst written
  have zero := h.no_holder none
  have unseen := holders_eq_zero.mp zero
  constructor
  · exact h.once
  · intro x mem holds
    rw [unseen x mem] at holds
    cases holds
  · intro c there
    cases there
    simp [JobWorld.wrote]
  · intro x mem c inHand
    exact List.mem_append_right _ (h.seen x mem c inHand)
  · intro x mem c stale there
    exact zero
  · exact h.begun

/-- The worker whose claim succeeded becomes the holder: the job was queued, so it has neither a
holder nor a launch. -/
theorem Account.take (h : Account (xs ++ (role, g) :: ys) w) (none : w.files.claim = none)
    (queued : ∃ s, w.files.state = some s ∧ s.status = .queued)
    (written : f = { w.files with claim := some claim }) (fresh : claim.claimId ∉ w.issued)
    (own : role = .worker claim.workerPid) :
    Account (xs ++ (role, .holding) :: ys) (w.wrote f) := by
  have zero := h.no_holder none
  have notBegun : ¬ Begun w.files := by
    rintro ⟨s, there, left⟩
    obtain ⟨s', here, queued⟩ := queued
    rw [there] at here
    cases here
    exact left queued
  have noLaunch : w.launches = 0 := by
    by_contra positive
    exact notBegun (h.begun (.inr (Nat.pos_of_ne_zero positive)))
  have claimed := h.claimed none written fresh
  subst written
  rw [holders_middle] at zero
  have others : holders (xs ++ ys) = 0 := by omega
  have idle := holders_eq_zero.mp others
  have split : ∀ x ∈ xs ++ (role, Stage.holding) :: ys,
      x = (role, .holding) ∨ x ∈ xs ++ ys ∧ x ∈ xs ++ (role, g) :: ys := by
    intro x mem
    simp only [List.mem_append, List.mem_cons] at mem ⊢
    tauto
  constructor
  · rw [holders_middle, others]
    show 0 + 1 + w.launches ≤ 1
    omega
  · intro x mem holds
    rcases split x mem with rfl | ⟨mem, -⟩
    · exact ⟨claim, rfl, own⟩
    · rw [idle x mem] at holds
      cases holds
  · exact claimed.issued
  · intro x mem c inHand
    rcases split x mem with rfl | ⟨-, mem⟩
    · cases inHand
    · exact claimed.seen x mem c inHand
  · intro x mem c stale there
    rcases split x mem with rfl | ⟨-, mem⟩
    · cases stale
    · cases there
      exact absurd (h.seen x mem claim (by rw [stale]; rfl)) fresh
  · rintro (⟨x, mem, started⟩ | launched)
    · rcases split x mem with rfl | ⟨mem, -⟩
      · cases started
      · have holds := idle x mem
        rw [started] at holds
        cases holds
    · exact claimed.begun (.inr launched)

/-- A claim whose worker is gone has no holder, so it may be cleared. -/
theorem Account.cleared (h : Account xs w) (stale : ∃ x ∈ xs, x.2 = .stale claim)
    (there : w.files.claim = some claim) (written : f = { w.files with claim := none }) :
    Account xs (w.wrote f) := by
  subst written
  obtain ⟨y, here, gone⟩ := stale
  have zero := h.gone y here claim gone there
  constructor
  · exact h.once
  · intro x mem holds
    rw [holders_eq_zero.mp zero x mem] at holds
    cases holds
  · intro c now
    cases now
  · intro x mem c inHand
    exact List.mem_append_right _ (h.seen x mem c inHand)
  · intro x mem c _ now
    cases now
  · exact h.begun

/-- A launch uses up the holder. -/
theorem Account.launched (h : Account (xs ++ (role, .started) :: ys) w) :
    Account (xs ++ (role, .launched) :: ys) { w with launches := w.launches + 1 } := by
  have begun : Begun w.files := h.begun (.inl ⟨(role, .started), by simp, rfl⟩)
  have once := h.once
  rw [holders_middle] at once
  have stays : Account (xs ++ (role, .launched) :: ys) w := by
    apply h.stage
    · intro holds
      cases holds
    · intro claim inHand
      cases inHand
    · intro claim stale
      cases stale
    · intro started
      cases started
  constructor
  · rw [holders_middle]
    simp only [Stage.holds, Bool.toNat_true, Bool.toNat_false] at once ⊢
    omega
  · exact stays.backed
  · exact stays.issued
  · exact stays.seen
  · exact stays.gone
  · intro _
    exact begun

/-! ### Every step keeps the account -/

variable {α : Type}

theorem Performs.quiet {op : JobFiles → Except PyError (α × JobFiles)} {r : Except PyError α}
    (h : Performs w op r w') (spec : ∀ a f, op w.files = .ok (a, f) →
      f.claim = w.files.claim ∧ StateStep w.files.state f.state) : Quiet w w' := by
  rcases h with ⟨a, f, ran, rfl, -⟩ | ⟨e, -, rfl⟩
  · obtain ⟨claim, step⟩ := spec a f ran
    exact .of_wrote claim fun begun => begun.step step
  · exact .refl w'

variable {clock : Value} {jobId token : String} {result : DurableJobSnapshot} {store : JobStore}
  {updates : Dict}

theorem updateState_quiet {status : Option String}
    (h : store.updateState jobId token status updates clock f = .ok (result, f')) :
    f'.claim = f.claim ∧ StateStep f.state f'.state := by
  obtain ⟨s, s', there, rfl, moves, -, revision⟩ := updateState_spec h
  exact ⟨rfl, there ▸ .written moves revision⟩

theorem transitionToOutcomeUnknown_quiet {executionId : String} {args : OutcomeUnknown}
    (h : store.transitionToOutcomeUnknown jobId executionId args clock f = .ok (result, f')) :
    f'.claim = f.claim ∧ StateStep f.state f'.state := by
  rcases transitionToOutcomeUnknown_spec h with
    rfl | ⟨s, s', there, rfl, -, -, moves, -, revision⟩
  · exact ⟨rfl, .kept _⟩
  · exact ⟨rfl, there ▸ .written moves revision⟩

theorem writeHeartbeat_quiet {pid : Int} {written : Bool}
    (h : store.writeHeartbeat jobId token pid clock f = .ok (written, f')) :
    f'.claim = f.claim ∧ StateStep f.state f'.state := by
  rcases writeHeartbeat_spec h with ⟨-, rfl⟩ | ⟨-, -, -, heartbeat, rfl⟩
  · exact ⟨rfl, .kept _⟩
  · exact ⟨rfl, .kept _⟩

/-- A write of `starting` begins the job. -/
theorem updateState_begins (h : store.updateState jobId token (some "starting") updates clock f = .ok (result, f')) :
    Begun f' := by
  obtain ⟨s, s', there, rfl, -, valid, -⟩ := updateState_spec h
  have named : nextStatusText (some "starting") s.status = JobStatus.starting.text := rfl
  have status := validateTransition_text valid named
  exact ⟨s', rfl, by simp [status]⟩

theorem readClaim_spec (h : store.readClaim jobId f = .ok (some claim)) : f.claim = some claim := by
  obtain ⟨spec, -, h⟩ := bind_ok h
  cases there : f.claim with
  | none =>
    rw [there] at h
    cases h
  | some c =>
    rw [there] at h
    obtain ⟨_, -, h⟩ := bind_ok h
    obtain ⟨-, h⟩ := raiseIf_bind_ok h
    cases h
    rfl

theorem outside_quiet (store : JobStore) (jobId : String) {call : Call} (outside : Outside call) :
    (call.after store jobId f).claim = f.claim := by
  cases call with
  | reserveProcessJob args clock => exact (reserveProcessJob_reserves store args clock f).claim
  | writeHeartbeat token pid clock =>
    refine filesAfter_cases (P := fun f' => f'.claim = f.claim) rfl fun a f' ran => ?_
    exact (writeHeartbeat_quiet ran).1
  | requestCancel executionId clock =>
    refine filesAfter_cases (P := fun f' => f'.claim = f.claim) rfl fun a f' ran => ?_
    obtain ⟨marker, rfl⟩ := requestCancel_spec ran
    rfl
  | claimWorker | clearStaleClaim | updateState | transitionToOutcomeUnknown => exact outside.elim

theorem Account.leave {x : Role × Stage} (h : Account (xs ++ x :: ys) w) :
    Account (xs ++ ys) w := by
  have within : ∀ y ∈ xs ++ ys, y ∈ xs ++ x :: ys := by
    intro y mem
    simp only [List.mem_append, List.mem_cons] at mem ⊢
    tauto
  have fewer : holders (xs ++ ys) ≤ holders (xs ++ x :: ys) := by
    rw [holders_middle]
    omega
  constructor
  · exact Nat.le_trans (Nat.add_le_add_right fewer _) h.once
  · exact fun y mem => h.backed y (within y mem)
  · exact h.issued
  · exact fun y mem => h.seen y (within y mem)
  · intro y mem claim stale there
    have zero := h.gone y (within y mem) claim stale there
    omega
  · rintro (⟨y, mem, started⟩ | launched)
    · exact h.begun (.inl ⟨y, within y mem, started⟩)
    · exact h.begun (.inr launched)

theorem Account.enter (h : Account xs w) (role : Role) : Account ((role, .idle) :: xs) w := by
  have same : holders ((role, .idle) :: xs) = holders xs := by simp [holders, Stage.holds]
  constructor
  · rw [same]
    exact h.once
  · rintro x (_ | ⟨_, mem⟩) holds
    · cases holds
    · exact h.backed x mem holds
  · exact h.issued
  · rintro x (_ | ⟨_, mem⟩) claim inHand
    · cases inHand
    · exact h.seen x mem claim inHand
  · rintro x (_ | ⟨_, mem⟩) claim stale there
    · cases stale
    · rw [same]
      exact h.gone x mem claim stale there
  · rintro (⟨x, _ | ⟨_, mem⟩, started⟩ | launched)
    · cases started
    · exact h.begun (.inl ⟨x, mem, started⟩)
    · exact h.begun (.inr launched)

variable {c : Cmd}

theorem account_answer {r : Except PyError (Reply c)} (h : Account (xs ++ (role, g) :: ys) w)
    (allowed : launchAllows role g c)
    (answered : answers store jobId ((xs ++ (role, g) :: ys).map Prod.fst) w c r w') :
    Account (xs ++ (role, launchNext g c r) :: ys) w' := by
  have here : (role, g) ∈ xs ++ (role, g) :: ys := by simp
  cases c with
  | claimWorker token pid =>
    obtain ⟨generated, clock, fresh, performs⟩ := answered
    rcases performs with ⟨claimed, f, ran, rfl, result⟩ | ⟨e, rfl, rfl⟩
    · rcases claimWorker_spec ran with ⟨rfl, rfl⟩ | ⟨rfl, none, queued, now, written⟩
      · have quiet : Quiet w (w.wrote w.files) := .of_wrote rfl id
        rcases result with rfl | ⟨e, rfl⟩
        · exact h.quiet quiet
        · exact h.quiet quiet
      · rcases result with rfl | ⟨e, rfl⟩
        · exact h.take none queued written fresh allowed
        · exact h.claimed none written fresh
    · exact h
  | clearStaleClaim token expected =>
    rcases answered with ⟨cleared, f, ran, rfl, result⟩ | ⟨e, rfl, rfl⟩
    · rcases clearStaleClaim_spec ran with ⟨-, rfl⟩ | ⟨-, there, -, written⟩
      · exact h.quiet (.of_wrote rfl id)
      · exact h.cleared ⟨(role, g), here, allowed⟩ there written
    · exact h
  | updateState token status updates =>
    obtain ⟨clock, performs⟩ := answered
    have next := h.quiet (performs.quiet fun _ _ => updateState_quiet)
    cases r with
    | error e => cases status <;> exact next
    | ok result =>
      cases status with
      | none => exact next
      | some status =>
        by_cases starts : g = .holding ∧ status = "starting"
        · obtain ⟨rfl, rfl⟩ := starts
          rcases performs with ⟨a, f, ran, rfl, -⟩ | ⟨e, raised, -⟩
          · apply next.stage
            · exact fun _ => rfl
            · intro claim inHand
              cases inHand
            · intro claim stale
              cases stale
            · intro _
              exact updateState_begins ran
          · cases raised
        · simp only [launchNext, if_neg starts]
          exact next
  | popen argv cwd =>
    obtain rfl : g = .started := allowed
    obtain rfl := answered
    exact h.launched
  | readClaim =>
    obtain ⟨rfl, result⟩ := answered
    cases r with
    | error e => exact h
    | ok found =>
      cases found with
      | none => exact h
      | some claim =>
        have there : w'.files.claim = some claim := by
          rcases result with result | ⟨e, raised⟩
          · exact readClaim_spec result.symm
          · cases raised
        apply h.stage
        · intro holds
          cases holds
        · intro c inHand
          cases inHand
          exact h.issued claim there
        · intro c stale
          cases stale
        · intro started
          cases started
  | pidMayBeAlive pid =>
    obtain ⟨rfl, dead⟩ := answered
    cases r with
    | error e => exact h
    | ok alive =>
      cases alive with
      | true => exact h
      | false =>
        cases g with
        | read claim =>
          by_cases same : claim.workerPid = pid
          · simp only [launchNext, if_pos same]
            apply h.stage
            · intro holds
              cases holds
            · intro c inHand
              cases inHand
              exact h.seen _ here claim rfl
            · intro c stale there
              cases stale
              -- a holder would be a live worker with this process id
              rw [holders_eq_zero]
              intro x mem
              by_contra holds
              obtain ⟨c, found, own⟩ := h.backed x mem (by simpa using holds)
              rw [there] at found
              cases found
              exact dead rfl (List.mem_map.mpr ⟨x, mem, by rw [own, same]⟩)
            · intro started
              cases started
          · simp only [launchNext, if_neg same]
            exact h
        | _ => exact h
  | transitionToOutcomeUnknown executionId args =>
    obtain ⟨clock, performs⟩ := answered
    exact h.quiet (performs.quiet fun _ _ => transitionToOutcomeUnknown_quiet)
  | writeHeartbeat token pid =>
    obtain ⟨clock, performs⟩ := answered
    exact h.quiet (performs.quiet fun _ _ => writeHeartbeat_quiet)
  | loadSpec | load | workerClaimIsCurrent | readHeartbeat | cancelRequested => exact answered.1 ▸ h
  | _ => exact answered ▸ h

/-! ### The programs obey -/

/-- A command that any member may issue at any stage. -/
def Harmless : Cmd → Prop
  | .claimWorker _ _ => False
  | .clearStaleClaim _ _ => False
  | .popen _ _ => False
  | _ => True

theorem launchAllows_of_harmless (h : Harmless c) (g : Stage) : launchAllows role g c := by
  cases c <;> first | trivial | exact h.elim

variable {post : Stage → α → Prop}

theorem obeys_ask {g : Stage} {f : Reply c → Prog jobInterface PyError α}
    (allowed : launchAllows role g c)
    (next : ∀ reply, Obeys (launchWatch.of role) (launchNext g c (.ok reply)) (f reply) post) :
    Obeys (launchWatch.of role) g (ask c >>= f) post := by
  refine ⟨allowed, fun r => ?_⟩
  cases r with
  | error e => trivial
  | ok reply => exact next reply

theorem obeys_attempt {vars : WorkerVars} {g : Stage}
    {f : Reply c → Prog jobInterface WorkerFailure α} (allowed : launchAllows role g c)
    (next : ∀ reply, Obeys (launchWatch.of role) (launchNext g c (.ok reply)) (f reply) post) :
    Obeys (launchWatch.of role) g (attempt vars c >>= f) post := by
  refine ⟨allowed, fun r => ?_⟩
  cases r with
  | error e => trivial
  | ok reply => exact next reply

theorem obeys_of_harmless {ε : Type} {p : Prog jobInterface ε α} (h : p.Only Harmless) (g : Stage) :
    Obeys (launchWatch.of role) g p fun _ _ => True :=
  obeys_of_allowed (M := launchWatch.of role)
    (fun _ harmless => launchAllows_of_harmless harmless) h g

section Harmless

variable {c : Cmd}

theorem only_ask (h : Harmless c) : (ask c).Only Harmless :=
  ⟨h, fun _ => only_lift _⟩

theorem only_attempt {vars : WorkerVars} (h : Harmless c) : (attempt vars c).Only Harmless := by
  refine ⟨h, fun r => ?_⟩
  cases r <;> trivial

theorem watchCommand_harmless (vars : WorkerVars) (timeoutMs : Int) (rounds : Nat) :
    (watchCommand vars timeoutMs rounds).Only Harmless := by
  induction rounds with
  | zero => trivial
  | succ rounds ih =>
    refine only_bind (only_attempt trivial) fun polled => ?_
    cases polled with
    | some _ => trivial
    | none =>
      refine only_bind (only_attempt trivial) fun cancelled => ?_
      cases cancelled with
      | true => exact only_bind (only_attempt trivial) fun _ => only_pure _
      | false =>
        refine only_bind (only_attempt trivial) fun late => ?_
        cases late with
        | true => exact only_bind (only_attempt trivial) fun _ => only_pure _
        | false => exact only_bind (only_attempt trivial) fun _ => ih

theorem superviseCommand_harmless (spec : JobSpec) (token : String) (pid child : Int)
    (snapshot : DurableJobSnapshot) (rounds : Nat) :
    (superviseCommand spec token pid child snapshot rounds).Only Harmless := by
  refine only_bind (only_attempt trivial) fun running => ?_
  refine only_bind (watchCommand_harmless _ _ _) fun watched => ?_
  cases watched with
  | none => trivial
  | some ended =>
    refine only_bind (only_bind (only_attempt trivial) fun waited => ?_) fun returncode => ?_
    · cases waited with
      | some code => trivial
      | none => exact only_bind (only_attempt trivial) fun _ => only_attempt trivial
    · refine only_bind (only_attempt trivial) fun report => ?_
      cases returncode with
      | none => trivial
      | some code => exact only_bind (only_attempt trivial) fun _ => only_pure _

theorem ignoring_harmless {p : Prog jobInterface PyError Unit} (h : p.Only Harmless) :
    (ignoring p).Only Harmless := by
  induction p with
  | ret a => trivial
  | raise e => trivial
  | call c k ih => exact ⟨h.1, fun r => ih r (h.2 r)⟩

theorem recordOrchestrationFailure_harmless (snapshot : DurableJobSnapshot) (token : String)
    (pid : Int) (process : Option Int) (error : PyError) :
    (recordOrchestrationFailure snapshot token pid process error).Only Harmless := by
  refine ⟨trivial, fun loaded => ?_⟩
  cases loaded with
  | error e => trivial
  | ok current =>
    simp only
    split
    · trivial
    · cases process with
      | none => exact ignoring_harmless (only_bind (only_ask trivial) fun _ => only_pure _)
      | some child =>
        refine only_bind (only_ask trivial) fun _ => only_bind (only_ask trivial) fun polled => ?_
        cases polled with
        | none => trivial
        | some code =>
          exact ignoring_harmless (only_bind (only_ask trivial) fun _ => only_pure _)

variable (sup : Supervisor) (snapshot : DurableJobSnapshot) {heartbeat : Option Heartbeat}

theorem heartbeatIsFresh_harmless :
    (sup.heartbeatIsFresh snapshot heartbeat).Only Harmless := by
  cases heartbeat with
  | none => trivial
  | some heartbeat =>
    unfold Supervisor.heartbeatIsFresh
    simp only
    split
    · trivial
    · exact only_bind (only_ask trivial) fun _ => only_pure _

theorem suspectGraceElapsed_harmless (reason claimId : String) :
    (sup.suspectGraceElapsed snapshot heartbeat reason claimId).Only Harmless := by
  refine only_bind (only_ask trivial) fun now => only_bind (only_ask trivial) fun seen => ?_
  cases seen with
  | none => exact only_bind (only_ask trivial) fun _ => only_pure _
  | some observation =>
    simp only
    split
    · exact only_bind (only_ask trivial) fun _ => only_pure _
    · trivial

theorem persistOutcomeUnknown_harmless (reason : String) (recheck : Bool)
    (expectedClaimId : Option String) :
    (sup.persistOutcomeUnknown snapshot reason recheck heartbeat expectedClaimId).Only
      Harmless := by
  refine only_bind ?_ fun staleBefore => only_bind (only_ask trivial) fun result =>
    only_bind (only_ask trivial) fun _ => only_pure _
  cases recheck with
  | true => exact only_bind (only_ask trivial) fun _ => only_pure _
  | false => trivial

theorem spawnWorker_harmless : (sup.spawnWorker snapshot).Only Harmless := by
  refine only_bind (only_ask trivial) fun closed => ?_
  cases closed with
  | true => trivial
  | false =>
    simp only [Bool.false_eq_true, if_false]
    split
    · trivial
    · refine only_bind (only_ask trivial) fun running => ?_
      cases running with
      | true => trivial
      | false =>
        refine only_bind (only_ask trivial) fun now => only_bind (only_ask trivial) fun last => ?_
        split
        · trivial
        · exact only_bind (only_ask trivial) fun _ => only_ask trivial

end Harmless

/-- The command is launched only after the claim and the `starting` write. -/
theorem launchCommand_obeys (spec : JobSpec) (token : String) (pid : Int) (rounds : Nat) :
    Obeys (launchWatch.of (.worker pid)) Stage.holding (launchCommand spec token pid rounds)
      fun _ _ => True := by
  refine obeys_attempt trivial fun beat => ?_
  cases beat with
  | false => trivial
  | true =>
    refine obeys_attempt trivial fun loaded => obeys_attempt trivial fun started => ?_
    have begun : launchNext (launchNext (launchNext .holding (.writeHeartbeat token pid)
        (.ok true)) (.load spec.executionId) (.ok loaded))
        (.updateState token (some "starting") [("worker_pid", .int pid)]) (.ok started)
        = .started := rfl
    refine obeys_attempt trivial fun cancelled => ?_
    cases cancelled with
    | true =>
      apply obeys_of_harmless
      exact only_bind (only_attempt trivial) fun _ => only_pure _
    | false =>
      refine obeys_attempt trivial fun current => ?_
      cases current with
      | false =>
        apply obeys_of_harmless
        exact only_bind (only_attempt trivial) fun _ => only_pure _
      | true =>
        refine obeys_attempt rfl fun child => ?_
        exact obeys_of_harmless (superviseCommand_harmless _ _ _ _ _ _) _

theorem runWorker_obeys (token : String) (pid : Int) (rounds : Nat) :
    Obeys (launchWatch.of (.worker pid)) Stage.idle (runWorker token pid rounds)
      fun _ _ => True := by
  refine obeys_ask trivial fun spec => obeys_ask trivial fun digest => ?_
  simp only
  split
  · trivial
  · split
    · trivial
    · refine obeys_ask rfl fun claimed => ?_
      cases claimed with
      | false => trivial
      | true =>
        apply obeys_tryCatch (launchCommand_obeys spec token pid rounds)
        rintro g ⟨vars, e⟩
        apply obeys_of_harmless
        cases vars.snapshot with
        | none => trivial
        | some snapshot =>
          exact only_bind (recordOrchestrationFailure_harmless _ _ _ _ _) fun _ => only_pure _

theorem reconcileClaim_obeys (sup : Supervisor) (snapshot : DurableJobSnapshot)
    (allowLaunch : Bool) (heartbeat : Option Heartbeat) (fresh : Bool) (claim : WorkerClaim) :
    Obeys (launchWatch.of .supervisor) (Stage.read claim)
      (sup.reconcileClaim snapshot allowLaunch heartbeat fresh claim) fun _ _ => True := by
  unfold Supervisor.reconcileClaim
  split
  · exact obeys_of_harmless (persistOutcomeUnknown_harmless _ _ _ _ _) _
  · split
    · apply obeys_of_harmless
      exact only_bind (only_ask trivial) fun _ => only_pure _
    · refine obeys_ask trivial fun now => ?_
      split
      · apply obeys_of_harmless
        exact only_bind (only_ask trivial) fun _ => only_pure _
      · split
        · exact obeys_of_harmless (persistOutcomeUnknown_harmless _ _ _ _ _) _
        · refine obeys_ask trivial fun alive => ?_
          cases alive with
          | true =>
            apply obeys_of_harmless
            refine only_bind (suspectGraceElapsed_harmless _ _ _ _) fun elapsed => ?_
            cases elapsed with
            | false => trivial
            | true => exact persistOutcomeUnknown_harmless _ _ _ _ _
          | false =>
            have gone : launchNext (launchNext (.read claim) .nowMs (.ok now))
                (.pidMayBeAlive claim.workerPid) (.ok false) = .stale claim := by
              simp [launchNext]
            rw [gone]
            refine obeys_ask trivial fun _ => ?_
            cases allowLaunch with
            | false => trivial
            | true =>
              refine obeys_ask rfl fun cleared => ?_
              cases cleared with
              | false => trivial
              | true =>
                apply obeys_of_harmless
                exact only_bind (spawnWorker_harmless _ _) fun _ => only_ask trivial

theorem reconcile_obeys (sup : Supervisor) (snapshot : DurableJobSnapshot) (allowLaunch : Bool) :
    Obeys (launchWatch.of .supervisor) Stage.idle (sup.reconcile snapshot allowLaunch)
      fun _ _ => True := by
  unfold Supervisor.reconcile
  split
  · apply obeys_of_harmless
    exact only_bind (only_ask trivial) fun _ => only_pure _
  · refine obeys_ask trivial fun heartbeat => ?_
    refine obeys_bind (obeys_of_harmless (heartbeatIsFresh_harmless _ _) _) fun g fresh _ => ?_
    split
    · apply obeys_of_harmless
      split
      · exact only_bind (only_ask trivial) fun _ => only_pure _
      · refine only_bind (only_ask trivial) fun now => ?_
        split
        · exact only_bind (only_ask trivial) fun _ => only_pure _
        · refine only_bind (suspectGraceElapsed_harmless _ _ _ _) fun elapsed => ?_
          cases elapsed with
          | false => trivial
          | true => exact persistOutcomeUnknown_harmless _ _ _ _ _
    · split
      · trivial
      · refine obeys_ask trivial fun claim => ?_
        cases claim with
        | none =>
          apply obeys_of_harmless
          refine only_bind (only_ask trivial) fun _ => ?_
          cases allowLaunch with
          | false => trivial
          | true => exact only_bind (spawnWorker_harmless _ _) fun _ => only_ask trivial
        | some claim => exact reconcileClaim_obeys sup snapshot allowLaunch heartbeat fresh claim

theorem obeys_map {β : Type} {f : α → β} {p : Prog jobInterface PyError α} {g : Stage}
    (h : Obeys (launchWatch.of role) g p fun _ _ => True) :
    Obeys (launchWatch.of role) g (f <$> p) fun _ _ => True :=
  obeys_bind h fun _ _ _ => trivial

/-- Every kind of step keeps the account. -/
theorem account_kept (store : JobStore) (jobId : String) :
    Kept (surroundings store jobId) launchWatch Account where
  start h _ := h.enter _
  answer h allowed answered := account_answer h allowed answered
  leave h := h.leave
  move := by
    rintro xs w _ h ⟨call, outside, rfl⟩
    have safe := call_safe store jobId w.files call
    exact h.quiet (.of_wrote (outside_quiet store jobId outside) fun begun => begun.step safe.state)

/-- A world whose command has not been started, and whose claim has a known id. -/
def NotLaunched (w : JobWorld) : Prop :=
  w.launches = 0 ∧ ∀ claim, w.files.claim = some claim → claim.claimId ∈ w.issued

/-- In every run of worker wrappers and reconciliations over one job, with crashes anywhere, the
command of the job is started at most once. -/
theorem command_launched_at_most_once (store : JobStore) (jobId : String)
    {s : Crew jobInterface PyError JobOutcome Role JobWorld}
    (h : Reachable (surroundings store jobId) NotLaunched s) : s.world.launches ≤ 1 := by
  have entry : ∀ role p, (surroundings store jobId).starts role p →
      Obeys (launchWatch.of role) launchWatch.start p fun _ _ => True := by
    intro role p starts
    cases role with
    | worker pid =>
      obtain ⟨token, rounds, rfl⟩ := starts
      exact obeys_map (runWorker_obeys token pid rounds)
    | supervisor =>
      obtain ⟨sup, snapshot, allowLaunch, rfl⟩ := starts
      exact obeys_map (reconcile_obeys sup snapshot allowLaunch)
  have initial : ∀ w, NotLaunched w → Account [] w := by
    rintro w ⟨none, known⟩
    refine ⟨by simp [holders, none], by simp, known, by simp, by simp, ?_⟩
    rintro (⟨x, mem, -⟩ | launched)
    · cases mem
    · omega
  obtain ⟨states, account⟩ := monitored (account_kept store jobId) entry initial h
  have once := account.once
  omega

/-! ### A run that launches -/

theorem advance {store : JobStore} {jobId : String} {w w' : JobWorld} {c : Cmd}
    {k : Except PyError (Reply c) → Prog jobInterface PyError JobOutcome}
    {r : Except PyError (Reply c)}
    (h : Reachable (surroundings store jobId) NotLaunched ⟨[(role, .call c k)], w⟩)
    (answered : answers store jobId [role] w c r w') :
    Reachable (surroundings store jobId) NotLaunched ⟨[(role, k r)], w'⟩ :=
  have step : Step (surroundings store jobId) ⟨[] ++ (role, .call c k) :: [], w⟩
      ⟨[] ++ (role, k r) :: [], w'⟩ := .answer answered
  .step h step

def greetToken : String := "00112233445566778899aabbccddeeff"

def greetClaimed : JobFiles :=
  { greetFiles with
    claim := some ⟨1, greetJob, greetToken, "ffeeddccbbaa99887766554433221100", 7, 6⟩ }

def greetBeating : JobFiles :=
  { greetClaimed with heartbeat := some ⟨1, greetJob, greetToken, 7, 1, 7⟩ }

def greetStarting : JobState :=
  { initialState greetSpec with
    status := .starting, updatedAtMs := 8, revision := 1, workerPid := some 7 }

def greetStarted : JobFiles := { greetBeating with state := some greetStarting }

def greetWorld : JobWorld := ⟨greetFiles, 0, []⟩

theorem greet_launched :
    ∃ s, Reachable (surroundings greetStore greetJob) NotLaunched s ∧ s.world.launches = 1 ∧
      s.world.launches ≤ 1 := by
  have idle : Reachable (surroundings greetStore greetJob) NotLaunched ⟨[], greetWorld⟩ :=
    .init ⟨rfl, fun _ there => by cases there⟩
  have run0 : Reachable (surroundings greetStore greetJob) NotLaunched
      ⟨[(.worker 7, JobOutcome.worker <$> runWorker greetToken 7 0)], greetWorld⟩ :=
    .step idle (.start ⟨greetToken, 0, rfl⟩)
  have run1 := advance (c := .loadSpec) (r := .ok greetSpec) run0 ⟨rfl, .inl rfl⟩
  have run2 := advance (c := .captureEnvironment) (r := .ok greetSpec.environmentDigest) run1 rfl
  have run3 := advance (c := .claimWorker greetToken 7) (r := .ok true) run2
    ⟨"ffeeddccbbaa99887766554433221100", .int 6, List.not_mem_nil,
      .inl ⟨true, greetClaimed, rfl, rfl, .inl rfl⟩⟩
  have run4 := advance (c := .writeHeartbeat greetToken 7) (r := .ok true) run3
    ⟨.int 7, .inl ⟨true, greetBeating, rfl, rfl, .inl rfl⟩⟩
  have run5 := advance (c := .load "run-1") (r := .ok (snapshot greetSpec (initialState greetSpec)))
    run4 ⟨rfl, .inl rfl⟩
  have run6 := advance (c := .updateState greetToken (some "starting") [("worker_pid", .int 7)])
    (r := .ok (snapshot greetSpec greetStarting)) run5
    ⟨.int 8, .inl ⟨_, greetStarted, rfl, rfl, .inl rfl⟩⟩
  have run7 := advance (c := .cancelRequested) (r := .ok false) run6 ⟨rfl, .inl rfl⟩
  have run8 := advance (c := .workerClaimIsCurrent greetToken 7) (r := .ok true) run7
    ⟨rfl, .inl rfl⟩
  have run9 := advance (c := .popen ["greet"] "/tmp") (r := .ok 8) run8 rfl
  exact ⟨_, run9, rfl, command_launched_at_most_once greetStore greetJob run9⟩

end Unchain.Jobs
