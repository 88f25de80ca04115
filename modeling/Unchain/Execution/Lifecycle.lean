import Unchain.Execution.Frames

/-!
The life of an execution guard over whole runs, against any store.

Released guards stay released, reacquired tokens rise, fences come from active guards and borrowed
guards release nothing, whatever the store does. The heartbeat of an active guard can be lost.
`release` stops it before it asks the store, and a store that raises leaves the guard active
without heartbeat or error; a renewal that dies of something that is no `Exception` ends the thread
as silently. `guard_lifecycle_iff` says that nothing else loses it.
-/

namespace Unchain.Execution

open Lib Lib.Effect Lib.History Memory Python

variable {repr : String → String} {store : LeaseStore} {config : ExecutionLeaseConfig}

/-! ### The heartbeat -/

/-- The heartbeat of an active guard still renews, or its error is there to be reported. -/
def HeartbeatKept (config : ExecutionLeaseConfig) (w : World) : Prop :=
  w.owned.state = .active → 0 < config.heartbeatIntervalMs →
    (w.owned.heartbeatThread = true ∧ w.owned.heartbeatStop = false) ∨
      w.owned.heartbeatError.isSome = true

/-- A running heartbeat belongs to an active guard that has had no failure. -/
def Listening (config : ExecutionLeaseConfig) (w : World) : Prop :=
  w.owned.heartbeatThread = true → w.owned.heartbeatStop = false ∧ w.owned.state = .active ∧
    w.owned.heartbeatError = none ∧ 0 < config.heartbeatIntervalMs

/-- The step does not lose the heartbeat: the store releases the lease that an active guard gives
back, unless the error of its heartbeat is already there, and it does not kill the thread of a
beat. -/
def KeepsHeartbeat (store : LeaseStore) (config : ExecutionLeaseConfig) (w : World) : Step → Prop
  | .on i call =>
    w.guards[i]? = some .owned → call = .release ∨ call = .releaseForWait →
    w.owned.state = .active → 0 < config.heartbeatIntervalMs →
    w.owned.heartbeatError = none →
    ∃ answer, store w.calls (releaseCall w.owned.lease) = .ok answer
  | .tick =>
    w.owned.heartbeatThread = true →
    ¬ ∃ cls, store w.calls (renewCall config.ttlMs w.owned.lease) =
      .error (.baseException cls)

variable {w w' : World}

theorem Aside.keeps (aside : Aside w w') :
    (Listening config w → Listening config w') ∧ (HeartbeatKept config w → HeartbeatKept config w') := by
  obtain ⟨held, -, owned⟩ := aside.owned
  unfold Listening HeartbeatKept
  rw [owned]
  exact ⟨id, id⟩

theorem listening_of_no_thread (ended : w.owned.heartbeatThread = false) : Listening config w := by
  intro running
  rw [ended] at running
  cases running

theorem heartbeatKept_of_not_active (state : w.owned.state ≠ .active) :
    HeartbeatKept config w := fun active => absurd active state

variable {next : GuardState}

theorem heartbeatKept_afterRelease_iff (leaves : next ≠ .active) (active : w.owned.state = .active)
    :
    HeartbeatKept config (afterRelease store next w) ↔
      (0 < config.heartbeatIntervalMs → w.owned.heartbeatError = none →
        ∃ answer, store w.calls (releaseCall w.owned.lease) = .ok answer) := by
  unfold afterRelease
  cases answered : store w.calls (releaseCall w.owned.lease) with
  | ok answer =>
    refine iff_of_true (heartbeatKept_of_not_active leaves) ?_
    intro _ _
    exact ⟨answer, rfl⟩
  | error e =>
    simp only [HeartbeatKept, OwnedGuard.stopped, active, Bool.false_eq_true, false_and, false_or,
      forall_const, reduceCtorEq, exists_false, imp_false]
    cases w.owned.heartbeatError <;> simp

theorem heartbeatKept_giveBack_iff (leaves : next ≠ .active)
    (passive : w.owned.state ≠ .active → w'.owned.state ≠ .active)
    (gives : w.owned.state = .active → w' = afterRelease store next w) : HeartbeatKept config w' ↔
      (w.owned.state = .active → 0 < config.heartbeatIntervalMs →
        w.owned.heartbeatError = none →
        ∃ answer, store w.calls (releaseCall w.owned.lease) = .ok answer) := by
  by_cases active : w.owned.state = .active
  · rw [gives active, heartbeatKept_afterRelease_iff leaves active]
    exact ⟨fun h _ => h, fun h => h active⟩
  · exact iff_of_true (heartbeatKept_of_not_active (passive active)) fun h => absurd h active

theorem giveBack_release :
    (w.owned.state ≠ .active → (endState (release store .owned w)).owned.state ≠ .active) ∧
      (w.owned.state = .active →
        endState (release store .owned w) = afterRelease store .released w) := by
  rw [endState_release_owned]
  cases state : w.owned.state with
  | released => exact ⟨fun _ => by simp [OwnedGuard.stopped, state], fun h => by cases h⟩
  | waiting => exact ⟨fun _ => by simp [OwnedGuard.left], fun h => by cases h⟩
  | active => exact ⟨fun h => absurd rfl h, fun _ => rfl⟩

theorem giveBack_releaseForWait :
    (w.owned.state ≠ .active →
      (endState (releaseForWait repr store .owned w)).owned.state ≠ .active) ∧
      (w.owned.state = .active →
        endState (releaseForWait repr store .owned w) = afterRelease store .waiting w) := by
  rw [endState_releaseForWait_owned]
  cases state : w.owned.state with
  | released | waiting => exact ⟨fun _ => by simp [OwnedGuard.stopped, state], fun h => by cases h⟩
  | active => exact ⟨fun h => absurd rfl h, fun _ => rfl⟩

/-- Both methods that give the lease back have stopped the heartbeat when they end. -/
theorem noThread_release :
    (endState (release store .owned w)).owned.heartbeatThread = false := by
  rw [endState_release_owned]
  split
  · rfl
  · rfl
  · unfold afterRelease
    split <;> rfl

theorem noThread_releaseForWait :
    (endState (releaseForWait repr store .owned w)).owned.heartbeatThread = false := by
  rw [endState_releaseForWait_owned]
  split
  · rfl
  · rfl
  · unfold afterRelease
    split <;> rfl

/-- A guard that was just built has a heartbeat, or a configuration without one. -/
theorem listening_started {held : ExecutionLease} (owned : w.owned = started config held) :
    Listening config w ∧ HeartbeatKept config w := by
  unfold Listening HeartbeatKept
  rw [owned]
  have nonneg := config.interval_nonneg
  constructor
  · intro running
    have interval : config.heartbeatIntervalMs ≠ 0 := by simpa [started] using running
    refine ⟨rfl, rfl, rfl, ?_⟩
    omega
  · intro _ positive
    left
    refine ⟨?_, rfl⟩
    simp only [started, decide_eq_true_eq]
    omega

theorem reacquire_keeps (revision : Option Int) : (Listening config w →
      Listening config (endState (reacquire repr store config revision .owned w))) ∧
    (HeartbeatKept config w →
      HeartbeatKept config (endState (reacquire repr store config revision .owned w))) := by
  have ended : Ensures (reacquire repr store config revision .owned) w _ _ :=
    ensures_reacquire_owned revision
  unfold Ensures at ended
  cases outcome : reacquire repr store config revision .owned w with
  | ok new w' =>
    rw [outcome] at ended
    have fresh := listening_started ended.2.2.1
    exact ⟨fun _ => fresh.1, fun _ => fresh.2⟩
  | error e w' =>
    rw [outcome] at ended
    unfold Listening HeartbeatKept
    rw [endState_error, ended.1]
    exact ⟨id, id⟩

theorem heartbeat_exact (listening : Listening config w) (kept : HeartbeatKept config w) :
    Listening config (endState (heartbeat repr store config w)) ∧
    (HeartbeatKept config (endState (heartbeat repr store config w)) ↔
      KeepsHeartbeat store config w .tick) := by
  cases running : w.owned.heartbeatThread with
  | false =>
    have same : endState (heartbeat repr store config w) = w := by
      simp [heartbeat, running]
    rw [same, KeepsHeartbeat, running]
    exact ⟨listening, iff_of_true kept (by simp)⟩
  | true =>
    obtain ⟨stop, active, error, positive⟩ := listening running
    have reads : Reads w (endState (renewLocked repr store config w)) := reads_renewLocked w
    have dies : (∃ cls w', renewLocked repr store config w = .error (.baseException cls) w') ↔ _ :=
      renewLocked_dies_iff
    rw [endState_heartbeat running stop active, KeepsHeartbeat, ← dies]
    obtain ⟨held, -, owned⟩ := reads.owned
    cases outcome : renewLocked repr store config w with
    | ok renewed w' =>
      rw [outcome] at owned reads
      exact ⟨reads.aside.keeps.1 listening, iff_of_true (reads.aside.keeps.2 kept) (by simp)⟩
    | error e w' =>
      rw [outcome] at owned
      cases e with
      | exception e =>
        refine ⟨listening_of_no_thread rfl, iff_of_true ?_ (by simp)⟩
        exact fun _ _ => .inr rfl
      | baseException cls =>
        refine ⟨listening_of_no_thread rfl, iff_of_false ?_ ?_⟩
        · intro kept'
          rw [endState_error] at owned
          have state : (heartbeatEnded w').owned.state = .active := by
            simp [heartbeatEnded, owned, active]
          rcases kept' state positive with ⟨alive, -⟩ | failed
          · cases alive
          · simp [heartbeatEnded, owned, error] at failed
        · exact fun h => h running ⟨cls, w', rfl⟩

theorem keeps_of_aside {step : Step} (aside : Aside w w') (listening : Listening config w)
    (kept : HeartbeatKept config w) (meets : KeepsHeartbeat store config w step) :
    Listening config w' ∧ (HeartbeatKept config w' ↔ KeepsHeartbeat store config w step) :=
  ⟨aside.keeps.1 listening, iff_of_true (aside.keeps.2 kept) meets⟩

/-- A step keeps the invariant of the heartbeat, and the heartbeat exactly under
`KeepsHeartbeat`. -/
theorem perform_exact (step : Step) (listening : Listening config w) (kept : HeartbeatKept config w)
    :
    Listening config (endState (perform repr store config step w)) ∧
    (HeartbeatKept config (endState (perform repr store config step w)) ↔
      KeepsHeartbeat store config w step) := by
  cases step with
  | tick =>
    rw [endState_perform_tick]
    exact heartbeat_exact listening kept
  | on i call =>
    cases handed : w.guards[i]? with
    | none =>
      rw [perform_on_none handed]
      refine ⟨listening, iff_of_true kept ?_⟩
      intro owned
      rw [handed] at owned
      cases owned
    | some g =>
      rw [endState_perform_on handed]
      cases g with
      | borrowed parent session place =>
        refine keeps_of_aside (aside_borrowed session call w) listening kept ?_
        intro owned
        rw [handed] at owned
        cases owned
      | owned =>
        cases call with simp only [Guard.perform, endState_bind_pure]
        | assertActive =>
          exact keeps_of_aside (reads_assertActive w).aside listening kept
            (by simp [KeepsHeartbeat])
        | renew =>
          exact keeps_of_aside (reads_renew w).aside listening kept (by simp [KeepsHeartbeat])
        | fence =>
          exact keeps_of_aside (reads_fence w).aside listening kept (by simp [KeepsHeartbeat])
        | borrow sessionId =>
          exact keeps_of_aside (aside_borrow sessionId w) listening kept (by simp [KeepsHeartbeat])
        | reacquire revision =>
          obtain ⟨listens, keeps⟩ := reacquire_keeps revision (w := w)
          exact ⟨listens listening, iff_of_true (keeps kept) (by simp [KeepsHeartbeat])⟩
        | release =>
          refine ⟨listening_of_no_thread (noThread_release), ?_⟩
          rw [heartbeatKept_giveBack_iff (by decide) (giveBack_release).1 (giveBack_release).2]
          simp [KeepsHeartbeat, handed]
        | releaseForWait =>
          refine ⟨listening_of_no_thread (noThread_releaseForWait), ?_⟩
          rw [heartbeatKept_giveBack_iff (by decide) (giveBack_releaseForWait).1
            (giveBack_releaseForWait).2]
          simp [KeepsHeartbeat, handed]

/-! ### Fences -/

/-- A fence is the owned guard's, handed out while it and the guard asked are active and no beat
has failed. -/
theorem ensures_fence (g : Guard) : Ensures (fence repr g) w
      (fun f _ => w.stateOf g = some .active ∧ w.owned.state = .active ∧
        w.owned.heartbeatError = none ∧ f = fenceOf w.owned.lease)
      fun _ _ => True := by
  induction g with
  | owned =>
    refine ensures_get_bind (ensures_lift_bind (fun _ ensured => ?_) fun _ _ => trivial)
    unfold ensureActiveLocked at ensured
    split at ensured
    · cases ensured
    · next active =>
        split at ensured
        · cases ensured
        · next error =>
            have state := not_not.mp active
            exact ensures_pure ⟨congrArg some state, state, error, rfl⟩
  | borrowed parent session place ih =>
    refine ensures_bind ((ensures_borrowActive).mono ?_ fun _ _ _ => trivial)
    intro _ w₁ found
    obtain ⟨same, active⟩ := found
    subst same
    refine ih.mono ?_ fun _ _ _ => trivial
    rintro f w' ⟨-, state, error, rfl⟩
    refine ⟨?_, state, error, rfl⟩
    rw [World.stateOf]
    rw [List.getD_eq_getElem?_getD] at active
    cases stored : w₁.borrowed[place]? with
    | none =>
      rw [stored] at active
      cases active
    | some s =>
      rw [stored] at active
      exact congrArg some active

/-! ### Tokens of borrowed guards -/

theorem ensures_assertActive (g : Guard) : Ensures (assertActive repr store g) w
      (fun held _ => held.fencingToken = w.owned.lease.fencingToken) fun _ _ => True := by
  induction g with
  | owned =>
    refine ensures_get_bind (ensures_lift_bind (fun _ _ => ?_) fun _ _ => trivial)
    apply ensures_bind
    rw [Ensures, ask_run]
    cases store w.calls (.verify w.owned.lease.executionId w.owned.lease.ownerId
        w.owned.lease.fencingToken) with
    | error e => trivial
    | ok answer =>
      refine ensures_lift_bind (fun verified valid => ?_) fun _ _ => trivial
      exact ensures_modify_bind (ensures_pure ((validateStoreLease_ok valid).2 _ rfl))
  | borrowed parent session place ih =>
    refine ensures_bind ((ensures_borrowActive).mono ?_ fun _ _ _ => trivial)
    intro _ w₁ found
    obtain ⟨same, -⟩ := found
    subst same
    exact ensures_bind (ih.mono (fun held w' token => ensures_pure token) fun _ _ _ => trivial)

theorem ensures_reacquire_borrowed (revision : Option Int) (parent : Guard)
    (session : { s : String // isIdentifier s = true }) (place : Nat) :
    Ensures (reacquire repr store config revision (.borrowed parent session place)) w
      (fun held _ => held.fencingToken = w.owned.lease.fencingToken) fun _ _ => True := by
  refine ensures_lift_bind (fun _ _ => ensures_get_bind ?_) fun _ _ => trivial
  split
  · exact ensures_bind (ensures_frame (reads_lease)
      (fun _ _ _ => ensures_throw trivial) fun _ _ _ => trivial)
  · refine ensures_bind ((ensures_assertActive parent).mono ?_ fun _ _ _ => trivial)
    exact fun held w' token => ensures_modify_bind (ensures_pure token)

/-! ### Runs -/

abbrev Entry := History.Entry Raised World Reply Step

/-- The entry is a call of `reacquire` on the guard that returned the lease. -/
def ReacquiresOn (g : Guard) (e : Entry) (lease : ExecutionLease) : Prop :=
  ∃ i revision, e.call = .on i (.reacquire revision) ∧ e.before.guards[i]? = some g ∧
    e.reply = some (.lease lease)

abbrev Reacquires : Entry → ExecutionLease → Prop := ReacquiresOn .owned

structure Lifecycle (config : ExecutionLeaseConfig) (run : List Entry) : Prop where
  /-- A released guard is released ever after. -/
  released : ∀ earlier e later, run = earlier ++ e :: later →
    ∀ g, e.before.stateOf g = some .released →
      ∀ f ∈ e :: later, f.after.stateOf g = some .released
  /-- Each reacquire takes a higher token than the guard held before it. -/
  advances : ∀ e ∈ run, ∀ lease, Reacquires e lease →
    e.before.owned.lease.fencingToken < lease.fencingToken ∧ e.after.owned.lease = lease
  tokens : run.Pairwise fun e f => ∀ lease lease', Reacquires e lease → Reacquires f lease' →
    lease.fencingToken < lease'.fencingToken
  fence : ∀ e ∈ run, ∀ i fence, e.call = .on i .fence → e.reply = some (.fence fence) →
    (∃ g, e.before.guards[i]? = some g ∧ e.before.stateOf g = some .active) ∧
      e.before.owned.state = .active ∧ e.before.owned.heartbeatError = none ∧
      fence = fenceOf e.before.owned.lease
  heartbeat : ∀ e ∈ run, HeartbeatKept config e.after
  /-- A borrowed guard never changes the state of the owned one, and asks for no release. -/
  borrowed : ∀ e ∈ run, ∀ i call, e.call = .on i call →
    (∃ parent session place, e.before.guards[i]? = some (.borrowed parent session place)) →
    e.after.owned.state = e.before.owned.state ∧
      ∃ asked, e.after.calls = e.before.calls ++ asked ∧ ∀ c ∈ asked, c.isRelease = false
  /-- A borrowed guard has no token of its own. -/
  borrowedToken : ∀ e ∈ run, ∀ parent session place lease,
    ReacquiresOn (.borrowed parent session place) e lease →
    lease.fencingToken = e.before.owned.lease.fencingToken

section Runs

variable {w : World} {steps : List Step} {e : Entry}

theorem entry_advances (mem : e ∈ history (perform repr store config) w steps) :
    Advances e.before e.after := by
  rw [eq_record mem]
  exact advances_perform e.call e.before

variable {lease : ExecutionLease}

section

variable (mem : e ∈ history (perform repr store config) w steps)

include mem

theorem reacquiresOn_ok {g : Guard} (reacquires : ReacquiresOn g e lease) :
    ∃ revision, reacquire repr store config revision g e.before = .ok lease e.after := by
  obtain ⟨i, revision, call, handed, reply⟩ := reacquires
  have ran : perform repr store config (.on i (.reacquire revision)) e.before =
      .ok (.lease lease) e.after := by
    rw [← call]
    have outcome := Entry.outcome_of_reply reply
    rwa [eq_record mem] at outcome ⊢
  rw [endState_perform_on handed, Guard.perform] at ran
  obtain ⟨new, w₁, reacquired, returned⟩ := bind_eq_ok.mp ran
  cases returned
  exact ⟨revision, reacquired⟩

theorem reacquires_ok (reacquires : Reacquires e lease) :
    e.before.owned.lease.fencingToken < lease.fencingToken ∧ e.after.owned.lease = lease := by
  obtain ⟨revision, reacquired⟩ := reacquiresOn_ok mem reacquires
  have ended : Ensures (reacquire repr store config revision .owned) e.before _ _ :=
    ensures_reacquire_owned revision
  rw [Ensures, reacquired] at ended
  exact ⟨ended.2.1, by rw [ended.2.2.1]; rfl⟩

theorem borrowed_token {parent : Guard} {session : { s : String // isIdentifier s = true }}
    {place : Nat} (reacquires : ReacquiresOn (.borrowed parent session place) e lease) :
    lease.fencingToken = e.before.owned.lease.fencingToken := by
  obtain ⟨revision, reacquired⟩ := reacquiresOn_ok mem reacquires
  have ended : Ensures (reacquire repr store config revision (.borrowed parent session place))
      e.before _ _ := ensures_reacquire_borrowed revision parent session place
  rwa [Ensures, reacquired] at ended

end

variable {i : Nat}

theorem fence_ok (mem : e ∈ history (perform repr store config) w steps) {fence : ExecutionFence}
    (call : e.call = .on i .fence) (reply : e.reply = some (.fence fence)) :
    (∃ g, e.before.guards[i]? = some g ∧ e.before.stateOf g = some .active) ∧
      e.before.owned.state = .active ∧ e.before.owned.heartbeatError = none ∧
      fence = fenceOf e.before.owned.lease := by
  rw [eq_record mem, record_reply_iff, call] at reply
  obtain ⟨w', ran⟩ := reply
  cases handed : e.before.guards[i]? with
  | none =>
    rw [perform_on_none handed] at ran
    cases ran
  | some g =>
    rw [endState_perform_on handed, Guard.perform] at ran
    obtain ⟨f, w₁, fenced, returned⟩ := bind_eq_ok.mp ran
    cases returned
    have ended : Ensures (Execution.fence repr g) e.before _ _ := ensures_fence g
    rw [Ensures, fenced] at ended
    exact ⟨⟨g, rfl, ended.1⟩, ended.2⟩

theorem borrowed_aside (mem : e ∈ history (perform repr store config) w steps) {call : Call}
    (called : e.call = .on i call) (borrowed : ∃ parent session place,
      e.before.guards[i]? = some (.borrowed parent session place)) :
    e.after.owned.state = e.before.owned.state ∧
      ∃ asked, e.after.calls = e.before.calls ++ asked ∧ ∀ c ∈ asked, c.isRelease = false := by
  obtain ⟨parent, session, place, handed⟩ := borrowed
  have aside : Aside e.before e.after := by
    rw [eq_record mem, record_after, record_before, called, endState_perform_on handed]
    exact aside_borrowed session call e.before
  obtain ⟨held, -, owned⟩ := aside.owned
  exact ⟨by rw [owned], aside.asked⟩

end Runs

/-- The guard keeps its promises in a run from its construction iff, at every step, the store
releases the lease that an active guard without a heartbeat error gives back, and a renewal by the
heartbeat is not killed by something that is no `Exception`. -/
theorem guard_lifecycle_iff (repr : String → String) (store : LeaseStore)
    (config : ExecutionLeaseConfig) (lease : ExecutionLease) (steps : List Step) :
    Lifecycle config (history (perform repr store config) (start config lease) steps) ↔
      ∀ e ∈ history (perform repr store config) (start config lease) steps,
        KeepsHeartbeat store config e.before e.call := by
  obtain ⟨listening, kept⟩ : Listening config (start config lease) ∧
      HeartbeatKept config (start config lease) := listening_started rfl
  have heartbeat : (∀ e ∈ history (perform repr store config) (start config lease) steps,
      HeartbeatKept config e.after) ↔
        ∀ e ∈ history (perform repr store config) (start config lease) steps,
          KeepsHeartbeat store config e.before e.call :=
    forall_after_iff (I := Listening config) (P := HeartbeatKept config)
      (fun w step listening kept => (perform_exact step listening kept).1)
      (fun w step listening kept => (perform_exact step listening kept).2) listening kept steps
  constructor
  · intro lifecycle
    exact heartbeat.mp lifecycle.heartbeat
  · intro meets
    have pairs : (history (perform repr store config) (start config lease) steps).Pairwise
        fun e f => Advances e.after f.before :=
      pairwise_related advances_refl advances_trans advances_perform steps (start config lease)
    constructor
    · intro earlier e later split g was f mem
      have inRun : e ∈ history (perform repr store config) (start config lease) steps := by
        rw [split]
        simp
      have after := (entry_advances inRun).released g was
      rcases List.mem_cons.mp mem with rfl | mem
      · exact after
      · have inRun' : f ∈ history (perform repr store config) (start config lease) steps := by
          rw [split]
          simp [mem]
        rw [split, List.pairwise_append] at pairs
        have next := (List.pairwise_cons.mp pairs.2.1).1 f mem
        exact (entry_advances inRun').released g (next.released g after)
    · exact fun e mem held reacquires => reacquires_ok mem reacquires
    · refine pairs.imp_of_mem fun {e f} first second next held held' reacquired reacquired' => ?_
      have here := (reacquires_ok first reacquired).2
      have there := (reacquires_ok second reacquired').1
      rw [← here]
      exact Int.lt_of_le_of_lt next.token there
    · exact fun e mem i fence call reply => fence_ok mem call reply
    · exact heartbeat.mpr meets
    · exact fun e mem i call called borrowed => borrowed_aside mem called borrowed
    · exact fun e mem parent session place held reacquires => borrowed_token mem reacquires

/-! ### A guard without a heartbeat -/

def heldLease : ExecutionLease where
  executionId := "session-1"
  ownerId := "worker-1"
  fencingToken := 1
  acquiredAtMs := 0
  expiresAtMs := 60000
  execution_named := by decide
  owner_named := by decide
  token_pos := by decide
  acquired_nonneg := by decide
  acquired_lt_expires := by decide

/-- A store that is out of reach when the lease is given back, and interrupted when it is
renewed. -/
def failingStore : LeaseStore := fun _ call =>
  if call.isRelease then .error (.exception (.raised "OSError" "store is out of reach"))
  else .error (.baseException "KeyboardInterrupt")

/-- After a failed release, a failed release for a wait or an interrupted beat the guard is active,
and neither beats nor reports an error. -/
theorem heartbeat_lost :
    ¬ Lifecycle {} (history (perform id failingStore {}) (start {} heldLease) [.on 0 .release]) ∧
    ¬ Lifecycle {}
      (history (perform id failingStore {}) (start {} heldLease) [.on 0 .releaseForWait]) ∧
    ¬ Lifecycle {} (history (perform id failingStore {}) (start {} heldLease) [.tick]) := by
  refine ⟨fun lifecycle => ?_, fun lifecycle => ?_, fun lifecycle => ?_⟩
  · exact absurd (lifecycle.heartbeat _ (List.mem_cons_self ..) rfl (by decide)) (by decide)
  · exact absurd (lifecycle.heartbeat _ (List.mem_cons_self ..) rfl (by decide)) (by decide)
  · exact absurd (lifecycle.heartbeat _ (List.mem_cons_self ..) rfl (by decide)) (by decide)

end Unchain.Execution
