import Unchain.Execution.Guard

/-!
What the methods of a guard change.

A method that reads leaves the guards as they were, but for the lease the store confirmed
(`Reads`). A call on a borrowed guard leaves the guard that owns the lease aside (`Aside`). Every
step keeps released guards released and never takes the token of the lease back (`Advances`).
-/

namespace Unchain.Execution

open Lib Lib.Effect Lib.History Memory Python

variable {repr : String → String} {store : LeaseStore} {config : ExecutionLeaseConfig}

/-! ### Methods that only read -/

/-- The guards are as they were, but for a lease of the same token, and no release was asked of
the store. -/
structure Reads (w w' : World) : Prop where
  owned : ∃ lease : ExecutionLease, lease.fencingToken = w.owned.lease.fencingToken ∧
    w'.owned = { w.owned with lease := lease }
  borrowed : w'.borrowed = w.borrowed
  guards : w'.guards = w.guards
  asked : ∃ asked, w'.calls = w.calls ++ asked ∧ ∀ call ∈ asked, call.isRelease = false

theorem reads_refl (w : World) : Reads w w :=
  ⟨⟨w.owned.lease, rfl, rfl⟩, rfl, rfl, ⟨[], (List.append_nil _).symm, fun _ mem => by cases mem⟩⟩

theorem reads_trans (w w' w'' : World) (first : Reads w w') (second : Reads w' w'') :
    Reads w w'' := by
  obtain ⟨lease, token, owned⟩ := first.owned
  obtain ⟨lease', token', owned'⟩ := second.owned
  obtain ⟨asked, calls, quiet⟩ := first.asked
  obtain ⟨asked', calls', quiet'⟩ := second.asked
  constructor
  · refine ⟨lease', ?_, by rw [owned', owned]⟩
    rw [token', owned]
    exact token
  · rw [second.borrowed, first.borrowed]
  · rw [second.guards, first.guards]
  · refine ⟨asked ++ asked', by rw [calls', calls, List.append_assoc], ?_⟩
    intro call mem
    rcases List.mem_append.mp mem with mem | mem
    · exact quiet call mem
    · exact quiet' call mem

variable {answer : Answer} {executionId ownerId : String} {token : Option Int}

theorem validateStoreLease_ok {lease : ExecutionLease}
    (valid : validateStoreLease repr answer executionId ownerId token = .ok lease) :
    answer = .lease lease ∧ ∀ t ∈ token, lease.fencingToken = t := by
  cases answer with
  | other => cases valid
  | lease held =>
    simp only [validateStoreLease] at valid
    split at valid
    · cases valid
    · split at valid
      · cases valid
      · next same =>
          cases valid
          refine ⟨rfl, ?_⟩
          intro t mem
          by_contra other
          exact same ⟨t, mem, other⟩

variable {w : World}

theorem ask_run (call : StoreCall) : ask store call w = match store w.calls call with
      | .ok answer => .ok answer { w with calls := w.calls ++ [call] }
      | .error e => .error e { w with calls := w.calls ++ [call] } := by
  simp only [ask, bind_run, get_run, modify_run]
  cases store w.calls call <;> rfl

theorem reads_asked {call : StoreCall} (quiet : call.isRelease = false) (lease : ExecutionLease)
    (token : lease.fencingToken = w.owned.lease.fencingToken) :
    Reads w { w with owned := { w.owned with lease := lease }, calls := w.calls ++ [call] } :=
  ⟨⟨lease, token, rfl⟩, rfl, rfl, [call], rfl, fun c mem => by rwa [List.mem_singleton.mp mem]⟩

theorem validateStoreLease_error {e : Raised}
    (refused : validateStoreLease repr answer executionId ownerId token = .error e) :
    ∃ error, e = .exception error := by
  cases answer with
  | other =>
    cases refused
    exact ⟨_, rfl⟩
  | lease held =>
    simp only [validateStoreLease] at refused
    split at refused
    · cases refused
      exact ⟨_, rfl⟩
    · split at refused
      · cases refused
        exact ⟨_, rfl⟩
      · cases refused

/-- A renewal asks the store once and keeps the guard but for its lease. What it raises is an
exception, or is raised by the store. -/
theorem ensures_renewLocked :
    Ensures (renewLocked repr store config) w
      (fun _ w' => Reads w w' ∧ w'.calls = w.calls ++ [renewCall config.ttlMs w.owned.lease] ∧
        ∃ answer, store w.calls (renewCall config.ttlMs w.owned.lease) = .ok answer)
      fun e w' => Reads w w' ∧ w'.calls = w.calls ++ [renewCall config.ttlMs w.owned.lease] ∧
        ((∃ error answer, e = .exception error ∧
          store w.calls (renewCall config.ttlMs w.owned.lease) = .ok answer) ∨
        store w.calls (renewCall config.ttlMs w.owned.lease) = .error e) := by
  have quiet : (renewCall config.ttlMs w.owned.lease).isRelease = false := rfl
  have same := reads_asked quiet w.owned.lease rfl
  refine ensures_get_bind (ensures_bind ?_)
  rw [Ensures, ask_run]
  cases answered : store w.calls (renewCall config.ttlMs w.owned.lease) with
  | error e => exact ⟨same, rfl, .inr rfl⟩
  | ok answer =>
    refine ensures_lift_bind (fun renewed valid => ?_) fun e refused => ?_
    · have token := (validateStoreLease_ok valid).2 _ rfl
      dsimp only
      split
      · exact ensures_throw ⟨same, rfl, .inl ⟨_, answer, rfl, rfl⟩⟩
      · split
        · exact ensures_throw ⟨same, rfl, .inl ⟨_, answer, rfl, rfl⟩⟩
        · exact ensures_modify_bind
            (ensures_pure ⟨reads_asked rfl renewed token, rfl, answer, rfl⟩)
    · obtain ⟨error, rfl⟩ := validateStoreLease_error refused
      exact ⟨same, rfl, .inl ⟨error, answer, rfl, rfl⟩⟩

theorem reads_renewLocked : Within Reads (renewLocked repr store config) := fun w =>
  ((ensures_renewLocked).mono (fun _ _ h => h.1) fun _ _ h => h.1).ended

theorem renewLocked_dies_iff :
    (∃ cls w', renewLocked repr store config w = .error (.baseException cls) w') ↔
      ∃ cls, store w.calls (renewCall config.ttlMs w.owned.lease) =
        .error (.baseException cls) := by
  have ended : Ensures (renewLocked repr store config) w _ _ := ensures_renewLocked
  unfold Ensures at ended
  cases outcome : renewLocked repr store config w with
  | ok renewed w' =>
    rw [outcome] at ended
    obtain ⟨-, -, answer, answered⟩ := ended
    simp [answered]
  | error e w' =>
    rw [outcome] at ended
    obtain ⟨-, -, ⟨error, answer, rfl, answered⟩ | raised⟩ := ended
    · simp [answered]
    · simp [raised]

variable {place : Nat} {session : { s : String // isIdentifier s = true }}

theorem reads_ensureBorrowActive {parentLease : GuardM ExecutionLease}
    (parent : Within Reads parentLease) :
    Within Reads (ensureBorrowActive repr session place parentLease) := by
  refine Within.bind reads_trans (within_get reads_refl) fun w => ?_
  dsimp only
  split
  · exact within_pure reads_refl ()
  · exact parent.bind reads_trans fun held => within_throw reads_refl _

variable {g : Guard}

theorem reads_lease : Within Reads (lease repr g) := by
  induction g with
  | owned => exact (within_get reads_refl).bind reads_trans fun w => within_pure reads_refl _
  | borrowed parent session place ih =>
    exact (reads_ensureBorrowActive ih).bind reads_trans fun _ =>
      ih.bind reads_trans fun held => within_pure reads_refl _

theorem reads_fence : Within Reads (fence repr g) := by
  induction g with
  | owned =>
    exact (within_get reads_refl).bind reads_trans fun w =>
      (within_lift reads_refl _).bind reads_trans fun _ => within_pure reads_refl _
  | borrowed parent session place ih =>
    exact (reads_ensureBorrowActive (reads_lease)).bind reads_trans fun _ => ih

theorem reads_assertActive : Within Reads (assertActive repr store g) := by
  induction g with
  | owned =>
    intro w
    simp only [assertActive, bind_run, get_run]
    cases ensureActiveLocked repr w.owned with
    | error e => exact reads_refl w
    | ok _ =>
      simp only [lift_ok_run, ask_run]
      cases store w.calls (.verify w.owned.lease.executionId w.owned.lease.ownerId
          w.owned.lease.fencingToken) with
      | error e => exact reads_asked rfl w.owned.lease rfl
      | ok answer =>
        simp only
        cases valid : validateStoreLease repr answer w.owned.lease.executionId
            w.owned.lease.ownerId (some w.owned.lease.fencingToken) with
        | error e => exact reads_asked rfl w.owned.lease rfl
        | ok verified =>
          exact reads_asked rfl verified ((validateStoreLease_ok valid).2 _ rfl)
  | borrowed parent session place ih =>
    exact (reads_ensureBorrowActive (reads_lease)).bind reads_trans fun _ =>
      ih.bind reads_trans fun held => within_pure reads_refl _

theorem reads_renew : Within Reads (renew repr store config g) := by
  induction g with
  | owned =>
    exact (within_get reads_refl).bind reads_trans fun w =>
      (within_lift reads_refl _).bind reads_trans fun _ => reads_renewLocked
  | borrowed parent session place ih =>
    exact (reads_ensureBorrowActive (reads_lease)).bind reads_trans fun _ =>
      ih.bind reads_trans fun held => within_pure reads_refl _

/-! ### Steps that leave the owned guard alone -/

/-- The owned guard is as it was, but for a lease of the same token; a borrowed guard that was
released stays so; no release was asked of the store. -/
structure Aside (w w' : World) : Prop where
  owned : ∃ lease : ExecutionLease, lease.fencingToken = w.owned.lease.fencingToken ∧
    w'.owned = { w.owned with lease := lease }
  released : ∀ place : Nat, w.borrowed[place]? = some GuardState.released →
    w'.borrowed[place]? = some GuardState.released
  asked : ∃ asked, w'.calls = w.calls ++ asked ∧ ∀ call ∈ asked, call.isRelease = false

variable {w w' : World}

theorem Reads.aside (reads : Reads w w') : Aside w w' :=
  ⟨reads.owned, fun place was => by rwa [reads.borrowed], reads.asked⟩

theorem Reads.setBorrow (reads : Reads w w') (place : Nat) (state : GuardState)
    (open_ : w.borrowed.getD place .released ≠ .released) :
    Aside w { w' with borrowed := w'.borrowed.set place state } := by
  refine ⟨reads.owned, ?_, reads.asked⟩
  intro p was
  rw [reads.borrowed, List.getElem?_set]
  split
  · next same =>
      subst same
      rw [List.getD_eq_getElem?_getD, was] at open_
      exact absurd rfl open_
  · exact was

variable {parent : Guard}

theorem ensures_borrowActive :
    Ensures (ensureBorrowActive repr session place (lease repr parent)) w
      (fun _ w' => w' = w ∧ w.borrowed.getD place .released = .active)
      fun _ w' => Reads w w' := by
  refine ensures_get_bind ?_
  dsimp only
  split
  · next active => exact ensures_pure ⟨rfl, active⟩
  · exact ensures_frame_bind (reads_lease) (fun _ _ reads => ensures_throw reads)
      fun _ _ reads => reads

theorem aside_release_borrowed (session : { s : String // isIdentifier s = true }) :
    Within Aside (release store (.borrowed parent session place)) := by
  intro w
  refine ⟨⟨w.owned.lease, rfl, rfl⟩, ?_, (reads_refl w).asked⟩
  intro p was
  show (w.borrowed.set place .released)[p]? = some .released
  rw [List.getElem?_set]
  split
  · next same =>
      subst same
      have bound : place < w.borrowed.length := (List.getElem?_eq_some_iff.mp was).1
      rw [if_pos bound]
  · exact was

theorem aside_releaseForWait_borrowed (session : { s : String // isIdentifier s = true }) :
    Within Aside (releaseForWait repr store (.borrowed parent session place)) := by
  intro w
  apply Ensures.ended
  refine ensures_bind ((ensures_borrowActive).mono ?_ fun _ _ reads => reads.aside)
  intro _ w₁ found
  obtain ⟨same, active⟩ := found
  subst same
  refine ensures_frame_bind (reads_assertActive) (fun _ w' reads => ?_) fun _ _ reads => reads.aside
  exact ensures_modify (reads.setBorrow place .waiting (by rw [active]; decide))

theorem aside_reacquire_borrowed (revision : Option Int)
    (session : { s : String // isIdentifier s = true }) (place : Nat) :
    Within Aside (reacquire repr store config revision (.borrowed parent session place)) := by
  intro w
  apply Ensures.ended
  refine ensures_lift_bind (fun _ _ => ?_) fun _ _ => (reads_refl w).aside
  refine ensures_get_bind ?_
  split
  · exact ensures_frame_bind (reads_lease) (fun _ _ reads => ensures_throw reads.aside)
      fun _ _ reads => reads.aside
  · next waiting =>
      refine ensures_frame_bind (reads_assertActive) (fun held w' reads => ?_)
        fun _ _ reads => reads.aside
      refine ensures_modify_bind (ensures_pure ?_)
      exact reads.setBorrow place .active (by rw [not_not.mp waiting]; decide)

theorem aside_borrow (sessionId : String) : Within Aside (borrow repr store parent sessionId) := by
  intro w
  apply Ensures.ended
  refine ensures_frame_bind (reads_fence) (fun held w₁ first => ?_) fun _ _ reads => reads.aside
  dsimp only
  split
  · exact ensures_throw first.aside
  · split
    · refine ensures_frame_from reads_trans (reads_assertActive) first
        (fun _ w₂ reads => ?_) fun _ _ reads => reads.aside
      refine ensures_modify ⟨reads.owned, fun p was => ?_, reads.asked⟩
      rw [reads.borrowed]
      have bound : p < w.borrowed.length := (List.getElem?_eq_some_iff.mp was).1
      rwa [List.getElem?_append_left bound]
    · exact ensures_throw first.aside

/-! ### The owned guard -/

def OwnedGuard.stopped (g : OwnedGuard) : OwnedGuard :=
  { g with heartbeatStop := true, heartbeatThread := false }

def OwnedGuard.left (g : OwnedGuard) (state : GuardState) : OwnedGuard :=
  { g.stopped with state := state, heartbeatError := none }

/-- Giving the lease of an active guard back: the heartbeat is stopped whether the store releases
the lease or not. -/
def afterRelease (store : LeaseStore) (next : GuardState) (w : World) : World :=
  match store w.calls (releaseCall w.owned.lease) with
  | .ok _ => { w with owned := w.owned.left next, calls := w.calls ++ [releaseCall w.owned.lease] }
  | .error _ => { w with owned := w.owned.stopped, calls := w.calls ++ [releaseCall w.owned.lease] }

theorem endState_release_owned :
    endState (release store .owned w) = match w.owned.state with
      | .released => { w with owned := w.owned.stopped }
      | .waiting => { w with owned := w.owned.left .released }
      | .active => afterRelease store .released w := by
  obtain ⟨⟨held, state, error, stop, thread⟩, borrowed, guards, calls⟩ := w
  simp only [release, requestHeartbeatStop, bind_run, modify_run, thenJoin, get_run]
  cases state with
  | released => rfl
  | waiting => rfl
  | active =>
    simp only [releaseLease, bind_run, get_run, ask_run, afterRelease]
    cases store calls (releaseCall held) with
    | ok _ => rfl
    | error _ => rfl

theorem endState_releaseForWait_owned :
    endState (releaseForWait repr store .owned w) = match w.owned.state with
      | .released => { w with owned := w.owned.stopped }
      | .waiting => { w with owned := w.owned.stopped }
      | .active => afterRelease store .waiting w := by
  obtain ⟨⟨held, state, error, stop, thread⟩, borrowed, guards, calls⟩ := w
  simp only [releaseForWait, requestHeartbeatStop, bind_run, modify_run, thenJoin, get_run]
  cases state with
  | released => rfl
  | waiting => rfl
  | active =>
    simp only [releaseLease, bind_run, get_run, ask_run, afterRelease]
    cases store calls (releaseCall held) with
    | ok _ => rfl
    | error _ => rfl

/-- A reacquire that raises leaves the guard as it was; one that returns had a waiting guard and
starts it on a lease with a higher token. -/
theorem ensures_reacquire_owned (revision : Option Int) :
    Ensures (reacquire repr store config revision .owned) w
      (fun new w' => w.owned.state = .waiting ∧
        w.owned.lease.fencingToken < new.fencingToken ∧
        w'.owned = started config new ∧ w'.borrowed = w.borrowed)
      fun _ w' => w'.owned = w.owned ∧ w'.borrowed = w.borrowed := by
  refine ensures_lift_bind (fun _ _ => ?_) fun _ _ => ⟨rfl, rfl⟩
  refine ensures_get_bind ?_
  dsimp only
  split
  · exact ensures_throw ⟨rfl, rfl⟩
  · next waiting =>
      apply ensures_bind
      rw [Ensures, ask_run]
      cases store w.calls (.acquire w.owned.lease.executionId w.owned.lease.ownerId config.ttlMs
          revision) with
      | error e => exact ⟨rfl, rfl⟩
      | ok answer =>
        refine ensures_lift_bind (fun new valid => ?_) fun _ _ => ⟨rfl, rfl⟩
        split
        · exact ensures_throw ⟨rfl, rfl⟩
        · next higher =>
            exact ensures_modify_bind
              (ensures_pure ⟨not_not.mp waiting, Int.not_le.mp higher, rfl, rfl⟩)

theorem endState_heartbeat (running : w.owned.heartbeatThread = true)
    (listening : w.owned.heartbeatStop = false) (active : w.owned.state = .active) :
    endState (heartbeat repr store config w) = match renewLocked repr store config w with
      | .ok _ w' => w'
      | .error (.exception e) w' => heartbeatEnded { w' with
          owned := { w'.owned with heartbeatError := some e, heartbeatStop := true } }
      | .error (.baseException _) w' => heartbeatEnded w' := by
  simp only [heartbeat, running, listening, active, Bool.true_eq_false, Bool.false_eq_true,
    ne_eq, not_true_eq_false, or_self, ↓reduceIte]
  cases renewLocked repr store config w with
  | ok _ _ => rfl
  | error e _ => cases e <;> rfl

/-! ### Every step -/

/-- A released guard stays released, and the token of the lease never goes back. -/
structure Advances (w w' : World) : Prop where
  released : ∀ g, w.stateOf g = some .released → w'.stateOf g = some .released
  token : w.owned.lease.fencingToken ≤ w'.owned.lease.fencingToken

theorem advances_refl (w : World) : Advances w w := ⟨fun _ h => h, Int.le_refl _⟩

theorem advances_trans (w w' w'' : World) (first : Advances w w') (second : Advances w' w'') :
    Advances w w'' :=
  ⟨fun g h => second.released g (first.released g h), Int.le_trans first.token second.token⟩

theorem Aside.advances {w' : World} (aside : Aside w w') : Advances w w' := by
  obtain ⟨held, token, owned⟩ := aside.owned
  constructor
  · intro g was
    cases g with
    | owned =>
      rw [World.stateOf, owned]
      exact was
    | borrowed parent session place => exact aside.released place was
  · rw [owned]
    exact Int.le_of_eq token.symm

theorem advances_owned (state : w.owned.state = .released → w'.owned.state = .released)
    (token : w.owned.lease.fencingToken ≤ w'.owned.lease.fencingToken)
    (borrowed : w'.borrowed = w.borrowed) : Advances w w' := by
  refine ⟨fun g was => ?_, token⟩
  cases g with
  | owned => exact congrArg some (state (Option.some.inj was))
  | borrowed parent session place =>
    rw [World.stateOf, borrowed]
    exact was

theorem advances_afterRelease (next : GuardState) (active : w.owned.state = .active) :
    Advances w (afterRelease store next w) := by
  have living : w.owned.state ≠ .released := by rw [active]; decide
  unfold afterRelease
  split
  · exact advances_owned (fun h => absurd h living) (Int.le_refl _) rfl
  · exact advances_owned (fun h => absurd h living) (Int.le_refl _) rfl

theorem advances_release : Within Advances (release store g) := by
  cases g with
  | borrowed parent session place =>
    exact (aside_release_borrowed session).mono fun _ _ => Aside.advances
  | owned =>
    intro w
    rw [endState_release_owned]
    split
    · exact advances_owned (fun h => h) (Int.le_refl _) rfl
    · exact advances_owned (fun _ => rfl) (Int.le_refl _) rfl
    · next active => exact advances_afterRelease .released active

theorem advances_releaseForWait : Within Advances (releaseForWait repr store g) := by
  cases g with
  | borrowed parent session place =>
    exact (aside_releaseForWait_borrowed session).mono fun _ _ => Aside.advances
  | owned =>
    intro w
    rw [endState_releaseForWait_owned]
    split
    · exact advances_owned (fun h => h) (Int.le_refl _) rfl
    · exact advances_owned (fun h => h) (Int.le_refl _) rfl
    · next active => exact advances_afterRelease .waiting active

theorem advances_reacquire (revision : Option Int) :
    Within Advances (reacquire repr store config revision g) := by
  cases g with
  | borrowed parent session place =>
    exact (aside_reacquire_borrowed revision session place).mono fun _ _ => Aside.advances
  | owned =>
    intro w
    apply Ensures.ended
    refine (ensures_reacquire_owned revision).mono ?_ ?_
    · rintro new w' ⟨waiting, higher, owned, borrowed⟩
      refine advances_owned (fun h => ?_) ?_ borrowed
      · rw [waiting] at h
        cases h
      · rw [owned]
        exact Int.le_of_lt higher
    · rintro e w' ⟨owned, borrowed⟩
      exact advances_owned (fun h => by rwa [owned]) (Int.le_of_eq (by rw [owned])) borrowed

theorem advances_heartbeat : Within Advances (heartbeat repr store config) := by
  intro w
  unfold heartbeat
  split
  · exact advances_refl w
  · split
    · exact advances_owned (fun h => h) (Int.le_refl _) rfl
    · have reads : Reads w (endState (renewLocked repr store config w)) := reads_renewLocked w
      cases outcome : renewLocked repr store config w with
      | ok _ w' =>
        rw [outcome] at reads
        exact reads.aside.advances
      | error e w' =>
        rw [outcome] at reads
        have first := reads.aside.advances
        cases e with
        | exception e => exact advances_trans _ _ _ first (advances_owned id (Int.le_refl _) rfl)
        | baseException cls =>
          exact advances_trans _ _ _ first (advances_owned id (Int.le_refl _) rfl)

theorem aside_borrowed (session : { s : String // isIdentifier s = true }) (call : Call) :
    Within Aside ((Guard.borrowed parent session place).perform repr store config call) := by
  intro w
  cases call with simp only [Guard.perform, endState_bind_pure]
  | assertActive =>
    exact (reads_assertActive w).aside
  | renew =>
    exact (reads_renew w).aside
  | release =>
    exact aside_release_borrowed session w
  | releaseForWait =>
    exact aside_releaseForWait_borrowed session w
  | reacquire revision =>
    exact aside_reacquire_borrowed revision session place w
  | fence =>
    exact (reads_fence w).aside
  | borrow sessionId =>
    exact aside_borrow sessionId w

variable {i : Nat}

theorem endState_perform_on (handed : w.guards[i]? = some g) (call : Call) :
    perform repr store config (.on i call) w = g.perform repr store config call w := by
  simp only [perform, bind_run, get_run, handed]

theorem perform_on_none (unknown : w.guards[i]? = none) (call : Call) :
    perform repr store config (.on i call) w = .ok .none w := by
  simp only [perform, bind_run, get_run, unknown]
  rfl

theorem endState_perform_tick :
    endState (perform repr store config .tick w) = endState (heartbeat repr store config w) := by
  simp only [perform, endState_bind_pure]

theorem advances_perform (step : Step) : Within Advances (perform repr store config step) := by
  intro w
  cases step with
  | tick =>
    rw [endState_perform_tick]
    exact advances_heartbeat w
  | on i call =>
    cases handed : w.guards[i]? with
    | none =>
      rw [perform_on_none handed]
      exact advances_refl w
    | some g =>
      rw [endState_perform_on handed]
      cases call with simp only [Guard.perform, endState_bind_pure]
      | assertActive =>
        exact (reads_assertActive w).aside.advances
      | renew =>
        exact (reads_renew w).aside.advances
      | release =>
        exact advances_release w
      | releaseForWait =>
        exact advances_releaseForWait w
      | reacquire revision =>
        exact advances_reacquire revision w
      | fence =>
        exact (reads_fence w).aside.advances
      | borrow sessionId =>
        exact (aside_borrow sessionId w).advances

end Unchain.Execution
