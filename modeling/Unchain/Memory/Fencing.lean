import Unchain.Lib.History
import Unchain.Memory.SessionStore

/-!
What the leases of `InMemorySessionStore` fence.

Each method has one lemma that says what it can do to the store. From these the invariant
`Fenced` ties the lease records to the history of the calls, and every claim about a run is read
off it.
-/

namespace Unchain.Memory

open Lib Lib.Effect Lib.History Python

namespace InMemorySessionStore

/-! ### Lookups after writes -/

variable (s : InMemorySessionStore)

theorem leaseRecord_putRecord (x y : String) (record : LeaseRecord) :
    (s.putRecord x record).leaseRecord y = if y = x then record else s.leaseRecord y := by
  simp only [leaseRecord, putRecord, Assoc.get_set]
  split <;> rfl

@[simp] theorem cancellation_putRecord (x y o : String) (record : LeaseRecord) :
    (s.putRecord x record).cancellation y o = s.cancellation y o := rfl

@[simp] theorem cancellation_openCancellations (x y o : String) :
    (s.openCancellations x).cancellation y o = s.cancellation y o := by
  simp only [cancellation, openCancellations, Assoc.get_set]
  split
  · next same =>
      subst same
      cases Assoc.get y s.executionCancellations <;> simp
  · rfl

theorem cancellation_putCancellation (x y o p : String) (c : ExecutionCancellation) :
    (s.putCancellation x o c).cancellation y p =
      if y = x ∧ p = o then some c else s.cancellation y p := by
  simp only [cancellation, putCancellation, Assoc.get_set]
  by_cases execution : y = x
  · subst execution
    by_cases owner : p = o
    · simp [owner]
    · cases Assoc.get y s.executionCancellations <;> simp [owner]
  · simp [execution]

theorem revision_putSession (x y : String) (state : Value) (n : Int) :
    (s.putSession x state n).revision y = if y = x then n else s.revision y := by
  simp only [revision, putSession, Assoc.get_set]
  split <;> rfl

theorem session_putSession (x y : String) (state : Value) (n : Int) :
    (s.putSession x state n).session y = if y = x then state else s.session y := by
  simp only [session, putSession, Assoc.get_set]
  split <;> rfl

/-- Two stores that differ at most in the clock and in records nobody wrote. -/
structure Same (s s' : InMemorySessionStore) : Prop where
  leaseRecord : ∀ x, s'.leaseRecord x = s.leaseRecord x
  cancellation : ∀ x o, s'.cancellation x o = s.cancellation x o
  sessions : s'.sessions = s.sessions
  revisions : s'.revisions = s.revisions

theorem Same.refl : Same s s := by
  constructor
  · intro x
    rfl
  · intro x o
    rfl
  · rfl
  · rfl

variable {s} {t u : InMemorySessionStore}

theorem Same.trans (h : Same s t) (h' : Same t u) : Same s u := by
  constructor
  · intro x
    rw [h'.leaseRecord, h.leaseRecord]
  · intro x o
    rw [h'.cancellation, h.cancellation]
  · rw [h'.sessions, h.sessions]
  · rw [h'.revisions, h.revisions]

theorem same_tick (s : InMemorySessionStore) : Same s s.tick := by
  constructor
  · intro x
    rfl
  · intro x o
    rfl
  · rfl
  · rfl

theorem same_openCancellations (s : InMemorySessionStore) (x : String) :
    Same s (s.openCancellations x) := by
  constructor
  · intro y
    rfl
  · intro y o
    exact s.cancellation_openCancellations x y o
  · rfl
  · rfl

theorem Same.putRecord (h : Same s t) (x : String) (record : LeaseRecord) :
    Same (s.putRecord x record) (t.putRecord x record) := by
  constructor
  · intro y
    simp only [leaseRecord_putRecord, h.leaseRecord]
  · intro y o
    simpa using h.cancellation y o
  · exact h.sessions
  · exact h.revisions

theorem Same.putCancellation (h : Same s t) (x o : String) (c : ExecutionCancellation) :
    Same (s.putCancellation x o c) (t.putCancellation x o c) := by
  constructor
  · intro y
    exact h.leaseRecord y
  · intro y p
    simp only [cancellation_putCancellation, h.cancellation]
  · exact h.sessions
  · exact h.revisions

/-- Writing the record that is there changes nothing to be seen. -/
theorem same_putRecord_self (x : String) : Same s (s.putRecord x (s.leaseRecord x)) := by
  constructor
  · intro y
    rw [leaseRecord_putRecord]
    split
    · next same => rw [same]
    · rfl
  · intro y o
    rfl
  · rfl
  · rfl

theorem Same.putRecord_putRecord (x : String) (first last : LeaseRecord) :
    Same (s.putRecord x last) ((s.putRecord x first).putRecord x last) := by
  constructor
  · intro y
    simp only [leaseRecord_putRecord]
    split <;> rfl
  · intro y o
    rfl
  · rfl
  · rfl

theorem Same.putSession (h : Same s t) (x : String) (state : Value) (n : Int) :
    Same (s.putSession x state n) (t.putSession x state n) := by
  constructor
  · intro y
    exact h.leaseRecord y
  · intro y o
    exact h.cancellation y o
  · simp [InMemorySessionStore.putSession, h.sessions]
  · simp [InMemorySessionStore.putSession, h.revisions]

theorem Same.revision (h : Same s t) (x : String) : t.revision x = s.revision x := by
  rw [InMemorySessionStore.revision, h.revisions]
  rfl

end InMemorySessionStore

open InMemorySessionStore

section Specs

variable {host : SessionHost} {s s' : InMemorySessionStore}

/-! ### What each method can do -/

theorem nowMs_ok {now : Int} (h : nowMs host s = .ok now s') :
    host.clockMs s.clockReads = .ok (.int now) ∧ s' = s.tick := by
  simp only [nowMs, bind_run, get_run, modify_run] at h
  cases reading : host.clockMs s.clockReads with
  | error e =>
    rw [reading] at h
    cases h
  | ok value =>
    rw [reading] at h
    cases value with
    | int n =>
      cases h
      exact ⟨rfl, rfl⟩
    | _ => cases h

theorem same_trans (s t u : InMemorySessionStore) : Same s t → Same t u → Same s u := Same.trans

theorem within_nowMs : Within Same (nowMs host) := by
  apply (within_get Same.refl).bind same_trans
  intro store
  apply (within_modify same_tick).bind same_trans
  intro _
  apply (within_lift Same.refl _).bind same_trans
  intro value
  cases value with
  | int now => exact within_pure Same.refl now
  | _ => exact within_throw Same.refl _

theorem within_leaseRecord (x : String) :
    Within Same (leaseRecordUnlocked x) := fun s => same_putRecord_self x

theorem raises_within_bind {α β : Type} {m : SessionM α} {f : α → SessionM β} (first : Within Same m)
    (next : ∀ a, Raises Same (f a)) : Raises Same (m >>= f) := raises_bind same_trans first next

theorem raises_lift_bind {α β : Type} {c : Except PyError α} {f : α → SessionM β}
    (next : ∀ a, Raises Same (f a)) : Raises Same (lift c >>= f) :=
  raises_within_bind (within_lift Same.refl c) next

/-- What a lease check that passes has seen, with the reading of the clock it took. -/
structure Holds (host : SessionHost) (s : InMemorySessionStore) (x o : String)
    (token : Option Int) (lease : ExecutionLease) : Prop where
  uncancelled : s.cancellation x o = none
  active : (s.leaseRecord x).active = some lease
  token_eq : token = some lease.fencingToken
  owner_eq : lease.ownerId = o
  unexpired : ∃ now, host.clockMs s.clockReads = .ok (.int now) ∧ now < lease.expiresAtMs

variable {lease : ExecutionLease} {o x : String}

theorem assertActiveLease_ok {token : Option Int}
    (h : assertActiveLeaseUnlocked host x o token s = .ok lease s') :
    Holds host s x o token lease ∧ s' = s.tick := by
  simp only [assertActiveLeaseUnlocked, bind_run, get_run] at h
  cases cancelled : s.cancellation x o with
  | some c =>
    rw [cancelled] at h
    cases h
  | none =>
    rw [cancelled] at h
    cases held : (s.leaseRecord x).active with
    | none =>
      rw [held] at h
      cases token with
      | none => cases h
      | some token =>
        simp only at h
        split at h
        · cases h
        · cases h
    | some active =>
      rw [held] at h
      cases token with
      | none => cases h
      | some token =>
        simp only at h
        split_ifs at h with tokenNe lower ownerNe
        · cases h
        · cases h
        · cases h
        · obtain ⟨now, t, read, h⟩ := bind_eq_ok.mp h
          obtain ⟨reading, rfl⟩ := nowMs_ok read
          split at h
          · cases h
          · next unexpired =>
              cases h
              simp only [not_not] at tokenNe ownerNe
              exact ⟨⟨cancelled, held, by rw [tokenNe], ownerNe.symm, now, reading, by omega⟩, rfl⟩

theorem within_assertActiveLease {token : Option Int} :
    Within Same (assertActiveLeaseUnlocked host x o token) := by
  apply (within_get Same.refl).bind same_trans
  intro store
  split
  · exact within_throw Same.refl _
  split
  · exact within_throw Same.refl _
  · split
    · exact within_throw Same.refl _
    · exact within_throw Same.refl _
  · exact within_throw Same.refl _
  · split
    · exact within_throw Same.refl _
    split
    · exact within_throw Same.refl _
    apply within_nowMs.bind same_trans
    intro now
    split
    · exact within_throw Same.refl _
    · exact within_pure Same.refl _

variable {sid : String}

theorem ensureUnfenced_ok (h : ensureUnfencedWriteAllowedUnlocked host sid s = .ok () s') :
    Same s s' ∧ ∀ lease, (s.leaseRecord sid).active = some lease →
      ∃ now, host.clockMs s.clockReads = .ok (.int now) ∧ lease.expiresAtMs ≤ now := by
  simp only [ensureUnfencedWriteAllowedUnlocked, bind_run, get_run] at h
  cases held : (s.leaseRecord sid).active with
  | none =>
    rw [held] at h
    cases h
    exact ⟨.refl s, by simp⟩
  | some active =>
    rw [held] at h
    obtain ⟨now, t, read, h⟩ := bind_eq_ok.mp h
    obtain ⟨reading, rfl⟩ := nowMs_ok read
    split at h
    · cases h
    · next expired =>
        cases h
        refine ⟨same_tick s, ?_⟩
        intro lease same
        obtain rfl := Option.some.inj same
        exact ⟨now, reading, by omega⟩

theorem within_ensureUnfenced : Within Same (ensureUnfencedWriteAllowedUnlocked host sid) := by
  apply (within_get Same.refl).bind same_trans
  intro store
  split
  · exact within_pure Same.refl _
  apply within_nowMs.bind same_trans
  intro now
  split
  · exact within_throw Same.refl _
  · exact within_pure Same.refl _

def Writes (host : SessionHost) (s : InMemorySessionStore) (sid : String) (state : Value)
    (s' : InMemorySessionStore) : Prop :=
  ∃ copied, host.deepcopy state = .ok copied ∧
    Same (s.putSession sid copied (s.revision sid + 1)) s'

variable {n : Int} {state : Value}

theorem storeSession_ok (h : storeSession host sid state n s = .ok () s') :
    ∃ copied, host.deepcopy state = .ok copied ∧ s' = s.putSession sid copied n := by
  simp only [storeSession, bind_run] at h
  cases copy : host.deepcopy state with
  | error e =>
    rw [copy] at h
    cases h
  | ok copied =>
    rw [copy] at h
    cases h
    exact ⟨copied, rfl, rfl⟩

theorem raises_storeSession : Raises Same (storeSession host sid state n) := by
  apply raises_last (within_lift Same.refl _).raises
  intro copied s
  exact ⟨⟨⟩, s.putSession sid copied n, rfl⟩

theorem swapSession_ok {expected : Option Int}
    (h : swapSession host sid state expected s = .ok n s') :
    n = s.revision sid + 1 ∧ Writes host s sid state s' := by
  simp only [swapSession, bind_run, get_run] at h
  split at h
  · cases h
  · obtain ⟨_, t, stored, h⟩ := bind_eq_ok.mp h
    cases h
    obtain ⟨copied, copy, rfl⟩ := storeSession_ok stored
    exact ⟨rfl, copied, copy, .refl _⟩

theorem raises_swapSession {expected : Option Int} :
    Raises Same (swapSession host sid state expected) := by
  apply raises_within_bind (within_get Same.refl)
  intro store
  dsimp only
  split
  · exact (within_throw Same.refl _).raises
  · exact raises_last raises_storeSession fun _ s => ⟨_, s, rfl⟩

theorem save_ok (h : save host sid state s = .ok () s') :
    Writes host s sid state s' ∧ ∀ lease, (s.leaseRecord sid).active = some lease →
      ∃ now, host.clockMs s.clockReads = .ok (.int now) ∧ lease.expiresAtMs ≤ now := by
  obtain ⟨_, t, allowed, h⟩ := bind_eq_ok.mp h
  obtain ⟨same, expired⟩ := ensureUnfenced_ok allowed
  obtain ⟨copied, copy, rfl⟩ := storeSession_ok h
  refine ⟨⟨copied, copy, ?_⟩, expired⟩
  rw [← same.revision]
  exact same.putSession sid copied _

theorem raises_save : Raises Same (save host sid state) := by
  apply raises_within_bind within_ensureUnfenced
  intro _
  apply raises_within_bind (within_get Same.refl)
  intro store
  exact raises_storeSession

theorem validateToken_some {value : Value} {token : Int}
    (h : validateToken value = .ok (some token)) : value = .int token := by
  cases value with
  | int n =>
    simp only [validateToken, positiveInt] at h
    split at h
    · cases h
      rfl
    · cases h
  | none => cases h
  | _ => cases h

variable {expected : Value}

theorem saveIfRevision_ok (h : saveIfRevision host sid state expected s = .ok n s') :
    n = s.revision sid + 1 ∧ Writes host s sid state s' ∧
      ∀ lease, (s.leaseRecord sid).active = some lease →
        ∃ now, host.clockMs s.clockReads = .ok (.int now) ∧ lease.expiresAtMs ≤ now := by
  obtain ⟨revision, -, h⟩ := lift_bind_eq_ok.mp h
  obtain ⟨_, t, allowed, h⟩ := bind_eq_ok.mp h
  obtain ⟨same, expired⟩ := ensureUnfenced_ok allowed
  obtain ⟨next, copied, copy, wrote⟩ := swapSession_ok h
  rw [same.revision] at next wrote
  exact ⟨next, ⟨copied, copy, (same.putSession sid copied _).trans wrote⟩, expired⟩

theorem raises_saveIfRevision :
    Raises Same (saveIfRevision host sid state expected) := by
  apply raises_lift_bind
  intro revision
  apply raises_within_bind within_ensureUnfenced
  intro _
  exact raises_swapSession

variable {token : Value}

theorem saveIfRevisionAndFence_ok
    (h : saveIfRevisionAndFence host sid state expected x o token s = .ok n s') :
    n = s.revision sid + 1 ∧ Writes host s sid state s' ∧
      ∃ lease, token = .int lease.fencingToken ∧
        Holds host s x o (some lease.fencingToken) lease := by
  obtain ⟨_, -, h⟩ := lift_bind_eq_ok.mp h
  obtain ⟨revision, -, h⟩ := lift_bind_eq_ok.mp h
  obtain ⟨_, -, h⟩ := lift_bind_eq_ok.mp h
  obtain ⟨wanted, valid, h⟩ := lift_bind_eq_ok.mp h
  obtain ⟨lease, t, owned, h⟩ := bind_eq_ok.mp h
  obtain ⟨holds, rfl⟩ := assertActiveLease_ok owned
  obtain ⟨next, copied, copy, wrote⟩ := swapSession_ok h
  have same := same_tick s
  obtain rfl := holds.token_eq
  refine ⟨next, ⟨copied, copy, (same.putSession sid copied _).trans wrote⟩, lease, ?_, holds⟩
  exact validateToken_some valid

theorem raises_saveIfRevisionAndFence :
    Raises Same (saveIfRevisionAndFence host sid state expected x o token) := by
  apply raises_lift_bind
  intro _
  apply raises_lift_bind
  intro revision
  apply raises_lift_bind
  intro _
  apply raises_lift_bind
  intro wanted
  apply raises_within_bind within_assertActiveLease
  intro lease
  exact raises_swapSession

variable {ttl : Value}

theorem renewLease_ok {renewed : ExecutionLease} (h : renewLease host x o token ttl s = .ok renewed s') :
    ∃ lease, (s.leaseRecord x).active = some lease ∧
      renewed.fencingToken = lease.fencingToken ∧ renewed.ownerId = lease.ownerId ∧
      Same (s.putRecord x { s.leaseRecord x with active := some renewed }) s' := by
  obtain ⟨_, -, h⟩ := lift_bind_eq_ok.mp h
  obtain ⟨_, -, h⟩ := lift_bind_eq_ok.mp h
  obtain ⟨_, -, h⟩ := lift_bind_eq_ok.mp h
  obtain ⟨lease, t, owned, h⟩ := bind_eq_ok.mp h
  obtain ⟨holds, rfl⟩ := assertActiveLease_ok owned
  obtain ⟨now, t, read, h⟩ := bind_eq_ok.mp h
  obtain ⟨-, rfl⟩ := nowMs_ok read
  obtain ⟨expires, -, h⟩ := lift_bind_eq_ok.mp h
  obtain ⟨built, made, h⟩ := lift_bind_eq_ok.mp h
  have ticks : Same s s.tick.tick := (same_tick s).trans (same_tick s.tick)
  obtain ⟨-, owner, fencing, -⟩ := ExecutionLease.make_ok made
  cases h
  refine ⟨lease, holds.active, fencing, owner, ?_⟩
  have written := (ticks.putRecord x (s.leaseRecord x)).putRecord x
    { s.leaseRecord x with active := some renewed }
  exact (Same.putRecord_putRecord x _ _).trans written

theorem raises_renewLease : Raises Same (renewLease host x o token ttl) := by
  apply raises_lift_bind
  intro _
  apply raises_lift_bind
  intro duration
  apply raises_lift_bind
  intro wanted
  apply raises_within_bind within_assertActiveLease
  intro lease
  apply raises_within_bind within_nowMs
  intro now
  apply raises_lift_bind
  intro expires
  apply raises_last (within_lift Same.refl _).raises
  intro renewed s
  exact ⟨renewed, _, rfl⟩

theorem releaseLease_ok (h : releaseLease host x o token s = .ok () s') :
    Same s s' ∨ Same (s.putRecord x { s.leaseRecord x with active := none }) s' := by
  obtain ⟨_, -, h⟩ := lift_bind_eq_ok.mp h
  obtain ⟨_, -, h⟩ := lift_bind_eq_ok.mp h
  simp only [bind_run, get_run] at h
  cases held : (s.leaseRecord x).active with
  | none =>
    rw [held] at h
    simp only at h
    split at h
    · cases h
      exact .inl (.refl _)
    · obtain ⟨lease, t, owned, h⟩ := bind_eq_ok.mp h
      obtain ⟨-, rfl⟩ := assertActiveLease_ok owned
      cases h
      exact .inl (same_tick s)
  | some active =>
    rw [held] at h
    obtain ⟨lease, t, owned, h⟩ := bind_eq_ok.mp h
    obtain ⟨-, rfl⟩ := assertActiveLease_ok owned
    cases h
    exact .inr ((same_tick s).putRecord x _)

theorem raises_releaseLease : Raises Same (releaseLease host x o token) := by
  apply raises_lift_bind
  intro _
  apply raises_lift_bind
  intro wanted
  apply raises_within_bind (within_get Same.refl)
  intro store
  dsimp only
  split
  · split
    · exact (within_pure Same.refl _).raises
    · exact raises_last within_assertActiveLease.raises fun _ s => ⟨_, s, rfl⟩
  · exact raises_last within_assertActiveLease.raises fun _ s => ⟨_, _, rfl⟩

variable {reason : String}

/-- A cancellation returns the tombstone that is there, or writes one that names the token the
owner held. -/
theorem requestExecutionCancel_ok {c : ExecutionCancellation}
    (h : requestExecutionCancel host x o reason s = .ok c s') :
    s.cancellation x o = some c ∧ Same s s' ∨
      s.cancellation x o = none ∧ c.executionId = x ∧ c.ownerId = o ∧
        c.fencingToken = cancelledToken (s.leaseRecord x) o ∧
        Same ((s.putRecord x (dropActive (s.leaseRecord x) o)).putCancellation x o c) s' := by
  obtain ⟨_, -, h⟩ := lift_bind_eq_ok.mp h
  simp only [bind_run, get_run, modify_run, cancellation_openCancellations] at h
  have opened := same_openCancellations s x
  cases existing : s.cancellation x o with
  | some c' =>
    rw [existing] at h
    cases h
    exact .inl ⟨rfl, opened⟩
  | none =>
    rw [existing] at h
    obtain ⟨record, t, found, h⟩ := bind_eq_ok.mp h
    cases found
    obtain ⟨_, t, dropped, h⟩ := bind_eq_ok.mp h
    cases dropped
    obtain ⟨now, t, read, h⟩ := bind_eq_ok.mp h
    obtain ⟨-, rfl⟩ := nowMs_ok read
    obtain ⟨built, made, h⟩ := lift_bind_eq_ok.mp h
    obtain ⟨execution, owner, token, -⟩ := ExecutionCancellation.make_ok made
    cases h
    refine .inr ⟨rfl, execution, owner, token, ?_⟩
    have written := ((opened.putRecord x (s.leaseRecord x)).putRecord x
      (dropActive (s.leaseRecord x) o)).trans (same_tick _)
    exact ((Same.putRecord_putRecord x _ _).trans written).putCancellation x o c

/-- A cancellation that raises may have taken the owner's lease away, and nothing else. -/
theorem requestExecutionCancel_error (h : requestExecutionCancel host x o reason s = .error e s') :
    Same s s' ∨ Same (s.putRecord x (dropActive (s.leaseRecord x) o)) s' := by
  rcases lift_bind_eq_error.mp h with ⟨-, rfl⟩ | ⟨_, -, h⟩
  · exact .inl (.refl _)
  simp only [bind_run, get_run, modify_run, cancellation_openCancellations] at h
  have opened := same_openCancellations s x
  cases existing : s.cancellation x o with
  | some c' =>
    rw [existing] at h
    cases h
  | none =>
    rw [existing] at h
    rcases bind_eq_error.mp h with missing | ⟨record, t, found, h⟩
    · cases missing
    cases found
    rcases bind_eq_error.mp h with missing | ⟨_, t, dropped, h⟩
    · cases missing
    cases dropped
    have written := (Same.putRecord_putRecord x (s.leaseRecord x)
      (dropActive (s.leaseRecord x) o)).trans ((opened.putRecord x _).putRecord x _)
    rcases bind_eq_error.mp h with silent | ⟨now, t, read, h⟩
    · exact .inr (written.trans (within_nowMs.raises _ _ _ silent))
    obtain ⟨-, rfl⟩ := nowMs_ok read
    rcases lift_bind_eq_error.mp h with ⟨-, rfl⟩ | ⟨_, -, h⟩
    · exact .inr (written.trans (same_tick _))
    cases h

theorem acquireLease_ok (h : acquireLease host x o ttl expected s = .ok lease s') :
    (s.leaseRecord x).active = some lease ∧ Same s s' ∨
      lease.executionId = x ∧ lease.ownerId = o ∧
        lease.fencingToken = (s.leaseRecord x).lastFencingToken + 1 ∧
        Same (s.putRecord x { lastFencingToken := lease.fencingToken, lastOwnerId := o,
                              active := some lease }) s' := by
  obtain ⟨_, -, h⟩ := lift_bind_eq_ok.mp h
  obtain ⟨duration, -, h⟩ := lift_bind_eq_ok.mp h
  obtain ⟨wanted, -, h⟩ := lift_bind_eq_ok.mp h
  simp only [bind_run, get_run] at h
  cases cancelled : s.cancellation x o with
  | some c =>
    rw [cancelled] at h
    cases h
  | none =>
    rw [cancelled] at h
    simp only at h
    split at h
    · cases h
    obtain ⟨now, t, read, h⟩ := bind_eq_ok.mp h
    obtain ⟨-, rfl⟩ := nowMs_ok read
    obtain ⟨record, t, found, h⟩ := bind_eq_ok.mp h
    cases found
    have looked : Same s (s.tick.putRecord x (s.leaseRecord x)) :=
      (same_tick s).trans (same_putRecord_self x)
    cases live : (s.tick.leaseRecord x).active.filter
        fun active => decide (now < active.expiresAtMs) with
    | some active =>
      rw [live] at h
      simp only at h
      split at h
      · cases h
        exact .inl ⟨(Option.filter_eq_some_iff.mp live).1, looked⟩
      · cases h
    | none =>
      rw [live] at h
      obtain ⟨_, -, h⟩ := lift_bind_eq_ok.mp h
      obtain ⟨built, made, h⟩ := lift_bind_eq_ok.mp h
      obtain ⟨execution, owner, token, -⟩ := ExecutionLease.make_ok made
      cases h
      refine .inr ⟨execution, owner, token, ?_⟩
      rw [token]
      exact (Same.putRecord_putRecord x _ _).trans
        (((same_tick s).putRecord x (s.leaseRecord x)).putRecord x _)

theorem raises_acquireLease :
    Raises Same (acquireLease host x o ttl expected) := by
  apply raises_lift_bind
  intro _
  apply raises_lift_bind
  intro duration
  apply raises_lift_bind
  intro wanted
  apply raises_within_bind (within_get Same.refl)
  intro store
  dsimp only
  split
  · exact (within_throw Same.refl _).raises
  split
  · exact (within_throw Same.refl _).raises
  apply raises_within_bind within_nowMs
  intro now
  apply raises_within_bind (within_leaseRecord x)
  intro record
  split
  · split
    · exact (within_pure Same.refl _).raises
    · exact (within_throw Same.refl _).raises
  apply raises_lift_bind
  intro expires
  apply raises_last (within_lift Same.refl _).raises
  intro made s
  exact ⟨made, _, rfl⟩

end Specs

/-! ### Leases against the history -/

def issuedFor (x : String) (issued : List ExecutionLease) : List ExecutionLease :=
  issued.filter fun lease => lease.executionId = x

def newest (x : String) (issued : List ExecutionLease) : Option ExecutionLease :=
  (issuedFor x issued).getLast?

theorem cancelledToken_fences {record : LeaseRecord} {o : String} {token : Int}
    (coherent : ∀ lease, record.active = some lease → lease.fencingToken = record.lastFencingToken ∧
      lease.ownerId = record.lastOwnerId) (names : cancelledToken record o = some token) :
    token ≤ record.lastFencingToken ∧ (dropActive record o).active = none := by
  cases held : record.active with
  | none =>
    simp only [cancelledToken, held, Option.filter_none] at names
    split at names
    · obtain rfl := Option.some.inj names
      exact ⟨Int.le_refl _, by simp [dropActive, held]⟩
    · cases names
  | some lease =>
    obtain ⟨last, owner⟩ := coherent lease held
    by_cases own : lease.ownerId = o
    · simp only [cancelledToken, held, Option.filter_some, own, decide_true, if_true] at names
      obtain rfl := Option.some.inj names
      exact ⟨Int.le_of_eq last, by simp [dropActive, held, own]⟩
    · have foreign : record.active.filter (fun active => decide (active.ownerId = o)) = none := by
        simp [held, own]
      simp only [cancelledToken] at names
      rw [foreign] at names
      simp [← owner, own] at names

structure Fenced (issued : List ExecutionLease) (cancelled : List ExecutionCancellation)
    (s : InMemorySessionStore) : Prop where
  last_eq : ∀ x, (s.leaseRecord x).lastFencingToken = ((newest x issued).map (·.fencingToken)).getD 0
  owner_eq : ∀ x, (s.leaseRecord x).lastOwnerId = ((newest x issued).map (·.ownerId)).getD ""
  increasing : ∀ x, (issuedFor x issued).Pairwise fun a b => a.fencingToken < b.fencingToken
  le_last : ∀ x, ∀ lease ∈ issuedFor x issued,
    lease.fencingToken ≤ (s.leaseRecord x).lastFencingToken
  active : ∀ x lease, (s.leaseRecord x).active = some lease →
    lease.fencingToken = (s.leaseRecord x).lastFencingToken ∧
      lease.ownerId = (s.leaseRecord x).lastOwnerId
  keyed : ∀ x o c, s.cancellation x o = some c → c.executionId = x ∧ c.ownerId = o
  fenced : ∀ x o c, s.cancellation x o = some c → ∀ token ∈ c.fencingToken,
    token ≤ (s.leaseRecord x).lastFencingToken ∧
      ∀ lease, (s.leaseRecord x).active = some lease → token < lease.fencingToken
  recorded : ∀ c ∈ cancelled, s.cancellation c.executionId c.ownerId = some c

namespace Fenced

variable {issued : List ExecutionLease} {cancelled : List ExecutionCancellation}
  {s s' : InMemorySessionStore}

theorem new : Fenced [] [] .new := by
  constructor
  · intro x
    rfl
  · intro x
    rfl
  · intro x
    exact .nil
  · intro x lease mem
    cases mem
  · intro x lease held
    cases held
  · intro x o c found
    cases found
  · intro x o c found
    cases found
  · intro c mem
    cases mem

section

variable (h : Fenced issued cancelled s)

include h

theorem same (unchanged : Same s s') :
    Fenced issued cancelled s' := by
  obtain ⟨record, cancellation, -, -⟩ := unchanged
  constructor
  · intro x
    rw [record]
    exact h.last_eq x
  · intro x
    rw [record]
    exact h.owner_eq x
  · exact h.increasing
  · intro x
    rw [record]
    exact h.le_last x
  · intro x
    rw [record]
    exact h.active x
  · intro x o c
    rw [cancellation]
    exact h.keyed x o c
  · intro x o c
    rw [cancellation, record]
    exact h.fenced x o c
  · intro c mem
    rw [cancellation]
    exact h.recorded c mem

theorem putActive (x : String) (held : Option ExecutionLease)
    (renews : ∀ lease, held = some lease → ∃ old, (s.leaseRecord x).active = some old ∧
      lease.fencingToken = old.fencingToken ∧ lease.ownerId = old.ownerId) :
    Fenced issued cancelled (s.putRecord x { s.leaseRecord x with active := held }) := by
  have last : ∀ y, ((s.putRecord x { s.leaseRecord x with active := held }).leaseRecord
      y).lastFencingToken = (s.leaseRecord y).lastFencingToken := by
    intro y
    rw [leaseRecord_putRecord]
    split
    · next here => rw [here]
    · rfl
  have owner : ∀ y, ((s.putRecord x { s.leaseRecord x with active := held }).leaseRecord
      y).lastOwnerId = (s.leaseRecord y).lastOwnerId := by
    intro y
    rw [leaseRecord_putRecord]
    split
    · next here => rw [here]
    · rfl
  -- a lease held now has the token and the owner of one held before
  have stands : ∀ y lease, ((s.putRecord x { s.leaseRecord x with active := held }).leaseRecord
      y).active = some lease → ∃ old, (s.leaseRecord y).active = some old ∧
        lease.fencingToken = old.fencingToken ∧ lease.ownerId = old.ownerId := by
    intro y lease active
    rw [leaseRecord_putRecord] at active
    split at active
    · next here =>
        rw [here]
        exact renews lease active
    · exact ⟨lease, active, rfl, rfl⟩
  constructor
  · intro y
    rw [last]
    exact h.last_eq y
  · intro y
    rw [owner]
    exact h.owner_eq y
  · exact h.increasing
  · intro y
    rw [last]
    exact h.le_last y
  · intro y lease active
    obtain ⟨old, before, token, holder⟩ := stands y lease active
    rw [last, owner, token, holder]
    exact h.active y old before
  · exact h.keyed
  · intro y o c found token names
    obtain ⟨le, lt⟩ := h.fenced y o c found token names
    refine ⟨by rw [last]; exact le, ?_⟩
    intro lease active
    obtain ⟨old, before, same, -⟩ := stands y lease active
    rw [same]
    exact lt old before
  · exact h.recorded

theorem drop (x o : String) :
    Fenced issued cancelled (s.putRecord x (dropActive (s.leaseRecord x) o)) := by
  apply h.putActive x
  intro lease held
  exact ⟨lease, (Option.filter_eq_some_iff.mp held).1, rfl, rfl⟩

variable {o x : String}

theorem issue {lease : ExecutionLease}
    (execution : lease.executionId = x) (owner : lease.ownerId = o)
    (token : lease.fencingToken = (s.leaseRecord x).lastFencingToken + 1) :
    Fenced (issued ++ [lease]) cancelled
      (s.putRecord x { lastFencingToken := lease.fencingToken, lastOwnerId := o,
                       active := some lease }) := by
  have here : issuedFor x (issued ++ [lease]) = issuedFor x issued ++ [lease] := by
    simp [issuedFor, List.filter_append, execution]
  have elsewhere : ∀ y, y ≠ x → issuedFor y (issued ++ [lease]) = issuedFor y issued := by
    intro y other
    simp [issuedFor, List.filter_append, execution, Ne.symm other]
  constructor
  · intro y
    rw [leaseRecord_putRecord]
    split
    · next same => simp [newest, same, here]
    · next other =>
        rw [newest, elsewhere y other]
        exact h.last_eq y
  · intro y
    rw [leaseRecord_putRecord]
    split
    · next same => simp [newest, same, here, owner]
    · next other =>
        rw [newest, elsewhere y other]
        exact h.owner_eq y
  · intro y
    by_cases same : y = x
    · rw [same, here]
      refine List.pairwise_append.mpr ⟨h.increasing x, List.pairwise_singleton _ _, ?_⟩
      intro earlier mem new mem'
      obtain rfl := List.mem_singleton.mp mem'
      have := h.le_last x earlier mem
      omega
    · rw [elsewhere y same]
      exact h.increasing y
  · intro y earlier mem
    rw [leaseRecord_putRecord]
    split
    · next same =>
        rw [same, here] at mem
        rcases List.mem_append.mp mem with mem | mem
        · have := h.le_last x earlier mem
          show earlier.fencingToken ≤ lease.fencingToken
          omega
        · obtain rfl := List.mem_singleton.mp mem
          exact Int.le_refl _
    · next other =>
        rw [elsewhere y other] at mem
        exact h.le_last y earlier mem
  · intro y held active
    rw [leaseRecord_putRecord] at active ⊢
    split at active
    · next same =>
        obtain rfl := Option.some.inj active
        rw [if_pos same]
        exact ⟨rfl, owner⟩
    · next other =>
        rw [if_neg other]
        exact h.active y held active
  · exact h.keyed
  · intro y p c found t names
    obtain ⟨le, lt⟩ := h.fenced y p c found t names
    rw [leaseRecord_putRecord]
    split
    · next same =>
        rw [same] at le
        refine ⟨?_, ?_⟩
        · show t ≤ lease.fencingToken
          omega
        · intro held active
          obtain rfl := Option.some.inj active
          omega
    · exact ⟨le, lt⟩
  · exact h.recorded

variable {c : ExecutionCancellation}

theorem cancel (fresh : s.cancellation x o = none)
    (execution : c.executionId = x) (owner : c.ownerId = o)
    (token : c.fencingToken = cancelledToken (s.leaseRecord x) o) : Fenced issued (cancelled ++ [c])
      ((s.putRecord x (dropActive (s.leaseRecord x) o)).putCancellation x o c) := by
  have dropped := h.drop x o
  constructor
  · exact dropped.last_eq
  · exact dropped.owner_eq
  · exact dropped.increasing
  · exact dropped.le_last
  · exact dropped.active
  · intro y p c' found
    rw [cancellation_putCancellation] at found
    split at found
    · next there =>
        obtain rfl := Option.some.inj found
        exact ⟨execution.trans there.1.symm, owner.trans there.2.symm⟩
    · exact dropped.keyed y p c' found
  · intro y p c' found t names
    rw [cancellation_putCancellation] at found
    split at found
    · next there =>
        obtain rfl := Option.some.inj found
        obtain ⟨rfl, rfl⟩ := there
        rw [token] at names
        obtain ⟨le, gone⟩ := cancelledToken_fences (h.active y) names
        have there := s.leaseRecord_putRecord y y (dropActive (s.leaseRecord y) p)
        rw [if_pos rfl] at there
        show t ≤ ((s.putRecord y (dropActive (s.leaseRecord y) p)).leaseRecord y).lastFencingToken ∧
          ∀ lease, ((s.putRecord y (dropActive (s.leaseRecord y) p)).leaseRecord y).active =
            some lease → t < lease.fencingToken
        rw [there, gone]
        exact ⟨le, by simp⟩
    · exact dropped.fenced y p c' found t names
  · intro c' mem
    rw [cancellation_putCancellation]
    rcases List.mem_append.mp mem with mem | mem
    · have found := dropped.recorded c' mem
      split
      · next there =>
          rw [there.1, there.2] at found
          rw [cancellation_putRecord, fresh] at found
          cases found
      · exact found
    · obtain rfl := List.mem_singleton.mp mem
      rw [if_pos ⟨execution, owner⟩]

theorem putSession {sid : String} {state : Value} {n : Int} :
    Fenced issued cancelled (s.putSession sid state n) := by
  constructor
  · exact h.last_eq
  · exact h.owner_eq
  · exact h.increasing
  · exact h.le_last
  · exact h.active
  · exact h.keyed
  · exact h.fenced
  · exact h.recorded

theorem recancel (found : s.cancellation x o = some c) :
    Fenced issued (cancelled ++ [c]) s := by
  obtain ⟨execution, owner⟩ := h.keyed x o c found
  refine { h with recorded := ?_ }
  intro c' mem
  rcases List.mem_append.mp mem with mem | mem
  · exact h.recorded c' mem
  · obtain rfl := List.mem_singleton.mp mem
    rw [execution, owner]
    exact found

end

end Fenced

/-! ### Histories -/

abbrev SessionEntry := Entry PyError InMemorySessionStore SessionReply SessionCall

def issuedBy (e : SessionEntry) : Option ExecutionLease :=
  match e.call, e.reply with
  | .acquireLease executionId _ _ _, some (.lease lease) =>
    if (e.before.leaseRecord executionId).active = some lease then none else some lease
  | _, _ => none

/-- The tombstone a call answered with. -/
def cancelledBy (e : SessionEntry) : Option ExecutionCancellation :=
  match e.reply with
  | some (.cancellation cancellation) => some cancellation
  | _ => none

def SessionCall.writes : SessionCall → Option (String × Value)
  | .save sessionId state => some (sessionId, state)
  | .saveIfRevision sessionId state _ => some (sessionId, state)
  | .saveIfRevisionAndFence sessionId state _ _ _ _ => some (sessionId, state)
  | _ => none

/-- The session of a write that presents no fence. -/
def SessionCall.unfenced : SessionCall → Option String
  | .save sessionId _ => some sessionId
  | .saveIfRevision sessionId _ _ => some sessionId
  | _ => none

/-- `Fenced` against a history. -/
def FencedBy (past : List SessionEntry) (s : InMemorySessionStore) : Prop :=
  Fenced (past.filterMap issuedBy) (past.filterMap cancelledBy) s

/-- The fence of one call: a fenced save that returned presented the newest token of its
execution, held unexpired by the owner it was issued to, who was never cancelled; a cancellation
that named a token came before a newer one was issued. -/
def HonoursFence (host : SessionHost) (earlier : List SessionEntry) (e : SessionEntry) : Prop :=
  ∀ sid state expected x o token, e.call = .saveIfRevisionAndFence sid state expected x o token →
    e.reply.isSome → ∃ lease issued,
      token = .int lease.fencingToken ∧
      newest x (earlier.filterMap issuedBy) = some issued ∧
      issued.fencingToken = lease.fencingToken ∧ issued.ownerId = o ∧
      (∀ other ∈ issuedFor x (earlier.filterMap issuedBy),
        other.fencingToken ≤ lease.fencingToken) ∧
      (e.before.leaseRecord x).active = some lease ∧ lease.ownerId = o ∧
      (∃ now, host.clockMs e.before.clockReads = .ok (.int now) ∧ now < lease.expiresAtMs) ∧
      ∀ c ∈ earlier.filterMap cancelledBy, c.executionId = x →
        c.ownerId ≠ o ∧ ∀ cancelled ∈ c.fencingToken, cancelled < lease.fencingToken

def RespectsLease (host : SessionHost) (e : SessionEntry) : Prop :=
  ∀ sid, e.call.unfenced = some sid → e.reply.isSome → ∀ lease,
    (e.before.leaseRecord sid).active = some lease →
      ∃ now, host.clockMs e.before.clockReads = .ok (.int now) ∧ lease.expiresAtMs ≤ now

/-- A write that returned moved its session to the next revision and no other session anywhere;
every other call left the sessions and their revisions as they were. -/
def Revises (host : SessionHost) (e : SessionEntry) : Prop :=
  (∀ sid state, e.call.writes = some (sid, state) → e.reply.isSome →
    e.after.revision sid = e.before.revision sid + 1 ∧
      host.deepcopy state = .ok (e.after.session sid) ∧
      ∀ other, other ≠ sid → e.after.revision other = e.before.revision other ∧
        e.after.session other = e.before.session other) ∧
    (e.call.writes = none ∨ e.reply = none →
      e.after.sessions = e.before.sessions ∧ e.after.revisions = e.before.revisions)

section Runs

variable {host : SessionHost} {past : List SessionEntry} {e : SessionEntry}
  {s s' : InMemorySessionStore}

theorem FencedBy.append (h : Fenced (past.filterMap issuedBy ++ (issuedBy e).toList)
    (past.filterMap cancelledBy ++ (cancelledBy e).toList) s) : FencedBy (past ++ [e]) s := by
  rw [FencedBy, List.filterMap_append, List.filterMap_append]
  cases issued : issuedBy e <;> cases cancelled : cancelledBy e <;>
    simpa [issued, cancelled] using h

/-- A call that issues and cancels nothing. -/
theorem FencedBy.append_quiet (h : Fenced (past.filterMap issuedBy) (past.filterMap cancelledBy) s)
    (issued : issuedBy e = none) (cancelled : cancelledBy e = none) : FencedBy (past ++ [e]) s := by
  apply FencedBy.append
  simpa [issued, cancelled] using h

theorem issuedBy_error {call : SessionCall} {error : PyError} :
    issuedBy ⟨s, call, .error error s'⟩ = none := by
  cases call <;> rfl

/-- What a call that raises leaves: at most the owner of a cancellation has lost its lease. -/
theorem perform_raises {call : SessionCall} {error : PyError}
    (h : perform host call s = .error error s') :
    Same s s' ∨ ∃ x o, Same (s.putRecord x (dropActive (s.leaseRecord x) o)) s' := by
  cases call with
  | acquireLease x o ttl expected =>
    exact .inl (raises_last raises_acquireLease (fun _ s => ⟨_, s, rfl⟩) _ _ _ h)
  | renewLease x o token ttl =>
    exact .inl (raises_last raises_renewLease (fun _ s => ⟨_, s, rfl⟩) _ _ _ h)
  | releaseLease x o token =>
    exact .inl (raises_last raises_releaseLease (fun _ s => ⟨_, s, rfl⟩) _ _ _ h)
  | requestExecutionCancel x o reason =>
    rcases bind_eq_error.mp h with raised | ⟨_, _, -, ⟨⟩⟩
    exact (requestExecutionCancel_error raised).imp_right fun dropped => ⟨x, o, dropped⟩
  | save sid state => exact .inl (raises_last raises_save (fun _ s => ⟨_, s, rfl⟩) _ _ _ h)
  | saveIfRevision sid state expected =>
    exact .inl (raises_last raises_saveIfRevision (fun _ s => ⟨_, s, rfl⟩) _ _ _ h)
  | saveIfRevisionAndFence sid state expected x o token =>
    exact .inl (raises_last raises_saveIfRevisionAndFence (fun _ s => ⟨_, s, rfl⟩) _ _ _ h)

theorem FencedBy.step (h : FencedBy past s) (call : SessionCall) :
    FencedBy (past ++ [record (perform host) s call]) (endState (perform host call s)) := by
  rw [record]
  cases outcome : perform host call s with
  | error e s' =>
    refine FencedBy.append_quiet ?_ issuedBy_error rfl
    rcases perform_raises outcome with same | ⟨x, o, dropped⟩
    · exact h.same same
    · exact Fenced.same (h.drop x o) dropped
  | ok reply s' =>
    cases call with
    | acquireLease x o ttl expected =>
      obtain ⟨lease, t, ran, ⟨⟩⟩ := bind_eq_ok.mp outcome
      rcases acquireLease_ok ran with ⟨held, same⟩ | ⟨execution, owner, token, same⟩
      · exact FencedBy.append_quiet (h.same same)
          (by simp [issuedBy, Entry.reply, held]) rfl
      · apply FencedBy.append
        have fresh : (s.leaseRecord x).active ≠ some lease := by
          intro held
          have := (h.active x lease held).1
          omega
        have issued : issuedBy ⟨s, .acquireLease x o ttl expected, .ok (.lease lease) s'⟩ =
            some lease := by
          simp [issuedBy, Entry.reply, fresh]
        rw [issued]
        simpa [cancelledBy, Entry.reply] using (h.issue execution owner token).same same
    | renewLease x o token ttl =>
      obtain ⟨lease, t, ran, ⟨⟩⟩ := bind_eq_ok.mp outcome
      obtain ⟨old, held, token, owner, same⟩ := renewLease_ok ran
      refine FencedBy.append_quiet (Fenced.same (h.putActive x _ ?_) same) rfl rfl
      intro lease' renewed
      obtain rfl := Option.some.inj renewed
      exact ⟨old, held, token, owner⟩
    | releaseLease x o token =>
      obtain ⟨_, t, ran, ⟨⟩⟩ := bind_eq_ok.mp outcome
      refine FencedBy.append_quiet ?_ rfl rfl
      rcases releaseLease_ok ran with same | released
      · exact h.same same
      · exact Fenced.same (h.putActive x none (by simp)) released
    | requestExecutionCancel x o reason =>
      obtain ⟨c, t, ran, ⟨⟩⟩ := bind_eq_ok.mp outcome
      apply FencedBy.append
      simp only [issuedBy, cancelledBy, Entry.reply, Option.toList_none, List.append_nil,
        Option.toList_some]
      rcases requestExecutionCancel_ok ran with
        ⟨found, same⟩ | ⟨fresh, execution, owner, token, same⟩
      · exact (Fenced.recancel h found).same same
      · exact (Fenced.cancel h fresh execution owner token).same same
    | save sid state =>
      obtain ⟨_, t, ran, ⟨⟩⟩ := bind_eq_ok.mp outcome
      obtain ⟨⟨copied, -, same⟩, -⟩ := save_ok ran
      exact FencedBy.append_quiet (h.putSession.same same) rfl rfl
    | saveIfRevision sid state expected =>
      obtain ⟨_, t, ran, ⟨⟩⟩ := bind_eq_ok.mp outcome
      obtain ⟨-, ⟨copied, -, same⟩, -⟩ := saveIfRevision_ok ran
      exact FencedBy.append_quiet (h.putSession.same same) rfl rfl
    | saveIfRevisionAndFence sid state expected x o token =>
      obtain ⟨_, t, ran, ⟨⟩⟩ := bind_eq_ok.mp outcome
      obtain ⟨-, ⟨copied, -, same⟩, -⟩ := saveIfRevisionAndFence_ok ran
      exact FencedBy.append_quiet (h.putSession.same same) rfl rfl

theorem honoursFence_of (h : FencedBy past s) (call : SessionCall) :
    HonoursFence host past (record (perform host) s call) := by
  rintro sid state expected x o token ⟨⟩ returned
  obtain ⟨reply, replied⟩ := Option.isSome_iff_exists.mp returned
  obtain ⟨s', ran⟩ := record_reply_iff.mp replied
  obtain ⟨n, t, ran, -⟩ := bind_eq_ok.mp ran
  obtain ⟨-, -, lease, presented, holds⟩ := saveIfRevisionAndFence_ok ran
  obtain ⟨last, owner⟩ := h.active x lease holds.active
  have positive := lease.token_pos
  cases issued : newest x (past.filterMap issuedBy) with
  | none =>
    -- nothing was issued, so nothing can be held
    have zero := h.last_eq x
    rw [issued] at zero
    simp only [Option.map_none, Option.getD_none] at zero
    omega
  | some new =>
    have lastToken := h.last_eq x
    have lastOwner := h.owner_eq x
    rw [issued] at lastToken lastOwner
    refine ⟨lease, new, presented, rfl, ?_, ?_, ?_, holds.active, holds.owner_eq,
      holds.unexpired, ?_⟩
    · rw [last, lastToken]
      rfl
    · rw [← holds.owner_eq, owner, lastOwner]
      rfl
    · intro other mem
      rw [last]
      exact h.le_last x other mem
    · intro c mem execution
      have found := h.recorded c mem
      rw [execution] at found
      constructor
      · intro same
        rw [same, holds.uncancelled] at found
        cases found
      · intro cancelled names
        exact (h.fenced x c.ownerId c found cancelled names).2 lease holds.active

theorem respectsLease_record (call : SessionCall) :
    RespectsLease host (record (perform host) s call) := by
  intro sid unfenced returned
  obtain ⟨reply, replied⟩ := Option.isSome_iff_exists.mp returned
  obtain ⟨s', ran⟩ := record_reply_iff.mp replied
  cases call with
  | save sid' state =>
    cases unfenced
    obtain ⟨_, t, ran, -⟩ := bind_eq_ok.mp ran
    exact (save_ok ran).2
  | saveIfRevision sid' state expected =>
    cases unfenced
    obtain ⟨_, t, ran, -⟩ := bind_eq_ok.mp ran
    exact (saveIfRevision_ok ran).2.2
  | _ => cases unfenced

theorem Writes.told {sid : String} {state : Value} (h : Writes host s sid state s') :
    s'.revision sid = s.revision sid + 1 ∧ host.deepcopy state = .ok (s'.session sid) ∧
      ∀ other, other ≠ sid → s'.revision other = s.revision other ∧
        s'.session other = s.session other := by
  obtain ⟨copied, copy, same⟩ := h
  have session : ∀ x, s'.session x =
      (s.putSession sid copied (s.revision sid + 1)).session x := by
    intro x
    rw [InMemorySessionStore.session, same.sessions]
    rfl
  refine ⟨?_, ?_, ?_⟩
  · rw [same.revision, revision_putSession, if_pos rfl]
  · rw [copy, session, session_putSession, if_pos rfl]
  · intro other ne
    rw [same.revision, revision_putSession, if_neg ne, session, session_putSession, if_neg ne]
    exact ⟨rfl, rfl⟩

theorem revises_record (call : SessionCall) : Revises host (record (perform host) s call) := by
  cases outcome : perform host call s with
  | error e s' =>
    have after : (record (perform host) s call).after = s' := by
      rw [record_after, outcome]
      rfl
    constructor
    · intro sid state writes returned
      obtain ⟨reply, replied⟩ := Option.isSome_iff_exists.mp returned
      obtain ⟨t, ran⟩ := record_reply_iff.mp replied
      rw [outcome] at ran
      cases ran
    · intro _
      rw [after, record_before]
      rcases perform_raises outcome with same | ⟨x, o, dropped⟩
      · exact ⟨same.sessions, same.revisions⟩
      · exact ⟨dropped.sessions, dropped.revisions⟩
  | ok reply s' =>
    have after : (record (perform host) s call).after = s' := by
      rw [record_after, outcome]
      rfl
    have replied : (record (perform host) s call).reply = some reply :=
      record_reply_iff.mpr ⟨s', outcome⟩
    simp only [Revises, after, replied, record_before, record_call]
    cases call with
    | acquireLease x o ttl expected =>
      obtain ⟨lease, t, ran, ⟨⟩⟩ := bind_eq_ok.mp outcome
      refine ⟨fun _ _ writes => (nomatch writes), fun _ => ?_⟩
      rcases acquireLease_ok ran with ⟨-, same⟩ | ⟨-, -, -, same⟩
      · exact ⟨same.sessions, same.revisions⟩
      · exact ⟨same.sessions, same.revisions⟩
    | renewLease x o token ttl =>
      obtain ⟨lease, t, ran, ⟨⟩⟩ := bind_eq_ok.mp outcome
      obtain ⟨-, -, -, -, same⟩ := renewLease_ok ran
      exact ⟨fun _ _ writes => (nomatch writes), fun _ => ⟨same.sessions, same.revisions⟩⟩
    | releaseLease x o token =>
      obtain ⟨_, t, ran, ⟨⟩⟩ := bind_eq_ok.mp outcome
      refine ⟨fun _ _ writes => (nomatch writes), fun _ => ?_⟩
      rcases releaseLease_ok ran with same | same
      · exact ⟨same.sessions, same.revisions⟩
      · exact ⟨same.sessions, same.revisions⟩
    | requestExecutionCancel x o reason =>
      obtain ⟨c, t, ran, ⟨⟩⟩ := bind_eq_ok.mp outcome
      refine ⟨fun _ _ writes => (nomatch writes), fun _ => ?_⟩
      rcases requestExecutionCancel_ok ran with ⟨-, same⟩ | ⟨-, -, -, -, same⟩
      · exact ⟨same.sessions, same.revisions⟩
      · exact ⟨same.sessions, same.revisions⟩
    | save sid state =>
      obtain ⟨_, t, ran, ⟨⟩⟩ := bind_eq_ok.mp outcome
      refine ⟨?_, by simp [SessionCall.writes]⟩
      rintro _ _ ⟨⟩ _
      exact (save_ok ran).1.told
    | saveIfRevision sid state expected =>
      obtain ⟨_, t, ran, ⟨⟩⟩ := bind_eq_ok.mp outcome
      refine ⟨?_, by simp [SessionCall.writes]⟩
      rintro _ _ ⟨⟩ _
      exact (saveIfRevision_ok ran).2.1.told
    | saveIfRevisionAndFence sid state expected x o token =>
      obtain ⟨_, t, ran, ⟨⟩⟩ := bind_eq_ok.mp outcome
      refine ⟨?_, by simp [SessionCall.writes]⟩
      rintro _ _ ⟨⟩ _
      exact (saveIfRevisionAndFence_ok ran).2.1.told

theorem fencedBy_new : FencedBy [] .new := Fenced.new

/-- Fencing safety of the store, over every run and every clock: the tokens of an execution
increase, and each call honours the fence, respects the leases and keeps the revisions. -/
theorem fencing_safety (host : SessionHost) (calls : List SessionCall) :
    (∀ x, (issuedFor x ((history (perform host) .new calls).filterMap issuedBy)).Pairwise
      fun a b => a.fencingToken < b.fencingToken) ∧
    ∀ earlier e later, history (perform host) .new calls = earlier ++ e :: later →
      HonoursFence host earlier e ∧ RespectsLease host e ∧ Revises host e := by
  constructor
  · intro x
    exact (final_of fencedBy_new (fun _ _ call h => h.step call) calls).increasing x
  · intro earlier e later split
    obtain ⟨fenced, recorded⟩ := entry_of fencedBy_new (fun _ _ call h => h.step call) split
    rw [recorded]
    exact ⟨honoursFence_of fenced e.call, respectsLease_record e.call, revises_record e.call⟩

/-- A worker that was cancelled cannot write any more; nobody writes around the next one. -/
example :
    (history (perform ⟨fun n => .ok (.int n), .ok, id⟩) .new
      [.acquireLease "r" "a" (.int 9) .none,
       .saveIfRevisionAndFence "r" (.dict []) (.int 0) "r" "a" (.int 1),
       .requestExecutionCancel "r" "a" "", .acquireLease "r" "b" (.int 9) (.int 1),
       .saveIfRevisionAndFence "r" (.dict []) (.int 1) "r" "a" (.int 1),
       .save "r" (.dict [])]).map (fun e => e.reply.isSome) =
      [true, true, true, true, false, false] := by decide +kernel

end Runs

end Unchain.Memory
