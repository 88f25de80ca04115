import Unchain.Providers.TurnRecords

/-!
What the durable records of one envelope satisfy after every command of a turn.

`Sound` is the crash condition of `execute`: it says what stands recorded of each send of the
envelope, and it is kept by the four writes of a turn. The specifications of the coordinator's
calls and of the runtime's small steps follow, each from a sound world.
-/

namespace Unchain.Providers

open Lib Lib.Process Lib.Interrupted Journal Python
open TurnRuntime

variable {R : Type}

/-! ### The records of one envelope -/

def TurnWorld.lease (w : TurnWorld R) (envelope : ProviderWireEnvelope) (route : ProviderRoute)
    (n : Nat) : Option ProviderRequestLease :=
  w.leases.current (envelope.subject route n)

def TurnWorld.results (w : TurnWorld R) (envelope : ProviderWireEnvelope) (route : ProviderRoute)
    (n : Nat) : List ProviderTurnResultReceipt :=
  w.receiptsOf (envelope.subject route n)

structure Completes (lease : ProviderRequestLease) (receipt : ProviderTurnResultReceipt) : Prop where
  completed : lease.status = .completed
  binding : lease.resultBinding = some receipt.binding
  visibleOutput : lease.visibleOutput = receipt.envelope.visibleOutput

/-- What is recorded of a send together with its one result. -/
structure Receives (host : Host) (lease : ProviderRequestLease)
    (receipt : ProviderTurnResultReceipt) : Prop where
  made : receipt.Made host
  route : receipt.envelope.routeSha256 = lease.routeSha256
  status : lease.status = .started ∨ Completes lease receipt

/-- The records of an envelope after any number of commands, with no retry past `limit`. -/
structure Sound (host : Host) (envelope : ProviderWireEnvelope) (limit : Int) (w : TurnWorld R) :
    Prop where
  route : ∀ {r n l}, w.lease envelope r n = some l → ∃ route, routeNamed envelope r = .ok route ∧
    l.routeSha256 = route.routeSha256
  bounded : ∀ {r n l}, w.lease envelope r n = some l → n ≤ maxProviderRequestRetryOrdinal
  fallsBack : ∀ {r n l}, w.lease envelope r n = some l → l.status = .failed →
    l.classification = some .previousResponseFallback →
      r = .primary ∧ n = 0 ∧ l.FailedAs .previousResponseFallback
  retried : ∀ {r n l}, w.lease envelope r (n + 1) = some l →
    ∃ p, w.lease envelope r n = some p ∧ p.FailedAs .transient
  fellBack : ∀ {n l}, w.lease envelope .openaiPreviousResponseFallback n = some l →
    ∃ p, w.lease envelope .primary 0 = some p ∧ p.FailedAs .previousResponseFallback
  results : ∀ r n, w.results envelope r n = [] ∨ ∃ receipt l, w.results envelope r n = [receipt] ∧
    w.lease envelope r n = some l ∧ Receives host l receipt
  completed : ∀ {r n l}, w.lease envelope r n = some l → l.status = .completed →
    w.results envelope r n ≠ []
  sent : ∀ s ∈ w.sends, ∃ l, w.lease envelope s.route s.retryOrdinal = some l
  once : (w.sends.map fun s => (s.route, s.retryOrdinal)).Nodup
  limited : ∀ s ∈ w.sends, (s.retryOrdinal : Int) ≤ limit

section Records

variable {host : Host} {envelope : ProviderWireEnvelope} {limit : Int} {w : TurnWorld R}
  {r : ProviderRoute} {n : Nat} {l l' : ProviderRequestLease} {n' : Nat} {r' : ProviderRoute}

theorem subject_inj :
    envelope.subject r n = envelope.subject r' n' ↔ r = r' ∧ n = n' := by
  simp [ProviderWireEnvelope.subject]

theorem lease_subject (h : w.lease envelope r n = some l) : l.subject = envelope.subject r n :=
  (KeyedLog.mem_of_latest h).2

def TurnWorld.storeLease (w : TurnWorld R) (lease : ProviderRequestLease) : TurnWorld R :=
  { w with leases := w.leases.store lease }

theorem current_store (subject : ProviderRequestSubject) : (w.leases.store l').current subject
      = if l'.subject = subject then some l' else w.leases.current subject :=
  KeyedLog.latest_append

section

variable (subject : l'.subject = envelope.subject r n)

include subject

theorem lease_storeLease (r' : ProviderRoute) (n' : Nat) : (w.storeLease l').lease envelope r' n'
      = if r = r' ∧ n = n' then some l' else w.lease envelope r' n' := by
  show (w.leases.store l').current _ = _
  rw [current_store, subject]
  simp only [subject_inj, TurnWorld.lease]

theorem lease_storeLease_same : (w.storeLease l').lease envelope r n = some l' := by
  rw [lease_storeLease subject, if_pos ⟨rfl, rfl⟩]

theorem lease_storeLease_other (other : ¬ (r = r' ∧ n = n')) :
    (w.storeLease l').lease envelope r' n' = w.lease envelope r' n' := by
  rw [lease_storeLease subject, if_neg other]

/-- A lease that is found after a store is the stored one, or it was found before. -/
theorem found_storeLease ⦃r' n' x⦄ (found : (w.storeLease l').lease envelope r' n' = some x) :
    (r = r' ∧ n = n' ∧ l' = x) ∨ w.lease envelope r' n' = some x := by
  rw [lease_storeLease subject] at found
  split at found
  · next same =>
      simp only [Option.some.injEq] at found
      exact Or.inl ⟨same.1, same.2, found⟩
  · exact Or.inr found

end

@[simp] theorem results_storeLease (r : ProviderRoute) (n : Nat) :
    (w.storeLease l').results envelope r n = w.results envelope r n := rfl

@[simp] theorem sends_storeLease : (w.storeLease l').sends = w.sends := rfl

section

variable (sound : Sound host envelope limit w)

include sound

theorem Sound.results_of_unclaimed (unclaimed : w.lease envelope r n = none) : w.results envelope r n = [] := by
  rcases sound.results r n with none | ⟨receipt, l, -, found, -⟩
  · exact none
  · rw [unclaimed] at found
    cases found

theorem Sound.unsent (unclaimed : w.lease envelope r n = none) :
    (r, n) ∉ w.sends.map fun s => (s.route, s.retryOrdinal) := by
  intro mem
  obtain ⟨s, sent, same⟩ := List.mem_map.mp mem
  obtain ⟨l, found⟩ := sound.sent s sent
  simp only [Prod.mk.injEq] at same
  rw [same.1, same.2, unclaimed] at found
  cases found

/-- What must stand recorded before a send may be claimed. -/
structure Admits (envelope : ProviderWireEnvelope) (w : TurnWorld R) (r : ProviderRoute) (n : Nat) :
    Prop where
  retry : ∀ k, n = k + 1 → ∃ p, w.lease envelope r k = some p ∧ p.FailedAs .transient
  fallback : r = .openaiPreviousResponseFallback →
    ∃ p, w.lease envelope .primary 0 = some p ∧ p.FailedAs .previousResponseFallback

theorem Sound.claim {route : ProviderWireRoute}
    (named : routeNamed envelope r = .ok route) (bounded : n ≤ maxProviderRequestRetryOrdinal)
    (unclaimed : w.lease envelope r n = none) (admits : Admits envelope w r n)
    (subject : l'.subject = envelope.subject r n) (sha : l'.routeSha256 = route.routeSha256)
    (started : l'.status = .started) : Sound host envelope limit (w.storeLease l') := by
  have cases := found_storeLease (w := w) subject
  have kept {r' n' x} (found : w.lease envelope r' n' = some x) :
      (w.storeLease l').lease envelope r' n' = some x := by
    rw [lease_storeLease_other subject, found]
    rintro ⟨rfl, rfl⟩
    rw [unclaimed] at found
    cases found
  constructor
  · intro r' n' x found
    rcases cases found with ⟨rfl, rfl, rfl⟩ | before
    · exact ⟨route, named, sha⟩
    · exact sound.route before
  · intro r' n' x found
    rcases cases found with ⟨rfl, rfl, rfl⟩ | before
    · exact bounded
    · exact sound.bounded before
  · intro r' n' x found failed
    rcases cases found with ⟨rfl, rfl, rfl⟩ | before
    · rw [started] at failed
      cases failed
    · exact sound.fallsBack before failed
  · intro r' n' x found
    rcases cases found with ⟨rfl, next, rfl⟩ | before
    · obtain ⟨p, here, failed⟩ := admits.retry n' next
      exact ⟨p, kept here, failed⟩
    · obtain ⟨p, here, failed⟩ := sound.retried before
      exact ⟨p, kept here, failed⟩
  · intro n' x found
    rcases cases found with ⟨isFallback, rfl, rfl⟩ | before
    · obtain ⟨p, here, failed⟩ := admits.fallback isFallback
      exact ⟨p, kept here, failed⟩
    · obtain ⟨p, here, failed⟩ := sound.fellBack before
      exact ⟨p, kept here, failed⟩
  · intro r' n'
    rcases sound.results r' n' with none | ⟨receipt, x, one, found, receives⟩
    · exact Or.inl none
    · exact Or.inr ⟨receipt, x, one, kept found, receives⟩
  · intro r' n' x found done
    rcases cases found with ⟨rfl, rfl, rfl⟩ | before
    · rw [started] at done
      cases done
    · exact sound.completed before done
  · intro s mem
    obtain ⟨x, found⟩ := sound.sent s mem
    exact ⟨x, kept found⟩
  · exact sound.once
  · exact sound.limited

structure MovesTo (envelope : ProviderWireEnvelope) (w : TurnWorld R) (r : ProviderRoute) (n : Nat)
    (l' : ProviderRequestLease) : Prop where
  subject : l'.subject = envelope.subject r n
  failed : l'.status = .failed → w.results envelope r n = [] ∧
    (l'.classification = some .previousResponseFallback →
      r = .primary ∧ n = 0 ∧ l'.FailedAs .previousResponseFallback)
  completed : l'.status = .completed →
    ∃ receipt, w.results envelope r n = [receipt] ∧ Completes l' receipt

theorem Sound.move (found : w.lease envelope r n = some l)
    (started : l.status = .started) (moves : MovesTo envelope w r n l')
    (sha : l'.routeSha256 = l.routeSha256) : Sound host envelope limit (w.storeLease l') := by
  have cases := found_storeLease (w := w) moves.subject
  have earlier {r' n' x} (there : (w.storeLease l').lease envelope r' n' = some x) :
      ∃ y, w.lease envelope r' n' = some y := by
    rcases cases there with ⟨rfl, rfl, rfl⟩ | before
    · exact ⟨l, found⟩
    · exact ⟨x, before⟩
  -- a lease that has failed is not the one that moved
  have kept {r' n' p} (before : w.lease envelope r' n' = some p) (failed : p.status = .failed) :
      (w.storeLease l').lease envelope r' n' = some p := by
    rw [lease_storeLease_other moves.subject, before]
    rintro ⟨rfl, rfl⟩
    rw [found] at before
    cases before
    rw [started] at failed
    cases failed
  constructor
  · intro r' n' x there
    rcases cases there with ⟨rfl, rfl, rfl⟩ | before
    · rw [sha]
      exact sound.route found
    · exact sound.route before
  · intro r' n' x there
    rcases cases there with ⟨rfl, rfl, rfl⟩ | before
    · exact sound.bounded found
    · exact sound.bounded before
  · intro r' n' x there failed
    rcases cases there with ⟨rfl, rfl, rfl⟩ | before
    · exact (moves.failed failed).2
    · exact sound.fallsBack before failed
  · intro r' n' x there
    obtain ⟨y, before⟩ := earlier there
    obtain ⟨p, here, failed⟩ := sound.retried before
    exact ⟨p, kept here failed.failed, failed⟩
  · intro n' x there
    obtain ⟨y, before⟩ := earlier there
    obtain ⟨p, here, failed⟩ := sound.fellBack before
    exact ⟨p, kept here failed.failed, failed⟩
  · intro r' n'
    rcases sound.results r' n' with none | ⟨receipt, x, one, here, receives⟩
    · exact Or.inl none
    · right
      by_cases same : r = r' ∧ n = n'
      · obtain ⟨rfl, rfl⟩ := same
        rw [found] at here
        cases here
        refine ⟨receipt, l', one, lease_storeLease_same moves.subject, receives.made, ?_, ?_⟩
        · rw [sha]
          exact receives.route
        · cases status : l'.status with
          | started => exact Or.inl rfl
          | failed =>
            rw [(moves.failed status).1] at one
            cases one
          | completed =>
            obtain ⟨receipt', one', completes⟩ := moves.completed status
            rw [one'] at one
            cases one
            exact Or.inr completes
      · refine ⟨receipt, x, one, ?_, receives⟩
        rw [lease_storeLease_other moves.subject same, here]
  · intro r' n' x there done
    rcases cases there with ⟨rfl, rfl, rfl⟩ | before
    · obtain ⟨receipt, one, -⟩ := moves.completed done
      rw [results_storeLease, one]
      exact List.cons_ne_nil _ _
    · exact sound.completed before done
  · intro s mem
    obtain ⟨x, here⟩ := sound.sent s mem
    rw [lease_storeLease moves.subject]
    split
    · exact ⟨l', rfl⟩
    · exact ⟨x, here⟩
  · exact sound.once
  · exact sound.limited

end

def TurnWorld.storeResult (w : TurnWorld R) (receipt : ProviderTurnResultReceipt) : TurnWorld R :=
  { w with receipts := w.receipts ++ [receipt] }

variable {receipt : ProviderTurnResultReceipt}

theorem results_storeResult (subject : receipt.envelope.subject = envelope.subject r n)
    (r' : ProviderRoute) (n' : Nat) : (w.storeResult receipt).results envelope r' n'
      = if r = r' ∧ n = n' then w.results envelope r' n' ++ [receipt]
        else w.results envelope r' n' := by
  simp only [TurnWorld.results, TurnWorld.receiptsOf, TurnWorld.storeResult, List.filter_append,
    List.filter_cons, List.filter_nil, subject, subject_inj, decide_eq_true_eq]
  by_cases same : r = r' ∧ n = n'
  · rw [if_pos same, if_pos same]
  · rw [if_neg same, if_neg same, List.append_nil]

theorem Sound.receive (sound : Sound host envelope limit w) (found : w.lease envelope r n = some l)
    (started : l.status = .started) (first : w.results envelope r n = [])
    (subject : receipt.envelope.subject = envelope.subject r n) (made : receipt.Made host)
    (route : receipt.envelope.routeSha256 = l.routeSha256) :
    Sound host envelope limit (w.storeResult receipt) where
  route := sound.route
  bounded := sound.bounded
  fallsBack := sound.fallsBack
  retried := sound.retried
  fellBack := sound.fellBack
  results r' n' := by
    rw [results_storeResult subject]
    by_cases same : r = r' ∧ n = n'
    · obtain ⟨rfl, rfl⟩ := same
      rw [if_pos ⟨rfl, rfl⟩, first]
      exact Or.inr ⟨receipt, l, rfl, found, made, route, Or.inl started⟩
    · rw [if_neg same]
      exact sound.results r' n'
  completed {r' n' x} here done := by
    have before := sound.completed here done
    rw [results_storeResult subject]
    split
    · exact List.append_ne_nil_of_right_ne_nil _ (List.cons_ne_nil _ _)
    · exact before
  sent := sound.sent
  once := sound.once
  limited := sound.limited

def TurnWorld.logSend (w : TurnWorld R) (sent : Sent R) : TurnWorld R :=
  { w with sends := w.sends ++ [sent] }

theorem Sound.send (sound : Sound host envelope limit w) (found : w.lease envelope r n = some l)
    (unsent : (r, n) ∉ w.sends.map fun s => (s.route, s.retryOrdinal)) (within : (n : Int) ≤ limit)
    {sent : Sent R} (route : sent.route = r) (ordinal : sent.retryOrdinal = n) :
    Sound host envelope limit (w.logSend sent) where
  route := sound.route
  bounded := sound.bounded
  fallsBack := sound.fallsBack
  retried := sound.retried
  fellBack := sound.fellBack
  results := sound.results
  completed := sound.completed
  sent s mem := by
    simp only [TurnWorld.logSend, List.mem_append, List.mem_singleton] at mem
    rcases mem with mem | rfl
    · exact sound.sent s mem
    · rw [route, ordinal]
      exact ⟨l, found⟩
  once := by
    simp only [TurnWorld.logSend, List.map_append, List.map_cons, List.map_nil, route, ordinal]
    exact List.nodup_append.mpr ⟨sound.once, List.nodup_singleton _, by
      rintro a mem b single rfl
      rw [List.mem_singleton] at single
      rw [single] at mem
      exact unsent mem⟩
  limited s mem := by
    simp only [TurnWorld.logSend, List.mem_append, List.mem_singleton] at mem
    rcases mem with mem | rfl
    · exact sound.limited s mem
    · rw [ordinal]
      exact within

end Records

/-! ### The coordinator's calls -/

/-- What the durable store answers to a coordinator. -/
def leaseService (R : Type) : Service LeasePort (TurnWorld R) :=
  fun w c r w' => w.answerLease c = (r, w')

section Coordinator

variable {host : Host} {inv : TurnWorld R → Prop} {w : TurnWorld R} {l l' : ProviderRequestLease}
  {subject : ProviderRequestSubject}

theorem keeps_coordinator {α : Type} {p : LeaseProg α} {post : TurnWorld R → Except TurnError α → Prop}
    (kept : Keeps (leaseService R) inv w p fun w' x => post w' (x.mapError .python)) :
    Keeps (turnService R host) inv w (coordinator p) post := by
  have served : ∀ (w : TurnWorld R) c r w', turnService R host w (.lease c) r w' →
      leaseService R w c r w' := by
    rintro w c r w' ⟨happening, -, served⟩
    exact served
  exact keeps_within served kept

theorem keeps_load {post : TurnWorld R → Except PyError (Option ProviderRequestLease) → Prop}
    (start : inv w) (h : post w (.ok (w.leases.current subject))) :
    Keeps (leaseService R) inv w (Coordinator.load subject) post := by
  rintro r w' served
  obtain ⟨rfl, rfl⟩ : Except.ok (w.leases.current subject) = r ∧ w = w' := by
    simpa [leaseService, TurnWorld.answerLease] using served
  refine ⟨start, ?_⟩
  refine keeps_raiseIf_bind (fun _ => h) fun changed => ?_
  cases found : w.leases.current subject with
  | none =>
    rw [found] at changed
    cases changed
  | some x =>
    rw [found] at changed
    have same := (KeyedLog.mem_of_latest found).2
    simp [same] at changed

variable {post : TurnWorld R → Except PyError ProviderRequestLease → Prop}

theorem keeps_current (start : inv w) (found : w.leases.current l.subject = some l) (h : post w (.ok l)) :
    Keeps (leaseService R) inv w (Coordinator.current l) post := by
  refine keeps_bind (keeps_load start ?_)
  refine keeps_raiseIf_bind (fun _ => h) fun changed => ?_
  simp [found] at changed

theorem keeps_cas
    {expectedRevision : Nat} (current : w.leases.currentRevision l'.subject = expectedRevision)
    (next : l'.revision = expectedRevision + 1) (stored : inv (w.storeLease l'))
    (h : post (w.storeLease l') (.ok l')) :
    Keeps (leaseService R) inv w (Coordinator.cas expectedRevision l') post := by
  have swaps : w.leases.Swaps l'.subject expectedRevision l' := ⟨rfl, current, next⟩
  rintro r w' served
  obtain ⟨rfl, rfl⟩ : Except.ok l' = r ∧ w.storeLease l' = w' := by
    simpa [leaseService, TurnWorld.answerLease, swaps, TurnWorld.storeLease] using served
  refine ⟨stored, keeps_raiseIf_bind (fun _ => h) fun changed => ?_⟩
  simp at changed

theorem currentRevision_of_some (found : w.leases.current subject = some l) :
    w.leases.currentRevision subject = l.revision := by
  simp [LeaseWorld.currentRevision, found]

theorem currentRevision_of_none (unclaimed : w.leases.current subject = none) :
    w.leases.currentRevision subject = 0 := by
  simp [LeaseWorld.currentRevision, unclaimed]

/-- The swap of the lease that is there for its next revision. -/
theorem keeps_cas_found (found : w.leases.current l.subject = some l)
    (subject : l'.subject = l.subject) (next : l'.revision = l.revision + 1)
    (stored : inv (w.storeLease l')) (h : post (w.storeLease l') (.ok l')) :
    Keeps (leaseService R) inv w (Coordinator.cas l.revision l') post :=
  keeps_cas (by rw [subject, currentRevision_of_some found]) next stored h

def opened (subject : ProviderRequestSubject) (routeSha256 : String) (operation : OperationRef) :
    ProviderRequestLease :=
  ⟨subject, routeSha256, .started, 1, false, false, none, operation, none, none, none, none⟩

variable {operation : OperationRef} (start : inv w)

include start

theorem keeps_claim {routeSha256 : String} (unclaimed : w.leases.current subject = none)
    (made : ProviderRequestLease.make host subject (.str routeSha256) .started 1 (.bool false)
      (.bool false) (.str "") operation none none none none
        = .ok (opened subject routeSha256 operation))
    (stored : inv (w.storeLease (opened subject routeSha256 operation)))
    (h : post (w.storeLease (opened subject routeSha256 operation))
      (.ok (opened subject routeSha256 operation))) :
    Keeps (leaseService R) inv w (Coordinator.claim host subject (.str routeSha256) operation)
      post := by
  refine keeps_bind (keeps_load start ?_)
  refine keeps_raiseIf_bind (fun _ => ?_) fun claimed => ?_
  · rw [made]
    exact keeps_cas (currentRevision_of_none unclaimed) rfl stored h
  · rw [unclaimed] at claimed
    cases claimed

variable (found : w.leases.current l.subject = some l) (started : l.status = .started)

include found started

theorem keeps_recordFailure {classification : FailureClassification} {retryable : Bool}
    {diagnostic : Option ProviderFailureDiagnostic}
    (allowed : classification = .previousResponseFallback →
      l.subject.route = .primary ∧ l.subject.retryOrdinal = 0)
    (made : ProviderRequestLease.make host l.subject (.str l.routeSha256) .failed (l.revision + 1)
      (.bool false) (.bool retryable) (.str classification.text) operation none none diagnostic none
        = .ok l') (subject : l'.subject = l.subject) (revision : l'.revision = l.revision + 1)
    (stored : inv (w.storeLease l')) (h : post (w.storeLease l') (.ok l')) :
    Keeps (leaseService R) inv w (Coordinator.recordFailure host l (.str classification.text)
      (.bool retryable) (.bool false) operation diagnostic) post := by
  refine keeps_bind (keeps_current start found ?_)
  refine keeps_raiseIf_bind (fun _ => ?_) fun notStarted => ?_
  · refine keeps_raiseIf_bind (fun _ => ?_) fun refused => ?_
    · rw [made]
      exact keeps_cas_found found subject revision stored h
    · simp only [Bool.and_eq_true, Bool.or_eq_true, decide_eq_true_eq, ne_eq] at refused
      obtain ⟨isFallback, changed⟩ := refused
      have same : classification = .previousResponseFallback := by
        cases classification with
        | previousResponseFallback => rfl
        | badRequest | nonRetryable | transient =>
          simp [FailureClassification.text, Value.eqPy] at isFallback
      obtain ⟨isPrimary, isFirst⟩ := allowed same
      simp [isPrimary, isFirst] at changed
  · simp [started] at notStarted

theorem keeps_recordFailure_refused
    {diagnostic : Option ProviderFailureDiagnostic}
    (late : l.subject.retryOrdinal ≠ 0)
    (h : post w (.error (transitionError "previous_response_fallback requires primary ordinal zero")))
    :
    Keeps (leaseService R) inv w (Coordinator.recordFailure host l
      (.str FailureClassification.previousResponseFallback.text) (.bool true) (.bool false)
      operation diagnostic) post := by
  refine keeps_bind (keeps_current start found ?_)
  refine keeps_raiseIf_bind (fun _ => ?_) fun notStarted => ?_
  · refine keeps_raiseIf_bind (fun passed => ?_) fun _ => h
    simp [FailureClassification.text, Value.eqPy, late] at passed
  · simp [started] at notStarted

theorem keeps_recordUncertainty {diagnostic : ProviderUncertaintyDiagnostic}
    (certain : l.uncertaintyDiagnostic = none)
    (made : ProviderRequestLease.make host l.subject (.str l.routeSha256) .started (l.revision + 1)
      (.bool false) (.bool false) (.str "") operation none none none (some diagnostic) = .ok l')
    (subject : l'.subject = l.subject) (revision : l'.revision = l.revision + 1)
    (stored : inv (w.storeLease l')) (h : post (w.storeLease l') (.ok l')) :
    Keeps (leaseService R) inv w (Coordinator.recordUncertainty host l diagnostic operation)
      post := by
  refine keeps_bind (keeps_current start found ?_)
  refine keeps_raiseIf_bind (fun _ => ?_) fun notStarted => ?_
  · refine keeps_raiseIf_bind (fun _ => ?_) fun uncertain => ?_
    · rw [made]
      exact keeps_cas_found found subject revision stored h
    · rw [certain] at uncertain
      cases uncertain
  · simp [started] at notStarted

theorem keeps_recordCompletedResult {binding : ProviderTurnResultBinding} {visibleOutput : Bool}
    (route : binding.routeSha256 = l.routeSha256)
    (made : ProviderRequestLease.make host l.subject (.str l.routeSha256) .completed
      (l.revision + 1) (.bool visibleOutput) (.bool false) (.str "") operation (some binding)
      (some (l.leaseSha256 host)) none none = .ok l') (subject : l'.subject = l.subject)
    (status : l'.status = .completed) (revision : l'.revision = l.revision + 1)
    (stored : inv (w.storeLease l')) (h : post (w.storeLease l') (.ok l')) :
    Keeps (leaseService R) inv w (Coordinator.recordCompletedResult host l binding
      (.bool visibleOutput) operation) post := by
  refine keeps_raiseIf_bind (fun _ => ?_) fun changed => ?_
  · refine keeps_bind (keeps_load start ?_)
    rw [found]
    simp only [made]
    have other : l ≠ l' := by
      rintro rfl
      rw [started] at status
      cases status
    show Keeps _ _ _ (Coordinator.storeCompleted l l' l) _
    rw [Coordinator.storeCompleted, if_neg other]
    refine keeps_raiseIf_bind (fun _ => ?_) fun changed => ?_
    · refine keeps_raiseIf_bind (fun _ => ?_) fun notStarted => ?_
      · exact keeps_cas_found found subject revision stored h
      · simp [started] at notStarted
    · simp at changed
  · simp [route] at changed

end Coordinator

end Unchain.Providers
