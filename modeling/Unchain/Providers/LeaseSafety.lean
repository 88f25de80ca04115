import Unchain.Providers.LeaseLog

/-!
Provider request leases authorize at most one send.

A watch over the commands of one coordinator says which swaps its calls may ask for. The crew rule
carries over every run that the stored revisions form a `LeaseLog` and that every send was paid
for by a record that opened its subject.
-/

namespace Unchain.Providers

open Lib Lib.Process Journal Python
open ProviderRequestLease ProviderRequestSubject

/-! ### Records as their constructors leave them -/

section Made

variable {host : Host} {v : Value}

theorem generationRef_again (normalizes : Normalizes host.nfc) {g : GenerationRef}
    (h : GenerationRef.fromDict host v = .ok g) : GenerationRef.fromDict host g.toDict = .ok g := by
  simp only [GenerationRef.fromDict, Effect.bind_iff, Except.ok.injEq] at h
  obtain ⟨raw, -, executionId, executionOk, generationId, generationOk, rfl⟩ := h
  have first : requiredIdentifier host "execution_id" (.str executionId) = .ok executionId :=
    requiredText_again normalizes executionOk
  have second : requiredIdentifier host "generation_id" (.str generationId) = .ok generationId :=
    requiredText_again normalizes generationOk
  show (requiredIdentifier host "execution_id" (.str executionId) >>= fun _ => _) = _
  rw [first]
  show (requiredIdentifier host "generation_id" (.str generationId) >>= fun _ => _) = _
  rw [second]
  rfl

theorem attemptRef_again (normalizes : Normalizes host.nfc) {a : AttemptRef}
    (h : AttemptRef.fromDict host v = .ok a) : AttemptRef.fromDict host a.toDict = .ok a := by
  simp only [AttemptRef.fromDict, Effect.bind_iff, Except.ok.injEq] at h
  obtain ⟨raw, -, generation, generationOk, attemptId, attemptOk, rfl⟩ := h
  have second : requiredIdentifier host "attempt_id" (.str attemptId) = .ok attemptId :=
    requiredText_again normalizes attemptOk
  show (GenerationRef.fromDict host generation.toDict >>= fun _ => _) = _
  rw [generationRef_again normalizes generationOk]
  show (requiredIdentifier host "attempt_id" (.str attemptId) >>= fun _ => _) = _
  rw [second]
  rfl

variable {fieldName : String}

theorem boundedInt_ok {maximum n : Nat} (h : boundedInt fieldName maximum v = .ok n) :
    v = .int n := by
  unfold boundedInt at h
  split at h
  · split at h
    · next m bounds =>
        cases h
        rw [Int.toNat_of_nonneg bounds.1]
    · cases h
  · cases h

variable {t : String}

theorem canonicalText_ok (h : canonicalText host fieldName v = .ok t) : v = .str t := by
  unfold canonicalText at h
  split at h
  · split at h
    · cases h
    · cases h
      rfl
  · cases h

theorem sha256Text_ok {field : String} (h : sha256Text field v = .ok t) : v = .str t := by
  unfold sha256Text at h
  split at h
  · split at h
    · cases h
      rfl
    · cases h
  · cases h

theorem ProviderRoute.read_ok {route : ProviderRoute} (h : ProviderRoute.read t = some route) :
    t = route.text := by
  have found := List.find?_some h
  simpa using (of_decide_eq_true found).symm

namespace ProviderRequestSubject

/-- A subject whose attempt is read back as it is. -/
def Exact (host : Host) (s : ProviderRequestSubject) : Prop :=
  AttemptRef.fromDict host s.attempt.toDict = .ok s.attempt

/-- A subject built from the call of another. -/
structure Copies (host : Host) (s t : ProviderRequestSubject) : Prop where
  attempt : AttemptRef.fromDict host s.attempt.toDict = .ok t.attempt
  iteration : t.iteration = s.iteration
  envelopeSha256 : t.envelopeSha256 = s.envelopeSha256

variable {s t : ProviderRequestSubject}

theorem Copies.eq_reroute (h : Copies host s t) (exact : s.Exact host) :
    t = s.reroute t.route t.retryOrdinal := by
  have attempt := exact.symm.trans h.attempt
  simp only [Except.ok.injEq] at attempt
  cases t
  simp only [reroute, ProviderRequestSubject.mk.injEq]
  exact ⟨attempt.symm, h.iteration, h.envelopeSha256, trivial, trivial⟩

/-- What `make` reads off its arguments. -/
structure Reads (host : Host) (attempt : AttemptRef) (iteration envelopeSha256 route retryOrdinal :
    Value) (s : ProviderRequestSubject) : Prop where
  attempt : AttemptRef.fromDict host attempt.toDict = .ok s.attempt
  iteration : iteration = .int s.iteration
  envelopeSha256 : envelopeSha256 = .str s.envelopeSha256
  route : route = .str s.route.text
  retryOrdinal : retryOrdinal = .int s.retryOrdinal

variable {attempt : AttemptRef} {envelopeSha256 iteration retryOrdinal : Value}

theorem make_reads {route : Value}
    (h : make host attempt iteration envelopeSha256 route retryOrdinal = .ok s) :
    Reads host attempt iteration envelopeSha256 route retryOrdinal s := by
  simp only [make, Effect.bind_iff] at h
  obtain ⟨a, attemptOk, n, iterationOk, e, envelopeOk, t, textOk, h⟩ := h
  split at h
  · cases h
  · next found =>
      obtain ⟨o, ordinalOk, h⟩ := Effect.bind_iff.mp h
      cases h
      constructor
      · exact attemptOk
      · exact boundedInt_ok iterationOk
      · exact sha256Text_ok envelopeOk
      · rw [canonicalText_ok textOk, ProviderRoute.read_ok found]
      · exact boundedInt_ok ordinalOk

theorem Reads.exact (normalizes : Normalizes host.nfc) {route : Value}
    (h : Reads host attempt iteration envelopeSha256 route retryOrdinal s) : s.Exact host :=
  attemptRef_again normalizes h.attempt

theorem route_text_injective {route route' : ProviderRoute} (h : route.text = route'.text) :
    route = route' := by
  cases route <;> cases route' <;> first | rfl | exact absurd h (by decide)

theorem Reads.words {i o : Int} {e r : String}
    (h : Reads host attempt (.int i) (.str e) (.str r) (.int o) s) :
    i = s.iteration ∧ e = s.envelopeSha256 ∧ r = s.route.text ∧ o = s.retryOrdinal :=
  ⟨Value.int.inj h.iteration, Value.str.inj h.envelopeSha256, Value.str.inj h.route,
    Value.int.inj h.retryOrdinal⟩

/-- A subject read back from its record keeps everything but, at most, the attempt. -/
theorem fromDict_copies (normalizes : Normalizes host.nfc) (h : fromDict host s.toDict = .ok t) :
    Copies host s t ∧ t.route = s.route ∧ t.retryOrdinal = s.retryOrdinal ∧ t.Exact host := by
  have record : recordData "unchain.provider_request_subject.v1"
      ["attempt", "iteration", "envelope_sha256", "route", "retry_ordinal"] [] s.toDict
      = .ok s.toDict := rfl
  simp only [fromDict, record, Effect.bind_iff, Except.ok.injEq] at h
  obtain ⟨_, rfl, a, attemptOk, h⟩ := h
  have reads := make_reads h
  have attempt : t.attempt = a := by
    have again := attemptRef_again normalizes attemptOk
    simpa using reads.attempt.symm.trans again
  obtain ⟨iteration, envelope, route, ordinal⟩ := reads.words
  refine ⟨⟨?_, by omega, envelope.symm⟩, (route_text_injective route).symm, by omega,
    reads.exact normalizes⟩
  rw [attempt]
  exact attemptOk

end ProviderRequestSubject

namespace ProviderRequestLease

/-- A record that passed the checks of its constructor. -/
structure Made (host : Host) (r : ProviderRequestLease) : Prop where
  exact : r.subject.Exact host
  status : r.checkStatus = .ok ()

variable {r : ProviderRequestLease}

theorem Made.silent_of_started (h : r.Made host) (started : r.status = .started) :
    r.visibleOutput = false := by
  have checked := h.status
  simp only [checkStatus, started] at checked
  split_ifs at checked with binding fields predecessor
  simp only [Bool.or_eq_true, not_or, Bool.not_eq_true] at fields
  exact fields.1.1

/-- What a lease takes over from the arguments of `make`. -/
structure Fields (host : Host) (subject : ProviderRequestSubject) (status : ProviderRequestStatus)
    (revision : Nat) (uncertaintyDiagnostic : Option ProviderUncertaintyDiagnostic)
    (r : ProviderRequestLease) : Prop where
  made : r.Made host
  copies : Copies host subject r.subject
  route : r.subject.route = subject.route
  retryOrdinal : r.subject.retryOrdinal = subject.retryOrdinal
  status : r.status = status
  revision : r.revision = revision
  uncertaintyDiagnostic : r.uncertaintyDiagnostic = uncertaintyDiagnostic

theorem make_fields (normalizes : Normalizes host.nfc) {subject : ProviderRequestSubject}
    {routeSha256 : Value} {status : ProviderRequestStatus} {revision : Nat}
    {visibleOutput retryable classification : Value} {operation : OperationRef}
    {resultBinding : Option ProviderTurnResultBinding} {predecessorSha256 : Option String}
    {failureDiagnostic : Option ProviderFailureDiagnostic}
    {uncertaintyDiagnostic : Option ProviderUncertaintyDiagnostic}
    (h : make host subject routeSha256 status revision visibleOutput retryable classification
      operation resultBinding predecessorSha256 failureDiagnostic uncertaintyDiagnostic = .ok r) :
    Fields host subject status revision uncertaintyDiagnostic r := by
  simp only [make, Effect.bind_iff, Effect.pure_iff] at h
  obtain ⟨s, subjectOk, _, _, _, _, _, _, _, _, _, _, _, _, _, _, _, _, _, _, _, _, _, checked,
    rfl⟩ := h
  obtain ⟨copies, route, ordinal, exact⟩ := fromDict_copies normalizes subjectOk
  constructor
  · exact ⟨exact, checked⟩
  · exact copies
  · exact route
  · exact ordinal
  · rfl
  · rfl
  · rfl

end ProviderRequestLease

end Made

/-! ### What a coordinator may ask for -/

/-- What a coordinator was told: the leases it loaded, and the subject it claimed and has not
sent. -/
structure Told where
  seen : List ProviderRequestLease
  claimed : Option ProviderRequestSubject

/-- The swaps that the records a coordinator has seen allow. -/
inductive Licensed (host : Host) (seen : List ProviderRequestLease) :
    Nat → ProviderRequestLease → Prop where
  | initial {r : ProviderRequestLease} (made : r.Made host) (opens : r.Opens)
      (route : r.subject.route = .primary) (ordinal : r.subject.retryOrdinal = 0) :
      Licensed host seen 0 r
  | retry {previous r : ProviderRequestLease} (mem : previous ∈ seen)
      (failed : previous.FailedAs .transient) (made : r.Made host) (opens : r.Opens)
      (copies : Copies host previous.subject r.subject)
      (route : r.subject.route = previous.subject.route)
      (ordinal : r.subject.retryOrdinal = previous.subject.retryOrdinal + 1) :
      Licensed host seen 0 r
  | fallback {primary r : ProviderRequestLease} (mem : primary ∈ seen)
      (failed : primary.FailedAs .previousResponseFallback) (made : r.Made host) (opens : r.Opens)
      (copies : Copies host primary.subject r.subject)
      (primaryRoute : primary.subject.route = .primary)
      (primaryOrdinal : primary.subject.retryOrdinal = 0)
      (route : r.subject.route = .openaiPreviousResponseFallback)
      (ordinal : r.subject.retryOrdinal = 0) : Licensed host seen 0 r
  | advance {current r : ProviderRequestLease} (mem : current ∈ seen) (made : r.Made host)
      (copies : Copies host current.subject r.subject)
      (route : r.subject.route = current.subject.route)
      (ordinal : r.subject.retryOrdinal = current.subject.retryOrdinal)
      (moves : current.Moves r) : Licensed host seen current.revision r

namespace Told

def after (g : Told) : (c : LeaseCmd) → LeasePort.Answer c → Told
  | .load _, .ok (some r) => { g with seen := r :: g.seen }
  | .compareAndSwap subject 0 _, .ok _ => { g with claimed := some subject }
  | .send _, _ => { g with claimed := none }
  | _, _ => g

def allows (host : Host) (g : Told) : LeaseCmd → Prop
  | .load _ => True
  | .compareAndSwap subject expectedRevision replacement =>
    replacement.subject = subject ∧ Licensed host g.seen expectedRevision replacement
  | .send subject => g.claimed = some subject

end Told

def leaseWatch (host : Host) : Crew.Watch LeasePort LeaseCall where
  State := Told
  start := ⟨[], none⟩
  allows _ := Told.allows host
  next _ := Told.after

section Obeys

variable {host : Host} {role : LeaseCall} {g : Told}

theorem obeys_portLoad (subject : ProviderRequestSubject) :
    Obeys ((leaseWatch host).of role) g (Coordinator.portLoad subject) fun g' found =>
      g.seen ⊆ g'.seen ∧ ∀ r, found = some r → r ∈ g'.seen := by
  refine ⟨trivial, fun answer => ?_⟩
  cases answer with
  | error e => trivial
  | ok found =>
    cases found with
    | none => exact ⟨List.Subset.refl _, fun r isSome => nomatch isSome⟩
    | some r =>
      refine ⟨List.subset_cons_self _ _, ?_⟩
      rintro _ ⟨⟩
      exact List.mem_cons_self

variable {expectedRevision : Nat} {replacement : ProviderRequestLease}

theorem obeys_portCompareAndSwap (licensed : Licensed host g.seen expectedRevision replacement) :
    Obeys ((leaseWatch host).of role) g
      (Coordinator.portCompareAndSwap expectedRevision replacement) fun g' _ =>
      expectedRevision = 0 → g'.claimed = some replacement.subject := by
  refine ⟨⟨rfl, licensed⟩, fun answer => ?_⟩
  cases answer with
  | error e => trivial
  | ok stored =>
    rintro rfl
    rfl

/-- After `_load` the record is among those seen. -/
theorem obeys_load (subject : ProviderRequestSubject) :
    Obeys ((leaseWatch host).of role) g (Coordinator.load subject) fun g' found =>
      g.seen ⊆ g'.seen ∧ ∀ r, found = some r → r ∈ g'.seen ∧ r.subject = subject := by
  refine obeys_bind (obeys_portLoad subject) fun g' found loaded => ?_
  refine obeys_check_bind fun same => ?_
  refine ⟨loaded.1, ?_⟩
  rintro r rfl
  exact ⟨loaded.2 r rfl, by simpa using same⟩

/-- `_current` returns the expected lease, and it was loaded. -/
theorem obeys_current (expected : ProviderRequestLease) :
    Obeys ((leaseWatch host).of role) g (Coordinator.current expected) fun g' r =>
      r ∈ g'.seen := by
  refine obeys_bind (obeys_load expected.subject) fun g' found loaded => ?_
  refine obeys_check_bind fun same => ?_
  exact (loaded.2 expected (by simpa using same)).1

/-- `_cas` asks for a licensed swap. -/
theorem obeys_cas (licensed : Licensed host g.seen expectedRevision replacement) :
    Obeys ((leaseWatch host).of role) g (Coordinator.cas expectedRevision replacement)
      fun g' r => expectedRevision = 0 → g'.claimed = some r.subject := by
  refine obeys_bind (obeys_portCompareAndSwap licensed) fun g' stored claimed => ?_
  refine obeys_check_bind fun same first => ?_
  obtain rfl : stored = replacement := by simpa using same
  exact claimed first

theorem failedAs_of_checkRetry {current : ProviderRequestLease} {u : Unit}
    (h : Coordinator.checkRetry current = .ok u) : current.FailedAs .transient := by
  simp only [Coordinator.checkRetry, Effect.bind_iff, Effect.raiseIf_ok, exists_const] at h
  obtain ⟨-, failed, silent, retryable, transient, -⟩ := h
  constructor
  · simpa using failed
  · simpa using retryable
  · exact silent
  · simpa using transient

theorem obeys_thenSend {p : LeaseProg ProviderRequestLease}
    (claim : Obeys ((leaseWatch host).of role) g p fun (g' : Told) r =>
      g'.claimed = some r.subject) :
    Obeys ((leaseWatch host).of role) g (thenSend p) fun _ _ => True :=
  obeys_bind claim fun _ _ claimed => ⟨claimed, fun _ => trivial⟩

variable (normalizes : Normalizes host.nfc)

include normalizes

/-- `_claim` swaps in a record that opens the subject, if what was seen so far allows that. -/
theorem obeys_claim {subject : ProviderRequestSubject}
    (exact : subject.Exact host) {routeSha256 : Value} {operation : OperationRef}
    (licensed : ∀ (g' : Told) (r : ProviderRequestLease), g.seen ⊆ g'.seen → r.Made host →
      r.Opens → r.subject = subject → Licensed host g'.seen 0 r) :
    Obeys ((leaseWatch host).of role) g (Coordinator.claim host subject routeSha256 operation)
      fun (g' : Told) r => g'.claimed = some r.subject := by
  refine obeys_bind (obeys_load subject) fun g' found loaded => ?_
  refine obeys_raiseIf_bind (obeys_lift_bind fun r made => ?_)
  have fields := make_fields normalizes made
  have same : r.subject = subject := by
    rw [fields.copies.eq_reroute exact, fields.route, fields.retryOrdinal]
    rfl
  have opens : r.Opens := ⟨fields.status, fields.revision, fields.uncertaintyDiagnostic⟩
  have swap := licensed g' r loaded.1 fields.made opens same
  exact (obeys_cas swap).mono fun _ _ claimed => claimed rfl

theorem obeys_claimInitial (attempt : AttemptRef)
    (iteration envelopeSha256 route routeSha256 : Value) (operation : OperationRef) :
    Obeys ((leaseWatch host).of role) g
      (Coordinator.claimInitial host attempt iteration envelopeSha256 route routeSha256 operation)
      fun (g' : Told) r => g'.claimed = some r.subject := by
  refine obeys_check_bind fun primary => obeys_lift_bind fun subject made => ?_
  have reads := make_reads made
  refine obeys_claim normalizes (reads.exact normalizes) fun g' r _ made opens same => ?_
  have text : subject.route.text = "primary" := by
    simpa [reads.route, Value.eqPy] using primary
  have ordinal : Value.int 0 = .int subject.retryOrdinal := reads.retryOrdinal
  apply Licensed.initial made opens
  · rw [same]
    exact route_text_injective (text.trans rfl)
  · rw [same]
    simpa [eq_comm] using ordinal

variable {lease : ProviderRequestLease}

theorem obeys_recordFailure (classification retryable visibleOutput : Value)
    (operation : OperationRef) (failureDiagnostic : Option ProviderFailureDiagnostic) :
    Obeys ((leaseWatch host).of role) g (Coordinator.recordFailure host lease classification
      retryable visibleOutput operation failureDiagnostic) fun _ _ => True := by
  refine obeys_bind (obeys_current lease) fun g' current seen => ?_
  refine obeys_check_bind fun started => obeys_raiseIf_bind (obeys_lift_bind fun r made => ?_)
  have fields := make_fields normalizes made
  have moves : current.Moves r := by
    constructor
    · exact fields.revision
    · simpa using started
    · exact Or.inl fields.status
  have licensed := Licensed.advance seen fields.made fields.copies fields.route
    fields.retryOrdinal moves
  exact (obeys_cas licensed).mono fun _ _ _ => trivial

theorem obeys_recordUncertainty (diagnostic : ProviderUncertaintyDiagnostic) (operation : OperationRef) :
    Obeys ((leaseWatch host).of role) g (Coordinator.recordUncertainty host lease diagnostic
      operation) fun _ _ => True := by
  refine obeys_bind (obeys_current lease) fun g' current seen => ?_
  refine obeys_check_bind fun started => obeys_check_bind fun certain =>
    obeys_lift_bind fun r made => ?_
  have fields := make_fields normalizes made
  have moves : current.Moves r := by
    constructor
    · exact fields.revision
    · simpa using started
    · refine Or.inr (Or.inr ⟨fields.status, ?_, ?_⟩)
      · simpa using certain
      · rw [fields.uncertaintyDiagnostic]
        rfl
  have licensed := Licensed.advance seen fields.made fields.copies fields.route
    fields.retryOrdinal moves
  exact (obeys_cas licensed).mono fun _ _ _ => trivial

theorem obeys_recordCompletedResult (resultBinding : ProviderTurnResultBinding)
    (visibleOutput : Value) (operation : OperationRef) :
    Obeys ((leaseWatch host).of role) g (Coordinator.recordCompletedResult host lease
      resultBinding visibleOutput operation) fun _ _ => True := by
  refine obeys_raiseIf_bind (obeys_bind (obeys_load lease.subject) fun g' found loaded => ?_)
  cases found with
  | none => trivial
  | some found =>
    refine obeys_lift_bind fun r made => ?_
    by_cases stored : found = r
    · rw [Coordinator.storeCompleted, if_pos stored]
      trivial
    · rw [Coordinator.storeCompleted, if_neg stored]
      refine obeys_check_bind fun same => obeys_check_bind fun started => ?_
      obtain rfl : found = lease := by simpa using same
      have fields := make_fields normalizes made
      have moves : found.Moves r := by
        constructor
        · exact fields.revision
        · simpa using started
        · exact Or.inr (Or.inl fields.status)
      have licensed := Licensed.advance (loaded.2 found rfl).1 fields.made fields.copies
        fields.route fields.retryOrdinal moves
      exact (obeys_cas licensed).mono fun _ _ _ => trivial

theorem obeys_claimRetry (previous : ProviderRequestLease)
    (operation : OperationRef) :
    Obeys ((leaseWatch host).of role) g (Coordinator.claimRetry host previous operation)
      fun (g' : Told) r => g'.claimed = some r.subject := by
  refine obeys_bind (obeys_current previous) fun g' current seen => ?_
  refine obeys_lift_bind fun _ retryable => obeys_lift_bind fun subject made => ?_
  have reads := make_reads made
  refine obeys_claim normalizes (reads.exact normalizes) fun g'' r grown made opens same => ?_
  obtain ⟨iteration, envelope, route, ordinal⟩ := reads.words
  apply Licensed.retry (grown seen) (failedAs_of_checkRetry retryable) made opens
  · rw [same]
    exact ⟨reads.attempt, by omega, envelope.symm⟩
  · rw [same]
    exact (route_text_injective route).symm
  · rw [same]
    omega

theorem obeys_claimOpenaiFallback (primary : ProviderRequestLease) (fallbackRouteSha256 : Value)
    (operation : OperationRef) :
    Obeys ((leaseWatch host).of role) g
      (Coordinator.claimOpenaiFallback host primary fallbackRouteSha256 operation)
      fun (g' : Told) r => g'.claimed = some r.subject := by
  refine obeys_bind (obeys_current primary) fun g' current seen => ?_
  refine obeys_check_bind fun failed => obeys_lift_bind fun subject made => ?_
  have reads := make_reads made
  refine obeys_claim normalizes (reads.exact normalizes) fun g'' r grown made opens same => ?_
  simp only [Bool.or_eq_false_iff, ne_eq, decide_not, Bool.not_eq_eq_eq_not, Bool.not_false,
    decide_eq_true_eq] at failed
  obtain ⟨⟨⟨⟨⟨primaryRoute, primaryOrdinal⟩, status⟩, retryable⟩, silent⟩, classified⟩ := failed
  obtain ⟨iteration, envelope, route, ordinal⟩ := reads.words
  apply Licensed.fallback (grown seen) ⟨status, retryable, silent, classified⟩ made opens
  · rw [same]
    exact ⟨reads.attempt, by omega, envelope.symm⟩
  · exact primaryRoute
  · exact primaryOrdinal
  · rw [same]
    exact route_text_injective (route.symm.trans rfl)
  · rw [same]
    omega

theorem obeys_run (call : LeaseCall) :
    Obeys ((leaseWatch host).of role) g (call.run host) fun _ _ => True := by
  cases call with
  | claimInitial attempt iteration envelopeSha256 route routeSha256 operation =>
    exact obeys_thenSend (obeys_claimInitial normalizes ..)
  | recordFailure lease classification retryable visibleOutput operation failureDiagnostic =>
    exact obeys_bind (obeys_recordFailure normalizes ..) fun _ _ _ => trivial
  | recordUncertainty lease diagnostic operation =>
    exact obeys_bind (obeys_recordUncertainty normalizes ..) fun _ _ _ => trivial
  | recordCompleted lease visibleOutput operation => trivial
  | recordCompletedResult lease resultBinding visibleOutput operation =>
    exact obeys_bind (obeys_recordCompletedResult normalizes ..) fun _ _ _ => trivial
  | claimRetry previous operation => exact obeys_thenSend (obeys_claimRetry normalizes ..)
  | claimOpenaiFallback primary fallbackRouteSha256 operation =>
    exact obeys_thenSend (obeys_claimOpenaiFallback normalizes ..)
  | recover subject =>
    have read : Obeys ((leaseWatch host).of (.recover subject)) g (Coordinator.recover subject)
        fun _ _ => True := obeys_bind (obeys_load subject) fun _ _ _ => trivial
    exact obeys_bind read fun _ _ _ => trivial

end Obeys

/-! ### Every run -/

/-- What holds of the coordinators of a crew and the durable world. -/
structure Guarded (host : Host) (xs : List (LeaseCall × Told)) (w : LeaseWorld) : Prop where
  log : LeaseLog w.stored
  made : ∀ r ∈ w.stored, r.Made host
  seen : ∀ x ∈ xs, x.2.seen ⊆ w.stored
  /-- Claims that wait for their send and sends are paid for by the records that opened the
  subject. -/
  paid : ∀ subject, xs.countP (fun x => x.2.claimed = some subject) + w.sends.count subject
    ≤ w.stored.countP fun r => r.subject = subject ∧ r.revision = 1

section Guarded

variable {host : Host} {xs ys : List (LeaseCall × Told)} {w : LeaseWorld} {role : LeaseCall}
  {g : Told}

theorem spent_of_failedAs {log : List ProviderRequestLease} {x : ProviderRequestLease}
    {s : ProviderRequestSubject} {c : FailureClassification} (mem : x ∈ log)
    (same : x.subject = s) (failed : x.FailedAs c) : Spent log s c := ⟨x, mem, same, failed⟩

variable {expectedRevision : Nat} {r : ProviderRequestLease} {seen : List ProviderRequestLease}

theorem fits_of_licensed (made : ∀ r ∈ w.stored, r.Made host) (log : LeaseLog w.stored)
    (stored : seen ⊆ w.stored) (licensed : Licensed host seen expectedRevision r)
    (swaps : w.Swaps r.subject expectedRevision r) : Fits w.stored r := by
  have fresh : w.currentRevision r.subject = 0 → ∀ x ∈ w.stored, x.subject ≠ r.subject := by
    intro zero
    rw [LeaseWorld.currentRevision] at zero
    cases found : w.current r.subject with
    | none => exact KeyedLog.latest_eq_none.mp found
    | some x =>
      rw [found] at zero
      have positive := log.revision_pos (KeyedLog.mem_of_latest found).1
      exact absurd zero (by simpa using positive.ne')
  have same : ∀ {x : ProviderRequestLease}, x ∈ seen → Copies host x.subject r.subject →
      r.subject = x.subject.reroute r.subject.route r.subject.retryOrdinal :=
    fun mem copies => copies.eq_reroute (made _ (stored mem)).exact
  cases licensed with
  | initial _ opens route ordinal =>
    exact Fits.opens (fresh swaps.expected) opens (.initial route ordinal)
  | @retry x _ mem failed _ opens copies route ordinal =>
    refine Fits.opens (fresh swaps.expected) opens (.retry ordinal ?_)
    refine spent_of_failedAs (stored mem) ?_ failed
    rw [same mem copies, route]
    rfl
  | @fallback x _ mem failed _ opens copies primaryRoute primaryOrdinal route ordinal =>
    refine Fits.opens (fresh swaps.expected) opens (.fallback route ordinal ?_)
    refine spent_of_failedAs (stored mem) ?_ failed
    rw [same mem copies, ← primaryRoute, ← primaryOrdinal]
    rfl
  | @advance x _ mem _ copies route ordinal moves =>
    have subject : r.subject = x.subject := by
      rw [same mem copies, route, ordinal]
      rfl
    -- the port found the revision of the record that was seen, so that record is the current one
    have expected := swaps.expected
    rw [subject] at expected
    have here : latestOf x.subject w.stored = some x := by
      cases found : w.current x.subject with
      | none => exact absurd rfl (KeyedLog.latest_eq_none.mp found x (stored mem))
      | some y =>
        rw [LeaseWorld.currentRevision, found] at expected
        have revision : y.revision = x.revision := expected
        rcases log.revision_le (stored mem) found with rfl | lower
        · exact found
        · omega
    refine Fits.advances (x := x) ?_ ⟨moves, subject⟩
    rw [subject]
    exact here

theorem Licensed.made (h : Licensed host seen expectedRevision r) : r.Made host := by
  cases h with
  | initial made | retry _ _ made | fallback _ _ made | advance _ made => exact made

theorem countP_claimed (subject : ProviderRequestSubject) (x : LeaseCall × Told) :
    (xs ++ x :: ys).countP (fun x => x.2.claimed = some subject)
      = (xs ++ ys).countP (fun x => x.2.claimed = some subject)
        + if x.2.claimed = some subject then 1 else 0 := by
  simp only [List.countP_append, List.countP_cons, decide_eq_true_eq]
  omega

theorem countP_opened (subject : ProviderRequestSubject) (r : ProviderRequestLease) :
    (w.store r).stored.countP (fun x => x.subject = subject ∧ x.revision = 1)
      = w.stored.countP (fun x => x.subject = subject ∧ x.revision = 1)
        + if r.subject = subject ∧ r.revision = 1 then 1 else 0 := by
  simp only [LeaseWorld.store, List.countP_append, List.countP_singleton, decide_eq_true_eq]

theorem Guarded.start (h : Guarded host xs w) (call : LeaseCall) :
    Guarded host ((call, ⟨[], none⟩) :: xs) w := by
  constructor
  · exact h.log
  · exact h.made
  · rintro x (_ | ⟨_, mem⟩)
    · exact List.nil_subset _
    · exact h.seen x mem
  · intro subject
    have paid := h.paid subject
    simpa [List.countP_cons] using paid

theorem Guarded.leave {x : LeaseCall × Told} (h : Guarded host (xs ++ x :: ys) w) :
    Guarded host (xs ++ ys) w := by
  constructor
  · exact h.log
  · exact h.made
  · intro y mem
    apply h.seen y
    simp only [List.mem_append, List.mem_cons] at mem ⊢
    tauto
  · intro subject
    have paid := h.paid subject
    rw [countP_claimed] at paid
    omega

variable {g' : Told}

section

variable (h : Guarded host (xs ++ (role, g) :: ys) w)

include h

/-- What a coordinator sees may change to other stored records. -/
theorem Guarded.see (seen : g'.seen ⊆ w.stored) (claimed : g'.claimed = g.claimed) :
    Guarded host (xs ++ (role, g') :: ys) w := by
  constructor
  · exact h.log
  · exact h.made
  · intro x mem
    rcases List.mem_append.mp mem with mem | mem
    · exact h.seen x (by simp [mem])
    · rcases List.mem_cons.mp mem with rfl | mem
      · exact seen
      · exact h.seen x (by simp [mem])
  · intro subject
    have paid := h.paid subject
    rw [countP_claimed] at paid ⊢
    simpa only [claimed] using paid

/-- A swap keeps the crew guarded, whether its answer arrives or not. -/
theorem Guarded.store (licensed : Licensed host g.seen expectedRevision r)
    (swaps : w.Swaps r.subject expectedRevision r) (seen : g'.seen = g.seen)
    (claimed : g'.claimed = g.claimed ∨ expectedRevision = 0 ∧ g'.claimed = some r.subject) :
    Guarded host (xs ++ (role, g') :: ys) (w.store r) := by
  have own : g.seen ⊆ w.stored := h.seen (role, g) (by simp)
  constructor
  · exact h.log.snoc (fits_of_licensed h.made h.log own licensed swaps)
  · intro x mem
    rcases List.mem_append.mp mem with mem | mem
    · exact h.made x mem
    · rw [List.mem_singleton.mp mem]
      exact licensed.made
  · intro x mem
    apply List.Subset.trans _ (List.subset_append_left _ _)
    rcases List.mem_append.mp mem with mem | mem
    · exact h.seen x (by simp [mem])
    · rcases List.mem_cons.mp mem with rfl | mem
      · rw [seen]
        exact own
      · exact h.seen x (by simp [mem])
  · intro subject
    have paid := h.paid subject
    rw [countP_claimed] at paid ⊢
    rw [countP_opened]
    simp only at paid ⊢
    have sends : (w.store r).sends = w.sends := rfl
    rw [sends]
    rcases claimed with same | ⟨first, same⟩
    · rw [same]
      omega
    · have revision : r.revision = 1 := by
        rw [swaps.next, first]
      rw [same]
      by_cases mine : r.subject = subject
      · simp only [mine, revision, and_self, if_true]
        omega
      · simp only [Option.some.injEq, mine, false_and, if_false]
        omega

theorem Guarded.send {subject : ProviderRequestSubject} (claimed : g.claimed = some subject) :
    Guarded host (xs ++ (role, { g with claimed := none }) :: ys) (w.send subject) := by
  constructor
  · exact h.log
  · exact h.made
  · intro x mem
    rcases List.mem_append.mp mem with mem | mem
    · exact h.seen x (by simp [mem])
    · rcases List.mem_cons.mp mem with rfl | mem
      · exact h.seen (role, g) (by simp)
      · exact h.seen x (by simp [mem])
  · intro other
    have paid := h.paid other
    rw [countP_claimed] at paid ⊢
    simp only [claimed, Option.some.injEq] at paid
    simp only [LeaseWorld.send, List.count_append, List.count_singleton, beq_iff_eq]
    simpa [Nat.add_assoc, Nat.add_comm, Nat.add_left_comm] using paid

theorem guarded_answer {c : LeaseCmd} (allowed : g.allows host c) {answer : LeasePort.Answer c}
    {w' : LeaseWorld} (answers : LeaseAnswers w c answer w') :
    Guarded host (xs ++ (role, g.after c answer) :: ys) w' := by
  have own : g.seen ⊆ w.stored := h.seen (role, g) (by simp)
  cases answers with
  | @loaded subject =>
    cases found : w.current subject with
    | none => exact h
    | some r =>
      apply h.see
      · exact List.cons_subset.mpr ⟨(KeyedLog.mem_of_latest found).1, own⟩
      · rfl
  | loadFailed => exact h
  | @swapped subject expectedRevision r swaps =>
    obtain ⟨rfl, licensed⟩ := allowed
    apply h.store licensed swaps
    · cases expectedRevision with
      | zero => rfl
      | succ n => rfl
    · cases expectedRevision with
      | zero => exact Or.inr ⟨rfl, rfl⟩
      | succ n => exact Or.inl rfl
  | @swapLost subject expectedRevision r e swaps =>
    obtain ⟨rfl, licensed⟩ := allowed
    have same : g.after (.compareAndSwap r.subject expectedRevision r) (.error e) = g := by
      cases expectedRevision with
      | zero => rfl
      | succ n => rfl
    rw [same]
    exact h.store licensed swaps rfl (Or.inl rfl)
  | @swapFailed subject expectedRevision r e =>
    have same : g.after (.compareAndSwap subject expectedRevision r) (.error e) = g := by
      cases expectedRevision with
      | zero => rfl
      | succ n => rfl
    rw [same]
    exact h
  | sent => exact h.send allowed

end

theorem guarded_kept : Crew.Kept (leaseSurroundings host) (leaseWatch host) (Guarded host) where
  start h _ := h.start _
  answer h allowed answers := guarded_answer h allowed answers
  leave h := Guarded.leave h
  move _ moves := moves.elim

end Guarded

structure SendsAtMostOnce (w : LeaseWorld) : Prop where
  /-- A subject is moved to `STARTED` at most once. -/
  startedOnce : ∀ s, w.stored.countP (fun r => r.subject = s ∧ r.revision = 1) ≤ 1
  /-- At most one caller is told to send a subject, and only one that was started. -/
  toldOnce : ∀ s, w.sends.count s ≤ 1
  toldStarted : ∀ s ∈ w.sends, ∃ r ∈ w.stored, r.subject = s ∧ r.Opens
  /-- The revisions of a subject advance one by one from its start. -/
  history : ∀ s, History (KeyedLog.records ProviderRequestLease.subject s w.stored)
  /-- A retry is claimed only after the ordinal before it stands as a silent transient failure. -/
  retried : ∀ earlier r later, w.stored = earlier ++ r :: later → r.Opens →
    ∀ n, r.subject.retryOrdinal = n + 1 → ∃ previous,
      latestOf (r.subject.reroute r.subject.route n) earlier = some previous ∧
        previous.FailedAs .transient
  /-- A fallback is claimed only from the primary's ordinal zero. -/
  fellBack : ∀ earlier r later, w.stored = earlier ++ r :: later → r.Opens →
    r.subject.route = .openaiPreviousResponseFallback → r.subject.retryOrdinal = 0 →
      ∃ previous, latestOf (r.subject.reroute .primary 0) earlier = some previous ∧
        previous.FailedAs .previousResponseFallback
  /-- Nothing of a call is started after something of it completed or became visible. -/
  closed : ∀ earlier r later, w.stored = earlier ++ r :: later → r.Opens → ∀ x ∈ earlier,
    SameCall x.subject r.subject → x.status ≠ .completed ∧ x.visibleOutput = false

theorem admitted_of_opens {earlier later : List ProviderRequestLease} {r : ProviderRequestLease}
    (log : LeaseLog (earlier ++ r :: later)) (opens : r.Opens) :
    LeaseLog earlier ∧ Admitted earlier r.subject ∧ ∀ x ∈ earlier, x.subject ≠ r.subject := by
  have upTo : LeaseLog (earlier ++ [r]) := by
    have whole : LeaseLog ((earlier ++ [r]) ++ later) := by simpa using log
    exact whole.prefix
  obtain ⟨before, fits⟩ := upTo.of_snoc
  cases fits with
  | opens fresh _ admitted => exact ⟨before, admitted, fresh⟩
  | advances current advances =>
    have positive := before.revision_pos (KeyedLog.mem_of_latest current).1
    have revision := advances.next_revision
    have first := opens.first
    omega

theorem sendsAtMostOnce_of_guarded {host : Host} {xs : List (LeaseCall × Told)} {w : LeaseWorld}
    (h : Guarded host xs w) : SendsAtMostOnce w where
  startedOnce := h.log.opened_once
  toldOnce s := by
    have paid := h.paid s
    have once := h.log.opened_once s
    omega
  toldStarted s mem := by
    have paid := h.paid s
    have told : 0 < w.sends.count s := List.count_pos_iff.mpr mem
    have opened : 0 < w.stored.countP fun r => r.subject = s ∧ r.revision = 1 := by omega
    obtain ⟨r, stored, same⟩ := List.countP_pos_iff.mp opened
    simp only [decide_eq_true_eq] at same
    exact ⟨r, stored, same.1, h.log.opens_of_first stored same.2⟩
  history := h.log.history
  retried earlier r later split opens n ordinal := by
    obtain ⟨before, admitted, -⟩ := admitted_of_opens (split ▸ h.log) opens
    cases admitted with
    | initial _ zero => omega
    | fallback _ zero => omega
    | retry ordinal' spent =>
      obtain rfl : _ = n := Nat.succ.inj (ordinal'.symm.trans ordinal)
      exact before.current_of_spent spent
  fellBack earlier r later split opens route ordinal := by
    obtain ⟨before, admitted, -⟩ := admitted_of_opens (split ▸ h.log) opens
    cases admitted with
    | initial primary _ =>
      rw [route] at primary
      cases primary
    | fallback _ _ spent => exact before.current_of_spent spent
    | retry ordinal' _ => omega
  closed earlier r later split opens x mem call := by
    obtain ⟨before, admitted, fresh⟩ := admitted_of_opens (split ▸ h.log) opens
    by_cases started : x.status = .started
    · have stored : x ∈ w.stored := by
        rw [split]
        exact List.mem_append_left _ mem
      exact ⟨by simp [started], (h.made x stored).silent_of_started started⟩
    · obtain ⟨c, failed⟩ := before.failedAs_of_admitted admitted fresh mem call started
      exact ⟨by simp [failed.failed], failed.silent⟩

/-- Provider request leases authorize at most one send, for any number of coordinators over one
port, whatever the order of their commands and wherever they are killed. -/
theorem request_leases {host : Host} (normalizes : Normalizes host.nfc)
    {crew : Crew.Crew LeasePort PyError LeaseResult LeaseCall LeaseWorld}
    (reached : Crew.Reachable (leaseSurroundings host) LeaseWorld.Empty crew) :
    SendsAtMostOnce crew.world := by
  have entry : ∀ call p, (leaseSurroundings host).starts call p →
      Obeys ((leaseWatch host).of call) (leaseWatch host).start p fun _ _ => True := by
    rintro call p rfl
    exact obeys_run normalizes call
  have initial : ∀ w : LeaseWorld, w.Empty → Guarded host [] w := by
    rintro w rfl
    constructor
    · exact LeaseLog.nil
    · simp
    · simp
    · simp
  obtain ⟨states, guarded⟩ := Crew.monitored guarded_kept entry initial reached
  exact sendsAtMostOnce_of_guarded guarded

def sampleSha : String := "0000000000000000000000000000000000000000000000000000000000000000"

def sampleSubject : ProviderRequestSubject :=
  ⟨⟨⟨"execution", "generation"⟩, "attempt"⟩, 0, sampleSha, .primary, 0⟩

def sampleLease : ProviderRequestLease :=
  ⟨sampleSubject, sampleSha, .started, 1, false, false, none, ⟨"claim", sampleSha⟩, none, none,
    none, none⟩

theorem sampleSubject_made : ProviderRequestSubject.make plainHost sampleSubject.attempt (.int 0)
    (.str sampleSha) (.str "primary") (.int 0) = .ok sampleSubject := by
  decide +kernel

theorem sampleLease_made : ProviderRequestLease.make plainHost sampleSubject (.str sampleSha)
    .started 1 (.bool false) (.bool false) (.str "") ⟨"claim", sampleSha⟩ none none none none
    = .ok sampleLease := by
  decide +kernel

def sampleCall : LeaseCall :=
  .claimInitial sampleSubject.attempt (.int 0) (.str sampleSha) (.str "primary") (.str sampleSha)
    sampleLease.operation

/-- The program of the call with its checks passed. -/
theorem sampleCall_run : sampleCall.run plainHost =
    thenSend (do
      let found ← Coordinator.load sampleSubject
      Prog.raiseIf found.isSome (leaseConflict "provider request subject is already claimed")
      Coordinator.cas 0 sampleLease) := by
  show thenSend (Coordinator.claimInitial plainHost _ _ _ _ _ _) = _
  rw [Coordinator.claimInitial, sampleSubject_made]
  show thenSend (Coordinator.claim plainHost _ _ _) = _
  rw [Coordinator.claim]
  have made := sampleLease_made
  simp only [sampleLease] at made ⊢
  rw [made]
  rfl

theorem sample_reachable : Crew.Reachable (leaseSurroundings plainHost) LeaseWorld.Empty
    ⟨[(sampleCall, .ret (.lease sampleLease))], ⟨[sampleLease], [sampleSubject]⟩⟩ := by
  have started : Crew.Reachable (leaseSurroundings plainHost) LeaseWorld.Empty
      ⟨[(sampleCall, sampleCall.run plainHost)], ⟨[], []⟩⟩ := .step (.init rfl) (.start rfl)
  rw [sampleCall_run] at started
  have loaded := started.answered LeaseAnswers.loaded
  have swaps : (⟨[], []⟩ : LeaseWorld).Swaps sampleSubject 0 sampleLease := ⟨rfl, rfl, rfl⟩
  have swapped := loaded.answered (LeaseAnswers.swapped swaps)
  exact swapped.answered LeaseAnswers.sent

theorem request_leases_sample : SendsAtMostOnce ⟨[sampleLease], [sampleSubject]⟩ :=
  request_leases normalizes_plainHost sample_reachable

end Unchain.Providers
