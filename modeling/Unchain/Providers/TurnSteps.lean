import Unchain.Providers.TurnSpecs

/-!
Specifications of the runtime's steps, each from a sound world.

A step that writes says which record it wrote; the records it writes are named here.
-/

namespace Unchain.Providers

open Lib Lib.Process Lib.Interrupted Journal Python
open TurnRuntime
open ProviderRequestLease (checkStatus make_of)

variable {R : Type} {host : Host} {envelope : ProviderWireEnvelope} {limit : Int}
  {w : TurnWorld R} {r : ProviderRoute} {n : Nat} {route : ProviderWireRoute}
  {l : ProviderRequestLease} {receipt : ProviderTurnResultReceipt}

/-- The triples of a turn: after every command the records of the envelope are sound. -/
abbrev Turns {α : Type} (host : Host) (envelope : ProviderWireEnvelope) (limit : Int)
    (w : TurnWorld R) (p : TurnProg R α) (post : TurnWorld R → Except TurnError α → Prop) : Prop :=
  Keeps (turnService R host) (Sound host envelope limit) w p post

section Computed

variable {α β : Type} {f : α → TurnProg R β} {post : TurnWorld R → Except TurnError β → Prop}
  {x : Except PyError α}

theorem turns_computed_bind {a : α} (computes : x = .ok a)
    (next : Turns host envelope limit w (f a) post) :
    Turns host envelope limit w (computed x >>= f) post := by
  subst computes
  exact next

theorem turns_computed_error {e : PyError} (fails : x = .error e)
    (raised : post w (.error (.python e))) :
    Turns host envelope limit w (computed x >>= f) post := by
  subst fails
  exact raised

end Computed

/-! ### Reading -/

section

variable (sound : Sound host envelope limit w)

include sound

section

variable (named : routeNamed envelope r = .ok route)

include named

theorem Sound.routed (found : w.lease envelope r n = some l) :
    l.routeSha256 = route.routeSha256 := by
  obtain ⟨route', named', sha⟩ := sound.route found
  rw [named] at named'
  cases named'
  exact sha

theorem turns_lookupResult
    {post : TurnWorld R → Except TurnError (Option ProviderTurnResultReceipt) → Prop}
    (h : post w (.ok (w.results envelope r n).head?)) :
    Turns host envelope limit w (lookupResult (envelope.subject r n) route.routeSha256) post := by
  have lookup : ∀ (answer : List ProviderTurnResultReceipt) (w' : TurnWorld R),
      turnService R host w (.lookupReceipts (envelope.subject r n)) answer w' →
        w.results envelope r n = answer ∧ w = w' := by
    rintro answer w' ⟨happening, -, served⟩
    exact Prod.mk.inj served
  intro events w' served
  obtain ⟨rfl, rfl⟩ := lookup events w' served
  refine ⟨sound, ?_⟩
  rcases sound.results r n with none | ⟨receipt, l, one, found, receives⟩
  · rw [none] at h ⊢
    exact h
  · rw [one] at h ⊢
    intro again w'' served
    obtain ⟨rfl, rfl⟩ := lookup again w'' served
    refine ⟨sound, ?_⟩
    have same : receipt.envelope.routeSha256 = route.routeSha256 := by
      rw [receives.route, sound.routed named found]
    simp only [one, ne_eq, same, not_true_eq_false, if_false]
    exact h

theorem Sound.checkInspected (found : w.lease envelope r n = some l) :
    checkInspected l (w.results envelope r n).head? route.routeSha256 = .ok () := by
  have sha := sound.routed named found
  have failed : ((w.results envelope r n).head?.isSome && decide (l.status = .failed)) = false := by
    rcases sound.results r n with none | ⟨receipt, l', one, found', receives⟩
    · rw [none]
      rfl
    · rw [found] at found'
      cases found'
      rcases receives.status with started | completes
      · simp [started]
      · simp [completes.completed]
  have completed : ((w.results envelope r n).head?.isNone && decide (l.status = .completed))
      = false := by
    by_cases done : l.status = .completed
    · have some := sound.completed found done
      cases whole : w.results envelope r n with
      | nil => exact absurd whole some
      | cons receipt rest => rfl
    · simp [done]
  simp only [TurnRuntime.checkInspected, sha, failed, completed, Effect.raiseIf, ne_eq,
    not_true_eq_false, decide_false, Bool.false_eq_true, if_false, bind, Except.bind]

theorem turns_inspectSubject {post : TurnWorld R →
      Except TurnError (Option ProviderRequestLease × Option ProviderTurnResultReceipt) → Prop}
    (h : post w (.ok (w.lease envelope r n, (w.results envelope r n).head?))) :
    Turns host envelope limit w (inspectSubject (envelope.subject r n) route.routeSha256) post := by
  refine keeps_bind (keeps_coordinator (keeps_bind (keeps_load sound ?_)))
  refine keeps_bind (turns_lookupResult sound named ?_)
  have current : w.leases.current (envelope.subject r n) = w.lease envelope r n := rfl
  simp only [either, current]
  cases found : w.lease envelope r n with
  | none =>
    rw [found, sound.results_of_unclaimed found] at h
    simp only [sound.results_of_unclaimed found]
    exact h
  | some l =>
    rw [found] at h
    exact turns_computed_bind (sound.checkInspected named found) h

end

end

/-! ### Claiming -/

theorem routeSha256_made (envelopeMade : envelope.Made host)
    (named : routeNamed envelope r = .ok route) :
    route.name = r ∧ isSha256 route.routeSha256 = true := by
  unfold routeNamed at named
  split at named
  · next found =>
      cases named
      exact ⟨by simpa using List.find?_some found,
        envelopeMade.routeSha256 _ (List.mem_of_find?_eq_some found)⟩
  · cases named

/-- What a claim of a send goes by: the failure of the ordinal before it, or that of the primary
route. -/
structure Prepared (envelope : ProviderWireEnvelope) (w : TurnWorld R) (r : ProviderRoute) (n : Nat)
    (previous fallbackParent : Option ProviderRequestLease) : Prop where
  retry : ∀ k, n = k + 1 → ∃ p, previous = some p ∧ w.lease envelope r k = some p ∧
    p.FailedAs .transient
  fallback : n = 0 → r = .openaiPreviousResponseFallback → ∃ p, fallbackParent = some p ∧
    w.lease envelope .primary 0 = some p ∧ p.FailedAs .previousResponseFallback

variable {fallbackParent previous : Option ProviderRequestLease}

theorem Prepared.admits (sound : Sound host envelope limit w)
    (prepared : Prepared envelope w r n previous fallbackParent) : Admits envelope w r n := by
  constructor
  · intro k next
    obtain ⟨p, -, found, failed⟩ := prepared.retry k next
    exact ⟨p, found, failed⟩
  · rintro rfl
    cases n with
    | zero =>
      obtain ⟨p, -, found, failed⟩ := prepared.fallback rfl rfl
      exact ⟨p, found, failed⟩
    | succ k =>
      obtain ⟨p, -, found, -⟩ := prepared.retry k rfl
      exact sound.fellBack found

variable (plain : PlainTexts host) (envelopeMade : envelope.Made host)

include plain envelopeMade

variable {operation : OperationRef}

theorem opened_made {routeSha256 : String} (bounded : n ≤ maxProviderRequestRetryOrdinal)
    (sha : isSha256 routeSha256 = true) (exact : OperationExact host operation) :
    ProviderRequestLease.make host (envelope.subject r n) (.str routeSha256) .started 1
      (.bool false) (.bool false) (.str "") operation none none none none
        = .ok (opened (envelope.subject r n) routeSha256 operation) := by
  apply make_of plain envelopeMade bounded sha exact
    (opened (envelope.subject r n) routeSha256 operation) rfl rfl rfl
  · intro absent
    cases absent
  · intro absent
    cases absent
  · exact Nat.le_refl 1
  · rfl
  · intro s absent
    cases absent
  · rfl

/-- What stands recorded after a claim of a send. -/
abbrev claimed (envelope : ProviderWireEnvelope) (r : ProviderRoute) (n : Nat)
    (route : ProviderWireRoute) (operation : OperationRef) : ProviderRequestLease :=
  opened (envelope.subject r n) route.routeSha256 operation

variable (sound : Sound host envelope limit w)

include sound

theorem keeps_claimSend (named : routeNamed envelope r = .ok route)
    (bounded : n ≤ maxProviderRequestRetryOrdinal)
    (unclaimed : w.lease envelope r n = none) (admits : Admits envelope w r n)
    (exact : OperationExact host operation)
    {post : TurnWorld R → Except PyError ProviderRequestLease → Prop}
    (h : post (w.storeLease (claimed envelope r n route operation))
      (.ok (claimed envelope r n route operation))) :
    Keeps (leaseService R) (Sound host envelope limit) w
      (Prog.lift (TurnRuntime.subjectOf host envelope r n) >>= fun subject =>
        Coordinator.claim host subject (.str route.routeSha256) operation) post := by
  obtain ⟨-, sha⟩ := routeSha256_made envelopeMade named
  rw [subject_make plain envelopeMade r bounded]
  exact keeps_claim sound unclaimed (opened_made plain envelopeMade bounded sha exact)
    (sound.claim named bounded unclaimed admits rfl rfl rfl) h

variable {post : TurnWorld R → Except TurnError ProviderRequestLease → Prop}

theorem turns_claimSubject (named : routeNamed envelope r = .ok route)
    (bounded : n ≤ maxProviderRequestRetryOrdinal)
    (unclaimed : w.lease envelope r n = none)
    (prepared : Prepared envelope w r n previous fallbackParent)
    (exact : OperationExact host operation)
    (h : post (w.storeLease (claimed envelope r n route operation))
      (.ok (claimed envelope r n route operation))) : Turns host envelope limit w
      (claimSubject host (envelope.subject r n) route previous fallbackParent operation) post := by
  have admits := prepared.admits sound
  unfold claimSubject
  cases n with
  | succ k =>
    obtain ⟨p, rfl, found, failed⟩ := prepared.retry k rfl
    have subject := lease_subject found
    have retryable : Coordinator.checkRetry p = .ok () := by
      have below : ¬ (k ≥ maxProviderRequestRetryOrdinal) := by omega
      simp only [Coordinator.checkRetry, failed.failed, failed.silent, failed.retryable,
        failed.classified, subject, ProviderWireEnvelope.subject, below, Effect.raiseIf, bind,
        Except.bind]
      rfl
    have positive : (envelope.subject r (k + 1)).retryOrdinal > 0 := Nat.succ_pos k
    refine keeps_coordinator (keeps_bind (keeps_current sound ?_ ?_))
    · rw [subject]
      exact found
    · rw [either, retryable]
      simp only [subject, sound.routed named found]
      exact keeps_claimSend plain envelopeMade sound named bounded unclaimed admits exact h
  | zero =>
    have first : ¬ (envelope.subject r 0).retryOrdinal > 0 := Nat.lt_irrefl 0
    cases r with
    | openaiPreviousResponseFallback =>
      obtain ⟨p, rfl, found, failed⟩ := prepared.fallback rfl rfl
      have subject := lease_subject found
      have isFallback : (envelope.subject .openaiPreviousResponseFallback 0).route
          = .openaiPreviousResponseFallback := rfl
      refine keeps_coordinator (keeps_bind (keeps_current sound ?_ ?_))
      · rw [subject]
        exact found
      · refine keeps_raiseIf_bind (fun _ => ?_) fun refused => ?_
        · simp only [subject]
          exact keeps_claimSend plain envelopeMade sound named bounded unclaimed admits exact h
        · simp [subject, ProviderWireEnvelope.subject, failed.failed, failed.retryable,
            failed.silent, failed.classified] at refused
    | primary =>
      have other : (envelope.subject .primary 0).route ≠ .openaiPreviousResponseFallback := by
        rintro ⟨⟩
      refine keeps_coordinator (keeps_raiseIf_bind (fun _ => ?_) fun refused => ?_)
      · exact keeps_claimSend plain envelopeMade sound named bounded unclaimed admits exact h
      · simp [ProviderWireEnvelope.subject, ProviderRoute.text, Value.eqPy] at refused

theorem turns_claim (named : routeNamed envelope r = .ok route)
    (bounded : n ≤ maxProviderRequestRetryOrdinal)
    (unclaimed : w.lease envelope r n = none)
    (prepared : Prepared envelope w r n previous fallbackParent)
    {post : TurnWorld R → Except TurnError (ProviderRequestLease × Bool) → Prop}
    (h : ∀ operation, post (w.storeLease (claimed envelope r n route operation))
      (.ok (claimed envelope r n route operation, true))) :
    Turns host envelope limit w (claim host (envelope.subject r n) route previous fallbackParent)
      post := by
  obtain ⟨operation, made, exact⟩ := operation_made plain (envelope.subject r n)
    (show "claim" ∈ turnPhases by decide) (.dict [("route_sha256", .str route.routeSha256)])
  refine turns_computed_bind made (keeps_tryCatch (keeps_bind ?_))
  exact turns_claimSubject plain envelopeMade sound named bounded unclaimed prepared exact
    (h operation)

/-! ### Recording how a send ended -/

structure Pending (envelope : ProviderWireEnvelope) (w : TurnWorld R) (r : ProviderRoute) (n : Nat)
    (l : ProviderRequestLease) : Prop where
  found : w.lease envelope r n = some l
  started : l.status = .started
  certain : l.uncertaintyDiagnostic = none
  noResult : w.results envelope r n = []

def failedLease (l : ProviderRequestLease) (classification : FailureClassification)
    (retryable : Bool) (operation : OperationRef)
    (diagnostic : Option ProviderFailureDiagnostic) : ProviderRequestLease :=
  ⟨l.subject, l.routeSha256, .failed, l.revision + 1, false, retryable, some classification,
    operation, none, none, diagnostic, none⟩

def uncertainLease (l : ProviderRequestLease) (operation : OperationRef)
    (diagnostic : ProviderUncertaintyDiagnostic) : ProviderRequestLease :=
  ⟨l.subject, l.routeSha256, .started, l.revision + 1, false, false, none, operation, none, none,
    none, some diagnostic⟩

/-- The record of a completion. -/
def completedWith (host : Host) (l : ProviderRequestLease) (operation : OperationRef)
    (receipt : ProviderTurnResultReceipt) : ProviderRequestLease :=
  ⟨l.subject, l.routeSha256, .completed, l.revision + 1, receipt.envelope.visibleOutput, false,
    none, operation, some receipt.binding, some (l.leaseSha256 host), none, none⟩

omit plain in
theorem Sound.sha256 (found : w.lease envelope r n = some l) :
    isSha256 l.routeSha256 = true := by
  obtain ⟨route, named, sha⟩ := sound.route found
  rw [sha]
  exact (routeSha256_made envelopeMade named).2

variable {classification : FailureClassification} {retryable : Bool}

theorem failedLease_made (found : w.lease envelope r n = some l)
    (allowed : classification = .previousResponseFallback → retryable = true)
    (exact : OperationExact host operation) (diagnostic : Option ProviderFailureDiagnostic) :
    ProviderRequestLease.make host l.subject (.str l.routeSha256) .failed (l.revision + 1)
      (.bool false) (.bool retryable) (.str classification.text) operation none none diagnostic none
        = .ok (failedLease l classification retryable operation diagnostic) := by
  have subject := lease_subject found
  rw [subject]
  apply make_of plain envelopeMade (sound.bounded found)
    (sound.sha256 envelopeMade found) exact
    (failedLease l classification retryable operation diagnostic)
  · exact subject
  · rfl
  · rfl
  · intro _
    rfl
  · intro absent
    cases absent
  · exact Nat.succ_le_succ (Nat.zero_le _)
  · rfl
  · intro s absent
    cases absent
  · show checkStatus _ = _
    simp only [checkStatus, failedLease, Option.isSome_none, Option.isNone_some,
      Bool.false_eq_true, if_false, Option.some.injEq, Bool.and_eq_true, decide_eq_true_eq,
      Bool.not_eq_true']
    rw [if_neg]
    rintro ⟨isFallback, notRetryable⟩
    rw [allowed isFallback] at notRetryable
    cases notRetryable

variable {diagnostic : Option ProviderFailureDiagnostic}

theorem turns_recordFailure (pending : Pending envelope w r n l)
    (allowed : classification = .previousResponseFallback →
      retryable = true ∧ r = .primary ∧ n = 0)
    (h : ∀ l', l'.subject = envelope.subject r n → l'.status = .failed →
      l'.visibleOutput = false → l'.retryable = retryable →
      l'.classification = some classification →
        Sound host envelope limit (w.storeLease l') → post (w.storeLease l') (.ok l')) :
    Turns host envelope limit w (recordFailure host l classification retryable diagnostic) post := by
  obtain ⟨operation, made, exact⟩ := operation_made plain l.subject
    (show "failure" ∈ turnPhases by decide)
    (.dict ([("classification", .str classification.text), ("retryable", .bool retryable),
      ("visible_output", .bool false)]
      ++ (diagnostic.map fun d => ("failure_diagnostic", d.toDict)).toList))
  have subject := lease_subject pending.found
  have moves : MovesTo envelope w r n
      (failedLease l classification retryable operation diagnostic) := by
    refine ⟨subject, fun _ => ⟨pending.noResult, fun isFallback => ?_⟩, fun done => ?_⟩
    · obtain ⟨retries, isPrimary, isFirst⟩ := allowed (Option.some.inj isFallback)
      exact ⟨isPrimary, isFirst, rfl, retries, rfl, isFallback⟩
    · cases done
  have after := sound.move pending.found pending.started moves rfl
  refine turns_computed_bind made (keeps_coordinator (keeps_recordFailure sound ?_ pending.started
    ?_ (failedLease_made plain envelopeMade sound pending.found (fun same => (allowed same).1) exact
      diagnostic) rfl rfl after ?_))
  · rw [subject]
    exact pending.found
  · intro isFallback
    obtain ⟨-, isPrimary, isFirst⟩ := allowed isFallback
    rw [subject]
    exact ⟨isPrimary, isFirst⟩
  · exact h _ subject rfl rfl rfl rfl after

omit envelopeMade in
theorem turns_recordFailure_refused (pending : Pending envelope w r n l) (late : n ≠ 0)
    (h : post w (.error (.python
      (transitionError "previous_response_fallback requires primary ordinal zero")))) :
    Turns host envelope limit w
      (recordFailure host l .previousResponseFallback true diagnostic) post := by
  obtain ⟨operation, made, -⟩ := operation_made plain l.subject
    (show "failure" ∈ turnPhases by decide)
    (.dict ([("classification", .str FailureClassification.previousResponseFallback.text),
      ("retryable", .bool true), ("visible_output", .bool false)]
      ++ (diagnostic.map fun d => ("failure_diagnostic", d.toDict)).toList))
  have subject := lease_subject pending.found
  refine turns_computed_bind made (keeps_coordinator
    (keeps_recordFailure_refused sound ?_ pending.started ?_ h))
  · rw [subject]
    exact pending.found
  · rw [subject]
    exact late

theorem turns_raiseUncertain {α : Type} (pending : Pending envelope w r n l)
    (diagnostic : ProviderUncertaintyDiagnostic)
    {post : TurnWorld R → Except TurnError α → Prop}
    (h : ∀ l', l'.subject = envelope.subject r n → l'.status = .started →
      post (w.storeLease l') (.error (.uncertain diagnostic))) :
    Turns host envelope limit w (raiseUncertain host l diagnostic) post := by
  obtain ⟨operation, made, exact⟩ := operation_made plain l.subject
    (show "uncertainty" ∈ turnPhases by decide)
    (.dict [("uncertainty_diagnostic", diagnostic.toDict)])
  have subject := lease_subject pending.found
  have moves : MovesTo envelope w r n (uncertainLease l operation diagnostic) := by
    refine ⟨subject, fun failed => ?_, fun done => ?_⟩
    · cases failed
    · cases done
  have leaseMade : ProviderRequestLease.make host l.subject (.str l.routeSha256) .started
      (l.revision + 1) (.bool false) (.bool false) (.str "") operation none none none
      (some diagnostic) = .ok (uncertainLease l operation diagnostic) := by
    rw [subject]
    apply make_of plain envelopeMade (sound.bounded pending.found)
      (sound.sha256 envelopeMade pending.found) exact (uncertainLease l operation diagnostic)
    · exact subject
    · rfl
    · rfl
    · intro absent
      cases absent
    · intro _
      rfl
    · exact Nat.succ_le_succ (Nat.zero_le _)
    · rfl
    · intro s absent
      cases absent
    · rfl
  refine keeps_bind (keeps_attempt (turns_computed_bind made (keeps_coordinator
    (keeps_recordUncertainty sound ?_ pending.started pending.certain leaseMade rfl rfl ?_ ?_))))
  · rw [subject]
    exact pending.found
  · exact sound.move pending.found pending.started moves rfl
  · exact h _ subject rfl

theorem turns_complete (found : w.lease envelope r n = some l)
    (started : l.status = .started) (one : w.results envelope r n = [receipt])
    (made : receipt.Made host) (sameRoute : receipt.envelope.routeSha256 = l.routeSha256)
    (h : ∀ l', l'.subject = envelope.subject r n → Completes l' receipt →
      Sound host envelope limit (w.storeLease l') → post (w.storeLease l') (.ok l')) :
    Turns host envelope limit w (complete host l receipt) post := by
  obtain ⟨operation, operationMade, exact⟩ := operation_made plain l.subject
    (show "completion" ∈ turnPhases by decide)
    (.dict [("result_sha256", .str receipt.binding.resultSha256),
      ("artifact", receipt.binding.artifact.toDict), ("cursor", receipt.binding.cursor.toDict)])
  have subject := lease_subject found
  have completes : Completes (completedWith host l operation receipt) receipt := ⟨rfl, rfl, rfl⟩
  have moves : MovesTo envelope w r n (completedWith host l operation receipt) := by
    refine ⟨subject, fun failed => ?_, fun _ => ⟨receipt, one, completes⟩⟩
    cases failed
  have leaseMade : ProviderRequestLease.make host l.subject (.str l.routeSha256) .completed
      (l.revision + 1) (.bool receipt.envelope.visibleOutput) (.bool false) (.str "") operation
      (some receipt.binding) (some (l.leaseSha256 host)) none none
        = .ok (completedWith host l operation receipt) := by
    rw [subject]
    apply make_of plain envelopeMade (sound.bounded found)
      (sound.sha256 envelopeMade found) exact (completedWith host l operation receipt)
    · exact subject
    · rfl
    · rfl
    · intro absent
      cases absent
    · intro absent
      cases absent
    · exact Nat.succ_le_succ (Nat.zero_le _)
    · show (some <$> ProviderTurnResultBinding.fromDict host receipt.binding.toDict) = _
      rw [binding_again made]
      rfl
    · intro s same
      cases same
      exact plain.digest_sha256 _
    · have same : receipt.binding.routeSha256 = l.routeSha256 := sameRoute
      simp [checkStatus, completedWith, same]
  refine turns_computed_bind (resultBinding_made made) (turns_computed_bind operationMade
    (keeps_coordinator (keeps_recordCompletedResult sound ?_ started sameRoute leaseMade rfl rfl rfl
      ?_ ?_)))
  · rw [subject]
    exact found
  · exact sound.move found started moves rfl
  · exact h _ subject completes (sound.move found started moves rfl)

theorem turns_recoverOrComplete (codec : ResultCodec R) (found : w.lease envelope r n = some l)
    (one : w.results envelope r n = [receipt])
    (receives : Receives host l receipt)
    {post : TurnWorld R → Except TurnError (DurableProviderTurnOutcome R) → Prop}
    (completed : l.status = .completed →
      post w (.ok ⟨codec.restore receipt.envelope.result, true⟩))
    (started : l.status = .started → ∀ l', l'.subject = envelope.subject r n →
      l'.status = .completed → Sound host envelope limit (w.storeLease l') →
        post (w.storeLease l') (.ok ⟨codec.restore receipt.envelope.result, true⟩)) :
    Turns host envelope limit w (recoverOrComplete host codec l receipt) post := by
  refine turns_computed_bind (resultBinding_made receives.made) (keeps_bind ?_)
  have passes : ∀ {l' : ProviderRequestLease}, Completes l' receipt →
      (l'.status ≠ .completed || l'.resultBinding ≠ some receipt.binding
        || l'.visibleOutput ≠ receipt.envelope.visibleOutput) = false := by
    intro l' completes
    simp [completes.completed, completes.binding, completes.visibleOutput]
  unfold completedLease
  rcases receives.status with isStarted | completes
  · rw [if_pos isStarted]
    refine turns_complete plain envelopeMade sound found isStarted one receives.made
      receives.route fun l' subject completes after => ?_
    refine keeps_raiseIf_bind (fun _ => ?_) fun changed => ?_
    · exact started isStarted l' subject completes.completed after
    · rw [passes completes] at changed
      cases changed
  · have notStarted : l.status ≠ .started := by simp [completes.completed]
    rw [if_neg notStarted]
    refine keeps_raiseIf_bind (fun _ => completed completes.completed) fun changed => ?_
    rw [passes completes] at changed
    cases changed

theorem turns_persistResult (codec : ResultCodec R) (pending : Pending envelope w r n l) (result : R)
    {post : TurnWorld R → Except TurnError (DurableProviderTurnOutcome R) → Prop}
    (invalid : ∀ e, codec.payload result = .error e → ∀ l' diagnostic,
      l'.subject = envelope.subject r n → l'.status = .started →
        post (w.storeLease l') (.error (.uncertain diagnostic)))
    (stored : ∀ receipt l', l'.subject = envelope.subject r n → l'.status = .completed →
      post ((w.storeResult receipt).storeLease l') (.ok ⟨result, false⟩)) :
    Turns host envelope limit w (persistResult host codec l result) post := by
  have subject := lease_subject pending.found
  unfold persistResult
  cases encoded : codec.payload result with
  | error e =>
    simp only [envelopeOf, encoded, bind, Except.bind]
    exact turns_raiseUncertain plain envelopeMade sound pending _ fun l' same started =>
      invalid e encoded l' _ same started
  | ok payload =>
    have resultEnvelope : envelopeOf host codec l result
        = .ok ⟨l.subject, l.routeSha256, true, payload, host.digest payload⟩ := by
      rw [envelopeOf, encoded]
      rfl
    simp only [resultEnvelope]
    obtain ⟨_, artifactMade, -⟩ := operation_made plain l.subject
      (show "result-artifact" ∈ turnPhases by decide)
      (.dict [("result_sha256", .str (host.digest payload))])
    obtain ⟨_, eventMade, -⟩ := operation_made plain l.subject
      (show "result-event" ∈ turnPhases by decide)
      (.dict [("result_sha256", .str (host.digest payload)), ("route_sha256", .str l.routeSha256)])
    refine turns_computed_bind artifactMade (turns_computed_bind eventMade ?_)
    rintro answer w' ⟨happening, possible, served⟩
    let receipt : ProviderTurnResultReceipt :=
      ⟨⟨l.subject, l.routeSha256, true, payload, host.digest payload⟩, happening.artifact,
        happening.cursor⟩
    have current : w.leases.current l.subject = some l := by
      rw [subject]
      exact pending.found
    have none : w.receiptsOf l.subject = [] := by
      rw [subject]
      exact pending.noResult
    obtain ⟨rfl, rfl⟩ : Except.ok receipt = answer ∧ w.storeResult receipt = w' := by
      simpa [TurnWorld.serve, TurnWorld.persist, current, pending.started, none, receipt,
        TurnWorld.storeResult] using served
    have made : receipt.Made host :=
      ⟨possible.stored, sound.sha256 envelopeMade pending.found, plain.digest_sha256 _⟩
    have received : Sound host envelope limit (w.storeResult receipt) :=
      sound.receive pending.found pending.started pending.noResult subject made rfl
    have one : (w.storeResult receipt).results envelope r n = [receipt] := by
      rw [results_storeResult subject, if_pos ⟨rfl, rfl⟩, pending.noResult]
      rfl
    refine ⟨received, turns_computed_bind rfl (keeps_bind ?_)⟩
    exact turns_complete plain envelopeMade received pending.found pending.started one made rfl
      fun l' same completes _ => stored receipt l' same completes.completed

end Unchain.Providers
