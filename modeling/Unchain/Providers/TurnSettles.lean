import Unchain.Providers.TurnSteps

/-!
Durable provider turns send at most once and settle.

Every run of `execute` calls for one envelope keeps its records sound. A call that is not cut off
settles every send it made, unless a retry of the primary route ended in a previous-response
failure: the coordinator refuses to record that one.
-/

namespace Unchain.Providers

open Lib Lib.Process Lib.Interrupted Journal Python
open TurnRuntime

variable {R : Type}

/-! ### What a transport's outcome leads to -/

def SendOutcome.Classified (outcome : SendOutcome R) : Prop :=
  ∃ kind original, outcome = .failure kind original

/-- An exception that was not classified, or a result that is not valid. -/
def SendOutcome.LeavesOpen (codec : ResultCodec R) : SendOutcome R → Prop
  | .raised _ => True
  | .notResult => True
  | .result value => ∃ e, codec.payload value = .error e
  | .failure _ _ => False

def Sent.Late (sent : Sent R) : Prop :=
  sent.retryOrdinal ≠ 0 ∧ ∃ original, sent.outcome = .failure .previousResponseFallback original

theorem classifiedFailureKind_ne (error : ProviderException) :
    classifiedFailureKind error ≠ some .previousResponseFallback := by
  unfold classifiedFailureKind
  split
  · simp
  · split
    · simp
    · split_ifs <;> simp

variable {kind : ExactProviderRouteFailureKind} {original : ProviderException}

theorem classify_failure {error : ProviderException}
    (h : (classify error : SendOutcome R) = .failure kind original) :
    original = error ∧ kind ≠ .previousResponseFallback := by
  unfold classify at h
  split at h
  · next found =>
      cases h
      refine ⟨rfl, ?_⟩
      rintro rfl
      exact classifiedFailureKind_ne _ found
  · cases h

theorem exactSend_failure {provider : WireProvider} {route : ProviderWireRoute}
    {fetched : Fetched R} (h : exactSend provider route fetched = .failure kind original) :
    original.durable = false ∧ (kind = .previousResponseFallback → route.name = .primary) := by
  have family {error : ProviderException}
      (h : (familyCaught error : SendOutcome R) = .failure kind original) :
      original.durable = false ∧ (kind = .previousResponseFallback → route.name = .primary) := by
    unfold familyCaught at h
    split at h
    · cases h
    · next notDurable =>
        obtain ⟨rfl, other⟩ := classify_failure h
        exact ⟨by simpa using notDurable, fun same => absurd same other⟩
  have openai {error : ProviderException}
      (h : (openaiCaught route error : SendOutcome R) = .failure kind original) :
      original.durable = false ∧ (kind = .previousResponseFallback → route.name = .primary) := by
    unfold openaiCaught at h
    split at h
    · cases h
    · next notDurable =>
        split at h
        · next previous =>
            cases h
            simp only [Bool.and_eq_true, decide_eq_true_eq] at previous
            exact ⟨by simpa using notDurable, fun _ => previous.1.1.1⟩
        · obtain ⟨rfl, other⟩ := classify_failure h
          exact ⟨by simpa using notDurable, fun same => absurd same other⟩
  cases fetched with
  | unprepared error | returned result | returnedOther => cases h
  | raised error =>
    cases provider with
    | ollama => cases h
    | openai =>
      simp only [exactSend, caught] at h
      split at h
      · exact openai h
      · cases h
    | anthropic | hyperspace | gemini =>
      simp only [exactSend, caught] at h
      split at h
      · exact family h
      · cases h

/-! ### What one call of `execute` has settled -/

/-- The sends made since `w₀`. -/
def sendsSince (w₀ w : TurnWorld R) : List (Sent R) := w.sends.drop w₀.sends.length

structure Settled (codec : ResultCodec R) (envelope : ProviderWireEnvelope)
    (w₀ w : TurnWorld R) : Prop where
  grown : w.sends = w₀.sends ++ sendsSince w₀ w
  /-- No retry ended in a previous-response failure. -/
  punctual : ∀ s ∈ sendsSince w₀ w, ¬ s.Late
  /-- Every failure that the transport classified is recorded. -/
  failed : ∀ s ∈ sendsSince w₀ w, s.outcome.Classified →
    ∃ l, w.lease envelope s.route s.retryOrdinal = some l ∧ l.status = .failed
  /-- A lease stands started only where it was found so, or after an exception that was not
  classified or a result that was not valid. -/
  unsettled : ∀ r n l, w.lease envelope r n = some l → l.status = .started →
    w₀.lease envelope r n = some l ∨ ∃ s ∈ sendsSince w₀ w, s.route = r ∧ s.retryOrdinal = n ∧
      s.outcome.LeavesOpen codec

/-- A retry ended in a previous-response failure: the coordinator's refusal is what the call ends
in, and the lease is left started. -/
def Refused {α : Type} (envelope : ProviderWireEnvelope) (w₀ w : TurnWorld R)
    (x : Except TurnError α) : Prop :=
  x = .error (.python
      (transitionError "previous_response_fallback requires primary ordinal zero")) ∧
    ∃ s ∈ sendsSince w₀ w, s.Late ∧
      ∃ l, w.lease envelope s.route s.retryOrdinal = some l ∧ l.status = .started

def Ends {α : Type} (codec : ResultCodec R) (envelope : ProviderWireEnvelope) (w₀ w : TurnWorld R)
    (x : Except TurnError α) : Prop :=
  Refused envelope w₀ w x ∨
    Settled codec envelope w₀ w ∧ ∀ e, x = .error e → e.isIntegrityOrTransition = false

section Settling

variable {codec : ResultCodec R} {envelope : ProviderWireEnvelope} {w₀ w w' : TurnWorld R}
  {r : ProviderRoute} {n : Nat}

theorem Settled.start : Settled codec envelope w w := by
  have none : sendsSince w w = [] := by simp [sendsSince]
  constructor
  · rw [none, List.append_nil]
  · simp [none]
  · simp [none]
  · intro r n l found _
    exact Or.inl found

/-- What one write, with at most one send before it, changed of the records of a send. -/
structure Touches (envelope : ProviderWireEnvelope) (w w' : TurnWorld R) (r : ProviderRoute)
    (n : Nat) (sent : List (Sent R)) : Prop where
  others : ∀ r' n', ¬ (r = r' ∧ n = n') → w'.lease envelope r' n' = w.lease envelope r' n'
  sends : w'.sends = w.sends ++ sent
  here : ∀ s ∈ sent, s.route = r ∧ s.retryOrdinal = n

variable {sent : List (Sent R)}

theorem Touches.storeLease (h : Touches envelope w w' r n sent) {l : ProviderRequestLease}
    (subject : l.subject = envelope.subject r n) :
    Touches envelope w (w'.storeLease l) r n sent := by
  constructor
  · intro r' n' other
    rw [lease_storeLease_other subject other]
    exact h.others r' n' other
  · exact h.sends
  · exact h.here

/-- A send that ended as it should keeps a call settled. -/
theorem Settled.touch (settled : Settled codec envelope w₀ w)
    (touches : Touches envelope w w' r n sent)
    (notFailed : ∀ l, w.lease envelope r n = some l → l.status ≠ .failed)
    (punctual : ∀ s ∈ sent, ¬ s.Late) (failed : ∀ s ∈ sent, s.outcome.Classified →
      ∃ l, w'.lease envelope r n = some l ∧ l.status = .failed)
    (unsettled : ∀ l, w'.lease envelope r n = some l → l.status = .started →
      ∃ s ∈ sent, s.outcome.LeavesOpen codec) : Settled codec envelope w₀ w' := by
  have since : sendsSince w₀ w' = sendsSince w₀ w ++ sent := by
    have sends := touches.sends
    rw [settled.grown, List.append_assoc] at sends
    rw [sendsSince, sends, List.drop_left]
  constructor
  · rw [since, touches.sends, ← List.append_assoc, ← settled.grown]
  · intro s mem
    rw [since, List.mem_append] at mem
    rcases mem with mem | mem
    · exact settled.punctual s mem
    · exact punctual s mem
  · intro s mem classified
    rw [since, List.mem_append] at mem
    rcases mem with mem | mem
    · obtain ⟨l, found, isFailed⟩ := settled.failed s mem classified
      refine ⟨l, ?_, isFailed⟩
      rw [touches.others _ _ ?_, found]
      rintro ⟨rfl, rfl⟩
      exact notFailed l found isFailed
    · obtain ⟨sameRoute, sameOrdinal⟩ := touches.here s mem
      rw [sameRoute, sameOrdinal]
      exact failed s mem classified
  · intro r' n' l found started
    rw [since]
    by_cases same : r = r' ∧ n = n'
    · obtain ⟨rfl, rfl⟩ := same
      obtain ⟨s, mem, leavesOpen⟩ := unsettled l found started
      obtain ⟨sameRoute, sameOrdinal⟩ := touches.here s mem
      exact Or.inr ⟨s, List.mem_append_right _ mem, sameRoute, sameOrdinal, leavesOpen⟩
    · rw [touches.others r' n' same] at found
      rcases settled.unsettled r' n' l found started with before | ⟨s, mem, facts⟩
      · exact Or.inl before
      · exact Or.inr ⟨s, List.mem_append_left _ mem, facts⟩

/-- What one pass of the loop leaves behind. -/
def PassEnds (codec : ResultCodec R) (envelope : ProviderWireEnvelope) (w₀ : TurnWorld R)
    (r : ProviderRoute) (n : Nat) (w : TurnWorld R) : Except TurnError (Pass R) → Prop
  | .ok (.done _) => Settled codec envelope w₀ w
  | .ok (.fallBack l) => Settled codec envelope w₀ w ∧ r = .primary ∧
      w.lease envelope .primary 0 = some l ∧ l.FailedAs .previousResponseFallback
  | .ok (.retry l) => Settled codec envelope w₀ w ∧ w.lease envelope r n = some l ∧
      l.FailedAs .transient
  | .error e => Ends codec envelope w₀ w (.error e : Except TurnError Unit)

variable {e : TurnError} {α : Type}

theorem ends_error (settled : Settled codec envelope w₀ w)
    (harmless : e.isIntegrityOrTransition = false) :
    Ends codec envelope w₀ w (.error e : Except TurnError α) := by
  refine Or.inr ⟨settled, ?_⟩
  rintro _ ⟨⟩
  exact harmless

theorem Ends.error {β : Type} (h : Ends codec envelope w₀ w (.error e : Except TurnError α)) :
    Ends codec envelope w₀ w (.error e : Except TurnError β) := by
  rcases h with ⟨same, late⟩ | ⟨settled, harmless⟩
  · cases same
    exact Or.inl ⟨rfl, late⟩
  · refine Or.inr ⟨settled, ?_⟩
    rintro _ ⟨⟩
    exact harmless _ rfl

end Settling

/-! ### One pass of the loop -/

section Passes

variable {host : Host} {codec : ResultCodec R} {envelope : ProviderWireEnvelope} {limit : Int}
  {w₀ w₁ w : TurnWorld R} {r : ProviderRoute} {n : Nat} {route : ProviderWireRoute}
  {config : RetryConfig} {l : ProviderRequestLease}

theorem retryLimit_le (diagnostic : Option ProviderFailureDiagnostic) :
    retryLimit envelope config diagnostic ≤ config.maxRetries := by
  unfold retryLimit
  split
  · exact Int.min_le_left _ _
  · exact Int.le_refl _

theorem routeNamed_harmless {e : PyError} (missing : routeNamed envelope r = .error e) :
    TurnError.isIntegrityOrTransition (.python e) = false := by
  unfold routeNamed at missing
  split at missing
  · cases missing
  · cases missing
    rfl

variable {post : TurnWorld R → Except TurnError Unit → Prop}

theorem turns_delay (sound : Sound host envelope limit w) (ordinal : Nat) (waited : post w (.ok ()))
    (failed : ∀ e : PyError, TurnError.isIntegrityOrTransition (.python e) = false →
      post w (.error (.python e))) : Turns host envelope limit w (delay ordinal) post := by
  rintro answer w' ⟨happening, possible, served⟩
  obtain ⟨rfl, rfl⟩ := Prod.mk.inj served
  refine ⟨sound, ?_⟩
  cases outcome : happening.delay with
  | ok u => exact waited
  | error e =>
    apply failed
    rcases possible.delay e outcome with ⟨m, rfl⟩ | ⟨m, rfl⟩
    · rfl
    · rfl

variable (plain : PlainTexts host) (envelopeMade : envelope.Made host)

include plain envelopeMade

section

variable (sound : Sound host envelope limit w)

include sound

/-- A classified failure of a send that was claimed now: it is recorded, unless it is a
previous-response failure of a retry. -/
theorem turns_passFailure (pending : Pending envelope w r n l)
    (settled : Settled codec envelope w₀ w₁) (unclaimed : w₁.lease envelope r n = none)
    {sent : Sent R} (touches : Touches envelope w₁ w r n [sent])
    {kind : ExactProviderRouteFailureKind} {original : ProviderException}
    (outcome : sent.outcome = .failure kind original) (notDurable : original.durable = false)
    (primary : kind = .previousResponseFallback → r = .primary) :
    Turns host envelope limit w (passFailure host envelope config n l kind original)
      (PassEnds codec envelope w₀ r n) := by
  -- a recorded failure settles the send
  have recorded : ∀ l', l'.subject = envelope.subject r n → l'.status = .failed → ¬ sent.Late →
      Settled codec envelope w₀ (w.storeLease l') := by
    intro l' subject failed punctual
    refine settled.touch (touches.storeLease subject) ?_ ?_ ?_ ?_
    · intro x found
      rw [unclaimed] at found
      cases found
    · intro s mem
      rw [List.mem_singleton] at mem
      rw [mem]
      exact punctual
    · intro _ _ _
      exact ⟨l', lease_storeLease_same subject, failed⟩
    · intro x found started
      rw [lease_storeLease_same subject] at found
      cases found
      rw [failed] at started
      cases started
  unfold passFailure
  simp only [notDurable, Bool.false_eq_true, if_false]
  cases kind with
  | transientRetrySafe =>
    have punctual : ¬ sent.Late := by
      rintro ⟨-, x, same⟩
      rw [outcome] at same
      cases same
    refine keeps_bind (turns_recordFailure plain envelopeMade sound pending (fun other => ?_)
      fun l' subject failed silent retryable classified after => ?_)
    · cases other
    have done := recorded l' subject failed punctual
    split
    · next below =>
        refine keeps_bind (turns_delay after (n + 1) ?_ fun e harmless => ?_)
        · refine ⟨done, lease_storeLease_same subject, failed, ?_, silent, classified⟩
          rw [retryable]
          exact decide_eq_true below
        · exact ends_error done harmless
    · split
      · exact ends_error done rfl
      · exact ends_error done rfl
  | previousResponseFallback =>
    have isPrimary := primary rfl
    by_cases first : n = 0
    · have punctual : ¬ sent.Late := by
        rintro ⟨later, -⟩
        rw [(touches.here sent (List.mem_singleton_self _)).2] at later
        exact later first
      refine keeps_bind (turns_recordFailure plain envelopeMade sound pending
        (fun _ => ⟨rfl, isPrimary, first⟩)
        fun l' subject failed silent retryable classified _ => ?_)
      have done := recorded l' subject failed punctual
      refine ⟨done, isPrimary, ?_, failed, retryable, silent, classified⟩
      have here := lease_storeLease_same (w := w) subject
      rw [isPrimary, first] at here
      exact here
    · refine keeps_bind (turns_recordFailure_refused plain sound pending first ?_)
      refine Or.inl ⟨rfl, sent, ?_, ⟨?_, original, outcome⟩, l, ?_, pending.started⟩
      · rw [sendsSince, touches.sends, settled.grown, List.append_assoc, List.drop_left]
        exact List.mem_append_right _ (List.mem_singleton_self _)
      · rw [(touches.here sent (List.mem_singleton_self _)).2]
        exact first
      · obtain ⟨sameRoute, sameOrdinal⟩ := touches.here sent (List.mem_singleton_self _)
        rw [sameRoute, sameOrdinal]
        exact pending.found
  | terminal =>
    have punctual : ¬ sent.Late := by
      rintro ⟨-, x, same⟩
      rw [outcome] at same
      cases same
    refine keeps_bind (turns_recordFailure plain envelopeMade sound pending (fun other => ?_)
      fun l' subject failed silent retryable classified _ => ?_)
    · cases other
    exact ends_error (recorded l' subject failed punctual) rfl

theorem turns_passSend (pending : Pending envelope w r n l)
    (named : routeNamed envelope r = .ok route) (within : (n : Int) ≤ limit)
    (settled : Settled codec envelope w₀ w₁) (unclaimed : w₁.lease envelope r n = none)
    (unsent : (r, n) ∉ w₁.sends.map fun s => (s.route, s.retryOrdinal))
    (touches : Touches envelope w₁ w r n []) :
    Turns host envelope limit w (passSend host codec envelope route config n l)
      (PassEnds codec envelope w₀ r n) := by
  obtain ⟨routeName, -⟩ := routeSha256_made envelopeMade named
  rintro answer w' ⟨happening, -, served⟩
  obtain ⟨rfl, rfl⟩ := Prod.mk.inj served
  generalize outcomeEq : exactSend envelope.provider route happening.fetched = outcome
  let sent : Sent R := ⟨route.name, n, outcome⟩
  have sends : w.sends = w₁.sends := by simpa using touches.sends
  have fresh : (r, n) ∉ w.sends.map fun s => (s.route, s.retryOrdinal) := by
    rw [sends]
    exact unsent
  have after : Sound host envelope limit (w.logSend sent) :=
    sound.send pending.found fresh within routeName rfl
  have pendingAfter : Pending envelope (w.logSend sent) r n l :=
    ⟨pending.found, pending.started, pending.certain, pending.noResult⟩
  have touchesAfter : Touches envelope w₁ (w.logSend sent) r n [sent] := by
    constructor
    · exact touches.others
    · rw [TurnWorld.logSend, sends]
    · intro s mem
      rw [List.mem_singleton] at mem
      rw [mem]
      exact ⟨routeName, rfl⟩
  have notFailed : ∀ x, w₁.lease envelope r n = some x → x.status ≠ .failed := by
    intro x found
    rw [unclaimed] at found
    cases found
  -- a send that leaves its lease open settles as such
  have leftOpen : ∀ w'' : TurnWorld R, Touches envelope w₁ w'' r n [sent] →
      outcome.LeavesOpen codec → Settled codec envelope w₀ w'' := by
    intro w'' touched leavesOpen
    refine settled.touch touched notFailed ?_ ?_ ?_
    · intro s mem
      rw [List.mem_singleton] at mem
      rw [mem]
      rintro ⟨-, x, same⟩
      have : outcome = .failure .previousResponseFallback x := same
      rw [this] at leavesOpen
      exact leavesOpen
    · intro s mem
      rw [List.mem_singleton] at mem
      rw [mem]
      rintro ⟨kind, x, same⟩
      have : outcome = .failure kind x := same
      rw [this] at leavesOpen
      exact leavesOpen.elim
    · intro _ _ _
      exact ⟨sent, List.mem_singleton_self _, leavesOpen⟩
  refine ⟨after, ?_⟩
  cases outcome with
  | failure kind original =>
    obtain ⟨notDurable, primary⟩ := exactSend_failure outcomeEq
    exact turns_passFailure plain envelopeMade after pendingAfter settled unclaimed touchesAfter
      rfl notDurable fun same => routeName.symm.trans (primary same)
  | raised error =>
    show Turns host envelope limit _ (if _ then _ else _) _
    split
    · exact ends_error (leftOpen _ touchesAfter trivial) rfl
    · exact turns_raiseUncertain plain envelopeMade after pendingAfter _ fun l' subject _ =>
        ends_error (leftOpen _ (touchesAfter.storeLease subject) trivial) rfl
  | notResult =>
    exact turns_raiseUncertain plain envelopeMade after pendingAfter _ fun l' subject _ =>
      ends_error (leftOpen _ (touchesAfter.storeLease subject) trivial) rfl
  | result result =>
    refine keeps_bind (turns_persistResult plain envelopeMade after codec pendingAfter result
      (fun e invalid l' _ subject _ => ?_) fun receipt l' subject completed => ?_)
    · exact ends_error (leftOpen _ (touchesAfter.storeLease subject) ⟨e, invalid⟩) rfl
    · have stored : Touches envelope w₁ ((w.logSend sent).storeResult receipt) r n [sent] :=
        ⟨touchesAfter.others, touchesAfter.sends, touchesAfter.here⟩
      refine settled.touch (stored.storeLease subject) notFailed ?_ ?_ ?_
      · intro s mem
        rw [List.mem_singleton] at mem
        rw [mem]
        rintro ⟨-, x, same⟩
        cases same
      · intro s mem
        rw [List.mem_singleton] at mem
        rw [mem]
        rintro ⟨kind, x, same⟩
        cases same
      · intro x found started
        rw [lease_storeLease_same subject] at found
        cases found
        rw [completed] at started
        cases started

theorem turns_delayRecovered (named : routeNamed envelope r = .ok route) (waited : post w (.ok ()))
    (failed : ∀ e : TurnError, e.isIntegrityOrTransition = false → post w (.error e)) :
    Turns host envelope limit w (delayRecovered host envelope route config l n) post := by
  obtain ⟨routeName, -⟩ := routeSha256_made envelopeMade named
  unfold delayRecovered
  split
  · rw [routeName]
    by_cases bounded : n ≤ maxProviderRequestRetryOrdinal
    · refine turns_computed_bind (subject_make plain envelopeMade r bounded)
        (keeps_bind (turns_inspectSubject sound named ?_))
      cases w.lease envelope r n with
      | some next => exact waited
      | none =>
        split
        · exact failed _ rfl
        · exact turns_delay sound n waited fun e harmless => failed _ harmless
    · obtain ⟨m, refused⟩ := subject_past_last plain envelopeMade (Nat.lt_of_not_le bounded)
      exact turns_computed_error refused (failed _ rfl)
  · exact waited

theorem turns_passFailed (named : routeNamed envelope r = .ok route)
    (settled : Settled codec envelope w₀ w) (found : w.lease envelope r n = some l)
    (failed : l.status = .failed) :
    Turns host envelope limit w (passFailed host envelope route config n l)
      (PassEnds codec envelope w₀ r n) := by
  unfold passFailed
  split
  · next fallsBack =>
      obtain ⟨isPrimary, isFirst, facts⟩ := sound.fallsBack found failed fallsBack
      cases fallbackRoute : routeNamed envelope .openaiPreviousResponseFallback with
      | error e =>
        exact turns_computed_error rfl (ends_error settled (routeNamed_harmless fallbackRoute))
      | ok fallbackRoute =>
        refine turns_computed_bind rfl ⟨settled, isPrimary, ?_, facts⟩
        rw [isPrimary, isFirst] at found
        exact found
  · split
    · next retries =>
        simp only [Bool.and_eq_true, decide_eq_true_eq, Bool.not_eq_true'] at retries
        obtain ⟨⟨classified, retryable⟩, silent⟩ := retries
        refine keeps_bind (turns_delayRecovered plain envelopeMade sound named ?_ ?_)
        · exact ⟨settled, found, failed, retryable, silent, classified⟩
        · exact fun e harmless => ends_error settled harmless
    · exact ends_error settled rfl

theorem turns_passRecorded (named : routeNamed envelope r = .ok route)
    (settled : Settled codec envelope w₀ w) (found : w.lease envelope r n = some l) :
    Turns host envelope limit w (passLease host codec envelope route config n l
      (w.results envelope r n).head? false) (PassEnds codec envelope w₀ r n) := by
  rcases sound.results r n with none | ⟨receipt, l', one, found', receives⟩
  · rw [none]
    simp only [List.head?_nil, passLease]
    cases status : l.status with
    | completed => exact absurd none (sound.completed found status)
    | started => exact ends_error settled rfl
    | failed => exact turns_passFailed plain envelopeMade sound named settled found status
  · rw [found] at found'
    cases found'
    rw [one]
    refine keeps_bind (turns_recoverOrComplete plain envelopeMade sound codec found one receives
      (fun _ => settled) fun started l' subject completed _ => ?_)
    have touches : Touches envelope w (w.storeLease l') r n [] := by
      constructor
      · intro r' n' other
        exact lease_storeLease_other subject other
      · simp
      · simp
    refine settled.touch touches ?_ ?_ ?_ ?_
    · intro x here
      rw [found] at here
      cases here
      simp [started]
    · simp
    · simp
    · intro x here isStarted
      rw [lease_storeLease_same subject] at here
      cases here
      rw [completed] at isStarted
      cases isStarted

end

variable {fallbackParent previous : Option ProviderRequestLease}

theorem turns_pass (sound : Sound host envelope limit w) (named : routeNamed envelope r = .ok route)
    (allowed : config.maxRetries ≤ limit) (bounded : n ≤ maxProviderRequestRetryOrdinal)
    (prepared : Prepared envelope w r n previous fallbackParent)
    (settled : Settled codec envelope w₀ w) : Turns host envelope limit w
      (TurnRuntime.pass host codec envelope route config fallbackParent previous n)
      (PassEnds codec envelope w₀ r n) := by
  obtain ⟨routeName, -⟩ := routeSha256_made envelopeMade named
  unfold TurnRuntime.pass
  rw [routeName]
  refine turns_computed_bind (subject_make plain envelopeMade r bounded)
    (keeps_bind (turns_inspectSubject sound named ?_))
  cases found : w.lease envelope r n with
  | some l => exact turns_passRecorded plain envelopeMade sound named settled found
  | none =>
    refine keeps_raiseIf_bind (fun below => ?_) fun _ => ends_error settled rfl
    refine keeps_bind (turns_claim plain envelopeMade sound named bounded found prepared
      fun operation => ?_)
    have subject : (claimed envelope r n route operation).subject = envelope.subject r n := rfl
    have within : (n : Int) ≤ limit := by
      have small := @retryLimit_le envelope config (previous.bind (·.failureDiagnostic))
      simp only [decide_eq_false_iff_not] at below
      omega
    have after : Sound host envelope limit (w.storeLease (claimed envelope r n route operation)) :=
      sound.claim named bounded found (prepared.admits sound) subject rfl rfl
    have pending : Pending envelope (w.storeLease (claimed envelope r n route operation)) r n
        (claimed envelope r n route operation) :=
      ⟨lease_storeLease_same subject, rfl, rfl, sound.results_of_unclaimed found⟩
    have touches : Touches envelope w (w.storeLease (claimed envelope r n route operation)) r n
        [] := by
      constructor
      · intro r' n' other
        exact lease_storeLease_other subject other
      · simp
      · simp
    exact turns_passSend plain envelopeMade after pending named within settled found
      (sound.unsent found) touches

/-! ### Every pass -/

theorem turns_routeLoop (named : routeNamed envelope r = .ok route)
    (allowed : config.maxRetries ≤ limit)
    {fallBack : ProviderRequestLease → TurnProg R (DurableProviderTurnOutcome R)}
    (falls : ∀ w primary, Sound host envelope limit w → Settled codec envelope w₀ w →
      r = .primary → w.lease envelope .primary 0 = some primary →
      primary.FailedAs .previousResponseFallback →
        Turns host envelope limit w (fallBack primary) (Ends codec envelope w₀)) {left : Nat}
    (bounded : left ≤ maxProviderRequestRetryOrdinal + 1) (sound : Sound host envelope limit w)
    (settled : Settled codec envelope w₀ w)
    (prepared : Prepared envelope w r (maxProviderRequestRetryOrdinal + 1 - left) previous
      fallbackParent) : Turns host envelope limit w
      (routeLoop host codec envelope route config fallbackParent fallBack left previous)
      (Ends codec envelope w₀) := by
  induction left generalizing w previous with
  | zero =>
    obtain ⟨m, refused⟩ := subject_past_last plain envelopeMade (Nat.lt_succ_self _)
    exact turns_computed_error refused (ends_error settled rfl)
  | succ left ih =>
    have here : maxProviderRequestRetryOrdinal + 1 - (left + 1)
        = maxProviderRequestRetryOrdinal - left := by omega
    rw [here] at prepared
    have passed := turns_pass plain envelopeMade sound named allowed
      (Nat.sub_le _ left) prepared settled
    refine keeps_bind ((passed.with_inv sound).mono fun w' x => ?_)
    rintro ⟨after, ended⟩
    cases x with
    | error e => exact ended.error
    | ok ended' =>
      cases ended' with
      | done outcome =>
        refine Or.inr ⟨ended, ?_⟩
        rintro e ⟨⟩
      | fallBack primary =>
        obtain ⟨done, isPrimary, found, failed⟩ := ended
        exact falls w' primary after done isPrimary found failed
      | retry l =>
        obtain ⟨done, found, failed⟩ := ended
        refine ih (by omega) after done ?_
        have next : maxProviderRequestRetryOrdinal + 1 - left
            = (maxProviderRequestRetryOrdinal - left) + 1 := by omega
        rw [next]
        constructor
        · intro k same
          obtain rfl : maxProviderRequestRetryOrdinal - left = k := Nat.succ.inj same
          exact ⟨l, rfl, found, failed⟩
        · intro zero
          cases zero

theorem turns_executeFallback (allowed : config.maxRetries ≤ limit)
    (sound : Sound host envelope limit w) (settled : Settled codec envelope w₀ w)
    {primary : ProviderRequestLease} (found : w.lease envelope .primary 0 = some primary)
    (failed : primary.FailedAs .previousResponseFallback) :
    Turns host envelope limit w (executeFallback host codec envelope config primary)
      (Ends codec envelope w₀) := by
  unfold executeFallback
  cases named : routeNamed envelope .openaiPreviousResponseFallback with
  | error e =>
    exact turns_computed_error rfl (ends_error settled (routeNamed_harmless named))
  | ok route =>
    refine turns_computed_bind rfl (keeps_raiseIf_bind (fun _ => ?_) fun refused => ?_)
    · refine turns_routeLoop plain envelopeMade named allowed ?_ (Nat.le_refl _) sound settled ?_
      · intro _ _ _ _ other
        cases other
      · rw [Nat.sub_self]
        constructor
        · intro k zero
          cases zero
        · intro _ _
          exact ⟨primary, rfl, found, failed⟩
    · have subject := lease_subject found
      simp [isFallbackParent, subject, ProviderWireEnvelope.subject, failed.failed,
        failed.classified] at refused

theorem turns_executePrimary (allowed : config.maxRetries ≤ limit)
    (sound : Sound host envelope limit w) :
    Turns host envelope limit w (executePrimary host codec envelope config)
      (Ends codec envelope w) := by
  unfold executePrimary
  cases named : routeNamed envelope .primary with
  | error e =>
    exact turns_computed_error rfl (ends_error Settled.start (routeNamed_harmless named))
  | ok route =>
    refine turns_computed_bind rfl (turns_routeLoop plain envelopeMade named allowed ?_
      (Nat.le_refl _) sound Settled.start ?_)
    · intro w' primary after done _ found failed
      exact turns_executeFallback plain envelopeMade allowed after done found failed
    · rw [Nat.sub_self]
      constructor
      · intro k zero
        cases zero
      · intro _ other
        cases other

theorem turns_executeClosed (sound : Sound host envelope limit w) :
    Turns host envelope limit w (executeClosed (R := R) host envelope) (Ends codec envelope w) := by
  unfold executeClosed
  cases named : routeNamed envelope .primary with
  | error e =>
    exact turns_computed_error rfl (ends_error Settled.start (routeNamed_harmless named))
  | ok route =>
    obtain ⟨routeName, -⟩ := routeSha256_made envelopeMade named
    refine turns_computed_bind rfl ?_
    rw [routeName]
    refine turns_computed_bind (subject_make plain envelopeMade .primary (Nat.zero_le _)) ?_
    refine keeps_bind (turns_inspectSubject sound named ?_)
    refine keeps_raiseIf_bind (fun _ => ?_) fun _ => ends_error Settled.start rfl
    refine Or.inr ⟨Settled.start, ?_⟩
    rintro e ⟨⟩

/-- Every call of `execute` keeps the records sound, and ends settled or refused. -/
theorem turns_execute (allowed : config.maxRetries ≤ limit) (sound : Sound host envelope limit w)
    (executionId : String) (mode : DurableProviderTurnMode) :
    Turns host envelope limit w (execute host codec executionId mode envelope config)
      (Ends codec envelope w) := by
  unfold execute
  cases valid : validateRetryConfig config with
  | error e =>
    refine turns_computed_error rfl (ends_error Settled.start ?_)
    simp only [validateRetryConfig, Effect.raiseIf] at valid
    split_ifs at valid <;> cases valid <;> rfl
  | ok u =>
    refine turns_computed_bind rfl (keeps_raiseIf_bind (fun _ => ?_) fun _ =>
      ends_error Settled.start rfl)
    split
    · refine keeps_bind ((turns_executePrimary plain envelopeMade allowed sound).mono
        fun w' x => ?_)
      intro ended
      cases x with
      | error e => exact ended.error
      | ok outcome =>
        rcases ended with ⟨same, -⟩ | ⟨settled, -⟩
        · cases same
        · refine Or.inr ⟨settled, ?_⟩
          rintro e ⟨⟩
    · exact turns_executeClosed plain envelopeMade sound

end Passes

end Unchain.Providers
