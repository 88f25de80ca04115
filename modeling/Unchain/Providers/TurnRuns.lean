import Unchain.Providers.TurnSettles

/-!
Every run of durable provider turns for one envelope.

A result that is durable is what every later call returns. With what one call settles, this gives
what holds in every run: at most one send for each ordinal, a bounded number for each route, and no
two sends with one physical ordinal.
-/

namespace Unchain.Providers

open Lib Lib.Process Lib.Interrupted Journal Python
open TurnRuntime

variable {R : Type}

/-! ### A durable result -/

section Recovering

variable {host : Host} {codec : ResultCodec R} {envelope : ProviderWireEnvelope} {limit : Int}
  {w : TurnWorld R} {r : ProviderRoute} {m n : Nat} {route : ProviderWireRoute}
  {config : RetryConfig} {l : ProviderRequestLease} {receipt : ProviderTurnResultReceipt}

theorem Sound.below (sound : Sound host envelope limit w) (found : w.lease envelope r m = some l)
    {k : Nat} (lower : k < m) : ∃ p, w.lease envelope r k = some p ∧ p.FailedAs .transient := by
  induction m generalizing l with
  | zero => omega
  | succ m ih =>
    obtain ⟨p, here, failed⟩ := sound.retried found
    rcases Nat.lt_or_ge k m with below | above
    · exact ih here below
    · obtain rfl : k = m := by omega
      exact ⟨p, here, failed⟩

theorem Sound.no_result (sound : Sound host envelope limit w)
    (found : w.lease envelope r n = some l) (failed : l.status = .failed) :
    w.results envelope r n = [] := by
  rcases sound.results r n with none | ⟨receipt, l', -, found', receives⟩
  · exact none
  · rw [found] at found'
    cases found'
    rcases receives.status with started | completes
    · rw [failed] at started
      cases started
    · have completed := completes.completed
      rw [failed] at completed
      cases completed

/-- The result of a receipt is returned, and nothing was sent. -/
def Recovered (codec : ResultCodec R) (receipt : ProviderTurnResultReceipt) (w w' : TurnWorld R)
    (x : Except TurnError (DurableProviderTurnOutcome R)) : Prop :=
  w'.sends = w.sends ∧ x = .ok ⟨codec.restore receipt.envelope.result, true⟩

variable (plain : PlainTexts host) (envelopeMade : envelope.Made host)

include plain envelopeMade

section

variable (sound : Sound host envelope limit w)

include sound

section

variable (named : routeNamed envelope r = .ok route)

include named

theorem turns_pass_retried {fallbackParent previous next : _}
    (found : w.lease envelope r n = some l) (failed : l.FailedAs .transient)
    (retried : w.lease envelope r (n + 1) = some next) : Turns host envelope limit w
      (TurnRuntime.pass host codec envelope route config fallbackParent previous n)
      fun w' x => w' = w ∧ x = .ok (.retry l) := by
  obtain ⟨routeName, -⟩ := routeSha256_made envelopeMade named
  unfold TurnRuntime.pass
  rw [routeName]
  refine turns_computed_bind (subject_make plain envelopeMade r (sound.bounded found))
    (keeps_bind (turns_inspectSubject sound named ?_))
  rw [found, sound.no_result found failed.failed]
  simp only [either, List.head?_nil, passLease, failed.failed, passFailed, failed.classified,
    failed.retryable, failed.silent]
  refine keeps_bind ?_
  unfold delayRecovered
  split
  · rw [routeName]
    refine turns_computed_bind (subject_make plain envelopeMade r (sound.bounded retried))
      (keeps_bind (turns_inspectSubject sound named ?_))
    rw [retried]
    exact ⟨rfl, rfl⟩
  · exact ⟨rfl, rfl⟩

/-- A pass over the ordinal whose result is durable returns it. -/
theorem turns_pass_received {fallbackParent previous : _} (one : w.results envelope r n = [receipt]) :
    Turns host envelope limit w
      (TurnRuntime.pass host codec envelope route config fallbackParent previous n)
      fun w' x => w'.sends = w.sends ∧
        x = .ok (.done ⟨codec.restore receipt.envelope.result, true⟩) := by
  obtain ⟨routeName, -⟩ := routeSha256_made envelopeMade named
  rcases sound.results r n with none | ⟨receipt', l, one', found, receives⟩
  · rw [none] at one
    cases one
  · rw [one] at one'
    cases one'
    unfold TurnRuntime.pass
    rw [routeName]
    refine turns_computed_bind (subject_make plain envelopeMade r (sound.bounded found))
      (keeps_bind (turns_inspectSubject sound named ?_))
    rw [found, one]
    refine keeps_bind (turns_recoverOrComplete plain envelopeMade sound codec found one receives
      (fun _ => ⟨rfl, rfl⟩) fun _ l' _ _ _ => ⟨rfl, rfl⟩)

theorem turns_routeLoop_recovers {fallbackParent : Option ProviderRequestLease}
    {fallBack : ProviderRequestLease → TurnProg R (DurableProviderTurnOutcome R)}
    (one : w.results envelope r m = [receipt]) {left : Nat}
    (bounded : left ≤ maxProviderRequestRetryOrdinal + 1)
    (upTo : maxProviderRequestRetryOrdinal + 1 - left ≤ m) {previous : Option ProviderRequestLease} :
    Turns host envelope limit w
      (routeLoop host codec envelope route config fallbackParent fallBack left previous)
      (Recovered codec receipt w) := by
  obtain ⟨last, foundLast⟩ : ∃ last, w.lease envelope r m = some last := by
    rcases sound.results r m with none | ⟨_, last, -, found, -⟩
    · rw [none] at one
      cases one
    · exact ⟨last, found⟩
  have inRange := sound.bounded foundLast
  induction left generalizing previous with
  | zero => omega
  | succ left ih =>
    have here : maxProviderRequestRetryOrdinal + 1 - (left + 1)
        = maxProviderRequestRetryOrdinal - left := by omega
    rcases Nat.lt_or_ge (maxProviderRequestRetryOrdinal - left) m with lower | above
    · obtain ⟨l, found, failed⟩ := sound.below foundLast lower
      obtain ⟨next, retried⟩ : ∃ next,
          w.lease envelope r (maxProviderRequestRetryOrdinal - left + 1) = some next := by
        rcases Nat.lt_or_ge (maxProviderRequestRetryOrdinal - left + 1) m with lower | above
        · obtain ⟨p, there, -⟩ := sound.below foundLast lower
          exact ⟨p, there⟩
        · obtain rfl : m = maxProviderRequestRetryOrdinal - left + 1 := by omega
          exact ⟨last, foundLast⟩
      refine keeps_bind ((turns_pass_retried plain envelopeMade sound named found failed
        retried).mono fun w' x => ?_)
      rintro ⟨rfl, rfl⟩
      exact ih (by omega) (by omega)
    · obtain rfl : m = maxProviderRequestRetryOrdinal - left := by omega
      refine keeps_bind ((turns_pass_received plain envelopeMade sound named one).mono
        fun w' x => ?_)
      rintro ⟨same, rfl⟩
      exact ⟨same, rfl⟩

end

theorem turns_executePrimary_recovers (one : w.results envelope r m = [receipt]) :
    Turns host envelope limit w (executePrimary host codec envelope config)
      (Recovered codec receipt w) := by
  obtain ⟨last, foundLast⟩ : ∃ last, w.lease envelope r m = some last := by
    rcases sound.results r m with none | ⟨_, last, -, found, -⟩
    · rw [none] at one
      cases one
    · exact ⟨last, found⟩
  cases r with
  | primary =>
    obtain ⟨route, named, -⟩ := sound.route foundLast
    exact turns_computed_bind named (turns_routeLoop_recovers plain envelopeMade sound named one
      (Nat.le_refl _) (by omega))
  | openaiPreviousResponseFallback =>
    -- the primary route failed at its first send, and its failure leads to the fallback
    obtain ⟨fallback, fallbackNamed, -⟩ := sound.route foundLast
    obtain ⟨p, found, failed⟩ := sound.fellBack foundLast
    obtain ⟨route, named, -⟩ := sound.route found
    obtain ⟨routeName, -⟩ := routeSha256_made envelopeMade named
    refine turns_computed_bind named ?_
    unfold routeLoop TurnRuntime.pass
    have first : maxProviderRequestRetryOrdinal - maxProviderRequestRetryOrdinal = 0 :=
      Nat.sub_self _
    rw [first, routeName]
    refine keeps_bind (turns_computed_bind
      (subject_make plain envelopeMade .primary (Nat.zero_le _))
      (keeps_bind (turns_inspectSubject sound named ?_)))
    rw [found, sound.no_result found failed.failed]
    simp only [either, List.head?_nil, passLease, failed.failed, passFailed, failed.classified]
    refine turns_computed_bind fallbackNamed ?_
    refine turns_computed_bind fallbackNamed (keeps_raiseIf_bind (fun _ => ?_) fun refused => ?_)
    · exact turns_routeLoop_recovers plain envelopeMade sound fallbackNamed one
        (Nat.le_refl _) (by omega)
    · have subject := lease_subject found
      simp [isFallbackParent, subject, ProviderWireEnvelope.subject, failed.failed,
        failed.classified] at refused

theorem turns_execute_recovers (one : w.results envelope r m = [receipt])
    {mode : DurableProviderTurnMode} (enforces : mode.enforces = true)
    (valid : validateRetryConfig config = .ok ()) : Turns host envelope limit w
      (execute host codec envelope.attempt.generation.executionId mode envelope config)
      fun w' x => w'.sends = w.sends ∧
        x = .ok (some ⟨codec.restore receipt.envelope.result, true⟩) := by
  refine turns_computed_bind valid (keeps_raiseIf_bind (fun _ => ?_) fun other => ?_)
  · rw [if_pos enforces]
    refine keeps_bind ((turns_executePrimary_recovers plain envelopeMade sound one).mono
      fun w' x => ?_)
    rintro ⟨same, rfl⟩
    exact ⟨same, rfl⟩
  · simp at other

end

end Recovering

/-! ### The store always answers -/

/-- A reference that every host accepts. -/
def plainArtifact : ArtifactRef :=
  ⟨⟨"artifact", "result", 1, ""⟩, "application/json", 0,
    "0000000000000000000000000000000000000000000000000000000000000000", ""⟩

def plainCursor : EventCursor := ⟨0, "result"⟩

theorem storedResult_plain {host : Host} (plain : PlainTexts host) :
    StoredResult host plainArtifact plainCursor := by
  have artifactText : requiredIdentifier host "kind" (.str "artifact") = .ok "artifact" := by
    apply requiredIdentifier_plain plain <;> decide
  have resultText (field : String) : requiredIdentifier host field (.str "result") = .ok "result" := by
    apply requiredIdentifier_plain plain <;> decide
  have media : requiredText host 255 false "media_type" (.str "application/json")
      = .ok "application/json" := by
    have stripped : strip "application/json" = "application/json" := by decide
    have normal : host.nfc "application/json" = "application/json" := plain.nfc_ascii _ (by decide)
    simp only [requiredText, stripped, normal]
    decide
  have ref : ResourceRef.fromDict host plainArtifact.ref.toDict = .ok plainArtifact.ref := by
    show ResourceRef.make host (.str "artifact") (.str "result") (.int 1) (.str "") = _
    rw [ResourceRef.make, artifactText]
    rw [resultText]
    rfl
  constructor
  · show (ResourceRef.fromDict host plainArtifact.ref.toDict >>= fun _ => _) = _
    rw [ref]
    show ArtifactRef.make host plainArtifact.ref (.str "application/json") (.int 0)
      (.str plainArtifact.sha256) (.str "") = _
    rw [ArtifactRef.make, media]
    rfl
  · rfl
  · rfl
  · rfl
  · rfl
  · show EventCursor.make host (.int 0) (.str "result") = _
    show (requiredIdentifier host "event_id" (.str "result") >>= fun _ => _) = _
    rw [resultText]
    rfl

theorem turnService_answers {host : Host} (plain : PlainTexts host) (w : TurnWorld R)
    (c : TurnCmd) : ∃ answer w', turnService R host w c answer w' := by
  refine ⟨_, _, ⟨.returnedOther, plainArtifact, plainCursor, .ok ()⟩,
    ⟨storedResult_plain plain, ?_⟩, rfl⟩
  rintro e ⟨⟩

/-- Sends are never taken back. -/
theorem sends_grow {α : Type} {host : Host} {w w' : TurnWorld R} {p q : TurnProg R α}
    (run : Runs (turnService R host) w p w' q) : w.sends <+: w'.sends := by
  induction run with
  | here => exact List.prefix_rfl
  | @next w w' w'' c k answer q answered _ ih =>
    refine List.IsPrefix.trans ?_ ih
    obtain ⟨happening, -, served⟩ := answered
    obtain rfl : (w.serve happening c).2 = w' := by rw [served]
    cases c with
    | lease c =>
      cases c with
      | load subject | send subject => exact List.prefix_rfl
      | compareAndSwap subject expectedRevision replacement =>
        simp only [TurnWorld.serve, TurnWorld.answerLease]
        split <;> exact List.prefix_rfl
    | lookupReceipts subject | delay ordinal => exact List.prefix_rfl
    | persistResult lease envelope =>
      simp only [TurnWorld.serve, TurnWorld.persist]
      split
      · exact List.prefix_rfl
      · split
        · exact List.prefix_rfl
        · split <;> exact List.prefix_rfl
    | send provider route ordinal => exact List.prefix_append _ _

/-! ### Every run -/

/-- How a call of `execute` that is not cut off ends. -/
structure Settles {α : Type} (codec : ResultCodec R) (envelope : ProviderWireEnvelope)
    (w w' : TurnWorld R) (x : Except TurnError α) : Prop where
  /-- Every failure that the transport classified leaves its lease failed. -/
  failed : ∀ s ∈ sendsSince w w', s.outcome.Classified →
    ∃ l, w'.lease envelope s.route s.retryOrdinal = some l ∧ l.status = .failed
  /-- A lease is left started only where it was found so, or after an exception that was not
  classified or a result that was not valid. -/
  started : ∀ r n l, w'.lease envelope r n = some l → l.status = .started →
    w.lease envelope r n = some l ∨ ∃ s ∈ sendsSince w w', s.route = r ∧ s.retryOrdinal = n ∧
      s.outcome.LeavesOpen codec
  /-- It ends in no integrity or transition error. -/
  harmless : ∀ e, x = .error e → e.isIntegrityOrTransition = false

/-- What holds after any number of calls of `execute` for one envelope. -/
structure TurnsHold (host : Host) (codec : ResultCodec R) (envelope : ProviderWireEnvelope)
    (configs : List RetryConfig) (w : TurnWorld R) : Prop where
  /-- Each ordinal of a route is sent at most once. -/
  sentOnce : (w.sends.map fun s => (s.route, s.retryOrdinal)).Nodup
  /-- Each route is sent at most `max_retries + 1` times. -/
  budget : ∀ maxRetries : Nat, (∀ config ∈ configs, config.maxRetries ≤ maxRetries) →
    ∀ route, (w.sends.filter fun s => s.route = route).length ≤ maxRetries + 1
  /-- No two sends have one physical ordinal. -/
  physical : (w.sends.map fun s => physicalOrdinal s.route s.retryOrdinal).Nodup
  /-- Once a result is durable, every later call returns it without sending. -/
  recovers : ∀ receipt ∈ w.receipts, ∀ route n,
    receipt.envelope.subject = envelope.subject route n → ∀ mode config, mode.enforces = true →
      validateRetryConfig config = .ok () → ∀ w' q, Runs (turnService R host) w
        (execute host codec envelope.attempt.generation.executionId mode envelope config) w' q →
        w'.sends = w.sends ∧
        (∃ w'' q' x, Runs (turnService R host) w' q w'' q' ∧ ended q' = some x) ∧
        ∀ x, ended q = some x → x = .ok (some ⟨codec.restore receipt.envelope.result, true⟩)
  /-- A call that is not cut off settles, unless a retry of the primary route ended in a
  previous-response failure. -/
  settles : ∀ executionId mode config w' q x, Runs (turnService R host) w
    (execute host codec executionId mode envelope config) w' q → ended q = some x →
      (Settles codec envelope w w' x ↔ ∀ s ∈ sendsSince w w', ¬ s.Late)

section Runs

variable {host : Host} {codec : ResultCodec R} {envelope : ProviderWireEnvelope}
  {configs : List RetryConfig} {w : TurnWorld R}

theorem sound_of_run (plain : PlainTexts host) (made : envelope.Made host)
    (run : TurnRun host codec envelope configs w) {limit : Int}
    (allowed : ∀ config ∈ configs, config.maxRetries ≤ limit) : Sound host envelope limit w := by
  induction run with
  | fresh sends unclaimed unstored =>
    constructor
    · intro r n l found
      cases (unclaimed r n).symm.trans found
    · intro r n l found
      cases (unclaimed r n).symm.trans found
    · intro r n l found
      cases (unclaimed r n).symm.trans found
    · intro r n l found
      cases (unclaimed r (n + 1)).symm.trans found
    · intro n l found
      cases (unclaimed _ n).symm.trans found
    · intro r n
      exact Or.inl (unstored r n)
    · intro r n l found
      cases (unclaimed r n).symm.trans found
    · simp [sends]
    · simp [sends]
    · simp [sends]
  | @execute configs w w' executionId mode config q _ run ih =>
    have before := ih fun config mem => allowed config (List.mem_append_left _ mem)
    have this : config.maxRetries ≤ limit := allowed config (by simp)
    exact ((turns_execute plain made this before executionId mode).along run before).1

/-- A bound on the retries of finitely many calls. -/
theorem exists_limit (configs : List RetryConfig) :
    ∃ limit : Int, ∀ config ∈ configs, config.maxRetries ≤ limit := by
  induction configs with
  | nil => exact ⟨0, by simp⟩
  | cons config rest ih =>
    obtain ⟨limit, bound⟩ := ih
    refine ⟨max config.maxRetries limit, fun c mem => ?_⟩
    rcases List.mem_cons.mp mem with rfl | mem
    · exact Int.le_max_left _ _
    · exact Int.le_trans (bound c mem) (Int.le_max_right _ _)

/-- The ordinals of one route are distinct, and bounded. -/
theorem Sound.budget {maxRetries : Nat} (sound : Sound host envelope maxRetries w)
    (route : ProviderRoute) :
    (w.sends.filter fun s => s.route = route).length ≤ maxRetries + 1 := by
  let ordinals := (w.sends.filter fun s => s.route = route).map (·.retryOrdinal)
  have paired : (w.sends.filter fun s => s.route = route).map (fun s => (s.route, s.retryOrdinal))
      = ordinals.map fun n => (route, n) := by
    rw [List.map_map]
    apply List.map_congr_left
    intro s mem
    rw [List.mem_filter, decide_eq_true_eq] at mem
    simp only [Function.comp_apply, mem.2]
  have distinct : ordinals.Nodup := by
    have kept := List.filter_sublist (l := w.sends) (p := fun s => decide (s.route = route))
    have nodup := sound.once.sublist (kept.map fun s => (s.route, s.retryOrdinal))
    rw [paired] at nodup
    exact nodup.of_map _
  have below : ordinals ⊆ List.range (maxRetries + 1) := by
    intro n mem
    obtain ⟨s, kept, rfl⟩ := List.mem_map.mp mem
    have small := sound.limited s (List.mem_of_mem_filter kept)
    rw [List.mem_range]
    omega
  have short := List.Nodup.length_le_of_subset distinct below
  rw [List.length_range, List.length_map] at short
  exact short

/-- Primary retries exclude a fallback, so no physical ordinal is used twice. -/
theorem Sound.physical {limit : Int} (sound : Sound host envelope limit w) :
    (w.sends.map fun s => physicalOrdinal s.route s.retryOrdinal).Nodup := by
  have composed : (w.sends.map fun s => physicalOrdinal s.route s.retryOrdinal)
      = (w.sends.map fun s => (s.route, s.retryOrdinal)).map fun key =>
          physicalOrdinal key.1 key.2 := by
    rw [List.map_map]
    rfl
  -- a fallback was sent only if the primary's first send failed for good
  have apart : ∀ {n m : Nat} {l l' : ProviderRequestLease}, w.lease envelope .primary n = some l →
      w.lease envelope .openaiPreviousResponseFallback m = some l' → n = m + 1 → False := by
    rintro n m l l' found found' rfl
    obtain ⟨p, first, failed⟩ := sound.below found (Nat.succ_pos m)
    obtain ⟨p', first', failed'⟩ := sound.fellBack found'
    rw [first] at first'
    cases first'
    have same := failed.classified.symm.trans failed'.classified
    cases same
  rw [composed]
  refine List.Nodup.map_on ?_ sound.once
  rintro ⟨r, n⟩ mem ⟨r', n'⟩ mem' same
  obtain ⟨s, sent, key⟩ := List.mem_map.mp mem
  obtain ⟨s', sent', key'⟩ := List.mem_map.mp mem'
  obtain ⟨l, found⟩ := sound.sent s sent
  obtain ⟨l', found'⟩ := sound.sent s' sent'
  simp only [Prod.mk.injEq] at key key'
  rw [key.1, key.2] at found
  rw [key'.1, key'.2] at found'
  cases r with
  | primary =>
    cases r' with
    | primary =>
      have ordinals : n = n' := same
      rw [ordinals]
    | openaiPreviousResponseFallback => exact (apart found found' same).elim
  | openaiPreviousResponseFallback =>
    cases r' with
    | primary => exact (apart found' found same.symm).elim
    | openaiPreviousResponseFallback =>
      have ordinals : n = n' := Nat.succ.inj same
      rw [ordinals]

theorem settles_iff {α : Type} {w' : TurnWorld R} {x : Except TurnError α}
    (ends : Ends codec envelope w w' x) :
    Settles codec envelope w w' x ↔ ∀ s ∈ sendsSince w w', ¬ s.Late := by
  rcases ends with ⟨raised, s, mem, late, l, found, started⟩ | ⟨settled, harmless⟩
  · constructor
    · intro settles
      have isHarmless := settles.harmless _ raised
      cases isHarmless
    · intro punctual
      exact absurd late (punctual s mem)
  · constructor
    · intro _
      exact settled.punctual
    · intro _
      exact ⟨settled.failed, settled.unsettled, harmless⟩

/-- Durable provider turns, in every run of calls for one envelope: any retry configurations and
modes, any outcomes of the transports, and cut off anywhere. -/
theorem durable_turns (plain : PlainTexts host) (made : envelope.Made host)
    (run : TurnRun host codec envelope configs w) : TurnsHold host codec envelope configs w := by
  constructor
  · obtain ⟨limit, allowed⟩ := exists_limit configs
    exact (sound_of_run plain made run allowed).once
  · intro maxRetries allowed route
    exact (sound_of_run plain made run allowed).budget route
  · obtain ⟨limit, allowed⟩ := exists_limit configs
    exact (sound_of_run plain made run allowed).physical
  · intro receipt stored route n subject mode config enforces valid w' q here
    obtain ⟨limit, allowed⟩ := exists_limit configs
    have sound := sound_of_run plain made run allowed
    have mem : receipt ∈ w.results envelope route n :=
      List.mem_filter.mpr ⟨stored, decide_eq_true subject⟩
    have one : w.results envelope route n = [receipt] := by
      rcases sound.results route n with none | ⟨receipt', -, one, -⟩
      · rw [none] at mem
        cases mem
      · rw [one, List.mem_singleton] at mem
        rw [one, mem]
    have kept := @turns_execute_recovers R host codec _ _ _ _ _ _ _ plain made sound one _ enforces
      valid
    obtain ⟨w'', q', x, onward, done⟩ := exists_end (turnService_answers (R := R) plain) w' q
    refine ⟨?_, ⟨w'', q', x, onward, done⟩, fun x done => (kept.at_end here sound done).2⟩
    -- the sends grow from the start of the call to its end, where they are what they were
    obtain ⟨soundHere, rest⟩ := kept.along here sound
    obtain ⟨last, -⟩ := rest.at_end onward soundHere done
    have grown := sends_grow onward
    rw [last] at grown
    exact grown.eq_of_length_le (sends_grow here).length_le
  · intro executionId mode config w' q x here done
    obtain ⟨limit, allowed⟩ := exists_limit (configs ++ [config])
    have sound := sound_of_run plain made run fun c mem =>
      allowed c (List.mem_append_left _ mem)
    have kept := @turns_execute R host codec _ _ _ _ plain made
      (allowed config (by simp)) sound executionId mode
    exact settles_iff (kept.at_end here sound done)

end Runs

/-! ### A retry that meets a previous-response failure -/

def zeroHost : Host := { plainHost with digest := fun _ => sampleSha }

theorem plainTexts_zeroHost : PlainTexts zeroHost where
  nfc_ascii _ _ := rfl
  digest_sha256 _ := show isSha256 sampleSha = true by decide

/-- Results that carry nothing. -/
def unitCodec : ResultCodec Unit := ⟨fun _ => .ok .none, fun _ => ()⟩

def sampleEnvelope : ProviderWireEnvelope :=
  ⟨sampleSubject.attempt, 0, sampleSha, .openai,
    [⟨.primary, sampleSha, true⟩, ⟨.openaiPreviousResponseFallback, sampleSha, false⟩]⟩

theorem sampleEnvelope_made : sampleEnvelope.Made zeroHost where
  attempt := by decide +kernel
  iteration := Nat.zero_le _
  envelopeSha256 := by decide
  routeSha256 := by decide
  routes := .inr ⟨_, _, rfl, rfl, rfl, rfl, rfl, rfl⟩

def rateLimited : ProviderException :=
  ⟨true, false, false, some 429, false, false, none, ⟨"local_processing_error", "requesting", none, ""⟩⟩

def previousResponseGone : ProviderException :=
  ⟨true, false, false, some 404, false, true, none, ⟨"local_processing_error", "requesting", none, ""⟩⟩

def sampleHappening (w : TurnWorld Unit) : Happening Unit :=
  ⟨.raised (if w.sends.length = 0 then rateLimited else previousResponseGone), plainArtifact,
    plainCursor, .ok ()⟩

def sampleStart : TurnWorld Unit := ⟨⟨[], []⟩, [], []⟩

theorem sampleHappening_possible (w : TurnWorld Unit) (c : TurnCmd) :
    turnService Unit zeroHost w c (w.serve (sampleHappening w) c).1
      (w.serve (sampleHappening w) c).2 :=
  ⟨sampleHappening w, ⟨storedResult_plain plainTexts_zeroHost, fun _ absent => by cases absent⟩, rfl⟩

/-- One call of `execute` with one retry. -/
def sampleTurn : TurnProg Unit (Option (DurableProviderTurnOutcome Unit)) :=
  execute zeroHost unitCodec "execution" .enforce sampleEnvelope ⟨1, 0, 0⟩

def samplePlay : TurnWorld Unit × Except TurnError (Option (DurableProviderTurnOutcome Unit)) :=
  play (fun w c => w.serve (sampleHappening w) c) sampleStart sampleTurn

theorem sampleStart_fresh : TurnRun zeroHost unitCodec sampleEnvelope [] sampleStart :=
  .fresh rfl (fun _ _ => rfl) fun _ _ => rfl

theorem samplePlay_runs : ∃ q, Runs (turnService Unit zeroHost) sampleStart sampleTurn samplePlay.1 q
    ∧ ended q = some samplePlay.2 :=
  runs_play sampleHappening_possible sampleStart sampleTurn

/-- The classified failure of a retry is refused by the coordinator: the call ends in a transition
error and leaves the lease started. -/
theorem retried_previous_response_is_refused :
    (∃ q, Runs (turnService Unit zeroHost) sampleStart
      (execute zeroHost unitCodec "execution" .enforce sampleEnvelope ⟨1, 0, 0⟩) samplePlay.1 q ∧
        ended q = some samplePlay.2) ∧
      samplePlay.2 = .error (.python
        (transitionError "previous_response_fallback requires primary ordinal zero")) ∧
      samplePlay.1.sends.map Sent.outcome = [.failure .transientRetrySafe rateLimited,
        .failure .previousResponseFallback previousResponseGone] ∧
      (samplePlay.1.lease sampleEnvelope .primary 1).map (·.status) = some .started := by
  constructor
  · exact samplePlay_runs
  · decide +kernel

theorem durable_turns_sample :
    TurnsHold zeroHost unitCodec sampleEnvelope [⟨1, 0, 0⟩] samplePlay.1 := by
  obtain ⟨q, run, -⟩ := samplePlay_runs
  exact durable_turns plainTexts_zeroHost sampleEnvelope_made (.execute sampleStart_fresh run)

end Unchain.Providers
