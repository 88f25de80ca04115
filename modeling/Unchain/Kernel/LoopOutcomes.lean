import Unchain.Kernel.LoopTerminals

/-!
One terminal per invocation.

A run that is `Early` has not started, so nothing it reports is a terminal. The failure bundle reads
what the observer noted of the run (`Observed`) and reports a failure only when no terminal was
noted; together with the rounds this gives every invocation its one last event.
-/

namespace Unchain.Kernel

open Lib Lib.Effect Python Interaction

/-! ### What an invocation reports -/

def IsCanonical (e : Event) : Prop := e.type.isCanonical = true

def IsTerminal (e : Event) : Prop := e.type.isTerminal = true

/-- The events `es` of an invocation, with what it returned. -/
structure OneTerminal (c : RunCall) (marks : List Mark) (es : List Event)
    (returned : Option RunResult) : Prop where
  canonical : OnlyLast IsCanonical es
  unasked : .asked ∉ marks → OnlyLast IsTerminal es
  completed : ∀ result, returned = some result → result.status = .completed → c.callback = true →
    ∃ before iteration, es = before ++ [⟨.runCompleted, c.runId, iteration⟩]
  limited : ∀ result, returned = some result → result.status = .maxIterations →
    c.callback = true → (∀ e ∈ es, ¬ IsCanonical e) ∧
      (∃ e ∈ es, e.type = .runMaxIterations ∧ e.runId = c.runId) ∧
      (.asked ∉ marks → ∃ before iteration, es = before ++ [⟨.runMaxIterations, c.runId, iteration⟩])

variable {e : Event}

theorem not_isCanonical (h : e.type.isTerminal = false) : ¬ IsCanonical e := by
  intro decided
  rw [EventType.isTerminal_of_isCanonical decided] at h
  cases h

theorem not_isTerminal (h : e.type.isTerminal = false) : ¬ IsTerminal e := by
  simp [IsTerminal, h]

section States

variable (host : LoopHost) (c : RunCall) (base : List Event)

/-- The ledger is the run's own, or not there yet. -/
def Owned (w : World) : Prop :=
  w.state.identity = none ∨ w.state.identity = some ⟨host.executionId, c.runId⟩

def Prior (w : World) : Prop :=
  .asked ∉ w.marks ∧ ∃ es, w.events = base ++ es ∧ ∀ e ∈ es, e.type.isTerminal = false

/-- A run that may not have started. -/
structure Early (w : World) : Prop where
  owned : Owned host c w
  prior : Prior base w
  observer : ∃ runId, w.observer = some ⟨runId, false⟩ ∧ (runId = "" ∨ runId = c.runId)

/-- What the failure bundle finds. -/
structure Observed (noted : Bool) (es : List Event) (w : World) : Prop where
  owned : Owned host c w
  observer : ∃ runId, w.observer = some ⟨runId, noted⟩ ∧ (runId = "" ∨ runId = c.runId)
  events : w.events = base ++ es
  unnoted : noted = false → ∀ e ∈ es, e.type.isTerminal = false
  canonical : OnlyLast IsCanonical es
  unasked : .asked ∉ w.marks → OnlyLast IsTerminal es

def Concluded (returned : Option RunResult) (w : World) : Prop :=
  ∃ es, w.events = base ++ es ∧ OneTerminal c w.marks es returned

end States

section Conclusions

variable {host : LoopHost} {c : RunCall} {base : List Event} {w w' : World}
  {es : List Event} {returned : Option RunResult}

theorem oneTerminal_of_quiet {marks : List Mark} (quiet : ∀ e ∈ es, e.type.isTerminal = false)
    (awaits : ∀ result, returned = some result →
      result.status ≠ .completed ∧ result.status ≠ .maxIterations) :
    OneTerminal c marks es returned := by
  constructor
  · exact onlyLast_of_none fun e mem => not_isCanonical (quiet e mem)
  · exact fun _ => onlyLast_of_none fun e mem => not_isTerminal (quiet e mem)
  · exact fun result same status => absurd status (awaits result same).1
  · exact fun result same status => absurd status (awaits result same).2

theorem Prior.reports (h : Prior base w) (reports : Reports w w') : Prior base w' := by
  obtain ⟨unasked, es, events, quiet⟩ := h
  obtain ⟨es', events', quiet'⟩ := reports.events
  refine ⟨fun asked => unasked (reports.asked.mp asked), es ++ es', ?_, ?_⟩
  · rw [events', events, List.append_assoc]
  · intro e mem
    rcases List.mem_append.mp mem with mem | mem
    · exact quiet e mem
    · exact quiet' e mem

theorem Prior.concluded (h : Prior base w) (awaits : ∀ result, returned = some result →
      result.status ≠ .completed ∧ result.status ≠ .maxIterations) :
    Concluded c base returned w := by
  obtain ⟨-, es, events, quiet⟩ := h
  exact ⟨es, events, oneTerminal_of_quiet quiet awaits⟩

theorem Owned.reports (h : Owned host c w) (reports : Reports w w') : Owned host c w' := by
  unfold Owned
  rw [reports.identity]
  exact h

theorem Early.reports (h : Early host c base w) (reports : Reports w w') :
    Early host c base w' := by
  constructor
  · exact h.owned.reports reports
  · exact h.prior.reports reports
  · rw [reports.observer]
    exact h.observer

theorem Early.observed (h : Early host c base w) : ∃ es, Observed host c base false es w := by
  obtain ⟨unasked, es, events, quiet⟩ := h.prior
  refine ⟨es, h.owned, h.observer, events, fun _ => quiet, ?_, ?_⟩
  · exact onlyLast_of_none fun e mem => not_isCanonical (quiet e mem)
  · exact fun _ => onlyLast_of_none fun e mem => not_isTerminal (quiet e mem)

theorem Going.undecided' {noted : Bool} (h : Going host c base noted es w) :
    ∀ e ∈ es, ¬ IsCanonical e := by
  intro e mem
  simp [IsCanonical, h.undecided e mem]

theorem Runs.observed (h : Runs host c base w) : ∃ noted es, Observed host c base noted es w := by
  obtain ⟨noted, es, going⟩ := h
  refine ⟨noted, es, .inr going.identity, ⟨_, going.observer, .inr rfl⟩, going.events,
    going.unnoted, onlyLast_of_none going.undecided', fun unasked => ?_⟩
  exact onlyLast_of_none fun e mem =>
    not_isTerminal (going.unnoted (going.unasked unasked) e mem)

theorem Shut.oneTerminal {last : Event} (h : Shut host c base last es w) :
    OnlyLast IsCanonical (if c.callback then es ++ [last] else es) ∧
      (.asked ∉ w.marks → OnlyLast IsTerminal (if c.callback then es ++ [last] else es)) := by
  have undecided : ∀ e ∈ es, ¬ IsCanonical e := by
    intro e mem
    simp [IsCanonical, h.undecided e mem]
  have quiet : .asked ∉ w.marks → ∀ e ∈ es, ¬ IsTerminal e :=
    fun unasked e mem => not_isTerminal (h.unasked unasked e mem)
  cases c.callback with
  | true => exact ⟨onlyLast_concat undecided last, fun unasked => onlyLast_concat (quiet unasked) last⟩
  | false => exact ⟨onlyLast_of_none undecided, fun unasked => onlyLast_of_none (quiet unasked)⟩

theorem Shuts.observed {type : EventType} (h : Shuts host c base type w) :
    ∃ noted es, Observed host c base noted es w := by
  obtain ⟨iteration, es, shut⟩ := h
  obtain ⟨canonical, unasked⟩ := shut.oneTerminal
  exact ⟨true, _, .inr shut.identity, ⟨_, shut.observer, .inr rfl⟩, shut.events, nofun, canonical,
    unasked⟩

theorem Stands.observed (h : Stands host c base w) :
    ∃ noted es, Observed host c base noted es w := by
  rcases h with runs | ⟨type, shuts⟩
  · exact runs.observed
  · exact shuts.observed

/-- A run that goes on has one terminal, or none. -/
theorem Runs.concluded (h : Runs host c base w)
    (asked : ∀ result, returned = some result → result.status ≠ .completed ∧
      (result.status = .maxIterations → .asked ∈ w.marks)) : Concluded c base returned w := by
  obtain ⟨noted, es, going⟩ := h
  refine ⟨es, going.events, onlyLast_of_none going.undecided', fun unasked => ?_, ?_, ?_⟩
  · exact onlyLast_of_none fun e mem =>
      not_isTerminal (going.unnoted (going.unasked unasked) e mem)
  · exact fun result same status => absurd status (asked result same).1
  · intro result same status called
    have asks := (asked result same).2 status
    exact ⟨going.undecided', going.asked asks called, fun unasked => absurd asks unasked⟩

theorem Finished.concluded {result : RunResult} (h : Finished host c base result w) :
    Concluded c base (some result) w := by
  unfold Finished at h
  split at h
  · next status =>
    obtain ⟨iteration, es, shut⟩ := h
    obtain ⟨canonical, unasked⟩ := shut.oneTerminal
    refine ⟨_, shut.events, canonical, unasked, ?_, ?_⟩
    · intro _ _ _ called
      exact ⟨es, iteration, by simp [called]⟩
    · rintro _ ⟨⟩ other
      rw [status] at other
      cases other
  · next status =>
    rcases h with ⟨iteration, es, shut⟩ | ⟨runs, asked⟩
    · obtain ⟨canonical, unasked⟩ := shut.oneTerminal
      refine ⟨_, shut.events, canonical, unasked, ?_, ?_⟩
      · rintro _ ⟨⟩ other
        rw [status] at other
        cases other
      · intro _ _ _ called
        rw [if_pos called]
        refine ⟨?_, ⟨_, List.mem_append_right _ (List.mem_singleton.mpr rfl), rfl, rfl⟩,
          fun _ => ⟨es, iteration, rfl⟩⟩
        intro e mem
        rcases List.mem_append.mp mem with mem | mem
        · simp [IsCanonical, shut.undecided e mem]
        · rw [List.mem_singleton.mp mem]
          exact nofun
    · refine runs.concluded ?_
      rintro _ ⟨⟩
      exact ⟨by simp [status], fun _ => asked⟩
  · next completes limits =>
    refine h.concluded ?_
    rintro _ ⟨⟩
    exact ⟨completes, fun status => absurd status limits⟩

end Conclusions

/-! ### Starting and failing -/

section Bundle

variable {host : LoopHost} {c : RunCall} {base : List Event} {w : World}

theorem reports_dispatchBootstrap : Within Reports (dispatchBootstrap host c) := by
  refine (reports_of_calm calm_guardCall).bind Reports.trans fun _ => ?_
  refine (reports_of_calm calm_tick).bind Reports.trans fun now => ?_
  refine Within.bind Reports.trans (reports_setState fun s => ?_) fun _ =>
    reports_of_calm calm_guardedPhase
  cases host.restored now <;> rfl

theorem initializeRunLedger_owns (h : Prior base w) : Ensures (initializeRunLedger host c) w
      (fun _ w' => Prior base w' ∧ w'.observer = w.observer ∧
        w'.state.identity = some ⟨host.executionId, c.runId⟩)
      (fun _ w' => Prior base w' ∧ w'.observer = w.observer ∧
        (w'.state.identity = w.state.identity ∨
          w'.state.identity = some ⟨host.executionId, c.runId⟩)) := by
  refine ensures_frame_bind silent_ask (fun _ w₁ h₁ => ?_)
    fun _ _ silent => ⟨h.reports silent.reports, silent.observer, .inl silent.identity⟩
  refine ensures_modify_bind ?_
  have prior : Prior base w₁ := h.reports h₁.reports
  have owned : Prior base { w₁ with state :=
      { w₁.state with identity := some ⟨host.executionId, c.runId⟩ } } := prior
  exact ensures_frame silent_ask
    (fun _ _ silent => ⟨owned.reports silent.reports, silent.observer.trans h₁.observer,
      silent.identity⟩)
    fun _ _ silent => ⟨owned.reports silent.reports, silent.observer.trans h₁.observer,
      .inr silent.identity⟩

theorem emitEvent_starts (h : Early host c base w)
    (identity : w.state.identity = some ⟨host.executionId, c.runId⟩) (iteration : Int) :
    Ensures (emitEvent host c .runStarted iteration) w (fun _ w' => Runs host c base w')
      (fun _ w' => Early host c base w') := by
  let e : Event := ⟨.runStarted, c.runId, iteration⟩
  have observed : (record c e w).observer = some ⟨c.runId, false⟩ := by
    obtain ⟨runId, observer, named⟩ := h.observer
    simp only [record, observer, Option.map_some, Observer.note, e]
    rcases named with rfl | rfl
    · simp
    · simp [c.named, EventType.isTerminal]
  have prior : Prior base (record c e w) := by
    obtain ⟨unasked, es, events, quiet⟩ := h.prior
    refine ⟨unasked, if c.callback then es ++ [e] else es, ?_, ?_⟩
    · cases called : c.callback <;> simp [record, called, events]
    · cases c.callback with
      | false => exact quiet
      | true =>
        intro e' mem
        rcases List.mem_append.mp mem with mem | mem
        · exact quiet e' mem
        · rw [List.mem_singleton.mp mem]
          rfl
  have early : Early host c base (record c e w) :=
    ⟨.inr identity, prior, c.runId, observed, .inr rfl⟩
  have runs : Runs host c base (record c e w) := by
    obtain ⟨unasked, es, events, quiet⟩ := prior
    refine ⟨false, es, identity, observed, events, ?_, fun _ => rfl, fun _ => quiet,
      fun asked => absurd asked unasked⟩
    intro e' mem
    cases decided : e'.type.isCanonical with
    | false => rfl
    | true => exact absurd decided (not_isCanonical (quiet e' mem))
  have called : Within Silent (onlyIf c.callback do
      let now ← tick
      raiseSome (host.callback now)) :=
    within_onlyIf Silent.refl (silent_tick.bind Silent.trans fun now => silent_raiseSome _) _
  exact ensures_modify_bind (ensures_frame called (fun _ _ silent => runs.reports silent.reports)
    fun _ _ silent => early.reports silent.reports)

theorem enterRun_runs (h : Early host c base w) :
    Ensures (enterRun host c) w (fun _ w' => Runs host c base w')
      (fun _ w' => Early host c base w') := by
  refine ensures_lift_bind (fun _ _ => ?_) fun _ _ => h
  refine ensures_frame_bind (reports_of_calm calm_ask) (fun _ w₁ h₁ => ?_)
    fun _ _ reports => h.reports reports
  have early := h.reports h₁
  refine ensures_bind ((initializeRunLedger_owns early.prior).mono (fun _ w₂ owns => ?_)
    fun _ w' stops => ?_)
  case refine_2 =>
    obtain ⟨prior, observer, identity⟩ := stops
    refine ⟨?_, prior, by rw [observer]; exact early.observer⟩
    rcases identity with same | own
    · unfold Owned
      rw [same]
      exact early.owned
    · exact .inr own
  obtain ⟨prior, observer, identity⟩ := owns
  have early : Early host c base w₂ :=
    ⟨.inr identity, prior, by rw [observer]; exact early.observer⟩
  refine ensures_frame_bind (within_onlyIf Reports.refl reports_dispatchBootstrap _)
    (fun _ w₃ h₃ => ?_) fun _ _ reports => early.reports reports
  refine ensures_frame_from Reports.trans (reports_of_calm calm_ask) h₃ (fun _ w₄ h₄ => ?_)
    fun _ _ reports => early.reports reports
  exact ensures_get_bind
    (emitEvent_starts (early.reports h₄) (h₄.identity.trans identity) w₄.state.iteration)

theorem runState_ends (h : Early host c base w) (rounds : Nat) :
    Ensures (runState host c rounds) w (Concluded c base)
      (fun _ w' => ∃ noted es, Observed host c base noted es w') := by
  refine ensures_bind ((enterRun_runs h).mono (fun _ w₁ runs => ?_)
    fun _ _ early => ⟨false, early.observed⟩)
  refine ensures_get_bind ?_
  refine ensures_frame_bind (reports_mark (by simp)) (fun _ w₂ h₂ => ?_)
    fun _ _ reports => (runs.reports reports).observed
  refine (runRounds_ends (runs.reports h₂) _).mono (fun returned w₃ ended => ?_)
    fun _ _ stands => stands.observed
  cases returned with
  | some result => exact Finished.concluded ended
  | none => exact Runs.concluded ended nofun

variable {es : List Event} {noted : Bool}

section

variable (h : Observed host c base noted es w)

include h

theorem terminalRunId_eq {identity : RunIdentity} (found : w.state.identity = some identity) :
    identity = ⟨host.executionId, c.runId⟩ ∧ terminalRunId w identity = c.runId := by
  have own : identity = ⟨host.executionId, c.runId⟩ := by
    rcases h.owned with none | own
    · rw [none] at found
      cases found
    · rw [own] at found
      exact (Option.some.inj found).symm
  obtain ⟨runId, observer, named⟩ := h.observer
  refine ⟨own, ?_⟩
  simp only [terminalRunId, observer, Option.map_some, Option.getD_some, own]
  rcases named with rfl | rfl <;> simp

theorem Observed.silent {w' : World} (silent : Silent w w') : Observed host c base noted es w' := by
  constructor
  · exact h.owned.reports silent.reports
  · rw [silent.observer]
    exact h.observer
  · exact silent.events.trans h.events
  · exact h.unnoted
  · exact h.canonical
  · rw [silent.marks]
    exact h.unasked

theorem Observed.concluded : Concluded c base none w :=
  ⟨es, h.events, h.canonical, h.unasked, nofun, nofun⟩

theorem recordFailure_reports {e : PyError} : Ensures (recordFailure host c e) w
      (fun _ w' => Concluded c base none w' ∧
        (w.state.identity.isSome = true → c.callback = true → noted = false →
          lostOwnership e = false → settlementPending host e host.executionId c.runId = false →
          ∃ iteration, w'.events = base ++ (es ++ [⟨failureTerminal host e, c.runId, iteration⟩])))
      (fun _ w' => Concluded c base none w') := by
  have stops : ∀ (e : PyError) (w' : World), Silent w w' → Concluded c base none w' :=
    fun _ _ silent => (h.silent silent).concluded
  refine ensures_get_bind ?_
  cases found : w.state.identity with
  | none => exact ensures_pure ⟨h.concluded, by simp⟩
  | some identity =>
    refine ensures_frame_bind silent_ask (fun _ w₁ h₁ => ?_) stops
    refine ensures_frame_from Silent.trans silent_ask h₁ (fun _ w₂ h₂ => ?_) stops
    have fails : Within Silent (setState fun s => { s with runStatus := .failed }) :=
      within_modify fun _ => ⟨rfl, rfl, rfl, rfl⟩
    refine ensures_frame_from Silent.trans fails h₂ (fun _ w₃ h₃ => ?_) stops
    refine ensures_frame_from Silent.trans silent_ask h₃ (fun _ w₄ h₄ => ?_) stops
    refine ensures_frame_from Silent.trans silent_tick h₄ (fun now w₅ h₅ => ?_) stops
    have seen := h.silent h₅
    obtain ⟨rfl, named⟩ := terminalRunId_eq seen (h₅.identity.trans found)
    refine ensures_get_bind ?_
    split
    · next wants =>
      obtain ⟨called, unnoted⟩ : c.callback = true ∧ noted = false := by
        obtain ⟨runId, observer, -⟩ := seen.observer
        simp only [wantsFailureTerminal, observer, Bool.and_eq_true, Option.any_some,
          Bool.not_eq_true'] at wants
        exact ⟨wants.1.1.1.1, wants.1.1.2⟩
      let last : Event := ⟨failureTerminal host e, c.runId, max 0 (host.failedIteration now)⟩
      refine ensures_get_bind ?_
      rw [named]
      have quiet := seen.unnoted unnoted
      refine ensures_modify_bind (ensures_frame_bind silent_tick (fun _ w₆ h₆ => ?_)
        fun _ w₆ h₆ => ?_)
      · have events : w₆.events = base ++ (es ++ [last]) := by
          rw [h₆.events]
          simp [record, called, seen.events, last]
        refine ensures_pure ⟨⟨es ++ [last], events, ?_, fun _ => ?_, ?_, ?_⟩,
          fun _ _ _ _ _ => ⟨_, events⟩⟩
        · exact onlyLast_concat (fun e mem => not_isCanonical (quiet e mem)) last
        · exact onlyLast_concat (fun e mem => not_isTerminal (quiet e mem)) last
        · rintro _ ⟨⟩
        · rintro _ ⟨⟩
      · have events : w₆.events = base ++ (es ++ [last]) := by
          rw [h₆.events]
          simp [record, called, seen.events, last]
        refine ⟨es ++ [last], events, ?_, fun _ => ?_, ?_, ?_⟩
        · exact onlyLast_concat (fun e mem => not_isCanonical (quiet e mem)) last
        · exact onlyLast_concat (fun e mem => not_isTerminal (quiet e mem)) last
        · rintro _ ⟨⟩
        · rintro _ ⟨⟩
    · next unwanted =>
      refine ensures_pure ⟨seen.concluded, fun _ called unnoted owned settled => ?_⟩
      obtain ⟨runId, observer, -⟩ := seen.observer
      refine absurd ?_ unwanted
      simp [wantsFailureTerminal, called, named, c.named, observer, unnoted, owned, settled]

end

theorem early_observedBy (owned : Owned host c w) (prior : Prior base w) :
    Early host c base (w.observedBy (some ⟨"", false⟩)) :=
  ⟨owned, prior, "", rfl, .inl rfl⟩

theorem runStateWithFailureBundle_concluded (owned : Owned host c w) (prior : Prior base w)
    (rounds : Nat) : Ensures (runStateWithFailureBundle host c rounds) w (Concluded c base)
      (fun _ w' => Concluded c base none w') := by
  refine ensures_runStateWithFailureBundle
    ((runState_ends (early_observedBy owned prior) rounds).mono (fun _ _ concluded => concluded)
      fun e w' failed => ?_)
  obtain ⟨noted, es, observed⟩ := failed
  exact (recordFailure_reports observed).mono (fun _ _ reported => reported.1)
    fun _ _ concluded => concluded

end Bundle

/-! ### Invocations -/

section Invocations

variable {host : LoopHost} {c : RunCall} {base : List Event} {w : World}

theorem Prior.stops (h : Prior base w) : Concluded c base none w := h.concluded nofun

theorem Concluded.of_call {c' : RunCall} {returned : Option RunResult}
    (h : Concluded c' base returned w) (runId : c'.runId = c.runId)
    (callback : c'.callback = c.callback) : Concluded c base returned w := by
  obtain ⟨es, events, one⟩ := h
  refine ⟨es, events, one.canonical, one.unasked, ?_, ?_⟩
  · rw [← runId, ← callback]
    exact one.completed
  · rw [← runId, ← callback]
    exact one.limited

theorem run_concluded (h : Prior base w) (hasSession : Bool) (rounds : Nat) :
    Ensures (run host c hasSession rounds) w (Concluded c base)
      (fun _ w' => Concluded c base none w') := by
  refine ensures_frame_bind (reports_of_calm calm_ask) (fun _ w₁ h₁ => ?_)
    fun _ _ reports => (h.reports reports).stops
  refine ensures_modify_bind ?_
  have prior : Prior base w₁ := h.reports h₁
  have fresh : Prior base { w₁ with state := .fresh hasSession } := prior
  have owned : Owned host c { w₁ with state := .fresh hasSession } := .inl rfl
  refine ensures_frame_bind (reports_of_calm calm_guardCall) (fun _ w₂ h₂ => ?_)
    fun _ _ reports => (fresh.reports reports).stops
  exact (runStateWithFailureBundle_concluded (c := { c with skipBootstrap := false })
    (owned.reports h₂) (fresh.reports h₂) rounds).mono (fun _ _ ended => ended.of_call rfl rfl)
    fun _ _ ended => ended.of_call rfl rfl

theorem hydrate_owns (h : Prior base w) (continuation : Dict) (hasSession : Bool) :
    Ensures (hydrate host c continuation hasSession) w
      (fun _ w' => Prior base w' ∧ Owned host c w') (fun _ w' => Concluded c base none w') := by
  refine ensures_lift_bind (fun iteration _ => ?_) fun _ _ => h.stops
  refine ensures_modify_bind ?_
  have hydrated : Prior base
      { w with state := { LoopState.fresh hasSession with iteration := iteration } } := h
  exact (initializeRunLedger_owns hydrated).mono (fun _ _ owns => ⟨owns.1, .inr owns.2.2⟩)
    fun _ _ stops => stops.1.stops

theorem continueRun_concluded (owned : Owned host c w) (prior : Prior base w) (maxIterations : Int)
    (rounds : Nat) : Ensures (continueRun host c maxIterations rounds) w (Concluded c base)
      (fun _ w' => Concluded c base none w') :=
  (runStateWithFailureBundle_concluded (c := { c with maxIterations, skipBootstrap := true }) owned
    prior rounds).mono (fun _ _ ended => ended.of_call rfl rfl)
    fun _ _ ended => ended.of_call rfl rfl

theorem resumeHumanInput_concluded (h : Prior base w) (continuation : Dict) (hasSession : Bool)
    (rounds : Nat) :
    Ensures (resumeHumanInput host c continuation hasSession rounds) w (Concluded c base)
      (fun _ w' => Concluded c base none w') := by
  refine ensures_frame_bind (reports_of_calm calm_ask) (fun _ w₁ h₁ => ?_)
    fun _ _ reports => (h.reports reports).stops
  refine ensures_lift_bind (fun maxIterations _ => ?_) fun _ _ => (h.reports h₁).stops
  refine ensures_bind ((hydrate_owns (h.reports h₁) continuation hasSession).mono
    (fun _ w₂ hydrated => ?_) fun _ _ concluded => concluded)
  obtain ⟨prior, owned⟩ := hydrated
  have stops : ∀ (e : PyError) (w' : World), Reports w₂ w' → Concluded c base none w' :=
    fun _ _ reports => (prior.reports reports).stops
  refine ensures_frame_bind (reports_of_calm calm_guardCall) (fun _ w₃ h₃ => ?_) stops
  refine ensures_frame_from Reports.trans (reports_of_calm calm_waitForAnswer) h₃
    (fun _ w₄ h₄ => ?_) stops
  refine ensures_frame_from Reports.trans reports_dispatchBootstrap h₄ (fun _ w₅ h₅ => ?_) stops
  refine ensures_frame_from Reports.trans (reports_of_calm calm_dispatchOnResume) h₅
    (fun _ w₆ h₆ => ?_) stops
  exact continueRun_concluded (owned.reports h₆) (prior.reports h₆) maxIterations rounds

theorem resumeInteraction_concluded (h : Prior base w) (kind : InteractionKind)
    (continuation : Dict) (rounds : Nat) :
    Ensures (resumeInteraction host c kind continuation rounds) w (Concluded c base)
      (fun _ w' => Concluded c base none w') := by
  refine ensures_frame_bind (reports_of_calm calm_guardCall) (fun _ w₁ h₁ => ?_)
    fun _ _ reports => (h.reports reports).stops
  refine ensures_frame_from Reports.trans (reports_of_calm calm_ask) h₁ (fun _ w₂ h₂ => ?_)
    fun _ _ reports => (h.reports reports).stops
  refine ensures_frame_from Reports.trans (reports_of_calm calm_waitForAnswer) h₂
    (fun response w₃ h₃ => ?_) fun _ _ reports => (h.reports reports).stops
  refine ensures_lift_bind (fun maxIterations _ => ?_) fun _ _ => (h.reports h₃).stops
  refine ensures_bind ((hydrate_owns (h.reports h₃) continuation true).mono
    (fun _ w₄ hydrated => ?_) fun _ _ concluded => concluded)
  obtain ⟨prior, owned⟩ := hydrated
  have stops : ∀ (e : PyError) (w' : World), Reports w₄ w' → Concluded c base none w' :=
    fun _ _ reports => (prior.reports reports).stops
  refine ensures_frame_bind reports_dispatchBootstrap (fun _ w₅ h₅ => ?_) stops
  cases kind with
  | humanInput =>
    refine ensures_frame_from Reports.trans (reports_of_calm calm_ask) h₅ (fun _ w₆ h₆ => ?_) stops
    refine ensures_frame_from Reports.trans (reports_of_calm calm_dispatchOnResume) h₆
      (fun _ w₇ h₇ => ?_) stops
    exact continueRun_concluded (owned.reports h₇) (prior.reports h₇) maxIterations rounds
  | toolApproval =>
    refine ensures_frame_from Reports.trans (reports_dispatchToolApprovalResume continuation)
      h₅ (fun _ w₆ h₆ => ?_) stops
    refine ensures_get_bind ?_
    split
    · refine ensures_bind ((finishAwaitingRun_status _ w₆).mono (fun suspended w₇ ended => ?_)
        fun e w' reports => stops e w' (h₆.trans _ _ _ reports))
      obtain ⟨status, h₇⟩ := ended
      refine ensures_pure ((prior.reports (h₆.trans _ _ _ h₇)).concluded ?_)
      rintro _ ⟨⟩
      simp [status]
    · refine ensures_frame_from Reports.trans
        (reports_of_calm (calm_emitBuilt rfl (by simp) _)) h₆ (fun _ w₇ h₇ => ?_) stops
      exact continueRun_concluded (owned.reports h₇) (prior.reports h₇) maxIterations rounds
  | maxBudget =>
    refine ensures_frame_from Reports.trans (reports_of_calm calm_ask) h₅ (fun _ w₆ h₆ => ?_) stops
    refine ensures_lift_bind (fun decision _ => ?_) fun _ _ => (prior.reports h₆).stops
    refine ensures_frame_from Reports.trans (reports_setState (by intro s; rfl)) h₆
      (fun _ w₇ h₇ => ?_) stops
    exact (continueRun_concluded (c := { c with
      onMaxIterations := c.onMaxIterations && decision.1 }) (owned.reports h₇) (prior.reports h₇)
      decision.2 rounds).mono (fun _ _ ended => ended.of_call rfl rfl)
      fun _ _ ended => ended.of_call rfl rfl

theorem invoke_concluded (h : Prior base w) (entry : Entry) (rounds : Nat) :
    Ensures (invoke host c entry rounds) w (Concluded c base)
      (fun _ w' => Concluded c base none w') := by
  cases entry with
  | run hasSession => exact run_concluded h hasSession rounds
  | resumeHumanInput continuation hasSession =>
    exact resumeHumanInput_concluded h continuation hasSession rounds
  | resumeInteraction kind continuation =>
    exact resumeInteraction_concluded h kind continuation rounds

end Invocations

/-! ### The terminal of a run -/

/-- What an invocation returned, if it did. -/
def returnedBy : EStateM.Result PyError World (Option RunResult) → Option RunResult
  | .ok returned _ => returned
  | .error _ _ => none

/-- The ghost log of a run starts empty. -/
def World.unmarked (w : World) : World := { w with marks := [] }

/-- An exception that the failure bundle reports: the run raised it, its ledger was there, the
bookkeeping of the failure went through, and no terminal had been noted. -/
structure FailsWith (host : LoopHost) (c : RunCall) (rounds : Nat) (w : World) (e : PyError)
    (w' w'' : World) : Prop where
  owned : Owned host c w
  raised : runState host c rounds (w.unmarked.observedBy (some ⟨"", false⟩)) = .error e w'
  recorded : recordFailure host c e w' = .ok () w''
  started : w'.state.identity.isSome = true
  unnoted : w'.observer.any Observer.terminal = false
  kept : lostOwnership e = false
  unsettled : settlementPending host e host.executionId c.runId = false

/-- One canonical terminal in an invocation, and it is the last event; one terminal of any type where
no budget was asked for; and an exception is reported unless a terminal was. -/
theorem one_terminal_per_run (host : LoopHost) (c : RunCall) :
    (∀ (entry : Entry) (rounds : Nat) (w : World),
      let outcome := invoke host c entry rounds w.unmarked
      ∃ es, (endState outcome).events = w.events ++ es ∧
        OneTerminal c (endState outcome).marks es (returnedBy outcome)) ∧
    ∀ (rounds : Nat) (w : World) (e : PyError) (w' w'' : World),
      FailsWith host c rounds w e w' w'' → c.callback = true →
      runStateWithFailureBundle host c rounds w.unmarked = .error e (w''.observedBy w.observer) ∧
      ∃ es iteration, w''.events = w.events ++ (es ++ [⟨failureTerminal host e, c.runId, iteration⟩]) ∧
        ∀ x ∈ es, ¬ IsTerminal x := by
  have prior : ∀ w : World, Prior w.events w.unmarked := fun w =>
    ⟨List.not_mem_nil, [], by simp [World.unmarked], by simp⟩
  constructor
  · intro entry rounds w
    have concluded : Ensures (invoke host c entry rounds) w.unmarked (Concluded c w.events)
        (fun _ w' => Concluded c w.events none w') := invoke_concluded (prior w) entry rounds
    unfold Ensures at concluded
    cases ran : invoke host c entry rounds w.unmarked with
    | ok returned w' | error e w' =>
      rw [ran] at concluded
      exact concluded
  · intro rounds w e w' w'' fails called
    have early : Early host c w.events (w.unmarked.observedBy (some ⟨"", false⟩)) :=
      early_observedBy fails.owned (prior w)
    have ended := runState_ends early rounds
    unfold Ensures at ended
    rw [fails.raised] at ended
    obtain ⟨noted, es, observed⟩ := ended
    have unnoted : noted = false := by
      obtain ⟨runId, observer, -⟩ := observed.observer
      have := fails.unnoted
      rw [observer] at this
      exact this
    have reported := recordFailure_reports (e := e) observed
    unfold Ensures at reported
    rw [fails.recorded] at reported
    obtain ⟨iteration, events⟩ := reported.2 fails.started called unnoted fails.kept fails.unsettled
    refine ⟨?_, es, iteration, events, fun x mem => not_isTerminal (observed.unnoted unnoted x mem)⟩
    have raised := fails.raised
    unfold World.observedBy at raised
    simp only [runStateWithFailureBundle, raised, fails.recorded]
    rfl

/-- A host whose hooks do nothing and whose turns have tool calls until `busyUntil`. -/
def sampleHost (busyUntil : Nat) : LoopHost where
  callback := fun _ => none
  fails := fun _ => none
  hook := fun _ => ⟨fun s => s, .keep, false, [], none⟩
  suspend := fun _ => none
  restored := fun _ => none
  fetch := fun now => ⟨[], if now < busyUntil then 1 else 0, none⟩
  answer := fun _ => .ok (.dict [("approved", .bool true), ("extra_iterations", .int 1)])
  revision := fun _ => none
  failedIteration := fun _ => 0
  executionId := "execution"
  errorCode := fun _ => "kernel_run_failed"
  settlement := fun _ => none
  isLower := Char.isLower
  isDigit := Char.isDigit

def sampleCall : RunCall where
  runId := "run"
  named := by decide
  callback := true
  maxIterations := 1
  onToolConfirm := false
  onHumanInput := false
  onMaxIterations := true
  skipBootstrap := false
  configured := true
  durable := false
  guarded := false

def sampleWorld : World := ⟨0, .fresh false, none, [], []⟩

/-- A run whose extension was approved reports its limit, goes on and completes. -/
theorem extended_run_reports_two_terminals :
    let outcome := invoke (sampleHost 20) sampleCall (.run false) 3 sampleWorld
    (returnedBy outcome).map RunResult.status = some .completed ∧
      ((endState outcome).events.filter fun e => e.type.isTerminal).map
        (fun e => (e.type, e.runId)) = [(.runMaxIterations, "run"), (.runCompleted, "run")] := by
  decide +kernel

end Unchain.Kernel
