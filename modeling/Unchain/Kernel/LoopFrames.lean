import Unchain.Kernel.Loop
import Unchain.Lib.Ensures

/-!
What the commands of the run loop leave as it is.

`Counted` commands leave the iteration and the marks; `Busy` ones also report no terminal; `Steady`
ones also build no continuation; `Calm` ones also leave a run that awaits no interaction that way.
-/

namespace Unchain.Kernel

open Lib Lib.Effect Python

/-! ### The relations -/

structure Counted (w w' : World) : Prop where
  iteration : w'.state.iteration = w.state.iteration
  marks : w'.marks = w.marks

structure Busy (w w' : World) : Prop extends Counted w w' where
  identity : w'.state.identity = w.state.identity
  observer : w'.observer = w.observer
  events : ∃ es, w'.events = w.events ++ es ∧ ∀ e ∈ es, e.type.isTerminal = false

structure Steady (w w' : World) : Prop extends Busy w w' where
  continuation : w'.state.continuation = none ∨ w'.state.continuation = w.state.continuation

structure Calm (w w' : World) : Prop extends Steady w w' where
  awaits : w'.state.runStatus = .awaitingInteraction → w.state.runStatus = .awaitingInteraction

theorem Counted.refl (w : World) : Counted w w := ⟨rfl, rfl⟩

variable (w₁ w₂ w₃ : World)

theorem Counted.trans (h : Counted w₁ w₂) (h' : Counted w₂ w₃) : Counted w₁ w₃ :=
  ⟨h'.iteration.trans h.iteration, h'.marks.trans h.marks⟩

theorem Busy.refl (w : World) : Busy w w :=
  ⟨.refl w, rfl, rfl, [], by simp, by simp⟩

theorem Busy.trans (h : Busy w₁ w₂) (h' : Busy w₂ w₃) : Busy w₁ w₃ := by
  obtain ⟨es, first, quiet⟩ := h.events
  obtain ⟨es', next, quiet'⟩ := h'.events
  refine ⟨h.toCounted.trans _ _ _ h'.toCounted, h'.identity.trans h.identity,
    h'.observer.trans h.observer, es ++ es', ?_, ?_⟩
  · rw [next, first, List.append_assoc]
  · intro e mem
    rcases List.mem_append.mp mem with mem | mem
    · exact quiet e mem
    · exact quiet' e mem

theorem Steady.refl (w : World) : Steady w w := ⟨.refl w, .inr rfl⟩

theorem Steady.trans (h : Steady w₁ w₂) (h' : Steady w₂ w₃) : Steady w₁ w₃ := by
  refine ⟨h.toBusy.trans _ _ _ h'.toBusy, ?_⟩
  rcases h'.continuation with none | same
  · exact .inl none
  · rw [same]
    exact h.continuation

theorem Calm.refl (w : World) : Calm w w := ⟨.refl w, fun h => h⟩

theorem Calm.trans (h : Calm w₁ w₂) (h' : Calm w₂ w₃) : Calm w₁ w₃ :=
  ⟨h.toSteady.trans _ _ _ h'.toSteady, fun awaits => h.awaits (h'.awaits awaits)⟩

theorem calm_of_state {w w' : World} (iteration : w'.state.iteration = w.state.iteration)
    (identity : w'.state.identity = w.state.identity) (marks : w'.marks = w.marks)
    (observer : w'.observer = w.observer) (events : w'.events = w.events)
    (continuation : w'.state.continuation = none ∨ w'.state.continuation = w.state.continuation)
    (awaits : w'.state.runStatus = .awaitingInteraction →
      w.state.runStatus = .awaitingInteraction) : Calm w w' :=
  ⟨⟨⟨⟨iteration, marks⟩, identity, observer, [], by simp [events], by simp⟩, continuation⟩, awaits⟩

/-! ### The commands -/

section Commands

variable {host : LoopHost} {c : RunCall}

theorem calm_tick : Within Calm tick := by
  intro w
  exact calm_of_state rfl rfl rfl rfl rfl (.inr rfl) fun h => h

theorem calm_raiseSome (e : Option PyError) : Within Calm (raiseSome e) := by
  cases e with
  | none => exact within_pure Calm.refl ()
  | some e => exact within_throw Calm.refl e

theorem calm_ask : Within Calm (ask host) :=
  calm_tick.bind Calm.trans fun now => calm_raiseSome (host.fails now)

theorem within_onlyIf {R : World → World → Prop} (refl : ∀ s, R s s) {m : LoopM Unit}
    (h : Within R m) (b : Bool) : Within R (onlyIf b m) := by
  cases b with
  | true => exact h
  | false => exact within_pure refl ()

theorem calm_guardCall : Within Calm (guardCall host c) := within_onlyIf Calm.refl calm_ask _

theorem calm_record {e : Event} (quiet : e.type.isTerminal = false) (started : e.type ≠ .runStarted)
    (w : World) : Calm w (record c e w) := by
  have noted : ∀ o : Observer, o.note e.type e.runId = o := by
    intro o
    simp [Observer.note, quiet, started]
  refine ⟨⟨⟨⟨rfl, rfl⟩, rfl, ?_, ?_⟩, .inr rfl⟩, fun h => h⟩
  · simp [record, noted]
  · unfold record
    cases c.callback with
    | true => exact ⟨[e], rfl, by simpa using quiet⟩
    | false => exact ⟨[], by simp, by simp⟩

variable {type : EventType}

theorem calm_emitEvent (quiet : type.isTerminal = false) (started : type ≠ .runStarted) (iteration : Int) :
    Within Calm (emitEvent host c type iteration) := by
  refine (within_modify (calm_record quiet started)).bind Calm.trans fun _ => ?_
  exact within_onlyIf Calm.refl
    (calm_tick.bind Calm.trans fun now => calm_raiseSome (host.callback now)) _

theorem within_get_bind {R : World → World → Prop} {α : Type} (refl : ∀ s, R s s)
    (trans : ∀ s t u, R s t → R t u → R s u) {f : World → LoopM α} (h : ∀ w, Within R (f w)) :
    Within R (get >>= f) :=
  (within_get refl).bind trans h

theorem calm_emitBuilt (quiet : type.isTerminal = false) (started : type ≠ .runStarted)
    (iteration : LoopState → Int) :
    Within Calm (emitBuilt host c type iteration) :=
  calm_ask.bind Calm.trans fun _ =>
    within_get_bind Calm.refl Calm.trans fun w => calm_emitEvent quiet started (iteration w.state)

theorem calm_hooks (names : List String) (iteration : Int) :
    Within Calm (each (fun name => emitEvent host c (.hook name) iteration) names) :=
  within_each Calm.refl Calm.trans names fun _ _ => calm_emitEvent rfl (by simp) iteration

theorem calm_applied (h : HookRun) (w : World) : Calm w { w with state := h.applied w.state } := by
  refine calm_of_state rfl rfl rfl rfl rfl ?_ ?_
  · simp only [HookRun.applied]
    cases h.clears <;> simp
  · simp only [HookRun.applied]
    cases h.status <;> simp

theorem calm_dispatchPhase : Within Calm (dispatchPhase host c) := by
  refine calm_tick.bind Calm.trans fun now => ?_
  refine (within_modify (calm_applied (host.hook now))).bind Calm.trans fun _ => ?_
  refine within_get_bind Calm.refl Calm.trans fun w => ?_
  exact (calm_hooks _ _).bind Calm.trans fun _ => calm_raiseSome _

theorem calm_guardedPhase : Within Calm (guardedPhase host c) :=
  calm_dispatchPhase.bind Calm.trans fun _ => calm_guardCall

theorem calm_dispatchPersisted : Within Calm (dispatchPersisted host c) :=
  calm_guardCall.bind Calm.trans fun _ =>
    calm_guardedPhase.bind Calm.trans fun _ => calm_guardedPhase

theorem calm_dispatchOnResume : Within Calm (dispatchOnResume host c) :=
  calm_guardCall.bind Calm.trans fun _ => calm_guardedPhase

theorem calm_emitTerminal (quiet : type.isTerminal = false) (started : type ≠ .runStarted)
    (iteration : LoopState → Int) :
    Within Calm (emitTerminal host c type iteration) :=
  calm_ask.bind Calm.trans fun _ => calm_guardCall.bind Calm.trans fun _ =>
    within_get_bind Calm.refl Calm.trans fun w =>
      (calm_emitEvent quiet started (iteration w.state)).bind Calm.trans fun _ => calm_guardCall

theorem calm_buildKernelRunResult (status : RunStatus) :
    Within Calm (buildKernelRunResult host status) :=
  calm_ask.bind Calm.trans fun _ =>
    within_get_bind Calm.refl Calm.trans fun _ => within_pure Calm.refl _

theorem calm_releaseForWait : Within Calm (releaseForWait host c) :=
  within_get_bind Calm.refl Calm.trans fun _ => within_onlyIf Calm.refl calm_guardCall _

theorem calm_waitForAnswer : Within Calm (waitForAnswer host c) := by
  refine calm_tick.bind Calm.trans fun now => ?_
  refine (within_lift Calm.refl _).bind Calm.trans fun response => ?_
  refine Within.bind Calm.trans (within_modify fun w => ?_) fun _ => ?_
  · exact calm_of_state rfl rfl rfl rfl rfl (.inr rfl) fun h => h
  · exact calm_guardCall.bind Calm.trans fun _ => within_pure Calm.refl response

theorem calm_setState {f : LoopState → LoopState} (iteration : ∀ s, (f s).iteration = s.iteration)
    (identity : ∀ s, (f s).identity = s.identity)
    (continuation : ∀ s, (f s).continuation = none ∨ (f s).continuation = s.continuation)
    (awaits : ∀ s, (f s).runStatus = .awaitingInteraction →
      s.runStatus = .awaitingInteraction) : Within Calm (setState f) :=
  within_modify fun w => calm_of_state (iteration w.state) (identity w.state) rfl rfl rfl
    (continuation w.state) (awaits w.state)

theorem steady_finishAwaitingRun (status : RunStatus) :
    Within Steady (finishAwaitingRun host c status) := by
  refine Within.bind Steady.trans (within_modify fun w => ?_) fun _ => ?_
  · exact ⟨⟨⟨rfl, rfl⟩, rfl, rfl, [], by simp, by simp⟩, .inr rfl⟩
  · exact (calm_dispatchPersisted.mono fun _ _ h => h.toSteady).bind Steady.trans fun _ =>
      (calm_buildKernelRunResult status).mono fun _ _ h => h.toSteady

theorem calm_dropBudgetQuestion (asked : Bool) : Within Calm (dropBudgetQuestion asked) := by
  refine calm_setState ?_ ?_ ?_ ?_ <;> intro s <;> cases asked <;> simp

theorem busy_beforeMaxWait (durable : Bool) (effectiveMax : Int) :
    Within Busy (beforeMaxWait host c durable effectiveMax) := by
  have waits : Within Calm (setState fun s => { s with runStatus := .maxIterations }) :=
    calm_setState (fun _ => rfl) (fun _ => rfl) (fun _ => .inr rfl) (by simp)
  have suspends : Within Busy (suspendForBudget host effectiveMax) :=
    (calm_ask.mono fun _ _ h => h.toBusy).bind Busy.trans fun _ => within_modify fun w =>
      ⟨⟨rfl, rfl⟩, rfl, rfl, [], by simp, by simp⟩
  have reports : Within Calm (onlyIf durable do
      emitEvent host c .interactionRequested (← get).state.iteration) :=
    within_onlyIf Calm.refl
      (within_get_bind Calm.refl Calm.trans fun w => calm_emitEvent rfl (by simp) _) durable
  have after : Within Calm (do
      dispatchPersisted host c
      releaseForWait host c
      onlyIf durable do
        emitEvent host c .interactionRequested (← get).state.iteration) :=
    calm_dispatchPersisted.bind Calm.trans fun _ => calm_releaseForWait.bind Calm.trans
      fun _ => reports
  exact (waits.mono fun _ _ h => h.toBusy).bind Busy.trans fun _ =>
    (within_onlyIf Busy.refl suspends durable).bind Busy.trans fun _ =>
      after.mono fun _ _ h => h.toBusy

theorem busy_dispatchToolPhase : Within Busy (dispatchToolPhase host c) := by
  refine (calm_tick.mono fun _ _ h => h.toBusy).bind Busy.trans fun now => ?_
  refine Within.bind Busy.trans (within_modify fun w => ?_) fun _ =>
    calm_dispatchPhase.mono fun _ _ h => h.toBusy
  cases host.suspend now with
  | none => exact Busy.refl w
  | some kind => cases kind <;> exact ⟨⟨rfl, rfl⟩, rfl, rfl, [], by simp, by simp⟩

theorem busy_toolCallPhases (calls : Nat) : Within Busy (toolCallPhases host c calls) := by
  induction calls with
  | zero => exact within_pure Busy.refl ()
  | succ calls ih =>
    have guard : Within Busy (guardCall host c) := calm_guardCall.mono fun _ _ h => h.toBusy
    exact guard.bind Busy.trans fun _ => busy_dispatchToolPhase.bind Busy.trans fun _ =>
      guard.bind Busy.trans fun _ => ih

theorem busy_toolBatch (calls : Nat) : Within Busy (toolBatch host c calls) :=
  (busy_toolCallPhases calls).bind Busy.trans fun _ => busy_dispatchToolPhase.bind Busy.trans
    fun _ => calm_guardCall.mono fun _ _ h => h.toBusy

/-! ### Terminals -/

theorem counted_record (e : Event) (w : World) : Counted w (record c e w) := ⟨rfl, rfl⟩

theorem counted_emitEvent (iteration : Int) : Within Counted (emitEvent host c type iteration) := by
  refine (within_modify (counted_record _)).bind Counted.trans fun _ => ?_
  exact within_onlyIf Counted.refl
    ((calm_tick.bind Calm.trans fun now => calm_raiseSome (host.callback now)).mono
      fun _ _ h => h.toCounted) _

theorem counted_of_calm {α : Type} {m : LoopM α} (h : Within Calm m) : Within Counted m :=
  h.mono fun _ _ h => h.toCounted

theorem counted_emitBuilt (iteration : LoopState → Int) :
    Within Counted (emitBuilt host c type iteration) :=
  (counted_of_calm calm_ask).bind Counted.trans fun _ =>
    within_get_bind Counted.refl Counted.trans fun w => counted_emitEvent (iteration w.state)

theorem counted_emitTerminal (iteration : LoopState → Int) :
    Within Counted (emitTerminal host c type iteration) :=
  (counted_of_calm calm_ask).bind Counted.trans fun _ =>
    (counted_of_calm calm_guardCall).bind Counted.trans fun _ =>
      within_get_bind Counted.refl Counted.trans fun w =>
        (counted_emitEvent (iteration w.state)).bind Counted.trans fun _ =>
          counted_of_calm calm_guardCall

/-! ### The failure bundle -/

/-- The observer that was there before the run. -/
def World.observedBy (w : World) (observer : Option Observer) : World :=
  { w with observer := observer }

theorem ensures_runStateWithFailureBundle {rounds : Nat} {w : World}
    {ok : Option RunResult → World → Prop} {err : PyError → World → Prop}
    (ran : Ensures (runState host c rounds) (w.observedBy (some ⟨"", false⟩))
      (fun returned w' => ok returned (w'.observedBy w.observer))
      (fun e w' => Ensures (recordFailure host c e) w'
        (fun _ w'' => err e (w''.observedBy w.observer))
        (fun e' w'' => err e' (w''.observedBy w.observer)))) :
    Ensures (runStateWithFailureBundle host c rounds) w ok err := by
  unfold Ensures at ran ⊢
  unfold runStateWithFailureBundle
  cases outcome : runState host c rounds (w.observedBy (some ⟨"", false⟩)) with
  | ok returned w' =>
    rw [World.observedBy] at outcome
    rw [outcome]
    rw [World.observedBy, outcome] at ran
    exact ran
  | error e w' =>
    rw [World.observedBy] at outcome
    rw [outcome]
    rw [World.observedBy, outcome] at ran
    dsimp only at ran ⊢
    cases failed : recordFailure host c e w' with
    | ok _ w'' | error e' w'' =>
      rw [failed] at ran
      exact ran

end Commands

end Unchain.Kernel
