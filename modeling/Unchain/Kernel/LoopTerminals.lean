import Unchain.Kernel.LoopBudget
import Unchain.Lib.OnlyLast

/-!
The terminal events of a run.

Before its end a run is `Going`: it has reported no canonical terminal, and no terminal at all unless
it asked for more budget. Reporting a terminal makes it `Shut`, after which nothing is reported, and
the failure bundle reports only for a run that noted no terminal.
-/

namespace Unchain.Kernel

open Lib Lib.Effect Python Interaction

/-! ### Reports -/

structure Reports (w w' : World) : Prop where
  identity : w'.state.identity = w.state.identity
  observer : w'.observer = w.observer
  asked : .asked ∈ w'.marks ↔ .asked ∈ w.marks
  events : ∃ es, w'.events = w.events ++ es ∧ ∀ e ∈ es, e.type.isTerminal = false

/-- Commands that report nothing. -/
structure Silent (w w' : World) : Prop where
  identity : w'.state.identity = w.state.identity
  observer : w'.observer = w.observer
  marks : w'.marks = w.marks
  events : w'.events = w.events

theorem Reports.refl (w : World) : Reports w w := ⟨rfl, rfl, Iff.rfl, [], by simp, by simp⟩

theorem Reports.trans (w₁ w₂ w₃ : World) (h : Reports w₁ w₂) (h' : Reports w₂ w₃) :
    Reports w₁ w₃ := by
  obtain ⟨es, first, quiet⟩ := h.events
  obtain ⟨es', next, quiet'⟩ := h'.events
  refine ⟨h'.identity.trans h.identity, h'.observer.trans h.observer, h'.asked.trans h.asked,
    es ++ es', ?_, ?_⟩
  · rw [next, first, List.append_assoc]
  · intro e mem
    rcases List.mem_append.mp mem with mem | mem
    · exact quiet e mem
    · exact quiet' e mem

theorem Silent.refl (w : World) : Silent w w := ⟨rfl, rfl, rfl, rfl⟩

theorem Silent.trans (w₁ w₂ w₃ : World) (h : Silent w₁ w₂) (h' : Silent w₂ w₃) : Silent w₁ w₃ :=
  ⟨h'.identity.trans h.identity, h'.observer.trans h.observer, h'.marks.trans h.marks,
    h'.events.trans h.events⟩

theorem Busy.reports {w w' : World} (h : Busy w w') : Reports w w' :=
  ⟨h.identity, h.observer, by rw [h.marks], h.events⟩

theorem Silent.reports {w w' : World} (h : Silent w w') : Reports w w' :=
  ⟨h.identity, h.observer, by rw [h.marks], [], by simp [h.events], by simp⟩

section Commands

variable {host : LoopHost} {c : RunCall}

theorem reports_of_calm {α : Type} {m : LoopM α} (h : Within Calm m) : Within Reports m :=
  h.mono fun _ _ h => h.toBusy.reports

theorem reports_setState {f : LoopState → LoopState} (identity : ∀ s, (f s).identity = s.identity) :
    Within Reports (setState f) :=
  within_modify fun w => ⟨identity w.state, rfl, Iff.rfl, [], by simp, by simp⟩

theorem reports_mark {m : Mark} (other : m ≠ .asked) : Within Reports (mark m) :=
  within_modify fun w => ⟨rfl, rfl, by simp [Ne.symm other], [], by simp, by simp⟩

theorem reports_toolBatch (calls : Nat) : Within Reports (toolBatch host c calls) :=
  (busy_toolBatch calls).mono fun _ _ h => h.reports

theorem reports_get_bind {α : Type} {f : World → LoopM α} (h : ∀ w, Within Reports (f w)) :
    Within Reports (get >>= f) := within_get_bind Reports.refl Reports.trans h

theorem reports_stepOnce (maxIterations : Int) : Within Reports (stepOnce host c maxIterations) := by
  refine reports_get_bind fun w => ?_
  refine (reports_mark (by simp)).bind Reports.trans fun _ => ?_
  refine (reports_of_calm calm_ask).bind Reports.trans fun _ => ?_
  refine (reports_of_calm calm_guardedPhase).bind Reports.trans fun _ => ?_
  refine (reports_of_calm calm_tick).bind Reports.trans fun now => ?_
  refine (reports_of_calm (calm_hooks _ _)).bind Reports.trans fun _ => ?_
  refine (reports_of_calm (calm_raiseSome _)).bind Reports.trans fun _ => ?_
  refine (reports_of_calm calm_ask).bind Reports.trans fun _ => ?_
  refine Within.bind Reports.trans (reports_setState (by intro s; rfl)) fun _ => ?_
  refine (reports_of_calm calm_guardedPhase).bind Reports.trans fun _ => ?_
  refine reports_get_bind fun w => ?_
  refine ((waiting_finishTurn _).mono fun _ _ h => h.reports).bind Reports.trans fun _ => ?_
  exact Within.bind Reports.trans (reports_setState (by intro s; rfl)) fun _ => within_pure Reports.refl _

theorem reports_dispatchToolApprovalResume (continuation : Dict) :
    Within Reports (dispatchToolApprovalResume host c continuation) := by
  refine reports_get_bind fun w => (within_lift Reports.refl _).bind Reports.trans fun read => ?_
  refine (reports_of_calm calm_ask).bind Reports.trans fun _ => ?_
  refine Within.bind Reports.trans (reports_setState (by intro s; rfl)) fun _ => ?_
  exact (reports_toolBatch _).bind Reports.trans fun _ => reports_setState fun _ => rfl

theorem reports_answerApproval (suspended : RunResult) :
    Within Reports (answerApproval host c suspended) := by
  unfold answerApproval
  split
  · refine (within_lift Reports.refl _).bind Reports.trans fun _ => ?_
    exact (reports_of_calm calm_waitForAnswer).bind Reports.trans fun _ =>
      reports_dispatchToolApprovalResume _
  · exact within_pure Reports.refl ()

theorem silent_tick : Within Silent tick := fun _ => ⟨rfl, rfl, rfl, rfl⟩

theorem silent_raiseSome (e : Option PyError) : Within Silent (raiseSome e) := by
  cases e with
  | none => exact within_pure Silent.refl ()
  | some e => exact within_throw Silent.refl e

theorem silent_ask : Within Silent (ask host) :=
  silent_tick.bind Silent.trans fun now => silent_raiseSome (host.fails now)

theorem silent_guardCall : Within Silent (guardCall host c) :=
  within_onlyIf Silent.refl silent_ask _

end Commands

/-! ### Going and shut -/

section States

variable (host : LoopHost) (c : RunCall) (base : List Event)

/-- A run that goes on, with the events `es` so far, `noted` when its observer saw a terminal. -/
structure Going (noted : Bool) (es : List Event) (w : World) : Prop where
  identity : w.state.identity = some ⟨host.executionId, c.runId⟩
  observer : w.observer = some ⟨c.runId, noted⟩
  events : w.events = base ++ es
  undecided : ∀ e ∈ es, e.type.isCanonical = false
  unasked : .asked ∉ w.marks → noted = false
  unnoted : noted = false → ∀ e ∈ es, e.type.isTerminal = false
  asked : .asked ∈ w.marks → c.callback = true →
    ∃ e ∈ es, e.type = .runMaxIterations ∧ e.runId = c.runId

def Runs (w : World) : Prop := ∃ noted es, Going host c base noted es w

structure Shut (last : Event) (es : List Event) (w : World) : Prop where
  identity : w.state.identity = some ⟨host.executionId, c.runId⟩
  observer : w.observer = some ⟨c.runId, true⟩
  events : w.events = base ++ if c.callback then es ++ [last] else es
  undecided : ∀ e ∈ es, e.type.isCanonical = false
  unasked : .asked ∉ w.marks → ∀ e ∈ es, e.type.isTerminal = false

def Shuts (type : EventType) (w : World) : Prop :=
  ∃ iteration es, Shut host c base ⟨type, c.runId, iteration⟩ es w

def Stands (w : World) : Prop := Runs host c base w ∨ ∃ type, Shuts host c base type w

end States

section Transitions

variable {host : LoopHost} {c : RunCall} {base : List Event} {w w' : World}

theorem Runs.reports (h : Runs host c base w) (reports : Reports w w') : Runs host c base w' := by
  obtain ⟨noted, es, going⟩ := h
  obtain ⟨es', events, quiet⟩ := reports.events
  refine ⟨noted, es ++ es', ?_⟩
  constructor
  · exact reports.identity.trans going.identity
  · exact reports.observer.trans going.observer
  · rw [events, going.events, List.append_assoc]
  · intro e mem
    rcases List.mem_append.mp mem with mem | mem
    · exact going.undecided e mem
    · cases decided : e.type.isCanonical with
      | false => rfl
      | true =>
        have := EventType.isTerminal_of_isCanonical decided
        rw [quiet e mem] at this
        cases this
  · intro unasked
    exact going.unasked fun asked => unasked (reports.asked.mpr asked)
  · intro unnoted e mem
    rcases List.mem_append.mp mem with mem | mem
    · exact going.unnoted unnoted e mem
    · exact quiet e mem
  · intro asked called
    obtain ⟨e, mem, isMax⟩ := going.asked (reports.asked.mp asked) called
    exact ⟨e, List.mem_append_left _ mem, isMax⟩

/-- A run that raises after reports only stands where it is. -/
theorem Runs.stands (h : Runs host c base w) (_ : PyError) (w' : World) (reports : Reports w w') :
    Stands host c base w' := .inl (h.reports reports)

theorem Runs.shuts (h : Runs host c base w) {type : EventType} (ends : type.isTerminal = true)
    (iteration : Int) : Shuts host c base type (record c ⟨type, c.runId, iteration⟩ w) := by
  obtain ⟨noted, es, going⟩ := h
  have notes : ∀ o : Observer, o.runId = c.runId → o.note type c.runId = ⟨c.runId, true⟩ := by
    rintro ⟨_, terminal⟩ rfl
    have : type ≠ .runStarted := by
      rintro rfl
      cases ends
    simp [Observer.note, this, ends]
  refine ⟨iteration, es, ?_⟩
  constructor
  · exact going.identity
  · simp only [record, going.observer, Option.map_some, notes]
  · cases called : c.callback <;> simp [record, called, going.events]
  · exact going.undecided
  · exact fun unasked => going.unnoted (going.unasked unasked)

theorem Shuts.silent {type : EventType} (h : Shuts host c base type w) (silent : Silent w w') :
    Shuts host c base type w' := by
  obtain ⟨iteration, es, shut⟩ := h
  refine ⟨iteration, es, ?_⟩
  constructor
  · exact silent.identity.trans shut.identity
  · exact silent.observer.trans shut.observer
  · exact silent.events.trans shut.events
  · exact shut.undecided
  · rw [silent.marks]
    exact shut.unasked

/-- A run that asks for more budget goes on although it noted a terminal. -/
theorem Shuts.asks (h : Shuts host c base .runMaxIterations w) :
    Runs host c base { w with marks := w.marks ++ [.asked] } := by
  obtain ⟨iteration, es, shut⟩ := h
  let last : Event := ⟨.runMaxIterations, c.runId, iteration⟩
  refine ⟨true, if c.callback then es ++ [last] else es, ?_⟩
  constructor
  · exact shut.identity
  · exact shut.observer
  · exact shut.events
  · intro e mem
    cases called : c.callback with
    | false =>
      rw [called] at mem
      exact shut.undecided e mem
    | true =>
      rw [called] at mem
      rcases List.mem_append.mp mem with mem | mem
      · exact shut.undecided e mem
      · rw [List.mem_singleton.mp mem]
        rfl
  · intro unasked
    exact absurd (List.mem_append_right _ (List.mem_singleton.mpr rfl)) unasked
  · exact nofun
  · intro _ called
    exact ⟨last, by simp [called], rfl, rfl⟩

end Transitions

/-! ### Rounds -/

section Rounds

variable {host : LoopHost} {c : RunCall} {base : List Event} {w : World}

theorem emitEvent_shuts (h : Runs host c base w) {type : EventType} (ends : type.isTerminal = true)
    (iteration : Int) :
    Ensures (emitEvent host c type iteration) w (fun _ => Shuts host c base type)
      (fun _ => Shuts host c base type) := by
  have shut := h.shuts ends iteration
  refine ensures_modify_bind ?_
  have called : Within Silent (onlyIf c.callback do
      let now ← tick
      raiseSome (host.callback now)) :=
    within_onlyIf Silent.refl (silent_tick.bind Silent.trans fun now => silent_raiseSome _) _
  exact ensures_frame called (fun _ _ silent => shut.silent silent)
    fun _ _ silent => shut.silent silent

theorem emitTerminal_shuts (h : Runs host c base w) {type : EventType}
    (ends : type.isTerminal = true) (iteration : LoopState → Int) :
    Ensures (emitTerminal host c type iteration) w (fun _ => Shuts host c base type)
      (fun _ w' => Runs host c base w' ∨ Shuts host c base type w') := by
  refine ensures_frame_bind (reports_of_calm calm_ask) (fun _ w₁ h₁ => ?_)
    fun _ _ reports => .inl (h.reports reports)
  refine ensures_frame_from Reports.trans (reports_of_calm calm_guardCall) h₁
    (fun _ w₂ h₂ => ?_) fun _ _ reports => .inl (h.reports reports)
  refine ensures_get_bind (ensures_bind ?_)
  refine (emitEvent_shuts (h.reports h₂) ends (iteration w₂.state)).mono (fun _ w₃ shut => ?_)
    fun _ _ shut => .inr shut
  exact ensures_frame silent_guardCall (fun _ _ silent => shut.silent silent)
    fun _ _ silent => .inr (shut.silent silent)

theorem emitBuilt_shuts (h : Runs host c base w) {type : EventType} (ends : type.isTerminal = true)
    (iteration : LoopState → Int) :
    Ensures (emitBuilt host c type iteration) w (fun _ => Shuts host c base type)
      (fun _ w' => Runs host c base w' ∨ Shuts host c base type w') := by
  refine ensures_frame_bind (reports_of_calm calm_ask) (fun _ w₁ h₁ => ?_)
    fun _ _ reports => .inl (h.reports reports)
  refine ensures_get_bind ?_
  exact (emitEvent_shuts (h.reports h₁) ends (iteration w₁.state)).mono (fun _ _ shut => shut)
    fun _ _ shut => .inr shut

def Finished (host : LoopHost) (c : RunCall) (base : List Event) (result : RunResult) (w : World) :
    Prop :=
  match result.status with
  | .completed => Shuts host c base .runCompleted w
  | .maxIterations => Shuts host c base .runMaxIterations w ∨
      Runs host c base w ∧ .asked ∈ w.marks
  | _ => Runs host c base w

theorem buildKernelRunResult_status (status : RunStatus) (w : World) :
    Ensures (buildKernelRunResult host status) w
      (fun result w' => result.status = status ∧ Silent w w') (fun _ w' => Silent w w') :=
  ensures_frame_bind silent_ask (fun _ _ h => ensures_get_bind (ensures_pure ⟨rfl, h⟩))
    fun _ _ h => h

theorem finishCompletedRun_finished (h : Runs host c base w) : Ensures (finishCompletedRun host c) w
      (fun result w' => result.status = .completed ∧ Shuts host c base .runCompleted w')
      (fun _ w' => Stands host c base w') := by
  refine ensures_frame_bind (reports_setState (by intro s; rfl)) (fun _ w₁ h₁ => ?_) h.stands
  refine ensures_frame_from Reports.trans (reports_of_calm calm_dispatchPersisted) h₁
    (fun _ w₂ h₂ => ?_) h.stands
  refine ensures_frame_from Reports.trans (reports_of_calm (calm_emitTerminal rfl (by simp) _))
    h₂ (fun _ w₃ h₃ => ?_) h.stands
  refine ensures_bind ((emitTerminal_shuts (h.reports h₃) rfl _).mono (fun _ w₄ shut => ?_)
    fun _ _ ended => ended.imp_right fun shut => ⟨_, shut⟩)
  exact (buildKernelRunResult_status _ w₄).mono (fun _ _ built => ⟨built.1, shut.silent built.2⟩)
    fun _ _ silent => .inr ⟨_, shut.silent silent⟩

/-- A limit that nothing was asked about is reported here; another one was reported before. -/
theorem finishMaxIterationsRun_finished (h : Runs host c base w) {emits : Bool}
    (asked : emits = false → .asked ∈ w.marks) : Ensures (finishMaxIterationsRun host c emits) w
      (fun result w' => result.status = .maxIterations ∧
        (Shuts host c base .runMaxIterations w' ∨ Runs host c base w' ∧ .asked ∈ w'.marks))
      (fun _ w' => Stands host c base w') := by
  refine ensures_frame_bind (reports_setState (by intro s; rfl)) (fun _ w₁ h₁ => ?_) h.stands
  refine ensures_frame_from Reports.trans (reports_of_calm calm_dispatchPersisted) h₁
    (fun _ w₂ h₂ => ?_) h.stands
  cases emits with
  | true =>
    refine ensures_bind ((emitTerminal_shuts (h.reports h₂) rfl _).mono (fun _ w₃ shut => ?_)
      fun _ _ ended => ended.imp_right fun shut => ⟨_, shut⟩)
    exact (buildKernelRunResult_status _ w₃).mono
      (fun _ _ built => ⟨built.1, .inl (shut.silent built.2)⟩)
      fun _ _ silent => .inr ⟨_, shut.silent silent⟩
  | false =>
    refine ensures_frame_from Reports.trans (within_pure Reports.refl ()) h₂
      (fun _ w₃ h₃ => ?_) h.stands
    have goes := h.reports h₃
    refine (buildKernelRunResult_status _ w₃).mono (fun _ _ built => ⟨built.1, .inr ?_⟩)
      fun _ _ silent => .inl (goes.reports silent.reports)
    refine ⟨goes.reports built.2.reports, ?_⟩
    rw [built.2.marks]
    exact h₃.asked.mpr (asked rfl)

/-- Asking for more budget reports a terminal, after which the run may go on. -/
theorem resolveMaxIterationsBoundary_runs (h : Runs host c base w) (currentMax : Int) :
    Ensures (resolveMaxIterationsBoundary host c currentMax) w
      (fun boundary w' => Runs host c base w' ∧ (boundary.shouldFinish = true →
        boundary.emitRunMaxIterationsOnFinish = false → .asked ∈ w'.marks))
      (fun _ w' => Stands host c base w') := by
  refine ensures_get_bind ?_
  by_cases below : w.state.iteration < currentMax
  case pos =>
    rw [if_pos below]
    exact ensures_pure ⟨h, nofun⟩
  rw [if_neg below]
  by_cases asks : c.onMaxIterations = true
  case neg =>
    rw [if_pos (by simpa using asks)]
    exact ensures_pure ⟨h, nofun⟩
  rw [if_neg (by simpa using asks)]
  refine ensures_frame_bind ((busy_beforeMaxWait _ _).mono fun _ _ h => h.reports)
    (fun _ w₁ h₁ => ?_) h.stands
  refine ensures_bind ((emitBuilt_shuts (h.reports h₁) rfl _).mono (fun _ w₂ shut => ?_)
    fun _ _ ended => ended.imp_right fun shut => ⟨_, shut⟩)
  refine ensures_modify_bind ?_
  have goes := shut.asks
  refine ensures_frame_bind (reports_of_calm calm_waitForAnswer) (fun response w₃ h₃ => ?_)
    goes.stands
  have goes := goes.reports h₃
  have asked : .asked ∈ w₃.marks := h₃.asked.mpr (by simp)
  split
  · refine ensures_lift_bind (fun extra _ => ?_) fun _ _ => .inl goes
    refine ensures_frame_bind (reports_mark (by simp)) (fun _ w₄ h₄ => ?_) goes.stands
    exact ensures_pure ⟨goes.reports h₄, nofun⟩
  · exact ensures_pure ⟨goes, fun _ _ => asked⟩

def RoundEnds (host : LoopHost) (c : RunCall) (base : List Event) (round : Option Round) (w : World) :
    Prop :=
  match round with
  | some (.done result) => Finished host c base result w
  | _ => Runs host c base w

theorem finished_of_reports {result : RunResult} (h : Runs host c base w)
    (awaits : result.status ≠ .completed ∧ result.status ≠ .maxIterations) :
    Finished host c base result w := by
  unfold Finished
  split
  · exact absurd ‹_› awaits.1
  · exact absurd ‹_› awaits.2
  · exact h

theorem finishAwaitingRun_status (status : RunStatus) (w : World) :
    Ensures (finishAwaitingRun host c status) w
      (fun result w' => result.status = status ∧ Reports w w') (fun _ w' => Reports w w') := by
  refine ensures_frame_bind (reports_setState (by intro s; rfl)) (fun _ w₁ h₁ => ?_) fun _ _ h => h
  refine ensures_frame_from Reports.trans (reports_of_calm calm_dispatchPersisted) h₁
    (fun _ w₂ h₂ => ?_) fun _ _ h => h
  exact (buildKernelRunResult_status status w₂).mono
    (fun _ _ built => ⟨built.1, h₂.trans _ _ _ built.2.reports⟩)
    fun _ _ silent => h₂.trans _ _ _ silent.reports

variable {rounds : Nat}

theorem approvals_suspended (emitted : Bool) (w : World) :
    Ensures (approvals host c rounds emitted) w
      (fun ended w' => Reports w w' ∧
        ∀ result, ended = some (some result) → result.status = .awaitingInteraction)
      (fun _ w' => Reports w w') := by
  induction rounds generalizing emitted w with
  | zero => exact ensures_pure ⟨.refl w, nofun⟩
  | succ rounds ih =>
    have stops : ∀ (e : PyError) (w' : World), Reports w w' → Reports w w' := fun _ _ h => h
    refine ensures_get_bind ?_
    split
    · exact ensures_pure ⟨.refl w, nofun⟩
    refine ensures_frame_bind (within_onlyIf Reports.refl (reports_of_calm calm_ask) _)
      (fun _ w₁ h₁ => ?_) stops
    refine ensures_bind ((finishAwaitingRun_status _ w₁).mono (fun suspended w₂ ended => ?_)
      fun _ _ h => h₁.trans _ _ _ h)
    obtain ⟨status, h₂⟩ := ended
    have h₂ := h₁.trans _ _ _ h₂
    refine ensures_lift_bind (fun _ _ => ?_) fun _ _ => h₂
    refine ensures_frame_from Reports.trans (reports_of_calm calm_releaseForWait) h₂
      (fun _ w₃ h₃ => ?_) stops
    refine ensures_frame_from Reports.trans (within_onlyIf Reports.refl
      (reports_of_calm (calm_emitBuilt rfl (by simp) _)) _) h₃ (fun _ w₄ h₄ => ?_) stops
    refine ensures_get_bind (ensures_frame_from Reports.trans
      (reports_of_calm (calm_emitEvent rfl (by simp) _)) h₄ (fun _ w₅ h₅ => ?_) stops)
    split
    · refine ensures_frame_from Reports.trans (reports_answerApproval suspended) h₅
        (fun _ w₆ h₆ => ?_) stops
      exact (ih true w₆).mono (fun _ _ ended => ⟨h₆.trans _ _ _ ended.1, ended.2⟩)
        fun _ _ h => h₆.trans _ _ _ h
    · exact ensures_pure ⟨h₅, fun _ same => by cases same; exact status⟩

variable {effectiveMax : Int}

section

variable (h : Runs host c base w)

include h

theorem awaitApprovals_ends :
    Ensures (awaitApprovals host c rounds effectiveMax) w (RoundEnds host c base)
      (fun _ w' => Stands host c base w') := by
  refine ensures_bind ((approvals_suspended false w).mono (fun ended w₁ suspended => ?_) h.stands)
  obtain ⟨h₁, status⟩ := suspended
  have goes := h.reports h₁
  rcases ended with _ | _ | suspended
  case none => exact ensures_pure goes
  case some.some =>
    exact ensures_pure (finished_of_reports goes (by simp [status suspended rfl]))
  case some.none =>
    refine ensures_frame_bind (reports_of_calm (calm_emitBuilt rfl (by simp) _))
      (fun _ w₂ h₂ => ?_) goes.stands
    refine ensures_frame_from Reports.trans (reports_of_calm calm_ask) h₂
      (fun _ w₃ h₃ => ?_) goes.stands
    exact ensures_pure (goes.reports h₃)

theorem awaitHumanInput_ends :
    Ensures (awaitHumanInput host c effectiveMax) w (fun round => RoundEnds host c base (some round))
      (fun _ w' => Stands host c base w') := by
  have releases : ∀ b, Within Reports (onlyIf b (releaseForWait host c)) :=
    fun b => reports_of_calm (within_onlyIf Calm.refl calm_releaseForWait b)
  refine ensures_frame_bind (reports_of_calm calm_ask) (fun _ w₁ h₁ => ?_) h.stands
  refine ensures_bind ((finishAwaitingRun_status _ w₁).mono (fun suspended w₂ ended => ?_)
    fun e w' reports => h.stands e w' (h₁.trans _ _ _ reports))
  obtain ⟨status, h₂⟩ := ended
  have h₂ := h₁.trans _ _ _ h₂
  refine ensures_get_bind ?_
  refine ensures_frame_from Reports.trans (releases _) h₂ (fun _ w₃ h₃ => ?_) h.stands
  refine ensures_frame_from Reports.trans (reports_of_calm (calm_emitBuilt rfl (by simp) _))
    h₃ (fun _ w₄ h₄ => ?_) h.stands
  refine ensures_frame_from Reports.trans (within_onlyIf Reports.refl
    (reports_of_calm (calm_emitEvent rfl (by simp) _)) _) h₄ (fun _ w₅ h₅ => ?_) h.stands
  split
  · refine ensures_frame_from Reports.trans (releases _) h₅ (fun _ w₆ h₆ => ?_) h.stands
    refine ensures_frame_from Reports.trans (reports_of_calm calm_waitForAnswer) h₆
      (fun _ w₇ h₇ => ?_) h.stands
    refine ensures_frame_from Reports.trans (reports_of_calm calm_dispatchOnResume) h₇
      (fun _ w₈ h₈ => ?_) h.stands
    refine ensures_frame_from Reports.trans (reports_of_calm calm_ask) h₈
      (fun _ w₉ h₉ => ?_) h.stands
    exact ensures_pure (h.reports h₉)
  · exact ensures_pure (finished_of_reports (h.reports h₅) (by simp [status]))

theorem closeTurn_ends (hadToolCalls : Bool) :
    Ensures (closeTurn host c hadToolCalls effectiveMax) w
      (fun round => RoundEnds host c base (some round)) (fun _ w' => Stands host c base w') := by
  refine ensures_frame_bind (reports_of_calm (calm_emitBuilt rfl (by simp) _))
    (fun _ w₁ h₁ => ?_) h.stands
  refine ensures_frame_from Reports.trans (reports_of_calm calm_ask) h₁ (fun _ w₂ h₂ => ?_) h.stands
  refine ensures_get_bind ?_
  split
  · refine ensures_frame_from Reports.trans
      (reports_of_calm (calm_emitBuilt rfl (by simp) _)) h₂ (fun _ w₃ h₃ => ?_) h.stands
    exact ensures_pure (h.reports h₃)
  · refine ensures_bind ((finishCompletedRun_finished (h.reports h₂)).mono (fun result w₃ ended => ?_)
      fun _ _ h => h)
    obtain ⟨status, shut⟩ := ended
    refine ensures_pure ?_
    simp only [RoundEnds, Finished, status]
    exact shut

theorem takeTurn_ends : Ensures (takeTurn host c rounds effectiveMax) w (RoundEnds host c base)
      (fun _ w' => Stands host c base w') := by
  refine ensures_frame_bind (reports_setState (by intro s; split <;> rfl)) (fun _ w₁ h₁ => ?_) h.stands
  refine ensures_frame_from Reports.trans (reports_of_calm (calm_emitBuilt rfl (by simp) _))
    h₁ (fun _ w₂ h₂ => ?_) h.stands
  refine ensures_frame_from Reports.trans (reports_stepOnce effectiveMax) h₂
    (fun hadToolCalls w₃ h₃ => ?_) h.stands
  have goes := h.reports h₃
  refine ensures_get_bind ?_
  split
  · exact awaitApprovals_ends goes
  · refine ensures_bind ((awaitHumanInput_ends goes).mono (fun _ _ ended => ?_)
      fun _ _ h => h)
    exact ensures_pure ended
  · refine ensures_bind ((closeTurn_ends goes hadToolCalls).mono (fun _ _ ended => ?_)
      fun _ _ h => h)
    exact ensures_pure ended

theorem runRound_ends : Ensures (runRound host c rounds effectiveMax) w (RoundEnds host c base)
      (fun _ w' => Stands host c base w') := by
  refine ensures_get_bind ?_
  split
  · refine ensures_bind ((finishCompletedRun_finished h).mono (fun result w₁ ended => ?_)
      fun _ _ h => h)
    obtain ⟨status, shut⟩ := ended
    refine ensures_pure ?_
    simp only [RoundEnds, Finished, status]
    exact shut
  · refine ensures_get_bind ?_
    refine ensures_bind ((resolveMaxIterationsBoundary_runs h effectiveMax).mono
      (fun boundary w₁ ended => ?_) fun _ _ h => h)
    obtain ⟨goes, asked⟩ := ended
    refine ensures_frame_bind (reports_of_calm (calm_dropBudgetQuestion _)) (fun _ w₂ h₂ => ?_)
      goes.stands
    have goes := goes.reports h₂
    split
    · next finishes =>
      refine ensures_bind ((finishMaxIterationsRun_finished goes
        fun emits => h₂.asked.mpr (asked finishes emits)).mono (fun result w₃ ended => ?_)
        fun _ _ h => h)
      obtain ⟨status, shut⟩ := ended
      refine ensures_pure ?_
      simp only [RoundEnds, Finished, status]
      exact shut
    · exact takeTurn_ends goes

end

def RunEnds (host : LoopHost) (c : RunCall) (base : List Event) (returned : Option RunResult)
    (w : World) : Prop :=
  match returned with
  | some result => Finished host c base result w
  | none => Runs host c base w

theorem runRounds_ends (h : Runs host c base w) (effectiveMax : Int) :
    Ensures (runRounds host c rounds effectiveMax) w (RunEnds host c base)
      (fun _ w' => Stands host c base w') := by
  induction rounds generalizing w effectiveMax with
  | zero => exact ensures_pure h
  | succ rounds ih =>
    refine ensures_bind ((runRound_ends h).mono (fun round w₁ ended => ?_) fun _ _ h => h)
    split
    · exact ensures_pure ended
    · exact ensures_pure ended
    · exact ih ended _

end Rounds

end Unchain.Kernel
