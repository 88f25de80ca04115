import Unchain.Kernel.LoopFrames

/-!
The iteration budget of a run.

`Spends i l marks j n` reads the marks of a run as an account: every turn is taken below the limit
and moves the iteration by one, every grant moves the limit. Each command of the loop extends the
account; what a turn suspended for is resumed at the iteration the turn was taken in, since the
continuation was written there (`Waits`).
-/

namespace Unchain.Kernel

open Lib Lib.Effect Python Interaction

/-! ### The account -/

inductive Spends (fits : Prop) : (iteration limit : Int) → List Mark → (iteration' limit' : Int) → Prop where
  | nil {i l : Int} : Spends fits i l [] i l
  | asked {i l j n : Int} {ms : List Mark} : Spends fits i l ms j n → Spends fits i l (.asked :: ms) j n
  | grant {i l j n extra : Int} {ms : List Mark} : 1 ≤ extra → Spends fits i (l + extra) ms j n →
      Spends fits i l (.granted extra :: ms) j n
  | turn {i l j n : Int} {ms : List Mark} : (fits → i < l) → Spends fits (i + 1) l ms j n →
      Spends fits i l (.turn i l :: ms) j n

def turns : List Mark → Nat
  | [] => 0
  | .turn _ _ :: ms => turns ms + 1
  | _ :: ms => turns ms

/-- The extra iterations that were approved. -/
def granted : List Mark → Int
  | [] => 0
  | .granted extra :: ms => extra + granted ms
  | _ :: ms => granted ms

namespace Spends

variable {fits : Prop} {i l j n : Int} {ms ms' : List Mark}

theorem append {k m : Int} (h : Spends fits i l ms j n) (h' : Spends fits j n ms' k m) :
    Spends fits i l (ms ++ ms') k m := by
  induction h with
  | nil => exact h'
  | asked _ ih => exact .asked (ih h')
  | grant more _ ih => exact .grant more (ih h')
  | turn below _ ih => exact .turn below (ih h')

theorem iteration_eq (h : Spends fits i l ms j n) : j = i + turns ms := by
  induction h with
  | nil => simp [turns]
  | asked _ ih | grant _ _ ih => simpa [turns] using ih
  | turn _ _ ih =>
    simp only [turns]
    omega

theorem limit_eq (h : Spends fits i l ms j n) : n = l + granted ms := by
  induction h with
  | nil => simp [granted]
  | asked _ ih | turn _ _ ih => simpa [granted] using ih
  | grant _ _ ih =>
    simp only [granted]
    omega

theorem within (h : Spends fits i l ms j n) (start : fits → i ≤ l) : fits → j ≤ n := by
  induction h with
  | nil => exact start
  | asked _ ih => exact ih start
  | grant more _ ih =>
    refine ih fun held => ?_
    have := start held
    omega
  | turn below _ ih => exact ih below

theorem at_turn {at' limit : Int} {before after : List Mark}
    (h : Spends fits i l (before ++ .turn at' limit :: after) j n) :
    at' = i + turns before ∧ limit = l + granted before ∧ (fits → at' < limit) := by
  induction before generalizing i l with
  | nil =>
    cases h with
    | turn below _ => exact ⟨by simp [turns], by simp [granted], below⟩
  | cons m before ih =>
    cases h with
    | asked rest =>
      obtain ⟨turnsEq, grantedEq, below⟩ := ih rest
      exact ⟨turnsEq, grantedEq, below⟩
    | grant _ rest =>
      obtain ⟨turnsEq, grantedEq, below⟩ := ih rest
      exact ⟨turnsEq, by simp only [granted]; omega, below⟩
    | turn _ rest =>
      obtain ⟨turnsEq, grantedEq, below⟩ := ih rest
      exact ⟨by simp only [turns]; omega, grantedEq, below⟩

end Spends

/-- A run that went from one state to another, and from one limit to another. -/
def Spent (fits : Prop) (w : World) (l : Int) (w' : World) (l' : Int) : Prop :=
  ∃ ms, w'.marks = w.marks ++ ms ∧ Spends fits w.state.iteration l ms w'.state.iteration l'

/-- A run that stopped, maybe within a turn. -/
def Stopped (fits : Prop) (w : World) (l : Int) (w' : World) : Prop :=
  ∃ ms j l', w'.marks = w.marks ++ ms ∧ Spends fits w.state.iteration l ms j l'

section Account

variable {fits : Prop} {w w' w'' : World} {l l' l'' : Int}

theorem Spent.refl (w : World) (l : Int) : Spent fits w l w l := ⟨[], by simp, .nil⟩

theorem Spent.trans (h : Spent fits w l w' l') (h' : Spent fits w' l' w'' l'') :
    Spent fits w l w'' l'' := by
  obtain ⟨ms, marks, spends⟩ := h
  obtain ⟨ms', marks', spends'⟩ := h'
  exact ⟨ms ++ ms', by rw [marks', marks, List.append_assoc], spends.append spends'⟩

theorem Spent.stop (h : Spent fits w l w' l') (h' : Stopped fits w' l' w'') : Stopped fits w l w'' := by
  obtain ⟨ms, marks, spends⟩ := h
  obtain ⟨ms', j, n, marks', spends'⟩ := h'
  exact ⟨ms ++ ms', j, n, by rw [marks', marks, List.append_assoc], spends.append spends'⟩

theorem Spent.stopped (h : Spent fits w l w' l') : Stopped fits w l w' := by
  obtain ⟨ms, marks, spends⟩ := h
  exact ⟨ms, _, _, marks, spends⟩

theorem Counted.spent (h : Counted w w') (l : Int) : Spent fits w l w' l :=
  ⟨[], by simp [h.marks], by rw [h.iteration]; exact .nil⟩

theorem Counted.stopped (h : Counted w w') (l : Int) : Stopped fits w l w' := (h.spent l).stopped

theorem Spent.count (h : Spent fits w l w' l') (c : Counted w' w'') : Spent fits w l w'' l' :=
  h.trans (c.spent l')

theorem Spent.within (h : Spent fits w l w' l') (start : fits → w.state.iteration ≤ l) :
    fits → w'.state.iteration ≤ l' := by
  obtain ⟨ms, _, spends⟩ := h
  exact spends.within start

end Account

/-! ### What a turn waits for -/

/-- A continuation, if there is one, was written in iteration `i` of a tool batch. -/
def Holds (i : Int) (s : LoopState) : Prop :=
  ∀ continuation, s.continuation = some continuation →
    ∃ rest, continuation = approvalContinuation i rest

def Waits (i : Int) (s : LoopState) : Prop := s.runStatus = .awaitingInteraction → Holds i s

variable {i : Int} {w w' : World}

theorem Steady.holds (h : Steady w w') (holds : Holds i w.state) : Holds i w'.state := by
  intro continuation written
  rcases h.continuation with cleared | same
  · rw [cleared] at written
    cases written
  · rw [same] at written
    exact holds continuation written

theorem Calm.waits (h : Calm w w') (waits : Waits i w.state) : Waits i w'.state :=
  fun awaits => h.toSteady.holds (waits (h.awaits awaits))

/-- Commands that suspend a run only for its own iteration. -/
structure Waiting (w w' : World) : Prop extends Busy w w' where
  waits : Waits w.state.iteration w.state → Waits w.state.iteration w'.state

theorem Waiting.refl (w : World) : Waiting w w := ⟨.refl w, fun h => h⟩

theorem Waiting.trans (w₁ w₂ w₃ : World) (h : Waiting w₁ w₂) (h' : Waiting w₂ w₃) :
    Waiting w₁ w₃ := by
  refine ⟨h.toBusy.trans _ _ _ h'.toBusy, fun waits => ?_⟩
  have next := h'.waits
  rw [h.iteration] at next
  exact next (h.waits waits)

theorem waiting_of_calm {α : Type} {m : LoopM α} (h : Within Calm m) : Within Waiting m :=
  h.mono fun _ _ calm => ⟨calm.toBusy, calm.waits⟩

section Turns

variable {fits : Prop} {host : LoopHost} {c : RunCall}

theorem waiting_suspended (kind : Option Suspend) (w : World) :
    Waiting w { w with state := w.state.suspendedBy kind } := by
  refine ⟨?_, fun waits => ?_⟩
  · rcases kind with _ | (_ | _) <;> exact ⟨⟨rfl, rfl⟩, rfl, rfl, [], by simp, by simp⟩
  · rcases kind with _ | (_ | _)
    case none => exact waits
    case some.toolApproval rest request =>
      intro _ continuation written
      exact ⟨rest, (Option.some.inj written).symm⟩
    case some.humanInput rest request =>
      intro awaits
      cases awaits

theorem waiting_dispatchToolPhase : Within Waiting (dispatchToolPhase host c) := by
  refine (waiting_of_calm calm_tick).bind Waiting.trans fun now => ?_
  exact Within.bind Waiting.trans (within_modify (waiting_suspended (host.suspend now)))
    fun _ => waiting_of_calm calm_dispatchPhase

theorem waiting_toolCallPhases (calls : Nat) : Within Waiting (toolCallPhases host c calls) := by
  induction calls with
  | zero => exact within_pure Waiting.refl ()
  | succ calls ih =>
    have guard : Within Waiting (guardCall host c) := waiting_of_calm calm_guardCall
    exact guard.bind Waiting.trans fun _ => waiting_dispatchToolPhase.bind Waiting.trans
      fun _ => guard.bind Waiting.trans fun _ => ih

theorem waiting_toolBatch (calls : Nat) : Within Waiting (toolBatch host c calls) :=
  (waiting_toolCallPhases calls).bind Waiting.trans fun _ =>
    waiting_dispatchToolPhase.bind Waiting.trans fun _ => waiting_of_calm calm_guardCall

theorem waiting_finishTurn (calls : Nat) : Within Waiting (finishTurn host c calls) := by
  unfold finishTurn
  split
  · exact waiting_of_calm (calm_guardCall.bind Calm.trans fun _ => calm_guardedPhase)
  · exact waiting_toolBatch calls

/-! ### A turn -/

variable {l : Int}

theorem stepOnce_spends (w : World) (below : fits → w.state.iteration < l) :
    Ensures (stepOnce host c l) w
      (fun _ w' => Spent fits w l w' l ∧ w'.state.iteration = w.state.iteration + 1 ∧
        Waits w.state.iteration w'.state)
      (fun _ w' => Stopped fits w l w') := by
  have account : Spends fits w.state.iteration l [.turn w.state.iteration l] (w.state.iteration + 1) l :=
    .turn below .nil
  let started : World := { w with marks := w.marks ++ [.turn w.state.iteration l] }
  have stops : ∀ (e : PyError) (w' : World), Busy started w' → Stopped fits w l w' :=
    fun _ w' h => ⟨_, _, _, h.marks, account⟩
  have steps : ∀ {α : Type} {m : LoopM α}, Within Calm m → Within Busy m :=
    fun h => h.mono fun _ _ h => h.toBusy
  refine ensures_get_bind (ensures_modify_bind ?_)
  refine ensures_frame_bind (steps calm_ask) (fun _ w₁ h₁ => ?_) stops
  refine ensures_frame_from Busy.trans (steps calm_guardedPhase) h₁ (fun _ w₂ h₂ => ?_) stops
  refine ensures_frame_from Busy.trans (steps calm_tick) h₂ (fun now w₃ h₃ => ?_) stops
  refine ensures_frame_from Busy.trans (steps (calm_hooks _ _)) h₃ (fun _ w₄ h₄ => ?_) stops
  refine ensures_frame_from Busy.trans (steps (calm_raiseSome _)) h₄ (fun _ w₅ h₅ => ?_) stops
  refine ensures_frame_from Busy.trans (steps calm_ask) h₅ (fun _ w₆ h₆ => ?_) stops
  refine ensures_modify_bind ?_
  -- The run is running: what the tool batch leaves it waiting for is of this iteration.
  have runs : Busy started { w₆ with state := { w₆.state with
      runStatus := .running, pendingToolCalls := (host.fetch now).toolCalls } } :=
    h₆.trans _ _ _ ⟨⟨rfl, rfl⟩, rfl, rfl, [], by simp, by simp⟩
  refine ensures_frame_bind calm_guardedPhase (fun _ w₇ h₇ => ?_)
    fun e w' h => stops e w' (runs.trans _ _ _ h.toBusy)
  refine ensures_get_bind ?_
  have h₈ := runs.trans _ _ _ h₇.toBusy
  refine ensures_frame_bind (waiting_finishTurn _) (fun _ w₉ h₉ => ?_)
    fun e w' h => stops e w' (h₈.trans _ _ _ h.toBusy)
  refine ensures_modify_bind (ensures_pure ⟨⟨_, ?_, account⟩, rfl, ?_⟩)
  · exact (h₈.trans _ _ _ h₉.toBusy).marks
  · have waits := h₉.waits (h₇.waits (by intro awaits; cases awaits))
    rw [h₈.iteration] at waits
    exact waits

variable {i : Int} {rest : Dict}

theorem readApproval_iterations {toolIteration nextIteration : Int} {calls : Nat} {s : LoopState}
    (h : readApproval (approvalContinuation i rest) s = .ok (calls, toolIteration, nextIteration)) :
    toolIteration = i ∧ nextIteration = i + 1 := by
  have batch : (Value.dict (approvalContinuation i rest)).getD "tool_iteration"
      (.int (completedIteration s)) = .int i := rfl
  have next : (Value.dict (approvalContinuation i rest)).getD "iteration" (.int (i + 1)) =
      .int (i + 1) := rfl
  obtain ⟨-, h⟩ := raiseIf_bind_ok h
  obtain ⟨calls', -, h⟩ := bind_ok h
  obtain ⟨_, -, h⟩ := bind_ok h
  obtain ⟨t, read, h⟩ := bind_ok h
  cases read
  obtain ⟨n, read, h⟩ := bind_ok h
  cases read
  cases h
  exact ⟨rfl, rfl⟩

variable {w : World}

theorem dispatchToolApprovalResume_counted (at' : w.state.iteration = i + 1) :
    Ensures (dispatchToolApprovalResume host c (approvalContinuation i rest)) w
      (fun _ w' => Counted w w' ∧ Waits i w'.state) (fun _ w' => w'.marks = w.marks) := by
  refine ensures_get_bind (ensures_lift_bind (fun read readEq => ?_) fun _ _ => rfl)
  obtain ⟨calls, toolIteration, nextIteration⟩ := read
  obtain ⟨rfl, rfl⟩ := readApproval_iterations readEq
  refine ensures_frame_bind calm_ask (fun _ w₁ h₁ => ?_) fun _ _ h => h.marks
  refine ensures_modify_bind ?_
  refine ensures_frame_bind (waiting_toolBatch calls) (fun _ w₂ h₂ => ?_)
    fun _ _ h => h.marks.trans h₁.marks
  refine ⟨⟨at'.symm, h₂.marks.trans h₁.marks⟩, ?_⟩
  exact h₂.waits (by intro awaits; cases awaits)

theorem buildKernelRunResult_reads (status : RunStatus) (w : World) :
    Ensures (buildKernelRunResult host status) w
      (fun result w' => Calm w w' ∧ result.iteration = w'.state.iteration ∧
        result.continuation = w'.state.continuation)
      (fun _ w' => Calm w w') :=
  ensures_frame_bind calm_ask (fun _ _ h => ensures_get_bind (ensures_pure ⟨h, rfl, rfl⟩))
    fun _ _ h => h

theorem finishAwaitingRun_reads (status : RunStatus) (w : World) :
    Ensures (finishAwaitingRun host c status) w
      (fun result w' => Steady w w' ∧ result.iteration = w'.state.iteration ∧
        result.continuation = w'.state.continuation)
      (fun _ w' => Steady w w') := by
  have waits : Steady w { w with state := { w.state with runStatus := status } } :=
    ⟨⟨⟨rfl, rfl⟩, rfl, rfl, [], by simp, by simp⟩, .inr rfl⟩
  refine ensures_modify_bind (ensures_frame_bind calm_dispatchPersisted (fun _ w₁ h₁ => ?_)
    fun _ _ h => waits.trans _ _ _ h.toSteady)
  have h₁ := waits.trans _ _ _ h₁.toSteady
  refine (buildKernelRunResult_reads status w₁).mono (fun _ _ h => ?_)
    fun _ _ h => h₁.trans _ _ _ h.toSteady
  exact ⟨h₁.trans _ _ _ h.1.toSteady, h.2⟩

/-- The approval of a batch that was suspended in iteration `i`. -/
theorem answerApproval_counted {suspended : RunResult} (at' : w.state.iteration = i + 1)
    (waits : Waits i w.state)
    (holds : ∀ d, suspended.continuation = some d → ∃ rest, d = approvalContinuation i rest) :
    Ensures (answerApproval host c suspended) w
      (fun _ w' => Counted w w' ∧ Waits i w'.state) (fun _ w' => w'.marks = w.marks) := by
  unfold answerApproval
  split
  case h_2 => exact ensures_pure ⟨.refl w, waits⟩
  case h_1 request continuation _ written =>
    obtain ⟨rest, rfl⟩ := holds continuation written
    refine ensures_lift_bind (fun _ _ => ?_) fun _ _ => rfl
    refine ensures_frame_bind calm_waitForAnswer (fun _ w₁ h₁ => ?_) fun _ _ h => h.marks
    refine (dispatchToolApprovalResume_counted (h₁.iteration.trans at')).mono (fun _ _ h => ?_)
      fun _ _ h => h.trans h₁.marks
    exact ⟨h₁.toCounted.trans _ _ _ h.1, h.2⟩

variable {rounds : Nat}

/-- Approvals take no turn: the iteration is rewound and comes back. -/
theorem approvals_counted (emitted : Bool) (at' : w.state.iteration = i + 1) (waits : Waits i w.state) :
    Ensures (approvals host c rounds emitted) w
      (fun ended w' => Counted w w' ∧
        ∀ result, ended = some (some result) → result.iteration = w'.state.iteration)
      (fun _ w' => w'.marks = w.marks) := by
  induction rounds generalizing emitted w with
  | zero => exact ensures_pure ⟨.refl w, by simp⟩
  | succ rounds ih =>
    refine ensures_get_bind ?_
    by_cases awaits : w.state.runStatus = .awaitingInteraction
    case neg =>
      rw [if_pos awaits]
      exact ensures_pure ⟨.refl w, by simp⟩
    rw [if_neg (by simpa using awaits)]
    have holds := waits awaits
    have steps : ∀ {α : Type} {m : LoopM α}, Within Calm m → Within Steady m :=
      fun h => h.mono fun _ _ h => h.toSteady
    have stops : ∀ (e : PyError) (w' : World), Steady w w' → w'.marks = w.marks :=
      fun _ _ h => h.marks
    refine ensures_frame_bind (steps (within_onlyIf Calm.refl calm_ask _)) (fun _ w₁ h₁ => ?_) stops
    refine ensures_bind ((finishAwaitingRun_reads _ w₁).mono (fun suspended w₂ read => ?_)
      fun e w' h => stops e w' (h₁.trans _ _ _ h))
    obtain ⟨h₂, iteration, continuation⟩ := read
    have h₂ := h₁.trans _ _ _ h₂
    refine ensures_lift_bind (fun _ _ => ?_) fun e _ => stops e w₂ h₂
    refine ensures_frame_from Steady.trans (steps calm_releaseForWait) h₂ (fun _ w₃ h₃ => ?_) stops
    refine ensures_frame_from Steady.trans
      (steps (within_onlyIf Calm.refl (calm_emitBuilt rfl (by simp) _) _)) h₃
      (fun _ w₄ h₄ => ?_) stops
    refine ensures_get_bind (ensures_frame_from Steady.trans
      (steps (calm_emitEvent rfl (by simp) _)) h₄ (fun _ w₅ h₅ => ?_) stops)
    by_cases confirms : c.onToolConfirm = true
    case neg =>
      rw [if_neg confirms]
      refine ensures_pure ⟨h₅.toCounted, fun result same => ?_⟩
      cases same
      exact iteration.trans (h₂.iteration.trans h₅.iteration.symm)
    rw [if_pos confirms]
    refine ensures_bind ((answerApproval_counted (i := i) (h₅.iteration.trans at') ?_ ?_).mono
      (fun _ w₆ answered => ?_) fun _ _ h => h.trans h₅.marks)
    · exact fun _ => h₅.holds holds
    · intro d written
      exact h₂.holds holds d (continuation.symm.trans written)
    · have h₆ := h₅.toCounted.trans _ _ _ answered.1
      refine (ih true (h₆.iteration.trans at') answered.2).mono (fun _ _ ended => ?_)
        fun _ _ marks => marks.trans h₆.marks
      exact ⟨h₆.trans _ _ _ ended.1, ended.2⟩

/-! ### Rounds -/

/-- The account of a round: what it goes on with, or the result it ends with. -/
def RoundSpends (fits : Prop) (w : World) (l : Int) (round : Option Round) (w' : World) : Prop :=
  ∃ l', Spent fits w l w' l' ∧
    (∀ effectiveMax, round = some (.again effectiveMax) → effectiveMax = l') ∧
    ∀ result, round = some (.done result) → result.iteration = w'.state.iteration

variable {l' : Int} {w' : World}

theorem RoundSpends.again (h : Spent fits w l w' l') : RoundSpends fits w l (some (.again l')) w' :=
  ⟨l', h, fun _ same => by cases same; rfl, nofun⟩

theorem RoundSpends.done {result : RunResult} (h : Spent fits w l w' l')
    (iteration : result.iteration = w'.state.iteration) :
    RoundSpends fits w l (some (.done result)) w' :=
  ⟨l', h, nofun, fun _ same => by cases same; exact iteration⟩

theorem RoundSpends.after {w'' : World} {round : Option Round} (h : Spent fits w l w' l')
    (next : RoundSpends fits w' l' round w'') : RoundSpends fits w l round w'' := by
  obtain ⟨n, spent, rest⟩ := next
  exact ⟨n, h.trans spent, rest⟩

theorem awaitApprovals_spends (at' : w.state.iteration = i + 1) (waits : Waits i w.state) :
    Ensures (awaitApprovals host c rounds l) w (RoundSpends fits w l)
    (fun _ w' => Stopped fits w l w') := by
  have stops : ∀ (e : PyError) (w' : World), w'.marks = w.marks → Stopped fits w l w' :=
    fun _ w' marks => ⟨[], _, l, by simp [marks], .nil⟩
  refine ensures_bind ((approvals_counted false at' waits).mono (fun ended w₁ h₁ => ?_) stops)
  obtain ⟨h₁, ofResult⟩ := h₁
  rcases ended with _ | _ | suspended
  case none => exact ensures_pure ⟨l, h₁.spent l, by simp, by simp⟩
  case some.some => exact ensures_pure (.done (h₁.spent l) (ofResult suspended rfl))
  case some.none =>
    have raised : ∀ (e : PyError) (w' : World), Counted w w' → Stopped fits w l w' :=
      fun e w' h => stops e w' h.marks
    refine ensures_frame_from Counted.trans
      (counted_of_calm (calm_emitBuilt rfl (by simp) _)) h₁ (fun _ w₂ h₂ => ?_) raised
    refine ensures_frame_from Counted.trans (counted_of_calm calm_ask) h₂ (fun _ w₃ h₃ => ?_) raised
    exact ensures_pure (.again (h₃.spent l))

theorem awaitHumanInput_spends (w : World) :
    Ensures (awaitHumanInput host c l) w (fun round w' => RoundSpends fits w l (some round) w')
      (fun _ w' => Stopped fits w l w') := by
  have stops : ∀ (e : PyError) (w' : World), Counted w w' → Stopped fits w l w' :=
    fun _ w' h => h.stopped l
  refine ensures_frame_bind (counted_of_calm calm_ask) (fun _ w₁ h₁ => ?_) stops
  refine ensures_bind ((finishAwaitingRun_reads _ w₁).mono (fun suspended w₂ read => ?_)
    fun e w' h => stops e w' (h₁.trans _ _ _ h.toCounted))
  obtain ⟨h₂, iteration, -⟩ := read
  have h₂ := h₁.trans _ _ _ h₂.toCounted
  refine ensures_get_bind ?_
  refine ensures_frame_from Counted.trans
    (counted_of_calm (within_onlyIf Calm.refl calm_releaseForWait _)) h₂ (fun _ w₃ h₃ => ?_) stops
  refine ensures_frame_from Counted.trans
    (counted_of_calm (calm_emitBuilt rfl (by simp) _)) h₃ (fun _ w₄ h₄ => ?_) stops
  refine ensures_frame_from Counted.trans
    (counted_of_calm (within_onlyIf Calm.refl (calm_emitEvent rfl (by simp) _) _)) h₄
    (fun _ w₅ h₅ => ?_) stops
  split
  · refine ensures_frame_from Counted.trans
      (counted_of_calm (within_onlyIf Calm.refl calm_releaseForWait _)) h₅ (fun _ w₆ h₆ => ?_) stops
    refine ensures_frame_from Counted.trans (counted_of_calm calm_waitForAnswer) h₆
      (fun _ w₇ h₇ => ?_) stops
    refine ensures_frame_from Counted.trans (counted_of_calm calm_dispatchOnResume) h₇
      (fun _ w₈ h₈ => ?_) stops
    refine ensures_frame_from Counted.trans (counted_of_calm calm_ask) h₈ (fun _ w₉ h₉ => ?_) stops
    exact ensures_pure (.again (h₉.spent l))
  · refine ensures_pure (.done (h₅.spent l) ?_)
    exact iteration.trans (h₂.iteration.trans h₅.iteration.symm)

theorem finishCompletedRun_counted (w : World) : Ensures (finishCompletedRun host c) w
      (fun result w' => Counted w w' ∧ result.iteration = w'.state.iteration)
      (fun _ w' => Counted w w') := by
  have finished : Counted w { w with state := { w.state with runStatus := .completed } } :=
    ⟨rfl, rfl⟩
  refine ensures_modify_bind ?_
  refine ensures_frame_from Counted.trans (counted_of_calm calm_dispatchPersisted) finished
    (fun _ w₁ h₁ => ?_) fun _ _ h => h
  refine ensures_frame_from Counted.trans (counted_emitTerminal _) h₁
    (fun _ w₂ h₂ => ?_) fun _ _ h => h
  refine ensures_frame_from Counted.trans (counted_emitTerminal _) h₂
    (fun _ w₃ h₃ => ?_) fun _ _ h => h
  refine (buildKernelRunResult_reads _ w₃).mono (fun _ _ h => ?_)
    fun _ _ h => h₃.trans _ _ _ h.toCounted
  exact ⟨h₃.trans _ _ _ h.1.toCounted, h.2.1⟩

theorem finishMaxIterationsRun_counted (emits : Bool) (w : World) :
    Ensures (finishMaxIterationsRun host c emits) w
      (fun result w' => Counted w w' ∧ result.iteration = w'.state.iteration)
      (fun _ w' => Counted w w') := by
  have finished : Counted w { w with state := { w.state with runStatus := .maxIterations } } :=
    ⟨rfl, rfl⟩
  refine ensures_modify_bind ?_
  refine ensures_frame_from Counted.trans (counted_of_calm calm_dispatchPersisted) finished
    (fun _ w₁ h₁ => ?_) fun _ _ h => h
  refine ensures_frame_from Counted.trans
    (within_onlyIf Counted.refl (counted_emitTerminal _) _) h₁ (fun _ w₂ h₂ => ?_) fun _ _ h => h
  refine (buildKernelRunResult_reads _ w₂).mono (fun _ _ h => ?_)
    fun _ _ h => h₂.trans _ _ _ h.toCounted
  exact ⟨h₂.trans _ _ _ h.1.toCounted, h.2.1⟩

theorem closeTurn_spends (hadToolCalls : Bool) (w : World) :
    Ensures (closeTurn host c hadToolCalls l) w (fun round w' => RoundSpends fits w l (some round) w')
      (fun _ w' => Stopped fits w l w') := by
  have stops : ∀ (e : PyError) (w' : World), Counted w w' → Stopped fits w l w' :=
    fun _ w' h => h.stopped l
  refine ensures_frame_bind (counted_of_calm (calm_emitBuilt rfl (by simp) _))
    (fun _ w₁ h₁ => ?_) stops
  refine ensures_frame_from Counted.trans (counted_of_calm calm_ask) h₁ (fun _ w₂ h₂ => ?_) stops
  refine ensures_get_bind ?_
  split
  · refine ensures_frame_from Counted.trans
      (counted_of_calm (calm_emitBuilt rfl (by simp) _)) h₂ (fun _ w₃ h₃ => ?_) stops
    exact ensures_pure (.again (h₃.spent l))
  · refine ensures_bind ((finishCompletedRun_counted w₂).mono (fun result w₃ h₃ => ?_)
      fun e w' h => stops e w' (h₂.trans _ _ _ h))
    exact ensures_pure (.done ((h₂.trans _ _ _ h₃.1).spent l) h₃.2)

theorem takeTurn_spends (w : World) (below : fits → w.state.iteration < l) :
    Ensures (takeTurn host c rounds l) w (RoundSpends fits w l) (fun _ w' => Stopped fits w l w') := by
  have stops : ∀ (e : PyError) (w' : World), Counted w w' → Stopped fits w l w' :=
    fun _ w' h => h.stopped l
  have resets : Within Calm (setState fun s =>
      if s.runStatus = .maxIterations then { s with runStatus := .running } else s) := by
    refine calm_setState ?_ ?_ ?_ ?_ <;> intro s <;> split <;> simp
  refine ensures_frame_bind (counted_of_calm resets) (fun _ w₁ h₁ => ?_) stops
  refine ensures_frame_from Counted.trans (counted_of_calm (calm_emitBuilt rfl (by simp) _)) h₁
    (fun _ w₂ h₂ => ?_) stops
  have below : fits → w₂.state.iteration < l := by rw [h₂.iteration]; exact below
  refine ensures_bind ((stepOnce_spends w₂ below).mono (fun hadToolCalls w₃ h₃ => ?_)
    fun _ _ h => (h₂.spent l).stop h)
  obtain ⟨spent, at', waits⟩ := h₃
  have spent := (h₂.spent l).trans spent
  refine ensures_get_bind ?_
  split
  · exact (awaitApprovals_spends at' waits).mono (fun _ _ h => .after spent h)
      fun _ _ h => spent.stop h
  · refine ensures_bind ((awaitHumanInput_spends w₃).mono (fun _ _ h => ?_)
      fun _ _ h => spent.stop h)
    exact ensures_pure (.after spent h)
  · refine ensures_bind ((closeTurn_spends hadToolCalls w₃).mono (fun _ _ h => ?_)
      fun _ _ h => spent.stop h)
    exact ensures_pure (.after spent h)

theorem one_le_extraIterations {response : Value} {currentMax extra : Int}
    (h : extraIterations response currentMax = .ok extra) : 1 ≤ extra := by
  obtain ⟨n, -, rfl⟩ := map_ok h
  exact le_max_left 1 n

theorem resolveMaxIterationsBoundary_spends (w : World) (start : fits → w.state.iteration ≤ l) :
    Ensures (resolveMaxIterationsBoundary host c l) w
      (fun boundary w' => Spent fits w l w' boundary.effectiveMax ∧
        (boundary.shouldFinish = false → fits → w'.state.iteration < boundary.effectiveMax))
      (fun _ w' => Stopped fits w l w') := by
  refine ensures_get_bind ?_
  by_cases below : w.state.iteration < l
  case pos =>
    rw [if_pos below]
    exact ensures_pure ⟨.refl w l, fun _ _ => below⟩
  rw [if_neg below]
  by_cases asks : c.onMaxIterations = true
  case neg =>
    rw [if_pos (by simpa using asks)]
    exact ensures_pure ⟨.refl w l, nofun⟩
  rw [if_neg (by simpa using asks)]
  refine ensures_frame_bind (busy_beforeMaxWait _ _) (fun _ w₁ h₁ => ?_)
    fun _ _ h => h.toCounted.stopped l
  refine ensures_frame_from Counted.trans (counted_emitBuilt _) h₁.toCounted
    (fun _ w₂ h₂ => ?_) fun _ _ h => h.stopped l
  refine ensures_modify_bind ?_
  have asked : Spent fits w l { w₂ with marks := w₂.marks ++ [.asked] } l := by
    refine ⟨[.asked], by simp [h₂.marks], ?_⟩
    rw [show ({ w₂ with marks := w₂.marks ++ [.asked] } : World).state.iteration =
      w.state.iteration from h₂.iteration]
    exact .asked .nil
  refine ensures_frame_bind calm_waitForAnswer (fun response w₃ h₃ => ?_)
    fun _ _ h => (asked.count h.toCounted).stopped
  have asked := asked.count h₃.toCounted
  split
  · refine ensures_lift_bind (fun extra read => ?_) fun _ _ => asked.stopped
    have more := one_le_extraIterations read
    refine ensures_modify_bind (ensures_pure ⟨asked.trans ⟨[.granted extra], rfl, ?_⟩, fun _ fits => ?_⟩)
    · exact .grant more .nil
    · have at' := asked.within start fits
      show w₃.state.iteration < l + extra
      omega
  · exact ensures_pure ⟨asked, nofun⟩

theorem runRound_spends (w : World) (start : fits → w.state.iteration ≤ l) :
    Ensures (runRound host c rounds l) w (RoundSpends fits w l) (fun _ w' => Stopped fits w l w') := by
  refine ensures_get_bind ?_
  split
  · refine ensures_bind ((finishCompletedRun_counted w).mono (fun _ _ h => ?_)
      fun _ _ h => h.stopped l)
    exact ensures_pure (.done (h.1.spent l) h.2)
  · refine ensures_get_bind ?_
    refine ensures_bind ((resolveMaxIterationsBoundary_spends w start).mono
      (fun boundary w₁ h₁ => ?_) fun _ _ h => h)
    obtain ⟨spent, goes⟩ := h₁
    refine ensures_frame_bind (calm_dropBudgetQuestion _) (fun _ w₂ h₂ => ?_)
      fun _ _ h => (spent.count h.toCounted).stopped
    have spent := spent.count h₂.toCounted
    split
    · refine ensures_bind ((finishMaxIterationsRun_counted _ w₂).mono (fun _ _ h => ?_)
        fun _ _ h => (spent.count h).stopped)
      exact ensures_pure (.done (spent.count h.1) h.2)
    · next finishes =>
      have below : fits → w₂.state.iteration < boundary.effectiveMax := by
        rw [h₂.iteration]
        exact goes (by simpa using finishes)
      exact (takeTurn_spends w₂ below).mono (fun _ _ h => .after spent h) fun _ _ h => spent.stop h

def RunSpends (fits : Prop) (w : World) (l : Int) (returned : Option RunResult) (w' : World) : Prop :=
  ∃ l', Spent fits w l w' l' ∧ ∀ result, returned = some result → result.iteration = w'.state.iteration

theorem runRounds_spends (w : World) (start : fits → w.state.iteration ≤ l) :
    Ensures (runRounds host c rounds l) w (RunSpends fits w l) (fun _ w' => Stopped fits w l w') := by
  induction rounds generalizing l w with
  | zero => exact ensures_pure ⟨l, .refl w l, nofun⟩
  | succ rounds ih =>
    refine ensures_bind ((runRound_spends w start).mono (fun round w₁ h₁ => ?_) fun _ _ h => h)
    obtain ⟨l', spent, goesOn, ends⟩ := h₁
    split
    · exact ensures_pure ⟨l', spent, nofun⟩
    · next result =>
      exact ensures_pure ⟨l', spent, fun _ same => by cases same; exact ends result rfl⟩
    · next effectiveMax =>
      cases goesOn effectiveMax rfl
      refine (ih w₁ (spent.within start)).mono (fun _ _ h => ?_) fun _ _ h => spent.stop h
      obtain ⟨n, next, iteration⟩ := h
      exact ⟨n, spent.trans next, iteration⟩

/-! ### Before the loop -/

/-- Commands before the loop, and after it. -/
structure Unmarked (w w' : World) : Prop where
  marks : w'.marks = w.marks
  counts : 0 ≤ w.state.iteration → 0 ≤ w'.state.iteration

theorem Unmarked.refl (w : World) : Unmarked w w := ⟨rfl, fun h => h⟩

theorem Unmarked.trans (w₁ w₂ w₃ : World) (h : Unmarked w₁ w₂) (h' : Unmarked w₂ w₃) :
    Unmarked w₁ w₃ :=
  ⟨h'.marks.trans h.marks, fun counts => h'.counts (h.counts counts)⟩

theorem Counted.unmarked (h : Counted w w') : Unmarked w w' :=
  ⟨h.marks, fun counts => by rw [h.iteration]; exact counts⟩

theorem unmarked_of_calm {α : Type} {m : LoopM α} (h : Within Calm m) : Within Unmarked m :=
  h.mono fun _ _ h => h.toCounted.unmarked

theorem unmarked_initializeRunLedger : Within Unmarked (initializeRunLedger host c) :=
  (unmarked_of_calm calm_ask).bind Unmarked.trans fun _ =>
    Within.bind Unmarked.trans (within_modify fun _ => ⟨rfl, fun h => h⟩) fun _ =>
      unmarked_of_calm calm_ask

theorem unmarked_dispatchBootstrap : Within Unmarked (dispatchBootstrap host c) := by
  refine (unmarked_of_calm calm_guardCall).bind Unmarked.trans fun _ => ?_
  refine (unmarked_of_calm calm_tick).bind Unmarked.trans fun now => ?_
  refine Within.bind Unmarked.trans (within_modify fun w => ?_) fun _ =>
    unmarked_of_calm calm_guardedPhase
  cases host.restored now with
  | none => exact .refl w
  | some restored => exact ⟨rfl, fun _ => Int.natCast_nonneg restored.iteration⟩

theorem unmarked_enterRun : Within Unmarked (enterRun host c) :=
  (within_lift Unmarked.refl _).bind Unmarked.trans fun _ =>
    (unmarked_of_calm calm_ask).bind Unmarked.trans fun _ =>
      unmarked_initializeRunLedger.bind Unmarked.trans fun _ =>
        (within_onlyIf Unmarked.refl unmarked_dispatchBootstrap _).bind Unmarked.trans fun _ =>
          (unmarked_of_calm calm_ask).bind Unmarked.trans fun _ =>
            within_get_bind Unmarked.refl Unmarked.trans fun _ =>
              (counted_emitEvent _).mono fun _ _ h => h.unmarked

theorem unmarked_recordFailure (e : PyError) : Within Unmarked (recordFailure host c e) := by
  refine within_get_bind Unmarked.refl Unmarked.trans fun w => ?_
  cases w.state.identity with
  | none => exact within_pure Unmarked.refl ()
  | some identity =>
    refine (unmarked_of_calm calm_ask).bind Unmarked.trans fun _ => ?_
    refine (unmarked_of_calm calm_ask).bind Unmarked.trans fun _ => ?_
    refine Within.bind Unmarked.trans (within_modify fun _ => ⟨rfl, fun h => h⟩) fun _ => ?_
    refine (unmarked_of_calm calm_ask).bind Unmarked.trans fun _ => ?_
    refine (unmarked_of_calm calm_tick).bind Unmarked.trans fun _ => ?_
    refine within_get_bind Unmarked.refl Unmarked.trans fun w => ?_
    split
    · refine within_get_bind Unmarked.refl Unmarked.trans fun w' => ?_
      exact Within.bind Unmarked.trans (within_modify fun _ => ⟨rfl, fun h => h⟩) fun _ =>
        (unmarked_of_calm calm_tick).bind Unmarked.trans fun _ => within_pure Unmarked.refl _
    · exact within_pure Unmarked.refl _

/-! ### Invocations -/

/-- A run that stopped before its loop, or the account of one that was entered, where `allowed` is
what is known of its maximum and of the iteration it starts with. -/
def Accounted (allowed : Int → Int → Prop) (w : World) (returned : Option RunResult) (w' : World) :
    Prop :=
  w'.marks = w.marks ∨ ∃ start maxIterations restored ms j l',
    w'.marks = w.marks ++ .started start maxIterations restored :: ms ∧
    allowed maxIterations start ∧
    Spends (start ≤ effectiveMax start maxIterations restored) start
      (effectiveMax start maxIterations restored) ms j l' ∧
    ∀ result, returned = some result → result.iteration = j

section Accounted

variable {allowed allowed' : Int → Int → Prop} {w w' w'' : World} {returned : Option RunResult}

theorem Accounted.stop (h : Accounted allowed w returned w') (same : w''.marks = w'.marks) :
    Accounted allowed w none w'' := by
  rcases h with unmarked | ⟨start, maxIterations, restored, ms, j, l', marks, known, spends, -⟩
  · exact .inl (same.trans unmarked)
  · exact .inr ⟨start, maxIterations, restored, ms, j, l', same.trans marks, known, spends, nofun⟩

theorem Accounted.after (same : w'.marks = w.marks) (h : Accounted allowed w' returned w'')
    (known : ∀ maxIterations start, allowed maxIterations start → allowed' maxIterations start) :
    Accounted allowed' w returned w'' := by
  rcases h with unmarked | ⟨start, maxIterations, restored, ms, j, l', marks, known', rest⟩
  · exact .inl (unmarked.trans same)
  · exact .inr ⟨start, maxIterations, restored, ms, j, l', by rw [marks, same],
      known _ _ known', rest⟩

end Accounted

/-- What a run knows of its account. -/
def Granted (maxIterations : Int) (w : World) : Int → Int → Prop :=
  fun limit start => limit = maxIterations ∧ (0 ≤ w.state.iteration → 0 ≤ start)

theorem runState_accounted (w : World) :
    Ensures (runState host c rounds) w (Accounted (Granted c.maxIterations w) w)
      (fun _ w' => Accounted (Granted c.maxIterations w) w none w') := by
  refine ensures_frame_bind unmarked_enterRun (fun _ w₁ h₁ => ?_) fun _ _ h => .inl h.marks
  refine ensures_get_bind (ensures_modify_bind ?_)
  let opened : World := { w₁ with
    marks := w₁.marks ++ [.started w₁.state.iteration c.maxIterations w₁.state.restoredLimit] }
  have started : ∀ {ms : List Mark} {w' : World}, w'.marks = opened.marks ++ ms → w'.marks =
      w.marks ++ .started w₁.state.iteration c.maxIterations w₁.state.restoredLimit :: ms := by
    intro ms w' marks
    rw [marks, ← h₁.marks]
    simp [opened]
  refine (runRounds_spends opened fun fits => fits).mono (fun returned w' h => ?_) fun _ w' h => ?_
  · obtain ⟨l', ⟨ms, marks, spends⟩, iteration⟩ := h
    exact .inr ⟨_, _, _, ms, _, l', started marks, ⟨rfl, h₁.counts⟩, spends, iteration⟩
  · obtain ⟨ms, j, l', marks, spends⟩ := h
    exact .inr ⟨_, _, _, ms, j, l', started marks, ⟨rfl, h₁.counts⟩, spends, nofun⟩

theorem runStateWithFailureBundle_accounted (w : World) :
    Ensures (runStateWithFailureBundle host c rounds) w (Accounted (Granted c.maxIterations w) w)
      (fun _ w' => Accounted (Granted c.maxIterations w) w none w') := by
  refine ensures_runStateWithFailureBundle
    ((runState_accounted (w.observedBy (some ⟨"", false⟩))).mono (fun _ _ h => h)
      fun e w' h => ?_)
  exact ensures_frame (unmarked_recordFailure e) (fun _ _ recorded => h.stop recorded.marks)
    fun _ _ recorded => h.stop recorded.marks

def Prescribed (host : LoopHost) (c : RunCall) : Entry → Int → Int → Prop
  | .run _, maxIterations, _ => maxIterations = c.maxIterations
  | .resumeInteraction .maxBudget continuation, extraIterations, start =>
    (∃ now decision approved, host.answer now = .ok decision ∧
      readDecision decision = .ok (approved, extraIterations)) ∧
    ((∀ i, intFromContinuation continuation "iteration" 0 = .ok i → 0 ≤ i) → 0 ≤ start)
  | .resumeHumanInput continuation _, maxIterations, _
  | .resumeInteraction _ continuation, maxIterations, _ => plannedMax continuation = .ok maxIterations

theorem run_accounted (hasSession : Bool) (w : World) : Ensures (run host c hasSession rounds) w
      (Accounted (Prescribed host c (.run hasSession)) w)
      (fun _ w' => Accounted (Prescribed host c (.run hasSession)) w none w') := by
  refine ensures_frame_bind calm_ask (fun _ w₁ h₁ => ?_) fun _ _ h => .inl h.marks
  refine ensures_modify_bind ?_
  refine ensures_frame_bind calm_guardCall (fun _ w₂ h₂ => ?_)
    fun _ _ h => .inl (h.marks.trans h₁.marks)
  have same : w₂.marks = w.marks := h₂.marks.trans h₁.marks
  exact (runStateWithFailureBundle_accounted w₂).mono
    (fun _ _ h => h.after same fun _ _ known => known.1)
    fun _ _ h => h.after same fun _ _ known => known.1

variable {continuation : Dict}

theorem hydrate_counts (hasSession : Bool) (w : World) :
    Ensures (hydrate host c continuation hasSession) w
      (fun _ w' => w'.marks = w.marks ∧
        ((∀ i, intFromContinuation continuation "iteration" 0 = .ok i → 0 ≤ i) →
          0 ≤ w'.state.iteration))
      (fun _ w' => w'.marks = w.marks) := by
  refine ensures_lift_bind (fun iteration read => ?_) fun _ _ => rfl
  refine ensures_modify_bind (ensures_frame unmarked_initializeRunLedger (fun _ w' h => ?_)
    fun _ _ h => h.marks)
  exact ⟨h.marks, fun counts => h.counts (counts iteration read)⟩

theorem continueRun_accounted {allowed : Int → Int → Prop} {maxIterations : Int} {w₁ : World}
    (same : w₁.marks = w.marks)
    (known : ∀ start, (0 ≤ w₁.state.iteration → 0 ≤ start) → allowed maxIterations start) :
    Ensures (continueRun host c maxIterations rounds) w₁ (Accounted allowed w)
      (fun _ w' => Accounted allowed w none w') := by
  have knows : ∀ limit start, Granted maxIterations w₁ limit start → allowed limit start := by
    rintro _ start ⟨rfl, counts⟩
    exact known start counts
  exact (runStateWithFailureBundle_accounted w₁).mono
    (fun _ _ h => h.after same knows) fun _ _ h => h.after same knows

theorem resumeHumanInput_accounted (hasSession : Bool) (w : World) :
    Ensures (resumeHumanInput host c continuation hasSession rounds) w
      (Accounted (Prescribed host c (.resumeHumanInput continuation hasSession)) w)
      (fun _ w' =>
        Accounted (Prescribed host c (.resumeHumanInput continuation hasSession)) w none w') := by
  refine ensures_frame_bind calm_ask (fun _ w₁ h₁ => ?_) fun _ _ h => .inl h.marks
  refine ensures_lift_bind (fun maxIterations planned => ?_) fun _ _ => .inl h₁.marks
  refine ensures_bind ((hydrate_counts hasSession w₁).mono (fun _ w₂ h₂ => ?_)
    fun _ _ same => .inl (same.trans h₁.marks))
  have same := h₂.1.trans h₁.marks
  have stops : ∀ (e : PyError) (w' : World), Unmarked w₂ w' → Accounted (Prescribed host c
      (.resumeHumanInput continuation hasSession)) w none w' :=
    fun _ _ h => .inl (h.marks.trans same)
  refine ensures_frame_bind (unmarked_of_calm calm_guardCall) (fun _ w₃ h₃ => ?_) stops
  refine ensures_frame_from Unmarked.trans (unmarked_of_calm calm_waitForAnswer) h₃
    (fun _ w₄ h₄ => ?_) stops
  refine ensures_frame_from Unmarked.trans unmarked_dispatchBootstrap h₄ (fun _ w₅ h₅ => ?_) stops
  refine ensures_frame_from Unmarked.trans (unmarked_of_calm calm_dispatchOnResume) h₅
    (fun _ w₆ h₆ => ?_) stops
  exact continueRun_accounted (h₆.marks.trans same) fun _ _ => planned

theorem waitForAnswer_answers (w : World) : Ensures (waitForAnswer host c) w
      (fun response w' => Unmarked w w' ∧ ∃ now, host.answer now = .ok response)
      (fun _ w' => Unmarked w w') := by
  refine ensures_modifyGet_bind ?_
  refine ensures_lift_bind (fun response answered => ?_) fun _ _ => ⟨rfl, fun h => h⟩
  refine ensures_modify_bind ?_
  refine ensures_frame_bind (unmarked_of_calm calm_guardCall) (fun _ w₁ h₁ => ?_)
    fun _ _ h => ⟨h.marks, h.counts⟩
  exact ensures_pure ⟨⟨h₁.marks, h₁.counts⟩, w.clock, answered⟩

def SameMarks (w w' : World) : Prop := w'.marks = w.marks

/-- A batch that is resumed takes no turn, whatever its continuation says. -/
theorem dispatchToolApprovalResume_marks :
    Within SameMarks (dispatchToolApprovalResume host c continuation) := by
  have refl : ∀ w, SameMarks w w := fun _ => rfl
  have trans : ∀ w₁ w₂ w₃, SameMarks w₁ w₂ → SameMarks w₂ w₃ → SameMarks w₁ w₃ :=
    fun _ _ _ h h' => Eq.trans h' h
  refine within_get_bind refl trans fun w => ?_
  refine (within_lift refl _).bind trans fun read => ?_
  refine (calm_ask.mono fun _ _ h => h.marks).bind trans fun _ => ?_
  refine Within.bind trans (within_modify fun _ => rfl) fun _ => ?_
  exact ((busy_toolBatch _).mono fun _ _ h => h.marks).bind trans fun _ =>
    within_modify fun _ => rfl

theorem resumeInteraction_accounted (kind : InteractionKind) (w : World) :
    Ensures (resumeInteraction host c kind continuation rounds) w
      (Accounted (Prescribed host c (.resumeInteraction kind continuation)) w)
      (fun _ w' =>
        Accounted (Prescribed host c (.resumeInteraction kind continuation)) w none w') := by
  have stops : ∀ (e : PyError) (w' : World), w'.marks = w.marks → Accounted (Prescribed host c
      (.resumeInteraction kind continuation)) w none w' := fun _ _ same => .inl same
  refine ensures_frame_bind calm_guardCall (fun _ w₁ h₁ => ?_) fun e w' h => stops e w' h.marks
  refine ensures_frame_bind calm_ask (fun _ w₂ h₂ => ?_)
    fun e w' h => stops e w' (h.marks.trans h₁.marks)
  have same := h₂.marks.trans h₁.marks
  refine ensures_bind ((waitForAnswer_answers w₂).mono (fun response w₃ h₃ => ?_)
    fun e w' h => stops e w' (h.marks.trans same))
  obtain ⟨h₃, now, answered⟩ := h₃
  have same := h₃.marks.trans same
  refine ensures_lift_bind (fun maxIterations planned => ?_) fun e _ => stops e w₃ same
  refine ensures_bind ((hydrate_counts true w₃).mono (fun _ w₄ h₄ => ?_)
    fun e w' h => stops e w' (h.trans same))
  obtain ⟨marks, counts⟩ := h₄
  have same := marks.trans same
  refine ensures_frame_bind unmarked_dispatchBootstrap (fun _ w₅ h₅ => ?_)
    fun e w' h => stops e w' (h.marks.trans same)
  have same := h₅.marks.trans same
  cases kind with
  | humanInput =>
    refine ensures_frame_bind calm_ask (fun _ w₆ h₆ => ?_)
      fun e w' h => stops e w' (h.marks.trans same)
    refine ensures_frame_bind calm_dispatchOnResume (fun _ w₇ h₇ => ?_)
      fun e w' h => stops e w' (h.marks.trans (h₆.marks.trans same))
    exact continueRun_accounted (h₇.marks.trans (h₆.marks.trans same)) fun _ _ => planned
  | toolApproval =>
    refine ensures_frame_bind (dispatchToolApprovalResume_marks)
      (fun _ w₆ h₆ => ?_) fun e w' h => stops e w' (h.trans same)
    have same := h₆.trans same
    refine ensures_get_bind ?_
    split
    · refine ensures_frame_bind (steady_finishAwaitingRun _) (fun suspended w₇ h₇ => ?_)
        fun e w' h => stops e w' (h.marks.trans same)
      exact ensures_pure (.inl (h₇.marks.trans same))
    · refine ensures_frame_bind (calm_emitBuilt rfl (by simp) _) (fun _ w₇ h₇ => ?_)
        fun e w' h => stops e w' (h.marks.trans same)
      exact continueRun_accounted (h₇.marks.trans same) fun _ _ => planned
  | maxBudget =>
    refine ensures_frame_bind calm_ask (fun _ w₆ h₆ => ?_)
      fun e w' h => stops e w' (h.marks.trans same)
    have same := h₆.marks.trans same
    refine ensures_lift_bind (fun decision read => ?_) fun e _ => stops e w₆ same
    obtain ⟨approved, extraIterations⟩ := decision
    refine ensures_modify_bind (continueRun_accounted same fun start reaches => ?_)
    refine ⟨⟨now, response, approved, answered, read⟩, fun nonneg => reaches ?_⟩
    rw [h₆.iteration]
    exact h₅.counts (counts nonneg)

theorem invoke_accounted (entry : Entry) (w : World) :
    Ensures (invoke host c entry rounds) w (Accounted (Prescribed host c entry) w)
      (fun _ w' => Accounted (Prescribed host c entry) w none w') := by
  cases entry with
  | run hasSession => exact run_accounted hasSession w
  | resumeHumanInput continuation hasSession =>
    exact resumeHumanInput_accounted hasSession w
  | resumeInteraction kind continuation =>
    exact resumeInteraction_accounted kind w

end Turns

/-! ### The budget -/

/-- The turns that a run may take before more is approved. -/
def initialAllowance (start maxIterations : Int) (restored : Bool) : Int :=
  if restored then maxIterations else maxIterations - start

theorem effectiveMax_eq (start maxIterations : Int) (restored : Bool) :
    effectiveMax start maxIterations restored =
      start + initialAllowance start maxIterations restored := by
  cases restored <;> simp [effectiveMax, initialAllowance, Int.add_comm]

/-- The budget of an invocation that entered its loop with these arguments and marks. -/
structure WithinBudget (entry : Entry) (start maxIterations : Int) (restored : Bool)
    (ms : List Mark) (outcome : EStateM.Result PyError World (Option RunResult)) : Prop where
  below : ∀ before i limit after, ms = before ++ .turn i limit :: after →
    i < limit ∧ limit = effectiveMax start maxIterations restored + granted before ∧
      i = start + turns before
  counted : ∀ result w', outcome = .ok (some result) w' → result.iteration = start + turns ms
  bounded : turns ms ≤ initialAllowance start maxIterations restored + granted ms
  /-- A resumed budget allows what was approved, from a continuation that counts from zero. -/
  resumed : ∀ continuation, entry = .resumeInteraction .maxBudget continuation →
    (∀ i, intFromContinuation continuation "iteration" 0 = .ok i → 0 ≤ i) →
      turns ms ≤ maxIterations + granted ms

theorem accounted_of_outcome (host : LoopHost) (c : RunCall) (entry : Entry) (rounds : Nat)
    (w : World) : ∃ returned, Accounted (Prescribed host c entry) w returned
        (endState (invoke host c entry rounds w)) ∧
      ∀ result w', invoke host c entry rounds w = .ok (some result) w' → returned = some result := by
  have ran : Ensures (invoke host c entry rounds) w (Accounted (Prescribed host c entry) w)
      (fun _ w' => Accounted (Prescribed host c entry) w none w') :=
    invoke_accounted entry w
  unfold Ensures at ran
  cases outcome : invoke host c entry rounds w with
  | ok returned w' =>
    rw [outcome] at ran
    exact ⟨returned, ran, fun _ _ same => by cases same; rfl⟩
  | error e w' =>
    rw [outcome] at ran
    exact ⟨none, ran, fun _ _ same => by cases same⟩

/-- Every invocation keeps its budget: its turns are taken one after the other, each below the limit
granted so far, and there are at most as many as it was allowed and granted. -/
theorem iteration_budget (host : LoopHost) (c : RunCall) (entry : Entry) (rounds : Nat) (w : World) :
    let outcome := invoke host c entry rounds w
    (endState outcome).marks = w.marks ∨
      ∃ start maxIterations restored ms,
        (endState outcome).marks = w.marks ++ .started start maxIterations restored :: ms ∧
        Prescribed host c entry maxIterations start ∧
        (start ≤ effectiveMax start maxIterations restored →
          WithinBudget entry start maxIterations restored ms outcome) := by
  intro outcome
  obtain ⟨returned, accounted, same⟩ := accounted_of_outcome host c entry rounds w
  rcases accounted with unmarked | ⟨start, maxIterations, restored, ms, j, l', marks, known, spends,
    iteration⟩
  · exact .inl unmarked
  refine .inr ⟨start, maxIterations, restored, ms, marks, known, fun fits => ?_⟩
  have spent : (turns ms : Int) ≤ initialAllowance start maxIterations restored + granted ms := by
    have reached := spends.within (fun fits => fits) fits
    rw [spends.iteration_eq, spends.limit_eq, effectiveMax_eq] at reached
    omega
  constructor
  · intro before i limit after split
    rw [split] at spends
    obtain ⟨turnsEq, limitEq, below⟩ := spends.at_turn
    exact ⟨below fits, limitEq, turnsEq⟩
  · intro result w' returns
    rw [iteration result (same result w' returns)]
    exact spends.iteration_eq
  · exact spent
  · rintro continuation rfl counts
    have nonneg := known.2 counts
    have allowed : initialAllowance start maxIterations restored ≤ maxIterations := by
      unfold initialAllowance
      split <;> omega
    omega

end Unchain.Kernel
