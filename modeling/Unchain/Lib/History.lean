import Unchain.Lib.Effect

/-!
Histories of a store that answers calls one after another.

A call may raise, and what it wrote before it raised stays written. A claim about every run is
proved of each entry against the entries before it: `entry_of` carries an invariant of the
past and the state to the moment of any call.
-/

namespace Unchain.Lib.History

open Effect

structure Entry (ε σ α κ : Type) where
  before : σ
  call : κ
  outcome : EStateM.Result ε σ α

variable {ε σ α κ : Type}

namespace Entry

/-- The state the call left behind, returned or raised. -/
def after (e : Entry ε σ α κ) : σ := endState e.outcome

/-- What the call returned, when it did. -/
def reply (e : Entry ε σ α κ) : Option α :=
  match e.outcome with
  | .ok a _ => some a
  | .error _ _ => none

theorem outcome_of_reply {e : Entry ε σ α κ} {a : α} (h : e.reply = some a) :
    e.outcome = .ok a e.after := by
  simp only [reply] at h
  split at h
  · next ok =>
      cases h
      rw [after, ok]
      rfl
  · cases h

end Entry

/-- To return something else changes nothing about where a run ends. -/
@[simp] theorem endState_bind_pure {β : Type} (m : EStateM ε σ α) (f : α → β) (s : σ) :
    endState ((m >>= fun a => pure (f a)) s) = endState (m s) := by
  rw [bind_run]
  cases m s <;> rfl

variable (perform : κ → EStateM ε σ α)

def record (s : σ) (call : κ) : Entry ε σ α κ := ⟨s, call, perform call s⟩

def history (s : σ) : List κ → List (Entry ε σ α κ)
  | [] => []
  | call :: calls => record perform s call :: history (endState (perform call s)) calls

def final (s : σ) : List κ → σ
  | [] => s
  | call :: calls => final (endState (perform call s)) calls

variable {perform}

theorem final_append (s : σ) (first second : List κ) :
    final perform s (first ++ second) = final perform (final perform s first) second := by
  induction first generalizing s with
  | nil => rfl
  | cons call first ih => simp [final, ih]

@[simp] theorem record_before (s : σ) (call : κ) : (record perform s call).before = s := rfl

@[simp] theorem record_call (s : σ) (call : κ) : (record perform s call).call = call := rfl

@[simp] theorem record_after (s : σ) (call : κ) :
    (record perform s call).after = endState (perform call s) := rfl

variable {s : σ}

theorem record_reply_iff {call : κ} {a : α} :
    (record perform s call).reply = some a ↔ ∃ s', perform call s = .ok a s' := by
  simp only [Entry.reply, record]
  cases perform call s <;> simp

section Invariants

variable {I : List (Entry ε σ α κ) → σ → Prop}
  {calls : List κ} {e : Entry ε σ α κ} {earlier later past : List (Entry ε σ α κ)} {s : σ}

private theorem entry_of_past (step : ∀ past s call, I past s →
      I (past ++ [record perform s call]) (endState (perform call s))) (start : I past s)
    (split : history perform s calls = earlier ++ e :: later) :
    I (past ++ earlier) e.before ∧ e = record perform e.before e.call := by
  induction calls generalizing s past earlier with
  | nil => simp [history] at split
  | cons call calls ih =>
    cases earlier with
    | nil =>
      obtain ⟨rfl, -⟩ := List.cons.inj split
      exact ⟨by simpa using start, rfl⟩
    | cons first earlier =>
      obtain ⟨rfl, rest⟩ := List.cons.inj split
      simpa using ih (step past s call start) rest

theorem entry_of (start : I [] s) (step : ∀ past s call, I past s →
      I (past ++ [record perform s call]) (endState (perform call s)))
    (split : history perform s calls = earlier ++ e :: later) :
    I earlier e.before ∧ e = record perform e.before e.call :=
  entry_of_past step start split

private theorem final_of_past (step : ∀ past s call, I past s →
      I (past ++ [record perform s call]) (endState (perform call s))) (start : I past s) :
    I (past ++ history perform s calls) (final perform s calls) := by
  induction calls generalizing s past with
  | nil => simpa [history, final] using start
  | cons call calls ih => simpa [history, final] using ih (step past s call start)

/-- The invariant holds at the end of the run. -/
theorem final_of (start : I [] s) (step : ∀ past s call, I past s →
      I (past ++ [record perform s call]) (endState (perform call s))) (calls : List κ) :
    I (history perform s calls) (final perform s calls) :=
  final_of_past step start

end Invariants

section Relations

variable {R : σ → σ → Prop} {calls : List κ} {e : Entry ε σ α κ} {s : σ}

theorem before_related (refl : ∀ s, R s s) (trans : ∀ s t u, R s t → R t u → R s u)
    (step : ∀ call, Within R (perform call)) (mem : e ∈ history perform s calls) :
    R s e.before := by
  induction calls generalizing s with
  | nil => cases mem
  | cons call calls ih =>
    rcases List.mem_cons.mp mem with rfl | mem
    · exact refl s
    · exact trans _ _ _ (step call s) (ih mem)

theorem pairwise_related (refl : ∀ s, R s s) (trans : ∀ s t u, R s t → R t u → R s u)
    (step : ∀ call, Within R (perform call)) (calls : List κ) (s : σ) :
    (history perform s calls).Pairwise fun e f => R e.after f.before := by
  induction calls generalizing s with
  | nil => exact List.Pairwise.nil
  | cons call calls ih =>
    exact List.pairwise_cons.mpr
      ⟨fun f mem => before_related refl trans step mem, ih (endState (perform call s))⟩

theorem final_related (refl : ∀ s, R s s) (trans : ∀ s t u, R s t → R t u → R s u)
    (step : ∀ call, Within R (perform call)) (calls : List κ) (s : σ) :
    R s (final perform s calls) := by
  induction calls generalizing s with
  | nil => exact refl s
  | cons call calls ih => exact trans _ _ _ (step call s) (ih (endState (perform call s)))

theorem after_related_final (refl : ∀ s, R s s) (trans : ∀ s t u, R s t → R t u → R s u)
    (step : ∀ call, Within R (perform call)) (mem : e ∈ history perform s calls) :
    R e.after (final perform s calls) := by
  induction calls generalizing s with
  | nil => cases mem
  | cons call calls ih =>
    rcases List.mem_cons.mp mem with rfl | mem
    · exact final_related refl trans step calls _
    · exact ih mem

/-- A property that every call keeps exactly under a condition holds after all calls of a run iff
each call meets the condition. -/
theorem forall_after_iff {I P : σ → Prop} {C : σ → κ → Prop}
    (keeps : ∀ s call, I s → P s → I (endState (perform call s)))
    (exact_of : ∀ s call, I s → P s → (P (endState (perform call s)) ↔ C s call)) (start : I s)
    (first : P s) (calls : List κ) : (∀ e ∈ history perform s calls, P e.after) ↔
      ∀ e ∈ history perform s calls, C e.before e.call := by
  induction calls generalizing s with
  | nil => simp [history]
  | cons call calls ih =>
    rw [history, List.forall_mem_cons, List.forall_mem_cons, record_after, record_before,
      record_call, exact_of s call start first]
    constructor
    · rintro ⟨meets, rest⟩
      have next := (exact_of s call start first).mpr meets
      exact ⟨meets, (ih (keeps s call start first) next).mp rest⟩
    · rintro ⟨meets, rest⟩
      have next := (exact_of s call start first).mpr meets
      exact ⟨meets, (ih (keeps s call start first) next).mpr rest⟩

end Relations

theorem eq_record {calls : List κ} {e : Entry ε σ α κ} (mem : e ∈ history perform s calls) :
    e = record perform e.before e.call := by
  obtain ⟨earlier, later, split⟩ := List.append_of_mem mem
  exact (entry_of (I := fun _ _ => True) trivial (fun _ _ _ _ => trivial) split).2

end Unchain.Lib.History
