import Unchain.Lib.Effect

/-!
Postconditions of computations that may raise, from one state.

`Ensures m s ok err` says how the run of `m` from `s` ends, returned or raised. The rules follow the
program text; a command that is only known by its frame (`Within R m`) is passed over by
`ensures_frame_bind`.
-/

namespace Unchain.Lib.Effect

variable {ε σ α β : Type}

/-- The run of `m` from `s` returns with `ok` or raises with `err`. -/
def Ensures (m : EStateM ε σ α) (s : σ) (ok : α → σ → Prop) (err : ε → σ → Prop) : Prop :=
  match m s with
  | .ok a s' => ok a s'
  | .error e s' => err e s'

variable {m : EStateM ε σ α} {s : σ} {ok : α → σ → Prop} {err : ε → σ → Prop}

theorem Ensures.mono {ok' : α → σ → Prop} {err' : ε → σ → Prop} (h : Ensures m s ok err)
    (returned : ∀ a s', ok a s' → ok' a s') (raised : ∀ e s', err e s' → err' e s') :
    Ensures m s ok' err' := by
  unfold Ensures at h ⊢
  cases outcome : m s with
  | ok a s' =>
    rw [outcome] at h
    exact returned a s' h
  | error e s' =>
    rw [outcome] at h
    exact raised e s' h

theorem ensures_pure {a : α} (h : ok a s) : Ensures (pure a) s ok err := h

theorem ensures_throw {e : ε} (h : err e s) : Ensures (throw e : EStateM ε σ α) s ok err := h

variable {ok' : β → σ → Prop}

theorem ensures_bind {f : α → EStateM ε σ β}
    (h : Ensures m s (fun a s' => Ensures (f a) s' ok' err) err) : Ensures (m >>= f) s ok' err := by
  unfold Ensures at h
  unfold Ensures
  rw [bind_run]
  cases outcome : m s with
  | ok a s' | error e s' =>
    rw [outcome] at h
    exact h

variable {R : σ → σ → Prop}

theorem ensures_frame (frame : Within R m) (returned : ∀ a s', R s s' → ok a s')
    (raised : ∀ e s', R s s' → err e s') : Ensures m s ok err := by
  have ended := frame s
  unfold Ensures
  cases outcome : m s with
  | ok a s' =>
    rw [outcome] at ended
    exact returned a s' ended
  | error e s' =>
    rw [outcome] at ended
    exact raised e s' ended

theorem ensures_frame_bind {f : α → EStateM ε σ β} (frame : Within R m)
    (next : ∀ a s', R s s' → Ensures (f a) s' ok' err) (raised : ∀ e s', R s s' → err e s') :
    Ensures (m >>= f) s ok' err :=
  ensures_bind (ensures_frame frame next raised)

/-- One of several commands that keep within `R`, counted from the first of them. -/
theorem ensures_frame_from (trans : ∀ s t u, R s t → R t u → R s u) {f : α → EStateM ε σ β} {s₀ : σ}
    (frame : Within R m) (reached : R s₀ s) (next : ∀ a s', R s₀ s' → Ensures (f a) s' ok' err)
    (raised : ∀ e s', R s₀ s' → err e s') : Ensures (m >>= f) s ok' err :=
  ensures_frame_bind frame (fun a s' h => next a s' (trans _ _ _ reached h))
    fun e s' h => raised e s' (trans _ _ _ reached h)

theorem ensures_get_bind {f : σ → EStateM ε σ β} (h : Ensures (f s) s ok' err) :
    Ensures (get >>= f) s ok' err := h

theorem ensures_modify {g : σ → σ} {ok : PUnit → σ → Prop} (h : ok ⟨⟩ (g s)) :
    Ensures (modify g) s ok err := h

theorem ensures_modify_bind {g : σ → σ} {f : PUnit → EStateM ε σ β}
    (h : Ensures (f ⟨⟩) (g s) ok' err) : Ensures (modify g >>= f) s ok' err := h

theorem ensures_modifyGet_bind {g : σ → α × σ} {f : α → EStateM ε σ β}
    (h : Ensures (f (g s).1) (g s).2 ok' err) : Ensures (modifyGet g >>= f) s ok' err := h

theorem ensures_lift_bind {x : Except ε α} {f : α → EStateM ε σ β}
    (next : ∀ a, x = .ok a → Ensures (f a) s ok' err) (raised : ∀ e, x = .error e → err e s) :
    Ensures (lift x >>= f) s ok' err := by
  cases x with
  | ok a => exact next a rfl
  | error e => exact raised e rfl

theorem Ensures.ended {P : σ → Prop} (h : Ensures m s (fun _ => P) fun _ => P) :
    P (endState (m s)) := by
  unfold Ensures at h
  cases outcome : m s with
  | ok a s' | error e s' =>
    rw [outcome] at h
    exact h

end Unchain.Lib.Effect
