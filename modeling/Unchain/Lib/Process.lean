import Mathlib.Data.List.Basic

/-!
Programs that ask their surroundings for things, and pools of them.

A program issues one command at a time and goes on with the answer; it ends by
returning or by raising. A pool is any number of programs over one world: each
step either lets one program's pending command be answered, starts or kills a
program, or moves the world by itself. Nothing is said about the order.

A monitor follows the commands of one program. `Obeys` says that the program
never issues a command the monitor refuses, whatever it is answered. It composes
along the program text, and for the one-shot monitor it yields the pool
invariant `used_le_one`: if the world hands out a permit at most once and every
program uses the permit only after receiving it and only once, then it is used
at most once over every run, kills included.
-/

namespace Unchain.Lib.Process

/-- What a program may ask for, with the type of each answer. -/
structure Interface where
  Cmd : Type
  Answer : Cmd → Type

inductive Prog (I : Interface) (ε α : Type) : Type where
  | ret (a : α)
  | raise (e : ε)
  | call (c : I.Cmd) (k : I.Answer c → Prog I ε α)

namespace Prog

variable {I : Interface} {ε α β : Type}

def bind : Prog I ε α → (α → Prog I ε β) → Prog I ε β
  | .ret a, f => f a
  | .raise e, _ => .raise e
  | .call c k, f => .call c fun r => (k r).bind f

instance : Monad (Prog I ε) where
  pure := .ret
  bind := .bind

/-- A computation that asks for nothing. -/
def lift : Except ε α → Prog I ε α
  | .ok a => .ret a
  | .error e => .raise e

/-- `if c: raise e`. -/
def raiseIf (c : Bool) (e : ε) : Prog I ε Unit := if c then .raise e else .ret ()

/-- `try: p except e: raise f(e)`. -/
def mapError (f : ε → ε) : Prog I ε α → Prog I ε α
  | .ret a => .ret a
  | .raise e => .raise (f e)
  | .call c k => .call c fun r => (k r).mapError f

/-- `try: p except e: handler(e)`, where the handler may raise otherwise. -/
def tryCatch {ε' : Type} (handler : ε → Prog I ε' α) : Prog I ε α → Prog I ε' α
  | .ret a => .ret a
  | .raise e => handler e
  | .call c k => .call c fun r => (k r).tryCatch handler

/-- `try: p`, where the exception is looked at later. -/
def attempt : Prog I ε α → Prog I ε (Except ε α)
  | .ret a => .ret (.ok a)
  | .raise e => .ret (.error e)
  | .call c k => .call c fun r => (k r).attempt

/-- The command the program waits for an answer to. -/
def asks? : Prog I ε α → Option I.Cmd
  | .call c _ => some c
  | _ => none

/-- The outcome of a program whose every command is answered by one function. -/
def under (answers : ∀ c, I.Answer c) : Prog I ε α → Except ε α
  | .ret a => .ok a
  | .raise e => .error e
  | .call c k => (k (answers c)).under answers

/-- Every command the program may issue satisfies `P`. -/
def Only (P : I.Cmd → Prop) : Prog I ε α → Prop
  | .ret _ => True
  | .raise _ => True
  | .call c k => P c ∧ ∀ r, (k r).Only P

/-- Whatever it is answered, a result of the program satisfies `Q`. -/
def Returns (Q : α → Prop) : Prog I ε α → Prop
  | .ret a => Q a
  | .raise _ => True
  | .call _ k => ∀ r, (k r).Returns Q

@[simp] theorem under_ret (answers : ∀ c, I.Answer c) (a : α) :
    (ret a : Prog I ε α).under answers = .ok a := rfl

@[simp] theorem under_lift (answers : ∀ c, I.Answer c) (x : Except ε α) :
    (lift x).under answers = x := by
  cases x <;> rfl

theorem under_bind (answers : ∀ c, I.Answer c) (p : Prog I ε α) (f : α → Prog I ε β) :
    (p >>= f).under answers = p.under answers >>= fun a => (f a).under answers := by
  induction p with
  | ret a => rfl
  | raise e => rfl
  | call c k ih => exact ih (answers c)

end Prog

/-! ### What a program asks for and what it returns -/

section Rules

variable {I : Interface} {ε α β : Type} {P : I.Cmd → Prop} {Q : α → Prop}

open Prog

@[simp] theorem only_pure (a : α) : (pure a : Prog I ε α).Only P := trivial

@[simp] theorem only_ret (a : α) : (.ret a : Prog I ε α).Only P := trivial

@[simp] theorem only_raise (e : ε) : (.raise e : Prog I ε α).Only P := trivial

@[simp] theorem only_lift (x : Except ε α) : (lift x : Prog I ε α).Only P := by
  cases x <;> trivial

@[simp] theorem only_raiseIf (c : Bool) (e : ε) : (raiseIf c e : Prog I ε Unit).Only P := by
  cases c <;> trivial

variable {x : Except ε α} {f : α → Prog I ε β}

/-- A sequence that waits has computed what comes before. -/
theorem asks_lift_bind {c : I.Cmd} (h : (lift x >>= f).asks? = some c) :
    ∃ a, x = .ok a ∧ (f a).asks? = some c := by
  cases x with
  | ok a => exact ⟨a, rfl, h⟩
  | error e => cases h

variable {e : ε}

theorem asks_raiseIf_bind {b : Bool} {f : Unit → Prog I ε β} {c : I.Cmd}
    (h : (raiseIf b e >>= f).asks? = some c) : b = false ∧ (f ()).asks? = some c := by
  cases b with
  | true => cases h
  | false => exact ⟨rfl, h⟩

theorem lift_bind_ne_ret {b : β} (h : ∀ a, f a ≠ .ret b) : (lift x >>= f) ≠ .ret b := by
  cases x with
  | ok a => exact h a
  | error e => rintro ⟨⟩

theorem raiseIf_bind_ne_ret {c : Bool} {f : Unit → Prog I ε β} {b : β} (h : f () ≠ .ret b) :
    (raiseIf c e >>= f) ≠ .ret b := by
  cases c with
  | true => rintro ⟨⟩
  | false => exact h

variable {p : Prog I ε α}

theorem mapError_eq_ret {f : ε → ε} {a : α} (h : p.mapError f = .ret a) : p = .ret a := by
  cases p with
  | ret b =>
    cases h
    rfl
  | raise e => cases h
  | call c k => cases h

theorem asks_bind {c : I.Cmd} (h : (p >>= f).asks? = some c) :
    p.asks? = some c ∨ ∃ a, p = .ret a ∧ (f a).asks? = some c := by
  cases p with
  | ret a => exact .inr ⟨a, rfl, h⟩
  | raise e => cases h
  | call d k => exact .inl h

@[simp] theorem asks_mapError (f : ε → ε) (p : Prog I ε α) : (p.mapError f).asks? = p.asks? := by
  cases p <;> rfl

theorem returns_true (p : Prog I ε α) : p.Returns fun _ => True := by
  induction p with
  | ret a => trivial
  | raise e => trivial
  | call c k ih => exact ih

theorem returns_mono {Q' : α → Prop} (hp : p.Returns Q) (weaker : ∀ a, Q a → Q' a) :
    p.Returns Q' := by
  induction p with
  | ret a => exact weaker a hp
  | raise e => trivial
  | call c k ih => exact fun r => ih r (hp r)

theorem only_bind (hp : p.Only P) (hf : ∀ a, (f a).Only P) : (p >>= f).Only P := by
  induction p with
  | ret a => exact hf a
  | raise e => trivial
  | call c k ih => exact ⟨hp.1, fun r => ih r (hp.2 r)⟩

theorem only_lift_bind (hf : ∀ a, (f a).Only P) : (lift x >>= f).Only P :=
  only_bind (only_lift x) hf

theorem only_raiseIf_bind {c : Bool} {e : ε} {f : Unit → Prog I ε β} (hf : ∀ a, (f a).Only P) :
    (raiseIf c e >>= f).Only P :=
  only_bind (only_raiseIf c e) hf

@[simp] theorem only_mapError {f : ε → ε} : (p.mapError f).Only P ↔ p.Only P := by
  induction p with
  | ret a => rfl
  | raise e => rfl
  | call c k ih => simp only [mapError, Only, ih]

theorem only_mono {P' : I.Cmd → Prop} (hp : p.Only P) (weaker : ∀ c, P c → P' c) : p.Only P' := by
  induction p with
  | ret a => trivial
  | raise e => trivial
  | call c k ih => exact ⟨weaker c hp.1, fun r => ih r (hp.2 r)⟩

variable {R : β → Prop}

theorem returns_bind {mid : α → Prop} (hp : p.Returns mid)
    (hf : ∀ a, mid a → (f a).Returns R) : (p >>= f).Returns R := by
  induction p with
  | ret a => exact hf a hp
  | raise e => trivial
  | call c k ih => exact fun r => ih r (hp r)

/-- Only the last step of a sequence decides on its results. -/
theorem returns_last (hf : ∀ a, (f a).Returns R) : (p >>= f).Returns R := by
  induction p with
  | ret a => exact hf a
  | raise e => trivial
  | call c k ih => exact fun r => ih r

theorem returns_lift (h : ∀ a, x = .ok a → Q a) : (lift x : Prog I ε α).Returns Q := by
  cases x with
  | ok a => exact h a rfl
  | error e => trivial

end Rules

/-! ### Monitors -/

/-- An automaton over the commands of one program and their answers. -/
structure Monitor (I : Interface) where
  State : Type
  allows : State → I.Cmd → Prop
  next : State → (c : I.Cmd) → I.Answer c → State

section Obeys

variable {I : Interface} {ε α β : Type} (M : Monitor I)

/-- Whatever it is answered, the program issues only allowed commands, and `post`
holds of the monitor's state and the result when it returns. -/
def Obeys : M.State → Prog I ε α → (M.State → α → Prop) → Prop
  | g, .ret a, post => post g a
  | _, .raise _, _ => True
  | g, .call c k, post => M.allows g c ∧ ∀ r, Obeys (M.next g c r) (k r) post

variable {M} {g : M.State} {p : Prog I ε α} {f : α → Prog I ε β}

theorem obeys_bind {mid : M.State → α → Prop} {post : M.State → β → Prop} (hp : Obeys M g p mid)
    (hf : ∀ g' a, mid g' a → Obeys M g' (f a) post) : Obeys M g (p >>= f) post := by
  induction p generalizing g with
  | ret a => exact hf g a hp
  | raise e => trivial
  | call c k ih => exact ⟨hp.1, fun r => ih r (hp.2 r)⟩

theorem Obeys.mono {g : M.State} {p : Prog I ε α} {post post' : M.State → α → Prop}
    (hp : Obeys M g p post) (weaker : ∀ g' a, post g' a → post' g' a) : Obeys M g p post' := by
  induction p generalizing g with
  | ret a => exact weaker g a hp
  | raise e => trivial
  | call c k ih => exact ⟨hp.1, fun r => ih r (hp.2 r)⟩

variable {x : Except ε α} {post : M.State → α → Prop}

theorem obeys_lift (h : ∀ a, x = .ok a → post g a) : Obeys M g (Prog.lift x) post := by
  cases x with
  | ok a => exact h a rfl
  | error e => trivial

/-- A sequence that starts by computing goes on with what was computed. -/
theorem obeys_lift_bind {post : M.State → β → Prop}
    (h : ∀ a, x = .ok a → Obeys M g (f a) post) : Obeys M g (Prog.lift x >>= f) post := by
  cases x with
  | ok a => exact h a rfl
  | error e => trivial

variable {c : Bool} {e : ε}

theorem obeys_raiseIf_bind {f : Unit → Prog I ε β} {post : M.State → β → Prop}
    (h : Obeys M g (f ()) post) : Obeys M g (Prog.raiseIf c e >>= f) post := by
  cases c with
  | true => trivial
  | false => exact h

/-- What follows a check may rely on it. -/
theorem obeys_check_bind {f : Unit → Prog I ε β} {post : M.State → β → Prop}
    (h : c = false → Obeys M g (f ()) post) : Obeys M g (Prog.raiseIf c e >>= f) post := by
  cases c with
  | true => trivial
  | false => exact h rfl

theorem obeys_mapError {f : ε → ε} (hp : Obeys M g p post) : Obeys M g (p.mapError f) post := by
  induction p generalizing g with
  | ret a => exact hp
  | raise e => trivial
  | call c k ih => exact ⟨hp.1, fun r => ih r (hp.2 r)⟩

theorem obeys_tryCatch {ε' : Type} {handler : ε → Prog I ε' α} (hp : Obeys M g p post)
    (caught : ∀ g' e, Obeys M g' (handler e) post) : Obeys M g (p.tryCatch handler) post := by
  induction p generalizing g with
  | ret a => exact hp
  | raise e => exact caught g e
  | call c k ih => exact ⟨hp.1, fun r => ih r (hp.2 r)⟩

variable {R : M.State → M.State → Prop} {g₀ : M.State}

/-- A relation to where the monitor stood that every answer keeps holds to the end. -/
theorem Obeys.along (step : ∀ g₀ g c r, R g₀ g → R g₀ (M.next g c r)) (start : R g₀ g)
    (hp : Obeys M g p post) : Obeys M g p fun g' a => R g₀ g' ∧ post g' a := by
  induction p generalizing g with
  | ret a => exact ⟨start, hp⟩
  | raise e => trivial
  | call c k ih => exact ⟨hp.1, fun r => ih r (step g₀ g c r start) (hp.2 r)⟩

/-- What is kept along the way is kept by an attempt that fails, too. -/
theorem obeys_attempt (step : ∀ g₀ g c r, R g₀ g → R g₀ (M.next g c r)) (start : R g₀ g)
    (hp : Obeys M g p post) :
    Obeys M g p.attempt fun g' x => R g₀ g' ∧ ∀ a, x = .ok a → post g' a := by
  induction p generalizing g with
  | ret a =>
    refine ⟨start, ?_⟩
    rintro _ ⟨⟩
    exact hp
  | raise e =>
    refine ⟨start, ?_⟩
    rintro _ ⟨⟩
  | call c k ih => exact ⟨hp.1, fun r => ih r (step g₀ g c r start) (hp.2 r)⟩

variable {P : I.Cmd → Prop}

/-- Commands that leave the monitor where it is. -/
theorem obeys_of_only {Q : α → Prop} (quiet : ∀ c, P c → ∀ g, M.allows g c ∧ ∀ r, M.next g c r = g)
    (hp : p.Only P) (hq : p.Returns Q) (g : M.State) : Obeys M g p fun g' a => g' = g ∧ Q a := by
  induction p with
  | ret a => exact ⟨rfl, hq⟩
  | raise e => trivial
  | call c k ih =>
    refine ⟨(quiet c hp.1 g).1, fun r => ?_⟩
    rw [(quiet c hp.1 g).2 r]
    exact ih r (hp.2 r) (hq r)

/-- Commands that are always allowed, wherever they lead. -/
theorem obeys_of_allowed (allowed : ∀ c, P c → ∀ g, M.allows g c) (hp : p.Only P) (g : M.State) :
    Obeys M g p fun _ _ => True := by
  induction p generalizing g with
  | ret a => trivial
  | raise e => trivial
  | call c k ih => exact ⟨allowed c hp.1 g, fun r => ih r (hp.2 r) _⟩

end Obeys

/-! ### A program alone -/

section Ends

variable {I : Interface} {ε α W : Type} (A : W → (c : I.Cmd) → I.Answer c → W → Prop)
  (post : W → Prop)

/-- However its commands are answered, the program ends in a world of `post`. -/
def Prog.Ends : W → Prog I ε α → Prop
  | w, .ret _ => post w
  | w, .raise _ => post w
  | w, .call c k => ∀ r w', A w c r w' → Ends w' (k r)

variable {A post} {P : I.Cmd → Prop}

theorem ends_of_only (keeps : ∀ w c r w', P c → A w c r w' → post w → post w') {p : Prog I ε α}
    (only : p.Only P) {w : W} (h : post w) : p.Ends A post w := by
  induction p generalizing w with
  | ret a => exact h
  | raise e => exact h
  | call c k ih =>
    intro r w' answered
    exact ih r (only.2 r) (keeps w c r w' only.1 answered h)

end Ends

/-! ### Pools -/

/-- The world around a pool: how it may answer a command, how it moves by itself,
and which programs may be started. -/
structure Surroundings (I : Interface) (ε α W : Type) where
  answers : W → (c : I.Cmd) → I.Answer c → W → Prop
  moves : W → W → Prop
  starts : Prog I ε α → Prop

structure Pool (I : Interface) (ε α W : Type) where
  programs : List (Prog I ε α)
  world : W

inductive Step {I : Interface} {ε α W : Type} (S : Surroundings I ε α W) :
    Pool I ε α W → Pool I ε α W → Prop where
  | start {ps : List (Prog I ε α)} {w : W} (p : Prog I ε α) (h : S.starts p) :
      Step S ⟨ps, w⟩ ⟨p :: ps, w⟩
  | answer {ps qs : List (Prog I ε α)} {w w' : W} {c : I.Cmd} {k : I.Answer c → Prog I ε α}
      {r : I.Answer c} (h : S.answers w c r w') :
      Step S ⟨ps ++ .call c k :: qs, w⟩ ⟨ps ++ k r :: qs, w'⟩
  | kill {ps qs : List (Prog I ε α)} {w : W} {p : Prog I ε α} :
      Step S ⟨ps ++ p :: qs, w⟩ ⟨ps ++ qs, w⟩
  | move {ps : List (Prog I ε α)} {w w' : W} (h : S.moves w w') : Step S ⟨ps, w⟩ ⟨ps, w'⟩

/-- The pools some run leads to from an initial world with no programs. -/
inductive Reachable {I : Interface} {ε α W : Type} (S : Surroundings I ε α W) (init : W → Prop) :
    Pool I ε α W → Prop where
  | init {w : W} (h : init w) : Reachable S init ⟨[], w⟩
  | step {s s' : Pool I ε α W} (h : Reachable S init s) (next : Step S s s') : Reachable S init s'

/-! ### One-shot permits -/

/-- A permit: which answers hand it out and which commands use it up. -/
structure Permit (I : Interface) where
  grants : (c : I.Cmd) → I.Answer c → Bool
  uses : I.Cmd → Bool

/-- Whether a program holds the permit after a command, if it held it before or not. -/
def Permit.after {I : Interface} (O : Permit I) (held : Bool) (c : I.Cmd) (r : I.Answer c) : Bool :=
  if O.uses c then false else held || O.grants c r

/-- The monitor of a permit; its state says whether the program holds it. -/
def Permit.monitor {I : Interface} (O : Permit I) : Monitor I where
  State := Bool
  allows held c := O.uses c = true → held = true
  next := O.after

/-- The world hands the permit out at most once, and counts its uses. -/
structure Permit.IssuedOnce {I : Interface} {ε α W : Type} (O : Permit I)
    (S : Surroundings I ε α W) (taken : W → Prop) (used : W → Nat) : Prop where
  grant : ∀ {w c r w'}, S.answers w c r w' → O.grants c r = true → ¬ taken w ∧ taken w'
  answers_taken : ∀ {w c r w'}, S.answers w c r w' → taken w → taken w'
  moves_taken : ∀ {w w'}, S.moves w w' → taken w → taken w'
  answers_used : ∀ {w c r w'}, S.answers w c r w' → used w' = used w + (O.uses c).toNat
  moves_used : ∀ {w w'}, S.moves w w' → used w' = used w

section OneShot

variable {I : Interface} {ε α W : Type} {O : Permit I} {S : Surroundings I ε α W}
  {taken : W → Prop} {used : W → Nat}

/-- The programs of a pool with the permits they hold: at most one permit is held or
spent, and one is held or spent only if the world has handed it out. -/
structure Accounted (O : Permit I) (taken : W → Prop) (used : W → Nat)
    (programs : List (Prog I ε α)) (w : W) (held : List (Bool × Prog I ε α)) : Prop where
  programs_eq : held.map Prod.snd = programs
  obeys : ∀ x ∈ held, Obeys O.monitor x.1 x.2 fun _ _ => True
  once : held.countP Prod.fst + used w ≤ 1
  backed : 0 < held.countP Prod.fst + used w → taken w

private theorem countP_middle (xs ys : List (Bool × Prog I ε α)) (x : Bool × Prog I ε α) :
    (xs ++ x :: ys).countP Prod.fst = (xs ++ ys).countP Prod.fst + x.1.toNat := by
  rcases x with ⟨_ | _, p⟩
  · simp
  · simp
    omega

private theorem permit_balance (once : O.IssuedOnce S taken used) {w w' : W} {c : I.Cmd}
    {r : I.Answer c} (answers : S.answers w c r w') {g : Bool} (allowed : O.monitor.allows g c)
    {others : Nat} (total : others + g.toNat + used w ≤ 1)
    (backed : 0 < others + g.toNat + used w → taken w) :
    others + (O.after g c r).toNat + used w' ≤ 1 ∧
      (0 < others + (O.after g c r).toNat + used w' → taken w') := by
  have spent := once.answers_used answers
  by_cases uses : O.uses c = true
  · -- the permit moves from the program's hand to the world's count
    obtain rfl : g = true := allowed uses
    simp only [uses, Bool.toNat_true] at spent total
    have none : O.after true c r = false := by simp [Permit.after, uses]
    rw [none]
    simp only [Bool.toNat_false]
    refine ⟨by omega, fun _ => once.answers_taken answers (backed ?_)⟩
    simp only [Bool.toNat_true]
    omega
  · simp only [Bool.not_eq_true] at uses
    simp only [uses, Bool.toNat_false] at spent
    have next : O.after g c r = (g || O.grants c r) := by simp [Permit.after, uses]
    rw [next]
    by_cases granted : O.grants c r = true
    · -- a grant comes from a world that had not handed the permit out: nothing was held or spent
      obtain ⟨fresh, takenNow⟩ := once.grant answers granted
      have zero : others + g.toNat + used w = 0 := by
        by_contra pos
        exact fresh (backed (Nat.pos_of_ne_zero pos))
      simp only [granted, Bool.or_true, Bool.toNat_true]
      exact ⟨by omega, fun _ => takenNow⟩
    · simp only [Bool.not_eq_true] at granted
      simp only [granted, Bool.or_false]
      exact ⟨by omega, fun pos => once.answers_taken answers (backed (by omega))⟩

variable {s : Pool I ε α W}

theorem accounted_step (once : O.IssuedOnce S taken used)
    (entry : ∀ p, S.starts p → Obeys O.monitor false p fun _ _ => True) {s' : Pool I ε α W}
    (next : Step S s s') {held : List (Bool × Prog I ε α)}
    (h : Accounted O taken used s.programs s.world held) :
    ∃ held', Accounted O taken used s'.programs s'.world held' := by
  cases next with
  | start p starts =>
    refine ⟨(false, p) :: held, by simp [h.programs_eq], ?_, by simpa using h.once,
      by simpa using h.backed⟩
    rintro x (_ | ⟨_, mem⟩)
    · exact entry p starts
    · exact h.obeys x mem
  | move moves =>
    refine ⟨held, h.programs_eq, h.obeys, ?_, fun pos => ?_⟩
    · simpa only [once.moves_used moves] using h.once
    · rw [once.moves_used moves] at pos
      exact once.moves_taken moves (h.backed pos)
  | @kill ps qs w p =>
    obtain ⟨xs, rest, rfl, hxs, hrest⟩ := List.map_eq_append_iff.mp h.programs_eq
    obtain ⟨x, ys, rfl, hx, hys⟩ := List.map_eq_cons_iff.mp hrest
    have count := countP_middle xs ys x
    have total : (xs ++ x :: ys).countP Prod.fst + used w ≤ 1 := h.once
    refine ⟨xs ++ ys, by simp [hxs, hys], fun y mem => h.obeys y ?_, ?_, fun pos => h.backed ?_⟩
    · simp only [List.mem_append, List.mem_cons] at mem ⊢
      tauto
    · show (xs ++ ys).countP Prod.fst + used w ≤ 1
      omega
    · have positive : 0 < (xs ++ ys).countP Prod.fst + used w := pos
      show 0 < (xs ++ x :: ys).countP Prod.fst + used w
      omega
  | @answer ps qs w w' c k r answers =>
    obtain ⟨xs, rest, rfl, hxs, hrest⟩ := List.map_eq_append_iff.mp h.programs_eq
    obtain ⟨⟨g, p⟩, ys, rfl, hx, hys⟩ := List.map_eq_cons_iff.mp hrest
    have obeys : Obeys O.monitor g p fun _ _ => True := h.obeys (g, p) (by simp)
    obtain rfl : p = .call c k := hx
    obtain ⟨allowed, onward⟩ := obeys
    have balance := permit_balance once answers allowed
      (by simpa only [countP_middle] using h.once) (by simpa only [countP_middle] using h.backed)
    refine ⟨xs ++ (O.after g c r, k r) :: ys, by simp [hxs, hys], ?_, ?_, ?_⟩
    · intro y mem
      simp only [List.mem_append, List.mem_cons] at mem
      rcases mem with mem | rfl | mem
      · exact h.obeys y (by simp [mem])
      · exact onward r
      · exact h.obeys y (by simp [mem])
    · simpa only [countP_middle] using balance.1
    · simpa only [countP_middle] using balance.2

theorem used_le_one (once : O.IssuedOnce S taken used)
    (entry : ∀ p, S.starts p → Obeys O.monitor false p fun _ _ => True) {init : W → Prop}
    (unused : ∀ w, init w → used w = 0) (h : Reachable S init s) : used s.world ≤ 1 := by
  suffices ∃ held, Accounted O taken used s.programs s.world held by
    obtain ⟨held, account⟩ := this
    exact Nat.le_trans (Nat.le_add_left _ _) account.once
  induction h with
  | init hw => exact ⟨[], rfl, by simp, by simp [unused _ hw], by simp [unused _ hw]⟩
  | step _ next ih =>
    obtain ⟨held, account⟩ := ih
    exact accounted_step once entry next account

end OneShot

end Unchain.Lib.Process
