import Unchain.Lib.Process

/-!
Programs that may be cut off between two commands.

A service answers each command from the world and moves the world. A run of a program follows it
up to any of its commands: a program that is cut off stays there, and the world is what it was.

`Keeps` is the triple of such programs: after every command the world satisfies the crash
condition, and where the program ends it satisfies the postcondition. The rules follow the program
text.
-/

namespace Unchain.Lib.Interrupted

open Process Prog

/-- What a world may answer to a command, and the world after it. -/
abbrev Service (I : Interface) (W : Type) := W → (c : I.Cmd) → I.Answer c → W → Prop

variable {I J : Interface} {ε ε' α β W : Type}

/-- A program run from a world up to one of its commands, or to its end. -/
inductive Runs (S : Service I W) : W → Prog I ε α → W → Prog I ε α → Prop where
  | here {w : W} {p : Prog I ε α} : Runs S w p w p
  | next {w w' w'' : W} {c : I.Cmd} {k : I.Answer c → Prog I ε α} {r : I.Answer c}
      {q : Prog I ε α} (answered : S w c r w') (rest : Runs S w' (k r) w'' q) :
      Runs S w (.call c k) w'' q

/-- How a program ended, if it did. -/
def ended : Prog I ε α → Option (Except ε α)
  | .ret a => some (.ok a)
  | .raise e => some (.error e)
  | .call _ _ => none

/-- A condition on how a program ended, by whether it returned or raised. -/
def either (returned : α → Prop) (raised : ε → Prop) : Except ε α → Prop
  | .ok a => returned a
  | .error e => raised e

def Keeps (S : Service I W) (inv : W → Prop) :
    W → Prog I ε α → (W → Except ε α → Prop) → Prop
  | w, .ret a, post => post w (.ok a)
  | w, .raise e, post => post w (.error e)
  | w, .call c k, post => ∀ r w', S w c r w' → inv w' ∧ Keeps S inv w' (k r) post

section Runs

variable {S : Service I W} {inv : W → Prop} {w w' : W} {p q : Prog I ε α}
  {post : W → Except ε α → Prop}

theorem Keeps.along (run : Runs S w p w' q) (kept : Keeps S inv w p post) (start : inv w) :
    inv w' ∧ Keeps S inv w' q post := by
  induction run with
  | here => exact ⟨start, kept⟩
  | next answered _ ih =>
    obtain ⟨there, onward⟩ := kept _ _ answered
    exact ih onward there

theorem Keeps.at_end (run : Runs S w p w' q) (kept : Keeps S inv w p post) (start : inv w)
    {x : Except ε α} (done : ended q = some x) : post w' x := by
  obtain ⟨-, rest⟩ := kept.along run start
  cases q with
  | ret a | raise e =>
    cases done
    exact rest
  | call c k => cases done

theorem exists_end (answers : ∀ w c, ∃ r w', S w c r w') (w : W) (p : Prog I ε α) :
    ∃ w' q x, Runs S w p w' q ∧ ended q = some x := by
  induction p generalizing w with
  | ret a | raise e => exact ⟨w, _, _, .here, rfl⟩
  | call c k ih =>
    obtain ⟨r, w', answered⟩ := answers w c
    obtain ⟨w'', q, x, run, done⟩ := ih r w'
    exact ⟨w'', q, x, .next answered run, done⟩

end Runs

/-! ### A world that answers in one way -/

/-- The end of a program whose commands are answered by a function. -/
def play (answer : W → (c : I.Cmd) → I.Answer c × W) : W → Prog I ε α → W × Except ε α
  | w, .ret a => (w, .ok a)
  | w, .raise e => (w, .error e)
  | w, .call c k => play answer (answer w c).2 (k (answer w c).1)

theorem runs_play {S : Service I W} {answer : W → (c : I.Cmd) → I.Answer c × W}
    (allowed : ∀ w c, S w c (answer w c).1 (answer w c).2) (w : W) (p : Prog I ε α) :
    ∃ q, Runs S w p (play answer w p).1 q ∧ ended q = some (play answer w p).2 := by
  induction p generalizing w with
  | ret a | raise e => exact ⟨_, .here, rfl⟩
  | call c k ih =>
    obtain ⟨q, run, done⟩ := ih (answer w c).1 (answer w c).2
    exact ⟨q, .next (allowed w c) run, done⟩

/-! ### Programs of another interface -/

/-- A program whose commands are among those of a larger interface. -/
def within (command : I.Cmd → J.Cmd) (answer : ∀ c, J.Answer (command c) → I.Answer c)
    (error : ε → ε') : Prog I ε α → Prog J ε' α
  | .ret a => .ret a
  | .raise e => .raise (error e)
  | .call c k => .call (command c) fun r => within command answer error (k (answer c r))

/-! ### Rules -/

section Rules

variable {S : Service I W} {inv : W → Prop} {w : W} {p : Prog I ε α}
  {post : W → Except ε α → Prop}

theorem Keeps.mono {post' : W → Except ε α → Prop} (kept : Keeps S inv w p post)
    (weaker : ∀ w' x, post w' x → post' w' x) : Keeps S inv w p post' := by
  induction p generalizing w with
  | ret a | raise e => exact weaker _ _ kept
  | call c k ih =>
    intro r w' answered
    obtain ⟨there, onward⟩ := kept r w' answered
    exact ⟨there, ih r onward⟩

/-- Where a program ends its world satisfies the crash condition, too. -/
theorem Keeps.with_inv (kept : Keeps S inv w p post) (start : inv w) :
    Keeps S inv w p fun w' x => inv w' ∧ post w' x := by
  induction p generalizing w with
  | ret a | raise e => exact ⟨start, kept⟩
  | call c k ih =>
    intro r w' answered
    obtain ⟨there, onward⟩ := kept r w' answered
    exact ⟨there, ih r onward there⟩

theorem keeps_bind {f : α → Prog I ε β} {post : W → Except ε β → Prop}
    (kept : Keeps S inv w p fun w' =>
      either (fun a => Keeps S inv w' (f a) post) fun e => post w' (.error e)) :
    Keeps S inv w (p >>= f) post := by
  induction p generalizing w with
  | ret a => exact kept
  | raise e => exact kept
  | call c k ih =>
    intro r w' answered
    obtain ⟨there, onward⟩ := kept r w' answered
    exact ⟨there, ih r onward⟩

theorem keeps_raiseIf_bind {c : Bool} {e : ε} {f : Unit → Prog I ε β}
    {post : W → Except ε β → Prop} (passed : c = false → Keeps S inv w (f ()) post)
    (raised : c = true → post w (.error e)) : Keeps S inv w (raiseIf c e >>= f) post := by
  cases c with
  | true => exact raised rfl
  | false => exact passed rfl

theorem keeps_tryCatch {handler : ε → Prog I ε' α} {post : W → Except ε' α → Prop}
    (kept : Keeps S inv w p fun w' =>
      either (fun a => post w' (.ok a)) fun e => Keeps S inv w' (handler e) post) :
    Keeps S inv w (p.tryCatch handler) post := by
  induction p generalizing w with
  | ret a => exact kept
  | raise e => exact kept
  | call c k ih =>
    intro r w' answered
    obtain ⟨there, onward⟩ := kept r w' answered
    exact ⟨there, ih r onward⟩

theorem keeps_attempt {post : W → Except ε (Except ε α) → Prop}
    (kept : Keeps S inv w p fun w' x => post w' (.ok x)) : Keeps S inv w p.attempt post := by
  induction p generalizing w with
  | ret a => exact kept
  | raise e => exact kept
  | call c k ih =>
    intro r w' answered
    obtain ⟨there, onward⟩ := kept r w' answered
    exact ⟨there, ih r onward⟩

end Rules

/-- A program of a smaller interface is served by what the larger world answers to it. -/
theorem keeps_within {command : I.Cmd → J.Cmd} {answer : ∀ c, J.Answer (command c) → I.Answer c}
    {error : ε → ε'} {S : Service I W} {T : Service J W} {inv : W → Prop} {w : W}
    {p : Prog I ε α} {post : W → Except ε' α → Prop}
    (served : ∀ w c r w', T w (command c) r w' → S w c (answer c r) w')
    (kept : Keeps S inv w p fun w' x => post w' (x.mapError error)) :
    Keeps T inv w (within command answer error p) post := by
  induction p generalizing w with
  | ret a => exact kept
  | raise e => exact kept
  | call c k ih =>
    intro r w' answered
    obtain ⟨there, onward⟩ := kept _ _ (served _ _ _ _ answered)
    exact ⟨there, ih _ onward⟩

end Unchain.Lib.Interrupted
