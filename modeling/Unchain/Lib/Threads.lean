import Unchain.Lib.Interrupted

/-!
Threads that take turns on one world.

Every thread is a program, and a step answers the pending command of one of them. A run keeps
the list of its steps: who moved, from which world to which.

`Secure` is a rely-guarantee triple for one thread. Between two of its commands the world moves
as the rely says, each of its own commands moves the world as the guarantee says, and where it
ends the postcondition holds of its own steps and of the world. Threads that rely on no more than
the others guarantee stay secure in every run (`Run.secure`).
-/

namespace Unchain.Lib.Threads

open Process Prog Interrupted

/-- The steps of one thread: the world before and after each. -/
abbrev Steps (W : Type) := List (W × W)

structure Pool (I : Interface) (ε α W T : Type) where
  programs : T → Prog I ε α
  world : W

section Runs

variable {I : Interface} {ε α W T : Type} [DecidableEq T]

/-- The pools that a pool leads to, with the steps taken. -/
inductive Run (S : Service I W) (s : Pool I ε α W T) :
    List (T × W × W) → Pool I ε α W T → Prop where
  | here : Run S s [] s
  | next {trace : List (T × W × W)} {m : Pool I ε α W T} {t : T} {c : I.Cmd}
      {k : I.Answer c → Prog I ε α} {r : I.Answer c} {w : W} (run : Run S s trace m)
      (asks : m.programs t = .call c k) (answered : S m.world c r w) :
      Run S s (trace ++ [(t, m.world, w)]) ⟨Function.update m.programs t (k r), w⟩

/-- The steps a thread took. -/
def own (t : T) (trace : List (T × W × W)) : Steps W :=
  (trace.filter fun step => step.1 = t).map Prod.snd

theorem own_append (t : T) (trace more : List (T × W × W)) :
    own t (trace ++ more) = own t trace ++ own t more := by
  simp [own]

@[simp] theorem own_self (t : T) (w w' : W) : own t [(t, w, w')] = [(w, w')] := by
  simp [own]

theorem own_other {t u : T} (ne : u ≠ t) (w w' : W) : own t [(u, w, w')] = [] := by
  simp [own, ne]

end Runs

/-! ### The triple of one thread -/

section Secure

variable {I : Interface} {ε α β W : Type}

/-- What one thread may count on of the others, and what it promises them. -/
structure Terms (I : Interface) (W : Type) where
  service : Service I W
  rely : W → W → Prop
  guarantee : W → W → Prop
  refl : ∀ w, rely w w
  trans : ∀ {u v w}, rely u v → rely v w → rely u w

variable (C : Terms I W)

def Secure : Steps W → W → Prog I ε α → (Steps W → W → Except ε α → Prop) → Prop
  | own, w, .ret a, post => ∀ w', C.rely w w' → post own w' (.ok a)
  | own, w, .raise e, post => ∀ w', C.rely w w' → post own w' (.error e)
  | own, w, .call c k, post => ∀ w' r w'', C.rely w w' → C.service w' c r w'' →
      C.guarantee w' w'' ∧ Secure (own ++ [(w', w'')]) w'' (k r) post

variable {C} {own : Steps W} {w : W} {p : Prog I ε α} {post : Steps W → W → Except ε α → Prop}

/-- What the others do leaves a thread secure. -/
theorem Secure.later {w' : W} (moved : C.rely w w') (h : Secure C own w p post) :
    Secure C own w' p post := by
  cases p with
  | ret a | raise e => exact fun w'' more => h w'' (C.trans moved more)
  | call c k => exact fun u r v more answered => h u r v (C.trans moved more) answered

variable {x : Except ε α}

/-- Where a thread ends its postcondition holds. -/
theorem Secure.at_end (h : Secure C own w p post) (done : ended p = some x) : post own w x := by
  cases p with
  | ret a | raise e =>
    cases done
    exact h w (C.refl w)
  | call c k => cases done

theorem Secure.mono {post' : Steps W → W → Except ε α → Prop} (h : Secure C own w p post)
    (weaker : ∀ own w x, post own w x → post' own w x) : Secure C own w p post' := by
  induction p generalizing own w with
  | ret a | raise e => exact fun w' moved => weaker _ _ _ (h w' moved)
  | call c k ih =>
    intro w' r w'' moved answered
    obtain ⟨promised, onward⟩ := h w' r w'' moved answered
    exact ⟨promised, ih r onward⟩

variable {f : α → Prog I ε β}

variable {post : Steps W → W → Except ε β → Prop}

theorem secure_bind (h : Secure C own w p fun own' w' =>
      either (fun a => Secure C own' w' (f a) post) fun e => post own' w' (.error e)) :
    Secure C own w (p >>= f) post := by
  induction p generalizing own w with
  | ret a => exact h w (C.refl w)
  | raise e => exact h
  | call c k ih =>
    intro w' r w'' moved answered
    obtain ⟨promised, onward⟩ := h w' r w'' moved answered
    exact ⟨promised, ih r onward⟩

/-- A command that may be answered at any later time. -/
theorem secure_call_bind {c : I.Cmd} {answer : I.Answer c → Except ε α}
    (h : ∀ w' r w'', C.rely w w' → C.service w' c r w'' → C.guarantee w' w'' ∧
      either (fun a => Secure C (own ++ [(w', w'')]) w'' (f a) post)
        (fun e => ∀ v, C.rely w'' v → post (own ++ [(w', w'')]) v (.error e)) (answer r)) :
    Secure C own w (Prog.call c (fun r => lift (answer r)) >>= f) post := by
  intro w' r w'' moved answered
  obtain ⟨promised, onward⟩ := h w' r w'' moved answered
  refine ⟨promised, ?_⟩
  change Secure C _ w'' (lift (answer r) >>= f) post
  cases answered : answer r with
  | ok a | error e =>
    rw [answered] at onward
    exact onward

/-- The outcome of a computation is known, so what follows it is all that runs. -/
theorem secure_lift_bind (returned : ∀ a, x = .ok a → Secure C own w (f a) post)
    (raised : ∀ e, x = .error e → ∀ w', C.rely w w' → post own w' (.error e)) :
    Secure C own w (lift x >>= f) post := by
  cases x with
  | ok a => exact returned a rfl
  | error e => exact raised e rfl

theorem secure_raiseIf_bind {b : Bool} {e : ε} {f : Unit → Prog I ε β}
    (passed : b = false → Secure C own w (f ()) post)
    (raised : b = true → ∀ w', C.rely w w' → post own w' (.error e)) :
    Secure C own w (raiseIf b e >>= f) post := by
  cases b with
  | true => exact raised rfl
  | false => exact passed rfl

end Secure

/-! ### All threads together -/

section Together

variable {I : Interface} {ε α W T : Type} [DecidableEq T]
  {S : Service I W} {post : T → Steps W → W → Except ε α → Prop}

theorem secure_step {C : T → Terms I W} (serves : ∀ t, (C t).service = S)
    (agree : ∀ t u w w', t ≠ u → (C t).guarantee w w' → (C u).rely w w') {own : T → Steps W}
    {m : Pool I ε α W T} (secure : ∀ t, Secure (C t) (own t) m.world (m.programs t) (post t))
    {t : T} {c : I.Cmd} {k : I.Answer c → Prog I ε α} {r : I.Answer c} {w : W}
    (asks : m.programs t = .call c k) (answered : S m.world c r w) : (C t).guarantee m.world w ∧
      ∀ u, Secure (C u) (if t = u then own u ++ [(m.world, w)] else own u) w
        (Function.update m.programs t (k r) u) (post u) := by
  have mine := secure t
  rw [asks] at mine
  obtain ⟨promised, onward⟩ := mine m.world r w ((C t).refl _) (serves t ▸ answered)
  refine ⟨promised, fun u => ?_⟩
  by_cases same : t = u
  · subst same
    rw [if_pos rfl, Function.update_self]
    exact onward
  · rw [if_neg same, Function.update_of_ne (Ne.symm same)]
    exact (secure u).later (agree t u _ _ same promised)

theorem Run.secure {S : Service I W} {C : T → Terms I W} (serves : ∀ t, (C t).service = S)
    (agree : ∀ t u w w', t ≠ u → (C t).guarantee w w' → (C u).rely w w')
    {post : T → Steps W → W → Except ε α → Prop} {s s' : Pool I ε α W T}
    {trace : List (T × W × W)} (run : Run S s trace s') {before : T → Steps W}
    (start : ∀ t, Secure (C t) (before t) s.world (s.programs t) (post t)) :
    (∀ t, Secure (C t) (before t ++ own t trace) s'.world (s'.programs t) (post t)) ∧
      ∀ step ∈ trace, (C step.1).guarantee step.2.1 step.2.2 := by
  induction run with
  | here => exact ⟨by simpa [own] using start, by simp⟩
  | @next trace m t c k r w run asks answered ih =>
    obtain ⟨secure, promised⟩ := ih
    obtain ⟨promise, onward⟩ := secure_step serves agree secure asks answered
    refine ⟨fun u => ?_, ?_⟩
    · have there := onward u
      rw [own_append, ← List.append_assoc]
      by_cases same : t = u
      · subst same
        rwa [if_pos rfl, ← own_self t m.world w] at there
      · rw [own_other same, List.append_nil]
        rwa [if_neg same] at there
    · intro step mem
      rcases List.mem_append.mp mem with mem | mem
      · exact promised step mem
      · rw [List.mem_singleton.mp mem]
        exact promise

variable {s s' : Pool I ε α W T} {trace : List (T × W × W)}

theorem Run.secure_among {C D : Terms I W} (serves : C.service = S) (serves' : D.service = S)
    (agree : ∀ w w', C.guarantee w w' → C.rely w w')
    (heard : ∀ w w', C.guarantee w w' → D.rely w w') (said : ∀ w w', D.guarantee w w' → C.rely w w')
    {mine : Steps W → W → Except ε α → Prop} {u : T} (run : Run S s trace s') {before : T → Steps W}
    (others : ∀ t, t ≠ u → Secure C (before t) s.world (s.programs t) (post t))
    (this : Secure D [] s.world (s.programs u) mine) :
    Secure D (own u trace) s'.world (s'.programs u) mine ∧
      ∀ step ∈ own u trace, D.guarantee step.1 step.2 := by
  let terms (t : T) : Terms I W := if t = u then D else C
  have mineIs : terms u = D := if_pos rfl
  have othersIs {t : T} (ne : t ≠ u) : terms t = C := if_neg ne
  have start (t : T) : Secure (terms t) (if t = u then [] else before t) s.world (s.programs t)
      (if t = u then mine else post t) := by
    by_cases same : t = u
    · subst same
      rw [mineIs, if_pos rfl, if_pos rfl]
      exact this
    · rw [othersIs same, if_neg same, if_neg same]
      exact others t same
  have service (t : T) : (terms t).service = S := by
    by_cases same : t = u
    · rw [same, mineIs, serves']
    · rw [othersIs same, serves]
  have together (t v : T) (w w' : W) (ne : t ≠ v) (promised : (terms t).guarantee w w') :
      (terms v).rely w w' := by
    by_cases same : t = u
    · subst same
      rw [mineIs] at promised
      rw [othersIs ne.symm]
      exact said w w' promised
    · rw [othersIs same] at promised
      by_cases same' : v = u
      · rw [same', mineIs]
        exact heard w w' promised
      · rw [othersIs same']
        exact agree w w' promised
  obtain ⟨secure, promised⟩ := run.secure service together start
  constructor
  · have there := secure u
    rwa [mineIs, if_pos rfl, if_pos rfl, List.nil_append] at there
  · intro step mem
    simp only [own, List.mem_map, List.mem_filter, decide_eq_true_eq] at mem
    obtain ⟨⟨t, worlds⟩, ⟨mem, rfl⟩, rfl⟩ := mem
    have kept := promised _ mem
    rwa [mineIs] at kept

/-- A run that goes on from where another led. -/
theorem Run.append {S : Service I W} {s m s' : Pool I ε α W T} {trace more : List (T × W × W)}
    (first : Run S s trace m) (second : Run S m more s') : Run S s (trace ++ more) s' := by
  induction second with
  | here => rwa [List.append_nil]
  | next _ asks answered ih =>
    rw [← List.append_assoc]
    exact ih.next asks answered

/-- A thread is played to its end while the others wait. -/
def Pool.turn (answer : W → (c : I.Cmd) → I.Answer c × W) (s : Pool I ε α W T) (t : T) :
    Pool I ε α W T :=
  let played := play answer s.world (s.programs t)
  ⟨Function.update s.programs t (lift played.2), played.1⟩

variable {answer : W → (c : I.Cmd) → I.Answer c × W}

theorem exists_run_turn (allowed : ∀ w c, S w c (answer w c).1 (answer w c).2) (s : Pool I ε α W T)
    (t : T) : ∃ trace, Run S s trace (s.turn answer t) := by
  simp only [Pool.turn]
  generalize held : s.programs t = p
  induction p generalizing s with
  | ret a =>
    refine ⟨[], ?_⟩
    rw [show lift (play answer s.world (.ret a : Prog I ε α)).2 = s.programs t from held.symm,
      Function.update_eq_self]
    exact .here
  | raise e =>
    refine ⟨[], ?_⟩
    rw [show lift (play answer s.world (.raise e : Prog I ε α)).2 = s.programs t from held.symm,
      Function.update_eq_self]
    exact .here
  | call c k ih =>
    obtain ⟨trace, rest⟩ := ih (answer s.world c).1
      ⟨Function.update s.programs t (k (answer s.world c).1), (answer s.world c).2⟩
      (Function.update_self ..)
    simp only [Function.update_idem] at rest
    exact ⟨_, (Run.here.next held (allowed s.world c)).append rest⟩

theorem exists_run_turns (allowed : ∀ w c, S w c (answer w c).1 (answer w c).2) (s : Pool I ε α W T)
    (ts : List T) : ∃ trace, Run S s trace (ts.foldl (Pool.turn answer) s) := by
  induction ts generalizing s with
  | nil => exact ⟨[], .here⟩
  | cons t ts ih =>
    obtain ⟨first, run⟩ := exists_run_turn allowed s t
    obtain ⟨more, rest⟩ := ih (s.turn answer t)
    exact ⟨first ++ more, run.append rest⟩

theorem Run.throughout {inv : W → Prop} (run : Run S s trace s') (start : inv s.world)
    (steps : ∀ step ∈ trace, inv step.2.1 → inv step.2.2) :
    (∀ step ∈ trace, inv step.2.1) ∧ inv s'.world := by
  induction run with
  | here => exact ⟨nofun, start⟩
  | @next trace m t c k r w _ _ _ ih =>
    obtain ⟨before, there⟩ := ih fun step mem => steps step (List.mem_append_left _ mem)
    have last : (t, m.world, w) ∈ trace ++ [(t, m.world, w)] := by simp
    refine ⟨fun step mem => ?_, steps _ last there⟩
    rcases List.mem_append.mp mem with mem | mem
    · exact before step mem
    · rw [List.mem_singleton.mp mem]
      exact there

end Together

end Unchain.Lib.Threads
