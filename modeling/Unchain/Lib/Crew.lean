import Unchain.Lib.Process

/-!
Crews: pools of programs that run in different roles.

A role says who a program is, so the world can answer it by its role and by the roles that are
alive. A program that returns, raises or is killed leaves the crew, and its role with it if it
was the last one in it.

A `Watch` follows the commands of each program by its role. `monitored` is the rule for
invariants over the crew: if every program obeys its watch, a property of the watch states and
the world that every kind of step keeps holds in every reachable crew.
-/

namespace Unchain.Lib.Crew

open Process

/-- The world around a crew. -/
structure Surroundings (I : Interface) (ε α L W : Type) where
  answers : (alive : List L) → (role : L) → W → (c : I.Cmd) → I.Answer c → W → Prop
  moves : W → W → Prop
  starts : L → Prog I ε α → Prop

structure Crew (I : Interface) (ε α L W : Type) where
  members : List (L × Prog I ε α)
  world : W

inductive Step {I : Interface} {ε α L W : Type} (S : Surroundings I ε α L W) :
    Crew I ε α L W → Crew I ε α L W → Prop where
  | start {xs : List (L × Prog I ε α)} {w : W} {role : L} {p : Prog I ε α}
      (h : S.starts role p) : Step S ⟨xs, w⟩ ⟨(role, p) :: xs, w⟩
  | answer {xs ys : List (L × Prog I ε α)} {w w' : W} {role : L} {c : I.Cmd}
      {k : I.Answer c → Prog I ε α} {r : I.Answer c}
      (h : S.answers ((xs ++ (role, .call c k) :: ys).map Prod.fst) role w c r w') :
      Step S ⟨xs ++ (role, .call c k) :: ys, w⟩ ⟨xs ++ (role, k r) :: ys, w'⟩
  | leave {xs ys : List (L × Prog I ε α)} {w : W} {x : L × Prog I ε α} :
      Step S ⟨xs ++ x :: ys, w⟩ ⟨xs ++ ys, w⟩
  | move {xs : List (L × Prog I ε α)} {w w' : W} (h : S.moves w w') : Step S ⟨xs, w⟩ ⟨xs, w'⟩

/-- The crews some run leads to from an initial world with nobody in it. -/
inductive Reachable {I : Interface} {ε α L W : Type} (S : Surroundings I ε α L W)
    (init : W → Prop) : Crew I ε α L W → Prop where
  | init {w : W} (h : init w) : Reachable S init ⟨[], w⟩
  | step {s s' : Crew I ε α L W} (h : Reachable S init s) (next : Step S s s') :
      Reachable S init s'

/-- The only member of a crew may be answered. -/
theorem Reachable.answered {I : Interface} {ε α L W : Type} {S : Surroundings I ε α L W}
    {init : W → Prop} {role : L} {c : I.Cmd} {k : I.Answer c → Prog I ε α} {w w' : W}
    {r : I.Answer c} (h : Reachable S init ⟨[(role, .call c k)], w⟩)
    (answers : S.answers [role] role w c r w') : Reachable S init ⟨[(role, k r)], w'⟩ := by
  have next : Step S ⟨[] ++ (role, .call c k) :: [], w⟩ ⟨[] ++ (role, k r) :: [], w'⟩ :=
    .answer answers
  exact h.step next

/-- A monitor for every role. -/
structure Watch (I : Interface) (L : Type) where
  State : Type
  start : State
  allows : L → State → I.Cmd → Prop
  next : L → State → (c : I.Cmd) → I.Answer c → State

def Watch.of {I : Interface} {L : Type} (M : Watch I L) (role : L) : Monitor I where
  State := M.State
  allows := M.allows role
  next := M.next role

section Monitored

variable {I : Interface} {ε α L W : Type} {S : Surroundings I ε α L W} {M : Watch I L}

/-- What each kind of step keeps of a property of the watch states and the world. -/
structure Kept (S : Surroundings I ε α L W) (M : Watch I L)
    (J : List (L × M.State) → W → Prop) : Prop where
  start : ∀ {xs w role p}, J xs w → S.starts role p → J ((role, M.start) :: xs) w
  answer : ∀ {xs ys role g w c r w'}, J (xs ++ (role, g) :: ys) w → M.allows role g c →
    S.answers ((xs ++ (role, g) :: ys).map Prod.fst) role w c r w' →
    J (xs ++ (role, M.next role g c r) :: ys) w'
  leave : ∀ {xs x ys w}, J (xs ++ x :: ys) w → J (xs ++ ys) w
  move : ∀ {xs w w'}, J xs w → S.moves w w' → J xs w'

/-- The crew with the watch state of each member, which ends in what `post` says of its role. -/
structure Watched (M : Watch I L) (post : L → M.State → α → Prop)
    (J : List (L × M.State) → W → Prop) (s : Crew I ε α L W)
    (held : List (L × M.State × Prog I ε α)) : Prop where
  members_eq : held.map (fun x => (x.1, x.2.2)) = s.members
  obeys : ∀ x ∈ held, Obeys (M.of x.1) x.2.1 x.2.2 (post x.1)
  property : J (held.map fun x => (x.1, x.2.1)) s.world

variable {J : List (L × M.State) → W → Prop} {held : List (L × M.State × Prog I ε α)}
  {post : L → M.State → α → Prop} {s : Crew I ε α L W}

theorem watched_step (kept : Kept S M J)
    (entry : ∀ role p, S.starts role p → Obeys (M.of role) M.start p (post role))
    {s' : Crew I ε α L W} (next : Step S s s') (h : Watched M post J s held) :
    ∃ held', Watched M post J s' held' := by
  cases next with
  | @start xs w role p starts =>
    refine ⟨(role, M.start, p) :: held, by simp [h.members_eq], ?_, ?_⟩
    · rintro x (_ | ⟨_, mem⟩)
      · exact entry role p starts
      · exact h.obeys x mem
    · exact kept.start h.property starts
  | move moves => exact ⟨held, h.members_eq, h.obeys, kept.move h.property moves⟩
  | @leave xs ys w x =>
    obtain ⟨before, rest, rfl, hxs, hrest⟩ := List.map_eq_append_iff.mp h.members_eq
    obtain ⟨y, after, rfl, hy, hys⟩ := List.map_eq_cons_iff.mp hrest
    have property := h.property
    simp only [List.map_append, List.map_cons] at property
    refine ⟨before ++ after, by simp [hxs, hys], ?_, ?_⟩
    · intro z mem
      apply h.obeys z
      simp only [List.mem_append, List.mem_cons] at mem ⊢
      tauto
    · simp only [List.map_append]
      exact kept.leave property
  | @answer xs ys w w' role c k r answers =>
    obtain ⟨before, rest, rfl, hxs, hrest⟩ := List.map_eq_append_iff.mp h.members_eq
    obtain ⟨⟨role', g, p⟩, after, rfl, hy, hys⟩ := List.map_eq_cons_iff.mp hrest
    obtain ⟨rfl, rfl⟩ : role' = role ∧ p = .call c k := by simpa using hy
    have obeys : Obeys (M.of role') g (.call c k) (post role') :=
      h.obeys (role', g, .call c k) (by simp)
    obtain ⟨allowed, onward⟩ := obeys
    have property := h.property
    simp only [List.map_append, List.map_cons] at property
    have alive : (xs ++ (role', Prog.call c k) :: ys).map Prod.fst
        = ((before.map fun x => (x.1, x.2.1)) ++ (role', g) ::
            after.map fun x => (x.1, x.2.1)).map Prod.fst := by
      rw [← hxs, ← hys]
      simp [Function.comp_def]
    rw [alive] at answers
    refine ⟨before ++ (role', M.next role' g c r, k r) :: after, by simp [hxs, hys], ?_, ?_⟩
    · intro z mem
      simp only [List.mem_append, List.mem_cons] at mem
      rcases mem with mem | rfl | mem
      · exact h.obeys z (by simp [mem])
      · exact onward r
      · exact h.obeys z (by simp [mem])
    · simp only [List.map_append, List.map_cons]
      exact kept.answer property allowed answers

variable {init : W → Prop}

/-- A property that every kind of step keeps holds, with some watch states, in every crew that
can be reached from a world in which it holds of nobody. -/
theorem watched_of_reachable (kept : Kept S M J)
    (entry : ∀ role p, S.starts role p → Obeys (M.of role) M.start p (post role))
    (initial : ∀ w, init w → J [] w) (h : Reachable S init s) :
    ∃ held, Watched M post J s held := by
  induction h with
  | init hw => exact ⟨[], rfl, by simp, initial _ hw⟩
  | step _ next ih =>
    obtain ⟨held, watched⟩ := ih
    exact watched_step kept entry next watched

theorem monitored (kept : Kept S M J)
    (entry : ∀ role p, S.starts role p → Obeys (M.of role) M.start p fun _ _ => True)
    (initial : ∀ w, init w → J [] w) (h : Reachable S init s) : ∃ states, J states s.world := by
  obtain ⟨held, watched⟩ := watched_of_reachable kept entry initial h
  exact ⟨_, watched.property⟩

/-- A member that returned ended in what `post` says of its role and its watch state. -/
theorem Watched.returned (h : Watched M post J s held) {role : L} {a : α}
    (mem : (role, Prog.ret a) ∈ s.members) :
    ∃ g, (role, g) ∈ held.map (fun x => (x.1, x.2.1)) ∧ post role g a := by
  rw [← h.members_eq] at mem
  obtain ⟨⟨role', g, p⟩, here, same⟩ := List.mem_map.mp mem
  obtain ⟨rfl, rfl⟩ : role' = role ∧ p = .ret a := by simpa using same
  exact ⟨g, List.mem_map.mpr ⟨_, here, rfl⟩, h.obeys _ here⟩

end Monitored

end Unchain.Lib.Crew
