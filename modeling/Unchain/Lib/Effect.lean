import Mathlib.Data.List.Forall2

/-!
Stateful computations that may raise, with the state surviving the raise.

The computations are those of `EStateM`. Two kinds of rules are provided: the
inversion of a sequence by its outcome (`bind_eq_ok`, `bind_eq_error`), and a
frame judgment `Within R m`, saying that a run of `m` ends in a state related to
the one it started in, whether it returned or raised. For a reflexive and
transitive `R` the judgment composes along the program text.
-/

namespace Unchain.Lib.Effect

variable {ε σ α β : Type}

/-- The state in which a run ends, returned or raised. -/
def endState : EStateM.Result ε σ α → σ
  | .ok _ s => s
  | .error _ s => s

@[simp] theorem endState_ok (a : α) (s : σ) : endState (.ok a s : EStateM.Result ε σ α) = s := rfl

@[simp] theorem endState_error (e : ε) (s : σ) :
    endState (.error e s : EStateM.Result ε σ α) = s := rfl

/-- Run a computation that touches no state. -/
def lift : Except ε α → EStateM ε σ α
  | .ok a => pure a
  | .error e => throw e

/-- A loop for its effects. -/
def each (body : α → EStateM ε σ Unit) : List α → EStateM ε σ Unit
  | [] => pure ()
  | x :: xs => do
    body x
    each body xs

variable {b : β} {x : Except ε α}

theorem map_ok {f : α → β} (h : x.map f = .ok b) : ∃ a, x = .ok a ∧ f a = b := by
  cases x with
  | error e => simp [Except.map] at h
  | ok a => exact ⟨a, rfl, by simpa [Except.map] using h⟩

variable {a : α}

theorem except_mapError_ok {f : ε → ε} (h : x.mapError f = .ok a) : x = .ok a := by
  cases x with
  | error e => simp [Except.mapError] at h
  | ok b => exact congrArg Except.ok (by simpa [Except.mapError] using h)

theorem bind_ok {f : α → Except ε β} (h : x >>= f = .ok b) : ∃ a, x = .ok a ∧ f a = .ok b := by
  cases x with
  | error e => simp [bind, Except.bind] at h
  | ok a => exact ⟨a, rfl, h⟩

/-- `if c: raise e`. -/
def raiseIf (c : Bool) (e : ε) : Except ε Unit := if c then .error e else .ok ()

variable {e : ε}

@[simp] theorem raiseIf_ok {c : Bool} {u : Unit} : raiseIf c e = .ok u ↔ c = false := by
  cases c <;> simp [raiseIf]

/-- What is behind a guard that let the run pass. -/
theorem raiseIf_bind_ok {c : Bool} {f : Unit → Except ε β} (h : (raiseIf c e >>= f) = .ok b) :
    c = false ∧ f () = .ok b := by
  obtain ⟨u, passed, h⟩ := bind_ok h
  exact ⟨raiseIf_ok.mp passed, h⟩

theorem bind_iff {f : α → Except ε β} : x >>= f = .ok b ↔ ∃ a, x = .ok a ∧ f a = .ok b :=
  ⟨bind_ok, fun ⟨_, ran, h⟩ => ran ▸ h⟩

theorem pure_iff {b : α} : (pure a : Except ε α) = .ok b ↔ a = b :=
  ⟨Except.ok.inj, congrArg Except.ok⟩

/-! ### Outcomes of the primitives -/

@[simp] theorem pure_run (a : α) (s : σ) : (pure a : EStateM ε σ α) s = .ok a s := rfl

@[simp] theorem throw_run (e : ε) (s : σ) : (throw e : EStateM ε σ α) s = .error e s := rfl

@[simp] theorem get_run (s : σ) : (get : EStateM ε σ σ) s = .ok s s := rfl

@[simp] theorem modify_run (f : σ → σ) (s : σ) :
    (modify f : EStateM ε σ PUnit) s = .ok ⟨⟩ (f s) := rfl

@[simp] theorem lift_ok_run (a : α) (s : σ) : (lift (.ok a) : EStateM ε σ α) s = .ok a s := rfl

@[simp] theorem lift_error_run (e : ε) (s : σ) :
    (lift (.error e) : EStateM ε σ α) s = .error e s := rfl

theorem bind_run (m : EStateM ε σ α) (f : α → EStateM ε σ β) (s : σ) : (m >>= f) s = match m s with
      | .ok a s' => f a s'
      | .error e s' => .error e s' := rfl

variable {m : EStateM ε σ α} {s s' : σ}

theorem bind_of_ok (h : m s = .ok a s') (f : α → EStateM ε σ β) : (m >>= f) s = f a s' := by
  rw [bind_run, h]

theorem bind_of_error (h : m s = .error e s') (f : α → EStateM ε σ β) :
    (m >>= f) s = .error e s' := by
  rw [bind_run, h]

variable {s'' : σ} {f : α → EStateM ε σ β}

theorem bind_eq_ok :
    (m >>= f) s = .ok b s'' ↔ ∃ a s', m s = .ok a s' ∧ f a s' = .ok b s'' := by
  rw [bind_run]
  cases m s <;> simp [and_assoc]

theorem bind_eq_error : (m >>= f) s = .error e s'' ↔
      m s = .error e s'' ∨ ∃ a s', m s = .ok a s' ∧ f a s' = .error e s'' := by
  rw [bind_run]
  cases m s <;> simp [and_assoc]

/-- A lifted computation raises by itself and changes nothing, or what follows it raises. -/
theorem lift_bind_eq_error : (lift x >>= f) s = .error e s' ↔
      x = .error e ∧ s' = s ∨ ∃ a, x = .ok a ∧ f a s = .error e s' := by
  cases x with
  | error e' => simp [bind_run, eq_comm (a := s)]
  | ok a => simp [bind_run]

theorem lift_bind_eq_ok :
    (lift x >>= f) s = .ok b s' ↔ ∃ a, x = .ok a ∧ f a s = .ok b s' := by
  cases x with
  | error e' => simp [bind_run]
  | ok a => simp [bind_run]

/-! ### Frames -/

/-- Every run of `m` ends in a state related to the one it started in. -/
def Within (R : σ → σ → Prop) (m : EStateM ε σ α) : Prop := ∀ s, R s (endState (m s))

/-- The condition is kept by every run, returned or raised. -/
def Preserves (I : σ → Prop) (m : EStateM ε σ α) : Prop := Within (fun s s' => I s → I s') m

section Frames

variable {R : σ → σ → Prop}

theorem Within.mono {R' : σ → σ → Prop} {m : EStateM ε σ α} (h : Within R m)
    (weaker : ∀ s s', R s s' → R' s s') : Within R' m := fun s => weaker _ _ (h s)

theorem within_pure (refl : ∀ s, R s s) (a : α) : Within R (pure a : EStateM ε σ α) := refl

theorem within_throw (refl : ∀ s, R s s) (e : ε) : Within R (throw e : EStateM ε σ α) := refl

theorem within_lift (refl : ∀ s, R s s) (x : Except ε α) : Within R (lift x : EStateM ε σ α) := by
  cases x with
  | ok a => exact refl
  | error e => exact refl

theorem within_get (refl : ∀ s, R s s) : Within R (get : EStateM ε σ σ) := refl

theorem within_modify {f : σ → σ} (h : ∀ s, R s (f s)) :
    Within R (modify f : EStateM ε σ PUnit) := h

theorem Within.bind (trans : ∀ s t u, R s t → R t u → R s u) {m : EStateM ε σ α}
    (first : Within R m) (next : ∀ a, Within R (f a)) : Within R (m >>= f) := by
  intro s
  have start := first s
  rw [bind_run]
  cases outcome : m s with
  | ok a s' =>
    rw [outcome] at start
    exact trans _ _ _ start (next a s')
  | error e s' =>
    rw [outcome] at start
    exact start

theorem within_each (refl : ∀ s, R s s) (trans : ∀ s t u, R s t → R t u → R s u)
    {body : α → EStateM ε σ Unit} (xs : List α) (h : ∀ x ∈ xs, Within R (body x)) :
    Within R (each body xs) := by
  induction xs with
  | nil => exact within_pure refl ()
  | cons x xs ih =>
    exact (h x (by simp)).bind trans fun _ => ih fun y hy => h y (by simp [hy])

/-- Where an exception leaves the state. -/
def Raises (R : σ → σ → Prop) (m : EStateM ε σ α) : Prop := ∀ s e s', m s = .error e s' → R s s'

theorem Within.raises {m : EStateM ε σ α} (h : Within R m) : Raises R m := by
  intro s e s' raised
  have ended := h s
  rw [raised] at ended
  exact ended

theorem raises_bind (trans : ∀ s t u, R s t → R t u → R s u) {m : EStateM ε σ α}
    (first : Within R m) (next : ∀ a, Raises R (f a)) : Raises R (m >>= f) := by
  intro s e s' outcome
  rcases bind_eq_error.mp outcome with raised | ⟨a, t, ran, rest⟩
  · exact first.raises s e s' raised
  · have start := first s
    rw [ran] at start
    exact trans _ _ _ start (next a t e s' rest)

/-- What follows cannot raise. -/
theorem raises_last {m : EStateM ε σ α} (first : Raises R m)
    (total : ∀ a s, ∃ b t, f a s = .ok b t) : Raises R (m >>= f) := by
  intro s e s' outcome
  rcases bind_eq_error.mp outcome with raised | ⟨a, t, -, rest⟩
  · exact first s e s' raised
  · obtain ⟨b, u, ran⟩ := total a t
    rw [ran] at rest
    cases rest

end Frames

section Invariants

variable {I : σ → Prop}

theorem preserves_pure (a : α) : Preserves I (pure a : EStateM ε σ α) := fun _ h => h

theorem preserves_throw (e : ε) : Preserves I (throw e : EStateM ε σ α) := fun _ h => h

theorem Preserves.bind {m : EStateM ε σ α} (first : Preserves I m) (next : ∀ a, Preserves I (f a)) :
    Preserves I (m >>= f) :=
  Within.bind (fun _ _ _ h h' i => h' (h i)) first next

/-- What follows a lifted computation may use that it returned. -/
theorem preserves_lift_bind {x : Except ε α} (next : ∀ a, x = .ok a → Preserves I (f a)) :
    Preserves I (lift x >>= f) := by
  cases x with
  | ok a => exact next a rfl
  | error e => exact fun _ h => h

theorem preserves_each {body : α → EStateM ε σ Unit} (xs : List α)
    (h : ∀ x ∈ xs, Preserves I (body x)) : Preserves I (each body xs) :=
  within_each (fun _ h => h) (fun _ _ _ h h' i => h' (h i)) xs h

end Invariants

/-- A lifted computation followed by one that cannot raise: the raise comes before
every write. -/
theorem lift_bind_error (total : ∀ a, x = .ok a → ∃ b t, f a s = .ok b t)
    (h : (lift x >>= f) s = .error e s') : s' = s := by
  cases x with
  | error e' =>
    cases h
    rfl
  | ok a =>
    obtain ⟨b, t, ran⟩ := total a rfl
    rw [bind_of_ok (lift_ok_run a s), ran] at h
    cases h

variable {xs : List α}

/-- A loop that raises has finished the iterations before the one that raised. -/
theorem each_eq_error {body : α → EStateM ε σ Unit} : each body xs s = .error e s' ↔
      ∃ before x after mid, xs = before ++ x :: after ∧
        each body before s = .ok () mid ∧ body x mid = .error e s' := by
  induction xs generalizing s with
  | nil => simp [each]
  | cons x xs ih =>
    rw [each, bind_eq_error]
    constructor
    · rintro (here | ⟨_, mid, first, rest⟩)
      · exact ⟨[], x, xs, s, rfl, rfl, here⟩
      · obtain ⟨before, y, after, mid', rfl, ran, raised⟩ := ih.mp rest
        exact ⟨x :: before, y, after, mid', rfl, bind_eq_ok.mpr ⟨(), mid, first, ran⟩, raised⟩
    · rintro ⟨before, y, after, mid, split, ran, raised⟩
      cases before with
      | nil =>
        obtain ⟨rfl, rfl⟩ := split
        cases ran
        exact .inl raised
      | cons z before =>
        obtain ⟨rfl, rfl⟩ := split
        obtain ⟨_, first, here, ran⟩ := bind_eq_ok.mp ran
        exact .inr ⟨(), first, here, ih.mpr ⟨before, y, after, mid, rfl, ran, raised⟩⟩

/-! ### Comprehensions whose body may raise -/

/-- The results that `f` keeps, in order; the first exception ends the loop. -/
def collect (f : α → Except ε (Option β)) : List α → Except ε (List β)
  | [] => .ok []
  | x :: xs => do
    let kept ← f x
    let rest ← collect f xs
    return kept.toList ++ rest

theorem collect_ok {f : α → Except ε (Option β)} {g : α → Option β}
    (h : ∀ x ∈ xs, f x = .ok (g x)) : collect f xs = .ok (xs.filterMap g) := by
  induction xs with
  | nil => rfl
  | cons x xs ih =>
    rw [collect, h x (by simp), ih fun x mem => h x (by simp [mem])]
    cases image : g x with
    | none => simp [List.filterMap_cons_none image]; rfl
    | some y => simp [List.filterMap_cons_some image]; rfl

variable {ys : List β}

theorem mem_of_collect {f : α → Except ε (Option β)} {y : β} (h : collect f xs = .ok ys)
    (mem : y ∈ ys) : ∃ x ∈ xs, f x = .ok (some y) := by
  induction xs generalizing ys with
  | nil =>
    cases h
    cases mem
  | cons x xs ih =>
    simp only [collect, bind_iff, pure_iff] at h
    obtain ⟨kept, here, rest, there, rfl⟩ := h
    rcases List.mem_append.mp mem with mem | mem
    · exact ⟨x, by simp, by rw [here, Option.mem_toList.mp mem]⟩
    · obtain ⟨x', mem', ran⟩ := ih there mem
      exact ⟨x', by simp [mem'], ran⟩

theorem collect_error {f : α → Except ε (Option β)} {x : α} (mem : x ∈ xs)
    (raises : f x = .error e) : ∃ e', collect f xs = .error e' := by
  induction xs with
  | nil => cases mem
  | cons y xs ih =>
    rw [collect]
    cases first : f y with
    | error e' => exact ⟨e', rfl⟩
    | ok kept =>
      rcases List.mem_cons.mp mem with rfl | mem
      · rw [raises] at first
        cases first
      · obtain ⟨e', rest⟩ := ih mem
        exact ⟨e', by rw [rest]; rfl⟩

variable {step : β → α → Except ε β}

theorem foldlM_ok {P : β → Prop} {c : β} (keeps : ∀ x ∈ xs, ∀ b c, step b x = .ok c → P b → P c)
    (ran : xs.foldlM step b = .ok c) (start : P b) : P c := by
  induction xs generalizing b with
  | nil =>
    cases ran
    exact start
  | cons x xs ih =>
    rw [List.foldlM_cons] at ran
    cases first : step b x with
    | error e =>
      rw [first] at ran
      cases ran
    | ok b' =>
      rw [first] at ran
      exact ih (fun x mem => keeps x (by simp [mem])) ran (keeps x (by simp) b b' first start)

/-- A loop whose rounds all return is the loop over what they return. -/
theorem foldlM_total {next : β → α → β} (total : ∀ x ∈ xs, ∀ b, step b x = .ok (next b x)) (b : β) :
    xs.foldlM step b = .ok (xs.foldl next b) := by
  induction xs generalizing b with
  | nil => rfl
  | cons x xs ih =>
    rw [List.foldlM_cons, total x (by simp), List.foldl_cons]
    exact ih (fun x mem => total x (by simp [mem])) _

/-! ### Comprehensions that need every item -/

/-- A comprehension that undoes a function reads back what it was applied to. -/
theorem mapM_map_ok {f : β → Except ε α} {g : α → β} (back : ∀ x ∈ xs, f (g x) = .ok x) :
    (xs.map g).mapM f = .ok xs := by
  induction xs with
  | nil => rfl
  | cons x xs ih =>
    rw [List.map_cons, List.mapM_cons, back x (by simp), ih fun x mem => back x (by simp [mem])]
    rfl

/-- The outcome of a comprehension, item by item. -/
theorem mapM_iff {f : α → Except ε β} :
    xs.mapM f = .ok ys ↔ List.Forall₂ (fun x y => f x = .ok y) xs ys := by
  induction xs generalizing ys with
  | nil => simp [pure, Except.pure, eq_comm]
  | cons x xs ih =>
    simp only [List.mapM_cons, bind_iff, pure_iff, List.forall₂_cons_left_iff]
    constructor
    · rintro ⟨y, first, rest, others, rfl⟩
      exact ⟨y, rest, first, ih.mp others, rfl⟩
    · rintro ⟨y, rest, first, others, rfl⟩
      exact ⟨y, first, rest, ih.mpr others, rfl⟩

section Pairs

variable {R : α → β → Prop}

theorem exists_left_of_forall₂ (h : List.Forall₂ R xs ys) : ∀ y ∈ ys, ∃ x ∈ xs, R x y := by
  induction h with
  | nil => simp
  | cons first _ ih =>
    simp only [List.mem_cons, forall_eq_or_imp, exists_eq_or_imp]
    exact ⟨.inl first, fun y mem => .inr (ih y mem)⟩

theorem eq_map_of_forall₂ {g : β → α} (given : ∀ x y, R x y → x = g y)
    (h : List.Forall₂ R xs ys) : xs = ys.map g := by
  induction h with
  | nil => rfl
  | cons first _ ih => rw [List.map_cons, ← given _ _ first, ← ih]

end Pairs

/-- Every item of the outcome comes from an item of the list. -/
theorem mem_of_mapM {f : α → Except ε β} (h : xs.mapM f = .ok ys) :
    ∀ y ∈ ys, ∃ x ∈ xs, f x = .ok y :=
  exists_left_of_forall₂ (mapM_iff.mp h)

/-- Every item of the list has come out. -/
theorem ran_of_mapM {f : α → Except ε β} (h : xs.mapM f = .ok ys) :
    ∀ x ∈ xs, ∃ y ∈ ys, f x = .ok y :=
  exists_left_of_forall₂ (mapM_iff.mp h).flip

/-- Different items have different outcomes if `f` tells the items apart. -/
theorem nodup_of_mapM {f : α → Except ε β} (h : xs.mapM f = .ok ys)
    (told : ∀ x ∈ xs, ∀ x' ∈ xs, ∀ y, f x = .ok y → f x' = .ok y → x = x') (nodup : xs.Nodup) :
    ys.Nodup := by
  induction mapM_iff.mp h with
  | nil => exact List.nodup_nil
  | @cons x y xs ys first rest ih =>
    obtain ⟨absent, nodup⟩ := List.nodup_cons.mp nodup
    refine List.nodup_cons.mpr ⟨fun mem => ?_, ?_⟩
    · obtain ⟨x', mem', same⟩ := mem_of_mapM (mapM_iff.mpr rest) y mem
      obtain rfl := told x (by simp) x' (by simp [mem']) y first same
      exact absent mem'
    · refine ih (mapM_iff.mpr rest) (fun a memA b memB => ?_) nodup
      exact told a (List.mem_cons_of_mem _ memA) b (List.mem_cons_of_mem _ memB)

theorem length_of_mapM {f : α → Except ε β} (h : xs.mapM f = .ok ys) : ys.length = xs.length :=
  (mapM_iff.mp h).length_eq.symm

/-- A comprehension that reads every item as it is was given what it returns. -/
theorem mapM_given {f : α → Except ε β} {g : β → α} (given : ∀ x y, f x = .ok y → x = g y)
    (h : xs.mapM f = .ok ys) : xs = ys.map g :=
  eq_map_of_forall₂ given (mapM_iff.mp h)

/-- The outcome of a comprehension that may find nothing, item by item. -/
theorem mapM_some_iff {f : α → Option β} :
    xs.mapM f = some ys ↔ List.Forall₂ (fun x y => f x = some y) xs ys := by
  induction xs generalizing ys with
  | nil => simp [eq_comm]
  | cons x xs ih =>
    simp only [List.mapM_cons, Option.bind_eq_bind, Option.bind_eq_some_iff, Option.pure_def,
      Option.some.injEq, List.forall₂_cons_left_iff, ih]
    grind

theorem mem_of_mapM_some {f : α → Option β} (h : xs.mapM f = some ys) :
    ∀ y ∈ ys, ∃ x ∈ xs, f x = some y :=
  exists_left_of_forall₂ (mapM_some_iff.mp h)

/-- A comprehension that reads its own outcome as it is reads it again. -/
theorem mapM_some_again {f : α → Option β} {g : β → α}
    (again : ∀ x y, f x = some y → f (g y) = some y) (h : xs.mapM f = some ys) :
    (ys.map g).mapM f = some ys ∧ ys.length = xs.length := by
  have pairs := mapM_some_iff.mp h
  refine ⟨mapM_some_iff.mpr ?_, pairs.length_eq.symm⟩
  rw [List.forall₂_map_left_iff, List.forall₂_same]
  intro y mem
  obtain ⟨x, -, first⟩ := mem_of_mapM_some h y mem
  exact again x y first

/-- A comprehension that reads every item as it is was given what it returns. -/
theorem mapM_some_given {f : α → Option β} {g : β → α} (given : ∀ x y, f x = some y → x = g y)
    (h : xs.mapM f = some ys) : xs = ys.map g :=
  eq_map_of_forall₂ given (mapM_some_iff.mp h)

end Unchain.Lib.Effect
