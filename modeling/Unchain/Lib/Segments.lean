import Mathlib.Data.List.Basic

/-!
Cutting a list in front of its marked elements.

`segments marks xs` is the loop that collects elements and closes the current
segment when a marked element arrives. Dropping whole segments from the front
drops a prefix of the list that ends in front of a marked element
(`drop_segments`), and every such prefix can be dropped (`segments_cut`).
-/

namespace Unchain.Lib

variable {α : Type}

variable (marks : α → Bool)

/-- One round of the loop: the closed segments and the current one. -/
def segmentStep (acc : List (List α) × List α) (x : α) : List (List α) × List α :=
  if marks x && !acc.2.isEmpty then (acc.1 ++ [acc.2], [x]) else (acc.1, acc.2 ++ [x])

def segments (xs : List α) : List (List α) :=
  let acc := xs.foldl (segmentStep marks) ([], [])
  if acc.2.isEmpty then acc.1 else acc.1 ++ [acc.2]

/-- The segments still to come, with `current` collected. -/
def segmentsFrom (marks : α → Bool) (current : List α) : List α → List (List α)
  | [] => if current.isEmpty then [] else [current]
  | x :: xs =>
    if marks x && !current.isEmpty then current :: segmentsFrom marks [x] xs
    else segmentsFrom marks (current ++ [x]) xs

theorem segments_eq (xs : List α) : segments marks xs = segmentsFrom marks [] xs := by
  have loop : ∀ (xs : List α) (closed : List (List α)) (current : List α),
      let acc := xs.foldl (segmentStep marks) (closed, current)
      (if acc.2.isEmpty then acc.1 else acc.1 ++ [acc.2])
        = closed ++ segmentsFrom marks current xs := by
    intro xs
    induction xs with
    | nil =>
      intro closed current
      by_cases empty : current.isEmpty <;> simp [segmentsFrom, empty]
    | cons x xs ih =>
      intro closed current
      by_cases cut : (marks x && !current.isEmpty) = true
      · simpa [segmentStep, segmentsFrom, cut] using ih (closed ++ [current]) [x]
      · simpa [segmentStep, segmentsFrom, cut] using ih closed (current ++ [x])
  simpa [segments] using loop xs [] []

theorem flatten_segmentsFrom (current xs : List α) :
    (segmentsFrom marks current xs).flatten = current ++ xs := by
  induction xs generalizing current with
  | nil =>
    by_cases empty : current = []
    · simp [segmentsFrom, empty]
    · simp [segmentsFrom, empty]
  | cons x xs ih =>
    rw [segmentsFrom]
    split
    · simp [ih]
    · simp [ih]

/-- A place where `segments` can cut: an end of the list or a marked element. -/
def IsCut (xs : List α) (c : Nat) : Prop :=
  c = 0 ∨ c = xs.length ∨ ∃ x, xs[c]? = some x ∧ marks x = true

variable {c : Nat} {xs : List α}

theorem IsCut.append_left {marks : α → Bool} {x : α} {current : List α}
    (h : IsCut marks (x :: xs) c) (marked : marks x = true) :
    IsCut marks (current ++ x :: xs) (current.length + c) := by
  rcases h with rfl | rfl | ⟨y, at_c, isMarked⟩
  · exact .inr (.inr ⟨x, by simp, marked⟩)
  · exact .inr (.inl (by simp))
  · refine .inr (.inr ⟨y, ?_, isMarked⟩)
    rw [List.getElem?_append_right (by omega), Nat.add_sub_cancel_left]
    exact at_c

theorem drop_segmentsFrom (current xs : List α) (k : Nat) :
    ∃ c ≤ (current ++ xs).length, IsCut marks (current ++ xs) c ∧
      ((segmentsFrom marks current xs).drop k).flatten = (current ++ xs).drop c := by
  induction xs generalizing current k with
  | nil =>
    cases k with
    | zero => exact ⟨0, by simp, .inl rfl, by rw [List.drop_zero, flatten_segmentsFrom]; simp⟩
    | succ k =>
      refine ⟨(current ++ []).length, Nat.le_refl _, .inr (.inl rfl), ?_⟩
      by_cases empty : current.isEmpty = true <;> simp [segmentsFrom, empty]
  | cons x xs ih =>
    by_cases cut : (marks x && !current.isEmpty) = true
    · have marked : marks x = true := by
        rw [Bool.and_eq_true] at cut
        exact cut.1
      cases k with
      | zero =>
        exact ⟨0, by simp, .inl rfl, by rw [List.drop_zero, flatten_segmentsFrom, List.drop_zero]⟩
      | succ k =>
        obtain ⟨c, bound, isCut, rest⟩ := ih [x] k
        refine ⟨current.length + c, by simpa using bound, isCut.append_left marked, ?_⟩
        rw [segmentsFrom, if_pos cut, List.drop_succ_cons, rest]
        simp [List.drop_append]
    · obtain ⟨c, bound, isCut, rest⟩ := ih (current ++ [x]) k
      rw [segmentsFrom, if_neg cut]
      rw [List.append_assoc, List.singleton_append] at bound isCut rest
      exact ⟨c, bound, isCut, rest⟩

theorem drop_segments (xs : List α) (k : Nat) :
    ∃ c ≤ xs.length, IsCut marks xs c ∧ ((segments marks xs).drop k).flatten = xs.drop c := by
  rw [segments_eq]
  exact drop_segmentsFrom marks [] xs k

theorem segmentsFrom_cut {current xs : List α} {c : Nat} {y : α}
    (at_c : (current ++ xs)[c]? = some y) (marked : marks y = true) (later : current.length ≤ c)
    (positive : 0 < c) :
    ∃ k, ((segmentsFrom marks current xs).drop k).flatten = (current ++ xs).drop c := by
  induction xs generalizing current c with
  | nil =>
    rw [List.append_nil, List.getElem?_eq_none later] at at_c
    cases at_c
  | cons x xs ih =>
    by_cases cut : (marks x && !current.isEmpty) = true
    · rw [segmentsFrom, if_pos cut]
      by_cases here : c = current.length
      · subst here
        exact ⟨1, by simp [flatten_segmentsFrom]⟩
      · obtain ⟨k, rest⟩ := @ih [x] (c - current.length)
          (by rwa [List.singleton_append, ← List.getElem?_append_right later])
          (by simp; omega) (by omega)
        refine ⟨k + 1, ?_⟩
        rw [List.drop_succ_cons, rest, List.singleton_append, List.drop_append,
          List.drop_eq_nil_of_le later, List.nil_append]
    · rw [segmentsFrom, if_neg cut]
      have split : current ++ x :: xs = current ++ [x] ++ xs := by simp
      rw [split] at at_c ⊢
      by_cases here : c = current.length
      · subst here
        -- the element at the cut is `x` itself, so the current segment would be closed
        have same : x = y := by simpa using at_c
        subst same
        have nonempty : current.isEmpty = false := by
          cases current with
          | nil => simp at positive
          | cons _ _ => rfl
        simp [marked, nonempty] at cut
      · exact ih at_c (by simp; omega) positive

/-- Every prefix that ends in front of a marked element can be dropped. -/
theorem segments_cut {y : α} (at_c : xs[c]? = some y) (marked : marks y = true) (positive : 0 < c) :
    ∃ k, ((segments marks xs).drop k).flatten = xs.drop c := by
  rw [segments_eq]
  exact @segmentsFrom_cut α marks [] xs c y at_c marked (Nat.zero_le c) positive

def StartsMarked (segment : List α) : Prop :=
  ∃ x rest, segment = x :: rest ∧ marks x = true

theorem StartsMarked.append {marks : α → Bool} {segment : List α} (h : StartsMarked marks segment)
    (more : List α) : StartsMarked marks (segment ++ more) := by
  obtain ⟨x, rest, rfl, marked⟩ := h
  exact ⟨x, rest ++ more, rfl, marked⟩

/-- Only the first segment can begin with an element that is not marked, and not even that
one when what is collected so far begins with a marked one. -/
theorem segmentsFrom_startMarked (current xs : List α) :
    (∀ s ∈ (segmentsFrom marks current xs).tail, StartsMarked marks s) ∧
      (StartsMarked marks current → ∀ s ∈ segmentsFrom marks current xs, StartsMarked marks s) := by
  induction xs generalizing current with
  | nil =>
    rw [segmentsFrom]
    split
    · exact ⟨nofun, fun _ => nofun⟩
    · constructor
      · exact nofun
      · intro started s mem
        rw [List.mem_singleton.mp mem]
        exact started
  | cons x xs ih =>
    rw [segmentsFrom]
    split
    · rename_i cut
      rw [Bool.and_eq_true] at cut
      have opened := (ih [x]).2 ⟨x, [], rfl, cut.1⟩
      constructor
      · exact opened
      · intro started s mem
        rcases List.mem_cons.mp mem with rfl | mem
        · exact started
        · exact opened s mem
    · constructor
      · exact (ih (current ++ [x])).1
      · intro started
        exact (ih (current ++ [x])).2 (started.append [x])

theorem segments_tail_startMarked (xs : List α) :
    ∀ s ∈ (segments marks xs).tail, StartsMarked marks s := by
  rw [segments_eq]
  exact (segmentsFrom_startMarked marks [] xs).1

/-! ### Positions in a filtered list -/

section Filter

variable {p : α → Bool}

/-- How many elements before position `k` pass the filter. -/
def passedBefore (p : α → Bool) (xs : List α) (k : Nat) : Nat := ((xs.take k).filter p).length

variable {k : Nat}

theorem passedBefore_mono (p : α → Bool) (xs : List α) {i : Nat} (h : i ≤ k) :
    passedBefore p xs i ≤ passedBefore p xs k :=
  (((List.take_prefix_take_left h).sublist).filter p).length_le

variable {x : α} {xs : List α}

theorem passedBefore_succ (at_k : xs[k]? = some x) (passes : p x = true) :
    passedBefore p xs (k + 1) = passedBefore p xs k + 1 := by
  simp [passedBefore, List.take_add_one, at_k, passes]

theorem getElem?_filter (at_k : xs[k]? = some x) (passes : p x = true) :
    (xs.filter p)[passedBefore p xs k]? = some x := by
  obtain ⟨bound, rfl⟩ := List.getElem?_eq_some_iff.mp at_k
  have split : xs.filter p = (xs.take k).filter p ++ (xs.drop k).filter p := by
    rw [← List.filter_append, List.take_append_drop]
  rw [split, passedBefore, List.getElem?_append_right (Nat.le_refl _), Nat.sub_self,
    List.drop_eq_getElem_cons bound, List.filter_cons_of_pos passes]
  rfl

theorem position_of_filter {c : Nat} (at_c : (xs.filter p)[c]? = some x) :
    ∃ k, xs[k]? = some x ∧ p x = true ∧ passedBefore p xs k = c := by
  induction xs generalizing c with
  | nil => simp at at_c
  | cons y xs ih =>
    by_cases passes : p y = true
    · rw [List.filter_cons_of_pos passes] at at_c
      cases c with
      | zero =>
        obtain rfl : y = x := by simpa using at_c
        exact ⟨0, rfl, passes, rfl⟩
      | succ c =>
        obtain ⟨k, at_k, passes', before⟩ := ih (by simpa using at_c)
        exact ⟨k + 1, at_k, passes', by simpa [passedBefore, passes] using before⟩
    · rw [List.filter_cons_of_neg passes] at at_c
      obtain ⟨k, at_k, passes', before⟩ := ih at_c
      exact ⟨k + 1, at_k, passes', by simpa [passedBefore, passes] using before⟩

theorem passedBefore_lt (at_k : xs[k]? = some x) (passes : p x = true) :
    passedBefore p xs k < (xs.filter p).length :=
  (List.getElem?_eq_some_iff.mp (getElem?_filter at_k passes)).1

/-- A list whose passing elements all come first is those and then the others. -/
theorem filter_append_filter_not (first : ∀ x ∈ xs.drop (xs.filter p).length, p x = false) :
    xs.filter p ++ xs.filter (fun x => !p x) = xs := by
  have noneLater : (xs.drop (xs.filter p).length).filter p = [] := by
    rw [List.filter_eq_nil_iff]
    intro x mem
    rw [first x mem]
    exact Bool.false_ne_true
  have split : xs.filter p = (xs.take (xs.filter p).length).filter p := by
    conv_lhs => rw [← List.take_append_drop (xs.filter p).length xs, List.filter_append, noneLater,
      List.append_nil]
  have whole : (xs.take (xs.filter p).length).filter p = xs.take (xs.filter p).length := by
    apply List.filter_sublist.eq_of_length_le
    rw [← split]
    exact List.length_take_le _ _
  have front : xs.filter p = xs.take (xs.filter p).length := split.trans whole
  have allFront : ∀ x ∈ xs.take (xs.filter p).length, p x = true := by
    intro x mem
    rw [← whole] at mem
    exact (List.mem_filter.mp mem).2
  have back : xs.filter (fun x => !p x) = xs.drop (xs.filter p).length := by
    conv_lhs => rw [← List.take_append_drop (xs.filter p).length xs, List.filter_append]
    rw [List.filter_eq_nil_iff.mpr (by simpa using allFront), List.nil_append, List.filter_eq_self]
    simpa using first
  calc xs.filter p ++ xs.filter (fun x => !p x)
      = xs.filter p ++ xs.drop (xs.filter p).length := by rw [back]
    _ = xs.take (xs.filter p).length ++ xs.drop (xs.filter p).length :=
        congrArg (· ++ xs.drop (xs.filter p).length) front
    _ = xs := List.take_append_drop _ _

end Filter

end Unchain.Lib
