import Mathlib.Data.List.Nodup

/-!
Insertion-ordered association lists: the maps of a language whose dictionaries
remember the order in which keys were first written.

`set` overwrites in place and appends a new key at the end, so the key order is
the order of first insertion. Lookups read the first entry of a key; the
duplicate-free case is `(keys m).Nodup`, which every operation here preserves.
-/

namespace Unchain.Lib.Assoc

variable {κ ν : Type} [DecidableEq κ]

/-- The value stored under `k`, if any. -/
def get (k : κ) : List (κ × ν) → Option ν
  | [] => none
  | (k', v) :: m => if k' = k then some v else get k m

/-- Overwrite `k` in place, or append it when it is new. -/
def set (k : κ) (v : ν) : List (κ × ν) → List (κ × ν)
  | [] => [(k, v)]
  | (k', v') :: m => if k' = k then (k', v) :: m else (k', v') :: set k v m

def has (k : κ) (m : List (κ × ν)) : Bool := (get k m).isSome

/-- Write every entry of `new`: known keys are overwritten in place, the others
appended in order. -/
def update (m new : List (κ × ν)) : List (κ × ν) :=
  m.map (fun entry => (entry.1, (get entry.1 new).getD entry.2))
    ++ new.filter fun entry => !has entry.1 m

/-- Remove every entry of `k`. -/
def erase (k : κ) (m : List (κ × ν)) : List (κ × ν) :=
  m.filter fun entry => entry.1 ≠ k

def keys (m : List (κ × ν)) : List κ := m.map Prod.fst

@[simp] theorem get_nil (k : κ) : get k ([] : List (κ × ν)) = none := rfl

theorem get_cons (k k' : κ) (v : ν) (m : List (κ × ν)) :
    get k ((k', v) :: m) = if k' = k then some v else get k m := rfl

@[simp] theorem get_set_self (k : κ) (v : ν) (m : List (κ × ν)) : get k (set k v m) = some v := by
  induction m with
  | nil => simp [set, get]
  | cons entry m ih =>
    obtain ⟨k', v'⟩ := entry
    by_cases same : k' = k <;> simp [set, get, same, ih]

variable {j k : κ}

@[simp] theorem get_set_of_ne (ne : j ≠ k) (v : ν) (m : List (κ × ν)) :
    get j (set k v m) = get j m := by
  induction m with
  | nil => simp [set, get, ne.symm]
  | cons entry m ih =>
    obtain ⟨k', v'⟩ := entry
    by_cases same : k' = k
    · subst same
      simp [set, get, ne.symm]
    · simp [set, get, same, ih]

theorem get_set (k j : κ) (v : ν) (m : List (κ × ν)) :
    get j (set k v m) = if j = k then some v else get j m := by
  by_cases same : j = k
  · simp [same]
  · simp [same]

variable {m : List (κ × ν)}

theorem get_isSome_iff : (get k m).isSome ↔ k ∈ keys m := by
  induction m with
  | nil => simp [keys]
  | cons entry m ih =>
    obtain ⟨k', v'⟩ := entry
    by_cases same : k' = k
    · simp [get, keys, same]
    · rw [get_cons, if_neg same, ih]
      simp [keys, Ne.symm same]

variable {v : ν}

theorem mem_keys_of_get (h : get k m = some v) : k ∈ keys m :=
  get_isSome_iff.mp (by simp [h])

theorem get_eq_none_iff : get k m = none ↔ k ∉ keys m := by
  rw [← get_isSome_iff, Option.isSome_iff_ne_none, not_not]

theorem mem_of_get (h : get k m = some v) : (k, v) ∈ m := by
  induction m with
  | nil => simp at h
  | cons entry m ih =>
    obtain ⟨k', v'⟩ := entry
    rw [get_cons] at h
    split at h
    · cases h
      simp_all
    · exact List.mem_cons_of_mem _ (ih h)

theorem get_of_mem (nodup : (keys m).Nodup) (mem : (k, v) ∈ m) : get k m = some v := by
  induction m with
  | nil => simp at mem
  | cons entry m ih =>
    obtain ⟨k', v'⟩ := entry
    simp only [keys, List.map_cons, List.nodup_cons] at nodup
    rcases List.mem_cons.mp mem with head | tail
    · cases head
      simp [get]
    · have ne : k' ≠ k := by
        rintro rfl
        exact nodup.1 (List.mem_map.mpr ⟨_, tail, rfl⟩)
      rw [get_cons, if_neg ne]
      exact ih nodup.2 tail

/-- What is there after a write was written or was there before. -/
theorem mem_of_mem_set {e : κ × ν} (mem : e ∈ set k v m) : e = (k, v) ∨ e ∈ m := by
  induction m with
  | nil => exact .inl (List.mem_singleton.mp mem)
  | cons entry m ih =>
    simp only [set] at mem
    split at mem
    · rename_i same
      rcases List.mem_cons.mp mem with rfl | mem
      · exact .inl (by rw [same])
      · exact .inr (by simp [mem])
    · rcases List.mem_cons.mp mem with rfl | mem
      · exact .inr (by simp)
      · exact (ih mem).imp_right (List.mem_cons_of_mem _)

/-- A new key goes to the end. -/
theorem set_of_not_mem (v : ν) (h : k ∉ keys m) : set k v m = m ++ [(k, v)] := by
  induction m with
  | nil => rfl
  | cons entry m ih =>
    simp only [keys, List.map_cons, List.mem_cons, not_or] at h
    simp [set, Ne.symm h.1, ih h.2]

/-- A known key keeps its place. -/
theorem set_of_mem (v : ν) (nodup : (keys m).Nodup) (h : k ∈ keys m) :
    set k v m = m.map fun entry => if entry.1 = k then (k, v) else entry := by
  induction m with
  | nil => simp [keys] at h
  | cons entry m ih =>
    obtain ⟨k', v'⟩ := entry
    simp only [keys, List.map_cons, List.nodup_cons] at nodup
    by_cases same : k' = k
    · subst same
      have others : ∀ e ∈ m, e.1 ≠ k' := by
        rintro e mem rfl
        exact nodup.1 (List.mem_map.mpr ⟨e, mem, rfl⟩)
      have stays : m.map (fun entry => if entry.1 = k' then (k', v) else entry) = m.map id :=
        List.map_congr_left fun e mem => by simp [others e mem]
      simp [set, stays]
    · have tail : k ∈ keys m := by simpa [keys, Ne.symm same] using h
      simp [set, same, ih nodup.2 tail]

/-- To write what is there changes nothing. -/
theorem set_of_get (h : get k m = some v) : set k v m = m := by
  induction m with
  | nil => cases h
  | cons entry m ih =>
    obtain ⟨k', v'⟩ := entry
    rw [get_cons] at h
    by_cases same : k' = k
    · rw [if_pos same] at h
      cases h
      rw [set, if_pos same]
    · rw [if_neg same] at h
      rw [set, if_neg same, ih h]

theorem keys_set_of_mem (v : ν) (h : k ∈ keys m) : keys (set k v m) = keys m := by
  induction m with
  | nil => simp [keys] at h
  | cons entry m ih =>
    obtain ⟨k', v'⟩ := entry
    by_cases same : k' = k
    · simp [set, keys, same]
    · have tail : k ∈ keys m := by simpa [keys, Ne.symm same] using h
      simp only [set, if_neg same, keys, List.map_cons, List.cons.injEq, true_and]
      exact ih tail

theorem nodup_keys_set (k : κ) (v : ν) (h : (keys m).Nodup) : (keys (set k v m)).Nodup := by
  by_cases mem : k ∈ keys m
  · rwa [keys_set_of_mem v mem]
  · have snoc : keys (set k v m) = keys m ++ [k] := by simp [set_of_not_mem v mem, keys]
    rw [snoc]
    exact h.append (List.nodup_singleton k) (by simpa using mem)

theorem get_append (k : κ) (m n : List (κ × ν)) : get k (m ++ n) = (get k m).or (get k n) := by
  induction m with
  | nil => rfl
  | cons entry m ih =>
    obtain ⟨k', v'⟩ := entry
    by_cases same : k' = k <;> simp [get, same, ih]

theorem get_map_value (k : κ) (f : κ → ν → ν) (m : List (κ × ν)) :
    get k (m.map fun entry => (entry.1, f entry.1 entry.2)) = (get k m).map (f k) := by
  induction m with
  | nil => rfl
  | cons entry m ih =>
    obtain ⟨k', v'⟩ := entry
    by_cases same : k' = k
    · subst same
      simp [get]
    · simp [get, same, ih]

theorem get_filter_of_pos (keep : κ → Bool) (h : keep k = true) (m : List (κ × ν)) :
    get k (m.filter fun entry => keep entry.1) = get k m := by
  induction m with
  | nil => rfl
  | cons entry m ih =>
    obtain ⟨k', v'⟩ := entry
    by_cases same : k' = k
    · subst same
      simp [List.filter, h, get]
    · by_cases kept : keep k' <;> simp [List.filter, kept, get, same, ih]

theorem get_filter_of_neg (keep : κ → Bool) (h : keep k = false) (m : List (κ × ν)) :
    get k (m.filter fun entry => keep entry.1) = none := by
  induction m with
  | nil => rfl
  | cons entry m ih =>
    obtain ⟨k', v'⟩ := entry
    by_cases kept : keep k' = true
    · have ne : k' ≠ k := by
        rintro rfl
        simp [h] at kept
      simp [List.filter, kept, get, ne, ih]
    · simp [List.filter, kept, ih]

/-- A later map wins where it has the key. -/
theorem get_update (k : κ) (m new : List (κ × ν)) :
    get k (update m new) = (get k new).or (get k m) := by
  rw [update, get_append, get_map_value k fun k' v => (get k' new).getD v]
  cases inOld : get k m with
  | none =>
    rw [get_filter_of_pos (fun k => !has k m) (by simp [has, inOld])]
    simp
  | some v => cases get k new <;> simp

@[simp] theorem get_erase_self (k : κ) (m : List (κ × ν)) : get k (erase k m) = none := by
  simpa [erase] using get_filter_of_neg (k := k) (fun j => decide (j ≠ k)) (by simp) m

@[simp] theorem get_erase_of_ne (ne : j ≠ k) (m : List (κ × ν)) : get j (erase k m) = get j m := by
  simpa [erase] using get_filter_of_pos (k := j) (fun i => decide (i ≠ k)) (by simp [ne]) m

end Unchain.Lib.Assoc
