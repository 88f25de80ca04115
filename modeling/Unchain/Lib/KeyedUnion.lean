import Mathlib.Data.List.Dedup
import Unchain.Lib.Effect
import Unchain.Lib.KeyOrder
import Unchain.Lib.SortedBy

/-!
The union of items under their keys.

Items are written into a dictionary one by one. What is already there under a key must agree with
what comes. The union is made exactly when no two items conflict, and its items are the items
given: neither their order nor their number matters.
-/

namespace Unchain.Lib.KeyedUnion

open Lib.Effect

variable {α κ ε : Type}

section Insert

variable [DecidableEq κ] (key : α → κ) (agree : α → α → Except ε Unit)

/-- Write one item under its key. -/
def insert (m : List (κ × α)) (x : α) : Except ε (List (κ × α)) := do
  match Assoc.get (key x) m with
  | none => return Assoc.set (key x) x m
  | some prior => do
    agree prior x
    return Assoc.set (key x) x m

/-- Write the items one by one. -/
def insertAll (m : List (κ × α)) (xs : List α) : Except ε (List (κ × α)) :=
  xs.foldlM (insert key agree) m

end Insert

def items (m : List (κ × α)) : List α := m.map Prod.snd

variable {key : α → κ} {agree : α → α → Except ε Unit}

/-- A dictionary of items, each once and under its own key. -/
structure Keyed (key : α → κ) (m : List (κ × α)) : Prop where
  nodup : (Assoc.keys m).Nodup
  own : ∀ e ∈ m, e.1 = key e.2

variable {m m' : List (κ × α)} {x : α}

/-- Every item that is there was there before or has been given. -/
theorem mem_of_insertAll [DecidableEq κ] {xs : List α} (h : insertAll key agree m xs = .ok m')
    (mem : x ∈ items m') : x ∈ items m ∨ x ∈ xs := by
  induction xs generalizing m with
  | nil =>
    cases h
    exact .inl mem
  | cons y xs ih =>
    obtain ⟨m₁, step, rest⟩ := bind_ok h
    have written : m₁ = Assoc.set (key y) y m := by
      unfold insert at step
      split at step
      · exact (Except.ok.inj step).symm
      · obtain ⟨_, -, step⟩ := bind_ok step
        exact (Except.ok.inj step).symm
    obtain here | later := ih rest
    · rw [written] at here
      obtain ⟨e, there, rfl⟩ := List.mem_map.mp here
      obtain rfl | there := Assoc.mem_of_mem_set there
      · exact .inr List.mem_cons_self
      · exact .inl (List.mem_map_of_mem there)
    · exact .inr (List.mem_cons_of_mem _ later)

theorem keyed_nil : Keyed key ([] : List (κ × α)) := ⟨List.nodup_nil, nofun⟩

theorem Keyed.keys_eq (keyed : Keyed key m) : Assoc.keys m = (items m).map key := by
  rw [Assoc.keys, items, List.map_map]
  exact List.map_congr_left keyed.own

theorem Keyed.nodup_items (keyed : Keyed key m) : ((items m).map key).Nodup := by
  rw [← keyed.keys_eq]
  exact keyed.nodup

variable [DecidableEq κ]

theorem Keyed.get_iff (keyed : Keyed key m) {k : κ} :
    Assoc.get k m = some x ↔ x ∈ items m ∧ key x = k := by
  constructor
  · intro found
    have mem := Assoc.mem_of_get found
    exact ⟨List.mem_map.mpr ⟨_, mem, rfl⟩, (keyed.own _ mem).symm⟩
  · rintro ⟨mem, rfl⟩
    obtain ⟨⟨k, y⟩, mem', rfl⟩ := List.mem_map.mp mem
    have same : k = key y := keyed.own _ mem'
    subst same
    exact Assoc.get_of_mem keyed.nodup mem'

/-! ### What is in the union -/

def Truthful (key : α → κ) (agree : α → α → Except ε Unit) (given : List α) : Prop :=
  ∀ x ∈ given, ∀ y ∈ given, key x = key y → agree x y = .ok () → x = y

/-- No two items have one key. -/
def NoConflict (key : α → κ) (given : List α) : Prop :=
  ∀ x ∈ given, ∀ y ∈ given, key x = key y → x = y

theorem insert_new (absent : Assoc.get (key x) m = none) :
    insert key agree m x = .ok (m ++ [(key x, x)]) := by
  rw [insert, absent, ← Assoc.set_of_not_mem x (Assoc.get_eq_none_iff.mp absent)]
  rfl

theorem insert_known (found : Assoc.get (key x) m = some x) (same : agree x x = .ok ()) :
    insert key agree m x = .ok m := by
  have stays := Assoc.set_of_get found
  simp only [insert, found, same, stays]
  rfl

variable {given : List α}

theorem insert_ok (truthful : Truthful key agree given) (keyed : Keyed key m)
    (known : ∀ y ∈ items m, y ∈ given) (mem : x ∈ given) (h : insert key agree m x = .ok m') :
    Keyed key m' ∧ ∀ y, y ∈ items m' ↔ y ∈ items m ∨ y = x := by
  cases found : Assoc.get (key x) m with
  | none =>
    rw [insert_new found] at h
    cases h
    have absent := Assoc.get_eq_none_iff.mp found
    refine ⟨⟨?_, ?_⟩, fun y => by simp [items]⟩
    · rw [Assoc.keys, List.map_append]
      exact keyed.nodup.append (List.nodup_singleton _) (by simpa [Assoc.keys] using absent)
    · intro e here
      rcases List.mem_append.mp here with here | here
      · exact keyed.own e here
      · rw [List.mem_singleton.mp here]
  | some prior =>
    obtain ⟨here, sameKey⟩ := keyed.get_iff.mp found
    have agreed : agree prior x = .ok () := by
      simp only [insert, found] at h
      obtain ⟨_, agreed, -⟩ := bind_ok h
      exact agreed
    obtain rfl := truthful prior (known _ here) x mem sameKey agreed
    rw [insert_known found agreed] at h
    cases h
    refine ⟨keyed, fun y => ⟨.inl, ?_⟩⟩
    rintro (known | rfl)
    · exact known
    · exact here

theorem insertAll_ok (truthful : Truthful key agree given) :
    ∀ {xs : List α} {m m' : List (κ × α)}, Keyed key m → (∀ y ∈ items m, y ∈ given) →
      (∀ x ∈ xs, x ∈ given) → insertAll key agree m xs = .ok m' →
      Keyed key m' ∧ ∀ y, y ∈ items m' ↔ y ∈ items m ∨ y ∈ xs := by
  intro xs
  induction xs with
  | nil =>
    intro m m' keyed _ _ h
    cases h
    exact ⟨keyed, fun y => by simp⟩
  | cons x xs ih =>
    intro m m' keyed known mem h
    obtain ⟨m₁, step, rest⟩ := bind_ok h
    obtain ⟨keyed₁, items₁⟩ := insert_ok truthful keyed known (mem x List.mem_cons_self) step
    have known₁ : ∀ y ∈ items m₁, y ∈ given := by
      intro y here
      rcases (items₁ y).mp here with old | rfl
      · exact known y old
      · exact mem y List.mem_cons_self
    obtain ⟨keyed', items'⟩ :=
      ih keyed₁ known₁ (fun y here => mem y (List.mem_cons_of_mem _ here)) rest
    refine ⟨keyed', fun y => ?_⟩
    rw [items' y, items₁ y, List.mem_cons, or_assoc]

theorem insertAll_total (apart : NoConflict key given) (same : ∀ x ∈ given, agree x x = .ok ()) :
    ∀ {xs : List α} {m : List (κ × α)}, Keyed key m → (∀ y ∈ items m, y ∈ given) →
      (∀ x ∈ xs, x ∈ given) → ∃ m', insertAll key agree m xs = .ok m' := by
  have truthful : Truthful key agree given := fun x memX y memY keys _ => apart x memX y memY keys
  intro xs
  induction xs with
  | nil => exact fun _ _ _ => ⟨_, rfl⟩
  | cons x xs ih =>
    intro m keyed known mem
    have here := mem x List.mem_cons_self
    obtain ⟨m₁, step⟩ : ∃ m₁, insert key agree m x = .ok m₁ := by
      cases found : Assoc.get (key x) m with
      | none => exact ⟨_, insert_new found⟩
      | some prior =>
        obtain ⟨there, sameKey⟩ := keyed.get_iff.mp found
        obtain rfl := apart prior (known _ there) x here sameKey
        exact ⟨m, insert_known found (same _ here)⟩
    obtain ⟨keyed₁, items₁⟩ := insert_ok truthful keyed known here step
    obtain ⟨m', rest⟩ := ih keyed₁ (fun y y₁ => by
      rcases (items₁ y).mp y₁ with old | rfl
      · exact known y old
      · exact here) fun y here => mem y (List.mem_cons_of_mem _ here)
    exact ⟨m', by rw [insertAll, List.foldlM_cons, step]; exact rest⟩

/-! ### The items in order of their keys -/

section Ordered

variable {key : α → String}

def ordered (m : List (String × α)) : List α := items (Assoc.byKey m)

variable {m : List (String × α)}

@[simp] theorem mem_ordered {x : α} : x ∈ ordered m ↔ x ∈ items m :=
  ((Assoc.byKey_perm m).map Prod.snd).mem_iff

theorem ordered_eq (keyed : Keyed key m) : ordered m = sortedBy key (items m) := by
  have own : ∀ e ∈ Assoc.byKey m, e.1 = key e.2 := fun e mem => keyed.own e (Assoc.mem_byKey.mp mem)
  have perm : (ordered m).Perm (items m) := (Assoc.byKey_perm m).map Prod.snd
  refine eq_of_sorted ?_ (sorted_sortedBy (items m)) ?_ ?_ fun x => by simp
  · rw [ordered, items, List.pairwise_map]
    refine (Assoc.sorted_byKey m).imp_of_mem fun memA memB le => ?_
    rw [← own _ memA, ← own _ memB]
    exact le
  · exact (perm.map key).nodup_iff.mpr keyed.nodup_items
  · exact nodup_keys_sortedBy.mpr keyed.nodup_items

/-- The items given, each once and in order of their keys. -/
structure UnionOf (key : α → String) (given united : List α) : Prop where
  same : ∀ x, x ∈ united ↔ x ∈ given
  nodup : (united.map key).Nodup
  sorted : united.Pairwise fun a b => key a ≤ key b

variable {given united : List α}

theorem UnionOf.congr {given' : List α} (union : UnionOf key given united)
    (same : ∀ x, x ∈ given ↔ x ∈ given') : UnionOf key given' united :=
  ⟨fun x => (union.same x).trans (same x), union.nodup, union.sorted⟩

theorem UnionOf.unique {united' : List α} (union : UnionOf key given united)
    (union' : UnionOf key given united') : united = united' :=
  eq_of_sorted union.sorted union'.sorted union.nodup union'.nodup fun x =>
    (union.same x).trans (union'.same x).symm

theorem UnionOf.noConflict (union : UnionOf key given united) : NoConflict key given := by
  intro x memX y memY keys
  exact List.inj_on_of_nodup_map union.nodup ((union.same x).mpr memX) ((union.same y).mpr memY) keys

/-! ### How many there are -/

section

variable (union : UnionOf key given united)

include union

/-- As many of the united items have a property as there are different given ones that have it. -/
theorem UnionOf.length_filter [DecidableEq α] (p : α → Bool) :
    (united.filter p).length = (given.filter p).dedup.length := by
  have nodup : (united.filter p).Nodup := (List.Nodup.of_map key union.nodup).filter p
  have perm : (united.filter p).Perm (given.filter p).dedup := by
    rw [List.perm_ext_iff_of_nodup nodup (List.nodup_dedup _)]
    intro x
    rw [List.mem_dedup, List.mem_filter, List.mem_filter, union.same x]
  exact perm.length_eq

theorem UnionOf.perm_iff : given.length = united.length ↔ given.Perm united := by
  constructor
  · intro length
    have within : united.Subperm given :=
      List.subperm_of_subset (List.Nodup.of_map key union.nodup) fun x mem => (union.same x).mp mem
    exact (within.perm_of_length_le length.le).symm
  · exact List.Perm.length_eq

theorem UnionOf.nodup_iff : (given.map key).Nodup ↔ given.Perm united := by
  constructor
  · intro nodup
    rw [List.perm_ext_iff_of_nodup (List.Nodup.of_map key nodup) (List.Nodup.of_map key union.nodup)]
    exact fun x => (union.same x).symm
  · intro perm
    exact (perm.map key).nodup_iff.mpr union.nodup

theorem UnionOf.sortedBy_eq (nodup : (given.map key).Nodup) : sortedBy key given = united :=
  eq_of_sorted (sorted_sortedBy given) union.sorted (nodup_keys_sortedBy.mpr nodup) union.nodup
    fun x => mem_sortedBy.trans (union.same x).symm

end

/-- A list is as long as its set exactly when it has no repetition. -/
theorem length_dedup_eq_iff {β : Type} [DecidableEq β] {xs : List β} :
    xs.length = xs.dedup.length ↔ xs.Nodup := by
  constructor
  · intro length
    rw [← (List.dedup_sublist xs).eq_of_length length.symm]
    exact List.nodup_dedup xs
  · intro nodup
    rw [nodup.dedup]

theorem Keyed.union (keyed : Keyed key m) : UnionOf key (items m) (ordered m) := by
  rw [ordered_eq keyed]
  exact ⟨fun x => mem_sortedBy, nodup_keys_sortedBy.mpr keyed.nodup_items, sorted_sortedBy _⟩

variable {agree agree' : α → α → Except ε Unit} {xs : List α}

/-- What was written into an empty dictionary is the union of what was given. -/
theorem union_of_insertAll (truthful : Truthful key agree xs)
    (h : insertAll key agree [] xs = .ok m) : Keyed key m ∧ UnionOf key xs (ordered m) := by
  obtain ⟨keyed, same⟩ := insertAll_ok truthful keyed_nil nofun (fun _ mem => mem) h
  refine ⟨keyed, keyed.union.congr fun x => ?_⟩
  rw [same x]
  simp [items]

theorem insertAll_of_union (union : UnionOf key xs united) (truthful : Truthful key agree xs)
    (same : ∀ x ∈ xs, agree x x = .ok ()) :
    ∃ m, insertAll key agree [] xs = .ok m ∧ Keyed key m ∧ ordered m = united := by
  obtain ⟨m, written⟩ := insertAll_total union.noConflict same keyed_nil nofun (fun _ mem => mem)
  obtain ⟨keyed, union'⟩ := union_of_insertAll truthful written
  exact ⟨m, written, keyed, union'.unique union⟩

variable {ys : List α}

/-- Items written after others are united with them. -/
theorem union_of_insertAll_after (truthful : Truthful key agree (xs ++ ys))
    (truthful' : Truthful key agree' (xs ++ ys)) {m' : List (String × α)}
    (first : insertAll key agree [] xs = .ok m) (second : insertAll key agree' m ys = .ok m') :
    UnionOf key (xs ++ ys) (ordered m') := by
  obtain ⟨keyed, same⟩ := insertAll_ok truthful keyed_nil nofun
    (fun _ mem => List.mem_append_left _ mem) first
  have known : ∀ y ∈ items m, y ∈ xs ++ ys := fun y mem =>
    ((same y).mp mem).elim nofun fun mem => List.mem_append_left _ mem
  obtain ⟨keyed', same'⟩ := insertAll_ok truthful' keyed known
    (fun _ mem => List.mem_append_right _ mem) second
  refine keyed'.union.congr fun x => ?_
  rw [same' x, same x, List.mem_append]
  simp [items]

/-- What has a union can be written in two runs. -/
theorem insertAll_after_of_union (union : UnionOf key (xs ++ ys) united)
    (truthful : Truthful key agree (xs ++ ys)) (truthful' : Truthful key agree' (xs ++ ys))
    (same : ∀ x ∈ xs ++ ys, agree x x = .ok ()) (same' : ∀ x ∈ xs ++ ys, agree' x x = .ok ()) :
    ∃ m m', insertAll key agree [] xs = .ok m ∧ insertAll key agree' m ys = .ok m' ∧
      ordered m' = united := by
  obtain ⟨m, first⟩ := insertAll_total union.noConflict same keyed_nil nofun
    (fun _ mem => List.mem_append_left _ mem)
  obtain ⟨keyed, members⟩ := insertAll_ok truthful keyed_nil nofun
    (fun _ mem => List.mem_append_left _ mem) first
  have known : ∀ y ∈ items m, y ∈ xs ++ ys := fun y mem =>
    ((members y).mp mem).elim nofun fun mem => List.mem_append_left _ mem
  obtain ⟨m', second⟩ := insertAll_total union.noConflict same' keyed known
    (fun _ mem => List.mem_append_right _ mem)
  exact ⟨m, m', first, second,
    (union_of_insertAll_after truthful truthful' first second).unique union⟩

end Ordered

end Unchain.Lib.KeyedUnion
