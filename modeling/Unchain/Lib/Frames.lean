import Unchain.Lib.Utf8
import Mathlib.Algebra.Ring.Nat

/-!
Length-prefixed frames.

Each byte string of a sequence is written with its length in eight bytes before it. As long as the
lengths fit, the bytes determine the sequence (`framed_injective`): neither the borders between
the strings nor their order can change without changing the bytes.
-/

namespace Unchain.Lib.Frames

open Utf8 (Bytes)

/-- A number below `2 ^ 64` in eight bytes, the highest first. -/
def bigEndian8 (n : Nat) : Bytes :=
  [n / 2 ^ 56, n / 2 ^ 48, n / 2 ^ 40, n / 2 ^ 32, n / 2 ^ 24, n / 2 ^ 16, n / 2 ^ 8, n].map
    UInt8.ofNat

def frame (bs : Bytes) : Bytes := bigEndian8 bs.length ++ bs

/-- The frames of a sequence, one after the other. -/
def framed (strings : List Bytes) : Bytes := strings.flatMap frame

@[simp] theorem length_bigEndian8 (n : Nat) : (bigEndian8 n).length = 8 := rfl

theorem mod_eq_of_ofNat {m n : Nat} (same : UInt8.ofNat m = UInt8.ofNat n) : m % 256 = n % 256 := by
  have values := congrArg UInt8.toNat same
  simpa using values

theorem bigEndian8_injective {m n : Nat} (hm : m < 2 ^ 64) (hn : n < 2 ^ 64)
    (same : bigEndian8 m = bigEndian8 n) : m = n := by
  simp only [bigEndian8, List.map_cons, List.map_nil, List.cons.injEq, and_true] at same
  obtain ⟨b7, b6, b5, b4, b3, b2, b1, b0⟩ := same
  have b7 := mod_eq_of_ofNat b7
  have b6 := mod_eq_of_ofNat b6
  have b5 := mod_eq_of_ofNat b5
  have b4 := mod_eq_of_ofNat b4
  have b3 := mod_eq_of_ofNat b3
  have b2 := mod_eq_of_ofNat b2
  have b1 := mod_eq_of_ofNat b1
  have b0 := mod_eq_of_ofNat b0
  omega

/-- The first frame and what follows it can be told apart. -/
theorem frame_append_inj {a b as bs : Bytes} (ha : a.length < 2 ^ 64) (hb : b.length < 2 ^ 64)
    (same : frame a ++ as = frame b ++ bs) : a = b ∧ as = bs := by
  rw [frame, frame, List.append_assoc, List.append_assoc] at same
  obtain ⟨lengths, rest⟩ := List.append_inj same rfl
  exact List.append_inj rest (bigEndian8_injective ha hb lengths)

/-- No string of a sequence is longer than its frames. -/
theorem length_le_framed {x : Bytes} {xs : List Bytes} (mem : x ∈ xs) :
    x.length ≤ (framed xs).length := by
  obtain ⟨before, after, rfl⟩ := List.append_of_mem mem
  simp only [framed, List.flatMap_append, List.flatMap_cons, List.length_append, frame]
  omega

theorem framed_injective {xs ys : List Bytes} (fitsX : ∀ x ∈ xs, x.length < 2 ^ 64)
    (fitsY : ∀ y ∈ ys, y.length < 2 ^ 64) (same : framed xs = framed ys) : xs = ys := by
  induction xs generalizing ys with
  | nil =>
    cases ys with
    | nil => rfl
    | cons y ys => simp [framed, frame, bigEndian8] at same
  | cons x xs ih =>
    cases ys with
    | nil => simp [framed, frame, bigEndian8] at same
    | cons y ys =>
      obtain ⟨first, rest⟩ := frame_append_inj (fitsX x (by simp)) (fitsY y (by simp)) same
      have others := ih (fun z mem => fitsX z (by simp [mem])) (fun z mem => fitsY z (by simp [mem]))
        rest
      rw [first, others]

end Unchain.Lib.Frames
