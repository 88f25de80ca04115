import Unchain.Python.Ordered

/-!
Room for the canonical bytes of a value.

Twenty-four bytes for every byte of a text are enough, whatever has to be escaped. The bound does not look
at the characters, so it is at hand where the text itself is not.
-/

namespace Unchain.Python

open Lib

def textRoom (s : String) : Nat := 2 + 24 * s.utf8ByteSize

mutual

def Value.room : Value → Option Nat
  | .none => some 4
  | .bool _ => some 5
  | .int n => if n.natAbs < 10 ^ 16 then some 17 else none
  | .float _ => none
  | .str s => some (textRoom s)
  | .list items => (roomOfItems items).map (2 + ·)
  | .dict es => (roomOfEntries es).map (2 + ·)
  | .obj _ _ => none

def roomOfItems : List Value → Option Nat
  | [] => some 0
  | v :: vs => do
    let here ← v.room
    let later ← roomOfItems vs
    return here + 1 + later

def roomOfEntries : List (String × Value) → Option Nat
  | [] => some 0
  | (name, v) :: es => do
    let here ← v.room
    let later ← roomOfEntries es
    return textRoom name + 1 + here + 1 + later

end

theorem length_toList_le (s : String) : s.toList.length ≤ s.utf8ByteSize := by
  obtain ⟨cs, rfl⟩ := s.exists_eq_ofList
  induction cs using List.reverseRecOn with
  | nil => simp
  | append_singleton cs c ih =>
    have push : String.ofList (cs ++ [c]) = (String.ofList cs).push c := by
      apply String.toList_injective
      simp
    have size : 0 < c.utf8Size := c.utf8Size_pos
    rw [String.toList_ofList] at ih ⊢
    rw [push, String.utf8ByteSize_push, List.length_append, List.length_singleton]
    omega

theorem bytesOf_le (text : List Char) : Json.bytesOf text ≤ 4 * text.length := by
  induction text with
  | nil => exact Nat.le_refl 0
  | cons c text ih =>
    have here : (Utf8.encodeChar c).length ≤ 4 := by
      obtain ⟨-, eq⟩ | ⟨-, -, eq⟩ | ⟨-, -, -, eq⟩ | ⟨-, -, eq⟩ := Utf8.encodeChar_cases c
      all_goals
        rw [eq]
        simp
    rw [Json.bytesOf] at ih ⊢
    rw [Utf8.encode_cons, List.length_append, List.length_cons]
    omega

theorem escapedSize_le (text : List Char) : Json.escapedSize text ≤ 24 * text.length := by
  induction text with
  | nil => exact Nat.le_refl 0
  | cons c text ih =>
    have split : Json.escape (c :: text) = Json.escapeChar c ++ Json.escape text := rfl
    have length : (Json.escapeChar c).length ≤ 6 := by
      obtain ⟨e, -, eq, -⟩ | ⟨-, eq⟩ | ⟨-, -, -, eq⟩ := Json.escapeChar_cases c
      all_goals
        rw [eq]
        simp
    have here := bytesOf_le (Json.escapeChar c)
    rw [Json.escapedSize] at ih ⊢
    rw [split, Json.bytesOf_append, List.length_cons]
    omega

theorem quoted_le_textRoom (s : String) : 2 + Json.escapedSize s.toList ≤ textRoom s := by
  have escaped := escapedSize_le s.toList
  have length := length_toList_le s
  rw [textRoom]
  omega

theorem length_natText_le {n : Nat} (small : n < 10 ^ 16) : (Json.natText n).length ≤ 16 := by
  have top : (Json.natText (10 ^ 16 - 1)).length = 16 := by decide +kernel
  exact (Json.length_natText_mono (by omega)).trans top.le

theorem length_intText_le {n : Int} (small : n.natAbs < 10 ^ 16) : (Json.intText n).length ≤ 17 := by
  have digits := length_natText_le small
  cases n with
  | ofNat n => exact digits.trans (by omega)
  | negSucc n =>
    exact Nat.succ_le_succ digits

variable {display : Display}

mutual

theorem fits_of_room : ∀ {v : Value} {room : Nat}, v.room = some room →
    v.Writable ∧ (v.json display).size ≤ room
  | .none, _, h => by
    cases h
    exact ⟨trivial, Nat.le_refl _⟩
  | .bool b, _, h => by
    cases h
    cases b
    · exact ⟨trivial, Nat.le_refl _⟩
    · exact ⟨trivial, Nat.le_succ 4⟩
  | .int n, room, h => by
    rw [Value.room] at h
    split at h
    · cases h
      rename_i small
      exact ⟨(length_natText_le small).trans (by decide), length_intText_le small⟩
    · cases h
  | .float _, _, h => by cases h
  | .str s, _, h => by
    cases h
    exact ⟨trivial, quoted_le_textRoom s⟩
  | .list items, room, h => by
    rw [Value.room, Option.map_eq_some_iff] at h
    obtain ⟨inner, h, rfl⟩ := h
    obtain ⟨writable, size⟩ := fits_of_roomOfItems h
    refine ⟨writable, ?_⟩
    rw [Value.json, Json.size]
    omega
  | .dict es, room, h => by
    rw [Value.room, Option.map_eq_some_iff] at h
    obtain ⟨inner, h, rfl⟩ := h
    obtain ⟨writable, size⟩ := fits_of_roomOfEntries h
    refine ⟨writable, ?_⟩
    rw [Value.json, Json.size]
    omega
  | .obj _ _, _, h => by cases h

theorem fits_of_roomOfItems : ∀ {vs : List Value} {room : Nat}, roomOfItems vs = some room →
    WritableItems vs ∧ Json.sizeItems (itemsJson display vs) ≤ room
  | [], _, h => by
    cases h
    exact ⟨trivial, Nat.le_refl 0⟩
  | v :: vs, room, h => by
    simp only [roomOfItems, Option.bind_eq_bind, Option.bind_eq_some_iff, Option.pure_def,
      Option.some.injEq] at h
    obtain ⟨here, hereOk, later, laterOk, rfl⟩ := h
    obtain ⟨writable, size⟩ := fits_of_room hereOk
    obtain ⟨writable', size'⟩ := fits_of_roomOfItems laterOk
    refine ⟨⟨writable, writable'⟩, ?_⟩
    rw [itemsJson, Json.sizeItems]
    omega

theorem fits_of_roomOfEntries : ∀ {es : List (String × Value)} {room : Nat},
    roomOfEntries es = some room →
    WritableEntries es ∧ Json.sizeMembers (entriesJson display es) ≤ room
  | [], _, h => by
    cases h
    exact ⟨trivial, Nat.le_refl 0⟩
  | (name, v) :: es, room, h => by
    simp only [roomOfEntries, Option.bind_eq_bind, Option.bind_eq_some_iff, Option.pure_def,
      Option.some.injEq] at h
    obtain ⟨here, hereOk, later, laterOk, rfl⟩ := h
    obtain ⟨writable, size⟩ := fits_of_room hereOk
    obtain ⟨writable', size'⟩ := fits_of_roomOfEntries laterOk
    have quoted := quoted_le_textRoom name
    refine ⟨⟨writable, writable'⟩, ?_⟩
    rw [entriesJson, Json.sizeMembers]
    omega

end

theorem canonicalJson_of_room {v : Value} {room : Nat} (h : v.room = some room) :
    ∃ bytes, canonicalJson display v = .ok bytes ∧ bytes.length ≤ room := by
  obtain ⟨writable, size⟩ := @fits_of_room display _ _ h
  refine ⟨_, canonicalJson_of_writable writable, ?_⟩
  rw [Json.length_canonical]
  exact size

end Unchain.Python
