import Unchain.Lib.Json
import Unchain.Lib.Utf8

/-!
How many bytes a JSON text takes.

`size` counts the bytes of a compact text part by part. The order of the members does not
matter, so the canonical text has the same size (`length_canonical`).
-/

namespace Unchain.Lib

namespace Json

/-- The bytes of a text in UTF-8. -/
def bytesOf (cs : List Char) : Nat := (Utf8.encode cs).length

def escapedSize (text : List Char) : Nat := bytesOf (escape text)

mutual

/-- The bytes of a value in compact form. -/
def size : Json → Nat
  | .null => 4
  | .bool b => if b then 4 else 5
  | .int n => (intText n).length
  | .num text => bytesOf text
  | .str text => 2 + escapedSize text
  | .arr items => 2 + (sizeItems items - 1)
  | .obj members => 2 + (sizeMembers members - 1)

/-- The items, each with the mark after it. -/
def sizeItems : List Json → Nat
  | [] => 0
  | item :: items => size item + 1 + sizeItems items

def sizeMembers : List (List Char × Json) → Nat
  | [] => 0
  | (name, value) :: members => 3 + escapedSize name + size value + 1 + sizeMembers members

end

@[simp] theorem bytesOf_nil : bytesOf [] = 0 := rfl

theorem bytesOf_append (cs ds : List Char) : bytesOf (cs ++ ds) = bytesOf cs + bytesOf ds := by
  simp [bytesOf]

theorem bytesOf_cons_ascii {c : Char} (ascii : c.toNat < 128) (cs : List Char) :
    bytesOf (c :: cs) = 1 + bytesOf cs := by
  have one : (Utf8.encodeChar c).length = 1 := by
    obtain ⟨-, eq⟩ | ⟨large, -⟩ | ⟨large, -⟩ | ⟨large, -⟩ := Utf8.encodeChar_cases c
    · rw [eq]
      rfl
    all_goals omega
  simp only [bytesOf, Utf8.encode_cons, List.length_append, one]

theorem bytesOf_ascii {cs : List Char} (ascii : ∀ c ∈ cs, c.toNat < 128) :
    bytesOf cs = cs.length := by
  induction cs with
  | nil => rfl
  | cons c cs ih =>
    rw [bytesOf_cons_ascii (ascii c List.mem_cons_self),
      ih fun d mem => ascii d (List.mem_cons_of_mem c mem), List.length_cons]
    omega

/-- An ASCII character that is written as it is. -/
def PlainChar (c : Char) : Prop := 0x23 ≤ c.toNat ∧ c.toNat < 128 ∧ c ≠ '\\'

instance : DecidablePred PlainChar := fun c =>
  inferInstanceAs (Decidable (0x23 ≤ c.toNat ∧ c.toNat < 128 ∧ c ≠ '\\'))

theorem escapeChar_plain {c : Char} (plain : PlainChar c) : escapeChar c = [c] := by
  obtain ⟨low, -, notSlash⟩ := plain
  have above : ∀ d : Char, d.toNat < 0x23 → c ≠ d := by
    rintro d small rfl
    omega
  unfold escapeChar
  rw [if_neg (above _ (by decide)), if_neg notSlash, if_neg (above _ (by decide)),
    if_neg (above _ (by decide)), if_neg (above _ (by decide)), if_neg (above _ (by decide)),
    if_neg (above _ (by decide)), if_neg (by omega)]

/-- A text of plain characters takes one byte a character. -/
theorem escapedSize_plain {cs : List Char} (plain : ∀ c ∈ cs, PlainChar c) :
    escapedSize cs = cs.length := by
  have same : escape cs = cs := by
    rw [escape, List.flatMap_congr fun c mem => escapeChar_plain (plain c mem),
      List.flatMap_singleton']
  rw [escapedSize, same, bytesOf_ascii fun c mem => (plain c mem).2.1]

theorem escapedSize_replicate (n : Nat) (c : Char) :
    escapedSize (List.replicate n c) = n * escapedSize [c] := by
  induction n with
  | zero => simp [escapedSize, escape]
  | succ n ih =>
    have step : escape (List.replicate (n + 1) c) = escape [c] ++ escape (List.replicate n c) := by
      simp [escape, List.replicate_succ]
    rw [escapedSize, step, bytesOf_append, ← escapedSize, ← escapedSize, ih]
    ring

theorem isDigit_ascii {c : Char} (digit : isDigit c = true) : c.toNat < 128 := by
  simp only [isDigit, Bool.and_eq_true, decide_eq_true_eq] at digit
  omega

theorem bytesOf_intText (n : Int) : bytesOf (intText n) = (intText n).length := by
  apply bytesOf_ascii
  intro c mem
  cases n with
  | ofNat n => exact isDigit_ascii (all_digits_natText n c mem)
  | negSucc n =>
    rw [intText, List.mem_cons] at mem
    obtain rfl | mem := mem
    · decide
    · exact isDigit_ascii (all_digits_natText (n + 1) c mem)

theorem bytesOf_quote (text : List Char) : bytesOf (quote text) = 2 + escapedSize text := by
  rw [quote, bytesOf_cons_ascii (by decide), bytesOf_append, escapedSize]
  have : bytesOf ['"'] = 1 := rfl
  omega

/-- The pieces, each with the mark after it. -/
def piecesSize (pieces : List (List Char)) : Nat := (pieces.map fun p => bytesOf p + 1).sum

theorem bytesOf_commas (pieces : List (List Char)) :
    bytesOf (commas pieces) = piecesSize pieces - 1 := by
  induction pieces using commas.induct with
  | case1 => rfl
  | case2 piece => simp [commas, piecesSize]
  | case3 piece rest notNil ih =>
    obtain ⟨next, rest, rfl⟩ := List.exists_cons_of_ne_nil notNil
    rw [commas_cons_cons, bytesOf_append, bytesOf_cons_ascii (by decide), ih]
    simp only [piecesSize, List.map_cons, List.sum_cons]
    omega

mutual

theorem bytesOf_write : ∀ v : Json, bytesOf (write v) = size v
  | .null => rfl
  | .bool false => rfl
  | .bool true => rfl
  | .int n => by rw [write, bytesOf_intText, size]
  | .num text => by rw [write, size]
  | .str text => by rw [write, bytesOf_quote, size]
  | .arr items => by
    rw [write, bytesOf_cons_ascii (by decide), bytesOf_append, bytesOf_commas,
      piecesSize_writeItems, size]
    have : bytesOf [']'] = 1 := rfl
    omega
  | .obj members => by
    rw [write, bytesOf_cons_ascii (by decide), bytesOf_append, bytesOf_commas,
      piecesSize_writeMembers, size]
    have : bytesOf ['\x7d'] = 1 := rfl
    omega

theorem piecesSize_writeItems : ∀ items : List Json,
    piecesSize (writeItems items) = sizeItems items
  | [] => rfl
  | item :: items => by
    have ih := piecesSize_writeItems items
    rw [piecesSize] at ih ⊢
    rw [writeItems, List.map_cons, List.sum_cons, ih, bytesOf_write, sizeItems]

theorem piecesSize_writeMembers : ∀ members : List (List Char × Json),
    piecesSize (writeMembers members) = sizeMembers members
  | [] => rfl
  | (name, value) :: members => by
    have ih := piecesSize_writeMembers members
    rw [piecesSize] at ih ⊢
    rw [writeMembers, List.map_cons, List.sum_cons, ih, bytesOf_append, bytesOf_quote,
      bytesOf_cons_ascii (by decide), bytesOf_write, sizeMembers]
    omega

end

theorem sizeMembers_eq_sum (members : List (List Char × Json)) :
    sizeMembers members = (members.map fun m => 3 + escapedSize m.1 + size m.2 + 1).sum := by
  induction members with
  | nil => rfl
  | cons m members ih => rw [sizeMembers, ih, List.map_cons, List.sum_cons]

mutual

theorem size_sorted : ∀ v : Json, size (sorted v) = size v
  | .null => rfl
  | .bool _ => rfl
  | .int _ => rfl
  | .num _ => rfl
  | .str _ => rfl
  | .arr items => by rw [sorted, size, sizeItems_sorted, size]
  | .obj members => by
    have same := (List.perm_insertionSort NameLE (sortedMembers members)).map
      fun m => 3 + escapedSize m.1 + size m.2 + 1
    rw [sorted, size, sizeMembers_eq_sum, same.sum_eq, ← sizeMembers_eq_sum,
      sizeMembers_sorted, size]

theorem sizeItems_sorted : ∀ items : List Json, sizeItems (sortedItems items) = sizeItems items
  | [] => rfl
  | item :: items => by
    rw [sortedItems, sizeItems, size_sorted, sizeItems_sorted, sizeItems]

theorem sizeMembers_sorted : ∀ members : List (List Char × Json),
    sizeMembers (sortedMembers members) = sizeMembers members
  | [] => rfl
  | (name, value) :: members => by
    rw [sortedMembers, sizeMembers, size_sorted, sizeMembers_sorted, sizeMembers]

end

/-- The canonical text takes as many bytes as any compact text of the value. -/
theorem length_canonical (v : Json) : (Utf8.encode v.canonical).length = v.size := by
  rw [canonical, ← bytesOf, bytesOf_write, size_sorted]

end Json

end Unchain.Lib
