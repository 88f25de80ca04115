import Unchain.Lib.Utf8
import Unchain.Python.Lines

/-!
Texts shown within a budget of lines and a budget of bytes.

Each text is cut to what the ones before it left over. A cut that keeps both budgets for
one text keeps them for all of them put together (`lineCount_showWithin`,
`byteCount_showWithin`): texts that run into each other only lose lines.
-/

namespace Unchain.Lib.Display

open Python Utf8

def lineCount (text : List Char) : Nat := (lines text).length

def byteCount (text : List Char) : Nat := (encode text).length

/-- What a text is shortened to: its first characters, or the first characters of its
first lines. -/
def Shortens (text shown : List Char) : Prop :=
  shown <+: text ∨ ∃ n, shown <+: joinLines ((lines text).take n)

structure Cuts (cut : Nat → Nat → List Char → List Char) : Prop where
  lines : ∀ maxLines maxBytes text, lineCount (cut maxLines maxBytes text) ≤ maxLines
  bytes : ∀ maxLines maxBytes text, byteCount (cut maxLines maxBytes text) ≤ maxBytes
  shortens : ∀ maxLines maxBytes text, Shortens text (cut maxLines maxBytes text)

/-! ### One text -/

@[simp] theorem lineCount_nil : lineCount [] = 0 := rfl

@[simp] theorem byteCount_nil : byteCount [] = 0 := rfl

theorem byteCount_append (xs ys : List Char) :
    byteCount (xs ++ ys) = byteCount xs + byteCount ys := by
  rw [byteCount, encode_append, List.length_append]
  rfl

theorem lineCount_firstLines (text : List Char) (n : Nat) :
    lineCount (joinLines ((lines text).take n)) ≤ n := by
  have whole : lineCount (joinLines ((lines text).take n)) ≤ ((lines text).take n).length :=
    length_lines_joinLines_le fun line mem => oneLine_of_mem_lines (List.mem_of_mem_take mem)
  have few : ((lines text).take n).length ≤ n := List.length_take_le _ _
  exact Nat.le_trans whole few

theorem firstBytes_prefix (text : List Char) (n : Nat) :
    decodeIgnore ((encode text).take n) <+: text ∧
      byteCount (decodeIgnore ((encode text).take n)) ≤ n := by
  rw [decodeIgnore_take]
  exact ⟨ fitting_prefix n text, length_fitting_le n text⟩

theorem Shortens.trans {text shown shorter : List Char} (h : Shortens text shown)
    (pre : shorter <+: shown) : Shortens text shorter := by
  rcases h with whole | ⟨n, firstLines⟩
  · exact .inl (pre.trans whole)
  · exact .inr ⟨n, pre.trans firstLines⟩

/-! ### Texts one after the other -/

section Budgets

variable {cut : Nat → Nat → List Char → List Char}

/-- A cut to the lines, and then to the bytes. -/
theorem cuts_of_kept (kept : Nat → List Char → List Char)
    (few : ∀ n text, lineCount (kept n text) ≤ n ∧ Shortens text (kept n text))
    (fits : ∀ n m text shown, kept n text = shown →
      cut n m text <+: shown ∧ byteCount (cut n m text) ≤ m) : Cuts cut := by
  have fits (n m text) := fits n m text _ rfl
  constructor
  · intro n m text
    exact Nat.le_trans ( length_lines_le_of_prefix (fits n m text).1) (few n text).1
  · exact fun n m text => (fits n m text).2
  · exact fun n m text => (few n text).2.trans (fits n m text).1

/-- Each text is cut to what the texts before it left of both budgets. -/
def showWithin (cut : Nat → Nat → List Char → List Char) :
    (remainingLines remainingBytes : Nat) → List (List Char) → List (List Char)
  | _, _, [] => []
  | remainingLines, remainingBytes, text :: texts =>
    let shown := cut remainingLines remainingBytes text
    shown :: showWithin cut (remainingLines - lineCount shown)
      (remainingBytes - byteCount shown) texts

theorem lineCount_showWithin (cuts : Cuts cut) (maxLines maxBytes : Nat)
    (texts : List (List Char)) :
    lineCount (showWithin cut maxLines maxBytes texts).flatten ≤ maxLines := by
  induction texts generalizing maxLines maxBytes with
  | nil => exact Nat.zero_le _
  | cons text texts ih =>
    rw [showWithin, List.flatten_cons]
    have first := cuts.lines maxLines maxBytes text
    have later := ih (maxLines - lineCount (cut maxLines maxBytes text))
      (maxBytes - byteCount (cut maxLines maxBytes text))
    have merged := length_lines_append_le (cut maxLines maxBytes text)
      (showWithin cut (maxLines - lineCount (cut maxLines maxBytes text))
        (maxBytes - byteCount (cut maxLines maxBytes text)) texts).flatten
    simp only [lineCount] at first later merged ⊢
    omega

theorem byteCount_showWithin (cuts : Cuts cut) (maxLines maxBytes : Nat)
    (texts : List (List Char)) :
    byteCount (showWithin cut maxLines maxBytes texts).flatten ≤ maxBytes := by
  induction texts generalizing maxLines maxBytes with
  | nil => exact Nat.zero_le _
  | cons text texts ih =>
    rw [showWithin, List.flatten_cons, byteCount_append]
    have first := cuts.bytes maxLines maxBytes text
    have later := ih (maxLines - lineCount (cut maxLines maxBytes text))
      (maxBytes - byteCount (cut maxLines maxBytes text))
    omega

theorem shortens_showWithin (cuts : Cuts cut) (maxLines maxBytes : Nat) (texts : List (List Char)) :
    List.Forall₂ Shortens texts (showWithin cut maxLines maxBytes texts) := by
  induction texts generalizing maxLines maxBytes with
  | nil => exact .nil
  | cons text texts ih => exact .cons (cuts.shortens maxLines maxBytes text) (ih _ _)

/-- Texts shown within two budgets, a budget below zero counting as zero. -/
structure Displayed (maxLines maxBytes : Int) (texts shown : List (List Char)) : Prop where
  lines : (lineCount shown.flatten : Int) ≤ max 0 maxLines
  bytes : (byteCount shown.flatten : Int) ≤ max 0 maxBytes
  shortens : List.Forall₂ Shortens texts shown

theorem displayed_showWithin (cuts : Cuts cut) (maxLines maxBytes : Int)
    (texts : List (List Char)) :
    Displayed maxLines maxBytes texts (showWithin cut maxLines.toNat maxBytes.toNat texts) := by
  constructor
  · have within := lineCount_showWithin cuts maxLines.toNat maxBytes.toNat texts
    omega
  · have within := byteCount_showWithin cuts maxLines.toNat maxBytes.toNat texts
    omega
  · exact shortens_showWithin cuts _ _ texts

end Budgets

end Unchain.Lib.Display
