import Mathlib.Data.List.DropRight
import Unchain.Python.Value

/-!
The built-in functions the kernel calls on dynamic values: `int()`, `bool()`,
`str.strip()` and slicing, with the exceptions they raise.

The text that `str()` gives to a value that is not a string is left to a
parameter (`Display`): no result depends on how numbers or containers print.
-/

namespace Unchain.Python

open Lib

inductive PyError where
  | typeError (message : String)
  | valueError (message : String)
  | keyError (message : String)
  | indexError (message : String)
  | attributeError (message : String)
  | overflowError (message : String)
  | notImplementedError (message : String)
  | raised (cls : String) (message : String)
deriving DecidableEq

/-- `str()` on the values that are not strings. -/
abbrev Display := Value → String

/-- `str(value)`. -/
def Value.toStr (display : Display) : Value → String
  | .str s => s
  | v => display v

@[simp] theorem Value.toStr_str (display : Display) (s : String) :
    (Value.str s).toStr display = s := rfl

/-! ### Strings -/

/-- What is asked of the characters of a text is decided along the text, not over all
characters. -/
instance (priority := 2000) decidableForallChars (p : Char → Prop) [DecidablePred p]
    (cs : List Char) : Decidable (∀ c ∈ cs, p c) := List.decidableBAll p cs

/-- `str.isspace` on one character. -/
def isSpace (c : Char) : Bool :=
  (0x09 ≤ c.toNat && c.toNat ≤ 0x0D) || (0x1C ≤ c.toNat && c.toNat ≤ 0x20)
    || (0x2000 ≤ c.toNat && c.toNat ≤ 0x200A)
    || [0x85, 0xA0, 0x1680, 0x2028, 0x2029, 0x202F, 0x205F, 0x3000].contains c.toNat

/-- `s.strip()` on the characters of `s`. -/
def stripChars (cs : List Char) : List Char :=
  ((cs.dropWhile isSpace).reverse.dropWhile isSpace).reverse

def strip (s : String) : String := String.ofList (stripChars s.toList)

theorem stripChars_idempotent (cs : List Char) : stripChars (stripChars cs) = stripChars cs := by
  have eq : stripChars cs = (cs.dropWhile isSpace).rdropWhile isSpace := rfl
  have front : (stripChars cs).dropWhile isSpace = stripChars cs := by
    refine List.dropWhile_eq_self_iff.mpr fun pos => ?_
    have pre : stripChars cs <+: cs.dropWhile isSpace := List.rdropWhile_prefix isSpace _
    have first := List.dropWhile_get_zero_not isSpace cs (pos.trans_le pre.length_le)
    rw [pre.getElem pos]
    exact first
  have back : (stripChars cs).rdropWhile isSpace = stripChars cs := by
    rw [eq, List.rdropWhile_idempotent]
  calc stripChars (stripChars cs)
      = ((stripChars cs).dropWhile isSpace).rdropWhile isSpace := rfl
    _ = stripChars cs := by rw [front, back]

theorem strip_strip (s : String) : strip (strip s) = strip s := by
  simp only [strip, String.toList_ofList, stripChars_idempotent]

theorem dropWhile_eq_self {p : Char → Bool} {cs : List Char} (h : ∀ c ∈ cs, p c = false) :
    cs.dropWhile p = cs := by
  refine List.dropWhile_eq_self_iff.mpr fun pos => ?_
  rw [h _ (List.getElem_mem pos)]
  decide

theorem stripChars_of_no_space {cs : List Char} (h : ∀ c ∈ cs, isSpace c = false) :
    stripChars cs = cs := by
  rw [stripChars, dropWhile_eq_self h,
    dropWhile_eq_self fun c mem => h c (List.mem_reverse.mp mem), List.reverse_reverse]

theorem isSpace_of_ascii {c : Char} (low : 33 ≤ c.toNat) (high : c.toNat < 128) :
    isSpace c = false := by
  simp only [isSpace, Bool.or_eq_false_iff, Bool.and_eq_false_iff, decide_eq_false_iff_not,
    List.contains_eq_mem, List.mem_cons, List.not_mem_nil, or_false]
  omega

/-- The code points of the digit zero in each run of Unicode decimal digits. -/
def decimalZeros : List Nat :=
  [0x0030, 0x0660, 0x06F0, 0x07C0, 0x0966, 0x09E6, 0x0A66, 0x0AE6, 0x0B66, 0x0BE6, 0x0C66,
   0x0CE6, 0x0D66, 0x0DE6, 0x0E50, 0x0ED0, 0x0F20, 0x1040, 0x1090, 0x17E0, 0x1810, 0x1946,
   0x19D0, 0x1A80, 0x1A90, 0x1B50, 0x1BB0, 0x1C40, 0x1C50, 0xA620, 0xA8D0, 0xA900, 0xA9D0,
   0xA9F0, 0xAA50, 0xABF0, 0xFF10, 0x104A0, 0x10D30, 0x11066, 0x110F0, 0x11136, 0x111D0,
   0x112F0, 0x11450, 0x114D0, 0x11650, 0x116C0, 0x11730, 0x118E0, 0x11950, 0x11C50, 0x11D50,
   0x11DA0, 0x11F50, 0x16A60, 0x16AC0, 0x16B50, 0x1D7CE, 0x1D7D8, 0x1D7E2, 0x1D7EC, 0x1D7F6,
   0x1E140, 0x1E2F0, 0x1E4F0, 0x1E950, 0x1FBF0]

def digit? (c : Char) : Option Nat :=
  (decimalZeros.find? fun z => z ≤ c.toNat && c.toNat < z + 10).map (c.toNat - ·)

/-- Decimal digits with single underscores between them; `afterDigit` says that
the previous character was a digit, so an underscore may follow. -/
def readDigits : (afterDigit : Bool) → (acc count : Nat) → List Char → Option (Nat × Nat)
  | afterDigit, acc, count, [] => if afterDigit then some (acc, count) else none
  | afterDigit, acc, count, c :: cs =>
    if c = '_' then
      if afterDigit then readDigits false acc count cs else none
    else
      match digit? c with
      | some d => readDigits true (acc * 10 + d) (count + 1) cs
      | none => none

/-- The interpreter refuses longer digit strings. -/
def maxStrDigits : Nat := 4300

/-- `int(s)` in base ten. -/
def intOfString (s : String) : Option Int :=
  let (negative, digits) := match stripChars s.toList with
    | '-' :: cs => (true, cs)
    | '+' :: cs => (false, cs)
    | cs => (false, cs)
  match readDigits false 0 0 digits with
  | some (n, count) =>
    if count ≤ maxStrDigits then some (if negative then -(n : Int) else n) else none
  | none => none

/-! ### Conversions -/

/-- `int(value)`. -/
def Value.toInt : Value → Except PyError Int
  | .bool b => .ok (if b then 1 else 0)
  | .int n => .ok n
  | .float (.finite m e) =>
    .ok (if 0 ≤ e then m * 2 ^ e.toNat else m.tdiv (2 ^ (-e).toNat))
  | .float .negZero => .ok 0
  | .float (.inf _) => .error (.overflowError "cannot convert float infinity to integer")
  | .float .nan => .error (.valueError "cannot convert float NaN to integer")
  | .str s => match intOfString s with
      | some n => .ok n
      | Option.none => .error (.valueError "invalid literal for int() with base 10")
  | _ => .error (.typeError "int() argument must be a string, a bytes-like object or a real number")

/-! ### Slices -/

/-- `max(0, min(index, length))`: an index clamped into a list. -/
def clampIndex (index : Int) (length : Nat) : Nat := min index.toNat length

/-- `xs[start:end] = new` for `start ≤ end`. -/
def spliceSpan {α : Type} (xs : List α) (start stop : Nat) (new : List α) : List α :=
  xs.take start ++ new ++ xs.drop stop

theorem mem_spliceSpan {α : Type} {xs new : List α} {start stop : Nat} {x : α}
    (h : x ∈ spliceSpan xs start stop new) : x ∈ xs ∨ x ∈ new := by
  simp only [spliceSpan, List.mem_append] at h
  rcases h with (front | inserted) | back
  · exact .inl (List.mem_of_mem_take front)
  · exact .inr inserted
  · exact .inl (List.mem_of_mem_drop back)

example : intOfString "  -1_000 " = some (-1000) := by decide

end Unchain.Python
