import Unchain.Lib.Json

/-!
The grammar of JSON texts, apart from any reader.

A text is related to the value it stands for. Strings are lists of UTF-16 code units, so a `\u`
escape is always one unit, and what a number is worth is a parameter. With `raw`, a newline, a
carriage return and a tab may stand in a string as they are.
-/

namespace Unchain.Lib.JsonGrammar

open Json (isBlank isDigit hex4? shortEscape?)

inductive Value (N : Type) where
  | null
  | bool (b : Bool)
  | number (n : N)
  | str (units : List Nat)
  | arr (items : List (Value N))
  | obj (members : List (List Nat × Value N))

def units (c : Char) : List Nat :=
  if c.toNat < 0x10000 then [c.toNat]
  else [0xD800 + (c.toNat - 0x10000) / 0x400, 0xDC00 + (c.toNat - 0x10000) % 0x400]

/-- The characters that may be left raw. -/
def loose : List Char := ['\n', '\r', '\t']

/-- What stands in a string for some of its units. -/
inductive Piece (raw : Bool) : List Char → List Nat → Prop
  | plain {c} (high : 0x20 ≤ c.toNat) (quote : c ≠ '"') (slash : c ≠ '\\') : Piece raw [c] (units c)
  | left {c} (allowed : raw = true) (mem : c ∈ loose) : Piece raw [c] (units c)
  | short {e c} (escape : shortEscape? e = some c) : Piece raw ['\\', e] (units c)
  | unit {a b c d n} (hex : hex4? a b c d = some n) : Piece raw ['\\', 'u', a, b, c, d] [n]

inductive Literal (raw : Bool) : List Char → List Nat → Prop
  | nil : Literal raw [] []
  | cons {cs ds us vs} (first : Piece raw cs us) (rest : Literal raw ds vs) :
      Literal raw (cs ++ ds) (us ++ vs)

def Digits (cs : List Char) : Prop := cs ≠ [] ∧ ∀ c ∈ cs, isDigit c = true

inductive Number : List Char → Prop
  | mk {minus int fraction exponent} (sign : minus ∈ [[], ['-']]) (digits : Digits int)
      (zero : int.head? = some '0' → int = ['0'])
      (point : fraction = [] ∨ ∃ ds, Digits ds ∧ fraction = '.' :: ds)
      (power : exponent = [] ∨ ∃ e ∈ ['e', 'E'], ∃ s ∈ [[], ['+'], ['-']], ∃ ds, Digits ds ∧
        exponent = e :: (s ++ ds)) : Number (minus ++ int ++ fraction ++ exponent)

def Blank (cs : List Char) : Prop := ∀ c ∈ cs, isBlank c = true

inductive Part (N : Type) where
  | value (v : Value N)
  | items (vs : List (Value N))
  | members (ms : List (List Nat × Value N))

/-- A text with what it stands for: a value, or what stands between the brackets of an array or
the braces of an object. -/
inductive Text {N : Type} (worth : List Char → N) (raw : Bool) : List Char → Part N → Prop
  | blanks {b cs b' v} (before : Blank b) (value : Text worth raw cs (.value v)) (after : Blank b') :
      Text worth raw (b ++ cs ++ b') (.value v)
  | null : Text worth raw "null".toList (.value .null)
  | true : Text worth raw "true".toList (.value (.bool true))
  | false : Text worth raw "false".toList (.value (.bool false))
  | number {cs} (number : Number cs) : Text worth raw cs (.value (.number (worth cs)))
  | str {cs us} (literal : Literal raw cs us) :
      Text worth raw ('"' :: (cs ++ ['"'])) (.value (.str us))
  | arr {cs vs} (items : Text worth raw cs (.items vs)) :
      Text worth raw ('[' :: (cs ++ [']'])) (.value (.arr vs))
  | obj {cs ms} (members : Text worth raw cs (.members ms)) :
      Text worth raw ('{' :: (cs ++ ['}'])) (.value (.obj ms))
  | noItems {b} (blank : Blank b) : Text worth raw b (.items [])
  | item {cs v} (value : Text worth raw cs (.value v)) : Text worth raw cs (.items [v])
  | items {cs ds v vs} (value : Text worth raw cs (.value v)) (some : vs ≠ [])
      (rest : Text worth raw ds (.items vs)) : Text worth raw (cs ++ ',' :: ds) (.items (v :: vs))
  | noMembers {b} (blank : Blank b) : Text worth raw b (.members [])
  | member {b name us b' cs v} (before : Blank b) (literal : Literal raw name us) (after : Blank b')
      (value : Text worth raw cs (.value v)) :
      Text worth raw (b ++ '"' :: (name ++ '"' :: (b' ++ ':' :: cs))) (.members [(us, v)])
  | members {cs ds m ms} (first : Text worth raw cs (.members [m])) (some : ms ≠ [])
      (rest : Text worth raw ds (.members ms)) :
      Text worth raw (cs ++ ',' :: ds) (.members (m :: ms))

/-! ### Quotes -/

theorem quote_not_mem_of_digits {cs : List Char} (digits : Digits cs) : '"' ∉ cs := by
  intro mem
  exact absurd (digits.2 _ mem) (by decide)

/-- Only strings hold quotes. -/
theorem Number.quote_not_mem {cs : List Char} (number : Number cs) : '"' ∉ cs := by
  obtain ⟨sign, digits, -, point, power⟩ := number
  simp only [List.mem_append, not_or]
  refine ⟨⟨⟨?_, quote_not_mem_of_digits digits⟩, ?_⟩, ?_⟩
  · rcases List.mem_pair.mp sign with rfl | rfl <;> decide
  · rcases point with rfl | ⟨ds, digits, rfl⟩
    · exact List.not_mem_nil
    · simp [quote_not_mem_of_digits digits]
  · rcases power with rfl | ⟨e, letter, s, sign, ds, digits, rfl⟩
    · exact List.not_mem_nil
    · have := quote_not_mem_of_digits digits
      simp only [List.mem_cons, List.not_mem_nil, or_false] at letter sign
      rcases letter with rfl | rfl <;> rcases sign with rfl | rfl | rfl <;> simp [this]

theorem Blank.quote_not_mem {cs : List Char} (blank : Blank cs) : '"' ∉ cs := by
  intro mem
  exact absurd (blank _ mem) (by decide)

end Unchain.Lib.JsonGrammar
