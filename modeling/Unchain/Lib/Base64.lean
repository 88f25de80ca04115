import Unchain.Lib.Utf8

/-!
Base64: three bytes as four characters.

`encode` pads the last group with `=`; `encodeBare` is the same text without the padding,
which the length of the text determines (`encode_eq_bare`). The strict decoder takes whole
groups only and allows padding in the last one. It reads back what was encoded
(`decode?_encode`).
-/

namespace Unchain.Lib

namespace Base64

open Utf8 (Bytes)

/-- The alphabets differ in their last two characters. -/
inductive Alphabet where
  | standard
  | urlSafe

variable (alphabet : Alphabet)

/-- The character of a six-bit value. -/
def charOf (n : Nat) : Char :=
  if n < 26 then Char.ofNat (0x41 + n)
  else if n < 52 then Char.ofNat (0x61 + (n - 26))
  else if n < 62 then Char.ofNat (0x30 + (n - 52))
  else match alphabet, n with
    | .standard, 62 => '+'
    | .standard, _ => '/'
    | .urlSafe, 62 => '-'
    | .urlSafe, _ => '_'

def valueOf? (c : Char) : Option Nat :=
  if 0x41 ≤ c.toNat ∧ c.toNat ≤ 0x5A then some (c.toNat - 0x41)
  else if 0x61 ≤ c.toNat ∧ c.toNat ≤ 0x7A then some (c.toNat - 0x61 + 26)
  else if 0x30 ≤ c.toNat ∧ c.toNat ≤ 0x39 then some (c.toNat - 0x30 + 52)
  else match alphabet with
    | .standard => if c = '+' then some 62 else if c = '/' then some 63 else none
    | .urlSafe => if c = '-' then some 62 else if c = '_' then some 63 else none

/-! ### Encoding -/

/-- The characters of three bytes. -/
def group (a b c : UInt8) : List Char :=
  let n := (a.toNat * 256 + b.toNat) * 256 + c.toNat
  [charOf alphabet (n / 262144), charOf alphabet (n / 4096 % 64), charOf alphabet (n / 64 % 64),
    charOf alphabet (n % 64)]

/-- The text without padding: a last group of one or two bytes is cut short. -/
def encodeBare : Bytes → List Char
  | a :: b :: c :: bs => group alphabet a b c ++ encodeBare bs
  | [a, b] => (group alphabet a b 0).take 3
  | [a] => (group alphabet a 0 0).take 2
  | [] => []

def pad : Char := '='

/-- `b64encode`. -/
def encode : Bytes → List Char
  | a :: b :: c :: bs => group alphabet a b c ++ encode bs
  | [a, b] => (group alphabet a b 0).take 3 ++ [pad]
  | [a] => (group alphabet a 0 0).take 2 ++ [pad, pad]
  | [] => []

/-! ### Decoding -/

/-- The number behind four characters. -/
def value4? (p q r s : Char) : Option Nat := do
  return (((← valueOf? alphabet p) * 64 + (← valueOf? alphabet q)) * 64 + (← valueOf? alphabet r))
    * 64 + (← valueOf? alphabet s)

def bytes3 (n : Nat) : Bytes :=
  [UInt8.ofNat (n / 65536), UInt8.ofNat (n / 256 % 256), UInt8.ofNat (n % 256)]

/-- `b64decode(…, validate=True)`. The bits that a padded group leaves over are not looked
at. -/
def decode? : List Char → Option Bytes
  | [] => some []
  | [p, q, '=', '='] => (value4? alphabet p q 'A' 'A').map fun n => (bytes3 n).take 1
  | [p, q, r, '='] => (value4? alphabet p q r 'A').map fun n => (bytes3 n).take 2
  | p :: q :: r :: s :: cs =>
    match value4? alphabet p q r s, decode? cs with
    | some n, some bs => some (bytes3 n ++ bs)
    | _, _ => none
  | _ => none

/-! ### The characters -/

variable {alphabet}

theorem valueOf?_charOf : ∀ n < 64, valueOf? alphabet (charOf alphabet n) = some n := by
  cases alphabet <;> decide

theorem charOf_ne_pad : ∀ n < 64, charOf alphabet n ≠ '=' := by
  cases alphabet <;> decide

def InAlphabet (alphabet : Alphabet) (c : Char) : Prop := ∃ n < 64, c = charOf alphabet n

theorem inAlphabet_group {a b c : UInt8} {d : Char} (mem : d ∈ group alphabet a b c) :
    InAlphabet alphabet d := by
  have := a.toNat_lt
  have := b.toNat_lt
  have := c.toNat_lt
  simp only [group, List.mem_cons, List.not_mem_nil, or_false] at mem
  obtain eq | eq | eq | eq := mem
  · exact ⟨_, by omega, eq⟩
  · exact ⟨_, by omega, eq⟩
  · exact ⟨_, by omega, eq⟩
  · exact ⟨_, by omega, eq⟩

theorem inAlphabet_bare {bs : Bytes} {d : Char} (mem : d ∈ encodeBare alphabet bs) :
    InAlphabet alphabet d := by
  induction bs using encodeBare.induct with
  | case1 a b c bs ih =>
    rw [encodeBare, List.mem_append] at mem
    obtain here | later := mem
    · exact inAlphabet_group here
    · exact ih later
  | case2 a b | case3 a => exact inAlphabet_group (List.mem_of_mem_take mem)
  | case4 => cases mem

theorem length_bare (bs : Bytes) : (encodeBare alphabet bs).length = (4 * bs.length + 2) / 3 := by
  induction bs using encodeBare.induct with
  | case1 a b c bs ih =>
    rw [encodeBare, List.length_append, ih]
    simp only [group, List.length_cons, List.length_nil]
    omega
  | case2 a b | case3 a => simp [encodeBare, group]
  | case4 => simp [encodeBare]

/-- The padding fills the last group up to four characters. -/
theorem encode_eq_bare (bs : Bytes) : encode alphabet bs =
      encodeBare alphabet bs ++ List.replicate ((4 - (encodeBare alphabet bs).length % 4) % 4) pad := by
  induction bs using encodeBare.induct with
  | case1 a b c bs ih =>
    have length : (group alphabet a b c ++ encodeBare alphabet bs).length % 4 =
        (encodeBare alphabet bs).length % 4 := by
      simp only [group, List.length_append, List.length_cons, List.length_nil]
      omega
    rw [encode, encodeBare, length, List.append_assoc, ih]
  | case2 a b => rfl
  | case3 a => rfl
  | case4 => simp [encode, encodeBare]

/-! ### The decoder reads back what was encoded -/

/-- Four characters of one number below `2 ^ 24`. -/
theorem value4?_charOf {n : Nat} (small : n < 16777216) :
    value4? alphabet (charOf alphabet (n / 262144)) (charOf alphabet (n / 4096 % 64))
      (charOf alphabet (n / 64 % 64)) (charOf alphabet (n % 64)) = some n := by
  unfold value4?
  rw [valueOf?_charOf _ (by omega), valueOf?_charOf _ (by omega), valueOf?_charOf _ (by omega),
    valueOf?_charOf _ (by omega)]
  simp only [Option.bind_eq_bind, Option.bind_some, Option.pure_def, Option.some.injEq]
  omega

theorem charOf_zero : charOf alphabet 0 = 'A' := by
  cases alphabet <;> rfl

theorem value4?_group (a b c : UInt8) :
    ∃ p q r s, group alphabet a b c = [p, q, r, s] ∧ r ≠ '=' ∧ s ≠ '=' ∧
      (b = 0 → c = 0 → r = 'A') ∧ (c = 0 → s = 'A') ∧
      value4? alphabet p q r s = some ((a.toNat * 256 + b.toNat) * 256 + c.toNat) := by
  have := a.toNat_lt
  have := b.toNat_lt
  have := c.toNat_lt
  have zero : (0 : UInt8).toNat = 0 := rfl
  refine ⟨_, _, _, _, rfl, charOf_ne_pad _ (by omega), charOf_ne_pad _ (by omega), ?_, ?_,
    value4?_charOf (by omega)⟩
  · rintro rfl rfl
    rw [zero, show ((a.toNat * 256 + 0) * 256 + 0) / 64 % 64 = 0 by omega, charOf_zero]
  · rintro rfl
    rw [zero, show ((a.toNat * 256 + b.toNat) * 256 + 0) % 64 = 0 by omega, charOf_zero]

theorem bytes3_eq (a b c : UInt8) :
    bytes3 ((a.toNat * 256 + b.toNat) * 256 + c.toNat) = [a, b, c] := by
  have hb := b.toNat_lt
  have hc := c.toNat_lt
  have first : ((a.toNat * 256 + b.toNat) * 256 + c.toNat) / 65536 = a.toNat := by omega
  have second : ((a.toNat * 256 + b.toNat) * 256 + c.toNat) / 256 % 256 = b.toNat := by omega
  have third : ((a.toNat * 256 + b.toNat) * 256 + c.toNat) % 256 = c.toNat := by omega
  simp only [bytes3, first, second, third, UInt8.ofNat_toNat]

@[simp] theorem decode?_encode (bs : Bytes) : decode? alphabet (encode alphabet bs) = some bs := by
  induction bs using encode.induct with
  | case1 a b c bs ih =>
    obtain ⟨p, q, r, s, eq, -, notPad, -, -, value⟩ := @value4?_group alphabet a b c
    rw [encode, eq]
    simp only [List.cons_append, List.nil_append]
    rw [decode?]
    · simp only [value, ih, bytes3_eq, List.cons_append, List.nil_append]
    · intro _ same _
      exact notPad same
    · intro same _
      exact notPad same
  | case2 a b =>
    obtain ⟨p, q, r, s, eq, notPad, -, -, zero, value⟩ := @value4?_group alphabet a b 0
    rw [encode, eq]
    simp only [List.take_succ_cons, List.take_zero, List.cons_append, List.nil_append, pad]
    rw [decode?]
    · rw [← zero rfl, value, Option.map_some, bytes3_eq]
      rfl
    · exact notPad
  | case3 a =>
    obtain ⟨p, q, r, s, eq, -, -, third, zero, value⟩ := @value4?_group alphabet a 0 0
    rw [encode, eq]
    simp only [List.take_succ_cons, List.take_zero, List.cons_append, List.nil_append, pad]
    rw [third rfl rfl, zero rfl] at value
    rw [decode?, value, Option.map_some, bytes3_eq]
    rfl
  | case4 => rfl

end Base64

end Unchain.Lib
