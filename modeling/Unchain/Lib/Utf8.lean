import Mathlib.Data.List.Infix

/-!
UTF-8 over lists of bytes.

`encode` writes a text. Reading goes one character at a time: `head` looks at the
front of a byte list and finds a character, a sequence that no continuation can
repair, or a sequence that is cut off. The strict decoder accepts nothing but
characters; the lenient one puts U+FFFD in the place of each bad sequence and can
hold a cut-off tail back, as an incremental decoder does; the skipping one leaves bad
sequences out.

Two facts carry the rest: `head` reads back an encoded character whatever follows
it (`head_encodeChar_append`), and what it reads is the encoding of what it returns
(`eq_of_head_char`).
-/

namespace Unchain.Lib.Utf8

abbrev Bytes := List UInt8

abbrev encodeChar (c : Char) : Bytes := String.utf8EncodeChar c

/-- `text.encode("utf-8")`. -/
def encode (cs : List Char) : Bytes := cs.flatMap encodeChar

/-- What a lead byte announces: the number of bytes that follow, the range of the
first of them, and the bits the lead byte itself contributes. -/
structure Lead where
  more : Nat
  low : Nat
  high : Nat
  bits : Nat

def lead? (b : Nat) : Option Lead :=
  if b < 0x80 then some ⟨0, 0x80, 0xBF, b⟩
  else if b < 0xC2 then none
  else if b < 0xE0 then some ⟨1, 0x80, 0xBF, b - 0xC0⟩
  else if b < 0xF0 then
    some ⟨2, if b = 0xE0 then 0xA0 else 0x80, if b = 0xED then 0x9F else 0xBF, b - 0xE0⟩
  else if b < 0xF5 then
    some ⟨3, if b = 0xF0 then 0x90 else 0x80, if b = 0xF4 then 0x8F else 0xBF, b - 0xF0⟩
  else none

/-- The front of a byte list: a character and what follows it, a bad sequence and
what follows it, or a sequence that ends too early. -/
inductive Head where
  | char (c : Char) (rest : Bytes)
  | invalid (rest : Bytes)
  | incomplete

/-- Read `more` continuation bytes, the first of them within `low` and `high`. -/
def tail : (more low high value : Nat) → Bytes → Head
  | 0, _, _, value, bs => .char (Char.ofNat value) bs
  | _ + 1, _, _, _, [] => .incomplete
  | more + 1, low, high, value, b :: bs =>
    if low ≤ b.toNat ∧ b.toNat ≤ high then
      tail more 0x80 0xBF (value * 64 + (b.toNat - 0x80)) bs
    else .invalid (b :: bs)

def head : Bytes → Head
  | [] => .incomplete
  | b :: bs =>
    match lead? b.toNat with
    | some l => tail l.more l.low l.high l.bits bs
    | none => .invalid bs

/-- The character that stands for a bad sequence. -/
def replacement : Char := '\uFFFD'

/-- The strict decoder; each round takes at least one byte, so the length is enough fuel. -/
def decodeStrict : (fuel : Nat) → Bytes → Option (List Char)
  | _, [] => some []
  | 0, _ :: _ => none
  | fuel + 1, b :: bs =>
    match head (b :: bs) with
    | .char c rest => (decodeStrict fuel rest).map (c :: ·)
    | .invalid _ => none
    | .incomplete => none

/-- `data.decode("utf-8")`. -/
def decode? (bs : Bytes) : Option (List Char) := decodeStrict bs.length bs

variable (final : Bool)

/-- The decoder with `errors="replace"`: the text, and the bytes of a cut-off tail it
holds back unless the input is final. -/
def decodeLenient (final : Bool) : (fuel : Nat) → Bytes → List Char × Bytes
  | _, [] => ([], [])
  | 0, b :: bs => ([], b :: bs)
  | fuel + 1, b :: bs =>
    match head (b :: bs) with
    | .char c rest =>
      let (text, held) := decodeLenient final fuel rest
      (c :: text, held)
    | .invalid rest =>
      let (text, held) := decodeLenient final fuel rest
      (replacement :: text, held)
    | .incomplete => if final then ([replacement], []) else ([], b :: bs)

/-- One call of the incremental decoder. -/
def decodeReplace (bs : Bytes) : List Char × Bytes :=
  decodeLenient final bs.length bs

/-- The decoder with `errors="ignore"`. -/
def decodeSkipping : (fuel : Nat) → Bytes → List Char
  | _, [] => []
  | 0, _ :: _ => []
  | fuel + 1, b :: bs =>
    match head (b :: bs) with
    | .char c rest => c :: decodeSkipping fuel rest
    | .invalid rest => decodeSkipping fuel rest
    | .incomplete => []

/-- `data.decode("utf-8", errors="ignore")`. -/
def decodeIgnore (bs : Bytes) : List Char := decodeSkipping bs.length bs

/-! ### One character -/

theorem length_encodeChar_pos (c : Char) : 0 < (encodeChar c).length := by
  rw [String.length_utf8EncodeChar]
  exact c.utf8Size_pos

theorem length_encodeChar_le (c : Char) : (encodeChar c).length ≤ 4 := by
  rw [String.length_utf8EncodeChar]
  exact c.utf8Size_le_four

/-- The bytes of a character, by its size. -/
theorem encodeChar_cases (c : Char) : (c.toNat < 0x80 ∧ encodeChar c = [UInt8.ofNat c.toNat]) ∨
    (0x80 ≤ c.toNat ∧ c.toNat < 0x800 ∧
      encodeChar c = [UInt8.ofNat (c.toNat / 64 + 0xC0), UInt8.ofNat (c.toNat % 64 + 0x80)]) ∨
    (0x800 ≤ c.toNat ∧ c.toNat < 0x10000 ∧ (c.toNat < 0xD800 ∨ 0xDFFF < c.toNat) ∧
      encodeChar c = [UInt8.ofNat (c.toNat / 4096 + 0xE0),
        UInt8.ofNat (c.toNat / 64 % 64 + 0x80), UInt8.ofNat (c.toNat % 64 + 0x80)]) ∨
    (0x10000 ≤ c.toNat ∧ c.toNat < 0x110000 ∧
      encodeChar c = [UInt8.ofNat (c.toNat / 262144 + 0xF0),
        UInt8.ofNat (c.toNat / 4096 % 64 + 0x80), UInt8.ofNat (c.toNat / 64 % 64 + 0x80),
        UInt8.ofNat (c.toNat % 64 + 0x80)]) := by
  have valid : c.toNat < 0xD800 ∨ (0xDFFF < c.toNat ∧ c.toNat < 0x110000) := c.valid
  have bytes : encodeChar c =
      if c.toNat ≤ 0x7F then [UInt8.ofNat c.toNat]
      else if c.toNat ≤ 0x7FF then
        [UInt8.ofNat (c.toNat / 64 % 0x20 + 0xC0), UInt8.ofNat (c.toNat % 0x40 + 0x80)]
      else if c.toNat ≤ 0xFFFF then
        [UInt8.ofNat (c.toNat / 4096 % 0x10 + 0xE0), UInt8.ofNat (c.toNat / 64 % 0x40 + 0x80),
          UInt8.ofNat (c.toNat % 0x40 + 0x80)]
      else
        [UInt8.ofNat (c.toNat / 262144 % 0x08 + 0xF0), UInt8.ofNat (c.toNat / 4096 % 0x40 + 0x80),
          UInt8.ofNat (c.toNat / 64 % 0x40 + 0x80), UInt8.ofNat (c.toNat % 0x40 + 0x80)] := rfl
  by_cases one : c.toNat ≤ 0x7F
  · rw [if_pos one] at bytes
    exact Or.inl ⟨by omega, bytes⟩
  rw [if_neg one] at bytes
  by_cases two : c.toNat ≤ 0x7FF
  · rw [if_pos two, Nat.mod_eq_of_lt (by omega : c.toNat / 64 < 0x20)] at bytes
    exact Or.inr (Or.inl ⟨by omega, by omega, bytes⟩)
  rw [if_neg two] at bytes
  by_cases three : c.toNat ≤ 0xFFFF
  · rw [if_pos three, Nat.mod_eq_of_lt (by omega : c.toNat / 4096 < 0x10)] at bytes
    exact Or.inr (Or.inr (Or.inl ⟨by omega, by omega, by omega, bytes⟩))
  rw [if_neg three, Nat.mod_eq_of_lt (by omega : c.toNat / 262144 < 0x08)] at bytes
  exact Or.inr (Or.inr (Or.inr ⟨by omega, by omega, bytes⟩))

variable {n : Nat}

theorem toNat_ofNat_of_lt (h : n < 256) : (UInt8.ofNat n).toNat = n := by
  rw [UInt8.toNat_ofNat']
  omega

/-- The bytes are continuation bytes, the first of them within `low` and `high`. -/
def Continues : (low high : Nat) → Bytes → Prop
  | _, _, [] => True
  | low, high, b :: bs => low ≤ b.toNat ∧ b.toNat ≤ high ∧ Continues 0x80 0xBF bs

def collect (value : Nat) (bs : Bytes) : Nat :=
  bs.foldl (fun v b => v * 64 + (b.toNat - 0x80)) value

variable {bs : Bytes} {high low : Nat}

theorem tail_append (fits : Continues low high bs) (value : Nat) (rest : Bytes) :
    tail bs.length low high value (bs ++ rest) = .char (Char.ofNat (collect value bs)) rest := by
  induction bs generalizing low high value with
  | nil => rfl
  | cons b bs ih =>
    obtain ⟨above, below, fits⟩ := fits
    simp only [List.length_cons, List.cons_append, tail]
    rw [if_pos ⟨above, below⟩, ih fits]
    simp only [collect, List.foldl_cons]

variable {more : Nat}

/-- Too few continuation bytes: the sequence is incomplete. -/
theorem tail_short (fits : Continues low high bs) (short : bs.length < more) (value : Nat) :
    tail more low high value bs = .incomplete := by
  induction bs generalizing more low high value with
  | nil =>
    cases more with
    | zero => simp at short
    | succ more => rfl
  | cons b bs ih =>
    obtain ⟨above, below, fits⟩ := fits
    cases more with
    | zero => simp at short
    | succ more =>
      simp only [tail]
      rw [if_pos ⟨above, below⟩]
      exact ih fits (by simpa using short) _

variable {p : Bytes}

theorem Continues.of_prefix (fits : Continues low high bs) (pre : p <+: bs) :
    Continues low high p := by
  induction p generalizing low high bs with
  | nil => trivial
  | cons b p ih =>
    obtain ⟨rest, rfl⟩ := pre
    obtain ⟨above, below, fits⟩ := fits
    exact ⟨above, below, ih fits ⟨rest, rfl⟩⟩

/-- An encoded character is a lead byte and the continuation bytes it announces. -/
theorem encodeChar_eq (c : Char) :
    ∃ b l bs, encodeChar c = b :: bs ∧ lead? b.toNat = some l ∧ l.more = bs.length ∧
      Continues l.low l.high bs ∧ collect l.bits bs = c.toNat := by
  obtain ⟨small, bytes⟩ | ⟨low, high, bytes⟩ | ⟨low, high, valid, bytes⟩ | ⟨low, high, bytes⟩ :=
    encodeChar_cases c
  · refine ⟨_, ⟨0, 0x80, 0xBF, c.toNat⟩, _, bytes, ?_, rfl, trivial, rfl⟩
    rw [toNat_ofNat_of_lt (by omega), lead?, if_pos small]
  · have n1 := toNat_ofNat_of_lt (by omega : c.toNat % 64 + 0x80 < 256)
    refine ⟨_, ⟨1, 0x80, 0xBF, c.toNat / 64⟩, _, bytes, ?_, rfl, ?_, ?_⟩
    · rw [toNat_ofNat_of_lt (by omega), lead?, if_neg (by omega), if_neg (by omega),
        if_pos (by omega), Nat.add_sub_cancel]
    · simp only [Continues, n1, and_true]
      omega
    · simp only [collect, List.foldl, n1]
      omega
  · have n1 := toNat_ofNat_of_lt (by omega : c.toNat / 64 % 64 + 0x80 < 256)
    have n2 := toNat_ofNat_of_lt (by omega : c.toNat % 64 + 0x80 < 256)
    refine ⟨_, ⟨2, if c.toNat / 4096 + 0xE0 = 0xE0 then 0xA0 else 0x80,
      if c.toNat / 4096 + 0xE0 = 0xED then 0x9F else 0xBF, c.toNat / 4096⟩, _, bytes, ?_, rfl,
      ?_, ?_⟩
    · rw [toNat_ofNat_of_lt (by omega), lead?, if_neg (by omega), if_neg (by omega),
        if_neg (by omega), if_pos (by omega), Nat.add_sub_cancel]
    · simp only [Continues, n1, n2, and_true]
      split <;> split <;> omega
    · simp only [collect, List.foldl, n1, n2]
      omega
  · have n1 := toNat_ofNat_of_lt (by omega : c.toNat / 4096 % 64 + 0x80 < 256)
    have n2 := toNat_ofNat_of_lt (by omega : c.toNat / 64 % 64 + 0x80 < 256)
    have n3 := toNat_ofNat_of_lt (by omega : c.toNat % 64 + 0x80 < 256)
    refine ⟨_, ⟨3, if c.toNat / 262144 + 0xF0 = 0xF0 then 0x90 else 0x80,
      if c.toNat / 262144 + 0xF0 = 0xF4 then 0x8F else 0xBF, c.toNat / 262144⟩, _, bytes, ?_, rfl,
      ?_, ?_⟩
    · rw [toNat_ofNat_of_lt (by omega), lead?, if_neg (by omega), if_neg (by omega),
        if_neg (by omega), if_neg (by omega), if_pos (by omega), Nat.add_sub_cancel]
    · simp only [Continues, n1, n2, n3, and_true]
      split <;> split <;> omega
    · simp only [collect, List.foldl, n1, n2, n3]
      omega

/-- An encoded character is read back, whatever follows it. -/
theorem head_encodeChar_append (c : Char) (rest : Bytes) :
    head (encodeChar c ++ rest) = .char c rest := by
  obtain ⟨b, l, bs, bytes, lead, more, fits, value⟩ := encodeChar_eq c
  rw [bytes]
  simp only [List.cons_append, head, lead]
  rw [more, tail_append fits, value, Char.ofNat_toNat]

variable {c : Char}

/-- A character cut off before its end is recognised as incomplete. -/
theorem head_of_cut (pre : p <+: encodeChar c) (short : p.length < (encodeChar c).length) :
    head p = .incomplete := by
  obtain ⟨b, l, bs, bytes, lead, more, fits, -⟩ := encodeChar_eq c
  rw [bytes] at pre short
  cases p with
  | nil => rfl
  | cons b' p =>
    obtain ⟨same, cut⟩ := List.cons_prefix_cons.mp pre
    subst same
    simp only [head, lead]
    apply tail_short (fits.of_prefix cut)
    simpa [more] using short

/-! ### What a reading says about the bytes -/

variable {rest : Bytes}

/-- A reading of continuation bytes took exactly the announced number of them. -/
theorem tail_eq_char {value : Nat} (h : tail more low high value bs = .char c rest) :
    ∃ taken, bs = taken ++ rest ∧ taken.length = more ∧ Continues low high taken ∧
      c = Char.ofNat (collect value taken) := by
  induction more generalizing low high value bs with
  | zero =>
    simp only [tail, Head.char.injEq] at h
    exact ⟨[], by simp [h.2], rfl, trivial, h.1.symm⟩
  | succ more ih =>
    cases bs with
    | nil => simp [tail] at h
    | cons b bs =>
      simp only [tail] at h
      split at h
      · rename_i range
        obtain ⟨taken, rfl, length, fits, value⟩ := ih h
        refine ⟨b :: taken, rfl, by simp [length], ⟨range.1, range.2, fits⟩, ?_⟩
        rw [value, collect, collect, List.foldl_cons]
      · cases h

variable {b : UInt8}

theorem ofNat_eq (h : b.toNat = n) : UInt8.ofNat n = b := by
  rw [← h, UInt8.ofNat_toNat]

theorem toNat_ofNat_char (h : n < 0xD800 ∨ (0xDFFF < n ∧ n < 0x110000)) :
    (Char.ofNat n).toNat = n := by
  unfold Char.ofNat
  rw [dif_pos h]
  rfl

theorem encodeChar_of_continues {l : Lead} (lead : lead? b.toNat = some l)
    (more : bs.length = l.more) (fits : Continues l.low l.high bs) :
    encodeChar (Char.ofNat (collect l.bits bs)) = b :: bs := by
  unfold lead? at lead
  split at lead
  · -- one byte
    cases lead
    obtain rfl := List.length_eq_zero_iff.mp more
    have value := toNat_ofNat_char (n := b.toNat) (by omega)
    obtain ⟨_, bytes⟩ | h | h | h := encodeChar_cases (Char.ofNat b.toNat)
    · simp only [collect, List.foldl_nil]
      rw [bytes, value, UInt8.ofNat_toNat]
    all_goals omega
  split at lead
  · cases lead
  split at lead
  · -- two bytes
    cases lead
    obtain ⟨b1, rfl⟩ := List.length_eq_one_iff.mp more
    simp only [Continues, and_true] at fits
    simp only [collect, List.foldl_cons, List.foldl_nil]
    generalize size : (b.toNat - 0xC0) * 64 + (b1.toNat - 0x80) = n
    have value := toNat_ofNat_char (n := n) (by omega)
    obtain h | ⟨_, _, bytes⟩ | h | h := encodeChar_cases (Char.ofNat n)
    · omega
    · rw [bytes, value, ofNat_eq (b := b) (by omega), ofNat_eq (b := b1) (by omega)]
    all_goals omega
  split at lead
  · -- three bytes
    cases lead
    obtain ⟨b1, b2, rfl⟩ := List.length_eq_two.mp more
    simp only [Continues, and_true] at fits
    simp only [collect, List.foldl_cons, List.foldl_nil]
    generalize size : ((b.toNat - 0xE0) * 64 + (b1.toNat - 0x80)) * 64 + (b2.toNat - 0x80) = n
    have range : 0x800 ≤ n ∧ n < 0x10000 ∧ (n < 0xD800 ∨ 0xDFFF < n) ∧
        0x80 ≤ b1.toNat ∧ b1.toNat ≤ 0xBF := by
      split at fits <;> split at fits <;> omega
    have value := toNat_ofNat_char (n := n) (by omega)
    obtain h | h | ⟨_, _, _, bytes⟩ | h := encodeChar_cases (Char.ofNat n)
    · omega
    · omega
    · rw [bytes, value, ofNat_eq (b := b) (by omega), ofNat_eq (b := b1) (by omega),
        ofNat_eq (b := b2) (by omega)]
    · omega
  split at lead
  · -- four bytes
    cases lead
    obtain ⟨b1, b2, b3, rfl⟩ := List.length_eq_three.mp more
    simp only [Continues, and_true] at fits
    simp only [collect, List.foldl_cons, List.foldl_nil]
    generalize size : (((b.toNat - 0xF0) * 64 + (b1.toNat - 0x80)) * 64 + (b2.toNat - 0x80)) * 64
      + (b3.toNat - 0x80) = n
    have range : 0x10000 ≤ n ∧ n < 0x110000 ∧ 0x80 ≤ b1.toNat ∧ b1.toNat ≤ 0xBF := by
      split at fits <;> split at fits <;> omega
    have value := toNat_ofNat_char (n := n) (by omega)
    obtain h | h | h | ⟨_, _, bytes⟩ := encodeChar_cases (Char.ofNat n)
    · omega
    · omega
    · omega
    · rw [bytes, value, ofNat_eq (b := b) (by omega), ofNat_eq (b := b1) (by omega),
        ofNat_eq (b := b2) (by omega), ofNat_eq (b := b3) (by omega)]
  · cases lead

/-- What `head` reads as a character is the encoding of that character. -/
theorem eq_of_head_char (h : head bs = .char c rest) : bs = encodeChar c ++ rest := by
  cases bs with
  | nil => simp [head] at h
  | cons b bs =>
    simp only [head] at h
    split at h
    · rename_i l lead
      obtain ⟨taken, rfl, more, fits, rfl⟩ := tail_eq_char h
      rw [encodeChar_of_continues lead more fits, List.cons_append]
    · cases h

/-! ### Texts -/

@[simp] theorem encode_nil : encode [] = [] := rfl

@[simp] theorem encode_cons (c : Char) (cs : List Char) :
    encode (c :: cs) = encodeChar c ++ encode cs := by
  simp [encode]

@[simp] theorem encode_append (cs ds : List Char) : encode (cs ++ ds) = encode cs ++ encode ds := by
  simp [encode]

theorem length_le_encode (cs : List Char) : cs.length ≤ (encode cs).length := by
  induction cs with
  | nil => simp
  | cons c cs ih =>
    have pos := length_encodeChar_pos c
    rw [encode_cons, List.length_append, List.length_cons]
    omega

theorem length_encode_le (cs : List Char) : (encode cs).length ≤ 4 * cs.length := by
  induction cs with
  | nil => simp
  | cons c cs ih =>
    have le := length_encodeChar_le c
    rw [encode_cons, List.length_append, List.length_cons]
    omega

theorem encodeChar_append_ne_nil (c : Char) (rest : Bytes) : encodeChar c ++ rest ≠ [] := by
  intro h
  have pos := length_encodeChar_pos c
  have length := congrArg List.length h
  rw [List.length_append, List.length_nil] at length
  omega

theorem encode_cons_append (c : Char) (cs : List Char) (p : Bytes) :
    ∃ b bs, encode (c :: cs) ++ p = b :: bs ∧ head (b :: bs) = .char c (encode cs ++ p) := by
  obtain ⟨b, bs, eq⟩ := List.exists_cons_of_ne_nil (encodeChar_append_ne_nil c (encode cs ++ p))
  refine ⟨b, bs, ?_, ?_⟩
  · rw [encode_cons, List.append_assoc, eq]
  · rw [← eq, head_encodeChar_append]

theorem encode_cons_eq (c : Char) (cs : List Char) :
    ∃ b bs, encode (c :: cs) = b :: bs ∧ head (b :: bs) = .char c (encode cs) := by
  simpa using encode_cons_append c cs []

variable {fuel : Nat}

theorem decodeStrict_encode (cs : List Char) (enough : cs.length ≤ fuel) :
    decodeStrict fuel (encode cs) = some cs := by
  induction cs generalizing fuel with
  | nil => cases fuel <;> rfl
  | cons c cs ih =>
    cases fuel with
    | zero => simp at enough
    | succ fuel =>
      obtain ⟨b, bs, eq, front⟩ := encode_cons_eq c cs
      rw [eq]
      simp only [decodeStrict, front]
      rw [ih (by simpa using enough), Option.map_some]

@[simp] theorem decode?_encode (cs : List Char) : decode? (encode cs) = some cs :=
  decodeStrict_encode cs (length_le_encode cs)

variable {cs : List Char}

theorem eq_of_decodeStrict (h : decodeStrict fuel bs = some cs) : bs = encode cs := by
  induction fuel generalizing bs cs with
  | zero =>
    cases bs with
    | nil =>
      simp only [decodeStrict, Option.some.injEq] at h
      rw [← h, encode_nil]
    | cons b bs => simp [decodeStrict] at h
  | succ fuel ih =>
    cases bs with
    | nil =>
      simp only [decodeStrict, Option.some.injEq] at h
      rw [← h, encode_nil]
    | cons b bs =>
      simp only [decodeStrict] at h
      split at h
      · rename_i c rest front
        obtain ⟨ds, rest_eq, rfl⟩ := Option.map_eq_some_iff.mp h
        rw [eq_of_head_char front, ih rest_eq, encode_cons]
      · cases h
      · cases h

/-- What the strict decoder accepts is the encoding of what it returns. -/
theorem eq_of_decode? (h : decode? bs = some cs) : bs = encode cs :=
  eq_of_decodeStrict h

variable {ds : List Char}

theorem encode_injective (h : encode cs = encode ds) : cs = ds := by
  have same := decode?_encode cs
  rw [h, decode?_encode] at same
  simpa using same.symm

/-! ### Texts that end inside a character -/

/-- The bytes of a character that is not complete yet; none of them at all is a cut too. -/
def Cut (p : Bytes) : Prop :=
  ∃ c, p <+: encodeChar c ∧ p.length < (encodeChar c).length

theorem cut_nil : Cut [] := ⟨'a', List.nil_prefix, length_encodeChar_pos 'a'⟩

theorem Cut.head (h : Cut p) : head p = .incomplete := by
  obtain ⟨c, pre, short⟩ := h
  exact head_of_cut pre short

/-- The text the lenient decoder gives a cut-off tail. -/
def cutText (p : Bytes) : List Char := if p = [] then [] else [replacement]

theorem decodeLenient_encode (cs : List Char) (cut : Cut p) (enough : cs.length + p.length ≤ fuel) :
    decodeLenient final fuel (encode cs ++ p) =
      (cs ++ if final then cutText p else [], if final then [] else p) := by
  induction cs generalizing fuel with
  | nil =>
    cases p with
    | nil => cases fuel <;> cases final <;> simp [decodeLenient, cutText]
    | cons b p =>
      cases fuel with
      | zero => simp at enough
      | succ fuel => cases final <;> simp [decodeLenient, cut.head, cutText]
  | cons c cs ih =>
    cases fuel with
    | zero => simp at enough
    | succ fuel =>
      obtain ⟨b, bs, eq, front⟩ := encode_cons_append c cs p
      rw [eq]
      simp only [decodeLenient, front]
      rw [ih (by simp at enough; omega)]
      simp

/-- The incremental decoder on a text that may end inside a character. -/
theorem decodeReplace_encode (cs : List Char) (cut : Cut p) :
    decodeReplace final (encode cs ++ p) =
      (cs ++ if final then cutText p else [], if final then [] else p) := by
  apply decodeLenient_encode final cs cut
  have le := length_le_encode cs
  rw [List.length_append]
  omega

theorem encode_cut_injective {q : Bytes} (hp : Cut p) (hq : Cut q)
    (same : encode cs ++ p = encode ds ++ q) : cs = ds ∧ p = q := by
  have left := decodeReplace_encode false cs hp
  rw [same, decodeReplace_encode false ds hq] at left
  simpa [eq_comm] using left

theorem Cut.length_lt (cut : Cut p) : p.length < 4 := by
  obtain ⟨c, -, short⟩ := cut
  exact Nat.lt_of_lt_of_le short (length_encodeChar_le c)

theorem Cut.not_char (cut : Cut (encodeChar c ++ rest)) : False := by
  have incomplete := cut.head
  rw [head_encodeChar_append] at incomplete
  cases incomplete

/-- What follows the bytes of a text, in the bytes of a text and a cut, is of this form too. -/
theorem exists_of_encode_append (cut : Cut p) (same : encode cs ++ rest = encode ds ++ p) :
    ∃ es, ds = cs ++ es ∧ rest = encode es ++ p := by
  induction cs generalizing ds with
  | nil => exact ⟨ds, rfl, by simpa using same⟩
  | cons c cs ih =>
    rw [encode_cons, List.append_assoc] at same
    cases ds with
    | nil =>
      rw [encode_nil, List.nil_append] at same
      rw [← same] at cut
      exact cut.not_char.elim
    | cons d ds =>
      have front := head_encodeChar_append c (encode cs ++ rest)
      rw [same, encode_cons, List.append_assoc, head_encodeChar_append] at front
      obtain ⟨rfl, onward⟩ := Head.char.inj front
      obtain ⟨es, rfl, eq⟩ := ih onward.symm
      exact ⟨es, rfl, eq⟩

/-- The first characters of a text, as many as have room. -/
def fitting : (room : Nat) → List Char → List Char
  | _, [] => []
  | room, c :: cs =>
    if (encodeChar c).length ≤ room then c :: fitting (room - (encodeChar c).length) cs else []

theorem fitting_prefix (room : Nat) (cs : List Char) : fitting room cs <+: cs := by
  induction cs generalizing room with
  | nil => exact List.prefix_rfl
  | cons c cs ih =>
    rw [fitting]
    split
    · exact List.cons_prefix_cons.mpr ⟨rfl, ih _⟩
    · exact List.nil_prefix

theorem length_fitting_le (room : Nat) (cs : List Char) :
    (encode (fitting room cs)).length ≤ room := by
  induction cs generalizing room with
  | nil => exact Nat.zero_le room
  | cons c cs ih =>
    rw [fitting]
    split
    · have rest := ih (room - (encodeChar c).length)
      rw [encode_cons, List.length_append]
      omega
    · exact Nat.zero_le room

theorem fitting_longest {room : Nat} (pre : ds <+: cs) (fits : (encode ds).length ≤ room) :
    ds <+: fitting room cs := by
  induction cs generalizing ds room with
  | nil => exact pre
  | cons c cs ih =>
    cases ds with
    | nil => exact List.nil_prefix
    | cons d ds =>
      obtain ⟨rfl, rest⟩ := List.cons_prefix_cons.mp pre
      rw [encode_cons, List.length_append] at fits
      rw [fitting, if_pos (by omega)]
      exact List.cons_prefix_cons.mpr ⟨rfl, ih rest (by omega)⟩

theorem fitting_eq_self {room : Nat} : fitting room cs = cs ↔ (encode cs).length ≤ room := by
  constructor
  · intro whole
    have fits := length_fitting_le room cs
    rwa [whole] at fits
  · intro fits
    exact ( fitting_prefix room cs).eq_of_length_le (fitting_longest List.prefix_rfl fits).length_le

/-- What follows a text is looked at only when the text has room as a whole. -/
theorem fitting_append (room : Nat) (cs ds : List Char) : fitting room (cs ++ ds) =
      if (encode cs).length ≤ room then cs ++ fitting (room - (encode cs).length) ds
      else fitting room cs := by
  induction cs generalizing room with
  | nil => simp
  | cons c cs ih =>
    rw [List.cons_append, fitting, fitting, ih, encode_cons, List.length_append]
    by_cases first : (encodeChar c).length ≤ room
    · rw [if_pos first, if_pos first, Nat.sub_sub]
      by_cases rest : (encodeChar c).length + (encode cs).length ≤ room
      · rw [if_pos (by omega), if_pos rest, List.cons_append]
      · rw [if_neg (by omega), if_neg rest]
    · rw [if_neg first, if_neg first, if_neg (by omega)]

/-- The first bytes of a text are the bytes of the characters that have room, and a cut. -/
theorem take_encode (cs : List Char) (cut : Cut p) (n : Nat) :
    ∃ q, (encode cs ++ p).take n = encode (fitting n cs) ++ q ∧ Cut q := by
  induction cs generalizing n with
  | nil =>
    obtain ⟨c, pre, short⟩ := cut
    refine ⟨p.take n, by simp [fitting], c, (List.take_prefix n p).trans pre, ?_⟩
    rw [List.length_take]
    omega
  | cons c cs ih =>
    rw [encode_cons, List.append_assoc, fitting]
    by_cases whole : (encodeChar c).length ≤ n
    · obtain ⟨q, eq, cut⟩ := ih (n - (encodeChar c).length)
      refine ⟨q, ?_, cut⟩
      rw [if_pos whole, encode_cons, List.append_assoc, List.take_append,
        List.take_of_length_le whole, eq]
    · refine ⟨(encodeChar c).take n, ?_, c, List.take_prefix n _, ?_⟩
      · rw [if_neg whole, List.take_append_of_le_length (by omega), encode_nil, List.nil_append]
      · rw [List.length_take]
        omega

theorem decodeSkipping_encode (cs : List Char) (cut : Cut p)
    (enough : cs.length + p.length ≤ fuel) : decodeSkipping fuel (encode cs ++ p) = cs := by
  induction cs generalizing fuel with
  | nil =>
    cases p with
    | nil => cases fuel <;> rfl
    | cons b p =>
      cases fuel with
      | zero => simp at enough
      | succ fuel => simp [decodeSkipping, cut.head]
  | cons c cs ih =>
    cases fuel with
    | zero => simp at enough
    | succ fuel =>
      obtain ⟨b, bs, eq, front⟩ := encode_cons_append c cs p
      rw [eq]
      simp only [decodeSkipping, front]
      rw [ih (by simp at enough; omega)]

/-- A text that may end inside a character, without that character. -/
theorem decodeIgnore_encode (cs : List Char) (cut : Cut p) :
    decodeIgnore (encode cs ++ p) = cs := by
  apply decodeSkipping_encode cs cut
  have le := length_le_encode cs
  rw [List.length_append]
  omega

/-- The first bytes of a text, without the character they break off in. -/
theorem decodeIgnore_take (cs : List Char) (n : Nat) :
    decodeIgnore ((encode cs).take n) = fitting n cs := by
  obtain ⟨q, eq, cut⟩ := take_encode cs cut_nil n
  rw [List.append_nil] at eq
  rw [eq, decodeIgnore_encode _ cut]

/-! ### Pieces of a byte stream -/

theorem tail_invalid {value : Nat} (h : tail more low high value bs = .invalid rest) :
    rest.length ≤ bs.length ∧
      ∀ ys, tail more low high value (bs ++ ys) = .invalid (rest ++ ys) := by
  induction more generalizing low high value bs with
  | zero => cases h
  | succ more ih =>
    cases bs with
    | nil => cases h
    | cons b bs =>
      rw [tail] at h
      simp only [List.cons_append, tail]
      split at h
      · rename_i within
        obtain ⟨shorter, later⟩ := ih h
        simp only [if_pos within]
        exact ⟨Nat.le_succ_of_le shorter, later⟩
      · rename_i outside
        cases h
        simp only [if_neg outside]
        exact ⟨Nat.le_refl _, fun _ => rfl⟩

/-- A bad sequence is bad whatever follows it. -/
theorem head_invalid (h : head bs = .invalid rest) :
    rest.length < bs.length ∧ ∀ ys, head (bs ++ ys) = .invalid (rest ++ ys) := by
  cases bs with
  | nil => cases h
  | cons b bs =>
    simp only [head, List.cons_append] at h ⊢
    split at h
    · rename_i l lead
      obtain ⟨shorter, later⟩ := tail_invalid h
      exact ⟨Nat.lt_succ_of_le shorter, later⟩
    · cases h
      exact ⟨Nat.lt_succ_self _, fun _ => rfl⟩

theorem head_char (h : head bs = .char c rest) :
    rest.length < bs.length ∧ ∀ ys, head (bs ++ ys) = .char c (rest ++ ys) := by
  obtain rfl := eq_of_head_char h
  constructor
  · have positive := length_encodeChar_pos c
    rw [List.length_append]
    omega
  · intro ys
    rw [List.append_assoc, head_encodeChar_append]

/-- The lenient decoder takes at least one byte a round. -/
theorem decodeLenient_fuel {fuel fuel' : Nat} (enough : bs.length ≤ fuel)
    (enough' : bs.length ≤ fuel') : decodeLenient final fuel bs = decodeLenient final fuel' bs := by
  induction fuel generalizing bs fuel' with
  | zero =>
    obtain rfl := List.length_eq_zero_iff.mp (Nat.le_zero.mp enough)
    cases fuel' <;> rfl
  | succ fuel ih =>
    cases bs with
    | nil => cases fuel' <;> rfl
    | cons b bs =>
      obtain _ | fuel' := fuel'
      · cases enough'
      · have onward {rest : Bytes} (shorter : rest.length < (b :: bs).length) :
            decodeLenient final fuel rest = decodeLenient final fuel' rest := by
          exact ih (by omega) (by omega)
        simp only [decodeLenient]
        cases front : head (b :: bs) with
        | char c rest => simp only [onward (head_char front).1]
        | invalid rest => simp only [onward (head_invalid front).1]
        | incomplete => rfl

theorem decodeReplace_cons (b : UInt8) (bs : Bytes) : decodeReplace final (b :: bs) =
      match head (b :: bs) with
      | .char c rest => (c :: (decodeReplace final rest).1, (decodeReplace final rest).2)
      | .invalid rest => (replacement :: (decodeReplace final rest).1, (decodeReplace final rest).2)
      | .incomplete => if final then ([replacement], []) else ([], b :: bs) := by
  have onward {rest : Bytes} (shorter : rest.length < (b :: bs).length) :
      decodeLenient final bs.length rest = decodeReplace final rest :=
    decodeLenient_fuel final (Nat.le_of_lt_succ shorter) (Nat.le_refl _)
  rw [decodeReplace, List.length_cons]
  simp only [decodeLenient]
  cases front : head (b :: bs) with
  | char c rest => simp only [onward (head_char front).1]
  | invalid rest => simp only [onward (head_invalid front).1]
  | incomplete => rfl

/-- A stream may be decoded in pieces: what one piece holds back is put before the next. -/
theorem decodeReplace_append (bs ys : Bytes) : decodeReplace final (bs ++ ys) =
      ((decodeReplace false bs).1 ++ (decodeReplace final ((decodeReplace false bs).2 ++ ys)).1,
        (decodeReplace final ((decodeReplace false bs).2 ++ ys)).2) := by
  induction size : bs.length using Nat.strong_induction_on generalizing bs with
  | _ n ih =>
    cases bs with
    | nil => rfl
    | cons b bs =>
      rw [List.cons_append, decodeReplace_cons, decodeReplace_cons, ← List.cons_append]
      cases front : head (b :: bs) with
      | char c rest =>
        obtain ⟨shorter, later⟩ := head_char front
        rw [later]
        dsimp only
        rw [ih _ (size ▸ shorter) rest rfl, List.cons_append]
      | invalid rest =>
        obtain ⟨shorter, later⟩ := head_invalid front
        rw [later]
        dsimp only
        rw [ih _ (size ▸ shorter) rest rfl, List.cons_append]
      | incomplete =>
        simp only [Bool.false_eq_true, if_false, List.nil_append]
        rw [List.cons_append, decodeReplace_cons]

/-! ### Digests of byte strings -/

/-- No two of the byte strings have the same digest. -/
def CollisionFree (sha256 : Bytes → String) (hashed : List Bytes) : Prop :=
  ∀ a ∈ hashed, ∀ b ∈ hashed, sha256 a = sha256 b → a = b

end Unchain.Lib.Utf8
