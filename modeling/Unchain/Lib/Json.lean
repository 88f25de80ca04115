import Mathlib.Data.Nat.Digits.Lemmas

/-!
JSON texts: a compact writer and a reader.

The writer prints a value without blanks, with the short escapes for the characters that
have one and `\u00XX` for the other control characters; everything else stands for
itself. `sorted` puts the members of every object in the order of their names, which
makes the text canonical. The reader accepts the whole grammar and keeps the members of
an object as a list of pairs, repeated names included.

The reader reads back what the writer wrote for a value whose numbers are integers
(`read_write`).
-/

namespace Unchain.Lib

/-- A JSON value. Numbers that are not integers are kept as they are written. -/
inductive Json where
  | null
  | bool (b : Bool)
  | int (n : Int)
  | num (text : List Char)
  | str (text : List Char)
  | arr (items : List Json)
  | obj (members : List (List Char × Json))

namespace Json

/-! ### Writing -/

def digitChar (d : Nat) : Char := Char.ofNat (0x30 + d)

/-- A natural number in decimal. -/
def natText (n : Nat) : List Char :=
  if n = 0 then ['0'] else ((Nat.digits 10 n).map digitChar).reverse

def intText : Int → List Char
  | .ofNat n => natText n
  | .negSucc n => '-' :: natText (n + 1)

/-- One hexadecimal digit. -/
def hexChar (d : Nat) : Char := if d < 10 then Char.ofNat (0x30 + d) else Char.ofNat (0x57 + d)

def escapeChar (c : Char) : List Char :=
  if c = '"' then ['\\', '"']
  else if c = '\\' then ['\\', '\\']
  else if c = '\n' then ['\\', 'n']
  else if c = '\r' then ['\\', 'r']
  else if c = '\t' then ['\\', 't']
  else if c = '\x0c' then ['\\', 'f']
  else if c = '\x08' then ['\\', 'b']
  else if c.toNat < 0x20 then ['\\', 'u', '0', '0', hexChar (c.toNat / 16), hexChar (c.toNat % 16)]
  else [c]

def escape (text : List Char) : List Char := text.flatMap escapeChar

def quote (text : List Char) : List Char := '"' :: (escape text ++ ['"'])

def commas : List (List Char) → List Char
  | [] => []
  | [piece] => piece
  | piece :: rest => piece ++ ',' :: commas rest

mutual

/-- `json.dumps` with compact separators. -/
def write : Json → List Char
  | .null => "null".toList
  | .bool b => if b then "true".toList else "false".toList
  | .int n => intText n
  | .num text => text
  | .str text => quote text
  | .arr items => '[' :: (commas (writeItems items) ++ [']'])
  | .obj members => '{' :: (commas (writeMembers members) ++ ['}'])

def writeItems : List Json → List (List Char)
  | [] => []
  | item :: items => write item :: writeItems items

def writeMembers : List (List Char × Json) → List (List Char)
  | [] => []
  | (name, value) :: members => (quote name ++ ':' :: write value) :: writeMembers members

end

/-- The names of two members in order of code points. -/
def NameLE (a b : List Char × Json) : Prop := String.ofList a.1 ≤ String.ofList b.1

instance : DecidableRel NameLE := fun a b =>
  inferInstanceAs (Decidable (String.ofList a.1 ≤ String.ofList b.1))

mutual

/-- The value with the members of every object in order (`sort_keys=True`). -/
def sorted : Json → Json
  | .arr items => .arr (sortedItems items)
  | .obj members => .obj ((sortedMembers members).insertionSort NameLE)
  | other => other

def sortedItems : List Json → List Json
  | [] => []
  | item :: items => sorted item :: sortedItems items

def sortedMembers : List (List Char × Json) → List (List Char × Json)
  | [] => []
  | (name, value) :: members => (name, sorted value) :: sortedMembers members

end

/-- The canonical text of a value. -/
def canonical (v : Json) : List Char := write (sorted v)

/-! ### Reading -/

def isBlank (c : Char) : Bool := c = ' ' || c = '\t' || c = '\n' || c = '\r'

def skipBlanks (cs : List Char) : List Char := cs.dropWhile isBlank

def isDigit (c : Char) : Bool := 0x30 ≤ c.toNat && c.toNat ≤ 0x39

def hexValue? (c : Char) : Option Nat :=
  if isDigit c then some (c.toNat - 0x30)
  else if 0x61 ≤ c.toNat && c.toNat ≤ 0x66 then some (c.toNat - 0x57)
  else if 0x41 ≤ c.toNat && c.toNat ≤ 0x46 then some (c.toNat - 0x37)
  else none

def hex4? (a b c d : Char) : Option Nat := do
  return (← hexValue? a) * 4096 + (← hexValue? b) * 256 + (← hexValue? c) * 16 + (← hexValue? d)

/-- The character behind a one-letter escape. -/
def shortEscape? (c : Char) : Option Char :=
  if c = '"' ∨ c = '\\' ∨ c = '/' then some c
  else if c = 'b' then some '\x08'
  else if c = 'f' then some '\x0c'
  else if c = 'n' then some '\n'
  else if c = 'r' then some '\r'
  else if c = 't' then some '\t'
  else none

/-- The rest of a text after its opening quote, and what follows the closing one. A
`\u` escape of a lone surrogate is refused: no text holds one. -/
def scanString : List Char → Option (List Char × List Char)
  | [] => none
  | '"' :: cs => some ([], cs)
  | '\\' :: 'u' :: a :: b :: c :: d :: cs =>
    match hex4? a b c d with
    | none => none
    | some high =>
      if 0xD800 ≤ high ∧ high < 0xDC00 then
        match cs with
        | '\\' :: 'u' :: a :: b :: c :: d :: cs =>
          match hex4? a b c d with
          | none => none
          | some low =>
            if 0xDC00 ≤ low ∧ low < 0xE000 then
              (scanString cs).map fun r =>
                (Char.ofNat (0x10000 + (high - 0xD800) * 1024 + (low - 0xDC00)) :: r.1, r.2)
            else none
        | _ => none
      else if 0xDC00 ≤ high ∧ high < 0xE000 then none
      else (scanString cs).map fun r => (Char.ofNat high :: r.1, r.2)
  | '\\' :: e :: cs =>
    match shortEscape? e with
    | none => none
    | some c => (scanString cs).map fun r => (c :: r.1, r.2)
  | c :: cs => if c.toNat < 0x20 then none else (scanString cs).map fun r => (c :: r.1, r.2)

def digitsValue (cs : List Char) : Nat := cs.foldl (fun n c => n * 10 + (c.toNat - 0x30)) 0

/-- The integer part of a number: `0`, or digits that do not start with `0`. -/
def readNat (cs : List Char) : Option (Nat × List Char) :=
  match cs with
  | '0' :: rest => some (0, rest)
  | _ =>
    let digits := cs.takeWhile isDigit
    if digits.isEmpty then none else some (digitsValue digits, cs.dropWhile isDigit)

/-- The fraction and the exponent of a number, if any. -/
def readFraction (cs : List Char) : List Char × List Char :=
  match cs with
  | '.' :: rest =>
    let digits := rest.takeWhile isDigit
    if digits.isEmpty then ([], cs) else ('.' :: digits, rest.dropWhile isDigit)
  | _ => ([], cs)

def readExponent (cs : List Char) : List Char × List Char :=
  match cs with
  | e :: rest =>
    if e = 'e' ∨ e = 'E' then
      let (sign, rest') := match rest with
        | '+' :: r => (['+'], r)
        | '-' :: r => (['-'], r)
        | r => ([], r)
      let digits := rest'.takeWhile isDigit
      if digits.isEmpty then ([], cs) else (e :: sign ++ digits, rest'.dropWhile isDigit)
    else ([], cs)
  | [] => ([], cs)

def readUnsigned (negative : Bool) (cs : List Char) : Option (Json × List Char) :=
  match readNat cs with
  | none => none
  | some (n, rest) =>
    let (fraction, rest) := readFraction rest
    let (exponent, rest) := readExponent rest
    if fraction.isEmpty && exponent.isEmpty then
      some (.int (if negative then -(n : Int) else n), rest)
    else
      some (.num ((if negative then ['-'] else []) ++ natText n ++ fraction ++ exponent), rest)

def readNumber (cs : List Char) : Option (Json × List Char) :=
  match cs with
  | '-' :: rest => readUnsigned true rest
  | _ => readUnsigned false cs

/-- `cs` without the word it starts with. -/
def dropWord? (word cs : List Char) : Option (List Char) :=
  if word.isPrefixOf cs then some (cs.drop word.length) else none

mutual

/-- One value at the front of a text, in `fuel` nested rounds at most. -/
def readValue : (fuel : Nat) → List Char → Option (Json × List Char)
  | 0, _ => none
  | fuel + 1, cs =>
    match cs with
    | '"' :: rest => (scanString rest).map fun r => (.str r.1, r.2)
    | '{' :: rest =>
      match skipBlanks rest with
      | '}' :: rest => some (.obj [], rest)
      | rest => (readMembers fuel rest).map fun r => (.obj r.1, r.2)
    | '[' :: rest =>
      match skipBlanks rest with
      | ']' :: rest => some (.arr [], rest)
      | rest => (readItems fuel rest).map fun r => (.arr r.1, r.2)
    | _ =>
      match dropWord? "null".toList cs, dropWord? "true".toList cs, dropWord? "false".toList cs with
      | some rest, _, _ => some (.null, rest)
      | _, some rest, _ => some (.bool true, rest)
      | _, _, some rest => some (.bool false, rest)
      | _, _, _ =>
        match dropWord? "NaN".toList cs, dropWord? "Infinity".toList cs,
            dropWord? "-Infinity".toList cs with
        | some rest, _, _ => some (.num "NaN".toList, rest)
        | _, some rest, _ => some (.num "Infinity".toList, rest)
        | _, _, some rest => some (.num "-Infinity".toList, rest)
        | _, _, _ => readNumber cs

/-- The items of an array up to its closing bracket. -/
def readItems : (fuel : Nat) → List Char → Option (List Json × List Char)
  | 0, _ => none
  | fuel + 1, cs =>
    match readValue fuel cs with
    | none => none
    | some (item, rest) =>
      match skipBlanks rest with
      | ',' :: rest => (readItems fuel (skipBlanks rest)).map fun r => (item :: r.1, r.2)
      | ']' :: rest => some ([item], rest)
      | _ => none

/-- The members of an object up to its closing brace. -/
def readMembers : (fuel : Nat) → List Char → Option (List (List Char × Json) × List Char)
  | 0, _ => none
  | fuel + 1, cs =>
    match cs with
    | '"' :: rest =>
      match scanString rest with
      | none => none
      | some (name, rest) =>
        match skipBlanks rest with
        | ':' :: rest =>
          match readValue fuel (skipBlanks rest) with
          | none => none
          | some (value, rest) =>
            match skipBlanks rest with
            | ',' :: rest =>
              (readMembers fuel (skipBlanks rest)).map fun r =>
                ((name, value) :: r.1, r.2)
            | '}' :: rest => some ([(name, value)], rest)
            | _ => none
        | _ => none
    | _ => none

end

/-- `json.loads`: one value, with nothing but blanks around it. Every round of the reader
takes a character, so twice the length is enough fuel. -/
def read (cs : List Char) : Option Json :=
  match readValue (2 * cs.length + 1) (skipBlanks cs) with
  | some (v, rest) => if (skipBlanks rest).isEmpty then some v else none
  | none => none

/-! ### The reader reads back what was written -/

theorem escapeChar_cases (c : Char) :
    (∃ e, e ≠ 'u' ∧ escapeChar c = ['\\', e] ∧ shortEscape? e = some c) ∨
    (c.toNat < 0x20 ∧ escapeChar c =
      ['\\', 'u', '0', '0', hexChar (c.toNat / 16), hexChar (c.toNat % 16)]) ∨
    (0x20 ≤ c.toNat ∧ c ≠ '"' ∧ c ≠ '\\' ∧ escapeChar c = [c]) := by
  unfold escapeChar
  split
  · subst_vars; exact Or.inl ⟨'"', by decide, rfl, rfl⟩
  split
  · subst_vars; exact Or.inl ⟨'\\', by decide, rfl, rfl⟩
  split
  · subst_vars; exact Or.inl ⟨'n', by decide, rfl, rfl⟩
  split
  · subst_vars; exact Or.inl ⟨'r', by decide, rfl, rfl⟩
  split
  · subst_vars; exact Or.inl ⟨'t', by decide, rfl, rfl⟩
  split
  · subst_vars; exact Or.inl ⟨'f', by decide, rfl, rfl⟩
  split
  · subst_vars; exact Or.inl ⟨'b', by decide, rfl, rfl⟩
  split
  · rename_i small
    exact Or.inr (Or.inl ⟨small, rfl⟩)
  · rename_i quoteNe slashNe _ _ _ _ _ small
    exact Or.inr (Or.inr ⟨by omega, quoteNe, slashNe, rfl⟩)

theorem hex4_control : ∀ n < 0x20, hex4? '0' '0' (hexChar (n / 16)) (hexChar (n % 16)) = some n := by
  decide

/-- One escaped character is read as that character. -/
theorem scanString_escapeChar (c : Char) (cs : List Char) :
    scanString (escapeChar c ++ cs) = (scanString cs).map fun r => (c :: r.1, r.2) := by
  obtain ⟨e, notU, eq, short⟩ | ⟨small, eq⟩ | ⟨large, quoteNe, slashNe, eq⟩ := escapeChar_cases c
  · rw [eq]
    simp only [List.cons_append, List.nil_append]
    rw [scanString]
    · simp only [short]
    · intro a b c d rest same _
      exact notU same
  · rw [eq]
    simp only [List.cons_append, List.nil_append]
    rw [scanString, hex4_control _ small]
    simp only
    rw [if_neg (by omega), if_neg (by omega), Char.ofNat_toNat]
  · rw [eq]
    simp only [List.cons_append, List.nil_append]
    rw [scanString]
    · rw [if_neg (by omega)]
    · exact quoteNe
    · intro a b c d e same _
      exact slashNe same
    · intro e rest same _
      exact slashNe same

/-- The reader reads back a quoted text. -/
theorem scanString_escape (text rest : List Char) :
    scanString (escape text ++ '"' :: rest) = some (text, rest) := by
  induction text with
  | nil => simp [escape, scanString]
  | cons c text ih =>
    have step : escape (c :: text) ++ '"' :: rest = escapeChar c ++ (escape text ++ '"' :: rest) := by
      simp [escape]
    rw [step, scanString_escapeChar, ih, Option.map_some]

variable {d : Nat}

theorem toNat_digitChar (h : d < 10) : (digitChar d).toNat = 0x30 + d := by
  unfold digitChar Char.ofNat
  rw [dif_pos (by unfold Nat.isValidChar; omega)]
  rfl

theorem isDigit_digitChar (h : d < 10) : isDigit (digitChar d) = true := by
  simp only [isDigit, toNat_digitChar h, Bool.and_eq_true, decide_eq_true_eq]
  omega

theorem natText_ne_nil (n : Nat) : natText n ≠ [] := by
  unfold natText
  split
  · simp
  · rename_i pos
    simp [Nat.digits_ne_nil_iff_ne_zero.mpr pos]

theorem all_digits_natText (n : Nat) : ∀ c ∈ natText n, isDigit c = true := by
  intro c mem
  unfold natText at mem
  split at mem
  · simp only [List.mem_singleton] at mem
    rw [mem]
    rfl
  · rw [List.mem_reverse, List.mem_map] at mem
    obtain ⟨d, inDigits, rfl⟩ := mem
    exact isDigit_digitChar (Nat.digits_lt_base (by omega) inDigits)

variable {n : Nat}

/-- A smaller number has no more digits. -/
theorem length_natText_mono {m : Nat} (le : m ≤ n) : (natText m).length ≤ (natText n).length := by
  by_cases zero : m = 0
  · rw [zero]
    exact List.length_pos_iff.mpr (natText_ne_nil n)
  · have notZero : n ≠ 0 := by omega
    rw [natText, natText, if_neg zero, if_neg notZero]
    simpa using Nat.le_length_digits_le 10 m n le

theorem digitsValue_map (ds : List Nat) (small : ∀ d ∈ ds, d < 10) :
    digitsValue (ds.map digitChar).reverse = Nat.ofDigits 10 ds := by
  induction ds with
  | nil => rfl
  | cons d ds ih =>
    have here := toNat_digitChar (small d List.mem_cons_self)
    have rest := ih fun e mem => small e (List.mem_cons_of_mem d mem)
    rw [List.map_cons, List.reverse_cons, digitsValue, List.foldl_append, ← digitsValue, rest]
    simp only [List.foldl_cons, List.foldl_nil, here, Nat.ofDigits_cons]
    omega

theorem digitsValue_natText (n : Nat) : digitsValue (natText n) = n := by
  unfold natText
  split
  · rename_i zero
    rw [zero]
    rfl
  · rw [digitsValue_map _ fun d mem => Nat.digits_lt_base (by omega) mem, Nat.ofDigits_digits]

/-- The text of a positive number does not start with `0`. -/
theorem natText_head (pos : n ≠ 0) : ∃ c cs, natText n = c :: cs ∧ c ≠ '0' := by
  have ne := (Nat.digits_ne_nil_iff_ne_zero (b := 10)).mpr pos
  refine ⟨digitChar ((Nat.digits 10 n).getLast ne),
    ((Nat.digits 10 n).dropLast.map digitChar).reverse, ?_, ?_⟩
  · rw [natText, if_neg pos]
    conv_lhs => rw [← List.dropLast_append_getLast ne]
    simp
  · intro zero
    have small : (Nat.digits 10 n).getLast ne < 10 :=
      Nat.digits_lt_base (by omega) (List.getLast_mem ne)
    have value := toNat_digitChar small
    rw [zero] at value
    have last := Nat.getLast_digit_ne_zero 10 pos
    have : '0'.toNat = 0x30 := rfl
    omega

/-- The text after a number does not go on with a digit. -/
def NoDigit (cs : List Char) : Prop := ∀ c rest, cs = c :: rest → isDigit c = false

variable {cs : List Char}

theorem takeWhile_append_of_noDigit {ds : List Char} (digits : ∀ c ∈ ds, isDigit c = true)
    (stop : NoDigit cs) :
    (ds ++ cs).takeWhile isDigit = ds ∧ (ds ++ cs).dropWhile isDigit = cs := by
  induction ds with
  | nil =>
    cases cs with
    | nil => simp
    | cons c cs => simp [stop c cs rfl]
  | cons d ds ih =>
    obtain ⟨take, drop⟩ := ih fun c mem => digits c (List.mem_cons_of_mem d mem)
    have here := digits d List.mem_cons_self
    rw [List.cons_append, List.takeWhile_cons_of_pos here, List.dropWhile_cons_of_pos here]
    exact ⟨by rw [take], drop⟩

/-- The reader reads back a number. -/
theorem readNat_natText (n : Nat) (stop : NoDigit cs) :
    readNat (natText n ++ cs) = some (n, cs) := by
  by_cases zero : n = 0
  · rw [zero]
    rfl
  obtain ⟨c, rest, eq, notZero⟩ := natText_head zero
  obtain ⟨take, drop⟩ := takeWhile_append_of_noDigit (all_digits_natText n) stop
  have value := digitsValue_natText n
  rw [eq] at take drop value ⊢
  unfold readNat
  split
  · rename_i same
    cases same
    exact absurd rfl notZero
  · simp only [take, drop, value]
    simp

/-- What may follow a value inside a text: nothing, or the mark that ends an item. -/
def Ends (cs : List Char) : Prop := ∀ c rest, cs = c :: rest → c = ',' ∨ c = ']' ∨ c = '}'

theorem Ends.noDigit (h : Ends cs) : NoDigit cs := by
  intro c rest eq
  obtain rfl | rfl | rfl := h c rest eq <;> rfl

theorem Ends.readFraction (h : Ends cs) : readFraction cs = ([], cs) := by
  unfold Json.readFraction
  split
  · rename_i rest
    have := h '.' rest rfl
    simp at this
  · rfl

theorem Ends.readExponent (h : Ends cs) : readExponent cs = ([], cs) := by
  unfold Json.readExponent
  split
  · rename_i e rest
    have plain : ¬ (e = 'e' ∨ e = 'E') := by
      obtain rfl | rfl | rfl := h e rest rfl <;> decide
    rw [if_neg plain]
  · rfl

theorem Ends.comma (cs : List Char) : Ends (',' :: cs) := by
  intro c rest eq
  cases eq
  exact Or.inl rfl

theorem Ends.bracket (cs : List Char) : Ends (']' :: cs) := by
  intro c rest eq
  cases eq
  exact Or.inr (Or.inl rfl)

theorem Ends.brace (cs : List Char) : Ends ('}' :: cs) := by
  intro c rest eq
  cases eq
  exact Or.inr (Or.inr rfl)

theorem Ends.nil : Ends [] := by
  intro c rest eq
  cases eq

theorem readUnsigned_natText (negative : Bool) (n : Nat) (ends : Ends cs) :
    readUnsigned negative (natText n ++ cs) =
      some (.int (if negative then -(n : Int) else n), cs) := by
  unfold readUnsigned
  rw [readNat_natText n ends.noDigit]
  simp only [ends.readFraction, ends.readExponent, List.isEmpty_nil, Bool.and_self, if_true]

theorem natText_cons (n : Nat) : ∃ c cs, natText n = c :: cs ∧ isDigit c = true := by
  obtain ⟨c, cs, eq⟩ := List.exists_cons_of_ne_nil (natText_ne_nil n)
  exact ⟨c, cs, eq, all_digits_natText n c (by rw [eq]; exact List.mem_cons_self)⟩

variable {c : Char}

/-- The marks and letters a value that is not a number starts with. -/
theorem digit_ne (digit : isDigit c = true) :
    c ≠ '"' ∧ c ≠ '{' ∧ c ≠ '[' ∧ c ≠ 'n' ∧ c ≠ 't' ∧ c ≠ 'f' ∧ c ≠ 'N' ∧ c ≠ 'I' ∧ c ≠ '-' := by
  refine ⟨?_, ?_, ?_, ?_, ?_, ?_, ?_, ?_, ?_⟩ <;>
  · rintro rfl
    exact absurd digit (by decide)

/-- The reader reads back an integer. -/
theorem readNumber_intText (n : Int) (ends : Ends cs) :
    readNumber (intText n ++ cs) = some (.int n, cs) := by
  cases n with
  | ofNat n =>
    obtain ⟨c, ds, text, digit⟩ := natText_cons n
    have read := readUnsigned_natText false n ends
    simp only [intText]
    rw [text, List.cons_append] at read ⊢
    rw [readNumber, read]
    · rfl
    · intro rest eq
      cases eq
      exact absurd digit (by decide)
  | negSucc n =>
    rw [intText, List.cons_append, readNumber, readUnsigned_natText true (n + 1) ends]
    rfl

theorem dropWord?_of_ne {w : Char} {ws : List Char} (ne : c ≠ w) :
    dropWord? (w :: ws) (c :: cs) = none := by
  simp [dropWord?, List.isPrefixOf, Ne.symm ne]

theorem readValue_digit (fuel : Nat) (digit : isDigit c = true) :
    readValue (fuel + 1) (c :: cs) = readNumber (c :: cs) := by
  obtain ⟨h1, h2, h3, h4, h5, h6, h7, h8, h9⟩ := digit_ne digit
  rw [readValue]
  · simp only [show "null".toList = ['n', 'u', 'l', 'l'] from rfl,
      show "true".toList = ['t', 'r', 'u', 'e'] from rfl,
      show "false".toList = ['f', 'a', 'l', 's', 'e'] from rfl,
      show "NaN".toList = ['N', 'a', 'N'] from rfl,
      show "Infinity".toList = ['I', 'n', 'f', 'i', 'n', 'i', 't', 'y'] from rfl,
      show "-Infinity".toList = ['-', 'I', 'n', 'f', 'i', 'n', 'i', 't', 'y'] from rfl,
      dropWord?_of_ne h4, dropWord?_of_ne h5, dropWord?_of_ne h6, dropWord?_of_ne h7,
      dropWord?_of_ne h8, dropWord?_of_ne h9]
  · exact fun rest eq => by cases eq; exact h1 rfl
  · exact fun rest eq => by cases eq; exact h2 rfl
  · exact fun rest eq => by cases eq; exact h3 rfl

theorem readValue_minus (fuel : Nat) (digit : isDigit c = true) :
    readValue (fuel + 1) ('-' :: c :: cs) = readNumber ('-' :: c :: cs) := by
  obtain ⟨-, -, -, -, -, -, -, h8, -⟩ := digit_ne digit
  have infinity : dropWord? "-Infinity".toList ('-' :: c :: cs) = none := by
    simp [dropWord?, List.isPrefixOf, Ne.symm h8]
  rw [readValue]
  · rw [infinity]
    rfl
  · exact fun rest eq => by cases eq
  · exact fun rest eq => by cases eq
  · exact fun rest eq => by cases eq

theorem readValue_intText (fuel : Nat) (n : Int) (ends : Ends cs) :
    readValue (fuel + 1) (intText n ++ cs) = some (.int n, cs) := by
  rw [← readNumber_intText n ends]
  cases n with
  | ofNat n =>
    obtain ⟨c, ds, text, digit⟩ := natText_cons n
    rw [intText, text, List.cons_append, readValue_digit fuel digit]
  | negSucc n =>
    obtain ⟨c, ds, text, digit⟩ := natText_cons (n + 1)
    rw [intText, text, List.cons_append, List.cons_append, readValue_minus fuel digit]

mutual

/-- A value whose numbers are integers. -/
def Plain : Json → Prop
  | .num _ => False
  | .arr items => PlainItems items
  | .obj members => PlainMembers members
  | _ => True

def PlainItems : List Json → Prop
  | [] => True
  | item :: items => Plain item ∧ PlainItems items

def PlainMembers : List (List Char × Json) → Prop
  | [] => True
  | (_, value) :: members => Plain value ∧ PlainMembers members

end

/-- The text of a value starts with a character that is no blank and closes nothing. -/
def Opens (cs : List Char) : Prop :=
  ∃ c rest, cs = c :: rest ∧ isBlank c = false ∧ c ≠ ']' ∧ c ≠ '}'

variable {v : Json}

theorem opens_write (plain : Plain v) : Opens (write v) := by
  cases v with
  | null => exact ⟨'n', _, rfl, rfl, by decide, by decide⟩
  | bool b =>
    cases b with
    | false => exact ⟨'f', _, rfl, rfl, by decide, by decide⟩
    | true => exact ⟨'t', _, rfl, rfl, by decide, by decide⟩
  | int n =>
    cases n with
    | ofNat n =>
      obtain ⟨c, cs, eq, digit⟩ := natText_cons n
      refine ⟨c, cs, by rw [write, intText, eq], ?_, ?_, ?_⟩
      · revert digit
        simp only [isDigit, isBlank, Bool.and_eq_true, decide_eq_true_eq]
        rintro ⟨low, -⟩
        simp only [Bool.or_eq_false_iff, decide_eq_false_iff_not]
        refine ⟨⟨⟨?_, ?_⟩, ?_⟩, ?_⟩ <;>
        · rintro rfl
          exact absurd low (by decide)
      · rintro rfl
        exact absurd digit (by decide)
      · rintro rfl
        exact absurd digit (by decide)
    | negSucc n => exact ⟨'-', _, rfl, rfl, by decide, by decide⟩
  | num text => exact absurd plain (by simp [Plain])
  | str text => exact ⟨'"', _, rfl, rfl, by decide, by decide⟩
  | arr items => exact ⟨'[', _, rfl, rfl, by decide, by decide⟩
  | obj members => exact ⟨'{', _, rfl, rfl, by decide, by decide⟩

theorem skipBlanks_of_opens {cs rest : List Char} (opens : Opens cs) :
    skipBlanks (cs ++ rest) = cs ++ rest := by
  obtain ⟨c, tail, rfl, notBlank, -, -⟩ := opens
  simp [skipBlanks, notBlank]

theorem skipBlanks_mark (notBlank : isBlank c = false) : skipBlanks (c :: cs) = c :: cs := by
  simp [skipBlanks, notBlank]

theorem length_pos_write (plain : Plain v) : 0 < (write v).length := by
  obtain ⟨c, cs, eq, -⟩ := opens_write plain
  rw [eq]
  simp

theorem commas_cons_cons (piece next : List Char) (rest : List (List Char)) :
    commas (piece :: next :: rest) = piece ++ ',' :: commas (next :: rest) := rfl

theorem readValue_bracket (fuel : Nat) (opens : Opens cs) (rest : List Char) :
    readValue (fuel + 1) ('[' :: (cs ++ rest)) =
      (readItems fuel (cs ++ rest)).map fun r => (.arr r.1, r.2) := by
  obtain ⟨c, tail, rfl, notBlank, notClose, -⟩ := opens
  rw [readValue, List.cons_append, skipBlanks_mark notBlank]
  split
  · rename_i eq
    cases eq
    exact absurd rfl notClose
  · rfl

theorem readValue_brace (fuel : Nat) (opens : Opens cs) (rest : List Char) :
    readValue (fuel + 1) ('\x7b' :: (cs ++ rest)) =
      (readMembers fuel (cs ++ rest)).map fun r => (.obj r.1, r.2) := by
  obtain ⟨c, tail, rfl, notBlank, -, notClose⟩ := opens
  rw [readValue, List.cons_append, skipBlanks_mark notBlank]
  split
  · rename_i eq
    cases eq
    exact absurd rfl notClose
  · rfl

theorem opens_append (opens : Opens cs) (ds : List Char) : Opens (cs ++ ds) := by
  obtain ⟨c, tail, rfl, plain⟩ := opens
  exact ⟨c, tail ++ ds, rfl, plain⟩

theorem opens_commas {piece : List Char} (opens : Opens piece) (pieces : List (List Char)) :
    Opens (commas (piece :: pieces)) := by
  cases pieces with
  | nil => exact opens
  | cons next rest => exact opens_append opens _

theorem opens_quote (text : List Char) : Opens (quote text) :=
  ⟨'"', _, rfl, rfl, by decide, by decide⟩

theorem readMembers_name (fuel : Nat) (name : List Char) {rest : List Char}
    (opens : Opens (write v)) (read : readValue fuel (write v ++ rest) = some (v, rest)) :
    readMembers (fuel + 1) (quote name ++ ':' :: write v ++ rest) =
      match skipBlanks rest with
      | ',' :: rest => (readMembers fuel (skipBlanks rest)).map fun r => ((name, v) :: r.1, r.2)
      | '\x7d' :: rest => some ([(name, v)], rest)
      | _ => none := by
  have text : quote name ++ ':' :: write v ++ rest =
      '"' :: (escape name ++ '"' :: (':' :: (write v ++ rest))) := by
    simp [quote]
  rw [text, readMembers, scanString_escape]
  simp only [skipBlanks_mark (show isBlank ':' = false from rfl), skipBlanks_of_opens opens, read]

mutual

theorem readValue_write : ∀ (v : Json) (fuel : Nat) (rest : List Char), Plain v → Ends rest →
    2 * (write v).length ≤ fuel → readValue fuel (write v ++ rest) = some (v, rest)
  | v, 0, _, plain, _, enough => by
    have := length_pos_write plain
    omega
  | .null, fuel + 1, _, _, _, _ => rfl
  | .bool false, fuel + 1, _, _, _, _ => rfl
  | .bool true, fuel + 1, _, _, _, _ => rfl
  | .int n, fuel + 1, rest, _, ends, _ => readValue_intText fuel n ends
  | .num _, _, _, plain, _, _ => absurd plain (by simp [Plain])
  | .str text, fuel + 1, rest, _, _, _ => by
    rw [write, quote, List.cons_append, readValue, List.append_assoc, List.cons_append,
      List.nil_append, scanString_escape]
    rfl
  | .arr [], fuel + 1, rest, _, _, _ => rfl
  | .arr (item :: items), fuel + 1, rest, plain, _, enough => by
    have read := readItems_write item items fuel rest plain (by
      rw [write] at enough
      simp only [List.length_cons, List.length_append, List.length_nil] at enough
      omega)
    have opens := opens_commas (opens_write plain.1) (writeItems items)
    rw [write, List.cons_append, List.append_assoc, List.cons_append, List.nil_append,
      writeItems, readValue_bracket fuel opens, ← writeItems, read]
    rfl
  | .obj [], fuel + 1, rest, _, _, _ => rfl
  | .obj ((name, value) :: members), fuel + 1, rest, plain, _, enough => by
    have read := readMembers_write name value members fuel rest plain (by
      rw [write] at enough
      simp only [List.length_cons, List.length_append, List.length_nil] at enough
      omega)
    have opens := opens_commas (opens_append (opens_quote name) (':' :: write value))
      (writeMembers members)
    rw [write, List.cons_append, List.append_assoc, List.cons_append, List.nil_append,
      writeMembers, readValue_brace fuel opens, ← writeMembers, read]
    rfl

theorem readItems_write : ∀ (item : Json) (items : List Json) (fuel : Nat) (rest : List Char),
    PlainItems (item :: items) → 2 * (commas (writeItems (item :: items))).length + 1 ≤ fuel →
    readItems fuel (commas (writeItems (item :: items)) ++ ']' :: rest) =
      some (item :: items, rest)
  | item, [], fuel + 1, rest, plain, enough => by
    simp only [writeItems, commas] at enough ⊢
    rw [readItems, readValue_write item fuel (']' :: rest) plain.1 (Ends.bracket rest) (by omega)]
    simp only [skipBlanks_mark (show isBlank ']' = false from rfl)]
  | item, next :: items, fuel + 1, rest, plain, enough => by
    have opens := opens_commas (opens_write plain.2.1) (writeItems items)
    have read := readItems_write next items fuel rest plain.2
    simp only [writeItems, commas_cons_cons, List.length_append, List.length_cons,
      List.append_assoc, List.cons_append] at enough read ⊢
    rw [readItems, readValue_write item fuel _ plain.1 (Ends.comma _) (by omega)]
    simp only [skipBlanks_mark (show isBlank ',' = false from rfl), skipBlanks_of_opens opens]
    rw [read (by omega)]
    rfl

theorem readMembers_write : ∀ (name : List Char) (value : Json) (members : List (List Char × Json))
    (fuel : Nat) (rest : List Char), PlainMembers ((name, value) :: members) →
    2 * (commas (writeMembers ((name, value) :: members))).length + 1 ≤ fuel →
    readMembers fuel (commas (writeMembers ((name, value) :: members)) ++ '\x7d' :: rest) =
      some ((name, value) :: members, rest)
  | name, value, [], fuel + 1, rest, plain, enough => by
    simp only [writeMembers, commas, List.length_append, List.length_cons] at enough ⊢
    rw [readMembers_name fuel name (opens_write plain.1)
      (readValue_write value fuel _ plain.1 (Ends.brace rest) (by omega))]
    simp only [skipBlanks_mark (show isBlank '\x7d' = false from rfl)]
  | name, value, (next, other) :: members, fuel + 1, rest, plain, enough => by
    have opens := opens_commas (opens_append (opens_quote next) (':' :: write other))
      (writeMembers members)
    have read := readMembers_write next other members fuel rest plain.2
    simp only [writeMembers, commas_cons_cons, List.length_append, List.length_cons] at enough read ⊢
    rw [List.append_assoc, List.cons_append, readMembers_name fuel name (opens_write plain.1)
      (readValue_write value fuel _ plain.1 (Ends.comma _) (by omega))]
    simp only [skipBlanks_mark (show isBlank ',' = false from rfl), skipBlanks_of_opens opens]
    rw [read (by omega)]
    rfl

end

theorem read_write (plain : Plain v) : read (write v) = some v := by
  have skip := @skipBlanks_of_opens _ [] (opens_write plain)
  have value := readValue_write v (2 * (write v).length + 1) [] plain Ends.nil (by omega)
  simp only [List.append_nil] at skip value
  unfold read
  rw [skip, value]
  rfl

/-! ### Canonical texts tell values apart -/

variable {members : List (List Char × Json)}

theorem plainMembers_iff :
    PlainMembers members ↔ ∀ m ∈ members, Plain m.2 := by
  induction members with
  | nil => simp [PlainMembers]
  | cons m members ih =>
    simp [PlainMembers, ih]

theorem plainItems_iff {items : List Json} : PlainItems items ↔ ∀ v ∈ items, Plain v := by
  induction items with
  | nil => simp [PlainItems]
  | cons v items ih => simp [PlainItems, ih]

mutual

theorem plain_sorted : ∀ v : Json, Plain v → Plain (sorted v)
  | .null, _ => trivial
  | .bool _, _ => trivial
  | .int _, _ => trivial
  | .str _, _ => trivial
  | .arr items, plain => plain_sortedItems items plain
  | .obj members, plain => by
    have same := List.perm_insertionSort NameLE (sortedMembers members)
    have all := plainMembers_iff.mp (plain_sortedMembers members plain)
    exact plainMembers_iff.mpr fun m mem => all m (same.mem_iff.mp mem)

theorem plain_sortedItems : ∀ items : List Json, PlainItems items → PlainItems (sortedItems items)
  | [], _ => trivial
  | v :: items, plain => ⟨plain_sorted v plain.1, plain_sortedItems items plain.2⟩

theorem plain_sortedMembers : ∀ members : List (List Char × Json), PlainMembers members →
    PlainMembers (sortedMembers members)
  | [], _ => trivial
  | (_, v) :: members, plain => ⟨plain_sorted v plain.1, plain_sortedMembers members plain.2⟩

end

/-- Values without fractions that have one canonical text differ in the order of members only. -/
theorem sorted_eq_of_canonical {w : Json} (plainV : Plain v) (plainW : Plain w)
    (same : canonical v = canonical w) : sorted v = sorted w := by
  have read := read_write (plain_sorted v plainV)
  rw [show write (sorted v) = write (sorted w) from same,
    read_write (plain_sorted w plainW)] at read
  exact (Option.some.inj read).symm

def member? (name : List Char) : Json → Option Json
  | .obj members => (members.find? fun m => m.1 = name).map Prod.snd
  | _ => none

theorem find?_eq_of_perm {others : List (List Char × Json)} (name : List Char)
    (nodup : (members.map Prod.fst).Nodup) (perm : others.Perm members) :
    others.find? (fun m => m.1 = name) = members.find? fun m => m.1 = name := by
  cases found : members.find? fun m => m.1 = name with
  | none =>
    rw [List.find?_eq_none] at found ⊢
    exact fun m mem => found m (perm.mem_iff.mp mem)
  | some m =>
    have mem := List.mem_of_find?_eq_some found
    have named : m.1 = name := by simpa using List.find?_some found
    have here : (others.find? fun m => m.1 = name).isSome := by
      rw [List.find?_isSome]
      exact ⟨m, perm.mem_iff.mpr mem, by simpa using named⟩
    obtain ⟨m', found'⟩ := Option.isSome_iff_exists.mp here
    have mem' := perm.mem_iff.mp (List.mem_of_find?_eq_some found')
    have named' : m'.1 = name := by simpa using List.find?_some found'
    rw [found', List.inj_on_of_nodup_map nodup mem' mem (named'.trans named.symm)]

theorem sortedMembers_eq_map (members : List (List Char × Json)) :
    sortedMembers members = members.map fun m => (m.1, sorted m.2) := by
  induction members with
  | nil => rfl
  | cons m members ih =>
    simp [sortedMembers, ih]

theorem sortedItems_eq_map (items : List Json) : sortedItems items = items.map sorted := by
  induction items with
  | nil => rfl
  | cons v items ih => simp [sortedItems, ih]

theorem member?_sorted (name : List Char) (nodup : (members.map Prod.fst).Nodup) :
    member? name (sorted (.obj members)) = (member? name (.obj members)).map sorted := by
  have names : ((sortedMembers members).map Prod.fst).Nodup := by
    rw [sortedMembers_eq_map, List.map_map]
    exact nodup
  have perm := List.perm_insertionSort NameLE (sortedMembers members)
  simp only [sorted, member?]
  rw [find?_eq_of_perm name names perm, sortedMembers_eq_map, List.find?_map, Option.map_map,
    Option.map_map]
  rfl

end Json

end Unchain.Lib
