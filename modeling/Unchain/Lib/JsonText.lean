import Unchain.Lib.Json

/-!
Where the text of a value ends.

`upTo` cuts a text at the first comma or closing bracket outside of every bracket and quote. A
written value passes it whole, so objects with one text have members with one text each, whatever
the texts of their numbers are.
-/

namespace Unchain.Lib.Json

/-- A character that is no quote, escape, bracket or comma. -/
def Ordinary (c : Char) : Prop := c ∉ ['"', '\\', '[', ']', '{', '}', ',']

instance (c : Char) : Decidable (Ordinary c) :=
  inferInstanceAs (Decidable (c ∉ ['"', '\\', '[', ']', '{', '}', ',']))

mutual

/-- The text of the values inside of `depth` brackets. -/
def upTo : Nat → List Char → List Char
  | _, [] => []
  | depth, c :: cs =>
    if c = '"' then c :: upToQuoted depth cs
    else if c = '[' ∨ c = '{' then c :: upTo (depth + 1) cs
    else if c = ']' ∨ c = '}' then if depth = 0 then [] else c :: upTo (depth - 1) cs
    else if c = ',' ∧ depth = 0 then []
    else c :: upTo depth cs

def upToQuoted : Nat → List Char → List Char
  | _, [] => []
  | depth, '"' :: cs => '"' :: upTo depth cs
  | depth, '\\' :: c :: cs => '\\' :: c :: upToQuoted depth cs
  | depth, c :: cs => c :: upToQuoted depth cs

end

theorem upTo_ordinary {c : Char} (ordinary : Ordinary c) (depth : Nat) (cs : List Char) :
    upTo depth (c :: cs) = c :: upTo depth cs := by
  simp only [Ordinary, List.mem_cons, List.not_mem_nil, or_false, not_or] at ordinary
  obtain ⟨quote, -, bracket, bracket', brace, brace', comma⟩ := ordinary
  rw [upTo, if_neg quote, if_neg (by tauto), if_neg (by tauto), if_neg (by tauto)]

theorem upTo_ordinaries {cs : List Char} (ordinary : ∀ c ∈ cs, Ordinary c) (depth : Nat)
    (rest : List Char) : upTo depth (cs ++ rest) = cs ++ upTo depth rest := by
  induction cs with
  | nil => rfl
  | cons c cs ih =>
    rw [List.cons_append, upTo_ordinary (ordinary c (by simp)),
      ih fun d mem => ordinary d (List.mem_cons_of_mem _ mem), List.cons_append]

theorem hexChar_ordinary : ∀ n < 16, hexChar n ≠ '"' ∧ hexChar n ≠ '\\' := by
  decide

theorem upToQuoted_plain {c : Char} (quote : c ≠ '"') (slash : c ≠ '\\') (depth : Nat)
    (cs : List Char) : upToQuoted depth (c :: cs) = c :: upToQuoted depth cs := by
  rw [upToQuoted]
  · exact quote
  · intro d cs same _
    exact slash same

theorem upToQuoted_escape (text : List Char) (depth : Nat) (rest : List Char) :
    upToQuoted depth (escape text ++ rest) = escape text ++ upToQuoted depth rest := by
  induction text with
  | nil => rfl
  | cons c text ih =>
    have step : ∀ tail, escape (c :: text) ++ tail = escapeChar c ++ (escape text ++ tail) := by
      simp [escape]
    rw [step, step]
    obtain ⟨e, -, eq, -⟩ | ⟨small, eq⟩ | ⟨-, quoteNe, slashNe, eq⟩ := escapeChar_cases c
    · rw [eq]
      simp only [List.cons_append, List.nil_append]
      rw [upToQuoted, ih]
    · rw [eq]
      simp only [List.cons_append, List.nil_append]
      obtain ⟨high, high'⟩ := hexChar_ordinary (c.toNat / 16) (by omega)
      obtain ⟨low, low'⟩ := hexChar_ordinary (c.toNat % 16) (by omega)
      rw [upToQuoted, upToQuoted_plain (by decide) (by decide),
        upToQuoted_plain (by decide) (by decide), upToQuoted_plain high high',
        upToQuoted_plain low low', ih]
    · rw [eq]
      simp only [List.cons_append, List.nil_append]
      rw [upToQuoted_plain quoteNe slashNe, ih]

theorem upTo_quote (text : List Char) (depth : Nat) (rest : List Char) :
    upTo depth (quote text ++ rest) = quote text ++ upTo depth rest := by
  rw [quote, List.cons_append, upTo, if_pos rfl, List.append_assoc, List.cons_append,
    upToQuoted_escape, upToQuoted]
  simp

mutual

/-- A value whose number texts are made of ordinary characters. -/
def Lexical : Json → Prop
  | .num text => ∀ c ∈ text, Ordinary c
  | .arr items => LexicalItems items
  | .obj members => LexicalMembers members
  | _ => True

def LexicalItems : List Json → Prop
  | [] => True
  | item :: items => Lexical item ∧ LexicalItems items

def LexicalMembers : List (List Char × Json) → Prop
  | [] => True
  | (_, value) :: members => Lexical value ∧ LexicalMembers members

end

theorem digit_ordinary {c : Char} (digit : isDigit c = true) : Ordinary c := by
  simp only [Ordinary, List.mem_cons, List.not_mem_nil, or_false, not_or]
  refine ⟨?_, ?_, ?_, ?_, ?_, ?_, ?_⟩
  all_goals
    rintro rfl
    exact absurd digit (by decide)

theorem intText_ordinary (n : Int) : ∀ c ∈ intText n, Ordinary c := by
  intro c mem
  cases n with
  | ofNat n => exact digit_ordinary (all_digits_natText n c mem)
  | negSucc n =>
    rcases List.mem_cons.mp mem with rfl | mem
    · decide
    · exact digit_ordinary (all_digits_natText _ c mem)

theorem upTo_bracketed {opening closing : Char} (opens : opening = '[' ∨ opening = '{')
    (closes : closing = ']' ∨ closing = '}') {inner : List Char} {depth : Nat} {rest : List Char}
    (passes : ∀ rest, upTo (depth + 1) (inner ++ rest) = inner ++ upTo (depth + 1) rest) :
    upTo depth (opening :: (inner ++ [closing]) ++ rest) =
      opening :: (inner ++ [closing]) ++ upTo depth rest := by
  have opening' : opening ≠ '"' := by
    rintro rfl
    exact absurd opens (by decide)
  have closing' : closing ≠ '"' ∧ ¬ (closing = '[' ∨ closing = '{') := by
    rcases closes with rfl | rfl
    · decide
    · decide
  rw [List.cons_append, upTo, if_neg opening', if_pos opens, List.append_assoc, passes,
    List.singleton_append, upTo, if_neg closing'.1, if_neg closing'.2, if_pos closes,
    if_neg (Nat.succ_ne_zero depth), Nat.add_sub_cancel]
  simp

theorem upTo_commas {pieces : List (List Char)} {depth : Nat} (passes : ∀ piece ∈ pieces, ∀ rest,
      upTo (depth + 1) (piece ++ rest) = piece ++ upTo (depth + 1) rest) (rest : List Char) :
    upTo (depth + 1) (commas pieces ++ rest) = commas pieces ++ upTo (depth + 1) rest := by
  induction pieces with
  | nil => rfl
  | cons piece pieces ih =>
    cases pieces with
    | nil => exact passes piece (by simp) rest
    | cons next pieces =>
      have inner := ih fun p mem => passes p (List.mem_cons_of_mem _ mem)
      have comma : ∀ cs, upTo (depth + 1) (',' :: cs) = ',' :: upTo (depth + 1) cs := by
        intro cs
        rw [upTo, if_neg (by decide), if_neg (by decide), if_neg (by decide), if_neg (by simp)]
      rw [commas_cons_cons, List.append_assoc, passes piece (by simp), List.cons_append, comma,
        inner]
      simp

mutual

/-- A written value passes whole. -/
theorem upTo_write : ∀ (v : Json) (depth : Nat) (rest : List Char), Lexical v →
    upTo depth (write v ++ rest) = write v ++ upTo depth rest
  | .null, depth, rest, _ => upTo_ordinaries (by simp [write, Ordinary]) depth rest
  | .bool true, depth, rest, _ => upTo_ordinaries (by simp [write, Ordinary]) depth rest
  | .bool false, depth, rest, _ => upTo_ordinaries (by simp [write, Ordinary]) depth rest
  | .int n, depth, rest, _ => upTo_ordinaries (intText_ordinary n) depth rest
  | .num _, depth, rest, lexical => upTo_ordinaries lexical depth rest
  | .str text, depth, rest, _ => upTo_quote text depth rest
  | .arr items, depth, rest, lexical =>
    upTo_bracketed (.inl rfl) (.inl rfl) fun rest =>
      upTo_commas (upTo_items items (depth + 1) lexical) rest
  | .obj members, depth, rest, lexical =>
    upTo_bracketed (.inr rfl) (.inr rfl) fun rest =>
      upTo_commas (upTo_members members (depth + 1) lexical) rest

theorem upTo_items : ∀ (items : List Json) (depth : Nat), LexicalItems items →
    ∀ piece ∈ writeItems items, ∀ rest, upTo depth (piece ++ rest) = piece ++ upTo depth rest
  | [], _, _, _, mem => by cases mem
  | item :: items, depth, lexical, piece, mem => by
    intro rest
    rcases List.mem_cons.mp mem with rfl | mem
    · exact upTo_write item depth rest lexical.1
    · exact upTo_items items depth lexical.2 piece mem rest

theorem upTo_members : ∀ (members : List (List Char × Json)) (depth : Nat),
    LexicalMembers members → ∀ piece ∈ writeMembers members, ∀ rest,
      upTo depth (piece ++ rest) = piece ++ upTo depth rest
  | [], _, _, _, mem => by cases mem
  | (name, value) :: members, depth, lexical, piece, mem => by
    intro rest
    rcases List.mem_cons.mp mem with rfl | mem
    · rw [List.append_assoc, upTo_quote, List.cons_append, upTo_ordinary (by decide),
        upTo_write value depth rest lexical.1]
      simp
    · exact upTo_members members depth lexical.2 piece mem rest

end

/-! ### Members with one text -/

theorem upTo_ends {rest : List Char} (ends : Ends rest) : upTo 0 rest = [] := by
  cases rest with
  | nil => rfl
  | cons c rest =>
    rcases ends c rest rfl with rfl | rfl | rfl
    · simp [upTo]
    · simp [upTo]
    · simp [upTo]

/-- Where two values are written before the end of something, they have one text. -/
theorem write_eq_of_append {v w : Json} (lexicalV : Lexical v) (lexicalW : Lexical w)
    {rest rest' : List Char} (ends : Ends rest) (ends' : Ends rest')
    (same : write v ++ rest = write w ++ rest') : write v = write w ∧ rest = rest' := by
  have cut := congrArg (upTo 0) same
  rw [upTo_write v 0 rest lexicalV, upTo_write w 0 rest' lexicalW, upTo_ends ends,
    upTo_ends ends', List.append_nil, List.append_nil] at cut
  refine ⟨cut, ?_⟩
  rw [cut] at same
  exact List.append_cancel_left same

theorem quote_append {text text' rest rest' : List Char}
    (same : quote text ++ rest = quote text' ++ rest') : text = text' ∧ rest = rest' := by
  simp only [quote, List.cons_append, List.append_assoc, List.cons.injEq, true_and,
    List.nil_append] at same
  have read := congrArg scanString same
  rw [scanString_escape, scanString_escape] at read
  simpa using read

def memberTexts (members : List (List Char × Json)) : List (List Char × List Char) :=
  members.map fun m => (m.1, write m.2)

theorem commas_members (name : List Char) (value : Json) (members : List (List Char × Json))
    (rest : List Char) : ∃ tail, commas (writeMembers ((name, value) :: members)) ++ '}' :: rest =
      quote name ++ ':' :: (write value ++ tail) ∧ Ends tail ∧
        tail = if members.isEmpty then '}' :: rest
          else ',' :: (commas (writeMembers members) ++ '}' :: rest) := by
  cases members with
  | nil => exact ⟨'}' :: rest, by simp [writeMembers, commas], Ends.brace _, rfl⟩
  | cons next members =>
    refine ⟨_, ?_, Ends.comma _, rfl⟩
    simp [writeMembers, commas]

theorem memberTexts_eq {members others : List (List Char × Json)}
    (lexical : LexicalMembers members) (lexical' : LexicalMembers others) {rest rest' : List Char}
    (same : commas (writeMembers members) ++ '}' :: rest =
      commas (writeMembers others) ++ '}' :: rest') : memberTexts members = memberTexts others := by
  induction members generalizing others with
  | nil =>
    cases others with
    | nil => rfl
    | cons m others =>
      obtain ⟨name, value⟩ := m
      obtain ⟨tail, eq, -, -⟩ := commas_members name value others rest'
      rw [eq] at same
      simp [writeMembers, commas, quote] at same
  | cons m members ih =>
    obtain ⟨name, value⟩ := m
    obtain ⟨tail, eq, ends, here⟩ := commas_members name value members rest
    rw [eq] at same
    cases others with
    | nil => simp [writeMembers, commas, quote] at same
    | cons m' others =>
      obtain ⟨name', value'⟩ := m'
      obtain ⟨tail', eq', ends', here'⟩ := commas_members name' value' others rest'
      rw [eq'] at same
      obtain ⟨names, values⟩ := quote_append same
      subst names
      obtain ⟨text, tails⟩ :=
        write_eq_of_append lexical.1 lexical'.1 ends ends' (List.cons.inj values).2
      rw [here, here'] at tails
      have others' : memberTexts members = memberTexts others := by
        cases members with
        | nil =>
          cases others with
          | nil => rfl
          | cons m others => simp at tails
        | cons m members =>
          cases others with
          | nil => simp at tails
          | cons m' others =>
            simp only [List.isEmpty_cons, Bool.false_eq_true, ↓reduceIte,
              List.cons.injEq, true_and] at tails
            exact ih lexical.2 lexical'.2 tails
      simp only [memberTexts, List.map_cons, text, List.cons.injEq, true_and]
      exact others'

/-- Objects with one text have one text under each name. -/
theorem member?_write {members others : List (List Char × Json)}
    (lexical : LexicalMembers members) (lexical' : LexicalMembers others)
    (same : write (.obj members) = write (.obj others)) (name : List Char) :
    (member? name (.obj members)).map write = (member? name (.obj others)).map write := by
  have texts : memberTexts members = memberTexts others := by
    simp only [write, List.cons.injEq, true_and] at same
    exact memberTexts_eq lexical lexical' same
  have found : ∀ ms : List (List Char × Json), (member? name (.obj ms)).map write =
      ((memberTexts ms).find? fun m => m.1 = name).map Prod.snd := by
    intro ms
    rw [member?, memberTexts, List.find?_map, Option.map_map, Option.map_map]
    rfl
  rw [found, found, texts]

/-! ### Sorted members -/

theorem lexicalMembers_iff {members : List (List Char × Json)} :
    LexicalMembers members ↔ ∀ m ∈ members, Lexical m.2 := by
  induction members with
  | nil => simp [LexicalMembers]
  | cons m members ih =>
    simp [LexicalMembers, ih]

theorem lexicalItems_iff {items : List Json} : LexicalItems items ↔ ∀ v ∈ items, Lexical v := by
  induction items with
  | nil => simp [LexicalItems]
  | cons v items ih => simp [LexicalItems, ih]

mutual

theorem lexical_sorted : ∀ v : Json, Lexical v → Lexical (sorted v)
  | .null, _ => trivial
  | .bool _, _ => trivial
  | .int _, _ => trivial
  | .num _, lexical => lexical
  | .str _, _ => trivial
  | .arr items, lexical => lexical_sortedItems items lexical
  | .obj members, lexical => by
    have same := List.perm_insertionSort NameLE (sortedMembers members)
    have all := lexicalMembers_iff.mp (lexical_sortedMembers members lexical)
    exact lexicalMembers_iff.mpr fun m mem => all m (same.mem_iff.mp mem)

theorem lexical_sortedItems : ∀ items : List Json, LexicalItems items →
    LexicalItems (sortedItems items)
  | [], _ => trivial
  | v :: items, lexical => ⟨lexical_sorted v lexical.1, lexical_sortedItems items lexical.2⟩

theorem lexical_sortedMembers : ∀ members : List (List Char × Json), LexicalMembers members →
    LexicalMembers (sortedMembers members)
  | [], _ => trivial
  | (_, v) :: members, lexical =>
    ⟨lexical_sorted v lexical.1, lexical_sortedMembers members lexical.2⟩

end

theorem member?_canonical {members others : List (List Char × Json)}
    (lexical : LexicalMembers members) (lexical' : LexicalMembers others)
    (distinct : (members.map Prod.fst).Nodup) (distinct' : (others.map Prod.fst).Nodup)
    (same : canonical (.obj members) = canonical (.obj others)) (name : List Char) :
    (member? name (.obj members)).map canonical = (member? name (.obj others)).map canonical := by
  have texts := member?_write (lexical_sorted (.obj members) lexical)
    (lexical_sorted (.obj others) lexical') same name
  have first := member?_sorted name distinct
  have second := member?_sorted name distinct'
  rw [sorted] at first second
  rw [first, second, Option.map_map, Option.map_map] at texts
  exact texts

end Unchain.Lib.Json
