import Unchain.Lib.JsonGrammar

/-!
The repair of tool arguments.

A model may leave control characters raw in the strings of its JSON arguments. The repair escapes
newlines, carriage returns and tabs inside strings, which it follows by two flags; what it makes of
such a text stands for the same value, and a JSON text stays as it is (`repair_exact`).
-/

namespace Unchain.Tools

open Lib.Json (hexValue? hex4?)
open Lib.JsonGrammar

/-- The loop of `_escape_control_chars_inside_json_strings`. -/
def escapeControlChars : (inString escaped : Bool) → List Char → List Char
  | _, _, [] => []
  | true, true, ch :: raw => ch :: escapeControlChars true false raw
  | true, false, ch :: raw =>
    if ch = '\\' then ch :: escapeControlChars true true raw
    else if ch = '"' then ch :: escapeControlChars false false raw
    else if ch = '\n' then '\\' :: 'n' :: escapeControlChars true false raw
    else if ch = '\r' then '\\' :: 'r' :: escapeControlChars true false raw
    else if ch = '\t' then '\\' :: 't' :: escapeControlChars true false raw
    else ch :: escapeControlChars true false raw
  | false, escaped, ch :: raw =>
    if ch = '"' then ch :: escapeControlChars true false raw
    else ch :: escapeControlChars false escaped raw

def escapeControlCharsInsideJsonStrings (raw : List Char) : List Char :=
  escapeControlChars false false raw

theorem escape_other {ch : Char} (other : ch ≠ '"') (raw : List Char) :
    escapeControlChars false false (ch :: raw) = ch :: escapeControlChars false false raw := by
  rw [escapeControlChars, if_neg other]

theorem escape_outside {cs : List Char} (outside : '"' ∉ cs) (rest : List Char) :
    escapeControlChars false false (cs ++ rest) = cs ++ escapeControlChars false false rest := by
  induction cs with
  | nil => rfl
  | cons c cs ih =>
    rw [List.mem_cons, not_or] at outside
    rw [List.cons_append, escape_other (Ne.symm outside.1), ih outside.2]
    rfl

theorem escape_quote (rest : List Char) : escapeControlChars false false ('"' :: rest) =
    '"' :: escapeControlChars true false rest := by
  rw [escapeControlChars, if_pos rfl]

theorem escape_hex {c : Char} (hex : (hexValue? c).isSome) (rest : List Char) :
    escapeControlChars true false (c :: rest) = c :: escapeControlChars true false rest := by
  have apart : ∀ d : Char, hexValue? d = none → c ≠ d := by
    rintro d none rfl
    rw [none] at hex
    cases hex
  rw [escapeControlChars, if_neg (apart _ rfl), if_neg (apart _ rfl), if_neg (apart _ rfl),
    if_neg (apart _ rfl), if_neg (apart _ rfl)]

variable {raw : Bool} {cs : List Char} {us : List Nat}

/-- A piece of a string is left as it is, or escaped; the string goes on behind it. -/
theorem escape_piece (piece : Piece raw cs us) : ∃ cs', Piece false cs' us ∧
    (∀ rest, escapeControlChars true false (cs ++ rest) =
      cs' ++ escapeControlChars true false rest) ∧ (raw = false → cs' = cs) := by
  cases piece with
  | @plain c high quote slash =>
    refine ⟨[c], .plain high quote slash, fun rest => ?_, fun _ => rfl⟩
    have above : ∀ d : Char, d.toNat < 0x20 → c ≠ d := by
      rintro d small rfl
      omega
    rw [List.singleton_append, escapeControlChars, if_neg slash, if_neg quote,
      if_neg (above _ (by decide)), if_neg (above _ (by decide)), if_neg (above _ (by decide))]
    rfl
  | @left c allowed mem =>
    have strict : raw = false → ∀ cs', cs' = [c] := by simp [allowed]
    simp only [loose, List.mem_cons, List.not_mem_nil, or_false] at mem
    rcases mem with rfl | rfl | rfl
    · exact ⟨['\\', 'n'], .short rfl, fun _ => rfl, fun h => strict h _⟩
    · exact ⟨['\\', 'r'], .short rfl, fun _ => rfl, fun h => strict h _⟩
    · exact ⟨['\\', 't'], .short rfl, fun _ => rfl, fun h => strict h _⟩
  | short escape => exact ⟨_, .short escape, fun _ => rfl, fun _ => rfl⟩
  | @unit a b c d n hex =>
    refine ⟨_, .unit hex, fun rest => ?_, fun _ => rfl⟩
    simp only [hex4?, bind, Option.bind_eq_some_iff] at hex
    obtain ⟨_, ha, _, hb, _, hc, _, hd, -⟩ := hex
    show '\\' :: 'u' :: escapeControlChars true false (a :: b :: c :: d :: rest) = _
    rw [escape_hex (Option.isSome_of_eq_some ha), escape_hex (Option.isSome_of_eq_some hb),
      escape_hex (Option.isSome_of_eq_some hc), escape_hex (Option.isSome_of_eq_some hd)]
    rfl

theorem escape_literal (literal : Literal raw cs us) : ∃ cs', Literal false cs' us ∧
    (∀ rest, escapeControlChars true false (cs ++ '"' :: rest) =
      cs' ++ '"' :: escapeControlChars false false rest) ∧ (raw = false → cs' = cs) := by
  induction literal with
  | nil => exact ⟨[], .nil, fun _ => rfl, fun _ => rfl⟩
  | cons first _ ih =>
    obtain ⟨cs', piece, escapes, same⟩ := escape_piece first
    obtain ⟨ds', literal, goesOn, same'⟩ := ih
    refine ⟨cs' ++ ds', .cons piece literal, fun rest => ?_, fun strict => ?_⟩
    · rw [List.append_assoc, escapes, goesOn, List.append_assoc]
    · rw [same strict, same' strict]

variable {N : Type} {worth : List Char → N} {part : Lib.JsonGrammar.Part N}

/-- What is repaired stands for the same part, and behind it the repair is outside of strings
again. -/
theorem escape_text (text : Text worth raw cs part) : ∃ cs', Text worth false cs' part ∧
    (∀ rest, escapeControlChars false false (cs ++ rest) =
      cs' ++ escapeControlChars false false rest) ∧ (raw = false → cs' = cs) := by
  induction text with
  | @blanks b cs b' v before _ after ih =>
    obtain ⟨cs', value, escapes, same⟩ := ih
    refine ⟨b ++ cs' ++ b', .blanks before value after, fun rest => ?_, fun h => by rw [same h]⟩
    simp only [List.append_assoc]
    rw [escape_outside before.quote_not_mem, escapes, escape_outside after.quote_not_mem]
  | null => exact ⟨_, .null, escape_outside (by decide), fun _ => rfl⟩
  | true => exact ⟨_, .true, escape_outside (by decide), fun _ => rfl⟩
  | false => exact ⟨_, .false, escape_outside (by decide), fun _ => rfl⟩
  | number number => exact ⟨_, .number number, escape_outside number.quote_not_mem, fun _ => rfl⟩
  | str literal =>
    obtain ⟨cs', literal, escapes, same⟩ := escape_literal literal
    refine ⟨_, .str literal, fun rest => ?_, fun h => by rw [same h]⟩
    rw [List.cons_append, escape_quote, List.append_assoc, List.singleton_append, escapes]
    simp
  | arr _ ih =>
    obtain ⟨cs', items, escapes, same⟩ := ih
    refine ⟨_, .arr items, fun rest => ?_, fun h => by rw [same h]⟩
    rw [List.cons_append, escape_other (by decide), List.append_assoc, escapes,
      List.singleton_append, escape_other (by decide)]
    simp
  | obj _ ih =>
    obtain ⟨cs', members, escapes, same⟩ := ih
    refine ⟨_, .obj members, fun rest => ?_, fun h => by rw [same h]⟩
    rw [List.cons_append, escape_other (by decide), List.append_assoc, escapes,
      List.singleton_append, escape_other (by decide)]
    simp
  | noItems blank => exact ⟨_, .noItems blank, escape_outside blank.quote_not_mem, fun _ => rfl⟩
  | item _ ih =>
    obtain ⟨cs', value, escapes, same⟩ := ih
    exact ⟨cs', .item value, escapes, same⟩
  | items _ some _ first ih =>
    obtain ⟨cs', value, escapes, same⟩ := first
    obtain ⟨ds', items, goesOn, same'⟩ := ih
    refine ⟨_, .items value some items, fun rest => ?_, fun h => by rw [same h, same' h]⟩
    rw [List.append_assoc, escapes, List.cons_append, escape_other (by decide), goesOn]
    simp
  | noMembers blank =>
    exact ⟨_, .noMembers blank, escape_outside blank.quote_not_mem, fun _ => rfl⟩
  | member before literal after _ ih =>
    obtain ⟨name', literal, escapes, same⟩ := escape_literal literal
    obtain ⟨cs', value, goesOn, same'⟩ := ih
    refine ⟨_, .member before literal after value, fun rest => ?_, fun h => by rw [same h, same' h]⟩
    simp only [List.append_assoc, List.cons_append]
    rw [escape_outside before.quote_not_mem, escape_quote, escapes,
      escape_outside after.quote_not_mem, escape_other (by decide), goesOn]
  | members _ some _ first ih =>
    obtain ⟨cs', member, escapes, same⟩ := first
    obtain ⟨ds', members, goesOn, same'⟩ := ih
    refine ⟨_, .members member some members, fun rest => ?_, fun h => by rw [same h, same' h]⟩
    rw [List.append_assoc, escapes, List.cons_append, escape_other (by decide), goesOn]
    simp

/-- The repair of a text with raw control characters in its strings is a JSON text for the same
value, and a JSON text is not changed. -/
theorem repair_exact (value : Lib.JsonGrammar.Value N) (text : Text worth raw cs (.value value)) :
    Text worth false (escapeControlCharsInsideJsonStrings cs) (.value value) ∧
      (raw = false → escapeControlCharsInsideJsonStrings cs = cs) := by
  obtain ⟨cs', repaired, escapes, same⟩ := escape_text text
  have whole := escapes []
  simp only [List.append_nil, escapeControlChars] at whole
  rw [escapeControlCharsInsideJsonStrings, whole]
  exact ⟨repaired, same⟩

/-- A string with a raw newline between escapes. -/
theorem raw_newline_repaired :
    Text id true ['"', '\\', '\\', '\n', '\\', '"', '"'] (.value (.str [92, 10, 34])) ∧
      Text id false ['"', '\\', '\\', '\\', 'n', '\\', '"', '"'] (.value (.str [92, 10, 34])) := by
  have text : Text id true ['"', '\\', '\\', '\n', '\\', '"', '"'] (.value (.str [92, 10, 34])) :=
    .str (.cons (.short (e := '\\') rfl) (.cons (.left (c := '\n') rfl (by decide))
      (.cons (.short (e := '"') rfl) .nil)))
  exact ⟨text, (repair_exact _ text).1⟩

end Unchain.Tools
