import Unchain.Skills.Frontmatter

/-!
Quoted values in the frontmatter of a skill file (`skills/frontmatter.py`).

A file is written with one line for each field, the value as a double-quoted scalar or as a flow
sequence of such scalars. The splitter of a flow sequence and the scalar parser follow the quotes
each on its own; both stop at the quote that closes the text (`doubleQuoted_quote`,
`splitFlowItems_quote`), whatever the text contains.
-/

namespace Unchain.Skills

open Lib Python Workspace

/-! ### Writing -/

def escape (c : Char) : Line :=
  if c = '\\' then ['\\', '\\'] else if c = '"' then ['\\', '"']
  else if c = '\n' then ['\\', 'n'] else if c = '\t' then ['\\', 't'] else [c]

def quote (text : Line) : Line := '"' :: text.flatMap escape ++ ['"']

inductive QuotedValue where
  | scalar (text : Line)
  | sequence (texts : List Line)

namespace QuotedValue

def texts : QuotedValue → List Line
  | scalar text => [text]
  | sequence texts => texts

/-- The items of a flow sequence, with a blank behind each comma. -/
def items : List Line → Line
  | [] => []
  | text :: texts => quote text ++ texts.flatMap fun text => ',' :: ' ' :: quote text

def token : QuotedValue → Line
  | scalar text => quote text
  | sequence texts => '[' :: items texts ++ [']']

def field : QuotedValue → Field
  | scalar text => .text text
  | sequence texts => .list (texts.map .text)

end QuotedValue

/-- What `_KEY_LINE_RE` takes for a key. -/
def ValidKey (key : String) : Prop := key.toList ≠ [] ∧ ∀ c ∈ key.toList, isKeyChar c = true

def fieldLine (f : String × QuotedValue) : Line := f.1.toList ++ ':' :: ' ' :: f.2.token

/-- The lines of the frontmatter between its markers, each one ended, and the body behind them. -/
def writeSkillFile (fields : List (String × QuotedValue)) (body : Line) : Line :=
  (marker :: fields.map fieldLine ++ [marker]).flatMap (· ++ ['\n']) ++ body

/-! ### Both parsers stop at the closing quote -/

/-- How the escape of a character is read: as a pair or as the character itself. -/
theorem escape_cases (c : Char) :
    (∃ d, escape c = ['\\', d] ∧ escaped? d = some c) ∨ escape c = [c] ∧ c ≠ '\\' ∧ c ≠ '"' := by
  by_cases backslash : c = '\\'
  · subst backslash
    exact .inl ⟨'\\', rfl, rfl⟩
  by_cases double : c = '"'
  · subst double
    exact .inl ⟨'"', rfl, rfl⟩
  by_cases newline : c = '\n'
  · subst newline
    exact .inl ⟨'n', rfl, rfl⟩
  by_cases tab : c = '\t'
  · subst tab
    exact .inl ⟨'t', rfl, rfl⟩
  · exact .inr ⟨by simp [escape, backslash, double, newline, tab], backslash, double⟩

theorem doubleQuoted_escape (token text rest : Line) :
    doubleQuoted token (text.flatMap escape ++ '"' :: rest) = .ok text := by
  induction text with
  | nil => rfl
  | cons c text ih =>
    rw [List.flatMap_cons, List.append_assoc]
    rcases escape_cases c with ⟨d, pair, read⟩ | ⟨single, backslash, double⟩
    · rw [pair]
      simp only [List.cons_append, List.nil_append, doubleQuoted, read, ih]
      rfl
    · rw [single, List.singleton_append, doubleQuoted, ih]
      · rfl
      · intro same
        exact absurd same backslash
      · intro _ _ same
        exact absurd same backslash
      · exact double

theorem splitFlowItems_escape (text buf : Line) (items : List Line) (rest : Line) :
    splitFlowItems (some .double) buf items (text.flatMap escape ++ '"' :: rest) =
      splitFlowItems none (buf ++ text.flatMap escape ++ ['"']) items rest := by
  induction text generalizing buf with
  | nil => simp [splitFlowItems]
  | cons c text ih =>
    rw [List.flatMap_cons, List.append_assoc]
    rcases escape_cases c with ⟨d, pair, -⟩ | ⟨single, backslash, double⟩
    · rw [pair]
      simp only [List.cons_append, List.nil_append, splitFlowItems, ih, List.append_assoc]
    · rw [single, List.singleton_append, splitFlowItems, if_neg double, ih]
      · simp
      · intro _ _ same
        exact absurd same backslash

theorem splitFlowItems_quote (text buf : Line) (items : List Line) (rest : Line) :
    splitFlowItems none buf items (quote text ++ rest) =
      splitFlowItems none (buf ++ quote text) items rest := by
  have opened := splitFlowItems_escape text (buf ++ ['"']) items rest
  simpa [quote, splitFlowItems] using opened

/-- The splitter cuts a flow sequence at its own commas only. -/
theorem splitFlowItems_items (texts : List Line) (buf : Line) (items : List Line) (some : buf ≠ []) :
    splitFlowItems none buf items (texts.flatMap fun text => ',' :: ' ' :: quote text) =
      items ++ buf :: texts.map fun text => ' ' :: quote text := by
  induction texts generalizing buf items with
  | nil => simp [splitFlowItems, some]
  | cons text texts ih =>
    have cut : splitFlowItems none buf items
        (',' :: ' ' :: (quote text ++ texts.flatMap fun text => ',' :: ' ' :: quote text)) =
        splitFlowItems none [' '] (items ++ [buf])
          (quote text ++ texts.flatMap fun text => ',' :: ' ' :: quote text) := by
      simp [splitFlowItems]
    rw [List.flatMap_cons, List.cons_append, List.cons_append, cut, splitFlowItems_quote, ih]
    · simp
    · simp

/-! ### Values -/

theorem stripChars_between {first last : Char} (opening : isSpace first = false)
    (closing : isSpace last = false) (middle : Line) :
    stripChars (first :: middle ++ [last]) = first :: middle ++ [last] := by
  simp [stripChars, opening, closing]

theorem stripChars_quote (text : Line) : stripChars (quote text) = quote text :=
  stripChars_between rfl rfl _

theorem stripChars_blank (cs : Line) : stripChars (' ' :: cs) = stripChars cs := rfl

theorem parseScalar_quote (text : Line) : parseScalar (quote text) = .ok text :=
  doubleQuoted_escape _ text []

theorem parseFlowItems_cons {rawItem text : Line} {rawItems texts : List Line}
    (item : stripChars rawItem = quote text) (rest : parseFlowItems rawItems = .ok texts) :
    parseFlowItems (rawItem :: rawItems) = .ok (text :: texts) := by
  have scalar := parseScalar_quote text
  simp only [parseFlowItems, item, scalar, rest]
  simp [quote, List.isPrefixOf, bind, Except.bind]

theorem parseFlowItems_quotes (texts : List Line) :
    parseFlowItems (texts.map fun text => ' ' :: quote text) = .ok texts := by
  induction texts with
  | nil => rfl
  | cons text texts ih => exact parseFlowItems_cons (stripChars_quote text) ih

theorem parseFlowSequence_token (texts : List Line) :
    parseFlowSequence (QuotedValue.sequence texts).token = .ok texts := by
  have ends : ('[' :: QuotedValue.items texts ++ [']']).getLast? = some ']' := List.getLast?_concat
  have inner : (('[' :: QuotedValue.items texts ++ [']']).drop 1).dropLast =
      QuotedValue.items texts := List.dropLast_concat
  rw [QuotedValue.token, parseFlowSequence, ends, inner, if_neg (fun differ => differ rfl)]
  cases texts with
  | nil => rfl
  | cons text texts =>
    have split := splitFlowItems_quote text [] []
      (texts.flatMap fun text => ',' :: ' ' :: quote text)
    rw [QuotedValue.items, split, splitFlowItems_items _ _ _ (by simp [quote])]
    exact parseFlowItems_cons (stripChars_quote text) (parseFlowItems_quotes texts)

theorem parseInline_token (value : QuotedValue) : parseInline value.token = .ok value.field := by
  cases value with
  | scalar text =>
    have scalar := parseScalar_quote text
    simp only [parseInline, QuotedValue.token, scalar]
    rfl
  | sequence texts =>
    have sequence := parseFlowSequence_token texts
    simp only [parseInline, sequence]
    rfl

/-- The token of a value begins with a quote or a bracket, and ends with one. -/
theorem token_ends (value : QuotedValue) :
    ∃ first middle, value.token = first :: middle ∧ (first = '"' ∨ first = '[') ∧
      stripChars value.token = value.token := by
  cases value with
  | scalar text => exact ⟨'"', _, rfl, .inl rfl, stripChars_quote text⟩
  | sequence texts => exact ⟨'[', _, rfl, .inr rfl, stripChars_between rfl rfl _⟩

theorem parseEntry_token (value : QuotedValue)
    (parseList parseMapping : List Line → Nat → Except SkillParseError (Field × List Line))
    (lines : List Line) (indent : Nat) :
    parseEntry parseList parseMapping lines indent (stripChars (' ' :: value.token)) =
      .ok (value.field, lines) := by
  have parsed := parseInline_token value
  obtain ⟨first, middle, shape, opening, stripped⟩ := token_ends value
  have plain : blockStyle? value.token = none := by
    rw [shape]
    rcases opening with rfl | rfl <;> simp [blockStyle?]
  rw [stripChars_blank, stripped, parseEntry, plain]
  simp only [parseItem, parsed]
  rw [if_neg (by simp [shape])]
  rfl

/-! ### The mapping -/

theorem keyLine_fieldLine {f : String × QuotedValue} (valid : ValidKey f.1) :
    keyLine? (fieldLine f) = some (f.1, ' ' :: f.2.token) := by
  obtain ⟨some, chars⟩ := valid
  have colon : isKeyChar ':' = false := by decide
  have taken : (fieldLine f).takeWhile isKeyChar = f.1.toList := by
    rw [fieldLine, List.takeWhile_append_of_pos chars]
    simp [colon]
  have left : (fieldLine f).dropWhile isKeyChar = ':' :: ' ' :: f.2.token := by
    rw [fieldLine, List.dropWhile_append_of_pos chars]
    simp [colon]
  rw [keyLine?, taken, left]
  obtain ⟨c, cs, key⟩ := List.exists_cons_of_ne_nil some
  rw [key]
  show Option.some (String.ofList (c :: cs), ' ' :: f.2.token) = _
  rw [← key, String.ofList_toList]

theorem isSpace_of_isKeyChar {c : Char} (h : isKeyChar c = true) : isSpace c = false := by
  simp only [isKeyChar, Bool.or_eq_true, Bool.and_eq_true, decide_eq_true_eq, Char.le_def,
    UInt32.le_iff_toNat_le, Char.toNat_val, Char.reduceToNat] at h
  rcases h with (((h | h) | h) | rfl) | rfl
  · exact isSpace_of_ascii (by omega) (by omega)
  · exact isSpace_of_ascii (by omega) (by omega)
  · exact isSpace_of_ascii (by omega) (by omega)
  · rfl
  · rfl

/-- A field line begins with the first character of its key. -/
theorem fieldLine_cons {f : String × QuotedValue} (valid : ValidKey f.1) :
    ∃ c cs, fieldLine f = c :: cs ∧ isSpace c = false ∧ c ≠ '#' := by
  obtain ⟨some, chars⟩ := valid
  obtain ⟨c, cs, key⟩ := List.exists_cons_of_ne_nil some
  have char := chars c (by rw [key]; exact List.mem_cons_self)
  refine ⟨c, cs ++ ':' :: ' ' :: f.2.token, by rw [fieldLine, key]; rfl, isSpace_of_isKeyChar char, ?_⟩
  rintro rfl
  cases char

theorem parseMapping_fieldLine {f : String × QuotedValue} (valid : ValidKey f.1) (fuel : Nat)
    (lines : List Line) {result : List (String × Field)} (new : f.1 ∉ Assoc.keys result) :
    parseMapping (fuel + 1) (fieldLine f :: lines) 0 true result =
      parseMapping fuel lines 0 true (result ++ [(f.1, f.2.field)]) := by
  obtain ⟨c, cs, shape, space, hash⟩ := fieldLine_cons valid
  have notBlank : isBlank (fieldLine f) = false := by
    simp [shape, isBlank, stripChars, space]
  have notComment : isComment (fieldLine f) = false := by
    simp [shape, isComment, space, List.isPrefixOf, hash.symm]
  have column : indentOf (fieldLine f) = 0 := by
    have : c ≠ ' ' := by
      rintro rfl
      cases space
    simp [shape, indentOf, this]
  have absent : Assoc.has f.1 result = false := by
    simp [Assoc.has, Assoc.get_eq_none_iff.mpr new]
  rw [parseMapping]
  simp only [notBlank, notComment, column, Nat.lt_irrefl, if_false, Bool.false_eq_true, List.drop_zero,
    keyLine_fieldLine valid, parseEntry_token, absent, Bool.and_false, Bool.or_self]
  rw [← Assoc.set_of_not_mem _ new]
  rfl

theorem parseMapping_fields (fields : List (String × QuotedValue)) (fuel : Nat)
    (enough : fields.length ≤ fuel) (result : List (String × Field))
    (valid : ∀ f ∈ fields, ValidKey f.1)
    (distinct : (Assoc.keys result ++ fields.map Prod.fst).Nodup) :
    parseMapping fuel (fields.map fieldLine) 0 true result =
      .ok (result ++ fields.map fun f => (f.1, f.2.field), []) := by
  induction fields generalizing fuel result with
  | nil => cases fuel <;> simp [parseMapping]
  | cons f fields ih =>
    rw [List.length_cons] at enough
    obtain ⟨fuel, rfl⟩ : ∃ n, fuel = n + 1 := ⟨fuel - 1, by omega⟩
    have new : f.1 ∉ Assoc.keys result := by
      intro old
      exact (List.nodup_append.mp distinct).2.2 _ old _ List.mem_cons_self rfl
    rw [List.map_cons, parseMapping_fieldLine (valid f List.mem_cons_self) fuel _ new,
      ih fuel (by omega) _ fun g mem => valid g (List.mem_cons_of_mem _ mem)]
    · simp
    · simpa [Assoc.keys] using distinct

/-! ### The file -/

/-- The text is one line of a file. -/
def Whole (line : Line) : Prop := ∀ c ∈ line, c ≠ '\n' ∧ c ≠ '\r'

instance (line : Line) : Decidable (Whole line) := inferInstanceAs (Decidable (∀ c ∈ line, _))

theorem Whole.append {xs ys : Line} (hx : Whole xs) (hy : Whole ys) : Whole (xs ++ ys) :=
  List.forall_mem_append.mpr ⟨hx, hy⟩

theorem whole_flatMap {α : Type} {xs : List α} {f : α → Line} (whole : ∀ x ∈ xs, Whole (f x)) :
    Whole (xs.flatMap f) := by
  intro c mem
  obtain ⟨x, there, mem⟩ := List.mem_flatMap.mp mem
  exact whole x there c mem

theorem whole_escape {c : Char} (plain : c ≠ '\r') : Whole (escape c) := by
  unfold escape
  split
  · decide
  split
  · decide
  split
  · decide
  split
  · decide
  · next newline _ =>
      intro d mem
      rw [List.mem_singleton.mp mem]
      exact ⟨newline, plain⟩

theorem whole_quote {text : Line} (plain : '\r' ∉ text) : Whole (quote text) := by
  have inner : Whole (text.flatMap escape) := whole_flatMap fun c mem => whole_escape fun same =>
    plain (same ▸ mem)
  have mark : Whole ['"'] := by decide
  exact (mark.append inner).append mark

theorem whole_token {value : QuotedValue} (plain : ∀ text ∈ value.texts, '\r' ∉ text) :
    Whole value.token := by
  cases value with
  | scalar text => exact whole_quote (plain text List.mem_cons_self)
  | sequence texts =>
    have opening : Whole ['['] := by decide
    have closing : Whole [']'] := by decide
    refine (opening.append ?_).append closing
    cases texts with
    | nil => exact nofun
    | cons text texts =>
      refine (whole_quote (plain text List.mem_cons_self)).append (whole_flatMap fun next mem => ?_)
      have comma : Whole [',', ' '] := by decide
      exact comma.append (whole_quote (plain next (List.mem_cons_of_mem _ mem)))

theorem whole_fieldLine {f : String × QuotedValue} (valid : ValidKey f.1)
    (plain : ∀ text ∈ f.2.texts, '\r' ∉ text) : Whole (fieldLine f) := by
  have key : Whole f.1.toList := by
    intro c mem
    constructor
    · rintro rfl
      cases valid.2 _ mem
    · rintro rfl
      cases valid.2 _ mem
  have colon : Whole [':', ' '] := by decide
  exact key.append (colon.append (whole_token plain))

theorem universalNewlines_append {line : Line} (whole : Whole line) (rest : Line) :
    universalNewlines (line ++ rest) = line ++ universalNewlines rest := by
  induction line with
  | nil => rfl
  | cons c line ih =>
    obtain ⟨⟨-, first⟩, whole⟩ := List.forall_mem_cons.mp whole
    rw [List.cons_append, universalNewlines, ih whole]
    · rfl
    · intro _ same
      exact absurd same first
    · intro same
      exact absurd same first

theorem splitOn_lines {lines : List Line} (whole : ∀ line ∈ lines, Whole line) (body : Line) :
    (universalNewlines (lines.flatMap (· ++ ['\n']) ++ body)).splitOn '\n' =
      lines ++ (universalNewlines body).splitOn '\n' := by
  induction lines with
  | nil => rfl
  | cons line lines ih =>
    have first := whole line List.mem_cons_self
    have next := ih fun l mem => whole l (List.mem_cons_of_mem _ mem)
    rw [List.flatMap_cons, List.append_assoc, List.append_assoc, universalNewlines_append first,
      List.singleton_append, universalNewlines,
      List.splitOn_append_cons_self_of_not_mem fun mem => (first _ mem).1 rfl, next]
    · rfl
    · nofun
    · nofun

theorem splitFrontmatter_lines {lines : List Line} (inside : marker ∉ lines) (bodyLines : List Line) :
    splitFrontmatter (marker :: (lines ++ marker :: bodyLines)) = .ok (lines, bodyLines) := by
  have open_ : ∀ line ∈ lines, decide (line ≠ marker) = true := by
    intro line mem
    rw [decide_eq_true_eq]
    rintro rfl
    exact inside mem
  rw [splitFrontmatter, if_neg (fun differ => differ rfl), List.dropWhile_append_of_pos open_,
    List.takeWhile_append_of_pos open_]
  simp

/-- Every map of distinct keys to texts and lists of texts without carriage returns is read back as
it was written, and the body without the blank lines at its ends. -/
theorem parse_writeSkillFile (fields : List (String × QuotedValue)) (body : Line)
    (distinct : (fields.map Prod.fst).Nodup) (valid : ∀ f ∈ fields, ValidKey f.1)
    (plain : ∀ f ∈ fields, ∀ text ∈ f.2.texts, '\r' ∉ text) :
    parseSkillFile (writeSkillFile fields body) =
      .ok ⟨fields.map fun f => (f.1, f.2.field),
        stripBlankEdges ((universalNewlines body).splitOn '\n')⟩ := by
  have noMark : (['\uFEFF'] : Line).isPrefixOf (writeSkillFile fields body) = false := rfl
  have split : fileLines (writeSkillFile fields body) =
      marker :: (fields.map fieldLine ++ marker :: (universalNewlines body).splitOn '\n') := by
    rw [fileLines, noMark, if_neg Bool.false_ne_true, writeSkillFile, splitOn_lines]
    · simp
    · intro line mem
      rcases List.mem_append.mp mem with mem | mem
      · rcases List.mem_cons.mp mem with rfl | mem
        · decide
        · obtain ⟨f, there, rfl⟩ := List.mem_map.mp mem
          exact whole_fieldLine (valid f there) (plain f there)
      · rw [List.mem_singleton.mp mem]
        decide
  have inside : marker ∉ fields.map fieldLine := by
    intro mem
    obtain ⟨f, -, same⟩ := List.mem_map.mp mem
    have colon : ':' ∈ fieldLine f := by simp [fieldLine]
    rw [same] at colon
    exact absurd colon (by decide)
  have level : (fields.map fieldLine).find? tabIndented = none := by
    rw [List.find?_eq_none]
    intro line mem
    obtain ⟨f, there, rfl⟩ := List.mem_map.mp mem
    obtain ⟨c, cs, shape, space, -⟩ := fieldLine_cons (valid f there)
    simp [tabIndented, shape, space]
  have parsed := parseMapping_fields fields ((fields.map fieldLine).length + 1) (by simp) [] valid
    (by simpa [Assoc.keys] using distinct)
  rw [parseSkillFile, split, splitFrontmatter_lines inside]
  simp only [bind, Except.bind, level, parsed]
  rfl

/-- Two fields whose texts look like the syntax around them. -/
def trickyFields : List (String × QuotedValue) :=
  [("name", .scalar "a\n--- # \"b\"".toList), ("tools", .sequence [" x, [y] ".toList, "\\".toList])]

theorem parse_trickyFields :
    parseSkillFile (writeSkillFile trickyFields "\n \nText\n".toList) =
      .ok ⟨trickyFields.map fun f => (f.1, f.2.field),
        stripBlankEdges ((universalNewlines "\n \nText\n".toList).splitOn '\n')⟩ := by
  apply parse_writeSkillFile
  · decide
  · unfold ValidKey
    decide
  · decide

end Unchain.Skills
