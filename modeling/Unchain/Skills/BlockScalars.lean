import Unchain.Skills.Frontmatter

/-!
Where block scalars come from and what becomes of their text.

Every block scalar in a parsed file stands right below the line of its key, and is made of
all the lines there that are blank or indented deeper than the key (`parseSkillFile_placed`).
The parser reads one line at a time and its fuel is the number of lines, so it never runs
out of it (`parseSkillFile_fuel`).

The value of a literal scalar is its lines with the indentation of the first text cut off.
No text is lost exactly when no line of text is indented less (`literal_lossless_iff`).
-/

namespace Unchain.Skills

open Lib Lib.Effect Python

/-! ### The block scalars of a field -/

inductive Holds (key : String) (scalar : BlockScalar) : Field → Prop where
  | entry {fields} (mem : (key, .block scalar) ∈ fields) : Holds key scalar (.mapping fields)
  | field {fields} {name : String} {field : Field} (mem : (name, field) ∈ fields)
      (h : Holds key scalar field) : Holds key scalar (.mapping fields)
  | item {items} {item : Field} (mem : item ∈ items) (h : Holds key scalar item) :
      Holds key scalar (.list items)

/-- The lines of a block scalar stand below a line with its key and style, and are all those
that are blank or indented deeper than the key. -/
def Placed (lines : List Line) (key : String) (scalar : BlockScalar) : Prop :=
  ∃ before keyLine after rest, lines = before ++ keyLine :: after ∧
    keyLine? (keyLine.drop (indentOf keyLine)) = some (key, rest) ∧
    blockStyle? (stripChars rest) = some (scalar.style, scalar.chomp) ∧
    scalar.source = after.takeWhile (belongsBelow (indentOf keyLine))

def Sourced (lines : List Line) (field : Field) : Prop :=
  ∀ key scalar, Holds key scalar field → Placed lines key scalar

variable {lines : List Line}

theorem sourced_text (text : Line) : Sourced lines (.text text) := nofun

theorem sourced_texts (texts : List Line) : Sourced lines (.list (texts.map .text)) := by
  intro key scalar holds
  cases holds with
  | item mem h =>
    obtain ⟨text, -, rfl⟩ := List.mem_map.mp mem
    cases h

theorem sourced_nil_mapping : Sourced lines (.mapping []) := by
  intro key scalar holds
  cases holds with
  | entry mem => cases mem
  | field mem h => cases mem

theorem sourced_nil_list : Sourced lines (.list []) := by
  intro key scalar holds
  cases holds with
  | item mem h => cases mem

variable {lines : List Line} {value : Field}

theorem sourced_value (sourced : Sourced lines value) (noBlock : ∀ scalar, value ≠ .block scalar)
    (name : String) : Sourced lines (.mapping [(name, value)]) := by
  intro key scalar holds
  cases holds with
  | entry mem =>
    rw [List.mem_singleton, Prod.mk.injEq] at mem
    exact absurd mem.2.symm (noBlock scalar)
  | field mem h =>
    rw [List.mem_singleton, Prod.mk.injEq] at mem
    rw [mem.2] at h
    exact sourced key scalar h

variable {name : String} {scalar : BlockScalar}

theorem sourced_block (placed : Placed lines name scalar) :
    Sourced lines (.mapping [(name, .block scalar)]) := by
  intro key scalar' holds
  cases holds with
  | entry mem =>
    rw [List.mem_singleton, Prod.mk.injEq, Field.block.injEq] at mem
    rw [mem.1, mem.2]
    exact placed
  | field mem h =>
    rw [List.mem_singleton, Prod.mk.injEq] at mem
    rw [mem.2] at h
    cases h

theorem Sourced.set {fields : List (String × Field)} (old : Sourced lines (.mapping fields))
    (new : Sourced lines (.mapping [(name, value)])) :
    Sourced lines (.mapping (Assoc.set name value fields)) := by
  intro key scalar holds
  cases holds with
  | entry mem =>
    rcases Assoc.mem_of_mem_set mem with same | mem
    · exact new key scalar (.entry (List.mem_singleton.mpr same))
    · exact old key scalar (.entry mem)
  | field mem h =>
    rcases Assoc.mem_of_mem_set mem with same | mem
    · exact new key scalar (.field (List.mem_singleton.mpr same) h)
    · exact old key scalar (.field mem h)

theorem Sourced.snoc {items : List Field} {item : Field} (old : Sourced lines (.list items))
    (new : Sourced lines item) :
    Sourced lines (.list (items ++ [item])) := by
  intro key scalar holds
  cases holds with
  | item mem h =>
    rcases List.mem_append.mp mem with mem | mem
    · exact old key scalar (.item mem h)
    · rw [List.mem_singleton.mp mem] at h
      exact new key scalar h

/-! ### One value -/

/-- What a parser of indented lines makes of the end of a file: a value whose block scalars
stand in the file, and an end of the lines it was given. -/
def Reads (file : List Line)
    (parse : List Line → Nat → Except SkillParseError (Field × List Line)) : Prop :=
  ∀ lines indent value rest, parse lines indent = .ok (value, rest) →
    rest <:+ lines ∧ (∀ scalar, value ≠ .block scalar) ∧ (lines <:+ file → Sourced file value)

/-- A parser for which that many lines are not too many. -/
def Enough (n : Nat)
    (parse : List Line → Nat → Except SkillParseError (Field × List Line)) : Prop :=
  ∀ lines indent, lines.length ≤ n → parse lines indent ≠ .error .outOfFuel

theorem peekMeaningful_suffix (lines : List Line) : peekMeaningful lines <:+ lines :=
  List.dropWhile_suffix _

section Values

variable {file : List Line}
  {parseList parseMapping : List Line → Nat → Except SkillParseError (Field × List Line)}

theorem parseInline_ok {token : Line} {value : Field} (h : parseInline token = .ok value) :
    (∀ scalar, value ≠ .block scalar) ∧ Sourced file value := by
  unfold parseInline at h
  split at h
  · obtain ⟨texts, -, rfl⟩ := map_ok h
    exact ⟨nofun, sourced_texts texts⟩
  · split at h
    · cases h
    · obtain ⟨text, -, rfl⟩ := map_ok h
      exact ⟨nofun, sourced_text text⟩

theorem parseBelow_reads (list : Reads file parseList) (mapping : Reads file parseMapping) :
    Reads file (parseBelow parseList parseMapping) := by
  intro lines indent value rest h
  have suffix := peekMeaningful_suffix lines
  unfold parseBelow at h
  split at h
  · cases h
    exact ⟨List.suffix_refl _, nofun, fun _ => sourced_text []⟩
  · rename_i next more meaningful
    rw [meaningful] at suffix
    split at h
    · split at h
      · obtain ⟨left, noBlock, sourced⟩ := list _ _ _ _ h
        exact ⟨left.trans suffix, noBlock, fun inFile => sourced (suffix.trans inFile)⟩
      · obtain ⟨left, noBlock, sourced⟩ := mapping _ _ _ _ h
        exact ⟨left.trans suffix, noBlock, fun inFile => sourced (suffix.trans inFile)⟩
    · cases h
      exact ⟨List.suffix_refl _, nofun, fun _ => sourced_text []⟩

theorem parseItem_reads (list : Reads file parseList) (mapping : Reads file parseMapping)
    (token : Line) :
    Reads file fun lines indent => parseItem parseList parseMapping lines indent token := by
  intro lines indent value rest h
  unfold parseItem at h
  split at h
  · exact parseBelow_reads list mapping _ _ _ _ h
  · obtain ⟨inline, made, same⟩ := map_ok h
    cases same
    obtain ⟨noBlock, sourced⟩ := @parseInline_ok file _ _ made
    exact ⟨List.suffix_refl _, noBlock, fun _ => sourced⟩

/-- The value of a key, which may be a block scalar right below it. -/
theorem parseEntry_ok (list : Reads file parseList) (mapping : Reads file parseMapping)
    {keyLine rest : Line} {left : List Line} {key : String} {value : Field}
    (named : keyLine? (keyLine.drop (indentOf keyLine)) = some (key, rest))
    (h : parseEntry parseList parseMapping lines (indentOf keyLine) (stripChars rest)
      = .ok (value, left)) :
    left <:+ lines ∧ (keyLine :: lines <:+ file → Sourced file (.mapping [(key, value)])) := by
  unfold parseEntry at h
  split at h
  · rename_i style chomp styled
    cases h
    refine ⟨List.dropWhile_suffix _, ?_⟩
    rintro ⟨before, rfl⟩
    exact sourced_block ⟨before, keyLine, lines, rest, rfl, named, styled, rfl⟩
  · obtain ⟨suffix, noBlock, sourced⟩ := parseItem_reads list mapping _ _ _ _ _ h
    refine ⟨suffix, fun inFile => sourced_value (sourced ?_) noBlock key⟩
    exact (List.suffix_cons keyLine lines).trans inFile

end Values

/-! ### Enough fuel -/

/-- The computation fails for a reason of its own, if it fails. -/
def Fueled {α : Type} (x : Except SkillParseError α) : Prop := x ≠ .error .outOfFuel

section Fuel

variable {α β : Type} {x : Except SkillParseError α}

theorem fueled_ok (a : α) : Fueled (.ok a) := nofun

theorem Fueled.map (f : α → β) (h : Fueled x) : Fueled (x.map f) := by
  cases x with
  | ok a => exact nofun
  | error e =>
    intro same
    exact h (congrArg Except.error (Except.error.inj same))

theorem Fueled.bind {f : α → Except SkillParseError β} (h : Fueled x)
    (next : ∀ a, x = .ok a → Fueled (f a)) : Fueled (x >>= f) := by
  cases x with
  | ok a => exact next a rfl
  | error e =>
    intro same
    exact h (congrArg Except.error (Except.error.inj same))

theorem doubleQuoted_fueled (token cs : Line) : Fueled (doubleQuoted token cs) := by
  fun_induction doubleQuoted token cs with
  | case1 | case2 | case3 | case5 => exact nofun
  | case4 c cs d _ ih | case6 c cs _ _ _ ih => exact ih.map _

theorem parseScalar_fueled (token : Line) : Fueled (parseScalar token) := by
  unfold parseScalar
  split
  · exact nofun
  · exact nofun
  · exact nofun
  · split
    · exact nofun
    · exact nofun
  · exact doubleQuoted_fueled _ _
  · exact nofun

theorem parseFlowItems_fueled (items : List Line) : Fueled (parseFlowItems items) := by
  induction items with
  | nil => exact nofun
  | cons item items ih =>
    unfold parseFlowItems
    dsimp only
    split
    · exact ih
    · split
      · exact nofun
      · split
        · exact nofun
        · exact (parseScalar_fueled _).bind fun _ _ => ih.bind fun _ _ => fueled_ok _

theorem parseInline_fueled (token : Line) : Fueled (parseInline token) := by
  unfold parseInline
  split
  · apply Fueled.map
    unfold parseFlowSequence
    split
    · exact nofun
    · exact parseFlowItems_fueled _
  · split
    · exact nofun
    · exact (parseScalar_fueled token).map _

variable {n : Nat}
  {parseList parseMapping : List Line → Nat → Except SkillParseError (Field × List Line)}

theorem parseItem_fueled (list : Enough n parseList) (mapping : Enough n parseMapping)
    (token : Line) :
    Enough n fun lines indent => parseItem parseList parseMapping lines indent token := by
  intro lines indent short
  have suffix := (peekMeaningful_suffix lines).length_le
  show Fueled (parseItem parseList parseMapping lines indent token)
  unfold parseItem
  split
  · unfold parseBelow
    split
    · exact nofun
    · rename_i next more meaningful
      rw [meaningful] at suffix
      split
      · split
        · exact list _ _ (Nat.le_trans suffix short)
        · exact mapping _ _ (Nat.le_trans suffix short)
      · exact nofun
  · exact (parseInline_fueled token).map _

theorem parseEntry_fueled (list : Enough n parseList) (mapping : Enough n parseMapping)
    (token : Line) :
    Enough n fun lines indent => parseEntry parseList parseMapping lines indent token := by
  intro lines indent short
  unfold parseEntry
  split
  · exact nofun
  · exact parseItem_fueled list mapping token lines indent short

end Fuel

/-! ### Mappings and lists -/

/-- A list, as a value below a key or an item. -/
def listBelow (fuel : Nat) (lines : List Line) (indent : Nat) :
    Except SkillParseError (Field × List Line) :=
  (parseList fuel lines indent []).map fun r => (.list r.1, r.2)

/-- A mapping, as a value below a key or an item. -/
def mappingBelow (fuel : Nat) (lines : List Line) (indent : Nat) :
    Except SkillParseError (Field × List Line) :=
  (parseMapping fuel lines indent false []).map fun r => (.mapping r.1, r.2)

/-- Both parsers leave an end of their lines, and the block scalars they find stand in the
file. -/
structure ReadsFile (file : List Line) (fuel : Nat) : Prop where
  mapping : ∀ lines indent topLevel result fields left,
    parseMapping fuel lines indent topLevel result = .ok (fields, left) →
    left <:+ lines ∧
      (lines <:+ file → Sourced file (.mapping result) → Sourced file (.mapping fields))
  list : ∀ lines indent items out left, parseList fuel lines indent items = .ok (out, left) →
    left <:+ lines ∧ (lines <:+ file → Sourced file (.list items) → Sourced file (.list out))

variable {file : List Line} {fuel : Nat}

theorem ReadsFile.mappingBelow (h : ReadsFile file fuel) : Reads file (mappingBelow fuel) := by
  intro lines indent value left read
  obtain ⟨⟨fields, left'⟩, parsed, same⟩ := map_ok read
  cases same
  obtain ⟨suffix, sourced⟩ := h.mapping _ _ _ _ _ _ parsed
  exact ⟨suffix, nofun, fun inFile => sourced inFile (sourced_nil_mapping)⟩

theorem ReadsFile.listBelow (h : ReadsFile file fuel) : Reads file (listBelow fuel) := by
  intro lines indent value left read
  obtain ⟨⟨items, left'⟩, parsed, same⟩ := map_ok read
  cases same
  obtain ⟨suffix, sourced⟩ := h.list _ _ _ _ _ parsed
  exact ⟨suffix, nofun, fun inFile => sourced inFile (sourced_nil_list)⟩

theorem parseMapping_cons (fuel : Nat) (line : Line) (indent : Nat) (topLevel : Bool)
    (result : List (String × Field)) :
    parseMapping (fuel + 1) (line :: lines) indent topLevel result
      = if isBlank line || isComment line then parseMapping fuel lines indent topLevel result
        else if indentOf line < indent then .ok (result, line :: lines)
        else if indent < indentOf line then .error (.invalidLine (stripChars line))
        else
          match keyLine? (line.drop indent) with
          | none => .error (.invalidLine (stripChars line))
          | some (key, rest) =>
            parseEntry (listBelow fuel) (mappingBelow fuel) lines indent (stripChars rest) >>=
              fun r =>
                if topLevel && duplicateSensitiveKeys.contains key && Assoc.has key result then
                  .error (.duplicateKey key)
                else parseMapping fuel r.2 indent topLevel (Assoc.set key r.1 result) := by
  rfl

theorem parseList_cons (fuel : Nat) (line : Line) (indent : Nat) (items : List Field) :
    parseList (fuel + 1) (line :: lines) indent items
      = if isBlank line || isComment line then parseList fuel lines indent items
        else if indentOf line < indent then .ok (items, line :: lines)
        else if indent < indentOf line then .error (.invalidLine (stripChars line))
        else if !isItem (line.drop indent) then .error (.invalidLine (stripChars line))
        else
          parseItem (listBelow fuel) (mappingBelow fuel) lines indent
              (stripChars ((line.drop indent).drop 2)) >>= fun r =>
            parseList fuel r.2 indent (items ++ [r.1]) := by
  rfl

theorem all_kept {lines : List Line} {p q : Prop} : lines <:+ lines ∧ (p → q → q) :=
  ⟨List.suffix_refl _, fun _ sourced => sourced⟩

theorem readsFile (file : List Line) (fuel : Nat) : ReadsFile file fuel := by
  induction fuel with
  | zero =>
    constructor
    · intro lines indent topLevel result fields left h
      cases lines with
      | nil =>
        cases h
        exact all_kept
      | cons line lines => cases h
    · intro lines indent items out left h
      cases lines with
      | nil =>
        cases h
        exact all_kept
      | cons line lines => cases h
  | succ fuel ih =>
    constructor
    · intro lines indent topLevel result fields left h
      cases lines with
      | nil =>
        cases h
        exact all_kept
      | cons line lines =>
        rw [parseMapping_cons] at h
        have later := List.suffix_cons line lines
        split at h
        · obtain ⟨suffix, sourced⟩ := ih.mapping _ _ _ _ _ _ h
          exact ⟨suffix.trans later, fun inFile => sourced (later.trans inFile)⟩
        · split at h
          · cases h
            exact all_kept
          · split at h
            · cases h
            · have here : indent = indentOf line := by omega
              subst here
              split at h
              · cases h
              · rename_i key rest named
                rw [bind_iff] at h
                obtain ⟨⟨value, between⟩, entry, h⟩ := h
                obtain ⟨suffix, sourced⟩ := parseEntry_ok ih.listBelow ih.mappingBelow named entry
                split at h
                · cases h
                · obtain ⟨suffix', sourced'⟩ := ih.mapping _ _ _ _ _ _ h
                  refine ⟨(suffix'.trans suffix).trans later, ?_⟩
                  intro inFile old
                  exact sourced' ((suffix.trans later).trans inFile) (old.set (sourced inFile))
    · intro lines indent items out left h
      cases lines with
      | nil =>
        cases h
        exact all_kept
      | cons line lines =>
        rw [parseList_cons] at h
        have later := List.suffix_cons line lines
        split at h
        · obtain ⟨suffix, sourced⟩ := ih.list _ _ _ _ _ h
          exact ⟨suffix.trans later, fun inFile => sourced (later.trans inFile)⟩
        · split at h
          · cases h
            exact all_kept
          · split at h
            · cases h
            · split at h
              · cases h
              · rw [bind_iff] at h
                obtain ⟨⟨value, between⟩, item, h⟩ := h
                obtain ⟨suffix, -, sourced⟩ :=
                  parseItem_reads ih.listBelow ih.mappingBelow _ _ _ _ _ item
                obtain ⟨suffix', sourced'⟩ := ih.list _ _ _ _ _ h
                refine ⟨(suffix'.trans suffix).trans later, ?_⟩
                intro inFile old
                have inLines := later.trans inFile
                exact sourced' (suffix.trans inLines) (old.snoc (sourced inLines))

/-- As many rounds as there are lines are enough for both parsers. -/
structure FuelEnough (fuel : Nat) : Prop where
  mapping : ∀ lines indent topLevel result, lines.length ≤ fuel →
    Fueled (parseMapping fuel lines indent topLevel result)
  list : ∀ lines indent items, lines.length ≤ fuel → Fueled (parseList fuel lines indent items)

theorem fuelEnough (fuel : Nat) : FuelEnough fuel := by
  induction fuel with
  | zero =>
    constructor
    · intro lines indent topLevel result short
      rw [List.length_eq_zero_iff.mp (Nat.le_zero.mp short)]
      rintro ⟨⟩
    · intro lines indent items short
      rw [List.length_eq_zero_iff.mp (Nat.le_zero.mp short)]
      rintro ⟨⟩
  | succ fuel ih =>
    have listBelow : Enough fuel (listBelow fuel) := fun lines indent short =>
      (ih.list lines indent [] short).map _
    have mappingBelow : Enough fuel (mappingBelow fuel) := fun lines indent short =>
      (ih.mapping lines indent false [] short).map _
    constructor
    · intro lines indent topLevel result short
      cases lines with
      | nil => rintro ⟨⟩
      | cons line lines =>
        have shorter : lines.length ≤ fuel := Nat.le_of_succ_le_succ short
        rw [parseMapping_cons]
        split
        · exact ih.mapping _ _ _ _ shorter
        · split
          · rintro ⟨⟩
          · split
            · rintro ⟨⟩
            · have here : indent = indentOf line := by omega
              subst here
              split
              · rintro ⟨⟩
              · rename_i key rest named
                apply Fueled.bind (parseEntry_fueled listBelow mappingBelow _ _ _ shorter)
                rintro ⟨value, left⟩ entry
                have suffix := (parseEntry_ok (readsFile [] fuel).listBelow
                  (readsFile [] fuel).mappingBelow named entry).1
                split
                · rintro ⟨⟩
                · exact ih.mapping _ _ _ _ (Nat.le_trans suffix.length_le shorter)
    · intro lines indent items short
      cases lines with
      | nil => rintro ⟨⟩
      | cons line lines =>
        have shorter : lines.length ≤ fuel := Nat.le_of_succ_le_succ short
        rw [parseList_cons]
        split
        · exact ih.list _ _ _ shorter
        · split
          · rintro ⟨⟩
          · split
            · rintro ⟨⟩
            · split
              · rintro ⟨⟩
              · apply Fueled.bind (parseItem_fueled listBelow mappingBelow _ _ _ shorter)
                rintro ⟨value, left⟩ item
                have suffix := (parseItem_reads (readsFile [] fuel).listBelow
                  (readsFile [] fuel).mappingBelow _ _ _ _ _ item).1
                exact ih.list _ _ _ (Nat.le_trans suffix.length_le shorter)

/-! ### The lines of a file -/

/-- A text that is not cut by `split("\n")`. -/
def Unbroken (line : Line) : Prop := '\n' ∉ line

variable {line text : Line}

theorem unbroken_of_mem_splitOn (mem : line ∈ text.splitOn '\n') : Unbroken line := by
  induction text generalizing line with
  | nil =>
    rw [List.splitOn_nil, List.mem_singleton] at mem
    rw [mem]
    exact List.not_mem_nil
  | cons c text ih =>
    rw [List.splitOn_cons_eq_if_modifyHead] at mem
    split at mem
    · rcases List.mem_cons.mp mem with rfl | mem
      · exact List.not_mem_nil
      · exact ih mem
    · rename_i ordinary
      obtain ⟨first, rest, split⟩ := List.exists_cons_of_ne_nil (List.splitOn_ne_nil '\n' text)
      rw [split, List.modifyHead_cons] at mem
      rcases List.mem_cons.mp mem with rfl | mem
      · intro broken
        rcases List.mem_cons.mp broken with rfl | broken
        · exact ordinary (BEq.refl _)
        · exact ih (split ▸ List.mem_cons_self) broken
      · exact ih (split ▸ List.mem_cons_of_mem _ mem)

theorem splitFrontmatter_ok {body : List Line} (h : splitFrontmatter file = .ok (lines, body)) :
    ∀ line ∈ lines, line ∈ file := by
  cases file with
  | nil => cases h
  | cons first rest =>
    rw [splitFrontmatter] at h
    split at h
    · cases h
    · cases closing : rest.dropWhile (· ≠ marker) with
      | nil =>
        rw [closing] at h
        cases h
      | cons close body' =>
        rw [closing] at h
        cases h
        intro line mem
        exact List.mem_cons_of_mem _ ((List.takeWhile_prefix _).subset mem)

theorem parseSkillFile_placed {parsed : ParsedSkillFile}
    (accepted : parseSkillFile text = .ok parsed) :
    ∃ lines body, splitFrontmatter (fileLines text) = .ok (lines, body) ∧
      (∀ line ∈ lines, Unbroken line) ∧ Sourced lines (.mapping parsed.fields) := by
  unfold parseSkillFile at accepted
  rw [bind_iff] at accepted
  obtain ⟨⟨lines, body⟩, split, accepted⟩ := accepted
  refine ⟨lines, body, split, ?_, ?_⟩
  · intro line mem
    exact unbroken_of_mem_splitOn (splitFrontmatter_ok split line mem)
  · dsimp only at accepted
    split at accepted
    · cases accepted
    · rw [bind_iff] at accepted
      obtain ⟨⟨fields, left⟩, parsed, same⟩ := accepted
      cases same
      exact ((readsFile lines _).mapping _ _ _ _ _ _ parsed).2 (List.suffix_refl _)
        (sourced_nil_mapping)

theorem parseSkillFile_fuel (text : Line) : parseSkillFile text ≠ .error .outOfFuel := by
  apply Fueled.bind
  · unfold splitFrontmatter
    split
    · exact nofun
    · split
      · exact nofun
      · split
        · exact nofun
        · exact nofun
  · rintro ⟨lines, body⟩ -
    dsimp only
    split
    · exact nofun
    · exact ((fuelEnough _).mapping _ _ _ _ (Nat.le_succ _)).bind fun _ _ => fueled_ok _

/-! ### The text of a literal scalar -/

def trimEnd (lines : List Line) : List Line := lines.rdropWhile List.isEmpty

theorem trimEnd_concat_nil : trimEnd (lines ++ [[]]) = trimEnd lines :=
  List.rdropWhile_concat_pos _ _ _ rfl

theorem trimEnd_trimEnd : trimEnd (trimEnd lines) = trimEnd lines :=
  List.rdropWhile_idempotent _ _

/-- A list is its trimmed front and as many empty lines as are missing. -/
theorem trimEnd_append (lines : List Line) :
    lines = trimEnd lines ++ List.replicate (lines.length - (trimEnd lines).length) [] := by
  induction lines using List.reverseRecOn with
  | nil => rfl
  | append_singleton lines line ih =>
    by_cases empty : line.isEmpty = true
    · have nil : line = [] := List.isEmpty_iff.mp empty
      subst nil
      have fewer : (trimEnd lines).length ≤ lines.length :=
        (List.rdropWhile_prefix List.isEmpty lines).length_le
      rw [trimEnd_concat_nil, List.length_append, List.length_singleton,
        show lines.length + 1 - (trimEnd lines).length
          = lines.length - (trimEnd lines).length + 1 by omega,
        List.replicate_succ', ← List.append_assoc, ← ih]
    · have kept : trimEnd (lines ++ [line]) = lines ++ [line] :=
        List.rdropWhile_concat_neg _ _ _ empty
      rw [kept, Nat.sub_self]
      simp

theorem eq_of_trimEnd {xs ys : List Line} (same : trimEnd xs = trimEnd ys)
    (lengths : xs.length = ys.length) : xs = ys := by
  rw [trimEnd_append xs, trimEnd_append ys, same, lengths]

theorem trimEnd_splitOn_joinLines (unbroken : ∀ line ∈ lines, Unbroken line) :
    trimEnd ((joinLines lines).splitOn '\n') = trimEnd lines := by
  by_cases none : lines = []
  · subst none
    rfl
  · rw [joinLines, List.splitOn_intercalate '\n' unbroken none]

theorem trimEnd_splitOn_newline (unbroken : ∀ line ∈ lines, Unbroken line) :
    trimEnd ((joinLines lines ++ ['\n']).splitOn '\n') = trimEnd lines := by
  rw [List.splitOn_append_cons_self, List.splitOn_nil, trimEnd_concat_nil,
    trimEnd_splitOn_joinLines unbroken]

theorem lines_of_literal {content : List Line} (unbroken : ∀ line ∈ content, Unbroken line)
    (chomp : Chomp) :
    trimEnd ((renderBlockScalar content .literal chomp).splitOn '\n') = trimEnd content := by
  unfold renderBlockScalar
  split
  · rename_i none
    rw [List.isEmpty_iff.mp none]
    rfl
  · have trimmed : ∀ line ∈ trimEnd content, Unbroken line := fun line mem =>
      unbroken line ((List.rdropWhile_prefix List.isEmpty content).subset mem)
    cases chomp with
    | strip => exact (trimEnd_splitOn_joinLines trimmed).trans (trimEnd_trimEnd)
    | clip => exact (trimEnd_splitOn_newline trimmed).trans (trimEnd_trimEnd)
    | keep => exact trimEnd_splitOn_newline unbroken

/-- A line of a block scalar without `n` characters of indentation. -/
def dedent (n : Nat) (line : Line) : Line := if isBlank line then [] else line.drop n

theorem isBlank_nil : isBlank [] = true := rfl

variable {blockIndent : Nat} {source : List Line}

theorem contentLines_eq (first : blockIndent? source = some blockIndent) :
    contentLines source = source.map (dedent blockIndent) := by
  rw [contentLines, first, rawLines]
  show List.map _ (List.map _ source) = _
  rw [List.map_map]
  apply List.map_congr_left
  intro line _
  rw [Function.comp_apply, dedent]
  cases blank : isBlank line with
  | true => rfl
  | false =>
    have some : line.isEmpty = false := by
      rw [List.isEmpty_eq_false_iff]
      rintro rfl
      cases blank
    simp [some]

theorem blockIndent?_none (none : blockIndent? source = none) :
    ∀ line ∈ source, isBlank line = true := by
  rw [blockIndent?, Option.map_eq_none_iff, List.find?_eq_none] at none
  intro line mem
  by_contra text
  rw [Bool.not_eq_true] at text
  have entry := none line (List.mem_map.mpr ⟨line, mem, by rw [text]; rfl⟩)
  rw [Bool.not_eq_true, Bool.not_eq_false', List.isEmpty_iff] at entry
  rw [entry] at text
  cases text

theorem blockIndent?_some (first : blockIndent? source = some blockIndent) :
    ∃ line ∈ source, isBlank line = false ∧ indentOf line = blockIndent := by
  rw [blockIndent?, Option.map_eq_some_iff] at first
  obtain ⟨entry, found, same⟩ := first
  obtain ⟨line, mem, made⟩ := List.mem_map.mp (List.mem_of_find?_eq_some found)
  have some : (!entry.isEmpty) = true :=
    @List.find?_some _ (fun entry : Line => !entry.isEmpty) _ _ found
  cases blank : isBlank line with
  | true =>
    rw [blank] at made
    rw [← made] at some
    cases some
  | false =>
    rw [blank] at made
    have same' : line = entry := made
    exact ⟨line, mem, blank, same' ▸ same⟩

theorem indentOf_lt_length (text : isBlank line = false) : indentOf line < line.length := by
  have le : indentOf line ≤ line.length := (List.takeWhile_prefix _).length_le
  apply Nat.lt_of_le_of_ne le
  intro all
  -- a line of spaces only is blank
  have spaces : line.takeWhile (· = ' ') = line := (List.takeWhile_prefix _).eq_of_length all
  have gone : line.dropWhile isSpace = [] := by
    rw [List.dropWhile_eq_nil_iff]
    intro c mem
    rw [← spaces] at mem
    have space := List.mem_takeWhile_imp mem
    rw [decide_eq_true_eq] at space
    rw [space]
    rfl
  rw [isBlank, stripChars, gone] at text
  cases text

/-- The value's lines are the lines of the scalar without a common indentation, up to empty
lines at the end, which chomping rules. -/
def Lossless (scalar : BlockScalar) : Prop :=
  ∃ n, (∀ line ∈ scalar.source, isBlank line = false → n ≤ indentOf line) ∧
    trimEnd (scalar.value.splitOn '\n') = trimEnd (scalar.source.map (dedent n))

/-- No line of text is indented less than the first one. -/
def EvenlyIndented (scalar : BlockScalar) : Prop :=
  ∀ blockIndent, blockIndent? scalar.source = some blockIndent →
    ∀ line ∈ scalar.source, isBlank line = false → blockIndent ≤ indentOf line

theorem lossless_iff (literal : scalar.style = .literal)
    (unbroken : ∀ line ∈ scalar.source, Unbroken line) :
    Lossless scalar ↔ EvenlyIndented scalar := by
  have dedented (n : Nat) : ∀ line ∈ scalar.source.map (dedent n), Unbroken line := by
    intro line mem
    obtain ⟨whole, inSource, rfl⟩ := List.mem_map.mp mem
    unfold dedent
    split
    · exact List.not_mem_nil
    · exact fun broken => unbroken whole inSource (List.mem_of_mem_drop broken)
  rw [Lossless, BlockScalar.value, literal]
  cases first : blockIndent? scalar.source with
  | none =>
    have blank := blockIndent?_none first
    constructor
    · intro _ blockIndent some
      cases first.symm.trans some
    · intro _
      refine ⟨0, fun line mem text => Nat.zero_le _, ?_⟩
      have none : contentLines scalar.source = [] := by rw [contentLines, first]
      have empty : ∀ line ∈ scalar.source.map (dedent 0), line.isEmpty = true := by
        intro line mem
        obtain ⟨whole, inSource, rfl⟩ := List.mem_map.mp mem
        rw [dedent, blank whole inSource]
        rfl
      rw [none, @lines_of_literal [] (fun _ mem => absurd mem List.not_mem_nil), trimEnd, trimEnd,
        List.rdropWhile_eq_nil_iff.mpr empty]
      rfl
  | some blockIndent =>
    have content := contentLines_eq first
    rw [content, lines_of_literal (dedented blockIndent)]
    obtain ⟨head, mem, text, indent⟩ := blockIndent?_some first
    constructor
    · rintro ⟨n, common, same⟩ blockIndent' first' line mem' text'
      cases first.symm.trans first'
      -- both cut the same off the first line with text, so both cut the same
      have lines := eq_of_trimEnd same (by rw [List.length_map, List.length_map])
      have cut := List.map_inj_left.mp lines head mem
      rw [dedent, dedent, text] at cut
      have lengths := congrArg List.length cut
      simp only [Bool.false_eq_true, if_false, List.length_drop] at lengths
      have inside := indentOf_lt_length text
      have given := common line mem' text'
      omega
    · intro even
      exact ⟨blockIndent, fun line mem text => even blockIndent first line mem text, rfl⟩

/-- For every accepted file and every key whose value is a literal block scalar: the scalar
stands below its key, and its text is all there exactly when no line of text is indented
less than the first one. -/
theorem literal_lossless_iff {text : Line} {parsed : ParsedSkillFile}
    (accepted : parseSkillFile text = .ok parsed) {key : String} {scalar : BlockScalar}
    (holds : Holds key scalar (.mapping parsed.fields)) (literal : scalar.style = .literal) :
    (∃ lines body, splitFrontmatter (fileLines text) = .ok (lines, body) ∧
        Placed lines key scalar) ∧
      (Lossless scalar ↔ EvenlyIndented scalar) := by
  obtain ⟨lines, body, split, unbroken, sourced⟩ := parseSkillFile_placed accepted
  have placed := sourced key scalar holds
  constructor
  · exact ⟨lines, body, split, placed⟩
  · apply lossless_iff literal
    obtain ⟨before, keyLine, after, rest, rfl, -, -, source⟩ := placed
    rw [source]
    intro line mem
    apply unbroken
    rw [List.mem_append, List.mem_cons]
    exact .inr (.inr ((List.takeWhile_prefix _).subset mem))

/-! ### A second line that is indented less -/

variable (first second : String)

def noteScalar : BlockScalar :=
  ⟨.literal, .clip, [first.toList, second.toList]⟩

def noteFile : Line :=
  "---\nnote: |\n".toList ++ first.toList ++ '\n' :: second.toList ++ "\n---".toList

/-- What the parser makes of it. -/
def parsedNote : ParsedSkillFile :=
  ⟨[("note", .block (noteScalar first second))], []⟩

theorem holds_note :
    Holds "note" (noteScalar first second) (.mapping (parsedNote first second).fields) :=
  .entry List.mem_cons_self

/-- The second line begins two columns before the first, and loses two letters. -/
theorem text_lost :
    parseSkillFile (noteFile "    one" "  two") = .ok (parsedNote "    one" "  two") ∧
      Holds "note" (noteScalar "    one" "  two")
        (.mapping (parsedNote "    one" "  two").fields) ∧
      (noteScalar "    one" "  two").value = "one\no\n".toList ∧
      ¬ Lossless (noteScalar "    one" "  two") := by
  refine ⟨by rfl, holds_note _ _, by decide, ?_⟩
  have unbroken : ∀ line ∈ (noteScalar "    one" "  two").source, Unbroken line := by
    unfold Unbroken
    decide
  rw [lossless_iff rfl unbroken]
  intro even
  have deep := even 4 (by decide) "  two".toList (by decide) (by decide)
  exact absurd deep (by decide)

/-- A second line that is indented more keeps its text. -/
theorem text_kept :
    (noteScalar "  one" "    two").value = "one\n  two\n".toList ∧
      ((∃ lines body, splitFrontmatter (fileLines (noteFile "  one" "    two")) = .ok (lines, body) ∧
          Placed lines "note" (noteScalar "  one" "    two")) ∧
        (Lossless (noteScalar "  one" "    two") ↔ EvenlyIndented (noteScalar "  one" "    two"))) := by
  constructor
  · decide
  · have accepted : parseSkillFile (noteFile "  one" "    two")
        = .ok (parsedNote "  one" "    two") := by rfl
    exact literal_lossless_iff accepted (holds_note _ _) rfl

end Unchain.Skills
