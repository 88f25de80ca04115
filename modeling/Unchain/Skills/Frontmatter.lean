import Unchain.Python.Builtins
import Unchain.Python.Lines
import Unchain.Workspace.Files

/-!
The frontmatter of a skill file (`skills/frontmatter.py`).

The parser reads a small part of YAML: mappings and lists by indentation, plain, quoted
and flow scalars, and block scalars. What it makes of a block scalar is kept next to the
lines it was made from, so that a result can be compared with its source.

The indentation of a block scalar is that of its first line with text, and it is cut off
every line by position, whatever stands there.
-/

namespace Unchain.Skills

open Lib Python

abbrev Line := List Char

/-- The reasons for a `SkillParseError`. The last one is no error of the parser: it says
that the fuel of a loop ran out, which never happens (`parseMapping_fuel`). -/
inductive SkillParseError where
  | missing
  | unterminated
  | tabIndentation (line : Line)
  | invalidLine (line : Line)
  | duplicateKey (key : String)
  | flowMapping (token : Line)
  | unterminatedFlow (token : Line)
  | nestedFlow (token : Line)
  | unsupportedTag (token : Line)
  | unsupportedAnchor (token : Line)
  | unsupportedAlias (token : Line)
  | unterminatedSingleQuoted (token : Line)
  | invalidEscape (token : Line)
  | unsupportedEscape (c : Char)
  | unterminatedDoubleQuoted (token : Line)
  | outOfFuel

/-- The message of the error; `repr` prints a text between quotes. -/
def SkillParseError.message (repr : Line → String) : SkillParseError → String
  | .missing => "missing YAML frontmatter delimited by ---"
  | .unterminated => "unterminated YAML frontmatter"
  | .tabIndentation line => "tab characters are not allowed for indentation: " ++ repr line
  | .invalidLine line => "invalid frontmatter line: " ++ repr line
  | .duplicateKey key => "duplicate frontmatter key: " ++ repr key.toList
  | .flowMapping token => "flow mappings are not supported: " ++ repr token
  | .unterminatedFlow token => "unterminated flow sequence: " ++ repr token
  | .nestedFlow token => "nested flow sequences are not supported: " ++ repr token
  | .unsupportedTag token => "unsupported YAML tag: " ++ repr token
  | .unsupportedAnchor token => "unsupported YAML anchor: " ++ repr token
  | .unsupportedAlias token => "unsupported YAML alias: " ++ repr token
  | .unterminatedSingleQuoted token => "unterminated single-quoted scalar: " ++ repr token
  | .invalidEscape token => "invalid escape sequence in double-quoted scalar: " ++ repr token
  | .unsupportedEscape c => "unsupported escape sequence: \\" ++ String.singleton c
  | .unterminatedDoubleQuoted token => "unterminated double-quoted scalar: " ++ repr token
  | .outOfFuel => ""

/-! ### Lines -/

/-- `_indent_of`. -/
def indentOf (line : Line) : Nat := (line.takeWhile (· = ' ')).length

/-- `_is_blank`. -/
def isBlank (line : Line) : Bool := (stripChars line).isEmpty

/-- `_is_comment`. -/
def isComment (line : Line) : Bool := ['#'].isPrefixOf (line.dropWhile isSpace)

/-- `_reject_tab_indentation` on one line. -/
def tabIndented (line : Line) : Bool := (line.takeWhile isSpace).contains '\t'

/-- `_peek_meaningful`: the lines from the next one that is neither blank nor a comment. -/
def peekMeaningful (lines : List Line) : List Line :=
  lines.dropWhile fun line => isBlank line || isComment line

def isKeyChar (c : Char) : Bool :=
  ('A' ≤ c && c ≤ 'Z') || ('a' ≤ c && c ≤ 'z') || ('0' ≤ c && c ≤ '9') || c = '_' || c = '-'

/-- `_KEY_LINE_RE.match`: the key and what follows the colon. -/
def keyLine? (content : Line) : Option (String × Line) :=
  match content.takeWhile isKeyChar, content.dropWhile isKeyChar with
  | c :: cs, ':' :: rest => some (String.ofList (c :: cs), rest)
  | _, _ => none

def isItem (content : Line) : Bool := content = ['-'] || ['-', ' '].isPrefixOf content

/-- `_strip_blank_edges`. -/
def stripBlankEdges (lines : List Line) : Line :=
  joinLines ((lines.dropWhile isBlank).rdropWhile isBlank)

/-! ### Block scalars -/

inductive BlockStyle where
  | literal
  | folded

inductive Chomp where
  | clip
  | strip
  | keep

/-- `_BLOCK_SCALAR_STYLES`. -/
def blockStyle? (token : Line) : Option (BlockStyle × Chomp) :=
  if token = ['|'] then some (.literal, .clip)
  else if token = ['|', '-'] then some (.literal, .strip)
  else if token = ['|', '+'] then some (.literal, .keep)
  else if token = ['>'] then some (.folded, .clip)
  else if token = ['>', '-'] then some (.folded, .strip)
  else if token = ['>', '+'] then some (.folded, .keep)
  else none

structure BlockScalar where
  style : BlockStyle
  chomp : Chomp
  source : List Line

def belongsBelow (keyIndent : Nat) (line : Line) : Bool := isBlank line || keyIndent < indentOf line

/-- `raw_lines` of `_collect_block_scalar`: blank lines count as empty. -/
def rawLines (source : List Line) : List Line :=
  source.map fun line => if isBlank line then [] else line

/-- `block_indent` of `_collect_block_scalar`. -/
def blockIndent? (source : List Line) : Option Nat :=
  ((rawLines source).find? fun entry => !entry.isEmpty).map indentOf

/-- The lines `_collect_block_scalar` returns. -/
def contentLines (source : List Line) : List Line :=
  match blockIndent? source with
  | none => []
  | some blockIndent =>
    (rawLines source).map fun entry => if entry.isEmpty then [] else entry.drop blockIndent

/-- `_fold`, with `prev_was_content`. -/
def fold : (prevWasContent : Bool) → List Line → Line
  | _, [] => []
  | prevWasContent, line :: lines =>
    if line.isEmpty then '\n' :: fold false lines
    else (if prevWasContent then [' '] else []) ++ line ++ fold true lines

/-- `_render_block_scalar`. -/
def renderBlockScalar (contentLines : List Line) (style : BlockStyle) (chomp : Chomp) : Line :=
  if contentLines.isEmpty then []
  else
    let trimmed := contentLines.rdropWhile List.isEmpty
    let base (lines : List Line) : Line :=
      match style with
      | .literal => joinLines lines
      | .folded => fold false lines
    match chomp with
    | .strip => base trimmed
    | .keep => base contentLines ++ ['\n']
    | .clip => base trimmed ++ ['\n']

def BlockScalar.value (scalar : BlockScalar) : Line :=
  renderBlockScalar (contentLines scalar.source) scalar.style scalar.chomp

/-! ### Scalars on one line -/

/-- `_strip_plain_comment`: `before` holds the characters up to here, the last one first. -/
def stripPlainComment : (before : Line) → Line → Line
  | before, [] => before.reverse
  | [], c :: cs => stripPlainComment [c] cs
  | b :: before, c :: cs =>
    if c = '#' ∧ (b = ' ' ∨ b = '\t') then before.reverse.rdropWhile isSpace
    else stripPlainComment (c :: b :: before) cs

/-- The loop of `_parse_single_quoted`; `none` when the quote is not closed. -/
def singleQuoted : Line → Option Line
  | [] => none
  | '\'' :: '\'' :: cs => (singleQuoted cs).map ('\'' :: ·)
  | '\'' :: _ => some []
  | c :: cs => (singleQuoted cs).map (c :: ·)

def escaped? (c : Char) : Option Char :=
  if c = '"' then some '"'
  else if c = '\\' then some '\\'
  else if c = 'n' then some '\n'
  else if c = 't' then some '\t'
  else none

/-- The loop of `_parse_double_quoted`. -/
def doubleQuoted (token : Line) : Line → Except SkillParseError Line
  | [] => .error (.unterminatedDoubleQuoted token)
  | ['\\'] => .error (.invalidEscape token)
  | '\\' :: c :: cs =>
    match escaped? c with
    | none => .error (.unsupportedEscape c)
    | some d => (doubleQuoted token cs).map (d :: ·)
  | '"' :: _ => .ok []
  | c :: cs => (doubleQuoted token cs).map (c :: ·)

/-- `_parse_scalar`. -/
def parseScalar (token : Line) : Except SkillParseError Line :=
  match token with
  | '!' :: _ => .error (.unsupportedTag token)
  | '&' :: _ => .error (.unsupportedAnchor token)
  | '*' :: _ => .error (.unsupportedAlias token)
  | '\'' :: cs =>
    match singleQuoted cs with
    | none => .error (.unterminatedSingleQuoted token)
    | some text => .ok text
  | '"' :: cs => doubleQuoted token cs
  | _ => .ok (stripChars (stripPlainComment [] token))

inductive Quote where
  | single
  | double

/-- The loop of `_split_flow_items`: the item being read and the items read. -/
def splitFlowItems : (quote : Option Quote) → (buf : Line) → (items : List Line) → Line → List Line
  | _, buf, items, [] => if buf.isEmpty && items.isEmpty then [] else items ++ [buf]
  | some .double, buf, items, '\\' :: c :: cs =>
    splitFlowItems (some .double) (buf ++ ['\\', c]) items cs
  | some .double, buf, items, c :: cs =>
    splitFlowItems (if c = '"' then none else some .double) (buf ++ [c]) items cs
  | some .single, buf, items, '\'' :: '\'' :: cs =>
    splitFlowItems (some .single) (buf ++ ['\'', '\'']) items cs
  | some .single, buf, items, c :: cs =>
    splitFlowItems (if c = '\'' then none else some .single) (buf ++ [c]) items cs
  | none, buf, items, c :: cs =>
    if c = '"' then splitFlowItems (some .double) (buf ++ [c]) items cs
    else if c = '\'' then splitFlowItems (some .single) (buf ++ [c]) items cs
    else if c = ',' then splitFlowItems none [] (items ++ [buf]) cs
    else splitFlowItems none (buf ++ [c]) items cs

/-- The loop of `_parse_flow_sequence`. -/
def parseFlowItems : List Line → Except SkillParseError (List Line)
  | [] => .ok []
  | rawItem :: rawItems =>
    let item := stripChars rawItem
    if item = [] then parseFlowItems rawItems
    else if ['['].isPrefixOf item then .error (.nestedFlow item)
    else if ['\x7b'].isPrefixOf item then .error (.flowMapping item)
    else do
      let text ← parseScalar item
      let texts ← parseFlowItems rawItems
      .ok (text :: texts)

/-- `_parse_flow_sequence`. -/
def parseFlowSequence (token : Line) : Except SkillParseError (List Line) :=
  if token.getLast? ≠ some ']' then .error (.unterminatedFlow token)
  else parseFlowItems (splitFlowItems none [] [] (token.drop 1).dropLast)

/-! ### Mappings and lists -/

/-- A parsed value. -/
inductive Field where
  | text (text : Line)
  | block (scalar : BlockScalar)
  | list (items : List Field)
  | mapping (fields : List (String × Field))

mutual

/-- The value as the parser hands it out. -/
def Field.toValue : Field → Value
  | .text text => .str (String.ofList text)
  | .block scalar => .str (String.ofList scalar.value)
  | .list items => .list (itemsToValue items)
  | .mapping fields => .dict (fieldsToValue fields)

def itemsToValue : List Field → List Value
  | [] => []
  | item :: items => item.toValue :: itemsToValue items

def fieldsToValue : List (String × Field) → Dict
  | [] => []
  | (key, field) :: fields => (key, field.toValue) :: fieldsToValue fields

end

/-- `_DUPLICATE_SENSITIVE_KEYS`. -/
def duplicateSensitiveKeys : List String :=
  ["name", "description", "disable-model-invocation", "user-invocable"]

/-- A value on the line of its key or item. -/
def parseInline (token : Line) : Except SkillParseError Field :=
  if ['['].isPrefixOf token then
    (parseFlowSequence token).map fun texts => .list (texts.map .text)
  else if ['\x7b'].isPrefixOf token then .error (.flowMapping token)
  else (parseScalar token).map .text

/-- A value below its key or item: a list or a mapping that is indented deeper, else an
empty text. The two parsers get the lines and their indentation. -/
def parseBelow (parseList parseMapping : List Line → Nat → Except SkillParseError (Field × List Line))
    (lines : List Line) (indent : Nat) : Except SkillParseError (Field × List Line) :=
  match peekMeaningful lines with
  | [] => .ok (.text [], lines)
  | next :: more =>
    if indent < indentOf next then
      if isItem (next.drop (indentOf next)) then parseList (next :: more) (indentOf next)
      else parseMapping (next :: more) (indentOf next)
    else .ok (.text [], lines)

def parseItem (parseList parseMapping : List Line → Nat → Except SkillParseError (Field × List Line))
    (lines : List Line) (indent : Nat) (token : Line) : Except SkillParseError (Field × List Line) :=
  if token = [] then parseBelow parseList parseMapping lines indent
  else (parseInline token).map fun value => (value, lines)

/-- The value of a key, from what stands behind the colon: a block scalar, else what an
item can be. -/
def parseEntry (parseList parseMapping : List Line → Nat → Except SkillParseError (Field × List Line))
    (lines : List Line) (indent : Nat) (token : Line) : Except SkillParseError (Field × List Line) :=
  match blockStyle? token with
  | some (style, chomp) =>
    .ok (.block ⟨style, chomp, lines.takeWhile (belongsBelow indent)⟩,
      lines.dropWhile (belongsBelow indent))
  | none => parseItem parseList parseMapping lines indent token

mutual

/-- `_parse_mapping`: the fields and the lines that are left. -/
def parseMapping : (fuel : Nat) → List Line → (indent : Nat) → (topLevel : Bool) →
    (result : List (String × Field)) → Except SkillParseError (List (String × Field) × List Line)
  | _, [], _, _, result => .ok (result, [])
  | 0, _ :: _, _, _, _ => .error .outOfFuel
  | fuel + 1, line :: lines, indent, topLevel, result =>
    if isBlank line || isComment line then parseMapping fuel lines indent topLevel result
    else if indentOf line < indent then .ok (result, line :: lines)
    else if indent < indentOf line then .error (.invalidLine (stripChars line))
    else
      match keyLine? (line.drop indent) with
      | none => .error (.invalidLine (stripChars line))
      | some (key, rest) => do
        let (value, lines) ← parseEntry
          (fun lines indent => (parseList fuel lines indent []).map fun r => (.list r.1, r.2))
          (fun lines indent =>
            (parseMapping fuel lines indent false []).map fun r => (.mapping r.1, r.2))
          lines indent (stripChars rest)
        if topLevel && duplicateSensitiveKeys.contains key && Assoc.has key result then
          .error (.duplicateKey key)
        else parseMapping fuel lines indent topLevel (Assoc.set key value result)

/-- `_parse_list`: the items and the lines that are left. -/
def parseList : (fuel : Nat) → List Line → (indent : Nat) → (items : List Field) →
    Except SkillParseError (List Field × List Line)
  | _, [], _, items => .ok (items, [])
  | 0, _ :: _, _, _ => .error .outOfFuel
  | fuel + 1, line :: lines, indent, items =>
    if isBlank line || isComment line then parseList fuel lines indent items
    else if indentOf line < indent then .ok (items, line :: lines)
    else if indent < indentOf line then .error (.invalidLine (stripChars line))
    else
      let content := line.drop indent
      if !isItem content then .error (.invalidLine (stripChars line))
      else do
        let (value, lines) ← parseItem
          (fun lines indent => (parseList fuel lines indent []).map fun r => (.list r.1, r.2))
          (fun lines indent =>
            (parseMapping fuel lines indent false []).map fun r => (.mapping r.1, r.2))
          lines indent (stripChars (content.drop 2))
        parseList fuel lines indent (items ++ [value])

end

/-! ### The file -/

/-- The delimiter of the frontmatter. -/
def marker : Line := ['-', '-', '-']

def fileLines (text : Line) : List Line :=
  let raw := if ['\uFEFF'].isPrefixOf text then text.drop 1 else text
  (Workspace.universalNewlines raw).splitOn '\n'

def splitFrontmatter : List Line → Except SkillParseError (List Line × List Line)
  | [] => .error .missing
  | first :: lines =>
    if first ≠ marker then .error .missing
    else
      match lines.dropWhile (· ≠ marker) with
      | [] => .error .unterminated
      | _ :: body => .ok (lines.takeWhile (· ≠ marker), body)

structure ParsedSkillFile where
  fields : List (String × Field)
  body : Line

/-- `parse_skill_file`. -/
def parseSkillFile (text : Line) : Except SkillParseError ParsedSkillFile := do
  let (lines, bodyLines) ← splitFrontmatter (fileLines text)
  match lines.find? tabIndented with
  | some line => .error (.tabIndentation line)
  | none =>
    let (fields, _) ← parseMapping (lines.length + 1) lines 0 true []
    .ok ⟨fields, stripBlankEdges bodyLines⟩

end Unchain.Skills
