import Mathlib.Data.List.Forall2
import Unchain.Python.Lines

/-!
The line numbers of `grep` against those of `read`.

`read` numbers the lines of `str.splitlines`. `grep` numbers a match by the newline characters
before it, and takes the number for an index into the same lines. The two agree on a match exactly
when the lines before that of the match all end in a newline (`Counted`).
-/

namespace Unchain.Toolkits

open Python

/-! ### The tools -/

/-- `_number_lines`, before the lines are put together. -/
def numberLines (lines : List (List Char)) (startLine : Nat) : List (List Char × Nat) :=
  lines.zipIdx startLine

def endIndex (totalLines startIndex : Nat) : Option Int → Nat
  | none => totalLines
  | some limit => min totalLines (startIndex + limit.toNat)

/-- The numbered lines that `read` shows. -/
def read (raw : List Char) (offset : Int) (limit : Option Int) : List (List Char × Nat) :=
  let totalLines := (lines raw).length
  let startIndex := min offset.toNat totalLines
  let selectedLines := ((lines raw).take (endIndex totalLines startIndex limit)).drop startIndex
  let startLine := if selectedLines = [] then 0 else startIndex + 1
  numberLines selectedLines (max 1 startLine)

/-- A match of the pattern. -/
structure Match where
  start : Nat
  group : List Char

structure GrepMatch where
  path : String
  relativePath : String
  line : Nat
  matched : List Char
  lineText : List Char
  contextBefore : List (List Char)
  contextAfter : List (List Char)

/-- A file that could be read. -/
structure Candidate where
  path : String
  relativePath : String
  raw : List Char

/-- What `grep` reports of a match. -/
def grepMatch (file : Candidate) (contextLines : Nat) (found : Match) : GrepMatch :=
  let raw := file.raw
  let line := if raw = [] then 0 else (raw.take found.start).count '\n' + 1
  { path := file.path
    relativePath := file.relativePath
    line := line
    matched := found.group
    lineText := if 0 < line ∧ line ≤ (lines raw).length then (lines raw).getD (line - 1) [] else []
    contextBefore := ((lines raw).take (line - 1)).drop (line - 1 - contextLines)
    contextAfter := ((lines raw).take (min (lines raw).length (line + contextLines))).drop line }

variable (finditer : List Char → List Match) (files : List Candidate) (contextLines : Nat)

/-- The matches of the pattern in the files that could be read. -/
def found : List (Candidate × Match) :=
  files.flatMap fun file => (finditer file.raw).map fun m => (file, m)

/-- `matches`. -/
def grepMatches : List GrepMatch :=
  (found finditer files).map fun m => grepMatch m.1 contextLines m.2

/-! ### The lines with their ends -/

/-- Put a character in front of the first line. -/
def extendFirst (c : Char) : List (List Char × List Char) → List (List Char × List Char)
  | [] => [([c], [])]
  | (line, ending) :: ls => (c :: line, ending) :: ls

/-- The lines of a text, each with what ends it. -/
def endedLines : List Char → List (List Char × List Char)
  | [] => []
  | '\r' :: '\n' :: cs => ([], ['\r', '\n']) :: endedLines cs
  | c :: cs => if isLineBreak c then ([], [c]) :: endedLines cs else extendFirst c (endedLines cs)

def textOf (ls : List (List Char × List Char)) : List Char := ls.flatMap fun l => l.1 ++ l.2

theorem textOf_endedLines (text : List Char) : textOf (endedLines text) = text := by
  fun_induction endedLines text with
  | case1 => rfl
  | case2 cs ih => simpa [textOf] using ih
  | case3 c cs _ _ ih => simpa [textOf] using ih
  | case4 c cs _ _ ih =>
    cases later : endedLines cs with
    | nil => simpa [later, textOf, extendFirst, eq_comm] using ih
    | cons l ls => simpa [later, textOf, extendFirst] using ih

theorem linesFrom_of_head {cs : List Char} (other : ∀ cs', cs ≠ '\n' :: cs') (afterReturn : Bool) :
    linesFrom afterReturn cs = linesFrom false cs := by
  cases cs with
  | nil => simp
  | cons d cs =>
    have differs : d ≠ '\n' := fun same => other cs (same ▸ rfl)
    simp [linesFrom, differs]

theorem lines_eq_map (text : List Char) : lines text = (endedLines text).map Prod.fst := by
  unfold lines
  fun_induction endedLines text with
  | case1 => rfl
  | case2 cs ih => simp [linesFrom, isLineBreak, ih]
  | case3 c cs notBoth ends ih =>
    have next : linesFrom (c = '\r') cs = linesFrom false cs := by
      by_cases isReturn : c = '\r'
      · exact linesFrom_of_head (fun cs' same => notBoth cs' isReturn same) _
      · simp [isReturn]
    rw [linesFrom, Bool.false_and, if_neg (by decide), if_pos ends, next, ih]
    rfl
  | case4 c cs _ inner ih =>
    rw [linesFrom, Bool.false_and, if_neg (by decide), if_neg inner, ih]
    cases endedLines cs <;> rfl

/-- A newline stands only at the end of a line end. -/
theorem newline_last (text : List Char) :
    ∀ l ∈ endedLines text, '\n' ∉ l.1 ++ l.2.dropLast := by
  fun_induction endedLines text with
  | case1 => simp
  | case2 cs ih => simpa using ih
  | case3 c cs _ _ ih => simpa using ih
  | case4 c cs _ inner ih =>
    have ordinary : '\n' ≠ c := by
      rintro rfl
      exact inner rfl
    cases later : endedLines cs with
    | nil => simpa [extendFirst] using ordinary
    | cons l ls => simpa [later, extendFirst, ordinary] using ih

variable {raw : List Char} {start : Nat} {line : List Char × List Char}
  {before after : List (List Char × List Char)}

/-- The position `start` lies in `line`, in its end, or behind it at the end of the text. -/
structure StartsIn (raw : List Char) (start : Nat) (before : List (List Char × List Char))
    (line : List Char × List Char) (after : List (List Char × List Char)) : Prop where
  cut : endedLines raw = before ++ line :: after
  low : (textOf before).length ≤ start
  high : start ≤ (textOf before).length + (line.1 ++ line.2.dropLast).length

/-- The newlines before a position are the lines before it that end in one. -/
theorem StartsIn.count (h : StartsIn raw start before line after) :
    (raw.take start).count '\n' = before.countP fun l => '\n' ∈ l.2 := by
  have last := newline_last raw
  rw [h.cut] at last
  have text : raw = textOf before ++ (line.1 ++ line.2 ++ textOf after) := by
    rw [← textOf_endedLines raw, h.cut]
    simp [textOf]
  have inLine : ((line.1 ++ line.2 ++ textOf after).take (start - (textOf before).length)).count
      '\n' = 0 := by
    obtain ⟨more, eq⟩ : line.1 ++ line.2.dropLast <+: line.1 ++ line.2 ++ textOf after :=
      ((List.prefix_append_right_inj _).mpr (List.dropLast_prefix _)).trans (List.prefix_append _ _)
    have within := h.high
    rw [← eq, List.take_append_of_le_length (by omega)]
    exact List.count_eq_zero.mpr fun mem => last line (by simp) (List.mem_of_mem_take mem)
  rw [text, List.take_append, List.take_of_length_le h.low, List.count_append, inLine, Nat.add_zero]
  replace last : ∀ l ∈ before, '\n' ∉ l.1 ++ l.2.dropLast := fun l mem => last l (by simp [mem])
  clear h text inLine
  induction before with
  | nil => rfl
  | cons l before ih =>
    have plain := last l List.mem_cons_self
    have here : (l.1 ++ l.2).count '\n' = if '\n' ∈ l.2 then 1 else 0 := by
      rcases List.eq_nil_or_concat l.2 with ended | ⟨front, c, ended⟩
      · rw [ended, List.dropLast_nil, List.append_nil] at plain
        simp [ended, List.count_eq_zero.mpr plain]
      · rw [ended, List.concat_eq_append, List.dropLast_concat] at plain
        rw [ended, List.concat_eq_append, ← List.append_assoc, List.count_append,
          List.count_eq_zero.mpr plain]
        rw [List.mem_append, not_or] at plain
        by_cases newline : c = '\n'
        · simp [newline]
        · simp [newline, plain.2, eq_comm]
    have later := ih fun l mem => last l (by simp [mem])
    rw [textOf, List.flatMap_cons, List.count_append, here, List.countP_cons, ← later]
    simp [textOf, Nat.add_comm]

/-- Every line before that of the position ends in a newline. -/
def Counted (raw : List Char) (start : Nat) : Prop :=
  ∃ before line after, StartsIn raw start before line after ∧ ∀ l ∈ before, '\n' ∈ l.2

/-- A report names the line in which the match starts, by the number that `read` gives it. -/
def Agrees (raw : List Char) (start : Nat) (m : GrepMatch) : Prop :=
  ∃ before line after, StartsIn raw start before line after ∧
    m.line = before.length + 1 ∧ m.lineText = line.1 ∧ (m.lineText, m.line) ∈ read raw 0 none ∧
    (∀ offset limit text, (text, m.line) ∈ read raw offset limit → text = m.lineText) ∧
    m.contextBefore = (before.map Prod.fst).drop (before.length - contextLines) ∧
    m.contextAfter = (after.map Prod.fst).take contextLines

/-- `read` gives a line its index plus one, whatever it is asked to show. -/
theorem read_ok {offset : Int} {limit : Option Int} {text : List Char} {n : Nat}
    (shown : (text, n) ∈ read raw offset limit) : 1 ≤ n ∧ (lines raw)[n - 1]? = some text := by
  simp only [read, numberLines, List.mk_mem_zipIdx_iff_le_and_getElem?_sub] at shown
  obtain ⟨low, found⟩ := shown
  split at low
  · next empty => simp [empty] at found
  · next some =>
      rw [if_neg some, List.getElem?_drop, List.getElem?_take, Option.ite_none_right_eq_some] at found
      rw [← found.2]
      refine ⟨by omega, ?_⟩
      congr 1
      omega

theorem read_all (raw : List Char) : read raw 0 none = (lines raw).zipIdx 1 := by
  simp [read, numberLines, endIndex]
  split <;> rfl

theorem StartsIn.lines (h : StartsIn raw start before line after) :
    lines raw = before.map Prod.fst ++ line.1 :: after.map Prod.fst := by
  rw [lines_eq_map, h.cut, List.map_append, List.map_cons]

theorem StartsIn.ne_nil (h : StartsIn raw start before line after) : raw ≠ [] := by
  rintro rfl
  simpa [endedLines] using h.cut

theorem agrees_iff (file : Candidate) (m : Match) :
    Agrees contextLines file.raw m.start (grepMatch file contextLines m) ↔
      Counted file.raw m.start := by
  obtain ⟨path, relativePath, raw⟩ := file
  constructor
  · rintro ⟨before, line, after, starts, number, -⟩
    refine ⟨before, line, after, starts, ?_⟩
    simp only [grepMatch, if_neg starts.ne_nil, starts.count, Nat.add_right_cancel_iff,
      List.countP_eq_length, decide_eq_true_eq] at number
    exact number
  · rintro ⟨before, line, after, starts, ended⟩
    have number : (if raw = [] then 0 else (raw.take m.start).count '\n' + 1) = before.length + 1 := by
      rw [if_neg starts.ne_nil, starts.count, List.countP_eq_length.mpr (by simpa using ended)]
    have count : (lines raw).length = before.length + 1 + after.length := by
      simp [starts.lines]
      omega
    have text : (lines raw)[before.length]? = some line.1 := by simp [starts.lines]
    have lineText : (grepMatch ⟨path, relativePath, raw⟩ contextLines m).lineText = line.1 := by
      simp only [grepMatch, number]
      rw [if_pos (by omega), Nat.add_sub_cancel, List.getD_eq_getElem?_getD, text]
      rfl
    refine ⟨before, line, after, starts, number, lineText, ?_, ?_, ?_, ?_⟩
    · rw [lineText, read_all, List.mk_mem_zipIdx_iff_le_and_getElem?_sub]
      simp only [grepMatch, number]
      exact ⟨by omega, text⟩
    · intro offset limit other shown
      simp only [grepMatch, number] at shown
      rw [lineText]
      exact Option.some.inj ((read_ok shown).2.symm.trans text)
    · simp [grepMatch, number, starts.lines]
    · have rest : (lines raw).drop (before.length + 1) = after.map Prod.fst := by
        simp [starts.lines, ← List.drop_drop]
      simp only [grepMatch, number, List.drop_take, rest]
      rw [List.take_eq_take_iff, List.length_map]
      omega

/-- `grep` agrees with `read` on the matches before which every line ends in a newline, and on no
others. -/
theorem grep_agrees_iff :
    List.Forall₂
      (fun m entry => Agrees contextLines m.1.raw m.2.start entry ↔ Counted m.1.raw m.2.start)
      (found finditer files) (grepMatches finditer files contextLines) := by
  rw [grepMatches, List.forall₂_map_right_iff, List.forall₂_same]
  exact fun m _ => agrees_iff contextLines m.1 m.2

/-- The `b` behind a carriage return is in line 2, and reported in line 1. -/
theorem return_not_counted :
    ¬ Agrees 0 ['a', '\r', 'b'] 2 (grepMatch ⟨"/w/f", "f", ['a', '\r', 'b']⟩ 0 ⟨2, ['b']⟩) := by
  rintro ⟨before, line, after, ⟨cut, -, high⟩, number, -⟩
  cases before with
  | nil =>
    cases cut
    exact absurd high (by decide)
  | cons l before => cases number

end Unchain.Toolkits
