import Mathlib.Algebra.Ring.Nat
import Mathlib.Data.List.Basic

/-!
`str.splitlines` (without the line ends) and what it does to texts put together.

A text is cut after every line break, and a carriage return with the line feed behind it
is one break. `lines_append_newline` is why a text written line by line is read back
line by line, and `length_lines_append_le` why two texts put together have no more
lines than they have on their own.
-/

namespace Unchain.Python

/-- The characters that end a line for `str.splitlines`. -/
def isLineBreak (c : Char) : Bool :=
  c ∈ ['\n', '\x0b', '\x0c', '\r', '\x1c', '\x1d', '\x1e', '\u0085', '\u2028', '\u2029']

/-- Put a character in front of the first line. -/
def consFirst (c : Char) : List (List Char) → List (List Char)
  | [] => [[c]]
  | line :: lines => (c :: line) :: lines

/-- The lines of a text, `afterReturn` when a carriage return stands right before it. -/
def linesFrom : (afterReturn : Bool) → List Char → List (List Char)
  | _, [] => []
  | afterReturn, c :: cs =>
    if afterReturn && c = '\n' then linesFrom false cs
    else if isLineBreak c then [] :: linesFrom (c = '\r') cs
    else consFirst c (linesFrom false cs)

/-- `text.splitlines()`. -/
def lines (text : List Char) : List (List Char) := linesFrom false text

/-- `"\n".join(lines)`. -/
def joinLines (lines : List (List Char)) : List Char := List.intercalate ['\n'] lines

def OneLine (text : List Char) : Prop := ∀ c ∈ text, isLineBreak c = false

instance (text : List Char) : Decidable (OneLine text) := List.decidableBAll _ text

theorem OneLine.append {xs ys : List Char} (hx : OneLine xs) (hy : OneLine ys) :
    OneLine (xs ++ ys) := by
  intro c mem
  rcases List.mem_append.mp mem with mem | mem
  · exact hx c mem
  · exact hy c mem

theorem OneLine.cons {c : Char} {text : List Char} (ordinary : isLineBreak c = false)
    (one : OneLine text) : OneLine (c :: text) := by
  intro d mem
  rcases List.mem_cons.mp mem with rfl | mem
  · exact ordinary
  · exact one d mem

@[simp] theorem lines_nil : lines [] = [] := rfl

variable (afterReturn : Bool)

@[simp] theorem linesFrom_nil : linesFrom afterReturn [] = [] := by
  cases afterReturn <;> rfl

variable {ls : List (List Char)}

theorem consFirst_append (some : ls ≠ []) (c : Char) (more : List (List Char)) :
    consFirst c (ls ++ more) = consFirst c ls ++ more := by
  cases ls with
  | nil => exact absurd rfl some
  | cons line ls => rfl

theorem length_consFirst (c : Char) (ls : List (List Char)) :
    (consFirst c ls).length = max 1 ls.length := by
  cases ls with
  | nil => rfl
  | cons line ls =>
    rw [consFirst, List.length_cons, List.length_cons]
    omega

variable {text : List Char}

theorem linesFrom_ne_nil (some : text ≠ []) : linesFrom false text ≠ [] := by
  cases text with
  | nil => exact absurd rfl some
  | cons c cs =>
    rw [linesFrom, Bool.false_and, if_neg (by decide)]
    split
    · exact List.cons_ne_nil _ _
    · cases linesFrom false cs <;> exact List.cons_ne_nil _ _

variable {line : List Char}

theorem oneLine_of_mem_linesFrom {afterReturn : Bool} (mem : line ∈ linesFrom afterReturn text) :
    OneLine line := by
  induction text generalizing afterReturn line with
  | nil =>
    cases mem
  | cons c cs ih =>
    rw [linesFrom] at mem
    split at mem
    · exact ih mem
    · split at mem
      · rcases List.mem_cons.mp mem with rfl | mem
        · exact nofun
        · exact ih mem
      · rename_i ordinary
        rw [Bool.not_eq_true] at ordinary
        cases later : linesFrom false cs with
        | nil =>
          rw [later, consFirst, List.mem_singleton] at mem
          rw [mem]
          intro d here
          rw [List.mem_singleton.mp here]
          exact ordinary
        | cons first rest =>
          rw [later, consFirst] at mem
          rcases List.mem_cons.mp mem with rfl | mem
          · intro d here
            rcases List.mem_cons.mp here with rfl | here
            · exact ordinary
            · exact ih (later ▸ List.mem_cons_self) d here
          · exact ih (later ▸ List.mem_cons_of_mem _ mem)

theorem oneLine_of_mem_lines (mem : line ∈ lines text) : OneLine line :=
  oneLine_of_mem_linesFrom mem

/-! ### Texts put together -/

theorem linesFrom_append_newline (xs ys : List Char) :
    linesFrom afterReturn (xs ++ '\n' :: ys)
      = linesFrom afterReturn (xs ++ ['\n']) ++ lines ys := by
  induction xs generalizing afterReturn with
  | nil => cases afterReturn <;> rfl
  | cons c cs ih =>
    rw [List.cons_append, List.cons_append, linesFrom, linesFrom]
    split
    · exact ih false
    · split
      · rw [ih, List.cons_append]
      · rw [ih, consFirst_append (linesFrom_ne_nil (by simp))]

/-- A line feed at the end adds at most an empty line. -/
theorem linesFrom_newline (xs : List Char) :
    linesFrom afterReturn (xs ++ ['\n']) = linesFrom afterReturn xs ∨
      linesFrom afterReturn (xs ++ ['\n']) = linesFrom afterReturn xs ++ [[]] := by
  induction xs generalizing afterReturn with
  | nil =>
    cases afterReturn
    · exact .inr rfl
    · exact .inl rfl
  | cons c cs ih =>
    rw [List.cons_append, linesFrom, linesFrom]
    split
    · exact ih false
    · split
      · rcases ih (c = '\r') with same | more
        · exact .inl (by rw [same])
        · exact .inr (by rw [more, List.cons_append])
      · rcases ih false with same | more
        · exact .inl (by rw [same])
        · cases here : linesFrom false cs with
          | nil => exact .inl (by rw [more, here]; rfl)
          | cons first rest => exact .inr (by rw [more, here]; rfl)

theorem length_linesFrom_le (text : List Char) :
    (linesFrom afterReturn text).length ≤ (lines text).length := by
  cases text with
  | nil => simp
  | cons c cs =>
    rw [lines, linesFrom, linesFrom, Bool.false_and, if_neg (show ¬ false = true by decide)]
    split
    · rename_i fed
      rw [Bool.and_eq_true, decide_eq_true_eq] at fed
      rw [fed.2]
      exact Nat.le_succ _
    · exact Nat.le_refl _

/-- Two texts put together have no more lines than they have on their own. -/
theorem length_linesFrom_append_le (xs ys : List Char) :
    (linesFrom afterReturn (xs ++ ys)).length
      ≤ (linesFrom afterReturn xs).length + (lines ys).length := by
  induction xs generalizing afterReturn with
  | nil =>
    rw [List.nil_append, linesFrom_nil, List.length_nil, Nat.zero_add]
    exact length_linesFrom_le afterReturn ys
  | cons c cs ih =>
    rw [List.cons_append, linesFrom, linesFrom]
    split
    · exact ih false
    · split
      · have later := ih (c = '\r')
        rw [List.length_cons, List.length_cons]
        omega
      · have later := ih false
        rw [length_consFirst, length_consFirst]
        omega

theorem length_lines_append_le (xs ys : List Char) :
    (lines (xs ++ ys)).length ≤ (lines xs).length + (lines ys).length :=
  length_linesFrom_append_le false xs ys

/-- A text has no fewer lines than what it begins with. -/
theorem length_linesFrom_le_append (xs ys : List Char) :
    (linesFrom afterReturn xs).length ≤ (linesFrom afterReturn (xs ++ ys)).length := by
  induction xs generalizing afterReturn with
  | nil => simp
  | cons c cs ih =>
    rw [List.cons_append, linesFrom, linesFrom]
    split
    · exact ih false
    · split
      · exact Nat.succ_le_succ (ih (c = '\r'))
      · have later := ih false
        rw [length_consFirst, length_consFirst]
        omega

theorem length_lines_le_of_prefix {xs ys : List Char} (h : xs <+: ys) :
    (lines xs).length ≤ (lines ys).length := by
  obtain ⟨more, rfl⟩ := h
  exact length_linesFrom_le_append false xs more

/-! ### One line -/

theorem lines_append_of_oneLine (one : OneLine line) (some : line ≠ []) (text : List Char) :
    lines (line ++ text) = (line ++ (lines text).headD []) :: (lines text).tail := by
  induction line with
  | nil => exact absurd rfl some
  | cons c cs ih =>
    have ordinary : isLineBreak c = false := one c List.mem_cons_self
    have step : ∀ rest, lines (c :: rest) = consFirst c (lines rest) := by
      intro rest
      rw [lines, linesFrom, Bool.false_and, if_neg (by decide), if_neg (by simp [ordinary])]
      rfl
    rw [List.cons_append, step]
    by_cases last : cs = []
    · subst last
      cases here : lines text with
      | nil | cons first rest => rw [List.nil_append, here]; rfl
    · rw [ih (fun d mem => one d (List.mem_cons_of_mem _ mem)) last]
      rfl

theorem lines_of_oneLine (one : OneLine line) (some : line ≠ []) : lines line = [line] := by
  have whole := lines_append_of_oneLine one some []
  simpa using whole

theorem lines_newline_of_oneLine (one : OneLine line) : lines (line ++ ['\n']) = [line] := by
  by_cases empty : line = []
  · rw [empty]
    rfl
  · rw [lines_append_of_oneLine one empty]
    show [line ++ []] = [line]
    rw [List.append_nil]

theorem length_lines_joinLines_le (one : ∀ line ∈ ls, OneLine line) :
    (lines (joinLines ls)).length ≤ ls.length := by
  induction ls with
  | nil => exact Nat.le_refl 0
  | cons line ls ih =>
    have first : OneLine line := one line List.mem_cons_self
    have later := ih fun l mem => one l (List.mem_cons_of_mem _ mem)
    cases ls with
    | nil =>
      have whole : joinLines [line] = line := by simp [joinLines, List.intercalate]
      rw [whole]
      have fits := length_lines_le_of_prefix (List.prefix_append line ['\n'])
      rw [lines_newline_of_oneLine first] at fits
      exact fits
    | cons next ls =>
      have split : joinLines (line :: next :: ls)
          = line ++ '\n' :: joinLines (next :: ls) := by
        simp [joinLines, List.intercalate]
      rw [split, lines, linesFrom_append_newline]
      have own := lines_newline_of_oneLine first
      rw [lines] at own
      rw [own, List.length_append, List.length_singleton, List.length_cons]
      omega

/-! ### Counting lines -/

section Counting

variable {p : List Char → Bool}

theorem countP_lines_append (empty : p [] = false) (xs ys : List Char) :
    (lines (xs ++ '\n' :: ys)).countP p = (lines xs).countP p + (lines ys).countP p := by
  rw [lines, linesFrom_append_newline, List.countP_append]
  congr 1
  rcases linesFrom_newline false xs with same | more
  · rw [same, lines]
  · rw [more, List.countP_append, lines]
    simp [empty]

theorem countP_lines_of_oneLine (empty : p [] = false) {line : List Char} (one : OneLine line) :
    (lines line).countP p = if p line then 1 else 0 := by
  by_cases none : line = []
  · rw [none, lines_nil, empty]
    rfl
  · rw [lines_of_oneLine one none, List.countP_singleton]

theorem countP_lines_flatMap (empty : p [] = false) (texts : List (List Char)) :
    (lines (texts.flatMap fun text => text ++ ['\n'])).countP p
      = (texts.map fun text => (lines text).countP p).sum := by
  induction texts with
  | nil => rfl
  | cons text texts ih =>
    have split : ((text :: texts).flatMap fun text => text ++ ['\n'])
        = text ++ '\n' :: texts.flatMap fun text => text ++ ['\n'] := by simp
    rw [split, countP_lines_append empty, ih, List.map_cons, List.sum_cons]

end Counting

end Unchain.Python
