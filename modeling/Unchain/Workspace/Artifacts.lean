import Unchain.Lib.Display
import Unchain.Lib.Json
import Unchain.Workspace.Changes

/-!
The change-set artifact of the tracker (`WorkspaceChangeTracker.to_artifact`).

For each file the artifact holds a unified diff, cut to what is left of two budgets, and
the numbers of added and deleted lines. The numbers are not taken from the diff's own
lines but counted again in its text: a line that begins with three plus or minus signs
passes for a file header (`countPlusMinus`). `additions_eq` says what the count of an
artifact leaves out, and `conserved_iff` when it leaves out nothing.

The diff algorithm is a parameter: `UnifiedDiffSpec` is what it documents, an edit script
that turns the old lines into the new ones, shown in part.
-/

namespace Unchain.Workspace

open Lib Lib.Utf8 Lib.Display Python

/-! ### The diff of two lists of lines -/

/-- `difflib.unified_diff` with `lineterm=""`, of two lists of lines with a name each. -/
abbrev UnifiedDiff :=
  (before after : List (List Char)) → (fromFile toFile : List Char) → List (List Char)

inductive EditLine where
  | keep (line : List Char)
  | add (line : List Char)
  | remove (line : List Char)

def EditLine.old? : EditLine → Option (List Char)
  | .keep line => some line
  | .add _ => none
  | .remove line => some line

def EditLine.new? : EditLine → Option (List Char)
  | .keep line => some line
  | .add line => some line
  | .remove _ => none

def EditLine.isAdd : EditLine → Bool
  | .add _ => true
  | _ => false

def EditLine.isRemove : EditLine → Bool
  | .remove _ => true
  | _ => false

/-- The body of a diff shows a script: every change, some of the lines that stay, and a
header in front of each hunk. -/
inductive Shows : List EditLine → List (List Char) → Prop where
  | done : Shows [] []
  | hunk {script body} (range : List Char) (one : OneLine range) (rest : Shows script body) :
      Shows script (('@' :: '@' :: range) :: body)
  | hide {script body} (line : List Char) (rest : Shows script body) :
      Shows (.keep line :: script) body
  | keep {script body} (line : List Char) (rest : Shows script body) :
      Shows (.keep line :: script) ((' ' :: line) :: body)
  | add {script body} (line : List Char) (rest : Shows script body) :
      Shows (.add line :: script) (('+' :: line) :: body)
  | remove {script body} (line : List Char) (rest : Shows script body) :
      Shows (.remove line :: script) (('-' :: line) :: body)

/-- What the diff algorithm promises: nothing for equal lines, else two header lines and
a body that shows how to turn the old lines into the new ones. -/
structure UnifiedDiffSpec (unifiedDiff : UnifiedDiff) : Prop where
  same : ∀ lines fromFile toFile, unifiedDiff lines lines fromFile toFile = []
  changed : ∀ before after fromFile toFile, before ≠ after →
    ∃ script body, script.filterMap EditLine.old? = before ∧
      script.filterMap EditLine.new? = after ∧ Shows script body ∧
      unifiedDiff before after fromFile toFile
        = ('-' :: '-' :: '-' :: ' ' :: fromFile) :: ('+' :: '+' :: '+' :: ' ' :: toFile) :: body

/-! ### The artifact -/

/-- `_truncate_text`. -/
def truncateText (maxLines maxBytes : Int) (text : List Char) : List Char :=
  let kept :=
    if 0 ≤ maxLines ∧ maxLines < (lines text).length then
      joinLines ((lines text).take maxLines.toNat)
    else text
  if 0 ≤ maxBytes ∧ maxBytes < (encode kept).length then
    decodeIgnore ((encode kept).take maxBytes.toNat)
  else kept

def fileLines (text : Option (List Char)) : List (List Char) :=
  match text with
  | none => []
  | some text => lines text

def diffLines (unifiedDiff : UnifiedDiff) (relativePath : String)
    (before after : Option (List Char)) : List (List Char) :=
  unifiedDiff (fileLines before) (fileLines after)
    ('a' :: '/' :: relativePath.toList) ('b' :: '/' :: relativePath.toList)

/-- `_diff_text`. -/
def diffText (unifiedDiff : UnifiedDiff) (relativePath : String)
    (before after : Option (List Char)) : List Char :=
  let diff := diffLines unifiedDiff relativePath before after
  joinLines diff ++ if diff.isEmpty then [] else ['\n']

/-- The loop body of `_count_plus_minus`. -/
def countLine (counts : Nat × Nat) (line : List Char) : Nat × Nat :=
  if ['+', '+', '+'].isPrefixOf line || ['-', '-', '-'].isPrefixOf line then counts
  else if ['+'].isPrefixOf line then (counts.1 + 1, counts.2)
  else if ['-'].isPrefixOf line then (counts.1, counts.2 + 1)
  else counts

/-- `_count_plus_minus`. -/
def countPlusMinus (unifiedDiff : List Char) : Nat × Nat :=
  (lines unifiedDiff).foldl countLine (0, 0)

/-- What the artifact says of one file. -/
structure FileReport where
  path : Path
  relativePath : String
  status : ChangeStatus
  beforeSha256 : String
  afterSha256 : String
  unifiedDiff : List Char
  truncated : Bool
  totalLines : Nat
  displayedLines : Nat
  additions : Nat
  deletions : Nat
  undoSupported : Bool
  undoUnavailableReason : String

structure ShownFile where
  fullDiff : List Char
  report : FileReport

/-- `entry["first_before"].get("text") if entry["first_before"].get("exists") else None`. -/
def Snapshot.current (s : Snapshot) : Option (List Char) := if s.present then s.text else none

def Entry.diffText (unifiedDiff : UnifiedDiff) (entry : Entry) : List Char :=
  Workspace.diffText unifiedDiff entry.relativePath entry.firstBefore.current
    entry.latestAfter.current

def Entry.shown (unifiedDiff : UnifiedDiff) (remainingLines remainingBytes : Nat) (entry : Entry) :
    ShownFile :=
  let fullDiff := entry.diffText unifiedDiff
  let displayedDiff := truncateText remainingLines remainingBytes fullDiff
  let counts := countPlusMinus fullDiff
  { fullDiff := fullDiff
    report :=
      { path := entry.path
        relativePath := entry.relativePath
        status := entry.status
        beforeSha256 := entry.firstBefore.sha256
        afterSha256 := entry.latestAfter.sha256
        unifiedDiff := displayedDiff
        truncated := displayedDiff != fullDiff
        totalLines := lineCount fullDiff
        displayedLines := lineCount displayedDiff
        additions := counts.1
        deletions := counts.2
        undoSupported := entry.undoSupported
        undoUnavailableReason := entry.undoUnavailableReason } }

/-- The loop over the files: each is shown within what the ones before it left over. -/
def showFiles (unifiedDiff : UnifiedDiff) :
    (remainingLines remainingBytes : Nat) → List Entry → List ShownFile
  | _, _, [] => []
  | remainingLines, remainingBytes, entry :: entries =>
    let shown := entry.shown unifiedDiff remainingLines remainingBytes
    shown :: showFiles unifiedDiff (remainingLines - lineCount shown.report.unifiedDiff)
      (remainingBytes - (encode shown.report.unifiedDiff).length) entries

/-- The limits on what an artifact shows, as they are given to the tracker. -/
structure DiffLimits where
  maxDiffLines : Int := 400
  maxDiffBytes : Int := 128 * 1024

structure ChangeSetArtifact where
  artifactId : String
  changeSetId : String
  runId : String
  summary : String
  files : List FileReport
  totalAdditions : Nat
  totalDeletions : Nat
  undoSupported : Bool
  truncated : Bool
  totalLines : Nat
  displayedLines : Nat
  totalBytes : Nat
  displayedBytes : Nat
  sha256 : String

def changeSummary (files additions deletions : Nat) : String :=
  toString files ++ " file" ++ (if files = 1 then "" else "s") ++ " changed, +" ++
    toString additions ++ " -" ++ toString deletions

/-- `WorkspaceChangeTracker.to_artifact`. -/
def toArtifact (h : Hasher) (settings : Settings) (limits : DiffLimits) (unifiedDiff : UnifiedDiff)
    (runId : String) (t : Tracker) : Option ChangeSetArtifact :=
  if t.files.isEmpty then none
  else
    let entries := (refreshUndoSupport settings t.files).map Prod.snd
    let shown := showFiles unifiedDiff limits.maxDiffLines.toNat limits.maxDiffBytes.toNat entries
    let reports := shown.map ShownFile.report
    let additions := (reports.map FileReport.additions).sum
    let deletions := (reports.map FileReport.deletions).sum
    let fullDiffText := shown.flatMap ShownFile.fullDiff
    let displayedDiffText := reports.flatMap FileReport.unifiedDiff
    some
      { artifactId := "workspace_change_set:" ++ runId
        changeSetId := "wcs_" ++ runId
        runId := runId
        summary := changeSummary reports.length additions deletions
        files := reports
        totalAdditions := additions
        totalDeletions := deletions
        undoSupported := entries.all Entry.undoSupported
        truncated := displayedDiffText != fullDiffText
        totalLines := lineCount fullDiffText
        displayedLines := lineCount displayedDiffText
        totalBytes := (encode fullDiffText).length
        displayedBytes := (encode displayedDiffText).length
        sha256 := h.sha256 fullDiffText }

/-! ### What the counter counts -/

def isAddition (line : List Char) : Bool :=
  ['+'].isPrefixOf line && ! ['+', '+', '+'].isPrefixOf line

def isDeletion (line : List Char) : Bool :=
  ['-'].isPrefixOf line && ! ['-', '-', '-'].isPrefixOf line

theorem countLine_eq (counts : Nat × Nat) (line : List Char) : countLine counts line
      = (counts.1 + (if isAddition line then 1 else 0),
        counts.2 + if isDeletion line then 1 else 0) := by
  match line with
  | [] => rfl
  | c :: cs =>
    by_cases plus : c = '+'
    · subst plus
      cases dashes : ['+', '+', '+'].isPrefixOf ('+' :: cs) <;>
        simp [countLine, isAddition, isDeletion, dashes]
    · by_cases minus : c = '-'
      · subst minus
        cases dashes : ['-', '-', '-'].isPrefixOf ('-' :: cs) <;>
          simp [countLine, isAddition, isDeletion, dashes]
      · simp [countLine, isAddition, isDeletion, Ne.symm plus, Ne.symm minus]

theorem countPlusMinus_eq (text : List Char) :
    countPlusMinus text = ((lines text).countP isAddition, (lines text).countP isDeletion) := by
  have loop : ∀ (ls : List (List Char)) (counts : Nat × Nat), ls.foldl countLine counts
      = (counts.1 + ls.countP isAddition, counts.2 + ls.countP isDeletion) := by
    intro ls
    induction ls with
    | nil =>
      intro counts
      rfl
    | cons line ls ih =>
      intro counts
      rw [List.foldl_cons, countLine_eq, ih, List.countP_cons, List.countP_cons]
      simp only [Prod.mk.injEq]
      omega
  rw [countPlusMinus, loop]
  simp

/-- The lines with a sign are those it counts and those it takes for headers. -/
theorem countP_without {α : Type} {p q : α → Bool} (narrower : ∀ x, q x = true → p x = true)
    (xs : List α) : xs.countP (fun x => p x && !q x) + xs.countP q = xs.countP p := by
  induction xs with
  | nil => rfl
  | cons x xs ih =>
    rw [List.countP_cons, List.countP_cons, List.countP_cons, ← ih]
    cases inQ : q x with
    | true => simp [narrower x inQ]; omega
    | false => simp; omega

theorem isPrefixOf_sign {c : Char} {line : List Char} (h : [c, c, c].isPrefixOf line = true) :
    [c].isPrefixOf line = true := by
  cases line with
  | nil => cases h
  | cons d line =>
    rw [List.isPrefixOf, Bool.and_eq_true] at h
    rw [List.isPrefixOf, h.1]
    rfl

theorem countP_addition (ls : List (List Char)) :
    ls.countP isAddition + ls.countP (['+', '+', '+'].isPrefixOf ·) = ls.countP (['+'].isPrefixOf ·) :=
  countP_without (fun _ => isPrefixOf_sign) ls

theorem countP_deletion (ls : List (List Char)) :
    ls.countP isDeletion + ls.countP (['-', '-', '-'].isPrefixOf ·) = ls.countP (['-'].isPrefixOf ·) :=
  countP_without (fun _ => isPrefixOf_sign) ls

/-! ### The text of a diff -/

theorem joinLines_newline (ls : List (List Char)) :
    (joinLines ls ++ if ls.isEmpty then [] else ['\n']) = ls.flatMap fun line => line ++ ['\n'] := by
  induction ls with
  | nil => rfl
  | cons line ls ih =>
    cases ls with
    | nil => simp [joinLines, List.intercalate]
    | cons next ls =>
      have split : joinLines (line :: next :: ls)
          = line ++ '\n' :: joinLines (next :: ls) := by
        simp [joinLines, List.intercalate]
      rw [List.flatMap_cons, ← ih, split]
      simp

theorem countP_diffText {p : List Char → Bool} (empty : p [] = false) (unifiedDiff : UnifiedDiff)
    (relativePath : String) (before after : Option (List Char)) :
    (lines (diffText unifiedDiff relativePath before after)).countP p
      = ((diffLines unifiedDiff relativePath before after).map
          fun line => (lines line).countP p).sum := by
  rw [diffText, joinLines_newline, countP_lines_flatMap empty]

theorem countP_header {p : List Char → Bool} {header : List Char} (one : OneLine header)
    (some : header ≠ []) (skipped : ∀ path, p (header ++ path) = false) (path : List Char) :
    (lines (header ++ path)).countP p = (lines path).tail.countP p := by
  rw [lines_append_of_oneLine one some, List.countP_cons, skipped]
  rfl

variable {body : List (List Char)}

theorem countP_body {p : List Char → Bool} (empty : p [] = false)
    (one : ∀ line ∈ body, OneLine line) :
    (body.map fun line => (lines line).countP p).sum = body.countP p := by
  induction body with
  | nil => rfl
  | cons line body ih =>
    rw [List.map_cons, List.sum_cons, List.countP_cons,
      countP_lines_of_oneLine empty (one line List.mem_cons_self),
      ih fun l mem => one l (List.mem_cons_of_mem _ mem)]
    exact Nat.add_comm _ _

/-! ### The body of a diff -/

variable {script : List EditLine}

theorem Shows.oneLine (h : Shows script body)
    (old : ∀ line ∈ script.filterMap EditLine.old?, OneLine line)
    (new : ∀ line ∈ script.filterMap EditLine.new?, OneLine line) :
    ∀ line ∈ body, OneLine line := by
  have narrow {f : EditLine → Option (List Char)} {e : EditLine} {script : List EditLine}
      (all : ∀ line ∈ (e :: script).filterMap f, OneLine line) :
      ∀ line ∈ script.filterMap f, OneLine line := by
    intro line mem
    apply all
    rw [List.mem_filterMap] at mem ⊢
    obtain ⟨e', mem, same⟩ := mem
    exact ⟨e', List.mem_cons_of_mem _ mem, same⟩
  induction h with
  | done => exact nofun
  | hunk range one rest ih =>
    intro line mem
    rcases List.mem_cons.mp mem with rfl | mem
    · exact .cons rfl (.cons rfl one)
    · exact ih old new line mem
  | hide hidden rest ih => exact ih (narrow old) (narrow new)
  | keep kept rest ih =>
    intro line mem
    rcases List.mem_cons.mp mem with rfl | mem
    · exact .cons rfl (old kept (List.mem_filterMap.mpr ⟨_, List.mem_cons_self, rfl⟩))
    · exact ih (narrow old) (narrow new) line mem
  | add added rest ih =>
    intro line mem
    rcases List.mem_cons.mp mem with rfl | mem
    · exact .cons rfl (new added (List.mem_filterMap.mpr ⟨_, List.mem_cons_self, rfl⟩))
    · exact ih (narrow old) (narrow new) line mem
  | remove removed rest ih =>
    intro line mem
    rcases List.mem_cons.mp mem with rfl | mem
    · exact .cons rfl (old removed (List.mem_filterMap.mpr ⟨_, List.mem_cons_self, rfl⟩))
    · exact ih (narrow old) (narrow new) line mem

theorem Shows.signs (h : Shows script body) :
    body.countP (['+'].isPrefixOf ·) = script.countP EditLine.isAdd ∧
      body.countP (['-'].isPrefixOf ·) = script.countP EditLine.isRemove := by
  induction h with
  | done => exact ⟨rfl, rfl⟩
  | hunk range one rest ih | hide line rest ih | keep line rest ih => exact ih
  | add line rest ih =>
    constructor
    · rw [List.countP_cons, List.countP_cons, ih.1]
      rfl
    · exact ih.2
  | remove line rest ih =>
    constructor
    · exact ih.1
    · rw [List.countP_cons, List.countP_cons, ih.2]
      rfl

theorem script_balance (script : List EditLine) :
    (script.filterMap EditLine.new?).length + script.countP EditLine.isRemove
      = (script.filterMap EditLine.old?).length + script.countP EditLine.isAdd := by
  induction script with
  | nil => rfl
  | cons edit script ih =>
    rw [List.filterMap_cons, List.filterMap_cons, List.countP_cons, List.countP_cons]
    cases edit with
    | keep line => simp only [EditLine.new?, EditLine.old?, EditLine.isAdd, EditLine.isRemove,
        List.length_cons, Bool.false_eq_true, if_false] at ih ⊢; omega
    | add line | remove line =>
      simp only [EditLine.new?, EditLine.old?, EditLine.isAdd, EditLine.isRemove,
        List.length_cons, Bool.false_eq_true, if_false, if_true] at ih ⊢; omega

/-! ### The counts of an artifact -/

/-- The lines of a file's diff below its two headers. -/
def Entry.bodyLines (unifiedDiff : UnifiedDiff) (entry : Entry) : List (List Char) :=
  (diffLines unifiedDiff entry.relativePath entry.firstBefore.current
    entry.latestAfter.current).drop 2

/-- The lines of the path of a file after its first; a path has none unless it holds a
line break. -/
def Entry.laterPathLines (entry : Entry) : List (List Char) := (lines entry.relativePath.toList).tail

/-- The counts of a report are those of the signs in the body of its diff, and they
account for the lines the file gained. -/
structure Conserved (unifiedDiff : UnifiedDiff) (entry : Entry) (report : FileReport) : Prop where
  additions : report.additions = (entry.bodyLines unifiedDiff).countP (['+'].isPrefixOf ·)
  deletions : report.deletions = (entry.bodyLines unifiedDiff).countP (['-'].isPrefixOf ·)
  balance : (report.additions : Int) - report.deletions
    = (fileLines entry.latestAfter.current).length - (fileLines entry.firstBefore.current).length

/-- The body and the headers of a file's diff do not pass for each other: as many changed
lines begin with a doubled sign as lines of the path are counted as changes, twice. -/
structure HeadersApart (unifiedDiff : UnifiedDiff) (entry : Entry) : Prop where
  additions : (entry.bodyLines unifiedDiff).countP (['+', '+', '+'].isPrefixOf ·)
    = 2 * entry.laterPathLines.countP isAddition
  deletions : (entry.bodyLines unifiedDiff).countP (['-', '-', '-'].isPrefixOf ·)
    = 2 * entry.laterPathLines.countP isDeletion

theorem countPlusMinus_diffText {unifiedDiff : UnifiedDiff} (spec : UnifiedDiffSpec unifiedDiff)
    {entry : Entry}
    (changed : fileLines entry.firstBefore.current ≠ fileLines entry.latestAfter.current) :
    countPlusMinus (entry.diffText unifiedDiff)
      = (2 * entry.laterPathLines.countP isAddition
          + (entry.bodyLines unifiedDiff).countP isAddition,
        2 * entry.laterPathLines.countP isDeletion
          + (entry.bodyLines unifiedDiff).countP isDeletion) := by
  obtain ⟨script, body, old, new, shown, diff⟩ := spec.changed _ _
    ('a' :: '/' :: entry.relativePath.toList) ('b' :: '/' :: entry.relativePath.toList) changed
  have oneLine (text : Option (List Char)) : ∀ line ∈ fileLines text, OneLine line := by
    cases text with
    | none => exact nofun
    | some text => exact fun line mem => oneLine_of_mem_lines mem
  have one := shown.oneLine (old ▸ oneLine _) (new ▸ oneLine _)
  have diffIs : diffLines unifiedDiff entry.relativePath entry.firstBefore.current
      entry.latestAfter.current
      = (['-', '-', '-', ' ', 'a', '/'] ++ entry.relativePath.toList)
        :: (['+', '+', '+', ' ', 'b', '/'] ++ entry.relativePath.toList) :: body := diff
  have bodyIs : entry.bodyLines unifiedDiff = body := by
    rw [Entry.bodyLines, diffIs]
    rfl
  have count {p : List Char → Bool} (empty : p [] = false)
      (old : ∀ path, p (['-', '-', '-', ' ', 'a', '/'] ++ path) = false)
      (new : ∀ path, p (['+', '+', '+', ' ', 'b', '/'] ++ path) = false) :
      (lines (entry.diffText unifiedDiff)).countP p
        = 2 * entry.laterPathLines.countP p + body.countP p := by
    rw [Entry.diffText, countP_diffText empty, diffIs, List.map_cons, List.map_cons,
      List.sum_cons, List.sum_cons, countP_body empty one,
      countP_header (by decide) (by decide) old, countP_header (by decide) (by decide) new,
      Entry.laterPathLines]
    omega
  rw [countPlusMinus_eq, count rfl (fun _ => rfl) fun _ => rfl,
    count rfl (fun _ => rfl) fun _ => rfl, bodyIs]

theorem diffText_refreshed (settings : Settings) (unifiedDiff : UnifiedDiff)
    (files : List (Path × Entry)) :
    ((refreshUndoSupport settings files).map Prod.snd).map (Entry.diffText unifiedDiff)
      = files.map fun file => file.2.diffText unifiedDiff := by
  have one : ∀ entry, (refreshEntry settings entry).diffText unifiedDiff
      = entry.diffText unifiedDiff := by
    intro entry
    unfold refreshEntry
    split
    · rfl
    · rfl
  have unsupported : ∀ (reason : String) (entry : Entry),
      Entry.diffText unifiedDiff
          { entry with undoSupported := false, undoUnavailableReason := reason }
        = entry.diffText unifiedDiff := fun _ _ => rfl
  simp only [refreshUndoSupport]
  split
  · simp [Function.comp_def, unsupported, one]
  · simp [Function.comp_def, one]

section Reports

variable {h : Hasher} {settings : Settings} {limits : DiffLimits} {unifiedDiff : UnifiedDiff}
  {runId : String} {t : Tracker} {artifact : ChangeSetArtifact}

theorem files_toArtifact (made : toArtifact h settings limits unifiedDiff runId t = some artifact) :
    artifact.files = (showFiles unifiedDiff limits.maxDiffLines.toNat limits.maxDiffBytes.toNat
      ((refreshUndoSupport settings t.files).map Prod.snd)).map ShownFile.report := by
  unfold toArtifact at made
  split at made
  · cases made
  · cases made
    rfl

variable {i : Nat}

theorem showFiles_at {entries : List Entry} {remainingLines remainingBytes : Nat}
    {shown : ShownFile}
    (at_i : (showFiles unifiedDiff remainingLines remainingBytes entries)[i]? = some shown) :
    ∃ (entry : Entry) (leftLines leftBytes : Nat), entries[i]? = some entry ∧
      shown = entry.shown unifiedDiff leftLines leftBytes := by
  induction entries generalizing remainingLines remainingBytes i with
  | nil => cases at_i
  | cons entry entries ih =>
    cases i with
    | zero =>
      cases at_i
      exact ⟨entry, remainingLines, remainingBytes, rfl, rfl⟩
    | succ i => exact ih at_i

variable {file : Path × Entry} {report : FileReport}

theorem report_of_file (made : toArtifact h settings limits unifiedDiff runId t = some artifact)
    (tracked : t.files[i]? = some file) (reported : artifact.files[i]? = some report) :
    ∃ (entry : Entry) (leftLines leftBytes : Nat),
      entry.diffText unifiedDiff = file.2.diffText unifiedDiff ∧
      report = (entry.shown unifiedDiff leftLines leftBytes).report := by
  rw [files_toArtifact made, List.getElem?_map, Option.map_eq_some_iff] at reported
  obtain ⟨shown, at_i, rfl⟩ := reported
  obtain ⟨entry, leftLines, leftBytes, refreshed, rfl⟩ := showFiles_at at_i
  refine ⟨entry, leftLines, leftBytes, ?_, rfl⟩
  have diffs := congrArg (·[i]?) (diffText_refreshed settings unifiedDiff t.files)
  simpa only [List.getElem?_map, ← List.map_map, refreshed, tracked, Option.map_some,
    Option.some.injEq] using diffs

/-- For every file of an artifact, the counts tell the body of the diff and the lines the
file gained exactly when its lines did not change, or headers and body stay apart. -/
theorem totals_conserved_iff (spec : UnifiedDiffSpec unifiedDiff)
    (made : toArtifact h settings limits unifiedDiff runId t = some artifact) {i : Nat}
    {file : Path × Entry} (tracked : t.files[i]? = some file) {report : FileReport}
    (reported : artifact.files[i]? = some report) : Conserved unifiedDiff file.2 report ↔
      fileLines file.2.firstBefore.current = fileLines file.2.latestAfter.current ∨
        HeadersApart unifiedDiff file.2 := by
  have counts : (report.additions, report.deletions)
      = countPlusMinus (file.2.diffText unifiedDiff) := by
    obtain ⟨entry, leftLines, leftBytes, same, rfl⟩ := report_of_file made tracked reported
    rw [← same]
    rfl
  by_cases changed : fileLines file.2.firstBefore.current = fileLines file.2.latestAfter.current
  · have none : diffLines unifiedDiff file.2.relativePath file.2.firstBefore.current
        file.2.latestAfter.current = [] := by
      rw [diffLines, changed]
      exact spec.same _ _ _
    have body : file.2.bodyLines unifiedDiff = [] := by
      rw [Entry.bodyLines, none]
      rfl
    have zero : (report.additions, report.deletions) = (0, 0) := by
      rw [counts, Entry.diffText, diffText, none]
      rfl
    rw [Prod.mk.injEq] at zero
    constructor
    · intro _
      exact .inl changed
    · intro _
      constructor
      · rw [zero.1, body]
        rfl
      · rw [zero.2, body]
        rfl
      · rw [zero.1, zero.2, changed]
        omega
  · rw [countPlusMinus_diffText spec changed, Prod.mk.injEq] at counts
    have added := countP_addition (file.2.bodyLines unifiedDiff)
    have removed := countP_deletion (file.2.bodyLines unifiedDiff)
    constructor
    · intro conserved
      have additions := conserved.additions
      have deletions := conserved.deletions
      right
      constructor
      · omega
      · omega
    · rintro (same | apart)
      · exact absurd same changed
      · have additions := apart.additions
        have deletions := apart.deletions
        obtain ⟨script, body, old, new, shown, diff⟩ := spec.changed _ _
          ('a' :: '/' :: file.2.relativePath.toList) ('b' :: '/' :: file.2.relativePath.toList)
          changed
        have bodyIs : file.2.bodyLines unifiedDiff = body := by
          rw [Entry.bodyLines, diffLines, diff]
          rfl
        have balance := script_balance script
        rw [old, new, ← shown.signs.1, ← shown.signs.2, ← bodyIs] at balance
        constructor
        · omega
        · omega
        · omega

/-! ### The budgets of an artifact -/

theorem truncateText_cuts :
    Cuts fun maxLines maxBytes => truncateText (maxLines : Nat) (maxBytes : Nat) := by
  apply cuts_of_kept fun maxLines text =>
    if 0 ≤ (maxLines : Int) ∧ (maxLines : Int) < (lines text).length then
      joinLines ((lines text).take (maxLines : Int).toNat)
    else text
  · intro maxLines text
    split
    · exact ⟨lineCount_firstLines text maxLines, .inr ⟨maxLines, List.prefix_rfl⟩⟩
    · refine ⟨?_, .inl List.prefix_rfl⟩
      rw [lineCount]
      omega
  · intro maxLines maxBytes text shown same
    rw [truncateText, same]
    split
    · exact firstBytes_prefix _ maxBytes
    · refine ⟨List.prefix_rfl, ?_⟩
      rw [byteCount]
      omega

theorem displayed_toArtifact
    (made : toArtifact h settings limits unifiedDiff runId t = some artifact) :
    Displayed limits.maxDiffLines limits.maxDiffBytes
      (t.files.map fun file => file.2.diffText unifiedDiff)
      (artifact.files.map FileReport.unifiedDiff) := by
  have shown : ∀ (entries : List Entry) (remainingLines remainingBytes : Nat),
      ((showFiles unifiedDiff remainingLines remainingBytes entries).map ShownFile.report).map
          FileReport.unifiedDiff
        = showWithin (fun maxLines maxBytes => truncateText (maxLines : Nat) (maxBytes : Nat))
          remainingLines remainingBytes (entries.map (Entry.diffText unifiedDiff)) := by
    intro entries
    induction entries with
    | nil =>
      intro _ _
      rfl
    | cons entry entries ih =>
      intro remainingLines remainingBytes
      rw [showFiles, List.map_cons, List.map_cons, List.map_cons, showWithin, ih]
      rfl
  rw [files_toArtifact made, shown, diffText_refreshed]
  exact displayed_showWithin truncateText_cuts _ _ _

theorem truncated_toArtifact
    (made : toArtifact h settings limits unifiedDiff runId t = some artifact)
    (tracked : t.files[i]? = some file) (reported : artifact.files[i]? = some report) :
    report.truncated = false ↔ report.unifiedDiff = file.2.diffText unifiedDiff := by
  obtain ⟨entry, leftLines, leftBytes, same, rfl⟩ := report_of_file made tracked reported
  rw [← same]
  exact bne_eq_false_iff_eq

end Reports

/-! ### A line that looks like a header -/

/-- `_format_range_unified` from the first line on. -/
def formatRange (length : Nat) : List Char :=
  if length = 1 then ['1']
  else (if length = 0 then '0' else '1') :: ',' :: Json.natText length

/-- The diff of two texts that share no line: the old lines go, the new ones come. -/
def replaceAll : UnifiedDiff := fun before after fromFile toFile =>
  if before = after then []
  else
    ('-' :: '-' :: '-' :: ' ' :: fromFile) :: ('+' :: '+' :: '+' :: ' ' :: toFile)
      :: ('@' :: '@' :: ([' ', '-'] ++ formatRange before.length
          ++ ([' ', '+'] ++ formatRange after.length ++ [' ', '@', '@'])))
      :: (before.map ('-' :: ·) ++ after.map ('+' :: ·))

theorem oneLine_formatRange (length : Nat) : OneLine (formatRange length) := by
  have digits : ∀ c ∈ Json.natText length, isLineBreak c = false := by
    intro c mem
    have digit := Json.all_digits_natText length c mem
    by_contra broken
    simp only [isLineBreak, decide_eq_true_eq, Bool.not_eq_false, List.mem_cons,
      List.not_mem_nil, or_false] at broken
    rcases broken with rfl | rfl | rfl | rfl | rfl | rfl | rfl | rfl | rfl | rfl <;>
      exact absurd digit (by decide)
  unfold formatRange
  split
  · decide
  · intro c mem
    rcases List.mem_cons.mp mem with rfl | mem
    · split <;> rfl
    · rcases List.mem_cons.mp mem with rfl | mem
      · rfl
      · exact digits c mem

theorem shows_replaceAll (before after : List (List Char)) :
    Shows (before.map .remove ++ after.map .add)
      (before.map ('-' :: ·) ++ after.map ('+' :: ·)) := by
  induction before with
  | nil =>
    induction after with
    | nil => exact .done
    | cons line after ih => exact .add line ih
  | cons line before ih => exact .remove line ih

theorem replaceAll_spec : UnifiedDiffSpec replaceAll where
  same _ _ _ := if_pos rfl
  changed before after fromFile toFile ne := by
    refine ⟨before.map .remove ++ after.map .add, _, ?_, ?_, ?_, if_neg ne⟩
    · simp [EditLine.old?, List.filterMap_map, Function.comp_def]
    · simp [EditLine.new?, List.filterMap_map, Function.comp_def]
    · apply Shows.hunk _ _ (shows_replaceAll before after)
      have old : OneLine ([' ', '-'] ++ formatRange before.length) :=
        .append (by decide) (oneLine_formatRange _)
      have new : OneLine ([' ', '+'] ++ formatRange after.length) :=
        .append (by decide) (oneLine_formatRange _)
      exact old.append (new.append (by decide))

/-- A digest that tells no two texts apart. -/
def constantHasher : Hasher := ⟨fun _ => "digest", fun _ => by decide⟩

def noRoots : Settings := { workspaceRoots := [] }

def createdNotes (text : List Char) : Tracker :=
  recordTextFileChange constantHasher noRoots .empty ⟨["notes.md"], none, some text⟩
    ⟨"turn", "write", "call", ""⟩

def notesArtifact (text : List Char) : Option ChangeSetArtifact :=
  toArtifact constantHasher noRoots {} replaceAll "run" (createdNotes text)

/-- The only line of the new file begins with two plus signs, and no addition is reported. -/
theorem doubled_sign_not_counted :
    ∃ artifact file report, notesArtifact ['+', '+', 'i', ';'] = some artifact ∧
      (createdNotes ['+', '+', 'i', ';']).files = [file] ∧ artifact.files = [report] ∧
      report.additions = 0 ∧
      file.2.bodyLines replaceAll
        = [['@', '@', ' ', '-', '0', ',', '0', ' ', '+', '1', ' ', '@', '@'],
          ['+', '+', '+', 'i', ';']] ∧
      ¬ Conserved replaceAll file.2 report := by
  refine ⟨_, _, _, rfl, rfl, rfl, by decide, by decide, ?_⟩
  intro conserved
  exact absurd conserved.additions (by decide)

/-- One plus sign in front of a line is counted. -/
theorem single_sign_counted :
    ∃ artifact file report, notesArtifact ['+', 'i', ';'] = some artifact ∧
      (createdNotes ['+', 'i', ';']).files[0]? = some file ∧
      artifact.files[0]? = some report ∧ report.additions = 1 ∧
      (Conserved replaceAll file.2 report ↔
        fileLines file.2.firstBefore.current = fileLines file.2.latestAfter.current ∨
          HeadersApart replaceAll file.2) := by
  refine ⟨_, _, _, rfl, rfl, rfl, by decide, ?_⟩
  exact @totals_conserved_iff constantHasher noRoots {} _ "run" (createdNotes ['+', 'i', ';']) _
    replaceAll_spec rfl 0 _ rfl _ rfl

end Unchain.Workspace
