import Unchain.Python.Builtins
import Unchain.Workspace.Artifacts

/-!
File diffs in a tool's artifact (`_file_diff_snapshot_files` of `artifacts/core.py`).

A tool hands out a list of records with a path and a unified diff each. The snapshot shows
the diffs within the caps, as the change tracker's artifact does (`Workspace.Artifacts`),
with a cut of its own: a cap of zero shows nothing. A record that says it was truncated
before stays marked as truncated.
-/

namespace Unchain.Artifacts

open Lib Lib.Utf8 Lib.Display Python

structure ArtifactCaps where
  maxLines : Int := 400
  maxBytes : Int := 128 * 1024

/-- `_truncate_text`. -/
def truncateText (caps : ArtifactCaps) (text : List Char) : List Char :=
  let maxLines := caps.maxLines.toNat
  let maxBytes := caps.maxBytes.toNat
  let displayed :=
    if maxLines ≠ 0 ∧ maxLines < (lines text).length then joinLines ((lines text).take maxLines)
    else if maxLines = 0 ∧ lines text ≠ [] then []
    else text
  if maxBytes ≠ 0 ∧ maxBytes < (encode displayed).length then
    decodeIgnore ((encode displayed).take maxBytes)
  else if maxBytes = 0 ∧ encode displayed ≠ [] then []
  else displayed

/-- `_clean_string`. -/
def cleanString : Value → String
  | .str s => strip s
  | _ => ""

/-- A record the snapshot shows: its path and its whole diff. -/
def readFile (raw : Value) : Option (String × String) :=
  if !raw.isDict then none
  else
    let path := cleanString (raw.get "path")
    let fullDiff := match raw.get "unified_diff_full" with
      | .str diff => Value.str diff
      | _ => raw.get "unified_diff"
    match fullDiff with
    | .str diff => if path = "" then none else some (path, diff)
    | _ => none

structure FileDiffEntry where
  path : String
  unifiedDiff : List Char
  truncated : Bool
  totalLines : Nat
  displayedLines : Nat
  operation : Option String
  subOperation : Option String

structure ShownDiff where
  fullDiff : List Char
  entry : FileDiffEntry

/-- `s or None`. -/
def nonEmpty (s : String) : Option String := if s = "" then none else some s

variable (remainingLines remainingBytes : Nat)

/-- What is shown of a diff with so much left of the caps. -/
def displayedDiff (fullDiff : List Char) : List Char :=
  if remainingLines = 0 ∨ remainingBytes = 0 then []
  else truncateText ⟨remainingLines, remainingBytes⟩ fullDiff

def showDiff (raw : Value) (path : String) (fullDiff : List Char) : ShownDiff :=
  let displayed := displayedDiff remainingLines remainingBytes fullDiff
  let subOperation := nonEmpty (cleanString (raw.get "sub_operation"))
  { fullDiff := fullDiff
    entry :=
      { path := path
        unifiedDiff := displayed
        truncated := displayed != fullDiff || (raw.get "truncated").truthy
        totalLines := lineCount fullDiff
        displayedLines := lineCount displayed
        operation := (nonEmpty (cleanString (raw.get "operation"))).or subOperation
        subOperation := subOperation } }

/-- The loop of `_file_diff_snapshot_files`. -/
def showDiffs : (remainingLines remainingBytes : Nat) → List Value → List ShownDiff
  | _, _, [] => []
  | remainingLines, remainingBytes, raw :: files =>
    match readFile raw with
    | none => showDiffs remainingLines remainingBytes files
    | some (path, fullDiff) =>
      let shown := showDiff remainingLines remainingBytes raw path fullDiff.toList
      shown :: showDiffs (remainingLines - lineCount shown.entry.unifiedDiff)
        (remainingBytes - (encode shown.entry.unifiedDiff).length) files

/-- `_file_diff_snapshot_files`: the entries, the whole text and the displayed text. -/
def fileDiffSnapshotFiles (files : List Value) (caps : ArtifactCaps) :
    List FileDiffEntry × List Char × List Char :=
  let shown := showDiffs caps.maxLines.toNat caps.maxBytes.toNat files
  (shown.map ShownDiff.entry, shown.flatMap ShownDiff.fullDiff,
    shown.flatMap fun s => s.entry.unifiedDiff)

/-! ### The caps -/

theorem truncateText_cuts :
    Cuts fun maxLines maxBytes => truncateText ⟨(maxLines : Nat), (maxBytes : Nat)⟩ := by
  apply cuts_of_kept fun maxLines text =>
    if maxLines ≠ 0 ∧ maxLines < (lines text).length then joinLines ((lines text).take maxLines)
    else if maxLines = 0 ∧ lines text ≠ [] then [] else text
  · intro maxLines text
    split
    · exact ⟨lineCount_firstLines text maxLines, .inr ⟨maxLines, List.prefix_rfl⟩⟩
    · split
      · exact ⟨Nat.zero_le _, .inl List.nil_prefix⟩
      · next none =>
          refine ⟨?_, .inl List.prefix_rfl⟩
          rw [← List.length_pos_iff] at none
          rw [lineCount]
          omega
  · intro maxLines maxBytes text shown same
    simp only [truncateText, Int.toNat_natCast, same]
    split
    · exact firstBytes_prefix _ maxBytes
    · split
      · exact ⟨List.nil_prefix, Nat.zero_le _⟩
      · next none =>
          refine ⟨List.prefix_rfl, ?_⟩
          rw [← List.length_pos_iff] at none
          rw [byteCount]
          omega

theorem displayedDiff_cuts : Cuts displayedDiff := by
  constructor
  · intro maxLines maxBytes text
    unfold displayedDiff
    split
    · exact Nat.zero_le _
    · exact truncateText_cuts.lines maxLines maxBytes text
  · intro maxLines maxBytes text
    unfold displayedDiff
    split
    · exact Nat.zero_le _
    · exact truncateText_cuts.bytes maxLines maxBytes text
  · intro maxLines maxBytes text
    unfold displayedDiff
    split
    · exact .inl List.nil_prefix
    · exact truncateText_cuts.shortens maxLines maxBytes text

/-! ### The entries -/

/-- The records a snapshot shows, with their paths and whole diffs. -/
def shownFiles (files : List Value) : List (Value × String × String) :=
  files.filterMap fun raw => (readFile raw).map fun read => (raw, read)

theorem displayed_showDiffs (files : List Value) :
    (showDiffs remainingLines remainingBytes files).map (fun shown => shown.entry.unifiedDiff)
      = showWithin displayedDiff remainingLines remainingBytes
        ((shownFiles files).map fun file => file.2.2.toList) := by
  induction files generalizing remainingLines remainingBytes with
  | nil => rfl
  | cons raw files ih =>
    rw [showDiffs, shownFiles, List.filterMap_cons]
    cases read : readFile raw with
    | none => exact ih remainingLines remainingBytes
    | some found =>
      rw [Option.map_some, List.map_cons, List.map_cons, ih, showWithin]
      rfl

theorem showDiffs_at {remainingLines remainingBytes : Nat} {files : List Value} {i : Nat}
    {shown : ShownDiff} (at_i : (showDiffs remainingLines remainingBytes files)[i]? = some shown)
    {raw : Value} {path fullDiff : String} (file : (shownFiles files)[i]? = some (raw, path, fullDiff)) :
    ∃ leftLines leftBytes, shown = showDiff leftLines leftBytes raw path fullDiff.toList := by
  induction files generalizing remainingLines remainingBytes i with
  | nil => cases at_i
  | cons first files ih =>
    rw [showDiffs] at at_i
    rw [shownFiles, List.filterMap_cons] at file
    cases read : readFile first with
    | none =>
      rw [read] at at_i file
      exact ih at_i file
    | some found =>
      rw [read] at at_i file
      cases i with
      | zero =>
        cases at_i
        cases file
        exact ⟨remainingLines, remainingBytes, rfl⟩
      | succ i => exact ih at_i file

/-- What the artifacts of the tracker and of the tools show keeps to the caps: the lines and
the bytes of all displayed diffs together, each of them its diff's first characters or the
first characters of its first lines. A file of the tracker is marked as truncated exactly
when its diff is not shown whole, a file of a tool also when its record says so itself. -/
theorem displayed_within_caps (h : Workspace.Hasher) (settings : Workspace.Settings)
    (limits : Workspace.DiffLimits) (unifiedDiff : Workspace.UnifiedDiff) (runId : String)
    (t : Workspace.Tracker) (files : List Value) (caps : ArtifactCaps) :
    (∀ artifact, Workspace.toArtifact h settings limits unifiedDiff runId t = some artifact →
      Displayed limits.maxDiffLines limits.maxDiffBytes
          (t.files.map fun file => file.2.diffText unifiedDiff)
          (artifact.files.map Workspace.FileReport.unifiedDiff) ∧
        ∀ (i : Nat) (file : Workspace.Path × Workspace.Entry) (report : Workspace.FileReport),
          t.files[i]? = some file → artifact.files[i]? = some report →
          (report.truncated = false ↔ report.unifiedDiff = file.2.diffText unifiedDiff)) ∧
      Displayed caps.maxLines caps.maxBytes
        ((shownFiles files).map fun file => file.2.2.toList)
        ((fileDiffSnapshotFiles files caps).1.map FileDiffEntry.unifiedDiff) ∧
      ∀ (i : Nat) (raw : Value) (path fullDiff : String) (entry : FileDiffEntry),
        (shownFiles files)[i]? = some (raw, path, fullDiff) →
        (fileDiffSnapshotFiles files caps).1[i]? = some entry →
        (entry.truncated = false ↔
          entry.unifiedDiff = fullDiff.toList ∧ (raw.get "truncated").truthy = false) := by
  constructor
  · intro artifact made
    constructor
    · exact Workspace.displayed_toArtifact made
    · intro i file report tracked reported
      exact Workspace.truncated_toArtifact made tracked reported
  · constructor
    · rw [fileDiffSnapshotFiles, List.map_map]
      have shown := displayed_showDiffs caps.maxLines.toNat caps.maxBytes.toNat files
      rw [show FileDiffEntry.unifiedDiff ∘ ShownDiff.entry
        = fun shown => shown.entry.unifiedDiff from rfl, shown]
      exact displayed_showWithin displayedDiff_cuts _ _ _
    · intro i raw path fullDiff entry file shown
      rw [fileDiffSnapshotFiles, List.getElem?_map, Option.map_eq_some_iff] at shown
      obtain ⟨shown, at_i, rfl⟩ := shown
      obtain ⟨leftLines, leftBytes, rfl⟩ := showDiffs_at at_i file
      simp [showDiff]

/-- Two diffs of a tool, the second of three lines. -/
def twoDiffs : List Value :=
  [.dict [("path", .str "a.txt"), ("unified_diff", .str "+a")],
    .dict [("path", .str "b.txt"), ("unified_diff", .str "+b\n+é\n+d")]]

/-- The second diff is cut to the two lines and the five bytes that are left of the caps. -/
theorem two_diffs_within_caps :
    (fileDiffSnapshotFiles twoDiffs ⟨3, 7⟩).1.map FileDiffEntry.unifiedDiff
        = ["+a".toList, "+b\n+".toList] ∧
      Displayed 3 7 ((shownFiles twoDiffs).map fun file => file.2.2.toList)
        ((fileDiffSnapshotFiles twoDiffs ⟨3, 7⟩).1.map FileDiffEntry.unifiedDiff) :=
  ⟨by decide, (displayed_within_caps Workspace.constantHasher Workspace.noRoots {}
    Workspace.replaceAll "run" .empty twoDiffs ⟨3, 7⟩).2.1⟩

/-- A record that was truncated before it came is marked, though its diff is shown whole. -/
theorem whole_diff_marked_truncated :
    ∃ entry, (fileDiffSnapshotFiles [.dict [("path", .str "a.txt"), ("unified_diff", .str "+x"),
        ("truncated", .bool true)]] {}).1 = [entry] ∧
      entry.unifiedDiff = "+x".toList ∧ entry.truncated = true := by
  refine ⟨_, rfl, ?_, ?_⟩
  · decide
  · decide

end Unchain.Artifacts
