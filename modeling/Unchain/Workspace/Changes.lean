import Unchain.Workspace.Files
import Mathlib.Algebra.Ring.Nat
import Mathlib.Data.List.Dedup
import Mathlib.Data.List.Sort

/-!
The workspace change tracker.

Two ways of recording meet in one table of files: a tool reports the texts before
and after its own write, and a pair of workspace snapshots around a tool call shows
whatever else changed. For each file the table keeps the text before its first
recorded change and the text after its latest one. `restore` writes the former back
once it has seen that no file moved on from the latter.

The digest is a parameter; the only thing the tracker needs of it is that a digest
is never the empty text, which stands for an absent file.
-/

namespace Unchain.Workspace

open Lib Lib.Utf8 Lib.Effect

/-- `hashlib.sha256(text.encode("utf-8")).hexdigest()`. -/
structure Hasher where
  sha256 : List Char → String
  nonempty : ∀ text, sha256 text ≠ ""

structure Settings where
  workspaceRoots : List Path
  maxRestoreBytesPerFile : Nat := 256 * 1024
  maxRestoreTotalBytes : Nat := 1024 * 1024
  maxFileBytes : Nat := 256 * 1024
  maxFiles : Nat := 5000

/-! ### Snapshots of one file -/

/-- What the tracker remembers of one file at one time. -/
structure Snapshot where
  present : Bool
  sha256 : String
  sizeBytes : Nat
  text : Option (List Char)

/-- `_text_size`. -/
def textSize : Option (List Char) → Nat
  | none => 0
  | some text => (encode text).length

inductive ChangeStatus where
  | created
  | deleted
  | modified

/-- `_status`. -/
def changeStatus (before after : Snapshot) : ChangeStatus :=
  if !before.present && after.present then .created
  else if before.present && !after.present then .deleted
  else .modified

def ChangeStatus.name : ChangeStatus → String
  | .created => "created"
  | .deleted => "deleted"
  | .modified => "modified"

/-- `path.relative_to(root).as_posix()` for the first root above the path. -/
def relativePath (settings : Settings) (p : Path) : String :=
  match settings.workspaceRoots.find? (·.isPrefixOf p) with
  | some root => if p.length = root.length then "." else "/".intercalate (p.drop root.length)
  | none => p.getLastD ""

/-- `_is_workspace_path`. -/
def isWorkspacePath (settings : Settings) (p : Path) : Bool :=
  settings.workspaceRoots.any (·.isPrefixOf p)

section Tracker

variable (h : Hasher) (settings : Settings)

/-- `_snapshot`. -/
def snapshot (text : Option (List Char)) : Snapshot where
  present := text.isSome
  sha256 := match text with
    | some t => h.sha256 t
    | none => ""
  sizeBytes := textSize text
  text := text

/-! ### Snapshots of the workspace -/

/-- An entry of a workspace snapshot: a file that exists, with its text when it is
text of a bounded size. -/
structure SnapshotEntry where
  path : Path
  relativePath : String
  trackable : Bool
  sha256 : String
  sizeBytes : Nat
  text : Option (List Char)

structure TextSnapshot where
  entries : List (Path × SnapshotEntry)
  complete : Bool

def skippedDirNames : List String :=
  [".git", ".hg", ".svn", "node_modules", "__pycache__", ".pytest_cache", ".mypy_cache",
   ".ruff_cache", ".next", ".nuxt", ".venv", "venv", "dist", "build", "coverage"]

/-- The order of `os.walk` on the components below the root: the files of a directory
in order, then its subdirectories in order. -/
def WalkLE : Path → Path → Prop
  | [], _ => True
  | _ :: _, [] => False
  | [a], [b] => a ≤ b
  | [_], _ :: _ :: _ => True
  | _ :: _ :: _, [_] => False
  | a :: as, b :: bs => a < b ∨ (a = b ∧ WalkLE as bs)

instance decidableWalkLE : DecidableRel WalkLE
  | [], _ => .isTrue trivial
  | _ :: _, [] => .isFalse not_false
  | [a], [b] => inferInstanceAs (Decidable (a ≤ b))
  | [_], _ :: _ :: _ => .isTrue trivial
  | _ :: _ :: _, [_] => .isFalse not_false
  | _ :: a :: as, _ :: b :: bs =>
    have := decidableWalkLE (a :: as) (b :: bs)
    inferInstanceAs (Decidable (_ ∨ (_ ∧ _)))

/-- `_iter_files` reaches the file: it is below the root and in no skipped directory. -/
def walked (root p : Path) : Bool :=
  root.isPrefixOf p && root != p
    && ((p.drop root.length).dropLast.all fun name => !skippedDirNames.contains name)

/-- `_iter_files`: the files below a root, without the skipped directories. -/
def iterFiles (fs : FileSystem) (root : Path) : List Path :=
  ((Assoc.keys fs).filter fun p => fs.isFileAt p && walked root p).insertionSort
    fun p q => WalkLE (p.drop root.length) (q.drop root.length)

def untracked (p : Path) (size : Nat) : SnapshotEntry :=
  ⟨p, relativePath settings p, false, "", size, none⟩

/-- `_entry_for`. -/
def entryFor (fs : FileSystem) (p : Path) : Option SnapshotEntry :=
  match fs.fileAt p with
  | none => none
  | some raw =>
    if !isWorkspacePath settings p then none
    else if settings.maxFileBytes < raw.length then some (untracked settings p raw.length)
    else if (raw.take 8192).contains 0 then some (untracked settings p raw.length)
    else match decode? raw with
      | none => some (untracked settings p raw.length)
      | some text => some ⟨p, relativePath settings p, true, h.sha256 text, raw.length, some text⟩

/-- The inner loop of `capture`: one root's files, until the snapshot is full. -/
def captureFiles (fs : FileSystem) : List Path → TextSnapshot → TextSnapshot
  | [], snap => snap
  | p :: ps, snap =>
    if settings.maxFiles ≤ snap.entries.length then { snap with complete := false }
    else match entryFor h settings fs p with
      | none => captureFiles fs ps snap
      | some entry =>
        captureFiles fs ps { snap with entries := Assoc.set entry.path entry snap.entries }

/-- `WorkspaceTextSnapshot.capture`. -/
def capture (fs : FileSystem) : TextSnapshot :=
  settings.workspaceRoots.foldl
    (fun snap root =>
      if !fs.existsAt root then snap
      else captureFiles h settings fs (if fs.isFileAt root then [root] else iterFiles fs root) snap)
    ⟨[], true⟩

/-! ### The table of changed files -/

/-- Who made a change. -/
structure Operation where
  turnId : String
  toolName : String
  callId : String
  operation : String

structure Entry where
  path : Path
  relativePath : String
  firstBefore : Snapshot
  latestAfter : Snapshot
  status : ChangeStatus
  operations : List Operation
  undoSupported : Bool
  undoUnavailableReason : String

/-- One recorded change of one file. -/
structure Change where
  path : Path
  before : Option (List Char)
  after : Option (List Char)

/-- The tracker. `changes` is not kept by the program: it lists the changes recorded so
far, which is what an undo has to take back. -/
structure Tracker where
  files : List (Path × Entry)
  changes : List Change

def Tracker.empty : Tracker := ⟨[], []⟩

/-- `_refresh_undo_support` on one entry. -/
def refreshEntry (entry : Entry) : Entry :=
  if settings.maxRestoreBytesPerFile < entry.firstBefore.sizeBytes + entry.latestAfter.sizeBytes then
    { entry with
      undoSupported := false
      undoUnavailableReason := "file exceeds undo snapshot size limit" }
  else { entry with undoSupported := true, undoUnavailableReason := "" }

variable (files : List (Path × Entry))

def totalBytes : Nat :=
  (files.map fun f => f.2.firstBefore.sizeBytes + f.2.latestAfter.sizeBytes).sum

/-- `_refresh_undo_support`. -/
def refreshUndoSupport : List (Path × Entry) :=
  let files := files.map fun f => (f.1, refreshEntry settings f.2)
  if settings.maxRestoreTotalBytes < totalBytes files then
    files.map fun f => (f.1, { f.2 with
      undoSupported := false
      undoUnavailableReason := "change set exceeds undo snapshot size limit" })
  else files

def newEntry (c : Change) : Entry where
  path := c.path
  relativePath := relativePath settings c.path
  firstBefore := snapshot h c.before
  latestAfter := snapshot h c.after
  status := .modified
  operations := []
  undoSupported := true
  undoUnavailableReason := ""

/-- `record_text_file_change`. -/
def recordTextFileChange (t : Tracker) (c : Change) (op : Operation) : Tracker :=
  if !settings.workspaceRoots.isEmpty && !isWorkspacePath settings c.path then t
  else if c.before = c.after then t
  else
    let entry := match Assoc.get c.path t.files with
      | none => newEntry h settings c
      | some entry => { entry with latestAfter := snapshot h c.after }
    let status := changeStatus entry.firstBefore entry.latestAfter
    let op := if op.operation = "" then { op with operation := status.name } else op
    let entry := { entry with status := status, operations := entry.operations ++ [op] }
    { files := refreshUndoSupport settings (Assoc.set c.path entry t.files)
      changes := t.changes ++ [c] }

/-- `latest_after_sha256`. -/
def latestAfterSha256 (t : Tracker) (p : Path) : Option String :=
  (Assoc.get p t.files).map fun entry => entry.latestAfter.sha256

/-- The loop body of `record_text_snapshot_changes` up to the recording. -/
def snapshotChange? (t : Tracker) (before after : TextSnapshot) (p : Path) : Option Change :=
  let beforeEntry := Assoc.get p before.entries
  let afterEntry := Assoc.get p after.entries
  if beforeEntry.isNone && !before.complete then none
  else if afterEntry.isNone && !after.complete then none
  else if beforeEntry.any fun e => !e.trackable then none
  else if afterEntry.any fun e => !e.trackable then none
  else
    let beforeText := beforeEntry.bind (·.text)
    let afterText := afterEntry.bind (·.text)
    if beforeText = afterText then none
    else
      let afterSha256 := (afterEntry.map (·.sha256)).getD ""
      if latestAfterSha256 t p = some afterSha256 then none
      else some ⟨p, beforeText, afterText⟩

def recordSnapshotChange (before after : TextSnapshot) (op : Operation) (t : Tracker) (p : Path) :
    Tracker :=
  match snapshotChange? t before after p with
  | none => t
  | some c =>
    let status := changeStatus (snapshot h c.before) (snapshot h c.after)
    recordTextFileChange h settings t c { op with operation := status.name }

def pathText (p : Path) : String := "/" ++ "/".intercalate p

/-- `sorted(set(before.entries) | set(after.entries))`. -/
def snapshotKeys (before after : TextSnapshot) : List Path :=
  (Assoc.keys before.entries ++ Assoc.keys after.entries).dedup.insertionSort
    fun p q => pathText p ≤ pathText q

/-- `record_text_snapshot_changes`, called when the files are `fs`. -/
def recordTextSnapshotChanges (t : Tracker) (before : TextSnapshot) (fs : FileSystem)
    (op : Operation) : Tracker :=
  let after := capture h settings fs
  (snapshotKeys before after).foldl (recordSnapshotChange h settings before after op) t

/-! ### Undo -/

inductive RestoreStatus where
  | unsupported
  | conflict
  | restored

structure RestoredFile where
  path : Path
  relativePath : String

structure ConflictingFile where
  path : Path
  relativePath : String
  expectedAfterSha256 : String
  currentSha256 : String

structure UnsupportedFile where
  path : Path
  relativePath : String
  reason : String

structure RestoreReport where
  status : RestoreStatus
  restored : List RestoredFile
  conflicts : List ConflictingFile
  unsupported : List UnsupportedFile

/-- `_read_current_snapshot`. -/
def readCurrentSnapshot (fs : FileSystem) (p : Path) : Snapshot :=
  if !fs.existsAt p then snapshot h none
  else match readText fs p with
    | some text => snapshot h (some text)
    | none => ⟨true, "", ((fs.fileAt p).getD []).length, none⟩

def unsupportedFiles : List UnsupportedFile :=
  (files.filter fun f => !f.2.undoSupported).map
      (fun f => ⟨f.2.path, f.2.relativePath,
        if f.2.undoUnavailableReason = "" then "undo is not supported"
        else f.2.undoUnavailableReason⟩)
    ++ (files.filter fun f =>
          !settings.workspaceRoots.isEmpty && !isWorkspacePath settings f.2.path).map
        (fun f => ⟨f.2.path, f.2.relativePath, "path is outside workspace roots"⟩)

/-- The file is no longer what the tracker saw last. -/
def conflicting (fs : FileSystem) (entry : Entry) : Bool :=
  let current := readCurrentSnapshot h fs entry.path
  current.present != entry.latestAfter.present || current.sha256 != entry.latestAfter.sha256

def conflictReport (fs : FileSystem) (entry : Entry) : ConflictingFile where
  path := entry.path
  relativePath := entry.relativePath
  expectedAfterSha256 := entry.latestAfter.sha256
  currentSha256 := (readCurrentSnapshot h fs entry.path).sha256

def restoreEntry (entry : Entry) : EStateM FsError FileSystem Unit := do
  if entry.firstBefore.present then
    makeDirs entry.path.dropLast
    writeText entry.path (entry.firstBefore.text.getD [])
  else if (← get).existsAt entry.path then unlink entry.path
  else pure ()

def restoreFiles : EStateM FsError FileSystem RestoreReport := do
  each restoreEntry (files.map (·.2))
  return ⟨.restored, files.map fun f => ⟨f.2.path, f.2.relativePath⟩, [], []⟩

def restoreSupported : EStateM FsError FileSystem RestoreReport := do
  let fs ← get
  let conflicts := files.filter fun f => conflicting h fs f.2
  if conflicts.isEmpty then restoreFiles files
  else return ⟨.conflict, [], conflicts.map fun f => conflictReport h fs f.2, []⟩

/-- `WorkspaceChangeTracker.restore`. -/
def restore (t : Tracker) : EStateM FsError FileSystem RestoreReport :=
  let files := refreshUndoSupport settings t.files
  let unsupported := unsupportedFiles settings files
  if unsupported.isEmpty then restoreSupported h files
  else return ⟨.unsupported, [], [], unsupported⟩

end Tracker

end Unchain.Workspace
