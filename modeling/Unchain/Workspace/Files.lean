import Unchain.Lib.Assoc
import Unchain.Lib.Effect
import Unchain.Lib.Utf8

/-!
The files of a workspace, as `pathlib` shows them.

A path is the list of its components below the file system root; it is absolute and
resolved. A file system says what stands at each path, a file with its bytes or a
directory. The operations are those the tracker calls (`exists`, `read_text`,
`write_text`, `mkdir`, `unlink`), with the errors POSIX raises.

`read_text` decodes UTF-8 and translates every `\r\n` and every lone `\r` to `\n`;
`write_text` writes the text as it is.
-/

namespace Unchain.Workspace

open Lib Lib.Utf8 Lib.Effect

abbrev Path := List String

inductive Node where
  | file (content : Bytes)
  | dir
deriving DecidableEq

abbrev FileSystem := List (Path × Node)

inductive FsError where
  | fileNotFound
  | fileExists
  | notADirectory
  | isADirectory

/-- `a` is a directory above `p`. -/
def IsAbove (a p : Path) : Prop := a <+: p ∧ a ≠ p

instance (a p : Path) : Decidable (IsAbove a p) := inferInstanceAs (Decidable (_ ∧ _))

namespace FileSystem

def nodeAt (fs : FileSystem) (p : Path) : Option Node := Assoc.get p fs

/-- The bytes of the file at `p`, if a file stands there. -/
def fileAt (fs : FileSystem) (p : Path) : Option Bytes :=
  match fs.nodeAt p with
  | some (.file content) => some content
  | _ => none

def isFileAt (fs : FileSystem) (p : Path) : Bool := (fs.fileAt p).isSome

def isDirAt (fs : FileSystem) (p : Path) : Bool := fs.nodeAt p = some .dir

/-- `path.exists()`. -/
def existsAt (fs : FileSystem) (p : Path) : Bool := (fs.nodeAt p).isSome

structure WellFormed (fs : FileSystem) : Prop where
  root : fs.isDirAt [] = true
  above : ∀ p, fs.isFileAt p = true → ∀ a, IsAbove a p → fs.isDirAt a = true

variable {fs : FileSystem} {p : Path}

theorem isFileAt_iff :
    fs.isFileAt p = true ↔ ∃ content, fs.nodeAt p = some (.file content) := by
  unfold isFileAt fileAt
  cases fs.nodeAt p with
  | none => simp
  | some node => cases node <;> simp

theorem isDirAt_iff :
    fs.isDirAt p = true ↔ fs.nodeAt p = some .dir := by
  simp [isDirAt]

theorem isFileAt_of_fileAt {content : Bytes} (h : fs.fileAt p = some content) :
    fs.isFileAt p = true := by
  simp [isFileAt, h]

theorem not_isDirAt_of_isFileAt (h : fs.isFileAt p = true) : fs.isDirAt p = false := by
  obtain ⟨content, eq⟩ := isFileAt_iff.mp h
  simp [isDirAt, eq]

theorem existsAt_of_isDirAt (h : fs.isDirAt p = true) : fs.existsAt p = true := by
  simp [existsAt, isDirAt_iff.mp h]

theorem existsAt_of_isFileAt (h : fs.isFileAt p = true) : fs.existsAt p = true := by
  obtain ⟨content, eq⟩ := isFileAt_iff.mp h
  simp [existsAt, eq]

theorem existsAt_eq (fs : FileSystem) (p : Path) :
    fs.existsAt p = (fs.isFileAt p || fs.isDirAt p) := by
  unfold existsAt isFileAt isDirAt fileAt
  cases fs.nodeAt p with
  | none => simp
  | some node => cases node <;> simp

theorem fileAt_set (fs : FileSystem) (p q : Path) (node : Node) : fileAt (Assoc.set p node fs) q =
      if q = p then (match node with | .file content => some content | .dir => none)
      else fs.fileAt q := by
  unfold fileAt nodeAt
  rw [Assoc.get_set]
  by_cases same : q = p
  · rw [if_pos same, if_pos same]
    cases node <;> rfl
  · rw [if_neg same, if_neg same]

theorem isDirAt_set (fs : FileSystem) (p q : Path) (node : Node) :
    isDirAt (Assoc.set p node fs) q = if q = p then decide (node = .dir) else fs.isDirAt q := by
  unfold isDirAt nodeAt
  rw [Assoc.get_set]
  by_cases same : q = p
  · rw [if_pos same, if_pos same]
    simp
  · rw [if_neg same, if_neg same]

end FileSystem

/-- Universal newlines: what text mode makes of the line endings. -/
def universalNewlines : List Char → List Char
  | [] => []
  | '\r' :: '\n' :: cs => '\n' :: universalNewlines cs
  | '\r' :: cs => '\n' :: universalNewlines cs
  | c :: cs => c :: universalNewlines cs

/-- `path.read_text(encoding="utf-8")`. -/
def readText (fs : FileSystem) (p : Path) : Option (List Char) :=
  (fs.fileAt p).bind fun content => (decode? content).map universalNewlines

/-- Make sure of one directory on the way to `target`. -/
def makeDir (target p : Path) : EStateM FsError FileSystem Unit := do
  match (← get).nodeAt p with
  | some .dir => pure ()
  | some (.file _) => throw (if p = target then .fileExists else .notADirectory)
  | none => modify (Assoc.set p .dir)

/-- `path.mkdir(parents=True, exist_ok=True)`: every directory down to `p`. -/
def makeDirs (p : Path) : EStateM FsError FileSystem Unit := each (makeDir p) p.inits

/-- `path.write_text(text, encoding="utf-8")`. -/
def writeText (p : Path) (text : List Char) : EStateM FsError FileSystem Unit := do
  let fs ← get
  match fs.nodeAt p.dropLast with
  | none => throw .fileNotFound
  | some (.file _) => throw .notADirectory
  | some .dir =>
    if fs.isDirAt p then throw .isADirectory
    else modify (Assoc.set p (.file (encode text)))

/-- `path.unlink()`. -/
def unlink (p : Path) : EStateM FsError FileSystem Unit := do
  match (← get).nodeAt p with
  | none => throw .fileNotFound
  | some .dir => throw .isADirectory
  | some (.file _) => modify (Assoc.erase p)

/-! ### What the operations leave -/

open FileSystem

variable {fs : FileSystem}

theorem each_makeDir (target : Path) (ps : List Path) (free : ∀ q ∈ ps, fs.isFileAt q = false) :
    ∃ fs', each (makeDir target) ps fs = .ok () fs' ∧ (∀ q, fs'.fileAt q = fs.fileAt q) ∧
      (∀ q ∈ ps, fs'.isDirAt q = true) ∧ (∀ q, fs.isDirAt q = true → fs'.isDirAt q = true) ∧
      ∀ q, fs'.isDirAt q = true → fs.isDirAt q = true ∨ q ∈ ps := by
  induction ps generalizing fs with
  | nil => exact ⟨fs, rfl, by simp, by simp, by simp, by simp⟩
  | cons p ps ih =>
    have here := free p List.mem_cons_self
    have rest : ∀ q ∈ ps, fs.isFileAt q = false := fun q mem => free q (List.mem_cons_of_mem p mem)
    cases node : fs.nodeAt p with
    | some node' =>
      cases node' with
      | file content =>
        rw [isFileAt_iff.mpr ⟨content, node⟩] at here
        cases here
      | dir =>
        have step : makeDir target p fs = .ok () fs := by
          simp [makeDir, bind_run, node]
        obtain ⟨fs', done, files, dirs, keeps, only⟩ := ih rest
        refine ⟨fs', by rw [each, bind_of_ok step]; exact done, files, ?_, keeps, ?_⟩
        · intro q mem
          rcases List.mem_cons.mp mem with rfl | mem
          · exact keeps q (isDirAt_iff.mpr node)
          · exact dirs q mem
        · intro q dir
          exact (only q dir).imp id (List.mem_cons_of_mem p)
    | none =>
      have step : makeDir target p fs = .ok () (Assoc.set p .dir fs) := by
        simp [makeDir, bind_run, node]
      have same : ∀ q, fileAt (Assoc.set p .dir fs) q = fs.fileAt q := by
        intro q
        rw [fileAt_set]
        by_cases eq : q = p
        · simp [eq, fileAt, node]
        · simp [eq]
      obtain ⟨fs', done, files, dirs, keeps, only⟩ :=
        @ih (Assoc.set p .dir fs) (by
          intro q mem
          rw [isFileAt, same]
          exact rest q mem)
      refine ⟨fs', by rw [each, bind_of_ok step]; exact done, ?_, ?_, ?_, ?_⟩
      · intro q
        rw [files, same]
      · intro q mem
        rcases List.mem_cons.mp mem with rfl | mem
        · exact keeps q (by simp [isDirAt_set])
        · exact dirs q mem
      · intro q dir
        apply keeps
        rw [isDirAt_set]
        by_cases eq : q = p <;> simp [eq, dir]
      · intro q dir
        rcases only q dir with made | mem
        · rw [isDirAt_set] at made
          by_cases eq : q = p
          · exact Or.inr (by simp [eq])
          · rw [if_neg eq] at made
            exact Or.inl made
        · exact Or.inr (List.mem_cons_of_mem p mem)

variable {p : Path}

theorem writeText_ok {text : List Char} (parent : fs.isDirAt p.dropLast = true)
    (free : fs.isDirAt p = false) :
    writeText p text fs = .ok () (Assoc.set p (.file (encode text)) fs) := by
  simp [writeText, bind_run, isDirAt_iff.mp parent, free]

theorem unlink_ok (file : fs.isFileAt p = true) : unlink p fs = .ok () (Assoc.erase p fs) := by
  obtain ⟨content, eq⟩ := isFileAt_iff.mp file
  simp [unlink, bind_run, eq]

/-! ### Line endings -/

variable {cs : List Char}

theorem universalNewlines_eq_self (h : '\r' ∉ cs) : universalNewlines cs = cs := by
  fun_induction universalNewlines cs with
  | case1 => rfl
  | case2 cs ih => simp at h
  | case3 cs _ ih => simp at h
  | case4 c cs _ _ ih =>
    rw [ih]
    intro mem
    exact h (List.mem_cons_of_mem c mem)

/-- Text mode leaves no carriage return. -/
theorem not_mem_universalNewlines (cs : List Char) : '\r' ∉ universalNewlines cs := by
  fun_induction universalNewlines cs with
  | case1 => simp
  | case2 cs ih => simpa using ih
  | case3 cs _ ih => simpa using ih
  | case4 c cs _ notCr ih =>
    intro mem
    rcases List.mem_cons.mp mem with head | tail
    · exact notCr head.symm
    · exact ih tail

theorem universalNewlines_eq_self_iff : universalNewlines cs = cs ↔ '\r' ∉ cs := by
  constructor
  · intro same
    rw [← same]
    exact not_mem_universalNewlines cs
  · exact universalNewlines_eq_self

example : universalNewlines "a\r\nb\rc\n".toList = "a\nb\nc\n".toList := by decide

end Unchain.Workspace
