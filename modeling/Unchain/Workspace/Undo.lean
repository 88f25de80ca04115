import Unchain.Workspace.Changes

/-!
What a workspace undo restores.

A run mixes arbitrary edits of the files, snapshots of the workspace, recordings
against an earlier snapshot and changes reported directly. `history` remembers, with
their bytes, the changes that were recorded. For each file the tracker then holds the
text before the first of them and the text after the last (`tracked_of_run`), whichever
way they were recorded.

The undo compares a file with what was recorded in text mode, where carriage returns
are lost, but recorded it from its bytes. So it takes a change set back exactly when no
file it has to compare holds a carriage return (`restored_iff_no_carriage_return`).
-/

namespace Unchain.Workspace

open Lib Lib.Utf8 Lib.Effect FileSystem

section Capture

variable {h : Hasher} {settings : Settings} {fs : FileSystem}

/-! ### What a workspace snapshot says about the files -/

variable {e : SnapshotEntry} {p : Path}

theorem path_of_entryFor (eq : entryFor h settings fs p = some e) : e.path = p := by
  unfold entryFor at eq
  split at eq
  · cases eq
  split at eq
  · cases eq
  split at eq
  · cases eq; rfl
  split at eq
  · cases eq; rfl
  split at eq
  · cases eq; rfl
  · cases eq; rfl

theorem text_of_entryFor (eq : entryFor h settings fs p = some e) (trackable : e.trackable = true) :
    ∃ text, e.text = some text ∧ fs.fileAt p = some (encode text) ∧ e.sha256 = h.sha256 text := by
  unfold entryFor at eq
  split at eq
  · cases eq
  rename_i raw file
  split at eq
  · cases eq
  split at eq
  · cases eq; cases trackable
  split at eq
  · cases eq; cases trackable
  split at eq
  · cases eq; cases trackable
  · rename_i text decoded
    cases eq
    exact ⟨text, rfl, by rw [file, eq_of_decode? decoded], rfl⟩

theorem entryFor_isSome (file : fs.isFileAt p = true) (inside : isWorkspacePath settings p = true) :
    (entryFor h settings fs p).isSome = true := by
  obtain ⟨raw, eq⟩ := Option.isSome_iff_exists.mp file
  unfold entryFor
  rw [eq]
  simp only [inside]
  split
  · simp_all
  split
  · rfl
  split
  · rfl
  split <;> rfl

variable (h settings fs) in
def Faithful (snap : TextSnapshot) : Prop :=
  ∀ p e, Assoc.get p snap.entries = some e → entryFor h settings fs p = some e

variable {snap : TextSnapshot}

theorem Faithful.set (faithful : Faithful h settings fs snap)
    (eq : entryFor h settings fs p = some e) :
    Faithful h settings fs { snap with entries := Assoc.set e.path e snap.entries } := by
  intro q f stored
  rw [path_of_entryFor eq] at stored
  rw [Assoc.get_set] at stored
  split at stored
  · rename_i same
    cases stored
    rw [same, eq]
  · exact faithful q f stored

/-- One root's files: what the snapshot holds stays, what is added is a file of the
list, and a snapshot that stays complete has every file of the list. -/
theorem captureFiles_spec (ps : List Path) (faithful : Faithful h settings fs snap) :
    let result := captureFiles h settings fs ps snap
    Faithful h settings fs result ∧
      (∀ p e, Assoc.get p snap.entries = some e → Assoc.get p result.entries = some e) ∧
      (∀ p, (Assoc.get p result.entries).isSome → (Assoc.get p snap.entries).isSome ∨ p ∈ ps) ∧
      (result.complete = true → snap.complete = true ∧
        ∀ p ∈ ps, ∀ e, entryFor h settings fs p = some e → Assoc.get p result.entries = some e) := by
  induction ps generalizing snap with
  | nil => exact ⟨faithful, by simp [captureFiles], by simp [captureFiles], by simp [captureFiles]⟩
  | cons p ps ih =>
    simp only [captureFiles]
    split
    · exact ⟨faithful, by simp, fun q found => Or.inl found, by simp⟩
    split
    · rename_i absent
      obtain ⟨ih1, ih2, ih3, ih4⟩ := ih faithful
      refine ⟨ih1, ih2, fun q found => (ih3 q found).imp id (List.mem_cons_of_mem p), ?_⟩
      intro complete
      refine ⟨(ih4 complete).1, ?_⟩
      intro q mem e eq
      rcases List.mem_cons.mp mem with rfl | mem
      · rw [absent] at eq
        cases eq
      · exact (ih4 complete).2 q mem e eq
    · rename_i entry eq
      have path := path_of_entryFor eq
      obtain ⟨ih1, ih2, ih3, ih4⟩ := ih (faithful.set eq)
      refine ⟨ih1, ?_, ?_, ?_⟩
      · intro q f stored
        apply ih2
        rw [path, Assoc.get_set]
        split
        · rename_i same
          have known := faithful q f stored
          rw [same, eq] at known
          exact known
        · exact stored
      · intro q found
        rcases ih3 q found with earlier | later
        · rw [path, Assoc.get_set] at earlier
          split at earlier
          · rename_i same
            exact Or.inr (by simp [same])
          · exact Or.inl earlier
        · exact Or.inr (List.mem_cons_of_mem p later)
      · intro complete
        refine ⟨(ih4 complete).1, ?_⟩
        intro q mem f eq'
        rcases List.mem_cons.mp mem with rfl | mem
        · rw [eq] at eq'
          cases eq'
          apply ih2
          rw [path, Assoc.get_set_self]
        · exact (ih4 complete).2 q mem f eq'

def rootFiles (fs : FileSystem) (root : Path) : List Path :=
  if !fs.existsAt root then [] else if fs.isFileAt root then [root] else iterFiles fs root

variable {root : Path}

theorem mem_iterFiles :
    p ∈ iterFiles fs root ↔ fs.isFileAt p = true ∧ walked root p = true := by
  simp only [iterFiles, List.mem_insertionSort, List.mem_filter, Bool.and_eq_true]
  constructor
  · intro mem
    exact mem.2
  · intro found
    obtain ⟨content, node⟩ := isFileAt_iff.mp found.1
    exact ⟨Assoc.mem_keys_of_get node, found⟩

theorem isPrefixOf_of_walked (h : walked root p = true) : root.isPrefixOf p = true ∧ root ≠ p := by
  simp only [walked, Bool.and_eq_true, bne_iff_ne, ne_eq] at h
  exact h.1

theorem captureFiles_roots (roots : List Path) (faithful : Faithful h settings fs snap) :
    let result := roots.foldl
      (fun snap root => captureFiles h settings fs (rootFiles fs root) snap) snap
    Faithful h settings fs result ∧
      (∀ p e, Assoc.get p snap.entries = some e → Assoc.get p result.entries = some e) ∧
      (∀ p, (Assoc.get p result.entries).isSome →
        (Assoc.get p snap.entries).isSome ∨ ∃ root ∈ roots, p ∈ rootFiles fs root) ∧
      (result.complete = true → snap.complete = true ∧ ∀ root ∈ roots, ∀ p ∈ rootFiles fs root,
        ∀ e, entryFor h settings fs p = some e → Assoc.get p result.entries = some e) := by
  induction roots generalizing snap with
  | nil => exact ⟨faithful, by simp, by simp, by simp⟩
  | cons root roots ih =>
    obtain ⟨one1, one2, one3, one4⟩ := captureFiles_spec (rootFiles fs root) faithful
    obtain ⟨ih1, ih2, ih3, ih4⟩ := ih one1
    refine ⟨ih1, fun p e stored => ih2 p e (one2 p e stored), ?_, ?_⟩
    · intro p found
      rcases ih3 p found with earlier | ⟨other, mem, inside⟩
      · rcases one3 p earlier with before | inside
        · exact Or.inl before
        · exact Or.inr ⟨root, List.mem_cons_self, inside⟩
      · exact Or.inr ⟨other, List.mem_cons_of_mem root mem, inside⟩
    · intro complete
      obtain ⟨mid, rest⟩ := ih4 complete
      refine ⟨(one4 mid).1, ?_⟩
      intro other mem p inside e eq
      rcases List.mem_cons.mp mem with rfl | mem
      · exact ih2 p e ((one4 mid).2 p inside e eq)
      · exact rest other mem p inside e eq

theorem capture_eq (h : Hasher) (fs : FileSystem) :
    capture h settings fs = settings.workspaceRoots.foldl
      (fun snap root => captureFiles h settings fs (rootFiles fs root) snap) ⟨[], true⟩ := by
  unfold capture
  congr 1
  funext snap root
  unfold rootFiles
  split
  · rfl
  · rfl

theorem faithful_capture (h : Hasher) (fs : FileSystem) :
    Faithful h settings fs (capture h settings fs) := by
  rw [capture_eq]
  exact (captureFiles_roots settings.workspaceRoots (by intro p e stored; cases stored)).1

variable {other : FileSystem}

theorem fileAt_of_missing (wf : fs.WellFormed) (complete : (capture h settings fs).complete = true)
    (missing : Assoc.get p (capture h settings fs).entries = none)
    (reached : (Assoc.get p (capture h settings other).entries).isSome = true) :
    fs.fileAt p = none := by
  rw [capture_eq] at complete missing reached
  have start : ∀ fs, Faithful h settings fs ⟨[], true⟩ := by
    intro fs p e stored
    cases stored
  obtain ⟨-, -, found, -⟩ := captureFiles_roots settings.workspaceRoots (start other)
  obtain ⟨-, -, -, all⟩ := captureFiles_roots settings.workspaceRoots (start fs)
  by_contra present
  have file : fs.isFileAt p = true := by
    rw [isFileAt, Option.isSome_iff_ne_none]
    exact present
  rcases found p reached with none | ⟨root, mem, inside⟩
  · cases none
  have below : root.isPrefixOf p = true ∧ p ∈ rootFiles fs root := by
    unfold rootFiles at inside
    split at inside
    · cases inside
    split at inside
    · simp only [List.mem_singleton] at inside
      subst inside
      refine ⟨by simp, ?_⟩
      simp [rootFiles, existsAt_of_isFileAt file, file]
    · obtain ⟨-, reach⟩ := mem_iterFiles.mp inside
      obtain ⟨pre, ne⟩ := isPrefixOf_of_walked reach
      have dir : fs.isDirAt root = true :=
        wf.above p file root ⟨List.isPrefixOf_iff_prefix.mp pre, ne⟩
      have notFile : fs.isFileAt root = false := by
        by_contra isFile
        rw [not_isDirAt_of_isFileAt (by simpa using isFile)] at dir
        cases dir
      refine ⟨pre, ?_⟩
      simp only [rootFiles, existsAt_of_isDirAt dir, notFile]
      exact mem_iterFiles.mpr ⟨file, reach⟩
  have workspace : isWorkspacePath settings p = true := List.any_eq_true.mpr ⟨root, mem, below.1⟩
  obtain ⟨e, eq⟩ := Option.isSome_iff_exists.mp (entryFor_isSome (h := h) file workspace)
  rw [(all complete).2 root mem p below.2 e eq] at missing
  cases missing

theorem text_of_capture (wf : fs.WellFormed)
    (reached : (Assoc.get p (capture h settings fs).entries).isSome = true ∨
      (Assoc.get p (capture h settings other).entries).isSome = true)
    (complete : ¬ ((Assoc.get p (capture h settings fs).entries).isNone
      && !(capture h settings fs).complete) = true)
    (trackable : ¬ ((Assoc.get p (capture h settings fs).entries).any fun e => !e.trackable) = true)
    :
    fs.fileAt p =
      ((Assoc.get p (capture h settings fs).entries).bind SnapshotEntry.text).map encode ∧
    ((Assoc.get p (capture h settings fs).entries).map SnapshotEntry.sha256).getD "" =
      (snapshot h ((Assoc.get p (capture h settings fs).entries).bind SnapshotEntry.text)).sha256 := by
  cases entry : Assoc.get p (capture h settings fs).entries with
  | none =>
    rw [entry] at reached complete
    have full : (capture h settings fs).complete = true := by simpa using complete
    have there : (Assoc.get p (capture h settings other).entries).isSome = true := by
      rcases reached with none | there
      · cases none
      · exact there
    exact ⟨fileAt_of_missing wf full entry there, rfl⟩
  | some e =>
    rw [entry] at trackable
    obtain ⟨text, eq, file, sha⟩ :=
      text_of_entryFor (faithful_capture h fs p e entry) (by simpa using trackable)
    simp [eq, file, sha, snapshot]

theorem snapshotChange_spec {fs₀ : FileSystem} {t : Tracker} {c : Change} (wf₀ : fs₀.WellFormed)
    (wf : fs.WellFormed) (mem : p ∈ snapshotKeys (capture h settings fs₀) (capture h settings fs))
    (found : snapshotChange? t (capture h settings fs₀) (capture h settings fs) p = some c) :
    c.path = p ∧ fs₀.fileAt p = c.before.map encode ∧ fs.fileAt p = c.after.map encode ∧
      latestAfterSha256 t p ≠ some (snapshot h c.after).sha256 := by
  have reached : (Assoc.get p (capture h settings fs₀).entries).isSome = true ∨
      (Assoc.get p (capture h settings fs).entries).isSome = true := by
    rw [Assoc.get_isSome_iff, Assoc.get_isSome_iff, ← List.mem_append]
    exact List.mem_dedup.mp ((List.mem_insertionSort _).mp mem)
  simp only [snapshotChange?] at found
  split at found
  · cases found
  rename_i full₀
  split at found
  · cases found
  rename_i full
  split at found
  · cases found
  rename_i trackable₀
  split at found
  · cases found
  rename_i trackable
  split at found
  · cases found
  split at found
  · cases found
  rename_i fresh
  cases found
  obtain ⟨before, -⟩ := text_of_capture wf₀ reached full₀ trackable₀
  obtain ⟨after, sha⟩ := text_of_capture wf reached.symm full trackable
  refine ⟨rfl, before, after, ?_⟩
  rw [← sha]
  exact fresh

end Capture

/-! ### What the table remembers -/

section Table

variable {h : Hasher} {settings : Settings} {files : List (Path × Entry)}

theorem refreshUndoSupport_eq (settings : Settings) : ∃ f : Entry → Entry,
      (∀ e, (f e).path = e.path ∧ (f e).firstBefore = e.firstBefore ∧
        (f e).latestAfter = e.latestAfter) ∧
      refreshUndoSupport settings files = files.map fun x => (x.1, f x.2) := by
  have one : ∀ e, (refreshEntry settings e).path = e.path ∧
      (refreshEntry settings e).firstBefore = e.firstBefore ∧
      (refreshEntry settings e).latestAfter = e.latestAfter := by
    intro e
    unfold refreshEntry
    split <;> exact ⟨rfl, rfl, rfl⟩
  simp only [refreshUndoSupport]
  split
  · refine ⟨fun e => { refreshEntry settings e with
      undoSupported := false
      undoUnavailableReason := "change set exceeds undo snapshot size limit" }, one, ?_⟩
    rw [List.map_map]
    rfl
  · exact ⟨refreshEntry settings, one, rfl⟩

variable (settings) in
/-- The path may be tracked. -/
def Inside (p : Path) : Prop := settings.workspaceRoots = [] ∨ isWorkspacePath settings p = true

def firstChange (p : Path) (cs : List Change) : Option Change := cs.find? (·.path = p)

def lastChange (p : Path) (cs : List Change) : Option Change := cs.reverse.find? (·.path = p)

theorem firstChange_append (p : Path) (cs : List Change) (c : Change) :
    firstChange p (cs ++ [c]) = (firstChange p cs).or (if c.path = p then some c else none) := by
  unfold firstChange
  by_cases same : c.path = p <;> simp [same]

theorem lastChange_append (p : Path) (cs : List Change) (c : Change) :
    lastChange p (cs ++ [c]) = if c.path = p then some c else lastChange p cs := by
  unfold lastChange
  by_cases same : c.path = p <;> simp [same]

/-- The table holds, for each file with a recorded change, the text before the first one
and the text after the last. -/
structure Tracked (h : Hasher) (settings : Settings) (t : Tracker) : Prop where
  nodup : (Assoc.keys t.files).Nodup
  missing : ∀ p, Assoc.get p t.files = none → firstChange p t.changes = none
  entry : ∀ p e, Assoc.get p t.files = some e → e.path = p ∧ Inside settings p ∧
    (∃ c, firstChange p t.changes = some c ∧ e.firstBefore = snapshot h c.before) ∧
    ∃ c, lastChange p t.changes = some c ∧ e.latestAfter = snapshot h c.after

theorem tracked_empty (h : Hasher) (settings : Settings) : Tracked h settings .empty where
  nodup := List.nodup_nil
  missing := by intro p _; rfl
  entry := by intro p e stored; cases stored

theorem get_map_entries (p : Path) (f : Entry → Entry) :
    Assoc.get p (files.map fun x => (x.1, f x.2)) = (Assoc.get p files).map f :=
  Assoc.get_map_value p (fun _ => f) files

variable (h settings) in
theorem recordTextFileChange_cases (t : Tracker) (c : Change) (op : Operation) :
    recordTextFileChange h settings t c op = t ∨
    (Inside settings c.path ∧
      (recordTextFileChange h settings t c op).changes = t.changes ++ [c] ∧
      ∃ (f : Entry → Entry) (entry : Entry),
        (∀ e, (f e).path = e.path ∧ (f e).firstBefore = e.firstBefore ∧
          (f e).latestAfter = e.latestAfter) ∧
        (recordTextFileChange h settings t c op).files =
          (Assoc.set c.path entry t.files).map (fun x => (x.1, f x.2)) ∧
        entry.latestAfter = snapshot h c.after ∧
        match Assoc.get c.path t.files with
        | none => entry.path = c.path ∧ entry.firstBefore = snapshot h c.before
        | some old => entry.path = old.path ∧ entry.firstBefore = old.firstBefore) := by
  simp only [recordTextFileChange]
  split
  · exact Or.inl rfl
  rename_i inside
  split
  · exact Or.inl rfl
  right
  refine ⟨?_, rfl, ?_⟩
  · simp only [Bool.and_eq_true, Bool.not_eq_true', not_and, Bool.not_eq_false] at inside
    by_cases none : settings.workspaceRoots = []
    · exact Or.inl none
    · exact Or.inr (inside (by simpa [List.isEmpty_iff] using none))
  · obtain ⟨f, keeps, eq⟩ := refreshUndoSupport_eq settings
    refine ⟨f, _, keeps, eq, ?_, ?_⟩
    · cases Assoc.get c.path t.files <;> rfl
    · cases Assoc.get c.path t.files <;> exact ⟨rfl, rfl⟩

theorem keys_map_entries (f : Entry → Entry) :
    Assoc.keys (files.map fun x => (x.1, f x.2)) = Assoc.keys files := by
  simp [Assoc.keys, Function.comp_def]

theorem Tracked.record {t : Tracker} (tracked : Tracked h settings t) (c : Change)
    (op : Operation) : Tracked h settings (recordTextFileChange h settings t c op) := by
  obtain same | ⟨inside, changes, f, entry, keeps, files, after, before⟩ :=
    recordTextFileChange_cases h settings t c op
  · rw [same]
    exact tracked
  have stored : ∀ p, Assoc.get p (recordTextFileChange h settings t c op).files =
      if p = c.path then some (f entry) else (Assoc.get p t.files).map f := by
    intro p
    rw [files, get_map_entries, Assoc.get_set]
    split <;> rfl
  constructor
  · rw [files, keys_map_entries]
    exact Assoc.nodup_keys_set _ _ tracked.nodup
  · intro p none
    rw [stored] at none
    split at none
    · cases none
    rename_i ne
    rw [changes, firstChange_append, if_neg (Ne.symm ne), tracked.missing p (by simpa using none)]
    rfl
  · intro p e found
    rw [stored] at found
    rw [changes, firstChange_append, lastChange_append]
    split at found
    · rename_i same
      cases found
      subst same
      obtain ⟨path, first, latest⟩ := keeps entry
      rw [path, first, latest, if_pos rfl, if_pos rfl, after]
      cases old : Assoc.get c.path t.files with
      | none =>
        rw [old] at before
        rw [tracked.missing _ old]
        exact ⟨before.1, inside, ⟨c, rfl, before.2⟩, c, rfl, rfl⟩
      | some prior =>
        rw [old] at before
        obtain ⟨priorPath, -, ⟨d, firstEq, firstBefore⟩, -⟩ := tracked.entry _ prior old
        rw [before.1, before.2, firstEq, priorPath]
        exact ⟨rfl, inside, ⟨d, rfl, firstBefore⟩, c, rfl, rfl⟩
    · rename_i ne
      obtain ⟨prior, old, rfl⟩ := Option.map_eq_some_iff.mp found
      obtain ⟨path, first, latest⟩ := keeps prior
      obtain ⟨priorPath, priorInside, ⟨d, firstEq, firstBefore⟩, ⟨d', lastEq, latestAfter⟩⟩ :=
        tracked.entry p prior old
      rw [path, first, latest, if_neg (Ne.symm ne), if_neg (Ne.symm ne), firstEq, lastEq]
      exact ⟨priorPath, priorInside, ⟨d, rfl, firstBefore⟩, d', rfl, latestAfter⟩

end Table

/-! ### Runs -/

/-- A recorded change with the bytes the file had before and after it. -/
structure FileChange where
  path : Path
  was : Option Bytes
  now : Option Bytes

/-- The files, the tracker, the file systems of which a snapshot was taken, and the
changes recorded so far. -/
structure World where
  fs : FileSystem
  tracker : Tracker
  captured : List FileSystem
  history : List FileChange

/-- The changes a recording appended, with the bytes of the files they are about. -/
def witnessed (old new : Tracker) (fs₀ fs : FileSystem) : List FileChange :=
  (new.changes.drop old.changes.length).map fun c =>
    ⟨c.path, fs₀.fileAt c.path, fs.fileAt c.path⟩

/-- Record what changed since the files were `fs₀`. -/
def World.recordSnapshot (h : Hasher) (settings : Settings) (w : World) (fs₀ : FileSystem)
    (op : Operation) : World :=
  let tracker :=
    recordTextSnapshotChanges h settings w.tracker (capture h settings fs₀) w.fs op
  { w with tracker := tracker, history := w.history ++ witnessed w.tracker tracker fs₀ w.fs }

/-- A tool changes the file at `c.path` and reports the change. -/
def World.recordChange (h : Hasher) (settings : Settings) (w : World) (fs : FileSystem)
    (c : Change) (op : Operation) : World :=
  let tracker := recordTextFileChange h settings w.tracker c op
  { w with
    fs := fs
    tracker := tracker
    history := w.history ++ witnessed w.tracker tracker w.fs fs }

inductive Run (h : Hasher) (settings : Settings) : World → Prop where
  | start {fs : FileSystem} : fs.WellFormed → Run h settings ⟨fs, .empty, [], []⟩
  | edit {w : World} {fs : FileSystem} :
      Run h settings w → fs.WellFormed → Run h settings { w with fs := fs }
  | capture {w : World} :
      Run h settings w → Run h settings { w with captured := w.fs :: w.captured }
  | recordSnapshot {w : World} {fs₀ : FileSystem} (op : Operation) :
      Run h settings w → fs₀ ∈ w.captured → Run h settings (w.recordSnapshot h settings fs₀ op)
  | recordChange {w : World} {fs : FileSystem} {c : Change} (op : Operation) :
      Run h settings w → fs.WellFormed → w.fs.fileAt c.path = c.before.map encode →
      fs.fileAt c.path = c.after.map encode → Run h settings (w.recordChange h settings fs c op)

def Change.bytes (c : Change) : FileChange := ⟨c.path, c.before.map encode, c.after.map encode⟩

section Runs

variable {h : Hasher} {settings : Settings} {fs fs₀ : FileSystem} {t : Tracker}

theorem witnessed_append {t' : Tracker} {cs : List Change} (changes : t'.changes = t.changes ++ cs)
    (real : ∀ c ∈ cs, fs₀.fileAt c.path = c.before.map encode ∧
      fs.fileAt c.path = c.after.map encode) : witnessed t t' fs₀ fs = cs.map Change.bytes := by
  unfold witnessed
  rw [changes, List.drop_left]
  apply List.map_congr_left
  intro c mem
  rw [(real c mem).1, (real c mem).2]
  rfl

variable (h settings) in
theorem changes_record (t : Tracker) (c : Change) (op : Operation) :
    ∃ cs, (recordTextFileChange h settings t c op).changes = t.changes ++ cs ∧ ∀ d ∈ cs, d = c := by
  obtain same | ⟨-, changes, -⟩ := recordTextFileChange_cases h settings t c op
  · exact ⟨[], by simp [same], by simp⟩
  · exact ⟨[c], changes, by simp⟩

theorem recordSnapshotChanges_spec (wf₀ : fs₀.WellFormed) (wf : fs.WellFormed) (op : Operation)
    (ps : List Path)
    (sub : ∀ p ∈ ps, p ∈ snapshotKeys (capture h settings fs₀) (capture h settings fs))
    (tracked : Tracked h settings t) :
    let t' := ps.foldl (recordSnapshotChange h settings (capture h settings fs₀)
      (capture h settings fs) op) t
    Tracked h settings t' ∧ ∃ cs, t'.changes = t.changes ++ cs ∧
      ∀ c ∈ cs, fs₀.fileAt c.path = c.before.map encode ∧
        fs.fileAt c.path = c.after.map encode := by
  induction ps generalizing t with
  | nil => exact ⟨tracked, [], by simp, by simp⟩
  | cons p ps ih =>
    have rest : ∀ q ∈ ps, q ∈ snapshotKeys (capture h settings fs₀) (capture h settings fs) :=
      fun q mem => sub q (List.mem_cons_of_mem p mem)
    simp only [List.foldl_cons]
    cases found : snapshotChange? t (capture h settings fs₀) (capture h settings fs) p with
    | none =>
      have step : recordSnapshotChange h settings (capture h settings fs₀)
          (capture h settings fs) op t p = t := by
        simp [recordSnapshotChange, found]
      rw [step]
      exact ih rest tracked
    | some c =>
      obtain ⟨rfl, before, after, -⟩ := snapshotChange_spec wf₀ wf (sub p List.mem_cons_self) found
      have step : ∃ op', recordSnapshotChange h settings (capture h settings fs₀)
          (capture h settings fs) op t c.path = recordTextFileChange h settings t c op' := by
        simp only [recordSnapshotChange, found]
        exact ⟨_, rfl⟩
      obtain ⟨op', step⟩ := step
      rw [step]
      obtain ⟨tracked', cs, changes, real⟩ := ih rest (tracked.record c op')
      obtain ⟨one, oneChanges, only⟩ := changes_record h settings t c op'
      refine ⟨tracked', one ++ cs, ?_, ?_⟩
      · rw [changes, oneChanges, List.append_assoc]
      · intro d mem
        rcases List.mem_append.mp mem with mem | mem
        · rw [only d mem]
          exact ⟨before, after⟩
        · exact real d mem

/-- What holds in every reachable world. -/
structure Sound (h : Hasher) (settings : Settings) (w : World) : Prop where
  wellFormed : w.fs.WellFormed
  captured : ∀ fs ∈ w.captured, fs.WellFormed
  tracked : Tracked h settings w.tracker
  history : w.history = w.tracker.changes.map Change.bytes

theorem sound_of_run {w : World} (run : Run h settings w) : Sound h settings w := by
  induction run with
  | start wf => exact ⟨wf, by simp, tracked_empty h settings, rfl⟩
  | edit _ wf ih => exact ⟨wf, ih.captured, ih.tracked, ih.history⟩
  | capture _ ih =>
    refine ⟨ih.wellFormed, ?_, ih.tracked, ih.history⟩
    intro fs mem
    rcases List.mem_cons.mp mem with rfl | mem
    · exact ih.wellFormed
    · exact ih.captured fs mem
  | recordSnapshot op _ mem ih =>
    obtain ⟨tracked, cs, changes, real⟩ :=
      recordSnapshotChanges_spec (ih.captured _ mem) ih.wellFormed op _ (fun _ mem => mem)
        ih.tracked
    refine ⟨ih.wellFormed, ih.captured, tracked, ?_⟩
    simp only [World.recordSnapshot, recordTextSnapshotChanges]
    rw [witnessed_append changes real, changes, ih.history, List.map_append]
  | @recordChange w fs c op _ wf was now ih =>
    obtain ⟨cs, changes, only⟩ := changes_record h settings w.tracker c op
    refine ⟨wf, ih.captured, ih.tracked.record c op, ?_⟩
    simp only [World.recordChange]
    rw [witnessed_append changes, changes, ih.history, List.map_append]
    intro d mem
    rw [only d mem]
    exact ⟨was, now⟩

end Runs

/-! ### Writing the files back -/

section Restore

variable {h : Hasher} {settings : Settings}

theorem isAbove_of_mem_inits {p a : Path} (ne : p ≠ []) (mem : a ∈ p.dropLast.inits) :
    IsAbove a p := by
  have pre := (List.mem_inits a p.dropLast).mp mem
  refine ⟨pre.trans (List.dropLast_prefix p), ?_⟩
  rintro rfl
  have short := pre.length_le
  have pos := List.length_pos_iff.mpr ne
  rw [List.length_dropLast] at short
  omega

/-- One file goes back to its first recorded text; other files stay, and new directories
appear only above it. -/
theorem restoreEntry_spec {e : Entry} {before : Option (List Char)} {fs : FileSystem}
    (first : e.firstBefore = snapshot h before) (ne : e.path ≠ [])
    (noDir : fs.isDirAt e.path = false)
    (clear : before ≠ none → ∀ a, IsAbove a e.path → fs.isFileAt a = false) :
    ∃ fs', restoreEntry e fs = .ok () fs' ∧ fs'.fileAt e.path = before.map encode ∧
      (∀ q, q ≠ e.path → fs'.fileAt q = fs.fileAt q) ∧
      ∀ q, fs'.isDirAt q = true → fs.isDirAt q = true ∨ IsAbove q e.path := by
  cases before with
  | none =>
    by_cases file : fs.isFileAt e.path = true
    · refine ⟨Assoc.erase e.path fs, ?_, ?_, ?_, ?_⟩
      · simp only [restoreEntry, first, snapshot, Option.isSome_none]
        simp [bind_run, existsAt_of_isFileAt file, unlink_ok file]
      · simp [fileAt, nodeAt]
      · intro q other
        simp [fileAt, nodeAt, other]
      · intro q dir
        left
        by_cases same : q = e.path
        · simp [same, isDirAt, nodeAt] at dir
        · rw [isDirAt_iff, nodeAt, Assoc.get_erase_of_ne same] at dir
          exact isDirAt_iff.mpr dir
    · have absent : fs.existsAt e.path = false := by
        rw [existsAt_eq, noDir]
        simpa using file
      refine ⟨fs, ?_, ?_, fun _ _ => rfl, fun _ dir => Or.inl dir⟩
      · simp only [restoreEntry, first, snapshot, Option.isSome_none]
        simp [bind_run, absent]
      · simpa [isFileAt] using file
  | some text =>
    obtain ⟨fs₁, made, files, dirs, -, only⟩ :=
      each_makeDir e.path.dropLast e.path.dropLast.inits (by
        intro a mem
        exact clear (by simp) a (isAbove_of_mem_inits ne mem))
    have parent : fs₁.isDirAt e.path.dropLast = true :=
      dirs _ ((List.mem_inits _ _).mpr List.prefix_rfl)
    have free : fs₁.isDirAt e.path = false := by
      by_contra dir
      rcases only e.path (by simpa using dir) with old | mem
      · rw [noDir] at old
        cases old
      · exact (isAbove_of_mem_inits ne mem).2 rfl
    refine ⟨Assoc.set e.path (.file (encode text)) fs₁, ?_, ?_, ?_, ?_⟩
    · have step : makeDirs e.path.dropLast fs = .ok () fs₁ := made
      simp only [restoreEntry, first, snapshot, Option.isSome_some, if_true, Option.getD_some]
      exact (bind_of_ok step _).trans (writeText_ok parent free)
    · simp [fileAt_set]
    · intro q other
      rw [fileAt_set, if_neg other, files]
    · intro q dir
      rw [isDirAt_set] at dir
      split at dir
      · simp at dir
      · exact (only q dir).imp id (isAbove_of_mem_inits ne)

variable (h) in
/-- All files go back, in whatever order the table lists them. -/
theorem each_restoreEntry (original : Path → Option (List Char)) (es : List Entry) (fs : FileSystem)
    (nodup : (es.map Entry.path).Nodup)
    (first : ∀ e ∈ es, e.firstBefore = snapshot h (original e.path)) (ne : ∀ e ∈ es, e.path ≠ [])
    (apart : ∀ e ∈ es, ∀ e' ∈ es, ¬ IsAbove e.path e'.path)
    (noDir : ∀ e ∈ es, fs.isDirAt e.path = false)
    (clear : ∀ e ∈ es, original e.path ≠ none → ∀ a, IsAbove a e.path → fs.isFileAt a = false) :
    ∃ fs', each restoreEntry es fs = .ok () fs' ∧
      (∀ e ∈ es, fs'.fileAt e.path = (original e.path).map encode) ∧
      ∀ q, (∀ e ∈ es, q ≠ e.path) → fs'.fileAt q = fs.fileAt q := by
  induction es generalizing fs with
  | nil => exact ⟨fs, rfl, by simp, by simp⟩
  | cons e es ih =>
    have here := List.mem_cons_self (a := e) (l := es)
    have later : ∀ {e'}, e' ∈ es → e' ∈ e :: es := fun mem => List.mem_cons_of_mem e mem
    rw [List.map_cons, List.nodup_cons] at nodup
    have other : ∀ e' ∈ es, e'.path ≠ e.path := by
      intro e' mem same
      exact nodup.1 (List.mem_map.mpr ⟨e', mem, same⟩)
    obtain ⟨fs₁, step, restored, files, dirs⟩ :=
      restoreEntry_spec (first e here) (ne e here) (noDir e here) (clear e here)
    obtain ⟨fs', rest, restRestored, restFiles⟩ := ih fs₁ nodup.2
      (fun e' mem => first e' (later mem)) (fun e' mem => ne e' (later mem))
      (fun e' mem e'' mem' => apart e' (later mem) e'' (later mem'))
      (by
        intro e' mem
        by_contra dir
        rcases dirs e'.path (by simpa using dir) with old | above
        · rw [noDir e' (later mem)] at old
          cases old
        · exact apart e' (later mem) e here above)
      (by
        intro e' mem existed a above
        have old := clear e' (later mem) existed a above
        have notHere : a ≠ e.path := by
          rintro rfl
          exact apart e here e' (later mem) above
        rw [isFileAt, files a notHere]
        exact old)
    refine ⟨fs', ?_, ?_, ?_⟩
    · rw [each, bind_of_ok step]
      exact rest
    · intro e' mem
      rcases List.mem_cons.mp mem with rfl | mem
      · rw [restFiles e'.path (fun e'' mem' => (other e'' mem').symm), restored]
      · exact restRestored e' mem
    · intro q notIn
      rw [restFiles q (fun e' mem => notIn e' (later mem)), files q (notIn e here)]

end Restore

/-! ### When an undo is faithful -/

def firstRecorded (p : Path) (history : List FileChange) : Option FileChange :=
  history.find? (·.path = p)

def lastRecorded (p : Path) (history : List FileChange) : Option FileChange :=
  history.reverse.find? (·.path = p)

def WithinLimits (settings : Settings) (t : Tracker) : Prop :=
  (∀ f ∈ t.files,
    f.2.firstBefore.sizeBytes + f.2.latestAfter.sizeBytes ≤ settings.maxRestoreBytesPerFile) ∧
  totalBytes t.files ≤ settings.maxRestoreTotalBytes

def Unchanged (w : World) : Prop :=
  ∀ p c, lastRecorded p w.history = some c → w.fs.fileAt p = c.now

/-- Every tracked path can still hold a file: no directory took its place, no tracked path
lies above another, and no file stands above a path whose file has to come back. -/
structure InPlace (w : World) : Prop where
  noDir : ∀ p c, firstRecorded p w.history = some c → w.fs.isDirAt p = false
  apart : ∀ p q c d, firstRecorded p w.history = some c → firstRecorded q w.history = some d →
    ¬ IsAbove p q
  clear : ∀ p c, firstRecorded p w.history = some c → c.was ≠ none →
    ∀ a, IsAbove a p → w.fs.isFileAt a = false

/-- The undo reports success, and every tracked file has the bytes it had before its first
recorded change. -/
def Undone (h : Hasher) (settings : Settings) (w : World) : Prop :=
  ∃ report fs', restore h settings w.tracker w.fs = .ok report fs' ∧ report.status = .restored ∧
    ∀ p c, firstRecorded p w.history = some c → fs'.fileAt p = c.was

section Undo

variable {h : Hasher} {settings : Settings} {w : World}

theorem firstRecorded_eq (sound : Sound h settings w) (p : Path) :
    firstRecorded p w.history = (firstChange p w.tracker.changes).map Change.bytes := by
  rw [firstRecorded, sound.history, List.find?_map]
  rfl

theorem lastRecorded_eq (sound : Sound h settings w) (p : Path) :
    lastRecorded p w.history = (lastChange p w.tracker.changes).map Change.bytes := by
  rw [lastRecorded, sound.history, ← List.map_reverse, List.find?_map]
  rfl

theorem entry_of_mem (sound : Sound h settings w) {f : Path × Entry} (mem : f ∈ w.tracker.files) :
    f.2.path = f.1 ∧ Inside settings f.1 ∧
    (∃ c, firstChange f.1 w.tracker.changes = some c ∧ f.2.firstBefore = snapshot h c.before) ∧
    ∃ c, lastChange f.1 w.tracker.changes = some c ∧ f.2.latestAfter = snapshot h c.after :=
  sound.tracked.entry f.1 f.2 (Assoc.get_of_mem sound.tracked.nodup mem)

theorem unsupportedFiles_eq_nil (sound : Sound h settings w)
    (within : WithinLimits settings w.tracker) :
    unsupportedFiles settings (refreshUndoSupport settings w.tracker.files) = [] := by
  have refreshed : refreshUndoSupport settings w.tracker.files =
      w.tracker.files.map fun f => (f.1, refreshEntry settings f.2) := by
    have total : totalBytes (w.tracker.files.map fun f => (f.1, refreshEntry settings f.2)) =
        totalBytes w.tracker.files := by
      unfold totalBytes
      rw [List.map_map]
      congr 1
      apply List.map_congr_left
      intro f _
      simp only [Function.comp_apply, refreshEntry]
      split <;> rfl
    simp only [refreshUndoSupport]
    rw [total, if_neg (by have := within.2; omega)]
  rw [refreshed]
  unfold unsupportedFiles
  rw [List.append_eq_nil_iff, List.map_eq_nil_iff, List.map_eq_nil_iff, List.filter_eq_nil_iff,
    List.filter_eq_nil_iff]
  constructor
  · intro f mem
    obtain ⟨g, inTable, rfl⟩ := List.mem_map.mp mem
    have small := within.1 g inTable
    simp only [refreshEntry]
    rw [if_neg (by omega)]
    simp
  · intro f mem
    obtain ⟨g, inTable, rfl⟩ := List.mem_map.mp mem
    obtain ⟨path, inside, -⟩ := entry_of_mem sound inTable
    have same : (refreshEntry settings g.2).path = g.1 := by
      rw [← path]
      unfold refreshEntry
      split <;> rfl
    simp only [same]
    rcases inside with none | inside
    · simp [none]
    · simp [inside]

/-- The comparison sees the text in text mode: it fails on a digest of other line endings. -/
theorem conflicting_iff {fs : FileSystem} {e : Entry} {after : Option (List Char)}
    (latest : e.latestAfter = snapshot h after) (now : fs.fileAt e.path = after.map encode)
    (noDir : fs.isDirAt e.path = false) : conflicting h fs e = false ↔
      ∀ text, after = some text → h.sha256 (universalNewlines text) = h.sha256 text := by
  cases after with
  | none =>
    have absent : fs.existsAt e.path = false := by
      rw [existsAt_eq, noDir, isFileAt, now]
      rfl
    simp [conflicting, readCurrentSnapshot, absent, latest]
  | some text =>
    have file : fs.isFileAt e.path = true := isFileAt_of_fileAt now
    have read : readText fs e.path = some (universalNewlines text) := by
      simp [readText, now]
    simp [conflicting, readCurrentSnapshot, existsAt_of_isFileAt file, read, latest, snapshot]

/-- The loop of `restore` brings every tracked file back. -/
theorem restore_files (sound : Sound h settings w) (place : InPlace w) {f : Entry → Entry}
    (keeps : ∀ e, (f e).path = e.path ∧ (f e).firstBefore = e.firstBefore ∧
      (f e).latestAfter = e.latestAfter) :
    ∃ fs', each restoreEntry ((w.tracker.files.map fun x => (x.1, f x.2)).map (·.2)) w.fs =
        .ok () fs' ∧
      ∀ p c, firstRecorded p w.history = some c → fs'.fileAt p = c.was := by
  have of_mem : ∀ e ∈ (w.tracker.files.map fun x => (x.1, f x.2)).map (·.2),
      ∃ c, firstChange e.path w.tracker.changes = some c ∧ e.firstBefore = snapshot h c.before ∧
        firstRecorded e.path w.history = some c.bytes := by
    intro e mem
    simp only [List.map_map, List.mem_map, Function.comp_apply] at mem
    obtain ⟨g, inTable, rfl⟩ := mem
    obtain ⟨path, -, ⟨c, first, before⟩, -⟩ := entry_of_mem sound inTable
    obtain ⟨samePath, sameBefore, -⟩ := keeps g.2
    rw [samePath, sameBefore, path]
    refine ⟨c, first, before, ?_⟩
    rw [firstRecorded_eq sound, first, Option.map_some]
  have paths : ((w.tracker.files.map fun x => (x.1, f x.2)).map (·.2)).map Entry.path =
      Assoc.keys w.tracker.files := by
    rw [List.map_map, List.map_map]
    apply List.map_congr_left
    intro g mem
    obtain ⟨path, -⟩ := entry_of_mem sound mem
    rw [Function.comp_apply, Function.comp_apply, (keeps g.2).1, path]
  obtain ⟨fs', done, restored, -⟩ := each_restoreEntry h
    (fun p => (firstChange p w.tracker.changes).bind Change.before)
    ((w.tracker.files.map fun x => (x.1, f x.2)).map (·.2)) w.fs
    (by rw [paths]; exact sound.tracked.nodup)
    (by
      intro e mem
      obtain ⟨c, first, before, -⟩ := of_mem e mem
      rw [first, Option.bind_some, before])
    (by
      intro e mem empty
      obtain ⟨c, -, -, recorded⟩ := of_mem e mem
      have noDir := place.noDir e.path _ recorded
      rw [empty, sound.wellFormed.root] at noDir
      cases noDir)
    (by
      intro e mem e' mem'
      obtain ⟨c, -, -, recorded⟩ := of_mem e mem
      obtain ⟨c', -, -, recorded'⟩ := of_mem e' mem'
      exact place.apart _ _ _ _ recorded recorded')
    (by
      intro e mem
      obtain ⟨c, -, -, recorded⟩ := of_mem e mem
      exact place.noDir e.path _ recorded)
    (by
      intro e mem existed a above
      obtain ⟨c, first, -, recorded⟩ := of_mem e mem
      apply place.clear e.path _ recorded _ a above
      rw [first, Option.bind_some] at existed
      simpa [Change.bytes] using existed)
  refine ⟨fs', done, ?_⟩
  intro p c recorded
  rw [firstRecorded_eq sound] at recorded
  obtain ⟨d, first, rfl⟩ := Option.map_eq_some_iff.mp recorded
  have known : (Assoc.get p w.tracker.files).isSome = true := by
    by_contra missing
    rw [sound.tracked.missing p (by simpa using missing)] at first
    cases first
  obtain ⟨e, stored⟩ := Option.isSome_iff_exists.mp known
  obtain ⟨path, -⟩ := sound.tracked.entry p e stored
  have back := restored (f e) (List.mem_map.mpr ⟨(p, f e),
    List.mem_map.mpr ⟨(p, e), Assoc.mem_of_get stored, rfl⟩, rfl⟩)
  rw [(keeps e).1, path, first] at back
  exact back

theorem restoreSupported_run (files : List (Path × Entry)) (fs : FileSystem) :
    restoreSupported h files fs =
      if (files.filter fun x => conflicting h fs x.2).isEmpty then restoreFiles files fs
      else .ok ⟨.conflict, [],
        (files.filter fun x => conflicting h fs x.2).map fun x => conflictReport h fs x.2, []⟩
        fs := by
  simp only [restoreSupported, bind_run, get_run]
  split <;> rfl

theorem restore_eq_supported {t : Tracker}
    (supported : unsupportedFiles settings (refreshUndoSupport settings t.files) = []) :
    restore h settings t = restoreSupported h (refreshUndoSupport settings t.files) := by
  simp [restore, supported]

theorem conflicts_eq_nil_iff (sound : Sound h settings w) (unchanged : Unchanged w)
    (place : InPlace w) {f : Entry → Entry}
    (keeps : ∀ e, (f e).path = e.path ∧ (f e).firstBefore = e.firstBefore ∧
      (f e).latestAfter = e.latestAfter) :
    ((w.tracker.files.map fun x => (x.1, f x.2)).filter fun x => conflicting h w.fs x.2) = [] ↔
      ∀ p c text, lastRecorded p w.history = some c → c.now = some (encode text) →
        h.sha256 (universalNewlines text) = h.sha256 text := by
  have compared : ∀ g ∈ w.tracker.files, ∃ c, lastChange g.1 w.tracker.changes = some c ∧
      (conflicting h w.fs (f g.2) = false ↔
        ∀ text, c.after = some text → h.sha256 (universalNewlines text) = h.sha256 text) := by
    intro g mem
    obtain ⟨path, -, ⟨c₀, first, -⟩, ⟨c, last, after⟩⟩ := entry_of_mem sound mem
    obtain ⟨samePath, -, sameAfter⟩ := keeps g.2
    have recorded : lastRecorded g.1 w.history = some c.bytes := by
      rw [lastRecorded_eq sound, last, Option.map_some]
    have firstKnown : firstRecorded g.1 w.history = some c₀.bytes := by
      rw [firstRecorded_eq sound, first, Option.map_some]
    refine ⟨c, last, conflicting_iff ?_ ?_ ?_⟩
    · rw [sameAfter, after]
    · rw [samePath, path]
      exact unchanged g.1 _ recorded
    · rw [samePath, path]
      exact place.noDir g.1 _ firstKnown
  rw [List.filter_eq_nil_iff]
  constructor
  · intro none p c text recorded now
    rw [lastRecorded_eq sound] at recorded
    obtain ⟨d, last, rfl⟩ := Option.map_eq_some_iff.mp recorded
    have known : (Assoc.get p w.tracker.files).isSome = true := by
      by_contra missing
      have first := sound.tracked.missing p (by simpa using missing)
      have mem : d ∈ w.tracker.changes := List.mem_reverse.mp (List.mem_of_find?_eq_some last)
      have path : d.path = p := by simpa using List.find?_some last
      exact absurd (List.find?_eq_none.mp first d mem) (by simp [path])
    obtain ⟨e, stored⟩ := Option.isSome_iff_exists.mp known
    obtain ⟨c, last', agree⟩ := compared (p, e) (Assoc.mem_of_get stored)
    rw [last] at last'
    cases last'
    apply agree.mp
    · have kept := none (p, f e) (List.mem_map.mpr ⟨(p, e), Assoc.mem_of_get stored, rfl⟩)
      simpa using kept
    · obtain ⟨text', eq, same⟩ := Option.map_eq_some_iff.mp now
      rw [eq, encode_injective same]
  · intro stable x mem
    obtain ⟨g, inTable, rfl⟩ := List.mem_map.mp mem
    obtain ⟨c, last, agree⟩ := compared g inTable
    have clean : conflicting h w.fs (f g.2) = false := by
      apply agree.mpr
      intro text eq
      apply stable g.1 c.bytes text
      · rw [lastRecorded_eq sound, last, Option.map_some]
      · simp [Change.bytes, eq]
    simp [clean]

end Undo

/-- Let no text share its digest with its own text-mode reading unless the two are equal.
After any run, an undo within its limits, of files that are as they were last recorded and
whose places are free, takes the change set back byte for byte exactly when none of the
files it compares holds a carriage return. -/
theorem restored_iff_no_carriage_return (h : Hasher) (settings : Settings)
    (noCollision : ∀ text, h.sha256 (universalNewlines text) = h.sha256 text →
      universalNewlines text = text) {w : World} (run : Run h settings w)
    (within : WithinLimits settings w.tracker) (unchanged : Unchanged w) (place : InPlace w) :
    Undone h settings w ↔
      ∀ p c text, lastRecorded p w.history = some c → c.now = some (encode text) →
        '\r' ∉ text := by
  have sound := sound_of_run run
  have supported := unsupportedFiles_eq_nil sound within
  obtain ⟨f, keeps, refreshed⟩ := refreshUndoSupport_eq settings
  have conflicts := conflicts_eq_nil_iff sound unchanged place keeps
  have stable : (∀ p c text, lastRecorded p w.history = some c → c.now = some (encode text) →
      h.sha256 (universalNewlines text) = h.sha256 text) ↔
      ∀ p c text, lastRecorded p w.history = some c → c.now = some (encode text) →
        '\r' ∉ text := by
    constructor
    · intro same p c text recorded now
      exact universalNewlines_eq_self_iff.mp (noCollision text (same p c text recorded now))
    · intro clean p c text recorded now
      rw [universalNewlines_eq_self (clean p c text recorded now)]
  rw [← stable, ← conflicts]
  have outcome := restoreSupported_run (h := h) (refreshUndoSupport settings w.tracker.files) w.fs
  rw [← restore_eq_supported supported, refreshed] at outcome
  by_cases none : ((w.tracker.files.map fun x => (x.1, f x.2)).filter
      fun x => conflicting h w.fs x.2) = []
  · obtain ⟨fs', done, restored⟩ := restore_files sound place keeps
    have success : restoreFiles (w.tracker.files.map fun x => (x.1, f x.2)) w.fs =
        .ok ⟨.restored, (w.tracker.files.map fun x => (x.1, f x.2)).map
          fun x => ⟨x.2.path, x.2.relativePath⟩, [], []⟩ fs' := bind_of_ok done _
    rw [none, List.isEmpty_nil, if_pos rfl, success] at outcome
    exact iff_of_true ⟨_, fs', outcome, rfl, restored⟩ none
  · refine iff_of_false ?_ none
    rintro ⟨report, fs', result, status, -⟩
    rw [outcome, if_neg (by simpa [List.isEmpty_iff] using none)] at result
    cases result
    cases status

/-! ### A note with Windows line endings -/

def noteFs (text : List Char) : FileSystem :=
  [([], .dir), (["w"], .dir), (["w", "note.txt"], .file (encode text))]

def noteSettings : Settings where
  workspaceRoots := [["w"]]

/-- A digest that keeps the whole text. -/
def plainHasher : Hasher where
  sha256 text := String.ofList ('#' :: text)
  nonempty := by
    intro text empty
    have chars := congrArg String.toList empty
    simp at chars

def noteWorld (text : List Char) : World :=
  (⟨noteFs text, .empty, [noteFs "a\n".toList], []⟩ : World).recordSnapshot plainHasher noteSettings
    (noteFs "a\n".toList) ⟨"turn-0", "shell", "call-1", ""⟩

theorem noteFs_wellFormed (text : List Char) : (noteFs text).WellFormed where
  root := rfl
  above := by
    intro p file a above
    obtain ⟨content, node⟩ := isFileAt_iff.mp file
    have mem := Assoc.mem_of_get node
    simp only [noteFs, List.mem_cons, List.not_mem_nil, or_false, Prod.mk.injEq] at mem
    obtain ⟨-, no⟩ | ⟨-, no⟩ | ⟨rfl, -⟩ := mem
    · cases no
    · cases no
    · have pre := (List.mem_inits a _).mpr above.1
      have ne := above.2
      simp only [List.inits, List.map_cons, List.map_nil, List.mem_cons, List.not_mem_nil,
        or_false] at pre
      obtain rfl | rfl | rfl := pre
      · rfl
      · rfl
      · exact absurd rfl ne

theorem run_noteWorld (text : List Char) : Run plainHasher noteSettings (noteWorld text) := by
  apply Run.recordSnapshot
  · exact .edit (.capture (.start (noteFs_wellFormed "a\n".toList))) (noteFs_wellFormed text)
  · exact List.mem_cons_self

def noteChange (text : List Char) : FileChange :=
  ⟨["w", "note.txt"], some (encode "a\n".toList), some (encode text)⟩

variable {text : List Char}

theorem firstRecorded_note {p : Path} {c : FileChange}
    (recorded : firstRecorded p [noteChange text] = some c) :
    p = ["w", "note.txt"] ∧ c = noteChange text := by
  have mem := List.mem_of_find?_eq_some recorded
  have path := List.find?_some recorded
  simp only [List.mem_singleton] at mem
  subst mem
  exact ⟨by simpa [noteChange, eq_comm] using path, rfl⟩

/-- The note is unchanged since it was recorded, and nothing stands in its way. -/
theorem note_ready (history : (noteWorld text).history = [noteChange text]) :
    Unchanged (noteWorld text) ∧ InPlace (noteWorld text) := by
  constructor
  · intro p c recorded
    rw [history] at recorded
    obtain ⟨rfl, rfl⟩ := firstRecorded_note (p := p) recorded
    rfl
  constructor
  · intro p c recorded
    rw [history] at recorded
    obtain ⟨rfl, rfl⟩ := firstRecorded_note recorded
    rfl
  · intro p q c d recorded recorded'
    rw [history] at recorded recorded'
    obtain ⟨rfl, rfl⟩ := firstRecorded_note recorded
    obtain ⟨rfl, rfl⟩ := firstRecorded_note recorded'
    intro above
    exact above.2 rfl
  · intro p c recorded _ a above
    rw [history] at recorded
    obtain ⟨rfl, rfl⟩ := firstRecorded_note recorded
    by_contra file
    rw [Bool.not_eq_false] at file
    have file : (noteFs text).isFileAt a = true := file
    have dir := (noteFs_wellFormed text).above ["w", "note.txt"] rfl a above
    rw [not_isDirAt_of_isFileAt file] at dir
    cases dir

/-- The note got Windows line endings: nothing touched it since, and yet the undo reports
a conflict. -/
theorem windows_note_not_undone :
    Run plainHasher noteSettings (noteWorld "b\r\n".toList) ∧
    WithinLimits noteSettings (noteWorld "b\r\n".toList).tracker ∧
    Unchanged (noteWorld "b\r\n".toList) ∧ InPlace (noteWorld "b\r\n".toList) ∧
    ¬ Undone plainHasher noteSettings (noteWorld "b\r\n".toList) := by
  have history : (noteWorld "b\r\n".toList).history = [noteChange "b\r\n".toList] := rfl
  refine ⟨run_noteWorld _, ?_, (note_ready history).1, (note_ready history).2, ?_⟩
  · exact ⟨by decide +kernel, by decide +kernel⟩
  · rintro ⟨report, fs', outcome, status, -⟩
    have conflict : ∃ report, restore plainHasher noteSettings (noteWorld "b\r\n".toList).tracker
        (noteWorld "b\r\n".toList).fs = .ok report (noteFs "b\r\n".toList) ∧
        report.status = .conflict := ⟨_, rfl, rfl⟩
    obtain ⟨report', outcome', status'⟩ := conflict
    rw [outcome'] at outcome
    cases outcome
    rw [status] at status'
    cases status'

theorem plain_note_undone : Undone plainHasher noteSettings (noteWorld "b\n".toList) := by
  have history : (noteWorld "b\n".toList).history = [noteChange "b\n".toList] := rfl
  refine (restored_iff_no_carriage_return plainHasher noteSettings ?_ (run_noteWorld _) ?_
    (note_ready history).1 (note_ready history).2).mpr ?_
  · intro text same
    have chars := congrArg String.toList same
    simpa [plainHasher] using chars
  · exact ⟨by decide +kernel, by decide +kernel⟩
  · intro p c text recorded now
    rw [history] at recorded
    obtain ⟨rfl, rfl⟩ := firstRecorded_note (p := p) recorded
    have same : text = "b\n".toList := encode_injective (Option.some.inj now).symm
    rw [same]
    decide

end Unchain.Workspace
