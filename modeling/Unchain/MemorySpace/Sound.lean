import Unchain.MemorySpace.Repository

/-!
What every transaction keeps of the tables of a workspace.

In sound tables the revisions of an entry are `1` up to its current one, every active entry has a
path key of its own, and every receipt still has its row. `Kept` is the order in which tables
grow: no row is ever changed or removed. A transaction that changes sound tables leaves them
sound, keeps their rows and moves the revision of the space by one (`apply_spec`,
`createLink_spec`).
-/

namespace Unchain.MemorySpace

open Lib Lib.Utf8 Lib.Effect Journal Python

variable {host : WorkspaceHost} {spaceId : String}

structure EntryRow.Named (host : WorkspaceHost) (spaceId id : String) (n : Int) (row : EntryRow) :
    Prop where
  entryId : row.entry.entryId = id
  revision : row.entry.revision = n
  spaceId : row.entry.spaceId = spaceId
  valid : row.entry.Valid host
  content : row.entry.contentRef.isSome = row.object.isSome

structure EntryHead.Shows (host : WorkspaceHost) (head : EntryHead) (row : EntryRow) : Prop where
  pathKey : head.pathKey = MemorySpace.pathKey host row.entry.path
  deleted : head.deleted = row.entry.deleted

/-- What a receipt says was done. -/
def Tables.Holds (t : Tables) (receipt : OperationReceipt) : Prop :=
  receipt.targetKey = targetKey receipt.resultId receipt.resultRevision ∧
  ((receipt.targetKind = "entry" ∧ (t.revisionRow? receipt.resultId receipt.resultRevision).isSome) ∨
   (receipt.targetKind = "link" ∧ (t.linkRow? receipt.resultId receipt.resultRevision).isSome))

structure Tables.Sound (host : WorkspaceHost) (spaceId : String) (t : Tables) : Prop where
  heads : (Assoc.keys t.heads).Nodup
  /-- The revisions of an entry are exactly `1` up to its current one. -/
  rows : ∀ id n, (t.revisionRow? id n).isSome ↔
    ∃ head, t.head? id = some head ∧ 1 ≤ n ∧ n ≤ head.currentRevision
  started : ∀ id head, t.head? id = some head → 1 ≤ head.currentRevision
  named : ∀ id n row, t.revisionRow? id n = some row → row.Named host spaceId id n
  shows : ∀ id head row, t.head? id = some head →
    t.revisionRow? id head.currentRevision = some row → head.Shows host row
  /-- No two active entries share a path key. -/
  alone : ∀ id id' head head', t.head? id = some head → t.head? id' = some head' →
    head.deleted = false → head'.deleted = false → head.pathKey = head'.pathKey → id = id'
  receipts : ∀ op receipt, t.receipt? op = some receipt → t.Holds receipt

/-- No row is changed or removed. -/
structure Tables.Kept (t t' : Tables) : Prop where
  rows : ∀ id n row, t.revisionRow? id n = some row → t'.revisionRow? id n = some row
  heads : ∀ id head, t.head? id = some head →
    ∃ head', t'.head? id = some head' ∧ head.currentRevision ≤ head'.currentRevision
  links : ∀ id n row, t.linkRow? id n = some row → t'.linkRow? id n = some row
  receipts : ∀ op receipt, t.receipt? op = some receipt → t'.receipt? op = some receipt

theorem Tables.Kept.refl (t : Tables) : t.Kept t :=
  ⟨fun _ _ _ h => h, fun _ head h => ⟨head, h, le_refl _⟩, fun _ _ _ h => h, fun _ _ h => h⟩

variable {t t' : Tables}

theorem Tables.Kept.trans {t'' : Tables} (first : t.Kept t') (second : t'.Kept t'') :
    t.Kept t'' where
  rows id n row h := second.rows id n row (first.rows id n row h)
  heads id head h := by
    obtain ⟨head', h', le⟩ := first.heads id head h
    obtain ⟨head'', h'', le'⟩ := second.heads id head' h'
    exact ⟨head'', h'', le.trans le'⟩
  links id n row h := second.links id n row (first.links id n row h)
  receipts op receipt h := second.receipts op receipt (first.receipts op receipt h)

theorem Tables.Holds.kept (kept : t.Kept t') {receipt : OperationReceipt} (h : t.Holds receipt) :
    t'.Holds receipt := by
  refine ⟨h.1, ?_⟩
  rcases h.2 with ⟨kind, there⟩ | ⟨kind, there⟩
  · obtain ⟨row, there⟩ := Option.isSome_iff_exists.mp there
    exact .inl ⟨kind, by rw [kept.rows _ _ _ there]; rfl⟩
  · obtain ⟨row, there⟩ := Option.isSome_iff_exists.mp there
    exact .inr ⟨kind, by rw [kept.links _ _ _ there]; rfl⟩

theorem Tables.sound_fresh : Tables.fresh.Sound host spaceId where
  heads := List.nodup_nil
  rows id n := by simp [Tables.fresh, Tables.revisionRow?, Tables.head?]
  started _ _ h := by cases h
  named _ _ _ h := by cases h
  shows _ _ _ h := by cases h
  alone _ _ _ _ h := by cases h
  receipts _ _ h := by cases h

namespace Tables

theorem currentRow?_some {t : Tables} {id : String} {row : EntryRow}
    (h : t.currentRow? id = some row) :
    ∃ head, t.head? id = some head ∧ t.revisionRow? id head.currentRevision = some row :=
  Option.bind_eq_some_iff.mp h

end Tables

/-! ### One revision -/

section Write

variable {entry : MemoryEntry} {operationId : String} {object : Option Bytes} {t t' : Tables}

def Tables.wrote (host : WorkspaceHost) (entry : MemoryEntry) (operationId : String)
    (object : Option Bytes) (t : Tables) : Tables :=
  { t with
    revisions := Assoc.set (entry.entryId, entry.revision)
      ⟨entry, pathKey host entry.path, operationId, object⟩ t.revisions
    heads := Assoc.set entry.entryId
      ⟨entry.revision, pathKey host entry.path, entry.deleted, entry.updatedSeq⟩ t.heads }

theorem writeEntryRevision_ok (h : writeEntryRevision host entry operationId object t = .ok t') :
    t.revisionRow? entry.entryId entry.revision = none ∧
    entry.contentRef.isSome = object.isSome ∧
    (entry.deleted = false → collides entry.entryId (pathKey host entry.path) t = false) ∧
    t' = t.wrote host entry operationId object := by
  unfold writeEntryRevision at h
  simp only at h
  split at h
  · cases h
  split at h
  · cases h
  rename_i open_ alone
  cases h
  simp only [Bool.or_eq_true, decide_eq_true_eq, not_or, Option.not_isSome_iff_eq_none,
    not_not] at open_
  simp only [Bool.and_eq_true, Bool.not_eq_true', not_and, Bool.not_eq_true] at alone
  exact ⟨open_.1, open_.2, alone, rfl⟩

@[simp] theorem wrote_row_self :
    (t.wrote host entry operationId object).revisionRow? entry.entryId entry.revision =
      some ⟨entry, pathKey host entry.path, operationId, object⟩ :=
  Assoc.get_set_self _ _ _

variable {id : String}

theorem wrote_row_of_ne {n : Int} (ne : (id, n) ≠ (entry.entryId, entry.revision)) :
    (t.wrote host entry operationId object).revisionRow? id n = t.revisionRow? id n :=
  Assoc.get_set_of_ne ne _ _

@[simp] theorem wrote_head_self :
    (t.wrote host entry operationId object).head? entry.entryId =
      some ⟨entry.revision, pathKey host entry.path, entry.deleted, entry.updatedSeq⟩ :=
  Assoc.get_set_self _ _ _

theorem wrote_head_of_ne (ne : id ≠ entry.entryId) :
    (t.wrote host entry operationId object).head? id = t.head? id :=
  Assoc.get_set_of_ne ne _ _

@[simp] theorem wrote_links (id : String) (n : Int) :
    (t.wrote host entry operationId object).linkRow? id n = t.linkRow? id n := rfl

@[simp] theorem wrote_receipts (op : String) :
    (t.wrote host entry operationId object).receipt? op = t.receipt? op := rfl

variable {head : EntryHead}

theorem not_collides {key : String} (h : collides id key t = false) {other : String}
    (there : t.head? other = some head) (active : head.deleted = false)
    (same : head.pathKey = key) : other = id := by
  have none := List.any_eq_false.mp h (other, head) (Assoc.mem_of_get there)
  simp only [active, same, decide_true, Bool.not_false, Bool.and_self, Bool.true_and,
    decide_eq_true_eq, not_not] at none
  exact none

def Tables.Next (t : Tables) (entry : MemoryEntry) : Prop :=
  entry.revision = 1 ∨ (t.revisionRow? entry.entryId (entry.revision - 1)).isSome

section

variable (sound : t.Sound host spaceId) (next : t.Next entry)

include sound next

theorem Tables.Sound.next_head (absent : t.revisionRow? entry.entryId entry.revision = none)
    (h : t.head? entry.entryId = some head) : entry.revision = head.currentRevision + 1 := by
  have none : ¬ (1 ≤ entry.revision ∧ entry.revision ≤ head.currentRevision) := by
    intro within
    have there := (sound.rows entry.entryId entry.revision).mpr ⟨head, h, within⟩
    simp [absent] at there
  rcases next with first | before
  · have := sound.started _ _ h
    omega
  · obtain ⟨head', h', low, high⟩ := (sound.rows _ _).mp before
    cases h.symm.trans h'
    omega

theorem Tables.Sound.next_first (h : t.head? entry.entryId = none) : entry.revision = 1 := by
  rcases next with first | before
  · exact first
  · obtain ⟨head', h', -⟩ := (sound.rows _ _).mp before
    cases h.symm.trans h'

theorem Tables.Kept.wrote (absent : t.revisionRow? entry.entryId entry.revision = none) :
    t.Kept (t.wrote host entry operationId object) where
  rows id n row h := by
    rw [wrote_row_of_ne]
    · exact h
    · rintro same
      cases same
      cases h.symm.trans absent
  heads id head h := by
    by_cases same : id = entry.entryId
    · subst same
      have := sound.next_head next absent h
      exact ⟨_, wrote_head_self, by simp only; omega⟩
    · exact ⟨head, by rw [wrote_head_of_ne same, h], le_refl _⟩
  links _ _ _ h := h
  receipts _ _ h := h

theorem Tables.Sound.wrote (absent : t.revisionRow? entry.entryId entry.revision = none) (pos : 1 ≤ entry.revision)
    (space : entry.spaceId = spaceId) (valid : entry.Valid host)
    (content : entry.contentRef.isSome = object.isSome)
    (alone : entry.deleted = false → collides entry.entryId (pathKey host entry.path) t = false) :
    (t.wrote host entry operationId object).Sound host spaceId where
  heads := Assoc.nodup_keys_set _ _ sound.heads
  rows id n := by
    by_cases same : id = entry.entryId
    · subst same
      by_cases here : n = entry.revision
      · subst here
        simp [pos]
      · rw [wrote_row_of_ne (by simp [here]), wrote_head_self, sound.rows]
        constructor
        · rintro ⟨head, h, low, high⟩
          have := sound.next_head next absent h
          exact ⟨_, rfl, low, by simp only; omega⟩
        · rintro ⟨head, h, low, high⟩
          cases h
          simp only at high
          cases old : t.head? entry.entryId with
          | none =>
            have := sound.next_first next old
            omega
          | some head =>
            have := sound.next_head next absent old
            exact ⟨head, rfl, low, by omega⟩
    · rw [wrote_row_of_ne (by simp [same]), wrote_head_of_ne same, sound.rows]
  started id head h := by
    by_cases same : id = entry.entryId
    · subst same
      rw [wrote_head_self] at h
      cases h
      exact pos
    · rw [wrote_head_of_ne same] at h
      exact sound.started id head h
  named id n row h := by
    by_cases here : (id, n) = (entry.entryId, entry.revision)
    · cases here
      rw [wrote_row_self] at h
      cases h
      exact ⟨rfl, rfl, space, valid, content⟩
    · rw [wrote_row_of_ne here] at h
      exact sound.named id n row h
  shows id head row h there := by
    by_cases same : id = entry.entryId
    · subst same
      rw [wrote_head_self] at h
      cases h
      rw [wrote_row_self] at there
      cases there
      exact ⟨rfl, rfl⟩
    · rw [wrote_head_of_ne same] at h
      rw [wrote_row_of_ne (by simp [same])] at there
      exact sound.shows id head row h there
  alone id id' head head' h h' active active' key := by
    by_cases same : id = entry.entryId
    · by_cases same' : id' = entry.entryId
      · rw [same, same']
      · subst same
        rw [wrote_head_self] at h
        rw [wrote_head_of_ne same'] at h'
        cases h
        exact (not_collides (alone active) h' active' key.symm).symm
    · by_cases same' : id' = entry.entryId
      · subst same'
        rw [wrote_head_of_ne same] at h
        rw [wrote_head_self] at h'
        cases h'
        exact not_collides (alone active') h active key
      · rw [wrote_head_of_ne same] at h
        rw [wrote_head_of_ne same'] at h'
        exact sound.alone id id' head head' h h' active active' key
  receipts op receipt h := (sound.receipts op receipt h).kept (.wrote sound next absent)

end

end Write

/-! ### Recursive archives -/

def Listed (rows : List EntryRow) (t : Tables) : Prop :=
  ∀ row ∈ rows, t.revisionRow? row.entry.entryId row.entry.revision = some row

variable {rows : List EntryRow}

theorem listed_nil : Listed [] t := fun _ mem => absurd mem List.not_mem_nil

theorem Listed.kept (kept : t.Kept t') (listed : Listed rows t) : Listed rows t' :=
  fun row mem => kept.rows _ _ _ (listed row mem)

/-- What the tombstones leave as it was. -/
structure Archived (host : WorkspaceHost) (spaceId : String) (t t' : Tables) : Prop where
  sound : t'.Sound host spaceId
  kept : Tables.Kept t t'
  revision : t'.revision = t.revision
  receipts : t'.receipts = t.receipts

theorem archiveEach_spec {request : WorkspaceMutationRequest} (sound : t.Sound host spaceId)
    (listed : Listed rows t) (h : archiveEach host request rows t = .ok t') :
    Archived host spaceId t t' := by
  induction rows generalizing t with
  | nil =>
    cases h
    exact ⟨sound, .refl _, rfl, rfl⟩
  | cons row rows ih =>
    obtain ⟨tombstone, made, h⟩ := bind_ok h
    obtain ⟨u, wrote, h⟩ := bind_ok h
    have there := listed row (by simp)
    have named := sound.named _ _ _ there
    have p := passed_of_checked made
    have eq := (named.valid.revised p.revision.1 p.updatedSeq.1 request.entry.sourceRefs
      true).symm.trans made
    cases eq
    obtain ⟨absent, content, alone, rfl⟩ := writeEntryRevision_ok wrote
    have next : t.Next { row.entry with
        revision := row.entry.revision + 1
        updatedSeq := request.entry.updatedSeq
        sourceRefs := request.entry.sourceRefs
        deleted := true } := .inr (by simp [there])
    have kept := @Tables.Kept.wrote _ _ _ request.operation.operationId row.object _ sound next
      absent
    have after := ih (sound.wrote next absent p.revision.1 named.spaceId
      (named.valid.revised p.revision.1 p.updatedSeq.1 _ _) content alone)
      (Listed.kept kept fun r mem => listed r (List.mem_cons_of_mem _ mem)) h
    exact ⟨after.sound, kept.trans after.kept, after.revision, after.receipts⟩

theorem listed_descendants (sound : t.Sound host spaceId) (path : String) :
    Listed (descendants host path t) t := by
  intro row mem
  simp only [descendants, List.mem_filterMap] at mem
  obtain ⟨head, -, there⟩ := mem
  have named := sound.named _ _ _ there
  rw [named.entryId, named.revision]
  exact there

/-! ### Entry mutations -/

structure Applied (host : WorkspaceHost) (spaceId : String) (request : WorkspaceMutationRequest)
    (t : Tables) (stored : MemoryEntry) (t' : Tables) : Prop where
  sound : t'.Sound host spaceId
  kept : t.Kept t'
  expected : t.revision = request.expectedSpaceRevision
  current : (t.currentRow? request.entry.entryId).map (·.entry.revision) = request.expectedRevision
  advanced : t'.revision = t.revision + 1
  entry : stored = { request.entry with contentRef := stored.contentRef }
  /-- Without content the reference is the one of the current revision. -/
  bare : request.content = none → (∀ row, t.currentRow? request.entry.entryId = some row →
    row.entry.contentRef = request.entry.contentRef) → stored = request.entry
  content : stored.kind = .markdown ∨ stored.kind = .image → stored.contentRef.isSome
  row : ∃ row, t'.revisionRow? stored.entryId stored.revision = some row ∧ row.entry = stored
  receipt : t'.receipt? request.operation.operationId = some
    ⟨request.operation.payloadSha256, "entry", targetKey stored.entryId stored.revision,
      stored.entryId, stored.revision⟩

section Mutate

variable {request : WorkspaceMutationRequest} {t t' : Tables} {stored : MemoryEntry}
  {object : Option Bytes}

theorem persisted_spec (normal : Normal host) {current : Option EntryRow}
    (valid : request.entry.Valid host)
    (h : persisted host spaceId request current = .ok (stored, object)) :
    stored = { request.entry with contentRef := stored.contentRef } ∧ stored.Valid host ∧
    (request.content = none → (∀ row, current = some row →
      row.entry.contentRef = request.entry.contentRef) → stored = request.entry) := by
  unfold persisted at h
  simp only at h
  split at h
  · rename_i content given
    obtain ⟨ref, -, h⟩ := bind_ok h
    obtain ⟨made, checked, h⟩ := bind_ok h
    cases h
    have eq := valid.withContent checked
    exact ⟨by rw [eq], MemoryEntry.checked_again normal checked,
      fun none => by rw [given] at none; cases none⟩
  · rename_i row given
    split at h
    · rename_i carried
      obtain ⟨made, checked, h⟩ := bind_ok h
      cases h
      have eq := valid.withContent checked
      refine ⟨by rw [eq], MemoryEntry.checked_again normal checked, fun _ same => ?_⟩
      rw [eq, same row rfl]
    split at h
    · cases h
    · cases h
      exact ⟨rfl, valid, fun _ _ => rfl⟩
  · cases h
    exact ⟨rfl, valid, fun _ _ => rfl⟩

variable {entry : MemoryEntry}

theorem checkContent_ok (h : checkContent entry object = .ok ())
    (kind : entry.kind = .markdown ∨ entry.kind = .image) : entry.contentRef.isSome := by
  unfold checkContent at h
  rcases kind with kind | kind
  · rw [kind] at h
    have passed := raiseIf_ok.mp h
    simp only [Bool.or_eq_false_iff, Option.isNone_eq_false_iff] at passed
    exact passed.1
  · rw [kind] at h
    have passed := raiseIf_ok.mp h
    simp only [Bool.or_eq_false_iff, Option.isNone_eq_false_iff] at passed
    exact passed.1

theorem checkMutation_ok {below : List EntryRow} (sound : t.Sound host spaceId)
    (h : checkMutation host request t = .ok below) : t.revision = request.expectedSpaceRevision ∧
    request.entry.updatedSeq = request.expectedSpaceRevision + 1 ∧
    (t.currentRow? request.entry.entryId).map (·.entry.revision) = request.expectedRevision ∧
    request.entry.revision =
      ((t.currentRow? request.entry.entryId).map (·.entry.revision + 1)).getD 1 ∧
    Listed below t := by
  obtain ⟨space, h⟩ := raiseIf_bind_ok h
  obtain ⟨seq, h⟩ := raiseIf_bind_ok h
  obtain ⟨expected, h⟩ := raiseIf_bind_ok h
  obtain ⟨next, h⟩ := raiseIf_bind_ok h
  obtain ⟨-, h⟩ := raiseIf_bind_ok h
  obtain ⟨-, h⟩ := raiseIf_bind_ok h
  simp only [decide_eq_false_iff_not, not_not] at space seq expected next
  refine ⟨space, seq, expected, next, ?_⟩
  cases h
  split
  · rename_i row _
    split
    · exact listed_descendants sound row.entry.path
    · exact listed_nil
  · exact listed_nil

theorem next_of_current (sound : t.Sound host spaceId)
    (next : entry.revision = ((t.currentRow? entry.entryId).map (·.entry.revision + 1)).getD 1) :
    t.Next entry := by
  cases current : t.currentRow? entry.entryId with
  | none =>
    rw [current] at next
    exact .inl next
  | some row =>
    rw [current] at next
    obtain ⟨head, -, there⟩ := Tables.currentRow?_some current
    have named := sound.named _ _ _ there
    refine .inr ?_
    have back : entry.revision - 1 = head.currentRevision := by
      have := named.revision
      simp only [Option.map_some, Option.getD_some] at next
      omega
    rw [back, there]
    rfl

theorem Tables.Next.kept (kept : t.Kept t') (next : t.Next entry) : t'.Next entry := by
  rcases next with first | before
  · exact .inl first
  · obtain ⟨row, there⟩ := Option.isSome_iff_exists.mp before
    exact .inr (by rw [kept.rows _ _ _ there]; rfl)

variable {expected n : Int} {id kind : String} {operation : OperationRef}

/-- The space moves on, and the receipt is claimed. -/
theorem Tables.Sound.settle (sound : t.Sound host spaceId)
    (done : (kind = "entry" ∧ (t.revisionRow? id n).isSome) ∨
      (kind = "link" ∧ (t.linkRow? id n).isSome)) :
    (settle operation kind id n expected t).Sound host spaceId where
  heads := sound.heads
  rows := sound.rows
  started := sound.started
  named := sound.named
  shows := sound.shows
  alone := sound.alone
  receipts op receipt h := by
    by_cases same : op = operation.operationId
    · subst same
      have eq := (Assoc.get_set_self _ _ _).symm.trans h
      cases eq
      exact ⟨rfl, done⟩
    · have eq : t.receipt? op = some receipt := (Assoc.get_set_of_ne same _ _).symm.trans h
      exact sound.receipts op receipt eq

theorem Tables.Kept.settle (new : t.receipt? operation.operationId = none) :
    t.Kept (settle operation kind id n expected t) where
  rows _ _ _ h := h
  heads _ head h := ⟨head, h, le_refl _⟩
  links _ _ _ h := h
  receipts op receipt h := by
    have ne : op ≠ operation.operationId := by
      rintro rfl
      cases h.symm.trans new
    exact (Assoc.get_set_of_ne ne _ _).trans h

theorem mutate_spec (normal : Normal host) (sound : t.Sound host spaceId)
    (valid : request.entry.Valid host) (space : request.entry.spaceId = spaceId)
    (new : t.receipt? request.operation.operationId = none)
    (h : mutate host spaceId request t = .ok (stored, t')) :
    Applied host spaceId request t stored t' := by
  obtain ⟨below, checks, h⟩ := bind_ok h
  obtain ⟨⟨made, object⟩, persists, h⟩ := bind_ok h
  obtain ⟨⟨⟩, contents, h⟩ := bind_ok h
  obtain ⟨u, archives, h⟩ := bind_ok h
  obtain ⟨v, writes, h⟩ := bind_ok h
  cases h
  obtain ⟨expected, seq, current, next, listed⟩ := checkMutation_ok sound checks
  obtain ⟨entry, storedValid, bare⟩ := persisted_spec normal valid persists
  have below_listed : Listed (if request.entry.deleted && request.recursive then below else []) t := by
    split
    · exact listed
    · exact nofun
  have archived := archiveEach_spec sound below_listed archives
  obtain ⟨absent, content, alone, rfl⟩ := writeEntryRevision_ok writes
  have id : stored.entryId = request.entry.entryId := by rw [entry]
  have revision : stored.revision = request.entry.revision := by rw [entry]
  have nextStored : t.Next stored := by
    refine next_of_current sound ?_
    rw [id, revision]
    exact next
  have pos : 1 ≤ stored.revision := (passed_of_checked storedValid).revision.1
  have after := @Tables.Sound.wrote _ _ _ request.operation.operationId object _ archived.sound
    (nextStored.kept archived.kept) absent pos (by rw [entry]; exact space) storedValid content alone
  have kept := archived.kept.trans (@Tables.Kept.wrote _ _ _ request.operation.operationId
    object _ archived.sound (nextStored.kept archived.kept) absent)
  exact {
    sound := after.settle (.inl ⟨rfl, by simp⟩)
    kept := kept.trans (.settle (by
      rw [wrote_receipts, Tables.receipt?, archived.receipts]
      exact new))
    expected := expected
    current := current
    advanced := by rw [expected]; rfl
    entry := entry
    bare := bare
    content := checkContent_ok contents
    row := ⟨_, wrote_row_self, rfl⟩
    receipt := Assoc.get_set_self _ _ _ }

structure Replayed (operation : OperationRef) (kind key : String) (t : Tables)
    (receipt : OperationReceipt) : Prop where
  there : t.receipt? operation.operationId = some receipt
  payload : receipt.payloadSha256 = operation.payloadSha256
  targetKind : receipt.targetKind = kind
  targetKey : receipt.targetKey = key

theorem receiptFor_ok {key : String} {found : Option OperationReceipt}
    (h : receiptFor operation kind key t = .ok found) :
    (found = none ∧ t.receipt? operation.operationId = none) ∨
    ∃ receipt, found = some receipt ∧ Replayed operation kind key t receipt := by
  unfold receiptFor at h
  split at h
  · rename_i none
    cases h
    exact .inl ⟨rfl, none⟩
  · rename_i receipt there
    split at h
    · cases h
    · rename_i same
      cases h
      simp only [Bool.or_eq_true, decide_eq_true_eq, not_or, not_not] at same
      exact .inr ⟨receipt, rfl, there, same.1.1, same.1.2, same.2⟩

/-- `apply` replays an operation that has its receipt, and applies a new one. -/
theorem apply_spec (normal : Normal host) (sound : t.Sound host spaceId)
    (valid : request.entry.Valid host) (h : apply host spaceId request t = .ok (stored, t')) :
    (t' = t ∧ ∃ receipt row, Replayed request.operation "entry"
        (targetKey request.entry.entryId request.entry.revision) t receipt ∧
      t.revisionRow? receipt.resultId receipt.resultRevision = some row ∧ stored = row.entry) ∨
    (t.receipt? request.operation.operationId = none ∧
      Applied host spaceId request t stored t') := by
  obtain ⟨space, h⟩ := raiseIf_bind_ok h
  simp only [decide_eq_false_iff_not, not_not] at space
  obtain ⟨found, looked, h⟩ := bind_ok h
  rcases receiptFor_ok looked with ⟨rfl, new⟩ | ⟨receipt, rfl, replayed⟩
  · exact .inr ⟨new, mutate_spec normal sound valid space new h⟩
  · simp only at h
    split at h
    · rename_i row there
      cases h
      exact .inl ⟨rfl, receipt, row, replayed, there, rfl⟩
    · cases h

end Mutate

/-! ### Relation links -/

section Link

variable {request : WorkspaceLinkRequest} {t t' : Tables} {stored : MemoryLink}

def Tables.Current (t : Tables) (ref : ResourceRef) : Prop :=
  ∃ row, t.currentRow? ref.resourceId = some row ∧ row.entry.revision = ref.revision ∧
    row.entry.deleted = false

/-- What a created link did. -/
structure Linked (host : WorkspaceHost) (spaceId : String) (request : WorkspaceLinkRequest)
    (t : Tables) (stored : MemoryLink) (t' : Tables) : Prop where
  sound : t'.Sound host spaceId
  kept : t.Kept t'
  expected : t.revision = request.expectedSpaceRevision
  advanced : t'.revision = t.revision + 1
  link : stored = request.link
  row : ∃ row, t'.linkRow? stored.linkId stored.revision = some row ∧ row.link = stored
  receipt : t'.receipt? request.operation.operationId = some
    ⟨request.operation.payloadSha256, "link", targetKey stored.linkId stored.revision,
      stored.linkId, stored.revision⟩

theorem insertLink_spec (sound : t.Sound host spaceId)
    (new : t.receipt? request.operation.operationId = none)
    (h : insertLink spaceId request t = .ok (stored, t')) :
    Linked host spaceId request t stored t' := by
  obtain ⟨expected, h⟩ := raiseIf_bind_ok h
  obtain ⟨_, -, h⟩ := bind_ok h
  obtain ⟨_, -, h⟩ := bind_ok h
  obtain ⟨-, h⟩ := raiseIf_bind_ok h
  obtain ⟨absent, h⟩ := raiseIf_bind_ok h
  simp only [decide_eq_false_iff_not, not_not] at expected
  cases h
  let linked : Tables := { t with
    links := Assoc.set (request.link.linkId, request.link.revision)
      ⟨request.link, request.operation.operationId, request.sourceRefs⟩ t.links }
  have there : linked.linkRow? request.link.linkId request.link.revision =
      some ⟨request.link, request.operation.operationId, request.sourceRefs⟩ :=
    Assoc.get_set_self _ _ _
  have kept : t.Kept linked := {
    rows := fun _ _ _ h => h
    heads := fun _ head h => ⟨head, h, le_refl _⟩
    links := by
      intro id n row h
      have ne : (id, n) ≠ (request.link.linkId, request.link.revision) := by
        rintro same
        cases same
        rw [h] at absent
        cases absent
      exact (Assoc.get_set_of_ne ne _ _).trans h
    receipts := fun _ _ h => h }
  have after : linked.Sound host spaceId := {
    heads := sound.heads
    rows := sound.rows
    started := sound.started
    named := sound.named
    shows := sound.shows
    alone := sound.alone
    receipts := fun op receipt h => (sound.receipts op receipt h).kept kept }
  exact {
    sound := after.settle (.inr ⟨rfl, by rw [there]; rfl⟩)
    kept := kept.trans (.settle new)
    expected := expected
    advanced := by rw [expected]; rfl
    link := rfl
    row := ⟨_, there, rfl⟩
    receipt := Assoc.get_set_self _ _ _ }

theorem createLink_spec (sound : t.Sound host spaceId)
    (h : createLink spaceId request t = .ok (stored, t')) :
    (t' = t ∧ ∃ receipt row, Replayed request.operation "link"
        (targetKey request.link.linkId request.link.revision) t receipt ∧
      t.linkRow? receipt.resultId receipt.resultRevision = some row ∧ stored = row.link) ∨
    (t.receipt? request.operation.operationId = none ∧
      Linked host spaceId request t stored t') := by
  obtain ⟨⟨⟩, -, h⟩ := bind_ok h
  obtain ⟨⟨⟩, -, h⟩ := bind_ok h
  obtain ⟨⟨⟩, -, h⟩ := bind_ok h
  obtain ⟨-, h⟩ := raiseIf_bind_ok h
  obtain ⟨found, looked, h⟩ := bind_ok h
  rcases receiptFor_ok looked with ⟨rfl, new⟩ | ⟨receipt, rfl, replayed⟩
  · exact .inr ⟨new, insertLink_spec sound new h⟩
  · simp only at h
    split at h
    · rename_i row there
      cases h
      exact .inl ⟨rfl, receipt, row, replayed, there, rfl⟩
    · cases h

end Link

end Unchain.MemorySpace
