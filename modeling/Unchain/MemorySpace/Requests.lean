import Unchain.MemorySpace.Indexing
import Unchain.MemorySpace.Sound

/-!
What each call asks the repository for.

A call that writes an entry reads at most one stored revision, which never changes, so its request
is a function of its arguments and of any tables that have that revision (`mutation_kept`).
`Grounded` is what makes the store take such a request without a later complaint.
-/

namespace Unchain.MemorySpace

open Lib Lib.Utf8 Lib.Effect Journal Python

variable (host : WorkspaceHost) (spaceId : String)

/-- What `_read_entry_ref` comes to in one state of the tables. -/
def refEntry (ref : ResourceRef) (t : Tables) : Except PyError MemoryEntry := do
  requireBoundEntryRef spaceId ref
  let entry ← MemorySpace.readEntry spaceId ref t
  validateEntry host spaceId entry
  raiseIf (entry.entryId ≠ ref.resourceId || entry.revision ≠ ref.revision)
    (scopeError "repository returned a different entry revision")
  .ok entry

/-- What `readForUpdate` comes to. -/
def updatedEntry (kind : MemoryEntryKind) (t : Tables) :
    Option ResourceRef → Except PyError (Option MemoryEntry)
  | none => .ok none
  | some ref => do
    let current ← refEntry host spaceId ref t
    raiseIf current.deleted (conflictError "archived entries cannot be updated")
    raiseIf (current.kind ≠ kind) (conflictError "entry kind cannot change")
    .ok (some current)

def WriteArgs.mutation (args : WriteArgs) (t : Tables) :
    Except PyError WorkspaceMutationRequest := do
  let first ← writePrelude host args
  let current ← updatedEntry host spaceId args.kind t args.entryRef
  writeRequest host spaceId args first current

def MoveArgs.mutation (args : MoveArgs) (t : Tables) : Except PyError WorkspaceMutationRequest := do
  let current ← refEntry host spaceId args.ref t
  raiseIf current.deleted (conflictError "archived entries cannot be moved")
  moveRequest host args current

def ArchiveArgs.mutation (args : ArchiveArgs) (t : Tables) :
    Except PyError WorkspaceMutationRequest := do
  let current ← refEntry host spaceId args.ref t
  raiseIf current.deleted (conflictError "entry is already archived")
  archiveRequest host args current

variable {host spaceId}

/-! ### One stored revision -/

section Reads

variable {t t' : Tables} {ref : ResourceRef} {e : MemoryEntry}

theorem refEntry_ok (h : refEntry host spaceId ref t = .ok e) :
    validateEntry host spaceId e = .ok () ∧
      ∃ row, t.revisionRow? ref.resourceId ref.revision = some row ∧ row.entry = e := by
  obtain ⟨⟨⟩, -, h⟩ := bind_ok h
  obtain ⟨entry, read, h⟩ := bind_ok h
  obtain ⟨⟨⟩, valid, h⟩ := bind_ok h
  obtain ⟨-, h⟩ := raiseIf_bind_ok h
  cases h
  obtain ⟨⟨⟩, -, read⟩ := bind_ok read
  split at read
  · cases read
  · rename_i row there
    cases read
    exact ⟨valid, row, there, rfl⟩

theorem readEntry_kept (kept : t.Kept t') (h : MemorySpace.readEntry spaceId ref t = .ok e) :
    MemorySpace.readEntry spaceId ref t' = .ok e := by
  obtain ⟨⟨⟩, bound, h⟩ := bind_ok h
  rw [MemorySpace.readEntry, bound]
  split at h
  · cases h
  · rename_i row there
    cases h
    simp only [bind, Except.bind, kept.rows _ _ _ there]

theorem refEntry_kept (kept : t.Kept t') (h : refEntry host spaceId ref t = .ok e) :
    refEntry host spaceId ref t' = .ok e := by
  obtain ⟨⟨⟩, bound, h⟩ := bind_ok h
  obtain ⟨entry, read, h⟩ := bind_ok h
  rw [refEntry, bound]
  rw [readEntry_kept kept read]
  exact h

theorem updatedEntry_kept {kind : MemoryEntryKind} {entryRef : Option ResourceRef}
    {current : Option MemoryEntry} (kept : t.Kept t')
    (h : updatedEntry host spaceId kind t entryRef = .ok current) :
    updatedEntry host spaceId kind t' entryRef = .ok current := by
  cases entryRef with
  | none => exact h
  | some ref =>
    obtain ⟨e, read, h⟩ := bind_ok h
    rw [updatedEntry, refEntry_kept kept read]
    exact h

end Reads

section Kept

variable {t t' : Tables} {q : WorkspaceMutationRequest}

theorem WriteArgs.mutation_kept {args : WriteArgs} (kept : t.Kept t')
    (h : args.mutation host spaceId t = .ok q) : args.mutation host spaceId t' = .ok q := by
  obtain ⟨first, prelude, h⟩ := bind_ok h
  obtain ⟨current, read, h⟩ := bind_ok h
  rw [WriteArgs.mutation, prelude]
  rw [updatedEntry_kept kept read]
  exact h

theorem MoveArgs.mutation_kept {args : MoveArgs} (kept : t.Kept t')
    (h : args.mutation host spaceId t = .ok q) : args.mutation host spaceId t' = .ok q := by
  obtain ⟨current, read, h⟩ := bind_ok h
  rw [MoveArgs.mutation, refEntry_kept kept read]
  exact h

theorem ArchiveArgs.mutation_kept {args : ArchiveArgs} (kept : t.Kept t')
    (h : args.mutation host spaceId t = .ok q) : args.mutation host spaceId t' = .ok q := by
  obtain ⟨current, read, h⟩ := bind_ok h
  rw [ArchiveArgs.mutation, refEntry_kept kept read]
  exact h

end Kept

/-! ### Requests the store takes without complaint -/

/-- The name of an entry, stripped and normalised by its record, is still the last segment of its
path. -/
def NameKept (host : WorkspaceHost) (path : String) : Prop :=
  requiredText host.toHost 256 false "name" (.str (lastSegment path)) = .ok (lastSegment path)

def ContentIndexable (host : WorkspaceHost) (kind : MemoryEntryKind) (content : Option Bytes) :
    Prop :=
  host.indexed = true → kind = .markdown → ∀ bytes, content = some bytes →
    NoZero (decodeReplace true bytes).1

/-- What makes the store take a request and the service the answer. -/
structure Grounded (host : WorkspaceHost) (spaceId : String) (q : WorkspaceMutationRequest)
    (t : Tables) : Prop where
  valid : q.entry.Valid host
  space : q.entry.spaceId = spaceId
  accepted : validateEntry host spaceId q.entry = .ok ()
  indexable : q.entry.deleted = false → ContentIndexable host q.entry.kind q.content
  bare : q.content = none → ∀ n, q.expectedRevision = some n →
    ∃ row, t.revisionRow? q.entry.entryId n = some row ∧ row.entry.contentRef = q.entry.contentRef

theorem Grounded.kept {q : WorkspaceMutationRequest} {t t' : Tables} (kept : t.Kept t')
    (h : Grounded host spaceId q t) : Grounded host spaceId q t' where
  valid := h.valid
  space := h.space
  accepted := h.accepted
  indexable := h.indexable
  bare none n expected := by
    obtain ⟨row, there, same⟩ := h.bare none n expected
    exact ⟨row, kept.rows _ _ _ there, same⟩

theorem Grounded.chunks {q : WorkspaceMutationRequest} {t : Tables} {stored : MemoryEntry}
    (h : Grounded host spaceId q t) (indexed : host.indexed = true) (alive : q.entry.deleted = false)
    (same : stored = { q.entry with contentRef := stored.contentRef }) :
    (entryChunks host stored q.content).mapM IndexChunk.checked =
      .ok (entryChunks host stored q.content) := by
  rw [same, entryChunks_withContent]
  refine entryChunks_checked h.valid ?_
  unfold bodyText
  split
  · rename_i bytes kind content
    exact h.indexable alive indexed kind bytes content
  · exact List.not_mem_nil

theorem validateEntry_of {e : MemoryEntry} {path : String} (space : e.spaceId = spaceId)
    (canonical : canonicalEntryPath host e.path = .ok path) (name : e.name = lastSegment path) :
    validateEntry host spaceId e = .ok () := by
  unfold validateEntry virtualName
  rw [space, canonical]
  simp [raiseIf, bind, Except.bind, Except.map, name]

theorem validateEntry_ok {e : MemoryEntry} (h : validateEntry host spaceId e = .ok ()) :
    e.spaceId = spaceId ∧ ∃ path, canonicalEntryPath host e.path = .ok path ∧
      e.name = lastSegment path := by
  obtain ⟨space, h⟩ := raiseIf_bind_ok h
  obtain ⟨path, canonical, h⟩ := bind_ok h
  obtain ⟨name, named, h⟩ := bind_ok h
  rw [virtualName, canonical] at named
  cases named
  have same := raiseIf_ok.mp h
  simp only [decide_eq_false_iff_not, not_not] at space same
  exact ⟨space, path, canonical, same⟩

theorem virtualName_ok {value name : String} (h : virtualName host value = .ok name) :
    ∃ path, canonicalEntryPath host value = .ok path ∧ name = lastSegment path := by
  obtain ⟨path, canonical, eq⟩ := map_ok h
  exact ⟨path, canonical, eq.symm⟩

section Requests

variable {t : Tables} {q : WorkspaceMutationRequest}

theorem ArchiveArgs.grounded {args : ArchiveArgs} (sound : t.Sound host spaceId)
    (h : args.mutation host spaceId t = .ok q) : Grounded host spaceId q t := by
  obtain ⟨current, read, h⟩ := bind_ok h
  obtain ⟨-, h⟩ := raiseIf_bind_ok h
  obtain ⟨-, h⟩ := raiseIf_bind_ok h
  obtain ⟨expected, -, h⟩ := bind_ok h
  obtain ⟨sources, -, h⟩ := bind_ok h
  obtain ⟨operation, -, h⟩ := bind_ok h
  obtain ⟨entry, made, h⟩ := bind_ok h
  cases h
  obtain ⟨accepted, row, there, rfl⟩ := refEntry_ok read
  have named := sound.named _ _ _ there
  have p := passed_of_checked made
  have valid := named.valid.revised p.revision.1 p.updatedSeq.1 sources true
  have eq : entry = _ := (Except.ok.inj (valid.symm.trans made)).symm
  subst eq
  obtain ⟨space, path, canonical, name⟩ := validateEntry_ok accepted
  exact {
    valid := valid
    space := space
    accepted := validateEntry_of space canonical name
    indexable := fun alive => by cases alive
    bare := by
      rintro - n ⟨⟩
      refine ⟨row, ?_, rfl⟩
      simp only [named.entryId, named.revision]
      exact there }

theorem MoveArgs.grounded (normal : Normal host) {args : MoveArgs} (sound : t.Sound host spaceId)
    (kept : ∀ path, canonicalEntryPath host args.newPath = .ok path → NameKept host path)
    (h : args.mutation host spaceId t = .ok q) : Grounded host spaceId q t := by
  obtain ⟨current, read, h⟩ := bind_ok h
  obtain ⟨-, h⟩ := raiseIf_bind_ok h
  obtain ⟨path, canonical, h⟩ := bind_ok h
  obtain ⟨expected, -, h⟩ := bind_ok h
  obtain ⟨sources, -, h⟩ := bind_ok h
  obtain ⟨operation, -, h⟩ := bind_ok h
  obtain ⟨name, virtual, h⟩ := bind_ok h
  obtain ⟨entry, made, h⟩ := bind_ok h
  cases h
  obtain ⟨accepted, row, there, rfl⟩ := refEntry_ok read
  have named := sound.named _ _ _ there
  have again := canonicalEntryPath_again normal canonical
  have name_eq : name = lastSegment path := by
    obtain ⟨p, canonicalP, eq⟩ := virtualName_ok virtual
    cases again.symm.trans canonicalP
    exact eq
  have p := passed_of_checked made
  have o := passed_of_checked named.valid
  have path_eq : entry.path = path :=
    Except.ok.inj (p.path.symm.trans (canonicalEntryPath_ok again).1)
  have entry_name : entry.name = lastSegment path := by
    have := kept path canonical
    rw [NameKept, ← name_eq] at this
    rw [← name_eq]
    exact Except.ok.inj (p.name.symm.trans this)
  have space : entry.spaceId = spaceId := by
    rw [← named.spaceId]
    exact Except.ok.inj (p.spaceId.symm.trans o.spaceId)
  have entryId : entry.entryId = row.entry.entryId := Except.ok.inj (p.entryId.symm.trans o.entryId)
  exact {
    valid := MemoryEntry.checked_again normal made
    space := space
    accepted := validateEntry_of space (by rw [path_eq]; exact again) entry_name
    indexable := fun _ _ _ bytes none => by cases none
    bare := by
      rintro - n ⟨⟩
      refine ⟨row, ?_, p.contentRef.symm⟩
      simp only [entryId, named.entryId, named.revision]
      exact there }

/-- What a write normalises to keeps its name and can be indexed. -/
def WriteArgs.Tidy (host : WorkspaceHost) (args : WriteArgs) : Prop :=
  ∀ first current draft redacted, writePrelude host args = .ok first →
    writeDraft host args first current = .ok draft → redactedDraft host draft = .ok redacted →
    NameKept host redacted.path ∧ ContentIndexable host args.kind redacted.content

theorem normalizedDraft_path {draft normalized : WorkspaceWriteDraft}
    (h : normalizedDraft host draft = .ok normalized) :
    canonicalEntryPath host draft.path = .ok normalized.path := by
  obtain ⟨path, canonical, h⟩ := bind_ok h
  obtain ⟨description, -, h⟩ := bind_ok h
  obtain ⟨mediaType, -, h⟩ := bind_ok h
  obtain ⟨linkUrl, -, h⟩ := bind_ok h
  obtain ⟨tags, -, h⟩ := bind_ok h
  obtain ⟨⟨⟩, -, h⟩ := bind_ok h
  obtain ⟨-, h⟩ := raiseIf_bind_ok h
  cases h
  exact canonical

theorem redactedDraft_ok (normal : Normal host) {draft redacted : WorkspaceWriteDraft}
    (h : redactedDraft host draft = .ok redacted) :
    canonicalEntryPath host redacted.path = .ok redacted.path := by
  obtain ⟨left, -, h⟩ := bind_ok h
  obtain ⟨-, h⟩ := raiseIf_bind_ok h
  exact canonicalEntryPath_again normal (normalizedDraft_path (except_mapError_ok h))

theorem updatedEntry_ok {kind : MemoryEntryKind} {entryRef : Option ResourceRef}
    {current : MemoryEntry} (h : updatedEntry host spaceId kind t entryRef = .ok (some current)) :
    current.deleted = false ∧ current.kind = kind ∧
      ∃ ref row, entryRef = some ref ∧ t.revisionRow? ref.resourceId ref.revision = some row ∧
        row.entry = current := by
  cases entryRef with
  | none => cases h
  | some ref =>
    obtain ⟨e, read, h⟩ := bind_ok h
    obtain ⟨alive, h⟩ := raiseIf_bind_ok h
    obtain ⟨same, h⟩ := raiseIf_bind_ok h
    cases h
    simp only [decide_eq_false_iff_not, not_not] at same
    obtain ⟨-, row, there, eq⟩ := refEntry_ok read
    exact ⟨alive, same, ref, row, rfl, there, eq⟩

theorem WriteArgs.grounded (normal : Normal host)
    (bound : requiredIdentifier host.toHost "space_id" (.str spaceId) = .ok spaceId)
    {args : WriteArgs} (sound : t.Sound host spaceId) (tidy : args.Tidy host)
    (h : args.mutation host spaceId t = .ok q) : Grounded host spaceId q t := by
  obtain ⟨first, prelude, h⟩ := bind_ok h
  obtain ⟨current, read, h⟩ := bind_ok h
  obtain ⟨draft, drafts, h⟩ := bind_ok h
  obtain ⟨redacted, redacts, h⟩ := bind_ok h
  obtain ⟨operation, -, h⟩ := bind_ok h
  obtain ⟨name, virtual, h⟩ := bind_ok h
  obtain ⟨entry, made, h⟩ := bind_ok h
  cases h
  obtain ⟨named, indexable⟩ := tidy first current draft redacted prelude drafts redacts
  have again := redactedDraft_ok normal redacts
  have name_eq : name = lastSegment redacted.path := by
    obtain ⟨p, canonical, eq⟩ := virtualName_ok virtual
    cases again.symm.trans canonical
    exact eq
  have p := passed_of_checked made
  have path_eq : entry.path = redacted.path :=
    Except.ok.inj (p.path.symm.trans (canonicalEntryPath_ok again).1)
  have entry_name : entry.name = lastSegment redacted.path := by
    rw [NameKept, ← name_eq] at named
    rw [← name_eq]
    exact Except.ok.inj (p.name.symm.trans named)
  have space : entry.spaceId = spaceId := Except.ok.inj (p.spaceId.symm.trans bound)
  exact {
    valid := MemoryEntry.checked_again normal made
    space := space
    accepted := validateEntry_of space (by rw [path_eq]; exact again) entry_name
    indexable := fun _ => by rw [p.kind]; exact indexable
    bare := by
      rintro - n expected
      cases current with
      | none => cases expected
      | some e =>
        cases expected
        obtain ⟨-, -, ref, row, -, there, rfl⟩ := updatedEntry_ok read
        have stored := sound.named _ _ _ there
        have o := passed_of_checked stored.valid
        have entryId : entry.entryId = row.entry.entryId :=
          Except.ok.inj (p.entryId.symm.trans o.entryId)
        refine ⟨row, ?_, p.contentRef.symm⟩
        simp only [entryId, stored.entryId, stored.revision]
        exact there }

end Requests

end Unchain.MemorySpace
