import Unchain.MemorySpace.Entries

/-!
The durable tables of one workspace and the transactions on them
(`persistence/sqlite_memory_v2.py`).

A table is a map by its primary key. A transaction either gives its result and the tables after
it, or raises and leaves the tables as they were. Rows hold their records: the canonical JSON of
a row, its digests and the content-addressed files are folded into it.
-/

namespace Unchain.MemorySpace

open Lib Lib.Utf8 Lib.Effect Journal Python

/-! ### Errors of the workspace ports -/

variable (message : String)

/-- `WorkspaceRepositoryError`. -/
def repositoryError : PyError := .raised "WorkspaceRepositoryError" message

/-- `RepositoryConflictError`. -/
def conflictError : PyError := .raised "RepositoryConflictError" message

/-- `RepositoryNotFoundError`. -/
def notFoundError : PyError := .raised "RepositoryNotFoundError" message

/-- `RepositoryScopeError`. -/
def scopeError : PyError := .raised "RepositoryScopeError" message

/-- `SQLiteMemoryV2StoreIntegrityError`. -/
def storeIntegrityError : PyError :=
  .raised "SQLiteMemoryV2StoreIntegrityError" message

/-! ### Tables -/

structure EntryRow where
  entry : MemoryEntry
  pathKey : String
  operationId : String
  object : Option Bytes
deriving DecidableEq

structure EntryHead where
  currentRevision : Int
  pathKey : String
  deleted : Bool
  updatedSeq : Int
deriving DecidableEq

structure MemoryLink where
  linkId : String
  sourceEntryRef : ResourceRef
  targetRef : ResourceRef
  relation : String
  revision : Int
deriving DecidableEq

structure LinkRow where
  link : MemoryLink
  operationId : String
  sourceRefs : List ResourceRef
deriving DecidableEq

structure OperationReceipt where
  payloadSha256 : String
  targetKind : String
  targetKey : String
  resultId : String
  resultRevision : Int
deriving DecidableEq

/-- The rows of one space; `revision` is the revision of the space itself. -/
structure Tables where
  revision : Int
  heads : List (String × EntryHead)
  revisions : List ((String × Int) × EntryRow)
  links : List ((String × Int) × LinkRow)
  receipts : List (String × OperationReceipt)
deriving DecidableEq

/-- A space that was just bound. -/
def Tables.fresh : Tables := ⟨1, [], [], [], []⟩

namespace Tables

def head? (t : Tables) (entryId : String) : Option EntryHead := Assoc.get entryId t.heads

/-- `_entry_revision_row`. -/
def revisionRow? (t : Tables) (entryId : String) (revision : Int) : Option EntryRow :=
  Assoc.get (entryId, revision) t.revisions

/-- `_current_entry_row`. -/
def currentRow? (t : Tables) (entryId : String) : Option EntryRow :=
  (t.head? entryId).bind fun head => t.revisionRow? entryId head.currentRevision

def linkRow? (t : Tables) (linkId : String) (revision : Int) : Option LinkRow :=
  Assoc.get (linkId, revision) t.links

def receipt? (t : Tables) (operationId : String) : Option OperationReceipt :=
  Assoc.get operationId t.receipts

end Tables

/-! ### Requests -/

structure WorkspaceMutationRequest where
  entry : MemoryEntry
  expectedRevision : Option Int
  expectedSpaceRevision : Int
  operation : OperationRef
  content : Option Bytes
  recursive : Bool

/-- `WorkspaceMutationRequest.__post_init__`. -/
def WorkspaceMutationRequest.checked (request : WorkspaceMutationRequest) :
    Except PyError WorkspaceMutationRequest := do
  raiseIf (request.expectedRevision.any (· < 1))
    (modelValidationError "expected_revision must be at least 1")
  raiseIf (request.expectedSpaceRevision < 1)
    (modelValidationError "expected_space_revision must be at least 1")
  raiseIf (request.recursive && (!request.entry.deleted || request.entry.kind ≠ .folder))
    (.valueError "recursive mutations require an archived folder entry")
  .ok request

structure WorkspaceLinkRequest where
  link : MemoryLink
  sourceEntryRef : ResourceRef
  expectedSpaceRevision : Int
  sourceRefs : List ResourceRef
  operation : OperationRef

variable (host : WorkspaceHost) (spaceId : String)

/-! ### Receipts -/

/-- `_receipt`. -/
def receiptFor (operation : OperationRef) (targetKind targetKey : String) (t : Tables) :
    Except PyError (Option OperationReceipt) :=
  match t.receipt? operation.operationId with
  | none => .ok none
  | some row =>
    if row.payloadSha256 ≠ operation.payloadSha256 || row.targetKind ≠ targetKind
        || row.targetKey ≠ targetKey then
      .error (conflictError "operation payload or durable target changed")
    else .ok (some row)

/-- `f"{id}@{revision}"`. -/
def targetKey (id : String) (revision : Int) : String := id ++ "@" ++ toString revision

/-- `_advance_space` and `_claim_receipt`. -/
def settle (operation : OperationRef) (targetKind resultId : String) (resultRevision : Int)
    (expectedSpaceRevision : Int) (t : Tables) : Tables :=
  { t with
    revision := expectedSpaceRevision + 1
    receipts := Assoc.set operation.operationId
      ⟨operation.payloadSha256, targetKind, targetKey resultId resultRevision, resultId,
        resultRevision⟩ t.receipts }

/-! ### Entry mutations -/

def descendants (path : String) (t : Tables) : List EntryRow :=
  let key := (pathKey host path).toList
  let prefixKey := key.rdropWhile (· = '/') ++ ['/']
  let below := t.heads.filter fun head =>
    !head.2.deleted && prefixKey.isPrefixOf head.2.pathKey.toList
  let listed := below.mergeSort fun a b =>
    a.2.pathKey < b.2.pathKey || (a.2.pathKey = b.2.pathKey && a.1 ≤ b.1)
  listed.filterMap fun head => t.revisionRow? head.1 head.2.currentRevision

def collides (entryId key : String) (t : Tables) : Bool :=
  t.heads.any fun head => head.2.pathKey = key && !head.2.deleted && head.1 ≠ entryId

/-- `_write_entry_revision`, with the constraints of the two tables. -/
def writeEntryRevision (entry : MemoryEntry) (operationId : String) (object : Option Bytes)
    (t : Tables) : Except PyError Tables :=
  let key := pathKey host entry.path
  if (t.revisionRow? entry.entryId entry.revision).isSome
      || entry.contentRef.isSome ≠ object.isSome then
    .error (conflictError "workspace mutation operation or revision conflicted")
  else if !entry.deleted && collides entry.entryId key t then
    .error (conflictError "path collision")
  else .ok { t with
    revisions := Assoc.set (entry.entryId, entry.revision) ⟨entry, key, operationId, object⟩
      t.revisions
    heads := Assoc.set entry.entryId ⟨entry.revision, key, entry.deleted, entry.updatedSeq⟩
      t.heads }

def persisted (request : WorkspaceMutationRequest) (current : Option EntryRow) :
    Except PyError (MemoryEntry × Option Bytes) :=
  let entry := request.entry
  match request.content, current with
  | some content, _ => do
    let ref ← ResourceRef.make host.toHost (.str "memory_content")
      (.str (entry.entryId ++ "-content")) (.int entry.revision) (.str spaceId)
    let stored ← MemoryEntry.checked host { entry with contentRef := some ref }
    .ok (stored, some content)
  | none, some row =>
    if entry.contentRef.isNone && row.entry.contentRef.isSome then do
      let stored ← MemoryEntry.checked host { entry with contentRef := row.entry.contentRef }
      .ok (stored, row.object)
    else if entry.contentRef ≠ row.entry.contentRef then
      .error (conflictError "content reference changed without content bytes")
    else .ok (entry, row.object)
  | none, none => .ok (entry, none)

def checkContent (entry : MemoryEntry) (object : Option Bytes) : Except PyError Unit :=
  match entry.kind with
  | .folder | .link =>
    raiseIf (entry.contentRef.isSome || object.isSome)
      (conflictError "entry kind cannot reference durable content")
  | .markdown | .image =>
    raiseIf (entry.contentRef.isNone || object.isNone)
      (conflictError "content entry requires durable object bytes")

/-- The tombstones of a recursive archive, one descendant after the other. -/
def archiveEach (request : WorkspaceMutationRequest) :
    List EntryRow → Tables → Except PyError Tables
  | [], t => .ok t
  | row :: rows, t => do
    let tombstone ← MemoryEntry.checked host { row.entry with
      revision := row.entry.revision + 1
      updatedSeq := request.entry.updatedSeq
      sourceRefs := request.entry.sourceRefs
      deleted := true }
    let t ← writeEntryRevision host tombstone request.operation.operationId row.object t
    archiveEach request rows t

variable (request : WorkspaceMutationRequest) (t : Tables)

/-- The checks of `apply` against the stored rows; the rows below the entry. -/
def checkMutation : Except PyError (List EntryRow) := do
  let entry := request.entry
  let current := t.currentRow? entry.entryId
  let below := match current with
    | some row => if row.entry.kind = .folder then descendants host row.entry.path t else []
    | none => []
  raiseIf (t.revision ≠ request.expectedSpaceRevision) (conflictError "space revision changed")
  raiseIf (entry.updatedSeq ≠ request.expectedSpaceRevision + 1)
    (conflictError "updated sequence did not advance with the space")
  raiseIf (current.map (·.entry.revision) ≠ request.expectedRevision)
    (conflictError "entry revision changed")
  raiseIf (entry.revision ≠ (current.map (·.entry.revision + 1)).getD 1)
    (conflictError "entry revision must advance exactly once")
  raiseIf (entry.deleted && !below.isEmpty && !request.recursive)
    (conflictError "folder contains active descendants")
  raiseIf (collides entry.entryId (pathKey host entry.path) t) (conflictError "path collision")
  .ok below

/-- The part of `apply` behind its receipt. -/
def mutate : Except PyError (MemoryEntry × Tables) := do
  let below ← checkMutation host request t
  let (stored, object) ← persisted host spaceId request (t.currentRow? request.entry.entryId)
  checkContent stored object
  let t ← archiveEach host request
    (if request.entry.deleted && request.recursive then below else []) t
  let t ← writeEntryRevision host stored request.operation.operationId object t
  .ok (stored, settle request.operation "entry" stored.entryId stored.revision
    request.expectedSpaceRevision t)

def apply : Except PyError (MemoryEntry × Tables) := do
  let entry := request.entry
  raiseIf (entry.spaceId ≠ spaceId) (scopeError "entry belongs to another workspace")
  let receipt ← receiptFor request.operation "entry" (targetKey entry.entryId entry.revision) t
  match receipt with
  | some row =>
    match t.revisionRow? row.resultId row.resultRevision with
    | some stored => .ok (stored.entry, t)
    | none => .error (storeIntegrityError
        "workspace operation receipt lost its entry revision")
  | none => mutate host spaceId request t

/-! ### Relation links -/

/-- `_require_memory_ref`. -/
def requireMemoryRef (ref : ResourceRef) : Except PyError Unit :=
  raiseIf (ref.kind ≠ "memory" || ref.fragment ≠ spaceId)
    (scopeError "memory reference is outside the bound workspace")

/-- `_current_ref_entry`. -/
def currentRefEntry (ref : ResourceRef) (t : Tables) : Except PyError MemoryEntry := do
  requireMemoryRef spaceId ref
  match t.currentRow? ref.resourceId with
  | none => .error (notFoundError "linked entry was not found")
  | some row =>
    if row.entry.revision ≠ ref.revision || row.entry.deleted then
      .error (conflictError "linked entry reference is not current")
    else .ok row.entry

/-- The part of `create_link` behind its receipt. -/
def insertLink (request : WorkspaceLinkRequest) (t : Tables) :
    Except PyError (MemoryLink × Tables) := do
  let link := request.link
  raiseIf (t.revision ≠ request.expectedSpaceRevision) (conflictError "space revision changed")
  let _ ← currentRefEntry spaceId request.sourceEntryRef t
  let _ ← currentRefEntry spaceId link.targetRef t
  raiseIf (link.revision ≠ 1) (conflictError "new memory link must start at revision one")
  raiseIf (t.linkRow? link.linkId link.revision).isSome
    (conflictError "memory link operation or identifier conflicted")
  let row : LinkRow := ⟨link, request.operation.operationId, request.sourceRefs⟩
  let t := { t with links := Assoc.set (link.linkId, link.revision) row t.links }
  .ok (link, settle request.operation "link" link.linkId link.revision
    request.expectedSpaceRevision t)

def createLink (request : WorkspaceLinkRequest) (t : Tables) :
    Except PyError (MemoryLink × Tables) := do
  let link := request.link
  requireMemoryRef spaceId request.sourceEntryRef
  requireMemoryRef spaceId link.sourceEntryRef
  requireMemoryRef spaceId link.targetRef
  raiseIf (link.sourceEntryRef ≠ request.sourceEntryRef)
    (scopeError "link source reference changed")
  let receipt ← receiptFor request.operation "link" (targetKey link.linkId link.revision) t
  match receipt with
  | some row =>
    match t.linkRow? row.resultId row.resultRevision with
    | some stored => .ok (stored.link, t)
    | none => .error (storeIntegrityError "workspace operation receipt lost its memory link")
  | none => insertLink spaceId request t

/-! ### Reads -/

def readEntry (ref : ResourceRef) (t : Tables) : Except PyError MemoryEntry := do
  requireMemoryRef spaceId ref
  match t.revisionRow? ref.resourceId ref.revision with
  | none => .error (notFoundError "entry revision was not found")
  | some row => .ok row.entry

def readCurrentEntry (entryId : String) (t : Tables) : Except PyError MemoryEntry := do
  let normalized ← requiredIdentifier host.toHost "entry_id" (.str entryId)
  match t.currentRow? normalized with
  | none => .error (notFoundError "entry was not found")
  | some row => .ok row.entry

end Unchain.MemorySpace
