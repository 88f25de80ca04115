import Unchain.Lib.Process
import Unchain.Lib.Windows
import Unchain.MemorySpace.Repository

/-!
The workspace service and its vector index (`memory/workspace/service.py`, `operations.py`,
`search.py`).

A call of the service is one program. It reads the repository, lets one transaction through, and
then has the index follow. Every answer of the repository is one transaction of its own; what the
index does is up to its surroundings, which may also fail.
-/

namespace Unchain.MemorySpace

open Lib Lib.Utf8 Lib.Process Journal Python

structure IndexChunk where
  chunkId : String
  entryRef : ResourceRef
  text : String

inductive WorkspaceCmd where
  | readEntry (ref : ResourceRef)
  | readCurrentEntry (entryId : String)
  | apply (request : WorkspaceMutationRequest)
  | createLink (request : WorkspaceLinkRequest)
  | supersede (entryRef : ResourceRef) (deleted : Bool)
  | upsert (chunks : List IndexChunk)

/-- Of the index it is told whether a call went through. -/
def workspaceCalls : Interface where
  Cmd := WorkspaceCmd
  Answer
    | .readEntry _ => Except PyError MemoryEntry
    | .readCurrentEntry _ => Except PyError MemoryEntry
    | .apply _ => Except PyError MemoryEntry
    | .createLink _ => Except PyError MemoryLink
    | .supersede _ _ => Bool
    | .upsert _ => Bool

abbrev WorkspaceProg := Prog workspaceCalls PyError

variable (host : WorkspaceHost) (spaceId : String)

/-! ### Operations -/

/-- `build_operation_ref`. -/
def buildOperationRef (operationId domain : String) (payload : Value) :
    Except PyError OperationRef := do
  let identifier ← requiredIdentifier host.toHost "operation_id" (.str operationId)
  let encoded ← canonicalJson host.display
    (.dict [("domain", .str domain), ("payload", payload)])
  .ok ⟨identifier, host.sha256 encoded⟩

/-- The normalised arguments that an operation id is bound to. -/
inductive OperationPayload where
  | write (entryRef : Option ResourceRef) (path description : String) (kind : MemoryEntryKind)
      (expectedSpaceRevision : Int) (sourceRefs : List ResourceRef) (contentSha256 : String)
      (contentBytes : Nat) (mediaType linkUrl : String) (tags : List String)
  | move (ref : ResourceRef) (newPath : String) (expectedSpaceRevision : Int)
      (sourceRefs : List ResourceRef)
  | archive (ref : ResourceRef) (recursive : Bool) (expectedSpaceRevision : Int)
      (sourceRefs : List ResourceRef)
  | relation (sourceRef targetRef : ResourceRef) (relation : String) (expectedSpaceRevision : Int)
      (sourceRefs : List ResourceRef)

namespace OperationPayload

def domain : OperationPayload → String
  | .write .. => "workspace.entry.write"
  | .move .. => "workspace.entry.move"
  | .archive .. => "workspace.entry.archive"
  | .relation .. => "workspace.relation.create"

def refs (sourceRefs : List ResourceRef) : Value := .list (sourceRefs.map ResourceRef.toDict)

def fields : OperationPayload → Dict
  | .write entryRef path description kind expected sourceRefs contentSha256 contentBytes mediaType
      linkUrl tags =>
      [("entry_ref", (entryRef.map ResourceRef.toDict).getD .none), ("path", .str path),
        ("description", .str description), ("kind", .str kind.text),
        ("expected_space_revision", .int expected), ("source_refs", refs sourceRefs),
        ("content_sha256", .str contentSha256), ("content_bytes", .int contentBytes),
        ("media_type", .str mediaType), ("link_url", .str linkUrl),
        ("tags", .list (tags.map .str))]
  | .move ref newPath expected sourceRefs =>
    [("ref", ref.toDict), ("new_path", .str newPath), ("expected_space_revision", .int expected),
      ("source_refs", refs sourceRefs)]
  | .archive ref recursive expected sourceRefs =>
    [("ref", ref.toDict), ("recursive", .bool recursive),
      ("expected_space_revision", .int expected), ("source_refs", refs sourceRefs)]
  | .relation sourceRef targetRef named expected sourceRefs =>
    [("source_ref", sourceRef.toDict), ("target_ref", targetRef.toDict),
      ("relation", .str named), ("expected_space_revision", .int expected),
      ("source_refs", refs sourceRefs)]

def operation (operationId : String) (payload : OperationPayload) : Except PyError OperationRef :=
  buildOperationRef host operationId payload.domain (.dict payload.fields)

end OperationPayload

/-- `_stable_id`. -/
def stableId (idPrefix : String) (operation : OperationRef) : String :=
  let bound := spaceId.toList ++ '\x00' :: operation.operationId.toList
  idPrefix ++ "-" ++ String.ofList ((host.sha256 (encode bound)).toList.take 32)

/-! ### The vector index -/

def maxVectorChunkChars : Nat := 10000
def vectorBodyChars : Nat := 8000
def vectorBodyOverlap : Nat := 256
def vectorMetadataChars : Nat := 1500

variable (entry : MemoryEntry)

/-- The text every chunk of an entry starts with. -/
def indexMetadata : List Char :=
  (stripChars (['\n'].intercalate [entry.path.toList, entry.name.toList,
    entry.description.toList, [' '].intercalate (entry.tags.map String.toList)])).take
      vectorMetadataChars

def bodyText (content : Option Bytes) : List Char :=
  match entry.kind, content with
  | .markdown, some bytes => (decodeReplace true bytes).1
  | _, _ => []

def indexBodies (content : Option Bytes) : List (List Char) :=
  let body := bodyText entry content
  let bodies := Windows.windows vectorBodyChars (vectorBodyChars - vectorBodyOverlap) body.length
    body
  if bodies = [] then [[]] else bodies

def chunkText (body : List Char) : List Char :=
  if body = [] then indexMetadata entry else indexMetadata entry ++ '\n' :: '\n' :: body

/-- `IndexChunk.__post_init__`. -/
def IndexChunk.checked (chunk : IndexChunk) : Except PyError IndexChunk :=
  if strip chunk.chunkId = "" then .error (modelValidationError "chunk_id is invalid")
  else if strip chunk.text = "" || chunk.text.toList.contains '\x00'
      || chunk.text.length > maxVectorChunkChars then
    .error (modelValidationError "index text is invalid")
  else .ok chunk

/-- `f"workspace-{digest[:24]}-{ordinal}"`. -/
def chunkId (ordinal : Nat) : String :=
  let named := entry.spaceId.toList ++ '\x00' :: entry.entryId.toList ++
    '\x00' :: (toString entry.revision).toList
  "workspace-" ++ String.ofList ((host.sha256 (encode named)).toList.take 24) ++ "-" ++
    toString ordinal

def entryChunks (content : Option Bytes) : List IndexChunk :=
  (indexBodies entry content).mapIdx fun ordinal body =>
    ⟨chunkId host entry ordinal, entry.ref, String.ofList (chunkText entry body)⟩

/-- `index_entry`. -/
def indexEntry (content : Option Bytes) : WorkspaceProg Bool := do
  Prog.raiseIf (entry.spaceId ≠ spaceId)
    (scopeError "repository returned a foreign workspace entry")
  if !host.indexed then pure false
  else .call (.supersede entry.ref entry.deleted) fun done =>
    if !done then pure false
    else if entry.deleted then pure true
    else do
      let chunks ← Prog.lift ((entryChunks host entry content).mapM IndexChunk.checked)
      .call (.upsert chunks) .ret

/-! ### Reads -/

/-- `_require_bound_entry_ref`. -/
def requireBoundEntryRef (ref : ResourceRef) : Except PyError Unit :=
  Effect.raiseIf (ref.kind ≠ "memory" || ref.fragment ≠ spaceId)
    (scopeError "reference does not belong to the bound workspace")

/-- `_validate_entry`. -/
def validateEntry : Except PyError Unit := do
  Effect.raiseIf (entry.spaceId ≠ spaceId)
    (scopeError "repository returned a foreign workspace entry")
  let _ ← canonicalEntryPath host entry.path
  let name ← virtualName host entry.path
  Effect.raiseIf (entry.name ≠ name)
    (repositoryError "entry name does not match its virtual path")

/-- `_read_entry_ref`. -/
def readEntryRef (ref : ResourceRef) : WorkspaceProg MemoryEntry := do
  Prog.lift (requireBoundEntryRef spaceId ref)
  let entry ← (.call (.readEntry ref) Prog.lift : WorkspaceProg MemoryEntry)
  Prog.lift (validateEntry host spaceId entry)
  Prog.raiseIf (entry.entryId ≠ ref.resourceId || entry.revision ≠ ref.revision)
    (scopeError "repository returned a different entry revision")
  pure entry

/-- `_read_current_entry_ref`. -/
def readCurrentEntryRef (ref : ResourceRef) : WorkspaceProg MemoryEntry := do
  let historical ← readEntryRef host spaceId ref
  let current ← (.call (.readCurrentEntry ref.resourceId) Prog.lift : WorkspaceProg MemoryEntry)
  Prog.lift (validateEntry host spaceId current)
  Prog.raiseIf (current.entryId ≠ ref.resourceId)
    (scopeError "repository returned a different current entry")
  Prog.raiseIf current.deleted (conflictError "archived entries cannot be used")
  Prog.raiseIf (current.revision ≠ ref.revision || current ≠ historical)
    (conflictError "entry reference is not current")
  pure current

/-! ### Mutations -/

/-- `_positive_revision`. -/
def positiveRevision (value : Int) : Except PyError Int :=
  if value < 1 then .error (.valueError "expected_space_revision must be a positive integer")
  else .ok value

def sourceKinds : List String := ["artifact", "checkpoint", "context_event", "handoff", "memory"]

/-- One round of `_authorize_source_refs`. -/
def authorizeSourceRef (ref : ResourceRef) : Except PyError ResourceRef := do
  Effect.raiseIf (!sourceKinds.contains ref.kind)
    (scopeError "source reference kind is not allowed")
  let canonical ← host.authorize ref
  Effect.raiseIf (canonical ≠ ref)
    (scopeError "reference authorizer changed the source reference")
  .ok ref

/-- `_authorize_source_refs`, which must leave at least one. -/
def provenance (sourceRefs : List ResourceRef) (missing : String) :
    Except PyError (List ResourceRef) := do
  let authorized ← sourceRefs.mapM (authorizeSourceRef host)
  Effect.raiseIf authorized.isEmpty (modelValidationError missing)
  .ok authorized

def missingProvenance : String := "entry revisions require fresh source provenance"

def diverges (asked stored : MemoryEntry) (content : Option Bytes) : Bool :=
  stored.entryId ≠ asked.entryId || stored.revision ≠ asked.revision
    || stored.updatedSeq ≠ asked.updatedSeq || stored.path ≠ asked.path
    || stored.name ≠ asked.name || stored.description ≠ asked.description
    || stored.kind ≠ asked.kind || stored.tags ≠ asked.tags || stored.mediaType ≠ asked.mediaType
    || stored.linkUrl ≠ asked.linkUrl || stored.deleted ≠ asked.deleted
    || stored.sourceRefs ≠ asked.sourceRefs
    || (content.isNone && stored.contentRef ≠ asked.contentRef)

def MemoryEntryKind.hasContent : MemoryEntryKind → Bool
  | .markdown | .image => true
  | .folder | .link => false

/-- What `_apply` does with the entry it is answered. -/
def acceptStored (request : WorkspaceMutationRequest) (stored : MemoryEntry) :
    WorkspaceProg MemoryEntry := do
  Prog.lift (validateEntry host spaceId stored)
  Prog.raiseIf (diverges request.entry stored request.content)
    (repositoryError "mutation capability returned a divergent entry")
  Prog.raiseIf (request.entry.kind.hasContent && stored.contentRef.isNone)
    (repositoryError "content mutation did not return a durable reference")
  let _ ← indexEntry host spaceId stored request.content
  pure stored

/-- `_apply`, for a request whose entry has the sequence behind the expected revision. -/
def applyRequest (request : WorkspaceMutationRequest) : WorkspaceProg MemoryEntry := do
  let request ← Prog.lift request.checked
  let stored ← (.call (.apply request) Prog.lift : WorkspaceProg MemoryEntry)
  acceptStored host spaceId request stored

/-- The arguments of `_write`. -/
structure WriteArgs where
  entryRef : Option ResourceRef
  path : String
  description : String
  kind : MemoryEntryKind
  expectedSpaceRevision : Int
  sourceRefs : List ResourceRef
  operationId : String
  content : Option Bytes
  mediaType : String
  linkUrl : String
  tags : Option (List String)

def maxWriteBytes : Nat := 256 * 1024

/-- `_validate_write_content`. -/
def validateWriteContent (content : Bytes) : Except PyError Unit := do
  Effect.raiseIf (content = []) (modelValidationError "content must not be empty")
  Effect.raiseIf (content.length > maxWriteBytes)
    (modelValidationError "content must not exceed 262144 bytes")

/-- `_required_text(media_type).casefold() if media_type else ""`. -/
def normalizedMediaType (mediaType : String) : Except PyError String :=
  if mediaType = "" then .ok ""
  else (requiredText host.toHost 255 false "media_type" (.str mediaType)).map host.casefold

def normalizedLinkUrl (linkUrl : String) : Except PyError String :=
  if linkUrl = "" then .ok "" else canonicalMemoryLinkUrl host linkUrl

/-- What `_write` normalises before it reads. -/
structure WritePrelude where
  path : String
  description : String
  expected : Int
  sources : List ResourceRef

def writePrelude (args : WriteArgs) : Except PyError WritePrelude := do
  let path ← canonicalEntryPath host args.path
  let description ← meaningfulDescription host args.description
  let expected ← positiveRevision args.expectedSpaceRevision
  let sources ← provenance host args.sourceRefs missingProvenance
  .ok ⟨path, description, expected, sources⟩

/-- The tags of a write: those it was given, or those of the entry it updates. -/
def writeTags (current : Option MemoryEntry) : Option (List String) → Except PyError (List String)
  | some tags => canonicalMemoryTags host tags
  | none => .ok ((current.map (·.tags)).getD [])

/-- The draft that the redactor sees. -/
def writeDraft (args : WriteArgs) (first : WritePrelude) (current : Option MemoryEntry) :
    Except PyError WorkspaceWriteDraft := do
  let mediaType ← normalizedMediaType host args.mediaType
  let linkUrl ← normalizedLinkUrl host args.linkUrl
  let tags ← writeTags host current args.tags
  .ok ⟨first.path, first.description, args.kind, args.content, mediaType, linkUrl, tags⟩

def redactionFailed : PyError := repositoryError "workspace content redaction failed"

def validateDraftContent : Option Bytes → Except PyError Unit
  | some content => validateWriteContent content
  | none => .ok ()

/-- What the redactor leaves is normalised again. -/
def normalizedDraft (draft : WorkspaceWriteDraft) : Except PyError WorkspaceWriteDraft := do
  let path ← canonicalEntryPath host draft.path
  let description ← meaningfulDescription host draft.description
  let mediaType ← normalizedMediaType host draft.mediaType
  let linkUrl ← normalizedLinkUrl host draft.linkUrl
  let tags ← canonicalMemoryTags host draft.tags
  validateDraftContent draft.content
  Effect.raiseIf (draft.kind = .image && !"image/".toList.isPrefixOf mediaType.toList)
    (modelValidationError "image entries require an image MIME type")
  .ok ⟨path, description, draft.kind, draft.content, mediaType, linkUrl, tags⟩

def redactedDraft (draft : WorkspaceWriteDraft) : Except PyError WorkspaceWriteDraft := do
  let redacted ← (host.redact draft).mapError fun _ => redactionFailed
  Effect.raiseIf (redacted.kind ≠ draft.kind || redacted.content.isNone ≠ draft.content.isNone)
    redactionFailed
  (normalizedDraft host redacted).mapError fun _ => redactionFailed

def writePayload (args : WriteArgs) (first : WritePrelude) (draft : WorkspaceWriteDraft) :
    OperationPayload :=
  .write args.entryRef draft.path draft.description args.kind first.expected first.sources
    ((draft.content.map host.sha256).getD "") (draft.content.getD []).length draft.mediaType
    draft.linkUrl draft.tags

/-- What `_write` asks the repository for, by what its entry reference reads as. -/
def writeRequest (args : WriteArgs) (first : WritePrelude) (current : Option MemoryEntry) :
    Except PyError WorkspaceMutationRequest := do
  let draft ← writeDraft host args first current
  let draft ← redactedDraft host draft
  let operation ← (writePayload host args first draft).operation host args.operationId
  let name ← virtualName host draft.path
  let entry ← MemoryEntry.checked host
    { entryId := (current.map (·.entryId)).getD (stableId host spaceId "memory" operation)
      spaceId := spaceId
      path := draft.path
      name := name
      description := draft.description
      kind := args.kind
      revision := (current.map (·.revision + 1)).getD 1
      updatedSeq := first.expected + 1
      contentRef := current.bind (·.contentRef)
      sourceRefs := first.sources
      tags := draft.tags
      mediaType := draft.mediaType
      linkUrl := draft.linkUrl
      deleted := false }
  .ok ⟨entry, current.map (·.revision), first.expected, operation, draft.content, false⟩

/-- `_read_entry_ref(entry_ref)`, if there is one, for an update. -/
def readForUpdate (kind : MemoryEntryKind) :
    Option ResourceRef → WorkspaceProg (Option MemoryEntry)
  | none => pure none
  | some ref => do
    let current ← readEntryRef host spaceId ref
    Prog.raiseIf current.deleted (conflictError "archived entries cannot be updated")
    Prog.raiseIf (current.kind ≠ kind) (conflictError "entry kind cannot change")
    pure (some current)

/-- `_write`. -/
def write (args : WriteArgs) : WorkspaceProg MemoryEntry := do
  let first ← Prog.lift (writePrelude host args)
  let current ← readForUpdate host spaceId args.kind args.entryRef
  let request ← Prog.lift (writeRequest host spaceId args first current)
  applyRequest host spaceId request

/-! ### The calls -/

structure MoveArgs where
  ref : ResourceRef
  newPath : String
  expectedSpaceRevision : Int
  sourceRefs : List ResourceRef
  operationId : String

structure ArchiveArgs where
  ref : ResourceRef
  expectedSpaceRevision : Int
  sourceRefs : List ResourceRef
  operationId : String
  recursive : Bool

structure LinkArgs where
  sourceRef : ResourceRef
  targetRef : ResourceRef
  relation : String
  expectedSpaceRevision : Int
  sourceRefs : List ResourceRef
  operationId : String

/-- What `move` asks the repository for. -/
def moveRequest (args : MoveArgs) (current : MemoryEntry) :
    Except PyError WorkspaceMutationRequest := do
  let path ← canonicalEntryPath host args.newPath
  let expected ← positiveRevision args.expectedSpaceRevision
  let sources ← provenance host args.sourceRefs missingProvenance
  let operation ← (OperationPayload.move args.ref path expected sources).operation host
    args.operationId
  let name ← virtualName host path
  let entry ← MemoryEntry.checked host { current with
    path := path
    name := name
    revision := current.revision + 1
    updatedSeq := expected + 1
    sourceRefs := sources }
  .ok ⟨entry, some current.revision, expected, operation, none, false⟩

def move (args : MoveArgs) : WorkspaceProg MemoryEntry := do
  let current ← readEntryRef host spaceId args.ref
  Prog.raiseIf current.deleted (conflictError "archived entries cannot be moved")
  let request ← Prog.lift (moveRequest host args current)
  applyRequest host spaceId request

/-- What `archive` asks the repository for. -/
def archiveRequest (args : ArchiveArgs) (current : MemoryEntry) :
    Except PyError WorkspaceMutationRequest := do
  Effect.raiseIf (args.recursive && current.kind ≠ .folder)
    (conflictError "recursive archive requires a folder entry")
  let expected ← positiveRevision args.expectedSpaceRevision
  let sources ← provenance host args.sourceRefs missingProvenance
  let operation ← (OperationPayload.archive args.ref args.recursive expected sources).operation host
    args.operationId
  let entry ← MemoryEntry.checked host { current with
    revision := current.revision + 1
    updatedSeq := expected + 1
    sourceRefs := sources
    deleted := true }
  .ok ⟨entry, some current.revision, expected, operation, none, args.recursive⟩

def archive (args : ArchiveArgs) : WorkspaceProg MemoryEntry := do
  let current ← readEntryRef host spaceId args.ref
  Prog.raiseIf current.deleted (conflictError "entry is already archived")
  let request ← Prog.lift (archiveRequest host args current)
  applyRequest host spaceId request

/-- What `link` asks the repository for. -/
def linkRequest (args : LinkArgs) : Except PyError WorkspaceLinkRequest := do
  let relation ← requiredText host.toHost 128 true "relation" (.str args.relation)
  let sources ← provenance host args.sourceRefs "relation links require source provenance"
  let expected ← positiveRevision args.expectedSpaceRevision
  let operation ← (OperationPayload.relation args.sourceRef args.targetRef relation expected
    sources).operation host args.operationId
  .ok ⟨⟨stableId host spaceId "link" operation, args.sourceRef, args.targetRef, relation, 1⟩,
    args.sourceRef, expected, sources, operation⟩

def link (args : LinkArgs) : WorkspaceProg MemoryLink := do
  let _ ← readCurrentEntryRef host spaceId args.sourceRef
  let _ ← readCurrentEntryRef host spaceId args.targetRef
  let request ← Prog.lift (linkRequest host spaceId args)
  let stored ← (.call (.createLink request) Prog.lift : WorkspaceProg MemoryLink)
  Prog.raiseIf (stored ≠ request.link)
    (repositoryError "link capability returned a divergent relation")
  pure stored

/-- The arguments all of the entry writers have. -/
structure EntryArgs where
  path : String
  description : String
  expectedSpaceRevision : Int
  sourceRefs : List ResourceRef
  operationId : String
  tags : Option (List String)

inductive WorkspaceCall where
  | createFolder (args : EntryArgs)
  | writeMarkdown (args : EntryArgs) (entryRef : Option ResourceRef) (content : Bytes)
  | writeImage (args : EntryArgs) (entryRef : Option ResourceRef) (content : Bytes)
      (mediaType : String)
  | createLink (args : EntryArgs) (entryRef : Option ResourceRef) (url : String)
  | move (args : MoveArgs)
  | archive (args : ArchiveArgs)
  | link (args : LinkArgs)

inductive WorkspaceResult where
  | entry (e : MemoryEntry)
  | link (l : MemoryLink)
deriving DecidableEq

variable (args : EntryArgs) (entryRef : Option ResourceRef)

/-- The arguments a writer hands on to `_write`. -/
def EntryArgs.toWrite (kind : MemoryEntryKind) (content : Option Bytes)
    (mediaType linkUrl : String) : WriteArgs :=
  ⟨entryRef, args.path, args.description, kind, args.expectedSpaceRevision, args.sourceRefs,
    args.operationId, content, mediaType, linkUrl, args.tags⟩

/-- What `write_markdown` hands on. -/
def markdownArgs (content : Bytes) : Except PyError WriteArgs := do
  validateWriteContent content
  .ok (args.toWrite entryRef .markdown (some content) "text/markdown" "")

/-- What `write_image` hands on. -/
def imageArgs (content : Bytes) (mediaType : String) : Except PyError WriteArgs := do
  validateWriteContent content
  let normalized ← requiredText host.toHost 255 false "media_type" (.str mediaType)
  Effect.raiseIf (!"image/".toList.isPrefixOf (host.casefold normalized).toList)
    (modelValidationError "image entries require an image MIME type")
  .ok (args.toWrite entryRef .image (some content) (host.casefold normalized) "")

/-- What `create_link` hands on. -/
def linkEntryArgs (url : String) : Except PyError WriteArgs := do
  let linkUrl ← canonicalMemoryLinkUrl host url
  .ok (args.toWrite entryRef .link none "" linkUrl)

def writeCall (args : Except PyError WriteArgs) : WorkspaceProg WorkspaceResult := do
  let args ← Prog.lift args
  .entry <$> write host spaceId args

def WorkspaceCall.run : WorkspaceCall → WorkspaceProg WorkspaceResult
  | .createFolder args => writeCall host spaceId (.ok (args.toWrite none .folder none "" ""))
  | .writeMarkdown args entryRef content =>
    writeCall host spaceId (markdownArgs args entryRef content)
  | .writeImage args entryRef content mediaType =>
    writeCall host spaceId (imageArgs host args entryRef content mediaType)
  | .createLink args entryRef url => writeCall host spaceId (linkEntryArgs host args entryRef url)
  | .move args => .entry <$> MemorySpace.move host spaceId args
  | .archive args => .entry <$> MemorySpace.archive host spaceId args
  | .link args => .link <$> MemorySpace.link host spaceId args

end Unchain.MemorySpace
