import Unchain.Journal.Models
import Unchain.Python.Json

/-!
Memory entries and the texts they are made of (`memory/workspace/models.py`, `paths.py`).

An entry is checked by its constructor, and again whenever `replace` copies it. What the checks
leave is a fixed point of them (`MemoryEntry.checked_again`), so a stored entry reads back as it
was written.
-/

namespace Unchain.MemorySpace

open Lib Lib.Utf8 Lib.Effect Journal Python

inductive MemoryEntryKind where
  | folder | markdown | image | link
deriving DecidableEq

def MemoryEntryKind.text : MemoryEntryKind → String
  | .folder => "folder"
  | .markdown => "markdown"
  | .image => "image"
  | .link => "link"

structure MemoryEntry where
  entryId : String
  spaceId : String
  path : String
  name : String
  description : String
  kind : MemoryEntryKind
  revision : Int
  updatedSeq : Int
  contentRef : Option ResourceRef
  sourceRefs : List ResourceRef
  tags : List String
  mediaType : String
  linkUrl : String
  deleted : Bool
deriving DecidableEq

structure WorkspaceWriteDraft where
  path : String
  description : String
  kind : MemoryEntryKind
  content : Option Bytes
  mediaType : String
  linkUrl : String
  tags : List String

/-- What the workspace takes from its surroundings: Unicode data, URL parsing, SHA-256, the
reference authorizer, the content redactor, and whether a vector index is configured. -/
structure WorkspaceHost extends Journal.Host where
  nfkc : String → String
  unquote : String → String
  /-- Unicode category `C`, `Zl` or `Zp`. -/
  unprintable : Char → Bool
  /-- The checks `canonical_memory_link_url` makes of the parsed URL. -/
  checkLinkUrl : String → Except PyError Unit
  sha256 : Bytes → String
  authorize : ResourceRef → Except PyError ResourceRef
  redact : WorkspaceWriteDraft → Except PyError WorkspaceWriteDraft
  indexed : Bool

variable (host : WorkspaceHost)

/-! ### Paths -/

def hostRoots : List String :=
  ["applications", "bin", "cores", "dev", "documents and settings", "etc", "home", "library",
   "mnt", "network", "opt", "private", "program files", "program files (x86)", "programdata",
   "proc", "root", "run", "sbin", "sys", "system", "tmp", "users", "usr", "var", "volumes",
   "windows"]

/-- `_WINDOWS_DRIVE_RE.match`. -/
def startsAtDrive : List Char → Bool
  | '/' :: c :: ':' :: rest =>
    (('A' ≤ c && c ≤ 'Z') || ('a' ≤ c && c ≤ 'z')) && (rest.isEmpty || rest.head? = some '/')
  | _ => false

def isControl (c : Char) : Bool := c.toNat < 32 || c.toNat = 127 || host.unprintable c

/-- The checks of `_virtual_path` on the normalised text. -/
def checkPath (field : String) (normalized : String) : Except PyError String :=
  let text := normalized.toList
  let segments := (text.splitOn '/').drop 1
  let first := String.ofList (segments.head?.getD [])
  if normalized ≠ strip normalized || host.unquote normalized ≠ normalized then
    .error (modelValidationError (field ++ " is not canonical"))
  else if text.head? ≠ some '/' || "//".toList.isPrefixOf text || text.contains '\\'
      || "file:".toList.isPrefixOf (host.casefold normalized).toList || startsAtDrive text
      || text.contains '\x00' then
    .error (modelValidationError (field ++ " must be a canonical virtual path"))
  else if (segments.any fun s => s = [] || s = ['.'] || s = ['.', '.']) && normalized ≠ "/" then
    .error (modelValidationError (field ++ " contains an invalid segment"))
  else if hostRoots.contains (host.casefold first) then
    .error (modelValidationError (field ++ " looks like a host filesystem path"))
  else if host.casefold first = "file:" || first.toList.getLast? = some ':' then
    .error (modelValidationError (field ++ " looks like a host filesystem path"))
  else if normalized.length > 2048 then
    .error (modelValidationError (field ++ " is too long"))
  else .ok normalized

/-- `_virtual_path`. -/
def virtualPath (field : String) (value : String) : Except PyError String :=
  if value.toList.any (isControl host) then
    .error (modelValidationError (field ++ " contains control characters"))
  else checkPath host field (host.nfkc value)

def placeholderNames : List String :=
  ["file", "folder", "memory", "new", "new file", "note", "temp", "tmp", "untitled"]

def maxWorkspacePathChars : Nat := 1024

/-- `path.rsplit("/", 1)[-1]`. -/
def lastSegment (path : String) : String :=
  String.ofList (path.toList.rtakeWhile fun c => c ≠ '/')

/-- `name.rsplit(".", 1)[0]`. -/
def stem (name : String) : String :=
  if name.toList.contains '.' then
    String.ofList ((name.toList.rdropWhile fun c => c ≠ '.').dropLast)
  else name

/-- The checks of `canonical_entry_path` on a virtual path. -/
def checkEntryPath (path : String) : Except PyError String :=
  if path = "/" || path.length > maxWorkspacePathChars then
    .error (modelValidationError "path must name a workspace entry")
  else
    let stem := host.casefold (strip (stem (lastSegment path)))
    if stem.length < 2 || placeholderNames.contains stem then
      .error (modelValidationError "path must use a specific, meaningful name")
    else .ok path

def canonicalEntryPath (value : String) : Except PyError String := do
  let path ← virtualPath host "path" value
  checkEntryPath host path

def virtualName (value : String) : Except PyError String :=
  (canonicalEntryPath host value).map lastSegment

/-- `_path_key`. -/
def pathKey (path : String) : String := host.casefold (host.nfkc path)

/-! ### Other texts -/

def meaningfulDescription (value : String) : Except PyError String :=
  let description := host.nfc (strip value)
  if description.isEmpty || description.length > 8192 || description.toList.contains '\x00'
      || (description.toList.any fun c => c.toNat < 32 && c ≠ '\n' && c ≠ '\t')
      || placeholderNames.contains (host.casefold description) then
    .error (modelValidationError
      "description must explain what the entry contains and when it is useful")
  else .ok description

/-- `canonical_memory_tags`. -/
def canonicalMemoryTags (tags : List String) : Except PyError (List String) := do
  let normalized ← tags.mapM fun tag => requiredText host.toHost 64 true "tags" (.str tag)
  if normalized.Nodup then .ok normalized
  else .error (modelValidationError "tags must be unique")

def canonicalMemoryLinkUrl (value : String) : Except PyError String := do
  let linkUrl ← requiredText host.toHost 8192 false "link_url" (.str value)
  host.checkLinkUrl linkUrl
  .ok linkUrl

/-! ### Entries -/

/-- `"/" in media_type`. -/
def hasSlash (text : String) : Bool := text.toList.contains '/'

def checkKind (kind : MemoryEntryKind) (contentRef : Option ResourceRef)
    (mediaType linkUrl : String) : Except PyError String :=
  match kind with
  | .folder =>
    if contentRef.isSome || mediaType ≠ "" || linkUrl ≠ "" then
      .error (modelValidationError "folder entries cannot carry content metadata")
    else .ok linkUrl
  | .markdown =>
    if linkUrl ≠ "" then
      .error (modelValidationError "markdown entries cannot carry a link URL")
    else if mediaType ≠ "" && mediaType ≠ "text/markdown" && mediaType ≠ "text/plain" then
      .error (modelValidationError "markdown entries require a text MIME type")
    else .ok linkUrl
  | .image =>
    if linkUrl ≠ "" then
      .error (modelValidationError "image entries cannot carry a link URL")
    else if mediaType ≠ "" && !"image/".toList.isPrefixOf mediaType.toList then
      .error (modelValidationError "image entries require an image MIME type")
    else .ok linkUrl
  | .link =>
    if contentRef.isSome || mediaType ≠ "" then
      .error (modelValidationError "link entries require an HTTP(S) URL only")
    else canonicalMemoryLinkUrl host linkUrl

/-- `MemoryEntry.__post_init__`, which `replace` runs again on the copy. -/
def MemoryEntry.checked (e : MemoryEntry) : Except PyError MemoryEntry := do
  let entryId ← requiredIdentifier host.toHost "entry_id" (.str e.entryId)
  let spaceId ← requiredIdentifier host.toHost "space_id" (.str e.spaceId)
  let path ← virtualPath host "path" e.path
  let name ← requiredText host.toHost 256 false "name" (.str e.name)
  let description ← optionalText host.toHost 8192 "description" (.str e.description)
  let revision ← boundedInt 1 "revision" (.int e.revision)
  let updatedSeq ← boundedInt 0 "updated_seq" (.int e.updatedSeq)
  let tags ← canonicalMemoryTags host e.tags
  let mediaType ← optionalText host.toHost 255 "media_type" (.str e.mediaType)
  let linkUrl ← optionalText host.toHost 8192 "link_url" (.str e.linkUrl)
  raiseIf (mediaType ≠ "" && !hasSlash mediaType)
    (modelValidationError "media_type must be a MIME type")
  let linkUrl ← checkKind host e.kind e.contentRef mediaType linkUrl
  .ok { e with
    entryId := entryId
    spaceId := spaceId
    path := path
    name := name
    description := description
    revision := revision
    updatedSeq := updatedSeq
    tags := tags
    mediaType := mediaType
    linkUrl := linkUrl }

def MemoryEntry.ref (e : MemoryEntry) : ResourceRef := ⟨"memory", e.entryId, e.revision, e.spaceId⟩

/-! ### Checked entries -/

/-- What is relied on of Unicode normalisation: it is idempotent, makes no white space at the ends
of a text, and brings in no control characters. -/
structure Normal (host : WorkspaceHost) : Prop where
  nfc : Normalizes host.nfc
  nfkc : ∀ s, host.nfkc (host.nfkc s) = host.nfkc s
  printable : ∀ s, s.toList.any (isControl host) = false →
    (host.nfkc s).toList.any (isControl host) = false

variable {host} {field path : String}

theorem checkPath_eq {text : String} (h : checkPath host field text = .ok path) : path = text := by
  unfold checkPath at h
  simp only at h
  split at h
  · cases h
  split at h
  · cases h
  split at h
  · cases h
  split at h
  · cases h
  split at h
  · cases h
  split at h
  · cases h
  cases h
  rfl

variable {value : String}

theorem virtualPath_eq (h : virtualPath host field value = .ok path) :
    value.toList.any (isControl host) = false ∧ path = host.nfkc value ∧
      checkPath host field path = .ok path := by
  unfold virtualPath at h
  split at h
  · cases h
  · rename_i printable
    have eq := checkPath_eq h
    subst eq
    exact ⟨by simpa using printable, rfl, h⟩

theorem virtualPath_again (normal : Normal host) (h : virtualPath host field value = .ok path) :
    virtualPath host field path = .ok path := by
  obtain ⟨printable, rfl, passed⟩ := virtualPath_eq h
  unfold virtualPath
  rw [if_neg (by simp [normal.printable _ printable]), normal.nfkc]
  exact passed

theorem canonicalEntryPath_ok (h : canonicalEntryPath host value = .ok path) :
    virtualPath host "path" value = .ok path ∧ checkEntryPath host path = .ok path := by
  obtain ⟨p, virtual, passed⟩ := bind_ok h
  have eq : p = path := by
    unfold checkEntryPath at passed
    simp only at passed
    split at passed
    · cases passed
    split at passed
    · cases passed
    cases passed
    rfl
  subst eq
  exact ⟨virtual, passed⟩

theorem canonicalEntryPath_of (virtual : virtualPath host "path" value = .ok path)
    (passed : checkEntryPath host path = .ok path) : canonicalEntryPath host value = .ok path := by
  rw [canonicalEntryPath, virtual]
  exact passed

theorem canonicalEntryPath_again (normal : Normal host)
    (h : canonicalEntryPath host value = .ok path) : canonicalEntryPath host path = .ok path := by
  obtain ⟨virtual, passed⟩ := canonicalEntryPath_ok h
  exact canonicalEntryPath_of (virtualPath_again normal virtual) passed

theorem canonicalMemoryTags_again (normal : Normal host) {tags normalized : List String}
    (h : canonicalMemoryTags host tags = .ok normalized) :
    canonicalMemoryTags host normalized = .ok normalized := by
  obtain ⟨ts, each, distinct⟩ := bind_ok h
  split at distinct
  · rename_i nodup
    cases distinct
    have again : normalized.mapM (fun tag => requiredText host.toHost 64 true "tags" (.str tag)) =
        .ok normalized := by
      refine mapM_iff.mpr ?_
      have passed := mapM_iff.mp each
      clear each nodup h
      induction passed with
      | nil => exact .nil
      | cons first _ ih => exact .cons (requiredText_again normal.nfc first) ih
    rw [canonicalMemoryTags, again]
    exact if_pos nodup
  · cases distinct

variable {url : String}

theorem canonicalMemoryLinkUrl_again (normal : Normal host)
    (h : canonicalMemoryLinkUrl host value = .ok url) :
    canonicalMemoryLinkUrl host url = .ok url := by
  obtain ⟨u, text, h⟩ := bind_ok h
  obtain ⟨⟨⟩, allowed, h⟩ := bind_ok h
  cases h
  rw [canonicalMemoryLinkUrl, requiredText_again normal.nfc text]
  change host.checkLinkUrl url >>= _ = _
  rw [allowed]
  rfl

variable {contentRef : Option ResourceRef} {kind : MemoryEntryKind} {linkUrl mediaType : String}

theorem checkKind_again (normal : Normal host)
    (h : checkKind host kind contentRef mediaType linkUrl = .ok url) :
    checkKind host kind contentRef mediaType url = .ok url := by
  cases kind with
  | link =>
    rw [checkKind] at h ⊢
    split at h
    · cases h
    · rename_i plain
      rw [if_neg plain]
      exact canonicalMemoryLinkUrl_again normal h
  | folder =>
    rw [checkKind] at h ⊢
    split at h
    · cases h
    · rename_i plain
      cases h
      rw [if_neg plain]
  | markdown | image =>
    rw [checkKind] at h ⊢
    split at h
    · cases h
    split at h
    · cases h
    rename_i plain text
    cases h
    rw [if_neg plain, if_neg text]

variable {v : Value}

theorem optionalText_of_required (normal : Normal host) {maximum : Nat} {t : String}
    (h : requiredText host.toHost maximum false field v = .ok t) :
    optionalText host.toHost maximum field (.str t) = .ok t := by
  unfold optionalText
  split
  · rename_i absent
    have empty : Value.str t = .str "" := by
      simpa [Value.isNone, Value.eqPy_str_iff] using absent
    cases empty
    rfl
  · exact requiredText_again normal.nfc h

theorem checkKind_optional (normal : Normal host)
    (optional : optionalText host.toHost 8192 "link_url" v = .ok linkUrl)
    (h : checkKind host kind contentRef mediaType linkUrl = .ok url) :
    optionalText host.toHost 8192 "link_url" (.str url) = .ok url := by
  have kept (same : url = linkUrl) :
      optionalText host.toHost 8192 "link_url" (.str url) = .ok url := by
    subst same
    exact optionalText_again normal.nfc optional
  cases kind with
  | link =>
    rw [checkKind] at h
    split at h
    · cases h
    · obtain ⟨u, text, h⟩ := bind_ok h
      obtain ⟨⟨⟩, -, h⟩ := bind_ok h
      cases h
      exact optionalText_of_required normal text
  | folder =>
    rw [checkKind] at h
    split at h
    · cases h
    · exact kept (Except.ok.inj h).symm
  | markdown | image =>
    rw [checkKind] at h
    split at h
    · cases h
    split at h
    · cases h
    exact kept (Except.ok.inj h).symm

/-- An entry and what its constructor makes of it, field by field. -/
structure Passed (host : WorkspaceHost) (e made : MemoryEntry) : Prop where
  entryId : requiredIdentifier host.toHost "entry_id" (.str e.entryId) = .ok made.entryId
  spaceId : requiredIdentifier host.toHost "space_id" (.str e.spaceId) = .ok made.spaceId
  path : virtualPath host "path" e.path = .ok made.path
  name : requiredText host.toHost 256 false "name" (.str e.name) = .ok made.name
  description : optionalText host.toHost 8192 "description" (.str e.description) =
    .ok made.description
  revision : 1 ≤ e.revision ∧ made.revision = e.revision
  updatedSeq : 0 ≤ e.updatedSeq ∧ made.updatedSeq = e.updatedSeq
  tags : canonicalMemoryTags host e.tags = .ok made.tags
  mediaType : optionalText host.toHost 255 "media_type" (.str e.mediaType) = .ok made.mediaType
  slash : (made.mediaType ≠ "" && !hasSlash made.mediaType) = false
  linkUrl : ∃ url, optionalText host.toHost 8192 "link_url" (.str e.linkUrl) = .ok url ∧
    checkKind host e.kind e.contentRef made.mediaType url = .ok made.linkUrl
  kind : made.kind = e.kind
  contentRef : made.contentRef = e.contentRef
  sourceRefs : made.sourceRefs = e.sourceRefs
  deleted : made.deleted = e.deleted

theorem boundedInt_int {minimum n : Int} (le : minimum ≤ n) :
    boundedInt minimum field (.int n) = .ok n := by
  rw [boundedInt, if_neg (by omega)]

variable {e made : MemoryEntry}

theorem passed_of_checked (h : e.checked host = .ok made) : Passed host e made := by
  obtain ⟨entryId, entryIdOk, h⟩ := bind_ok h
  obtain ⟨spaceId, spaceIdOk, h⟩ := bind_ok h
  obtain ⟨path, pathOk, h⟩ := bind_ok h
  obtain ⟨name, nameOk, h⟩ := bind_ok h
  obtain ⟨description, descriptionOk, h⟩ := bind_ok h
  obtain ⟨revision, revisionOk, h⟩ := bind_ok h
  obtain ⟨updatedSeq, updatedSeqOk, h⟩ := bind_ok h
  obtain ⟨tags, tagsOk, h⟩ := bind_ok h
  obtain ⟨mediaType, mediaTypeOk, h⟩ := bind_ok h
  obtain ⟨linkUrl, linkUrlOk, h⟩ := bind_ok h
  obtain ⟨slash, h⟩ := raiseIf_bind_ok h
  obtain ⟨url, kindOk, h⟩ := bind_ok h
  obtain ⟨revisionEq, revisionPos⟩ := boundedInt_eq revisionOk
  obtain ⟨seqEq, seqPos⟩ := boundedInt_eq updatedSeqOk
  cases revisionEq
  cases seqEq
  cases h
  exact {
    entryId := entryIdOk
    spaceId := spaceIdOk
    path := pathOk
    name := nameOk
    description := descriptionOk
    revision := ⟨revisionPos, rfl⟩
    updatedSeq := ⟨seqPos, rfl⟩
    tags := tagsOk
    mediaType := mediaTypeOk
    slash := slash
    linkUrl := ⟨linkUrl, linkUrlOk, kindOk⟩
    kind := rfl
    contentRef := rfl
    sourceRefs := rfl
    deleted := rfl }

theorem checked_of_passed (p : Passed host e made) : e.checked host = .ok made := by
  obtain ⟨url, urlOk, kindOk⟩ := p.linkUrl
  rw [MemoryEntry.checked, p.entryId, p.spaceId, p.path, p.name, p.description,
    boundedInt_int p.revision.1, boundedInt_int p.updatedSeq.1, p.tags, p.mediaType, urlOk]
  simp only [bind, Except.bind, p.slash, raiseIf, Bool.false_eq_true, if_false, kindOk]
  cases made
  simp only [Except.ok.injEq, MemoryEntry.mk.injEq, true_and]
  exact ⟨p.kind.symm, p.revision.2.symm, p.updatedSeq.2.symm, p.contentRef.symm,
    p.sourceRefs.symm, p.deleted.symm⟩

theorem Passed.again (normal : Normal host) (p : Passed host e made) : Passed host made made := by
  obtain ⟨url, urlOk, kindOk⟩ := p.linkUrl
  exact {
    entryId := requiredText_again normal.nfc p.entryId
    spaceId := requiredText_again normal.nfc p.spaceId
    path := virtualPath_again normal p.path
    name := requiredText_again normal.nfc p.name
    description := optionalText_again normal.nfc p.description
    revision := ⟨p.revision.2 ▸ p.revision.1, rfl⟩
    updatedSeq := ⟨p.updatedSeq.2 ▸ p.updatedSeq.1, rfl⟩
    tags := canonicalMemoryTags_again normal p.tags
    mediaType := optionalText_again normal.nfc p.mediaType
    slash := p.slash
    linkUrl := by
      refine ⟨made.linkUrl, checkKind_optional normal urlOk kindOk, ?_⟩
      rw [p.kind, p.contentRef]
      exact checkKind_again normal kindOk
    kind := rfl
    contentRef := rfl
    sourceRefs := rfl
    deleted := rfl }

/-- An entry that its constructor leaves as it is. -/
def MemoryEntry.Valid (host : WorkspaceHost) (e : MemoryEntry) : Prop := e.checked host = .ok e

theorem MemoryEntry.checked_again (normal : Normal host) (h : e.checked host = .ok made) :
    made.Valid host :=
  checked_of_passed ((passed_of_checked h).again normal)

theorem MemoryEntry.Valid.revised (valid : e.Valid host) {revision seq : Int} (pos : 1 ≤ revision)
    (nonneg : 0 ≤ seq) (sources : List ResourceRef) (deleted : Bool) :
    MemoryEntry.Valid host { e with
      revision := revision
      updatedSeq := seq
      sourceRefs := sources
      deleted := deleted } := by
  have p := passed_of_checked valid
  exact checked_of_passed {
    entryId := p.entryId
    spaceId := p.spaceId
    path := p.path
    name := p.name
    description := p.description
    revision := ⟨pos, rfl⟩
    updatedSeq := ⟨nonneg, rfl⟩
    tags := p.tags
    mediaType := p.mediaType
    slash := p.slash
    linkUrl := p.linkUrl
    kind := rfl
    contentRef := rfl
    sourceRefs := rfl
    deleted := rfl }

theorem checkKind_content {contentRef' : Option ResourceRef} {url' : String}
    (h : checkKind host kind contentRef mediaType linkUrl = .ok url)
    (h' : checkKind host kind contentRef' mediaType linkUrl = .ok url') : url' = url := by
  cases kind with
  | link | folder =>
    rw [checkKind] at h h'
    split at h
    · cases h
    split at h'
    · cases h'
    exact Except.ok.inj (h'.symm.trans h)
  | markdown | image =>
    exact Except.ok.inj (h'.symm.trans h)

/-- Another content reference is all that changes in a copy with one. -/
theorem MemoryEntry.Valid.withContent (valid : e.Valid host)
    (h : MemoryEntry.checked host { e with contentRef := contentRef } = .ok made) :
    made = { e with contentRef := contentRef } := by
  have p := passed_of_checked valid
  have q := passed_of_checked h
  obtain ⟨url, urlOk, kindOk⟩ := p.linkUrl
  obtain ⟨url', urlOk', kindOk'⟩ := q.linkUrl
  have media : made.mediaType = e.mediaType := Except.ok.inj (q.mediaType.symm.trans p.mediaType)
  have same : url' = url := Except.ok.inj (urlOk'.symm.trans urlOk)
  rw [media, same] at kindOk'
  have link : made.linkUrl = e.linkUrl := checkKind_content kindOk kindOk'
  have entryId : made.entryId = e.entryId := Except.ok.inj (q.entryId.symm.trans p.entryId)
  have spaceId : made.spaceId = e.spaceId := Except.ok.inj (q.spaceId.symm.trans p.spaceId)
  have path : made.path = e.path := Except.ok.inj (q.path.symm.trans p.path)
  have name : made.name = e.name := Except.ok.inj (q.name.symm.trans p.name)
  have description : made.description = e.description :=
    Except.ok.inj (q.description.symm.trans p.description)
  have tags : made.tags = e.tags := Except.ok.inj (q.tags.symm.trans p.tags)
  cases made
  simp only [MemoryEntry.mk.injEq]
  exact ⟨entryId, spaceId, path, name, description, q.kind, q.revision.2, q.updatedSeq.2,
    q.contentRef, q.sourceRefs, tags, media, link, q.deleted⟩

end Unchain.MemorySpace
