import Unchain.Lib.Effect
import Unchain.Python.Builtins

/-!
The records of the execution journal and the checks their constructors make.

A record is built by its `make`, which normalises and validates the fields as the
dataclass does, and is read back from a payload by its `fromDict`. The Unicode
normalisation, the SHA-256 digest of canonical JSON and the screen that freezes
a payload are given by the `Host`; nothing in this development depends on what
they compute.
-/

namespace Unchain.Journal

open Lib Python

/-- The parts of the runtime that are taken as they are: `unicodedata.normalize`,
`str.casefold`, `str.lower`, the digest of canonical JSON, `_freeze_json`, the payload sanitizer of
the projector and the printing of values. -/
structure Host where
  nfc : String → String
  casefold : String → String
  lower : String → String
  digest : Value → String
  freeze : (path : String) → Value → Except PyError Value
  sanitize : (eventType : String) → Value → Except PyError Value
  display : Display

/-- `ModelValidationError` is a `ValueError`. -/
def modelValidationError (message : String) : PyError := .valueError message

/-- `except (TypeError, ValueError): raise e`. -/
def onInvalid {α : Type} (e : PyError) : Except PyError α → Except PyError α
  | .error (.typeError _) => .error e
  | .error (.valueError _) => .error e
  | x => x

theorem onInvalid_ok {α : Type} {e : PyError} {x : Except PyError α} {a : α}
    (h : onInvalid e x = .ok a) : x = .ok a := by
  unfold onInvalid at h
  split at h
  · cases h
  · cases h
  · exact h

/-! ### Field checks -/

def isAlnum (c : Char) : Bool :=
  ('A' ≤ c && c ≤ 'Z') || ('a' ≤ c && c ≤ 'z') || ('0' ≤ c && c ≤ '9')

/-- `_IDENTIFIER_RE.fullmatch`. -/
def isIdentifier (s : String) : Bool :=
  match s.toList with
  | [] => false
  | c :: cs => isAlnum c && cs.length ≤ 255
      && cs.all fun d => isAlnum d || d = '.' || d = '_' || d = ':' || d = '-'

/-- `_SHA256_RE.fullmatch`. -/
def isSha256 (s : String) : Bool :=
  s.length = 64 && s.toList.all fun c => ('0' ≤ c && c ≤ '9') || ('a' ≤ c && c ≤ 'f')

/-- The characters of a digest. -/
theorem isSha256_char {s : String} (valid : isSha256 s = true) :
    s.length = 64 ∧ ∀ c ∈ s.toList, 48 ≤ c.toNat ∧ c.toNat < 128 := by
  rw [isSha256, Bool.and_eq_true, decide_eq_true_eq, List.all_eq_true] at valid
  refine ⟨valid.1, fun c mem => ?_⟩
  have digit := valid.2 c mem
  simp only [Bool.or_eq_true, Bool.and_eq_true, decide_eq_true_eq, Char.le_def,
    UInt32.le_iff_toNat_le, Char.toNat_val, Char.reduceToNat] at digit
  omega

/-- `re.sub(r"[^a-z0-9]+", "_", s)`: `inRun` says that the run being replaced has
already left its underscore. -/
def squeezeType : (inRun : Bool) → List Char → List Char
  | _, [] => []
  | inRun, c :: cs =>
    if ('a' ≤ c && c ≤ 'z') || ('0' ≤ c && c ≤ '9') then c :: squeezeType false cs
    else if inRun then squeezeType true cs
    else '_' :: squeezeType true cs

/-- `s.strip("_")`. -/
def stripUnderscores (cs : List Char) : List Char :=
  ((cs.dropWhile (· = '_')).reverse.dropWhile (· = '_')).reverse

section Fields

variable (host : Host)

/-- `_required_text`. -/
def requiredText (maximum : Nat) (identifier : Bool) (field : String) :
    Value → Except PyError String
  | .str s =>
    let normalized := host.nfc (strip s)
    if normalized.isEmpty || normalized.length > maximum || normalized.toList.contains '\x00' then
      .error (modelValidationError (field ++ " is invalid"))
    else if normalized.toList.any fun c => c.toNat < 32 then
      .error (modelValidationError (field ++ " contains control characters"))
    else if identifier && !isIdentifier normalized then
      .error (modelValidationError (field ++ " is not a valid identifier"))
    else .ok normalized
  | _ => .error (.typeError (field ++ " must be text"))

/-- `_required_text(value, field, identifier=True)`. -/
def requiredIdentifier (field : String) (v : Value) : Except PyError String :=
  requiredText host 256 true field v

/-- `_optional_text`. -/
def optionalText (maximum : Nat) (field : String) (v : Value) : Except PyError String :=
  if v.isNone || v.eqPy (.str "") then .ok "" else requiredText host maximum false field v

/-- `_bounded_int`. -/
def boundedInt (minimum : Int) (field : String) : Value → Except PyError Int
  | .int n =>
    if n < minimum then
      .error (modelValidationError (field ++ " must be at least " ++ toString minimum))
    else .ok n
  | _ => .error (.typeError (field ++ " must be an integer"))

/-- `_sha256`. -/
def sha256Text (field : String) : Value → Except PyError String
  | .str s =>
    if isSha256 s then .ok s
    else .error (modelValidationError (field ++ " must be a lowercase SHA-256 digest"))
  | _ => .error (modelValidationError (field ++ " must be a lowercase SHA-256 digest"))

/-- `_record_data`. -/
def recordData (schema : String) (required optional : List String) :
    Value → Except PyError Value
  | .dict es =>
    let raw := Value.dict es
    let keys := es.map Prod.fst
    let missing := required.filter fun k => !keys.contains k
    let unknown := keys.filter fun k => !("schema" :: required ++ optional).contains k
    if !(raw.get "schema").eqPy (.str schema) then
      .error (modelValidationError ("expected schema " ++ schema))
    else if !missing.isEmpty then
      .error (modelValidationError
        ("missing fields: " ++ ", ".intercalate (missing.mergeSort (· ≤ ·))))
    else if !unknown.isEmpty then
      .error (modelValidationError
        ("unknown fields: " ++ ", ".intercalate (unknown.mergeSort (· ≤ ·))))
    else .ok raw
  | _ => .error (.typeError "record must be an object")

/-- What is relied on of Unicode normalisation: it is idempotent, and it makes no white
space at the ends of a text. -/
structure Normalizes (nfc : String → String) : Prop where
  idempotent : ∀ s, nfc (nfc s) = nfc s
  trimmed : ∀ s, strip (nfc (strip s)) = nfc (strip s)

variable {host} {field t : String} {maximum : Nat} {v : Value}

theorem requiredText_again (normalizes : Normalizes host.nfc) {identifier : Bool}
    (h : requiredText host maximum identifier field v = .ok t) :
    requiredText host maximum identifier field (.str t) = .ok t := by
  unfold requiredText at h ⊢
  split at h
  · rename_i s
    have same : host.nfc (strip (host.nfc (strip s))) = host.nfc (strip s) := by
      rw [normalizes.trimmed, normalizes.idempotent]
    simp only at h
    split at h
    · cases h
    split at h
    · cases h
    split at h
    · cases h
    rename_i sized printable named
    cases h
    rw [same, if_neg sized, if_neg printable, if_neg named]
  · cases h

theorem isIdentifier_of_required (h : requiredIdentifier host field v = .ok t) :
    isIdentifier t = true := by
  unfold requiredIdentifier requiredText at h
  split at h
  · simp only at h
    split at h
    · cases h
    split at h
    · cases h
    split at h
    · cases h
    rename_i named
    cases h
    simpa using named
  · cases h

theorem optionalText_again (normalizes : Normalizes host.nfc)
    (h : optionalText host maximum field v = .ok t) :
    optionalText host maximum field (.str t) = .ok t := by
  unfold optionalText at h ⊢
  split at h
  · cases h
    rfl
  · split
    · rename_i absent
      have empty : Value.str t = .str "" := by
        simpa [Value.isNone, Value.eqPy_str_iff] using absent
      cases empty
      rfl
    · exact requiredText_again normalizes h

theorem boundedInt_eq {minimum n : Int} (h : boundedInt minimum field v = .ok n) :
    v = .int n ∧ minimum ≤ n := by
  unfold boundedInt at h
  split at h
  · split at h
    · cases h
    · cases h
      exact ⟨rfl, by omega⟩
  · cases h

variable (host)

def hasExactly (v : Value) (expected : List String) : Bool :=
  v.isDict && (v.entries.map Prod.fst).all (expected.contains ·)
    && expected.all fun k => v.hasKey k

theorem hasExactly_of_keys {es : Dict} {expected : List String}
    (keys : es.map Prod.fst = expected) : hasExactly (.dict es) expected = true := by
  subst keys
  have has : ∀ k ∈ es.map Prod.fst, (Value.dict es).hasKey k = true :=
    fun k mem => Assoc.get_isSome_iff.mpr mem
  simp only [hasExactly, Value.isDict_dict, Value.entries_dict, Bool.true_and, Bool.and_eq_true,
    List.all_eq_true, List.contains_iff_mem]
  exact ⟨fun _ mem => mem, has⟩

end Fields

/-! ### Plain texts -/

/-- A host for texts that are already normalised. -/
def plainHost : Host where
  nfc s := s
  casefold s := s
  lower s := s
  digest _ := ""
  freeze _ v := .ok v
  sanitize _ v := .ok v
  display _ := ""

theorem normalizes_plainHost : Normalizes plainHost.nfc where
  idempotent _ := rfl
  trimmed s := by
    simp only [plainHost, strip, String.toList_ofList, stripChars_idempotent]

/-! ### References -/

structure ResourceRef where
  kind : String
  resourceId : String
  revision : Int
  fragment : String
deriving DecidableEq

structure ArtifactRef where
  ref : ResourceRef
  mediaType : String
  byteLength : Int
  sha256 : String
  preview : String
deriving DecidableEq

structure EventCursor where
  storeSeq : Int
  eventId : String
deriving DecidableEq

structure GenerationRef where
  executionId : String
  generationId : String
deriving DecidableEq

structure AttemptRef where
  generation : GenerationRef
  attemptId : String
deriving DecidableEq

structure OperationRef where
  operationId : String
  payloadSha256 : String
deriving DecidableEq

/-- The execution whose journal holds the attempt's events. -/
def AttemptRef.executionId (attempt : AttemptRef) : String := attempt.generation.executionId

namespace ResourceRef

def toDict (r : ResourceRef) : Value :=
  .dict [("schema", .str "unchain.resource_ref.v1"), ("kind", .str r.kind),
    ("id", .str r.resourceId), ("revision", .int r.revision), ("fragment", .str r.fragment)]

/-- A fragment that is absolute, holds a backslash or has a dot segment. -/
def escapesReference (fragment : List Char) : Bool :=
  fragment.head? == some '/' || fragment.contains '\\'
    || (fragment.splitOn '/').any fun segment => segment = ['.'] || segment = ['.', '.']

def make (host : Host) (kind resourceId revision fragment : Value) :
    Except PyError ResourceRef := do
  let kind ← requiredIdentifier host "kind" kind
  let resourceId ← requiredIdentifier host "resource_id" resourceId
  let revision ← boundedInt 1 "revision" revision
  let fragment ← optionalText host 512 "fragment" fragment
  if escapesReference fragment.toList then
    .error (modelValidationError "fragment must be reference-local")
  else .ok ⟨kind, resourceId, revision, fragment⟩

variable {fragment kind resourceId revision : Value} {host : Host} {ref : ResourceRef}

theorem make_fields (h : make host kind resourceId revision fragment = .ok ref) :
    requiredIdentifier host "kind" kind = .ok ref.kind ∧
    requiredIdentifier host "resource_id" resourceId = .ok ref.resourceId ∧
    boundedInt 1 "revision" revision = .ok ref.revision ∧
    optionalText host 512 "fragment" fragment = .ok ref.fragment ∧
    escapesReference ref.fragment.toList = false := by
  obtain ⟨k, kindOk, h⟩ := Effect.bind_ok h
  obtain ⟨i, idOk, h⟩ := Effect.bind_ok h
  obtain ⟨n, revisionOk, h⟩ := Effect.bind_ok h
  obtain ⟨f, fragmentOk, h⟩ := Effect.bind_ok h
  split at h
  · cases h
  · rename_i isLocal
    cases h
    exact ⟨kindOk, idOk, revisionOk, fragmentOk, by simpa using isLocal⟩

theorem make_of_fields {k i f : String} {n : Int}
    (kindOk : requiredIdentifier host "kind" kind = .ok k)
    (idOk : requiredIdentifier host "resource_id" resourceId = .ok i)
    (revisionOk : boundedInt 1 "revision" revision = .ok n)
    (fragmentOk : optionalText host 512 "fragment" fragment = .ok f)
    (isLocal : escapesReference f.toList = false) :
    make host kind resourceId revision fragment = .ok ⟨k, i, n, f⟩ := by
  rw [make, kindOk, idOk, revisionOk, fragmentOk]
  simp only [bind, Except.bind, isLocal, Bool.false_eq_true, if_false]

/-- What the constructor has made sure of. -/
theorem make_spec (h : make host kind resourceId revision fragment = .ok ref) :
    isIdentifier ref.kind = true ∧ isIdentifier ref.resourceId = true ∧ 1 ≤ ref.revision := by
  obtain ⟨kindOk, idOk, revisionOk, -, -⟩ := make_fields h
  exact ⟨isIdentifier_of_required kindOk, isIdentifier_of_required idOk,
    (boundedInt_eq revisionOk).2⟩

/-- A reference that was made can be made again from its own fields. -/
theorem make_again {host : Host} (normalizes : Normalizes host.nfc)
    {kind resourceId revision fragment : Value} {ref : ResourceRef}
    (h : make host kind resourceId revision fragment = .ok ref) :
    make host (.str ref.kind) (.str ref.resourceId) (.int ref.revision) (.str ref.fragment) =
      .ok ref := by
  obtain ⟨kindOk, idOk, revisionOk, fragmentOk, isLocal⟩ := make_fields h
  obtain ⟨rfl, -⟩ := boundedInt_eq revisionOk
  exact make_of_fields (requiredText_again normalizes kindOk) (requiredText_again normalizes idOk)
    revisionOk (optionalText_again normalizes fragmentOk) isLocal

def fromDict (host : Host) (v : Value) : Except PyError ResourceRef := do
  let raw ← recordData "unchain.resource_ref.v1" ["kind", "id", "revision"] ["fragment"] v
  make host (raw.get "kind") (raw.get "id") (raw.get "revision") (raw.getD "fragment" (.str ""))

end ResourceRef

namespace ArtifactRef

def toDict (a : ArtifactRef) : Value :=
  .dict [("schema", .str "unchain.artifact_ref.v1"), ("ref", a.ref.toDict),
    ("media_type", .str a.mediaType), ("byte_length", .int a.byteLength),
    ("sha256", .str a.sha256), ("preview", .str a.preview)]

def make (host : Host) (ref : ResourceRef) (mediaType byteLength sha256 preview : Value) :
    Except PyError ArtifactRef := do
  let mediaType ← requiredText host 255 false "media_type" mediaType
  if !mediaType.toList.contains '/' then
    .error (modelValidationError "media_type must be a MIME type")
  else
    let byteLength ← boundedInt 0 "byte_length" byteLength
    let sha256 ← sha256Text "sha256" sha256
    let preview ← optionalText host 4096 "preview" preview
    .ok ⟨ref, mediaType, byteLength, sha256, preview⟩

def fromDict (host : Host) (v : Value) : Except PyError ArtifactRef := do
  let raw ← recordData "unchain.artifact_ref.v1" ["ref", "media_type", "byte_length", "sha256"]
    ["preview"] v
  let ref ← ResourceRef.fromDict host (raw.get "ref")
  make host ref (raw.get "media_type") (raw.get "byte_length") (raw.get "sha256")
    (raw.getD "preview" (.str ""))

end ArtifactRef

namespace EventCursor

def toDict (c : EventCursor) : Value :=
  .dict [("schema", .str "unchain.event_cursor.v1"), ("store_seq", .int c.storeSeq),
    ("event_id", .str c.eventId)]

def make (host : Host) (storeSeq eventId : Value) : Except PyError EventCursor := do
  let storeSeq ← boundedInt 0 "store_seq" storeSeq
  let eventId ← requiredIdentifier host "event_id" eventId
  .ok ⟨storeSeq, eventId⟩

def fromDict (host : Host) (v : Value) : Except PyError EventCursor := do
  let raw ← recordData "unchain.event_cursor.v1" ["store_seq", "event_id"] [] v
  make host (raw.get "store_seq") (raw.get "event_id")

end EventCursor

structure EventRange where
  start : EventCursor
  finish : EventCursor
deriving DecidableEq

namespace EventRange

def toDict (r : EventRange) : Value :=
  .dict [("schema", .str "unchain.event_range.v1"), ("start", r.start.toDict),
    ("end", r.finish.toDict)]

def make (start finish : EventCursor) : Except PyError EventRange :=
  if start.storeSeq > finish.storeSeq then
    .error (modelValidationError "event range start must not follow end")
  else .ok ⟨start, finish⟩

def fromDict (host : Host) (v : Value) : Except PyError EventRange := do
  let raw ← recordData "unchain.event_range.v1" ["start", "end"] [] v
  let start ← EventCursor.fromDict host (raw.get "start")
  let finish ← EventCursor.fromDict host (raw.get "end")
  make start finish

end EventRange

/-- A cursor as its constructor leaves it. -/
def EventCursor.Made (host : Host) (c : EventCursor) : Prop :=
  ∃ storeSeq eventId, EventCursor.make host storeSeq eventId = .ok c

variable {host : Host}

theorem EventCursor.fromDict_toDict (normalizes : Normalizes host.nfc) {c : EventCursor}
    (made : c.Made host) : EventCursor.fromDict host c.toDict = .ok c := by
  obtain ⟨v, w, made⟩ := made
  obtain ⟨n, bounded, made⟩ := Effect.bind_ok made
  obtain ⟨t, required, made⟩ := Effect.bind_ok made
  cases made
  obtain ⟨rfl, -⟩ := boundedInt_eq bounded
  have again : EventCursor.make host (.int n) (.str t) = .ok ⟨n, t⟩ := by
    rw [EventCursor.make, bounded, requiredIdentifier, requiredText_again normalizes required]
    rfl
  exact again

theorem EventRange.fromDict_toDict (normalizes : Normalizes host.nfc) {start finish : EventCursor}
    {r : EventRange} (madeStart : start.Made host) (madeFinish : finish.Made host)
    (made : EventRange.make start finish = .ok r) : EventRange.fromDict host r.toDict = .ok r := by
  have fields : r = ⟨start, finish⟩ := by
    unfold EventRange.make at made
    split at made
    · cases made
    · cases made
      rfl
  subst fields
  have first := EventCursor.fromDict_toDict normalizes madeStart
  have last := EventCursor.fromDict_toDict normalizes madeFinish
  have record : recordData "unchain.event_range.v1" ["start", "end"] []
      (EventRange.toDict ⟨start, finish⟩) = .ok (EventRange.toDict ⟨start, finish⟩) := rfl
  show (EventCursor.fromDict host start.toDict >>= fun _ => _) = _
  rw [first]
  show (EventCursor.fromDict host finish.toDict >>= fun _ => _) = _
  rw [last]
  exact made

namespace GenerationRef

def toDict (g : GenerationRef) : Value :=
  .dict [("schema", .str "unchain.generation_ref.v1"), ("execution_id", .str g.executionId),
    ("generation_id", .str g.generationId)]

def fromDict (host : Host) (v : Value) : Except PyError GenerationRef := do
  let raw ← recordData "unchain.generation_ref.v1" ["execution_id", "generation_id"] [] v
  let executionId ← requiredIdentifier host "execution_id" (raw.get "execution_id")
  let generationId ← requiredIdentifier host "generation_id" (raw.get "generation_id")
  .ok ⟨executionId, generationId⟩

end GenerationRef

namespace AttemptRef

def toDict (a : AttemptRef) : Value :=
  .dict [("schema", .str "unchain.attempt_ref.v1"), ("generation", a.generation.toDict),
    ("attempt_id", .str a.attemptId)]

def fromDict (host : Host) (v : Value) : Except PyError AttemptRef := do
  let raw ← recordData "unchain.attempt_ref.v1" ["generation", "attempt_id"] [] v
  let generation ← GenerationRef.fromDict host (raw.get "generation")
  let attemptId ← requiredIdentifier host "attempt_id" (raw.get "attempt_id")
  .ok ⟨generation, attemptId⟩

end AttemptRef

namespace OperationRef

def toDict (o : OperationRef) : Value :=
  .dict [("schema", .str "unchain.operation_ref.v1"), ("operation_id", .str o.operationId),
    ("payload_sha256", .str o.payloadSha256)]

def make (host : Host) (operationId payloadSha256 : Value) : Except PyError OperationRef := do
  let operationId ← requiredIdentifier host "operation_id" operationId
  let payloadSha256 ← sha256Text "payload_sha256" payloadSha256
  .ok ⟨operationId, payloadSha256⟩

def fromDict (host : Host) (v : Value) : Except PyError OperationRef := do
  let raw ← recordData "unchain.operation_ref.v1" ["operation_id", "payload_sha256"] [] v
  make host (raw.get "operation_id") (raw.get "payload_sha256")

end OperationRef

/-! ### Events -/

structure JournalAppendRequest where
  eventId : String
  eventType : String
  attempt : AttemptRef
  operation : OperationRef
  payload : Value
  resourceRefs : List ResourceRef

/-- A stored event: the request with its place in the execution's journal. -/
structure JournalEvent where
  eventId : String
  eventType : String
  attempt : AttemptRef
  operation : OperationRef
  storeSeq : Int
  payload : Value
  resourceRefs : List ResourceRef

def JournalEvent.cursor (event : JournalEvent) : EventCursor := ⟨event.storeSeq, event.eventId⟩

def JournalAppendRequest.store (request : JournalAppendRequest) (storeSeq : Int) : JournalEvent :=
  ⟨request.eventId, request.eventType, request.attempt, request.operation, storeSeq,
    request.payload, request.resourceRefs⟩

structure JournalAppendResult where
  event : JournalEvent
  duplicate : Bool

def JournalAppendResult.cursor (result : JournalAppendResult) : EventCursor := result.event.cursor

/-- `TOOL_EXECUTION_RECEIPT_TYPES`. -/
def toolExecutionReceiptTypes : List String :=
  ["tool_call", "tool.started", "tool.subagent_completion.sealed", "tool_result", "tool.result"]

def maxToolExecutionReceipts : Nat := 4

structure ToolExecutionReceiptLookup where
  attempt : AttemptRef
  callId : String
  events : List JournalEvent
  overflow : Bool

/-- `ToolExecutionReceiptLookup.__post_init__`: the loop over the events, with the
sequence number and the identities seen so far. -/
def checkReceipts (attempt : AttemptRef) (callId : String) :
    (previous : Int) → (eventIds operationIds : List String) → List JournalEvent →
      Except PyError Unit
  | _, _, _, [] => .ok ()
  | previous, eventIds, operationIds, event :: rest =>
    if event.attempt ≠ attempt then
      .error (modelValidationError "tool execution receipt belongs to a foreign attempt")
    else if !toolExecutionReceiptTypes.contains event.eventType then
      .error (modelValidationError "tool execution receipt has an unsupported event type")
    else if !(event.payload.get "call_id").eqPy (.str callId) then
      .error (modelValidationError "tool execution receipt call identity changed")
    else if event.storeSeq ≤ previous then
      .error (modelValidationError "tool execution receipts must be strictly ordered")
    else if eventIds.contains event.eventId
        || operationIds.contains event.operation.operationId then
      .error (modelValidationError "tool execution receipt identity is duplicated")
    else
      checkReceipts attempt callId event.storeSeq (event.eventId :: eventIds)
        (event.operation.operationId :: operationIds) rest

def ToolExecutionReceiptLookup.make (attempt : AttemptRef) (callId : String)
    (events : List JournalEvent) (overflow : Bool) : Except PyError ToolExecutionReceiptLookup := do
  if events.length > maxToolExecutionReceipts then
    .error (modelValidationError "tool execution receipt lookup may contain at most four events")
  else
    checkReceipts attempt callId 0 [] [] events
    .ok ⟨attempt, callId, events, overflow⟩

end Unchain.Journal
