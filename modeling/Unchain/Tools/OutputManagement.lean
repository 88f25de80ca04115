import Unchain.ContextContent.Descriptor

/-!
The view of a tool result that the model sees.

A manager holds the policies a route declares. `project` turns the bytes of a durable
result into the payload that its policy asks for; an output of the default policy that is
longer than the policy inlines becomes a paged descriptor.
-/

namespace Unchain.Tools

open Lib Python Journal ContextContent

/-- `ToolOutputManagementError` is a `ValueError`. -/
def outputError (message : String) : PyError := .valueError message

/-- The supported policies. -/
inductive PolicyName where
  | default
  | headTail
  | artifactOnly
  | contextPage
deriving DecidableEq

def PolicyName.text : PolicyName → String
  | .default => "default"
  | .headTail => "head_tail"
  | .artifactOnly => "artifact_only"
  | .contextPage => "context_page"

def PolicyName.ofText? (s : String) : Option PolicyName :=
  [PolicyName.default, .headTail, .artifactOnly, .contextPage].find? fun name => name.text = s

/-- `_require_int`. -/
def requireInt (field : String) (minimum : Int) (v : Value) : Except PyError Int :=
  match v with
  | .bool _ => .error (outputError (field ++ " must be an integer"))
  | v => do
    let parsed ← onInvalid (outputError (field ++ " must be an integer")) v.toInt
    if parsed < minimum then .error (outputError (field ++ " is below its minimum"))
    else return parsed

structure ToolOutputPolicy where
  name : PolicyName
  previewChars : Nat
  inlineChars : Nat

namespace ToolOutputPolicy

def version : String := "v1"

/-- The constructor's checks. -/
def make (host : Host) (name version previewChars inlineChars : Value) :
    Except PyError ToolOutputPolicy :=
  match name with
  | .str s =>
    match PolicyName.ofText? s with
    | none => .error (outputError "tool output policy name is unsupported")
    | some name =>
      if strip ((version.or (.str "")).toStr host.display) ≠ ToolOutputPolicy.version then
        .error (outputError "tool output policy version is unsupported")
      else do
        let preview ← requireInt "preview_chars" 0 previewChars
        let inline ← requireInt "inline_chars" 0 inlineChars
        return ⟨name, preview.toNat, inline.toNat⟩
  | _ => .error (outputError "tool output policy name is unsupported")

end ToolOutputPolicy

structure ToolOutputProjection where
  payload : Value
  metadata : Value
deriving DecidableEq

structure ToolOutputManager where
  active : Bool
  defaultPolicy : ToolOutputPolicy
  policies : List (PolicyName × ToolOutputPolicy)
  receipts : List (String × ToolOutputProjection)

/-- A call of `project`. -/
structure OutputRequest where
  resultBytes : Bytes
  fullOutputRef : Value
  digest : Value
  contentBytes : Value
  requestedPolicy : Value
  callId : Value

/-- The parts of the runtime that projection uses besides the host's: the SHA-256 of bytes
and the value of a JSON number that is not an integer. -/
structure OutputHost extends Host where
  sha256 : Bytes → String
  parseFloat : List Char → PyFloat

section Project

variable (host : OutputHost)

/-- `resolve_policy`. -/
def ToolOutputManager.resolvePolicy (manager : ToolOutputManager) :
    Value → Except PyError ToolOutputPolicy
  | .none => .ok manager.defaultPolicy
  | .str s =>
    if s = "" then .ok manager.defaultPolicy
    else
      match (PolicyName.ofText? (host.lower (strip s))).bind fun name =>
          manager.policies.lookup name with
      | some policy => .ok policy
      | none => .error
          (outputError "requested tool output policy is not declared by the route snapshot")
  | _ => .error (outputError "requested tool output policy is invalid")

/-- `"://" in s`. -/
def hasScheme (s : String) : Bool := s.toList.tails.any ("://".toList.isPrefixOf ·)

/-- `_valid_source_ref`. -/
def validSourceRef (value : Value) : Bool :=
  match value with
  | .str s => !(strip s).isEmpty && hasScheme (strip s)
  | .dict _ =>
    match value.get "uri" with
    | .str uri => !(strip uri).isEmpty && hasScheme uri || isWholeArtifact
    | _ => isWholeArtifact
  | _ => false
where
  isWholeArtifact : Bool :=
    match ResourceRef.fromDict host.toHost value with
    | .ok ref => ref.kind = "artifact" && ref.fragment.isEmpty
    | .error _ => false

/-- The first `n` characters. -/
def headOf (n : Nat) (text : List Char) : List Char := text.take n

/-- `text[-n:] if n else ""`. -/
def tailOf (n : Nat) (text : List Char) : List Char :=
  if n = 0 then [] else text.drop (text.length - n)

/-- The bytes that neither end of the preview shows. -/
def omittedOf (n : Nat) (text : List Char) (resultBytes : Bytes) : Nat :=
  resultBytes.length - (Utf8.encode (headOf n text)).length - (Utf8.encode (tailOf n text)).length

/-- `_paged_context_projection`. -/
def pagedContextProjection (resultBytes : Bytes) (fullOutputRef : Value) (digest : String)
    (previewChars : Nat) : Except PyError (Option Value) :=
  match ResourceRef.fromDict host.toHost fullOutputRef, Utf8.decode? resultBytes with
  | .ok ref, some text =>
    if ref.kind ≠ "artifact" || !ref.fragment.isEmpty then .ok none
    else (presentContextOutputRef host.toHost ref
        (outputMetadata digest resultBytes.length (omittedOf previewChars text resultBytes)
          (String.ofList (headOf previewChars text))
          (String.ofList (tailOf previewChars text)))).map some
  | _, _ => .ok none

/-- The codes of the failures that a reader reports by their text. -/
def readerErrorCode (error : String) : String :=
  if error = "CONTEXT_READ_NO_PROGRESS" then "CONTEXT_READ_NO_PROGRESS"
  else if error = "limit must be an integer" || error = "limit must be between 1 and 8192" then
    "CONTEXT_READ_LIMIT_INVALID_USE_INTEGER_1_TO_8192"
  else if error = "offset must be an integer" || error = "offset must be between 0 and 33554432" then
    "CONTEXT_READ_OFFSET_INVALID_USE_INTEGER_0_TO_33554432"
  else "CONTEXT_CONTENT_READ_FAILED"

/-- The failure that a reader's result reports, if it is one. -/
def readerError? (page : Value) : Option String :=
  match page.get "error" with
  | .str error =>
    if Journal.hasExactly page ["error", "tool"] && (page.get "tool").eqPy (.str "context_content_read")
    then some error else none
  | _ => none

def readerPayload (page : Value) : Except PyError Value :=
  match readerError? page with
  | some error => renderContextContentError (readerErrorCode error)
  | none => .ok page

def readerResult (page : Value) : Except PyError (Value × Bytes) := do
  let payload ← readerPayload page
  let canonical ← canonicalContextContentResultBytes host.toHost payload
  return (payload, canonical)

/-- `_context_page_projection`. -/
def contextPageProjection (resultBytes : Bytes) : Except PyError Value :=
  match (Utf8.decode? resultBytes).bind Json.read with
  | none => .error (outputError "context content page result is invalid")
  | some json => do
    let page := Value.ofJson host.parseFloat json
    let (payload, canonical) ← onInvalid (outputError "context content page result is invalid")
      (readerResult host page)
    if canonical ≠ resultBytes && (readerError? page).isNone then
      .error (outputError "context content page result is not canonical")
    else return payload

/-- `_project_non_page_output`. -/
def projectNonPageOutput (text : List Char) (resultBytes : Bytes) (fullOutputRef : Value)
    (digest : String) (policy : ToolOutputPolicy) : Except PyError Value :=
  if text.isEmpty then .ok (.dict [("projection", .str "empty")])
  else
    match policy.name with
    | .artifactOnly => .ok (.dict [("projection", .str "artifact_only"),
        ("note", .str "Full tool output is available in durable artifact")])
    | .headTail => .ok (.dict [("projection", .str "head_tail"),
        ("preview", .str (String.ofList (headOf policy.previewChars text))),
        ("tail_preview", .str (String.ofList (tailOf policy.previewChars text))),
        ("content_chars", .int text.length)])
    | _ =>
      if resultBytes.length > policy.inlineChars then do
        match ← pagedContextProjection host resultBytes fullOutputRef digest policy.previewChars with
        | some paged => return paged
        | none => return .dict [("projection", .str "default"), ("inline", .bool false),
            ("preview", .str (String.ofList (headOf policy.previewChars text)))]
      else .ok (.dict [("projection", .str "default"), ("inline", .bool true),
        ("preview", .str (String.ofList text))])

def pagedSchema : String := "unchain.tool_output.paged.v1"

def projectPayload (request : OutputRequest) (digest : String) (policy : ToolOutputPolicy) :
    Except PyError Value := do
  if policy.name = .contextPage then contextPageProjection host request.resultBytes
  else
    let text := (Utf8.decodeReplace true request.resultBytes).1
    let payload ← projectNonPageOutput host text request.resultBytes request.fullOutputRef digest
      policy
    if (payload.get "schema_version").eqPy (.str pagedSchema) then return payload
    else
      return ((payload.setKey "full_output_ref" request.fullOutputRef).setKey "content_bytes"
        (.int request.resultBytes.length)).setKey "content_sha256" (.str digest)

def projectReceipt (manager : ToolOutputManager) (request : OutputRequest) :
    Except PyError ToolOutputProjection := do
  if !manager.active then .error (outputError "tool output projection is not active")
  else
    let policy ← manager.resolvePolicy host request.requestedPolicy
    let canonicalRef ← canonicalContentBytes host.display request.fullOutputRef
    match request.digest with
    | .str digest =>
      if !validSourceRef host request.fullOutputRef || canonicalRef.isEmpty || digest.length ≠ 64 then
        .error (outputError "tool output source receipt is invalid")
      else if host.sha256 request.resultBytes ≠ digest then
        .error (outputError "tool output digest does not match raw bytes")
      else
        let contentBytes ← request.contentBytes.toInt
        if contentBytes ≠ request.resultBytes.length then
          .error (outputError "tool output byte count does not match raw bytes")
        else
          let payload ← projectPayload host request digest policy
          let written ← canonicalContentBytes host.display payload
          return ⟨payload, .dict [
            ("projection_policy", .str policy.name.text),
            ("projection_version", .str ToolOutputPolicy.version),
            ("inline", .bool (payload.getD "inline" (.bool false)).truthy),
            ("projection_bytes", .int written.length),
            ("source_ref_sha256", .str (host.sha256 canonicalRef))]⟩
    | _ => .error (outputError "tool output source receipt is invalid")

/-- `project`. A call that was projected before must be projected to the same receipt. -/
def ToolOutputManager.project (manager : ToolOutputManager) (request : OutputRequest) :
    Except PyError (ToolOutputProjection × ToolOutputManager) := do
  let receipt ← projectReceipt host manager request
  let callId := strip ((request.callId.or (.str "")).toStr host.display)
  if callId = "" then return (receipt, manager)
  else
    match Assoc.get callId manager.receipts with
    | some existing =>
      if existing ≠ receipt then
        .error (outputError "tool output projection was already recorded with different content")
      else return (existing, manager)
    | none => return (receipt, { manager with receipts := Assoc.set callId receipt manager.receipts })

end Project

/-! ### Only the paged projection is paged -/

section Paged

variable {host : OutputHost} {v w : Value}

theorem validateContextContentPage_schema {host : Host}
    (h : validateContextContentPage host v = .ok w) :
    v.get "schema_version" = .str "unchain.context_content_page.v1" := by
  unfold validateContextContentPage at h
  split at h
  · cases h
  split at h
  · cases h
  rename_i version
  simp only [Bool.or_eq_true, Bool.not_eq_true', not_or, Bool.not_eq_false] at version
  exact Value.eqPy_str_iff.mp version.1

theorem validateContextContentError_schema (h : validateContextContentError v = .ok w) :
    v.get "schema_version" = .str "unchain.context_content_error.v1" := by
  unfold validateContextContentError at h
  split at h
  · split at h
    · rename_i checks
      simp only [Bool.and_eq_true] at checks
      exact Value.eqPy_str_iff.mp checks.1.1.2
    · cases h
  · cases h

variable {payload : Value} {resultBytes : Bytes}

/-- The reader's result is a page or an error, never a descriptor. -/
theorem contextPageProjection_schema (h : contextPageProjection host resultBytes = .ok payload) :
    payload.get "schema_version" ≠ .str pagedSchema := by
  unfold contextPageProjection at h
  split at h
  · cases h
  obtain ⟨⟨found, canonical⟩, read, h⟩ := Effect.bind_ok h
  have same : payload = found := by
    simp only at h
    split at h
    · cases h
    · cases h
      rfl
  rw [same]
  have read := onInvalid_ok read
  obtain ⟨payload', -, wrote⟩ := Effect.bind_ok read
  obtain ⟨bytes, wrote, same⟩ := Effect.bind_ok wrote
  cases same
  unfold canonicalContextContentResultBytes at wrote
  split at wrote
  · obtain ⟨page, valid, -⟩ := Effect.bind_ok wrote
    rw [validateContextContentPage_schema valid]
    decide
  · obtain ⟨error, valid, -⟩ := Effect.bind_ok wrote
    rw [validateContextContentError_schema valid]
    decide

variable {digest : String} {fullOutputRef : Value}

theorem pagedContextProjection_eq (hex : isSha256 digest = true) {previewChars : Nat}
    {paged : Value} (h : pagedContextProjection host resultBytes fullOutputRef digest previewChars =
      .ok (some paged)) :
    ∃ ref text locator, ResourceRef.fromDict host.toHost fullOutputRef = .ok ref ∧
      Utf8.decode? resultBytes = some text ∧
      encodeContextContentLocator host.toHost ref = .ok locator ∧
      paged = descriptor locator digest resultBytes.length (omittedOf previewChars text resultBytes)
        (String.ofList (headOf previewChars text)) (String.ofList (tailOf previewChars text)) := by
  unfold pagedContextProjection at h
  split at h
  · rename_i ref text made decoded
    split at h
    · cases h
    · cases presented : presentContextOutputRef host.toHost ref
          (outputMetadata digest resultBytes.length (omittedOf previewChars text resultBytes)
            (String.ofList (headOf previewChars text))
            (String.ofList (tailOf previewChars text))) with
      | error e => rw [presented] at h; cases h
      | ok v =>
        rw [presented] at h
        cases h
        obtain ⟨locator, encoded, eq⟩ := presentContextOutputRef_eq hex presented
        exact ⟨ref, text, locator, made, decoded, encoded, eq⟩
  · cases h

variable {policy : ToolOutputPolicy}

theorem projectNonPageOutput_paged {text : List Char}
    (h : projectNonPageOutput host text resultBytes fullOutputRef digest policy = .ok payload)
    (schema : payload.get "schema_version" ≠ .none) :
    pagedContextProjection host resultBytes fullOutputRef digest policy.previewChars =
      .ok (some payload) := by
  unfold projectNonPageOutput at h
  split at h
  · cases h
    exact absurd rfl schema
  split at h
  · cases h
    exact absurd rfl schema
  · cases h
    exact absurd rfl schema
  · split at h
    · obtain ⟨paged, projected, h⟩ := Effect.bind_ok h
      cases paged with
      | none =>
        cases h
        exact absurd rfl schema
      | some found =>
        cases h
        exact projected
    · cases h
      exact absurd rfl schema

variable {request : OutputRequest}

theorem projectPayload_paged (h : projectPayload host request digest policy = .ok payload)
    (paged : payload.get "schema_version" = .str pagedSchema) :
    pagedContextProjection host request.resultBytes request.fullOutputRef digest
      policy.previewChars = .ok (some payload) := by
  unfold projectPayload at h
  split at h
  · exact absurd paged (contextPageProjection_schema h)
  · obtain ⟨found, projected, h⟩ := Effect.bind_ok h
    split at h
    · cases h
      exact projectNonPageOutput_paged projected (by rw [paged]; exact fun eq => by cases eq)
    · rename_i other
      cases h
      rw [Value.get_setKey_of_ne (by decide), Value.get_setKey_of_ne (by decide),
        Value.get_setKey_of_ne (by decide)] at paged
      exact absurd (Value.eqPy_str_iff.mpr paged) other

variable {manager : ToolOutputManager} {receipt : ToolOutputProjection}

theorem projectReceipt_paged (h : projectReceipt host manager request = .ok receipt)
    (paged : receipt.payload.get "schema_version" = .str pagedSchema) :
    ∃ policy, manager.resolvePolicy host request.requestedPolicy = .ok policy ∧
      pagedContextProjection host request.resultBytes request.fullOutputRef
        (host.sha256 request.resultBytes) policy.previewChars = .ok (some receipt.payload) ∧
      ∃ written, canonicalContentBytes host.display receipt.payload = .ok written := by
  unfold projectReceipt at h
  split at h
  · cases h
  obtain ⟨policy, resolved, h⟩ := Effect.bind_ok h
  obtain ⟨canonicalRef, -, h⟩ := Effect.bind_ok h
  split at h
  · split at h
    · cases h
    split at h
    · cases h
    rename_i same
    obtain ⟨contentBytes, -, h⟩ := Effect.bind_ok h
    split at h
    · cases h
    obtain ⟨payload, projected, h⟩ := Effect.bind_ok h
    obtain ⟨written, wrote, h⟩ := Effect.bind_ok h
    cases h
    rw [not_not.mp same]
    exact ⟨policy, resolved, projectPayload_paged projected paged, written, wrote⟩
  · cases h

theorem project_receipt {next : ToolOutputManager}
    (h : manager.project host request = .ok (receipt, next)) :
    projectReceipt host manager request = .ok receipt := by
  obtain ⟨found, projected, h⟩ := Effect.bind_ok h
  rw [projected]
  simp only at h
  split at h
  · cases h
    rfl
  split at h
  · split at h
    · cases h
    · rename_i same
      cases h
      rw [not_not.mp same]
  · cases h
    rfl

theorem omittedOf_le {n : Nat} {text : List Char} {bs : Bytes} : omittedOf n text bs ≤ bs.length := by
  unfold omittedOf
  omega

/-- A paged output is a readable descriptor exactly when the locator of its reference is
within the decoder's limit and the canonical bytes of the descriptor are within the budget:
both depend on the reference and on the escaped preview, which the policy bounds in
characters. -/
theorem paged_output_readable_iff (normalizes : Normalizes host.nfc)
    (hexdigest : ∀ bs, isSha256 (host.sha256 bs) = true) {manager next : ToolOutputManager}
    {request : OutputRequest} {receipt : ToolOutputProjection}
    (projected : manager.project host request = .ok (receipt, next))
    (paged : receipt.payload.get "schema_version" = .str pagedSchema) :
    ∃ ref text policy, ResourceRef.fromDict host.toHost request.fullOutputRef = .ok ref ∧
      Utf8.decode? request.resultBytes = some text ∧
      manager.resolvePolicy host request.requestedPolicy = .ok policy ∧
      ((∃ d, validateContextOutputDescriptor host.toHost receipt.payload = .ok d) ↔
        locatorCost ref ≤ 707 ∧
        descriptorBytes ref request.resultBytes.length
            (omittedOf policy.previewChars text request.resultBytes)
            (headOf policy.previewChars text) (tailOf policy.previewChars text) ≤
          maxContextContentSerializedBytes) := by
  obtain ⟨policy, resolved, projection, written, wrote⟩ :=
    projectReceipt_paged (project_receipt projected) paged
  obtain ⟨ref, text, locator, made, decoded, encoded, eq⟩ :=
    pagedContextProjection_eq (hexdigest _) projection
  refine ⟨ref, text, policy, made, decoded, resolved, ?_⟩
  have content : Printable request.resultBytes.length := by
    rw [eq] at wrote
    have entry : ("content_bytes", Value.int request.resultBytes.length) ∈
        (descriptor locator (host.sha256 request.resultBytes) request.resultBytes.length
          (omittedOf policy.previewChars text request.resultBytes)
          (String.ofList (headOf policy.previewChars text))
          (String.ofList (tailOf policy.previewChars text))).entries := by
      simp [descriptor]
    exact printable_of_canonicalContentBytes wrote entry
  have omitted : Printable (omittedOf policy.previewChars text request.resultBytes) :=
    content.mono omittedOf_le
  obtain ⟨raw, -, made⟩ := Effect.bind_ok made
  rw [eq]
  exact accepted_descriptor_iff normalizes ⟨_, _, _, _, made⟩ encoded (hexdigest _) content omitted
    _ _

end Paged

/-! ### Two outputs of one artifact -/

section Samples

/-- A host whose digest is that of the output at hand. -/
def sampleHost (sha256 : String) : OutputHost :=
  { plainHost with sha256 := fun _ => sha256, parseFloat := fun _ => .nan }

def sampleManager (previewChars inlineChars : Nat) : ToolOutputManager :=
  ⟨true, ⟨.default, previewChars, inlineChars⟩,
    [(.default, ⟨.default, previewChars, inlineChars⟩)], []⟩

def sampleRequest (text : List Char) (sha256 : String) : OutputRequest :=
  ⟨Utf8.encode text, reportRef.toDict, .str sha256, .int (Utf8.encode text).length, .none, .str ""⟩

/-- The descriptor of a text that the artifact holds. -/
def sampleDescriptor (text : List Char) (sha256 : String) (previewChars : Nat) : Value :=
  descriptor (String.ofList (locatorText reportRef)) sha256 (Utf8.encode text).length
    (omittedOf previewChars text (Utf8.encode text))
    (String.ofList (headOf previewChars text)) (String.ofList (tailOf previewChars text))

theorem fromDict_reportRef : ResourceRef.fromDict plainHost reportRef.toDict = .ok reportRef := by
  decide

variable {sha256 : String}

theorem pagedContextProjection_sample (text : List Char) (previewChars : Nat)
    (hex : isSha256 sha256 = true) :
    pagedContextProjection (sampleHost sha256) (Utf8.encode text) reportRef.toDict sha256
      previewChars = .ok (some (sampleDescriptor text sha256 previewChars)) := by
  have made : ResourceRef.fromDict (sampleHost sha256).toHost reportRef.toDict = .ok reportRef :=
    fromDict_reportRef
  have encoded : encodeContextContentLocator (sampleHost sha256).toHost reportRef =
      .ok (String.ofList (locatorText reportRef)) := encode_eq (by decide)
  have whole : ¬ (reportRef.kind ≠ "artifact" || !reportRef.fragment.isEmpty) = true := by decide
  rw [pagedContextProjection, made, Utf8.decode?_encode]
  simp only
  rw [if_neg whole, presentContextOutputRef_of_encode hex encoded]
  rfl

theorem projectPayload_sample {text : List Char} (nonempty : text ≠ [])
    {previewChars inlineChars : Nat} (long : inlineChars < (Utf8.encode text).length)
    {sha256 : String} (hex : isSha256 sha256 = true) :
    projectPayload (sampleHost sha256) (sampleRequest text sha256) sha256
        ⟨.default, previewChars, inlineChars⟩ =
      .ok (sampleDescriptor text sha256 previewChars) := by
  have decoded : (Utf8.decodeReplace true (Utf8.encode text)).1 = text := by
    have := Utf8.decodeReplace_encode true text Utf8.cut_nil
    rw [List.append_nil] at this
    rw [this]
    simp [Utf8.cutText]
  have notEmpty : text.isEmpty = false := List.isEmpty_eq_false_iff.mpr nonempty
  have notPage : ¬ PolicyName.default = PolicyName.contextPage := by decide
  have isPaged : ∀ d : Value, d.get "schema_version" = .str pagedSchema →
      (d.get "schema_version").eqPy (.str pagedSchema) = true :=
    fun d eq => Value.eqPy_str_iff.mpr eq
  have projected : projectNonPageOutput (sampleHost sha256) text (Utf8.encode text)
      reportRef.toDict sha256 ⟨.default, previewChars, inlineChars⟩ =
      .ok (sampleDescriptor text sha256 previewChars) := by
    rw [projectNonPageOutput, notEmpty]
    rw [if_pos long, pagedContextProjection_sample text previewChars hex]
    rfl
  rw [projectPayload, if_neg notPage]
  simp only [sampleRequest, decoded, projected, bind, Except.bind]
  rw [if_pos (isPaged _ rfl)]
  rfl

theorem sample_projected {text : List Char} (nonempty : text ≠ []) {previewChars inlineChars : Nat}
    (long : inlineChars < (Utf8.encode text).length) {sha256 : String}
    (hex : isSha256 sha256 = true) (printable : Printable (Utf8.encode text).length) :
    ∃ receipt, (sampleManager previewChars inlineChars).project (sampleHost sha256)
        (sampleRequest text sha256) = .ok (receipt, sampleManager previewChars inlineChars) ∧
      receipt.payload = sampleDescriptor text sha256 previewChars := by
  have omitted : Printable (omittedOf previewChars text (Utf8.encode text)) :=
    printable.mono omittedOf_le
  have refWritable : reportRef.toDict.Writable := by
    simp only [ResourceRef.toDict, Value.Writable, WritableEntries, true_and, and_true]
    decide
  have refBytes := canonicalContentBytes_of_writable (sampleHost sha256).display refWritable
  have payloadWritable : (sampleDescriptor text sha256 previewChars).Writable :=
    writable_descriptor printable omitted
  have payloadBytes := canonicalContentBytes_of_writable (sampleHost sha256).display payloadWritable
  have refNonempty : (Utf8.encode (reportRef.toDict.json (sampleHost sha256).display).canonical).isEmpty =
      false := by
    rw [List.isEmpty_eq_false_iff, ← List.length_pos_iff, Json.length_canonical]
    simp only [ResourceRef.toDict, Value.json, entriesJson, Json.size]
    omega
  have valid : validSourceRef (sampleHost sha256) reportRef.toDict = true := by
    have made : ResourceRef.fromDict (sampleHost sha256).toHost reportRef.toDict = .ok reportRef :=
      fromDict_reportRef
    change validSourceRef.isWholeArtifact (sampleHost sha256) reportRef.toDict = true
    rw [validSourceRef.isWholeArtifact, made]
    rfl
  have length : sha256.length = 64 := by
    simp only [isSha256, Bool.and_eq_true, decide_eq_true_eq] at hex
    exact hex.1
  have payload := @projectPayload_sample text nonempty previewChars inlineChars long sha256 hex
  have receipt : ∃ metadata, projectReceipt (sampleHost sha256) (sampleManager previewChars inlineChars)
      (sampleRequest text sha256) = .ok ⟨sampleDescriptor text sha256 previewChars, metadata⟩ := by
    have resolved : (sampleManager previewChars inlineChars).resolvePolicy (sampleHost sha256)
        (sampleRequest text sha256).requestedPolicy =
        .ok ⟨.default, previewChars, inlineChars⟩ := rfl
    have active : (sampleManager previewChars inlineChars).active = true := rfl
    have count : (sampleRequest text sha256).contentBytes.toInt = .ok ((Utf8.encode text).length : Int) := rfl
    have same : (sampleHost sha256).sha256 (Utf8.encode text) = sha256 := rfl
    have ref : (sampleRequest text sha256).fullOutputRef = reportRef.toDict := rfl
    have digest : (sampleRequest text sha256).digest = .str sha256 := rfl
    have bytes : (sampleRequest text sha256).resultBytes = Utf8.encode text := rfl
    simp only [projectReceipt, active, resolved, ref, refBytes, digest, valid, refNonempty, length,
      same, count, bytes, payload, payloadBytes, bind, Except.bind, Bool.not_true, ne_eq,
      not_true_eq_false, decide_false, Bool.or_false, Bool.false_eq_true, if_false]
    exact ⟨_, rfl⟩
  obtain ⟨metadata, receipt⟩ := receipt
  refine ⟨⟨_, metadata⟩, ?_, rfl⟩
  have noCall : strip (((sampleRequest text sha256).callId.or (.str "")).toStr
      (sampleHost sha256).display) = "" := rfl
  simp only [ToolOutputManager.project, receipt, noCall, bind, Except.bind, if_true]
  rfl

def greeting : List Char := "hi".toList

def greetingSha256 : String := "8f434346648f6b96df89dda901c5176b10a6d83961dd3c1ac88b59b2dc327aa4"

theorem hexdigest_sample (hex : isSha256 sha256 = true) :
    ∀ bs, isSha256 ((sampleHost sha256).sha256 bs) = true :=
  fun _ => hex

/-- A short preview is accepted. -/
theorem greeting_readable :
    ∃ receipt, (sampleManager 1200 0).project (sampleHost greetingSha256)
        (sampleRequest greeting greetingSha256) = .ok (receipt, sampleManager 1200 0) ∧
      ∃ d, validateContextOutputDescriptor plainHost receipt.payload = .ok d := by
  have hex : isSha256 greetingSha256 = true := by decide
  obtain ⟨receipt, projected, payload⟩ := @sample_projected greeting (by decide) 1200 0 (by decide)
    greetingSha256 hex (by decide)
  have schema : receipt.payload.get "schema_version" = .str pagedSchema := by
    rw [payload]
    rfl
  refine ⟨receipt, projected, ?_⟩
  obtain ⟨ref, text, policy, made, decoded, resolved, accepted⟩ :=
    paged_output_readable_iff normalizes_plainHost (hexdigest_sample hex) projected schema
  have sameRef : ref = reportRef := by
    have := made.symm.trans (show ResourceRef.fromDict (sampleHost greetingSha256).toHost
      (sampleRequest greeting greetingSha256).fullOutputRef = .ok reportRef from fromDict_reportRef)
    cases this
    rfl
  have sameText : text = greeting := by
    have := decoded.symm.trans (Utf8.decode?_encode greeting)
    cases this
    rfl
  have samePolicy : policy = ⟨.default, 1200, 0⟩ := by
    cases resolved
    rfl
  rw [sameRef, sameText, samePolicy] at accepted
  exact accepted.mpr ⟨by decide, by decide⟩

/-- An output of control characters, one longer than the default policy inlines. -/
def controlText : List Char := List.replicate 16001 '\x01'

def controlSha256 : String := "f96de509e077fcae3153efc753cb6415f16972f4b87b4f96e4713d68a857add4"

/-- Under the default policy the preview of 2400 characters takes 14400 bytes in JSON, and
the descriptor is refused. -/
theorem control_output_not_readable :
    ∃ receipt, (sampleManager 1200 16000).project (sampleHost controlSha256)
        (sampleRequest controlText controlSha256) = .ok (receipt, sampleManager 1200 16000) ∧
      receipt.payload.get "schema_version" = .str pagedSchema ∧
      ¬ ∃ d, validateContextOutputDescriptor plainHost receipt.payload = .ok d := by
  have hex : isSha256 controlSha256 = true := by decide
  have length : (Utf8.encode controlText).length = 16001 := by
    have ascii : ∀ c ∈ controlText, c.toNat < 128 := by
      intro c mem
      rw [List.eq_of_mem_replicate mem]
      decide
    have bytes := Json.bytesOf_ascii ascii
    rw [Json.bytesOf] at bytes
    rw [bytes, controlText, List.length_replicate]
  have printable : Printable (Utf8.encode controlText).length := by
    rw [length]
    decide
  have nonempty : controlText ≠ [] := by
    intro nil
    have none : controlText.length = 0 := by rw [nil, List.length_nil]
    rw [controlText, List.length_replicate] at none
    omega
  obtain ⟨receipt, projected, payload⟩ := @sample_projected controlText nonempty 1200 16000
    (by omega) controlSha256 hex printable
  refine ⟨receipt, projected, by rw [payload]; rfl, ?_⟩
  have omitted : Printable (omittedOf 1200 controlText (Utf8.encode controlText)) :=
    printable.mono omittedOf_le
  have head : Json.escapedSize (headOf 1200 controlText) = 7200 := by
    rw [headOf, controlText, List.take_replicate, Json.escapedSize_replicate]
    decide
  have tail : Json.escapedSize (tailOf 1200 controlText) = 7200 := by
    rw [tailOf, if_neg (by decide), controlText, List.drop_replicate, List.length_replicate,
      Json.escapedSize_replicate]
    decide
  rw [payload, sampleDescriptor, accepted_descriptor_iff normalizes_plainHost made_reportRef (encode_eq (by decide))
    hex printable omitted]
  rintro ⟨-, fits⟩
  have limit : maxContextContentSerializedBytes = 12288 := rfl
  rw [descriptorBytes, head, tail] at fits
  omega

end Samples

end Unchain.Tools
