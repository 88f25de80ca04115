import Unchain.ContextContent.Page

/-!
Descriptors: what stays in the history of a tool output that is too long to show.

A descriptor holds a preview of the output and the request that reads it from its start.
The producer bounds the preview in characters; the validator bounds the canonical JSON of
the whole descriptor in bytes.
-/

namespace Unchain.ContextContent

open Lib Python Journal
open Json (escapedSize)

def descriptorFields : List String :=
  ["schema_version", "projection", "preview", "content_bytes", "content_sha256", "full_output_ref",
    "read_request"]

/-- What a producer tells about an output. -/
def metadataFields : List String :=
  ["content_bytes", "content_sha256", "preview_head", "preview_tail", "omitted_bytes"]

section Descriptor

variable (host : Host)

/-- `present_context_output_ref`, with the read handle of `context_content_read_handle`. -/
def presentContextOutputRef (ref : ResourceRef) (metadata : Value) : Except PyError Value := do
  if !hasExactly metadata metadataFields then
    .error (protocolError "context output descriptor metadata is invalid")
  else
    let contentBytes ← requireNonnegativeInt "content_bytes" (metadata.get "content_bytes")
    let omittedBytes ← requireNonnegativeInt "omitted_bytes" (metadata.get "omitted_bytes")
    match metadata.get "preview_head", metadata.get "preview_tail" with
    | .str head, .str tail =>
      let locator ← encodeContextContentLocator host ref
      let sha256 ← requireSha256 (metadata.get "content_sha256")
      return .dict [
        ("schema_version", .str "unchain.tool_output.paged.v1"),
        ("projection", .str "paged"),
        ("preview", .dict [("head", .str head), ("tail", .str tail),
          ("omitted_bytes", .int omittedBytes)]),
        ("content_bytes", .int contentBytes),
        ("content_sha256", .str sha256),
        ("full_output_ref", .str locator),
        ("read_request", readRequest locator 0)]
    | _, _ => .error (protocolError "context output descriptor metadata is invalid")

/-- `_validate_context_output_read_handle`. -/
def validateContextOutputReadHandle (errorMessage : String) (value : Value) :
    Except PyError ResourceRef := do
  match ← decodeContextContentLocator host errorMessage (value.get "full_output_ref") with
  | none => .error (protocolError errorMessage)
  | some ref =>
    if !continues (value.get "full_output_ref") 0 (value.get "read_request") then
      .error (protocolError errorMessage)
    else return ref

/-- `validate_context_output_descriptor`. -/
def validateContextOutputDescriptor (value : Value) : Except PyError Value := do
  if !hasExactly value descriptorFields then
    .error (protocolError "context output descriptor has an invalid shape")
  else if !(value.get "schema_version").eqPy (.str "unchain.tool_output.paged.v1")
      || !(value.get "projection").eqPy (.str "paged") then
    .error (protocolError "context output descriptor has an invalid version")
  else
    let preview := value.get "preview"
    if !hasExactly preview ["head", "tail", "omitted_bytes"] || !(preview.get "head").isStr
        || !(preview.get "tail").isStr then
      .error (protocolError "context output descriptor has an invalid preview")
    else
      let _ ← requireNonnegativeInt "omitted bytes" (preview.get "omitted_bytes")
      let _ ← requireNonnegativeInt "content bytes" (value.get "content_bytes")
      let _ ← requireSha256 (value.get "content_sha256")
      let _ ← validateContextOutputReadHandle host
        "context output descriptor has an invalid read request" value
      let length ← serializedLength host value
      if length > maxContextContentSerializedBytes then
        .error (protocolError "context output descriptor exceeds its serialized budget")
      else return value

/-! ### The result of the reader -/

def contextContentErrorCodes : List String :=
  ["CONTEXT_CONTENT_READ_FAILED", "CONTEXT_READ_NO_PROGRESS",
    "CONTEXT_READ_LIMIT_INVALID_USE_INTEGER_1_TO_8192",
    "CONTEXT_READ_OFFSET_INVALID_USE_INTEGER_0_TO_33554432"]

def contextContentError (code : String) : Value :=
  .dict [("schema_version", .str "unchain.context_content_error.v1"),
    ("trust", .str "UNTRUSTED_DATA"), ("code", .str code)]

/-- `validate_context_content_error`. -/
def validateContextContentError (value : Value) : Except PyError Value :=
  match value.get "code" with
  | .str code =>
    if hasExactly value ["schema_version", "trust", "code"]
        && (value.get "schema_version").eqPy (.str "unchain.context_content_error.v1")
        && (value.get "trust").eqPy (.str "UNTRUSTED_DATA")
        && contextContentErrorCodes.contains code then
      .ok (contextContentError code)
    else .error (protocolError "context content error has an invalid shape")
  | _ => .error (protocolError "context content error has an invalid shape")

/-- `render_context_content_error`. -/
def renderContextContentError (code : String) : Except PyError Value :=
  validateContextContentError (contextContentError code)

/-- `canonical_context_content_result_bytes`. -/
def canonicalContextContentResultBytes (value : Value) : Except PyError Bytes := do
  if (value.get "schema_version").eqPy (.str "unchain.context_content_page.v1") then
    canonicalJson host.display (← validateContextContentPage host value)
  else
    canonicalJson host.display (← validateContextContentError value)

end Descriptor

/-! ### When a presented output is a valid descriptor -/

section Present

variable {host : Host}

def descriptor (locator sha256 : String) (contentBytes omittedBytes : Nat) (head tail : String) :
    Value :=
  .dict [
    ("schema_version", .str "unchain.tool_output.paged.v1"),
    ("projection", .str "paged"),
    ("preview", .dict [("head", .str head), ("tail", .str tail),
      ("omitted_bytes", .int omittedBytes)]),
    ("content_bytes", .int contentBytes),
    ("content_sha256", .str sha256),
    ("full_output_ref", .str locator),
    ("read_request", readRequest locator 0)]

section Presented

variable {ref : ResourceRef} {sha256 : String} {contentBytes omittedBytes : Nat}
  {head tail : String}

/-- What a producer tells the presenter. -/
def outputMetadata (sha256 : String) (contentBytes omittedBytes : Nat) (head tail : String) : Value :=
  .dict [("content_bytes", .int contentBytes), ("content_sha256", .str sha256),
    ("preview_head", .str head), ("preview_tail", .str tail), ("omitted_bytes", .int omittedBytes)]

theorem presentContextOutputRef_bind (digest : isSha256 sha256 = true) :
    presentContextOutputRef host ref
        (outputMetadata sha256 contentBytes omittedBytes head tail) =
      (encodeContextContentLocator host ref).bind fun locator =>
        .ok (descriptor locator sha256 contentBytes omittedBytes head tail) := by
  change (encodeContextContentLocator host ref).bind (fun locator =>
    (requireSha256 (.str sha256)).bind fun sha256 => _) = _
  rw [requireSha256, if_pos digest]
  rfl

theorem presentContextOutputRef_eq (digest : isSha256 sha256 = true) {v : Value}
    (h : presentContextOutputRef host ref
      (outputMetadata sha256 contentBytes omittedBytes head tail) = .ok v) :
    ∃ locator, encodeContextContentLocator host ref = .ok locator ∧
      v = descriptor locator sha256 contentBytes omittedBytes head tail := by
  rw [presentContextOutputRef_bind digest] at h
  obtain ⟨locator, encoded, h⟩ := Effect.bind_ok h
  cases h
  exact ⟨locator, encoded, rfl⟩

theorem presentContextOutputRef_of_encode (digest : isSha256 sha256 = true) {locator : String}
    (encoded : encodeContextContentLocator host ref = .ok locator) :
    presentContextOutputRef host ref
        (outputMetadata sha256 contentBytes omittedBytes head tail) =
      .ok (descriptor locator sha256 contentBytes omittedBytes head tail) := by
  rw [presentContextOutputRef_bind digest, encoded]
  rfl

end Presented

variable {contentBytes omittedBytes : Nat} {head locator sha256 tail : String}

theorem validateReadHandle_descriptor {errorMessage : String} :
    validateContextOutputReadHandle host errorMessage
        (descriptor locator sha256 contentBytes omittedBytes head tail) =
      (do
        match ← decodeContextContentLocator host errorMessage (.str locator) with
        | none => .error (protocolError errorMessage)
        | some ref => return ref) := by
  have ref : (descriptor locator sha256 contentBytes omittedBytes head tail).get "full_output_ref" =
      .str locator := rfl
  have request : (descriptor locator sha256 contentBytes omittedBytes head tail).get "read_request" =
      readRequest locator 0 := rfl
  rw [validateContextOutputReadHandle, ref, request, continues_readRequest]
  rfl

/-- The validator asks for a decodable locator and for the budget; the rest of a presented
descriptor is right. -/
theorem validate_descriptor_iff (digest : isSha256 sha256 = true) :
    (∃ d, validateContextOutputDescriptor host
        (descriptor locator sha256 contentBytes omittedBytes head tail) = .ok d) ↔
      (∃ ref, decodeContextContentLocator host
        "context output descriptor has an invalid read request" (.str locator) = .ok (some ref)) ∧
      ∃ n ≤ maxContextContentSerializedBytes, serializedLength host
        (descriptor locator sha256 contentBytes omittedBytes head tail) = .ok n := by
  have checks : validateContextOutputDescriptor host
      (descriptor locator sha256 contentBytes omittedBytes head tail) =
      (do
        let _ ← requireSha256 (.str sha256)
        let _ ← validateContextOutputReadHandle host
          "context output descriptor has an invalid read request"
          (descriptor locator sha256 contentBytes omittedBytes head tail)
        let length ← serializedLength host
          (descriptor locator sha256 contentBytes omittedBytes head tail)
        if length > maxContextContentSerializedBytes then
          .error (protocolError "context output descriptor exceeds its serialized budget")
        else return descriptor locator sha256 contentBytes omittedBytes head tail) := rfl
  rw [checks, validateReadHandle_descriptor, requireSha256, if_pos digest]
  constructor
  · rintro ⟨d, h⟩
    obtain ⟨_, _, h⟩ := Effect.bind_ok h
    obtain ⟨ref, handle, h⟩ := Effect.bind_ok h
    obtain ⟨n, measured, h⟩ := Effect.bind_ok h
    obtain ⟨decoded, decodes, handle⟩ := Effect.bind_ok handle
    constructor
    · cases decoded with
      | none => cases handle
      | some found => exact ⟨found, decodes⟩
    · split at h
      · cases h
      · rename_i fits
        exact ⟨n, not_lt.mp fits, measured⟩
  · rintro ⟨⟨ref, decodes⟩, n, fits, measured⟩
    refine ⟨descriptor locator sha256 contentBytes omittedBytes head tail, ?_⟩
    rw [decodes, measured]
    simp only [bind, Except.bind, if_neg (not_lt.mpr fits)]
    rfl

/-! ### The size of a descriptor -/

/-- A locator is written as it is, one byte a character. -/
theorem escapedSize_locatorText (ref : ResourceRef) :
    escapedSize (locatorText ref) = (locatorText ref).length :=
  Json.escapedSize_plain fun _ mem => (locatorText_chars mem).2

def descriptorBytes (ref : ResourceRef) (contentBytes omittedBytes : Nat)
    (head tail : List Char) : Nat :=
  335 + (Json.natText contentBytes).length + (Json.natText omittedBytes).length
    + 2 * (21 + (4 * (45 + locatorCost ref) + 2) / 3) + Json.escapedSize head
    + Json.escapedSize tail

theorem escapedSize_sha256 {s : String} (h : isSha256 s = true) :
    escapedSize s.toList = 64 := by
  simp only [isSha256, Bool.and_eq_true, decide_eq_true_eq, List.all_eq_true, Bool.or_eq_true] at h
  obtain ⟨length, digits⟩ := h
  rw [Json.escapedSize_plain, String.length_toList, length]
  intro c mem
  apply isAlnum_plain
  simp only [isAlnum, Bool.or_eq_true, Bool.and_eq_true, decide_eq_true_eq]
  obtain digit | ⟨low, high⟩ := digits c mem
  · exact Or.inr digit
  · exact Or.inl (Or.inr ⟨low, Char.le_trans high (by decide)⟩)

variable {ref : ResourceRef}

theorem size_descriptor (made : Made host ref) (digest : isSha256 sha256 = true)
    (contentBytes omittedBytes : Nat) (head tail : List Char) :
    ((descriptor (String.ofList (locatorText ref)) sha256 contentBytes omittedBytes
      (String.ofList head) (String.ofList tail)).json host.display).size =
      descriptorBytes ref contentBytes omittedBytes head tail := by
  have names : escapedSize "schema_version".toList = 14 ∧
      escapedSize "unchain.tool_output.paged.v1".toList = 28 ∧
      escapedSize "projection".toList = 10 ∧ escapedSize "paged".toList = 5 ∧
      escapedSize "preview".toList = 7 ∧ escapedSize "head".toList = 4 ∧
      escapedSize "tail".toList = 4 ∧ escapedSize "omitted_bytes".toList = 13 ∧
      escapedSize "content_bytes".toList = 13 ∧
      escapedSize "content_sha256".toList = 14 ∧
      escapedSize "full_output_ref".toList = 15 ∧
      escapedSize "read_request".toList = 12 ∧ escapedSize "tool".toList = 4 ∧
      escapedSize "context_content_read".toList = 20 ∧
      escapedSize "arguments".toList = 9 ∧ escapedSize "ref".toList = 3 ∧
      escapedSize "offset".toList = 6 ∧ escapedSize "limit".toList = 5 := by
    decide
  have digits : (Json.natText 0).length = 1 ∧ (Json.intText 8192).length = 4 := by decide
  have natDigits : ∀ n : Nat, Json.intText (n : Int) = Json.natText n := fun _ => rfl
  obtain ⟨_, _, _, _, made⟩ := made
  obtain ⟨kind, id, positive⟩ := ResourceRef.make_spec made
  have length := length_locatorText positive kind id
  simp only [descriptor, readRequest, Value.json, entriesJson, Json.size, Json.sizeMembers, names,
    digits, String.toList_ofList, escapedSize_locatorText, escapedSize_sha256 digest, descriptorBytes,
    natDigits]
  omega

theorem writable_descriptor {locator sha256 : String} {contentBytes omittedBytes : Nat}
    {head tail : String} (content : Printable contentBytes) (omitted : Printable omittedBytes) :
    (descriptor locator sha256 contentBytes omittedBytes head tail).Writable := by
  simp only [descriptor, readRequest, Value.Writable, WritableEntries, true_and, and_true]
  exact ⟨omitted, content, by decide, by decide⟩

/-- The descriptor of a made reference is accepted exactly when its locator is within the
decoder's limit and its canonical JSON within the budget. -/
theorem accepted_descriptor_iff (normalizes : Normalizes host.nfc) (made : Made host ref)
    (encoded : encodeContextContentLocator host ref = .ok locator) (digest : isSha256 sha256 = true)
    (content : Printable contentBytes) (omitted : Printable omittedBytes) (head tail : List Char) :
    (∃ d, validateContextOutputDescriptor host (descriptor locator sha256 contentBytes omittedBytes
        (String.ofList head) (String.ofList tail)) = .ok d) ↔
      locatorCost ref ≤ 707 ∧
      descriptorBytes ref contentBytes omittedBytes head tail ≤
        maxContextContentSerializedBytes := by
  obtain ⟨printable, rfl⟩ := eq_of_encode encoded
  have measured : serializedLength host (descriptor (String.ofList (locatorText ref)) sha256
      contentBytes omittedBytes (String.ofList head) (String.ofList tail)) =
      .ok (descriptorBytes ref contentBytes omittedBytes head tail) := by
    rw [serializedLength, canonicalJson_of_writable (writable_descriptor content omitted),
      Except.map, Json.length_canonical, size_descriptor made digest]
  rw [validate_descriptor_iff digest, measured]
  constructor
  · rintro ⟨⟨found, decodes⟩, n, fits, same⟩
    cases same
    obtain ⟨v, same, short, -⟩ := encode_of_decode decodes
    cases same
    rw [String.length_ofList] at short
    exact ⟨(short_iff made).mp short, fits⟩
  · rintro ⟨cost, fits⟩
    exact ⟨⟨ref, decode_locatorText normalizes made printable ((short_iff made).mpr cost) _⟩, _,
      fits, rfl⟩

end Present

end Unchain.ContextContent
