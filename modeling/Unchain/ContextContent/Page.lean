import Unchain.ContextContent.Locator

/-!
Pages: the bounded view of a durable source that the model reads.

A page carries the bytes at an offset, as text when they are UTF-8 and in Base64 when they
are not, together with the request that continues the read. Its canonical JSON is bounded.
`renderContextContentPage` shortens the bytes until the page fits: it bisects on their
number, although the size of a page is not monotone in it.
-/

namespace Unchain.ContextContent

open Lib Python Journal

abbrev Bytes := Utf8.Bytes

def maxContextContentPageReadBytes : Nat := 8 * 1024

def maxContextContentSerializedBytes : Nat := 12 * 1024

/-- `_require_sha256`. -/
def requireSha256 : Value → Except PyError String
  | .str s =>
    if isSha256 s then .ok s
    else .error (protocolError "context content page has an invalid hash")
  | _ => .error (protocolError "context content page has an invalid hash")

/-- `_require_nonnegative_int`. -/
def requireNonnegativeInt (field : String) : Value → Except PyError Nat
  | .int (.ofNat n) => .ok n
  | _ => .error (protocolError ("context content page has an invalid " ++ field))

/-! ### The page of a capability -/

/-- A page as a capability returns it. -/
structure ContentPage where
  ref : ResourceRef
  mediaType : String
  data : Bytes
  offset : Value
  totalBytes : Value
  sha256 : Value

structure PageFields where
  ref : ResourceRef
  mediaType : String
  data : Bytes
  offset : Nat
  totalBytes : Nat
  sha256 : String

/-- `_page_fields`. -/
def pageFields (page : ContentPage) : Except PyError PageFields := do
  let offset ← requireNonnegativeInt "offset" page.offset
  let totalBytes ← requireNonnegativeInt "total_bytes" page.totalBytes
  if offset > totalBytes || offset + page.data.length > totalBytes then
    .error (protocolError "context content capability returned an invalid page")
  else
    let sha256 ← requireSha256 page.sha256
    return ⟨page.ref, page.mediaType, page.data, offset, totalBytes, sha256⟩

/-- `validate_capability_content_page`. -/
def validateCapabilityContentPage (page : ContentPage) (expectedRef : ResourceRef)
    (expectedOffset requestedLimit : Nat) : Except PyError ContentPage := do
  let fields ← pageFields page
  if fields.ref ≠ expectedRef then
    .error (protocolError "context content page does not match requested ref")
  else if fields.offset ≠ expectedOffset || fields.data.length > requestedLimit then
    .error (protocolError "context content page does not match requested range")
  else if fields.data.length > maxContextContentPageReadBytes then
    .error (protocolError "context content page exceeded source byte limit")
  else if fields.data.isEmpty && fields.offset < fields.totalBytes then
    .error (protocolError "context content page cannot continue without bytes")
  else return page

/-! ### The page of the model -/

/-- `_content`. -/
def content (data : Bytes) : Value :=
  match Utf8.decode? data with
  | some text => .dict [("encoding", .str "utf-8"), ("text", .str (String.ofList text))]
  | none =>
    .dict [("encoding", .str "base64"),
      ("data_base64", .str (String.ofList (Base64.encode .standard data)))]

/-- What all pages of one read have in common. -/
structure PageFrame where
  locator : String
  mediaType : String
  totalBytes : Nat
  sha256 : String

def readRequest (locator : String) (offset : Nat) : Value :=
  .dict [("tool", .str "context_content_read"),
    ("arguments", .dict [("ref", .str locator), ("offset", .int offset), ("limit", .int 8192)])]

/-- `_render_page`. -/
def renderPage (frame : PageFrame) (offset : Nat) (data : Bytes) : Value :=
  let nextOffset := offset + data.length
  let eof := decide (nextOffset ≥ frame.totalBytes)
  .dict [
    ("schema_version", .str "unchain.context_content_page.v1"),
    ("trust", .str "UNTRUSTED_DATA"),
    ("ref", .str frame.locator),
    ("media_type", .str frame.mediaType),
    ("total_bytes", .int frame.totalBytes),
    ("sha256", .str frame.sha256),
    ("offset", .int offset),
    ("page_bytes", .int data.length),
    ("next_offset", if eof then .none else .int nextOffset),
    ("eof", .bool eof),
    ("content", content data),
    ("next_read", if eof then .none else readRequest frame.locator nextOffset)]

section Check

variable (host : Host)

def contentData (c : Value) : Except PyError Bytes :=
  let invalid := .error (protocolError "context content page has invalid content")
  if !(c.isDict && (c.get "encoding").isStr) then invalid
  else if (c.get "encoding").eqPy (.str "utf-8") && hasExactly c ["encoding", "text"] then
    match c.get "text" with
    | .str text => .ok (Utf8.encode text.toList)
    | _ => invalid
  else if (c.get "encoding").eqPy (.str "base64") && hasExactly c ["encoding", "data_base64"] then
    match c.get "data_base64" with
    | .str text =>
      match Base64.decode? .standard text.toList with
      | some data => .ok data
      | none => invalid
    | _ => invalid
  else invalid

/-- The continuation reads on from `nextOffset` under the same locator. -/
def continues (ref : Value) (nextOffset : Nat) (nextRead : Value) : Bool :=
  let arguments := nextRead.get "arguments"
  hasExactly nextRead ["tool", "arguments"]
    && (nextRead.get "tool").eqPy (.str "context_content_read")
    && hasExactly arguments ["ref", "offset", "limit"]
    && (arguments.get "ref").eqPy ref
    && arguments.get "offset" = .int nextOffset
    && arguments.get "limit" = .int 8192

theorem continues_readRequest (locator : String) (offset : Nat) :
    continues (.str locator) offset (readRequest locator offset) = true := by
  have same : (Value.str locator).eqPy (.str locator) = true := Value.eqPy_str_iff.mpr rfl
  simp [continues, readRequest, hasExactly, Value.get, Value.hasKey, Assoc.get, Assoc.has, same,
    Value.eqPy]

def checkEnd (value : Value) (offset pageBytes totalBytes : Nat) : Except PyError Unit :=
  match value.get "eof" with
  | .bool true =>
    if offset + pageBytes ≠ totalBytes || !(value.get "next_offset").isNone
        || !(value.get "next_read").isNone then
      .error (protocolError "context content page has an invalid eof state")
    else .ok ()
  | .bool false =>
    if pageBytes = 0 then
      .error (protocolError "context content page cannot continue without bytes")
    else do
      let nextOffset ← requireNonnegativeInt "next_offset" (value.get "next_offset")
      if nextOffset ≠ offset + pageBytes || nextOffset ≥ totalBytes
          || !continues (value.get "ref") nextOffset (value.get "next_read") then
        .error (protocolError "context content page has an invalid continuation")
      else .ok ()
  | _ => .error (protocolError "context content page has an invalid eof flag")

/-- `len(_canonical_json(value))`. -/
def serializedLength (value : Value) : Except PyError Nat :=
  (canonicalJson host.display value).map List.length

def pageKeys : List String :=
  ["schema_version", "trust", "ref", "media_type", "total_bytes", "sha256", "offset", "page_bytes",
    "next_offset", "eof", "content", "next_read"]

/-- `validate_context_content_page`. -/
def validateContextContentPage (value : Value) : Except PyError Value := do
  if !hasExactly value pageKeys then
    .error (protocolError "context content page has an invalid shape")
  else if !(value.get "schema_version").eqPy (.str "unchain.context_content_page.v1")
      || !(value.get "trust").eqPy (.str "UNTRUSTED_DATA") then
    .error (protocolError "context content page has an invalid version")
  else
    let decoded ← decodeContextContentLocator host "context content page has an invalid locator"
      (value.get "ref")
    if decoded.isNone then
      .error (protocolError "context content page has an invalid locator")
    else
      match value.get "media_type" with
      | .str mediaType =>
        if !mediaType.toList.contains '/' then
          .error (protocolError "context content page has an invalid media type")
        else
          let totalBytes ← requireNonnegativeInt "total_bytes" (value.get "total_bytes")
          let offset ← requireNonnegativeInt "offset" (value.get "offset")
          let pageBytes ← requireNonnegativeInt "page_bytes" (value.get "page_bytes")
          let _ ← requireSha256 (value.get "sha256")
          let data ← contentData (value.get "content")
          if data.length ≠ pageBytes || pageBytes > maxContextContentPageReadBytes then
            .error (protocolError "context content page has an invalid byte count")
          else if offset + pageBytes > totalBytes then
            .error (protocolError "context content page exceeds source bounds")
          else
            checkEnd value offset pageBytes totalBytes
            let length ← serializedLength host value
            if length > maxContextContentSerializedBytes then
              .error (protocolError "context content page exceeds its serialized budget")
            else return value
      | _ => .error (protocolError "context content page has an invalid media type")

/-! ### Rendering within the budget -/

/-- The page with the first `n` bytes fits the budget. -/
def fits (frame : PageFrame) (offset : Nat) (data : Bytes) (n : Nat) : Except PyError Bool := do
  let length ← serializedLength host (renderPage frame offset (data.take n))
  return decide (length ≤ maxContextContentSerializedBytes)

/-- The bisection on the number of bytes. -/
def shrink (fits : Nat → Except PyError Bool) (lower upper : Nat) : Except PyError Nat :=
  if lower < upper then do
    let candidate := (lower + upper + 1) / 2
    if ← fits candidate then shrink fits candidate upper else shrink fits lower (candidate - 1)
  else .ok lower
termination_by upper - lower

/-- `render_context_content_page`. -/
def renderContextContentPage (page : ContentPage) : Except PyError Value := do
  let fields ← pageFields page
  if fields.data.length > maxContextContentPageReadBytes then
    .error (protocolError "context content page exceeded source byte limit")
  else
    let locator ← encodeContextContentLocator host fields.ref
    let frame := ⟨locator, fields.mediaType, fields.totalBytes, fields.sha256⟩
    if ← fits host frame fields.offset fields.data fields.data.length then
      validateContextContentPage host (renderPage frame fields.offset fields.data)
    else if ← fits host frame fields.offset fields.data 0 then
      let lower ← shrink (fits host frame fields.offset fields.data) 0 fields.data.length
      validateContextContentPage host (renderPage frame fields.offset (fields.data.take lower))
    else .error (protocolError "context content page metadata exceeded its budget")

end Check

end Unchain.ContextContent
