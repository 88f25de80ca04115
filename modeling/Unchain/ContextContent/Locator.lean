import Unchain.Journal.Models
import Unchain.Lib.Base64
import Unchain.Python.Json

/-!
Locators: the opaque text under which the model names a durable source.

A locator is the canonical JSON of a reference in URL-safe Base64 without padding, behind
a fixed prefix. The encoder takes every reference; the decoder refuses a text of more than
1024 characters, reads the payload strictly and checks that the reference it found encodes
to the very text it was given.
-/

namespace Unchain.ContextContent

open Lib Python Journal

/-- `ContextContentProtocolError` is a `ValueError`. -/
def protocolError (message : String) : PyError := .valueError message

def contextProtocolPrefix : String := "unchain://context/"

def locatorPrefix : String := "unchain://context/v1/"

def locatorKeys : List (List Char) :=
  ["fragment".toList, "id".toList, "kind".toList, "revision".toList]

/-- `s.startswith(p)`. -/
def startsWith (p s : String) : Bool := p.toList.isPrefixOf s.toList

/-- `cs.rstrip("=")`. -/
def rstripPad (cs : List Char) : List Char := (cs.reverse.dropWhile (· = Base64.pad)).reverse

section Codec

variable (host : Host)

def locatorPayload (ref : ResourceRef) : Value :=
  .dict [("fragment", .str ref.fragment), ("id", .str ref.resourceId), ("kind", .str ref.kind),
    ("revision", .int ref.revision)]

/-- `encode_context_content_locator`. -/
def encodeContextContentLocator (ref : ResourceRef) : Except PyError String := do
  let payload ← canonicalJson host.display (locatorPayload ref)
  return String.ofList (locatorPrefix.toList ++ rstripPad (Base64.encode .urlSafe payload))

/-- `[A-Za-z0-9_-]`. -/
def isTokenChar (c : Char) : Bool := isAlnum c || c = '_' || c = '-'

/-- The members of the object behind a token. -/
def locatorPairs? (token : List Char) : Option (List (List Char × Json)) := do
  let padding := List.replicate ((4 - token.length % 4) % 4) Base64.pad
  let decoded ← Base64.decode? .urlSafe (token ++ padding)
  let text ← Utf8.decode? decoded
  match ← Json.read text with
  | .obj pairs => some pairs
  | _ => none

/-- The keys are the expected ones, each once. -/
def hasLocatorKeys (pairs : List (List Char × Json)) : Bool :=
  let keys := pairs.map Prod.fst
  decide keys.Nodup && keys.all (locatorKeys.contains ·) && locatorKeys.all (keys.contains ·)

/-- The reference behind the members of a payload. -/
def locatorRef (errorMessage : String) (pairs : List (List Char × Json)) :
    Except PyError ResourceRef :=
  match pairs.lookup "fragment".toList, pairs.lookup "id".toList, pairs.lookup "kind".toList,
      pairs.lookup "revision".toList with
  | some (.str fragment), some (.str id), some (.str kind), some (.int revision) =>
    if revision < 1 then .error (protocolError errorMessage)
    else onInvalid (protocolError errorMessage)
      (ResourceRef.make host (.str (String.ofList kind)) (.str (String.ofList id)) (.int revision)
        (.str (String.ofList fragment)))
  | _, _, _, _ => .error (protocolError errorMessage)

/-- `decode_context_content_locator`. The result `none` leaves the value to the host. -/
def decodeContextContentLocator (errorMessage : String) :
    Value → Except PyError (Option ResourceRef)
  | .str value =>
    let refused := .error (protocolError errorMessage)
    if startsWith contextProtocolPrefix (strip value) && value != strip value then refused
    else if startsWith contextProtocolPrefix value && !startsWith locatorPrefix value then refused
    else if !startsWith locatorPrefix value then .ok none
    else if value.length > 1024 || value.toList.contains '\x00' then refused
    else
      let token := value.toList.drop locatorPrefix.length
      if token.isEmpty || !token.all isTokenChar then refused
      else
        match locatorPairs? token with
        | none => refused
        | some pairs =>
          if !hasLocatorKeys pairs then refused
          else do
            let ref ← locatorRef host errorMessage pairs
            let again ← encodeContextContentLocator host ref
            if again != value then refused else return some ref
  | _ => .ok none

end Codec

/-! ### The payload as text -/

section Payload

variable {host : Host}

/-- The JSON value of a payload, in the order of the names. -/
def payloadJson (ref : ResourceRef) : Json :=
  .obj [("fragment".toList, .str ref.fragment.toList), ("id".toList, .str ref.resourceId.toList),
    ("kind".toList, .str ref.kind.toList), ("revision".toList, .int ref.revision)]

theorem sorted_payloadJson (ref : ResourceRef) : (payloadJson ref).sorted = payloadJson ref := by
  have ordered : List.Pairwise Json.NameLE
      [("fragment".toList, Json.str ref.fragment.toList), ("id".toList, .str ref.resourceId.toList),
        ("kind".toList, .str ref.kind.toList), ("revision".toList, .int ref.revision)] := by
    simp [Json.NameLE]
  simp only [payloadJson, Json.sorted, Json.sortedMembers]
  rw [List.Pairwise.insertionSort_eq ordered]

variable {ref : ResourceRef}

theorem canonicalJson_payload (printable : Printable ref.revision) :
    canonicalJson host.display (locatorPayload ref) = .ok (Utf8.encode (payloadJson ref).write) := by
  have writable : (locatorPayload ref).Writable := by
    simp only [locatorPayload, Value.Writable, WritableEntries, true_and, and_true]
    exact printable
  have json : (locatorPayload ref).json host.display = payloadJson ref := by
    simp only [locatorPayload, Value.json, entriesJson, payloadJson]
  rw [canonicalJson_of_writable writable, json, Json.canonical, sorted_payloadJson]

theorem printable_of_canonicalJson {bs : Utf8.Bytes}
    (h : canonicalJson host.display (locatorPayload ref) = .ok bs) : Printable ref.revision := by
  have writable := writable_of_canonicalJson h
  simp only [locatorPayload, Value.Writable, WritableEntries, true_and, and_true] at writable
  exact writable

/-- The bytes of a payload that its reference decides. -/
def locatorCost (ref : ResourceRef) : Nat :=
  ref.kind.length + ref.resourceId.length + (Json.natText ref.revision.natAbs).length
    + Json.escapedSize ref.fragment.toList

variable {c : Char}

theorem isAlnum_range (h : isAlnum c = true) :
    (0x30 ≤ c.toNat ∧ c.toNat ≤ 0x39) ∨ (0x41 ≤ c.toNat ∧ c.toNat ≤ 0x5A) ∨
      (0x61 ≤ c.toNat ∧ c.toNat ≤ 0x7A) := by
  simp only [isAlnum, Bool.or_eq_true, Bool.and_eq_true, decide_eq_true_eq, Char.le_def,
    UInt32.le_iff_toNat_le] at h
  have value : c.val.toNat = c.toNat := rfl
  obtain (⟨low, high⟩ | ⟨low, high⟩) | ⟨low, high⟩ := h
  · exact Or.inr (Or.inl ⟨low, high⟩)
  · exact Or.inr (Or.inr ⟨low, high⟩)
  · exact Or.inl ⟨low, high⟩

theorem isAlnum_plain (h : isAlnum c = true) : Json.PlainChar c := by
  have range := isAlnum_range h
  refine ⟨by omega, by omega, ?_⟩
  rintro rfl
  exact absurd h (by decide)

variable {s : String}

theorem identifier_plain (h : isIdentifier s = true) (mem : c ∈ s.toList) : Json.PlainChar c := by
  unfold isIdentifier at h
  split at h
  · cases h
  · rename_i d ds eq
    rw [eq] at mem
    simp only [Bool.and_eq_true, List.all_eq_true, Bool.or_eq_true, decide_eq_true_eq] at h
    obtain ⟨⟨first, -⟩, rest⟩ := h
    obtain rfl | mem := List.mem_cons.mp mem
    · exact isAlnum_plain first
    · obtain (((alnum | rfl) | rfl) | rfl) | rfl := rest c mem
      · exact isAlnum_plain alnum
      all_goals decide

/-- An identifier takes one byte a character. -/
theorem escapedSize_identifier (h : isIdentifier s = true) :
    Json.escapedSize s.toList = s.length := by
  rw [Json.escapedSize_plain fun c mem => identifier_plain h mem, String.length_toList]

theorem intText_of_pos {n : Int} (positive : 1 ≤ n) : Json.intText n = Json.natText n.natAbs := by
  cases n with
  | ofNat n => rfl
  | negSucc n => omega

theorem size_payload (positive : 1 ≤ ref.revision) (kind : isIdentifier ref.kind = true)
    (id : isIdentifier ref.resourceId = true) : (payloadJson ref).size = 45 + locatorCost ref := by
  have names : Json.escapedSize "fragment".toList = 8 ∧ Json.escapedSize "id".toList = 2 ∧
      Json.escapedSize "kind".toList = 4 ∧ Json.escapedSize "revision".toList = 8 := by decide
  simp only [payloadJson, Json.size, Json.sizeMembers, names, escapedSize_identifier kind,
    escapedSize_identifier id, intText_of_pos positive, locatorCost]
  omega

/-! ### The text of a locator -/

theorem rstripPad_encode (alphabet : Base64.Alphabet) (bs : Utf8.Bytes) :
    rstripPad (Base64.encode alphabet bs) = Base64.encodeBare alphabet bs := by
  have noPad : ∀ c ∈ (Base64.encodeBare alphabet bs).reverse, decide (c = Base64.pad) = false := by
    intro c mem
    obtain ⟨n, small, rfl⟩ := Base64.inAlphabet_bare (List.mem_reverse.mp mem)
    exact decide_eq_false (Base64.charOf_ne_pad n small)
  rw [rstripPad, Base64.encode_eq_bare, List.reverse_append, List.reverse_replicate,
    List.dropWhile_append_of_pos]
  · rw [dropWhile_eq_self noPad, List.reverse_reverse]
  · intro c mem
    rw [List.eq_of_mem_replicate mem]
    rfl

/-- The characters of the locator of a reference. -/
def locatorText (ref : ResourceRef) : List Char :=
  locatorPrefix.toList ++ Base64.encodeBare .urlSafe (Utf8.encode (payloadJson ref).write)

theorem encode_eq (printable : Printable ref.revision) :
    encodeContextContentLocator host ref = .ok (String.ofList (locatorText ref)) := by
  rw [encodeContextContentLocator, canonicalJson_payload printable]
  simp only [bind, Except.bind, rstripPad_encode]
  rfl

theorem eq_of_encode {v : String} (h : encodeContextContentLocator host ref = .ok v) :
    Printable ref.revision ∧ v = String.ofList (locatorText ref) := by
  obtain ⟨payload, wrote, -⟩ := Effect.bind_ok h
  have printable := printable_of_canonicalJson wrote
  rw [encode_eq printable] at h
  cases h
  exact ⟨printable, rfl⟩

theorem length_locatorText (positive : 1 ≤ ref.revision) (kind : isIdentifier ref.kind = true)
    (id : isIdentifier ref.resourceId = true) :
    (locatorText ref).length = 21 + (4 * (45 + locatorCost ref) + 2) / 3 := by
  have bytes : (Utf8.encode (payloadJson ref).write).length = 45 + locatorCost ref := by
    rw [← size_payload positive kind id, ← Json.bytesOf_write, Json.bytesOf]
  rw [locatorText, List.length_append, Base64.length_bare, bytes]
  rfl

theorem token_chars : ∀ n < 64, isTokenChar (Base64.charOf .urlSafe n) = true ∧
    isSpace (Base64.charOf .urlSafe n) = false ∧ Json.PlainChar (Base64.charOf .urlSafe n) := by
  decide

theorem prefix_chars : ∀ c ∈ locatorPrefix.toList, isSpace c = false ∧ Json.PlainChar c := by
  have all : (locatorPrefix.toList.all fun c =>
      decide (isSpace c = false ∧ Json.PlainChar c)) = true := by decide
  intro c mem
  exact of_decide_eq_true (List.all_eq_true.mp all c mem)

theorem locatorText_chars (mem : c ∈ locatorText ref) : isSpace c = false ∧ Json.PlainChar c := by
  obtain inPrefix | inToken := List.mem_append.mp mem
  · exact prefix_chars c inPrefix
  · obtain ⟨n, small, rfl⟩ := Base64.inAlphabet_bare inToken
    exact (token_chars n small).2

theorem plain_payloadJson (ref : ResourceRef) : (payloadJson ref).Plain := by
  simp [payloadJson, Json.Plain, Json.PlainMembers]

/-- The decoder finds the members of the payload. -/
theorem locatorPairs?_bare (ref : ResourceRef) :
    locatorPairs? (Base64.encodeBare .urlSafe (Utf8.encode (payloadJson ref).write)) =
      some [("fragment".toList, .str ref.fragment.toList), ("id".toList, .str ref.resourceId.toList),
        ("kind".toList, .str ref.kind.toList), ("revision".toList, .int ref.revision)] := by
  rw [locatorPairs?]
  simp only [← Base64.encode_eq_bare, Base64.decode?_encode, Utf8.decode?_encode,
    Json.read_write (plain_payloadJson ref), Option.bind_eq_bind, Option.bind_some]
  rfl

end Payload

/-! ### Decoding what was encoded -/

section RoundTrip

variable {host : Host}

/-- The constructor accepted the reference. -/
def Made (host : Host) (ref : ResourceRef) : Prop :=
  ∃ kind resourceId revision fragment,
    ResourceRef.make host kind resourceId revision fragment = .ok ref

variable {ref : ResourceRef}

theorem locatorRef_payload (normalizes : Normalizes host.nfc) (made : Made host ref)
    (errorMessage : String) : locatorRef host errorMessage
      [("fragment".toList, .str ref.fragment.toList), ("id".toList, .str ref.resourceId.toList),
        ("kind".toList, .str ref.kind.toList), ("revision".toList, .int ref.revision)] =
      .ok ref := by
  obtain ⟨kind, resourceId, revision, fragment, made⟩ := made
  have positive := (ResourceRef.make_spec made).2.2
  have again := ResourceRef.make_again normalizes made
  simp [locatorRef, List.lookup_cons, String.ofList_toList, again, show ¬ ref.revision < 1 by omega,
    onInvalid]

theorem decode_locatorText (normalizes : Normalizes host.nfc) (made : Made host ref)
    (printable : Printable ref.revision) (short : (locatorText ref).length ≤ 1024)
    (errorMessage : String) :
    decodeContextContentLocator host errorMessage (.str (String.ofList (locatorText ref))) =
      .ok (some ref) := by
  have strips : strip (String.ofList (locatorText ref)) = String.ofList (locatorText ref) := by
    rw [strip, String.toList_ofList, stripChars_of_no_space fun c mem => (locatorText_chars mem).1]
  have starts : startsWith locatorPrefix (String.ofList (locatorText ref)) = true := by
    rw [startsWith, String.toList_ofList, List.isPrefixOf_iff_prefix, locatorText]
    exact List.prefix_append _ _
  have noZero : (locatorText ref).contains '\x00' = false := by
    rw [List.contains_eq_mem, decide_eq_false_iff_not]
    exact fun mem => absurd (locatorText_chars mem).2 (by decide)
  have token : (locatorText ref).drop locatorPrefix.length =
      Base64.encodeBare .urlSafe (Utf8.encode (payloadJson ref).write) := by
    rw [locatorText, ← String.length_toList, List.drop_left]
  have tokenOk : (Base64.encodeBare .urlSafe (Utf8.encode (payloadJson ref).write)).isEmpty = false ∧
      (Base64.encodeBare .urlSafe (Utf8.encode (payloadJson ref).write)).all isTokenChar = true := by
    constructor
    · rw [List.isEmpty_eq_false_iff, ← List.length_pos_iff, Base64.length_bare]
      have := Json.length_pos_write (plain_payloadJson ref)
      have := Utf8.length_le_encode (payloadJson ref).write
      omega
    · rw [List.all_eq_true]
      intro c mem
      obtain ⟨n, small, rfl⟩ := Base64.inAlphabet_bare mem
      exact (token_chars n small).1
  have keys : hasLocatorKeys
      [("fragment".toList, .str ref.fragment.toList), ("id".toList, .str ref.resourceId.toList),
        ("kind".toList, .str ref.kind.toList), ("revision".toList, .int ref.revision)] = true := rfl
  unfold decodeContextContentLocator
  simp only [strips, starts, String.toList_ofList, String.length_ofList, noZero, token, tokenOk,
    bne_self_eq_false, Bool.and_false, Bool.not_true, Bool.or_false, Bool.false_eq_true, if_false,
    locatorPairs?_bare, keys, locatorRef_payload normalizes made]
  rw [if_neg (by simpa using short)]
  simp only [bind, Except.bind, encode_eq printable, bne_self_eq_false, Bool.false_eq_true,
    if_false]
  rfl

theorem encode_of_decode {errorMessage : String} {value : Value}
    (h : decodeContextContentLocator host errorMessage value = .ok (some ref)) :
    ∃ v, value = .str v ∧ v.length ≤ 1024 ∧ encodeContextContentLocator host ref = .ok v := by
  unfold decodeContextContentLocator at h
  split at h
  · rename_i v
    simp only at h
    split at h
    · cases h
    split at h
    · cases h
    split at h
    · cases h
    split at h
    · cases h
    rename_i short
    split at h
    · cases h
    split at h
    · cases h
    split at h
    · cases h
    obtain ⟨found, -, h⟩ := Effect.bind_ok h
    obtain ⟨again, encoded, h⟩ := Effect.bind_ok h
    split at h
    · cases h
    · rename_i same
      cases h
      have short : v.length ≤ 1024 := by
        simp only [Bool.or_eq_true, decide_eq_true_eq, not_or] at short
        omega
      have same : again = v := by simpa using same
      exact ⟨v, rfl, short, by rw [encoded, same]⟩
  · cases h

def RoundTrips (host : Host) (ref : ResourceRef) : Prop :=
  ∃ v, encodeContextContentLocator host ref = .ok v ∧
    ∀ errorMessage, decodeContextContentLocator host errorMessage (.str v) = .ok (some ref)

/-- Seven hundred and seven bytes of identifiers, digits and escaped fragment fit under the
limit of 1024 characters, and one more does not. -/
theorem short_iff (made : Made host ref) :
    (locatorText ref).length ≤ 1024 ↔ locatorCost ref ≤ 707 := by
  obtain ⟨_, _, _, _, made⟩ := made
  obtain ⟨kind, id, positive⟩ := ResourceRef.make_spec made
  rw [length_locatorText positive kind id]
  omega

theorem printable_of_cost (cost : locatorCost ref ≤ 707) : Printable ref.revision := by
  have digits : (Json.natText ref.revision.natAbs).length ≤ 707 := by
    unfold locatorCost at cost
    omega
  exact digits.trans (by decide)

theorem roundTrips_iff (normalizes : Normalizes host.nfc) (made : Made host ref) :
    RoundTrips host ref ↔ locatorCost ref ≤ 707 := by
  constructor
  · rintro ⟨v, encoded, decoded⟩
    obtain ⟨-, eq⟩ := eq_of_encode encoded
    obtain ⟨w, same, short, -⟩ := encode_of_decode (decoded "")
    cases same
    rw [eq, String.length_ofList] at short
    exact (short_iff made).mp short
  · intro cost
    have printable := printable_of_cost cost
    exact ⟨_, encode_eq printable,
      decode_locatorText normalizes made printable ((short_iff made).mpr cost)⟩

/-- A reference survives its locator exactly when its payload is within the decoder's
limit; what the decoder accepts always encodes to the text it was given. -/
theorem locator_round_trips_iff_within_limit (normalizes : Normalizes host.nfc) :
    (∀ ref, Made host ref → (RoundTrips host ref ↔ locatorCost ref ≤ 707)) ∧
    (∀ errorMessage v ref,
      decodeContextContentLocator host errorMessage (.str v) = .ok (some ref) →
        encodeContextContentLocator host ref = .ok v) := by
  constructor
  · intro ref made
    exact roundTrips_iff normalizes made
  · intro errorMessage v ref decoded
    obtain ⟨w, same, -, encoded⟩ := encode_of_decode decoded
    cases same
    exact encoded

end RoundTrip

/-! ### A short reference and a long one -/

def reportRef : ResourceRef := ⟨"artifact", "report", 1, ""⟩

theorem makeReport :
    ResourceRef.make plainHost (.str "artifact") (.str "report") (.int 1) (.str "") =
      .ok reportRef := by
  decide

theorem made_reportRef : Made plainHost reportRef :=
  ⟨.str "artifact", .str "report", .int 1, .str "", makeReport⟩

/-- A short reference is within the limit, and survives. -/
theorem report_round_trips : Made plainHost reportRef ∧ RoundTrips plainHost reportRef := by
  refine ⟨made_reportRef, ?_⟩
  have within := (locator_round_trips_iff_within_limit normalizes_plainHost).1 reportRef
    made_reportRef
  exact within.mpr (by decide)

def longFragment : List Char := List.replicate 512 '€'

/-- A part of the report, under the longest fragment a reference may have. -/
def longRef : ResourceRef := ⟨"artifact", "report", 1, String.ofList longFragment⟩

theorem optionalText_longFragment :
    optionalText plainHost 512 "fragment" (.str (String.ofList longFragment)) =
      .ok (String.ofList longFragment) := by
  have stripped : strip (String.ofList longFragment) = String.ofList longFragment := by
    rw [strip, String.toList_ofList, stripChars_of_no_space]
    intro c mem
    rw [List.eq_of_mem_replicate mem]
    decide
  have normalized : plainHost.nfc (String.ofList longFragment) = String.ofList longFragment := rfl
  have nonempty : (String.ofList longFragment).isEmpty = false := by
    rw [Bool.eq_false_iff, ne_eq, String.isEmpty_iff, ← String.toList_inj, String.toList_ofList]
    simp [longFragment]
  have notEmpty : ¬ ((Value.str (String.ofList longFragment)).isNone ||
      (Value.str (String.ofList longFragment)).eqPy (.str "")) = true := by
    simpa [Value.isNone, Value.eqPy] using nonempty
  have sized : longFragment.length = 512 := List.length_replicate
  have printable : longFragment.contains '\x00' = false ∧
      longFragment.any (fun c => c.toNat < 32) = false := by decide +kernel
  rw [optionalText, if_neg notEmpty, requiredText]
  simp only [stripped, normalized, nonempty, String.length_ofList, String.toList_ofList, sized,
    printable]
  rfl

/-- The fragment is no longer than the constructor allows; the decoder refuses the locator. -/
theorem long_fragment_not_round_trips :
    Made plainHost longRef ∧ ¬ RoundTrips plainHost longRef := by
  have isLocal : ResourceRef.escapesReference (String.ofList longFragment).toList = false := by
    rw [String.toList_ofList]
    decide +kernel
  have made : Made plainHost longRef := by
    obtain ⟨kindOk, idOk, revisionOk, -, -⟩ := ResourceRef.make_fields makeReport
    exact ⟨_, _, _, _, ResourceRef.make_of_fields kindOk idOk revisionOk optionalText_longFragment
      isLocal⟩
  refine ⟨made, fun trips => ?_⟩
  have within := (roundTrips_iff normalizes_plainHost made).mp trips
  have size : Json.escapedSize longRef.fragment.toList = 1536 := by
    rw [longRef, String.toList_ofList]
    decide +kernel
  rw [locatorCost] at within
  omega

end Unchain.ContextContent
