import Unchain.Journal.Models

/-!
The screen for credentials in journal payloads (`journal/models.py`).

A key is normalised and classified: a key that looks like a credential may hold only the opaque
metadata that its suffix declares. `MetadataKind.Declares` says what that is for each kind, and
`validateCredentialMetadata_ok_iff` that the screen lets exactly these values pass.
-/

namespace Unchain.Journal

open Lib Lib.Effect Python

/-- The runtime of the screen: `unicodedata.normalize("NFKC", _)` beside the journal's own. -/
structure ScreenHost where
  journal : Host
  nfkc : String → String

/-! ### Keys -/

def isLower (c : Char) : Bool := 'a' ≤ c && c ≤ 'z'
def isUpper (c : Char) : Bool := 'A' ≤ c && c ≤ 'Z'
def isDigit (c : Char) : Bool := '0' ≤ c && c ≤ '9'

/-- `re.sub(r"([a-z0-9])([A-Z])", r"\1_\2", text)`. -/
def separateWords : List Char → List Char
  | [] => []
  | [c] => [c]
  | c :: d :: rest =>
    if (isLower c || isDigit c) && isUpper d then c :: '_' :: separateWords (d :: rest)
    else c :: separateWords (d :: rest)

/-- `_normalize_key`. -/
def normalizeKey (host : ScreenHost) (key : String) : List Char :=
  let separated := String.ofList (separateWords (host.nfkc key).toList)
  stripUnderscores (squeezeType false (host.journal.casefold separated).toList)

/-- `_PLAINTEXT_SECRET_FIELDS`. -/
def plaintextSecretFields : List String :=
  ["access_token", "api_secret", "api_key", "apikey", "auth_token", "authorization",
    "aws_secret_access_key", "bearer_token", "client_secret", "credential", "credentials",
    "id_token", "passwd", "password", "private_key", "refresh_token", "secret", "secret_key",
    "secret_value", "session_token", "signing_key", "webhook_secret"]

/-- `_SAFE_TOKEN_METRIC_FIELDS`. -/
def safeTokenMetricFields : List String :=
  ["attributed_tokens", "available_input_tokens", "cache_read_tokens", "cache_write_1h_tokens",
    "cache_write_5m_tokens", "cache_write_tokens", "cached_tokens", "completion_tokens",
    "consumed_tokens", "context_window_tokens", "estimated_input_tokens", "fixed_overhead_tokens",
    "input_tokens", "max_tokens", "output_reserve_tokens", "output_tokens",
    "pressure_threshold_tokens", "prompt_tokens", "reasoning_tokens", "residual_tokens", "tokens",
    "total_tokens", "transport_margin_tokens", "uncached_tokens", "visible_tokens"]

/-- What a credential's metadata may be. -/
inductive MetadataKind where
  | plaintext
  | identifier
  | identifiers
  | digest
  | boolean
  | integer
  | nullableInteger
  | usage
  | reference
  | references
  | handle

/-- `_CREDENTIAL_METADATA_SUFFIXES`. -/
def credentialMetadataSuffixes : List (String × MetadataKind) :=
  [("_budget", .integer), ("_bytes", .integer), ("_configured", .boolean), ("_count", .integer),
    ("_counts", .integer), ("_digest", .digest), ("_handle", .handle), ("_hash", .digest),
    ("_id", .identifier), ("_ids", .identifiers), ("_length", .integer), ("_limit", .integer),
    ("_limits", .integer), ("_present", .boolean), ("_ref", .reference), ("_refs", .references),
    ("_sha256", .digest), ("_usage", .usage)]

/-- `re.fullmatch(word + r"s?[0-9]*", segment)`. -/
def numberedWord (word : String) (segment : List Char) : Bool :=
  let rest := segment.drop word.length
  word.toList.isPrefixOf segment
    && (rest.all isDigit || (rest.head? = some 's' && rest.tail.all isDigit))

/-- `sensitive_segment`. -/
def sensitiveSegment (segment : List Char) : Bool :=
  ["authorization", "bearer", "cookie", "credential", "passwd", "password", "secret", "token"].any
    fun word => numberedWord word segment

/-- Two neighbouring segments that name a key or a password. -/
def sensitivePair (segment next : List Char) : Bool :=
  (["access", "api", "encryption", "private", "signing"].any (fun word => word.toList = segment)
    && numberedWord "key" next)
  || (segment = "pass".toList && numberedWord "word" next)

/-- The key names a credential. -/
def sensitiveKey (key : List Char) : Bool :=
  let segments := key.splitOn '_'
  plaintextSecretFields.any (fun field => field.toList = key)
    || segments.any sensitiveSegment
    || (segments.zip segments.tail).any fun pair => sensitivePair pair.1 pair.2

/-- `_credential_metadata_kind`. -/
def credentialMetadataKind (key : List Char) : Option MetadataKind :=
  if safeTokenMetricFields.any fun field => field.toList = key then some .nullableInteger
  else if !sensitiveKey key then none
  else match credentialMetadataSuffixes.find? fun entry => entry.1.toList.isSuffixOf key with
    | some entry => some entry.2
    | none => some .plaintext

/-! ### Values -/

/-- `isinstance(value, str) and _IDENTIFIER_RE.fullmatch(value)`. -/
def isIdentifierValue : Value → Bool
  | .str s => isIdentifier s
  | _ => false

/-- `isinstance(value, int) and not isinstance(value, bool) and value >= 0`. -/
def isCount : Value → Bool
  | .int n => 0 ≤ n
  | _ => false

mutual

/-- `valid_usage`. -/
def validUsage : Value → Bool
  | .int n => 0 ≤ n
  | .dict es => validUsageEntries es
  | _ => false

def validUsageEntries : List (String × Value) → Bool
  | [] => true
  | (_, x) :: es => validUsage x && validUsageEntries es

end

/-- The references of the loop over `values`. -/
def checkReferences (host : Host) (invalid : PyError) : List Value → Except PyError Unit
  | [] => .ok ()
  | x :: xs => do
    raiseIf (!x.isDict) invalid
    let _ ← onInvalid invalid (ResourceRef.fromDict host x)
    checkReferences host invalid xs

def handleFields : List String := ["schema", "handle_id", "label", "scope"]

/-- `_validate_credential_metadata` on a key of the given kind. -/
def validateMetadata (host : Host) (path : String) (value : Value) :
    MetadataKind → Except PyError Unit
  | .plaintext =>
    .error (modelValidationError (path ++ " is a plaintext secret field; use an opaque handle"))
  | .identifier => raiseIf (!isIdentifierValue value) (invalid path)
  | .identifiers =>
    raiseIf (!(value.isList && value.items.all isIdentifierValue)) (invalid path)
  | .digest => raiseIf (!(match value with | .str s => isSha256 s | _ => false)) (invalid path)
  | .boolean => raiseIf (!(match value with | .bool _ => true | _ => false)) (invalid path)
  | .integer => raiseIf (!isCount value) (invalid path)
  | .nullableInteger => raiseIf (!(value.isNone || isCount value)) (invalid path)
  | .usage => raiseIf (!validUsage value) (invalid path)
  | .reference => checkReferences host (invalid path) [value]
  | .references => do
    raiseIf (!value.isList) (invalid path)
    checkReferences host (invalid path) value.items
  | .handle => do
    raiseIf (!hasExactly value handleFields) (invalid path)
    raiseIf (!(value.get "schema").eqPy (.str "unchain.opaque_secret_handle.v1")) (invalid path)
    let _ ← requiredIdentifier host "handle_id" (value.get "handle_id")
    let _ ← requiredText host 128 false "label" (value.get "label")
    let _ ← requiredIdentifier host "scope" (value.get "scope")
    return ()
where
  invalid (path : String) : PyError :=
    modelValidationError (path ++ " is not valid opaque credential metadata")

/-- `_validate_credential_metadata`. -/
def validateCredentialMetadata (host : Host) (key : List Char) (value : Value) (path : String) :
    Except PyError Unit :=
  match credentialMetadataKind key with
  | none => .ok ()
  | some kind => validateMetadata host path value kind

/-! ### What the screen lets pass -/

/-- Counts, nested in mappings. -/
inductive Counts : Value → Prop
  | count {n : Int} : 0 ≤ n → Counts (.int n)
  | table {es : Dict} : (∀ e ∈ es, Counts e.2) → Counts (.dict es)

def MetadataKind.Declares (host : Host) : MetadataKind → Value → Prop
  | .plaintext, _ => False
  | .identifier, v => ∃ s, v = .str s ∧ isIdentifier s = true
  | .identifiers, v => ∃ vs, v = .list vs ∧ ∀ x ∈ vs, ∃ s, x = .str s ∧ isIdentifier s = true
  | .digest, v => ∃ s, v = .str s ∧ isSha256 s = true
  | .boolean, v => ∃ b, v = .bool b
  | .integer, v => ∃ n : Int, v = .int n ∧ 0 ≤ n
  | .nullableInteger, v => v = .none ∨ ∃ n : Int, v = .int n ∧ 0 ≤ n
  | .usage, v => Counts v
  | .reference, v => ∃ ref, ResourceRef.fromDict host v = .ok ref
  | .references, v => ∃ vs, v = .list vs ∧ ∀ x ∈ vs, ∃ ref, ResourceRef.fromDict host x = .ok ref
  | .handle, v =>
    hasExactly v handleFields = true ∧
    v.get "schema" = .str "unchain.opaque_secret_handle.v1" ∧
    (∃ s, requiredIdentifier host "handle_id" (v.get "handle_id") = .ok s) ∧
    (∃ s, requiredText host 128 false "label" (v.get "label") = .ok s) ∧
    ∃ s, requiredIdentifier host "scope" (v.get "scope") = .ok s

theorem isIdentifierValue_iff {v : Value} :
    isIdentifierValue v = true ↔ ∃ s, v = .str s ∧ isIdentifier s = true := by
  cases v <;> simp [isIdentifierValue]

theorem isCount_iff {v : Value} : isCount v = true ↔ ∃ n : Int, v = .int n ∧ 0 ≤ n := by
  cases v <;> simp [isCount]

theorem validUsageEntries_iff {es : Dict} :
    validUsageEntries es = true ↔ ∀ e ∈ es, validUsage e.2 = true := by
  induction es with
  | nil => simp [validUsageEntries]
  | cons e es ih =>
    simp [validUsageEntries, ih]

theorem validUsage_iff (v : Value) : validUsage v = true ↔ Counts v := by
  induction v using Value.deepInduction with
  | int n =>
    constructor
    · intro h
      exact .count (by simpa [validUsage] using h)
    · rintro ⟨h⟩
      simpa [validUsage] using h
  | dict es ih =>
    rw [validUsage, validUsageEntries_iff]
    constructor
    · intro h
      exact .table fun e mem => (ih e mem).mp (h e mem)
    · intro h e mem
      cases h with
      | table h => exact (ih e mem).mpr (h e mem)
  | _ =>
    constructor
    · intro h
      cases h
    · intro h
      cases h

theorem fromDict_isDict {host : Host} {v : Value} {ref : ResourceRef}
    (h : ResourceRef.fromDict host v = .ok ref) : v.isDict = true := by
  obtain ⟨raw, record, -⟩ := bind_ok h
  cases v <;> first | rfl | cases record

theorem checkReferences_ok_iff {host : Host} {invalid : PyError} {vs : List Value} :
    checkReferences host invalid vs = .ok () ↔
      ∀ x ∈ vs, ∃ ref, ResourceRef.fromDict host x = .ok ref := by
  induction vs with
  | nil => simp [checkReferences]
  | cons v vs ih =>
    constructor
    · intro h
      obtain ⟨-, h⟩ := raiseIf_bind_ok h
      obtain ⟨ref, read, h⟩ := bind_ok h
      intro x mem
      rcases List.mem_cons.mp mem with rfl | mem
      · exact ⟨ref, onInvalid_ok read⟩
      · exact ih.mp h x mem
    · intro h
      obtain ⟨ref, read⟩ := h v (by simp)
      have others := ih.mpr fun x mem => h x (by simp [mem])
      have dict := fromDict_isDict read
      rw [checkReferences, read, dict]
      exact others

theorem requiredUnit_ok {α : Type} {x : Except PyError α} {f : Except PyError Unit} :
    (x >>= fun _ => f) = .ok () ↔ (∃ a, x = .ok a) ∧ f = .ok () := by
  cases x with
  | error e | ok a => simp [bind, Except.bind]

theorem validateMetadata_ok_iff {host : Host} {path : String} {v : Value} {kind : MetadataKind} :
    validateMetadata host path v kind = .ok () ↔ kind.Declares host v := by
  cases kind with
  | plaintext => simp [validateMetadata, MetadataKind.Declares]
  | identifier => simp [validateMetadata, MetadataKind.Declares, isIdentifierValue_iff]
  | identifiers =>
    cases v <;> simp [validateMetadata, MetadataKind.Declares, isIdentifierValue_iff, Value.isList]
  | digest | boolean => cases v <;> simp [validateMetadata, MetadataKind.Declares]
  | integer => simp [validateMetadata, MetadataKind.Declares, isCount_iff]
  | nullableInteger =>
    cases v <;> simp [validateMetadata, MetadataKind.Declares, isCount, Value.isNone]
  | usage => simp [validateMetadata, MetadataKind.Declares, validUsage_iff]
  | reference =>
    rw [validateMetadata, checkReferences_ok_iff, MetadataKind.Declares]
    simp
  | references =>
    rw [validateMetadata, requiredUnit_ok, checkReferences_ok_iff, MetadataKind.Declares]
    cases v <;> simp [Value.isList, Value.items]
  | handle =>
    simp only [validateMetadata, requiredUnit_ok, MetadataKind.Declares, raiseIf_ok, exists_const,
      Bool.not_eq_false', Value.eqPy_str_iff]
    simp [pure, Except.pure]

end Unchain.Journal
