import Unchain.Providers.DurableTurn
import Unchain.Providers.LeaseSafety

/-!
The records a durable turn writes pass the checks of their constructors.

A turn of a made envelope builds subjects, operations, bindings and leases from parts that were
checked before; each of them is accepted as it is.
-/

namespace Unchain.Providers

open Lib Journal Python

/-- What is relied on of normalization and of SHA-256: ASCII text is left alone, and a digest is
written in 64 lowercase hexadecimal digits. -/
structure PlainTexts (host : Host) : Prop where
  nfc_ascii : ∀ s, s.toList.all (fun c => c.toNat < 128) = true → host.nfc s = s
  digest_sha256 : ∀ v, isSha256 (host.digest v) = true

/-- The characters that may follow in an identifier. -/
def isIdentifierChar (c : Char) : Bool :=
  isAlnum c || c = '.' || c = '_' || c = ':' || c = '-'

variable {c : Char}

theorem isIdentifierChar_bounds (h : isIdentifierChar c = true) : 45 ≤ c.toNat ∧ c.toNat ≤ 122 := by
  simp only [isIdentifierChar, isAlnum, Bool.or_eq_true, Bool.and_eq_true, decide_eq_true_eq,
    Char.le_def, UInt32.le_iff_toNat_le, Char.toNat_val, Char.reduceToNat] at h
  rcases h with ((((((h | h) | h) | rfl) | rfl) | rfl) | rfl)
  · omega
  · omega
  · omega
  · decide
  · decide
  · decide
  · decide

theorem isSpace_of_isIdentifierChar (h : isIdentifierChar c = true) : isSpace c = false := by
  have bounds := isIdentifierChar_bounds h
  exact isSpace_of_ascii (by omega) (by omega)

section Texts

variable {host : Host} {s : String}

theorem strip_plain (chars : ∀ c ∈ s.toList, isIdentifierChar c = true) : strip s = s := by
  rw [strip, stripChars_of_no_space fun c mem => isSpace_of_isIdentifierChar (chars c mem),
    String.ofList_toList]

theorem nfc_plain (plain : PlainTexts host) (chars : ∀ c ∈ s.toList, isIdentifierChar c = true) :
    host.nfc s = s := by
  apply plain.nfc_ascii
  rw [List.all_eq_true]
  intro c mem
  have bounds := isIdentifierChar_bounds (chars c mem)
  simp only [decide_eq_true_eq]
  omega

theorem printable_plain (chars : ∀ c ∈ s.toList, isIdentifierChar c = true) :
    s.toList.any (fun c => c.toNat < 32) = false := by
  rw [List.any_eq_false]
  intro c mem
  have bounds := isIdentifierChar_bounds (chars c mem)
  simp only [decide_eq_true_eq]
  omega

variable {field : String}

theorem requiredIdentifier_plain (plain : PlainTexts host)
    (chars : ∀ c ∈ s.toList, isIdentifierChar c = true) (identifier : isIdentifier s = true)
    (short : s.length ≤ 256) : requiredIdentifier host field (.str s) = .ok s := by
  have stripped := strip_plain chars
  have normal := nfc_plain plain chars
  have nonempty : s.isEmpty = false := by
    cases empty : s.isEmpty with
    | false => rfl
    | true =>
      rw [String.isEmpty_iff] at empty
      subst empty
      simp [isIdentifier] at identifier
  have zero : s.toList.contains '\x00' = false := by
    rw [List.contains_eq_mem, decide_eq_false_iff_not]
    intro mem
    have bounds := isIdentifierChar_bounds (chars _ mem)
    exact absurd bounds.1 (by decide)
  have printable := printable_plain chars
  have fits : decide (s.length > 256) = false := by
    simp only [decide_eq_false_iff_not]
    omega
  simp only [requiredIdentifier, requiredText, stripped, normal, nonempty, fits, zero, printable,
    identifier, Bool.or_false, Bool.not_true, Bool.and_false, Bool.false_eq_true, if_false]

theorem sha256Text_of (h : isSha256 s = true) : sha256Text field (.str s) = .ok s := by
  rw [sha256Text, if_pos h]

theorem canonicalText_plain (plain : PlainTexts host)
    (chars : ∀ c ∈ s.toList, isIdentifierChar c = true) (nonempty : s ≠ "")
    (short : s.length ≤ 128) : canonicalText host field (.str s) = .ok s := by
  have stripped := strip_plain chars
  have normal := nfc_plain plain chars
  have printable := printable_plain chars
  have fits : decide (s.length > 128) = false := by
    simp only [decide_eq_false_iff_not]
    omega
  have filled : s.isEmpty = false := by
    cases empty : s.isEmpty with
    | false => rfl
    | true =>
      rw [String.isEmpty_iff] at empty
      exact absurd empty nonempty
  simp only [canonicalText, stripped, normal, filled, fits, printable, ne_eq, not_true_eq_false,
    decide_false, Bool.or_false, Bool.false_eq_true, if_false]

variable {route : ProviderRoute}

theorem route_canonical (plain : PlainTexts host) :
    canonicalText host "route" (.str route.text) = .ok route.text := by
  cases route with
  | primary | openaiPreviousResponseFallback =>
    apply canonicalText_plain plain
    · decide
    · decide
    · decide

theorem classification_canonical (plain : PlainTexts host) (c : FailureClassification) :
    canonicalText host "classification" (.str c.text) = .ok c.text := by
  cases c <;> (apply canonicalText_plain plain <;> decide)

theorem boundedInt_of {maximum n : Nat} (h : n ≤ maximum) :
    boundedInt field maximum (.int n) = .ok n := by
  have bounds : (0 : Int) ≤ n ∧ (n : Int) ≤ maximum := by omega
  rw [boundedInt, if_pos bounds, Int.toNat_natCast]

theorem read_text : ProviderRoute.read route.text = some route := by
  cases route <;> decide

theorem read_classification (c : FailureClassification) :
    FailureClassification.read c.text = some c := by
  cases c <;> decide

/-! ### Operations -/

/-- An operation that is read back as it is. -/
def OperationExact (host : Host) (operation : OperationRef) : Prop :=
  OperationRef.fromDict host operation.toDict = .ok operation

def turnPhases : List String :=
  ["claim", "failure", "uncertainty", "completion", "result-artifact", "result-event"]

theorem isIdentifierChar_of_sha256 (h : isSha256 s = true) :
    ∀ c ∈ s.toList, isIdentifierChar c = true := by
  intro c mem
  rw [isSha256, Bool.and_eq_true, List.all_eq_true] at h
  have digit := h.2 c mem
  simp only [isIdentifierChar, isAlnum, Bool.or_eq_true, Bool.and_eq_true, decide_eq_true_eq,
    Char.le_def, UInt32.le_iff_toNat_le, Char.toNat_val, Char.reduceToNat] at digit ⊢
  omega

theorem operation_made (plain : PlainTexts host) (subject : ProviderRequestSubject)
    {phase : String} (known : phase ∈ turnPhases) (detail : Value) :
    ∃ operation, TurnRuntime.operation host subject phase detail = .ok operation ∧
      OperationExact host operation := by
  let shortDigest := String.ofList ((host.digest subject.toDict).toList.take 32)
  let id := "provider-turn-" ++ phase ++ "-" ++ shortDigest
  have digest := plain.digest_sha256 subject.toDict
  have shortChars : ∀ c ∈ shortDigest.toList, isIdentifierChar c = true := by
    intro c mem
    rw [String.toList_ofList] at mem
    exact isIdentifierChar_of_sha256 digest c (List.mem_of_mem_take mem)
  have phaseChars : ∀ c ∈ phase.toList, isIdentifierChar c = true := by
    revert known phase
    decide
  have headChars : ∀ c ∈ "provider-turn-".toList, isIdentifierChar c = true := by decide
  have phaseShort : phase.length ≤ 20 := by
    revert known phase
    decide
  have shortLength : shortDigest.length ≤ 32 := by
    rw [← String.length_toList, String.toList_ofList]
    exact List.length_take_le _ _
  have idChars : ∀ c ∈ id.toList, isIdentifierChar c = true := by
    intro c mem
    simp only [id, String.toList_append, List.mem_append] at mem
    rcases mem with ((mem | mem) | mem) | mem
    · exact headChars c mem
    · exact phaseChars c mem
    · rw [show "-".toList = ['-'] from rfl, List.mem_singleton] at mem
      rw [mem]
      rfl
    · exact shortChars c mem
  have idLength : id.length ≤ 256 := by
    have head : "provider-turn-".length = 14 := rfl
    have dash : "-".length = 1 := rfl
    simp only [id, String.length_append, head, dash]
    omega
  have idIdentifier : isIdentifier id = true := by
    have split : id.toList = 'p' :: ("rovider-turn-".toList ++ phase.toList ++ "-".toList
        ++ shortDigest.toList) := by
      simp only [id, String.toList_append]
      rfl
    have total : id.toList.length ≤ 256 := by
      exact idLength
    rw [split] at total idChars
    simp only [isIdentifier, split]
    rw [Bool.and_eq_true, Bool.and_eq_true, decide_eq_true_eq, List.all_eq_true]
    refine ⟨⟨by decide, ?_⟩, fun c mem => idChars c (List.mem_cons_of_mem _ mem)⟩
    exact Nat.le_of_succ_le_succ total
  have identifier : ∀ field, requiredIdentifier host field (.str id) = .ok id :=
    fun field => requiredIdentifier_plain plain idChars idIdentifier idLength
  have payload := plain.digest_sha256 (Value.dict
    [("schema", .str "unchain.durable_provider_turn_operation.v1"), ("phase", .str phase),
      ("subject", subject.toDict), ("detail", detail)])
  have made : ∀ v, isSha256 v = true →
      OperationRef.make host (.str id) (.str v) = .ok ⟨id, v⟩ := by
    intro v sha
    rw [OperationRef.make, identifier]
    rw [sha256Text_of sha]
    rfl
  exact ⟨_, made _ payload, made _ payload⟩

/-! ### Subjects -/

variable {envelope : ProviderWireEnvelope}

def ProviderWireEnvelope.subject (envelope : ProviderWireEnvelope) (route : ProviderRoute)
    (ordinal : Nat) : ProviderRequestSubject :=
  ⟨envelope.attempt, envelope.iteration, envelope.envelopeSha256, route, ordinal⟩

variable {ordinal : Nat}

section

variable (plain : PlainTexts host) (made : envelope.Made host)

include plain made

theorem subject_make (route : ProviderRoute)
    (bounded : ordinal ≤ maxProviderRequestRetryOrdinal) :
    TurnRuntime.subjectOf host envelope route ordinal = .ok (envelope.subject route ordinal) := by
  rw [TurnRuntime.subjectOf, ProviderRequestSubject.make, made.attempt]
  show (boundedInt "iteration" _ (.int envelope.iteration) >>= fun _ => _) = _
  rw [boundedInt_of made.iteration]
  rw [sha256Text_of made.envelopeSha256]
  rw [route_canonical plain]
  simp only [bind, Except.bind, read_text]
  rw [boundedInt_of bounded]
  rfl

theorem subject_past_last (past : maxProviderRequestRetryOrdinal < ordinal) :
    ∃ m, TurnRuntime.subjectOf host envelope route ordinal = .error (.valueError m) := by
  rw [TurnRuntime.subjectOf, ProviderRequestSubject.make, made.attempt]
  show ∃ m, (boundedInt "iteration" _ (.int envelope.iteration) >>= fun _ => _) = _
  rw [boundedInt_of made.iteration]
  rw [sha256Text_of made.envelopeSha256]
  rw [route_canonical plain]
  simp only [bind, Except.bind, read_text]
  have outside : ¬ ((0 : Int) ≤ ordinal ∧ (ordinal : Int) ≤ maxProviderRequestRetryOrdinal) := by
    omega
  rw [boundedInt, if_neg outside]
  exact ⟨_, rfl⟩

theorem subject_again (bounded : ordinal ≤ maxProviderRequestRetryOrdinal) :
    ProviderRequestSubject.fromDict host (envelope.subject route ordinal).toDict
      = .ok (envelope.subject route ordinal) := by
  have record : recordData "unchain.provider_request_subject.v1"
      ["attempt", "iteration", "envelope_sha256", "route", "retry_ordinal"] []
      (envelope.subject route ordinal).toDict = .ok (envelope.subject route ordinal).toDict := rfl
  rw [ProviderRequestSubject.fromDict, record]
  show (AttemptRef.fromDict host envelope.attempt.toDict >>= fun _ => _) = _
  rw [made.attempt]
  exact subject_make plain made route bounded

end

/-! ### Bindings -/

def ProviderTurnResultReceipt.binding (receipt : ProviderTurnResultReceipt) :
    ProviderTurnResultBinding :=
  ⟨receipt.envelope.routeSha256, receipt.envelope.resultSha256, receipt.artifact, receipt.cursor⟩

structure ProviderTurnResultReceipt.Made (host : Host) (receipt : ProviderTurnResultReceipt) :
    Prop where
  stored : StoredResult host receipt.artifact receipt.cursor
  routeSha256 : isSha256 receipt.envelope.routeSha256 = true
  resultSha256 : isSha256 receipt.envelope.resultSha256 = true

variable {receipt : ProviderTurnResultReceipt}

theorem resultBinding_made (made : receipt.Made host) :
    TurnRuntime.resultBinding host receipt = .ok receipt.binding := by
  rw [TurnRuntime.resultBinding, ProviderTurnResultBinding.make, sha256Text_of made.routeSha256]
  rw [sha256Text_of made.resultSha256]
  rw [made.stored.artifactAgain]
  have empty : "".isEmpty = true := rfl
  simp only [bind, Except.bind, made.stored.kind, made.stored.fragment, made.stored.mediaType,
    made.stored.preview, empty, ne_eq, not_true_eq_false, decide_false,
    Bool.not_true, Bool.or_false, Bool.false_eq_true, if_false, made.stored.cursorAgain]
  rfl

theorem binding_again (made : receipt.Made host) :
    ProviderTurnResultBinding.fromDict host receipt.binding.toDict = .ok receipt.binding := by
  have record : recordData "unchain.provider_turn_result_binding.v1"
      ["route_sha256", "result_sha256", "artifact", "cursor"] [] receipt.binding.toDict
      = .ok receipt.binding.toDict := rfl
  rw [ProviderTurnResultBinding.fromDict, record]
  show (ArtifactRef.fromDict host receipt.artifact.toDict >>= fun _ => _) = _
  rw [made.stored.artifactAgain]
  show (EventCursor.fromDict host receipt.cursor.toDict >>= fun _ => _) = _
  rw [made.stored.cursorAgain]
  exact resultBinding_made made

end Texts

/-! ### Leases -/

namespace ProviderRequestLease

variable {host : Host} {envelope : ProviderWireEnvelope} {route : ProviderRoute} {ordinal : Nat}
  {routeSha256 : String} {operation : OperationRef}

theorem make_of (plain : PlainTexts host) (envelopeMade : envelope.Made host)
    (bounded : ordinal ≤ maxProviderRequestRetryOrdinal) (sha : isSha256 routeSha256 = true)
    (exact : OperationExact host operation) (lease : ProviderRequestLease)
    (subject : lease.subject = envelope.subject route ordinal)
    (route_eq : lease.routeSha256 = routeSha256) (operation_eq : lease.operation = operation)
    (failure : lease.failureDiagnostic.isSome = true → lease.status = .failed)
    (uncertainty : lease.uncertaintyDiagnostic.isSome = true → lease.status = .started)
    (revision : 1 ≤ lease.revision) (binding : lease.resultBinding.mapM
      (fun b => ProviderTurnResultBinding.fromDict host b.toDict) = .ok lease.resultBinding)
    (predecessor : ∀ s, lease.predecessorSha256 = some s → isSha256 s = true)
    (checked : lease.checkStatus = .ok ()) :
    make host (envelope.subject route ordinal) (.str routeSha256) lease.status lease.revision
      (.bool lease.visibleOutput) (.bool lease.retryable)
      (.str ((lease.classification.map FailureClassification.text).getD "")) operation
      lease.resultBinding lease.predecessorSha256 lease.failureDiagnostic
      lease.uncertaintyDiagnostic = .ok lease := by
  have read : readClassification host
      (.str ((lease.classification.map FailureClassification.text).getD ""))
      = .ok lease.classification := by
    cases lease.classification with
    | none => rfl
    | some c =>
      have filled : (Value.str c.text).truthy = true := by
        cases c <;> decide
      simp only [Option.map_some, Option.getD_some, readClassification, filled, if_true,
        classification_canonical plain, bind, Except.bind, read_classification]
  have predecessorRead : lease.predecessorSha256.mapM
      (fun s => sha256Text "predecessor_sha256" (.str s)) = .ok lease.predecessorSha256 := by
    cases found : lease.predecessorSha256 with
    | none => rfl
    | some s =>
      show (some <$> sha256Text "predecessor_sha256" (.str s)) = _
      rw [sha256Text_of (predecessor s found)]
      rfl
  have noFailure : (lease.failureDiagnostic.isSome && decide (lease.status ≠ .failed)) = false := by
    cases found : lease.failureDiagnostic.isSome with
    | false => rfl
    | true => simp [failure found]
  have noUncertainty :
      (lease.uncertaintyDiagnostic.isSome && decide (lease.status ≠ .started)) = false := by
    cases found : lease.uncertaintyDiagnostic.isSome with
    | false => rfl
    | true => simp [uncertainty found]
  have positive : decide (lease.revision < 1) = false := by
    simp only [decide_eq_false_iff_not]
    omega
  have operationRead : OperationRef.fromDict host operation.toDict = .ok operation := exact
  simp only [make, subject_again plain envelopeMade bounded, sha256Text_of sha, noFailure,
    noUncertainty, positive, exactBoolean, read, operationRead, binding, predecessorRead,
    Effect.raiseIf, Bool.false_eq_true, if_false, bind, Except.bind]
  obtain ⟨_, _, status, _, _, _, _, _, _, _, _, _⟩ := lease
  subst subject route_eq operation_eq
  simp only [checked]
  rfl

end ProviderRequestLease

end Unchain.Providers
