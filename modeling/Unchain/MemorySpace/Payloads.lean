import Unchain.MemorySpace.Requests
import Unchain.Python.Told

/-!
What an operation id is bound to.

The digest of an operation is made of the canonical JSON of its payload, and that JSON tells the
payload (`payload_told`). Two operations with one digest have one payload (`operation_injective`).
-/

namespace Unchain.MemorySpace

open Lib Lib.Utf8 Lib.Effect Journal Python

variable {host : WorkspaceHost} {spaceId : String}

/-! ### Payloads are told apart -/

section Told

variable {display : Display}

theorem ref_told : Told display ResourceRef.toDict := by
  intro a b same
  have names : ["schema", "kind", "id", "revision", "fragment"].Nodup := by decide
  have both := Alike.mk same names names
  have kind : a.kind = b.kind := both.field Told.str "kind" rfl rfl
  have id : a.resourceId = b.resourceId := both.field Told.str "id" rfl rfl
  have revision : a.revision = b.revision := both.field Told.int "revision" rfl rfl
  have fragment : a.fragment = b.fragment := both.field Told.str "fragment" rfl rfl
  cases a
  cases b
  simp_all

theorem dict_present (es : Dict) : canonicalForm display (.dict es) ≠ .null := by
  exact nofun

theorem optionalRef_told :
    Told display fun ref : Option ResourceRef => (ref.map ResourceRef.toDict).getD .none := by
  intro a b same
  cases a with
  | none =>
    cases b with
    | none => rfl
    | some ref => exact absurd same.symm (dict_present _)
  | some ref =>
    cases b with
    | none => exact absurd same (dict_present _)
    | some ref' => exact congrArg some (ref_told same)

theorem refs_told : Told display OperationPayload.refs := ref_told.list

theorem kind_told : Told display fun kind : MemoryEntryKind => .str kind.text := by
  intro a b same
  have text : a.text = b.text := Told.str same
  cases a <;> cases b <;> first | rfl | (revert text; decide)

theorem nat_told : Told display fun n : Nat => .int n := by
  intro m n same
  exact Int.ofNat.inj (Told.int same)

theorem OperationPayload.keys_nodup (p : OperationPayload) : (Assoc.keys p.fields).Nodup := by
  cases p <;> exact of_decide_eq_true rfl

theorem payload_told {p p' : OperationPayload} (domain : p.domain = p'.domain)
    (same : canonicalForm display (.dict p.fields) = canonicalForm display (.dict p'.fields)) :
    p = p' := by
  have both := Alike.mk same p.keys_nodup p'.keys_nodup
  cases p with
  | write r path d k e s c n m u t =>
    cases p' with
    | write r' path' d' k' e' s' c' n' m' u' t' =>
      have ref : r = r' := both.field optionalRef_told "entry_ref" rfl rfl
      have text : path = path' := both.field Told.str "path" rfl rfl
      have description : d = d' := both.field Told.str "description" rfl rfl
      have kind : k = k' := both.field kind_told "kind" rfl rfl
      have expected : e = e' := both.field Told.int "expected_space_revision" rfl rfl
      have sources : s = s' := both.field refs_told "source_refs" rfl rfl
      have sha : c = c' := both.field Told.str "content_sha256" rfl rfl
      have size : n = n' := both.field nat_told "content_bytes" rfl rfl
      have media : m = m' := both.field Told.str "media_type" rfl rfl
      have url : u = u' := both.field Told.str "link_url" rfl rfl
      have tags : t = t' := both.field Told.str.list "tags" rfl rfl
      rw [ref, text, description, kind, expected, sources, sha, size, media, url, tags]
    | _ => simp [OperationPayload.domain] at domain
  | move r path e s =>
    cases p' with
    | move r' path' e' s' =>
      have ref : r = r' := both.field ref_told "ref" rfl rfl
      have text : path = path' := both.field Told.str "new_path" rfl rfl
      have expected : e = e' := both.field Told.int "expected_space_revision" rfl rfl
      have sources : s = s' := both.field refs_told "source_refs" rfl rfl
      rw [ref, text, expected, sources]
    | _ => simp [OperationPayload.domain] at domain
  | archive r recursive e s =>
    cases p' with
    | archive r' recursive' e' s' =>
      have ref : r = r' := both.field ref_told "ref" rfl rfl
      have flag : recursive = recursive' := both.field Told.bool "recursive" rfl rfl
      have expected : e = e' := both.field Told.int "expected_space_revision" rfl rfl
      have sources : s = s' := both.field refs_told "source_refs" rfl rfl
      rw [ref, flag, expected, sources]
    | _ => simp [OperationPayload.domain] at domain
  | relation a b named e s =>
    cases p' with
    | relation a' b' named' e' s' =>
      have source : a = a' := both.field ref_told "source_ref" rfl rfl
      have target : b = b' := both.field ref_told "target_ref" rfl rfl
      have text : named = named' := both.field Told.str "relation" rfl rfl
      have expected : e = e' := both.field Told.int "expected_space_revision" rfl rfl
      have sources : s = s' := both.field refs_told "source_refs" rfl rfl
      rw [source, target, text, expected, sources]
    | _ => simp [OperationPayload.domain] at domain

end Told

/-! ### Operations are told apart -/

theorem ref_exact (ref : ResourceRef) : ref.toDict.Exact := by
  simp [ResourceRef.toDict, Value.Exact, ExactEntries]

theorem refs_exact (refs : List ResourceRef) : (OperationPayload.refs refs).Exact := by
  rw [OperationPayload.refs, Value.Exact, exactItems_iff]
  intro v mem
  obtain ⟨ref, -, rfl⟩ := List.mem_map.mp mem
  exact ref_exact ref

theorem texts_exact (texts : List String) : (Value.list (texts.map .str)).Exact := by
  rw [Value.Exact, exactItems_iff]
  intro v mem
  obtain ⟨text, -, rfl⟩ := List.mem_map.mp mem
  trivial

theorem payload_exact (p : OperationPayload) : (Value.dict p.fields).Exact := by
  cases p with
  | write r path d k e s c n m u t =>
    have ref : ((r.map ResourceRef.toDict).getD .none).Exact := by
      cases r with
      | none => trivial
      | some ref => exact ref_exact ref
    exact ⟨ref, trivial, trivial, trivial, trivial, refs_exact s, trivial, trivial, trivial,
      trivial, texts_exact t, trivial⟩
  | move r path e s | archive r recursive e s =>
    exact ⟨ref_exact r, trivial, trivial, refs_exact s, trivial⟩
  | relation a b named e s =>
    exact ⟨ref_exact a, ref_exact b, trivial, trivial, refs_exact s, trivial⟩

theorem operation_injective (collisionless : Function.Injective host.sha256)
    {p p' : OperationPayload} {id id' : String} {op op' : OperationRef}
    (made : p.operation host id = .ok op) (made' : p'.operation host id' = .ok op')
    (same : op.payloadSha256 = op'.payloadSha256) : p = p' := by
  obtain ⟨identifier, -, made⟩ := bind_ok made
  obtain ⟨bytes, encoded, made⟩ := bind_ok made
  obtain ⟨identifier', -, made'⟩ := bind_ok made'
  obtain ⟨bytes', encoded', made'⟩ := bind_ok made'
  cases made
  cases made'
  cases collisionless same
  have exact (q : OperationPayload) :
      (Value.dict [("domain", .str q.domain), ("payload", .dict q.fields)]).Exact :=
    ⟨trivial, payload_exact q, trivial⟩
  have forms := sorted_eq_of_canonicalJson (exact p).plain (exact p').plain encoded encoded'
  have names : ["domain", "payload"].Nodup := by decide
  have both := Alike.mk forms names names
  have domain : p.domain = p'.domain := both.field Told.str "domain" rfl rfl
  exact payload_told domain (both.inner "payload" rfl rfl)

/-! ### The payload of a call -/

variable (host spaceId)

def WriteArgs.payload (args : WriteArgs) (t : Tables) : Except PyError OperationPayload := do
  let first ← writePrelude host args
  let current ← updatedEntry host spaceId args.kind t args.entryRef
  let draft ← writeDraft host args first current
  let draft ← redactedDraft host draft
  .ok (writePayload host args first draft)

def MoveArgs.payload (args : MoveArgs) : Except PyError OperationPayload := do
  let path ← canonicalEntryPath host args.newPath
  let expected ← positiveRevision args.expectedSpaceRevision
  let sources ← provenance host args.sourceRefs missingProvenance
  .ok (.move args.ref path expected sources)

def ArchiveArgs.payload (args : ArchiveArgs) : Except PyError OperationPayload := do
  let expected ← positiveRevision args.expectedSpaceRevision
  let sources ← provenance host args.sourceRefs missingProvenance
  .ok (.archive args.ref args.recursive expected sources)

def LinkArgs.payload (args : LinkArgs) : Except PyError OperationPayload := do
  let relation ← requiredText host.toHost 128 true "relation" (.str args.relation)
  let sources ← provenance host args.sourceRefs "relation links require source provenance"
  let expected ← positiveRevision args.expectedSpaceRevision
  .ok (.relation args.sourceRef args.targetRef relation expected sources)

def WorkspaceCall.payload (t : Tables) : WorkspaceCall → Except PyError OperationPayload
  | .createFolder args => (args.toWrite none .folder none "" "").payload host spaceId t
  | .writeMarkdown args entryRef content => do
    let args ← markdownArgs args entryRef content
    args.payload host spaceId t
  | .writeImage args entryRef content mediaType => do
    let args ← imageArgs host args entryRef content mediaType
    args.payload host spaceId t
  | .createLink args entryRef url => do
    let args ← linkEntryArgs host args entryRef url
    args.payload host spaceId t
  | .move args => args.payload host
  | .archive args => args.payload host
  | .link args => args.payload host

def WorkspaceCall.operationId : WorkspaceCall → String
  | .createFolder args => args.operationId
  | .writeMarkdown args _ _ => args.operationId
  | .writeImage args _ _ _ => args.operationId
  | .createLink args _ _ => args.operationId
  | .move args => args.operationId
  | .archive args => args.operationId
  | .link args => args.operationId

variable {host spaceId}

section Operations

variable {t : Tables} {q : WorkspaceMutationRequest}

theorem WriteArgs.payload_ok {args : WriteArgs} (h : args.mutation host spaceId t = .ok q) :
    ∃ p, args.payload host spaceId t = .ok p ∧ p.operation host args.operationId = .ok q.operation := by
  obtain ⟨first, prelude, h⟩ := bind_ok h
  obtain ⟨current, read, h⟩ := bind_ok h
  obtain ⟨draft, drafts, h⟩ := bind_ok h
  obtain ⟨redacted, redacts, h⟩ := bind_ok h
  obtain ⟨operation, made, h⟩ := bind_ok h
  obtain ⟨name, -, h⟩ := bind_ok h
  obtain ⟨entry, -, h⟩ := bind_ok h
  cases h
  refine ⟨_, ?_, made⟩
  rw [WriteArgs.payload, prelude]
  rw [read]
  change writeDraft host args first current >>= _ = _
  rw [drafts]
  change redactedDraft host draft >>= _ = _
  rw [redacts]
  rfl

theorem MoveArgs.payload_ok {args : MoveArgs} (h : args.mutation host spaceId t = .ok q) :
    ∃ p, args.payload host = .ok p ∧ p.operation host args.operationId = .ok q.operation := by
  obtain ⟨current, -, h⟩ := bind_ok h
  obtain ⟨-, h⟩ := raiseIf_bind_ok h
  obtain ⟨path, canonical, h⟩ := bind_ok h
  obtain ⟨expected, positive, h⟩ := bind_ok h
  obtain ⟨sources, given, h⟩ := bind_ok h
  obtain ⟨operation, made, h⟩ := bind_ok h
  obtain ⟨name, -, h⟩ := bind_ok h
  obtain ⟨entry, -, h⟩ := bind_ok h
  cases h
  refine ⟨_, ?_, made⟩
  rw [MoveArgs.payload, canonical, positive, given]
  rfl

theorem ArchiveArgs.payload_ok {args : ArchiveArgs} (h : args.mutation host spaceId t = .ok q) :
    ∃ p, args.payload host = .ok p ∧ p.operation host args.operationId = .ok q.operation := by
  obtain ⟨current, -, h⟩ := bind_ok h
  obtain ⟨-, h⟩ := raiseIf_bind_ok h
  obtain ⟨-, h⟩ := raiseIf_bind_ok h
  obtain ⟨expected, positive, h⟩ := bind_ok h
  obtain ⟨sources, given, h⟩ := bind_ok h
  obtain ⟨operation, made, h⟩ := bind_ok h
  obtain ⟨entry, -, h⟩ := bind_ok h
  cases h
  refine ⟨_, ?_, made⟩
  rw [ArchiveArgs.payload, positive, given]
  rfl

theorem LinkArgs.payload_ok {args : LinkArgs} {q : WorkspaceLinkRequest}
    (h : linkRequest host spaceId args = .ok q) :
    ∃ p, args.payload host = .ok p ∧ p.operation host args.operationId = .ok q.operation := by
  obtain ⟨relation, text, h⟩ := bind_ok h
  obtain ⟨sources, given, h⟩ := bind_ok h
  obtain ⟨expected, positive, h⟩ := bind_ok h
  obtain ⟨operation, made, h⟩ := bind_ok h
  cases h
  refine ⟨_, ?_, made⟩
  rw [LinkArgs.payload, text]
  rw [given, positive]
  rfl

theorem WriteArgs.payload_kept {t' : Tables} {args : WriteArgs} {p : OperationPayload}
    (kept : t.Kept t') (h : args.payload host spaceId t = .ok p) :
    args.payload host spaceId t' = .ok p := by
  obtain ⟨first, prelude, h⟩ := bind_ok h
  obtain ⟨current, read, h⟩ := bind_ok h
  rw [WriteArgs.payload, prelude]
  rw [updatedEntry_kept kept read]
  exact h

theorem WorkspaceCall.payload_kept {t' : Tables} {call : WorkspaceCall} {p : OperationPayload}
    (kept : t.Kept t') (h : call.payload host spaceId t = .ok p) :
    call.payload host spaceId t' = .ok p := by
  cases call with
  | createFolder args => exact WriteArgs.payload_kept kept h
  | writeMarkdown args entryRef content | writeImage args entryRef content mediaType
  | createLink args entryRef url =>
    obtain ⟨a, made, h⟩ := bind_ok h
    rw [WorkspaceCall.payload, made]
    exact WriteArgs.payload_kept kept h
  | move args | archive args | link args => exact h

end Operations

end Unchain.MemorySpace
