import Unchain.MemorySpace.Clients
import Unchain.MemorySpace.Payloads

/-!
Each operation takes effect once, over any interleaving of clients.

A call that writes an entry comes down to one request (`EntryCall`). In the first phase of its
life it leaves a receipt or nothing (`secure_first`); once the receipt is there, every repeat is
answered from it (`secure_again`), and no other arguments get past it (`secure_reuse`). A relation
link reads its two ends as they are now, so its repeat gets through only while they are current.
-/

namespace Unchain.MemorySpace

open Lib Lib.Process Lib.Interrupted Lib.Threads Lib.Effect Journal Python

variable {host : WorkspaceHost} {spaceId : String}

/-! ### Calls that write an entry -/

section Asking

variable {C : Terms workspaceCalls Tables} {own : Steps Tables} {t : Tables}

theorem secure_readForUpdate (store : OfStore host spaceId C) {kind : MemoryEntryKind}
    {entryRef : Option ResourceRef} (quiet : Quiet own) :
    Secure C own t (readForUpdate host spaceId kind entryRef)
      (Read host spaceId t fun u => updatedEntry host spaceId kind u entryRef) := by
  cases entryRef with
  | none =>
    intro t' moved
    rw [store.rely] at moved
    exact ⟨quiet, t, Later.refl t, moved, rfl⟩
  | some ref =>
    refine secure_bind ((secure_readEntryRef store ref quiet).mono ?_)
    rintro own' t' x ⟨quiet', u, before, after, rfl⟩
    cases read : refEntry host spaceId ref u with
    | error e =>
      refine ⟨quiet', u, before, after, ?_⟩
      rw [updatedEntry, read]
      rfl
    | ok e =>
      refine secure_raiseIf_bind (fun alive => ?_) fun deleted v moved => ?_
      · refine secure_raiseIf_bind (fun same => ?_) fun differs v moved => ?_
        · intro v moved
          rw [store.rely] at moved
          refine ⟨quiet', u, before, after.trans moved, ?_⟩
          simp only [updatedEntry, read, bind, Except.bind, raiseIf, alive, same,
            Bool.false_eq_true, if_false]
        · rw [store.rely] at moved
          refine ⟨quiet', u, before, after.trans moved, ?_⟩
          simp only [updatedEntry, read, bind, Except.bind, raiseIf, alive, differs,
            Bool.false_eq_true, if_false, if_true]
      · rw [store.rely] at moved
        refine ⟨quiet', u, before, after.trans moved, ?_⟩
        simp only [updatedEntry, read, bind, Except.bind, raiseIf, deleted, if_true]

/-- The program asks the repository for what the function makes of the tables, and for nothing
else. -/
def Asks (host : WorkspaceHost) (spaceId : String) (p : WorkspaceProg MemoryEntry)
    (request : Tables → Except PyError WorkspaceMutationRequest) : Prop :=
  ∀ {C : Terms workspaceCalls Tables} {own : Steps Tables} {t : Tables}
    {post : Steps Tables → Tables → Except PyError MemoryEntry → Prop},
    OfStore host spaceId C → t.Sound host spaceId → Quiet own →
    (∀ own' u q, Quiet own' → Later host spaceId t u → request u = .ok q →
      Secure C own' u (applyRequest host spaceId q) post) →
    (∀ own' u v e, Quiet own' → Later host spaceId t u → Later host spaceId u v →
      request u = .error e → post own' v (.error e)) →
    Secure C own t p post

theorem asks_write (args : WriteArgs) :
    Asks host spaceId (write host spaceId args) (args.mutation host spaceId) := by
  intro C own t post store sound quiet returned raised
  refine secure_lift_bind (fun first prelude => ?_) fun e failed v moved => ?_
  · refine secure_bind ((secure_readForUpdate store quiet).mono ?_)
    rintro own' t' x ⟨quiet', u, before, after, rfl⟩
    have request_eq (w : Tables) : args.mutation host spaceId w =
        (updatedEntry host spaceId args.kind w args.entryRef >>=
          writeRequest host spaceId args first) := by
      rw [WriteArgs.mutation, prelude]
      rfl
    cases read : updatedEntry host spaceId args.kind u args.entryRef with
    | error e =>
      refine raised own' u t' e quiet' before after ?_
      rw [request_eq, read]
      rfl
    | ok current =>
      refine secure_lift_bind (fun q made => ?_) fun e failed v moved => ?_
      · refine returned own' t' q quiet' (before.trans after) ?_
        refine WriteArgs.mutation_kept (after (before sound).1).2 ?_
        rw [request_eq, read]
        exact made
      · rw [store.rely] at moved
        refine raised own' u v e quiet' before (after.trans moved) ?_
        rw [request_eq, read]
        exact failed
  · rw [store.rely] at moved
    refine raised own t v e quiet (Later.refl t) moved ?_
    rw [WriteArgs.mutation, failed]
    rfl

theorem asks_revision (ref : ResourceRef) (archived : PyError)
    (make : MemoryEntry → Except PyError WorkspaceMutationRequest) : Asks host spaceId (do
        let current ← readEntryRef host spaceId ref
        Prog.raiseIf current.deleted archived
        let request ← Prog.lift (make current)
        applyRequest host spaceId request)
      (fun t => do
        let current ← refEntry host spaceId ref t
        raiseIf current.deleted archived
        make current) := by
  intro C own t post store sound quiet returned raised
  refine secure_bind ((secure_readEntryRef store ref quiet).mono ?_)
  rintro own' t' x ⟨quiet', u, before, after, rfl⟩
  cases read : refEntry host spaceId ref u with
  | error e =>
    refine raised own' u t' e quiet' before after ?_
    simp only [read, bind, Except.bind]
  | ok current =>
    have kept := refEntry_kept (after (before sound).1).2 read
    refine secure_raiseIf_bind (fun alive => ?_) fun deleted v moved => ?_
    · refine secure_lift_bind (fun q made => ?_) fun e failed v moved => ?_
      · refine returned own' t' q quiet' (before.trans after) ?_
        simp only [kept, bind, Except.bind, alive, raiseIf, Bool.false_eq_true, if_false]
        exact made
      · rw [store.rely] at moved
        refine raised own' u v e quiet' before (after.trans moved) ?_
        simp only [read, bind, Except.bind, alive, raiseIf, Bool.false_eq_true, if_false]
        exact failed
    · rw [store.rely] at moved
      refine raised own' u v _ quiet' before (after.trans moved) ?_
      simp only [read, bind, Except.bind, deleted, raiseIf, if_true]

theorem asks_move (args : MoveArgs) :
    Asks host spaceId (move host spaceId args) (args.mutation host spaceId) :=
  asks_revision args.ref (conflictError "archived entries cannot be moved") (moveRequest host args)

theorem asks_archive (args : ArchiveArgs) :
    Asks host spaceId (archive host spaceId args) (args.mutation host spaceId) :=
  asks_revision args.ref (conflictError "entry is already archived") (archiveRequest host args)

end Asking

/-! ### Tidy calls -/

/-- The last segment of the path that a call writes has no white space at its ends, and Markdown
for a vector index decodes to text without a zero character. -/
def WorkspaceCall.Tidy (host : WorkspaceHost) : WorkspaceCall → Prop
  | .createFolder args => (args.toWrite none .folder none "" "").Tidy host
  | .writeMarkdown args entryRef content =>
    ∀ a, markdownArgs args entryRef content = .ok a → a.Tidy host
  | .writeImage args entryRef content mediaType =>
    ∀ a, imageArgs host args entryRef content mediaType = .ok a → a.Tidy host
  | .createLink args entryRef url => ∀ a, linkEntryArgs host args entryRef url = .ok a → a.Tidy host
  | .move args => ∀ path, canonicalEntryPath host args.newPath = .ok path → NameKept host path
  | .archive _ => True
  | .link _ => True

structure EntryCall (host : WorkspaceHost) (spaceId : String) (call : WorkspaceCall) where
  prog : WorkspaceProg MemoryEntry
  request : Tables → Except PyError WorkspaceMutationRequest
  writes : ∀ args, call ≠ .link args
  run : call.run host spaceId = (.entry <$> prog)
  asks : Asks host spaceId prog request
  kept : ∀ {t t' : Tables} {q}, t.Kept t' → request t = .ok q → request t' = .ok q
  grounded : Normal host → requiredIdentifier host.toHost "space_id" (.str spaceId) = .ok spaceId →
    call.Tidy host → ∀ {t q}, t.Sound host spaceId → request t = .ok q →
      Grounded host spaceId q t
  payload : ∀ {t q}, request t = .ok q → ∃ p, call.payload host spaceId t = .ok p ∧
    p.operation host call.operationId = .ok q.operation

/-- The writers hand their arguments on to `_write`. -/
def EntryCall.ofWrite {call : WorkspaceCall} (args : Except PyError WriteArgs)
    (run : call.run host spaceId = writeCall host spaceId args)
    (tidy : call.Tidy host → ∀ a, args = .ok a → a.Tidy host)
    (payload : ∀ t, call.payload host spaceId t = args >>= fun a => a.payload host spaceId t)
    (named : ∀ a, args = .ok a → a.operationId = call.operationId)
    (writes : ∀ args, call ≠ .link args) : EntryCall host spaceId call where
  writes := writes
  prog := do
    let a ← Prog.lift args
    write host spaceId a
  request t := do
    let a ← args
    a.mutation host spaceId t
  run := by
    rw [run]
    cases args <;> rfl
  asks := by
    intro C own t post store sound quiet returned raised
    cases args with
    | error e =>
      intro v moved
      rw [store.rely] at moved
      exact raised own t v e quiet (Later.refl t) moved rfl
    | ok a => exact asks_write a store sound quiet returned raised
  kept := by
    intro t t' q kept h
    obtain ⟨a, rfl, h⟩ := bind_ok h
    exact WriteArgs.mutation_kept kept h
  grounded := by
    intro normal bound tidied t q sound h
    obtain ⟨a, rfl, h⟩ := bind_ok h
    exact WriteArgs.grounded normal bound sound (tidy tidied a rfl) h
  payload := by
    intro t q h
    obtain ⟨a, rfl, h⟩ := bind_ok h
    obtain ⟨p, there, made⟩ := WriteArgs.payload_ok h
    exact ⟨p, (payload t).trans there, by rw [← named a rfl]; exact made⟩

theorem entryCall_or_link (call : WorkspaceCall) :
    (∃ args, call = .link args) ∨ Nonempty (EntryCall host spaceId call) := by
  cases call with
  | link args => exact .inl ⟨args, rfl⟩
  | createFolder args =>
    refine .inr ⟨.ofWrite (.ok (args.toWrite none .folder none "" "")) rfl ?_ (fun _ => rfl) ?_ ?_⟩
    · rintro tidy a ⟨⟩
      exact tidy
    · rintro a ⟨⟩
      rfl
    · rintro _ ⟨⟩
  | writeMarkdown args entryRef content =>
    refine .inr ⟨.ofWrite (markdownArgs args entryRef content) rfl (fun tidy => tidy)
      (fun _ => rfl) ?_ nofun⟩
    intro a made
    obtain ⟨⟨⟩, -, made⟩ := bind_ok made
    cases made
    rfl
  | writeImage args entryRef content mediaType =>
    refine .inr ⟨.ofWrite (imageArgs host args entryRef content mediaType) rfl (fun tidy => tidy)
      (fun _ => rfl) ?_ nofun⟩
    intro a made
    obtain ⟨⟨⟩, -, made⟩ := bind_ok made
    obtain ⟨normalized, -, made⟩ := bind_ok made
    obtain ⟨-, made⟩ := raiseIf_bind_ok made
    cases made
    rfl
  | createLink args entryRef url =>
    refine .inr ⟨.ofWrite (linkEntryArgs host args entryRef url) rfl (fun tidy => tidy)
      (fun _ => rfl) ?_ nofun⟩
    intro a made
    obtain ⟨linkUrl, -, made⟩ := bind_ok made
    cases made
    rfl
  | move args =>
    exact .inr ⟨{
      prog := move host spaceId args
      writes := nofun
      request := args.mutation host spaceId
      run := rfl
      asks := asks_move args
      kept := MoveArgs.mutation_kept
      grounded := fun normal _ tidy _ _ sound => MoveArgs.grounded normal sound tidy
      payload := MoveArgs.payload_ok }⟩
  | archive args =>
    exact .inr ⟨{
      prog := archive host spaceId args
      writes := nofun
      request := args.mutation host spaceId
      run := rfl
      asks := asks_archive args
      kept := ArchiveArgs.mutation_kept
      grounded := fun _ _ _ _ _ sound => ArchiveArgs.grounded sound
      payload := ArchiveArgs.payload_ok }⟩

/-! ### The life of one operation -/

/-- What holds of the tables once a call has returned. -/
def Settled (host : WorkspaceHost) (spaceId : String) (call : WorkspaceCall) (r : WorkspaceResult)
    (t : Tables) : Prop :=
  (∃ (c : EntryCall host spaceId call) (q : WorkspaceMutationRequest) (stored : MemoryEntry),
    c.request t = .ok q ∧ Grounded host spaceId q t ∧ Done host spaceId q stored t ∧
      r = .entry stored) ∨
  ∃ (args : LinkArgs) (q : WorkspaceLinkRequest) (source target : MemoryEntry),
    call = .link args ∧ linkRequest host spaceId args = .ok q ∧ LinkDone spaceId q t ∧
      refEntry host spaceId args.sourceRef t = .ok source ∧
      refEntry host spaceId args.targetRef t = .ok target ∧ r = .link q.link

section Phases

variable {call : WorkspaceCall} {own : Steps Tables} {t : Tables} {r : WorkspaceResult}

/-- How a program that is mapped ends. -/
theorem secure_map {C : Terms workspaceCalls Tables} {α β : Type} {f : α → β}
    {p : WorkspaceProg α} {post : Steps Tables → Tables → Except PyError β → Prop}
    (stable : ∀ {own u v x}, C.rely u v → post own u x → post own v x)
    (h : Secure C own t p fun own' t' x => post own' t' (x.map f)) :
    Secure C own t (f <$> p) post := by
  refine secure_bind (h.mono ?_)
  intro own' t' x ended
  cases x with
  | ok a => exact fun v moved => stable moved ended
  | error e => exact ended

theorem Settled.kept {t' : Tables} (later : t.Kept t') (h : Settled host spaceId call r t) :
    Settled host spaceId call r t' := by
  rcases h with ⟨c, q, stored, asked, grounded, done, eq⟩ |
    ⟨args, q, a, b, eq, asked, done, source, target, result⟩
  · exact .inl ⟨c, q, stored, c.kept later asked, grounded.kept later, done.kept later, eq⟩
  · exact .inr ⟨args, q, a, b, eq, asked, done.kept later, refEntry_kept later source,
      refEntry_kept later target, result⟩

/-- A call leaves its receipt, or raises and has changed nothing. -/
theorem secure_first (normal : Normal host)
    (bound : requiredIdentifier host.toHost "space_id" (.str spaceId) = .ok spaceId)
    (tidy : call.Tidy host) (sound : t.Sound host spaceId) (quiet : Quiet own) :
    Secure (working host spaceId) own t (call.run host spaceId) fun own' t' x =>
      t'.Sound host spaceId ∧
        either (fun r => Settled host spaceId call r t') (fun _ => Quiet own') x := by
  have stable {own' : Steps Tables} {u v : Tables} {x : Except PyError WorkspaceResult}
      (moved : Later host spaceId u v) (h : u.Sound host spaceId ∧
        either (fun r => Settled host spaceId call r u) (fun _ => Quiet own') x) :
      v.Sound host spaceId ∧
        either (fun r => Settled host spaceId call r v) (fun _ => Quiet own') x := by
    obtain ⟨soundV, kept⟩ := moved h.1
    refine ⟨soundV, ?_⟩
    cases x with
    | ok r => exact h.2.kept kept
    | error e => exact h.2
  rcases @entryCall_or_link host spaceId call with ⟨args, rfl⟩ | ⟨⟨c⟩⟩
  · refine secure_map stable ?_
    refine secure_bind ((secure_readCurrentEntryRef ofStore_working sound args.sourceRef
      quiet).mono ?_)
    rintro own₁ t₁ x₁ ⟨quiet₁, later₁, read₁⟩
    cases x₁ with
    | error e => exact ⟨(later₁ sound).1, quiet₁⟩
    | ok source =>
      obtain ⟨stored₁, -⟩ := read₁
      obtain ⟨sound₁, -⟩ := later₁ sound
      refine secure_bind ((secure_readCurrentEntryRef ofStore_working sound₁ args.targetRef
        quiet₁).mono ?_)
      rintro own₂ t₂ x₂ ⟨quiet₂, later₂, read₂⟩
      cases x₂ with
      | error e => exact ⟨(later₂ sound₁).1, quiet₂⟩
      | ok target =>
        obtain ⟨stored₂, -⟩ := read₂
        obtain ⟨sound₂, kept₂⟩ := later₂ sound₁
        refine secure_lift_bind (fun q asked => ?_) fun e _ v moved => ⟨(moved sound₂).1, quiet₂⟩
        refine (secure_finishLink sound₂ quiet₂).mono ?_
        rintro own₃ t₃ x₃ ⟨later₃, ended⟩
        obtain ⟨sound₃, kept₃⟩ := later₃ sound₂
        refine ⟨sound₃, ?_⟩
        cases x₃ with
        | error e => exact ended
        | ok stored =>
          obtain ⟨rfl, done⟩ := ended
          exact .inr ⟨args, q, source, target, rfl, asked, done,
            refEntry_kept kept₃ (refEntry_kept kept₂ stored₁), refEntry_kept kept₃ stored₂,
            rfl⟩
  · rw [c.run]
    refine secure_map stable ?_
    refine c.asks ofStore_working sound quiet ?_ ?_
    · intro own' u q quiet' later asked
      obtain ⟨soundU, -⟩ := later sound
      have grounded := c.grounded normal bound tidy soundU asked
      refine (secure_applyRequest normal soundU grounded quiet').mono ?_
      rintro own₁ t₁ x ⟨later₁, ended⟩
      obtain ⟨sound₁, kept⟩ := later₁ soundU
      refine ⟨sound₁, ?_⟩
      cases x with
      | error e => exact ended
      | ok stored => exact .inl ⟨c, q, stored, c.kept kept asked, grounded.kept kept, ended, rfl⟩
    · intro own' u v e quiet' before after _
      exact ⟨(after (before sound).1).1, quiet'⟩

/-- The references that a call reads as they are now. -/
def WorkspaceCall.ends : WorkspaceCall → List ResourceRef
  | .link args => [args.sourceRef, args.targetRef]
  | _ => []

/-- How a repeat of a call that returned `r` may end: with `r` as long as the ends of a relation
link are current, and with an error once one of them is not. -/
structure Repeats (call : WorkspaceCall) (r : WorkspaceResult) (before after : Tables)
    (x : Except PyError WorkspaceResult) : Prop where
  same : (∀ ref ∈ call.ends, after.Current ref) → x = .ok r
  stale : (∃ ref ∈ call.ends, ¬ before.Current ref) → ∃ e, x = .error e

theorem EntryCall.ends_eq (c : EntryCall host spaceId call) : call.ends = [] := by
  cases call with
  | link args => exact absurd rfl (c.writes args)
  | _ => rfl

theorem EntryCall.repeats {x : Except PyError WorkspaceResult} {before after : Tables}
    (c : EntryCall host spaceId call) (eq : x = .ok r) : Repeats call r before after x := by
  refine ⟨fun _ => eq, ?_⟩
  rintro ⟨ref, mem, -⟩
  rw [c.ends_eq] at mem
  cases mem

/-- What a repeat comes to does not change afterwards. -/
theorem Repeats.later {before u v : Tables} {x : Except PyError WorkspaceResult}
    (settled : Settled host spaceId call r u) (sound : u.Sound host spaceId)
    (moved : Later host spaceId u v) (h : Repeats call r before u x) : Repeats call r before v x where
  same current := by
    refine h.same fun ref mem => ?_
    rcases settled with ⟨c, -⟩ | ⟨args, q, a, b, rfl, -, -, source, target, -⟩
    · rw [c.ends_eq] at mem
      cases mem
    · simp only [WorkspaceCall.ends, List.mem_cons, List.not_mem_nil, or_false] at mem current
      rcases mem with rfl | rfl
      · exact Current.before sound source moved (current _ (.inl rfl))
      · exact Current.before sound target moved (current _ (.inr rfl))
  stale := h.stale

/-- A repeat changes nothing, and ends as `Repeats` says. -/
theorem secure_again (sound : t.Sound host spaceId) (settled : Settled host spaceId call r t) :
    Secure (idle host spaceId) [] t (call.run host spaceId) fun _ t' x =>
      Later host spaceId t t' ∧ Repeats call r t t' x := by
  have stable {own' : Steps Tables} {u v : Tables} {x : Except PyError WorkspaceResult}
      (moved : Later host spaceId u v) (h : Later host spaceId t u ∧ Repeats call r t u x) :
      Later host spaceId t v ∧ Repeats call r t v x := by
    obtain ⟨soundU, kept⟩ := h.1 sound
    exact ⟨h.1.trans moved, h.2.later (settled.kept kept) soundU moved⟩
  have quiet : Quiet [] := nofun
  rcases settled with ⟨c, q, stored, asked, grounded, done, rfl⟩ |
    ⟨args, q, a, b, rfl, asked, done, source, target, rfl⟩
  · rw [c.run]
    refine secure_map (fun {o _ _ _} => @stable o _ _ _) ?_
    refine c.asks ofStore_idle sound quiet ?_ ?_
    · intro own' u q' _ later asked'
      obtain ⟨soundU, kept⟩ := later sound
      cases (c.kept kept asked).symm.trans asked'
      refine (secure_replay (done.kept kept) soundU (grounded.kept kept)).mono ?_
      rintro own₁ t₁ x ⟨later₁, rfl⟩
      exact ⟨later.trans later₁, c.repeats rfl⟩
    · intro own' u v e _ before _ failed
      rw [c.kept (before sound).2 asked] at failed
      cases failed
  · refine secure_map (fun {o _ _ _} => @stable o _ _ _) ?_
    refine secure_bind ((secure_readCurrentEntryRef ofStore_idle sound args.sourceRef quiet).mono ?_)
    rintro own₁ t₁ x₁ ⟨quiet₁, later₁, read₁⟩
    have source_mem : args.sourceRef ∈ (WorkspaceCall.link args).ends := by simp [WorkspaceCall.ends]
    have target_mem : args.targetRef ∈ (WorkspaceCall.link args).ends := by simp [WorkspaceCall.ends]
    obtain ⟨sound₁, kept₁⟩ := later₁ sound
    cases x₁ with
    | error e =>
      exact ⟨later₁, fun current => absurd (current _ source_mem) (read₁ a source), fun _ => ⟨e, rfl⟩⟩
    | ok e₁ =>
      obtain ⟨-, u₁, before₁, -, current₁⟩ := read₁
      refine secure_bind ((secure_readCurrentEntryRef ofStore_idle sound₁ args.targetRef
        quiet₁).mono ?_)
      rintro own₂ t₂ x₂ ⟨quiet₂, later₂, read₂⟩
      have target₁ := refEntry_kept kept₁ target
      obtain ⟨sound₂, kept₂⟩ := later₂ sound₁
      cases x₂ with
      | error e =>
        exact ⟨later₁.trans later₂, fun current => absurd (current _ target_mem) (read₂ b target₁),
          fun _ => ⟨e, rfl⟩⟩
      | ok e₂ =>
        obtain ⟨-, u₂, before₂, -, current₂⟩ := read₂
        rw [asked]
        refine (secure_finishLink_again ((done.kept kept₁).kept kept₂) sound₂).mono ?_
        rintro own₃ t₃ x ⟨later₃, rfl⟩
        refine ⟨(later₁.trans later₂).trans later₃, fun _ => rfl, ?_⟩
        rintro ⟨ref, mem, stale⟩
        simp only [WorkspaceCall.ends, List.mem_cons, List.not_mem_nil, or_false] at mem
        rcases mem with rfl | rfl
        · exact absurd (Current.before sound source before₁ current₁) stale
        · exact absurd (Current.before sound target (later₁.trans before₂) current₂) stale

theorem Settled.bound (h : Settled host spaceId call r t) : ∃ p op receipt,
    call.payload host spaceId t = .ok p ∧ p.operation host call.operationId = .ok op ∧
      t.receipt? op.operationId = some receipt ∧ receipt.payloadSha256 = op.payloadSha256 := by
  rcases h with ⟨c, q, stored, asked, -, done, -⟩ | ⟨args, q, a, b, rfl, asked, done, -, -, -⟩
  · obtain ⟨p, payload, made⟩ := c.payload asked
    obtain ⟨receipt, row, replayed, -, -⟩ := done.receipt
    exact ⟨p, _, receipt, payload, made, replayed.there, replayed.payload⟩
  · obtain ⟨p, payload, made⟩ := LinkArgs.payload_ok asked
    obtain ⟨receipt, row, replayed, -, -⟩ := done.receipt
    exact ⟨p, _, receipt, payload, made, replayed.there, replayed.payload⟩

theorem operationId_of {p : OperationPayload} {id : String} {op : OperationRef}
    (made : p.operation host id = .ok op) :
    requiredIdentifier host.toHost "operation_id" (.str id) = .ok op.operationId := by
  obtain ⟨identifier, named, made⟩ := bind_ok made
  obtain ⟨bytes, -, made⟩ := bind_ok made
  cases made
  exact named

/-- Another call under the operation id of a call that returned changes nothing, and returns only
if it has the same payload. -/
theorem secure_other (normal : Normal host) (collisionless : Function.Injective host.sha256)
    (bound : requiredIdentifier host.toHost "space_id" (.str spaceId) = .ok spaceId)
    (sound : t.Sound host spaceId) (settled : Settled host spaceId call r t) {other : WorkspaceCall}
    (tidy : other.Tidy host)
    (same : requiredIdentifier host.toHost "operation_id" (.str other.operationId) =
      requiredIdentifier host.toHost "operation_id" (.str call.operationId)) :
    Secure (idle host spaceId) [] t (other.run host spaceId) fun _ t' x =>
      Later host spaceId t t' ∧
        either (fun _ => other.payload host spaceId t' = call.payload host spaceId t')
          (fun _ => True) x := by
  obtain ⟨p, op, receipt, -, made, there, sha⟩ := settled.bound
  have id_eq {p' : OperationPayload} {op' : OperationRef}
      (made' : p'.operation host other.operationId = .ok op') : op'.operationId = op.operationId := by
    have ids := (operationId_of made').symm.trans (same.trans (operationId_of made))
    exact Except.ok.inj ids
  -- whatever returns under the id has the payload of the receipt
  have agree {t' : Tables} (later : t.Kept t') {p' : OperationPayload} {op' : OperationRef}
      (payload' : other.payload host spaceId t' = .ok p')
      (made' : p'.operation host other.operationId = .ok op')
      (sha' : receipt.payloadSha256 = op'.payloadSha256) :
      other.payload host spaceId t' = call.payload host spaceId t' := by
    obtain ⟨p₁, op₁, receipt₁, payload₁, made₁, there₁, sha₁⟩ := (settled.kept later).bound
    have ids : op₁.operationId = op.operationId :=
      Except.ok.inj ((operationId_of made₁).symm.trans (operationId_of made))
    rw [ids] at there₁
    cases there₁.symm.trans (later.receipts _ _ there)
    rw [payload', payload₁, operation_injective collisionless made' made₁ (sha'.symm.trans sha₁)]
  let post : Steps Tables → Tables → Except PyError WorkspaceResult → Prop := fun _ t' x =>
    Later host spaceId t t' ∧
      either (fun _ => ∃ p' op', other.payload host spaceId t' = .ok p' ∧
        p'.operation host other.operationId = .ok op' ∧
          receipt.payloadSha256 = op'.payloadSha256) (fun _ => True) x
  refine @Secure.mono _ _ _ _ _ _ _ _ post _ ?_ ?_
  · have stable (own : Steps Tables) {u v : Tables} {x : Except PyError WorkspaceResult}
        (moved : Later host spaceId u v) (h : post own u x) : post own v x := by
      refine ⟨h.1.trans moved, ?_⟩
      cases x with
      | error e => trivial
      | ok r =>
        obtain ⟨p', op', payload, made', sha'⟩ := h.2
        have kept := (moved (h.1 sound).1).2
        exact ⟨p', op', WorkspaceCall.payload_kept kept payload, made', sha'⟩
    have quiet : Quiet [] := nofun
    rcases @entryCall_or_link host spaceId other with ⟨args, rfl⟩ | ⟨⟨c⟩⟩
    · refine secure_map (fun {own _ _ _} => stable own) ?_
      refine secure_bind ((secure_readCurrentEntryRef ofStore_idle sound args.sourceRef
        quiet).mono ?_)
      rintro own₁ t₁ x₁ ⟨quiet₁, later₁, -⟩
      obtain ⟨sound₁, kept₁⟩ := later₁ sound
      cases x₁ with
      | error e => exact ⟨later₁, trivial⟩
      | ok e₁ =>
        refine secure_bind ((secure_readCurrentEntryRef ofStore_idle sound₁ args.targetRef
          quiet₁).mono ?_)
        rintro own₂ t₂ x₂ ⟨quiet₂, later₂, -⟩
        obtain ⟨sound₂, kept₂⟩ := later₂ sound₁
        cases x₂ with
        | error e => exact ⟨later₁.trans later₂, trivial⟩
        | ok e₂ =>
          refine secure_lift_bind (fun q asked => ?_) fun e _ v moved =>
            ⟨(later₁.trans later₂).trans moved, trivial⟩
          obtain ⟨p', payload', made'⟩ := LinkArgs.payload_ok asked
          have there₂ := kept₂.receipts _ _ (kept₁.receipts _ _ there)
          rw [← id_eq made'] at there₂
          refine (secure_finishLink_reuse sound₂ there₂).mono ?_
          rintro own₃ t₃ x₃ ⟨later₃, ended⟩
          refine ⟨(later₁.trans later₂).trans later₃, ?_⟩
          cases x₃ with
          | error e => trivial
          | ok l => exact ⟨p', q.operation, payload', made', ended⟩
    · rw [c.run]
      refine secure_map (fun {own _ _ _} => stable own) ?_
      refine c.asks ofStore_idle sound quiet ?_ ?_
      · intro own' u q _ later asked
        obtain ⟨soundU, kept⟩ := later sound
        obtain ⟨p', payload', made'⟩ := c.payload asked
        have thereU := kept.receipts _ _ there
        rw [← id_eq made'] at thereU
        have grounded := c.grounded normal bound tidy soundU asked
        refine (secure_reuse normal soundU grounded thereU).mono ?_
        rintro own₁ t₁ x ⟨later₁, ended⟩
        refine ⟨later.trans later₁, ?_⟩
        cases x with
        | error e => trivial
        | ok stored =>
          exact ⟨p', q.operation, WorkspaceCall.payload_kept (later₁ soundU).2 payload', made',
            ended⟩
      · intro own' u v e _ before after _
        exact ⟨before.trans after, trivial⟩
  · rintro own' t' x ⟨later, ended⟩
    refine ⟨later, ?_⟩
    cases x with
    | error e => trivial
    | ok r =>
      obtain ⟨p', op', payload', made', sha'⟩ := ended
      exact agree (later sound).2 payload' made' sha'

end Phases

end Unchain.MemorySpace
