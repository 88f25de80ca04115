import Unchain.Lib.Threads
import Unchain.MemorySpace.Requests

/-!
Any number of clients on one space.

The repository answers each command by one transaction on the tables; the index may answer as it
likes. `secure_applyRequest` and `secure_replay` are what one call of the service does to the
tables while other clients are at work: the first time, and when its operation has its receipt.
-/

namespace Unchain.MemorySpace

open Lib Lib.Process Lib.Interrupted Lib.Threads Lib.Effect Journal Python

variable (host : WorkspaceHost) (spaceId : String)

/-- `with self._store._transaction(immediate=True)`: what raises is rolled back. -/
def transact {α : Type} (body : Tables → Except PyError (α × Tables)) (t : Tables) :
    Except PyError α × Tables :=
  match body t with
  | .ok (a, t') => (.ok a, t')
  | .error e => (.error e, t)

/-- A transaction raises and leaves the tables, or gives its result and the tables after it. -/
theorem transact_cases {α : Type} {body : Tables → Except PyError (α × Tables)} {t t' : Tables}
    {r : Except PyError α} (ran : (r, t') = transact body t) :
    (∃ e, r = .error e ∧ t' = t) ∨ ∃ a, body t = .ok (a, t') ∧ r = .ok a := by
  rw [transact] at ran
  split at ran <;> cases ran
  · next outcome => exact .inr ⟨_, outcome, rfl⟩
  · exact .inl ⟨_, rfl, rfl⟩

/-- What the store answers to a command, and the tables after it. -/
def storeService : Service workspaceCalls Tables
  | t, .readEntry ref, r, t' => r = MemorySpace.readEntry spaceId ref t ∧ t' = t
  | t, .readCurrentEntry id, r, t' => r = MemorySpace.readCurrentEntry host id t ∧ t' = t
  | t, .apply request, r, t' => (r, t') = transact (apply host spaceId request) t
  | t, .createLink request, r, t' => (r, t') = transact (createLink spaceId request) t
  | t, .supersede _ _, _, t' => t' = t
  | t, .upsert _, _, t' => t' = t

def Later (t t' : Tables) : Prop := t.Sound host spaceId → t'.Sound host spaceId ∧ t.Kept t'

variable {host spaceId}

theorem Later.refl (t : Tables) : Later host spaceId t t := fun sound => ⟨sound, .refl t⟩

theorem Later.trans {t u v : Tables} (first : Later host spaceId t u)
    (second : Later host spaceId u v) : Later host spaceId t v := by
  intro sound
  obtain ⟨soundU, keptU⟩ := first sound
  obtain ⟨soundV, keptV⟩ := second soundU
  exact ⟨soundV, keptU.trans keptV⟩

/-- One step of the store, as far as the revision of the space goes. -/
def Advances (host : WorkspaceHost) (spaceId : String) (t t' : Tables) : Prop :=
  t.Sound host spaceId → t' = t ∨ t'.revision = t.revision + 1

variable (host spaceId) in
/-- A client at work: it may add to the tables. -/
def working : Terms workspaceCalls Tables where
  service := storeService host spaceId
  rely := Later host spaceId
  guarantee t t' := Later host spaceId t t' ∧ Advances host spaceId t t'
  refl := Later.refl
  trans := Later.trans

variable (host spaceId) in
/-- A client that leaves the tables as they are. -/
def idle : Terms workspaceCalls Tables where
  service := storeService host spaceId
  rely := Later host spaceId
  guarantee t t' := t' = t
  refl := Later.refl
  trans := Later.trans

/-- None of the steps changed anything. -/
def Quiet (own : Steps Tables) : Prop := ∀ step ∈ own, step.2 = step.1

theorem Quiet.snoc {own : Steps Tables} (quiet : Quiet own) (t : Tables) :
    Quiet (own ++ [(t, t)]) := by
  intro step mem
  rcases List.mem_append.mp mem with mem | mem
  · exact quiet step mem
  · rw [List.mem_singleton.mp mem]

structure OfStore (host : WorkspaceHost) (spaceId : String) (C : Terms workspaceCalls Tables) :
    Prop where
  service : C.service = storeService host spaceId
  rely : C.rely = Later host spaceId
  nothing : ∀ t, C.guarantee t t

theorem ofStore_working : OfStore host spaceId (working host spaceId) :=
  ⟨rfl, rfl, fun t => ⟨Later.refl t, fun _ => .inl rfl⟩⟩

theorem ofStore_idle : OfStore host spaceId (idle host spaceId) := ⟨rfl, rfl, fun _ => rfl⟩

/-! ### Reads -/

section Reads

variable {C : Terms workspaceCalls Tables} {own : Steps Tables} {t : Tables}

theorem secure_lift {α : Type} {x : Except PyError α} {post : Steps Tables → Tables →
    Except PyError α → Prop} (h : ∀ t', C.rely t t' → post own t' x) :
    Secure C own t (Prog.lift x : WorkspaceProg α) post := by
  cases x with
  | ok a => exact h
  | error e => exact h

/-- Computations that ask for nothing are one computation. -/
theorem lift_bind_lift {α β : Type} (x : Except PyError α) (f : α → Except PyError β) :
    ((Prog.lift x : WorkspaceProg α) >>= fun a => Prog.lift (f a)) = Prog.lift (x >>= f) := by
  cases x <;> rfl

theorem raiseIf_eq_lift (b : Bool) (e : PyError) :
    (Prog.raiseIf b e : WorkspaceProg Unit) = Prog.lift (raiseIf b e) := by
  cases b <;> rfl

/-- What `_read_entry_ref` makes of the answer. -/
def checkedEntry (host : WorkspaceHost) (spaceId : String) (ref : ResourceRef)
    (answer : Except PyError MemoryEntry) : Except PyError MemoryEntry := do
  let entry ← answer
  validateEntry host spaceId entry
  raiseIf (entry.entryId ≠ ref.resourceId || entry.revision ≠ ref.revision)
    (scopeError "repository returned a different entry revision")
  .ok entry

theorem readEntryRef_eq (ref : ResourceRef) : readEntryRef host spaceId ref =
    (Prog.lift (requireBoundEntryRef spaceId ref) >>= fun _ =>
      (.call (.readEntry ref) fun r => Prog.lift (checkedEntry host spaceId ref r) :
        WorkspaceProg MemoryEntry)) := by
  have onward (r : Except PyError MemoryEntry) :
      ((Prog.lift r : WorkspaceProg MemoryEntry) >>= fun entry => do
        Prog.lift (validateEntry host spaceId entry)
        Prog.raiseIf (entry.entryId ≠ ref.resourceId || entry.revision ≠ ref.revision)
          (scopeError "repository returned a different entry revision")
        pure entry) = Prog.lift (checkedEntry host spaceId ref r) := by
    simp only [raiseIf_eq_lift]
    cases r with
    | error e => rfl
    | ok entry =>
      change (Prog.lift (validateEntry host spaceId entry) >>= fun _ =>
        Prog.lift _ >>= fun _ => (Prog.lift (.ok entry) : WorkspaceProg MemoryEntry)) = _
      simp only [lift_bind_lift]
      rfl
  unfold readEntryRef
  congr 1
  funext _
  exact congrArg (Prog.call _) (funext onward)

/-- What a client has read was so at some time since it asked. -/
structure Read (host : WorkspaceHost) (spaceId : String) (before : Tables)
    {α : Type} (read : Tables → Except PyError α) (own : Steps Tables) (t : Tables)
    (x : Except PyError α) : Prop where
  quiet : Quiet own
  since : ∃ u, Later host spaceId before u ∧ Later host spaceId u t ∧ x = read u

theorem secure_readEntryRef (store : OfStore host spaceId C) (ref : ResourceRef)
    (quiet : Quiet own) :
    Secure C own t (readEntryRef host spaceId ref)
      (Read host spaceId t (refEntry host spaceId ref)) := by
  rw [readEntryRef_eq]
  refine secure_lift_bind (fun _ bound => ?_) fun e bound t' moved => ?_
  · intro t' r t'' moved answered
    rw [store.service] at answered
    obtain ⟨rfl, rfl⟩ := answered
    refine ⟨store.nothing _, secure_lift fun v later => ?_⟩
    rw [store.rely] at moved later
    refine ⟨quiet.snoc _, t'', moved, later, ?_⟩
    rw [refEntry, bound]
    rfl
  · rw [store.rely] at moved
    refine ⟨quiet, t, Later.refl t, moved, ?_⟩
    rw [refEntry, bound]
    rfl

end Reads

/-! ### The index -/

section Index

variable {C : Terms workspaceCalls Tables} {own : Steps Tables} {t : Tables} {stored : MemoryEntry}

/-- Some further steps that changed nothing. -/
def Idled (own own' : Steps Tables) : Prop := ∃ more, Quiet more ∧ own' = own ++ more

theorem Idled.refl (own : Steps Tables) : Idled own own :=
  ⟨[], nofun, (List.append_nil own).symm⟩

theorem Idled.snoc {own' : Steps Tables} (idled : Idled own own') (t : Tables) :
    Idled own (own' ++ [(t, t)]) := by
  obtain ⟨more, quiet, rfl⟩ := idled
  exact ⟨more ++ [(t, t)], quiet.snoc t, List.append_assoc _ _ _⟩

theorem Idled.quiet {own' : Steps Tables} (idled : Idled own own') (quiet : Quiet own) :
    Quiet own' := by
  obtain ⟨more, idle, rfl⟩ := idled
  intro step mem
  rcases List.mem_append.mp mem with mem | mem
  · exact quiet step mem
  · exact idle step mem

theorem secure_index_call (store : OfStore host spaceId C) {c : WorkspaceCmd}
    (index : ∀ t r t', storeService host spaceId t c r t' → t' = t) {β : Type}
    {k : workspaceCalls.Answer c → WorkspaceProg β}
    {post : Steps Tables → Tables → Except PyError β → Prop}
    (h : ∀ r t', Later host spaceId t t' → Secure C (own ++ [(t', t')]) t' (k r) post) :
    Secure C own t (.call c k) post := by
  intro t' r t'' moved answered
  rw [store.service] at answered
  cases index _ _ _ answered
  rw [store.rely] at moved
  exact ⟨store.nothing _, h r _ moved⟩

theorem secure_indexEntry (store : OfStore host spaceId C) {content : Option Utf8.Bytes}
    (space : stored.spaceId = spaceId) (chunks : host.indexed = true → stored.deleted = false →
      (entryChunks host stored content).mapM IndexChunk.checked =
        .ok (entryChunks host stored content)) :
    Secure C own t (indexEntry host spaceId stored content)
      fun own' t' x => Idled own own' ∧ Later host spaceId t t' ∧ ∃ b, x = .ok b := by
  refine secure_raiseIf_bind (fun _ => ?_) fun foreign => by simp [space] at foreign
  have finished {own' : Steps Tables} {u : Tables} (idled : Idled own own')
      (later : Later host spaceId t u) (b : Bool) :
      Secure C own' u (pure b : WorkspaceProg Bool)
        fun own' t' x => Idled own own' ∧ Later host spaceId t t' ∧ ∃ b, x = .ok b := by
    intro v moved
    rw [store.rely] at moved
    exact ⟨idled, later.trans moved, b, rfl⟩
  cases indexed : host.indexed with
  | false => exact finished (.refl own) (Later.refl t) false
  | true =>
    refine secure_index_call (c := .supersede stored.ref stored.deleted) store (fun _ _ _ h => h)
      fun done u later => ?_
    have idled := (Idled.refl own).snoc u
    cases done with
    | false => exact finished idled later false
    | true =>
      cases deleted : stored.deleted with
      | true => exact finished idled later true
      | false =>
        rw [chunks indexed deleted]
        refine secure_index_call (c := .upsert (entryChunks host stored content)) store
          (fun _ _ _ h => h) fun upserted v later' => ?_
        exact finished (idled.snoc v) (later.trans later') upserted

end Index

/-! ### One request -/

section Requests

variable {C : Terms workspaceCalls Tables} {own : Steps Tables} {t : Tables} {stored : MemoryEntry}
  {q : WorkspaceMutationRequest}

theorem eq_of_not_diverges {asked stored : MemoryEntry} {content : Option Utf8.Bytes}
    (space : stored.spaceId = asked.spaceId) (h : diverges asked stored content = false) :
    stored = { asked with contentRef := stored.contentRef } := by
  simp only [diverges, Bool.or_eq_false_iff, decide_eq_false_iff_not, not_not] at h
  obtain ⟨⟨⟨⟨⟨⟨⟨⟨⟨⟨⟨⟨entryId, revision⟩, seq⟩, path⟩, name⟩, description⟩, kind⟩, tags⟩, media⟩,
    link⟩, deleted⟩, sources⟩, -⟩ := h
  cases stored
  simp only [MemoryEntry.mk.injEq, true_and]
  exact ⟨entryId, space, path, name, description, kind, revision, seq, sources, tags, media, link,
    deleted⟩

theorem not_diverges {asked stored : MemoryEntry} {content : Option Utf8.Bytes}
    (same : stored = { asked with contentRef := stored.contentRef })
    (bare : content = none → stored.contentRef = asked.contentRef) :
    diverges asked stored content = false := by
  rw [same]
  cases content with
  | none => simp [diverges, bare rfl]
  | some bytes => simp [diverges]

structure Accepts (host : WorkspaceHost) (spaceId : String) (q : WorkspaceMutationRequest)
    (stored : MemoryEntry) : Prop where
  valid : validateEntry host spaceId stored = .ok ()
  same : diverges q.entry stored q.content = false
  content : (q.entry.kind.hasContent && stored.contentRef.isNone) = false

/-- The service returns the stored entry if it takes it, and raises otherwise. -/
theorem secure_acceptStored (store : OfStore host spaceId C)
    (grounded : Grounded host spaceId q t) :
    Secure C own t (acceptStored host spaceId q stored) fun own' t' x =>
      Idled own own' ∧ Later host spaceId t t' ∧
        either (fun e => e = stored ∧ Accepts host spaceId q stored)
          (fun _ => ¬ Accepts host spaceId q stored) x := by
  have refused (no : ¬ Accepts host spaceId q stored) (e : PyError) (t' : Tables)
      (moved : C.rely t t') : Idled own own ∧ Later host spaceId t t' ∧
        either (fun e => e = stored ∧ Accepts host spaceId q stored)
          (fun _ => ¬ Accepts host spaceId q stored) (.error e : Except PyError MemoryEntry) := by
    rw [store.rely] at moved
    exact ⟨.refl own, moved, no⟩
  refine secure_lift_bind (fun ⟨⟩ valid => ?_) fun e invalid => refused
    (fun accepts => by rw [accepts.valid] at invalid; cases invalid) e
  refine secure_raiseIf_bind (fun same => ?_) fun differs => refused
    (fun accepts => by rw [accepts.same] at differs; cases differs) _
  refine secure_raiseIf_bind (fun content => ?_) fun missing => refused
    (fun accepts => by rw [accepts.content] at missing; cases missing) _
  have space : stored.spaceId = spaceId := (validateEntry_ok valid).1
  have eq := eq_of_not_diverges (space.trans grounded.space.symm) same
  refine secure_bind ((secure_indexEntry store space fun indexed alive => ?_).mono ?_)
  · exact grounded.chunks indexed (by rw [eq] at alive; exact alive) eq
  · rintro own' t' x ⟨idled, later, b, rfl⟩
    intro v moved
    rw [store.rely] at moved
    exact ⟨idled, later.trans moved, rfl, valid, same, content⟩

theorem request_checked {q q' : WorkspaceMutationRequest} (h : q.checked = .ok q') : q' = q := by
  obtain ⟨-, h⟩ := raiseIf_bind_ok h
  obtain ⟨-, h⟩ := raiseIf_bind_ok h
  obtain ⟨-, h⟩ := raiseIf_bind_ok h
  exact (Except.ok.inj h).symm

structure Done (host : WorkspaceHost) (spaceId : String) (q : WorkspaceMutationRequest)
    (stored : MemoryEntry) (t : Tables) : Prop where
  checked : q.checked = .ok q
  space : q.entry.spaceId = spaceId
  receipt : ∃ receipt row, Replayed q.operation "entry" (targetKey q.entry.entryId q.entry.revision) t
    receipt ∧ t.revisionRow? receipt.resultId receipt.resultRevision = some row ∧ row.entry = stored
  accepts : Accepts host spaceId q stored

theorem Done.kept {t' : Tables} (kept : t.Kept t') (done : Done host spaceId q stored t) :
    Done host spaceId q stored t' := by
  obtain ⟨receipt, row, replayed, there, eq⟩ := done.receipt
  exact ⟨done.checked, done.space, ⟨receipt, row,
    ⟨kept.receipts _ _ replayed.there, replayed.payload, replayed.targetKind, replayed.targetKey⟩,
    kept.rows _ _ _ there, eq⟩, done.accepts⟩

/-- A request whose operation has its receipt is answered from it. -/
theorem Done.apply_eq (done : Done host spaceId q stored t) :
    apply host spaceId q t = .ok (stored, t) := by
  obtain ⟨receipt, row, replayed, there, rfl⟩ := done.receipt
  have found : receiptFor q.operation "entry" (targetKey q.entry.entryId q.entry.revision) t =
      .ok (some receipt) := by
    rw [receiptFor, replayed.there]
    simp [replayed.payload, replayed.targetKind, replayed.targetKey]
  unfold apply
  simp only [done.space, ne_eq, not_true, decide_false, raiseIf, Bool.false_eq_true, if_false, found,
    bind, Except.bind, there]

/-- A repeated request returns what it returned before, and changes nothing. -/
theorem secure_replay (done : Done host spaceId q stored t) (sound : t.Sound host spaceId)
    (grounded : Grounded host spaceId q t) :
    Secure (idle host spaceId) own t (applyRequest host spaceId q)
      fun _ t' x => Later host spaceId t t' ∧ x = .ok stored := by
  unfold applyRequest
  rw [done.checked]
  refine secure_call_bind fun u r v moved answered => ?_
  obtain ⟨soundU, kept⟩ := moved sound
  have eq : (r, v) = (.ok stored, u) := by
    have transacted : (r, v) = transact (apply host spaceId q) u := answered
    rw [transacted, transact, (done.kept kept).apply_eq]
    rfl
  cases eq
  refine ⟨rfl, ?_⟩
  refine (secure_acceptStored ofStore_idle (grounded.kept kept)).mono ?_
  rintro own' t' x ⟨-, later, accepted⟩
  cases x with
  | ok e => exact ⟨moved.trans later, congrArg _ accepted.1⟩
  | error e => exact absurd done.accepts accepted

theorem Applied.accepts {t' : Tables} (sound : t.Sound host spaceId)
    (grounded : Grounded host spaceId q t) (applied : Applied host spaceId q t stored t') :
    Accepts host spaceId q stored := by
  have bare : q.content = none → stored.contentRef = q.entry.contentRef := by
    intro none
    have same := applied.bare none fun row current => by
      obtain ⟨head, -, there⟩ := Tables.currentRow?_some current
      have expected := applied.current
      rw [current, Option.map_some] at expected
      obtain ⟨row', there', ref⟩ := grounded.bare none _ expected.symm
      rw [(sound.named _ _ _ there).revision, there] at there'
      cases there'
      exact ref
    rw [same]
  obtain ⟨space, path, canonical, name⟩ := validateEntry_ok grounded.accepted
  refine ⟨?_, not_diverges applied.entry bare, ?_⟩
  · rw [applied.entry]
    exact validateEntry_of space canonical name
  · have kind : stored.kind = q.entry.kind := by rw [applied.entry]
    cases content : q.entry.kind.hasContent with
    | false => rfl
    | true =>
      have there := applied.content (by
        rw [kind]
        cases shown : q.entry.kind <;> simp [MemoryEntryKind.hasContent, shown] at content ⊢)
      simpa using there

theorem Applied.done {t' : Tables} (checked : q.checked = .ok q) (sound : t.Sound host spaceId)
    (grounded : Grounded host spaceId q t) (applied : Applied host spaceId q t stored t') :
    Done host spaceId q stored t' := by
  obtain ⟨row, there, eq⟩ := applied.row
  have entryId : stored.entryId = q.entry.entryId := by rw [applied.entry]
  have revision : stored.revision = q.entry.revision := by rw [applied.entry]
  exact ⟨checked, grounded.space,
    ⟨_, row, ⟨applied.receipt, rfl, rfl, by simp only [entryId, revision]⟩, there, eq⟩,
    applied.accepts sound grounded⟩

/-- A request leaves its receipt, or raises and has changed nothing. -/
theorem secure_applyRequest (normal : Normal host) (sound : t.Sound host spaceId)
    (grounded : Grounded host spaceId q t) (quiet : Quiet own) :
    Secure (working host spaceId) own t (applyRequest host spaceId q) fun own' t' x =>
      Later host spaceId t t' ∧
        either (fun stored => Done host spaceId q stored t') (fun _ => Quiet own') x := by
  refine secure_lift_bind (fun q' checked => ?_) fun _ _ _ moved => ⟨moved, quiet⟩
  cases request_checked checked
  refine secure_call_bind fun u r v moved answered => ?_
  obtain ⟨soundU, kept⟩ := moved sound
  have groundedU := grounded.kept kept
  have transacted : (r, v) = transact (apply host spaceId q) u := answered
  rcases transact_cases transacted with ⟨e, rfl, rfl⟩ | ⟨stored, outcome, rfl⟩
  · exact ⟨ofStore_working.nothing _, fun _ later => ⟨moved.trans later, quiet.snoc _⟩⟩
  · rcases apply_spec normal soundU grounded.valid outcome with
      ⟨rfl, receipt, row, replayed, there, rfl⟩ | ⟨-, applied⟩
    · refine ⟨ofStore_working.nothing _, ?_⟩
      refine (secure_acceptStored ofStore_working groundedU).mono ?_
      rintro own' t' x ⟨idled, later, accepted⟩
      refine ⟨moved.trans later, ?_⟩
      cases x with
      | ok e =>
        obtain ⟨rfl, accepts⟩ := accepted
        have done : Done host spaceId q row.entry _ :=
          ⟨checked, grounded.space, ⟨receipt, row, replayed, there, rfl⟩, accepts⟩
        exact done.kept (later soundU).2
      | error e => exact idled.quiet (quiet.snoc _)
    · have later : Later host spaceId u v := fun _ => ⟨applied.sound, applied.kept⟩
      refine ⟨⟨later, fun _ => .inr applied.advanced⟩, ?_⟩
      have done := applied.done checked soundU groundedU
      refine (secure_acceptStored ofStore_working (groundedU.kept applied.kept)).mono ?_
      rintro own' t' x ⟨idled, later', accepted⟩
      refine ⟨(moved.trans later).trans later', ?_⟩
      cases x with
      | ok e =>
        obtain ⟨rfl, -⟩ := accepted
        exact done.kept (later' applied.sound).2
      | error e => exact absurd done.accepts accepted

theorem secure_reuse (normal : Normal host) (sound : t.Sound host spaceId)
    (grounded : Grounded host spaceId q t) {receipt : OperationReceipt}
    (there : t.receipt? q.operation.operationId = some receipt) :
    Secure (idle host spaceId) own t (applyRequest host spaceId q) fun _ t' x =>
      Later host spaceId t t' ∧
        either (fun _ => receipt.payloadSha256 = q.operation.payloadSha256) (fun _ => True) x := by
  refine secure_lift_bind (fun q' checked => ?_) fun _ _ _ moved => ⟨moved, trivial⟩
  cases request_checked checked
  refine secure_call_bind fun u r v moved answered => ?_
  obtain ⟨soundU, kept⟩ := moved sound
  have thereU := kept.receipts _ _ there
  have transacted : (r, v) = transact (apply host spaceId q) u := answered
  rcases transact_cases transacted with ⟨e, rfl, rfl⟩ | ⟨stored, outcome, rfl⟩
  · exact ⟨rfl, fun _ later => ⟨moved.trans later, trivial⟩⟩
  · rcases apply_spec normal soundU grounded.valid outcome with
      ⟨rfl, receipt', row, replayed, -, -⟩ | ⟨new, -⟩
    · cases thereU.symm.trans replayed.there
      refine ⟨rfl, ?_⟩
      refine (secure_acceptStored ofStore_idle (grounded.kept kept)).mono ?_
      rintro own' t' x ⟨-, later, -⟩
      refine ⟨moved.trans later, ?_⟩
      cases x with
      | ok e => exact replayed.payload
      | error e => trivial
    · cases thereU.symm.trans new

end Requests

/-! ### Relation links -/

section Links

variable {own : Steps Tables} {t t' : Tables} {ref : ResourceRef} {q : WorkspaceLinkRequest}

/-- What `_read_current_entry_ref` makes of the second answer. -/
def checkedCurrent (host : WorkspaceHost) (spaceId : String) (ref : ResourceRef)
    (historical : MemoryEntry) (answer : Except PyError MemoryEntry) :
    Except PyError MemoryEntry := do
  let current ← answer
  validateEntry host spaceId current
  raiseIf (current.entryId ≠ ref.resourceId)
    (scopeError "repository returned a different current entry")
  raiseIf current.deleted (conflictError "archived entries cannot be used")
  raiseIf (current.revision ≠ ref.revision || current ≠ historical)
    (conflictError "entry reference is not current")
  .ok current

theorem readCurrentEntryRef_eq (ref : ResourceRef) : readCurrentEntryRef host spaceId ref =
    (readEntryRef host spaceId ref >>= fun historical =>
      (.call (.readCurrentEntry ref.resourceId) fun r =>
        Prog.lift (checkedCurrent host spaceId ref historical r) : WorkspaceProg MemoryEntry)) := by
  have onward (historical : MemoryEntry) (r : Except PyError MemoryEntry) :
      ((Prog.lift r : WorkspaceProg MemoryEntry) >>= fun current => do
        Prog.lift (validateEntry host spaceId current)
        Prog.raiseIf (current.entryId ≠ ref.resourceId)
          (scopeError "repository returned a different current entry")
        Prog.raiseIf current.deleted (conflictError "archived entries cannot be used")
        Prog.raiseIf (current.revision ≠ ref.revision || current ≠ historical)
          (conflictError "entry reference is not current")
        pure current) = Prog.lift (checkedCurrent host spaceId ref historical r) := by
    simp only [raiseIf_eq_lift]
    cases r with
    | error e => rfl
    | ok entry =>
      change (Prog.lift (validateEntry host spaceId entry) >>= fun _ =>
        Prog.lift _ >>= fun _ => Prog.lift _ >>= fun _ => Prog.lift _ >>= fun _ =>
          (Prog.lift (.ok entry) : WorkspaceProg MemoryEntry)) = _
      simp only [lift_bind_lift]
      rfl
  unfold readCurrentEntryRef
  congr 1
  funext historical
  exact congrArg (Prog.call _) (funext (onward historical))

theorem Current.before (sound : t.Sound host spaceId) {e : MemoryEntry}
    (stored : refEntry host spaceId ref t = .ok e) (later : Later host spaceId t t')
    (current : t'.Current ref) : t.Current ref := by
  obtain ⟨soundT, kept⟩ := later sound
  obtain ⟨-, row, there, rfl⟩ := refEntry_ok stored
  obtain ⟨row', current', revision, alive⟩ := current
  obtain ⟨head', head_eq', there'⟩ := Tables.currentRow?_some current'
  have named' := soundT.named _ _ _ there'
  obtain ⟨head, head_eq, low, high⟩ := (sound.rows _ _).mp (by rw [there]; rfl)
  obtain ⟨head'', head_eq'', le⟩ := kept.heads _ _ head_eq
  cases head_eq'.symm.trans head_eq''
  have same : head.currentRevision = ref.revision := by
    have := named'.revision
    omega
  refine ⟨row, ?_, (sound.named _ _ _ there).revision, ?_⟩
  · rw [Tables.currentRow?, head_eq]
    simp only [Option.bind_some, same]
    exact there
  · have again := kept.rows _ _ _ there
    rw [← revision, named'.revision, there'] at again
    cases again
    exact alive

theorem checkedCurrent_of (sound : t.Sound host spaceId) {e : MemoryEntry}
    (stored : refEntry host spaceId ref t = .ok e) (current : t.Current ref) :
    checkedCurrent host spaceId ref e (MemorySpace.readCurrentEntry host ref.resourceId t) =
      .ok e := by
  obtain ⟨valid, row, there, rfl⟩ := refEntry_ok stored
  obtain ⟨row', current', revision, alive⟩ := current
  have named := sound.named _ _ _ there
  obtain ⟨head, -, there'⟩ := Tables.currentRow?_some current'
  have same : row' = row := by
    have key := (sound.named _ _ _ there').revision
    rw [revision] at key
    rw [← key, there] at there'
    exact (Option.some.inj there').symm
  subst same
  have id : requiredIdentifier host.toHost "entry_id" (.str ref.resourceId) = .ok ref.resourceId := by
    have own := (passed_of_checked named.valid).entryId
    rw [named.entryId] at own
    exact own
  rw [checkedCurrent, MemorySpace.readCurrentEntry, id]
  simp only [bind, Except.bind, current', valid, raiseIf, alive, named.entryId, revision, ne_eq,
    not_true, decide_false, Bool.or_self, Bool.false_eq_true, if_false]

theorem checkedCurrent_ok (sound : t.Sound host spaceId) {historical e : MemoryEntry}
    (h : checkedCurrent host spaceId ref historical
      (MemorySpace.readCurrentEntry host ref.resourceId t) = .ok e) :
    e = historical ∧ t.Current ref := by
  obtain ⟨current, read, h⟩ := bind_ok h
  obtain ⟨⟨⟩, -, h⟩ := bind_ok h
  obtain ⟨id, h⟩ := raiseIf_bind_ok h
  obtain ⟨alive, h⟩ := raiseIf_bind_ok h
  obtain ⟨same, h⟩ := raiseIf_bind_ok h
  cases h
  simp only [Bool.or_eq_false_iff, decide_eq_false_iff_not, not_not] at id same
  refine ⟨same.2, ?_⟩
  obtain ⟨normalized, -, read⟩ := bind_ok read
  split at read
  · cases read
  · rename_i row there
    cases read
    obtain ⟨head, -, stored⟩ := Tables.currentRow?_some there
    have named := (sound.named _ _ _ stored).entryId
    rw [id] at named
    cases named
    exact ⟨row, there, same.1, alive⟩

theorem secure_readCurrentEntryRef {C : Terms workspaceCalls Tables}
    (store : OfStore host spaceId C) (sound : t.Sound host spaceId) (ref : ResourceRef)
    (quiet : Quiet own) : Secure C own t (readCurrentEntryRef host spaceId ref) fun own' t' x =>
      Quiet own' ∧ Later host spaceId t t' ∧
        either (fun e => refEntry host spaceId ref t' = .ok e ∧
            ∃ u, Later host spaceId t u ∧ Later host spaceId u t' ∧ u.Current ref)
          (fun _ => ∀ e, refEntry host spaceId ref t = .ok e → ¬ t'.Current ref) x := by
  rw [readCurrentEntryRef_eq]
  refine secure_bind ((secure_readEntryRef store ref quiet).mono ?_)
  rintro own' v x ⟨quiet', u, before, after, rfl⟩
  obtain ⟨soundU, keptU⟩ := before sound
  cases read : refEntry host spaceId ref u with
  | error e =>
    refine ⟨quiet', before.trans after, fun stored there => ?_⟩
    rw [refEntry_kept keptU there] at read
    cases read
  | ok e =>
    intro w r w' moved answered
    rw [store.service] at answered
    rw [store.rely] at moved
    obtain ⟨rfl, rfl⟩ := answered
    have since := after.trans moved
    obtain ⟨soundW, keptW⟩ := since soundU
    have stored := refEntry_kept keptW read
    refine ⟨store.nothing _, secure_lift fun z later => ?_⟩
    rw [store.rely] at later
    refine ⟨quiet'.snoc _, (before.trans since).trans later, ?_⟩
    cases outcome : checkedCurrent host spaceId ref e
        (MemorySpace.readCurrentEntry host ref.resourceId w') with
    | ok current =>
      obtain ⟨rfl, now⟩ := checkedCurrent_ok soundW outcome
      exact ⟨refEntry_kept (later soundW).2 stored, w', before.trans since, later, now⟩
    | error failed =>
      intro _ _ current
      have now := Current.before soundW stored later current
      rw [checkedCurrent_of soundW stored now] at outcome
      cases outcome

structure LinkDone (spaceId : String) (q : WorkspaceLinkRequest) (t : Tables) : Prop where
  source : requireMemoryRef spaceId q.sourceEntryRef = .ok ()
  linkSource : requireMemoryRef spaceId q.link.sourceEntryRef = .ok ()
  target : requireMemoryRef spaceId q.link.targetRef = .ok ()
  same : q.link.sourceEntryRef = q.sourceEntryRef
  receipt : ∃ receipt row, Replayed q.operation "link" (targetKey q.link.linkId q.link.revision) t
    receipt ∧ t.linkRow? receipt.resultId receipt.resultRevision = some row ∧ row.link = q.link

theorem LinkDone.kept (kept : t.Kept t') (done : LinkDone spaceId q t) : LinkDone spaceId q t' := by
  obtain ⟨receipt, row, replayed, there, eq⟩ := done.receipt
  exact { done with
    receipt := ⟨receipt, row, ⟨kept.receipts _ _ replayed.there, replayed.payload,
      replayed.targetKind, replayed.targetKey⟩, kept.links _ _ _ there, eq⟩ }

theorem LinkDone.createLink_eq (done : LinkDone spaceId q t) :
    createLink spaceId q t = .ok (q.link, t) := by
  obtain ⟨receipt, row, replayed, there, eq⟩ := done.receipt
  have found : receiptFor q.operation "link" (targetKey q.link.linkId q.link.revision) t =
      .ok (some receipt) := by
    rw [receiptFor, replayed.there]
    simp [replayed.payload, replayed.targetKind, replayed.targetKey]
  unfold createLink
  simp only [done.source, done.target, done.same, ne_eq, not_true, decide_false,
    raiseIf, Bool.false_eq_true, if_false, found, bind, Except.bind, there, eq]

theorem createLink_ok {stored : MemoryLink} (h : createLink spaceId q t = .ok (stored, t')) :
    requireMemoryRef spaceId q.sourceEntryRef = .ok () ∧
    requireMemoryRef spaceId q.link.sourceEntryRef = .ok () ∧
    requireMemoryRef spaceId q.link.targetRef = .ok () ∧
    q.link.sourceEntryRef = q.sourceEntryRef := by
  obtain ⟨⟨⟩, source, h⟩ := bind_ok h
  obtain ⟨⟨⟩, linkSource, h⟩ := bind_ok h
  obtain ⟨⟨⟩, target, h⟩ := bind_ok h
  obtain ⟨same, h⟩ := raiseIf_bind_ok h
  simp only [decide_eq_false_iff_not, not_not] at same
  exact ⟨source, linkSource, target, same⟩

/-- The end of `link`. -/
def finishLink (q : WorkspaceLinkRequest) : WorkspaceProg MemoryLink := do
  let stored ← (.call (.createLink q) Prog.lift : WorkspaceProg MemoryLink)
  Prog.raiseIf (stored ≠ q.link)
    (repositoryError "link capability returned a divergent relation")
  pure stored

/-- A link request leaves its receipt, or raises and has changed nothing. -/
theorem secure_finishLink (sound : t.Sound host spaceId) (quiet : Quiet own) :
    Secure (working host spaceId) own t (finishLink q) fun own' t' x =>
      Later host spaceId t t' ∧
        either (fun stored => stored = q.link ∧ LinkDone spaceId q t') (fun _ => Quiet own') x := by
  refine secure_call_bind fun u r v moved answered => ?_
  obtain ⟨soundU, -⟩ := moved sound
  have transacted : (r, v) = transact (createLink spaceId q) u := answered
  rcases transact_cases transacted with ⟨e, rfl, rfl⟩ | ⟨stored, outcome, rfl⟩
  · exact ⟨ofStore_working.nothing _, fun _ later => ⟨moved.trans later, quiet.snoc _⟩⟩
  · obtain ⟨source, linkSource, target, same⟩ := createLink_ok outcome
    rcases createLink_spec soundU outcome with ⟨rfl, receipt, row, replayed, there, rfl⟩ | ⟨-, linked⟩
    · refine ⟨ofStore_working.nothing _, ?_⟩
      refine secure_raiseIf_bind (fun equal => ?_) fun _ z later =>
        ⟨moved.trans later, quiet.snoc _⟩
      simp only [decide_eq_false_iff_not, not_not] at equal
      intro z later
      have done : LinkDone spaceId q _ :=
        ⟨source, linkSource, target, same, receipt, row, replayed, there, equal⟩
      exact ⟨moved.trans later, equal, done.kept (later soundU).2⟩
    · have step : Later host spaceId u v := fun _ => ⟨linked.sound, linked.kept⟩
      refine ⟨⟨step, fun _ => .inr linked.advanced⟩, ?_⟩
      refine secure_raiseIf_bind (fun _ => ?_) fun differs => by simp [linked.link] at differs
      intro z later
      obtain ⟨row, there, eq⟩ := linked.row
      have done : LinkDone spaceId q v := by
        refine ⟨source, linkSource, target, same, _, row,
          ⟨linked.receipt, rfl, rfl, by simp only [linked.link]⟩, there, ?_⟩
        rw [eq, linked.link]
      exact ⟨(moved.trans step).trans later, linked.link, done.kept (later linked.sound).2⟩

/-- A repeated link request returns its link, and changes nothing. -/
theorem secure_finishLink_again (done : LinkDone spaceId q t) (sound : t.Sound host spaceId) :
    Secure (idle host spaceId) own t (finishLink q) fun _ t' x =>
      Later host spaceId t t' ∧ x = .ok q.link := by
  refine secure_call_bind fun u r v moved answered => ?_
  have eq : (r, v) = (.ok q.link, u) := by
    have transacted : (r, v) = transact (createLink spaceId q) u := answered
    rw [transacted, transact, (done.kept (moved sound).2).createLink_eq]
    rfl
  cases eq
  refine ⟨rfl, ?_⟩
  refine secure_raiseIf_bind (fun _ => ?_) fun differs => by simp at differs
  intro z later
  exact ⟨moved.trans later, rfl⟩

theorem secure_finishLink_reuse (sound : t.Sound host spaceId) {receipt : OperationReceipt}
    (there : t.receipt? q.operation.operationId = some receipt) :
    Secure (idle host spaceId) own t (finishLink q) fun _ t' x =>
      Later host spaceId t t' ∧
        either (fun _ => receipt.payloadSha256 = q.operation.payloadSha256) (fun _ => True) x := by
  refine secure_call_bind fun u r v moved answered => ?_
  obtain ⟨soundU, kept⟩ := moved sound
  have thereU := kept.receipts _ _ there
  have transacted : (r, v) = transact (createLink spaceId q) u := answered
  rcases transact_cases transacted with ⟨e, rfl, rfl⟩ | ⟨stored, outcome, rfl⟩
  · exact ⟨rfl, fun _ later => ⟨moved.trans later, trivial⟩⟩
  · rcases createLink_spec soundU outcome with ⟨rfl, receipt', row, replayed, -, -⟩ | ⟨new, -⟩
    · cases thereU.symm.trans replayed.there
      refine ⟨rfl, ?_⟩
      refine secure_raiseIf_bind (fun _ => ?_) fun _ z later => ⟨moved.trans later, trivial⟩
      intro z later
      exact ⟨moved.trans later, replayed.payload⟩
    · cases thereU.symm.trans new

end Links

end Unchain.MemorySpace
