import Unchain.Interaction.OneAnswer

/-!
Checkpoints and interactions stay bound to each other.

In every run the active interaction of a session is the one its checkpoint waits for, and an
interaction that nobody answered stays active. A save whose acknowledgement was lost computes the
document that is there when it is tried again, so it returns the stored checkpoint as long as it
takes itself for a retry: the checkpoint names the revision the save expected as its base.
-/

namespace Unchain.Interaction

open Lib Lib.Process Lib.Effect Memory Python
open ExecutionCheckpointDomain (domainFields fromFence fromState isPositive)

section Again

variable {host : RuntimeHost} {A : RecordCall → Prop} {doc state : Dict} {j : Journal}

/-- A registration that is repeated leaves the document as it is. -/
theorem Bound.registered_again (hex : HexDigests host.interaction) (h : Bound host A doc j)
    {checkpoint : Value} (valid : Validated host.interaction checkpoint)
    {request : Given InteractionRequest} {registered : Dict}
    (ran : registerCheckpointInteractionRequest host.interaction doc checkpoint request =
      .ok registered)
    (same : Assoc.get interactionJournalKey state = Assoc.get interactionJournalKey registered) :
    registerCheckpointInteractionRequest host.interaction state checkpoint request =
      .ok state := by
  obtain ⟨j', bound, e, rfl, recorded, -, known⟩ := h.registered hex valid ran
  have read := (recorded.congr same).journal
  have fixed := recorded.fixed
  have stored : Assoc.get interactionJournalKey state = some j'.toDict := by
    rw [same, Assoc.get_set_self]
  simp only [registerCheckpointInteractionRequest, readRegistration, bind_iff,
    except_mapError_eq, raiseIf_ok, exists_const, pure_iff]
  refine ⟨(bound, j'), ⟨bound, known.asked, (), known.binding, j', read, rfl⟩, j'.toDict, ?_, j',
    fixed.read, ?_, j'.toDict, known.remembers.run fixed, ?_⟩
  · have own : (some bound.interactionId).filter (fun active => active ≠ bound.interactionId) =
        none := by simp
    rw [retirePrior, known.active, own]
  · simp [known.found, known.unapplied]
  · exact Assoc.set_of_get stored

theorem erase_erase (key : String) (state : Dict) :
    Assoc.erase key (Assoc.erase key state) = Assoc.erase key state := by
  simp [Assoc.erase]

theorem text_of_identifier {s : String} (named : isIdentifier s = true) :
    isText (.str s) = true := by
  cases empty : s.isEmpty with
  | false => simp [isText, empty]
  | true =>
    obtain rfl : s = "" := by simpa using empty
    cases named

variable {validated : Value}

/-- The owner a save wrote is read back. -/
theorem read_fromFence (valid : Validated host.interaction validated) {fence : ExecutionFence}
    {sessionId : String}
    (target : validateExecutionFenceTarget sessionId fence.executionId = .ok ()) :
    ExecutionCheckpointDomain.read (fromFence validated fence).toDict
      validated sessionId = .ok (.fromFence validated fence) := by
  have id : isText (.str (checkpointIdOf validated)) = true := by
    obtain ⟨encoded, named⟩ := valid.checkpointId
    have text : checkpointIdOf validated = "checkpoint_" ++ shortDigest
        (host.interaction.sha256 encoded) := by
      rw [checkpointIdOf, named]
      rfl
    simp [isText, text]
  have own : sessionId = fence.executionId ∨
      (fence.executionId ++ ":").toList <+: sessionId.toList := by
    rw [validateExecutionFenceTarget] at target
    split at target
    · next own => exact own
    · cases target
  have fields : ∀ d : ExecutionCheckpointDomain,
      hasExactly d.toDict.entries domainFields = true := fun _ => rfl
  simp only [ExecutionCheckpointDomain.read, bind_iff, raiseIf_ok, exists_const, pure_iff, fields]
  have execution := text_of_identifier fence.execution_named
  have owner := text_of_identifier fence.owner_named
  have token := fence.token_pos
  refine ⟨rfl, rfl, ?_, ?_, ?_, ?_, ?_, fence.fencingToken, rfl, rfl⟩
  rw [valid.checkpointId_eq]
  all_goals simp only [ExecutionCheckpointDomain.toDict, fromFence,
    Value.get, Value.entries, Assoc.get_cons]
  · simpa using And.intro id (Value.eqPy_str_iff.mpr rfl)
  · simpa using execution
  · simpa using owner
  · simpa [isPositive] using token
  · simpa [textOf, or_iff_not_imp_left] using own

variable {c : SaveCall} {current : Option Value} {snapshot snapshot' : SessionSnapshot}

/-- The owner of a checkpoint that is saved again is the one it has. -/
theorem putDomain_again (valid : Validated host.interaction validated) {before : Dict}
    (target : checkFenceTarget c.sessionId c.executionFence = .ok ())
    (ran : c.putDomain host validated snapshot current false before = .ok state)
    (here : snapshot'.state = state) :
    c.putDomain host validated snapshot' (some validated) true state = .ok state := by
  simp only [SaveCall.putDomain] at ran ⊢
  cases given : c.executionFence with
  | none =>
    rw [given] at ran
    cases ran
    rw [erase_erase]
  | some fence =>
    rw [given] at ran target
    simp only [bind_iff, raiseIf_ok, exists_const] at ran ⊢
    obtain ⟨allowed, ran⟩ := ran
    refine ⟨allowed, ?_⟩
    split at ran
    · next aware =>
        rw [if_pos aware]
        obtain rfl : Assoc.set executionCheckpointDomainKey
            (fromFence validated fence).toDict before = state := by
          simpa [keptDomain] using ran
        have stored : Assoc.get executionCheckpointDomainKey snapshot'.state =
            some (fromFence validated fence).toDict := by
          rw [here, Assoc.get_set_self]
        have kept : keptDomain c.sessionId true snapshot' (some validated) =
            .ok (some (.fromFence validated fence)) := by
          rw [keptDomain, fromState]
          simp only [Value.get, Value.entries, stored]
          show (ExecutionCheckpointDomain.read _ _ _).map some = _
          rw [Option.getD_some, read_fromFence valid target]
          rfl
        rw [kept]
        simp only [bind_iff, pure_iff]
        refine ⟨_, rfl, ?_⟩
        simp [Option.filter, Assoc.set_of_get]
    · next unaware =>
        rw [if_neg unaware]
        obtain rfl : Assoc.erase executionCheckpointDomainKey before = state := by
          exact Except.ok.inj ran
        rw [erase_erase]
        rfl

/-- Computed again over the document it left, a save computes that document. -/
theorem nextState_again (hex : HexDigests host.interaction)
    (valid : Validated host.interaction validated) (checked : c.check validated = .ok ())
    (bound : Bound host A snapshot.state j)
    (target : checkFenceTarget c.sessionId c.executionFence = .ok ())
    (ran : c.nextState host validated snapshot current false = .ok state)
    (here : snapshot'.state = state) : Assoc.get executionCheckpointKey state = some validated ∧
      c.nextState host validated snapshot' (some validated) true = .ok state := by
  simp only [SaveCall.nextState, bind_iff] at ran
  obtain ⟨journaled, moved, owned⟩ := ran
  have journal : Assoc.get interactionJournalKey state =
      Assoc.get interactionJournalKey journaled := by
    rw [get_putDomain owned (by decide), Assoc.get_set_of_ne (by decide)]
  have stored : Assoc.get executionCheckpointKey state = some validated := by
    rw [get_putDomain owned (by decide), Assoc.get_set_self]
  refine ⟨stored, ?_⟩
  have again : c.moveJournal host validated snapshot'.state (some validated) = .ok state := by
    rw [here]
    simp only [SaveCall.moveJournal] at moved ⊢
    cases given : c.interactionRequest with
    | some request =>
      rw [given] at moved
      exact bound.registered_again hex valid moved journal
    | none =>
      simp only [SaveCall.check, given, bind_iff, raiseIf_ok, exists_const] at checked
      obtain ⟨-, unrequested, -⟩ := checked
      have noRef : hasInteractionRef validated = false := by simpa using unrequested
      simp [Option.filter, noRef]
  rw [SaveCall.nextState, again]
  show c.putDomain host validated snapshot' (some validated) true
    (Assoc.set executionCheckpointKey validated state) = _
  rw [Assoc.set_of_get stored]
  exact putDomain_again valid target owned here

end Again

/-! ### A save that is tried again -/

def loadedSave (host : RuntimeHost) (c : SaveCall) (doc : Dict) (revision : Int) :
    StoreProg (Value × SessionSnapshot) :=
  match saveExecutionCheckpointSnapshot host c with
  | .call (.loadWithRevision _) k => k (.ok (doc, revision))
  | p => p

section Saves

variable {host : RuntimeHost} {A : RecordCall → Prop} {c : SaveCall} {validated : Value}
  {doc state : Dict} {revision : Int}

theorem loadedSave_eq (named : c.sessionId.isEmpty = false)
    (validate : validateExecutionCheckpoint host.interaction c.checkpoint = .ok validated)
    (checked : c.check validated = .ok ()) (natural : 0 ≤ revision) :
    loadedSave host c doc revision = c.over host validated ⟨doc, some revision⟩ := by
  have load : loadSnapshot host c.sessionId = loadSessionSnapshot host c.sessionId := by
    rw [loadSnapshot, if_neg (by simp [named])]
  have fine : checkRevision host c.sessionId revision = .ret () := by
    have small : decide (revision < 0) = false := by simpa using natural
    rw [checkRevision, small]
    rfl
  have started : saveExecutionCheckpointSnapshot host c =
      loadSessionSnapshot host c.sessionId >>= fun snapshot => c.over host validated snapshot := by
    rw [saveExecutionCheckpointSnapshot, named, validate, load]
    show Prog.lift (c.check validated) >>= _ = _
    rw [checked]
    rfl
  rw [loadedSave, started]
  show (checkRevision host c.sessionId revision >>= fun _ => _) >>= _ = _
  rw [fine]
  rfl

theorem loadedSave_asks {command : StoreCmd}
    (h : (loadedSave host c doc revision).asks? = some command) :
    c.sessionId.isEmpty = false ∧ ∃ validated,
      validateExecutionCheckpoint host.interaction c.checkpoint = .ok validated ∧
      c.check validated = .ok () := by
  cases named : c.sessionId.isEmpty with
  | true =>
    rw [loadedSave, saveExecutionCheckpointSnapshot, named] at h
    cases h
  | false =>
    refine ⟨rfl, ?_⟩
    cases validate : validateExecutionCheckpoint host.interaction c.checkpoint with
    | error e =>
      rw [loadedSave, saveExecutionCheckpointSnapshot, named, validate] at h
      cases h
    | ok validated =>
      refine ⟨validated, rfl, ?_⟩
      cases checked : c.check validated with
      | ok u => rfl
      | error e =>
        have stopped : saveExecutionCheckpointSnapshot host c = .raise e := by
          rw [saveExecutionCheckpointSnapshot, named, validate]
          show Prog.lift (c.check validated) >>= _ = _
          rw [checked]
          rfl
        rw [loadedSave, stopped] at h
        cases h

variable {fence : Option ExecutionFence} {method : SaveMethod} {s : String}

theorem verify_asks {f : Unit → StoreProg (Value × SessionSnapshot)} {expected : Int}
    (h : (verifyExecutionFence host fence >>= f).asks? = some (.save method s state expected)) :
    (f ()).asks? = some (.save method s state expected) := by
  rcases asks_bind h with asked | ⟨_, -, later⟩
  · cases fence with
    | none => cases asked
    | some fence =>
      obtain ⟨-, verifies⟩ := asks_raiseIf_bind asked
      cases verifies
  · exact later

/-- A write does not return before it was answered. -/
theorem saveSessionSnapshot_waits {expected : Option Int} {f : PyError → PyError}
    (snapshot : SessionSnapshot) :
    Prog.mapError f (saveSessionSnapshot host s state expected fence) ≠ .ret snapshot := by
  intro returned
  refine absurd (mapError_eq_ret returned) ?_
  refine lift_bind_ne_ret fun _ => lift_bind_ne_ret fun expected => raiseIf_bind_ne_ret ?_
  refine lift_bind_ne_ret fun method => ?_
  rintro ⟨⟩

theorem over_asks {snapshot : SessionSnapshot} {expected : Int}
    (h : (c.over host validated snapshot).asks? = some (.save method s state expected)) :
    ∃ current, currentCheckpoint host.interaction snapshot.state = .ok current ∧
      c.nextState host validated snapshot current false = .ok state ∧
      ensureExpectedRevision host snapshot c.sessionId c.expectedRevision = .ok () ∧
      checkFenceTarget c.sessionId c.executionFence = .ok () ∧
      snapshot.expected c.expectedRevision = some expected := by
  obtain ⟨current, read, h⟩ := asks_lift_bind h
  obtain ⟨_, ensured, h⟩ := asks_lift_bind h
  obtain ⟨next, ran, h⟩ := asks_lift_bind h
  cases retry : c.retryCandidate validated snapshot current with
  | true =>
    cases current with
    | none => cases retry
    | some current =>
      rw [retry] at h
      obtain ⟨-, h⟩ := asks_raiseIf_bind h
      cases verify_asks h
  | false =>
    rw [retry] at h ran ensured
    have unkept : current.filter (fun _ => false) = none := by
      cases current with
      | none => rfl
      | some current => rfl
    rw [unkept] at h
    rcases asks_bind h with h | ⟨_, returned, -⟩
    · rw [asks_mapError] at h
      obtain ⟨_, target, h⟩ := asks_lift_bind h
      obtain ⟨expected', required, h⟩ := asks_lift_bind h
      obtain ⟨-, h⟩ := asks_raiseIf_bind h
      obtain ⟨method', -, h⟩ := asks_lift_bind h
      cases h
      refine ⟨current, read, ran, ensured, target, ?_⟩
      cases given : snapshot.expected c.expectedRevision with
      | none =>
        rw [given] at required
        cases required
      | some e =>
        rw [given] at required
        cases required
        rfl
    · cases saveSessionSnapshot_waits _ returned

/-- A document without NaN is equal to its copy. -/
def SelfEqual (state : Dict) : Prop := (Value.dict state).eqPy (.dict state) = true

theorem save_again {j : Journal} (hex : HexDigests host.interaction) (bound : Bound host A doc j)
    (natural : 0 ≤ revision) {expected : Int}
    (asked : (loadedSave host c doc revision).asks? = some (.save method s state expected))
    (given : c.expectedRevision = some expected) {checkpoint : Value}
    (stored : Assoc.get executionCheckpointKey state = some checkpoint)
    (based : (checkpoint.get "base_session_revision").eqPy (.int expected) = true)
    (same : SelfEqual state) : revision = expected ∧ loadedSave host c state (expected + 1) = (do
      verifyExecutionFence host c.executionFence
      return (checkpoint, ⟨state, some (expected + 1)⟩)) := by
  obtain ⟨named, validated, validate, checked⟩ := loadedSave_asks asked
  rw [loadedSave_eq named validate checked natural] at asked
  obtain ⟨current, read, ran, ensured, target, -⟩ := over_asks asked
  have valid := validated_of_validate validate
  have here : revision = expected := by
    simp only [ensureExpectedRevision, given, raiseIf_ok, decide_eq_false_iff_not,
      not_not] at ensured
    exact ensured
  have leaves : (⟨state, some (expected + 1)⟩ : SessionSnapshot).state = state := rfl
  obtain ⟨stored', again⟩ := nextState_again hex valid checked bound target ran leaves
  obtain rfl := Option.some.inj (stored.symm.trans stored')
  refine ⟨here, ?_⟩
  rw [loadedSave_eq named validate checked (by omega)]
  have current' : currentCheckpoint host.interaction state = .ok (some checkpoint) := by
    have isDict := valid.isDict
    cases checkpoint with
    | dict es =>
      simp only [currentCheckpoint, Value.get, Value.entries, stored, Option.getD_some]
      rw [valid.validate]
      rfl
    | _ => cases isDict
  have retry : c.retryCandidate checkpoint ⟨state, some (expected + 1)⟩ (some checkpoint) = true := by
    have sameId : (checkpoint.get "checkpoint_id").eqPy (checkpoint.get "checkpoint_id") = true := by
      rw [valid.checkpointId_eq]
      exact Value.eqPy_str_iff.mpr rfl
    simp [SaveCall.retryCandidate, given, sameId, based]
  rw [SaveCall.over, current']
  show (Prog.lift (if c.retryCandidate checkpoint _ (some checkpoint) then _ else _) >>= _) = _
  rw [retry]
  rw [again]
  show c.acknowledge host checkpoint _ state = _
  rw [SaveCall.acknowledge, same]
  rfl

end Saves

/-! ### Runs -/

section Runs

variable {host : RuntimeHost} {A : RecordCall → Prop}

/-- The log of a run is sound. -/
theorem advancing_of_reachable (hex : HexDigests host.interaction) (keeps : KeepsReserved host)
    {crew : Crew.Crew StorePort PyError SessionResult SessionCall SessionWorld}
    (reached : Crew.Reachable (sessionSurroundings host A) (fun w => w.saves = []) crew) :
    Advancing host A crew.world.saves := by
  have entry : ∀ call p, (sessionSurroundings host A).starts call p →
      Obeys ((sessionWatch host A).of call) (sessionWatch host A).start p fun _ _ => True := by
    rintro call p ⟨rfl, asked⟩
    exact (obeys_run hex keeps call asked).mono fun _ _ _ => trivial
  obtain ⟨states, sound⟩ := Crew.monitored sound_kept entry sound_initial reached
  exact sound.advancing

theorem active_of_unanswered {host : InteractionHost} {j : Journal} (fixed : JournalFixed host j)
    {id : String} {e : JournalEntry} (found : j.entry id = some e) (unanswered : e.receipt = none) :
    j.activeId = some id := by
  have unapplied : e.application = none := by
    cases applied : e.application with
    | none => rfl
    | some a =>
      obtain ⟨r, given, -⟩ := (entryFixed fixed found).application a applied
      rw [unanswered] at given
      cases given
  have pending : id ∈ j.pending := (mem_pending fixed.distinct).mpr ⟨e, found, unapplied⟩
  rw [fixed.pending_eq] at pending
  simpa using pending

def journalOf (host : RuntimeHost) (saves : List (String × Dict)) (s : String) :
    Except PyError Journal :=
  readJournal host.interaction ((Value.dict (docOf saves s)).get interactionJournalKey)

/-- In every run the active interaction of a session is the one its checkpoint waits for; an
interaction that nobody answered stays active, with its request and its checkpoint; and a save that
is tried again, when its base is the revision it expected, returns the checkpoint it stored and
writes nothing. -/
theorem checkpoint_stays_bound (hex : HexDigests host.interaction) (keeps : KeepsReserved host)
    {crew : Crew.Crew StorePort PyError SessionResult SessionCall SessionWorld}
    (reached : Crew.Reachable (sessionSurroundings host A) (fun w => w.saves = []) crew) :
    (∀ s, ∃ j, journalOf host crew.world.saves s = .ok j ∧
      ∀ id, j.activeId = some id → ∃ checkpoint e,
        RefersTo (docOf crew.world.saves s) j id checkpoint e) ∧
    (∀ earlier s j id e, earlier <+: crew.world.saves → journalOf host earlier s = .ok j →
      j.entry id = some e → e.receipt = none →
      ∃ j' e', journalOf host crew.world.saves s = .ok j' ∧ j'.entry id = some e' ∧
        e'.request = e.request ∧ e'.checkpointId = e.checkpointId ∧
        (e'.receipt = none → j'.activeId = some id)) ∧
    ∀ (c : SaveCall) (method : SaveMethod) (s : String) (state : Dict) (expected : Int)
      (checkpoint : Value),
      (loadedSave host c (docOf crew.world.saves c.sessionId)
        (revisionOf crew.world.saves c.sessionId)).asks? = some (.save method s state expected) →
      c.expectedRevision = some expected → Assoc.get executionCheckpointKey state = some checkpoint →
      (checkpoint.get "base_session_revision").eqPy (.int expected) = true → SelfEqual state →
      loadedSave host c (docOf (crew.world.saves ++ [(c.sessionId, state)]) c.sessionId)
          (revisionOf (crew.world.saves ++ [(c.sessionId, state)]) c.sessionId) = (do
        verifyExecutionFence host c.executionFence
        return (checkpoint, ⟨state, some (expected + 1)⟩)) := by
  have advancing := advancing_of_reachable hex keeps reached
  refine ⟨?_, ?_, ?_⟩
  · intro s
    obtain ⟨j, bound⟩ := advancing.bound List.prefix_rfl s
    exact ⟨j, bound.journal, bound.active⟩
  · intro earlier s j id e before read found unanswered
    obtain ⟨later, whole⟩ := before
    obtain ⟨j₁, bound⟩ := advancing.bound ⟨later, whole⟩ s
    obtain rfl := Except.ok.inj (bound.journal.symm.trans read)
    obtain ⟨j', bound'⟩ := advancing.bound List.prefix_rfl s
    rw [← whole] at bound' advancing ⊢
    obtain ⟨e', found', request, checkpoint, -, -⟩ :=
      (advancing.extends List.prefix_rfl bound bound').entry id e found
    exact ⟨j', e', bound'.journal, found', request, checkpoint,
      active_of_unanswered bound'.fixed found'⟩
  · intro c method s state expected checkpoint asked given stored based same
    obtain ⟨j, bound⟩ := advancing.bound List.prefix_rfl c.sessionId
    have natural : 0 ≤ revisionOf crew.world.saves c.sessionId := Int.natCast_nonneg _
    obtain ⟨current, again⟩ := save_again hex bound natural asked given stored based same
    rw [docOf_append, if_pos rfl, revisionOf_append, if_pos rfl, current]
    exact again

end Runs

/-- After the approval was asked for, its session is bound. -/
theorem approval_stays_bound : ∃ j,
    journalOf windowHost (ran (.saveCheckpoint approvalSave) ⟨[]⟩).2.saves "session" = .ok j ∧
      ∀ id, j.activeId = some id → ∃ checkpoint e,
        RefersTo (docOf (ran (.saveCheckpoint approvalSave) ⟨[]⟩).2.saves "session") j id
          checkpoint e := by
  have general : ∀ members w, WindowRun (fun _ => True) ⟨members, w⟩ → ∀ s, ∃ j,
      journalOf windowHost w.saves s = .ok j ∧ ∀ id, j.activeId = some id → ∃ checkpoint e,
        RefersTo (docOf w.saves s) j id checkpoint e :=
    fun members w run => (checkpoint_stays_bound hexDigits_window keepsReserved_window run).1
  exact general _ _ (saved_reachable fun _ => True) "session"

/-! ### A checkpoint without a base -/

def unbasedPayload : Dict :=
  [("base_session_revision", .none), ("iteration", .int 0), ("pending_model_context", .none),
    ("provider", .str "openai"),
    ("replay_frame", .dict [("complete", .bool true), ("items", .list [])]),
    ("schema_version", .int 1), ("session_id", .str "session"), ("status", .str "max_iterations"),
    ("token_state", .dict (tokenKeys.map fun key => (key, .int 0))), ("transcript", .list []),
    ("workspace_change_state", .dict [])]

def unbasedSave : SaveCall where
  sessionId := "session"
  checkpoint := .dict (unbasedPayload ++ [("checkpoint_id", .str "checkpoint_223a302c2270656e"),
    ("integrity", .dict [("algorithm", .str "sha256"), ("payload_sha256", .str "223a302c2270656e")])])
  interactionRequest := none
  expectedRevision := some 0
  executionFence := none

def asksToSave {α : Type} : StoreProg α → Option (String × Dict × Int)
  | .call (.save _ s state expected) _ => some (s, state, expected)
  | _ => none

def raisesConflict {α : Type} : StoreProg α → Bool
  | .raise e => isRevisionConflict e
  | _ => false

/-- The save is tried again over what it wrote, and raises a conflict. -/
def retryConflicts (c : SaveCall) (saves : List (String × Dict)) : Bool :=
  match asksToSave (loadedSave windowHost c (docOf saves c.sessionId)
      (revisionOf saves c.sessionId)) with
  | some (s, state, expected) => decide (s = c.sessionId ∧ c.expectedRevision = some expected) &&
      raisesConflict (loadedSave windowHost c (docOf (saves ++ [(s, state)]) s)
        (revisionOf (saves ++ [(s, state)]) s))
  | none => false

/-- The retry of a save whose checkpoint names no base raises a conflict. -/
theorem unbased_retry_conflicts : ∃ crew : Crew.Crew StorePort PyError SessionResult SessionCall
      SessionWorld,
    WindowRun (fun _ => True) crew ∧ retryConflicts unbasedSave crew.world.saves = true := by
  have start : WindowRun (fun _ => True) ⟨[], ⟨[]⟩⟩ := .init rfl
  have conflicts : retryConflicts unbasedSave [] = true := by decide +kernel
  exact ⟨_, start, conflicts⟩

end Unchain.Interaction
