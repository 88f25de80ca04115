import Unchain.Interaction.Writes
import Unchain.Lib.Crew
import Unchain.Lib.KeyedLog

/-!
Any number of session operations over one compare-and-swap store.

The world is the log of the documents that were saved. A watch over the commands of one operation
says that it saves only what advances a document it was shown, against the revision it was shown it
with.
-/

namespace Unchain.Interaction

open Lib Lib.Process Lib.Effect Memory Python

/-! ### Operations and the store -/

inductive SessionCall where
  | saveCheckpoint (c : SaveCall)
  | clearCheckpoint (c : ClearCall)
  | commitMessages (c : CommitCall)
  | recordReceipt (c : RecordCall)
  | cancelPending (c : CancelCall)
  | reconcile (sessionId submittedBy : String)

inductive SessionResult where
  | saved (checkpoint : Value) (snapshot : SessionSnapshot)
  | cleared (cleared : Bool) (snapshot : SessionSnapshot)
  | committed (snapshot : SessionSnapshot)
  | interaction (snapshot : DurableInteractionSnapshot)
  | reconciled (snapshot : SessionSnapshot) (cancellation : Option ExecutionCancellation)

/-- The program of an operation. -/
def SessionCall.run (host : RuntimeHost) : SessionCall → StoreProg SessionResult
  | .saveCheckpoint c => do
    let (checkpoint, snapshot) ← saveExecutionCheckpointSnapshot host c
    return .saved checkpoint snapshot
  | .clearCheckpoint c => do
    let (cleared, snapshot) ← clearExecutionCheckpointSnapshot host c
    return .cleared cleared snapshot
  | .commitMessages c => do
    let snapshot ← Memory.commitMessages host c
    return .committed snapshot
  | .recordReceipt c => do
    let snapshot ← Interaction.recordReceipt host c
    return .interaction snapshot
  | .cancelPending c => do
    let snapshot ← Interaction.cancelPending host c
    return .interaction snapshot
  | .reconcile sessionId submittedBy => do
    let (snapshot, cancellation) ←
      reconcileCancelledExecutionCheckpoint host sessionId submittedBy
    return .reconciled snapshot cancellation

/-- The documents that were saved, each with its session, oldest first. -/
structure SessionWorld where
  saves : List (String × Dict)

/-- The document of a session; one that was never saved is empty. -/
def docOf (saves : List (String × Dict)) (sessionId : String) : Dict :=
  ((KeyedLog.latest Prod.fst sessionId saves).map Prod.snd).getD []

def revisionOf (saves : List (String × Dict)) (sessionId : String) : Int :=
  (KeyedLog.records Prod.fst sessionId saves).length

/-- What the store may answer. A save compares and swaps; it may fail on its own account, and its
acknowledgement may get lost. Leases, cancellations and clocks answer anything. -/
inductive StoreAnswers (w : SessionWorld) :
    (c : StoreCmd) → StorePort.Answer c → SessionWorld → Prop where
  | loaded {s : String} :
      StoreAnswers w (.loadWithRevision s) (.ok (docOf w.saves s, revisionOf w.saves s)) w
  | loadFailed {s : String} {e : PyError} : StoreAnswers w (.loadWithRevision s) (.error e) w
  | saved {method : SaveMethod} {s : String} {state : Dict} {expected : Int}
      (current : revisionOf w.saves s = expected) :
      StoreAnswers w (.save method s state expected) (.ok (expected + 1)) ⟨w.saves ++ [(s, state)]⟩
  | saveLost {method : SaveMethod} {s : String} {state : Dict} {expected : Int} {e : PyError}
      (current : revisionOf w.saves s = expected) :
      StoreAnswers w (.save method s state expected) (.error e) ⟨w.saves ++ [(s, state)]⟩
  | saveFailed {method : SaveMethod} {s : String} {state : Dict} {expected : Int} {e : PyError} :
      StoreAnswers w (.save method s state expected) (.error e) w
  | cancellation {executionId ownerId : String}
      {answer : Except PyError (Option ExecutionCancellation)} :
      StoreAnswers w (.loadExecutionCancellation executionId ownerId) answer w
  | verified {fence : ExecutionFence} {answer : Except PyError Unit} :
      StoreAnswers w (.verifyLease fence) answer w
  | clock {answer : Except PyError Int} : StoreAnswers w .clockMs answer w

/-- Any operation may start at any time; `A` are the answers that are submitted. -/
def sessionSurroundings (host : RuntimeHost) (A : RecordCall → Prop) :
    Crew.Surroundings StorePort PyError SessionResult SessionCall SessionWorld where
  answers _ _ := StoreAnswers
  moves _ _ := False
  starts call p := p = call.run host ∧ ∀ c, call = .recordReceipt c → A c

/-! ### What an operation may ask for -/

/-- The documents an operation was shown or saved, with session and revision. -/
structure Told where
  seen : List (String × Dict × Int)

namespace Told

def after (g : Told) : (c : StoreCmd) → StorePort.Answer c → Told
  | .loadWithRevision s, .ok (doc, revision) => ⟨(s, doc, revision) :: g.seen⟩
  | .save _ s state _, .ok revision => ⟨(s, state, revision) :: g.seen⟩
  | _, _ => g

def allows (host : RuntimeHost) (A : RecordCall → Prop) (g : Told) : StoreCmd → Prop
  | .save _ s state expected => ∃ doc, (s, doc, expected) ∈ g.seen ∧ Advances host A doc state
  | _ => True

end Told

def sessionWatch (host : RuntimeHost) (A : RecordCall → Prop) : Crew.Watch StorePort SessionCall where
  State := Told
  start := ⟨[]⟩
  allows _ := Told.allows host A
  next _ := Told.after

structure Seen (g : Told) (s : String) (snapshot : SessionSnapshot) : Prop where
  revision : ∃ revision, snapshot.revision = some revision ∧ (s, snapshot.state, revision) ∈ g.seen

section Obeys

variable {host : RuntimeHost} {A : RecordCall → Prop} {role : SessionCall} {g : Told} {s : String}

theorem seen_after (g₀ g : Told) (c : StoreCmd) (r : StorePort.Answer c) (h : g₀.seen ⊆ g.seen) :
    g₀.seen ⊆ (g.after c r).seen := by
  have grows : g.seen ⊆ (g.after c r).seen := by
    cases c with
    | loadWithRevision s =>
      cases r with
      | error e => exact List.Subset.refl _
      | ok loaded => exact List.subset_cons_self _ _
    | save method s state expected =>
      cases r with
      | error e => exact List.Subset.refl _
      | ok revision => exact List.subset_cons_self _ _
    | loadExecutionCancellation executionId ownerId | verifyLease fence | clockMs =>
      exact List.Subset.refl _
  exact fun x mem => grows (h mem)

theorem Seen.mono {g' : Told} {snapshot : SessionSnapshot} (h : Seen g s snapshot)
    (sub : g.seen ⊆ g'.seen) : Seen g' s snapshot := by
  obtain ⟨revision, same, mem⟩ := h.revision
  exact ⟨revision, same, sub mem⟩

variable {α : Type} {p : StoreProg α} {post : Told → α → Prop}

/-- Whatever an operation does, it remembers what it was shown. -/
theorem obeys_along (h : Obeys ((sessionWatch host A).of role) g p post) :
    Obeys ((sessionWatch host A).of role) g p fun g' a => g.seen ⊆ g'.seen ∧ post g' a :=
  h.along (R := fun g₀ g : Told => g₀.seen ⊆ g.seen) seen_after (List.Subset.refl _)

theorem obeys_attempted (h : Obeys ((sessionWatch host A).of role) g p post) :
    Obeys ((sessionWatch host A).of role) g p.attempt fun g' x =>
      g.seen ⊆ g'.seen ∧ ∀ a, x = .ok a → post g' a :=
  obeys_attempt (R := fun g₀ g : Told => g₀.seen ⊆ g.seen) seen_after (List.Subset.refl _) h

theorem obeys_loadSnapshot (named : s.isEmpty = false) :
    Obeys ((sessionWatch host A).of role) g (loadSnapshot host s) fun g' snapshot =>
      Seen g' s snapshot := by
  rw [loadSnapshot, if_neg (by simp [named])]
  refine ⟨trivial, fun answer => ?_⟩
  cases answer with
  | error e => trivial
  | ok loaded =>
    obtain ⟨doc, revision⟩ := loaded
    refine obeys_raiseIf_bind ?_
    exact ⟨revision, rfl, List.mem_cons_self⟩

/-- Any load leaves an operation where it may go on. -/
theorem obeys_anyLoad : Obeys ((sessionWatch host A).of role) g (loadSnapshot host s)
    fun _ _ => True := by
  cases named : s.isEmpty with
  | false => exact (obeys_loadSnapshot named).mono fun _ _ _ => trivial
  | true =>
    rw [loadSnapshot, if_pos named]
    trivial

theorem obeys_reload : Obeys ((sessionWatch host A).of role) g (reloadCheckpoint host s)
    fun _ _ => True :=
  obeys_bind obeys_anyLoad fun _ _ _ => obeys_lift_bind fun _ _ => trivial

variable {fence : Option ExecutionFence}

theorem obeys_verify :
    Obeys ((sessionWatch host A).of role) g (verifyExecutionFence host fence) fun _ _ => True := by
  cases fence with
  | none => trivial
  | some fence =>
    refine obeys_raiseIf_bind ⟨trivial, fun answer => ?_⟩
    cases answer with
    | error e => trivial
    | ok u => trivial

variable {doc state : Dict} {expected : Int}

/-- A save that was asked for rightly is remembered with its revision. -/
theorem obeys_save {method : SaveMethod} (mem : (s, doc, expected) ∈ g.seen)
    (advances : Advances host A doc state) : Obeys ((sessionWatch host A).of role) g
      (Prog.call (I := StorePort) (ε := PyError) (.save method s state expected) Prog.lift)
      fun g' revision => (s, state, revision) ∈ g'.seen := by
  refine ⟨⟨doc, mem, advances⟩, fun answer => ?_⟩
  cases answer with
  | error e => trivial
  | ok revision => exact List.mem_cons_self

theorem obeys_saveSessionSnapshot (mem : (s, doc, expected) ∈ g.seen)
    (advances : Advances host A doc state) : Obeys ((sessionWatch host A).of role) g
      (saveSessionSnapshot host s state (some expected) fence) fun g' snapshot =>
        snapshot.state = state ∧ Seen g' s snapshot := by
  refine obeys_lift_bind fun _ _ => ?_
  refine obeys_lift_bind fun expected' given => ?_
  obtain rfl : expected = expected' := by
    cases given
    rfl
  refine obeys_raiseIf_bind ?_
  refine obeys_lift_bind fun method _ => ?_
  refine obeys_bind (obeys_save mem advances) fun g' revision saved => ?_
  refine obeys_raiseIf_bind (obeys_raiseIf_bind ?_)
  exact ⟨rfl, revision, rfl, saved⟩

variable {snapshot : SessionSnapshot}

theorem expected_of_ensured {revision : Int} {expectedRevision : Option Int}
    (held : snapshot.revision = some revision)
    (ensured : ensureExpectedRevision host snapshot s expectedRevision = .ok ()) :
    snapshot.expected expectedRevision = some revision := by
  cases expectedRevision with
  | none => exact held
  | some expected =>
    simp only [ensureExpectedRevision, held, raiseIf_ok, decide_eq_false_iff_not,
      not_not] at ensured
    rw [ensured]
    rfl

section

variable (named : s.isEmpty = false)

include named

theorem obeys_saveSessionState (mem : (s, doc, expected) ∈ g.seen)
    (advances : Advances host A doc state) : Obeys ((sessionWatch host A).of role) g
      (saveSessionState host s state (some expected) fence) fun g' snapshot =>
        snapshot.state = state ∧ Seen g' s snapshot := by
  rw [saveSessionState, if_neg (by simp [named])]
  refine obeys_bind (obeys_along obeys_anyLoad) fun g' current loaded => ?_
  refine obeys_lift_bind fun _ _ => ?_
  exact obeys_saveSessionSnapshot (loaded.1 mem) advances

theorem obeys_saveInteractionSessionState {checkpointId : String}
    (mem : (s, doc, expected) ∈ g.seen) (advances : Advances host A doc state) :
    Obeys ((sessionWatch host A).of role) g
      (saveInteractionSessionState host s state checkpointId snapshot (some expected) fence)
      fun g' saved => saved.state = state ∧ Seen g' s saved := by
  refine obeys_lift_bind fun effective _ => ?_
  refine obeys_lift_bind fun bound _ => ?_
  split
  · refine obeys_raiseIf_bind ?_
    refine obeys_lift_bind fun revision given => ?_
    obtain rfl : expected = revision := by
      cases given
      rfl
    refine obeys_bind (obeys_save mem advances) fun g' next saved => ?_
    refine obeys_raiseIf_bind ?_
    exact ⟨rfl, next, rfl, saved⟩
  · exact obeys_saveSessionState named mem advances

/-! ### Reconciliation -/

variable {submittedBy : String}

theorem obeys_reconcileRound :
    Obeys ((sessionWatch host A).of role) g (reconcileRound host s submittedBy) fun g' round =>
      ∀ snapshot, round = .done snapshot none → Seen g' s snapshot := by
  refine obeys_bind (obeys_loadSnapshot named) fun g' snapshot seen => ?_
  refine obeys_lift_bind fun bound read => ?_
  cases bound with
  | none =>
    rintro _ ⟨⟩
    exact seen
  | some pair =>
    obtain ⟨checkpoint, domain⟩ := pair
    refine obeys_raiseIf_bind ⟨trivial, fun answer => ?_⟩
    cases answer with
    | error e => trivial
    | ok found =>
      cases found with
      | none =>
        rintro _ ⟨⟩
        exact seen
      | some cancellation =>
        refine obeys_lift_bind fun _ same => ?_
        cases same
        refine obeys_lift_bind fun _ _ => ?_
        refine obeys_lift_bind fun state ran => ?_
        refine obeys_lift_bind fun expected given => ?_
        obtain ⟨revision, held, mem⟩ := seen.revision
        obtain rfl : revision = expected := by
          rw [held] at given
          cases given
          rfl
        have current : currentCheckpoint host.interaction snapshot.state =
            .ok (some checkpoint) := by
          simp only [checkpointDomain, bind_iff] at read
          obtain ⟨current, found, read⟩ := read
          cases current with
          | none => cases read
          | some checkpoint' =>
            simp only [bind_iff, pure_iff, Option.map_eq_some_iff, Prod.mk.injEq] at read
            obtain ⟨_, -, _, -, rfl, -⟩ := read
            exact found
        have advances : Advances host A snapshot.state state := advances_reconciled current ran
        refine obeys_bind (obeys_attempted (obeys_save mem advances)) fun g' saved _ => ?_
        cases saved with
        | error e =>
          simp only
          split
          · rintro _ ⟨⟩
          · trivial
        | ok next =>
          refine obeys_raiseIf_bind ?_
          rintro _ ⟨⟩

theorem obeys_reconcileRounds (rounds : Nat) (last : Option PyError) :
    Obeys ((sessionWatch host A).of role) g (reconcileRounds host s submittedBy rounds last)
      fun g' result => result.2 = none → Seen g' s result.1 := by
  induction rounds generalizing g last with
  | zero =>
    cases last with
    | none => trivial
    | some e => trivial
  | succ rounds ih =>
    refine obeys_bind (obeys_reconcileRound named) fun g' round done => ?_
    cases round with
    | done snapshot cancellation =>
      rintro rfl
      exact done snapshot rfl
    | conflict e => exact ih _

theorem obeys_reconcile : Obeys ((sessionWatch host A).of role) g
      (reconcileCancelledExecutionCheckpoint host s submittedBy) fun g' result =>
        result.2 = none → Seen g' s result.1 := by
  rw [reconcileCancelledExecutionCheckpoint, if_neg (by simp [named])]
  exact obeys_reconcileRounds named 16 none

end

/-! ### Checkpoints and commits -/

theorem obeys_saveCheckpoint (hex : HexDigests host.interaction) (c : SaveCall) :
    Obeys ((sessionWatch host A).of role) g (saveExecutionCheckpointSnapshot host c)
      fun _ _ => True := by
  refine obeys_check_bind fun named => ?_
  refine obeys_lift_bind fun validated validate => ?_
  refine obeys_lift_bind fun _ checked => ?_
  refine obeys_bind (obeys_loadSnapshot named) fun g' snapshot seen => ?_
  refine obeys_lift_bind fun current read => ?_
  refine obeys_lift_bind fun _ ensured => ?_
  refine obeys_lift_bind fun state ran => ?_
  have advances : Advances host A snapshot.state state :=
    advances_save hex (validated_of_validate validate) checked read ran
  split
  · refine obeys_raiseIf_bind ?_
    exact obeys_bind obeys_verify fun _ _ _ => trivial
  · next fresh =>
      -- a retry candidate has a current checkpoint, so what is written here was checked
      have ensured : ensureExpectedRevision host snapshot c.sessionId c.expectedRevision =
          .ok () := by
        cases retry : c.retryCandidate validated snapshot current with
        | false =>
          rw [retry] at ensured
          exact ensured
        | true =>
          cases current with
          | none => cases retry
          | some checkpoint =>
            rw [retry] at fresh
            cases fresh
      obtain ⟨revision, held, mem⟩ := seen.revision
      have expected := expected_of_ensured held ensured
      rw [SaveCall.write, expected]
      refine obeys_bind (obeys_mapError (obeys_saveSessionSnapshot mem advances)) fun _ _ _ => ?_
      refine obeys_bind (obeys_mapError obeys_reload) fun _ found _ => ?_
      simp only
      split
      · trivial
      · exact obeys_lift_bind fun _ _ => trivial

theorem obeys_clearCheckpoint (c : ClearCall) :
    Obeys ((sessionWatch host A).of role) g (clearExecutionCheckpointSnapshot host c)
      fun _ _ => True := by
  rw [clearExecutionCheckpointSnapshot]
  split
  · trivial
  · next named =>
      refine obeys_bind (obeys_loadSnapshot (by simpa using named)) fun g' snapshot seen => ?_
      refine obeys_lift_bind fun _ ensured => ?_
      rw [ClearCall.over]
      split
      · refine obeys_lift_bind fun next ran => ?_
        obtain ⟨state, flag, id⟩ := next
        have advances : Advances host A snapshot.state state := advances_clear ran
        obtain ⟨revision, held, mem⟩ := seen.revision
        have expected := expected_of_ensured held ensured
        simp only [ClearCall.write, expected]
        refine obeys_bind (obeys_mapError (obeys_saveSessionSnapshot mem advances)) fun _ _ _ => ?_
        refine obeys_bind obeys_anyLoad fun _ _ _ => ?_
        exact obeys_raiseIf_bind (obeys_lift_bind fun _ _ => trivial)
      · exact obeys_bind obeys_verify fun _ _ _ => trivial

theorem obeys_commit (keeps : KeepsReserved host) (c : CommitCall) :
    Obeys ((sessionWatch host A).of role) g (commitMessages host c) fun _ _ => True := by
  refine obeys_lift_bind fun _ _ => ?_
  refine obeys_bind obeys_verify fun _ _ _ => ?_
  cases named : c.sessionId.isEmpty with
  | true =>
    refine obeys_bind obeys_anyLoad fun _ _ _ => ?_
    refine obeys_lift_bind fun _ _ => ?_
    refine obeys_lift_bind fun _ _ => ?_
    rw [CommitCall.write, if_pos named]
    trivial
  | false =>
    refine obeys_bind (obeys_loadSnapshot named) fun g' snapshot seen => ?_
    refine obeys_lift_bind fun _ ensured => ?_
    refine obeys_lift_bind fun state ran => ?_
    have advances : Advances host A snapshot.state state := advances_commit keeps ran
    obtain ⟨revision, held, mem⟩ := seen.revision
    rw [CommitCall.write, if_neg (by simp [named]), expected_of_ensured held ensured]
    exact (obeys_saveSessionSnapshot mem advances).mono fun _ _ _ => trivial

end Obeys

end Unchain.Interaction
