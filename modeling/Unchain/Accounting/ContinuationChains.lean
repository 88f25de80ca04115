import Unchain.Accounting.Continuations
import Unchain.Lib.History
import Unchain.Lib.Links

/-!
Run continuations form chains.

A transaction that returns leaves the tables as they were, or adds one revision or one link to them
(`Change`). Links are only added, each for another successor and another predecessor, and the two
tables of revisions never hold heads of equal rank, so the head of a claimed predecessor can always be
read again (`Sound`).

A claim looks at the predecessor's lineage and status, not at the links: it closes a cycle when the
requested run already leads to the successor's (`ClosesNoCycle`), which a fresh run rules out.
-/

namespace Unchain.Accounting.Continuations

open Lib Lib.Effect Lib.History Lib.Links Python

section Ledger

variable {γ : Type} {ledger ledger' : Ledger γ}

/-! ### Heads -/

section Latest

variable {bundleId : String} {rows : List (StoredBundle γ)} {row head : StoredBundle γ}

theorem latest_mem (h : latest bundleId rows = some head) :
    head ∈ rows ∧ head.bundleId = bundleId := by
  have mem := List.argmax_mem h
  simpa using mem

theorem le_latest (h : latest bundleId rows = some head) (mem : row ∈ rows)
    (same : row.bundleId = bundleId) : row.revision ≤ head.revision :=
  List.le_of_mem_argmax (List.mem_filter.mpr ⟨mem, by simpa using same⟩) h

theorem latest_eq_none : latest bundleId rows = none ↔ ∀ row ∈ rows, row.bundleId ≠ bundleId := by
  simp [latest, List.argmax_eq_none, List.filter_eq_nil_iff]

end Latest

variable {row : StoredBundle γ}

theorem mem_stored :
    row ∈ ledger.stored ↔ row ∈ ledger.projections ∨ row ∈ ledger.compactBundles :=
  List.mem_append

theorem continuationBundleHead_ok {bundleId : String} {head : Durable γ}
    (h : continuationBundleHead bundleId ledger = .ok (some head)) :
    head.bundle ∈ ledger.stored ∧ head.bundle.bundleId = bundleId := by
  unfold continuationBundleHead at h
  split at h
  · cases h
  · next v1 _ found _ =>
      cases h
      obtain ⟨mem, same⟩ := latest_mem found
      exact ⟨mem_stored.mpr (.inl mem), same⟩
  · next v2 _ found =>
      cases h
      obtain ⟨mem, same⟩ := latest_mem found
      exact ⟨mem_stored.mpr (.inr mem), same⟩
  · next v1 v2 found found' =>
      split at h
      · cases h
      split at h
      · cases h
        obtain ⟨mem, same⟩ := latest_mem found'
        exact ⟨mem_stored.mpr (.inr mem), same⟩
      · cases h
        obtain ⟨mem, same⟩ := latest_mem found
        exact ⟨mem_stored.mpr (.inl mem), same⟩

def Ordered (ledger : Ledger γ) : Prop :=
  ∀ v1 ∈ ledger.projections, ∀ v2 ∈ ledger.compactBundles, v1.bundleId = v2.bundleId →
    v1.revision < v2.revision

theorem exists_head (ordered : Ordered ledger) (mem : row ∈ ledger.stored) :
    ∃ head, continuationBundleHead row.bundleId ledger = .ok (some head) := by
  unfold continuationBundleHead
  split
  · next noneV1 noneV2 =>
      rcases mem_stored.mp mem with mem | mem
      · exact absurd rfl (latest_eq_none.mp noneV1 row mem)
      · exact absurd rfl (latest_eq_none.mp noneV2 row mem)
  · exact ⟨_, rfl⟩
  · exact ⟨_, rfl⟩
  · next v1 v2 found found' =>
      obtain ⟨mem, same⟩ := latest_mem found
      obtain ⟨mem', same'⟩ := latest_mem found'
      have lt := ordered v1 mem v2 mem' (same.trans same'.symm)
      exact ⟨.compactRunBundle v2, by rw [if_neg lt.ne, if_pos lt]⟩

/-! ### Claims -/

/-- What a claim may be bound to: a stored bundle of the requested run and of the successor's
lineage that no link names. -/
structure Candidate (successor : RunIdentity) (runId : String) (ledger : Ledger γ)
    (predecessor : StoredBundle γ) : Prop where
  stored : predecessor ∈ ledger.stored
  run : predecessor.identity.runId = runId
  lineage : continuationLineageMatches predecessor successor = true
  free : ∀ link ∈ ledger.links, link.predecessorBundleId ≠ predecessor.bundleId

section Claims

variable {successor : RunIdentity} {successorBundleId runId : String} {predecessor : Durable γ}
  {link : ContinuationLink} {requested : Option String}

theorem claimable_ok {bundleId : String}
    (h : claimable successor runId ledger bundleId = .ok (some predecessor)) :
    Candidate successor runId ledger predecessor.bundle := by
  obtain ⟨found, head, h⟩ := bind_ok h
  split at h
  · cases h
  · next candidate =>
      have ⟨mem, _⟩ := continuationBundleHead_ok head
      split at h
      · cases h
      split at h
      · cases h
      split at h
      · next free run lineage =>
          cases h
          exact ⟨mem, not_not.mp run, lineage, by simpa using free⟩
      · cases h

variable {found : List (Durable γ)}

theorem candidates_ok (h : candidates successor runId ledger = .ok found)
    (mem : predecessor ∈ found) : Candidate successor runId ledger predecessor.bundle := by
  obtain ⟨_, -, h⟩ := bind_ok h
  obtain ⟨_, -, h⟩ := bind_ok h
  obtain ⟨_, -, ran⟩ := mem_of_collect h mem
  exact claimable_ok ran

theorem lastCandidate_mem {host : ContinuationHost}
    (h : lastCandidate host found = .ok (some predecessor)) : predecessor ∈ found := by
  obtain ⟨keyed, ran, h⟩ := bind_ok h
  obtain ⟨pair, last, rfl⟩ := Option.map_eq_some_iff.mp (Except.ok.inj h)
  obtain ⟨candidate, mem, key⟩ := mem_of_mapM ran pair (List.argmax_mem last)
  obtain ⟨order, -, key⟩ := bind_ok key
  cases key
  exact mem

theorem insertLink_ok (h : insertLink link ledger = .ok ledger') :
    (∀ l ∈ ledger.links, l.successorBundleId ≠ link.successorBundleId) ∧
      ledger' = { ledger with links := ledger.links ++ [link] } := by
  unfold insertLink at h
  split at h
  · cases h
  · next free =>
      cases h
      simp only [List.any_eq_true, not_exists, not_and] at free
      exact ⟨fun l mem same => free l mem (by simp [same]), rfl⟩

theorem bindPredecessor_ok {host : ContinuationHost}
    (h : bindPredecessor host successor successorBundleId runId ledger = .ok (predecessor, ledger')) :
    Candidate successor runId ledger predecessor.bundle ∧
      (∀ l ∈ ledger.links, l.successorBundleId ≠ successorBundleId) ∧
      ledger' = { ledger with
        links := ledger.links ++ [linkOf successor successorBundleId predecessor.bundle] } := by
  obtain ⟨found, gathered, h⟩ := bind_ok h
  obtain ⟨last, chosen, h⟩ := bind_ok h
  cases last with
  | none => cases h
  | some last =>
    obtain ⟨_, inserted, h⟩ := bind_ok h
    cases h
    exact ⟨candidates_ok gathered (lastCandidate_mem chosen), insertLink_ok inserted⟩

theorem linkedPredecessor_ok
    (h : linkedPredecessor successor requested link ledger = .ok predecessor) :
    (∀ runId ∈ requested, runId = link.predecessorRunId) ∧
      continuationBundleHead link.predecessorBundleId ledger = .ok (some predecessor) := by
  obtain ⟨_, agrees, h⟩ := bind_ok h
  obtain ⟨found, head, h⟩ := bind_ok h
  cases found with
  | none => cases h
  | some found =>
    dsimp only at h
    split at h
    · cases h
      refine ⟨fun runId asked => ?_, head⟩
      cases asked
      simpa using agrees
    · cases h

theorem linkedPredecessor_of_head (agrees : ∀ runId ∈ requested, runId = link.predecessorRunId)
    (head : continuationBundleHead link.predecessorBundleId ledger = .ok (some predecessor)) :
    linkedPredecessor successor requested link ledger =
      if continuationLineageMatches predecessor.bundle successor then .ok predecessor
      else .error (integrityError "continuation predecessor no longer matches its lineage") := by
  have agreeing : raiseIf (requested.any fun runId => runId ≠ link.predecessorRunId)
      (continuationError "continued_from_successor_conflict") = .ok () := by
    refine raiseIf_ok.mpr ?_
    cases requested with
    | none => rfl
    | some runId => simpa using agrees runId rfl
  rw [linkedPredecessor, agreeing, head]
  rfl

/-- What a claim did that returned. -/
inductive Claimed (successor : RunIdentity) (successorBundleId : String)
    (requested : Option String) (ledger : Ledger γ) : Option (Durable γ) → Ledger γ → Prop
  | nothing (asked : requested = none) : Claimed successor successorBundleId requested ledger none ledger
  | linked {link : ContinuationLink} {predecessor : Durable γ}
      (existing : ledger.existingLink successorBundleId = some link)
      (agrees : ∀ runId ∈ requested, runId = link.predecessorRunId)
      (head : continuationBundleHead link.predecessorBundleId ledger = .ok (some predecessor)) :
      Claimed successor successorBundleId requested ledger (some predecessor) ledger
  | bound {runId : String} {predecessor : Durable γ} (asked : requested = some runId)
      (candidate : Candidate successor runId ledger predecessor.bundle)
      (free : ∀ l ∈ ledger.links, l.successorBundleId ≠ successorBundleId) :
      Claimed successor successorBundleId requested ledger (some predecessor) { ledger with
        links := ledger.links ++ [linkOf successor successorBundleId predecessor.bundle] }

variable {host : ContinuationHost} {executionId : String} {reply : Option (Durable γ)}

theorem ledgerFilter_ok {field : String} {value filtered : Option String}
    (h : ledgerFilter field value = .ok filtered) : filtered = value := by
  cases value with
  | none => exact (Except.ok.inj h).symm
  | some value =>
    simp only [ledgerFilter] at h
    split at h
    · cases h
    · exact (Except.ok.inj h).symm

theorem claimContinuation_ok
    (h : claimContinuation host executionId successor requested ledger = .ok (reply, ledger')) :
    successor.executionId = executionId ∧ ledgerFilter "requested_run_id" requested = .ok requested ∧
      ∃ successorBundleId, deterministicBundleId host.toBundleHost successor = .ok successorBundleId ∧
        Claimed successor successorBundleId requested ledger reply ledger' := by
  obtain ⟨_, scope, asks⟩ := bind_ok h
  obtain ⟨filtered, filter, claims⟩ := bind_ok asks
  clear h asks
  have same := ledgerFilter_ok filter
  subst same
  obtain ⟨successorBundleId, hashed, claim⟩ := bind_ok claims
  clear claims
  refine ⟨by simpa using scope, filter, successorBundleId, hashed, ?_⟩
  cases existing : ledger.existingLink successorBundleId with
  | some link =>
    rw [existing] at claim
    obtain ⟨predecessor, ran, claim⟩ := bind_ok claim
    cases claim
    obtain ⟨agrees, head⟩ := linkedPredecessor_ok ran
    exact .linked existing agrees head
  | none =>
    rw [existing] at claim
    cases filtered with
    | none =>
      cases claim
      exact .nothing rfl
    | some runId =>
      obtain ⟨⟨predecessor, _⟩, ran, claim⟩ := bind_ok claim
      cases claim
      obtain ⟨candidate, free, rfl⟩ := bindPredecessor_ok ran
      exact .bound rfl candidate free

end Claims

/-! ### What a call does to the tables -/

/-- A transaction that returns leaves the tables alone, or adds one row to one of them. -/
inductive Change (call : Call γ) (ledger : Ledger γ) : Ledger γ → Prop
  | none : Change call ledger ledger
  | projection {bundle : StoredBundle γ}
      (first : ∀ v2 ∈ ledger.compactBundles, v2.bundleId ≠ bundle.bundleId) :
      Change call ledger { ledger with projections := ledger.projections ++ [bundle] }
  | compact {row : CompactRow γ} (advances : ∀ v1 ∈ ledger.projections,
      v1.bundleId = row.bundle.bundleId → v1.revision < row.bundle.revision) :
      Change call ledger { ledger with compact := ledger.compact ++ [row] }
  | link {successor : RunIdentity} {runId successorBundleId : String} {predecessor : StoredBundle γ}
      (claim : call = .claimContinuation successor (some runId))
      (candidate : Candidate successor runId ledger predecessor)
      (free : ∀ l ∈ ledger.links, l.successorBundleId ≠ successorBundleId) :
      Change call ledger { ledger with
        links := ledger.links ++ [linkOf successor successorBundleId predecessor] }

section Change

variable [DecidableEq γ] {host : ContinuationHost} {executionId : String} {call : Call γ}
  {bundle : StoredBundle γ}

theorem appendRunBundleProjection_change
    (h : appendRunBundleProjection executionId bundle ledger = .ok ledger') :
    Change call ledger ledger' := by
  simp only [appendRunBundleProjection, bind_iff] at h
  obtain ⟨_, -, _, -, _, noCompact, h⟩ := h
  split at h
  · obtain ⟨_, -, h⟩ := bind_ok h
    cases h
    exact .none
  · cases h
    refine .projection (latest_eq_none.mp ?_)
    cases head : latest bundle.bundleId ledger.compactBundles with
    | none => rfl
    | some durable =>
      rw [head] at noCompact
      obtain ⟨_, -, raised⟩ := bind_ok noCompact
      cases raised

theorem persistCompactBundle_change {details : String}
    (h : persistCompactBundle executionId bundle details ledger = .ok ledger') :
    Change call ledger ledger' := by
  obtain ⟨_, -, h⟩ := bind_ok h
  split at h
  · obtain ⟨_, -, h⟩ := bind_ok h
    cases h
    exact .none
  · obtain ⟨_, -, h⟩ := bind_ok h
    obtain ⟨_, afterV1, h⟩ := bind_ok h
    cases h
    refine .compact fun v1 mem same => ?_
    cases head : latest bundle.bundleId ledger.projections with
    | none => exact absurd same (latest_eq_none.mp head v1 mem)
    | some durable =>
      rw [head] at afterV1
      obtain ⟨_, -, advances⟩ := bind_ok afterV1
      have lt : durable.revision < bundle.revision := by simpa using advances
      exact (le_latest head mem same).trans_lt lt

theorem change_of_run {reply : Option (Durable γ)}
    (h : call.run host executionId ledger = .ok (reply, ledger')) : Change call ledger ledger' := by
  cases call with
  | persistBundle bundle details =>
    obtain ⟨_, appended, h⟩ := bind_ok h
    obtain ⟨_, -, h⟩ := bind_ok h
    cases h
    exact appendRunBundleProjection_change appended
  | persistCompactBundle bundle details =>
    obtain ⟨_, persisted, h⟩ := bind_ok h
    cases h
    exact persistCompactBundle_change persisted
  | claimContinuation successor requested =>
    obtain ⟨-, -, successorBundleId, -, claimed⟩ := claimContinuation_ok h
    cases claimed with
    | nothing asked => exact .none
    | linked existing agrees head => exact .none
    | bound asked candidate free =>
      subst asked
      exact .link rfl candidate free

/-- A call that raises leaves the tables alone, for the transaction is rolled back. -/
theorem perform_change (call : Call γ) (ledger : Ledger γ) :
    Change call ledger (endState (perform host executionId call ledger)) := by
  unfold perform
  split
  · next ran => exact change_of_run ran
  · exact .none

end Change

/-! ### What every call keeps -/

/-- What holds of the tables after any run. -/
structure Sound (ledger : Ledger γ) : Prop where
  ordered : Ordered ledger
  stored : ∀ link ∈ ledger.links, ∃ row ∈ ledger.stored,
    row.bundleId = link.predecessorBundleId ∧ row.identity.runId = link.predecessorRunId
  successors : (ledger.links.map ContinuationLink.successorBundleId).Nodup
  predecessors : (ledger.links.map ContinuationLink.predecessorBundleId).Nodup

theorem Sound.empty : Sound (Ledger.empty : Ledger γ) where
  ordered := by simp [Ordered, Ledger.empty]
  stored := by simp [Ledger.empty]
  successors := List.nodup_nil
  predecessors := List.nodup_nil

theorem nodup_map_concat {f : ContinuationLink → String} {links : List ContinuationLink}
    {link : ContinuationLink} (nodup : (links.map f).Nodup) (free : ∀ l ∈ links, f l ≠ f link) :
    ((links ++ [link]).map f).Nodup := by
  rw [List.map_append, List.nodup_append]
  refine ⟨nodup, by simp, fun a old b new => ?_⟩
  obtain ⟨l, mem, rfl⟩ := List.mem_map.mp old
  simp only [List.map_cons, List.map_nil, List.mem_singleton] at new
  subst new
  exact free l mem

namespace Change

variable {call : Call γ}

theorem sound (change : Change call ledger ledger') (sound : Sound ledger) : Sound ledger' := by
  obtain ⟨ordered, stored, successors, predecessors⟩ := sound
  cases change with
  | none => exact ⟨ordered, stored, successors, predecessors⟩
  | @projection bundle first =>
    refine ⟨fun v1 mem v2 mem' same => ?_, fun link mem => ?_, successors, predecessors⟩
    · rcases List.mem_append.mp mem with mem | mem
      · exact ordered v1 mem v2 mem' same
      · cases List.mem_singleton.mp mem
        exact absurd same.symm (first v2 mem')
    · obtain ⟨row, mem, same⟩ := stored link mem
      refine ⟨row, mem_stored.mpr ?_, same⟩
      exact (mem_stored.mp mem).imp_left (List.mem_append_left [bundle])
  | @compact row advances =>
    have bundles : (⟨ledger.projections, ledger.compact ++ [row], ledger.links⟩ :
        Ledger γ).compactBundles = ledger.compactBundles ++ [row.bundle] := by
      simp [Ledger.compactBundles]
    refine ⟨fun v1 mem v2 mem' same => ?_, fun link mem => ?_, successors, predecessors⟩
    · rw [bundles] at mem'
      rcases List.mem_append.mp mem' with mem' | mem'
      · exact ordered v1 mem v2 mem' same
      · cases List.mem_singleton.mp mem'
        exact advances v1 mem same
    · obtain ⟨head, mem, same⟩ := stored link mem
      refine ⟨head, mem_stored.mpr ?_, same⟩
      rw [bundles]
      exact (mem_stored.mp mem).imp_right (List.mem_append_left [row.bundle])
  | link claim candidate free =>
    refine ⟨ordered, fun l mem => ?_, nodup_map_concat successors free,
      nodup_map_concat predecessors candidate.free⟩
    rcases List.mem_append.mp mem with mem | mem
    · exact stored l mem
    · cases List.mem_singleton.mp mem
      exact ⟨_, candidate.stored, rfl, rfl⟩

theorem links_extend (change : Change call ledger ledger') : ledger.links <+: ledger'.links := by
  cases change with
  | none | projection | compact => exact List.prefix_rfl
  | link => exact List.prefix_append _ _

end Change

/-! ### Cycles -/

def Ledger.runLinks (ledger : Ledger γ) : List (String × String) :=
  ledger.links.map fun link => (link.successorRunId, link.predecessorRunId)

/-- A claim does not ask to continue a run that leads to the successor's run already. -/
def ClosesNoCycle (ledger : Ledger γ) : Call γ → Prop
  | .claimContinuation successor (some runId) =>
    ¬ Relation.TransGen (Follows ledger.runLinks) runId successor.runId
  | _ => True

def ForFreshRun (ledger : Ledger γ) : Call γ → Prop
  | .claimContinuation successor _ => ∀ row ∈ ledger.stored, row.identity.runId ≠ successor.runId
  | _ => True

instance [DecidableEq γ] (ledger : Ledger γ) (call : Call γ) : Decidable (ForFreshRun ledger call) :=
  match call with
  | .claimContinuation successor _ =>
    inferInstanceAs (Decidable (∀ row ∈ ledger.stored, row.identity.runId ≠ successor.runId))
  | .persistBundle _ _ => inferInstanceAs (Decidable True)
  | .persistCompactBundle _ _ => inferInstanceAs (Decidable True)

variable {call : Call γ}

theorem ForFreshRun.closesNoCycle (fresh : ForFreshRun ledger call) (sound : Sound ledger) :
    ClosesNoCycle ledger call := by
  cases call with
  | persistBundle => trivial
  | persistCompactBundle => trivial
  | claimContinuation successor requested =>
    cases requested with
    | none => trivial
    | some runId =>
      refine no_path_of_no_link fun runs taken same => ?_
      obtain ⟨link, mem, rfl⟩ := List.mem_map.mp taken
      obtain ⟨row, mem', -, run⟩ := sound.stored link mem
      exact fresh row mem' (run.trans same)

variable {successor : RunIdentity}

theorem lineage_other_run {predecessor : StoredBundle γ}
    (lineage : continuationLineageMatches predecessor successor = true) :
    successor.runId ≠ predecessor.identity.runId := by
  intro same
  simp [continuationLineageMatches, same] at lineage

theorem Change.acyclic_iff (change : Change call ledger ledger') (acyclic : Acyclic ledger.runLinks)
    :
    Acyclic ledger'.runLinks ↔ ledger'.links = ledger.links ∨ ClosesNoCycle ledger call := by
  cases change with
  | none => simpa using acyclic
  | projection | compact => simpa [Ledger.runLinks] using acyclic
  | @link successor runId successorBundleId predecessor claim candidate free =>
    subst claim
    have runs : Ledger.runLinks { ledger with
        links := ledger.links ++ [linkOf successor successorBundleId predecessor] } =
          ledger.runLinks ++ [(successor.runId, runId)] := by
      simp [Ledger.runLinks, linkOf, candidate.run]
    have other : successor.runId ≠ runId := candidate.run ▸ lineage_other_run candidate.lineage
    rw [runs, acyclic_append_iff acyclic]
    simp [other, ClosesNoCycle]

/-! ### Repeated claims -/

section Repeat

variable {host : ContinuationHost} {executionId : String} {successor : RunIdentity}
  {requested : Option String} {bundleId : String}

/-- The claim's link to a bundle is stored. -/
structure Linked (host : ContinuationHost) (executionId : String) (successor : RunIdentity)
    (requested : Option String) (bundleId : String) (ledger : Ledger γ) : Prop where
  scope : successor.executionId = executionId
  filter : ledgerFilter "requested_run_id" requested = .ok requested
  link : ∃ successorBundleId link,
    deterministicBundleId host.toBundleHost successor = .ok successorBundleId ∧
    ledger.existingLink successorBundleId = some link ∧ link.predecessorBundleId = bundleId ∧
    ∀ runId ∈ requested, runId = link.predecessorRunId

theorem linked_of_claim {predecessor : Durable γ}
    (h : claimContinuation host executionId successor requested ledger =
      .ok (some predecessor, ledger')) :
    Linked host executionId successor requested predecessor.bundle.bundleId ledger' := by
  obtain ⟨scope, filter, successorBundleId, hashed, claimed⟩ := claimContinuation_ok h
  refine ⟨scope, filter, ?_⟩
  cases claimed with
  | linked existing agrees head =>
    exact ⟨successorBundleId, _, hashed, existing, (continuationBundleHead_ok head).2.symm, agrees⟩
  | bound asked candidate free =>
    subst asked
    refine ⟨successorBundleId, linkOf successor successorBundleId predecessor.bundle, hashed, ?_,
      rfl, ?_⟩
    · have absent : ledger.existingLink successorBundleId = none := by
        simpa [Ledger.existingLink] using free
      unfold Ledger.existingLink at absent ⊢
      rw [List.find?_append, absent]
      simp [linkOf]
    · simp [linkOf, candidate.run]

theorem Linked.mono (linked : Linked host executionId successor requested bundleId ledger)
    (grows : ledger.links <+: ledger'.links) :
    Linked host executionId successor requested bundleId ledger' := by
  obtain ⟨scope, filter, successorBundleId, link, hashed, existing, rest⟩ := linked
  exact ⟨scope, filter, successorBundleId, link, hashed, grows.find?_eq_some existing, rest⟩

theorem Linked.claim_again (linked : Linked host executionId successor requested bundleId ledger)
    (sound : Sound ledger) : ∃ head, continuationBundleHead bundleId ledger = .ok (some head) ∧
      head.bundle.bundleId = bundleId ∧
      claimContinuation host executionId successor requested ledger =
        if continuationLineageMatches head.bundle successor then .ok (some head, ledger)
        else .error (integrityError "continuation predecessor no longer matches its lineage") := by
  obtain ⟨scope, filter, successorBundleId, link, hashed, existing, rfl, agrees⟩ := linked
  obtain ⟨row, mem, same, -⟩ := sound.stored link (List.mem_of_find?_eq_some existing)
  obtain ⟨head, found⟩ := exists_head sound.ordered mem
  rw [same] at found
  refine ⟨head, found, (continuationBundleHead_ok found).2, ?_⟩
  have here : raiseIf (successor.executionId ≠ executionId)
      (scopeError "continuation successor belongs to another execution") = .ok () :=
    raiseIf_ok.mpr (by simpa using scope)
  rw [claimContinuation, here, filter, hashed]
  simp only [bind, Except.bind, existing, linkedPredecessor_of_head agrees found]
  cases continuationLineageMatches head.bundle successor <;> rfl

end Repeat

/-! ### Runs -/

variable [DecidableEq γ] (host : ContinuationHost) (executionId : String)

structure Chains (calls : List (Call γ)) : Prop where
  /-- A successor has one predecessor, and a predecessor one successor. -/
  one_to_one : ∀ e ∈ history (perform host executionId) .empty calls,
    (e.after.links.map ContinuationLink.successorBundleId).Nodup ∧
      (e.after.links.map ContinuationLink.predecessorBundleId).Nodup
  /-- Links are added, and what is stored stays. -/
  stays : ∀ e ∈ history (perform host executionId) .empty calls,
    e.before.links <+: e.after.links ∧
      e.after.links <+: (final (perform host executionId) .empty calls).links
  /-- No path along links comes back iff no claim that stores a link closes one. -/
  acyclic_iff : (∀ e ∈ history (perform host executionId) .empty calls, Acyclic e.after.runLinks) ↔
    ∀ e ∈ history (perform host executionId) .empty calls,
      e.after.links = e.before.links ∨ ClosesNoCycle e.before e.call
  /-- Claims for fresh runs close none. -/
  fresh : (∀ e ∈ history (perform host executionId) .empty calls,
      e.after.links = e.before.links ∨ ForFreshRun e.before e.call) →
    ∀ e ∈ history (perform host executionId) .empty calls, Acyclic e.after.runLinks
  /-- What raises changes nothing. -/
  rolled_back : ∀ e ∈ history (perform host executionId) .empty calls,
    e.reply = none → e.after = e.before
  /-- A claim that was answered, repeated at the end of the run, is answered with the head of the same
  bundle, or refused if that head is not of the successor's lineage any more. -/
  repeated : ∀ e ∈ history (perform host executionId) .empty calls,
    ∀ successor requested predecessor, e.call = .claimContinuation successor requested →
      e.reply = some (some predecessor) →
      let ledger := final (perform host executionId) .empty calls
      ∃ head, continuationBundleHead predecessor.bundle.bundleId ledger = .ok (some head) ∧
        head.bundle.bundleId = predecessor.bundle.bundleId ∧
        perform host executionId e.call ledger =
          if continuationLineageMatches head.bundle successor then .ok (some head) ledger
          else .error
            (integrityError "continuation predecessor no longer matches its lineage") ledger

variable {host executionId}

theorem perform_sound (call : Call γ) (ledger : Ledger γ) (sound : Sound ledger) :
    Sound (endState (perform host executionId call ledger)) :=
  (perform_change call ledger).sound sound

theorem perform_links (call : Call γ) :
    Within (fun ledger ledger' : Ledger γ => ledger.links <+: ledger'.links)
      (perform host executionId call) :=
  fun ledger => (perform_change call ledger).links_extend

variable {calls : List (Call γ)} {e : Entry PyError (Ledger γ) (Option (Durable γ)) (Call γ)}

theorem sound_of_entry (mem : e ∈ history (perform host executionId) .empty calls) :
    Sound e.before ∧ Sound e.after := by
  obtain ⟨earlier, later, split⟩ := List.append_of_mem mem
  obtain ⟨before, eq⟩ := entry_of (I := fun _ => Sound) Sound.empty
    (fun _ ledger call => perform_sound call ledger) split
  rw [eq]
  exact ⟨before, perform_sound _ _ before⟩

theorem sound_final (calls : List (Call γ)) :
    Sound (final (perform host executionId) .empty calls) :=
  final_of (I := fun _ => Sound) Sound.empty (fun _ ledger call => perform_sound call ledger) calls

theorem after_eq (mem : e ∈ history (perform host executionId) .empty calls) :
    e.after = endState (perform host executionId e.call e.before) := by
  have eq := eq_record mem
  exact congrArg Entry.after eq

/-- A call that raises has written nothing. -/
theorem unchanged_of_no_reply (mem : e ∈ history (perform host executionId) .empty calls)
    (silent : e.reply = none) : e.after = e.before := by
  rw [eq_record mem] at silent ⊢
  simp only [Entry.reply, record] at silent
  rw [record_after, record_before]
  unfold perform at silent ⊢
  split
  · next ran =>
      rw [ran] at silent
      cases silent
  · rfl

theorem acyclic_runs_iff (calls : List (Call γ)) :
    (∀ e ∈ history (perform host executionId) .empty calls, Acyclic e.after.runLinks) ↔
      ∀ e ∈ history (perform host executionId) .empty calls,
        e.after.links = e.before.links ∨ ClosesNoCycle e.before e.call := by
  have exact_of := forall_after_iff
    (I := fun _ => True) (P := fun ledger : Ledger γ => Acyclic ledger.runLinks)
    (C := fun ledger call => (endState (perform host executionId call ledger)).links = ledger.links ∨
      ClosesNoCycle ledger call) (s := Ledger.empty)
    (fun _ _ _ _ => trivial) (fun ledger call _ acyclic => (perform_change call ledger).acyclic_iff acyclic)
    trivial acyclic_nil calls
  refine exact_of.trans ⟨fun meets e mem => ?_, fun meets e mem => ?_⟩
  · rw [after_eq mem]
    exact meets e mem
  · rw [← after_eq mem]
    exact meets e mem

theorem perform_claim (successor : RunIdentity) (requested : Option String) (ledger : Ledger γ) :
    perform host executionId (.claimContinuation successor requested) ledger =
      match claimContinuation host executionId successor requested ledger with
      | .ok (reply, ledger') => .ok reply ledger'
      | .error e => .error e ledger :=
  rfl

theorem linked_of_reply (mem : e ∈ history (perform host executionId) .empty calls)
    {requested : Option String} {predecessor : Durable γ}
    (call : e.call = .claimContinuation successor requested)
    (reply : e.reply = some (some predecessor)) :
    Linked host executionId successor requested predecessor.bundle.bundleId e.after := by
  have eq := eq_record mem
  rw [eq, record_reply_iff, call, perform_claim] at reply
  obtain ⟨ledger, ran⟩ := reply
  rw [after_eq mem, call, perform_claim, ran]
  split at ran
  · next claimed =>
      cases ran
      exact linked_of_claim claimed
  · cases ran

/-- Continuations form chains, over any run of claims and new revisions. -/
theorem continuation_chains (host : ContinuationHost) (executionId : String) (calls : List (Call γ)) :
    Chains host executionId calls where
  one_to_one e mem := ⟨(sound_of_entry mem).2.successors, (sound_of_entry mem).2.predecessors⟩
  stays e mem := by
    refine ⟨?_, after_related_final (R := fun ledger ledger' => ledger.links <+: ledger'.links)
      (fun _ => List.prefix_rfl) (fun _ _ _ => List.IsPrefix.trans) perform_links mem⟩
    rw [after_eq mem]
    exact perform_links e.call e.before
  acyclic_iff := acyclic_runs_iff calls
  fresh fresh := by
    refine (acyclic_runs_iff calls).mpr fun e mem => ?_
    exact (fresh e mem).imp_right fun fresh => fresh.closesNoCycle (sound_of_entry mem).1
  rolled_back e mem := unchanged_of_no_reply mem
  repeated e mem successor requested predecessor call reply := by
    have linked := (linked_of_reply mem call reply).mono
      (after_related_final (R := fun ledger ledger' => ledger.links <+: ledger'.links)
        (fun _ => List.prefix_rfl) (fun _ _ _ => List.IsPrefix.trans) perform_links mem)
    obtain ⟨head, found, same, again⟩ := linked.claim_again (sound_final calls)
    refine ⟨head, found, same, ?_⟩
    rw [call, perform_claim, again]
    cases continuationLineageMatches head.bundle successor <;> rfl

end Ledger

/-! ### A cycle and a refused repetition -/

/-- The end of the canonical text under which a run is hashed: its last field is the run's id. -/
def sampleSuffix (runId : String) : Utf8.Bytes := Utf8.encode (runId ++ "\"\x7d\x7d").toList

def sampleDigestA : String := "b6d0ee9eb333c36fa2152d561c9427a10517c3a04f66f9c791af535519997c80"

def sampleDigestB : String := "c3a527cc34cb31243840aeda08e754825bcc49099379d0560fc0444818106a33"

/-- A host that hashes the identities of the two runs of the samples as SHA-256 does. -/
def sampleHost : ContinuationHost where
  toBundleHost :=
    { asciiHost with
      sha256 := fun bytes =>
        if (sampleSuffix "run-a").isSuffixOf bytes then sampleDigestA
        else if (sampleSuffix "run-b").isSuffixOf bytes then sampleDigestB
        else zeros
      sha256_hex := by
        intro bytes
        split
        · decide +kernel
        split
        · decide +kernel
        · decide +kernel }
  epochMicroseconds
    | "2026-08-13T18:01:00Z" => .ok 1786644060000000
    | _ => .error (.valueError "Invalid isoformat string")

def sampleRun (runId : String) : RunIdentity :=
  ⟨"execution-1", "attempt-1", runId, runId, none, .root⟩

def sampleBundle (runId digest : String) (revision : Nat) (status : RunStatus) : StoredBundle Unit :=
  { bundleId := "rb_" ++ digest, revision, identity := sampleRun runId
    lifecycle := ⟨status, "2026-08-13T18:00:00Z", some "2026-08-13T18:01:00Z", none⟩
    content := () }

def suspendedA : StoredBundle Unit := sampleBundle "run-a" sampleDigestA 1 .suspended

def suspendedB : StoredBundle Unit := sampleBundle "run-b" sampleDigestB 1 .suspended

def completedA : StoredBundle Unit := sampleBundle "run-a" sampleDigestA 2 .completed

def continueA : List (Call Unit) :=
  [.persistBundle suspendedA (.ok ()), .claimContinuation (sampleRun "run-b") (some "run-a")]

/-- Then the second is suspended, and the first continues it. -/
def continueBoth : List (Call Unit) :=
  continueA ++
    [.persistBundle suspendedB (.ok ()), .claimContinuation (sampleRun "run-a") (some "run-b")]

/-- Or the first, resumed under its own id, completes. -/
def completeA : List (Call Unit) := continueA ++ [.persistBundle completedA (.ok ())]

theorem continueBoth_runLinks :
    (final (perform sampleHost "execution-1") .empty continueBoth).runLinks =
      [("run-b", "run-a"), ("run-a", "run-b")] := by
  decide +kernel

/-- The links of two claims lead from a run back to it, and a claim that was answered is refused
once its predecessor has completed. -/
theorem continuations_cycle_and_refuse :
    ¬ Acyclic (final (perform sampleHost "execution-1") .empty continueBoth).runLinks ∧
      (history (perform sampleHost "execution-1") .empty continueA).map Entry.reply =
        [some none, some (some (.runBundle suspendedA))] ∧
      claimContinuation sampleHost "execution-1" (sampleRun "run-b") (some "run-a")
          (final (perform sampleHost "execution-1") .empty completeA) =
        .error (integrityError "continuation predecessor no longer matches its lineage") := by
  refine ⟨?_, by decide +kernel, by decide +kernel⟩
  rw [continueBoth_runLinks]
  intro acyclic
  have first : Follows [("run-b", "run-a"), ("run-a", "run-b")] "run-b" "run-a" := by
    simp [Follows]
  have second : Follows [("run-b", "run-a"), ("run-a", "run-b")] "run-a" "run-b" := by
    simp [Follows]
  exact acyclic "run-b" (.head first (.single second))

/-- A fresh run continues the first: no path comes back. -/
theorem continueA_acyclic :
    ∀ e ∈ history (perform sampleHost "execution-1") .empty continueA, Acyclic e.after.runLinks :=
  (continuation_chains sampleHost "execution-1" continueA).fresh (by decide +kernel)

end Unchain.Accounting.Continuations
