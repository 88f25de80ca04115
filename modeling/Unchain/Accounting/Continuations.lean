import Mathlib.Data.List.MinMax
import Mathlib.Data.Prod.Lex
import Unchain.Accounting.Run

/-!
The continuation links of the durable run-bundle ledger (`persistence/sqlite_v2.py`).

A fresh run may continue a run that was suspended or cancelled. The ledger stores the revisions of
bundles in two tables, one for each schema, and the links from successors to predecessors in a third.
The tables are those of one execution, and a row holds its record: the canonical bytes of a bundle
and their digests are folded into it. Of a bundle, identity, lifecycle and revision are read; the
rest is its content.

A transaction gives its result and the tables after it, or raises and leaves the tables as they were.
-/

namespace Unchain.Accounting.Continuations

open Lib Lib.Effect Python

/-- The runtime of the ledger: that of the bundles, and the microseconds since the epoch of a
timestamp (`datetime.fromisoformat`), which may raise. -/
structure ContinuationHost extends BundleHost where
  epochMicroseconds : String → Except PyError Int

def scopeError (message : String) : PyError := .raised "RunBundleLedgerScopeError" message

def conflictError (message : String) : PyError := .raised "RunBundleLedgerConflictError" message

def integrityError (message : String) : PyError := .raised "RunBundleLedgerIntegrityError" message

def continuationError (code : String) : PyError := .raised "RunBundleContinuationError" code

/-! ### Tables -/

structure StoredBundle (γ : Type) where
  bundleId : String
  revision : Nat
  identity : RunIdentity
  lifecycle : RunLifecycle
  content : γ
deriving DecidableEq

/-- A revision in compact form, with the canonical bytes of its details. -/
structure CompactRow (γ : Type) where
  bundle : StoredBundle γ
  details : String
deriving DecidableEq

/-- A bundle that was read from one of the tables. -/
inductive Durable (γ : Type) where
  | runBundle (bundle : StoredBundle γ)
  | compactRunBundle (bundle : StoredBundle γ)
deriving DecidableEq

def Durable.bundle {γ : Type} : Durable γ → StoredBundle γ
  | runBundle bundle => bundle
  | compactRunBundle bundle => bundle

structure ContinuationLink where
  successorBundleId : String
  successorRunId : String
  successorAttemptId : String
  predecessorBundleId : String
  predecessorRunId : String
deriving DecidableEq

/-- `run_bundle_projections_v1`, `run_bundle_compact_v2` and `run_bundle_continuation_links_v1`. -/
structure Ledger (γ : Type) where
  projections : List (StoredBundle γ)
  compact : List (CompactRow γ)
  links : List ContinuationLink
deriving DecidableEq

def Ledger.empty {γ : Type} : Ledger γ := ⟨[], [], []⟩

section Ledger

variable {γ : Type}

/-- `ORDER BY revision DESC LIMIT 1`. -/
def latest (bundleId : String) (rows : List (StoredBundle γ)) : Option (StoredBundle γ) :=
  (rows.filter fun row => row.bundleId = bundleId).argmax StoredBundle.revision

def Ledger.compactBundles (ledger : Ledger γ) : List (StoredBundle γ) :=
  ledger.compact.map CompactRow.bundle

/-- The bundles of both tables. -/
def Ledger.stored (ledger : Ledger γ) : List (StoredBundle γ) :=
  ledger.projections ++ ledger.compactBundles

/-- `_continuation_bundle_head`. -/
def continuationBundleHead (bundleId : String) (ledger : Ledger γ) :
    Except PyError (Option (Durable γ)) :=
  match latest bundleId ledger.projections, latest bundleId ledger.compactBundles with
  | none, none => .ok none
  | some v1, none => .ok (some (.runBundle v1))
  | none, some v2 => .ok (some (.compactRunBundle v2))
  | some v1, some v2 =>
    if v1.revision = v2.revision then
      .error (integrityError "continuation predecessor has conflicting durable schemas")
    else if v1.revision < v2.revision then .ok (some (.compactRunBundle v2))
    else .ok (some (.runBundle v1))

/-! ### Claims -/

/-- `_continuation_lineage_matches`. -/
def continuationLineageMatches (predecessor : StoredBundle γ) (successor : RunIdentity) : Bool :=
  let prior := predecessor.identity
  if prior.executionId ≠ successor.executionId || prior.runId = successor.runId
      || (predecessor.lifecycle.status ≠ .suspended && predecessor.lifecycle.status ≠ .cancelled) then
    false
  else if successor.relation = .root then prior.relation = .root && prior.parentRunId.isNone
  else
    prior.relation = successor.relation && prior.parentRunId = successor.parentRunId
      && prior.rootRunId = successor.rootRunId

variable (host : ContinuationHost)

variable (bundle : StoredBundle γ)

/-- Python compares tuples from the left. -/
instance continuationPreorder : Preorder (Int ×ₗ Nat ×ₗ String) :=
  (inferInstance : LinearOrder (Int ×ₗ Nat ×ₗ String)).toPreorder

/-- `_continuation_order`. -/
def continuationOrder : Except PyError (Int ×ₗ Nat ×ₗ String) := do
  let instant ← match bundle.lifecycle.completedAt with
    | none => .ok (-1)
    | some timestamp => host.epochMicroseconds timestamp
  return toLex (instant, toLex (bundle.revision, bundle.bundleId))

/-- `_ledger_filter`. -/
def ledgerFilter (fieldName : String) : Option String → Except PyError (Option String)
  | none => .ok none
  | some value =>
    if value = "" || value.length > 256 then
      .error (.valueError (fieldName ++ " must be non-empty exact text or null"))
    else .ok (some value)

/-- `_MAX_RUN_BUNDLE_LEDGER_ROWS`. -/
def maxLedgerRows : Nat := 10000

def bundleIds (rows : List (StoredBundle γ)) : List String := (rows.map StoredBundle.bundleId).dedup

variable (successor : RunIdentity)

def linkedPredecessor (requested : Option String) (link : ContinuationLink) (ledger : Ledger γ) :
    Except PyError (Durable γ) := do
  raiseIf (requested.any fun runId => runId ≠ link.predecessorRunId)
    (continuationError "continued_from_successor_conflict")
  match ← continuationBundleHead link.predecessorBundleId ledger with
  | none => .error (integrityError "continuation predecessor projection is missing")
  | some predecessor =>
    if continuationLineageMatches predecessor.bundle successor then return predecessor
    else .error (integrityError "continuation predecessor no longer matches its lineage")

/-- The head of a bundle, if it may be claimed: not consumed, of the requested run, and of the
successor's lineage. -/
def claimable (requested : String) (ledger : Ledger γ) (bundleId : String) :
    Except PyError (Option (Durable γ)) := do
  match ← continuationBundleHead bundleId ledger with
  | none => .error (integrityError "continuation candidate projection is missing")
  | some candidate =>
    if ledger.links.any fun link => link.predecessorBundleId = candidate.bundle.bundleId then
      return none
    else if candidate.bundle.identity.runId ≠ requested then return none
    else if continuationLineageMatches candidate.bundle successor then return some candidate
    else return none

/-- The bundles that may be claimed, in the order of their ids. -/
def candidates (requested : String) (ledger : Ledger γ) : Except PyError (List (Durable γ)) := do
  let v1Ids := bundleIds ledger.projections
  let v2Ids := bundleIds ledger.compactBundles
  raiseIf (maxLedgerRows < v1Ids.length || maxLedgerRows < v2Ids.length)
    (integrityError "continuation candidate query exceeds the ledger limit")
  let candidateIds := (v1Ids ++ v2Ids).dedup
  raiseIf (maxLedgerRows < candidateIds.length)
    (integrityError "continuation candidate query exceeds the ledger limit")
  collect (claimable successor requested ledger) (sortedBy id candidateIds)

/-- `max(candidates, key=self._continuation_order)`. -/
def lastCandidate (candidates : List (Durable γ)) : Except PyError (Option (Durable γ)) := do
  let keyed ← candidates.mapM fun candidate => do
    let order ← continuationOrder host candidate.bundle
    return (candidate, order)
  return (keyed.argmax Prod.snd).map Prod.fst

def insertLink (link : ContinuationLink) (ledger : Ledger γ) : Except PyError (Ledger γ) :=
  if ledger.links.any fun l => l.successorBundleId = link.successorBundleId
      || l.predecessorBundleId = link.predecessorBundleId then
    .error (continuationError "continued_from_claim_conflict")
  else .ok { ledger with links := ledger.links ++ [link] }

def linkOf (successorBundleId : String) (predecessor : StoredBundle γ) : ContinuationLink :=
  { successorBundleId, successorRunId := successor.runId, successorAttemptId := successor.attemptId,
    predecessorBundleId := predecessor.bundleId, predecessorRunId := predecessor.identity.runId }

def Ledger.existingLink (successorBundleId : String) (ledger : Ledger γ) : Option ContinuationLink :=
  ledger.links.find? fun link => link.successorBundleId = successorBundleId

def bindPredecessor (successorBundleId : String) (requested : String) (ledger : Ledger γ) :
    Except PyError (Durable γ × Ledger γ) := do
  let found ← candidates successor requested ledger
  match ← lastCandidate host found with
  | none => .error (continuationError "continued_from_not_claimable")
  | some predecessor => do
    let ledger ← insertLink (linkOf successor successorBundleId predecessor.bundle) ledger
    return (predecessor, ledger)

variable (executionId : String)

/-- `claim_continuation`. -/
def claimContinuation (successor : RunIdentity) (requestedRunId : Option String)
    (ledger : Ledger γ) : Except PyError (Option (Durable γ) × Ledger γ) := do
  raiseIf (successor.executionId ≠ executionId)
    (scopeError "continuation successor belongs to another execution")
  let requested ← ledgerFilter "requested_run_id" requestedRunId
  let successorBundleId ← deterministicBundleId host.toBundleHost successor
  match ledger.existingLink successorBundleId with
  | some link => do
    let predecessor ← linkedPredecessor successor requested link ledger
    return (some predecessor, ledger)
  | none =>
    match requested with
    | none => return (none, ledger)
    | some requested => do
      let (predecessor, ledger) ← bindPredecessor host successor successorBundleId requested ledger
      return (some predecessor, ledger)

/-! ### Revisions -/

variable [DecidableEq γ]

/-- A v1 revision is checked against the newest v1 revision … -/
def checkProjectionHead : Option (StoredBundle γ) → Except PyError Unit
  | none => .ok ()
  | some durable => do
    raiseIf (durable.identity ≠ bundle.identity)
      (conflictError "bundle_id changed its immutable run identity")
    raiseIf (bundle.revision < durable.revision)
      (conflictError "run bundle revision regressed below the durable head")

/-- … and against the newest compact one. -/
def checkNoCompactHead : Option (StoredBundle γ) → Except PyError Unit
  | none => .ok ()
  | some durable => do
    raiseIf (durable.identity ≠ bundle.identity)
      (conflictError "bundle_id changed its immutable run identity")
    .error (conflictError "v1 run bundle cannot overwrite the compact durable head")

/-- `_append_run_bundle_projection_in_transaction`. -/
def appendRunBundleProjection (bundle : StoredBundle γ) (ledger : Ledger γ) :
    Except PyError (Ledger γ) := do
  raiseIf (bundle.identity.executionId ≠ executionId)
    (scopeError "run bundle belongs to another execution")
  checkProjectionHead bundle (latest bundle.bundleId ledger.projections)
  checkNoCompactHead bundle (latest bundle.bundleId ledger.compactBundles)
  match ledger.projections.find? fun row =>
      row.bundleId = bundle.bundleId && row.revision = bundle.revision with
  | some durable => do
    raiseIf (durable ≠ bundle) (conflictError "run bundle revision has conflicting projections")
    return ledger
  | none => return { ledger with projections := ledger.projections ++ [bundle] }

def checkCompactHead : Option (StoredBundle γ) → Except PyError Unit
  | none => .ok ()
  | some head =>
    raiseIf (bundle.revision < head.revision)
      (conflictError "compact bundle revision regressed below durable head")

/-- … and against the newest v1 one. -/
def checkV1Head : Option (StoredBundle γ) → Except PyError Unit
  | none => .ok ()
  | some durable => do
    raiseIf (durable.identity ≠ bundle.identity)
      (conflictError "bundle_id changed its immutable run identity")
    raiseIf (bundle.revision ≤ durable.revision)
      (conflictError "compact bundle must advance the v1 durable head")

/-- `persist_compact_bundle_with_details`, once the details were verified and encoded. -/
def persistCompactBundle (bundle : StoredBundle γ) (details : String) (ledger : Ledger γ) :
    Except PyError (Ledger γ) := do
  raiseIf (bundle.identity.executionId ≠ executionId)
    (scopeError "compact bundle belongs to another execution")
  match ledger.compact.find? fun row =>
      row.bundle.bundleId = bundle.bundleId && row.bundle.revision = bundle.revision with
  | some durable => do
    raiseIf (durable.bundle ≠ bundle || durable.details ≠ details)
      (conflictError "compact bundle revision has conflicting details")
    return ledger
  | none => do
    checkCompactHead bundle (latest bundle.bundleId ledger.compactBundles)
    checkV1Head bundle (latest bundle.bundleId ledger.projections)
    return { ledger with compact := ledger.compact ++ [⟨bundle, details⟩] }

/-! ### Calls -/

/-- A call of the ledger. `details` is what came of storing the projection details, which have a
table of their own: `persist_bundle` stores none. -/
inductive Call (γ : Type) where
  | persistBundle (bundle : StoredBundle γ) (details : Except PyError Unit)
  | persistCompactBundle (bundle : StoredBundle γ) (details : String)
  | claimContinuation (successor : RunIdentity) (requestedRunId : Option String)

def Call.run (call : Call γ) (ledger : Ledger γ) : Except PyError (Option (Durable γ) × Ledger γ) :=
  match call with
  | .persistBundle bundle details => do
    let ledger ← appendRunBundleProjection executionId bundle ledger
    details
    return (none, ledger)
  | .persistCompactBundle bundle details => do
    let ledger ← Continuations.persistCompactBundle executionId bundle details ledger
    return (none, ledger)
  | .claimContinuation successor requestedRunId =>
    Continuations.claimContinuation host executionId successor requestedRunId ledger

/-- A call as one transaction: what raises is rolled back. -/
def perform (call : Call γ) :
    EStateM PyError (Ledger γ) (Option (Durable γ)) := fun ledger =>
  match call.run host executionId ledger with
  | .ok (reply, ledger') => .ok reply ledger'
  | .error e => .error e ledger

end Ledger

end Unchain.Accounting.Continuations
