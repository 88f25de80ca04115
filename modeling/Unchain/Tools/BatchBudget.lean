import Unchain.Tools.ResultRecords

/-!
`budget_messages`.

The state of a run is the size that each record has now, the payloads that replaced the original
ones, the records whose optimizer was asked and the number of optimizers that failed.
-/

namespace Unchain.Tools.ResultBudget

open Lib Python

structure ToolHistoryOptimizationContext where
  toolName : String
  callId : String
  kind : String
  provider : String
  sessionId : String
  latestMessages : List Value
  maxChars : Int
  previewChars : Int
  includeHash : Bool

/-- `ExecutionLeaseError`. -/
structure ExecutionLeaseError where
  message : String

/-- What an optimizer raises: the error that ends the run, or another exception. -/
inductive OptimizerError where
  | executionLease (e : ExecutionLeaseError)
  | exception (e : PyError)

/-- The optimizer of a tool. It may answer differently each time it is asked, so it is told how many
records were attempted before. -/
abbrev HistoryResultOptimizer :=
  (attempt : Nat) → Value → ToolHistoryOptimizationContext → Except OptimizerError Value

/-- A call of `budget_messages`. The toolkit gives a tool's optimizer, if it has one. -/
structure BudgetCall where
  provider : String
  toolkit : Option (String → Option HistoryResultOptimizer)
  toolCalls : List ToolCall
  resultMessages : List Value
  sessionId : String
  latestMessages : Option (List Value)
  reason : String

structure BudgetState where
  currentChars : List Nat
  compactedPayloads : List (Nat × Value)
  optimizerAttempted : List Nat
  optimizerErrorCount : Nat

namespace BudgetState

def chars (st : BudgetState) (index : Nat) : Nat := st.currentChars.getD index 0

/-- `sum(current_chars.values())`. -/
def total (st : BudgetState) : Nat := st.currentChars.sum

end BudgetState

section Run

variable (host : BudgetHost) (config : ToolResultBudgetConfig) (call : BudgetCall)
  (records : List ResultRecord)

variable (index : Nat)

def record : ResultRecord := records.getD index default

def maxResultChars : Int := max 1 config.maxResultChars

def maxBatchChars : Int := max 1 config.maxBatchChars

def minCharsToBudget : Int := max 0 config.minCharsToBudget

def initialState : BudgetState := ⟨records.map ResultRecord.originalChars, [], [], 0⟩

/-- What an optimizer is told about the record. -/
def optimizationContext (record : ResultRecord) : ToolHistoryOptimizationContext :=
  { toolName := record.toolName, callId := record.callId, kind := "result",
    provider := host.lower (strip call.provider), sessionId := call.sessionId,
    latestMessages := call.latestMessages.getD [], maxChars := maxResultChars config,
    previewChars := max 1 config.previewChars, includeHash := true }

def optimizerOf (record : ResultRecord) : Option HistoryResultOptimizer :=
  if record.toolName = "" then none else call.toolkit.bind fun get => get record.toolName

variable (st : BudgetState)

/-- `optimizer_payload`: what the optimizer returned, if it was asked and returned. -/
def optimizerPayload : Except ExecutionLeaseError (Option Value × BudgetState) :=
  if index ∈ st.optimizerAttempted then .ok (none, st)
  else
    let attempted := { st with optimizerAttempted := index :: st.optimizerAttempted }
    match optimizerOf call (record records index) with
    | none => .ok (none, attempted)
    | some optimizer =>
      match optimizer st.optimizerAttempted.length (record records index).payload
          (optimizationContext host config call (record records index)) with
      | .ok optimized => .ok (some optimized, attempted)
      | .error (.executionLease e) => .error e
      | .error (.exception _) =>
        .ok (none, { attempted with optimizerErrorCount := st.optimizerErrorCount + 1 })

/-- The answer of an optimizer, unless it is `None`. -/
def semantic : Option Value → Option Value
  | some .none => none
  | answer => answer

/-- `apply_payload`: whether the payload is smaller than what the record has now. -/
def applyPayload (payload : Value) (st : BudgetState) : Bool × BudgetState :=
  let size := (record records index).chars host payload
  if size ≥ st.chars index then (false, st)
  else
    (true, { st with
      compactedPayloads := Assoc.set index payload st.compactedPayloads
      currentChars := st.currentChars.set index size })

/-- `apply_soft_compaction`. -/
def applySoftCompaction : Except ExecutionLeaseError BudgetState := do
  let (optimized, st) ← optimizerPayload host config call records index st
  let generic := compactPayloadForTarget host (record records index) call.reason
    config.previewChars none
  match semantic optimized with
  | none => return (applyPayload host records index generic st).2
  | some optimized =>
    let (applied, st) := applyPayload host records index optimized st
    if applied then return st
    else return (applyPayload host records index generic st).2

def applyFirst (index : Nat) : List Value → BudgetState → Bool × BudgetState
  | [], st => (false, st)
  | candidate :: candidates, st =>
    let (applied, st) := applyPayload host records index candidate st
    if applied then (true, st) else applyFirst index candidates st

/-- `apply_hard_compaction`. -/
def applyHardCompaction (targetChars : Int) (st : BudgetState) :
    Except ExecutionLeaseError (Bool × BudgetState) := do
  let (optimized, st) ← optimizerPayload host config call records index st
  let generic := compactPayloadForTarget host (record records index) call.reason
    config.previewChars (some targetChars)
  return applyFirst host records index
    (sortedBy ((record records index).chars host) ((semantic optimized).toList ++ [generic])) st

/-- The records that are too large by themselves. -/
def softPass : List Nat → BudgetState → Except ExecutionLeaseError BudgetState
  | [], st => .ok st
  | index :: rest, st =>
    if ((record records index).originalChars : Int) ≥ minCharsToBudget config ∧
        ((record records index).originalChars : Int) > maxResultChars config then do
      let st ← applySoftCompaction host config call records index st
      softPass rest st
    else softPass rest st

/-- What is left for a record when the others keep their sizes. -/
def targetChars : Int :=
  max 0 (maxBatchChars config - (st.total - st.chars index))

/-- One round over the records in the given order, until the batch is within its bound. -/
def hardPass : List Nat → BudgetState → (changed : Bool) →
    Except ExecutionLeaseError (BudgetState × Bool)
  | [], st, changed => .ok (st, changed)
  | index :: rest, st, changed =>
    if (st.total : Int) ≤ maxBatchChars config then .ok (st, changed)
    else do
      let (applied, st) ← applyHardCompaction host config call records index
        (targetChars config index st) st
      hardPass rest st (applied || changed)

def largestFirst : List Nat :=
  sortedBy (fun index => OrderDual.toDual (st.chars index)) (List.range records.length)

/-- The `while` loop. -/
def hardPasses (rounds : Nat) (st : BudgetState) : Option (Except ExecutionLeaseError BudgetState) :=
  repeatPass (fun st => decide ((st.total : Int) > maxBatchChars config))
    (fun st => hardPass host config call records (largestFirst records st) st false) rounds st

/-- The state when the records have been shrunk. Every round but the last makes the total smaller,
so there are no more rounds than characters. -/
def shrunkState : Option (Except ExecutionLeaseError BudgetState) :=
  match softPass host config call records (List.range records.length) (initialState records) with
  | .error e => some (.error e)
  | .ok st => hardPasses host config call records (st.total + 1) st

/-- The payloads that replaced the original ones, in the order in which they first did. -/
def writePayloads (messages : List Value) : List (Nat × Value) → List Value
  | [] => messages
  | (index, payload) :: rest =>
    writePayloads (writeRecordPayload host messages (record records index) payload) rest

/-- Whether what is written for the record has changed. -/
def isCompacted (index : Nat) : Bool :=
  let original := (record records index).payload
  let payload := (Assoc.get index st.compactedPayloads).getD original
  stableJsonDumps host (serializePayload host payload (record records index).payloadFormat) ≠
    stableJsonDumps host (serializePayload host original (record records index).payloadFormat)

def outcome : ToolResultBudgetOutcome :=
  let originalTotal := (records.map ResultRecord.originalChars).sum
  { messages := writePayloads host records call.resultMessages st.compactedPayloads
    stats := { resultCount := records.length
               compactedCount := (List.range records.length).countP (isCompacted host records st)
               optimizerErrorCount := st.optimizerErrorCount
               originalChars := originalTotal
               budgetedChars := st.total
               savedChars := originalTotal - st.total } }

end Run

variable (host : BudgetHost) (config : ToolResultBudgetConfig) (call : BudgetCall)

def BudgetCall.records : List ResultRecord :=
  collectResultRecords host call.resultMessages call.toolCalls

/-- `budget_messages`; `none` if the loop ran out of rounds. -/
def budgetMessages : Option (Except ExecutionLeaseError ToolResultBudgetOutcome) :=
  let records := call.records host
  if records.isEmpty then some (.ok ⟨call.resultMessages, ⟨0, 0, 0, 0, 0, 0⟩⟩)
  else
    (shrunkState host config call records).map fun result =>
      result.map (outcome host call records)

end Unchain.Tools.ResultBudget
