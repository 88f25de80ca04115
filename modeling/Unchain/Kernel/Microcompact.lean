import Unchain.Kernel.State
import Mathlib.Algebra.Ring.Nat

/-!
Mid-run microcompaction (`kernel/microcompact.py`).

The harness looks for large tool results in the transcript, leaves out those it
must protect, and shortens the others both in the transcript and in the input
of the next model call. A result is known by its `Identity`: its call id with
the number of earlier results of that id, or its position when it has no id.
Identities are computed in each list on its own, while the selection is made in
the transcript alone.

How a single result is shortened is up to the budget controller
(`tools/result_budget.py` with the toolkit's own optimizers), a parameter here.
-/

namespace Unchain.Kernel.Microcompact

open Python Lib Kernel

structure TextEnv where
  display : Display
  /-- `_stable_json_dumps`. -/
  stableJsonDumps : Value → String
  /-- `json.loads`, or nothing when it raises. -/
  loads : String → Option Value
  /-- Different strings have different dumps. -/
  dumps_str : ∀ s t, stableJsonDumps (.str s) = stableJsonDumps (.str t) → s = t

structure Config where
  enabled : Bool
  triggerContextRatio : PyFloat
  triggerRemainingTokens : Int
  keepRecentCompletedTurns : Int
  compactCurrentBatch : Bool
  minSavingsChars : Int
  maxCompactedResultChars : Int
  previewChars : Int

structure ToolCall where
  callId : String
  name : String

/-! ### Results and their identities -/

/-- Where in a message a payload stands. -/
inductive Slot where
  /-- The `output` of a `function_call_output` item. -/
  | output
  /-- The `content` of the `tool_result` block at an index. -/
  | block (index : Nat)
  /-- The `content` of a message with role `tool`. -/
  | content
  /-- The `response` of the `function_response` part at an index. -/
  | part (index : Nat)
deriving DecidableEq

structure ResultRecord where
  messageIndex : Nat
  slot : Slot
  callId : String
  callOccurrence : Nat
  toolName : String
  payload : Value
  originalChars : Nat

inductive Identity where
  | call (callId : String) (occurrence : Nat)
  | location (messageIndex : Nat) (slot : Slot)
deriving DecidableEq

def ResultRecord.identity (record : ResultRecord) : Identity :=
  if record.callId ≠ "" then .call record.callId record.callOccurrence
  else .location record.messageIndex record.slot

section Collect

variable (text : TextEnv)

def payloadChars : Value → Nat
  | .str s => s.length
  | v => (text.stableJsonDumps v).length

/-- The text starts like a JSON array or object. -/
def opensJson (s : String) : Bool :=
  match stripChars s.toList with
  | c :: _ => c.toNat = 0x5B || c.toNat = 0x7B
  | [] => false

def parsedPayload (payload : Value) : Value :=
  match payload with
  | .str s => if opensJson s then (text.loads (strip s)).getD payload else payload
  | _ => payload

def isCompactedPayload (payload : Value) : Bool :=
  Assoc.get "compacted" (parsedPayload text payload).entries == some (.bool true)

/-- `str(value or "")`. -/
def orEmpty (value : Value) : String := (value.or (.str "")).toStr text.display

def toolCallFromAny : Value → Option ToolCall
  | .obj .toolCall attrs =>
    some
      { callId := ((Assoc.get "call_id" attrs).getD .none).toStr text.display
        name := ((Assoc.get "name" attrs).getD .none).toStr text.display }
  | .dict es =>
    let value := Value.dict es
    let callId := ((value.get "call_id").or (value.get "id")).or (value.get "tool_call_id")
    let name :=
      if !(value.get "name").truthy && (value.get "function").isDict then
        (value.get "function").get "name"
      else value.get "name"
    if !callId.truthy && !name.truthy then none
    else some { callId := orEmpty text callId, name := orEmpty text name }
  | _ => none

/-- The current batch, from the `tool_calls` of the event. -/
def eventToolCalls (rawCalls : Value) : List ToolCall := rawCalls.items.filterMap (toolCallFromAny text)

def setDefault (names : List (String × String)) (call : ToolCall) : List (String × String) :=
  if call.callId = "" ∨ call.name = "" ∨ Assoc.has call.callId names then names
  else names ++ [(call.callId, call.name)]

/-- The calls a message makes, in the order they are read. -/
def messageCalls (message : Value) : List ToolCall :=
  (if (message.get "type").eqPy (.str "function_call") then
    [{ callId := orEmpty text ((message.get "call_id").or (message.get "id"))
       name := orEmpty text (message.get "name") }]
    else [])
  ++ (message.get "tool_calls").items.filterMap (toolCallFromAny text)
  ++ ((message.get "content").items.filter (isBlockOf "tool_use")).map (fun block =>
      { callId := orEmpty text (block.get "id"), name := orEmpty text (block.get "name") })
  ++ ((message.get "parts").items.filter fun part => (part.get "function_call").isDict).map
      fun part =>
        { callId := orEmpty text (((part.get "function_call").get "id").or (part.get "id"))
          name := orEmpty text ((part.get "function_call").get "name") }

def toolCallNames (messages : List Value) (extraToolCalls : List ToolCall) :
    List (String × String) :=
  let known := extraToolCalls.filter fun call => call.callId ≠ "" && call.name ≠ ""
  let names := known.foldl (fun names call => Assoc.set call.callId call.name names) []
  ((messages.filter Value.isDict).flatMap (messageCalls text)).foldl setDefault names

/-- A result as it stands in its message. -/
structure RawResult where
  slot : Slot
  callId : String
  toolName : String
  payload : Value

/-- The `tool_result` block at an index of the content. -/
def blockResult (entry : Value × Nat) : Option RawResult :=
  if isBlockOf "tool_result" entry.1 then
    some
      { slot := .block entry.2
        callId := orEmpty text (entry.1.get "tool_use_id")
        toolName := ""
        payload := entry.1.getD "content" (.str "") }
  else none

/-- The `function_response` part at an index of the parts. -/
def partResult (entry : Value × Nat) : Option RawResult :=
  match entry.1.get "function_response" with
  | .dict response =>
    some
      { slot := .part entry.2
        callId := orEmpty text (((Value.dict response).get "id").or (entry.1.get "id"))
        toolName := orEmpty text ((Value.dict response).get "name")
        payload := (Value.dict response).getD "response" (.dict []) }
  | _ => none

def rawResults (message : Value) : List RawResult :=
  if !message.isDict then []
  else
    (if (message.get "type").eqPy (.str "function_call_output") then
      [{ slot := .output
         callId := orEmpty text (message.get "call_id")
         toolName := ""
         payload := message.getD "output" (.str "") }]
      else [])
    ++ (message.get "content").items.zipIdx.filterMap (blockResult text)
    ++ (if hasRole "tool" message && message.hasKey "content" then
      [{ slot := .content
         callId := orEmpty text (message.get "tool_call_id")
         toolName := ""
         payload := message.getD "content" (.str "") }]
      else [])
    ++ (message.get "parts").items.zipIdx.filterMap (partResult text)

def appendRecords (names : List (String × String)) :
    (occurrences : List (String × Nat)) → List (Nat × RawResult) → List ResultRecord
  | _, [] => []
  | occurrences, (index, raw) :: rest =>
    let occurrence := (Assoc.get raw.callId occurrences).getD 0 + 1
    { messageIndex := index
      slot := raw.slot
      callId := raw.callId
      callOccurrence := occurrence
      toolName := if raw.toolName ≠ "" then raw.toolName
        else (Assoc.get raw.callId names).getD ""
      payload := raw.payload
      originalChars := payloadChars text raw.payload }
    :: appendRecords names (Assoc.set raw.callId occurrence occurrences) rest

def collectResultRecords (messages : List Value) (toolCalls : List ToolCall) :
    List ResultRecord :=
  appendRecords text (toolCallNames text messages toolCalls) []
    (messages.zipIdx.flatMap fun entry => (rawResults text entry.1).map fun raw => (entry.2, raw))

end Collect

/-! ### Tool turns -/

def isToolCallMessage (message : Value) : Bool :=
  (message.get "type").eqPy (.str "function_call")
    || (message.get "tool_calls").items.any Value.isDict
    || (message.get "content").items.any (isBlockOf "tool_use")
    || (message.get "parts").items.any fun part => (part.get "function_call").isDict

def isToolResultMessage (message : Value) : Bool :=
  (message.get "type").eqPy (.str "function_call_output")
    || (hasRole "tool" message && message.hasKey "content")
    || (message.get "content").items.any (isBlockOf "tool_result")
    || (message.get "parts").items.any fun part => (part.get "function_response").isDict

structure TurnState where
  turns : List (List Identity)
  current : Option (List Identity)

def TurnState.close (s : TurnState) : TurnState :=
  match s.current with
  | some (identity :: identities) =>
    { turns := s.turns ++ [identity :: identities], current := none }
  | _ => { s with current := none }

def turnStep (records : List ResultRecord) (s : TurnState) (entry : Value × Nat) : TurnState :=
  let (message, index) := entry
  if !message.isDict then s
  else
    let isResult := isToolResultMessage message
    let s :=
      if isToolCallMessage message then { s.close with current := some [] }
      else if (hasRole "assistant" message || hasRole "user" message) && !isResult then s.close
      else s
    if !isResult then s
    else
      let own := (records.filter fun record => record.messageIndex = index).map
        ResultRecord.identity
      { s with current := some (s.current.getD [] ++ own) }

def completedToolTurnIdentities (messages : List Value) (records : List ResultRecord) :
    List (List Identity) :=
  (messages.zipIdx.foldl (turnStep records) { turns := [], current := none }).close.turns

/-! ### Selection -/

section Select

variable (config : Config) (messages : List Value) (records : List ResultRecord)
  (toolCalls : List ToolCall)

def protectedIdentities : List Identity :=
  let keepCount := config.keepRecentCompletedTurns.toNat
  let turns := completedToolTurnIdentities messages records
  (turns.drop (turns.length - keepCount)).flatten
    ++ (if !config.compactCurrentBatch && !toolCalls.isEmpty then
      (turns.drop (turns.length - 1)).flatten else [])

def isCurrent (record : ResultRecord) : Bool :=
  record.callId ≠ "" && toolCalls.any fun call => call.callId = record.callId

def isCandidate (text : TextEnv) (record : ResultRecord) : Bool :=
  !(protectedIdentities config messages records toolCalls).contains record.identity
    && !(!config.compactCurrentBatch && isCurrent toolCalls record)
    && !isCompactedPayload text record.payload
    && 0 < record.originalChars - config.maxCompactedResultChars

def selectCandidateIdentities (text : TextEnv) : List Identity × Int :=
  let candidates := records.filter (isCandidate config messages records toolCalls text)
  (candidates.map ResultRecord.identity,
    (candidates.map fun record => record.originalChars - config.maxCompactedResultChars).sum)

end Select

/-! ### Compaction -/

/-- What the budget controller is asked to shorten. -/
structure BudgetRequest where
  maxResultChars : Int
  maxBatchChars : Int
  previewChars : Int
  provider : String
  toolCall : ToolCall
  resultMessages : List Value
  sessionId : String
  latestMessages : List Value

structure BudgetOutcome where
  messages : List Value
  compactedCount : Int
  optimizerErrorCount : Int
  budgetedChars : Int
  savedChars : Int

/-- `ToolResultBudgetController.budget_messages` with the toolkit of the event; an
optimizer that lost its lease makes it raise. -/
abbrev BudgetController := BudgetRequest → Except PyError BudgetOutcome

/-- What the harness reads of the run state and the event. -/
structure HarnessInput where
  transcript : List Value
  nextModelInput : Value
  latestMessages : List Value
  latestVersionId : Option VersionId
  maxContextWindowTokens : Int
  provider : String
  sessionId : String
  toolCalls : Value

def syntheticMessage (record : ResultRecord) : Value :=
  match record.slot with
  | .output => .dict [("type", .str "function_call_output"), ("call_id", .str record.callId),
      ("output", record.payload)]
  | .block _ => .dict [("role", .str "user"), ("content", .list [.dict
      [("type", .str "tool_result"), ("tool_use_id", .str record.callId),
        ("content", record.payload)]])]
  | .content => .dict [("role", .str "tool"), ("tool_call_id", .str record.callId),
      ("content", record.payload)]
  | .part _ => .dict [("role", .str "user"), ("parts", .list [.dict [("function_response", .dict
      ([("name", .str record.toolName), ("response", record.payload)]
        ++ if record.callId ≠ "" then [("id", .str record.callId)] else []))]])]

def syntheticPayload (slot : Slot) (message : Value) : Value :=
  match slot with
  | .output => message.getD "output" (.str "")
  | .block _ =>
    match (message.get "content").items with
    | block :: _ => if block.isDict then block.getD "content" (.str "") else .str ""
    | [] => .str ""
  | .content => message.getD "content" (.str "")
  | .part _ =>
    match (message.get "parts").items with
    | part :: _ =>
      if (part.get "function_response").isDict then
        (part.get "function_response").getD "response" (.dict [])
      else .dict []
    | [] => .dict []

/-- Replace the payload in a slot; a slot that is gone is left alone. -/
def writeSlot (message : Value) (slot : Slot) (payload : Value) : Value :=
  match slot with
  | .output => message.setKey "output" payload
  | .block k =>
    match message.get "content" with
    | .list blocks =>
      message.setKey "content" (.list (blocks.modify k fun block => block.setKey "content" payload))
    | _ => message
  | .content => message.setKey "content" payload
  | .part k =>
    match message.get "parts" with
    | .list parts =>
      message.setKey "parts" (.list (parts.modify k fun part =>
        match part.get "function_response" with
        | .dict response =>
          part.setKey "function_response" (.dict (Assoc.set "response" payload response))
        | _ => part))
    | _ => message

def writeRecordPayload (messages : List Value) (record : ResultRecord) (payload : Value) :
    List Value :=
  messages.modify record.messageIndex fun message => writeSlot message record.slot payload

structure Compacted where
  payload : Value
  errors : Int
  budgetedChars : Int
  savedChars : Int

section Compact

variable (text : TextEnv) (budget : BudgetController) (config : Config) (input : HarnessInput)
  (latestMessages : List Value)

def compactRecord (record : ResultRecord) : Except PyError (Option Compacted) := do
  let outcome ← budget
    { maxResultChars := max 1 config.maxCompactedResultChars
      maxBatchChars := max 1 config.maxCompactedResultChars
      previewChars := max 0 config.previewChars
      provider := input.provider
      toolCall := { callId := record.callId, name := record.toolName }
      resultMessages := [syntheticMessage record]
      sessionId := input.sessionId
      latestMessages := latestMessages }
  match outcome.messages with
  | [] => return none
  | message :: _ =>
    let payload := syntheticPayload record.slot message
    if outcome.compactedCount ≤ 0
        || text.stableJsonDumps payload = text.stableJsonDumps record.payload then return none
    else
      return some
        { payload := payload
          errors := outcome.optimizerErrorCount
          budgetedChars := outcome.budgetedChars
          savedChars := outcome.savedChars }

structure CompactOutcome where
  messages : List Value
  resultCount : Int
  compactedCount : Int
  optimizerErrorCount : Int
  originalChars : Int
  budgetedChars : Int
  savedChars : Int

/-- One candidate of the loop. -/
def compactStep (acc : CompactOutcome) (record : ResultRecord) :
    Except PyError CompactOutcome := do
  let acc :=
    { acc with
      resultCount := acc.resultCount + 1
      originalChars := acc.originalChars + record.originalChars }
  match ← compactRecord text budget config input latestMessages record with
  | none => return { acc with budgetedChars := acc.budgetedChars + record.originalChars }
  | some compacted =>
    return { acc with
      messages := writeRecordPayload acc.messages record compacted.payload
      compactedCount := acc.compactedCount + 1
      optimizerErrorCount := acc.optimizerErrorCount + compacted.errors
      budgetedChars := acc.budgetedChars + max 0 compacted.budgetedChars
      savedChars := acc.savedChars + max 0 compacted.savedChars }

def selectedRecords (messages : List Value) (candidates : List Identity)
    (toolCalls : List ToolCall) : List ResultRecord :=
  (collectResultRecords text messages toolCalls).filter fun record =>
    candidates.contains record.identity

def compactMessages (messages : List Value) (candidates : List Identity)
    (toolCalls : List ToolCall) : Except PyError CompactOutcome :=
  (selectedRecords text messages candidates toolCalls).foldlM
    (compactStep text budget config input latestMessages)
    { messages := messages
      resultCount := 0
      compactedCount := 0
      optimizerErrorCount := 0
      originalChars := 0
      budgetedChars := 0
      savedChars := 0 }

end Compact

/-! ### The harness -/

/-- The arithmetic of floats the pressure needs. -/
structure RatioEnv where
  /-- `estimated_tokens / context_window`. -/
  ratio : (estimatedTokens : Nat) → (contextWindow : Int) → PyFloat
  /-- `ratio >= threshold`. -/
  reaches : PyFloat → PyFloat → Bool

def dictsOf (messages : List Value) : List Value := messages.filter Value.isDict

def messageChars (text : TextEnv) (messages : List Value) : Nat :=
  ((dictsOf messages).map fun message => (text.stableJsonDumps message).length).sum

structure Pressure where
  sourceChars : Nat
  estimatedTokens : Nat
  maxContextWindowTokens : Int
  contextRatio : PyFloat
  remainingTokens : Int
  triggeredByContextRatio : Bool
  triggeredByRemainingTokens : Bool

def Pressure.triggered (p : Pressure) : Bool :=
  p.triggeredByContextRatio || p.triggeredByRemainingTokens

def estimatePressure (text : TextEnv) (ratios : RatioEnv) (config : Config)
    (messages : List Value) (maxTokens : Int) : Pressure :=
  let sourceChars := messageChars text messages
  let estimatedTokens := (sourceChars + 3) / 4
  let contextWindow := max 0 maxTokens
  if contextWindow ≤ 0 then
    { sourceChars := sourceChars
      estimatedTokens := estimatedTokens
      maxContextWindowTokens := contextWindow
      contextRatio := .ofInt 0
      remainingTokens := 0
      triggeredByContextRatio := false
      triggeredByRemainingTokens := false }
  else
    { sourceChars := sourceChars
      estimatedTokens := estimatedTokens
      maxContextWindowTokens := contextWindow
      contextRatio := ratios.ratio estimatedTokens contextWindow
      remainingTokens := contextWindow - estimatedTokens
      triggeredByContextRatio :=
        ratios.reaches (ratios.ratio estimatedTokens contextWindow) config.triggerContextRatio
      triggeredByRemainingTokens :=
        contextWindow - estimatedTokens ≤ config.triggerRemainingTokens }

section Harness

variable (text : TextEnv) (budget : BudgetController) (ratios : RatioEnv) (config : Config)
  (input : HarnessInput)

def HarnessInput.messages : List Value := dictsOf input.transcript

def HarnessInput.batch : List ToolCall := eventToolCalls text input.toolCalls

def HarnessInput.records : List ResultRecord :=
  collectResultRecords text input.messages (input.batch text)

def candidatesOf : List Identity × Int :=
  selectCandidateIdentities config input.messages (input.records text) (input.batch text) text

def pressureOf : Pressure :=
  let source := match input.nextModelInput with
    | .list messages => messages
    | _ => input.transcript
  estimatePressure text ratios config source input.maxContextWindowTokens

def stateUpdatesOf (transcript : CompactOutcome) (nextInput : Option CompactOutcome)
    (stats : Dict) : Dict :=
  [("transcript", .list transcript.messages)]
    ++ (match nextInput with
      | some outcome => [("next_model_input", .list outcome.messages)]
      | none => [])
    ++ [("optimizer_state", .dict [("mid_run_microcompact", .dict stats)])]

def statsOf (candidates : List Identity × Int) (pressure : Pressure)
    (transcript : CompactOutcome) : Dict :=
  [("result_count", .int transcript.resultCount), ("candidate_count", .int candidates.1.length),
    ("compacted_count", .int transcript.compactedCount),
    ("optimizer_error_count", .int transcript.optimizerErrorCount),
    ("original_chars", .int transcript.originalChars),
    ("budgeted_chars", .int transcript.budgetedChars), ("saved_chars", .int transcript.savedChars),
    ("estimated_source_chars", .int pressure.sourceChars),
    ("estimated_source_tokens", .int pressure.estimatedTokens),
    ("max_context_window_tokens", .int pressure.maxContextWindowTokens),
    ("context_ratio", .float pressure.contextRatio),
    ("remaining_tokens", .int pressure.remainingTokens),
    ("triggered_by_context_ratio", .bool pressure.triggeredByContextRatio),
    ("triggered_by_remaining_tokens", .bool pressure.triggeredByRemainingTokens),
    ("triggered_by_large_history_savings", .bool (config.minSavingsChars ≤ candidates.2))]

def traceOf (candidates : List Identity × Int) (pressure : Pressure)
    (transcript : CompactOutcome) (nextInput : Option CompactOutcome) : Dict :=
  [("harness", .str "mid_run_microcompact"), ("candidate_count", .int candidates.1.length),
    ("compacted_count", .int transcript.compactedCount),
    ("saved_chars", .int transcript.savedChars),
    ("estimated_candidate_savings", .int candidates.2),
    ("source_chars", .int pressure.sourceChars),
    ("estimated_source_tokens", .int pressure.estimatedTokens),
    ("context_ratio", .float pressure.contextRatio),
    ("remaining_tokens", .int pressure.remainingTokens),
    ("next_model_input_compacted_count",
      .int ((nextInput.map CompactOutcome.compactedCount).getD 0))]

/-- `context.latest_messages() or transcript`. -/
def HarnessInput.contextMessages : List Value :=
  if input.latestMessages.isEmpty then input.messages else input.latestMessages

def compactTranscript : Except PyError CompactOutcome :=
  compactMessages text budget config input input.contextMessages input.messages
    (candidatesOf text config input).1 (input.batch text)

def compactNextInput : Except PyError (Option CompactOutcome) :=
  match input.nextModelInput with
  | .list messages =>
    (compactMessages text budget config input input.contextMessages messages
      (candidatesOf text config input).1 (input.batch text)).map some
  | _ => .ok none

def deltaOf (transcript : CompactOutcome) (nextInput : Option CompactOutcome) : HarnessDelta :=
  let candidates := candidatesOf text config input
  let pressure := pressureOf text ratios config input
  { createdBy := "harness.mid_run_microcompact"
    baseVersionId := none
    rebaseToLatest := true
    ops := if input.latestVersionId.isSome then
      [.replaceSpan 0 input.contextMessages.length transcript.messages] else []
    stateUpdates := stateUpdatesOf transcript nextInput
      (statsOf config candidates pressure transcript)
    trace := traceOf candidates pressure transcript nextInput
    suspend := none }

def buildDelta : Except PyError (Option HarnessDelta) := do
  let candidates := candidatesOf text config input
  if !config.enabled || candidates.1.isEmpty then return none
  else if !(pressureOf text ratios config input).triggered
      && candidates.2 < config.minSavingsChars then return none
  else
    let transcript ← compactTranscript text budget config input
    if transcript.compactedCount ≤ 0 || transcript.savedChars < config.minSavingsChars then
      return none
    else
      let nextInput ← compactNextInput text budget config input
      return some (deltaOf text ratios config input transcript nextInput)

end Harness

end Unchain.Kernel.Microcompact
