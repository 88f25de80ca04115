import Unchain.Interaction.Effects

/-!
Resuming a suspended run (`interaction/resume.py`): the plan read off a continuation, and the
fresh state it is written into.
-/

namespace Unchain.Interaction

open Lib Lib.Effect Python Kernel

/-- `_SUPPORTED_HUMAN_INPUT_RESUME_PROVIDERS`. -/
def supportedResumeProviders : List String :=
  ["openai", "anthropic", "ollama", "hyperspace", "gemini"]

structure ResponseFormat where
  name : String
  schema : Dict
  required : List Value

/-- The constructor of `ResponseFormat`. -/
def ResponseFormat.make (name : String) (schema : Dict) (required : List Value) :
    Except PyError ResponseFormat :=
  if name.isEmpty then .error (.valueError "response format name is required")
  else if required.isEmpty then do
    let required ← iterate ((Value.dict schema).getD "required" (.list []))
    return { name, schema, required }
  else .ok { name, schema, required }

/-- `_deserialize_response_format`. -/
def deserializeResponseFormat (raw : Value) : Except PyError (Option ResponseFormat) :=
  match raw.get "name", raw.get "schema" with
  | .str name, .dict schema => (ResponseFormat.make name schema (raw.get "required").items).map some
  | _, _ => .ok none

structure HumanInputResumePlan where
  conversation : List Value
  payload : Value
  responseFormat : Option ResponseFormat
  provider : String
  model : Option String
  sessionId : Option String
  memoryNamespace : Option String
  runId : String
  iteration : Int
  maxIterations : Int
  previousResponseId : Option String
  usePreviousResponseChain : Bool
  maxContextWindowTokens : Int
  consumedTokens : Int
  inputTokens : Int
  outputTokens : Int
  lastTurnTokens : Int
  lastTurnInputTokens : Int
  lastTurnOutputTokens : Int
  workspaceChangeState : Option Dict
  providerReplayFrame : Option Value
  providerReplayRequired : Bool

/-- `_optional_str`. -/
def optionalStr : Value → Option String
  | .str s => some s
  | _ => none

/-- `_int_from_continuation`. -/
def intFromContinuation (continuation : Dict) (key : String) (default : Int) :
    Except PyError Int :=
  (((Value.dict continuation).get key).or (.int default)).toInt

/-- What the caller of a resume passes besides the continuation. -/
structure ResumeArguments where
  conversation : List Value
  payload : Option Dict
  responseFormat : Option ResponseFormat
  fallbackProvider : Option String
  fallbackModel : Option String
  sessionId : Option String
  memoryNamespace : Option String
  runId : Option String
  /-- The id the factory makes, if one is needed. -/
  generatedRunId : String

section Plan

variable (host : InteractionHost) (args : ResumeArguments) (continuation : Dict)

def resolveProvider : Except PyError String :=
  let provider := ((((Value.dict continuation).get "provider").or
    (textOrNone args.fallbackProvider)).or (.str "")).toStr host.display
  if provider ∈ supportedResumeProviders then .ok provider
  else .error (.notImplementedError
    ("human input resume currently supports only provider in "
      ++ "\x7b'openai', 'anthropic', 'ollama', 'hyperspace'\x7d, got " ++ host.repr (.str provider)))

/-- The caller must not name another session. -/
def checkSession : Except PyError Unit :=
  raiseIf (match optionalStr ((Value.dict continuation).get "session_id"), args.sessionId with
      | some expected, some given => given ≠ expected
      | _, _ => false)
    (.valueError "resume_human_input requires the same session_id as the suspended run")

def resolveFrame : Except PyError (Option Value) :=
  let raw := (Value.dict continuation).get "provider_replay_frame"
  if raw.isDict then do
    let frame ← validateProviderReplayFrame raw
    let frame ← validateProviderReplayFrame frame
    return some frame
  else match loadProviderReplayHandle ((Value.dict continuation).get "provider_replay_handle") with
    | none => .ok none
    | some frame => (validateProviderReplayFrame frame).map some

/-- `continuation.get("payload") or {}`. -/
def resolvePayload : Value :=
  match args.payload with
  | some payload => .dict payload
  | none => ((Value.dict continuation).get "payload").or (.dict [])

def resolveResponseFormat : Except PyError (Option ResponseFormat) :=
  match args.responseFormat with
  | some format => .ok (some format)
  | none => deserializeResponseFormat ((Value.dict continuation).get "response_format")

/-- `_optional_str(...) or fallback`. -/
def orFallback (text fallback : Option String) : Option String :=
  match text with
  | some s => if s.isEmpty then fallback else some s
  | none => fallback

/-- `str(run_id or continuation.get("run_id") or run_id_factory())`. -/
def resolveRunId : String :=
  (((textOrNone args.runId).or ((Value.dict continuation).get "run_id")).or
    (.str args.generatedRunId)).toStr host.display

/-- A dictionary is kept, anything else counts as none. -/
def dictOrNone : Value → Option Dict
  | .dict es => some es
  | _ => none

/-- `prepare_human_input_resume_plan`. -/
def prepareHumanInputResumePlan : Except PyError HumanInputResumePlan := do
  let c := Value.dict continuation
  let provider ← resolveProvider host args continuation
  checkSession args continuation
  let frame ← resolveFrame continuation
  let responseFormat ← resolveResponseFormat args continuation
  let iteration ← intFromContinuation continuation "iteration" 0
  let maxIterations ← intFromContinuation continuation "max_iterations" 6
  let window ← intFromContinuation continuation "max_context_window_tokens" 0
  let consumedTokens ← intFromContinuation continuation "consumed_tokens" 0
  let inputTokens ← intFromContinuation continuation "input_tokens" 0
  let outputTokens ← intFromContinuation continuation "output_tokens" 0
  let lastTurnTokens ← intFromContinuation continuation "last_turn_tokens" 0
  let lastTurnInputTokens ← intFromContinuation continuation "last_turn_input_tokens" 0
  let lastTurnOutputTokens ← intFromContinuation continuation "last_turn_output_tokens" 0
  let useChain := (c.getD "use_openai_previous_response_chain" (.bool false)).truthy
  return {
    conversation := args.conversation
    payload := resolvePayload args continuation
    responseFormat, provider
    model := orFallback (optionalStr (c.get "model")) args.fallbackModel
    sessionId := args.sessionId.or (optionalStr (c.get "session_id"))
    memoryNamespace := args.memoryNamespace.or (optionalStr (c.get "memory_namespace"))
    runId := resolveRunId host args continuation
    iteration, maxIterations
    previousResponseId := optionalStr (c.get "previous_response_id")
    usePreviousResponseChain := useChain
    maxContextWindowTokens := max 0 window
    consumedTokens, inputTokens, outputTokens, lastTurnTokens, lastTurnInputTokens
    lastTurnOutputTokens
    workspaceChangeState := dictOrNone (c.get "workspace_change_state")
    providerReplayFrame := frame
    providerReplayRequired := (c.get "provider_replay_handle").truthy
      || (useChain && (c.get "previous_response_id").truthy) }

end Plan

/-! ### Hydration -/

section Hydrate

variable (env : KernelEnv)

/-- Assign one attribute of the record in `field`. -/
def assign (field : Field) (name : String) (v : Value) : RunM Unit := do
  let record ← readField field
  let record ← lift (setattr env.toEnv record name v)
  writeField field record

variable (plan : HumanInputResumePlan)

def hydrateProvider : RunM Unit := do
  assign env .providerState "provider" (.str plan.provider)
  assign env .providerState "model" (textOrNone plan.model)
  assign env .providerState "max_context_window_tokens" (.int plan.maxContextWindowTokens)

def hydrateSession : RunM Unit := do
  assign env .sessionState "session_id" (textOrNone plan.sessionId)
  assign env .sessionState "memory_namespace" (textOrNone plan.memoryNamespace)

def hydrateChain : RunM Unit := do
  assign env .providerState "previous_response_id" (textOrNone plan.previousResponseId)
  assign env .providerState "use_previous_response_chain" (.bool plan.usePreviousResponseChain)

def hydrateTokens : RunM Unit := do
  assign env .tokenState "consumed_tokens" (.int plan.consumedTokens)
  assign env .tokenState "input_tokens" (.int plan.inputTokens)
  assign env .tokenState "output_tokens" (.int plan.outputTokens)
  assign env .tokenState "last_turn_tokens" (.int plan.lastTurnTokens)
  assign env .tokenState "last_turn_input_tokens" (.int plan.lastTurnInputTokens)
  assign env .tokenState "last_turn_output_tokens" (.int plan.lastTurnOutputTokens)

def hydrateWorkspace : RunM Unit :=
  match plan.workspaceChangeState with
  | none => pure ()
  | some state => do
    writeField .workspaceChangeState (.dict state)
    setInBucket "workspace_changes" "state" (.dict state)

def hydrateFrame : RunM Unit :=
  match plan.providerReplayFrame with
  | some frame => do
    let validated ← lift (validateProviderReplayFrame frame)
    setInBucket "provider_replay" "frame" validated
  | none =>
    if plan.providerReplayRequired then setMetadata "provider_replay_required" (.bool true)
    else pure ()

/-- `hydrate_human_input_resume_state`. -/
def hydrateHumanInputResumeState : RunM Unit := do
  hydrateProvider env plan
  hydrateSession env plan
  writeField .iteration (.int plan.iteration)
  hydrateChain env plan
  hydrateTokens env plan
  hydrateWorkspace plan
  hydrateFrame plan
  writeField .runStatus (.str "running")

/-- The state part of `prepare_resume_run_invocation`: a fresh state is seeded with the conversation
and hydrated from the plan. -/
def resumeState (seedVersion : VersionId) : RunM Unit := do
  let _ ← seedMessages env plan.conversation "seed" [] seedVersion
  hydrateHumanInputResumeState env plan

end Hydrate

end Unchain.Interaction
