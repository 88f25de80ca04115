import Unchain.Interaction.Resume
import Unchain.Kernel.ApplyDelta

/-!
What a suspension and its resumption keep of a run.

A continuation `Carries` the accounting of the run it suspends. JSON data comes back from JSON as
it was; a replay handle comes back without its frame. So a resumed run has the accounting that was
carried, and where the suspended run had a replay frame it is told that one is required.
-/

namespace Unchain.Interaction

open Lib Lib.Effect Python Kernel

/-! ### JSON and back -/

structure ReadsFloats (display : Display) (parseFloat : List Char → PyFloat) : Prop where
  finite : ∀ x : PyFloat, x.isFinite = true →
    parseFloat (display (.float x)).toList = x
  nan : parseFloat "NaN".toList = .nan
  infinity : parseFloat "Infinity".toList = .inf false
  negInfinity : parseFloat "-Infinity".toList = .inf true

mutual

def JsonData : Value → Prop
  | .list items => JsonItems items
  | .dict es => (Assoc.keys es).Nodup ∧ JsonEntries es
  | .obj _ _ => False
  | _ => True

def JsonItems : List Value → Prop
  | [] => True
  | v :: vs => JsonData v ∧ JsonItems vs

def JsonEntries : List (String × Value) → Prop
  | [] => True
  | (_, v) :: es => JsonData v ∧ JsonEntries es

end

section Json

variable {display : Display} {parseFloat : List Char → PyFloat}

/-- An entry and what comes back of it. -/
def Returned (display : Display) (parseFloat : List Char → PyFloat)
    (e f : String × Value) : Prop :=
  f.1 = e.1 ∧ throughJson display parseFloat e.2 = .ok f.2

variable {es : Dict}

/-- Members with new names are read behind the entries that are already there. -/
theorem membersOfJson_fresh {ms : List (List Char × Json)} (acc : Dict)
    (written : entriesToJson display dumpsFallback es = .ok ms)
    (nodup : (Assoc.keys (acc ++ es)).Nodup) : ∃ fs, membersOfJson parseFloat ms acc = acc ++ fs ∧
      List.Forall₂ (Returned display parseFloat) es fs := by
  induction es generalizing ms acc with
  | nil =>
    cases written
    exact ⟨[], by simp [membersOfJson], .nil⟩
  | cons e es ih =>
    obtain ⟨name, v⟩ := e
    simp only [entriesToJson, bind_iff, pure_iff] at written
    obtain ⟨j, here, js, later, rfl⟩ := written
    have fresh : name ∉ Assoc.keys acc := by
      intro mem
      simp only [Assoc.keys, List.map_append, List.map_cons] at nodup
      exact List.disjoint_of_nodup_append nodup mem (by simp)
    have placed : Assoc.set name (Value.ofJson parseFloat j) acc
        = acc ++ [(name, Value.ofJson parseFloat j)] := Assoc.set_of_not_mem _ fresh
    have nodup' : (Assoc.keys ((acc ++ [(name, Value.ofJson parseFloat j)]) ++ es)).Nodup := by
      simpa [Assoc.keys] using nodup
    obtain ⟨fs, eq, returned⟩ := ih _ later nodup'
    refine ⟨(name, Value.ofJson parseFloat j) :: fs, ?_, .cons ⟨rfl, ?_⟩ returned⟩
    · rw [membersOfJson, String.ofList_toList, placed, eq]
      simp
    · rw [throughJson, here]
      rfl

variable {v : Value}

theorem throughJson_dict (h : throughJson display parseFloat (.dict es) = .ok v)
    (nodup : (Assoc.keys es).Nodup) :
    ∃ fs, v = .dict fs ∧ List.Forall₂ (Returned display parseFloat) es fs := by
  rw [throughJson, Value.toJson] at h
  cases written : entriesToJson display dumpsFallback es with
  | error e =>
    rw [written] at h
    cases h
  | ok ms =>
    rw [written] at h
    obtain ⟨fs, eq, returned⟩ := membersOfJson_fresh [] written (by simpa using nodup)
    refine ⟨fs, ?_, returned⟩
    cases h
    rw [Value.ofJson, eq]
    rfl

theorem throughJson_list {vs : List Value} (h : throughJson display parseFloat (.list vs) = .ok v) :
    ∃ ws, v = .list ws ∧
      List.Forall₂ (fun a b => throughJson display parseFloat a = .ok b) vs ws := by
  rw [throughJson, Value.toJson] at h
  suffices ∀ js, itemsToJson display dumpsFallback vs = .ok js →
      List.Forall₂ (fun a b => throughJson display parseFloat a = .ok b) vs
        (itemsOfJson parseFloat js) by
    cases written : itemsToJson display dumpsFallback vs with
    | error e =>
      rw [written] at h
      cases h
    | ok js =>
      rw [written] at h
      cases h
      exact ⟨_, rfl, this js written⟩
  clear h
  induction vs with
  | nil =>
    intro js written
    cases written
    exact .nil
  | cons a vs ih =>
    intro js written
    simp only [itemsToJson, bind_iff, pure_iff] at written
    obtain ⟨j, here, rest, later, rfl⟩ := written
    refine .cons ?_ (ih rest later)
    rw [throughJson, here]
    rfl

theorem throughJson_float (reads : ReadsFloats display parseFloat) {x : PyFloat}
    (h : throughJson display parseFloat (.float x) = .ok v) : v = .float x := by
  cases x with
  | finite m e | negZero =>
    cases h
    rw [Value.ofJson, reads.finite _ rfl]
  | inf negative =>
    cases negative with
    | true =>
      cases h
      rw [Value.ofJson, if_pos rfl, reads.negInfinity]
    | false =>
      cases h
      rw [Value.ofJson, if_neg (by simp), reads.infinity]
  | nan =>
    cases h
    rw [Value.ofJson, reads.nan]

theorem throughJson_data (reads : ReadsFloats display parseFloat) (v : Value) :
    JsonData v → ∀ w, throughJson display parseFloat v = .ok w → w = v := by
  induction v using Value.deepInduction with
  | none | bool b =>
    intro _ w h
    cases h
    rfl
  | int n =>
    intro _ w h
    rw [throughJson, Value.toJson, intDigits] at h
    split at h
    · cases h
      rfl
    · cases h
  | float x => exact fun _ w h => throughJson_float reads h
  | str s =>
    intro _ w h
    cases h
    rw [Value.ofJson, String.ofList_toList]
  | list xs ih =>
    intro data w h
    obtain ⟨ws, rfl, items⟩ := throughJson_list h
    have data' : JsonItems xs := data
    congr 1
    clear h data
    induction items with
    | nil => rfl
    | cons here _ rest =>
      rw [ih _ (by simp) data'.1 _ here, rest (fun x mem => ih x (by simp [mem])) data'.2]
  | dict es ih =>
    intro data w h
    obtain ⟨nodup, data'⟩ : (Assoc.keys es).Nodup ∧ JsonEntries es := data
    obtain ⟨fs, rfl, entries⟩ := throughJson_dict h nodup
    congr 1
    clear h nodup
    induction entries with
    | nil => rfl
    | @cons e f es fs here _ rest =>
      have value := ih _ (by simp) data'.1 _ here.2
      have same : f = e := Prod.ext here.1 value
      rw [same, rest (fun x mem => ih x (by simp [mem])) data'.2]
  | obj cls es => exact fun data => data.elim

variable {fs : Dict} {key : String}

/-- A returned dictionary holds under each key what came back of the value there. -/
theorem get_of_returned (h : List.Forall₂ (Returned display parseFloat) es fs)
    (found : Assoc.get key es = some v) :
    ∃ w, Assoc.get key fs = some w ∧ throughJson display parseFloat v = .ok w := by
  induction h with
  | nil => cases found
  | @cons e f es fs here _ ih =>
    obtain ⟨name, x⟩ := e
    obtain ⟨name', y⟩ := f
    obtain ⟨rfl, value⟩ : name' = name ∧ throughJson display parseFloat x = .ok y := here
    rw [Assoc.get_cons] at found ⊢
    split at found
    · next same =>
        cases found
        exact ⟨y, by rw [if_pos same], value⟩
    · next other =>
        rw [if_neg other]
        exact ih found

theorem get_none_of_returned (h : List.Forall₂ (Returned display parseFloat) es fs)
    (missing : Assoc.get key es = none) : Assoc.get key fs = none := by
  induction h with
  | nil => rfl
  | @cons e f es fs here _ ih =>
    obtain ⟨name, x⟩ := e
    obtain ⟨name', y⟩ := f
    obtain ⟨rfl, -⟩ : name' = name ∧ throughJson display parseFloat x = .ok y := here
    rw [Assoc.get_cons] at missing ⊢
    split at missing
    · cases missing
    · next other =>
        rw [if_neg other]
        exact ih missing

end Json

/-! ### What a continuation carries -/

def SuspendKind.iteration (s : RunState) : SuspendKind → Except PyError Int
  | .humanInput _ nextIteration _ => .ok nextIteration
  | .maxBudget _ => (s.field .iteration).toInt
  | .toolApproval _ _ _ => (s.field .iteration).toInt.map (· + 1)

/-- An attribute of the run that stands in the continuation under a name. -/
def Holds (continuation : Dict) (name : String) (x : Except PyError Value) : Prop :=
  ∃ v, x = .ok v ∧ Assoc.get name continuation = some v

structure Carries (display : Display) (x : Suspension) (kind : SuspendKind) (continuation : Dict) :
    Prop where
  nodup : (Assoc.keys continuation).Nodup
  provider : Holds continuation "provider" (getattr (x.state.field .providerState) "provider")
  model : Holds continuation "model" (getattr (x.state.field .providerState) "model")
  session : Holds continuation "session_id" (getattr (x.state.field .sessionState) "session_id")
  iteration : Holds continuation "iteration" ((kind.iteration x.state).map .int)
  limit : Assoc.get "max_iterations" continuation = some (.int x.maxIterations)
  window : ∃ n : Int, Assoc.get "max_context_window_tokens" continuation = some (.int n)
  counters : ∀ name ∈ carriedCounters, Holds continuation name
    ((getattr (x.state.field .tokenState) name).bind intOrZero)
  workspace : Assoc.get "workspace_change_state" continuation
    = some (x.state.field .workspaceChangeState)
  handle : Holds continuation "provider_replay_handle" x.handle
  format : Assoc.get "response_format" continuation
    = some (ensureJsonSafe display (serializeResponseFormat x.responseFormat))
  noFrame : Assoc.get "provider_replay_frame" continuation = none

section Carries

variable {host : InteractionHost} {x : Suspension}

theorem intOrZero_int {v w : Value} (h : intOrZero v = .ok w) : ∃ n : Int, w = .int n := by
  obtain ⟨n, -, rfl⟩ := map_ok h
  exact ⟨n, rfl⟩

variable {handle : Value}

theorem suspendedEntries_ok {s : RunState} {es : Dict} (h : suspendedEntries s handle = .ok es) :
    ∃ (previous useChain session namespace_ : Value) (window : Int) (counters : Dict),
      getattr (s.field .sessionState) "session_id" = .ok session ∧
      List.Forall₂ (fun name entry => readCounter (s.field .tokenState) name = .ok entry)
        carriedCounters counters ∧
      es = [("previous_response_id", previous),
        ("use_openai_previous_response_chain", .bool useChain.truthy),
        ("provider_replay_handle", handle), ("session_id", session),
        ("memory_namespace", namespace_), ("max_context_window_tokens", .int window)]
        ++ counters ++ [("workspace_change_state", s.field .workspaceChangeState)] := by
  simp only [suspendedEntries, bind_iff, pure_iff] at h
  obtain ⟨previous, -, useChain, -, session, sessionOk, namespace_, -, _, -, window, windowOk,
    counters, read, rfl⟩ := h
  obtain ⟨n, rfl⟩ := intOrZero_int windowOk
  exact ⟨previous, useChain, session, namespace_, n, counters, sessionOk, mapM_iff.mp read, rfl⟩

variable {name : String} {tokenState : Value}

theorem readCounter_ok {entry : String × Value} (h : readCounter tokenState name = .ok entry) :
    entry.1 = name ∧ (getattr tokenState name).bind intOrZero = .ok entry.2 := by
  simp only [readCounter, bind_iff, pure_iff] at h
  obtain ⟨v, attr, n, read, rfl⟩ := h
  refine ⟨rfl, ?_⟩
  rw [attr]
  exact read

variable {counters : Dict} {names : List String}

theorem keys_counters
    (h : List.Forall₂ (fun name entry => readCounter tokenState name = .ok entry) names
      counters) : Assoc.keys counters = names := by
  induction h with
  | nil => rfl
  | cons here _ ih => rw [Assoc.keys, List.map_cons, (readCounter_ok here).1, ← ih, Assoc.keys]

theorem mem_counters
    (h : List.Forall₂ (fun name entry => readCounter tokenState name = .ok entry) names
      counters) (mem : name ∈ names) :
    ∃ v, (getattr tokenState name).bind intOrZero = .ok v ∧ (name, v) ∈ counters := by
  induction h with
  | nil => cases mem
  | @cons a entry _ _ here _ ih =>
    obtain ⟨same, read⟩ := readCounter_ok here
    rcases List.mem_cons.mp mem with rfl | mem
    · refine ⟨entry.2, read, ?_⟩
      rw [← same]
      exact List.mem_cons_self
    · obtain ⟨v, read, mem⟩ := ih mem
      exact ⟨v, read, List.mem_cons_of_mem _ mem⟩

def sharedKeys : List String :=
  ["run_id", "provider", "model", "payload", "response_format", "context_version_id",
    "max_iterations", "previous_response_id", "use_openai_previous_response_chain",
    "provider_replay_handle", "session_id", "memory_namespace", "max_context_window_tokens"]
    ++ carriedCounters ++ ["workspace_change_state"]

variable {kind : SuspendKind}

theorem carries_of_parts {head model suspended tail : Dict} (handleOk : x.handle = .ok handle)
    (modelOk : x.modelEntries host = .ok model)
    (suspendedOk : suspendedEntries x.state handle = .ok suspended) {iteration : Int}
    (iterationOk : kind.iteration x.state = .ok iteration)
    (written : ("iteration", .int iteration) ∈ head)
    (nodup : (Assoc.keys head ++ sharedKeys ++ Assoc.keys tail).Nodup)
    (noFrame : "provider_replay_frame" ∉ Assoc.keys head ++ sharedKeys ++ Assoc.keys tail) :
    Carries host.display x kind (head ++ model ++ suspended ++ tail) := by
  simp only [Suspension.modelEntries, bind_iff, pure_iff] at modelOk
  obtain ⟨provider, providerOk, modelName, modelNameOk, modelIs⟩ := modelOk
  obtain ⟨previous, useChain, session, namespace_, window, counters, sessionOk, read, suspendedIs⟩ :=
    suspendedEntries_ok suspendedOk
  have keys : Assoc.keys (head ++ model ++ suspended ++ tail) =
      Assoc.keys head ++ sharedKeys ++ Assoc.keys tail := by
    have counterKeys := keys_counters read
    simp only [Assoc.keys] at counterKeys
    simp only [← modelIs, suspendedIs, Assoc.keys, List.map_append, counterKeys, sharedKeys]
    simp
  rw [← keys] at nodup noFrame
  subst modelIs suspendedIs
  have placed : ∀ {name : String} {v : Value}, (name, v) ∈ _ → _ := fun mem =>
    Assoc.get_of_mem nodup mem
  constructor
  · exact nodup
  · exact ⟨provider, providerOk, placed (by simp)⟩
  · exact ⟨modelName, modelNameOk, placed (by simp)⟩
  · exact ⟨session, sessionOk, placed (by simp)⟩
  · rw [iterationOk]
    exact ⟨.int iteration, rfl, placed (by simp [written])⟩
  · exact placed (by simp)
  · exact ⟨window, placed (by simp)⟩
  · intro name mem
    obtain ⟨v, counter, mem⟩ := mem_counters read mem
    exact ⟨v, counter, placed (by simp [mem])⟩
  · exact placed (by simp)
  · exact ⟨handle, handleOk, placed (by simp)⟩
  · exact placed (by simp)
  · exact Assoc.get_eq_none_iff.mpr noFrame

theorem carries_of_built {continuation : Dict}
    (built : buildContinuation host x kind = .ok continuation) :
    Carries host.display x kind continuation := by
  cases kind with
  | humanInput request nextIteration interactionRequest =>
    simp only [buildContinuation, buildHumanInputContinuation, bind_iff, pure_iff] at built
    obtain ⟨handle, handleOk, durable, -, model, modelOk, suspended, suspendedOk, rfl⟩ := built
    refine carries_of_parts handleOk modelOk suspendedOk rfl (by simp) ?_ ?_
    all_goals cases x.toolExposurePlan <;> exact of_decide_eq_true rfl
  | maxBudget interactionRequest =>
    simp only [buildContinuation, buildMaxBudgetContinuation, bind_iff, pure_iff] at built
    obtain ⟨request, -, handle, handleOk, model, modelOk, iteration, iterationOk, suspended,
      suspendedOk, rfl⟩ := built
    refine carries_of_parts handleOk modelOk suspendedOk iterationOk (by simp) ?_ ?_
    all_goals cases x.toolExposurePlan <;> exact of_decide_eq_true rfl
  | toolApproval interactionRequest toolCalls batchState =>
    simp only [buildContinuation, buildToolApprovalContinuation, bind_iff, pure_iff] at built
    obtain ⟨request, -, handle, handleOk, model, modelOk, iteration, iterationOk, suspended,
      suspendedOk, rfl⟩ := built
    have ready : (SuspendKind.toolApproval interactionRequest toolCalls batchState).iteration
        x.state = .ok (iteration + 1) := by
      rw [SuspendKind.iteration, iterationOk]
      rfl
    rw [List.append_assoc _ _ (exposureEntries _ _)]
    refine carries_of_parts handleOk modelOk suspendedOk ready (by simp) ?_ ?_
    all_goals cases x.toolExposurePlan <;> exact of_decide_eq_true rfl

end Carries

/-! ### The plan that is read back -/

/-- The fields of the dataclasses hold what they are declared to hold, and the workspace state is
JSON data. -/
structure TypedRun (s : RunState) : Prop where
  model : ∃ m, getattr (s.field .providerState) "model" = .ok (textOrNone m)
  session : ∃ id, getattr (s.field .sessionState) "session_id" = .ok (textOrNone id)
  counters : ∀ name ∈ carriedCounters, ∃ n : Int, getattr (s.field .tokenState) name = .ok (.int n)
  workspace : ∃ es, s.field .workspaceChangeState = .dict es ∧ JsonData (.dict es)

/-- The accounting of a plan is that of the run that was suspended. -/
structure Planned (x : Suspension) (iteration : Int) (args : ResumeArguments)
    (plan : HumanInputResumePlan) : Prop where
  provider : getattr (x.state.field .providerState) "provider" = .ok (.str plan.provider)
  model : ∀ m, getattr (x.state.field .providerState) "model" = .ok (textOrNone m) →
    plan.model = orFallback m args.fallbackModel
  session : ∀ id, getattr (x.state.field .sessionState) "session_id" = .ok (textOrNone id) →
    plan.sessionId = args.sessionId.or id
  iteration : plan.iteration = iteration
  limit : plan.maxIterations = if x.maxIterations = 0 then 6 else x.maxIterations
  counters : List.Forall₂
    (fun name n => getattr (x.state.field .tokenState) name = .ok (.int n)) carriedCounters
    [plan.consumedTokens, plan.inputTokens, plan.outputTokens, plan.lastTurnTokens,
      plan.lastTurnInputTokens, plan.lastTurnOutputTokens]
  workspace : ∃ es, plan.workspaceChangeState = some es ∧
    x.state.field .workspaceChangeState = .dict es
  frame : plan.providerReplayFrame = none
  required : (storedFrame (x.state.field .componentState)).isSome = true →
    plan.providerReplayRequired = true

section Plan

variable {host : InteractionHost} {parseFloat : List Char → PyFloat} {x : Suspension}
  {kind : SuspendKind} {continuation c : Dict} {args : ResumeArguments}
  {display : Display} {s : Option String} {w : Value}

/-- A text, an integer or nothing is read back as it was. -/
theorem throughJson_textOrNone (h : throughJson display parseFloat (textOrNone s) = .ok w) :
    w = textOrNone s := by
  cases s with
  | none =>
    cases h
    rfl
  | some s =>
    cases h
    rw [Value.ofJson, String.ofList_toList]
    rfl

variable {n : Int}

theorem throughJson_int (h : throughJson display parseFloat (.int n) = .ok w) : w = .int n := by
  rw [throughJson, Value.toJson, intDigits] at h
  split at h
  · cases h
    rfl
  · cases h

theorem optionalStr_textOrNone (s : Option String) : optionalStr (textOrNone s) = s := by
  cases s <;> rfl

theorem intFromContinuation_int {key : String} (default : Int)
    (found : Assoc.get key c = some (.int n)) :
    intFromContinuation c key default = .ok (if n = 0 then default else n) := by
  have got : (Value.dict c).get key = .int n := by simp [Value.get, Value.entries, found]
  rw [intFromContinuation, got]
  by_cases zero : n = 0
  · simp [zero, Value.or, Value.truthy, Value.toInt]
  · simp [zero, Value.or, Value.truthy, Value.toInt]

theorem handle_returned {handle : Value} (ok : x.handle = .ok handle)
    (h : throughJson display parseFloat handle = .ok w) : loadProviderReplayHandle w = none ∧
      ((storedFrame (x.state.field .componentState)).isSome = true → w.truthy = true) := by
  simp only [Suspension.handle, bind_iff, pure_iff] at ok
  obtain ⟨frame, current, rfl⟩ := ok
  rw [← currentProviderReplayFrame_ok current]
  cases frame with
  | none =>
    cases h
    exact ⟨rfl, fun some => by cases some⟩
  | some frame =>
    cases h
    refine ⟨rfl, fun _ => ?_⟩
    simp [handleEntries, Value.ofJson, membersOfJson, Value.truthy, Assoc.set]

theorem intOrZero_self (n : Int) : intOrZero (.int n) = .ok (.int n) := by
  by_cases zero : n = 0
  · subst zero
    rfl
  · simp [intOrZero, Value.or, Value.truthy, zero, Value.toInt, Except.map]

variable {name : String}

section

variable (returned : List.Forall₂ (Returned host.display parseFloat) continuation c)

include returned

theorem came_back {v : Value} (found : Assoc.get name continuation = some v) :
    ∃ w, (Value.dict c).get name = w ∧ Assoc.get name c = some w ∧
      throughJson host.display parseFloat v = .ok w := by
  obtain ⟨w, got, value⟩ := get_of_returned returned found
  exact ⟨w, by simp [Value.get, Value.entries, got], got, value⟩

theorem integer_back (found : Assoc.get name continuation = some (.int n)) :
    Assoc.get name c = some (.int n) := by
  obtain ⟨w, -, got, value⟩ := came_back returned found
  rw [got, throughJson_int value]

theorem text_back {x : Except PyError Value} (holds : Holds continuation name x)
    (ok : x = .ok (textOrNone s)) : (Value.dict c).get name = textOrNone s := by
  obtain ⟨v, attr, found⟩ := holds
  cases ok.symm.trans attr
  obtain ⟨w, got, -, value⟩ := came_back returned found
  rw [got, throughJson_textOrNone value]

theorem counter_back {x : Except PyError Value} (holds : Holds continuation name (x.bind intOrZero))
    (ok : x = .ok (.int n)) : intFromContinuation c name 0 = .ok n := by
  obtain ⟨v, read, found⟩ := holds
  have same : v = .int n := by
    rw [ok] at read
    simpa using read.symm.trans (intOrZero_self n)
  rw [same] at found
  rw [intFromContinuation_int 0 (integer_back returned found)]
  split
  · next zero => rw [zero]
  · rfl

end

variable {provider : String}

theorem resolveProvider_back (back : (Value.dict c).get "provider" = textOrNone (some provider))
    (supported : provider ∈ supportedResumeProviders) :
    resolveProvider host args c = .ok provider := by
  have nonempty : provider ≠ "" := by
    rintro rfl
    exact absurd supported (by decide)
  rw [resolveProvider, back]
  simp [textOrNone, Value.or, Value.truthy, nonempty, supported]

theorem checkSession_back {session : Option String}
    (back : (Value.dict c).get "session_id" = textOrNone session)
    (same : ∀ id, session = some id → args.sessionId = none ∨ args.sessionId = some id) :
    checkSession args c = .ok () := by
  rw [checkSession, back, optionalStr_textOrNone, raiseIf_ok]
  cases session with
  | none => rfl
  | some id =>
    rcases same id rfl with none | same
    · rw [none]
    · rw [same]
      simp

theorem resolveFrame_back
    (returned : List.Forall₂ (Returned host.display parseFloat) continuation c)
    (noFrame : Assoc.get "provider_replay_frame" continuation = none)
    (handle : loadProviderReplayHandle ((Value.dict c).get "provider_replay_handle") = none) :
    resolveFrame c = .ok none := by
  have missing : (Value.dict c).get "provider_replay_frame" = .none := by
    simp [Value.get, Value.entries, get_none_of_returned returned noFrame]
  rw [resolveFrame, missing, handle]
  rfl

/-! A response format comes back -/

section Format

variable {display : Display}

/-- The attributes of a `ResponseFormat` that its constructor made. -/
structure IsFormat (v : Value) (f : ResponseFormat) : Prop where
  name : getattr v "name" = .ok (.str f.name)
  schema : getattr v "schema" = .ok (.dict f.schema)
  required : getattr v "required" = .ok (.list f.required)
  named : f.name.isEmpty = false
  keys : (Assoc.keys f.schema).Nodup
  texts : ∀ r ∈ f.required, ∃ s, r = .str s
  default : f.required = [] →
    iterate ((Value.dict f.schema).getD "required" (.list [])) = .ok []

theorem keys_ensureEntries (es : Dict) :
    (Assoc.keys (ensureEntries display es)).Sublist (Assoc.keys es) := by
  induction es with
  | nil => exact .slnil
  | cons e es ih =>
    obtain ⟨name, v⟩ := e
    rw [ensureEntries]
    split
    · exact ih.cons_cons name
    · exact ih.cons name

variable {v : Value}

theorem get_ensureEntries {es : Dict} {key : String} (found : Assoc.get key es = some v)
    (like : isJsonLike v = true) :
    Assoc.get key (ensureEntries display es) = some (ensureJsonSafe display v) := by
  induction es with
  | nil => cases found
  | cons e es ih =>
    rw [Assoc.get_cons] at found
    rw [ensureEntries]
    split at found
    · next same =>
        cases found
        rw [if_pos like, Assoc.get_cons, if_pos same]
    · next other =>
        split
        · rw [Assoc.get_cons, if_neg other, ih found]
        · exact ih found

theorem ensureItems_texts {vs : List Value} (texts : ∀ v ∈ vs, ∃ s, v = .str s) :
    ensureItems display vs = vs := by
  induction vs with
  | nil => rfl
  | cons v vs ih =>
    obtain ⟨s, rfl⟩ := texts v (by simp)
    rw [ensureItems, if_pos (show isJsonLike (.str s) = true from rfl),
      ih fun u mem => texts u (by simp [mem])]
    rfl

variable {w : Value}

/-- What no names are read off, none are read off when it comes back. -/
theorem iterate_back (empty : iterate v = .ok [])
    (h : throughJson display parseFloat (ensureJsonSafe display v) = .ok w) :
    ∃ items, iterate w = .ok items := by
  cases v with
  | list xs =>
    obtain ⟨ws, rfl, -⟩ := throughJson_list h
    exact ⟨ws, rfl⟩
  | dict es =>
    cases es with
    | nil =>
      cases h
      exact ⟨[], rfl⟩
    | cons e es => cases empty
  | str s =>
    cases h
    exact ⟨_, rfl⟩
  | none | bool b | int n | float x | obj cls es => cases empty

theorem isJsonLike_of_iterate {items : List Value} (h : iterate v = .ok items) :
    isJsonLike v = true := by
  cases v with
  | obj cls es => cases h
  | _ => rfl

theorem default_back {schema fs : Dict}
    (empty : iterate ((Value.dict schema).getD "required" (.list [])) = .ok [])
    (returned : List.Forall₂ (Returned display parseFloat) (ensureEntries display schema) fs) :
    ∃ items, iterate ((Value.dict fs).getD "required" (.list [])) = .ok items := by
  simp only [Value.getD, Value.entries] at empty ⊢
  cases found : Assoc.get "required" schema with
  | none =>
    have missing : Assoc.get "required" (ensureEntries display schema) = none := by
      rw [Assoc.get_eq_none_iff] at found ⊢
      exact fun mem => found ((keys_ensureEntries schema).subset mem)
    rw [get_none_of_returned returned missing]
    exact ⟨[], rfl⟩
  | some v =>
    rw [found] at empty
    obtain ⟨w, got, back⟩ := get_of_returned returned
      (get_ensureEntries found (isJsonLike_of_iterate empty))
    rw [got]
    exact iterate_back empty back

theorem format_back (given : v = .none ∨ ∃ f, IsFormat v f)
    (h : throughJson display parseFloat (ensureJsonSafe display (serializeResponseFormat v))
      = .ok w) : ∃ format, deserializeResponseFormat w = .ok format := by
  rcases given with rfl | ⟨f, isFormat⟩
  · cases h
    exact ⟨none, rfl⟩
  have serialized : ensureJsonSafe display (serializeResponseFormat v)
      = .dict [("name", .str f.name), ("schema", .dict (ensureEntries display f.schema)),
        ("required", .list f.required)] := by
    rw [serializeResponseFormat]
    simp [getattrOr, isFormat.name, isFormat.schema, isFormat.required, Value.isStr, Value.isDict,
      Value.isList, ensureJsonSafe, ensureEntries, isJsonLike, ensureItems_texts isFormat.texts]
  rw [serialized] at h
  obtain ⟨fs, rfl, returned⟩ := throughJson_dict h (by simp [Assoc.keys])
  obtain ⟨name, gotName, nameBack⟩ := get_of_returned returned (rfl : Assoc.get "name" _ = _)
  obtain ⟨schema, gotSchema, schemaBack⟩ := get_of_returned returned (rfl : Assoc.get "schema" _ = _)
  obtain ⟨required, gotRequired, requiredBack⟩ :=
    get_of_returned returned (rfl : Assoc.get "required" _ = _)
  have sameName : name = .str f.name := throughJson_textOrNone (s := some f.name) nameBack
  obtain ⟨entries, rfl, inSchema⟩ :=
    throughJson_dict schemaBack (isFormat.keys.sublist (keys_ensureEntries f.schema))
  obtain ⟨items, rfl, sameItems⟩ := throughJson_list requiredBack
  subst sameName
  have made : ∃ format, ResponseFormat.make f.name entries items = .ok format := by
    rw [ResponseFormat.make, if_neg (by simp [isFormat.named])]
    cases items with
    | cons r rs => exact ⟨_, rfl⟩
    | nil =>
      have none := List.forall₂_nil_right_iff.mp sameItems
      obtain ⟨names, read⟩ := default_back (isFormat.default none) inSchema
      rw [if_pos (show ([] : List Value).isEmpty = true from rfl), read]
      exact ⟨_, rfl⟩
  obtain ⟨format, made⟩ := made
  refine ⟨some format, ?_⟩
  simp [deserializeResponseFormat, Value.get, Value.entries, gotName, gotSchema, gotRequired,
    Value.items, made, Except.map]

end Format

theorem resolveResponseFormat_back
    (returned : List.Forall₂ (Returned host.display parseFloat) continuation c)
    (found : Assoc.get "response_format" continuation
      = some (ensureJsonSafe host.display (serializeResponseFormat x.responseFormat)))
    (given : x.responseFormat = .none ∨ ∃ f, IsFormat x.responseFormat f) :
    ∃ format, resolveResponseFormat args c = .ok format := by
  rw [resolveResponseFormat]
  cases args.responseFormat with
  | some format => exact ⟨some format, rfl⟩
  | none =>
    obtain ⟨w, got, -, value⟩ := came_back returned found
    rw [got]
    exact format_back given value

theorem planned_of_carries (reads : ReadsFloats host.display parseFloat) (typed : TypedRun x.state)
    (carries : Carries host.display x kind continuation)
    (returned : List.Forall₂ (Returned host.display parseFloat) continuation c)
    (providerOk : getattr (x.state.field .providerState) "provider" = .ok (.str provider))
    (supported : provider ∈ supportedResumeProviders)
    (sameSession : ∀ id, getattr (x.state.field .sessionState) "session_id" = .ok (.str id) →
      args.sessionId = none ∨ args.sessionId = some id)
    (given : x.responseFormat = .none ∨ ∃ f, IsFormat x.responseFormat f) {iteration : Int}
    (iterationOk : kind.iteration x.state = .ok iteration) :
    ∃ plan, prepareHumanInputResumePlan host args c = .ok plan ∧ Planned x iteration args plan := by
  obtain ⟨m, modelOk⟩ := typed.model
  obtain ⟨session, sessionOk⟩ := typed.session
  obtain ⟨es, workspaceOk, data⟩ := typed.workspace
  obtain ⟨window, windowFound⟩ := carries.window
  obtain ⟨handle, handleOk, handleFound⟩ := carries.handle
  obtain ⟨back, handleBack, -, handleValue⟩ := came_back returned handleFound
  obtain ⟨unloaded, required⟩ := handle_returned handleOk handleValue
  have modelBack := text_back returned carries.model modelOk
  have sessionBack := text_back returned carries.session sessionOk
  have workspaceBack : (Value.dict c).get "workspace_change_state" = .dict es := by
    have found := carries.workspace
    rw [workspaceOk] at found
    obtain ⟨w, got, -, value⟩ := came_back returned found
    rw [got, throughJson_data reads _ data _ value]
  have iterationStep : intFromContinuation c "iteration" 0 = .ok iteration := by
    obtain ⟨v, attr, found⟩ := carries.iteration
    rw [iterationOk] at attr
    cases attr
    rw [intFromContinuation_int 0 (integer_back returned found)]
    split
    · next zero => rw [zero]
    · rfl
  have counter : ∀ name ∈ carriedCounters, ∃ n : Int,
      getattr (x.state.field .tokenState) name = .ok (.int n) ∧
        intFromContinuation c name 0 = .ok n := by
    intro name mem
    obtain ⟨n, attr⟩ := typed.counters name mem
    exact ⟨n, attr, counter_back returned (carries.counters name mem) attr⟩
  have providerStep : resolveProvider host args c = .ok provider :=
    resolveProvider_back (text_back returned carries.provider providerOk) supported
  have sessionStep : checkSession args c = .ok () := by
    apply checkSession_back sessionBack
    rintro id rfl
    exact sameSession id sessionOk
  have frameStep : resolveFrame c = .ok none := by
    apply resolveFrame_back returned carries.noFrame
    rw [handleBack, unloaded]
  have formatBack : ∃ format, resolveResponseFormat args c = .ok format :=
    resolveResponseFormat_back returned carries.format given
  obtain ⟨format, formatOk⟩ := formatBack
  obtain ⟨n₁, attr₁, step₁⟩ := counter "consumed_tokens" (by decide)
  obtain ⟨n₂, attr₂, step₂⟩ := counter "input_tokens" (by decide)
  obtain ⟨n₃, attr₃, step₃⟩ := counter "output_tokens" (by decide)
  obtain ⟨n₄, attr₄, step₄⟩ := counter "last_turn_tokens" (by decide)
  obtain ⟨n₅, attr₅, step₅⟩ := counter "last_turn_input_tokens" (by decide)
  obtain ⟨n₆, attr₆, step₆⟩ := counter "last_turn_output_tokens" (by decide)
  have limitStep := intFromContinuation_int 6 (integer_back returned carries.limit)
  have windowStep := intFromContinuation_int 0 (integer_back returned windowFound)
  let plan : HumanInputResumePlan := {
    conversation := args.conversation
    payload := resolvePayload args c
    responseFormat := format
    provider := provider
    model := orFallback (optionalStr ((Value.dict c).get "model")) args.fallbackModel
    sessionId := args.sessionId.or (optionalStr ((Value.dict c).get "session_id"))
    memoryNamespace := args.memoryNamespace.or (optionalStr ((Value.dict c).get "memory_namespace"))
    runId := resolveRunId host args c
    iteration := iteration
    maxIterations := if x.maxIterations = 0 then 6 else x.maxIterations
    previousResponseId := optionalStr ((Value.dict c).get "previous_response_id")
    usePreviousResponseChain := ((Value.dict c).getD "use_openai_previous_response_chain"
      (.bool false)).truthy
    maxContextWindowTokens := max 0 (if window = 0 then 0 else window)
    consumedTokens := n₁
    inputTokens := n₂
    outputTokens := n₃
    lastTurnTokens := n₄
    lastTurnInputTokens := n₅
    lastTurnOutputTokens := n₆
    workspaceChangeState := dictOrNone ((Value.dict c).get "workspace_change_state")
    providerReplayFrame := none
    providerReplayRequired := ((Value.dict c).get "provider_replay_handle").truthy
      || (((Value.dict c).getD "use_openai_previous_response_chain" (.bool false)).truthy
        && ((Value.dict c).get "previous_response_id").truthy) }
  refine ⟨plan, ?_, ?_⟩
  · simp only [prepareHumanInputResumePlan, providerStep, sessionStep, frameStep, formatOk,
      iterationStep, limitStep, windowStep, step₁, step₂, step₃, step₄, step₅, step₆]
    rfl
  · constructor
    · exact providerOk
    · intro m' modelOk'
      have same : textOrNone m = textOrNone m' := by
        simpa using modelOk.symm.trans modelOk'
      show orFallback (optionalStr ((Value.dict c).get "model")) _ = _
      rw [modelBack, same, optionalStr_textOrNone]
    · intro id sessionOk'
      have same : textOrNone session = textOrNone id := by
        simpa using sessionOk.symm.trans sessionOk'
      show args.sessionId.or (optionalStr ((Value.dict c).get "session_id")) = _
      rw [sessionBack, same, optionalStr_textOrNone]
    · rfl
    · rfl
    · exact .cons attr₁ (.cons attr₂ (.cons attr₃ (.cons attr₄ (.cons attr₅ (.cons attr₆ .nil)))))
    · refine ⟨es, ?_, workspaceOk⟩
      show dictOrNone ((Value.dict c).get "workspace_change_state") = _
      rw [workspaceBack]
      rfl
    · rfl
    · intro some
      show (((Value.dict c).get "provider_replay_handle").truthy || _) = true
      rw [handleBack, required some]
      rfl

end Plan

/-! ### The run that is resumed -/

/-- A resumed run has the accounting of the run that was suspended. It has no replay frame, and
where the suspended run had one it is told so. -/
structure Restored (x : Suspension) (kind : SuspendKind) (args : ResumeArguments)
    (plan : HumanInputResumePlan) (s : RunState) : Prop where
  provider : getattr (s.field .providerState) "provider"
    = getattr (x.state.field .providerState) "provider"
  model : ∀ m, getattr (x.state.field .providerState) "model" = .ok (textOrNone m) →
    getattr (s.field .providerState) "model" = .ok (textOrNone (orFallback m args.fallbackModel))
  session : ∀ id, getattr (x.state.field .sessionState) "session_id" = .ok (textOrNone id) →
    getattr (s.field .sessionState) "session_id" = .ok (textOrNone (args.sessionId.or id))
  iteration : (kind.iteration x.state).map .int = .ok (s.field .iteration)
  limit : x.maxIterations ≠ 0 → plan.maxIterations = x.maxIterations
  counters : ∀ name ∈ carriedCounters,
    getattr (s.field .tokenState) name = getattr (x.state.field .tokenState) name
  workspace : s.field .workspaceChangeState = x.state.field .workspaceChangeState
  noFrame : storedFrame (s.field .componentState) = none
  required : (storedFrame (x.state.field .componentState)).isSome = true →
    (s.field .metadata).get "provider_replay_required" = .bool true

structure Hydrated (plan : HumanInputResumePlan) (s : RunState) : Prop where
  providerState : s.field .providerState = .obj .providerState
    [("provider", .str plan.provider), ("model", textOrNone plan.model),
      ("previous_response_id", textOrNone plan.previousResponseId),
      ("use_previous_response_chain", .bool plan.usePreviousResponseChain),
      ("max_context_window_tokens", .int plan.maxContextWindowTokens)]
  sessionState : s.field .sessionState = .obj .sessionState
    [("session_id", textOrNone plan.sessionId),
      ("memory_namespace", textOrNone plan.memoryNamespace)]
  iteration : s.field .iteration = .int plan.iteration
  tokenState : s.field .tokenState = .obj .tokenState
    [("consumed_tokens", .int plan.consumedTokens), ("input_tokens", .int plan.inputTokens),
      ("output_tokens", .int plan.outputTokens), ("cache_read_input_tokens", .int 0),
      ("cache_creation_input_tokens", .int 0), ("last_turn_tokens", .int plan.lastTurnTokens),
      ("last_turn_input_tokens", .int plan.lastTurnInputTokens),
      ("last_turn_output_tokens", .int plan.lastTurnOutputTokens),
      ("last_turn_cache_read_input_tokens", .int 0),
      ("last_turn_cache_creation_input_tokens", .int 0)]
  workspace : plan.workspaceChangeState.map .dict = some (s.field .workspaceChangeState)
  noFrame : storedFrame (s.field .componentState) = none
  required : plan.providerReplayRequired = true →
    (s.field .metadata).get "provider_replay_required" = .bool true

variable {plan : HumanInputResumePlan}

/-- Hydration of a fresh state succeeds, whatever the conversation it is seeded with. -/
theorem resumeState_ok (env : KernelEnv) (v : VersionId) {es : Dict}
    (workspace : plan.workspaceChangeState = some es) (noFrame : plan.providerReplayFrame = none) :
    ∃ s, resumeState env plan v (RunState.new env) = .ok () s ∧ Hydrated plan s := by
  obtain ⟨conversation, payload, format, provider, model, session, namespace_, runId, iteration,
    limit, previous, chain, window, n₁, n₂, n₃, n₄, n₅, n₆, changes, frame, needed⟩ := plan
  cases workspace
  cases noFrame
  cases needed with
  | false => exact ⟨_, rfl, rfl, rfl, rfl, rfl, rfl, rfl, fun needed => nomatch needed⟩
  | true => exact ⟨_, rfl, rfl, rfl, rfl, rfl, rfl, rfl, fun _ => rfl⟩

theorem restored_of_hydrated {args : ResumeArguments} {x : Suspension} {kind : SuspendKind}
    {iteration : Int} {s : RunState} (planned : Planned x iteration args plan)
    (iterationOk : kind.iteration x.state = .ok iteration) (hydrated : Hydrated plan s) :
    Restored x kind args plan s := by
  constructor
  · rw [hydrated.providerState, planned.provider]
    rfl
  · intro m modelOk
    rw [hydrated.providerState, ← planned.model m modelOk]
    rfl
  · intro id sessionOk
    rw [hydrated.sessionState, ← planned.session id sessionOk]
    rfl
  · rw [hydrated.iteration, planned.iteration, iterationOk]
    rfl
  · intro given
    rw [planned.limit, if_neg given]
  · have counters := planned.counters
    simp only [carriedCounters, List.forall₂_cons, List.forall₂_nil_right_iff] at counters
    obtain ⟨consumed, input, output, turn, turnInput, turnOutput, -⟩ := counters
    intro name mem
    rw [hydrated.tokenState]
    simp only [carriedCounters, List.mem_cons, List.not_mem_nil, or_false] at mem
    rcases mem with rfl | rfl | rfl | rfl | rfl | rfl
    · exact consumed.symm
    · exact input.symm
    · exact output.symm
    · exact turn.symm
    · exact turnInput.symm
    · exact turnOutput.symm
  · obtain ⟨es, inPlan, workspace⟩ := planned.workspace
    have kept := hydrated.workspace
    rw [inPlan] at kept
    rw [workspace]
    exact (Option.some.inj kept).symm
  · exact hydrated.noFrame
  · exact fun some => hydrated.required (planned.required some)

/-! ### A run that is resumed without its frame -/

/-- Floats written with their mantissa and exponent counted out. -/
def countedFloat : Display
  | .float (.finite m e) =>
    String.ofList ('f' :: (if m < 0 then '-' else '+') :: (if e < 0 then '-' else '+')
      :: (List.replicate m.natAbs 'm' ++ List.replicate e.natAbs 'e'))
  | .float .negZero => "z"
  | _ => ""

def signed (sign : Char) (n : Nat) : Int := if sign = '-' then -n else n

def readCounted : List Char → PyFloat
  | 'f' :: m :: e :: marks => .finite (signed m (marks.count 'm')) (signed e (marks.count 'e'))
  | 'z' :: _ => .negZero
  | 'N' :: _ => .nan
  | 'I' :: _ => .inf false
  | _ => .inf true

theorem signed_natAbs (n : Int) : signed (if n < 0 then '-' else '+') n.natAbs = n := by
  rw [signed]
  by_cases negative : n < 0
  · rw [if_pos negative, if_pos rfl]
    omega
  · rw [if_neg negative, if_neg (by decide)]
    omega

theorem readsFloats_counted : ReadsFloats countedFloat readCounted := by
  constructor
  · intro x finite
    cases x with
    | finite m e => simp [countedFloat, readCounted, List.count_replicate, signed_natAbs]
    | negZero => rfl
    | inf negative => cases finite
    | nan => cases finite
  · rfl
  · rfl
  · rfl

def countingHost : InteractionHost where
  display := countedFloat
  sha256 := fun _ => ""
  repr := fun _ => ""
  className := fun _ => ""

def suspendedFrame : Value :=
  .dict [("format", .str "openai.responses.output_items.v1"), ("complete", .bool true),
    ("items", .list [])]

def cachedRun : RunState :=
  let fresh := RunState.new plainEnv
  ((fresh.write .providerState (.obj .providerState
      [("provider", .str "openai"), ("model", .str "m"), ("previous_response_id", .none),
        ("use_previous_response_chain", .bool false), ("max_context_window_tokens", .int 100)])).write
    .tokenState (.obj .tokenState
      [("consumed_tokens", .int 9), ("input_tokens", .int 6), ("output_tokens", .int 3),
        ("cache_read_input_tokens", .int 4), ("cache_creation_input_tokens", .int 0),
        ("last_turn_tokens", .int 9), ("last_turn_input_tokens", .int 6),
        ("last_turn_output_tokens", .int 3), ("last_turn_cache_read_input_tokens", .int 4),
        ("last_turn_cache_creation_input_tokens", .int 0)])).write
    .componentState (.dict [("provider_replay", .dict [("frame", suspendedFrame)])])

def cachedSuspension : Suspension where
  payload := .dict []
  responseFormat := .none
  maxIterations := 6
  state := cachedRun
  runId := some "run"
  toolExposurePlan := none
  handleId := "h"

def pathQuestion : HumanInputRequest where
  requestId := "call"
  kind := "selector"
  title := ""
  question := "?"
  selectionMode := .single
  options := [⟨"a", "a", ""⟩]
  allowOther := false
  otherLabel := ""
  otherPlaceholder := ""
  minSelected := 1
  maxSelected := 1

def plainResume : ResumeArguments where
  conversation := []
  payload := none
  responseFormat := none
  fallbackProvider := none
  fallbackModel := none
  sessionId := none
  memoryNamespace := none
  runId := none
  generatedRunId := "run_2"

theorem typed_cachedRun : TypedRun cachedRun where
  model := ⟨some "m", rfl⟩
  session := ⟨none, rfl⟩
  counters := by
    intro name mem
    simp only [carriedCounters, List.mem_cons, List.not_mem_nil, or_false] at mem
    rcases mem with rfl | rfl | rfl | rfl | rfl | rfl
    · exact ⟨9, rfl⟩
    · exact ⟨6, rfl⟩
    · exact ⟨3, rfl⟩
    · exact ⟨9, rfl⟩
    · exact ⟨6, rfl⟩
    · exact ⟨3, rfl⟩
  workspace := ⟨[], rfl, by decide, trivial⟩

end Unchain.Interaction
