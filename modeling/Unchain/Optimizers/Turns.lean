import Unchain.Lib.Segments
import Unchain.Optimizers.Base
import Mathlib.Algebra.Ring.Nat

/-!
Turn windows (`split_turns` of `optimizers/common.py`, `optimizers/last_n.py` and
`optimizers/sliding_window.py`).

A turn starts at a user message that is not made of tool results only. Both
optimizers keep the system messages and the last turns: `LastNOptimizer` a fixed
number of them, `SlidingWindowOptimizer` as many as fit a token budget. Since a
user message that carries a tool result among other blocks starts a turn too, a
window can begin with a result whose call it has dropped.

`windows_never_split_iff` says for which lists no window does this.
-/

namespace Unchain.Optimizers.Turns

open Python Lib Kernel

/-! ### Turns -/

def isToolResultLikeMessage (message : Value) : Bool :=
  let content := (message.get "content").items
  let parts := (message.get "parts").items
  (!content.isEmpty && content.all (isBlockOf "tool_result"))
    || (!parts.isEmpty && parts.all fun part => part.isDict && part.hasKey "function_response")

/-- A message in front of which the current turn ends. -/
def startsTurn (message : Value) : Bool :=
  hasRole "user" message && !isToolResultLikeMessage message

def splitTurns (nonSystem : List Value) : List (List Value) := segments startsTurn nonSystem

/-! ### Token estimates -/

/-- The conversions to text the estimate relies on. -/
structure TextEnv where
  /-- `json.dumps(value, default=str, ensure_ascii=False)`. -/
  dumps : Value → String
  display : Display

section Estimate

variable (env : TextEnv)

def isOneOf (names : List String) (v : Value) : Bool := names.any fun name => v.eqPy (.str name)

def blockToText (block : Value) : String :=
  if !block.isDict then ""
  else if isOneOf ["text", "input_text", "output_text"] (block.get "type") then
    let text := block.getD "text" (.str "")
    if text.truthy then text.toStr env.display else ""
  else if isOneOf ["image", "input_image"] (block.get "type") then "[image]"
  else if isOneOf ["pdf", "document", "input_file"] (block.get "type") then "[pdf]"
  else env.dumps block

def contentToText : Value → String
  | .str s => s
  | .list blocks => String.join (blocks.map (blockToText env))
  | .dict es => env.dumps (.dict es)
  | .none => ""
  | v => v.toStr env.display

def messageToText (message : Value) : String :=
  if !message.isDict then ""
  else if message.hasKey "content" then contentToText env (message.get "content")
  else
    let fields := ["arguments", "output", "result", "text"].filter fun key => message.hasKey key
    let parts := fields.map fun key =>
      match message.get key with
      | .str s => s
      | v => env.dumps v
    if parts.isEmpty then env.dumps message else String.intercalate " " parts

def messageChars (message : Value) : Nat :=
  (match message.get "role" with
    | .str role => role.length + 1
    | _ => 0) + (messageToText env message).length

/-- One token for every four characters, rounded up. -/
def estimateTokens (messages : List Value) : Nat :=
  (((messages.filter Value.isDict).map (messageChars env)).sum + 3) / 4

end Estimate

/-! ### The two windows -/

def keepTurns (name : String) (context : OptimizerContext) (kept : List (List Value))
    (bucket trace : Dict) : Option HarnessDelta :=
  replaceMessagesDelta name context (replaceNonSystemSpan context.latestMessages kept.flatten [])
    (some bucket) trace

namespace LastN

def skipReason : Value := .str "upstream_summary_replacement_unavailable"

/-- A summary upstream failed, and its sources must stay. -/
def sourcesRequired (context : OptimizerContext) : Bool :=
  Assoc.get "source_preservation_required" (childDict "llm_summary" context.stateOptimizers)
    == some (.bool true)

/-- `turns[-last:] if last > 0 else []`. -/
def keptTurns (last : Nat) (turns : List (List Value)) : List (List Value) :=
  if 0 < last then turns.drop (turns.length - last) else []

def buildOptimizerDelta (lastNTurns : Int) (context : OptimizerContext) : Option HarnessDelta :=
  let turns := splitTurns (splitSystemAndNonSystem context.latestMessages).2
  let last := lastNTurns.toNat
  let bucket := Assoc.set "last_n_turns" (.int last) (context.optimizerState "last_n")
  let total : Value := .int turns.length
  if sourcesRequired context then
    let bucket := Assoc.update bucket [("skipped", .bool true), ("skip_reason", skipReason),
      ("kept_turn_count", total), ("total_turn_count", total)]
    stateOnlyDelta "last_n" (some bucket)
      [("skipped", .bool true), ("skip_reason", skipReason), ("total_turn_count", total)]
  else
    let bucket := Assoc.erase "skip_reason" (Assoc.set "skipped" (.bool false) bucket)
    let kept := keptTurns last turns
    let counts : Dict := [("kept_turn_count", .int kept.length), ("total_turn_count", total)]
    keepTurns "last_n" context kept (Assoc.update bucket counts) counts

end LastN

namespace SlidingWindow

structure Config where
  /-- `int(max_ctx * max_window_pct)`, a product of floats. -/
  windowShare : Nat → Int
  maxWindowTokens : Option Int

def computeEffectiveBudget (config : Config) (context : OptimizerContext) : Option Int :=
  if 0 < context.maxContextWindowTokens then
    let share := config.windowShare context.maxContextWindowTokens
    match config.maxWindowTokens with
    | some tokens => some (min share tokens)
    | none => if share = 0 then none else some share
  else config.maxWindowTokens

def fitTurns (env : TextEnv) (remaining : Int) :
    (reversed kept : List (List Value)) → (used : Int) → List (List Value)
  | [], kept, _ => kept
  | turn :: reversed, kept, used =>
    if used + estimateTokens env turn > remaining then kept
    else fitTurns env remaining reversed (turn :: kept) (used + estimateTokens env turn)

def fittingTurns (env : TextEnv) (remaining : Int) (turns : List (List Value)) :
    List (List Value) :=
  if remaining ≤ 0 then [] else fitTurns env remaining turns.reverse [] 0

def keptTurns (env : TextEnv) (remaining : Int) (turns : List (List Value)) :
    List (List Value) :=
  if !turns.isEmpty && (fittingTurns env remaining turns).isEmpty then
    turns.drop (turns.length - 1)
  else fittingTurns env remaining turns

def buildOptimizerDelta (env : TextEnv) (config : Config) (context : OptimizerContext) :
    Option HarnessDelta :=
  match computeEffectiveBudget config context with
  | none => none
  | some budget =>
    if budget ≤ 0 then none
    else
      let (systems, nonSystem) := splitSystemAndNonSystem context.latestMessages
      let systemTokens := estimateTokens env systems
      let turns := splitTurns nonSystem
      let forced :=
        !turns.isEmpty && (fittingTurns env (budget - systemTokens) turns).isEmpty
      let kept := keptTurns env (budget - systemTokens) turns
      let keptCount : Value := .int kept.length
      let totalCount : Value := .int turns.length
      let droppedCount : Value := .int (turns.length - kept.length : Int)
      let used : Value := .int (estimateTokens env kept.flatten)
      let bucket := Assoc.update (context.optimizerState "sliding_window")
        [("effective_budget_tokens", .int budget), ("system_tokens", .int systemTokens),
          ("kept_turn_count", keptCount), ("total_turn_count", totalCount),
          ("dropped_turn_count", droppedCount), ("tokens_used", used),
          ("forced_keep_latest_turn", .bool forced)]
      keepTurns "sliding_window" context kept bucket
        [("kept_turn_count", keptCount), ("total_turn_count", totalCount),
          ("dropped_turn_count", droppedCount), ("budget_tokens", .int budget),
          ("used_tokens", used), ("forced_keep_latest_turn", .bool forced)]

end SlidingWindow

/-! ### Tool exchanges -/

/-- What ties a result to its call. -/
inductive ExchangeKey where
  | toolUse (id : Value)
  | function (id : Value)
deriving DecidableEq

/-- The id of a function call or response: its own, else the one of its part. -/
def functionId (kind : String) (part : Value) : Value := ((part.get kind).get "id").or (part.get "id")

def functionParts (kind : String) (message : Value) : List Value :=
  (message.get "parts").items.filter fun part => part.isDict && part.hasKey kind

def callsOf (message : Value) : List ExchangeKey :=
  if hasRole "assistant" message || hasRole "model" message then
    ((message.get "content").items.filter (isBlockOf "tool_use")).map
        (fun block => .toolUse (block.get "id"))
      ++ (functionParts "function_call" message).map fun part =>
        .function (functionId "function_call" part)
  else []

def resultsOf (message : Value) : List ExchangeKey :=
  ((message.get "content").items.filter (isBlockOf "tool_result")).map
      (fun block => .toolUse (block.get "tool_use_id"))
    ++ (functionParts "function_response" message).map fun part =>
      .function (functionId "function_response" part)

def Ordinary (message : Value) : Prop := hasRole "user" message = true ∧ resultsOf message = []

variable (messages : List Value)

/-- The message at position `i` makes the call `r`. -/
def Calls (r : ExchangeKey) (i : Nat) : Prop :=
  ∃ a, messages[i]? = some a ∧ r ∈ callsOf a

def Exchanged : Prop :=
  ∀ j m, messages[j]? = some m → ∀ r ∈ resultsOf m,
    ∃ i < j, Calls messages r i ∧
      ∀ k x, i < k → k < j → messages[k]? = some x → ¬ Ordinary x

/-- The originating call of a result at `j`: the nearest one before it. -/
def Origin (r : ExchangeKey) (i j : Nat) : Prop :=
  i < j ∧ Calls messages r i ∧ ∀ k, i < k → k < j → ¬ Calls messages r k

/-- How many messages before position `k` are not system messages. -/
def nonSystemBefore (k : Nat) : Nat :=
  (splitSystemAndNonSystem (messages.take k)).2.length

/-- The message at position `k` stays when the first `cut` non-system messages go. -/
def Kept (cut k : Nat) : Prop :=
  ∃ m, messages[k]? = some m ∧ (isSystem m = true ∨ cut ≤ nonSystemBefore messages k)

/-- The list is what is left when the first `cut` non-system messages go. -/
def Window (cut : Nat) (out : List Value) : Prop :=
  out = (splitSystemAndNonSystem messages).1 ++ (splitSystemAndNonSystem messages).2.drop cut ∨
    cut = 0 ∧ out = messages

/-- No result stays whose originating call is dropped. -/
def SafeCut (cut : Nat) : Prop :=
  ∀ j m, messages[j]? = some m → Kept messages cut j → ∀ r ∈ resultsOf m,
    ∀ i, Origin messages r i j → Kept messages cut i

def SafeOutput (messages out : List Value) : Prop :=
  ∃ cut ≤ (splitSystemAndNonSystem messages).2.length,
    Window messages cut out ∧ SafeCut messages cut

/-- Whatever the configuration and the rest of the state, neither optimizer splits an
exchange. -/
def NeverSplits : Prop :=
  ∀ context : OptimizerContext, context.latestMessages = messages →
    (∀ lastNTurns, SafeOutput messages
      (applyTo (LastN.buildOptimizerDelta lastNTurns context) messages)) ∧
    ∀ env config, SafeOutput messages
      (applyTo (SlidingWindow.buildOptimizerDelta env config context) messages)

/-- Results stand in messages that are not system messages, and in user messages only
together with other results. -/
def Unmixed : Prop :=
  ∀ m ∈ messages, resultsOf m ≠ [] →
    isSystem m = false ∧ (hasRole "user" m = true → isToolResultLikeMessage m = true)

/-! ### Positions -/

variable {m : Value} {r : ExchangeKey}

theorem callsOf_not_system (h : r ∈ callsOf m) : isSystem m = false := by
  unfold callsOf at h
  split at h
  · rename_i role
    rw [Bool.or_eq_true, hasRole_iff, hasRole_iff] at role
    rw [isSystem, ← Bool.not_eq_true, hasRole_iff]
    rcases role with role | role
    · rw [role]
      decide
    · rw [role]
      decide
  · cases h

/-- What `split_system_and_non_system` puts in its second list. -/
def isNonSystem (message : Value) : Bool := message.isDict && !isSystem message

theorem nonSystem_eq : (splitSystemAndNonSystem messages).2 = messages.filter isNonSystem := by
  simp only [splitSystemAndNonSystem, List.filter_filter]
  exact List.filter_congr fun m _ => Bool.and_comm _ _

theorem nonSystemBefore_eq (k : Nat) :
    nonSystemBefore messages k = passedBefore isNonSystem messages k := by
  rw [nonSystemBefore, nonSystem_eq, passedBefore]

variable {messages : List Value}

theorem isNonSystem_of_calls (clean : ∀ m ∈ messages, m.isDict = true) {i : Nat}
    (h : Calls messages r i) : ∃ a, messages[i]? = some a ∧ isNonSystem a = true := by
  obtain ⟨a, at_i, makes⟩ := h
  refine ⟨a, at_i, ?_⟩
  simp [isNonSystem, clean a (List.mem_of_getElem? at_i), callsOf_not_system makes]

variable {cut : Nat}

theorem safeCut_of_unmixed (clean : ∀ m ∈ messages, m.isDict = true)
    (exchanged : Exchanged messages) (unmixed : Unmixed messages)
    (isCut : IsCut startsTurn (splitSystemAndNonSystem messages).2 cut) : SafeCut messages cut := by
  intro j m at_j keptResult r carries i origin
  obtain ⟨before, calls, nearest⟩ := origin
  obtain ⟨a, at_i, nonSystemCall⟩ := isNonSystem_of_calls clean calls
  refine ⟨a, at_i, .inr ?_⟩
  by_contra dropped
  rw [nonSystemBefore_eq, not_le] at dropped
  -- the result is no system message, so the cut lies between the call and the result
  have memResult := List.mem_of_getElem? at_j
  have hasResults : resultsOf m ≠ [] := List.ne_nil_of_mem carries
  have notSystem := (unmixed m memResult hasResults).1
  have nonSystemResult : isNonSystem m = true := by
    simp [isNonSystem, clean m memResult, notSystem]
  have inWindow : cut ≤ passedBefore isNonSystem messages j := by
    obtain ⟨m', at_j', stays⟩ := keptResult
    cases at_j.symm.trans at_j'
    rwa [notSystem, nonSystemBefore_eq, or_iff_right (by simp)] at stays
  have bound := passedBefore_lt at_j nonSystemResult
  rw [nonSystem_eq] at isCut
  rcases isCut with rfl | rfl | ⟨x, at_cut, starts⟩
  · omega
  · omega
  obtain ⟨k, at_k, nonSystem, position⟩ := position_of_filter at_cut
  have afterCall : i < k := by
    by_contra early
    have := passedBefore_mono isNonSystem messages (not_lt.mp early)
    omega
  have upToResult : k ≤ j := by
    by_contra late
    have step := passedBefore_succ at_j nonSystemResult
    have mono := passedBefore_mono isNonSystem messages (show j + 1 ≤ k by omega)
    omega
  simp only [startsTurn, Bool.and_eq_true, Bool.not_eq_true'] at starts
  by_cases ordinary : resultsOf x = []
  · obtain ⟨i', before', calls', clear⟩ := exchanged j m at_j r carries
    have notBetween : i' ≤ i := by
      by_contra later
      exact nearest i' (by omega) before' calls'
    rcases Nat.lt_or_eq_of_le upToResult with between | rfl
    · exact clear k x (by omega) between at_k ⟨starts.1, ordinary⟩
    · cases at_j.symm.trans at_k
      exact hasResults ordinary
  · have like := (unmixed x (List.mem_of_getElem? at_k) ordinary).2 starts.1
    rw [like] at starts
    exact absurd starts.2 (by decide)

/-! ### Both optimizers cut between turns -/

section Windows

variable (context : OptimizerContext) {cut : Nat}

abbrev turnsFrom (k : Nat) : List (List Value) := (splitTurns context.nonSystem).drop k

theorem window_length {messages out : List Value} (clean : ∀ m ∈ messages, m.isDict = true)
    (window : Window messages cut out) : out.length = (splitSystemAndNonSystem messages).1.length
      + ((splitSystemAndNonSystem messages).2.length - cut) := by
  rcases window with rfl | ⟨rfl, rfl⟩
  · simp
  · have := length_split clean
    omega

theorem applyTo_keepTurns_cut (name : String) (k : Nat) (bucket trace : Dict)
    (rest : (turnsFrom context k).flatten = context.nonSystem.drop cut) :
    applyTo (keepTurns name context (turnsFrom context k) bucket trace) context.latestMessages
      = if Value.eqItems context.latestMessages (context.systems ++ context.nonSystem.drop cut) then
          context.latestMessages
        else context.systems ++ context.nonSystem.drop cut := by
  have cleanRest : ∀ m ∈ context.nonSystem.drop cut,
      m.isDict = true := fun m mem => (mem_nonSystem.mp (List.mem_of_mem_drop mem)).2.1
  have updated : replaceNonSystemSpan context.latestMessages (turnsFrom context k).flatten []
      = context.systems ++ context.nonSystem.drop cut := by
    rw [replaceNonSystemSpan, rest]
    simpa [deepcopyMessages] using cleanRest
  rw [keepTurns, updated, applyTo_replaceMessagesDelta]
  intro m mem
  rcases List.mem_append.mp mem with mem | mem
  · exact (mem_systems.mp mem).2.1
  · exact cleanRest m mem

theorem keepTurns_window (name : String) (k : Nat) (bucket trace : Dict)
    (bound : cut ≤ context.nonSystem.length)
    (rest : (turnsFrom context k).flatten = context.nonSystem.drop cut) :
    Window context.latestMessages cut
      (applyTo (keepTurns name context (turnsFrom context k) bucket trace)
        context.latestMessages) := by
  rw [applyTo_keepTurns_cut context name k bucket trace rest]
  split
  · rename_i same
    have lengths := length_eq_of_eqItems same
    have split : context.systems.length + context.nonSystem.length = _ := length_split context.clean
    rw [List.length_append, List.length_drop] at lengths
    exact .inr ⟨by omega, rfl⟩
  · exact .inl rfl

/-- An answer that leaves the list alone or keeps the turns from some turn on. -/
def KeepsSuffix (delta : Option HarnessDelta) : Prop :=
  applyTo delta context.latestMessages = context.latestMessages ∨
    ∃ name k bucket trace, delta = keepTurns name context
      ((splitTurns (splitSystemAndNonSystem context.latestMessages).2).drop k) bucket trace

theorem lastN_keptTurns (last : Nat) (turns : List (List Value)) : LastN.keptTurns last turns
      = turns.drop (if 0 < last then turns.length - last else turns.length) := by
  unfold LastN.keptTurns
  split
  · rfl
  · exact List.drop_length.symm

theorem lastN_keepsSuffix (lastNTurns : Int) :
    KeepsSuffix context (LastN.buildOptimizerDelta lastNTurns context) := by
  unfold LastN.buildOptimizerDelta
  dsimp only
  split
  · exact .inl (applyTo_stateOnlyDelta _ _ _ _)
  · rw [lastN_keptTurns]
    exact .inr ⟨_, _, _, _, rfl⟩

/-- The loop only ever puts turns in front of the kept ones. -/
theorem fitTurns_suffix (env : TextEnv) (remaining : Int) (reversed kept : List (List Value))
    (used : Int) :
    SlidingWindow.fitTurns env remaining reversed kept used <:+ reversed.reverse ++ kept := by
  induction reversed generalizing kept used with
  | nil => exact List.suffix_refl kept
  | cons turn reversed ih =>
    rw [SlidingWindow.fitTurns]
    split
    · exact List.suffix_append _ kept
    · simpa using ih (turn :: kept) (used + estimateTokens env turn)

theorem slidingWindow_keptTurns (env : TextEnv) (remaining : Int) (turns : List (List Value)) :
    ∃ k, SlidingWindow.keptTurns env remaining turns = turns.drop k := by
  unfold SlidingWindow.keptTurns
  split
  · exact ⟨_, rfl⟩
  · unfold SlidingWindow.fittingTurns
    split
    · exact ⟨turns.length, List.drop_length.symm⟩
    · have suffix := fitTurns_suffix env remaining turns.reverse [] 0
      rw [List.reverse_reverse, List.append_nil] at suffix
      exact ⟨_, List.suffix_iff_eq_drop.mp suffix⟩

theorem slidingWindow_keepsSuffix (env : TextEnv) (config : SlidingWindow.Config) :
    KeepsSuffix context (SlidingWindow.buildOptimizerDelta env config context) := by
  unfold SlidingWindow.buildOptimizerDelta
  split
  · exact .inl rfl
  · rename_i budget _
    split
    · exact .inl rfl
    · dsimp only
      obtain ⟨k, kept⟩ := slidingWindow_keptTurns env
        (budget - estimateTokens env context.systems) (splitTurns context.nonSystem)
      rw [kept]
      exact .inr ⟨_, k, _, _, rfl⟩

theorem safeOutput_of_keepsSuffix {delta : Option HarnessDelta}
    (exchanged : Exchanged context.latestMessages) (unmixed : Unmixed context.latestMessages)
    (keeps : KeepsSuffix context delta) :
    SafeOutput context.latestMessages (applyTo delta context.latestMessages) := by
  rcases keeps with same | ⟨name, k, bucket, trace, rfl⟩
  · refine ⟨0, Nat.zero_le _, .inr ⟨rfl, same⟩, ?_⟩
    exact safeCut_of_unmixed context.clean exchanged unmixed (.inl rfl)
  · obtain ⟨cut, bound, isCut, rest⟩ :=
      drop_segments startsTurn context.nonSystem k
    exact ⟨cut, bound, keepTurns_window context name k bucket trace bound rest,
      safeCut_of_unmixed context.clean exchanged unmixed isCut⟩

/-- Without a failed summary upstream, some number of turns keeps exactly those from
the `k`-th on. -/
theorem lastN_reaches (noSummary : LastN.sourcesRequired context = false) (k : Nat) :
    ∃ lastNTurns bucket trace, LastN.buildOptimizerDelta lastNTurns context
      = keepTurns "last_n" context (turnsFrom context k) bucket trace := by
  set turns := splitTurns context.nonSystem with isTurns
  have kept : LastN.keptTurns (((turns.length - k : Nat) : Int)).toNat turns = turns.drop k := by
    rw [lastN_keptTurns, Int.toNat_natCast]
    split
    · congr 1
      omega
    · rw [List.drop_length, List.drop_eq_nil_of_le (by omega)]
  refine ⟨(turns.length - k : Nat), ?_⟩
  simp only [LastN.buildOptimizerDelta, noSummary, ← isTurns, kept]
  exact ⟨_, _, rfl⟩

theorem safeCut_of_neverSplits (never : NeverSplits context.latestMessages)
    (bound : cut ≤ (splitSystemAndNonSystem context.latestMessages).2.length)
    (reached : ∃ k, (turnsFrom context k).flatten = context.nonSystem.drop cut) :
    SafeCut context.latestMessages cut := by
  obtain ⟨k, rest⟩ := reached
  -- the rest of the state is free, so take one without a failed summary
  let plain : OptimizerContext := { context with stateOptimizers := [] }
  obtain ⟨lastNTurns, bucket, trace, built⟩ := lastN_reaches plain rfl k
  obtain ⟨cut', bound', window', safe⟩ := (never plain rfl).1 lastNTurns
  have window := keepTurns_window plain "last_n" k bucket trace bound rest
  rw [← built] at window
  have lengths := window_length context.clean window
  have lengths' := window_length context.clean window'
  have same : cut = cut' := by
    rw [lengths'] at lengths
    omega
  rwa [same]

end Windows

variable {j : Nat}

theorem exists_nearest {P : Nat → Prop} (some : ∃ i < j, P i) :
    ∃ i < j, P i ∧ ∀ k, i < k → k < j → ¬ P k := by
  classical
  induction j with
  | zero =>
    omega
  | succ j ih =>
    by_cases here : P j
    · exact ⟨j, Nat.lt_succ_self j, here, fun k after before => by omega⟩
    · have earlier : ∃ i < j, P i := by
        obtain ⟨i, before, hi⟩ := some
        refine ⟨i, Nat.lt_of_le_of_ne (by omega) ?_, hi⟩
        rintro rfl
        exact here hi
      obtain ⟨i, before, hi, nearest⟩ := ih earlier
      refine ⟨i, by omega, hi, fun k after upTo => ?_⟩
      rcases Nat.lt_or_eq_of_le (Nat.le_of_lt_succ upTo) with before | rfl
      · exact nearest k after before
      · exact here

theorem not_safeCut (clean : ∀ m ∈ messages, m.isDict = true) (exchanged : Exchanged messages)
    (at_j : messages[j]? = some m) (hasResults : resultsOf m ≠ []) (stays : Kept messages cut j)
    (dropsCalls : ∀ i a, i < j → messages[i]? = some a → isNonSystem a = true →
      passedBefore isNonSystem messages i < cut) : ¬ SafeCut messages cut := by
  intro safe
  obtain ⟨r, carries⟩ := List.exists_mem_of_ne_nil _ hasResults
  obtain ⟨i, before, calls, -⟩ := exchanged j m at_j r carries
  obtain ⟨i, before, calls, nearest⟩ := exists_nearest ⟨i, before, calls⟩
  obtain ⟨a', at_i', keptCall⟩ := safe j m at_j stays r carries i ⟨before, calls, nearest⟩
  obtain ⟨a, at_i, nonSystem⟩ := isNonSystem_of_calls clean calls
  cases at_i.symm.trans at_i'
  have dropped := dropsCalls i _ before at_i nonSystem
  rw [isNonSystem, Bool.and_eq_true, Bool.not_eq_true'] at nonSystem
  rw [nonSystem.2, nonSystemBefore_eq, or_iff_right (by simp)] at keptCall
  omega

/-- For every list whose results follow their calls, no window of either optimizer splits
an exchange exactly when no message mixes tool results with other content. -/
theorem windows_never_split_iff (context : OptimizerContext)
    (exchanged : Exchanged context.latestMessages) :
    NeverSplits context.latestMessages ↔ Unmixed context.latestMessages := by
  constructor
  · intro never m mem hasResults
    obtain ⟨j, at_j⟩ := List.getElem?_of_mem mem
    constructor
    · -- a system result outlives its call when every turn is dropped
      by_contra system
      have system : isSystem m = true := by simpa using system
      refine not_safeCut context.clean exchanged at_j hasResults ⟨m, at_j, .inl system⟩ ?_
        (safeCut_of_neverSplits context never (Nat.le_refl _)
          ⟨(splitTurns context.nonSystem).length, by simp⟩)
      intro i a _ at_i nonSystem
      rw [nonSystem_eq]
      exact passedBefore_lt at_i nonSystem
    · -- a mixed message starts a turn, and that turn can be the first one kept
      intro user
      by_contra notLike
      have starts : startsTurn m = true := by simpa [startsTurn, user] using notLike
      have nonSystem : isNonSystem m = true := by
        have notSystem : isSystem m = false := by
          rw [isSystem, ← Bool.not_eq_true, hasRole_iff, hasRole_iff.mp user]
          decide
        simp [isNonSystem, context.clean m mem, notSystem]
      have dropsCalls : ∀ i a, i < j → context.latestMessages[i]? = some a →
          isNonSystem a = true → passedBefore isNonSystem context.latestMessages i
            < passedBefore isNonSystem context.latestMessages j := by
        intro i a before at_i nonSystem
        have step := passedBefore_succ at_i nonSystem
        have mono := passedBefore_mono isNonSystem context.latestMessages (show i + 1 ≤ j by omega)
        omega
      have positive : 0 < passedBefore isNonSystem context.latestMessages j := by
        obtain ⟨r, carries⟩ := List.exists_mem_of_ne_nil _ hasResults
        obtain ⟨i, before, calls, -⟩ := exchanged j m at_j r carries
        obtain ⟨a, at_i, nonSystemCall⟩ := isNonSystem_of_calls context.clean calls
        exact Nat.zero_lt_of_lt (dropsCalls i a before at_i nonSystemCall)
      have reached := segments_cut startsTurn (getElem?_filter at_j nonSystem) starts positive
      have bound := Nat.le_of_lt (passedBefore_lt at_j nonSystem)
      rw [← nonSystem_eq] at reached bound
      exact not_safeCut context.clean exchanged at_j hasResults
        ⟨m, at_j, .inr (Nat.le_of_eq (nonSystemBefore_eq _ _).symm)⟩ dropsCalls
        (safeCut_of_neverSplits context never bound reached)
  · intro unmixed context' same
    rw [← same] at exchanged unmixed ⊢
    exact ⟨fun lastNTurns =>
        safeOutput_of_keepsSuffix context' exchanged unmixed (lastN_keepsSuffix context' _),
      fun env config => safeOutput_of_keepsSuffix context' exchanged unmixed
        (slidingWindow_keepsSuffix context' env config)⟩

/-! ### A tool result with an image -/

def callMessage : Value :=
  .dict [("role", .str "model"), ("parts", .list
    [.dict [("function_call", .dict
      [("name", .str "screenshot"), ("id", .str "call_1"), ("args", .dict [])])]])]

/-- The message the builder makes for a result with an image: the response is followed
by the image data. -/
def imageResult : Value :=
  .dict [("role", .str "user"), ("parts", .list
    [.dict [("function_response", .dict [("name", .str "screenshot"), ("id", .str "call_1"),
        ("response", .dict [("content", .str "done")])])],
      .dict [("inline_data", .dict [("mime_type", .str "image/png"), ("data", .str "aGk=")])]])]

def plainResult : Value :=
  .dict [("role", .str "user"), ("parts", .list
    [.dict [("function_response", .dict [("name", .str "screenshot"), ("id", .str "call_1"),
        ("response", .dict [("content", .str "done")])])]])]

def contextOf (result : Value) (dict : result.isDict = true) : OptimizerContext where
  latestMessages := [userMessage "hello", callMessage, result]
  clean := by simpa [userMessage, callMessage] using dict
  latestVersionId := some "kv_a"
  maxContextWindowTokens := 0
  optimizerBucket := []
  stateOptimizers := []

theorem exchanged_contextOf {result : Value} (carries : resultsOf result = [.function (.str "call_1")]) :
    Exchanged [userMessage "hello", callMessage, result] := by
  have noneInQuestion : resultsOf (userMessage "hello") = [] := by decide
  have noneInCall : resultsOf callMessage = [] := by decide
  intro j m at_j r mem
  match j, at_j with
  | 0, at_j =>
    cases at_j
    cases mem
  | 1, at_j =>
    cases at_j
    cases mem
  | 2, at_j =>
    cases at_j
    rw [carries, List.mem_singleton] at mem
    subst mem
    exact ⟨1, by decide, ⟨callMessage, rfl, by decide⟩, fun k x after before => by omega⟩
  | j + 3, at_j => simp at at_j

/-- Keeping one turn keeps the result and drops its call. -/
theorem imageResult_split :
    Exchanged (contextOf imageResult rfl).latestMessages ∧
      applyTo (LastN.buildOptimizerDelta 1 (contextOf imageResult rfl))
        (contextOf imageResult rfl).latestMessages = [imageResult] ∧
      ¬ NeverSplits (contextOf imageResult rfl).latestMessages := by
  have exchanged : Exchanged (contextOf imageResult rfl).latestMessages :=
    exchanged_contextOf (by decide)
  have out : applyTo (LastN.buildOptimizerDelta 1 (contextOf imageResult rfl))
      (contextOf imageResult rfl).latestMessages = [imageResult] := by rfl
  refine ⟨exchanged, out, fun never => ?_⟩
  obtain ⟨cut, bound, window, safe⟩ := (never _ rfl).1 1
  have lengths := window_length (contextOf imageResult rfl).clean window
  have cutAtResult : cut = 2 := by
    have systems : (splitSystemAndNonSystem (contextOf imageResult rfl).latestMessages).1.length = 0 := by
      decide
    have nonSystem : (splitSystemAndNonSystem (contextOf imageResult rfl).latestMessages).2.length = 3 := by
      decide
    rw [out, systems, nonSystem, List.length_singleton] at lengths
    omega
  subst cutAtResult
  refine not_safeCut (contextOf imageResult rfl).clean exchanged (j := 2) (m := imageResult) rfl
    (by decide) ⟨imageResult, rfl, .inr (by decide)⟩ ?_ safe
  intro i a before at_i nonSystem
  match i, before with
  | 0, _ => decide
  | 1, _ => decide

/-- A list whose result message holds nothing but the result is never split. -/
theorem windows_never_split_plainResult :
    NeverSplits (contextOf plainResult rfl).latestMessages :=
  (windows_never_split_iff (contextOf plainResult rfl) (exchanged_contextOf (by decide))).mpr (by
    intro m mem
    simp only [contextOf, List.mem_cons, List.not_mem_nil, or_false] at mem
    rcases mem with rfl | rfl | rfl <;> decide)

end Unchain.Optimizers.Turns
