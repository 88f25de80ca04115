import Unchain.Lib.Trim
import Unchain.Optimizers.Base

/-!
The tool-pair safety net (`optimizers/tool_pair_safety.py`).

The optimizer strips the calls no message answers and drops an assistant message
of which nothing is left. It then compares the number of messages before and
after, and answers with nothing when the numbers agree. So the calls it stripped
from messages that were not emptied are thrown away with the result, unless some
other message was dropped.

`pairs_established_iff` says exactly when the resulting list is paired and has
lost nothing but orphaned calls.
-/

namespace Unchain.Optimizers.ToolPairSafety

open Python Lib Lib.Effect Kernel

/-! ### The source -/

def string? : Value → Option String
  | .str s => some s
  | _ => none

/-- An id the optimizer recognises: a string that is not empty. -/
def toolId? (v : Value) : Option String := (string? v).filter fun s => s ≠ ""

variable (message : Value)

/-- The `tool_use` blocks of the content. -/
def useBlocks : List Value :=
  (message.get "content").items.filter (isBlockOf "tool_use")

/-- The entries of `tool_calls`. -/
def callEntries : List Value :=
  (message.get "tool_calls").items.filter Value.isDict

def resultBlocks : List Value :=
  (message.get "content").items.filter (isBlockOf "tool_result")

def extractToolUseIds : List String :=
  (useBlocks message ++ callEntries message).filterMap fun part => toolId? (part.get "id")

def extractToolResultIds : List String :=
  (resultBlocks message).filterMap (fun block => toolId? (block.get "tool_use_id"))
    ++ (toolId? (message.get "tool_call_id")).toList

/-- `id in ids` for a set of strings: the lookup hashes the id. -/
def inIds (ids : List String) : Value → Except PyError Bool
  | .str s => .ok (ids.contains s)
  | .list _ => .error (.typeError "unhashable type: 'list'")
  | .dict _ => .error (.typeError "unhashable type: 'dict'")
  | _ => .ok false

/-- The part itself, unless it is one that `isPart` recognises with an orphaned id. -/
def keepPart (isPart : Value → Bool) (orphaned : List String) (part : Value) :
    Except PyError (Option Value) :=
  if isPart part then do
    return if ← inIds orphaned (part.get "id") then none else some part
  else .ok (some part)

def putBlocks (kept : List Value) : Value :=
  message.setKey "content" (if kept.isEmpty then .str "" else .list kept)

def putCalls (kept : List Value) : Value :=
  if kept.isEmpty then message.popKey "tool_calls"
  else message.setKey "tool_calls" (.list kept)

def stripContent (orphaned : List String) (message : Value) : Except PyError Value :=
  match message.get "content" with
  | .list blocks =>
    (collect (keepPart (isBlockOf "tool_use") orphaned) blocks).map (putBlocks message)
  | _ => .ok message

def stripToolCalls (orphaned : List String) (message : Value) : Except PyError Value :=
  match message.get "tool_calls" with
  | .list calls => (collect (keepPart Value.isDict orphaned) calls).map (putCalls message)
  | _ => .ok message

/-- `content not in ("", [], None)`. -/
def hasContent : Bool :=
  match message.get "content" with
  | .none => false
  | .str s => s != ""
  | .list blocks => !blocks.isEmpty
  | _ => true

def hasToolCalls : Bool := (message.get "tool_calls").truthy

/-- One round of the second loop: the message that is appended, if any. -/
def cleanMessage (results : List String) (message : Value) : Except PyError (Option Value) :=
  if !message.isDict || !hasRole "assistant" message then .ok (some message)
  else
    let orphaned := (extractToolUseIds message).filter fun id => !results.contains id
    if orphaned.isEmpty then .ok (some message)
    else do
      let stripped ← stripContent orphaned message
      let stripped ← stripToolCalls orphaned stripped
      return if hasContent stripped || hasToolCalls stripped then some stripped else none

variable (messages : List Value)

def allResultIds : List String :=
  (messages.filter Value.isDict).flatMap extractToolResultIds

def removeOrphanedToolUses : Except PyError (List Value) :=
  collect (cleanMessage (allResultIds messages)) messages

def buildOptimizerDelta (context : OptimizerContext) : Except PyError (Option HarnessDelta) := do
  let messages := context.latestMessages
  let nonSystem := (splitSystemAndNonSystem messages).2
  let cleaned ← removeOrphanedToolUses nonSystem
  if cleaned.length = nonSystem.length then return none
  else
    let updated := replaceNonSystemSpan messages cleaned []
    let bucket : Dict := [("removed_orphans", .int (nonSystem.length - cleaned.length : Int))]
    return replaceMessagesDelta "tool_pair_safety" context updated (some bucket) []

/-! ### What the safety net is for -/

def callIds : List String :=
  if hasRole "assistant" message then
    (useBlocks message ++ callEntries message).filterMap fun part => string? (part.get "id")
  else []

def resultIds : List String :=
  (resultBlocks message).filterMap (fun block => string? (block.get "tool_use_id"))
    ++ (string? (message.get "tool_call_id")).toList

def Answered (id : String) : Prop := ∃ m ∈ messages, id ∈ resultIds m

def Paired : Prop := ∀ m ∈ messages, ∀ id ∈ callIds m, Answered messages id

/-- A call, as a content block or as an entry of `tool_calls`, with an id of which `P` holds. -/
def IsCall (isPart : Value → Bool) (P : String → Prop) (part : Value) : Prop :=
  isPart part = true ∧ ∃ id, part.get "id" = .str id ∧ P id

/-- The message has lost calls whose ids satisfy `P`, and nothing else. -/
structure LosesCalls (P : String → Prop) (message stripped : Value) : Prop where
  assistant : hasRole "assistant" message = true
  others : ∀ key, key ≠ "content" → key ≠ "tool_calls" →
    Assoc.get key stripped.entries = Assoc.get key message.entries
  content : stripped.get "content" = message.get "content" ∨
    ∃ blocks kept, message.get "content" = .list blocks ∧
      Trims Eq (IsCall (isBlockOf "tool_use") P) blocks kept ∧
      stripped.get "content" = if kept.isEmpty then .str "" else .list kept
  toolCalls : stripped.get "tool_calls" = message.get "tool_calls" ∨
    ∃ calls kept, message.get "tool_calls" = .list calls ∧
      Trims Eq (IsCall Value.isDict P) calls kept ∧
      stripped.get "tool_calls" = if kept.isEmpty then .none else .list kept

/-- The message makes calls whose ids satisfy `P` and holds nothing else. -/
structure OnlyCalls (P : String → Prop) (message : Value) : Prop where
  assistant : hasRole "assistant" message = true
  some : ∃ id ∈ callIds message, P id
  content : hasContent message = false ∨ ∃ blocks, message.get "content" = .list blocks ∧
    ∀ block ∈ blocks, IsCall (isBlockOf "tool_use") P block
  toolCalls : hasToolCalls message = false ∨ ∃ calls, message.get "tool_calls" = .list calls ∧
    ∀ call ∈ calls, IsCall Value.isDict P call

/-- The list is unchanged, or its system messages stand first and every other message
is kept, has lost unanswered calls only, or consisted of them. -/
def NothingElseLost (messages out : List Value) : Prop :=
  out = messages ∨
    ∃ kept, out = (splitSystemAndNonSystem messages).1 ++ kept ∧
      Trims (fun m m' => m' = m ∨ LosesCalls (fun id => ¬ Answered messages id) m m')
        (OnlyCalls fun id => ¬ Answered messages id) (splitSystemAndNonSystem messages).2 kept

/-- The optimizer returns, and the list it leaves is paired and complete. -/
def Establishes (context : OptimizerContext) : Prop :=
  ∃ delta, buildOptimizerDelta context = .ok delta ∧
    Paired (applyTo delta context.latestMessages) ∧
    NothingElseLost context.latestMessages (applyTo delta context.latestMessages)

/-! ### The condition -/

/-- No message among these answers the call, and its id is one the optimizer recognises. -/
def Orphaned (nonSystem : List Value) (id : String) : Prop := id ≠ "" ∧ ¬ Answered nonSystem id

def hashable : Value → Bool
  | .list _ => false
  | .dict _ => false
  | _ => true

/-- The ids of a message's calls can be looked up, if any lookup is made. -/
def Readable (nonSystem : List Value) (message : Value) : Prop :=
  (∃ id ∈ callIds message, Orphaned nonSystem id) →
    ∀ part ∈ useBlocks message ++ callEntries message, hashable (part.get "id") = true

def Emptied (nonSystem : List Value) (message : Value) : Prop :=
  OnlyCalls (Orphaned nonSystem) message

structure Handled (messages nonSystem systems : List Value) : Prop where
  readable : ∀ m ∈ nonSystem, Readable nonSystem m
  /-- Without an emptied message nothing is done, so nothing may be left to do. -/
  unchanged : (∀ m ∈ nonSystem, ¬ Emptied nonSystem m) → Paired messages
  /-- A system message does not answer a call that is removed. -/
  systems : (∃ m ∈ nonSystem, Emptied nonSystem m) →
    ∀ m ∈ nonSystem, ∀ id ∈ callIds m, Orphaned nonSystem id → ¬ Answered systems id
  /-- An emptied message is not the only answer to a call that stays. -/
  remaining : (∃ m ∈ nonSystem, Emptied nonSystem m) →
    ∀ m ∈ nonSystem, ∀ id ∈ callIds m, ¬ Orphaned nonSystem id →
      ∃ m' ∈ messages, ¬ Emptied nonSystem m' ∧ id ∈ resultIds m'

/-! ### Ids -/

variable {s : String} {v : Value}

theorem string?_eq_some : string? v = some s ↔ v = .str s := by
  cases v <;> simp [string?]

theorem toolId?_eq_some : toolId? v = some s ↔ v = .str s ∧ s ≠ "" := by
  simp [toolId?, Option.filter_eq_some_iff, string?_eq_some]

variable {id : String} {m : Value}

theorem mem_extractToolUseIds (assistant : hasRole "assistant" m = true) :
    id ∈ extractToolUseIds m ↔ id ∈ callIds m ∧ id ≠ "" := by
  simp only [extractToolUseIds, callIds, assistant, if_true, List.mem_filterMap, toolId?_eq_some,
    string?_eq_some]
  constructor
  · rintro ⟨part, mem, isId, nonempty⟩
    exact ⟨⟨part, mem, isId⟩, nonempty⟩
  · rintro ⟨⟨part, mem, isId⟩, nonempty⟩
    exact ⟨part, mem, isId, nonempty⟩

theorem mem_extractToolResultIds :
    id ∈ extractToolResultIds m ↔ id ∈ resultIds m ∧ id ≠ "" := by
  simp only [extractToolResultIds, resultIds, List.mem_append, List.mem_filterMap,
    Option.mem_toList, toolId?_eq_some, string?_eq_some]
  constructor
  · rintro (⟨block, mem, isId, nonempty⟩ | ⟨isId, nonempty⟩)
    · exact ⟨.inl ⟨block, mem, isId⟩, nonempty⟩
    · exact ⟨.inr isId, nonempty⟩
  · rintro ⟨⟨block, mem, isId⟩ | isId, nonempty⟩
    · exact .inl ⟨block, mem, isId, nonempty⟩
    · exact .inr ⟨isId, nonempty⟩

theorem mem_allResultIds {nonSystem : List Value} (clean : ∀ m ∈ nonSystem, m.isDict = true) :
    id ∈ allResultIds nonSystem ↔ Answered nonSystem id ∧ id ≠ "" := by
  simp only [allResultIds, List.mem_flatMap, List.mem_filter, mem_extractToolResultIds, Answered]
  constructor
  · rintro ⟨m, ⟨mem, -⟩, answers, nonempty⟩
    exact ⟨⟨m, mem, answers⟩, nonempty⟩
  · rintro ⟨⟨m, mem, answers⟩, nonempty⟩
    exact ⟨m, ⟨mem, clean m mem⟩, answers, nonempty⟩

theorem callIds_assistant (h : id ∈ callIds m) : hasRole "assistant" m = true := by
  unfold callIds at h
  split at h
  · assumption
  · cases h

/-! ### Stripping without the lookups -/

section Strip

variable (results : List String)

def orphanPart (isPart : Value → Bool) (part : Value) : Bool :=
  isPart part && match toolId? (part.get "id") with
    | some id => !results.contains id
    | none => false

def withoutOrphanBlocks (message : Value) : Value :=
  match message.get "content" with
  | .list blocks =>
    putBlocks message (blocks.filter fun b => !orphanPart results (isBlockOf "tool_use") b)
  | _ => message

def withoutOrphanCalls (message : Value) : Value :=
  match message.get "tool_calls" with
  | .list calls => putCalls message (calls.filter fun c => !orphanPart results Value.isDict c)
  | _ => message

def stripped (message : Value) : Value := withoutOrphanCalls results (withoutOrphanBlocks results message)

def hasOrphan (message : Value) : Bool :=
  (useBlocks message).any (orphanPart results (isBlockOf "tool_use"))
    || (callEntries message).any (orphanPart results Value.isDict)

def cleaned (message : Value) : Option Value :=
  if !hasRole "assistant" message || !hasOrphan results message then some message
  else if hasContent (stripped results message) || hasToolCalls (stripped results message) then
    some (stripped results message)
  else none

variable {results} {isPart : Value → Bool} {part : Value}

theorem orphanPart_iff :
    orphanPart results isPart part = true ↔
      IsCall isPart (fun id => id ≠ "" ∧ id ∉ results) part := by
  unfold orphanPart IsCall
  cases read : toolId? (part.get "id") with
  | none =>
    constructor
    · intro h
      simp at h
    · rintro ⟨-, id, isId, nonempty, -⟩
      rw [toolId?_eq_some.mpr ⟨isId, nonempty⟩] at read
      cases read
  | some id =>
    obtain ⟨isId, nonempty⟩ := toolId?_eq_some.mp read
    simp [isId, nonempty]

theorem filterMap_unless (p : Value → Bool) (xs : List Value) :
    xs.filterMap (fun x => if p x then none else some x) = xs.filter fun x => !p x := by
  rw [← List.filterMap_eq_filter]
  congr 1
  funext x
  cases h : p x <;> simp [Option.guard, h]

variable {orphaned : List String}

theorem keepPart_ok (ids : ∀ id, isPart part = true → part.get "id" = .str id →
      (id ∈ orphaned ↔ id ≠ "" ∧ id ∉ results)) (readable :
    isPart part = true → hashable (part.get "id") = true) :
    keepPart isPart orphaned part
      = .ok (if orphanPart results isPart part then none else some part) := by
  cases part? : isPart part with
  | false => simp [keepPart, orphanPart, part?]
  | true =>
    have readable := readable part?
    simp only [keepPart, orphanPart, part?, if_true, Bool.true_and]
    cases isId : part.get "id" with
    | list xs | dict es => simp [isId, hashable] at readable
    | str id =>
      have known := ids id part? isId
      by_cases nonempty : id = ""
      · subst nonempty
        have out : "" ∉ orphaned := by simpa using known
        simp [inIds, toolId?, string?, out, Option.filter]
      · simp only [nonempty, ne_eq, not_false_eq_true, true_and] at known
        by_cases answered : id ∈ results <;>
          simp_all [inIds, toolId?, string?, Option.filter]
    | _ => simp [inIds, toolId?, string?]

theorem keepPart_error (part? : isPart part = true) (unreadable : hashable (part.get "id") = false) :
    ∃ e, keepPart isPart orphaned part = .error e := by
  unfold keepPart
  rw [if_pos part?]
  cases isId : part.get "id" with
  | list xs => exact ⟨_, rfl⟩
  | dict es => exact ⟨_, rfl⟩
  | _ => simp [isId, hashable] at unreadable

variable {id : String} {m : Value}

/-- The orphans of one message, as the source computes them. -/
theorem mem_orphaned (assistant : hasRole "assistant" m = true) :
    id ∈ (extractToolUseIds m).filter (fun id => !results.contains id) ↔
      id ∈ callIds m ∧ id ≠ "" ∧ id ∉ results := by
  simp [mem_extractToolUseIds assistant, and_assoc]

theorem mem_callIds (assistant : hasRole "assistant" m = true) :
    id ∈ callIds m ↔ ∃ part ∈ useBlocks m ++ callEntries m, part.get "id" = .str id := by
  simp only [callIds, assistant, if_true, List.mem_filterMap, string?_eq_some]

/-! ### The stripped message -/

def keptParts (results : List String) (isPart : Value → Bool) (parts : List Value) : List Value :=
  parts.filter fun part => !orphanPart results isPart part

theorem isDict_popKey (v : Value) (k : String) : (v.popKey k).isDict = v.isDict := by
  cases v <;> rfl

variable {kept : List Value}

theorem isDict_putCalls : (putCalls m kept).isDict = m.isDict := by
  unfold putCalls
  split
  · exact isDict_popKey _ _
  · exact Value.isDict_setKey _ _ _

theorem get_putBlocks (dict : m.isDict = true) :
    (putBlocks m kept).get "content" = if kept.isEmpty then .str "" else .list kept := by
  rw [putBlocks, Value.get_setKey dict, if_pos rfl]

theorem get_putCalls (dict : m.isDict = true) :
    (putCalls m kept).get "tool_calls" = if kept.isEmpty then .none else .list kept := by
  obtain ⟨es, rfl⟩ := Value.isDict_iff.mp dict
  unfold putCalls
  split
  · simp [Value.popKey, Value.get]
  · rw [Value.get_setKey dict, if_pos rfl]

variable {key : String}

theorem entry_putBlocks (ne : key ≠ "content") :
    Assoc.get key (putBlocks m kept).entries = Assoc.get key m.entries := by
  cases m with
  | dict es => simp [putBlocks, Value.setKey, ne]
  | _ => rfl

theorem entry_putCalls (ne : key ≠ "tool_calls") :
    Assoc.get key (putCalls m kept).entries = Assoc.get key m.entries := by
  unfold putCalls
  cases m with
  | dict es => split <;> simp [Value.setKey, Value.popKey, ne]
  | _ => split <;> rfl

theorem entry_withoutOrphanBlocks (ne : key ≠ "content") :
    Assoc.get key (withoutOrphanBlocks results m).entries = Assoc.get key m.entries := by
  unfold withoutOrphanBlocks
  split
  · exact entry_putBlocks ne
  · rfl

theorem entry_withoutOrphanCalls (ne : key ≠ "tool_calls") :
    Assoc.get key (withoutOrphanCalls results m).entries = Assoc.get key m.entries := by
  unfold withoutOrphanCalls
  split
  · exact entry_putCalls ne
  · rfl

theorem entry_stripped (content : key ≠ "content") (toolCalls : key ≠ "tool_calls") :
    Assoc.get key (stripped results m).entries = Assoc.get key m.entries :=
  (entry_withoutOrphanCalls toolCalls).trans (entry_withoutOrphanBlocks content)

variable {m' : Value}

theorem get_eq_of_entry (h : Assoc.get key m'.entries = Assoc.get key m.entries) :
    m'.get key = m.get key := by
  rw [Value.get, h, Value.get]

theorem isDict_withoutOrphanBlocks :
    (withoutOrphanBlocks results m).isDict = m.isDict := by
  unfold withoutOrphanBlocks
  split
  · exact Value.isDict_setKey _ _ _
  · rfl

theorem isDict_stripped : (stripped results m).isDict = m.isDict := by
  unfold stripped withoutOrphanCalls
  split
  · rw [isDict_putCalls, isDict_withoutOrphanBlocks]
  · exact isDict_withoutOrphanBlocks

theorem content_stripped (results : List String) (dict : m.isDict = true) :
    (stripped results m).get "content" = match m.get "content" with
      | .list blocks =>
        if (keptParts results (isBlockOf "tool_use") blocks).isEmpty then .str ""
        else .list (keptParts results (isBlockOf "tool_use") blocks)
      | content => content := by
  have same : (stripped results m).get "content" = (withoutOrphanBlocks results m).get "content" :=
    get_eq_of_entry (entry_withoutOrphanCalls (by decide))
  rw [same, withoutOrphanBlocks]
  cases content : m.get "content" with
  | list blocks => exact get_putBlocks dict
  | _ => exact content

theorem toolCalls_stripped (results : List String) (dict : m.isDict = true) :
    (stripped results m).get "tool_calls" = match m.get "tool_calls" with
      | .list calls =>
        if (keptParts results Value.isDict calls).isEmpty then .none
        else .list (keptParts results Value.isDict calls)
      | calls => calls := by
  have same : (withoutOrphanBlocks results m).get "tool_calls" = m.get "tool_calls" :=
    get_eq_of_entry (entry_withoutOrphanBlocks (by decide))
  rw [stripped, withoutOrphanCalls, same]
  cases calls : m.get "tool_calls" with
  | list calls => exact get_putCalls ((isDict_withoutOrphanBlocks).trans dict)
  | _ => exact same.trans calls

theorem items_content_stripped (dict : m.isDict = true) : ((stripped results m).get "content").items
      = keptParts results (isBlockOf "tool_use") (m.get "content").items := by
  rw [content_stripped results dict]
  cases m.get "content" with
  | list blocks =>
    simp only [Value.items_list]
    split
    · rename_i empty
      exact (List.isEmpty_iff.mp empty).symm
    · rfl
  | _ => rfl

theorem items_toolCalls_stripped (dict : m.isDict = true) :
    ((stripped results m).get "tool_calls").items
      = keptParts results Value.isDict (m.get "tool_calls").items := by
  rw [toolCalls_stripped results dict]
  cases m.get "tool_calls" with
  | list blocks =>
    simp only [Value.items_list]
    split
    · rename_i empty
      exact (List.isEmpty_iff.mp empty).symm
    · rfl
  | _ => rfl

theorem role_stripped (role : String) : hasRole role (stripped results m) = hasRole role m := by
  rw [hasRole, get_eq_of_entry (entry_stripped (by decide) (by decide)), hasRole]

/-- Exactly the orphaned calls are gone. -/
theorem mem_callIds_stripped (dict : m.isDict = true) :
    id ∈ callIds (stripped results m) ↔ id ∈ callIds m ∧ ¬ (id ≠ "" ∧ id ∉ results) := by
  by_cases assistant : hasRole "assistant" m = true
  · have uses : ∀ part, part ∈ useBlocks (stripped results m) ↔
        part ∈ useBlocks m ∧ ¬ orphanPart results (isBlockOf "tool_use") part = true := by
      intro part
      simp only [useBlocks, items_content_stripped dict, keptParts, List.mem_filter,
        Bool.not_eq_true', Bool.not_eq_true]
      exact and_right_comm
    have calls : ∀ part, part ∈ callEntries (stripped results m) ↔
        part ∈ callEntries m ∧ ¬ orphanPart results Value.isDict part = true := by
      intro part
      simp only [callEntries, items_toolCalls_stripped dict, keptParts, List.mem_filter,
        Bool.not_eq_true', Bool.not_eq_true]
      exact and_right_comm
    rw [mem_callIds (by rwa [role_stripped]), mem_callIds assistant]
    simp only [List.mem_append, uses, calls, orphanPart_iff, IsCall]
    constructor
    · rintro ⟨part, ⟨mem, stays⟩ | ⟨mem, stays⟩, isId⟩
      · exact ⟨⟨part, .inl mem, isId⟩, fun orphan =>
          stays ⟨(List.mem_filter.mp mem).2, id, isId, orphan⟩⟩
      · exact ⟨⟨part, .inr mem, isId⟩, fun orphan =>
          stays ⟨(List.mem_filter.mp mem).2, id, isId, orphan⟩⟩
    · rintro ⟨⟨part, mem, isId⟩, stays⟩
      have notOrphan : ∀ isPart : Value → Bool, ¬ (isPart part = true ∧
          ∃ id, part.get "id" = .str id ∧ id ≠ "" ∧ id ∉ results) := by
        rintro isPart ⟨-, id', isId', orphan⟩
        cases isId.symm.trans isId'
        exact stays orphan
      refine ⟨part, ?_, isId⟩
      rcases mem with mem | mem
      · exact .inl ⟨mem, notOrphan _⟩
      · exact .inr ⟨mem, notOrphan _⟩
  · have none : hasRole "assistant" (stripped results m) ≠ true := by rwa [role_stripped]
    simp [callIds, assistant, none]

theorem resultIds_stripped (dict : m.isDict = true) :
    resultIds (stripped results m) = resultIds m := by
  have callId : (stripped results m).get "tool_call_id" = m.get "tool_call_id" :=
    get_eq_of_entry (entry_stripped (by decide) (by decide))
  have blocks : resultBlocks (stripped results m) = resultBlocks m := by
    rw [resultBlocks, items_content_stripped dict, keptParts, List.filter_filter, resultBlocks]
    refine List.filter_congr fun block _ => ?_
    by_cases result : isBlockOf "tool_result" block = true
    · have notUse : isBlockOf "tool_use" block = false := by
        simp only [isBlockOf, Bool.and_eq_true, Value.eqPy_str_iff] at result
        simp [isBlockOf, result.2, Value.eqPy]
      simp [result, orphanPart, notUse]
    · simp [result]
  rw [resultIds, resultIds, blocks, callId]

/-! ### The loop over the messages -/

theorem hasOrphan_iff (assistant : hasRole "assistant" m = true) :
    hasOrphan results m = true ↔ ∃ id ∈ callIds m, id ≠ "" ∧ id ∉ results := by
  simp only [hasOrphan, Bool.or_eq_true, List.any_eq_true, orphanPart_iff, mem_callIds assistant,
    List.mem_append]
  constructor
  · rintro (⟨part, mem, -, id, isId, orphan⟩ | ⟨part, mem, -, id, isId, orphan⟩)
    · exact ⟨id, ⟨part, .inl mem, isId⟩, orphan⟩
    · exact ⟨id, ⟨part, .inr mem, isId⟩, orphan⟩
  · rintro ⟨id, ⟨part, mem | mem, isId⟩, orphan⟩
    · exact .inl ⟨part, mem, (List.mem_filter.mp mem).2, id, isId, orphan⟩
    · exact .inr ⟨part, mem, (List.mem_filter.mp mem).2, id, isId, orphan⟩

theorem collect_keepPart (results : List String) (assistant : hasRole "assistant" m = true)
    (isPart : Value → Bool) (parts : List Value)
    (own : ∀ part ∈ parts.filter isPart, part ∈ useBlocks m ++ callEntries m)
    (readable : ∀ part ∈ parts.filter isPart, hashable (part.get "id") = true) :
    collect (keepPart isPart ((extractToolUseIds m).filter fun id => !results.contains id)) parts
      = .ok (keptParts results isPart parts) := by
  rw [keptParts, ← filterMap_unless]
  refine collect_ok fun part mem => keepPart_ok ?_ fun part? => ?_
  · intro id part? isId
    have made : id ∈ callIds m :=
      (mem_callIds assistant).mpr ⟨part, own part (List.mem_filter.mpr ⟨mem, part?⟩), isId⟩
    rw [mem_orphaned assistant]
    exact and_iff_right made
  · exact readable part (List.mem_filter.mpr ⟨mem, part?⟩)

theorem stripContent_ok (assistant : hasRole "assistant" m = true)
    (readable : ∀ part ∈ useBlocks m, hashable (part.get "id") = true) :
    stripContent ((extractToolUseIds m).filter fun id => !results.contains id) m
      = .ok (withoutOrphanBlocks results m) := by
  unfold stripContent withoutOrphanBlocks
  cases content : m.get "content" with
  | list blocks =>
    have use : blocks.filter (isBlockOf "tool_use") = useBlocks m := by simp [useBlocks, content]
    have kept := collect_keepPart results assistant (isBlockOf "tool_use") blocks
      (fun part mem => by simp [← use, mem]) (by rwa [use])
    simp only [kept]
    rfl
  | _ => rfl

theorem stripToolCalls_ok (assistant : hasRole "assistant" m = true)
    (readable : ∀ part ∈ callEntries m, hashable (part.get "id") = true) :
    stripToolCalls ((extractToolUseIds m).filter fun id => !results.contains id)
        (withoutOrphanBlocks results m)
      = .ok (stripped results m) := by
  have same : (withoutOrphanBlocks results m).get "tool_calls" = m.get "tool_calls" :=
    get_eq_of_entry (entry_withoutOrphanBlocks (by decide))
  unfold stripToolCalls stripped withoutOrphanCalls
  rw [same]
  cases calls : m.get "tool_calls" with
  | list parts =>
    have entries : parts.filter Value.isDict = callEntries m := by simp [callEntries, calls]
    have kept := collect_keepPart results assistant Value.isDict parts
      (fun part mem => by simp [← entries, mem]) (by rwa [entries])
    simp only [kept]
    rfl
  | _ => rfl

variable {parts : List Value}

theorem collect_keepPart_error (orphaned : List String) (mem : part ∈ parts.filter isPart)
    (unreadable : hashable (part.get "id") = false) :
    ∃ e, collect (keepPart isPart orphaned) parts = .error e := by
  obtain ⟨mem, part?⟩ := List.mem_filter.mp mem
  obtain ⟨e, raises⟩ := keepPart_error part? unreadable
  exact collect_error mem raises

theorem stripContent_error (mem : part ∈ useBlocks m)
    (unreadable : hashable (part.get "id") = false) : ∃ e, stripContent orphaned m = .error e := by
  unfold stripContent
  cases content : m.get "content" with
  | list blocks =>
    rw [useBlocks, content, Value.items_list] at mem
    obtain ⟨e, raises⟩ := collect_keepPart_error orphaned mem unreadable
    exact ⟨e, by simp only [raises]; rfl⟩
  | _ => simp [useBlocks, content, Value.items] at mem

theorem stripToolCalls_error (results : List String) (mem : part ∈ callEntries m)
    (unreadable : hashable (part.get "id") = false) :
    ∃ e, stripToolCalls orphaned (withoutOrphanBlocks results m) = .error e := by
  have same : (withoutOrphanBlocks results m).get "tool_calls" = m.get "tool_calls" :=
    get_eq_of_entry (entry_withoutOrphanBlocks (by decide))
  unfold stripToolCalls
  rw [same]
  cases calls : m.get "tool_calls" with
  | list parts =>
    rw [callEntries, calls, Value.items_list] at mem
    obtain ⟨e, raises⟩ := collect_keepPart_error orphaned mem unreadable
    exact ⟨e, by simp only [raises]; rfl⟩
  | _ => simp [callEntries, calls, Value.items] at mem

theorem orphaned_isEmpty (assistant : hasRole "assistant" m = true) :
    ((extractToolUseIds m).filter fun id => !results.contains id).isEmpty
      = !hasOrphan results m := by
  rw [Bool.eq_iff_iff, List.isEmpty_iff, List.eq_nil_iff_forall_not_mem, Bool.not_eq_true',
    ← Bool.not_eq_true, hasOrphan_iff assistant]
  simp only [mem_orphaned assistant]
  push Not
  rfl

/-- The message's calls have ids that can be looked up. -/
def readableIds (message : Value) : Bool :=
  (useBlocks message ++ callEntries message).all fun part => hashable (part.get "id")

theorem readableIds_eq_false {part : Value} (mem : part ∈ useBlocks m ++ callEntries m)
    (unreadable : hashable (part.get "id") = false) : readableIds m = false := by
  rw [readableIds, List.all_eq_false]
  exact ⟨part, mem, by simp [unreadable]⟩

/-- What the loop does with one message: the result is the cleaned message, unless
some id of a message with orphans cannot be looked up. -/
theorem cleanMessage_cases (results : List String) (dict : m.isDict = true) :
    if hasRole "assistant" m = true ∧ hasOrphan results m = true ∧ readableIds m = false then
      ∃ e, cleanMessage results m = .error e
    else cleanMessage results m = .ok (cleaned results m) := by
  unfold cleanMessage cleaned
  by_cases assistant : hasRole "assistant" m = true
  case neg => simp [assistant]
  by_cases orphan : hasOrphan results m = true
  case neg =>
    simp only [dict, assistant, orphaned_isEmpty assistant]
    simp [orphan]
  simp only [dict, assistant, orphan, Bool.not_true, Bool.or_self, Bool.false_eq_true, if_false,
    orphaned_isEmpty assistant, true_and]
  by_cases uses : ∀ part ∈ useBlocks m, hashable (part.get "id") = true
  · rw [stripContent_ok assistant uses]
    simp only [bind, Except.bind]
    by_cases calls : ∀ part ∈ callEntries m, hashable (part.get "id") = true
    · have readable : readableIds m = true := by
        simpa [readableIds, or_imp, forall_and] using ⟨uses, calls⟩
      rw [stripToolCalls_ok assistant calls]
      simp [readable, pure, Except.pure]
    · push Not at calls
      obtain ⟨part, mem, unreadable⟩ := calls
      have unreadable : hashable (part.get "id") = false := by simpa using unreadable
      obtain ⟨e, raises⟩ := stripToolCalls_error results mem unreadable
      rw [if_pos (readableIds_eq_false (by simp [mem]) unreadable), raises]
      exact ⟨e, rfl⟩
  · push Not at uses
    obtain ⟨part, mem, unreadable⟩ := uses
    have unreadable : hashable (part.get "id") = false := by simpa using unreadable
    obtain ⟨e, raises⟩ := stripContent_error mem unreadable
    rw [if_pos (readableIds_eq_false (by simp [mem]) unreadable), raises]
    exact ⟨e, rfl⟩

/-- The whole loop. -/
theorem removeOrphanedToolUses_cases {messages : List Value}
    (clean : ∀ m ∈ messages, m.isDict = true) : if ∃ m ∈ messages, hasRole "assistant" m = true ∧
        hasOrphan (allResultIds messages) m = true ∧ readableIds m = false then
      ∃ e, removeOrphanedToolUses messages = .error e
    else removeOrphanedToolUses messages
      = .ok (messages.filterMap (cleaned (allResultIds messages))) := by
  split
  · rename_i unreadable
    obtain ⟨m, mem, unreadable⟩ := unreadable
    have step := cleanMessage_cases (allResultIds messages) (clean m mem)
    rw [if_pos unreadable] at step
    obtain ⟨e, raises⟩ := step
    exact collect_error mem raises
  · rename_i readable
    push Not at readable
    refine collect_ok fun m mem => ?_
    have step := cleanMessage_cases (allResultIds messages) (clean m mem)
    rwa [if_neg fun unreadable => readable m mem unreadable.1 unreadable.2.1 unreadable.2.2] at step

/-! ### What becomes of a message -/

theorem keptParts_isEmpty :
    (keptParts results isPart parts).isEmpty = true ↔
      ∀ part ∈ parts, IsCall isPart (fun id => id ≠ "" ∧ id ∉ results) part := by
  simp [keptParts, List.isEmpty_iff, List.filter_eq_nil_iff, ← orphanPart_iff]

theorem keptParts_trims (isPart : Value → Bool) (parts : List Value) :
    Trims Eq (IsCall isPart fun id => id ≠ "" ∧ id ∉ results) parts
      (keptParts results isPart parts) := by
  refine Trims.of_filter fun part _ removed => ?_
  exact orphanPart_iff.mp (by simpa using removed)

section

variable (dict : m.isDict = true)

include dict

theorem hasContent_stripped : hasContent (stripped results m) = false ↔
      hasContent m = false ∨ ∃ blocks, m.get "content" = .list blocks ∧
        ∀ block ∈ blocks, IsCall (isBlockOf "tool_use") (fun id => id ≠ "" ∧ id ∉ results) block := by
  have content := content_stripped results dict
  unfold hasContent
  rw [content]
  cases m.get "content" with
  | list blocks =>
    simp only [Value.list.injEq, exists_eq_left', ← keptParts_isEmpty]
    by_cases empty : (keptParts results (isBlockOf "tool_use") blocks).isEmpty = true
    · simp [empty]
    · have nonempty : blocks ≠ [] := by
        rintro rfl
        exact empty rfl
      simp [empty, nonempty]
  | _ => simp

theorem hasToolCalls_stripped : hasToolCalls (stripped results m) = false ↔
      hasToolCalls m = false ∨ ∃ calls, m.get "tool_calls" = .list calls ∧
        ∀ call ∈ calls, IsCall Value.isDict (fun id => id ≠ "" ∧ id ∉ results) call := by
  have calls := toolCalls_stripped results dict
  unfold hasToolCalls
  rw [calls]
  cases m.get "tool_calls" with
  | list parts =>
    simp only [Value.list.injEq, exists_eq_left', ← keptParts_isEmpty]
    by_cases empty : (keptParts results Value.isDict parts).isEmpty = true
    · simp [empty, Value.truthy]
    · have nonempty : parts ≠ [] := by
        rintro rfl
        exact empty rfl
      simp [empty, nonempty, Value.truthy]
  | _ => simp

/-- A message is dropped exactly when orphaned calls are all it holds. -/
theorem cleaned_eq_none :
    cleaned results m = none ↔ OnlyCalls (fun id => id ≠ "" ∧ id ∉ results) m := by
  unfold cleaned
  by_cases assistant : hasRole "assistant" m = true
  case neg =>
    simp only [assistant, Bool.not_false, Bool.true_or, if_true, reduceCtorEq, false_iff]
    exact fun only => assistant only.assistant
  by_cases orphan : hasOrphan results m = true
  case neg =>
    simp only [orphan, Bool.not_false, Bool.or_true, if_true, reduceCtorEq, false_iff]
    exact fun only => orphan ((hasOrphan_iff assistant).mpr only.some)
  simp only [assistant, orphan, Bool.not_true, Bool.or_self, Bool.false_eq_true, if_false]
  constructor
  · intro dropped
    have gone : hasContent (stripped results m) = false ∧ hasToolCalls (stripped results m) = false := by
      simpa using dropped
    exact
      { assistant := assistant
        some := (hasOrphan_iff assistant).mp orphan
        content := (hasContent_stripped dict).mp gone.1
        toolCalls := (hasToolCalls_stripped dict).mp gone.2 }
  · intro only
    simp [(hasContent_stripped dict).mpr only.content, (hasToolCalls_stripped dict).mpr only.toolCalls]

/-- A message that stays is unchanged or has lost orphaned calls. -/
theorem losesCalls_stripped (assistant : hasRole "assistant" m = true) :
    LosesCalls (fun id => id ≠ "" ∧ id ∉ results) m (stripped results m) where
  assistant := assistant
  others := fun key content calls => entry_stripped content calls
  content := by
    have content := content_stripped results dict
    cases read : m.get "content" with
    | list blocks =>
      rw [read] at content
      exact .inr ⟨blocks, _, rfl, keptParts_trims _ blocks, content⟩
    | _ =>
      rw [read] at content
      exact .inl content
  toolCalls := by
    have calls := toolCalls_stripped results dict
    cases read : m.get "tool_calls" with
    | list parts =>
      rw [read] at calls
      exact .inr ⟨parts, _, rfl, keptParts_trims _ parts, calls⟩
    | _ =>
      rw [read] at calls
      exact .inl calls

/-- Everything the loop can make of a message that stays. -/
theorem cleaned_eq_some (stays : cleaned results m = some m') :
    m'.isDict = true ∧ resultIds m' = resultIds m ∧
      (∀ id, id ∈ callIds m' ↔ id ∈ callIds m ∧ ¬ (id ≠ "" ∧ id ∉ results)) ∧
      (m' = m ∨ LosesCalls (fun id => id ≠ "" ∧ id ∉ results) m m') := by
  unfold cleaned at stays
  split at stays
  · rename_i untouched
    cases stays
    refine ⟨dict, rfl, fun id => ⟨fun made => ⟨made, fun orphan => ?_⟩, And.left⟩, .inl rfl⟩
    have assistant := callIds_assistant made
    have noOrphan : hasOrphan results m = false := by simpa [assistant] using untouched
    rw [(hasOrphan_iff assistant).mpr ⟨id, made, orphan⟩] at noOrphan
    cases noOrphan
  · rename_i touched
    have assistant : hasRole "assistant" m = true := by
      by_contra other
      simp [other] at touched
    split at stays
    · cases stays
      exact ⟨(isDict_stripped).trans dict, resultIds_stripped dict,
        fun id => mem_callIds_stripped dict, .inr (losesCalls_stripped dict assistant)⟩
    · cases stays

end

end Strip

/-! ### The two parts of the result -/

section Mono

variable {P Q : String → Prop} {m : Value} {part : Value}

/-- A call of the message keeps its place when the condition on its id is weakened. -/
theorem IsCall.imp {isPart : Value → Bool} (call : IsCall isPart P part)
    (assistant : hasRole "assistant" m = true)
    (own : isPart part = true → part ∈ useBlocks m ++ callEntries m)
    (imp : ∀ id ∈ callIds m, P id → Q id) : IsCall isPart Q part := by
  obtain ⟨part?, id, isId, hP⟩ := call
  have made : id ∈ callIds m := (mem_callIds assistant).mpr ⟨part, own part?, isId⟩
  exact ⟨part?, id, isId, imp id made hP⟩

theorem own_block {blocks : List Value} (read : m.get "content" = .list blocks)
    (mem : part ∈ blocks) (use : isBlockOf "tool_use" part = true) :
    part ∈ useBlocks m ++ callEntries m :=
  List.mem_append_left _ (List.mem_filter.mpr ⟨by rwa [read], use⟩)

theorem own_call {calls : List Value} (read : m.get "tool_calls" = .list calls) (mem : part ∈ calls)
    (dict : part.isDict = true) : part ∈ useBlocks m ++ callEntries m :=
  List.mem_append_right _ (List.mem_filter.mpr ⟨by rwa [read], dict⟩)

theorem LosesCalls.mono {m' : Value} (h : LosesCalls P m m')
    (imp : ∀ id ∈ callIds m, P id → Q id) : LosesCalls Q m m' where
  assistant := h.assistant
  others := h.others
  content := by
    refine h.content.imp_right ?_
    rintro ⟨blocks, kept, read, trims, rest⟩
    refine ⟨blocks, kept, read, trims.imp fun part mem call => ?_, rest⟩
    exact call.imp h.assistant (own_block read mem) imp
  toolCalls := by
    refine h.toolCalls.imp_right ?_
    rintro ⟨calls, kept, read, trims, rest⟩
    refine ⟨calls, kept, read, trims.imp fun part mem call => ?_, rest⟩
    exact call.imp h.assistant (own_call read mem) imp

theorem OnlyCalls.mono (h : OnlyCalls P m) (imp : ∀ id ∈ callIds m, P id → Q id) :
    OnlyCalls Q m where
  assistant := h.assistant
  some := by
    obtain ⟨id, made, hP⟩ := h.some
    exact ⟨id, made, imp id made hP⟩
  content := by
    refine h.content.imp_right ?_
    rintro ⟨blocks, read, all⟩
    exact ⟨blocks, read, fun part mem => (all part mem).imp h.assistant (own_block read mem) imp⟩
  toolCalls := by
    refine h.toolCalls.imp_right ?_
    rintro ⟨calls, read, all⟩
    exact ⟨calls, read, fun part mem => (all part mem).imp h.assistant (own_call read mem) imp⟩

end Mono

variable {P : String → Prop}

/-- All the calls of such a message satisfy `P`. -/
theorem OnlyCalls.all (h : OnlyCalls P m) (made : id ∈ callIds m) : P id := by
  have of_isCall : ∀ {isPart : Value → Bool} {part : Value}, IsCall isPart P part →
      part.get "id" = .str id → P id := by
    rintro isPart part ⟨-, id', isId', hP⟩ isId
    cases isId.symm.trans isId'
    exact hP
  obtain ⟨part, mem, isId⟩ := (mem_callIds h.assistant).mp made
  rcases List.mem_append.mp mem with mem | mem
  · replace mem := (List.mem_filter.mp mem).1
    rcases h.content with none | ⟨blocks, read, all⟩
    · unfold hasContent at none
      cases read : m.get "content" <;> simp_all [Value.items]
    · rw [read] at mem
      exact of_isCall (all part mem) isId
  · replace mem := (List.mem_filter.mp mem).1
    rcases h.toolCalls with none | ⟨calls, read, all⟩
    · unfold hasToolCalls at none
      cases read : m.get "tool_calls" <;> simp_all [Value.items, Value.truthy]
    · rw [read] at mem
      exact of_isCall (all part mem) isId

/-- A call that may not be lost is still there. -/
theorem LosesCalls.stays {m' : Value} (h : LosesCalls P m m') (made : id ∈ callIds m)
    (keeps : ¬ P id) : id ∈ callIds m' := by
  have role : m'.get "role" = m.get "role" := get_eq_of_entry (h.others _ (by decide) (by decide))
  have assistant : hasRole "assistant" m' = true := by rw [hasRole, role]; exact h.assistant
  obtain ⟨part, mem, isId⟩ := (mem_callIds h.assistant).mp made
  have notLost : ∀ isPart : Value → Bool, ∀ x, IsCall isPart P x → x ≠ part := by
    rintro isPart x ⟨-, id', isId', hP⟩ rfl
    cases isId.symm.trans isId'
    exact keeps hP
  have survives : ∀ {isPart : Value → Bool} {parts kept : List Value},
      Trims Eq (IsCall isPart P) parts kept → part ∈ parts → part ∈ kept := by
    intro isPart parts kept trims mem
    have pass : ∀ x y : Value, x = y → x = part → y = part := by
      rintro x y rfl isPart
      exact isPart
    obtain ⟨y, mem, same⟩ := trims.exists_mem pass (notLost isPart) mem rfl
    rwa [← same]
  refine (mem_callIds assistant).mpr ⟨part, ?_, isId⟩
  rcases List.mem_append.mp mem with mem | mem
  · obtain ⟨mem, part?⟩ := List.mem_filter.mp mem
    refine List.mem_append_left _ (List.mem_filter.mpr ⟨?_, part?⟩)
    rcases h.content with same | ⟨blocks, kept, read, trims, rest⟩
    · rwa [same]
    · rw [read] at mem
      have mem := survives trims mem
      rw [rest, if_neg (by simpa using List.ne_nil_of_mem mem)]
      exact mem
  · obtain ⟨mem, part?⟩ := List.mem_filter.mp mem
    refine List.mem_append_right _ (List.mem_filter.mpr ⟨?_, part?⟩)
    rcases h.toolCalls with same | ⟨calls, kept, read, trims, rest⟩
    · rwa [same]
    · rw [read] at mem
      have mem := survives trims mem
      rw [rest, if_neg (by simpa using List.ne_nil_of_mem mem)]
      exact mem

section Result

variable (context : OptimizerContext)

/-- The messages the optimizer looks at. -/
def nonSystemOf : List Value := (splitSystemAndNonSystem context.latestMessages).2

def systemsOf : List Value := (splitSystemAndNonSystem context.latestMessages).1

variable {m : Value}

theorem nonSystem_isDict (mem : m ∈ nonSystemOf context) : m.isDict = true :=
  (mem_nonSystem.mp mem).2.1

theorem orphaned_eq : Orphaned (nonSystemOf context)
    = fun id => id ≠ "" ∧ id ∉ allResultIds (nonSystemOf context) := by
  funext id
  rw [mem_allResultIds fun m => nonSystem_isDict context, Orphaned]
  simp only [eq_iff_iff]
  tauto

theorem cleaned_none_iff (dict : m.isDict = true) :
    cleaned (allResultIds (nonSystemOf context)) m = none ↔ Emptied (nonSystemOf context) m := by
  rw [cleaned_eq_none dict, Emptied, orphaned_eq]

theorem readable_iff :
    Readable (nonSystemOf context) m ↔ ¬ (hasRole "assistant" m = true ∧
      hasOrphan (allResultIds (nonSystemOf context)) m = true ∧ readableIds m = false) := by
  unfold Readable
  rw [orphaned_eq]
  by_cases assistant : hasRole "assistant" m = true
  · rw [← hasOrphan_iff assistant]
    simp [assistant, readableIds, or_imp, forall_and]
  · have none : callIds m = [] := by simp [callIds, assistant]
    simp [assistant, none]

/-- The messages that stay when some message is emptied. -/
def remainingOf : List Value :=
  (nonSystemOf context).filterMap (cleaned (allResultIds (nonSystemOf context)))

theorem remaining_shorter (dropped : ∃ m ∈ nonSystemOf context, Emptied (nonSystemOf context) m) :
    (remainingOf context).length < (nonSystemOf context).length := by
  obtain ⟨m, mem, emptied⟩ := dropped
  refine List.length_filterMap_lt_length_iff_exists.mpr ⟨m, mem, ?_⟩
  exact (cleaned_none_iff context (nonSystem_isDict context mem)).mpr emptied

theorem remaining_length (none : ∀ m ∈ nonSystemOf context, ¬ Emptied (nonSystemOf context) m) :
    (remainingOf context).length = (nonSystemOf context).length := by
  refine List.filterMap_length_eq_length.mpr fun m mem => ?_
  rw [Option.isSome_iff_ne_none]
  exact fun gone => none m mem ((cleaned_none_iff context (nonSystem_isDict context mem)).mp gone)

/-- The optimizer raises exactly when an id it looks up cannot be hashed. -/
theorem build_raises (unreadable : ¬ ∀ m ∈ nonSystemOf context, Readable (nonSystemOf context) m) :
    ∃ e, buildOptimizerDelta context = .error e := by
  have loop := removeOrphanedToolUses_cases fun m => nonSystem_isDict context (m := m)
  rw [if_pos] at loop
  · obtain ⟨e, raises⟩ := loop
    rw [nonSystemOf] at raises
    exact ⟨e, by simp only [buildOptimizerDelta, raises]; rfl⟩
  · push Not at unreadable
    obtain ⟨m, mem, unreadable⟩ := unreadable
    rw [readable_iff, not_not] at unreadable
    exact ⟨m, mem, unreadable⟩

variable {m' : Value}

theorem remaining_isDict (mem : m' ∈ remainingOf context) : m'.isDict = true := by
  obtain ⟨m, mem, stays⟩ := List.mem_filterMap.mp mem
  exact (cleaned_eq_some (nonSystem_isDict context mem) stays).1

theorem build_eq {kept : List Value} (loop : removeOrphanedToolUses (nonSystemOf context) = .ok kept) :
    buildOptimizerDelta context
      = .ok (if kept.length = (nonSystemOf context).length then none
          else replaceMessagesDelta "tool_pair_safety" context
            (systemsOf context ++ deepcopyMessages kept)
            (some [("removed_orphans", .int ((nonSystemOf context).length - kept.length : Int))])
            []) := by
  have fold : (splitSystemAndNonSystem context.latestMessages).2 = nonSystemOf context := rfl
  simp only [buildOptimizerDelta, fold, loop, bind, Except.bind]
  by_cases same : kept.length = (nonSystemOf context).length
  · rw [if_pos same, if_pos same]
    rfl
  · rw [if_neg same, if_neg same, replaceNonSystemSpan, systemsOf]
    simp [deepcopyMessages, pure, Except.pure]

theorem build_returns (readable : ∀ m ∈ nonSystemOf context, Readable (nonSystemOf context) m) :
    ∃ delta, buildOptimizerDelta context = .ok delta ∧
      ((∀ m ∈ nonSystemOf context, ¬ Emptied (nonSystemOf context) m) →
        applyTo delta context.latestMessages = context.latestMessages) ∧
      ((∃ m ∈ nonSystemOf context, Emptied (nonSystemOf context) m) →
        applyTo delta context.latestMessages = systemsOf context ++ remainingOf context) := by
  have loop := removeOrphanedToolUses_cases fun m => nonSystem_isDict context (m := m)
  rw [if_neg] at loop
  case hnc =>
    rintro ⟨m, mem, unreadable⟩
    exact (readable_iff context).mp (readable m mem) unreadable
  rw [← remainingOf] at loop
  refine ⟨_, build_eq context loop, fun none => ?_, fun dropped => ?_⟩
  · rw [if_pos (remaining_length context none), applyTo_none]
  · have shorter := remaining_shorter context dropped
    rw [if_neg (Nat.ne_of_lt shorter)]
    have copy : deepcopyMessages (remainingOf context) = remainingOf context :=
      List.filter_eq_self.mpr fun m mem => remaining_isDict context mem
    have clean : ∀ m ∈ systemsOf context ++ remainingOf context, m.isDict = true := by
      intro m mem
      rcases List.mem_append.mp mem with mem | mem
      · exact (mem_systems.mp mem).2.1
      · exact remaining_isDict context mem
    have changed : ¬ Value.eqItems context.latestMessages
        (systemsOf context ++ remainingOf context) = true := by
      intro same
      have lengths := length_eq_of_eqItems same
      have split : (systemsOf context).length + (nonSystemOf context).length
          = context.latestMessages.length := length_split context.clean
      rw [List.length_append] at lengths
      omega
    rw [copy, applyTo_replaceMessagesDelta _ _ _ _ clean, if_neg changed]

/-! ### When the result is paired and complete -/

theorem answered_messages {id : String} : Answered context.latestMessages id ↔
    Answered (systemsOf context) id ∨ Answered (nonSystemOf context) id := by
  constructor
  · rintro ⟨m, mem, answers⟩
    cases system : isSystem m with
    | true => exact .inl ⟨m, mem_systems.mpr ⟨mem, context.clean m mem, system⟩, answers⟩
    | false => exact .inr ⟨m, mem_nonSystem.mpr ⟨mem, context.clean m mem, system⟩, answers⟩
  · rintro (⟨m, mem, answers⟩ | ⟨m, mem, answers⟩)
    · exact ⟨m, (mem_systems.mp mem).1, answers⟩
    · exact ⟨m, (mem_nonSystem.mp mem).1, answers⟩

/-- A system message makes no calls, so it is never emptied. -/
theorem system_not_assistant (mem : m ∈ systemsOf context) : hasRole "assistant" m = false := by
  have system := hasRole_iff.mp (mem_systems.mp mem).2.2
  rw [← Bool.not_eq_true, hasRole_iff, system]
  decide

theorem mem_remaining (mem : m' ∈ remainingOf context) :
    ∃ m ∈ nonSystemOf context, ¬ Emptied (nonSystemOf context) m ∧ resultIds m' = resultIds m ∧
      ∀ id, id ∈ callIds m' ↔ id ∈ callIds m ∧ ¬ Orphaned (nonSystemOf context) id := by
  obtain ⟨m, mem, stays⟩ := List.mem_filterMap.mp mem
  have dict := nonSystem_isDict context mem
  obtain ⟨-, results, calls, -⟩ := cleaned_eq_some dict stays
  refine ⟨m, mem, ?_, results, by rwa [orphaned_eq]⟩
  rw [← cleaned_none_iff context dict, stays]
  exact Option.some_ne_none m'

theorem remaining_of_not_emptied (mem : m ∈ nonSystemOf context)
    (stays : ¬ Emptied (nonSystemOf context) m) :
    ∃ m' ∈ remainingOf context, resultIds m' = resultIds m ∧
      ∀ id, id ∈ callIds m' ↔ id ∈ callIds m ∧ ¬ Orphaned (nonSystemOf context) id := by
  have dict := nonSystem_isDict context mem
  cases image : cleaned (allResultIds (nonSystemOf context)) m with
  | none => exact absurd ((cleaned_none_iff context dict).mp image) stays
  | some m' =>
    obtain ⟨-, results, calls, -⟩ := cleaned_eq_some dict image
    exact ⟨m', List.mem_filterMap.mpr ⟨m, mem, image⟩, results, by rwa [orphaned_eq]⟩

theorem paired_remaining_iff :
    Paired (systemsOf context ++ remainingOf context) ↔
      ∀ m ∈ nonSystemOf context, ∀ id ∈ callIds m, ¬ Orphaned (nonSystemOf context) id →
        ∃ m' ∈ context.latestMessages, ¬ Emptied (nonSystemOf context) m' ∧ id ∈ resultIds m' := by
  constructor
  · intro paired m mem id made answered
    have stays : ¬ Emptied (nonSystemOf context) m := fun emptied => answered (emptied.all made)
    obtain ⟨m', mem', -, calls⟩ := remaining_of_not_emptied context mem stays
    obtain ⟨answer, memAnswer, answers⟩ :=
      paired m' (List.mem_append_right _ mem') id ((calls id).mpr ⟨made, answered⟩)
    rcases List.mem_append.mp memAnswer with system | rest
    · refine ⟨answer, (mem_systems.mp system).1, fun emptied => ?_, answers⟩
      exact absurd emptied.assistant (by simp [system_not_assistant context system])
    · obtain ⟨source, memSource, notEmptied, results, -⟩ := mem_remaining context rest
      exact ⟨source, (mem_nonSystem.mp memSource).1, notEmptied, results ▸ answers⟩
  · intro needed m' mem id made
    rcases List.mem_append.mp mem with system | rest
    · have assistant := callIds_assistant made
      rw [system_not_assistant context system] at assistant
      cases assistant
    · obtain ⟨m, mem, -, -, calls⟩ := mem_remaining context rest
      obtain ⟨made, answered⟩ := (calls id).mp made
      obtain ⟨answer, memAnswer, notEmptied, answers⟩ := needed m mem id made answered
      cases system : isSystem answer with
      | true =>
        have memSystem := mem_systems.mpr ⟨memAnswer, context.clean answer memAnswer, system⟩
        exact ⟨answer, List.mem_append_left _ memSystem, answers⟩
      | false =>
        have memRest := mem_nonSystem.mpr ⟨memAnswer, context.clean answer memAnswer, system⟩
        obtain ⟨answer', mem', results, -⟩ := remaining_of_not_emptied context memRest notEmptied
        exact ⟨answer', List.mem_append_right _ mem', results ▸ answers⟩

theorem nothingElseLost_iff (dropped : ∃ m ∈ nonSystemOf context, Emptied (nonSystemOf context) m) :
    NothingElseLost context.latestMessages (systemsOf context ++ remainingOf context) ↔
      ∀ m ∈ nonSystemOf context, ∀ id ∈ callIds m, Orphaned (nonSystemOf context) id →
        ¬ Answered (systemsOf context) id := by
  constructor
  · rintro (same | ⟨kept, split, trims⟩) m mem id made orphaned answered
    · have shorter := remaining_shorter context dropped
      have lengths := congrArg List.length same
      have split : (systemsOf context).length + (nonSystemOf context).length
          = context.latestMessages.length := length_split context.clean
      rw [List.length_append] at lengths
      omega
    · obtain rfl : remainingOf context = kept := List.append_cancel_left split
      have answered : Answered context.latestMessages id :=
        (answered_messages context).mpr (.inl answered)
      obtain ⟨m', mem', made'⟩ := trims.exists_mem (P := (id ∈ callIds ·)) (Q := (id ∈ callIds ·))
        (by
          rintro x y (rfl | loses) made
          · exact made
          · exact loses.stays made (not_not_intro answered))
        (fun x only made => only.all made answered) mem made
      obtain ⟨source, -, -, -, calls⟩ := mem_remaining context mem'
      exact ((calls id).mp made').2 orphaned
  · intro notAnswered
    have unanswered : ∀ m ∈ nonSystemOf context, ∀ id ∈ callIds m,
        Orphaned (nonSystemOf context) id → ¬ Answered context.latestMessages id := by
      intro m mem id made orphaned answered
      rcases (answered_messages context).mp answered with system | rest
      · exact notAnswered m mem id made orphaned system
      · exact orphaned.2 rest
    refine .inr ⟨remainingOf context, rfl, Trims.of_filterMap ?_ ?_⟩
    · intro m mem m' stays
      obtain ⟨-, -, -, kept⟩ := cleaned_eq_some (nonSystem_isDict context mem) stays
      rw [← orphaned_eq] at kept
      exact kept.imp_right fun loses => loses.mono (unanswered m mem)
    · intro m mem gone
      have emptied := (cleaned_none_iff context (nonSystem_isDict context mem)).mp gone
      exact emptied.mono (unanswered m mem)

end Result

/-- The safety net establishes its invariant exactly on the lists that are `Handled`. -/
theorem pairs_established_iff (context : OptimizerContext) : Establishes context ↔
      Handled context.latestMessages (splitSystemAndNonSystem context.latestMessages).2
        (splitSystemAndNonSystem context.latestMessages).1 := by
  constructor
  · rintro ⟨delta, built, paired, lost⟩
    have readable : ∀ m ∈ nonSystemOf context, Readable (nonSystemOf context) m := by
      by_contra unreadable
      obtain ⟨e, raises⟩ := build_raises context unreadable
      rw [raises] at built
      cases built
    obtain ⟨delta', built', unchanged, changed⟩ := build_returns context readable
    cases built.symm.trans built'
    refine ⟨readable, fun none => ?_, fun dropped => ?_, fun dropped => ?_⟩
    · rwa [unchanged none] at paired
    · rw [changed dropped] at lost
      exact (nothingElseLost_iff context dropped).mp lost
    · rw [changed dropped] at paired
      exact (paired_remaining_iff context).mp paired
  · intro handled
    obtain ⟨delta, built, unchanged, changed⟩ := build_returns context handled.readable
    refine ⟨delta, built, ?_⟩
    by_cases dropped : ∃ m ∈ nonSystemOf context, Emptied (nonSystemOf context) m
    · rw [changed dropped]
      exact ⟨(paired_remaining_iff context).mpr (handled.remaining dropped),
        (nothingElseLost_iff context dropped).mpr (handled.systems dropped)⟩
    · push Not at dropped
      rw [unchanged dropped]
      exact ⟨handled.unchanged dropped, .inl rfl⟩

/-- An assistant message with a text block and a call that nothing answers. -/
def textAndOrphan : Value :=
  .dict [("role", .str "assistant"), ("content", .list
    [.dict [("type", .str "text"), ("text", .str "Let me check.")],
      .dict [("type", .str "tool_use"), ("id", .str "call_1"), ("name", .str "search"),
        ("input", .dict [])]])]

def mixedContext : OptimizerContext where
  latestMessages := [userMessage "hello", textAndOrphan]
  clean := by decide
  latestVersionId := some "kv_a"
  maxContextWindowTokens := 0
  optimizerBucket := []
  stateOptimizers := []

/-- The call is stripped, the message stays, and so the result is thrown away. -/
theorem mixed_message_not_established :
    removeOrphanedToolUses [userMessage "hello", textAndOrphan]
        = .ok [userMessage "hello", .dict [("role", .str "assistant"), ("content", .list
            [.dict [("type", .str "text"), ("text", .str "Let me check.")]])]] ∧
      buildOptimizerDelta mixedContext = .ok none ∧ ¬ Establishes mixedContext := by
  have nothing : buildOptimizerDelta mixedContext = .ok none := rfl
  refine ⟨rfl, nothing, ?_⟩
  rintro ⟨delta, built, paired, -⟩
  cases nothing.symm.trans built
  have made : "call_1" ∈ callIds textAndOrphan := by decide
  obtain ⟨answer, mem, answers⟩ := paired textAndOrphan (by simp [mixedContext]) "call_1" made
  simp only [applyTo_none, mixedContext, List.mem_cons, List.not_mem_nil, or_false] at mem
  rcases mem with rfl | rfl
  · exact absurd answers (by decide)
  · exact absurd answers (by decide)

end Unchain.Optimizers.ToolPairSafety
