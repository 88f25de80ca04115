import Unchain.Kernel.State

/-!
What the context optimizers share (`optimizers/base.py` and the message helpers
of `optimizers/common.py`).

An optimizer reads the latest messages and answers with a delta: one span
replacement when it changes the list, state updates alone when it does not, and
nothing at all when it has no opinion. `applyTo` is the list that results.
-/

namespace Unchain.Optimizers

open Python Lib Kernel

structure OptimizerContext where
  latestMessages : List Value
  /-- The version graph hands out dictionaries only. -/
  clean : ∀ m ∈ latestMessages, m.isDict = true
  latestVersionId : Option VersionId
  maxContextWindowTokens : Nat
  /-- `state.component_bucket("optimizers")`. -/
  optimizerBucket : Dict
  /-- `state.optimizer_state`. -/
  stateOptimizers : Dict

/-- `context.optimizer_state()`: the optimizer's own entry. -/
def OptimizerContext.optimizerState (context : OptimizerContext) (name : String) : Dict :=
  childDict name context.optimizerBucket

/-! ### System messages -/

def isSystem (message : Value) : Bool := hasRole "system" message

def splitSystemAndNonSystem (messages : List Value) : List Value × List Value :=
  let dicts := messages.filter Value.isDict
  (dicts.filter isSystem, dicts.filter fun m => !isSystem m)

def replaceNonSystemSpan (messages replacement : List Value) (injected : List Value) :
    List Value :=
  (splitSystemAndNonSystem messages).1 ++ deepcopyMessages injected ++ deepcopyMessages replacement

abbrev OptimizerContext.systems (context : OptimizerContext) : List Value :=
  (splitSystemAndNonSystem context.latestMessages).1

abbrev OptimizerContext.nonSystem (context : OptimizerContext) : List Value :=
  (splitSystemAndNonSystem context.latestMessages).2

variable {m : Value} {messages : List Value}

theorem mem_systems :
    m ∈ (splitSystemAndNonSystem messages).1 ↔
      m ∈ messages ∧ m.isDict = true ∧ isSystem m = true := by
  simp only [splitSystemAndNonSystem, List.mem_filter, and_assoc]

theorem mem_nonSystem :
    m ∈ (splitSystemAndNonSystem messages).2 ↔
      m ∈ messages ∧ m.isDict = true ∧ isSystem m = false := by
  simp only [splitSystemAndNonSystem, List.mem_filter, and_assoc, Bool.not_eq_true']

theorem length_split (clean : ∀ m ∈ messages, m.isDict = true) :
    (splitSystemAndNonSystem messages).1.length + (splitSystemAndNonSystem messages).2.length
      = messages.length := by
  have all : messages.filter Value.isDict = messages := by simpa using clean
  simp only [splitSystemAndNonSystem, all]
  exact (List.length_eq_length_filter_add isSystem).symm

/-! ### Deltas -/

def createdBy (name : String) : String := "optimizer." ++ name

variable (name : String) (bucket : Option Dict)

def buildStateUpdates : Dict :=
  match bucket with
  | none => []
  | some bucket => [("optimizer_state", .dict [(name, .dict bucket)])]

def stateOnlyDelta (trace : Dict) : Option HarnessDelta :=
  let stateUpdates := buildStateUpdates name bucket
  if stateUpdates.isEmpty && trace.isEmpty then none
  else some
    { createdBy := createdBy name
      baseVersionId := none
      rebaseToLatest := true
      ops := []
      stateUpdates := stateUpdates
      trace := trace
      suspend := none }

def replaceMessagesDelta (name : String) (context : OptimizerContext) (messages : List Value)
    (bucket : Option Dict) (trace : Dict) : Option HarnessDelta :=
  if Value.eqItems context.latestMessages messages then stateOnlyDelta name bucket trace
  else some
    { createdBy := createdBy name
      baseVersionId := context.latestVersionId
      rebaseToLatest := true
      ops := [.replaceSpan 0 context.latestMessages.length messages]
      stateUpdates := buildStateUpdates name bucket
      trace := trace
      suspend := none }

/-- The list after the optimizer's answer. -/
def applyTo (delta : Option HarnessDelta) (messages : List Value) : List Value :=
  match delta with
  | none => messages
  | some delta => MessageOp.editAll delta.ops messages

@[simp] theorem applyTo_none (messages : List Value) : applyTo none messages = messages := rfl

@[simp] theorem applyTo_stateOnlyDelta (trace : Dict) (messages : List Value) :
    applyTo (stateOnlyDelta name bucket trace) messages = messages := by
  unfold stateOnlyDelta
  dsimp only
  split
  · rfl
  · rfl

theorem applyTo_replaceAll {delta : HarnessDelta} {new : List Value}
    (ops : delta.ops = [.replaceSpan 0 messages.length new]) :
    applyTo (some delta) messages = deepcopyMessages new := by
  simp [applyTo, MessageOp.editAll, ops, MessageOp.isActivate, MessageOp.edit, clampIndex,
    spliceSpan]

theorem length_eq_of_eqItems {xs ys : List Value} (h : Value.eqItems xs ys = true) :
    xs.length = ys.length := by
  induction xs generalizing ys with
  | nil => cases ys <;> simp_all [Value.eqItems]
  | cons x xs ih =>
    cases ys with
    | nil => simp [Value.eqItems] at h
    | cons y ys => simp [ih (by simp [Value.eqItems] at h; exact h.2)]

/-- An optimizer that replaces the messages either changes nothing, because the
list is equal already, or leaves exactly the new list. -/
theorem applyTo_replaceMessagesDelta (name : String) (context : OptimizerContext)
    (bucket : Option Dict) (trace : Dict) (clean : ∀ m ∈ messages, m.isDict = true) :
    applyTo (replaceMessagesDelta name context messages bucket trace) context.latestMessages
      = if Value.eqItems context.latestMessages messages then context.latestMessages
        else messages := by
  unfold replaceMessagesDelta
  split
  · exact applyTo_stateOnlyDelta _ _ _ _
  · rw [applyTo_replaceAll rfl]
    simpa [deepcopyMessages] using clean

end Unchain.Optimizers
