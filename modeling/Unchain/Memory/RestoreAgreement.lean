import Unchain.Memory.Bootstrap
import Unchain.Memory.Validated

/-!
How the two bootstrap harnesses restore one checkpoint.

They agree on everything but the pending model context: one harness merges the new messages into
it, the other copies it. So the new messages reach the model on both paths exactly when there is
nothing to merge.
-/

namespace Unchain.Memory

open Lib Lib.Process Lib.Effect Interaction Python

/-! ### Merging -/

/-- `message.get("role") in {"system", "developer"}`, of a role that can be hashed. -/
def isInstruction (message : Value) : Bool :=
  (message.get "role").eqPy (.str "system") || (message.get "role").eqPy (.str "developer")

def conversationOf (messages : List Value) : List Value :=
  messages.filter fun message => !isInstruction message

theorem isPrompt_ok {message : Value} {prompt : Bool} (h : isPrompt message = .ok prompt) :
    prompt = isInstruction message := by
  unfold isPrompt at h
  split at h
  · unfold isInstruction
    cases role : message.get "role" with
    | str s =>
      rw [role] at h
      cases h
      simp [Value.eqPy, beq_eq_decide]
    | list _ | dict _ =>
      rw [role] at h
      cases h
    | _ =>
      rw [role] at h
      cases h
      rfl
  · cases h

/-- The two halves are told apart by the role. -/
theorem splitMessages_ok : ∀ {messages systems conversation : List Value},
    splitMessages messages = .ok (systems, conversation) →
      systems = messages.filter isInstruction ∧ conversation = conversationOf messages
  | [], _, _, h => by
    cases h
    exact ⟨rfl, rfl⟩
  | message :: messages, _, _, h => by
    simp only [splitMessages, bind_iff, pure_iff] at h
    obtain ⟨prompt, asked, ⟨systems, conversation⟩, split, parts⟩ := h
    obtain ⟨rfl, rfl⟩ := splitMessages_ok split
    obtain rfl := isPrompt_ok asked
    unfold conversationOf
    cases kind : isInstruction message with
    | true | false =>
      rw [kind] at parts
      cases parts
      simp [kind, conversationOf]

variable {messages : List Value}

theorem perm_halves :
    (messages.filter isInstruction ++ conversationOf messages).Perm messages :=
  List.filter_append_perm isInstruction messages

/-- The new instructions are those of the messages that were there. -/
def InstructionsMatch (known incoming : List Value) : Prop :=
  incoming.filter isInstruction = [] ∨
    promptsMatch (known.filter isInstruction) (incoming.filter isInstruction) = true

theorem mergeCheckpointTranscriptWithIncoming_ok {known incoming merged : List Value} :
    mergeCheckpointTranscriptWithIncoming known incoming = .ok merged ↔
      (∃ parts, splitMessages known = .ok parts) ∧ (∃ parts, splitMessages incoming = .ok parts) ∧
        InstructionsMatch known incoming ∧
        merged = known.filter isInstruction ++ conversationOf known ++ conversationOf incoming := by
  simp only [mergeCheckpointTranscriptWithIncoming, bind_iff, pure_iff, raiseIf_ok, exists_const]
  constructor
  · rintro ⟨⟨systems, conversation⟩, known_split, ⟨newSystems, newConversation⟩, incoming_split,
      passed, rfl⟩
    obtain ⟨rfl, rfl⟩ := splitMessages_ok known_split
    obtain ⟨rfl, rfl⟩ := splitMessages_ok incoming_split
    refine ⟨⟨_, known_split⟩, ⟨_, incoming_split⟩, ?_, rfl⟩
    simpa [InstructionsMatch, or_iff_not_imp_left] using passed
  · rintro ⟨⟨⟨systems, conversation⟩, known_split⟩, ⟨⟨newSystems, newConversation⟩, incoming_split⟩,
      matched, rfl⟩
    obtain ⟨rfl, rfl⟩ := splitMessages_ok known_split
    obtain ⟨rfl, rfl⟩ := splitMessages_ok incoming_split
    refine ⟨_, known_split, _, incoming_split, ?_, rfl⟩
    simpa [InstructionsMatch, or_iff_not_imp_left] using matched

/-- The new messages stand behind those that were there. -/
def Behind (known new : List Value) (merged : Option Value) : Prop :=
  ∃ front, merged = some (.list (front ++ new)) ∧ front.Perm known

theorem behind_merged {known incoming merged : List Value}
    (h : mergeCheckpointTranscriptWithIncoming known incoming = .ok merged) :
    Behind known (conversationOf incoming) (some (.list merged)) := by
  obtain ⟨-, -, -, rfl⟩ := mergeCheckpointTranscriptWithIncoming_ok.mp h
  exact ⟨_, rfl, perm_halves⟩

/-! ### Validated fields -/

section Fields

variable {host : InteractionHost} {checkpoint : Value}

/-- What `validate_execution_checkpoint` has checked of the fields that are restored. -/
structure Restorable (checkpoint : Value) : Prop where
  isDict : isDict checkpoint = true
  transcript : ∃ items, checkpoint.get "transcript" = .list items
  iteration : ∃ n, checkpoint.get "iteration" = .int n
  maximum : ∃ n, ((checkpoint.get "max_context_window_tokens").or (.int 0)).toInt = .ok n
  tokens : ∃ es, checkpoint.get "token_state" = .dict es
  workspace : ∃ es, checkpoint.get "workspace_change_state" = .dict es
  frame : ∃ es, checkpoint.get "replay_frame" = .dict es
  pending : checkpoint.get "pending_model_context" = .none ∨
    ∃ items, checkpoint.get "pending_model_context" = .list items

theorem isDict_some {v : Value} (h : (!isDict v) = false) : ∃ es, v = .dict es := by
  cases v with
  | dict es => exact ⟨es, rfl⟩
  | _ => cases h

theorem isList_some {v : Value} (h : (!isList v) = false) : ∃ items, v = .list items := by
  cases v with
  | list items => exact ⟨items, rfl⟩
  | _ => cases h

theorem isCount_some {v : Value} (h : (!isCount v) = false) : ∃ n, v = .int n := by
  cases v with
  | int n => exact ⟨n, rfl⟩
  | _ => cases h

/-- `int(n or 0)`. -/
theorem toInt_or_zero (n : Int) : ((Value.int n).or (.int 0)).toInt = .ok n := by
  by_cases zero : n = 0
  · subst zero
    rfl
  · simp [Value.or, Value.truthy, zero, Value.toInt]

/-- `es or {}`. -/
theorem dict_or_empty (es : Dict) : (Value.dict es).or (.dict []) = .dict es := by
  cases es <;> rfl

theorem Validated.restorable (h : Validated host checkpoint) : Restorable checkpoint := by
  have checked := h.checked
  simp only [checkCheckpoint, checkFields, bind_iff, raiseIf_ok, exists_const] at checked
  obtain ⟨⟨-, _, -, _, -, transcript, iteration, maximum, tokens, _, -, workspace, pending, frame, -⟩,
    -⟩ := checked
  refine ⟨h.isDict, isList_some transcript, isCount_some iteration, ?_, isDict_some tokens,
    isDict_some workspace, isDict_some frame, ?_⟩
  · obtain ⟨n, is⟩ := isCount_some maximum
    unfold Value.getD at is
    unfold Value.get
    cases found : Assoc.get "max_context_window_tokens" checkpoint.entries with
    | none => exact ⟨0, rfl⟩
    | some v =>
      obtain rfl : v = .int n := by simpa [found] using is
      exact ⟨n, toInt_or_zero n⟩
  · cases found : checkpoint.get "pending_model_context" with
    | none => exact .inl rfl
    | list items => exact .inr ⟨items, rfl⟩
    | _ =>
      rw [found] at pending
      cases pending

end Fields

/-! ### The two harnesses -/

section Agreement

variable {host : RuntimeHost} {answers : ∀ c, StorePort.Answer c} {c : MemoryContext}
  {snapshot : SessionSnapshot} {checkpoint : Value}

structure Restores (checkpoint : Value) (messages : List Value) (next : Option Value)
    (delta : MemoryDelta) : Prop where
  transcript : Assoc.get "transcript" delta.stateUpdates = some (.list messages)
  iteration : Assoc.get "iteration" delta.stateUpdates = some (checkpoint.get "iteration")
  tokens : Assoc.get "token_state" delta.stateUpdates = some (checkpoint.get "token_state")
  workspace : Assoc.get "workspace_change_state" delta.stateUpdates =
    some (checkpoint.get "workspace_change_state")
  frame : Assoc.get "provider_replay_frame" delta.stateUpdates =
    some (checkpoint.get "replay_frame")
  next : Assoc.get "next_model_input" delta.stateUpdates = next

/-- The updates that restore an execution. -/
def restoredKeys : List String :=
  ["transcript", "iteration", "token_state", "workspace_change_state", "provider_replay_frame",
    "next_model_input"]

theorem Restores.agree_iff {next next' : Option Value} {delta delta' : MemoryDelta}
    (h : Restores checkpoint messages next delta) (h' : Restores checkpoint messages next' delta') :
    (∀ key ∈ restoredKeys, Assoc.get key delta.stateUpdates = Assoc.get key delta'.stateUpdates) ↔
      next = next' := by
  simp only [restoredKeys, List.forall_mem_cons, h.transcript, h'.transcript, h.iteration,
    h'.iteration, h.tokens, h'.tokens, h.workspace, h'.workspace, h.frame, h'.frame, h.next, h'.next]
  simp

theorem pendingInput_ok {pending : Dict} (h : c.pendingInput checkpoint = .ok pending) :
    pending = [] ∨ ∃ v, pending = [("next_model_input", v)] := by
  unfold MemoryContext.pendingInput at h
  split at h
  · split at h
    · cases h
      exact .inr ⟨_, rfl⟩
    · obtain ⟨merged, -, rfl⟩ := map_ok h
      exact .inr ⟨_, rfl⟩
  · cases h
    exact .inl rfl

structure FreshStart (host : RuntimeHost) (answers : ∀ c, StorePort.Answer c) (c : MemoryContext)
    (snapshot : SessionSnapshot) (checkpoint : Value) : Prop where
  bootstraps : c.phase = .bootstrap
  fresh : c.resumeMode = false
  named : c.sessionId.isEmpty = false
  /-- Both harnesses see the messages the run was started with. -/
  seeded : c.latestMessages = c.transcript
  /-- The session was not cancelled. -/
  loaded : (reconcileCancelledExecutionCheckpoint host c.sessionId cancelledTree).under answers =
    .ok (snapshot, none)
  stored : Assoc.get executionCheckpointKey snapshot.state = some checkpoint
  valid : Validated host.interaction checkpoint
  owned : c.ensureOwned = .ok ()
  accepted : ∃ bootstrapped, (bootstrapSession host c.call).under answers = .ok bootstrapped

namespace FreshStart

variable (start : FreshStart host answers c snapshot checkpoint)
include start

theorem bootstrapSession_eq :
    (bootstrapSession host c.call).under answers = c.call.read host snapshot := by
  have named : c.call.sessionId.isEmpty = false := start.named
  have loaded : (reconcileCancelledExecutionCheckpoint host c.call.sessionId cancelledTree).under
      answers = .ok (snapshot, none) := start.loaded
  simp only [bootstrapSession, named, Bool.false_eq_true, if_false, Prog.under_bind, loaded]
  exact Prog.under_lift _ _

theorem storedCheckpoint : storedCheckpoint host snapshot.state = .ok (some checkpoint) := by
  rw [Memory.storedCheckpoint, start.stored]
  exact congrArg (Except.map some) start.valid.validate

/-- The messages that a fresh run is merged with. -/
theorem restore {history : List Value} (h : c.call.restore host history checkpoint = .ok messages) :
    c.restoreDurable host checkpoint = .ok messages := by
  have fresh : c.call.resumeMode = false := start.fresh
  simp only [BootstrapCall.restore, fresh, Bool.false_eq_true, if_false, bind_iff] at h
  obtain ⟨_, -, _, compatible, restored, ran, merged⟩ := h
  simp only [MemoryContext.restoreDurable, start.fresh, Bool.false_eq_true, if_false,
    bind_iff, start.seeded]
  exact ⟨_, compatible, restored, ran, merged⟩

theorem bootstrapped : ∃ b, (bootstrapSession host c.call).under answers = .ok b ∧
    c.restoreDurable host checkpoint = .ok b.mergedMessages ∧ b.loadedState = snapshot.state ∧
    (Value.dict b.prepareInfo).get "execution_checkpoint_restored" = .bool true ∧
    ∃ memoryState, c.memoryUpdate host b true = .ok memoryState := by
  obtain ⟨b, ran⟩ := start.accepted
  refine ⟨b, ran, ?_⟩
  rw [start.bootstrapSession_eq] at ran
  simp only [BootstrapCall.read, start.storedCheckpoint, bind_iff, pure_iff,
    Except.ok.injEq, exists_eq_left', BootstrapCall.merged] at ran
  obtain ⟨messages, restored, vector, vectorRead, longTerm, longTermRead, pending,
    pendingRead, rfl⟩ := ran
  refine ⟨start.restore restored, rfl, rfl, ?_⟩
  simp only [MemoryContext.memoryUpdate, bind_iff, pure_iff]
  exact ⟨_, vector, vectorRead, longTerm, longTermRead, pending, pendingRead, rfl⟩

theorem restoreLoaded_eq : ∃ maximum, c.restoreLoaded true snapshot.state =
    (c.pendingInput checkpoint).map fun pending =>
      [("provider_replay_frame", checkpoint.get "replay_frame")] ++ pending
        ++ [("iteration", checkpoint.get "iteration"), ("token_state", checkpoint.get "token_state"),
          ("workspace_change_state", checkpoint.get "workspace_change_state"),
          providerUpdate maximum] := by
  have fields := start.valid.restorable
  have held : (Value.dict snapshot.state).get executionCheckpointKey = checkpoint := by
    simp [Value.get, start.stored]
  obtain ⟨n, iteration⟩ := fields.iteration
  obtain ⟨maximum, read⟩ := fields.maximum
  obtain ⟨tokens, tokenState⟩ := fields.tokens
  obtain ⟨workspace, workspaceState⟩ := fields.workspace
  obtain ⟨frame, replayFrame⟩ := fields.frame
  refine ⟨maximum, ?_⟩
  simp only [MemoryContext.restoreLoaded, held, fields.isDict, dictUpdateOf, tokenState,
    workspaceState, replayFrame, iteration, toInt_or_zero, read, Bool.not_true, Bool.false_eq_true, if_false,
    if_true]
  cases c.pendingInput checkpoint with
  | error e => rfl
  | ok pending => simp [bind, Except.bind, Except.map, pure, Except.pure]

/-- The semantic harness merges the pending context. -/
theorem memoryBootstrap_eq : ∃ (messages : List Value) (delta : Dict → MemoryDelta),
    c.restoreDurable host checkpoint = .ok messages ∧
    (memoryBootstrap host c).under answers =
      (c.pendingInput checkpoint).map (fun pending => some (delta pending)) ∧
    ∀ pending, c.pendingInput checkpoint = .ok pending →
      Restores checkpoint messages (Assoc.get "next_model_input" pending) (delta pending) := by
  obtain ⟨b, ran, restored, loaded, marked, memoryState, updated⟩ := start.bootstrapped
  obtain ⟨maximum, read⟩ := start.restoreLoaded_eq
  have first : c.loaded "loaded" = false := by simp [MemoryContext.loaded, start.bootstraps]
  let delta (pending : Dict) : MemoryDelta := {
    createdBy := "memory.memory_bootstrap"
    stateUpdates := [("transcript", .list b.mergedMessages), ("memory_state", .dict memoryState),
        ("memory_prepare_info", .dict b.prepareInfo)] ++ summaryUpdate b.summaryText
      ++ ([("provider_replay_frame", checkpoint.get "replay_frame")] ++ pending
        ++ [("iteration", checkpoint.get "iteration"), ("token_state", checkpoint.get "token_state"),
          ("workspace_change_state", checkpoint.get "workspace_change_state"),
          providerUpdate maximum])
    trace := [("loaded_message_count",
        (Value.dict b.prepareInfo).getD "loaded_message_count" (.int 0)),
      ("resume_mode", .bool c.resumeMode)] }
  have computed : c.memoryDelta host b = (c.pendingInput checkpoint).map delta := by
    simp only [MemoryContext.memoryDelta, marked, Value.truthy, updated, loaded, read]
    cases c.pendingInput checkpoint <;> rfl
  refine ⟨b.mergedMessages, delta, restored, ?_, ?_⟩
  · simp only [memoryBootstrap, first, Bool.false_eq_true, if_false, Prog.under_bind,
      Prog.under_lift, start.owned, ran]
    show (c.memoryDelta host b).map some = _
    rw [computed]
    cases c.pendingInput checkpoint <;> rfl
  · intro pending input
    have summary : ∀ key, key ≠ "optimizer_state" →
        Assoc.get key (summaryUpdate b.summaryText) = none := by
      intro key ne
      unfold summaryUpdate
      split
      · rfl
      · simp [Assoc.get_cons, ne.symm]
    rcases pendingInput_ok input with rfl | ⟨v, rfl⟩ <;>
      constructor <;> simp [delta, Assoc.get_append, Assoc.get_cons, summary, providerUpdate]

theorem loadSnapshot : ∃ held, (loadSnapshot host c.sessionId).under answers = .ok held := by
  have loaded := start.loaded
  simp only [reconcileCancelledExecutionCheckpoint, start.named, Bool.false_eq_true, if_false,
    reconcileRounds, reconcileRound, Prog.under_bind, bind_iff] at loaded
  obtain ⟨round, ⟨held, ran, -⟩, -⟩ := loaded
  exact ⟨held, ran⟩

theorem durabilityBootstrap_eq : ∃ (messages : List Value) (delta : MemoryDelta),
    c.restoreDurable host checkpoint = .ok messages ∧
    (durabilityBootstrap host c).under answers = .ok (some delta) ∧
    Restores checkpoint messages (Assoc.get "next_model_input" (copiedInput checkpoint)) delta := by
  obtain ⟨b, -, restored, -⟩ := start.bootstrapped
  obtain ⟨held, loadedAgain⟩ := start.loadSnapshot
  have first : c.loaded "durability_checkpoint_loaded" = false := by
    simp [MemoryContext.loaded, start.bootstraps]
  have checkpointLoaded : (loadExecutionCheckpoint host c.sessionId).under answers =
      .ok (some checkpoint) := by
    simp only [loadExecutionCheckpoint, start.named, Bool.false_eq_true, if_false, Prog.under_bind,
      start.loaded]
    exact (Prog.under_lift _ _).trans start.storedCheckpoint
  have fields := start.valid.restorable
  obtain ⟨n, iteration⟩ := fields.iteration
  obtain ⟨maximum, read⟩ := fields.maximum
  obtain ⟨tokens, tokenState⟩ := fields.tokens
  obtain ⟨workspace, workspaceState⟩ := fields.workspace
  let updates : Dict := [("transcript", .list b.mergedMessages),
      ("provider_replay_frame", checkpoint.get "replay_frame"), ("iteration", .int n),
      ("token_state", .dict tokens), ("workspace_change_state", .dict workspace),
      providerUpdate maximum] ++ copiedInput checkpoint
  have updated : c.durableUpdates host (some checkpoint) = .ok updates := by
    simp only [MemoryContext.durableUpdates, restored, iteration, toInt_or_zero, read, tokenState,
      workspaceState, dict_or_empty]
    rfl
  refine ⟨b.mergedMessages, {
    createdBy := "memory.memory_durability_bootstrap"
    stateUpdates := ("memory_state", .dict ([("durability_checkpoint_loaded", .bool true),
        ("resume_mode", .bool c.resumeMode)] ++ checkpointInfo host (some checkpoint)
        ++ revisionInfo held)) :: updates
    trace := withoutSemanticMemory ([("applied", .bool true), ("session_id", .str c.sessionId),
        ("resume_mode", .bool c.resumeMode)] ++ checkpointInfo host (some checkpoint)
      ++ revisionInfo held) }, restored, ?_, ?_⟩
  · simp only [durabilityBootstrap, first, start.named, Bool.false_eq_true, if_false,
      Prog.under_bind, Prog.under_lift, checkpointLoaded, loadedAgain]
    show (c.durableDelta host (some checkpoint) held).map some = _
    simp only [MemoryContext.durableDelta, updated]
    rfl
  · constructor <;> simp [updates, Assoc.get_cons, providerUpdate, iteration, tokenState,
      workspaceState]

theorem merged (restored : c.restoreDurable host checkpoint = .ok messages) :
    mergeCheckpointTranscriptWithIncoming (transcriptOf checkpoint) c.transcript = .ok messages := by
  simp only [MemoryContext.restoreDurable, start.fresh, Bool.false_eq_true, if_false,
    bind_iff, start.seeded, restoreFreshCheckpointMessages, raiseIf_ok, exists_const,
    pure_iff] at restored
  obtain ⟨_, -, _, ⟨_, -, -, _, -, _, -, rfl⟩, merged⟩ := restored
  exact merged

theorem pendingInput_list {pending : List Value}
    (there : checkpoint.get "pending_model_context" = .list pending) :
    c.pendingInput checkpoint = (mergeCheckpointTranscriptWithIncoming pending c.transcript).map
      fun merged => [("next_model_input", .list merged)] := by
  simp [MemoryContext.pendingInput, there, start.fresh]

end FreshStart

/-- Both harnesses restore the same, and the new conversation stands behind the checkpoint's. -/
def RestoresAlike (host : RuntimeHost) (answers : ∀ c, StorePort.Answer c) (c : MemoryContext)
    (checkpoint : Value) : Prop :=
  ∃ memory durability : MemoryDelta,
    (memoryBootstrap host c).under answers = .ok (some memory) ∧
    (durabilityBootstrap host c).under answers = .ok (some durability) ∧
    (∀ key ∈ restoredKeys,
      Assoc.get key memory.stateUpdates = Assoc.get key durability.stateUpdates) ∧
    ∀ delta ∈ [memory, durability],
      Behind (transcriptOf checkpoint) (conversationOf c.transcript)
        (Assoc.get "transcript" delta.stateUpdates) ∧
      ∀ pending, checkpoint.get "pending_model_context" = .list pending →
        Behind pending (conversationOf c.transcript)
          (Assoc.get "next_model_input" delta.stateUpdates)

def KeepsPending (checkpoint : Value) (incoming : List Value) : Prop :=
  ∀ pending, checkpoint.get "pending_model_context" = .list pending →
    conversationOf incoming = [] ∧ (∃ parts, splitMessages pending = .ok parts) ∧
      InstructionsMatch pending incoming ∧
      pending = pending.filter isInstruction ++ conversationOf pending

theorem Behind.nothing_new {known new : List Value} (h : Behind known new (some (.list known))) :
    new = [] := by
  obtain ⟨front, same, perm⟩ := h
  obtain rfl : known = front ++ new := by simpa using same
  have lengths := perm.length_eq
  rw [List.length_append] at lengths
  exact List.eq_nil_of_length_eq_zero (by omega)

theorem copiedInput_list {pending : List Value}
    (there : checkpoint.get "pending_model_context" = .list pending) :
    Assoc.get "next_model_input" (copiedInput checkpoint) = some (.list pending) := by
  simp [copiedInput, there, Assoc.get_cons]

/-- A copied context shows the new conversation only when there is none. -/
theorem FreshStart.keepsPending (start : FreshStart host answers c snapshot checkpoint)
    (alike : RestoresAlike host answers c checkpoint) : KeepsPending checkpoint c.transcript := by
  intro pending there
  obtain ⟨memory, durability, ranMemory, ranDurability, agree, shown⟩ := alike
  obtain ⟨messages, delta, restored, semantic, fields⟩ := start.memoryBootstrap_eq
  obtain ⟨messages', delta', restored', durable, fields'⟩ := start.durabilityBootstrap_eq
  obtain rfl : durability = delta' := by simpa [durable] using ranDurability.symm
  have copied : Assoc.get "next_model_input" durability.stateUpdates = some (.list pending) :=
    fields'.next.trans (copiedInput_list there)
  rw [semantic, start.pendingInput_list there] at ranMemory
  obtain ⟨input, ran, same⟩ := map_ok ranMemory
  obtain ⟨merged, ran', rfl⟩ := map_ok ran
  obtain rfl : memory = delta [("next_model_input", .list merged)] := by simpa using same.symm
  have new := ((shown durability (by simp)).2 pending there)
  rw [copied] at new
  have nothing := new.nothing_new
  have read : Assoc.get "next_model_input" (delta [("next_model_input", .list merged)]).stateUpdates =
      some (.list merged) :=
    (fields _ ((start.pendingInput_list there).trans (congrArg (Except.map _) ran'))).next
  have equal := agree "next_model_input" (by simp [restoredKeys])
  rw [read, copied] at equal
  obtain rfl : merged = pending := by simpa using equal
  obtain ⟨parts, -, matched, whole⟩ := mergeCheckpointTranscriptWithIncoming_ok.mp ran'
  rw [nothing, List.append_nil] at whole
  exact ⟨nothing, parts, matched, whole⟩

/-- What a merge leaves as it is, the copy leaves as it is too. -/
theorem FreshStart.alike (start : FreshStart host answers c snapshot checkpoint)
    (keeps : KeepsPending checkpoint c.transcript) : RestoresAlike host answers c checkpoint := by
  obtain ⟨messages, delta, restored, semantic, fields⟩ := start.memoryBootstrap_eq
  obtain ⟨messages', durability, restored', durable, fields'⟩ := start.durabilityBootstrap_eq
  obtain rfl : messages = messages' := Except.ok.inj (restored.symm.trans restored')
  have behind := behind_merged (start.merged restored)
  obtain ⟨-, incoming, -, -⟩ := mergeCheckpointTranscriptWithIncoming_ok.mp (start.merged restored)
  have input : c.pendingInput checkpoint = .ok (copiedInput checkpoint) := by
    rcases start.valid.restorable.pending with none | ⟨pending, there⟩
    · simp [MemoryContext.pendingInput, copiedInput, none]
    · obtain ⟨nothing, parts, matched, whole⟩ := keeps pending there
      have merged : mergeCheckpointTranscriptWithIncoming pending c.transcript = .ok pending :=
        mergeCheckpointTranscriptWithIncoming_ok.mpr ⟨parts, incoming, matched, by
          rw [nothing, List.append_nil]
          exact whole⟩
      rw [start.pendingInput_list there, merged]
      simp [copiedInput, there, Except.map]
  have fields := fields _ input
  rw [input] at semantic
  refine ⟨_, durability, semantic, durable, (fields.agree_iff fields').mpr rfl, ?_⟩
  have shown : ∀ {d : MemoryDelta}, Restores checkpoint messages
      (Assoc.get "next_model_input" (copiedInput checkpoint)) d →
      Behind (transcriptOf checkpoint) (conversationOf c.transcript)
        (Assoc.get "transcript" d.stateUpdates) ∧
      ∀ pending, checkpoint.get "pending_model_context" = .list pending →
        Behind pending (conversationOf c.transcript)
          (Assoc.get "next_model_input" d.stateUpdates) := by
    intro d restores
    refine ⟨restores.transcript ▸ behind, ?_⟩
    intro pending there
    rw [restores.next, copiedInput_list there, (keeps pending there).1]
    exact ⟨pending, by rw [List.append_nil], .refl _⟩
  intro d mem
  rcases List.mem_pair.mp mem with rfl | rfl
  · exact shown fields
  · exact shown fields'

/-- The two paths agree on a fresh run, and show its messages, exactly when there is no pending
context or nothing to merge into it. -/
theorem restore_paths_agree_iff (start : FreshStart host answers c snapshot checkpoint) :
    RestoresAlike host answers c checkpoint ↔ KeepsPending checkpoint c.transcript := by
  constructor
  · exact start.keepsPending
  · exact start.alike

/-! ### A run that stopped at its limit -/

def singleHost : RuntimeHost where
  interaction :=
    { display := fun _ => "", sha256 := fun _ => "d", repr := fun _ => "", className := fun _ => "" }
  supports := fun _ => true
  commitStrategy state _ := .ok state

def userMessage (text : String) : Value := .dict [("role", .str "user"), ("content", .str text)]

def stoppedCheckpoint (pending : Value) : Value :=
  .dict [("schema_version", .int 1), ("status", .str "max_iterations"),
    ("session_id", .str "session"), ("source_run_id", .str "run"), ("provider", .str "openai"),
    ("model", .str "gpt"), ("iteration", .int 2), ("base_session_revision", .none),
    ("transcript", .list [userMessage "first"]), ("pending_model_context", pending),
    ("replay_frame", .dict [("complete", .bool true), ("items", .list [])]),
    ("max_context_window_tokens", .int 0),
    ("token_state", .dict (tokenKeys.map fun key => (key, .int 0))),
    ("workspace_change_state", .dict []), ("checkpoint_id", .str "checkpoint_d"),
    ("integrity", .dict [("algorithm", .str "sha256"), ("payload_sha256", .str "d")])]

def stoppedSession (pending : Value) : SessionSnapshot where
  state := [(executionCheckpointKey, stoppedCheckpoint pending)]
  revision := some 1

def holding (snapshot : SessionSnapshot) : ∀ c, StorePort.Answer c
  | .loadWithRevision _ => .ok (snapshot.state, 1)
  | .save _ _ _ _ => .error (.typeError "read only")
  | .loadExecutionCancellation _ _ => .ok none
  | .verifyLease _ => .ok ()
  | .clockMs => .ok 0

def nextRun : MemoryContext where
  phase := .bootstrap
  sessionId := "session"
  memoryNamespace := ""
  provider := "openai"
  model := "gpt"
  previousResponseId := none
  memoryState := []
  transcript := [userMessage "second"]
  latestMessages := [userMessage "second"]
  resumeMode := false
  continuation := none

theorem freshStart_nextRun {pending : Value}
    (valid : Validated singleHost.interaction (stoppedCheckpoint pending))
    (accepted : ∃ b, nextRun.call.read singleHost (stoppedSession pending) = .ok b) :
    FreshStart singleHost (holding (stoppedSession pending)) nextRun (stoppedSession pending)
      (stoppedCheckpoint pending) := by
  have current : currentCheckpoint singleHost.interaction (stoppedSession pending).state =
      .ok (some (stoppedCheckpoint pending)) := congrArg (Except.map some) valid.validate
  have loaded : (reconcileCancelledExecutionCheckpoint singleHost nextRun.sessionId
      cancelledTree).under (holding (stoppedSession pending)) =
        .ok (stoppedSession pending, none) := by
    have bound : checkpointDomain singleHost nextRun.sessionId (stoppedSession pending) =
        .ok none := by
      rw [checkpointDomain, current]
      rfl
    have round : (reconcileRound singleHost nextRun.sessionId cancelledTree).under
        (holding (stoppedSession pending)) = .ok (.done (stoppedSession pending) none) := by
      have first : (loadSnapshot singleHost nextRun.sessionId).under
          (holding (stoppedSession pending)) = .ok (stoppedSession pending) := rfl
      rw [reconcileRound, Prog.under_bind, first]
      show (Prog.lift (checkpointDomain singleHost nextRun.sessionId (stoppedSession pending))
        >>= _).under _ = _
      rw [bound]
      rfl
    have named : nextRun.sessionId.isEmpty = false := rfl
    rw [reconcileCancelledExecutionCheckpoint, named, if_neg (by decide), reconcileRounds,
      Prog.under_bind, round]
    rfl
  refine ⟨rfl, rfl, rfl, rfl, loaded, rfl, valid, by decide +kernel, ?_⟩
  obtain ⟨b, read⟩ := accepted
  refine ⟨b, ?_⟩
  have named : nextRun.call.sessionId.isEmpty = false := rfl
  have loaded : (reconcileCancelledExecutionCheckpoint singleHost nextRun.call.sessionId
      cancelledTree).under (holding (stoppedSession pending)) =
        .ok (stoppedSession pending, none) := loaded
  simp only [bootstrapSession, named, Bool.false_eq_true, if_false, Prog.under_bind, loaded]
  exact (Prog.under_lift _ _).trans read

theorem accepted_of_isOk {α : Type} {x : Except PyError α} (h : x.isOk = true) : ∃ a, x = .ok a := by
  cases x with
  | ok a => exact ⟨a, rfl⟩
  | error e => cases h

/-- A run whose checkpoint has no pending context is restored alike. -/
theorem restored_alike_without_pending :
    RestoresAlike singleHost (holding (stoppedSession .none)) nextRun (stoppedCheckpoint .none) := by
  have valid : Validated singleHost.interaction (stoppedCheckpoint .none) :=
    ⟨rfl, rfl, by decide +kernel⟩
  have start := freshStart_nextRun valid (accepted_of_isOk (by decide +kernel))
  refine (restore_paths_agree_iff start).mpr ?_
  rintro pending ⟨⟩

/-- A run whose checkpoint has one is not: the copied context lacks the new message. -/
theorem pending_context_hides_message :
    ∃ pending, FreshStart singleHost (holding (stoppedSession pending)) nextRun
        (stoppedSession pending) (stoppedCheckpoint pending) ∧
      ¬ RestoresAlike singleHost (holding (stoppedSession pending)) nextRun
        (stoppedCheckpoint pending) := by
  have valid : Validated singleHost.interaction
      (stoppedCheckpoint (.list [userMessage "first"])) := ⟨rfl, rfl, by decide +kernel⟩
  have start := freshStart_nextRun valid (accepted_of_isOk (by decide +kernel))
  refine ⟨.list [userMessage "first"], start, ?_⟩
  intro alike
  have nothing := (start.keepsPending alike [userMessage "first"] rfl).1
  have new : conversationOf nextRun.transcript = [userMessage "second"] := by decide
  cases nothing

end Agreement

end Unchain.Memory
