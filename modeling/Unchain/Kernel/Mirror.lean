import Unchain.Kernel.Application

/-!
The mirror of the run state in its component state.

Seven fields of the run state have a copy in the generic component buckets, for
harnesses that read those. State updates write both sides. Runtime operations
write wherever their path leads: a path that reaches one side alone breaks the
mirror, and only the root of `workspace_change_state` and merges into the memory
and optimizer dictionaries are redirected.

* `Mirrored` — the invariant of a run: the mirror together with what the writes
  to both sides rely on.
* `applyStateUpdate_mirrored` — every state update keeps it.
* `applyContextOp_mirrored` — so does every operation whose path is `SafePath`.
* `mirror_of_run` — it holds after each call of a run of such deltas.
-/

namespace Unchain.Kernel

open Python Lib Lib.Effect
open RunState (write_field_of_ne write_field_self)

/-! ### The invariant -/

def mirrored : List (Field × List String) :=
  [(.optimizerState, ["optimizers"]), (.memoryState, ["memory", "state"]),
    (.memoryPrepareInfo, ["memory", "prepare_info"]),
    (.memoryCommitInfo, ["memory", "commit_info"]),
    (.toolBatchState, ["tools", "tool_batch_state"]),
    (.workspaceChangeState, ["workspace_changes", "state"]),
    (.subagentState, ["subagents", "state"])]

/-- Every copy equals its field. -/
def Mirror (s : RunState) : Prop :=
  ∀ m ∈ mirrored, (s.field .componentState).getPath m.2 = some (s.field m.1)

structure Mirrored (s : RunState) : Prop where
  mirror : Mirror s
  bucketCallable : Assoc.has "component_bucket" s.overrides = false
  toolBatch : ToolBatchState.IsRecord (s.field .toolBatchState)
  subagents : SubagentState.IsRecord (s.field .subagentState)

/-- The fields the invariant reads. -/
def tracked : List Field := .componentState :: mirrored.map Prod.fst

variable {s : RunState}

theorem Mirrored.components (h : Mirrored s) : ∃ cs, s.field .componentState = .dict cs := by
  have stored := h.mirror (.optimizerState, ["optimizers"]) (by simp [mirrored])
  cases hv : s.field .componentState with
  | dict cs => exact ⟨cs, rfl⟩
  | _ => simp [hv, Value.getPath] at stored

variable {cs : Dict}

theorem Mirrored.copy (h : Mirrored s) (hcs : s.field .componentState = .dict cs)
    {m : Field × List String} (mem : m ∈ mirrored) :
    (Value.dict cs).getPath m.2 = some (s.field m.1) := hcs ▸ h.mirror m mem

/-- Copies lie apart, and each field has one. -/
theorem mirrored_apart : ∀ m ∈ mirrored, ∀ m' ∈ mirrored, m' ≠ m →
    m'.1 ≠ m.1 ∧ Part m.2 m'.2 := by decide

theorem mirrored_path_ne_nil : ∀ m ∈ mirrored, m.2 ≠ [] := by decide

theorem component_not_mirrored : ∀ m ∈ mirrored, m.1 ≠ .componentState := by decide

/-! ### Writes that keep the invariant -/

def KeepsTracked (s s' : RunState) : Prop :=
  (∀ f ∈ tracked, s'.field f = s.field f) ∧
    Assoc.has "component_bucket" s'.overrides = Assoc.has "component_bucket" s.overrides

theorem KeepsTracked.refl (s : RunState) : KeepsTracked s s := ⟨fun _ _ => rfl, rfl⟩

theorem KeepsTracked.trans (s t u : RunState) (h : KeepsTracked s t) (h' : KeepsTracked t u) :
    KeepsTracked s u :=
  ⟨fun f mem => (h'.1 f mem).trans (h.1 f mem), h'.2.trans h.2⟩

variable {s' : RunState}

theorem KeepsTracked.invariant (keeps : KeepsTracked s s') (h : Mirrored s) : Mirrored s' := by
  have field : ∀ m ∈ mirrored, s'.field m.1 = s.field m.1 := fun m mem =>
    keeps.1 m.1 (by simp only [tracked, List.mem_cons, List.mem_map]; exact .inr ⟨m, mem, rfl⟩)
  refine ⟨fun m mem => ?_, keeps.2.trans h.bucketCallable, ?_, ?_⟩
  · rw [keeps.1 .componentState (by simp [tracked]), field m mem]
    exact h.mirror m mem
  · exact keeps.1 .toolBatchState (by decide) ▸ h.toolBatch
  · exact keeps.1 .subagentState (by decide) ▸ h.subagents

variable {fs : List Field}

theorem SameExcept.keepsTracked (apart : ∀ f ∈ tracked, f ∉ fs) (same : SameExcept fs s s') :
    KeepsTracked s s' :=
  ⟨fun f mem => same.2.2 f (apart f mem), by rw [same.2.1]⟩

theorem Frame.invariant {α : Type} {m : RunM α} (h : Frame fs m) (apart : ∀ f ∈ tracked, f ∉ fs) :
    Preserves Mirrored m :=
  fun s inv => ((h s).keepsTracked apart).invariant inv

variable {v : Value}

/-- A field and its copy written together. -/
theorem Mirrored.write_pair (h : Mirrored s) (hcs : s.field .componentState = .dict cs)
    {m : Field × List String} (mem : m ∈ mirrored)
    (toolBatch : m.1 = .toolBatchState → ToolBatchState.IsRecord v)
    (subagents : m.1 = .subagentState → SubagentState.IsRecord v) :
    Mirrored ((s.write m.1 v).write .componentState (.dict (setPath cs m.2 v))) := by
  have noComponent := component_not_mirrored m mem
  have written : ∀ f, f ≠ .componentState → f ≠ m.1 →
      ((s.write m.1 v).write .componentState (.dict (setPath cs m.2 v))).field f = s.field f :=
    fun f ne ne' => by simp [ne, ne']
  refine ⟨fun m' mem' => ?_, h.bucketCallable, ?_, ?_⟩
  · rw [write_field_self]
    by_cases same : m' = m
    · subst same
      rw [getPath_setPath_self cs (mirrored_path_ne_nil _ mem'),
        write_field_of_ne noComponent, write_field_self]
    · obtain ⟨other, part⟩ := mirrored_apart m mem m' mem' same
      rw [written m'.1 (component_not_mirrored m' mem') other]
      exact getPath_setPath part (h.copy hcs mem')
  · by_cases same : Field.toolBatchState = m.1
    · rw [write_field_of_ne (by decide), same, write_field_self]
      exact toolBatch same.symm
    · rw [written _ (by decide) same]
      exact h.toolBatch
  · by_cases same : Field.subagentState = m.1
    · rw [write_field_of_ne (by decide), same, write_field_self]
      exact subagents same.symm
    · rw [written _ (by decide) same]
      exact h.subagents

theorem Mirrored.write_components (h : Mirrored s) {cs' : Dict}
    (hcs : s.field .componentState = .dict cs)
    (keeps : ∀ m ∈ mirrored, ∀ v, (Value.dict cs).getPath m.2 = some v →
      (Value.dict cs').getPath m.2 = some v) : Mirrored (s.write .componentState (.dict cs')) := by
  refine ⟨fun m mem => ?_, h.bucketCallable, ?_, ?_⟩
  · rw [write_field_self, write_field_of_ne (component_not_mirrored m mem)]
    exact keeps m mem _ (h.copy hcs mem)
  · rw [write_field_of_ne (by decide)]
    exact h.toolBatch
  · rw [write_field_of_ne (by decide)]
    exact h.subagents

variable {name : String}

theorem callMethod_of_not_has (h : Assoc.has name s.overrides = false) :
    callMethod name s = .ok () s := by
  unfold callMethod
  rw [bind_of_ok (get_run s), h]
  rfl

theorem updateBucket_of_callable (callable : Assoc.has "component_bucket" s.overrides = false)
    (hcs : s.field .componentState = .dict cs) (name : String) (f : Dict → Dict) :
    updateBucket name f s
      = .ok () (s.write .componentState (.dict (putBucket cs name (f (bucketOf cs name))))) := by
  unfold updateBucket
  rw [bind_of_ok (callMethod_of_not_has callable), bind_of_ok (readField_run _ s), hcs]
  rfl

theorem updateBucket_mirrored (name : String) (f : Dict → Dict)
    (keeps : ∀ cs : Dict, ∀ m ∈ mirrored, ∀ v, (Value.dict cs).getPath m.2 = some v →
      (Value.dict (putBucket cs name (f (bucketOf cs name)))).getPath m.2 = some v) :
    Preserves Mirrored (updateBucket name f) := by
  intro s h
  obtain ⟨cs, hcs⟩ := h.components
  rw [updateBucket_of_callable h.bucketCallable hcs]
  exact h.write_components hcs (keeps cs)

/-- A write along a path that parts from every copy. -/
def Apart (path : List String) : Prop := ∀ m ∈ mirrored, Part path m.2

instance (path : List String) : Decidable (Apart path) :=
  inferInstanceAs (Decidable (∀ m ∈ mirrored, Part path m.2))

variable {key : String}

theorem setInBucket_mirrored (apart : Apart [name, key]) (v : Value) :
    Preserves Mirrored (setInBucket name key v) :=
  updateBucket_mirrored name _ fun _ m mem _ stored => getPath_setPath (apart m mem) stored

variable {f : Field}

theorem write_then_setInBucket_mirrored (mem : (f, [name, key]) ∈ mirrored)
    (toolBatch : f = .toolBatchState → ToolBatchState.IsRecord v)
    (subagents : f = .subagentState → SubagentState.IsRecord v) :
    Preserves Mirrored (writeField f v >>= fun _ => setInBucket name key v) := by
  intro s h
  obtain ⟨cs, hcs⟩ := h.components
  have components : (s.write f v).field .componentState = .dict cs := by
    rw [write_field_of_ne (component_not_mirrored _ mem).symm, hcs]
  rw [bind_of_ok (writeField_run _ _ s)]
  unfold setInBucket
  rw [updateBucket_of_callable (s := s.write f v) h.bucketCallable components]
  exact h.write_pair hcs mem toolBatch subagents

/-! ### State updates -/

theorem mergeMemory_mirrored (mem : (f, ["memory", key]) ∈ mirrored)
    (toolBatch : f ≠ .toolBatchState) (subagents : f ≠ .subagentState) (entries : Dict) :
    Preserves Mirrored (mergeMemory f key entries) := by
  intro s h
  unfold mergeMemory
  rw [bind_of_ok (readField_run _ s)]
  cases updated : dictUpdate (s.field f) entries with
  | error e => exact h
  | ok v =>
    have read : readField f (s.write f v) = .ok v (s.write f v) := by simp
    have pair := write_then_setInBucket_mirrored (v := v) mem (fun same => absurd same toolBatch)
      (fun same => absurd same subagents) s h
    rw [bind_of_ok (writeField_run _ _ s)] at pair
    rw [bind_of_ok (lift_ok_run v s), bind_of_ok (writeField_run _ _ s), bind_of_ok read]
    exact pair

theorem mergeOptimizerState_mirrored (entries : Dict) :
    Preserves Mirrored (mergeOptimizerState entries) := by
  intro s h
  obtain ⟨cs, hcs⟩ := h.components
  unfold mergeOptimizerState
  rcases each_setOptimizer_cases entries s with ⟨t, ran, same⟩ | ⟨e, raised⟩
  · have components : t.field .componentState = .dict cs := by rw [same.2.2 _ (by decide), hcs]
    rw [bind_of_ok ran, bind_of_ok (readField_run _ t), bind_of_ok (readField_run _ t), components]
    have pair := h.write_pair hcs (m := (.optimizerState, ["optimizers"])) (by simp [mirrored])
      (v := t.field .optimizerState) (fun same => by cases same) (fun same => by cases same)
    -- the loop changed the optimizer field alone
    have keeps : KeepsTracked
        ((s.write .optimizerState (t.field .optimizerState)).write .componentState
          (.dict (setPath cs ["optimizers"] (t.field .optimizerState))))
        (t.write .componentState (.dict (Assoc.set "optimizers" (t.field .optimizerState) cs))) := by
      refine ⟨fun f _ => ?_, by simp [same.2.1]⟩
      by_cases component : f = .componentState
      · subst component
        simp [setPath]
      · by_cases optimizer : f = .optimizerState
        · subst optimizer
          simp
        · simp only [write_field_of_ne component, write_field_of_ne optimizer]
          exact same.2.2 f (by simpa using optimizer)
    exact keeps.invariant pair
  · rw [bind_of_error raised]
    exact h

variable {env : KernelEnv}

theorem applyKnownUpdate_mirrored (k : UpdateKey) (value : Value) :
    Preserves Mirrored (applyKnownUpdate env k value) := by
  cases k with
  | workspaceChangeState =>
    exact write_then_setInBucket_mirrored (by simp [mirrored]) (by simp) (by simp)
  | optimizerState => exact mergeOptimizerState_mirrored _
  | subagentState =>
    intro s h
    refine preserves_lift_bind (fun new computed => ?_) s h
    have record := SubagentState.isRecord_updated computed
    rw [record.copy env.toEnv]
    exact write_then_setInBucket_mirrored (by simp [mirrored]) (by simp) (fun _ => record)
  | memoryState | memoryPrepareInfo | memoryCommitInfo =>
    exact mergeMemory_mirrored (by simp [mirrored]) (by decide) (by decide) _
  | toolBatchState =>
    intro s h
    refine preserves_lift_bind (fun new computed => ?_) s h
    have record := ToolBatchState.isRecord_updated h.toolBatch.isClass computed
    rw [record.copy env.toEnv]
    exact write_then_setInBucket_mirrored (by simp [mirrored]) (fun _ => record) (by simp)
  | providerReplayFrame =>
    exact preserves_lift_bind fun _ _ => setInBucket_mirrored (by decide) _
  | providerReplayAppend =>
    refine Preserves.bind (fun _ h => h) fun components => preserves_lift_bind fun frame _ => ?_
    cases frame with
    | none => exact preserves_pure ()
    | some frame =>
      exact preserves_lift_bind fun _ _ => preserves_lift_bind fun _ _ =>
        setInBucket_mirrored (by decide) _
  | _ => exact (applyKnownUpdate_within env _ value).invariant (by decide)

theorem applyStateUpdate_mirrored (entry : String × Value) :
    Preserves Mirrored (applyStateUpdate env entry) := by
  have metadata : Preserves Mirrored (setMetadata entry.1 entry.2) :=
    (Frame.metadata (List.mem_singleton_self _) _ _).invariant (by decide)
  unfold applyStateUpdate
  cases UpdateKey.ofString? entry.1 with
  | none => exact metadata
  | some k =>
    simp only
    split
    · exact applyKnownUpdate_mirrored k entry.2
    · exact metadata

theorem callMethod_mirrored (name : String) : Preserves Mirrored (callMethod name) := by
  have frame : Frame [] (callMethod name) := Frame.call name
  exact frame.invariant (by simp)

theorem applyStateUpdates_mirrored (updates : Dict) :
    Preserves Mirrored (applyStateUpdates env updates) :=
  (callMethod_mirrored _).bind fun _ =>
    preserves_each updates fun entry _ => applyStateUpdate_mirrored entry

theorem suspendWith_mirrored (kind payload : Value) :
    Preserves Mirrored (suspendWith env kind payload) :=
  (suspendWith_within env kind payload).invariant (by decide)

/-! ### Messages and versions -/

/-- The computation leaves the tracked fields alone. -/
abbrev Keeps {α : Type} (m : RunM α) : Prop := Within KeepsTracked m

namespace Keeps

variable {α β : Type} {m : RunM α}

theorem ofFrame {fs : List Field} (h : Frame fs m) (apart : ∀ f ∈ tracked, f ∉ fs) :
    Keeps m := h.mono fun _ _ same => same.keepsTracked apart

theorem readOnly (h : Frame [] m) : Keeps m := ofFrame h (by simp)

theorem seq {k : α → RunM β} (first : Keeps m) (next : ∀ a, Keeps (k a)) :
    Keeps (m >>= k) := Within.bind KeepsTracked.trans first next

theorem write {f : Field} (untracked : f ∉ tracked) (v : Value) : Keeps (writeField f v) :=
  ofFrame (Frame.write (List.mem_singleton_self f) v) fun _ mem same =>
    untracked (List.mem_singleton.mp same ▸ mem)

theorem versions (f : RunState → Versions) :
    Keeps (modify fun s => { s with versions := f s } : RunM PUnit) :=
  fun _ => ⟨fun _ _ => rfl, rfl⟩

theorem ret (a : α) : Keeps (pure a) := fun s => KeepsTracked.refl s

theorem raise (e : PyError) : Keeps (throw e : RunM α) := fun s => KeepsTracked.refl s

theorem lifted (x : Except PyError α) : Keeps (lift x : RunM α) := readOnly (Frame.lifted x)

theorem read (f : Field) : Keeps (readField f) := readOnly (Frame.read f)

theorem state : Keeps (get : RunM RunState) := fun s => KeepsTracked.refl s

theorem preserves (h : Keeps m) : Preserves Mirrored m :=
  fun s inv => (h s).invariant inv

end Keeps

theorem versionsActivate_keeps (id : VersionId) : Keeps (versionsActivate env id) := by
  refine Keeps.state.seq fun s => ?_
  cases s.versions with
  | graph g | patched attrs => exact (Keeps.lifted _).seq fun _ => Keeps.versions _
  | data v => exact Keeps.raise _

variable {generated : VersionId}

theorem versionsCreate_keeps (messages : List Value) (parent : Value) (createdBy : String)
    (metadata : Dict) :
    Keeps (versionsCreate env messages parent createdBy metadata generated) := by
  refine Keeps.state.seq fun s => ?_
  cases s.versions with
  | graph g =>
    exact (Keeps.lifted _).seq fun _ => (Keeps.lifted _).seq fun _ =>
      (Keeps.versions _).seq fun _ => Keeps.ret _
  | patched attrs => exact (Keeps.lifted _).seq fun _ => (Keeps.versions _).seq fun _ => Keeps.ret _
  | data v => exact Keeps.raise _

theorem applyOps_keeps (ops : List MessageOp) (working : List Value) :
    Keeps (applyOps env ops working) := by
  induction ops generalizing working with
  | nil => exact Keeps.ret _
  | cons op ops ih =>
    cases op with
    | activateVersion id =>
      have activate : Keeps (activateVersion env id) :=
        (versionsActivate_keeps id).seq fun _ => Keeps.write (by decide) _
      exact activate.seq fun _ => (Keeps.readOnly (Frame.view env _)).seq fun _ => ih _
    | unsupported name => exact Keeps.raise _
    | append messages | insert index messages | replaceSpan start stop messages
    | deleteSpan start stop => exact ih _

theorem applyMessages_keeps (delta : HarnessDelta) : Keeps (applyMessages env delta generated) := by
  refine (Keeps.read _).seq fun latest => ?_
  split
  · exact Keeps.raise _
  · refine (Keeps.readOnly (Frame.view env _)).seq fun working =>
      (applyOps_keeps delta.ops working).seq fun out => ?_
    unfold commitVersion
    split
    · exact Keeps.read _
    · exact (versionsCreate_keeps _ _ _ _).seq fun _ =>
        (Keeps.write (by decide) _).seq fun _ => Keeps.ret _

theorem applyDelta_mirrored (delta : HarnessDelta) :
    Preserves Mirrored (applyDelta env delta generated) := by
  refine (callMethod_mirrored _).bind fun _ => (applyMessages_keeps delta).preserves.bind
    fun _ => Preserves.bind ?_ fun _ => preserves_pure _
  refine (applyStateUpdates_mirrored _).bind fun _ => ?_
  cases delta.suspend with
  | none => exact preserves_pure ()
  | some signal => exact suspendWith_mirrored _ _

theorem messagesForTarget_keeps (target : ContextTarget) (opType : String) :
    Keeps (messagesForTarget env target opType) := by
  have latest : Frame [] (latestMessages env) := by
    refine (Frame.call _).seq fun _ => (Frame.read _).seq fun id => ?_
    split
    · exact Frame.ret _
    · exact Frame.getMessages env _
  cases target with
  | modelContext => exact Keeps.readOnly latest
  | conversation => exact (Keeps.read _).seq fun _ => Keeps.lifted _
  | runtimeState | artifacts | events => exact Keeps.raise _

variable {delta : RunDelta}

theorem commitMessages_keeps (target : ContextTarget) (working : List Value) (opType reason : String) :
    Keeps (commitMessagesForTarget env delta target working opType reason generated) := by
  have create : Keeps (do
      let id ← versionsCreate env working (← readField .latestVersionId) delta.createdBy
        [("target", .str target.value), ("op_type", .str opType), ("reason", .str reason),
          ("trace", .dict delta.trace)] generated
      writeField .latestVersionId id
      return id) :=
    (Keeps.read _).seq fun _ => (versionsCreate_keeps _ _ _ _).seq fun _ =>
      (Keeps.write (by decide) _).seq fun _ => Keeps.ret _
  cases target with
  | modelContext => exact (Keeps.write (f := .nextModelInput) (by decide) _).seq fun _ => create
  | conversation => exact (Keeps.write (f := .transcript) (by decide) _).seq fun _ => create
  | runtimeState | artifacts | events => exact create

theorem applySelectedEdit_keeps (target : ContextTarget) (selector : Value)
    (edit : List Nat → List Value → List Value) (opType reason : String) :
    Keeps (applySelectedEdit env delta target selector edit opType reason generated) := by
  refine (messagesForTarget_keeps target opType).seq fun working =>
    (Keeps.lifted _).seq fun indices => ?_
  split
  · exact Keeps.read _
  · exact commitMessages_keeps target _ _ _

theorem emit_keeps (event : EmitEvent) : Keeps (emit env event) := by
  unfold emit
  cases env.emitEvent with
  | none => exact Keeps.ret ()
  | some callback => exact Keeps.lifted _

theorem applyCreateArtifactOp_keeps (artifact : Value) (reason : String) :
    Keeps (applyCreateArtifactOp env delta artifact reason) := by
  refine (Keeps.read _).seq fun artifacts => ?_
  cases artifactId (.dict artifact.entries) with
  | none =>
    cases artifacts with
    | list xs => exact Keeps.write (by decide) _
    | _ => exact Keeps.raise _
  | some id =>
    exact (Keeps.lifted _).seq fun _ => (Keeps.lifted _).seq fun _ =>
      (Keeps.write (by decide) _).seq fun _ => emit_keeps _

/-! ### Runtime operations -/

/-- Names of the class machinery, outside the model. -/
def isDunder (name : String) : Bool := name.toList.take 2 = ['_', '_']

/-- Roots whose assignment changes one side of the mirror, or hides the method
that writes the other. -/
def oneSidedRoots : List String :=
  ["optimizer_state", "memory_state", "memory_prepare_info", "memory_commit_info",
    "tool_batch_state", "subagent_state", "component_state", "component_bucket"]

/-- Mirrored dictionaries: a longer path writes into them directly. -/
def oneSidedDicts : List String :=
  ["optimizer_state", "memory_state", "memory_prepare_info", "memory_commit_info",
    "workspace_change_state"]

def mirroredMerges : List String :=
  ["memory_state", "memory_prepare_info", "memory_commit_info", "optimizer_state"]

/-- An assignment whose path reaches neither side of the mirror, or both. -/
def SetSafe (path : List String) : Prop :=
  match cleanPath path with
  | [] => True
  | [head] => isDunder head = false ∧ head ∉ oneSidedRoots ∧ Apart [head, "value"]
  | head :: rest => isDunder head = false ∧
      if head = "component_state" then Apart rest
      else head ∉ oneSidedDicts ∧ Apart (head :: rest)

def MergeSafe (path : List String) (value : Value) : Prop :=
  match cleanPath path, value.entries with
  | [], _ => True
  | _, [] => True
  | [head], entries => isDunder head = false ∧
      (head ∈ mirroredMerges ∨
        if head = "component_state" then ∀ key ∈ Assoc.keys entries, Apart [key]
        else head ∉ ["tool_batch_state", "subagent_state", "workspace_change_state"] ∧
          Apart [head, "value"])
  | head :: rest, entries => isDunder head = false ∧
      if head = "component_state" then ∀ key ∈ Assoc.keys entries, Apart (rest ++ [key])
      else head ∉ oneSidedDicts ∧ ∀ key ∈ Assoc.keys entries, Apart (head :: rest ++ [key])

/-- The operations that leave the mirror alone or write both of its sides. -/
def SafePath : ContextOp → Prop
  | .setRuntimeState path _ => SetSafe path
  | .mergeRuntimeState path value => MergeSafe path value
  | _ => True

variable {head : String}

theorem stateAttr_field (h : stateAttr head = some (.field f)) : f.name = head := by
  unfold stateAttr at h
  split at h
  · rename_i g found
    cases h
    simpa using List.find?_some found
  · repeat' split at h
    all_goals cases h

theorem stateAttr_method (h : stateAttr head = some (.method name)) : name = head := by
  unfold stateAttr at h
  repeat' split at h
  all_goals cases h
  rfl

variable {attr : StateAttr}

theorem assignState_keeps (untracked : ∀ f, attr = .field f → f ∉ tracked)
    (bucket : attr ≠ .method "component_bucket") (v : Value) : Keeps (assignState attr v) := by
  cases attr with
  | field f => exact Keeps.write (untracked f rfl) v
  | versions => exact fun s => ⟨fun _ _ => rfl, rfl⟩
  | method name =>
    have ne : "component_bucket" ≠ name := by
      rintro rfl
      exact bucket rfl
    exact fun s => ⟨fun _ _ => rfl, by simp [assignState, Assoc.has, ne]⟩

theorem untracked_of_name (h : stateAttr head = some attr)
    (notTracked : ∀ f ∈ tracked, f.name ≠ head) : ∀ f, attr = .field f → f ∉ tracked := by
  rintro f rfl mem
  exact notTracked f mem (stateAttr_field h)

theorem notBucket_of_name (h : stateAttr head = some attr) (ne : head ≠ "component_bucket") :
    attr ≠ .method "component_bucket" := by
  rintro rfl
  exact ne (stateAttr_method h).symm

variable {rest : List String}

theorem updateBucket_setPath_mirrored (nonempty : rest ≠ []) (apart : Apart (head :: rest))
    (value : Value) :
    Preserves Mirrored (updateBucket head fun bucket => setPath bucket rest value) := by
  obtain ⟨next, rest, rfl⟩ := List.exists_cons_of_ne_nil nonempty
  refine updateBucket_mirrored head _ fun cs m mem v stored => ?_
  have kept := getPath_setPath (x := value) (apart m mem) stored
  rwa [setPath_cons] at kept

variable {entries : Dict}

theorem updateBucket_mergePath_mirrored (nonempty : entries ≠ [])
    (apart : ∀ key ∈ Assoc.keys entries, Apart (head :: rest ++ [key])) :
    Preserves Mirrored (updateBucket head fun bucket => mergePath bucket rest entries) := by
  refine updateBucket_mirrored head _ fun cs m mem v stored => ?_
  exact getPath_mergePath (head :: rest) nonempty (fun key k => apart key k m mem) stored

theorem mergeBucketValue_mirrored (entries : Dict) (apart : Apart [head, "value"]) :
    Preserves Mirrored (updateBucket head (mergeBucketValue entries)) := by
  refine updateBucket_mirrored head _ fun cs m mem v stored => ?_
  unfold mergeBucketValue
  split
  · exact getPath_setPath (apart m mem) stored
  · exact getPath_setPath (apart m mem) stored

theorem tracked_names : ∀ f ∈ tracked,
    f.name ∈ "workspace_change_state" :: oneSidedRoots := by decide

variable {es : Dict}

theorem tracked_dict (h : Mirrored s) (mem : f ∈ tracked) (dict : s.field f = .dict es) :
    f = .componentState ∨ f.name ∈ oneSidedDicts := by
  obtain ⟨batch, hbatch⟩ := h.toolBatch
  obtain ⟨subagents, hsubagents⟩ := h.subagents
  simp only [tracked, mirrored, List.map_cons, List.map_nil, List.mem_cons, List.not_mem_nil,
    or_false] at mem
  rcases mem with rfl | rfl | rfl | rfl | rfl | rfl | rfl | rfl
  · exact .inl rfl
  · exact .inr (by decide)
  · exact .inr (by decide)
  · exact .inr (by decide)
  · exact .inr (by decide)
  · simp [hbatch, ToolBatchState.toValue] at dict
  · exact .inr (by decide)
  · simp [hsubagents, SubagentState.toValue] at dict

theorem field_of_component_name (f : Field) (h : f.name = "component_state") :
    f = .componentState := by
  cases f <;> first | rfl | exact absurd h (by decide)

/-- A path into a bucket without copies. -/
theorem apart_of_head (h : ∀ m ∈ mirrored, m.2.head? ≠ some head) (rest : List String) :
    Apart (head :: rest) := by
  intro m mem
  have ne := h m mem
  cases hp : m.2 with
  | nil => exact absurd hp (mirrored_path_ne_nil m mem)
  | cons key path =>
    rw [hp] at ne
    exact Or.inl fun same => ne (by simp [same])

/-- Rewriting a dictionary behind an attribute keeps the invariant when, for the
component state, it keeps the copies. -/
theorem assignState_dict_mirrored (h : Mirrored s) (known : stateAttr head = some attr) {es' : Dict}
    (dict : attrData s attr = some (.dict es))
    (notDict : head ≠ "component_state" → head ∉ oneSidedDicts)
    (keeps : head = "component_state" → ∀ m ∈ mirrored, ∀ v,
      (Value.dict es).getPath m.2 = some v → (Value.dict es').getPath m.2 = some v) :
    Mirrored (endState (assignState attr (.dict es') s)) := by
  have bucket : attr ≠ .method "component_bucket" := by
    rintro rfl
    have := h.bucketCallable
    simp only [attrData] at dict
    simp [Assoc.has, dict] at this
  by_cases component : attr = .field .componentState
  · subst component
    have name : head = "component_state" := (stateAttr_field known).symm
    simp only [attrData, Option.some.injEq] at dict
    exact h.write_components dict (keeps name)
  · refine ((assignState_keeps (fun f same mem => ?_) bucket _) s).invariant h
    subst same
    simp only [attrData, Option.some.injEq] at dict
    rcases tracked_dict h mem dict with rfl | inDicts
    · exact component rfl
    · have name := stateAttr_field known
      refine notDict (fun same => ?_) (name ▸ inDicts)
      rw [← name] at same
      exact component (congrArg _ (field_of_component_name f same))

variable {path : List String}

theorem applyRuntimeStateOp_mirrored (safe : SetSafe path) (value : Value) :
    Preserves Mirrored (applyRuntimeStateOp env path value) := by
  unfold SetSafe at safe
  unfold applyRuntimeStateOp
  cases hpath : cleanPath path with
  | nil => exact preserves_throw _
  | cons head rest =>
    rw [hpath] at safe
    cases rest with
    | nil =>
      obtain ⟨-, notRoot, apart⟩ := safe
      simp only
      split
      · exact applyStateUpdates_mirrored _
      · rename_i notWorkspace
        cases known : stateAttr head with
        | none => exact setInBucket_mirrored apart value
        | some attr =>
          refine (assignState_keeps (untracked_of_name known fun f mem name => ?_)
            (notBucket_of_name known fun same => ?_) value).preserves
          · have := tracked_names f mem
            rw [name, List.mem_cons] at this
            exact this.elim notWorkspace notRoot
          · exact notRoot (same ▸ by decide)
    | cons next rest =>
      obtain ⟨-, safe⟩ := safe
      intro s h
      simp only
      rw [bind_of_ok (get_run s)]
      -- where the path does not meet a dictionary of the state, it is a bucket's
      have bucket : Mirrored (endState
          (updateBucket head (fun bucket => setPath bucket (next :: rest) value) s)) := by
        by_cases component : head = "component_state"
        · subst component
          exact updateBucket_setPath_mirrored (by simp) (apart_of_head (by decide) _) value s h
        · rw [if_neg component] at safe
          exact updateBucket_setPath_mirrored (by simp) safe.2 value s h
      cases known : stateAttr head with
      | none => exact bucket
      | some attr =>
        cases data : attrData s attr with
        | none => simpa only [data] using bucket
        | some v =>
          cases v with
          | dict es =>
            simp only [data]
            refine assignState_dict_mirrored h known data (fun ne => ?_)
              fun same m mem v stored => ?_
            · rw [if_neg ne] at safe
              exact safe.1
            · rw [if_pos same] at safe
              exact getPath_setPath (safe m mem) stored
          | _ => simpa only [data] using bucket

theorem mergeIntoObject_keeps (untracked : ∀ f, attr = .field f → f ∉ tracked)
    (bucket : attr ≠ .method "component_bucket") (entries : Dict) :
    Keeps (mergeIntoObject env head attr entries) := by
  refine Keeps.state.seq fun s => ?_
  split
  · refine within_each KeepsTracked.refl KeepsTracked.trans entries fun entry _ => ?_
    refine Keeps.state.seq fun t => ?_
    split
    · exact (Keeps.lifted _).seq fun _ => assignState_keeps untracked bucket _
    · unfold assignGraphAttr
      split
      · exact Keeps.raise _
      · exact Keeps.versions _
  · exact Keeps.raise _

theorem mergeIntoObject_method_mirrored (nonempty : entries ≠ []) :
    Preserves Mirrored (mergeIntoObject env head (.method "component_bucket") entries) := by
  intro s h
  have hidden : attrData s (.method "component_bucket") = none := by
    simpa [attrData, Assoc.has] using h.bucketCallable
  have unknown : (entries.filter fun entry =>
      !objectHas env s (.method "component_bucket") entry.1) = entries := by
    simp [objectHas, hidden]
  obtain ⟨entry, entries, rfl⟩ := List.exists_cons_of_ne_nil nonempty
  unfold mergeIntoObject
  rw [bind_of_ok (get_run s), unknown]
  exact h

theorem mergeRoot_mirrored (nonempty : entries ≠ []) (notMerged : head ∉ mirroredMerges)
    (safe : if head = "component_state" then ∀ key ∈ Assoc.keys entries, Apart [key]
      else head ∉ ["tool_batch_state", "subagent_state", "workspace_change_state"] ∧
        Apart [head, "value"]) (known : stateAttr head = some attr) :
    Preserves Mirrored (mergeIntoAttr env head attr [] entries) := by
  intro s h
  have untracked : attr ≠ .field .componentState → ∀ f, attr = .field f → f ∉ tracked := by
    rintro ne f rfl mem
    have name := stateAttr_field known
    have notComponent : head ≠ "component_state" := fun same =>
      ne (congrArg _ (field_of_component_name f (name.trans same)))
    rw [if_neg notComponent] at safe
    have : ∀ f ∈ tracked, f.name = "component_state" ∨ f.name ∈ mirroredMerges ∨
        f.name ∈ ["tool_batch_state", "subagent_state", "workspace_change_state"] := by decide
    rcases this f mem with component | merged | listed
    · exact notComponent (name ▸ component)
    · exact notMerged (name ▸ merged)
    · exact safe.1 (name ▸ listed)
  have object : attr ≠ .field .componentState →
      Mirrored (endState (mergeIntoObject env head attr entries s)) := by
    intro ne
    by_cases bucket : attr = .method "component_bucket"
    · subst bucket
      exact mergeIntoObject_method_mirrored nonempty s h
    · exact (mergeIntoObject_keeps (untracked ne) bucket entries).preserves s h
  obtain ⟨cs, hcs⟩ := h.components
  unfold mergeIntoAttr
  rw [bind_of_ok (get_run s)]
  cases data : attrData s attr with
  | none =>
    refine object ?_
    rintro rfl
    simp [attrData] at data
  | some v =>
    cases v with
    | dict es =>
      refine assignState_dict_mirrored h known data (fun ne inDicts => ?_)
        fun same m mem v stored => ?_
      · rw [if_neg ne] at safe
        have : ∀ name ∈ oneSidedDicts, name ∈ mirroredMerges ∨
            name ∈ ["tool_batch_state", "subagent_state", "workspace_change_state"] := by
          decide
        exact (this head inDicts).elim notMerged safe.1
      · rw [if_pos same] at safe
        exact getPath_mergePath [] nonempty (fun key k => safe key k m mem) stored
    | _ =>
      refine object ?_
      rintro rfl
      simp [attrData, hcs] at data

theorem mergeNested_mirrored (env : KernelEnv) {next : String} (nonempty : entries ≠ [])
    (safe : if head = "component_state" then
        ∀ key ∈ Assoc.keys entries, Apart ((next :: rest) ++ [key])
      else head ∉ oneSidedDicts ∧
        ∀ key ∈ Assoc.keys entries, Apart (head :: (next :: rest) ++ [key])) :
    Preserves Mirrored (match stateAttr head with
      | some attr => mergeIntoAttr env head attr (next :: rest) entries
      | none => updateBucket head fun bucket => mergePath bucket (next :: rest) entries) := by
  intro s h
  have bucket : Mirrored (endState
      (updateBucket head (fun bucket => mergePath bucket (next :: rest) entries) s)) := by
    by_cases component : head = "component_state"
    · subst component
      exact updateBucket_mergePath_mirrored nonempty (fun key _ => apart_of_head (by decide) _) s h
    · rw [if_neg component] at safe
      exact updateBucket_mergePath_mirrored nonempty safe.2 s h
  cases known : stateAttr head with
  | none => exact bucket
  | some attr =>
    simp only [mergeIntoAttr]
    rw [bind_of_ok (get_run s)]
    cases data : attrData s attr with
    | none => exact bucket
    | some v =>
      cases v with
      | dict es =>
        refine assignState_dict_mirrored h known data (fun ne => ?_) fun same m mem v stored => ?_
        · rw [if_neg ne] at safe
          exact safe.1
        · rw [if_pos same] at safe
          exact getPath_mergePath _ nonempty (fun key k => safe key k m mem) stored
      | _ => exact bucket

theorem applyMergeRuntimeStateOp_mirrored {value : Value} (safe : MergeSafe path value) :
    Preserves Mirrored (applyMergeRuntimeStateOp env path value) := by
  unfold MergeSafe at safe
  unfold applyMergeRuntimeStateOp
  split
  · exact preserves_throw _
  · exact preserves_pure ()
  · exact mergeMemory_mirrored (by simp [mirrored]) (by decide) (by decide) _
  · exact mergeMemory_mirrored (by simp [mirrored]) (by decide) (by decide) _
  · exact mergeMemory_mirrored (by simp [mirrored]) (by decide) (by decide) _
  · exact mergeOptimizerState_mirrored _
  · rename_i head rest notState notPrepare notCommit notOptimizer hpath nonempty
    rw [hpath] at safe
    generalize value.entries = entries at safe nonempty ⊢
    obtain ⟨first, others, rfl⟩ := List.exists_cons_of_ne_nil nonempty
    cases rest with
    | nil =>
      have notMerged : head ∉ mirroredMerges := by
        simp only [mirroredMerges, List.mem_cons, List.not_mem_nil, or_false, not_or]
        exact ⟨(notState · rfl), (notPrepare · rfl), (notCommit · rfl), (notOptimizer · rfl)⟩
      obtain ⟨-, merged | safe⟩ := safe
      · exact absurd merged notMerged
      · cases known : stateAttr head with
        | some attr => exact mergeRoot_mirrored nonempty notMerged safe known
        | none =>
          have ne : head ≠ "component_state" := by
            rintro rfl
            cases known
          rw [if_neg ne] at safe
          exact mergeBucketValue_mirrored _ safe.2
    | cons next rest =>
      obtain ⟨-, safe⟩ := safe
      have nested := mergeNested_mirrored env nonempty safe
      cases known : stateAttr head with
      | some attr => simpa only [known] using nested
      | none =>
        simp only [known] at nested
        exact nested

/-! ### Runs of deltas -/

theorem applyContextOp_mirrored {op : ContextOp} (safe : SafePath op) (versionId : Value) :
    Preserves Mirrored (applyContextOp env delta op generated versionId) := by
  cases op with
  | insertMessages target index messages reason
  | replaceMessages target messages start stop reason =>
    exact ((messagesForTarget_keeps target _).seq fun _ =>
      commitMessages_keeps target _ _ _).preserves
  | patchMessage target selector patch reason | deleteMessages target selector reason =>
    exact (applySelectedEdit_keeps target selector _ _ _).preserves
  | setRuntimeState path value =>
    exact (applyRuntimeStateOp_mirrored safe value).bind fun _ => preserves_pure _
  | mergeRuntimeState path value =>
    exact (applyMergeRuntimeStateOp_mirrored safe).bind fun _ => preserves_pure _
  | createArtifact artifact reason =>
    exact ((applyCreateArtifactOp_keeps artifact reason).seq fun _ =>
      Keeps.ret _).preserves
  | emitEvent event => exact ((emit_keeps event).seq fun _ => Keeps.ret _).preserves
  | requestSuspend kind payload =>
    exact (Keeps.read _).preserves.bind fun _ =>
      (suspendWith_mirrored _ _).bind fun _ => preserves_pure _
  | unsupported name => exact preserves_throw _

theorem applyContextOps_mirrored (ids : Nat → VersionId) {ops : List ContextOp}
    (safe : ∀ op ∈ ops, SafePath op) (n : Nat) (versionId : Value) :
    Preserves Mirrored (applyContextOps env delta ids ops n versionId) := by
  induction ops generalizing n versionId with
  | nil => exact preserves_pure _
  | cons op ops ih =>
    exact (applyContextOp_mirrored (safe op (by simp)) _).bind fun next =>
      ih (fun op' mem => safe op' (by simp [mem])) _ next

def Delta.Safe : Delta → Prop
  | .harness _ => True
  | .run delta => ∀ op ∈ delta.contextOps, SafePath op

theorem applyRunDelta_mirrored (ids : Nat → VersionId) {delta : Delta} (safe : delta.Safe) :
    Preserves Mirrored (applyRunDelta env ids delta) := by
  cases delta with
  | harness delta => exact applyDelta_mirrored delta
  | run delta =>
    refine (Keeps.read _).preserves.bind fun latest =>
      (applyContextOps_mirrored ids safe 0 latest).bind fun id =>
        Preserves.bind ?_ fun _ => Preserves.bind ?_ fun _ => preserves_pure id
    · unfold applyRunUpdates
      split
      · exact preserves_pure ()
      · exact applyStateUpdates_mirrored _
    · cases delta.suspend with
      | none => exact preserves_pure ()
      | some signal => exact (Keeps.read _).preserves.bind fun _ => suspendWith_mirrored _ _

/-- A state as its constructor leaves it: `__post_init__` ran on an instance whose
two records were built by their own classes. -/
structure Constructed (env : KernelEnv) (s : RunState) : Prop where
  ran : ∃ start : RunState, start.overrides = [] ∧
    ToolBatchState.IsRecord (start.field .toolBatchState) ∧
    SubagentState.IsRecord (start.field .subagentState) ∧
    syncAllComponentState env start = .ok () s

/-- The component state `__post_init__` builds. -/
def syncedComponents (field : Field → Value) (cs : Dict) : Dict :=
  let cs := Assoc.set "optimizers" (field .optimizerState) cs
  let cs := putBucket cs "memory" (Assoc.update (bucketOf cs "memory")
    [("state", field .memoryState), ("prepare_info", field .memoryPrepareInfo),
      ("commit_info", field .memoryCommitInfo)])
  let cs := setPath cs ["tools", "tool_batch_state"] (field .toolBatchState)
  let cs := setPath cs ["workspace_changes", "state"] (field .workspaceChangeState)
  setPath cs ["subagents", "state"] (field .subagentState)

theorem RunState.write_write (s : RunState) (f : Field) (v w : Value) :
    (s.write f v).write f w = s.write f w := by
  simp [RunState.write]

theorem syncAllComponentState_run (env : KernelEnv) (overrides : s.overrides = [])
    (hcs : s.field .componentState = .dict cs)
    (toolBatch : ToolBatchState.IsRecord (s.field .toolBatchState))
    (subagents : SubagentState.IsRecord (s.field .subagentState)) : syncAllComponentState env s
      = .ok () (s.write .componentState (.dict (syncedComponents s.field cs))) := by
  have bucket : ∀ (cs : Dict) (name : String) (f : Dict → Dict),
      updateBucket name f (s.write .componentState (.dict cs)) = .ok ()
        (s.write .componentState (.dict (putBucket cs name (f (bucketOf cs name))))) := by
    intro cs name f
    have run := updateBucket_run (s := s.write .componentState (.dict cs)) overrides
      (write_field_self _ _ _) name f
    rwa [RunState.write_write] at run
  have read : ∀ (cs : Dict) (f : Field), f ≠ .componentState →
      readField f (s.write .componentState (.dict cs))
        = .ok (s.field f) (s.write .componentState (.dict cs)) := by
    intro cs f ne
    rw [readField_run, write_field_of_ne ne]
  unfold syncAllComponentState
  rw [bind_of_ok (readField_run _ s), bind_of_ok (readField_run _ s), hcs]
  rw [show setItem (.dict cs) "optimizers" (s.field .optimizerState)
    = .ok (.dict (Assoc.set "optimizers" (s.field .optimizerState) cs)) from rfl]
  rw [bind_of_ok (lift_ok_run _ s), bind_of_ok (writeField_run _ _ s),
    bind_of_ok (read _ _ (by decide)), bind_of_ok (read _ _ (by decide)),
    bind_of_ok (read _ _ (by decide)), bind_of_ok (bucket _ _ _),
    bind_of_ok (read _ _ (by decide)), toolBatch.copy env.toEnv, bind_of_ok (lift_ok_run _ _)]
  rw [show ∀ v, setInBucket "tools" "tool_batch_state" v
      = updateBucket "tools" (Assoc.set "tool_batch_state" v) from fun _ => rfl,
    bind_of_ok (bucket _ _ _), bind_of_ok (read _ _ (by decide))]
  rw [show ∀ v, setInBucket "workspace_changes" "state" v
      = updateBucket "workspace_changes" (Assoc.set "state" v) from fun _ => rfl,
    bind_of_ok (bucket _ _ _), bind_of_ok (read _ _ (by decide)), subagents.copy env.toEnv,
    bind_of_ok (lift_ok_run _ _)]
  exact bucket _ _ _

theorem mirrored_of_constructed (h : Constructed env s) : Mirrored s := by
  obtain ⟨start, overrides, toolBatch, subagents, ran⟩ := h.ran
  obtain ⟨cs, hcs⟩ : ∃ cs, start.field .componentState = .dict cs := by
    cases hv : start.field .componentState with
    | dict cs => exact ⟨cs, rfl⟩
    | _ =>
      unfold syncAllComponentState at ran
      rw [bind_of_ok (readField_run _ start), bind_of_ok (readField_run _ start), hv] at ran
      cases ran
  rw [syncAllComponentState_run env overrides hcs toolBatch subagents] at ran
  cases ran
  refine ⟨?_, by simp [overrides, Assoc.has], ?_, ?_⟩
  · intro m mem
    simp only [mirrored, List.mem_cons, List.not_mem_nil, or_false] at mem
    rcases mem with rfl | rfl | rfl | rfl | rfl | rfl | rfl <;>
      simp [syncedComponents, setPath, putBucket, bucketOf, childDict, Value.getPath_dict,
        Assoc.get_update, Assoc.get_cons]
  · rw [write_field_of_ne (by decide)]
    exact toolBatch
  · rw [write_field_of_ne (by decide)]
    exact subagents

/-- The states after each call of a run, with the ids each call draws. A call that
raised leaves its state to the next one. -/
def statesOf (env : KernelEnv) : RunState → List (Delta × (Nat → VersionId)) → List RunState
  | _, [] => []
  | s, (delta, ids) :: calls =>
    let s' := endState (applyRunDelta env ids delta s)
    s' :: statesOf env s' calls

theorem mirrored_of_run (h : Mirrored s) {calls : List (Delta × (Nat → VersionId))}
    (safe : ∀ call ∈ calls, call.1.Safe) :
    ∀ s' ∈ statesOf env s calls, Mirrored s' := by
  induction calls generalizing s with
  | nil => simp [statesOf]
  | cons call calls ih =>
    obtain ⟨delta, ids⟩ := call
    have next : Mirrored (endState (applyRunDelta env ids delta s)) :=
      applyRunDelta_mirrored ids (safe (delta, ids) (by simp)) s h
    intro s' mem
    rcases List.mem_cons.mp mem with rfl | mem
    · exact next
    · exact ih next (fun call mem => safe call (by simp [mem])) s' mem

theorem constructed_new : Constructed env (.new env) := by
  have ran := syncAllComponentState_run env (s := .ofFields Field.default) rfl rfl
    ⟨ToolBatchState.empty, rfl⟩ ⟨SubagentState.empty, rfl⟩
  refine ⟨.ofFields Field.default, rfl, ⟨ToolBatchState.empty, rfl⟩, ⟨SubagentState.empty, rfl⟩, ?_⟩
  rw [RunState.new, ran]
  rfl

def runtimeDelta (ops : List ContextOp) : Delta :=
  .run ⟨"capability", ops, [], [], none⟩

end Unchain.Kernel
