import Unchain.Python.Builtins
import Unchain.Lib.ParentChain

/-!
The message version graph of a run (`kernel/versioning.py`).

`MessageVersionGraph` is the dictionary of versions with the pointer to the
latest one. What every history of calls keeps, whatever ids it uses, is a field:
keys are unique, a record is stored under its own id, and both the latest
pointer and every parent pointer name stored versions.

Being append-only is not among them: `createVersion` accepts an explicit id and
stores over a version that already has it, and since the latest version is the
default parent, storing twice under one id makes a version its own parent. Then
`lineage` never returns (`lineage_eq_none_of_self_parent`). A history that never
reuses an id keeps parents before children (`Ordered`), and there
`appendOnly_run`, `run_ordered` and `lineage_of_ordered` give the graph laws.
-/

namespace Unchain.Kernel

open Python Lib

abbrev VersionId := String

/-- `_deepcopy_messages`: the messages that are dictionaries. -/
def deepcopyMessages (messages : List Value) : List Value := messages.filter Value.isDict

@[simp] theorem deepcopyMessages_idem (messages : List Value) :
    deepcopyMessages (deepcopyMessages messages) = deepcopyMessages messages := by
  simp [deepcopyMessages]

def userMessage (text : String) : Value := .dict [("role", .str "user"), ("content", .str text)]

def hasRole (role : String) (message : Value) : Bool := (message.get "role").eqPy (.str role)

theorem hasRole_iff {role : String} {message : Value} :
    hasRole role message = true ↔ message.get "role" = .str role := Value.eqPy_str_iff

def isBlockOf (type : String) (block : Value) : Bool :=
  block.isDict && (block.get "type").eqPy (.str type)

structure MessageVersion where
  versionId : VersionId
  parentVersionId : Option VersionId
  messages : List Value
  createdBy : Option String
  metadata : Dict
deriving DecidableEq

structure MessageVersionGraph where
  versions : List (VersionId × MessageVersion)
  latestVersionId : Option VersionId
  nodup : (Assoc.keys versions).Nodup
  keyed : ∀ entry ∈ versions, entry.2.versionId = entry.1
  latest_mem : ∀ id, latestVersionId = some id → id ∈ Assoc.keys versions
  parent_mem : ∀ entry ∈ versions, ∀ p, entry.2.parentVersionId = some p →
    p ∈ Assoc.keys versions

namespace MessageVersionGraph

def empty : MessageVersionGraph where
  versions := []
  latestVersionId := none
  nodup := by simp [Assoc.keys]
  keyed := by simp
  latest_mem := by simp
  parent_mem := by simp

variable (g : MessageVersionGraph)

def find (id : VersionId) : Option MessageVersion :=
  Assoc.get id g.versions

def versionIds : List VersionId := Assoc.keys g.versions

def unknownVersion (id : VersionId) : PyError := .keyError ("unknown message version: " ++ id)

def unknownParent (id : VersionId) : PyError :=
  .keyError ("cannot create child version from unknown parent: " ++ id)

def getVersion (id : VersionId) : Except PyError MessageVersion :=
  match g.find id with
  | some version => .ok version
  | none => .error (unknownVersion id)

def getMessages (id : VersionId) : Except PyError (List Value) :=
  (g.getVersion id).map fun version => deepcopyMessages version.messages

def latestMessages : Except PyError (List Value) :=
  match g.latestVersionId with
  | none => .ok []
  | some id => g.getMessages id

variable {g} {id : VersionId}

theorem find_isSome_iff :
    (g.find id).isSome ↔ id ∈ g.versionIds := Assoc.get_isSome_iff

variable {v : MessageVersion}

theorem versionId_of_find (h : g.find id = some v) : v.versionId = id :=
  g.keyed _ (Assoc.mem_of_get h)

theorem parent_mem_of_find {p : VersionId} (h : g.find id = some v)
    (hp : v.parentVersionId = some p) : p ∈ g.versionIds :=
  g.parent_mem _ (Assoc.mem_of_get h) p hp

variable (g)

/-- `self._versions[version.version_id] = version` together with the new latest
pointer, for a record whose parent is stored. -/
def store (version : MessageVersion)
    (parent : ∀ p, version.parentVersionId = some p → p ∈ g.versionIds) : MessageVersionGraph where
  versions := Assoc.set version.versionId version g.versions
  latestVersionId := some version.versionId
  nodup := Assoc.nodup_keys_set _ _ g.nodup
  keyed := by
    rintro ⟨id, v⟩ mem
    have found := Assoc.get_of_mem (Assoc.nodup_keys_set _ _ g.nodup) mem
    rw [Assoc.get_set] at found
    split at found
    · rename_i same
      cases found
      exact same.symm
    · exact versionId_of_find found
  latest_mem := by
    rintro id h
    cases h
    exact Assoc.mem_keys_of_get (Assoc.get_set_self _ _ _)
  parent_mem := by
    rintro ⟨id, v⟩ mem p hp
    have found := Assoc.get_of_mem (Assoc.nodup_keys_set _ _ g.nodup) mem
    have known : p ∈ g.versionIds := by
      rw [Assoc.get_set] at found
      split at found
      · cases found
        exact parent p hp
      · exact parent_mem_of_find found hp
    rw [← Assoc.get_isSome_iff, Assoc.get_set]
    split
    · rfl
    · exact Assoc.get_isSome_iff.mpr known

/-- `create_version`. The identifier that `uuid4` would draw is the argument
`generated`; it is used when no explicit id is given or the given one is empty. -/
def createVersion (messages : List Value) (parentVersionId : Option VersionId)
    (createdBy : Option String) (metadata : Option Dict) (versionId : Option VersionId)
    (generated : VersionId) : Except PyError (MessageVersion × MessageVersionGraph) :=
  let resolvedParent := parentVersionId <|> g.latestVersionId
  if unknown : ∃ p, resolvedParent = some p ∧ p ∉ g.versionIds then
    .error (unknownParent (resolvedParent.getD ""))
  else
    let author := strip (createdBy.getD "None")
    let version : MessageVersion :=
      { versionId := (versionId.filter (· ≠ "")).getD generated
        parentVersionId := resolvedParent
        messages := deepcopyMessages messages
        createdBy := if author = "" then none else some author
        metadata := metadata.getD [] }
    .ok (version, g.store version fun p hp => by
      by_contra missing
      exact unknown ⟨p, hp, missing⟩)

def forkLatest (createdBy : Option String) (metadata : Option Dict) (generated : VersionId) :
    Except PyError (MessageVersion × MessageVersionGraph) := do
  let messages ← g.latestMessages
  g.createVersion messages none createdBy metadata none generated

def activate (id : VersionId) : Except PyError (MessageVersion × MessageVersionGraph) :=
  match found : g.find id with
  | none => .error (unknownVersion id)
  | some version => .ok (version, { g with
      latestVersionId := some version.versionId
      latest_mem := by
        rintro _ h
        cases h
        rw [versionId_of_find found]
        exact find_isSome_iff.mp (by simp [found]) })

/-- `MessageVersionGraph(seed_messages)`. -/
def new (seedMessages : List Value) (generated : VersionId) : MessageVersionGraph :=
  if seedMessages = [] then empty
  else
    match empty.createVersion seedMessages none (some "seed") none none generated with
    | .ok (_, g) => g
    | .error _ => empty

/-- The `while` loop of `lineage`; `none` means the fuel ran out inside it. -/
def lineageLoop (g : MessageVersionGraph) :
    Nat → Option VersionId → List VersionId → Option (Except PyError (List VersionId))
  | _, none, path => some (.ok path)
  | 0, some _, _ => none
  | fuel + 1, some current, path =>
    match g.getVersion current with
    | .error e => some (.error e)
    | .ok version => g.lineageLoop fuel version.parentVersionId (path ++ [version.versionId])

def lineage (fuel : Nat) (id : Option VersionId) : Option (Except PyError (List VersionId)) :=
  match id <|> g.latestVersionId with
  | none => some (.ok [])
  | some start => (g.lineageLoop fuel (some start) []).map (Except.map List.reverse)

/-! ### What one call can do -/

variable {g} {g' : MessageVersionGraph}

theorem createVersion_ok {messages : List Value} {parentVersionId : Option VersionId}
    {createdBy : Option String} {metadata : Option Dict} {versionId : Option VersionId}
    {generated : VersionId}
    (h : g.createVersion messages parentVersionId createdBy metadata versionId generated
      = .ok (v, g')) : v.versionId = (versionId.filter (· ≠ "")).getD generated ∧
      v.parentVersionId = (parentVersionId <|> g.latestVersionId) ∧
      v.messages = deepcopyMessages messages ∧
      (∀ p, v.parentVersionId = some p → p ∈ g.versionIds) ∧
      g'.versions = Assoc.set v.versionId v g.versions ∧
      g'.latestVersionId = some v.versionId := by
  unfold createVersion at h
  simp only at h
  split at h
  · cases h
  · rename_i known
    obtain ⟨rfl, rfl⟩ := h
    refine ⟨rfl, rfl, rfl, fun p hp => ?_, rfl, rfl⟩
    by_contra missing
    exact known ⟨p, hp, missing⟩

theorem activate_ok (h : g.activate id = .ok (v, g')) :
    g.find id = some v ∧ g'.versions = g.versions ∧ g'.latestVersionId = some id := by
  unfold activate at h
  split at h
  · cases h
  · rename_i version found
    obtain ⟨rfl, rfl⟩ := h
    exact ⟨found, rfl, by simp [versionId_of_find found]⟩

/-! ### Histories of calls -/

/-- A call of the graph's public interface, with the id `uuid4` would draw. -/
inductive Call where
  | createVersion (messages : List Value) (parentVersionId : Option VersionId)
      (createdBy : Option String) (metadata : Option Dict) (versionId : Option VersionId)
      (generated : VersionId)
  | forkLatest (createdBy : Option String) (metadata : Option Dict) (generated : VersionId)
  | activate (versionId : VersionId)

variable (g)

def Call.perform :
    Call → Except PyError (MessageVersion × MessageVersionGraph)
  | .createVersion messages parent createdBy metadata versionId generated =>
    g.createVersion messages parent createdBy metadata versionId generated
  | .forkLatest createdBy metadata generated => g.forkLatest createdBy metadata generated
  | .activate id => g.activate id

def Call.after (call : Call) : MessageVersionGraph :=
  match call.perform g with
  | .ok (_, g') => g'
  | .error _ => g

def Call.storesUnder : Call → Option VersionId
  | .createVersion _ _ _ _ versionId generated => some ((versionId.filter (· ≠ "")).getD generated)
  | .forkLatest _ _ generated => some generated
  | .activate _ => none

def Call.Fresh (call : Call) : Prop :=
  ∀ id, call.storesUnder = some id → id ∉ g.versionIds

instance (g : MessageVersionGraph) (call : Call) : Decidable (call.Fresh g) :=
  match h : call.storesUnder with
  | none => isTrue fun id hid => by simp [h] at hid
  | some id =>
    if mem : id ∈ g.versionIds then isFalse fun fresh => fresh id h mem
    else isTrue fun id' hid => by
      rw [h] at hid
      cases hid
      exact mem

def run (calls : List Call) : MessageVersionGraph :=
  calls.foldl Call.after g

/-- No call of the history reuses an id. -/
def FreshRun : MessageVersionGraph → List Call → Prop
  | _, [] => True
  | g, call :: calls => call.Fresh g ∧ FreshRun (call.after g) calls

instance decidableFreshRun : ∀ (g : MessageVersionGraph) (calls : List Call),
    Decidable (FreshRun g calls)
  | _, [] => isTrue trivial
  | g, call :: calls =>
    have := decidableFreshRun (call.after g) calls
    inferInstanceAs (Decidable (call.Fresh g ∧ FreshRun (call.after g) calls))

theorem Call.after_cases (call : Call) :
    (call.after g).versions = g.versions ∨
      ∃ v : MessageVersion, call.storesUnder = some v.versionId ∧
        (∀ p, v.parentVersionId = some p → p ∈ g.versionIds) ∧
        (call.after g).versions = Assoc.set v.versionId v g.versions := by
  unfold Call.after
  split
  · rename_i v g' h
    cases call with
    | createVersion messages parent createdBy metadata versionId generated =>
      obtain ⟨hid, -, -, hparent, hversions, -⟩ := createVersion_ok h
      exact .inr ⟨v, by rw [hid]; rfl, hparent, hversions⟩
    | forkLatest createdBy metadata generated =>
      simp only [Call.perform, MessageVersionGraph.forkLatest] at h
      cases hm : g.latestMessages with
      | error e => simp [hm, bind, Except.bind] at h
      | ok messages =>
        simp only [hm, bind, Except.bind] at h
        obtain ⟨hid, -, -, hparent, hversions, -⟩ := createVersion_ok h
        exact .inr ⟨v, by rw [hid]; rfl, hparent, hversions⟩
    | activate id => exact .inl (activate_ok h).2.1
  · exact .inl rfl

/-! ### Parents before children -/

/-- Every stored version's parent was stored before it. -/
def Ordered : Prop :=
  ∀ earlier entry later, g.versions = earlier ++ entry :: later →
    ∀ p, entry.2.parentVersionId = some p → p ∈ Assoc.keys earlier

variable {g}

theorem empty_ordered : Ordered empty := by
  intro earlier entry later h
  simp [empty] at h

theorem ordered_of_append (ordered : g.Ordered)
    (parent : ∀ p, v.parentVersionId = some p → p ∈ g.versionIds)
    (h : g'.versions = g.versions ++ [(id, v)]) : g'.Ordered := by
  intro earlier entry later split p hp
  rw [h] at split
  rcases List.append_eq_append_iff.mp split with ⟨mid, rfl, hmid⟩ | ⟨mid, hmid, hlater⟩
  · -- the entry is the appended one
    cases mid with
    | nil =>
      obtain ⟨rfl, -⟩ := hmid
      simpa [versionIds] using parent p hp
    | cons first rest => simp at hmid
  · cases mid with
    | nil =>
      obtain ⟨rfl, -⟩ := hlater
      have := parent p hp
      rw [versionIds, hmid] at this
      simpa using this
    | cons first rest =>
      obtain ⟨rfl, rfl⟩ := hlater
      exact ordered earlier entry rest hmid p hp

variable {call : Call}

theorem Call.after_ordered (fresh : call.Fresh g) (ordered : g.Ordered) :
    (call.after g).Ordered := by
  rcases call.after_cases g with same | ⟨v, stored, parent, set⟩
  · intro earlier entry later split
    rw [same] at split
    exact ordered earlier entry later split
  · rw [Assoc.set_of_not_mem v (fresh _ stored)] at set
    exact ordered_of_append ordered parent set

theorem Call.find_after (fresh : call.Fresh g) (h : g.find id = some v) :
    (call.after g).find id = some v := by
  rcases call.after_cases g with same | ⟨w, stored, -, set⟩
  · rw [find, same]
    exact h
  · have ne : id ≠ w.versionId := by
      rintro rfl
      exact fresh _ stored (find_isSome_iff.mp (by simp [h]))
    rw [find, set, Assoc.get_set_of_ne ne]
    exact h

theorem run_append (g : MessageVersionGraph) (pre post : List Call) :
    run g (pre ++ post) = run (run g pre) post := by
  simp [run, List.foldl_append]

theorem freshRun_append {pre post : List Call} :
    FreshRun g (pre ++ post) ↔ FreshRun g pre ∧ FreshRun (run g pre) post := by
  induction pre generalizing g with
  | nil => simp [FreshRun, run]
  | cons call pre ih => simp [FreshRun, run, ih, and_assoc]

variable {calls : List Call}

theorem run_ordered (fresh : FreshRun g calls) (ordered : g.Ordered) : (run g calls).Ordered := by
  induction calls generalizing g with
  | nil => exact ordered
  | cons call calls ih => exact ih fresh.2 (call.after_ordered fresh.1 ordered)

theorem find_run (fresh : FreshRun g calls) (h : g.find id = some v) :
    (run g calls).find id = some v := by
  induction calls generalizing g with
  | nil => exact h
  | cons call calls ih => exact ih fresh.2 (call.find_after fresh.1 h)

theorem new_ordered (seedMessages : List Value) (generated : VersionId) :
    (new seedMessages generated).Ordered := by
  unfold new
  split
  · exact empty_ordered
  · split
    · rename_i v g h
      obtain ⟨-, -, -, parent, versions, -⟩ := createVersion_ok h
      have appended : g.versions = empty.versions ++ [(v.versionId, v)] := by
        rw [versions]
        rfl
      exact ordered_of_append empty_ordered parent appended
    · exact empty_ordered

/-! ### Lineages -/

def parentOf (g : MessageVersionGraph) (id : VersionId) : Option VersionId :=
  (g.find id).bind MessageVersion.parentVersionId

/-- From a stored version the loop of `lineage` is a walk along parent pointers:
parents are stored, so the lookup inside the loop never fails. -/
theorem lineageLoop_eq_walk (g : MessageVersionGraph) (fuel : Nat) (h : id ∈ g.versionIds)
    (path : List VersionId) : g.lineageLoop fuel (some id) path =
      (ParentChain.walk g.parentOf fuel id).map fun chain => .ok (path ++ chain) := by
  induction fuel generalizing id path with
  | zero => rfl
  | succ fuel ih =>
    obtain ⟨v, found⟩ := Option.isSome_iff_exists.mp (find_isSome_iff.mpr h)
    have step : g.lineageLoop (fuel + 1) (some id) path =
        g.lineageLoop fuel v.parentVersionId (path ++ [id]) := by
      simp [lineageLoop, getVersion, found, versionId_of_find found]
    have parent : g.parentOf id = v.parentVersionId := by simp [parentOf, found]
    rw [step, ParentChain.walk, parent]
    cases hp : v.parentVersionId with
    | none => simp [lineageLoop]
    | some p =>
      rw [ih (parent_mem_of_find found hp)]
      simp only [List.append_assoc, Option.map_map]
      rfl

theorem idxOf_parent_lt (ordered : g.Ordered) (id p : VersionId) (h : g.parentOf id = some p) :
    g.versionIds.idxOf p < g.versionIds.idxOf id := by
  obtain ⟨v, found, hp⟩ := Option.bind_eq_some_iff.mp h
  obtain ⟨earlier, later, split⟩ := List.append_of_mem (Assoc.mem_of_get found)
  have mem := ordered earlier (id, v) later split p hp
  have keysEq : g.versionIds = Assoc.keys earlier ++ id :: Assoc.keys later := by
    rw [versionIds, split]
    simp [Assoc.keys]
  have notEarlier : id ∉ Assoc.keys earlier := by
    have := g.nodup
    rw [show Assoc.keys g.versions = g.versionIds from rfl, keysEq, List.nodup_append] at this
    intro mem'
    exact this.2.2 id mem' id (by simp) rfl
  rw [keysEq, List.idxOf_append_of_mem mem, List.idxOf_append_of_notMem notEarlier]
  simp only [List.idxOf_cons_self, Nat.add_zero]
  exact List.idxOf_lt_length_iff.mpr mem

/-- `lineage` returns on every stored version: a duplicate-free path that starts
at a root, ends at the version and follows parent pointers downwards. Once
enough, more fuel changes nothing. -/
def HasLineage (g : MessageVersionGraph) (id : VersionId) : Prop :=
  ∃ path : List VersionId, (∀ fuel, g.versionIds.length ≤ fuel →
      g.lineage fuel (some id) = some (.ok path)) ∧
    path.Nodup ∧ path.getLast? = some id ∧
    (∃ root v, path.head? = some root ∧ g.find root = some v ∧ v.parentVersionId = none) ∧
    path.IsChain fun parent child => g.parentOf child = some parent

theorem lineage_of_ordered (ordered : g.Ordered) (h : id ∈ g.versionIds) : g.HasLineage id := by
  have drops := idxOf_parent_lt ordered
  have enough : ∀ fuel, g.versionIds.length ≤ fuel → g.versionIds.idxOf id < fuel :=
    fun fuel le => (List.idxOf_lt_length_iff.mpr h).trans_le le
  obtain ⟨chain, hchain⟩ := ParentChain.walk_of_rank drops (enough _ le_rfl)
  have ascends := ParentChain.walk_ascends hchain
  have lineageEq : ∀ fuel, g.versionIds.length ≤ fuel →
      g.lineage fuel (some id) = some (.ok chain.reverse) := by
    intro fuel le
    obtain ⟨chain', hchain'⟩ := ParentChain.walk_of_rank drops (enough fuel le)
    have same : chain' = chain := (ParentChain.walk_ascends hchain').unique ascends
    simp [lineage, lineageLoop_eq_walk g fuel h, hchain', same, Except.map]
  obtain ⟨root, last, isRoot⟩ := ascends.last_root
  have rootMem : root ∈ g.versionIds := by
    refine ascends.forall_mem (· ∈ g.versionIds) (fun u p _ hp => ?_) h root
      (List.mem_of_getLast? last)
    obtain ⟨v, found, parent⟩ := Option.bind_eq_some_iff.mp hp
    exact parent_mem_of_find found parent
  obtain ⟨v, found⟩ := Option.isSome_iff_exists.mp (find_isSome_iff.mpr rootMem)
  refine ⟨chain.reverse, lineageEq, List.nodup_reverse.mpr (ascends.nodup drops), ?_, ?_, ?_⟩
  · simpa using ascends.head
  · exact ⟨root, v, by simpa using last, found, by simpa [parentOf, found] using isRoot⟩
  · exact List.isChain_reverse.mpr ascends.links

/-- A version that is its own parent has no lineage: the loop never ends. -/
theorem lineage_eq_none_of_self_parent (h : g.parentOf id = some id) (fuel : Nat) :
    g.lineage fuel (some id) = none := by
  have mem : id ∈ g.versionIds := by
    obtain ⟨v, found, -⟩ := Option.bind_eq_some_iff.mp h
    exact find_isSome_iff.mp (by simp [found])
  have trapped : ParentChain.walk g.parentOf fuel id = none :=
    ParentChain.walk_eq_none_of_trap (· = id) (fun v hv => ⟨id, hv ▸ h, rfl⟩) fuel rfl
  simp [lineage, lineageLoop_eq_walk g fuel mem, trapped]

/-! ### The graph laws -/

/-- Append-only and well-founded, at every point of a history: what is stored
there keeps its parent and messages to the end, the latest pointer names a
stored version, and every stored version has a lineage. -/
def GraphLaws (start : MessageVersionGraph) (calls : List Call) : Prop :=
  ∀ pre post, calls = pre ++ post →
    (∀ id v, (run start pre).find id = some v →
      ∃ v', (run start calls).find id = some v' ∧
        v'.parentVersionId = v.parentVersionId ∧ v'.messages = v.messages) ∧
    (∀ id, (run start pre).latestVersionId = some id → id ∈ (run start pre).versionIds) ∧
    ∀ id ∈ (run start pre).versionIds, (run start pre).HasLineage id

/-- A history that never stores under an id the graph already holds obeys the
graph laws. -/
theorem graphLaws_of_freshRun (seedMessages : List Value) (generated : VersionId)
    (calls : List Call) (fresh : FreshRun (new seedMessages generated) calls) :
    GraphLaws (new seedMessages generated) calls := by
  rintro pre post rfl
  obtain ⟨freshPre, freshPost⟩ := freshRun_append.mp fresh
  refine ⟨fun id v found => ⟨v, ?_, rfl, rfl⟩, (run _ pre).latest_mem, fun id mem => ?_⟩
  · rw [run_append]
    exact find_run freshPost found
  · exact lineage_of_ordered (run_ordered freshPre (new_ordered _ _)) mem

theorem graphLaws_of_freshRun_fork_and_reactivate :
    GraphLaws (new [userMessage "hello"] "kv_0")
      [.forkLatest none none "kv_1",
        .createVersion [userMessage "bye"] (some "kv_0") (some "kernel") none (some "branch") "kv_2",
        .activate "kv_1"] :=
  graphLaws_of_freshRun _ _ _ (by decide)

/-- Two versions stored under one explicit id: the second is its own parent. -/
def reusedId : List Call :=
  [.createVersion [userMessage "first"] none (some "kernel") none (some "a") "kv_1",
    .createVersion [userMessage "second"] none (some "kernel") none (some "a") "kv_2"]

theorem reusedId_breaks_graphLaws :
    ((run (new [] "kv_0") reusedId).find "a").map MessageVersion.messages
        = some [userMessage "second"] ∧
      (∀ fuel, (run (new [] "kv_0") reusedId).lineage fuel (some "a") = none) ∧
      ¬ GraphLaws (new [] "kv_0") reusedId := by
  have diverges : ∀ fuel, (run (new [] "kv_0") reusedId).lineage fuel (some "a") = none :=
    lineage_eq_none_of_self_parent (by decide)
  refine ⟨by decide, diverges, fun laws => ?_⟩
  obtain ⟨path, returns, -⟩ := (laws reusedId [] (by simp)).2.2 "a" (by decide)
  cases (diverges _).symm.trans (returns _ le_rfl)

end MessageVersionGraph

end Unchain.Kernel
