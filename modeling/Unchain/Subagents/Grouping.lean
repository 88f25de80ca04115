import Unchain.Subagents.BundleMerge

/-!
`SubagentState.merged` over every order and grouping of the bundles.

A `Grouping` is a way to merge: a state, a raw dictionary delivered to what was merged so far, or
two merged states joined. The other fields of a state never stop a merge of well-typed states
(`merged_returns`), so whether a grouping returns, and which bundles it holds, is decided by its
bundles alone.
-/

namespace Unchain.Kernel.SubagentState

open Python Lib Lib.Effect Lib.Highest

/-! ### Well-typed states -/

def Boxes (v : Value) : Prop := ∃ es, v = .dict es ∧ ∀ entry ∈ es, entry.2.isList = true

/-- The container fields hold what the dataclass declares. -/
structure WellTyped (t : SubagentState) : Prop where
  runningBatches : t.runningBatches.isDict = true
  threads : t.threads.isDict = true
  mailboxes : Boxes t.mailboxes
  blackboards : Boxes t.blackboards
  returnHandoffStack : t.returnHandoffStack.isList = true
  blockedClarifications : t.blockedClarifications.isList = true

theorem mergeDict_returns (env : Env) {current update : Value} (dict : current.isDict = true)
    (new : update.isDict = true) : ∃ v, mergeDict env current update = .ok v ∧ v.isDict = true := by
  obtain ⟨es, rfl⟩ := Value.isDict_iff.mp dict
  obtain ⟨fs, rfl⟩ := Value.isDict_iff.mp new
  unfold mergeDict
  split
  · exact ⟨_, rfl, rfl⟩
  · exact ⟨_, rfl, rfl⟩

theorem mergeList_returns {current update : Value} (list : current.isList = true)
    (new : update.isList = true) : ∃ v, mergeList current update = .ok v ∧ v.isList = true := by
  obtain ⟨xs, rfl⟩ := Value.isList_iff.mp list
  obtain ⟨ys, rfl⟩ := Value.isList_iff.mp new
  unfold mergeList
  split
  · exact ⟨_, rfl, rfl⟩
  · exact ⟨_, rfl, rfl⟩

theorem extendBoxes_returns {current update : Dict}
    (lists : ∀ e ∈ current, e.2.isList = true) (new : ∀ e ∈ update, e.2.isList = true) :
    ∃ es, extendBoxes current update = .ok es ∧ ∀ e ∈ es, e.2.isList = true := by
  induction update generalizing current with
  | nil => exact ⟨current, rfl, lists⟩
  | cons e update ih =>
    obtain ⟨key, value⟩ := e
    obtain ⟨ys, list⟩ := Value.isList_iff.mp (new (key, value) (by simp))
    have box : ∃ xs, (Assoc.get key current).getD (.list []) = .list xs := by
      cases known : Assoc.get key current with
      | none => exact ⟨[], rfl⟩
      | some v => exact Value.isList_iff.mp (lists _ (Assoc.mem_of_get known))
    obtain ⟨xs, box⟩ := box
    have lists' : ∀ e ∈ Assoc.set key (.list (xs ++ ys)) current, e.2.isList = true := by
      intro e mem
      rcases (Assoc.mem_of_mem_set mem).imp_left (congrArg Prod.snd) with eq | mem
      · rw [eq, Value.isList_list]
      · exact lists e mem
    obtain ⟨es, extended, all⟩ := ih lists' fun e mem => new e (by simp [mem])
    refine ⟨es, ?_, all⟩
    simp only at list
    simp only [extendBoxes, box, list, iterate, listExtend]
    exact extended

theorem mergeBoxes_returns {current update : Value} (boxes : Boxes current) (new : Boxes update) :
    ∃ v, mergeItems current update extendBoxes = .ok v ∧ Boxes v := by
  obtain ⟨es, rfl, lists⟩ := boxes
  obtain ⟨fs, rfl, newLists⟩ := new
  unfold mergeItems
  split
  · obtain ⟨gs, extended, all⟩ := extendBoxes_returns lists newLists
    refine ⟨.dict gs, ?_, gs, rfl, all⟩
    exact congrArg (Except.map Value.dict) extended
  · exact ⟨_, rfl, es, rfl, lists⟩

/-- The bundles are merged by `mergeBundles`, also where the update has none. -/
theorem mergeItems_bundles (reader : RunBundleReader) (es fs : Dict) :
    mergeItems (.dict es) (.dict fs) (mergeBundles reader) =
      (mergeBundles reader es fs).map Value.dict := by
  cases fs with
  | nil => rfl
  | cons e fs => rfl

variable {env : Env} {es fs : Dict} {reader : RunBundleReader} {t u : SubagentState}

theorem merged_returns {raw : Value} (update : fromRaw env reader raw = .ok u) (typed : WellTyped t)
    (typed' : WellTyped u) {gs : Dict} (current : t.runBundles = .dict es)
    (new : u.runBundles = .dict fs) (merges : mergeBundles reader es fs = .ok gs) :
    ∃ t', merged env reader t.toValue raw = .ok t' ∧ WellTyped t' := by
  have copy : callCopy env t.toValue = .ok t.toValue := IsRecord.copy ⟨t, rfl⟩ env
  obtain ⟨batches, mergesBatches, dictBatches⟩ :=
    mergeDict_returns env typed.runningBatches typed'.runningBatches
  obtain ⟨threads, mergesThreads, dictThreads⟩ := mergeDict_returns env typed.threads typed'.threads
  obtain ⟨mail, mergesMail, boxesMail⟩ := mergeBoxes_returns typed.mailboxes typed'.mailboxes
  obtain ⟨boards, mergesBoards, boxesBoards⟩ :=
    mergeBoxes_returns typed.blackboards typed'.blackboards
  obtain ⟨stack, mergesStack, listStack⟩ :=
    mergeList_returns typed.returnHandoffStack typed'.returnHandoffStack
  obtain ⟨blocked, mergesBlocked, listBlocked⟩ :=
    mergeList_returns typed.blockedClarifications typed'.blockedClarifications
  have bundles : mergeItems t.runBundles u.runBundles (mergeBundles reader) = .ok (.dict gs) := by
    rw [current, new, mergeItems_bundles, merges]
    rfl
  simp only [merged, update, copy, copied_toValue, mergesBatches, mergesThreads, mergesMail,
    mergesBoards, mergesStack, mergesBlocked, bundles, bind, Except.bind]
  exact ⟨_, rfl, ⟨dictBatches, dictThreads, boxesMail, boxesBoards, listStack, listBlocked⟩⟩

theorem merged_ok {t' : SubagentState} {raw : Value} (update : fromRaw env reader raw = .ok u)
    (current : t.runBundles = .dict es) (new : u.runBundles = .dict fs)
    (merges : merged env reader t.toValue raw = .ok t') :
    ∃ gs, mergeBundles reader es fs = .ok gs ∧ t'.runBundles = .dict gs := by
  have copy : callCopy env t.toValue = .ok t.toValue := IsRecord.copy ⟨t, rfl⟩ env
  obtain ⟨u', update', merges⟩ := bind_ok merges
  cases update.symm.trans update'
  obtain ⟨v, copies, merges⟩ := bind_ok merges
  cases copy.symm.trans copies
  obtain ⟨t₀, reads, merges⟩ := bind_ok merges
  cases (copied_toValue env t).symm.trans reads
  obtain ⟨batches, -, merges⟩ := bind_ok merges
  obtain ⟨blocked, -, merges⟩ := bind_ok merges
  obtain ⟨bundles, mergesBundles, merges⟩ := bind_ok merges
  obtain ⟨threads, -, merges⟩ := bind_ok merges
  obtain ⟨mail, -, merges⟩ := bind_ok merges
  obtain ⟨boards, -, merges⟩ := bind_ok merges
  obtain ⟨stack, -, merges⟩ := bind_ok merges
  cases merges
  rw [current, new, mergeItems_bundles] at mergesBundles
  obtain ⟨gs, merged, rfl⟩ := map_ok mergesBundles
  exact ⟨gs, merged, rfl⟩

/-! ### What is delivered -/

/-- A raw dictionary of bundles, each parsed under its own id. -/
def Reads (reader : RunBundleReader) (ws : Dict) (bs : List RunBundleView) : Prop :=
  List.Forall₂ (fun w b => w.1 = b.bundleId ∧ w.2.isDict = true ∧ reader w.2 = .ok b) ws bs

variable {bs : List RunBundleView} {ws : Dict}

theorem Reads.keys (reads : Reads reader ws bs) :
    Assoc.keys ws = bs.map RunBundleView.bundleId := by
  induction reads with
  | nil => rfl
  | cons head _ ih => exact List.cons_eq_cons.mpr ⟨head.1, ih⟩

theorem Reads.stored {reader : RunBundleReader} (lawful : Lawful reader) {ws : Dict}
    {bs : List RunBundleView} (reads : Reads reader ws bs) (distinct : (Assoc.keys ws).Nodup) :
    Stored reader bs := by
  induction reads with
  | nil => exact ⟨fun b mem => by simp at mem, by simp⟩
  | @cons w b ws bs head tail ih =>
    obtain ⟨key, -, read⟩ := head
    obtain ⟨fresh, distinct⟩ := List.nodup_cons.mp distinct
    have rest := ih distinct
    have keys : Assoc.keys ws = bs.map RunBundleView.bundleId := Reads.keys tail
    refine ⟨?_, ?_⟩
    · intro c mem
      rcases List.mem_cons.mp mem with rfl | mem
      · exact (lawful.read _ _ read).1
      · exact rest.bundles c mem
    · rw [List.map_cons, List.nodup_cons]
      refine ⟨?_, rest.distinct⟩
      rw [← key, ← keys]
      exact fresh

theorem readBundles_reads (reads : Reads reader ws bs) (acc : Dict) : readBundles reader ws acc =
      .ok (bs.foldl (fun acc b => Assoc.set b.bundleId b.wire acc) acc) := by
  induction reads generalizing acc with
  | nil => rfl
  | @cons w b ws bs head tail ih =>
    obtain ⟨key, value⟩ := w
    obtain ⟨rfl, dict, read⟩ := head
    simp only [readBundles, dict, ↓reduceIte, read, bind, Except.bind, ne_eq, not_true_eq_false,
      List.foldl_cons]
    exact ih _

theorem foldl_set_entries (as : List RunBundleView)
    (distinct : ((as ++ bs).map RunBundleView.bundleId).Nodup) :
    bs.foldl (fun acc b => Assoc.set b.bundleId b.wire acc) (as.map entry) =
      (as ++ bs).map entry := by
  induction bs generalizing as with
  | nil => simp
  | cons b bs ih =>
    have split : as ++ b :: bs = (as ++ [b]) ++ bs := by simp
    have fresh : b.bundleId ∉ as.map RunBundleView.bundleId := by
      rw [List.map_append, List.map_cons, List.nodup_append] at distinct
      intro mem
      exact distinct.2.2 _ mem _ (by simp) rfl
    rw [List.foldl_cons, Assoc.set_of_not_mem b.wire (by rwa [keys_entries]), split]
    have snoc : as.map entry ++ [(b.bundleId, b.wire)] = (as ++ [b]).map entry := by simp [entry]
    rw [snoc]
    exact ih _ (by rwa [← split])

theorem boxes_mailboxesOr (value : Value) : Boxes (mailboxesOr value (.dict [])) := by
  cases value with
  | dict es =>
    refine ⟨_, rfl, ?_⟩
    intro e mem
    obtain ⟨x, -, rfl⟩ := List.mem_map.mp mem
    rfl
  | _ => exact ⟨[], rfl, fun e mem => by simp at mem⟩

theorem isList_dictsOr (value : Value) : (dictsOr value (.list [])).isList = true := by
  cases value <;> rfl

theorem fromRaw_reads (env : Env) {raw : Dict}
    (field : (Value.dict raw).get "run_bundles" = .dict ws) (reads : Reads reader ws bs)
    (distinct : (bs.map RunBundleView.bundleId).Nodup) :
    ∃ u, fromRaw env reader (.dict raw) = .ok u ∧ WellTyped u ∧
      u.runBundles = .dict (bs.map entry) := by
  have bundles : readBundles reader ws [] = .ok (bs.map entry) := by
    rw [readBundles_reads reads]
    exact congrArg Except.ok (foldl_set_entries [] (by simpa using distinct))
  simp only [fromRaw, Value.isClass, Bool.false_eq_true, ↓reduceIte, field, bundles, bind,
    Except.bind]
  exact ⟨_, rfl, ⟨rfl, rfl, boxes_mailboxesOr _, boxes_mailboxesOr _, isList_dictsOr _,
    isList_dictsOr _⟩, rfl⟩

theorem fromRaw_toValue (env : Env) (reader : RunBundleReader) (t : SubagentState) :
    fromRaw env reader t.toValue = .ok t := by
  have copy : callCopy env t.toValue = .ok t.toValue := IsRecord.copy ⟨t, rfl⟩ env
  have cls : t.toValue.isClass .subagentState = true := by simp [toValue, Value.isClass]
  simp only [fromRaw, cls, ↓reduceIte, copy]
  exact copied_toValue env t

/-! ### Orders and groupings -/

/-- A way to merge bundles: start from a state, deliver a raw dictionary to what was merged so
far, or join two merged states. -/
inductive Grouping where
  | state (t : SubagentState) (bs : List RunBundleView)
  | deliver (g : Grouping) (raw : Dict) (bs : List RunBundleView)
  | join (g h : Grouping)

namespace Grouping

def bundles : Grouping → Set Mark
  | state _ bs => marks bs
  | deliver g _ bs => g.bundles ∪ marks bs
  | join g h => g.bundles ∪ h.bundles

/-- The states start well typed and hold the bundles they are said to; so do the dictionaries
delivered. -/
def Valid (reader : RunBundleReader) : Grouping → Prop
  | state t bs => WellTyped t ∧ t.runBundles = .dict (bs.map entry) ∧ Stored reader bs
  | deliver g raw bs => g.Valid reader ∧ ∃ ws, (Value.dict raw).get "run_bundles" = .dict ws ∧
      Reads reader ws bs ∧ (Assoc.keys ws).Nodup
  | join g h => g.Valid reader ∧ h.Valid reader

def merge (env : Env) (reader : RunBundleReader) : Grouping → Except PyError SubagentState
  | state t _ => .ok t
  | deliver g raw _ => do
    let t ← g.merge env reader
    merged env reader t.toValue (.dict raw)
  | join g h => do
    let t ← g.merge env reader
    let u ← h.merge env reader
    merged env reader t.toValue u.toValue

end Grouping

namespace Grouping

variable {env : Env} {reader : RunBundleReader} {g : Grouping} {t : SubagentState}

theorem merge_ok (lawful : Lawful reader) (valid : g.Valid reader)
    (merges : g.merge env reader = .ok t) :
    ∃ bs, t.runBundles = .dict (bs.map entry) ∧ Stored reader bs ∧
      Covers bundleFacts g.bundles (marks bs) := by
  induction g generalizing t with
  | state t₀ bs =>
    cases merges
    exact ⟨bs, valid.2.1, valid.2.2, valid.2.2.covers⟩
  | deliver g raw cs ih =>
    obtain ⟨valid, ws, field, reads, distinct⟩ := valid
    obtain ⟨t₀, first, merges⟩ := bind_ok merges
    obtain ⟨bs, holds, stored, cover⟩ := ih valid first
    have new := reads.stored lawful distinct
    obtain ⟨u, update, -, bundles⟩ := fromRaw_reads env field reads new.distinct
    obtain ⟨gs, mergesBundles, holds'⟩ := merged_ok update holds bundles merges
    obtain ⟨bs', rfl, stored', cover'⟩ := mergeBundles_ok lawful new.bundles stored mergesBundles
    exact ⟨bs', holds', stored', cover' _ cover⟩
  | join g h ihg ihh =>
    obtain ⟨t₀, first, merges⟩ := bind_ok merges
    obtain ⟨u, second, merges⟩ := bind_ok merges
    obtain ⟨bs, holds, stored, cover⟩ := ihg valid.1 first
    obtain ⟨cs, new, newStored, newCover⟩ := ihh valid.2 second
    obtain ⟨gs, mergesBundles, holds'⟩ := merged_ok (fromRaw_toValue env reader u) holds new merges
    obtain ⟨bs', rfl, stored', cover'⟩ :=
      mergeBundles_ok lawful newStored.bundles stored mergesBundles
    exact ⟨bs', holds', stored', newCover.union (cover' _ cover)⟩

theorem merge_returns (lawful : Lawful reader) {U : Set Mark}
    (consistent : Consistent bundleFacts U) (valid : g.Valid reader) (inU : g.bundles ⊆ U) :
    ∃ t, g.merge env reader = .ok t ∧ WellTyped t := by
  induction g with
  | state t bs => exact ⟨t, rfl, valid.1⟩
  | deliver g raw cs ih =>
    obtain ⟨valid, ws, field, reads, distinct⟩ := valid
    obtain ⟨t, first, typed⟩ := ih valid fun m mem => inU (.inl mem)
    obtain ⟨bs, holds, stored, cover⟩ := merge_ok lawful valid first
    have new := reads.stored lawful distinct
    obtain ⟨u, update, typed', bundles⟩ := fromRaw_reads env field reads new.distinct
    obtain ⟨gs, mergesBundles⟩ := mergeBundles_returns lawful new.bundles stored consistent
      (fun m mem => inU (.inl (cover.highest m mem).mem)) (fun m mem => inU (.inr mem))
    obtain ⟨t', merges, typed⟩ := merged_returns update typed typed' holds bundles mergesBundles
    refine ⟨t', ?_, typed⟩
    rw [merge, first]
    exact merges
  | join g h ihg ihh =>
    obtain ⟨t, first, typed⟩ := ihg valid.1 fun m mem => inU (.inl mem)
    obtain ⟨u, second, typed'⟩ := ihh valid.2 fun m mem => inU (.inr mem)
    obtain ⟨bs, holds, stored, cover⟩ := merge_ok lawful valid.1 first
    obtain ⟨cs, new, newStored, newCover⟩ := merge_ok lawful valid.2 second
    obtain ⟨gs, mergesBundles⟩ := mergeBundles_returns lawful newStored.bundles stored consistent
      (fun m mem => inU (.inl (cover.highest m mem).mem))
      (fun m mem => inU (.inr (newCover.highest m mem).mem))
    obtain ⟨t', merges, typed⟩ :=
      merged_returns (fromRaw_toValue env reader u) typed typed' holds new mergesBundles
    refine ⟨t', ?_, typed⟩
    rw [merge, first, second]
    exact merges

/-- `Within s g`: `s` is merged on the way to `g`. -/
inductive Within (s : Grouping) : Grouping → Prop where
  | self : Within s s
  | deliver {g : Grouping} {raw : Dict} {bs : List RunBundleView} :
      Within s g → Within s (deliver g raw bs)
  | joinLeft {g h : Grouping} : Within s g → Within s (join g h)
  | joinRight {g h : Grouping} : Within s h → Within s (join g h)

variable {s : Grouping}

theorem Within.valid (within : Within s g) (valid : g.Valid reader) : s.Valid reader := by
  induction within with
  | self => exact valid
  | deliver _ ih => exact ih valid.1
  | joinLeft _ ih => exact ih valid.1
  | joinRight _ ih => exact ih valid.2

theorem Within.merge_ok (within : Within s g) (merges : g.merge env reader = .ok t) :
    ∃ t', s.merge env reader = .ok t' := by
  induction within generalizing t with
  | self => exact ⟨t, merges⟩
  | deliver _ ih | joinLeft _ ih =>
    obtain ⟨t₀, first, -⟩ := bind_ok merges
    exact ih first
  | joinRight _ ih =>
    obtain ⟨t₀, -, merges⟩ := bind_ok merges
    obtain ⟨u, second, -⟩ := bind_ok merges
    exact ih second

theorem error_of_not_ok {x : Except PyError SubagentState} (h : ∀ t, x ≠ .ok t) :
    ∃ e, x = .error e := by
  cases x with
  | error e => exact ⟨e, rfl⟩
  | ok t => exact absurd rfl (h t)

end Grouping

/-! ### Order independence -/

/-- Equal bundle ids have equal identities. -/
def OneIdentity (S : Set Mark) : Prop :=
  ∀ b ∈ S, ∀ c ∈ S, b.bundleId = c.bundleId → b.identity = c.identity

def OneDigest (S : Set Mark) : Prop :=
  ∀ b ∈ S, ∀ c ∈ S, b.bundleId = c.bundleId → b.revision = c.revision →
    b.bundleDigest = c.bundleDigest

variable {S : Set Mark}

theorem consistent_iff :
    Consistent bundleFacts S ↔ OneIdentity S ∧ OneDigest S := by
  constructor
  · intro h
    refine ⟨h.ident_eq, ?_⟩
    intro b hb c hc id revision
    rw [h.rank_eq b hb c hc id revision]
  · rintro ⟨identity, digest⟩
    refine ⟨identity, ?_⟩
    intro b hb c hc id revision
    have sameIdentity := identity b hb c hc id
    have sameDigest := digest b hb c hc id revision
    cases b
    cases c
    simp only [bundleFacts] at id revision sameIdentity sameDigest
    simp [id, revision, sameIdentity, sameDigest]

def HoldsHighest (reader : RunBundleReader) (S : Set Mark) (v : Value) : Prop :=
  ∃ es, v = .dict es ∧ (Assoc.keys es).Nodup ∧
    (∀ id wire, Assoc.get id es = some wire →
      ∃ b, IsBundle reader b ∧ b.wire = wire ∧ b.bundleId = id ∧ mark b ∈ S ∧
        ∀ c ∈ S, c.bundleId = id → c.revision < b.revision ∨ c = mark b) ∧
    ∀ b ∈ S, ∃ wire, Assoc.get b.bundleId es = some wire

theorem holdsHighest_entries (stored : Stored reader bs) (cover : Covers bundleFacts S (marks bs)) :
    HoldsHighest reader S (.dict (bs.map entry)) := by
  refine ⟨_, rfl, by rw [keys_entries]; exact stored.distinct, ?_, ?_⟩
  · intro id wire lookup
    obtain ⟨b, hb, eq⟩ := List.mem_map.mp (Assoc.mem_of_get lookup)
    cases eq
    have highest := cover.highest _ (mem_marks hb)
    exact ⟨b, stored.bundles b hb, rfl, rfl, highest.mem, highest.above⟩
  · intro m mem
    obtain ⟨_, ⟨b, hb, rfl⟩, same⟩ := cover.covered m mem
    refine ⟨b.wire, ?_⟩
    have id : b.bundleId = m.bundleId := same
    rw [← id]
    exact get_entries stored.distinct hb

theorem eqEntries_of_get (h : ∀ e ∈ es, ∃ w, Assoc.get e.1 fs = some w ∧ e.2.eqPy w = true) :
    Value.eqEntries es fs = true := by
  induction es with
  | nil => rfl
  | cons e es ih =>
    obtain ⟨key, v⟩ := e
    obtain ⟨w, lookup, eq⟩ := h (key, v) (by simp)
    have rest := ih fun e mem => h e (by simp [mem])
    simp [Value.eqEntries, lookup, eq, rest]

variable {v : Value}

/-- Dictionaries of the highest bundles of one set are equal as Python compares them. -/
theorem HoldsHighest.eqPy (lawful : Lawful reader) {w : Value} (hv : HoldsHighest reader S v)
    (hw : HoldsHighest reader S w) : v.eqPy w = true := by
  obtain ⟨es, rfl, distinct, highest, covered⟩ := hv
  obtain ⟨fs, rfl, distinct', highest', covered'⟩ := hw
  have keys : ∀ id, id ∈ Assoc.keys es ↔ id ∈ Assoc.keys fs := by
    intro id
    rw [← Assoc.get_isSome_iff, ← Assoc.get_isSome_iff, Option.isSome_iff_exists,
      Option.isSome_iff_exists]
    constructor
    · rintro ⟨wire, lookup⟩
      obtain ⟨b, -, -, rfl, mem, -⟩ := highest id wire lookup
      exact covered' _ mem
    · rintro ⟨wire, lookup⟩
      obtain ⟨b, -, -, rfl, mem, -⟩ := highest' id wire lookup
      exact covered _ mem
  have length : es.length = fs.length := by
    have perm := (List.perm_ext_iff_of_nodup distinct distinct').mpr keys
    simpa [Assoc.keys] using perm.length_eq
  have entries : Value.eqEntries es fs = true := by
    apply eqEntries_of_get
    rintro ⟨id, wire⟩ mem
    obtain ⟨b, bundle, rfl, rfl, inS, top⟩ := highest id wire (Assoc.get_of_mem distinct mem)
    obtain ⟨wire', lookup⟩ := covered' _ inS
    obtain ⟨c, bundle', rfl, sameId, inS', top'⟩ := highest' _ wire' lookup
    refine ⟨c.wire, lookup, ?_⟩
    have same : mark b = mark c := by
      rcases top _ inS' sameId with lower | eq
      · rcases top' _ inS rfl with lower' | eq
        · simp only [mark] at lower lower'
          omega
        · exact eq
      · exact eq.symm
    exact lawful.body b c bundle bundle' (congrArg Mark.bundleDigest same)
  simp [Value.eqPy, length, entries]

/-- `SubagentState.merged` does not depend on the order, the repetitions or the grouping of the
bundles. Bundles that agree are merged by every grouping; what a grouping returns holds the
highest revision of each id, so two groupings of the same bundles return equal dictionaries.
A grouping of bundles that differ in the identity of an id raises, and so does every grouping
that, on its way, merges two digests of one revision with none above it. -/
theorem run_bundles_order_independent (env : Env) (reader : RunBundleReader)
    (lawful : Lawful reader) :
    (∀ g : Grouping, g.Valid reader → OneIdentity g.bundles → OneDigest g.bundles →
      ∃ t, g.merge env reader = .ok t) ∧
    (∀ g : Grouping, g.Valid reader → ∀ t, g.merge env reader = .ok t →
      HoldsHighest reader g.bundles t.runBundles) ∧
    (∀ g h : Grouping, g.Valid reader → h.Valid reader → g.bundles = h.bundles →
      ∀ t u, g.merge env reader = .ok t → h.merge env reader = .ok u →
        t.runBundles.eqPy u.runBundles = true) ∧
    (∀ g : Grouping, g.Valid reader → ¬ OneIdentity g.bundles →
      ∃ e, g.merge env reader = .error e) ∧
    ∀ g s : Grouping, g.Valid reader → Grouping.Within s g →
      (∃ b ∈ s.bundles, ∃ c ∈ s.bundles, b.bundleId = c.bundleId ∧ b.revision = c.revision ∧
        b.bundleDigest ≠ c.bundleDigest ∧
        ∀ d ∈ s.bundles, d.bundleId = b.bundleId → d.revision ≤ b.revision) →
      ∃ e, g.merge env reader = .error e := by
  have holds : ∀ g : Grouping, g.Valid reader → ∀ t, g.merge env reader = .ok t →
      HoldsHighest reader g.bundles t.runBundles := by
    intro g valid t merges
    obtain ⟨bs, runBundles, stored, cover⟩ := Grouping.merge_ok lawful valid merges
    rw [runBundles]
    exact holdsHighest_entries stored cover
  refine ⟨?_, holds, ?_, ?_, ?_⟩
  · intro g valid identity digest
    obtain ⟨t, merges, -⟩ := Grouping.merge_returns lawful
      (consistent_iff.mpr ⟨identity, digest⟩) valid fun _ mem => mem
    exact ⟨t, merges⟩
  · intro g h validG validH same t u mergesG mergesH
    have first := holds g validG t mergesG
    rw [same] at first
    exact first.eqPy lawful (holds h validH u mergesH)
  · intro g valid conflict
    apply Grouping.error_of_not_ok
    intro t merges
    obtain ⟨bs, -, -, cover⟩ := Grouping.merge_ok lawful valid merges
    exact conflict fun b hb c hc id => cover.ident_eq hb hc id
  · rintro g s valid within ⟨b, hb, c, hc, id, revision, digest, top⟩
    apply Grouping.error_of_not_ok
    intro t merges
    obtain ⟨t', part⟩ := within.merge_ok merges
    obtain ⟨bs, -, -, cover⟩ := Grouping.merge_ok lawful (within.valid valid) part
    exact digest (congrArg Mark.bundleDigest (cover.top_eq hb hc id revision top))

/-! ### One child, reported three times -/

def childIdentity : Dict :=
  [("execution_id", .str "exec-1"), ("attempt_id", .str "attempt-1"),
    ("root_run_id", .str "run-1"), ("run_id", .str "run-2"), ("parent_run_id", .str "run-1"),
    ("relation", .str "subagent")]

def childBundleId : String :=
  "rb_7ab23d54b3d768c9e906db2a3b4c5597c775e5af062fe4b121794df3f47ca4d4"

def childBundle (revision calls : Int) (root facts digest : String) : RunBundleView where
  bundleId := childBundleId
  identity := .obj (.other "RunIdentity") childIdentity
  revision := revision
  bundleDigest := .str digest
  wire := .dict
    [("schema", .str "unchain.run_bundle.v2"), ("bundle_id", .str childBundleId),
      ("revision", .int revision), ("identity", .dict childIdentity),
      ("lifecycle", .dict [("status", .str "running"),
        ("started_at", .str "2025-01-01T00:00:00Z"), ("completed_at", .none),
        ("continued_from_run_id", .none)]),
      ("descriptor", .dict [("model", .str "unknown-model"),
        ("display_model", .str "model-unavailable"), ("active_agent", .str "unknown"),
        ("agent_orchestration", .str "default"), ("iteration", .int 0)]),
      ("provider_call_count", .int calls), ("direct_provider_call_count", .int calls),
      ("descendant_provider_call_count", .int 0), ("aggregation_usage", .dict []),
      ("direct_usage", .dict []), ("descendant_usage", .dict []), ("metrics", .dict []),
      ("coverage", .dict []), ("cost", .dict []), ("legacy", .dict []), ("evidence", .dict []),
      ("children", .dict []),
      ("details_ref", .dict [("schema", .str "unchain.run_bundle_details_ref.v1"),
        ("details_id", .str ("rbd_" ++ facts)), ("facts_digest", .str facts),
        ("total_bytes", .int (1024 * calls)),
        ("parts", .list [.dict [("name", .str "provider_calls"), ("item_count", .int calls),
          ("canonical_bytes", .int (1024 * calls)), ("root_sha256", .str root)]])]),
      ("extensions", .dict []), ("bundle_digest", .str digest)]

def firstReport : RunBundleView := childBundle 1 1
  "24e58e1fd6f8d455f00b3ced7c601b885cf82043f9f65d6247235c8f013267c4"
  "dcd9ed612456096df388db161c39688110f8bb48f8ee5a53f8022a0f75ffec3c"
  "9fb5b8e73ef19dda9f50c4e95549b148506a8a010557a717a9114a29c6927d56"

/-- Another projection of the first revision. -/
def conflictingReport : RunBundleView := childBundle 1 2
  "577ea72af2180ea4abae7482ac3a5f159d81f27b1ffff2a2c6bebeada9f77def"
  "f3e69d675ca984242f0498f2a481ffa38eca307f9cca5ed57077087146dcf0bd"
  "38180b41bb63500856f72227ef876b39775385037a30106f26837ca3d22aa53b"

def secondReport : RunBundleView := childBundle 2 3
  "1b2fbe798c98637211f1ec8dce9612fb20271361af54959f428774f3143ac4fe"
  "6d80e25025f5a87ed167c9b067d270e2da6d71e870997c0df5d34facd3b28f90"
  "d6da17683f2fc3d90d494b2e1f13c88d3d499317fb6e7527a9d1c1a3ab3a9ac1"

def reports : List RunBundleView := [firstReport, conflictingReport, secondReport]

/-- `run_bundle_from_dict` on the three reports. -/
def reportReader : RunBundleReader := fun v =>
  match reports.find? fun b => Value.beq b.wire v with
  | some b => .ok b
  | none => .error (.raised "CompactRunBundleProtocolError" "compact bundle schema is invalid")

variable {b : RunBundleView}

theorem reportReader_mem (read : reportReader v = .ok b) : b ∈ reports := by
  unfold reportReader at read
  split at read
  · rename_i c found
    cases read
    exact List.mem_of_find?_eq_some found
  · cases read

theorem isBundle_report (mem : b ∈ reports) : IsBundle reportReader b ∧ b.wire.isDict = true := by
  simp only [reports, List.mem_cons, List.not_mem_nil, or_false] at mem
  rcases mem with rfl | rfl | rfl
  · exact ⟨rfl, rfl⟩
  · exact ⟨rfl, rfl⟩
  · exact ⟨rfl, rfl⟩

theorem reports_digest : ∀ b ∈ reports, ∀ c ∈ reports,
    b.identity = c.identity ∧ b.identity.eqPy c.identity = true ∧
      (∃ text, b.bundleDigest = .str text) ∧
      (b.bundleDigest = c.bundleDigest → b.wire.eqPy c.wire = true) := by
  intro b hb c hc
  simp only [reports, List.mem_cons, List.not_mem_nil, or_false] at hb hc
  rcases hb with rfl | rfl | rfl <;> rcases hc with rfl | rfl | rfl
  all_goals exact ⟨rfl, by decide, ⟨_, rfl⟩, by decide⟩

theorem lawful_reportReader : Lawful reportReader where
  read v b read := isBundle_report (reportReader_mem read)
  identity b c hb hc := by
    obtain ⟨same, eq, -⟩ := reports_digest b (reportReader_mem hb) c (reportReader_mem hc)
    exact ⟨fun _ => same, fun _ => eq⟩
  digest b c hb hc := by
    obtain ⟨-, -, ⟨text, digest⟩, -⟩ :=
      reports_digest c (reportReader_mem hc) b (reportReader_mem hb)
    rw [digest]
    exact Value.eqPy_str_iff
  body b c hb hc := (reports_digest b (reportReader_mem hb) c (reportReader_mem hc)).2.2.2

def reportUpdate (b : RunBundleView) : Dict := [("run_bundles", .dict [(b.bundleId, b.wire)])]

def deliveries : List RunBundleView → Grouping
  | [] => .state empty []
  | b :: earlier => .deliver (deliveries earlier) (reportUpdate b) [b]

theorem valid_deliveries (known : ∀ b ∈ bs, b ∈ reports) : (deliveries bs).Valid reportReader := by
  induction bs with
  | nil =>
    have boxes : Boxes (.dict []) := ⟨[], rfl, fun e mem => by simp at mem⟩
    exact ⟨⟨rfl, rfl, boxes, boxes, rfl, rfl⟩, rfl, ⟨fun b mem => by simp at mem, by simp⟩⟩
  | cons b bs ih =>
    obtain ⟨bundle, dict⟩ := isBundle_report (known b (by simp))
    refine ⟨ih fun c mem => known c (by simp [mem]), [(b.bundleId, b.wire)], rfl, ?_, by
      simp [Assoc.keys]⟩
    exact List.Forall₂.cons ⟨rfl, dict, bundle⟩ List.Forall₂.nil

def reportEnv : Env where
  display := fun _ => ""
  typeAttr _ _ := false
  frozen _ := false
  dictOf _ := .error (.typeError "object is not iterable")
  copyOf v := .ok v

/-- A child that is heard of twice: the second report is what remains, in either order. -/
theorem report_orders_agree :
    ∃ t u, (deliveries [secondReport, firstReport]).merge reportEnv reportReader = .ok t ∧
      (deliveries [firstReport, secondReport]).merge reportEnv reportReader = .ok u ∧
      t.runBundles.eqPy u.runBundles = true := by
  refine ⟨_, _, rfl, rfl, ?_⟩
  have same : (deliveries [secondReport, firstReport]).bundles =
      (deliveries [firstReport, secondReport]).bundles := by
    ext m
    simp [Grouping.bundles, deliveries, marks, or_comm]
  exact (run_bundles_order_independent reportEnv reportReader lawful_reportReader).2.2.1 _ _
    (valid_deliveries (by simp [reports])) (valid_deliveries (by simp [reports])) same _ _ rfl rfl

/-- A second digest of the first revision is not noticed once the second revision is merged. -/
theorem conflict_behind_newer_revision :
    Lawful reportReader ∧
    (deliveries [conflictingReport, secondReport, firstReport]).Valid reportReader ∧
    ¬ OneDigest (deliveries [conflictingReport, secondReport, firstReport]).bundles ∧
    ∃ t, (deliveries [conflictingReport, secondReport, firstReport]).merge reportEnv reportReader =
      .ok t := by
  refine ⟨lawful_reportReader, valid_deliveries (by simp [reports]), ?_, _, rfl⟩
  intro one
  have same := one (mark conflictingReport) (.inr (mem_marks (by simp)))
    (mark firstReport) (.inl (.inl (.inr (mem_marks (by simp))))) rfl rfl
  exact absurd same (by decide)

end Unchain.Kernel.SubagentState
