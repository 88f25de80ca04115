import Unchain.Context.Checkpoints

/-!
Checkpoint manifests read back as they were written, and their ids identify what they cover.
-/

namespace Unchain.Context

open Lib Lib.Effect Python Journal
open Lib.Utf8 (CollisionFree)

variable {host : CheckpointHost}

/-! ### Reading a dependency back -/

variable {field s : String} {v : Value}

theorem digestField_ok (h : digestField field v = .ok s) : v = .str s ∧ isSha256 s = true := by
  unfold digestField at h
  split at h
  · split at h
    · rename_i valid
      cases h
      exact ⟨rfl, valid⟩
    · cases h
  · cases h

theorem digestField_str {field s : String} (valid : isSha256 s = true) :
    digestField field (.str s) = .ok s := by
  simp [digestField, valid]

theorem identifierField_ok (h : identifierField field v = .ok s) :
    s = strip s ∧ isIdentifier s = true := by
  unfold identifierField at h
  split at h
  · split at h
    · rename_i valid
      cases h
      exact valid
    · cases h
  · cases h

theorem identifierField_again (h : identifierField field v = .ok s) :
    identifierField field (.str s) = .ok s := by
  simp only [identifierField, if_pos (identifierField_ok h)]

namespace CheckpointProjectionDependency

variable {expected message s : String} {v : Value}

theorem fixedField_ok (h : fixedField message expected v = .ok s) : s = expected := by
  unfold fixedField at h
  split at h
  · cases h
    rfl
  · cases h

theorem fixedField_again (h : fixedField message expected v = .ok s) :
    fixedField message expected (.str s) = .ok s := by
  have eq := fixedField_ok h
  subst eq
  have self : (Value.str s).eqPy (.str s) = true := Value.eqPy_str_iff.mpr rfl
  simp [fixedField, self]

theorem nodeField_again (h : nodeField v = .ok s) : nodeField (.str s) = .ok s := by
  unfold nodeField at h
  split at h
  · have truthy : (Value.str s).truthy = true := by
      have named := (identifierField_ok h).2
      rw [Value.truthy, bne_iff_ne]
      rintro rfl
      simp [isIdentifier] at named
    rw [nodeField, if_pos truthy]
    exact identifierField_again h
  · split at h
    · cases h
      rfl
    · cases h

theorem stepFields_again {w : Value} {step : Option Int × Option Int}
    (h : stepFields v w = .ok step) :
    stepFields (optionalInt step.1) (optionalInt step.2) = .ok step := by
  unfold stepFields at h
  split at h
  · cases h
    rfl
  · cases h
  · cases h
  · split at h
    · cases h
    · rename_i valid
      cases h
      simp only [stepFields, optionalInt, if_neg valid]
  · cases h

theorem iterationField_again {n : Option Int} (h : iterationField v = .ok n) :
    iterationField (optionalInt n) = .ok n := by
  unfold iterationField at h
  split at h
  · cases h
    rfl
  · split at h
    · cases h
    · rename_i valid
      cases h
      simp only [iterationField, optionalInt, if_neg valid]
  · cases h

theorem make_again {source receipt : EventCursor}
    {eventType attemptId purpose status eventSha256 nodeId stepIndex stepCount iteration : Value}
    {d : CheckpointProjectionDependency}
    (h : make source receipt eventType attemptId purpose status eventSha256 nodeId stepIndex
      stepCount iteration = .ok d) : d.sourceCursor = source ∧ d.receiptCursor = receipt ∧
    make source receipt (.str d.eventType) (.str d.attemptId) (.str d.purpose) (.str d.status)
      (.str d.eventSha256) (.str d.workflowNodeId) (optionalInt d.workflowStepIndex)
      (optionalInt d.workflowStepCount) (optionalInt d.iteration) = .ok d := by
  obtain ⟨u, ordered, h⟩ := bind_ok h
  obtain ⟨type, typeOk, h⟩ := bind_ok h
  obtain ⟨attempt, attemptOk, h⟩ := bind_ok h
  obtain ⟨why, purposeOk, h⟩ := bind_ok h
  obtain ⟨state, statusOk, h⟩ := bind_ok h
  obtain ⟨digest, digestOk, h⟩ := bind_ok h
  obtain ⟨node, nodeOk, h⟩ := bind_ok h
  obtain ⟨step, stepOk, h⟩ := bind_ok h
  obtain ⟨round, roundOk, h⟩ := bind_ok h
  cases h
  refine ⟨rfl, rfl, ?_⟩
  rw [make, ordered]
  simp only [fixedField_again typeOk, identifierField_again attemptOk, fixedField_again purposeOk,
    fixedField_again statusOk, digestField_str (digestField_ok digestOk).2, nodeField_again nodeOk,
    stepFields_again stepOk, iterationField_again roundOk, bind, Except.bind]
  rfl

theorem fromDict_toDict (normalizes : Normalizes host.journal.nfc)
    {d : CheckpointProjectionDependency} (made : d.Made host) : fromDict host d.toDict = .ok d := by
  obtain ⟨source, receipt, _, _, _, _, _, _, _, _, _, made⟩ := made
  have first := EventCursor.fromDict_toDict normalizes source
  have second := EventCursor.fromDict_toDict normalizes receipt
  have again := (make_again made).2.2
  have shape : raiseIf (!hasExactly d.toDict fields)
      (checkpointProjectionError "checkpoint projection dependency is invalid") = .ok () := by
    have exact : hasExactly d.toDict fields = true := hasExactly_of_keys rfl
    rw [raiseIf_ok, exact]
    rfl
  rw [fromDict, shape]
  show (EventCursor.fromDict host.journal d.sourceCursor.toDict >>= fun _ => _) = _
  rw [first]
  show (EventCursor.fromDict host.journal d.receiptCursor.toDict >>= fun _ => _) = _
  rw [second]
  exact again

end CheckpointProjectionDependency

/-! ### Reading a request back -/

theorem eventId?_ok (h : eventId? v = some s) : s ≠ "" ∧ s = strip s := by
  unfold eventId? at h
  split at h
  · split at h
    · rename_i valid
      cases h
      exact valid
    · cases h
  · cases h

variable {n : Int}

theorem storeSeq?_ok (h : storeSeq? v = some n) : 0 < n := by
  unfold storeSeq? at h
  split at h
  · split at h
    · rename_i valid
      cases h
      exact valid
    · cases h
  · cases h

variable {eventIds storeSeqs : List Value} {ids : List String} {seqs : List Int}

theorem validateSourceEvents_ok (h : validateSourceEvents eventIds storeSeqs = .ok (ids, seqs)) :
    (eventIds.isEmpty || eventIds.length != storeSeqs.length) = false ∧
      eventIds.mapM eventId? = some ids ∧ ¬¬ids.Nodup ∧ storeSeqs.mapM storeSeq? = some seqs ∧
      ¬((seqs.zip seqs.tail).any fun pair => pair.2 ≤ pair.1) = true := by
  obtain ⟨aligned, h⟩ := raiseIf_bind_ok h
  cases readIds : eventIds.mapM eventId? with
  | none =>
    rw [readIds] at h
    cases h
  | some ids' =>
    rw [readIds] at h
    simp only at h
    split at h
    · cases h
    rename_i unique
    cases readSeqs : storeSeqs.mapM storeSeq? with
    | none =>
      rw [readSeqs] at h
      cases h
    | some seqs' =>
      rw [readSeqs] at h
      simp only at h
      split at h
      · cases h
      rename_i increasing
      cases h
      exact ⟨aligned, rfl, unique, rfl, increasing⟩

/-- What the check has let pass, it lets pass again. -/
theorem validateSourceEvents_again (h : validateSourceEvents eventIds storeSeqs = .ok (ids, seqs)) :
    validateSourceEvents (ids.map .str) (seqs.map .int) = .ok (ids, seqs) ∧
      (∀ id ∈ ids, id = strip id) := by
  obtain ⟨aligned, readIds, unique, readSeqs, increasing⟩ := validateSourceEvents_ok h
  obtain ⟨idsAgain, idsLength⟩ := mapM_some_again (g := Value.str)
    (fun v id (read : eventId? v = some id) => by
      simp only [eventId?, if_pos (eventId?_ok read)]) readIds
  obtain ⟨seqsAgain, seqsLength⟩ := mapM_some_again (g := Value.int)
    (fun v n (read : storeSeq? v = some n) => by
      simp only [storeSeq?, if_pos (storeSeq?_ok read)]) readSeqs
  refine ⟨?_, ?_⟩
  · have passes : raiseIf ((ids.map Value.str).isEmpty ||
        (ids.map Value.str).length != (seqs.map Value.int).length)
        (checkpointProjectionError
          "checkpoint events and store sequences must be non-empty and aligned") = .ok () := by
      simp only [Bool.or_eq_false_iff, List.isEmpty_eq_false_iff, bne_eq_false_iff_eq] at aligned
      have some : ids ≠ [] := by
        rintro rfl
        exact aligned.1 (List.length_eq_zero_iff.mp idsLength.symm)
      simp [some, idsLength, seqsLength, aligned.2]
    rw [validateSourceEvents, passes]
    simp only [bind, Except.bind]
    rw [idsAgain]
    simp only
    rw [if_neg unique, seqsAgain]
    simp only
    rw [if_neg increasing]
  · intro id mem
    obtain ⟨v, -, read⟩ := mem_of_mapM_some readIds id mem
    exact (eventId?_ok read).2

/-- What a request's constructor has made sure of. -/
structure CheckpointRequest.Sound (host : CheckpointHost) (r : CheckpointRequest) : Prop where
  events : validateSourceEvents (r.sourceEventIds.map .str) (r.sourceEventStoreSeqs.map .int) =
    .ok (r.sourceEventIds, r.sourceEventStoreSeqs)
  aligned : r.sourceEventSha256s.length = r.sourceEventIds.length
  digests : ∀ d ∈ r.sourceEventSha256s, isSha256 d = true
  messages : isSha256 r.sourceMessagesSha256 = true
  dependencies : validateDependencies r.sourceEventIds r.sourceEventStoreSeqs
    r.projectionDependencies = .ok ()
  range : coverageRange host r.sourceEventIds r.sourceEventStoreSeqs r.projectionDependencies =
    .ok r.sourceRange
  id : checkpointRequestId host r.sourceEventIds r.sourceEventStoreSeqs r.sourceEventSha256s
    r.sourceMessagesSha256 r.projectionDependencies = .ok r.requestId

variable {r : CheckpointRequest} {range : EventRange}
  {dependencies : List CheckpointProjectionDependency}

theorem CheckpointRequest.make_sound {requestId : Value} {eventSha256s : List Value}
    {messagesSha256 : Value} (h : CheckpointRequest.make host requestId range eventIds storeSeqs eventSha256s messagesSha256
      dependencies = .ok r) :
    r.Sound host ∧ r.projectionDependencies = dependencies := by
  obtain ⟨⟨ids, seqs⟩, events, h⟩ := bind_ok h
  obtain ⟨aligned, h⟩ := raiseIf_bind_ok h
  obtain ⟨digests, digestsOk, h⟩ := bind_ok h
  obtain ⟨u, dependenciesOk, h⟩ := bind_ok h
  obtain ⟨messages, messagesOk, h⟩ := bind_ok h
  obtain ⟨covered, rangeOk, h⟩ := bind_ok h
  obtain ⟨sameRange, h⟩ := raiseIf_bind_ok h
  obtain ⟨expected, idOk, h⟩ := bind_ok h
  obtain ⟨sameId, h⟩ := raiseIf_bind_ok h
  cases h
  have range : range = covered := by simpa using sameRange
  refine ⟨⟨(validateSourceEvents_again events).1, ?_, ?_, (digestField_ok messagesOk).2,
    dependenciesOk, ?_, idOk⟩, rfl⟩
  · rw [length_of_mapM digestsOk]
    simpa using aligned
  · intro d mem
    obtain ⟨v, -, read⟩ := mem_of_mapM digestsOk d mem
    exact (digestField_ok read).2
  · rw [range]
    exact rangeOk

theorem coverageRange_made (made : ∀ d ∈ dependencies, d.Made host)
    (h : coverageRange host ids seqs dependencies = .ok range) :
    ∃ first last, EventCursor.Made host.journal first ∧ EventCursor.Made host.journal last ∧
      EventRange.make first last = .ok range := by
  obtain ⟨cursors, read, h⟩ := bind_ok h
  have all : ∀ c ∈ (cursors ++ dependencies.map fun d => d.receiptCursor).insertionSort
      (fun a b => cursorLE a b = true), EventCursor.Made host.journal c := by
    intro c mem
    rw [List.mem_insertionSort, List.mem_append] at mem
    rcases mem with mem | mem
    · obtain ⟨source, -, eq⟩ := mem_of_mapM read c mem
      exact ⟨_, _, eq⟩
    · obtain ⟨d, hd, rfl⟩ := List.mem_map.mp mem
      exact (made d hd).2.1
  simp only at h
  split at h
  · rename_i first last head tail
    exact ⟨first, last, all first (List.mem_of_head? head), all last (List.mem_of_getLast? tail), h⟩
  · cases h

theorem tupleOf_list (vs : List Value) : CheckpointRequest.tupleOf (.list vs) = .ok vs := by
  cases vs with
  | nil => rfl
  | cons v vs => rfl

theorem CheckpointRequest.fromDict_toDict (normalizes : Normalizes host.journal.nfc)
    (sound : r.Sound host) (made : ∀ d ∈ r.projectionDependencies, d.Made host) :
    CheckpointRequest.fromDict host r.toDict = .ok r := by
  obtain ⟨first, last, madeFirst, madeLast, range⟩ := coverageRange_made made sound.range
  have rangeBack := EventRange.fromDict_toDict normalizes madeFirst madeLast range
  have digestsBack : (r.sourceEventSha256s.map Value.str).mapM
      (digestField "checkpoint source event digest") = .ok r.sourceEventSha256s := by
    refine mapM_map_ok ?_
    intro d mem
    exact digestField_str (sound.digests d mem)
  have dependenciesBack : (r.projectionDependencies.map fun d => d.toDict).mapM
      (CheckpointProjectionDependency.fromDict host) = .ok r.projectionDependencies := by
    refine mapM_map_ok ?_
    intro d mem
    exact CheckpointProjectionDependency.fromDict_toDict normalizes (made d mem)
  have messagesBack := @digestField_str "checkpoint source digest" _ sound.messages
  have text : (Value.str r.requestId).eqPy (.str r.requestId) = true := Value.eqPy_str_iff.mpr rfl
  have remade : CheckpointRequest.make host (.str r.requestId) r.sourceRange
      (r.sourceEventIds.map .str) (r.sourceEventStoreSeqs.map .int)
      (r.sourceEventSha256s.map .str) (.str r.sourceMessagesSha256) r.projectionDependencies =
      .ok r := by
    simp only [CheckpointRequest.make, sound.events, bind, Except.bind, List.length_map,
      sound.aligned, bne_self_eq_false, raiseIf, Bool.false_eq_true, ↓reduceIte, digestsBack,
      sound.dependencies, messagesBack, sound.range, ne_eq, not_true_eq_false, decide_false,
      sound.id, text, Bool.not_true]
    rfl
  have shape : hasExactly r.toDict CheckpointRequest.fields = true := hasExactly_of_keys rfl
  have schema : ((r.toDict.get "schema").eqPy (.str "unchain.checkpoint_request.v2")) = true :=
    Value.eqPy_str_iff.mpr rfl
  have ids : r.toDict.get "source_event_ids" = .list (r.sourceEventIds.map .str) := rfl
  have seqs : r.toDict.get "source_event_store_seqs" = .list (r.sourceEventStoreSeqs.map .int) :=
    rfl
  have digests : r.toDict.get "source_event_sha256s" = .list (r.sourceEventSha256s.map .str) := rfl
  have dependencies : r.toDict.get "projection_dependencies" =
      .list (r.projectionDependencies.map fun d => d.toDict) := rfl
  have messages : r.toDict.get "source_messages_sha256" = .str r.sourceMessagesSha256 := rfl
  have covered : r.toDict.get "source_range" = r.sourceRange.toDict := rfl
  have events : r.toDict.get "event_count" = .int r.sourceEventIds.length := rfl
  have needed : r.toDict.get "dependency_count" = .int r.projectionDependencies.length := rfl
  have id : r.toDict.get "request_id" = .str r.requestId := rfl
  simp only [CheckpointRequest.fromDict, shape, schema, ids, seqs, digests, dependencies, messages,
    covered, events, needed, id, tupleOf_list, sound.events, bind, Except.bind, List.length_map,
    sound.aligned, digestsBack, Value.isList_list, Value.items_list, dependenciesBack, messagesBack,
    rangeBack, sound.dependencies, sound.range, sound.id, Value.eqPy_int, text, raiseIf,
    bne_self_eq_false, Bool.not_true, ne_eq, not_true_eq_false, decide_false, decide_true,
    Bool.or_self, Bool.false_eq_true, ↓reduceIte]
  exact remade

/-! ### Canonical records tell their fields apart -/

def sortedJson (host : CheckpointHost) (v : Value) : Json := (v.json host.journal.display).sorted

theorem str_told : Function.Injective fun s : String => sortedJson host (.str s) := by
  intro s t same
  exact String.toList_inj.mp (Json.str.inj same)

theorem int_told : Function.Injective fun n : Int => sortedJson host (.int n) := by
  intro m n same
  exact Json.int.inj same

variable {α : Type} {f : α → Value}

theorem list_told (told : Function.Injective fun x => sortedJson host (f x)) :
    Function.Injective fun xs : List α => sortedJson host (.list (xs.map f)) := by
  intro xs ys same
  simp only [sortedJson, Value.json, Json.sorted, Json.sortedItems_eq_map, itemsJson_eq_map,
    List.map_map, Json.arr.injEq] at same
  exact List.map_injective_iff.mpr told same

theorem optionalInt_told :
    Function.Injective fun n => sortedJson host (CheckpointProjectionDependency.optionalInt n) := by
  intro m n same
  cases m <;> cases n
  · rfl
  · cases same
  · cases same
  · exact congrArg some (int_told same)

theorem field_told {es fs : Dict} {x y : α}
    (told : Function.Injective fun x => sortedJson host (f x))
    (same : sortedJson host (.dict es) = sortedJson host (.dict fs))
    (distinct : (Assoc.keys es).Nodup) (distinct' : (Assoc.keys fs).Nodup) (name : String)
    (holds : Assoc.get name es = some (f x)) (holds' : Assoc.get name fs = some (f y)) : x = y :=
  told (member_eq_of_sorted distinct distinct' same holds holds')

theorem cursor_told : Function.Injective fun c : EventCursor => sortedJson host c.toDict := by
  intro c d same
  have names : ∀ c : EventCursor, (Assoc.keys c.toDict.entries).Nodup := by
    intro c
    show ["schema", "store_seq", "event_id"].Nodup
    decide
  have seq := field_told int_told same (names c) (names d) "store_seq" rfl rfl
  have id := field_told str_told same (names c) (names d) "event_id" rfl rfl
  cases c
  cases d
  cases seq
  cases id
  rfl

theorem dependency_told :
    Function.Injective fun d : CheckpointProjectionDependency => sortedJson host d.toDict := by
  intro c d same
  have names : ∀ d : CheckpointProjectionDependency, (Assoc.keys d.toDict.entries).Nodup := by
    intro d
    show CheckpointProjectionDependency.fields.Nodup
    decide
  have source := field_told cursor_told same (names c) (names d) "source_cursor" rfl rfl
  have receipt := field_told cursor_told same (names c) (names d) "receipt_cursor" rfl rfl
  have type := field_told str_told same (names c) (names d) "event_type" rfl rfl
  have attempt := field_told str_told same (names c) (names d) "attempt_id" rfl rfl
  have purpose := field_told str_told same (names c) (names d) "purpose" rfl rfl
  have status := field_told str_told same (names c) (names d) "status" rfl rfl
  have digest := field_told str_told same (names c) (names d) "event_sha256" rfl rfl
  have node := field_told str_told same (names c) (names d) "workflow_node_id" rfl rfl
  have step := field_told optionalInt_told same (names c) (names d) "workflow_step_index" rfl rfl
  have steps := field_told optionalInt_told same (names c) (names d) "workflow_step_count" rfl rfl
  have round := field_told optionalInt_told same (names c) (names d) "iteration" rfl rfl
  cases c
  cases d
  simp_all

theorem requestPayload_told {ids' : List String} {seqs' : List Int} {digests digests' : List String}
    {messages messages' : String} {dependencies' : List CheckpointProjectionDependency}
    (same : sortedJson host (requestPayload ids seqs digests messages dependencies) =
      sortedJson host (requestPayload ids' seqs' digests' messages' dependencies')) :
    ids = ids' ∧ seqs = seqs' ∧ digests = digests' ∧ messages = messages' ∧
      dependencies = dependencies' := by
  have names : ∀ ids seqs digests messages dependencies,
      (Assoc.keys (requestPayload ids seqs digests messages dependencies).entries).Nodup := by
    intros
    show ["schema", "source_event_ids", "source_event_store_seqs", "source_event_sha256s",
      "source_messages_sha256", "projection_dependencies"].Nodup
    decide
  have distinct := names ids seqs digests messages dependencies
  have distinct' := names ids' seqs' digests' messages' dependencies'
  refine ⟨?_, ?_, ?_, ?_, ?_⟩
  · exact field_told (list_told str_told) same distinct distinct' "source_event_ids" rfl rfl
  · exact field_told (list_told int_told) same distinct distinct' "source_event_store_seqs" rfl rfl
  · exact field_told (list_told str_told) same distinct distinct' "source_event_sha256s" rfl rfl
  · exact field_told str_told same distinct distinct' "source_messages_sha256" rfl rfl
  · exact field_told (list_told dependency_told) same distinct distinct' "projection_dependencies"
      rfl rfl

theorem requestPayload_plain (ids : List String) (seqs : List Int) (digests : List String)
    (messages : String) :
    ((requestPayload ids seqs digests messages dependencies).json host.journal.display).Plain := by
  have strings : ∀ ss : List String,
      ((Value.list (ss.map .str)).json host.journal.display).Plain := by
    intro ss
    rw [Value.json, itemsJson_eq_map]
    refine Json.plainItems_iff.mpr ?_
    simp only [List.map_map, List.mem_map]
    rintro _ ⟨s, -, rfl⟩
    exact trivial
  have numbers : ((Value.list (seqs.map .int)).json host.journal.display).Plain := by
    rw [Value.json, itemsJson_eq_map]
    refine Json.plainItems_iff.mpr ?_
    simp only [List.map_map, List.mem_map]
    rintro _ ⟨n, -, rfl⟩
    exact trivial
  have optional : ∀ n, ((CheckpointProjectionDependency.optionalInt n).json
      host.journal.display).Plain := by
    intro n
    cases n <;> exact trivial
  have receipts : ((Value.list (dependencies.map fun d => d.toDict)).json
      host.journal.display).Plain := by
    rw [Value.json, itemsJson_eq_map]
    refine Json.plainItems_iff.mpr ?_
    simp only [List.map_map, List.mem_map]
    rintro _ ⟨d, -, rfl⟩
    have index := optional d.workflowStepIndex
    have count := optional d.workflowStepCount
    have round := optional d.iteration
    exact ⟨trivial, ⟨trivial, trivial, trivial, trivial⟩, ⟨trivial, trivial, trivial, trivial⟩,
      trivial, trivial, trivial, trivial, trivial, index, count, round, trivial, trivial⟩
  exact ⟨trivial, strings ids, numbers, strings digests, trivial, receipts, trivial⟩

/-! ### The messages -/

variable {bs : Utf8.Bytes} {vs : List Value}

theorem framedMessages_ok (h : framedMessages host vs = .ok bs) :
    ∃ strings, vs.map (canonicalBytes host) = strings.map .ok ∧
      (∀ s ∈ strings, s.length < 2 ^ 64) ∧ bs = Frames.framed strings := by
  induction vs generalizing bs with
  | nil =>
    cases h
    exact ⟨[], rfl, by simp, rfl⟩
  | cons v vs ih =>
    obtain ⟨encoded, wrote, h⟩ := bind_ok h
    obtain ⟨head, framed, h⟩ := bind_ok h
    obtain ⟨rest, others, h⟩ := bind_ok h
    cases h
    obtain ⟨strings, same, fits, rfl⟩ := ih others
    unfold frame at framed
    split at framed
    · rename_i short
      cases framed
      refine ⟨encoded :: strings, by rw [List.map_cons, wrote, same, List.map_cons], ?_, rfl⟩
      intro s mem
      rcases List.mem_cons.mp mem with rfl | mem
      · exact short
      · exact fits s mem
    · cases framed

theorem framedMessages_told {ws : List Value} (h : framedMessages host vs = .ok bs)
    (h' : framedMessages host ws = .ok bs) :
    vs.map (canonicalBytes host) = ws.map (canonicalBytes host) := by
  obtain ⟨strings, wrote, fits, rfl⟩ := framedMessages_ok h
  obtain ⟨strings', wrote', fits', same⟩ := framedMessages_ok h'
  rw [wrote, wrote', Frames.framed_injective fits fits' same]

/-! ### What a request was built from -/

theorem eventId?_str (h : eventId? v = some s) : v = .str s := by
  unfold eventId? at h
  split at h
  · split at h
    · cases h
      rfl
    · cases h
  · cases h

theorem storeSeq?_int (h : storeSeq? v = some n) : v = .int n := by
  unfold storeSeq? at h
  split at h
  · split at h
    · cases h
      rfl
    · cases h
  · cases h

/-- The check reads the texts and the integers as they are given. -/
theorem validateSourceEvents_given (h : validateSourceEvents eventIds storeSeqs = .ok (ids, seqs)) :
    eventIds = ids.map .str ∧ storeSeqs = seqs.map .int := by
  obtain ⟨-, readIds, -, readSeqs, -⟩ := validateSourceEvents_ok h
  exact ⟨mapM_some_given (g := Value.str) (fun v s => eventId?_str) readIds,
    mapM_some_given (g := Value.int) (fun v n => storeSeq?_int) readSeqs⟩

theorem readDependency_made {given : GivenDependency host} {d : CheckpointProjectionDependency}
    (h : readDependency host given = .ok d) : d.Made host := by
  cases given with
  | inl made =>
    cases h
    exact made.2
  | inr v =>
    obtain ⟨-, h⟩ := raiseIf_bind_ok h
    obtain ⟨-, h⟩ := raiseIf_bind_ok h
    obtain ⟨source, sourceOk, h⟩ := bind_ok h
    obtain ⟨receipt, receiptOk, h⟩ := bind_ok h
    obtain ⟨sameSource, sameReceipt, -⟩ := CheckpointProjectionDependency.make_again h
    have made : ∀ {w : Value} {c : EventCursor}, EventCursor.fromDict host.journal w = .ok c →
        c.Made host.journal := by
      intro w c read
      obtain ⟨raw, -, read⟩ := bind_ok read
      exact ⟨_, _, read⟩
    subst sameSource sameReceipt
    exact ⟨made sourceOk, made receiptOk, _, _, _, _, _, _, _, _, _, h⟩

/-- What `build_checkpoint_request` returns, and what it was given. -/
structure BuiltFrom (host : CheckpointHost) (eventIds storeSeqs : List Value) (messages : List Dict)
    (dependencies : List (GivenDependency host)) (r : CheckpointRequest) : Prop where
  sound : r.Sound host
  ids : eventIds = r.sourceEventIds.map .str
  seqs : storeSeqs = r.sourceEventStoreSeqs.map .int
  read : dependencies.mapM (readDependency host) = .ok r.projectionDependencies
  digest : sequenceDigest host (messages.map .dict) = .ok r.sourceMessagesSha256

theorem builtFrom_of_build {messages : List Dict} {given : Option (List Value)}
    {dependencies : List (GivenDependency host)}
    (h : buildCheckpointRequest host eventIds storeSeqs messages given dependencies = .ok r) :
    BuiltFrom host eventIds storeSeqs messages dependencies r := by
  obtain ⟨⟨ids, seqs⟩, events, h⟩ := bind_ok h
  obtain ⟨-, h⟩ := raiseIf_bind_ok h
  obtain ⟨digests, digestsOk, h⟩ := bind_ok h
  obtain ⟨needed, readOk, h⟩ := bind_ok h
  obtain ⟨u, -, h⟩ := bind_ok h
  obtain ⟨digest, digestOk, h⟩ := bind_ok h
  obtain ⟨range, -, h⟩ := bind_ok h
  obtain ⟨requestId, -, h⟩ := bind_ok h
  obtain ⟨sound, sameNeeded⟩ := CheckpointRequest.make_sound h
  obtain ⟨again, stripped⟩ := validateSourceEvents_again events
  have kept : (ids.map fun id => Value.str (strip id)) = ids.map .str := by
    refine List.map_congr_left ?_
    intro id mem
    rw [← stripped id mem]
  rw [kept] at h
  obtain ⟨⟨ids', seqs'⟩, events', h⟩ := bind_ok h
  rw [again] at events'
  cases events'
  obtain ⟨-, h⟩ := raiseIf_bind_ok h
  obtain ⟨digests', -, h⟩ := bind_ok h
  obtain ⟨u', -, h⟩ := bind_ok h
  obtain ⟨digest', digestAgain, h⟩ := bind_ok h
  obtain ⟨range', -, h⟩ := bind_ok h
  obtain ⟨-, h⟩ := raiseIf_bind_ok h
  obtain ⟨requestId', -, h⟩ := bind_ok h
  obtain ⟨-, h⟩ := raiseIf_bind_ok h
  cases h
  obtain ⟨sameText, -⟩ := digestField_ok digestAgain
  cases sameText
  obtain ⟨givenIds, givenSeqs⟩ := validateSourceEvents_given events
  exact ⟨sound, givenIds, givenSeqs, readOk, digestOk⟩

/-! ### The id of a request -/

/-- What the id of a request is the digest of. -/
def CheckpointRequest.payload (r : CheckpointRequest) : Value :=
  requestPayload r.sourceEventIds r.sourceEventStoreSeqs r.sourceEventSha256s r.sourceMessagesSha256
    r.projectionDependencies

def CheckpointRequest.hashed (host : CheckpointHost) (r : CheckpointRequest)
    (messages : List Dict) : List Utf8.Bytes :=
  (framedMessages host (messages.map .dict)).toOption.toList ++
    (canonicalBytes host r.payload).toOption.toList

theorem append_left_cancel_str {p t : String} (same : p ++ s = p ++ t) : s = t := by
  have chars := congrArg String.toList same
  rw [String.toList_append, String.toList_append] at chars
  exact String.toList_inj.mp (List.append_cancel_left chars)

/-- A built request reads back from its record, and, as long as the hashed byte strings do not
collide, a second request has its id only if it was built from the same event ids, store sequences,
event digests and dependencies and from messages with the same canonical bytes, one by one. -/
theorem checkpoint_request_identifies (normalizes : Normalizes host.journal.nfc)
    {eventIds storeSeqs eventIds' storeSeqs' : List Value} {messages messages' : List Dict}
    {given given' : Option (List Value)} {dependencies dependencies' : List (GivenDependency host)}
    {r r' : CheckpointRequest}
    (built : buildCheckpointRequest host eventIds storeSeqs messages given dependencies = .ok r)
    (built' : buildCheckpointRequest host eventIds' storeSeqs' messages' given' dependencies' =
      .ok r') : CheckpointRequest.fromDict host r.toDict = .ok r ∧
    (CollisionFree host.sha256 (r.hashed host messages ++ r'.hashed host messages') →
      r.requestId = r'.requestId →
      eventIds = eventIds' ∧ storeSeqs = storeSeqs' ∧
      r.sourceEventSha256s = r'.sourceEventSha256s ∧
      dependencies.mapM (readDependency host) = dependencies'.mapM (readDependency host) ∧
      messages.map (fun m => canonicalBytes host (.dict m)) =
        messages'.map fun m => canonicalBytes host (.dict m)) := by
  have source := builtFrom_of_build built
  have source' := builtFrom_of_build built'
  constructor
  · refine CheckpointRequest.fromDict_toDict normalizes source.sound ?_
    intro d mem
    obtain ⟨x, -, read⟩ := mem_of_mapM source.read d mem
    exact readDependency_made read
  intro free sameId
  obtain ⟨bytes, wrote, id⟩ := bind_ok source.sound.id
  obtain ⟨bytes', wrote', id'⟩ := bind_ok source'.sound.id
  obtain ⟨frames, framed, digest⟩ := map_ok source.digest
  obtain ⟨frames', framed', digest'⟩ := map_ok source'.digest
  have hashed : r.hashed host messages = [frames, bytes] := by
    rw [CheckpointRequest.hashed, CheckpointRequest.payload, framed, wrote]
    rfl
  have hashed' : r'.hashed host messages' = [frames', bytes'] := by
    rw [CheckpointRequest.hashed, CheckpointRequest.payload, framed', wrote']
    rfl
  rw [hashed, hashed'] at free
  have payloads : bytes = bytes' := by
    refine free bytes (by simp) bytes' (by simp) ?_
    have text := Except.ok.inj id
    have text' := Except.ok.inj id'
    rw [← text, ← text'] at sameId
    exact append_left_cancel_str sameId
  subst payloads
  have sorted := sorted_eq_of_canonicalJson (requestPayload_plain _ _ _ _)
    (requestPayload_plain _ _ _ _) wrote wrote'
  obtain ⟨ids, seqs, digests, sameMessages, needed⟩ := requestPayload_told sorted
  have sameFrames : frames = frames' := by
    refine free frames (by simp) frames' (by simp) ?_
    rw [digest, digest', sameMessages]
  subst sameFrames
  have each := framedMessages_told framed framed'
  rw [List.map_map, List.map_map] at each
  refine ⟨?_, ?_, digests, ?_, each⟩
  · rw [source.ids, source'.ids, ids]
  · rw [source.seqs, source'.seqs, seqs]
  · rw [source.read, source'.read, needed]

/-! ### Two messages in two orders -/

def eventDigest1 : String := "c35c89024471b8caca09f549a4accb5023e989bf6128f85189d422384a2bff4b"
def eventDigest2 : String := "5e7a3a5d7e58f2d8c9511998d3151932107244f5ed9594f9450fa54276d49b7c"

def question : Dict := [("role", .str "user"), ("content", .str "a")]
def answer : Dict := [("role", .str "assistant"), ("content", .str "b")]

/-- The frames of two messages. -/
def framesOf (first second : Dict) : Utf8.Bytes :=
  Frames.framed ([first, second].map fun m =>
    Utf8.encode ((Value.dict m).json fun _ => "").canonical)

def payloadOf (messagesSha256 : String) : Utf8.Bytes :=
  Utf8.encode ((requestPayload ["e1", "e2"] [1, 2] [eventDigest1, eventDigest2] messagesSha256 []).json
    fun _ => "").canonical

def messagesDigest : String := "59bbd36fd9de70992958346e7e8a75982d5a0f9cd40bae2b1346f6d453f22a1c"
def swappedDigest : String := "631e99fafa4c0b27618155d8b42d188d5e25b2d9d82422336e930195ef8c755d"

/-- The SHA-256 digests of the bytes that the two requests hash. -/
def tableHost : CheckpointHost where
  journal := plainHost
  sha256 bs :=
    if bs = framesOf question answer then messagesDigest
    else if bs = framesOf answer question then swappedDigest
    else if bs = payloadOf messagesDigest then
      "a4e871dababf4131bee7f09ea270b755116362b472f22a9ac446fef5e2e90236"
    else if bs = payloadOf swappedDigest then
      "3b6dc86a9daf09ab75aa374ac61d19997633b5f697febb2b7ca7214dd1a87aa4"
    else ""

def requestOf (id messagesSha256 : String) : CheckpointRequest where
  requestId := id
  sourceRange := ⟨⟨1, "e1"⟩, ⟨2, "e2"⟩⟩
  sourceEventIds := ["e1", "e2"]
  sourceEventStoreSeqs := [1, 2]
  sourceEventSha256s := [eventDigest1, eventDigest2]
  sourceMessagesSha256 := messagesSha256
  projectionDependencies := []

def inOrder : CheckpointRequest :=
  requestOf "checkpoint-a4e871dababf4131bee7f09ea270b755116362b472f22a9ac446fef5e2e90236"
    messagesDigest

def swapped : CheckpointRequest :=
  requestOf "checkpoint-3b6dc86a9daf09ab75aa374ac61d19997633b5f697febb2b7ca7214dd1a87aa4"
    swappedDigest

def buildOf (messages : List Dict) : Except PyError CheckpointRequest :=
  buildCheckpointRequest tableHost [.str "e1", .str "e2"] [.int 1, .int 2] messages
    (some [.str eventDigest1, .str eventDigest2]) []

theorem inOrder_built : buildOf [question, answer] = .ok inOrder := by
  decide +kernel

theorem swapped_built : buildOf [answer, question] = .ok swapped := by
  decide +kernel

theorem swapped_collisionFree : CollisionFree tableHost.sha256
    (inOrder.hashed tableHost [question, answer] ++ swapped.hashed tableHost [answer, question]) := by
  unfold CollisionFree
  decide +kernel

/-- Swapping the two messages changes the id. -/
theorem swapped_messages_change_the_id :
    CheckpointRequest.fromDict tableHost inOrder.toDict = .ok inOrder ∧
      inOrder.requestId ≠ swapped.requestId := by
  obtain ⟨back, told⟩ :=
    checkpoint_request_identifies normalizes_plainHost inOrder_built swapped_built
  refine ⟨back, fun same => ?_⟩
  have messages := (told swapped_collisionFree same).2.2.2.2
  revert messages
  decide +kernel

end Unchain.Context
