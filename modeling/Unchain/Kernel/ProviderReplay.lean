import Unchain.Python.Builtins

/-!
Provider replay frames (`kernel/provider_replay.py`).

A frame records, for one provider format, the native items of the conversation
and the digests of the tool schemas they were produced under. It lives in the
`provider_replay` bucket of the run's component state; a model turn brings a new
frame, either replacing the stored one or appending a response to it.

* `validateProviderReplayFrame_ok` — validation accepts or rejects a frame and
  never changes it.
* `mergeReplace_binding`, `mergeAppend_binding` — either merge mode keeps every
  recorded schema digest and refuses an incoming frame that contradicts one.
* `mergeAppend_items` — appending extends the stored items and ends with the
  response items.
* `bound_run` — the recorded bindings along whole runs of merges.
-/

namespace Unchain.Kernel

open Python Lib

/-! ### Buckets of the component state -/

/-- `component_bucket(name)`: a bucket that is not a dictionary counts as empty. -/
def bucketOf (componentState : Dict) (name : String) : Dict :=
  ((Assoc.get name componentState).getD .none).entries

/-- Write a bucket back after changing it. -/
def putBucket (componentState : Dict) (name : String) (bucket : Dict) : Dict :=
  Assoc.set name (.dict bucket) componentState

/-! ### Validation -/

def frameError (message : String) : PyError := .raised "ProviderReplayFrameError" message

mutual

/-- What `json.dumps(..., allow_nan=False)` can write. -/
def strictJson : Value → Bool
  | .none => true
  | .bool _ => true
  | .int _ => true
  | .float x => x.isFinite
  | .str _ => true
  | .list xs => strictItems xs
  | .dict es => strictEntries es
  | .obj _ _ => false

def strictItems : List Value → Bool
  | [] => true
  | x :: xs => strictJson x && strictItems xs

def strictEntries : List (String × Value) → Bool
  | [] => true
  | (_, x) :: es => strictJson x && strictEntries es

end

/-- `strict_json_copy`: reading back what was written gives the same value. -/
def strictJsonCopy (value : Value) : Except PyError Value :=
  if strictJson value then .ok value
  else .error (frameError "provider replay data must be strict JSON")

def isNonEmptyStr : Value → Bool
  | .str s => s != ""
  | _ => false

def isBool : Value → Bool
  | .bool _ => true
  | _ => false

def isSchemaManifest : Value → Bool
  | .dict es => es.all fun entry => entry.1 != "" && isNonEmptyStr entry.2
  | _ => false

def validateProviderReplayFrame (raw : Value) : Except PyError Value :=
  if !raw.isDict then .error (frameError "provider replay frame must be a dict")
  else match strictJsonCopy raw with
    | .error e => .error e
    | .ok frame =>
      if !isNonEmptyStr (frame.get "format") then
        .error (frameError "provider replay frame requires format")
      else if !isBool (frame.get "complete") then
        .error (frameError "provider replay frame.complete must be a bool")
      else if !(frame.get "items").isList then
        .error (frameError "provider replay frame.items must be a list")
      else if frame.hasKey "tool_schema_digest" && !isNonEmptyStr (frame.get "tool_schema_digest")
        then .error (frameError
          "provider replay frame.tool_schema_digest must be a non-empty string")
      else if frame.hasKey "tool_schema_manifest"
          && !isSchemaManifest (frame.get "tool_schema_manifest") then
        .error (frameError
          "provider replay frame.tool_schema_manifest must map tool names to digests")
      else .ok frame

variable {frame : Value}

/-- Validation returns its argument, and then the argument is a dictionary with a
non-empty format and an items list. -/
theorem validateProviderReplayFrame_ok {raw : Value}
    (h : validateProviderReplayFrame raw = .ok frame) :
    frame = raw ∧ raw.isDict = true ∧ isNonEmptyStr (raw.get "format") = true ∧
      (raw.get "items").isList = true := by
  unfold validateProviderReplayFrame at h
  split at h
  · cases h
  · rename_i dict
    unfold strictJsonCopy at h
    by_cases strict : strictJson raw = true
    · simp only [if_pos strict] at h
      repeat' split at h
      all_goals cases h
      simp_all
    · simp [if_neg strict] at h

/-! ### The stored frame -/

def storedFrame (componentState : Value) : Option Value :=
  let frame := (componentState.get "provider_replay").get "frame"
  if frame.isDict then some frame else none

def currentProviderReplayFrame (componentState : Value) : Except PyError (Option Value) :=
  match storedFrame componentState with
  | none => .ok none
  | some raw => (validateProviderReplayFrame raw).map some

variable (componentState : Dict)

def setProviderReplayFrame (frame : Value) : Except PyError Dict :=
  (validateProviderReplayFrame frame).map fun validated =>
    putBucket componentState "provider_replay"
      (Assoc.set "frame" validated (bucketOf componentState "provider_replay"))

/-- `append_provider_replay_items`: without a stored frame there is nothing to extend. -/
def appendProviderReplayItems (items : List Value) : Except PyError Dict :=
  match currentProviderReplayFrame (.dict componentState) with
  | .error e => .error e
  | .ok none => .ok componentState
  | .ok (some frame) =>
    match strictJsonCopy (.list items) with
    | .error e => .error e
    | .ok copied =>
      setProviderReplayFrame componentState
        (frame.setKey "items" (.list ((frame.get "items").items ++ copied.items)))

theorem currentProviderReplayFrame_ok {cs : Value} {frame : Option Value}
    (h : currentProviderReplayFrame cs = .ok frame) : frame = storedFrame cs := by
  unfold currentProviderReplayFrame at h
  cases stored : storedFrame cs with
  | none =>
    rw [stored] at h
    cases h
    rfl
  | some raw =>
    rw [stored] at h
    cases valid : validateProviderReplayFrame raw with
    | error e => simp [valid, Except.map] at h
    | ok validated =>
      simp only [valid, Except.map, Except.ok.injEq] at h
      rw [← h, (validateProviderReplayFrame_ok valid).1]

theorem currentProviderReplayFrame_some {cs : Value}
    (h : currentProviderReplayFrame cs = .ok (some frame)) :
    storedFrame cs = some frame ∧ frame.isDict = true ∧ (frame.get "items").isList = true := by
  have stored := currentProviderReplayFrame_ok h
  unfold currentProviderReplayFrame at h
  rw [← stored] at h
  cases valid : validateProviderReplayFrame frame with
  | error e => simp [valid, Except.map] at h
  | ok validated =>
    obtain ⟨-, dict, -, items⟩ := validateProviderReplayFrame_ok valid
    exact ⟨stored.symm, dict, items⟩

variable {cs' : Dict}

theorem storedFrame_set (h : setProviderReplayFrame cs frame = .ok cs') :
    storedFrame (.dict cs') = some frame := by
  unfold setProviderReplayFrame at h
  cases valid : validateProviderReplayFrame frame with
  | error e => simp [valid, Except.map] at h
  | ok validated =>
    obtain ⟨rfl, dict, -⟩ := validateProviderReplayFrame_ok valid
    simp only [valid, Except.map, Except.ok.injEq] at h
    subst h
    simp [storedFrame, Value.get, putBucket, dict]

/-! ### Merging a model turn -/

/-- Some tool name is recorded with a digest the incoming manifest denies. -/
def manifestsIncompatible (existing incoming : Value) : Bool :=
  existing.entries.any fun entry =>
    incoming.hasKey entry.1 && !(incoming.get entry.1).eqPy entry.2

/-- `{**existing, **incoming}`, where an incoming value that is not a dictionary
adds nothing. -/
def mergeManifests (existing incoming : Value) : Value :=
  .dict (Assoc.update existing.entries incoming.entries)

/-- The `replace` mode. -/
def mergeReplace (existing : Option Value) (incoming : Dict) : Except PyError Value :=
  let clean : Value := .dict (incoming.filter fun entry =>
    !(["mode", "response_items"].contains entry.1))
  match existing with
  | none => validateProviderReplayFrame clean
  | some existing =>
    let existingManifest := existing.get "tool_schema_manifest"
    let incomingManifest := clean.get "tool_schema_manifest"
    if (existing.get "format").eqPy (clean.get "format") && existingManifest.isDict then
      if incomingManifest.isDict && manifestsIncompatible existingManifest incomingManifest then
        .error (frameError "provider replay tool schema changed while replacing context")
      else
        validateProviderReplayFrame
          (clean.setKey "tool_schema_manifest" (mergeManifests existingManifest incomingManifest))
    else validateProviderReplayFrame clean

/-- `xs[-len(ys):] == ys` for a `ys` no longer than `xs`. -/
def endsWith (xs ys : List Value) : Bool :=
  decide (ys.length ≤ xs.length) && Value.eqItems (xs.drop (xs.length - ys.length)) ys

def requestItems (incomingItems responseItems : List Value) : Except PyError (List Value) :=
  if responseItems.isEmpty then .ok incomingItems
  else if endsWith incomingItems responseItems then
    .ok (incomingItems.take (incomingItems.length - responseItems.length))
  else .error (frameError "append_response provider replay items must end with response_items")

/-- The items after appending: the request is added unless it is already the tail. -/
def appendedItems (existing request response : List Value) : List Value :=
  (if !request.isEmpty && !endsWith existing request then existing ++ request else existing)
    ++ response

/-- The `append_response` mode onto a stored frame of the same format. -/
def appendOnto (display : Display) (existing : Value) (incoming : Value)
    (request response : List Value) : Except PyError Value :=
  let existingDigest := existing.get "tool_schema_digest"
  let incomingDigest := incoming.get "tool_schema_digest"
  let existingManifest := existing.get "tool_schema_manifest"
  let incomingManifest := incoming.get "tool_schema_manifest"
  let bothManifests := existingManifest.isDict && incomingManifest.isDict
  if bothManifests && manifestsIncompatible existingManifest incomingManifest then
    .error (frameError "provider replay tool schema changed during remote continuation")
  else if !bothManifests && existingDigest.isStr && incomingDigest.isStr
      && !existingDigest.eqPy incomingDigest then
    .error (frameError "provider replay tool schema changed during remote continuation")
  else
    let merged := existing.setKey "items"
      (.list (appendedItems (existing.get "items").items request response))
    let merged := merged.setKey "source"
      (.str ((((incoming.get "source").or (merged.get "source")).or (.str "")).toStr display))
    let merged :=
      if bothManifests then
        merged.setKey "tool_schema_manifest" (mergeManifests existingManifest incomingManifest)
      else if incomingManifest.isDict then merged.setKey "tool_schema_manifest" incomingManifest
      else merged
    let merged :=
      if incomingDigest.isStr then merged.setKey "tool_schema_digest" incomingDigest else merged
    validateProviderReplayFrame merged

def fallbackFrame (display : Display) (incoming : Value) (format : String) (items : Value) :
    Value :=
  let frame : Value := .dict
    [("format", .str format),
      ("complete", .bool false),
      ("items", items),
      ("source", .str (((incoming.get "source").or (.str "provider_response_fragment")).toStr
        display)),
      ("incomplete_reason", .str
        "provider response used remote continuation without a complete local replay prefix")]
  ["tool_schema_digest", "tool_schema_manifest"].foldl
    (fun frame key => if incoming.hasKey key then frame.setKey key (incoming.get key) else frame)
    frame

/-- The `append_response` mode. The stored frame is read only after the incoming
items have been checked. -/
def mergeAppend (display : Display) (existing : Except PyError (Option Value))
    (incoming : Value) : Except PyError Value := do
  let responseItems ← strictJsonCopy (incoming.get "response_items")
  if !responseItems.isList then
    throw (frameError "append_response provider replay frame requires response_items")
  let incomingItems ← strictJsonCopy (incoming.get "items")
  if !incomingItems.isList then
    throw (frameError "append_response provider replay frame requires items")
  let request ← requestItems incomingItems.items responseItems.items
  let format := ((incoming.get "format").or (.str "")).toStr display
  match ← existing with
  | some frame =>
    if (frame.get "format").eqPy (.str format) then
      appendOnto display frame incoming request responseItems.items
    else
      validateProviderReplayFrame (fallbackFrame display incoming format
        ((incoming.get "items").or responseItems))
  | none =>
    validateProviderReplayFrame (fallbackFrame display incoming format
      ((incoming.get "items").or responseItems))

def replayMode (display : Display) (incoming : Value) : String :=
  ((incoming.get "mode").or (.str "replace")).toStr display

def mergeModelTurnReplayFrame (display : Display) (componentState incoming : Value) :
    Except PyError (Option Value) :=
  match incoming with
  | .none => currentProviderReplayFrame componentState
  | .dict entries =>
    if replayMode display incoming = "replace" then do
      let existing ← currentProviderReplayFrame componentState
      return some (← mergeReplace existing entries)
    else if replayMode display incoming = "append_response" then
      (mergeAppend display (currentProviderReplayFrame componentState) incoming).map some
    else .error (frameError
      ("unsupported provider replay mode: '" ++ replayMode display incoming ++ "'"))
  | _ => .error (frameError "model turn provider_replay_frame must be a dict")

def mergeAndStore (display : Display) (componentState : Dict) (incoming : Value) :
    Except PyError Dict := do
  match ← mergeModelTurnReplayFrame display (.dict componentState) incoming with
  | none => return componentState
  | some frame => setProviderReplayFrame componentState frame

def afterTurn (display : Display) (componentState : Dict) (incoming : Value) : Dict :=
  match mergeAndStore display componentState incoming with
  | .ok cs => cs
  | .error _ => componentState

def runTurns (display : Display) (componentState : Dict) (turns : List Value) : Dict :=
  turns.foldl (afterTurn display) componentState

variable {display : Display}

theorem runTurns_append (cs : Dict) (before after : List Value) :
    runTurns display cs (before ++ after) = runTurns display (runTurns display cs before) after := by
  simp [runTurns, List.foldl_append]

/-! ### Recorded bindings -/

def recorded (manifest : Value) (name : String) : Option Value := Assoc.get name manifest.entries

/-- The stored frame records `digest` for the tool `name`. -/
def Bound (name digest : String) : Prop :=
  ∃ frame, storedFrame (.dict componentState) = some frame ∧
    recorded (frame.get "tool_schema_manifest") name = some (.str digest)

/-- The incoming frame records another digest for a tool the stored frame binds. -/
def Contradicts (incoming : Value) : Prop :=
  ∃ name digest other, Bound componentState name digest ∧
    (incoming.get "tool_schema_manifest").isDict = true ∧
    recorded (incoming.get "tool_schema_manifest") name = some other ∧ other ≠ .str digest

variable {incoming : Value} {existing : Value}

theorem manifestsIncompatible_iff {digest : String}
    (h : recorded existing name = some (.str digest)) {other : Value}
    (hin : recorded incoming name = some other) (ne : other ≠ .str digest) :
    manifestsIncompatible existing incoming = true := by
  refine List.any_eq_true.mpr ⟨_, Assoc.mem_of_get h, ?_⟩
  have get : incoming.get name = other := by
    unfold recorded at hin
    simp [Value.get, hin]
  have has : incoming.hasKey name = true := by
    unfold recorded at hin
    simp [Value.hasKey, Assoc.has, hin]
  have differ : other.eqPy (.str digest) = false :=
    Bool.eq_false_iff.mpr fun same => ne (Value.eqPy_str_iff.mp same)
  simp [has, get, differ]

theorem recorded_mergeManifests {digest : String} (h : recorded existing name = some (.str digest))
    (compatible : manifestsIncompatible existing incoming = false) :
    recorded (mergeManifests existing incoming) name = some (.str digest) := by
  have split : recorded (mergeManifests existing incoming) name =
      (recorded incoming name).or (recorded existing name) := Assoc.get_update _ _ _
  rw [split]
  cases hin : recorded incoming name with
  | none => exact h
  | some other =>
    by_cases ne : other = .str digest
    · simp [ne]
    · rw [manifestsIncompatible_iff h hin ne] at compatible
      cases compatible

theorem isDict_of_recorded {manifest : Value} {digest : Value}
    (h : recorded manifest name = some digest) : manifest.isDict = true := by
  cases manifest <;> simp_all [recorded, Value.entries, Value.isDict]

theorem get_clean (entries : Dict) (key : String) (h : key ≠ "mode" ∧ key ≠ "response_items") :
    (Value.dict (entries.filter fun entry => !(["mode", "response_items"].contains entry.1))).get key
      = (Value.dict entries).get key := by
  simp only [Value.get, Value.entries_dict]
  rw [Assoc.get_filter_of_pos (fun k => !(["mode", "response_items"].contains k))]
  simpa using h

variable {entries : Dict} {format : String} {merged : Value}

/-- `replace` keeps what the stored frame binds, and refuses to contradict it. -/
theorem mergeReplace_binding {digest : String}
    (h : mergeReplace (some existing) entries = .ok merged)
    (stored : existing.get "format" = .str format)
    (incoming : (Value.dict entries).get "format" = .str format)
    (bound : recorded (existing.get "tool_schema_manifest") name = some (.str digest)) :
    recorded (merged.get "tool_schema_manifest") name = some (.str digest) ∧
      ∀ other, recorded ((Value.dict entries).get "tool_schema_manifest") name = some other →
        other = .str digest := by
  unfold mergeReplace at h
  simp only [get_clean entries "format" (by decide),
    get_clean entries "tool_schema_manifest" (by decide), stored, incoming,
    isDict_of_recorded bound] at h
  rw [if_pos (by simp [Value.eqPy_str_iff])] at h
  split at h
  · cases h
  · rename_i agree
    obtain ⟨rfl, -⟩ := validateProviderReplayFrame_ok h
    have compatible : manifestsIncompatible (existing.get "tool_schema_manifest")
        ((Value.dict entries).get "tool_schema_manifest") = false := by
      cases dict : ((Value.dict entries).get "tool_schema_manifest").isDict with
      | true => simpa [dict] using agree
      | false =>
        have none : ((Value.dict entries).get "tool_schema_manifest").entries = [] := by
          revert dict
          cases (Value.dict entries).get "tool_schema_manifest" <;> simp [Value.isDict, Value.entries]
        simp [manifestsIncompatible, Value.hasKey, Assoc.has, none]
    refine ⟨?_, fun other hin => ?_⟩
    · rw [Value.get_setKey (Value.isDict_dict _), if_pos rfl]
      exact recorded_mergeManifests bound compatible
    · by_contra ne
      rw [manifestsIncompatible_iff bound hin ne] at compatible
      cases compatible

variable {display : Display}

/-- Everything a successful append went through: the incoming items were checked
against the response, and either a stored frame of the same format was extended
or the response was kept alone. -/
theorem mergeAppend_ok {existing : Except PyError (Option Value)}
    (h : mergeAppend display existing incoming = .ok merged) :
    ∃ response items request, incoming.get "response_items" = .list response ∧
      incoming.get "items" = .list items ∧ requestItems items response = .ok request ∧
      ((∃ frame, existing = .ok (some frame) ∧
          (frame.get "format").eqPy (.str (((incoming.get "format").or (.str "")).toStr display))
            = true ∧
          appendOnto display frame incoming request response = .ok merged) ∨
        ((existing = .ok none ∨ ∃ frame, existing = .ok (some frame) ∧
            (frame.get "format").eqPy
              (.str (((incoming.get "format").or (.str "")).toStr display)) = false) ∧
          validateProviderReplayFrame (fallbackFrame display incoming
            (((incoming.get "format").or (.str "")).toStr display)
            ((Value.list items).or (.list response))) = .ok merged)) := by
  unfold mergeAppend at h
  unfold strictJsonCopy at h
  by_cases strictResponse : strictJson (incoming.get "response_items") = true
  swap
  · simp [if_neg strictResponse, bind, Except.bind] at h
  cases hresponse : incoming.get "response_items" with
  | list response =>
    by_cases strictRequest : strictJson (incoming.get "items") = true
    swap
    · simp [hresponse ▸ strictResponse, hresponse, if_neg strictRequest, bind, Except.bind,
        Value.isList] at h
    cases hitems : incoming.get "items" with
    | list items =>
      rw [hresponse] at strictResponse
      rw [hitems] at strictRequest
      simp only [hresponse, hitems, if_pos strictResponse, if_pos strictRequest, bind,
        Except.bind, Value.isList_list, Bool.not_true, Bool.false_eq_true, if_false,
        Value.items_list] at h
      cases hrequest : requestItems items response with
      | error e => simp [hrequest] at h
      | ok request =>
        refine ⟨response, items, request, rfl, rfl, hrequest, ?_⟩
        simp only [hrequest] at h
        cases existing with
        | error e => simp at h
        | ok stored =>
          cases stored with
          | none => exact .inr ⟨.inl rfl, h⟩
          | some frame =>
            simp only at h
            split at h
            · rename_i same
              exact .inl ⟨frame, rfl, same, h⟩
            · rename_i differ
              exact .inr ⟨.inr ⟨frame, rfl, Bool.eq_false_iff.mpr differ⟩, h⟩
    | _ =>
      rw [hresponse] at strictResponse
      rw [hitems] at strictRequest
      simp [hresponse, hitems, if_pos strictResponse, if_pos strictRequest, bind,
        Except.bind, Value.isList, throw, throwThe, MonadExceptOf.throw] at h
  | _ =>
    rw [hresponse] at strictResponse
    simp [hresponse, if_pos strictResponse, bind, Except.bind, Value.isList, throw, throwThe,
      MonadExceptOf.throw] at h

variable {request response : List Value}

/-- An extended frame keeps its format, its items grow by `appendedItems`, and it
keeps what the stored frame binds while refusing to contradict it. -/
theorem appendOnto_ok (dict : existing.isDict = true)
    (h : appendOnto display existing incoming request response = .ok merged) :
    merged.get "format" = existing.get "format" ∧
      merged.get "items" = .list (appendedItems (existing.get "items").items request response) ∧
      ∀ name digest,
        recorded (existing.get "tool_schema_manifest") name = some (.str digest) →
        recorded (merged.get "tool_schema_manifest") name = some (.str digest) ∧
          ((incoming.get "tool_schema_manifest").isDict = true →
            ∀ other, recorded (incoming.get "tool_schema_manifest") name = some other →
              other = .str digest) := by
  unfold appendOnto at h
  simp only at h
  split at h
  · cases h
  rename_i agree
  split at h
  · cases h
  obtain ⟨rfl, -⟩ := validateProviderReplayFrame_ok h
  refine ⟨?_, ?_, fun name digest bound => ?_⟩
  · repeat' split
    all_goals simp [Value.get_setKey, dict]
  · repeat' split
    all_goals simp [Value.get_setKey, dict]
  · have existingDict := isDict_of_recorded bound
    cases incomingDict : (incoming.get "tool_schema_manifest").isDict with
    | true =>
      have compatible : manifestsIncompatible (existing.get "tool_schema_manifest")
          (incoming.get "tool_schema_manifest") = false := by
        simpa [existingDict, incomingDict] using agree
      refine ⟨?_, fun _ other hin => ?_⟩
      · have merges := recorded_mergeManifests bound compatible
        split <;> simpa [Value.get_setKey, dict, existingDict] using merges
      · by_contra ne
        rw [manifestsIncompatible_iff bound hin ne] at compatible
        cases compatible
    | false =>
      refine ⟨?_, by simp⟩
      split <;> simpa [Value.get_setKey, dict] using bound

theorem prefix_appendedItems (existing request response : List Value) :
    existing <+: appendedItems existing request response := by
  unfold appendedItems
  split <;> simp [List.append_assoc]

theorem suffix_appendedItems (existing request response : List Value) :
    response <:+ appendedItems existing request response :=
  List.suffix_append _ _

theorem get_foldl_setKey {keys : List String} {key : String} (h : key ∉ keys)
    (dict : frame.isDict = true) :
    (keys.foldl (fun frame k => if incoming.hasKey k then frame.setKey k (incoming.get k) else frame)
      frame).get key = frame.get key := by
  induction keys generalizing frame with
  | nil => rfl
  | cons k keys ih =>
    simp only [List.mem_cons, not_or] at h
    rw [List.foldl_cons]
    split
    · rw [ih h.2 (by simpa using dict), Value.get_setKey dict, if_neg h.1]
    · exact ih h.2 dict

theorem fallbackFrame_format (incoming items : Value) (format : String) :
    (fallbackFrame display incoming format items).get "format" = .str format := by
  rw [fallbackFrame, get_foldl_setKey (by decide) rfl]
  rfl

theorem fallbackFrame_items (incoming items : Value) (format : String) :
    (fallbackFrame display incoming format items).get "items" = items := by
  rw [fallbackFrame, get_foldl_setKey (by decide) rfl]
  rfl

theorem mergeReplace_format {existing : Option Value}
    (h : mergeReplace existing entries = .ok merged) :
    merged.get "format" = (Value.dict entries).get "format" := by
  unfold mergeReplace at h
  have clean := get_clean entries "format" (by decide)
  cases existing with
  | none =>
    obtain ⟨rfl, -⟩ := validateProviderReplayFrame_ok h
    exact clean
  | some existing =>
    simp only at h
    split at h
    · split at h
      · cases h
      · obtain ⟨rfl, -⟩ := validateProviderReplayFrame_ok h
        rw [Value.get_setKey (Value.isDict_dict _), if_neg (by decide)]
        exact clean
    · obtain ⟨rfl, -⟩ := validateProviderReplayFrame_ok h
      exact clean

def storedItems : List Value :=
  match storedFrame (.dict componentState) with
  | none => []
  | some frame => (frame.get "items").items

def EndsIn (items response : List Value) : Prop :=
  ∃ front tail, items = front ++ tail ∧ (tail = response ∨ Value.eqItems tail response = true)

theorem endsIn_of_requestItems {items : List Value} (h : requestItems items response = .ok request)
    :
    EndsIn ((Value.list items).or (.list response)).items response := by
  unfold requestItems at h
  cases items with
  | nil => exact ⟨[], response, by simp [Value.or, Value.truthy], .inl rfl⟩
  | cons x xs =>
    have kept : ((Value.list (x :: xs)).or (.list response)).items = x :: xs := by
      simp [Value.or, Value.truthy]
    rw [kept]
    split at h
    · rename_i empty
      exact ⟨x :: xs, [], by simp, .inl (List.isEmpty_iff.mp empty).symm⟩
    · split at h
      · rename_i ends
        simp only [endsWith, Bool.and_eq_true] at ends
        exact ⟨_, _, (List.take_append_drop _ _).symm, .inr ends.2⟩
      · cases h

/-! ### Runs of turns in one format -/

def InFormat (format : String) (componentState : Dict) : Prop :=
  ∀ frame, storedFrame (.dict componentState) = some frame → frame.get "format" = .str format

/-- A turn brings no frame or a frame of this format. -/
def TurnOf (format : String) (incoming : Value) : Prop :=
  incoming = .none ∨ (incoming.isDict = true ∧ incoming.get "format" = .str format)

structure TurnAccepted (format : String) (display : Display) (before after : Dict)
    (incoming : Value) : Prop where
  inFormat : InFormat format after
  keeps : ∀ name digest, Bound before name digest → Bound after name digest
  agrees : ¬ Contradicts before incoming
  appends : replayMode display incoming = "append_response" →
    storedItems before <+: storedItems after ∧
      EndsIn (storedItems after) (incoming.get "response_items").items

theorem toStr_format (format : String) :
    ((Value.str format).or (.str "")).toStr display = format := by
  by_cases empty : format = "" <;> simp [Value.or, Value.truthy, empty]

section

variable (inFormat : InFormat format cs)

include inFormat

theorem turnAccepted_none (h : mergeAndStore display cs .none = .ok cs') :
    TurnAccepted format display cs cs' .none := by
  have same : storedFrame (.dict cs') = storedFrame (.dict cs) := by
    unfold mergeAndStore at h
    simp only [mergeModelTurnReplayFrame, bind, Except.bind] at h
    cases current : currentProviderReplayFrame (.dict cs) with
    | error e => simp [current] at h
    | ok frame =>
      rw [← currentProviderReplayFrame_ok current]
      cases frame with
      | none =>
        simp only [current, pure, Except.pure, Except.ok.injEq] at h
        rw [← h]
        exact (currentProviderReplayFrame_ok current).symm
      | some frame =>
        simp only [current] at h
        exact storedFrame_set h
  refine ⟨fun frame stored => inFormat frame (same ▸ stored), ?_, ?_, ?_⟩
  · rintro name digest ⟨frame, stored, bound⟩
    exact ⟨frame, same.trans stored, bound⟩
  · rintro ⟨_, _, _, _, dict, _⟩
    simp [Value.get, Value.entries, Value.isDict] at dict
  · intro mode
    simp [replayMode, Value.get, Value.entries, Value.or, Value.truthy] at mode

theorem turnAccepted_replace (hformat : (Value.dict entries).get "format" = .str format)
    (mode : replayMode display (.dict entries) = "replace")
    (h : mergeAndStore display cs (.dict entries) = .ok cs') :
    TurnAccepted format display cs cs' (.dict entries) := by
  unfold mergeAndStore at h
  simp only [mergeModelTurnReplayFrame, if_pos mode, bind, Except.bind] at h
  cases current : currentProviderReplayFrame (.dict cs) with
  | error e => simp [current] at h
  | ok existing =>
    have existingEq := currentProviderReplayFrame_ok current
    cases merge : mergeReplace existing entries with
    | error e => simp [current, merge] at h
    | ok merged =>
      simp only [current, merge, pure, Except.pure] at h
      have stored := storedFrame_set h
      have mergedFormat : merged.get "format" = .str format :=
        (mergeReplace_format merge).trans hformat
      have binding : ∀ name digest, Bound cs name digest →
          recorded (merged.get "tool_schema_manifest") name = some (.str digest) ∧
          ∀ other, recorded ((Value.dict entries).get "tool_schema_manifest") name
            = some other → other = .str digest := by
        rintro name digest ⟨frame, hframe, bound⟩
        rw [hframe] at existingEq
        subst existingEq
        exact mergeReplace_binding merge (inFormat frame hframe) hformat bound
      refine ⟨fun frame hframe => ?_, fun name digest bound => ?_, ?_, fun append => ?_⟩
      · cases stored.symm.trans hframe
        exact mergedFormat
      · exact ⟨merged, stored, (binding name digest bound).1⟩
      · rintro ⟨name, digest, other, bound, -, hin, ne⟩
        exact ne ((binding name digest bound).2 other hin)
      · simp [mode] at append

theorem turnAccepted_append (hformat : (Value.dict entries).get "format" = .str format)
    (mode : replayMode display (.dict entries) = "append_response")
    (h : mergeAndStore display cs (.dict entries) = .ok cs') :
    TurnAccepted format display cs cs' (.dict entries) := by
  unfold mergeAndStore at h
  simp only [mergeModelTurnReplayFrame, mode, show "append_response" ≠ "replace" by decide,
    if_false, if_true, bind, Except.bind] at h
  cases merge : mergeAppend display (currentProviderReplayFrame (.dict cs)) (.dict entries) with
  | error e => simp [merge, Except.map] at h
  | ok merged =>
    simp only [merge, Except.map] at h
    have stored := storedFrame_set h
    have items : storedItems cs' = (merged.get "items").items := by simp [storedItems, stored]
    obtain ⟨response, incomingItems, request, hresponse, -, hrequest, cases⟩ := mergeAppend_ok merge
    rw [hformat, toStr_format] at cases
    rcases cases with ⟨frame, current, -, onto⟩ | ⟨missing, kept⟩
    · obtain ⟨hframe, dict, -⟩ := currentProviderReplayFrame_some current
      obtain ⟨sameFormat, mergedItems, binding⟩ := appendOnto_ok dict onto
      have before : storedItems cs = (frame.get "items").items := by simp [storedItems, hframe]
      refine ⟨fun frame' hframe' => ?_, ?_, ?_, fun _ => ⟨?_, ?_⟩⟩
      · cases stored.symm.trans hframe'
        rw [sameFormat]
        exact inFormat frame hframe
      · rintro name digest ⟨frame', hframe', bound⟩
        cases hframe.symm.trans hframe'
        exact ⟨merged, stored, (binding name digest bound).1⟩
      · rintro ⟨name, digest, other, ⟨frame', hframe', bound⟩, isDict, hin, ne⟩
        cases hframe.symm.trans hframe'
        exact ne ((binding name digest bound).2 isDict other hin)
      · rw [items, before, mergedItems]
        exact prefix_appendedItems _ _ _
      · rw [items, mergedItems, hresponse]
        obtain ⟨front, split⟩ := suffix_appendedItems (frame.get "items").items request response
        exact ⟨front, response, split.symm, .inl rfl⟩
    · -- a stored frame would have the same format, so there is none
      have none : storedFrame (.dict cs) = none := by
        rcases missing with current | ⟨frame, current, differ⟩
        · exact (currentProviderReplayFrame_ok current).symm
        · have hframe := (currentProviderReplayFrame_some current).1
          simp [inFormat frame hframe, Value.eqPy] at differ
      obtain ⟨rfl, -⟩ := validateProviderReplayFrame_ok kept
      refine ⟨fun frame hframe => ?_, ?_, ?_, fun _ => ⟨?_, ?_⟩⟩
      · cases stored.symm.trans hframe
        exact fallbackFrame_format _ _ _
      · rintro name digest ⟨frame, hframe, -⟩
        simp [none] at hframe
      · rintro ⟨name, digest, other, ⟨frame, hframe, -⟩, -⟩
        simp [none] at hframe
      · simp [storedItems, none]
      · rw [items, fallbackFrame_items, hresponse]
        exact endsIn_of_requestItems hrequest

theorem turnAccepted (turn : TurnOf format incoming)
    (h : mergeAndStore display cs incoming = .ok cs') :
    TurnAccepted format display cs cs' incoming := by
  rcases turn with rfl | ⟨dict, hformat⟩
  · exact turnAccepted_none inFormat h
  · obtain ⟨entries, rfl⟩ := Value.isDict_iff.mp dict
    by_cases replace : replayMode display (.dict entries) = "replace"
    · exact turnAccepted_replace inFormat hformat replace h
    · by_cases append : replayMode display (.dict entries) = "append_response"
      · exact turnAccepted_append inFormat hformat append h
      · simp [mergeAndStore, mergeModelTurnReplayFrame, if_neg replace, if_neg append, bind,
          Except.bind] at h

theorem inFormat_afterTurn (turn : TurnOf format incoming) :
    InFormat format (afterTurn display cs incoming) ∧
      ∀ name digest, Bound cs name digest → Bound (afterTurn display cs incoming) name digest := by
  unfold afterTurn
  split
  · rename_i cs' h
    have accepted := turnAccepted inFormat turn h
    exact ⟨accepted.inFormat, accepted.keeps⟩
  · exact ⟨inFormat, fun _ _ bound => bound⟩

end

theorem bound_run (display : Display) {turns : List Value} (inFormat : InFormat format cs)
    (same : ∀ turn ∈ turns, TurnOf format turn) : InFormat format (runTurns display cs turns) ∧
      ∀ name digest, Bound cs name digest → Bound (runTurns display cs turns) name digest := by
  induction turns generalizing cs with
  | nil => exact ⟨inFormat, fun _ _ bound => bound⟩
  | cons turn turns ih =>
    obtain ⟨next, keeps⟩ := inFormat_afterTurn inFormat (same turn (by simp))
    obtain ⟨last, keeps'⟩ := ih next fun t ht => same t (by simp [ht])
    exact ⟨last, fun name digest bound => keeps' name digest (keeps name digest bound)⟩

/-- Recorded tool schemas are monotone along every run of turns in one format. At
each point of the run: what is bound there stays bound to the end; the next turn
is refused, and changes nothing, if it contradicts a binding; and when it is an
accepted append, the stored items are a prefix of the merged ones, which end with
the response items. -/
theorem replay_schemas_monotone (display : Display) (format : String) (start : Dict)
    (turns : List Value) (stored : InFormat format start)
    (same : ∀ turn ∈ turns, TurnOf format turn) (before after : List Value)
    (split : turns = before ++ after) :
    (∀ name digest, Bound (runTurns display start before) name digest →
      Bound (runTurns display start turns) name digest) ∧
    ∀ incoming ∈ after.head?,
      (Contradicts (runTurns display start before) incoming →
        (∃ e, mergeAndStore display (runTurns display start before) incoming = .error e) ∧
          runTurns display start (before ++ [incoming]) = runTurns display start before) ∧
      (replayMode display incoming = "append_response" →
        ∀ merged, mergeAndStore display (runTurns display start before) incoming = .ok merged →
          storedItems (runTurns display start before) <+: storedItems merged ∧
            EndsIn (storedItems merged) (incoming.get "response_items").items) := by
  subst split
  have here := (bound_run display stored fun t ht => same t (List.mem_append_left _ ht)).1
  refine ⟨?_, fun incoming next => ?_⟩
  · rw [runTurns_append]
    exact (bound_run display here fun t ht => same t (List.mem_append_right _ ht)).2
  · have turn : TurnOf format incoming :=
      same incoming (List.mem_append_right _ (List.mem_of_mem_head? next))
    refine ⟨fun contradicts => ?_, fun append merged accepted => ?_⟩
    · cases h : mergeAndStore display (runTurns display start before) incoming with
      | ok merged => exact absurd contradicts (turnAccepted here turn h).agrees
      | error e =>
        refine ⟨⟨e, rfl⟩, ?_⟩
        have unchanged : afterTurn display (runTurns display start before) incoming
            = runTurns display start before := by simp [afterTurn, h]
        rw [runTurns_append]
        exact unchanged
    · exact (turnAccepted here turn accepted).appends append

def openaiFrame (mode : String) (items response : List Value) (digest : String) : Value :=
  .dict [("format", .str "openai.responses.v1"), ("complete", .bool true),
    ("mode", .str mode), ("items", .list items), ("response_items", .list response),
    ("tool_schema_manifest", .dict [("search", .str digest)])]

/-- A replaced frame, an append, and a turn that contradicts the recorded digest. -/
theorem replay_schemas_monotone_three_turns :
    (∀ name digest,
      Bound (runTurns (fun _ => "") [] [openaiFrame "replace" [.str "q"] [] "d1"]) name digest →
        Bound (runTurns (fun _ => "") []
          [openaiFrame "replace" [.str "q"] [] "d1",
            openaiFrame "append_response" [.str "q", .str "a"] [.str "a"] "d1",
            openaiFrame "append_response" [.str "r"] [.str "r"] "d2"]) name digest) ∧
      Bound (runTurns (fun _ => "") [] [openaiFrame "replace" [.str "q"] [] "d1"]) "search" "d1" := by
  refine ⟨(replay_schemas_monotone (fun _ => "") "openai.responses.v1" [] _ ?_ ?_
    [openaiFrame "replace" [.str "q"] [] "d1"]
    [openaiFrame "append_response" [.str "q", .str "a"] [.str "a"] "d1",
      openaiFrame "append_response" [.str "r"] [.str "r"] "d2"] rfl).1, ?_⟩
  · intro frame h
    simp [storedFrame, Value.get, Value.entries, Value.isDict] at h
  · intro turn mem
    simp only [List.cons_append, List.nil_append, List.mem_cons, List.not_mem_nil, or_false] at mem
    rcases mem with rfl | rfl | rfl <;> exact .inr (by decide)
  · exact ⟨_, rfl, by decide⟩

end Unchain.Kernel
