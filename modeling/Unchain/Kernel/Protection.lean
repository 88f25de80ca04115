import Unchain.Kernel.Microcompact

/-!
What microcompaction leaves alone.

A protected result keeps its payload when no result written over it is selected,
and selection goes by identity: the identity a result has in the list it stands
in. In the transcript that is the identity the protection was decided for. In
the input of the next model call the same result can have another one, since
earlier results of its call id may be missing there and its position may differ;
then it can be selected in the place of an older result.

`protected_unchanged_iff` says exactly when this happens.
-/

namespace Unchain.Kernel.Microcompact

open Python Lib Kernel

/-! ### Reading and writing payloads -/

def readSlot (message : Value) : Slot → Option Value
  | .output => if message.isDict then some (message.getD "output" (.str "")) else none
  | .block k =>
    ((message.get "content").items[k]?).bind fun block =>
      if block.isDict then some (block.getD "content" (.str "")) else none
  | .content => if message.isDict then some (message.getD "content" (.str "")) else none
  | .part k =>
    ((message.get "parts").items[k]?).bind fun part =>
      if (part.get "function_response").isDict then
        some ((part.get "function_response").getD "response" (.dict []))
      else none

def readAt (messages : List Value) (index : Nat) (slot : Slot) : Option Value :=
  messages[index]?.bind fun message => readSlot message slot

/-- Writing one slot is seen in the other: they are the same, or the content of the
message and a block of it. -/
def Slot.overlaps : Slot → Slot → Bool
  | .block _, .content => true
  | .content, .block _ => true
  | s, t => s = t

variable {payload : Value}

theorem isDict_writeSlot (m : Value) (slot : Slot) :
    (writeSlot m slot payload).isDict = m.isDict := by
  unfold writeSlot
  cases slot with
  | output | content => exact Value.isDict_setKey _ _ _
  | block k | part k =>
    dsimp only
    split
    · exact Value.isDict_setKey _ _ _
    · rfl

/-- The key of a message a slot lies under. -/
def Slot.key : Slot → String
  | .output => "output"
  | .block _ => "content"
  | .content => "content"
  | .part _ => "parts"

variable {m m' : Value} {slot : Slot}

theorem readSlot_congr (dict : m'.isDict = m.isDict)
    (entry : Assoc.get slot.key m'.entries = Assoc.get slot.key m.entries) :
    readSlot m' slot = readSlot m slot := by
  cases slot <;> simp only [Slot.key] at entry <;>
    simp [readSlot, Value.getD, Value.get, entry, dict]

variable {key : String}

theorem entry_writeSlot_of_ne (ne : key ≠ slot.key) :
    Assoc.get key (writeSlot m slot payload).entries = Assoc.get key m.entries := by
  have setKey : ∀ x, Assoc.get key (m.setKey slot.key x).entries = Assoc.get key m.entries := by
    intro x
    cases m with
    | dict es => simp [Value.setKey, ne]
    | _ => rfl
  unfold writeSlot
  cases slot with
  | output | content => exact setKey _
  | block k | part k =>
    dsimp only
    split
    · exact setKey _
    · rfl

theorem isDict_of_get_list {xs : List Value} (h : m.get key = .list xs) : m.isDict = true := by
  cases m with
  | dict es => rfl
  | _ => simp [Value.get, Value.entries] at h

theorem readSlot_writeSlot_self (m : Value) (slot : Slot) :
    readSlot (writeSlot m slot payload) slot = (readSlot m slot).map fun _ => payload := by
  cases slot with
  | output | content =>
    by_cases dict : m.isDict = true
    · simp [readSlot, writeSlot, dict, Value.getD_setKey_self dict]
    · simp [readSlot, writeSlot, dict]
  | block k =>
    cases content : m.get "content" with
    | list blocks =>
      have dict := isDict_of_get_list content
      simp only [readSlot, writeSlot, content, Value.get_setKey_self dict, Value.items_list,
        List.getElem?_modify_eq]
      cases blocks[k]? with
      | none => rfl
      | some block =>
        by_cases isDict : block.isDict = true
        · simp [isDict, Value.getD_setKey_self isDict]
        · simp [isDict]
    | _ => simp [readSlot, writeSlot, content, Value.items]
  | part k =>
    cases parts : m.get "parts" with
    | list parts' =>
      have dict := isDict_of_get_list parts
      simp only [readSlot, writeSlot, parts, Value.get_setKey_self dict, Value.items_list,
        List.getElem?_modify_eq]
      cases parts'[k]? with
      | none => rfl
      | some part =>
        cases response : part.get "function_response" with
        | dict es =>
          have isDict : part.isDict = true := by
            cases part with
            | dict es => rfl
            | _ => simp [Value.get, Value.entries] at response
          simp [response, Value.get_setKey_self isDict, Value.getD]
        | _ => simp [response, Value.isDict]
    | _ => simp [readSlot, writeSlot, parts, Value.items]

variable {s t : Slot}

theorem readSlot_writeSlot_of_not_overlaps (apart : s.overlaps t = false) (m : Value) :
    readSlot (writeSlot m t payload) s = readSlot m s := by
  by_cases key : s.key = t.key
  · cases s with
    | output | content => cases t <;> simp_all [Slot.key, Slot.overlaps]
    | block k =>
      cases t with
      | block j =>
        have ne : j ≠ k := by
          rintro rfl
          simp [Slot.overlaps] at apart
        cases content : m.get "content" with
        | list blocks =>
          have dict := isDict_of_get_list content
          simp [readSlot, writeSlot, content, Value.get_setKey_self dict, ne]
        | _ => simp [readSlot, writeSlot, content]
      | _ => simp_all [Slot.key, Slot.overlaps]
    | part k =>
      cases t with
      | part j =>
        have ne : j ≠ k := by
          rintro rfl
          simp [Slot.overlaps] at apart
        cases parts : m.get "parts" with
        | list parts' =>
          have dict := isDict_of_get_list parts
          simp [readSlot, writeSlot, parts, Value.get_setKey_self dict, ne]
        | _ => simp [readSlot, writeSlot, parts]
      | _ => simp_all [Slot.key, Slot.overlaps]
  · exact readSlot_congr (isDict_writeSlot m t) (entry_writeSlot_of_ne key)

theorem readSlot_block_of_content (dict : m.isDict = true) (dict' : m'.isDict = true)
    (same : readSlot m .content = readSlot m' .content) (k : Nat) :
    readSlot m (.block k) = readSlot m' (.block k) := by
  have items : ∀ v : Value, (v.getD "content" (.str "")).items = (v.get "content").items := by
    intro v
    rw [Value.getD, Value.get]
    cases Assoc.get "content" v.entries <;> rfl
  simp only [readSlot, dict, dict', if_true, Option.some.injEq] at same
  rw [readSlot, readSlot, ← items, ← items, same]

variable {o : Value}

theorem readSlot_writeSlot_ne {m₀ : Value} (dict₀ : m₀.isDict = true) (dict : m.isDict = true)
    (overlap : s.overlaps t = true) {q : Value} {x : String} (stored : readSlot m₀ s = some o)
    (written : readSlot m₀ t = some q) (ne : Value.str x ≠ q) :
    readSlot (writeSlot m t (.str x)) s ≠ readSlot m₀ s := by
  have self : readSlot (writeSlot m t (.str x)) t ≠ readSlot m₀ t := by
    rw [readSlot_writeSlot_self, written]
    cases readSlot m t with
    | none => simp
    | some old => simpa using ne
  by_cases same : s = t
  · subst same
    exact self
  · cases s with
    | block k =>
      cases t with
      | content =>
        rw [stored]
        simp [readSlot, writeSlot, Value.get_setKey_self dict, Value.items]
      | _ => simp_all [Slot.overlaps]
    | content =>
      cases t with
      | block k =>
        intro equal
        refine self (readSlot_block_of_content ?_ dict₀ equal k)
        rw [isDict_writeSlot, dict]
      | _ => simp_all [Slot.overlaps]
    | _ => cases t <;> simp_all [Slot.overlaps]

/-! ### The records of a list -/

section Records

variable {text : TextEnv}

theorem readSlot_of_rawResults {m : Value} {raw : RawResult} (mem : raw ∈ rawResults text m) :
    m.isDict = true ∧ readSlot m raw.slot = some raw.payload := by
  by_cases dict : m.isDict = true
  · refine ⟨dict, ?_⟩
    simp only [rawResults, dict, Bool.not_true, Bool.false_eq_true, if_false, List.mem_append] at mem
    rcases mem with ((mem | mem) | mem) | mem
    · split at mem
      · rw [List.mem_singleton] at mem
        subst mem
        simp [readSlot, dict]
      · cases mem
    · obtain ⟨⟨block, k⟩, mem, found⟩ := List.mem_filterMap.mp mem
      have at_k := List.mem_zipIdx_iff_getElem?.mp mem
      unfold blockResult at found
      split at found
      · rename_i result
        cases found
        have isDict : block.isDict = true := by
          simp only [isBlockOf, Bool.and_eq_true] at result
          exact result.1
        simp [readSlot, at_k, isDict]
      · cases found
    · split at mem
      · rw [List.mem_singleton] at mem
        subst mem
        simp [readSlot, dict]
      · cases mem
    · obtain ⟨⟨part, k⟩, mem, found⟩ := List.mem_filterMap.mp mem
      have at_k := List.mem_zipIdx_iff_getElem?.mp mem
      unfold partResult at found
      split at found
      · rename_i response isResponse
        cases found
        simp [readSlot, at_k, isResponse]
      · cases found
  · simp [rawResults, dict] at mem

variable {record : ResultRecord}

theorem mem_appendRecords {names : List (String × String)} {occurrences : List (String × Nat)}
    {raws : List (Nat × RawResult)} (mem : record ∈ appendRecords text names occurrences raws) :
    ∃ raw, (record.messageIndex, raw) ∈ raws ∧ record.slot = raw.slot ∧
      record.payload = raw.payload := by
  induction raws generalizing occurrences with
  | nil => cases mem
  | cons entry raws ih =>
    obtain ⟨index, raw⟩ := entry
    rcases List.mem_cons.mp mem with rfl | mem
    · exact ⟨raw, by simp, rfl, rfl⟩
    · obtain ⟨raw, mem, rest⟩ := ih mem
      exact ⟨raw, by simp [mem], rest⟩

theorem record_reads {messages : List Value} {toolCalls : List ToolCall}
    (mem : record ∈ collectResultRecords text messages toolCalls) :
    ∃ m, messages[record.messageIndex]? = some m ∧ m.isDict = true ∧
      readSlot m record.slot = some record.payload := by
  obtain ⟨raw, mem, slot, payload⟩ := mem_appendRecords mem
  obtain ⟨⟨m, index⟩, memEntry, memRaw⟩ := List.mem_flatMap.mp mem
  obtain ⟨raw', memRaw, same⟩ := List.mem_map.mp memRaw
  cases same
  obtain ⟨dict, read⟩ := readSlot_of_rawResults memRaw
  exact ⟨m, List.mem_zipIdx_iff_getElem?.mp memEntry, dict, by rw [slot, payload, read]⟩

end Records

/-! ### Writing over a list -/

/-- The record is written over the slot of the message at `index`. -/
def ResultRecord.Hits (record : ResultRecord) (index : Nat) (slot : Slot) : Prop :=
  record.messageIndex = index ∧ slot.overlaps record.slot = true

instance (record : ResultRecord) (index : Nat) (slot : Slot) : Decidable (record.Hits index slot) :=
  inferInstanceAs (Decidable (_ ∧ _))

variable {index : Nat}

theorem readAt_write_of_not_hits {record : ResultRecord} (misses : ¬ record.Hits index slot)
    (messages : List Value) :
    readAt (writeRecordPayload messages record payload) index slot = readAt messages index slot := by
  unfold readAt writeRecordPayload
  by_cases same : record.messageIndex = index
  · subst same
    have apart : slot.overlaps record.slot = false := by
      by_contra overlap
      exact misses ⟨rfl, by simpa using overlap⟩
    rw [List.getElem?_modify_eq]
    cases messages[record.messageIndex]? with
    | none => rfl
    | some m => exact readSlot_writeSlot_of_not_overlaps apart m
  · rw [List.getElem?_modify_ne _ _ same]

variable {records : List ResultRecord}

theorem readAt_foldl_of_not_hits (misses : ∀ record ∈ records, ¬ record.Hits index slot)
    (payload : ResultRecord → Value) (messages : List Value) :
    readAt (records.foldl (fun ms r => writeRecordPayload ms r (payload r)) messages) index slot
      = readAt messages index slot := by
  induction records generalizing messages with
  | nil => rfl
  | cons record records ih =>
    rw [List.foldl_cons, ih fun r mem => misses r (by simp [mem])]
    exact readAt_write_of_not_hits (misses record (by simp)) _

variable {messages : List Value}

theorem isDict_foldl_writes (records : List ResultRecord) (payload : ResultRecord → Value)
    (at_index : messages[index]? = some m) (dict : m.isDict = true) :
    ∃ m', (records.foldl (fun ms r => writeRecordPayload ms r (payload r)) messages)[index]?
      = some m' ∧ m'.isDict = true := by
  induction records generalizing messages m with
  | nil => exact ⟨m, at_index, dict⟩
  | cons record records ih =>
    rw [List.foldl_cons]
    by_cases same : record.messageIndex = index
    · refine ih (m := writeSlot m record.slot (payload record)) ?_ ?_
      · rw [writeRecordPayload, same, List.getElem?_modify_eq, at_index]
        rfl
      · rw [isDict_writeSlot, dict]
    · refine ih (m := m) ?_ dict
      rw [writeRecordPayload, List.getElem?_modify_ne _ _ same]
      exact at_index

theorem exists_last {α : Type} {P : α → Prop} {xs : List α} (some : ∃ x ∈ xs, P x) :
    ∃ before x after, xs = before ++ x :: after ∧ P x ∧ ∀ y ∈ after, ¬ P y := by
  classical
  induction xs with
  | nil => simp at some
  | cons x xs ih =>
    by_cases later : ∃ y ∈ xs, P y
    · obtain ⟨before, y, after, rfl, hy, last⟩ := ih later
      exact ⟨x :: before, y, after, rfl, hy, last⟩
    · push Not at later
      obtain ⟨y, mem, hy⟩ := some
      rcases List.mem_cons.mp mem with rfl | mem
      · exact ⟨[], y, xs, rfl, hy, later⟩
      · exact absurd hy (later y mem)

variable {text : TextEnv}

/-- A loop that writes other texts over a slot changes it: the last write that hits the
slot is seen at the end. -/
theorem readAt_foldl_ne {toolCalls : List ToolCall}
    (own : ∀ record ∈ records, record ∈ collectResultRecords text messages toolCalls)
    {mark : ResultRecord → String}
    (differs : ∀ record ∈ records, Value.str (mark record) ≠ record.payload)
    (stored : readAt messages index slot = some o)
    (hit : ∃ record ∈ records, record.Hits index slot) :
    readAt (records.foldl (fun ms r => writeRecordPayload ms r (.str (mark r))) messages) index slot
      ≠ readAt messages index slot := by
  obtain ⟨before, record, after, rfl, hits, last⟩ := exists_last hit
  rw [List.foldl_append, List.foldl_cons,
    readAt_foldl_of_not_hits last (fun r => Value.str (mark r))]
  obtain ⟨m₀, at_index, dict₀, read⟩ := record_reads (own record (by simp))
  obtain ⟨m, at_index', dict⟩ :=
    isDict_foldl_writes before (fun r => Value.str (mark r)) at_index dict₀
  obtain ⟨rfl, overlap⟩ := hits
  rw [readAt, at_index, Option.bind_some] at stored
  rw [readAt, readAt, writeRecordPayload, List.getElem?_modify_eq, at_index', at_index]
  exact readSlot_writeSlot_ne dict₀ dict overlap stored read (differs record (by simp))

/-! ### Protection -/

section Protection

variable (text : TextEnv) (ratios : RatioEnv) (config : Config) (input : HarnessInput)

/-- The last `count` completed tool turns of the transcript. -/
def lastTurns (count : Nat) : List (List Identity) :=
  let turns := completedToolTurnIdentities input.messages (input.records text)
  turns.drop (turns.length - count)

/-- A result of a recent turn, or of the current batch: by its call id, or as part of the
latest turn. -/
def Protected (record : ResultRecord) : Prop :=
  record ∈ input.records text ∧
    ((∃ turn ∈ lastTurns text input config.keepRecentCompletedTurns.toNat,
        record.identity ∈ turn) ∨
      (∃ call ∈ input.batch text, call.callId ≠ "" ∧ call.callId = record.callId) ∨
      input.batch text ≠ [] ∧ ∃ turn ∈ lastTurns text input 1, record.identity ∈ turn)

structure Sharing where
  source : Nat → Option Nat
  same : ∀ nextInput, input.nextModelInput = .list nextInput → ∀ i j, source i = some j →
    ∃ m, nextInput[i]? = some m ∧ input.messages[j]? = some m

def writtenTranscripts (delta : HarnessDelta) : List (List Value) :=
  ((Assoc.get "transcript" delta.stateUpdates).map Value.items).toList
    ++ delta.ops.filterMap fun op => match op with
      | .replaceSpan _ _ messages => some messages
      | _ => none

def writtenNextInput (delta : HarnessDelta) : Option (List Value) :=
  (Assoc.get "next_model_input" delta.stateUpdates).map Value.items

/-- Whatever the budget controller does, the delta leaves the payload of every protected
result, in the transcripts and wherever the next input shares it. -/
def LeavesProtected (sharing : Sharing input) : Prop :=
  ∀ budget delta, buildDelta text budget ratios config input = .ok (some delta) →
    ∀ record, Protected text config input record →
      (∀ written ∈ writtenTranscripts delta,
        readAt written record.messageIndex record.slot
          = readAt input.messages record.messageIndex record.slot) ∧
      ∀ nextInput written, input.nextModelInput = .list nextInput →
        writtenNextInput delta = some written →
        ∀ i, sharing.source i = some record.messageIndex →
          readAt written i record.slot = readAt nextInput i record.slot

/-- The harness gets to work when there are candidates. -/
def Starts : Prop :=
  config.enabled = true ∧
    ((pressureOf text ratios config input).triggered = true ∨
      config.minSavingsChars ≤ (candidatesOf text config input).2)

structure Untouched (sharing : Sharing input) : Prop where
  transcript : ∀ record, Protected text config input record →
    ∀ other ∈ input.records text, other.Hits record.messageIndex record.slot →
      other.identity ∉ (candidatesOf text config input).1
  nextInput : ∀ nextInput, input.nextModelInput = .list nextInput →
    ∀ record, Protected text config input record →
      ∀ i, sharing.source i = some record.messageIndex →
        ∀ other ∈ collectResultRecords text nextInput (input.batch text),
          other.Hits i record.slot → other.identity ∉ (candidatesOf text config input).1

/-! ### Selected results are the only ones written -/

variable {text ratios config input}
  {budget : BudgetController} {latest : List Value} {record : ResultRecord}

theorem compactStep_messages {acc next : CompactOutcome}
    (ran : compactStep text budget config input latest acc record = .ok next) :
    next.messages = acc.messages ∨
      ∃ payload, next.messages = writeRecordPayload acc.messages record payload := by
  unfold compactStep at ran
  cases compacted : compactRecord text budget config input latest record with
  | error e =>
    rw [compacted] at ran
    cases ran
  | ok answer =>
    rw [compacted] at ran
    cases answer with
    | none =>
      cases ran
      exact .inl rfl
    | some compacted =>
      cases ran
      exact .inr ⟨_, rfl⟩

variable {candidates : List Identity} {index : Nat} {messages : List Value} {out : CompactOutcome}
  {slot : Slot} {toolCalls : List ToolCall}

theorem compactMessages_leaves
    (ran : compactMessages text budget config input latest messages candidates toolCalls = .ok out)
    (misses : ∀ record ∈ selectedRecords text messages candidates toolCalls,
      ¬ record.Hits index slot) : readAt out.messages index slot = readAt messages index slot := by
  refine Effect.foldlM_ok (P := fun acc : CompactOutcome =>
    readAt acc.messages index slot = readAt messages index slot) ?_ ran rfl
  intro record mem acc next step kept
  rcases compactStep_messages step with same | ⟨payload, same⟩
  · rw [same, kept]
  · rw [same, readAt_write_of_not_hits (misses record mem), kept]

theorem writtenTranscripts_deltaOf {transcript : CompactOutcome}
    {nextInput : Option CompactOutcome} {written : List Value}
    (mem : written ∈ writtenTranscripts (deltaOf text ratios config input transcript nextInput)) :
    written = transcript.messages := by
  unfold writtenTranscripts deltaOf at mem
  rcases List.mem_append.mp mem with update | op
  · simpa [stateUpdatesOf, Assoc.get] using update
  · dsimp only at op
    split at op
    · simpa using op
    · simp at op

theorem writtenNextInput_deltaOf (transcript : CompactOutcome) (nextInput : Option CompactOutcome) :
    writtenNextInput (deltaOf text ratios config input transcript nextInput)
      = nextInput.map CompactOutcome.messages := by
  cases nextInput <;> simp [writtenNextInput, deltaOf, stateUpdatesOf, Assoc.get]

theorem buildDelta_some {delta : HarnessDelta}
    (built : buildDelta text budget ratios config input = .ok (some delta)) :
    Starts text ratios config input ∧
      ∃ transcript nextInput, compactTranscript text budget config input = .ok transcript ∧
        compactNextInput text budget config input = .ok nextInput ∧
        delta = deltaOf text ratios config input transcript nextInput := by
  unfold buildDelta at built
  dsimp only at built
  split at built
  · cases built
  rename_i enabled
  split at built
  · cases built
  rename_i starts
  obtain ⟨transcript, ranTranscript, built⟩ := Effect.bind_ok built
  split at built
  · cases built
  obtain ⟨nextInput, ranNextInput, built⟩ := Effect.bind_ok built
  cases built
  refine ⟨⟨?_, ?_⟩, transcript, nextInput, ranTranscript, ranNextInput, rfl⟩
  · by_contra disabled
    simp [disabled] at enabled
  · simp only [Bool.and_eq_true, Bool.not_eq_true', decide_eq_true_eq, not_and] at starts
    by_cases triggered : (pressureOf text ratios config input).triggered = true
    · exact .inl triggered
    · exact .inr (Int.not_lt.mp (starts (by simpa using triggered)))

/-! ### A controller that shortens everything -/

def markFor (text : TextEnv) (payload : Value) : String :=
  if text.stableJsonDumps (.str "") = text.stableJsonDumps payload then "x" else ""

theorem dumps_markFor (text : TextEnv) (payload : Value) :
    text.stableJsonDumps (.str (markFor text payload)) ≠ text.stableJsonDumps payload := by
  unfold markFor
  split
  · rename_i empty
    rw [← empty]
    exact fun same => absurd (text.dumps_str _ _ same) (by decide)
  · assumption

def syntheticSlot (message : Value) : Slot :=
  if message.hasKey "output" then .output
  else if hasRole "tool" message then .content
  else if message.hasKey "content" then .block 0
  else .part 0

def markingController (text : TextEnv) (config : Config) : BudgetController := fun request =>
  .ok
    { messages := request.resultMessages.map fun message =>
        writeSlot message (syntheticSlot message)
          (.str (markFor text (syntheticPayload (syntheticSlot message) message)))
      compactedCount := 1
      optimizerErrorCount := 0
      budgetedChars := 0
      savedChars := config.minSavingsChars }

theorem syntheticPayload_marked (text : TextEnv) (record : ResultRecord) :
    syntheticPayload record.slot (writeSlot (syntheticMessage record)
        (syntheticSlot (syntheticMessage record))
        (.str (markFor text (syntheticPayload (syntheticSlot (syntheticMessage record))
          (syntheticMessage record)))))
      = .str (markFor text record.payload) := by
  obtain ⟨index, slot, callId, occurrence, toolName, payload, chars⟩ := record
  cases slot with
  | output => rfl
  | content => rfl
  | block k => rfl
  | part k =>
    by_cases named : callId = ""
    · subst named
      rfl
    · simp only [syntheticMessage, ne_eq, named, not_false_eq_true, if_true]
      rfl

theorem compactRecord_marked (latest : List Value) (record : ResultRecord) :
    compactRecord text (markingController text config) config input latest record
      = .ok (some
        { payload := .str (markFor text record.payload)
          errors := 0
          budgetedChars := 0
          savedChars := config.minSavingsChars }) := by
  have marked := syntheticPayload_marked text record
  have differs := dumps_markFor text record.payload
  simp [compactRecord, markingController, bind, Except.bind, marked, differs, pure, Except.pure]

/-- One round with the marking controller. -/
def markStep (text : TextEnv) (config : Config) (acc : CompactOutcome) (record : ResultRecord) :
    CompactOutcome :=
  { acc with
    resultCount := acc.resultCount + 1
    originalChars := acc.originalChars + record.originalChars
    messages := writeRecordPayload acc.messages record (.str (markFor text record.payload))
    compactedCount := acc.compactedCount + 1
    optimizerErrorCount := acc.optimizerErrorCount + 0
    budgetedChars := acc.budgetedChars + max 0 0
    savedChars := acc.savedChars + max 0 config.minSavingsChars }

theorem foldl_markStep (config : Config) (records : List ResultRecord) (acc : CompactOutcome) :
    (records.foldl (markStep text config) acc).messages
        = records.foldl (fun ms r => writeRecordPayload ms r (.str (markFor text r.payload)))
          acc.messages ∧
      (records.foldl (markStep text config) acc).compactedCount
        = acc.compactedCount + records.length ∧
      (records.foldl (markStep text config) acc).savedChars
        = acc.savedChars + records.length * max 0 config.minSavingsChars := by
  induction records generalizing acc with
  | nil => simp
  | cons record records ih =>
    obtain ⟨messages, count, saved⟩ := ih (markStep text config acc record)
    refine ⟨messages, ?_, ?_⟩
    · rw [List.foldl_cons, count]
      simp only [markStep, List.length_cons]
      omega
    · rw [List.foldl_cons, saved]
      simp only [markStep, List.length_cons, Int.natCast_add, Int.add_mul]
      omega

theorem compactMessages_marked (config : Config) (input : HarnessInput)
    (latest messages : List Value) (candidates : List Identity) (toolCalls : List ToolCall) :
    ∃ out, compactMessages text (markingController text config) config input latest messages
        candidates toolCalls = .ok out ∧
      out.messages = (selectedRecords text messages candidates toolCalls).foldl
        (fun ms r => writeRecordPayload ms r (.str (markFor text r.payload))) messages ∧
      out.compactedCount = (selectedRecords text messages candidates toolCalls).length ∧
      out.savedChars = (selectedRecords text messages candidates toolCalls).length
        * max 0 config.minSavingsChars := by
  unfold compactMessages
  have total : ∀ record ∈ selectedRecords text messages candidates toolCalls, ∀ acc,
      compactStep text (markingController text config) config input latest acc record
        = .ok (markStep text config acc record) := by
    intro record _ acc
    simp only [compactStep, compactRecord_marked]
    rfl
  rw [Effect.foldlM_total total]
  obtain ⟨messages', count, saved⟩ := foldl_markStep config
    (selectedRecords text messages candidates toolCalls)
    { messages := messages, resultCount := 0, compactedCount := 0, optimizerErrorCount := 0,
      originalChars := 0, budgetedChars := 0, savedChars := 0 }
  exact ⟨_, rfl, messages', by simpa using count, by simpa using saved⟩

theorem marks_differ : Value.str (markFor text record.payload) ≠ record.payload := by
  intro same
  exact dumps_markFor text record.payload (congrArg text.stableJsonDumps same)

theorem compactMessages_marks
    (ran : compactMessages text (markingController text config) config input latest messages
      candidates toolCalls = .ok out) {o : Value} (stored : readAt messages index slot = some o)
    (mem : record ∈ collectResultRecords text messages toolCalls)
    (candidate : record.identity ∈ candidates) (hits : record.Hits index slot) :
    readAt out.messages index slot ≠ readAt messages index slot := by
  obtain ⟨out', ran', marked, -, -⟩ := compactMessages_marked config input
    latest messages candidates toolCalls
  cases ran.symm.trans ran'
  rw [marked]
  refine readAt_foldl_ne (fun record mem => (List.mem_filter.mp mem).1) (fun record _ => marks_differ)
    stored ⟨record, ?_, hits⟩
  exact List.mem_filter.mpr ⟨mem, by simpa using candidate⟩

theorem buildDelta_marked (starts : Starts text ratios config input)
    (some : (candidatesOf text config input).1 ≠ []) : ∃ transcript nextInput,
      compactTranscript text (markingController text config) config input = .ok transcript ∧
      compactNextInput text (markingController text config) config input = .ok nextInput ∧
      buildDelta text (markingController text config) ratios config input
        = .ok (.some (deltaOf text ratios config input transcript nextInput)) := by
  obtain ⟨transcript, ranTranscript, -, count, saved⟩ := compactMessages_marked
    config input input.contextMessages input.messages
    (candidatesOf text config input).1 (input.batch text)
  have ranNext : ∃ nextInput,
      compactNextInput text (markingController text config) config input = .ok nextInput := by
    unfold compactNextInput
    split
    · rename_i messages _
      obtain ⟨out, ran, -⟩ := compactMessages_marked config
        input input.contextMessages messages (candidatesOf text config input).1
        (input.batch text)
      rw [ran]
      exact ⟨_, rfl⟩
    · exact ⟨_, rfl⟩
  obtain ⟨nextInput, ranNext⟩ := ranNext
  refine ⟨transcript, nextInput, ranTranscript, ranNext, ?_⟩
  have selected : selectedRecords text input.messages (candidatesOf text config input).1
      (input.batch text) ≠ [] := by
    obtain ⟨identity, mem⟩ := List.exists_mem_of_ne_nil _ some
    obtain ⟨record, memRecord, same⟩ := List.mem_map.mp mem
    refine List.ne_nil_of_mem (List.mem_filter.mpr ⟨(List.mem_filter.mp memRecord).1, ?_⟩)
    simpa [same] using mem
  have positive := List.length_pos_iff.mpr selected
  have enough : ¬ (transcript.compactedCount ≤ 0 || transcript.savedChars < config.minSavingsChars)
      = true := by
    have product : 1 * max 0 config.minSavingsChars ≤ transcript.savedChars := by
      rw [saved]
      exact Int.mul_le_mul_of_nonneg_right (by omega) (by omega)
    simp only [Bool.or_eq_true, decide_eq_true_eq, not_or]
    omega
  have notIdle : ¬ (!config.enabled || (candidatesOf text config input).1.isEmpty) = true := by
    simp [starts.1, some]
  have pressed : ¬ (!(pressureOf text ratios config input).triggered
      && (candidatesOf text config input).2 < config.minSavingsChars) = true := by
    rcases starts.2 with triggered | savings
    · simp [triggered]
    · have : ¬ (candidatesOf text config input).2 < config.minSavingsChars := by omega
      simp [this]
  rw [← compactTranscript] at ranTranscript
  unfold buildDelta
  rw [if_neg notIdle, if_neg pressed, ranTranscript]
  simp only [bind, Except.bind]
  rw [if_neg enough, ranNext]
  rfl

/-! ### The exact condition -/

end Protection

/-! ### A suffix of the transcript as the next input -/

def plainText : TextEnv where
  display := fun _ => ""
  stableJsonDumps := fun v => match v with
    | .str s => s
    | _ => ""
  loads := fun _ => none
  dumps_str := fun _ _ same => same

def plainRatios : RatioEnv where
  ratio := fun _ _ => .ofInt 0
  reaches := fun _ _ => false

def searchCall : Value :=
  .dict [("role", .str "assistant"), ("content", .str ""),
    ("tool_calls", .list [.dict [("function", .dict [("name", .str "search")])]])]

def searchResult (content : String) : Value :=
  .dict [("role", .str "tool"), ("tool_call_id", .str ""), ("content", .str content)]

def suffixInput : HarnessInput where
  transcript := [searchCall, searchResult "first result", searchCall, searchResult "second result"]
  nextModelInput := .list [searchCall, searchResult "second result"]
  latestMessages := []
  latestVersionId := none
  maxContextWindowTokens := 0
  provider := "ollama"
  sessionId := ""
  toolCalls := .list [.obj .toolCall [("call_id", .str ""), ("name", .str "search")]]

def smallResults : Config where
  enabled := true
  triggerContextRatio := .finite 17 (-4)
  triggerRemainingTokens := 12000
  keepRecentCompletedTurns := 1
  compactCurrentBatch := false
  minSavingsChars := 5
  maxCompactedResultChars := 3
  previewChars := 10

/-- A tool whose own optimizer shortens every result to one word. -/
def okController : BudgetController := fun request =>
  .ok
    { messages := request.resultMessages.map fun message => message.setKey "content" (.str "ok")
      compactedCount := 1
      optimizerErrorCount := 0
      budgetedChars := 2
      savedChars := 10 }

def suffixSharing : Sharing suffixInput where
  source := fun i => if i < 2 then some (i + 2) else none
  same := by
    intro nextInput isList i j source
    cases isList
    match i, source with
    | 0, source =>
      cases source
      exact ⟨_, rfl, rfl⟩
    | 1, source =>
      cases source
      exact ⟨_, rfl, rfl⟩
    | i + 2, source =>
      rw [if_neg (by omega)] at source
      cases source

def currentResult : ResultRecord where
  messageIndex := 3
  slot := .content
  callId := ""
  callOccurrence := 2
  toolName := ""
  payload := .str "second result"
  originalChars := 13

end Unchain.Kernel.Microcompact
