import Unchain.Subagents.Communication

/-!
The caps of `SubagentPolicy` over whole runs.

Each cap is checked where one operation grows a collection: a new open thread, a message, a board
item. Two operations grow one unchecked. `upsert_thread` takes any record of a thread it knows, so
a finished thread is opened again past the limit, and `merged` extends the boards with all that a
child wrote. A run keeps its caps exactly when none of these steps goes over (`caps_hold_iff`).
-/

namespace Unchain.Subagents

open Kernel Python Lib Lib.Effect Lib.Quota
open SubagentState (dictItems extendBoxes mailboxesOr mergeItems reportEnv reportReader)

/-! ### What the caps bound -/

/-- The status is not `completed`, `failed` or `closed`. -/
def isOpen (item : Value) : Bool :=
  match item.get "status" with
  | .str s => !finishedStatuses.contains s
  | _ => true

def openThreads (t : SubagentState) : Nat := tally isOpen t.threads.entries

/-- No mailbox, or board, of the dictionary holds more items than the limit. -/
def BoxesWithin (limit : Int) (boxes : Value) : Prop :=
  ∀ entry ∈ boxes.entries, (entry.2.items.length : Int) ≤ limit

structure WithinCaps (policy : SubagentPolicy) (t : SubagentState) : Prop where
  threads : (openThreads t : Int) ≤ policy.maxOpenThreads
  mailboxes : BoxesWithin policy.maxMailboxMessages t.mailboxes
  boards : BoxesWithin policy.maxBoardItems t.blackboards

def boxItems (id : String) (boxes : Dict) : List Value :=
  ((Assoc.get id boxes).getD (.list [])).items

/-- The step goes over no cap: an open record of a thread that had finished finds room among the
open threads, and what a child wrote to a board fits beside what the board holds. -/
def KeepsCaps (display : Display) (policy : SubagentPolicy) (t : SubagentState) : Call → Prop
  | .upsertThread record =>
    isOpen record.toDict = true →
    (∃ item, Assoc.get record.threadId t.threads.entries = some item ∧ isOpen item = false) →
    (openThreads t : Int) < policy.maxOpenThreads
  | .mergeChild events =>
    ∀ id ∈ Assoc.keys (captured display events).blackboards,
      ((boxItems id t.blackboards.entries).length +
        (boxItems id (captured display events).blackboards).length : Int) ≤
      policy.maxBoardItems
  | _ => True

/-! ### Well-formed states -/

structure Keyed (boxes : Dict) : Prop where
  distinct : (Assoc.keys boxes).Nodup
  lists : ∀ entry ∈ boxes, entry.2.isList = true

def Threads (threads : Dict) : Prop :=
  ∀ entry ∈ threads, entry.2.isDict = true ∧ (entry.2.get "status").isStr = true

structure Sound (t : SubagentState) : Prop where
  threads : ∃ es, t.threads = .dict es ∧ Threads es
  mailboxes : ∃ es, t.mailboxes = .dict es ∧ Keyed es
  blackboards : ∃ es, t.blackboards = .dict es ∧ Keyed es

theorem keyed_nil : Keyed [] := ⟨List.nodup_nil, fun _ mem => absurd mem List.not_mem_nil⟩

theorem sound_empty : Sound SubagentState.empty :=
  ⟨⟨[], rfl, fun _ mem => absurd mem List.not_mem_nil⟩, ⟨[], rfl, keyed_nil⟩, ⟨[], rfl, keyed_nil⟩⟩

namespace Keyed

variable {boxes : Dict}

theorem get_eq (keyed : Keyed boxes) (id : String) :
    (Assoc.get id boxes).getD (.list []) = .list (boxItems id boxes) := by
  unfold boxItems
  cases stored : Assoc.get id boxes with
  | none => rfl
  | some box =>
    obtain ⟨items, rfl⟩ := Value.isList_iff.mp (keyed.lists _ (Assoc.mem_of_get stored))
    rfl

theorem set (keyed : Keyed boxes) (id : String) (items : List Value) :
    Keyed (Assoc.set id (.list items) boxes) := by
  constructor
  · exact Assoc.nodup_keys_set id _ keyed.distinct
  · intro entry mem
    rcases Assoc.mem_of_mem_set mem with rfl | mem
    · rfl
    · exact keyed.lists entry mem

theorem within_iff (keyed : Keyed boxes) (limit : Int) : BoxesWithin limit (.dict boxes) ↔
      ∀ id ∈ Assoc.keys boxes, ((boxItems id boxes).length : Int) ≤ limit := by
  constructor
  · intro within id mem
    obtain ⟨⟨_, box⟩, inBoxes, rfl⟩ := List.mem_map.mp mem
    have stored := Assoc.get_of_mem keyed.distinct inBoxes
    simpa [boxItems, stored] using within _ inBoxes
  · rintro within ⟨id, box⟩ mem
    have stored := Assoc.get_of_mem keyed.distinct mem
    have bounded := within id (List.mem_map.mpr ⟨_, mem, rfl⟩)
    simpa [boxItems, stored] using bounded

end Keyed

theorem boxItems_set (id other : String) (items : List Value) (boxes : Dict) :
    boxItems other (Assoc.set id (.list items) boxes) =
      if other = id then items else boxItems other boxes := by
  unfold boxItems
  rw [Assoc.get_set]
  split
  · rfl
  · rfl

variable {boxes : Dict} {id : String} {v : Value}

theorem mem_keys_set {other : String} :
    other ∈ Assoc.keys (Assoc.set id v boxes) ↔ other = id ∨ other ∈ Assoc.keys boxes := by
  rw [← Assoc.get_isSome_iff, ← Assoc.get_isSome_iff, Assoc.get_set]
  by_cases same : other = id
  · simp [same]
  · simp [same]

/-! ### Threads -/

variable {threads : Dict}

theorem openCount_eq (wellFormed : Threads threads) :
    openCount threads = .ok (tally isOpen threads) := by
  induction threads with
  | nil => rfl
  | cons entry threads ih =>
    obtain ⟨id, item⟩ := entry
    obtain ⟨dict, text⟩ := wellFormed (id, item) (List.mem_cons_self ..)
    have rest := ih fun entry mem => wellFormed entry (List.mem_cons_of_mem _ mem)
    have status : notFinished (item.get "status") = .ok (isOpen item) := by
      unfold isOpen
      cases known : item.get "status" with
      | str s => rfl
      | _ => simp [known, Value.isStr] at text
    simp only [openCount, dict, ↓reduceIte, status, rest, tally_cons]
    rfl

variable {item : Value}

theorem Threads.set (wellFormed : Threads threads) (id : String) (dict : item.isDict = true)
    (text : (item.get "status").isStr = true) : Threads (Assoc.set id item threads) := by
  intro entry mem
  rcases (Assoc.mem_of_mem_set mem).imp_left (congrArg Prod.snd) with same | mem
  · rw [same]
    exact ⟨dict, text⟩
  · exact wellFormed entry mem

variable {policy : SubagentPolicy} {record : AgentThreadRecord} {t : SubagentState}

theorem upsertThread_eq (field : t.threads = .dict threads) (wellFormed : Threads threads) :
    upsertThread policy t record =
      if Assoc.has record.threadId threads = false ∧ isOpen record.toDict = true ∧
          policy.maxOpenThreads ≤ openThreads t then
        .error (.valueError "max_open_threads exceeded")
      else .ok { t with threads := .dict (Assoc.set record.threadId record.toDict threads) } := by
  have status : isOpen record.toDict = !finishedStatuses.contains record.status := rfl
  have count : openThreads t = tally isOpen threads := by rw [openThreads, field]; rfl
  rw [status, count]
  simp only [upsertThread, field, dictItems, openCount_eq wellFormed, bind,
    Except.bind, Bool.and_eq_true, decide_eq_true_eq, Bool.not_eq_eq_eq_not, Bool.not_true, and_assoc]
  split <;> rfl

theorem openThreads_set (field : t.threads = .dict threads) (id : String) (item : Value) :
    openThreads { t with threads := .dict (Assoc.set id item threads) } +
      (held isOpen id threads).toNat = openThreads t + (isOpen item).toNat := by
  have count : openThreads t = tally isOpen threads := by rw [openThreads, field]; rfl
  rw [count]
  exact tally_set id item threads

variable {next : SubagentState}

/-- A record is over the limit exactly when it opens a thread and there is no room for one more:
a new thread is refused there, a known one is not. -/
theorem upsertThread_threads (sound : Sound t)
    (within : (openThreads t : Int) ≤ policy.maxOpenThreads)
    (stored : upsertThread policy t record = .ok next) :
    (openThreads next : Int) ≤ policy.maxOpenThreads ↔
      (isOpen record.toDict = true →
        (∃ item, Assoc.get record.threadId t.threads.entries = some item ∧ isOpen item = false) →
        (openThreads t : Int) < policy.maxOpenThreads) := by
  obtain ⟨threads, field, wellFormed⟩ := sound.threads
  rw [upsertThread_eq field wellFormed] at stored
  split at stored
  · cases stored
  · next accepted =>
      cases stored
      have moved := openThreads_set field record.threadId record.toDict
      rw [field, Value.entries_dict]
      cases opens : isOpen record.toDict with
      | false =>
        rw [opens] at moved
        simp only [Bool.toNat_false, Nat.add_zero] at moved
        simp only [Bool.false_eq_true, false_implies, iff_true]
        omega
      | true =>
        rw [opens, Bool.toNat_true] at moved
        cases known : Assoc.get record.threadId threads with
        | none =>
          -- a new thread: the check of the source has passed
          have room : (openThreads t : Int) < policy.maxOpenThreads := by
            rw [opens, Assoc.has, known] at accepted
            simpa using accepted
          rw [held, known] at moved
          omega
        | some item =>
          rw [held, known, Option.any_some] at moved
          cases was : isOpen item with
          | true =>
            rw [was, Bool.toNat_true] at moved
            simp only [Option.some.injEq, exists_eq_left', was, Bool.true_eq_false,
              false_implies, implies_true, iff_true]
            omega
          | false =>
            -- a finished thread is opened again: nothing was checked
            rw [was, Bool.toNat_false] at moved
            simp only [Option.some.injEq, exists_eq_left', was, forall_const]
            omega

variable {reason : String}

theorem closeThread_ok (sound : Sound t) (closed : closeThread t id reason = .ok next) :
    ∃ threads item, t.threads = .dict threads ∧ item.isDict = true ∧
      item.get "status" = .str "closed" ∧
      next = { t with threads := .dict (Assoc.set id item threads) } := by
  obtain ⟨threads, field, wellFormed⟩ := sound.threads
  simp only [closeThread, field, dictItems, bind, Except.bind] at closed
  cases dict : ((Assoc.get id threads).getD .none).isDict with
  | false =>
    rw [dict] at closed
    cases closed
  | true =>
    rw [dict] at closed
    cases closed
    refine ⟨threads, _, field, ?_, ?_, rfl⟩
    · simp [dict]
    · rw [Value.get_setKey_of_ne (by decide), Value.get_setKey_self dict]

theorem closeThread_threads (sound : Sound t)
    (within : (openThreads t : Int) ≤ policy.maxOpenThreads)
    (closed : closeThread t id reason = .ok next) :
    (openThreads next : Int) ≤ policy.maxOpenThreads := by
  obtain ⟨threads, item, field, -, status, rfl⟩ := closeThread_ok sound closed
  have moved := openThreads_set field id item
  have finished : isOpen item = false := by
    rw [isOpen, status]
    decide
  rw [finished, Bool.toNat_false] at moved
  omega

/-! ### Mailboxes and boards -/

/-- An append finds room, or raises. -/
theorem appendWithin_ok {limit : Int} {message key : String} (keyed : Keyed boxes)
    (appends : appendWithin limit message (.dict boxes) key item = .ok v) :
    (∃ es, v = .dict es ∧ Keyed es) ∧
      (BoxesWithin limit (.dict boxes) → BoxesWithin limit v) := by
  simp only [appendWithin, dictItems, keyed.get_eq, appended, bind, Except.bind] at appends
  split at appends
  · cases appends
  · next room =>
      cases appends
      have keyed' := keyed.set key (boxItems key boxes ++ [item])
      refine ⟨⟨_, rfl, keyed'⟩, ?_⟩
      intro within
      apply (keyed'.within_iff limit).mpr
      intro id mem
      rw [boxItems_set]
      split
      · rw [List.length_append, List.length_singleton]
        omega
      · next other =>
          rcases mem_keys_set.mp mem with same | mem
          · exact absurd same other
          · exact (keyed.within_iff limit).mp within id mem

/-! ### What a child wrote -/

/-- Boxes of dictionaries, as `from_raw` keeps them. -/
structure Readable (boxes : Dict) : Prop where
  keyed : Keyed boxes
  dicts : ∀ id, ∀ item ∈ boxItems id boxes, item.isDict = true

theorem readable_nil : Readable [] := ⟨keyed_nil, fun _ _ mem => absurd mem List.not_mem_nil⟩

variable {c : Captured}

theorem Readable.childCallback {display : Display} (readable : Readable c.blackboards)
    (event : Value) : Readable (Subagents.childCallback display c event).blackboards := by
  unfold Subagents.childCallback
  split
  · next reports =>
      have dict : ((event.get "result").get "item").isDict = true := by
        simp only [reportsItem, Bool.and_eq_true] at reports
        exact reports.2
      simp only
      split
      · constructor
        · exact readable.keyed.set _ _
        · intro id item mem
          rw [boxItems_set] at mem
          split at mem
          · rcases List.mem_append.mp mem with old | new
            · exact readable.dicts _ item old
            · rw [List.mem_singleton.mp new]
              exact dict
          · exact readable.dicts id item mem
      · exact readable
  · exact readable

theorem readable_captured (display : Display) (events : List Value) :
    Readable (captured display events).blackboards := by
  have all : ∀ c : Captured, Readable c.blackboards →
      Readable (events.foldl (childCallback display) c).blackboards := by
    induction events with
    | nil => exact fun c readable => readable
    | cons event events ih => exact fun c readable => ih _ (readable.childCallback event)
  exact all {} readable_nil

/-- `from_raw` keeps boards of dictionaries as they are. -/
theorem Readable.mailboxesOr_eq (readable : Readable boxes) (default : Value) :
    mailboxesOr (.dict boxes) default = .dict boxes := by
  have all : boxes.filter (fun entry => entry.2.isList) = boxes :=
    List.filter_eq_self.mpr readable.keyed.lists
  have same : ∀ entry ∈ boxes,
      (entry.1, Value.list (entry.2.items.filter Value.isDict)) = entry := by
    rintro ⟨id, box⟩ mem
    obtain ⟨items, rfl⟩ := Value.isList_iff.mp (readable.keyed.lists _ mem)
    have dicts := readable.dicts id
    rw [boxItems, Assoc.get_of_mem readable.keyed.distinct mem, Option.getD_some,
      Value.items_list] at dicts
    rw [Value.items_list, List.filter_eq_self.mpr dicts]
  rw [mailboxesOr, all, List.map_congr_left same, List.map_id']

theorem extendBoxes_items {current update : Dict} (keyed : Keyed current) (new : Keyed update) :
    ∃ es, extendBoxes current update = .ok es ∧ Keyed es ∧
      (∀ id, boxItems id es = boxItems id current ++ boxItems id update) ∧
      ∀ id, id ∈ Assoc.keys es ↔ id ∈ Assoc.keys current ∨ id ∈ Assoc.keys update := by
  induction update generalizing current with
  | nil =>
    exact ⟨current, rfl, keyed, fun id => (List.append_nil _).symm, fun id => by simp [Assoc.keys]⟩
  | cons entry update ih =>
    obtain ⟨key, box⟩ := entry
    obtain ⟨items, list⟩ := Value.isList_iff.mp (new.lists (key, box) (List.mem_cons_self ..))
    subst list
    obtain ⟨fresh, distinct⟩ := List.nodup_cons.mp new.distinct
    have rest : Keyed update :=
      ⟨distinct, fun entry mem => new.lists entry (List.mem_cons_of_mem _ mem)⟩
    obtain ⟨es, extended, keyed', itemsOf, keysOf⟩ :=
      ih (keyed.set key (boxItems key current ++ items)) rest
    refine ⟨es, ?_, keyed', ?_, ?_⟩
    · simp only [extendBoxes, keyed.get_eq, iterate, listExtend, bind, Except.bind]
      exact extended
    · intro id
      rw [itemsOf, boxItems_set]
      by_cases same : id = key
      · have nothing : boxItems key update = [] := by
          rw [boxItems, Assoc.get_eq_none_iff.mpr fresh]
          rfl
        subst same
        rw [if_pos rfl, nothing, List.append_nil]
        simp [boxItems, Assoc.get_cons]
      · rw [if_neg same]
        simp [boxItems, Assoc.get_cons, Ne.symm same]
    · intro id
      rw [keysOf, mem_keys_set]
      simp only [Assoc.keys, List.map_cons, List.mem_cons]
      tauto

/-- What `from_raw` makes of a captured delta: the boards, and nothing else. -/
theorem fromRaw_capturedDelta (env : Env) (reader : RunBundleReader)
    (readable : Readable c.blackboards) :
    SubagentState.fromRaw env reader (.dict (capturedDelta c)) =
      .ok { SubagentState.empty with blackboards := .dict c.blackboards } := by
  unfold capturedDelta
  split
  · next none =>
      rw [none]
      rfl
  · have boards : mailboxesOr ((Value.dict
        [("blackboards", .dict c.blackboards)]).get "blackboards") (.dict []) =
          .dict c.blackboards := readable.mailboxesOr_eq _
    simp only [SubagentState.fromRaw, Value.isClass, Bool.false_eq_true, ↓reduceIte, boards]
    rfl

theorem mergeItems_boxes (es fs : Dict) :
    mergeItems (.dict es) (.dict fs) extendBoxes =
      (extendBoxes es fs).map Value.dict := by
  cases fs with
  | nil => rfl
  | cons e fs => rfl

theorem mergeChild_ok (env : Env) (reader : RunBundleReader) {boards : Dict}
    (field : t.blackboards = .dict boards) (keyed : Keyed boards) (events : List Value) :
    ∃ next es, mergeChild env reader t events = .ok next ∧ next.threads = t.threads ∧
      next.mailboxes = t.mailboxes ∧ next.blackboards = .dict es ∧
      extendBoxes boards (captured env.display events).blackboards = .ok es := by
  have readable := readable_captured env.display events
  have update := fromRaw_capturedDelta env reader readable
  have copy : callCopy env t.toValue = .ok t.toValue := SubagentState.IsRecord.copy ⟨t, rfl⟩ env
  obtain ⟨es, extended, -, -⟩ := extendBoxes_items keyed readable.keyed
  have merges : mergeItems t.blackboards
      (.dict (captured env.display events).blackboards) extendBoxes =
        .ok (.dict es) := by
    rw [field, mergeItems_boxes, extended]
    rfl
  simp only [mergeChild, SubagentState.merged, update, copy, SubagentState.copied_toValue, merges,
    bind, Except.bind]
  exact ⟨_, es, rfl, rfl, rfl, rfl, extended⟩

/-! ### One step -/

section Step

variable {env : Env} {reader : RunBundleReader} {policy : SubagentPolicy} {t : SubagentState}
  {call : Call} {next : SubagentState}

theorem step_of_ok (performed : perform env reader policy t call = .ok next) :
    step env reader policy t call = next := by
  rw [step, performed]

theorem step_of_error {e : PyError} (raised : perform env reader policy t call = .error e) :
    step env reader policy t call = t := by
  rw [step, raised]

/-- A refused call leaves what held of the state. -/
theorem step_cases {p : SubagentState → Prop} (stays : p t)
    (moves : ∀ next, perform env reader policy t call = .ok next → p next) :
    p (step env reader policy t call) := by
  cases done : perform env reader policy t call with
  | error e => rwa [step_of_error done]
  | ok next =>
    rw [step_of_ok done]
    exact moves next done

/-- An append to the boxes of the state keeps them and their cap. -/
theorem appendMessage_ok {message : AgentMessage} (sound : Sound t)
    (sent : appendMessage policy t message = .ok next) :
    ∃ v, next = { t with mailboxes := v } ∧ (∃ es, v = .dict es ∧ Keyed es) ∧
      (BoxesWithin policy.maxMailboxMessages t.mailboxes →
        BoxesWithin policy.maxMailboxMessages v) := by
  obtain ⟨threads, field, -⟩ := sound.threads
  obtain ⟨boxes, mail, keyed⟩ := sound.mailboxes
  simp only [appendMessage, field, mail, dictItems, bind, Except.bind] at sent
  split at sent
  · cases sent
  · split at sent
    · cases sent
    · next v appends =>
        cases sent
        obtain ⟨boxes', within⟩ := appendWithin_ok keyed appends
        rw [mail]
        exact ⟨v, by rw [← field], boxes', within⟩

theorem appendBoardItem_ok {item : BlackboardItem} (sound : Sound t)
    (written : appendBoardItem policy t item = .ok next) :
    ∃ v, next = { t with blackboards := v } ∧ (∃ es, v = .dict es ∧ Keyed es) ∧
      (BoxesWithin policy.maxBoardItems t.blackboards → BoxesWithin policy.maxBoardItems v) := by
  obtain ⟨boxes, boards, keyed⟩ := sound.blackboards
  simp only [appendBoardItem, boards, bind, Except.bind] at written
  split at written
  · cases written
  · next v appends =>
      cases written
      obtain ⟨boxes', within⟩ := appendWithin_ok keyed appends
      rw [boards]
      exact ⟨v, rfl, boxes', within⟩

/-- Threads stay dictionaries with a text for a status, boxes stay lists. -/
theorem Sound.step (sound : Sound t) (call : Call) : Sound (step env reader policy t call) := by
  cases done : perform env reader policy t call with
  | error e => rwa [step_of_error done]
  | ok next =>
    rw [step_of_ok done]
    obtain ⟨threads, field, wellFormed⟩ := sound.threads
    cases call with
    | upsertThread record =>
      rw [perform, upsertThread_eq field wellFormed] at done
      split at done
      · cases done
      · cases done
        exact ⟨⟨_, rfl, wellFormed.set _ rfl rfl⟩, sound.mailboxes, sound.blackboards⟩
    | closeThread id reason =>
      obtain ⟨_, item, field', dict, status, rfl⟩ := closeThread_ok sound done
      rw [field] at field'
      cases field'
      have text : (item.get "status").isStr = true := by rw [status]; rfl
      exact ⟨⟨_, rfl, wellFormed.set _ dict text⟩, sound.mailboxes, sound.blackboards⟩
    | appendMessage message =>
      obtain ⟨v, rfl, boxes, -⟩ := appendMessage_ok sound done
      exact ⟨sound.threads, boxes, sound.blackboards⟩
    | appendBoardItem item =>
      obtain ⟨v, rfl, boxes, -⟩ := appendBoardItem_ok sound done
      exact ⟨sound.threads, sound.mailboxes, boxes⟩
    | mergeChild events =>
      obtain ⟨boards, held, keyed⟩ := sound.blackboards
      obtain ⟨_, es, merged, sameThreads, sameMail, new, extended⟩ :=
        mergeChild_ok env reader held keyed events
      cases merged.symm.trans done
      obtain ⟨_, extended', keyed', -⟩ :=
        extendBoxes_items keyed (readable_captured env.display events).keyed
      cases extended.symm.trans extended'
      exact ⟨by rw [sameThreads]; exact sound.threads, by rw [sameMail]; exact sound.mailboxes,
        ⟨es, new, keyed'⟩⟩

theorem mergeChild_boards {events : List Value} (sound : Sound t)
    (within : BoxesWithin policy.maxBoardItems t.blackboards)
    (merges : mergeChild env reader t events = .ok next) :
    BoxesWithin policy.maxBoardItems next.blackboards ↔
      KeepsCaps env.display policy t (.mergeChild events) := by
  obtain ⟨boards, field, keyed⟩ := sound.blackboards
  have readable := readable_captured env.display events
  obtain ⟨_, es, merged, -, -, new, extended⟩ := mergeChild_ok env reader field keyed events
  cases merged.symm.trans merges
  obtain ⟨_, extended', keyed', itemsOf, keysOf⟩ := extendBoxes_items keyed readable.keyed
  cases extended.symm.trans extended'
  rw [new, keyed'.within_iff, KeepsCaps, field, Value.entries_dict]
  rw [field, keyed.within_iff] at within
  have length : ∀ id, ((boxItems id es).length : Int) = (boxItems id boards).length +
      (boxItems id (captured env.display events).blackboards).length := by
    intro id
    rw [itemsOf, List.length_append]
    rfl
  constructor
  · intro fits id mem
    rw [← length]
    exact fits id ((keysOf id).mpr (.inr mem))
  · intro fits id mem
    by_cases wrote : id ∈ Assoc.keys (captured env.display events).blackboards
    · rw [length]
      exact fits id wrote
    · have nothing : boxItems id (captured env.display events).blackboards = [] := by
        rw [boxItems, Assoc.get_eq_none_iff.mpr wrote]
        rfl
      have before := (keysOf id).mp mem
      rw [length, nothing, List.length_nil]
      simpa using within id (before.resolve_right wrote)

/-- A step from a state within the caps stays within them exactly under `KeepsCaps`. -/
theorem withinCaps_step_iff (sound : Sound t) (within : WithinCaps policy t) (call : Call) :
    WithinCaps policy (step env reader policy t call) ↔ KeepsCaps env.display policy t call := by
  obtain ⟨openRoom, mailRoom, boardRoom⟩ := id within
  obtain ⟨threads, field, wellFormed⟩ := sound.threads
  cases call with
  | upsertThread record =>
    cases done : perform env reader policy t (.upsertThread record) with
    | ok next =>
      rw [step_of_ok done, KeepsCaps, ← upsertThread_threads sound openRoom done]
      rw [perform, upsertThread_eq field wellFormed] at done
      split at done
      · cases done
      · cases done
        exact ⟨fun within => within.threads, fun room => ⟨room, mailRoom, boardRoom⟩⟩
    | error e =>
      rw [step_of_error done]
      refine iff_of_true within ?_
      -- only a new thread is refused
      rintro - ⟨item, known, -⟩
      rw [perform, upsertThread_eq field wellFormed] at done
      split at done
      · next refused =>
          rw [field, Value.entries_dict] at known
          simp [Assoc.has, known] at refused
      · cases done
  | closeThread id reason =>
    refine iff_of_true (step_cases within fun next done => ?_) trivial
    have room := closeThread_threads sound openRoom done
    obtain ⟨_, _, -, -, -, rfl⟩ := closeThread_ok sound done
    exact ⟨room, mailRoom, boardRoom⟩
  | appendMessage message =>
    refine iff_of_true (step_cases within fun next done => ?_) trivial
    obtain ⟨v, rfl, -, room⟩ := appendMessage_ok sound done
    exact ⟨openRoom, room mailRoom, boardRoom⟩
  | appendBoardItem item =>
    refine iff_of_true (step_cases within fun next done => ?_) trivial
    obtain ⟨v, rfl, -, room⟩ := appendBoardItem_ok sound done
    exact ⟨openRoom, mailRoom, room boardRoom⟩
  | mergeChild events =>
    obtain ⟨boards, held, keyed⟩ := sound.blackboards
    obtain ⟨next, _, done, sameThreads, sameMail, -, -⟩ :=
      mergeChild_ok env reader held keyed events
    have merged : perform env reader policy t (.mergeChild events) = .ok next := done
    rw [step_of_ok merged, ← mergeChild_boards sound boardRoom done]
    constructor
    · exact fun within => within.boards
    · intro room
      constructor
      · rwa [openThreads, sameThreads]
      · rwa [sameMail]
      · exact room

end Step

/-! ### Runs -/

theorem withinCaps_empty_iff (policy : SubagentPolicy) :
    WithinCaps policy SubagentState.empty ↔ 0 ≤ policy.maxOpenThreads := by
  constructor
  · exact fun within => within.threads
  · intro room
    exact ⟨room, fun _ mem => absurd mem List.not_mem_nil, fun _ mem => absurd mem List.not_mem_nil⟩

/-- All states of a run from the empty one are within the caps iff the limit of open threads is
not negative and no step opens a finished thread again, or merges a child's boards, past a cap. -/
theorem caps_hold_iff (env : Env) (reader : RunBundleReader) (policy : SubagentPolicy)
    (calls : List Call) : (∀ t ∈ states env reader policy calls, WithinCaps policy t) ↔
      0 ≤ policy.maxOpenThreads ∧
        EachStep (step env reader policy) (KeepsCaps env.display policy) SubagentState.empty
          calls := by
  rw [states, forall_scanl_iff (I := Sound) (fun t call sound => sound.step call)
    (fun t call sound within => withinCaps_step_iff sound within call) sound_empty,
    withinCaps_empty_iff]

/-! ### Two runs past a cap -/

def workerThread (id status : String) : AgentThreadRecord where
  threadId := id
  agentId := "root." ++ id
  parentAgentId := "root"
  target := "worker"
  templateName := some "worker"
  mode := "thread"
  status := status
  sessionId := "session:" ++ id
  memoryNamespace := "memory:" ++ id
  lineage := ["root", "root." ++ id]
  createdIteration := 1
  lastActivityIteration := 1
  contextMode := "none"

def finding (id author : String) : BlackboardItem where
  itemId := id
  boardId := "default"
  authorAgentId := author
  kind := "finding"
  title := "Latest parser bug"
  content := "Latest details"
  tags := ["parser"]
  confidence := none
  refs := []
  createdIteration := 1

def wroteItem (item : BlackboardItem) : Value :=
  .dict
    [("type", .str "tool_result"), ("tool_name", .str "write_agent_board"),
      ("result", .dict [("mode", .str "agent_board_write"), ("status", .str "written"),
        ("board_id", .str item.boardId), ("item_id", .str item.itemId), ("item", item.toDict)])]

def onePolicy : SubagentPolicy := { maxOpenThreads := 1, maxBoardItems := 1 }

/-- The first thread is closed, another one takes its place, and the first is upserted again. -/
def reopening : List Call :=
  [.upsertThread (workerThread "thread-1" "idle"), .closeThread "thread-1" "done",
    .upsertThread (workerThread "thread-2" "idle"),
    .upsertThread (workerThread "thread-1" "running")]

/-- The board is full, and a child has written to it too. -/
def writingTwice : List Call :=
  [.appendBoardItem (finding "item-1" "root"),
    .mergeChild [wroteItem (finding "item-2" "root.worker.1")]]

/-- With room for one open thread two are open, and with room for one item a board holds two. -/
theorem caps_exceeded :
    (∃ t ∈ states SubagentState.reportEnv SubagentState.reportReader onePolicy reopening,
      openThreads t = 2 ∧ ¬ WithinCaps onePolicy t) ∧
    ∃ t ∈ states SubagentState.reportEnv SubagentState.reportReader onePolicy writingTwice,
      (boxItems "default" t.blackboards.entries).length = 2 ∧ ¬ WithinCaps onePolicy t := by
  constructor
  · refine ⟨(states reportEnv reportReader onePolicy reopening).get
      ⟨4, by decide⟩, List.get_mem _ _, by decide, ?_⟩
    intro within
    exact absurd within.threads (by decide)
  · refine ⟨(states reportEnv reportReader onePolicy writingTwice).get
      ⟨2, by decide⟩, List.get_mem _ _, by decide, ?_⟩
    intro within
    exact absurd (within.boards _ (List.mem_cons_self ..)) (by decide)

end Unchain.Subagents
