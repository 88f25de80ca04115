import Unchain.Subagents.Grouping
import Unchain.Lib.Quota

/-!
Threads, mailboxes and boards of subagents (`subagents/communication.py`), and what a parent takes
over from a child's boards (`_child_callback` in `subagents/plugin.py`).

Every operation copies the state it is given, so a call that raises leaves its caller with the
state it had.
-/

namespace Unchain.Subagents

open Kernel Python Lib Lib.Effect

/-- The caps of `SubagentPolicy`, as `int()` reads them. -/
structure SubagentPolicy where
  maxOpenThreads : Int := 10
  maxMailboxMessages : Int := 100
  maxBoardItems : Int := 200

structure AgentThreadRecord where
  threadId : String
  agentId : String
  parentAgentId : String
  target : String
  templateName : Option String
  mode : String
  status : String
  sessionId : String
  memoryNamespace : String
  lineage : List String
  createdIteration : Int
  lastActivityIteration : Int
  contextMode : String
  instructions : String := ""
  expectedOutput : String := ""
  closeReason : String := ""

structure AgentMessage where
  messageId : String
  senderAgentId : String
  recipientAgentId : String
  threadId : String
  kind : String
  content : String
  createdIteration : Int
  correlationId : Option String := none
  replyToMessageId : Option String := none
  requiresAck : Bool := false

structure BlackboardItem where
  itemId : String
  boardId : String
  authorAgentId : String
  kind : String
  title : String
  content : String
  tags : List String
  confidence : Option PyFloat
  refs : List String
  createdIteration : Int
  supersedesItemId : Option String := none
  createdAt : String := ""

def strOrNone : Option String → Value
  | some s => .str s
  | none => .none

def strList (xs : List String) : Value := .list (xs.map .str)

def AgentThreadRecord.toDict (r : AgentThreadRecord) : Value :=
  .dict
    [("thread_id", .str r.threadId), ("agent_id", .str r.agentId),
      ("parent_agent_id", .str r.parentAgentId), ("target", .str r.target),
      ("template_name", strOrNone r.templateName), ("mode", .str r.mode),
      ("status", .str r.status), ("session_id", .str r.sessionId),
      ("memory_namespace", .str r.memoryNamespace), ("lineage", strList r.lineage),
      ("created_iteration", .int r.createdIteration),
      ("last_activity_iteration", .int r.lastActivityIteration),
      ("context_mode", .str r.contextMode), ("instructions", .str r.instructions),
      ("expected_output", .str r.expectedOutput), ("close_reason", .str r.closeReason)]

def AgentMessage.toDict (m : AgentMessage) : Value :=
  .dict
    [("message_id", .str m.messageId), ("sender_agent_id", .str m.senderAgentId),
      ("recipient_agent_id", .str m.recipientAgentId), ("thread_id", .str m.threadId),
      ("kind", .str m.kind), ("content", .str m.content),
      ("created_iteration", .int m.createdIteration),
      ("correlation_id", strOrNone m.correlationId),
      ("reply_to_message_id", strOrNone m.replyToMessageId),
      ("requires_ack", .bool m.requiresAck)]

def BlackboardItem.toDict (i : BlackboardItem) : Value :=
  .dict
    [("item_id", .str i.itemId), ("board_id", .str i.boardId),
      ("author_agent_id", .str i.authorAgentId), ("kind", .str i.kind), ("title", .str i.title),
      ("content", .str i.content), ("tags", strList i.tags),
      ("confidence", (i.confidence.map Value.float).getD .none), ("refs", strList i.refs),
      ("created_iteration", .int i.createdIteration),
      ("supersedes_item_id", strOrNone i.supersedesItemId), ("created_at", .str i.createdAt)]

/-! ### Threads -/

/-- The statuses of a thread that does not count against the limit. -/
def finishedStatuses : List String := ["completed", "failed", "closed"]

/-- `status not in {"completed", "failed", "closed"}`: the lookup hashes the status. -/
def notFinished : Value → Except PyError Bool
  | .str s => .ok (!finishedStatuses.contains s)
  | .list _ => .error (.typeError "unhashable type: 'list'")
  | .dict _ => .error (.typeError "unhashable type: 'dict'")
  | _ => .ok true

/-- The dictionaries among the threads whose status is not finished. -/
def openCount : Dict → Except PyError Nat
  | [] => .ok 0
  | (_, item) :: rest => do
    let counts ← if item.isDict then notFinished (item.get "status") else .ok false
    return (← openCount rest) + counts.toNat

def upsertThread (policy : SubagentPolicy) (state : SubagentState) (record : AgentThreadRecord) :
    Except PyError SubagentState := do
  let threads ← SubagentState.dictItems state.threads
  let count ← openCount threads
  let isNew := !Assoc.has record.threadId threads
  let isOpenRecord := !finishedStatuses.contains record.status
  if isNew && isOpenRecord && decide (policy.maxOpenThreads ≤ count) then
    throw (.valueError "max_open_threads exceeded")
  return { state with threads := .dict (Assoc.set record.threadId record.toDict threads) }

def unknownThread (threadId : String) : PyError :=
  .valueError ("unknown agent thread: " ++ threadId)

def closeThread (state : SubagentState) (threadId reason : String) :
    Except PyError SubagentState := do
  let threads ← SubagentState.dictItems state.threads
  let raw := (Assoc.get threadId threads).getD .none
  if !raw.isDict then throw (unknownThread threadId)
  let updated := (raw.setKey "status" (.str "closed")).setKey "close_reason" (.str reason)
  return { state with threads := .dict (Assoc.set threadId updated threads) }

/-! ### Mailboxes and boards -/

/-- The items of a list that is appended to; other values have no `append`. -/
def appended : Value → Except PyError (List Value)
  | .list items => .ok items
  | _ => .error (.attributeError "object has no attribute 'append'")

/-- `boxes.setdefault(key, [])`, then `append(item)` while the box has fewer than `limit` items. -/
def appendWithin (limit : Int) (message : String) (boxes : Value) (key : String) (item : Value) :
    Except PyError Value := do
  let current ← SubagentState.dictItems boxes
  let items ← appended ((Assoc.get key current).getD (.list []))
  if limit ≤ items.length then throw (.valueError message)
  return .dict (Assoc.set key (.list (items ++ [item])) current)

def appendMessage (policy : SubagentPolicy) (state : SubagentState) (message : AgentMessage) :
    Except PyError SubagentState := do
  let threads ← SubagentState.dictItems state.threads
  if message.threadId = "" || !Assoc.has message.threadId threads then
    throw (unknownThread message.threadId)
  return { state with
    mailboxes := ← appendWithin policy.maxMailboxMessages "max_mailbox_messages exceeded"
      state.mailboxes message.recipientAgentId message.toDict }

def appendBoardItem (policy : SubagentPolicy) (state : SubagentState) (item : BlackboardItem) :
    Except PyError SubagentState := do
  return { state with
    blackboards := ← appendWithin policy.maxBoardItems "max_board_items exceeded"
      state.blackboards item.boardId item.toDict }

/-! ### The boards of a child -/

/-- `captured_state.blackboards` and `captured_item_ids` while a child runs. -/
structure Captured where
  blackboards : Dict := []
  itemIds : List String := []

def reportsItem (event : Value) : Bool :=
  let result := event.get "result"
  event.isDict && event.get "type" = .str "tool_result"
    && event.get "tool_name" = .str "write_agent_board" && result.isDict
    && result.get "mode" = .str "agent_board_write" && result.get "status" = .str "written"
    && (result.get "item").isDict

/-- `_child_callback` on an event that reaches it: an item is taken once, unless it has no id. -/
def childCallback (display : Display) (captured : Captured) (event : Value) : Captured :=
  if reportsItem event then
    let item := (event.get "result").get "item"
    let itemId := ((item.get "item_id").or (.str "")).toStr display
    if itemId = "" || !captured.itemIds.contains itemId then
      let boardId := ((item.get "board_id").or (.str "default")).toStr display
      let board := ((Assoc.get boardId captured.blackboards).getD (.list [])).items
      { blackboards := Assoc.set boardId (.list (board ++ [item])) captured.blackboards
        itemIds := if itemId = "" then captured.itemIds else itemId :: captured.itemIds }
    else captured
  else captured

def captured (display : Display) (events : List Value) : Captured :=
  events.foldl (childCallback display) {}

/-- `_captured_delta`. -/
def capturedDelta (captured : Captured) : Dict :=
  if captured.blackboards = [] then [] else [("blackboards", .dict captured.blackboards)]

def mergeChild (env : Env) (reader : RunBundleReader) (state : SubagentState)
    (events : List Value) : Except PyError SubagentState :=
  SubagentState.merged env reader state.toValue
    (.dict (capturedDelta (captured env.display events)))

/-! ### Runs -/

inductive Call where
  | upsertThread (record : AgentThreadRecord)
  | closeThread (threadId reason : String)
  | appendMessage (message : AgentMessage)
  | appendBoardItem (item : BlackboardItem)
  | mergeChild (events : List Value)

variable (env : Env) (reader : RunBundleReader) (policy : SubagentPolicy)

def perform (state : SubagentState) :
    Call → Except PyError SubagentState
  | .upsertThread record => upsertThread policy state record
  | .closeThread threadId reason => closeThread state threadId reason
  | .appendMessage message => appendMessage policy state message
  | .appendBoardItem item => appendBoardItem policy state item
  | .mergeChild events => mergeChild env reader state events

/-- The state the caller goes on with. -/
def step (state : SubagentState) (call : Call) : SubagentState :=
  match perform env reader policy state call with
  | .ok next => next
  | .error _ => state

def states (calls : List Call) : List SubagentState :=
  calls.scanl (step env reader policy) SubagentState.empty

end Unchain.Subagents
