import Mathlib.Data.Prod.Lex
import Mathlib.Data.String.Basic
import Unchain.Lib.Bisection
import Unchain.Lib.Passes
import Unchain.Lib.Settle
import Unchain.Lib.SortedBy
import Unchain.Python.Json

/-!
The budget that the results of a tool batch are held to.

The controller finds the payloads of tool results in the provider's messages, gives each one a
size, and shrinks them: first every payload that is too large by itself, then, while the batch is
over its bound, the largest ones in passes. A payload is shrunk by its tool's own optimizer, which
is asked once, or replaced by a compaction that keeps a preview and the small fields of the
original. Payloads that are not shrunk stay in the message as they were written.

Values are trees, so a deep copy changes nothing and no two places share one. The names of a
dictionary are texts and distinct, so the canonical form never has to number a repeated name. The
interpreter's recursion limit is left out.
-/

namespace Unchain.Tools.ResultBudget

open Lib Python

/-- The parts of the runtime that the controller uses: the text of a float and of `str()`, the text
that stands for an instance in a canonical form (`f"{module}.{qualname}:{repr}"`), the value of a
JSON number, the hexadecimal SHA-1 of a text and `str.lower`. -/
structure BudgetHost where
  display : Display
  foreign : ClassName → Dict → String
  parseFloat : List Char → PyFloat
  sha1 : String → String
  lower : String → String

structure ToolResultBudgetConfig where
  maxResultChars : Int
  maxBatchChars : Int
  previewChars : Int
  minCharsToBudget : Int

def ToolResultBudgetConfig.default : ToolResultBudgetConfig :=
  ⟨4000, 16000, 600, 1200⟩

/-- `from_raw`: the fields of a dictionary, each with its default and its minimum. -/
def ToolResultBudgetConfig.fromRaw : Value → Except PyError ToolResultBudgetConfig
  | .dict entries => do
    let maxResultChars ← intField entries "max_result_chars" default.maxResultChars 1
    let maxBatchChars ← intField entries "max_batch_chars" default.maxBatchChars 1
    let previewChars ← intField entries "preview_chars" default.previewChars 0
    let minCharsToBudget ← intField entries "min_chars_to_budget" default.minCharsToBudget 0
    return ⟨maxResultChars, maxBatchChars, previewChars, minCharsToBudget⟩
  | _ => .ok default
where
  -- `int()` of an infinite float raises an `OverflowError`, which is not caught
  intField (entries : Dict) (name : String) (fallback minimum : Int) : Except PyError Int :=
    match (((Assoc.get name entries).getD (.int fallback)).toInt : Except PyError Int) with
    | .ok parsed => .ok (max minimum parsed)
    | .error (.typeError _) => .ok (max minimum fallback)
    | .error (.valueError _) => .ok (max minimum fallback)
    | .error e => .error e

structure ToolResultBudgetStats where
  resultCount : Nat
  compactedCount : Nat
  optimizerErrorCount : Nat
  originalChars : Nat
  budgetedChars : Nat
  savedChars : Nat

structure ToolResultBudgetOutcome where
  messages : List Value
  stats : ToolResultBudgetStats

/-! ### Canonical texts and sizes -/

/-- `sys.maxsize`: no text is longer. -/
def maxSize : Nat := 2 ^ 63 - 1

/-- `len(text)`. -/
def textLen (text : List Char) : Nat := min text.length maxSize

section Payloads

variable (host : BudgetHost)

/-- An instance stands as a text in a canonical form; `json.dumps` writes the special floats. -/
def canonicalFallback : Fallback
  | .obj cls attrs => .ok (.str (host.foreign cls attrs).toList)
  | v => writeText host.display v

/-- `type(value).__qualname__`. -/
def typeName : Value → String
  | .none => "NoneType"
  | .bool _ => "bool"
  | .int _ => "int"
  | .float _ => "float"
  | .str _ => "str"
  | .list _ => "list"
  | .dict _ => "dict"
  | .obj _ _ => "object"

/-- The text of a value that `json.dumps` raises on. It raises on an integer with too many digits,
and the `repr` of what holds one raises as well. -/
def unwritableText (v : Value) : List Char :=
  Json.quote ("builtins.".toList ++ (typeName v).toList ++ ":<builtins.".toList
    ++ (typeName v).toList ++ ">".toList)

/-- `_stable_json_dumps`. -/
def stableJsonDumps (v : Value) : List Char :=
  match v.toJson host.display (canonicalFallback host) with
  | .ok json => json.canonical
  | .error _ => unwritableText v

/-- How a payload is written in its message. -/
inductive PayloadFormat where
  | native
  | rawString
  | jsonString
deriving Inhabited

mutual

/-- No integer of the text has more digits than `int()` reads. -/
def readable : Json → Bool
  | .int n => decide (Printable n)
  | .arr items => readableItems items
  | .obj members => readableMembers members
  | _ => true

def readableItems : List Json → Bool
  | [] => true
  | item :: items => readable item && readableItems items

def readableMembers : List (List Char × Json) → Bool
  | [] => true
  | (_, value) :: members => readable value && readableMembers members

end

/-- `json.loads`. -/
def jsonLoads (text : String) : Option Value :=
  match Json.read text.toList with
  | some json => if readable json then some (Value.ofJson host.parseFloat json) else none
  | none => none

/-- `_normalize_payload`. -/
def normalizePayload : Value → Value × PayloadFormat
  | .str s =>
    if (strip s).toList.head? = some '[' ∨ (strip s).toList.head? = some '\x7b' then
      match jsonLoads host (strip s) with
      | some (.dict entries) => (.dict entries, .jsonString)
      | some (.list items) => (.list items, .jsonString)
      | _ => (.str s, .rawString)
    else (.str s, .rawString)
  | v => (v, .native)

variable (payload : Value)

/-- `_serialize_payload`. -/
def serializePayload : PayloadFormat → Value
  | .jsonString => .str (String.ofList (stableJsonDumps host payload))
  | .rawString =>
    match payload with
    | .str s => .str s
    | v => .str (String.ofList (stableJsonDumps host v))
  | .native =>
    match payload with
    | .dict entries => .dict entries
    | v => .dict [("value", v)]

def valueChars : Value → Nat
  | .str s => textLen s.toList
  | v => textLen (stableJsonDumps host v)

/-- `_payload_chars`. -/
def payloadChars (payloadFormat : PayloadFormat) : Nat :=
  valueChars host (serializePayload host payload payloadFormat)

/-- `_budgeted_chars`. -/
def budgetedChars : Nat := textLen (stableJsonDumps host payload)

/-! ### Compaction -/

/-- `_preview_text`. -/
def previewText (text : List Char) (previewChars : Int) : List Char :=
  let limit := previewChars.toNat
  if limit = 0 then []
  else if textLen text ≤ limit * 2 then text
  else
    let head := text.take limit
    let tail := text.drop (text.length - limit)
    head ++ "\n... <omitted ".toList ++ Json.natText (textLen text - head.length - tail.length)
      ++ " chars> ...\n".toList ++ tail

/-- `isinstance(value, (str, int, float, bool)) or value is None`. -/
def isScalar : Value → Bool
  | .list _ => false
  | .dict _ => false
  | .obj _ _ => false
  | _ => true

/-- The fields that may be retained, the smallest first. -/
def scalarFields (entries : Dict) : Dict :=
  sortedBy (fun field => toLex (budgetedChars host (.dict [field]), field.1))
    (entries.filter fun field => isScalar field.2)

/-- Take each field that still fits. -/
def retainWithin (maxChars : Int) : (retained : Dict) → (candidates : Dict) → Dict
  | retained, [] => retained
  | retained, (key, value) :: candidates =>
    let candidate := Assoc.set key value retained
    if (budgetedChars host (.dict candidate) : Int) ≤ maxChars then
      retainWithin maxChars candidate candidates
    else retainWithin maxChars retained candidates

/-- `_retained_scalar_fields`. -/
def retainedScalarFields (maxChars : Int) : Dict :=
  match payload with
  | .dict entries =>
    if maxChars ≤ 0 then [] else retainWithin host maxChars [] (scalarFields host entries)
  | _ => []

/-- The fields of a compaction that come before its own size. -/
def compactedHead (reason toolName callId : String) (originalJson : List Char) : Dict :=
  [("compacted", .bool true), ("reason", .str reason), ("tool_name", .str toolName),
    ("call_id", .str callId), ("original_chars", .int (textLen originalJson))]

/-- The fields that come after it. -/
def compactedTail (originalJson : List Char) (previewChars : Int) : Dict :=
  let retainedFields := retainedScalarFields host payload (max 0 previewChars)
  [("preview", .str (String.ofList (previewText originalJson previewChars))),
    ("original_sha1", .str (host.sha1 (String.ofList originalJson)))]
    ++ if retainedFields.isEmpty then [] else [("retained_fields", .dict retainedFields)]

/-- A compaction that states a size. -/
def compactedFields (reason toolName callId : String) (previewChars : Int) (size : Nat) : Dict :=
  let originalJson := stableJsonDumps host payload
  compactedHead reason toolName callId originalJson ++ ("budgeted_chars", .int size) ::
    compactedTail host payload originalJson previewChars

def settleRounds : Nat := 32

def settledSize (reason toolName callId : String) (previewChars : Int) : Option Nat :=
  settle
    (fun size => budgetedChars host
      (.dict (compactedFields host payload reason toolName callId previewChars size)))
    settleRounds 0 none

/-- `_compact_payload`. -/
def compactPayload (reason toolName callId : String) (previewChars : Int) : Value :=
  .dict (compactedFields host payload reason toolName callId previewChars
    ((settledSize host payload reason toolName callId previewChars).getD 0))

end Payloads

/-! ### Records -/

/-- Where in its message a payload is. `richPreservedBlocks` holds the blocks of a block array that
are not text: only the text is budgeted, and these are kept as they are. -/
inductive Location where
  | openaiFunctionCallOutput
  | contentBlockToolResult (blockIndex : Nat) (richPreservedBlocks : Option (List Value))
  | roleToolContent
  | partsFunctionResponse (partIndex : Nat)
deriving Inhabited

structure ResultRecord where
  messageIndex : Nat
  location : Location
  toolName : String
  callId : String
  payload : Value
  payloadFormat : PayloadFormat
  originalChars : Nat
deriving Inhabited

section Compaction

variable (host : BudgetHost)

variable (record : ResultRecord) (reason : String)

/-- `_compact_payload` of a record, as the controller calls it. -/
def ResultRecord.compact (previewChars : Int) : Value :=
  compactPayload host record.payload reason record.toolName record.callId previewChars

/-- What a payload takes when it is written as the record's. -/
def ResultRecord.chars (record : ResultRecord) (payload : Value) : Nat :=
  payloadChars host payload record.payloadFormat

/-- The compaction without a preview. -/
def ResultRecord.minimal : Value :=
  record.compact host reason 0

/-- Whether the compaction with a preview of this size fits. -/
def ResultRecord.fits (targetChars : Int) (previewChars : Nat) : Bool :=
  decide ((record.chars host (record.compact host reason previewChars) : Int) ≤ targetChars)

/-- The preview size of `best` when the search ends. -/
def ResultRecord.bestPreview (previewChars : Int) (targetChars : Int) : Nat :=
  bisect (record.fits host reason targetChars) 0 0 (previewChars.toNat + 1)

/-- `_compact_payload_for_target`. -/
def compactPayloadForTarget (previewChars : Int) (targetChars : Option Int) : Value :=
  match targetChars with
  | none => record.compact host reason previewChars.toNat
  | some targetChars =>
    if (record.chars host (record.minimal host reason) : Int) > targetChars then
      record.minimal host reason
    else record.compact host reason (record.bestPreview host reason previewChars targetChars)

end Compaction

end Unchain.Tools.ResultBudget
