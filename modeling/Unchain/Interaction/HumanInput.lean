import Unchain.Interaction.StrictJson

/-!
Human input requests and their responses (`input/human_input.py`).

A request is read from the arguments of the tool that asks; a response is read against the request
it answers.
-/

namespace Unchain.Interaction

open Lib Lib.Effect Python

/-- `HUMAN_INPUT_OTHER_VALUE`. -/
def humanInputOtherValue : String := "__other__"

/-- `HUMAN_INPUT_KIND_SELECTOR`. -/
def humanInputKindSelector : String := "selector"

/-- `_HUMAN_INPUT_ARGUMENT_KEYS`. -/
def humanInputArgumentKeys : List String :=
  ["title", "question", "selection_mode", "options", "allow_other", "other_label",
    "other_placeholder", "min_selected", "max_selected"]

/-- `_HUMAN_INPUT_OPTION_KEYS`. -/
def humanInputOptionKeys : List String := ["label", "value", "description"]

inductive SelectionMode where
  | single | multiple
deriving DecidableEq

def SelectionMode.text : SelectionMode → String
  | .single => "single"
  | .multiple => "multiple"

structure HumanInputOption where
  label : String
  value : String
  description : String

structure HumanInputRequest where
  requestId : String
  kind : String
  title : String
  question : String
  selectionMode : SelectionMode
  options : List HumanInputOption
  allowOther : Bool
  otherLabel : String
  otherPlaceholder : String
  minSelected : Int
  maxSelected : Int

structure HumanInputResponse where
  requestId : String
  selectedValues : List String
  otherText : Option String

/-! ### Field checks -/

/-- `_clean_required_text`. -/
def cleanRequiredText (fieldName : String) : Value → Except PyError String
  | .str s =>
    if (strip s).isEmpty then .error (.valueError (fieldName ++ " must be a non-empty string"))
    else .ok (strip s)
  | _ => .error (.valueError (fieldName ++ " must be a non-empty string"))

/-- `_clean_optional_text`. -/
def cleanOptionalText : Value → Except PyError String
  | .none => .ok ""
  | .str s => .ok s
  | _ => .error (.valueError "optional text fields must be strings when provided")

/-- `_clean_optional_int`. -/
def cleanOptionalInt (fieldName : String) : Value → Except PyError (Option Int)
  | .none => .ok none
  | .int n => .ok (some n)
  | _ => .error (.valueError (fieldName ++ " must be an integer when provided"))

def listed (host : InteractionHost) (names : List String) : String :=
  host.repr (.list (names.map .str))

/-- The keys of a dictionary that are not among the given ones, sorted. -/
def unknownKeys (es : Dict) (keys : List String) : List String :=
  sortedBy String.toList ((Assoc.keys es).filter fun key => decide (key ∉ keys)).dedup

section Requests

variable (host : InteractionHost)

/-- `HumanInputOption.from_raw`. -/
def HumanInputOption.fromRaw : Value → Except PyError HumanInputOption
  | .dict es => do
    raiseIf (!(unknownKeys es humanInputOptionKeys).isEmpty)
      (.valueError ("unknown option field(s): "
        ++ listed host (unknownKeys es humanInputOptionKeys)))
    let label ← cleanRequiredText "option.label" ((Value.dict es).get "label")
    let value ← cleanRequiredText "option.value" ((Value.dict es).get "value")
    let description ← cleanOptionalText ((Value.dict es).getD "description" (.str ""))
    raiseIf (value = humanInputOtherValue)
      (.valueError ("option.value cannot use reserved value '" ++ humanInputOtherValue ++ "'"))
    return { label, value, description }
  | _ => .error (.valueError "each selector option must be an object")

def readSelectionMode : Value → Except PyError SelectionMode
  | .str s =>
    if s = "single" then .ok .single
    else if s = "multiple" then .ok .multiple
    else .error (.valueError "selection_mode must be 'single' or 'multiple'")
  | _ => .error (.valueError "selection_mode must be 'single' or 'multiple'")

def readBoolean (fieldName : String) : Value → Except PyError Bool
  | .bool b => .ok b
  | _ => .error (.valueError (fieldName ++ " must be a boolean"))

def readOptions : Value → Except PyError (List Value)
  | .list items => .ok items
  | _ => .error (.valueError "options must be an array")

def checkDistinct : (seen : List String) → List HumanInputOption → Except PyError Unit
  | _, [] => .ok ()
  | seen, option :: options => do
    raiseIf (decide (option.value ∈ seen))
      (.valueError ("duplicate option value: " ++ option.value))
    checkDistinct (option.value :: seen) options

def checkSingle (minSelected maxSelected : Int) : Except PyError Unit := do
  raiseIf (minSelected ≠ 0 ∧ minSelected ≠ 1)
    (.valueError "single selection mode only supports min_selected of 0 or 1")
  raiseIf (maxSelected ≠ 1)
    (.valueError "single selection mode requires max_selected to be 1")

def readBounds (mode : SelectionMode) (allowedTotal : Int) (minSelected maxSelected : Option Int) :
    Except PyError (Int × Int) := do
  let low := minSelected.getD 1
  let high := maxSelected.getD (if mode = .single then 1 else allowedTotal)
  if mode = .single then checkSingle low high else .ok ()
  raiseIf (low < 0) (.valueError "min_selected must be >= 0")
  raiseIf (high < 1) (.valueError "max_selected must be >= 1")
  raiseIf (low > high) (.valueError "min_selected cannot be greater than max_selected")
  raiseIf (high > allowedTotal)
    (.valueError "max_selected cannot exceed the total number of available selections")
  return (low, high)

/-- `HumanInputRequest.from_tool_arguments` on arguments that are an object. -/
def HumanInputRequest.fromToolArguments (es : Dict) (requestId : String) :
    Except PyError HumanInputRequest := do
  let raw := Value.dict es
  raiseIf (!(unknownKeys es humanInputArgumentKeys).isEmpty)
    (.valueError ("unknown argument field(s): "
      ++ listed host (unknownKeys es humanInputArgumentKeys)))
  let title ← cleanRequiredText "title" (raw.get "title")
  let question ← cleanRequiredText "question" (raw.get "question")
  let selectionMode ← readSelectionMode (raw.get "selection_mode")
  let allowOther ← readBoolean "allow_other" (raw.getD "allow_other" (.bool false))
  let rawOptions ← readOptions (raw.get "options")
  raiseIf (rawOptions.isEmpty && !allowOther)
    (.valueError "options must be a non-empty array unless allow_other is true")
  let options ← rawOptions.mapM (HumanInputOption.fromRaw host)
  checkDistinct [] options
  let otherLabel ← cleanOptionalText (raw.getD "other_label" (.str "Other"))
  let otherPlaceholder ← cleanOptionalText (raw.getD "other_placeholder" (.str ""))
  let minSelected ← cleanOptionalInt "min_selected" (raw.get "min_selected")
  let maxSelected ← cleanOptionalInt "max_selected" (raw.get "max_selected")
  let allowedTotal : Int := options.length + if allowOther then 1 else 0
  let (minSelected, maxSelected) ← readBounds selectionMode allowedTotal minSelected maxSelected
  return { requestId, kind := humanInputKindSelector, title, question, selectionMode, options,
           allowOther, otherLabel := if otherLabel.isEmpty then "Other" else otherLabel,
           otherPlaceholder, minSelected, maxSelected }

/-- `HumanInputRequest.from_dict`. -/
def HumanInputRequest.fromDict : Value → Except PyError HumanInputRequest
  | .dict es => do
    let raw := Value.dict es
    let requestId ← cleanRequiredText "request_id" (raw.get "request_id")
    raiseIf (!(raw.get "kind").eqPy (.str humanInputKindSelector))
      (.valueError "human input request kind must be 'selector'")
    HumanInputRequest.fromToolArguments host
      [("title", raw.get "title"), ("question", raw.get "question"),
        ("selection_mode", raw.get "selection_mode"), ("options", raw.get "options"),
        ("allow_other", raw.getD "allow_other" (.bool false)),
        ("other_label", raw.getD "other_label" (.str "Other")),
        ("other_placeholder", raw.getD "other_placeholder" (.str "")),
        ("min_selected", raw.get "min_selected"), ("max_selected", raw.get "max_selected")]
      requestId
  | _ => .error (.valueError "human input request must be an object")

end Requests

def HumanInputOption.toDict (o : HumanInputOption) : Value :=
  .dict [("label", .str o.label), ("value", .str o.value), ("description", .str o.description)]

def HumanInputRequest.toDict (r : HumanInputRequest) : Value :=
  .dict [("request_id", .str r.requestId), ("kind", .str r.kind), ("title", .str r.title),
    ("question", .str r.question), ("selection_mode", .str r.selectionMode.text),
    ("options", .list (r.options.map HumanInputOption.toDict)),
    ("allow_other", .bool r.allowOther), ("other_label", .str r.otherLabel),
    ("other_placeholder", .str r.otherPlaceholder), ("min_selected", .int r.minSelected),
    ("max_selected", .int r.maxSelected)]

/-- `allowed_values`. -/
def HumanInputRequest.allowedValues (r : HumanInputRequest) : List String :=
  r.options.map HumanInputOption.value ++ if r.allowOther then [humanInputOtherValue] else []

/-! ### Responses -/

/-- The strings of `selected_values`, stripped and without repetition. -/
def readSelected : (seen : List String) → List Value → Except PyError (List String)
  | _, [] => .ok []
  | seen, .str s :: vs => do
    raiseIf (strip s).isEmpty (.valueError "selected_values must contain non-empty strings")
    raiseIf (decide (strip s ∈ seen)) (.valueError ("duplicate selected value: " ++ strip s))
    let rest ← readSelected (strip s :: seen) vs
    return strip s :: rest
  | _, _ :: _ => .error (.valueError "selected_values must contain non-empty strings")

def readArray : Value → Except PyError (List Value)
  | .list items => .ok items
  | _ => .error (.valueError "selected_values must be an array")

/-- `other_text`: a blank one counts as none. -/
def readOtherText : Value → Except PyError (Option String)
  | .none => .ok none
  | .str s => .ok (if (strip s).isEmpty then none else some (strip s))
  | _ => .error (.valueError "other_text must be a string when provided")

def checkOther (request : HumanInputRequest) (selected : List String) (otherText : Option String) :
    Except PyError Unit :=
  if humanInputOtherValue ∈ selected then do
    raiseIf (!request.allowOther)
      (.valueError "other selection is not allowed for this request")
    raiseIf otherText.isNone
      (.valueError "other_text is required when '__other__' is selected")
  else raiseIf otherText.isSome
    (.valueError "other_text can only be provided when '__other__' is selected")

/-- `HumanInputResponse.from_raw`. -/
def HumanInputResponse.fromRaw (host : InteractionHost) (request : HumanInputRequest) :
    Value → Except PyError HumanInputResponse
  | .dict es => do
    let raw := Value.dict es
    let requestId ← cleanRequiredText "request_id" (raw.get "request_id")
    raiseIf (requestId ≠ request.requestId)
      (.valueError "human input response request_id does not match the pending request")
    let items ← readArray (raw.get "selected_values")
    let selectedValues ← readSelected [] items
    raiseIf (selectedValues.length < request.minSelected)
      (.valueError ("selected_values must contain at least " ++ toString request.minSelected
        ++ " item(s)"))
    raiseIf (request.maxSelected ≠ 0 && request.maxSelected < selectedValues.length)
      (.valueError ("selected_values cannot contain more than " ++ toString request.maxSelected
        ++ " item(s)"))
    let invalid := selectedValues.filter fun v => decide (v ∉ request.allowedValues)
    raiseIf (!invalid.isEmpty)
      (.valueError ("selected_values contains unsupported option(s): " ++ listed host invalid))
    let otherText ← readOtherText (raw.get "other_text")
    checkOther request selectedValues otherText
    return { requestId, selectedValues, otherText }
  | _ => .error (.valueError "human input response must be an object")

def HumanInputResponse.toDict (r : HumanInputResponse) : Value :=
  .dict [("request_id", .str r.requestId), ("selected_values", .list (r.selectedValues.map .str)),
    ("other_text", (r.otherText.map Value.str).getD .none)]

end Unchain.Interaction
