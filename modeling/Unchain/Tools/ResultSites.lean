import Unchain.Lib.Slots
import Unchain.Tools.ResultRecords

/-!
Where the payloads of tool results stand, and what is read there.

A site is a message and a position in it. The sites of a batch lie apart from each other, unless a
message of a tool also holds result blocks in a block array (`sites_apart`): such a message holds the
same payloads twice. What is written at one site is read there and does not show at the others
(`slots_messages`).
-/

namespace Unchain.Tools.ResultBudget

open Lib Python
open Value (get_setKey_of_ne get_setKey_self isDict_setKey)

/-! ### Positions in a message -/

inductive Position where
  | output
  | block (blockIndex : Nat)
  | content
  | part (partIndex : Nat)

namespace Position

/-- Neither position lies within the other. -/
def Apart : Position → Position → Prop
  | .output, .output => False
  | .content, .content => False
  | .block i, .block j => i ≠ j
  | .part i, .part j => i ≠ j
  | .block _, .content => False
  | .content, .block _ => False
  | _, _ => True

theorem Apart.symm {p q : Position} (h : Apart p q) : Apart q p := by
  cases p <;> cases q <;> first | exact h | exact Ne.symm h

end Position

def Location.position : Location → Position
  | .openaiFunctionCallOutput => .output
  | .contentBlockToolResult blockIndex _ => .block blockIndex
  | .roleToolContent => .content
  | .partsFunctionResponse partIndex => .part partIndex

/-- What a dictionary holds under a name, with a default. -/
def field (v : Value) (name : String) (default : Value) : Option Value :=
  if v.isDict then some (v.getD name default) else none

def readAt (message : Value) : Position → Option Value
  | .output => field message "output" (.str "")
  | .block blockIndex =>
    match message.get "content" with
    | .list blocks => blocks[blockIndex]?.bind fun block => field block "content" (.str "")
    | _ => none
  | .content => field message "content" (.str "")
  | .part partIndex =>
    match message.get "parts" with
    | .list parts => parts[partIndex]?.bind fun part =>
      if part.isDict then field (part.get "function_response") "response" (.dict []) else none
    | _ => none

/-- What is read at a location after a value was written there. -/
def shownAt (host : BudgetHost) (location : Location) (serialized : Value) : Value :=
  match location with
  | .contentBlockToolResult _ richPreservedBlocks => blockContent host serialized richPreservedBlocks
  | _ => serialized

variable {name : String} {v : Value} {x : Value}

theorem field_setKey_self {default : Value} (there : (field v name default).isSome) :
    field (v.setKey name x) name default = some x := by
  unfold field at there ⊢
  split at there
  · rename_i dict
    rw [isDict_setKey, if_pos dict, Value.getD_setKey_self dict]
  · cases there

variable {key : String}

theorem field_setKey_of_ne (ne : name ≠ key) (default : Value) :
    field (v.setKey key x) name default = field v name default := by
  unfold field
  rw [isDict_setKey, Value.getD_setKey_of_ne ne]

variable {w : Value}

theorem isDict_of_get (get : v.get name = w) (some : w ≠ .none) : v.isDict = true := by
  cases v with
  | dict es => rfl
  | _ => exact absurd get.symm some

variable {index : Nat} {x : Value} {xs : List Value}

theorem getElem?_modify_self (f : Value → Value) (here : xs[index]? = some x) :
    (xs.modify index f)[index]? = some (f x) := by
  rw [List.getElem?_modify, here]
  simp

theorem getElem?_modify_of_ne {other : Nat} (f : Value → Value) (ne : index ≠ other) :
    (xs.modify index f)[other]? = xs[other]? := by
  simp [ne]

variable {host : BudgetHost} {location : Location} {message serialized : Value}

theorem readAt_writeAt_self (there : (readAt message location.position).isSome) :
    readAt (writeAt host serialized message location) location.position =
      some (shownAt host location serialized) := by
  cases location with
  | openaiFunctionCallOutput | roleToolContent => exact field_setKey_self there
  | contentBlockToolResult blockIndex rich =>
    cases content : message.get "content" with
    | list blocks =>
      simp only [Location.position, readAt, content] at there
      cases here : blocks[blockIndex]? with
      | none =>
        rw [here] at there
        cases there
      | some block =>
        rw [here] at there
        have dict := isDict_of_get content (by simp)
        simp only [Location.position, writeAt, content, readAt, get_setKey_self dict,
          getElem?_modify_self _ here]
        exact field_setKey_self there
    | _ =>
      simp only [Location.position, readAt, content] at there
      cases there
  | partsFunctionResponse partIndex =>
    cases holds : message.get "parts" with
    | list parts =>
      simp only [Location.position, readAt, holds] at there
      cases here : parts[partIndex]? with
      | none =>
        rw [here] at there
        cases there
      | some part =>
        rw [here, Option.bind_some] at there
        split at there
        · rename_i dictPart
          have dict := isDict_of_get holds (by simp)
          cases response : part.get "function_response" with
          | dict entries =>
            rw [response] at there
            simp only [Location.position, writeAt, holds, readAt, get_setKey_self dict,
              getElem?_modify_self _ here, response, Option.bind_some]
            rw [isDict_setKey, if_pos dictPart, get_setKey_self dictPart]
            exact field_setKey_self there
          | _ =>
            rw [response] at there
            cases there
        · cases there
    | _ =>
      simp only [Location.position, readAt, holds] at there
      cases there

variable {position : Position}

theorem readAt_writeAt_of_apart (serialized : Value) (apart : location.position.Apart position) :
    readAt (writeAt host serialized message location) position = readAt message position := by
  have keyed {key : String} (x : Value) (output : key ≠ "output" ∨ position ≠ .output)
      (content : key ≠ "content" ∨ (position ≠ .content ∧ ∀ i, position ≠ .block i))
      (parts : key ≠ "parts" ∨ ∀ i, position ≠ .part i) :
      readAt (message.setKey key x) position = readAt message position := by
    cases position with
    | output =>
      exact field_setKey_of_ne (Ne.symm (output.resolve_right fun ne => ne rfl)) _
    | content =>
      exact field_setKey_of_ne (Ne.symm (content.resolve_right fun ne => ne.1 rfl)) _
    | block i =>
      have ne := content.resolve_right fun ne => ne.2 i rfl
      simp only [readAt, get_setKey_of_ne ne.symm]
    | part i =>
      have ne := parts.resolve_right fun ne => ne i rfl
      simp only [readAt, get_setKey_of_ne ne.symm]
  cases location with
  | openaiFunctionCallOutput =>
    refine keyed serialized (.inr fun eq => ?_) (.inl (by decide)) (.inl (by decide))
    rw [eq] at apart
    exact apart
  | roleToolContent =>
    refine keyed serialized (.inl (by decide)) (.inr ⟨fun eq => ?_, fun i eq => ?_⟩)
      (.inl (by decide))
    · rw [eq] at apart
      exact apart
    · rw [eq] at apart
      exact apart
  | contentBlockToolResult blockIndex rich =>
    cases content : message.get "content" with
    | list blocks =>
      simp only [writeAt, content]
      cases position with
      | block other =>
        have dict := isDict_of_get content (by simp)
        simp only [readAt, get_setKey_self dict, content, getElem?_modify_of_ne _ apart]
      | content => exact absurd apart fun h => h
      | output | part i =>
        exact keyed _ (.inl (by decide)) (.inr ⟨by simp, by simp⟩) (.inl (by decide))
    | _ => simp only [writeAt, content]
  | partsFunctionResponse partIndex =>
    cases holds : message.get "parts" with
    | list parts =>
      simp only [writeAt, holds]
      cases position with
      | part other =>
        have dict := isDict_of_get holds (by simp)
        simp only [readAt, get_setKey_self dict, holds, getElem?_modify_of_ne _ apart]
      | output | content | block i =>
        exact keyed _ (.inl (by decide)) (.inl (by decide)) (.inr (by simp))
    | _ => simp only [writeAt, holds]

/-! ### The positions that are found -/

def flagged (place : Nat → Position) (flags : List Bool) : List Position :=
  flags.zipIdx.filterMap fun (flag, index) => if flag then some (place index) else none

def blockPositions (message : Value) : List Position :=
  match message.get "content" with
  | .list blocks => flagged .block (blocks.map isResultBlock)
  | _ => []

def partPositions (message : Value) : List Position :=
  match message.get "parts" with
  | .list parts => flagged .part (parts.map isResponsePart)
  | _ => []

def positions (message : Value) : List Position :=
  if message.isDict then
    (if (message.get "type").eqPy (.str "function_call_output") then [.output] else [])
      ++ blockPositions message ++ (if isToolMessage message then [.content] else [])
      ++ partPositions message
  else []

variable {α : Type}

theorem flagged_map (place : Nat → Position) (flag : α → Bool) (xs : List α) :
    flagged place (xs.map flag) =
      xs.zipIdx.filterMap fun (x, index) => if flag x then some (place index) else none := by
  rw [flagged, List.zipIdx_map, List.filterMap_map]
  rfl

theorem position_foundBlock (host : BudgetHost) (blockIndex : Nat) (block : Value) :
    (foundBlock host blockIndex block).location.position = .block blockIndex := by
  unfold foundBlock
  split <;> rfl

theorem positions_findPayloads (host : BudgetHost) (message : Value) :
    (findPayloads host message).map (fun found => found.location.position) = positions message := by
  have output : (findOutput host message).map (fun found => found.location.position) =
      if (message.get "type").eqPy (.str "function_call_output") then [.output] else [] := by
    unfold findOutput
    split <;> rfl
  have content : (findContent host message).map (fun found => found.location.position) =
      if isToolMessage message then [.content] else [] := by
    unfold findContent
    split <;> rfl
  have blocks : (findBlocks host message).map (fun found => found.location.position) =
      blockPositions message := by
    unfold findBlocks blockPositions
    cases message.get "content" with
    | list blocks =>
      dsimp only
      rw [flagged_map, List.map_filterMap]
      refine List.filterMap_congr fun item _ => ?_
      dsimp only
      split
      · rw [Option.map_some, position_foundBlock]
      · rfl
    | _ => rfl
  have parts : (findParts host message).map (fun found => found.location.position) =
      partPositions message := by
    unfold findParts partPositions
    cases message.get "parts" with
    | list parts =>
      dsimp only
      rw [flagged_map, List.map_filterMap]
      refine List.filterMap_congr fun item _ => ?_
      dsimp only
      split <;> rfl
    | _ => rfl
  unfold findPayloads positions
  split
  · rw [List.map_append, List.map_append, List.map_append, output, content, blocks, parts]
  · rfl

def Tidy (message : Value) : Prop := isToolMessage message = true → blockPositions message = []

instance (message : Value) : Decidable (Tidy message) :=
  inferInstanceAs (Decidable (isToolMessage message = true → blockPositions message = []))

variable {place : Nat → Position}

theorem mem_flagged {flags : List Bool} (mem : position ∈ flagged place flags) :
    ∃ index, position = place index := by
  obtain ⟨⟨flag, index⟩, -, placed⟩ := List.mem_filterMap.mp mem
  dsimp only at placed
  split at placed
  · exact ⟨index, (Option.some.inj placed).symm⟩
  · cases placed

theorem pairwise_zipIdx (xs : List α) : xs.zipIdx.Pairwise fun a b => a.2 ≠ b.2 := by
  apply List.pairwise_map.mp
  rw [List.zipIdx_map_snd]
  exact List.nodup_range'

theorem pairwise_flagged (apart : ∀ i j, i ≠ j → (place i).Apart (place j)) (flags : List Bool) :
    (flagged place flags).Pairwise Position.Apart := by
  apply (pairwise_zipIdx flags).filterMap
  rintro ⟨flag, i⟩ ⟨flag', j⟩ ne p placed q placed'
  dsimp only at placed placed' ne
  split at placed
  · split at placed'
    · rw [← Option.some.inj placed, ← Option.some.inj placed']
      exact apart i j ne
    · cases placed'
  · cases placed

theorem mem_blockPositions (mem : position ∈ blockPositions message) :
    ∃ index, position = .block index := by
  unfold blockPositions at mem
  split at mem
  · exact mem_flagged mem
  · cases mem

theorem mem_partPositions (mem : position ∈ partPositions message) :
    ∃ index, position = .part index := by
  unfold partPositions at mem
  split at mem
  · exact mem_flagged mem
  · cases mem

theorem positions_apart (tidy : Tidy message) : (positions message).Pairwise Position.Apart := by
  have blocks : (blockPositions message).Pairwise Position.Apart := by
    have separate : ∀ i j, i ≠ j → (Position.block i).Apart (.block j) := fun _ _ ne => ne
    unfold blockPositions
    split
    · exact pairwise_flagged separate _
    · exact List.Pairwise.nil
  have parts : (partPositions message).Pairwise Position.Apart := by
    have separate : ∀ i j, i ≠ j → (Position.part i).Apart (.part j) := fun _ _ ne => ne
    unfold partPositions
    split
    · exact pairwise_flagged separate _
    · exact List.Pairwise.nil
  have output : ∀ p ∈ (if (message.get "type").eqPy (.str "function_call_output") then
      [Position.output] else []), p = .output := by
    intro p mem
    split at mem
    · exact List.mem_singleton.mp mem
    · cases mem
  have content : ∀ p ∈ (if isToolMessage message then [Position.content] else []),
      p = .content ∧ isToolMessage message = true := by
    intro p mem
    split at mem
    · exact ⟨List.mem_singleton.mp mem, ‹_›⟩
    · cases mem
  unfold positions
  split
  · refine List.pairwise_append.mpr ⟨List.pairwise_append.mpr ⟨List.pairwise_append.mpr
      ⟨?_, blocks, ?_⟩, ?_, ?_⟩, parts, ?_⟩
    · split
      · exact List.pairwise_singleton _ _
      · exact List.Pairwise.nil
    · intro p memP q memQ
      obtain ⟨j, rfl⟩ := mem_blockPositions memQ
      rw [output p memP]
      trivial
    · split
      · exact List.pairwise_singleton _ _
      · exact List.Pairwise.nil
    · intro p memP q memQ
      obtain ⟨rfl, tool⟩ := content q memQ
      obtain memP | memP := List.mem_append.mp memP
      · rw [output p memP]
        trivial
      · rw [tidy tool] at memP
        cases memP
    · intro p memP q memQ
      obtain ⟨j, rfl⟩ := mem_partPositions memQ
      obtain memP | memP := List.mem_append.mp memP
      · obtain memP | memP := List.mem_append.mp memP
        · rw [output p memP]
          trivial
        · obtain ⟨i, rfl⟩ := mem_blockPositions memP
          trivial
      · rw [(content p memP).1]
        trivial
  · exact List.Pairwise.nil

/-! ### A write moves no position -/

theorem hasKey_setKey_of_ne {other : String} (ne : other ≠ key) :
    (v.setKey key x).hasKey other = v.hasKey other := by
  cases v with
  | dict es => simp [Value.hasKey, Value.setKey, Assoc.has, ne]
  | _ => rfl

theorem hasKey_setKey_self (dict : v.isDict = true) (key : String) :
    (v.setKey key x).hasKey key = true := by
  obtain ⟨es, rfl⟩ := Value.isDict_iff.mp dict
  simp [Value.hasKey, Value.setKey, Assoc.has]

theorem map_modify_eq {flag : Value → α} {f : Value → Value} (same : ∀ x, flag (f x) = flag x)
    (xs : List Value) (index : Nat) : (xs.modify index f).map flag = xs.map flag := by
  induction xs generalizing index with
  | nil => simp
  | cons x xs ih =>
    cases index with
    | zero => simp [same]
    | succ index => simp [ih]

theorem isResultBlock_setKey (block : Value) :
    isResultBlock (block.setKey "content" x) = isResultBlock block := by
  unfold isResultBlock
  rw [isDict_setKey, get_setKey_of_ne (by decide)]

structure SameShape (message message' : Value) : Prop where
  dict : message'.isDict = message.isDict
  type : message'.get "type" = message.get "type"
  tool : isToolMessage message' = isToolMessage message
  blocks : blockPositions message' = blockPositions message
  parts : partPositions message' = partPositions message

theorem SameShape.refl (message : Value) : SameShape message message := ⟨rfl, rfl, rfl, rfl, rfl⟩

variable {m m' : Value}

theorem SameShape.trans {m'' : Value} (h : SameShape m m') (h' : SameShape m' m'') :
    SameShape m m'' where
  dict := h'.dict.trans h.dict
  type := h'.type.trans h.type
  tool := h'.tool.trans h.tool
  blocks := h'.blocks.trans h.blocks
  parts := h'.parts.trans h.parts

theorem SameShape.positions (h : SameShape m m') :
    ResultBudget.positions m' = ResultBudget.positions m := by
  unfold ResultBudget.positions
  rw [h.dict, h.type, h.tool, h.blocks, h.parts]

theorem SameShape.tidy (h : SameShape m m') (tidy : Tidy m) : Tidy m' := by
  intro tool
  rw [h.tool] at tool
  rw [h.blocks]
  exact tidy tool

theorem isToolMessage_setKey_of_ne (role : "role" ≠ key) (content : "content" ≠ key) :
    isToolMessage (message.setKey key x) = isToolMessage message := by
  unfold isToolMessage
  rw [get_setKey_of_ne role, hasKey_setKey_of_ne content]

theorem isToolMessage_setKey_content (holds : message.hasKey "content" = true) :
    isToolMessage (message.setKey "content" x) = isToolMessage message := by
  have dict : message.isDict = true := by
    cases message with
    | dict es => rfl
    | _ => cases holds
  unfold isToolMessage
  rw [get_setKey_of_ne (by decide), holds, hasKey_setKey_self dict]

theorem hasKey_of_get (get : v.get name = w) (some : w ≠ .none) : v.hasKey name = true := by
  unfold Value.get at get
  unfold Value.hasKey Assoc.has
  cases held : Assoc.get name v.entries with
  | none =>
    rw [held] at get
    exact absurd get.symm some
  | some x => rfl

theorem sameShape_setKey_output (message : Value) :
    SameShape message (message.setKey "output" x) where
  dict := isDict_setKey _ _ _
  type := get_setKey_of_ne (by decide) _
  tool := isToolMessage_setKey_of_ne (by decide) (by decide)
  blocks := by
    unfold blockPositions
    rw [get_setKey_of_ne (by decide)]
  parts := by
    unfold partPositions
    rw [get_setKey_of_ne (by decide)]

theorem sameShape_setKey_content (holds : message.hasKey "content" = true)
    (same : blockPositions (message.setKey "content" x) = blockPositions message) :
    SameShape message (message.setKey "content" x) where
  dict := isDict_setKey _ _ _
  type := get_setKey_of_ne (by decide) _
  tool := isToolMessage_setKey_content holds
  blocks := same
  parts := by
    unfold partPositions
    rw [get_setKey_of_ne (by decide)]

theorem sameShape_setKey_parts
    (same : partPositions (message.setKey "parts" x) = partPositions message) :
    SameShape message (message.setKey "parts" x) where
  dict := isDict_setKey _ _ _
  type := get_setKey_of_ne (by decide) _
  tool := isToolMessage_setKey_of_ne (by decide) (by decide)
  blocks := by
    unfold blockPositions
    rw [get_setKey_of_ne (by decide)]
  parts := same

theorem isResponsePart_setKey {part : Value} {entries : Dict}
    (response : part.get "function_response" = .dict entries) :
    isResponsePart (part.setKey "function_response" ((Value.dict entries).setKey "response" x)) =
      isResponsePart part := by
  have dict := isDict_of_get response (by simp)
  unfold isResponsePart
  rw [isDict_setKey, get_setKey_self dict, isDict_setKey, response]

theorem isToolMessage_of_mem (mem : Position.content ∈ positions message) :
    isToolMessage message = true := by
  by_contra notTool
  unfold positions at mem
  split at mem
  · rcases List.mem_append.mp mem with mem | mem
    · rcases List.mem_append.mp mem with mem | mem
      · rcases List.mem_append.mp mem with mem | mem
        · split at mem
          · cases List.mem_singleton.mp mem
          · cases mem
        · obtain ⟨index, eq⟩ := mem_blockPositions mem
          cases eq
      · cases mem
    · obtain ⟨index, eq⟩ := mem_partPositions mem
      cases eq
  · cases mem

/-- A payload that is written where one was found moves no other. -/
theorem sameShape_writeAt (tidy : Tidy message) (found : location.position ∈ positions message)
    (single : serialized.isList = false) :
    SameShape message (writeAt host serialized message location) := by
  cases location with
  | openaiFunctionCallOutput => exact sameShape_setKey_output message
  | roleToolContent =>
    have tool := isToolMessage_of_mem found
    have holds : message.hasKey "content" = true := by
      exact (Bool.and_eq_true_iff.mp tool).2
    refine sameShape_setKey_content holds ?_
    have dict : message.isDict = true := by
      cases message with
      | dict es => rfl
      | _ => cases holds
    rw [tidy tool]
    unfold blockPositions
    rw [get_setKey_self dict]
    cases serialized with
    | list items => cases single
    | _ => rfl
  | contentBlockToolResult blockIndex rich =>
    cases content : message.get "content" with
    | list blocks =>
      simp only [writeAt, content]
      refine sameShape_setKey_content (hasKey_of_get content (by simp)) ?_
      have dict := isDict_of_get content (by simp)
      unfold blockPositions
      rw [get_setKey_self dict, content]
      dsimp only
      rw [map_modify_eq fun block => isResultBlock_setKey block]
    | _ =>
      simp only [writeAt, content]
      exact SameShape.refl message
  | partsFunctionResponse partIndex =>
    cases holds : message.get "parts" with
    | list parts =>
      simp only [writeAt, holds]
      refine sameShape_setKey_parts ?_
      have dict := isDict_of_get holds (by simp)
      unfold partPositions
      rw [get_setKey_self dict, holds]
      dsimp only
      rw [map_modify_eq fun part => ?_]
      split
      · rename_i entries response
        exact isResponsePart_setKey response
      · rfl
    | _ =>
      simp only [writeAt, holds]
      exact SameShape.refl message

/-! ### Sites in a batch -/

/-- The sites of the payloads of a batch. -/
def sites (messages : List Value) : List (Nat × Position) :=
  messages.zipIdx.flatMap fun (message, messageIndex) =>
    (positions message).map fun position => (messageIndex, position)

def readSite (messages : List Value) (site : Nat × Position) : Option Value :=
  messages[site.1]?.bind fun message => readAt message site.2

def SitesApart (s t : Nat × Position) : Prop := s.1 ≠ t.1 ∨ s.2.Apart t.2

theorem SitesApart.symm {s t : Nat × Position} (h : SitesApart s t) : SitesApart t s :=
  h.imp Ne.symm Position.Apart.symm

theorem sites_apart {messages : List Value} (tidy : ∀ message ∈ messages, Tidy message) :
    (sites messages).Pairwise SitesApart := by
  refine List.pairwise_flatMap.mpr ⟨?_, ?_⟩
  · rintro ⟨message, messageIndex⟩ mem
    rw [List.pairwise_map]
    have here := (List.mem_zipIdx' mem).2
    refine (positions_apart (tidy message ?_)).imp .inr
    rw [here]
    exact List.getElem_mem _
  · refine (pairwise_zipIdx messages).imp ?_
    rintro ⟨message, i⟩ ⟨message', j⟩ ne s memS t memT
    obtain ⟨p, -, rfl⟩ := List.mem_map.mp memS
    obtain ⟨q, -, rfl⟩ := List.mem_map.mp memT
    exact .inl ne

/-- A record's place among the messages. -/
abbrev Place := Nat × Location

def Place.site (place : Place) : Nat × Position := (place.1, place.2.position)

def writeSite (host : BudgetHost) (place : Place) (serialized : Value) (messages : List Value) :
    List Value :=
  messages.modify place.1 fun message => writeAt host serialized message place.2

theorem slots_messages (host : BudgetHost) :
    Slots (fun place : Place => fun messages => readSite messages place.site) (writeSite host)
      (fun place serialized => shownAt host place.2 serialized)
      (fun s t => SitesApart s.site t.site) where
  same place serialized messages there := by
    obtain ⟨messageIndex, location⟩ := place
    unfold readSite Place.site at there
    unfold readSite Place.site writeSite
    cases here : messages[messageIndex]? with
    | none =>
      rw [here] at there
      cases there
    | some message =>
      rw [here] at there
      rw [getElem?_modify_self _ here]
      exact readAt_writeAt_self there
  other place place' serialized messages apart := by
    obtain ⟨messageIndex, location⟩ := place
    obtain ⟨other, location'⟩ := place'
    unfold readSite Place.site writeSite
    by_cases same : messageIndex = other
    · subst same
      have within : location.position.Apart location'.position := apart.resolve_left fun ne => ne rfl
      cases here : messages[messageIndex]? with
      | none =>
        rw [List.getElem?_modify, here]
        rfl
      | some message =>
        rw [getElem?_modify_self _ here]
        exact readAt_writeAt_of_apart serialized within
    · rw [getElem?_modify_of_ne _ same]

end Unchain.Tools.ResultBudget
