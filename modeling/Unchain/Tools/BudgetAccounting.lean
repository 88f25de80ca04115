import Unchain.Tools.BatchGuarantee
import Unchain.Tools.ResultSites

/-!
What the budgeted size says about the messages.

A payload that was replaced is counted as it is written, character by character. A payload that was
left alone stays as the tool's provider wrote it, and is counted in its canonical form, which may be
shorter or longer than what stands in the message (`budget_accounting`).
-/

namespace Unchain.Tools.ResultBudget

open Lib Python

variable {host : BudgetHost}

/-! ### Two sizes of a payload -/

/-- The characters that the payload at a position occupies: those of a text, of the text of a block
array, or of the stable dump of another value. -/
def occupiedChars (host : BudgetHost) : Position → Value → Nat
  | .block _, .list blocks => textLen (blockText host blocks).toList
  | _, v => valueChars host v

/-- The characters of its canonical form. -/
def canonicalChars (host : BudgetHost) : Position → Value → Nat
  | .block _, .list blocks => textLen (blockText host blocks).toList
  | _, v => payloadChars host (normalizePayload host v).1 (normalizePayload host v).2

def siteChars (host : BudgetHost) (messages : List Value) (exact : Bool) (site : Nat × Position) :
    Nat :=
  match readSite messages site with
  | some v => if exact then occupiedChars host site.2 v else canonicalChars host site.2 v
  | none => 0

/-- What the payloads in the messages occupy. -/
def occupiedTotal (host : BudgetHost) (messages : List Value) : Nat :=
  ((sites messages).map (siteChars host messages true)).sum

/-! ### Payloads as they are found -/

def Location.KeepsNoText : Location → Prop
  | .contentBlockToolResult _ (some blocks) => ∀ block ∈ blocks, isTextBlock block = false
  | _ => True

structure Found.Stands (host : BudgetHost) (message : Value) (found : Found) : Prop where
  read : ∃ v, readAt message found.location.position = some v ∧
    canonicalChars host found.location.position v =
      payloadChars host found.payload.1 found.payload.2
  keepsNoText : found.location.KeepsNoText

variable {index : Nat}

theorem stands_foundBlock {message : Value} {blocks : List Value} {block : Value}
    (content : message.get "content" = .list blocks) (here : blocks[index]? = some block)
    (result : isResultBlock block = true) : (foundBlock host index block).Stands host message := by
  have dict : block.isDict = true := (Bool.and_eq_true_iff.mp result).1
  have read : readAt message (.block index) = some (block.getD "content" (.str "")) := by
    simp only [readAt, content, here, Option.bind_some, field, dict, if_true]
  unfold foundBlock
  split
  · rename_i subBlocks holds
    rw [holds] at read
    refine ⟨⟨_, read, rfl⟩, ?_⟩
    intro sub mem
    have kept := (List.mem_filter.mp mem).2
    simpa using kept
  · rename_i holds
    refine ⟨⟨_, read, ?_⟩, trivial⟩
    cases raw : block.getD "content" (.str "") with
    | list subBlocks => exact absurd raw (holds subBlocks)
    | _ => rfl

theorem stands_foundPart {message : Value} {parts : List Value} {part : Value}
    (holds : message.get "parts" = .list parts) (here : parts[index]? = some part)
    (response : isResponsePart part = true) : (foundPart host index part).Stands host message := by
  obtain ⟨dict, dict'⟩ := Bool.and_eq_true_iff.mp response
  refine ⟨⟨(part.get "function_response").getD "response" (.dict []), ?_, rfl⟩, trivial⟩
  simp only [foundPart, Location.position, readAt, holds, here, Option.bind_some, dict, if_true,
    field, dict']

theorem stands_of_mem {message : Value} {found : Found} (mem : found ∈ findPayloads host message) :
    found.Stands host message := by
  unfold findPayloads at mem
  split at mem
  · rename_i dict
    rcases List.mem_append.mp mem with mem | mem
    · rcases List.mem_append.mp mem with mem | mem
      · rcases List.mem_append.mp mem with mem | mem
        · unfold findOutput at mem
          split at mem
          · rw [List.mem_singleton.mp mem]
            refine ⟨⟨message.getD "output" (.str ""), ?_, rfl⟩, trivial⟩
            simp only [Location.position, readAt, field, dict, if_true]
          · cases mem
        · unfold findBlocks at mem
          split at mem
          · rename_i blocks content
            obtain ⟨⟨block, index⟩, inside, placed⟩ := List.mem_filterMap.mp mem
            dsimp only at placed
            split at placed
            · rename_i result
              rw [← Option.some.inj placed]
              exact stands_foundBlock content (List.mem_zipIdx_iff_getElem?.mp inside) result
            · cases placed
          · cases mem
      · unfold findContent at mem
        split at mem
        · rw [List.mem_singleton.mp mem]
          refine ⟨⟨message.getD "content" (.str ""), ?_, rfl⟩, trivial⟩
          simp only [Location.position, readAt, field, dict, if_true]
        · cases mem
    · unfold findParts at mem
      split at mem
      · rename_i parts holds
        obtain ⟨⟨part, index⟩, inside, placed⟩ := List.mem_filterMap.mp mem
        dsimp only at placed
        split at placed
        · rename_i response
          rw [← Option.some.inj placed]
          exact stands_foundPart holds (List.mem_zipIdx_iff_getElem?.mp inside) response
        · cases placed
      · cases mem
  · cases mem

/-! ### Records and their sites -/

def ResultRecord.place (record : ResultRecord) : Place := (record.messageIndex, record.location)

theorem map_resolveFound {α : Type} (view : ResultRecord → α) (viewFound : Nat × Found → α)
    (same : ∀ index found resolved, view (found.record host index resolved) = viewFound (index, found))
    (maps : ToolCallMaps) (used : List String) (founds : List (Nat × Found)) :
    (resolveFound host maps used founds).map view = founds.map viewFound := by
  induction founds generalizing used with
  | nil => rfl
  | cons found founds ih =>
    rw [resolveFound, List.map_cons, List.map_cons, ih, same]

variable {messages : List Value}

theorem sites_eq_map (toolCalls : List ToolCall) : sites messages =
      (collectResultRecords host messages toolCalls).map fun record => record.place.site := by
  unfold collectResultRecords
  rw [map_resolveFound (fun record => record.place.site)
    (fun found => (found.1, found.2.location.position)) (fun _ _ _ => rfl), List.map_flatMap]
  refine List.flatMap_congr fun item _ => ?_
  dsimp only
  rw [← positions_findPayloads host, List.map_map, List.map_map]
  rfl

structure ResultRecord.Stands (host : BudgetHost) (messages : List Value) (record : ResultRecord) :
    Prop where
  read : ∃ v, readSite messages record.place.site = some v ∧
    canonicalChars host record.location.position v = record.originalChars
  keepsNoText : record.location.KeepsNoText

theorem mem_resolveFound {maps : ToolCallMaps} {used : List String} {founds : List (Nat × Found)}
    {record : ResultRecord} (mem : record ∈ resolveFound host maps used founds) :
    ∃ index found resolved, (index, found) ∈ founds ∧ record = found.record host index resolved := by
  induction founds generalizing used with
  | nil => cases mem
  | cons found founds ih =>
    obtain ⟨index, found⟩ := found
    rcases List.mem_cons.mp mem with same | later
    · exact ⟨index, found, _, List.mem_cons_self, same⟩
    · obtain ⟨index', found', resolved, mem, eq⟩ := ih later
      exact ⟨index', found', resolved, List.mem_cons_of_mem _ mem, eq⟩

theorem record_stands {toolCalls : List ToolCall} {record : ResultRecord}
    (mem : record ∈ collectResultRecords host messages toolCalls) :
    record.Stands host messages := by
  obtain ⟨index, found, resolved, listed, rfl⟩ := mem_resolveFound mem
  obtain ⟨⟨message, index'⟩, inside, listed⟩ := List.mem_flatMap.mp listed
  obtain ⟨found', here, eq⟩ := List.mem_map.mp listed
  cases eq
  obtain ⟨⟨v, read, canonical⟩, keepsNoText⟩ := stands_of_mem here
  refine ⟨⟨v, ?_, canonical⟩, keepsNoText⟩
  simp only [readSite, ResultRecord.place, Place.site, Found.record,
    List.mem_zipIdx_iff_getElem?.mp inside, Option.bind_some]
  exact read

/-! ### What a written payload occupies -/

theorem serializePayload_not_list (payload : Value) (payloadFormat : PayloadFormat) :
    (serializePayload host payload payloadFormat).isList = false := by
  cases payloadFormat <;> cases payload <;> rfl

theorem textOr_str (s : String) : textOr host (.str s) = s := by
  unfold textOr Value.or
  split
  · rfl
  · rename_i empty
    have none : s = "" := by simpa [Value.truthy] using empty
    rw [none]
    rfl

theorem blockText_written {text : String} {blocks : List Value}
    (noText : ∀ block ∈ blocks, isTextBlock block = false) : blockText host ((if text = "" then []
      else [Value.dict [("type", .str "text"), ("text", .str text)]]) ++ blocks) = text := by
  have others : blocks.filter isTextBlock = [] := List.filter_eq_nil_iff.mpr fun block mem => by
    rw [noText block mem]
    exact Bool.false_ne_true
  unfold blockText
  rw [List.filter_append, others, List.append_nil]
  split
  · rename_i empty
    rw [empty]
    rfl
  · have isText : isTextBlock (.dict [("type", .str "text"), ("text", .str text)]) = true := rfl
    have held : (Value.dict [("type", .str "text"), ("text", .str text)]).get "text" = .str text := rfl
    rw [List.filter_singleton, isText]
    simp [held, textOr_str]

theorem occupiedChars_shownAt {location : Location} (noText : location.KeepsNoText)
    {serialized : Value} (single : serialized.isList = false) :
    occupiedChars host location.position (shownAt host location serialized) =
      valueChars host serialized := by
  cases location with
  | contentBlockToolResult index rich =>
    cases rich with
    | none =>
      cases serialized with
      | list items => cases single
      | _ => rfl
    | some blocks =>
      simp only [shownAt, blockContent, Location.position, occupiedChars]
      rw [blockText_written noText]
      cases serialized with
      | str s => rfl
      | list items => cases single
      | _ => simp only [String.toList_ofList, valueChars]
  | _ => rfl

/-! ### Sizes through a run -/

variable {records : List ResultRecord}

/-- Every record has the size of the payload that replaced its own, if any did. -/
structure Accounted (host : BudgetHost) (records : List ResultRecord) (st : BudgetState) : Prop where
  length_eq : st.currentChars.length = records.length
  chars_eq : ∀ index < records.length, st.chars index =
    match Assoc.get index st.compactedPayloads with
    | some payload => (record records index).chars host payload
    | none => (record records index).originalChars
  distinct : (Assoc.keys st.compactedPayloads).Nodup
  inside : ∀ index ∈ Assoc.keys st.compactedPayloads, index < records.length

theorem accounted_initialState (host : BudgetHost) (records : List ResultRecord) :
    Accounted host records (initialState records) where
  length_eq := List.length_map _
  chars_eq index inside := by
    unfold BudgetState.chars initialState record
    simp [inside]
  distinct := List.nodup_nil
  inside index mem := by cases mem

theorem unbroken_accounted (host : BudgetHost) (records : List ResultRecord) :
    Unbroken host records (Accounted host records) where
  asked _ _ _ holds := ⟨holds.length_eq, holds.chars_eq, holds.distinct, holds.inside⟩
  applied st index payload holds := by
    unfold applyPayload
    dsimp only
    split
    · exact holds
    · rename_i smaller
      have here : index < st.currentChars.length :=
        inside_of_chars_pos (Nat.zero_lt_of_lt (Nat.lt_of_not_le smaller))
      refine ⟨?_, fun other inside => ?_, Assoc.nodup_keys_set _ _ holds.distinct, ?_⟩
      · rw [List.length_set]
        exact holds.length_eq
      · unfold BudgetState.chars
        rw [getD_set]
        by_cases same : index = other
        · subst same
          rw [if_pos ⟨rfl, here⟩, Assoc.get_set_self]
        · rw [if_neg fun both => same both.1, Assoc.get_set_of_ne (Ne.symm same)]
          exact holds.chars_eq other inside
      · intro other mem
        rw [holds.length_eq] at here
        obtain ⟨payload', held⟩ := Option.isSome_iff_exists.mp (Assoc.get_isSome_iff.mpr mem)
        by_cases same : other = index
        · rw [same]
          exact here
        · rw [Assoc.get_set_of_ne same] at held
          exact holds.inside other (Assoc.mem_keys_of_get held)

/-! ### The messages that are returned -/

def writesOf (host : BudgetHost) (records : List ResultRecord) (payloads : List (Nat × Value)) :
    List (Place × Value) :=
  payloads.map fun entry => ((record records entry.1).place,
    serializePayload host entry.2 (record records entry.1).payloadFormat)

theorem writePayloads_eq (payloads : List (Nat × Value)) :
    writePayloads host records messages payloads =
      writeAll (writeSite host) (writesOf host records payloads) messages := by
  induction payloads generalizing messages with
  | nil => rfl
  | cons entry payloads ih =>
    rw [writePayloads, ih]
    rfl

theorem getElem_record (inside : index < records.length) :
    records[index] = record records index := by
  simp [record, inside]

section Returned

variable {messages : List Value} {st : BudgetState}

section

variable (own : sites messages = records.map fun record => record.place.site)

include own

section

variable (tidy : ∀ message ∈ messages, Tidy message)

include tidy

theorem records_apart {i j : Nat} (insideI : i < records.length) (insideJ : j < records.length)
    (ne : i ≠ j) : SitesApart (record records i).place.site (record records j).place.site := by
  have apart := sites_apart tidy
  rw [own, List.pairwise_map, List.pairwise_iff_getElem] at apart
  rw [← getElem_record insideI, ← getElem_record insideJ]
  rcases Nat.lt_or_gt_of_ne ne with before | after
  · exact apart i j insideI insideJ before
  · exact (apart j i insideJ insideI after).symm

theorem readSite_replaced (accounted : Accounted host records st)
    (there : (readSite messages (record records index).place.site).isSome) {payload : Value}
    (held : Assoc.get index st.compactedPayloads = some payload) :
    readSite (writePayloads host records messages st.compactedPayloads)
        (record records index).place.site =
      some (shownAt host (record records index).location
        (serializePayload host payload (record records index).payloadFormat)) := by
  rw [writePayloads_eq]
  refine (slots_messages host).read_of_mem (i := (record records index).place) ?_
    (List.mem_map.mpr ⟨(index, payload), Assoc.mem_of_get held, rfl⟩) there
  have distinct := List.pairwise_map.mp accounted.distinct
  refine List.pairwise_map.mpr (distinct.imp_of_mem fun memA memB ne => ?_)
  have insideA := accounted.inside _ (List.mem_map_of_mem memA)
  have insideB := accounted.inside _ (List.mem_map_of_mem memB)
  have apart := records_apart own tidy insideA insideB ne
  exact ⟨apart, apart.symm⟩

theorem readSite_left (accounted : Accounted host records st) (inside : index < records.length)
    (held : Assoc.get index st.compactedPayloads = none) :
    readSite (writePayloads host records messages st.compactedPayloads)
        (record records index).place.site =
      readSite messages (record records index).place.site := by
  rw [writePayloads_eq]
  refine (slots_messages host).read_of_apart (j := (record records index).place) ?_ messages
  intro write written
  obtain ⟨entry, mem, rfl⟩ := List.mem_map.mp written
  have key : entry.1 ∈ Assoc.keys st.compactedPayloads := List.mem_map_of_mem mem
  refine records_apart own tidy (accounted.inside _ key) inside fun same => ?_
  rw [same] at key
  exact Assoc.get_eq_none_iff.mp held key

end

end

/-- How a record is counted in the messages with the payloads written: as it occupies them if it was
replaced, and else in the canonical form of what is still there. -/
structure Counted (host : BudgetHost) (messages : List Value) (records : List ResultRecord)
    (st : BudgetState) (index : Nat) : Prop where
  size : siteChars host (writePayloads host records messages st.compactedPayloads)
    (Assoc.get index st.compactedPayloads).isSome (record records index).place.site = st.chars index
  there : (readSite (writePayloads host records messages st.compactedPayloads)
    (record records index).place.site).isSome
  left : Assoc.get index st.compactedPayloads = none →
    readSite (writePayloads host records messages st.compactedPayloads)
      (record records index).place.site = readSite messages (record records index).place.site

theorem counted_record (own : sites messages = records.map fun record => record.place.site)
    (tidy : ∀ message ∈ messages, Tidy message) (accounted : Accounted host records st)
    (inside : index < records.length) (stands : (record records index).Stands host messages) :
    Counted host messages records st index := by
  obtain ⟨⟨v, read, canonical⟩, noText⟩ := stands
  have size := accounted.chars_eq index inside
  cases held : Assoc.get index st.compactedPayloads with
  | none =>
    have now := readSite_left own tidy accounted inside held
    rw [held] at size
    refine ⟨?_, ?_, fun _ => now⟩
    · rw [siteChars, now, read, held, size]
      exact canonical
    · rw [now, read]
      rfl
  | some payload =>
    have there : (readSite messages (record records index).place.site).isSome := by
      rw [read]
      rfl
    have now := readSite_replaced own tidy accounted there held
    rw [held] at size
    refine ⟨?_, ?_, fun none => ?_⟩
    · rw [siteChars, now, held, size]
      exact occupiedChars_shownAt noText (serializePayload_not_list _ _)
    · rw [now]
      rfl
    · rw [held] at none
      cases none

theorem sites_eq_zipIdx :
    sites messages = (messages.map positions).zipIdx.flatMap fun (found, messageIndex) =>
      found.map fun position => (messageIndex, position) := by
  rw [List.zipIdx_map, List.flatMap_map]
  rfl

theorem sites_of_sameShape {messages' : List Value}
    (same : List.Forall₂ SameShape messages messages') : sites messages' = sites messages := by
  have found : messages'.map positions = messages.map positions := by
    induction same with
    | nil => rfl
    | cons here _ ih => rw [List.map_cons, List.map_cons, here.positions, ih]
  rw [sites_eq_zipIdx, sites_eq_zipIdx, found]

theorem forall₂_modify {α : Type} {R : α → α → Prop} {xs ys : List α}
    (related : List.Forall₂ R xs ys) {f : α → α}
    (kept : ∀ x y, xs[index]? = some x → R x y → R x (f y)) :
    List.Forall₂ R xs (ys.modify index f) := by
  induction related generalizing index with
  | nil =>
    rw [List.modify_nil]
    exact .nil
  | cons here rest ih =>
    cases index with
    | zero =>
      exact .cons (kept _ _ rfl here) rest
    | succ index =>
      exact .cons here (ih fun x y at' => kept x y at')

theorem mem_positions_of_mem_sites {site : Nat × Position} {message : Value}
    (mem : site ∈ sites messages) (here : messages[site.1]? = some message) :
    site.2 ∈ positions message := by
  obtain ⟨⟨message', index⟩, inside, placed⟩ := List.mem_flatMap.mp mem
  obtain ⟨position, found, rfl⟩ := List.mem_map.mp placed
  have same := (List.mem_zipIdx_iff_getElem?.mp inside).symm.trans here
  cases same
  exact found

theorem sites_writePayloads (own : sites messages = records.map fun record => record.place.site)
    (tidy : ∀ message ∈ messages, Tidy message) (accounted : Accounted host records st) :
    sites (writePayloads host records messages st.compactedPayloads) = sites messages := by
  refine sites_of_sameShape ?_
  rw [writePayloads_eq]
  have found : ∀ write ∈ writesOf host records st.compactedPayloads,
      Place.site write.1 ∈ sites messages ∧ write.2.isList = false := by
    intro write written
    obtain ⟨entry, mem, rfl⟩ := List.mem_map.mp written
    have inside := accounted.inside _ (List.mem_map_of_mem mem)
    refine ⟨?_, serializePayload_not_list _ _⟩
    rw [own, ← getElem_record inside]
    exact List.mem_map_of_mem (List.getElem_mem inside)
  have whole : List.Forall₂ SameShape messages messages :=
    List.forall₂_same.mpr fun message _ => SameShape.refl message
  revert found whole
  generalize writesOf host records st.compactedPayloads = writes
  suffices shapes : ∀ now : List Value,
      (∀ write ∈ writes, Place.site write.1 ∈ sites messages ∧ write.2.isList = false) →
      List.Forall₂ SameShape messages now →
      List.Forall₂ SameShape messages (writeAll (writeSite host) writes now) from shapes messages
  induction writes with
  | nil => exact fun now _ same => same
  | cons write writes ih =>
    intro now found same
    obtain ⟨⟨mem, single⟩, rest⟩ := List.forall_mem_cons.mp found
    refine ih _ rest (forall₂_modify same fun message message' here shape => ?_)
    have tidy' := shape.tidy (tidy message (List.mem_of_getElem? here))
    have position := mem_positions_of_mem_sites mem here
    rw [← shape.positions] at position
    exact shape.trans (sameShape_writeAt tidy' position single)

end Returned

/-- What `budget_messages` returns. -/
theorem budgetMessages_ok {config : ToolResultBudgetConfig} {call : BudgetCall}
    {returned : ToolResultBudgetOutcome}
    (ran : budgetMessages host config call = some (.ok returned)) :
    ∃ st, returned = outcome host call (call.records host) st ∧
      Accounted host (call.records host) st := by
  have start := accounted_initialState host (call.records host)
  unfold budgetMessages at ran
  dsimp only at ran
  split at ran
  · rename_i empty
    have none := List.isEmpty_iff.mp empty
    have same := Except.ok.inj (Option.some.inj ran)
    refine ⟨initialState (call.records host), ?_, start⟩
    rw [← same, none]
    rfl
  · cases shrunk : shrunkState host config call (call.records host) with
    | none =>
      rw [shrunk] at ran
      cases ran
    | some result =>
      rw [shrunk] at ran
      cases result with
      | error e => cases ran
      | ok st =>
        cases ran
        exact ⟨st, rfl, (unbroken_accounted host _).shrunkState start shrunk⟩

/-- The budgeted size counts each payload of the returned messages once: one that was replaced by
the characters it occupies, and one that was left alone, and is what it was, by its canonical
form. -/
theorem budget_accounting {config : ToolResultBudgetConfig} {call : BudgetCall}
    {returned : ToolResultBudgetOutcome} (tidy : ∀ message ∈ call.resultMessages, Tidy message)
    (ran : budgetMessages host config call = some (.ok returned)) :
    sites returned.messages = sites call.resultMessages ∧
      ∃ replaced : Nat → Bool,
        returned.stats.budgetedChars = ((sites returned.messages).zipIdx.map fun entry =>
          siteChars host returned.messages (replaced entry.2) entry.1).sum ∧
        ∀ entry ∈ (sites returned.messages).zipIdx,
          (readSite returned.messages entry.1).isSome ∧
            (replaced entry.2 = false →
              readSite returned.messages entry.1 = readSite call.resultMessages entry.1) := by
  obtain ⟨st, rfl, accounted⟩ := budgetMessages_ok ran
  have own : sites call.resultMessages =
      (call.records host).map fun record => record.place.site := sites_eq_map _
  have unmoved := sites_writePayloads own tidy accounted
  generalize all : call.records host = records at *
  have counted {index : Nat} (inside : index < records.length) :
      Counted host call.resultMessages records st index := by
    refine counted_record own tidy accounted inside ?_
    have mem : records[index] ∈ collectResultRecords host call.resultMessages call.toolCalls := by
      rw [← BudgetCall.records, all]
      exact List.getElem_mem inside
    rw [← getElem_record inside]
    exact record_stands mem
  have same : sites (outcome host call records st).messages =
    records.map fun record => record.place.site := unmoved.trans own
  refine ⟨unmoved, fun index => (Assoc.get index st.compactedPayloads).isSome, ?_, ?_⟩
  · have sizes : st.currentChars = (sites (outcome host call records st).messages).zipIdx.map
        fun entry => siteChars host (outcome host call records st).messages
          (Assoc.get entry.2 st.compactedPayloads).isSome entry.1 := by
      rw [same]
      refine List.ext_getElem ?_ fun index inside inside' => ?_
      · rw [List.length_map, List.length_zipIdx, List.length_map, accounted.length_eq]
      · have bound : index < records.length := by
          rw [← accounted.length_eq]
          exact inside
        have chars : st.currentChars[index] = st.chars index := by
          simp [BudgetState.chars, inside]
        rw [chars, ← (counted bound).size, List.getElem_map, List.getElem_zipIdx, List.getElem_map,
          getElem_record bound, Nat.zero_add]
        rfl
    exact congrArg List.sum sizes
  · rintro ⟨site, index⟩ mem
    rw [same] at mem
    have here := List.mem_zipIdx_iff_getElem?.mp mem
    rw [List.getElem?_map] at here
    obtain ⟨found, at', eq⟩ := Option.map_eq_some_iff.mp here
    obtain ⟨inside, at'⟩ := List.getElem?_eq_some_iff.mp at'
    rw [getElem_record inside] at at'
    rw [← at'] at eq
    rw [← eq]
    exact ⟨(counted inside).there, fun left => (counted inside).left (by simpa using left)⟩

/-! ### A payload that was left alone -/

section Sample

/-- One result, written with a blank after its colon. -/
def sampleCall : BudgetCall where
  provider := "openai"
  toolkit := none
  toolCalls := [⟨"call_1", "read"⟩]
  resultMessages := [.dict [("type", .str "function_call_output"), ("call_id", .str "call_1"),
    ("output", .str "\x7b\"a\": 1\x7d")]]
  sessionId := ""
  latestMessages := none
  reason := "tool_result_budget"

/-- A bound of seven characters for the batch. -/
def sampleConfig : ToolResultBudgetConfig := { ToolResultBudgetConfig.default with maxBatchChars := 7 }

theorem sampleCall_returns : ∃ returned,
    budgetMessages sampleHost sampleConfig sampleCall = some (.ok returned) ∧
      returned.stats.budgetedChars = 7 ∧ occupiedTotal sampleHost returned.messages = 8 := by
  have sizes : ((budgetMessages sampleHost sampleConfig sampleCall).bind Except.toOption).any
      (fun returned => decide (returned.stats.budgetedChars = 7 ∧
        occupiedTotal sampleHost returned.messages = 8)) = true := by decide +kernel
  cases ran : budgetMessages sampleHost sampleConfig sampleCall with
  | none =>
    rw [ran] at sizes
    cases sizes
  | some result =>
    rw [ran] at sizes
    cases result with
    | error e => cases sizes
    | ok returned => exact ⟨returned, rfl, of_decide_eq_true sizes⟩

theorem sampleCall_tidy : ∀ message ∈ sampleCall.resultMessages, Tidy message := by decide +kernel

/-- The eight characters in the message are counted as seven, which the bound allows. -/
theorem small_result_is_undercounted : ∃ returned,
    budgetMessages sampleHost sampleConfig sampleCall = some (.ok returned) ∧
      (returned.stats.budgetedChars : Int) ≤ sampleConfig.maxBatchChars ∧
      ¬ (occupiedTotal sampleHost returned.messages : Int) ≤ sampleConfig.maxBatchChars ∧
      returned.stats.budgetedChars ≠ occupiedTotal sampleHost returned.messages := by
  obtain ⟨returned, ran, counted, occupied⟩ := sampleCall_returns
  refine ⟨returned, ran, ?_⟩
  rw [counted, occupied]
  decide

theorem sampleCall_accounted : ∃ returned,
    budgetMessages sampleHost sampleConfig sampleCall = some (.ok returned) ∧
      sites returned.messages = sites sampleCall.resultMessages := by
  obtain ⟨returned, ran, -⟩ := sampleCall_returns
  exact ⟨returned, ran, (budget_accounting sampleCall_tidy ran).1⟩

end Sample

end Unchain.Tools.ResultBudget
