import Unchain.Journal.Runtime

/-!
What a classification other than corrupt says about the receipts of one call.

The receipts of a completed call all name one tool. The names of an uncompleted call
are only known to be stable: the comparison stands in the branch that has a result.
-/

namespace Unchain.Journal

open Lib Lib.Effect Python

/-- Every receipt names the call. -/
def NamesCall (callId : String) (events : List JournalEvent) : Prop :=
  ∀ event ∈ events, event.payload.get "call_id" = .str callId

/-- The receipts name one tool between them. -/
def OneTool (events : List JournalEvent) : Prop :=
  ∃ name, ∀ event ∈ events, stableToolName event = some name

def StableTools (events : List JournalEvent) : Prop :=
  ∀ event ∈ events, (stableToolName event).isSome

/-- The receipts in the order a call writes them. -/
def boundary (events : List JournalEvent) : List JournalEvent :=
  events.filter isIntent ++ events.filter isStarted ++ events.filter isSealed
    ++ events.filter isResult

def Increasing (events : List JournalEvent) : Prop :=
  events.Pairwise fun earlier later => earlier.storeSeq < later.storeSeq

/-- A call that was started and has no result yet: an intent, a later start, and perhaps a
sealed completion later still. -/
def Uncompleted (lookup : ToolExecutionReceiptLookup) : Prop :=
  lookup.overflow = false ∧ StableTools lookup.events ∧
    ∃ intent start seals, lookup.events.filter isIntent = [intent] ∧
      lookup.events.filter isStarted = [start] ∧ lookup.events.filter isSealed = seals ∧
      seals.length ≤ 1 ∧ lookup.events.filter isResult = [] ∧
      Increasing (intent :: start :: seals)

section Receipts

variable {attempt : AttemptRef} {callId : String} {events : List JournalEvent}

theorem checkReceipts_namesCall {previous : Int} {eventIds operationIds : List String}
    (checked : checkReceipts attempt callId previous eventIds operationIds events = .ok ()) :
    NamesCall callId events := by
  induction events generalizing previous eventIds operationIds with
  | nil =>
    intro event listed
    simp at listed
  | cons first rest ih =>
    simp only [checkReceipts] at checked
    repeat' split at checked
    all_goals try contradiction
    rename_i names _ _
    intro event listed
    rcases List.mem_cons.mp listed with rfl | later
    · simpa [Value.eqPy_str_iff] using names
    · exact ih checked event later

theorem make_eq {overflow : Bool} {lookup : ToolExecutionReceiptLookup}
    (made : ToolExecutionReceiptLookup.make attempt callId events overflow = .ok lookup) :
    lookup = ⟨attempt, callId, events, overflow⟩ ∧ NamesCall callId events := by
  simp only [ToolExecutionReceiptLookup.make] at made
  split at made
  · exact nomatch made
  obtain ⟨_, checked, same⟩ := bind_ok made
  injection same with same
  exact ⟨same.symm, checkReceipts_namesCall checked⟩

/-- One distinct name is one name for all. -/
theorem oneTool_of_names (stable : StableTools events)
    (names : (events.filterMap stableToolName).eraseDups.length = 1) : OneTool events := by
  obtain ⟨name, only⟩ := List.length_eq_one_iff.mp names
  refine ⟨name, fun event listed => ?_⟩
  obtain ⟨found, named⟩ := Option.isSome_iff_exists.mp (stable event listed)
  have kept : found ∈ (events.filterMap stableToolName).eraseDups :=
    List.mem_eraseDups.mpr (List.mem_filterMap.mpr ⟨event, listed, named⟩)
  rw [only, List.mem_singleton] at kept
  rw [named, kept]

theorem eq_head_of_length_le_one {xs : List JournalEvent} (few : ¬ xs.length > 1) :
    xs = xs.head?.toList := by
  match xs, few with
  | [], _ => rfl
  | [x], _ => rfl
  | _ :: _ :: _, few => simp at few

end Receipts

section Classification

variable {host : Host} {lookup : ToolExecutionReceiptLookup} {callId : String}

theorem mem_boundary {event : JournalEvent} {events : List JournalEvent} :
    event ∈ boundary events ↔ event ∈ events := by
  simp only [boundary, List.mem_append, List.mem_filter, isResult]
  cases isIntent event <;> cases isStarted event <;> cases isSealed event <;> simp

/-- An intent alone names one tool, whatever the tool is. -/
theorem oneTool_of_alone {events : List JournalEvent} {intent : JournalEvent}
    (stable : StableTools events) (alone : boundary events = [intent]) : OneTool events := by
  have listed : intent ∈ events := mem_boundary.mp (by simp [alone])
  obtain ⟨name, named⟩ := Option.isSome_iff_exists.mp (stable intent listed)
  refine ⟨name, fun event present => ?_⟩
  have same : event ∈ boundary events := mem_boundary.mpr present
  rw [alone, List.mem_singleton] at same
  rw [same, named]

/-- What the comparisons of two receipts come to. -/
theorem increasing_of_checks {intent start : JournalEvent} {sealedEvent result : Option JournalEvent}
    (startLater : ¬ start.storeSeq ≤ intent.storeSeq)
    (sealLater : ¬ (sealedEvent.any fun s => s.storeSeq ≤ start.storeSeq) = true)
    (resultLater : ¬ (result.any fun r => sealedEvent.any fun s => r.storeSeq ≤ s.storeSeq) = true)
    (afterStart : ∀ r ∈ result, start.storeSeq < r.storeSeq) :
    Increasing (intent :: start :: (sealedEvent.toList ++ result.toList)) := by
  cases sealedEvent <;> cases result <;>
    simp [Increasing] at sealLater resultLater afterStart ⊢ <;> omega

/-- Everything a state other than corrupt says about the receipts. -/
theorem not_corrupt_cases (kept : (recoverFromLookup host lookup callId).state ≠ .corrupt) :
    Increasing (boundary lookup.events) ∧ (OneTool lookup.events ∨ Uncompleted lookup) := by
  simp only [recoverFromLookup] at kept
  split at kept
  · exact absurd rfl kept
  rename_i within
  split at kept
  · exact absurd rfl kept
  rename_i named
  have stable : StableTools lookup.events := by
    intro event listed
    have := mt List.any_eq_true.mpr named
    simp only [not_exists, not_and, Option.isNone_iff_eq_none] at this
    exact Option.isSome_iff_ne_none.mpr (this event listed)
  split at kept
  · exact absurd rfl kept
  rename_i few
  simp only [Bool.or_eq_true, decide_eq_true_eq, not_or] at few
  obtain ⟨⟨⟨fewIntents, fewStarts⟩, fewSeals⟩, fewResults⟩ := few
  have intents := eq_head_of_length_le_one fewIntents
  have starts := eq_head_of_length_le_one fewStarts
  have seals := eq_head_of_length_le_one fewSeals
  have results := eq_head_of_length_le_one fewResults
  generalize (lookup.events.filter isSealed).head? = sealedEvent at kept seals
  generalize (lookup.events.filter isResult).head? = result at kept results
  split at kept
  · exact absurd rfl kept
  · rename_i intent intentFirst noStart
    rw [intentFirst] at intents
    rw [noStart] at starts
    split at kept
    · exact absurd rfl kept
    rename_i bare
    simp only [Bool.or_eq_true, not_or, Option.not_isSome_iff_eq_none] at bare
    obtain ⟨rfl, rfl⟩ := bare
    have alone : boundary lookup.events = [intent] := by
      simp [boundary, intents, starts, seals, results]
    exact ⟨by simp [alone, Increasing], .inl (oneTool_of_alone stable alone)⟩
  · rename_i intent start intentFirst startFirst
    rw [intentFirst] at intents
    rw [startFirst] at starts
    have shape : boundary lookup.events =
        intent :: start :: (sealedEvent.toList ++ result.toList) := by
      simp [boundary, intents, starts, seals, results]
    rw [shape]
    split at kept
    · exact absurd rfl kept
    rename_i startLater
    split at kept
    · exact absurd rfl kept
    rename_i sealLater
    split at kept
    · exact absurd rfl kept
    rename_i resultLater
    split at kept
    · have ordered := increasing_of_checks startLater sealLater resultLater (by simp)
      simp only [Option.toList_none, List.append_nil] at ordered results ⊢
      refine ⟨ordered, .inr ⟨by simpa using within, stable, intent, start, sealedEvent.toList,
        intents, starts, seals, ?_, results, ordered⟩⟩
      cases sealedEvent <;> simp
    · rename_i r
      split at kept
      · exact absurd rfl kept
      rename_i names
      split at kept
      · exact absurd rfl kept
      rename_i afterStart
      have ordered := increasing_of_checks startLater sealLater resultLater (by simpa using afterStart)
      exact ⟨ordered, .inl (oneTool_of_names stable (by simpa using names))⟩

/-- Nothing is compared in a history without a result. -/
theorem not_corrupt_of_uncompleted (uncompleted : Uncompleted lookup) :
    (recoverFromLookup host lookup callId).state ≠ .corrupt := by
  obtain ⟨within, stable, intent, start, seals, intents, starts, rfl, few, results, ordered⟩ := uncompleted
  have named : ¬ (lookup.events.any fun event => (stableToolName event).isNone) = true := by
    simp only [List.any_eq_true, not_exists, not_and, Option.isNone_iff_eq_none]
    exact fun event listed => Option.isSome_iff_ne_none.mp (stable event listed)
  match shape : lookup.events.filter isSealed, few with
  | [], _ =>
    simp only [shape, Increasing, List.pairwise_cons, List.mem_singleton, forall_eq] at ordered
    have startLater := Int.not_le.mpr ordered.1
    simp [recoverFromLookup, within, named, intents, starts, shape, results, startLater]
  | [last], _ =>
    simp only [shape, Increasing, List.pairwise_cons, List.mem_cons, forall_eq_or_imp] at ordered
    have startLater := Int.not_le.mpr ordered.1.1
    have sealLater := Int.not_le.mpr ordered.2.1.1
    simp [recoverFromLookup, within, named, intents, starts, shape, results, startLater, sealLater]

end Classification

/-- The receipts of a call that is not classified corrupt name the call, are in order, and name
one tool, unless the call is uncompleted and its receipts disagree about the tool. -/
theorem recovery_sound_iff {host : Host} {attempt : AttemptRef} {callId : String}
    {events : List JournalEvent} {overflow : Bool} {lookup : ToolExecutionReceiptLookup}
    (made : ToolExecutionReceiptLookup.make attempt callId events overflow = .ok lookup) :
    ((recoverFromLookup host lookup callId).state ≠ .corrupt →
      NamesCall callId lookup.events ∧ OneTool lookup.events ∧
        Increasing (boundary lookup.events)) ↔
      (Uncompleted lookup → OneTool lookup.events) := by
  obtain ⟨rfl, names⟩ := make_eq made
  constructor
  · intro sound uncompleted
    exact (sound (not_corrupt_of_uncompleted uncompleted)).2.1
  · intro agree kept
    obtain ⟨ordered, tool | uncompleted⟩ := not_corrupt_cases kept
    · exact ⟨names, tool, ordered⟩
    · exact ⟨names, agree uncompleted, ordered⟩

/-! ### Two tools under one call -/

def toolReceipt (eventId eventType toolName : String) (storeSeq : Int) : JournalEvent :=
  ⟨eventId, eventType, ⟨⟨"run", "g"⟩, "a"⟩, ⟨eventId, ""⟩, storeSeq,
    .dict [("call_id", .str "c1"), ("tool_name", .str toolName)], []⟩

/-- The call of one tool, and the start of another under the same call. -/
def mixedLookup : ToolExecutionReceiptLookup where
  attempt := ⟨⟨"run", "g"⟩, "a"⟩
  callId := "c1"
  events := [toolReceipt "e1" "tool_call" "read" 1, toolReceipt "e2" "tool.started" "write" 2]
  overflow := false

theorem mixedLookup_sound_iff :
    ((recoverFromLookup plainHost mixedLookup "c1").state ≠ .corrupt →
      NamesCall "c1" mixedLookup.events ∧ OneTool mixedLookup.events ∧
        Increasing (boundary mixedLookup.events)) ↔
      (Uncompleted mixedLookup → OneTool mixedLookup.events) := by
  have made : ToolExecutionReceiptLookup.make mixedLookup.attempt "c1" mixedLookup.events false
      = .ok mixedLookup := rfl
  exact recovery_sound_iff made

theorem mixed_tools_kept :
    ToolExecutionReceiptLookup.make mixedLookup.attempt "c1" mixedLookup.events false
        = .ok mixedLookup ∧
      (recoverFromLookup plainHost mixedLookup "c1").state = .uncertainAfterStart ∧
      ¬ OneTool mixedLookup.events := by
  refine ⟨rfl, rfl, ?_⟩
  rintro ⟨name, all⟩
  have intent : stableToolName (toolReceipt "e1" "tool_call" "read" 1) = some name :=
    all _ List.mem_cons_self
  have start : stableToolName (toolReceipt "e2" "tool.started" "write" 2) = some name :=
    all _ (List.mem_cons_of_mem _ List.mem_cons_self)
  have read : stableToolName (toolReceipt "e1" "tool_call" "read" 1) = some "read" := by decide
  have write : stableToolName (toolReceipt "e2" "tool.started" "write" 2) = some "write" := by decide
  exact absurd (intent.trans start.symm) (by decide)

end Unchain.Journal
