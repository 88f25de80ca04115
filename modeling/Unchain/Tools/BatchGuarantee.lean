import Unchain.Tools.BatchBudget
import Unchain.Tools.Compaction

/-!
What the batch budget guarantees.

Every step of a run leaves the sizes alone or makes the size of one record smaller (`Lowered`), so
no record grows and a round that changes something lowers the total. A round that changes nothing
while the batch is over its bound has offered every record a compaction for a target below its
size; each record is then no larger than its compaction without a preview (`hardPass_spec`).
-/

namespace Unchain.Tools.ResultBudget

open Lib Python

/-! ### Sizes by index -/

variable {index : Nat} {sizes : List Nat}

theorem sum_set_add (inside : index < sizes.length) (size : Nat) :
    (sizes.set index size).sum + sizes.getD index 0 = sizes.sum + size := by
  induction sizes generalizing index with
  | nil => exact absurd inside (Nat.not_lt_zero _)
  | cons first sizes ih =>
    cases index with
    | zero =>
      simp only [List.set_cons_zero, List.sum_cons, List.getD_cons_zero]
      omega
    | succ index =>
      have ih := ih (Nat.lt_of_succ_lt_succ inside)
      simp only [List.set_cons_succ, List.sum_cons, List.getD_cons_succ]
      omega

theorem getD_set (sizes : List Nat) (other size : Nat) : (sizes.set index size).getD other 0 =
      if index = other ∧ index < sizes.length then size else sizes.getD other 0 := by
  rw [List.getD_eq_getElem?_getD, List.getD_eq_getElem?_getD, List.getElem?_set]
  by_cases same : index = other
  · subst same
    by_cases inside : index < sizes.length
    · simp [inside]
    · simp [inside]
  · simp [same]

theorem sum_le_sum_of_getD {bounds : List Nat} (lengths : sizes.length = bounds.length)
    (below : ∀ index, index < sizes.length → sizes.getD index 0 ≤ bounds.getD index 0) :
    sizes.sum ≤ bounds.sum := by
  induction sizes generalizing bounds with
  | nil => exact Nat.zero_le _
  | cons size sizes ih =>
    cases bounds with
    | nil => cases lengths
    | cons bound bounds =>
      have first := below 0 (Nat.zero_lt_succ _)
      have rest := ih (Nat.succ.inj lengths) fun index inside =>
        below (index + 1) (Nat.succ_lt_succ inside)
      simp only [List.getD_cons_zero] at first
      simp only [List.sum_cons]
      omega

/-! ### One record -/

variable {host : BudgetHost} {config : ToolResultBudgetConfig} {call : BudgetCall}
  {records : List ResultRecord}

/-- The sizes are as they were. -/
def Kept (st st' : BudgetState) : Prop := st'.currentChars = st.currentChars

/-- The record is smaller than it was, and the others are as they were. -/
def Lowered (index : Nat) (st st' : BudgetState) : Prop :=
  ∃ size < st.chars index, st'.currentChars = st.currentChars.set index size

variable {st st' : BudgetState}

theorem Kept.chars (kept : Kept st st') : st'.chars index = st.chars index := by
  rw [BudgetState.chars, BudgetState.chars, kept]

theorem Kept.total (kept : Kept st st') : st'.total = st.total := by
  rw [BudgetState.total, BudgetState.total, kept]

theorem Kept.lowered {st'' : BudgetState} (kept : Kept st st') (lowered : Lowered index st' st'') :
    Lowered index st st'' := by
  obtain ⟨size, smaller, set⟩ := lowered
  rw [kept.chars] at smaller
  rw [kept] at set
  exact ⟨size, smaller, set⟩

theorem inside_of_chars_pos (pos : 0 < st.chars index) : index < st.currentChars.length := by
  by_contra outside
  rw [BudgetState.chars, List.getD_eq_getElem?_getD,
    List.getElem?_eq_none (Nat.le_of_not_lt outside)] at pos
  exact Nat.lt_irrefl 0 pos

theorem Lowered.inside (lowered : Lowered index st st') : index < st.currentChars.length := by
  obtain ⟨size, smaller, -⟩ := lowered
  exact inside_of_chars_pos (Nat.zero_lt_of_lt smaller)

theorem Lowered.total_lt (lowered : Lowered index st st') : st'.total < st.total := by
  have inside := lowered.inside
  obtain ⟨size, smaller, set⟩ := lowered
  have moved := sum_set_add inside size
  rw [BudgetState.chars] at smaller
  rw [BudgetState.total, BudgetState.total, set]
  omega

theorem Lowered.chars_le (lowered : Lowered index st st') (other : Nat) :
    st'.chars other ≤ st.chars other := by
  obtain ⟨size, smaller, set⟩ := lowered
  rw [BudgetState.chars, set, getD_set]
  split
  · rename_i here
    rw [← here.1]
    exact Nat.le_of_lt smaller
  · exact Nat.le_refl _

/-- A payload is taken exactly when it is smaller. -/
theorem applyPayload_cases (payload : Value) (st : BudgetState) :
    (applyPayload host records index payload st = (false, st) ∧
      st.chars index ≤ (record records index).chars host payload) ∨
    ∃ st', applyPayload host records index payload st = (true, st') ∧ Lowered index st st' := by
  unfold applyPayload
  dsimp only
  split
  · rename_i large
    exact .inl ⟨rfl, large⟩
  · rename_i small
    exact .inr ⟨_, rfl, _, Nat.lt_of_not_le small, rfl⟩

theorem applyFirst_cases (candidates : List Value) (st : BudgetState) :
    (applyFirst host records index candidates st = (false, st) ∧
      ∀ candidate ∈ candidates, st.chars index ≤ (record records index).chars host candidate) ∨
    ∃ st', applyFirst host records index candidates st = (true, st') ∧ Lowered index st st' := by
  induction candidates with
  | nil => exact .inl ⟨rfl, by simp⟩
  | cons candidate candidates ih =>
    obtain ⟨refused, large⟩ | ⟨st', taken, lowered⟩ := applyPayload_cases candidate st
    · rw [applyFirst, refused]
      obtain ⟨none, allLarge⟩ | some := ih
      · exact .inl ⟨none, List.forall_mem_cons.mpr ⟨large, allLarge⟩⟩
      · exact .inr some
    · rw [applyFirst, taken]
      exact .inr ⟨st', rfl, lowered⟩

def RaisedByOptimizer (call : BudgetCall) (e : ExecutionLeaseError) : Prop :=
  ∃ get name optimizer attempt payload context, call.toolkit = some get ∧
    get name = some optimizer ∧ optimizer attempt payload context = .error (.executionLease e)

variable {optimized : Option Value}

theorem optimizerPayload_asked
    (h : optimizerPayload host config call records index st = .ok (optimized, st')) :
    ∃ attempted errors, st' =
      { st with optimizerAttempted := attempted, optimizerErrorCount := errors } := by
  unfold optimizerPayload at h
  split at h
  · cases h
    exact ⟨_, _, rfl⟩
  split at h
  · cases h
    exact ⟨_, _, rfl⟩
  split at h
  · cases h
    exact ⟨_, _, rfl⟩
  · cases h
  · cases h
    exact ⟨_, _, rfl⟩

theorem optimizerPayload_kept
    (h : optimizerPayload host config call records index st = .ok (optimized, st')) :
    Kept st st' := by
  obtain ⟨attempted, errors, rfl⟩ := optimizerPayload_asked h
  rfl

variable {e : ExecutionLeaseError}

theorem optimizerPayload_error (h : optimizerPayload host config call records index st = .error e) :
    RaisedByOptimizer call e := by
  unfold optimizerPayload at h
  split at h
  · cases h
  split at h
  · cases h
  rename_i optimizer has
  split at h
  · cases h
  · rename_i raised
    cases h
    unfold optimizerOf at has
    split at has
    · cases has
    obtain ⟨get, toolkit, has⟩ := Option.bind_eq_some_iff.mp has
    exact ⟨get, _, optimizer, _, _, _, toolkit, has, raised⟩
  · cases h

theorem applySoftCompaction_error
    (h : applySoftCompaction host config call records index st = .error e) :
    RaisedByOptimizer call e := by
  unfold applySoftCompaction at h
  cases answered : optimizerPayload host config call records index st with
  | error e' =>
    rw [answered] at h
    cases h
    exact optimizerPayload_error answered
  | ok answer =>
    rw [answered] at h
    dsimp only [bind, Except.bind] at h
    split at h
    · cases h
    · split at h
      · cases h
      · cases h

def genericFor (host : BudgetHost) (config : ToolResultBudgetConfig) (call : BudgetCall)
    (records : List ResultRecord) (index : Nat) (target : Int) : Value :=
  compactPayloadForTarget host (record records index) call.reason config.previewChars (some target)

variable {target : Int}

theorem applyHardCompaction_cases {applied : Bool}
    (h : applyHardCompaction host config call records index target st = .ok (applied, st')) :
    (applied = false ∧ Kept st st' ∧ st.chars index ≤
      (record records index).chars host (genericFor host config call records index target)) ∨
    (applied = true ∧ Lowered index st st') := by
  obtain ⟨⟨optimized, asked⟩, answered, h⟩ := Effect.bind_ok h
  have kept := optimizerPayload_kept answered
  have tried := Except.ok.inj h
  obtain ⟨eq, large⟩ | ⟨next, eq, lowered⟩ := applyFirst_cases
    (sortedBy ((record records index).chars host)
      ((semantic optimized).toList ++ [genericFor host config call records index target])) asked
  · have same := eq.symm.trans tried
    cases same
    have generic := large _ (mem_sortedBy.mpr (List.mem_append_right _ (List.mem_singleton.mpr rfl)))
    rw [kept.chars] at generic
    exact .inl ⟨rfl, kept, generic⟩
  · have same := eq.symm.trans tried
    cases same
    exact .inr ⟨rfl, kept.lowered lowered⟩

theorem applyHardCompaction_error
    (h : applyHardCompaction host config call records index target st = .error e) :
    RaisedByOptimizer call e := by
  unfold applyHardCompaction at h
  cases answered : optimizerPayload host config call records index st with
  | error e' =>
    rw [answered] at h
    cases h
    exact optimizerPayload_error answered
  | ok answer =>
    rw [answered] at h
    cases h

/-! ### What no step breaks -/

/-- A property that neither asking an optimizer nor offering a payload breaks. -/
structure Unbroken (host : BudgetHost) (records : List ResultRecord) (P : BudgetState → Prop) :
    Prop where
  asked : ∀ st attempted errors, P st →
    P { st with optimizerAttempted := attempted, optimizerErrorCount := errors }
  applied : ∀ st index payload, P st → P (applyPayload host records index payload st).2

section Unbroken

variable {P : BudgetState → Prop} (unbroken : Unbroken host records P)
include unbroken

variable {index : Nat} {st st' : BudgetState}

theorem Unbroken.optimizerPayload {optimized : Option Value} (holds : P st)
    (h : optimizerPayload host config call records index st = .ok (optimized, st')) : P st' := by
  obtain ⟨attempted, errors, rfl⟩ := optimizerPayload_asked h
  exact unbroken.asked st attempted errors holds

theorem Unbroken.applyFirst (candidates : List Value) (holds : P st) :
    P (applyFirst host records index candidates st).2 := by
  induction candidates with
  | nil => exact holds
  | cons candidate candidates ih =>
    have taken := unbroken.applied st index candidate holds
    obtain ⟨eq, -⟩ | ⟨st', eq, -⟩ := applyPayload_cases candidate st
    · rw [ResultBudget.applyFirst, eq]
      exact ih
    · rw [eq] at taken
      rw [ResultBudget.applyFirst, eq]
      exact taken

theorem Unbroken.applySoftCompaction (holds : P st)
    (h : applySoftCompaction host config call records index st = .ok st') : P st' := by
  obtain ⟨⟨optimized, next⟩, answered, h⟩ := Effect.bind_ok h
  have holds := unbroken.optimizerPayload holds answered
  dsimp only at h
  split at h
  · have same := Except.ok.inj h
    rw [← same]
    exact unbroken.applied _ _ _ holds
  · rename_i payload answer
    have taken := unbroken.applied next index payload holds
    split at h
    · have same := Except.ok.inj h
      rw [← same]
      exact taken
    · have same := Except.ok.inj h
      rw [← same]
      exact unbroken.applied _ _ _ taken

theorem Unbroken.applyHardCompaction {target : Int} {applied : Bool} (holds : P st)
    (h : applyHardCompaction host config call records index target st = .ok (applied, st')) :
    P st' := by
  obtain ⟨⟨optimized, next⟩, answered, h⟩ := Effect.bind_ok h
  have holds := unbroken.optimizerPayload holds answered
  have same := congrArg Prod.snd (Except.ok.inj h)
  dsimp only at same
  rw [← same]
  exact unbroken.applyFirst _ holds

variable {indices : List Nat}

theorem Unbroken.softPass (holds : P st)
    (h : softPass host config call records indices st = .ok st') : P st' := by
  induction indices generalizing st with
  | nil =>
    cases h
    exact holds
  | cons index indices ih =>
    rw [ResultBudget.softPass] at h
    split at h
    · obtain ⟨next, soft, h⟩ := Effect.bind_ok h
      exact ih (unbroken.applySoftCompaction holds soft) h
    · exact ih holds h

theorem Unbroken.hardPass {changed changed' : Bool} (holds : P st)
    (h : hardPass host config call records indices st changed = .ok (st', changed')) : P st' := by
  induction indices generalizing st changed with
  | nil =>
    cases h
    exact holds
  | cons index indices ih =>
    rw [ResultBudget.hardPass] at h
    split at h
    · cases h
      exact holds
    · obtain ⟨⟨applied, next⟩, hard, h⟩ := Effect.bind_ok h
      exact ih (unbroken.applyHardCompaction holds hard) h

theorem Unbroken.shrunkState (holds : P (initialState records))
    (h : shrunkState host config call records = some (.ok st)) : P st := by
  unfold ResultBudget.shrunkState at h
  cases soft : ResultBudget.softPass host config call records (List.range records.length)
      (initialState records) with
  | error e =>
    rw [soft] at h
    cases h
  | ok next =>
    rw [soft] at h
    refine repeatPass_keeps (fun s s' changed holds passed => ?_) (unbroken.softPass holds soft) h
    exact unbroken.hardPass holds passed

end Unbroken

/-! ### What a record cannot be refused -/

theorem chars_compact (record : ResultRecord) (reason : String) (previewChars : Int) :
    record.chars host (record.compact host reason previewChars) =
      budgetedChars host (record.compact host reason previewChars) := by
  unfold ResultRecord.chars payloadChars ResultRecord.compact compactPayload serializePayload
  cases record.payloadFormat with
  | native => rfl
  | rawString | jsonString => simp only [valueChars, String.toList_ofList, budgetedChars]

theorem one_le_chars_compact (record : ResultRecord) (reason : String) (previewChars : Int) :
    1 ≤ record.chars host (record.compact host reason previewChars) := by
  rw [chars_compact, ResultRecord.compact, compactPayload]
  refine Nat.le_min.mpr ⟨?_, by decide⟩
  rw [stableJsonDumps]
  split
  · rename_i json written
    rw [Value.toJson] at written
    obtain ⟨members, -, rfl⟩ := Effect.map_ok written
    rw [Json.length_canonical_obj]
    omega
  · exact Nat.succ_le_succ (Nat.zero_le _)

/-- What the compaction of a record without a preview takes. -/
def minimalChars (host : BudgetHost) (call : BudgetCall) (record : ResultRecord) : Nat :=
  record.chars host (record.minimal host call.reason)

/-- A record that is offered a compaction for a target below its size, and is not shrunk, is no
larger than its compaction without a preview. -/
theorem chars_le_minimalChars (exceeds : (st.total : Int) > maxBatchChars config)
    (offered : st.chars index ≤ (record records index).chars host
      (genericFor host config call records index (targetChars config index st))) :
    st.chars index ≤ minimalChars host call (record records index) := by
  by_cases fits : (record records index).fits host call.reason (targetChars config index st) 0 = true
  · have within : ((record records index).chars host
        (genericFor host config call records index (targetChars config index st)) : Int) ≤
          targetChars config index st := chars_compactPayloadForTarget_le fits
    have nothing : st.chars index = 0 := by
      unfold targetChars at within offered
      omega
    rw [nothing]
    exact Nat.zero_le _
  · have large := fun le => fits (fits_zero_iff.mpr le)
    rw [genericFor, compactPayloadForTarget, if_pos (Int.not_le.mp large)] at offered
    exact offered

/-! ### Rounds -/

/-- Every record has a size, and none is larger than it was. -/
structure Fair (records : List ResultRecord) (st : BudgetState) : Prop where
  length_eq : st.currentChars.length = records.length
  chars_le : ∀ index, st.chars index ≤ (record records index).originalChars

theorem fair_initialState : Fair records (initialState records) where
  length_eq := List.length_map _
  chars_le index := by
    unfold BudgetState.chars initialState record
    rw [List.getD_eq_getElem?_getD, List.getElem?_map, List.getD_eq_getElem?_getD]
    cases records[index]? with
    | none | some record => exact Nat.le_refl _

theorem unbroken_fair :
    Unbroken host records (Fair records) where
  asked _ _ _ fair := ⟨fair.length_eq, fair.chars_le⟩
  applied st index payload fair := by
    obtain ⟨eq, -⟩ | ⟨st', eq, lowered⟩ := applyPayload_cases payload st
    · rw [eq]
      exact fair
    · rw [eq]
      refine ⟨?_, fun other => Nat.le_trans (lowered.chars_le other) (fair.chars_le other)⟩
      obtain ⟨size, -, set⟩ := lowered
      rw [set, List.length_set]
      exact fair.length_eq

variable {indices : List Nat}

theorem softPass_error (h : softPass host config call records indices st = .error e) :
    RaisedByOptimizer call e := by
  induction indices generalizing st with
  | nil => cases h
  | cons index indices ih =>
    rw [softPass] at h
    split at h
    · cases soft : applySoftCompaction host config call records index st with
      | error e' =>
        rw [soft] at h
        cases h
        exact applySoftCompaction_error soft
      | ok next =>
        rw [soft] at h
        exact ih h
    · exact ih h

variable {changed : Bool}

/-- How a round ends: it changed nothing, and the batch is within its bound or no record is larger
than its compaction without a preview; or it made the total smaller. -/
theorem hardPass_spec {changed' : Bool}
    (h : hardPass host config call records indices st changed = .ok (st', changed')) :
    (changed' = changed ∧ Kept st st' ∧ ((st'.total : Int) ≤ maxBatchChars config ∨
        ∀ index ∈ indices, st.chars index ≤ minimalChars host call (record records index))) ∨
      (changed' = true ∧ st'.total < st.total) := by
  induction indices generalizing st changed with
  | nil =>
    cases h
    exact .inl ⟨rfl, rfl, .inr (by simp)⟩
  | cons index indices ih =>
    rw [hardPass] at h
    split at h
    · rename_i within
      cases h
      exact .inl ⟨rfl, rfl, .inl within⟩
    · rename_i exceeds
      obtain ⟨⟨applied, next⟩, hard, h⟩ := Effect.bind_ok h
      obtain ⟨rfl, kept, offered⟩ | ⟨rfl, lowered⟩ := applyHardCompaction_cases hard
      · have small := chars_le_minimalChars (Int.not_le.mp exceeds) offered
        obtain ⟨same, kept', stalled⟩ | ⟨true', lower⟩ := ih h
        · refine .inl ⟨same, kept'.trans kept, ?_⟩
          refine stalled.imp id fun rest => List.forall_mem_cons.mpr ⟨small, ?_⟩
          intro other mem
          have := rest other mem
          rwa [kept.chars] at this
        · rw [kept.total] at lower
          exact .inr ⟨true', lower⟩
      · have lower := lowered.total_lt
        obtain ⟨same, kept', -⟩ | ⟨true', lower'⟩ := ih h
        · rw [← kept'.total] at lower
          exact .inr ⟨same, lower⟩
        · exact .inr ⟨true', lower'.trans lower⟩

theorem hardPass_error (h : hardPass host config call records indices st changed = .error e) :
    RaisedByOptimizer call e := by
  induction indices generalizing st changed with
  | nil => cases h
  | cons index indices ih =>
    rw [hardPass] at h
    split at h
    · cases h
    · cases hard : applyHardCompaction host config call records index
          (targetChars config index st) st with
      | error e' =>
        rw [hard] at h
        cases h
        exact applyHardCompaction_error hard
      | ok next =>
        rw [hard] at h
        exact ih h

/-! ### Whole runs -/

/-- The smaller of what the record had and what its compaction without a preview takes. -/
def floorChars (host : BudgetHost) (call : BudgetCall) (record : ResultRecord) : Nat :=
  min record.originalChars (minimalChars host call record)

def floorTotal (host : BudgetHost) (call : BudgetCall) (records : List ResultRecord) : Nat :=
  (records.map (floorChars host call)).sum

theorem total_le_floorTotal (fair : Fair records st) (small : ∀ index < records.length,
      st.chars index ≤ minimalChars host call (record records index)) :
    st.total ≤ floorTotal host call records := by
  refine sum_le_sum_of_getD (by rw [fair.length_eq, List.length_map]) fun index inside => ?_
  rw [fair.length_eq] at inside
  have bound : (records.map (floorChars host call)).getD index 0 =
      floorChars host call (record records index) := by
    unfold record
    rw [List.getD_eq_getElem?_getD, List.getElem?_map, List.getD_eq_getElem?_getD,
      List.getElem?_eq_getElem inside]
    rfl
  rw [bound]
  exact Nat.le_min.mpr ⟨fair.chars_le index, small index inside⟩

theorem chars_le_total (st : BudgetState) (index : Nat) : st.chars index ≤ st.total := by
  unfold BudgetState.chars BudgetState.total
  generalize st.currentChars = sizes
  induction sizes generalizing index with
  | nil => exact Nat.zero_le _
  | cons size sizes ih =>
    cases index with
    | zero => exact Nat.le_add_right _ _
    | succ index => exact (ih index).trans (Nat.le_add_left _ _)

/-- A batch within its bound: a bound below one counts as one, and a batch of at most one character
is no larger than its compactions. -/
theorem total_le_of_within (fair : Fair records st)
    (within : (st.total : Int) ≤ maxBatchChars config) :
    (st.total : Int) ≤ max config.maxBatchChars (floorTotal host call records) := by
  by_cases positive : 1 ≤ config.maxBatchChars
  · unfold maxBatchChars at within
    omega
  · have single : st.total ≤ 1 := by
      unfold maxBatchChars at within
      omega
    have below : st.total ≤ floorTotal host call records :=
      total_le_floorTotal fair fun index _ =>
        ((chars_le_total st index).trans single).trans (one_le_chars_compact _ _ _)
    omega

/-- The loop ends with the batch within its bound or no larger than its compactions. -/
theorem hardPasses_spec (fair : Fair records st) :
    (∃ e, hardPasses host config call records (st.total + 1) st = some (.error e) ∧
        RaisedByOptimizer call e) ∨
      ∃ st', hardPasses host config call records (st.total + 1) st = some (.ok st') ∧
        Fair records st' ∧
          (st'.total : Int) ≤ max config.maxBatchChars (floorTotal host call records) := by
  let exceeds (st : BudgetState) : Bool := decide ((st.total : Int) > maxBatchChars config)
  let pass (st : BudgetState) := hardPass host config call records (largestFirst records st) st false
  have kept : ∀ s s' changed, Fair records s → exceeds s = true → pass s = .ok (s', changed) →
      Fair records s' ∧ (changed = true → s'.total < s.total) := by
    intro s s' changed fair _ passed
    have fair' := (unbroken_fair).hardPass fair passed
    obtain ⟨same, -, -⟩ | ⟨-, lower⟩ := hardPass_spec passed
    · exact ⟨fair', fun true' => by rw [true'] at same; cases same⟩
    · exact ⟨fair', fun _ => lower⟩
  obtain ⟨result, ran, ends⟩ := repeatPass_ends kept fair (Nat.lt_succ_self st.total)
  cases result with
  | error e =>
    obtain ⟨t, -, -, failed⟩ := ends
    exact .inl ⟨e, ran, hardPass_error failed⟩
  | ok st' =>
    obtain ⟨fair', within | ⟨t, fairT, above, stalled⟩⟩ := ends
    · refine .inr ⟨st', ran, fair', total_le_of_within fair' ?_⟩
      have := of_decide_eq_false within
      omega
    · refine .inr ⟨st', ran, fair', ?_⟩
      obtain ⟨-, same, within | small⟩ | ⟨true', -⟩ := hardPass_spec stalled
      · exact total_le_of_within fair' within
      · have below : t.total ≤ floorTotal host call records := by
          refine total_le_floorTotal fairT fun index inside => small index ?_
          exact mem_sortedBy.mpr (List.mem_range.mpr inside)
        rw [same.total]
        omega
      · cases true'

theorem shrunkState_spec (config : ToolResultBudgetConfig) (call : BudgetCall) :
    (∃ e, shrunkState host config call records = some (.error e) ∧ RaisedByOptimizer call e) ∨
      ∃ st, shrunkState host config call records = some (.ok st) ∧ Fair records st ∧
        (st.total : Int) ≤ max config.maxBatchChars (floorTotal host call records) := by
  unfold shrunkState
  cases soft : softPass host config call records (List.range records.length)
      (initialState records) with
  | error e => exact .inl ⟨e, rfl, softPass_error soft⟩
  | ok st =>
    have fair := (unbroken_fair).softPass (fair_initialState) soft
    exact hardPasses_spec fair

end Unchain.Tools.ResultBudget
