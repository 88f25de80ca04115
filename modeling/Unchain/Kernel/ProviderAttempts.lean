import Unchain.Accounting.Receipt

/-!
The accounting of the provider sends of one `step_once`.

The callbacks of the step number the sends; when the fetch is over, every send is recorded in
the run ledger under the id of its number, except the last one of a step that returns, which is
recorded with the turn. What a receipt says beside its identity is a parameter.
-/

namespace Unchain.Kernel

open Lib Lib.Effect Python Accounting

/-! ### The callbacks -/

structure ProviderAttempt where
  sourceAttempt : Nat
  retryOrdinal : Nat
  startedAt : String
  completedAt : Option String
  outcome : Option String
  classification : Option String

/-- What the callbacks share: `retry_ordinal` and `provider_attempts`. -/
structure Sends where
  retryOrdinal : Nat
  attempts : List ProviderAttempt

def providerAttemptStarted (attempt : Int) (occurredAt : String) (s : Sends) :
    Except PyError Sends :=
  if attempt < 0 then .error (.valueError "provider attempt ordinal cannot be negative")
  else
    let retryOrdinal := max s.attempts.length attempt.toNat
    .ok ⟨retryOrdinal, s.attempts ++ [⟨attempt.toNat, retryOrdinal, occurredAt, none, none, none⟩]⟩

def isOpenSend (attempt : Int) (a : ProviderAttempt) : Bool :=
  a.sourceAttempt = attempt && a.completedAt.isNone

def complete (attempt : Int) (completedAt outcome classification : String) (a : ProviderAttempt) :
    ProviderAttempt :=
  if isOpenSend attempt a then
    { a with completedAt := completedAt, outcome := outcome, classification := classification }
  else a

def providerAttemptCompleted (attempt : Int) (completedAt outcome classification : String)
    (s : Sends) : Except PyError Sends :=
  if (s.attempts.filter (isOpenSend attempt)).length ≠ 1 then
    .error (.raised "RuntimeError" "provider attempt completion does not match one open send")
  else if ! ["completed", "failed", "uncertain"].contains outcome then
    .error (.raised "RuntimeError" "provider attempt outcome is unsupported")
  else
    .ok { s with attempts := s.attempts.map (complete attempt completedAt outcome classification) }

inductive Callback where
  | started (attempt : Int) (occurredAt : String)
  | completed (attempt : Int) (completedAt outcome classification : String)

def Callback.run (s : Sends) : Callback → Except PyError Sends
  | .started attempt occurredAt => providerAttemptStarted attempt occurredAt s
  | .completed attempt completedAt outcome classification =>
    providerAttemptCompleted attempt completedAt outcome classification s

/-- A callback that raises changes nothing. -/
def Sends.play (s : Sends) (callback : Callback) : Sends :=
  match callback.run s with
  | .ok next => next
  | .error _ => s

def sends (callbacks : List Callback) : Sends := callbacks.foldl Sends.play ⟨0, []⟩

/-! ### The ledger -/

section Ledger

variable {β : Type} [DecidableEq β] (host : BundleHost)

/-- What all receipts of a step share. -/
structure StepCall where
  call : ProviderCallIdentity
  provider : String
  model : String

def StepCall.identity (step : StepCall) (retryOrdinal : Nat) : Except PyError ProviderCallIdentity :=
  ProviderCallIdentity.make host { step.call with retryOrdinal := retryOrdinal }.toDict

def StepCall.callId (step : StepCall) (retryOrdinal : Nat) : Except PyError String := do
  let identity ← step.identity host retryOrdinal
  deterministicProviderCallId host identity step.provider step.model

/-- `RunLedger.receipts`. -/
abbrev Receipts (β : Type) := List (String × β)

/-- A receipt that is there already is compared and kept. -/
def storeReceipt (compare : β → Except PyError Unit) (id : String) (receipt : β)
    (ledger : Receipts β) : Except PyError (Receipts β) :=
  match Assoc.get id ledger with
  | some stored => do
    compare stored
    return ledger
  | none => return Assoc.set id receipt ledger

variable (step : StepCall)

/-- `record_unobserved_model_attempt`. -/
def recordModelAttempt (retryOrdinal : Nat) (receipt : Except PyError β) (ledger : Receipts β) :
    Except PyError (Receipts β) := do
  let id ← step.callId host retryOrdinal
  let receipt ← receipt
  storeReceipt (fun _ => .ok ()) id receipt ledger

/-- A returned turn: the receipt it brings along, if any, and what is otherwise built of it. -/
structure Turn (β : Type) where
  providerCallReceipt : Option (ProviderCallIdentity × β)
  built : (startedAt completedAt : Option String) → Except PyError β

def recordModelTurn (turn : Turn β) (retryOrdinal : Nat) (startedAt completedAt : Option String)
    (ledger : Receipts β) : Except PyError (Receipts β) :=
  match turn.providerCallReceipt with
  | none => recordModelAttempt host step retryOrdinal (turn.built startedAt completedAt) ledger
  | some (identity, receipt) => do
    let expected ← step.identity host retryOrdinal
    raiseIf (identity ≠ expected)
      (protocolError "durable provider accounting receipt changed the live send identity")
    let id ← step.callId host retryOrdinal
    storeReceipt (fun stored => raiseIf (stored ≠ receipt)
      (protocolError "durable provider accounting receipt conflicts with memory")) id receipt ledger

variable (describe : ProviderAttempt → Except PyError β)

/-- The loop over the attempts: the ledger it leaves, and the exception that ended it, if any. -/
def recordEach : List ProviderAttempt → Receipts β → Receipts β × Option PyError
  | [], ledger => (ledger, none)
  | a :: rest, ledger =>
    match recordModelAttempt host step a.retryOrdinal (describe a) ledger with
    | .error e => (ledger, some e)
    | .ok next => recordEach rest next

/-- How the fetch ended. A failed one has its ledger read again from its persistence. -/
inductive Fetch (β : Type) where
  | raised (refresh : Receipts β → Except PyError (Receipts β))
  | returned (turn : Turn β) (completedAt : String)

/-- The last send is closed by the return. -/
def closeLast (completedAt : String) (a : ProviderAttempt) : ProviderAttempt :=
  if a.completedAt.isNone then
    { a with completedAt := completedAt, outcome := "completed", classification := "legacy_return" }
  else a

/-- `step_once`, from the end of the fetch on: the ledger, and the exception that the accounting
itself raised, if any. -/
def accountSends (s : Sends) (ledger : Receipts β) : Fetch β → Receipts β × Option PyError
  | .raised refresh =>
    match refresh ledger with
    | .error e => (ledger, some e)
    | .ok ledger => recordEach host step describe s.attempts ledger
  | .returned turn completedAt =>
    match recordEach host step describe s.attempts.dropLast ledger with
    | (ledger, some e) => (ledger, some e)
    | (ledger, none) =>
      let last := s.attempts.getLast?.map (closeLast completedAt)
      match recordModelTurn host step turn s.retryOrdinal (last.map fun a => a.startedAt)
          (last.bind fun a => a.completedAt) ledger with
      | .error e => (ledger, some e)
      | .ok ledger => (ledger, none)

end Ledger

/-! ### The numbers -/

/-- No send was started with the number that a later one is given. -/
def Unrepeated (attempts : List ProviderAttempt) : Prop :=
  ∀ i j (hi : i < attempts.length) (hj : j < attempts.length), i < j →
    attempts[i].sourceAttempt ≠ max j attempts[j].sourceAttempt

/-- A send has the number of those before it, or the caller's number if that is larger; the shared
counter is that of the last send. -/
structure Numbered (s : Sends) : Prop where
  ordinals : ∀ i (hi : i < s.attempts.length),
    s.attempts[i].retryOrdinal = max i s.attempts[i].sourceAttempt
  last : ∀ a ∈ s.attempts.getLast?, a.retryOrdinal = s.retryOrdinal

theorem complete_numbers (attempt : Int) (completedAt outcome classification : String)
    (a : ProviderAttempt) :
    (complete attempt completedAt outcome classification a).sourceAttempt = a.sourceAttempt ∧
      (complete attempt completedAt outcome classification a).retryOrdinal = a.retryOrdinal := by
  unfold complete
  split <;> exact ⟨rfl, rfl⟩

theorem Numbered.run {s next : Sends} (numbered : Numbered s) {callback : Callback}
    (ran : callback.run s = .ok next) : Numbered next := by
  cases callback with
  | started attempt occurredAt =>
    simp only [Callback.run, providerAttemptStarted] at ran
    split at ran
    · cases ran
    cases ran
    constructor
    · intro i hi
      by_cases earlier : i < s.attempts.length
      · simp only [List.getElem_append_left earlier, numbered.ordinals i earlier]
      · have last : i = s.attempts.length := by
          simp at hi
          omega
        subst last
        simp
    · simp
  | completed attempt completedAt outcome classification =>
    simp only [Callback.run, providerAttemptCompleted] at ran
    split at ran
    · cases ran
    split at ran
    · cases ran
    cases ran
    constructor
    · intro i hi
      rw [List.length_map] at hi
      obtain ⟨source, ordinal⟩ :=
        complete_numbers attempt completedAt outcome classification s.attempts[i]
      simp only [List.getElem_map, source, ordinal, numbered.ordinals i hi]
    · intro a found
      obtain ⟨b, there, rfl⟩ := Option.map_eq_some_iff.mp (List.getLast?_map.symm.trans found)
      rw [(complete_numbers attempt completedAt outcome classification b).2, numbered.last b there]

theorem numbered_sends (callbacks : List Callback) : Numbered (sends callbacks) := by
  have start : Numbered ⟨0, []⟩ := ⟨fun _ hi => absurd hi (Nat.not_lt_zero _), nofun⟩
  unfold sends
  generalize (⟨0, []⟩ : Sends) = s at start
  induction callbacks generalizing s with
  | nil => exact start
  | cons callback rest ih =>
    apply ih
    unfold Sends.play
    split
    · next ran => exact start.run ran
    · exact start

/-- A number is given twice exactly when it is the caller's number of the earlier send. -/
theorem nodup_iff_unrepeated {s : Sends} (numbered : Numbered s) :
    (s.attempts.map ProviderAttempt.retryOrdinal).Nodup ↔ Unrepeated s.attempts := by
  rw [List.Nodup, List.pairwise_map, List.pairwise_iff_getElem]
  refine forall₅_congr fun i j hi hj before => ?_
  rw [numbered.ordinals i hi, numbered.ordinals j hj]
  omega

/-! ### The receipts -/

section Accounting

variable {β : Type} {host : BundleHost} {step : StepCall}

/-- The ledger has a receipt under the number. -/
def Recorded (host : BundleHost) (step : StepCall) (ledger : Receipts β) (retryOrdinal : Nat) : Prop :=
  ∃ id, step.callId host retryOrdinal = .ok id ∧ (Assoc.get id ledger).isSome

/-- Every send has a number and a receipt of its own. -/
structure AccountsFor (host : BundleHost) (step : StepCall) (attempts : List ProviderAttempt)
    (ledger : Receipts β) : Prop where
  distinct : (attempts.map ProviderAttempt.retryOrdinal).Nodup
  recorded : ∀ a ∈ attempts, Recorded host step ledger a.retryOrdinal
  own : attempts.Pairwise fun a b =>
    step.callId host a.retryOrdinal ≠ step.callId host b.retryOrdinal

/-- A later ledger has the receipts of an earlier one. -/
def KeepsIds (ledger next : Receipts β) : Prop :=
  ∀ id, (Assoc.get id ledger).isSome → (Assoc.get id next).isSome

variable {ledger next : Receipts β}

theorem Recorded.mono {n : Nat} (kept : KeepsIds ledger next)
    (recorded : Recorded host step ledger n) : Recorded host step next n := by
  obtain ⟨id, named, there⟩ := recorded
  exact ⟨id, named, kept id there⟩

theorem storeReceipt_ok {compare : β → Except PyError Unit} {id : String} {receipt : β}
    (h : storeReceipt compare id receipt ledger = .ok next) :
    KeepsIds ledger next ∧ (Assoc.get id next).isSome := by
  unfold storeReceipt at h
  split at h
  · next stored found =>
    obtain ⟨_, -, same⟩ := bind_ok h
    cases same
    exact ⟨fun _ there => there, by rw [found]; rfl⟩
  · cases h
    refine ⟨fun k there => ?_, by simp⟩
    rw [Assoc.get_set]
    split
    · rfl
    · exact there

theorem recordModelAttempt_ok {n : Nat} {receipt : Except PyError β}
    (h : recordModelAttempt host step n receipt ledger = .ok next) :
    KeepsIds ledger next ∧ Recorded host step next n := by
  obtain ⟨id, named, h⟩ := bind_ok h
  obtain ⟨_, -, h⟩ := bind_ok h
  obtain ⟨kept, there⟩ := storeReceipt_ok h
  exact ⟨kept, id, named, there⟩

variable {describe : ProviderAttempt → Except PyError β}

theorem recordModelTurn_ok [DecidableEq β] {turn : Turn β} {n : Nat} {startedAt completedAt : Option String}
    (h : recordModelTurn host step turn n startedAt completedAt ledger = .ok next) :
    KeepsIds ledger next ∧ Recorded host step next n := by
  unfold recordModelTurn at h
  split at h
  · exact recordModelAttempt_ok h
  · obtain ⟨_, -, h⟩ := bind_ok h
    obtain ⟨-, h⟩ := raiseIf_bind_ok h
    obtain ⟨id, named, h⟩ := bind_ok h
    obtain ⟨kept, there⟩ := storeReceipt_ok h
    exact ⟨kept, id, named, there⟩

theorem recordEach_ok {attempts : List ProviderAttempt}
    (h : recordEach host step describe attempts ledger = (next, none)) :
    KeepsIds ledger next ∧ ∀ a ∈ attempts, Recorded host step next a.retryOrdinal := by
  induction attempts generalizing ledger with
  | nil =>
    cases h
    exact ⟨fun _ there => there, nofun⟩
  | cons a rest ih =>
    unfold recordEach at h
    split at h
    · cases h
    · next middle recorded =>
      obtain ⟨kept, there⟩ := recordModelAttempt_ok recorded
      obtain ⟨keptOn, others⟩ := ih h
      refine ⟨fun id first => keptOn id (kept id first), ?_⟩
      simp only [List.forall_mem_cons]
      exact ⟨there.mono keptOn, others⟩

/-- Whether the fetch returned or raised, the ledger has a receipt under the number of every
send. -/
theorem accountSends_ok [DecidableEq β] {s : Sends} (numbered : Numbered s)
    {fetch : Fetch β} (h : accountSends host step describe s ledger fetch = (next, none)) :
    ∀ a ∈ s.attempts, Recorded host step next a.retryOrdinal := by
  cases fetch with
  | raised refresh =>
    simp only [accountSends] at h
    split at h
    · cases h
    · exact (recordEach_ok h).2
  | returned turn completedAt =>
    simp only [accountSends] at h
    split at h
    · cases h
    next middle each =>
    split at h
    · cases h
    next final last =>
    cases h
    obtain ⟨kept, there⟩ := recordModelTurn_ok last
    intro a mem
    rcases List.eq_nil_or_concat s.attempts with none | ⟨front, b, shape⟩
    · simp [none] at mem
    · rw [List.concat_eq_append] at shape
      have number := numbered.last b (by simp [shape])
      rw [shape, List.dropLast_concat] at each
      rw [shape] at mem
      rcases List.mem_append.mp mem with mem | mem
      · exact ((recordEach_ok each).2 a mem).mono kept
      · rw [List.mem_singleton.mp mem, number]
        exact there

/-- The digests tell the numbers of the sends apart. -/
def NumbersApart (host : BundleHost) (step : StepCall) (attempts : List ProviderAttempt) : Prop :=
  ∀ a ∈ attempts, ∀ b ∈ attempts,
    step.callId host a.retryOrdinal = step.callId host b.retryOrdinal →
      a.retryOrdinal = b.retryOrdinal

end Accounting

/-! ### A hand-off that starts again -/

/-- A send resumed at 2, and after the hand-off the sends 0 and 1. -/
def resumedSends : List Callback := [.started 2 "t", .started 0 "u", .started 1 "v"]

end Unchain.Kernel
