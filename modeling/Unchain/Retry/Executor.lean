import Mathlib.Algebra.Ring.Int.Defs
import Mathlib.Data.List.Basic

/-!
The retry loop around a provider call (`retry/executor.py`, `retry/backoff.py`).

A run is the list of the calls it makes and how it ends. What a callback answers is given by the
number of the attempt it is called for: there is at most one such call, so these are all the
answers there are. Exceptions stand for themselves, with what the classifier says of them.
-/

namespace Unchain.Retry

/-- `RetryConfig`; the jitter is drawn by `Callbacks.jitter`. -/
structure RetryConfig where
  maxRetries : Nat
  baseDelayMs : Int
  maxDelayMs : Int

structure Classifier (E : Type) where
  isRetryable : E → Bool
  extractRetryAfterMs : E → Option Int
  hasStatusCode : E → Bool

/-- The operation and the callbacks; each may raise, and some may be missing. -/
structure Callbacks (E α : Type) where
  operation : Nat → Except E α
  beforeAttempt : Option (Nat → Except E Unit)
  afterAttempt : Option (Nat → Except E Unit)
  shouldStop : Option (Nat → Except E Bool)
  onRetry : Option (Nat → Except E Unit)
  sleep : Nat → Except E Unit
  completedAt : Nat → String
  jitter : Nat → Int → Except E Int

inductive Call (E : Type) where
  | beforeAttempt (attemptNumber : Nat)
  | operation (attemptNumber : Nat)
  | afterAttempt (attemptNumber : Nat) (completedAt outcome disposition : String)
  | shouldStop
  | onRetry (attempt : Nat) (error : E) (delayMs : Int) (maxRetries : Nat)
  | sleep (delayMs : Int)

inductive Raised (E : Type) where
  | original (error : E)
  | retriesExhausted (lastError : E) (attempts : Nat)
  | valueError (message : String)
  | assertion

structure Run (E α : Type) where
  calls : List (Call E)
  outcome : Except (Raised E) α

variable {E α β : Type}

namespace Run

instance : Monad (Run E) where
  pure a := ⟨[], .ok a⟩
  bind r f :=
    match r.outcome with
    | .ok a => ⟨r.calls ++ (f a).calls, (f a).outcome⟩
    | .error e => ⟨r.calls, .error e⟩

def lift (outcome : Except (Raised E) α) : Run E α := ⟨[], outcome⟩

def call (c : Call E) (answer : Except E α) : Run E α := ⟨[c], answer.mapError .original⟩

/-- A callback that may be missing. -/
def callIfGiven (c : Call E) (default : α) : Option (Except E α) → Run E α
  | none => pure default
  | some answer => call c answer

def Exhausted (r : Run E α) : Prop :=
  ∃ lastError attempts, r.outcome = .error (.retriesExhausted lastError attempts)

end Run

/-- `compute_delay_ms`. -/
def computeDelayMs (jitter : Int → Except E Int) (attempt : Nat) (config : RetryConfig)
    (retryAfterMs : Option Int) : Except (Raised E) Int :=
  if attempt < 1 then .error (.valueError ("attempt must be >= 1, got " ++ toString attempt))
  else
    match retryAfterMs with
    | some ms => .ok (max 0 (min ms config.maxDelayMs))
    | none =>
      (jitter (min (config.baseDelayMs * 2 ^ (attempt - 1)) config.maxDelayMs)).mapError .original

section Loop

variable (config : RetryConfig) (classifier : Classifier E) (callbacks : Callbacks E α)

/-- `_failure_outcome`. -/
def failureOutcome (error : E) : String :=
  if classifier.hasStatusCode error then "failed" else "uncertain"

def report (n : Nat) (outcome disposition : String) : Run E Unit :=
  .callIfGiven (.afterAttempt n (callbacks.completedAt n) outcome disposition) ()
    (callbacks.afterAttempt.map (· n))

/-- What stands behind the loop. -/
def exhausted : Option E → Run E α
  | none => .lift (.error .assertion)
  | some lastError => .lift (.error (.retriesExhausted lastError config.maxRetries))

/-- The loop over the attempt numbers, with `last_error`. -/
def rounds : List Nat → Option E → Run E α
  | [], lastError => exhausted config lastError
  | n :: ns, _ => do
    Run.callIfGiven (.beforeAttempt n) () (callbacks.beforeAttempt.map (· n))
    Run.call (.operation n) (.ok ())
    match callbacks.operation n with
    | .ok result => do
      report callbacks n "completed" "success"
      return result
    | .error error => do
      report callbacks n (failureOutcome classifier error)
        (if classifier.isRetryable error then "retryable" else "terminal")
      if !classifier.isRetryable error then Run.lift (.error (.original error))
      else if config.maxRetries ≤ n then exhausted config (some error)
      else do
        let stop ← Run.callIfGiven .shouldStop false (callbacks.shouldStop.map (· n))
        if stop then Run.lift (.error (.original error))
        else do
          let delayMs ← Run.lift (computeDelayMs (callbacks.jitter n) (n + 1) config
            (classifier.extractRetryAfterMs error))
          Run.callIfGiven (.onRetry (n + 1) error delayMs config.maxRetries) ()
            (callbacks.onRetry.map (· n))
          Run.call (.sleep delayMs) (callbacks.sleep n)
          rounds ns (some error)

def executeWithRetry : Run E α :=
  rounds config classifier callbacks (List.range (config.maxRetries + 1)) none

end Loop

/-! ### What is counted -/

/-- The attempts whose operation was started. -/
def started (calls : List (Call E)) : List Nat :=
  calls.filterMap fun
    | .operation n => some n
    | _ => none

/-- The attempts that were accounted for. -/
def accounted (calls : List (Call E)) : List Nat :=
  calls.filterMap fun
    | .afterAttempt n _ _ _ => some n
    | _ => none

/-- How often the run slept between one start and the next, with the sleeps since the last start
before these calls. -/
def sleepsBetween : Option Nat → List (Call E) → List Nat
  | _, [] => []
  | since, .operation _ :: calls => since.toList ++ sleepsBetween (some 0) calls
  | since, .sleep _ :: calls => sleepsBetween (since.map (· + 1)) calls
  | since, _ :: calls => sleepsBetween since calls

section Accounting

variable {config : RetryConfig} {classifier : Classifier E} {callbacks : Callbacks E α}

/-- The callback returns at the attempt, if there is one. -/
def Returns (callback : Option (Nat → Except E Unit)) (n : Nat) : Prop :=
  ∀ f ∈ callback, f n = .ok ()

/-- The attempt failed with a retryable error, and was accounted for. -/
def Fails (classifier : Classifier E) (callbacks : Callbacks E α) (n : Nat) : Prop :=
  (∃ error, callbacks.operation n = .error error ∧ classifier.isRetryable error = true) ∧
    Returns callbacks.afterAttempt n

/-- What holds of a run from the attempt `m` on, where `P` says that the attempt before failed. -/
def Accounted (config : RetryConfig) (classifier : Classifier E) (callbacks : Callbacks E α)
    (m : Nat) (since : Option Nat) (P : Prop) (r : Run E β) : Prop :=
  ∃ k, m + k ≤ config.maxRetries + 1 ∧ started r.calls = List.range' m k ∧
    accounted r.calls = (if callbacks.afterAttempt.isSome then List.range' m k else []) ∧
    (∀ n ∈ List.range' m k, Returns callbacks.beforeAttempt n) ∧
    (∀ sleeps ∈ sleepsBetween since r.calls, sleeps = 1) ∧
    (r.Exhausted ↔ m + k = config.maxRetries + 1 ∧ P ∧
      ∀ n, m ≤ n → n ≤ config.maxRetries → Fails classifier callbacks n)

/-- Calls that start nothing and account for nothing. -/
def Passes (since since' : Option Nat) (calls : List (Call E)) : Prop :=
  started calls = [] ∧ accounted calls = [] ∧
    ∀ rest, sleepsBetween since (calls ++ rest) = sleepsBetween since' rest

variable {since since' : Option Nat} {m n : Nat} {P : Prop}

theorem bind_of_ok {r : Run E α} {f : α → Run E β} {a : α} (h : r.outcome = .ok a) :
    r >>= f = ⟨r.calls ++ (f a).calls, (f a).outcome⟩ := by
  show (match r.outcome with | .ok a => _ | .error e => _) = _
  rw [h]

theorem bind_of_error {r : Run E α} {f : α → Run E β} {e : Raised E} (h : r.outcome = .error e) :
    r >>= f = ⟨r.calls, .error e⟩ := by
  show (match r.outcome with | .ok a => _ | .error e => _) = _
  rw [h]

theorem started_append (xs ys : List (Call E)) : started (xs ++ ys) = started xs ++ started ys :=
  List.filterMap_append

theorem accounted_append (xs ys : List (Call E)) :
    accounted (xs ++ ys) = accounted xs ++ accounted ys :=
  List.filterMap_append

theorem accounted_end {r : Run E β} (passes : Passes since since' r.calls) (plain : ¬ r.Exhausted)
    (below : m ≤ config.maxRetries + 1) (open_ : P → m ≤ config.maxRetries) :
    Accounted config classifier callbacks m since P r := by
  obtain ⟨start, account, sleeps⟩ := passes
  have silent := sleeps []
  rw [List.append_nil] at silent
  refine ⟨0, below, start, by simp [account], nofun, by simp [silent, sleepsBetween], ?_⟩
  constructor
  · intro raised
    exact absurd raised plain
  · rintro ⟨full, failed, -⟩
    have := open_ failed
    omega

theorem accounted_bind {γ : Type} {r : Run E γ} {f : γ → Run E β}
    (passes : Passes since since' r.calls) (plain : ¬ r.Exhausted) (below : m ≤ config.maxRetries)
    (next : ∀ a, r.outcome = .ok a → Accounted config classifier callbacks m since' P (f a)) :
    Accounted config classifier callbacks m since P (r >>= f) := by
  cases outcome : r.outcome with
  | error e =>
    rw [bind_of_error outcome]
    apply accounted_end (r := ⟨r.calls, .error e⟩) passes _ (by omega) fun _ => below
    rintro ⟨lastError, attempts, ⟨⟩⟩
    exact plain ⟨lastError, attempts, outcome⟩
  | ok a =>
    obtain ⟨k, fits, start, account, admitted, sleeps, raises⟩ := next a outcome
    obtain ⟨start', account', silent⟩ := passes
    rw [bind_of_ok outcome]
    refine ⟨k, fits, ?_, ?_, admitted, ?_, raises⟩
    · rw [started_append, start', start]
      rfl
    · rw [accounted_append, account', account]
      rfl
    · rw [silent]
      exact sleeps

/-! ### The calls of a round -/

theorem not_exhausted_call {c : Call E} {answer : Except E β} : ¬ (Run.call c answer).Exhausted := by
  rintro ⟨lastError, attempts, same⟩
  cases answer <;> cases same

theorem not_exhausted_callIfGiven {c : Call E} {default : β} {answer : Option (Except E β)} :
    ¬ (Run.callIfGiven c default answer).Exhausted := by
  cases answer with
  | none => rintro ⟨lastError, attempts, ⟨⟩⟩
  | some answer => exact not_exhausted_call

theorem passes_nil : Passes since since ([] : List (Call E)) := ⟨rfl, rfl, fun _ => rfl⟩

/-- A callback that is neither the operation nor the accounting nor the sleep. -/
theorem passes_callIfGiven {c : Call E} {default : β} {answer : Option (Except E β)}
    (other : Passes since since [c]) : Passes since since (Run.callIfGiven c default answer).calls := by
  cases answer with
  | none => exact passes_nil
  | some answer => exact other

theorem report_calls (callbacks : Callbacks E α) (n : Nat) (outcome disposition : String) :
    started (report callbacks n outcome disposition).calls = [] ∧
    accounted (report callbacks n outcome disposition).calls =
      (if callbacks.afterAttempt.isSome then [n] else []) ∧
    ∀ since rest, sleepsBetween since ((report callbacks n outcome disposition).calls ++ rest) =
      sleepsBetween since rest := by
  unfold report
  cases callbacks.afterAttempt with
  | none | some after => exact ⟨rfl, rfl, fun _ _ => rfl⟩

theorem callIfGiven_ok {c : Call E} {callback : Option (Nat → Except E Unit)} :
    (Run.callIfGiven c () (callback.map (· n))).outcome = .ok () ↔ Returns callback n := by
  cases callback with
  | none => exact ⟨fun _ => nofun, fun _ => rfl⟩
  | some f =>
    simp only [Returns, Option.map_some, Option.mem_some_iff, forall_eq', Run.callIfGiven, Run.call]
    cases f n with
    | ok u => exact ⟨fun _ => rfl, fun _ => rfl⟩
    | error e => exact ⟨nofun, nofun⟩

/-- An attempt, its report and what comes after it. -/
theorem accounted_attempt {outcome disposition : String} {rest : Unit → Run E β}
    (due : since = none ∨ since = some 1) (inside : n ≤ config.maxRetries)
    (admitted : Returns callbacks.beforeAttempt n) (next : Returns callbacks.afterAttempt n →
      Accounted config classifier callbacks (n + 1) (some 0) (Fails classifier callbacks n)
        (rest ())) : Accounted config classifier callbacks n since True
      (Run.call (.operation n) (.ok ()) >>= fun _ =>
        report callbacks n outcome disposition >>= rest) := by
  have once : ∀ sleeps ∈ since.toList, sleeps = 1 := by
    rcases due with rfl | rfl <;> simp
  obtain ⟨start', account', silent⟩ := report_calls callbacks n outcome disposition
  have begun (r : Run E β) : (Run.call (.operation n) (.ok ()) >>= fun _ => r) =
      ⟨.operation n :: r.calls, r.outcome⟩ := rfl
  rw [begun]
  cases reported : (report callbacks n outcome disposition).outcome with
  | ok u =>
    obtain ⟨k, fits, start, account, others, sleeps, raises⟩ := next (callIfGiven_ok.mp reported)
    rw [bind_of_ok reported]
    refine ⟨k + 1, by omega, ?_, ?_, ?_, ?_, raises.trans ?_⟩
    · show n :: started (_ ++ _) = _
      rw [started_append, start', start, List.range'_succ]
      rfl
    · show accounted (Run.calls _ ++ _) = _
      rw [accounted_append, account', account]
      cases callbacks.afterAttempt <;> rfl
    · rw [List.range'_succ]
      exact List.forall_mem_cons.mpr ⟨admitted, others⟩
    · show ∀ sleeps ∈ since.toList ++ sleepsBetween (some 0) (_ ++ _), sleeps = 1
      rw [silent]
      exact List.forall_mem_append.mpr ⟨once, sleeps⟩
    · constructor
      · rintro ⟨full, failed, later⟩
        refine ⟨by omega, trivial, fun i from_ to_ => ?_⟩
        rcases Nat.eq_or_lt_of_le from_ with rfl | from_
        · exact failed
        · exact later i from_ to_
      · rintro ⟨full, -, all⟩
        exact ⟨by omega, all n (Nat.le_refl n) inside, fun i from_ => all i (by omega)⟩
  | error e =>
    rw [bind_of_error reported]
    refine ⟨1, by omega, congrArg (n :: ·) start', account', ?_, ?_, ?_⟩
    · exact List.forall_mem_singleton.mpr admitted
    · show ∀ sleeps ∈ since.toList ++ sleepsBetween (some 0) _, sleeps = 1
      have last := silent (some 0) []
      rw [List.append_nil] at last
      rw [last]
      simpa [sleepsBetween] using once
    · constructor
      · rintro ⟨_, _, ⟨⟩⟩
        exact absurd ⟨_, _, reported⟩ not_exhausted_callIfGiven
      · rintro ⟨-, -, all⟩
        have returned : (report callbacks n outcome disposition).outcome = .ok () :=
          callIfGiven_ok.mpr (all n (Nat.le_refl n) inside).2
        cases reported.symm.trans returned

theorem not_exhausted_delay {jitter : Int → Except E Int} {retryAfterMs : Option Int} :
    ¬ (Run.lift (computeDelayMs jitter (n + 1) config retryAfterMs)).Exhausted := by
  rintro ⟨_, _, same⟩
  unfold computeDelayMs at same
  cases retryAfterMs with
  | some ms => cases same
  | none =>
    cases drawn : jitter (min (config.baseDelayMs * 2 ^ (n + 1 - 1)) config.maxDelayMs) with
    | ok ms | error e =>
      rw [drawn] at same
      cases same

theorem accounted_rounds {ns : List Nat} (lastError : Option E) (due : since = none ∨ since = some 1)
    (inside : n ≤ config.maxRetries)
    (next : n < config.maxRetries → ∀ lastError, Accounted config classifier callbacks (n + 1)
      (some 1) True (rounds config classifier callbacks ns lastError)) :
    Accounted config classifier callbacks n since True
      (rounds config classifier callbacks (n :: ns) lastError) := by
  apply accounted_bind (passes_callIfGiven ⟨rfl, rfl, fun _ => rfl⟩) not_exhausted_callIfGiven inside
  intro _ admitted
  rw [callIfGiven_ok] at admitted
  cases operation : callbacks.operation n with
  | ok result =>
    apply accounted_attempt due inside admitted
    intro _
    apply accounted_end passes_nil
    · rintro ⟨_, _, ⟨⟩⟩
    · omega
    · rintro ⟨⟨error, failed, -⟩, -⟩
      cases operation.symm.trans failed
  | error error =>
    apply accounted_attempt due inside admitted
    intro reported
    have fails : classifier.isRetryable error = true → Fails classifier callbacks n :=
      fun retryable => ⟨⟨error, operation, retryable⟩, reported⟩
    split
    · next terminal =>
        apply accounted_end passes_nil
        · rintro ⟨_, _, ⟨⟩⟩
        · omega
        · rintro ⟨⟨other, failed, transient⟩, -⟩
          cases operation.symm.trans failed
          simp [transient] at terminal
    next retryable =>
    have failed := fails (by simpa using retryable)
    split
    · next last =>
        refine ⟨0, by omega, rfl, by simp [accounted, exhausted, Run.lift], nofun, nofun, ?_⟩
        constructor
        · intro _
          exact ⟨by omega, failed, fun i _ _ => by omega⟩
        · intro _
          exact ⟨error, config.maxRetries, rfl⟩
    next more =>
    apply accounted_bind (passes_callIfGiven ⟨rfl, rfl, fun _ => rfl⟩) not_exhausted_callIfGiven
      (by omega)
    intro stop _
    split
    · apply accounted_end passes_nil
      · rintro ⟨_, _, ⟨⟩⟩
      · omega
      · omega
    apply accounted_bind passes_nil not_exhausted_delay (by omega)
    intro (delayMs : Int) _
    apply accounted_bind (passes_callIfGiven ⟨rfl, rfl, fun _ => rfl⟩) not_exhausted_callIfGiven
      (by omega)
    intro _ _
    -- the one sleep before the next attempt
    have slept : Passes (some 0) (some 1) [Call.sleep (E := E) delayMs] := ⟨rfl, rfl, fun _ => rfl⟩
    apply accounted_bind slept not_exhausted_call (by omega)
    intro _ _
    simpa [failed] using next (by omega) (some error)

theorem accounted_from (j : Nat) (due : since = none ∨ since = some 1)
    (full : n + j = config.maxRetries) (lastError : Option E) :
    Accounted config classifier callbacks n since True
      (rounds config classifier callbacks (List.range' n (j + 1)) lastError) := by
  induction j generalizing n since lastError with
  | zero =>
    apply accounted_rounds lastError due (by omega)
    intro more
    omega
  | succ j ih =>
    apply accounted_rounds lastError due (by omega)
    intro _ lastError
    exact ih (.inr rfl) (by omega) lastError

end Accounting

end Unchain.Retry
