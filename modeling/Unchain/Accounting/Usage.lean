import Unchain.Accounting.Fields

/-!
The token counters of provider calls and their sum (`ProviderCallUsage`).
-/

namespace Unchain.Accounting

open Lib Lib.Effect Python

/-- `_USAGE_SOURCES`. -/
inductive UsageSource where
  | providerObserved
  | providerObservedPartial
  | legacyPartial
  | unavailable
deriving DecidableEq

namespace UsageSource

def name : UsageSource → String
  | providerObserved => "provider_observed"
  | providerObservedPartial => "provider_observed_partial"
  | legacyPartial => "legacy_partial"
  | unavailable => "unavailable"

def named (s : String) : Option UsageSource :=
  [providerObserved, providerObservedPartial, legacyPartial, unavailable].find? fun x => x.name = s

theorem named_name (x : UsageSource) : named x.name = some x := by
  cases x <;> decide

end UsageSource

/-- `ProviderCallUsage`: nullable, disjoint token counters. -/
@[ext] structure ProviderCallUsage where
  inputUncachedTokens : Option Nat
  inputCacheReadTokens : Option Nat
  inputCacheWriteTokens : Option Nat
  inputCacheWrite5mTokens : Option Nat
  inputCacheWrite1hTokens : Option Nat
  inputTotalTokens : Option Nat
  outputVisibleTokens : Option Nat
  outputReasoningTokens : Option Nat
  outputTotalTokens : Option Nat
  totalTokens : Option Nat
  source : UsageSource
deriving DecidableEq

namespace ProviderCallUsage

/-- The constructor's arguments, before it looks at them. -/
structure Args where
  inputUncachedTokens : Value
  inputCacheReadTokens : Value
  inputCacheWriteTokens : Value
  inputCacheWrite5mTokens : Value
  inputCacheWrite1hTokens : Value
  inputTotalTokens : Value
  outputVisibleTokens : Value
  outputReasoningTokens : Value
  outputTotalTokens : Value
  totalTokens : Value
  source : Value

/-- The cache-write total, which the two parts by their time to live determine. -/
def cacheWriteTotal : (total fiveMinutes oneHour : Option Nat) → Except PyError (Option Nat)
  | none, some a, some b => .ok (some (a + b))
  | some n, some a, some b =>
    if a + b ≠ n then
      .error (protocolError "cache-write TTL components do not equal cache-write total")
    else .ok (some n)
  | total, _, _ => .ok total

def checkParts (side : String) (parts : List (Option Nat)) : Option Nat → Except PyError Unit
  | none => .ok ()
  | some total => do
    let known := parts.filterMap id
    raiseIf (total < known.sum)
      (protocolError (side ++ " token components exceed " ++ side ++ " total"))
    raiseIf (known.length = parts.length && known.sum ≠ total)
      (protocolError (side ++ " token components do not equal " ++ side ++ " total"))

def checkTotals : (total input output : Option Nat) → Except PyError Unit
  | some total, some input, some output =>
    raiseIf (input + output ≠ total)
      (protocolError "input and output totals do not equal the provider total")
  | _, _, _ => .ok ()

/-- The constructor's checks on counters that are counters. -/
def validate (u : ProviderCallUsage) : Except PyError ProviderCallUsage := do
  let cacheWrite ← cacheWriteTotal u.inputCacheWriteTokens u.inputCacheWrite5mTokens
    u.inputCacheWrite1hTokens
  checkParts "input" [u.inputUncachedTokens, u.inputCacheReadTokens, cacheWrite] u.inputTotalTokens
  checkParts "output" [u.outputVisibleTokens, u.outputReasoningTokens] u.outputTotalTokens
  checkTotals u.totalTokens u.inputTotalTokens u.outputTotalTokens
  return { u with inputCacheWriteTokens := cacheWrite }

variable (host : BundleHost)

/-- The constructor's arguments, read one by one. -/
def readCounts (args : Args) : Except PyError ProviderCallUsage := do
  let inputUncached ← optionalCount "input_uncached_tokens" args.inputUncachedTokens
  let inputCacheRead ← optionalCount "input_cache_read_tokens" args.inputCacheReadTokens
  let inputCacheWrite ← optionalCount "input_cache_write_tokens" args.inputCacheWriteTokens
  let inputCacheWrite5m ← optionalCount "input_cache_write_5m_tokens" args.inputCacheWrite5mTokens
  let inputCacheWrite1h ← optionalCount "input_cache_write_1h_tokens" args.inputCacheWrite1hTokens
  let inputTotal ← optionalCount "input_total_tokens" args.inputTotalTokens
  let outputVisible ← optionalCount "output_visible_tokens" args.outputVisibleTokens
  let outputReasoning ← optionalCount "output_reasoning_tokens" args.outputReasoningTokens
  let outputTotal ← optionalCount "output_total_tokens" args.outputTotalTokens
  let total ← optionalCount "total_tokens" args.totalTokens
  let source ← enumField host UsageSource.named "usage source" args.source
  return ⟨inputUncached, inputCacheRead, inputCacheWrite, inputCacheWrite5m, inputCacheWrite1h,
    inputTotal, outputVisible, outputReasoning, outputTotal, total, source⟩

/-- `ProviderCallUsage(...)`. -/
def make (args : Args) : Except PyError ProviderCallUsage := do
  let counters ← readCounts host args
  validate counters

/-- The counters as the constructor's arguments. -/
def toArgs (u : ProviderCallUsage) : Args where
  inputUncachedTokens := optionalValue natValue u.inputUncachedTokens
  inputCacheReadTokens := optionalValue natValue u.inputCacheReadTokens
  inputCacheWriteTokens := optionalValue natValue u.inputCacheWriteTokens
  inputCacheWrite5mTokens := optionalValue natValue u.inputCacheWrite5mTokens
  inputCacheWrite1hTokens := optionalValue natValue u.inputCacheWrite1hTokens
  inputTotalTokens := optionalValue natValue u.inputTotalTokens
  outputVisibleTokens := optionalValue natValue u.outputVisibleTokens
  outputReasoningTokens := optionalValue natValue u.outputReasoningTokens
  outputTotalTokens := optionalValue natValue u.outputTotalTokens
  totalTokens := optionalValue natValue u.totalTokens
  source := .str u.source.name

/-- The record of constructor arguments (`to_dict`). -/
def Args.toDict (args : Args) : Value :=
  .dict [("input", .dict [("uncached_tokens", args.inputUncachedTokens),
      ("cache_read_tokens", args.inputCacheReadTokens),
      ("cache_write_tokens", args.inputCacheWriteTokens),
      ("cache_write_5m_tokens", args.inputCacheWrite5mTokens),
      ("cache_write_1h_tokens", args.inputCacheWrite1hTokens),
      ("total_tokens", args.inputTotalTokens)]),
    ("output", .dict [("visible_tokens", args.outputVisibleTokens),
      ("reasoning_tokens", args.outputReasoningTokens),
      ("total_tokens", args.outputTotalTokens)]),
    ("total_tokens", args.totalTokens), ("source", args.source)]

/-- `to_dict`. -/
def toDict (u : ProviderCallUsage) : Value := u.toArgs.toDict

def inputFields : List String :=
  ["uncached_tokens", "cache_read_tokens", "cache_write_tokens", "cache_write_5m_tokens",
    "cache_write_1h_tokens", "total_tokens"]

def outputFields : List String := ["visible_tokens", "reasoning_tokens", "total_tokens"]

/-- The constructor's arguments in a record. -/
def readArgs (v : Value) : Except PyError Args := do
  let raw ← strictRecord ["input", "output", "total_tokens", "source"] "provider call usage" v
  let input ← strictRecord inputFields "provider call input usage" (raw.get "input")
  let output ← strictRecord outputFields "provider call output usage" (raw.get "output")
  return {
    inputUncachedTokens := input.get "uncached_tokens"
    inputCacheReadTokens := input.get "cache_read_tokens"
    inputCacheWriteTokens := input.get "cache_write_tokens"
    inputCacheWrite5mTokens := input.get "cache_write_5m_tokens"
    inputCacheWrite1hTokens := input.get "cache_write_1h_tokens"
    inputTotalTokens := input.get "total_tokens"
    outputVisibleTokens := output.get "visible_tokens"
    outputReasoningTokens := output.get "reasoning_tokens"
    outputTotalTokens := output.get "total_tokens"
    totalTokens := raw.get "total_tokens"
    source := raw.get "source" }

/-- `from_dict`. -/
def fromDict (v : Value) : Except PyError ProviderCallUsage := do
  let args ← readArgs v
  make host args

/-- `has_observed_total`. -/
def hasObservedTotal (u : ProviderCallUsage) : Bool := u.totalTokens.isSome

/-! ### The sum -/

/-- `None` as soon as one value is unknown, their sum otherwise. -/
def sumKnown (values : List (Option Nat)) : Option Nat :=
  (values.mapM id).map List.sum

/-- The counters by name (`_FIELDS`). -/
def fieldValues (u : ProviderCallUsage) : List (Option Nat) :=
  [u.inputUncachedTokens, u.inputCacheReadTokens, u.inputCacheWriteTokens,
    u.inputCacheWrite5mTokens, u.inputCacheWrite1hTokens, u.inputTotalTokens,
    u.outputVisibleTokens, u.outputReasoningTokens, u.outputTotalTokens, u.totalTokens]

def empty : ProviderCallUsage :=
  ⟨none, none, none, none, none, none, none, none, none, none, .unavailable⟩

/-- The source of a sum whose counters have been added up. -/
def sumSource (sources : List UsageSource) (values : List (Option Nat)) : UsageSource :=
  if sources.contains .legacyPartial then .legacyPartial
  else if sources.contains .unavailable then
    if sources.all (· = .unavailable) then .unavailable else .providerObservedPartial
  else if sources.all (· = .providerObserved) && values.all (·.isSome) then .providerObserved
  else .providerObservedPartial

def added (items : List ProviderCallUsage) : ProviderCallUsage :=
  let sum (field : ProviderCallUsage → Option Nat) := sumKnown (items.map field)
  let counters : ProviderCallUsage :=
    ⟨sum inputUncachedTokens, sum inputCacheReadTokens, sum inputCacheWriteTokens,
      sum inputCacheWrite5mTokens, sum inputCacheWrite1hTokens, sum inputTotalTokens,
      sum outputVisibleTokens, sum outputReasoningTokens, sum outputTotalTokens, sum totalTokens,
      .unavailable⟩
  { counters with source := sumSource (items.map source) counters.fieldValues }

/-- `ProviderCallUsage.sum`. -/
def sum (items : List ProviderCallUsage) : Except PyError ProviderCallUsage :=
  if items.isEmpty then make host empty.toArgs else make host (added items).toArgs

/-! ### Constructed counters -/

variable {host}

/-- Counters that their constructor makes again from themselves. -/
def Made (host : BundleHost) (u : ProviderCallUsage) : Prop := make host u.toArgs = .ok u

variable {total total' : Option Nat}

theorem cacheWriteTotal_again {a b : Option Nat} (h : cacheWriteTotal total a b = .ok total') :
    cacheWriteTotal total' a b = .ok total' := by
  unfold cacheWriteTotal at h
  split at h
  · cases h
    simp [cacheWriteTotal]
  · split at h
    · cases h
    · rename_i same
      cases h
      simp only [cacheWriteTotal, if_neg same]
  · rename_i notFilled notGiven
    cases h
    unfold cacheWriteTotal
    split
    · exact absurd rfl (notFilled _ _ rfl rfl)
    · exact absurd rfl (notGiven _ _ _ rfl rfl)
    · rfl

theorem cacheWriteTotal_eq {a b : Option Nat} (h : cacheWriteTotal total a b = .ok total') :
    total' = total ∨ (total = none ∧ ∃ m n, a = some m ∧ b = some n ∧ total' = some (m + n)) := by
  unfold cacheWriteTotal at h
  split at h
  · rename_i m n
    cases h
    exact .inr ⟨rfl, m, n, rfl, rfl, rfl⟩
  · split at h
    · cases h
    · cases h
      exact .inl rfl
  · cases h
    exact .inl rfl

variable {u : ProviderCallUsage}

theorem validate_again {u' : ProviderCallUsage} (h : validate u = .ok u') :
    validate u' = .ok u' ∧ u' = { u with inputCacheWriteTokens := u'.inputCacheWriteTokens } := by
  obtain ⟨cacheWrite, total, h⟩ := bind_ok h
  obtain ⟨_, input, h⟩ := bind_ok h
  obtain ⟨_, output, h⟩ := bind_ok h
  obtain ⟨_, totals, h⟩ := bind_ok h
  cases h
  refine ⟨?_, rfl⟩
  rw [validate]
  simp only [cacheWriteTotal_again total, input, output, totals, bind, Except.bind, pure,
    Except.pure]

/-- Every known counter is within the safe integer limit. -/
def Bounded (u : ProviderCallUsage) : Prop :=
  ∀ n, some n ∈ u.fieldValues → n ≤ maxSafeInteger

variable {field : String}

theorem optionalCount_value {n : Option Nat} (small : ∀ m, n = some m → m ≤ maxSafeInteger) :
    optionalCount field (optionalValue natValue n) = .ok n := by
  cases n with
  | none => rfl
  | some m => exact congrArg (Except.map some) (count_nat (small m rfl))

theorem optionalCount_le {v : Value} {n : Option Nat} (h : optionalCount field v = .ok n) (m : Nat)
    (known : n = some m) : m ≤ maxSafeInteger := by
  subst known
  unfold optionalCount optionalField at h
  split at h
  · cases h
  · obtain ⟨x, readOk, same⟩ := map_ok h
    cases same
    exact (count_ok readOk).2

variable {args : Args}

theorem readCounts_ok (h : readCounts host args = .ok u) : args = u.toArgs ∧ u.Bounded := by
  obtain ⟨uncached, uncachedOk, h⟩ := bind_ok h
  obtain ⟨read, readOk, h⟩ := bind_ok h
  obtain ⟨write, writeOk, h⟩ := bind_ok h
  obtain ⟨write5m, write5mOk, h⟩ := bind_ok h
  obtain ⟨write1h, write1hOk, h⟩ := bind_ok h
  obtain ⟨inputTotal, inputTotalOk, h⟩ := bind_ok h
  obtain ⟨visible, visibleOk, h⟩ := bind_ok h
  obtain ⟨reasoning, reasoningOk, h⟩ := bind_ok h
  obtain ⟨outputTotal, outputTotalOk, h⟩ := bind_ok h
  obtain ⟨total, totalOk, h⟩ := bind_ok h
  obtain ⟨source, sourceOk, h⟩ := bind_ok h
  cases h
  have sourceText := enumField_text sourceOk
  constructor
  · cases args
    simp only at *
    rw [optionalCount_ok uncachedOk, optionalCount_ok readOk, optionalCount_ok writeOk,
      optionalCount_ok write5mOk, optionalCount_ok write1hOk, optionalCount_ok inputTotalOk,
      optionalCount_ok visibleOk, optionalCount_ok reasoningOk, optionalCount_ok outputTotalOk,
      optionalCount_ok totalOk, sourceText]
    rfl
  · intro n mem
    simp only [fieldValues, List.mem_cons, List.not_mem_nil, or_false] at mem
    rcases mem with h | h | h | h | h | h | h | h | h | h
    · exact optionalCount_le uncachedOk n h.symm
    · exact optionalCount_le readOk n h.symm
    · exact optionalCount_le writeOk n h.symm
    · exact optionalCount_le write5mOk n h.symm
    · exact optionalCount_le write1hOk n h.symm
    · exact optionalCount_le inputTotalOk n h.symm
    · exact optionalCount_le visibleOk n h.symm
    · exact optionalCount_le reasoningOk n h.symm
    · exact optionalCount_le outputTotalOk n h.symm
    · exact optionalCount_le totalOk n h.symm

theorem readCounts_toArgs (bounded : u.Bounded) : readCounts host u.toArgs = .ok u := by
  have value : ∀ field, ∀ n ∈ u.fieldValues,
      optionalCount field (optionalValue natValue n) = .ok n := by
    intro field n mem
    refine optionalCount_value fun m known => bounded m ?_
    rwa [known] at mem
  have source : enumField host UsageSource.named "usage source" (.str u.source.name) =
      .ok u.source := enumField_name UsageSource.named_name _ _
  simp only [readCounts, toArgs, source, bind, Except.bind,
    value _ u.inputUncachedTokens (by simp [fieldValues]),
    value _ u.inputCacheReadTokens (by simp [fieldValues]),
    value _ u.inputCacheWriteTokens (by simp [fieldValues]),
    value _ u.inputCacheWrite5mTokens (by simp [fieldValues]),
    value _ u.inputCacheWrite1hTokens (by simp [fieldValues]),
    value _ u.inputTotalTokens (by simp [fieldValues]),
    value _ u.outputVisibleTokens (by simp [fieldValues]),
    value _ u.outputReasoningTokens (by simp [fieldValues]),
    value _ u.outputTotalTokens (by simp [fieldValues]),
    value _ u.totalTokens (by simp [fieldValues])]
  rfl

/-- The arguments of constructed counters are the counters, except that the cache-write total may
have been missing beside both of its parts. -/
theorem make_args (h : make host args = .ok u) : validate u = .ok u ∧
    (args = u.toArgs ∨
      (args = { u.toArgs with inputCacheWriteTokens := .none } ∧
        ∃ m n, u.inputCacheWrite5mTokens = some m ∧ u.inputCacheWrite1hTokens = some n ∧
          u.inputCacheWriteTokens = some (m + n))) := by
  obtain ⟨counters, read, valid⟩ := bind_ok h
  obtain ⟨rfl, -⟩ := readCounts_ok read
  refine ⟨(validate_again valid).1, ?_⟩
  obtain ⟨cacheWrite, filled, valid⟩ := bind_ok valid
  obtain ⟨_, -, valid⟩ := bind_ok valid
  obtain ⟨_, -, valid⟩ := bind_ok valid
  obtain ⟨_, -, valid⟩ := bind_ok valid
  cases valid
  rcases cacheWriteTotal_eq filled with rfl | ⟨missing, m, n, five, one, rfl⟩
  · exact .inl rfl
  · refine .inr ⟨?_, m, n, five, one, rfl⟩
    cases counters
    subst missing
    rfl

theorem made_of_make (h : make host args = .ok u)
    (write : ∀ n, u.inputCacheWriteTokens = some n → n ≤ maxSafeInteger) : u.Made host := by
  obtain ⟨counters, read, valid⟩ := bind_ok h
  obtain ⟨-, bounded⟩ := readCounts_ok read
  obtain ⟨again, same⟩ := validate_again valid
  have all : u.Bounded := by
    intro n mem
    rw [same] at mem
    simp only [fieldValues, List.mem_cons, List.not_mem_nil, or_false] at mem
    rcases mem with h | h | h | h | h | h | h | h | h | h
    · exact bounded n (by simp [fieldValues, h])
    · exact bounded n (by simp [fieldValues, h])
    · exact write n h.symm
    all_goals exact bounded n (by simp [fieldValues, h])
  rw [Made, make, readCounts_toArgs all]
  exact again

theorem readArgs_toDict (args : Args) : readArgs args.toDict = .ok args := rfl

theorem fromDict_toDict (made : u.Made host) : fromDict host u.toDict = .ok u := by
  rw [fromDict, toDict, readArgs_toDict]
  exact made

/-! ### What a sum says -/

/-- The counters, in the order of `fieldValues`. -/
def counters : List (ProviderCallUsage → Option Nat) :=
  [inputUncachedTokens, inputCacheReadTokens, inputCacheWriteTokens, inputCacheWrite5mTokens,
    inputCacheWrite1hTokens, inputTotalTokens, outputVisibleTokens, outputReasoningTokens,
    outputTotalTokens, totalTokens]

/-- The sum of two counters, unknown when one of them is. -/
abbrev plus : Option Nat → Option Nat → Option Nat := Option.map₂ (· + ·)

variable {values : List (Option Nat)}

theorem sumKnown_cons (v : Option Nat) (values : List (Option Nat)) :
    sumKnown (v :: values) = plus v (sumKnown values) := by
  cases v with
  | none => rfl
  | some n =>
    cases rest : values.mapM id with
    | none | some known => simp [sumKnown, rest]

theorem sumKnown_append (xs ys : List (Option Nat)) :
    sumKnown (xs ++ ys) = plus (sumKnown xs) (sumKnown ys) := by
  induction xs with
  | nil =>
    show sumKnown ys = plus (some 0) (sumKnown ys)
    cases sumKnown ys <;> simp
  | cons x xs ih =>
    rw [List.cons_append, sumKnown_cons, sumKnown_cons, ih]
    exact (Option.map₂_assoc Nat.add_assoc).symm

theorem sumKnown_perm {xs ys : List (Option Nat)} (perm : xs.Perm ys) : sumKnown xs = sumKnown ys := by
  induction perm with
  | nil => rfl
  | cons x _ ih => rw [sumKnown_cons, sumKnown_cons, ih]
  | swap x y xs =>
    rw [sumKnown_cons, sumKnown_cons, sumKnown_cons, sumKnown_cons]
    exact Option.map₂_left_comm Nat.add_left_comm
  | trans _ _ first second => exact first.trans second

theorem sumKnown_isSome :
    (sumKnown values).isSome ↔ ∀ v ∈ values, v.isSome := by
  induction values with
  | nil => simp [sumKnown]
  | cons v values ih =>
    rw [List.forall_mem_cons, ← ih, sumKnown_cons]
    cases v <;> cases sumKnown values <;> simp

variable {m : Nat}

theorem sumKnown_parts {xs ys zs : List (Option Nat)} (split : (xs ++ ys).Perm zs) {n : Nat}
    (first : sumKnown xs = some m) (second : sumKnown ys = some n) :
    sumKnown zs = some (m + n) := by
  rw [← sumKnown_perm split, sumKnown_append, first, second]
  rfl

theorem toArgs_inj {a b : ProviderCallUsage} (same : a.toArgs = b.toArgs) : a = b := by
  have value {x y : Option Nat} (eq : optionalValue natValue x = optionalValue natValue y) : x = y := by
    cases x <;> cases y
    · rfl
    · cases eq
    · cases eq
    · exact congrArg some (natValue_inj eq)
  have source : a.source = b.source := by
    have names := Value.str.inj (congrArg Args.source same)
    have again := UsageSource.named_name a.source
    rw [names, UsageSource.named_name] at again
    exact (Option.some.inj again).symm
  exact ProviderCallUsage.ext (value (congrArg Args.inputUncachedTokens same))
    (value (congrArg Args.inputCacheReadTokens same)) (value (congrArg Args.inputCacheWriteTokens same))
    (value (congrArg Args.inputCacheWrite5mTokens same))
    (value (congrArg Args.inputCacheWrite1hTokens same)) (value (congrArg Args.inputTotalTokens same))
    (value (congrArg Args.outputVisibleTokens same)) (value (congrArg Args.outputReasoningTokens same))
    (value (congrArg Args.outputTotalTokens same)) (value (congrArg Args.totalTokens same)) source

/-! ### What the constructor asks of the counters -/

def knownSum (parts : List (Option Nat)) : Nat := (parts.filterMap id).sum

theorem knownSum_cons (p : Option Nat) (parts : List (Option Nat)) :
    knownSum (p :: parts) = p.getD 0 + knownSum parts := by
  cases p <;> simp [knownSum]

def PartsFit (parts : List (Option Nat)) (total : Option Nat) : Prop :=
  ∀ t, total = some t → knownSum parts ≤ t ∧ ((∀ p ∈ parts, p.isSome) → knownSum parts = t)

/-- The relations between the counters that the constructor checks. -/
structure Valid (u : ProviderCallUsage) : Prop where
  cacheWrite : ∀ a b, u.inputCacheWrite5mTokens = some a → u.inputCacheWrite1hTokens = some b →
    u.inputCacheWriteTokens = some (a + b)
  input : PartsFit [u.inputUncachedTokens, u.inputCacheReadTokens, u.inputCacheWriteTokens]
    u.inputTotalTokens
  output : PartsFit [u.outputVisibleTokens, u.outputReasoningTokens] u.outputTotalTokens
  totals : ∀ t i o, u.totalTokens = some t → u.inputTotalTokens = some i →
    u.outputTotalTokens = some o → i + o = t

theorem checkParts_iff {side : String} {parts : List (Option Nat)} {total : Option Nat} :
    checkParts side parts total = .ok () ↔ PartsFit parts total := by
  cases total with
  | none => simp [checkParts, PartsFit]
  | some t =>
    simp only [checkParts, bind_iff, raiseIf_ok, exists_const, decide_eq_false_iff_not,
      Nat.not_lt, Bool.and_eq_false_iff, PartsFit, knownSum, Option.some.injEq, forall_eq']
    refine and_congr Iff.rfl ?_
    rw [List.filterMap_length_eq_length, ← not_and_or]
    simp

theorem cacheWriteTotal_iff {total five one : Option Nat} :
    cacheWriteTotal total five one = .ok total ↔
      ∀ a b, five = some a → one = some b → total = some (a + b) := by
  cases total <;> cases five <;> cases one <;> simp [cacheWriteTotal, eq_comm]

theorem checkTotals_iff {total input output : Option Nat} :
    checkTotals total input output = .ok () ↔
      ∀ t i o, total = some t → input = some i → output = some o → i + o = t := by
  cases total <;> cases input <;> cases output <;> simp [checkTotals]

theorem validate_iff : validate u = .ok u ↔ Valid u := by
  simp only [validate, bind_iff, pure_iff]
  constructor
  · rintro ⟨write, writeOk, _, inputOk, _, outputOk, _, totalsOk, same⟩
    obtain rfl : write = u.inputCacheWriteTokens := congrArg inputCacheWriteTokens same
    exact ⟨cacheWriteTotal_iff.mp writeOk, checkParts_iff.mp inputOk, checkParts_iff.mp outputOk,
      checkTotals_iff.mp totalsOk⟩
  · intro valid
    exact ⟨_, cacheWriteTotal_iff.mpr valid.cacheWrite, (), checkParts_iff.mpr valid.input, (),
      checkParts_iff.mpr valid.output, (), checkTotals_iff.mpr valid.totals, rfl⟩

/-! ### Adding keeps the checks -/

theorem plus_eq_some {x y : Option Nat} {n : Nat} :
    plus x y = some n ↔ ∃ a b, x = some a ∧ y = some b ∧ a + b = n :=
  Option.map₂_eq_some_iff

theorem parts_plus {ps qs : List (Option Nat)} (lengths : ps.length = qs.length) :
    knownSum (List.zipWith plus ps qs) ≤ knownSum ps + knownSum qs ∧
    ((∀ p ∈ List.zipWith plus ps qs, p.isSome) → (∀ p ∈ ps, p.isSome) ∧ (∀ q ∈ qs, q.isSome) ∧
      knownSum (List.zipWith plus ps qs) = knownSum ps + knownSum qs) := by
  induction ps generalizing qs with
  | nil =>
    cases qs with
    | nil => simp [knownSum]
    | cons q qs => cases lengths
  | cons p ps ih =>
    cases qs with
    | nil => cases lengths
    | cons q qs =>
      obtain ⟨atMost, exact_⟩ := ih (Nat.succ.inj lengths)
      simp only [List.zipWith_cons_cons, knownSum_cons, List.forall_mem_cons]
      constructor
      · have here : (plus p q).getD 0 ≤ p.getD 0 + q.getD 0 := by cases p <;> cases q <;> simp
        omega
      · rintro ⟨here, all⟩
        obtain ⟨left, right, same⟩ := exact_ all
        obtain ⟨n, known⟩ := Option.isSome_iff_exists.mp here
        obtain ⟨a, b, rfl, rfl, rfl⟩ := plus_eq_some.mp known
        refine ⟨⟨rfl, left⟩, ⟨rfl, right⟩, ?_⟩
        simp only [Option.map₂_some_some, Option.getD_some]
        omega

theorem PartsFit.plus {ps qs : List (Option Nat)} {s t : Option Nat} (first : PartsFit ps s)
    (second : PartsFit qs t) (lengths : ps.length = qs.length) :
    PartsFit (List.zipWith ProviderCallUsage.plus ps qs) (ProviderCallUsage.plus s t) := by
  intro total known
  obtain ⟨a, b, hs, ht, rfl⟩ := plus_eq_some.mp known
  obtain ⟨atMost, exact_⟩ := parts_plus lengths
  obtain ⟨firstLe, firstEq⟩ := first a hs
  obtain ⟨secondLe, secondEq⟩ := second b ht
  constructor
  · omega
  · intro all
    obtain ⟨left, right, same⟩ := exact_ all
    rw [same, firstEq left, secondEq right]

theorem valid_added {items : List ProviderCallUsage} (valid : ∀ x ∈ items, Valid x) :
    Valid (added items) := by
  induction items with
  | nil =>
    constructor
    · rintro a b ⟨⟩ ⟨⟩
      rfl
    · rintro t ⟨⟩
      decide
    · rintro t ⟨⟩
      decide
    · rintro t i o ⟨⟩ ⟨⟩ ⟨⟩
      rfl
  | cons x xs ih =>
    have first := valid x (by simp)
    have rest := ih fun y mem => valid y (by simp [mem])
    constructor
    · intro a b five one
      simp only [added, List.map_cons, sumKnown_cons] at five one ⊢
      obtain ⟨a₁, a₂, here, there, rfl⟩ := plus_eq_some.mp five
      obtain ⟨b₁, b₂, here', there', rfl⟩ := plus_eq_some.mp one
      have total := rest.cacheWrite a₂ b₂ there there'
      refine plus_eq_some.mpr ⟨_, _, first.cacheWrite a₁ b₁ here here', total, ?_⟩
      omega
    · simp only [added, List.map_cons, sumKnown_cons]
      exact first.input.plus rest.input rfl
    · simp only [added, List.map_cons, sumKnown_cons]
      exact first.output.plus rest.output rfl
    · intro t i o total input output
      simp only [added, List.map_cons, sumKnown_cons] at total input output
      obtain ⟨t₁, t₂, hereT, thereT, rfl⟩ := plus_eq_some.mp total
      obtain ⟨i₁, i₂, hereI, thereI, rfl⟩ := plus_eq_some.mp input
      obtain ⟨o₁, o₂, hereO, thereO, rfl⟩ := plus_eq_some.mp output
      have here := first.totals t₁ i₁ o₁ hereT hereI hereO
      have there := rest.totals t₂ i₂ o₂ thereT thereI thereO
      omega

/-! ### Sums -/

variable {items : List ProviderCallUsage}

theorem valid_of_made (made : ∀ x ∈ items, ∃ args, make host args = .ok x) : Valid (added items) := by
  apply valid_added
  intro x mem
  obtain ⟨args, h⟩ := made x mem
  exact validate_iff.mp (make_args h).1

theorem added_counter {f : ProviderCallUsage → Option Nat} (mem : f ∈ counters)
    (items : List ProviderCallUsage) : f (added items) = sumKnown (items.map f) := by
  simp only [counters, List.mem_cons, List.not_mem_nil, or_false] at mem
  rcases mem with rfl | rfl | rfl | rfl | rfl | rfl | rfl | rfl | rfl | rfl <;> rfl

theorem sum_ok (made : ∀ x ∈ items, ∃ args, make host args = .ok x) (h : sum host items = .ok u) :
    u = (if items = [] then empty else added items) ∧ u.Bounded := by
  -- the constructor fills nothing in, as it is given a cache-write total with both of its parts
  have given {v : ProviderCallUsage} (valid : Valid v) (h : make host v.toArgs = .ok u) :
      u = v ∧ u.Bounded := by
    obtain ⟨counters, read, filled⟩ := bind_ok h
    obtain ⟨own, bounded⟩ := readCounts_ok read
    obtain rfl := toArgs_inj own
    rw [validate_iff.mpr valid] at filled
    cases filled
    exact ⟨rfl, bounded⟩
  cases items with
  | nil =>
    have nothing : Valid empty := ⟨nofun, fun _ => nofun, fun _ => nofun, nofun⟩
    exact given nothing h
  | cons x xs => exact given (valid_of_made made) h

variable {counter : ProviderCallUsage → Option Nat}

theorem sum_known (mem : counter ∈ counters) (made : ∀ x ∈ items, ∃ args, make host args = .ok x)
    (h : sum host items = .ok u) (known : counter u = some m) :
    items ≠ [] ∧ sumKnown (items.map counter) = some m := by
  rw [(sum_ok made h).1] at known
  have nonempty : items ≠ [] := by
    rintro rfl
    simp only [counters, List.mem_cons, List.not_mem_nil, or_false] at mem
    rcases mem with rfl | rfl | rfl | rfl | rfl | rfl | rfl | rfl | rfl | rfl <;> cases known
  rw [if_neg nonempty, added_counter mem] at known
  exact ⟨nonempty, known⟩

theorem sum_parts {xs ys zs : List ProviderCallUsage} (split : (xs ++ ys).Perm zs)
    (made : ∀ x ∈ zs, ∃ args, make host args = .ok x) {v w : ProviderCallUsage}
    (first : sum host xs = .ok u) (second : sum host ys = .ok v) (whole : sum host zs = .ok w)
    (mem : counter ∈ counters) {n : Nat} (knownFirst : counter u = some m)
    (knownSecond : counter v = some n) : counter w = some (m + n) := by
  obtain ⟨nonempty, counted⟩ := sum_known mem
    (fun x here => made x (split.mem_iff.mp (List.mem_append_left _ here))) first knownFirst
  obtain ⟨-, counted'⟩ := sum_known mem
    (fun x here => made x (split.mem_iff.mp (List.mem_append_right _ here))) second knownSecond
  have nonemptyWhole : zs ≠ [] := by
    rintro rfl
    exact nonempty (List.append_eq_nil_iff.mp split.eq_nil).1
  rw [(sum_ok made whole).1, if_neg nonemptyWhole, added_counter mem]
  refine sumKnown_parts ?_ counted counted'
  rw [← List.map_append]
  exact split.map counter

end ProviderCallUsage

end Unchain.Accounting
