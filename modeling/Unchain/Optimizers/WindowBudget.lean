import Unchain.Optimizers.Turns

/-!
The token budget of the sliding window (`optimizers/sliding_window.py`).

The loop adds up estimates that are rounded turn by turn, while the budget is about
one estimate of the whole list. Rounding once is never more than rounding in parts
(`estimateTokens_append_le`), so the turns that fit do fit together, and
`fitTurns_spec` says that no earlier turn would. When not even the last turn fits it
stays all the same, and the optimizer says so; when there is no turn at all nothing
bounds the system messages.
-/

namespace Unchain.Optimizers.Turns

open Python Lib Kernel
open SlidingWindow (fitTurns fittingTurns keptTurns)

/-! ### Estimates of parts -/

section Estimates

variable (env : TextEnv)

theorem estimateTokens_append_le (xs ys : List Value) :
    estimateTokens env (xs ++ ys) ≤ estimateTokens env xs + estimateTokens env ys := by
  simp only [estimateTokens, List.filter_append, List.map_append, List.sum_append]
  omega

def turnTokens (turns : List (List Value)) : Nat := (turns.map (estimateTokens env)).sum

@[simp] theorem turnTokens_nil : turnTokens env [] = 0 := rfl

@[simp] theorem turnTokens_cons (turn : List Value) (turns : List (List Value)) :
    turnTokens env (turn :: turns) = estimateTokens env turn + turnTokens env turns := rfl

theorem estimateTokens_flatten_le (turns : List (List Value)) :
    estimateTokens env turns.flatten ≤ turnTokens env turns := by
  induction turns with
  | nil => simp [estimateTokens]
  | cons turn turns ih =>
    rw [List.flatten_cons, turnTokens_cons]
    have rounded := estimateTokens_append_le env turn turns.flatten
    omega

theorem two_le_estimateTokens {message : Value} (user : hasRole "user" message = true)
    (rest : List Value) : 2 ≤ estimateTokens env (message :: rest) := by
  have role := hasRole_iff.mp user
  have dict : message.isDict = true := by
    cases message <;> first | rfl | cases role
  have chars : 5 ≤ messageChars env message := by
    rw [messageChars, role]
    exact Nat.le_add_right _ _
  simp only [estimateTokens, List.filter_cons_of_pos dict, List.map_cons, List.sum_cons]
  omega

end Estimates

/-! ### The turns that fit -/

/-- The loop keeps the longest suffix of the turns whose estimates fit. -/
theorem fitTurns_spec (env : TextEnv) (remaining : Int) (reversed kept : List (List Value))
    (fits : (turnTokens env kept : Int) ≤ remaining) : ∃ k ≤ (reversed.reverse ++ kept).length,
      fitTurns env remaining reversed kept (turnTokens env kept)
        = (reversed.reverse ++ kept).drop k ∧
      (turnTokens env ((reversed.reverse ++ kept).drop k) : Int) ≤ remaining ∧
      (0 < k → remaining < turnTokens env ((reversed.reverse ++ kept).drop (k - 1))) := by
  induction reversed generalizing kept with
  | nil =>
    refine ⟨0, Nat.zero_le _, rfl, fits, ?_⟩
    intro impossible
    cases impossible
  | cons turn reversed ih =>
    have turns : (turn :: reversed).reverse ++ kept = reversed.reverse ++ turn :: kept := by simp
    rw [fitTurns, turns]
    have sum : (turnTokens env kept : Int) + estimateTokens env turn
        = turnTokens env (turn :: kept) := by
      rw [turnTokens_cons]
      omega
    have kept_eq : kept = (reversed.reverse ++ turn :: kept).drop (reversed.length + 1) := by
      rw [← List.length_reverse, List.drop_length_add_append, List.drop_succ_cons, List.drop_zero]
    have more_eq : turn :: kept = (reversed.reverse ++ turn :: kept).drop reversed.length := by
      rw [← List.length_reverse, List.drop_left]
    rw [sum]
    split
    · rename_i exceeds
      refine ⟨reversed.length + 1, by simp, ?_, ?_, ?_⟩
      · rw [← kept_eq]
      · rw [← kept_eq]
        exact fits
      · intro _
        rw [Nat.add_sub_cancel, ← more_eq]
        exact exceeds
    · rename_i within
      exact ih (turn :: kept) (Int.not_lt.mp within)

/-- A turn after the first one begins with a user message. -/
theorem two_le_turnTokens (env : TextEnv) (nonSystem : List Value) {k : Nat} (later : 0 < k)
    (bound : k < (splitTurns nonSystem).length) :
    2 ≤ turnTokens env ((splitTurns nonSystem).drop k) := by
  rw [List.drop_eq_getElem_cons bound, turnTokens_cons]
  have mem : (splitTurns nonSystem)[k] ∈ (splitTurns nonSystem).tail := by
    rw [List.mem_iff_getElem?]
    refine ⟨k - 1, ?_⟩
    rw [List.getElem?_tail, Nat.sub_add_cancel later, List.getElem?_eq_getElem bound]
  obtain ⟨message, rest, turn, starts⟩ := segments_tail_startMarked startsTurn nonSystem _ mem
  rw [startsTurn, Bool.and_eq_true] at starts
  rw [turn]
  have two := two_le_estimateTokens env starts.1 rest
  omega

/-- What the optimizer keeps: a suffix of the turns that fits, or the last turn alone, and
in both cases no turn more would fit. -/
theorem keptTurns_spec (env : TextEnv) (remaining : Int) (nonSystem : List Value) :
    let turns := splitTurns nonSystem
    ∃ k ≤ turns.length, keptTurns env remaining turns = turns.drop k ∧
      (if (!turns.isEmpty && (fittingTurns env remaining turns).isEmpty) = true
        then ∃ last, turns.drop k = [last]
        else turns = [] ∨ (turnTokens env (turns.drop k) : Int) ≤ remaining) ∧
      (0 < k → remaining < turnTokens env (turns.drop (k - 1))) := by
  intro turns
  have fitting : ∃ k ≤ turns.length,
      fittingTurns env remaining turns = turns.drop k ∧
      (0 < remaining → (turnTokens env (turns.drop k) : Int) ≤ remaining ∧
        (0 < k → remaining < turnTokens env (turns.drop (k - 1)))) ∧
      (remaining ≤ 0 → k = turns.length) := by
    unfold fittingTurns
    split
    · rename_i none
      exact ⟨turns.length, Nat.le_refl _, List.drop_length.symm,
        fun some => absurd some (Int.not_lt.mpr none), fun _ => rfl⟩
    · rename_i some
      obtain ⟨k, bound, kept, fits, maximal⟩ :=
        fitTurns_spec env remaining turns.reverse [] (by simp; omega)
      rw [List.reverse_reverse, List.append_nil] at bound kept fits maximal
      exact ⟨k, bound, kept, fun _ => ⟨fits, maximal⟩, fun none => absurd none some⟩
  obtain ⟨k, bound, kept, fits, noRoom⟩ := fitting
  unfold keptTurns
  by_cases forced : (!turns.isEmpty && (fittingTurns env remaining turns).isEmpty) = true
  · have nothing := forced
    rw [kept, Bool.and_eq_true, Bool.not_eq_true', List.isEmpty_eq_false_iff,
      List.isEmpty_iff, List.drop_eq_nil_iff] at nothing
    have positive : 0 < turns.length := List.length_pos_iff.mpr nothing.1
    have all : k = turns.length := Nat.le_antisymm bound nothing.2
    rw [if_pos forced]
    refine ⟨turns.length - 1, Nat.sub_le _ _, rfl, ?_, ?_⟩
    · rw [if_pos forced]
      refine ⟨turns[turns.length - 1], ?_⟩
      rw [List.drop_eq_getElem_cons (by omega), Nat.sub_add_cancel positive, List.drop_length]
    · intro later
      have two : 2 ≤ turnTokens env (turns.drop (turns.length - 1)) :=
        two_le_turnTokens env nonSystem later (Nat.sub_lt positive Nat.one_pos)
      have more : turnTokens env (turns.drop (turns.length - 1))
          ≤ turnTokens env (turns.drop (turns.length - 1 - 1)) := by
        have bound : turns.length - 1 - 1 < turns.length := by omega
        rw [List.drop_eq_getElem_cons bound, turnTokens_cons, Nat.sub_add_cancel later]
        exact Nat.le_add_left _ _
      by_cases room : 0 < remaining
      · have exceeds := (fits room).2 (by omega)
        rw [all] at exceeds
        omega
      · omega
  · rw [if_neg forced]
    refine ⟨k, bound, kept, ?_, ?_⟩
    · rw [if_neg forced]
      by_cases room : 0 < remaining
      · exact .inr (fits room).1
      · left
        have all := noRoom (Int.not_lt.mp room)
        by_contra some
        apply forced
        rw [kept, all, List.drop_length]
        simpa using some
    · intro later
      by_cases room : 0 < remaining
      · exact (fits room).2 later
      · have all := noRoom (Int.not_lt.mp room)
        exfalso
        apply forced
        rw [kept, all, List.drop_length, Bool.and_eq_true, Bool.not_eq_true',
          List.isEmpty_eq_false_iff]
        exact ⟨List.length_pos_iff.mp (by omega), rfl⟩

/-! ### The window -/

/-- The system messages come first in a list that equals its own rearrangement. -/
theorem get_of_eqEntries {xs ys : Dict} (same : Value.eqEntries xs ys = true) {key s : String}
    (found : Assoc.get key xs = some (.str s)) : Assoc.get key ys = some (.str s) := by
  induction xs with
  | nil => cases found
  | cons entry xs ih =>
    obtain ⟨k, x⟩ := entry
    rw [Value.eqEntries, Bool.and_eq_true] at same
    rw [Assoc.get_cons] at found
    split at found
    · rename_i here
      subst here
      cases found
      cases at_key : Assoc.get k ys with
      | none =>
        rw [at_key] at same
        cases same.1
      | some y =>
        rw [at_key] at same
        cases y with
        | str t => rw [show s = t by simpa [Value.eqPy] using same.1]
        | _ => cases same.1
    · exact ih same.2 found

theorem isSystem_of_eqPy {x y : Value} (same : x.eqPy y = true) (dict : x.isDict = true)
    (system : isSystem x = true) : isSystem y = true := by
  obtain ⟨xs, rfl⟩ := Value.isDict_iff.mp dict
  cases y with
  | dict ys =>
    rw [Value.eqPy, Bool.and_eq_true] at same
    rw [isSystem, hasRole_iff] at system ⊢
    cases found : Assoc.get "role" xs with
    | none => simp [Value.get, found] at system
    | some role =>
      simp only [Value.get, Value.entries_dict, found, Option.getD_some] at system
      rw [system] at found
      simp [Value.get, get_of_eqEntries same.2 found]
  | _ => cases same

theorem mem_eqItems {xs ys : List Value} (same : Value.eqItems xs ys = true) {i : Nat}
    {x y : Value} (at_x : xs[i]? = some x) (at_y : ys[i]? = some y) : x.eqPy y = true := by
  induction xs generalizing ys i with
  | nil => cases at_x
  | cons z xs ih =>
    cases ys with
    | nil => cases at_y
    | cons w ys =>
      rw [Value.eqItems, Bool.and_eq_true] at same
      cases i with
      | zero =>
        cases at_x
        cases at_y
        exact same.1
      | succ i => exact ih same.2 at_x at_y

theorem split_of_eqItems {messages : List Value} (clean : ∀ m ∈ messages, m.isDict = true)
    (same : Value.eqItems messages ((splitSystemAndNonSystem messages).1
      ++ (splitSystemAndNonSystem messages).2) = true) :
    (splitSystemAndNonSystem messages).1 ++ (splitSystemAndNonSystem messages).2 = messages := by
  have dicts : messages.filter Value.isDict = messages := by
    rw [List.filter_eq_self]
    exact clean
  simp only [splitSystemAndNonSystem, dicts] at same ⊢
  apply filter_append_filter_not
  intro m mem
  rw [List.mem_iff_getElem?] at mem
  obtain ⟨j, at_j⟩ := mem
  rw [List.getElem?_drop] at at_j
  by_contra system
  have system : isSystem m = true := by simpa using system
  -- the other list has a message there as well, and it is no system message
  have lengths := length_eq_of_eqItems same
  obtain ⟨bound, -⟩ := List.getElem?_eq_some_iff.mp at_j
  have at_y := List.getElem?_eq_getElem (lengths ▸ bound)
  have other := isSystem_of_eqPy (mem_eqItems same at_j at_y)
    (clean m (List.mem_of_getElem? at_j)) system
  rw [List.getElem?_append_right (by omega)] at at_y
  have passed := (List.mem_filter.mp (List.mem_of_getElem? at_y)).2
  rw [other] at passed
  cases passed

section Window

variable (context : OptimizerContext)

/-- Keeping the turns from the `k`-th on leaves the system messages and those turns. -/
theorem applyTo_keepTurns (name : String) (k : Nat) (bucket trace : Dict) :
    applyTo (keepTurns name context (turnsFrom context k) bucket trace) context.latestMessages
      = context.systems ++ (turnsFrom context k).flatten := by
  obtain ⟨cut, bound, -, rest⟩ := drop_segments startsTurn context.nonSystem k
  have rest : (turnsFrom context k).flatten = context.nonSystem.drop cut := rest
  rw [applyTo_keepTurns_cut context name k bucket trace rest, rest]
  split
  · rename_i same
    -- nothing was dropped, so the list is its own rearrangement
    have lengths := length_eq_of_eqItems same
    have halves : context.systems.length + context.nonSystem.length = _ :=
      length_split context.clean
    rw [List.length_append, List.length_drop] at lengths
    have none : cut = 0 := by omega
    rw [none, List.drop_zero] at same ⊢
    exact (split_of_eqItems context.clean same).symm
  · rfl

def Flagged (name flag : String) (value : Bool) (delta : Option HarnessDelta) : Prop :=
  ∃ answer bucket, delta = some answer ∧
    answer.stateUpdates = [("optimizer_state", .dict [(name, .dict bucket)])] ∧
    Assoc.get flag bucket = some (.bool value) ∧
    Assoc.get flag answer.trace = some (.bool value)

theorem flagged_keepTurns (name : String) (kept : List (List Value)) {bucket trace : Dict}
    {flag : String} {value : Bool} (state : Assoc.get flag bucket = some (.bool value))
    (traced : Assoc.get flag trace = some (.bool value)) :
    Flagged name flag value (keepTurns name context kept bucket trace) := by
  unfold keepTurns replaceMessagesDelta
  split
  · exact ⟨_, bucket, rfl, rfl, state, traced⟩
  · exact ⟨_, bucket, rfl, rfl, state, traced⟩

/-- What the sliding window makes of a list of messages: the system messages in order and
the turns from the `k`-th on. With the flag set that is the last turn; without it, and
with any turn at all, everything together fits the budget. One turn more would not fit. -/
structure FitsBudget (env : TextEnv) (budget : Int) (messages out : List Value) (forced : Bool)
    (k : Nat) : Prop where
  bound : k ≤ (splitTurns (splitSystemAndNonSystem messages).2).length
  window : out = (splitSystemAndNonSystem messages).1
    ++ ((splitTurns (splitSystemAndNonSystem messages).2).drop k).flatten
  fits : if forced = true then
      ∃ last, (splitTurns (splitSystemAndNonSystem messages).2).drop k = [last]
    else splitTurns (splitSystemAndNonSystem messages).2 = [] ∨ estimateTokens env out ≤ budget
  maximal : 0 < k →
    budget - estimateTokens env (splitSystemAndNonSystem messages).1
      < turnTokens env ((splitTurns (splitSystemAndNonSystem messages).2).drop (k - 1))

/-- For every list of messages and every positive budget the window fits, unless the last
turn alone is too long or there is no turn. -/
theorem sliding_window_fits (env : TextEnv) (config : SlidingWindow.Config) {budget : Int}
    (effective : SlidingWindow.computeEffectiveBudget config context = some budget)
    (positive : 0 < budget) : ∃ forced k,
      Flagged "sliding_window" "forced_keep_latest_turn" forced
        (SlidingWindow.buildOptimizerDelta env config context) ∧
      FitsBudget env budget context.latestMessages
        (applyTo (SlidingWindow.buildOptimizerDelta env config context) context.latestMessages)
        forced k := by
  obtain ⟨k, bound, kept, fits, maximal⟩ := keptTurns_spec env
    (budget - estimateTokens env context.systems) context.nonSystem
  unfold SlidingWindow.buildOptimizerDelta
  rw [effective]
  simp only [Int.not_le.mpr positive, if_false]
  rw [kept]
  refine ⟨_, k, flagged_keepTurns context _ _ (by rw [Assoc.get_update]; rfl) rfl, ?_⟩
  constructor
  · exact bound
  · exact applyTo_keepTurns context _ k _ _
  · rw [applyTo_keepTurns]
    split
    · rename_i forced
      rw [if_pos forced] at fits
      exact fits
    · rename_i unforced
      rw [if_neg unforced] at fits
      rcases fits with none | fits
      · exact .inl none
      · right
        change (turnTokens env (turnsFrom context k) : Int) ≤ _ at fits
        have whole := estimateTokens_append_le env context.systems (turnsFrom context k).flatten
        have parts := estimateTokens_flatten_le env (turnsFrom context k)
        omega
  · exact maximal

end Window

/-! ### A budget and no turns -/

/-- No message of the samples is printed as JSON. -/
def plainTexts : TextEnv := ⟨fun _ => "", fun _ => ""⟩

/-- A window of at most `tokens` tokens, whatever the model takes. -/
def atMost (tokens : Int) : SlidingWindow.Config := ⟨fun _ => 0, some tokens⟩

def systemMessage (text : String) : Value :=
  .dict [("role", .str "system"), ("content", .str text)]

def conversation (messages : List Value) (clean : ∀ m ∈ messages, m.isDict = true) :
    OptimizerContext where
  latestMessages := messages
  clean := clean
  latestVersionId := some "kv_a"
  maxContextWindowTokens := 0
  optimizerBucket := []
  stateOptimizers := []

def systemOnly : OptimizerContext :=
  conversation [systemMessage "be brief"] (by simp [systemMessage])

def twoQuestions : OptimizerContext :=
  conversation [systemMessage "be brief", userMessage "first question", userMessage "second one"]
    (by simp [systemMessage, userMessage])

/-- A system message alone stays, over the budget and without the flag. -/
theorem system_message_over_budget :
    SlidingWindow.computeEffectiveBudget (atMost 1) systemOnly = some 1 ∧
      Flagged "sliding_window" "forced_keep_latest_turn" false
        (SlidingWindow.buildOptimizerDelta plainTexts (atMost 1) systemOnly) ∧
      ¬ (estimateTokens plainTexts (applyTo
        (SlidingWindow.buildOptimizerDelta plainTexts (atMost 1) systemOnly)
        systemOnly.latestMessages) : Int) ≤ 1 := by
  constructor
  · rfl
  · constructor
    · exact flagged_keepTurns systemOnly "sliding_window" [] rfl rfl
    · decide

/-- A budget of nine tokens is enough for the second question only. -/
theorem second_question_fits :
    ∃ forced k,
      Flagged "sliding_window" "forced_keep_latest_turn" forced
        (SlidingWindow.buildOptimizerDelta plainTexts (atMost 9) twoQuestions) ∧
      FitsBudget plainTexts 9 twoQuestions.latestMessages
        (applyTo (SlidingWindow.buildOptimizerDelta plainTexts (atMost 9) twoQuestions)
          twoQuestions.latestMessages) forced k :=
  sliding_window_fits twoQuestions plainTexts (atMost 9) rfl (by decide)

end Unchain.Optimizers.Turns
