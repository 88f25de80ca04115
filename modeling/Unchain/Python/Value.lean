import Unchain.Lib.Assoc
import Mathlib.Algebra.Ring.Int.Defs

/-!
The dynamic values the kernel passes around.

Messages, state buckets, replay frames and journal payloads are plain Python
data: `None`, booleans, integers, floats, strings, lists and dictionaries with
string keys. The run state also stores instances of a few dataclasses; they
appear as `Value.obj` with their attributes. A `copy.deepcopy` is the identity
here, since values have no identity to share.

`Value.eqPy` is the language's `==`: it ignores the key order of dictionaries
and compares numbers by value. Lean's `=` on `Value` is finer.
-/

namespace Unchain.Python

open Lib

/-- A float: a dyadic rational `mantissa * 2 ^ exponent` or a special value. -/
inductive PyFloat where
  | finite (mantissa exponent : Int)
  | negZero
  | inf (negative : Bool)
  | nan
deriving DecidableEq

namespace PyFloat

def ofInt (n : Int) : PyFloat := .finite n 0

/-- Comparison by value, as `==` does; `nan` is equal to nothing. -/
def eq : PyFloat → PyFloat → Bool
  | .finite m e, .finite m' e' =>
    m * 2 ^ (e - min e e').toNat == m' * 2 ^ (e' - min e e').toNat
  | .finite m _, .negZero => m == 0
  | .negZero, .finite m _ => m == 0
  | .negZero, .negZero => true
  | .inf a, .inf b => a == b
  | _, _ => false

def isZero : PyFloat → Bool
  | .finite m _ => m == 0
  | .negZero => true
  | _ => false

/-- A finite float, the only kind strict JSON can write. -/
def isFinite : PyFloat → Bool
  | .finite _ _ => true
  | .negZero => true
  | _ => false

theorem eq_self {x : PyFloat} (h : x ≠ .nan) : eq x x = true := by
  cases x <;> simp_all [eq]

end PyFloat

/-- The classes whose instances reach the run state. -/
inductive ClassName where
  | toolCall
  | modelTurnResult
  | toolBatchState
  | subagentState
  | providerState
  | tokenState
  | sessionState
  | suspendState
  | runLedger
  | other (name : String)
deriving DecidableEq

inductive Value where
  | none
  | bool (b : Bool)
  | int (n : Int)
  | float (x : PyFloat)
  | str (s : String)
  | list (items : List Value)
  | dict (entries : List (String × Value))
  | obj (cls : ClassName) (attrs : List (String × Value))

abbrev Dict := List (String × Value)

namespace Value

/-! ### Structural equality is decidable -/

mutual

def beq : Value → Value → Bool
  | .none, .none => true
  | .bool a, .bool b => a == b
  | .int a, .int b => a == b
  | .float a, .float b => a == b
  | .str a, .str b => a == b
  | .list xs, .list ys => beqItems xs ys
  | .dict xs, .dict ys => beqEntries xs ys
  | .obj c xs, .obj d ys => c == d && beqEntries xs ys
  | _, _ => false

def beqItems : List Value → List Value → Bool
  | [], [] => true
  | x :: xs, y :: ys => beq x y && beqItems xs ys
  | _, _ => false

def beqEntries : List (String × Value) → List (String × Value) → Bool
  | [], [] => true
  | (k, x) :: xs, (l, y) :: ys => k == l && beq x y && beqEntries xs ys
  | _, _ => false

end

mutual

theorem beq_iff : ∀ a b : Value, beq a b = true ↔ a = b
  | .none, b => by cases b <;> simp [beq]
  | .bool _, b => by cases b <;> simp [beq]
  | .int _, b => by cases b <;> simp [beq]
  | .float _, b => by cases b <;> simp [beq]
  | .str _, b => by cases b <;> simp [beq]
  | .list xs, b => by
    cases b with
    | list ys => simp [beq, beqItems_iff xs ys]
    | _ => simp [beq]
  | .dict xs, b => by
    cases b with
    | dict ys => simp [beq, beqEntries_iff xs ys]
    | _ => simp [beq]
  | .obj c xs, b => by
    cases b with
    | obj d ys => simp [beq, beqEntries_iff xs ys]
    | _ => simp [beq]

theorem beqItems_iff : ∀ xs ys : List Value, beqItems xs ys = true ↔ xs = ys
  | [], ys => by cases ys <;> simp [beqItems]
  | x :: xs, ys => by
    cases ys with
    | nil => simp [beqItems]
    | cons y ys => simp [beqItems, beq_iff x y, beqItems_iff xs ys]

theorem beqEntries_iff : ∀ xs ys : List (String × Value), beqEntries xs ys = true ↔ xs = ys
  | [], ys => by cases ys <;> simp [beqEntries]
  | (k, x) :: xs, ys => by
    cases ys with
    | nil => simp [beqEntries]
    | cons y ys =>
      obtain ⟨l, y⟩ := y
      simp [beqEntries, beq_iff x y, beqEntries_iff xs ys, and_assoc]

end

instance : DecidableEq Value := fun a b => decidable_of_iff _ (beq_iff a b)

instance : Inhabited Value := ⟨.none⟩

section Induction

set_option linter.unusedSectionVars false

variable {motive : Value → Prop} (none : motive .none) (bool : ∀ b, motive (.bool b))
  (int : ∀ n, motive (.int n)) (float : ∀ x, motive (.float x)) (str : ∀ s, motive (.str s))
  (list : ∀ xs, (∀ x ∈ xs, motive x) → motive (.list xs))
  (dict : ∀ es, (∀ e ∈ es, motive e.2) → motive (.dict es))
  (obj : ∀ cls es, (∀ e ∈ es, motive e.2) → motive (.obj cls es))
include none bool int float str list dict obj

mutual

theorem deepInduction : ∀ v : Value, motive v
  | .none => none
  | .bool b => bool b
  | .int n => int n
  | .float x => float x
  | .str s => str s
  | .list xs => list xs (deepInductionItems xs)
  | .dict es => dict es (deepInductionEntries es)
  | .obj cls es => obj cls es (deepInductionEntries es)

theorem deepInductionItems : ∀ xs : List Value, ∀ x ∈ xs, motive x
  | [], _, mem => by cases mem
  | y :: ys, x, mem => by
    rcases List.mem_cons.mp mem with same | mem
    · rw [same]
      exact deepInduction y
    · exact deepInductionItems ys x mem

theorem deepInductionEntries : ∀ es : List (String × Value), ∀ e ∈ es, motive e.2
  | [], _, mem => by cases mem
  | (_, x) :: es, e, mem => by
    rcases List.mem_cons.mp mem with same | mem
    · rw [same]
      exact deepInduction x
    · exact deepInductionEntries es e mem

end

end Induction

/-! ### Type tests, truth and item access -/

def isDict : Value → Bool
  | .dict _ => true
  | _ => false

def isList : Value → Bool
  | .list _ => true
  | _ => false

def isStr : Value → Bool
  | .str _ => true
  | _ => false

def isNone : Value → Bool
  | .none => true
  | _ => false

/-- The truth value of a Python object. -/
def truthy : Value → Bool
  | .none => false
  | .bool b => b
  | .int n => n != 0
  | .float x => !x.isZero
  | .str s => s != ""
  | .list xs => !xs.isEmpty
  | .dict es => !es.isEmpty
  | .obj _ _ => true

/-- `x or y`. -/
def or (x y : Value) : Value := if x.truthy then x else y

theorem or_self (v : Value) : v.or v = v := by
  unfold Value.or
  split <;> rfl

theorem or_or (v w : Value) : (v.or w).or w = v.or w := by
  by_cases h : v.truthy = true
  · simp [Value.or, h]
  · simp [Value.or, h]

/-- The entries of a dictionary; other values have none. -/
def entries : Value → Dict
  | .dict es => es
  | _ => []

def items : Value → List Value
  | .list xs => xs
  | _ => []

/-- `d.get(key)`; a value that is not a dictionary has no keys. -/
def get (v : Value) (key : String) : Value := (Assoc.get key v.entries).getD .none

/-- `d.get(key, default)`. -/
def getD (v : Value) (key : String) (default : Value) : Value :=
  (Assoc.get key v.entries).getD default

/-- `key in d`. -/
def hasKey (v : Value) (key : String) : Bool := Assoc.has key v.entries

/-- `d[key] = value`; a value that is not a dictionary is left alone. -/
def setKey (v : Value) (key : String) (x : Value) : Value :=
  match v with
  | .dict es => .dict (Assoc.set key x es)
  | other => other

/-- `d.pop(key, None)`, for its effect. -/
def popKey (v : Value) (key : String) : Value :=
  match v with
  | .dict es => .dict (Assoc.erase key es)
  | other => other

@[simp] theorem entries_dict (es : Dict) : (Value.dict es).entries = es := rfl
@[simp] theorem items_list (xs : List Value) : (Value.list xs).items = xs := rfl
@[simp] theorem isDict_dict (es : Dict) : (Value.dict es).isDict = true := rfl
@[simp] theorem isList_list (xs : List Value) : (Value.list xs).isList = true := rfl

variable {v : Value}

theorem isDict_iff : v.isDict = true ↔ ∃ es, v = .dict es := by
  cases v <;> simp [isDict]

theorem isNone_iff : v.isNone = true ↔ v = .none := by
  cases v <;> simp [isNone]

theorem isList_iff : v.isList = true ↔ ∃ xs, v = .list xs := by
  cases v <;> simp [isList]

@[simp] theorem isDict_setKey (v : Value) (k : String) (x : Value) :
    (v.setKey k x).isDict = v.isDict := by
  cases v <;> rfl

theorem get_setKey (h : v.isDict = true) (j k : String) (x : Value) :
    (v.setKey k x).get j = if j = k then x else v.get j := by
  obtain ⟨es, rfl⟩ := isDict_iff.mp h
  by_cases same : j = k <;> simp [get, setKey, same]

variable {key other : String} {m : Value}

theorem getD_setKey_of_ne (ne : other ≠ key) (x d : Value) :
    (m.setKey key x).getD other d = m.getD other d := by
  cases m with
  | dict es => simp [getD, setKey, ne]
  | _ => rfl

theorem get_setKey_of_ne (ne : other ≠ key) (x : Value) :
    (m.setKey key x).get other = m.get other := by
  cases m with
  | dict es => simp [get, setKey, ne]
  | _ => rfl

theorem get_setKey_self (dict : m.isDict = true) (key : String) (x : Value) :
    (m.setKey key x).get key = x := by
  rw [get_setKey dict, if_pos rfl]

theorem getD_setKey_self (dict : m.isDict = true) (key : String) (x d : Value) :
    (m.setKey key x).getD key d = x := by
  obtain ⟨es, rfl⟩ := isDict_iff.mp dict
  simp [getD, setKey]

/-! ### The language's `==` -/

def number? : Value → Option PyFloat
  | .bool b => some (.ofInt (if b then 1 else 0))
  | .int n => some (.ofInt n)
  | .float x => some x
  | _ => Option.none

def numEq (a b : Value) : Bool :=
  match number? a, number? b with
  | some x, some y => x.eq y
  | _, _ => false

mutual

def eqPy : Value → Value → Bool
  | .none, .none => true
  | .str a, .str b => a == b
  | .list xs, .list ys => eqItems xs ys
  | .dict xs, .dict ys => xs.length == ys.length && eqEntries xs ys
  | .obj c xs, .obj d ys => c == d && xs.length == ys.length && eqEntries xs ys
  | .bool a, b => numEq (.bool a) b
  | .int a, b => numEq (.int a) b
  | .float a, b => numEq (.float a) b
  | _, _ => false

def eqItems : List Value → List Value → Bool
  | [], [] => true
  | x :: xs, y :: ys => eqPy x y && eqItems xs ys
  | _, _ => false

/-- Every entry of the first list has an equal value under the same key. -/
def eqEntries : List (String × Value) → List (String × Value) → Bool
  | [], _ => true
  | (k, x) :: xs, ys =>
    (match Assoc.get k ys with
      | some y => eqPy x y
      | Option.none => false) && eqEntries xs ys

end

@[simp] theorem eqPy_int (m n : Int) : (Value.int m).eqPy (.int n) = decide (m = n) := by
  have step : (Value.int m).eqPy (.int n) = (m == n) := by
    simp [eqPy, numEq, number?, PyFloat.ofInt, PyFloat.eq]
  rw [step]
  rfl

theorem eqPy_str_iff {s : String} : v.eqPy (.str s) = true ↔ v = .str s := by
  cases v <;> simp [eqPy, numEq, number?]

end Value

end Unchain.Python
