import Mathlib.Data.List.Basic

/-!
Append-only logs of records that carry a key.

`latest` is the record that counts for a key: the last one written under it. `records` are all
records of a key in the order in which they were written.
-/

namespace Unchain.Lib.KeyedLog

variable {β κ : Type} [DecidableEq κ] (key : β → κ)

def records (k : κ) (log : List β) : List β := log.filter fun b => key b = k

def latest (k : κ) (log : List β) : Option β := (records key k log).getLast?

variable {key} {log : List β} {b c : β} {k : κ}

@[simp] theorem mem_records : b ∈ records key k log ↔ b ∈ log ∧ key b = k := by
  simp [records]

@[simp] theorem records_nil : records key k [] = [] := rfl

@[simp] theorem latest_nil : latest key k [] = none := rfl

theorem records_append : records key k (log ++ [b]) =
    if key b = k then records key k log ++ [b] else records key k log := by
  by_cases same : key b = k
  · simp [records, same]
  · simp [records, same]

theorem latest_append : latest key k (log ++ [b]) =
    if key b = k then some b else latest key k log := by
  by_cases same : key b = k
  · simp [latest, records_append, same]
  · simp [latest, records_append, same]

theorem mem_of_latest (h : latest key k log = some b) : b ∈ log ∧ key b = k :=
  mem_records.mp (List.mem_of_getLast? h)

theorem latest_eq_none : latest key k log = none ↔ ∀ b ∈ log, key b ≠ k := by
  simp [latest, records]

end Unchain.Lib.KeyedLog
