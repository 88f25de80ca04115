import Unchain.Memory.Persistence

/-!
What a validated checkpoint is: it is validated again as it is, its id is read off a digest, and
a reference in it names an interaction.
-/

namespace Unchain.Memory

open Lib Lib.Effect Interaction Python

section JsonSafe

variable {display : Display}

mutual

/-- What was written and read is written and read as it is. -/
theorem jsonSafe_again : ∀ {v w : Value}, jsonSafe display v = .ok w → jsonSafe display w = .ok w
  | .none, _, h => by
    cases h
    simp [jsonSafe]
  | .bool _, _, h => by
    cases h
    simp [jsonSafe]
  | .str _, _, h => by
    cases h
    simp [jsonSafe]
  | .float _, _, h => by
    cases h
    simp [jsonSafe]
  | .obj _ _, _, h => by
    cases h
    simp [jsonSafe]
  | .int n, _, h => by
    simp only [jsonSafe] at h ⊢
    obtain ⟨digits, printed, rfl⟩ := map_ok h
    rw [jsonSafe, printed]
    rfl
  | .list items, _, h => by
    simp only [jsonSafe] at h
    obtain ⟨copied, safe, rfl⟩ := map_ok h
    rw [jsonSafe, jsonSafeItems_again safe]
    rfl
  | .dict es, _, h => by
    simp only [jsonSafe] at h
    obtain ⟨copied, safe, rfl⟩ := map_ok h
    rw [jsonSafe, jsonSafeEntries_again safe]
    rfl

theorem jsonSafeItems_again : ∀ {vs ws : List Value},
    jsonSafeItems display vs = .ok ws → jsonSafeItems display ws = .ok ws
  | [], _, h => by
    cases h
    simp [jsonSafeItems]
  | v :: vs, _, h => by
    simp only [jsonSafeItems, bind_iff, pure_iff] at h
    obtain ⟨item, first, rest, others, rfl⟩ := h
    rw [jsonSafeItems, jsonSafe_again first, jsonSafeItems_again others]
    rfl

theorem jsonSafeEntries_again : ∀ {es fs : List (String × Value)},
    jsonSafeEntries display es = .ok fs → jsonSafeEntries display fs = .ok fs
  | [], _, h => by
    cases h
    simp [jsonSafeEntries]
  | (key, v) :: es, _, h => by
    simp only [jsonSafeEntries, bind_iff, pure_iff] at h
    obtain ⟨item, first, rest, others, rfl⟩ := h
    rw [jsonSafeEntries, jsonSafe_again first, jsonSafeEntries_again others]
    rfl

end

end JsonSafe

/-! ### Validated checkpoints -/

structure Validated (host : InteractionHost) (checkpoint : Value) : Prop where
  isDict : isDict checkpoint = true
  safe : jsonSafe host.display checkpoint = .ok checkpoint
  checked : checkCheckpoint host checkpoint = .ok ()

variable {host : InteractionHost} {checkpoint : Value}

theorem validated_of_validate {raw : Value}
    (h : validateExecutionCheckpoint host raw = .ok checkpoint) : Validated host checkpoint := by
  cases raw with
  | dict es =>
    simp only [validateExecutionCheckpoint, bind_iff, pure_iff] at h
    obtain ⟨copied, safe, _, checked, rfl⟩ := h
    refine ⟨?_, jsonSafe_again safe, checked⟩
    obtain ⟨fs, -, rfl⟩ := map_ok safe
    rfl
  | _ => cases h

theorem Validated.validate (h : Validated host checkpoint) :
    validateExecutionCheckpoint host checkpoint = .ok checkpoint := by
  have isDict := h.isDict
  cases checkpoint with
  | dict es =>
    simp only [validateExecutionCheckpoint, bind_iff, pure_iff]
    exact ⟨_, h.safe, (), h.checked, rfl⟩
  | _ => cases isDict

theorem Validated.checkpointId (h : Validated host checkpoint) :
    ∃ encoded, checkpoint.get "checkpoint_id" =
      .str ("checkpoint_" ++ shortDigest (host.sha256 encoded)) := by
  have checked := h.checked
  simp only [checkCheckpoint, checkIntegrity, stablePayloadDigest, bind_iff, raiseIf_ok,
    exists_const, pure_iff] at checked
  obtain ⟨-, -, -, -, -, -, -, -, -, -, -, -, -, -, d, ⟨safe, -, encoded, -, rfl⟩, -, named⟩ := checked
  exact ⟨encoded, Value.eqPy_str_iff.mp (by simpa using named)⟩

theorem Validated.checkpointId_eq (h : Validated host checkpoint) :
    checkpoint.get "checkpoint_id" = .str (checkpointIdOf checkpoint) := by
  obtain ⟨encoded, named⟩ := h.checkpointId
  rw [checkpointIdOf, named]
  rfl

/-- `hashlib.sha256(...).hexdigest()` writes hexadecimal digits. -/
def HexDigests (host : InteractionHost) : Prop :=
  ∀ encoded, ∀ c ∈ (host.sha256 encoded).toList, c ∈ "0123456789abcdef".toList

theorem Validated.checkpointId_required (hex : HexDigests host) (h : Validated host checkpoint)
    {name bound : String} (named : requiredText name (.str (checkpointIdOf checkpoint)) = .ok bound) :
    bound = checkpointIdOf checkpoint := by
  obtain ⟨encoded, id⟩ := h.checkpointId
  have text : checkpointIdOf checkpoint = "checkpoint_" ++ shortDigest (host.sha256 encoded) := by
    rw [checkpointIdOf, id]
    rfl
  obtain ⟨raw, same, -, rfl⟩ := requiredText_ok named
  obtain rfl : checkpointIdOf checkpoint = raw := by simpa using same
  have plain : ∀ c ∈ (checkpointIdOf checkpoint).toList, isSpace c = false := by
    intro c mem
    rw [text, String.toList_append, List.mem_append] at mem
    rcases mem with mem | mem
    · have all : ∀ c ∈ "checkpoint_".toList, isSpace c = false := by decide
      exact all c mem
    · rw [shortDigest, String.toList_ofList] at mem
      have all : ∀ c ∈ "0123456789abcdef".toList, isSpace c = false := by decide
      exact all c (hex encoded c (List.mem_of_mem_take mem))
  rw [strip, stripChars_of_no_space plain, String.ofList_toList]

end Unchain.Memory
