import Unchain.Lib.JsonLength
import Unchain.Tools.ResultBudget

/-!
Compactions: the size they state, and the preview they keep.

The size that a compaction states is written in it, and it settles (`settledSize_settles`). The
preview is searched for by bisection, as if a longer one never fitted where a shorter one does not.
That is not so: a preview that shows the whole text needs no mark for what it leaves out. A
compaction for a target fits it, and has the longest preview that does exactly when no preview the
search tries on its way is misleading (`longest_preview_iff`).
-/

namespace Unchain.Tools.ResultBudget

open Lib Python

variable {host : BudgetHost}

theorem textLen_le (text : List Char) : textLen text ≤ maxSize := min_le_right _ _

theorem textLen_mono {text text' : List Char} (shorter : text.length ≤ text'.length) :
    textLen text ≤ textLen text' := min_le_min_right _ shorter

/-! ### The stated size -/

theorem entriesToJson_append {display : Display} {fallback : Fallback} (es fs : Dict) :
    entriesToJson display fallback (es ++ fs) = do
      let ms ← entriesToJson display fallback es
      let ns ← entriesToJson display fallback fs
      return ms ++ ns := by
  induction es with
  | nil =>
    rw [List.nil_append, entriesToJson]
    cases entriesToJson display fallback fs <;> rfl
  | cons e es ih =>
    obtain ⟨name, v⟩ := e
    rw [List.cons_append, entriesToJson, ih, entriesToJson]
    cases v.toJson display fallback with
    | error e => rfl
    | ok j =>
      cases entriesToJson display fallback es with
      | error e => rfl
      | ok ms =>
        cases entriesToJson display fallback fs <;> rfl

/-- A dictionary with a number in it is unwritable whatever the number is, or grows with the
number's digits. -/
theorem stableJsonDumps_entry (host : BudgetHost) (before after : Dict) (name : String) :
    (∀ n : Nat, Printable n → stableJsonDumps host (.dict (before ++ (name, .int n) :: after)) =
      unwritableText (.dict [])) ∨
    ∃ rest : Nat, ∀ n : Nat, Printable n →
      (stableJsonDumps host (.dict (before ++ (name, .int n) :: after))).length =
        rest + (Json.natText n).length := by
  have texts (n : Nat) (printable : Printable n) :
      entriesToJson host.display (canonicalFallback host) (before ++ (name, .int n) :: after) = do
        let ms ← entriesToJson host.display (canonicalFallback host) before
        let ns ← entriesToJson host.display (canonicalFallback host) after
        return ms ++ (name.toList, .int n) :: ns := by
    rw [entriesToJson_append, entriesToJson, Value.toJson, intDigits, if_pos printable]
    cases entriesToJson host.display (canonicalFallback host) before with
    | error e => rfl
    | ok ms => cases entriesToJson host.display (canonicalFallback host) after <;> rfl
  cases first : entriesToJson host.display (canonicalFallback host) before with
  | error e =>
    refine .inl fun n printable => ?_
    rw [stableJsonDumps, Value.toJson, texts n printable, first]
    rfl
  | ok ms =>
    cases last : entriesToJson host.display (canonicalFallback host) after with
    | error e =>
      refine .inl fun n printable => ?_
      rw [stableJsonDumps, Value.toJson, texts n printable, first, last]
      rfl
    | ok ns =>
      let length (m : List Char × Json) := (Json.quote m.1).length + m.2.canonical.length + 2
      refine .inr ⟨(ms.map length).sum + (ns.map length).sum + (Json.quote name.toList).length + 3,
        fun n printable => ?_⟩
      have written : stableJsonDumps host (.dict (before ++ (name, .int n) :: after)) =
          (Json.obj (ms ++ (name.toList, .int n) :: ns)).canonical := by
        rw [stableJsonDumps, Value.toJson, texts n printable, first, last]
        rfl
      have number : (Json.int n).canonical.length = (Json.natText n).length := rfl
      rw [written, Json.length_canonical_obj, List.map_append, List.map_cons, List.sum_append,
        List.sum_cons, number]
      simp only [length]
      omega

theorem printable_of_le {n : Nat} (small : n ≤ maxSize) : Printable n :=
  Printable.mono small (show Printable maxSize by decide)

theorem sizedByWidth (host : BudgetHost) (payload : Value) (reason toolName callId : String)
    (previewChars : Int) :
    SizedByWidth
      (fun size => budgetedChars host
        (.dict (compactedFields host payload reason toolName callId previewChars size)))
      (fun n => (Json.natText n).length) maxSize where
  bounded n := textLen_le _
  wider a b le := Json.length_natText_mono le
  grows a b smallA smallB narrower := by
    have printableA := printable_of_le smallA
    have printableB := printable_of_le smallB
    apply textLen_mono
    unfold compactedFields
    obtain same | ⟨rest, length⟩ := stableJsonDumps_entry host
      (compactedHead reason toolName callId (stableJsonDumps host payload))
      (compactedTail host payload (stableJsonDumps host payload) previewChars) "budgeted_chars"
    · rw [same a printableA, same b printableB]
    · rw [length a printableA, length b printableB]
      exact Nat.add_le_add_left narrower rest

/-- A compaction states its own size. -/
theorem settledSize_settles (payload : Value) (reason toolName callId : String)
    (previewChars : Int) :
    ∃ size, settledSize host payload reason toolName callId previewChars = some size ∧
      budgetedChars host (compactPayload host payload reason toolName callId previewChars) = size := by
  have enough : (Json.natText maxSize).length + 2 ≤ settleRounds := by decide
  obtain ⟨size, settled, states⟩ :=
    settle_settles (sizedByWidth host payload reason toolName callId previewChars) enough
  refine ⟨size, settled, ?_⟩
  rw [compactPayload, settledSize, settled]
  exact states

/-- The loop ends, and the size in the object that it leaves is the size of that object. -/
theorem compactPayload_states_size (host : BudgetHost) (payload : Value)
    (reason toolName callId : String) (previewChars : Int) :
    ∃ size, settledSize host payload reason toolName callId previewChars = some size ∧
      (compactPayload host payload reason toolName callId previewChars).get "budgeted_chars" =
        .int size ∧
      budgetedChars host (compactPayload host payload reason toolName callId previewChars) = size := by
  obtain ⟨size, settled, states⟩ := settledSize_settles payload reason toolName callId previewChars
  refine ⟨size, settled, ?_, states⟩
  rw [compactPayload, settled]
  rfl

/-! ### The search for a preview -/

section Search

variable {record : ResultRecord} {reason : String} {previewChars targetChars : Int}

theorem fits_bestPreview (minimal : record.fits host reason targetChars 0 = true) :
    record.fits host reason targetChars
      (record.bestPreview host reason previewChars targetChars) = true :=
  bisect_fits minimal

theorem fits_zero_iff : record.fits host reason targetChars 0 = true ↔
    (record.chars host (record.minimal host reason) : Int) ≤ targetChars := by
  rw [ResultRecord.fits, decide_eq_true_iff]
  rfl

theorem compactPayloadForTarget_of_fits (minimal : record.fits host reason targetChars 0 = true) :
    compactPayloadForTarget host record reason previewChars (some targetChars) =
      record.compact host reason (record.bestPreview host reason previewChars targetChars) := by
  have fits := fits_zero_iff.mp minimal
  rw [compactPayloadForTarget, if_neg (by omega)]

theorem chars_compactPayloadForTarget_le (minimal : record.fits host reason targetChars 0 = true) :
    (record.chars host
      (compactPayloadForTarget host record reason previewChars (some targetChars)) : Int) ≤
        targetChars := by
  have fits : record.fits host reason targetChars
      (record.bestPreview host reason previewChars targetChars) = true := fits_bestPreview minimal
  rw [compactPayloadForTarget_of_fits minimal]
  exact of_decide_eq_true fits

variable (host record reason previewChars targetChars)

def longestPreview : Nat :=
  Nat.findGreatest (fun p => record.fits host reason targetChars p = true) previewChars.toNat

def HasLongestPreview : Prop :=
  let returned := compactPayloadForTarget host record reason previewChars (some targetChars)
  let size := record.bestPreview host reason previewChars targetChars
  returned = record.compact host reason size ∧ (record.chars host returned : Int) ≤ targetChars ∧
    size ≤ previewChars.toNat ∧
    ∀ p ≤ previewChars.toNat, record.fits host reason targetChars p = true → p ≤ size

variable {host record reason previewChars targetChars}

theorem longestPreview_fits (minimal : record.fits host reason targetChars 0 = true) :
    record.fits host reason targetChars
      (longestPreview host record reason previewChars targetChars) = true :=
  Nat.findGreatest_spec (P := fun p => record.fits host reason targetChars p = true)
    (Nat.zero_le _) minimal

theorem le_longestPreview {p : Nat} (small : p ≤ previewChars.toNat)
    (fits : record.fits host reason targetChars p = true) :
    p ≤ longestPreview host record reason previewChars targetChars :=
  Nat.le_findGreatest small fits

theorem hasLongestPreview_iff (minimal : record.fits host reason targetChars 0 = true) :
    HasLongestPreview host record reason previewChars targetChars ↔
      record.bestPreview host reason previewChars targetChars =
        longestPreview host record reason previewChars targetChars := by
  have bounded : longestPreview host record reason previewChars targetChars ≤ previewChars.toNat :=
    Nat.findGreatest_le _
  constructor
  · rintro ⟨-, -, small, longest⟩
    apply Nat.le_antisymm
    · exact le_longestPreview small (fits_bestPreview minimal)
    · exact longest _ bounded (longestPreview_fits minimal)
  · intro same
    refine ⟨compactPayloadForTarget_of_fits minimal, chars_compactPayloadForTarget_le minimal, ?_, ?_⟩
    · rw [same]
      exact bounded
    · intro p small fits
      rw [same]
      exact le_longestPreview small fits

/-- The search finds the longest preview that fits exactly when the shorter ones that it tries on
the way there fit as well. -/
theorem longest_preview_iff
    (minimal : (record.chars host (record.minimal host reason) : Int) ≤ targetChars) :
    HasLongestPreview host record reason previewChars targetChars ↔
      ∀ p ∈ toward (longestPreview host record reason previewChars targetChars) 0
          (previewChars.toNat + 1),
        p < longestPreview host record reason previewChars targetChars →
          record.fits host reason targetChars p = true := by
  have minimal := fits_zero_iff.mpr minimal
  have bounded : longestPreview host record reason previewChars targetChars ≤ previewChars.toNat :=
    Nat.findGreatest_le _
  rw [hasLongestPreview_iff minimal]
  apply bisect_eq_iff (longestPreview_fits minimal)
  · intro q small fits
    exact le_longestPreview (Nat.le_of_lt_succ small) fits
  · exact Nat.lt_succ_of_le bounded
  · exact Nat.le_refl 0
  · intro before
    exact absurd before (Nat.not_lt_zero _)

end Search

/-! ### A preview that is overlooked -/

section Sample

/-- A runtime for one text; the digest is that of the four characters of its JSON text. -/
def sampleHost : BudgetHost where
  display _ := ""
  foreign _ _ := ""
  parseFloat _ := .nan
  sha1 _ := "75db5fe7f0ac4407df36bef74641e349fe6f2fef"
  lower := id

/-- The result `ab` of a call of `read`. -/
def sampleRecord : ResultRecord :=
  ⟨0, .roleToolContent, "read", "call_1", .str "ab", .rawString, 2⟩

theorem sampleRecord_fits (target : Int) :
    sampleRecord.fits sampleHost "tool_result_budget" target 0 = decide (198 ≤ target) ∧
      sampleRecord.fits sampleHost "tool_result_budget" target 1 = decide (231 ≤ target) ∧
      sampleRecord.fits sampleHost "tool_result_budget" target 2 = decide (204 ≤ target) := by
  have none : sampleRecord.chars sampleHost
      (sampleRecord.compact sampleHost "tool_result_budget" (0 : Nat)) = 198 := by decide +kernel
  have ends : sampleRecord.chars sampleHost
      (sampleRecord.compact sampleHost "tool_result_budget" (1 : Nat)) = 231 := by decide +kernel
  have whole : sampleRecord.chars sampleHost
      (sampleRecord.compact sampleHost "tool_result_budget" (2 : Nat)) = 204 := by decide +kernel
  simp only [ResultRecord.fits, none, ends, whole]
  exact ⟨rfl, rfl, rfl⟩

/-- A target that every preview of the sample fits. -/
theorem sample_has_longest_preview :
    (sampleRecord.chars sampleHost (sampleRecord.minimal sampleHost "tool_result_budget") : Int) ≤
        231 ∧
      HasLongestPreview sampleHost sampleRecord "tool_result_budget" 2 231 := by
  obtain ⟨none, ends, -⟩ := sampleRecord_fits 231
  have minimal := fits_zero_iff.mp none
  refine ⟨minimal, (longest_preview_iff minimal).mpr fun p _ shorter => ?_⟩
  have bounded : longestPreview sampleHost sampleRecord "tool_result_budget" 2 231 ≤ 2 :=
    Nat.findGreatest_le _
  obtain rfl | rfl : p = 0 ∨ p = 1 := by omega
  · exact none
  · exact ends

/-- One character from each end and the mark for the two left out take more room than the whole
text, so the search turns away from the preview that shows it. -/
theorem whole_text_is_overlooked :
    (sampleRecord.chars sampleHost (sampleRecord.minimal sampleHost "tool_result_budget") : Int) ≤
        204 ∧
      ¬ HasLongestPreview sampleHost sampleRecord "tool_result_budget" 2 204 := by
  obtain ⟨none, ends, whole⟩ := sampleRecord_fits 204
  refine ⟨fits_zero_iff.mp none, ?_⟩
  have found : sampleRecord.bestPreview sampleHost "tool_result_budget" 2 204 = 0 := by
    have first : midpoint 0 3 = 1 := rfl
    have second : midpoint 0 1 = 0 := rfl
    have size : (2 : Int).toNat + 1 = 3 := rfl
    rw [ResultRecord.bestPreview, size, bisect, if_pos (by decide), first, ends, if_neg (by decide)]
    rw [bisect, if_pos (by decide), second, none, if_pos (by decide), bisect, if_neg (by decide)]
  rintro ⟨-, -, -, longest⟩
  have := longest 2 (by decide) whole
  omega

end Sample

end Unchain.Tools.ResultBudget
