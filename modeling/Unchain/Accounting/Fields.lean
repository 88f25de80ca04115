import Unchain.Lib.SortedBy
import Unchain.Python.Ordered

/-!
The field checks of the run bundle's records (`run_bundle.py`).

Every record of the bundle is built from fields that pass one of these checks, and is read from an
object with exactly the expected keys. A check gives the value back as it is, so what passed once
passes again (the `_again` lemmas).
-/

namespace Unchain.Accounting

open Lib Lib.Effect Python

/-- `_SHA256_RE.fullmatch`. -/
def isSha256 (s : String) : Bool :=
  s.length = 64 && s.toList.all fun c => ('0' ≤ c && c ≤ '9') || ('a' ≤ c && c ≤ 'f')

/-- The parts of the runtime a bundle rests on: `unicodedata.normalize("NFC", _)`, `str.lower`, the
printing of values and `hashlib.sha256(...).hexdigest()`. Normalization leaves ASCII text alone,
and a digest is written in 64 lowercase hexadecimal digits. -/
structure BundleHost where
  nfc : String → String
  lower : String → String
  display : Display
  sha256 : Utf8.Bytes → String
  nfc_ascii : ∀ s, s.toList.all (fun c => c.toNat < 128) = true → nfc s = s
  sha256_hex : ∀ bytes, isSha256 (sha256 bytes) = true

def zeros : String := String.ofList (List.replicate 64 '0')

/-- A host for ASCII texts without capitals, with a constant in place of SHA-256. -/
def asciiHost : BundleHost where
  nfc s := s
  lower s := s
  display _ := ""
  sha256 _ := zeros
  nfc_ascii _ _ := rfl
  sha256_hex _ := by decide

/-- `RunBundleProtocolError`. -/
def protocolError (message : String) : PyError := .raised "RunBundleProtocolError" message

def maxSafeInteger : Nat := 9007199254740991
def maxCanonicalBytes : Nat := 2 * 1024 * 1024

section Fields

variable (host : BundleHost)

/-- `_canonical_text`. -/
def canonicalText (maximum : Nat) (field : String) : Value → Except PyError String
  | .str s =>
    if host.nfc s ≠ s ∨ s = "" ∨ maximum < s.length ∨ s.toList.any (fun c => c.toNat < 32) then
      .error (protocolError (field ++ " must be canonical non-empty text"))
    else .ok s
  | _ => .error (.typeError (field ++ " must be exact text"))

/-- A field that may be null. -/
def optionalField {α : Type} (read : Value → Except PyError α) : Value → Except PyError (Option α)
  | .none => .ok none
  | v => (read v).map some

/-- How a field that may be null is written. -/
def optionalValue {α : Type} (write : α → Value) : Option α → Value
  | none => .none
  | some a => write a

def isSlugStart (c : Char) : Bool := 'a' ≤ c && c ≤ 'z'

def isSlugChar (c : Char) : Bool :=
  isSlugStart c || ('0' ≤ c && c ≤ '9') || c = '_' || c = '.' || c = '-'

/-- `_SLUG_RE.fullmatch`. -/
def isSlug (s : String) : Bool :=
  match s.toList with
  | [] => false
  | c :: cs => isSlugStart c && cs.length ≤ 127 && cs.all isSlugChar

/-- `_slug`. -/
def slug (field : String) (v : Value) : Except PyError String := do
  let text ← canonicalText host 128 field v
  raiseIf (!isSlug text) (protocolError (field ++ " must be a canonical slug"))
  return text

/-- `_enum` of the texts that `named` knows. These are plain ASCII, so the check of the text lets
them pass. -/
def enumField {α : Type} (named : String → Option α) (field : String) (v : Value) :
    Except PyError α :=
  match v with
  | .str s =>
    match named s with
    | some a => .ok a
    | none => do
      let _ ← canonicalText host 128 field (.str s)
      .error (protocolError (field ++ " is unsupported"))
  | _ => .error (.typeError (field ++ " must be exact text"))

/-- `_sha256`. -/
def sha256Field (field : String) : Value → Except PyError String
  | .str s =>
    if isSha256 s then .ok s
    else .error (protocolError (field ++ " must be a bare lowercase SHA-256 digest"))
  | .none => .error (protocolError (field ++ " is required"))
  | _ => .error (protocolError (field ++ " must be a bare lowercase SHA-256 digest"))

/-- `_optional_sha256`. -/
def optionalSha256 (field : String) : Value → Except PyError (Option String) :=
  optionalField (sha256Field field)

/-- `_canonical_text(value, field_name, optional=True)`. -/
def optionalText (maximum : Nat) (field : String) : Value → Except PyError (Option String) :=
  optionalField (canonicalText host maximum field)

/-- A slug that may be null. -/
def optionalSlug (field : String) : Value → Except PyError (Option String) :=
  optionalField (slug host field)

/-- `_count`. -/
def count (field : String) : Value → Except PyError Nat
  | .int n =>
    if n < 0 then .error (protocolError (field ++ " must be non-negative"))
    else if maxSafeInteger < n.toNat then
      .error (protocolError (field ++ " exceeds the safe integer limit"))
    else .ok n.toNat
  | .none => .error (protocolError (field ++ " is required"))
  | _ => .error (.typeError (field ++ " must be an exact integer or null"))

/-- `_optional_count`. -/
def optionalCount (field : String) : Value → Except PyError (Option Nat) :=
  optionalField (count field)

def natValue (n : Nat) : Value := .int n

theorem natValue_inj {m n : Nat} (h : natValue m = natValue n) : m = n :=
  Int.ofNat.inj (Value.int.inj h)

/-- `_positive_revision`. -/
def positiveRevision : Value → Except PyError Nat
  | .int n =>
    if n ≤ 0 ∨ maxSafeInteger < n.toNat then
      .error (protocolError "revision must be a positive exact integer")
    else .ok n.toNat
  | _ => .error (protocolError "revision must be a positive exact integer")

/-- A field that is exactly a boolean. -/
def exactBool (e : PyError) : Value → Except PyError Bool
  | .bool b => .ok b
  | _ => .error e

/-- A boolean that may be null. -/
def optionalBool (e : PyError) : Value → Except PyError (Option Bool) :=
  optionalField (exactBool e)

/-- `_strict_record`. -/
def strictRecord (keys : List String) (field : String) : Value → Except PyError Value
  | .dict es =>
    if (es.map Prod.fst).all (keys.contains ·) && keys.all fun k => Assoc.has k es then
      .ok (.dict es)
    else .error (protocolError (field ++ " uses an unsupported shape"))
  | _ => .error (.typeError (field ++ " must be an exact object"))

def exactArray (message : String) : Value → Except PyError (List Value)
  | .list items => .ok items
  | _ => .error (.typeError message)

/-- `tuple(sorted(read(value) for value in values))`. -/
def sortedTexts (read : Value → Except PyError String) (values : List Value) :
    Except PyError (List String) := do
  let texts ← values.mapM read
  return sortedBy id texts

def checkUnique (message : String) (texts : List String) : Except PyError Unit :=
  raiseIf (!decide texts.Nodup) (protocolError message)

end Fields

/-! ### What passed passes again -/

section Again

variable {host : BundleHost} {field : String} {maximum : Nat} {v : Value} {s : String}

theorem canonicalText_ok (h : canonicalText host maximum field v = .ok s) :
    v = .str s ∧ ∀ field', canonicalText host maximum field' (.str s) = .ok s := by
  unfold canonicalText at h
  split at h
  · split at h
    · cases h
    · rename_i passes
      cases h
      refine ⟨rfl, fun field' => ?_⟩
      rw [canonicalText, if_neg passes]
  · cases h

theorem canonicalText_again (h : canonicalText host maximum field v = .ok s) :
    canonicalText host maximum field (.str s) = .ok s :=
  (canonicalText_ok h).2 field

theorem canonicalText_ascii (nonempty : s ≠ "") (short : s.length ≤ maximum)
    (ascii : ∀ c ∈ s.toList, 32 ≤ c.toNat ∧ c.toNat < 128) :
    canonicalText host maximum field (.str s) = .ok s := by
  have normal : host.nfc s = s :=
    host.nfc_ascii s (List.all_eq_true.mpr fun c mem => decide_eq_true (ascii c mem).2)
  have printable : s.toList.any (fun c => c.toNat < 32) = false := by
    rw [List.any_eq_false]
    intro c mem
    have := (ascii c mem).1
    simp only [decide_eq_true_eq]
    omega
  rw [canonicalText, if_neg]
  rintro (h | h | h | h)
  · exact h normal
  · exact nonempty h
  · omega
  · rw [printable] at h
    cases h

theorem canonicalText_given (h : canonicalText host maximum field v = .ok s) :
    v = .str s ∧ canonicalText host maximum field (.str s) = .ok s :=
  ⟨(canonicalText_ok h).1, canonicalText_again h⟩

variable {α : Type} {write : α → Value}

theorem optionalField_again {read : Value → Except PyError α}
    (again : ∀ v a, read v = .ok a → read (write a) = .ok a) (present : ∀ a, write a ≠ .none)
    {a : Option α} (h : optionalField read v = .ok a) :
    optionalField read (optionalValue write a) = .ok a := by
  unfold optionalField at h
  split at h
  · cases h
    rfl
  · obtain ⟨x, readOk, rfl⟩ := map_ok h
    have here := again _ _ readOk
    have some := present x
    simp only [optionalValue]
    generalize write x = w at here some
    cases w with
    | none => exact absurd rfl some
    | _ => simp only [optionalField, here, Except.map]

theorem slug_ok (h : slug host field v = .ok s) :
    v = .str s ∧ isSlug s = true ∧ canonicalText host 128 field (.str s) = .ok s := by
  obtain ⟨t, text, h⟩ := bind_ok h
  obtain ⟨named, h⟩ := raiseIf_bind_ok h
  cases h
  exact ⟨(canonicalText_ok text).1, by simpa using named, canonicalText_again text⟩

theorem slug_again (h : slug host field v = .ok s) : slug host field (.str s) = .ok s := by
  obtain ⟨-, named, text⟩ := slug_ok h
  rw [slug, text]
  simp [bind, Except.bind, raiseIf, named, pure, Except.pure]

variable {named : String → Option α}

theorem enumField_ok {a : α} (h : enumField host named field v = .ok a) :
    ∃ s, v = .str s ∧ named s = some a := by
  unfold enumField at h
  split at h
  · rename_i s
    split at h
    · rename_i known
      cases h
      exact ⟨s, rfl, known⟩
    · obtain ⟨_, -, h⟩ := bind_ok h
      cases h
  · cases h

theorem enumField_text {text : α → String} {all : List α} {a : α}
    (h : enumField host (fun s => all.find? fun b => text b = s) field v = .ok a) :
    v = .str (text a) := by
  obtain ⟨s, rfl, named⟩ := enumField_ok h
  have same : text a = s := by simpa using List.find?_some named
  rw [same]

theorem enumField_name {name : α → String} (knows : ∀ a, named (name a) = some a) (field : String)
    (a : α) : enumField host named field (.str (name a)) = .ok a := by
  simp only [enumField, knows]

/-- The characters of a digest. -/
theorem isSha256_char (valid : isSha256 s = true) :
    s.length = 64 ∧ ∀ c ∈ s.toList, 32 ≤ c.toNat ∧ c.toNat < 128 := by
  rw [isSha256, Bool.and_eq_true, decide_eq_true_eq, List.all_eq_true] at valid
  refine ⟨valid.1, fun c mem => ?_⟩
  have digit := valid.2 c mem
  simp only [Bool.or_eq_true, Bool.and_eq_true, decide_eq_true_eq, Char.le_def,
    UInt32.le_iff_toNat_le, Char.toNat_val, Char.reduceToNat] at digit
  omega

theorem sha256Field_ok (h : sha256Field field v = .ok s) : v = .str s ∧ isSha256 s = true := by
  unfold sha256Field at h
  split at h
  · split at h
    · rename_i valid
      cases h
      exact ⟨rfl, valid⟩
    · cases h
  · cases h
  · cases h

theorem sha256Field_str (valid : isSha256 s = true) : sha256Field field (.str s) = .ok s := by
  simp [sha256Field, valid]

theorem sha256Field_again (h : sha256Field field v = .ok s) : sha256Field field (.str s) = .ok s :=
  sha256Field_str (sha256Field_ok h).2

theorem sha256Field_given (h : sha256Field field v = .ok s) :
    v = .str s ∧ sha256Field field (.str s) = .ok s :=
  ⟨(sha256Field_ok h).1, sha256Field_again h⟩

theorem optionalText_again {s : Option String} (h : optionalText host maximum field v = .ok s) :
    optionalText host maximum field (optionalValue .str s) = .ok s :=
  optionalField_again (fun _ _ read => canonicalText_again read) nofun h

theorem optionalSlug_again {s : Option String} (h : optionalSlug host field v = .ok s) :
    optionalSlug host field (optionalValue .str s) = .ok s :=
  optionalField_again (fun _ _ read => slug_again read) nofun h

theorem optionalSha256_again {s : Option String} (h : optionalSha256 field v = .ok s) :
    optionalSha256 field (optionalValue .str s) = .ok s :=
  optionalField_again (fun _ _ read => sha256Field_again read) nofun h

theorem count_ok {n : Nat} (h : count field v = .ok n) : v = natValue n ∧ n ≤ maxSafeInteger := by
  unfold count at h
  split at h
  · split at h
    · cases h
    split at h
    · cases h
    · rename_i nonneg small
      cases h
      refine ⟨?_, by omega⟩
      rw [natValue, Int.toNat_of_nonneg (by omega)]
  · cases h
  · cases h

theorem count_nat {n : Nat} (small : n ≤ maxSafeInteger) : count field (natValue n) = .ok n := by
  have nonneg : ¬ (n : Int) < 0 := by omega
  have fits : ¬ maxSafeInteger < (n : Int).toNat := by omega
  rw [natValue, count, if_neg nonneg, if_neg fits]
  rfl

theorem count_again {n : Nat} (h : count field v = .ok n) : count field (natValue n) = .ok n :=
  count_nat (count_ok h).2

/-- What a field that may be null says. -/
theorem optionalField_ok {read : Value → Except PyError α}
    (reads : ∀ v a, read v = .ok a → v = write a) {a : Option α}
    (h : optionalField read v = .ok a) : v = optionalValue write a := by
  unfold optionalField at h
  split at h
  · cases h
    rfl
  · obtain ⟨x, readOk, rfl⟩ := map_ok h
    exact reads _ _ readOk

theorem optionalCount_ok {n : Option Nat} (h : optionalCount field v = .ok n) :
    v = optionalValue natValue n :=
  optionalField_ok (fun _ _ read => (count_ok read).1) h

theorem optionalCount_again {n : Option Nat} (h : optionalCount field v = .ok n) :
    optionalCount field (optionalValue natValue n) = .ok n := by
  rw [← optionalCount_ok h]
  exact h

theorem positiveRevision_ok {n : Nat} (h : positiveRevision v = .ok n) : v = natValue n := by
  unfold positiveRevision at h
  split at h
  · split at h
    · cases h
    · rename_i inRange
      cases h
      rw [natValue, Int.toNat_of_nonneg (by omega)]
  · cases h

variable {e : PyError}

theorem exactBool_ok {b : Bool} (h : exactBool e v = .ok b) : v = .bool b := by
  unfold exactBool at h
  split at h
  · cases h
    rfl
  · cases h

theorem optionalBool_again {b : Option Bool} (h : optionalBool e v = .ok b) :
    optionalBool e (optionalValue .bool b) = .ok b := by
  have given : v = optionalValue .bool b := optionalField_ok (fun _ _ read => exactBool_ok read) h
  rw [← given]
  exact h

variable {keys : List String} {raw : Value}

theorem strictRecord_ok (h : strictRecord keys field v = .ok raw) :
    raw = v ∧ ∀ k, v.hasKey k = true ↔ k ∈ keys := by
  unfold strictRecord at h
  split at h
  · rename_i es
    split at h
    · rename_i shape
      cases h
      simp only [Bool.and_eq_true, List.all_eq_true, List.contains_iff_mem] at shape
      refine ⟨rfl, fun k => ⟨fun has => ?_, shape.2 k⟩⟩
      exact shape.1 k (Assoc.get_isSome_iff.mp has)
    · cases h
  · cases h

/-- Two dictionaries with the same entries, in any order; under the keys of `idLists` both have
lists of the same items, in any order. -/
def SameRecord (idLists : List String) (v w : Value) : Prop :=
  ∀ k, (k ∉ idLists → Assoc.get k v.entries = Assoc.get k w.entries) ∧
    (k ∈ idLists → ∃ xs ys, Assoc.get k v.entries = some (.list xs) ∧
      Assoc.get k w.entries = some (.list ys) ∧ xs.Perm ys)

theorem sameRecord_of_strict {idLists : List String} {w : Value}
    (strict : strictRecord keys field v = .ok raw) (shape : ∀ k, w.hasKey k = true ↔ k ∈ keys)
    (values : ∀ k ∈ keys, k ∉ idLists → v.get k = w.get k) (lists : ∀ k ∈ idLists, k ∈ keys ∧
      ∃ xs ys, v.get k = .list xs ∧ w.get k = .list ys ∧ xs.Perm ys) : SameRecord idLists v w := by
  obtain ⟨-, has⟩ := strictRecord_ok strict
  have found : ∀ u : Value, (∀ k, u.hasKey k = true ↔ k ∈ keys) → ∀ k,
      Assoc.get k u.entries = if k ∈ keys then some (u.get k) else none := by
    intro u hasU k
    split
    · rename_i mem
      obtain ⟨x, here⟩ := Option.isSome_iff_exists.mp ((hasU k).mpr mem)
      rw [Value.get, here]
      rfl
    · rename_i absent
      cases here : Assoc.get k u.entries with
      | none => rfl
      | some x =>
        refine absurd ((hasU k).mp ?_) absent
        rw [Value.hasKey, Assoc.has, here]
        rfl
  intro k
  rw [found v has, found w shape]
  constructor
  · intro other
    split
    · rename_i mem
      rw [values k mem other]
    · rfl
  · intro mem
    obtain ⟨known, xs, ys, inV, inW, perm⟩ := lists k mem
    rw [if_pos known, if_pos known, inV, inW]
    exact ⟨xs, ys, rfl, rfl, perm⟩

theorem strictRecord_of_keys {es : Dict} (same : es.map Prod.fst = keys) :
    strictRecord keys field (.dict es) = .ok (.dict es) := by
  subst same
  have known : (es.map Prod.fst).all ((es.map Prod.fst).contains ·) = true :=
    List.all_eq_true.mpr fun k mem => List.contains_iff_mem.mpr mem
  have complete : ((es.map Prod.fst).all fun k => Assoc.has k es) = true :=
    List.all_eq_true.mpr fun k mem => Assoc.get_isSome_iff.mpr mem
  rw [strictRecord, known, complete]
  rfl

theorem exactArray_ok {message : String} {vs : List Value} (h : exactArray message v = .ok vs) :
    v = .list vs := by
  unfold exactArray at h
  split at h
  · cases h
    rfl
  · cases h

theorem sortedTexts_ok {read : Value → Except PyError String}
    (given : ∀ v s, read v = .ok s → v = .str s ∧ read (.str s) = .ok s) {values : List Value}
    {texts : List String} (h : sortedTexts read values = .ok texts) :
    values.Perm (texts.map .str) ∧ sortedTexts read (texts.map .str) = .ok texts := by
  obtain ⟨read', readOk, h⟩ := bind_ok h
  cases h
  have same : values = read'.map .str := mapM_given (fun v s ok => (given v s ok).1) readOk
  have perm : (sortedBy id read').Perm read' := sortedBy_perm read'
  refine ⟨by rw [same]; exact (perm.map Value.str).symm, ?_⟩
  have again : ∀ s ∈ sortedBy id read', read (.str s) = .ok s := by
    intro s mem
    obtain ⟨v, -, ok⟩ := mem_of_mapM readOk s (perm.mem_iff.mp mem)
    exact (given v s ok).2
  have all : ((sortedBy id read').map Value.str).mapM read = .ok (sortedBy id read') :=
    mapM_map_ok again
  rw [sortedTexts, all]
  simp only [bind, Except.bind, sortedBy_sortedBy]
  rfl

end Again

end Unchain.Accounting
