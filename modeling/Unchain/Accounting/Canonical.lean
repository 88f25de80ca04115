import Unchain.Accounting.Fields
import Unchain.Python.Room

/-!
Canonical JSON and its digest (`_validate_json`, `_json_copy`, `canonical_sha256`), and the open
`extensions` object (`_freeze_extensions`).

The walk of `_validate_json` refuses a value that is too large, too deep or of a foreign type. It
lets a value pass exactly when all its nodes are fine and not too many (`validateLoop_ok_iff`), so
the copy, whose keys are in order, passes again.
-/

namespace Unchain.Accounting

open Lib Lib.Effect Python

/-- `_PROHIBITED_EXTENSION_KEYS`. -/
def prohibitedExtensionKeys : List String :=
  ["api_key", "artifact_bytes", "attachment", "attachments", "authorization", "chain_of_thought",
    "credential", "credentials", "messages", "password", "prompt", "provider_request", "raw_prompt",
    "raw_payload", "raw_request", "raw_response", "reasoning", "reasoning_content",
    "reasoning_item", "reasoning_items", "request", "response", "secret", "secrets",
    "system_prompt", "tool_output", "tool_outputs"]

def checkGivenId (host : BundleHost) (field message : String) (expected : String) (given : Value) :
    Except PyError Unit :=
  if given.truthy then do
    let observed ← canonicalText host 256 field given
    raiseIf (observed ≠ expected) (protocolError message)
  else .ok ()

section Canonical

variable (host : BundleHost)

/-- The checks of an item by its type: `sensitive` is `check_sensitive_keys`. -/
def checkValue (sensitive : Bool) (path : String) : Value → Except PyError Unit
  | .none => return ()
  | .bool _ => return ()
  | .int n =>
    raiseIf (sensitive && maxSafeInteger < n.natAbs)
      (protocolError (path ++ " exceeds the safe integer limit"))
  | .str s =>
    raiseIf (sensitive && 16384 < s.length) (protocolError (path ++ " string is too long"))
  | .float x => do
    raiseIf sensitive (.typeError (path ++ " extension numbers must be exact integers"))
    raiseIf (!x.isFinite) (protocolError (path ++ " must be finite"))
  | .list items =>
    raiseIf (sensitive && 1000 < items.length) (protocolError (path ++ " array is too large"))
  | .dict es => do
    raiseIf (sensitive && 1000 < es.length) (protocolError (path ++ " object is too large"))
    match es.find? fun e => sensitive && prohibitedExtensionKeys.contains (host.lower e.1) with
    | some e => .error (protocolError (path ++ "." ++ e.1 ++ " is prohibited bundle content"))
    | none => return ()
  | .obj _ _ => .error (.typeError (path ++ " requires exact JSON value types"))

def checkItem (sensitive : Bool) (path : String) (depth : Nat) (item : Value) :
    Except PyError Unit := do
  raiseIf (12 < depth) (protocolError (path ++ " exceeds the JSON depth limit"))
  checkValue host sensitive path item

/-- The children that an item puts on the stack, the first to be taken first. -/
def children (path : String) (depth : Nat) : Value → List (Value × String × Nat)
  | .list items =>
    (items.zipIdx.map fun child =>
      (child.1, path ++ "[" ++ toString child.2 ++ "]", depth + 1)).reverse
  | .dict es => (es.map fun e => (e.2, path ++ "." ++ e.1, depth + 1)).reverse
  | _ => []

/-- The loop of `_validate_json`, which may take so many more nodes. -/
def validateLoop (path : String) (sensitive : Bool) :
    (allowance : Nat) → (pending : List (Value × String × Nat)) → Except PyError Unit
  | _, [] => .ok ()
  | 0, _ :: _ => .error (protocolError (path ++ " exceeds the JSON node limit"))
  | allowance + 1, (item, itemPath, depth) :: pending => do
    checkItem host sensitive itemPath depth item
    validateLoop path sensitive allowance (children itemPath depth item ++ pending)

/-- `_validate_json`. -/
def validateJson (path : String) (sensitive : Bool) (v : Value) : Except PyError Unit :=
  validateLoop host path sensitive 100000 [(v, path, 0)]

/-- `_json_copy`. -/
def jsonCopy (path : String) (sensitive : Bool) (v : Value) : Except PyError Value := do
  validateJson host path sensitive v
  let encoded ← (canonicalJson host.display v).mapError fun _ =>
    protocolError (path ++ " must be strict canonical JSON")
  raiseIf (maxCanonicalBytes < encoded.length)
    (protocolError (path ++ " exceeds the canonical byte limit"))
  return ordered v

/-- `_canonical_bytes`. -/
def canonicalBytes (v : Value) : Except PyError Utf8.Bytes := do
  let copied ← jsonCopy host "run bundle" false v
  canonicalJson host.display copied

/-- `canonical_sha256`. -/
def canonicalSha256 (v : Value) : Except PyError String :=
  (canonicalBytes host v).map host.sha256

/-- `_EXTENSION_KEY_RE.fullmatch`. -/
def isExtensionKey (key : String) : Bool :=
  let inner (c : Char) := isSlugStart c || ('0' ≤ c && c ≤ '9')
  match key.toList.takeWhile (· ≠ '/'), (key.toList.dropWhile (· ≠ '/')).tail with
  | n :: ns, m :: ms =>
    isSlugStart n && 1 ≤ ns.length && ns.length ≤ 127
      && ns.all (fun c => inner c || c = '.' || c = '-')
      && isSlugStart m && ms.length ≤ 127 && ms.all isSlugChar
  | _, _ => false

/-- `_freeze_extensions`. -/
def freezeExtensions (v : Value) : Except PyError Dict :=
  match (if v.isNone then .dict [] else v) with
  | .dict es => do
    raiseIf (!es.all fun e => isExtensionKey e.1)
      (protocolError "extension keys must use the namespace/name form")
    let copied ← jsonCopy host "extensions" true (.dict es)
    return copied.entries
  | _ => .error (.typeError "extensions must be an exact object")

end Canonical

/-! ### What the loop lets pass -/

variable {host : BundleHost}

mutual

def nodes : Value → Nat
  | .list items => 1 + nodesOfItems items
  | .dict es => 1 + nodesOfEntries es
  | _ => 1

def nodesOfItems : List Value → Nat
  | [] => 0
  | v :: vs => nodes v + nodesOfItems vs

def nodesOfEntries : List (String × Value) → Nat
  | [] => 0
  | (_, v) :: es => nodes v + nodesOfEntries es

end

theorem nodesOfItems_eq (vs : List Value) : nodesOfItems vs = (vs.map nodes).sum := by
  induction vs with
  | nil => rfl
  | cons v vs ih => rw [nodesOfItems, ih, List.map_cons, List.sum_cons]

theorem nodesOfEntries_eq (es : Dict) : nodesOfEntries es = (es.map fun e => nodes e.2).sum := by
  induction es with
  | nil => rfl
  | cons e es ih =>
    rw [nodesOfEntries, ih, List.map_cons, List.sum_cons]

/-- Every node at its depth passes the check of the loop. -/
inductive Fine (host : BundleHost) (sensitive : Bool) : Nat → Value → Prop
  | leaf {depth : Nat} {v : Value} : (∀ path, checkItem host sensitive path depth v = .ok ()) →
      v.isList = false → v.isDict = false → Fine host sensitive depth v
  | list {depth : Nat} {items : List Value} :
      (∀ path, checkItem host sensitive path depth (.list items) = .ok ()) →
      (∀ v ∈ items, Fine host sensitive (depth + 1) v) → Fine host sensitive depth (.list items)
  | dict {depth : Nat} {es : Dict} :
      (∀ path, checkItem host sensitive path depth (.dict es) = .ok ()) →
      (∀ e ∈ es, Fine host sensitive (depth + 1) e.2) → Fine host sensitive depth (.dict es)

variable {item : Value} {path : String} {sensitive : Bool}

theorem checkValue_path (h : checkValue host sensitive path item = .ok ()) (path' : String) :
    checkValue host sensitive path' item = .ok () := by
  cases item with
  | none => rfl
  | bool b => rfl
  | obj cls es => cases h
  | float x =>
    obtain ⟨exact, h⟩ := raiseIf_bind_ok h
    rw [raiseIf_ok] at h
    simp [checkValue, raiseIf, exact, h, bind, Except.bind]
  | dict es =>
    obtain ⟨small, h⟩ := raiseIf_bind_ok h
    rw [checkValue, small]
    split at h
    · cases h
    · rfl
  | _ =>
    rw [checkValue, raiseIf_ok] at h
    rw [checkValue, raiseIf_ok]
    exact h

variable {depth : Nat}

theorem checkItem_path (h : checkItem host sensitive path depth item = .ok ()) (path' : String) :
    checkItem host sensitive path' depth item = .ok () := by
  obtain ⟨shallow, h⟩ := raiseIf_bind_ok h
  rw [checkItem, shallow]
  exact checkValue_path h path'

theorem mem_children {child : Value} {path' : String} {depth' : Nat}
    (mem : (child, path', depth') ∈ children path depth item) :
    depth' = depth + 1 ∧ ((∃ items, item = .list items ∧ child ∈ items) ∨
      ∃ es key, item = .dict es ∧ (key, child) ∈ es) := by
  cases item with
  | list items =>
    simp only [children, List.mem_reverse, List.mem_map, Prod.mk.injEq] at mem
    obtain ⟨⟨x, i⟩, here, rfl, -, rfl⟩ := mem
    exact ⟨rfl, .inl ⟨items, rfl, List.fst_mem_of_mem_zipIdx here⟩⟩
  | dict es =>
    simp only [children, List.mem_reverse, List.mem_map, Prod.mk.injEq] at mem
    obtain ⟨⟨key, x⟩, here, rfl, -, rfl⟩ := mem
    exact ⟨rfl, .inr ⟨es, key, rfl, here⟩⟩
  | _ => cases mem

theorem nodes_eq_children (path : String) (depth : Nat) (item : Value) :
    nodes item = 1 + ((children path depth item).map fun child => nodes child.1).sum := by
  cases item with
  | list items =>
    rw [nodes, nodesOfItems_eq, children, List.map_reverse, List.sum_reverse, List.map_map]
    have firsts : (items.zipIdx.map ((fun child : Value × String × Nat => nodes child.1) ∘
        fun child => (child.1, path ++ "[" ++ toString child.2 ++ "]", depth + 1))) =
        (items.zipIdx.map Prod.fst).map nodes := by
      rw [List.map_map]
      rfl
    rw [firsts, List.zipIdx_map_fst]
  | dict es =>
    rw [nodes, nodesOfEntries_eq, children, List.map_reverse, List.sum_reverse, List.map_map]
    rfl
  | _ => rfl

theorem fine_iff {sensitive : Bool} {path : String} {depth : Nat} {item : Value} :
    Fine host sensitive depth item ↔ checkItem host sensitive path depth item = .ok () ∧
      ∀ child ∈ children path depth item, Fine host sensitive child.2.2 child.1 := by
  constructor
  · intro fine
    cases fine with
    | leaf check notList notDict =>
      refine ⟨check path, ?_⟩
      cases item <;> simp_all [children, Value.isList, Value.isDict]
    | list check items =>
      refine ⟨check path, ?_⟩
      rintro ⟨child, path', depth'⟩ mem
      obtain ⟨rfl, ⟨xs, same, here⟩ | ⟨es, key, same, -⟩⟩ := mem_children mem
      · cases same
        exact items child here
      · cases same
    | dict check entries =>
      refine ⟨check path, ?_⟩
      rintro ⟨child, path', depth'⟩ mem
      obtain ⟨rfl, ⟨xs, same, -⟩ | ⟨es, key, same, here⟩⟩ := mem_children mem
      · cases same
      · cases same
        exact entries _ here
  · rintro ⟨check, deeper⟩
    cases item with
    | list items =>
      refine .list (checkItem_path check) fun v mem => ?_
      obtain ⟨i, found⟩ := List.mem_iff_getElem?.mp mem
      have here := List.mk_mem_zipIdx_iff_getElem?.mpr found
      exact deeper (v, _, depth + 1) (List.mem_reverse.mpr (List.mem_map.mpr ⟨(v, i), here, rfl⟩))
    | dict es =>
      refine .dict (checkItem_path check) fun e mem => ?_
      exact deeper (e.2, _, depth + 1) (List.mem_reverse.mpr (List.mem_map.mpr ⟨e, mem, rfl⟩))
    | _ => exact .leaf (checkItem_path check) rfl rfl

theorem validateLoop_ok_iff {path : String} {sensitive : Bool} :
    ∀ (allowance : Nat) (pending : List (Value × String × Nat)),
      validateLoop host path sensitive allowance pending = .ok () ↔
        (pending.map fun item => nodes item.1).sum ≤ allowance ∧
          ∀ item ∈ pending, Fine host sensitive item.2.2 item.1
  | allowance, [] => by simp [validateLoop]
  | 0, (item, itemPath, depth) :: pending => by
    have positive : 0 < nodes item := by
      rw [nodes_eq_children itemPath depth item]
      omega
    simp only [validateLoop, List.map_cons, List.sum_cons]
    constructor
    · intro h
      cases h
    · intro h
      omega
  | allowance + 1, (item, itemPath, depth) :: pending => by
    rw [validateLoop]
    have step := @validateLoop_ok_iff path sensitive allowance
      (children itemPath depth item ++ pending)
    have size := nodes_eq_children itemPath depth item
    have fine := @fine_iff host sensitive itemPath depth item
    rw [List.map_append, List.sum_append] at step
    simp only [List.map_cons, List.sum_cons, List.forall_mem_cons]
    constructor
    · intro h
      obtain ⟨_, check, h⟩ := bind_ok h
      obtain ⟨small, all⟩ := step.mp h
      rw [List.forall_mem_append] at all
      exact ⟨by omega, fine.mpr ⟨check, all.1⟩, all.2⟩
    · rintro ⟨small, here, later⟩
      obtain ⟨check, deeper⟩ := fine.mp here
      rw [check]
      exact step.mpr ⟨by omega, List.forall_mem_append.mpr ⟨deeper, later⟩⟩

variable {v : Value}

theorem validateJson_ok_iff :
    validateJson host path sensitive v = .ok () ↔ nodes v ≤ 100000 ∧ Fine host sensitive 0 v := by
  rw [validateJson, validateLoop_ok_iff]
  simp

/-! ### The copy passes again -/

theorem nodes_ordered (v : Value) : nodes (ordered v) = nodes v := by
  induction v using Value.deepInduction with
  | list items ih =>
    rw [ordered, nodes, nodes, nodesOfItems_eq, nodesOfItems_eq, orderedItems_eq_map, List.map_map]
    have same : items.map (nodes ∘ ordered) = items.map nodes := List.map_congr_left ih
    rw [same]
  | dict es ih =>
    rw [ordered_dict, nodes, nodes, nodesOfEntries_eq, nodesOfEntries_eq, List.map_map]
    have perm := (Assoc.byKey_perm es).map fun e => nodes e.2
    have same : (Assoc.byKey es).map ((fun e => nodes e.2) ∘ fun e => (e.1, ordered e.2)) =
        (Assoc.byKey es).map fun e => nodes e.2 :=
      List.map_congr_left fun e mem => ih e (Assoc.mem_byKey.mp mem)
    rw [same, perm.sum_eq]
  | _ => rfl

theorem checkItem_ordered (h : checkItem host sensitive path depth v = .ok ()) :
    checkItem host sensitive path depth (ordered v) = .ok () := by
  cases v with
  | list items =>
    have length : (orderedItems items).length = items.length := by
      rw [orderedItems_eq_map, List.length_map]
    rw [ordered, checkItem, checkValue, length]
    exact h
  | dict es =>
    obtain ⟨shallow, h⟩ := raiseIf_bind_ok h
    obtain ⟨small, h⟩ := raiseIf_bind_ok h
    have length : ((Assoc.byKey es).map fun e => (e.1, ordered e.2)).length = es.length := by
      rw [List.length_map, (Assoc.byKey_perm es).length_eq]
    have allowed : es.find? (fun e => sensitive &&
        prohibitedExtensionKeys.contains (host.lower e.1)) = none := by
      split at h
      · cases h
      · assumption
    have allowed' : ((Assoc.byKey es).map fun e => (e.1, ordered e.2)).find? (fun e => sensitive &&
        prohibitedExtensionKeys.contains (host.lower e.1)) = none := by
      rw [List.find?_eq_none] at allowed ⊢
      intro e mem
      obtain ⟨e', mem', rfl⟩ := List.mem_map.mp mem
      exact allowed e' (Assoc.mem_byKey.mp mem')
    rw [ordered_dict, checkItem, shallow, checkValue, length, small, allowed']
    rfl
  | _ => exact h

theorem fine_ordered (h : Fine host sensitive depth v) : Fine host sensitive depth (ordered v) := by
  induction h with
  | @leaf depth v check notList notDict =>
    cases v with
    | list items => cases notList
    | dict es => cases notDict
    | _ => exact .leaf check rfl rfl
  | @list depth items check _ ih =>
    have same : ordered (.list items) = .list (items.map ordered) := by
      rw [ordered, orderedItems_eq_map]
    have again := fun path => checkItem_ordered (check path)
    rw [same] at again ⊢
    refine .list again fun v mem => ?_
    obtain ⟨x, mem', rfl⟩ := List.mem_map.mp mem
    exact ih x mem'
  | @dict depth es check _ ih =>
    have again := fun path => checkItem_ordered (check path)
    rw [ordered_dict] at again ⊢
    refine .dict again fun e mem => ?_
    obtain ⟨x, mem', rfl⟩ := List.mem_map.mp mem
    exact ih x (Assoc.mem_byKey.mp mem')

theorem jsonCopy_again {w : Value} (h : jsonCopy host path sensitive v = .ok w) :
    w = ordered v ∧ jsonCopy host path sensitive w = .ok w := by
  obtain ⟨_, valid, h⟩ := bind_ok h
  obtain ⟨bytes, wrote, h⟩ := bind_ok h
  obtain ⟨small, h⟩ := raiseIf_bind_ok h
  cases h
  refine ⟨rfl, ?_⟩
  obtain ⟨size, fine⟩ := validateJson_ok_iff.mp valid
  have again : validateJson host path sensitive (ordered v) = .ok () :=
    validateJson_ok_iff.mpr ⟨by rw [nodes_ordered]; exact size, fine_ordered fine⟩
  have wrote' := except_mapError_ok wrote
  rw [jsonCopy, again, canonicalJson_ordered wrote', ordered_ordered]
  simp only [bind, Except.bind, Except.mapError, raiseIf, small]
  rfl

theorem freezeExtensions_again {extensions : Dict} (h : freezeExtensions host v = .ok extensions) :
    freezeExtensions host (.dict extensions) = .ok extensions := by
  unfold freezeExtensions at h
  split at h
  · rename_i es _
    obtain ⟨keys, h⟩ := raiseIf_bind_ok h
    obtain ⟨copied, copy, h⟩ := bind_ok h
    cases h
    obtain ⟨rfl, again⟩ := jsonCopy_again copy
    rw [ordered_dict] at again ⊢
    have keys' : (!((Assoc.byKey es).map fun e => (e.1, ordered e.2)).all fun e =>
        isExtensionKey e.1) = false := by
      simp only [Bool.not_eq_false', List.all_eq_true] at keys ⊢
      intro e mem
      obtain ⟨e', mem', rfl⟩ := List.mem_map.mp mem
      exact keys e' (Assoc.mem_byKey.mp mem')
    simp only [freezeExtensions, Value.isNone, Value.entries_dict, Bool.false_eq_true, ↓reduceIte,
      keys', again, raiseIf, bind, Except.bind]
    rfl
  · cases h

variable {digest : String}

theorem canonicalSha256_hex (h : canonicalSha256 host v = .ok digest) : isSha256 digest = true := by
  obtain ⟨bytes, -, rfl⟩ := map_ok h
  exact host.sha256_hex bytes

/-- The bytes that are hashed are those of the value itself. -/
theorem canonicalBytes_ok {bytes : Utf8.Bytes} (h : canonicalBytes host v = .ok bytes) :
    canonicalJson host.display v = .ok bytes := by
  obtain ⟨copied, copy, h⟩ := bind_ok h
  obtain ⟨_, -, copy⟩ := bind_ok copy
  obtain ⟨bs, wrote, copy⟩ := bind_ok copy
  obtain ⟨-, copy⟩ := raiseIf_bind_ok copy
  cases copy
  have wrote' : canonicalJson host.display v = .ok bs := except_mapError_ok wrote
  rw [canonicalJson_ordered wrote'] at h
  rw [wrote', h]

variable {field start : String}

theorem canonicalText_digest (valid : isSha256 digest = true) (short : start.length ≤ 192)
    (ascii : ∀ c ∈ start.toList, 32 ≤ c.toNat ∧ c.toNat < 128) :
    canonicalText host 256 field (.str (start ++ digest)) = .ok (start ++ digest) := by
  obtain ⟨length, hex⟩ := isSha256_char valid
  have length' : (start ++ digest).length = start.length + 64 := by
    rw [String.length_append, length]
  refine canonicalText_ascii ?_ (by omega) ?_
  · intro empty
    rw [empty] at length'
    simp at length'
  · intro c mem
    rw [String.toList_append, List.mem_append] at mem
    exact mem.elim (ascii c) (hex c)

theorem checkGivenId_again {message : String} (valid : isSha256 digest = true)
    (short : start.length ≤ 192) (ascii : ∀ c ∈ start.toList, 32 ≤ c.toNat ∧ c.toNat < 128) :
    checkGivenId host field message (start ++ digest) (.str (start ++ digest)) = .ok () := by
  unfold checkGivenId
  split
  · rw [canonicalText_digest valid short ascii]
    simp [bind, Except.bind]
  · rfl

/-! ### Values with room -/

/-- A value that passes the loop and whose texts are short enough. -/
def isShort (host : BundleHost) (v : Value) : Bool :=
  validateJson host "run bundle" false v = .ok () && v.room.any (· ≤ maxCanonicalBytes)

theorem canonicalBytes_of_short (short : isShort host v = true) :
    ∃ bytes, canonicalBytes host v = .ok bytes := by
  simp only [isShort, Bool.and_eq_true, decide_eq_true_eq, Option.any_eq_true] at short
  obtain ⟨valid, room, enough, small⟩ := short
  obtain ⟨bytes, wrote, fits⟩ := @canonicalJson_of_room host.display _ _ enough
  have notLarge : maxCanonicalBytes < bytes.length ↔ False := by
    rw [iff_false]
    exact Nat.not_lt.mpr (fits.trans (by simpa using small))
  refine ⟨bytes, ?_⟩
  simp only [canonicalBytes, jsonCopy, valid, wrote, notLarge, decide_false, raiseIf,
    Except.mapError, bind, Except.bind]
  exact canonicalJson_ordered wrote

theorem canonicalSha256_of_short (short : isShort asciiHost v = true) :
    canonicalSha256 asciiHost v = .ok zeros := by
  obtain ⟨bytes, wrote⟩ := canonicalBytes_of_short short
  rw [canonicalSha256, wrote]
  rfl

end Unchain.Accounting
