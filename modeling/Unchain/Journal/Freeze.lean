import Unchain.Journal.CredentialScreen
import Unchain.Python.Ordered

/-!
Freezing a payload (`_freeze_json`, `_thaw_json`).

A frozen payload has passed the screen at every depth (`frozen_payload_screened`): a mapping that
is reached through any mix of mappings and sequences binds a credential-like key to the metadata
that is declared for it. Freezing puts the keys in order and changes nothing else, so the thawed
payload freezes to the same.
-/

namespace Unchain.Journal

open Lib Lib.Effect Python

/-- A frozen payload: tuples and read-only mappings. -/
inductive Frozen where
  | none
  | bool (b : Bool)
  | int (n : Int)
  | float (x : PyFloat)
  | str (s : String)
  | tuple (items : List Frozen)
  | mapping (entries : List (String × Frozen))

/-- The entries of a mapping, once each of them could be frozen. -/
def sequenceEntries : List (String × Except PyError Frozen) →
    Except PyError (List (String × Frozen))
  | [] => .ok []
  | (key, outcome) :: rest => do
    let frozen ← outcome
    let others ← sequenceEntries rest
    return (key, frozen) :: others

def isPayloadKey (key : String) : Bool := key != "" && !key.toList.contains '\x00'

section Freezing

variable (host : ScreenHost)

mutual

/-- `_freeze_json`. The entries are taken in order of their keys: what each of them comes to does
not depend on the others, so it is worked out first and put in order then. -/
def freezeJson (path : String) : Value → Except PyError Frozen
  | .none => .ok .none
  | .bool b => .ok (.bool b)
  | .int n => .ok (.int n)
  | .str s => .ok (.str s)
  | .float x =>
    if x.isFinite then .ok (.float x)
    else .error (modelValidationError (path ++ " contains a non-finite number"))
  | .dict es =>
    if es.all fun e => isPayloadKey e.1 then
      (sequenceEntries (Assoc.byKey (freezeEntries path es))).map .mapping
    else .error (modelValidationError (path ++ " contains an invalid object key"))
  | .list items => (freezeItems path 0 items).map .tuple
  | .obj _ _ => .error (.typeError (path ++ " contains a non-JSON value"))

def freezeEntries (path : String) : List (String × Value) → List (String × Except PyError Frozen)
  | [] => []
  | (key, x) :: es =>
    (key, do
      validateCredentialMetadata host.journal (normalizeKey host key) x (path ++ "." ++ key)
      freezeJson (path ++ "." ++ key) x) :: freezeEntries path es

def freezeItems (path : String) (index : Nat) : List Value → Except PyError (List Frozen)
  | [] => .ok []
  | x :: xs => do
    let frozen ← freezeJson (path ++ "[" ++ toString index ++ "]") x
    let others ← freezeItems path (index + 1) xs
    return frozen :: others

end

end Freezing

mutual

/-- `_thaw_json`. -/
def thawJson : Frozen → Value
  | .none => .none
  | .bool b => .bool b
  | .int n => .int n
  | .float x => .float x
  | .str s => .str s
  | .tuple items => .list (thawItems items)
  | .mapping entries => .dict (thawEntries entries)

def thawItems : List Frozen → List Value
  | [] => []
  | x :: xs => thawJson x :: thawItems xs

def thawEntries : List (String × Frozen) → List (String × Value)
  | [] => []
  | (key, x) :: es => (key, thawJson x) :: thawEntries es

end

/-! ### The outcomes of the entries -/

theorem sequenceEntries_ok {outcomes : List (String × Except PyError Frozen)}
    {frozen : List (String × Frozen)} :
    sequenceEntries outcomes = .ok frozen ↔ outcomes = frozen.map fun e => (e.1, .ok e.2) := by
  induction outcomes generalizing frozen with
  | nil =>
    constructor
    · intro h
      cases h
      rfl
    · intro h
      rw [List.map_eq_nil_iff.mp h.symm]
      rfl
  | cons e outcomes ih =>
    obtain ⟨key, outcome⟩ := e
    constructor
    · intro h
      obtain ⟨f, here, h⟩ := bind_ok h
      obtain ⟨others, later, h⟩ := bind_ok h
      cases h
      rw [List.map_cons, ← ih.mp later, here]
    · intro h
      cases frozen with
      | nil => cases h
      | cons f frozen =>
        simp only [List.map_cons, List.cons.injEq, Prod.mk.injEq] at h
        obtain ⟨⟨rfl, rfl⟩, later⟩ := h
        rw [sequenceEntries, ih.mpr later]
        rfl

section Freezing

variable {host : ScreenHost}

def freezeEntry (host : ScreenHost) (path key : String) (x : Value) : Except PyError Frozen := do
  validateCredentialMetadata host.journal (normalizeKey host key) x (path ++ "." ++ key)
  freezeJson host (path ++ "." ++ key) x

theorem freezeEntries_eq_map (path : String) (es : Dict) :
    freezeEntries host path es = es.map fun e => (e.1, freezeEntry host path e.1 e.2) := by
  induction es with
  | nil => rfl
  | cons e es ih =>
    rw [freezeEntries, ih]
    rfl

variable {f : Frozen} {key path : String} {x : Value}

theorem freezeEntry_ok :
    freezeEntry host path key x = .ok f ↔
      validateCredentialMetadata host.journal (normalizeKey host key) x (path ++ "." ++ key) =
        .ok () ∧ freezeJson host (path ++ "." ++ key) x = .ok f := by
  constructor
  · intro h
    obtain ⟨u, screened, h⟩ := bind_ok h
    exact ⟨screened, h⟩
  · rintro ⟨screened, h⟩
    rw [freezeEntry, screened]
    exact h

variable {es : Dict}

theorem freezeJson_dict_ok :
    freezeJson host path (.dict es) = .ok f ↔
      (es.all fun e => isPayloadKey e.1) = true ∧
      ∃ frozen : List (String × Frozen), f = .mapping frozen ∧
        (Assoc.byKey es).map (fun e => (e.1, freezeEntry host path e.1 e.2)) =
          frozen.map fun e => (e.1, .ok e.2) := by
  rw [freezeJson, freezeEntries_eq_map, Assoc.byKey_map (freezeEntry host path)]
  constructor
  · intro h
    split at h
    · rename_i valid
      obtain ⟨frozen, outcomes, rfl⟩ := map_ok h
      exact ⟨valid, frozen, rfl, sequenceEntries_ok.mp outcomes⟩
    · cases h
  · rintro ⟨valid, frozen, rfl, outcomes⟩
    rw [if_pos valid, sequenceEntries_ok.mpr outcomes]
    rfl

/-- Every entry of a mapping that was frozen has passed the screen and was frozen. -/
theorem entry_of_freezeJson (h : freezeJson host path (.dict es) = .ok f) (mem : (key, x) ∈ es) :
    ∃ g, freezeEntry host path key x = .ok g := by
  obtain ⟨-, frozen, -, outcomes⟩ := freezeJson_dict_ok.mp h
  have here : (key, freezeEntry host path key x) ∈
      (Assoc.byKey es).map fun e => (e.1, freezeEntry host path e.1 e.2) :=
    List.mem_map.mpr ⟨(key, x), Assoc.mem_byKey.mpr mem, rfl⟩
  rw [outcomes] at here
  obtain ⟨⟨key', g⟩, -, same⟩ := List.mem_map.mp here
  exact ⟨g, (Prod.mk.inj same).2.symm⟩

variable {fs : List Frozen} {index : Nat} {xs : List Value}

theorem item_of_freezeItems (h : freezeItems host path index xs = .ok fs) (mem : x ∈ xs) :
    ∃ path' f, freezeJson host path' x = .ok f := by
  induction xs generalizing index fs with
  | nil => cases mem
  | cons y ys ih =>
    obtain ⟨f, here, h⟩ := bind_ok h
    obtain ⟨others, later, -⟩ := bind_ok h
    rcases List.mem_cons.mp mem with rfl | mem
    · exact ⟨_, f, here⟩
    · exact ih later mem

/-! ### Every depth is screened -/

/-- `Within w v`: the value `w` is reached from `v` through items and entries. -/
inductive Within : Value → Value → Prop
  | here {v : Value} : Within v v
  | item {w x : Value} {xs : List Value} : x ∈ xs → Within w x → Within w (.list xs)
  | entry {w x : Value} {key : String} {es : Dict} : (key, x) ∈ es → Within w x →
      Within w (.dict es)

/-- No credential-like key, at any depth, is bound to anything but what is declared for it. -/
def Screened (host : ScreenHost) (v : Value) : Prop :=
  ∀ es, Within (.dict es) v → ∀ key x, (key, x) ∈ es →
    ∀ kind, credentialMetadataKind (normalizeKey host key) = some kind →
      kind.Declares host.journal x

variable {v : Value}

theorem freezeJson_of_within {w : Value} (within : Within w v) :
    ∀ {path : String} {f : Frozen}, freezeJson host path v = .ok f →
      ∃ path' g, freezeJson host path' w = .ok g := by
  induction within with
  | here =>
    intro path f h
    exact ⟨path, f, h⟩
  | item mem _ ih =>
    intro path f h
    obtain ⟨fs, items, -⟩ := map_ok h
    obtain ⟨path', g, frozen⟩ := item_of_freezeItems items mem
    exact ih frozen
  | entry mem _ ih =>
    intro path f h
    obtain ⟨g, frozen⟩ := entry_of_freezeJson h mem
    exact ih (freezeEntry_ok.mp frozen).2

theorem screened_of_freezeJson (h : freezeJson host path v = .ok f) : Screened host v := by
  intro es within key x mem kind credential
  obtain ⟨path', g, frozen⟩ := freezeJson_of_within within h
  obtain ⟨g', entry⟩ := entry_of_freezeJson frozen mem
  have screened := (freezeEntry_ok.mp entry).1
  rw [validateCredentialMetadata, credential] at screened
  exact validateMetadata_ok_iff.mp screened

/-! ### Thawed payloads -/

theorem thawEntries_eq_map (fs : List (String × Frozen)) :
    thawEntries fs = fs.map fun e => (e.1, thawJson e.2) := by
  induction fs with
  | nil => rfl
  | cons e fs ih =>
    rw [thawEntries, ih, List.map_cons]

theorem thawItems_of_freezeItems
    (ih : ∀ x ∈ xs, ∀ path f, freezeJson host path x = .ok f → thawJson f = ordered x)
    (h : freezeItems host path index xs = .ok fs) : thawItems fs = orderedItems xs := by
  induction xs generalizing index fs with
  | nil =>
    cases h
    rfl
  | cons x xs rest =>
    obtain ⟨f, here, h⟩ := bind_ok h
    obtain ⟨others, later, h⟩ := bind_ok h
    cases h
    rw [thawItems, orderedItems, ih x (by simp) _ f here,
      rest (fun y mem => ih y (by simp [mem])) later]

theorem thawed_of_outcomes {frozen : List (String × Frozen)}
    (ih : ∀ e ∈ es, ∀ path f, freezeJson host path e.2 = .ok f → thawJson f = ordered e.2)
    (outcomes : es.map (fun e => (e.1, freezeEntry host path e.1 e.2)) =
      frozen.map fun e => (e.1, .ok e.2)) :
    frozen.map (fun e => (e.1, thawJson e.2)) = es.map fun e => (e.1, ordered e.2) := by
  induction es generalizing frozen with
  | nil =>
    rw [List.map_eq_nil_iff.mp outcomes.symm]
    rfl
  | cons e es rest =>
    cases frozen with
    | nil => cases outcomes
    | cons g frozen =>
      simp only [List.map_cons, List.cons.injEq, Prod.mk.injEq] at outcomes
      obtain ⟨⟨name, outcome⟩, others⟩ := outcomes
      have here := ih e (by simp) _ _ (freezeEntry_ok.mp outcome).2
      have later := rest (fun e' mem => ih e' (by simp [mem])) others
      simp only [List.map_cons, later, ← name, here]

theorem thawJson_of_freezeJson (v : Value) :
    ∀ path f, freezeJson host path v = .ok f → thawJson f = ordered v := by
  induction v using Value.deepInduction with
  | float x =>
    intro path f h
    rw [freezeJson] at h
    split at h
    · cases h
      rfl
    · cases h
  | list xs ih =>
    intro path f h
    obtain ⟨fs, items, rfl⟩ := map_ok h
    rw [thawJson, ordered, thawItems_of_freezeItems ih items]
  | dict es ih =>
    intro path f h
    obtain ⟨-, frozen, rfl, outcomes⟩ := freezeJson_dict_ok.mp h
    rw [thawJson, ordered_dict, thawEntries_eq_map]
    have all : ∀ e ∈ Assoc.byKey es, ∀ path f, freezeJson host path e.2 = .ok f →
        thawJson f = ordered e.2 := fun e mem => ih e (Assoc.mem_byKey.mp mem)
    rw [thawed_of_outcomes all outcomes]
  | obj cls es =>
    intro path f h
    cases h
  | _ =>
    intro path f h
    cases h
    rfl

/-! ### Freezing a thawed payload -/

theorem requiredText_ordered (maximum : Nat) (identifier : Bool) (field : String) (v : Value) :
    requiredText host.journal maximum identifier field (ordered v) =
      requiredText host.journal maximum identifier field v := by
  cases v <;> rfl

theorem optionalText_ordered (maximum : Nat) (field : String) (v : Value) :
    optionalText host.journal maximum field (ordered v) =
      optionalText host.journal maximum field v := by
  cases v <;> rfl

theorem boundedInt_ordered (minimum : Int) (field : String) (v : Value) :
    boundedInt minimum field (ordered v) = boundedInt minimum field v := by
  cases v <;> rfl

theorem recordData_ordered {schema : String} {required optional : List String} {raw : Value}
    (h : recordData schema required optional v = .ok raw) :
    raw = v ∧ recordData schema required optional (ordered v) = .ok (ordered v) := by
  cases v with
  | dict es =>
    simp only [recordData] at h
    split at h
    · cases h
    rename_i named
    split at h
    · cases h
    rename_i complete
    split at h
    · cases h
    rename_i closed
    cases h
    refine ⟨rfl, ?_⟩
    have perm := keys_ordered_perm (.dict es)
    have contains : ∀ k, (((ordered (.dict es)).entries.map Prod.fst).contains k) =
        ((es.map Prod.fst).contains k) := fun k => perm.contains_eq
    have schemaSame := eqPy_str_ordered ((Value.dict es).get "schema") schema
    rw [← get_ordered] at schemaSame
    rw [ordered] at perm contains schemaSame ⊢
    simp only [Value.entries_dict] at perm contains
    simp only [recordData, schemaSame, contains]
    rw [if_neg named, if_neg complete, if_neg]
    have unknown := perm.filter fun k => !("schema" :: required ++ optional).contains k
    have none : (es.map Prod.fst).filter (fun k => !("schema" :: required ++ optional).contains k)
        = [] := by simpa using closed
    rw [none] at unknown
    rw [unknown.eq_nil]
    decide
  | _ => cases h

theorem fromDict_ordered {ref : ResourceRef} (h : ResourceRef.fromDict host.journal v = .ok ref) :
    ResourceRef.fromDict host.journal (ordered v) = .ok ref := by
  obtain ⟨raw, record, made⟩ := bind_ok h
  obtain ⟨rfl, record⟩ := recordData_ordered record
  obtain ⟨kind, id, revision, fragment, isLocal⟩ := ResourceRef.make_fields made
  have default := getD_ordered raw "fragment" (.str "")
  rw [ResourceRef.fromDict, record]
  show ResourceRef.make _ _ _ _ ((ordered raw).getD "fragment" (ordered (.str ""))) = _
  rw [default, get_ordered, get_ordered, get_ordered]
  refine ResourceRef.make_of_fields ?_ ?_ ?_ ?_ isLocal
  · rw [requiredIdentifier, requiredText_ordered]
    exact kind
  · rw [requiredIdentifier, requiredText_ordered]
    exact id
  · rw [boundedInt_ordered]
    exact revision
  · rw [optionalText_ordered]
    exact fragment

theorem counts_ordered (counts : Counts v) : Counts (ordered v) := by
  induction counts with
  | count nonneg => exact .count nonneg
  | @table es _ ih =>
    rw [ordered_dict]
    refine .table ?_
    intro e mem
    obtain ⟨e', mem', rfl⟩ := List.mem_map.mp mem
    exact ih e' (Assoc.mem_byKey.mp mem')

theorem declares_ordered {kind : MetadataKind} (h : kind.Declares host.journal v) :
    kind.Declares host.journal (ordered v) := by
  cases kind with
  | plaintext => exact h
  | identifier | digest =>
    obtain ⟨s, rfl, valid⟩ := h
    exact ⟨s, rfl, valid⟩
  | identifiers =>
    obtain ⟨vs, rfl, valid⟩ := h
    refine ⟨vs.map ordered, by rw [ordered, orderedItems_eq_map], ?_⟩
    intro x mem
    obtain ⟨y, mem', rfl⟩ := List.mem_map.mp mem
    obtain ⟨s, rfl, named⟩ := valid y mem'
    exact ⟨s, rfl, named⟩
  | boolean =>
    obtain ⟨b, rfl⟩ := h
    exact ⟨b, rfl⟩
  | integer =>
    obtain ⟨n, rfl, nonneg⟩ := h
    exact ⟨n, rfl, nonneg⟩
  | nullableInteger =>
    rcases h with rfl | ⟨n, rfl, nonneg⟩
    · exact .inl rfl
    · exact .inr ⟨n, rfl, nonneg⟩
  | usage => exact counts_ordered h
  | reference =>
    obtain ⟨ref, read⟩ := h
    exact ⟨ref, fromDict_ordered read⟩
  | references =>
    obtain ⟨vs, rfl, valid⟩ := h
    refine ⟨vs.map ordered, by rw [ordered, orderedItems_eq_map], ?_⟩
    intro x mem
    obtain ⟨y, mem', rfl⟩ := List.mem_map.mp mem
    obtain ⟨ref, read⟩ := valid y mem'
    exact ⟨ref, fromDict_ordered read⟩
  | handle =>
    obtain ⟨fields, schema, ⟨id, idOk⟩, ⟨label, labelOk⟩, scope, scopeOk⟩ := h
    refine ⟨?_, ?_, ⟨id, ?_⟩, ⟨label, ?_⟩, scope, ?_⟩
    · simp only [hasExactly, Bool.and_eq_true, List.all_eq_true] at fields ⊢
      obtain ⟨⟨dict, known⟩, complete⟩ := fields
      refine ⟨⟨?_, ?_⟩, ?_⟩
      · obtain ⟨es, rfl⟩ := Value.isDict_iff.mp dict
        rfl
      · intro k mem
        exact known k ((keys_ordered_perm v).mem_iff.mp mem)
      · intro k mem
        rw [hasKey_ordered]
        exact complete k mem
    · rw [get_ordered, schema]
      rfl
    · rw [get_ordered, requiredIdentifier, requiredText_ordered]
      exact idOk
    · rw [get_ordered, requiredText_ordered]
      exact labelOk
    · rw [get_ordered, requiredIdentifier, requiredText_ordered]
      exact scopeOk

theorem freezeItems_ordered {path' : String} {index' : Nat}
    (ih : ∀ x ∈ xs, ∀ path f, freezeJson host path x = .ok f →
      ∀ path', freezeJson host path' (ordered x) = .ok f)
    (h : freezeItems host path index xs = .ok fs) :
    freezeItems host path' index' (orderedItems xs) = .ok fs := by
  induction xs generalizing index index' fs with
  | nil =>
    cases h
    rfl
  | cons x xs rest =>
    obtain ⟨f, here, h⟩ := bind_ok h
    obtain ⟨others, later, h⟩ := bind_ok h
    cases h
    rw [orderedItems, freezeItems, ih x (by simp) _ f here,
      rest (fun y mem => ih y (by simp [mem])) later]
    rfl

theorem freezeEntry_ordered {path path' key : String} {x : Value} {f : Frozen}
    (ih : ∀ path f, freezeJson host path x = .ok f →
      ∀ path', freezeJson host path' (ordered x) = .ok f)
    (h : freezeEntry host path key x = .ok f) : freezeEntry host path' key (ordered x) = .ok f := by
  obtain ⟨screened, frozen⟩ := freezeEntry_ok.mp h
  refine freezeEntry_ok.mpr ⟨?_, ih _ f frozen _⟩
  unfold validateCredentialMetadata at screened ⊢
  cases credential : credentialMetadataKind (normalizeKey host key) with
  | none => rfl
  | some kind =>
    rw [credential] at screened
    exact validateMetadata_ok_iff.mpr (declares_ordered (validateMetadata_ok_iff.mp screened))

theorem freezeJson_ordered (v : Value) : ∀ path f, freezeJson host path v = .ok f →
      ∀ path', freezeJson host path' (ordered v) = .ok f := by
  induction v using Value.deepInduction with
  | float x =>
    intro path f h path'
    have same : ordered (.float x) = .float x := rfl
    rw [freezeJson] at h
    rw [same, freezeJson]
    split at h
    · rename_i finite
      rw [if_pos finite]
      exact h
    · cases h
  | list xs ih =>
    intro path f h path'
    obtain ⟨fs, items, rfl⟩ := map_ok h
    rw [ordered, freezeJson, freezeItems_ordered ih items]
    rfl
  | dict es ih =>
    intro path f h path'
    obtain ⟨valid, frozen, rfl, outcomes⟩ := freezeJson_dict_ok.mp h
    rw [ordered_dict]
    refine freezeJson_dict_ok.mpr ⟨?_, frozen, rfl, ?_⟩
    · rw [List.all_map, List.all_eq_true]
      intro e mem
      exact List.all_eq_true.mp valid e (Assoc.mem_byKey.mp mem)
    · rw [byKey_ordered, List.map_map, ← outcomes]
      refine List.map_congr_left ?_
      intro e mem
      have here := Assoc.mem_byKey.mp mem
      obtain ⟨g, outcome⟩ := entry_of_freezeJson h here
      have again := @freezeEntry_ordered host path path' e.1 e.2 g (ih e here) outcome
      simp only [Function.comp_apply, again, outcome]
  | obj cls es =>
    intro path f h
    cases h
  | _ =>
    intro path f h path'
    cases h
    rfl

/-- A payload that was frozen is screened at every depth, before and after it is thawed, and the
thawed payload freezes to the same. -/
theorem frozen_payload_screened {path : String} {v : Value} {f : Frozen}
    (h : freezeJson host path v = .ok f) :
    Screened host v ∧ Screened host (thawJson f) ∧ freezeJson host path (thawJson f) = .ok f := by
  have again : freezeJson host path (thawJson f) = .ok f := by
    rw [thawJson_of_freezeJson v path f h]
    exact freezeJson_ordered v path f h path
  exact ⟨screened_of_freezeJson h, screened_of_freezeJson again, again⟩

end Freezing

/-! ### A payload with declared metadata -/

/-- A host for ASCII texts without capitals. -/
def plainScreen : ScreenHost := ⟨plainHost, fun s => s⟩

def secretRef : Value :=
  .dict [("schema", .str "unchain.resource_ref.v1"), ("kind", .str "secret"), ("id", .str "s1"),
    ("revision", .int 1)]

/-- Metrics, and a reference in place of a secret, behind a sequence. -/
def metricsPayload : Value :=
  .dict [("usage", .dict [("input_tokens", .int 3)]),
    ("calls", .list [.dict [("api_key_ref", secretRef)]])]

def metricsFrozen : Frozen :=
  .mapping [("calls", .tuple [.mapping [("api_key_ref", .mapping [("id", .str "s1"),
      ("kind", .str "secret"), ("revision", .int 1), ("schema", .str "unchain.resource_ref.v1")])]]),
    ("usage", .mapping [("input_tokens", .int 3)])]

theorem metrics_freeze : freezeJson plainScreen "payload" metricsPayload = .ok metricsFrozen := by
  rfl

theorem metrics_screened :
    Screened plainScreen metricsPayload ∧ Screened plainScreen (thawJson metricsFrozen) ∧
      freezeJson plainScreen "payload" (thawJson metricsFrozen) = .ok metricsFrozen :=
  frozen_payload_screened metrics_freeze

/-- A plaintext secret is refused behind a sequence as well. -/
example : freezeJson plainScreen "payload" (.list [.dict [("password", .str "hunter2")]]) =
    .error (modelValidationError
      "payload[0].password is a plaintext secret field; use an opaque handle") := by
  rfl

end Unchain.Journal
