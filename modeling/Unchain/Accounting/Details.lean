import Unchain.Accounting.Agreement

/-!
The check of hydrated details against a compact bundle (`CompactRunBundle.verify_details`).

Each partition of the details is hashed with its name and the length of every record before it, so
the bytes that are hashed determine the name and the records (`partitionBytes_injective`). A digest
that no other payload has then binds the records of the details one by one.
-/

namespace Unchain.Accounting

open Lib Lib.Effect Python

section Verify

variable (host : BundleHost)

/-- The payload that `_digest_partition` hashes. -/
def partitionBytes (name : String) (items : List Value) : Except PyError Utf8.Bytes := do
  let encoded ← items.mapM (compactBytes host none)
  let domain := Utf8.encode name.toList
  let raw := bigEndian4 domain.length ++ domain ++ Frames.framed encoded
  raiseIf (compactMaxDetailsBytes < raw.length)
    (compactError "compact bundle details exceed the durable limit")
  return raw

def SameRecords (xs ys : List Value) : Prop :=
  ∃ encoded, xs.mapM (compactBytes host none) = .ok encoded ∧
    ys.mapM (compactBytes host none) = .ok encoded

namespace CompactRunBundle

/-- The partitions under their names. -/
def Details.partitions (d : Details) : List (String × List Value) :=
  [("provider_calls", d.providerCalls), ("metric_events", d.metricEvents), ("children", d.children)]

def Details.toDict (d : Details) : Value := .dict (d.partitions.map fun p => (p.1, .list p.2))

/-- One round of the loop over the partitions. -/
def readPartition (details : Value) (name : String) : Except PyError (List Value × DetailsPart) :=
  match details.get name with
  | .list items => do
    raiseIf (!items.all Value.isDict) (compactError "compact details partitions are invalid")
    let part ← digestPartition host name items
    return (items, part)
  | _ => .error (compactError "compact details partitions are invalid")

/-- Whether a value is an object with exactly the three partitions. -/
def hasPartitions (details : Value) : Bool :=
  details.isDict && ["provider_calls", "metric_events", "children"].all details.hasKey
    && details.entries.length = 3

/-- `verify_details`. -/
def verifyDetails (b : CompactRunBundle) (details : Value) : Except PyError Details := do
  raiseIf (!hasPartitions details) (compactError "compact details shape is invalid")
  let calls ← readPartition host details "provider_calls"
  let events ← readPartition host details "metric_events"
  let children ← readPartition host details "children"
  let parts := [calls.2, events.2, children.2]
  raiseIf (parts ≠ b.detailsRef.parts)
    (compactError "compact details partitions do not match details_ref")
  raiseIf ((parts.map DetailsPart.canonicalBytes).sum ≠ b.detailsRef.totalBytes)
    (compactError "compact details byte count does not match details_ref")
  let factsDigest ← compactSha256 host
    (factsBody b.identity b.lifecycle b.descriptor (natValue b.revision) parts)
  raiseIf (factsDigest ≠ b.detailsRef.factsDigest || b.detailsRef.detailsId ≠ "rbd_" ++ factsDigest)
    (compactError "compact details facts digest does not match details_ref")
  return ⟨calls.1, events.1, children.1⟩

structure Holds (v : Value) (d : Details) : Prop where
  shape : hasPartitions v = true
  partitions : ∀ p ∈ d.partitions, v.get p.1 = .list p.2
  records : ∀ p ∈ d.partitions, p.2.all Value.isDict = true

structure SameDetails (d d' : Details) : Prop where
  providerCalls : SameRecords host d.providerCalls d'.providerCalls
  metricEvents : SameRecords host d.metricEvents d'.metricEvents
  children : SameRecords host d.children d'.children

/-- SHA-256 does not collide on the payloads of two details. -/
def PartitionsApart (d d' : Details) : Prop :=
  ∀ p ∈ d.partitions, ∀ q ∈ d'.partitions, ∀ raw raw', partitionBytes host p.1 p.2 = .ok raw →
    partitionBytes host q.1 q.2 = .ok raw' → host.sha256 raw = host.sha256 raw' → raw = raw'

end CompactRunBundle

end Verify

/-! ### What is hashed -/

variable {host : BundleHost} {name name' : String} {xs ys : List Value} {raw : Utf8.Bytes}

theorem bigEndian4_injective {m n : Nat} (hm : m < 2 ^ 32) (hn : n < 2 ^ 32)
    (same : bigEndian4 m = bigEndian4 n) : m = n := by
  simp only [bigEndian4, List.cons.injEq, and_true] at same
  obtain ⟨b3, b2, b1, b0⟩ := same
  have b3 := Frames.mod_eq_of_ofNat b3
  have b2 := Frames.mod_eq_of_ofNat b2
  have b1 := Frames.mod_eq_of_ofNat b1
  have b0 := Frames.mod_eq_of_ofNat b0
  omega

theorem partitionBytes_iff : partitionBytes host name xs = .ok raw ↔
    ∃ encoded, xs.mapM (compactBytes host none) = .ok encoded ∧
      raw = bigEndian4 (Utf8.encode name.toList).length ++ Utf8.encode name.toList ++
        Frames.framed encoded ∧ raw.length ≤ compactMaxDetailsBytes := by
  simp only [partitionBytes, bind_iff, raiseIf_ok, exists_const, pure_iff,
    decide_eq_false_iff_not, Nat.not_lt]
  constructor
  · rintro ⟨encoded, wrote, fits, rfl⟩
    exact ⟨encoded, wrote, rfl, fits⟩
  · rintro ⟨encoded, wrote, rfl, fits⟩
    exact ⟨encoded, wrote, fits, rfl⟩

theorem partitionBytes_injective (h : partitionBytes host name xs = .ok raw)
    (h' : partitionBytes host name' ys = .ok raw) : name = name' ∧ SameRecords host xs ys := by
  obtain ⟨encoded, wrote, rfl, fits⟩ := partitionBytes_iff.mp h
  obtain ⟨encoded', wrote', same, -⟩ := partitionBytes_iff.mp h'
  have fits' := fits
  rw [same] at fits'
  simp only [List.length_append, compactMaxDetailsBytes] at fits fits'
  have small {zs : List Utf8.Bytes} (all : (Frames.framed zs).length ≤ 64 * 1024 * 1024) :
      ∀ z ∈ zs, z.length < 2 ^ 64 := by
    intro z mem
    have within := Frames.length_le_framed mem
    omega
  rw [List.append_assoc, List.append_assoc] at same
  obtain ⟨lengths, rest⟩ := List.append_inj same rfl
  obtain ⟨names, frames⟩ := List.append_inj rest
    (bigEndian4_injective (by omega) (by omega) lengths)
  obtain rfl := Frames.framed_injective (small (by omega)) (small (by omega)) frames
  exact ⟨String.toList_inj.mp (Utf8.encode_injective names), encoded, wrote, wrote'⟩

theorem digestPartition_iff {part : DetailsPart} : digestPartition host name xs = .ok part ↔
    ∃ raw, partitionBytes host name xs = .ok raw ∧
      part = ⟨name, xs.length, raw.length, host.sha256 raw⟩ := by
  simp only [digestPartition, bind_iff, raiseIf_ok, exists_const, pure_iff,
    partitionBytes_iff, decide_eq_false_iff_not, Nat.not_lt]
  constructor
  · rintro ⟨encoded, wrote, fits, rfl⟩
    exact ⟨_, ⟨encoded, wrote, rfl, fits⟩, rfl⟩
  · rintro ⟨_, ⟨encoded, wrote, rfl, fits⟩, rfl⟩
    exact ⟨encoded, wrote, fits, rfl⟩

theorem digestPartition_congr (same : SameRecords host xs ys) :
    digestPartition host name xs = digestPartition host name ys := by
  obtain ⟨encoded, wrote, wrote'⟩ := same
  have lengths : xs.length = ys.length :=
    (mapM_iff.mp wrote).length_eq.trans (mapM_iff.mp wrote').length_eq.symm
  rw [digestPartition, digestPartition, wrote, wrote', lengths]

theorem compactBytes_ok {limit : Option Nat} {v : Value} (h : compactBytes host limit v = .ok raw) :
    canonicalJson host.display v = .ok raw := by
  obtain ⟨encoded, wrote, h⟩ := bind_ok h
  obtain ⟨-, h⟩ := raiseIf_bind_ok h
  cases h
  exact except_mapError_ok wrote

theorem SameRecords.forms (same : SameRecords host xs ys) (exact : ∀ x ∈ xs, x.Exact)
    (exact' : ∀ y ∈ ys, y.Exact) :
    List.Forall₂ (fun x y => canonicalForm host.display x = canonicalForm host.display y) xs ys := by
  obtain ⟨encoded, wrote, wrote'⟩ := same
  rw [mapM_iff] at wrote wrote'
  induction wrote generalizing ys with
  | nil =>
    cases wrote'
    exact .nil
  | @cons x bytes xs encoded first rest ih =>
    cases wrote' with
    | @cons y _ ys _ first' rest' =>
      constructor
      · exact sorted_eq_of_canonicalJson (exact x (by simp)).plain (exact' y (by simp)).plain
          (compactBytes_ok first) (compactBytes_ok first')
      · exact ih (fun x mem => exact x (by simp [mem])) (fun y mem => exact' y (by simp [mem]))
          rest'

/-! ### The reference -/

theorem safeDigest_ok {field s t : String} (h : safeDigest field (.str s) = .ok t) : t = s := by
  rw [safeDigest] at h
  split at h
  · exact (Except.ok.inj h).symm
  · cases h

theorem compactCount_ok {field : String} {m n : Nat} (h : compactCount field (natValue n) = .ok m) :
    m = n := by
  exact (Except.ok.inj h).symm

theorem DetailsPart.read_toDict {names : List String} {p q : DetailsPart}
    (h : DetailsPart.read names p.toDict = .ok q) : q = p := by
  obtain ⟨-, h⟩ := raiseIf_bind_ok h
  obtain ⟨-, h⟩ := raiseIf_bind_ok h
  simp only [bind_iff, pure_iff] at h
  obtain ⟨count, countOk, size, sizeOk, root, rootOk, rfl⟩ := h
  rw [compactCount_ok countOk, compactCount_ok sizeOk, safeDigest_ok rootOk]

variable {parts : List DetailsPart}

theorem DetailsPart.readAll_toDict {names : List String} {read : List DetailsPart}
    (h : DetailsPart.readAll names (parts.map DetailsPart.toDict) = .ok read) : read = parts := by
  induction parts generalizing names read with
  | nil => exact (Except.ok.inj h).symm
  | cons p parts ih =>
    simp only [List.map_cons, DetailsPart.readAll, bind_iff, pure_iff] at h
    obtain ⟨first, firstOk, rest, restOk, rfl⟩ := h
    rw [read_toDict firstOk, ih restOk]

/-- The reference holds what it is made of. -/
theorem DetailsRef.make_ok {id digest : String} {total : Nat} {ref : DetailsRef}
    (h : DetailsRef.make (parts.map DetailsPart.toDict)
      (.dict [("details_id", .str id), ("facts_digest", .str digest),
        ("total_bytes", natValue total)]) = .ok ref) : ref = ⟨id, digest, total, parts⟩ := by
  simp only [DetailsRef.make, bind_iff, raiseIf_ok, exists_const, pure_iff] at h
  obtain ⟨id', idOk, digest', digestOk, total', totalOk, -, -, read, readOk, rfl⟩ := h
  have idOk : DetailsRef.readId (.str id) = .ok id' := idOk
  have named : id' = id := by
    rw [DetailsRef.readId] at idOk
    split at idOk
    · exact (Except.ok.inj idOk).symm
    · cases idOk
  rw [named, safeDigest_ok digestOk, compactCount_ok totalOk, DetailsPart.readAll_toDict readOk]

namespace CompactRunBundle

theorem readRevision_ok {v : Value} {n : Nat} (h : readRevision v = .ok n) : v = natValue n := by
  cases v with
  | int m =>
    rw [readRevision] at h
    split at h
    · cases h
    · cases h
      rw [natValue, Int.toNat_of_nonneg (by omega)]
  | _ => cases h

variable {args : Args} {facts : Facts} {c : CompactRunBundle} {details d : Details} {v : Value}

structure Binds (host : BundleHost) (c : CompactRunBundle) (details : Details) : Prop where
  parts : digestDetails host details = .ok c.detailsRef.parts
  total : c.detailsRef.totalBytes = (c.detailsRef.parts.map DetailsPart.canonicalBytes).sum
  digest : compactSha256 host (factsBody c.identity c.lifecycle c.descriptor (natValue c.revision)
    c.detailsRef.parts) = .ok c.detailsRef.factsDigest
  id : c.detailsRef.detailsId = "rbd_" ++ c.detailsRef.factsDigest
  records : ∀ p ∈ details.partitions, p.2.all Value.isDict = true

theorem all_isDict_map {α : Type} {f : α → Value} (dict : ∀ a, (f a).isDict = true) (as : List α) :
    (as.map f).all Value.isDict = true := by
  simp [dict]

theorem fromFacts_binds
    (h : fromFacts host args facts.receipts facts.metricEvents facts.children = .ok (c, details)) :
    Binds host c details := by
  simp only [fromFacts, bind_iff, pure_iff] at h
  obtain ⟨parts, partsOk, digest, digestOk, ref, refOk, _, -, _, -, _, -, _, -, _, -, _, -, _, -, _, -,
    _, -, _, -, bundle, made, same⟩ := h
  obtain rfl : bundle = c := congrArg Prod.fst same
  obtain rfl := (congrArg Prod.snd same).symm
  obtain rfl := DetailsRef.make_ok refOk
  simp only [make, bind_iff, pure_iff] at made
  obtain ⟨revision, revisionOk, _, -, _, -, _, -, _, -, _, -, _, -, _, -, _, -, _, -, _, -, rfl⟩ := made
  obtain revised : args.revision = natValue revision := readRevision_ok revisionOk
  rw [revised] at digestOk
  refine ⟨partsOk, rfl, digestOk, rfl, ?_⟩
  simp only [Details.partitions, List.forall_mem_cons]
  exact ⟨all_isDict_map (fun _ => rfl) _, all_isDict_map (fun _ => rfl) _,
    all_isDict_map (fun _ => rfl) _, nofun⟩

theorem readPartition_iff {part : DetailsPart} : readPartition host v name = .ok (xs, part) ↔
    v.get name = .list xs ∧ xs.all Value.isDict = true ∧ digestPartition host name xs = .ok part := by
  unfold readPartition
  constructor
  · intro h
    split at h
    · rename_i items found
      obtain ⟨dicts, h⟩ := raiseIf_bind_ok h
      obtain ⟨part', digested, h⟩ := bind_ok h
      cases h
      exact ⟨found, by simpa using dicts, digested⟩
    · cases h
  · rintro ⟨found, dicts, digested⟩
    rw [found]
    simp only [dicts, digested]
    rfl

theorem digestDetails_iff : digestDetails host d = .ok parts ↔
    ∃ calls events children, digestPartition host "provider_calls" d.providerCalls = .ok calls ∧
      digestPartition host "metric_events" d.metricEvents = .ok events ∧
      digestPartition host "children" d.children = .ok children ∧
      parts = [calls, events, children] := by
  simp only [digestDetails, bind_iff, pure_iff]
  constructor
  · rintro ⟨calls, callsOk, events, eventsOk, children, childrenOk, rfl⟩
    exact ⟨calls, events, children, callsOk, eventsOk, childrenOk, rfl⟩
  · rintro ⟨calls, events, children, callsOk, eventsOk, childrenOk, rfl⟩
    exact ⟨calls, callsOk, events, eventsOk, children, childrenOk, rfl⟩

theorem Binds.verify_iff (binds : Binds host c details) : verifyDetails host c v = .ok d ↔
      Holds v d ∧ digestDetails host d = .ok c.detailsRef.parts := by
  constructor
  · intro h
    obtain ⟨shape, h⟩ := raiseIf_bind_ok h
    obtain ⟨⟨calls, callPart⟩, callsOk, h⟩ := bind_ok h
    obtain ⟨⟨events, eventPart⟩, eventsOk, h⟩ := bind_ok h
    obtain ⟨⟨children, childPart⟩, childrenOk, h⟩ := bind_ok h
    obtain ⟨same, h⟩ := raiseIf_bind_ok h
    obtain ⟨-, h⟩ := raiseIf_bind_ok h
    obtain ⟨_, -, h⟩ := bind_ok h
    obtain ⟨-, h⟩ := raiseIf_bind_ok h
    cases h
    obtain ⟨foundCalls, dictCalls, digestCalls⟩ := readPartition_iff.mp callsOk
    obtain ⟨foundEvents, dictEvents, digestEvents⟩ := readPartition_iff.mp eventsOk
    obtain ⟨foundChildren, dictChildren, digestChildren⟩ := readPartition_iff.mp childrenOk
    have parts : [callPart, eventPart, childPart] = c.detailsRef.parts := by simpa using same
    refine ⟨⟨by simpa using shape, ?_, ?_⟩, ?_⟩
    · simp [Details.partitions, foundCalls, foundEvents, foundChildren]
    · simp only [Details.partitions, List.forall_mem_cons]
      exact ⟨dictCalls, dictEvents, dictChildren, nofun⟩
    · exact digestDetails_iff.mpr ⟨_, _, _, digestCalls, digestEvents, digestChildren, parts.symm⟩
  · rintro ⟨⟨shape, found, dicts⟩, digested⟩
    obtain ⟨callPart, eventPart, childPart, digestCalls, digestEvents, digestChildren, parts⟩ :=
      digestDetails_iff.mp digested
    simp only [Details.partitions, List.forall_mem_cons] at found dicts
    obtain ⟨foundCalls, foundEvents, foundChildren, -⟩ := found
    obtain ⟨dictCalls, dictEvents, dictChildren, -⟩ := dicts
    have calls := readPartition_iff.mpr ⟨foundCalls, dictCalls, digestCalls⟩
    have events := readPartition_iff.mpr ⟨foundEvents, dictEvents, digestEvents⟩
    have children := readPartition_iff.mpr ⟨foundChildren, dictChildren, digestChildren⟩
    have total := binds.total
    have digest := binds.digest
    have id := binds.id
    rw [parts] at total digest
    simp only [verifyDetails, shape, calls, events, children, parts, total, id, digest, raiseIf, bind,
      Except.bind]
    simp [pure, Except.pure]

/-- The parts of two details agree exactly when their records do, unless SHA-256 collides on them. -/
theorem digestDetails_eq_iff (h : digestDetails host details = .ok parts)
    (apart : PartitionsApart host details d) :
    digestDetails host d = .ok parts ↔ SameDetails host details d := by
  obtain ⟨calls, events, children, callsOk, eventsOk, childrenOk, rfl⟩ := digestDetails_iff.mp h
  constructor
  · intro h'
    obtain ⟨_, _, _, callsOk', eventsOk', childrenOk', same⟩ := digestDetails_iff.mp h'
    cases same
    have records {name : String} {xs ys : List Value} {part : DetailsPart}
        (mem : (name, xs) ∈ details.partitions) (mem' : (name, ys) ∈ d.partitions)
        (digest : digestPartition host name xs = .ok part)
        (digest' : digestPartition host name ys = .ok part) : SameRecords host xs ys := by
      obtain ⟨raw, wrote, rfl⟩ := digestPartition_iff.mp digest
      obtain ⟨raw', wrote', same⟩ := digestPartition_iff.mp digest'
      obtain rfl := apart _ mem _ mem' raw raw' wrote wrote' (congrArg DetailsPart.rootSha256 same)
      exact (partitionBytes_injective wrote wrote').2
    constructor
    · exact records (by simp [Details.partitions]) (by simp [Details.partitions]) callsOk callsOk'
    · exact records (by simp [Details.partitions]) (by simp [Details.partitions]) eventsOk eventsOk'
    · exact records (by simp [Details.partitions]) (by simp [Details.partitions]) childrenOk
        childrenOk'
  · intro same
    apply digestDetails_iff.mpr
    rw [← digestPartition_congr same.providerCalls, ← digestPartition_congr same.metricEvents,
      ← digestPartition_congr same.children]
    exact ⟨_, _, _, callsOk, eventsOk, childrenOk, rfl⟩

/-- The details of a compact bundle verify against it, and what verifies holds their records: the
payload of a partition determines its name and its records. -/
theorem details_bound (compact : fromFacts host args facts.receipts facts.metricEvents
      facts.children = .ok (c, details)) : verifyDetails host c details.toDict = .ok details ∧
    (∀ v d, PartitionsApart host details d →
      (verifyDetails host c v = .ok d ↔ Holds v d ∧ SameDetails host details d)) ∧
    (∀ name name' xs ys raw, partitionBytes host name xs = .ok raw →
      partitionBytes host name' ys = .ok raw → name = name' ∧ SameRecords host xs ys) ∧
    (∀ xs ys, SameRecords host xs ys → (∀ x ∈ xs, x.Exact) → (∀ y ∈ ys, y.Exact) →
      List.Forall₂ (fun x y => canonicalForm host.display x = canonicalForm host.display y) xs ys) := by
  have binds := fromFacts_binds compact
  refine ⟨binds.verify_iff.mpr ⟨⟨rfl, ?_, binds.records⟩, binds.parts⟩, ?_, ?_, ?_⟩
  · simp only [Details.partitions, List.forall_mem_cons]
    exact ⟨rfl, rfl, rfl, nofun⟩
  · intro v d apart
    rw [binds.verify_iff, digestDetails_eq_iff binds.parts apart]
  · intro name name' xs ys raw h h'
    exact partitionBytes_injective h h'
  · intro xs ys same exact exact'
    exact same.forms exact exact'

/-- The details of an event that is listed twice. -/
theorem rootDetails_bound :
    verifyDetails asciiHost rootCompact
      (Details.toDict ⟨[], [rootEvent.toDict, rootEvent.toDict], []⟩) =
      .ok ⟨[], [rootEvent.toDict, rootEvent.toDict], []⟩ :=
  (details_bound rootFacts_compact).1

end CompactRunBundle

end Unchain.Accounting
