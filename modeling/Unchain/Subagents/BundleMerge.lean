import Unchain.Kernel.Records
import Unchain.Lib.Highest
import Mathlib.Data.Set.Insert

/-!
The run bundles of children, merged into those of a `SubagentState` (`subagents/types.py`).

A bundle is what the reader parses and reads back from its own wire. A state's `run_bundles` is a
dictionary from ids to wires. The merge of one bundle keeps, replaces or raises
(`mergeBundle_cases`); where it returns, the dictionary covers one bundle more
(`mergeBundle_ok`), and so does the merge of a whole update (`mergeBundles_ok`).
-/

namespace Unchain.Kernel.SubagentState

open Python Lib Lib.Effect Lib.Highest

/-! ### Bundles and their dictionaries -/

/-- A bundle, as its own wire is read back. -/
def IsBundle (reader : RunBundleReader) (b : RunBundleView) : Prop := reader b.wire = .ok b

/-- What a merge compares of a bundle. -/
structure Mark where
  bundleId : String
  identity : Value
  revision : Int
  bundleDigest : Value

def mark (b : RunBundleView) : Mark := ⟨b.bundleId, b.identity, b.revision, b.bundleDigest⟩

/-- What is known of `run_bundle_from_dict`: `from_dict(to_dict())` is the bundle again, and is a
dictionary; the identity is a record of texts and the digest a text, so `==` compares them
character by character; and the digest is the SHA-256 digest of the canonical body, so it
determines the bundle's dictionary. -/
structure Lawful (reader : RunBundleReader) : Prop where
  read : ∀ v b, reader v = .ok b → IsBundle reader b ∧ b.wire.isDict = true
  identity : ∀ b c, IsBundle reader b → IsBundle reader c →
    (b.identity.eqPy c.identity = true ↔ b.identity = c.identity)
  digest : ∀ b c, IsBundle reader b → IsBundle reader c →
    (b.bundleDigest.eqPy c.bundleDigest = true ↔ b.bundleDigest = c.bundleDigest)
  body : ∀ b c, IsBundle reader b → IsBundle reader c → b.bundleDigest = c.bundleDigest →
    b.wire.eqPy c.wire = true

def bundleFacts : Facts Mark String Value where
  key := Mark.bundleId
  ident := Mark.identity
  rank := Mark.revision

def entry (b : RunBundleView) : String × Value := (b.bundleId, b.wire)

/-- Bundles that a dictionary can hold: each under its own id. -/
structure Stored (reader : RunBundleReader) (bs : List RunBundleView) : Prop where
  bundles : ∀ b ∈ bs, IsBundle reader b
  distinct : (bs.map RunBundleView.bundleId).Nodup

theorem keys_entries (bs : List RunBundleView) :
    Assoc.keys (bs.map entry) = bs.map RunBundleView.bundleId := by
  simp [Assoc.keys, entry, Function.comp_def]

variable {bs : List RunBundleView} {reader : RunBundleReader}

theorem Stored.eq_of_id (h : Stored reader bs) :
    ∀ b ∈ bs, ∀ c ∈ bs, b.bundleId = c.bundleId → b = c :=
  fun _ hb _ hc same => List.inj_on_of_nodup_map h.distinct hb hc same

theorem set_entries (b : RunBundleView) (bs : List RunBundleView)
    (distinct : (bs.map RunBundleView.bundleId).Nodup) :
    ∃ bs' : List RunBundleView, Assoc.set b.bundleId b.wire (bs.map entry) = bs'.map entry ∧
      (bs'.map RunBundleView.bundleId).Nodup ∧
      ∀ x, x ∈ bs' ↔ x = b ∨ x ∈ bs ∧ x.bundleId ≠ b.bundleId := by
  let place : RunBundleView → RunBundleView := fun x => if x.bundleId = b.bundleId then b else x
  have placeId : ∀ x, (place x).bundleId = x.bundleId := by
    intro x
    by_cases same : x.bundleId = b.bundleId <;> simp [place, same]
  by_cases mem : b.bundleId ∈ bs.map RunBundleView.bundleId
  · refine ⟨bs.map place, ?_, ?_, ?_⟩
    · rw [Assoc.set_of_mem b.wire (by rwa [keys_entries]) (by rwa [keys_entries])]
      simp only [List.map_map, List.map_inj_left, Function.comp_apply]
      intro x _
      by_cases same : x.bundleId = b.bundleId <;> simp [entry, place, same]
    · have ids : (bs.map place).map RunBundleView.bundleId = bs.map RunBundleView.bundleId := by
        simp [Function.comp_def, placeId]
      rwa [ids]
    · intro x
      rw [List.mem_map]
      constructor
      · rintro ⟨y, hy, rfl⟩
        by_cases same : y.bundleId = b.bundleId
        · exact .inl (by simp [place, same])
        · have stays : place y = y := by simp [place, same]
          rw [stays]
          exact .inr ⟨hy, same⟩
      · rintro (rfl | ⟨hx, ne⟩)
        · obtain ⟨y, hy, same⟩ := List.mem_map.mp mem
          exact ⟨y, hy, by simp [place, same]⟩
        · exact ⟨x, hx, by simp [place, ne]⟩
  · refine ⟨bs ++ [b], ?_, ?_, ?_⟩
    · rw [Assoc.set_of_not_mem b.wire (by rwa [keys_entries])]
      simp [entry]
    · rw [List.map_append]
      exact distinct.append (List.nodup_singleton _) (by simpa using mem)
    · intro x
      have ne : x ∈ bs → x.bundleId ≠ b.bundleId := by
        rintro hx same
        exact mem (List.mem_map.mpr ⟨x, hx, same⟩)
      rw [List.mem_append, List.mem_singleton]
      constructor
      · rintro (hx | rfl)
        · exact .inr ⟨hx, ne hx⟩
        · exact .inl rfl
      · rintro (rfl | ⟨hx, -⟩)
        · exact .inr rfl
        · exact .inl hx

variable {b : RunBundleView}

theorem get_entries (distinct : (bs.map RunBundleView.bundleId).Nodup) (mem : b ∈ bs) :
    Assoc.get b.bundleId (bs.map entry) = some b.wire :=
  Assoc.get_of_mem (by rwa [keys_entries]) (List.mem_map.mpr ⟨b, mem, rfl⟩)

theorem get_entries_none {id : String} (fresh : ∀ b ∈ bs, b.bundleId ≠ id) :
    Assoc.get id (bs.map entry) = none := by
  rw [Assoc.get_eq_none_iff, keys_entries]
  intro mem
  obtain ⟨b, hb, same⟩ := List.mem_map.mp mem
  exact fresh b hb same

/-! ### One bundle -/

def marks (bs : List RunBundleView) : Set Mark := {m | ∃ b ∈ bs, mark b = m}

theorem mem_marks (mem : b ∈ bs) : mark b ∈ marks bs := ⟨b, mem, rfl⟩

@[simp] theorem marks_nil : marks [] = ∅ := by
  ext m
  simp [marks]

theorem marks_cons (b : RunBundleView) (bs : List RunBundleView) :
    marks (b :: bs) = insert (mark b) (marks bs) := by
  ext m
  simp [marks, eq_comm]

theorem Stored.covers (h : Stored reader bs) : Covers bundleFacts (marks bs) (marks bs) := by
  refine Covers.of_distinct ?_
  rintro _ ⟨b, hb, rfl⟩ _ ⟨c, hc, rfl⟩ same
  rw [h.eq_of_id b hb c hc same]

/-- What a merge of one bundle comes to: the recorded bundle of its id stays when it has the
higher revision, the new one is written when it has, or is the same, and everything else raises. -/
theorem mergeBundle_cases (lawful : Lawful reader) (stored : Stored reader bs)
    (bundle : IsBundle reader b) : (∃ c ∈ bs, c.bundleId = b.bundleId ∧
      (c.identity ≠ b.identity ∨ c.revision = b.revision ∧ c.bundleDigest ≠ b.bundleDigest) ∧
      ∃ e, mergeBundle reader (bs.map entry) b.bundleId b.wire = .error e) ∨
    (∃ c ∈ bs, c.bundleId = b.bundleId ∧ c.identity = b.identity ∧ b.revision < c.revision ∧
      mergeBundle reader (bs.map entry) b.bundleId b.wire = .ok (bs.map entry)) ∨
    ((∀ c ∈ bs, c.bundleId = b.bundleId →
        c.identity = b.identity ∧ (c.revision < b.revision ∨ mark c = mark b)) ∧
      mergeBundle reader (bs.map entry) b.bundleId b.wire =
        .ok (Assoc.set b.bundleId b.wire (bs.map entry))) := by
  by_cases known : ∃ c ∈ bs, c.bundleId = b.bundleId
  · obtain ⟨c, hc, same⟩ := known
    have lookup : Assoc.get b.bundleId (bs.map entry) = some c.wire := by
      rw [← same]
      exact get_entries stored.distinct hc
    have prior := stored.bundles c hc
    obtain ⟨es, wire⟩ := Value.isDict_iff.mp (lawful.read _ _ prior).2
    have only : ∀ x ∈ bs, x.bundleId = b.bundleId → x = c :=
      fun x hx id => stored.eq_of_id x hx c hc (id.trans same.symm)
    have readPrior : reader (.dict es) = .ok c := by rw [← wire]; exact prior
    have unfolded : mergeBundle reader (bs.map entry) b.bundleId b.wire =
        if !c.identity.eqPy b.identity then
          .error (.raised "RunBundleProtocolError"
            "one child bundle_id changed its immutable identity")
        else if b.revision < c.revision then .ok (bs.map entry)
        else if b.revision = c.revision ∧ !b.bundleDigest.eqPy c.bundleDigest then
          .error (.raised "RunBundleProtocolError"
            "one child bundle revision has conflicting projections")
        else .ok (Assoc.set b.bundleId b.wire (bs.map entry)) := by
      rw [mergeBundle, lookup, wire]
      simp only [readPrior, show reader b.wire = .ok b from bundle]
      rfl
    rw [unfolded]
    have identity := lawful.identity c b prior bundle
    have digest := lawful.digest b c bundle prior
    by_cases sameIdentity : c.identity = b.identity
    · simp only [identity.mpr sameIdentity, Bool.not_true, Bool.false_eq_true, ↓reduceIte]
      by_cases older : b.revision < c.revision
      · exact .inr (.inl ⟨c, hc, same, sameIdentity, older, by simp [older]⟩)
      · rw [if_neg older]
        by_cases conflict : c.revision = b.revision ∧ c.bundleDigest ≠ b.bundleDigest
        · refine .inl ⟨c, hc, same, .inr conflict, ?_⟩
          have ne : b.bundleDigest.eqPy c.bundleDigest = false := by
            rw [Bool.eq_false_iff]
            exact fun eq => conflict.2 (digest.mp eq).symm
          exact ⟨_, if_pos ⟨conflict.1.symm, by simp [ne]⟩⟩
        · refine .inr (.inr ⟨?_, ?_⟩)
          · intro x hx id
            rw [only x hx id]
            refine ⟨sameIdentity, ?_⟩
            by_cases newer : c.revision < b.revision
            · exact .inl newer
            · have sameRevision : c.revision = b.revision := by omega
              have sameDigest : c.bundleDigest = b.bundleDigest := by
                by_contra ne
                exact conflict ⟨sameRevision, ne⟩
              exact .inr (by simp [mark, same, sameIdentity, sameRevision, sameDigest])
          · rw [if_neg]
            rintro ⟨sameRevision, ne⟩
            refine conflict ⟨sameRevision.symm, ?_⟩
            intro sameDigest
            simp [digest.mpr sameDigest.symm] at ne
    · refine .inl ⟨c, hc, same, .inl sameIdentity, ?_⟩
      have ne : c.identity.eqPy b.identity = false := by
        rw [Bool.eq_false_iff]
        exact fun eq => sameIdentity (identity.mp eq)
      exact ⟨_, if_pos (by simp [ne])⟩
  · push Not at known
    refine .inr (.inr ⟨fun c hc same => absurd same (known c hc), ?_⟩)
    rw [mergeBundle, get_entries_none known]

variable {es : Dict}

theorem mergeBundle_ok (lawful : Lawful reader) (stored : Stored reader bs)
    (bundle : IsBundle reader b)
    (merges : mergeBundle reader (bs.map entry) b.bundleId b.wire = .ok es) :
    ∃ bs', es = bs'.map entry ∧ Stored reader bs' ∧
      ∀ S, Covers bundleFacts S (marks bs) →
        Covers bundleFacts (insert (mark b) S) (marks bs') := by
  rcases mergeBundle_cases lawful stored bundle with
    ⟨c, -, -, -, e, raises⟩ | ⟨c, hc, same, identity, older, kept⟩ | ⟨above, written⟩
  · rw [raises] at merges
    cases merges
  · rw [kept] at merges
    cases merges
    refine ⟨bs, rfl, stored, ?_⟩
    intro S cover
    exact cover.keep (mem_marks hc) same.symm identity.symm (.inl older)
  · rw [written] at merges
    cases merges
    obtain ⟨bs', writes, distinct, mem⟩ := set_entries b bs stored.distinct
    refine ⟨bs', writes, ⟨?_, distinct⟩, ?_⟩
    · intro x hx
      rcases (mem x).mp hx with rfl | ⟨hx, -⟩
      · exact bundle
      · exact stored.bundles x hx
    · intro S cover
      have heads : marks bs' = insert (mark b) {h ∈ marks bs | h.bundleId ≠ b.bundleId} := by
        ext m
        constructor
        · rintro ⟨x, hx, rfl⟩
          rcases (mem x).mp hx with rfl | ⟨hx, ne⟩
          · exact .inl rfl
          · exact .inr ⟨mem_marks hx, ne⟩
        · rintro (rfl | ⟨⟨x, hx, rfl⟩, ne⟩)
          · exact mem_marks ((mem b).mpr (.inl rfl))
          · exact mem_marks ((mem x).mpr (.inr ⟨hx, ne⟩))
      rw [heads]
      refine cover.put ?_
      rintro _ ⟨c, hc, rfl⟩ same
      exact above c hc same

variable {U : Set Mark}

theorem mergeBundle_returns (lawful : Lawful reader) (stored : Stored reader bs)
    (bundle : IsBundle reader b) (consistent : Consistent bundleFacts U) (inU : marks bs ⊆ U)
    (mem : mark b ∈ U) : ∃ es, mergeBundle reader (bs.map entry) b.bundleId b.wire = .ok es := by
  rcases mergeBundle_cases lawful stored bundle with
    ⟨c, hc, same, conflict, -⟩ | ⟨c, -, -, -, -, kept⟩ | ⟨-, written⟩
  · have known := inU (mem_marks hc)
    rcases conflict with identity | ⟨revision, digest⟩
    · exact absurd (consistent.ident_eq _ known _ mem same) identity
    · have eq := consistent.rank_eq _ known _ mem same revision
      exact absurd (congrArg Mark.bundleDigest eq) digest
  · exact ⟨_, kept⟩
  · exact ⟨_, written⟩

/-! ### The bundles of one update -/

variable {cs : List RunBundleView}

theorem mergeBundles_ok (lawful : Lawful reader) (bundles : ∀ b ∈ cs, IsBundle reader b)
    (stored : Stored reader bs)
    (merges : mergeBundles reader (bs.map entry) (cs.map entry) = .ok es) :
    ∃ bs', es = bs'.map entry ∧ Stored reader bs' ∧
      ∀ S, Covers bundleFacts S (marks bs) →
        Covers bundleFacts (S ∪ marks cs) (marks bs') := by
  induction cs generalizing bs with
  | nil =>
    cases merges
    exact ⟨bs, rfl, stored, fun S cover => by simpa using cover⟩
  | cons c cs ih =>
    obtain ⟨es₁, first, rest⟩ := bind_ok merges
    obtain ⟨bs₁, rfl, stored₁, cover₁⟩ := mergeBundle_ok lawful stored (bundles c (by simp)) first
    obtain ⟨bs', eq, stored', cover'⟩ := ih (fun b mem => bundles b (by simp [mem])) stored₁ rest
    refine ⟨bs', eq, stored', ?_⟩
    intro S cover
    have step := cover' _ (cover₁ S cover)
    rwa [marks_cons, Set.union_insert, ← Set.insert_union]

theorem mergeBundles_returns (lawful : Lawful reader) (bundles : ∀ b ∈ cs, IsBundle reader b)
    (stored : Stored reader bs) (consistent : Consistent bundleFacts U) (inU : marks bs ⊆ U)
    (subU : marks cs ⊆ U) : ∃ es, mergeBundles reader (bs.map entry) (cs.map entry) = .ok es := by
  induction cs generalizing bs with
  | nil => exact ⟨_, rfl⟩
  | cons c cs ih =>
    have bundle := bundles c (by simp)
    have mem : mark c ∈ U := subU (mem_marks (by simp))
    obtain ⟨es₁, first⟩ := mergeBundle_returns lawful stored bundle consistent inU mem
    obtain ⟨bs₁, rfl, stored₁, cover₁⟩ := mergeBundle_ok lawful stored bundle first
    have inU₁ : marks bs₁ ⊆ U := by
      intro x hx
      rcases ((cover₁ _ stored.covers).highest x hx).mem with rfl | old
      · exact mem
      · exact inU old
    obtain ⟨es, rest⟩ := ih (fun b mem => bundles b (by simp [mem])) stored₁ inU₁
      (fun x hx => subU (by rw [marks_cons]; exact .inr hx))
    refine ⟨es, ?_⟩
    simp only [List.map_cons, entry, mergeBundles]
    rw [first]
    exact rest

end Unchain.Kernel.SubagentState
