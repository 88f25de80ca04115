import Mathlib.Data.Set.Basic

/-!
The highest fact of every key.

Facts carry a key, an identity that all facts of one key must share, and a rank that orders them.
`Covers S H` says that the heads `H` are, for each key of `S`, the one fact of highest rank. A new
fact is put in the place of its key's head, or left out below it (`Covers.put`, `Covers.keep`);
and covering the heads of a set covers the set (`Covers.union`).
-/

namespace Unchain.Lib.Highest

/-- What is read off a fact. -/
structure Facts (β κ ι : Type) where
  key : β → κ
  ident : β → ι
  rank : β → Int

variable {β κ ι : Type} (F : Facts β κ ι)

/-- `h` stands above every other fact of its key in `S`, and shares the identity of all. -/
structure IsHighest (S : Set β) (h : β) : Prop where
  mem : h ∈ S
  ident_eq : ∀ b ∈ S, F.key b = F.key h → F.ident b = F.ident h
  above : ∀ b ∈ S, F.key b = F.key h → F.rank b < F.rank h ∨ b = h

structure Covers (S H : Set β) : Prop where
  highest : ∀ h ∈ H, IsHighest F S h
  covered : ∀ b ∈ S, ∃ h ∈ H, F.key h = F.key b

/-- Facts that can be collected in any order: one identity for each key, one fact for each rank. -/
structure Consistent (S : Set β) : Prop where
  ident_eq : ∀ b ∈ S, ∀ c ∈ S, F.key b = F.key c → F.ident b = F.ident c
  rank_eq : ∀ b ∈ S, ∀ c ∈ S, F.key b = F.key c → F.rank b = F.rank c → b = c

variable {F} {S T H H' : Set β} {b c h : β}

theorem IsHighest.unique {h' : β} (hh : IsHighest F S h) (hh' : IsHighest F S h')
    (same : F.key h = F.key h') : h = h' := by
  rcases hh.above h' hh'.mem same.symm with lower | eq
  · rcases hh'.above h hh.mem same with lower' | eq
    · omega
    · exact eq
  · exact eq.symm

/-- Facts of which no two share a key are their own heads. -/
theorem Covers.of_distinct (distinct : ∀ b ∈ S, ∀ c ∈ S, F.key b = F.key c → b = c) :
    Covers F S S where
  highest h mem :=
    ⟨mem, fun b hb same => by rw [distinct b hb h mem same],
      fun b hb same => .inr (distinct b hb h mem same)⟩
  covered b mem := ⟨b, mem, rfl⟩

/-- A fact that stands below the head of its key changes nothing. -/
theorem Covers.keep (cover : Covers F S H) (mem : h ∈ H) (key : F.key b = F.key h)
    (ident : F.ident b = F.ident h) (below : F.rank b < F.rank h ∨ b = h) :
    Covers F (insert b S) H where
  highest h' mem' := by
    have highest := cover.highest h' mem'
    refine ⟨.inr highest.mem, ?_, ?_⟩
    · rintro c (rfl | hc) same
      · have eq := (cover.highest h mem).unique highest (key.symm.trans same)
        rw [ident, eq]
      · exact highest.ident_eq c hc same
    · rintro c (rfl | hc) same
      · have eq := (cover.highest h mem).unique highest (key.symm.trans same)
        rwa [← eq]
      · exact highest.above c hc same
  covered c mem' := by
    rcases mem' with rfl | mem'
    · exact ⟨h, mem, key.symm⟩
    · exact cover.covered c mem'

theorem Covers.put (cover : Covers F S H)
    (above : ∀ h ∈ H, F.key h = F.key b → F.ident h = F.ident b ∧ (F.rank h < F.rank b ∨ h = b)) :
    Covers F (insert b S) (insert b {h ∈ H | F.key h ≠ F.key b}) where
  highest h mem := by
    rcases mem with rfl | ⟨mem, ne⟩
    · refine ⟨.inl rfl, ?_, ?_⟩
      · rintro c (rfl | hc) same
        · rfl
        · obtain ⟨h', mem', key⟩ := cover.covered c hc
          have highest := (cover.highest h' mem').ident_eq c hc key.symm
          rw [highest, (above h' mem' (key.trans same)).1]
      · rintro c (rfl | hc) same
        · exact .inr rfl
        · obtain ⟨h', mem', key⟩ := cover.covered c hc
          rcases (cover.highest h' mem').above c hc key.symm with lower | rfl
          · rcases (above h' mem' (key.trans same)).2 with lower' | rfl
            · exact .inl (by omega)
            · exact .inl lower
          · exact (above c mem' same).2
    · have highest := cover.highest h mem
      refine ⟨.inr highest.mem, ?_, ?_⟩
      · rintro c (rfl | hc) same
        · exact absurd same.symm ne
        · exact highest.ident_eq c hc same
      · rintro c (rfl | hc) same
        · exact absurd same.symm ne
        · exact highest.above c hc same
  covered c mem := by
    rcases mem with rfl | mem
    · exact ⟨c, .inl rfl, rfl⟩
    · obtain ⟨h, hmem, key⟩ := cover.covered c mem
      by_cases same : F.key h = F.key b
      · exact ⟨b, .inl rfl, same.symm.trans key⟩
      · exact ⟨h, .inr ⟨hmem, same⟩, key⟩

/-- The heads of a set stand for the set. -/
theorem Covers.union (part : Covers F T H) (cover : Covers F (S ∪ H) H') : Covers F (S ∪ T) H' where
  highest h mem := by
    have highest := cover.highest h mem
    refine ⟨?_, ?_, ?_⟩
    · rcases highest.mem with inS | inH
      · exact .inl inS
      · exact .inr (part.highest h inH).mem
    · rintro c (inS | inT) same
      · exact highest.ident_eq c (.inl inS) same
      · obtain ⟨d, hd, key⟩ := part.covered c inT
        rw [(part.highest d hd).ident_eq c inT key.symm]
        exact highest.ident_eq d (.inr hd) (key.trans same)
    · rintro c (inS | inT) same
      · exact highest.above c (.inl inS) same
      · obtain ⟨d, hd, key⟩ := part.covered c inT
        have top := highest.above d (.inr hd) (key.trans same)
        rcases (part.highest d hd).above c inT key.symm with lower | rfl
        · rcases top with lower' | rfl
          · exact .inl (by omega)
          · exact .inl lower
        · exact top
  covered c mem := by
    rcases mem with inS | inT
    · exact cover.covered c (.inl inS)
    · obtain ⟨d, hd, key⟩ := part.covered c inT
      obtain ⟨h, hmem, key'⟩ := cover.covered d (.inr hd)
      exact ⟨h, hmem, key'.trans key⟩

theorem Covers.ident_eq (cover : Covers F S H) (hb : b ∈ S) (hc : c ∈ S)
    (key : F.key b = F.key c) : F.ident b = F.ident c := by
  obtain ⟨h, mem, same⟩ := cover.covered b hb
  have highest := cover.highest h mem
  rw [highest.ident_eq b hb same.symm, highest.ident_eq c hc (key.symm.trans same.symm)]

theorem Covers.top_eq (cover : Covers F S H) (hb : b ∈ S) (hc : c ∈ S) (key : F.key b = F.key c)
    (rank : F.rank b = F.rank c)
    (top : ∀ d ∈ S, F.key d = F.key b → F.rank d ≤ F.rank b) : b = c := by
  obtain ⟨h, mem, same⟩ := cover.covered b hb
  have highest := cover.highest h mem
  have bound := top h highest.mem same
  rcases highest.above b hb same.symm with lower | rfl
  · omega
  · rcases highest.above c hc key.symm with lower | eq
    · omega
    · exact eq.symm

end Unchain.Lib.Highest
