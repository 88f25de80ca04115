import Unchain.Lib.Json

/-!
How many characters the text of a JSON object takes.

The text of an object is its members with marks around them, whatever their order. A member that
is an integer adds its digits and nothing else.
-/

namespace Unchain.Lib.Json

theorem length_commas (pieces : List (List Char)) :
    (commas pieces).length = (pieces.map fun piece => piece.length + 1).sum - 1 := by
  induction pieces using commas.induct with
  | case1 => rfl
  | case2 piece => simp [commas]
  | case3 piece rest notNil ih =>
    obtain ⟨next, rest, rfl⟩ := List.exists_cons_of_ne_nil notNil
    rw [commas_cons_cons, List.length_append, List.length_cons, ih]
    simp only [List.map_cons, List.sum_cons]
    omega

/-- The characters of a member, with the two marks it needs. -/
def memberLength (m : List Char × Json) : Nat := (quote m.1).length + m.2.write.length + 2

variable (members : List (List Char × Json))

theorem sum_writeMembers :
    ((writeMembers members).map fun piece => piece.length + 1).sum =
      (members.map memberLength).sum := by
  induction members with
  | nil => rfl
  | cons m members ih =>
    obtain ⟨name, v⟩ := m
    simp only [writeMembers, List.map_cons, List.sum_cons, ih, memberLength, List.length_append,
      List.length_cons]
    omega

theorem length_write_obj :
    (write (.obj members)).length = (members.map memberLength).sum - 1 + 2 := by
  rw [write, List.length_cons, List.length_append, length_commas, sum_writeMembers,
    List.length_singleton]

theorem length_canonical_obj :
    (canonical (.obj members)).length =
      (members.map fun m => (quote m.1).length + m.2.canonical.length + 2).sum - 1 + 2 := by
  have same := (List.perm_insertionSort NameLE (sortedMembers members)).map memberLength
  rw [canonical, sorted, length_write_obj, same.sum_eq, sortedMembers_eq_map, List.map_map]
  rfl

end Unchain.Lib.Json
