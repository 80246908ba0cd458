import Mathlib.Data.List.Basic

/-!
# Entries by their number

The entries of a list that only grows and whose entries are replaced one at a
time: calls, promises or processes that are known by their number.
-/

namespace VpnMiddleware.Slots

variable {Entry : Type*} {entries : List Entry} {entry new : Entry} {i j : ℕ}

/-- An entry after a replacement is the new one or an old one. -/
theorem getElem?_set_cases (h : (entries.set i new)[j]? = some entry) :
    j = i ∧ entry = new ∨ j ≠ i ∧ entries[j]? = some entry := by
  by_cases hj : i = j
  · subst hj
    have hlt := (List.getElem?_eq_some_iff.mp h).1
    rw [List.length_set] at hlt
    rw [List.getElem?_set_self hlt, Option.some.injEq] at h
    exact .inl ⟨rfl, h.symm⟩
  · rw [List.getElem?_set_ne hj] at h
    exact .inr ⟨Ne.symm hj, h⟩

/-- An entry of a list that grew is an old one or the new one. -/
theorem getElem?_concat_cases (h : (entries ++ [new])[i]? = some entry) :
    entries[i]? = some entry ∨ i = entries.length ∧ entry = new := by
  rw [List.getElem?_append] at h
  split at h
  · exact .inl h
  · have hindex := (List.getElem?_eq_some_iff.mp h).1
    rw [List.length_singleton] at hindex
    have hlast : i = entries.length := by omega
    rw [hlast, Nat.sub_self, List.getElem?_cons_zero, Option.some.injEq] at h
    exact .inr ⟨hlast, h.symm⟩

/-- An entry keeps its number. -/
theorem getElem?_concat_of_some (h : entries[i]? = some entry) :
    (entries ++ [new])[i]? = some entry := by
  rw [List.getElem?_append_left (List.getElem?_eq_some_iff.mp h).1, h]

theorem getElem?_set_new (h : entries[i]? = some entry) :
    (entries.set i new)[i]? = some new :=
  List.getElem?_set_self (List.getElem?_eq_some_iff.mp h).1

end VpnMiddleware.Slots
