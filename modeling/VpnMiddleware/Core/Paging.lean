import Mathlib.Data.List.Perm.Subperm
import Mathlib.Data.List.Sort

/-!
# Offset paging over a growing list

A reader walks a sorted list page by page, each page from the number of rows
that it has, and drops the rows of a page that it has seen.  The list may grow
between two pages, in front of the rows already read as well as behind them.
-/

namespace VpnMiddleware.Paging

variable {Row Key : Type*}

/-- `limit .. offset ..`. -/
def page (limit offset : ℕ) (rows : List Row) : List Row :=
  (rows.drop offset).take limit

/-- The rows whose key is not among those shown, after the shown ones. -/
def appendUnseen [DecidableEq Key] (key : Row → Key)
    (shown rows : List Row) : List Row :=
  shown ++ rows.filter fun row => !(shown.map key).contains (key row)

/-- Every row of `rows` is shown or stands in `log` at or after the position
from which the next page is read. -/
def Covers (rows log shown : List Row) : Prop :=
  ∀ row ∈ rows, row ∈ shown ∨ row ∈ log.drop shown.length

/-! ## Sorting -/

section Sorting

variable {precedes : Row → Row → Prop} [DecidableRel precedes]
variable [Std.Total precedes] [IsTrans Row precedes]

/-- A new row does not reorder the others. -/
theorem insertionSort_sublist_append {rows : List Row} {row : Row}
    (hantisymm : ∀ left ∈ rows ++ [row], ∀ right ∈ rows ++ [row],
      precedes left right → precedes right left → left = right) :
    (rows.insertionSort precedes).Sublist
      ((rows ++ [row]).insertionSort precedes) := by
  classical
  have hperm := List.perm_insertionSort precedes (rows ++ [row])
  have hsorted := List.pairwise_insertionSort precedes (rows ++ [row])
  have hrest : (((rows ++ [row]).insertionSort precedes).erase row).Perm
      (rows.insertionSort precedes) := by
    have hfront : (rows ++ [row]).Perm (row :: rows) :=
      List.perm_append_singleton row rows
    have herased := (hperm.trans hfront).erase row
    rw [List.erase_cons_head] at herased
    exact herased.trans (List.perm_insertionSort precedes rows).symm
  have heq := hrest.eq_of_pairwise
    (fun left right hleft hright => hantisymm left
      (hperm.mem_iff.mp (List.mem_of_mem_erase hleft)) right
      (List.mem_append_left _ ((List.mem_insertionSort precedes).mp hright)))
    (hsorted.sublist List.erase_sublist)
    (List.pairwise_insertionSort precedes rows)
  rw [← heq]
  exact List.erase_sublist

end Sorting

/-! ## Pages -/

section Pages

variable {limit offset : ℕ} {rows log log' shown : List Row}

theorem page_sublist : (page limit offset rows).Sublist rows :=
  (List.take_sublist _ _).trans (List.drop_sublist _ _)

theorem length_page :
    (page limit offset rows).length = min limit (rows.length - offset) := by
  rw [page, List.length_take, List.length_drop]

/-- Rows that arrive only move the others back. -/
theorem Covers.grow (hcovers : Covers rows log shown)
    (hgrow : log.Sublist log') :
    Covers rows log' shown := fun row hrow =>
  (hcovers row hrow).imp_right fun hdrop => (hgrow.drop _).subset hdrop

end Pages

section Walk

variable [DecidableEq Key] {key : Row → Key}
variable {limit : ℕ} {rows log shown fetched : List Row}

theorem mem_appendUnseen {row : Row} :
    row ∈ appendUnseen key shown fetched ↔
      row ∈ shown ∨ row ∈ fetched ∧ key row ∉ shown.map key := by
  simp [appendUnseen]

theorem length_appendUnseen_le :
    (appendUnseen key shown fetched).length ≤ shown.length + fetched.length := by
  rw [appendUnseen, List.length_append]
  have := List.length_filter_le
    (fun row => !(shown.map key).contains (key row)) fetched
  omega

theorem appendUnseen_subset (hshown : shown ⊆ log) (hfetched : fetched ⊆ log) :
    appendUnseen key shown fetched ⊆ log := by
  intro row hrow
  rcases mem_appendUnseen.mp hrow with hold | ⟨hnew, -⟩
  · exact hshown hold
  · exact hfetched hnew

theorem nodup_appendUnseen (hshown : (shown.map key).Nodup)
    (hfetched : (fetched.map key).Nodup) :
    ((appendUnseen key shown fetched).map key).Nodup := by
  rw [appendUnseen, List.map_append, List.nodup_append]
  refine ⟨hshown, hfetched.sublist (List.filter_sublist.map key), ?_⟩
  rintro _ hleft _ hright rfl
  obtain ⟨row, hrow, heq⟩ := List.mem_map.mp hright
  have hunseen := (List.mem_filter.mp hrow).2
  rw [heq] at hunseen
  simp [hleft] at hunseen

/-- The next page, read from as many rows as are shown, leaves no gap. -/
theorem Covers.next (hkeys : (log.map key).Nodup) (hshown : shown ⊆ log)
    (hcovers : Covers rows log shown) :
    Covers rows log
      (appendUnseen key shown (page limit shown.length log)) := by
  intro row hrow
  rcases hcovers row hrow with hold | hdrop
  · exact Or.inl (mem_appendUnseen.mpr (Or.inl hold))
  · rw [← List.take_append_drop limit (log.drop shown.length),
      List.mem_append, List.drop_drop] at hdrop
    rcases hdrop with hpage | hbehind
    · left
      rw [mem_appendUnseen]
      by_cases hseen : key row ∈ shown.map key
      · obtain ⟨other, hother, heq⟩ := List.mem_map.mp hseen
        have hlog : row ∈ log := page_sublist.subset hpage
        obtain rfl := List.inj_on_of_nodup_map hkeys (hshown hother) hlog heq
        exact Or.inl hother
      · exact Or.inr ⟨hpage, hseen⟩
    · right
      have hlength : (appendUnseen key shown (page limit shown.length log)).length ≤
          shown.length + limit := by
        refine length_appendUnseen_le.trans ?_
        rw [length_page]
        omega
      exact (List.drop_sublist_drop_left log hlength).subset hbehind

end Walk

end VpnMiddleware.Paging
