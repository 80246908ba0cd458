import Mathlib.Data.List.Basic
import Mathlib.Data.List.Nodup
import Mathlib.Data.List.Forall2
import Mathlib.Algebra.Order.BigOperators.Group.List

/-!
# Tables as lists of rows

A table is the list of its rows in insertion order.  `updateWhere` is SQL's
`update .. set .. where ..`; `Evolves` says how a table can change over one
transaction: its rows stay in place, each changed in an allowed way, and new
rows are appended.
-/

namespace VpnMiddleware.Table

variable {Row Key : Type*}

/-- `update table set change where selected`. -/
def updateWhere (selected : Row → Bool) (change : Row → Row)
    (rows : List Row) : List Row :=
  rows.map fun row => if selected row then change row else row

theorem mem_updateWhere {selected : Row → Bool} {change : Row → Row}
    {rows : List Row} {row : Row} :
    row ∈ updateWhere selected change rows ↔
      ∃ old ∈ rows, (if selected old then change old else old) = row := by
  simp [updateWhere]

@[simp]
theorem length_updateWhere (selected : Row → Bool) (change : Row → Row)
    (rows : List Row) :
    (updateWhere selected change rows).length = rows.length := by
  simp [updateWhere]

@[simp]
theorem updateWhere_nil (selected : Row → Bool) (change : Row → Row) :
    updateWhere selected change [] = [] := rfl

theorem updateWhere_cons (selected : Row → Bool) (change : Row → Row)
    (row : Row) (rows : List Row) :
    updateWhere selected change (row :: rows) =
      (if selected row then change row else row) ::
        updateWhere selected change rows := rfl

theorem updateWhere_eq_self {selected : Row → Bool} {change : Row → Row}
    {rows : List Row} (hnone : ∀ row ∈ rows, selected row = false) :
    updateWhere selected change rows = rows := by
  induction rows with
  | nil => rfl
  | cons row rows ih =>
      rw [updateWhere_cons, hnone row (by simp),
        ih fun other hother => hnone other (List.mem_cons_of_mem _ hother)]
      rfl

/-- An update that leaves a column alone leaves the whole column alone. -/
theorem map_updateWhere {column : Row → Key} {change : Row → Row}
    (hkeep : ∀ row, column (change row) = column row)
    (selected : Row → Bool) (rows : List Row) :
    (updateWhere selected change rows).map column = rows.map column := by
  rw [updateWhere, List.map_map]
  apply List.map_congr_left
  intro row _
  by_cases hrow : selected row = true <;> simp [hrow, hkeep]

/-- Two rows of a table with distinct keys agree once their keys do. -/
theorem eq_of_key {key : Row → Key} {rows : List Row}
    (hnodup : (rows.map key).Nodup) {left right : Row}
    (hleft : left ∈ rows) (hright : right ∈ rows)
    (hkey : key left = key right) : left = right :=
  List.inj_on_of_nodup_map hnodup hleft hright hkey

/-- After an update of the row with a given key: the changed row and the
others. -/
theorem mem_updateWhere_key [DecidableEq Key] {key : Row → Key}
    {change : Row → Row} {rows : List Row} {row row' : Row}
    (hnodup : (rows.map key).Nodup) (hrow : row ∈ rows)
    (hrow' : row' ∈ updateWhere (fun other => key other == key row) change rows) :
    row' = change row ∨ (row' ∈ rows ∧ key row' ≠ key row) := by
  obtain ⟨old, hold, heq⟩ := mem_updateWhere.mp hrow'
  by_cases hkey : key old = key row
  · rw [if_pos (by simpa using hkey)] at heq
    exact Or.inl (heq ▸ congrArg change (eq_of_key hnodup hold hrow hkey))
  · rw [if_neg (by simpa using hkey)] at heq
    exact Or.inr (heq ▸ ⟨hold, hkey⟩)

/-- An update that keeps the key keeps every key in the table. -/
theorem exists_key_updateWhere {key : Row → Key} {selected : Row → Bool}
    {change : Row → Row} {rows : List Row} {value : Key}
    (hkeep : ∀ row, key (change row) = key row)
    (hexists : ∃ row ∈ rows, key row = value) :
    ∃ row ∈ updateWhere selected change rows, key row = value := by
  obtain ⟨row, hrow, hkey⟩ := hexists
  refine ⟨_, mem_updateWhere.mpr ⟨row, hrow, rfl⟩, ?_⟩
  split_ifs
  · exact (hkeep row).trans hkey
  · exact hkey

theorem updateWhere_congr {selected selected' : Row → Bool}
    {change : Row → Row} {rows : List Row}
    (hsame : ∀ row ∈ rows, selected row = selected' row) :
    updateWhere selected change rows = updateWhere selected' change rows := by
  apply List.map_congr_left
  intro row hrow
  rw [hsame row hrow]

/-- Two updates of the same rows in a row. -/
theorem updateWhere_comp {selected : Row → Bool} {first second : Row → Row}
    {rows : List Row} (hkeep : ∀ row, selected (first row) = selected row) :
    updateWhere selected second (updateWhere selected first rows) =
      updateWhere selected (second ∘ first) rows := by
  rw [updateWhere, updateWhere, List.map_map]
  apply List.map_congr_left
  intro row _
  cases hrow : selected row <;> simp [hrow, hkeep]

/-- Updating twice with an idempotent change is one update. -/
theorem updateWhere_updateWhere {selected selected' : Row → Bool}
    {change : Row → Row} (hidem : ∀ row, change (change row) = change row)
    (hkeep : ∀ row, selected' (change row) = selected' row) (rows : List Row) :
    updateWhere selected' change (updateWhere selected change rows) =
      updateWhere (fun row => selected row || selected' row) change rows := by
  rw [updateWhere, updateWhere, List.map_map]
  apply List.map_congr_left
  intro row _
  by_cases hfirst : selected row = true
  · simp [hfirst, hkeep, hidem]
  · simp [hfirst]

/-! ## Rows found by their key -/

section Found

variable [DecidableEq Key] {key : Row → Key} {rows : List Row}

theorem find?_of_mem {row : Row} (hnodup : (rows.map key).Nodup)
    (hrow : row ∈ rows) :
    rows.find? (fun other => key other == key row) = some row := by
  have hsome : (rows.find? fun other => key other == key row).isSome := by
    rw [List.find?_isSome]
    exact ⟨row, hrow, by simp⟩
  obtain ⟨found, hfound⟩ := Option.isSome_iff_exists.mp hsome
  have hkey : key found = key row := by simpa using List.find?_some hfound
  rw [hfound, eq_of_key hnodup (List.mem_of_find?_eq_some hfound) hrow hkey]

/-- The row with a key after an update of the row with that key. -/
theorem find?_updateWhere {change : Row → Row}
    (hkeep : ∀ row, key (change row) = key row) (value : Key) :
    (updateWhere (fun row => key row == value) change rows).find?
        (fun row => key row == value) =
      (rows.find? fun row => key row == value).map change := by
  induction rows with
  | nil => rfl
  | cons row rows ih =>
      rw [updateWhere_cons]
      by_cases hrow : key row = value
      · simp [hrow, hkeep]
      · simpa [hrow] using ih

/-- The rows with a key after an update of the rows with that key. -/
theorem filter_updateWhere {change : Row → Row}
    (hkeep : ∀ row, key (change row) = key row) (value : Key) :
    (updateWhere (fun row => key row == value) change rows).filter
        (fun row => key row == value) =
      (rows.filter fun row => key row == value).map change := by
  induction rows with
  | nil => rfl
  | cons row rows ih =>
      rw [updateWhere_cons]
      by_cases hrow : key row = value
      · simpa [hrow, hkeep] using ih
      · simpa [hrow] using ih

end Found

/-! ## Rows named by their key -/

section Named

variable [DecidableEq Key]

/-- The key of a row occurs in a list of rows. -/
def isNamedBy (key : Row → Key) (named : List Row) (row : Row) : Bool :=
  named.any fun other => key other == key row

theorem isNamedBy_iff {key : Row → Key} {named : List Row} {row : Row} :
    isNamedBy key named row = true ↔ ∃ other ∈ named, key other = key row := by
  simp [isNamedBy]

/-- In a table with distinct keys a row is named by a list of its rows exactly
if it is one of them. -/
theorem isNamedBy_iff_mem {key : Row → Key} {rows named : List Row}
    (hnodup : (rows.map key).Nodup) (hnamed : ∀ row ∈ named, row ∈ rows)
    {row : Row} (hrow : row ∈ rows) :
    isNamedBy key named row = true ↔ row ∈ named := by
  rw [isNamedBy_iff]
  constructor
  · rintro ⟨other, hother, hkey⟩
    exact eq_of_key hnodup (hnamed other hother) hrow hkey ▸ hother
  · exact fun hmem => ⟨row, hmem, rfl⟩

end Named

/-! ## Evolution of a table -/

/-- The rows of `before`, each changed according to `Change`, followed by new
rows that satisfy `Added`. -/
def Evolves (Change : Row → Row → Prop) (Added : List Row → Prop)
    (before after : List Row) : Prop :=
  ∃ kept added, after = kept ++ added ∧ List.Forall₂ Change before kept ∧
    Added added

namespace Evolves

variable {Change Change' : Row → Row → Prop} {Added Added' : List Row → Prop}
variable {before after : List Row}

theorem refl (hrefl : ∀ row ∈ before, Change row row) (hnone : Added []) :
    Evolves Change Added before before :=
  ⟨before, [], by simp, List.forall₂_same.mpr hrefl, hnone⟩

theorem of_updateWhere_append {selected : Row → Bool} {change : Row → Row}
    {added : List Row}
    (hselected : ∀ row ∈ before, selected row = true → Change row (change row))
    (hother : ∀ row ∈ before, selected row = false → Change row row)
    (hadded : Added added) :
    Evolves Change Added before (updateWhere selected change before ++ added) := by
  refine ⟨updateWhere selected change before, added, rfl, ?_, hadded⟩
  rw [updateWhere, List.forall₂_map_right_iff, List.forall₂_same]
  intro row hrow
  by_cases hsel : selected row = true
  · simpa [hsel] using hselected row hrow hsel
  · simpa [hsel] using hother row hrow (by simpa using hsel)

theorem of_updateWhere {selected : Row → Bool} {change : Row → Row}
    (hselected : ∀ row ∈ before, selected row = true → Change row (change row))
    (hother : ∀ row ∈ before, selected row = false → Change row row)
    (hnone : Added []) :
    Evolves Change Added before (updateWhere selected change before) := by
  simpa using of_updateWhere_append hselected hother hnone

theorem of_append {added : List Row} (hrefl : ∀ row ∈ before, Change row row)
    (hadded : Added added) : Evolves Change Added before (before ++ added) :=
  ⟨before, added, rfl, List.forall₂_same.mpr hrefl, hadded⟩

/-- Every old row is still there, changed in an allowed way. -/
theorem forward (hevolves : Evolves Change Added before after) {row : Row}
    (hrow : row ∈ before) : ∃ row' ∈ after, Change row row' := by
  obtain ⟨kept, added, rfl, hkept, -⟩ := hevolves
  obtain ⟨i, hi⟩ := List.mem_iff_getElem?.mp hrow
  obtain ⟨hbound, hrow⟩ := List.getElem?_eq_some_iff.mp hi
  have hlength := hkept.length_eq
  refine ⟨kept[i], List.mem_append_left _ (List.getElem_mem _), ?_⟩
  exact hrow ▸ hkept.get hbound (hlength ▸ hbound)

/-- Every row of the new table is an old row, changed in an allowed way, or
new. -/
theorem backward (hevolves : Evolves Change Added before after) {row' : Row}
    (hrow' : row' ∈ after) :
    (∃ row ∈ before, Change row row') ∨ ∃ added, Added added ∧ row' ∈ added := by
  obtain ⟨kept, added, rfl, hkept, hadded⟩ := hevolves
  rcases List.mem_append.mp hrow' with hold | hnew
  · left
    obtain ⟨i, hi⟩ := List.mem_iff_getElem?.mp hold
    obtain ⟨hbound, hrow⟩ := List.getElem?_eq_some_iff.mp hi
    have hlength := hkept.length_eq
    refine ⟨before[i], List.getElem_mem _, ?_⟩
    exact hrow ▸ hkept.get (hlength ▸ hbound) hbound
  · exact Or.inr ⟨added, hadded, hnew⟩

/-- A column that no change touches keeps its values as a prefix. -/
theorem exists_map_eq {column : Row → Key}
    (hevolves : Evolves Change Added before after)
    (hkeep : ∀ row row', Change row row' → column row' = column row) :
    ∃ added, Added added ∧
      after.map column = before.map column ++ added.map column := by
  obtain ⟨kept, added, rfl, hkept, hadded⟩ := hevolves
  refine ⟨added, hadded, ?_⟩
  rw [List.map_append]
  congr 1
  clear hadded
  induction hkept with
  | nil => rfl
  | cons hrow _ ih => simp [hkeep _ _ hrow, ih]

/-- A table whose rows do not change only grows. -/
theorem exists_append (hevolves : Evolves Change Added before after)
    (hsame : ∀ row row', Change row row' → row' = row) :
    ∃ added, Added added ∧ after = before ++ added := by
  obtain ⟨kept, added, rfl, hkept, hadded⟩ := hevolves
  have heq : List.Forall₂ Eq before kept :=
    hkept.imp fun row row' hchange => (hsame row row' hchange).symm
  rw [List.forall₂_eq_eq_eq] at heq
  exact ⟨added, hadded, by rw [heq]⟩

end Evolves

end VpnMiddleware.Table
