import Mathlib.Algebra.GroupWithZero.Nat
import Mathlib.Data.List.Perm.Subperm
import VpnMiddleware.Core.Table

/-!
# Counting rows

How an update of one row changes a count over the table, and the double
counting bound: rows that fall into at most one of several buckets are counted
at most once over all buckets.
-/

namespace VpnMiddleware.Counting

open VpnMiddleware.Table

variable {Row Key : Type*}

/-- An update that does not change which rows count does not change the
count. -/
theorem countP_updateWhere_of_same {counts selected : Row → Bool}
    {change : Row → Row} {rows : List Row}
    (hsame : ∀ row ∈ rows, selected row = true →
      counts (change row) = counts row) :
    (updateWhere selected change rows).countP counts = rows.countP counts := by
  induction rows with
  | nil => rfl
  | cons row rows ih =>
      have hrest := ih fun other hother => hsame other (List.mem_cons_of_mem _ hother)
      rw [updateWhere_cons, List.countP_cons, List.countP_cons, hrest]
      by_cases hselected : selected row = true
      · rw [if_pos hselected, hsame row (by simp) hselected]
      · rw [if_neg hselected]

/-- An update of the row with a given key that makes it count adds one. -/
theorem countP_updateWhere_key [DecidableEq Key] {key : Row → Key}
    {counts : Row → Bool} {change : Row → Row} {rows : List Row} {row : Row}
    (hnodup : (rows.map key).Nodup) (hrow : row ∈ rows)
    (hbefore : counts row = false) (hafter : counts (change row) = true) :
    (updateWhere (fun other => key other == key row) change rows).countP counts =
      rows.countP counts + 1 := by
  induction rows with
  | nil => simp at hrow
  | cons head rows ih =>
      rw [List.map_cons, List.nodup_cons] at hnodup
      obtain ⟨hfresh, hnodup⟩ := hnodup
      rcases List.mem_cons.mp hrow with rfl | htail
      · have hrest : updateWhere (fun other => key other == key row) change rows =
            rows := by
          refine updateWhere_eq_self fun other hother => ?_
          rw [beq_eq_false_iff_ne]
          exact fun heq => hfresh (List.mem_map.mpr ⟨other, hother, heq⟩)
        rw [updateWhere_cons, hrest, if_pos (beq_self_eq_true _),
          List.countP_cons, List.countP_cons, hafter, hbefore]
        simp
      · have hhead : (key head == key row) = false := by
          rw [beq_eq_false_iff_ne]
          exact fun heq => hfresh (List.mem_map.mpr ⟨row, htail, heq.symm⟩)
        rw [updateWhere_cons, hhead, List.countP_cons, List.countP_cons,
          ih hnodup htail]
        simp only [Bool.false_eq_true, if_false]
        omega

/-- Rows that change one by one, none of which starts to count. -/
theorem countP_forall₂_le {counts : Row → Bool} {Change : Row → Row → Prop}
    {before after : List Row} (hchanges : List.Forall₂ Change before after)
    (hcounts : ∀ row row', Change row row' → counts row' = true →
      counts row = true) : after.countP counts ≤ before.countP counts := by
  induction hchanges with
  | nil => rfl
  | @cons row row' before after hchange _ ih =>
      rw [List.countP_cons, List.countP_cons]
      by_cases hafter : counts row' = true
      · rw [if_pos hafter, if_pos (hcounts row row' hchange hafter)]
        omega
      · rw [if_neg hafter]
        omega

/-- An update after which the named rows, all counted before, count no more. -/
theorem countP_updateWhere_named [DecidableEq Key] {key : Row → Key}
    {counts : Row → Bool} {change : Row → Row} {rows named : List Row}
    (hnamed : named.Nodup)
    (hmem : ∀ row ∈ named, row ∈ rows ∧ counts row = true)
    (hchange : ∀ row, counts (change row) = false) :
    (updateWhere (isNamedBy key named) change rows).countP counts +
      named.length ≤ rows.countP counts := by
  have hkept : (updateWhere (isNamedBy key named) change rows).countP counts =
      rows.countP fun row => counts row && !isNamedBy key named row := by
    rw [updateWhere, List.countP_map]
    apply List.countP_congr
    intro row _
    by_cases hrow : isNamedBy key named row = true <;> simp [hrow, hchange]
  have hsubset : named ⊆
      rows.filter fun row => counts row && isNamedBy key named row := by
    intro row hrow
    obtain ⟨hmem, hcounts⟩ := hmem row hrow
    rw [List.mem_filter, hcounts]
    exact ⟨hmem, isNamedBy_iff.mpr ⟨row, hrow, rfl⟩⟩
  have hlength := (List.subperm_of_subset hnamed hsubset).length_le
  rw [← List.countP_eq_length_filter] at hlength
  calc (updateWhere (isNamedBy key named) change rows).countP counts +
        named.length
      ≤ (rows.countP fun row => counts row && !isNamedBy key named row) +
        rows.countP fun row => counts row && isNamedBy key named row := by
        rw [hkept]
        exact Nat.add_le_add_left hlength _
    _ = rows.countP counts := by
        rw [List.countP_eq_countP_filter_add rows counts
          (isNamedBy key named), List.countP_filter, List.countP_filter]
        omega

section Buckets

variable {bucket : Key → Row → Bool}

/-- A row falls into at most one bucket. -/
def Disjoint (bucket : Key → Row → Bool) : Prop :=
  ∀ row left right, bucket left row = true → bucket right row = true →
    left = right

private theorem sum_of_bucket_le (hdisjoint : Disjoint bucket) (row : Row)
    (weight : ℕ) {keys : List Key} (hnodup : keys.Nodup) :
    (keys.map fun key => if bucket key row then weight else 0).sum ≤ weight := by
  induction keys with
  | nil => simp
  | cons key keys ih =>
      obtain ⟨hfresh, hnodup⟩ := List.nodup_cons.mp hnodup
      rw [List.map_cons, List.sum_cons]
      by_cases hkey : bucket key row = true
      · have hrest : (keys.map fun key =>
            if bucket key row then weight else 0).sum = 0 := by
          refine List.sum_eq_zero fun term hterm => ?_
          obtain ⟨other, hother, rfl⟩ := List.mem_map.mp hterm
          rw [if_neg]
          exact fun hbucket => hfresh (hdisjoint row _ _ hkey hbucket ▸ hother)
        rw [if_pos hkey, hrest, Nat.add_zero]
      · rw [if_neg hkey, Nat.zero_add]
        exact ih hnodup

/-- Over distinct buckets no row is counted twice. -/
theorem sum_buckets_le (hdisjoint : Disjoint bucket) (weight : Row → ℕ)
    {keys : List Key} (hnodup : keys.Nodup) (rows : List Row) :
    (keys.map fun key => ((rows.filter (bucket key)).map weight).sum).sum ≤
      (rows.map weight).sum := by
  induction rows with
  | nil => simp
  | cons row rows ih =>
      have hsplit : ∀ key,
          (((row :: rows).filter (bucket key)).map weight).sum =
            (if bucket key row then weight row else 0) +
              ((rows.filter (bucket key)).map weight).sum := by
        intro key
        by_cases hkey : bucket key row = true
        · rw [List.filter_cons_of_pos hkey, List.map_cons, List.sum_cons,
            if_pos hkey]
        · rw [List.filter_cons_of_neg hkey, if_neg hkey, Nat.zero_add]
      simp only [hsplit, List.sum_map_add]
      rw [List.map_cons, List.sum_cons]
      exact Nat.add_le_add (sum_of_bucket_le hdisjoint row _ hnodup) ih

theorem sum_countP_le (hdisjoint : Disjoint bucket) {keys : List Key}
    (hnodup : keys.Nodup) (rows : List Row) :
    (keys.map fun key => rows.countP (bucket key)).sum ≤ rows.length := by
  have hbound := sum_buckets_le hdisjoint (fun _ => 1) hnodup rows
  simpa [List.countP_eq_length_filter] using hbound

end Buckets

end VpnMiddleware.Counting
