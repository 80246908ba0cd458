import Mathlib.Data.List.Basic

/-!
# The pieces of a list between separators

Splitting at some separators and splitting at more of them, without the empty
pieces, give the same list only where neither finds what the other one drops.
-/

namespace VpnMiddleware.Splitting

variable {α : Type*} {isSeparator isWider : α → Bool} {xs : List α}

theorem splitOnP_congr (hagree : ∀ x ∈ xs, isSeparator x = isWider x) :
    xs.splitOnP isSeparator = xs.splitOnP isWider := by
  induction xs with
  | nil => rfl
  | cons x xs ih =>
      rw [List.splitOnP_cons_eq_if_modifyHead,
        List.splitOnP_cons_eq_if_modifyHead, hagree x List.mem_cons_self,
        ih fun y hy => hagree y (List.mem_cons_of_mem x hy)]

/-- The pieces after one more element in front. -/
theorem splitOnP_cons_of_not {x : α} (hx : isSeparator x = false) :
    ∃ piece pieces, xs.splitOnP isSeparator = piece :: pieces ∧
      (x :: xs).splitOnP isSeparator = (x :: piece) :: pieces := by
  cases hpieces : xs.splitOnP isSeparator with
  | nil => exact absurd hpieces (List.splitOnP_ne_nil isSeparator xs)
  | cons piece pieces =>
      refine ⟨piece, pieces, rfl, ?_⟩
      simp [List.splitOnP_cons_eq_if_modifyHead, hx, hpieces]

theorem not_separator_of_mem {piece : List α}
    (hpiece : piece ∈ xs.splitOnP isSeparator) :
    ∀ x ∈ piece, isSeparator x = false := by
  induction xs generalizing piece with
  | nil =>
      obtain rfl : piece = [] := by simpa using hpiece
      simp
  | cons y ys ih =>
      cases hy : isSeparator y with
      | true =>
          simp only [List.splitOnP_cons_eq_if_modifyHead, hy, if_true,
            List.mem_cons] at hpiece
          cases hpiece with
          | inl hnil => simp [hnil]
          | inr hrest => exact ih hrest
      | false =>
          obtain ⟨first, rest, hys, hcons⟩ :=
            @splitOnP_cons_of_not _ _ ys _ hy
          rw [hcons, List.mem_cons] at hpiece
          cases hpiece with
          | inl hfirst =>
              intro x hx
              rw [hfirst, List.mem_cons] at hx
              cases hx with
              | inl heq => rw [heq, hy]
              | inr hmem => exact ih (by simp [hys]) x hmem
          | inr hrest => exact ih (by simp [hys, hrest])

/-- What is not a separator is in some piece. -/
theorem exists_piece {x : α} (hx : x ∈ xs) (hkept : isSeparator x = false) :
    ∃ piece ∈ xs.splitOnP isSeparator, x ∈ piece := by
  induction xs with
  | nil => simp at hx
  | cons y ys ih =>
      cases hy : isSeparator y with
      | true =>
          have hmem : x ∈ ys := by
            cases List.mem_cons.mp hx with
            | inl heq => simp [heq, hy] at hkept
            | inr hmem => exact hmem
          obtain ⟨piece, hpiece, hin⟩ := ih hmem
          refine ⟨piece, ?_, hin⟩
          simp [List.splitOnP_cons_eq_if_modifyHead, hy, hpiece]
      | false =>
          obtain ⟨first, rest, hys, hcons⟩ :=
            @splitOnP_cons_of_not _ _ ys _ hy
          rw [hcons]
          cases List.mem_cons.mp hx with
          | inl heq => exact ⟨y :: first, by simp, by simp [heq]⟩
          | inr hmem =>
              obtain ⟨piece, hpiece, hin⟩ := ih hmem
              rw [hys, List.mem_cons] at hpiece
              cases hpiece with
              | inl hfirst => exact ⟨y :: first, by simp, by simp [← hfirst, hin]⟩
              | inr hrest => exact ⟨piece, by simp [hrest], hin⟩

/-- Splitting at fewer separators gives what splitting at more of them gives
without the empty pieces, exactly if no piece is empty or holds one of the
further separators. -/
theorem splitOnP_eq_filter_iff
    (hwider : ∀ x, isSeparator x = true → isWider x = true) :
    xs.splitOnP isSeparator =
        (xs.splitOnP isWider).filter (fun piece => !piece.isEmpty) ↔
      ∀ piece ∈ xs.splitOnP isSeparator,
        piece ≠ [] ∧ ∀ x ∈ piece, isWider x = false := by
  constructor
  · intro heq piece hpiece
    rw [heq, List.mem_filter] at hpiece
    exact ⟨by simpa using hpiece.2, not_separator_of_mem hpiece.1⟩
  · intro hplain
    -- no element is one of the further separators
    have hagree : ∀ x ∈ xs, isSeparator x = isWider x := by
      intro x hx
      cases hsep : isSeparator x with
      | true => rw [hwider x hsep]
      | false =>
          obtain ⟨piece, hpiece, hin⟩ := exists_piece hx hsep
          rw [(hplain piece hpiece).2 x hin]
    rw [← splitOnP_congr hagree, eq_comm, List.filter_eq_self]
    intro piece hpiece
    simpa using (hplain piece hpiece).1

end VpnMiddleware.Splitting
