import Mathlib.Data.List.Basic

/-!
# Pools of processes

The processes in flight, in a list.  `settle` puts back a process that took a
step, or removes it when it is done.
-/

namespace VpnMiddleware.Pool

variable {Proc : Type*} {pool : List Proc} {i : ℕ} {current proc : Proc}
variable {next : Option Proc}

def settle (pool : List Proc) (i : ℕ) : Option Proc → List Proc
  | some proc => pool.set i proc
  | none => pool.eraseIdx i

theorem mem_settle (hproc : proc ∈ settle pool i next) :
    proc ∈ pool ∨ next = some proc := by
  cases next with
  | none => exact Or.inl (List.mem_of_mem_eraseIdx hproc)
  | some stepped =>
      rcases List.mem_or_eq_of_mem_set hproc with hold | rfl
      · exact Or.inl hold
      · exact Or.inr rfl

/-- The process that took the step is replaced; the others stay. -/
theorem mem_settle_of_mem (hcurrent : pool[i]? = some current)
    (hproc : proc ∈ pool) : proc = current ∨ proc ∈ settle pool i next := by
  obtain ⟨j, hj⟩ := List.mem_iff_getElem?.mp hproc
  by_cases hij : i = j
  · subst hij
    rw [hcurrent] at hj
    exact Or.inl (Option.some.inj hj).symm
  · right
    cases next with
    | none =>
        exact List.mem_eraseIdx_iff_getElem?.mpr ⟨j, Ne.symm hij, hj⟩
    | some stepped =>
        refine List.mem_iff_getElem?.mpr ⟨j, ?_⟩
        rw [settle, List.getElem?_set_ne hij, hj]

theorem mem_settle_next (hcurrent : pool[i]? = some current)
    (hnext : next = some proc) : proc ∈ settle pool i next := by
  subst hnext
  have hi : i < pool.length := (List.getElem?_eq_some_iff.mp hcurrent).1
  exact List.mem_set hi proc

/-- A step exchanges one process for at most one other. -/
theorem countP_settle {counts : Proc → Bool} (hcurrent : pool[i]? = some current) :
    (settle pool i next).countP counts + (if counts current then 1 else 0) =
      pool.countP counts + if next.any counts then 1 else 0 := by
  obtain ⟨hi, rfl⟩ := List.getElem?_eq_some_iff.mp hcurrent
  have hsplit : pool = pool.take i ++ pool[i] :: pool.drop (i + 1) := by
    rw [List.getElem_cons_drop, List.take_append_drop]
  have hcount : pool.countP counts = (pool.take i).countP counts +
      ((pool.drop (i + 1)).countP counts + if counts pool[i] then 1 else 0) := by
    conv_lhs => rw [hsplit]
    rw [List.countP_append, List.countP_cons]
  cases next with
  | none =>
      rw [settle, List.eraseIdx_eq_take_drop_succ, List.countP_append, hcount]
      simp only [Option.any_none, Bool.false_eq_true, if_false]
      omega
  | some stepped =>
      rw [settle, List.set_eq_take_append_cons_drop, if_pos hi,
        List.countP_append, List.countP_cons, hcount]
      simp only [Option.any_some]
      omega

/-- A key that a step keeps; a removed process takes its key with it. -/
theorem map_settle_sublist {Key : Type*} {key : Proc → Key}
    (hcurrent : pool[i]? = some current)
    (hkeep : ∀ stepped, next = some stepped → key stepped = key current) :
    ((settle pool i next).map key).Sublist (pool.map key) := by
  cases next with
  | none => exact (List.eraseIdx_sublist pool i).map key
  | some stepped =>
      have hi : i < pool.length := (List.getElem?_eq_some_iff.mp hcurrent).1
      have hsame : (pool.set i stepped).map key = pool.map key := by
        apply List.ext_getElem?
        intro j
        rw [List.getElem?_map, List.getElem?_map]
        by_cases hij : i = j
        · subst hij
          rw [List.getElem?_set_self hi, hcurrent, Option.map_some, Option.map_some,
            hkeep stepped rfl]
        · rw [List.getElem?_set_ne hij]
      rw [settle, hsame]

end VpnMiddleware.Pool
