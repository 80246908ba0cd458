import Mathlib.Algebra.BigOperators.Group.Finset.Basic
import Mathlib.Algebra.Order.BigOperators.Group.Finset
import Mathlib.Data.Fintype.Basic
import Mathlib.Logic.Relation

/-!
# Row locks

Transactions take row locks one after the other and keep them to their end.
Since nothing is released in between, every combination of points whose locks
do not conflict can be reached, and whether transactions can come to wait for
one another in a ring is read off their lock sequences.
-/

namespace VpnMiddleware.RowLocks

open Relation

/-- The row-level locks, weakest first. -/
inductive Mode
  | keyShare
  | share
  | noKeyUpdate
  | update
  deriving DecidableEq, Repr

/-- The table of conflicting row-level locks. -/
def Mode.conflicts : Mode → Mode → Bool
  | .update, _ => true
  | _, .update => true
  | .keyShare, _ => false
  | _, .keyShare => false
  | .share, .share => false
  | _, _ => true

theorem Mode.conflicts_comm (left right : Mode) :
    left.conflicts right = right.conflicts left := by
  cases left <;> cases right <;> rfl

structure Lock (Row : Type*) where
  row : Row
  mode : Mode
  deriving DecidableEq

variable {Id Row : Type*} [DecidableEq Row]

def Lock.conflicts (left right : Lock Row) : Bool :=
  left.row == right.row && left.mode.conflicts right.mode

theorem Lock.conflicts_comm (left right : Lock Row) :
    left.conflicts right = right.conflicts left := by
  rw [conflicts, conflicts, Mode.conflicts_comm, Bool.beq_comm]

inductive Request (Row : Type*)
  /-- Waits until no other transaction holds a conflicting lock. -/
  | wait (lock : Lock Row)
  /-- `for update skip locked limit ..` over some rows. -/
  | skipLocked (limit : ℕ) (rows : List Row)
  deriving DecidableEq

def Request.lock? : Request Row → Option (Lock Row)
  | .wait lock => some lock
  | .skipLocked _ _ => none

structure Tx (Row : Type*) where
  held : List (Lock Row) := []
  pending : List (Request Row) := []

abbrev State (Id Row : Type*) := Id → Tx Row

/-- No other transaction holds a lock that conflicts. -/
def Grantable (s : State Id Row) (id : Id) (lock : Lock Row) : Prop :=
  ∀ other, other ≠ id → ∀ held ∈ (s other).held, lock.conflicts held = false

/-- The next request of one transaction conflicts with a lock of another. -/
def WaitsFor (s : State Id Row) (id other : Id) : Prop :=
  other ≠ id ∧ ∃ lock rest, (s id).pending = .wait lock :: rest ∧
    ∃ held ∈ (s other).held, lock.conflicts held = true

/-- What one step makes of a transaction. -/
inductive Advances (s : State Id Row) (id : Id) : Tx Row → Prop
  | acquire {lock : Lock Row} {rest : List (Request Row)} :
      (s id).pending = .wait lock :: rest → Grantable s id lock →
      Advances s id ⟨(s id).held ++ [lock], rest⟩
  | take {limit : ℕ} {row : Row} {rows : List Row}
      {rest : List (Request Row)} :
      (s id).pending = .skipLocked (limit + 1) (row :: rows) :: rest →
      Grantable s id ⟨row, .update⟩ →
      Advances s id ⟨(s id).held ++ [⟨row, .update⟩],
        .skipLocked limit rows :: rest⟩
  | skip {limit : ℕ} {row : Row} {rows : List Row}
      {rest : List (Request Row)} :
      (s id).pending = .skipLocked (limit + 1) (row :: rows) :: rest →
      ¬ Grantable s id ⟨row, .update⟩ →
      Advances s id ⟨(s id).held, .skipLocked (limit + 1) rows :: rest⟩
  | exhaust {limit : ℕ} {rows : List Row} {rest : List (Request Row)} :
      (s id).pending = .skipLocked limit rows :: rest →
      limit = 0 ∨ rows = [] → Advances s id ⟨(s id).held, rest⟩
  /-- Commit or rollback, at any time. -/
  | finish : Advances s id {}

section Runs

variable [DecidableEq Id] {s s' : State Id Row} {id : Id}
variable {program : Id → List (Request Row)}

inductive Step (s : State Id Row) : State Id Row → Prop
  | step (id : Id) {tx : Tx Row} :
      Advances s id tx → Step s (Function.update s id tx)

def start (program : Id → List (Request Row)) : State Id Row :=
  fun id => { pending := program id }

/-- Whatever can be reached from the beginning of the transactions. -/
def Reachable (program : Id → List (Request Row)) (s : State Id Row) : Prop :=
  ReflTransGen Step (start program) s

/-- What holds of every transaction at first and after each of its steps. -/
theorem Reachable.forall (hreachable : Reachable program s)
    (Holds : Tx Row → Prop) (hstart : Holds { pending := program id })
    (hstep : ∀ (s : State Id Row) tx, Holds (s id) → Advances s id tx →
      Holds tx) : Holds (s id) := by
  induction hreachable with
  | refl => exact hstart
  | @tail before after _ hlast ih =>
      obtain ⟨moved, hadvances⟩ := hlast
      by_cases hid : id = moved
      · subst hid
        rw [Function.update_self]
        exact hstep before _ ih hadvances
      · rw [Function.update_of_ne hid]
        exact ih

end Runs

/-! ## Conflicts -/

/-- No two transactions hold conflicting locks. -/
def Compatible (held : Id → List (Lock Row)) : Prop :=
  ∀ id other, id ≠ other → ∀ lock ∈ held id, ∀ lock' ∈ held other,
    lock.conflicts lock' = false

section Conflicts

variable [DecidableEq Id] {s s' : State Id Row} {id : Id}
variable {program : Id → List (Request Row)}

omit [DecidableEq Id] in
/-- A step adds no lock that conflicts with those of the others. -/
theorem Advances.grantable {tx : Tx Row} (hadvances : Advances s id tx)
    {lock : Lock Row} (hlock : lock ∈ tx.held) :
    lock ∈ (s id).held ∨ Grantable s id lock := by
  cases hadvances with
  | acquire _ hgrantable =>
      rcases List.mem_append.mp hlock with hold | hnew
      · exact Or.inl hold
      · exact Or.inr (List.mem_singleton.mp hnew ▸ hgrantable)
  | take _ hgrantable =>
      rcases List.mem_append.mp hlock with hold | hnew
      · exact Or.inl hold
      · exact Or.inr (List.mem_singleton.mp hnew ▸ hgrantable)
  | skip _ _ => exact Or.inl hlock
  | exhaust _ _ => exact Or.inl hlock
  | finish => cases hlock

theorem Step.compatible (hstep : Step s s')
    (hcompatible : Compatible fun id => (s id).held) :
    Compatible fun id => (s' id).held := by
  obtain @⟨moved, tx, hadvances⟩ := hstep
  have hmoved : ∀ other, other ≠ moved → ∀ lock ∈ tx.held,
      ∀ lock' ∈ (s other).held, lock.conflicts lock' = false := by
    intro other hother lock hlock lock' hlock'
    rcases hadvances.grantable hlock with hold | hgrantable
    · exact hcompatible moved other hother.symm lock hold lock' hlock'
    · exact hgrantable other hother lock' hlock'
  intro left right hne lock hlock lock' hlock'
  by_cases hleft : left = moved
  · subst hleft
    simp only [Function.update_self] at hlock
    simp only [Function.update_of_ne hne.symm] at hlock'
    exact hmoved right hne.symm lock hlock lock' hlock'
  · simp only [Function.update_of_ne hleft] at hlock
    by_cases hright : right = moved
    · subst hright
      simp only [Function.update_self] at hlock'
      rw [Lock.conflicts_comm]
      exact hmoved left hne lock' hlock' lock hlock
    · simp only [Function.update_of_ne hright] at hlock'
      exact hcompatible left right hne lock hlock lock' hlock'

theorem Reachable.compatible (hreachable : Reachable program s) :
    Compatible fun id => (s id).held := by
  induction hreachable with
  | refl =>
      intro _ _ _ lock hlock
      cases hlock
  | tail _ hlast ih => exact hlast.compatible ih

end Conflicts

/-! ## Lock sequences -/

/-- The locks of the first requests. -/
def taken (requests : List (Request Row)) (count : ℕ) : List (Lock Row) :=
  (requests.take count).filterMap Request.lock?

def IsPlain (requests : List (Request Row)) : Prop :=
  ∀ request ∈ requests, ∃ lock, request = .wait lock

def NeverWaits (requests : List (Request Row)) : Prop :=
  ∀ request ∈ requests, request.lock? = none

/-- A transaction stands at a point of its sequence. -/
structure StandsAt (requests : List (Request Row)) (count : ℕ) (tx : Tx Row) :
    Prop where
  within : count ≤ requests.length
  held : tx.held = taken requests count
  pending : tx.pending = requests.drop count

section Sequences

variable {requests : List (Request Row)} {count : ℕ} {lock : Lock Row}

omit [DecidableEq Row] in
theorem taken_zero : taken requests 0 = [] := rfl

omit [DecidableEq Row] in
/-- The next request's lock comes last. -/
theorem taken_succ (hnext : requests[count]? = some (.wait lock)) :
    taken requests (count + 1) = taken requests count ++ [lock] := by
  rw [taken, List.take_add_one, hnext, List.filterMap_append]
  rfl

omit [DecidableEq Row] in
theorem drop_eq_cons {request : Request Row}
    (hnext : requests[count]? = some request) :
    requests.drop count = request :: requests.drop (count + 1) := by
  obtain ⟨hcount, rfl⟩ := List.getElem?_eq_some_iff.mp hnext
  exact List.drop_eq_getElem_cons hcount

omit [DecidableEq Row] in
theorem getElem?_of_drop {request : Request Row} {rest : List (Request Row)}
    (hdrop : requests.drop count = request :: rest) :
    requests[count]? = some request ∧ rest = requests.drop (count + 1) := by
  have hnext : requests[count]? = some request := by
    have hhead := congrArg List.head? hdrop
    rwa [List.head?_drop] at hhead
  rw [drop_eq_cons hnext] at hdrop
  exact ⟨hnext, (List.cons.inj hdrop).2.symm⟩

omit [DecidableEq Row] in
theorem taken_mono {earlier : ℕ} (hle : earlier ≤ count) (hlock : lock ∈
    taken requests earlier) : lock ∈ taken requests count := by
  obtain ⟨request, hrequest, hsome⟩ := List.mem_filterMap.mp hlock
  exact List.mem_filterMap.mpr
    ⟨request, List.take_subset_take_left requests hle hrequest, hsome⟩

variable {s : State Id Row} {id : Id} {tx : Tx Row}

/-- A transaction that only waits goes through its sequence, or has ended. -/
theorem StandsAt.advances (hplain : IsPlain requests)
    (hstands : (∃ count, StandsAt requests count (s id)) ∨ s id = {})
    (hadvances : Advances s id tx) :
    (∃ count, StandsAt requests count tx) ∨ tx = {} := by
  have hskip : ∀ {limit rows rest},
      (s id).pending ≠ .skipLocked limit rows :: rest := by
    intro limit rows rest hpending
    rcases hstands with ⟨count, hstands⟩ | hended
    · have hnext := (getElem?_of_drop (hstands.pending.symm.trans hpending)).1
      obtain ⟨lock, hlock⟩ := hplain _ (List.mem_of_getElem? hnext)
      cases hlock
    · rw [hended] at hpending
      cases hpending
  cases hadvances with
  | acquire hpending _ =>
      rcases hstands with ⟨count, hstands⟩ | hended
      · obtain ⟨hnext, hrest⟩ :=
          getElem?_of_drop (hstands.pending.symm.trans hpending)
        left
        refine ⟨count + 1, ?_, ?_, hrest⟩
        · exact (List.getElem?_eq_some_iff.mp hnext).1
        · rw [taken_succ hnext, hstands.held]
      · rw [hended] at hpending
        cases hpending
  | take hpending _ => exact absurd hpending hskip
  | skip hpending _ => exact absurd hpending hskip
  | exhaust hpending _ => exact absurd hpending hskip
  | finish => exact Or.inr rfl

/-- One that skips what is locked does not begin to wait. -/
theorem NeverWaits.advances (hnever : NeverWaits (s id).pending)
    (hadvances : Advances s id tx) : NeverWaits tx.pending := by
  cases hadvances with
  | acquire hpending _ =>
      rw [hpending] at hnever
      exact fun request hrequest => hnever _ (List.mem_cons_of_mem _ hrequest)
  | take hpending _ =>
      rw [hpending] at hnever
      intro request hrequest
      rcases List.mem_cons.mp hrequest with rfl | hrest
      · rfl
      · exact hnever _ (List.mem_cons_of_mem _ hrest)
  | skip hpending _ =>
      rw [hpending] at hnever
      intro request hrequest
      rcases List.mem_cons.mp hrequest with rfl | hrest
      · rfl
      · exact hnever _ (List.mem_cons_of_mem _ hrest)
  | exhaust hpending _ =>
      rw [hpending] at hnever
      exact fun request hrequest => hnever _ (List.mem_cons_of_mem _ hrequest)
  | finish => exact List.forall_mem_nil _

end Sequences

/-! ## Crossings -/

/-- At these points the next lock of one transaction conflicts with a lock
that another has taken. -/
def Meets (program : Id → List (Request Row)) (points : Id → ℕ)
    (id other : Id) : Prop :=
  other ≠ id ∧ ∃ lock, (program id)[points id]? = some (.wait lock) ∧
    ∃ held ∈ taken (program other) (points other), lock.conflicts held = true

/-- Points of some transactions where their locks do not conflict and each of
them meets another one in a ring. -/
structure IsCrossing (program : Id → List (Request Row)) (points : Id → ℕ) :
    Prop where
  started : ∃ id, points id ≠ 0
  plain : ∀ id, points id ≠ 0 → IsPlain (program id)
  compatible : Compatible fun id => taken (program id) (points id)
  ring : ∀ id, points id ≠ 0 → TransGen (Meets program points) id id

def stateAt (program : Id → List (Request Row)) (points : Id → ℕ) :
    State Id Row :=
  fun id => ⟨taken (program id) (points id), (program id).drop (points id)⟩

section Crossings

variable {program : Id → List (Request Row)} {points : Id → ℕ}
variable {s : State Id Row} {id other : Id}

theorem Meets.of_ring (hring : TransGen (Meets program points) id id) :
    ∃ lock, (program id)[points id]? = some (.wait lock) := by
  obtain ⟨other, hmeets⟩ : ∃ other, Meets program points id other := by
    rcases TransGen.head'_iff.mp hring with ⟨other, hmeets, -⟩
    exact ⟨other, hmeets⟩
  obtain ⟨-, lock, hnext, -⟩ := hmeets
  exact ⟨lock, hnext⟩

theorem Meets.started (hmeets : Meets program points id other) :
    points other ≠ 0 := by
  obtain ⟨-, lock, -, held, hheld, -⟩ := hmeets
  intro hzero
  rw [hzero] at hheld
  cases hheld

/-- Whoever has taken a lock in a crossing is met by another one. -/
theorem IsCrossing.met (hcrossing : IsCrossing program points)
    (hid : points id ≠ 0) :
    ∃ other, points other ≠ 0 ∧ Meets program points other id := by
  obtain ⟨other, hpath, hmeets⟩ := TransGen.tail'_iff.mp (hcrossing.ring id hid)
  refine ⟨other, ?_, hmeets⟩
  rcases ReflTransGen.cases_tail hpath with rfl | ⟨before, -, hbefore⟩
  · exact hid
  · exact hbefore.started

/-- The next lock is on no row that the transaction holds for update. -/
theorem IsCrossing.row_ne (hcrossing : IsCrossing program points)
    (hmeets : Meets program points id other) :
    ∃ lock, (program id)[points id]? = some (.wait lock) ∧
      (∀ held ∈ taken (program id) (points id), held.mode = .update →
        lock.row ≠ held.row) ∧
      ∃ held ∈ taken (program other) (points other), held.row = lock.row := by
  obtain ⟨hne, lock, hnext, held, hheld, hconflicts⟩ := hmeets
  rw [Lock.conflicts, Bool.and_eq_true, beq_iff_eq] at hconflicts
  refine ⟨lock, hnext, ?_, held, hheld, hconflicts.1.symm⟩
  intro own hown hmode hrow
  have hfree := hcrossing.compatible id other hne.symm own hown held hheld
  rw [Lock.conflicts, hmode, ← hrow, hconflicts.1, beq_self_eq_true] at hfree
  cases hfree

theorem waitsFor_stateAt (hmeets : Meets program points id other) :
    WaitsFor (stateAt program points) id other := by
  obtain ⟨hne, lock, hnext, held, hheld, hconflicts⟩ := hmeets
  exact ⟨hne, lock, _, drop_eq_cons hnext, held, hheld, hconflicts⟩

section Reach

variable [DecidableEq Id]

/-- The last step to a combination of points. -/
theorem step_stateAt {count : ℕ} (hcount : points id = count + 1)
    (hcompatible : Compatible fun id => taken (program id) (points id))
    {lock : Lock Row} (hnext : (program id)[count]? = some (.wait lock)) :
    Step (stateAt program (Function.update points id count))
      (stateAt program points) := by
  have hbefore : stateAt program (Function.update points id count) id =
      ⟨taken (program id) count, (program id).drop count⟩ := by
    rw [stateAt, Function.update_self]
  have hafter : stateAt program points =
      Function.update (stateAt program (Function.update points id count)) id
        ⟨taken (program id) count ++ [lock], (program id).drop (count + 1)⟩ := by
    funext other
    by_cases hother : other = id
    · subst hother
      rw [Function.update_self, stateAt, hcount, taken_succ hnext]
    · rw [Function.update_of_ne hother, stateAt, stateAt,
        Function.update_of_ne hother]
  rw [hafter]
  apply Step.step
  have hacquire := @Advances.acquire _ _ _
    (stateAt program (Function.update points id count)) id lock
    ((program id).drop (count + 1)) (by rw [hbefore]; exact drop_eq_cons hnext)
  rw [hbefore] at hacquire
  apply hacquire
  intro other hother held hheld
  rw [stateAt, Function.update_of_ne hother] at hheld
  have hlock : lock ∈ taken (program id) (points id) := by
    rw [hcount, taken_succ hnext]
    exact List.mem_append_right _ (List.mem_singleton_self lock)
  exact hcompatible id other hother.symm lock hlock held hheld

theorem compatible_update {count : ℕ} (hcount : count ≤ points id)
    (hcompatible : Compatible fun id => taken (program id) (points id)) :
    Compatible fun other =>
      taken (program other) (Function.update points id count other) := by
  have hle : ∀ other, Function.update points id count other ≤ points other := by
    intro other
    by_cases hother : other = id
    · subst hother
      rw [Function.update_self]
      exact hcount
    · rw [Function.update_of_ne hother]
  intro left right hne lock hlock lock' hlock'
  exact hcompatible left right hne lock (taken_mono (hle left) hlock) lock'
    (taken_mono (hle right) hlock')

/-- Points whose locks do not conflict are reached one lock at a time. -/
theorem reachable_stateAt [Fintype Id]
    (hplain : ∀ id, points id ≠ 0 → IsPlain (program id))
    (hwithin : ∀ id, points id ≤ (program id).length)
    (hcompatible : Compatible fun id => taken (program id) (points id)) :
    Reachable program (stateAt program points) := by
  induction htotal : ∑ id, points id using Nat.strong_induction_on generalizing
    points with
  | _ total ih =>
      by_cases hzero : ∀ id, points id = 0
      · have hstart : stateAt program points = start program := by
          funext id
          rw [stateAt, start, hzero id, taken_zero, List.drop_zero]
        rw [hstart]
        exact ReflTransGen.refl
      · obtain ⟨id, hid⟩ := not_forall.mp hzero
        obtain ⟨count, hcount⟩ := Nat.exists_eq_succ_of_ne_zero hid
        have hlt : count < (program id).length := by
          have hle := hwithin id
          omega
        obtain ⟨lock, hlock⟩ := hplain id hid _ (List.getElem_mem hlt)
        have hnext : (program id)[count]? = some (.wait lock) := by
          rw [List.getElem?_eq_getElem hlt, hlock]
        have hstep := step_stateAt hcount hcompatible hnext
        refine ReflTransGen.tail (ih _ ?_ ?_ ?_ ?_ rfl) hstep
        · rw [← htotal]
          apply Finset.sum_lt_sum
          · intro other _
            by_cases hother : other = id
            · subst hother
              rw [Function.update_self, hcount]
              exact Nat.le_succ count
            · rw [Function.update_of_ne hother]
          · refine ⟨id, Finset.mem_univ id, ?_⟩
            rw [Function.update_self, hcount]
            exact Nat.lt_succ_self count
        · intro other hother
          by_cases hsame : other = id
          · subst hsame
            exact hplain other hid
          · rw [Function.update_of_ne hsame] at hother
            exact hplain other hother
        · intro other
          by_cases hsame : other = id
          · subst hsame
            rw [Function.update_self]
            exact hlt.le
          · rw [Function.update_of_ne hsame]
            exact hwithin other
        · exact compatible_update (by omega) hcompatible

/-- A crossing is reached, and there the transactions wait in a ring. -/
theorem IsCrossing.reachable [Fintype Id]
    (hcrossing : IsCrossing program points) :
    ∃ s, Reachable program s ∧ ∃ id, TransGen (WaitsFor s) id id := by
  obtain ⟨id, hid⟩ := hcrossing.started
  refine ⟨stateAt program points, ?_, id, ?_⟩
  · apply reachable_stateAt hcrossing.plain _ hcrossing.compatible
    intro other
    by_cases hother : points other = 0
    · rw [hother]
      exact Nat.zero_le _
    · obtain ⟨lock, hnext⟩ := Meets.of_ring (hcrossing.ring other hother)
      exact (List.getElem?_eq_some_iff.mp hnext).1.le
  · exact TransGen.mono (fun _ _ => waitsFor_stateAt) _ _
      (hcrossing.ring id hid)

end Reach

/-- A ring stays a ring without what is on none. -/
theorem transGen_on_ring {Rel : Id → Id → Prop} (hring : TransGen Rel id id) :
    TransGen (fun left right => Rel left right ∧ TransGen Rel left left ∧
      TransGen Rel right right) id id := by
  have hpath : ∀ {last}, TransGen Rel id last → ReflTransGen Rel last id →
      TransGen (fun left right => Rel left right ∧ TransGen Rel left left ∧
        TransGen Rel right right) id last := by
    intro last hforth
    induction hforth with
    | single hrel =>
        intro hback
        exact .single ⟨hrel, hring, TransGen.trans_right hback (.single hrel)⟩
    | @tail mid last hforth hrel ih =>
        intro hback
        have hmid : ReflTransGen Rel mid id := ReflTransGen.head hrel hback
        refine (ih hmid).tail ⟨hrel, TransGen.trans_right hmid hforth, ?_⟩
        exact TransGen.trans_right hback (hforth.tail hrel)
  exact hpath hring .refl

variable [DecidableEq Id]

/-- A ring of waiting transactions is a crossing: what they have taken, and
what they ask for next. -/
theorem exists_crossing
    (hkinds : ∀ id, IsPlain (program id) ∨ NeverWaits (program id))
    (hreachable : Reachable program s) (hring : TransGen (WaitsFor s) id id) :
    ∃ points, IsCrossing program points := by
  have hpoint : ∀ id, ∃ count, ¬ TransGen (WaitsFor s) id id ∧ count = 0 ∨
      TransGen (WaitsFor s) id id ∧ IsPlain (program id) ∧
        StandsAt (program id) count (s id) := by
    intro id
    by_cases hon : TransGen (WaitsFor s) id id
    · obtain ⟨other, ⟨-, lock, rest, hpending, -⟩, -⟩ := TransGen.head'_iff.mp hon
      rcases hkinds id with hplain | hnever
      · have hstands := hreachable.forall
          (fun tx => (∃ count, StandsAt (program id) count tx) ∨ tx = {})
          (Or.inl ⟨0, Nat.zero_le _, rfl, rfl⟩)
          fun _ _ => StandsAt.advances hplain
        rcases hstands with ⟨count, hstands⟩ | hended
        · exact ⟨count, Or.inr ⟨hon, hplain, hstands⟩⟩
        · rw [hended] at hpending
          cases hpending
      · have hnone := hreachable.forall (fun tx => NeverWaits tx.pending)
          hnever fun _ _ => NeverWaits.advances
        rw [hpending] at hnone
        cases hnone _ List.mem_cons_self
    · exact ⟨0, Or.inl ⟨hon, rfl⟩⟩
  choose points hpoints using hpoint
  have hon : ∀ id, points id ≠ 0 → TransGen (WaitsFor s) id id ∧
      IsPlain (program id) ∧ StandsAt (program id) (points id) (s id) := by
    intro id hid
    rcases hpoints id with ⟨-, hzero⟩ | hmember
    · exact absurd hzero hid
    · exact hmember
  have hmember : ∀ {id}, TransGen (WaitsFor s) id id →
      StandsAt (program id) (points id) (s id) := by
    intro id hring
    rcases hpoints id with ⟨hoff, -⟩ | ⟨-, -, hstands⟩
    · exact absurd hring hoff
    · exact hstands
  have hmeets : ∀ left right, WaitsFor s left right ∧
      TransGen (WaitsFor s) left left ∧ TransGen (WaitsFor s) right right →
      Meets program points left right := by
    rintro left right ⟨⟨hne, lock, rest, hpending, held, hheld, hconflicts⟩,
      hleft, hright⟩
    have hdrop := (hmember hleft).pending.symm.trans hpending
    rw [(hmember hright).held] at hheld
    exact ⟨hne, lock, (getElem?_of_drop hdrop).1, held, hheld, hconflicts⟩
  have hrings : ∀ {id}, TransGen (WaitsFor s) id id →
      TransGen (Meets program points) id id := fun hring =>
    TransGen.mono hmeets _ _ (transGen_on_ring hring)
  refine ⟨points, ?_, fun id hid => (hon id hid).2.1, ?_, fun id hid =>
    hrings (hon id hid).1⟩
  · obtain ⟨before, -, -, lock, -, held, hheld, -⟩ :=
      TransGen.tail'_iff.mp (hrings hring)
    refine ⟨id, fun hzero => ?_⟩
    rw [hzero] at hheld
    cases hheld
  · have hheld : ∀ id, ∀ lock ∈ taken (program id) (points id),
        lock ∈ (s id).held := by
      intro id lock hlock
      have hid : points id ≠ 0 := by
        intro hzero
        rw [hzero] at hlock
        cases hlock
      rw [(hon id hid).2.2.held]
      exact hlock
    intro left right hne lock hlock lock' hlock'
    exact hreachable.compatible left right hne lock (hheld left lock hlock)
      lock' (hheld right lock' hlock')

end Crossings

end VpnMiddleware.RowLocks
