import Mathlib.Logic.Function.Basic
import VpnMiddleware.Core.Slots

/-!
# A computation that concurrent callers share

The caller that finds no computation in flight starts one and owns it; the
others await the same promise.  The slot is freed by the owner, once its own
await returns.  The callers are of any type; a ticket says which promise a
caller awaits.
-/

namespace VpnMiddleware.SharedPromise

open VpnMiddleware.Slots

/-- The promises by number; `none` is pending. -/
structure Shared (Outcome : Type*) where
  inflight : Option ℕ := none
  promises : List (Option Outcome) := []

structure Ticket where
  promise : ℕ
  owner : Bool
  deriving DecidableEq, Repr

variable {Outcome Caller : Type*}

namespace Shared

def join (s : Shared Outcome) : Shared Outcome × Ticket :=
  match s.inflight with
  | some promise => (s, ⟨promise, false⟩)
  | none =>
      (⟨some s.promises.length, s.promises ++ [none]⟩,
        ⟨s.promises.length, true⟩)

def settle (s : Shared Outcome) (promise : ℕ) (outcome : Outcome) :
    Option (Shared Outcome) :=
  match s.promises[promise]? with
  | some none => some { s with promises := s.promises.set promise (some outcome) }
  | _ => none

/-- A caller goes on with the outcome of its promise. -/
def collect (s : Shared Outcome) (ticket : Ticket) :
    Option (Outcome × Shared Outcome) :=
  match s.promises[ticket.promise]? with
  | some (some outcome) =>
      some (outcome, if ticket.owner then { s with inflight := none } else s)
  | _ => none

def IsPending (s : Shared Outcome) (promise : ℕ) : Prop :=
  s.promises[promise]? = some none

/-- Some promise was settled so. -/
def Settled (s : Shared Outcome) (outcome : Outcome) : Prop :=
  some outcome ∈ s.promises

section Operations

variable {s next : Shared Outcome} {promise : ℕ} {outcome other : Outcome}
variable {ticket : Ticket}

theorem settle_eq_some (h : s.settle promise outcome = some next) :
    s.IsPending promise ∧
      next = { s with promises := s.promises.set promise (some outcome) } := by
  rw [settle] at h
  split at h
  · rename_i hpending
    exact ⟨hpending, (Option.some.inj h).symm⟩
  · cases h

theorem collect_eq_some (h : s.collect ticket = some (outcome, next)) :
    s.promises[ticket.promise]? = some (some outcome) ∧
      next = if ticket.owner then { s with inflight := none } else s := by
  rw [collect] at h
  split at h
  · rename_i found hfound
    obtain ⟨rfl, rfl⟩ := Prod.mk.inj (Option.some.inj h)
    exact ⟨hfound, rfl⟩
  · cases h

theorem settled_join (h : s.Settled other) : s.join.1.Settled other := by
  rw [join]
  split
  · exact h
  · exact List.mem_append_left _ h

theorem settled_settle (hnext : s.settle promise outcome = some next)
    (h : s.Settled other) : next.Settled other := by
  obtain ⟨hpending, rfl⟩ := settle_eq_some hnext
  obtain ⟨i, hi⟩ := List.mem_iff_getElem?.mp h
  have hne : promise ≠ i := by
    rintro rfl
    rw [IsPending, hi] at hpending
    cases hpending
  exact List.mem_iff_getElem?.mpr ⟨i, by rw [List.getElem?_set_ne hne, hi]⟩

theorem settled_of_settle (hnext : s.settle promise outcome = some next) :
    next.Settled outcome := by
  obtain ⟨hpending, rfl⟩ := settle_eq_some hnext
  exact List.mem_iff_getElem?.mpr ⟨promise, getElem?_set_new hpending⟩

theorem promises_collect (hnext : s.collect ticket = some (outcome, next)) :
    next.promises = s.promises := by
  obtain ⟨-, rfl⟩ := collect_eq_some hnext
  split <;> rfl

theorem settled_collect (hnext : s.collect ticket = some (outcome, next)) :
    s.Settled outcome :=
  List.mem_iff_getElem?.mpr ⟨_, (collect_eq_some hnext).1⟩

theorem length_join : s.join.1.promises.length ≤ s.promises.length + 1 := by
  rw [join]
  split
  · exact Nat.le_succ _
  · simp

theorem length_settle (hnext : s.settle promise outcome = some next) :
    next.promises.length = s.promises.length := by
  obtain ⟨-, rfl⟩ := settle_eq_some hnext
  exact List.length_set

end Operations

/-! ## One computation at a time -/

/-- What the callers hold and the slot agree on. -/
structure Sound (s : Shared Outcome) (held : Caller → Option Ticket) : Prop where
  pending : ∀ promise, s.IsPending promise → s.inflight = some promise
  inflight : ∀ promise, s.inflight = some promise →
    ∃ caller, held caller = some ⟨promise, true⟩
  owner : ∀ caller promise, held caller = some ⟨promise, true⟩ →
    s.inflight = some promise
  unique : ∀ caller caller' promise, held caller = some ⟨promise, true⟩ →
    held caller' = some ⟨promise, true⟩ → caller = caller'
  known : ∀ caller ticket, held caller = some ticket →
    ticket.promise < s.promises.length

namespace Sound

variable {s next : Shared Outcome} {held : Caller → Option Ticket}
variable {promise other : ℕ} {outcome : Outcome} {ticket : Ticket} {caller : Caller}

theorem start (hinflight : s.inflight = none) (hpromises : s.promises = [])
    (hheld : ∀ caller, held caller = none) : s.Sound held where
  pending promise hpending := by
    simp [IsPending, hpromises] at hpending
  inflight promise h := by
    rw [hinflight] at h
    cases h
  owner caller promise h := by
    rw [hheld] at h
    cases h
  unique caller _ promise h := by
    rw [hheld] at h
    cases h
  known caller ticket h := by
    rw [hheld] at h
    cases h

/-- At most one computation is under way. -/
theorem single (h : s.Sound held) (hpending : s.IsPending promise)
    (hother : s.IsPending other) : promise = other := by
  have hfirst := h.pending promise hpending
  rw [h.pending other hother, Option.some.injEq] at hfirst
  exact hfirst.symm

/-- No caller is left behind: what it awaits is settled or under way. -/
theorem awaited (h : s.Sound held) (hticket : held caller = some ticket) :
    (∃ outcome, s.promises[ticket.promise]? = some (some outcome)) ∨
      s.IsPending ticket.promise ∧ s.inflight = some ticket.promise := by
  have hlt := h.known caller ticket hticket
  cases hfound : s.promises[ticket.promise]? with
  | none => exact absurd (List.getElem?_eq_none_iff.mp hfound) (by omega)
  | some entry =>
      cases entry with
      | none => exact .inr ⟨hfound, h.pending _ hfound⟩
      | some outcome => exact .inl ⟨outcome, rfl⟩

variable [DecidableEq Caller]

/-- A caller that awaits nothing goes on. -/
theorem unheld (h : s.Sound held) (hfree : held caller = none) :
    s.Sound (Function.update held caller none) := by
  rwa [← hfree, Function.update_eq_self]

theorem join (h : s.Sound held) (hfree : held caller = none) :
    s.join.1.Sound (Function.update held caller (some s.join.2)) := by
  have hother : ∀ {other : Caller} {ticket : Ticket},
      held other = some ticket → other ≠ caller := by
    rintro other ticket hticket rfl
    rw [hfree] at hticket
    cases hticket
  cases hinflight : s.inflight with
  | some current =>
      -- the caller joins; the slot and its owner stay
      obtain ⟨first, hfirst⟩ := h.inflight current hinflight
      have hold : ∀ {other : Caller} {promise : ℕ},
          Function.update held caller (some ⟨current, false⟩) other =
            some ⟨promise, true⟩ → held other = some ⟨promise, true⟩ := by
        intro other promise hticket
        by_cases heq : other = caller
        · subst heq
          simp at hticket
        · rwa [Function.update_of_ne heq] at hticket
      simp only [Shared.join, hinflight]
      exact {
        pending := h.pending
        inflight := by
          intro promise hpromise
          obtain ⟨other, hticket⟩ := h.inflight promise hpromise
          exact ⟨other, by rwa [Function.update_of_ne (hother hticket)]⟩
        owner := fun other promise hticket => h.owner other promise (hold hticket)
        unique := fun other other' promise hticket hticket' =>
          h.unique other other' promise (hold hticket) (hold hticket')
        known := by
          intro other ticket hticket
          by_cases heq : other = caller
          · subst heq
            rw [Function.update_self, Option.some.injEq] at hticket
            subst hticket
            exact h.known first ⟨current, true⟩ hfirst
          · rw [Function.update_of_ne heq] at hticket
            exact h.known other ticket hticket }
  | none =>
      have hnone : ∀ {other : Caller} {promise : ℕ},
          held other ≠ some ⟨promise, true⟩ := by
        intro other promise hticket
        have := h.owner other promise hticket
        rw [hinflight] at this
        cases this
      -- the caller is the only owner, of the new promise
      have hnew : ∀ {other : Caller} {promise : ℕ},
          Function.update held caller (some ⟨s.promises.length, true⟩) other =
            some ⟨promise, true⟩ →
          other = caller ∧ promise = s.promises.length := by
        intro other promise hticket
        by_cases heq : other = caller
        · subst heq
          rw [Function.update_self, Option.some.injEq, Ticket.mk.injEq] at hticket
          exact ⟨rfl, hticket.1.symm⟩
        · rw [Function.update_of_ne heq] at hticket
          exact absurd hticket hnone
      simp only [Shared.join, hinflight]
      exact {
        pending := by
          intro promise hpending
          rcases getElem?_concat_cases hpending with hold | ⟨rfl, -⟩
          · have := h.pending promise hold
            rw [hinflight] at this
            cases this
          · rfl
        inflight := by
          intro promise hpromise
          rw [Option.some.injEq] at hpromise
          subst hpromise
          exact ⟨caller, Function.update_self ..⟩
        owner := by
          intro other promise hticket
          rw [(hnew hticket).2]
        unique := by
          intro other other' promise hticket hticket'
          rw [(hnew hticket).1, (hnew hticket').1]
        known := by
          intro other ticket hticket
          rw [List.length_append, List.length_singleton]
          by_cases heq : other = caller
          · subst heq
            rw [Function.update_self, Option.some.injEq] at hticket
            subst hticket
            exact Nat.lt_succ_self _
          · rw [Function.update_of_ne heq] at hticket
            exact Nat.lt_succ_of_lt (h.known other ticket hticket) }

omit [DecidableEq Caller] in
theorem settle (h : s.Sound held) (hnext : s.settle promise outcome = some next) :
    next.Sound held := by
  obtain ⟨hpending, rfl⟩ := settle_eq_some hnext
  exact {
    pending := by
      intro other hother
      rcases getElem?_set_cases hother with ⟨-, hsame⟩ | ⟨-, hold⟩
      · cases hsame
      · exact h.pending other hold
    inflight := h.inflight
    owner := h.owner
    unique := h.unique
    known := by
      intro caller ticket hticket
      rw [List.length_set]
      exact h.known caller ticket hticket }

theorem collect (h : s.Sound held) (hticket : held caller = some ticket)
    (hnext : s.collect ticket = some (outcome, next)) :
    next.Sound (Function.update held caller none) := by
  obtain ⟨hsettled, rfl⟩ := collect_eq_some hnext
  have hrest : ∀ {other : Caller} {ticket : Ticket},
      Function.update held caller none other = some ticket →
        other ≠ caller ∧ held other = some ticket := by
    intro other ticket hother
    by_cases heq : other = caller
    · subst heq
      simp at hother
    · rw [Function.update_of_ne heq] at hother
      exact ⟨heq, hother⟩
  obtain ⟨current, owner⟩ := ticket
  cases owner with
  | false =>
      exact {
        pending := h.pending
        inflight := by
          intro promise hpromise
          obtain ⟨other, hother⟩ := h.inflight promise hpromise
          have hne : other ≠ caller := by
            rintro rfl
            rw [hticket] at hother
            simp at hother
          exact ⟨other, by rwa [Function.update_of_ne hne]⟩
        owner := fun other promise hother =>
          h.owner other promise (hrest hother).2
        unique := fun other other' promise hother hother' =>
          h.unique other other' promise (hrest hother).2 (hrest hother').2
        known := fun other ticket hother => h.known other ticket (hrest hother).2 }
  | true =>
      have hinflight := h.owner caller current hticket
      -- its promise was the one in the slot, and it is settled
      have hnone : ∀ {other : Caller} {promise : ℕ},
          Function.update held caller none other ≠ some ⟨promise, true⟩ := by
        intro other promise hother
        obtain ⟨hne, hheld⟩ := hrest hother
        have hsame := h.owner other promise hheld
        rw [hinflight, Option.some.injEq] at hsame
        subst hsame
        exact hne (h.unique other caller current hheld hticket)
      exact {
        pending := by
          intro promise hpending
          have hsame := h.pending promise hpending
          rw [hinflight, Option.some.injEq] at hsame
          subst hsame
          rw [IsPending] at hpending
          exact absurd (hpending.symm.trans hsettled) (by simp)
        inflight := fun promise hpromise => by cases hpromise
        owner := fun other promise hother => absurd hother hnone
        unique := fun other _ promise hother => absurd hother hnone
        known := fun other ticket hother => h.known other ticket (hrest hother).2 }

end Sound

end Shared

/-! ## Callers in a list -/

section Lists

variable {Proc : Type*} {ticketOf : Proc → Option Ticket} {procs : List Proc}

/-- The tickets that the entries of a list hold. -/
def heldIn (ticketOf : Proc → Option Ticket) (procs : List Proc) (i : ℕ) :
    Option Ticket :=
  procs[i]?.bind ticketOf

theorem heldIn_append (proc : Proc) :
    heldIn ticketOf (procs ++ [proc]) =
      Function.update (heldIn ticketOf procs) procs.length (ticketOf proc) := by
  funext i
  by_cases hi : i = procs.length
  · subst hi
    simp [heldIn]
  · rw [Function.update_of_ne hi, heldIn, heldIn]
    rcases Nat.lt_or_gt_of_ne hi with hlt | hgt
    · rw [List.getElem?_append_left hlt]
    · rw [List.getElem?_eq_none (by simp; omega),
        List.getElem?_eq_none (by omega)]

theorem heldIn_length : heldIn ticketOf procs procs.length = none := by
  simp [heldIn]

theorem heldIn_set {i : ℕ} (hi : i < procs.length) (proc : Proc) :
    heldIn ticketOf (procs.set i proc) =
      Function.update (heldIn ticketOf procs) i (ticketOf proc) := by
  funext j
  by_cases hj : j = i
  · subst hj
    simp [heldIn, hi]
  · rw [Function.update_of_ne hj, heldIn, heldIn,
      List.getElem?_set_ne (Ne.symm hj)]

end Lists

end VpnMiddleware.SharedPromise
