import Mathlib.Order.Defs.Unbundled
import VpnMiddleware.Core.Transaction

/-!
# Frames of transactions

A relation between stores that every committed run of a transaction respects.
For a preorder the frame of a sequence follows from those of its statements, so
that a frame condition is checked where the transaction writes.
-/

namespace VpnMiddleware.Frame

open VpnMiddleware.Transaction

variable {Store Err Result Other : Type} {Rel : Store → Store → Prop}

structure Respects (Rel : Store → Store → Prop) (tx : Tx Store Err Result) :
    Prop where
  holds : ∀ {store result after}, tx store = .ok (result, after) →
    Rel store after

/-- A committed or rolled back transaction. -/
theorem Respects.withTransaction [Std.Refl Rel] {tx : Tx Store Err Result}
    (htx : Respects Rel tx) (store : Store) :
    Rel store (withTransaction tx store).2 := by
  cases hrun : tx store with
  | ok outcome =>
      rw [withTransaction_of_ok hrun]
      exact htx.holds hrun
  | error err =>
      rw [withTransaction_of_error hrun]
      exact refl store

theorem Respects.bind [IsTrans Store Rel] {tx : Tx Store Err Result}
    {next : Result → Tx Store Err Other} (htx : Respects Rel tx)
    (hnext : ∀ result, Respects Rel (next result)) :
    Respects Rel (tx >>= next) := by
  constructor
  intro store other after hrun
  obtain ⟨result, mid, hfirst, hrest⟩ := bind_ok.mp hrun
  exact IsTrans.trans _ _ _ (htx.holds hfirst) ((hnext result).holds hrest)

theorem Respects.modify {change : Store → Store}
    (hchange : ∀ store, Rel store (change store)) :
    Respects Rel (modify change : Tx Store Err PUnit) := by
  constructor
  intro store done after hrun
  rw [← modify_ok.mp hrun]
  exact hchange store

theorem Respects.throw (err : Err) :
    Respects Rel (throw err : Tx Store Err Result) := by
  constructor
  intro store result after hrun
  exact (throw_ok.mp hrun).elim

section Reading

variable [Std.Refl Rel]

theorem Respects.pure (result : Result) :
    Respects Rel (pure result : Tx Store Err Result) := by
  constructor
  intro store other after hrun
  rw [(pure_ok.mp hrun).2]
  exact refl after

theorem Respects.get : Respects Rel (get : Tx Store Err Store) := by
  constructor
  intro store read after hrun
  rw [(get_ok.mp hrun).2]
  exact refl after

theorem Respects.require (condition : Bool) (err : Err) :
    Respects Rel (require condition err : Tx Store Err PUnit) := by
  constructor
  intro store done after hrun
  rw [(require_ok.mp hrun).2]
  exact refl after

theorem Respects.expect (value : Option Result) (err : Err) :
    Respects Rel (expect value err : Tx Store Err Result) := by
  constructor
  intro store result after hrun
  rw [(expect_ok.mp hrun).2]
  exact refl after

theorem Respects.lift (outcome : Except Err Result) :
    Respects Rel (lift outcome : Tx Store Err Result) := by
  constructor
  intro store result after hrun
  rw [(lift_ok.mp hrun).2]
  exact refl after

end Reading

/-! ## Columns and tables that stay as they are -/

/-- Two stores agree in what `read` returns. -/
def Same {Value : Type} (read : Store → Value) (before after : Store) : Prop :=
  read after = read before

instance {Value : Type} (read : Store → Value) :
    IsPreorder Store (Same read) where
  refl _ := rfl
  trans _ _ _ hfirst hsecond := hsecond.trans hfirst

/-- A property that no step destroys. -/
def Preserves (P : Store → Prop) (before after : Store) : Prop :=
  P before → P after

instance (P : Store → Prop) : IsPreorder Store (Preserves P) where
  refl _ := id
  trans _ _ _ hfirst hsecond := hsecond ∘ hfirst

end VpnMiddleware.Frame
