import Mathlib.Data.List.Basic

/-!
# Database sessions that may be killed

A session executes commands against a store, inside or outside a transaction,
and stops at the first error.  What is durable is the store without the work of
the transaction that is open; a killed session leaves just that behind.
-/

namespace VpnMiddleware.SqlSession

variable {Store Stmt : Type*}

inductive Command (Stmt : Type*)
  | begin
  | commit
  | run (stmt : Stmt)
  /-- The client goes away; an open transaction is rolled back. -/
  | disconnect
  deriving DecidableEq

structure Session (Store : Type*) where
  durable : Store
  working : Option Store := none

namespace Session

def current (session : Session Store) : Store :=
  session.working.getD session.durable

/-- A write goes to the open transaction, or is durable at once. -/
def write (session : Session Store) (store : Store) : Session Store :=
  match session.working with
  | some _ => { session with working := some store }
  | none => { session with durable := store }

/-- One command; none is an error.  A `begin` inside a transaction and a
`commit` outside one only warn. -/
def step (exec : Stmt → Store → Option Store) (session : Session Store) :
    Command Stmt → Option (Session Store)
  | .begin => some { session with working := some session.current }
  | .commit => some { durable := session.current }
  | .run stmt => (exec stmt session.current).map session.write
  | .disconnect => some { durable := session.durable }

/-- The commands up to the first error, and whether all of them succeeded. -/
def execute (exec : Stmt → Store → Option Store) :
    List (Command Stmt) → Session Store → Session Store × Bool
  | [], session => (session, true)
  | command :: commands, session =>
      match session.step exec command with
      | some next => execute exec commands next
      | none => (session, false)

end Session

open Session

/-- The statements one after the other; none if one of them is an error. -/
def execAll (exec : Stmt → Store → Option Store) :
    List Stmt → Store → Option Store
  | [], store => some store
  | stmt :: stmts, store => (exec stmt store).bind (execAll exec stmts)

variable {exec : Stmt → Store → Option Store} {stmts : List Stmt}
variable {rest : List (Command Stmt)} {durable store store' : Store}

theorem execAll_append (first second : List Stmt) (store : Store) :
    execAll exec (first ++ second) store =
      (execAll exec first store).bind (execAll exec second) := by
  induction first generalizing store with
  | nil => rfl
  | cons stmt stmts ih =>
      simp only [List.cons_append, execAll, Option.bind_assoc]
      exact congrArg _ (funext ih)

/-! ## Inside a transaction -/

/-- Successful statements change what the transaction has done. -/
theorem execute_inside (hrun : execAll exec stmts store = some store') :
    execute exec (stmts.map .run ++ rest) ⟨durable, some store⟩ =
      execute exec rest ⟨durable, some store'⟩ := by
  induction stmts generalizing store with
  | nil =>
      cases hrun
      rfl
  | cons stmt stmts ih =>
      obtain ⟨mid, hmid, hrest⟩ := Option.bind_eq_some_iff.mp hrun
      rw [List.map_cons, List.cons_append, execute]
      simp only [step, current, Option.getD_some, hmid, Option.map_some, write]
      exact ih hrest

/-- An error ends the session with nothing durable. -/
theorem execute_inside_error (hrun : execAll exec stmts store = none) :
    ∃ working, execute exec (stmts.map .run ++ rest) ⟨durable, some store⟩ =
      (⟨durable, some working⟩, false) := by
  induction stmts generalizing store with
  | nil => cases hrun
  | cons stmt stmts ih =>
      rw [List.map_cons, List.cons_append, execute]
      simp only [step, current, Option.getD_some]
      cases hstmt : exec stmt store with
      | none => exact ⟨store, rfl⟩
      | some mid =>
          apply ih
          simpa only [execAll, hstmt, Option.bind_some] using hrun

/-- However far it gets, nothing of it is durable. -/
theorem durable_inside (stmts : List Stmt) (durable store : Store) :
    (execute exec (stmts.map .run) ⟨durable, some store⟩).1.durable =
      durable := by
  cases hrun : execAll exec stmts store with
  | some store' =>
      have hdone := @execute_inside _ _ exec stmts [] durable _ _ hrun
      rw [List.append_nil] at hdone
      rw [hdone]
      rfl
  | none =>
      obtain ⟨working, herror⟩ :=
        @execute_inside_error _ _ exec stmts [] durable _ hrun
      rw [List.append_nil] at herror
      rw [herror]

/-! ## Outside a transaction -/

/-- Successful statements are durable at once. -/
theorem execute_outside (hrun : execAll exec stmts store = some store') :
    execute exec (stmts.map .run ++ rest) ⟨store, none⟩ =
      execute exec rest ⟨store', none⟩ := by
  induction stmts generalizing store with
  | nil =>
      cases hrun
      rfl
  | cons stmt stmts ih =>
      obtain ⟨mid, hmid, hrest⟩ := Option.bind_eq_some_iff.mp hrun
      rw [List.map_cons, List.cons_append, execute]
      simp only [step, current, Option.getD_none, hmid, Option.map_some, write]
      exact ih hrest

/-- Killed after some statements, the session leaves these behind. -/
theorem durable_take_outside {store store' : Store} (count : ℕ)
    (hrun : execAll exec (stmts.take count) store = some store') :
    (execute exec ((stmts.map Command.run).take count)
      ⟨store, none⟩).1.durable = store' := by
  rw [← List.map_take]
  have hdone := @execute_outside _ _ exec _ [] _ _ hrun
  rw [List.append_nil] at hdone
  rw [hdone]
  rfl

/-! ## One transaction -/

/-- A transaction that succeeds. -/
theorem execute_transaction (hrun : execAll exec stmts store = some store') :
    execute exec (.begin :: stmts.map .run ++ .commit :: rest) ⟨store, none⟩ =
      execute exec rest ⟨store', none⟩ := by
  rw [List.cons_append, execute]
  exact execute_inside hrun

/-- A transaction that was killed before its end left nothing behind. -/
theorem durable_take_transaction {count : ℕ} (hcount : count ≤ stmts.length + 1) :
    (execute exec
      ((Command.begin :: stmts.map .run ++ .commit :: rest).take count)
      ⟨store, none⟩).1.durable = store := by
  cases count with
  | zero => rfl
  | succ count =>
      have htake : (stmts.map Command.run ++ .commit :: rest).take count =
          (stmts.take count).map .run := by
        rw [List.take_append_of_le_length (by simpa using hcount), List.map_take]
      rw [List.cons_append, List.take_succ_cons, htake, execute]
      exact durable_inside _ _ _

/-- Killed after its end, the session leaves what followed the transaction. -/
theorem take_transaction (stmts : List Stmt) (rest : List (Command Stmt))
    (count : ℕ) :
    (Command.begin :: stmts.map .run ++ .commit :: rest).take
        (stmts.length + 2 + count) =
      .begin :: stmts.map .run ++ .commit :: rest.take count := by
  have hlength : stmts.length + 2 + count =
      (stmts.map Command.run).length + (count + 1) + 1 := by
    rw [List.length_map]
    omega
  rw [hlength, List.cons_append, List.take_succ_cons, List.take_length_add_append,
    List.take_succ_cons, List.cons_append]

end VpnMiddleware.SqlSession
