import VpnMiddleware.Panel.IdealPanel
import VpnMiddleware.Schema.Database

/-!
# The shared world

The database, the panel and the clock, and the two ways a process acts on
them: one statement or transaction, or one panel call.
-/

namespace VpnMiddleware.Shared

open VpnMiddleware.Schema VpnMiddleware.Errors VpnMiddleware.Environment
open VpnMiddleware.Database VpnMiddleware.Transaction VpnMiddleware.IdealPanel

structure World where
  db : Db
  panel : Panel := fun _ => none
  clock : ℕ := 0

variable {Result : Type}

/-- Send a statement or a transaction to the database. -/
def World.query (world : World) (query : Query Result) (reply : Reply) :
    Except Failure Result × World :=
  let outcome := withTransaction query world.db
  match reply with
  | .ok => (outcome.1, { world with db := outcome.2 })
  | .fail applied cause =>
      (.error cause, { world with db := if applied then outcome.2 else world.db })

/-- Call the panel. -/
def World.call (world : World) (provider : Provider) (call : PanelCall)
    (reply : Reply) : Except Failure (Option Account) × World :=
  let outcome := exchange provider world.clock call reply world.panel
  (outcome.1, { world with panel := outcome.2 })

section Replies

variable {world after : World} {reply : Reply}

theorem World.query_ok {query : Query Result} {result : Result}
    (hquery : world.query query reply = (.ok result, after)) :
    reply = .ok ∧ query world.db = .ok (result, after.db) := by
  cases reply with
  | ok =>
      simp only [World.query, Prod.mk.injEq] at hquery
      obtain ⟨hresult, rfl⟩ := hquery
      exact ⟨rfl, withTransaction_ok (Prod.ext hresult rfl)⟩
  | fail applied cause => simp [World.query] at hquery

/-- A query that commits and is answered. -/
theorem World.query_of_ok {query : Query Result} {result : Result} {db : Db}
    (hrun : query world.db = .ok (result, db)) :
    world.query query .ok = (.ok result, { world with db := db }) := by
  rw [World.query, withTransaction_of_ok hrun]

/-- What a query leaves behind: what was there, or what it commits. -/
theorem World.query_db (world : World) (query : Query Result) (reply : Reply) :
    (world.query query reply).2.db = world.db ∨
      ∃ result, query world.db = .ok (result, (world.query query reply).2.db) := by
  cases reply with
  | ok => exact withTransaction_store query world.db
  | fail applied _ =>
      cases applied with
      | true => exact withTransaction_store query world.db
      | false => exact Or.inl rfl

theorem World.query_error {query : Query Result} {cause : Failure}
    (hquery : world.query query reply = (.error cause, after)) :
    reply ≠ .ok ∨ (withTransaction query world.db).1 = .error cause := by
  cases reply with
  | ok => exact Or.inr (congrArg Prod.fst hquery)
  | fail applied cause => exact Or.inl nofun

theorem World.call_ok {provider : Provider} {call : PanelCall}
    {result : Option Account}
    (hcall : world.call provider call reply = (.ok result, after)) :
    reply = .ok ∧
      (serve provider world.clock call world.panel).1 = .ok result := by
  cases reply with
  | ok => exact ⟨rfl, congrArg Prod.fst hcall⟩
  | fail applied cause => simp [World.call, exchange] at hcall

theorem World.call_error {provider : Provider} {call : PanelCall}
    {cause : Failure}
    (hcall : world.call provider call reply = (.error cause, after)) :
    reply ≠ .ok ∨
      (serve provider world.clock call world.panel).1 = .error cause := by
  cases reply with
  | ok => exact Or.inr (congrArg Prod.fst hcall)
  | fail applied cause => exact Or.inl nofun

end Replies

/-- What one step of a process did: the world after it, the process that goes
on and the answer given if it ends. -/
structure Outcome (Proc Answer : Type) where
  world : World
  next : Option Proc := none
  answer : Option Answer := none

end VpnMiddleware.Shared
