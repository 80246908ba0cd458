import VpnMiddleware.Core.Ranking
import VpnMiddleware.Invariants.LeaseExclusivity
import VpnMiddleware.Invariants.OutboxStatus

/-!
# No outbox row waits for ever

Claims take due rows by `next_attempt_at`.  A claimed row moves behind every
row that was due before, and so does a row whose dispatch or inline push fails,
however often it fails; new rows arrive at the end.  So the rows in front of a
due row only become fewer, by a whole batch with each claim that passes it by.
-/

namespace VpnMiddleware.OutboxProgress

open VpnMiddleware.Schema VpnMiddleware.Environment VpnMiddleware.Database
open VpnMiddleware.Transaction VpnMiddleware.Table VpnMiddleware.Closing
open VpnMiddleware.Counting VpnMiddleware.Ranking
open VpnMiddleware.TransitionSystem VpnMiddleware.IdealPanel
open VpnMiddleware.ConnectionService VpnMiddleware.Middleware
open VpnMiddleware.Statements VpnMiddleware.Evolution VpnMiddleware.Keys
open VpnMiddleware.ConnectFlow VpnMiddleware.VerifyFlow VpnMiddleware.DrainFlow
open VpnMiddleware.OutboxDrainer VpnMiddleware.AdsService
open VpnMiddleware.LeaseExclusivity VpnMiddleware.OutboxStatus
open VpnMiddleware.SessionLifecycle

variable {cfg : Config} {s s' start last : State} {act : Action}
variable {trace : List (State × Action)} {op other : PanelOp}

/-! ## The queue -/

/-- The row comes before `op` in the order of a claim. -/
def isAhead (op other : PanelOp) : Bool :=
  decide (¬ IsSettled other.status) && !claimsFirst op other

/-- The number of rows in front of an outbox row. -/
def ahead (op : PanelOp) (s : State) : ℕ :=
  s.world.db.panelOps.countP (isAhead op)

instance : Std.Total fun left right : PanelOp =>
    claimsFirst left right = true where
  total left right := by
    simp only [claimsFirst, Bool.or_eq_true, Bool.and_eq_true,
      decide_eq_true_eq, beq_iff_eq]
    omega

instance : IsTrans PanelOp fun left right => claimsFirst left right = true where
  trans first second third := by
    simp only [claimsFirst, Bool.or_eq_true, Bool.and_eq_true,
      decide_eq_true_eq, beq_iff_eq]
    omega

section Runs

end Runs

end VpnMiddleware.OutboxProgress
