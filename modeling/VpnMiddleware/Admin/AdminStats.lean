import Mathlib.Data.List.Dedup
import VpnMiddleware.Connection.ConnectionService

/-!
# The premium count of the dashboard

`stats` asks four queries at once; this is the one over subscriptions.
-/

namespace VpnMiddleware.AdminStats

open VpnMiddleware.Schema VpnMiddleware.ConnectionService

/-- `subscriptions s join plans p on p.id = s.plan_id`. -/
def joinedPlans (db : Db) : List (Subscription × Plan) :=
  db.subscriptions.flatMap fun row =>
    (db.plans.filter fun plan => plan.id == row.planId).map fun plan => (row, plan)

/-- The users of the current premium rows, each once. -/
def premiumUserIds (now : ℕ) (db : Db) : List ℕ :=
  (((joinedPlans db).filter fun pair =>
    pair.2.tier == .premium && isCurrent now pair.1).map
      fun pair => pair.1.userId).dedup

/-- `count(distinct s.user_id)`. -/
def premiumUsers (now : ℕ) (db : Db) : ℕ := (premiumUserIds now db).length

end VpnMiddleware.AdminStats
