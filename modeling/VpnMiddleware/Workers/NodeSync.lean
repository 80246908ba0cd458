import VpnMiddleware.Panel.PanelTypes
import VpnMiddleware.Schema.Database
import Mathlib.Data.List.Infix

/-!
# Node reconciliation

The panel's free-form status of a node becomes the row's `status`; the sync
loop does so for every node of the panel's list.
-/

namespace VpnMiddleware.NodeSync

open VpnMiddleware.Schema VpnMiddleware.Database VpnMiddleware.Table
open VpnMiddleware.PanelTypes

def onlineWords : List String :=
  ["online", "connected", "active", "healthy", "running"]

/-- `/(online|connected|active|healthy|running)/` on the lower-cased status,
and no "disconn". -/
def isOnline (status : String) : Bool :=
  let text := status.toLower.toList
  (onlineWords.any fun word => decide (word.toList <:+: text)) &&
    !decide ("disconn".toList <:+: text)

/-- The update for one node of the panel's list; `is_active` is not touched. -/
def syncNode (now : ℕ) (panelNodeId panelStatus : String) : Query Unit :=
  modify fun db =>
    { db with
      nodes := updateWhere (fun node => node.panelNodeId == some panelNodeId)
        (fun node =>
          { node with
            status := if isOnline panelStatus then .active else .disabled
            lastSyncedAt := some now
            errorStreak := if isOnline panelStatus then 0 else node.errorStreak })
        db.nodes }

/-- The loop over the panel's list from its `i`-th node on, and whether it got
to the end.  `commitsAt` is when the `i`-th update commits; a failing statement
and a missing status throw.  No row has the id null. -/
def syncFrom (commitsAt : ℕ → Option ℕ) : ℕ → List PanelNode → Db → Db × Bool
  | _, [], db => (db, true)
  | i, n :: live, db =>
      match n.status, commitsAt i with
      | some status, some now =>
          match n.panelNodeId with
          | none => syncFrom commitsAt (i + 1) live db
          | some panelNodeId =>
              match syncNode now panelNodeId status db with
              | .ok (_, after) => syncFrom commitsAt (i + 1) live after
              | .error _ => (db, false)
      | _, _ => (db, false)

structure NodeSyncWorker where
  running : Bool := false
  shuttingDown : Bool := false
  deriving DecidableEq, Repr

/-- `sync`: the panel's answer, then the loop.  What is thrown is logged. -/
def sync (worker : NodeSyncWorker) (listNodes : Except String (List PanelNode))
    (commitsAt : ℕ → Option ℕ) (db : Db) : Db × Bool :=
  if worker.running || worker.shuttingDown then (db, false)
  else
    match listNodes with
    | .error _ => (db, false)
    | .ok live => syncFrom commitsAt 0 live db

end VpnMiddleware.NodeSync
