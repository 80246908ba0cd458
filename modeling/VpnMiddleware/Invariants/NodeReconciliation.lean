import VpnMiddleware.Connection.ConnectionService
import VpnMiddleware.Workers.NodeSync

/-!
# What a node sync reconciles

The sync loop writes the rows that the panel's list names and no other: a row
whose node the panel has dropped keeps the status it had.
-/

namespace VpnMiddleware.NodeReconciliation

open VpnMiddleware.Schema VpnMiddleware.Database VpnMiddleware.Table
open VpnMiddleware.PanelTypes VpnMiddleware.NodeSync

/-! ## One row along the list -/

/-- What one update makes of a row. -/
def syncRow (now : ℕ) (panelNodeId panelStatus : String) (node : Node) : Node :=
  if node.panelNodeId = some panelNodeId then
    { node with
      status := if isOnline panelStatus then .active else .disabled
      lastSyncedAt := some now
      errorStreak := if isOnline panelStatus then 0 else node.errorStreak }
  else node

/-- What the updates for the list, from its `i`-th node on, make of a row. -/
def rowAfter (commitsAt : ℕ → Option ℕ) : ℕ → List PanelNode → Node → Node
  | _, [], node => node
  | i, n :: live, node =>
      rowAfter commitsAt (i + 1) live
        (match n.panelNodeId, n.status, commitsAt i with
          | some panelNodeId, some status, some now =>
              syncRow now panelNodeId status node
          | _, _, _ => node)

section Rows

variable {commitsAt : ℕ → Option ℕ} {i : ℕ} {live : List PanelNode} {node : Node}
variable {db after : Db} {worker : NodeSyncWorker}

theorem syncNode_eq (now : ℕ) (panelNodeId panelStatus : String) (db : Db) :
    syncNode now panelNodeId panelStatus db = .ok ((),
      { db with nodes := db.nodes.map (syncRow now panelNodeId panelStatus) }) := by
  have hrows : updateWhere (fun node : Node => node.panelNodeId == some panelNodeId)
      (fun node =>
        { node with
          status := if isOnline panelStatus then .active else .disabled
          lastSyncedAt := some now
          errorStreak := if isOnline panelStatus then 0 else node.errorStreak })
      db.nodes = db.nodes.map (syncRow now panelNodeId panelStatus) := by
    rw [updateWhere]
    congr 1
    funext node
    by_cases hid : node.panelNodeId = some panelNodeId <;> simp [syncRow, hid]
  rw [← hrows]
  rfl

/-- A loop that gets to its end has rewritten each row on its own. -/
theorem syncFrom_completed
    (hdone : syncFrom commitsAt i live db = (after, true)) :
    after = { db with nodes := db.nodes.map (rowAfter commitsAt i live) } := by
  induction live generalizing i db with
  | nil =>
      obtain rfl : db = after := by simpa [syncFrom] using hdone
      have hid : rowAfter commitsAt i [] = id := rfl
      rw [hid, List.map_id]
  | cons n live ih =>
      rw [syncFrom] at hdone
      cases hstatus : n.status with
      | none => simp [hstatus] at hdone
      | some status =>
          cases hnow : commitsAt i with
          | none => simp [hstatus, hnow] at hdone
          | some now =>
              cases hid : n.panelNodeId with
              | none =>
                  simp only [hstatus, hnow, hid] at hdone
                  rw [ih hdone]
                  congr 2
                  funext node
                  simp [rowAfter, hid]
              | some panelNodeId =>
                  simp only [hstatus, hnow, hid, syncNode_eq] at hdone
                  rw [ih hdone, List.map_map]
                  congr 2
                  funext node
                  simp [rowAfter, hid, hstatus, hnow]

/-- Every update of the list, from its `i`-th node on, is made. -/
inductive Completes (commitsAt : ℕ → Option ℕ) : ℕ → List PanelNode → Prop
  | nil {i : ℕ} : Completes commitsAt i []
  | cons {i : ℕ} {n : PanelNode} {live : List PanelNode} {status : String}
      {now : ℕ} (hstatus : n.status = some status) (hnow : commitsAt i = some now)
      (hrest : Completes commitsAt (i + 1) live) :
      Completes commitsAt i (n :: live)

theorem completes_of_syncFrom
    (hdone : syncFrom commitsAt i live db = (after, true)) :
    Completes commitsAt i live := by
  induction live generalizing i db with
  | nil => exact .nil
  | cons n live ih =>
      rw [syncFrom] at hdone
      cases hstatus : n.status with
      | none => simp [hstatus] at hdone
      | some status =>
          cases hnow : commitsAt i with
          | none => simp [hstatus, hnow] at hdone
          | some now =>
              apply Completes.cons hstatus hnow
              cases hid : n.panelNodeId with
              | none => exact ih (by simpa [hstatus, hnow, hid] using hdone)
              | some panelNodeId =>
                  simp only [hstatus, hnow, hid, syncNode_eq] at hdone
                  exact ih hdone

theorem Completes.status_eq (hdone : Completes commitsAt i live) {n : PanelNode}
    (hn : n ∈ live) : ∃ status, n.status = some status := by
  induction hdone with
  | nil => cases hn
  | cons hstatus hnow hrest ih =>
      rcases List.mem_cons.mp hn with rfl | hlater
      · exact ⟨_, hstatus⟩
      · exact ih hlater

/-- A row that the rest of the list does not name stays. -/
theorem rowAfter_of_absent
    (habsent : ∀ n ∈ live, ∀ id ∈ n.panelNodeId, node.panelNodeId ≠ some id) :
    rowAfter commitsAt i live node = node := by
  induction live generalizing i with
  | nil => rfl
  | cons n live ih =>
      rw [List.forall_mem_cons] at habsent
      rw [rowAfter]
      split
      · rename_i panelNodeId status now hid hstatus hnow
        rw [syncRow, if_neg (habsent.1 _ hid), ih habsent.2]
      · exact ih habsent.2

/-- A row that the list names once takes what the list says of it. -/
theorem rowAfter_of_listed (hdone : Completes commitsAt i live)
    (hids : (live.map PanelNode.panelNodeId).Nodup) {n : PanelNode}
    (hn : n ∈ live) {panelNodeId status : String}
    (hid : n.panelNodeId = some panelNodeId) (hstatus : n.status = some status)
    (hnode : node.panelNodeId = some panelNodeId) :
    ∃ now, rowAfter commitsAt i live node = syncRow now panelNodeId status node := by
  induction hdone generalizing node with
  | nil => cases hn
  | @cons i first live firstStatus now hfirst hnow hrest ih =>
      rw [List.map_cons, List.nodup_cons] at hids
      rcases List.mem_cons.mp hn with rfl | hlater
      · obtain rfl : status = firstStatus := by
          rw [hstatus] at hfirst
          exact Option.some.inj hfirst
        refine ⟨now, ?_⟩
        simp only [rowAfter, hid, hstatus, hnow]
        apply rowAfter_of_absent
        intro other hother id hotherId hsame
        have hsynced : (syncRow now panelNodeId status node).panelNodeId =
            node.panelNodeId := by
          rw [syncRow]
          split <;> rfl
        rw [hsynced, hnode] at hsame
        apply hids.1
        rw [hid, hsame, ← Option.mem_def.mp hotherId]
        exact List.mem_map_of_mem hother
      · have hne : first.panelNodeId ≠ some panelNodeId := by
          intro hsame
          apply hids.1
          rw [hsame, ← hid]
          exact List.mem_map_of_mem hlater
        rw [rowAfter]
        split
        · rename_i firstId otherStatus otherNow hfirstId hotherStatus hotherNow
          have hskip : syncRow otherNow firstId otherStatus node = node := by
            rw [syncRow, if_neg]
            intro hsame
            rw [hnode] at hsame
            exact hne (by rw [hfirstId, hsame])
          rw [hskip]
          exact ih hids.2 hlater hnode
        · exact ih hids.2 hlater hnode

theorem sync_completed (hdone : sync worker (.ok live) commitsAt db = (after, true)) :
    syncFrom commitsAt 0 live db = (after, true) := by
  rw [sync] at hdone
  split at hdone
  · cases hdone
  · exact hdone

/-! ## Reconciled tables -/

/-- The panel's list holds the node with a status that counts as online. -/
def ReportedOnline (live : List PanelNode) (panelNodeId : String) : Prop :=
  ∃ n ∈ live, n.panelNodeId = some panelNodeId ∧
    ∃ status ∈ n.status, isOnline status = true

/-- A row before and after a sync that has reconciled it: only the three
columns of the panel are written, and the status mirrors the list. -/
structure Reconciled (live : List PanelNode) (node synced : Node) : Prop where
  others : synced = { node with
    status := synced.status
    lastSyncedAt := synced.lastSyncedAt
    errorStreak := synced.errorStreak }
  unmanaged : node.panelNodeId = none → synced = node
  online : ∀ panelNodeId ∈ node.panelNodeId, ReportedOnline live panelNodeId →
    synced.errorStreak = 0
  offline : ∀ panelNodeId ∈ node.panelNodeId, ¬ ReportedOnline live panelNodeId →
    synced.errorStreak = node.errorStreak
  status : ∀ panelNodeId ∈ node.panelNodeId,
    (synced.status = .active ↔ ReportedOnline live panelNodeId)

theorem Reconciled.of_absent {panelNodeId : String}
    (hnode : node.panelNodeId = some panelNodeId)
    (habsent : ∀ n ∈ live, n.panelNodeId ≠ some panelNodeId) :
    Reconciled live node node ↔ node.status ≠ .active := by
  have hunreported : ¬ ReportedOnline live panelNodeId := by
    rintro ⟨n, hn, hid, -⟩
    exact habsent n hn hid
  constructor
  · intro hreconciled hactive
    exact hunreported ((hreconciled.status panelNodeId hnode).mp hactive)
  · intro hinactive
    refine ⟨rfl, fun _ => rfl, ?_, fun _ _ _ => rfl, ?_⟩
    · intro id hid honline
      obtain rfl : panelNodeId = id := Option.some.inj (hnode.symm.trans hid)
      exact absurd honline hunreported
    · intro id hid
      obtain rfl : panelNodeId = id := Option.some.inj (hnode.symm.trans hid)
      exact iff_of_false hinactive hunreported

theorem Reconciled.of_listed {n : PanelNode} {panelNodeId status : String} {now : ℕ}
    (hids : (live.map PanelNode.panelNodeId).Nodup) (hn : n ∈ live)
    (hid : n.panelNodeId = some panelNodeId) (hstatus : n.status = some status)
    (hnode : node.panelNodeId = some panelNodeId) :
    Reconciled live node (syncRow now panelNodeId status node) := by
  have honline : ReportedOnline live panelNodeId ↔ isOnline status = true := by
    constructor
    · rintro ⟨other, hother, hotherId, text, htext, hword⟩
      obtain rfl : other = n :=
        List.inj_on_of_nodup_map hids hother hn (hotherId.trans hid.symm)
      obtain rfl : status = text := Option.some.inj (hstatus.symm.trans htext)
      exact hword
    · intro hword
      exact ⟨n, hn, hid, status, hstatus, hword⟩
  have hrow : syncRow now panelNodeId status node = { node with
      status := if isOnline status then .active else .disabled
      lastSyncedAt := some now
      errorStreak := if isOnline status then 0 else node.errorStreak } := by
    rw [syncRow, if_pos hnode]
  rw [hrow]
  constructor
  · rfl
  · intro hnone
    rw [hnode] at hnone
    cases hnone
  · intro id hsame hreported
    obtain rfl : panelNodeId = id := Option.some.inj (hnode.symm.trans hsame)
    simp [honline.mp hreported]
  · intro id hsame hreported
    obtain rfl : panelNodeId = id := Option.some.inj (hnode.symm.trans hsame)
    simp [mt honline.mpr hreported]
  · intro id hsame
    obtain rfl : panelNodeId = id := Option.some.inj (hnode.symm.trans hsame)
    rw [honline]
    cases hword : isOnline status <;> simp

/-- A row is reconciled unless the panel has dropped it while it was active. -/
theorem reconciled_rowAfter_iff (hdone : Completes commitsAt i live)
    (hids : (live.map PanelNode.panelNodeId).Nodup) :
    Reconciled live node (rowAfter commitsAt i live node) ↔
      ∀ panelNodeId ∈ node.panelNodeId,
        (∀ n ∈ live, n.panelNodeId ≠ some panelNodeId) → node.status ≠ .active := by
  cases hnode : node.panelNodeId with
  | none =>
      have hsame : rowAfter commitsAt i live node = node := by
        apply rowAfter_of_absent
        intro n hn id hid
        simp [hnode]
      rw [hsame]
      refine iff_of_true ⟨rfl, fun _ => rfl, ?_, fun _ _ _ => rfl, ?_⟩ (by simp)
      · intro id hid
        rw [hnode] at hid
        cases hid
      · intro id hid
        rw [hnode] at hid
        cases hid
  | some panelNodeId =>
      simp only [Option.mem_def, Option.some.injEq, forall_eq']
      by_cases hlisted : ∃ n ∈ live, n.panelNodeId = some panelNodeId
      · obtain ⟨n, hn, hid⟩ := hlisted
        obtain ⟨status, hstatus⟩ := hdone.status_eq hn
        obtain ⟨now, hrow⟩ := rowAfter_of_listed hdone hids hn hid hstatus hnode
        rw [hrow]
        apply iff_of_true (Reconciled.of_listed hids hn hid hstatus hnode)
        intro habsent
        exact absurd hid (habsent n hn)
      · have habsent : ∀ n ∈ live, n.panelNodeId ≠ some panelNodeId := by
          intro n hn hid
          exact hlisted ⟨n, hn, hid⟩
        have hsame : rowAfter commitsAt i live node = node := by
          apply rowAfter_of_absent
          intro n hn id hid hother
          rw [hnode] at hother
          exact habsent n hn (by rw [hid, Option.some.inj hother])
        rw [hsame, Reconciled.of_absent hnode habsent]
        exact ⟨fun hinactive _ => hinactive, fun hinactive => hinactive habsent⟩

end Rows

/-- A sync that completes has reconciled the whole table exactly if no active
row belongs to a node that the panel has dropped; it writes nothing else. -/
theorem sync_reconciles_iff {commitsAt : ℕ → Option ℕ} {live : List PanelNode}
    {db after : Db} {worker : NodeSyncWorker}
    (hids : (live.map PanelNode.panelNodeId).Nodup)
    (hdone : sync worker (.ok live) commitsAt db = (after, true)) :
    after = { db with nodes := after.nodes } ∧
    (List.Forall₂ (Reconciled live) db.nodes after.nodes ↔
      ∀ node ∈ db.nodes, ∀ panelNodeId ∈ node.panelNodeId,
        (∀ n ∈ live, n.panelNodeId ≠ some panelNodeId) → node.status ≠ .active) := by
  have hloop := sync_completed hdone
  have hafter := syncFrom_completed hloop
  have hcompletes := completes_of_syncFrom hloop
  constructor
  · rw [hafter]
  · rw [hafter, List.forall₂_map_right_iff, List.forall₂_same]
    simp only [reconciled_rowAfter_iff hcompletes hids]

/-! ## A dropped node -/

/-- Two nodes of the panel, both active; the second serves premium users. -/
def twoNodes : Db where
  nodes :=
    [{ id := 1, panelNodeId := some "1" }, { id := 2, panelNodeId := some "2" }]
  nodeInbounds := [{ nodeId := 2, inboundTag := "vless", protocol := "vless" }]
  nodeEndpoints := [{ nodeId := 2, inboundTag := "vless", address := "a", port := 1 }]

/-- The panel's list without the second node. -/
def firstOnly : List PanelNode := [⟨some "1", some "one", some "connected", none⟩]

/-- The dropped node stays active, and new sessions are placed on it. -/
theorem dropped_node_stays_active :
    ∃ after, sync {} (.ok firstOnly) some twoNodes = (after, true) ∧
      ¬ List.Forall₂ (Reconciled firstOnly) twoNodes.nodes after.nodes ∧
      (ConnectionService.pickNode .premium after).map (·.nodeId) = some 2 := by
  refine ⟨_, rfl, ?_, by decide +kernel⟩
  intro hall
  have hsecond := (List.forall₂_cons.mp (List.forall₂_cons.mp hall).2).1
  obtain ⟨n, hn, hid, -⟩ := (hsecond.status "2" rfl).mp rfl
  obtain rfl : n = _ := List.mem_singleton.mp hn
  revert hid
  decide

/-- The panel's list with both nodes. -/
def bothNodes : List PanelNode :=
  firstOnly ++ [⟨some "2", some "two", some "disabled", none⟩]

theorem sync_reconciles_iff_twoNodes :
    ∃ after, sync {} (.ok bothNodes) some twoNodes = (after, true) ∧
      List.Forall₂ (Reconciled bothNodes) twoNodes.nodes after.nodes := by
  refine ⟨(sync {} (.ok bothNodes) some twoNodes).1, rfl, ?_⟩
  refine (@sync_reconciles_iff some bothNodes twoNodes _ {} (by decide) rfl).2.mpr ?_
  decide

end VpnMiddleware.NodeReconciliation
