import VpnMiddleware.Invariants.Processes
import VpnMiddleware.System.Frames

/-!
# Evacuated nodes

From a forced migration of a node until an admin enables it again, the node is
drained and holds no live session.  The migration queues one revocation for
each session that it evicts and writes one audit row with their number.
-/

namespace VpnMiddleware.Evacuation

open VpnMiddleware.Schema VpnMiddleware.Environment VpnMiddleware.Database
open VpnMiddleware.Transaction VpnMiddleware.Table VpnMiddleware.Closing
open VpnMiddleware.Frame VpnMiddleware.TransitionSystem VpnMiddleware.Middleware
open VpnMiddleware.Statements VpnMiddleware.Evolution VpnMiddleware.Keys
open VpnMiddleware.Processes VpnMiddleware.Frames VpnMiddleware.AdminService
open VpnMiddleware.ConnectionService

variable {cfg : Config} {s s' start last : State} {act : Action}
variable {trace : List (State × Action)} {now nodeId evicted : ℕ}
variable {db after : Db} {actor : AdminActor}

/-! ## The law -/

/-- The node exists and takes no new sessions. -/
def Drained (nodeId : ℕ) (db : Db) : Prop :=
  (∃ node ∈ db.nodes, node.id = nodeId) ∧
    ∀ node ∈ db.nodes, node.id = nodeId → node.isActive = false

structure Evacuated (nodeId : ℕ) (s : State) : Prop where
  drained : Drained nodeId s.world.db
  empty : ∀ row ∈ s.world.db.sessions, row.nodeId = nodeId →
    row.status.isLive = false

/-- `forceMigrateNode` commits, with these tables after it. -/
structure CommitsEvacuation (cfg : Config) (entry : State × Action)
    (nodeId : ℕ) (actor : AdminActor) (evicted : ℕ) (after : Db) : Prop where
  acts : entry.2 = .operate (.forceMigrateNode nodeId actor)
  commits : AdminService.forceMigrateNode cfg entry.1.world.clock nodeId actor
    entry.1.world.db = .ok (evicted, after)

/-- `setNodeActive(nodeId, true)`. -/
def Enables (nodeId : ℕ) (act : Action) : Prop :=
  act = .operate (.setNodeActive nodeId true)

/-- The live sessions of a node. -/
def evictedBy (nodeId : ℕ) (db : Db) : List Session :=
  db.sessions.filter fun row => row.nodeId == nodeId && row.status.isLive

/-- What a migration does to the sessions of its node, and what it leaves about
them in the outbox and in the audit log. -/
structure Evicts (nodeId evicted : ℕ) (db after : Db) : Prop where
  count : evicted = (evictedBy nodeId db).length
  closed : ∀ row ∈ evictedBy nodeId db, ∃ row' ∈ after.sessions,
    row'.id = row.id ∧ row'.status = .revoked
  queued : ∃ added, after.panelOps = db.panelOps ++ added ∧
    added.length = evicted ∧ ∀ row ∈ evictedBy nodeId db, ∃ op,
      added.filter (fun op => op.sessionId == some row.id) = [op] ∧
      op.op = .revokeUser ∧ op.payload.panelUsername = row.panelUsername
  logged : ∃ log, after.auditLogs = db.auditLogs ++ [log] ∧
    log.actionType = .forceMigrateNode ∧ log.targetId = some nodeId ∧
    log.details = evicted

/-! ## The commit -/

/-- Rows with distinct ids get one outbox row each. -/
theorem filter_queuedOps {op : PanelOpKind} {rows : List Session} {row : Session}
    (hnodup : (rows.map Session.id).Nodup) (hrow : row ∈ rows) :
    ∀ count, ∃ id, (queuedOps now op count rows).filter
        (fun queued => queued.sessionId == some row.id) =
      [newPanelOp now id row.id op { panelUsername := row.panelUsername }] := by
  induction rows with
  | nil => simp at hrow
  | cons head rows ih =>
      intro count
      rw [List.map_cons, List.nodup_cons] at hnodup
      rcases List.mem_cons.mp hrow with rfl | htail
      · refine ⟨count + 1, ?_⟩
        have hrest : (queuedOps now op (count + 1) rows).filter
            (fun queued => queued.sessionId == some row.id) = [] := by
          rw [List.filter_eq_nil_iff]
          intro queued hqueued hsession
          obtain ⟨other, hother, _, -, rfl⟩ := mem_queuedOps hqueued
          apply hnodup.1
          have hid : other.id = row.id := by simpa [newPanelOp] using hsession
          exact hid ▸ List.mem_map_of_mem hother
        simp [queuedOps, newPanelOp, hrest]
      · obtain ⟨id, hfilter⟩ := ih hnodup.2 htail (count + 1)
        have hother : head.id ≠ row.id := by
          intro hid
          exact hnodup.1 (hid ▸ List.mem_map_of_mem htail)
        refine ⟨id, ?_⟩
        rw [queuedOps, List.filter_cons_of_neg (by simp [newPanelOp, hother])]
        exact hfilter

/-- The tables that a migration leaves. -/
theorem forceMigrateNode_db
    (hok : AdminService.forceMigrateNode cfg now nodeId actor db =
      .ok (evicted, after)) :
    (∃ node ∈ db.nodes, node.id = nodeId) ∧
      evicted = (evictedBy nodeId db).length ∧
      after = { db with
        nodes := updateWhere (fun node => node.id == nodeId)
          (fun node => { node with isActive := false }) db.nodes
        sessions := updateWhere
          (fun row => row.nodeId == nodeId && row.status.isLive)
          (closeRow now .revoked "force_migrate") db.sessions
        panelOps := db.panelOps ++ queuedOps now .revokeUser db.panelOps.length
          (evictedBy nodeId db)
        auditLogs := db.auditLogs ++ [⟨actor.adminId, .forceMigrateNode,
          some nodeId, evicted, normalizeIp actor.ip, now⟩] } := by
  simp only [AdminService.forceMigrateNode, updateNode, revokeWhere,
    enqueueRevokes, updateSessions, recordInTx, bind_ok, get_ok, require_ok,
    modify_ok, pure_ok] at hok
  obtain ⟨_, _, ⟨rfl, rfl⟩, _, _, ⟨hnode, rfl⟩, _, _, rfl, count, closed,
    ⟨_, _, ⟨rfl, rfl⟩, _, _, rfl, _, _, hqueue, rfl, rfl⟩, _, _,
    ⟨_, _, ⟨rfl, rfl⟩, _, _, ⟨-, rfl⟩, _, _, ⟨-, rfl⟩, rfl⟩, rfl, rfl⟩ := hok
  refine ⟨by simpa using hnode, rfl, ?_⟩
  rw [enqueueEach_ok hqueue]
  rfl

theorem evicts_of_commits (hkeyed : KeyedSessions db)
    (hok : AdminService.forceMigrateNode cfg now nodeId actor db =
      .ok (evicted, after)) : Evicts nodeId evicted db after := by
  obtain ⟨-, hcount, rfl⟩ := forceMigrateNode_db hok
  have hnodup : ((evictedBy nodeId db).map Session.id).Nodup :=
    (List.filter_sublist.map Session.id).nodup hkeyed.ids
  refine ⟨hcount, ?_, ⟨_, rfl, ?_, ?_⟩, ⟨_, rfl, rfl, rfl, rfl⟩⟩
  · intro row hrow
    obtain ⟨hmem, hheld⟩ := List.mem_filter.mp hrow
    exact ⟨closeRow now .revoked "force_migrate" row,
      mem_updateWhere.mpr ⟨row, hmem, if_pos hheld⟩, rfl, rfl⟩
  · have hids := congrArg List.length (@map_id_queuedOps now .revokeUser
      (evictedBy nodeId db) db.panelOps.length)
    rw [List.length_map, List.length_range'] at hids
    exact hids.trans hcount.symm
  · intro row hrow
    obtain ⟨id, hfilter⟩ := filter_queuedOps hnodup hrow db.panelOps.length
    exact ⟨_, hfilter, rfl, rfl⟩

theorem evacuated_of_commits
    (hok : AdminService.forceMigrateNode cfg now nodeId actor db =
      .ok (evicted, s.world.db)) : Evacuated nodeId s := by
  obtain ⟨⟨node, hnode, hid⟩, -, hdb⟩ := forceMigrateNode_db hok
  refine ⟨⟨?_, ?_⟩, ?_⟩
  · rw [hdb]
    exact exists_key_updateWhere (fun _ => rfl) ⟨node, hnode, hid⟩
  · rw [hdb]
    intro node' hnode' hid'
    obtain ⟨old, -, rfl⟩ := mem_updateWhere.mp hnode'
    split at hid'
    · next hselected => rw [if_pos hselected]
    · next hother => exact absurd (beq_iff_eq.mpr hid') hother
  · rw [hdb]
    intro row' hrow' hheld
    obtain ⟨old, -, rfl⟩ := mem_updateWhere.mp hrow'
    split at hheld
    · next hselected =>
      rw [if_pos hselected]
      rfl
    · next hother =>
      rw [if_neg hother]
      simpa [hheld] using hother

/-! ## Later steps -/

/-- An update that enables no row of the node. -/
theorem Drained.updateWhere {selected : Node → Bool} {change : Node → Node}
    (hid : ∀ node, (change node).id = node.id)
    (hactive : ∀ node, node.id = nodeId → selected node = true →
      node.isActive = false → (change node).isActive = false)
    (hdrained : Drained nodeId db) :
    Drained nodeId { db with nodes := updateWhere selected change db.nodes } := by
  refine ⟨exists_key_updateWhere hid hdrained.1, ?_⟩
  intro node' hnode' hid'
  obtain ⟨node, hnode, rfl⟩ := mem_updateWhere.mp hnode'
  split at hid'
  · next hselected =>
    rw [if_pos hselected]
    have hsame : node.id = nodeId := (hid node).symm.trans hid'
    exact hactive node hsame hselected (hdrained.2 node hnode hsame)
  · next hother =>
    rw [if_neg hother]
    exact hdrained.2 node hnode hid'

theorem framed_drained : Framed (Preserves (Drained nodeId)) where
  users := fun _ _ hdrained => hdrained
  sessions := fun _ _ hdrained => hdrained
  panelOps := fun _ _ hdrained => hdrained
  grants := fun _ _ hdrained => hdrained
  rewards := fun _ _ hdrained => hdrained
  auditLogs := fun _ _ hdrained => hdrained

/-- The panel sync, a penalty and another migration leave a drained node
drained; so does an admin who drains it again or enables another one. -/
theorem respects_drained {op : Operation} (hreference : IsReference op)
    (henables : ¬ Enables nodeId (.operate op)) :
    Respects (Preserves (Drained nodeId)) (op.query cfg now) := by
  cases op with
  | setNodeActive id isActive =>
      apply Respects.get.bind
      intro db
      refine Respects.bind (Respects.modify fun mid hdrained => ?_)
        fun _ => Respects.require _ _
      apply hdrained.updateWhere
      · exact fun _ => rfl
      · intro node hid hselected _
        obtain rfl : node.id = id := beq_iff_eq.mp hselected
        cases isActive with
        | false => rfl
        | true => exact absurd (hid ▸ rfl) henables
  | forceMigrateNode id actor =>
      apply respects_effect
      apply Respects.get.bind
      intro db
      apply (Respects.require _ _).bind
      intro _
      refine Respects.bind (Respects.modify fun mid hdrained => ?_) fun _ => ?_
      · exact hdrained.updateWhere (fun _ => rfl) fun _ _ _ _ => rfl
      · apply (respects_revokeWhere framed_drained _ _).bind
        intro count
        exact (respects_recordInTx framed_drained _ _ _ _).bind
          fun _ => Respects.pure _
  | syncNode panelNodeId panelStatus =>
      apply Respects.modify
      intro mid hdrained
      exact hdrained.updateWhere (fun _ => rfl) fun _ _ _ hinactive => hinactive
  | maintain tables =>
      apply Respects.modify
      exact fun mid hdrained => hdrained
  | _ => exact hreference.elim

theorem drained_step (hstep : step cfg s act = some s')
    (henables : ¬ Enables nodeId act) (hdrained : Drained nodeId s.world.db) :
    Drained nodeId s'.world.db := by
  have hrespects : Preserves (Drained nodeId) s.world.db s'.world.db := by
    apply respects_step framed_drained (fun _ _ _ _ => respects_applyTier
      (fun _ _ hdrained => hdrained) (fun _ _ hdrained => hdrained) _ _) _ _ hstep
    · intro id
      apply Respects.modify
      intro mid hdrained
      exact hdrained.updateWhere (fun _ => rfl) fun _ _ _ hinactive => hinactive
    · intro op hact hreference
      exact respects_drained hreference (hact ▸ henables)
  exact hrespects hdrained

/-- Phase A places its session on an active node. -/
theorem isActive_of_connectTransaction {input : ConnectInput} {plan : Resolved}
    {draw : Draw} {tx : TxResult}
    (hok : connectTransaction cfg now input plan draw db = .ok (tx, after)) :
    ∃ node ∈ db.nodes, node.id = tx.node.nodeId ∧ node.isActive = true := by
  simp only [connectTransaction, bind_ok, get_ok, expect_ok] at hok
  obtain ⟨_, _, ⟨rfl, rfl⟩, usernames, mid, hdisplace, _, _, ⟨rfl, rfl⟩, pick,
    _, ⟨hpick, rfl⟩, sessionId, inserted, -, hrest⟩ := hok
  have hnodes : mid.nodes = db.nodes := by
    rw [(displaceEach_ok hdisplace).2]
  have hnode : tx.node = pick := by
    cases htier : plan.tier with
    | premium =>
        simp only [htier, pure_ok] at hrest
        rw [← hrest.1]
    | free =>
        simp only [htier, bind_ok, pure_ok] at hrest
        obtain ⟨_, _, -, rfl, -⟩ := hrest
        rfl
  rw [pickNode] at hpick
  split at hpick
  · cases hpick
  · next node inbound rest hsorted =>
    have hmem : (node, inbound) ∈ eligibleInbounds plan.tier mid := by
      apply (List.mem_insertionSort (prefers · ·)).mp
      rw [hsorted]
      exact List.mem_cons_self ..
    obtain ⟨other, hother, hinbound⟩ := List.mem_flatMap.mp hmem
    obtain ⟨_, heligible, heq⟩ := List.mem_map.mp hinbound
    obtain ⟨rfl, rfl⟩ := Prod.mk.inj heq
    have hactive := (List.mem_filter.mp heligible).2
    simp only [isEligible, Bool.and_eq_true] at hactive
    refine ⟨other, hnodes ▸ hother, ?_, hactive.1.1.1.1.2⟩
    rw [hnode, ← Option.some.inj hpick]

theorem SessionChange.staysOn {row row' : Session}
    (hchange : SessionChange cfg s act after row row') :
    row'.nodeId = row.nodeId := by
  cases hchange <;> rfl

/-- No step revives a session or places one on a drained node. -/
theorem evacuated_step (hkeyed : Keyed s.world.db)
    (henables : ¬ Enables nodeId act) (hstep : step cfg s act = some s')
    (hevacuated : Evacuated nodeId s) : Evacuated nodeId s' := by
  refine ⟨drained_step hstep henables hevacuated.drained, ?_⟩
  intro row' hrow' hheld
  rcases (step_effects hkeyed hstep).sessions.backward hrow' with
    ⟨row, hrow, hchange⟩ | ⟨added, hadded, hmem⟩
  · apply SessionChange.not_live hchange
    exact hevacuated.empty row hrow ((SessionChange.staysOn hchange).symm.trans hheld)
  · cases hadded with
    | none => simp at hmem
    | phaseA hcommits _ _ =>
        rw [List.mem_singleton] at hmem
        subst hmem
        obtain ⟨node, hnode, hid, hactive⟩ :=
          isActive_of_connectTransaction hcommits.commits
        have hinactive := hevacuated.drained.2 node hnode (hid.trans hheld)
        rw [hactive] at hinactive
        cases hinactive

/-! ## Over runs -/

/-- In every run a forced migration accounts for the sessions it evicts, and
its node stays evacuated as long as no step enables it. -/
theorem evacuation (hinit : IsInitial start)
    (hrun : Run (middleware cfg) start trace last) :
    ∀ before entry between rest, trace = before ++ entry :: (between ++ rest) →
      ∀ nodeId actor evicted db,
        CommitsEvacuation cfg entry nodeId actor evicted db →
        Evicts nodeId evicted entry.1.world.db db ∧
        ((∀ later ∈ between, ¬ Enables nodeId later.2) →
          Always (Evacuated nodeId) between (stateAt rest last)) := by
  intro before entry between rest htrace nodeId actor evicted db hcommits
  subst htrace
  obtain ⟨next, hbefore, hnext, hafter⟩ := hrun.exists_split
  have hkeyed : Keyed entry.1.world.db :=
    hbefore.invariant (keyed_initial hinit)
      fun _ _ _ hkeyed hstep => keyed_step hkeyed hstep
  refine ⟨evicts_of_commits hkeyed.toKeyedSessions hcommits.commits, ?_⟩
  intro hdisabled
  have hdb : next.world.db = db := by
    have hdb := step_db hnext
    simp only [replyOf, hcommits.acts, IdealPanel.Reply.applies, statementOf,
      Operation.query] at hdb
    exact (hdb.trans (withTransaction_effect _ _)).trans
      (by rw [withTransaction_of_ok hcommits.commits])
  have hstart : Evacuated nodeId next :=
    evacuated_of_commits (hdb ▸ hcommits.commits)
  have hboth : Always (fun state => Keyed state.world.db ∧
      Evacuated nodeId state) between (stateAt rest last) := by
    apply @Run.always_of_guard _ _ _ _ _ _ _
      (fun _ act => ¬ Enables nodeId act) hafter.initial
      ⟨keyed_step hkeyed hnext, hstart⟩
    · intro state act after hinv henables hstep
      exact ⟨keyed_step hinv.1 hstep,
        evacuated_step hinv.1 henables hstep hinv.2⟩
    · exact hdisabled
  exact ⟨fun later hlater => (hboth.1 later hlater).2, hboth.2.2⟩

/-- A provisioning session is evicted; then the panel reports its node. -/
theorem evacuation_small : ∃ trace mid last next,
    Run (middleware {}) smallDeployment
      (trace ++ (mid, .operate (.forceMigrateNode 1 {})) ::
        [(last, .operate (.syncNode "1" "connected"))]) next ∧
    Evicts 1 1 mid.world.db last.world.db ∧
    Always (Evacuated 1)
      [(last, Action.operate (.syncNode "1" "connected"))] next := by
  obtain ⟨mid, last, hrun, hstep, hone⟩ := @exists_run_of_execute _ _
    (middleware {}) smallDeployment smallConnect
    (.operate (.forceMigrateNode 1 {}))
    (fun mid _ => (AdminService.forceMigrateNode {} mid.world.clock 1 {}
      mid.world.db).toOption.map Prod.fst = some 1) _ (by decide +kernel)
  obtain ⟨⟨evicted, db⟩, hok, hevicted⟩ := Option.map_eq_some_iff.mp hone
  obtain rfl : evicted = 1 := hevicted
  cases hcommit : AdminService.forceMigrateNode {} mid.world.clock 1 {}
      mid.world.db with
  | error cause => simp [hcommit, Except.toOption] at hok
  | ok outcome =>
      obtain rfl : outcome = (1, db) := by
        simpa [hcommit, Except.toOption] using hok
      have hdb : last.world.db = db := by
        rw [step_operate hstep]
        change (withTransaction (effect (AdminService.forceMigrateNode {}
          mid.world.clock 1 {})) mid.world.db).2 = db
        rw [withTransaction_effect, withTransaction_of_ok hcommit]
      have hsync : (middleware {}).step last
          (.operate (.syncNode "1" "connected")) = some _ := rfl
      have hnext := Run.snoc hrun hsync
      rw [List.append_assoc, List.singleton_append] at hnext
      obtain ⟨hevicts, halways⟩ := evacuation isInitial_smallDeployment hnext _ _
        [(last, .operate (.syncNode "1" "connected"))] [] rfl 1 {} 1 db
        ⟨rfl, hcommit⟩
      refine ⟨_, mid, last, _, hnext, hdb ▸ hevicts, halways ?_⟩
      intro later hlater
      rw [List.mem_singleton] at hlater
      simp [hlater, Enables]

end VpnMiddleware.Evacuation
