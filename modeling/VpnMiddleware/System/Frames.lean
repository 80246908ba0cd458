import VpnMiddleware.Core.Frame
import VpnMiddleware.System.Statements

/-!
# Frames of the statements

A relation that holds across a write to any of the tables that connects,
rewards and the outbox work on is respected by their statements.  The changes of
a tier and the operations on nodes and on the reference tables are left to the
relation at hand.
-/

namespace VpnMiddleware.Frames

open VpnMiddleware.Schema VpnMiddleware.Environment VpnMiddleware.Database
open VpnMiddleware.Transaction VpnMiddleware.Frame VpnMiddleware.Table
open VpnMiddleware.Middleware VpnMiddleware.Statements
open VpnMiddleware.ConnectionService VpnMiddleware.ConnectFlow
open VpnMiddleware.AdsService VpnMiddleware.VerifyFlow VpnMiddleware.DrainFlow
open VpnMiddleware.AdminService VpnMiddleware.OutboxDrainer

/-- Writes to these tables are of no account to the relation. -/
structure Framed (Rel : Db → Db → Prop) : Prop where
  users : ∀ db rows, Rel db { db with users := rows }
  sessions : ∀ db rows, Rel db { db with sessions := rows }
  panelOps : ∀ db rows, Rel db { db with panelOps := rows }
  grants : ∀ db rows, Rel db { db with grants := rows }
  rewards : ∀ db rows, Rel db { db with rewards := rows }
  auditLogs : ∀ db rows, Rel db { db with auditLogs := rows }

variable {Rel : Db → Db → Prop} {Result : Type}
variable {cfg : Config} {now : ℕ}

theorem respects_effect [IsPreorder Db Rel] {query : Query Result}
    (hquery : Respects Rel query) : Respects Rel (effect query) :=
  hquery.bind fun _ => Respects.pure _

section Writes

variable (hframed : Framed Rel)
include hframed

/-! ## Single writes -/

theorem respects_updateSessions (selected : Session → Bool)
    (change : Session → Session) :
    Respects Rel (updateSessions selected change) :=
  Respects.modify fun db => hframed.sessions db _

theorem respects_updatePanelOps (selected : PanelOp → Bool)
    (change : PanelOp → PanelOp) :
    Respects Rel (updatePanelOps selected change) :=
  Respects.modify fun db => hframed.panelOps db _

theorem respects_updateGrant (id : ℕ) (change : Grant → Grant) :
    Respects Rel (updateGrant id change) :=
  Respects.modify fun db => hframed.grants db _

theorem respects_verifyStatement {proc : VerifyProc} {query : Query Unit}
    (hstatement : verifyStatement now proc = some query) :
    Respects Rel query := by
  rw [verifyStatement] at hstatement
  split at hstatement <;> cases hstatement
  · exact respects_updatePanelOps hframed _ _
  · exact respects_updateSessions hframed _ _
  · exact respects_updatePanelOps hframed _ _

theorem respects_drainStatement {proc : DrainProc} {query : Query Unit}
    (hstatement : drainStatement cfg now proc = some query) :
    Respects Rel query := by
  rw [drainStatement] at hstatement
  split at hstatement <;> cases hstatement
  · exact respects_updatePanelOps hframed _ _
  · exact respects_updateSessions hframed _ _
  · exact respects_updatePanelOps hframed _ _

variable [IsPreorder Db Rel]

theorem respects_enqueue (sessionId : ℕ) (op : PanelOpKind)
    (payload : PanelOpPayload) :
    Respects Rel (enqueue now sessionId op payload) := by
  apply Respects.get.bind
  intro db
  apply (Respects.modify fun db => hframed.panelOps db _).bind
  exact fun _ => Respects.pure _

theorem respects_enqueueEach (op : PanelOpKind) (rows : List Session) :
    Respects Rel (enqueueEach now op rows) := by
  induction rows with
  | nil => exact Respects.pure _
  | cons row rows ih =>
      exact (respects_enqueue hframed _ _ _).bind fun _ => ih

theorem respects_insertSession (id : ℕ) (values : NewSession) :
    Respects Rel (insertSession now id values) := by
  apply Respects.get.bind
  intro db
  apply (Respects.expect _ _).bind
  intro credentialRef
  iterate 6
    apply (Respects.require _ _).bind
    intro _
  apply (Respects.modify fun db => hframed.sessions db _).bind
  exact fun _ => Respects.pure _

theorem respects_insertGrant (grant : Grant) :
    Respects Rel (insertGrant grant) := by
  apply Respects.get.bind
  intro db
  iterate 6
    apply (Respects.require _ _).bind
    intro _
  apply (Respects.modify fun db => hframed.grants db _).bind
  exact fun _ => Respects.pure _

theorem respects_recordInTx (actor : AdminActor)
    (actionType : AdminActionType) (targetId : Option ℕ) (details : ℕ) :
    Respects Rel (recordInTx cfg now actor actionType targetId details) := by
  apply Respects.get.bind
  intro db
  iterate 2
    apply (Respects.require _ _).bind
    intro _
  exact Respects.modify fun db => hframed.auditLogs db _

theorem respects_revokeWhere (selected : Session → Bool) (reason : String) :
    Respects Rel (revokeWhere now selected reason) := by
  apply Respects.get.bind
  intro db
  apply (respects_updateSessions hframed _ _).bind
  intro _
  apply (respects_enqueueEach hframed _ _).bind
  exact fun _ => Respects.pure _

/-! ## Connects -/

theorem respects_displaceEach (rows : List Session) :
    Respects Rel (displaceEach now rows) := by
  induction rows with
  | nil => exact Respects.pure _
  | cons row rows ih =>
      apply (respects_updateSessions hframed _ _).bind
      intro _
      apply (respects_enqueue hframed _ _ _).bind
      intro _
      exact ih.bind fun _ => Respects.pure _

theorem respects_connectTransaction (input : ConnectInput) (plan : Resolved)
    (draw : Draw) : Respects Rel (connectTransaction cfg now input plan draw) := by
  apply Respects.get.bind
  intro db
  apply (respects_displaceEach hframed _).bind
  intro usernames
  apply Respects.get.bind
  intro mid
  apply (Respects.expect _ _).bind
  intro node
  apply (respects_insertSession hframed _ _).bind
  intro sessionId
  cases plan.tier with
  | free => exact (respects_insertGrant hframed _).bind fun _ => Respects.pure _
  | premium => exact Respects.pure _

theorem respects_provisionStatement {provision : Provision} {query : Query Unit}
    (hpenalize : ∀ nodeId, Respects Rel (failSessionPenalize nodeId))
    (hstatement : provisionStatement cfg now provision = some query) :
    Respects Rel query := by
  rw [provisionStatement] at hstatement
  split at hstatement <;> cases hstatement
  · exact respects_updatePanelOps hframed _ _
  · exact respects_updateSessions hframed _ _
  · exact (respects_enqueue hframed _ _ _).bind fun _ => Respects.pure _
  · exact hpenalize _
  · exact respects_updateSessions hframed _ _
  · apply respects_effect
    apply Respects.get.bind
    intro db
    exact (Respects.expect _ _).bind fun _ => Respects.lift _

/-! ## Rewards -/

theorem respects_requestAdToken (userId deviceId : ℕ) (purpose : AdGrantPurpose)
    (sessionId : Option ℕ) (grantId : ℕ) (bytes : Random.Bytes) :
    Respects Rel (AdsService.requestAdToken cfg now userId deviceId purpose
      sessionId grantId bytes) :=
  (respects_insertGrant hframed _).bind fun _ => Respects.pure _

theorem respects_recordVerifiedReward (reward : AdMobReward) :
    Respects Rel (recordVerifiedReward now reward) := by
  rw [recordVerifiedReward]
  split
  · exact Respects.pure _
  · apply (Respects.require _ _).bind
    intro _
    apply Respects.get.bind
    intro db
    apply (Respects.expect _ _).bind
    intro grant
    iterate 2
      apply (Respects.require _ _).bind
      intro _
    dsimp only
    split
    · exact Respects.pure _
    · apply (Respects.modify fun db => hframed.rewards db _).bind
      intro _
      split
      · exact (respects_updateGrant hframed _ _).bind fun _ => Respects.pure _
      · exact Respects.pure _

theorem respects_claimGrant (userId sessionId : ℕ) (grant : Grant) :
    Respects Rel (claimGrant cfg now userId sessionId grant) := by
  apply (Respects.require _ _).bind
  intro _
  apply Respects.get.bind
  intro db
  apply (Respects.expect _ _).bind
  intro session
  iterate 3
    apply (Respects.require _ _).bind
    intro _
  apply (respects_updateGrant hframed _ _).bind
  intro _
  split
  · apply (respects_updateSessions hframed _ _).bind
    intro _
    exact (respects_enqueue hframed _ _ _).bind fun _ => Respects.pure _
  · exact Respects.pure _

theorem respects_verifyTransaction (userId grantId sessionId : ℕ) :
    Respects Rel (verifyTransaction cfg now userId grantId sessionId) := by
  apply Respects.get.bind
  intro db
  apply (Respects.expect _ _).bind
  intro grant
  iterate 2
    apply (Respects.require _ _).bind
    intro _
  split
  · apply Respects.get.bind
    intro mid
    exact (Respects.expect _ _).bind fun _ => Respects.pure _
  · split
    · exact (respects_updateGrant hframed _ _).bind fun _ => Respects.throw _
    · exact respects_claimGrant hframed _ _ _

/-! ## Administration and the reaper -/

theorem respects_kickSession (sessionId : ℕ) :
    Respects Rel (AdminService.kickSession now sessionId) := by
  apply Respects.get.bind
  intro db
  apply (Respects.expect _ _).bind
  intro row
  split
  · exact (respects_updateSessions hframed _ _).bind fun _ =>
      respects_enqueueEach hframed _ _
  · exact Respects.pure _

theorem respects_panicRevokeFreeSessions (actor : AdminActor) :
    Respects Rel (AdminService.panicRevokeFreeSessions cfg now actor) := by
  apply (respects_revokeWhere hframed _ _).bind
  intro revoked
  exact (respects_recordInTx hframed _ _ _ _).bind fun _ => Respects.pure _

theorem respects_applyBan (userId : ℕ) (isBanned : Option Bool)
    (actor : AdminActor) :
    Respects Rel (applyBan cfg now userId isBanned actor) := by
  simp only [applyBan]
  split
  · exact Respects.pure _
  · exact (Respects.modify fun db => hframed.users db _).bind fun _ =>
      Respects.pure _
  · apply (Respects.modify fun db => hframed.users db _).bind
    intro _
    apply (respects_revokeWhere hframed _ _).bind
    intro revoked
    exact (respects_recordInTx hframed _ _ _ _).bind fun _ => Respects.pure _

theorem respects_mutateUser {userId : ℕ} {changes : UserChanges}
    (htier : Respects Rel (applyTier cfg now userId changes))
    (actor : AdminActor) :
    Respects Rel (AdminService.mutateUser cfg now userId changes actor) := by
  apply Respects.get.bind
  intro db
  apply (Respects.require _ _).bind
  intro _
  apply (respects_applyBan hframed _ _ _).bind
  intro revoked
  exact htier.bind fun _ => Respects.pure _

theorem respects_sweepOnce (locked : List ℕ) :
    Respects Rel (OutboxDrainer.sweepOnce cfg now locked) := by
  apply Respects.get.bind
  intro db
  apply (respects_updateSessions hframed _ _).bind
  intro _
  exact (respects_enqueueEach hframed _ _).bind fun _ => Respects.pure _

/-- The operations that may write to nodes or reference tables. -/
def IsReference : Operation → Prop
  | .setNodeActive _ _ | .forceMigrateNode _ _ | .syncNode _ _ | .maintain _ =>
      True
  | _ => False

theorem respects_operation {op : Operation} (hop : ¬ IsReference op)
    (htier : ∀ userId changes actor, op = .mutateUser userId changes actor →
      Respects Rel (applyTier cfg now userId changes)) :
    Respects Rel (op.query cfg now) := by
  cases op with
  | requestAdToken _ _ _ _ _ _ =>
      exact respects_effect (respects_requestAdToken hframed _ _ _ _ _ _)
  | admobSsv _ => exact respects_effect (respects_recordVerifiedReward hframed _)
  | sweepOnce _ => exact respects_effect (respects_sweepOnce hframed _)
  | kickSession _ => exact respects_kickSession hframed _
  | mutateUser _ _ _ =>
      exact respects_effect (respects_mutateUser hframed (htier _ _ _ rfl) _)
  | panicRevokeFreeSessions _ =>
      exact respects_effect (respects_panicRevokeFreeSessions hframed _)
  | _ => exact absurd trivial hop

/-! ## Every statement -/

/-- A step respects the relation if the changes of a tier and the operations on
nodes and reference tables do. -/
theorem respects_step {s s' : State} {act : Action}
    (htier : ∀ userId changes actor,
      act = .operate (.mutateUser userId changes actor) →
        Respects Rel (applyTier cfg s.world.clock userId changes))
    (hpenalize : ∀ nodeId, Respects Rel (failSessionPenalize nodeId))
    (hreference : ∀ op, act = .operate op → IsReference op →
      Respects Rel (op.query cfg s.world.clock))
    (hstep : step cfg s act = some s') : Rel s.world.db s'.world.db := by
  rcases step_commits hstep with hsame | ⟨-, query, done, hstatement, hrun⟩
  · rw [hsame]
    exact refl _
  · have hrespects : Respects Rel query := by
      cases act with
      | operate op =>
          cases hstatement
          by_cases hop : IsReference op
          · exact hreference op rfl hop
          · exact respects_operation hframed hop fun userId changes actor hop =>
              htier userId changes actor (congrArg Action.operate hop)
      | connect i draw reply =>
          obtain ⟨proc, -, hstatement⟩ := Option.bind_eq_some_iff.mp hstatement
          cases proc with
          | admitted input => cases hstatement
          | resolved input plan =>
              cases hstatement
              exact respects_effect (respects_connectTransaction hframed _ _ _)
          | provisioning provision =>
              exact respects_provisionStatement hframed hpenalize hstatement
      | verifyAdReward input =>
          cases hstatement
          exact respects_effect (respects_verifyTransaction hframed _ _ _)
      | verify i reply =>
          obtain ⟨proc, -, hstatement⟩ := Option.bind_eq_some_iff.mp hstatement
          exact respects_verifyStatement hframed hstatement
      | claim locked =>
          cases hstatement
          apply respects_effect
          apply Respects.get.bind
          intro db
          exact (respects_updatePanelOps hframed _ _).bind fun _ =>
            Respects.pure _
      | drain i reply =>
          obtain ⟨proc, -, hstatement⟩ := Option.bind_eq_some_iff.mp hstatement
          exact respects_drainStatement hframed hstatement
      | _ => cases hstatement
    exact hrespects.holds hrun

/-! ## Relations that nodes are of no account to, either -/

section Nodes

variable (hnodes : ∀ db rows, Rel db { db with nodes := rows })
include hnodes

theorem respects_reference {op : Operation} (hreference : IsReference op)
    (hmaintain : ∀ tables, op ≠ .maintain tables) :
    Respects Rel (op.query cfg now) := by
  cases op with
  | setNodeActive id isActive =>
      apply Respects.get.bind
      intro db
      apply (Respects.modify fun db => hnodes db _).bind
      exact fun _ => Respects.require _ _
  | forceMigrateNode id actor =>
      apply respects_effect
      apply Respects.get.bind
      intro db
      apply (Respects.require _ _).bind
      intro _
      apply (Respects.modify fun db => hnodes db _).bind
      intro _
      apply (respects_revokeWhere hframed _ _).bind
      intro evicted
      exact (respects_recordInTx hframed _ _ _ _).bind fun _ => Respects.pure _
  | syncNode panelNodeId panelStatus =>
      exact Respects.modify fun db => hnodes db _
  | maintain tables => exact absurd rfl (hmaintain tables)
  | _ => exact hreference.elim

/-- A step respects the relation unless it maintains the reference tables. -/
theorem respects_step_of_nodes {s s' : State} {act : Action}
    (htier : ∀ userId changes actor,
      act = .operate (.mutateUser userId changes actor) →
        Respects Rel (applyTier cfg s.world.clock userId changes))
    (hmaintain : ∀ tables, act ≠ .operate (.maintain tables))
    (hstep : step cfg s act = some s') : Rel s.world.db s'.world.db := by
  apply respects_step hframed htier _ _ hstep
  · exact fun _ => Respects.modify fun db => hnodes db _
  · rintro op rfl hreference
    apply respects_reference hframed hnodes hreference
    rintro tables rfl
    exact hmaintain tables rfl

end Nodes

end Writes

/-! ## Relations that subscriptions are of no account to, either -/

section Tiers

variable [IsPreorder Db Rel]
variable (hplans : ∀ db rows, Rel db { db with plans := rows })
variable (hsubscriptions : ∀ db rows, Rel db { db with subscriptions := rows })
include hplans hsubscriptions

theorem respects_grantInternalPremium (userId : ℕ) (changes : UserChanges) :
    Respects Rel (grantInternalPremium cfg now userId changes) := by
  have hplan : ∀ db rows, Rel db
      (if (db.plans.any fun plan => plan.code == adminGrantCode) = true then db
        else { db with plans := rows }) := by
    intro db rows
    split
    · exact refl db
    · exact hplans db rows
  apply (Respects.modify fun db => hplan db _).bind
  intro _
  apply Respects.get.bind
  intro db
  apply (Respects.expect _ _).bind
  intro plan
  apply Respects.modify
  intro mid
  split
  · exact hsubscriptions mid _
  · exact hsubscriptions mid _

theorem respects_applyTier (userId : ℕ) (changes : UserChanges) :
    Respects Rel (applyTier cfg now userId changes) := by
  rw [applyTier]
  split
  · exact respects_grantInternalPremium hplans hsubscriptions _ _
  · exact Respects.modify fun db => hsubscriptions db _
  · exact Respects.pure _

end Tiers

end VpnMiddleware.Frames
