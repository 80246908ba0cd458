import VpnMiddleware.Invariants.Processes

/-!
# The fate of a revocation

An outbox row that deletes a panel user stays claimable until the panel has
confirmed the deletion or the drainer has given the row up.  Both events are
steps of the run, so the invariant is about the trace together with the state.
-/

namespace VpnMiddleware.Outbox

open VpnMiddleware.Schema VpnMiddleware.Environment VpnMiddleware.Database
open VpnMiddleware.Table VpnMiddleware.Closing VpnMiddleware.TransitionSystem
open VpnMiddleware.IdealPanel VpnMiddleware.Shared VpnMiddleware.Middleware
open VpnMiddleware.Statements VpnMiddleware.Evolution VpnMiddleware.Keys
open VpnMiddleware.Processes VpnMiddleware.ConnectFlow VpnMiddleware.VerifyFlow
open VpnMiddleware.OutboxDrainer VpnMiddleware.DrainFlow

variable {cfg : Config} {s s' : State} {act : Action}
variable {trace : List (State × Action)}

/-! ## Claimable rows and the two ways out -/

/-- Every claim from `next_attempt_at` on considers the row. -/
def StaysClaimable (op : PanelOp) : Prop :=
  ∀ now, op.nextAttemptAt ≤ now → isDue now op = true

theorem staysClaimable_iff {op : PanelOp} :
    StaysClaimable op ↔ op.status ≠ .succeeded ∧ op.status ≠ .dead := by
  constructor
  · intro hclaimable
    have hdue := hclaimable op.nextAttemptAt (le_refl _)
    cases hstatus : op.status <;> simp [isDue, hstatus] at hdue ⊢
  · rintro ⟨hsucceeded, hdead⟩ now hnow
    cases hstatus : op.status <;> simp [isDue, hstatus, hnow] at hsucceeded hdead ⊢

/-- The outbox row that a step of a drainer works on. -/
def dispatching (entry : State × Action) : Option ℕ :=
  match entry.2 with
  | .drain i _ => entry.1.drains[i]?.map fun proc => proc.row.id
  | _ => none

/-- The last call of a dispatch of the row, or of the inline revoke of its
user, completes without error. -/
structure Completes (cfg : Config) (opId : ℕ) (username : String)
    (entry : State × Action) : Prop where
  deleted : deletedBy cfg entry.1 entry.2 = some username
  row : dispatching entry = some opId ∨ dispatching entry = none

/-- The outbox row that a step marks `dead`: it failed for good or for the
last time. -/
def givenUpBy (cfg : Config) (entry : State × Action) : Option ℕ :=
  match entry.2 with
  | .drain i _ =>
      match entry.1.drains[i]? with
      | some ⟨row, .recordFailed cause, _⟩ =>
          if cause.retryable = false ∨ cfg.maxAttempts ≤ row.attempts then
            some row.id
          else none
      | _ => none
  | _ => none

/-! ## The invariant -/

structure Accounted (cfg : Config) (trace : List (State × Action)) (s : State) :
    Prop where
  attached : Attached s
  completing : ∀ proc ∈ s.drains, proc.stage = .complete →
    proc.row.op = .revokeUser ∨ proc.row.op = .deleteUser →
    ∃ entry ∈ trace,
      Completes cfg proc.row.id proc.row.payload.panelUsername entry
  marking : ∀ provision username rest, .provisioning provision ∈ s.connects →
    provision.stage = .revoke .mark username rest →
    ∃ entry ∈ trace, deletedBy cfg entry.1 entry.2 = some username ∧
      dispatching entry = none
  succeeded : ∀ op ∈ s.world.db.panelOps, ∀ username, Reclaims username op →
    op.status = .succeeded → ∃ entry ∈ trace, Completes cfg op.id username entry
  dead : ∀ op ∈ s.world.db.panelOps, op.status = .dead →
    ∃ entry ∈ trace, givenUpBy cfg entry = some op.id

theorem accounted_initial (hinit : IsInitial s) : Accounted cfg [] s where
  attached := attached_initial hinit
  completing := by simp [hinit.drains]
  marking := by simp [hinit.connects]
  succeeded := by simp [hinit.panelOps]
  dead := by simp [hinit.panelOps]

/-- Events of the past stay in the trace. -/
private theorem exists_append {P : State × Action → Prop}
    (hexists : ∃ entry ∈ trace, P entry) :
    ∃ entry ∈ trace ++ [(s, act)], P entry := by
  obtain ⟨entry, hentry, hp⟩ := hexists
  exact ⟨entry, List.mem_append_left _ hentry, hp⟩

private theorem exists_last {P : State × Action → Prop} (hlast : P (s, act)) :
    ∃ entry ∈ trace ++ [(s, act)], P entry :=
  ⟨(s, act), List.mem_append_right _ (List.mem_singleton_self _), hlast⟩

section Step

variable (hacc : Accounted cfg trace s) (hstep : step cfg s act = some s')
include hacc hstep

theorem completing_step (proc : DrainProc) (hmem : proc ∈ s'.drains)
    (hstage : proc.stage = .complete)
    (hop : proc.row.op = .revokeUser ∨ proc.row.op = .deleteUser) :
    ∃ entry ∈ trace ++ [(s, act)],
      Completes cfg proc.row.id proc.row.payload.panelUsername entry := by
  rcases complete_backward hstep hmem hstage hop with
    hold | ⟨hdeleted, i, reply, old, rfl, hproc, hrow⟩
  · exact exists_append (hacc.completing proc hold hstage hop)
  · exact exists_last ⟨hdeleted, Or.inl (by simp [dispatching, hproc, hrow])⟩

theorem marking_step (provision : Provision) (username : String)
    (rest : List String) (hmem : .provisioning provision ∈ s'.connects)
    (hstage : provision.stage = .revoke .mark username rest) :
    ∃ entry ∈ trace ++ [(s, act)], deletedBy cfg entry.1 entry.2 = some username ∧
      dispatching entry = none := by
  rcases mark_backward hstep hmem hstage with
    hold | ⟨hdeleted, i, draw, reply, old, rfl, -, -⟩
  · exact exists_append (hacc.marking provision username rest hold hstage)
  · exact exists_last ⟨hdeleted, rfl⟩

theorem succeeded_step (op' : PanelOp) (hmem : op' ∈ s'.world.db.panelOps)
    (username : String) (hreclaims : Reclaims username op')
    (hstatus : op'.status = .succeeded) :
    ∃ entry ∈ trace ++ [(s, act)], Completes cfg op'.id username entry := by
  have hkeyed := hacc.attached.keyed
  rcases (step_effects hkeyed hstep).panelOps.backward hmem with
    ⟨op, hop, hchange⟩ | ⟨added, hadded, hnew⟩
  · cases hchange with
    | same => exact exists_append (hacc.succeeded op' hop username hreclaims hstatus)
    | leased _ => simp [lease] at hstatus
    | @completed i reply proc _ hproc hstage hid _ =>
        have hdrain := List.mem_of_getElem? hproc
        obtain ⟨other, hother, hotherId, hkind, hpayload⟩ :=
          hacc.attached.drains proc hdrain proc.row (List.mem_cons_self ..)
        obtain rfl := hkeyed.eq_of_opId hother hop (hotherId.trans hid.symm)
        have hentry := hacc.completing proc hdrain hstage
          (hkind ▸ hreclaims.1)
        rw [← hid, ← hpayload] at hentry
        exact exists_append (hreclaims.2 ▸ hentry)
    | @marked i draw reply provision rest _ hproc hstage _ _ =>
        obtain ⟨entry, hentry, hdeleted, hrow⟩ := hacc.marking provision _ rest
          (List.mem_of_getElem? hproc) hstage
        exact exists_append ⟨entry, hentry, hreclaims.2 ▸ hdeleted, Or.inr hrow⟩
    | @pushed i reply proc ext _ hproc hstage hid =>
        obtain ⟨other, hother, hotherId, hkind, -⟩ := ((hacc.attached.verifies
          proc (List.mem_of_getElem? hproc)).extension ext
            (by rw [hstage]; rfl)).op
        obtain rfl := hkeyed.eq_of_opId hother hop (hotherId.trans hid.symm)
        rcases hreclaims.1 with hrevoke | hdelete
        · simp [hkind] at hrevoke
        · simp [hkind] at hdelete
    | pushFailed _ _ _ => simp at hstatus
    | @dispatchFailed i reply proc _ cause _ _ _ _ =>
        by_cases hdead : isDead cfg proc.row cause = true <;>
          simp [hdead] at hstatus
  · exact absurd hstatus (hadded.pending hnew ▸ by simp)

theorem dead_step (op' : PanelOp) (hmem : op' ∈ s'.world.db.panelOps)
    (hstatus : op'.status = .dead) :
    ∃ entry ∈ trace ++ [(s, act)], givenUpBy cfg entry = some op'.id := by
  rcases (step_effects hacc.attached.keyed hstep).panelOps.backward hmem with
    ⟨op, hop, hchange⟩ | ⟨added, hadded, hnew⟩
  · cases hchange with
    | same => exact exists_append (hacc.dead op' hop hstatus)
    | leased _ => simp [lease] at hstatus
    | completed _ _ _ _ => simp at hstatus
    | marked _ _ _ _ => simp at hstatus
    | pushed _ _ _ => simp at hstatus
    | pushFailed _ _ _ => simp at hstatus
    | @dispatchFailed i reply proc _ cause hproc hstage hid _ =>
        have hdead : isDead cfg proc.row cause = true := by
          by_contra hretry
          simp [hretry] at hstatus
        obtain ⟨row, stage, queue⟩ := proc
        subst hstage
        apply exists_last
        simp only [isDead, Bool.or_eq_true, Bool.not_eq_true',
          decide_eq_true_eq] at hdead
        simp only [givenUpBy, hproc, if_pos hdead, hid]
  · exact absurd hstatus (hadded.pending hnew ▸ by simp)

theorem accounted_step : Accounted cfg (trace ++ [(s, act)]) s' where
  attached := attached_step hacc.attached hstep
  completing := completing_step hacc hstep
  marking := marking_step hacc hstep
  succeeded := succeeded_step hacc hstep
  dead := dead_step hacc hstep

end Step

/-! ## Over runs -/

/-- Outbox rows are never deleted. -/
def KeepsOps (before after : State) : Prop :=
  ∀ op ∈ before.world.db.panelOps, ∃ op' ∈ after.world.db.panelOps, SameOp op op'

theorem KeepsOps.trans {first mid next : State} (hfirst : KeepsOps first mid)
    (hsecond : KeepsOps mid next) : KeepsOps first next := by
  intro op hop
  obtain ⟨op', hop', hsame⟩ := hfirst op hop
  obtain ⟨op'', hop'', hsame'⟩ := hsecond op' hop'
  exact ⟨op'', hop'', hsame'.id.trans hsame.id, hsame'.kind.trans hsame.kind,
    hsame'.payload.trans hsame.payload, hsame'.sessionId.trans hsame.sessionId⟩

/-- A revocation is claimable, or its deletion has been confirmed, or the
drainer has given it up. -/
def Revokes (cfg : Config) (trace : List (State × Action)) (op : PanelOp) :
    Prop :=
  StaysClaimable op ∨
    (∃ entry ∈ trace,
      Completes cfg op.id op.payload.panelUsername entry) ∨
    ∃ entry ∈ trace, givenUpBy cfg entry = some op.id

theorem revokes_of_accounted (hacc : Accounted cfg trace s) {op : PanelOp}
    (hop : op ∈ s.world.db.panelOps)
    (hreclaims : Reclaims op.payload.panelUsername op) : Revokes cfg trace op := by
  by_cases hsucceeded : op.status = .succeeded
  · exact Or.inr (Or.inl (hacc.succeeded op hop _ hreclaims hsucceeded))
  · by_cases hdead : op.status = .dead
    · exact Or.inr (Or.inr (hacc.dead op hop hdead))
    · exact Or.inl (staysClaimable_iff.mpr ⟨hsucceeded, hdead⟩)

/-- Whatever fails, a revocation is kept and stays claimable until the panel
has confirmed the deletion or the drainer has given the row up. -/
theorem revocation_kept {start last : State} {trace : List (State × Action)}
    (hinit : IsInitial start) (hrun : Run (middleware cfg) start trace last) :
    (∀ entry ∈ trace, KeepsOps entry.1 last) ∧
    (∀ op ∈ last.world.db.panelOps, Reclaims op.payload.panelUsername op →
      Revokes cfg trace op) ∧
    ∀ row ∈ last.world.db.sessions, row.status.isLive = false →
      (∃ op ∈ last.world.db.panelOps, Reclaims row.panelUsername op) →
      ∃ op ∈ last.world.db.panelOps, Reclaims row.panelUsername op ∧
        Revokes cfg trace op := by
  have hacc : Accounted cfg trace last :=
    hrun.induction_on (accounted_initial hinit)
      fun _ _ _ _ hacc hstep => accounted_step hacc hstep
  have hkeeps : ∀ entry ∈ trace, KeepsOps entry.1 last :=
    @Run.relates_last _ _ (middleware cfg) start last trace Attached
      (fun _ _ => True) KeepsOps hrun (attached_initial hinit)
      (fun _ _ _ hattached _ hstep => attached_step hattached hstep)
      (fun _ _ _ hfirst hsecond => hfirst.trans hsecond)
      (fun _ _ _ hattached _ hstep => (grows_step hattached.keyed hstep).panelOps)
      fun _ _ => trivial
  refine ⟨hkeeps, fun op hop hself => revokes_of_accounted hacc hop hself, ?_⟩
  rintro row - - ⟨op, hop, hreclaims⟩
  have hself : Reclaims op.payload.panelUsername op := ⟨hreclaims.1, rfl⟩
  exact ⟨op, hop, hreclaims, revokes_of_accounted hacc hop hself⟩

/-- The user of a kicked session is created; the panel refuses its deletion. -/
def refusedRevocation : List Action :=
  smallConnect ++
    [.connect 0 smallDraw .ok, .operate (.kickSession 1), .claim [],
      .drain 0 (.fail false (.panel {
        message := "forbidden"
        status := some 403
        retryable := false })),
      .drain 0 .ok]

theorem revocation_kept_refused : ∃ trace last,
    Run (middleware {}) smallDeployment trace last ∧ trace.length = 8 ∧
    (∀ entry ∈ trace, KeepsOps entry.1 last) ∧
    ∀ op ∈ last.world.db.panelOps, Reclaims op.payload.panelUsername op →
      Revokes {} trace op := by
  obtain ⟨last, hrun⟩ := @exists_run_of_isSome _ _ (middleware {})
    smallDeployment refusedRevocation (by decide +kernel)
  obtain ⟨hkeeps, hrevokes, -⟩ := revocation_kept isInitial_smallDeployment hrun
  exact ⟨_, last, hrun, by decide +kernel, hkeeps, hrevokes⟩

/-- Nothing is claimable for the revoked session, no deletion has been
confirmed, and its panel user may still connect. -/
theorem refused_revocation_abandoned : IsInitial smallDeployment ∧
    ∃ trace last, Run (middleware {}) smallDeployment trace last ∧
      (∀ entry ∈ trace, deletedBy {} entry.1 entry.2 = none) ∧
      ∃ row ∈ last.world.db.sessions, row.status = .revoked ∧
        (∃ account, last.world.panel row.panelUsername = some account ∧
          account.enabled = true) ∧
        ∀ op ∈ last.world.db.panelOps, ¬ StaysClaimable op := by
  obtain ⟨last, hrun, row, hrow, hstatus, haccount, hdead⟩ := @exists_run_with
    _ _ (middleware {}) smallDeployment refusedRevocation
    (fun last => ∃ row ∈ last.world.db.sessions, row.status = .revoked ∧
      (last.world.panel row.panelUsername).any Account.enabled = true ∧
      ∀ op ∈ last.world.db.panelOps, op.status = .dead) _ (by decide +kernel)
  refine ⟨isInitial_smallDeployment, _, last, hrun, by decide +kernel, row,
    hrow, hstatus, (Option.any_eq_true _ _).mp haccount,
    fun op hop hclaimable => ?_⟩
  exact (staysClaimable_iff.mp hclaimable).2 (hdead op hop)

end VpnMiddleware.Outbox
