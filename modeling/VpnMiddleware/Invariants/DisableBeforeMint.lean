import VpnMiddleware.Core.Counting
import VpnMiddleware.Invariants.Entitlement
import VpnMiddleware.Invariants.PanelMirror

/-!
# Displaced sessions and the new panel user

A connect calls `disableUser` for every session that it displaced before it
calls `createUser`, but a failed call does not stop it.  The database holds the
account to its limit; an enabled panel user beyond it belongs to a closed
session, and this module says how that can have come about.
-/

namespace VpnMiddleware.DisableBeforeMint

open VpnMiddleware.Schema VpnMiddleware.Environment VpnMiddleware.Database
open VpnMiddleware.Transaction VpnMiddleware.Table VpnMiddleware.Counting
open VpnMiddleware.Closing VpnMiddleware.TransitionSystem
open VpnMiddleware.IdealPanel VpnMiddleware.Shared VpnMiddleware.Middleware
open VpnMiddleware.Statements VpnMiddleware.Evolution VpnMiddleware.Keys
open VpnMiddleware.Processes VpnMiddleware.ConnectionService
open VpnMiddleware.ConnectFlow VpnMiddleware.Entitlement
open VpnMiddleware.PanelMirror

variable {cfg : Config} {s s' start last : State} {act : Action}
variable {trace : List (State × Action)} {userId : ℕ} {username : String}

/-! ## Live sessions and the limit -/

def isLiveOf (userId : ℕ) (row : Session) : Bool :=
  row.userId == userId && row.status.isLive

def liveCount (userId : ℕ) (s : State) : ℕ :=
  s.world.db.sessions.countP (isLiveOf userId)

/-- The limit of the user's last connect that committed: room for the new
session is made in any case. -/
def lastLimit (cfg : Config) (trace : List (State × Action)) (userId : ℕ) : ℕ :=
  match (trace.filterMap fun entry => committedWith cfg entry.1 entry.2)
      |>.reverse.find? fun commit => commit.1.userId == userId with
  | some commit => max 1 commit.2.maxConcurrent
  | none => 0

theorem lastLimit_append :
    lastLimit cfg (trace ++ [(s, act)]) userId =
      match committedWith cfg s act with
      | some commit =>
          if commit.1.userId = userId then max 1 commit.2.maxConcurrent
          else lastLimit cfg trace userId
      | none => lastLimit cfg trace userId := by
  simp only [lastLimit]
  cases hcommit : committedWith cfg s act with
  | none => simp [List.filterMap_append, hcommit]
  | some commit =>
      by_cases huser : commit.1.userId = userId
      · simp [List.filterMap_append, hcommit, huser]
      · simp [List.filterMap_append, hcommit, huser]

theorem length_liveSessions (sessions : List Session) :
    (liveSessions userId sessions).length = sessions.countP (isLiveOf userId) := by
  rw [liveSessions, List.length_insertionSort, ← List.countP_eq_length_filter]
  rfl

theorem nodup_displaced {limit : ℕ} {sessions : List Session}
    (hnodup : (sessions.map Session.id).Nodup) :
    (displaced limit (liveSessions userId sessions)).Nodup := by
  have hlive : (liveSessions userId sessions).Nodup := by
    rw [liveSessions, (List.perm_insertionSort _ _).nodup_iff]
    exact (List.Nodup.of_map _ hnodup).filter _
  rw [displaced]
  split
  · exact (List.take_sublist _ _).nodup hlive
  · exact List.nodup_nil

/-- Phase A makes room for the new session. -/
theorem length_displaced {limit : ℕ} {live : List Session} :
    live.length + 1 ≤ max 1 limit + (displaced limit live).length := by
  rw [displaced]
  split
  · rw [List.length_take]
    omega
  · simp only [List.length_nil]
    omega

/-- What Phase A does to the sessions and to the outbox. -/
theorem sessions_of_connectTransaction {now : ℕ} {input : ConnectInput}
    {plan : Resolved} {draw : Draw} {tx : TxResult} {db after : Db}
    (hok : connectTransaction cfg now input plan draw db = .ok (tx, after)) :
    tx.revokeUsernames = (displaced plan.maxConcurrent
      (liveSessions input.userId db.sessions)).map Session.panelUsername ∧
    after.panelOps = db.panelOps ++ queuedOps now .revokeUser
      db.panelOps.length (displaced plan.maxConcurrent
        (liveSessions input.userId db.sessions)) ∧
    ∃ credentialRef, after.sessions = updateWhere
      (isNamedBy Session.id (displaced plan.maxConcurrent
        (liveSessions input.userId db.sessions)))
      (closeRow now .revoked "concurrency") db.sessions ++
        [insertedRow now input plan tx.node draw credentialRef] := by
  simp only [connectTransaction, bind_ok, get_ok, expect_ok] at hok
  obtain ⟨_, _, ⟨rfl, rfl⟩, usernames, mid, hdisplace, _, _, ⟨rfl, rfl⟩, node,
    _, ⟨-, rfl⟩, sessionId, inserted, hinsert, hrest⟩ := hok
  obtain ⟨husernames, hmid⟩ := displaceEach_ok hdisplace
  obtain ⟨credentialRef, -, -, -, -, rfl⟩ := insertSession_ok hinsert
  cases htier : plan.tier with
  | premium =>
      simp only [htier, pure_ok] at hrest
      obtain ⟨rfl, rfl⟩ := hrest
      exact ⟨husernames, by rw [hmid], credentialRef, by rw [hmid]; rfl⟩
  | free =>
      simp only [htier, bind_ok, pure_ok] at hrest
      obtain ⟨_, _, hgrant, rfl, rfl⟩ := hrest
      obtain ⟨-, -, rfl⟩ := insertGrant_ok hgrant
      exact ⟨husernames, by rw [hmid], credentialRef, by rw [hmid]; rfl⟩

/-- The account is within its limit when Phase A has committed. -/
theorem liveCount_of_commit {input : ConnectInput} {plan : Resolved}
    {draw : Draw} {tx : TxResult} (hkeyed : Keyed s.world.db)
    (hcommits : CommitsPhaseA cfg s act s'.world.db input plan draw tx) :
    liveCount input.userId s' ≤ max 1 plan.maxConcurrent := by
  obtain ⟨-, -, credentialRef, hsessions⟩ :=
    sessions_of_connectTransaction hcommits.commits
  have hclosed := @countP_updateWhere_named _ _ _ Session.id
    (isLiveOf input.userId) (closeRow s.world.clock .revoked "concurrency")
    s.world.db.sessions (displaced plan.maxConcurrent
      (liveSessions input.userId s.world.db.sessions))
    (nodup_displaced hkeyed.ids)
    (fun row hrow => by
      obtain ⟨hmem, huser, hlive⟩ := mem_liveSessions (mem_displaced hrow)
      exact ⟨hmem, by simp [isLiveOf, huser, hlive]⟩)
    (fun row => by simp [isLiveOf, closeRow, SessionStatus.isLive])
  have hroom := @length_displaced plan.maxConcurrent
    (liveSessions input.userId s.world.db.sessions)
  rw [length_liveSessions] at hroom
  have hnew : [insertedRow s.world.clock input plan tx.node draw
      credentialRef].countP (isLiveOf input.userId) ≤ 1 :=
    List.countP_le_length
  rw [liveCount, hsessions, List.countP_append]
  omega

theorem liveCount_step (hkeyed : Keyed s.world.db)
    (hcount : liveCount userId s ≤ lastLimit cfg trace userId)
    (hstep : step cfg s act = some s') :
    liveCount userId s' ≤ lastLimit cfg (trace ++ [(s, act)]) userId := by
  obtain ⟨kept, added, hafter, hkept, hadded⟩ :=
    (step_effects hkeyed hstep).sessions
  have hmono : kept.countP (isLiveOf userId) ≤ liveCount userId s := by
    apply countP_forall₂_le hkept
    intro row row' hchange hlive
    simp only [isLiveOf, Bool.and_eq_true, beq_iff_eq] at hlive ⊢
    refine ⟨(SessionChange.identity hchange).userId ▸ hlive.1, ?_⟩
    by_contra hdead
    have hdead' := SessionChange.not_live hchange (by simpa using hdead)
    simp [hdead'] at hlive
  have hother : (∀ commit ∈ committedWith cfg s act,
      commit.1.userId ≠ userId) →
        liveCount userId s' ≤ lastLimit cfg trace userId := by
    intro hother
    have hnew : added.countP (isLiveOf userId) = 0 := by
      cases hadded with
      | none => rfl
      | @phaseA input plan draw tx credentialRef hcommits _ _ =>
          have huser := hother (input, plan)
            (committedWith_eq_some.mpr ⟨_, draw, tx, hcommits⟩)
          simp [isLiveOf, insertedRow, NewSession.row, newSession, huser]
    rw [liveCount, hafter, List.countP_append, hnew]
    exact hmono.trans hcount
  rw [lastLimit_append]
  cases hcommit : committedWith cfg s act with
  | none => exact hother (by simp [hcommit])
  | some commit =>
      dsimp only
      split
      · next huser =>
        obtain ⟨after, draw, tx, hcommits⟩ := committedWith_eq_some.mp hcommit
        obtain rfl := phaseA_db hcommits hstep
        exact huser ▸ liveCount_of_commit hkeyed hcommits
      · next huser => exact hother (by simpa [hcommit] using huser)

/-! ## The inline revoke loop -/

/-- Requests, time and the steps of connects, of which only a panel call may
fail. -/
def IsConnectCall (cfg : Config) (s : State) : Action → Prop
  | .advance _ | .requestConnect _ _ _ => True
  | .connect i draw reply =>
      callOf cfg s (.connect i draw reply) = none → reply = .ok
  | _ => False

instance : Decidable (IsConnectCall cfg s act) :=
  match act with
  | .advance _ | .requestConnect _ _ _ => inferInstanceAs (Decidable True)
  | .connect i draw reply =>
      inferInstanceAs (Decidable
        (callOf cfg s (.connect i draw reply) = none → reply = .ok))
  | .operate _ | .verifyAdReward _ | .verify _ _ | .claim _ | .drain _ _
  | .crashConnect _ | .crashVerify _ | .crashDrain _ =>
      inferInstanceAs (Decidable False)

/-- The panel users for which the loop has still to call `disableUser`. -/
def toDisable : ProvisionStage → List String
  | .revoke .disable username rest => username :: rest
  | .revoke _ _ rest => rest
  | _ => []

@[simp]
theorem toDisable_nextRevoke (usernames : List String) :
    toDisable (nextRevoke usernames) = usernames := by
  cases usernames <;> rfl

/-- The session whose connect calls `disableUser`, and for which user. -/
def disableOf (s : State) : Action → Option (ℕ × String)
  | .connect i _ _ =>
      match s.connects[i]? with
      | some (.provisioning ⟨_, _, tx, .revoke .disable username _⟩) =>
          some (tx.sessionId, username)
      | _ => none
  | _ => none

/-- The connect that issues `createUser`. -/
def minting (s : State) : Action → Option Provision
  | .connect i _ _ =>
      match s.connects[i]? with
      | some (.provisioning ⟨input, plan, tx, .createUser⟩) =>
          some ⟨input, plan, tx, .createUser⟩
      | _ => none
  | _ => none

theorem disableOf_connect {i : ℕ} {draw : Draw} {reply : Reply}
    {provision : Provision} {rest : List String}
    (hproc : s.connects[i]? = some (.provisioning provision))
    (hstage : provision.stage = .revoke .disable username rest) :
    disableOf s (.connect i draw reply) =
      some (provision.tx.sessionId, username) := by
  obtain ⟨input, plan, tx, stage⟩ := provision
  obtain rfl : stage = _ := hstage
  simp only [disableOf, hproc]

theorem minting_eq_some {provision : Provision}
    (hminting : minting s act = some provision) :
    .provisioning provision ∈ s.connects ∧ provision.stage = .createUser := by
  simp only [minting] at hminting
  split at hminting
  · split at hminting
    · next hproc =>
      obtain rfl := Option.some.inj hminting
      exact ⟨List.mem_of_getElem? hproc, rfl⟩
    · simp at hminting
  · simp at hminting

/-- A user leaves the list by the call that is made for it. -/
theorem toDisable_step {tier : PlanTier} {reply : Reply}
    {stage stage' : ProvisionStage} (hstep : StageStep tier reply stage stage')
    (hmem : username ∈ toDisable stage) :
    (∃ rest, stage = .revoke .disable username rest) ∨
      username ∈ toDisable stage' := by
  cases hstep with
  | @disabled head rest _ =>
      rcases List.mem_cons.mp hmem with rfl | hrest
      · exact Or.inl ⟨rest, rfl⟩
      · exact Or.inr hrest
  | deleted _ => exact Or.inr hmem
  | @skipped call head rest _ =>
      rw [toDisable_nextRevoke]
      cases call with
      | disable =>
          rcases List.mem_cons.mp hmem with rfl | hrest
          · exact Or.inl ⟨rest, rfl⟩
          · exact Or.inr hrest
      | delete => exact Or.inr hmem
      | mark => exact Or.inr hmem
  | marked =>
      rw [toDisable_nextRevoke]
      exact Or.inr hmem
  | _ => simp [toDisable] at hmem

/-- The call for a displaced user is still to come or has been made, and its
outbox row is queued. -/
structure Displaces (trace : List (State × Action)) (s : State)
    (provision : Provision) (username : String) : Prop where
  called : username ∈ toDisable provision.stage ∨ ∃ entry ∈ trace,
    disableOf entry.1 entry.2 = some (provision.tx.sessionId, username)
  queued : ∃ op ∈ s.world.db.panelOps, op.op = .revokeUser ∧
    op.payload.panelUsername = username

/-- The outbox rows of the displaced sessions. -/
theorem queued_of_commit {input : ConnectInput} {plan : Resolved} {draw : Draw}
    {tx : TxResult} {db after : Db} {now : ℕ}
    (hok : connectTransaction cfg now input plan draw db = .ok (tx, after))
    (hmem : username ∈ tx.revokeUsernames) :
    ∃ op ∈ after.panelOps, op.op = .revokeUser ∧
      op.payload.panelUsername = username := by
  obtain ⟨husernames, hpanelOps, -⟩ := sessions_of_connectTransaction hok
  rw [husernames] at hmem
  obtain ⟨row, hrow, rfl⟩ := List.mem_map.mp hmem
  obtain ⟨id, -, hqueued⟩ := @exists_queuedOps now .revokeUser _ row hrow
    db.panelOps.length
  rw [hpanelOps]
  exact ⟨_, List.mem_append_right _ hqueued, rfl, rfl⟩

theorem displaces_step (hkeyed : Keyed s.world.db)
    (hdisplaces : ∀ provision, .provisioning provision ∈ s.connects →
      ∀ username ∈ provision.tx.revokeUsernames,
        Displaces trace s provision username)
    (hstep : step cfg s act = some s') {provision : Provision}
    (hproc : .provisioning provision ∈ s'.connects)
    (hmem : username ∈ provision.tx.revokeUsernames) :
    Displaces (trace ++ [(s, act)]) s' provision username := by
  have hkeep : ∀ {old : Provision}, Displaces trace s old username →
      ∃ op ∈ s'.world.db.panelOps, op.op = .revokeUser ∧
        op.payload.panelUsername = username := by
    intro old hold
    obtain ⟨op, hop, hkind, hpayload⟩ := hold.queued
    obtain ⟨op', hop', hchange⟩ :=
      (step_effects hkeyed hstep).panelOps.forward hop
    have hsame := OpChange.identity hchange
    exact ⟨op', hop', hsame.kind.trans hkind, by rw [hsame.payload, hpayload]⟩
  rcases connects_step hstep hproc with
    hold | ⟨input, hnew⟩ | ⟨i, draw, reply, proc, rfl, hcurrent, hresumed⟩
  · have hbefore := hdisplaces provision hold username hmem
    refine ⟨hbefore.called.imp_right ?_, hkeep hbefore⟩
    rintro ⟨entry, hentry, hcalled⟩
    exact ⟨entry, List.mem_append_left _ hentry, hcalled⟩
  · simp at hnew
  · cases hresumed with
    | commit hrun hreply =>
        subst hreply
        have hcommits : CommitsPhaseA cfg s (.connect i draw .ok) _ _ _ draw _ :=
          ⟨⟨i, .ok, rfl, rfl, hcurrent⟩, hrun⟩
        refine ⟨Or.inl (by simpa using hmem), ?_⟩
        rw [phaseA_db hcommits hstep]
        exact queued_of_commit hrun hmem
    | @provision old stage hstage =>
        have hbefore := hdisplaces old (List.mem_of_getElem? hcurrent) username
          hmem
        refine ⟨?_, hkeep hbefore⟩
        rcases hbefore.called with hto | ⟨entry, hentry, hcalled⟩
        · rcases toDisable_step hstage hto with ⟨rest, hcall⟩ | hto'
          · have hcalled : disableOf s (.connect i draw reply) =
                some (old.tx.sessionId, username) :=
              disableOf_connect hcurrent hcall
            exact Or.inr ⟨_, List.mem_append_right _
              (List.mem_singleton_self _), hcalled⟩
          · exact Or.inl hto'
        · exact Or.inr ⟨entry, List.mem_append_left _ hentry, hcalled⟩

/-! ## Enabled users of closed sessions -/

/-- How the user of a closed session can be enabled: its disabling failed or is
still to come, its provisioning failed, or it was created after the session had
been closed. -/
inductive Excused (cfg : Config) (trace : List (State × Action)) (s : State)
    (row : Session) : Prop
  | disableFailed {entry : State × Action} {sessionId : ℕ} : entry ∈ trace →
      disableOf entry.1 entry.2 = some (sessionId, row.panelUsername) →
      (replyOf entry.2).applies = false → Excused cfg trace s row
  | disableToCome {provision : Provision} :
      .provisioning provision ∈ s.connects →
      row.panelUsername ∈ toDisable provision.stage → Excused cfg trace s row
  | provisionFailed : row.status = .failed → Excused cfg trace s row
  | createdLate {entry : State × Action} : entry ∈ trace →
      createdUser cfg entry.1 entry.2 = some row.panelUsername →
      HasDeadSession entry.1.world.db row.panelUsername →
      Excused cfg trace s row

/-- A connect pushes no expiry. -/
theorem callOf_connectCall (hcall : IsConnectCall cfg s act) {expireAt : ℕ} :
    callOf cfg s act ≠ some (.setUserExpiry username expireAt) := by
  intro hpush
  cases act with
  | connect i draw reply =>
      obtain ⟨proc, -, hmade⟩ := Option.bind_eq_some_iff.mp hpush
      cases proc with
      | provisioning provision =>
          simp only [connectCall, provisionCall] at hmade
          split at hmade <;> simp at hmade
      | _ => simp [connectCall] at hmade
  | advance ms => simp [callOf] at hpush
  | requestConnect user device presented => simp [callOf] at hpush
  | _ => exact hcall.elim

/-- A connect enables a user only by creating it. -/
theorem isEnabled_step (hcall : IsConnectCall cfg s act)
    (hstep : step cfg s act = some s')
    (henabled : isEnabled s'.world.panel username = true) :
    createdUser cfg s act = some username ∨
      isEnabled s.world.panel username = true ∧
        (callOf cfg s act = some (.disableUser username) →
          (replyOf act).applies = false) := by
  rw [step_panel hstep] at henabled
  split at henabled
  · next made happlies hmade =>
    cases servedEnabled henabled with
    | kept hold hne =>
        refine Or.inr ⟨hold, fun hdisable => absurd ?_ hne⟩
        exact Option.some.inj (hmade.symm.trans hdisable)
    | created params hparams husername =>
        subst hparams
        exact Or.inl (by simp [createdUser, happlies, hmade, husername])
    | pushed expireAt hpush _ _ _ =>
        exact absurd (hpush ▸ hmade) (callOf_connectCall hcall)
  · next hnone =>
    refine Or.inr ⟨henabled, fun hdisable => ?_⟩
    by_contra happlies
    exact hnone _ (by simpa using happlies) hdisable

/-- The inline revoke loop always goes on. -/
theorem revoke_forward {i : ℕ} {draw : Draw} {reply : Reply}
    {provision : Provision} {call : RevokeCall} {rest : List String}
    (hstep : step cfg s (.connect i draw reply) = some s')
    (hproc : s.connects[i]? = some (.provisioning provision))
    (hstage : provision.stage = .revoke call username rest) :
    ∃ stage, .provisioning { provision with stage := stage } ∈ s'.connects ∧
      StageStep provision.plan.tier reply provision.stage stage := by
  have hgoes : ((ConnectProc.provisioning provision).resume cfg s.world draw
      reply).next.isSome = true := by
    simp only [ConnectProc.resume, Provision.resume, hstage]
    cases call with
    | disable =>
        simp only [Provision.revokeCall]
        split <;> rfl
    | delete =>
        simp only [Provision.revokeCall]
        split <;> rfl
    | mark => rfl
  obtain ⟨next, hnext⟩ := Option.isSome_iff_exists.mp hgoes
  obtain ⟨stage, rfl, hstep'⟩ := provision_next hnext
  exact ⟨stage, mem_connects_of_next hstep hproc hnext, hstep'⟩

/-- After Phase A only `failSession` closes a session. -/
theorem status_of_provision {provision : Provision} {now : ℕ} {query : Query Unit}
    {done : Unit} {db after : Db}
    (hstatement : provisionStatement cfg now provision = some query)
    (hrun : query db = .ok (done, after)) {row' : Session}
    (hrow' : row' ∈ after.sessions) :
    ∃ row ∈ db.sessions, row.panelUsername = row'.panelUsername ∧
      (row'.status = row.status ∨ row'.status = .failed) := by
  rw [provisionStatement] at hstatement
  split at hstatement <;>
    simp only [Option.some.injEq, reduceCtorEq] at hstatement <;>
    subst hstatement
  · obtain rfl := modify_ok.mp hrun
    exact ⟨row', hrow', rfl, Or.inl rfl⟩
  · obtain rfl := modify_ok.mp hrun
    obtain ⟨row, hrow, rfl⟩ := mem_updateWhere.mp hrow'
    refine ⟨row, hrow, ?_⟩
    split
    · exact ⟨rfl, Or.inr rfl⟩
    · exact ⟨rfl, Or.inl rfl⟩
  · obtain ⟨_, hrun⟩ := effect_ok.mp hrun
    obtain ⟨-, rfl⟩ := enqueue_ok.mp hrun
    exact ⟨row', hrow', rfl, Or.inl rfl⟩
  · obtain rfl := modify_ok.mp hrun
    exact ⟨row', hrow', rfl, Or.inl rfl⟩
  · obtain rfl := modify_ok.mp hrun
    obtain ⟨row, hrow, rfl⟩ := mem_updateWhere.mp hrow'
    refine ⟨row, hrow, ?_⟩
    split <;> exact ⟨rfl, Or.inl rfl⟩
  · obtain ⟨_, hrun⟩ := effect_ok.mp hrun
    rw [(ConnectionService.buildPayload_ok hrun).1] at hrow'
    exact ⟨row', hrow', rfl, Or.inl rfl⟩

theorem status_of_connectCall (hcall : IsConnectCall cfg s act)
    (hcommit : committedWith cfg s act = none)
    (hstep : step cfg s act = some s') {row' : Session}
    (hrow' : row' ∈ s'.world.db.sessions) :
    ∃ row ∈ s.world.db.sessions, row.panelUsername = row'.panelUsername ∧
      (row'.status = row.status ∨ row'.status = .failed) := by
  rcases step_commits hstep with
    hsame | ⟨happlies, query, done, hstatement, hrun⟩
  · exact ⟨row', hsame ▸ hrow', rfl, Or.inl rfl⟩
  · cases act with
    | connect i draw reply =>
        obtain ⟨proc, hproc, hstatement⟩ :=
          Option.bind_eq_some_iff.mp hstatement
        cases proc with
        | admitted input => simp [connectStatement] at hstatement
        | resolved input plan =>
            obtain rfl := Option.some.inj hstatement
            obtain ⟨tx, htx⟩ := effect_ok.mp hrun
            have hcommits : CommitsPhaseA cfg s (.connect i draw reply)
                s'.world.db input plan draw tx :=
              ⟨⟨i, reply, rfl, happlies, hproc⟩, htx⟩
            rw [committedWith_eq_some.mpr ⟨_, _, _, hcommits⟩] at hcommit
            simp at hcommit
        | provisioning provision =>
            exact status_of_provision hstatement hrun hrow'
    | advance ms => simp [statementOf] at hstatement
    | requestConnect user device presented => simp [statementOf] at hstatement
    | _ => exact hcall.elim

/-- A session that Phase A closes is handed to the inline revoke loop. -/
theorem excused_of_commit (hkeyed : Keyed s.world.db) {input : ConnectInput} {plan : Resolved}
    {draw : Draw} {tx : TxResult}
    (hcall : IsConnectCall cfg s act)
    (hcommits : CommitsPhaseA cfg s act s'.world.db input plan draw tx)
    (hstep : step cfg s act = some s') {row' : Session}
    (hrow' : row' ∈ s'.world.db.sessions) (hdead : row'.status.isLive = false) :
    row' ∈ s.world.db.sessions ∨ ∃ provision,
      .provisioning provision ∈ s'.connects ∧
        row'.panelUsername ∈ toDisable provision.stage := by
  obtain ⟨i, reply, rfl, happlies, hproc⟩ := hcommits.acts
  obtain ⟨husernames, -, credentialRef, hsessions⟩ :=
    sessions_of_connectTransaction hcommits.commits
  rw [hsessions] at hrow'
  rcases List.mem_append.mp hrow' with hold | hnew
  · obtain ⟨row, hrow, rfl⟩ := mem_updateWhere.mp hold
    split at hdead
    · next hnamed =>
      have hnext : ((ConnectProc.resolved input plan).resume cfg s.world draw
          .ok).next = some (.provisioning
            ⟨input, plan, tx, nextRevoke tx.revokeUsernames⟩) := by
        simp only [ConnectProc.resume, World.query,
          withTransaction_of_ok hcommits.commits]
      obtain rfl : reply = .ok :=
        hcall (by simp [callOf, hproc, connectCall])
      refine Or.inr ⟨_, mem_connects_of_next hstep hproc hnext, ?_⟩
      rw [toDisable_nextRevoke, husernames, if_pos hnamed]
      obtain ⟨other, hother, hid⟩ := isNamedBy_iff.mp hnamed
      obtain ⟨hmem, -, -⟩ := mem_liveSessions (mem_displaced hother)
      obtain rfl := eq_of_key hkeyed.ids hmem hrow hid
      exact List.mem_map.mpr ⟨other, hother, rfl⟩
    · next hnamed => exact Or.inl (by rw [if_neg hnamed]; exact hrow)
  · rw [List.mem_singleton] at hnew
    rw [hnew, isLive_insertedRow] at hdead
    simp at hdead

/-- The call that is to come for a user is made, or it is still to come. -/
theorem excused_of_toDisable (hcall : IsConnectCall cfg s act)
    (hstep : step cfg s act = some s') {provision : Provision}
    (hproc : .provisioning provision ∈ s.connects) {row : Session}
    (hmem : row.panelUsername ∈ toDisable provision.stage)
    (hdisabled : callOf cfg s act = some (.disableUser row.panelUsername) →
      (replyOf act).applies = false) :
    Excused cfg (trace ++ [(s, act)]) s' row := by
  rcases connects_forward hstep hproc with
    hstays | ⟨i, rfl⟩ | ⟨i, draw, reply, rfl, hcurrent⟩
  · exact .disableToCome hstays hmem
  · exact hcall.elim
  · cases hstage : provision.stage with
    | revoke call head rest =>
        obtain ⟨stage, hnext, hgoes⟩ := revoke_forward hstep hcurrent hstage
        rcases toDisable_step hgoes hmem with ⟨others, hhead⟩ | hto
        · refine .disableFailed (List.mem_append_right _
            (List.mem_singleton_self _)) (disableOf_connect hcurrent hhead) ?_
          apply hdisabled
          simp [callOf, hcurrent, connectCall, provisionCall, hhead]
        · exact .disableToCome hnext hto
    | _ => simp [hstage, toDisable] at hmem

theorem excused_step (hcall : IsConnectCall cfg s act)
    (hexcused : ∀ row ∈ s.world.db.sessions, row.status.isLive = false →
      isEnabled s.world.panel row.panelUsername = true →
        Excused cfg trace s row)
    (hkeyed : Keyed s.world.db) (hstep : step cfg s act = some s')
    {row' : Session} (hrow' : row' ∈ s'.world.db.sessions)
    (hdead : row'.status.isLive = false)
    (henabled : isEnabled s'.world.panel row'.panelUsername = true) :
    Excused cfg (trace ++ [(s, act)]) s' row' := by
  have hbefore : ∀ row ∈ s.world.db.sessions,
      row.panelUsername = row'.panelUsername → row'.status = row.status →
        Excused cfg (trace ++ [(s, act)]) s' row' := by
    intro row hrow husername hstatus
    have hold : row.status.isLive = false := hstatus ▸ hdead
    rcases isEnabled_step hcall hstep henabled with
      hcreated | ⟨hbefore, hdisabled⟩
    · exact .createdLate (List.mem_append_right _ (List.mem_singleton_self _))
        hcreated ⟨row, hrow, husername, hold⟩
    · cases hexcused row hrow hold (husername ▸ hbefore) with
      | disableFailed hentry hcalled hfailed =>
          exact .disableFailed (List.mem_append_left _ hentry)
            (husername ▸ hcalled) hfailed
      | disableToCome hproc hmem =>
          exact excused_of_toDisable hcall hstep hproc (husername ▸ hmem)
            hdisabled
      | provisionFailed hfailed => exact .provisionFailed (hstatus.trans hfailed)
      | createdLate hentry hcreated hlate =>
          exact .createdLate (List.mem_append_left _ hentry)
            (husername ▸ hcreated) (husername ▸ hlate)
  cases hcommit : committedWith cfg s act with
  | none =>
      obtain ⟨row, hrow, husername, hstatus⟩ :=
        status_of_connectCall hcall hcommit hstep hrow'
      rcases hstatus with hsame | hfailed
      · exact hbefore row hrow husername hsame
      · exact .provisionFailed hfailed
  | some commit =>
      obtain ⟨after, draw, tx, hcommits⟩ := committedWith_eq_some.mp hcommit
      obtain rfl := phaseA_db hcommits hstep
      rcases excused_of_commit hkeyed hcall hcommits hstep hrow' hdead with
        hold | ⟨provision, hproc, hmem⟩
      · exact hbefore row' hold rfl rfl
      · exact .disableToCome hproc hmem

/-! ## Over runs -/

/-- When a connect issues `createUser`, it has called `disableUser` for every
session that it displaced: each is closed, and its `revoke_user` row queued. -/
def DisablesFirst (trace : List (State × Action)) (s : State) (act : Action) :
    Prop :=
  ∀ provision ∈ minting s act, ∀ username ∈ provision.tx.revokeUsernames,
    HasDeadSession s.world.db username ∧
    (∃ op ∈ s.world.db.panelOps, op.op = .revokeUser ∧
      op.payload.panelUsername = username) ∧
    ∃ entry ∈ trace, disableOf entry.1 entry.2 =
      some (provision.tx.sessionId, username)

/-- The sessions of a user whose panel user is enabled. -/
def enabledCount (userId : ℕ) (s : State) : ℕ :=
  s.world.db.sessions.countP fun row =>
    row.userId == userId && isEnabled s.world.panel row.panelUsername

/-- Those of them that are closed. -/
def surplus (userId : ℕ) (s : State) : ℕ :=
  s.world.db.sessions.countP fun row => row.userId == userId &&
    isEnabled s.world.panel row.panelUsername && !row.status.isLive

structure KeepsToLimit (cfg : Config) (trace : List (State × Action))
    (s : State) (userId : ℕ) : Prop where
  live : liveCount userId s ≤ lastLimit cfg trace userId
  enabled : enabledCount userId s ≤ lastLimit cfg trace userId + surplus userId s
  excused : ∀ row ∈ s.world.db.sessions, row.userId = userId →
    row.status.isLive = false →
      isEnabled s.world.panel row.panelUsername = true →
        Excused cfg trace s row

theorem enabledCount_le :
    enabledCount userId s ≤ liveCount userId s + surplus userId s := by
  rw [enabledCount, List.countP_eq_countP_filter_add _ _
    (fun row => row.status.isLive), List.countP_filter, List.countP_filter]
  have hlive : s.world.db.sessions.countP (fun row => row.userId == userId &&
      isEnabled s.world.panel row.panelUsername && row.status.isLive) ≤
        liveCount userId s := by
    apply List.countP_mono_left
    intro row _ hrow
    simp only [Bool.and_eq_true] at hrow
    simp only [isLiveOf, Bool.and_eq_true]
    exact ⟨hrow.1.1, hrow.2⟩
  exact Nat.add_le_add_right hlive _

structure Accounts (cfg : Config) (trace : List (State × Action)) (s : State) :
    Prop where
  attached : Attached s
  displaces : ∀ provision, .provisioning provision ∈ s.connects →
    ∀ username ∈ provision.tx.revokeUsernames,
      Displaces trace s provision username
  live : ∀ userId, liveCount userId s ≤ lastLimit cfg trace userId
  excused : ∀ row ∈ s.world.db.sessions, row.status.isLive = false →
    isEnabled s.world.panel row.panelUsername = true → Excused cfg trace s row

theorem accounts_initial (hinit : IsInitial start) : Accounts cfg [] start where
  attached := attached_initial hinit
  displaces := by simp [hinit.connects]
  live := by simp [liveCount, hinit.sessions]
  excused := by simp [hinit.sessions]

theorem accounts_step (haccounts : Accounts cfg trace s)
    (hcall : IsConnectCall cfg s act) (hstep : step cfg s act = some s') :
    Accounts cfg (trace ++ [(s, act)]) s' where
  attached := attached_step haccounts.attached hstep
  displaces := fun _ hproc _ hmem =>
    displaces_step haccounts.attached.keyed haccounts.displaces hstep hproc hmem
  live := fun userId => liveCount_step haccounts.attached.keyed
    (haccounts.live userId) hstep
  excused := fun _ hrow hdead henabled => excused_step hcall haccounts.excused
    haccounts.attached.keyed hstep hrow hdead henabled

theorem accounts_of_run (hinit : IsInitial start)
    (hrun : Run (middleware cfg) start trace last)
    (hcalls : ∀ entry ∈ trace, IsConnectCall cfg entry.1 entry.2) :
    Accounts cfg trace last := by
  induction hrun with
  | refl => exact accounts_initial hinit
  | @snoc trace mid last act hearlier hnext ih =>
      have hbefore := ih fun entry hentry =>
        hcalls entry (List.mem_append_left _ hentry)
      exact accounts_step hbefore (hcalls (mid, act) (by simp)) hnext

theorem disablesFirst_of_accounts (haccounts : Accounts cfg trace s) :
    DisablesFirst trace s act := by
  intro provision hminting username hmem
  obtain ⟨hproc, hstage⟩ := minting_eq_some hminting
  obtain ⟨hcalled, op, hop, hkind, hpayload⟩ :=
    haccounts.displaces provision hproc username hmem
  have hreclaims : Reclaims username op := ⟨Or.inl hkind, hpayload⟩
  refine ⟨haccounts.attached.reclaimed op hop username hreclaims,
    ⟨op, hop, hkind, hpayload⟩, ?_⟩
  rcases hcalled with hto | hmade
  · simp [hstage, toDisable] at hto
  · exact hmade

/-- In every run of connect calls a displaced session is disabled before the new
panel user is created, the live sessions of an account keep to its limit, and
an enabled user beyond it is that of an excused closed session. -/
theorem disable_before_mint (hinit : IsInitial start)
    (hrun : Run (middleware cfg) start trace last)
    (hcalls : ∀ entry ∈ trace, IsConnectCall cfg entry.1 entry.2) :
    (∀ before after entry, trace = before ++ entry :: after →
      DisablesFirst before entry.1 entry.2) ∧
    ∀ userId, KeepsToLimit cfg trace last userId := by
  constructor
  · rintro before after ⟨mid, act⟩ rfl
    obtain ⟨next, hbefore, -, -⟩ := hrun.exists_split
    exact disablesFirst_of_accounts (accounts_of_run hinit hbefore
      fun entry hentry => hcalls entry (List.mem_append_left _ hentry))
  · intro userId
    have haccounts := accounts_of_run hinit hrun hcalls
    have hlive := haccounts.live userId
    exact
      { live := hlive
        enabled := enabledCount_le.trans (Nat.add_le_add_right hlive _)
        excused := fun row hrow _ => haccounts.excused row hrow }

/-- The small connect finishes; the user connects again, and the call that
disables the first panel user times out. -/
def otherDraw : Draw := ⟨2, 2, fun _ => 1, fun _ => 1, fun _ => 1⟩

def reconnected : List Action :=
  smallConnect ++ [.connect 0 smallDraw .ok, .connect 0 smallDraw .ok,
    .requestConnect 1 1 (some smallKey), .connect 0 otherDraw .ok,
    .connect 0 otherDraw .ok,
    .connect 0 otherDraw (.fail false (.panel { message := "timeout" }))]

theorem disable_before_mint_reconnected : ∃ trace last,
    Run (middleware {}) smallDeployment trace last ∧
    (∀ before after entry, trace = before ++ entry :: after →
      DisablesFirst before entry.1 entry.2) ∧
    ∀ userId, KeepsToLimit {} trace last userId := by
  obtain ⟨last, hrun⟩ := @exists_run_of_isSome _ _ (middleware {})
    smallDeployment (reconnected ++ [.connect 0 otherDraw .ok])
    (by decide +kernel)
  exact ⟨_, last, hrun, disable_before_mint isInitial_smallDeployment hrun
    (by decide +kernel)⟩

/-- A connect issues `createUser` while the user of a session that it displaced
is still enabled, and takes the account beyond the limit it used. -/
theorem minted_while_enabled : IsInitial smallDeployment ∧
    ∃ trace mid last, Run (middleware {}) smallDeployment
      (trace ++ [(mid, .connect 0 otherDraw .ok)]) last ∧
    (∀ entry ∈ trace, IsConnectCall {} entry.1 entry.2) ∧
    ∃ provision ∈ minting mid (.connect 0 otherDraw .ok),
      (∃ username ∈ provision.tx.revokeUsernames,
        isEnabled mid.world.panel username = true) ∧
      provision.plan.maxConcurrent < enabledCount 1 last := by
  obtain ⟨mid, last, hrun, -, hminted⟩ :=
    @exists_run_of_execute _ _ (middleware {}) smallDeployment reconnected
      (.connect 0 otherDraw .ok) (fun mid last =>
        ∃ provision ∈ minting mid (.connect 0 otherDraw .ok),
          (∃ username ∈ provision.tx.revokeUsernames,
            isEnabled mid.world.panel username = true) ∧
          provision.plan.maxConcurrent < enabledCount 1 last) _
      (by decide +kernel)
  exact ⟨isInitial_smallDeployment, _, mid, last, hrun, by decide +kernel,
    hminted⟩

end VpnMiddleware.DisableBeforeMint
