import VpnMiddleware.Invariants.Keys

/-!
# What the processes in flight know

A process keeps ids, usernames and payloads that it read from the tables or
wrote to them.  They stay right while other processes run: rows are never
deleted and their identifying columns never change.
-/

namespace VpnMiddleware.Processes

open VpnMiddleware.Schema VpnMiddleware.Environment VpnMiddleware.Database
open VpnMiddleware.Table VpnMiddleware.Closing VpnMiddleware.TransitionSystem
open VpnMiddleware.IdealPanel VpnMiddleware.Shared VpnMiddleware.Middleware
open VpnMiddleware.Statements VpnMiddleware.Evolution VpnMiddleware.Keys
open VpnMiddleware.ConnectionService VpnMiddleware.ConnectFlow
open VpnMiddleware.AdsService VpnMiddleware.VerifyFlow
open VpnMiddleware.OutboxDrainer VpnMiddleware.DrainFlow

variable {cfg : Config} {s s' : State} {act : Action} {before after : Db}

/-! ## What no step takes away -/

structure Grows (before after : Db) : Prop where
  sessions : ∀ row ∈ before.sessions, ∃ row' ∈ after.sessions,
    SameIdentity row row' ∧
      (row.status.isLive = false → row'.status.isLive = false)
  panelOps : ∀ op ∈ before.panelOps, ∃ op' ∈ after.panelOps, SameOp op op'
  consumed : ∀ grant ∈ before.grants, grant.status = .consumed →
    grant ∈ after.grants

theorem SessionChange.not_live {row row' : Session}
    (hchange : SessionChange cfg s act after row row')
    (hdead : row.status.isLive = false) : row'.status.isLive = false := by
  cases hchange with
  | same => exact hdead
  | stamped => exact hdead
  | activated => exact hdead
  | failed _ => rfl
  | closed hlive _ _ => simp [hdead] at hlive
  | extended _ hclaimed _ _ _ =>
      have hlive := hclaimed.session_live
      simp [hdead] at hlive

theorem grows_step (hkeyed : Keyed s.world.db)
    (hstep : step cfg s act = some s') : Grows s.world.db s'.world.db where
  sessions := by
    intro row hrow
    obtain ⟨row', hrow', hchange⟩ :=
      (step_effects hkeyed hstep).sessions.forward hrow
    exact ⟨row', hrow', SessionChange.identity hchange,
      SessionChange.not_live hchange⟩
  panelOps := by
    intro op hop
    obtain ⟨op', hop', hchange⟩ :=
      (step_effects hkeyed hstep).panelOps.forward hop
    exact ⟨op', hop', OpChange.identity hchange⟩
  consumed := by
    intro grant hgrant hconsumed
    obtain ⟨grant', hgrant', hchange⟩ :=
      (step_effects hkeyed hstep).grants.forward hgrant
    cases hchange with
    | same => exact hgrant'
    | counted _ _ hopen => simp [isOpen, hconsumed] at hopen
    | consumed _ hclaimed => exact absurd hconsumed hclaimed.not_consumed

/-! ## Each kind of process -/

/-- The session of a panel user is no longer live. -/
def HasDeadSession (db : Db) (username : String) : Prop :=
  ∃ row ∈ db.sessions, row.panelUsername = username ∧ row.status.isLive = false

theorem HasDeadSession.grows {username : String}
    (hdead : HasDeadSession before username) (hgrows : Grows before after) :
    HasDeadSession after username := by
  obtain ⟨row, hrow, husername, hnotLive⟩ := hdead
  obtain ⟨row', hrow', hsame, hstays⟩ := hgrows.sessions row hrow
  exact ⟨row', hrow', hsame.panelUsername.trans husername, hstays hnotLive⟩

/-- The new session of a connect and the displaced ones. -/
structure ProvisionBound (db : Db) (provision : Provision) : Prop where
  session : ∃ row ∈ db.sessions, row.id = provision.tx.sessionId ∧
    row.panelUsername = provision.tx.panelUsername ∧
    row.tier = provision.plan.tier
  displaced : ∀ username ∈ provision.stage.revoking, HasDeadSession db username
  premium : provision.stage.isPremium = true → provision.plan.tier = .premium
  failed : provision.stage = .failEnqueue →
    HasDeadSession db provision.tx.panelUsername

/-- Some consumed grant with minutes, paid in full, is bound to the session. -/
def Funded (db : Db) (sessionId : ℕ) : Prop :=
  ∃ grant ∈ db.grants, grant.status = .consumed ∧ 0 < grant.grantMinutes ∧
    grant.requiredAds ≤ grant.verifiedAds ∧ grant.sessionId = some sessionId

/-- The session of an extension, its outbox row and the grant that paid. -/
structure ExtensionBound (db : Db) (ext : Extension) : Prop where
  session : ∃ row ∈ db.sessions, row.id = ext.sessionId ∧
    row.panelUsername = ext.panelUsername
  op : ∃ op ∈ db.panelOps, op.id = ext.opId ∧ op.op = .extendUser ∧
    op.payload = { panelUsername := ext.panelUsername
                   expireEpoch := some (ext.newExpires / 1000) }
  funded : Funded db ext.sessionId

/-- The consumed grant of a replay. -/
def ReplayBound (db : Db) (grantId sessionId : ℕ) : Prop :=
  ∃ grant ∈ db.grants, grant.id = grantId ∧ grant.status = .consumed ∧
    grant.sessionId = some sessionId

structure VerifyBound (db : Db) (proc : VerifyProc) : Prop where
  extension : ∀ ext, proc.stage.extension = some ext → ExtensionBound db ext
  replay : ∀ sessionId expiresAt, proc.stage = .replay sessionId expiresAt →
    ReplayBound db proc.input.grantId sessionId

/-- The outbox row that a drainer claimed. -/
def RowBound (db : Db) (row : OutboxRow) : Prop :=
  ∃ op ∈ db.panelOps, op.id = row.id ∧ op.op = row.op ∧ op.payload = row.payload

theorem ProvisionBound.grows {provision : Provision}
    (hbound : ProvisionBound before provision) (hgrows : Grows before after) :
    ProvisionBound after provision where
  session := by
    obtain ⟨row, hrow, hid, husername, htier⟩ := hbound.session
    obtain ⟨row', hrow', hsame, -⟩ := hgrows.sessions row hrow
    exact ⟨row', hrow', hsame.id.trans hid, hsame.panelUsername.trans husername,
      hsame.tier.trans htier⟩
  displaced := fun username hmem => (hbound.displaced username hmem).grows hgrows
  premium := hbound.premium
  failed := fun hstage => (hbound.failed hstage).grows hgrows

theorem Funded.grows {sessionId : ℕ} (hfunded : Funded before sessionId)
    (hgrows : Grows before after) : Funded after sessionId := by
  obtain ⟨grant, hgrant, hconsumed, hrest⟩ := hfunded
  exact ⟨grant, hgrows.consumed grant hgrant hconsumed, hconsumed, hrest⟩

theorem ExtensionBound.grows {ext : Extension}
    (hbound : ExtensionBound before ext) (hgrows : Grows before after) :
    ExtensionBound after ext where
  session := by
    obtain ⟨row, hrow, hid, husername⟩ := hbound.session
    obtain ⟨row', hrow', hsame, -⟩ := hgrows.sessions row hrow
    exact ⟨row', hrow', hsame.id.trans hid, hsame.panelUsername.trans husername⟩
  op := by
    obtain ⟨op, hop, hid, hkind, hpayload⟩ := hbound.op
    obtain ⟨op', hop', hsame⟩ := hgrows.panelOps op hop
    exact ⟨op', hop', hsame.id.trans hid, hsame.kind.trans hkind,
      hsame.payload.trans hpayload⟩
  funded := hbound.funded.grows hgrows

theorem VerifyBound.grows {proc : VerifyProc} (hbound : VerifyBound before proc)
    (hgrows : Grows before after) : VerifyBound after proc where
  extension := fun ext hext => (hbound.extension ext hext).grows hgrows
  replay := by
    intro sessionId expiresAt hstage
    obtain ⟨grant, hgrant, hid, hconsumed, hsession⟩ :=
      hbound.replay sessionId expiresAt hstage
    exact ⟨grant, hgrows.consumed grant hgrant hconsumed, hid, hconsumed,
      hsession⟩

theorem RowBound.grows {row : OutboxRow} (hbound : RowBound before row)
    (hgrows : Grows before after) : RowBound after row := by
  obtain ⟨op, hop, hid, hkind, hpayload⟩ := hbound
  obtain ⟨op', hop', hsame⟩ := hgrows.panelOps op hop
  exact ⟨op', hop', hsame.id.trans hid, hsame.kind.trans hkind,
    hsame.payload.trans hpayload⟩

/-! ## All processes -/

/-- A consumed grant had its ads verified and is bound to a session. -/
def ConsumedBound (db : Db) (grant : Grant) : Prop :=
  grant.requiredAds ≤ grant.verifiedAds ∧
    ∃ row ∈ db.sessions, grant.sessionId = some row.id

structure Attached (s : State) : Prop where
  keyed : Keyed s.world.db
  connects : ∀ provision, .provisioning provision ∈ s.connects →
    ProvisionBound s.world.db provision
  verifies : ∀ proc ∈ s.verifies, VerifyBound s.world.db proc
  drains : ∀ proc ∈ s.drains, ∀ row ∈ proc.rows, RowBound s.world.db row
  deleting : ∀ proc ∈ s.drains, proc.stage = .delete →
    proc.row.op = .revokeUser
  consumed : ∀ grant ∈ s.world.db.grants, grant.status = .consumed →
    ConsumedBound s.world.db grant
  extensions : ∀ op ∈ s.world.db.panelOps, op.op = .extendUser →
    ∃ row ∈ s.world.db.sessions, op.sessionId = some row.id ∧
      op.payload.panelUsername = row.panelUsername
  reclaimed : ∀ op ∈ s.world.db.panelOps, ∀ username, Reclaims username op →
    HasDeadSession s.world.db username
  panel : ∀ username account, s.world.panel username = some account →
    ∃ row ∈ s.world.db.sessions, row.panelUsername = username

theorem attached_initial (hinit : IsInitial s) : Attached s where
  keyed := keyed_initial hinit
  connects := by simp [hinit.connects]
  verifies := by simp [hinit.verifies]
  drains := by simp [hinit.drains]
  deleting := by simp [hinit.drains]
  consumed := by simp [hinit.grants]
  extensions := by simp [hinit.panelOps]
  reclaimed := by simp [hinit.panelOps]
  panel := by simp [hinit.panel]

/-- A connect that has just committed. -/
theorem provisionBound_of_commit {input : ConnectInput} {plan : Resolved}
    {draw : Draw} {tx : TxResult}
    (hrun : connectTransaction cfg s.world.clock input plan draw s.world.db =
      .ok (tx, after)) :
    ProvisionBound after ⟨input, plan, tx, nextRevoke tx.revokeUsernames⟩ := by
  obtain ⟨rows, mid, credentialRef, hcommit⟩ := connectTransaction_ok hrun
  refine ⟨⟨insertedRow s.world.clock input plan tx.node draw credentialRef, ?_,
    hcommit.session_id.symm, hcommit.username.symm, rfl⟩, ?_, by simp, ?_⟩
  · rw [hcommit.sessions]
    simp
  · intro username hmem
    rw [revoking_nextRevoke, hcommit.usernames] at hmem
    obtain ⟨row, hrow, rfl⟩ := List.mem_map.mp hmem
    obtain ⟨row', hrow', husername, hdead⟩ := hcommit.closes.exists_closed hrow
    refine ⟨row', ?_, husername, hdead⟩
    rw [hcommit.sessions]
    exact List.mem_append_left _ hrow'
  · intro hstage
    cases hnames : tx.revokeUsernames <;> simp [hnames, nextRevoke] at hstage

theorem replayBound_of_commit (hattached : Attached s) {input : VerifyInput}
    {sessionId expiresAt : ℕ}
    (hcommit : VerifyCommit cfg s.world.clock input.userId input.grantId
      input.sessionId s.world.db (.idempotent sessionId expiresAt) after) :
    ReplayBound after input.grantId sessionId := by
  cases hcommit with
  | @replay grant session hgrant hid hconsumed hbinding _ _ =>
      obtain ⟨-, row, -, hbound⟩ := hattached.consumed grant hgrant hconsumed
      exact ⟨grant, hgrant, hid, hconsumed, hbinding row.id hbound ▸ hbound⟩

theorem extensionBound_of_commit {input : VerifyInput} {ext : Extension}
    (hcommit : VerifyCommit cfg s.world.clock input.userId input.grantId
      input.sessionId s.world.db (.extend ext.sessionId ext.panelUsername
        ext.newExpires ext.grantedMinutes (some ext.opId)) after) :
    ExtensionBound after ext := by
  obtain ⟨sessionId, username, newExpires, minutes, opId⟩ := ext
  cases hcommit with
  | @extend grant session _ hclaimed hpos hexpires =>
      refine ⟨⟨extendRow input.grantId newExpires session, ?_,
        hclaimed.session_id, rfl⟩, ⟨extendOp s.world.clock
          (s.world.db.panelOps.length + 1) session.id session.panelUsername
          newExpires, ?_, rfl, rfl, rfl⟩,
        ⟨consume s.world.clock session.id grant, ?_, rfl, hpos,
          hclaimed.verified, congrArg some hclaimed.session_id⟩⟩
      · exact mem_updateWhere.mpr
          ⟨session, hclaimed.session_mem, if_pos (beq_self_eq_true _)⟩
      · exact List.mem_append_right _ (List.mem_singleton_self _)
      · exact mem_updateWhere.mpr ⟨grant, hclaimed.grant_mem,
          if_pos (beq_iff_eq.mpr hclaimed.grant_id)⟩

/-- A claim that has just committed. -/
theorem verifyBound_of_start (hattached : Attached s) {next : VerifyProc}
    {planned : Planned}
    (hrun : verifyTransaction cfg s.world.clock next.input.userId
      next.input.grantId next.input.sessionId s.world.db = .ok (planned, after))
    (hstarts : StartsWith planned next.stage) : VerifyBound after next := by
  have hcommit := verifyTransaction_ok hrun
  obtain ⟨input, stage⟩ := next
  cases hstarts with
  | replay hplanned =>
      subst hplanned
      refine ⟨fun ext hext => by simp [VerifyStage.extension] at hext, ?_⟩
      intro _ _ hstage
      obtain ⟨rfl, rfl⟩ := VerifyStage.replay.inj hstage
      exact replayBound_of_commit hattached hcommit
  | push hplanned =>
      subst hplanned
      refine ⟨fun _ hext => ?_, fun _ _ hstage => by simp at hstage⟩
      obtain rfl := Option.some.inj hext
      exact extensionBound_of_commit hcommit

section Step

variable (hattached : Attached s) (hstep : step cfg s act = some s')
include hattached hstep

/-- The first statement of `failSession` has closed the session. -/
theorem failed_of_close {i : ℕ} {draw : Draw} {reply : Reply}
    {provision : Provision} (hact : act = .connect i draw reply)
    (hproc : s.connects[i]? = some (.provisioning provision))
    (hstage : StageStep provision.plan.tier reply provision.stage .failEnqueue) :
    HasDeadSession s'.world.db provision.tx.panelUsername := by
  subst hact
  obtain ⟨rfl, hbefore⟩ := hstage.failEnqueue
  obtain ⟨row, hrow, hid, husername, -⟩ :=
    (hattached.connects provision (List.mem_of_getElem? hproc)).session
  have hcloses : RunsFailClose s (.connect i draw .ok) provision.tx.sessionId :=
    runsFailClose_iff.mpr ⟨i, draw, .ok, provision, rfl, rfl, hproc, hbefore, rfl⟩
  rw [failClose_db hcloses hstep]
  refine ⟨_, mem_updateWhere.mpr ⟨row, hrow, rfl⟩, ?_⟩
  rw [if_pos (beq_iff_eq.mpr hid)]
  exact ⟨husername, rfl⟩

theorem connects_attached (provision : Provision)
    (hmem : .provisioning provision ∈ s'.connects) :
    ProvisionBound s'.world.db provision := by
  have hgrows := grows_step hattached.keyed hstep
  rcases connects_step hstep hmem with
    hold | ⟨input, hnew⟩ | ⟨i, draw, reply, proc, rfl, hproc, hresumed⟩
  · exact (hattached.connects provision hold).grows hgrows
  · simp at hnew
  · cases hresumed with
    | commit hrun hreply =>
        subst hreply
        have hcommits : CommitsPhaseA cfg s (.connect i draw .ok) _ _ _ draw _ :=
          ⟨⟨i, .ok, rfl, rfl, hproc⟩, hrun⟩
        rw [phaseA_db hcommits hstep]
        exact provisionBound_of_commit hrun
    | @provision old stage hstage =>
        have hbound := (hattached.connects old
          (List.mem_of_getElem? hproc)).grows hgrows
        refine ⟨hbound.session, fun username husername => ?_,
          fun hpremium => ?_, ?_⟩
        · exact hbound.displaced username (hstage.revoking husername)
        · exact (hstage.isPremium hpremium).elim id hbound.premium
        · rintro rfl
          have hdead : HasDeadSession s'.world.db old.tx.panelUsername :=
            failed_of_close hattached hstep rfl hproc hstage
          exact hdead

theorem verifies_attached (proc : VerifyProc) (hmem : proc ∈ s'.verifies) :
    VerifyBound s'.world.db proc := by
  have hgrows := grows_step hattached.keyed hstep
  rcases verifies_step hstep hmem with
    hold | ⟨planned, after, rfl, hrun, hstarts⟩ |
      ⟨i, reply, old, rfl, hproc, hinput, hstage⟩
  · exact (hattached.verifies proc hold).grows hgrows
  · rw [verify_db hrun hstep]
    exact verifyBound_of_start hattached hrun hstarts
  · have hbound := (hattached.verifies old
      (List.mem_of_getElem? hproc)).grows hgrows
    obtain ⟨ext, hext, hext'⟩ := hstage.extension
    refine ⟨fun other hother => ?_, fun _ _ hreplay => ?_⟩
    · obtain rfl := Option.some.inj (hext'.symm.trans hother)
      exact hbound.extension ext hext
    · simp [hreplay, VerifyStage.extension] at hext'

theorem drains_attached (proc : DrainProc) (hmem : proc ∈ s'.drains) :
    ∀ row ∈ proc.rows, RowBound s'.world.db row := by
  have hgrows := grows_step hattached.keyed hstep
  intro row hrow
  rcases drains_step hstep hmem with
    hold | ⟨locked, rfl, -, hrows⟩ | ⟨i, reply, old, rfl, hproc, hresumed⟩
  · exact (hattached.drains proc hold row hrow).grows hgrows
  · rw [hrows] at hrow
    obtain ⟨op, hop, rfl⟩ := List.mem_map.mp hrow
    have hbound : RowBound s.world.db (claimedRow op) :=
      ⟨op, (mem_claimable hop).1, rfl, rfl, rfl⟩
    exact hbound.grows hgrows
  · refine (hattached.drains old (List.mem_of_getElem? hproc) row ?_).grows
      hgrows
    rcases hresumed with ⟨hrows, -⟩ | ⟨hrows, -⟩
    · exact hrows ▸ hrow
    · rw [hrows] at hrow
      exact List.mem_cons_of_mem _ hrow

theorem deleting_attached (proc : DrainProc) (hmem : proc ∈ s'.drains)
    (hstage : proc.stage = .delete) : proc.row.op = .revokeUser := by
  rcases drains_step hstep hmem with
    hold | ⟨_, -, hdispatch, -⟩ | ⟨i, reply, old, rfl, hproc, hresumed⟩
  · exact hattached.deleting proc hold hstage
  · simp [hdispatch] at hstage
  · rcases hresumed with ⟨hrows, hdrain⟩ | ⟨-, hdispatch⟩
    · rw [hstage] at hdrain
      rw [(List.cons.inj hrows).1]
      exact hdrain.delete
    · simp [hdispatch] at hstage

theorem consumed_attached (grant : Grant) (hmem : grant ∈ s'.world.db.grants)
    (hconsumed : grant.status = .consumed) : ConsumedBound s'.world.db grant := by
  have hgrows := grows_step hattached.keyed hstep
  rcases (step_effects hattached.keyed hstep).grants.backward hmem with
    ⟨old, hold, hchange⟩ | ⟨added, hadded, hnew⟩
  · cases hchange with
    | same =>
        obtain ⟨hverified, row, hrow, hsession⟩ :=
          hattached.consumed grant hold hconsumed
        obtain ⟨row', hrow', hsame, -⟩ := hgrows.sessions row hrow
        exact ⟨hverified, row', hrow', by rw [hsession, hsame.id]⟩
    | counted _ _ hopen =>
        exact absurd hconsumed (countAd_status (isOpen_pending hopen))
    | consumed _ hclaimed =>
        obtain ⟨row', hrow', hsame, -⟩ := hgrows.sessions _ hclaimed.session_mem
        refine ⟨hclaimed.verified, row', hrow', ?_⟩
        rw [hsame.id, hclaimed.session_id]
        rfl
  · rcases hadded with rfl | ⟨minted, hminted, rfl⟩
    · simp at hnew
    · rw [List.mem_singleton] at hnew
      rw [hnew, hminted.pending] at hconsumed
      simp at hconsumed

theorem extensions_attached (op : PanelOp) (hmem : op ∈ s'.world.db.panelOps)
    (hkind : op.op = .extendUser) : ∃ row ∈ s'.world.db.sessions,
      op.sessionId = some row.id ∧
        op.payload.panelUsername = row.panelUsername := by
  have hgrows := grows_step hattached.keyed hstep
  rcases (step_effects hattached.keyed hstep).panelOps.backward hmem with
    ⟨old, hold, hchange⟩ | ⟨added, hadded, hnew⟩
  · have hsame := OpChange.identity hchange
    obtain ⟨row, hrow, hsession, husername⟩ :=
      hattached.extensions old hold (hsame.kind.symm.trans hkind)
    obtain ⟨row', hrow', hrowSame, -⟩ := hgrows.sessions row hrow
    refine ⟨row', hrow', ?_, ?_⟩
    · rw [hsame.sessionId, hsession, hrowSame.id]
    · rw [hsame.payload, husername, hrowSame.panelUsername]
  · cases hadded with
    | closing _ hop _ _ =>
        obtain ⟨_, _, _, _, rfl⟩ := mem_queuedOps hnew
        rcases hop with rfl | rfl <;> simp [newPanelOp] at hkind
    | failEnqueue _ _ =>
        rw [List.mem_singleton] at hnew
        simp [hnew, newPanelOp] at hkind
    | extension hclaimed =>
        rw [List.mem_singleton] at hnew
        obtain ⟨row', hrow', hsame, -⟩ := hgrows.sessions _ hclaimed.session_mem
        subst hnew
        exact ⟨row', hrow', congrArg some hsame.id.symm, hsame.panelUsername.symm⟩

theorem reclaimed_attached (op : PanelOp) (hmem : op ∈ s'.world.db.panelOps)
    (username : String) (hreclaims : Reclaims username op) :
    HasDeadSession s'.world.db username := by
  have hgrows := grows_step hattached.keyed hstep
  rcases (step_effects hattached.keyed hstep).panelOps.backward hmem with
    ⟨old, hold, hchange⟩ | ⟨added, hadded, hnew⟩
  · have hsame := OpChange.identity hchange
    rw [Reclaims, hsame.kind, hsame.payload] at hreclaims
    exact (hattached.reclaimed old hold username hreclaims).grows hgrows
  · cases hadded with
    | closing _ _ _ hclosed =>
        obtain ⟨row, hrow, _, _, rfl⟩ := mem_queuedOps hnew
        exact hreclaims.2 ▸ hclosed row hrow
    | failEnqueue hproc hstage =>
        rw [List.mem_singleton] at hnew
        subst hnew
        have hbound := hattached.connects _ (List.mem_of_getElem? hproc)
        exact hreclaims.2 ▸ (hbound.failed hstage).grows hgrows
    | extension _ =>
        rw [List.mem_singleton] at hnew
        subst hnew
        rcases hreclaims.1 with hkind | hkind <;>
          simp [extendOp, newPanelOp] at hkind

theorem panel_attached (username : String) (account : Account)
    (haccount : s'.world.panel username = some account) :
    ∃ row ∈ s'.world.db.sessions, row.panelUsername = username := by
  have hgrows := grows_step hattached.keyed hstep
  have hkeep : (∃ row ∈ s.world.db.sessions, row.panelUsername = username) →
      ∃ row ∈ s'.world.db.sessions, row.panelUsername = username := by
    rintro ⟨row, hrow, husername⟩
    obtain ⟨row', hrow', hsame, -⟩ := hgrows.sessions row hrow
    exact ⟨row', hrow', hsame.panelUsername.trans husername⟩
  rw [step_panel hstep] at haccount
  split at haccount
  · next made happlies hcall =>
      rcases exists_of_serve haccount with ⟨old, hold⟩ | ⟨params, rfl, husername⟩
      · exact hkeep (hattached.panel username old hold)
      · obtain ⟨i, draw, reply, provision, rfl, hproc, -, rfl⟩ :=
          callOf_createUser hcall
        obtain ⟨row, hrow, -, hbound, -⟩ := (hattached.connects provision
          (List.mem_of_getElem? hproc)).session
        exact hkeep ⟨row, hrow, hbound.trans husername⟩
  · exact hkeep (hattached.panel username account haccount)

theorem attached_step : Attached s' where
  keyed := keyed_step hattached.keyed hstep
  connects := connects_attached hattached hstep
  verifies := verifies_attached hattached hstep
  drains := drains_attached hattached hstep
  deleting := deleting_attached hattached hstep
  consumed := consumed_attached hattached hstep
  extensions := extensions_attached hattached hstep
  reclaimed := reclaimed_attached hattached hstep
  panel := panel_attached hattached hstep

/-! ## Outbox rows that processes refer to -/

/-- A drainer that records a success refers to a row that was there before the
step. -/
theorem rowId_le_of_complete {proc : DrainProc} (hmem : proc ∈ s'.drains)
    (hstage : proc.stage = .complete) :
    proc.row.id ≤ s.world.db.panelOps.length := by
  have hbound : ∀ old ∈ s.drains, old.row.id ≤ s.world.db.panelOps.length := by
    intro old hold
    obtain ⟨op, hop, hid, -⟩ :=
      hattached.drains old hold old.row (List.mem_cons_self ..)
    exact hid ▸ hattached.keyed.opId_le hop
  rcases drains_step hstep hmem with
    hold | ⟨_, -, hdispatch, -⟩ | ⟨i, reply, old, rfl, hproc, hresumed⟩
  · exact hbound proc hold
  · simp [hdispatch] at hstage
  · rcases hresumed with ⟨hrows, -⟩ | ⟨-, hdispatch⟩
    · rw [(List.cons.inj hrows).1]
      exact hbound old (List.mem_of_getElem? hproc)
    · simp [hdispatch] at hstage

/-- So does a claim that records a push. -/
theorem opId_le_of_recordPushed {proc : VerifyProc} {ext : Extension}
    (hmem : proc ∈ s'.verifies) (hstage : proc.stage = .recordPushed ext) :
    ext.opId ≤ s.world.db.panelOps.length := by
  have hbound : ∀ old ∈ s.verifies, old.stage.extension = some ext →
      ext.opId ≤ s.world.db.panelOps.length := by
    intro old hold hext
    obtain ⟨op, hop, hid, -⟩ := ((hattached.verifies old hold).extension ext hext).op
    exact hid ▸ hattached.keyed.opId_le hop
  rcases verifies_step hstep hmem with
    hold | ⟨planned, after, -, -, hstarts⟩ | ⟨i, reply, old, rfl, hproc, -, hpush⟩
  · exact hbound proc hold (by rw [hstage]; rfl)
  · rw [hstage] at hstarts
    cases hstarts
  · rw [hstage] at hpush
    exact hbound old (List.mem_of_getElem? hproc)
      (by rw [hpush.recordPushed.1]; rfl)

end Step

end VpnMiddleware.Processes
