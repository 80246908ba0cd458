import VpnMiddleware.System.Statements

/-!
# How the tables evolve

For every action: how a row of a table may change, and which rows may be
added.  Every invariant over runs is derived from these relations; none of its
proofs looks into an operation again.
-/

namespace VpnMiddleware.Evolution

open VpnMiddleware.Schema VpnMiddleware.Environment VpnMiddleware.Database
open VpnMiddleware.Transaction VpnMiddleware.Table VpnMiddleware.Closing
open VpnMiddleware.Shared VpnMiddleware.Middleware VpnMiddleware.Statements
open VpnMiddleware.ConnectionService VpnMiddleware.ConnectFlow
open VpnMiddleware.AdsService VpnMiddleware.VerifyFlow VpnMiddleware.DrainFlow
open VpnMiddleware.AdminService VpnMiddleware.OutboxDrainer

/-! ## Sessions -/

/-- The session that an action closes by the first statement of
`failSession`. -/
def failClosing (s : State) : Action → Option ℕ
  | .connect i _ reply =>
      match reply.applies, s.connects[i]? with
      | true, some (.provisioning ⟨_, _, tx, .failClose⟩) => some tx.sessionId
      | _, _ => none
  | _ => none

/-- The action runs the first statement of `failSession` for a session. -/
abbrev RunsFailClose (s : State) (act : Action) (sessionId : ℕ) : Prop :=
  failClosing s act = some sessionId

theorem runsFailClose_iff {s : State} {act : Action} {sessionId : ℕ} :
    RunsFailClose s act sessionId ↔
      ∃ i draw reply provision, act = .connect i draw reply ∧
        reply.applies = true ∧
        s.connects[i]? = some (.provisioning provision) ∧
        provision.stage = .failClose ∧
        provision.tx.sessionId = sessionId := by
  constructor
  · intro hcloses
    simp only [RunsFailClose, failClosing] at hcloses
    split at hcloses
    · split at hcloses
      · next happlies hproc =>
          exact ⟨_, _, _, _, rfl, happlies, hproc, rfl,
            Option.some.inj hcloses⟩
      · simp at hcloses
    · simp at hcloses
  · rintro ⟨i, draw, reply, ⟨input, plan, tx, stage⟩, rfl, happlies, hproc,
      rfl, rfl⟩
    simp only [RunsFailClose, failClosing, happlies, hproc]

/-- The outbox row that is queued together with a termination. -/
structure QueuedFor (s : State) (after : Db) (username : String)
    (op : PanelOp) : Prop where
  mem : op ∈ after.panelOps
  reclaims : Reclaims username op
  pending : op.status = .pending
  fresh : s.world.db.panelOps.length < op.id

inductive SessionChange (cfg : Config) (s : State) (act : Action) (after : Db) :
    Session → Session → Prop
  | same (row : Session) : SessionChange cfg s act after row row
  | closed {row : Session} {status : SessionStatus} {reason : String}
      {op : PanelOp} : row.status.isLive = true →
      (status = .revoked ∨ status = .expired) →
      QueuedFor s after row.panelUsername op →
      SessionChange cfg s act after row
        (closeRow s.world.clock status reason row)
  | failed {row : Session} : RunsFailClose s act row.id →
      SessionChange cfg s act after row
        (closeRow s.world.clock .failed "panel_provision_failed" row)
  | extended {row : Session} {input : VerifyInput} {grant : Grant}
      {newExpires : ℕ} : act = .verifyAdReward input →
      Claimed cfg s.world.clock input.userId input.grantId input.sessionId
        s.world.db grant row →
      0 < grant.grantMinutes →
      newExpires = extendedExpiry cfg s.world.clock grant.grantMinutes row →
      after = withExtension s.world.clock input.grantId row newExpires
        s.world.db →
      SessionChange cfg s act after row (extendRow input.grantId newExpires row)
  | stamped (row : Session) : SessionChange cfg s act after row
      { row with lastPanelSyncAt := some s.world.clock }
  | activated (row : Session) : SessionChange cfg s act after row
      { row with activatedAt := some s.world.clock }

/-- Phase A of a connect commits, with these tables after it. -/
structure CommitsPhaseA (cfg : Config) (s : State) (act : Action) (after : Db)
    (input : ConnectInput) (plan : Resolved) (draw : Draw) (tx : TxResult) :
    Prop where
  acts : ∃ i reply, act = .connect i draw reply ∧ reply.applies = true ∧
    s.connects[i]? = some (.resolved input plan)
  commits : connectTransaction cfg s.world.clock input plan draw s.world.db =
    .ok (tx, after)

inductive SessionsAdded (cfg : Config) (s : State) (act : Action) (after : Db) :
    List Session → Prop
  | none : SessionsAdded cfg s act after []
  | phaseA {input : ConnectInput} {plan : Resolved} {draw : Draw}
      {tx : TxResult} {credentialRef : Uuid} :
      CommitsPhaseA cfg s act after input plan draw tx →
      (∀ row ∈ s.world.db.sessions, row.id ≠ draw.sessionId) →
      (∀ row ∈ s.world.db.sessions,
        row.panelUsername ≠ newPanelUsername draw.username) →
      SessionsAdded cfg s act after
        [insertedRow s.world.clock input plan tx.node draw credentialRef]

/-! ## Outbox -/

inductive OpChange (cfg : Config) (s : State) : Action → PanelOp → PanelOp → Prop
  | same (act : Action) (op : PanelOp) : OpChange cfg s act op op
  | leased {locked : List ℕ} {op : PanelOp} : isDue s.world.clock op = true →
      OpChange cfg s (.claim locked) op (lease cfg s.world.clock op)
  | completed {i : ℕ} {reply : IdealPanel.Reply} {proc : DrainProc}
      {op : PanelOp} : s.drains[i]? = some proc → proc.stage = .complete →
      op.id = proc.row.id → op.status = .inFlight →
      OpChange cfg s (.drain i reply) op
        { op with status := .succeeded, completedAt := some s.world.clock }
  | dispatchFailed {i : ℕ} {reply : IdealPanel.Reply} {proc : DrainProc}
      {op : PanelOp} {cause : Errors.Failure} : s.drains[i]? = some proc →
      proc.stage = .recordFailed cause → op.id = proc.row.id →
      op.status = .inFlight →
      OpChange cfg s (.drain i reply) op
        { op with
          status := if isDead cfg proc.row cause then .dead else .failed
          lastError := some (String.ofList (cause.message.toList.take 500))
          nextAttemptAt :=
            s.world.clock + backoffSec proc.row.attempts * 1000 }
  | marked {i : ℕ} {draw : Draw} {reply : IdealPanel.Reply}
      {provision : Provision} {rest : List String} {op : PanelOp} :
      s.connects[i]? = some (.provisioning provision) →
      provision.stage = .revoke .mark op.payload.panelUsername rest →
      op.op = .revokeUser → op.status = .pending →
      OpChange cfg s (.connect i draw reply) op
        { op with status := .succeeded, completedAt := some s.world.clock }
  | pushed {i : ℕ} {reply : IdealPanel.Reply} {proc : VerifyProc}
      {ext : Extension} {op : PanelOp} : s.verifies[i]? = some proc →
      proc.stage = .recordPushed ext → op.id = ext.opId →
      OpChange cfg s (.verify i reply) op
        { op with status := .succeeded, completedAt := some s.world.clock }
  | pushFailed {i : ℕ} {reply : IdealPanel.Reply} {proc : VerifyProc}
      {ext : Extension} {cause : Errors.Failure} {op : PanelOp} :
      s.verifies[i]? = some proc → proc.stage = .recordFailed ext cause →
      op.id = ext.opId →
      OpChange cfg s (.verify i reply) op
        { op with
          status := .failed
          lastError := some (String.ofList (cause.message.toList.take 500))
          nextAttemptAt := s.world.clock + 15000 }

inductive OpsAdded (cfg : Config) (s : State) (after : Db) :
    Action → List PanelOp → Prop
  | closing {rows : List Session} {op : PanelOpKind} (act : Action) :
      (op = .revokeUser ∨ op = .deleteUser) →
      (∀ row ∈ rows, row ∈ s.world.db.sessions ∧ row.status.isLive = true) →
      (∀ row ∈ rows, ∃ row' ∈ after.sessions,
        row'.panelUsername = row.panelUsername ∧ row'.status.isLive = false) →
      OpsAdded cfg s after act (queuedOps s.world.clock op s.world.db.panelOps.length rows)
  | failEnqueue {i : ℕ} {draw : Draw} {reply : IdealPanel.Reply}
      {provision : Provision} :
      s.connects[i]? = some (.provisioning provision) →
      provision.stage = .failEnqueue →
      OpsAdded cfg s after (.connect i draw reply)
        [newPanelOp s.world.clock (s.world.db.panelOps.length + 1)
          provision.tx.sessionId .deleteUser
          { panelUsername := provision.tx.panelUsername }]
  | extension {input : VerifyInput} {grant : Grant} {session : Session}
      {newExpires : ℕ} :
      Claimed cfg s.world.clock input.userId input.grantId input.sessionId
        s.world.db grant session →
      OpsAdded cfg s after (.verifyAdReward input)
        [extendOp s.world.clock (s.world.db.panelOps.length + 1) session.id
          session.panelUsername newExpires]

theorem OpsAdded.none (cfg : Config) (s : State) (after : Db) (act : Action) :
    OpsAdded cfg s after act [] :=
  @OpsAdded.closing cfg s after [] .revokeUser act (Or.inl rfl) (by simp)
    (by simp)

theorem OpsAdded.pending {cfg : Config} {s : State} {after : Db} {act : Action}
    {added : List PanelOp} (hadded : OpsAdded cfg s after act added)
    {op : PanelOp} (hop : op ∈ added) : op.status = .pending := by
  cases hadded with
  | closing _ _ _ _ =>
      obtain ⟨_, _, _, _, rfl⟩ := mem_queuedOps hop
      rfl
  | failEnqueue _ _ =>
      rw [List.mem_singleton] at hop
      exact hop ▸ rfl
  | extension _ =>
      rw [List.mem_singleton] at hop
      exact hop ▸ rfl

theorem OpsAdded.fresh {cfg : Config} {s : State} {after : Db} {act : Action}
    {added : List PanelOp} (hadded : OpsAdded cfg s after act added)
    {op : PanelOp} (hop : op ∈ added) : s.world.db.panelOps.length < op.id := by
  cases hadded with
  | closing _ _ _ _ =>
      obtain ⟨_, _, _, hid, rfl⟩ := mem_queuedOps hop
      exact hid
  | failEnqueue _ _ =>
      rw [List.mem_singleton] at hop
      exact hop ▸ Nat.lt_succ_self _
  | extension _ =>
      rw [List.mem_singleton] at hop
      exact hop ▸ Nat.lt_succ_self _

/-! ## Grants and rewards -/

inductive GrantChange (cfg : Config) (s : State) (act : Action) :
    Grant → Grant → Prop
  | same (row : Grant) : GrantChange cfg s act row row
  | counted {row : Grant} {reward : AdMobReward} :
      act = .operate (.admobSsv reward) → row ∈ s.world.db.grants →
      isOpen s.world.clock row = true →
      GrantChange cfg s act row (countAd s.world.clock row row)
  | consumed {row : Grant} {input : VerifyInput} {session : Session} :
      act = .verifyAdReward input →
      Claimed cfg s.world.clock input.userId input.grantId input.sessionId
        s.world.db row session →
      GrantChange cfg s act row
        (consume s.world.clock input.sessionId row)

/-- A grant as `request-ad-token` or `connect` mints it. -/
structure IsMinted (cfg : Config) (s : State) (grant : Grant) : Prop where
  fresh : ∀ row ∈ s.world.db.grants, row.id ≠ grant.id
  pending : grant.status = .pending
  unverified : grant.verifiedAds = 0
  required : 1 ≤ cfg.requiredAds → 1 ≤ grant.requiredAds

def GrantsAdded (cfg : Config) (s : State) (added : List Grant) : Prop :=
  added = [] ∨ ∃ grant, IsMinted cfg s grant ∧ added = [grant]

/-! ## All tables -/

/-- Primary keys and generated columns. -/
structure Keyed (db : Db) : Prop extends KeyedSessions db where
  grants : (db.grants.map Grant.id).Nodup
  panelOps : db.panelOps.map PanelOp.id = List.range' 1 db.panelOps.length

theorem Keyed.eq_of_opId {db : Db} (hkeyed : Keyed db) {left right : PanelOp}
    (hleft : left ∈ db.panelOps) (hright : right ∈ db.panelOps)
    (hid : left.id = right.id) : left = right := by
  have hnodup : (db.panelOps.map PanelOp.id).Nodup := by
    rw [hkeyed.panelOps]
    exact List.nodup_range'
  exact eq_of_key hnodup hleft hright hid

theorem Keyed.opId_le {db : Db} (hkeyed : Keyed db) {op : PanelOp}
    (hop : op ∈ db.panelOps) : op.id ≤ db.panelOps.length := by
  have hid : op.id ∈ db.panelOps.map PanelOp.id := List.mem_map_of_mem hop
  rw [hkeyed.panelOps, List.mem_range'_1] at hid
  omega

/-- What the statement of an action did to each table. -/
structure Effects (cfg : Config) (s : State) (act : Action) (after : Db) :
    Prop where
  sessions : Evolves (SessionChange cfg s act after) (SessionsAdded cfg s act after)
    s.world.db.sessions after.sessions
  panelOps : Evolves (OpChange cfg s act) (OpsAdded cfg s after act)
    s.world.db.panelOps after.panelOps
  grants : Evolves (GrantChange cfg s act) (GrantsAdded cfg s)
    s.world.db.grants after.grants
  rewards : (∀ reward, act ≠ .operate (.admobSsv reward)) →
    after.rewards = s.world.db.rewards
  users : after.users = s.world.db.users ∨ ∃ userId changes actor,
    act = .operate (.mutateUser userId changes actor) ∧
      BansUser userId s.world.db after

section Effects

variable {cfg : Config} {s : State} {act : Action} {after : Db}

private theorem sessions_same (hsessions : after.sessions = s.world.db.sessions) :
    Evolves (SessionChange cfg s act after) (SessionsAdded cfg s act after)
      s.world.db.sessions after.sessions :=
  hsessions ▸ Evolves.refl (fun row _ => .same row) .none

private theorem panelOps_same
    (hpanelOps : after.panelOps = s.world.db.panelOps) :
    Evolves (OpChange cfg s act) (OpsAdded cfg s after act)
      s.world.db.panelOps after.panelOps :=
  hpanelOps ▸ Evolves.refl (fun op _ => .same act op) (.none cfg s after act)

private theorem grants_same (hgrants : after.grants = s.world.db.grants) :
    Evolves (GrantChange cfg s act) (GrantsAdded cfg s)
      s.world.db.grants after.grants :=
  hgrants ▸ Evolves.refl (fun row _ => .same row) (Or.inl rfl)

theorem Effects.of_sameCore (hsame : SameCore s.world.db after) :
    Effects cfg s act after where
  sessions := sessions_same hsame.sessions
  panelOps := panelOps_same hsame.panelOps
  grants := grants_same hsame.grants
  rewards := fun _ => hsame.rewards
  users := Or.inl hsame.users

/-- An update of session rows alone. -/
theorem Effects.of_updateSessions {selected : Session → Bool}
    {change : Session → Session} {done : Unit}
    (hchange : ∀ row ∈ s.world.db.sessions, selected row = true →
      SessionChange cfg s act after row (change row))
    (hrun : updateSessions selected change s.world.db = .ok (done, after)) :
    Effects cfg s act after := by
  have hafter := modify_ok.mp hrun
  subst hafter
  exact
    { sessions := Evolves.of_updateWhere hchange (fun row _ _ => .same row)
        .none
      panelOps := panelOps_same rfl
      grants := grants_same rfl
      rewards := fun _ => rfl
      users := Or.inl rfl }

/-- An update of outbox rows alone. -/
theorem Effects.of_updatePanelOps {selected : PanelOp → Bool}
    {change : PanelOp → PanelOp} {done : Unit}
    (hchange : ∀ op ∈ s.world.db.panelOps, selected op = true →
      OpChange cfg s act op (change op))
    (hrun : updatePanelOps selected change s.world.db = .ok (done, after)) :
    Effects cfg s act after := by
  have hafter := modify_ok.mp hrun
  subst hafter
  exact
    { sessions := sessions_same rfl
      panelOps := Evolves.of_updateWhere hchange (fun op _ _ => .same act op)
        (.none cfg s _ act)
      grants := grants_same rfl
      rewards := fun _ => rfl
      users := Or.inl rfl }

/-- Closing sessions changes each row in an allowed way. -/
theorem change_of_closes {rows : List Session} {mid : Db}
    (hkeyed : KeyedSessions s.world.db)
    (hcloses : Closes s.world.clock rows s.world.db mid)
    (hqueued : ∀ op ∈ mid.panelOps, op ∈ after.panelOps) {row : Session}
    (hrow : row ∈ s.world.db.sessions)
    (hnamed : isNamedBy Session.id rows row = true)
    {change : Session → Session} (hchange : IsClosing s.world.clock change) :
    SessionChange cfg s act after row (change row) := by
  have hmem := (isNamedBy_iff_mem hkeyed.ids
    (fun other hother => (hcloses.live other hother).1) hrow).mp hnamed
  obtain ⟨op, hop, hpanelOps⟩ := hcloses.panelOps
  obtain ⟨id, hid, hqueuedOp⟩ := @exists_queuedOps s.world.clock op rows row hmem
    s.world.db.panelOps.length
  obtain ⟨status, reason, hstatus, hclosed⟩ := hchange row
  have hadded : newPanelOp s.world.clock id row.id op
      { panelUsername := row.panelUsername } ∈ mid.panelOps := by
    rw [hpanelOps]
    exact List.mem_append_right _ hqueuedOp
  rw [hclosed]
  exact .closed (hcloses.live row hmem).2 hstatus
    ⟨hqueued _ hadded, ⟨hop, rfl⟩, rfl, hid⟩

theorem Effects.of_closes {rows : List Session}
    (hkeyed : KeyedSessions s.world.db)
    (hcloses : Closes s.world.clock rows s.world.db after)
    (husers : after.users = s.world.db.users ∨ ∃ userId changes actor,
      act = .operate (.mutateUser userId changes actor) ∧
        BansUser userId s.world.db after) : Effects cfg s act after where
  sessions := by
    obtain ⟨change, hchange, hsessions⟩ := hcloses.sessions
    rw [hsessions]
    refine Evolves.of_updateWhere (fun row hrow hnamed => ?_)
      (fun row _ _ => .same row) .none
    exact change_of_closes hkeyed hcloses (fun _ hop => hop) hrow hnamed hchange
  panelOps := by
    obtain ⟨op, hop, hpanelOps⟩ := hcloses.panelOps
    rw [hpanelOps]
    exact Evolves.of_append (fun op _ => .same act op)
      (.closing act hop hcloses.live fun _ hrow => hcloses.exists_closed hrow)
  grants := grants_same hcloses.grants
  rewards := fun _ => hcloses.rewards
  users := husers

theorem Effects.of_connectCommit {i : ℕ} {draw : Draw}
    {reply : IdealPanel.Reply} {input : ConnectInput} {plan : Resolved}
    {tx : TxResult} {rows : List Session} {mid : Db} {credentialRef : Uuid}
    (hkeyed : KeyedSessions s.world.db) (happlies : reply.applies = true)
    (hproc : s.connects[i]? = some (.resolved input plan))
    (hrun : connectTransaction cfg s.world.clock input plan draw s.world.db =
      .ok (tx, after))
    (hcommit : ConnectCommit cfg s.world.clock input plan draw s.world.db tx
      after rows mid credentialRef) :
    Effects cfg s (.connect i draw reply) after where
  sessions := by
    have hcloses := hcommit.closes
    obtain ⟨change, hchange, hmid⟩ := hcloses.sessions
    rw [hcommit.sessions, hmid]
    refine Evolves.of_updateWhere_append (fun row hrow hnamed => ?_)
      (fun row _ _ => .same row) 
      (.phaseA ⟨⟨i, reply, rfl, happlies, hproc⟩, hrun⟩ ?_ ?_)
    · refine change_of_closes hkeyed hcloses (fun op hop => ?_) hrow hnamed
        hchange
      rw [hcommit.panelOps]
      exact hop
    · intro row hrow
      obtain ⟨row', hrow', hid, -⟩ := hcloses.exists_row hrow
      exact hid ▸ hcommit.fresh_id row' hrow'
    · intro row hrow
      obtain ⟨row', hrow', -, husername⟩ := hcloses.exists_row hrow
      exact husername ▸ hcommit.fresh_username row' hrow'
  panelOps := by
    obtain ⟨op, hop, hpanelOps⟩ := hcommit.closes.panelOps
    rw [hcommit.panelOps, hpanelOps]
    refine Evolves.of_append (fun op _ => .same _ op)
      (.closing _ hop hcommit.closes.live fun row hrow => ?_)
    obtain ⟨row', hrow', hclosed⟩ := hcommit.closes.exists_closed hrow
    rw [hcommit.sessions]
    exact ⟨row', List.mem_append_left _ hrow', hclosed⟩
  grants := by
    rw [hcommit.grants]
    refine Evolves.of_append (fun row _ => .same row) ?_
    cases htier : plan.tier with
    | premium => exact Or.inl rfl
    | free =>
        exact Or.inr ⟨connectGrant cfg s.world.clock input plan draw.sessionId
          draw, ⟨hcommit.fresh_grant htier, rfl, rfl, fun hpos => hpos⟩, rfl⟩
  rewards := fun _ => hcommit.rewards
  users := Or.inl hcommit.users

/-! ## Each action -/

theorem effects_operate {op : Operation} {done : Unit}
    (hkeyed : Keyed s.world.db)
    (hrun : op.query cfg s.world.clock s.world.db = .ok (done, after)) :
    Effects cfg s (.operate op) after := by
  cases op with
  | requestAdToken userId deviceId purpose sessionId grantId bytes =>
      obtain ⟨_, hrun⟩ := effect_ok.mp hrun
      obtain ⟨hfresh, rfl⟩ := requestAdToken_ok hrun
      refine ⟨sessions_same rfl, panelOps_same rfl, ?_, fun _ => rfl,
        Or.inl rfl⟩
      refine Evolves.of_append (fun row _ => .same row) (Or.inr ⟨_, ?_, rfl⟩)
      exact ⟨hfresh, rfl, rfl, fun _ => rulesFor_pos purpose⟩
  | admobSsv reward =>
      obtain ⟨_, hrun⟩ := effect_ok.mp hrun
      rcases recordVerifiedReward_ok hrun with ⟨-, rfl⟩ | ⟨grant, hgrant, -, h⟩
      · exact Effects.of_sameCore ⟨rfl, rfl, rfl, rfl, rfl⟩
      · rcases h with ⟨-, rfl⟩ | ⟨-, hopen, rfl⟩
        · exact ⟨sessions_same rfl, panelOps_same rfl, grants_same rfl,
            fun hne => absurd rfl (hne reward), Or.inl rfl⟩
        · refine ⟨sessions_same rfl, panelOps_same rfl, ?_,
            fun hne => absurd rfl (hne reward), Or.inl rfl⟩
          refine Evolves.of_updateWhere (fun row hrow hid => ?_)
            (fun row _ _ => .same row) (Or.inl rfl)
          obtain rfl : row = grant :=
            eq_of_key hkeyed.grants hrow hgrant (by simpa using hid)
          exact .counted rfl hrow hopen
  | sweepOnce locked =>
      obtain ⟨_, hrun⟩ := effect_ok.mp hrun
      obtain ⟨⟨rows, hcloses⟩, husers⟩ :=
        sweepOnce_ok hkeyed.toKeyedSessions hrun
      exact Effects.of_closes hkeyed.toKeyedSessions hcloses (Or.inl husers)
  | kickSession sessionId =>
      obtain ⟨⟨rows, hcloses⟩, husers⟩ :=
        kickSession_ok hkeyed.toKeyedSessions hrun
      exact Effects.of_closes hkeyed.toKeyedSessions hcloses (Or.inl husers)
  | mutateUser userId changes actor =>
      obtain ⟨_, hrun⟩ := effect_ok.mp hrun
      obtain ⟨⟨rows, hcloses⟩, husers⟩ :=
        mutateUser_ok hkeyed.toKeyedSessions hrun
      exact Effects.of_closes hkeyed.toKeyedSessions hcloses
        (Or.inr ⟨userId, changes, actor, rfl, husers⟩)
  | panicRevokeFreeSessions actor =>
      obtain ⟨_, hrun⟩ := effect_ok.mp hrun
      obtain ⟨⟨rows, hcloses⟩, husers⟩ :=
        panicRevokeFreeSessions_ok hkeyed.toKeyedSessions hrun
      exact Effects.of_closes hkeyed.toKeyedSessions hcloses (Or.inl husers)
  | setNodeActive nodeId isActive =>
      exact Effects.of_sameCore (setNodeActive_ok hrun)
  | forceMigrateNode nodeId actor =>
      obtain ⟨_, hrun⟩ := effect_ok.mp hrun
      obtain ⟨⟨rows, hcloses⟩, husers⟩ :=
        forceMigrateNode_ok hkeyed.toKeyedSessions hrun
      exact Effects.of_closes hkeyed.toKeyedSessions hcloses (Or.inl husers)
  | syncNode panelNodeId panelStatus =>
      have hafter := modify_ok.mp hrun
      subst hafter
      exact Effects.of_sameCore ⟨rfl, rfl, rfl, rfl, rfl⟩
  | maintain tables =>
      have hafter := modify_ok.mp hrun
      subst hafter
      exact Effects.of_sameCore ⟨rfl, rfl, rfl, rfl, rfl⟩

theorem effects_provision {i : ℕ} {draw : Draw} {reply : IdealPanel.Reply}
    {provision : Provision} {query : Query Unit} {done : Unit}
    (hproc : s.connects[i]? = some (.provisioning provision))
    (happlies : reply.applies = true)
    (hstatement : provisionStatement cfg s.world.clock provision = some query)
    (hrun : query s.world.db = .ok (done, after)) :
    Effects cfg s (.connect i draw reply) after := by
  rw [provisionStatement] at hstatement
  cases hstage : provision.stage with
  | revoke call username rest =>
      cases call with
      | disable => simp [hstage] at hstatement
      | delete => simp [hstage] at hstatement
      | mark =>
          simp only [hstage, Option.some.injEq] at hstatement
          subst hstatement
          refine Effects.of_updatePanelOps (fun op _ hselected => ?_) hrun
          simp only [Bool.and_eq_true, beq_iff_eq] at hselected
          obtain ⟨⟨hop, hstatus⟩, husername⟩ := hselected
          exact .marked hproc (husername ▸ hstage) hop hstatus
  | createUser => simp [hstage] at hstatement
  | getUser => simp [hstage] at hstatement
  | failClose =>
      simp only [hstage, Option.some.injEq] at hstatement
      subst hstatement
      refine Effects.of_updateSessions (fun row _ hselected => .failed ?_) hrun
      exact runsFailClose_iff.mpr ⟨i, draw, reply, provision, rfl, happlies,
        hproc, hstage, (beq_iff_eq.mp hselected).symm⟩
  | failEnqueue =>
      simp only [hstage, Option.some.injEq] at hstatement
      subst hstatement
      obtain ⟨_, hrun⟩ := effect_ok.mp hrun
      obtain ⟨-, rfl⟩ := enqueue_ok.mp hrun
      exact
        { sessions := sessions_same rfl
          panelOps := Evolves.of_append (fun op _ => .same _ op)
            (.failEnqueue hproc hstage)
          grants := grants_same rfl
          rewards := fun _ => rfl
          users := Or.inl rfl }
  | failPenalize =>
      simp only [hstage, Option.some.injEq] at hstatement
      subst hstatement
      have hafter := modify_ok.mp hrun
      subst hafter
      exact Effects.of_sameCore ⟨rfl, rfl, rfl, rfl, rfl⟩
  | activate =>
      simp only [hstage, Option.some.injEq] at hstatement
      subst hstatement
      exact Effects.of_updateSessions (fun row _ _ => .activated row) hrun
  | buildPayload =>
      simp only [hstage, Option.some.injEq] at hstatement
      subst hstatement
      obtain ⟨_, hrun⟩ := effect_ok.mp hrun
      rw [(buildPayload_ok hrun).1]
      exact Effects.of_sameCore ⟨rfl, rfl, rfl, rfl, rfl⟩

theorem effects_verifyAdReward {input : VerifyInput} {planned : Planned}
    (hkeyed : Keyed s.world.db)
    (hrun : verifyTransaction cfg s.world.clock input.userId input.grantId
      input.sessionId s.world.db = .ok (planned, after)) :
    Effects cfg s (.verifyAdReward input) after := by
  have hconsumed : ∀ {grant : Grant} {session : Session},
      Claimed cfg s.world.clock input.userId input.grantId input.sessionId
        s.world.db grant session →
      Evolves (GrantChange cfg s (.verifyAdReward input)) (GrantsAdded cfg s)
        s.world.db.grants (updateWhere (fun row => row.id == input.grantId)
          (consume s.world.clock input.sessionId) s.world.db.grants) := by
    intro grant session hclaimed
    refine Evolves.of_updateWhere (fun row hrow hid => ?_)
      (fun row _ _ => .same row) (Or.inl rfl)
    obtain rfl : row = grant := eq_of_key hkeyed.grants hrow hclaimed.grant_mem
      ((beq_iff_eq.mp hid).trans hclaimed.grant_id.symm)
    exact .consumed rfl hclaimed
  cases verifyTransaction_ok hrun with
  | replay => exact Effects.of_sameCore ⟨rfl, rfl, rfl, rfl, rfl⟩
  | claim hclaimed hzero =>
      exact
        { sessions := sessions_same rfl
          panelOps := panelOps_same rfl
          grants := hconsumed hclaimed
          rewards := fun _ => rfl
          users := Or.inl rfl }
  | @extend grant session newExpires hclaimed hpos hexpires =>
      refine
        { sessions := ?_
          panelOps := Evolves.of_append (fun op _ => .same _ op)
            (.extension hclaimed)
          grants := by
            have hgrants := hconsumed hclaimed
            rw [← hclaimed.session_id] at hgrants
            exact hgrants
          rewards := fun _ => rfl
          users := Or.inl rfl }
      refine Evolves.of_updateWhere (fun row hrow hid => ?_)
        (fun row _ _ => .same row) .none
      obtain rfl : row = session :=
        eq_of_key hkeyed.ids hrow hclaimed.session_mem (beq_iff_eq.mp hid)
      exact .extended rfl hclaimed hpos hexpires rfl

theorem effects_verify {i : ℕ} {reply : IdealPanel.Reply} {proc : VerifyProc}
    {query : Query Unit} {done : Unit} (hproc : s.verifies[i]? = some proc)
    (hstatement : verifyStatement s.world.clock proc = some query)
    (hrun : query s.world.db = .ok (done, after)) :
    Effects cfg s (.verify i reply) after := by
  rw [verifyStatement] at hstatement
  cases hstage : proc.stage with
  | push ext => simp [hstage] at hstatement
  | recordPushed ext =>
      simp only [hstage, Option.some.injEq] at hstatement
      subst hstatement
      exact Effects.of_updatePanelOps (fun op _ hid =>
        .pushed hproc hstage (beq_iff_eq.mp hid)) hrun
  | stampSync ext =>
      simp only [hstage, Option.some.injEq] at hstatement
      subst hstatement
      exact Effects.of_updateSessions (fun row _ _ => .stamped row) hrun
  | recordFailed ext cause =>
      simp only [hstage, Option.some.injEq] at hstatement
      subst hstatement
      exact Effects.of_updatePanelOps (fun op _ hid =>
        .pushFailed hproc hstage (beq_iff_eq.mp hid)) hrun
  | deliver ext sync => simp [hstage] at hstatement
  | replay sessionId expiresAt => simp [hstage] at hstatement

theorem effects_drain {i : ℕ} {reply : IdealPanel.Reply} {proc : DrainProc}
    {query : Query Unit} {done : Unit} (hproc : s.drains[i]? = some proc)
    (hstatement : drainStatement cfg s.world.clock proc = some query)
    (hrun : query s.world.db = .ok (done, after)) :
    Effects cfg s (.drain i reply) after := by
  rw [drainStatement] at hstatement
  cases hstage : proc.stage with
  | dispatch => simp [hstage] at hstatement
  | delete => simp [hstage] at hstatement
  | complete =>
      simp only [hstage, Option.some.injEq] at hstatement
      subst hstatement
      refine Effects.of_updatePanelOps (fun op _ hselected => ?_) hrun
      simp only [Bool.and_eq_true, beq_iff_eq] at hselected
      exact .completed hproc hstage hselected.1 hselected.2
  | stamp =>
      simp only [hstage, Option.some.injEq] at hstatement
      subst hstatement
      exact Effects.of_updateSessions (fun row _ _ => .stamped row) hrun
  | recordFailed cause =>
      simp only [hstage, Option.some.injEq] at hstatement
      subst hstatement
      refine Effects.of_updatePanelOps (fun op _ hselected => ?_) hrun
      simp only [Bool.and_eq_true, beq_iff_eq] at hselected
      exact .dispatchFailed hproc hstage hselected.1 hselected.2

theorem effects_of_statement {query : Query Unit} {done : Unit}
    (hkeyed : Keyed s.world.db) (happlies : (replyOf act).applies = true)
    (hstatement : statementOf cfg s act = some query)
    (hrun : query s.world.db = .ok (done, after)) :
    Effects cfg s act after := by
  cases act with
  | operate op =>
      obtain rfl := Option.some.inj hstatement
      exact effects_operate hkeyed hrun
  | connect i draw reply =>
      obtain ⟨proc, hproc, hstatement⟩ := Option.bind_eq_some_iff.mp hstatement
      cases proc with
      | admitted input => simp [connectStatement] at hstatement
      | resolved input plan =>
          obtain rfl := Option.some.inj hstatement
          obtain ⟨_, hrun⟩ := effect_ok.mp hrun
          obtain ⟨rows, mid, credentialRef, hcommit⟩ := connectTransaction_ok hrun
          exact Effects.of_connectCommit hkeyed.toKeyedSessions happlies hproc
            hrun hcommit
      | provisioning provision =>
          exact effects_provision hproc happlies hstatement hrun
  | verifyAdReward input =>
      obtain rfl := Option.some.inj hstatement
      obtain ⟨_, hrun⟩ := effect_ok.mp hrun
      exact effects_verifyAdReward hkeyed hrun
  | verify i reply =>
      obtain ⟨proc, hproc, hstatement⟩ := Option.bind_eq_some_iff.mp hstatement
      exact effects_verify hproc hstatement hrun
  | claim locked =>
      obtain rfl := Option.some.inj hstatement
      obtain ⟨_, hrun⟩ := effect_ok.mp hrun
      obtain ⟨-, rfl⟩ := claim_ok hrun
      refine ⟨sessions_same rfl, ?_, grants_same rfl, fun _ => rfl, Or.inl rfl⟩
      refine Evolves.of_updateWhere (fun op hop hnamed => ?_)
        (fun op _ _ => .same _ op) (.none cfg s _ _)
      have hclaimed := (isNamedBy_iff_mem ?_
        (fun other hother => (mem_claimable hother).1) hop).mp hnamed
      · exact .leased (mem_claimable hclaimed).2
      · rw [hkeyed.panelOps]
        exact List.nodup_range'
  | drain i reply =>
      obtain ⟨proc, hproc, hstatement⟩ := Option.bind_eq_some_iff.mp hstatement
      exact effects_drain hproc hstatement hrun
  | advance ms => simp [statementOf] at hstatement
  | requestConnect userId deviceId presented => simp [statementOf] at hstatement
  | crashConnect i => simp [statementOf] at hstatement
  | crashVerify i => simp [statementOf] at hstatement
  | crashDrain i => simp [statementOf] at hstatement

/-- What a step does to the tables. -/
theorem step_effects {s' : State} (hkeyed : Keyed s.world.db)
    (hstep : step cfg s act = some s') : Effects cfg s act s'.world.db := by
  rcases step_commits hstep with hsame | ⟨happlies, query, done, hstatement, hrun⟩
  · rw [hsame]
    exact Effects.of_sameCore ⟨rfl, rfl, rfl, rfl, rfl⟩
  · exact effects_of_statement hkeyed happlies hstatement hrun

/-- The first statement of `failSession` changes the session table alone. -/
theorem failClose_db {s' : State} {sessionId : ℕ}
    (hcloses : RunsFailClose s act sessionId)
    (hstep : step cfg s act = some s') :
    s'.world.db = { s.world.db with
      sessions := updateWhere (fun row => row.id == sessionId)
        (closeRow s.world.clock .failed "panel_provision_failed")
        s.world.db.sessions } := by
  obtain ⟨i, draw, reply, ⟨input, plan, tx, _⟩, rfl, happlies, hproc, rfl, rfl⟩ :=
    runsFailClose_iff.mp hcloses
  have hdb := step_db hstep
  simp only [replyOf, happlies, statementOf, hproc] at hdb
  exact hdb

/-- Its second statement appends an outbox row. -/
theorem failEnqueue_db {s' : State} {i : ℕ} {draw : Draw}
    {provision : Provision} (hproc : s.connects[i]? = some (.provisioning provision))
    (hstage : provision.stage = .failEnqueue)
    (hstep : step cfg s (.connect i draw .ok) = some s') :
    s'.world.db = { s.world.db with
      panelOps := s.world.db.panelOps ++
        [newPanelOp s.world.clock (s.world.db.panelOps.length + 1)
          provision.tx.sessionId .deleteUser
          { panelUsername := provision.tx.panelUsername }] } := by
  have hdb := step_db hstep
  simp only [replyOf, IdealPanel.Reply.applies, statementOf, hproc,
    Option.bind_some, connectStatement, provisionStatement, hstage] at hdb
  exact hdb

/-- The tables after a commit of Phase A. -/
theorem phaseA_db {s' : State} {input : ConnectInput} {plan : Resolved}
    {draw : Draw} {tx : TxResult}
    (hcommits : CommitsPhaseA cfg s act after input plan draw tx)
    (hstep : step cfg s act = some s') : s'.world.db = after := by
  obtain ⟨i, reply, rfl, happlies, hproc⟩ := hcommits.acts
  have hdb := step_db hstep
  simp only [replyOf, happlies, statementOf, hproc, Option.bind_some,
    connectStatement, withTransaction_effect] at hdb
  rw [hdb, withTransaction_of_ok hcommits.commits]

/-- The tables after a commit of `verifyAdReward`. -/
theorem verify_db {s' : State} {input : VerifyInput} {planned : Planned}
    (hrun : verifyTransaction cfg s.world.clock input.userId input.grantId
      input.sessionId s.world.db = .ok (planned, after))
    (hstep : step cfg s (.verifyAdReward input) = some s') :
    s'.world.db = after := by
  have hdb := (step_db hstep).trans (withTransaction_effect _ _)
  rw [hdb, withTransaction_of_ok hrun]

end Effects

end VpnMiddleware.Evolution
