import VpnMiddleware.Admin.AdminController

/-!
# One audit row for each destructive action

A transaction and the interceptor share the audit rows of a request between
them.  Every entry of the interceptor reaches the database at a moment of its
own, so that other requests may run between the response and its rows.
-/

namespace VpnMiddleware.AuditTrail

open VpnMiddleware.Schema VpnMiddleware.Errors VpnMiddleware.Environment
open VpnMiddleware.Database VpnMiddleware.Transaction VpnMiddleware.JsonText
open VpnMiddleware.Table VpnMiddleware.Closing VpnMiddleware.SettingsService
open VpnMiddleware.AdminService VpnMiddleware.AdminController

variable {cfg : Config} {call : Call} {store : Store} {db after : Db}
variable {now count : ℕ} {actor : AdminActor}

/-! ## Actions -/

inductive DestructiveAction
  | ban (userId : ℕ)
  | unban (userId : ℕ)
  | changeTier (userId : ℕ) (tier : PlanTier)
  | kick (sessionId : ℕ)
  | setNodeStatus (nodeId : ℕ) (isActive : Bool)
  | forceMigrate (nodeId : ℕ)
  | panic
  | replacePanelConfig (config : Json)

/-- The session exists and is not live. -/
def IsClosed (sessionId : ℕ) (db : Db) : Prop :=
  ∃ row ∈ db.sessions.find? fun row => row.id == sessionId,
    row.status.isLive = false

instance (sessionId : ℕ) (db : Db) : Decidable (IsClosed sessionId db) :=
  inferInstanceAs (Decidable (∃ row ∈ (_ : Option Session), _))

def banActions (userId : ℕ) : Option Bool → List DestructiveAction
  | some true => [.ban userId]
  | some false => [.unban userId]
  | none => []

/-- What a request performs when it resolves: the handler returns before the
write of a closed session. -/
def performs (request : Request) (db : Db) : List DestructiveAction :=
  match request with
  | .mutate userId body =>
      match MutateUserDto.validate body with
      | none => []
      | some dto => banActions userId dto.isBanned.join ++
          (dto.tier.map (.changeTier userId)).toList
  | .kick sessionId => if IsClosed sessionId db then [] else [.kick sessionId]
  | .setNodeStatus nodeId body =>
      (((NodeStatusDto.validate body).bind NodeStatusDto.isActive).map
        (.setNodeStatus nodeId)).toList
  | .forceMigrate nodeId => [.forceMigrate nodeId]
  | .panic => [.panic]
  | .setPanelSettings body => [.replacePanelConfig body]

/-- What is so once an action was performed. -/
def Done (store : Store) : DestructiveAction → Prop
  | .ban userId => ∀ user ∈ store.db.users, user.id = userId →
      user.isBanned = true
  | .unban userId => ∀ user ∈ store.db.users, user.id = userId →
      user.isBanned = false
  | .changeTier userId .premium => ∃ row ∈ store.db.subscriptions,
      row.userId = userId ∧ row.source = .internal ∧ row.status = .active
  | .changeTier userId .free => ∀ row ∈ store.db.subscriptions,
      row.userId = userId → row.source = .internal →
      (row.status = .active ∨ row.status = .inGrace) →
      ∀ plan ∈ store.db.plans, plan.id = row.planId → plan.tier ≠ .premium
  | .kick sessionId => ∃ row ∈ store.db.sessions,
      row.id = sessionId ∧ row.status = .revoked
  | .setNodeStatus nodeId isActive => ∀ node ∈ store.db.nodes,
      node.id = nodeId → node.isActive = isActive
  | .forceMigrate nodeId => ∀ node ∈ store.db.nodes, node.id = nodeId →
      node.isActive = false
  | .panic => ∀ row ∈ store.db.sessions, row.tier = .free →
      row.status.isLive = false
  | .replacePanelConfig config => store.panelConfig = some config

/-- The type and the target that stand for an action.  No action type stands
for a replaced panel configuration. -/
def DestructiveAction.isRecordedAs :
    DestructiveAction → Option (AdminActionType × Option ℕ)
  | .ban userId => some (.banUser, some userId)
  | .unban userId => some (.unbanUser, some userId)
  | .changeTier userId _ => some (.changeTier, some userId)
  | .kick sessionId => some (.kickSession, some sessionId)
  | .setNodeStatus nodeId _ => some (.setNodeStatus, some nodeId)
  | .forceMigrate nodeId => some (.forceMigrateNode, some nodeId)
  | .panic => some (.panicFreeSessions, none)
  | .replacePanelConfig _ => none

/-- The row names the action, its target and the administrator. -/
def Records (actor : AdminActor) (action : DestructiveAction)
    (row : AuditLog) : Prop :=
  action.isRecordedAs = some (row.actionType, row.targetId) ∧
    row.adminId = actor.adminId

/-! ## The law -/

/-- When an entry reaches the database. -/
structure Moment where
  now : ℕ
  db : Db

def addedRows (before after : Db) : List AuditLog :=
  after.auditLogs.drop before.auditLogs.length

/-- The rows of a list of entries, the first at the first moment. -/
def recordedRows (cfg : Config) (actor : AdminActor) :
    List AuditEntry → (ℕ → Moment) → List AuditLog
  | [], _ => []
  | entry :: entries, later =>
      addedRows (later 0).db
          (record cfg (later 0).now actor entry (later 0).db) ++
        recordedRows cfg actor entries fun i => later (i + 1)

/-- All rows of a request: those of its transaction and those that follow. -/
def rowsOf (cfg : Config) (call : Call) (store : Store) (later : ℕ → Moment) :
    List AuditLog :=
  let outcome := intercept cfg call store
  addedRows store.db outcome.store.db ++
    recordedRows cfg call.actor outcome.entries later

/-- One row for each action of a resolved request, none for a failed one. -/
def AuditedOnce (cfg : Config) (call : Call) (store : Store)
    (later : ℕ → Moment) : Prop :=
  match (intercept cfg call store).result with
  | .ok _ => List.Forall₂ (Records call.actor)
      (performs call.request store.db) (rowsOf cfg call store later)
  | .error _ => rowsOf cfg call store later = []

/-- An audit row of the administrator can be inserted. -/
def AcceptsAudit (cfg : Config) (actor : AdminActor) (db : Db) : Prop :=
  (normalizeIp actor.ip).all cfg.inetAccepts = true ∧
    (actor.adminId.all fun adminId =>
      db.users.any fun user => user.id == adminId) = true

/-- A panel configuration is stored, or a closed session is kicked. -/
def Escapes (request : Request) (db : Db) : Prop :=
  match request with
  | .setPanelSettings body => hasNul body = false
  | .kick sessionId => IsClosed sessionId db
  | _ => False

/-! ## The rows of the transactions -/

theorem addedRows_of_append {rows : List AuditLog}
    (hlogs : after.auditLogs = db.auditLogs ++ rows) :
    addedRows db after = rows := by
  rw [addedRows, hlogs, List.drop_left]

theorem addedRows_self (hlogs : after.auditLogs = db.auditLogs) :
    addedRows db after = [] :=
  addedRows_of_append (by rw [hlogs, List.append_nil])

theorem recordInTx_db {actionType : AdminActionType} {targetId : Option ℕ}
    {details : ℕ} {done : Unit}
    (hok : recordInTx cfg now actor actionType targetId details db =
      .ok (done, after)) :
    after = { db with
      auditLogs := db.auditLogs ++ [⟨actor.adminId, actionType, targetId,
        details, normalizeIp actor.ip, now⟩] } := by
  simp only [recordInTx, bind_ok, get_ok, require_ok, modify_ok] at hok
  obtain ⟨_, _, ⟨rfl, rfl⟩, _, _, ⟨-, rfl⟩, _, _, ⟨-, rfl⟩, rfl⟩ := hok
  rfl

theorem recordInTx_logs {actionType : AdminActionType} {targetId : Option ℕ}
    {details : ℕ} {done : Unit}
    (hok : recordInTx cfg now actor actionType targetId details db =
      .ok (done, after)) :
    after.auditLogs = db.auditLogs ++ [⟨actor.adminId, actionType, targetId,
      details, normalizeIp actor.ip, now⟩] := by
  rw [recordInTx_db hok]

theorem revokeWhere_db {selected : Session → Bool} {reason : String}
    (hok : revokeWhere now selected reason db = .ok (count, after)) :
    ∃ queued, after = { db with
      sessions := updateWhere (fun row => selected row && row.status.isLive)
        (closeRow now .revoked reason) db.sessions
      panelOps := db.panelOps ++ queued } := by
  simp only [revokeWhere, enqueueRevokes, updateSessions, bind_ok, get_ok,
    modify_ok, pure_ok] at hok
  obtain ⟨_, _, ⟨rfl, rfl⟩, _, _, rfl, _, _, hrun, -, rfl⟩ := hok
  exact ⟨_, enqueueEach_ok hrun⟩

theorem revokeWhere_logs {selected : Session → Bool} {reason : String}
    (hok : revokeWhere now selected reason db = .ok (count, after)) :
    after.auditLogs = db.auditLogs := by
  obtain ⟨queued, rfl⟩ := revokeWhere_db hok
  rfl

theorem kickSession_logs {sessionId : ℕ} {done : Unit}
    (hok : kickSession now sessionId db = .ok (done, after)) :
    after.auditLogs = db.auditLogs := by
  simp only [kickSession, enqueueRevokes, updateSessions, bind_ok, get_ok,
    expect_ok] at hok
  obtain ⟨_, _, ⟨rfl, rfl⟩, row, _, ⟨-, rfl⟩, hrest⟩ := hok
  split at hrest
  · simp only [bind_ok, modify_ok] at hrest
    obtain ⟨_, _, rfl, hrun⟩ := hrest
    rw [enqueueEach_ok hrun]
  · rw [← (pure_ok.mp hrest).2]

theorem setNodeActive_logs {nodeId : ℕ} {isActive : Bool} {done : Unit}
    (hok : setNodeActive nodeId isActive db = .ok (done, after)) :
    after.auditLogs = db.auditLogs := by
  simp only [setNodeActive, updateNode, bind_ok, get_ok, require_ok,
    modify_ok] at hok
  obtain ⟨_, _, ⟨rfl, rfl⟩, _, _, rfl, -, rfl⟩ := hok
  rfl

theorem applyTier_logs {userId : ℕ} {changes : UserChanges} {done : Unit}
    (hok : applyTier cfg now userId changes db = .ok (done, after)) :
    after.auditLogs = db.auditLogs := by
  rcases htier : changes.tier with _ | (_ | _)
  · rw [applyTier, htier] at hok
    rw [← (pure_ok.mp hok).2]
  · rw [applyTier, htier] at hok
    simp only [expireInternalPremium, modify_ok] at hok
    rw [← hok]
  · rw [applyTier, htier] at hok
    simp only [grantInternalPremium, bind_ok, get_ok, expect_ok,
      modify_ok] at hok
    obtain ⟨_, _, rfl, _, _, ⟨rfl, rfl⟩, _, _, ⟨-, rfl⟩, rfl⟩ := hok
    split_ifs <;> rfl

/-- Only a ban is recorded in its transaction. -/
def banRows (now userId count : ℕ) (actor : AdminActor) :
    Option Bool → List AuditLog
  | some true => [⟨actor.adminId, .banUser, some userId, count,
      normalizeIp actor.ip, now⟩]
  | some false | none => []

theorem applyBan_logs {userId : ℕ} {isBanned : Option Bool}
    (hok : applyBan cfg now userId isBanned actor db = .ok (count, after)) :
    after.auditLogs = db.auditLogs ++ banRows now userId count actor isBanned := by
  rcases isBanned with _ | (_ | _)
  · rw [← (pure_ok.mp hok).2, banRows, List.append_nil]
  · simp only [applyBan, setBanned, bind_ok, modify_ok, pure_ok] at hok
    obtain ⟨_, _, rfl, -, rfl⟩ := hok
    rw [banRows, List.append_nil]
  · simp only [applyBan, setBanned, revokeUserSessions, bind_ok, modify_ok,
      pure_ok] at hok
    obtain ⟨_, flagged, hflagged, _, _, hrevoke, _, _, haudit, rfl, rfl⟩ := hok
    rw [recordInTx_logs haudit, revokeWhere_logs hrevoke, ← hflagged]
    rfl

theorem mutateUser_logs {userId : ℕ} {changes : UserChanges}
    (hok : mutateUser cfg now userId changes actor db = .ok (count, after)) :
    after.auditLogs =
      db.auditLogs ++ banRows now userId count actor changes.isBanned := by
  simp only [mutateUser, bind_ok, get_ok, require_ok, pure_ok] at hok
  obtain ⟨_, _, ⟨rfl, rfl⟩, _, _, ⟨-, rfl⟩, _, _, hban, _, _, htier, rfl,
    rfl⟩ := hok
  rw [applyTier_logs htier, applyBan_logs hban]

/-- A null ban flag never gets as far as `mutateUser`. -/
theorem mutate_ok {userId : ℕ} {dto : MutateUserDto}
    (hok : mutate cfg call userId dto db = .ok (count, after)) :
    mutateUser cfg call.now userId
      { tier := dto.tier, isBanned := dto.isBanned.join,
        newPlanId := call.newPlanId,
        newSubscriptionId := call.newSubscriptionId } call.actor db =
      .ok (count, after) := by
  rcases hbanned : dto.isBanned with _ | (_ | isBanned)
  · rw [mutate, hbanned] at hok
    exact hok
  · rw [mutate, hbanned] at hok
    simp only [bind_ok, get_ok, require_ok, throw_ok] at hok
    obtain ⟨_, _, _, _, _, _, hthrown⟩ := hok
    exact hthrown.elim
  · rw [mutate, hbanned] at hok
    exact hok

/-! ## What a resolved request did -/

section Effects

variable {after : Store}

/-- Every row that an update selects satisfies what the update sets. -/
theorem forall_updateWhere {Row : Type} {selected : Row → Bool}
    {change : Row → Row} {rows : List Row} {Holds : Row → Prop}
    (hchange : ∀ row, selected row = true → Holds (change row))
    (hother : ∀ row ∈ rows, selected row = false → Holds row) :
    ∀ row ∈ updateWhere selected change rows, Holds row := by
  intro row' hrow'
  obtain ⟨row, hrow, rfl⟩ := mem_updateWhere.mp hrow'
  cases hselected : selected row with
  | true => exact hchange row hselected
  | false => exact hother row hrow hselected

theorem banned_of_applyBan {userId : ℕ} {isBanned : Bool} {after : Db}
    (hok : applyBan cfg now userId (some isBanned) actor db =
      .ok (count, after)) :
    ∀ user ∈ after.users, user.id = userId → user.isBanned = isBanned := by
  have husers : after.users = updateWhere (fun user => user.id == userId)
      (fun user => { user with isBanned := isBanned }) db.users := by
    cases isBanned with
    | false =>
        simp only [applyBan, setBanned, bind_ok, modify_ok, pure_ok] at hok
        obtain ⟨_, _, rfl, -, rfl⟩ := hok
        rfl
    | true =>
        simp only [applyBan, setBanned, revokeUserSessions, bind_ok, modify_ok,
          pure_ok] at hok
        obtain ⟨_, _, rfl, _, _, hrevoke, _, _, haudit, -, rfl⟩ := hok
        obtain ⟨queued, rfl⟩ := revokeWhere_db hrevoke
        exact (recordInTx_ok haudit).users
  rw [husers]
  apply forall_updateWhere
  · exact fun _ _ _ => rfl
  · intro user _ hother hid
    simp [hid] at hother

theorem tier_of_applyTier {userId : ℕ} {changes : UserChanges}
    {tier : PlanTier} {done : Unit} {config : Option Json} {after : Db}
    (htier : changes.tier = some tier)
    (hok : applyTier cfg now userId changes db = .ok (done, after)) :
    Done ⟨after, config⟩ (.changeTier userId tier) := by
  rw [applyTier, htier] at hok
  cases tier with
  | premium =>
      simp only [grantInternalPremium, bind_ok, get_ok, expect_ok,
        modify_ok] at hok
      obtain ⟨_, mid, -, _, _, ⟨rfl, rfl⟩, plan, _, ⟨-, rfl⟩, rfl⟩ := hok
      split_ifs with hselected
      · obtain ⟨row, hrow, hinternal⟩ := List.any_eq_true.mp hselected
        refine ⟨_, mem_updateWhere.mpr ⟨row, hrow, if_pos hinternal⟩, ?_⟩
        simp only [isInternalGrant, Bool.and_eq_true, beq_iff_eq] at hinternal
        exact ⟨hinternal.1.1.1, hinternal.1.1.2, rfl⟩
      · exact ⟨_, List.mem_append_right _ (List.mem_singleton_self _), rfl, rfl,
          rfl⟩
  | free =>
      simp only [expireInternalPremium, modify_ok] at hok
      rw [← hok]
      apply forall_updateWhere
      · intro row _ _ _ hstatus
        simp at hstatus
      · intro row hrow hother huser hsource hstatus plan hplan hid hpremium
        rw [Bool.eq_false_iff] at hother
        apply hother
        simp only [Bool.and_eq_true, beq_iff_eq, Bool.or_eq_true,
          List.any_eq_true]
        exact ⟨⟨⟨huser, hsource⟩, hstatus⟩, plan, hplan, hid, hpremium⟩

theorem done_of_mutateUser {userId : ℕ} {changes : UserChanges}
    {config : Option Json} {after : Db}
    (hok : mutateUser cfg now userId changes actor db = .ok (count, after)) :
    ∀ action ∈ banActions userId changes.isBanned ++
        (changes.tier.map (DestructiveAction.changeTier userId)).toList,
      Done ⟨after, config⟩ action := by
  simp only [mutateUser, bind_ok, get_ok, require_ok, pure_ok] at hok
  obtain ⟨_, _, ⟨rfl, rfl⟩, _, _, ⟨-, rfl⟩, _, _, hban, _, _, htier, -,
    rfl⟩ := hok
  intro action haction
  rcases List.mem_append.mp haction with haction | haction
  · rcases hbanned : changes.isBanned with _ | (_ | _)
    · simp [hbanned, banActions] at haction
    · rw [hbanned, banActions, List.mem_singleton] at haction
      rw [hbanned] at hban
      rw [haction, Done, (applyTier_ok htier).users]
      exact banned_of_applyBan hban
    · rw [hbanned, banActions, List.mem_singleton] at haction
      rw [hbanned] at hban
      rw [haction, Done, (applyTier_ok htier).users]
      exact banned_of_applyBan hban
  · rw [Option.mem_toList, Option.map_eq_some_iff] at haction
    obtain ⟨tier, hchange, rfl⟩ := haction
    exact tier_of_applyTier hchange htier

theorem done_of_kickSession {sessionId : ℕ} {done : Unit}
    {config : Option Json} {after : Db} (hlive : ¬ IsClosed sessionId db)
    (hok : kickSession now sessionId db = .ok (done, after)) :
    Done ⟨after, config⟩ (.kick sessionId) := by
  simp only [kickSession, enqueueRevokes, updateSessions, bind_ok, get_ok,
    expect_ok] at hok
  obtain ⟨_, _, ⟨rfl, rfl⟩, row, _, ⟨hfind, rfl⟩, hrest⟩ := hok
  have hheld : row.status.isLive = true := by
    by_contra hclosed
    exact hlive ⟨row, hfind, Bool.eq_false_iff.mpr hclosed⟩
  simp only [hheld, if_true, bind_ok, modify_ok] at hrest
  obtain ⟨_, _, rfl, hrun⟩ := hrest
  rw [enqueueEach_ok hrun]
  have hid := List.find?_some hfind
  exact ⟨_, mem_updateWhere.mpr
    ⟨row, List.mem_of_find?_eq_some hfind, if_pos hid⟩, beq_iff_eq.mp hid, rfl⟩

/-- A node update sets the flag of every row with the id. -/
theorem active_of_updateNode {nodeId : ℕ} {isActive : Bool} {nodes : List Node} :
    ∀ node ∈ updateWhere (fun node => node.id == nodeId)
        (fun node => { node with isActive := isActive }) nodes,
      node.id = nodeId → node.isActive = isActive := by
  apply forall_updateWhere
  · exact fun _ _ _ => rfl
  · intro node _ hother hid
    simp [hid] at hother

end Effects

/-! ## The entries of the interceptor -/

/-- The entry names the action and its target. -/
def Stands (action : DestructiveAction) (entry : AuditEntry) : Prop :=
  action.isRecordedAs = some (entry.actionType, entry.targetId)

theorem addedRows_record (entry : AuditEntry)
    (haccepts : AcceptsAudit cfg actor db) :
    addedRows db (record cfg now actor entry db) =
      [⟨actor.adminId, entry.actionType, entry.targetId, entry.details,
        normalizeIp actor.ip, now⟩] := by
  obtain ⟨haddress, hadmin⟩ := haccepts
  have hok : recordInTx cfg now actor entry.actionType entry.targetId
      entry.details db = .ok ((), { db with
        auditLogs := db.auditLogs ++ [⟨actor.adminId, entry.actionType,
          entry.targetId, entry.details, normalizeIp actor.ip, now⟩] }) := by
    simp only [recordInTx, bind_ok, get_ok, require_ok, modify_ok]
    exact ⟨_, _, ⟨rfl, rfl⟩, (), _, ⟨haddress, rfl⟩, (), _, ⟨hadmin, rfl⟩, rfl⟩
  rw [record, withTransaction_of_ok hok]
  exact addedRows_of_append rfl

theorem records_recordedRows {actions : List DestructiveAction}
    {entries : List AuditEntry} (hstands : List.Forall₂ Stands actions entries) :
    ∀ {later : ℕ → Moment}, (∀ i, AcceptsAudit cfg actor (later i).db) →
      List.Forall₂ (Records actor) actions
        (recordedRows cfg actor entries later) := by
  induction hstands with
  | nil => exact fun _ => List.Forall₂.nil
  | @cons action entry actions entries hentry _ ih =>
      intro later haccepts
      rw [recordedRows, addedRows_record entry (haccepts 0)]
      exact List.Forall₂.cons ⟨hentry, rfl⟩ (ih fun i => haccepts (i + 1))

theorem length_recordedRows {entries : List AuditEntry} :
    ∀ {later : ℕ → Moment}, (∀ i, AcceptsAudit cfg actor (later i).db) →
      (recordedRows cfg actor entries later).length = entries.length := by
  induction entries with
  | nil => exact fun _ => rfl
  | cons entry entries ih =>
      intro later haccepts
      rw [recordedRows, addedRows_record entry (haccepts 0), List.length_append,
        ih fun i => haccepts (i + 1), List.length_singleton, List.length_cons,
        Nat.add_comm]

/-- A valid tier is a non-empty text. -/
theorem flag_tier {body : Json} {tier : Option PlanTier}
    (htier : readMember readTier body "tier" = some tier) :
    body.flag "tier" = tier.isSome := by
  rw [readMember] at htier
  rw [Json.flag]
  split at htier
  · next hnone =>
    rw [hnone, ← Option.some.inj htier]
    rfl
  · next hnull =>
    rw [hnull, ← Option.some.inj htier]
    rfl
  · next value _ hvalue =>
    obtain ⟨read, hread, rfl⟩ := Option.map_eq_some_iff.mp htier
    rw [hvalue]
    simp only [readTier] at hread
    split at hread <;> simp_all [Json.isTruthy]

theorem bool_isBanned {body : Json} {isBanned : Option Bool}
    (hread : readMember Json.bool? body "isBanned" = some isBanned) :
    (body.member "isBanned").bind Json.bool? = isBanned ∧
      ((body.member "isBanned").map fun _ => isBanned).join = isBanned := by
  rw [readMember] at hread
  split at hread
  · next hnone =>
    rw [hnone, ← Option.some.inj hread]
    exact ⟨rfl, rfl⟩
  · next hnull =>
    rw [hnull, ← Option.some.inj hread]
    exact ⟨rfl, rfl⟩
  · next value _ hvalue =>
    obtain ⟨read, hbool, rfl⟩ := Option.map_eq_some_iff.mp hread
    rw [hvalue]
    exact ⟨hbool, rfl⟩

/-- The interceptor reads from the body what the pipe put into the DTO. -/
theorem infer_mutate {userId : ℕ} {body : Json} {dto : MutateUserDto}
    (hdto : MutateUserDto.validate body = some dto) :
    infer (.mutate userId body) count =
      (if dto.isBanned.join = some false then
        [⟨.unbanUser, some userId, count⟩] else []) ++
      (dto.tier.map fun _ =>
        (⟨.changeTier, some userId, count⟩ : AuditEntry)).toList := by
  rw [MutateUserDto.validate] at hdto
  split at hdto
  · simp only [Option.bind_eq_bind, Option.bind_eq_some_iff] at hdto
    obtain ⟨tier, htier, isBanned, hbanned, hread⟩ := hdto
    obtain ⟨hraw, hjoin⟩ := bool_isBanned hbanned
    cases hread
    rw [infer, hraw, flag_tier htier]
    simp only [hjoin, beq_iff_eq]
    cases tier <;> rfl
  · cases hdto

/-! ## Handlers that return -/

section Handlers

variable {after : Store}

theorem inTransaction_ok {Result : Type} {query : Query Result}
    {result : Result} (hrun : inTransaction query store = (.ok result, after)) :
    query store.db = .ok (result, after.db) := by
  rw [inTransaction] at hrun
  simp only [Prod.mk.injEq] at hrun
  obtain ⟨hresult, hafter⟩ := hrun
  rw [← hafter]
  exact withTransaction_ok (Prod.ext hresult rfl)

theorem eq_of_inTransaction {Result : Type} {query : Query Result}
    {result : Except Failure Result}
    (hrun : inTransaction query store = (result, after))
    (hdb : after.db = store.db) : after = store := by
  have hafter := congrArg Prod.snd hrun
  simp only [inTransaction] at hafter
  rw [← hafter] at hdb ⊢
  exact congrArg (Store.mk · store.panelConfig) hdb

theorem inTransaction_of_ok {Result : Type} {query : Query Result}
    {result : Result} {db : Db} (hok : query store.db = .ok (result, db)) :
    inTransaction query store = (.ok result, { store with db := db }) := by
  simp only [inTransaction, withTransaction_of_ok hok]

theorem inTransaction_error {Result : Type} {query : Query Result}
    {cause : Failure} (hrun : inTransaction query store = (.error cause, after)) :
    after = store := by
  rw [inTransaction] at hrun
  simp only [Prod.mk.injEq] at hrun
  obtain ⟨hresult, hafter⟩ := hrun
  have hdb : (withTransaction query store.db).2 = store.db :=
    withTransaction_error (Prod.ext hresult rfl)
  rw [← hafter, hdb]

/-- A status that was written had a value. -/
theorem setNodeStatus_ok {nodeId : ℕ} {dto : NodeStatusDto} {db after : Db}
    (hok : setNodeStatus nodeId dto db = .ok (count, after)) :
    ∃ isActive, dto.isActive = some isActive ∧
      setNodeActive nodeId isActive db = .ok ((), after) := by
  rw [setNodeStatus] at hok
  cases hactive : dto.isActive with
  | none =>
      simp only [hactive, bind_ok, get_ok, require_ok, throw_ok] at hok
      obtain ⟨_, _, -, _, _, -, hthrown⟩ := hok
      exact hthrown.elim
  | some isActive =>
      simp only [hactive, bind_ok, pure_ok] at hok
      obtain ⟨_, _, hset, -, rfl⟩ := hok
      exact ⟨isActive, rfl, hset⟩

/-- A failed request leaves the store as it was. -/
theorem handle_error {cause : Failure}
    (hrun : handle cfg call store = (.error cause, after)) : after = store := by
  rw [handle] at hrun
  split at hrun
  · split at hrun
    · exact (congrArg Prod.snd hrun).symm
    · exact inTransaction_error hrun
  · exact inTransaction_error hrun
  · split at hrun
    · exact (congrArg Prod.snd hrun).symm
    · exact inTransaction_error hrun
  · exact inTransaction_error hrun
  · exact inTransaction_error hrun
  · next body _ =>
    cases hnul : hasNul body with
    | true =>
        simp only [setPanelConfig, hnul, if_true, Except.map, Prod.mk.injEq] at hrun
        exact hrun.2.symm
    | false => simp [setPanelConfig, hnul, Except.map] at hrun

/-- A resolved request did everything that it performs. -/
theorem done_of_handle (hrun : handle cfg call store = (.ok count, after)) :
    ∀ action ∈ performs call.request store.db, Done after action := by
  intro action haction
  cases hrequest : call.request with
  | mutate userId body =>
      rw [handle, hrequest] at hrun
      rw [hrequest, performs] at haction
      cases hdto : MutateUserDto.validate body with
      | none => simp [hdto] at hrun
      | some dto =>
          simp only [hdto] at hrun haction
          exact done_of_mutateUser (mutate_ok (inTransaction_ok hrun)) action
            haction
  | kick sessionId =>
      rw [handle, hrequest] at hrun
      rw [hrequest, performs] at haction
      split at haction
      · simp at haction
      · next hlive =>
        obtain ⟨_, _, hkick, -, rfl⟩ := bind_ok.mp (inTransaction_ok hrun)
        rw [List.mem_singleton.mp haction]
        exact done_of_kickSession hlive hkick
  | setNodeStatus nodeId body =>
      rw [handle, hrequest] at hrun
      rw [hrequest, performs] at haction
      cases hdto : NodeStatusDto.validate body with
      | none => simp [hdto] at hrun
      | some dto =>
          simp only [hdto] at hrun
          obtain ⟨isActive, hactive, hset⟩ := setNodeStatus_ok (inTransaction_ok hrun)
          simp only [setNodeActive, updateNode, bind_ok, get_ok, require_ok,
            modify_ok] at hset
          obtain ⟨_, _, ⟨rfl, rfl⟩, _, _, rfl, -, hnodes⟩ := hset
          rw [hdto, Option.bind_some, hactive] at haction
          rw [List.mem_singleton.mp haction, Done, ← hnodes]
          exact active_of_updateNode
  | forceMigrate nodeId =>
      rw [handle, hrequest] at hrun
      rw [hrequest, performs, List.mem_singleton] at haction
      have hmigrate := inTransaction_ok hrun
      simp only [forceMigrateNode, updateNode, bind_ok, get_ok, require_ok,
        modify_ok, pure_ok] at hmigrate
      obtain ⟨_, _, ⟨rfl, rfl⟩, _, _, ⟨-, rfl⟩, _, _, rfl, _, _, hrevoke,
        _, _, haudit, -, hdb⟩ := hmigrate
      obtain ⟨queued, rfl⟩ := revokeWhere_db hrevoke
      rw [haction, Done, ← hdb, recordInTx_db haudit]
      exact active_of_updateNode
  | panic =>
      rw [handle, hrequest] at hrun
      rw [hrequest, performs, List.mem_singleton] at haction
      have hpanic := inTransaction_ok hrun
      simp only [panicRevokeFreeSessions, bind_ok, pure_ok] at hpanic
      obtain ⟨_, _, hrevoke, _, _, haudit, -, rfl⟩ := hpanic
      obtain ⟨queued, rfl⟩ := revokeWhere_db hrevoke
      rw [haction, Done, (recordInTx_ok haudit).sessions]
      apply forall_updateWhere
      · exact fun _ _ _ => rfl
      · intro row _ hother htier
        simpa [htier] using hother
  | setPanelSettings body =>
      rw [handle, hrequest] at hrun
      rw [hrequest, performs, List.mem_singleton] at haction
      cases hnul : hasNul body with
      | true => simp [setPanelConfig, hnul, Except.map] at hrun
      | false =>
          simp only [setPanelConfig, hnul, Bool.false_eq_true, if_false,
            Prod.mk.injEq] at hrun
          rw [haction, ← hrun.2, Done]

/-- A request that resolves without an action changes nothing. -/
theorem handle_idle (hrun : handle cfg call store = (.ok count, after))
    (hactions : performs call.request store.db = []) : after = store := by
  cases hrequest : call.request with
  | mutate userId body =>
      rw [handle, hrequest] at hrun
      rw [hrequest, performs] at hactions
      cases hdto : MutateUserDto.validate body with
      | none => simp [hdto] at hrun
      | some dto =>
          simp only [hdto, List.append_eq_nil_iff] at hrun hactions
          obtain ⟨hban, htier⟩ := hactions
          have hunbanned : dto.isBanned.join = none := by
            rcases hbanned : dto.isBanned.join with _ | (_ | _) <;>
              simp_all [banActions]
          have hkept : dto.tier = none := by simpa using htier
          have hok := mutate_ok (inTransaction_ok hrun)
          simp only [mutateUser, hunbanned, hkept, applyBan, applyTier, bind_ok,
            get_ok, require_ok, pure_ok] at hok
          obtain ⟨_, _, ⟨rfl, rfl⟩, _, _, ⟨-, rfl⟩, _, _, ⟨-, rfl⟩, _, _,
            ⟨-, rfl⟩, -, hdb⟩ := hok
          exact eq_of_inTransaction hrun hdb.symm
  | kick sessionId =>
      rw [handle, hrequest] at hrun
      rw [hrequest, performs] at hactions
      split at hactions
      · next hclosed =>
        obtain ⟨row, hfind, hstatus⟩ := hclosed
        have hok := inTransaction_ok hrun
        simp only [kickSession, bind_ok, get_ok, expect_ok, pure_ok] at hok
        obtain ⟨_, _, ⟨_, _, ⟨rfl, rfl⟩, _, _, ⟨hrow, rfl⟩, hrest⟩, -, rfl⟩ :=
          hok
        obtain rfl := Option.some.inj (hfind.symm.trans hrow)
        rw [hstatus, if_neg Bool.false_ne_true] at hrest
        exact eq_of_inTransaction hrun (pure_ok.mp hrest).2.symm
      · cases hactions
  | setNodeStatus nodeId body =>
      rw [handle, hrequest] at hrun
      rw [hrequest, performs] at hactions
      cases hdto : NodeStatusDto.validate body with
      | none => simp [hdto] at hrun
      | some dto =>
          simp only [hdto] at hrun
          obtain ⟨isActive, hactive, -⟩ := setNodeStatus_ok (inTransaction_ok hrun)
          simp [hdto, hactive] at hactions
  | forceMigrate nodeId => simp [hrequest, performs] at hactions
  | panic => simp [hrequest, performs] at hactions
  | setPanelSettings body => simp [hrequest, performs] at hactions

theorem audited_of_error {later : ℕ → Moment} {cause : Failure}
    (hrun : handle cfg call store = (.error cause, after)) :
    AuditedOnce cfg call store later := by
  obtain rfl := handle_error hrun
  simp only [AuditedOnce, intercept, hrun, rowsOf, recordedRows,
    List.append_nil]
  exact addedRows_self rfl

/-- The transaction records the first actions and the interceptor the rest. -/
theorem audited_of_ok {later : ℕ → Moment} {own rest : List DestructiveAction}
    (hrun : handle cfg call store = (.ok count, after))
    (hinserts : ∀ i, AcceptsAudit cfg call.actor (later i).db)
    (hactions : performs call.request store.db = own ++ rest)
    (hown : List.Forall₂ (Records call.actor) own
      (addedRows store.db after.db))
    (hrest : List.Forall₂ Stands rest (infer call.request count)) :
    AuditedOnce cfg call store later := by
  simp only [AuditedOnce, intercept, hrun, rowsOf, hactions]
  exact List.rel_append hown (records_recordedRows hrest hinserts)

/-! ## Audited requests -/

variable {later : ℕ → Moment}
variable (hinserts : ∀ i, AcceptsAudit cfg call.actor (later i).db)
include hinserts

/-- A handler whose statements write no audit row. -/
theorem audited_of_same {rest : List DestructiveAction}
    (hrun : handle cfg call store = (.ok count, after))
    (hlogs : after.db.auditLogs = store.db.auditLogs)
    (hactions : performs call.request store.db = rest)
    (hrest : List.Forall₂ Stands rest (infer call.request count)) :
    AuditedOnce cfg call store later := by
  have hown : List.Forall₂ (Records call.actor) []
      (addedRows store.db after.db) := by
    rw [addedRows_self hlogs]
    exact List.Forall₂.nil
  have hsplit : performs call.request store.db = [] ++ rest := hactions
  exact audited_of_ok hrun hinserts hsplit hown hrest

/-- A handler that records its only action in its transaction. -/
theorem audited_of_own {action : DestructiveAction} {row : AuditLog}
    (hrun : handle cfg call store = (.ok count, after))
    (hlogs : after.db.auditLogs = store.db.auditLogs ++ [row])
    (hactions : performs call.request store.db = [action])
    (hrecords : Records call.actor action row)
    (hinfer : infer call.request count = []) :
    AuditedOnce cfg call store later := by
  apply audited_of_ok hrun hinserts (hactions.trans (List.append_nil _).symm)
  · rw [addedRows_of_append hlogs]
    exact List.Forall₂.cons hrecords List.Forall₂.nil
  · rw [hinfer]
    exact List.Forall₂.nil

theorem audited_mutate {userId : ℕ} {body : Json}
    (hrequest : call.request = .mutate userId body)
    (hrun : handle cfg call store = (.ok count, after)) :
    AuditedOnce cfg call store later := by
  have hok := hrun
  rw [handle, hrequest] at hok
  cases hdto : MutateUserDto.validate body with
  | none => simp [hdto] at hok
  | some dto =>
      simp only [hdto] at hok
      have hlogs := mutateUser_logs (mutate_ok (inTransaction_ok hok))
      have hinfer := @infer_mutate count userId body dto hdto
      have hactions : performs call.request store.db =
          banActions userId dto.isBanned.join ++
            (dto.tier.map (DestructiveAction.changeTier userId)).toList := by
        rw [hrequest, performs, hdto]
      have htier : List.Forall₂ Stands
          (dto.tier.map (DestructiveAction.changeTier userId)).toList
          (dto.tier.map fun _ =>
            (⟨.changeTier, some userId, count⟩ : AuditEntry)).toList := by
        cases dto.tier with
        | none => exact List.Forall₂.nil
        | some tier => exact List.Forall₂.cons rfl List.Forall₂.nil
      rw [← hrequest] at hinfer
      rcases hbanned : dto.isBanned.join with _ | (_ | _)
      · simp only [hbanned, banRows, List.append_nil] at hlogs
        simp only [hbanned, banActions, List.nil_append] at hactions
        apply audited_of_same hinserts hrun hlogs hactions
        simpa [hinfer, hbanned] using htier
      · simp only [hbanned, banRows, List.append_nil] at hlogs
        simp only [hbanned, banActions] at hactions
        apply audited_of_same hinserts hrun hlogs hactions
        rw [hinfer, if_pos hbanned]
        exact List.Forall₂.cons rfl htier
      · simp only [hbanned, banRows] at hlogs
        simp only [hbanned, banActions] at hactions
        apply audited_of_ok hrun hinserts hactions
        · rw [addedRows_of_append hlogs]
          exact List.Forall₂.cons ⟨rfl, rfl⟩ List.Forall₂.nil
        · simpa [hinfer, hbanned] using htier

theorem audited_kick {sessionId : ℕ}
    (hrequest : call.request = .kick sessionId)
    (hlive : ¬ IsClosed sessionId store.db)
    (hrun : handle cfg call store = (.ok count, after)) :
    AuditedOnce cfg call store later := by
  have hok := hrun
  rw [handle, hrequest] at hok
  obtain ⟨_, _, hkick, -, hdb⟩ := by
    simpa only [bind_ok, pure_ok] using inTransaction_ok hok
  apply audited_of_same hinserts hrun (hdb ▸ kickSession_logs hkick) rfl
  rw [hrequest, performs, if_neg hlive, infer]
  exact List.Forall₂.cons rfl List.Forall₂.nil

theorem audited_setNodeStatus {nodeId : ℕ} {body : Json}
    (hrequest : call.request = .setNodeStatus nodeId body)
    (hrun : handle cfg call store = (.ok count, after)) :
    AuditedOnce cfg call store later := by
  have hok := hrun
  rw [handle, hrequest] at hok
  cases hdto : NodeStatusDto.validate body with
  | none => simp [hdto] at hok
  | some dto =>
      simp only [hdto] at hok
      obtain ⟨isActive, hactive, hset⟩ := setNodeStatus_ok (inTransaction_ok hok)
      apply audited_of_same hinserts hrun (setNodeActive_logs hset) rfl
      rw [hrequest, performs, hdto, Option.bind_some, hactive, infer]
      exact List.Forall₂.cons rfl List.Forall₂.nil

theorem audited_forceMigrate {nodeId : ℕ}
    (hrequest : call.request = .forceMigrate nodeId)
    (hrun : handle cfg call store = (.ok count, after)) :
    AuditedOnce cfg call store later := by
  have hok := hrun
  rw [handle, hrequest] at hok
  have hmigrate := inTransaction_ok hok
  simp only [forceMigrateNode, updateNode, bind_ok, get_ok, require_ok,
    modify_ok, pure_ok] at hmigrate
  obtain ⟨_, _, ⟨rfl, rfl⟩, _, _, ⟨-, rfl⟩, _, _, rfl, evicted, _, hrevoke,
    _, _, haudit, rfl, hdb⟩ := hmigrate
  have hlogs := recordInTx_logs haudit
  rw [revokeWhere_logs hrevoke, hdb] at hlogs
  exact audited_of_own hinserts hrun hlogs (by rw [hrequest, performs])
    ⟨rfl, rfl⟩ (by rw [hrequest, infer])

theorem audited_panic (hrequest : call.request = .panic)
    (hrun : handle cfg call store = (.ok count, after)) :
    AuditedOnce cfg call store later := by
  have hok := hrun
  rw [handle, hrequest] at hok
  have hpanic := inTransaction_ok hok
  simp only [panicRevokeFreeSessions, bind_ok, pure_ok] at hpanic
  obtain ⟨revoked, _, hrevoke, _, _, haudit, rfl, hdb⟩ := hpanic
  have hlogs := recordInTx_logs haudit
  rw [revokeWhere_logs hrevoke, hdb] at hlogs
  exact audited_of_own hinserts hrun hlogs (by rw [hrequest, performs])
    ⟨rfl, rfl⟩ (by rw [hrequest, infer])

/-! ## Requests that escape the audit -/

theorem not_audited_of_length (hrun : handle cfg call store = (.ok count, after))
    (hlogs : after.db.auditLogs = store.db.auditLogs)
    (hlength : (infer call.request count).length ≠
      (performs call.request store.db).length) :
    ¬ AuditedOnce cfg call store later := by
  simp only [AuditedOnce, intercept, hrun, rowsOf, addedRows_self hlogs,
    List.nil_append]
  intro haudited
  apply hlength
  rw [haudited.length_eq, length_recordedRows hinserts]

theorem not_audited_of_escapes (hescapes : Escapes call.request store.db) :
    ¬ AuditedOnce cfg call store later := by
  simp only [Escapes] at hescapes
  split at hescapes
  · next body hrequest =>
    have hrun : handle cfg call store =
        (.ok 0, { store with panelConfig := some body }) := by
      simp [handle, hrequest, setPanelConfig, hescapes, Except.map]
    apply not_audited_of_length hinserts hrun rfl
    simp [hrequest, infer, performs]
  · next sessionId hrequest =>
    obtain ⟨row, hfind, hclosed⟩ := hescapes
    have hidle : kickSession call.now sessionId store.db =
        .ok ((), store.db) := by
      simp only [kickSession, bind_ok, get_ok, expect_ok]
      refine ⟨_, _, ⟨rfl, rfl⟩, row, _, ⟨hfind, rfl⟩, ?_⟩
      rw [hclosed]
      rfl
    have hrun : handle cfg call store = (.ok 0, store) := by
      rw [handle, hrequest]
      apply inTransaction_of_ok
      exact bind_ok.mpr ⟨(), store.db, hidle, rfl⟩
    apply not_audited_of_length hinserts hrun rfl
    have hactions : performs call.request store.db = [] := by
      rw [hrequest, performs, if_pos ⟨row, hfind, hclosed⟩]
    rw [hactions, hrequest]
    exact Nat.one_ne_zero
  · exact hescapes.elim

theorem audited_of_not_escapes (hescapes : ¬ Escapes call.request store.db) :
    AuditedOnce cfg call store later := by
  rcases hrun : handle cfg call store with ⟨cause | count, after⟩
  · exact audited_of_error hrun
  · cases hrequest : call.request with
    | mutate userId body => exact audited_mutate hinserts hrequest hrun
    | kick sessionId =>
        rw [hrequest] at hescapes
        exact audited_kick hinserts hrequest hescapes hrun
    | setNodeStatus nodeId body =>
        exact audited_setNodeStatus hinserts hrequest hrun
    | forceMigrate nodeId => exact audited_forceMigrate hinserts hrequest hrun
    | panic => exact audited_panic hinserts hrequest hrun
    | setPanelSettings body =>
        rw [hrequest, Escapes, Bool.not_eq_false] at hescapes
        simp [handle, hrequest, setPanelConfig, hescapes, Except.map] at hrun

/-- A request leaves one audit row for each destructive action that it
performed exactly if it neither stores a panel configuration nor kicks a closed
session. -/
theorem audited_once_iff :
    AuditedOnce cfg call store later ↔ ¬ Escapes call.request store.db :=
  ⟨fun haudited hescapes =>
      not_audited_of_escapes hinserts hescapes haudited,
    audited_of_not_escapes hinserts⟩

end Handlers

/-! ## Two administrators' requests -/

def expiredSession : Session where
  id := 4
  userId := 2
  deviceId := 3
  nodeId := 5
  tier := .free
  status := .expired
  panelUsername := "a1"
  credentialRef := ⟨List.replicate 32 (UuidText.hexOfNat 0), UuidText.length_zeros⟩
  expiresAt := 0
  createdAt := 0

/-- An administrator, a user, and an expired session of the user. -/
def auditedDb : Db where
  users := [{ id := 1, role := .admin }, { id := 2 }]
  sessions := [expiredSession]

def callBy (request : Request) : Call where
  request := request
  actor := { adminId := some 1, ip := some "203.0.113.7" }

theorem acceptsAudit_auditedDb (request : Request) :
    AcceptsAudit {} (callBy request).actor auditedDb :=
  ⟨rfl, rfl⟩

/-- A ban and a tier change in one body. -/
theorem audited_once_iff_ban :
    let call := callBy (.mutate 2
      (.obj [("isBanned", .bool true), ("tier", .str "free")]))
    (∀ _ : ℕ, AcceptsAudit {} call.actor auditedDb) ∧
      (AuditedOnce {} call { db := auditedDb } (fun _ => ⟨0, auditedDb⟩) ↔
        ¬ Escapes call.request auditedDb) :=
  ⟨fun _ => acceptsAudit_auditedDb _,
    audited_once_iff fun _ => acceptsAudit_auditedDb _⟩

/-- `PUT /admin/settings/panel` resolves without a row, and a kick of the
expired session with one. -/
theorem unaudited_panel_config :
    (∀ request, AcceptsAudit {} (callBy request).actor auditedDb) ∧
    ¬ AuditedOnce {} (callBy (.setPanelSettings
        (.obj [("provider", .str "remnawave")])))
      { db := auditedDb } (fun _ => ⟨0, auditedDb⟩) ∧
    ¬ AuditedOnce {} (callBy (.kick 4)) { db := auditedDb }
      (fun _ => ⟨0, auditedDb⟩) := by
  refine ⟨acceptsAudit_auditedDb, ?_, ?_⟩
  · apply not_audited_of_escapes fun _ => acceptsAudit_auditedDb _
    exact rfl
  · apply not_audited_of_escapes fun _ => acceptsAudit_auditedDb _
    exact ⟨expiredSession, rfl, rfl⟩

end VpnMiddleware.AuditTrail
