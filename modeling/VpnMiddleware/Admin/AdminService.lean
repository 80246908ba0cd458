import VpnMiddleware.Common.Environment
import VpnMiddleware.Schema.Closing

/-!
# Admin operations

Each is one transaction: the sessions it terminates, their outbox rows and the
audit row commit together.
-/

namespace VpnMiddleware.AdminService

open VpnMiddleware.Schema VpnMiddleware.Errors VpnMiddleware.Environment
open VpnMiddleware.Database VpnMiddleware.Transaction VpnMiddleware.Table
open VpnMiddleware.Closing

structure AdminActor where
  adminId : Option ℕ := none
  ip : Option String := none
  deriving DecidableEq, Repr

/-- The optional fields of the PATCH body; fresh ids for rows it may insert. -/
structure UserChanges where
  tier : Option PlanTier := none
  isBanned : Option Bool := none
  newPlanId : ℕ := 0
  newSubscriptionId : ℕ := 0
  deriving DecidableEq, Repr

/-! ## Audit -/

/-- Null for a missing or empty address, without an IPv4-mapped prefix. -/
def normalizeIp (ip : Option String) : Option String :=
  match ip with
  | none => none
  | some text =>
      let value :=
        if "::ffff:".toList.isPrefixOf text.toList then
          String.ofList (text.toList.drop 7)
        else text
      if value = "" then none else some value

/-- `AuditService.recordInTx`: throws if the row cannot be written. -/
def recordInTx (cfg : Config) (now : ℕ) (actor : AdminActor)
    (actionType : AdminActionType) (targetId : Option ℕ) (details : ℕ) :
    Query Unit := do
  let db ← get
  let ipAddress := normalizeIp actor.ip
  require (ipAddress.all cfg.inetAccepts) (.db (.invalidText "inet"))
  require (actor.adminId.all fun adminId =>
      db.users.any fun user => user.id == adminId)
    (foreignKeyViolation "admin_audit_logs_admin_id_fkey")
  modify fun db =>
    { db with
      auditLogs := db.auditLogs ++
        [⟨actor.adminId, actionType, targetId, details, ipAddress, now⟩] }

/-! ## Sessions -/

/-- `enqueueRevoke` for every returned row. -/
def enqueueRevokes (now : ℕ) (rows : List Session) : Query Unit :=
  enqueueEach now .revokeUser rows

/-- The update of the live sessions that a condition selects, and the loop
over the returned rows. -/
def revokeWhere (now : ℕ) (selected : Session → Bool) (reason : String) :
    Query ℕ := do
  let db ← get
  let isHit := fun row : Session => selected row && row.status.isLive
  updateSessions isHit (closeRow now .revoked reason)
  let rows := db.sessions.filter isHit
  enqueueRevokes now rows
  return rows.length

def revokeUserSessions (now userId : ℕ) (reason : String) : Query ℕ :=
  revokeWhere now (fun row => row.userId == userId) reason

def kickSession (now sessionId : ℕ) : Query Unit := do
  let db ← get
  let row ← expect (db.sessions.find? fun row => row.id == sessionId)
    (.notFound "session not found")
  if row.status.isLive then
    updateSessions (fun row => row.id == sessionId)
      (closeRow now .revoked "admin_kick")
    enqueueRevokes now [row]
  else
    return

def panicRevokeFreeSessions (cfg : Config) (now : ℕ) (actor : AdminActor) :
    Query ℕ := do
  let revoked ← revokeWhere now (fun row => row.tier == .free)
    "panic_revoke_free"
  recordInTx cfg now actor .panicFreeSessions none revoked
  return revoked

def updateNode (nodeId : ℕ) (change : Node → Node) : Query Unit :=
  modify fun db =>
    { db with
      nodes := updateWhere (fun node => node.id == nodeId) change db.nodes }

def setNodeActive (nodeId : ℕ) (isActive : Bool) : Query Unit := do
  let db ← get
  updateNode nodeId fun node => { node with isActive := isActive }
  require (db.nodes.any fun node => node.id == nodeId)
    (.notFound "node not found")

def forceMigrateNode (cfg : Config) (now nodeId : ℕ) (actor : AdminActor) :
    Query ℕ := do
  let db ← get
  require (db.nodes.any fun node => node.id == nodeId)
    (.notFound "node not found")
  updateNode nodeId fun node => { node with isActive := false }
  let evicted ← revokeWhere now (fun row => row.nodeId == nodeId)
    "force_migrate"
  recordInTx cfg now actor .forceMigrateNode (some nodeId) evicted
  return evicted

/-! ## Users -/

def adminGrantCode : String := "admin_grant_premium"

/-- The internal grants of a user that `grantInternalPremium` extends. -/
def isInternalGrant (userId planId : ℕ) (row : Subscription) : Bool :=
  row.userId == userId && row.source == .internal && row.planId == planId &&
    (row.status == .active || row.status == .inGrace)

def grantInternalPremium (cfg : Config) (now userId : ℕ)
    (changes : UserChanges) : Query Unit := do
  modify fun db =>
    if db.plans.any fun plan => plan.code == adminGrantCode then db
    else
      { db with
        plans := db.plans ++
          [{ id := changes.newPlanId, code := adminGrantCode, tier := .premium,
             maxDevices := 5, maxConcurrentSessions := 3 }] }
  let db ← get
  let plan ← expect (db.plans.find? fun plan => plan.code == adminGrantCode)
    (.error "Cannot read properties of undefined (reading 'id')")
  let periodEnd := now + cfg.adminGrantDays * 24 * 60 * 60000
  let selected := isInternalGrant userId plan.id
  modify fun db =>
    if db.subscriptions.any selected then
      { db with
        subscriptions := updateWhere selected
          (fun row =>
            { row with currentPeriodEnd := some periodEnd, status := .active })
          db.subscriptions }
    else
      { db with
        subscriptions := db.subscriptions ++
          [{ id := changes.newSubscriptionId, userId := userId,
             planId := plan.id, source := .internal, status := .active,
             currentPeriodStart := some now,
             currentPeriodEnd := some periodEnd }] }

/-- The update of `mutateUser` for `tier = 'free'`. -/
def expireInternalPremium (userId : ℕ) : Query Unit :=
  modify fun db =>
    { db with
      subscriptions := updateWhere
        (fun row => row.userId == userId && row.source == .internal &&
          (row.status == .active || row.status == .inGrace) &&
          db.plans.any fun plan => plan.id == row.planId && plan.tier == .premium)
        (fun row => { row with status := .expired }) db.subscriptions }

def setBanned (userId : ℕ) (isBanned : Bool) : Query Unit :=
  modify fun db =>
    { db with
      users := updateWhere (fun user => user.id == userId)
        (fun user => { user with isBanned := isBanned }) db.users }

/-- The ban part of `mutateUser`; returns the number of revoked sessions. -/
def applyBan (cfg : Config) (now userId : ℕ) (isBanned : Option Bool)
    (actor : AdminActor) : Query ℕ := do
  match isBanned with
  | none => return 0
  | some false =>
      setBanned userId false
      return 0
  | some true =>
      setBanned userId true
      let revoked ← revokeUserSessions now userId "banned"
      recordInTx cfg now actor .banUser (some userId) revoked
      return revoked

/-- The tier part of `mutateUser`. -/
def applyTier (cfg : Config) (now userId : ℕ) (changes : UserChanges) :
    Query Unit :=
  match changes.tier with
  | some .premium => grantInternalPremium cfg now userId changes
  | some .free => expireInternalPremium userId
  | none => return

def mutateUser (cfg : Config) (now userId : ℕ) (changes : UserChanges)
    (actor : AdminActor) : Query ℕ := do
  let db ← get
  require (db.users.any fun user => user.id == userId)
    (.notFound "user not found")
  let revoked ← applyBan cfg now userId changes.isBanned actor
  applyTier cfg now userId changes
  return revoked

/-! ## Specifications -/

section Specifications

variable {cfg : Config} {now : ℕ} {db after : Db}

theorem recordInTx_ok {actor : AdminActor} {actionType : AdminActionType}
    {targetId : Option ℕ} {details : ℕ} {done : Unit}
    (hok : recordInTx cfg now actor actionType targetId details db =
      .ok (done, after)) : SameCore db after := by
  simp only [recordInTx, bind_ok, get_ok, require_ok, modify_ok] at hok
  obtain ⟨_, _, ⟨rfl, rfl⟩, _, _, ⟨-, rfl⟩, _, _, ⟨-, rfl⟩, rfl⟩ := hok
  exact ⟨rfl, rfl, rfl, rfl, rfl⟩

private theorem closed_of_updateWhere {selected : Session → Bool}
    {reason : String} {sessions : List Session} {row : Session}
    (hrow : row ∈ updateWhere selected (closeRow now .revoked reason) sessions)
    (hselected : ∀ old ∈ sessions, old = row → row.status.isLive = true →
      selected old = true) : row.status.isLive = false := by
  obtain ⟨old, hold, heq⟩ := mem_updateWhere.mp hrow
  by_cases hsel : selected old = true
  · rw [if_pos hsel] at heq
    rw [← heq]
    rfl
  · rw [if_neg hsel] at heq
    by_contra hlive
    exact hsel (hselected old hold heq (by simpa using hlive))

theorem revokeWhere_ok {selected : Session → Bool} {reason : String}
    {count : ℕ} (hkeyed : KeyedSessions db)
    (hok : revokeWhere now selected reason db = .ok (count, after)) :
    (∃ rows, Closes now rows db after) ∧ after.users = db.users ∧
      ∀ row ∈ after.sessions, selected row = true →
        row.status.isLive = false := by
  simp only [revokeWhere, enqueueRevokes, updateSessions, bind_ok, get_ok,
    modify_ok, pure_ok] at hok
  obtain ⟨_, _, ⟨rfl, rfl⟩, _, _, rfl, _, _, hrun, -, rfl⟩ := hok
  refine ⟨⟨_, Closes.of_selected hkeyed ?_ (isClosing_closeRow now reason)
    (Or.inl rfl) hrun⟩, ?_, ?_⟩
  · intro row _ hsel
    exact (Bool.and_eq_true _ _ ▸ hsel).2
  · rw [enqueueEach_ok hrun]
  · rw [enqueueEach_ok hrun]
    intro row hrow hsel
    refine closed_of_updateWhere hrow fun old _ heq hlive => ?_
    rw [heq, hsel, hlive]
    rfl

theorem kickSession_ok {sessionId : ℕ} {done : Unit}
    (hkeyed : KeyedSessions db)
    (hok : kickSession now sessionId db = .ok (done, after)) :
    (∃ rows, Closes now rows db after) ∧ after.users = db.users := by
  simp only [kickSession, enqueueRevokes, updateSessions, bind_ok, get_ok,
    expect_ok] at hok
  obtain ⟨_, _, ⟨rfl, rfl⟩, row, _, ⟨hfind, rfl⟩, hrest⟩ := hok
  by_cases hlive : row.status.isLive = true
  · simp only [hlive, if_true, bind_ok, modify_ok] at hrest
    obtain ⟨_, _, rfl, hrun⟩ := hrest
    have hmem := List.mem_of_find?_eq_some hfind
    have hid : row.id = sessionId := by simpa using List.find?_some hfind
    have hselected : db.sessions.filter (fun row => row.id == sessionId) =
        [row] := by
      have hnodup := (List.Nodup.of_map _ hkeyed.ids).filter
        fun row : Session => row.id == sessionId
      have hperm := (List.perm_ext_iff_of_nodup hnodup
        (List.nodup_singleton row)).mpr fun other => ?_
      · exact List.perm_singleton.mp hperm
      · rw [List.mem_filter, List.mem_singleton]
        constructor
        · rintro ⟨hother, hkey⟩
          exact eq_of_key hkeyed.ids hother hmem
            (by rw [hid]; simpa using hkey)
        · rintro rfl
          exact ⟨hmem, by simpa using hid⟩
    rw [← hselected] at hrun
    refine ⟨⟨_, Closes.of_selected hkeyed ?_ (isClosing_closeRow now _)
      (Or.inl rfl) hrun⟩, by rw [enqueueEach_ok hrun]⟩
    intro other hother hsel
    have hrow : other ∈ db.sessions.filter fun row => row.id == sessionId :=
      List.mem_filter.mpr ⟨hother, hsel⟩
    rw [hselected, List.mem_singleton] at hrow
    rw [hrow, hlive]
  · rw [if_neg hlive, pure_ok] at hrest
    obtain ⟨-, rfl⟩ := hrest
    exact ⟨⟨[], Closes.of_sameCore ⟨rfl, rfl, rfl, rfl, rfl⟩⟩, rfl⟩

theorem panicRevokeFreeSessions_ok {actor : AdminActor} {count : ℕ}
    (hkeyed : KeyedSessions db)
    (hok : panicRevokeFreeSessions cfg now actor db = .ok (count, after)) :
    (∃ rows, Closes now rows db after) ∧ after.users = db.users := by
  simp only [panicRevokeFreeSessions, bind_ok, pure_ok] at hok
  obtain ⟨_, _, hrevoke, _, _, haudit, -, rfl⟩ := hok
  have hsame := recordInTx_ok haudit
  obtain ⟨⟨rows, hcloses⟩, husers, -⟩ := revokeWhere_ok hkeyed hrevoke
  exact ⟨⟨rows, hcloses.then_sameCore hsame⟩, hsame.users.trans husers⟩

theorem updateNode_ok {nodeId : ℕ} {change : Node → Node} {done : Unit}
    (hok : updateNode nodeId change db = .ok (done, after)) :
    SameCore db after := by
  rw [updateNode, modify_ok] at hok
  subst hok
  exact ⟨rfl, rfl, rfl, rfl, rfl⟩

theorem forceMigrateNode_ok {nodeId count : ℕ} {actor : AdminActor}
    (hkeyed : KeyedSessions db)
    (hok : forceMigrateNode cfg now nodeId actor db = .ok (count, after)) :
    (∃ rows, Closes now rows db after) ∧ after.users = db.users := by
  simp only [forceMigrateNode, bind_ok, get_ok, require_ok, pure_ok] at hok
  obtain ⟨_, _, ⟨rfl, rfl⟩, _, _, ⟨-, rfl⟩, _, drained, hdrain, _, _, hrevoke,
    _, _, haudit, -, rfl⟩ := hok
  have hdrained := updateNode_ok hdrain
  have hsame := recordInTx_ok haudit
  obtain ⟨⟨rows, hcloses⟩, husers, -⟩ :=
    revokeWhere_ok (hkeyed.of_sessions hdrained.sessions) hrevoke
  refine ⟨⟨rows, (hcloses.after_change hdrained.sessions hdrained.panelOps
    hdrained.grants hdrained.rewards).then_sameCore hsame⟩, ?_⟩
  rw [hsame.users, husers, hdrained.users]

theorem setNodeActive_ok {nodeId : ℕ} {isActive : Bool} {done : Unit}
    (hok : setNodeActive nodeId isActive db = .ok (done, after)) :
    SameCore db after := by
  simp only [setNodeActive, bind_ok, get_ok, require_ok] at hok
  obtain ⟨_, _, ⟨rfl, rfl⟩, _, _, hupdate, -, rfl⟩ := hok
  exact updateNode_ok hupdate

theorem grantInternalPremium_ok {userId : ℕ} {changes : UserChanges}
    {done : Unit}
    (hok : grantInternalPremium cfg now userId changes db = .ok (done, after)) :
    SameCore db after := by
  simp only [grantInternalPremium, bind_ok, get_ok, expect_ok,
    modify_ok] at hok
  obtain ⟨_, _, rfl, _, _, ⟨rfl, rfl⟩, _, _, ⟨-, rfl⟩, rfl⟩ := hok
  split_ifs <;> exact ⟨rfl, rfl, rfl, rfl, rfl⟩

theorem applyTier_ok {userId : ℕ} {changes : UserChanges} {done : Unit}
    (hok : applyTier cfg now userId changes db = .ok (done, after)) :
    SameCore db after := by
  cases htier : changes.tier with
  | none =>
      rw [applyTier, htier] at hok
      obtain ⟨-, rfl⟩ := pure_ok.mp hok
      exact ⟨rfl, rfl, rfl, rfl, rfl⟩
  | some tier =>
      rw [applyTier, htier] at hok
      cases tier with
      | premium => exact grantInternalPremium_ok hok
      | free =>
          rw [expireInternalPremium, modify_ok] at hok
          subst hok
          exact ⟨rfl, rfl, rfl, rfl, rfl⟩

/-- What `mutateUser` does to the users: the ban flag of one user may change,
and a ban leaves that user without a live session. -/
def BansUser (userId : ℕ) (before after : Db) : Prop :=
  after.users = before.users ∨ ∃ isBanned,
    after.users = updateWhere (fun user => user.id == userId)
      (fun user => { user with isBanned := isBanned }) before.users ∧
    (isBanned = true → ∀ row ∈ after.sessions, row.userId = userId →
      row.status.isLive = false)

theorem applyBan_ok {userId count : ℕ} {isBanned : Option Bool}
    {actor : AdminActor} (hkeyed : KeyedSessions db)
    (hok : applyBan cfg now userId isBanned actor db = .ok (count, after)) :
    (∃ rows, Closes now rows db after) ∧ BansUser userId db after := by
  rcases isBanned with _ | (_ | _)
  · obtain ⟨-, rfl⟩ := pure_ok.mp hok
    exact ⟨⟨[], Closes.of_sameCore ⟨rfl, rfl, rfl, rfl, rfl⟩⟩, Or.inl rfl⟩
  · simp only [applyBan, setBanned, bind_ok, modify_ok, pure_ok] at hok
    obtain ⟨_, _, rfl, -, rfl⟩ := hok
    refine ⟨⟨[], ?_⟩, Or.inr ⟨false, rfl, by simp⟩⟩
    exact Closes.after_change (Closes.of_sameCore ⟨rfl, rfl, rfl, rfl, rfl⟩)
      rfl rfl rfl rfl
  · simp only [applyBan, setBanned, bind_ok, modify_ok, pure_ok] at hok
    obtain ⟨_, flagged, hflagged, _, _, hrevoke, _, _, haudit, -, rfl⟩ := hok
    have hsessions : flagged.sessions = db.sessions := by rw [← hflagged]
    have hsame := recordInTx_ok haudit
    obtain ⟨⟨rows, hcloses⟩, husers, hclosed⟩ :=
      revokeWhere_ok (hkeyed.of_sessions hsessions) hrevoke
    refine ⟨⟨rows, (hcloses.after_change hsessions ?_ ?_ ?_).then_sameCore
      hsame⟩, Or.inr ⟨true, ?_, fun _ row hrow huser => ?_⟩⟩
    · rw [← hflagged]
    · rw [← hflagged]
    · rw [← hflagged]
    · rw [hsame.users, husers, ← hflagged]
    · rw [hsame.sessions] at hrow
      exact hclosed row hrow (by simpa using huser)

theorem mutateUser_ok {userId count : ℕ} {changes : UserChanges}
    {actor : AdminActor} (hkeyed : KeyedSessions db)
    (hok : mutateUser cfg now userId changes actor db = .ok (count, after)) :
    (∃ rows, Closes now rows db after) ∧ BansUser userId db after := by
  simp only [mutateUser, bind_ok, get_ok, require_ok, pure_ok] at hok
  obtain ⟨_, _, ⟨rfl, rfl⟩, _, _, ⟨-, rfl⟩, _, _, hban, _, _, htier, -, rfl⟩ :=
    hok
  have hsame := applyTier_ok htier
  obtain ⟨⟨rows, hcloses⟩, husers⟩ := applyBan_ok hkeyed hban
  refine ⟨⟨rows, hcloses.then_sameCore hsame⟩, ?_⟩
  rcases husers with husers | ⟨isBanned, husers, hclosed⟩
  · exact Or.inl (hsame.users.trans husers)
  · refine Or.inr ⟨isBanned, hsame.users.trans husers, fun hban => ?_⟩
    rw [hsame.sessions]
    exact hclosed hban

end Specifications

end VpnMiddleware.AdminService
