import VpnMiddleware.Schema.UuidText
import VpnMiddleware.Core.Table
import VpnMiddleware.Core.Transaction
import VpnMiddleware.Common.Errors

/-!
# Statements

The inserts and updates that the services share, with the constraints of the
migrated schema, and what closing sessions together with their outbox rows
does to the tables.
-/

namespace VpnMiddleware.Database

open VpnMiddleware.Schema VpnMiddleware.UuidText VpnMiddleware.Table
open VpnMiddleware.Transaction VpnMiddleware.Errors

abbrev Query := Tx Db Failure

def uniqueViolation (constraint : String) : Failure :=
  .db (.uniqueViolation constraint)

def foreignKeyViolation (constraint : String) : Failure :=
  .db (.foreignKeyViolation constraint)

/-! ## Sessions -/

/-- The column list of the insert in `connect`. -/
structure NewSession where
  userId : ℕ
  deviceId : ℕ
  nodeId : ℕ
  tier : PlanTier
  status : SessionStatus
  panelUsername : String
  credentialRef : String
  inboundTag : String
  protocol : String
  clientPublicKey : List UInt8
  expiresAt : ℕ

/-- The inserted row; the other columns take their defaults. -/
def NewSession.row (values : NewSession) (now id : ℕ) (credentialRef : Uuid) :
    Session where
  id := id
  userId := values.userId
  deviceId := values.deviceId
  nodeId := values.nodeId
  tier := values.tier
  status := values.status
  panelUsername := values.panelUsername
  credentialRef := credentialRef
  inboundTag := some values.inboundTag
  protocol := some values.protocol
  clientPublicKey := some values.clientPublicKey
  expiresAt := values.expiresAt
  createdAt := now

/-- `vpn_sessions_one_live_per_device`. -/
def hasLiveSession (deviceId : ℕ) (sessions : List Session) : Bool :=
  sessions.any fun row => row.deviceId == deviceId && row.status.isLive

/-- `insert into vpn_sessions .. returning id`. -/
def insertSession (now id : ℕ) (values : NewSession) : Query ℕ := do
  let db ← get
  let credentialRef ← expect (uuidIn values.credentialRef)
    (.db (.invalidText "uuid"))
  require (!db.sessions.any fun row => row.id == id)
    (uniqueViolation "vpn_sessions_pkey")
  require (!db.sessions.any fun row =>
      row.panelUsername == values.panelUsername)
    (uniqueViolation "vpn_sessions_panel_username_key")
  require (!(values.status.isLive && hasLiveSession values.deviceId db.sessions))
    (uniqueViolation "vpn_sessions_one_live_per_device")
  require (db.users.any fun user => user.id == values.userId)
    (foreignKeyViolation "vpn_sessions_user_id_fkey")
  require (db.devices.any fun device => device.id == values.deviceId)
    (foreignKeyViolation "vpn_sessions_device_id_fkey")
  require (db.nodes.any fun node => node.id == values.nodeId)
    (foreignKeyViolation "vpn_sessions_node_id_fkey")
  modify fun db =>
    { db with sessions := db.sessions ++ [values.row now id credentialRef] }
  return id

/-- `update vpn_sessions set .. where ..`. -/
def updateSessions (selected : Session → Bool) (change : Session → Session) :
    Query Unit :=
  modify fun db =>
    { db with sessions := updateWhere selected change db.sessions }

/-- `set status = .., closed_at = now(), close_reason = ..`. -/
def closeRow (now : ℕ) (status : SessionStatus) (reason : String)
    (row : Session) : Session :=
  { row with status := status, closedAt := some now, closeReason := some reason }

/-! ## Outbox -/

/-- `insert into panel_operations .. values (.., 'pending', now())`. -/
def newPanelOp (now id : ℕ) (sessionId : ℕ) (op : PanelOpKind)
    (payload : PanelOpPayload) : PanelOp where
  id := id
  sessionId := some sessionId
  op := op
  payload := payload
  nextAttemptAt := now
  createdAt := now

/-- Insert an outbox row and return its identity value. -/
def enqueue (now sessionId : ℕ) (op : PanelOpKind) (payload : PanelOpPayload) :
    Query ℕ := do
  let db ← get
  let id := db.panelOps.length + 1
  modify fun db =>
    { db with panelOps := db.panelOps ++ [newPanelOp now id sessionId op payload] }
  return id

/-- `for (const row of rows) insert into panel_operations ..`. -/
def enqueueEach (now : ℕ) (op : PanelOpKind) : List Session → Query Unit
  | [] => return
  | row :: rows => do
      let _ ← enqueue now row.id op { panelUsername := row.panelUsername }
      enqueueEach now op rows

/-- `update panel_operations set .. where ..`. -/
def updatePanelOps (selected : PanelOp → Bool) (change : PanelOp → PanelOp) :
    Query Unit :=
  modify fun db =>
    { db with panelOps := updateWhere selected change db.panelOps }

/-! ## Grants -/

/-- The `custom_data` of the closing ad; no grant may hold it. -/
def closingSessionNonce : String := "closing-session-no-grant"

/-- `insert into ad_reward_grants .. returning id`. -/
def insertGrant (grant : Grant) : Query ℕ := do
  let db ← get
  require (!db.grants.any fun row => row.id == grant.id)
    (uniqueViolation "ad_reward_grants_pkey")
  require (!db.grants.any fun row => row.nonce == grant.nonce)
    (uniqueViolation "ad_reward_grants_nonce_key")
  require (grant.nonce != closingSessionNonce)
    (.db (.checkViolation "nonce_not_closing_sentinel"))
  require (db.users.any fun user => user.id == grant.userId)
    (foreignKeyViolation "ad_reward_grants_user_id_fkey")
  require (db.devices.any fun device => device.id == grant.deviceId)
    (foreignKeyViolation "ad_reward_grants_device_id_fkey")
  require (grant.sessionId.all fun sessionId =>
      db.sessions.any fun session => session.id == sessionId)
    (foreignKeyViolation "ad_reward_grants_session_id_fkey")
  modify fun db => { db with grants := db.grants ++ [grant] }
  return grant.id

/-- `update ad_reward_grants set .. where id = ..`. -/
def updateGrant (id : ℕ) (change : Grant → Grant) : Query Unit :=
  modify fun db =>
    { db with grants := updateWhere (fun row => row.id == id) change db.grants }

/-! ## Specifications -/

theorem insertSession_ok {now id : ℕ} {values : NewSession} {db after : Db}
    {sessionId : ℕ}
    (hok : insertSession now id values db = .ok (sessionId, after)) :
    ∃ credentialRef, uuidIn values.credentialRef = some credentialRef ∧
      sessionId = id ∧
      (∀ row ∈ db.sessions, row.id ≠ id) ∧
      (∀ row ∈ db.sessions, row.panelUsername ≠ values.panelUsername) ∧
      after = { db with
        sessions := db.sessions ++ [values.row now id credentialRef] } := by
  simp only [insertSession, bind_ok, get_ok, expect_ok, require_ok, modify_ok,
    pure_ok] at hok
  obtain ⟨_, _, ⟨rfl, rfl⟩, credentialRef, _, ⟨hcredential, rfl⟩,
    _, _, ⟨hid, rfl⟩, _, _, ⟨husername, rfl⟩, _, _, ⟨-, rfl⟩,
    _, _, ⟨-, rfl⟩, _, _, ⟨-, rfl⟩, _, _, ⟨-, rfl⟩, _, _, rfl, rfl, rfl⟩ := hok
  exact ⟨credentialRef, hcredential, rfl, by simpa using hid,
    by simpa using husername, rfl⟩

theorem insertGrant_ok {grant : Grant} {db after : Db} {grantId : ℕ}
    (hok : insertGrant grant db = .ok (grantId, after)) :
    grantId = grant.id ∧ (∀ row ∈ db.grants, row.id ≠ grant.id) ∧
      after = { db with grants := db.grants ++ [grant] } := by
  simp only [insertGrant, bind_ok, get_ok, require_ok, modify_ok,
    pure_ok] at hok
  obtain ⟨_, _, ⟨rfl, rfl⟩, _, _, ⟨hid, rfl⟩, _, _, ⟨-, rfl⟩, _, _, ⟨-, rfl⟩,
    _, _, ⟨-, rfl⟩, _, _, ⟨-, rfl⟩, _, _, ⟨-, rfl⟩, _, _, rfl, rfl, rfl⟩ := hok
  exact ⟨rfl, by simpa using hid, rfl⟩

theorem enqueue_ok {now sessionId : ℕ} {op : PanelOpKind}
    {payload : PanelOpPayload} {db after : Db} {id : ℕ} :
    enqueue now sessionId op payload db = .ok (id, after) ↔
      id = db.panelOps.length + 1 ∧
        after = { db with panelOps := db.panelOps ++
          [newPanelOp now (db.panelOps.length + 1) sessionId op payload] } := by
  simp only [enqueue, bind_ok, get_ok, modify_ok, pure_ok]
  constructor
  · rintro ⟨_, _, ⟨rfl, rfl⟩, _, _, rfl, rfl, rfl⟩
    exact ⟨rfl, rfl⟩
  · rintro ⟨rfl, rfl⟩
    exact ⟨_, _, ⟨rfl, rfl⟩, (), _, rfl, rfl, rfl⟩

end VpnMiddleware.Database
