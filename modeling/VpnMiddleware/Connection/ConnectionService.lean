import Mathlib.Data.List.Sort
import VpnMiddleware.Common.Random
import VpnMiddleware.Connection.SessionConfigService
import VpnMiddleware.Panel.PanelTypes
import VpnMiddleware.Schema.Closing

/-!
# The connect flow: database work

Tier resolution, node choice, the Phase A transaction, the cleanup statements
of `failSession` and the payload of a premium session.  The order in which
`connect` runs them around its panel calls is in `System.ConnectFlow`.
-/

namespace VpnMiddleware.ConnectionService

open VpnMiddleware.Schema VpnMiddleware.Errors VpnMiddleware.Environment
open VpnMiddleware.Database VpnMiddleware.Transaction VpnMiddleware.Random
open VpnMiddleware.ConfigBuilder VpnMiddleware.SessionConfigService
open VpnMiddleware.PanelTypes VpnMiddleware.UuidText VpnMiddleware.Table
open VpnMiddleware.Closing

structure ConnectInput where
  userId : ℕ
  deviceId : ℕ
  clientPubKey : List UInt8
  deriving DecidableEq, Repr

/-- The result of `resolveTierAndExpiry`. -/
structure Resolved where
  tier : PlanTier
  expiresAt : ℕ
  maxConcurrent : ℕ
  deriving DecidableEq, Repr

structure NodePick where
  nodeId : ℕ
  inboundTag : String
  protocol : String
  deriving DecidableEq, Repr

structure TxResult where
  sessionId : ℕ
  panelUsername : String
  credentialRef : String
  node : NodePick
  revokeUsernames : List String
  grantId : Option ℕ
  nonce : Option String
  deriving DecidableEq, Repr

inductive ConnectResult
  | premium (sessionId expiresAt : ℕ) (payload : EncryptedPayload)
  | free (sessionId : ℕ) (grantId : Option ℕ) (nonce : Option String)
      (requiredAds provisioningExpiresAt : ℕ)
  deriving DecidableEq, Repr

/-- The ids and random bytes that one connect draws. -/
structure Draw where
  sessionId : ℕ
  grantId : ℕ
  username : Bytes
  credential : Bytes
  nonce : Bytes

/-! ## Tier and expiry -/

/-- A subscription row that entitles to its plan's tier at `now`. -/
def isCurrent (now : ℕ) (row : Subscription) : Bool :=
  (row.status == .active || row.status == .inGrace) &&
    row.currentPeriodEnd.all fun periodEnd => decide (now < periodEnd)

/-- The user's current premium subscriptions with their plans. -/
def premiumRows (now userId : ℕ) (db : Db) : List (Subscription × Plan) :=
  db.subscriptions.flatMap fun row =>
    (db.plans.filter fun plan =>
      plan.id == row.planId && row.userId == userId && plan.tier == .premium &&
        isCurrent now row).map fun plan => (row, plan)

/-- `order by s.current_period_end desc nulls last`. -/
def endsNoEarlier (left right : Subscription × Plan) : Bool :=
  match left.1.currentPeriodEnd, right.1.currentPeriodEnd with
  | some leftEnd, some rightEnd => decide (rightEnd ≤ leftEnd)
  | some _, none => true
  | none, some _ => false
  | none, none => true

def resolveTierAndExpiry (cfg : Config) (now userId : ℕ) (db : Db) : Resolved :=
  match (premiumRows now userId db).insertionSort (endsNoEarlier · ·) with
  | [] =>
      let maxConcurrent :=
        match db.plans.find? fun plan => plan.tier == .free with
        | some plan => plan.maxConcurrentSessions
        | none => 1
      ⟨.free, now + cfg.freeTtlMs, maxConcurrent⟩
  | (row, plan) :: _ =>
      ⟨.premium, row.currentPeriodEnd.getD (now + cfg.premiumFallbackTtlMs),
        plan.maxConcurrentSessions⟩

/-! ## Node choice -/

def allowedTiers : PlanTier → List PlanTier
  | .premium => [.free, .premium]
  | .free => [.free]

/-- `order by current_load, error_streak, sort_weight`. -/
def prefers (left right : Node × NodeInbound) : Bool :=
  decide (left.1.currentLoad < right.1.currentLoad) ||
    (left.1.currentLoad == right.1.currentLoad &&
      (decide (left.1.errorStreak < right.1.errorStreak) ||
        (left.1.errorStreak == right.1.errorStreak &&
          decide (left.1.sortWeight ≤ right.1.sortWeight))))

def isEligible (tier : PlanTier) (endpoints : List NodeEndpoint) (node : Node)
    (inbound : NodeInbound) : Bool :=
  inbound.nodeId == node.id && node.status == .active && node.isActive &&
    decide (node.errorStreak < 3) && (allowedTiers tier).contains node.tier &&
    (allowedTiers tier).contains inbound.tier &&
    endpoints.any fun endpoint => endpoint.nodeId == node.id &&
      endpoint.inboundTag == inbound.inboundTag && endpoint.isActive

def eligibleInbounds (tier : PlanTier) (db : Db) : List (Node × NodeInbound) :=
  db.nodes.flatMap fun node =>
    (db.nodeInbounds.filter (isEligible tier db.nodeEndpoints node)).map
      fun inbound => (node, inbound)

def pickNode (tier : PlanTier) (db : Db) : Option NodePick :=
  match (eligibleInbounds tier db).insertionSort (prefers · ·) with
  | [] => none
  | (node, inbound) :: _ => some ⟨node.id, inbound.inboundTag, inbound.protocol⟩

/-! ## Phase A -/

/-- The user's live sessions, `order by created_at asc`. -/
def liveSessions (userId : ℕ) (sessions : List Session) : List Session :=
  (sessions.filter fun row => row.userId == userId && row.status.isLive)
    |>.insertionSort fun left right => left.createdAt ≤ right.createdAt

/-- The sessions that make room for a new one. -/
def displaced (maxConcurrent : ℕ) (live : List Session) : List Session :=
  if live.length ≥ maxConcurrent then
    live.take (live.length - maxConcurrent + 1)
  else []

/-- The loop over the displaced sessions; returns `revokeUsernames`. -/
def displaceEach (now : ℕ) : List Session → Query (List String)
  | [] => return []
  | row :: rows => do
      updateSessions (fun session => session.id == row.id)
        (closeRow now .revoked "concurrency")
      let _ ← enqueue now row.id .revokeUser
        { panelUsername := row.panelUsername }
      let usernames ← displaceEach now rows
      return row.panelUsername :: usernames

/-- Protocols whose credential is a password. -/
def isPasswordProtocol (protocol : String) : Bool :=
  protocol == "trojan" || protocol == "shadowsocks" || protocol == "ss"

def newCredential (protocol : String) (bytes : Bytes) : String :=
  if isPasswordProtocol protocol then base62 24 bytes
  else uuidOut (randomUUID bytes)

def newPanelUsername (bytes : Bytes) : String :=
  "s_" ++ base62 22 bytes

/-- The values of the session insert. -/
def newSession (input : ConnectInput) (plan : Resolved) (node : NodePick)
    (draw : Draw) : NewSession where
  userId := input.userId
  deviceId := input.deviceId
  nodeId := node.nodeId
  tier := plan.tier
  status := match plan.tier with
    | .premium => .active
    | .free => .provisioning
  panelUsername := newPanelUsername draw.username
  credentialRef := newCredential node.protocol draw.credential
  inboundTag := node.inboundTag
  protocol := node.protocol
  clientPublicKey := input.clientPubKey
  expiresAt := plan.expiresAt

/-- The grant that a free session is minted with. -/
def connectGrant (cfg : Config) (now : ℕ) (input : ConnectInput)
    (plan : Resolved) (sessionId : ℕ) (draw : Draw) : Grant where
  id := draw.grantId
  userId := input.userId
  deviceId := input.deviceId
  sessionId := some sessionId
  purpose := .connect
  nonce := randomUrlToken 32 draw.nonce
  requiredAds := cfg.requiredAds
  grantMinutes := cfg.grantMinutes
  issuedAt := now
  expiresAt := plan.expiresAt

/-- The Phase A transaction of `connect`. -/
def connectTransaction (cfg : Config) (now : ℕ) (input : ConnectInput)
    (plan : Resolved) (draw : Draw) : Query TxResult := do
  let db ← get
  let live := liveSessions input.userId db.sessions
  let revokeUsernames ← displaceEach now (displaced plan.maxConcurrent live)
  let db ← get
  let node ← expect (pickNode plan.tier db)
    (.connectError "no_node_capacity" 503)
  let values := newSession input plan node draw
  let sessionId ← insertSession now draw.sessionId values
  match plan.tier with
  | .free => do
      let grant := connectGrant cfg now input plan sessionId draw
      let grantId ← insertGrant grant
      return ⟨sessionId, values.panelUsername, values.credentialRef, node,
        revokeUsernames, some grantId, some grant.nonce⟩
  | .premium =>
      return ⟨sessionId, values.panelUsername, values.credentialRef, node,
        revokeUsernames, none, none⟩

/-! ## Phases B and C -/

/-- The statement that records a finished inline revoke. -/
def markRevoked (now : ℕ) (username : String) : Query Unit :=
  updatePanelOps (fun op => op.op == .revokeUser && op.status == .pending &&
      op.payload.panelUsername == username)
    fun op => { op with status := .succeeded, completedAt := some now }

/-- The argument of `createUser`. -/
def createUserParams (cfg : Config) (plan : Resolved) (tx : TxResult) :
    CreateUserParams where
  username := tx.panelUsername
  expireAt := plan.expiresAt
  proxies :=
    if isPasswordProtocol tx.node.protocol then
      [(tx.node.protocol, { password := some tx.credentialRef })]
    else [(tx.node.protocol,
      { id := some tx.credentialRef, flow := some cfg.vlessFlow })]
  inboundsByProtocol := [(tx.node.protocol, [tx.node.inboundTag])]

/-- `expiryMatches`: equal to within two whole seconds. -/
def expiryMatches (stored : Option ℕ) (expected : ℕ) : Bool :=
  match stored with
  | none => false
  | some instant =>
      decide (instant / 1000 ≤ expected / 1000 + 2 ∧
        expected / 1000 ≤ instant / 1000 + 2)

/-- The first statement of `failSession`. -/
def failSessionClose (now sessionId : ℕ) : Query Unit :=
  updateSessions (fun row => row.id == sessionId)
    (closeRow now .failed "panel_provision_failed")

/-- Its second statement. -/
def failSessionEnqueue (now sessionId : ℕ) (panelUsername : String) :
    Query Unit := do
  let _ ← enqueue now sessionId .deleteUser { panelUsername := panelUsername }

/-- Its third statement. -/
def failSessionPenalize (nodeId : ℕ) : Query Unit :=
  modify fun db =>
    { db with
      nodes := updateWhere (fun node => node.id == nodeId)
        (fun node => { node with errorStreak := node.errorStreak + 1 })
        db.nodes }

def activateSession (now sessionId : ℕ) : Query Unit :=
  updateSessions (fun row => row.id == sessionId)
    fun row => { row with activatedAt := some now }

/-- The payload of a premium session. -/
def buildPayload (cfg : Config) (tx : TxResult) (clientPubKey : List UInt8) :
    Query EncryptedPayload := do
  let db ← get
  let endpoint ← expect (db.nodeEndpoints.find? fun endpoint =>
      endpoint.nodeId == tx.node.nodeId &&
        endpoint.inboundTag == tx.node.inboundTag && endpoint.isActive)
    (.connectError "endpoint_unavailable" 503)
  let configJson := buildSingboxConfig
    { protocol := tx.node.protocol
      address := endpoint.address
      port := endpoint.port
      uuid := tx.credentialRef
      flow := some cfg.vlessFlow
      security := endpoint.security }
  lift (encryptFor cfg configJson tx.sessionId clientPubKey)

/-! ## Specifications -/

section Specifications

variable {cfg : Config} {now : ℕ} {db after : Db}

/-- A payload is built from an endpoint of the picked node. -/
theorem buildPayload_ok {tx : TxResult} {key : List UInt8}
    {payload : EncryptedPayload}
    (hok : buildPayload cfg tx key db = .ok (payload, after)) :
    after = db ∧ key.length = 32 ∧ ∃ endpoint : NodeEndpoint,
      payload = ⟨tx.sessionId, key, buildSingboxConfig
        { protocol := tx.node.protocol
          address := endpoint.address
          port := endpoint.port
          uuid := tx.credentialRef
          flow := some cfg.vlessFlow
          security := endpoint.security }⟩ := by
  simp only [buildPayload, bind_ok, get_ok, expect_ok, lift_ok] at hok
  obtain ⟨_, _, ⟨rfl, rfl⟩, endpoint, _, ⟨-, rfl⟩, hcipher, rfl⟩ := hok
  obtain ⟨rfl, hlength⟩ := encryptFor_ok hcipher
  exact ⟨rfl, hlength, endpoint, rfl⟩

theorem mem_liveSessions {userId : ℕ} {row : Session} {sessions : List Session}
    (hrow : row ∈ liveSessions userId sessions) :
    row ∈ sessions ∧ row.userId = userId ∧ row.status.isLive = true := by
  have hsorted := (List.mem_insertionSort _).mp hrow
  simpa [and_assoc] using List.mem_filter.mp hsorted

theorem mem_displaced {maxConcurrent : ℕ} {live : List Session} {row : Session}
    (hrow : row ∈ displaced maxConcurrent live) : row ∈ live := by
  rw [displaced] at hrow
  split at hrow
  · exact List.mem_of_mem_take hrow
  · simp at hrow

/-- The displacement loop closes its rows and queues one revoke for each. -/
theorem displaceEach_ok {rows : List Session} :
    ∀ {db after : Db} {usernames : List String},
      displaceEach now rows db = .ok (usernames, after) →
        usernames = rows.map Session.panelUsername ∧
        after = { db with
          sessions := updateWhere (isNamedBy Session.id rows)
            (closeRow now .revoked "concurrency") db.sessions
          panelOps := db.panelOps ++
            queuedOps now .revokeUser db.panelOps.length rows } := by
  induction rows with
  | nil =>
      intro db after usernames hok
      obtain ⟨rfl, rfl⟩ := pure_ok.mp hok
      have hsame : updateWhere (isNamedBy Session.id [])
          (closeRow now .revoked "concurrency") db.sessions = db.sessions :=
        updateWhere_eq_self fun _ _ => rfl
      simp [hsame, queuedOps]
  | cons row rows ih =>
      intro db after usernames hok
      simp only [displaceEach, updateSessions, bind_ok, modify_ok, enqueue_ok,
        pure_ok] at hok
      obtain ⟨_, _, rfl, _, _, ⟨rfl, rfl⟩, rest, _, hrest, rfl, rfl⟩ := hok
      obtain ⟨rfl, rfl⟩ := ih hrest
      refine ⟨rfl, ?_⟩
      have hsessions : updateWhere (isNamedBy Session.id rows)
          (closeRow now .revoked "concurrency")
          (updateWhere (fun session => session.id == row.id)
            (closeRow now .revoked "concurrency") db.sessions) =
          updateWhere (fun session => session.id == row.id ||
            isNamedBy Session.id rows session)
            (closeRow now .revoked "concurrency") db.sessions := by
        apply updateWhere_updateWhere
        · exact fun _ => rfl
        · exact fun _ => rfl
      simp only [hsessions, queuedOps, List.length_append, List.length_singleton,
        List.append_assoc, List.singleton_append]
      congr 2
      funext session
      simp [isNamedBy, Bool.beq_comm]

/-- The row that Phase A inserts. -/
def insertedRow (now : ℕ) (input : ConnectInput) (plan : Resolved)
    (node : NodePick) (draw : Draw) (credentialRef : Uuid) : Session :=
  (newSession input plan node draw).row now draw.sessionId credentialRef

theorem isLive_insertedRow {input : ConnectInput} {plan : Resolved}
    {node : NodePick} {draw : Draw} {credentialRef : Uuid} :
    (insertedRow now input plan node draw credentialRef).status.isLive =
      true := by
  cases htier : plan.tier <;>
    simp [insertedRow, NewSession.row, newSession, htier, SessionStatus.isLive]

/-- How Phase A commits: it closes the displaced sessions of the user, inserts
the new row and, on the free tier, mints its grant. -/
structure ConnectCommit (cfg : Config) (now : ℕ) (input : ConnectInput)
    (plan : Resolved) (draw : Draw) (db : Db) (tx : TxResult) (after : Db)
    (rows : List Session) (mid : Db) (credentialRef : Uuid) : Prop where
  closes : Closes now rows db mid
  usernames : tx.revokeUsernames = rows.map Session.panelUsername
  fresh_id : ∀ row ∈ mid.sessions, row.id ≠ draw.sessionId
  fresh_username : ∀ row ∈ mid.sessions,
    row.panelUsername ≠ newPanelUsername draw.username
  session_id : tx.sessionId = draw.sessionId
  username : tx.panelUsername = newPanelUsername draw.username
  credential : uuidIn tx.credentialRef = some credentialRef
  fresh_grant : plan.tier = .free → ∀ row ∈ db.grants, row.id ≠ draw.grantId
  users : after.users = db.users
  sessions : after.sessions =
    mid.sessions ++ [insertedRow now input plan tx.node draw credentialRef]
  panelOps : after.panelOps = mid.panelOps
  rewards : after.rewards = db.rewards
  grants : after.grants = db.grants ++
    match plan.tier with
    | .free => [connectGrant cfg now input plan draw.sessionId draw]
    | .premium => []

theorem connectTransaction_ok {input : ConnectInput} {plan : Resolved}
    {draw : Draw} {tx : TxResult}
    (hok : connectTransaction cfg now input plan draw db = .ok (tx, after)) :
    ∃ rows mid credentialRef,
      ConnectCommit cfg now input plan draw db tx after rows mid
        credentialRef := by
  simp only [connectTransaction, bind_ok, get_ok, expect_ok] at hok
  obtain ⟨_, _, ⟨rfl, rfl⟩, usernames, mid, hdisplace, _, _, ⟨rfl, rfl⟩, node,
    _, ⟨hnode, rfl⟩, sessionId, inserted, hinsert, hrest⟩ := hok
  obtain ⟨husernames, hmid⟩ := displaceEach_ok hdisplace
  obtain ⟨credentialRef, hcredential, rfl, hid, husername, rfl⟩ :=
    insertSession_ok hinsert
  have hcloses : Closes now
      (displaced plan.maxConcurrent (liveSessions input.userId db.sessions)) db
      mid := by
    refine ⟨fun row hrow => ?_, ⟨_, isClosing_closeRow now "concurrency", ?_⟩,
      ⟨.revokeUser, Or.inl rfl, ?_⟩, ?_, ?_⟩
    · obtain ⟨hmem, -, hlive⟩ := mem_liveSessions (mem_displaced hrow)
      exact ⟨hmem, hlive⟩
    all_goals rw [hmid]
  refine ⟨displaced plan.maxConcurrent (liveSessions input.userId db.sessions),
    mid, credentialRef, ?_⟩
  cases htier : plan.tier with
  | premium =>
      simp only [htier, pure_ok] at hrest
      obtain ⟨rfl, rfl⟩ := hrest
      exact
        { closes := hcloses
          usernames := husernames
          fresh_id := hid
          fresh_username := husername
          session_id := rfl
          username := rfl
          credential := hcredential
          fresh_grant := by simp [htier]
          users := by rw [hmid]
          sessions := rfl
          panelOps := rfl
          rewards := by rw [hmid]
          grants := by simp [htier, hmid] }
  | free =>
      simp only [htier, bind_ok, pure_ok] at hrest
      obtain ⟨grantId, _, hgrant, rfl, rfl⟩ := hrest
      obtain ⟨rfl, hfresh, rfl⟩ := insertGrant_ok hgrant
      exact
        { closes := hcloses
          usernames := husernames
          fresh_id := hid
          fresh_username := husername
          session_id := rfl
          username := rfl
          credential := hcredential
          fresh_grant := fun _ row hrow => hfresh row (by rw [hmid]; exact hrow)
          users := by rw [hmid]
          sessions := rfl
          panelOps := rfl
          rewards := by rw [hmid]
          grants := by simp [htier, hmid] }

end Specifications

end VpnMiddleware.ConnectionService
