import Mathlib.Data.Rat.Defs

/-!
# Rows of the migrated schema

The enums and row types of `db/schema.sql` after every file of
`db/migrations`, with the columns the modelled code reads or writes.  A `uuid`
primary key that the code treats as opaque is a natural number, an instant is
its number of milliseconds, and the one `uuid` column whose text matters
(`vpn_sessions.credential_ref`) is a `Uuid`.
-/

namespace VpnMiddleware.Schema

inductive UserStatus | active | suspended | deleted
  deriving DecidableEq, Repr

inductive PlanTier | free | premium
  deriving DecidableEq, Repr

inductive SubscriptionStatus
  | active | inGrace | onHold | paused | canceled | expired | revoked
  deriving DecidableEq, Repr

inductive SubscriptionSource | googlePlay | appStore | promo | internal
  deriving DecidableEq, Repr

inductive DeviceStatus | active | blocked
  deriving DecidableEq, Repr

inductive SessionStatus
  | provisioning | active | limited | expired | revoked | closed | failed
  deriving DecidableEq, Repr

/-- `status in ('provisioning','active','limited')`. -/
def SessionStatus.isLive : SessionStatus → Bool
  | .provisioning | .active | .limited => true
  | .expired | .revoked | .closed | .failed => false

inductive NodeStatus | active | draining | disabled
  deriving DecidableEq, Repr

inductive PanelOpStatus | pending | inFlight | succeeded | failed | dead
  deriving DecidableEq, Repr

/-- The documented values of `panel_operations.op`. -/
inductive PanelOpKind | createUser | extendUser | revokeUser | deleteUser
  deriving DecidableEq, Repr

inductive AdGrantPurpose | connect | extend | disconnect
  deriving DecidableEq, Repr

inductive AdGrantStatus | pending | fulfilled | consumed | expired | revoked
  deriving DecidableEq, Repr

inductive AdNetwork | admob | applovin | unity | ironsource
  deriving DecidableEq, Repr

inductive AdminActionType
  | kickSession | banUser | unbanUser | changeTier | panicFreeSessions
  | setNodeStatus | forceMigrateNode
  deriving DecidableEq, Repr

/-- A `uuid` value: 32 hexadecimal digits. -/
structure Uuid where
  digits : List (Fin 16)
  length_digits : digits.length = 32
  deriving DecidableEq, Repr

inductive UserRole | user | admin
  deriving DecidableEq, Repr

structure User where
  id : Nat
  status : UserStatus := .active
  isBanned : Bool := false
  email : Option String := none
  passwordHash : Option String := none
  isAnonymous : Bool := true
  role : UserRole := .user
  failedLoginCount : Nat := 0
  lockedUntil : Option Nat := none
  deriving DecidableEq, Repr

inductive DevicePlatform | android | ios
  deriving DecidableEq, Repr

structure Device where
  id : Nat
  userId : Nat
  status : DeviceStatus := .active
  isAttested : Bool := false
  attestedUntil : Option Nat := none
  attestedClientPublicKey : Option (List UInt8) := none
  platform : DevicePlatform := .android
  installId : String := ""
  appVersion : Option String := none
  lastIntegrityVerdict : Option String := none
  appAttestKeyId : Option String := none
  appAttestPublicKey : Option (List UInt8) := none
  appAttestCounter : Nat := 0
  lastAttestedAt : Option Nat := none
  deriving DecidableEq, Repr

/-- `attestation_challenges`; their purpose is always `connect`. -/
structure AttestationChallenge where
  id : Nat
  deviceId : Nat
  challenge : List UInt8
  expiresAt : Nat
  consumedAt : Option Nat := none
  deriving DecidableEq, Repr

/-- `refresh_tokens`. -/
structure RefreshToken where
  id : Nat
  userId : Nat
  deviceId : Option Nat
  familyId : Nat
  tokenHash : List UInt8
  issuedAt : Nat
  expiresAt : Nat
  rotatedFrom : Option Nat := none
  revokedAt : Option Nat := none
  revokeReason : Option String := none
  deriving DecidableEq, Repr

structure Plan where
  id : Nat
  code : String
  tier : PlanTier
  maxDevices : Nat := 3
  maxConcurrentSessions : Nat := 1
  deriving DecidableEq, Repr

structure Subscription where
  id : Nat
  userId : Nat
  planId : Nat
  source : SubscriptionSource
  status : SubscriptionStatus
  currentPeriodStart : Option Nat := none
  currentPeriodEnd : Option Nat := none
  deriving DecidableEq, Repr

structure Node where
  id : Nat
  panelNodeId : Option String := none
  tier : PlanTier := .premium
  status : NodeStatus := .active
  isActive : Bool := true
  errorStreak : Nat := 0
  capacity : Nat := 1000
  currentLoad : ℚ := 0
  sortWeight : Int := 100
  lastSyncedAt : Option Nat := none
  deriving DecidableEq, Repr

structure NodeInbound where
  nodeId : Nat
  inboundTag : String
  protocol : String
  tier : PlanTier := .premium
  deriving DecidableEq, Repr

/-- `node_endpoints.security`, the parameters `buildSingboxConfig` reads. -/
structure EndpointSecurity where
  sni : Option String := none
  fp : Option String := none
  pbk : Option String := none
  sid : Option String := none
  alpn : Option (List String) := none
  deriving DecidableEq, Repr

structure NodeEndpoint where
  nodeId : Nat
  inboundTag : String
  address : String
  port : Nat
  security : EndpointSecurity := {}
  isActive : Bool := true
  deriving DecidableEq, Repr

/-- `vpn_sessions`. -/
structure Session where
  id : Nat
  userId : Nat
  deviceId : Nat
  nodeId : Nat
  tier : PlanTier
  status : SessionStatus := .provisioning
  panelUsername : String
  credentialRef : Uuid
  inboundTag : Option String := none
  protocol : Option String := none
  clientPublicKey : Option (List UInt8) := none
  expiresAt : Nat
  createdAt : Nat
  activatedAt : Option Nat := none
  closedAt : Option Nat := none
  closeReason : Option String := none
  lastAdGrantId : Option Nat := none
  extensionsCount : Nat := 0
  lastPanelSyncAt : Option Nat := none
  deriving DecidableEq, Repr

/-- `panel_operations.payload`. -/
structure PanelOpPayload where
  panelUsername : String
  expireEpoch : Option Nat := none
  deriving DecidableEq, Repr

/-- `panel_operations`, the outbox. -/
structure PanelOp where
  id : Nat
  sessionId : Option Nat
  op : PanelOpKind
  payload : PanelOpPayload
  status : PanelOpStatus := .pending
  attempts : Nat := 0
  nextAttemptAt : Nat
  lastError : Option String := none
  createdAt : Nat
  completedAt : Option Nat := none
  deriving DecidableEq, Repr

/-- `ad_reward_grants`. -/
structure Grant where
  id : Nat
  userId : Nat
  deviceId : Nat
  sessionId : Option Nat
  purpose : AdGrantPurpose
  nonce : String
  requiredAds : Nat
  verifiedAds : Nat := 0
  grantMinutes : Nat
  status : AdGrantStatus := .pending
  issuedAt : Nat
  expiresAt : Nat
  fulfilledAt : Option Nat := none
  consumedAt : Option Nat := none
  deriving DecidableEq, Repr

/-- `ad_rewards`. -/
structure Reward where
  grantId : Nat
  network : AdNetwork
  transactionId : String
  adUnit : Option String := none
  rewardItem : Option String := none
  rewardAmount : Option Int := none
  signatureKeyId : Option String := none
  raw : List (String × String)
  verifiedAt : Nat
  deriving DecidableEq, Repr

/-- `admin_audit_logs`.  `details` keeps the number each action reports. -/
structure AuditLog where
  adminId : Option Nat
  actionType : AdminActionType
  targetId : Option Nat
  details : Nat
  ipAddress : Option String
  createdAt : Nat
  deriving DecidableEq, Repr

/-- The database. -/
structure Db where
  users : List User := []
  devices : List Device := []
  plans : List Plan := []
  subscriptions : List Subscription := []
  nodes : List Node := []
  nodeInbounds : List NodeInbound := []
  nodeEndpoints : List NodeEndpoint := []
  sessions : List Session := []
  panelOps : List PanelOp := []
  grants : List Grant := []
  rewards : List Reward := []
  auditLogs : List AuditLog := []
  refreshTokens : List RefreshToken := []
  attestationChallenges : List AttestationChallenge := []
  deriving DecidableEq, Repr

end VpnMiddleware.Schema
