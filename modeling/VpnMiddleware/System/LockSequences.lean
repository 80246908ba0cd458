import VpnMiddleware.Admin.AdminService
import VpnMiddleware.Ads.AdsService
import VpnMiddleware.Connection.ConnectionService
import VpnMiddleware.Core.RowLocks
import VpnMiddleware.Workers.OutboxDrainer

/-!
# The locks of each transaction

What the statements of a transaction lock, in their order: `for update` and
`update` the rows they select, an insert the rows that its foreign keys refer
to.  Where a check fails, the transaction ends and asks for nothing more.
-/

namespace VpnMiddleware.LockSequences

open VpnMiddleware.Schema VpnMiddleware.Environment VpnMiddleware.RowLocks
open VpnMiddleware.AdsService VpnMiddleware.ConnectionService
open VpnMiddleware.AdminService VpnMiddleware.Database

inductive Row
  | grant (id : ℕ)
  | session (id : ℕ)
  | user (id : ℕ)
  | device (id : ℕ)
  | node (id : ℕ)
  | plan (id : ℕ)
  | subscription (id : ℕ)
  deriving DecidableEq, Repr

/-- The order in which bulk updates come upon their rows. -/
structure Scan where
  order : List Row → List Row
  perm : ∀ rows, (order rows).Perm rows

inductive Call
  | recordVerifiedReward (reward : AdMobReward)
  | verifyAdReward (userId grantId sessionId : ℕ)
  | connect (input : ConnectInput) (plan : Resolved) (draw : Draw)
  | kickSession (sessionId : ℕ)
  | mutateUser (userId : ℕ) (changes : UserChanges) (actor : AdminActor)
  | panicRevokeFreeSessions (actor : AdminActor)
  | forceMigrateNode (nodeId : ℕ) (actor : AdminActor)
  | sweepOnce

/-- A running transaction: its time, and the tables as its statements read
them. -/
structure Running where
  call : Call
  now : ℕ
  db : Db
  scan : Scan

/-! ## Statements -/

/-- `select .. for update`. -/
def forUpdate (row : Row) : Request Row := .wait ⟨row, .update⟩

/-- An `update` that changes no key. -/
def updating (row : Row) : Request Row := .wait ⟨row, .noKeyUpdate⟩

/-- The check of a foreign key. -/
def referring (row : Row) : Request Row := .wait ⟨row, .keyShare⟩

/-- The bulk update of live sessions and the outbox row for each of them. -/
def revokeLocks (scan : Scan) (selected : Session → Bool) (db : Db) :
    List (Request Row) :=
  let hit := db.sessions.filter fun row => selected row && row.status.isLive
  let rows := scan.order (hit.map fun row => .session row.id)
  rows.map updating ++ rows.map referring

/-- The audit row refers to the administrator, if there is one. -/
def auditLocks (actor : AdminActor) : List (Request Row) :=
  (actor.adminId.map fun adminId => referring (.user adminId)).toList

/-! ## Transactions -/

def recordVerifiedRewardLocks (now : ℕ) (reward : AdMobReward) (db : Db) :
    List (Request Row) :=
  if reward.customData == closingSessionNonce ∨ anyHoldsNul [reward.customData] then []
  else
    match db.grants.find? fun row => row.nonce == reward.customData with
    | none => []
    | some grant =>
        let row := Row.grant grant.id
        forUpdate row ::
          if anyHoldsNul reward.texts ∨ anyHoldsNul reward.rawTexts ∨
              isDuplicate (rewardRow now grant.id reward) db.rewards then []
          else referring row :: if isOpen now grant then [updating row] else []

/-- Grant and session, in this order. -/
def verifyAdRewardLocks (cfg : Config) (now userId grantId sessionId : ℕ)
    (db : Db) : List (Request Row) :=
  match db.grants.find? fun row => row.id == grantId with
  | none => []
  | some grant =>
      let row := Row.grant grantId
      forUpdate row ::
        if grant.userId ≠ userId ∨ grant.sessionId.any (· ≠ sessionId) ∨
            grant.status = .consumed then []
        else if grant.status = .expired ∨ grant.expiresAt ≤ now then
          [updating row]
        else if grant.verifiedAds < grant.requiredAds then []
        else
          match db.sessions.find? fun row => row.id == sessionId with
          | none => []
          | some session =>
              let locked := Row.session sessionId
              forUpdate locked ::
                if session.userId ≠ userId ∨ session.status.isLive = false ∨
                    (0 < grant.grantMinutes ∧ isAtCap cfg now session = true)
                then []
                else [updating row, referring locked] ++
                  if 0 < grant.grantMinutes then
                    [updating locked, referring row, referring locked]
                  else []

/-- The live sessions by age, then what the new session refers to. -/
def connectLocks (input : ConnectInput) (plan : Resolved) (draw : Draw)
    (db : Db) : List (Request Row) :=
  let live := liveSessions input.userId db.sessions
  let owner := [referring (.user input.userId), referring (.device input.deviceId)]
  (live.map fun row => forUpdate (.session row.id)) ++
    ((displaced plan.maxConcurrent live).flatMap fun row =>
      [updating (.session row.id), referring (.session row.id)]) ++
    match pickNode plan.tier db with
    | none => []
    | some node =>
        owner ++ [referring (.node node.nodeId)] ++
          match plan.tier with
          | .free => owner ++ [referring (.session draw.sessionId)]
          | .premium => []

def kickSessionLocks (sessionId : ℕ) (db : Db) : List (Request Row) :=
  match db.sessions.find? fun row => row.id == sessionId with
  | none => []
  | some session =>
      let row := Row.session sessionId
      forUpdate row ::
        if session.status.isLive then [updating row, referring row] else []

/-- The ban part of `mutateUser`. -/
def banLocks (scan : Scan) (userId : ℕ) (isBanned : Option Bool)
    (actor : AdminActor) (db : Db) : List (Request Row) :=
  match isBanned with
  | none => []
  | some false => [updating (.user userId)]
  | some true =>
      updating (.user userId) ::
        (revokeLocks scan (fun row => row.userId == userId) db ++
          auditLocks actor)

def grantLocks (scan : Scan) (userId : ℕ) (changes : UserChanges) (db : Db) :
    List (Request Row) :=
  let planId := ((db.plans.find? fun plan => plan.code == adminGrantCode).map
    Plan.id).getD changes.newPlanId
  match db.subscriptions.filter (isInternalGrant userId planId) with
  | [] => [referring (.user userId), referring (.plan planId)]
  | rows => (scan.order (rows.map fun row => .subscription row.id)).map updating

/-- The tier part of `mutateUser`. -/
def tierLocks (scan : Scan) (userId : ℕ) (changes : UserChanges) (db : Db) :
    List (Request Row) :=
  match changes.tier with
  | none => []
  | some .premium => grantLocks scan userId changes db
  | some .free =>
      let rows := db.subscriptions.filter fun row =>
        row.userId == userId && row.source == .internal &&
          (row.status == .active || row.status == .inGrace) &&
          db.plans.any fun plan => plan.id == row.planId && plan.tier == .premium
      (scan.order (rows.map fun row => .subscription row.id)).map updating

def mutateUserLocks (scan : Scan) (userId : ℕ) (changes : UserChanges)
    (actor : AdminActor) (db : Db) : List (Request Row) :=
  if db.users.any fun user => user.id == userId then
    forUpdate (.user userId) ::
      (banLocks scan userId changes.isBanned actor db ++
        tierLocks scan userId changes db)
  else []

def panicRevokeFreeSessionsLocks (scan : Scan) (actor : AdminActor) (db : Db) :
    List (Request Row) :=
  revokeLocks scan (fun row => row.tier == .free) db ++ auditLocks actor

def forceMigrateNodeLocks (scan : Scan) (nodeId : ℕ) (actor : AdminActor)
    (db : Db) : List (Request Row) :=
  if db.nodes.any fun node => node.id == nodeId then
    [forUpdate (.node nodeId), updating (.node nodeId)] ++
      revokeLocks scan (fun row => row.nodeId == nodeId) db ++ auditLocks actor
  else []

/-- `for update skip locked limit ..`; the update and the inserts that follow
lock these rows again. -/
def sweepOnceLocks (cfg : Config) (now : ℕ) (db : Db) : List (Request Row) :=
  let expired := db.sessions.filter fun row =>
    row.status.isLive && decide (row.expiresAt ≤ now)
  let rows := expired.insertionSort fun left right =>
    left.expiresAt ≤ right.expiresAt
  [.skipLocked cfg.reapBatch (rows.map fun row => .session row.id)]

def Running.requests (cfg : Config) (tx : Running) : List (Request Row) :=
  match tx.call with
  | .recordVerifiedReward reward => recordVerifiedRewardLocks tx.now reward tx.db
  | .verifyAdReward userId grantId sessionId =>
      verifyAdRewardLocks cfg tx.now userId grantId sessionId tx.db
  | .connect input plan draw => connectLocks input plan draw tx.db
  | .kickSession sessionId => kickSessionLocks sessionId tx.db
  | .mutateUser userId changes actor =>
      mutateUserLocks tx.scan userId changes actor tx.db
  | .panicRevokeFreeSessions actor =>
      panicRevokeFreeSessionsLocks tx.scan actor tx.db
  | .forceMigrateNode nodeId actor =>
      forceMigrateNodeLocks tx.scan nodeId actor tx.db
  | .sweepOnce => sweepOnceLocks cfg tx.now tx.db

end VpnMiddleware.LockSequences
