import VpnMiddleware.Common.Environment
import VpnMiddleware.Common.Random
import VpnMiddleware.Connection.SessionConfigService

/-!
# Ad grants

Minting a grant, recording a verified ad and claiming a grant, each as its
database transaction, and the statements that follow the panel push.
-/

namespace VpnMiddleware.AdsService

open VpnMiddleware.Schema VpnMiddleware.Errors VpnMiddleware.Environment
open VpnMiddleware.Database VpnMiddleware.Transaction VpnMiddleware.Random
open VpnMiddleware.SessionConfigService VpnMiddleware.Table

structure RequestTokenResult where
  grantId : ℕ
  nonce : String
  requiredAds : ℕ
  grantMinutes : ℕ
  expiresAt : ℕ
  deriving DecidableEq, Repr

inductive PanelSync | synced | pending | unchanged
  deriving DecidableEq, Repr

structure VerifyRewardResult where
  sessionId : ℕ
  expiresAt : ℕ
  grantedMinutes : ℕ
  panelSync : PanelSync
  payload : Option EncryptedPayload := none
  deriving DecidableEq, Repr

/-- The verified content of an AdMob callback. -/
structure AdMobReward where
  customData : String
  transactionId : String
  adUnit : Option String := none
  rewardItem : Option String := none
  rewardAmount : Option Int := none
  keyId : String
  raw : List (String × String) := []
  deriving DecidableEq, Repr

/-- `(requiredAds, grantMinutes)`. -/
def rulesFor : AdGrantPurpose → ℕ × ℕ
  | .connect => (2, 60)
  | .extend => (2, 60)
  | .disconnect => (1, 0)

/-- Every purpose asks for at least one ad. -/
theorem rulesFor_pos (purpose : AdGrantPurpose) : 1 ≤ (rulesFor purpose).1 := by
  cases purpose <;> decide

/-! ## request-ad-token -/

/-- The row that `requestAdToken` inserts. -/
def requestedGrant (cfg : Config) (now userId deviceId : ℕ)
    (purpose : AdGrantPurpose) (sessionId : Option ℕ) (grantId : ℕ)
    (bytes : Bytes) : Grant where
  id := grantId
  userId := userId
  deviceId := deviceId
  sessionId := sessionId
  purpose := purpose
  nonce := randomUrlToken 32 bytes
  requiredAds := (rulesFor purpose).1
  grantMinutes := (rulesFor purpose).2
  issuedAt := now
  expiresAt := now + cfg.tokenWindowMin * 60000

def requestAdToken (cfg : Config) (now userId deviceId : ℕ)
    (purpose : AdGrantPurpose) (sessionId : Option ℕ) (grantId : ℕ)
    (bytes : Bytes) : Query RequestTokenResult := do
  let grant := requestedGrant cfg now userId deviceId purpose sessionId grantId
    bytes
  let id ← insertGrant grant
  return ⟨id, grant.nonce, grant.requiredAds, grant.grantMinutes,
    grant.expiresAt⟩

/-! ## SSV callbacks -/

/-- On which of its paths `recordVerifiedReward` returned. -/
inductive CallbackOutcome
  | acknowledged
  | duplicate
  | storedLate
  | counted (grantId : ℕ)
  deriving DecidableEq, Repr

/-- The `ad_rewards` row of a callback. -/
def rewardRow (now grantId : ℕ) (reward : AdMobReward) : Reward where
  grantId := grantId
  network := .admob
  transactionId := reward.transactionId
  adUnit := reward.adUnit
  rewardItem := reward.rewardItem
  rewardAmount := reward.rewardAmount
  signatureKeyId := some reward.keyId
  raw := reward.raw
  verifiedAt := now

/-- The text parameters of the insert. -/
def AdMobReward.texts (reward : AdMobReward) : List String :=
  reward.transactionId ::
    (reward.adUnit.toList ++ reward.rewardItem.toList ++ [reward.keyId])

/-- The texts inside its `jsonb` parameter. -/
def AdMobReward.rawTexts (reward : AdMobReward) : List String :=
  reward.raw.flatMap fun entry => [entry.1, entry.2]

def anyHoldsNul (texts : List String) : Bool :=
  texts.any fun text => holdsNul text.toList

def isDuplicate (row : Reward) (rewards : List Reward) : Bool :=
  rewards.any fun other =>
    other.network == row.network && other.transactionId == row.transactionId

def isOpen (now : ℕ) (grant : Grant) : Bool :=
  grant.status == .pending && decide (now < grant.expiresAt)

/-- The counter update of a counted callback. -/
def countAd (now : ℕ) (grant row : Grant) : Grant :=
  let verified := grant.verifiedAds + 1
  let fulfilled := decide (grant.requiredAds ≤ verified)
  { row with
    verifiedAds := verified
    status := if fulfilled then .fulfilled else row.status
    fulfilledAt := if fulfilled then some now else row.fulfilledAt }

theorem isOpen_pending {now : ℕ} {grant : Grant}
    (hopen : isOpen now grant = true) : grant.status = .pending := by
  simp only [isOpen, Bool.and_eq_true, beq_iff_eq] at hopen
  exact hopen.1

theorem countAd_status {now : ℕ} {grant : Grant}
    (hpending : grant.status = .pending) :
    (countAd now grant grant).status ≠ .consumed := by
  by_cases hfull : grant.requiredAds ≤ grant.verifiedAds + 1 <;>
    simp [countAd, hfull, hpending]

def recordVerifiedReward (now : ℕ) (reward : AdMobReward) :
    Query CallbackOutcome := do
  if reward.customData == closingSessionNonce then
    return .acknowledged
  else
    require (!anyHoldsNul [reward.customData]) nulInText
    let db ← get
    let grant ← expect (db.grants.find? fun row => row.nonce == reward.customData)
      (.notFound "unknown grant nonce")
    require (!anyHoldsNul reward.texts) nulInText
    require (!anyHoldsNul reward.rawTexts) nulInJson
    let row := rewardRow now grant.id reward
    if isDuplicate row db.rewards then
      return .duplicate
    else
      modify fun db => { db with rewards := db.rewards ++ [row] }
      if isOpen now grant then
        updateGrant grant.id (countAd now grant)
        return .counted grant.id
      else
        return .storedLate

/-! ## verify-ad-reward -/

inductive Planned
  | idempotent (sessionId expiresAt : ℕ)
  | extend (sessionId : ℕ) (panelUsername : String)
      (newExpires grantedMinutes : ℕ) (opId : Option ℕ)
  deriving DecidableEq, Repr

/-- The replay of a consumed grant. -/
def replayGrant (grant : Grant) (sessionId : ℕ) : Query Planned := do
  let boundSessionId := grant.sessionId.getD sessionId
  let db ← get
  let session ← expect (db.sessions.find? fun row => row.id == boundSessionId)
    (.notFound "session not found")
  return .idempotent boundSessionId session.expiresAt

/-- The expiry that `minutes` more give a session, floored at now and capped. -/
def extendedExpiry (cfg : Config) (now minutes : ℕ) (session : Session) : ℕ :=
  let base := max now session.expiresAt
  let capMs := session.createdAt + cfg.maxSessionMin * 60000
  if base + minutes * 60000 > capMs then capMs else base + minutes * 60000

def isAtCap (cfg : Config) (now : ℕ) (session : Session) : Bool :=
  decide (session.createdAt + cfg.maxSessionMin * 60000 ≤
    max now session.expiresAt)

def consume (now sessionId : ℕ) (row : Grant) : Grant :=
  { row with
    status := .consumed
    consumedAt := some now
    sessionId := some sessionId }

/-- The session update of a claim that grants time. -/
def extendRow (grantId newExpires : ℕ) (row : Session) : Session :=
  { row with
    expiresAt := newExpires
    extensionsCount := row.extensionsCount + 1
    lastAdGrantId := some grantId
    status := if row.status = .provisioning then .active else row.status }

theorem isLive_extendRow (grantId newExpires : ℕ) {row : Session}
    (hlive : row.status.isLive = true) :
    (extendRow grantId newExpires row).status.isLive = true := by
  by_cases hstatus : row.status = .provisioning
  · simp [extendRow, hstatus, SessionStatus.isLive]
  · simpa [extendRow, hstatus] using hlive

def notYetVerified (grant : Grant) : Failure :=
  .conflict ("ads not yet verified (" ++ toString grant.verifiedAds ++ "/" ++
    toString grant.requiredAds ++ "); retry shortly")

def statusName : SessionStatus → String
  | .provisioning => "provisioning"
  | .active => "active"
  | .limited => "limited"
  | .expired => "expired"
  | .revoked => "revoked"
  | .closed => "closed"
  | .failed => "failed"

/-- The claim of a grant that is not consumed yet. -/
def claimGrant (cfg : Config) (now userId sessionId : ℕ) (grant : Grant) :
    Query Planned := do
  require (decide (grant.requiredAds ≤ grant.verifiedAds)) (notYetVerified grant)
  let db ← get
  let session ← expect (db.sessions.find? fun row => row.id == sessionId)
    (.notFound "session not found")
  require (session.userId == userId) (.forbidden "session not owned by caller")
  require session.status.isLive
    (.conflict ("session is not live (" ++ statusName session.status ++ ")"))
  require (!(decide (0 < grant.grantMinutes) && isAtCap cfg now session))
    (.conflict "session lifetime cap reached; cannot extend further")
  let newExpires := extendedExpiry cfg now grant.grantMinutes session
  updateGrant grant.id (consume now sessionId)
  if 0 < grant.grantMinutes then
    updateSessions (fun row => row.id == sessionId)
      (extendRow grant.id newExpires)
    let opId ← enqueue now sessionId .extendUser
      { panelUsername := session.panelUsername
        expireEpoch := some (newExpires / 1000) }
    return .extend sessionId session.panelUsername newExpires grant.grantMinutes
      (some opId)
  else
    return .extend sessionId session.panelUsername newExpires grant.grantMinutes
      none

/-- The path of a grant whose window has passed: the update is rolled back by
the throw. -/
def rejectLapsed (grant : Grant) : Query Planned := do
  updateGrant grant.id fun row =>
    if row.status ≠ .consumed then { row with status := .expired } else row
  throw (.conflict "ad grant window expired; request a new token")

/-- The transaction of `verifyAdReward`. -/
def verifyTransaction (cfg : Config) (now userId grantId sessionId : ℕ) :
    Query Planned := do
  let db ← get
  let grant ← expect (db.grants.find? fun row => row.id == grantId)
    (.notFound "grant not found")
  require (grant.userId == userId) (.forbidden "grant not owned by caller")
  require (grant.sessionId.all (· == sessionId))
    (.forbidden "grant is bound to a different session")
  if grant.status = .consumed then
    replayGrant grant sessionId
  else if grant.status = .expired ∨ grant.expiresAt ≤ now then
    rejectLapsed grant
  else
    claimGrant cfg now userId sessionId grant

/-! ## After the transaction -/

def recordPushed (now opId : ℕ) : Query Unit :=
  updatePanelOps (fun op => op.id == opId)
    fun op => { op with status := .succeeded, completedAt := some now }

def stampSync (now sessionId : ℕ) : Query Unit :=
  updateSessions (fun row => row.id == sessionId)
    fun row => { row with lastPanelSyncAt := some now }

def recordPushFailed (now opId : ℕ) (message : String) : Query Unit :=
  updatePanelOps (fun op => op.id == opId) fun op =>
    { op with
      status := .failed
      lastError := some (String.ofList (message.toList.take 500))
      nextAttemptAt := now + 15000 }

/-- `payloadFor`: a failed build is logged and leaves the payload out. -/
def payloadFor (cfg : Config) (sessionId : ℕ) (db : Db) :
    Option EncryptedPayload :=
  match (withTransaction (encryptedPayloadForSession cfg sessionId) db).1 with
  | .ok payload => some payload
  | .error _ => none

/-! ## Specifications -/

section Specifications

variable {cfg : Config} {now userId grantId sessionId : ℕ} {db after : Db}

theorem payloadFor_eq_some {payload : EncryptedPayload}
    (hread : payloadFor cfg sessionId db = some payload) :
    ∃ after, encryptedPayloadForSession cfg sessionId db =
      .ok (payload, after) := by
  rw [payloadFor] at hread
  cases hrun : encryptedPayloadForSession cfg sessionId db with
  | error cause => simp [withTransaction_of_error hrun] at hread
  | ok result =>
      simp only [withTransaction_of_ok hrun, Option.some.injEq] at hread
      exact ⟨result.2, hread ▸ rfl⟩

theorem requestAdToken_ok {deviceId : ℕ} {purpose : AdGrantPurpose}
    {bound : Option ℕ} {bytes : Bytes} {result : RequestTokenResult}
    (hok : requestAdToken cfg now userId deviceId purpose bound grantId bytes
      db = .ok (result, after)) :
    (∀ row ∈ db.grants, row.id ≠ grantId) ∧
      after = { db with
        grants := db.grants ++ [requestedGrant cfg now userId deviceId purpose
          bound grantId bytes] } := by
  simp only [requestAdToken, bind_ok, pure_ok] at hok
  obtain ⟨_, _, hinsert, -, rfl⟩ := hok
  exact (insertGrant_ok hinsert).2

/-- The tables after a callback whose reward row is new. -/
def withReward (now : ℕ) (reward : AdMobReward) (grant : Grant) (db : Db) : Db :=
  { db with rewards := db.rewards ++ [rewardRow now grant.id reward] }

/-- The tables after a callback that counts. -/
def withCountedReward (now : ℕ) (reward : AdMobReward) (grant : Grant)
    (db : Db) : Db :=
  { withReward now reward grant db with
    grants := updateWhere (fun row => row.id == grant.id) (countAd now grant)
      db.grants }

/-- The four paths of `recordVerifiedReward`. -/
theorem recordVerifiedReward_ok {reward : AdMobReward}
    {outcome : CallbackOutcome}
    (hok : recordVerifiedReward now reward db = .ok (outcome, after)) :
    ((outcome = .acknowledged ∨ outcome = .duplicate) ∧ after = db) ∨
      ∃ grant ∈ db.grants,
        isDuplicate (rewardRow now grant.id reward) db.rewards = false ∧
        ((outcome = .storedLate ∧ after = withReward now reward grant db) ∨
          (outcome = .counted grant.id ∧ isOpen now grant = true ∧
            after = withCountedReward now reward grant db)) := by
  rw [recordVerifiedReward] at hok
  by_cases hsentinel : (reward.customData == closingSessionNonce) = true
  · rw [if_pos hsentinel, pure_ok] at hok
    exact Or.inl ⟨Or.inl hok.1.symm, hok.2.symm⟩
  · rw [if_neg hsentinel] at hok
    simp only [bind_ok, get_ok, expect_ok, require_ok] at hok
    obtain ⟨_, _, ⟨-, rfl⟩, _, _, ⟨rfl, rfl⟩, grant, _, ⟨hfind, rfl⟩,
      _, _, ⟨-, rfl⟩, _, _, ⟨-, rfl⟩, hrest⟩ := hok
    cases hduplicate : isDuplicate (rewardRow now grant.id reward) db.rewards with
    | true =>
        rw [hduplicate, if_pos rfl, pure_ok] at hrest
        exact Or.inl ⟨Or.inr hrest.1.symm, hrest.2.symm⟩
    | false =>
        refine Or.inr ⟨grant, List.mem_of_find?_eq_some hfind, hduplicate, ?_⟩
        simp only [hduplicate, Bool.false_eq_true, if_false, bind_ok,
          modify_ok] at hrest
        obtain ⟨_, _, rfl, hrest⟩ := hrest
        by_cases hopen : isOpen now grant = true
        · simp only [hopen, if_true, updateGrant, bind_ok, modify_ok,
            pure_ok] at hrest
          obtain ⟨_, _, rfl, rfl, rfl⟩ := hrest
          exact Or.inr ⟨rfl, hopen, rfl⟩
        · rw [if_neg hopen, pure_ok] at hrest
          exact Or.inl ⟨hrest.1.symm, hrest.2.symm⟩

/-- What `claimGrant` has checked when it commits. -/
structure Claimed (cfg : Config) (now userId grantId sessionId : ℕ) (db : Db)
    (grant : Grant) (session : Session) : Prop where
  grant_mem : grant ∈ db.grants
  grant_id : grant.id = grantId
  grant_owner : grant.userId = userId
  grant_binding : ∀ bound, grant.sessionId = some bound → bound = sessionId
  not_consumed : grant.status ≠ .consumed
  not_expired : grant.status ≠ .expired
  verified : grant.requiredAds ≤ grant.verifiedAds
  session_mem : session ∈ db.sessions
  session_id : session.id = sessionId
  session_owner : session.userId = userId
  session_live : session.status.isLive = true
  below_cap : 0 < grant.grantMinutes → isAtCap cfg now session = false

/-- The tables after a claim that grants no time. -/
def withConsumed (now grantId sessionId : ℕ) (db : Db) : Db :=
  { db with
    grants := updateWhere (fun row => row.id == grantId)
      (consume now sessionId) db.grants }

/-- The outbox row of an extension. -/
def extendOp (now id sessionId : ℕ) (username : String) (newExpires : ℕ) :
    PanelOp :=
  newPanelOp now id sessionId .extendUser
    { panelUsername := username, expireEpoch := some (newExpires / 1000) }

/-- The tables after a claim that grants time. -/
def withExtension (now grantId : ℕ) (session : Session) (newExpires : ℕ)
    (db : Db) : Db :=
  { withConsumed now grantId session.id db with
    sessions := updateWhere (fun row => row.id == session.id)
      (extendRow grantId newExpires) db.sessions
    panelOps := db.panelOps ++ [extendOp now (db.panelOps.length + 1) session.id
      session.panelUsername newExpires] }

/-- How `verifyTransaction` commits: a replay of a consumed grant, or a claim
that grants time or not. -/
inductive VerifyCommit (cfg : Config) (now userId grantId sessionId : ℕ)
    (db : Db) : Planned → Db → Prop
  | replay {grant : Grant} {session : Session} :
      grant ∈ db.grants → grant.id = grantId → grant.status = .consumed →
      (∀ bound, grant.sessionId = some bound → bound = sessionId) →
      session ∈ db.sessions → session.id = sessionId →
      VerifyCommit cfg now userId grantId sessionId db
        (.idempotent sessionId session.expiresAt) db
  | claim {grant : Grant} {session : Session} :
      Claimed cfg now userId grantId sessionId db grant session →
      grant.grantMinutes = 0 →
      VerifyCommit cfg now userId grantId sessionId db
        (.extend sessionId session.panelUsername
          (extendedExpiry cfg now 0 session) 0 none)
        (withConsumed now grantId sessionId db)
  | extend {grant : Grant} {session : Session} {newExpires : ℕ} :
      Claimed cfg now userId grantId sessionId db grant session →
      0 < grant.grantMinutes →
      newExpires = extendedExpiry cfg now grant.grantMinutes session →
      VerifyCommit cfg now userId grantId sessionId db
        (.extend sessionId session.panelUsername newExpires grant.grantMinutes
          (some (db.panelOps.length + 1)))
        (withExtension now grantId session newExpires db)

private theorem binding_of_all {grant : Grant}
    (hall : grant.sessionId.all (· == sessionId) = true) :
    ∀ bound, grant.sessionId = some bound → bound = sessionId := by
  intro bound hbound
  simpa [hbound] using hall

theorem verifyTransaction_ok {planned : Planned}
    (hok : verifyTransaction cfg now userId grantId sessionId db =
      .ok (planned, after)) :
    VerifyCommit cfg now userId grantId sessionId db planned after := by
  simp only [verifyTransaction, bind_ok, get_ok, expect_ok, require_ok] at hok
  obtain ⟨_, _, ⟨rfl, rfl⟩, grant, _, ⟨hfind, rfl⟩, _, _, ⟨howner, rfl⟩,
    _, _, ⟨hbinding, rfl⟩, hrest⟩ := hok
  have hmem := List.mem_of_find?_eq_some hfind
  have hid : grant.id = grantId := by simpa using List.find?_some hfind
  have hbound := binding_of_all hbinding
  by_cases hconsumed : grant.status = .consumed
  · simp only [hconsumed, if_true, replayGrant, bind_ok, get_ok, expect_ok,
      pure_ok] at hrest
    obtain ⟨_, _, ⟨rfl, rfl⟩, session, _, ⟨hsession, rfl⟩, rfl, rfl⟩ := hrest
    have hgetD : grant.sessionId.getD sessionId = sessionId := by
      cases hcase : grant.sessionId with
      | none => rfl
      | some bound => exact hbound bound hcase
    rw [hgetD] at hsession ⊢
    exact .replay hmem hid hconsumed hbound
      (List.mem_of_find?_eq_some hsession)
      (by simpa using List.find?_some hsession)
  · rw [if_neg hconsumed] at hrest
    by_cases hlapsed : grant.status = .expired ∨ grant.expiresAt ≤ now
    · simp only [hlapsed, if_true, rejectLapsed, bind_ok, throw_ok, and_false,
        exists_false] at hrest
    · rw [if_neg hlapsed] at hrest
      simp only [claimGrant, updateGrant, updateSessions, bind_ok, get_ok,
        expect_ok, require_ok, modify_ok] at hrest
      obtain ⟨_, _, ⟨hverified, rfl⟩, _, _, ⟨rfl, rfl⟩, session, _,
        ⟨hsession, rfl⟩, _, _, ⟨hsessionOwner, rfl⟩, _, _, ⟨hlive, rfl⟩,
        _, _, ⟨hcap, rfl⟩, _, _, rfl, hrest⟩ := hrest
      have hsid : session.id = sessionId := by
        simpa using List.find?_some hsession
      have hclaimed : Claimed cfg now userId grantId sessionId db grant session :=
        { grant_mem := hmem
          grant_id := hid
          grant_owner := by simpa using howner
          grant_binding := hbound
          not_consumed := hconsumed
          not_expired := fun hexpired => hlapsed (Or.inl hexpired)
          verified := by simpa using hverified
          session_mem := List.mem_of_find?_eq_some hsession
          session_id := hsid
          session_owner := by simpa using hsessionOwner
          session_live := hlive
          below_cap := fun hpos => by simpa [hpos] using hcap }
      by_cases hpos : 0 < grant.grantMinutes
      · simp only [hpos, if_true, bind_ok, modify_ok, enqueue_ok,
          pure_ok] at hrest
        obtain ⟨_, _, rfl, _, _, ⟨rfl, rfl⟩, rfl, rfl⟩ := hrest
        have hcommit := VerifyCommit.extend hclaimed hpos rfl
        rw [← hid, ← hsid] at hcommit ⊢
        exact hcommit
      · have hzero : grant.grantMinutes = 0 := by omega
        rw [if_neg hpos, pure_ok] at hrest
        obtain ⟨rfl, rfl⟩ := hrest
        rw [hzero, hid]
        exact .claim hclaimed hzero

end Specifications

end VpnMiddleware.AdsService
