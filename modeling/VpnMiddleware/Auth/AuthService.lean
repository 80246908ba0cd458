import VpnMiddleware.Common.Random
import VpnMiddleware.Core.Frame
import VpnMiddleware.Schema.Database

/-!
# Identity and refresh tokens

Anonymous accounts, registration, login with lockout, rotation of refresh
tokens with reuse detection, and logout.
-/

namespace VpnMiddleware.AuthService

open VpnMiddleware.Schema VpnMiddleware.Errors VpnMiddleware.Database
open VpnMiddleware.Transaction VpnMiddleware.Table VpnMiddleware.Random

/-- Tunables, and what the service takes from its libraries and the database:
the hashes, the lower case of a text, and the key by which `citext` compares. -/
structure AuthConfig where
  maxFailed : ℕ := 5
  lockoutMs : ℕ := 15 * 60000
  refreshTtlMs : ℕ := 30 * 24 * 60 * 60000
  hashRefresh : String → List UInt8
  argonHash : String → String
  argonVerify : String → String → Bool
  toLowerCase : String → String
  citext : String → String

/-- An access token: its subject and device; admin tokens name no device. -/
structure AccessToken where
  sub : ℕ
  did : Option ℕ
  deriving DecidableEq, Repr

structure TokenPair where
  accessToken : AccessToken
  refreshToken : String
  deriving DecidableEq, Repr

/-- The device fields of a request. -/
structure DeviceInput where
  platform : DevicePlatform
  installId : String
  appVersion : Option String := none
  deriving DecidableEq, Repr

/-- The ids and random bytes that one request draws. -/
structure AuthDraw where
  userId : ℕ
  deviceId : ℕ
  tokenId : ℕ
  familyId : ℕ
  raw : Bytes

/-! ## Inserts -/

def insertUser (user : User) : Query ℕ := do
  let db ← get
  require (!db.users.any fun row => row.id == user.id)
    (uniqueViolation "users_pkey")
  modify fun db => { db with users := db.users ++ [user] }
  return user.id

def insertDevice (device : Device) : Query ℕ := do
  let db ← get
  require (!db.devices.any fun row => row.id == device.id)
    (uniqueViolation "devices_pkey")
  require (!db.devices.any fun row =>
      row.userId == device.userId && row.installId == device.installId)
    (uniqueViolation "devices_user_id_install_id_key")
  require (db.users.any fun user => user.id == device.userId)
    (foreignKeyViolation "devices_user_id_fkey")
  modify fun db => { db with devices := db.devices ++ [device] }
  return device.id

def insertRefreshToken (token : RefreshToken) : Query ℕ := do
  let db ← get
  require (!db.refreshTokens.any fun row => row.id == token.id)
    (uniqueViolation "refresh_tokens_pkey")
  require (!db.refreshTokens.any fun row => row.tokenHash == token.tokenHash)
    (uniqueViolation "refresh_tokens_token_hash_key")
  require (db.users.any fun user => user.id == token.userId)
    (foreignKeyViolation "refresh_tokens_user_id_fkey")
  require (token.deviceId.all fun deviceId =>
      db.devices.any fun device => device.id == deviceId)
    (foreignKeyViolation "refresh_tokens_device_id_fkey")
  require (token.rotatedFrom.all fun rotatedFrom =>
      db.refreshTokens.any fun row => row.id == rotatedFrom)
    (foreignKeyViolation "refresh_tokens_rotated_from_fkey")
  modify fun db => { db with refreshTokens := db.refreshTokens ++ [token] }
  return token.id

/-! ## Helpers of the service -/

variable (cfg : AuthConfig) (now : ℕ)

/-- `newRefreshRaw()`. -/
def newRefreshRaw (draw : AuthDraw) : String := randomUrlToken 32 draw.raw

/-- The row that `issueRefresh` inserts. -/
def newRefreshToken (userId : ℕ) (deviceId : Option ℕ) (familyId : ℕ)
    (rotatedFrom : Option ℕ) (draw : AuthDraw) : RefreshToken where
  id := draw.tokenId
  userId := userId
  deviceId := deviceId
  familyId := familyId
  tokenHash := cfg.hashRefresh (newRefreshRaw draw)
  issuedAt := now
  expiresAt := now + cfg.refreshTtlMs
  rotatedFrom := rotatedFrom

def issueRefresh (userId : ℕ) (deviceId : Option ℕ) (familyId : ℕ)
    (rotatedFrom : Option ℕ) (draw : AuthDraw) : Query String := do
  let _ ← insertRefreshToken
    (newRefreshToken cfg now userId deviceId familyId rotatedFrom draw)
  return newRefreshRaw draw

/-- The row of a new device. -/
def newDevice (userId : ℕ) (input : DeviceInput) (draw : AuthDraw) : Device where
  id := draw.deviceId
  userId := userId
  platform := input.platform
  installId := input.installId
  appVersion := input.appVersion

def findOrCreateDevice (userId : ℕ) (input : DeviceInput) (draw : AuthDraw) :
    Query ℕ := do
  let db ← get
  match db.devices.find? fun device =>
      device.userId == userId && device.installId == input.installId with
  | some device => return device.id
  | none => insertDevice (newDevice userId input draw)

def pair (userId : ℕ) (deviceId : Option ℕ) (refreshRaw : String) :
    TokenPair :=
  ⟨⟨userId, deviceId⟩, refreshRaw⟩

def updateUser (id : ℕ) (change : User → User) : Query Unit :=
  modify fun db =>
    { db with users := updateWhere (fun user => user.id == id) change db.users }

/-! ## Accounts -/

/-- `POST /auth/anon`. -/
def anon (input : DeviceInput) (draw : AuthDraw) : Query TokenPair := do
  let userId ← insertUser { id := draw.userId, isAnonymous := true }
  let deviceId ← insertDevice (newDevice userId input draw)
  let refreshRaw ← issueRefresh cfg now userId (some deviceId) draw.familyId
    none draw
  return pair userId (some deviceId) refreshRaw

/-- `email = $1` on a column of type `citext`. -/
def hasEmail (email : String) (user : User) : Bool :=
  user.email.any fun stored => cfg.citext stored == cfg.citext email

/-- `POST /auth/register`. -/
def register (userId : ℕ) (email password : String) : Query Unit := do
  let db ← get
  let user ← expect (db.users.find? fun user =>
    user.id == userId && user.status == .active)
    (.unauthorized "user not found")
  require user.isAnonymous (.conflict "account already registered")
  require (!db.users.any fun row =>
      row.id != userId && hasEmail cfg (cfg.toLowerCase email) row)
    (.conflict "email already in use")
  updateUser userId fun user =>
    { user with
      email := some (cfg.toLowerCase email)
      passwordHash := some (cfg.argonHash password)
      isAnonymous := false }

def findByEmail (email : String) (db : Db) : Option User :=
  db.users.find? (hasEmail cfg email)

def isLocked (user : User) : Bool :=
  user.lockedUntil.any fun lockedUntil => decide (now < lockedUntil)

/-- The password is right and the account is active. -/
def passwordOk (password : String) (user : User) : Bool :=
  user.status == .active &&
    user.passwordHash.any fun hash => cfg.argonVerify hash password

def recordFailedLogin (userId : ℕ) : Query Unit :=
  updateUser userId fun user =>
    { user with
      failedLoginCount := user.failedLoginCount + 1
      lockedUntil :=
        if cfg.maxFailed ≤ user.failedLoginCount + 1 then
          some (now + cfg.lockoutMs)
        else user.lockedUntil }

/-- The transaction of a login whose password was right. -/
def loginTransaction (userId : ℕ) (input : DeviceInput) (draw : AuthDraw) :
    Query TokenPair := do
  let db ← get
  let fresh := db.users.find? fun user => user.id == userId
  require (!fresh.any (isLocked now)) (.forbidden "account temporarily locked")
  updateUser userId fun user =>
    { user with failedLoginCount := 0, lockedUntil := none }
  let deviceId ← findOrCreateDevice userId input draw
  let refreshRaw ← issueRefresh cfg now userId (some deviceId) draw.familyId
    none draw
  return pair userId (some deviceId) refreshRaw

/-- `POST /auth/login`: a wrong password is counted although the request
fails. -/
def login (email password : String) (input : DeviceInput) (draw : AuthDraw)
    (db : Db) : Except Failure TokenPair × Db :=
  let invalid : Except Failure TokenPair :=
    .error (.unauthorized "invalid credentials")
  match findByEmail cfg (cfg.toLowerCase email) db with
  | none => (invalid, db)
  | some user =>
      if isLocked now user then
        (.error (.forbidden "account temporarily locked"), db)
      else if passwordOk cfg password user then
        withTransaction (loginTransaction cfg now user.id input draw) db
      else (invalid, (withTransaction (recordFailedLogin cfg now user.id) db).2)

/-- `POST /admin/auth/login`: a token without a device. -/
def adminLogin (email password : String) (draw : AuthDraw) :
    Query TokenPair := do
  let db ← get
  let user ← expect ((findByEmail cfg (cfg.toLowerCase email) db).filter
    (passwordOk cfg password)) (.unauthorized "invalid credentials")
  require (user.role == .admin && !user.isBanned)
    (.forbidden "not an administrator")
  let refreshRaw ← issueRefresh cfg now user.id none draw.familyId none draw
  return pair user.id none refreshRaw

/-! ## Rotation -/

inductive RefreshOutcome
  | invalid
  | reuse (userId familyId : ℕ)
  | expired
  | rotated (userId : ℕ) (deviceId : Option ℕ) (refreshRaw : String)
  deriving DecidableEq, Repr

/-- `set revoked_at = now(), revoke_reason = ..`. -/
def revokeToken (reason : String) (row : RefreshToken) : RefreshToken :=
  { row with revokedAt := some now, revokeReason := some reason }

def updateTokens (selected : RefreshToken → Bool)
    (change : RefreshToken → RefreshToken) : Query Unit :=
  modify fun db =>
    { db with refreshTokens := updateWhere selected change db.refreshTokens }

/-- The unrevoked rows of a family. -/
def isLiveIn (familyId : ℕ) (row : RefreshToken) : Bool :=
  row.familyId == familyId && row.revokedAt.isNone

def findToken (rawToken : String) (db : Db) : Option RefreshToken :=
  db.refreshTokens.find? fun row => row.tokenHash == cfg.hashRefresh rawToken

def refreshTransaction (rawToken : String) (draw : AuthDraw) :
    Query RefreshOutcome := do
  let db ← get
  match findToken cfg rawToken db with
  | none => return .invalid
  | some row =>
      if row.revokedAt.isSome then
        updateTokens (isLiveIn row.familyId) (revokeToken now "reuse_detected")
        return .reuse row.userId row.familyId
      else if row.expiresAt ≤ now then
        updateTokens (fun token => token.id == row.id)
          (revokeToken now "expired")
        return .expired
      else
        updateTokens (fun token => token.id == row.id)
          (revokeToken now "rotated")
        let refreshRaw ← issueRefresh cfg now row.userId row.deviceId
          row.familyId (some row.id) draw
        return .rotated row.userId row.deviceId refreshRaw

/-- The answer of `POST /auth/refresh`. -/
def refreshAnswer : RefreshOutcome → Except Failure TokenPair
  | .invalid | .expired => .error (.unauthorized "invalid refresh token")
  | .reuse _ _ =>
      .error (.unauthorized "session revoked — please sign in again")
  | .rotated userId deviceId refreshRaw => .ok (pair userId deviceId refreshRaw)

/-- `POST /auth/refresh`. -/
def refresh (rawToken : String) (draw : AuthDraw) (db : Db) :
    Except Failure TokenPair × Db :=
  let outcome := withTransaction (refreshTransaction cfg now rawToken draw) db
  (outcome.1.bind refreshAnswer, outcome.2)

/-- `POST /auth/logout`. -/
def logout (userId : ℕ) (rawToken : String) : Query Unit := do
  let db ← get
  match findToken cfg rawToken db with
  | none => return ()
  | some row =>
      require (row.userId == userId)
        (.forbidden "refresh token does not belong to caller")
      updateTokens (isLiveIn row.familyId) (revokeToken now "logout")

/-! ## Frames -/

section Frames

open VpnMiddleware.Frame

variable {cfg now} {Rel : Db → Db → Prop} [IsPreorder Db Rel]
variable (htokens : ∀ db rows, Rel db { db with refreshTokens := rows })
variable (hdevices : ∀ db rows, Rel db { db with devices := rows })

include htokens in
theorem respects_insertRefreshToken (token : RefreshToken) :
    Respects Rel (insertRefreshToken token) := by
  refine Respects.get.bind fun db => (Respects.require _ _).bind fun _ =>
    (Respects.require _ _).bind fun _ => (Respects.require _ _).bind fun _ =>
    (Respects.require _ _).bind fun _ => (Respects.require _ _).bind fun _ => ?_
  exact (Respects.modify fun db => htokens db _).bind fun _ => Respects.pure _

include htokens in
theorem respects_issueRefresh (userId : ℕ) (deviceId : Option ℕ)
    (familyId : ℕ) (rotatedFrom : Option ℕ) (draw : AuthDraw) :
    Respects Rel (issueRefresh cfg now userId deviceId familyId rotatedFrom
      draw) :=
  (respects_insertRefreshToken htokens _).bind fun _ => Respects.pure _

include hdevices in
theorem respects_insertDevice (device : Device) :
    Respects Rel (insertDevice device) := by
  refine Respects.get.bind fun db => (Respects.require _ _).bind fun _ =>
    (Respects.require _ _).bind fun _ => (Respects.require _ _).bind fun _ => ?_
  exact (Respects.modify fun db => hdevices db _).bind fun _ => Respects.pure _

include hdevices in
theorem respects_findOrCreateDevice (userId : ℕ) (input : DeviceInput)
    (draw : AuthDraw) :
    Respects Rel (findOrCreateDevice userId input draw) := by
  refine Respects.get.bind fun db => ?_
  split
  · exact Respects.pure _
  · exact respects_insertDevice hdevices _

include htokens hdevices in
theorem respects_loginTransaction (hunlocked : ∀ db userId, Rel db { db with
      users := updateWhere (fun user => user.id == userId) (fun user =>
        { user with failedLoginCount := 0, lockedUntil := none }) db.users })
    (userId : ℕ) (input : DeviceInput) (draw : AuthDraw) :
    Respects Rel (loginTransaction cfg now userId input draw) := by
  refine Respects.get.bind fun db => (Respects.require _ _).bind fun _ =>
    (Respects.modify fun db => hunlocked db userId).bind fun _ =>
    (respects_findOrCreateDevice hdevices _ _ _).bind fun deviceId => ?_
  exact (respects_issueRefresh htokens _ _ _ _ _).bind fun _ => Respects.pure _

end Frames

end VpnMiddleware.AuthService
