import VpnMiddleware.Admin.AdminController
import VpnMiddleware.Auth.TokenLineage
import VpnMiddleware.Core.TransitionSystem

/-!
# Access to the admin endpoints

A request to an admin endpoint passes two guards before its handler runs: one
checks its access token, the other reads the account.  The entries of the audit
interceptor are written after the response.  Between these steps any other
request may run, that of another administrator among them.
-/

namespace VpnMiddleware.AdminAccess

open VpnMiddleware.Schema VpnMiddleware.Errors VpnMiddleware.Database
open VpnMiddleware.Transaction VpnMiddleware.Table VpnMiddleware.Pool
open VpnMiddleware.AuthService VpnMiddleware.LoginFlow VpnMiddleware.TokenLineage
open VpnMiddleware.AdminService VpnMiddleware.TransitionSystem
open VpnMiddleware.AdminController (Request Store AuditEntry)

structure Config where
  middleware : Environment.Config := {}
  auth : AuthConfig
  accessTtlSec : ℕ := 15 * 60

/-- An access token that the service has signed; `iat` is in seconds. -/
structure SignedToken where
  claims : AccessClaims
  iat : ℕ
  deriving DecidableEq, Repr

/-! ## The guards -/

/-- `exp` lies ahead of the clock, which counts milliseconds. -/
def SignedToken.isCurrent (cfg : Config) (now : ℕ) (token : SignedToken) : Bool :=
  decide (now / 1000 < token.iat + cfg.accessTtlSec)

/-- `JwtAuthGuard.canActivate` on the bearer token of the request.  Nobody but
the service can sign one. -/
def JwtAuthGuard.canActivate (cfg : Config) (now : ℕ) (issued : List SignedToken)
    (bearer : Option SignedToken) : Except Failure AuthUser :=
  match bearer with
  | none => .error (.unauthorized "missing bearer token")
  | some token =>
      if issued.contains token && token.isCurrent cfg now then
        .ok (authUser token.claims)
      else .error (.unauthorized "invalid token")

/-- What `AdminGuard` asks of the row that it reads. -/
def isAdministrator (user : User) : Bool :=
  !user.isBanned && user.status == .active && user.role == .admin

/-- `AdminGuard.canActivate`. -/
def AdminGuard.canActivate (userId : ℕ) (db : Db) : Except Failure Unit :=
  if (db.users.find? fun user => user.id == userId).any isAdministrator then
    .ok ()
  else .error (.forbidden "admin access required")

/-! ## The system -/

/-- A request that `JwtAuthGuard` let through. -/
structure AdminRequest where
  user : AuthUser
  ip : Option String
  request : Request

inductive Stage
  | guard
  | handler
  /-- Answered; these entries are still to be recorded. -/
  | resolved (result : ℕ) (entries : List AuditEntry)
  | rejected (cause : Failure)

structure AdminCall where
  sent : AdminRequest
  stage : Stage

/-- `{ adminId: user.userId, ip: req.ip }`. -/
def AdminRequest.actor (sent : AdminRequest) : AdminActor :=
  ⟨some sent.user.userId, sent.ip⟩

structure State where
  store : Store := {}
  clock : ℕ := 0
  logins : List LoginProc := []
  issued : List SignedToken := []
  calls : List AdminCall := []

/-- What other parts of the middleware do: users stay as they are, and audit
rows are those of the Telegram bot, which name no account. -/
structure OtherChange where
  change : Db → Db
  users : ∀ db, (change db).users = db.users
  auditLogs : ∀ db, ∃ rows, (change db).auditLogs = db.auditLogs ++ rows ∧
    ∀ row ∈ rows, row.adminId = none

inductive Action
  | tick (ms : ℕ)
  | anon (input : DeviceInput) (draw : AuthDraw)
  | register (bearer : Option SignedToken) (email password : String)
  | login (attempt : Attempt)
  | finishLogin (i : ℕ) (draw : AuthDraw)
  | refresh (rawToken : String) (draw : AuthDraw)
  | logout (bearer : Option SignedToken) (rawToken : String)
  /-- The operator runs `create-admin.sh`. -/
  | promote (email : String)
  | request (bearer : Option SignedToken) (ip : Option String) (request : Request)
  | guard (i : ℕ)
  | handle (i newPlanId newSubscriptionId : ℕ)
  | record (i k : ℕ)
  | other (change : OtherChange)

namespace State

variable (s : State)

def setDb (db : Db) : State := { s with store := { s.store with db := db } }

/-- The service answers; the access token of the answer is signed now. -/
def answer (outcome : Except Failure TokenPair × Db) : State :=
  match outcome.1 with
  | .ok tokens => { s.setDb outcome.2 with
      issued := s.issued ++ [⟨signAccess tokens.accessToken, s.clock / 1000⟩] }
  | .error _ => s.setDb outcome.2

/-- `set role = 'admin' where email = ..`. -/
def promote (cfg : Config) (email : String) : State :=
  s.setDb { s.store.db with
    users := updateWhere (hasEmail cfg.auth email)
      (fun user => { user with role := .admin }) s.store.db.users }

def move (i : ℕ) (call : AdminCall) (stage : Stage) : State :=
  { s with calls := s.calls.set i { call with stage := stage } }

/-- The handler of call `i` and what the interceptor makes of its result. -/
def handle (cfg : Config) (i newPlanId newSubscriptionId : ℕ)
    (call : AdminCall) : State :=
  let outcome := AdminController.intercept cfg.middleware
    { request := call.sent.request, actor := call.sent.actor, now := s.clock,
      newPlanId := newPlanId, newSubscriptionId := newSubscriptionId } s.store
  { s.move i call (match outcome.result with
      | .ok result => .resolved result outcome.entries
      | .error cause => .rejected cause) with
    store := outcome.store }

def record (cfg : Config) (call : AdminCall) (entry : AuditEntry) : State :=
  s.setDb (AdminController.record cfg.middleware s.clock call.sent.actor entry
    s.store.db)

end State

/-- A request of a signed-in user, or the refusal of its token. -/
def withUser (cfg : Config) (s : State) (bearer : Option SignedToken)
    (next : AuthUser → State) : State :=
  match JwtAuthGuard.canActivate cfg s.clock s.issued bearer with
  | .ok user => next user
  | .error _ => s

def step (cfg : Config) (s : State) : Action → Option State
  | .tick ms => some { s with clock := s.clock + ms }
  | .anon input draw => some (s.answer
      (withTransaction (anon cfg.auth s.clock input draw) s.store.db))
  | .register bearer email password =>
      some (withUser cfg s bearer fun user => s.setDb (withTransaction
        (register cfg.auth user.userId email password) s.store.db).2)
  | .login attempt =>
      match attempt.start cfg.auth s.clock s.store.db with
      | .ok proc => some { s with logins := s.logins ++ [proc] }
      | .error _ => some s
  | .finishLogin i draw =>
      s.logins[i]?.map fun proc =>
        { s.answer (proc.finish cfg.auth s.clock draw s.store.db) with
          logins := settle s.logins i none }
  | .refresh rawToken draw =>
      some (s.answer (refresh cfg.auth s.clock rawToken draw s.store.db))
  | .logout bearer rawToken =>
      some (withUser cfg s bearer fun user => s.setDb (withTransaction
        (logout cfg.auth s.clock user.userId rawToken) s.store.db).2)
  | .promote email => some (s.promote cfg email)
  | .request bearer ip request =>
      some (withUser cfg s bearer fun user =>
        { s with calls := s.calls ++ [⟨⟨user, ip, request⟩, .guard⟩] })
  | .guard i => do
      let call ← s.calls[i]?
      match call.stage with
      | .guard =>
          match AdminGuard.canActivate call.sent.user.userId s.store.db with
          | .ok _ => some (s.move i call .handler)
          | .error cause => some (s.move i call (.rejected cause))
      | _ => none
  | .handle i newPlanId newSubscriptionId => do
      let call ← s.calls[i]?
      match call.stage with
      | .handler => some (s.handle cfg i newPlanId newSubscriptionId call)
      | _ => none
  | .record i k => do
      let call ← s.calls[i]?
      match call.stage with
      | .resolved result entries =>
          entries[k]?.map fun entry => (s.record cfg call entry).move i call
            (.resolved result (entries.eraseIdx k))
      | _ => none
  | .other change => some (s.setDb (change.change s.store.db))

/-- No token has been signed yet, and no request is on its way. -/
structure IsInitial (s : State) : Prop where
  users : (s.store.db.users.map User.id).Nodup
  issued : s.issued = []
  calls : s.calls = []

def adminAccess (cfg : Config) : System State Action where
  init := IsInitial
  step := step cfg

end VpnMiddleware.AdminAccess
