import VpnMiddleware.Admin.AdminService
import VpnMiddleware.Settings.SettingsService

/-!
# The mutating admin endpoints

A request that passed the guards carries an administrator, a parsed path id and
the raw body.  The validation pipe builds the DTO of the handler from the body;
the audit interceptor reads the body itself, after the handler has resolved.
-/

namespace VpnMiddleware.AdminController

open VpnMiddleware.Schema VpnMiddleware.Errors VpnMiddleware.Environment
open VpnMiddleware.Database VpnMiddleware.Transaction VpnMiddleware.JsonText
open VpnMiddleware.SettingsService VpnMiddleware.AdminService

/-- The database and the `panel_config` row of `system_settings`. -/
structure Store where
  db : Db := {}
  panelConfig : Option Json := none

inductive Request
  | mutate (userId : ℕ) (body : Json)
  | kick (sessionId : ℕ)
  | setNodeStatus (nodeId : ℕ) (body : Json)
  | forceMigrate (nodeId : ℕ)
  | panic
  | setPanelSettings (body : Json)

/-- A request, its actor, its time, and the ids of the rows it may insert. -/
structure Call where
  request : Request
  actor : AdminActor := {}
  now : ℕ := 0
  newPlanId : ℕ := 0
  newSubscriptionId : ℕ := 0

/-! ## Validation -/

def badRequest : Failure := .badRequest "Bad Request Exception"

/-- `forbidNonWhitelisted`: each index of an array is a name that is not on the
list. -/
def isWhitelisted (names : List String) : Json → Bool
  | .obj members => members.all fun entry => names.contains entry.1
  | .arr items => items.isEmpty
  | _ => false

/-- `@IsIn(['free', 'premium'])`. -/
def readTier : Json → Option PlanTier
  | .str "free" => some .free
  | .str "premium" => some .premium
  | _ => none

/-- `isBanned` is `undefined`, null or a Boolean. -/
structure MutateUserDto where
  tier : Option PlanTier
  isBanned : Option (Option Bool)
  deriving DecidableEq, Repr

def MutateUserDto.validate (body : Json) : Option MutateUserDto :=
  if isWhitelisted ["tier", "isBanned"] body then do
    let tier ← readMember readTier body "tier"
    let isBanned ← readMember Json.bool? body "isBanned"
    return ⟨tier, (body.member "isBanned").map fun _ => isBanned⟩
  else none

/-- `isActive` is `undefined` in an empty array, which is no instance of the
class and carries none of its checks. -/
structure NodeStatusDto where
  isActive : Option Bool
  deriving DecidableEq, Repr

def NodeStatusDto.validate (body : Json) : Option NodeStatusDto :=
  if isWhitelisted ["isActive"] body then
    match body with
    | .arr _ => some ⟨none⟩
    | _ => ((body.member "isActive").bind Json.bool?).map fun isActive =>
        ⟨some isActive⟩
  else none

/-! ## Handlers -/

def notNullViolation (column relation : String) : Failure :=
  .error ("null value in column \"" ++ column ++ "\" of relation \"" ++
    relation ++ "\" violates not-null constraint")

/-- The number is `revokedSessions` of the response. -/
def mutate (cfg : Config) (call : Call) (userId : ℕ) (dto : MutateUserDto) :
    Query ℕ :=
  match dto.isBanned with
  | some none => do
      let db ← get
      require (db.users.any fun user => user.id == userId)
        (.notFound "user not found")
      throw (notNullViolation "is_banned" "users")
  | isBanned =>
      mutateUser cfg call.now userId
        { tier := dto.tier, isBanned := isBanned.join,
          newPlanId := call.newPlanId,
          newSubscriptionId := call.newSubscriptionId } call.actor

/-- `undefined` is written as null. -/
def setNodeStatus (nodeId : ℕ) (dto : NodeStatusDto) : Query ℕ :=
  match dto.isActive with
  | none => do
      let db ← get
      require (db.nodes.any fun node => node.id == nodeId)
        (.notFound "node not found")
      throw (notNullViolation "is_active" "nodes")
  | some isActive => do
      setNodeActive nodeId isActive
      return 0

mutual

/-- A text of the value holds U+0000. -/
def hasNul : Json → Bool
  | .str value => holdsNul value.toList
  | .arr items => itemsHaveNul items
  | .obj members => membersHaveNul members
  | .null | .bool _ | .num _ => false

def itemsHaveNul : List Json → Bool
  | [] => false
  | item :: items => hasNul item || itemsHaveNul items

def membersHaveNul : List (String × Json) → Bool
  | [] => false
  | (name, value) :: members =>
      holdsNul name.toList || hasNul value ||
        membersHaveNul members

end

/-- `PanelConfig` is an interface, so the pipe lets any body through. -/
def setPanelConfig (body : Json) (store : Store) :
    Except Failure Unit × Store :=
  if hasNul body then
    (.error nulInJson, store)
  else (.ok (), { store with panelConfig := some body })

/-- Run a handler's statements as one transaction on the database. -/
def inTransaction {Result : Type} (query : Query Result) (store : Store) :
    Except Failure Result × Store :=
  let (result, db) := withTransaction query store.db
  (result, { store with db := db })

/-- The number is the count in the response, or zero. -/
def handle (cfg : Config) (call : Call) (store : Store) :
    Except Failure ℕ × Store :=
  match call.request with
  | .mutate userId body =>
      match MutateUserDto.validate body with
      | none => (.error badRequest, store)
      | some dto => inTransaction (mutate cfg call userId dto) store
  | .kick sessionId =>
      inTransaction (do kickSession call.now sessionId; return 0) store
  | .setNodeStatus nodeId body =>
      match NodeStatusDto.validate body with
      | none => (.error badRequest, store)
      | some dto => inTransaction (setNodeStatus nodeId dto) store
  | .forceMigrate nodeId =>
      inTransaction (forceMigrateNode cfg call.now nodeId call.actor) store
  | .panic =>
      inTransaction (panicRevokeFreeSessions cfg call.now call.actor) store
  | .setPanelSettings body =>
      let (result, store) := setPanelConfig body store
      (result.map fun _ => 0, store)

/-! ## The interceptor -/

structure AuditEntry where
  actionType : AdminActionType
  targetId : Option ℕ
  details : ℕ
  deriving DecidableEq, Repr

/-- The entries that follow a resolved handler.  Bans, panics and migrations
are recorded in their transactions. -/
def infer (request : Request) (result : ℕ) : List AuditEntry :=
  match request with
  | .kick sessionId => [⟨.kickSession, some sessionId, result⟩]
  | .setNodeStatus nodeId _ => [⟨.setNodeStatus, some nodeId, result⟩]
  | .panic | .forceMigrate _ => []
  | .mutate userId body =>
      (if (body.member "isBanned").bind Json.bool? == some false then
        [⟨.unbanUser, some userId, result⟩]
      else []) ++
      (if body.flag "tier" then [⟨.changeTier, some userId, result⟩] else [])
  | .setPanelSettings _ => []

structure Intercepted where
  result : Except Failure ℕ
  store : Store
  entries : List AuditEntry

def intercept (cfg : Config) (call : Call) (store : Store) : Intercepted :=
  let (result, after) := handle cfg call store
  match result with
  | .ok count => ⟨.ok count, after, infer call.request count⟩
  | .error cause => ⟨.error cause, after, []⟩

/-- `AuditService.record`: a failed write is swallowed. -/
def record (cfg : Config) (now : ℕ) (actor : AdminActor) (entry : AuditEntry)
    (db : Db) : Db :=
  (withTransaction (recordInTx cfg now actor entry.actionType entry.targetId
    entry.details) db).2

end VpnMiddleware.AdminController
