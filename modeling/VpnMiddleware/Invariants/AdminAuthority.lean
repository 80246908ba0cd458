import VpnMiddleware.Admin.AdminAccess
import VpnMiddleware.Auth.UserFrames
import VpnMiddleware.Core.Slots
import VpnMiddleware.Invariants.TokenFamilies

/-!
# Where the power of administrators comes from

A handler of the admin endpoints runs only for a request whose token the
service had signed for the account, and whose account was an unbanned
administrator's when the guard read it.  Nobody becomes an administrator by a
request, and nothing but these handlers bans, unbans or signs an audit row.
-/

namespace VpnMiddleware.AdminAuthority

open VpnMiddleware.Schema VpnMiddleware.Errors VpnMiddleware.Database
open VpnMiddleware.Transaction VpnMiddleware.Table VpnMiddleware.Frame
open VpnMiddleware.Slots VpnMiddleware.AuthService VpnMiddleware.LoginFlow
open VpnMiddleware.TokenLineage VpnMiddleware.UserFrames
open VpnMiddleware.AdminService VpnMiddleware.AdminAccess
open VpnMiddleware.TransitionSystem
open VpnMiddleware.TokenFamilies (plainConfig nthDraw)
open VpnMiddleware.AdminController (Request Store AuditEntry)

variable {cfg : AdminAccess.Config} {start last s next : AdminAccess.State}
variable {act : AdminAccess.Action} {db after : Db}
variable {trace : List (AdminAccess.State × AdminAccess.Action)}

/-! ## Events -/

section Events

variable (cfg start)
variable (before : List (AdminAccess.State × AdminAccess.Action))
variable (s : AdminAccess.State) (act : AdminAccess.Action)

/-- The step answers with this token. -/
def Signs (token : SignedToken) : Prop :=
  ∃ next, AdminAccess.step cfg s act = some next ∧
    next.issued = s.issued ++ [token]

/-- Call `i` comes in with a current token that was signed earlier. -/
def Arrives (i : ℕ) (sent : AdminRequest) : Prop :=
  ∃ token : SignedToken, act = .request (some token) sent.ip sent.request ∧
    s.calls.length = i ∧ sent.user = authUser token.claims ∧
    token.isCurrent cfg s.clock = true ∧
    Earlier before fun _ s act => Signs cfg s act token

/-- The account was an administrator's from the start, or the operator made it
one. -/
def MadeAdmin (userId : ℕ) : Prop :=
  (∃ user ∈ start.store.db.users, user.id = userId ∧ user.role = .admin) ∨
    Earlier before fun _ s act => ∃ email, act = .promote email ∧
      ∃ user ∈ s.store.db.users, user.id = userId ∧
        hasEmail cfg.auth email user = true

/-- The second guard lets call `i` through. -/
def Admits (i : ℕ) (sent : AdminRequest) : Prop :=
  act = .guard i ∧
    (∃ user ∈ s.store.db.users, user.id = sent.user.userId ∧
      isAdministrator user = true) ∧
    MadeAdmin cfg start before sent.user.userId ∧
    Earlier before fun before s act => Arrives cfg before s act i sent

/-- The handler of call `i` runs. -/
def Handles (i : ℕ) (sent : AdminRequest) : Prop :=
  (∃ planId subscriptionId, act = .handle i planId subscriptionId) ∧
    Earlier before fun before s act => Admits cfg start before s act i sent

/-- The handler of a request to change this user runs. -/
def Mutates (userId : ℕ) : Prop :=
  ∃ i planId subscriptionId call body, act = .handle i planId subscriptionId ∧
    s.calls[i]? = some call ∧ call.sent.request = .mutate userId body

end Events

structure AuthoritySound (cfg : AdminAccess.Config) (start : AdminAccess.State)
    (trace : List (AdminAccess.State × AdminAccess.Action))
    (last : AdminAccess.State) : Prop where
  handled : ∀ before s i planId subscriptionId after,
    trace = before ++ (s, .handle i planId subscriptionId) :: after →
      ∃ call : AdminCall, s.calls[i]? = some call ∧
        Earlier before fun before s act => Admits cfg start before s act i call.sent
  admins : ∀ user ∈ last.store.db.users, user.role = .admin →
    MadeAdmin cfg start trace user.id
  bans : ∀ before s act after next, trace = before ++ (s, act) :: after →
    AdminAccess.step cfg s act = some next →
    ∀ user ∈ s.store.db.users, ∀ user' ∈ next.store.db.users,
      user'.id = user.id → user'.isBanned ≠ user.isBanned → Mutates s act user.id
  audited : ∃ rows, last.store.db.auditLogs = start.store.db.auditLogs ++ rows ∧
    ∀ row ∈ rows, ∀ adminId, row.adminId = some adminId →
      ∃ i sent, sent.user.userId = adminId ∧
        Earlier trace fun before _ act => Handles cfg start before act i sent

/-! ## What a handler does to users and audit rows -/

/-- The columns that make an administrator or a banned user. -/
structure SameStanding (user user' : User) : Prop where
  id : user'.id = user.id
  role : user'.role = user.role
  isBanned : user'.isBanned = user.isBanned

instance : IsPreorder User SameStanding where
  refl _ := ⟨rfl, rfl, rfl⟩
  trans _ _ _ hfirst hsecond := ⟨hsecond.id.trans hfirst.id,
    hsecond.role.trans hfirst.role, hsecond.isBanned.trans hfirst.isBanned⟩

theorem ignored_sameStanding : Ignored (MapsUsers SameStanding) :=
  ignored_mapsUsers fun _ _ _ => ⟨rfl, rfl, rfl⟩

/-- Only the ban flag of the target may change. -/
structure KeepsBut (target : Option ℕ) (user user' : User) : Prop where
  id : user'.id = user.id
  role : user'.role = user.role
  isBanned : target ≠ some user.id → user'.isBanned = user.isBanned

instance {target : Option ℕ} : IsPreorder User (KeepsBut target) where
  refl _ := ⟨rfl, rfl, fun _ => rfl⟩
  trans first second third hfirst hsecond := by
    refine ⟨hsecond.id.trans hfirst.id, hsecond.role.trans hfirst.role, ?_⟩
    intro hother
    have hother' : target ≠ some second.id := hfirst.id ▸ hother
    exact (hsecond.isBanned hother').trans (hfirst.isBanned hother)

structure ActsAs (actor : AdminActor) (target : Option ℕ) (db after : Db) :
    Prop where
  users : MapsUsers (KeepsBut target) db after
  audit : ∃ rows, after.auditLogs = db.auditLogs ++ rows ∧
    ∀ row ∈ rows, row.adminId = actor.adminId

section Handlers

variable {actor : AdminActor} {target : Option ℕ} {now : ℕ}
variable {config : Environment.Config}

theorem ActsAs.of_eq (husers : after.users = db.users)
    (haudit : after.auditLogs = db.auditLogs) : ActsAs actor target db after :=
  ⟨.of_eq husers, [], by rw [haudit, List.append_nil], by simp⟩

instance : IsPreorder Db (ActsAs actor target) where
  refl _ := .of_eq rfl rfl
  trans _ _ _ hfirst hsecond := by
    obtain ⟨rows, hrows, hactor⟩ := hfirst.audit
    obtain ⟨rows', hrows', hactor'⟩ := hsecond.audit
    refine ⟨IsTrans.trans _ _ _ hfirst.users hsecond.users, rows ++ rows', ?_, ?_⟩
    · rw [hrows', hrows, List.append_assoc]
    · intro row hrow
      rcases List.mem_append.mp hrow with hold | hnew
      · exact hactor row hold
      · exact hactor' row hnew

/-- A write to other tables. -/
theorem respects_write {change : Db → Db}
    (husers : ∀ db, (change db).users = db.users)
    (haudit : ∀ db, (change db).auditLogs = db.auditLogs) :
    Respects (ActsAs actor target) (modify change : Query PUnit) :=
  Respects.modify fun db => .of_eq (husers db) (haudit db)

theorem respects_recordInTx {actionType : AdminActionType}
    {targetId : Option ℕ} {details : ℕ} :
    Respects (ActsAs actor target)
      (recordInTx config now actor actionType targetId details) := by
  apply Respects.get.bind
  intro db
  iterate 2
    apply (Respects.require _ _).bind
    intro _
  apply Respects.modify
  intro db'
  refine ⟨.of_eq rfl, _, rfl, ?_⟩
  intro row hrow
  rw [List.mem_singleton.mp hrow]

theorem respects_enqueue {sessionId : ℕ} {op : PanelOpKind}
    {payload : PanelOpPayload} :
    Respects (ActsAs actor target) (enqueue now sessionId op payload) := by
  refine Respects.get.bind fun db => Respects.bind ?_ fun _ => Respects.pure _
  exact respects_write (fun _ => rfl) fun _ => rfl

theorem respects_enqueueRevokes (rows : List Session) :
    Respects (ActsAs actor target) (enqueueRevokes now rows) := by
  induction rows with
  | nil => exact Respects.pure _
  | cons row rows ih => exact respects_enqueue.bind fun _ => ih

theorem respects_updateSessions {selected : Session → Bool}
    {change : Session → Session} :
    Respects (ActsAs actor target) (updateSessions selected change) :=
  respects_write (fun _ => rfl) fun _ => rfl

theorem respects_revokeWhere {selected : Session → Bool} {reason : String} :
    Respects (ActsAs actor target) (revokeWhere now selected reason) := by
  apply Respects.get.bind
  intro db
  apply respects_updateSessions.bind
  intro _
  exact (respects_enqueueRevokes _).bind fun _ => Respects.pure _

theorem respects_kickSession {sessionId : ℕ} :
    Respects (ActsAs actor target) (kickSession now sessionId) := by
  apply Respects.get.bind
  intro db
  apply (Respects.expect _ _).bind
  intro row
  split
  · exact respects_updateSessions.bind fun _ => respects_enqueueRevokes _
  · exact Respects.pure _

theorem respects_updateNode {nodeId : ℕ} {change : Node → Node} :
    Respects (ActsAs actor target) (updateNode nodeId change) :=
  respects_write (fun _ => rfl) fun _ => rfl

theorem respects_setNodeActive {nodeId : ℕ} {isActive : Bool} :
    Respects (ActsAs actor target) (setNodeActive nodeId isActive) :=
  Respects.get.bind fun _ => respects_updateNode.bind fun _ =>
    Respects.require _ _

theorem respects_forceMigrateNode {nodeId : ℕ} :
    Respects (ActsAs actor target)
      (forceMigrateNode config now nodeId actor) := by
  apply Respects.get.bind
  intro db
  apply (Respects.require _ _).bind
  intro _
  apply respects_updateNode.bind
  intro _
  apply respects_revokeWhere.bind
  intro evicted
  exact respects_recordInTx.bind fun _ => Respects.pure _

theorem respects_panicRevokeFreeSessions :
    Respects (ActsAs actor target)
      (panicRevokeFreeSessions config now actor) :=
  respects_revokeWhere.bind fun _ => respects_recordInTx.bind fun _ =>
    Respects.pure _

theorem respects_setBanned {userId : ℕ} {isBanned : Bool} :
    Respects (ActsAs actor (some userId)) (setBanned userId isBanned) := by
  apply Respects.modify
  intro db
  refine ⟨mapsUsers_updateWhere ?_ db, [], (List.append_nil _).symm, by simp⟩
  intro user hselected
  refine ⟨rfl, rfl, fun hother => ?_⟩
  exact (hother (congrArg some (eq_of_beq hselected).symm)).elim

theorem respects_applyBan {userId : ℕ} {isBanned : Option Bool} :
    Respects (ActsAs actor (some userId))
      (applyBan config now userId isBanned actor) := by
  rcases isBanned with _ | (_ | _)
  · exact Respects.pure _
  · exact respects_setBanned.bind fun _ => Respects.pure _
  · apply respects_setBanned.bind
    intro _
    apply respects_revokeWhere.bind
    intro revoked
    exact respects_recordInTx.bind fun _ => Respects.pure _

theorem respects_grantInternalPremium {userId : ℕ} {changes : UserChanges} :
    Respects (ActsAs actor target)
      (grantInternalPremium config now userId changes) := by
  refine (Respects.modify fun db => ?_).bind fun _ => Respects.get.bind fun _ =>
    (Respects.expect _ _).bind fun _ => Respects.modify fun db => ?_
  · split_ifs <;> exact .of_eq rfl rfl
  · split_ifs <;> exact .of_eq rfl rfl

theorem respects_applyTier {userId : ℕ} {changes : UserChanges} :
    Respects (ActsAs actor target) (applyTier config now userId changes) := by
  rw [applyTier]
  split
  · exact respects_grantInternalPremium
  · exact respects_write (fun _ => rfl) fun _ => rfl
  · exact Respects.pure _

theorem respects_mutateUser {userId : ℕ} {changes : UserChanges} :
    Respects (ActsAs actor (some userId))
      (mutateUser config now userId changes actor) := by
  apply Respects.get.bind
  intro db
  apply (Respects.require _ _).bind
  intro _
  apply respects_applyBan.bind
  intro revoked
  exact respects_applyTier.bind fun _ => Respects.pure _

/-- The user whose ban flag a request is about. -/
def targetOf : Request → Option ℕ
  | .mutate userId _ => some userId
  | _ => none

variable {call : AdminController.Call} {store : Store}

theorem actsAs_inTransaction {Result : Type} {query : Query Result}
    (hquery : Respects (ActsAs actor target) query) :
    ActsAs actor target store.db
      (AdminController.inTransaction query store).2.db :=
  hquery.withTransaction store.db

/-- A statement that the table refuses, once its row is found. -/
theorem respects_refused {Result : Type} {isFound : Db → Bool}
    {missing refused : Failure} :
    Respects (ActsAs actor target) (do
      let db ← get
      require (isFound db) missing
      throw refused : Query Result) := by
  apply Respects.get.bind
  intro db
  exact (Respects.require _ _).bind fun _ => Respects.throw _

theorem respects_mutate {userId : ℕ} {dto : AdminController.MutateUserDto} :
    Respects (ActsAs call.actor (some userId))
      (AdminController.mutate config call userId dto) := by
  rw [AdminController.mutate]
  split
  · exact respects_refused
  · exact respects_mutateUser

theorem respects_setNodeStatus {nodeId : ℕ} {dto : AdminController.NodeStatusDto} :
    Respects (ActsAs actor target) (AdminController.setNodeStatus nodeId dto) := by
  rw [AdminController.setNodeStatus]
  split
  · exact respects_refused
  · exact respects_setNodeActive.bind fun _ => Respects.pure _

/-- One case for each handler. -/
theorem actsAs_handle :
    ActsAs call.actor (targetOf call.request) store.db
      (AdminController.handle config call store).2.db := by
  rw [AdminController.handle]
  cases call.request with
  | mutate userId body =>
      dsimp only
      cases AdminController.MutateUserDto.validate body with
      | none => exact .of_eq rfl rfl
      | some dto => exact actsAs_inTransaction respects_mutate
  | kick sessionId =>
      exact actsAs_inTransaction
        (respects_kickSession.bind fun _ => Respects.pure _)
  | setNodeStatus nodeId body =>
      dsimp only
      cases AdminController.NodeStatusDto.validate body with
      | none => exact .of_eq rfl rfl
      | some dto => exact actsAs_inTransaction respects_setNodeStatus
  | forceMigrate nodeId => exact actsAs_inTransaction respects_forceMigrateNode
  | panic => exact actsAs_inTransaction respects_panicRevokeFreeSessions
  | setPanelSettings body =>
      dsimp only [AdminController.setPanelConfig]
      split_ifs <;> exact .of_eq rfl rfl

theorem actsAs_intercept :
    ActsAs call.actor (targetOf call.request) store.db
      (AdminController.intercept config call store).store.db := by
  have hhandle := @actsAs_handle config call store
  rw [AdminController.intercept]
  cases hresult : (AdminController.handle config call store).1 <;>
    simpa only [hresult] using hhandle

theorem actsAs_record {entry : AuditEntry} :
    ActsAs actor none db
      (AdminController.record config now actor entry db) :=
  respects_recordInTx.withTransaction db

end Handlers

/-! ## What a step does -/

/-- What a step may make of a user. -/
structure MayBecome (cfg : Config) (s : AdminAccess.State) (act : AdminAccess.Action)
    (user user' : User) : Prop where
  id : user'.id = user.id
  role : user'.role = user.role ∨
    ∃ email, act = .promote email ∧ hasEmail cfg.auth email user = true
  isBanned : user'.isBanned = user.isBanned ∨ Mutates s act user.id

/-- The users change row by row, and one may be added. -/
def UsersStep (cfg : Config) (s : AdminAccess.State) (act : AdminAccess.Action)
    (users' : List User) : Prop :=
  ∃ (change : User → User) (added : Option User),
    (∀ user, MayBecome cfg s act user (change user)) ∧
    users' = s.store.db.users.map change ++ added.toList ∧
    ∀ new ∈ added, new.role = .user ∧
      ∀ other ∈ s.store.db.users, other.id ≠ new.id

/-- The audit rows that a step appends name who the request is from. -/
def AuditStep (s : AdminAccess.State) (act : AdminAccess.Action)
    (auditLogs : List AuditLog) : Prop :=
  ∃ rows, auditLogs = s.store.db.auditLogs ++ rows ∧
    ∀ row ∈ rows, ∀ adminId, row.adminId = some adminId →
      ∃ (i : ℕ) (call : AdminCall), s.calls[i]? = some call ∧
        call.sent.user.userId = adminId ∧
        ((∃ planId subscriptionId, act = .handle i planId subscriptionId ∧
            call.stage = .handler) ∨
          ∃ result entries, call.stage = .resolved result entries)

/-- Where the call `i` may go. -/
inductive Moves (s : AdminAccess.State) (act : AdminAccess.Action) (i : ℕ)
    (call : AdminCall) : Stage → Prop
  | rejected (cause : Failure) : Moves s act i call (.rejected cause)
  | admitted : act = .guard i → call.stage = .guard →
      (∃ user ∈ s.store.db.users, user.id = call.sent.user.userId ∧
        isAdministrator user = true) → Moves s act i call .handler
  | resolved {result : ℕ} {entries : List AuditEntry} :
      (∃ planId subscriptionId, act = .handle i planId subscriptionId) →
      call.stage = .handler → Moves s act i call (.resolved result entries)
  | recorded {result : ℕ} {entries entries' : List AuditEntry} :
      call.stage = .resolved result entries →
      Moves s act i call (.resolved result entries')

inductive CallsStep (cfg : AdminAccess.Config) (s : AdminAccess.State)
    (act : AdminAccess.Action) : List AdminCall → Prop
  | same : CallsStep cfg s act s.calls
  | arrived {token : SignedToken} {ip : Option String} {request : Request} :
      act = .request (some token) ip request → token ∈ s.issued →
      token.isCurrent cfg s.clock = true →
      CallsStep cfg s act
        (s.calls ++ [⟨⟨authUser token.claims, ip, request⟩, .guard⟩])
  | moved {i : ℕ} {call : AdminCall} {stage : Stage} :
      s.calls[i]? = some call → Moves s act i call stage →
      CallsStep cfg s act (s.calls.set i { call with stage := stage })

structure StepSummary (cfg : AdminAccess.Config) (s : AdminAccess.State)
    (act : AdminAccess.Action) (next : AdminAccess.State) : Prop where
  users : UsersStep cfg s act next.store.db.users
  audit : AuditStep s act next.store.db.auditLogs
  calls : CallsStep cfg s act next.calls
  issued : next.issued = s.issued ∨
    ∃ token, next.issued = s.issued ++ [token]

theorem usersStep_of_maps (hmaps : MapsUsers SameStanding s.store.db after) :
    UsersStep cfg s act after.users := by
  obtain ⟨change, hkeeps, husers⟩ := hmaps
  refine ⟨change, none, fun user => ?_, ?_, by simp⟩
  · exact ⟨(hkeeps user).id, .inl (hkeeps user).role, .inl (hkeeps user).isBanned⟩
  · rw [husers, Option.toList_none, List.append_nil]

theorem auditStep_of_eq (haudit : after.auditLogs = s.store.db.auditLogs) :
    AuditStep s act after.auditLogs :=
  ⟨[], by rw [haudit, List.append_nil], by simp⟩

/-- The database is the same. -/
theorem StepSummary.of_db (hdb : next.store.db = s.store.db)
    (hissued : next.issued = s.issued)
    (hcalls : CallsStep cfg s act next.calls) : StepSummary cfg s act next where
  users := by
    rw [hdb]
    exact usersStep_of_maps (.of_eq rfl)
  audit := by
    rw [hdb]
    exact auditStep_of_eq rfl
  calls := hcalls
  issued := .inl hissued

/-- A request that is no administrator's. -/
theorem StepSummary.of_identity
    (husers : UsersStep cfg s act next.store.db.users)
    (haudit : next.store.db.auditLogs = s.store.db.auditLogs)
    (hcalls : next.calls = s.calls)
    (hissued : next.issued = s.issued ∨
      ∃ token, next.issued = s.issued ++ [token]) :
    StepSummary cfg s act next where
  users := husers
  audit := auditStep_of_eq haudit
  calls := hcalls ▸ .same
  issued := hissued

section Answers

variable (outcome : Except Failure TokenPair × Db)

theorem answer_db : (s.answer outcome).store.db = outcome.2 := by
  rw [AdminAccess.State.answer]
  cases outcome.1 <;> rfl

theorem answer_calls : (s.answer outcome).calls = s.calls := by
  rw [AdminAccess.State.answer]
  cases outcome.1 <;> rfl

theorem answer_issued : (s.answer outcome).issued = s.issued ∨
    ∃ token, (s.answer outcome).issued = s.issued ++ [token] := by
  rw [AdminAccess.State.answer]
  cases outcome.1 with
  | error cause => exact .inl rfl
  | ok tokens => exact .inr ⟨_, rfl⟩

theorem StepSummary.of_answer {outcome : Except Failure TokenPair × Db}
    (husers : UsersStep cfg s act outcome.2.users)
    (haudit : outcome.2.auditLogs = s.store.db.auditLogs) :
    StepSummary cfg s act (s.answer outcome) :=
  .of_identity (by rwa [answer_db]) (by rwa [answer_db]) (answer_calls outcome)
    (answer_issued outcome)

end Answers

/-- A bearer token that is refused changes nothing. -/
theorem withUser_cases (bearer : Option SignedToken)
    (goOn : AuthUser → AdminAccess.State) :
    withUser cfg s bearer goOn = s ∨ ∃ token, bearer = some token ∧
      token ∈ s.issued ∧ token.isCurrent cfg s.clock = true ∧
      withUser cfg s bearer goOn = goOn (authUser token.claims) := by
  cases bearer with
  | none => exact .inl rfl
  | some token =>
      rw [withUser, JwtAuthGuard.canActivate]
      by_cases haccepted :
          (s.issued.contains token && token.isCurrent cfg s.clock) = true
      · rw [if_pos haccepted]
        rw [Bool.and_eq_true, List.contains_iff_mem] at haccepted
        exact .inr ⟨token, rfl, haccepted.1, haccepted.2, rfl⟩
      · rw [if_neg haccepted]
        exact .inl rfl

/-- A request behind the first guard that only changes the database. -/
theorem summary_withUser {bearer : Option SignedToken}
    {write : AuthUser → Db} (husers : ∀ user, MapsUsers SameStanding s.store.db
      (write user))
    (haudit : ∀ user, (write user).auditLogs = s.store.db.auditLogs) :
    StepSummary cfg s act
      (withUser cfg s bearer fun user => s.setDb (write user)) := by
  rcases withUser_cases bearer (fun user => s.setDb (write user)) with
    heq | ⟨token, -, -, -, heq⟩
  · rw [heq]
    exact .of_db rfl rfl .same
  · rw [heq]
    exact .of_identity (usersStep_of_maps (husers _)) (haudit _) rfl (.inl rfl)

/-! ### One case for each action -/

/-- The identity service writes no audit rows. -/
theorem ignored_auditLogs : Ignored (Same Db.auditLogs) where
  tokens _ _ := rfl
  devices _ _ := rfl
  lockout _ _ _ _ := rfl

theorem sameAudit_insertUser {user : User} :
    Respects (Same Db.auditLogs) (insertUser user) := by
  refine Respects.get.bind fun db => (Respects.require _ _).bind fun _ =>
    Respects.bind ?_ fun _ => Respects.pure _
  exact Respects.modify fun _ => rfl


/-- A new account has no power. -/
theorem usersStep_anon {now : ℕ} {input : DeviceInput} {draw : AuthDraw} :
    UsersStep cfg s act
      (withTransaction (anon cfg.auth now input draw) s.store.db).2.users := by
  rcases withTransaction_cases (anon cfg.auth now input draw) s.store.db with
    ⟨tokens, after, hrun, heq⟩ | ⟨cause, heq⟩
  · obtain ⟨hfresh, husers⟩ := anon_users hrun
    rw [heq]
    refine ⟨id, some { id := draw.userId, isAnonymous := true },
      fun user => ⟨rfl, .inl rfl, .inl rfl⟩, ?_, ?_⟩
    · rw [List.map_id, husers]
      rfl
    · intro new hnew
      obtain rfl := Option.some.inj hnew
      exact ⟨rfl, hfresh⟩
  · rw [heq]
    exact usersStep_of_maps (.of_eq rfl)

theorem summary_promote (email : String) :
    StepSummary cfg s (.promote email) (s.promote cfg email) := by
  refine .of_identity ⟨fun user => if hasEmail cfg.auth email user then
    { user with role := .admin } else user, none, fun user => ?_, ?_, by simp⟩
    rfl rfl (.inl rfl)
  · dsimp only
    split_ifs with hemail
    · exact ⟨rfl, .inr ⟨email, rfl, hemail⟩, .inl rfl⟩
    · exact ⟨rfl, .inl rfl, .inl rfl⟩
  · rw [Option.toList_none, List.append_nil]
    rfl

theorem summary_request {bearer : Option SignedToken} {ip : Option String}
    {request : Request} :
    StepSummary cfg s (.request bearer ip request)
      (withUser cfg s bearer fun user =>
        { s with calls := s.calls ++ [⟨⟨user, ip, request⟩, .guard⟩] }) := by
  rcases withUser_cases bearer (fun user =>
      { s with calls := s.calls ++ [⟨⟨user, ip, request⟩, .guard⟩] }) with
    heq | ⟨token, rfl, hissued, hcurrent, heq⟩
  · rw [heq]
    exact .of_db rfl rfl .same
  · rw [heq]
    exact .of_db rfl rfl (.arrived rfl hissued hcurrent)

/-- The row that `AdminGuard` reads. -/
theorem exists_administrator {userId : ℕ}
    (hok : AdminGuard.canActivate userId db = .ok ()) :
    ∃ user ∈ db.users, user.id = userId ∧ isAdministrator user = true := by
  rw [AdminGuard.canActivate] at hok
  split_ifs at hok with hfound
  obtain ⟨user, huser, hadmin⟩ := (Option.any_eq_true _ _).mp hfound
  have hid : user.id = userId := by simpa using List.find?_some huser
  exact ⟨user, List.mem_of_find?_eq_some huser, hid, hadmin⟩

theorem summary_guard {i : ℕ}
    (hstep : AdminAccess.step cfg s (.guard i) = some next) :
    StepSummary cfg s (.guard i) next := by
  simp only [AdminAccess.step, Option.bind_eq_bind,
    Option.bind_eq_some_iff] at hstep
  obtain ⟨call, hcall, hstep⟩ := hstep
  cases hstage : call.stage with
  | guard =>
      simp only [hstage] at hstep
      cases hguard : AdminGuard.canActivate call.sent.user.userId s.store.db with
      | ok done =>
          simp only [hguard, Option.some.injEq] at hstep
          subst hstep
          exact .of_db rfl rfl (.moved hcall
            (.admitted rfl hstage (exists_administrator hguard)))
      | error cause =>
          simp only [hguard, Option.some.injEq] at hstep
          subst hstep
          exact .of_db rfl rfl (.moved hcall (.rejected cause))
  | _ => simp [hstage] at hstep

theorem step_handle {i planId subscriptionId : ℕ}
    (hstep : AdminAccess.step cfg s (.handle i planId subscriptionId) =
      some next) :
    ∃ call, s.calls[i]? = some call ∧ call.stage = .handler ∧
      next = s.handle cfg i planId subscriptionId call := by
  simp only [AdminAccess.step, Option.bind_eq_bind,
    Option.bind_eq_some_iff] at hstep
  obtain ⟨call, hcall, hstep⟩ := hstep
  cases hstage : call.stage with
  | handler =>
      simp only [hstage, Option.some.injEq] at hstep
      exact ⟨call, hcall, hstage, hstep.symm⟩
  | _ => simp [hstage] at hstep

theorem summary_handle {i planId subscriptionId : ℕ}
    (hstep : AdminAccess.step cfg s (.handle i planId subscriptionId) =
      some next) :
    StepSummary cfg s (.handle i planId subscriptionId) next := by
  obtain ⟨call, hcall, hstage, rfl⟩ := step_handle hstep
  have hacts := @actsAs_intercept cfg.middleware
    { request := call.sent.request, actor := call.sent.actor, now := s.clock,
      newPlanId := planId, newSubscriptionId := subscriptionId } s.store
  rw [AdminAccess.State.handle]
  generalize AdminController.intercept cfg.middleware _ s.store = outcome at hacts
  refine ⟨?_, ?_, ?_, .inl rfl⟩
  · obtain ⟨change, hkeeps, husers⟩ := hacts.users
    refine ⟨change, none, fun user => ⟨(hkeeps user).id, .inl (hkeeps user).role, ?_⟩,
      ?_, by simp⟩
    · by_cases htarget : targetOf call.sent.request = some user.id
      · cases hrequest : call.sent.request with
        | mutate userId body =>
            rw [hrequest] at htarget
            obtain rfl : userId = user.id := Option.some.inj htarget
            exact .inr ⟨i, planId, subscriptionId, call, body, rfl, hcall, hrequest⟩
        | _ =>
            rw [hrequest] at htarget
            cases htarget
      · exact .inl ((hkeeps user).isBanned htarget)
    · rw [Option.toList_none, List.append_nil]
      exact husers
  · obtain ⟨rows, hrows, hactor⟩ := hacts.audit
    refine ⟨rows, hrows, fun row hrow adminId hadmin => ?_⟩
    rw [hactor row hrow] at hadmin
    exact ⟨i, call, hcall, Option.some.inj hadmin,
      .inl ⟨planId, subscriptionId, rfl, hstage⟩⟩
  · cases hresult : outcome.result with
    | ok result =>
        exact .moved hcall (.resolved ⟨planId, subscriptionId, rfl⟩ hstage)
    | error cause => exact .moved hcall (.rejected cause)

theorem summary_record {i k : ℕ}
    (hstep : AdminAccess.step cfg s (.record i k) = some next) :
    StepSummary cfg s (.record i k) next := by
  simp only [AdminAccess.step, Option.bind_eq_bind,
    Option.bind_eq_some_iff] at hstep
  obtain ⟨call, hcall, hstep⟩ := hstep
  cases hstage : call.stage with
  | resolved result entries =>
      simp only [hstage, Option.map_eq_some_iff] at hstep
      obtain ⟨entry, -, rfl⟩ := hstep
      have hacts := @actsAs_record s.store.db call.sent.actor s.clock
        cfg.middleware entry
      refine ⟨usersStep_of_maps (hacts.users.imp fun _ _ hkeeps =>
        ⟨hkeeps.id, hkeeps.role, hkeeps.isBanned (Option.some_ne_none _).symm⟩), ?_,
        .moved hcall (.recorded hstage), .inl rfl⟩
      obtain ⟨rows, hrows, hactor⟩ := hacts.audit
      refine ⟨rows, hrows, fun row hrow adminId hadmin => ?_⟩
      rw [hactor row hrow] at hadmin
      exact ⟨i, call, hcall, Option.some.inj hadmin, .inr ⟨result, entries, hstage⟩⟩
  | _ => simp [hstage] at hstep

theorem stepSummary (hstep : AdminAccess.step cfg s act = some next) :
    StepSummary cfg s act next := by
  cases act with
  | guard i => exact summary_guard hstep
  | handle i planId subscriptionId => exact summary_handle hstep
  | record i k => exact summary_record hstep
  | login attempt =>
      simp only [AdminAccess.step] at hstep
      cases hstart : attempt.start cfg.auth s.clock s.store.db with
      | ok proc =>
          rw [hstart] at hstep
          obtain rfl := Option.some.inj hstep
          exact .of_db rfl rfl .same
      | error cause =>
          rw [hstart] at hstep
          obtain rfl := Option.some.inj hstep
          exact .of_db rfl rfl .same
  | finishLogin i draw =>
      simp only [AdminAccess.step, Option.map_eq_some_iff] at hstep
      obtain ⟨proc, -, rfl⟩ := hstep
      have hanswer : StepSummary cfg s (.finishLogin i draw)
          (s.answer (proc.finish cfg.auth s.clock draw s.store.db)) :=
        .of_answer (usersStep_of_maps
          (frame_finish ignored_sameStanding _ _ _))
          (frame_finish ignored_auditLogs _ _ _)
      exact ⟨hanswer.users, hanswer.audit, hanswer.calls, hanswer.issued⟩
  | tick ms =>
      obtain rfl := Option.some.inj hstep
      exact .of_db rfl rfl .same
  | anon input draw =>
      obtain rfl := Option.some.inj hstep
      exact .of_answer usersStep_anon
        ((respects_anon ignored_auditLogs sameAudit_insertUser).withTransaction _)
  | register bearer email password =>
      obtain rfl := Option.some.inj hstep
      refine summary_withUser (fun user => ?_) fun user => ?_
      · exact (respects_register (respects_updateUser fun _ _ =>
          ⟨rfl, rfl, rfl⟩)).withTransaction _
      · exact (respects_register (Respects.modify fun _ => rfl) :
          Respects (Same Db.auditLogs) _).withTransaction _
  | refresh rawToken draw =>
      obtain rfl := Option.some.inj hstep
      exact .of_answer
        (usersStep_of_maps ((respects_refresh ignored_sameStanding).withTransaction _))
        ((respects_refresh ignored_auditLogs).withTransaction _)
  | logout bearer rawToken =>
      obtain rfl := Option.some.inj hstep
      exact summary_withUser
        (fun user => (respects_logout ignored_sameStanding).withTransaction _)
        fun user => (respects_logout ignored_auditLogs).withTransaction _
  | promote email =>
      obtain rfl := Option.some.inj hstep
      exact summary_promote email
  | request bearer ip request =>
      obtain rfl := Option.some.inj hstep
      exact summary_request
  | other change =>
      obtain rfl := Option.some.inj hstep
      refine ⟨?_, ?_, .same, .inl rfl⟩
      · exact usersStep_of_maps (.of_eq (change.users _))
      · obtain ⟨rows, hrows, hnone⟩ := change.auditLogs s.store.db
        refine ⟨rows, hrows, fun row hrow adminId hadmin => ?_⟩
        rw [hnone row hrow] at hadmin
        cases hadmin

/-! ## The invariant -/

/-- What the stage of a call says about its past. -/
inductive StageSound (cfg : AdminAccess.Config) (start : AdminAccess.State)
    (trace : List (AdminAccess.State × AdminAccess.Action)) (i : ℕ)
    (sent : AdminRequest) : Stage → Prop
  | guard : Earlier trace (fun before s act => Arrives cfg before s act i sent) →
      StageSound cfg start trace i sent .guard
  | handler :
      Earlier trace (fun before s act => Admits cfg start before s act i sent) →
      StageSound cfg start trace i sent .handler
  | resolved {result : ℕ} {entries : List AuditEntry} :
      Earlier trace (fun before _ act => Handles cfg start before act i sent) →
      StageSound cfg start trace i sent (.resolved result entries)
  | rejected (cause : Failure) : StageSound cfg start trace i sent (.rejected cause)

structure Inv (cfg : AdminAccess.Config) (start : AdminAccess.State)
    (trace : List (AdminAccess.State × AdminAccess.Action))
    (s : AdminAccess.State) : Prop where
  ids : (s.store.db.users.map User.id).Nodup
  admins : ∀ user ∈ s.store.db.users, user.role = .admin →
    MadeAdmin cfg start trace user.id
  issued : ∀ token ∈ s.issued, Earlier trace fun _ s act => Signs cfg s act token
  calls : ∀ (i : ℕ) (call : AdminCall), s.calls[i]? = some call →
    StageSound cfg start trace i call.sent call.stage
  audited : ∃ rows, s.store.db.auditLogs = start.store.db.auditLogs ++ rows ∧
    ∀ row ∈ rows, ∀ adminId, row.adminId = some adminId →
      ∃ i sent, sent.user.userId = adminId ∧
        Earlier trace fun before _ act => Handles cfg start before act i sent

theorem inv_initial (hinit : IsInitial s) : Inv cfg s [] s where
  ids := hinit.users
  admins user huser hrole := .inl ⟨user, huser, rfl, hrole⟩
  issued token htoken := by
    rw [hinit.issued] at htoken
    cases htoken
  calls i call hcall := by
    rw [hinit.calls] at hcall
    cases hcall
  audited := ⟨[], (List.append_nil _).symm, by simp⟩

theorem MadeAdmin.append {userId : ℕ} (hmade : MadeAdmin cfg start trace userId)
    (more : List (AdminAccess.State × AdminAccess.Action)) :
    MadeAdmin cfg start (trace ++ more) userId :=
  hmade.imp id fun hearlier => hearlier.append more

theorem StageSound.append {i : ℕ} {sent : AdminRequest} {stage : Stage}
    (hstage : StageSound cfg start trace i sent stage)
    (more : List (AdminAccess.State × AdminAccess.Action)) :
    StageSound cfg start (trace ++ more) i sent stage := by
  cases hstage with
  | guard harrived => exact .guard (harrived.append more)
  | handler hadmitted => exact .handler (hadmitted.append more)
  | resolved hhandled => exact .resolved (hhandled.append more)
  | rejected cause => exact .rejected cause

theorem nodup_step {users' : List User} (hids : (s.store.db.users.map User.id).Nodup)
    (hstep : UsersStep cfg s act users') : (users'.map User.id).Nodup := by
  obtain ⟨change, added, hchange, rfl, hadded⟩ := hstep
  have hkept : (s.store.db.users.map change).map User.id =
      s.store.db.users.map User.id := by
    rw [List.map_map]
    exact List.map_congr_left fun user _ => (hchange user).id
  rw [List.map_append, hkept]
  cases added with
  | none => simpa using hids
  | some new =>
      refine hids.append (List.nodup_singleton _) ?_
      rw [Option.toList_some, List.map_singleton, List.disjoint_singleton,
        List.mem_map]
      rintro ⟨other, hother, heq⟩
      exact (hadded new rfl).2 other hother heq

/-- Only the operator makes administrators. -/
theorem admins_step {users' : List User}
    (hadmins : ∀ user ∈ s.store.db.users, user.role = .admin →
      MadeAdmin cfg start trace user.id)
    (hstep : UsersStep cfg s act users') :
    ∀ user ∈ users', user.role = .admin →
      MadeAdmin cfg start (trace ++ [(s, act)]) user.id := by
  obtain ⟨change, added, hchange, rfl, hadded⟩ := hstep
  intro user' huser' hrole
  rcases List.mem_append.mp huser' with hold | hnew
  · obtain ⟨user, huser, rfl⟩ := List.mem_map.mp hold
    rw [(hchange user).id]
    rcases (hchange user).role with hsame | ⟨email, hact, hemail⟩
    · exact (hadmins user huser (hsame ▸ hrole)).append _
    · exact .inr (.last ⟨email, hact, user, huser, rfl, hemail⟩)
  · rw [(hadded user' (Option.mem_toList.mp hnew)).1] at hrole
    cases hrole

theorem calls_step (hinv : Inv cfg start trace s) {calls' : List AdminCall}
    (hstep : CallsStep cfg s act calls') :
    ∀ (i : ℕ) (call : AdminCall), calls'[i]? = some call →
      StageSound cfg start (trace ++ [(s, act)]) i call.sent call.stage := by
  intro i call hcall
  cases hstep with
  | same => exact (hinv.calls i call hcall).append _
  | @arrived token ip request hact hissued hcurrent =>
      rcases getElem?_concat_cases hcall with hold | ⟨rfl, rfl⟩
      · exact (hinv.calls i call hold).append _
      · exact .guard (.last ⟨token, hact, rfl, rfl, hcurrent,
          hinv.issued token hissued⟩)
  | @moved j before stage hbefore hmoves =>
      rcases getElem?_set_cases hcall with ⟨rfl, rfl⟩ | ⟨-, hold⟩
      · have hpast := hinv.calls i before hbefore
        cases hmoves with
        | rejected cause => exact .rejected cause
        | admitted hact hstage hadmin =>
            rw [hstage] at hpast
            obtain ⟨user, huser, hid, hisadmin⟩ := hadmin
            have hrole : user.role = .admin := by
              rw [isAdministrator, Bool.and_eq_true] at hisadmin
              exact eq_of_beq hisadmin.2
            have hmade : MadeAdmin cfg start trace before.sent.user.userId :=
              hid ▸ hinv.admins user huser hrole
            cases hpast with
            | guard harrived =>
                exact .handler (.last ⟨hact, ⟨user, huser, hid, hisadmin⟩, hmade,
                  harrived⟩)
        | resolved hact hstage =>
            rw [hstage] at hpast
            cases hpast with
            | handler hadmitted => exact .resolved (.last ⟨hact, hadmitted⟩)
        | recorded hstage =>
            rw [hstage] at hpast
            cases hpast with
            | resolved hhandled => exact .resolved (hhandled.append _)
      · exact (hinv.calls i call hold).append _

theorem audit_step (hinv : Inv cfg start trace s) {auditLogs : List AuditLog}
    (hstep : AuditStep s act auditLogs) :
    ∃ rows, auditLogs = start.store.db.auditLogs ++ rows ∧
      ∀ row ∈ rows, ∀ adminId, row.adminId = some adminId →
        ∃ i sent, sent.user.userId = adminId ∧
          Earlier (trace ++ [(s, act)]) fun before _ act =>
            Handles cfg start before act i sent := by
  obtain ⟨rows, hrows, hold⟩ := hinv.audited
  obtain ⟨new, rfl, hnew⟩ := hstep
  refine ⟨rows ++ new, by rw [hrows, List.append_assoc], ?_⟩
  intro row hrow adminId hadmin
  rcases List.mem_append.mp hrow with hrow | hrow
  · obtain ⟨i, sent, hid, hearlier⟩ := hold row hrow adminId hadmin
    exact ⟨i, sent, hid, hearlier.append _⟩
  · obtain ⟨i, call, hcall, hid, hacts⟩ := hnew row hrow adminId hadmin
    have hpast := hinv.calls i call hcall
    refine ⟨i, call.sent, hid, ?_⟩
    rcases hacts with ⟨planId, subscriptionId, hact, hstage⟩ | ⟨result, entries, hstage⟩
    · rw [hstage] at hpast
      cases hpast with
      | handler hadmitted =>
          exact .last ⟨⟨planId, subscriptionId, hact⟩, hadmitted⟩
    · rw [hstage] at hpast
      cases hpast with
      | resolved hhandled => exact hhandled.append _

theorem inv_step (hinv : Inv cfg start trace s)
    (hstep : AdminAccess.step cfg s act = some next) :
    Inv cfg start (trace ++ [(s, act)]) next := by
  have hsummary := stepSummary hstep
  refine ⟨nodup_step hinv.ids hsummary.users, admins_step hinv.admins hsummary.users,
    ?_, calls_step hinv hsummary.calls, audit_step hinv hsummary.audit⟩
  intro token htoken
  rcases hsummary.issued with hsame | ⟨new, hnew⟩
  · exact (hinv.issued token (hsame ▸ htoken)).append _
  · rw [hnew] at htoken
    rcases List.mem_append.mp htoken with hold | hlast
    · exact (hinv.issued token hold).append _
    · obtain rfl := List.mem_singleton.mp hlast
      exact .last ⟨next, hstep, hnew⟩

theorem inv_run (hinit : IsInitial start)
    (hrun : Run (adminAccess cfg) start trace last) : Inv cfg start trace last := by
  apply hrun.induction_on (inv_initial hinit)
  intro trace state act next hinv hstep
  exact inv_step hinv hstep

/-- A user after a step is what the step made of the user before. -/
theorem mayBecome_of_step (hids : (s.store.db.users.map User.id).Nodup)
    {users' : List User} (hstep : UsersStep cfg s act users') {user user' : User}
    (huser : user ∈ s.store.db.users) (huser' : user' ∈ users')
    (hid : user'.id = user.id) : MayBecome cfg s act user user' := by
  obtain ⟨change, added, hchange, rfl, hadded⟩ := hstep
  rcases List.mem_append.mp huser' with hold | hnew
  · obtain ⟨old, holduser, rfl⟩ := List.mem_map.mp hold
    have hkey : old.id = user.id := (hchange old).id.symm.trans hid
    obtain rfl := eq_of_key hids holduser huser hkey
    exact hchange old
  · exact ((hadded user' (Option.mem_toList.mp hnew)).2 user huser hid.symm).elim

/-- In every run, whatever requests come in whatever order and however their
steps interleave: a handler runs only for a request that came with a current
token which the service had signed for the account, and only after the second
guard read the account as that of an unbanned administrator; every administrator
is one from the start or by the operator; only handlers of administrators ban
or unban; and every audit row that names an account follows such a handler. -/
theorem authority_sound (hinit : IsInitial start)
    (hrun : Run (adminAccess cfg) start trace last) :
    AuthoritySound cfg start trace last := by
  have hinv := inv_run hinit hrun
  refine ⟨?_, hinv.admins, ?_, hinv.audited⟩
  · rintro before s i planId subscriptionId after rfl
    obtain ⟨next, hbefore, hstep, -⟩ := hrun.exists_split
    obtain ⟨call, hcall, hstage, -⟩ := step_handle hstep
    have hpast := (inv_run hinit hbefore).calls i call hcall
    rw [hstage] at hpast
    cases hpast with
    | handler hadmitted => exact ⟨call, hcall, hadmitted⟩
  · rintro before s act after next rfl hstep user huser user' huser' hid hflag
    obtain ⟨-, hbefore, -⟩ := hrun.exists_split
    have hbecomes := mayBecome_of_step (inv_run hinit hbefore).ids
      (stepSummary hstep).users huser huser' hid
    exact hbecomes.isBanned.resolve_left hflag

/-- Two phones sign up; the operator promotes the account of the first, and it
bans the second. -/
def firstBan : List AdminAccess.Action :=
  [.anon ⟨.android, "install-1", none⟩ (nthDraw 1),
    .anon ⟨.android, "install-2", none⟩ (nthDraw 2),
    .register (some ⟨⟨1, 1⟩, 0⟩) "a" "correct horse", .promote "A",
    .login ⟨.adminLogin, "a", "correct horse"⟩,
    .finishLogin 0 (nthDraw 3),
    .request (some ⟨⟨1, 0⟩, 0⟩) none (.mutate 2 (.obj [("isBanned", .bool true)])),
    .guard 0, .handle 0 0 0]

theorem authority_sound_firstBan : ∃ last,
    Run (adminAccess ⟨{}, plainConfig, 900⟩) {}
        (traceOf (adminAccess ⟨{}, plainConfig, 900⟩) {} firstBan) last ∧
      last.store.db.auditLogs.length = 1 ∧
      AuthoritySound ⟨{}, plainConfig, 900⟩ {}
        (traceOf (adminAccess ⟨{}, plainConfig, 900⟩) {} firstBan) last := by
  obtain ⟨last, hrun, hlength⟩ := @exists_run_with _ _
    (adminAccess ⟨{}, plainConfig, 900⟩) {} firstBan
    (fun last => last.store.db.auditLogs.length = 1) _ (by decide +kernel)
  exact ⟨last, hrun, hlength,
    authority_sound ⟨List.nodup_nil, rfl, rfl⟩ hrun⟩

end VpnMiddleware.AdminAuthority
