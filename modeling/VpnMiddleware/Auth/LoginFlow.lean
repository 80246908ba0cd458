import VpnMiddleware.Auth.AuthService
import VpnMiddleware.Core.Pool
import VpnMiddleware.Core.TransitionSystem

/-!
# Password logins, step by step

Both password endpoints read the account first and verify the password against
what they read.  Between the two any other request may run.
-/

namespace VpnMiddleware.LoginFlow

open VpnMiddleware.Schema VpnMiddleware.Errors VpnMiddleware.Database
open VpnMiddleware.Transaction VpnMiddleware.Pool VpnMiddleware.AuthService
open VpnMiddleware.TransitionSystem

/-- `POST /auth/login` with its device fields, or `POST /admin/auth/login`. -/
inductive Endpoint
  | login (input : DeviceInput)
  | adminLogin
  deriving DecidableEq, Repr

structure Attempt where
  endpoint : Endpoint
  email : String
  password : String
  deriving DecidableEq, Repr

/-- A request with the account that it read. -/
structure LoginProc where
  attempt : Attempt
  user : Option User
  deriving DecidableEq, Repr

def locked : Failure := .forbidden "account temporarily locked"

def invalidCredentials : Failure := .unauthorized "invalid credentials"

/-- The first statement.  Only `/auth/login` looks at the lock. -/
def Attempt.start (cfg : AuthConfig) (attempt : Attempt) (now : ℕ) (db : Db) :
    Except Failure LoginProc :=
  let user := findByEmail cfg (cfg.toLowerCase attempt.email) db
  match attempt.endpoint with
  | .login _ =>
      if user.any (isLocked now) then .error locked else .ok ⟨attempt, user⟩
  | .adminLogin => .ok ⟨attempt, user⟩

/-- The device-less refresh token of an administrator. -/
def adminToken (cfg : AuthConfig) (now userId : ℕ) (draw : AuthDraw) :
    Query TokenPair := do
  let refreshRaw ← issueRefresh cfg now userId none draw.familyId none draw
  return pair userId none refreshRaw

/-- The verification of the password and what follows it. -/
def LoginProc.finish (cfg : AuthConfig) (proc : LoginProc) (now : ℕ)
    (draw : AuthDraw) (db : Db) : Except Failure TokenPair × Db :=
  match proc.user with
  | none => (.error invalidCredentials, db)
  | some user =>
      match proc.attempt.endpoint, passwordOk cfg proc.attempt.password user with
      | .login input, true =>
          withTransaction (loginTransaction cfg now user.id input draw) db
      | .login _, false => (.error invalidCredentials,
          (withTransaction (recordFailedLogin cfg now user.id) db).2)
      | .adminLogin, true =>
          if user.role == .admin && !user.isBanned then
            withTransaction (adminToken cfg now user.id draw) db
          else (.error (.forbidden "not an administrator"), db)
      | .adminLogin, false => (.error invalidCredentials, db)

/-! ## The steps of one request -/

section Composition

variable (cfg : AuthConfig) (now : ℕ) (email password : String)
variable (draw : AuthDraw) (db : Db)

/-- Both steps at once. -/
def Attempt.run (attempt : Attempt) : Except Failure TokenPair × Db :=
  match attempt.start cfg now db with
  | .error cause => (.error cause, db)
  | .ok proc => proc.finish cfg now draw db

theorem run_login (input : DeviceInput) :
    Attempt.run cfg now draw db ⟨.login input, email, password⟩ =
      login cfg now email password input draw db := by
  rw [Attempt.run, Attempt.start, login]
  dsimp only
  cases huser : findByEmail cfg (cfg.toLowerCase email) db with
  | none => simp [LoginProc.finish, invalidCredentials]
  | some user =>
      by_cases hlocked : isLocked now user = true
      · simp [hlocked, locked]
      · cases hok : passwordOk cfg password user <;>
          simp [hlocked, LoginProc.finish, hok, invalidCredentials]

theorem run_adminLogin :
    Attempt.run cfg now draw db ⟨.adminLogin, email, password⟩ =
      withTransaction (adminLogin cfg now email password draw) db := by
  have hread : adminLogin cfg now email password draw db =
      (do
        let user ← expect ((findByEmail cfg (cfg.toLowerCase email) db).filter
          (passwordOk cfg password)) invalidCredentials
        require (user.role == .admin && !user.isBanned)
          (.forbidden "not an administrator")
        adminToken cfg now user.id draw : Query TokenPair) db := rfl
  rw [Attempt.run, Attempt.start, withTransaction]
  rw [hread]
  dsimp only
  cases huser : findByEmail cfg (cfg.toLowerCase email) db with
  | none => rfl
  | some user =>
      cases hok : passwordOk cfg password user with
      | false =>
          simp only [LoginProc.finish, hok, Option.filter_some, Bool.false_eq_true,
            if_false]
          rfl
      | true =>
          simp only [LoginProc.finish, hok, Option.filter_some, if_true, expect,
            pure_bind]
          cases hadmin : user.role == .admin && !user.isBanned with
          | false => rfl
          | true =>
              simp only [require, pure_bind]
              rfl

end Composition

/-! ## The system -/

structure State where
  db : Db := {}
  clock : ℕ := 0
  logins : List LoginProc := []

inductive Action
  | advance (ms : ℕ)
  | request (attempt : Attempt)
  | finish (i : ℕ) (draw : AuthDraw)

/-- An action with the answer that it sends to a client. -/
def perform (cfg : AuthConfig) (s : State) :
    Action → Option (State × Option (Except Failure TokenPair))
  | .advance ms => some ({ s with clock := s.clock + ms }, none)
  | .request attempt =>
      match attempt.start cfg s.clock s.db with
      | .error cause => some (s, some (.error cause))
      | .ok proc => some ({ s with logins := s.logins ++ [proc] }, none)
  | .finish i draw =>
      s.logins[i]?.map fun proc =>
        let outcome := proc.finish cfg s.clock draw s.db
        ({ s with
          db := outcome.2
          logins := settle s.logins i none }, some outcome.1)

def step (cfg : AuthConfig) (s : State) (act : Action) : Option State :=
  (perform cfg s act).map Prod.fst

/-- The accounts are there; no request is in flight. -/
structure IsInitial (s : State) : Prop where
  users : (s.db.users.map User.id).Nodup
  logins : s.logins = []

def passwordLogins (cfg : AuthConfig) : System State Action where
  init := IsInitial
  step := step cfg

section Inversion

variable {cfg : AuthConfig} {s s' : State}

theorem step_advance {ms : ℕ} (hstep : step cfg s (.advance ms) = some s') :
    s' = { s with clock := s.clock + ms } := by
  simpa only [step, perform, Option.map_some, Option.some.injEq] using hstep.symm

theorem step_request {attempt : Attempt}
    (hstep : step cfg s (.request attempt) = some s') :
    s' = s ∨ s' = { s with
      logins := s.logins ++ [⟨attempt,
        findByEmail cfg (cfg.toLowerCase attempt.email) s.db⟩] } := by
  simp only [step, perform, Attempt.start] at hstep
  cases hendpoint : attempt.endpoint with
  | login input =>
      simp only [hendpoint] at hstep
      split_ifs at hstep
      · exact Or.inl (by simpa using hstep.symm)
      · exact Or.inr (by simpa using hstep.symm)
  | adminLogin =>
      simp only [hendpoint] at hstep
      exact Or.inr (by simpa using hstep.symm)

theorem step_finish {i : ℕ} {draw : AuthDraw}
    (hstep : step cfg s (.finish i draw) = some s') :
    ∃ proc, s.logins[i]? = some proc ∧ s' = { s with
      db := (proc.finish cfg s.clock draw s.db).2
      logins := settle s.logins i none } := by
  simp only [step, perform, Option.map_map, Option.map_eq_some_iff] at hstep
  obtain ⟨proc, hproc, rfl⟩ := hstep
  exact ⟨proc, hproc, rfl⟩

end Inversion

end VpnMiddleware.LoginFlow
