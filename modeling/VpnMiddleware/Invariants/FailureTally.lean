import VpnMiddleware.Invariants.Lockout

/-!
# The count of failed logins

Each account counts the failures since its last success, and the lock dates
from the last of them.  Verifying a password reads nothing that another
request writes, so that it has no step of its own.
-/

namespace VpnMiddleware.FailureTally

open VpnMiddleware.Schema VpnMiddleware.Errors VpnMiddleware.Database
open VpnMiddleware.Transaction VpnMiddleware.Table VpnMiddleware.AuthService
open VpnMiddleware.LoginFlow VpnMiddleware.TransitionSystem VpnMiddleware.Pool
open VpnMiddleware.Frame VpnMiddleware.Lockout VpnMiddleware.TokenFamilies

/-! ## The history of an account -/

/-- A committed update of the lockout columns. -/
inductive LoginEvent
  | failed (time : ℕ)
  | succeeded
  deriving DecidableEq, Repr

def LoginEvent.record (times : List ℕ) : LoginEvent → List ℕ
  | .failed time => times ++ [time]
  | .succeeded => []

/-- The times of the failures since the last success. -/
def failuresSinceSuccess (events : List LoginEvent) : List ℕ :=
  events.foldl LoginEvent.record []

@[simp]
theorem failuresSinceSuccess_snoc (events : List LoginEvent) (event : LoginEvent) :
    failuresSinceSuccess (events ++ [event]) =
      event.record (failuresSinceSuccess events) := by
  simp [failuresSinceSuccess]

/-- The lockout columns say what the history says. -/
structure Tallied (cfg : AuthConfig) (events : List LoginEvent) (user : User) :
    Prop where
  count : user.failedLoginCount = (failuresSinceSuccess events).length
  lock : user.lockedUntil =
    if cfg.maxFailed ≤ user.failedLoginCount then
      (failuresSinceSuccess events).getLast?.map fun time => time + cfg.lockoutMs
    else none

/-! ## What a request commits -/

variable {cfg : AuthConfig}

/-- The event of a request of `/auth/login`, and the account that it is on. -/
def LoginProc.event (cfg : AuthConfig) (proc : LoginProc) (now : ℕ)
    (draw : AuthDraw) (db : Db) : Option (ℕ × LoginEvent) :=
  match proc.user, proc.attempt.endpoint with
  | some user, .login input =>
      if passwordOk cfg proc.attempt.password user then
        match loginTransaction cfg now user.id input draw db with
        | .ok _ => some (user.id, .succeeded)
        | .error _ => none
      else some (user.id, .failed now)
  | _, _ => none

/-- An event on the row of its account. -/
def LoginEvent.update (cfg : AuthConfig) (user : User) : LoginEvent → User
  | .failed time =>
      { user with
        failedLoginCount := user.failedLoginCount + 1
        lockedUntil :=
          if cfg.maxFailed ≤ user.failedLoginCount + 1 then
            some (time + cfg.lockoutMs)
          else user.lockedUntil }
  | .succeeded => { user with failedLoginCount := 0, lockedUntil := none }

@[simp]
theorem update_id (event : LoginEvent) (user : User) :
    (event.update cfg user).id = user.id := by
  cases event <;> rfl

/-- An event keeps the columns true to the history. -/
theorem Tallied.update {events : List LoginEvent} {user : User}
    (htallied : Tallied cfg events user) (event : LoginEvent) :
    Tallied cfg (events ++ [event]) (event.update cfg user) := by
  cases event with
  | succeeded =>
      constructor
      · simp [LoginEvent.update, LoginEvent.record]
      · simp [LoginEvent.update, LoginEvent.record]
  | failed time =>
      have hcount := htallied.count
      constructor
      · simp [LoginEvent.update, LoginEvent.record, hcount]
      · simp only [LoginEvent.update, LoginEvent.record, failuresSinceSuccess_snoc,
          List.getLast?_append, List.getLast?_singleton, Option.some_or,
          Option.map_some]
        by_cases hlimit : cfg.maxFailed ≤ user.failedLoginCount + 1
        · rw [if_pos hlimit, if_pos hlimit]
        · have hbelow : ¬ cfg.maxFailed ≤ user.failedLoginCount := by omega
          rw [if_neg hlimit, if_neg hlimit, htallied.lock, if_neg hbelow]

section Requests

variable {cfg : AuthConfig} {now : ℕ} {db after : Db} {proc : LoginProc}
variable {draw : AuthDraw}

/-- No token and no device changes an account. -/
theorem users_loginTransaction {userId : ℕ} {input : DeviceInput}
    {answer : TokenPair}
    (hok : loginTransaction cfg now userId input draw db = .ok (answer, after)) :
    after.users = updateWhere (fun user => user.id == userId)
      (fun user => LoginEvent.succeeded.update cfg user) db.users := by
  simp only [loginTransaction, updateUser, bind_ok, get_ok, require_ok,
    modify_ok, pure_ok] at hok
  obtain ⟨_, _, ⟨rfl, rfl⟩, _, _, ⟨-, rfl⟩, _, _, rfl, _, mid, hdevice,
    _, last, hissue, -, rfl⟩ := hok
  have hdevices : Same Db.users _ mid :=
    (respects_findOrCreateDevice (fun _ _ => rfl) _ _ _).holds hdevice
  have htokens : Same Db.users mid last :=
    (respects_issueRefresh (fun _ _ => rfl) _ _ _ _ _).holds hissue
  exact htokens.trans hdevices

theorem users_adminToken (userId : ℕ) : (withTransaction
    (adminToken cfg now userId draw) db).2.users = db.users := by
  have htoken : Respects (Same Db.users) (adminToken cfg now userId draw) :=
    respects_adminToken (fun _ _ => rfl) _ _
  exact htoken.withTransaction db

/-- The accounts after a request. -/
theorem users_finish : (proc.finish cfg now draw db).2.users =
    match LoginProc.event cfg proc now draw db with
    | some (userId, event) => updateWhere (fun user => user.id == userId)
        (fun user => event.update cfg user) db.users
    | none => db.users := by
  cases huser : proc.user with
  | none => simp only [LoginProc.finish, LoginProc.event, huser]
  | some user =>
      cases hpassword : passwordOk cfg proc.attempt.password user <;>
        cases hendpoint : proc.attempt.endpoint
      case false.login input =>
        simp only [LoginProc.finish, LoginProc.event, huser, hendpoint, hpassword,
          Bool.false_eq_true, if_false]
        rfl
      case false.adminLogin =>
        simp only [LoginProc.finish, LoginProc.event, huser, hendpoint, hpassword]
      case true.adminLogin =>
        simp only [LoginProc.finish, LoginProc.event, huser, hendpoint, hpassword]
        split
        · exact users_adminToken user.id
        · rfl
      case true.login input =>
        simp only [LoginProc.finish, LoginProc.event, huser, hendpoint, hpassword,
          if_true]
        cases hrun : loginTransaction cfg now user.id input draw db with
        | error cause => rw [withTransaction_of_error hrun]
        | ok result =>
            obtain ⟨answer, next⟩ := result
            rw [withTransaction_of_ok hrun]
            exact users_loginTransaction hrun

end Requests

/-! ## Runs -/

/-- What an action commits on an account. -/
def eventOn (cfg : AuthConfig) (userId : ℕ) (s : State) : Action → Option LoginEvent
  | .finish i draw => s.logins[i]?.bind fun proc =>
      ((LoginProc.event cfg proc s.clock draw s.db).filter
        fun event => event.1 == userId).map Prod.snd
  | _ => none

/-- The history of an account in a run. -/
def history (cfg : AuthConfig) (userId : ℕ) (trace : List (State × Action)) :
    List LoginEvent :=
  trace.filterMap fun entry => eventOn cfg userId entry.1 entry.2

/-- A login that issues tokens commits while the account is not locked. -/
def IssuesUnlocked (cfg : AuthConfig) (s : State) : Action → Prop
  | .finish i draw => ∀ proc ∈ s.logins[i]?, ∀ user ∈ proc.user,
      ∀ input, proc.attempt.endpoint = .login input →
        ∀ tokens, (proc.finish cfg s.clock draw s.db).1 = .ok tokens →
          isLockedNow s user.id = false
  | _ => True

section Runs

variable {s s' start last : State} {act : Action}
variable {trace : List (State × Action)}

theorem history_snoc (userId : ℕ) : history cfg userId (trace ++ [(s, act)]) =
    history cfg userId trace ++ (eventOn cfg userId s act).toList := by
  rw [history, history, List.filterMap_append]
  cases hevent : eventOn cfg userId s act <;> simp [hevent]

/-- Each row takes the event on its account. -/
theorem users_step (hstep : step cfg s act = some s') :
    s'.db.users = s.db.users.map fun user =>
      match eventOn cfg user.id s act with
      | some event => event.update cfg user
      | none => user := by
  cases act with
  | advance ms =>
      obtain rfl := step_advance hstep
      simp [eventOn]
  | request attempt =>
      rcases step_request hstep with rfl | rfl <;> simp [eventOn]
  | finish i draw =>
      obtain ⟨proc, hproc, rfl⟩ := step_finish hstep
      simp only [eventOn, hproc, Option.bind_some, users_finish]
      cases LoginProc.event cfg proc s.clock draw s.db with
      | none => simp
      | some event =>
          obtain ⟨userId, event⟩ := event
          apply List.map_congr_left
          intro user _
          by_cases hid : user.id = userId
          · simp [Option.filter_some, hid]
          · simp [Option.filter_some, hid, Ne.symm hid]

/-- One step keeps every account true to its history. -/
theorem tallied_step
    (htallied : ∀ user ∈ s.db.users, Tallied cfg (history cfg user.id trace) user)
    (hstep : step cfg s act = some s') :
    ∀ user ∈ s'.db.users,
      Tallied cfg (history cfg user.id (trace ++ [(s, act)])) user := by
  intro user huser
  rw [users_step hstep, List.mem_map] at huser
  obtain ⟨row, hrow, rfl⟩ := huser
  have hold := htallied row hrow
  cases hevent : eventOn cfg row.id s act with
  | none =>
      dsimp only
      rw [history_snoc, hevent, Option.toList_none, List.append_nil]
      exact hold
  | some event =>
      dsimp only
      rw [update_id, history_snoc, hevent]
      exact hold.update event

theorem issuesUnlocked (s : State) (act : Action) : IssuesUnlocked cfg s act := by
  cases act with
  | finish i draw =>
      intro proc hproc user huser input hendpoint tokens hissued
      rw [← Bool.not_eq_true]
      intro hlocked
      have hpassword : passwordOk cfg proc.attempt.password user = true := by
        by_contra hrefused
        rw [finish_refused huser (by simpa using hrefused)] at hissued
        cases hissued
      simp only [LoginProc.finish, Option.mem_def.mp huser, hendpoint,
        hpassword, loginTransaction_locked hlocked] at hissued
      cases hissued
  | _ => exact trivial

/-- In every state of every run the count of an account is the number of
failures since its last success, its lock dates from the last of them, and no
login commits on a locked account. -/
theorem failures_tallied (hfresh : ∀ user ∈ start.db.users,
      user.failedLoginCount = 0 ∧ user.lockedUntil = none)
    (hrun : Run (passwordLogins cfg) start trace last) :
    (∀ user ∈ last.db.users, Tallied cfg (history cfg user.id trace) user) ∧
      ∀ entry ∈ trace, IssuesUnlocked cfg entry.1 entry.2 := by
  constructor
  · refine @Run.induction_on _ _ _ _ _ _ (fun trace state =>
      ∀ user ∈ state.db.users, Tallied cfg (history cfg user.id trace) user)
      hrun ?_ ?_
    · intro user huser
      obtain ⟨hcount, hlock⟩ := hfresh user huser
      exact ⟨hcount, by simp [hlock, history, failuresSinceSuccess]⟩
    · intro trace state act next htallied hstep
      exact tallied_step htallied hstep
  · intro entry _
    exact issuesUnlocked entry.1 entry.2

end Runs

/-- The right password is read before five wrong ones are counted. -/
def staleRight : List Action :=
  .request ⟨.login { platform := .android, installId := "phone" },
    "root@vpn.example", "right"⟩ ::
    (List.replicate 5 [
      .request ⟨.login { platform := .android, installId := "phone" },
        "root@vpn.example", "wrong"⟩,
      .finish 1 (nthDraw 1)]).flatten ++ [.finish 0 (nthDraw 2)]

theorem failures_tallied_stale : ∃ trace last,
    Run (passwordLogins plainConfig) adminDeployment trace last ∧
    (last.db.users.map fun user => (user.failedLoginCount, user.lockedUntil)) =
      [(5, some 900000)] ∧
    (∀ user ∈ last.db.users,
      Tallied plainConfig (history plainConfig user.id trace) user) ∧
    ∀ entry ∈ trace, IssuesUnlocked plainConfig entry.1 entry.2 := by
  obtain ⟨last, hrun, hlast⟩ := @exists_run_with _ _
    (passwordLogins plainConfig) adminDeployment staleRight (fun last =>
      (last.db.users.map fun user => (user.failedLoginCount, user.lockedUntil)) =
        [(5, some 900000)]) _ (by decide +kernel)
  exact ⟨_, last, hrun, hlast, failures_tallied (by decide) hrun⟩

end VpnMiddleware.FailureTally
