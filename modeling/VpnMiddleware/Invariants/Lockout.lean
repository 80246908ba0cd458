import VpnMiddleware.Auth.LoginFlow
import VpnMiddleware.Invariants.TokenFamilies

/-!
# Lockout of the password endpoints

A wrong password counts and a locked account answers right and wrong passwords
alike only where no request verifies a password that it should not have: the
administrators' endpoint neither counts nor looks at the lock, and a request
of `/auth/login` that read the account earlier still verifies its password.
-/

namespace VpnMiddleware.Lockout

open VpnMiddleware.Schema VpnMiddleware.Errors VpnMiddleware.Database
open VpnMiddleware.Transaction VpnMiddleware.Table VpnMiddleware.AuthService
open VpnMiddleware.LoginFlow VpnMiddleware.TransitionSystem VpnMiddleware.Pool
open VpnMiddleware.Frame VpnMiddleware.TokenFamilies

variable {cfg : AuthConfig} {s s' start last : State} {act : Action}
variable {trace : List (State × Action)} {now : ℕ} {db after : Db}

/-! ## The claim about one step -/

def httpStatus : Except Failure TokenPair → ℕ
  | .ok _ => 200
  | .error (.unauthorized _) => 401
  | .error (.forbidden _) => 403
  | .error _ => 500

def isWrong (cfg : AuthConfig) (password : String) (user : User) : Bool :=
  !user.passwordHash.any fun hash => cfg.argonVerify hash password

/-- The account is locked at this moment. -/
def isLockedNow (s : State) (userId : ℕ) : Bool :=
  (s.db.users.find? fun user => user.id == userId).any (isLocked s.clock)

/-- The account that an action acts for, as the request reads or has read it. -/
def accountOf (cfg : AuthConfig) (s : State) : Action → Option User
  | .advance _ => none
  | .request attempt =>
      findByEmail cfg (cfg.toLowerCase attempt.email) s.db
  | .finish i _ => s.logins[i]?.bind LoginProc.user

/-- The same request with another password. -/
def withPassword (proc : LoginProc) (password : String) : LoginProc :=
  { proc with attempt := { proc.attempt with password := password } }

/-- The answer to the same request with another password. -/
def answerTo (cfg : AuthConfig) (s : State) (password : String) :
    Action → Option (Except Failure TokenPair)
  | .advance _ => none
  | .request attempt =>
      match { attempt with password := password }.start cfg s.clock s.db with
      | .error cause => some (.error cause)
      | .ok _ => none
  | .finish i draw => s.logins[i]?.map fun proc =>
      ((withPassword proc password).finish cfg s.clock draw s.db).1

/-- The account and the password that an action verifies. -/
def verifiedBy (s : State) : Action → Option (User × String)
  | .finish i _ => s.logins[i]?.bind fun proc =>
      proc.user.map fun user => (user, proc.attempt.password)
  | _ => none

structure LocksOut (cfg : AuthConfig) (s : State) (act : Action) : Prop where
  /-- A wrong password counts. -/
  counts : ∀ user password, verifiedBy s act = some (user, password) →
    isWrong cfg password user = true → ∀ next ∈ step cfg s act,
      ∃ row ∈ s.db.users, row.id = user.id ∧ ∃ row' ∈ next.db.users,
        row'.id = user.id ∧ row'.failedLoginCount = row.failedLoginCount + 1
  /-- A locked account answers every password alike, and without tokens. -/
  hides : ∀ user ∈ accountOf cfg s act, isLockedNow s user.id = true →
    ∀ password other,
      (answerTo cfg s password act).map httpStatus =
        (answerTo cfg s other act).map httpStatus ∧
      ∀ tokens, answerTo cfg s password act ≠ some (.ok tokens)

/-- A request that verifies a password: no wrong one at the administrators'
endpoint, and none while the account is locked unless it has no right one. -/
def VerifiesInTime (cfg : AuthConfig) (s : State) : Action → Prop
  | .finish i _ => ∀ proc ∈ s.logins[i]?, ∀ user ∈ proc.user,
      (proc.attempt.endpoint = .adminLogin →
        isWrong cfg proc.attempt.password user = false) ∧
      (isLockedNow s user.id = true →
        ∀ password, passwordOk cfg password user = false)
  | _ => True

/-! ## Accounts -/

/-- The ids of the accounts stay as they are. -/
abbrev SameIds : Db → Db → Prop := Same fun db => db.users.map User.id

theorem sameIds_updateUser {userId : ℕ} {change : User → User}
    (hid : ∀ user, (change user).id = user.id) (db : Db) :
    SameIds db { db with
      users := updateWhere (fun user => user.id == userId) change db.users } :=
  map_updateWhere hid _ db.users

theorem respects_recordFailedLogin (userId : ℕ) :
    Respects SameIds (recordFailedLogin cfg now userId) :=
  Respects.modify fun db => sameIds_updateUser (fun _ => by rfl) db

/-- No token changes an account. -/
theorem respects_adminToken {Rel : Db → Db → Prop} [IsPreorder Db Rel]
    (htokens : ∀ db rows, Rel db { db with refreshTokens := rows })
    (userId : ℕ) (draw : AuthDraw) :
    Respects Rel (adminToken cfg now userId draw) :=
  (respects_issueRefresh htokens _ _ _ _ _).bind fun _ => Respects.pure _

theorem sameIds_finish (proc : LoginProc) (draw : AuthDraw) (db : Db) :
    SameIds db (proc.finish cfg now draw db).2 := by
  rw [LoginProc.finish]
  split
  · rfl
  · split
    · exact (respects_loginTransaction (fun _ _ => rfl) (fun _ _ => rfl)
        (fun db _ => sameIds_updateUser (fun _ => by rfl) db)
        _ _ _).withTransaction db
    · exact (respects_recordFailedLogin _).withTransaction db
    · split
      · exact (respects_adminToken (fun _ _ => rfl) _ _).withTransaction db
      · rfl
    · rfl

/-- Ids are keys, and every request in flight has read an account that is
there. -/
structure Accounts (s : State) : Prop where
  keyed : (s.db.users.map User.id).Nodup
  read : ∀ proc ∈ s.logins, ∀ user ∈ proc.user,
    user.id ∈ s.db.users.map User.id

theorem accounts_initial (hinit : IsInitial s) : Accounts s where
  keyed := hinit.users
  read := by simp [hinit.logins]

theorem accounts_step (haccounts : Accounts s)
    (hstep : step cfg s act = some s') : Accounts s' := by
  cases act with
  | advance ms =>
      obtain rfl := step_advance hstep
      exact ⟨haccounts.keyed, haccounts.read⟩
  | request attempt =>
      rcases step_request hstep with rfl | rfl
      · exact haccounts
      · refine ⟨haccounts.keyed, fun proc hproc user huser => ?_⟩
        rcases List.mem_append.mp hproc with hold | hnew
        · exact haccounts.read proc hold user huser
        · rw [List.mem_singleton.mp hnew] at huser
          exact List.mem_map_of_mem (List.mem_of_find?_eq_some huser)
  | finish i draw =>
      obtain ⟨proc, hproc, rfl⟩ := step_finish hstep
      have hids : (proc.finish cfg s.clock draw s.db).2.users.map User.id =
          s.db.users.map User.id := sameIds_finish proc draw s.db
      refine ⟨hids ▸ haccounts.keyed, fun other hother user huser => ?_⟩
      rw [hids]
      exact haccounts.read other (List.mem_of_mem_eraseIdx hother) user huser

/-! ## Answers -/

theorem passwordOk_of_isWrong {password : String} {user : User}
    (hwrong : isWrong cfg password user = true) :
    passwordOk cfg password user = false := by
  simp only [isWrong, Bool.not_eq_true'] at hwrong
  simp [passwordOk, hwrong]

/-- A locked account gets no token from the transaction of a login. -/
theorem loginTransaction_locked {userId : ℕ} {input : DeviceInput}
    {draw : AuthDraw} (hlocked : isLockedNow s userId = true) :
    (withTransaction (loginTransaction cfg s.clock userId input draw) s.db).1 =
      .error locked := by
  have hthrow : loginTransaction cfg s.clock userId input draw s.db =
      .error locked := by
    rw [isLockedNow] at hlocked
    simp only [loginTransaction, bind_error, get_ok]
    refine Or.inr ⟨s.db, s.db, ⟨rfl, rfl⟩, Or.inl ?_⟩
    simp only [hlocked, require_error, Bool.not_true, true_and]
    rfl
  rw [withTransaction_of_error hthrow]

/-- Issuing a token fails only in the database. -/
theorem adminToken_error {userId : ℕ} {draw : AuthDraw} {cause : Failure}
    (herror : adminToken cfg now userId draw db = .error cause) :
    httpStatus (.error cause) = 500 := by
  simp only [adminToken, issueRefresh, insertRefreshToken, bind_error, get_error,
    require_error, modify_error, pure_error, false_or, or_false, and_false,
    exists_false] at herror
  obtain ⟨_, _, -, ⟨-, rfl⟩ | ⟨_, _, -, ⟨-, rfl⟩ | ⟨_, _, -, ⟨-, rfl⟩ |
    ⟨_, _, -, ⟨-, rfl⟩ | ⟨_, _, -, -, rfl⟩⟩⟩⟩⟩ := herror <;> rfl

/-- A password that is not accepted gets the same answer everywhere. -/
theorem finish_refused {proc : LoginProc} {user : User} {draw : AuthDraw}
    (huser : proc.user = some user)
    (hrefused : passwordOk cfg proc.attempt.password user = false) :
    (proc.finish cfg now draw db).1 = .error invalidCredentials := by
  simp only [LoginProc.finish, huser, hrefused]
  cases proc.attempt.endpoint <;> rfl

/-- A right password gets another answer than a wrong one, or a token. -/
theorem finish_accepted {proc : LoginProc} {user : User} {draw : AuthDraw}
    (huser : proc.user = some user)
    (haccepted : passwordOk cfg proc.attempt.password user = true)
    (hlocked : isLockedNow s user.id = true) :
    httpStatus (proc.finish cfg s.clock draw s.db).1 ≠ 401 := by
  simp only [LoginProc.finish, huser, haccepted]
  cases proc.attempt.endpoint with
  | login input =>
      dsimp only
      rw [loginTransaction_locked hlocked]
      simp [httpStatus, locked]
  | adminLogin =>
      dsimp only
      split_ifs
      · cases hrun : adminToken cfg s.clock user.id draw s.db with
        | ok result => simp [withTransaction_of_ok hrun, httpStatus]
        | error cause =>
            rw [withTransaction_of_error hrun, adminToken_error hrun]
            simp
      · simp [httpStatus]

/-! ## One step -/

theorem counts_of_verifiesInTime (haccounts : Accounts s)
    (hverifies : VerifiesInTime cfg s act) {user : User} {password : String}
    (hverified : verifiedBy s act = some (user, password))
    (hwrong : isWrong cfg password user = true) (hstep : step cfg s act = some s') :
    ∃ row ∈ s.db.users, row.id = user.id ∧ ∃ row' ∈ s'.db.users,
      row'.id = user.id ∧ row'.failedLoginCount = row.failedLoginCount + 1 := by
  cases act with
  | finish i draw =>
      obtain ⟨proc, hproc, rfl⟩ := step_finish hstep
      simp only [verifiedBy, hproc, Option.bind_some, Option.map_eq_some_iff,
        Prod.mk.injEq] at hverified
      obtain ⟨_, huser, rfl, rfl⟩ := hverified
      obtain ⟨row, hrow, hid⟩ := List.mem_map.mp
        (haccounts.read proc (List.mem_of_getElem? hproc) _ huser)
      refine ⟨row, hrow, hid, ?_⟩
      cases hendpoint : proc.attempt.endpoint with
      | adminLogin =>
          obtain ⟨hright, -⟩ := hverifies proc hproc _ huser
          rw [hright hendpoint] at hwrong
          simp at hwrong
      | login input =>
          simp only [LoginProc.finish, huser, hendpoint,
            passwordOk_of_isWrong hwrong]
          refine ⟨_, mem_updateWhere.mpr ⟨row, hrow, rfl⟩, ?_⟩
          rw [if_pos (beq_iff_eq.mpr hid)]
          exact ⟨hid, rfl⟩
  | _ => simp [verifiedBy] at hverified

theorem hides_of_verifiesInTime (hverifies : VerifiesInTime cfg s act) {user : User}
    (huser : user ∈ accountOf cfg s act) (hlocked : isLockedNow s user.id = true)
    (password other : String) :
    (answerTo cfg s password act).map httpStatus =
        (answerTo cfg s other act).map httpStatus ∧
      ∀ tokens, answerTo cfg s password act ≠ some (.ok tokens) := by
  cases act with
  | advance ms => simp [accountOf] at huser
  | request attempt =>
      -- no password is verified yet
      have hread : ∀ text, answerTo cfg s text (.request attempt) =
          match attempt.start cfg s.clock s.db with
          | .error cause => some (.error cause)
          | .ok _ => none := by
        intro text
        obtain ⟨endpoint, email, _⟩ := attempt
        cases endpoint with
        | login input =>
            simp only [answerTo, Attempt.start]
            split_ifs <;> rfl
        | adminLogin => rfl
      rw [hread, hread]
      refine ⟨rfl, fun tokens => ?_⟩
      split <;> simp
  | finish i draw =>
      obtain ⟨proc, hproc, hread⟩ := Option.bind_eq_some_iff.mp huser
      obtain ⟨-, hnone⟩ := hverifies proc hproc user hread
      have hrefused : ∀ text, answerTo cfg s text (.finish i draw) =
          some (.error invalidCredentials) := by
        intro text
        simp only [answerTo, hproc, Option.map_some, Option.some.injEq]
        exact @finish_refused _ _ _ (withPassword proc text) user draw hread
          (hnone hlocked text)
      rw [hrefused, hrefused]
      exact ⟨rfl, fun tokens => by simp⟩

theorem verifiesInTime_of_locksOut
    (hargon : ∀ hash, ∃ password, cfg.argonVerify hash password = false)
    (haccounts : Accounts s) (hlocks : LocksOut cfg s act)
    (hstep : step cfg s act = some s') : VerifiesInTime cfg s act := by
  cases act with
  | finish i draw =>
      intro proc hproc user huser
      have hverified : verifiedBy s (.finish i draw) =
          some (user, proc.attempt.password) := by
        simp [verifiedBy, Option.mem_def.mp hproc, Option.mem_def.mp huser]
      constructor
      · intro hendpoint
        by_contra hwrong
        rw [Bool.not_eq_false] at hwrong
        obtain ⟨row, hrow, hid, row', hrow', hid', hcount⟩ :=
          hlocks.counts user _ hverified hwrong s' hstep
        obtain ⟨current, hcurrent, rfl⟩ := step_finish hstep
        obtain rfl := Option.some.inj (hcurrent.symm.trans hproc)
        simp only [LoginProc.finish, Option.mem_def.mp huser, hendpoint,
          passwordOk_of_isWrong hwrong] at hrow'
        rw [eq_of_key haccounts.keyed hrow' hrow (hid'.trans hid.symm)] at hcount
        omega
      · intro hlocked password
        by_contra haccepted
        rw [Bool.not_eq_false] at haccepted
        obtain ⟨hash, hhash⟩ : ∃ hash, user.passwordHash = some hash := by
          cases hhash : user.passwordHash with
          | none => simp [passwordOk, hhash] at haccepted
          | some hash => exact ⟨hash, rfl⟩
        obtain ⟨other, hother⟩ := hargon hash
        have hrefused : passwordOk cfg other user = false := by
          simp [passwordOk, hhash, hother]
        have haccount : user ∈ accountOf cfg s (.finish i draw) := by
          simp [accountOf, Option.mem_def.mp hproc, Option.mem_def.mp huser]
        obtain ⟨hsame, -⟩ := hlocks.hides user haccount hlocked password other
        simp only [answerTo, Option.mem_def.mp hproc, Option.map_some,
          Option.some.injEq] at hsame
        have hunauthorized : httpStatus ((withPassword proc other).finish cfg
            s.clock draw s.db).1 = 401 := by
          rw [@finish_refused _ _ _ (withPassword proc other) user draw huser
            hrefused]
          rfl
        exact @finish_accepted _ _ (withPassword proc password) user draw huser
          haccepted hlocked (hsame.trans hunauthorized)
  | _ => exact trivial

/-! ## Over runs -/

/-- In a run both password endpoints lock out exactly if every password is
verified in time. -/
theorem lockout_iff
    (hargon : ∀ hash, ∃ password, cfg.argonVerify hash password = false)
    (hinit : IsInitial start)
    (hrun : Run (passwordLogins cfg) start trace last) :
    (∀ entry ∈ trace, LocksOut cfg entry.1 entry.2) ↔
      ∀ entry ∈ trace, VerifiesInTime cfg entry.1 entry.2 := by
  have haccounts : Always Accounts trace last :=
    hrun.always (accounts_initial hinit)
      fun _ _ _ haccounts hstep => accounts_step haccounts hstep
  constructor
  · intro hlocks entry hentry
    obtain ⟨_, _, next, -, -, hnext⟩ := hrun.exists_prefix hentry
    exact verifiesInTime_of_locksOut hargon (haccounts.1 entry hentry)
      (hlocks entry hentry) hnext
  · intro hverifies entry hentry
    exact
      { counts := fun user password hverified hwrong next hnext =>
          counts_of_verifiesInTime (haccounts.1 entry hentry)
            (hverifies entry hentry) hverified hwrong hnext
        hides := fun user huser hlocked =>
          hides_of_verifiesInTime (hverifies entry hentry) huser hlocked }

/-- One administrator. -/
def adminDeployment : State where
  db := { users := [{
    id := 1
    email := some "root@vpn.example"
    passwordHash := some "right"
    isAnonymous := false
    role := .admin }] }

theorem isInitial_adminDeployment : IsInitial adminDeployment :=
  ⟨by decide, rfl⟩

def wrongLogin : List Action :=
  [.request ⟨.login { platform := .android, installId := "phone" },
    "root@vpn.example", "wrong"⟩, .finish 0 (nthDraw 1)]

/-- Five wrong passwords lock the account; then the right one is presented at
the administrators' endpoint. -/
def lockedThenRight : List Action :=
  wrongLogin ++ wrongLogin ++ wrongLogin ++ wrongLogin ++ wrongLogin ++
    [.request ⟨.adminLogin, "root@vpn.example", "right"⟩]

theorem plainConfig_refuses (hash : String) :
    ∃ password, plainConfig.argonVerify hash password = false := by
  by_cases hempty : hash = ""
  · exact ⟨"x", by rw [hempty]; decide⟩
  · exact ⟨"", by simpa [plainConfig] using hempty⟩

theorem lockout_iff_locked : ∃ trace last,
    Run (passwordLogins plainConfig) adminDeployment trace last ∧
    trace.length = 12 ∧
    ((∀ entry ∈ trace, LocksOut plainConfig entry.1 entry.2) ↔
      ∀ entry ∈ trace, VerifiesInTime plainConfig entry.1 entry.2) := by
  obtain ⟨last, hrun⟩ := @exists_run_of_isSome _ _ (passwordLogins plainConfig)
    adminDeployment (lockedThenRight ++ [.finish 0 (nthDraw 2)])
    (by decide +kernel)
  exact ⟨_, last, hrun, by decide +kernel,
    lockout_iff plainConfig_refuses isInitial_adminDeployment hrun⟩

/-- The locked account gets its tokens. -/
theorem locked_admin_logs_in : IsInitial adminDeployment ∧
    ∃ trace mid last, Run (passwordLogins plainConfig) adminDeployment
      (trace ++ [(mid, .finish 0 (nthDraw 2))]) last ∧
    isLockedNow mid 1 = true ∧
    ¬ LocksOut plainConfig mid (.finish 0 (nthDraw 2)) := by
  obtain ⟨mid, last, hrun, -, ⟨user, huser, hid⟩, hlocked, hstatus⟩ :=
    @exists_run_of_execute _ _ (passwordLogins plainConfig) adminDeployment
      lockedThenRight (.finish 0 (nthDraw 2)) (fun mid _ =>
        (∃ user ∈ accountOf plainConfig mid (.finish 0 (nthDraw 2)), user.id = 1) ∧
        isLockedNow mid 1 = true ∧
        (answerTo plainConfig mid "right" (.finish 0 (nthDraw 2))).map
          httpStatus = some 200) _ (by decide +kernel)
  refine ⟨isInitial_adminDeployment, _, mid, last, hrun, hlocked,
    fun hlocks => ?_⟩
  obtain ⟨answer, hanswer, hstatus⟩ := Option.map_eq_some_iff.mp hstatus
  obtain ⟨-, hnone⟩ := hlocks.hides user huser (hid ▸ hlocked) "right" "right"
  cases answer with
  | ok tokens => exact hnone tokens hanswer
  | error cause => cases cause <;> simp [httpStatus] at hstatus

end VpnMiddleware.Lockout
