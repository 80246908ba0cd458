import VpnMiddleware.Auth.UserFrames
import VpnMiddleware.Invariants.TokenFamilies

/-!
# Accounts and their credentials

An anonymous account is claimed with an email and a password at most once, an
email is claimed by at most one account, and what a claim has written stays.
So a password login can only answer for the account that claimed the email,
with the password that the claim came with.
-/

namespace VpnMiddleware.Accounts

open VpnMiddleware.Schema VpnMiddleware.Errors VpnMiddleware.Database
open VpnMiddleware.Transaction VpnMiddleware.Table VpnMiddleware.Frame
open VpnMiddleware.AuthService VpnMiddleware.AuthSystem
open VpnMiddleware.TransitionSystem VpnMiddleware.TokenFamilies
open VpnMiddleware.UserFrames

variable {cfg : AuthConfig} {s s' start last : State} {act : Action}
variable {trace : List (State × Action)} {db after : Db}

/-! ## Claims -/

/-- What a registration asked for. -/
structure Claim where
  userId : ℕ
  email : String
  password : String
  deriving DecidableEq, Repr

/-- The registration that a step carries out. -/
def claimOf (cfg : AuthConfig) (entry : State × Action) : Option Claim :=
  match entry.2 with
  | .register userId email password =>
      match register cfg userId email password entry.1.db with
      | .ok _ => some ⟨userId, email, password⟩
      | .error _ => none
  | _ => none

def claims (cfg : AuthConfig) (trace : List (State × Action)) : List Claim :=
  trace.filterMap (claimOf cfg)

/-- The emails are one to the service: their lower cases are equal in a `citext`
column. -/
def SameEmail (cfg : AuthConfig) (left right : String) : Prop :=
  cfg.citext (cfg.toLowerCase left) = cfg.citext (cfg.toLowerCase right)

/-- Neither account nor email is claimed twice. -/
def Differ (cfg : AuthConfig) (left right : Claim) : Prop :=
  left.userId ≠ right.userId ∧ ¬ SameEmail cfg left.email right.email

/-- An account nobody has claimed. -/
structure IsUnclaimed (user : User) : Prop where
  isAnonymous : user.isAnonymous = true
  email : user.email = none
  passwordHash : user.passwordHash = none

/-- An account as its claim left it. -/
structure Holds (cfg : AuthConfig) (claim : Claim) (user : User) : Prop where
  id : user.id = claim.userId
  isAnonymous : user.isAnonymous = false
  email : user.email = some (cfg.toLowerCase claim.email)
  passwordHash : user.passwordHash = some (cfg.argonHash claim.password)

/-- The email and password that a request presents. -/
def credentials : Action → Option (String × String)
  | .login email password _ _ | .adminLogin email password _ =>
      some (email, password)
  | _ => none

/-- The tokens that a step answers with. -/
def answered (cfg : AuthConfig) (entry : State × Action) : Option TokenPair :=
  (perform cfg entry.1 entry.2).1.bind Except.toOption

/-- The login is for the account of a claim with this email and password. -/
def IsOwners (cfg : AuthConfig) (claimed : List Claim) (email password : String)
    (tokens : TokenPair) : Prop :=
  ∃ claim ∈ claimed, SameEmail cfg claim.email email ∧
    cfg.argonVerify (cfg.argonHash claim.password) password = true ∧
    tokens.accessToken.sub = claim.userId

structure AccountsSound (cfg : AuthConfig) (trace : List (State × Action))
    (last : State) : Prop where
  once : (claims cfg trace).Pairwise (Differ cfg)
  accounts : ∀ user ∈ last.db.users,
    IsUnclaimed user ∨ ∃ claim ∈ claims cfg trace, Holds cfg claim user
  kept : ∀ claim ∈ claims cfg trace, ∃ user ∈ last.db.users,
    Holds cfg claim user
  logins : ∀ before entry after, trace = before ++ entry :: after →
    ∀ email password, credentials entry.2 = some (email, password) →
      ∀ tokens, answered cfg entry = some tokens →
        IsOwners cfg (claims cfg before) email password tokens

/-- Other changes of a user leave these columns alone. -/
structure SameAccount (user user' : User) : Prop where
  id : user'.id = user.id
  isAnonymous : user'.isAnonymous = user.isAnonymous
  email : user'.email = user.email
  passwordHash : user'.passwordHash = user.passwordHash

def KeepsAccounts : Action → Prop
  | .setUser _ change => ∀ user, SameAccount user (change user)
  | _ => True

/-- A claimed account is found by the email of its claim. -/
theorem hasEmail_iff {claim : Claim} {user : User} (hholds : Holds cfg claim user)
    {email : String} :
    hasEmail cfg (cfg.toLowerCase email) user = true ↔
      SameEmail cfg claim.email email := by
  rw [hasEmail, hholds.email, Option.any_some, beq_iff_eq]
  rfl

/-! ## What a step does to the users -/

theorem SameAccount.trans {first second third : User}
    (hfirst : SameAccount first second) (hsecond : SameAccount second third) :
    SameAccount first third :=
  ⟨hsecond.id.trans hfirst.id, hsecond.isAnonymous.trans hfirst.isAnonymous,
    hsecond.email.trans hfirst.email,
    hsecond.passwordHash.trans hfirst.passwordHash⟩

theorem SameAccount.unclaimed {user user' : User} (hsame : SameAccount user user')
    (hunclaimed : IsUnclaimed user) : IsUnclaimed user' :=
  ⟨hsame.isAnonymous.trans hunclaimed.isAnonymous,
    hsame.email.trans hunclaimed.email,
    hsame.passwordHash.trans hunclaimed.passwordHash⟩

theorem SameAccount.holds {user user' : User} {claim : Claim}
    (hsame : SameAccount user user') (hholds : Holds cfg claim user) :
    Holds cfg claim user' :=
  ⟨hsame.id.trans hholds.id, hsame.isAnonymous.trans hholds.isAnonymous,
    hsame.email.trans hholds.email,
    hsame.passwordHash.trans hholds.passwordHash⟩

instance : IsPreorder User SameAccount where
  refl _ := ⟨rfl, rfl, rfl, rfl⟩
  trans _ _ _ hfirst hsecond := hfirst.trans hsecond

theorem ignored_sameAccount : Ignored (MapsUsers SameAccount) :=
  ignored_mapsUsers fun _ _ _ => ⟨rfl, rfl, rfl, rfl⟩

/-- No user is added, and no account changes. -/
def KeepsUsers (db after : Db) : Prop :=
  ∃ change : User → User, (∀ user, SameAccount user (change user)) ∧
    after.users = db.users.map change

theorem KeepsUsers.of_eq (husers : after.users = db.users) :
    KeepsUsers db after :=
  MapsUsers.of_eq husers

/-- The users after a step, and the claim that it makes. -/
inductive UsersChange (cfg : AuthConfig) (s : State) (act : Action) :
    List User → Option Claim → Prop
  | kept {after : Db} : KeepsUsers s.db after →
      UsersChange cfg s act after.users none
  | added {user : User} : IsUnclaimed user →
      (∀ other ∈ s.db.users, other.id ≠ user.id) →
      UsersChange cfg s act (s.db.users ++ [user]) none
  | claimed {user : User} (claim : Claim) : user ∈ s.db.users →
      user.id = claim.userId → user.isAnonymous = true →
      (∀ row ∈ s.db.users, row.id ≠ user.id →
        hasEmail cfg (cfg.toLowerCase claim.email) row = false) →
      UsersChange cfg s act (updateWhere (fun row => row.id == user.id)
        (fun row => { row with
          email := some (cfg.toLowerCase claim.email)
          passwordHash := some (cfg.argonHash claim.password)
          isAnonymous := false }) s.db.users) (some claim)

theorem register_users {userId : ℕ} {email password : String} {done : Unit}
    (hok : register cfg userId email password db = .ok (done, after)) :
    ∃ user ∈ db.users, user.id = userId ∧ user.isAnonymous = true ∧
      (∀ row ∈ db.users, row.id ≠ user.id →
        hasEmail cfg (cfg.toLowerCase email) row = false) ∧
      after.users = updateWhere (fun row => row.id == user.id)
        (fun row => { row with
          email := some (cfg.toLowerCase email)
          passwordHash := some (cfg.argonHash password)
          isAnonymous := false }) db.users := by
  simp only [register, updateUser, bind_ok, get_ok, expect_ok, require_ok,
    modify_ok] at hok
  obtain ⟨_, _, ⟨rfl, rfl⟩, user, _, ⟨huser, rfl⟩, _, _, ⟨hanonymous, rfl⟩, _, _,
    ⟨hfree, rfl⟩, rfl⟩ := hok
  have hid := List.find?_some huser
  simp only [Bool.and_eq_true, beq_iff_eq] at hid
  obtain ⟨rfl, -⟩ := hid
  refine ⟨user, List.mem_of_find?_eq_some huser, rfl, hanonymous, ?_, rfl⟩
  intro row hrow hne
  simp only [Bool.not_eq_true', List.any_eq_false, Bool.and_eq_true,
    bne_iff_ne, not_and, Bool.not_eq_true] at hfree
  exact hfree row hrow hne

theorem usersChange_of_respects {Result : Type}
    {tx : Tx Db Failure Result} (htx : Respects (MapsUsers SameAccount) tx) :
    UsersChange cfg s act (withTransaction tx s.db).2.users none :=
  .kept (htx.withTransaction s.db)

/-- One case for each request. -/
theorem usersChange (hkeeps : KeepsAccounts act)
    (hstep : step cfg s act = some s') :
    UsersChange cfg s act s'.db.users (claimOf cfg (s, act)) := by
  obtain ⟨rfl, -⟩ := step_eq hstep
  cases act with
  | advance ms => exact .kept (.of_eq rfl)
  | anon input draw =>
      rcases withTransaction_cases (anon cfg s.clock input draw) s.db with
        ⟨tokens, after, hrun, heq⟩ | ⟨cause, heq⟩
      · obtain ⟨hfresh, husers⟩ := anon_users hrun
        simp only [perform, heq, husers]
        exact .added ⟨rfl, rfl, rfl⟩ hfresh
      · simp only [perform, heq]
        exact .kept (.of_eq rfl)
  | register userId email password =>
      cases hrun : register cfg userId email password s.db with
      | error cause =>
          simp only [perform, withTransaction, claimOf, hrun]
          exact .kept (.of_eq rfl)
      | ok outcome =>
          obtain ⟨done, after⟩ := outcome
          obtain ⟨user, huser, hid, hanonymous, hfree, husers⟩ :=
            register_users hrun
          simp only [perform, withTransaction, claimOf, hrun, husers]
          exact .claimed ⟨userId, email, password⟩ huser hid hanonymous hfree
  | login email password input draw =>
      simp only [perform, login]
      cases findByEmail cfg (cfg.toLowerCase email) s.db with
      | none => exact .kept (.of_eq rfl)
      | some user =>
          dsimp only
          split_ifs
          · exact .kept (.of_eq rfl)
          · exact usersChange_of_respects
              (respects_login ignored_sameAccount)
          · exact usersChange_of_respects
              (respects_recordFailedLogin ignored_sameAccount)
  | adminLogin email password draw =>
      exact usersChange_of_respects (respects_adminLogin ignored_sameAccount)
  | refresh rawToken draw =>
      exact usersChange_of_respects (respects_refresh ignored_sameAccount)
  | logout userId rawToken =>
      exact usersChange_of_respects (respects_logout ignored_sameAccount)
  | setUser userId change =>
      exact usersChange_of_respects
        (respects_updateUser fun user _ => hkeeps user)

/-! ## The invariant -/

/-- The users and the claims that have been made so far. -/
structure Ledger (cfg : AuthConfig) (claimed : List Claim) (users : List User) :
    Prop where
  ids : (users.map User.id).Nodup
  once : claimed.Pairwise (Differ cfg)
  accounts : ∀ user ∈ users,
    IsUnclaimed user ∨ ∃ claim ∈ claimed, Holds cfg claim user
  kept : ∀ claim ∈ claimed, ∃ user ∈ users, Holds cfg claim user

section Ledger

variable {claimed : List Claim} {users : List User}

theorem Ledger.map (hledger : Ledger cfg claimed users) {change : User → User}
    (hsame : ∀ user, SameAccount user (change user)) :
    Ledger cfg claimed (users.map change) where
  ids := by
    have hids : (users.map change).map User.id = users.map User.id := by
      rw [List.map_map]
      exact List.map_congr_left fun user _ => (hsame user).id
    exact hids ▸ hledger.ids
  once := hledger.once
  accounts := by
    intro user' huser'
    obtain ⟨user, huser, rfl⟩ := List.mem_map.mp huser'
    rcases hledger.accounts user huser with hunclaimed | ⟨claim, hclaim, hholds⟩
    · exact Or.inl ((hsame user).unclaimed hunclaimed)
    · exact Or.inr ⟨claim, hclaim, (hsame user).holds hholds⟩
  kept := by
    intro claim hclaim
    obtain ⟨user, huser, hholds⟩ := hledger.kept claim hclaim
    exact ⟨change user, List.mem_map_of_mem huser, (hsame user).holds hholds⟩

theorem Ledger.append (hledger : Ledger cfg claimed users) {user : User}
    (hunclaimed : IsUnclaimed user) (hfresh : ∀ other ∈ users, other.id ≠ user.id) :
    Ledger cfg claimed (users ++ [user]) where
  ids := by
    rw [List.map_append, List.map_singleton]
    refine hledger.ids.append (List.nodup_singleton _) ?_
    rw [List.disjoint_singleton, List.mem_map]
    rintro ⟨other, hother, heq⟩
    exact hfresh other hother heq
  once := hledger.once
  accounts := by
    intro other hother
    rcases List.mem_append.mp hother with hold | hnew
    · exact hledger.accounts other hold
    · exact Or.inl (List.mem_singleton.mp hnew ▸ hunclaimed)
  kept := by
    intro claim hclaim
    obtain ⟨other, hother, hholds⟩ := hledger.kept claim hclaim
    exact ⟨other, List.mem_append_left _ hother, hholds⟩

/-- An unclaimed account is not that of an earlier claim. -/
theorem Ledger.ne_claimed (hledger : Ledger cfg claimed users) {user other : User}
    {claim : Claim} (huser : user ∈ users) (hanonymous : user.isAnonymous = true)
    (hother : other ∈ users) (hholds : Holds cfg claim other) :
    other.id ≠ user.id := by
  intro hid
  obtain rfl := eq_of_key hledger.ids hother huser hid
  rw [hholds.isAnonymous] at hanonymous
  cases hanonymous

theorem Ledger.claim (hledger : Ledger cfg claimed users) {user : User}
    {claim : Claim} (huser : user ∈ users) (hid : user.id = claim.userId)
    (hanonymous : user.isAnonymous = true)
    (hfree : ∀ row ∈ users, row.id ≠ user.id →
      hasEmail cfg (cfg.toLowerCase claim.email) row = false) :
    Ledger cfg (claimed ++ [claim]) (updateWhere (fun row => row.id == user.id)
      (fun row => { row with
        email := some (cfg.toLowerCase claim.email)
        passwordHash := some (cfg.argonHash claim.password)
        isAnonymous := false }) users) where
  ids := by
    rw [map_updateWhere]
    · exact hledger.ids
    · exact fun _ => rfl
  once := by
    refine List.pairwise_append.mpr ⟨hledger.once, List.pairwise_singleton _ _, ?_⟩
    intro earlier hearlier last hlast
    obtain rfl := List.mem_singleton.mp hlast
    obtain ⟨other, hother, hholds⟩ := hledger.kept earlier hearlier
    have hne := hledger.ne_claimed huser hanonymous hother hholds
    refine ⟨fun hsame => hne (hholds.id.trans (hsame.trans hid.symm)), ?_⟩
    intro hemail
    have htaken := (hasEmail_iff hholds).mpr hemail
    rw [hfree other hother hne] at htaken
    cases htaken
  accounts := by
    intro row hrow
    rcases mem_updateWhere_key hledger.ids huser hrow with rfl | ⟨hold, -⟩
    · exact Or.inr ⟨claim, by simp, hid, rfl, rfl, rfl⟩
    · rcases hledger.accounts row hold with hunclaimed | ⟨earlier, hearlier, hholds⟩
      · exact Or.inl hunclaimed
      · exact Or.inr ⟨earlier, List.mem_append_left _ hearlier, hholds⟩
  kept := by
    intro earlier hearlier
    rcases List.mem_append.mp hearlier with hold | hnew
    · obtain ⟨other, hother, hholds⟩ := hledger.kept earlier hold
      have hne := hledger.ne_claimed huser hanonymous hother hholds
      exact ⟨other, mem_updateWhere.mpr
        ⟨other, hother, if_neg (by simpa using hne)⟩, hholds⟩
    · obtain rfl := List.mem_singleton.mp hnew
      exact ⟨_, mem_updateWhere.mpr ⟨user, huser, if_pos (by simp)⟩, hid, rfl, rfl,
        rfl⟩

theorem ledger_step {claim : Option Claim} {users' : List User}
    (hledger : Ledger cfg claimed s.db.users)
    (hchange : UsersChange cfg s act users' claim) :
    Ledger cfg (claimed ++ claim.toList) users' := by
  cases hchange with
  | kept hkeeps =>
      obtain ⟨change, hsame, husers⟩ := hkeeps
      rw [husers, Option.toList_none, List.append_nil]
      exact hledger.map hsame
  | added hunclaimed hfresh =>
      rw [Option.toList_none, List.append_nil]
      exact hledger.append hunclaimed hfresh
  | claimed claim huser hid hanonymous hfree =>
      exact hledger.claim huser hid hanonymous hfree

/-! ## Logins -/

/-- A user that is found by an email and whose password is right. -/
theorem exists_claim (hledger : Ledger cfg claimed db.users) {user : User}
    {email password : String}
    (hfound : findByEmail cfg (cfg.toLowerCase email) db = some user)
    (hpassword : passwordOk cfg password user = true) :
    ∃ claim ∈ claimed, SameEmail cfg claim.email email ∧
      cfg.argonVerify (cfg.argonHash claim.password) password = true ∧
      user.id = claim.userId := by
  have hemail : hasEmail cfg (cfg.toLowerCase email) user = true :=
    List.find?_some hfound
  rcases hledger.accounts user (List.mem_of_find?_eq_some hfound) with
    hunclaimed | ⟨claim, hclaim, hholds⟩
  · rw [hasEmail, hunclaimed.email] at hemail
    cases hemail
  · rw [passwordOk, hholds.passwordHash, Option.any_some,
      Bool.and_eq_true] at hpassword
    exact ⟨claim, hclaim, (hasEmail_iff hholds).mp hemail, hpassword.2, hholds.id⟩

theorem loginTransaction_sub {now userId : ℕ} {input : DeviceInput}
    {draw : AuthDraw} {tokens : TokenPair}
    (hok : loginTransaction cfg now userId input draw db = .ok (tokens, after)) :
    tokens.accessToken.sub = userId := by
  simp only [loginTransaction, bind_ok, pure_ok] at hok
  obtain ⟨_, _, -, _, _, -, _, _, -, _, _, -, _, _, -, rfl, -⟩ := hok
  rfl

theorem adminLogin_found {now : ℕ} {email password : String} {draw : AuthDraw}
    {tokens : TokenPair}
    (hok : adminLogin cfg now email password draw db = .ok (tokens, after)) :
    ∃ user, findByEmail cfg (cfg.toLowerCase email) db = some user ∧
      passwordOk cfg password user = true ∧ tokens.accessToken.sub = user.id := by
  simp only [adminLogin, bind_ok, get_ok, expect_ok, require_ok,
    pure_ok] at hok
  obtain ⟨_, _, ⟨rfl, rfl⟩, user, _, ⟨huser, rfl⟩, _, _, -, _, _, -, rfl, -⟩ := hok
  obtain ⟨hfound, hpassword⟩ := Option.filter_eq_some_iff.mp huser
  exact ⟨user, hfound, hpassword, rfl⟩

theorem login_found {now : ℕ} {email password : String} {input : DeviceInput}
    {draw : AuthDraw} {tokens : TokenPair}
    (hok : (login cfg now email password input draw db).1 = .ok tokens) :
    ∃ user, findByEmail cfg (cfg.toLowerCase email) db = some user ∧
      passwordOk cfg password user = true ∧ tokens.accessToken.sub = user.id := by
  rw [login] at hok
  cases hfound : findByEmail cfg (cfg.toLowerCase email) db with
  | none =>
      rw [hfound] at hok
      cases hok
  | some user =>
      rw [hfound] at hok
      dsimp only at hok
      split_ifs at hok with hlocked hpassword
      refine ⟨user, rfl, hpassword, ?_⟩
      rcases withTransaction_cases (loginTransaction cfg now user.id input draw)
        db with ⟨answer, after, hrun, heq⟩ | ⟨cause, heq⟩
      · rw [heq] at hok
        obtain rfl := Except.ok.inj hok
        exact loginTransaction_sub hrun
      · rw [heq] at hok
        cases hok

theorem login_isOwners (hledger : Ledger cfg claimed s.db.users)
    {email password : String}
    (hcredentials : credentials act = some (email, password)) {tokens : TokenPair}
    (hanswered : answered cfg (s, act) = some tokens) :
    IsOwners cfg claimed email password tokens := by
  have howner : ∀ {user : User},
      findByEmail cfg (cfg.toLowerCase email) s.db = some user →
      passwordOk cfg password user = true → tokens.accessToken.sub = user.id →
      IsOwners cfg claimed email password tokens := by
    intro user hfound hpassword hsub
    obtain ⟨claim, hclaim, hemail, hverified, hid⟩ :=
      exists_claim hledger hfound hpassword
    exact ⟨claim, hclaim, hemail, hverified, hsub.trans hid⟩
  cases act with
  | login email' password' input draw =>
      obtain ⟨rfl, rfl⟩ := Prod.mk.inj (Option.some.inj hcredentials)
      have hok : (login cfg s.clock email' password' input draw s.db).1 =
          .ok tokens := by
        simp only [answered, perform, Option.bind_some] at hanswered
        generalize (login cfg s.clock email' password' input draw s.db).1 =
          result at hanswered
        cases result with
        | error cause => cases hanswered
        | ok answer => exact congrArg Except.ok (Option.some.inj hanswered)
      obtain ⟨user, hfound, hpassword, hsub⟩ := login_found hok
      exact howner hfound hpassword hsub
  | adminLogin email' password' draw =>
      obtain ⟨rfl, rfl⟩ := Prod.mk.inj (Option.some.inj hcredentials)
      rcases withTransaction_cases
          (adminLogin cfg s.clock email' password' draw) s.db with
        ⟨answer, after, hrun, heq⟩ | ⟨cause, heq⟩
      · simp only [answered, perform, heq] at hanswered
        obtain rfl : answer = tokens := Option.some.inj hanswered
        obtain ⟨user, hfound, hpassword, hsub⟩ := adminLogin_found hrun
        exact howner hfound hpassword hsub
      · simp only [answered, perform, heq] at hanswered
        cases hanswered
  | _ => cases hcredentials

end Ledger

/-! ## Runs -/

theorem ledger_run (hids : (start.db.users.map User.id).Nodup)
    (hunclaimed : ∀ user ∈ start.db.users, IsUnclaimed user)
    (hrun : Run (auth cfg) start trace last)
    (hkeeps : ∀ entry ∈ trace, KeepsAccounts entry.2) :
    Ledger cfg (claims cfg trace) last.db.users := by
  induction hrun with
  | refl =>
      exact ⟨hids, List.Pairwise.nil, fun user huser => Or.inl (hunclaimed user huser),
        fun _ hclaim => (List.not_mem_nil hclaim).elim⟩
  | @snoc trace mid last act _ hlast ih =>
      have hbefore := ih fun entry hentry =>
        hkeeps entry (List.mem_append_left _ hentry)
      have hchange := usersChange (hkeeps (mid, act) (by simp)) hlast
      have hclaims : claims cfg (trace ++ [(mid, act)]) =
          claims cfg trace ++ (claimOf cfg (mid, act)).toList := by
        rw [claims, List.filterMap_append, List.filterMap_cons]
        cases claimOf cfg (mid, act) <;> rfl
      rw [hclaims]
      exact ledger_step hbefore hchange

/-- From a deployment without claimed accounts on, whatever requests come in
whatever order: each account and each email is claimed once, the credentials of
a claim never change, and a password login is answered with tokens for the
account that claimed this email, with this password. -/
theorem accounts_sound (hids : (start.db.users.map User.id).Nodup)
    (hunclaimed : ∀ user ∈ start.db.users, IsUnclaimed user)
    (hrun : Run (auth cfg) start trace last)
    (hkeeps : ∀ entry ∈ trace, KeepsAccounts entry.2) :
    AccountsSound cfg trace last := by
  have hledger := ledger_run hids hunclaimed hrun hkeeps
  refine ⟨hledger.once, hledger.accounts, hledger.kept, ?_⟩
  rintro before entry after rfl email password hcredentials tokens hanswered
  obtain ⟨next, hbefore, -⟩ := hrun.exists_split
  have hearlier := ledger_run hids hunclaimed hbefore fun other hother =>
    hkeeps other (List.mem_append_left _ hother)
  exact login_isOwners hearlier hcredentials hanswered

/-- A device launches, claims its account and signs in with another spelling of
its email. -/
def signIn : List Action :=
  [firstLaunch, .register 1 "A" "correct horse",
    .login "a" "correct horse" ⟨.ios, "install-2", none⟩
      ⟨0, 2, 2, 2, fun _ => 2⟩]

theorem accounts_sound_signIn : ∃ last,
    Run (auth plainConfig) {} (traceOf (auth plainConfig) {} signIn) last ∧
      last.db.refreshTokens.length = 2 ∧
      AccountsSound plainConfig (traceOf (auth plainConfig) {} signIn) last := by
  have hsigned : ((execute (auth plainConfig) {} signIn).any fun last =>
      last.db.refreshTokens.length == 2) = true := by decide +kernel
  obtain ⟨last, hlast, hlength⟩ := (Option.any_eq_true _ _).mp hsigned
  have hrun := run_of_execute hlast
  rw [beq_iff_eq] at hlength
  have hids : (State.db {}).users.map User.id = [] := rfl
  refine ⟨last, hrun, hlength, @accounts_sound plainConfig {} last _
    (hids ▸ List.nodup_nil) ?_ hrun ?_⟩
  · intro user huser
    cases huser
  · intro entry hentry
    have hact := mem_traceOf entry hentry
    simp only [signIn, List.mem_cons, List.not_mem_nil, or_false] at hact
    rcases hact with hact | hact | hact <;> rw [hact] <;> exact trivial

end VpnMiddleware.Accounts
