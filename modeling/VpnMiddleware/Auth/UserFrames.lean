import VpnMiddleware.Auth.LoginFlow

/-!
# What the identity service does to users

A sign-up adds a user.  The other requests change users row by row, so that
what each change of a row keeps is kept by the whole request.
-/

namespace VpnMiddleware.UserFrames

open VpnMiddleware.Schema VpnMiddleware.Database VpnMiddleware.Transaction
open VpnMiddleware.Table VpnMiddleware.Frame VpnMiddleware.AuthService
open VpnMiddleware.LoginFlow

variable {Keeps : User → User → Prop} {db after : Db}

/-- No user is added, and each changes as `Keeps` allows. -/
def MapsUsers (Keeps : User → User → Prop) (db after : Db) : Prop :=
  ∃ change : User → User, (∀ user, Keeps user (change user)) ∧
    after.users = db.users.map change

theorem MapsUsers.imp {Keeps' : User → User → Prop}
    (hmaps : MapsUsers Keeps db after)
    (himp : ∀ user user', Keeps user user' → Keeps' user user') :
    MapsUsers Keeps' db after := by
  obtain ⟨change, hkeeps, husers⟩ := hmaps
  exact ⟨change, fun user => himp _ _ (hkeeps user), husers⟩

theorem MapsUsers.of_eq [Std.Refl Keeps] (husers : after.users = db.users) :
    MapsUsers Keeps db after :=
  ⟨id, fun user => refl user, by rw [husers, List.map_id]⟩

instance [IsPreorder User Keeps] : IsPreorder Db (MapsUsers Keeps) where
  refl _ := .of_eq rfl
  trans _ _ _ hfirst hsecond := by
    obtain ⟨first, hkeeps, husers⟩ := hfirst
    obtain ⟨second, hkeeps', husers'⟩ := hsecond
    refine ⟨second ∘ first, fun user => ?_, ?_⟩
    · exact IsTrans.trans _ _ _ (hkeeps user) (hkeeps' (first user))
    · rw [husers', husers, List.map_map]

/-- An update of the selected users. -/
theorem mapsUsers_updateWhere [Std.Refl Keeps] {selected : User → Bool}
    {change : User → User}
    (hchange : ∀ user, selected user = true → Keeps user (change user)) (db : Db) :
    MapsUsers Keeps db
      { db with users := updateWhere selected change db.users } := by
  refine ⟨fun user => if selected user then change user else user, ?_, rfl⟩
  intro user
  dsimp only
  split_ifs with hselected
  · exact hchange user hselected
  · exact refl user

/-! ## A sign-up -/

section SignUp

variable {cfg : AuthConfig}

theorem insertUser_users {user : User} {id : ℕ}
    (hok : insertUser user db = .ok (id, after)) :
    (∀ other ∈ db.users, other.id ≠ user.id) ∧
      after.users = db.users ++ [user] := by
  simp only [insertUser, bind_ok, get_ok, require_ok, modify_ok,
    pure_ok] at hok
  obtain ⟨_, _, ⟨rfl, rfl⟩, _, _, ⟨hfresh, rfl⟩, _, _, rfl, -, rfl⟩ := hok
  exact ⟨by simpa using hfresh, rfl⟩

theorem anon_users {now : ℕ} {input : DeviceInput} {draw : AuthDraw}
    {tokens : TokenPair}
    (hok : anon cfg now input draw db = .ok (tokens, after)) :
    (∀ other ∈ db.users, other.id ≠ draw.userId) ∧ after.users = db.users ++
      [{ id := draw.userId, isAnonymous := true }] := by
  simp only [anon, bind_ok, pure_ok] at hok
  obtain ⟨_, _, huser, _, _, hdevice, _, _, hissue, -, rfl⟩ := hok
  obtain ⟨hfresh, husers⟩ := insertUser_users huser
  have hlinked : Same Db.users _ _ :=
    Respects.holds (respects_insertDevice (fun _ _ => rfl) _) hdevice
  have hissued : Same Db.users _ _ :=
    Respects.holds (respects_issueRefresh (fun _ _ => rfl) _ _ _ _ _) hissue
  exact ⟨hfresh, hissued.trans (hlinked.trans husers)⟩

end SignUp

/-! ## Requests and what they leave alone -/

/-- A change of the lockout columns. -/
def ChangesLockout (change : User → User) : Prop :=
  ∀ user, change user = { user with
    failedLoginCount := (change user).failedLoginCount
    lockedUntil := (change user).lockedUntil }

/-- Writes to tokens, devices and lockouts are of no account to the relation. -/
structure Ignored (Rel : Db → Db → Prop) : Prop where
  tokens : ∀ db rows, Rel db { db with refreshTokens := rows }
  devices : ∀ db rows, Rel db { db with devices := rows }
  lockout : ∀ db userId change, ChangesLockout change → Rel db { db with
    users := updateWhere (fun user => user.id == userId) change db.users }

/-- The columns of the lockout are of no account. -/
def IgnoresLockout (Keeps : User → User → Prop) : Prop :=
  ∀ (user : User) (count : ℕ) (lockedUntil : Option ℕ),
    Keeps user { user with failedLoginCount := count, lockedUntil := lockedUntil }

theorem ignored_mapsUsers [Std.Refl Keeps] (hlockout : IgnoresLockout Keeps) :
    Ignored (MapsUsers Keeps) where
  tokens _ _ := .of_eq rfl
  devices _ _ := .of_eq rfl
  lockout db userId change hchange := by
    apply mapsUsers_updateWhere
    intro user _
    rw [hchange user]
    exact hlockout user _ _

theorem respects_updateUser [Std.Refl Keeps] {userId : ℕ} {change : User → User}
    (hchange : ∀ user, user.id = userId → Keeps user (change user)) :
    Respects (MapsUsers Keeps) (updateUser userId change) :=
  Respects.modify fun db => mapsUsers_updateWhere
    (fun user hselected => hchange user (eq_of_beq hselected)) db

section Requests

variable {Rel : Db → Db → Prop} [IsPreorder Db Rel]
variable {cfg : AuthConfig} {now : ℕ}

theorem respects_register {userId : ℕ} {email password : String}
    (hclaim : Respects Rel (updateUser userId fun user => { user with
      email := some (cfg.toLowerCase email)
      passwordHash := some (cfg.argonHash password)
      isAnonymous := false })) :
    Respects Rel (register cfg userId email password) := by
  apply Respects.get.bind
  intro db
  apply (Respects.expect _ _).bind
  intro user
  iterate 2
    apply (Respects.require _ _).bind
    intro _
  exact hclaim

variable (hignored : Ignored Rel)
include hignored

theorem respects_anon {input : DeviceInput} {draw : AuthDraw}
    (hsignUp : Respects Rel
      (insertUser { id := draw.userId, isAnonymous := true })) :
    Respects Rel (anon cfg now input draw) :=
  hsignUp.bind fun _ => (respects_insertDevice hignored.devices _).bind fun _ =>
    (respects_issueRefresh hignored.tokens _ _ _ _ _).bind fun _ =>
      Respects.pure _

omit [IsPreorder Db Rel] in
theorem respects_updateTokens {selected : RefreshToken → Bool}
    {change : RefreshToken → RefreshToken} :
    Respects Rel (updateTokens selected change) :=
  Respects.modify fun db => hignored.tokens db _

theorem respects_adminLogin {email password : String} {draw : AuthDraw} :
    Respects Rel (adminLogin cfg now email password draw) :=
  Respects.get.bind fun _ => (Respects.expect _ _).bind fun _ =>
    (Respects.require _ _).bind fun _ =>
      (respects_issueRefresh hignored.tokens _ _ _ _ _).bind fun _ =>
        Respects.pure _

theorem respects_refresh {rawToken : String} {draw : AuthDraw} :
    Respects Rel (refreshTransaction cfg now rawToken draw) := by
  refine Respects.get.bind fun db => ?_
  split
  · exact Respects.pure _
  · split_ifs
    · exact (respects_updateTokens hignored).bind fun _ => Respects.pure _
    · exact (respects_updateTokens hignored).bind fun _ => Respects.pure _
    · exact (respects_updateTokens hignored).bind fun _ =>
        (respects_issueRefresh hignored.tokens _ _ _ _ _).bind fun _ =>
          Respects.pure _

theorem respects_logout {userId : ℕ} {rawToken : String} :
    Respects Rel (logout cfg now userId rawToken) := by
  refine Respects.get.bind fun db => ?_
  split
  · exact Respects.pure _
  · exact (Respects.require _ _).bind fun _ => respects_updateTokens hignored

omit [IsPreorder Db Rel] in
theorem respects_recordFailedLogin {userId : ℕ} :
    Respects Rel (recordFailedLogin cfg now userId) :=
  Respects.modify fun db => hignored.lockout db userId _ fun _ => rfl

theorem respects_login {userId : ℕ} {input : DeviceInput} {draw : AuthDraw} :
    Respects Rel (loginTransaction cfg now userId input draw) :=
  respects_loginTransaction hignored.tokens hignored.devices
    (fun db userId => hignored.lockout db userId _ fun _ => rfl) _ _ _

theorem respects_adminToken {userId : ℕ} {draw : AuthDraw} :
    Respects Rel (adminToken cfg now userId draw) :=
  (respects_issueRefresh hignored.tokens _ _ _ _ _).bind fun _ =>
    Respects.pure _

/-- The second step of a password login. -/
theorem frame_finish (proc : LoginProc) (draw : AuthDraw) (db : Db) :
    Rel db (proc.finish cfg now draw db).2 := by
  rw [LoginProc.finish]
  split
  · exact refl db
  · split
    · exact (respects_login hignored).withTransaction db
    · exact (respects_recordFailedLogin hignored).withTransaction db
    · split
      · exact (respects_adminToken hignored).withTransaction db
      · exact refl db
    · exact refl db

end Requests

end VpnMiddleware.UserFrames
