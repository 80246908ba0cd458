import VpnMiddleware.Auth.AuthService
import VpnMiddleware.Core.TransitionSystem

/-!
# Identity as a transition system

Requests of any clients in any order, each one atomic, and what each does to
the refresh tokens.
-/

namespace VpnMiddleware.AuthSystem

open VpnMiddleware.Schema VpnMiddleware.Errors VpnMiddleware.Database
open VpnMiddleware.Transaction VpnMiddleware.Table VpnMiddleware.AuthService
open VpnMiddleware.TransitionSystem

structure State where
  db : Db := {}
  clock : ℕ := 0

inductive Action
  | advance (ms : ℕ)
  | anon (input : DeviceInput) (draw : AuthDraw)
  | register (userId : ℕ) (email password : String)
  | login (email password : String) (input : DeviceInput) (draw : AuthDraw)
  | adminLogin (email password : String) (draw : AuthDraw)
  | refresh (rawToken : String) (draw : AuthDraw)
  | logout (userId : ℕ) (rawToken : String)
  | setUser (userId : ℕ) (change : User → User)

/-- `randomUUID()` gives a new family an id that no row has. -/
def isFreshFamily (db : Db) (draw : AuthDraw) : Bool :=
  db.refreshTokens.all fun row => row.familyId != draw.familyId

/-- A request with the answer that it gets; requests without a token pair in
their answer give none. -/
def perform (cfg : AuthConfig) (s : State) :
    Action → Option (Except Failure TokenPair) × State
  | .advance ms => (none, { s with clock := s.clock + ms })
  | .anon input draw =>
      let outcome := withTransaction (anon cfg s.clock input draw) s.db
      (some outcome.1, { s with db := outcome.2 })
  | .register userId email password =>
      let outcome := withTransaction (register cfg userId email password) s.db
      (none, { s with db := outcome.2 })
  | .login email password input draw =>
      let outcome := login cfg s.clock email password input draw s.db
      (some outcome.1, { s with db := outcome.2 })
  | .adminLogin email password draw =>
      let outcome := withTransaction
        (adminLogin cfg s.clock email password draw) s.db
      (some outcome.1, { s with db := outcome.2 })
  | .refresh rawToken draw =>
      let outcome := refresh cfg s.clock rawToken draw s.db
      (some outcome.1, { s with db := outcome.2 })
  | .logout userId rawToken =>
      let outcome := withTransaction (logout cfg s.clock userId rawToken) s.db
      (none, { s with db := outcome.2 })
  | .setUser userId change =>
      (none, { s with
        db := (withTransaction (updateUser userId change) s.db).2 })

/-- The draw with which a request starts a new family. -/
def newFamily : Action → Option AuthDraw
  | .anon _ draw | .login _ _ _ draw | .adminLogin _ _ draw => some draw
  | _ => none

def step (cfg : AuthConfig) (s : State) (act : Action) : Option State :=
  if (newFamily act).all (isFreshFamily s.db) then some (perform cfg s act).2
  else none

/-- No refresh token has been issued yet. -/
def IsInitial (s : State) : Prop := s.db.refreshTokens = []

def auth (cfg : AuthConfig) : System State Action where
  init := IsInitial
  step := step cfg

/-! ## What a request does to the refresh tokens -/

/-- The row may be inserted. -/
structure FitsKeys (tokens : List RefreshToken) (row : RefreshToken) : Prop where
  fresh_id : ∀ other ∈ tokens, other.id ≠ row.id
  fresh_hash : ∀ other ∈ tokens, other.tokenHash ≠ row.tokenHash

/-- The token table after a request. -/
inductive TokenChange (s : State) : List RefreshToken → Prop
  | same : TokenChange s s.db.refreshTokens
  | started {row : RefreshToken} : FitsKeys s.db.refreshTokens row →
      (∀ other ∈ s.db.refreshTokens, other.familyId ≠ row.familyId) →
      row.rotatedFrom = none → row.revokedAt = none →
      TokenChange s (s.db.refreshTokens ++ [row])
  | familyRevoked (familyId : ℕ) (reason : String) :
      TokenChange s (updateWhere (isLiveIn familyId)
        (revokeToken s.clock reason) s.db.refreshTokens)
  | expired {row : RefreshToken} : row ∈ s.db.refreshTokens →
      row.revokedAt = none →
      TokenChange s (updateWhere (fun token => token.id == row.id)
        (revokeToken s.clock "expired") s.db.refreshTokens)
  | rotated {row next : RefreshToken} : row ∈ s.db.refreshTokens →
      row.revokedAt = none → s.clock < row.expiresAt →
      FitsKeys s.db.refreshTokens next → next.familyId = row.familyId →
      next.rotatedFrom = some row.id → next.revokedAt = none →
      TokenChange s (updateWhere (fun token => token.id == row.id)
        (revokeToken s.clock "rotated") s.db.refreshTokens ++ [next])

section Requests

variable {cfg : AuthConfig} {now : ℕ} {db after : Db} {draw : AuthDraw}

theorem insertUser_ok {user : User} {id : ℕ}
    (hok : insertUser user db = .ok (id, after)) :
    after.refreshTokens = db.refreshTokens := by
  simp only [insertUser, bind_ok, get_ok, require_ok, modify_ok,
    pure_ok] at hok
  obtain ⟨_, _, ⟨rfl, rfl⟩, _, _, ⟨-, rfl⟩, _, _, rfl, -, rfl⟩ := hok
  rfl

theorem insertDevice_ok {device : Device} {id : ℕ}
    (hok : insertDevice device db = .ok (id, after)) :
    after.refreshTokens = db.refreshTokens := by
  simp only [insertDevice, bind_ok, get_ok, require_ok, modify_ok,
    pure_ok] at hok
  obtain ⟨_, _, ⟨rfl, rfl⟩, _, _, ⟨-, rfl⟩, _, _, ⟨-, rfl⟩, _, _, ⟨-, rfl⟩,
    _, _, rfl, -, rfl⟩ := hok
  rfl

theorem findOrCreateDevice_ok {userId id : ℕ} {input : DeviceInput}
    (hok : findOrCreateDevice userId input draw db = .ok (id, after)) :
    after.refreshTokens = db.refreshTokens := by
  simp only [findOrCreateDevice, bind_ok, get_ok] at hok
  obtain ⟨_, _, ⟨rfl, rfl⟩, hok⟩ := hok
  cases hdevice : db.devices.find? fun device =>
      device.userId == userId && device.installId == input.installId with
  | some device =>
      simp only [hdevice, pure_ok] at hok
      rw [hok.2]
  | none =>
      simp only [hdevice] at hok
      exact insertDevice_ok hok

theorem insertRefreshToken_ok {token : RefreshToken} {id : ℕ}
    (hok : insertRefreshToken token db = .ok (id, after)) :
    FitsKeys db.refreshTokens token ∧
      after.refreshTokens = db.refreshTokens ++ [token] := by
  simp only [insertRefreshToken, bind_ok, get_ok, require_ok, modify_ok,
    pure_ok] at hok
  obtain ⟨_, _, ⟨rfl, rfl⟩, _, _, ⟨hid, rfl⟩, _, _, ⟨hhash, rfl⟩,
    _, _, ⟨-, rfl⟩, _, _, ⟨-, rfl⟩, _, _, ⟨-, rfl⟩, _, _, rfl, -, rfl⟩ := hok
  exact ⟨⟨by simpa using hid, by simpa using hhash⟩, rfl⟩

/-- A new token is appended. -/
theorem issueRefresh_ok {userId : ℕ} {deviceId rotatedFrom : Option ℕ}
    {familyId : ℕ} {raw : String}
    (hok : issueRefresh cfg now userId deviceId familyId rotatedFrom draw db =
      .ok (raw, after)) :
    ∃ row, row = newRefreshToken cfg now userId deviceId familyId rotatedFrom
        draw ∧ FitsKeys db.refreshTokens row ∧
      after.refreshTokens = db.refreshTokens ++ [row] := by
  simp only [issueRefresh, bind_ok, pure_ok] at hok
  obtain ⟨_, _, hinsert, -, rfl⟩ := hok
  exact ⟨_, rfl, insertRefreshToken_ok hinsert⟩

/-- The request started a family: it appended its first token. -/
def Starts (before : List RefreshToken) (draw : AuthDraw)
    (tokens : List RefreshToken) : Prop :=
  ∃ row, tokens = before ++ [row] ∧ FitsKeys before row ∧
    row.familyId = draw.familyId ∧ row.rotatedFrom = none ∧ row.revokedAt = none

theorem starts_of_issueRefresh {userId : ℕ} {deviceId : Option ℕ}
    {raw : String}
    (hok : issueRefresh cfg now userId deviceId draw.familyId none draw db =
      .ok (raw, after)) : Starts db.refreshTokens draw after.refreshTokens := by
  obtain ⟨row, rfl, hfits, hafter⟩ := issueRefresh_ok hok
  exact ⟨_, hafter, hfits, rfl, rfl, rfl⟩

theorem anon_ok {input : DeviceInput} {answer : TokenPair}
    (hok : anon cfg now input draw db = .ok (answer, after)) :
    Starts db.refreshTokens draw after.refreshTokens := by
  simp only [anon, bind_ok, pure_ok] at hok
  obtain ⟨_, _, huser, _, _, hdevice, _, _, hissue, -, rfl⟩ := hok
  have hstarts := starts_of_issueRefresh hissue
  rwa [insertDevice_ok hdevice, insertUser_ok huser] at hstarts

theorem loginTransaction_ok {userId : ℕ} {input : DeviceInput}
    {answer : TokenPair}
    (hok : loginTransaction cfg now userId input draw db =
      .ok (answer, after)) :
    Starts db.refreshTokens draw after.refreshTokens := by
  simp only [loginTransaction, updateUser, bind_ok, get_ok, require_ok,
    modify_ok, pure_ok] at hok
  obtain ⟨_, _, ⟨rfl, rfl⟩, _, _, ⟨-, rfl⟩, _, _, rfl, _, _, hdevice,
    _, _, hissue, -, rfl⟩ := hok
  have hstarts := starts_of_issueRefresh hissue
  rwa [findOrCreateDevice_ok hdevice] at hstarts

theorem adminLogin_ok {email password : String} {answer : TokenPair}
    (hok : adminLogin cfg now email password draw db = .ok (answer, after)) :
    Starts db.refreshTokens draw after.refreshTokens := by
  simp only [adminLogin, bind_ok, get_ok, expect_ok, require_ok,
    pure_ok] at hok
  obtain ⟨_, _, ⟨rfl, rfl⟩, _, _, ⟨-, rfl⟩, _, _, ⟨-, rfl⟩, _, _, hissue, -,
    rfl⟩ := hok
  exact starts_of_issueRefresh hissue

theorem register_ok {userId : ℕ} {email password : String} {done : Unit}
    (hok : register cfg userId email password db = .ok (done, after)) :
    after.refreshTokens = db.refreshTokens := by
  simp only [register, updateUser, bind_ok, get_ok, expect_ok, require_ok,
    modify_ok] at hok
  obtain ⟨_, _, ⟨rfl, rfl⟩, _, _, ⟨-, rfl⟩, _, _, ⟨-, rfl⟩, _, _, ⟨-, rfl⟩,
    rfl⟩ := hok
  rfl

/-- What a refresh does, by its outcome. -/
inductive Refreshed (cfg : AuthConfig) (now : ℕ) (rawToken : String) (db : Db) :
    RefreshOutcome → List RefreshToken → Prop
  | invalid : findToken cfg rawToken db = none →
      Refreshed cfg now rawToken db .invalid db.refreshTokens
  | reuse {row : RefreshToken} : findToken cfg rawToken db = some row →
      row.revokedAt ≠ none →
      Refreshed cfg now rawToken db (.reuse row.userId row.familyId)
        (updateWhere (isLiveIn row.familyId) (revokeToken now "reuse_detected")
          db.refreshTokens)
  | expired {row : RefreshToken} : findToken cfg rawToken db = some row →
      row.revokedAt = none →
      Refreshed cfg now rawToken db .expired
        (updateWhere (fun token => token.id == row.id)
          (revokeToken now "expired") db.refreshTokens)
  | rotated {row next : RefreshToken} {raw : String} :
      findToken cfg rawToken db = some row → row.revokedAt = none →
      now < row.expiresAt → FitsKeys db.refreshTokens next →
      next.familyId = row.familyId → next.rotatedFrom = some row.id →
      next.revokedAt = none →
      Refreshed cfg now rawToken db (.rotated row.userId row.deviceId raw)
        (updateWhere (fun token => token.id == row.id)
          (revokeToken now "rotated") db.refreshTokens ++ [next])

theorem FitsKeys.of_updateWhere {tokens : List RefreshToken}
    {selected : RefreshToken → Bool} {reason : String} {row : RefreshToken}
    (hfits : FitsKeys (updateWhere selected (revokeToken now reason) tokens) row) :
    FitsKeys tokens row := by
  have hchanged : ∀ other ∈ tokens, ∃ other' ∈ updateWhere selected
      (revokeToken now reason) tokens,
      other'.id = other.id ∧ other'.tokenHash = other.tokenHash := by
    intro other hother
    refine ⟨_, mem_updateWhere.mpr ⟨other, hother, rfl⟩, ?_⟩
    split_ifs <;> exact ⟨rfl, rfl⟩
  constructor
  · intro other hother
    obtain ⟨other', hother', hid, -⟩ := hchanged other hother
    exact hid ▸ hfits.fresh_id other' hother'
  · intro other hother
    obtain ⟨other', hother', -, hhash⟩ := hchanged other hother
    exact hhash ▸ hfits.fresh_hash other' hother'

theorem refreshTransaction_ok {rawToken : String} {outcome : RefreshOutcome}
    (hok : refreshTransaction cfg now rawToken draw db = .ok (outcome, after)) :
    Refreshed cfg now rawToken db outcome after.refreshTokens := by
  simp only [refreshTransaction, updateTokens, bind_ok, get_ok] at hok
  obtain ⟨_, _, ⟨rfl, rfl⟩, hok⟩ := hok
  cases hrow : findToken cfg rawToken db with
  | none =>
      simp only [hrow, pure_ok] at hok
      obtain ⟨rfl, rfl⟩ := hok
      exact .invalid hrow
  | some row =>
      simp only [hrow] at hok
      split_ifs at hok with hrevoked hexpired
      · simp only [bind_ok, modify_ok, pure_ok] at hok
        obtain ⟨_, _, rfl, rfl, rfl⟩ := hok
        exact .reuse hrow (Option.isSome_iff_ne_none.mp hrevoked)
      · simp only [bind_ok, modify_ok, pure_ok] at hok
        obtain ⟨_, _, rfl, rfl, rfl⟩ := hok
        exact .expired hrow (by simpa using hrevoked)
      · simp only [bind_ok, modify_ok, pure_ok] at hok
        obtain ⟨_, _, rfl, raw, _, hissue, rfl, rfl⟩ := hok
        obtain ⟨next, rfl, hfits, hafter⟩ := issueRefresh_ok hissue
        rw [hafter]
        exact .rotated hrow (by simpa using hrevoked) (by omega)
          (FitsKeys.of_updateWhere hfits) rfl rfl rfl

/-- What a logout does. -/
inductive LoggedOut (cfg : AuthConfig) (now : ℕ) (rawToken : String) (db : Db) :
    List RefreshToken → Prop
  | unknown : findToken cfg rawToken db = none →
      LoggedOut cfg now rawToken db db.refreshTokens
  | revoked {row : RefreshToken} : findToken cfg rawToken db = some row →
      LoggedOut cfg now rawToken db (updateWhere (isLiveIn row.familyId)
        (revokeToken now "logout") db.refreshTokens)

theorem logout_ok {userId : ℕ} {rawToken : String} {done : Unit}
    (hok : logout cfg now userId rawToken db = .ok (done, after)) :
    LoggedOut cfg now rawToken db after.refreshTokens := by
  simp only [logout, updateTokens, bind_ok, get_ok] at hok
  obtain ⟨_, _, ⟨rfl, rfl⟩, hok⟩ := hok
  cases hrow : findToken cfg rawToken db with
  | none =>
      simp only [hrow, pure_ok] at hok
      rw [← hok.2]
      exact .unknown hrow
  | some row =>
      simp only [hrow, bind_ok, require_ok, modify_ok] at hok
      obtain ⟨_, _, ⟨-, rfl⟩, rfl⟩ := hok
      exact .revoked hrow

end Requests

end VpnMiddleware.AuthSystem
