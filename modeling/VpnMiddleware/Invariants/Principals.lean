import VpnMiddleware.Auth.TokenLineage
import VpnMiddleware.Invariants.TokenFamilies

/-!
# One principal for each token family

All tokens of a family name one user and one device, and the device belongs to
the user.  So the user that the attestation gate checks is the user that the
request acts for, and tokens of administrators pass no gate.
-/

namespace VpnMiddleware.Principals

open VpnMiddleware.Schema VpnMiddleware.Errors VpnMiddleware.Database
open VpnMiddleware.Transaction VpnMiddleware.Table VpnMiddleware.Frame
open VpnMiddleware.AuthService
open VpnMiddleware.LoginFlow hiding Action perform step IsInitial
open VpnMiddleware.TokenLineage VpnMiddleware.AttestedGuard
open VpnMiddleware.TransitionSystem

variable {cfg : AuthConfig} {s s' start last : State} {act : Action}
variable {trace : List (State × Action)} {now : ℕ} {db mid after : Db}
variable {draw : AuthDraw} {answer : TokenPair}

/-! ## The law -/

/-- The action answers with a token pair. -/
def Mints (cfg : AuthConfig) (entry : State × Action) (answer : TokenPair) :
    Prop :=
  (perform cfg entry.1 entry.2).bind Prod.snd = some (.ok answer)

/-- The tokens of one family agree on the user and on the device. -/
def FamiliesAgree (db : Db) : Prop :=
  ∀ left ∈ db.refreshTokens, ∀ right ∈ db.refreshTokens,
    left.familyId = right.familyId →
      left.userId = right.userId ∧ left.deviceId = right.deviceId

/-- The claims name the user and the device of the refresh token that was
minted with them, and the nil UUID exactly for a token without a device; so
they do in a family with such a token. -/
structure NamesRow (claims : AccessClaims) (row : RefreshToken) (db : Db) :
    Prop where
  sub : claims.sub = row.userId
  did : claims.did = row.deviceId.getD adminDid
  sentinel : claims.did = adminDid ↔ row.deviceId = none
  admin_family : ∀ other ∈ db.refreshTokens, other.familyId = row.familyId →
    other.deviceId = none → claims.did = adminDid

/-- The gate refuses a token without a device, and it admits another one only
on behalf of the user that the request acts for. -/
structure GuardsPrincipal (claims : AccessClaims) (db : Db) : Prop where
  refuses_admin : claims.did = adminDid → ∀ now presented key after,
    canActivate now (authUser claims).deviceId presented db ≠ .ok (key, after)
  checks_user : ∀ now presented key after,
    canActivate now (authUser claims).deviceId presented db = .ok (key, after) →
      ∃ device user, deviceRow (authUser claims).deviceId db =
          some (device, user) ∧ user.id = (authUser claims).userId ∧
        device.userId = (authUser claims).userId ∧ user.isBanned = false

structure Consistent (cfg : AuthConfig) (answer : TokenPair) (db : Db) :
    Prop where
  row : ∃ row ∈ db.refreshTokens,
    row.tokenHash = cfg.hashRefresh answer.refreshToken ∧
      NamesRow (signAccess answer.accessToken) row db
  owned : (signAccess answer.accessToken).did ≠ adminDid →
    ∃ device ∈ db.devices, device.id = (signAccess answer.accessToken).did ∧
      device.userId = (signAccess answer.accessToken).sub
  guarded : GuardsPrincipal (signAccess answer.accessToken) db

/-! ## What no request changes -/

/-- The key and the owner of a device. -/
def owner (device : Device) : ℕ × ℕ := (device.id, device.userId)

/-- The columns of a token that name its principal. -/
structure Lineage where
  familyId : ℕ
  userId : ℕ
  deviceId : Option ℕ
  tokenHash : List UInt8
  deriving DecidableEq, Repr

def lineage (row : RefreshToken) : Lineage :=
  ⟨row.familyId, row.userId, row.deviceId, row.tokenHash⟩

def owners (db : Db) : List (ℕ × ℕ) := db.devices.map owner

def tokenLineages (db : Db) : List Lineage := db.refreshTokens.map lineage

/-- At most one device was registered; no device changed hands. -/
def DevicesGrow (before after : Db) : Prop :=
  ∃ added : Option (ℕ × ℕ), owners after = owners before ++ added.toList ∧
    ∀ entry ∈ added, entry.1 ≠ adminDid ∧ entry.1 ∉ (owners before).map Prod.fst

/-- One token was issued: the first of a new family, for a device of its user
or for none, or a successor for the principal of its family. -/
structure Issued (cfg : AuthConfig) (before after : Db) (answer : TokenPair)
    (issued : Lineage) : Prop where
  appended : tokenLineages after = tokenLineages before ++ [issued]
  names : answer = ⟨⟨issued.userId, issued.deviceId⟩, answer.refreshToken⟩
  hashed : issued.tokenHash = cfg.hashRefresh answer.refreshToken
  origin : (issued.familyId ∉ (tokenLineages before).map Lineage.familyId ∧
      ∀ deviceId ∈ issued.deviceId, (deviceId, issued.userId) ∈ owners after) ∨
    ∃ old ∈ tokenLineages before, old.familyId = issued.familyId ∧
      old.userId = issued.userId ∧ old.deviceId = issued.deviceId

/-- What a request does to devices and tokens, by its answer. -/
structure Effect (cfg : AuthConfig) (before after : Db)
    (answer : Option (Except Failure TokenPair)) : Prop where
  devices : DevicesGrow before after
  silent : (∀ minted, answer ≠ some (.ok minted)) →
    tokenLineages after = tokenLineages before
  issued : ∀ minted, answer = some (.ok minted) →
    ∃ lineage, Issued cfg before after minted lineage

/-! ## Statements -/

theorem DevicesGrow.refl (db : Db) : DevicesGrow db db :=
  ⟨none, (List.append_nil _).symm, by simp⟩

theorem DevicesGrow.of_same (hsame : owners after = owners db) :
    DevicesGrow db after :=
  ⟨none, hsame.trans (List.append_nil _).symm, by simp⟩

theorem DevicesGrow.congr_left {other : Db} (hgrow : DevicesGrow db after)
    (hsame : owners db = owners other) : DevicesGrow other after := by
  rw [DevicesGrow] at hgrow ⊢
  rwa [hsame] at hgrow

theorem DevicesGrow.insertDevice (device : Device) (hid : device.id ≠ adminDid)
    (hnew : device.id ∉ (owners db).map Prod.fst) :
    DevicesGrow db { db with devices := db.devices ++ [device] } := by
  refine ⟨some (owner device), List.map_append, ?_⟩
  intro entry hentry
  obtain rfl := Option.mem_some_iff.mp hentry
  exact ⟨hid, hnew⟩

theorem Effect.of_same {unanswered : Option (Except Failure TokenPair)}
    (howners : owners after = owners db)
    (htokens : tokenLineages after = tokenLineages db)
    (hsilent : ∀ minted, unanswered ≠ some (.ok minted)) :
    Effect cfg db after unanswered where
  devices := DevicesGrow.of_same howners
  silent := fun _ => htokens
  issued := fun minted hminted => absurd hminted (hsilent minted)

theorem tokenLineages_revoke {selected : RefreshToken → Bool} {reason : String} :
    tokenLineages { db with
      refreshTokens := updateWhere selected (revokeToken now reason)
        db.refreshTokens } = tokenLineages db := by
  apply map_updateWhere
  exact fun _ => rfl

theorem insertUser_db {user : User} {id : ℕ}
    (hok : insertUser user db = .ok (id, after)) :
    after = { db with users := db.users ++ [user] } := by
  simp only [insertUser, bind_ok, get_ok, require_ok, modify_ok,
    pure_ok] at hok
  obtain ⟨_, _, ⟨rfl, rfl⟩, _, _, ⟨-, rfl⟩, _, _, rfl, -, rfl⟩ := hok
  rfl

theorem insertDevice_db {device : Device} {id : ℕ}
    (hok : insertDevice device db = .ok (id, after)) :
    id = device.id ∧ device.id ∉ (owners db).map Prod.fst ∧
      after = { db with devices := db.devices ++ [device] } := by
  simp only [insertDevice, bind_ok, get_ok, require_ok, modify_ok,
    pure_ok] at hok
  obtain ⟨_, _, ⟨rfl, rfl⟩, _, _, ⟨hid, rfl⟩, _, _, ⟨-, rfl⟩, _, _, ⟨-, rfl⟩,
    _, _, rfl, rfl, rfl⟩ := hok
  refine ⟨rfl, ?_, rfl⟩
  simpa [owners, owner] using hid

theorem issueRefresh_db {userId familyId : ℕ} {deviceId rotatedFrom : Option ℕ}
    {raw : String}
    (hok : issueRefresh cfg now userId deviceId familyId rotatedFrom draw db =
      .ok (raw, after)) :
    raw = newRefreshRaw draw ∧ after = { db with
      refreshTokens := db.refreshTokens ++ [newRefreshToken cfg now userId
        deviceId familyId rotatedFrom draw] } := by
  simp only [issueRefresh, insertRefreshToken, bind_ok, get_ok, require_ok,
    modify_ok, pure_ok] at hok
  obtain ⟨_, _, ⟨_, _, ⟨rfl, rfl⟩, _, _, ⟨-, rfl⟩, _, _, ⟨-, rfl⟩, _, _,
    ⟨-, rfl⟩, _, _, ⟨-, rfl⟩, _, _, ⟨-, rfl⟩, _, _, rfl, -, rfl⟩, rfl, rfl⟩ :=
    hok
  exact ⟨rfl, rfl⟩

/-- The device of a login belongs to its user. -/
theorem findOrCreateDevice_db {userId deviceId : ℕ} {input : DeviceInput}
    (hdraw : draw.deviceId ≠ adminDid)
    (hok : findOrCreateDevice userId input draw db = .ok (deviceId, after)) :
    DevicesGrow db after ∧ after.refreshTokens = db.refreshTokens ∧
      (deviceId, userId) ∈ owners after := by
  simp only [findOrCreateDevice, bind_ok, get_ok] at hok
  obtain ⟨_, _, ⟨rfl, rfl⟩, hok⟩ := hok
  cases hdevice : db.devices.find? fun device =>
      device.userId == userId && device.installId == input.installId with
  | some device =>
      simp only [hdevice, pure_ok] at hok
      obtain ⟨rfl, rfl⟩ := hok
      have hmem := List.mem_of_find?_eq_some hdevice
      have hfound := List.find?_some hdevice
      simp only [Bool.and_eq_true, beq_iff_eq] at hfound
      exact ⟨.refl _, rfl, List.mem_map.mpr
        ⟨device, hmem, Prod.ext rfl hfound.1⟩⟩
  | none =>
      simp only [hdevice] at hok
      obtain ⟨rfl, hfresh, rfl⟩ := insertDevice_db hok
      refine ⟨.insertDevice _ hdraw hfresh, rfl, ?_⟩
      simp [owners, owner, newDevice]

/-! ## Requests that issue a token -/

theorem ne_adminDid_of_isFreshDraw (hfresh : isFreshDraw db draw = true) :
    draw.deviceId ≠ adminDid := by
  rw [isFreshDraw, Bool.and_eq_true] at hfresh
  exact bne_iff_ne.mp hfresh.2

/-- The first token of a new family. -/
theorem effect_of_issueRefresh {userId : ℕ} {deviceId : Option ℕ} {raw : String}
    (hfresh : isFreshDraw db draw = true) (hgrow : DevicesGrow db mid)
    (htokens : mid.refreshTokens = db.refreshTokens)
    (howned : ∀ id ∈ deviceId, (id, userId) ∈ owners mid)
    (hok : issueRefresh cfg now userId deviceId draw.familyId none draw mid =
      .ok (raw, after)) :
    Effect cfg db after (some (.ok (pair userId deviceId raw))) := by
  obtain ⟨rfl, rfl⟩ := issueRefresh_db hok
  refine ⟨hgrow, fun hsilent => absurd rfl (hsilent _), ?_⟩
  intro minted hminted
  obtain rfl := Except.ok.inj (Option.some.inj hminted)
  refine ⟨⟨draw.familyId, userId, deviceId, cfg.hashRefresh (newRefreshRaw draw)⟩,
    ?_, rfl, rfl, Or.inl ⟨?_, howned⟩⟩
  · rw [tokenLineages, htokens, List.map_append]
    rfl
  · simp only [isFreshDraw, AuthSystem.isFreshFamily, Bool.and_eq_true,
      List.all_eq_true, bne_iff_ne] at hfresh
    simpa [tokenLineages, lineage] using hfresh.1

theorem effect_of_anon {input : DeviceInput}
    (hfresh : isFreshDraw db draw = true)
    (hok : anon cfg now input draw db = .ok (answer, after)) :
    Effect cfg db after (some (.ok answer)) := by
  simp only [anon, bind_ok, pure_ok] at hok
  obtain ⟨userId, _, huser, deviceId, _, hdevice, raw, _, hissue, rfl, rfl⟩ :=
    hok
  obtain rfl := insertUser_db huser
  obtain ⟨rfl, hnew, rfl⟩ := insertDevice_db hdevice
  have hdraw := ne_adminDid_of_isFreshDraw hfresh
  have hgrow := DevicesGrow.insertDevice (newDevice userId input draw) hdraw hnew
  refine effect_of_issueRefresh hfresh (hgrow.congr_left rfl) rfl ?_ hissue
  intro id hid
  obtain rfl := Option.mem_some_iff.mp hid
  simp [owners, owner, newDevice]

theorem effect_of_loginTransaction {userId : ℕ} {input : DeviceInput}
    (hfresh : isFreshDraw db draw = true)
    (hok : loginTransaction cfg now userId input draw db =
      .ok (answer, after)) : Effect cfg db after (some (.ok answer)) := by
  simp only [loginTransaction, updateUser, bind_ok, get_ok, require_ok,
    modify_ok, pure_ok] at hok
  obtain ⟨_, _, ⟨rfl, rfl⟩, _, _, ⟨-, rfl⟩, _, _, rfl, deviceId, _, hdevice,
    raw, _, hissue, rfl, rfl⟩ := hok
  have hdraw := ne_adminDid_of_isFreshDraw hfresh
  obtain ⟨hgrow, htokens, howned⟩ := findOrCreateDevice_db hdraw hdevice
  refine effect_of_issueRefresh hfresh (hgrow.congr_left rfl) htokens ?_ hissue
  intro id hid
  obtain rfl := Option.mem_some_iff.mp hid
  exact howned

theorem effect_of_adminToken {userId : ℕ} (hfresh : isFreshDraw db draw = true)
    (hok : adminToken cfg now userId draw db = .ok (answer, after)) :
    Effect cfg db after (some (.ok answer)) := by
  simp only [adminToken, bind_ok, pure_ok] at hok
  obtain ⟨raw, _, hissue, rfl, rfl⟩ := hok
  exact effect_of_issueRefresh hfresh (.refl db) rfl (by simp) hissue

theorem effect_of_adminLogin {email password : String}
    (hfresh : isFreshDraw db draw = true)
    (hok : adminLogin cfg now email password draw db = .ok (answer, after)) :
    Effect cfg db after (some (.ok answer)) := by
  simp only [adminLogin, bind_ok, get_ok, expect_ok, require_ok,
    pure_ok] at hok
  obtain ⟨_, _, ⟨rfl, rfl⟩, user, _, ⟨-, rfl⟩, _, _, ⟨-, rfl⟩, raw, _, hissue,
    rfl, rfl⟩ := hok
  exact effect_of_issueRefresh hfresh (.refl _) rfl (by simp) hissue

/-- A refresh that rotates keeps the principal of the presented token. -/
theorem effect_of_refresh {rawToken : String} {outcome : RefreshOutcome}
    (hok : refreshTransaction cfg now rawToken draw db = .ok (outcome, after)) :
    Effect cfg db after (some (refreshAnswer outcome)) := by
  simp only [refreshTransaction, updateTokens, bind_ok, get_ok] at hok
  obtain ⟨_, _, ⟨rfl, rfl⟩, hok⟩ := hok
  cases hrow : findToken cfg rawToken db with
  | none =>
      simp only [hrow, pure_ok] at hok
      obtain ⟨rfl, rfl⟩ := hok
      exact .of_same rfl rfl (by simp [refreshAnswer])
  | some row =>
      simp only [hrow] at hok
      split_ifs at hok with hrevoked hexpired
      · simp only [bind_ok, modify_ok, pure_ok] at hok
        obtain ⟨_, _, rfl, rfl, rfl⟩ := hok
        exact .of_same rfl tokenLineages_revoke (by simp [refreshAnswer])
      · simp only [bind_ok, modify_ok, pure_ok] at hok
        obtain ⟨_, _, rfl, rfl, rfl⟩ := hok
        exact .of_same rfl tokenLineages_revoke (by simp [refreshAnswer])
      · simp only [bind_ok, modify_ok, pure_ok] at hok
        obtain ⟨_, _, rfl, raw, _, hissue, rfl, rfl⟩ := hok
        obtain ⟨rfl, rfl⟩ := issueRefresh_db hissue
        refine ⟨.of_same rfl, fun hsilent => absurd rfl (hsilent _), ?_⟩
        intro minted hminted
        obtain rfl := Except.ok.inj (Option.some.inj hminted)
        refine ⟨⟨row.familyId, row.userId, row.deviceId,
          cfg.hashRefresh (newRefreshRaw draw)⟩, ?_, rfl, rfl,
          Or.inr ⟨lineage row, ?_, rfl, rfl, rfl⟩⟩
        · rw [← @tokenLineages_revoke now db
            (fun token => token.id == row.id) "rotated"]
          exact List.map_append
        · exact List.mem_map_of_mem (List.mem_of_find?_eq_some hrow)

theorem effect_of_withTransaction {query : Query TokenPair}
    (hquery : ∀ answer after, query db = .ok (answer, after) →
      Effect cfg db after (some (.ok answer))) :
    Effect cfg db (withTransaction query db).2
      (some (withTransaction query db).1) := by
  cases hrun : query db with
  | ok outcome =>
      rw [withTransaction_of_ok hrun]
      exact hquery _ _ hrun
  | error cause =>
      rw [withTransaction_of_error hrun]
      exact .of_same rfl rfl (by simp)

/-! ## Requests that issue none -/

/-- The columns that name principals stay as they are. -/
abbrev SamePrincipals : Db → Db → Prop :=
  Same fun db => (owners db, tokenLineages db)

theorem effect_of_respects {Result : Type} {query : Query Result}
    (hquery : Respects SamePrincipals query) :
    Effect cfg db (withTransaction query db).2 none := by
  have hsame := hquery.withTransaction db
  exact .of_same (congrArg Prod.fst hsame) (congrArg Prod.snd hsame) (by simp)

theorem Effect.of_none (heffect : Effect cfg db after none)
    {unanswered : Option (Except Failure TokenPair)}
    (hsilent : ∀ minted, unanswered ≠ some (.ok minted)) :
    Effect cfg db after unanswered where
  devices := heffect.devices
  silent := fun _ => heffect.silent (by simp)
  issued := fun minted hminted => absurd hminted (hsilent minted)

theorem respects_updateUser (userId : ℕ) (change : User → User) :
    Respects SamePrincipals (updateUser userId change) :=
  Respects.modify fun _ => by rfl

theorem respects_register (userId : ℕ) (email password : String) :
    Respects SamePrincipals (register cfg userId email password) := by
  apply Respects.get.bind
  intro db
  apply (Respects.expect _ _).bind
  intro user
  iterate 2
    apply (Respects.require _ _).bind
    intro _
  exact respects_updateUser _ _

theorem respects_revokeTokens (selected : RefreshToken → Bool)
    (reason : String) :
    Respects SamePrincipals (updateTokens selected (revokeToken now reason)) :=
  Respects.modify fun _ => Prod.ext rfl tokenLineages_revoke

theorem respects_logout (userId : ℕ) (rawToken : String) :
    Respects SamePrincipals (logout cfg now userId rawToken) := by
  apply Respects.get.bind
  intro db
  split
  · exact Respects.pure _
  · apply (Respects.require _ _).bind
    intro _
    exact respects_revokeTokens _ _

/-! ## One action -/

section Actions

variable {response : Option (Except Failure TokenPair)}

theorem effect_of_login {email password : String} {input : DeviceInput}
    (hfresh : isFreshDraw db draw = true) :
    Effect cfg db (login cfg now email password input draw db).2
      (some (login cfg now email password input draw db).1) := by
  rw [login]
  cases findByEmail cfg (cfg.toLowerCase email) db with
  | none => exact .of_same rfl rfl (by simp)
  | some user =>
      dsimp only
      split_ifs
      · exact .of_same rfl rfl (by simp)
      · exact effect_of_withTransaction fun _ _ =>
          effect_of_loginTransaction hfresh
      · exact (effect_of_respects (respects_updateUser _ _)).of_none (by simp)

theorem effect_of_request {act : AuthSystem.Action} {before : AuthSystem.State}
    (hfresh : (AuthSystem.newFamily act).all (isFreshDraw before.db) = true) :
    Effect cfg before.db (AuthSystem.perform cfg before act).2.db
      (AuthSystem.perform cfg before act).1 := by
  cases act with
  | advance ms => exact .of_same rfl rfl (by simp [AuthSystem.perform])
  | anon input draw =>
      exact effect_of_withTransaction fun _ _ => effect_of_anon hfresh
  | register userId email password =>
      exact effect_of_respects (respects_register userId email password)
  | login email password input draw => exact effect_of_login hfresh
  | adminLogin email password draw =>
      exact effect_of_withTransaction fun _ _ => effect_of_adminLogin hfresh
  | refresh rawToken draw =>
      simp only [AuthSystem.perform, refresh]
      cases hrun : refreshTransaction cfg before.clock rawToken draw before.db with
      | ok outcome =>
          rw [withTransaction_of_ok hrun]
          exact effect_of_refresh hrun
      | error cause =>
          rw [withTransaction_of_error hrun]
          exact .of_same rfl rfl (by simp [Except.bind])
  | logout userId rawToken =>
      exact effect_of_respects (respects_logout userId rawToken)
  | setUser userId change =>
      exact effect_of_respects (respects_updateUser userId change)

theorem effect_of_finish {proc : LoginProc}
    (hfresh : isFreshDraw db draw = true) :
    Effect cfg db (proc.finish cfg now draw db).2
      (some (proc.finish cfg now draw db).1) := by
  rw [LoginProc.finish]
  split
  · exact .of_same rfl rfl (by simp)
  · split
    · exact effect_of_withTransaction fun _ _ =>
        effect_of_loginTransaction hfresh
    · exact (effect_of_respects (respects_updateUser _ _)).of_none
        (by simp [invalidCredentials])
    · split_ifs
      · exact effect_of_withTransaction fun _ _ => effect_of_adminToken hfresh
      · exact .of_same rfl rfl (by simp)
    · exact .of_same rfl rfl (by simp)

/-- What an action does to devices and tokens, by its answer. -/
theorem perform_effect (hperform : perform cfg s act = some (s', response)) :
    Effect cfg s.db s'.db response := by
  cases act with
  | request act =>
      simp only [perform] at hperform
      split_ifs at hperform with hfresh
      cases hperform
      exact @effect_of_request _ act ⟨s.db, s.clock⟩ hfresh
  | login act =>
      simp only [perform] at hperform
      split_ifs at hperform with hfresh
      cases act with
      | advance ms =>
          cases hperform
          exact .of_same rfl rfl (by simp)
      | request attempt =>
          simp only [LoginFlow.perform] at hperform
          cases hstart : attempt.start cfg s.clock s.db with
          | error cause =>
              simp only [hstart, Option.some.injEq, Prod.mk.injEq] at hperform
              obtain ⟨rfl, rfl⟩ := hperform
              exact .of_same rfl rfl (by simp)
          | ok proc =>
              simp only [hstart, Option.some.injEq, Prod.mk.injEq] at hperform
              obtain ⟨rfl, rfl⟩ := hperform
              exact .of_same rfl rfl (by simp)
      | finish i draw =>
          simp only [LoginFlow.perform, Option.map_eq_some_iff,
            Prod.mk.injEq] at hperform
          obtain ⟨proc, -, rfl, rfl⟩ := hperform
          exact effect_of_finish hfresh
  | setDevice deviceId change =>
      cases hperform
      refine .of_same ?_ rfl (by simp)
      apply map_updateWhere
      intro device
      rw [owner, change.id, change.userId, owner]

end Actions

/-! ## Every run -/

/-- Families agree, and a token's device belongs to its user. -/
structure Lawful (db : Db) : Prop where
  ids : ((owners db).map Prod.fst).Nodup
  notAdmin : ∀ entry ∈ owners db, entry.1 ≠ adminDid
  families : ∀ left ∈ tokenLineages db, ∀ right ∈ tokenLineages db,
    left.familyId = right.familyId →
      left.userId = right.userId ∧ left.deviceId = right.deviceId
  owned : ∀ token ∈ tokenLineages db, ∀ deviceId ∈ token.deviceId,
    (deviceId, token.userId) ∈ owners db

theorem lawful_initial (hinit : TokenLineage.IsInitial s) : Lawful s.db where
  ids := by
    rw [owners, List.map_map]
    exact hinit.devices
  notAdmin := by
    intro entry hentry
    obtain ⟨device, hdevice, rfl⟩ := List.mem_map.mp hentry
    exact hinit.notAdmin device hdevice
  families := by simp [tokenLineages, hinit.tokens]
  owned := by simp [tokenLineages, hinit.tokens]

section Growth

variable {response : Option (Except Failure TokenPair)}

theorem DevicesGrow.prefix_owners (hgrow : DevicesGrow db after) :
    owners db <+: owners after := by
  obtain ⟨added, howners, -⟩ := hgrow
  rw [howners]
  exact List.prefix_append _ _

theorem Effect.prefix_lineages (heffect : Effect cfg db after response) :
    tokenLineages db <+: tokenLineages after := by
  by_cases hminted : ∃ minted, response = some (.ok minted)
  · obtain ⟨minted, hminted⟩ := hminted
    obtain ⟨issued, hissued⟩ := heffect.issued minted hminted
    rw [hissued.appended]
    exact List.prefix_append _ _
  · have hsame := heffect.silent fun minted heq => hminted ⟨minted, heq⟩
    exact ⟨[], by rw [List.append_nil, hsame]⟩

theorem ids_of_devicesGrow (hgrow : DevicesGrow db after)
    (hids : ((owners db).map Prod.fst).Nodup) :
    ((owners after).map Prod.fst).Nodup := by
  obtain ⟨added, howners, hadded⟩ := hgrow
  rw [howners]
  cases added with
  | none => simpa using hids
  | some entry =>
      rw [Option.toList_some, List.map_append, List.map_singleton]
      refine hids.append (List.nodup_singleton _) ?_
      rw [List.disjoint_singleton]
      exact (hadded entry rfl).2

theorem notAdmin_of_devicesGrow (hgrow : DevicesGrow db after)
    (hnotAdmin : ∀ entry ∈ owners db, entry.1 ≠ adminDid) :
    ∀ entry ∈ owners after, entry.1 ≠ adminDid := by
  obtain ⟨added, howners, hadded⟩ := hgrow
  intro entry hentry
  rw [howners] at hentry
  rcases List.mem_append.mp hentry with hold | hnew
  · exact hnotAdmin entry hold
  · exact (hadded entry (Option.mem_toList.mp hnew)).1

/-- The issued token agrees with the tokens that its family already had. -/
theorem Issued.agrees {issued : Lineage} (hissued : Issued cfg db after answer issued)
    (hlawful : Lawful db) : ∀ token ∈ tokenLineages db,
      token.familyId = issued.familyId →
        token.userId = issued.userId ∧ token.deviceId = issued.deviceId := by
  intro token htoken hfamily
  rcases hissued.origin with ⟨hfresh, -⟩ | ⟨old, hold, hsame, huser, hdevice⟩
  · exact absurd (List.mem_map.mpr ⟨token, htoken, hfamily⟩) hfresh
  · obtain ⟨huser', hdevice'⟩ :=
      hlawful.families token htoken old hold (hfamily.trans hsame.symm)
    exact ⟨huser'.trans huser, hdevice'.trans hdevice⟩

theorem Issued.owned {issued : Lineage}
    (hissued : Issued cfg db after answer issued) (hlawful : Lawful db)
    (hgrow : owners db <+: owners after) :
    ∀ deviceId ∈ issued.deviceId, (deviceId, issued.userId) ∈ owners after := by
  rcases hissued.origin with ⟨-, howned⟩ | ⟨old, hold, -, huser, hdevice⟩
  · exact howned
  · intro deviceId hid
    rw [← huser]
    exact hgrow.subset (hlawful.owned old hold deviceId (hdevice ▸ hid))

theorem lawful_of_effect (hlawful : Lawful db)
    (heffect : Effect cfg db after response) : Lawful after := by
  have hgrow := heffect.devices.prefix_owners
  have hids := ids_of_devicesGrow heffect.devices hlawful.ids
  have hnotAdmin := notAdmin_of_devicesGrow heffect.devices hlawful.notAdmin
  by_cases hminted : ∃ minted, response = some (.ok minted)
  · obtain ⟨minted, hminted⟩ := hminted
    obtain ⟨issued, hissued⟩ := heffect.issued minted hminted
    have hagrees := hissued.agrees hlawful
    refine ⟨hids, hnotAdmin, ?_, ?_⟩
    · intro left hleft right hright hfamily
      rw [hissued.appended, List.mem_append, List.mem_singleton] at hleft hright
      rcases hleft with hleft | rfl <;> rcases hright with hright | rfl
      · exact hlawful.families left hleft right hright hfamily
      · exact hagrees left hleft hfamily
      · exact (hagrees right hright hfamily.symm).imp Eq.symm Eq.symm
      · exact ⟨rfl, rfl⟩
    · intro token htoken deviceId hid
      rw [hissued.appended, List.mem_append, List.mem_singleton] at htoken
      rcases htoken with htoken | rfl
      · exact hgrow.subset (hlawful.owned token htoken deviceId hid)
      · exact hissued.owned hlawful hgrow deviceId hid
  · have hsame := heffect.silent fun minted heq => hminted ⟨minted, heq⟩
    refine ⟨hids, hnotAdmin, ?_, ?_⟩
    · rw [hsame]
      exact hlawful.families
    · rw [hsame]
      exact fun token htoken deviceId hid =>
        hgrow.subset (hlawful.owned token htoken deviceId hid)

end Growth

theorem exists_perform (hstep : step cfg s act = some s') :
    ∃ response, perform cfg s act = some (s', response) := by
  obtain ⟨outcome, hperform, rfl⟩ := Option.map_eq_some_iff.mp hstep
  exact ⟨outcome.2, hperform⟩

theorem lawful_step (hlawful : Lawful s.db)
    (hstep : step cfg s act = some s') : Lawful s'.db := by
  obtain ⟨response, hperform⟩ := exists_perform hstep
  exact lawful_of_effect hlawful (perform_effect hperform)

/-- Tokens and devices stay for good. -/
theorem mem_lineages_of_run (hrun : Run (lineages cfg) start trace last)
    {token : Lineage} (htoken : token ∈ tokenLineages start.db) :
    token ∈ tokenLineages last.db := by
  refine @Run.invariant _ _ _ _ _ _ (fun s => token ∈ tokenLineages s.db) hrun
    htoken ?_
  intro state act next hmem hstep
  obtain ⟨response, hperform⟩ := exists_perform hstep
  exact (perform_effect hperform).prefix_lineages.subset hmem

/-! ## The gate -/

theorem guardsPrincipal_of_lawful {claims : AccessClaims} (hlawful : Lawful db)
    (howned : claims.did ≠ adminDid → (claims.did, claims.sub) ∈ owners db) :
    GuardsPrincipal claims db where
  refuses_admin := by
    intro hadmin now presented key after hok
    obtain ⟨device, user, hrow, -, -, -⟩ := canActivate_ok hok
    obtain ⟨hdevice, hid, -⟩ := deviceRow_eq hrow
    apply hlawful.notAdmin (owner device) (List.mem_map_of_mem hdevice)
    exact hid.trans hadmin
  checks_user := by
    intro now presented key after hok
    obtain ⟨device, user, hrow, hsuspended, -, -⟩ := canActivate_ok hok
    obtain ⟨hdevice, hid, huser⟩ := deviceRow_eq hrow
    have hmem : owner device ∈ owners db := List.mem_map_of_mem hdevice
    have hnotAdmin : claims.did ≠ adminDid := by
      rw [← show device.id = claims.did from hid]
      exact hlawful.notAdmin _ hmem
    have hsame : owner device = (claims.did, claims.sub) :=
      eq_of_key hlawful.ids hmem (howned hnotAdmin) hid
    have howner : device.userId = claims.sub := congrArg Prod.snd hsame
    have hallowed : user.isBanned = false :=
      (Bool.or_eq_false_iff.mp hsuspended).1
    exact ⟨device, user, hrow, huser.trans howner, howner, hallowed⟩

/-! ## The claims of a minted token -/

theorem familiesAgree_of_lawful (hlawful : Lawful db) : FamiliesAgree db := by
  intro left hleft right hright hfamily
  exact hlawful.families (lineage left) (List.mem_map_of_mem hleft)
    (lineage right) (List.mem_map_of_mem hright) hfamily

/-- A minted token stays consistent as long as its row is there. -/
theorem consistent_of_mem {issued : Lineage} (hlawful : Lawful db)
    (hmem : issued ∈ tokenLineages db)
    (hnames : answer = ⟨⟨issued.userId, issued.deviceId⟩, answer.refreshToken⟩)
    (hhashed : issued.tokenHash = cfg.hashRefresh answer.refreshToken) :
    Consistent cfg answer db := by
  obtain ⟨row, hrow, rfl⟩ := List.mem_map.mp hmem
  have htoken : answer.accessToken = ⟨row.userId, row.deviceId⟩ :=
    congrArg TokenPair.accessToken hnames
  have howned : ∀ deviceId ∈ row.deviceId, (deviceId, row.userId) ∈ owners db :=
    hlawful.owned (lineage row) hmem
  have hsentinel : row.deviceId.getD adminDid = adminDid ↔
      row.deviceId = none := by
    cases hdevice : row.deviceId with
    | none => simp
    | some deviceId =>
        have hreal := hlawful.notAdmin _ (howned deviceId hdevice)
        simpa using hreal
  have hdevice : row.deviceId.getD adminDid ≠ adminDid →
      (row.deviceId.getD adminDid, row.userId) ∈ owners db := by
    intro hreal
    obtain ⟨deviceId, heq⟩ := Option.ne_none_iff_exists'.mp
      fun hnone => hreal (hsentinel.mpr hnone)
    rw [heq, Option.getD_some]
    exact howned deviceId heq
  refine ⟨⟨row, hrow, hhashed, ?_⟩, ?_, ?_⟩
  · rw [htoken]
    refine ⟨rfl, rfl, hsentinel, ?_⟩
    intro other hother hfamily hnone
    have hagrees := familiesAgree_of_lawful hlawful other hother row hrow hfamily
    exact hsentinel.mpr (hagrees.2 ▸ hnone)
  · rw [htoken]
    intro hreal
    obtain ⟨device, hmem, heq⟩ := List.mem_map.mp (hdevice hreal)
    exact ⟨device, hmem, congrArg Prod.fst heq, congrArg Prod.snd heq⟩
  · rw [htoken]
    exact guardsPrincipal_of_lawful hlawful hdevice

/-- In every run all tokens of a family name one user and one device, and every
access token that was minted names the principal of its refresh token, the
owner of its device, and the user that the attestation gate checks. -/
theorem principal_consistency (hinit : TokenLineage.IsInitial start)
    (hrun : Run (lineages cfg) start trace last) :
    FamiliesAgree last.db ∧ ∀ entry ∈ trace, ∀ answer,
      Mints cfg entry answer → Consistent cfg answer last.db := by
  have hkeep : ∀ state act next, Lawful state.db →
      (lineages cfg).step state act = some next → Lawful next.db :=
    fun state act next hlawful hstep => lawful_step hlawful hstep
  have hlawful := @Run.invariant _ _ _ _ _ _ (fun s => Lawful s.db) hrun
    (lawful_initial hinit) hkeep
  refine ⟨familiesAgree_of_lawful hlawful, ?_⟩
  intro entry hentry answer hmints
  obtain ⟨before, rest, rfl⟩ := List.append_of_mem hentry
  obtain ⟨next, -, hstep, hrest⟩ := hrun.exists_split
  obtain ⟨response, hperform⟩ := exists_perform hstep
  have hresponse : response = some (.ok answer) := by
    simpa [Mints, hperform] using hmints
  obtain ⟨issued, hissued⟩ := (perform_effect hperform).issued answer hresponse
  have hmem : issued ∈ tokenLineages last.db := by
    apply mem_lineages_of_run hrest
    rw [hissued.appended]
    exact List.mem_append_right _ (List.mem_singleton_self _)
  exact consistent_of_mem hlawful hmem hissued.names hissued.hashed

/-! ## A run -/

/-- Attestation marks the device until `until`. -/
def attestation (attestedUntil : ℕ) : DeviceChange where
  change := fun device =>
    { device with
      isAttested := true, attestedUntil := some attestedUntil,
      attestedClientPublicKey := some [7] }
  id := fun _ => rfl
  userId := fun _ => rfl

def launchAndAttest : List Action :=
  [.request (.anon { platform := .android, installId := "phone" }
    (TokenFamilies.nthDraw 1)), .setDevice 1 (attestation 10)]

def rotation : Action :=
  .request (.refresh (newRefreshRaw (TokenFamilies.nthDraw 1))
    (TokenFamilies.nthDraw 2))

def rotatedPair : TokenPair :=
  pair 1 (some 1) (newRefreshRaw (TokenFamilies.nthDraw 2))

/-- The token of a rotation, and an admission with it. -/
theorem principal_consistency_rotated : ∃ trace s last,
    Run (lineages TokenFamilies.plainConfig) {} (trace ++ [(s, rotation)]) last ∧
      Mints TokenFamilies.plainConfig (s, rotation) rotatedPair ∧
      Consistent TokenFamilies.plainConfig rotatedPair last.db ∧
      (withTransaction (canActivate 5 1 (some [7])) last.db).1 = .ok [7] := by
  obtain ⟨s, last, hrun, -, hmints, hadmits⟩ :=
    @exists_run_of_execute _ _ (lineages TokenFamilies.plainConfig) {}
      launchAndAttest rotation (fun s last =>
        (perform TokenFamilies.plainConfig s rotation).bind Prod.snd =
          some (.ok rotatedPair) ∧
        (withTransaction (canActivate 5 1 (some [7])) last.db).1 = .ok [7])
      _ (by decide +kernel)
  have hinit : TokenLineage.IsInitial {} := ⟨rfl, rfl, List.nodup_nil, by simp⟩
  have hconsistent := (principal_consistency hinit hrun).2 (s, rotation)
    (by simp) rotatedPair hmints
  exact ⟨_, s, last, hrun, hmints, hconsistent, hadmits⟩

end VpnMiddleware.Principals
