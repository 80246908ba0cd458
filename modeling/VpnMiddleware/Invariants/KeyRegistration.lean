import VpnMiddleware.Core.Base64
import VpnMiddleware.Core.Pool
import VpnMiddleware.System.Registration

/-!
# Agreement on the registered key

The app keeps the id of its App Attest key, the server keeps the id and the
public key in the device's row.  The app stores its half before the server has
seen anything, so the two agree only as long as every registration gets
through and the row behind the token stays the same.
-/

namespace VpnMiddleware.KeyRegistration

open VpnMiddleware.Schema VpnMiddleware.Errors VpnMiddleware.Database
open VpnMiddleware.Transaction VpnMiddleware.TransitionSystem
open VpnMiddleware.Table VpnMiddleware.AuthService VpnMiddleware.AttestService
open VpnMiddleware.AttestationBridge VpnMiddleware.Registration

variable {cfg : Config} {s s' : State} {act : Action}
variable {trace : List (State × Action)}

/-! ## What is to hold -/

/-- The row of the installation that the token names has the key. -/
def Registered (s : State) (keyId : String) : Prop :=
  ∃ row ∈ ownDevices s.phone.installId s.db, s.did = some row.id ∧
    row.appAttestKeyId = some keyId ∧ row.appAttestPublicKey.isSome = true

/-- The key that the app's next attestation asserts with; while one is under
way there is no next one. -/
def nextAssertion (s : State) : Option String :=
  match s.phone.call, s.did with
  | none, some _ => s.phone.keyId
  | _, _ => none

def Agreement (s : State) : Prop :=
  ∀ keyId, nextAssertion s = some keyId → Registered s keyId

/-! ## The condition -/

/-- A request that registers a key. -/
def registers (request : Request) : Option String :=
  match request.input.attestation with
  | .ios payload => if payload.mode = .attest then some payload.keyId else none
  | .android _ => none

/-- The next step of the server on the request goes through. -/
def GoesThrough (cfg : Config) (s : State) (request : Request) : Prop :=
  match request.proc with
  | none =>
      request.input.clientPubKey.length = 32 ∧
        ∃ row ∈ (s.db.attestationChallenges.find? fun row =>
          row.id == request.input.challengeId &&
            row.deviceId == request.input.deviceId),
          row.consumedAt = none ∧ s.clock < row.expiresAt
  | some proc =>
      match proc.stage with
      | .ios payload challenge =>
          Registrable cfg.attest s.clock proc.input payload challenge s.db
      | _ => False

instance (request : Request) : Decidable (GoesThrough cfg s request) := by
  rw [GoesThrough]
  split
  · infer_instance
  · split <;> infer_instance

/-- A successful sign-in leaves the account as it is, or comes while the app
holds no key. -/
def KeepsAccount (s : State) (outcome : Except Failure TokenPair × Db) : Prop :=
  ∀ pair ∈ outcome.1.toOption,
    s.phone.token.map AccessToken.sub = some pair.accessToken.sub ∨
      s.phone.keyId = none

/-- Registrations are neither lost nor refused nor given up, and no other
account is signed in to once there is a key. -/
def Smooth (cfg : Config) (s : State) : Action → Prop
  | .login email password appVersion draw =>
      KeepsAccount s (AuthService.login cfg.auth s.clock email password
        (s.deviceInput appVersion) draw s.db)
  | .anon appVersion draw =>
      KeepsAccount s (withTransaction (AuthService.anon cfg.auth s.clock
        (s.deviceInput appVersion) draw) s.db)
  | .serve i => ∀ request ∈ s.requests[i]?,
      registers request ≠ none → GoesThrough cfg s request
  | .lose i => ∀ request ∈ s.requests[i]?, registers request = none
  | .settle => ∀ request ∈ s.requests, registers request ≠ none →
      s.phone.call ≠ some (.verify request.round)
  | _ => True

instance : Decidable (Smooth cfg s act) := by
  cases act <;> unfold Smooth <;> try unfold KeepsAccount
  all_goals infer_instance

/-! ## The invariant -/

/-- The installation's rows: one per account, and the token's is among them. -/
structure Keyed (rows : List Device) (token : Option AccessToken) : Prop where
  ids : (rows.map Device.id).Nodup
  users : (rows.map Device.userId).Nodup
  named : ∀ claims, token = some claims → ∃ row ∈ rows,
    row.userId = claims.sub ∧ claims.did = some row.id

/-- Requests carry distinct rounds that have been handed out. -/
structure Rounds (s : State) : Prop where
  distinct : (s.requests.map Request.round).Nodup
  below : ∀ request ∈ s.requests, request.round < s.rounds
  proc : ∀ request ∈ s.requests, ∀ proc, request.proc = some proc →
    proc.input = request.input ∧ ∀ payload challenge,
      proc.stage = .ios payload challenge →
        request.input.attestation = .ios payload

/-- A key is registered or its registration is on its way. -/
structure Tracked (s : State) : Prop where
  pending : ∀ request ∈ s.requests, ∀ keyId, registers request = some keyId →
    s.phone.call = some (.verify request.round) ∧
      s.phone.keyId = some keyId ∧ s.did = some request.input.deviceId
  held : ∀ keyId, s.phone.keyId = some keyId → Registered s keyId ∨
    ∃ request ∈ s.requests, registers request = some keyId
  registering : ∀ attempt pending, s.phone.call = some (.native attempt pending) →
    s.phone.keyId = none ∨ ∃ keyId hash, pending = .generateAssertion keyId hash

structure Consistent (s : State) : Prop where
  keyed : Keyed (ownDevices s.phone.installId s.db) s.phone.token
  rounds : Rounds s
  tracked : Tracked s

theorem Consistent.agreement (hconsistent : Consistent s) : Agreement s := by
  intro keyId hnext
  rw [nextAssertion] at hnext
  cases hcall : s.phone.call with
  | some call => simp [hcall] at hnext
  | none =>
      cases hdid : s.did with
      | none => simp [hcall, hdid] at hnext
      | some did =>
          simp only [hcall, hdid] at hnext
          rcases hconsistent.tracked.held keyId hnext with hdone |
            ⟨request, hrequest, hregisters⟩
          · exact hdone
          · have hwaits :=
              (hconsistent.tracked.pending request hrequest keyId hregisters).1
            simp [hcall] at hwaits

/-! ## Rows -/

theorem ownDevices_congr {installId : String} {db after : Db}
    (hsame : after.devices = db.devices) :
    ownDevices installId after = ownDevices installId db := by
  rw [ownDevices, ownDevices, hsame]

/-- Another time and another store with the same rows of the installation. -/
theorem Consistent.of_rows (hconsistent : Consistent s) {clock : ℕ} {after : Db}
    (hrows : ownDevices s.phone.installId after =
      ownDevices s.phone.installId s.db) :
    Consistent { s with clock := clock, db := after } := by
  have hregistered : ∀ keyId, Registered s keyId →
      Registered { s with clock := clock, db := after } keyId := by
    rintro keyId ⟨row, hrow, hdid, hkey⟩
    exact ⟨row, hrows ▸ hrow, hdid, hkey⟩
  obtain ⟨hkeyed, hrounds, htracked⟩ := hconsistent
  refine ⟨hrows ▸ hkeyed, ⟨hrounds.distinct, hrounds.below, hrounds.proc⟩,
    ⟨htracked.pending, ?_, htracked.registering⟩⟩
  intro keyId hkeyId
  exact (htracked.held keyId hkeyId).imp_left (hregistered keyId)

section Change

variable {id : ℕ} {change : Device → Device}

theorem ownDevices_changeDevice {installId : String} {db : Db}
    (hkeep : ∀ device, (change device).installId = device.installId) :
    ownDevices installId (changeDevice id change db) =
      updateWhere (fun device => device.id == id) change
        (ownDevices installId db) := by
  rw [ownDevices, ownDevices, changeDevice, updateWhere, List.filter_map]
  congr 1
  apply List.filter_congr
  intro device _
  simp only [Function.comp_apply]
  split_ifs
  · rw [hkeep]
  · rfl

/-- The columns that identify the rows of an installation. -/
structure KeepsIdentity (change : Device → Device) : Prop where
  id : ∀ device, (change device).id = device.id
  userId : ∀ device, (change device).userId = device.userId
  installId : ∀ device, (change device).installId = device.installId

/-- A change of one device keeps the rows and the one that the token names. -/
theorem Keyed.updateWhere {rows : List Device} {token : Option AccessToken}
    (hkeyed : Keyed rows token) (hkeep : KeepsIdentity change)
    (selected : Device → Bool) :
    Keyed (Table.updateWhere selected change rows) token := by
  refine ⟨?_, ?_, fun claims hclaims => ?_⟩
  · rw [map_updateWhere hkeep.id]
    exact hkeyed.ids
  · rw [map_updateWhere hkeep.userId]
    exact hkeyed.users
  · obtain ⟨row, hrow, huser, hdid⟩ := hkeyed.named claims hclaims
    refine ⟨_, mem_updateWhere.mpr ⟨row, hrow, rfl⟩, ?_, ?_⟩
    · split_ifs
      · exact (hkeep.userId row).trans huser
      · exact huser
    · split_ifs
      · exact hdid.trans (congrArg some (hkeep.id row).symm)
      · exact hdid

/-- A change that keeps the key keeps the registration. -/
theorem Registered.changeDevice {keyId : String}
    (hregistered : Registered s keyId) (hkeep : KeepsIdentity change)
    (hkey : ∀ device, (change device).appAttestKeyId = device.appAttestKeyId ∧
      (change device).appAttestPublicKey = device.appAttestPublicKey) :
    Registered { s with db := AttestService.changeDevice id change s.db }
      keyId := by
  obtain ⟨row, hrow, hdid, hkeyId, hpublic⟩ := hregistered
  have hrows := @ownDevices_changeDevice id change s.phone.installId s.db
    hkeep.installId
  refine ⟨_, hrows ▸ mem_updateWhere.mpr ⟨row, hrow, rfl⟩, ?_⟩
  split_ifs
  · rw [hkeep.id, (hkey row).1, (hkey row).2]
    exact ⟨hdid, hkeyId, hpublic⟩
  · exact ⟨hdid, hkeyId, hpublic⟩

end Change

/-! ## Signing in -/

section SignIn

variable {db after : Db} {input : DeviceInput} {draw : AuthDraw}
variable {auth : AuthConfig} {now : ℕ}

/-- A sign-in finds the installation's row of the account or adds it. -/
inductive SignsIn (input : DeviceInput) (devices : List Device)
    (token : AccessToken) : List Device → Prop
  | known {row : Device} : row ∈ devices → row.userId = token.sub →
      row.installId = input.installId → token.did = some row.id →
      SignsIn input devices token devices
  | added {row : Device} : (∀ other ∈ devices, other.id ≠ row.id) →
      (∀ other ∈ devices, other.userId = token.sub →
        other.installId ≠ input.installId) →
      row.userId = token.sub → row.installId = input.installId →
      token.did = some row.id → SignsIn input devices token (devices ++ [row])

theorem devices_of_insertDevice {device : Device} {id : ℕ}
    (hok : insertDevice device db = .ok (id, after)) :
    id = device.id ∧ after.devices = db.devices ++ [device] ∧
      (∀ other ∈ db.devices, other.id ≠ device.id) ∧
      ∀ other ∈ db.devices, other.userId = device.userId →
        other.installId ≠ device.installId := by
  simp only [insertDevice, bind_ok, get_ok, require_ok, modify_ok, pure_ok,
    Bool.not_eq_eq_eq_not, Bool.not_true, List.any_eq_false, Bool.and_eq_true,
    beq_iff_eq, not_and] at hok
  obtain ⟨_, _, ⟨rfl, rfl⟩, _, _, ⟨hid, rfl⟩, _, _, ⟨hfree, rfl⟩,
    _, _, ⟨-, rfl⟩, _, _, rfl, hresult, rfl⟩ := hok
  exact ⟨hresult.symm, rfl, hid, hfree⟩

theorem signsIn_of_insertDevice {userId id : ℕ}
    (hok : insertDevice (newDevice userId input draw) db = .ok (id, after)) :
    SignsIn input db.devices ⟨userId, some id⟩ after.devices := by
  obtain ⟨rfl, hafter, hid, hfree⟩ := devices_of_insertDevice hok
  rw [hafter]
  exact .added hid hfree rfl rfl rfl

theorem signsIn_of_findOrCreateDevice {userId id : ℕ}
    (hok : findOrCreateDevice userId input draw db = .ok (id, after)) :
    SignsIn input db.devices ⟨userId, some id⟩ after.devices := by
  simp only [findOrCreateDevice, bind_ok, get_ok] at hok
  obtain ⟨_, _, ⟨rfl, rfl⟩, hok⟩ := hok
  cases hdevice : db.devices.find? fun device =>
      device.userId == userId && device.installId == input.installId with
  | some device =>
      simp only [hdevice, pure_ok] at hok
      obtain ⟨rfl, rfl⟩ := hok
      have hfound := List.find?_some hdevice
      simp only [Bool.and_eq_true, beq_iff_eq] at hfound
      exact .known (List.mem_of_find?_eq_some hdevice) hfound.1 hfound.2 rfl
  | none =>
      simp only [hdevice] at hok
      exact signsIn_of_insertDevice hok

theorem devices_of_issueRefresh {userId : ℕ} {deviceId rotatedFrom : Option ℕ}
    {familyId : ℕ} {raw : String}
    (hok : issueRefresh auth now userId deviceId familyId rotatedFrom draw db =
      .ok (raw, after)) : after.devices = db.devices := by
  simp only [issueRefresh, insertRefreshToken, bind_ok, get_ok, require_ok,
    modify_ok, pure_ok] at hok
  obtain ⟨_, _, ⟨_, _, ⟨rfl, rfl⟩, _, _, ⟨-, rfl⟩, _, _, ⟨-, rfl⟩, _, _,
    ⟨-, rfl⟩, _, _, ⟨-, rfl⟩, _, _, ⟨-, rfl⟩, _, _, rfl, -, rfl⟩, -, rfl⟩ := hok
  rfl

/-- What an answered sign-in does to the rows of the devices. -/
def Answered (input : DeviceInput) (db : Db)
    (outcome : Except Failure TokenPair × Db) : Prop :=
  match outcome with
  | (.ok pair, after) => SignsIn input db.devices pair.accessToken after.devices
  | (.error _, after) => after.devices = db.devices

theorem answered_anon :
    Answered input db (withTransaction (anon auth now input draw) db) := by
  cases hrun : withTransaction (anon auth now input draw) db with
  | mk result after =>
      cases result with
      | error failure => exact withTransaction_error hrun ▸ rfl
      | ok answer =>
          have hok := withTransaction_ok hrun
          simp only [anon, insertUser, bind_ok, get_ok, require_ok, modify_ok,
            pure_ok] at hok
          obtain ⟨userId, _, ⟨_, _, ⟨rfl, rfl⟩, _, _, ⟨-, rfl⟩, _, _, rfl, -,
            rfl⟩, id, _, hdevice, _, _, hissue, rfl, rfl⟩ := hok
          have hsigned := signsIn_of_insertDevice hdevice
          rwa [← devices_of_issueRefresh hissue] at hsigned

theorem answered_login {email password : String} :
    Answered input db (login auth now email password input draw db) := by
  rw [login]
  cases findByEmail auth (auth.toLowerCase email) db with
  | none => exact rfl
  | some user =>
      simp only
      split_ifs with hlocked hpassword
      · exact rfl
      · cases hrun : withTransaction
            (loginTransaction auth now user.id input draw) db with
        | mk result after =>
            cases result with
            | error failure => exact withTransaction_error hrun ▸ rfl
            | ok answer =>
                have hok := withTransaction_ok hrun
                simp only [loginTransaction, updateUser, bind_ok, get_ok,
                  require_ok, modify_ok, pure_ok] at hok
                obtain ⟨_, _, ⟨rfl, rfl⟩, _, _, ⟨-, rfl⟩, _, _, rfl, id, _,
                  hdevice, _, _, hissue, rfl, rfl⟩ := hok
                have hsigned := signsIn_of_findOrCreateDevice hdevice
                rwa [← devices_of_issueRefresh hissue] at hsigned
      · exact rfl

end SignIn

/-! ## Signing in keeps the invariant -/

/-- Without a registration on its way a held key is registered. -/
theorem Consistent.registered (hconsistent : Consistent s)
    (hnone : ∀ request ∈ s.requests, registers request = none) {keyId : String}
    (hkeyId : s.phone.keyId = some keyId) : Registered s keyId := by
  rcases hconsistent.tracked.held keyId hkeyId with hdone |
    ⟨request, hrequest, hregisters⟩
  · exact hdone
  · rw [hnone request hrequest] at hregisters
    cases hregisters

/-- Only an app that waits for an answer has a registration on its way. -/
theorem Consistent.registers_none (hconsistent : Consistent s)
    (hcall : ∀ round, s.phone.call ≠ some (.verify round)) :
    ∀ request ∈ s.requests, registers request = none := by
  intro request hrequest
  cases hregisters : registers request with
  | none => rfl
  | some keyId =>
      exact absurd (hconsistent.tracked.pending request hrequest keyId
        hregisters).1 (hcall _)

theorem ownDevices_append {installId : String} {row : Device} {db after : Db}
    (hinstall : row.installId = installId)
    (hafter : after.devices = db.devices ++ [row]) :
    ownDevices installId after = ownDevices installId db ++ [row] := by
  simp [ownDevices, hafter, hinstall]

theorem mem_ownDevices {installId : String} {row : Device} {db : Db} :
    row ∈ ownDevices installId db ↔
      row ∈ db.devices ∧ row.installId = installId := by
  simp [ownDevices]

theorem Keyed.concat {rows : List Device} {token : Option AccessToken}
    (hkeyed : Keyed rows token) {row : Device} {claims : AccessToken}
    (hid : ∀ other ∈ rows, other.id ≠ row.id)
    (hfree : ∀ other ∈ rows, other.userId ≠ row.userId)
    (huser : row.userId = claims.sub) (hdid : claims.did = some row.id) :
    Keyed (rows ++ [row]) (some claims) := by
  refine ⟨?_, ?_, fun other hother => ?_⟩
  · rw [List.map_append, List.map_singleton, ← List.concat_eq_append]
    refine List.Nodup.concat (fun hmem => ?_) hkeyed.ids
    obtain ⟨other, hother, hsame⟩ := List.mem_map.mp hmem
    exact hid other hother hsame
  · rw [List.map_append, List.map_singleton, ← List.concat_eq_append]
    refine List.Nodup.concat (fun hmem => ?_) hkeyed.users
    obtain ⟨other, hother, hsame⟩ := List.mem_map.mp hmem
    exact hfree other hother hsame
  · obtain rfl := Option.some.inj hother
    exact ⟨row, List.mem_append_right _ (by simp), huser, hdid⟩

section SignIn

variable {token : AccessToken} {installId : String} {appVersion : Option String}
variable {platform : DevicePlatform} {db after : Db}

/-- The rows after a sign-in, and the one that the new token names. -/
theorem Keyed.signsIn {before : Option AccessToken}
    (hkeyed : Keyed (ownDevices installId db) before)
    (hsigned : SignsIn ⟨platform, installId, appVersion⟩ db.devices token
      after.devices) : Keyed (ownDevices installId after) (some token) := by
  generalize hafter : after.devices = devices at hsigned
  cases hsigned with
  | @known row hrow huser hinstall hdid =>
      rw [ownDevices_congr hafter]
      refine ⟨hkeyed.ids, hkeyed.users, fun claims hclaims => ?_⟩
      obtain rfl := Option.some.inj hclaims
      exact ⟨row, mem_ownDevices.mpr ⟨hrow, hinstall⟩, huser, hdid⟩
  | @added row hid hfree huser hinstall hdid =>
      rw [ownDevices_append hinstall hafter]
      refine hkeyed.concat (fun other hother => ?_) (fun other hother => ?_)
        huser hdid
      · exact hid other (mem_ownDevices.mp hother).1
      · obtain ⟨hmem, hown⟩ := mem_ownDevices.mp hother
        exact fun hsame => hfree other hmem (hsame.trans huser) hown

/-- A sign-in to the same account finds the same row. -/
theorem Keyed.did_eq {before : AccessToken}
    (hkeyed : Keyed (ownDevices installId db) (some before))
    (hsigned : SignsIn ⟨platform, installId, appVersion⟩ db.devices token
      after.devices) (hsub : before.sub = token.sub) :
    token.did = before.did ∧ after.devices = db.devices := by
  obtain ⟨mine, hmine, huser, hdid⟩ := hkeyed.named before rfl
  generalize hafter : after.devices = devices at hsigned
  cases hsigned with
  | @known row hrow huser' hinstall hdid' =>
      have hsame : row = mine := eq_of_key hkeyed.users
        (mem_ownDevices.mpr ⟨hrow, hinstall⟩) hmine
        (huser'.trans (hsub.symm.trans huser.symm))
      rw [hsame] at hdid'
      exact ⟨hdid'.trans hdid.symm, rfl⟩
  | added hid hfree _ _ _ =>
      obtain ⟨hmem, hown⟩ := mem_ownDevices.mp hmine
      exact absurd hown (hfree mine hmem (huser.trans hsub))

end SignIn

theorem Consistent.signedIn (hconsistent : Consistent s)
    {outcome : Except Failure TokenPair × Db} {appVersion : Option String}
    (hanswered : Answered (s.deviceInput appVersion) s.db outcome)
    (hkeeps : KeepsAccount s outcome) : Consistent (s.signedIn outcome) := by
  obtain ⟨answer, after⟩ := outcome
  cases answer with
  | error failure => exact hconsistent.of_rows (ownDevices_congr hanswered)
  | ok pair =>
      have hkeyed : Keyed (ownDevices s.phone.installId after)
          (some pair.accessToken) := hconsistent.keyed.signsIn hanswered
      have hrounds : Rounds (s.signedIn (.ok pair, after)) :=
        ⟨hconsistent.rounds.distinct, hconsistent.rounds.below,
          hconsistent.rounds.proc⟩
      refine ⟨hkeyed, hrounds, ?_⟩
      have htracked := hconsistent.tracked
      rcases hkeeps pair rfl with hsame | hnone
      · obtain ⟨old, hold, hsub⟩ := Option.map_eq_some_iff.mp hsame
        obtain ⟨hdid, hdevices⟩ :=
          Keyed.did_eq (hold ▸ hconsistent.keyed) hanswered hsub
        have hdid' : (s.signedIn (.ok pair, after)).did = s.did := by
          simp [State.did, State.signedIn, hold, hdid]
        have hrows := @ownDevices_congr s.phone.installId _ _ hdevices
        refine ⟨fun request hrequest keyId hregisters => ?_, ?_, htracked.registering⟩
        · rw [hdid']
          exact htracked.pending request hrequest keyId hregisters
        · intro keyId hkeyId
          refine (htracked.held keyId hkeyId).imp_left ?_
          rintro ⟨row, hrow, hnamed, hkey⟩
          exact ⟨row, hrows ▸ hrow, hdid'.trans hnamed, hkey⟩
      · have hnokey : ∀ keyId, s.phone.keyId ≠ some keyId := by simp [hnone]
        refine ⟨fun request hrequest keyId hregisters => ?_, ?_, htracked.registering⟩
        · exact absurd (htracked.pending request hrequest keyId hregisters).2.1
            (hnokey keyId)
        · exact fun keyId hkeyId => absurd hkeyId (hnokey keyId)

/-! ## The app -/

/-- The bridge asserts with a stored key and registers a new one otherwise. -/
theorem pending_of_attest {isSupported : Bool} {hash : Option (List UInt8)}
    {stored : Option String} {pending : Pending}
    (hok : AttestationBridge.attest isSupported hash stored = .ok pending) :
    stored = none ∨ ∃ keyId hash, pending = .generateAssertion keyId hash := by
  cases stored with
  | none => exact Or.inl rfl
  | some keyId =>
      rw [AttestationBridge.attest] at hok
      split_ifs at hok
      split at hok
      · cases hok
      · rename_i hash _
        exact Or.inr ⟨keyId, hash, (Except.ok.inj hok).symm⟩

/-- What a completion does to the stored key id, and what it leads to. -/
inductive Completes (stored : Option String) :
    Pending → Option String → Continuation → Prop
  | keyed {hash : List UInt8} {keyId : String} :
      Completes stored (.generateKey hash) stored (.call (.attestKey keyId hash))
  | attested {hash : List UInt8} {keyId : String} {payload : IosAttestation} :
      payload.mode = .attest → payload.keyId = keyId →
      Completes stored (.attestKey keyId hash) (some keyId) (.result payload)
  | asserted {hash : List UInt8} {keyId : String} {payload : IosAttestation} :
      payload.mode = .assert →
      Completes stored (.generateAssertion keyId hash) stored (.result payload)
  | failed {pending : Pending} {kept : Option String} {error : FlutterError} :
      kept = stored ∨ kept = none → Completes stored pending kept (.error error)

theorem completes_of_complete {stored kept : Option String} {pending : Pending}
    {completion : Completion} {continuation : Continuation}
    (hcomplete : complete stored pending completion = some (kept, continuation)) :
    Completes stored pending kept continuation := by
  cases pending <;> cases completion <;>
    simp only [complete, Option.some.injEq, Prod.mk.injEq, reduceCtorEq] at hcomplete <;>
    obtain ⟨rfl, rfl⟩ := hcomplete
  case generateKey.key => exact .keyed
  case attestKey.object => exact .attested rfl rfl
  case generateAssertion.object => exact .asserted rfl
  case generateKey.failed => exact .failed (Or.inl rfl)
  case attestKey.failed => split_ifs <;> exact .failed (by simp)
  case generateAssertion.failed => split_ifs <;> exact .failed (by simp)

/-- The app goes on, or gives up, without a registration on its way. -/
theorem Consistent.call (hconsistent : Consistent s)
    (hnone : ∀ request ∈ s.requests, registers request = none)
    {kept : Option String} {call : Option Call}
    (hkept : kept = s.phone.keyId ∨ kept = none)
    (hcall : ∀ attempt pending, call = some (.native attempt pending) →
      kept = none ∨ ∃ keyId hash, pending = .generateAssertion keyId hash) :
    Consistent { s with phone := { s.phone with keyId := kept, call := call } } := by
  refine ⟨hconsistent.keyed, ⟨hconsistent.rounds.distinct,
    hconsistent.rounds.below, hconsistent.rounds.proc⟩, ?_, ?_, hcall⟩
  · intro request hrequest keyId hregisters
    simp [hnone request hrequest] at hregisters
  · intro keyId hkeyId
    rcases hkept with rfl | rfl
    · exact Or.inl (hconsistent.registered hnone hkeyId)
    · cases hkeyId

theorem Consistent.attest (hconsistent : Consistent s) {isSupported : Bool}
    {attempt : Attempt} {challenge : List UInt8}
    (hstep : s.attest cfg isSupported attempt challenge = some s') :
    Consistent s' := by
  rw [State.attest] at hstep
  cases hcall : s.phone.call with
  | some call => simp [hcall] at hstep
  | none =>
    cases hdid : s.did with
    | none => simp [hcall, hdid] at hstep
    | some did =>
      simp only [hcall, hdid] at hstep
      generalize some (AppAttestVerifier.clientDataHash _ _ _) = hash at hstep
      cases hbridge : AttestationBridge.attest isSupported hash s.phone.keyId with
      | error error =>
          simp only [hbridge, Option.some.injEq] at hstep
          exact hstep ▸ hconsistent
      | ok pending =>
          simp only [hbridge, Option.some.injEq] at hstep
          subst hstep
          have hnone := hconsistent.registers_none (by simp [hcall])
          apply hconsistent.call hnone (Or.inl rfl)
          intro _ _ heq
          simp only [Option.some.injEq, Call.native.injEq] at heq
          obtain ⟨rfl, rfl⟩ := heq
          exact pending_of_attest hbridge

/-- The post of an attestation. -/
theorem Consistent.post (hconsistent : Consistent s)
    (hnone : ∀ request ∈ s.requests, registers request = none)
    {kept : Option String} {attempt : Attempt} {did : ℕ} {payload : IosAttestation}
    (hdid : s.did = some did)
    (hkept : payload.mode = .attest ∧ kept = some payload.keyId ∨
      payload.mode = .assert ∧ kept = s.phone.keyId) :
    Consistent
      ({ s with phone := { s.phone with keyId := kept } }.post attempt did payload) := by
  have hregistered := @hconsistent.registered _ hnone
  obtain ⟨hkeyed, hrounds, htracked⟩ := hconsistent
  refine ⟨hkeyed, ⟨?_, ?_, ?_⟩, ?_, ?_, ?_⟩
  · simp only [State.post, List.map_append, List.map_singleton]
    rw [← List.concat_eq_append]
    refine List.Nodup.concat (fun hmem => ?_) hrounds.distinct
    obtain ⟨request, hrequest, hround⟩ := List.mem_map.mp hmem
    exact absurd hround (Nat.ne_of_lt (hrounds.below request hrequest))
  · intro request hrequest
    rcases List.mem_append.mp hrequest with hold | hnew
    · exact Nat.lt_succ_of_lt (hrounds.below request hold)
    · obtain rfl := List.mem_singleton.mp hnew
      exact Nat.lt_succ_self _
  · intro request hrequest proc hproc
    rcases List.mem_append.mp hrequest with hold | hnew
    · exact hrounds.proc request hold proc hproc
    · obtain rfl := List.mem_singleton.mp hnew
      cases hproc
  · intro request hrequest keyId hregisters
    rcases List.mem_append.mp hrequest with hold | hnew
    · simp [hnone request hold] at hregisters
    · obtain rfl := List.mem_singleton.mp hnew
      rcases hkept with ⟨hmode, rfl⟩ | ⟨hmode, -⟩
      · simp only [registers, hmode, if_true, Option.some.injEq] at hregisters
        exact ⟨rfl, congrArg some hregisters, hdid⟩
      · simp [registers, hmode] at hregisters
  · intro keyId hkeyId
    rcases hkept with ⟨hmode, rfl⟩ | ⟨-, rfl⟩
    · refine Or.inr ⟨_, List.mem_append_right _ (List.mem_singleton_self _), ?_⟩
      simp only [registers, hmode, if_true]
      exact hkeyId
    · exact Or.inl (hregistered hkeyId)
  · intro _ _ hcall
    simp [State.post] at hcall

theorem Consistent.complete (hconsistent : Consistent s) {completion : Completion}
    (hstep : s.complete completion = some s') : Consistent s' := by
  rw [State.complete] at hstep
  split at hstep
  · rename_i attempt pending did hcall hdid
    have hnone := hconsistent.registers_none (by simp [hcall])
    have hregistering := hconsistent.tracked.registering attempt pending hcall
    split at hstep
    · cases hstep
    · rename_i kept continuation hcomplete
      cases completes_of_complete hcomplete with
      | keyed =>
          obtain rfl := Option.some.inj hstep
          apply hconsistent.call hnone (Or.inl rfl)
          intro _ _ _
          exact Or.inl (hregistering.resolve_right (by simp))
      | attested hmode hkeyId =>
          obtain rfl := Option.some.inj hstep
          exact hconsistent.post hnone hdid (Or.inl ⟨hmode, congrArg some hkeyId.symm⟩)
      | asserted hmode =>
          obtain rfl := Option.some.inj hstep
          exact hconsistent.post hnone hdid (Or.inr ⟨hmode, rfl⟩)
      | failed hkept =>
          obtain rfl := Option.some.inj hstep
          exact hconsistent.call hnone hkept (by simp)
  · cases hstep

/-- The app has its answer, or gives up on a request that registers nothing. -/
theorem Consistent.settled (hconsistent : Consistent s)
    (hsmooth : ∀ request ∈ s.requests, registers request ≠ none →
      s.phone.call ≠ some (.verify request.round))
    (hstep : s.settle = some s') : Consistent s' := by
  rw [State.settle] at hstep
  split at hstep
  · obtain rfl := Option.some.inj hstep
    apply hconsistent.call ?_ (Or.inl rfl) (by simp)
    intro request hrequest
    cases hregisters : registers request with
    | none => rfl
    | some keyId =>
        exact absurd (hconsistent.tracked.pending request hrequest keyId
          hregisters).1 (hsmooth request hrequest (by simp [hregisters]))
  · cases hstep

/-! ## The server -/

/-- A change of one device that keeps its key. -/
theorem Consistent.changeDevice (hconsistent : Consistent s) {id : ℕ}
    {change : Device → Device} (hkeep : KeepsIdentity change)
    (hkey : ∀ device, (change device).appAttestKeyId = device.appAttestKeyId ∧
      (change device).appAttestPublicKey = device.appAttestPublicKey) :
    Consistent { s with db := AttestService.changeDevice id change s.db } := by
  obtain ⟨hkeyed, hrounds, htracked⟩ := hconsistent
  refine ⟨?_, ⟨hrounds.distinct, hrounds.below, hrounds.proc⟩,
    htracked.pending, ?_, htracked.registering⟩
  · rw [ownDevices_changeDevice hkeep.installId]
    exact hkeyed.updateWhere hkeep _
  · intro keyId hkeyId
    exact (htracked.held keyId hkeyId).imp_left fun hregistered =>
      hregistered.changeDevice hkeep hkey

/-- A request took a step, or one that registers nothing is gone. -/
theorem Consistent.settle (hconsistent : Consistent s) {i : ℕ} {request : Request}
    {next : Option Request} (hrequest : s.requests[i]? = some request)
    (hgone : next = none → registers request = none)
    (hnext : ∀ stepped, next = some stepped →
      stepped.round = request.round ∧ stepped.input = request.input ∧
        ∀ proc, stepped.proc = some proc → proc.input = request.input ∧
          ∀ payload challenge, proc.stage = .ios payload challenge →
            request.input.attestation = .ios payload) :
    Consistent { s with requests := Pool.settle s.requests i next } := by
  obtain ⟨hkeyed, hrounds, htracked⟩ := hconsistent
  have hmem := List.mem_of_getElem? hrequest
  have hregisters : ∀ stepped, next = some stepped →
      registers stepped = registers request := by
    intro stepped hstepped
    rw [registers, registers, (hnext stepped hstepped).2.1]
  refine ⟨hkeyed, ⟨?_, ?_, ?_⟩, ?_, ?_, htracked.registering⟩
  · exact hrounds.distinct.sublist (Pool.map_settle_sublist hrequest
      fun stepped hstepped => (hnext stepped hstepped).1)
  · intro other hother
    rcases Pool.mem_settle hother with hold | hnew
    · exact hrounds.below other hold
    · rw [(hnext other hnew).1]
      exact hrounds.below request hmem
  · intro other hother
    rcases Pool.mem_settle hother with hold | hnew
    · exact hrounds.proc other hold
    · rw [(hnext other hnew).2.1]
      exact (hnext other hnew).2.2
  · intro other hother keyId hkeyId
    rcases Pool.mem_settle hother with hold | hnew
    · exact htracked.pending other hold keyId hkeyId
    · rw [(hnext other hnew).1, (hnext other hnew).2.1]
      exact htracked.pending request hmem keyId (hregisters other hnew ▸ hkeyId)
  · intro keyId hkeyId
    refine (htracked.held keyId hkeyId).imp_right ?_
    rintro ⟨other, hother, hother'⟩
    rcases Pool.mem_settle_of_mem hrequest hother with rfl | hstays
    · cases hstepped : next with
      | none => simp [hgone hstepped] at hother'
      | some stepped =>
          exact ⟨stepped, Pool.mem_settle_next hrequest rfl,
            hregisters stepped hstepped ▸ hother'⟩
    · exact ⟨other, hstays, hother'⟩

theorem Consistent.erase (hconsistent : Consistent s) {i : ℕ}
    (hgone : ∀ request, s.requests[i]? = some request → registers request = none) :
    Consistent { s with requests := s.requests.eraseIdx i } := by
  cases hrequest : s.requests[i]? with
  | none =>
      rw [List.getElem?_eq_none_iff] at hrequest
      rw [List.eraseIdx_of_length_le hrequest]
      exact hconsistent
  | some request =>
      exact @Consistent.settle _ hconsistent i request none hrequest
        (fun _ => hgone request hrequest) (by simp)

section Serve

variable {i : ℕ} {request : Request}

/-- The row that the token names is the one the registration is for. -/
theorem Consistent.exists_row (hconsistent : Consistent s) {id : ℕ}
    (hdid : s.did = some id) :
    ∃ row ∈ ownDevices s.phone.installId s.db, row.id = id := by
  obtain ⟨claims, hclaims, hnamed⟩ := Option.bind_eq_some_iff.mp hdid
  obtain ⟨row, hrow, -, hrowId⟩ := hconsistent.keyed.named claims hclaims
  exact ⟨row, hrow, Option.some.inj (hrowId.symm.trans hnamed)⟩

/-- One registration is on its way at a time. -/
theorem Consistent.registers_none_of_erase (hconsistent : Consistent s)
    (hrequest : s.requests[i]? = some request) {keyId : String}
    (hregisters : registers request = some keyId) :
    ∀ other ∈ s.requests.eraseIdx i, registers other = none := by
  intro other hother
  cases hkey : registers other with
  | none => rfl
  | some otherKey =>
      have hmem := List.mem_of_getElem? hrequest
      have hwaits := (hconsistent.tracked.pending request hmem keyId hregisters).1
      have hwaits' := (hconsistent.tracked.pending other
        (List.mem_of_mem_eraseIdx hother) otherKey hkey).1
      rw [hwaits, Option.some.injEq, Call.verify.injEq] at hwaits'
      have hsame : request = other := eq_of_key hconsistent.rounds.distinct hmem
        (List.mem_of_mem_eraseIdx hother) hwaits'
      obtain ⟨j, hj, hget⟩ := List.mem_eraseIdx_iff_getElem?.mp hother
      have hi : i < s.requests.length := (List.getElem?_eq_some_iff.mp hrequest).1
      have hnodup := List.Nodup.of_map _ hconsistent.rounds.distinct
      exact absurd ((List.getElem?_inj hi hnodup).mp
        (hrequest.trans (hsame ▸ hget.symm))) hj.symm

/-- A registration that the server accepts. -/
theorem Consistent.register (hconsistent : Consistent s)
    (hrequest : s.requests[i]? = some request) {keyId : String}
    (hregisters : registers request = some keyId) {now : ℕ}
    {clientPubKey : List UInt8} {res : AppAttestVerifier.AttestationResult} :
    Consistent { s with
      db := AttestService.changeDevice request.input.deviceId
        (attested cfg.attest now clientPubKey ∘
          AttestService.registered keyId res) s.db
      requests := s.requests.eraseIdx i } := by
  have hnone := hconsistent.registers_none_of_erase hrequest hregisters
  obtain ⟨-, hkeyId, hdid⟩ := hconsistent.tracked.pending request
    (List.mem_of_getElem? hrequest) keyId hregisters
  obtain ⟨row, hrow, hrowId⟩ := hconsistent.exists_row hdid
  have hkeep : KeepsIdentity (attested cfg.attest now clientPubKey ∘
      AttestService.registered keyId res) := ⟨fun _ => rfl, fun _ => rfl, fun _ => rfl⟩
  have hrows := @ownDevices_changeDevice request.input.deviceId _
    s.phone.installId s.db hkeep.installId
  obtain ⟨hkeyed, hrounds, htracked⟩ := hconsistent
  refine ⟨hrows ▸ hkeyed.updateWhere hkeep _, ⟨?_, ?_, ?_⟩, ?_, ?_,
    htracked.registering⟩
  · exact hrounds.distinct.sublist ((List.eraseIdx_sublist _ _).map _)
  · exact fun other hother => hrounds.below other (List.mem_of_mem_eraseIdx hother)
  · exact fun other hother => hrounds.proc other (List.mem_of_mem_eraseIdx hother)
  · intro other hother otherKey hother'
    simp [hnone other hother] at hother'
  · intro otherKey hother
    obtain rfl := Option.some.inj (hkeyId.symm.trans hother)
    refine Or.inl ⟨_, hrows ▸ mem_updateWhere.mpr ⟨row, hrow, rfl⟩, ?_⟩
    rw [if_pos (by simpa using hrowId), hkeep.id, hrowId]
    exact ⟨hdid, rfl, rfl⟩

/-- The server takes up a request. -/
theorem Consistent.begin (hconsistent : Consistent s)
    (hrequest : s.requests[i]? = some request) (hproc : request.proc = none)
    (hsmooth : registers request ≠ none → GoesThrough cfg s request)
    (hstep : s.serve cfg i = some s') : Consistent s' := by
  simp only [State.serve, hrequest, hproc] at hstep
  cases hbegin : beginVerify s.clock request.input s.db with
  | mk result after =>
      cases result with
      | ok proc =>
          simp only [hbegin, Option.some.injEq] at hstep
          obtain ⟨-, challenge, hconsumed, rfl⟩ := beginVerify_ok.mp hbegin
          obtain ⟨row, -, -, -, -, rfl⟩ := consumeChallenge_ok.mp hconsumed
          have hsettled := @Consistent.settle _ hconsistent i request
            (some { request with
              proc := some ⟨request.input, stageOf challenge request.input.attestation⟩ })
            hrequest (by simp) (by
              rintro _ ⟨⟩
              refine ⟨rfl, rfl, ?_⟩
              rintro _ ⟨⟩
              refine ⟨rfl, fun payload other hstage => ?_⟩
              cases hkind : request.input.attestation with
              | android token => simp [stageOf, hkind] at hstage
              | ios payload => simp_all [stageOf])
          exact hstep ▸ hsettled.of_rows rfl
      | error failure =>
          simp only [hbegin, Option.some.injEq] at hstep
          obtain rfl := beginVerify_error hbegin
          refine hstep ▸ hconsistent.erase fun other hother => ?_
          obtain rfl := Option.some.inj (hrequest.symm.trans hother)
          by_contra hregisters
          have hgoes := hsmooth hregisters
          simp only [GoesThrough, hproc] at hgoes
          obtain ⟨hlength, row, hrow, hunused, htime⟩ := hgoes
          have hbegun := beginVerify_ok.mpr ⟨hlength, _,
            consumeChallenge_ok.mpr ⟨row, hrow, hunused, htime, rfl, rfl⟩, rfl⟩
          rw [hbegin] at hbegun
          cases hbegun

/-- What a registration that goes through leaves behind. -/
theorem GoesThrough.resume_ok {proc : AttestProc}
    (hgoes : GoesThrough cfg s request) (hproc : request.proc = some proc)
    {reply : PlayIntegrityVerifier.DecodeReply} :
    (∃ payload challenge, proc.stage = .ios payload challenge ∧
      payload.mode = .attest) ∧
    ∃ after, proc.resume cfg.attest s.clock reply s.db = (.done (.ok ()), after) := by
  simp only [GoesThrough, hproc] at hgoes
  cases hstage : proc.stage with
  | decode | persist => simp [hstage] at hgoes
  | ios payload challenge =>
      simp only [hstage] at hgoes
      obtain ⟨after, hok⟩ := verifyIos_of_registrable hgoes
      refine ⟨⟨payload, challenge, rfl, hgoes.mode⟩, after, ?_⟩
      simp [AttestProc.resume, hstage, withTransaction_of_ok hok]

/-- The server goes on with a request. -/
theorem Consistent.continue (hconsistent : Consistent s) {proc : AttestProc}
    (hrequest : s.requests[i]? = some request) (hproc : request.proc = some proc)
    (hsmooth : registers request ≠ none → GoesThrough cfg s request)
    (hstep : s.serve cfg i = some s') : Consistent s' := by
  have hmem := List.mem_of_getElem? hrequest
  obtain ⟨hinput, hstages⟩ := hconsistent.rounds.proc request hmem proc hproc
  have hgone : ∀ {after : Db}, registers request = none →
      Consistent { s with db := after } →
      Consistent { s with db := after, requests := s.requests.eraseIdx i } := by
    intro after hnone hafter
    apply hafter.erase
    intro other hother
    exact Option.some.inj (hrequest.symm.trans hother) ▸ hnone
  have hnone_of : (∀ payload challenge, proc.stage = .ios payload challenge →
      payload.mode ≠ .attest) → registers request = none := by
    intro hmode
    by_contra hregisters
    obtain ⟨⟨payload, challenge, hstage, hattest⟩, -⟩ :=
      @GoesThrough.resume_ok _ _ _ _ (hsmooth hregisters) hproc (.error none)
    exact hmode payload challenge hstage hattest
  have hresumes := @AttestProc.resumes cfg.attest s.clock s.db proc (.error none)
  simp only [State.serve, hrequest, hproc] at hstep
  cases hresume : proc.resume cfg.attest s.clock (.error none) s.db with
  | mk continued after =>
    rw [hresume] at hresumes
    cases hresumes with
    | decoded hstage hverified =>
        simp only [hresume, Option.some.injEq] at hstep
        subst hstep
        exact @Consistent.settle _ hconsistent i request (some _) hrequest (by simp)
          (by rintro _ ⟨⟩; exact ⟨rfl, rfl, by rintro _ ⟨⟩; exact ⟨hinput, by simp⟩⟩)
    | refused failure =>
        simp only [hresume, Option.some.injEq] at hstep
        subst hstep
        refine hgone ?_ hconsistent
        by_contra hregisters
        obtain ⟨-, after, hok⟩ :=
          @GoesThrough.resume_ok _ _ _ _ (hsmooth hregisters) hproc (.error none)
        rw [hok] at hresume
        cases hresume
    | persisted hstage =>
        simp only [hresume, Option.some.injEq] at hstep
        subst hstep
        refine hgone (hnone_of (by simp [hstage])) (hconsistent.changeDevice ?_ ?_)
        · exact ⟨fun _ => rfl, fun _ => rfl, fun _ => rfl⟩
        · exact fun _ => ⟨rfl, rfl⟩
    | @accepted payload challenge change hstage haccepted =>
        simp only [hresume, Option.some.injEq] at hstep
        subst hstep
        cases haccepted with
        | assert hmode =>
            refine hgone (hnone_of ?_) (hconsistent.changeDevice ?_ ?_)
            · intro other _ hother
              obtain ⟨rfl, -⟩ := VerifyStage.ios.inj (hstage.symm.trans hother)
              simp [hmode]
            · exact ⟨fun _ => rfl, fun _ => rfl, fun _ => rfl⟩
            · exact fun _ => ⟨rfl, rfl⟩
        | attest hmode =>
            rw [hinput]
            refine hconsistent.register hrequest ?_
            simp [registers, hstages payload challenge hstage, hmode]

end Serve

/-! ## Runs -/

theorem consistent_initial (hinit : IsInitial s) : Consistent s := by
  refine ⟨?_, ⟨?_, ?_, ?_⟩, ?_, ?_, ?_⟩
  · rw [hinit.devices, hinit.token]
    exact ⟨List.nodup_nil, List.nodup_nil, by simp⟩
  all_goals simp [hinit.requests, hinit.keyId, hinit.call]

theorem consistent_step (hconsistent : Consistent s) (hsmooth : Smooth cfg s act)
    (hstep : step cfg s act = some s') : Consistent s' := by
  cases act with
  | advance ms => exact Option.some.inj hstep ▸ hconsistent.of_rows rfl
  | login email password appVersion draw =>
      exact Option.some.inj hstep ▸ hconsistent.signedIn answered_login hsmooth
  | anon appVersion draw =>
      exact Option.some.inj hstep ▸ hconsistent.signedIn answered_anon hsmooth
  | challenge id bytes =>
      obtain rfl := Option.some.inj hstep
      rw [State.challenge]
      cases s.did with
      | none => exact hconsistent
      | some did =>
          apply hconsistent.of_rows
          cases hrun : withTransaction
              (createChallenge cfg.attest s.clock id did bytes) s.db with
          | mk result after =>
              cases result with
              | error failure => rw [withTransaction_error hrun]
              | ok result => rw [(createChallenge_ok (withTransaction_ok hrun)).2]; rfl
  | attest isSupported attempt challenge => exact hconsistent.attest hstep
  | complete completion => exact hconsistent.complete hstep
  | serve i =>
      cases hrequest : s.requests[i]? with
      | none => simp [step, State.serve, hrequest] at hstep
      | some request =>
          have hgoes := hsmooth request hrequest
          cases hproc : request.proc with
          | none => exact hconsistent.begin hrequest hproc hgoes hstep
          | some proc => exact hconsistent.continue hrequest hproc hgoes hstep
  | lose i => exact Option.some.inj hstep ▸ hconsistent.erase hsmooth
  | settle => exact hconsistent.settled hsmooth hstep
  | foreign after =>
      simp only [step] at hstep
      split_ifs at hstep with hrows
      exact Option.some.inj hstep ▸ hconsistent.of_rows hrows

/-- In a run whose registrations all go through, the server has every key that
the app would assert with. -/
theorem registration_agreement {start last : State}
    (hinit : (registration cfg).init start)
    (hrun : Run (registration cfg) start trace last)
    (hsmooth : ∀ entry ∈ trace, Smooth cfg entry.1 entry.2) :
    Always Agreement trace last := by
  have halways : Always Consistent trace last :=
    hrun.always_of_guard (consistent_initial hinit)
      (fun _ _ _ => consistent_step) hsmooth
  exact ⟨fun entry hentry => (halways.1 entry hentry).agreement,
    halways.2.agreement⟩

/-! ## One registration -/

/-- The sum of the bytes stands for the hash. -/
def byteSum (bytes : List UInt8) : List UInt8 :=
  List.replicate 31 0 ++ [bytes.foldl (· + ·) 0]

def phoneKey : List UInt8 := List.replicate 32 7

def serverBytes : Random.Bytes := fun i => i.toUInt8

/-- `authData` of a fresh key of the app. -/
def freshAuthData : List UInt8 :=
  byteSum (WebText.utf8Encode "TEAM.app") ++ [0x40, 0, 0, 0, 0] ++
    AppAttestVerifier.aaguidProd ++ [0, 0]

def phoneNonce : List UInt8 :=
  byteSum (freshAuthData ++ byteSum (phoneKey ++ challengeBytes serverBytes))

def phoneLeaf : AppAttestVerifier.Certificate where
  publicKey := [4]
  appleNonce := some ([0x30, 36, 0xa1, 34, 0x04, 0x20] ++ phoneNonce)
  ca := none

/-- Certificates `[1]` and `[2]` and the attestation `[3]`. -/
def smallApple : AppAttestVerifier.AppleCrypto where
  sha256 := byteSum
  fromBase64 text := (Base64.decode text.toList).getD []
  decodeAttestation bytes :=
    if bytes = [3] then
      some ⟨some "apple-appattest", some [[1], [2]], some freshAuthData⟩
    else none
  decodeAssertion _ := none
  certificate bytes :=
    if bytes = [1] then some phoneLeaf
    else if bytes = [2] then some ⟨[5], none, some true⟩
    else none
  chainOk _ _ _ := true
  uncompressedPoint key := some key
  verifySignature _ _ _ := none

def smallConfig : Config where
  auth :=
    { hashRefresh := fun raw => raw.toList.map fun char => char.toNat.toUInt8
      argonHash := id
      argonVerify := fun hash password => hash == password
      toLowerCase := String.toLower
      citext := String.toLower }
  attest :=
    { play := { androidPackageName := "app" }
      apple := { appleTeamId := "TEAM", appleBundleId := "app" }
      appleCrypto := smallApple
      stringify := fun _ => "" }

def phoneKeyId : String := String.ofList (Base64.encode (byteSum [4]))

/-- An anonymous account, and an attestation up to its verify request. -/
def toVerify : List Action :=
  [.anon none ⟨1, 1, 1, 1, serverBytes⟩, .challenge 1 serverBytes,
    .attest true ⟨1, phoneKey⟩ (challengeBytes serverBytes),
    .complete (.key phoneKeyId),
    .complete (.object (String.ofList (Base64.encode [3])))]

def newPhone : State := { phone := { installId := "phone" } }

theorem newPhone_initial : IsInitial newPhone := ⟨rfl, rfl, rfl, rfl, rfl⟩

instance (keyId : String) : Decidable (Registered s keyId) := by
  rw [Registered]
  infer_instance

/-- A registration that goes through. -/
theorem registration_agreement_registered : ∃ trace last,
    Run (registration smallConfig) newPhone trace last ∧
      Always Agreement trace last ∧ nextAssertion last = some phoneKeyId := by
  obtain ⟨last, hrun, hnext⟩ :=
    @exists_run_with _ _ (registration smallConfig) newPhone
      (toVerify ++ [.serve 0, .serve 0, .settle])
      (fun last => nextAssertion last = some phoneKeyId) _ (by decide +kernel)
  exact ⟨_, last, hrun, registration_agreement newPhone_initial hrun
    (by decide +kernel), hnext⟩

/-- The verify request is lost: the app asserts with a key that the server has
never seen. -/
theorem registration_disagreement : ∃ trace last,
    Run (registration smallConfig) newPhone trace last ∧ ¬ Agreement last := by
  obtain ⟨last, hrun, hnext, hunknown⟩ :=
    @exists_run_with _ _ (registration smallConfig) newPhone
      (toVerify ++ [.lose 0, .settle])
      (fun last => nextAssertion last = some phoneKeyId ∧
        ¬ Registered last phoneKeyId) _ (by decide +kernel)
  exact ⟨_, last, hrun, fun hagree => hunknown (hagree _ hnext)⟩

end VpnMiddleware.KeyRegistration
