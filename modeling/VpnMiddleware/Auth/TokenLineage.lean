import VpnMiddleware.Attest.AttestedGuard
import VpnMiddleware.Auth.AuthSystem
import VpnMiddleware.Auth.LoginFlow

/-!
# Access tokens and the principals they name

Every access token is signed for a user and a device.  Tokens of administrators
name no device; their `did` claim is the nil UUID.  The system runs the requests
of the identity service, with password logins in two steps, beside updates of
the device columns that attestation writes.
-/

namespace VpnMiddleware.TokenLineage

open VpnMiddleware.Schema VpnMiddleware.Errors VpnMiddleware.Table
open VpnMiddleware.AuthService VpnMiddleware.LoginFlow
open VpnMiddleware.TransitionSystem

/-- `ADMIN_DID`: the nil UUID. -/
def adminDid : ℕ := 0

structure AccessClaims where
  sub : ℕ
  did : ℕ
  deriving DecidableEq, Repr

/-- `signAccess(userId, deviceId ?? ADMIN_DID)`. -/
def signAccess (token : AccessToken) : AccessClaims :=
  ⟨token.sub, token.did.getD adminDid⟩

structure AuthUser where
  userId : ℕ
  deviceId : ℕ
  deriving DecidableEq, Repr

/-- `request.user`, as `JwtAuthGuard` attaches it. -/
def authUser (claims : AccessClaims) : AuthUser := ⟨claims.sub, claims.did⟩

/-- A device update that leaves its id and its owner alone. -/
structure DeviceChange where
  change : Device → Device
  id : ∀ device, (change device).id = device.id
  userId : ∀ device, (change device).userId = device.userId

inductive Action
  | request (act : AuthSystem.Action)
  | login (act : LoginFlow.Action)
  | setDevice (deviceId : ℕ) (change : DeviceChange)

/-- `gen_random_uuid()` draws version-4 ids, so never the nil UUID. -/
def isFreshDraw (db : Db) (draw : AuthDraw) : Bool :=
  AuthSystem.isFreshFamily db draw && draw.deviceId != adminDid

/-- The draw of the statement that completes a login. -/
def finishDraw : LoginFlow.Action → Option AuthDraw
  | .finish _ draw => some draw
  | .advance _ | .request _ => none

/-- An action with the answer that it sends to a client. -/
def perform (cfg : AuthConfig) (s : State) :
    Action → Option (State × Option (Except Failure TokenPair))
  | .request act =>
      if (AuthSystem.newFamily act).all (isFreshDraw s.db) then
        let outcome := AuthSystem.perform cfg ⟨s.db, s.clock⟩ act
        some ({ s with db := outcome.2.db, clock := outcome.2.clock }, outcome.1)
      else none
  | .login act =>
      if (finishDraw act).all (isFreshDraw s.db) then LoginFlow.perform cfg s act
      else none
  | .setDevice deviceId change =>
      some ({ s with db := { s.db with
        devices := updateWhere (fun device => device.id == deviceId)
          change.change s.db.devices } }, none)

def step (cfg : AuthConfig) (s : State) (act : Action) : Option State :=
  (perform cfg s act).map Prod.fst

/-- No token has been issued and no login is in flight; devices have keys. -/
structure IsInitial (s : State) : Prop where
  tokens : s.db.refreshTokens = []
  logins : s.logins = []
  devices : (s.db.devices.map Device.id).Nodup
  notAdmin : ∀ device ∈ s.db.devices, device.id ≠ adminDid

def lineages (cfg : AuthConfig) : System State Action where
  init := IsInitial
  step := step cfg

end VpnMiddleware.TokenLineage
