import VpnMiddleware.Auth.AuthService
import VpnMiddleware.Client.AttestationBridge
import VpnMiddleware.Core.TransitionSystem

/-!
# One installation and the attestation server

An installation of the iOS app logs in, attests and waits for the answer of
its verify request; the request may be lost, be handled late or be refused.
Whatever else the server does leaves the rows of this installation alone.
-/

namespace VpnMiddleware.Registration

open VpnMiddleware.Schema VpnMiddleware.Errors VpnMiddleware.Database
open VpnMiddleware.Transaction VpnMiddleware.TransitionSystem
open VpnMiddleware.AuthService VpnMiddleware.AttestService
open VpnMiddleware.AttestationBridge

/-- The request that an attestation is for. -/
structure Attempt where
  challengeId : ℕ
  clientPubKey : List UInt8
  deriving DecidableEq, Repr

/-- What the app is doing about its attestation. -/
inductive Call
  | native (attempt : Attempt) (pending : Pending)
  /-- It waits for the answer to its verify request. -/
  | verify (round : ℕ)
  deriving DecidableEq, Repr

structure Phone where
  installId : String
  token : Option AccessToken := none
  /-- `UserDefaults`. -/
  keyId : Option String := none
  call : Option Call := none
  deriving DecidableEq, Repr

/-- A verify request on its way, or taken up by the server. -/
structure Request where
  round : ℕ
  input : VerifyInput
  proc : Option AttestProc := none
  deriving DecidableEq, Repr

structure State where
  db : Db := {}
  clock : ℕ := 0
  phone : Phone
  requests : List Request := []
  rounds : ℕ := 0

/-- The rows of the installation. -/
def ownDevices (installId : String) (db : Db) : List Device :=
  db.devices.filter fun device => device.installId == installId

inductive Action
  | advance (ms : ℕ)
  | login (email password : String) (appVersion : Option String)
      (draw : AuthDraw)
  | anon (appVersion : Option String) (draw : AuthDraw)
  | challenge (id : ℕ) (bytes : Random.Bytes)
  | attest (isSupported : Bool) (attempt : Attempt) (challenge : List UInt8)
  | complete (completion : Completion)
  /-- The server takes the next step of a request. -/
  | serve (i : ℕ)
  | lose (i : ℕ)
  /-- The app has its answer, or gives up. -/
  | settle
  | foreign (after : Db)

structure Config where
  auth : AuthConfig
  attest : AttestConfig

variable (cfg : Config)

namespace State

variable (s : State)

/-- The device that the app's token names. -/
def did : Option ℕ := s.phone.token.bind AccessToken.did

def deviceInput (appVersion : Option String) : DeviceInput :=
  ⟨.ios, s.phone.installId, appVersion⟩

/-- The app stores the token pair of a successful answer. -/
def signedIn (outcome : Except Failure TokenPair × Db) : State :=
  match outcome with
  | (.ok pair, after) =>
      { s with db := after
               phone := { s.phone with token := some pair.accessToken } }
  | (.error _, after) => { s with db := after }

def login (email password : String) (appVersion : Option String)
    (draw : AuthDraw) : State :=
  s.signedIn (AuthService.login cfg.auth s.clock email password
    (s.deviceInput appVersion) draw s.db)

def anon (appVersion : Option String) (draw : AuthDraw) : State :=
  s.signedIn (withTransaction (AuthService.anon cfg.auth s.clock
    (s.deviceInput appVersion) draw) s.db)

/-- `POST /device/attest/challenge` for the app's device. -/
def challenge (id : ℕ) (bytes : Random.Bytes) : State :=
  match s.did with
  | none => s
  | some did =>
      { s with
        db := (withTransaction (createChallenge cfg.attest s.clock id did bytes)
          s.db).2 }

/-- An attestation starts; one runs at a time. -/
def attest (isSupported : Bool) (attempt : Attempt) (challenge : List UInt8) :
    Option State :=
  match s.phone.call, s.did with
  | none, some _ =>
      let hash := AppAttestVerifier.clientDataHash cfg.attest.appleCrypto
        attempt.clientPubKey challenge
      match AttestationBridge.attest isSupported (some hash) s.phone.keyId with
      | .ok pending =>
          some { s with phone := { s.phone with
            call := some (.native attempt pending) } }
      | .error _ => some s
  | _, _ => none

/-- The app posts the attestation to the server. -/
def post (attempt : Attempt) (did : ℕ) (payload : IosAttestation) : State :=
  { s with
    phone := { s.phone with call := some (.verify s.rounds) }
    requests := s.requests ++
      [{ round := s.rounds
         input := ⟨did, attempt.challengeId, attempt.clientPubKey, .ios payload⟩ }]
    rounds := s.rounds + 1 }

def complete (completion : Completion) : Option State :=
  match s.phone.call, s.did with
  | some (.native attempt pending), some did =>
      match AttestationBridge.complete s.phone.keyId pending completion with
      | none => none
      | some (keyId, continuation) =>
          let s' := { s with phone := { s.phone with keyId := keyId } }
          match continuation with
          | .call pending =>
              some { s' with phone := { s'.phone with
                call := some (.native attempt pending) } }
          | .result payload => some (s'.post attempt did payload)
          | .error _ => some { s' with phone := { s'.phone with call := none } }
  | _, _ => none

/-- One step of the server; a refused or finished request is gone. -/
def serve (i : ℕ) : Option State :=
  match s.requests[i]? with
  | none => none
  | some request =>
      match request.proc with
      | none =>
          match beginVerify s.clock request.input s.db with
          | (.ok proc, after) =>
              some { s with
                db := after
                requests := s.requests.set i { request with proc := some proc } }
          | (.error _, after) =>
              some { s with db := after, requests := s.requests.eraseIdx i }
      | some proc =>
          match proc.resume cfg.attest s.clock (.error none) s.db with
          | (.next proc, after) =>
              some { s with
                db := after
                requests := s.requests.set i { request with proc := some proc } }
          | (.done _, after) =>
              some { s with db := after, requests := s.requests.eraseIdx i }

def settle : Option State :=
  match s.phone.call with
  | some (.verify _) => some { s with phone := { s.phone with call := none } }
  | _ => none

end State

def step (s : State) : Action → Option State
  | .advance ms => some { s with clock := s.clock + ms }
  | .login email password appVersion draw =>
      some (s.login cfg email password appVersion draw)
  | .anon appVersion draw => some (s.anon cfg appVersion draw)
  | .challenge id bytes => some (s.challenge cfg id bytes)
  | .attest isSupported attempt challenge =>
      s.attest cfg isSupported attempt challenge
  | .complete completion => s.complete completion
  | .serve i => s.serve cfg i
  | .lose i => some { s with requests := s.requests.eraseIdx i }
  | .settle => s.settle
  | .foreign after =>
      if ownDevices s.phone.installId after = ownDevices s.phone.installId s.db then
        some { s with db := after }
      else none

/-- A fresh installation that no row of the server knows. -/
structure IsInitial (s : State) : Prop where
  token : s.phone.token = none
  keyId : s.phone.keyId = none
  call : s.phone.call = none
  requests : s.requests = []
  devices : ownDevices s.phone.installId s.db = []

def registration : System State Action where
  init := IsInitial
  step := step cfg

end VpnMiddleware.Registration
