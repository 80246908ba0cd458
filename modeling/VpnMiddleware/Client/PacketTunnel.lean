import Mathlib.Data.Int.Init
import Mathlib.Logic.Function.Basic
import VpnMiddleware.Core.TransitionSystem

/-!
# The iOS tunnel

The app and its network extension are two processes.  The app stores a config
in the shared Keychain and asks the system for a tunnel; the system starts the
extension's provider, which reads the config.  Each of the two may be killed.
-/

namespace VpnMiddleware.PacketTunnel

open VpnMiddleware.TransitionSystem

/-! ## The shared Keychain -/

/-- The entries of the service `app.securevpn.vpnconfig`, by session. -/
abbrev Keychain := String → Option String

namespace Keychain

def deleteConfig (keychain : Keychain) (sessionId : String) : Keychain :=
  Function.update keychain sessionId none

/-- Delete, then add; `added` is whether `SecItemAdd` succeeds. -/
def putConfig (keychain : Keychain) (json sessionId : String) (added : Bool) :
    Keychain :=
  if added then Function.update keychain sessionId (some json)
  else keychain.deleteConfig sessionId

end Keychain

/-! ## The app -/

/-- The code of a `FlutterError`. -/
inductive ErrorCode
  | badConfig | startFailed
  deriving DecidableEq, Repr

/-- What `start` waits for. -/
inductive StartStage
  | loadOrCreateManager | saveToPreferences | loadFromPreferences
  | returned (error : Option ErrorCode)
  /-- The app was killed meanwhile. -/
  | killed
  deriving DecidableEq, Repr

/-- A call of `start`. -/
structure StartCall where
  config : String
  sessionId : String
  hardExpiryEpochMs : ℤ
  stage : StartStage
  deriving DecidableEq, Repr

/-- The options of an accepted `startVPNTunnel`. -/
structure StartOptions where
  sessionId : String
  hardExpiryEpochMs : ℤ
  delivered : Bool := false
  deriving DecidableEq, Repr

/-! ## The extension -/

inductive TunnelError
  | missingSession | missingConfig | core
  deriving DecidableEq, Repr

/-- What `startTunnel` does next; `starting` has read this config. -/
inductive TunnelStage
  | readConfig
  | starting (config : String)
  | completed (error : Option TunnelError)
  deriving DecidableEq, Repr

/-- A `PacketTunnelProvider`; its box service is known by its config. -/
structure Provider where
  sessionId : Option String
  hardExpiryEpochMs : ℤ := 0
  boxService : Option String := none
  expiryTimer : Option ℤ := none
  stage : TunnelStage
  killed : Bool := false
  deriving DecidableEq, Repr

structure State where
  keychain : Keychain := fun _ => none
  starts : List StartCall := []
  requests : List StartOptions := []
  providers : List Provider := []
  now : ℕ := 0

namespace State

variable (s : State)

def deleteConfig (sessionId : String) : State :=
  { s with keychain := s.keychain.deleteConfig sessionId }

def putStart (i : ℕ) (call : StartCall) : State :=
  { s with starts := s.starts.set i call }

def putProvider (j : ℕ) (provider : Provider) : State :=
  { s with providers := s.providers.set j provider }

/-! ## Steps of the app -/

/-- `start(config:sessionId:hardExpiryEpochMs:result:)` up to the load of the
manager. -/
def start (config sessionId : String) (hardExpiryEpochMs : ℤ) (added : Bool) :
    State :=
  { s with
    keychain := s.keychain.putConfig config sessionId added
    starts := s.starts ++ [⟨config, sessionId, hardExpiryEpochMs,
      if added then .loadOrCreateManager else .returned (some .badConfig)⟩] }

/-- A `start` that fails deletes what it has stored. -/
def startFailed (i : ℕ) (call : StartCall) : State :=
  (s.deleteConfig call.sessionId).putStart i
    { call with stage := .returned (some .startFailed) }

/-- What a `start` waits for succeeds or fails; after the last wait it calls
`startVPNTunnel`, which may throw. -/
def startResumed (i : ℕ) (succeeded : Bool) : Option State :=
  match s.starts[i]? with
  | none => none
  | some call =>
      let next : StartStage → Option State := fun stage =>
        some (if succeeded then s.putStart i { call with stage := stage }
          else s.startFailed i call)
      match call.stage with
      | .loadOrCreateManager => next .saveToPreferences
      | .saveToPreferences => next .loadFromPreferences
      | .loadFromPreferences =>
          (next (.returned none)).map fun after =>
            if succeeded then { after with requests := after.requests ++
              [⟨call.sessionId, call.hardExpiryEpochMs, false⟩] }
            else after
      | _ => none

/-- The app is killed. -/
def appKilled : State :=
  { s with starts := s.starts.map fun call =>
    match call.stage with
    | .returned _ => call
    | _ => { call with stage := .killed } }

/-! ## Steps of the system and of the extension -/

/-- The system starts a provider with the options of a request. -/
def deliver (r : ℕ) : Option State :=
  match s.requests[r]? with
  | none => none
  | some options =>
      if options.delivered then none
      else some { s with
        requests := s.requests.set r { options with delivered := true }
        providers := s.providers ++ [{
          sessionId := some options.sessionId
          hardExpiryEpochMs := options.hardExpiryEpochMs
          stage := .readConfig }] }

/-- The user starts the tunnel outside of the app, without options. -/
def startedWithoutOptions : State :=
  { s with providers := s.providers ++ [{
      sessionId := none, stage := .completed (some .missingSession) }] }

/-- A provider whose process lives. -/
def alive (j : ℕ) : Option Provider :=
  s.providers[j]?.filter fun provider => !provider.killed

/-- `SharedKeychain.readConfig(sessionId:)`. -/
def configRead : Option String → TunnelStage
  | none => .completed (some .missingConfig)
  | some config => .starting config

def readConfig (j : ℕ) : Option State :=
  match s.alive j with
  | none => none
  | some provider =>
      match provider.stage, provider.sessionId with
      | .readConfig, some sessionId =>
          some (s.putProvider j
            { provider with stage := configRead (s.keychain sessionId) })
      | _, _ => none

/-- `scheduleHardExpiry`, for an expiry that is set. -/
def scheduled (provider : Provider) : Option ℤ :=
  if 0 < provider.hardExpiryEpochMs then some provider.hardExpiryEpochMs
  else provider.expiryTimer

/-- The core comes up, or the set-up, the config or its start is refused. -/
def coreStarted (j : ℕ) (started : Bool) : Option State :=
  match s.alive j with
  | none => none
  | some provider =>
      match provider.stage, provider.sessionId with
      | .starting config, some sessionId =>
          if started then
            some (s.putProvider j { provider with
              boxService := some config
              expiryTimer := scheduled provider
              stage := .completed none })
          else
            some ((s.deleteConfig sessionId).putProvider j
              { provider with stage := .completed (some .core) })
      | _, _ => none

def wipe : Option String → State
  | none => s
  | some sessionId => s.deleteConfig sessionId

def stopTunnel (j : ℕ) : Option State :=
  (s.alive j).map fun provider =>
    (s.wipe provider.sessionId).putProvider j
      { provider with expiryTimer := none, boxService := none }

/-- The event handler of the timer, which fires once. -/
def expiryFired (j : ℕ) : Option State :=
  match s.alive j with
  | none => none
  | some provider =>
      match provider.expiryTimer with
      | none => none
      | some due =>
          if (s.now : ℤ) < due then none
          else
            let after := s.putProvider j { provider with expiryTimer := none }
            some (if provider.boxService.isSome then after.wipe provider.sessionId
              else after)

def providerKilled (j : ℕ) : Option State :=
  (s.alive j).map fun provider => s.putProvider j { provider with killed := true }

end State

inductive Action
  | tick (ms : ℕ)
  | start (config sessionId : String) (hardExpiryEpochMs : ℤ) (added : Bool)
  | startResumed (i : ℕ) (succeeded : Bool)
  | appKilled
  | deliver (r : ℕ)
  | startedWithoutOptions
  | readConfig (j : ℕ)
  | coreStarted (j : ℕ) (started : Bool)
  | stopTunnel (j : ℕ)
  | expiryFired (j : ℕ)
  | providerKilled (j : ℕ)
  deriving DecidableEq, Repr

def step (s : State) : Action → Option State
  | .tick ms => some { s with now := s.now + ms }
  | .start config sessionId expiry added =>
      some (s.start config sessionId expiry added)
  | .startResumed i succeeded => s.startResumed i succeeded
  | .appKilled => some s.appKilled
  | .deliver r => s.deliver r
  | .startedWithoutOptions => some s.startedWithoutOptions
  | .readConfig j => s.readConfig j
  | .coreStarted j started => s.coreStarted j started
  | .stopTunnel j => s.stopTunnel j
  | .expiryFired j => s.expiryFired j
  | .providerKilled j => s.providerKilled j

def iosTunnel : System State Action where
  init s := s.keychain = (fun _ => none) ∧ s.starts = [] ∧ s.requests = [] ∧
    s.providers = []
  step := step

end VpnMiddleware.PacketTunnel
