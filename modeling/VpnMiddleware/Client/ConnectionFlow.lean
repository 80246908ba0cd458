import VpnMiddleware.Client.ConnectionModels
import VpnMiddleware.Core.TransitionSystem

/-!
# The app's connection flow

`ConnectionFlowController` as a state machine.  A run is cut at its awaits:
`inFlight` holds the await it is suspended at together with the locals that
are still needed, and a step resumes it with one reply.  `cancel`, further
`connect` calls and any number of `disconnect` calls come between the steps.
-/

namespace VpnMiddleware.ConnectionFlow

open VpnMiddleware.ConnectionModels VpnMiddleware.TransitionSystem

/-! ## Failures -/

inductive AdFailureKind
  | noFill | showFailed | dismissedEarly | timeout | unknown
  deriving DecidableEq, Repr

inductive VpnFailureKind
  | consentDenied | startFailed | alreadyRunning | coreCrash | unknown
  deriving DecidableEq, Repr

inductive AppFailure
  | network (message : String)
  | pinning (message : String)
  | api (message : String) (statusCode : ℕ) (code : Option String)
  | auth (message : String)
  | ad (message : String) (kind : AdFailureKind)
  | payload (message : String)
  | vpnEngine (message : String) (kind : VpnFailureKind)
  | provisioningExpired (message : String)
  deriving DecidableEq, Repr

/-- What an awaited call throws. -/
inductive Thrown
  | appFailure (failure : AppFailure)
  | other
  deriving DecidableEq, Repr

/-- The two catch clauses of `_runConnect`. -/
def Thrown.caught : Thrown → AppFailure
  | .appFailure failure => failure
  | .other => .network "Unexpected error."

/-! ## The state of the flow -/

inductive ConnectionPhase
  | idle | requestingGrant | showingAds | verifying | preparing | starting
  | connected | disconnecting | failed
  deriving DecidableEq, Repr

/-- `AppConfig.defaultRequiredAds`. -/
def defaultRequiredAds : ℕ := 2

structure ConnectionFlowState where
  phase : ConnectionPhase
  adsWatched : ℕ := 0
  adsRequired : ℕ := defaultRequiredAds
  expiresAt : Option ℕ := none
  failure : Option AppFailure := none
  deriving DecidableEq, Repr

def ConnectionFlowState.initial : ConnectionFlowState where
  phase := .idle

/-- The public half; the flow only passes the key pair on. -/
structure EphemeralSession where
  publicKeyBytes : List UInt8
  deriving DecidableEq, Repr

structure ConnectResult where
  response : ConnectResponse
  session : EphemeralSession
  deriving DecidableEq, Repr

inductive VpnConnectionState
  | disconnected | connecting | connected | disconnecting | reconnecting
  | error
  deriving DecidableEq, Repr

structure VpnStartRequest where
  sessionId : String
  singboxConfigJson : String
  hardExpiry : ℕ
  deriving DecidableEq, Repr

inductive EngineCommand
  | prepare
  | start (request : VpnStartRequest)
  | stop
  deriving DecidableEq, Repr

/-- What the controller does to the outside. -/
inductive Effect
  | emitted (state : ConnectionFlowState)
  | connectRequest
  | showRewarded (nonce userId : String)
  | verifyRequest (grantId sessionId : String) (session : EphemeralSession)
  | command (sent : EngineCommand)
  | currentState
  | stateStream
  deriving DecidableEq, Repr

/-- The awaits of a run. -/
inductive Await
  | connect
  | showRewarded (grant : ConnectResult) (i : ℕ)
  | verify (grant : ConnectResult) (attempt : ℕ)
  | backoff (grant : ConnectResult) (attempt delay : ℕ)
  | prepare (grant : ConnectResult) (profile : VpnProfile)
  | start (profile : VpnProfile)
  | currentState (profile : VpnProfile)
  | stateStream (profile : VpnProfile)
  /-- `_settleError`; after a cancel there is no failure to show. -/
  | stopQuietly (failure : Option AppFailure)
  deriving DecidableEq, Repr

structure CancelToken where
  isCancelled : Bool
  deriving DecidableEq, Repr

structure Controller where
  userId : String
  state : ConnectionFlowState := .initial
  cancelled : Bool := false
  cancelToken : Option CancelToken := none
  inFlight : Option Await := none
  /-- The `disconnect` calls whose `stop` has not returned, with their
  `showClosingAd`. -/
  closing : List Bool := []
  effects : List Effect := []
  deriving DecidableEq, Repr

namespace Controller

def perform (c : Controller) (effect : Effect) : Controller :=
  { c with effects := c.effects ++ [effect] }

def emit (c : Controller) (state : ConnectionFlowState) : Controller :=
  { c with state := state }.perform (.emitted state)

def signalCancel (c : Controller) : Controller :=
  { c with
    cancelled := true
    cancelToken := c.cancelToken.map fun _ => ⟨true⟩ }

section Updates

variable {c : Controller} {effect : Effect} {state : ConnectionFlowState}

@[simp]
theorem perform_state : (c.perform effect).state = c.state := rfl

@[simp]
theorem perform_cancelled : (c.perform effect).cancelled = c.cancelled := rfl

@[simp]
theorem perform_inFlight : (c.perform effect).inFlight = c.inFlight := rfl

@[simp]
theorem perform_effects : (c.perform effect).effects = c.effects ++ [effect] := rfl

@[simp]
theorem emit_state : (c.emit state).state = state := rfl

@[simp]
theorem emit_cancelled : (c.emit state).cancelled = c.cancelled := rfl

@[simp]
theorem emit_inFlight : (c.emit state).inFlight = c.inFlight := rfl

@[simp]
theorem emit_effects :
    (c.emit state).effects = c.effects ++ [.emitted state] := rfl

@[simp]
theorem signalCancel_cancelled : c.signalCancel.cancelled = true := rfl

end Updates

end Controller

/-! ## Stretches of a run between two awaits

A throw keeps what the stretch has done so far. -/

abbrev Stretch := ExceptT AppFailure (StateM Controller)

def perform (effect : Effect) : Stretch Unit :=
  modify fun c => c.perform effect

/-- `_emit(_state.copyWith(...))`. -/
def emitWith (change : ConnectionFlowState → ConnectionFlowState) :
    Stretch Unit :=
  modify fun c => c.emit (change c.state)

/-- `_clockSkewGrace`, in milliseconds. -/
def clockSkewGrace : ℕ := 30000

def guardWindow (now deadline : ℕ) : Stretch Unit :=
  if deadline + clockSkewGrace < now then
    throw (.provisioningExpired "Time window expired — please reconnect.")
  else pure ()

def throwIfCancelled : Stretch Unit := do
  if (← get).cancelled then
    throw (.vpnEngine "Cancelled." .unknown)

/-- The head of the loop of `_verifyWithRetry`. -/
def requestVerify (now : ℕ) (grant : ConnectResult) (attempt : ℕ) :
    Stretch Await := do
  throwIfCancelled
  guardWindow now grant.response.provisioningExpiresAt
  perform (.verifyRequest grant.response.grantId grant.response.sessionId
    grant.session)
  return .verify grant attempt

/-- The head of the loop over the ads, and what follows it. -/
def showNextAd (now : ℕ) (grant : ConnectResult) (i : ℕ) : Stretch Await := do
  if i < grant.response.requiredAds then
    guardWindow now grant.response.provisioningExpiresAt
    throwIfCancelled
    perform (.showRewarded grant.response.nonce (← get).userId)
    return .showRewarded grant i
  else
    emitWith fun state => { state with phase := .verifying }
    requestVerify now grant 0

def afterConnect (now later : ℕ) (grant : ConnectResult) : Stretch Await := do
  guardWindow now grant.response.provisioningExpiresAt
  throwIfCancelled
  emitWith fun state =>
    { state with
      phase := .showingAds
      adsRequired := grant.response.requiredAds
      adsWatched := 0 }
  showNextAd later grant 0

def afterAd (now : ℕ) (grant : ConnectResult) (i : ℕ) (completed : Bool) :
    Stretch Await := do
  if completed then
    emitWith fun state => { state with adsWatched := i + 1 }
    showNextAd now grant (i + 1)
  else
    throw (.ad "Ad was not completed." .dismissedEarly)

def afterVerify (grant : ConnectResult) (profile : VpnProfile) :
    Stretch Await := do
  throwIfCancelled
  emitWith fun state => { state with phase := .preparing }
  perform (.command .prepare)
  return .prepare grant profile

def retryable : AppFailure → Bool
  | .api _ statusCode code =>
      statusCode == 409 && (code == some "ads_not_verified" || code == none)
  | _ => false

/-- The catch clause of `_verifyWithRetry`. -/
def afterVerifyThrow (grant : ConnectResult) (attempt : ℕ) (thrown : Thrown) :
    Stretch Await :=
  if retryable thrown.caught && decide (attempt < 6) then
    return .backoff grant (attempt + 1) (400 * 2 ^ attempt)
  else throw thrown.caught

def afterBackoff (now later : ℕ) (grant : ConnectResult) (attempt : ℕ) :
    Stretch Await := do
  throwIfCancelled
  guardWindow now grant.response.provisioningExpiresAt
  requestVerify later grant attempt

def afterPrepare (grant : ConnectResult) (profile : VpnProfile)
    (granted : Bool) : Stretch Await := do
  if granted then
    throwIfCancelled
    emitWith fun state => { state with phase := .starting }
    perform (.command (.start ⟨grant.response.sessionId,
      profile.singboxConfigJson, profile.expiresAt⟩))
    return .start profile
  else
    throw (.vpnEngine "VPN permission denied." .consentDenied)

/-- The entry of `_confirmTunnelUp`. -/
def afterStart (profile : VpnProfile) : Stretch Await := do
  perform .currentState
  return .currentState profile

/-- The end of the run once `_confirmTunnelUp` has returned. -/
def tunnelUp (profile : VpnProfile) : Stretch (Option Await) := do
  emitWith fun state =>
    { state with phase := .connected, expiresAt := some profile.expiresAt }
  return none

def afterCurrentState (profile : VpnProfile) (current : VpnConnectionState) :
    Stretch (Option Await) := do
  if current = .connected then
    tunnelUp profile
  else
    perform .stateStream
    return some (.stateStream profile)

/-- One event of the stream; `firstWhere` waits for `connected` or `error`. -/
def afterStreamed (profile : VpnProfile) :
    VpnConnectionState → Stretch (Option Await)
  | .connected => tunnelUp profile
  | .error => throw (.vpnEngine "Tunnel failed to come up." .startFailed)
  | _ => return some (.stateStream profile)

/-! ## Replies -/

inductive Reply
  | connectResult (result : ConnectResult)
  | presented (completed : Bool)
  | decrypted (profile : VpnProfile)
  | delayed
  | consent (granted : Bool)
  | started
  | current (state : VpnConnectionState)
  | streamed (state : VpnConnectionState)
  | streamTimeout
  | threw (thrown : Thrown)
  deriving DecidableEq, Repr

/-- The stretch from an await to the next one; `none` is a reply that the
awaited call does not give. -/
def stretch (now later : ℕ) : Await → Reply → Option (Stretch (Option Await))
  | .connect, .connectResult grant => some (some <$> afterConnect now later grant)
  | .showRewarded grant i, .presented completed =>
      some (some <$> afterAd now grant i completed)
  | .verify grant _, .decrypted profile =>
      some (some <$> afterVerify grant profile)
  | .verify grant attempt, .threw thrown =>
      some (some <$> afterVerifyThrow grant attempt thrown)
  | .backoff grant attempt _, .delayed =>
      some (some <$> afterBackoff now later grant attempt)
  | .prepare grant profile, .consent granted =>
      some (some <$> afterPrepare grant profile granted)
  | .start profile, .started => some (some <$> afterStart profile)
  | .currentState profile, .current state =>
      some (afterCurrentState profile state)
  | .stateStream profile, .streamed state => some (afterStreamed profile state)
  | .stateStream _, .streamTimeout =>
      some (throw (.vpnEngine "Tunnel did not connect in time." .startFailed))
  | .backoff .., .threw _ => none
  | .stopQuietly _, _ => none
  | _, .threw thrown => some (throw thrown.caught)
  | _, _ => none

namespace Controller

/-! ## The steps -/

/-- `_settleError` and `_failClosed` up to their `stop`. -/
def settleError (c : Controller) (failure : AppFailure) : Controller :=
  let settling := if c.cancelled then none else some failure
  { c.perform (.command .stop) with inFlight := some (.stopQuietly settling) }

/-- Run a stretch; what it throws is caught at the end of `_runConnect`. -/
def advance (c : Controller) (part : Stretch (Option Await)) : Controller :=
  match part.run.run c with
  | (.ok next, c') => { c' with inFlight := next }
  | (.error failure, c') => c'.settleError failure

/-- The end of `_settleError`. -/
def settled (c : Controller) : Option AppFailure → Controller
  | none => { c.emit .initial with inFlight := none }
  | some failure =>
      { c.emit { c.state with phase := .failed, failure := some failure } with
        inFlight := none }

/-- `connect`; a concurrent call joins the run in flight. -/
def connect (c : Controller) : Controller :=
  match c.inFlight with
  | some _ => c
  | none =>
      { ({ c with cancelled := false, cancelToken := some ⟨false⟩ }.emit
          { phase := .requestingGrant }).perform .connectRequest with
        inFlight := some .connect }

/-- The run gets the reply it waits for.  The clock is read at most twice
before the next await. -/
def resume (c : Controller) (now later : ℕ) (reply : Reply) :
    Option Controller :=
  match c.inFlight with
  | none => none
  | some (.stopQuietly failure) => some (c.settled failure)
  | some await => (stretch now later await reply).map c.advance

/-- `disconnect` up to its `stop`. -/
def disconnect (c : Controller) (showClosingAd : Bool) : Controller :=
  let c' := c.signalCancel
  { (c'.emit { c'.state with phase := .disconnecting }).perform
      (.command .stop) with closing := c.closing ++ [showClosingAd] }

def closingAdNonce : String := "closing-session-no-grant"

/-- The `finally` of `disconnect`. -/
def finishDisconnect (c : Controller) (showClosingAd : Bool) : Controller :=
  let c' := if showClosingAd then
    c.perform (.showRewarded closingAdNonce c.userId) else c
  c'.emit .initial

/-- The `stop` of the `i`th pending `disconnect` returns or throws. -/
def stopReturned (c : Controller) (i : ℕ) : Option Controller :=
  match c.closing[i]? with
  | none => none
  | some showClosingAd =>
      some ({ c with closing := c.closing.eraseIdx i }.finishDisconnect
        showClosingAd)

end Controller

inductive Action
  | connect
  | cancel
  | disconnect (showClosingAd : Bool)
  | resume (now later : ℕ) (reply : Reply)
  | stopReturned (i : ℕ)
  deriving DecidableEq, Repr

def step (c : Controller) : Action → Option Controller
  | .connect => some c.connect
  | .cancel => some c.signalCancel
  | .disconnect showClosingAd => some (c.disconnect showClosingAd)
  | .resume now later reply => c.resume now later reply
  | .stopReturned i => c.stopReturned i

/-- A controller for one user, from its construction on. -/
def flow (userId : String) : System Controller Action where
  init c := c = { userId := userId }
  step := step

end VpnMiddleware.ConnectionFlow
