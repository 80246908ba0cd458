import VpnMiddleware.Core.TransitionSystem
import Mathlib.Data.Int.Init
import Mathlib.Logic.Function.Basic

/-!
# The Android tunnel service

`SingBoxVpnService` and `VpnBus` in one process.  The main thread handles one
event at a time; every start intent adds a `singbox-start` thread whose steps
come in between.  Cores, service instances and start threads are numbered in
the order of their creation.
-/

namespace VpnMiddleware.TunnelService

open VpnMiddleware.TransitionSystem

/-! ## The process -/

/-- `VpnBus.State`. -/
inductive BusState
  | disconnected | connecting | connected | disconnecting | reconnecting
  | error
  deriving DecidableEq, Repr

structure VpnBus where
  currentState : BusState := .disconnected
  /-- Everything that `emitState` has published. -/
  emitted : List BusState := []
  deriving DecidableEq, Repr

/-- A `BoxService`, with the deadline of the start that made it. -/
structure Core where
  hardExpiryEpochMs : ℤ := 0
  running : Bool := false
  deriving DecidableEq, Repr

structure CommandClient where
  connected : Bool
  deriving DecidableEq, Repr

/-- The fields of an instance. -/
structure Service where
  box : Option ℕ := none
  commandClient : Option CommandClient := none
  tunFd : Option ℕ := none
  expiryRunnable : Option ℕ := none
  deriving DecidableEq, Repr

/-- What a start thread does next. -/
inductive Stage
  | newService
  | start (core : ℕ)
  | assignBox (core : ℕ)
  | startCommandClient (core : ℕ)
  | scheduleHardExpiry (core : ℕ)
  | emitConnected (core : ℕ)
  /-- The catch clause after its `emitState`. -/
  | stopSelfGracefully
  deriving DecidableEq, Repr

structure StartThread where
  service : ℕ
  hardExpiryEpochMs : ℤ
  stage : Stage
  deriving DecidableEq, Repr

/-- A posted runnable, named after the thread that posted it. -/
structure ExpiryRunnable where
  service : ℕ
  due : ℤ
  deriving DecidableEq, Repr

structure Process where
  bus : VpnBus := {}
  now : ℕ := 0
  cores : ℕ → Core := fun _ => {}
  nextCore : ℕ := 0
  services : ℕ → Service := fun _ => {}
  nextService : ℕ := 0
  /-- The instance that the system delivers events to. -/
  live : Option ℕ := none
  threads : ℕ → Option StartThread := fun _ => none
  nextThread : ℕ := 0
  posted : ℕ → Option ExpiryRunnable := fun _ => none

namespace Process

variable (p : Process)

def emitState (state : BusState) : Process :=
  { p with bus := ⟨state, p.bus.emitted ++ [state]⟩ }

def setService (v : ℕ) (service : Service) : Process :=
  { p with services := Function.update p.services v service }

def setStage (id : ℕ) (thread : StartThread) (stage : Stage) : Process :=
  { p with
    threads := Function.update p.threads id (some { thread with stage := stage }) }

/-- The thread `id` has ended. -/
def endThread (id : ℕ) : Process :=
  { p with threads := Function.update p.threads id none }

/-! ## Teardown -/

def removeCallbacks (posted : ℕ → Option ExpiryRunnable) :
    Option ℕ → ℕ → Option ExpiryRunnable
  | none => posted
  | some r => Function.update posted r none

def closeBox (cores : ℕ → Core) : Option ℕ → ℕ → Core
  | none => cores
  | some k => Function.update cores k { cores k with running := false }

/-- All four fields are released and cleared. -/
def teardown (v : ℕ) : Process :=
  { p with
    posted := removeCallbacks p.posted (p.services v).expiryRunnable
    cores := closeBox p.cores (p.services v).box
    services := Function.update p.services v {} }

def stopSelfGracefully (v : ℕ) : Process :=
  ((p.emitState .disconnecting).teardown v).emitState .disconnected

/-! ## Events of the main thread -/

/-- The instance that receives an intent; the system creates one if need be. -/
def receiver : ℕ × Process :=
  match p.live with
  | some v => (v, p)
  | none =>
      (p.nextService,
        { p with live := some p.nextService, nextService := p.nextService + 1 })

/-- `isNullOrBlank`. -/
def isNullOrBlank : Option String → Bool
  | none => true
  | some text => text.toList.all Char.isWhitespace

def startCore (v : ℕ) (hardExpiryEpochMs : ℤ) : Process :=
  let p' := p.emitState .connecting
  { p' with
    threads := Function.update p'.threads p'.nextThread
      (some ⟨v, hardExpiryEpochMs, .newService⟩)
    nextThread := p'.nextThread + 1 }

/-- `onStartCommand` for any action but `ACTION_STOP`.  A blank config only
asks the system to stop the service. -/
def onStart (config : Option String) (hardExpiryEpochMs : ℤ) : Process :=
  let (v, p') := p.receiver
  if isNullOrBlank config then p' else p'.startCore v hardExpiryEpochMs

/-- `onStartCommand` for `ACTION_STOP`. -/
def onStop : Process :=
  let (v, p') := p.receiver
  p'.stopSelfGracefully v

def onRevoke : Option Process :=
  p.live.map p.stopSelfGracefully

def onDestroy : Option Process :=
  p.live.map fun v => { p.teardown v with live := none }

/-- The main looper runs the runnable `r`. -/
def onExpiry (r : ℕ) : Option Process :=
  match p.posted r with
  | none => none
  | some runnable =>
      if runnable.due ≤ p.now then
        some ({ p with posted := removeCallbacks p.posted (some r) }.stopSelfGracefully
          runnable.service)
      else none

/-! ## Steps of a start thread -/

/-- How the libbox call of a step ends. -/
inductive Outcome
  | returned
  /-- `start()` came back; `openTun` gave it this descriptor. -/
  | started (tunFd : ℕ)
  | client (connected : Bool)
  /-- It threw; `openTun` may have been called before. -/
  | threw (tunFd : Option ℕ)
  deriving DecidableEq, Repr

/-- The test of `scheduleHardExpiry`. -/
def expired (now : ℕ) (hardExpiryEpochMs : ℤ) : Bool :=
  decide (0 < hardExpiryEpochMs) && decide (hardExpiryEpochMs ≤ now)

/-- `scheduleHardExpiry`, called from thread `id`. -/
def scheduleHardExpiry (id v : ℕ) (epochMs : ℤ) : Process :=
  if epochMs ≤ 0 then p
  else if expired p.now epochMs then p.stopSelfGracefully v
  else
    { p.setService v { p.services v with expiryRunnable := some id } with
      posted := Function.update p.posted id (some ⟨v, epochMs⟩) }

/-- `openTun` stores the descriptor, if it was called. -/
def openTun (v : ℕ) (tunFd : Option ℕ) : Process :=
  p.setService v { p.services v with tunFd := tunFd.or (p.services v).tunFd }

/-- The catch clause up to its `stopSelfGracefully`. -/
def caught (id : ℕ) (thread : StartThread) : Process :=
  (p.emitState .error).setStage id thread .stopSelfGracefully

def threadStep (id : ℕ) (thread : StartThread) : Outcome → Option Process
  | .threw tunFd =>
      match thread.stage with
      | .newService | .startCommandClient _ => some (p.caught id thread)
      | .start _ => some ((p.openTun thread.service tunFd).caught id thread)
      | _ => none
  | .started tunFd =>
      match thread.stage with
      | .start k =>
          some ({ p.openTun thread.service (some tunFd) with
            cores := Function.update p.cores k
              { p.cores k with running := true } }.setStage id thread
                (.assignBox k))
      | _ => none
  | .client connected =>
      match thread.stage with
      | .startCommandClient k =>
          some ((p.setService thread.service { p.services thread.service with
            commandClient := some ⟨connected⟩ }).setStage id thread
              (.scheduleHardExpiry k))
      | _ => none
  | .returned =>
      match thread.stage with
      | .newService =>
          some ({ p with
            cores := Function.update p.cores p.nextCore
              ⟨thread.hardExpiryEpochMs, false⟩
            nextCore := p.nextCore + 1 }.setStage id thread (.start p.nextCore))
      | .assignBox k =>
          some ((p.setService thread.service { p.services thread.service with
            box := some k }).setStage id thread (.startCommandClient k))
      | .scheduleHardExpiry k =>
          some ((p.scheduleHardExpiry id thread.service
            thread.hardExpiryEpochMs).setStage id thread (.emitConnected k))
      | .emitConnected _ => some ((p.emitState .connected).endThread id)
      | .stopSelfGracefully =>
          some ((p.stopSelfGracefully thread.service).endThread id)
      | _ => none

end Process

inductive Action
  | tick (ms : ℕ)
  | start (config : Option String) (hardExpiryEpochMs : ℤ)
  | stop
  | revoke
  | destroy
  | expire (r : ℕ)
  | thread (id : ℕ) (outcome : Process.Outcome)
  deriving DecidableEq, Repr

def step (p : Process) : Action → Option Process
  | .tick ms => some { p with now := p.now + ms }
  | .start config hardExpiryEpochMs => some (p.onStart config hardExpiryEpochMs)
  | .stop => some p.onStop
  | .revoke => p.onRevoke
  | .destroy => p.onDestroy
  | .expire r => p.onExpiry r
  | .thread id outcome =>
      match p.threads id with
      | none => none
      | some thread => p.threadStep id thread outcome

/-- The process from its start on. -/
def tunnel : System Process Action where
  init p := p = {}
  step := step

end VpnMiddleware.TunnelService
