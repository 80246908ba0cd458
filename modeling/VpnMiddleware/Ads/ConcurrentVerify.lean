import VpnMiddleware.Ads.AdMobSsvVerifier
import VpnMiddleware.Core.SharedPromise
import VpnMiddleware.Core.TransitionSystem

/-!
# Callbacks that are verified at the same time

The verifier is one object with one key cache.  A call that needs other keys
awaits the refresh in flight; meanwhile other callbacks arrive.  Time passes
only while no call can go on.
-/

namespace VpnMiddleware.ConcurrentVerify

open VpnMiddleware.AdMobSsvVerifier VpnMiddleware.SharedPromise
open VpnMiddleware.TransitionSystem

/-- Where `verify` is suspended. -/
inductive Stage
  | waiting (callback : SignedCallback) (ticket : Ticket)
  | done (result : Check AdMobReward)

structure Proc where
  rawQuery : List Char
  stage : Stage

/-- `inflight` is the promise of the refresh in flight. -/
structure State where
  cache : KeyCache := {}
  inflight : Shared (Check Unit) := {}
  calls : List Proc := []
  clock : ℕ := 0

def Stage.ticket : Stage → Option Ticket
  | .waiting _ ticket => some ticket
  | .done _ => none

section

variable (platform : Platform)

/-- `verify(rawQuery)` up to its first await: the cached key is used at once,
and without one the call starts or joins a refresh. -/
def State.verify (s : State) (rawQuery : List Char) : State :=
  match parseCallback rawQuery with
  | .error thrown =>
      { s with calls := s.calls ++ [⟨rawQuery, .done (.error thrown)⟩] }
  | .ok callback =>
      match cachedKey s.cache s.clock callback.keyId with
      | some pem =>
          { s with calls := s.calls ++
            [⟨rawQuery, .done (verifyWith platform s.clock callback (some pem))⟩] }
      | none =>
          let joined := s.inflight.join
          { s with
            inflight := joined.1
            calls := s.calls ++ [⟨rawQuery, .waiting callback joined.2⟩] }

/-- The key server answers, or the fetch fails. -/
def State.keysAnswered (s : State) (fetch : ℕ) (reply : KeyServerReply) :
    Option State :=
  match refreshKeys s.clock reply with
  | .ok next =>
      (s.inflight.settle fetch (.ok ())).map fun settled =>
        { s with cache := next, inflight := settled }
  | .error thrown =>
      (s.inflight.settle fetch (.error thrown)).map fun settled =>
        { s with inflight := settled }

/-- What a call makes of the refresh that it has awaited. -/
def State.afterRefresh (s : State) (callback : SignedCallback) :
    Check Unit → Check AdMobReward
  | .error thrown => .error thrown
  | .ok _ =>
      verifyWith platform s.clock callback (s.cache.keys.lookup callback.keyId)

def State.resume (s : State) (i : ℕ) : Option State :=
  match s.calls[i]? with
  | none => none
  | some proc =>
      match proc.stage with
      | .waiting callback ticket =>
          (s.inflight.collect ticket).map fun collected =>
            { s with
              inflight := collected.2
              calls := s.calls.set i { proc with
                stage := .done (s.afterRefresh platform callback collected.1) } }
      | .done _ => none

/-- No call can go on. -/
def State.isIdle (s : State) : Bool :=
  s.calls.all fun proc =>
    (Stage.ticket proc.stage).all fun ticket => (s.inflight.collect ticket).isNone

inductive Action
  | advance (ms : ℕ)
  | verify (rawQuery : List Char)
  | keysAnswered (fetch : ℕ) (reply : KeyServerReply)
  | resume (i : ℕ)

def step (s : State) : Action → Option State
  | .advance ms => if s.isIdle then some { s with clock := s.clock + ms } else none
  | .verify rawQuery => some (s.verify platform rawQuery)
  | .keysAnswered fetch reply => s.keysAnswered fetch reply
  | .resume i => s.resume platform i

/-- A verifier from its construction on, at any time. -/
def verifier : System State Action where
  init s := s.cache = {} ∧ s.inflight = {} ∧ s.calls = []
  step := step platform

end

end VpnMiddleware.ConcurrentVerify
