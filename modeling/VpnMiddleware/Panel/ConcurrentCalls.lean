import VpnMiddleware.Core.SharedPromise
import VpnMiddleware.Core.TransitionSystem
import VpnMiddleware.Panel.RebeccaPanelClient

/-!
# Calls that share one Rebecca client

The client is one object for all requests of the middleware.  A call is cut at
its awaits; between them other calls run and see its token, its expiry and the
promise of the token request in flight.
-/

namespace VpnMiddleware.ConcurrentCalls

open VpnMiddleware.Errors VpnMiddleware.JsonText VpnMiddleware.Http
open VpnMiddleware.RebeccaPanelClient VpnMiddleware.TransitionSystem
open VpnMiddleware.SharedPromise

/-- Where `request` is suspended. -/
inductive Stage
  /-- At the promise of a token request. -/
  | waiting (ticket : Ticket)
  | ready (token : String)
  | fetching
  | done (result : Except Failure (Option Json))

/-- A call of `request`, with the requests that it has sent. -/
structure Proc where
  method : String
  path : String
  body : Option Json
  retryOn401 : Bool := true
  stage : Stage
  sent : List HttpRequest := []

/-- `inflightAuth` is the promise of the token request in flight. -/
structure State where
  client : Client
  inflightAuth : Shared (Except Failure String) := {}
  calls : List Proc := []
  clock : ℕ := 0

/-- `getToken` up to its first await. -/
def State.getToken (s : State) : State × Stage :=
  if isFresh s.client s.clock then (s, .ready (s.client.token.getD ""))
  else
    let joined := s.inflightAuth.join
    ({ s with inflightAuth := joined.1 }, .waiting joined.2)

/-- `request(method, path, body)` up to its first await. -/
def State.request (s : State) (method path : String) (body : Option Json) :
    State :=
  let next := s.getToken
  { next.1 with calls := next.1.calls ++ [{ method, path, body, stage := next.2 }] }

def State.put (s : State) (i : ℕ) (proc : Proc) : State :=
  { s with calls := s.calls.set i proc }

/-- A network that gives this answer, at this time. -/
def answering (reply : Except Failure (HttpResponse Failure)) (time : ℕ) :
    Network Failure Unit where
  fetch _ world := (reply, world)
  now _ := time

/-- The token request is answered, or it fails; its promise is settled. -/
def State.authAnswered (s : State) (auth : ℕ)
    (reply : Except Failure (HttpResponse Failure)) : Option State :=
  let outcome := authenticate (answering reply s.clock) s.client ()
  (s.inflightAuth.settle auth outcome.result).map fun settled =>
    { s with client := outcome.client, inflightAuth := settled }

/-- What a settled promise means for a call that awaits it. -/
def settledStage : Except Failure String → Stage
  | .ok token => .ready token
  | .error cause => .done (.error cause)

/-- A call goes on once `getToken` has its promise settled, and sends its
request once `getToken` has returned. -/
def State.resume (s : State) (i : ℕ) : Option State :=
  match s.calls[i]? with
  | none => none
  | some proc =>
      match proc.stage with
      | .waiting ticket =>
          (s.inflightAuth.collect ticket).map fun collected =>
            { s with inflightAuth := collected.2 }.put i
              { proc with stage := settledStage collected.1 }
      | .ready token =>
          some (s.put i { proc with
            stage := .fetching
            sent := proc.sent ++
              [apiRequest s.client.cfg token proc.method proc.path proc.body] })
      | _ => none

/-- `this.token = null; this.tokenExpiresAt = 0`. -/
def State.dropToken (s : State) : State :=
  { s with client := { s.client with token := none, tokenExpiresAt := 0 } }

/-- The request of a call is answered, or it fails. -/
def State.answered (s : State) (i : ℕ)
    (reply : Except Failure (HttpResponse Failure)) : Option State :=
  match s.calls[i]? with
  | none => none
  | some proc =>
      match proc.stage, reply with
      | .fetching, .error cause =>
          some (s.put i { proc with stage := .done (.error cause) })
      | .fetching, .ok res =>
          if res.status = 401 ∧ proc.retryOn401 = true then
            let next := s.dropToken.getToken
            some (next.1.put i { proc with retryOn401 := false, stage := next.2 })
          else
            let outcome := readBody proc.method proc.path res s.client ()
            some (s.put i { proc with stage := .done outcome.result })
      | _, _ => none

inductive Action
  | advance (ms : ℕ)
  | request (method path : String) (body : Option Json)
  | authAnswered (auth : ℕ) (reply : Except Failure (HttpResponse Failure))
  | resume (i : ℕ)
  | answered (i : ℕ) (reply : Except Failure (HttpResponse Failure))

def step (s : State) : Action → Option State
  | .advance ms => some { s with clock := s.clock + ms }
  | .request method path body => some (s.request method path body)
  | .authAnswered auth reply => s.authAnswered auth reply
  | .resume i => s.resume i
  | .answered i reply => s.answered i reply

/-- A client from its construction on. -/
def calls : System State Action where
  init s := s.client.token = none ∧ s.inflightAuth = {} ∧ s.calls = []
  step := step

end VpnMiddleware.ConcurrentCalls
