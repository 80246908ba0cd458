import Mathlib.Data.List.Basic
import VpnMiddleware.Core.JsonText

/-!
# Computations that send HTTP requests

A computation runs against a network: it keeps a client's own state, may fail,
and records the requests that it sent.  The network answers every request as
it likes and has a clock.
-/

namespace VpnMiddleware.Http

open VpnMiddleware.JsonText

structure HttpRequest where
  method : String
  url : String
  headers : List (String × String)
  body : Option String
  timeoutMs : ℕ
  deriving DecidableEq, Repr

/-- A response: its status, its body as text, and its body as JSON. -/
structure HttpResponse (Cause : Type) where
  status : ℕ
  text : String := ""
  json : Except Cause Json

/-- `res.ok`. -/
def HttpResponse.ok {Cause : Type} (response : HttpResponse Cause) : Bool :=
  decide (200 ≤ response.status ∧ response.status < 300)

/-- What a network does with a request, and its clock. -/
structure Network (Cause World : Type) where
  fetch : HttpRequest → World → Except Cause (HttpResponse Cause) × World
  now : World → ℕ

structure Outcome (Cause Client World Value : Type) where
  result : Except Cause Value
  requests : List HttpRequest
  client : Client
  world : World

/-- A computation of a client. -/
def Exchange (Cause Client World Value : Type) :=
  Client → World → Outcome Cause Client World Value

namespace Exchange

variable {Cause Client World Value Result : Type}

def pure (value : Value) : Exchange Cause Client World Value :=
  fun client world => ⟨.ok value, [], client, world⟩

def bind (first : Exchange Cause Client World Value)
    (next : Value → Exchange Cause Client World Result) :
    Exchange Cause Client World Result :=
  fun client world =>
    let outcome := first client world
    match outcome.result with
    | .error cause =>
        ⟨.error cause, outcome.requests, outcome.client, outcome.world⟩
    | .ok value =>
        let rest := next value outcome.client outcome.world
        ⟨rest.result, outcome.requests ++ rest.requests, rest.client,
          rest.world⟩

instance : Monad (Exchange Cause Client World) where
  pure := pure
  bind := bind

def fail (cause : Cause) : Exchange Cause Client World Value :=
  fun client world => ⟨.error cause, [], client, world⟩

def getClient : Exchange Cause Client World Client :=
  fun client world => ⟨.ok client, [], client, world⟩

def modifyClient (change : Client → Client) :
    Exchange Cause Client World Unit :=
  fun client world => ⟨.ok (), [], change client, world⟩

def fromExcept (value : Except Cause Value) :
    Exchange Cause Client World Value :=
  fun client world => ⟨value, [], client, world⟩

section Network

variable (net : Network Cause World)

def now : Exchange Cause Client World ℕ :=
  fun client world => ⟨.ok (net.now world), [], client, world⟩

/-- `fetchWithTimeout(..)`. -/
def fetchWithTimeout (request : HttpRequest) :
    Exchange Cause Client World (HttpResponse Cause) :=
  fun client world =>
    ⟨(net.fetch request world).1, [request], client,
      (net.fetch request world).2⟩

end Network

/-! ## Computations that send -/

variable {first : Exchange Cause Client World Value}
variable {next : Value → Exchange Cause Client World Result}

theorem bind_apply (client : Client) (world : World) :
    (first >>= next) client world =
      match (first client world).result with
      | .error cause => ⟨.error cause, (first client world).requests,
          (first client world).client, (first client world).world⟩
      | .ok value =>
          let rest := next value (first client world).client
            (first client world).world
          ⟨rest.result, (first client world).requests ++ rest.requests,
            rest.client, rest.world⟩ := rfl

theorem result_bind (client : Client) (world : World) :
    ((first >>= next) client world).result =
      match (first client world).result with
      | .error cause => .error cause
      | .ok value => (next value (first client world).client
          (first client world).world).result := by
  rw [bind_apply]
  split
  · simp only
  · simp only

theorem bind_result_ok {client : Client} {world : World} {result : Result} :
    ((first >>= next) client world).result = .ok result ↔
      ∃ value, (first client world).result = .ok value ∧
        (next value (first client world).client
          (first client world).world).result = .ok result := by
  rw [result_bind]
  cases (first client world).result with
  | error cause => simp
  | ok value => simp

/-- What follows sends nothing. -/
theorem requests_bind_of_silent
    (hsilent : ∀ value client world, (next value client world).requests = [])
    (client : Client) (world : World) :
    ((first >>= next) client world).requests =
      (first client world).requests := by
  rw [bind_apply]
  split
  · rfl
  · simp [hsilent]

/-- The computation sends a request, whatever comes of it. -/
def Sends (first : Exchange Cause Client World Value) : Prop :=
  ∀ client world, (first client world).requests ≠ []

/-- The computation sends a request or succeeds. -/
def SendsOrSucceeds (first : Exchange Cause Client World Value) : Prop :=
  ∀ client world, (first client world).requests ≠ [] ∨
    ∃ value, (first client world).result = .ok value

theorem Sends.bind (hfirst : Sends first) : Sends (first >>= next) := by
  intro client world
  have hsent := hfirst client world
  rw [bind_apply]
  split
  · exact hsent
  · simp [hsent]

theorem SendsOrSucceeds.bind_sends (hfirst : SendsOrSucceeds first)
    (hnext : ∀ value, Sends (next value)) : Sends (first >>= next) := by
  intro client world
  rw [bind_apply]
  rcases hfirst client world with hsent | ⟨value, hvalue⟩
  · split
    · exact hsent
    · simp [hsent]
  · rw [hvalue]
    simp [hnext value _ _]

theorem SendsOrSucceeds.bind_right (hfirst : SendsOrSucceeds first)
    (hnext : ∀ value, SendsOrSucceeds (next value)) :
    SendsOrSucceeds (first >>= next) := by
  intro client world
  rw [bind_apply]
  rcases hfirst client world with hsent | ⟨value, hvalue⟩
  · left
    split
    · exact hsent
    · simp [hsent]
  · rw [hvalue]
    exact (hnext value _ _).imp_left fun hsent => by simp [hsent]

theorem Sends.sendsOrSucceeds (hfirst : Sends first) : SendsOrSucceeds first :=
  fun client world => Or.inl (hfirst client world)

theorem sends_fetchWithTimeout (net : Network Cause World)
    (request : HttpRequest) :
    Sends (fetchWithTimeout net request :
      Exchange Cause Client World (HttpResponse Cause)) :=
  fun _ _ => List.cons_ne_nil _ _

theorem sendsOrSucceeds_pure (value : Value) :
    SendsOrSucceeds (Pure.pure value : Exchange Cause Client World Value) :=
  fun _ _ => Or.inr ⟨value, rfl⟩

theorem sendsOrSucceeds_getClient :
    SendsOrSucceeds (getClient : Exchange Cause Client World Client) :=
  fun client _ => Or.inr ⟨client, rfl⟩

theorem sendsOrSucceeds_now (net : Network Cause World) :
    SendsOrSucceeds (now net : Exchange Cause Client World ℕ) :=
  fun _ world => Or.inr ⟨net.now world, rfl⟩

/-! ## Where requests go -/

/-- The request goes to a path below this address. -/
def IsBelow (address : String) (request : HttpRequest) : Prop :=
  ∃ path, request.url = address ++ path

/-- Run by a client that satisfies `Inv`, the computation preserves it and all
its requests go below the address. -/
def StaysBelow (Inv : Client → Prop) (address : String)
    (first : Exchange Cause Client World Value) : Prop :=
  ∀ client world, Inv client → Inv (first client world).client ∧
    ∀ request ∈ (first client world).requests, IsBelow address request

section StaysBelow

variable {Inv : Client → Prop} {address : String}

/-- A computation that sends nothing and leaves the client alone. -/
theorem StaysBelow.silent
    (hclient : ∀ client world, (first client world).client = client)
    (hsilent : ∀ client world, (first client world).requests = []) :
    StaysBelow Inv address first := by
  intro client world hinv
  rw [hclient, hsilent]
  exact ⟨hinv, by simp⟩

theorem StaysBelow.bind (hfirst : StaysBelow Inv address first)
    (hnext : ∀ value, StaysBelow Inv address (next value)) :
    StaysBelow Inv address (first >>= next) := by
  intro client world hinv
  obtain ⟨hmid, hsent⟩ := hfirst client world hinv
  rw [bind_apply]
  split
  · exact ⟨hmid, hsent⟩
  · next value _ =>
      obtain ⟨hlast, hrest⟩ := hnext value _ (first client world).world hmid
      refine ⟨hlast, fun request hrequest => ?_⟩
      rcases List.mem_append.mp hrequest with hearly | hlate
      · exact hsent request hearly
      · exact hrest request hlate

theorem StaysBelow.map (hfirst : StaysBelow Inv address first)
    (change : Value → Result) : StaysBelow Inv address (change <$> first) := by
  intro client world hinv
  obtain ⟨hmid, hsent⟩ := hfirst client world hinv
  change Inv (Exchange.bind first _ client world).client ∧
    ∀ request ∈ (Exchange.bind first _ client world).requests, _
  rw [Exchange.bind]
  dsimp only
  split
  · exact ⟨hmid, hsent⟩
  · exact ⟨hmid, fun request hrequest => hsent request (by
      simpa [Exchange.pure, Pure.pure] using hrequest)⟩

/-- What follows a look at the client may use the invariant. -/
theorem StaysBelow.bind_getClient
    {next : Client → Exchange Cause Client World Result}
    (hnext : ∀ client, Inv client → StaysBelow Inv address (next client)) :
    StaysBelow Inv address (getClient >>= next) := by
  intro client world hinv
  exact hnext client hinv client world hinv

theorem staysBelow_pure (value : Value) :
    StaysBelow Inv address (Pure.pure value : Exchange Cause Client World Value) :=
  .silent (fun _ _ => rfl) fun _ _ => rfl

theorem staysBelow_fail (cause : Cause) :
    StaysBelow Inv address (fail cause : Exchange Cause Client World Value) :=
  .silent (fun _ _ => rfl) fun _ _ => rfl

theorem staysBelow_fromExcept (value : Except Cause Value) :
    StaysBelow Inv address
      (fromExcept value : Exchange Cause Client World Value) :=
  .silent (fun _ _ => rfl) fun _ _ => rfl

theorem staysBelow_now (net : Network Cause World) :
    StaysBelow Inv address (now net : Exchange Cause Client World ℕ) :=
  .silent (fun _ _ => rfl) fun _ _ => rfl

theorem staysBelow_modifyClient {change : Client → Client}
    (hchange : ∀ client, Inv client → Inv (change client)) :
    StaysBelow Inv address
      (modifyClient change : Exchange Cause Client World Unit) :=
  fun client _ hinv => ⟨hchange client hinv, by simp [modifyClient]⟩

theorem staysBelow_fetchWithTimeout (net : Network Cause World)
    {request : HttpRequest} (hrequest : IsBelow address request) :
    StaysBelow Inv address (fetchWithTimeout net request :
      Exchange Cause Client World (HttpResponse Cause)) :=
  fun _ _ hinv => ⟨hinv, by simpa [fetchWithTimeout] using hrequest⟩

end StaysBelow

end Exchange

end VpnMiddleware.Http
