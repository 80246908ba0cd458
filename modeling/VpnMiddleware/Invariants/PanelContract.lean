import VpnMiddleware.Panel.IdealPanel
import VpnMiddleware.Panel.PanelHttp

/-!
# What a panel promises about a request

A panel carries a request out and answers it, refuses it as unauthorized, or
fails; a failure may come before or after the effect.  Nothing is assumed about
when it does which, so the promises also hold of a network that loses requests
and responses.
-/

namespace VpnMiddleware.PanelContract

open VpnMiddleware.Errors VpnMiddleware.JsonText VpnMiddleware.Http
open VpnMiddleware.PanelTypes VpnMiddleware.PanelHttp
open VpnMiddleware.IdealPanel

section Handling

variable {World : Type}

/-- Neither an accepted body nor a missing user nor a refused credential. -/
def IsFault : Except Failure (HttpResponse Failure) → Prop
  | .ok res => res.ok = false ∧ res.status ≠ 404 ∧ res.status ≠ 401
  | .error _ => True

/-- The answer to an accepted request: nothing, or a body. -/
inductive Answers (res : HttpResponse Failure) : Option Json → Prop
  | missing : res.status = 404 → Answers res none
  | empty : res.status = 204 → Answers res none
  | body {json : Json} : res.ok = true → res.status ≠ 204 →
      res.json = .ok json → Answers res (some json)

/-- What a panel does with a request, and what it replies. -/
inductive Handles (net : Network Failure World) (panelOf : World → Panel)
    (request : HttpRequest) (world : World) (effect : Panel → Panel)
    (Replies : Panel → Option Json → Prop) : Prop
  | served {res : HttpResponse Failure} {payload : Option Json} :
      (net.fetch request world).1 = .ok res → Answers res payload →
      Replies (panelOf world) payload →
      panelOf (net.fetch request world).2 = effect (panelOf world) →
      Handles net panelOf request world effect Replies
  | unauthorized {res : HttpResponse Failure} :
      (net.fetch request world).1 = .ok res → res.status = 401 →
      panelOf (net.fetch request world).2 = panelOf world →
      Handles net panelOf request world effect Replies
  | failed : IsFault (net.fetch request world).1 →
      (panelOf (net.fetch request world).2 = panelOf world ∨
        panelOf (net.fetch request world).2 = effect (panelOf world)) →
      Handles net panelOf request world effect Replies

/-- What a request of a client comes to, whatever token it used and however
often it was sent. -/
inductive Exchanged {Client : Type} (panelOf : World → Panel)
    (effect : Panel → Panel) (Replies : Panel → Option Json → Prop)
    (before : Panel) (outcome : Outcome Failure Client World (Option Json)) :
    Prop
  | served {payload : Option Json} : outcome.result = .ok payload →
      Replies before payload → panelOf outcome.world = effect before →
      Exchanged panelOf effect Replies before outcome
  | failed {cause : Failure} : outcome.result = .error cause →
      (panelOf outcome.world = before ∨
        panelOf outcome.world = effect before) →
      Exchanged panelOf effect Replies before outcome

/-- The requests sent do not matter. -/
theorem Exchanged.of_eq {Client : Type} {panelOf : World → Panel}
    {effect : Panel → Panel} {Replies : Panel → Option Json → Prop}
    {before : Panel} {outcome other : Outcome Failure Client World (Option Json)}
    (hexchanged : Exchanged panelOf effect Replies before outcome)
    (hresult : other.result = outcome.result)
    (hworld : other.world = outcome.world) :
    Exchanged panelOf effect Replies before other := by
  cases hexchanged with
  | served hok hreplies hpanel =>
      exact .served (hresult.trans hok) hreplies (hworld ▸ hpanel)
  | failed herror hpanel =>
      exact .failed (hresult.trans herror) (hworld ▸ hpanel)

/-- A body is sent as it is. -/
theorem decode_bodyText (json : Json) :
    (bodyText (some json)).bind jsonDecode = some json := by
  simp only [bodyText, Option.map_some, Option.bind_some]
  exact jsonDecode_stringify json

end Handling

section Agreement

/-- The expiry that a stored account shows, in whole seconds or milliseconds,
is a date. -/
def IsStored (provider : Environment.Provider) (account : Account) : Prop :=
  storedExpiry provider account.expireAt = account.expireAt ∧
    0 < account.expireAt ∧ account.expireAt ≤ 8640000000000000

/-- A panel user as a client reports it is the account that the panel holds. -/
structure Mirrors (username : String) (user : PanelUser) (account : Account) :
    Prop where
  username : user.username = some username
  expireAt : user.expireAt = .at account.expireAt
  status : user.status = .disabled ↔ account.enabled = false

/-- The result of a call is the one that the services expect of it. -/
inductive Agrees (username : String) :
    Except Failure (Option PanelUser) → Except Failure (Option Account) → Prop
  | none : Agrees username (.ok none) (.ok none)
  | user {user : PanelUser} {account : Account} : Mirrors username user account →
      Agrees username (.ok (some user)) (.ok (some account))
  | error (cause : Failure) : Agrees username (.error cause) (.error cause)

def usernameOf : PanelCall → String
  | .createUser params => params.username
  | .setUserExpiry username _ | .getUser username | .disableUser username
  | .deleteUser username => username

/-- The expiry that a call sends is a date after the first second. -/
def SendsDate : PanelCall → Prop
  | .createUser params =>
      1000 ≤ params.expireAt ∧ params.expireAt ≤ 8640000000000000
  | .setUserExpiry _ expireAt =>
      1000 ≤ expireAt ∧ expireAt ≤ 8640000000000000
  | _ => True

variable {Client World : Type} {panelOf : World → Panel}
variable {provider : Environment.Provider} {now : ℕ} {call : PanelCall}
variable {before : Panel}

/-- The call of a client is an exchange with the ideal panel. -/
def IsExchange (panelOf : World → Panel) (provider : Environment.Provider)
    (now : ℕ) (call : PanelCall) (before : Panel)
    (outcome : Outcome Failure Client World (Option PanelUser)) : Prop :=
  ∃ reply, Agrees (usernameOf call) outcome.result
      (exchange provider now call reply before).1 ∧
    panelOf outcome.world = (exchange provider now call reply before).2

/-- A call that failed had no effect, or all of it. -/
theorem isExchange_of_error {cause : Failure}
    {outcome : Outcome Failure Client World (Option PanelUser)}
    (herror : outcome.result = .error cause)
    (hpanel : panelOf outcome.world = before ∨
      panelOf outcome.world = (serve provider now call before).2) :
    IsExchange panelOf provider now call before outcome := by
  rw [IsExchange, herror]
  rcases hpanel with hpanel | hpanel
  · exact ⟨.fail false cause, .error cause, hpanel⟩
  · exact ⟨.fail true cause, .error cause, hpanel⟩

/-- A call that was served. -/
theorem isExchange_of_serve
    {outcome : Outcome Failure Client World (Option PanelUser)}
    (hagrees : Agrees (usernameOf call) outcome.result
      (serve provider now call before).1)
    (hpanel : panelOf outcome.world = (serve provider now call before).2) :
    IsExchange panelOf provider now call before outcome :=
  ⟨.ok, hagrees, hpanel⟩

/-- What a lookup of a user returns. -/
inductive ReadsUser (panel : Panel) (username : String) :
    Except Failure (Option PanelUser) → Prop
  | error (cause : Failure) : ReadsUser panel username (.error cause)
  | missing : panel username = none → ReadsUser panel username (.ok none)
  | found {account : Account} {user : PanelUser} :
      panel username = some account → Mirrors username user account →
      ReadsUser panel username (.ok (some user))

/-- A lookup that changes nothing is an exchange. -/
theorem isExchange_of_reads {username : String}
    {outcome : Outcome Failure Client World (Option PanelUser)}
    (hreads : ReadsUser before username outcome.result)
    (hpanel : panelOf outcome.world = before) :
    IsExchange panelOf provider now (.getUser username) before outcome := by
  generalize hresult : outcome.result = result at hreads
  cases hreads with
  | error cause => exact isExchange_of_error hresult (Or.inl hpanel)
  | missing hheld =>
      refine isExchange_of_serve ?_ hpanel
      rw [hresult]
      simp only [serve, hheld]
      exact .none
  | found hheld hmirrors =>
      refine isExchange_of_serve ?_ hpanel
      rw [hresult]
      simp only [serve, hheld]
      exact .user hmirrors

/-- All accounts of a panel show dates. -/
def AllStored (provider : Environment.Provider) (panel : Panel) : Prop :=
  ∀ username account, panel username = some account →
    IsStored provider account

theorem isStored_storedExpiry {expireAt : ℕ} {account : Account}
    (hlow : 1000 ≤ expireAt) (hhigh : expireAt ≤ 8640000000000000)
    (haccount : account.expireAt = storedExpiry provider expireAt) :
    IsStored provider account := by
  cases provider with
  | rebecca =>
      simp only [storedExpiry] at haccount
      refine ⟨?_, ?_, ?_⟩
      · rw [haccount, storedExpiry, Nat.mul_div_cancel _ (by decide)]
      all_goals omega
  | remnawave =>
      simp only [storedExpiry] at haccount
      exact ⟨rfl, by omega, by omega⟩

theorem allStored_serve (hstored : AllStored provider before)
    (hsends : SendsDate call) :
    AllStored provider (serve provider now call before).2 := by
  intro username account haccount
  cases servedAccount haccount with
  | kept old hold hsame =>
      obtain ⟨hshown, hlow, hhigh⟩ := hstored username old hold
      rw [IsStored, hsame]
      exact ⟨hshown, hlow, hhigh⟩
  | created params hcall _ hexpiry =>
      rw [hcall] at hsends
      exact isStored_storedExpiry hsends.1 hsends.2 hexpiry
  | pushed old expireAt _ hcall _ hexpiry =>
      rw [hcall] at hsends
      exact isStored_storedExpiry hsends.1 hsends.2 hexpiry

/-- After an exchange all accounts still show dates. -/
theorem allStored_of_isExchange
    {outcome : Outcome Failure Client World (Option PanelUser)}
    (hstored : AllStored provider before) (hsends : SendsDate call)
    (hexchange : IsExchange panelOf provider now call before outcome) :
    AllStored provider (panelOf outcome.world) := by
  obtain ⟨reply, -, hpanel⟩ := hexchange
  rw [hpanel]
  cases reply with
  | ok => exact allStored_serve hstored hsends
  | fail applied cause =>
      cases applied with
      | false => exact hstored
      | true => exact allStored_serve hstored hsends

/-- A call of a client, with the world that it found. -/
structure Entry (Client World : Type) where
  call : PanelCall
  world : World
  outcome : Outcome Failure Client World (Option PanelUser)

/-- The calls of a list, one after another. -/
def history
    (perform : PanelCall → Exchange Failure Client World (Option PanelUser)) :
    List PanelCall → Client → World → List (Entry Client World)
  | [], _, _ => []
  | call :: calls, client, world =>
      let outcome := perform call client world
      ⟨call, world, outcome⟩ ::
        history perform calls outcome.client outcome.world

/-- A client whose every call is an exchange is one for all its calls. -/
theorem history_isExchange {now : World → ℕ}
    {perform : PanelCall → Exchange Failure Client World (Option PanelUser)}
    {Inv : Client → Prop}
    (hperform : ∀ call client world, Inv client →
      AllStored provider (panelOf world) → SendsDate call →
      IsExchange panelOf provider (now world) call (panelOf world)
        (perform call client world) ∧ Inv (perform call client world).client)
    {calls : List PanelCall} (hsends : ∀ call ∈ calls, SendsDate call)
    {client : Client} (hinv : Inv client) {world : World}
    (hstored : AllStored provider (panelOf world)) :
    ∀ entry ∈ history perform calls client world,
      IsExchange panelOf provider (now entry.world) entry.call
        (panelOf entry.world) entry.outcome := by
  induction calls generalizing client world with
  | nil =>
      intro entry hentry
      cases hentry
  | cons call calls ih =>
      obtain ⟨hcall, hcalls⟩ := List.forall_mem_cons.mp hsends
      obtain ⟨hexchange, hnext⟩ := hperform call client world hinv hstored hcall
      intro entry hentry
      rcases List.mem_cons.mp hentry with rfl | hlater
      · exact hexchange
      · exact ih hcalls hnext (allStored_of_isExchange hstored hcall hexchange)
          entry hlater

end Agreement

/-! ## Panels that keep a contract -/

section Server

def respond (status : ℕ) (body : Json) : HttpResponse Failure where
  status := status
  text := String.ofList (stringify body)
  json := .ok body

/-- A panel that answers at once, with a clock that stands still. -/
def serverOf (serveRequest : HttpRequest → Panel → HttpResponse Failure × Panel) :
    Network Failure Panel where
  fetch request panel := (serveRequest request panel).map .ok id
  now _ := 0

variable {serveRequest : HttpRequest → Panel → HttpResponse Failure × Panel}
variable {request : HttpRequest} {panel after : Panel}
variable {res : HttpResponse Failure} {effect : Panel → Panel}
variable {Replies : Panel → Option Json → Prop}

theorem answers_respond (body : Json) :
    Answers (respond 200 body) (some body) :=
  .body rfl (by change (200 : ℕ) ≠ 204; decide) rfl

/-- A request that is carried out. -/
theorem handles_served {payload : Option Json}
    (hserve : serveRequest request panel = (res, after))
    (hanswers : Answers res payload) (hreplies : Replies panel payload)
    (hafter : after = effect panel) :
    Handles (serverOf serveRequest) id request panel effect Replies := by
  refine .served ?_ hanswers hreplies ?_
  · rw [serverOf, Prod.map_fst, hserve]
  · rw [serverOf, Prod.map_snd, hserve]
    exact hafter

/-- A request without a token. -/
theorem handles_refused (hserve : serveRequest request panel = (res, panel))
    (hstatus : res.status = 401) :
    Handles (serverOf serveRequest) id request panel effect Replies := by
  refine @Handles.unauthorized _ _ _ _ _ _ _ res ?_ hstatus ?_
  · rw [serverOf, Prod.map_fst, hserve]
  · rw [serverOf, Prod.map_snd, hserve]
    rfl

/-- A request that the panel does not accept. -/
theorem handles_rejected (hserve : serveRequest request panel = (res, panel))
    (hok : res.ok = false) (hmissing : res.status ≠ 404)
    (hauthorized : res.status ≠ 401) :
    Handles (serverOf serveRequest) id request panel effect Replies := by
  refine .failed ?_ (Or.inl ?_)
  · rw [serverOf, Prod.map_fst, hserve]
    exact ⟨hok, hmissing, hauthorized⟩
  · rw [serverOf, Prod.map_snd, hserve]
    rfl

/-- Different paths below an address. -/
theorem path_ne {base left right : String} (hpath : left ≠ right) :
    base ++ left ≠ base ++ right := by
  intro heq
  have hlists := congrArg String.toList heq
  rw [String.toList_append, String.toList_append,
    List.append_cancel_left_eq] at hlists
  exact hpath (String.toList_injective hlists)

end Server

end VpnMiddleware.PanelContract
