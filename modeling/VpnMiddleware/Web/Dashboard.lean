import VpnMiddleware.Auth.AuthSystem
import VpnMiddleware.Core.Pool

/-!
# The admin dashboard in several tabs

The tabs share the tokens in `localStorage`; each has its own module instance
with its own `refreshPromise`.  Requests and responses may overtake each other
and none is lost, except that a page that navigates to the login page no longer
receives the responses to its requests.
-/

namespace VpnMiddleware.Dashboard

open VpnMiddleware.Schema VpnMiddleware.Errors VpnMiddleware.Pool
open VpnMiddleware.AuthService VpnMiddleware.TransitionSystem

/-- `tokenStore`. -/
structure TokenStore where
  accessToken : Option AccessToken := none
  refreshToken : Option String := none
  deriving DecidableEq, Repr

/-- `clear()`. -/
def TokenStore.clear : TokenStore := {}

/-- `set(data.accessToken)` and `setRefresh(data.refreshToken)`. -/
def TokenStore.ofPair (pair : TokenPair) : TokenStore :=
  ⟨some pair.accessToken, some pair.refreshToken⟩

/-- A module instance: whether `refreshPromise` is set, how many requests await
it, and how many wait to be replayed. -/
structure Tab where
  refreshing : Bool := false
  waiting : ℕ := 0
  replays : ℕ := 0
  deriving DecidableEq, Repr

/-- A request with the response that the server gave; `none` until then. -/
inductive Exchange
  | api (token : Option AccessToken) (retried : Bool) (status : Option ℕ)
  | refresh (token : String) (answer : Option (Except Failure TokenPair))
  | login (email password : String)
      (answer : Option (Except Failure TokenPair))

/-- The tab receives the response, or nobody does. -/
structure Call where
  tab : Option ℕ
  exchange : Exchange

structure State where
  server : AuthSystem.State := {}
  store : TokenStore := {}
  tabs : List Tab := []
  calls : List Call := []

/-- What a response says to the interceptor of `http`. -/
def statusOf : Failure → ℕ
  | .unauthorized _ => 401
  | .forbidden _ => 403
  | _ => 500

/-! ## The client -/

/-- A tab sends a request. -/
def send (s : State) (tab : ℕ) (exchange : Exchange) : State :=
  { s with calls := s.calls ++ [⟨some tab, exchange⟩] }

def setTab (s : State) (tab : ℕ) (change : Tab → Tab) : State :=
  { s with tabs := s.tabs.modify tab change }

def Exchange.isAnswered : Exchange → Bool
  | .api _ _ status => status.isSome
  | .refresh _ answer | .login _ _ answer => answer.isSome

/-- What is left of a request when the page of a tab goes away. -/
def abandon (tab : ℕ) (call : Call) : Option Call :=
  if call.tab = some tab then
    if call.exchange.isAnswered then none else some { call with tab := none }
  else some call

/-- `toLogin()`; off the login page it loads that page, and with it a new
module instance. -/
def toLogin (s : State) (tab : ℕ) (leaves : Bool) : State :=
  let cleared := { s with store := .clear }
  if leaves then
    { setTab cleared tab fun _ => {} with
      calls := s.calls.filterMap (abandon tab) }
  else cleared

/-- `refreshOnce()` by a request that got a 401. -/
def refreshOnce (s : State) (tab : ℕ) (leaves : Bool) : State :=
  if s.tabs[tab]?.any Tab.refreshing then
    setTab s tab fun page =>
      { page with waiting := page.waiting + 1 }
  else
    match s.store.refreshToken with
    | none => toLogin s tab leaves
    | some token =>
        send (setTab s tab fun page =>
          { page with refreshing := true, waiting := 1 }) tab
          (.refresh token none)

/-- The response interceptor of `http` on a request of the API. -/
def onApiStatus (s : State) (tab : ℕ) (retried : Bool) (status : ℕ)
    (leaves : Bool) : State :=
  if status = 403 then toLogin s tab leaves
  else if status = 401 then
    if retried then toLogin s tab leaves else refreshOnce s tab leaves
  else s

/-- The end of `performRefresh()` and of the promise. -/
def onRefreshed (s : State) (tab : ℕ) (answer : Except Failure TokenPair)
    (leaves : Bool) : State :=
  match answer with
  | .ok pair =>
      { setTab s tab fun page =>
        { refreshing := false, waiting := 0,
          replays := page.replays + page.waiting } with
        store := .ofPair pair }
  | .error _ =>
      toLogin (setTab s tab fun page =>
        { page with refreshing := false, waiting := 0 }) tab leaves

/-- The end of `loginAsAdmin`. -/
def onLogin (s : State) (tab : ℕ) (answer : Except Failure TokenPair)
    (leaves : Bool) : State :=
  match answer with
  | .ok pair => { s with store := .ofPair pair }
  | .error cause =>
      if statusOf cause = 401 ∨ statusOf cause = 403 then toLogin s tab leaves
      else s

def onResponse (s : State) (tab : ℕ) (leaves : Bool) :
    Exchange → Option State
  | .api _ retried (some status) =>
      some (onApiStatus s tab retried status leaves)
  | .refresh _ (some answer) => some (onRefreshed s tab answer leaves)
  | .login _ _ (some answer) => some (onLogin s tab answer leaves)
  | _ => none

/-! ## The server -/

/-- The server's part of an exchange.  What it answers to a request of the API
is left open: an access token may expire at any moment. -/
def serveExchange (cfg : AuthConfig) (server : AuthSystem.State) (status : ℕ)
    (draw : AuthDraw) : Exchange → Option (AuthSystem.State × Exchange)
  | .api token retried none => some (server, .api token retried (some status))
  | .refresh token none =>
      let act := AuthSystem.Action.refresh token draw
      (AuthSystem.step cfg server act).map fun after =>
        (after, .refresh token (AuthSystem.perform cfg server act).1)
  | .login email password none =>
      let act := AuthSystem.Action.adminLogin email password draw
      (AuthSystem.step cfg server act).map fun after =>
        (after, .login email password (AuthSystem.perform cfg server act).1)
  | _ => none

/-- A response that nobody receives is dropped. -/
def answered (call : Call) (exchange : Exchange) : Option Call :=
  if call.tab.isSome then some { call with exchange := exchange } else none

/-! ## Other clients -/

/-- The refresh tokens in the browser. -/
def Exchange.held : Exchange → List String
  | .api _ _ _ | .login _ _ none | .login _ _ (some (.error _)) => []
  | .login _ _ (some (.ok pair)) => [pair.refreshToken]
  | .refresh token none | .refresh token (some (.error _)) => [token]
  | .refresh token (some (.ok pair)) => [token, pair.refreshToken]

def held (s : State) : List String :=
  s.store.refreshToken.toList ++ s.calls.flatMap fun call => call.exchange.held

/-- The family of the token that a request presents. -/
def presentedFamily (cfg : AuthConfig) (db : Db) : AuthSystem.Action → Option ℕ
  | .refresh rawToken _ | .logout _ rawToken =>
      (findToken cfg rawToken db).map RefreshToken.familyId
  | _ => none

/-- Other clients do not have tokens of the families in the browser. -/
def isForeign (cfg : AuthConfig) (s : State) (act : AuthSystem.Action) : Bool :=
  (presentedFamily cfg s.server.db act).all fun familyId =>
    (held s).all fun token =>
      (findToken cfg token s.server.db).all fun row => row.familyId != familyId

/-! ## The system -/

inductive Action
  | openTab
  | request (tab : ℕ)
  | replay (tab : ℕ)
  | login (tab : ℕ) (email password : String)
  | signOut
  | serve (i status : ℕ) (draw : AuthDraw)
  | deliver (i : ℕ) (leaves : Bool)
  | other (act : AuthSystem.Action)

def step (cfg : AuthConfig) (s : State) : Action → Option State
  | .openTab => some { s with tabs := s.tabs ++ [{}] }
  | .request tab =>
      if tab < s.tabs.length then
        some (send s tab (.api s.store.accessToken false none))
      else none
  | .replay tab =>
      if s.tabs[tab]?.any fun page => 0 < page.replays then
        some (send (setTab s tab fun page =>
          { page with replays := page.replays - 1 }) tab
          (.api s.store.accessToken true none))
      else none
  | .login tab email password =>
      if tab < s.tabs.length then
        some (send s tab (.login email password none))
      else none
  | .signOut => some { s with store := .clear }
  | .serve i status draw => do
      let call ← s.calls[i]?
      let (server, exchange) ←
        serveExchange cfg s.server status draw call.exchange
      return { s with
        server := server
        calls := settle s.calls i (answered call exchange) }
  | .deliver i leaves => do
      let call ← s.calls[i]?
      let tab ← call.tab
      onResponse { s with calls := settle s.calls i none } tab leaves
        call.exchange
  | .other act =>
      if isForeign cfg s act then
        (AuthSystem.step cfg s.server act).map fun server =>
          { s with server := server }
      else none

/-- An empty browser, before any token was issued. -/
structure IsInitial (s : State) : Prop where
  server : AuthSystem.IsInitial s.server
  store : s.store = {}
  tabs : s.tabs = []
  calls : s.calls = []

def dashboard (cfg : AuthConfig) : System State Action where
  init := IsInitial
  step := step cfg

end VpnMiddleware.Dashboard
