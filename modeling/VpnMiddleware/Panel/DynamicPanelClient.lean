import VpnMiddleware.Panel.RebeccaPanelClient
import VpnMiddleware.Panel.RemnawavePanelClient

/-!
# The injected panel client

`PANEL_CLIENT` is bound to a proxy that reads the configuration on every call
and keeps the client it built for the last one.  It refines the configured
client only for the two methods of `IPanelClient` that it defines.
-/

namespace VpnMiddleware.DynamicPanelClient

open VpnMiddleware.Errors VpnMiddleware.JsonText VpnMiddleware.Http
open VpnMiddleware.Http.Exchange VpnMiddleware.PanelTypes
open VpnMiddleware.SettingsService

/-- The calls that the services and workers make on a panel client. -/
inductive ClientCall
  | createUser (params : CreateUserParams)
  | getUser (username : String)
  | setUserExpiry (username : String) (expireAt : ℕ)
  | disableUser (username : String)
  | deleteUser (username : String)
  | listNodes
  deriving DecidableEq, Repr

def ClientCall.method : ClientCall → String
  | .createUser _ => "createUser"
  | .getUser _ => "getUser"
  | .setUserExpiry _ _ => "setUserExpiry"
  | .disableUser _ => "disableUser"
  | .deleteUser _ => "deleteUser"
  | .listNodes => "listNodes"

inductive ClientAnswer
  | user (user : PanelUser)
  | maybeUser (user : Option PanelUser)
  | nodes (nodes : List PanelNode)
  | done
  deriving DecidableEq, Repr

/-! ## The two clients -/

inductive PanelClient
  | rebecca (client : RebeccaPanelClient.Client)
  | remnawave (client : RemnawavePanelClient.Client)
  deriving DecidableEq, Repr

/-- The client of a configuration. -/
def construct (env : PanelEnv) (config : PanelConfig) :
    Except Failure PanelClient :=
  if config.provider = some "remnawave" then
    (RemnawavePanelClient.construct env config.remnawave).map .remnawave
  else (RebeccaPanelClient.construct env config.rebecca).map .rebecca

section Calls

variable {World : Type} (net : Network Failure World)

def rebeccaCall : ClientCall → RebeccaPanelClient.Call World ClientAnswer
  | .createUser params => .user <$> RebeccaPanelClient.createUser net params
  | .getUser username => .maybeUser <$> RebeccaPanelClient.getUser net username
  | .setUserExpiry username expireAt =>
      .user <$> RebeccaPanelClient.setUserExpiry net username expireAt
  | .disableUser username =>
      (fun _ => .done) <$> RebeccaPanelClient.disableUser net username
  | .deleteUser username =>
      (fun _ => .done) <$> RebeccaPanelClient.deleteUser net username
  | .listNodes => .nodes <$> RebeccaPanelClient.listNodes net

def remnawaveCall : ClientCall → RemnawavePanelClient.Call World ClientAnswer
  | .createUser params => .user <$> RemnawavePanelClient.createUser net params
  | .getUser username => .maybeUser <$> RemnawavePanelClient.getUser net username
  | .setUserExpiry username expireAt =>
      .user <$> RemnawavePanelClient.setUserExpiry net username expireAt
  | .disableUser username =>
      (fun _ => .done) <$> RemnawavePanelClient.disableUser net username
  | .deleteUser username =>
      (fun _ => .done) <$> RemnawavePanelClient.deleteUser net username
  | .listNodes => .nodes <$> RemnawavePanelClient.listNodes net

/-- A call of either client. -/
def panelCall (call : ClientCall) :
    Exchange Failure PanelClient World ClientAnswer
  | .rebecca client, world =>
      let outcome := rebeccaCall net call client world
      { outcome with client := .rebecca outcome.client }
  | .remnawave client, world =>
      let outcome := remnawaveCall net call client world
      { outcome with client := .remnawave outcome.client }

/-- A client of the configuration that has served some calls. -/
inductive BuiltFrom (env : PanelEnv) (config : PanelConfig) :
    PanelClient → Prop
  | fresh {client : PanelClient} : construct env config = .ok client →
      BuiltFrom env config client
  | used {client : PanelClient} (call : ClientCall) (world : World) :
      BuiltFrom env config client →
      BuiltFrom env config (panelCall net call client world).client

/-! ## The proxy -/

structure Proxy where
  cachedClient : Option PanelClient := none
  lastConfigJson : List Char := []
  deriving DecidableEq, Repr

/-- The reference to the client that a proxy holds. -/
def withClient (client : PanelClient) (text : List Char)
    (call : Exchange Failure PanelClient World ClientAnswer) :
    Exchange Failure Proxy World ClientAnswer :=
  fun _ world =>
    let outcome := call client world
    { outcome with client := ⟨some outcome.client, text⟩ }

/-- `(await this.getClient()).method(..)`. -/
def delegate (env : PanelEnv) (row : Option PanelConfigValue)
    (call : ClientCall) : Exchange Failure Proxy World ClientAnswer :=
  fun proxy world =>
    let value := getPanelConfig env row
    let text := stringify value.json
    match proxy.cachedClient.filter fun _ => proxy.lastConfigJson == text with
    | some client => withClient client text (panelCall net call) proxy world
    | none =>
        match construct env value.config with
        | .ok client => withClient client text (panelCall net call) proxy world
        | .error cause => fail cause proxy world

/-- A call of the object that is bound to `PANEL_CLIENT`: the class defines
`createUser` and `deleteUser`; calling another method is a type error. -/
def invoke (env : PanelEnv) (row : Option PanelConfigValue)
    (call : ClientCall) : Exchange Failure Proxy World ClientAnswer :=
  match call with
  | .createUser _ | .deleteUser _ => delegate net env row call
  | .getUser _ | .setUserExpiry _ _ | .disableUser _ | .listNodes =>
      fail (.typeError ("this.panel." ++ call.method ++ " is not a function"))

/-- A call in a history: the row that it reads, and the network it meets. -/
structure Request (World : Type) where
  row : Option PanelConfigValue
  call : ClientCall
  world : World

/-- The proxy after a history of calls. -/
def proxyAfter (env : PanelEnv) : List (Request World) → Proxy :=
  List.foldl (fun proxy request =>
    (invoke net env request.row request.call proxy request.world).client) {}

/-! ## Refinement -/

/-- The call behaves as the same method of a client that was built from the
configuration: the same requests and the same result, or the error of its
constructor. -/
def Refines (env : PanelEnv) (config : PanelConfig) (call : ClientCall)
    (world : World) (outcome : Outcome Failure Proxy World ClientAnswer) :
    Prop :=
  match construct env config with
  | .error cause => outcome.result = .error cause ∧ outcome.requests = []
  | .ok _ => ∃ client, BuiltFrom net env config client ∧
      outcome.result = (panelCall net call client world).result ∧
      outcome.requests = (panelCall net call client world).requests ∧
      outcome.world = (panelCall net call client world).world

/-- The methods that the proxy defines. -/
def IsDefined : ClientCall → Prop
  | .createUser _ | .deleteUser _ => True
  | _ => False

/-! ### The cached client -/

/-- The cached client was built from the configuration with the cached text. -/
def CacheSound (env : PanelEnv) (proxy : Proxy) : Prop :=
  ∀ client ∈ proxy.cachedClient, ∀ value : PanelConfigValue,
    stringify value.json = proxy.lastConfigJson →
      BuiltFrom net env value.config client

variable {net} {env : PanelEnv} {config : PanelConfig} {proxy : Proxy}
variable {row : Option PanelConfigValue} {call : ClientCall} {world : World}

theorem BuiltFrom.exists_construct {client : PanelClient}
    (hbuilt : BuiltFrom net env config client) :
    ∃ first, construct env config = .ok first := by
  induction hbuilt with
  | fresh hfirst => exact ⟨_, hfirst⟩
  | used _ _ _ ih => exact ih

/-- A delegated call is served by a client of the configuration, unless that
cannot be built. -/
theorem delegate_cases (hsound : CacheSound net env proxy) :
    (∃ client, BuiltFrom net env (getPanelConfig env row).config client ∧
      delegate net env row call proxy world =
        withClient client (stringify (getPanelConfig env row).json)
          (panelCall net call) proxy world) ∨
    ∃ cause, construct env (getPanelConfig env row).config = .error cause ∧
      delegate net env row call proxy world = fail cause proxy world := by
  unfold delegate
  dsimp only
  split
  · next client hcached =>
      obtain ⟨hclient, htext⟩ := Option.filter_eq_some_iff.mp hcached
      left
      exact ⟨client, hsound client hclient _ (beq_iff_eq.mp htext).symm, rfl⟩
  · split
    · next client hclient => exact Or.inl ⟨client, .fresh hclient, rfl⟩
    · next cause hcause => exact Or.inr ⟨cause, hcause, rfl⟩

theorem cacheSound_delegate (hsound : CacheSound net env proxy) :
    CacheSound net env (delegate net env row call proxy world).client := by
  rcases @delegate_cases _ _ _ _ row call world hsound with
    ⟨client, hbuilt, heq⟩ | ⟨cause, -, heq⟩
  · rw [heq]
    intro cached hcached value htext
    obtain rfl := Option.some.inj hcached
    rw [PanelConfigValue.config_eq htext]
    exact .used call world hbuilt
  · rw [heq]
    exact hsound

theorem cacheSound_invoke (hsound : CacheSound net env proxy) :
    CacheSound net env (invoke net env row call proxy world).client := by
  cases call with
  | createUser params => exact cacheSound_delegate hsound
  | deleteUser username => exact cacheSound_delegate hsound
  | getUser username => exact hsound
  | setUserExpiry username expireAt => exact hsound
  | disableUser username => exact hsound
  | listNodes => exact hsound

theorem cacheSound_proxyAfter (history : List (Request World)) :
    CacheSound net env (proxyAfter net env history) := by
  have hfold : ∀ proxy, CacheSound net env proxy → CacheSound net env
      (history.foldl (fun proxy request => (invoke net env request.row
        request.call proxy request.world).client) proxy) := by
    induction history with
    | nil => exact fun _ hsound => hsound
    | cons request history ih =>
        exact fun proxy hsound => ih _ (cacheSound_invoke hsound)
  exact hfold {} (by simp [CacheSound])

/-! ### Defined and missing methods -/

theorem refines_delegate (hsound : CacheSound net env proxy) :
    Refines net env (getPanelConfig env row).config call world
      (delegate net env row call proxy world) := by
  rw [Refines]
  rcases @delegate_cases _ _ _ _ row call world hsound with
    ⟨client, hbuilt, heq⟩ | ⟨cause, hcause, heq⟩
  · obtain ⟨first, hfirst⟩ := hbuilt.exists_construct
    rw [hfirst, heq]
    exact ⟨client, hbuilt, rfl, rfl, rfl⟩
  · rw [hcause, heq]
    exact ⟨rfl, rfl⟩

/-- Each of the methods that the proxy lacks sends a request on either
client. -/
theorem requests_ne_nil (hmissing : ¬ IsDefined call) (client : PanelClient) :
    (panelCall net call client world).requests ≠ [] := by
  cases client with
  | rebecca client =>
      cases call with
      | createUser params => simp [IsDefined] at hmissing
      | deleteUser username => simp [IsDefined] at hmissing
      | getUser username =>
          exact (RebeccaPanelClient.sends_getUser net username).bind client world
      | setUserExpiry username expireAt =>
          exact (RebeccaPanelClient.sends_setUserExpiry net username
            expireAt).bind client world
      | disableUser username =>
          exact (RebeccaPanelClient.sends_disableUser net username).bind client
            world
      | listNodes =>
          exact (RebeccaPanelClient.sends_listNodes net).bind client world
  | remnawave client =>
      cases call with
      | createUser params => simp [IsDefined] at hmissing
      | deleteUser username => simp [IsDefined] at hmissing
      | getUser username =>
          exact (RemnawavePanelClient.sends_getUser net username).bind client
            world
      | setUserExpiry username expireAt =>
          exact (RemnawavePanelClient.sends_setUserExpiry net username
            expireAt).bind client world
      | disableUser username =>
          exact (RemnawavePanelClient.sends_disableUser net username).bind
            client world
      | listNodes =>
          exact (RemnawavePanelClient.sends_listNodes net).bind client world

theorem construct_error_ne_typeError {cause : Failure} {message : String}
    (hcause : construct env config = .error cause) :
    cause ≠ .typeError message := by
  rintro rfl
  unfold construct RemnawavePanelClient.construct
    RebeccaPanelClient.construct at hcause
  dsimp only at hcause
  split_ifs at hcause <;> simp [Except.map] at hcause

theorem not_refines_missing (hmissing : ¬ IsDefined call) :
    ¬ Refines net env config call world (invoke net env row call proxy world) := by
  have heq : invoke net env row call proxy world = fail (.typeError
      ("this.panel." ++ call.method ++ " is not a function")) proxy world := by
    cases call with
    | createUser params => simp [IsDefined] at hmissing
    | deleteUser username => simp [IsDefined] at hmissing
    | _ => rfl
  rw [heq]
  rw [Refines]
  split
  · next cause hcause =>
      rintro ⟨hresult, -⟩
      exact construct_error_ne_typeError hcause (Except.error.inj hresult).symm
  · rintro ⟨client, -, -, hrequests, -⟩
    exact requests_ne_nil hmissing client hrequests.symm

/-- After every history of calls and configurations, a call behaves as the same
method of a client of the configuration it reads exactly if it is one of the
two that the proxy defines. -/
theorem refines_iff (net : Network Failure World) (env : PanelEnv)
    (history : List (Request World)) (row : Option PanelConfigValue)
    (call : ClientCall) (world : World) :
    Refines net env (getPanelConfig env row).config call world
        (invoke net env row call (proxyAfter net env history) world) ↔
      IsDefined call := by
  constructor
  · intro hrefines
    by_contra hmissing
    exact not_refines_missing hmissing hrefines
  · intro hdefined
    have hsound := @cacheSound_proxyAfter _ net env history
    cases call with
    | createUser params => exact refines_delegate hsound
    | deleteUser username => exact refines_delegate hsound
    | _ => exact absurd hdefined id

end Calls

/-- A network on which nothing answers. -/
def unreachable : Network Failure Unit where
  fetch _ world := (.error (.error "timeout after 8000ms"), world)
  now _ := 0

/-- The confirmation of a new user by `connect` ends in a type error, without
any request to the panel. -/
theorem getUser_missing :
    (invoke unreachable { panelBaseUrl := some "https://panel:8000" } none
      (.getUser "u_1") {} ()).result =
        .error (.typeError "this.panel.getUser is not a function") ∧
    ¬ Refines unreachable { panelBaseUrl := some "https://panel:8000" }
      (getPanelConfig { panelBaseUrl := some "https://panel:8000" } none).config
      (.getUser "u_1") () (invoke unreachable
        { panelBaseUrl := some "https://panel:8000" } none (.getUser "u_1") {}
        ()) :=
  ⟨by decide, not_refines_missing id⟩

end VpnMiddleware.DynamicPanelClient
