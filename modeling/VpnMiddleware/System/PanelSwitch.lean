import VpnMiddleware.Panel.DynamicPanelClient
import VpnMiddleware.System.Statements

/-!
# The middleware while its panel is reconfigured

Several panels, and the `panel_config` row that an administrator may replace at
any time.  Every panel call goes to the panel that the row names at that
moment; the tables of the middleware do not say where a user was created.
-/

namespace VpnMiddleware.PanelSwitch

open VpnMiddleware.Schema VpnMiddleware.Errors VpnMiddleware.Environment
open VpnMiddleware.TransitionSystem VpnMiddleware.Http
open VpnMiddleware.Http.Exchange VpnMiddleware.IdealPanel
open VpnMiddleware.SettingsService VpnMiddleware.DynamicPanelClient
open VpnMiddleware.Statements

/-! ## Panels -/

/-- A panel: the API it speaks and the address of its requests. -/
structure PanelId where
  provider : Provider
  address : String
  deriving DecidableEq, Repr

/-- The panel that a client talks to. -/
def panelOf : PanelClient → PanelId
  | .rebecca client => ⟨.rebecca, client.cfg.baseUrl⟩
  | .remnawave client => ⟨.remnawave, client.apiBase⟩

section Calls

variable {World : Type} (net : Network Failure World) (call : ClientCall)

theorem staysBelow_rebeccaCall (address : String) :
    StaysBelow (RebeccaPanelClient.IsAt address) address
      (rebeccaCall net call) := by
  cases call with
  | createUser params =>
      exact (RebeccaPanelClient.staysBelow_createUser net params).map _
  | getUser username =>
      exact (RebeccaPanelClient.staysBelow_getUser net username).map _
  | setUserExpiry username expireAt =>
      exact (RebeccaPanelClient.staysBelow_setUserExpiry net username
        expireAt).map _
  | disableUser username =>
      exact (RebeccaPanelClient.staysBelow_disableUser net username).map _
  | deleteUser username =>
      exact (RebeccaPanelClient.staysBelow_deleteUser net username).map _
  | listNodes => exact (RebeccaPanelClient.staysBelow_listNodes net).map _

theorem staysBelow_remnawaveCall (address : String) :
    StaysBelow (RemnawavePanelClient.IsAt address) address
      (remnawaveCall net call) := by
  cases call with
  | createUser params =>
      exact (RemnawavePanelClient.staysBelow_createUser net params).map _
  | getUser username =>
      exact (RemnawavePanelClient.staysBelow_getUser net username).map _
  | setUserExpiry username expireAt =>
      exact (RemnawavePanelClient.staysBelow_setUserExpiry net username
        expireAt).map _
  | disableUser username =>
      exact (RemnawavePanelClient.staysBelow_disableUser net username).map _
  | deleteUser username =>
      exact (RemnawavePanelClient.staysBelow_deleteUser net username).map _
  | listNodes => exact (RemnawavePanelClient.staysBelow_listNodes net).map _

/-- A call sends its requests to the client's panel and leaves the client with
that panel. -/
theorem panelCall_staysBelow (client : PanelClient) (world : World) :
    panelOf (panelCall net call client world).client = panelOf client ∧
      ∀ request ∈ (panelCall net call client world).requests,
        IsBelow (panelOf client).address request := by
  cases client with
  | rebecca client =>
      obtain ⟨hat, hsent⟩ := staysBelow_rebeccaCall net call client.cfg.baseUrl
        client world rfl
      exact ⟨congrArg (PanelId.mk .rebecca) hat, hsent⟩
  | remnawave client =>
      obtain ⟨hat, hsent⟩ := staysBelow_remnawaveCall net call client.apiBase
        client world rfl
      exact ⟨congrArg (PanelId.mk .remnawave) hat, hsent⟩

end Calls

/-- The panel that a `panel_config` row names, or the error of its client's
constructor. -/
def configured (env : PanelEnv) (row : Option PanelConfigValue) :
    Except Failure PanelId :=
  (construct env (getPanelConfig env row).config).map panelOf

/-- A client of a configuration talks to its panel, however many calls it has
served. -/
theorem configured_of_builtFrom {World : Type} {net : Network Failure World}
    {env : PanelEnv} {row : Option PanelConfigValue} {client : PanelClient}
    (hbuilt : BuiltFrom net env (getPanelConfig env row).config client) :
    configured env row = .ok (panelOf client) := by
  induction hbuilt with
  | fresh hfirst => simp [configured, hfirst, Except.map]
  | used call world _ ih =>
      rw [ih, (panelCall_staysBelow net call _ world).1]

/-- After every history, the proxy sends the requests of a call to the panel of
the row that it reads. -/
theorem invoke_staysBelow {World : Type} (net : Network Failure World)
    (env : PanelEnv) (history : List (Request World))
    (row : Option PanelConfigValue) (call : ClientCall) (world : World) :
    ∀ request ∈ (invoke net env row call (proxyAfter net env history)
      world).requests, ∃ panel, configured env row = .ok panel ∧
        IsBelow panel.address request := by
  have hsound := @cacheSound_proxyAfter _ net env history
  have hdelegate : ∀ request ∈ (delegate net env row call
      (proxyAfter net env history) world).requests, ∃ panel,
        configured env row = .ok panel ∧ IsBelow panel.address request := by
    intro request hrequest
    rcases @delegate_cases _ _ _ _ row call world hsound with
      ⟨client, hbuilt, heq⟩ | ⟨cause, -, heq⟩
    · rw [heq] at hrequest
      exact ⟨panelOf client, configured_of_builtFrom hbuilt,
        (panelCall_staysBelow net call client world).2 request hrequest⟩
    · rw [heq] at hrequest
      simp [fail] at hrequest
  cases call with
  | createUser params => exact hdelegate
  | deleteUser username => exact hdelegate
  | _ => simp [invoke, fail]

/-! ## The system -/

/-- The method of the injected client that a process calls. -/
def clientCall : PanelCall → ClientCall
  | .createUser params => .createUser params
  | .setUserExpiry username expireAt => .setUserExpiry username expireAt
  | .getUser username => .getUser username
  | .disableUser username => .disableUser username
  | .deleteUser username => .deleteUser username

structure State where
  panelConfig : Option PanelConfigValue := none
  panels : PanelId → Panel := fun _ _ => none
  core : Middleware.State

inductive Action
  | setPanelConfig (value : PanelConfigValue)
  | core (act : Middleware.Action)

/-- The middleware with this panel behind its client. -/
def State.facing (s : State) (panel : PanelId) : Middleware.State :=
  { s.core with world := { s.core.world with panel := s.panels panel } }

/-- The action with a call that fails before it is sent. -/
def refused (cause : Failure) : Middleware.Action → Middleware.Action
  | .connect i draw _ => .connect i draw (.fail false cause)
  | .verify i _ => .verify i (.fail false cause)
  | .drain i _ => .drain i (.fail false cause)
  | act => act

/-- The methods that the class `DynamicPanelClient` defines. -/
def proxyDefines : ClientCall → Bool
  | .createUser _ | .deleteUser _ => true
  | _ => false

theorem proxyDefines_iff {call : ClientCall} :
    proxyDefines call = true ↔ IsDefined call := by
  cases call <;> simp [proxyDefines, IsDefined]

section System

variable (env : PanelEnv) (cfg : Config) (defines : ClientCall → Bool)

/-- The panel that a call reaches: the method has to exist, and a client of the
configuration has to be there. -/
def State.route (s : State) (call : PanelCall) : Except Failure PanelId :=
  if defines (clientCall call) then configured env s.panelConfig
  else .error (.typeError ("this.panel." ++ (clientCall call).method ++
    " is not a function"))

/-- The action of the middleware in front of a panel. -/
def State.reach (s : State) (panel : PanelId) (act : Middleware.Action) :
    Option State :=
  (Middleware.step { cfg with provider := panel.provider } (s.facing panel)
    act).map fun core =>
      { s with
        core := core
        panels := Function.update s.panels panel core.world.panel }

/-- An action without a panel. -/
def State.stay (s : State) (act : Middleware.Action) : Option State :=
  (Middleware.step cfg s.core act).map fun core => { s with core := core }

def step (s : State) : Action → Option State
  | .setPanelConfig value => some { s with panelConfig := some value }
  | .core act =>
      match callOf cfg s.core act with
      | none => s.stay cfg act
      | some call =>
          match s.route env defines call with
          | .ok panel => s.reach cfg panel act
          | .error cause => s.stay cfg (refused cause act)

structure IsInitial (s : State) : Prop where
  core : Middleware.IsInitial s.core
  panels : ∀ panel username, s.panels panel username = none

def panelSwitch : System State Action where
  init := IsInitial
  step := step env cfg defines

/-- The panel that receives the call of a step. -/
def reaching (s : State) (act : Middleware.Action) : Option PanelId :=
  (callOf cfg s.core act).bind fun call => (s.route env defines call).toOption

end System

/-! ## What a step does -/

section Steps

variable {env : PanelEnv} {cfg : Config} {defines : ClientCall → Bool}
variable {s s' : State} {act : Middleware.Action} {panel : PanelId}

/-- A call reaches the panel that the row names when it is made. -/
theorem configured_of_reaching
    (hreaching : reaching env cfg defines s act = some panel) :
    configured env s.panelConfig = .ok panel := by
  obtain ⟨call, -, hroute⟩ := Option.bind_eq_some_iff.mp hreaching
  rw [State.route] at hroute
  split at hroute
  · cases hconfigured : configured env s.panelConfig with
    | error cause => simp [hconfigured, Except.toOption] at hroute
    | ok other =>
        rw [hconfigured] at hroute
        rw [Option.some.inj hroute]
  · simp [Except.toOption] at hroute

/-- A step reaches a panel, or changes none: it makes no call or its call is
not sent. -/
inductive CoreStep (env : PanelEnv) (cfg : Config)
    (defines : ClientCall → Bool) (s : State) (act : Middleware.Action)
    (s' : State) : Prop
  | reached (panel : PanelId) : reaching env cfg defines s act = some panel →
      Middleware.step { cfg with provider := panel.provider } (s.facing panel)
        act = some s'.core →
      s'.panels = Function.update s.panels panel s'.core.world.panel →
      CoreStep env cfg defines s act s'
  | refused (cause : Failure) : callOf cfg s.core act ≠ none →
      Middleware.step cfg s.core (refused cause act) = some s'.core →
      s'.panels = s.panels → CoreStep env cfg defines s act s'
  | silent : callOf cfg s.core act = none →
      Middleware.step cfg s.core act = some s'.core →
      s'.panels = s.panels → CoreStep env cfg defines s act s'

theorem stay_some (hstay : s.stay cfg act = some s') :
    Middleware.step cfg s.core act = some s'.core ∧ s'.panels = s.panels := by
  obtain ⟨core, hcore, rfl⟩ := Option.map_eq_some_iff.mp hstay
  exact ⟨hcore, rfl⟩

theorem coreStep (hstep : step env cfg defines s (.core act) = some s') :
    CoreStep env cfg defines s act s' := by
  rw [step] at hstep
  cases hcall : callOf cfg s.core act with
  | none =>
      simp only [hcall] at hstep
      obtain ⟨hcore, hpanels⟩ := stay_some hstep
      exact .silent hcall hcore hpanels
  | some call =>
      simp only [hcall] at hstep
      cases hroute : s.route env defines call with
      | error cause =>
          simp only [hroute] at hstep
          obtain ⟨hcore, hpanels⟩ := stay_some hstep
          exact .refused cause (by simp [hcall]) hcore hpanels
      | ok panel =>
          simp only [hroute] at hstep
          obtain ⟨core, hcore, rfl⟩ := Option.map_eq_some_iff.mp hstep
          exact .reached panel (by simp [reaching, hcall, hroute,
            Except.toOption]) hcore rfl

end Steps

end VpnMiddleware.PanelSwitch
