import VpnMiddleware.Core.JsonText
import VpnMiddleware.Core.WebText

/-!
# The panel configuration

The `panel_config` setting as the admin API stores it, and the environment it
falls back to.  A value of the setting is a JSON value that is well typed for
`PanelConfig`.
-/

namespace VpnMiddleware.SettingsService

open VpnMiddleware.JsonText VpnMiddleware.WebText

/-- `Partial<RebeccaConfig>`. -/
structure RebeccaSettings where
  baseUrl : Option String := none
  username : Option String := none
  password : Option String := none
  requestTimeoutMs : Option ℕ := none
  deriving DecidableEq, Repr

/-- `Partial<RemnawaveConfig>`. -/
structure RemnawaveSettings where
  baseUrl : Option String := none
  token : Option String := none
  caddyToken : Option String := none
  squadUuids : Option (List String) := none
  requestTimeoutMs : Option ℕ := none
  deriving DecidableEq, Repr

/-- `PanelConfig` of `settings.service.ts`. -/
structure PanelConfig where
  provider : Option String
  rebecca : Option RebeccaSettings
  remnawave : Option RemnawaveSettings
  deriving DecidableEq, Repr

/-! ## Reading a JSON value -/

/-- An optional member: absent or null, or a value of its type. -/
def readMember {Value : Type} (read : Json → Option Value) (json : Json)
    (name : String) : Option (Option Value) :=
  match json.member name with
  | none | some .null => some none
  | some value => (read value).map some

def readTexts (json : Json) : Option (List String) :=
  json.arr?.bind fun items => items.mapM Json.str?

def isObject : Json → Bool
  | .obj _ => true
  | _ => false

def RebeccaSettings.ofJson (json : Json) : Option RebeccaSettings := do
  if !isObject json then none
  let baseUrl ← readMember Json.str? json "baseUrl"
  let username ← readMember Json.str? json "username"
  let password ← readMember Json.str? json "password"
  let requestTimeoutMs ← readMember Json.num? json "requestTimeoutMs"
  return { baseUrl, username, password, requestTimeoutMs }

def RemnawaveSettings.ofJson (json : Json) : Option RemnawaveSettings := do
  if !isObject json then none
  let baseUrl ← readMember Json.str? json "baseUrl"
  let token ← readMember Json.str? json "token"
  let caddyToken ← readMember Json.str? json "caddyToken"
  let squadUuids ← readMember readTexts json "squadUuids"
  let requestTimeoutMs ← readMember Json.num? json "requestTimeoutMs"
  return { baseUrl, token, caddyToken, squadUuids, requestTimeoutMs }

def PanelConfig.ofJson (json : Json) : Option PanelConfig := do
  if !isObject json then none
  let provider ← readMember Json.str? json "provider"
  let rebecca ← readMember RebeccaSettings.ofJson json "rebecca"
  let remnawave ← readMember RemnawaveSettings.ofJson json "remnawave"
  return { provider, rebecca, remnawave }

/-- A configuration with the JSON value it was read from. -/
structure PanelConfigValue where
  json : Json
  config : PanelConfig
  typed : PanelConfig.ofJson json = some config

/-- Values with the same text are the same configuration. -/
theorem PanelConfigValue.config_eq {left right : PanelConfigValue}
    (htext : stringify left.json = stringify right.json) :
    left.config = right.config := by
  have hjson : left.json = right.json := stringify_injective htext
  apply Option.some.inj
  rw [← left.typed, ← right.typed, hjson]

/-! ## The environment -/

/-- The environment variables of the panel clients; `none` is unset. -/
structure PanelEnv where
  panelProvider : Option String := none
  panelBaseUrl : Option String := none
  panelAdminUser : Option String := none
  panelAdminPass : Option String := none
  remnawaveBaseUrl : Option String := none
  remnawaveToken : Option String := none
  remnawaveCaddyToken : Option String := none
  remnawaveSquadUuids : Option String := none
  panelTimeoutMs : ℕ := 8000
  deriving DecidableEq, Repr

/-- The squads of the fallback: a comma-separated list. -/
def envSquads (env : PanelEnv) : List String :=
  match env.remnawaveSquadUuids with
  | none | some "" => []
  | some text => splitOn (· == ',') text

def envConfig (env : PanelEnv) : PanelConfig where
  provider := some (env.panelProvider.getD "rebecca")
  rebecca := some {
    baseUrl := some (env.panelBaseUrl.getD "")
    username := some (env.panelAdminUser.getD "")
    password := some (env.panelAdminPass.getD "") }
  remnawave := some {
    baseUrl := some (env.remnawaveBaseUrl.getD "")
    token := some (env.remnawaveToken.getD "")
    caddyToken := some (env.remnawaveCaddyToken.getD "")
    squadUuids := some (envSquads env) }

def envJson (env : PanelEnv) : Json :=
  .obj [
    ("provider", .str (env.panelProvider.getD "rebecca")),
    ("rebecca", .obj [
      ("baseUrl", .str (env.panelBaseUrl.getD "")),
      ("username", .str (env.panelAdminUser.getD "")),
      ("password", .str (env.panelAdminPass.getD ""))]),
    ("remnawave", .obj [
      ("baseUrl", .str (env.remnawaveBaseUrl.getD "")),
      ("token", .str (env.remnawaveToken.getD "")),
      ("caddyToken", .str (env.remnawaveCaddyToken.getD "")),
      ("squadUuids", .arr ((envSquads env).map .str))])]

theorem readTexts_map (texts : List String) :
    readTexts (.arr (texts.map .str)) = some texts := by
  simp only [readTexts, Json.arr?, Option.bind_some]
  induction texts with
  | nil => rfl
  | cons text texts ih => simp [Json.str?, ih]

theorem ofJson_envJson (env : PanelEnv) :
    PanelConfig.ofJson (envJson env) = some (envConfig env) := by
  simp [PanelConfig.ofJson, envJson, envConfig, isObject, readMember,
    Json.member, List.lookup_cons, RebeccaSettings.ofJson, RemnawaveSettings.ofJson,
    Json.str?, readTexts_map]

/-- `getPanelConfig()`: the row of `system_settings`, or the environment. -/
def getPanelConfig (env : PanelEnv) (row : Option PanelConfigValue) :
    PanelConfigValue :=
  row.getD ⟨envJson env, envConfig env, ofJson_envJson env⟩

end VpnMiddleware.SettingsService
