import VpnMiddleware.Panel.ExpiryEcho
import VpnMiddleware.Panel.PanelHttp
import VpnMiddleware.Settings.SettingsService

/-!
# The Remnawave client

A static API token, responses wrapped in `response`, ISO dates, and squads
instead of inbound lists.
-/

namespace VpnMiddleware.RemnawavePanelClient

open VpnMiddleware.Errors VpnMiddleware.JsonText VpnMiddleware.WebText
open VpnMiddleware.Http VpnMiddleware.Http.Exchange VpnMiddleware.PanelTypes
open VpnMiddleware.ExpiryEcho VpnMiddleware.PanelHttp
open VpnMiddleware.SettingsService

structure RemnawaveConfig where
  baseUrl : String
  token : String
  caddyToken : Option String
  squadUuids : List String
  requestTimeoutMs : ℕ
  deriving DecidableEq, Repr

structure Client where
  cfg : RemnawaveConfig
  apiBase : String
  deriving DecidableEq, Repr

/-- Split a comma- or space-separated list into its non-empty tokens. -/
def splitCsv (text : Option String) : List String :=
  (splitOn (fun c => c == ',' || isSpace c) (text.getD "")).filter (· != "")

/-- Strip trailing slashes, ensure one `/api` suffix. -/
def apiBaseOf (baseUrl : String) : String :=
  let origin := dropTrailingSlashes baseUrl
  if origin.endsWith "/api" then origin else origin ++ "/api"

/-- `new RemnawavePanelClient(cfg)`. -/
def construct (env : PanelEnv) (cfg : Option RemnawaveSettings) :
    Except Failure Client :=
  let settings := cfg.getD {}
  let baseUrl := (settings.baseUrl.or env.remnawaveBaseUrl).getD ""
  let token := (settings.token.or env.remnawaveToken).getD ""
  if baseUrl = "" then .error (.error "REMNAWAVE_BASE_URL is required")
  else if token = "" then .error (.error "REMNAWAVE_TOKEN is required")
  else .ok {
    cfg := {
      baseUrl
      token
      caddyToken := settings.caddyToken.or env.remnawaveCaddyToken
      squadUuids := settings.squadUuids.getD (splitCsv env.remnawaveSquadUuids)
      requestTimeoutMs := settings.requestTimeoutMs.getD env.panelTimeoutMs }
    apiBase := apiBaseOf baseUrl }

section Requests

variable {World : Type} (net : Network Failure World)

/-- The computations of this client. -/
abbrev Call (World Value : Type) := Exchange Failure Client World Value

/-! ## Requests -/

def bearer (token : String) : String :=
  if token.startsWith "Bearer " then token else "Bearer " ++ token

def headers (client : Client) (hasBody : Bool) : List (String × String) :=
  ("authorization", bearer client.cfg.token) ::
    ((if hasBody then [("content-type", "application/json")] else []) ++
    ((client.cfg.caddyToken.filter (· != "")).toList.map fun key =>
      ("x-api-key", key)) ++
    if client.apiBase.startsWith "http://" then
      [("x-forwarded-proto", "https"), ("x-forwarded-for", "127.0.0.1")]
    else [])

def apiRequest (client : Client) (method path : String) (body : Option Json) :
    HttpRequest where
  method
  url := client.apiBase ++ path
  headers := headers client body.isSome
  body := bodyText body
  timeoutMs := client.cfg.requestTimeoutMs

/-- The payload of `{ response: .. }`, or the value itself. -/
def unwrap (json : Json) : Json :=
  (json.member "response").getD json

/-- `res.json().catch(() => ({}))`. -/
def jsonOf (res : HttpResponse Failure) : Json :=
  match res.json with
  | .ok json => json
  | .error _ => .obj []

/-- `request(method, path, body)`: the unwrapped body, or `undefined`. -/
def request (method path : String) (body : Option Json) :
    Call World (Option Json) := do
  let client ← getClient
  let res ← fetchWithTimeout net (apiRequest client method path body)
  if res.status = 404 then return none
  else if res.status = 204 then return none
  else if !res.ok then fail (requestFailed "remnawave" method path res)
  else return some (unwrap (jsonOf res))

/-! ## Mapping -/

def statusOf : Option String → PanelUserStatus
  | some "DISABLED" => .disabled
  | some "LIMITED" => .limited
  | some "EXPIRED" => .expired
  | _ => .active

/-- `dto.expireAt ? new Date(dto.expireAt) : null`. -/
def reportedExpiry (dto : Json) : ReportedExpiry :=
  readDate isoDate (.ofMember (dto.member "expireAt"))

def usedTraffic (dto : Json) : ℕ :=
  ((dto.member "userTraffic").bind fun traffic =>
    traffic.number "usedTrafficBytes").getD 0

def toPanelUser (dto : Json) : PanelUser where
  username := dto.text "username"
  expireAt := reportedExpiry dto
  dataLimitBytes := (dto.number "trafficLimitBytes").filter (· != 0)
  status := statusOf (dto.text "status")
  usedTrafficBytes := usedTraffic dto
  subscriptionToken := dto.text "subscriptionUrl"

def expireDriftToleranceMs : ℕ := 2000

/-! ## The interface -/

/-- The credential of a protocol, if the parameters name it. -/
def credentialOf (params : CreateUserParams) (protocol : String) :
    Option ProxyCredential :=
  params.proxies.lookup protocol

/-- A credential text that is set and not empty. -/
def secretOf (field : ProxyCredential → Option String)
    (credential : Option ProxyCredential) : Option String :=
  (credential.bind field).filter (· != "")

/-- The members that pass the middleware's credentials on. -/
def credentialMembers (params : CreateUserParams) : List (String × Json) :=
  let vless := (credentialOf params "vless").or (credentialOf params "vmess")
  let trojan := credentialOf params "trojan"
  let ss := (credentialOf params "shadowsocks").or (credentialOf params "ss")
  ((secretOf ProxyCredential.id vless).toList.map fun id =>
    ("vlessUuid", .str id)) ++
  ((secretOf ProxyCredential.password trojan).toList.map fun password =>
    ("trojanPassword", .str password)) ++
  (secretOf ProxyCredential.password ss).toList.map fun password =>
    ("ssPassword", .str password)

def createUserPayload (cfg : RemnawaveConfig) (params : CreateUserParams) :
    Json :=
  .obj ([
    ("username", .str params.username),
    ("status", .str "ACTIVE"),
    ("expireAt", .str (isoString params.expireAt)),
    ("trafficLimitBytes", .num (params.dataLimitBytes.getD 0)),
    ("trafficLimitStrategy", .str "NO_RESET"),
    ("activeInternalSquads", .arr (cfg.squadUuids.map .str))] ++
    credentialMembers params)

/-- Without a squad the user would have no scoped access. -/
def isRefused (cfg : RemnawaveConfig) : Bool := cfg.squadUuids.isEmpty

def createUser (params : CreateUserParams) : Call World PanelUser := do
  let client ← getClient
  if isRefused client.cfg then
    fail (.panel {
      message := "refusing to create user: REMNAWAVE_SQUAD_UUIDS is empty " ++
        "(no access scope)"
      retryable := false })
  else
    let created ← request net "POST" "/users"
      (some (createUserPayload client.cfg params))
    match created.filter Json.isTruthy with
    | none => fail (.panel {
        message := "remnawave createUser returned no body"
        retryable := false })
    | some dto =>
        let user := toPanelUser dto
        fromExcept (assertExpiryRoundTrip expireDriftToleranceMs user
          params.expireAt "createUser")
        return user

def byUsernamePath (username : String) : String :=
  "/users/by-username/" ++ encodeURIComponent username

def getUser (username : String) : Call World (Option PanelUser) := do
  let dto ← request net "GET" (byUsernamePath username) none
  return (dto.filter Json.isTruthy).map toPanelUser

def vanished (username context : String) : Failure :=
  .panel { message := "user " ++ username ++ " vanished " ++ context }

def setUserExpiry (username : String) (expireAt : ℕ) : Call World PanelUser := do
  let time ← now net
  if expireAt ≤ time + expireDriftToleranceMs then
    let current ← getUser net username
    match current with
    | none => fail (vanished username "during past-expiry no-op")
    | some user => return user
  else
    let updated ← request net "PATCH" "/users" (some (.obj [
      ("username", .str username), ("status", .str "ACTIVE"),
      ("expireAt", .str (isoString expireAt))]))
    match updated.filter Json.isTruthy with
    | none => fail (vanished username "after expiry update")
    | some dto =>
        let user := toPanelUser dto
        fromExcept (assertExpiryRoundTrip expireDriftToleranceMs user expireAt
          "setUserExpiry")
        return user

def disableUser (username : String) : Call World Unit := do
  let _ ← request net "PATCH" "/users" (some (.obj [
    ("username", .str username), ("status", .str "DISABLED")]))

/-- `dto?.uuid`, if it is truthy. -/
def uuidOf (dto : Option Json) : Option String :=
  (dto.bind fun user => user.text "uuid").filter (· != "")

/-- The uuid is looked up first; a user that is gone is no error. -/
def deleteUser (username : String) : Call World Unit := do
  let dto ← request net "GET" (byUsernamePath username) none
  match uuidOf dto with
  | none => return ()
  | some uuid =>
      let _ ← request net "DELETE" ("/users/" ++ encodeURIComponent uuid) none

def nodeStatus (node : Json) : String :=
  if node.flag "isDisabled" then "disabled"
  else if node.flag "isConnected" then "connected"
  else if node.flag "isConnecting" then "connecting"
  else "disconnected"

def toPanelNode (node : Json) : PanelNode where
  panelNodeId := node.text "uuid"
  name := node.text "name"
  status := some (nodeStatus node)
  address := node.text "address"

def listNodes : Call World (List PanelNode) := do
  let nodes ← request net "GET" "/nodes" none
  fromExcept (mapNodes toPanelNode nodes)

/-! ## Every request is sent -/

theorem sends_request (method path : String) (body : Option Json) :
    Sends (request net method path body) := by
  apply sendsOrSucceeds_getClient.bind_sends
  intro client
  exact (sends_fetchWithTimeout net _).bind

theorem sends_getUser (username : String) : Sends (getUser net username) :=
  (sends_request net _ _ _).bind

theorem sends_setUserExpiry (username : String) (expireAt : ℕ) :
    Sends (setUserExpiry net username expireAt) := by
  apply (sendsOrSucceeds_now net).bind_sends
  intro time
  split_ifs
  · exact (sends_getUser net username).bind
  · exact (sends_request net _ _ _).bind

theorem sends_disableUser (username : String) :
    Sends (disableUser net username) :=
  (sends_request net _ _ _).bind

theorem sends_listNodes : Sends (listNodes net) :=
  (sends_request net _ _ _).bind

/-! ## Requests go to the client's panel -/

/-- The client of the panel at this address. -/
def IsAt (address : String) (client : Client) : Prop :=
  client.apiBase = address

section Address

variable {address : String}

theorem staysBelow_request (method path : String) (body : Option Json) :
    StaysBelow (IsAt address) address (request net method path body) := by
  apply StaysBelow.bind_getClient
  intro client hat
  apply (staysBelow_fetchWithTimeout net ⟨path, hat ▸ rfl⟩).bind
  intro res
  split_ifs
  · exact staysBelow_pure _
  · exact staysBelow_pure _
  · exact staysBelow_fail _
  · exact staysBelow_pure _

theorem staysBelow_createUser (params : CreateUserParams) :
    StaysBelow (IsAt address) address (createUser net params) := by
  apply StaysBelow.bind_getClient
  intro client _
  split_ifs
  · exact staysBelow_fail _
  · apply (staysBelow_request net _ _ _).bind
    intro created
    split
    · exact staysBelow_fail _
    · exact (staysBelow_fromExcept _).bind fun _ => staysBelow_pure _

theorem staysBelow_getUser (username : String) :
    StaysBelow (IsAt address) address (getUser net username) :=
  (staysBelow_request net _ _ _).bind fun _ => staysBelow_pure _

theorem staysBelow_setUserExpiry (username : String) (expireAt : ℕ) :
    StaysBelow (IsAt address) address (setUserExpiry net username expireAt) := by
  apply (staysBelow_now net).bind
  intro time
  split_ifs
  · apply (staysBelow_getUser net username).bind
    intro current
    split
    · exact staysBelow_fail _
    · exact staysBelow_pure _
  · apply (staysBelow_request net _ _ _).bind
    intro updated
    split
    · exact staysBelow_fail _
    · exact (staysBelow_fromExcept _).bind fun _ => staysBelow_pure _

theorem staysBelow_disableUser (username : String) :
    StaysBelow (IsAt address) address (disableUser net username) :=
  (staysBelow_request net _ _ _).bind fun _ => staysBelow_pure _

theorem staysBelow_deleteUser (username : String) :
    StaysBelow (IsAt address) address (deleteUser net username) := by
  apply (staysBelow_request net _ _ _).bind
  intro dto
  split
  · exact staysBelow_pure _
  · exact (staysBelow_request net _ _ _).bind fun _ => staysBelow_pure _

theorem staysBelow_listNodes :
    StaysBelow (IsAt address) address (listNodes net) :=
  (staysBelow_request net _ _ _).bind fun _ => staysBelow_fromExcept _

end Address

end Requests

end VpnMiddleware.RemnawavePanelClient
