import VpnMiddleware.Panel.ExpiryEcho
import VpnMiddleware.Panel.PanelHttp
import VpnMiddleware.Settings.SettingsService

/-!
# The Rebecca client

One admin identity; its token is kept in memory and renewed on a 401 answer.
-/

namespace VpnMiddleware.RebeccaPanelClient

open VpnMiddleware.Errors VpnMiddleware.JsonText VpnMiddleware.WebText
open VpnMiddleware.Http VpnMiddleware.Http.Exchange VpnMiddleware.PanelTypes
open VpnMiddleware.ExpiryEcho VpnMiddleware.PanelHttp
open VpnMiddleware.SettingsService

structure RebeccaConfig where
  baseUrl : String
  username : String
  password : String
  requestTimeoutMs : ℕ
  deriving DecidableEq, Repr

structure Client where
  cfg : RebeccaConfig
  token : Option String := none
  tokenExpiresAt : ℕ := 0
  deriving DecidableEq, Repr

/-- `new RebeccaPanelClient(cfg)`. -/
def construct (env : PanelEnv) (cfg : Option RebeccaSettings) :
    Except Failure Client :=
  let settings := cfg.getD {}
  let baseUrl := (settings.baseUrl.or env.panelBaseUrl).getD ""
  if baseUrl = "" then .error (.error "PANEL_BASE_URL is required")
  else .ok {
    cfg := {
      baseUrl
      username := (settings.username.or env.panelAdminUser).getD ""
      password := (settings.password.or env.panelAdminPass).getD ""
      requestTimeoutMs := settings.requestTimeoutMs.getD env.panelTimeoutMs } }

section Requests

variable {World : Type} (net : Network Failure World)

/-- The computations of this client. -/
abbrev Call (World Value : Type) :=
  Exchange Failure Client World Value

/-! ## Authentication -/

def authRequest (cfg : RebeccaConfig) : HttpRequest where
  method := "POST"
  url := cfg.baseUrl ++ "/api/admin/token"
  headers := [("content-type", "application/x-www-form-urlencoded")]
  body := some (encodeForm [("username", cfg.username),
    ("password", cfg.password), ("grant_type", "password")])
  timeoutMs := cfg.requestTimeoutMs

/-- The message of reading a member of a value that has none. -/
def cannotRead (value : Option Json) (name : String) : Failure :=
  let text := match value with
    | none => "undefined"
    | some _ => "null"
  .typeError ("Cannot read properties of " ++ text ++ " (reading '" ++ name ++
    "')")

/-- `json.access_token`. -/
def accessToken : Json → Call World (Option String)
  | .null => fail (cannotRead (some .null) "access_token")
  | json => return json.text "access_token"

/-- The request for a new token. -/
def authenticate : Call World String := do
  let client ← getClient
  let res ← fetchWithTimeout net (authRequest client.cfg)
  if !res.ok then
    fail (.panel {
      message := "panel auth failed: " ++ toString res.status
      status := some res.status
      retryable := decide (500 ≤ res.status) })
  else
    let json ← fromExcept res.json
    let token ← accessToken json
    let issued ← now net
    modifyClient fun client =>
      { client with token := token, tokenExpiresAt := issued + 3600000 }
    return token.getD "undefined"

/-- `this.token && Date.now() < this.tokenExpiresAt - 60_000`. -/
def isFresh (client : Client) (time : ℕ) : Bool :=
  client.token.any (· != "") && decide (time + 60000 < client.tokenExpiresAt)

def getToken : Call World String := do
  let client ← getClient
  let time ← now net
  if isFresh client time then return client.token.getD ""
  else authenticate net

/-! ## Requests -/

def apiRequest (cfg : RebeccaConfig) (token method path : String)
    (body : Option Json) : HttpRequest where
  method
  url := cfg.baseUrl ++ path
  headers := ("authorization", "Bearer " ++ token) ::
    if body.isSome then [("content-type", "application/json")] else []
  body := bodyText body
  timeoutMs := cfg.requestTimeoutMs

/-- The end of `request` for an answer that is not retried: the body, or
`undefined`. -/
def readBody (method path : String) (res : HttpResponse Failure) :
    Call World (Option Json) :=
  if res.status = 404 then return none
  else if !res.ok then fail (requestFailed "panel" method path res)
  else if res.status = 204 then return none
  else do
    let json ← fromExcept res.json
    return some json

/-- `request(method, path, body, false)`. -/
def requestOnce (method path : String) (body : Option Json) :
    Call World (Option Json) := do
  let token ← getToken net
  let client ← getClient
  let res ← fetchWithTimeout net (apiRequest client.cfg token method path body)
  readBody method path res

/-- `request(method, path, body)`: a 401 answer drops the token and is retried
once. -/
def request (method path : String) (body : Option Json) :
    Call World (Option Json) := do
  let token ← getToken net
  let client ← getClient
  let res ← fetchWithTimeout net (apiRequest client.cfg token method path body)
  if res.status = 401 then
    modifyClient fun client => { client with token := none, tokenExpiresAt := 0 }
    requestOnce net method path body
  else readBody method path res

/-! ## Mapping -/

def statusOf : Option String → PanelUserStatus
  | some "disabled" => .disabled
  | some "limited" => .limited
  | some "expired" => .expired
  | some "on_hold" => .onHold
  | _ => .active

/-- `expire` counts seconds; zero and null mean unlimited. -/
def reportedExpiry (dto : Json) : ReportedExpiry :=
  readSeconds (.ofMember (dto.member "expire"))

def toPanelUser (dto : Json) : PanelUser where
  username := dto.text "username"
  expireAt := reportedExpiry dto
  dataLimitBytes := dto.number "data_limit"
  status := statusOf (dto.text "status")
  usedTrafficBytes := (dto.number "used_traffic").getD 0
  subscriptionToken := dto.text "subscription_url"

def toEpochSeconds (ms : ℕ) : ℕ := ms / 1000

def expireDriftToleranceMs : ℕ := 2000

/-! ## The interface -/

def credentialJson (credential : ProxyCredential) : Json :=
  .obj ((credential.id.toList.map fun id => ("id", .str id)) ++
    (credential.password.toList.map fun password => ("password", .str password)) ++
    credential.flow.toList.map fun flow => ("flow", .str flow))

def createUserPayload (params : CreateUserParams) : Json :=
  .obj [
    ("username", .str params.username),
    ("expire", .num (toEpochSeconds params.expireAt)),
    ("data_limit", .num (params.dataLimitBytes.getD 0)),
    ("data_limit_reset_strategy", .str "no_reset"),
    ("status", .str "active"),
    ("proxies", .obj (params.proxies.map fun entry =>
      (entry.1, credentialJson entry.2))),
    ("inbounds", .obj (params.inboundsByProtocol.map fun entry =>
      (entry.1, .arr (entry.2.map .str))))]

/-- An empty allow-list would grant all inbounds. -/
def isRefused (params : CreateUserParams) : Bool :=
  params.inboundsByProtocol.all fun entry => entry.2.isEmpty

def createUser (params : CreateUserParams) : Call World PanelUser :=
  if isRefused params then
    fail (.panel {
      message := "refusing to create user with empty inbounds allow-list"
      retryable := false })
  else do
    let created ← request net "POST" "/api/user" (some (createUserPayload params))
    match created with
    | none | some .null => fail (cannotRead created "username")
    | some dto =>
        let user := toPanelUser dto
        fromExcept (assertExpiryRoundTrip expireDriftToleranceMs user
          params.expireAt "createUser")
        return user

def userPath (username : String) : String :=
  "/api/user/" ++ encodeURIComponent username

def getUser (username : String) : Call World (Option PanelUser) := do
  let dto ← request net "GET" (userPath username) none
  return (dto.filter Json.isTruthy).map toPanelUser

def setUserExpiry (username : String) (expireAt : ℕ) : Call World PanelUser := do
  let _ ← request net "PUT" (userPath username)
    (some (.obj [("expire", .num (toEpochSeconds expireAt))]))
  let user ← getUser net username
  match user with
  | none => fail (.panel {
      message := "user " ++ username ++ " vanished after expiry update" })
  | some user =>
      fromExcept (assertExpiryRoundTrip expireDriftToleranceMs user expireAt
        "setUserExpiry")
      return user

def disableUser (username : String) : Call World Unit := do
  let _ ← request net "PUT" (userPath username)
    (some (.obj [("status", .str "disabled")]))

def deleteUser (username : String) : Call World Unit := do
  let _ ← request net "DELETE" (userPath username) none

/-- `String(n.id)`. -/
def nodeId (node : Json) : String :=
  match node.number "id" with
  | some id => toString id
  | none => (node.text "id").getD "undefined"

def toPanelNode (node : Json) : PanelNode where
  panelNodeId := some (nodeId node)
  name := node.text "name"
  status := node.text "status"
  address := node.text "address"

def listNodes : Call World (List PanelNode) := do
  let nodes ← request net "GET" "/api/nodes" none
  fromExcept (mapNodes toPanelNode nodes)

/-! ## Every request is sent -/

theorem sends_authenticate : Sends (authenticate net) :=
  sendsOrSucceeds_getClient.bind_sends fun _ =>
    (sends_fetchWithTimeout net _).bind

theorem sendsOrSucceeds_getToken : SendsOrSucceeds (getToken net) := by
  apply sendsOrSucceeds_getClient.bind_right
  intro client
  apply (sendsOrSucceeds_now net).bind_right
  intro time
  split_ifs
  · exact sendsOrSucceeds_pure _
  · exact (sends_authenticate net).sendsOrSucceeds

theorem sends_request (method path : String) (body : Option Json) :
    Sends (request net method path body) := by
  apply (sendsOrSucceeds_getToken net).bind_sends
  intro token
  apply sendsOrSucceeds_getClient.bind_sends
  intro client
  exact (sends_fetchWithTimeout net _).bind

theorem sends_getUser (username : String) : Sends (getUser net username) :=
  (sends_request net _ _ _).bind

theorem sends_setUserExpiry (username : String) (expireAt : ℕ) :
    Sends (setUserExpiry net username expireAt) :=
  (sends_request net _ _ _).bind

theorem sends_disableUser (username : String) :
    Sends (disableUser net username) :=
  (sends_request net _ _ _).bind

theorem sends_listNodes : Sends (listNodes net) :=
  (sends_request net _ _ _).bind

/-! ## Requests go to the client's panel -/

/-- The client of the panel at this address. -/
def IsAt (address : String) (client : Client) : Prop :=
  client.cfg.baseUrl = address

section Address

variable {address : String}

theorem staysBelow_authenticate :
    StaysBelow (IsAt address) address (authenticate net) := by
  apply StaysBelow.bind_getClient
  intro client hat
  apply (staysBelow_fetchWithTimeout net
    ⟨"/api/admin/token", hat ▸ rfl⟩).bind
  intro res
  split_ifs
  · exact staysBelow_fail _
  · apply (staysBelow_fromExcept _).bind
    intro json
    apply StaysBelow.bind
    · simp only [accessToken]
      split
      · exact staysBelow_fail _
      · exact staysBelow_pure _
    · intro token
      apply (staysBelow_now net).bind
      intro issued
      apply StaysBelow.bind
      · exact staysBelow_modifyClient fun _ hclient => hclient
      · exact fun _ => staysBelow_pure _

theorem staysBelow_getToken :
    StaysBelow (IsAt address) address (getToken net) := by
  apply StaysBelow.bind_getClient
  intro client _
  apply (staysBelow_now net).bind
  intro time
  split_ifs
  · exact staysBelow_pure _
  · exact staysBelow_authenticate net

theorem staysBelow_readBody (method path : String) (res : HttpResponse Failure) :
    StaysBelow (IsAt address) address
      (readBody method path res : Call World (Option Json)) := by
  rw [readBody]
  split_ifs
  · exact staysBelow_pure _
  · exact staysBelow_fail _
  · exact staysBelow_pure _
  · exact (staysBelow_fromExcept _).bind fun _ => staysBelow_pure _

theorem staysBelow_requestOnce (method path : String) (body : Option Json) :
    StaysBelow (IsAt address) address (requestOnce net method path body) := by
  apply (staysBelow_getToken net).bind
  intro token
  apply StaysBelow.bind_getClient
  intro client hat
  apply (staysBelow_fetchWithTimeout net ⟨path, hat ▸ rfl⟩).bind
  exact fun res => staysBelow_readBody method path res

theorem staysBelow_request (method path : String) (body : Option Json) :
    StaysBelow (IsAt address) address (request net method path body) := by
  apply (staysBelow_getToken net).bind
  intro token
  apply StaysBelow.bind_getClient
  intro client hat
  apply (staysBelow_fetchWithTimeout net ⟨path, hat ▸ rfl⟩).bind
  intro res
  split_ifs
  · apply StaysBelow.bind
    · exact staysBelow_modifyClient fun _ hclient => hclient
    · exact fun _ => staysBelow_requestOnce net method path body
  · exact staysBelow_readBody method path res

theorem staysBelow_createUser (params : CreateUserParams) :
    StaysBelow (IsAt address) address (createUser net params) := by
  rw [createUser]
  split_ifs
  · exact staysBelow_fail _
  · apply (staysBelow_request net _ _ _).bind
    intro created
    split
    · exact staysBelow_fail _
    · exact staysBelow_fail _
    · exact (staysBelow_fromExcept _).bind fun _ => staysBelow_pure _

theorem staysBelow_getUser (username : String) :
    StaysBelow (IsAt address) address (getUser net username) :=
  (staysBelow_request net _ _ _).bind fun _ => staysBelow_pure _

theorem staysBelow_setUserExpiry (username : String) (expireAt : ℕ) :
    StaysBelow (IsAt address) address (setUserExpiry net username expireAt) := by
  apply (staysBelow_request net _ _ _).bind
  intro _
  apply (staysBelow_getUser net username).bind
  intro user
  split
  · exact staysBelow_fail _
  · exact (staysBelow_fromExcept _).bind fun _ => staysBelow_pure _

theorem staysBelow_disableUser (username : String) :
    StaysBelow (IsAt address) address (disableUser net username) :=
  (staysBelow_request net _ _ _).bind fun _ => staysBelow_pure _

theorem staysBelow_deleteUser (username : String) :
    StaysBelow (IsAt address) address (deleteUser net username) :=
  (staysBelow_request net _ _ _).bind fun _ => staysBelow_pure _

theorem staysBelow_listNodes :
    StaysBelow (IsAt address) address (listNodes net) :=
  (staysBelow_request net _ _ _).bind fun _ => staysBelow_fromExcept _

end Address

end Requests

end VpnMiddleware.RebeccaPanelClient
