import VpnMiddleware.Core.PathSegment
import VpnMiddleware.Invariants.ExpiryEncodings
import VpnMiddleware.Invariants.PanelContract

/-!
# The Remnawave client against its panel

The interface that the client relies on: users are added by `POST /users`,
changed by name with `PATCH /users`, reported by name, and removed by a uuid
that has to be looked up first; responses are wrapped.  Every call of the client
is one exchange with the ideal panel.
-/

namespace VpnMiddleware.RemnawaveContract

open VpnMiddleware.Errors VpnMiddleware.Environment VpnMiddleware.JsonText
open VpnMiddleware.WebText VpnMiddleware.Http VpnMiddleware.Http.Exchange
open VpnMiddleware.PanelTypes VpnMiddleware.PanelHttp VpnMiddleware.IdealPanel
open VpnMiddleware.PanelContract VpnMiddleware.RemnawavePanelClient
open VpnMiddleware.ExpiryEcho VpnMiddleware.ExpiryEncodings

variable {World : Type}

/-! ## The interface of the panel -/

/-- The account after a change of the members that the body names. -/
def modified (json : Json) (account : Account) : Account where
  enabled := match json.text "status" with
    | some status => status != "DISABLED"
    | none => account.enabled
  expireAt := match (json.text "expireAt").bind DateText.parseDateTime with
    | some ms => ms
    | none => account.expireAt

/-- The account that a body describes. -/
def added (json : Json) : Account :=
  modified json ⟨true, 0⟩

/-- The body reports the account and its uuid. -/
structure Describes (username uuid : String) (account : Account) (dto : Json) :
    Prop where
  truthy : dto.isTruthy = true
  username : dto.text "username" = some username
  uuid : uuidOf (some dto) = some uuid
  expireAt : ∃ text, dto.member "expireAt" = some (.str text) ∧ text ≠ "" ∧
    isoDate text = some (account.expireAt : ℚ)
  status : dto.text "status" = some "DISABLED" ↔ account.enabled = false

/-- A user that exists is reported, and no other. -/
inductive Reports (username uuid : String) : Option Account → Option Json → Prop
  | missing : Reports username uuid none none
  | found {account : Account} {dto : Json} :
      Describes username uuid account dto →
      Reports username uuid (some account) (some dto)

/-- The requests below `/api`; `uuids` are those of the users.  Looking a user
up does not change its uuid. -/
structure Contract (net : Network Failure World) (apiBase : String)
    (panelOf : World → Panel) (uuids : World → String → String) : Prop where
  keepsUuids : ∀ request world, request.method = "GET" →
    uuids (net.fetch request world).2 = uuids world
  getUser : ∀ request world username, request.method = "GET" →
    request.url = apiBase ++ byUsernamePath username →
    Handles net panelOf request world id fun panel payload =>
      Reports username (uuids world username) (panel username)
        (payload.map unwrap)
  modifyUser : ∀ request world username json, request.method = "PATCH" →
    request.url = apiBase ++ "/users" →
    request.body.bind jsonDecode = some json →
    json.text "username" = some username →
    Handles net panelOf request world
      (fun panel => Function.update panel username
        ((panel username).map (modified json)))
      fun panel payload => ∃ uuid, Reports username uuid
        ((panel username).map (modified json)) (payload.map unwrap)
  removeUser : ∀ request world username, request.method = "DELETE" →
    request.url = apiBase ++ ("/users/" ++
      encodeURIComponent (uuids world username)) →
    panelOf world username ≠ none →
    Handles net panelOf request world
      (fun panel => Function.update panel username none) fun _ _ => True
  addUser : ∀ request world username json, request.method = "POST" →
    request.url = apiBase ++ "/users" →
    request.body.bind jsonDecode = some json →
    json.text "username" = some username → panelOf world username = none →
    Handles net panelOf request world
      (fun panel => Function.update panel username (some (added json)))
      fun _ payload => ∃ uuid, Reports username uuid (some (added json))
        (payload.map unwrap)
  refuseUser : ∀ request world username json, request.method = "POST" →
    request.url = apiBase ++ "/users" →
    request.body.bind jsonDecode = some json →
    json.text "username" = some username → panelOf world username ≠ none →
    Handles net panelOf request world id fun _ _ => False

/-! ## One request -/

section Request

variable {net : Network Failure World} {panelOf : World → Panel}
variable {method path : String} {body : Option Json}
variable {client : Client} {world : World}
variable {effect : Panel → Panel} {Replies : Panel → Option Json → Prop}

/-- A request is sent once; the client does not change. -/
theorem request_outcome (net : Network Failure World) (method path : String)
    (body : Option Json) (client : Client) (world : World) :
    (request net method path body client world).world =
        (net.fetch (apiRequest client method path body) world).2 ∧
      (request net method path body client world).client = client := by
  rw [request, bind_apply]
  simp only [getClient, bind_apply, fetchWithTimeout]
  cases (net.fetch (apiRequest client method path body) world).1 with
  | error cause => exact ⟨rfl, rfl⟩
  | ok res =>
      simp only
      split
      · exact ⟨rfl, rfl⟩
      · split
        · exact ⟨rfl, rfl⟩
        · split <;> exact ⟨rfl, rfl⟩

/-- The result of an answered request. -/
theorem request_result {res : HttpResponse Failure}
    (hfetch : (net.fetch (apiRequest client method path body) world).1 =
      .ok res) :
    (request net method path body client world).result =
      if res.status = 404 then .ok none
      else if res.status = 204 then .ok none
      else if (!res.ok) = true then
        .error (requestFailed "remnawave" method path res)
      else .ok (some (unwrap (jsonOf res))) := by
  rw [request, bind_apply]
  simp only [getClient, bind_apply, fetchWithTimeout]
  rw [hfetch]
  simp only
  split
  · rfl
  · split
    · rfl
    · split <;> rfl

theorem request_exchanged
    (hhandles : Handles net panelOf (apiRequest client method path body) world
      effect fun panel payload => Replies panel (payload.map unwrap)) :
    Exchanged panelOf effect Replies (panelOf world)
      (request net method path body client world) := by
  obtain ⟨hworld, -⟩ := request_outcome net method path body client world
  cases hhandles with
  | @served res payload hfetch hanswers hreplies hpanel =>
      refine .served ?_ hreplies (hworld ▸ hpanel)
      rw [request_result hfetch]
      cases hanswers with
      | missing hstatus => exact if_pos hstatus
      | empty hstatus =>
          have hne : res.status ≠ 404 := by omega
          rw [if_neg hne, if_pos hstatus]
          rfl
      | body hok hstatus hjson =>
          have hne : res.status ≠ 404 := by
            intro hmissing
            rw [HttpResponse.ok, hmissing] at hok
            revert hok
            decide
          rw [if_neg hne, if_neg hstatus, hok, jsonOf, hjson]
          rfl
  | @unauthorized res hfetch hstatus hpanel =>
      refine @Exchanged.failed _ _ _ _ _ _ _
        (requestFailed "remnawave" method path res) ?_
        (Or.inl (hworld ▸ hpanel))
      have hfault : res.ok = false := by
        rw [HttpResponse.ok, hstatus]
        decide
      rw [request_result hfetch, if_neg (by omega), if_neg (by omega), hfault]
      rfl
  | failed hfault hpanel =>
      cases hfetch : (net.fetch (apiRequest client method path body) world).1 with
      | error cause =>
          refine @Exchanged.failed _ _ _ _ _ _ _ cause ?_ (hworld ▸ hpanel)
          rw [request, bind_apply]
          simp only [getClient, bind_apply, fetchWithTimeout]
          rw [hfetch]
      | ok res =>
          rw [hfetch] at hfault
          obtain ⟨hok, hmissing, -⟩ := hfault
          have hbody : res.status ≠ 204 := by
            intro hempty
            rw [HttpResponse.ok, hempty] at hok
            revert hok
            decide
          refine @Exchanged.failed _ _ _ _ _ _ _
            (requestFailed "remnawave" method path res) ?_ (hworld ▸ hpanel)
          rw [request_result hfetch, if_neg hmissing, if_neg hbody, hok]
          rfl

end Request

/-! ## Calls -/

/-- The method of the client that a call of the services runs. -/
def perform (net : Network Failure World) :
    PanelCall → Call World (Option PanelUser)
  | .createUser params => do
      let user ← createUser net params
      return some user
  | .setUserExpiry username expireAt => do
      let user ← RemnawavePanelClient.setUserExpiry net username expireAt
      return some user
  | .getUser username => getUser net username
  | .disableUser username => do
      disableUser net username
      return none
  | .deleteUser username => do
      deleteUser net username
      return none

section Calls

variable {net : Network Failure World} {panelOf : World → Panel}
variable {uuids : World → String → String}
variable {apiBase username uuid : String} {client : Client} {world : World}
variable {account : Account} {dto : Json}

theorem statusOf_eq_disabled (status : Option String) :
    statusOf status = .disabled ↔ status = some "DISABLED" := by
  rw [statusOf.eq_def]
  split <;> simp_all

/-- A reported account is read as it is stored. -/
theorem mirrors_toPanelUser (hstored : IsStored .remnawave account)
    (hdescribes : Describes username uuid account dto) :
    Mirrors username (toPanelUser dto) account := by
  obtain ⟨text, hmember, hne, hread⟩ := hdescribes.expireAt
  refine ⟨hdescribes.username, ?_, ?_⟩
  · have htruthy : Echo.isTruthy (.text text) = true := by
      rw [Echo.isTruthy, bne_iff_ne]
      exact hne
    simp only [toPanelUser, reportedExpiry, hmember, Echo.ofMember]
    rw [readDate, htruthy, if_pos rfl, Echo.timeValue, hread, dateOf,
      timeClip_natCast hstored.2.2]
  · simp only [toPanelUser]
    rw [statusOf_eq_disabled]
    exact hdescribes.status

/-- What was stored passes the check of what was sent. -/
theorem assertExpiryRoundTrip_stored {user : PanelUser} {sent : ℕ} (op : String)
    (hexpiry : user.expireAt = .at sent) :
    assertExpiryRoundTrip RemnawavePanelClient.expireDriftToleranceMs user sent
      op = .ok () := by
  have hnear : hasDrifted RemnawavePanelClient.expireDriftToleranceMs sent
      user.expireAt = false := by
    rw [hexpiry, hasDrifted, decide_eq_false_iff_not,
      RemnawavePanelClient.expireDriftToleranceMs]
    omega
  rw [assertExpiryRoundTrip, hnear]
  rfl

/-- The panel reads the instant that the client wrote. -/
theorem parseDateTime_isoString {ms : ℕ} (hms : ms ≤ 8640000000000000) :
    DateText.parseDateTime (isoString ms) = some ms := by
  apply DateText.parseDateTime_toISOString
  exact if_pos hms

/-- The request that `request` sends. -/
theorem requestUrl {method path : String} {body : Option Json}
    (hurl : client.apiBase = apiBase) :
    (apiRequest client method path body).url = apiBase ++ path :=
  congrArg (· ++ path) hurl

/-! ### Creating a user -/

theorem text_createUserPayload (cfg : RemnawaveConfig)
    (params : CreateUserParams) :
    (createUserPayload cfg params).text "username" = some params.username ∧
      (createUserPayload cfg params).text "status" = some "ACTIVE" ∧
      (createUserPayload cfg params).text "expireAt" =
        some (isoString params.expireAt) := by
  refine ⟨rfl, rfl, ?_⟩
  simp only [createUserPayload, Json.text, Json.member, List.cons_append,
    List.lookup_cons, Option.bind_some, Json.str?, String.reduceBEq]

theorem added_createUserPayload {cfg : RemnawaveConfig}
    {params : CreateUserParams} (hsends : SendsDate (.createUser params)) :
    added (createUserPayload cfg params) =
      ⟨true, storedExpiry .remnawave params.expireAt⟩ := by
  obtain ⟨-, hstatus, hexpiry⟩ := text_createUserPayload cfg params
  rw [added, modified, hstatus, hexpiry, Option.bind_some,
    parseDateTime_isoString hsends.2]
  rfl

/-- The end of `createUser`. -/
def readCreated (params : CreateUserParams) (created : Option Json) :
    Call World PanelUser :=
  match created.filter Json.isTruthy with
  | none => fail (.panel {
      message := "remnawave createUser returned no body"
      retryable := false })
  | some dto => do
      let user := toPanelUser dto
      fromExcept (assertExpiryRoundTrip
        RemnawavePanelClient.expireDriftToleranceMs user params.expireAt
        "createUser")
      return user

theorem createUser_apply {params : CreateUserParams}
    (hrefused : isRefused client.cfg ≠ true) :
    createUser net params client world = (do
      let created ← request net "POST" "/users"
        (some (createUserPayload client.cfg params))
      readCreated params created : Call World PanelUser) client world := by
  rw [createUser, bind_apply]
  simp only [getClient, if_neg hrefused, List.nil_append]
  rfl

theorem readCreated_found {params : CreateUserParams}
    (hsends : SendsDate (.createUser params))
    (hdescribes : Describes params.username uuid
      ⟨true, storedExpiry .remnawave params.expireAt⟩ dto) :
    readCreated params (some dto) client world =
      ⟨.ok (toPanelUser dto), [], client, world⟩ := by
  have hmirrors := mirrors_toPanelUser
    (isStored_storedExpiry hsends.1 hsends.2 rfl) hdescribes
  have hexpiry : (toPanelUser dto).expireAt = .at params.expireAt :=
    hmirrors.expireAt
  have hchecked := assertExpiryRoundTrip_stored "createUser" hexpiry
  simp only [readCreated, Option.filter_some_pos hdescribes.truthy, bind_apply,
    fromExcept, hchecked]
  rfl

/-- A user is created, unless there is one of this name. -/
theorem createUser_isExchange (hcontract : Contract net apiBase panelOf uuids)
    (hurl : client.apiBase = apiBase) {params : CreateUserParams}
    (hsends : SendsDate (.createUser params)) (now : ℕ) :
    IsExchange panelOf .remnawave now (.createUser params) (panelOf world)
        (perform net (.createUser params) client world) ∧
      (perform net (.createUser params) client world).client = client := by
  by_cases hrefused : isRefused client.cfg = true
  · simp only [perform, createUser, bind_apply, getClient, if_pos hrefused, fail]
    exact ⟨isExchange_of_error rfl (Or.inl rfl), trivial⟩
  · simp only [perform, bind_apply, createUser_apply hrefused]
    obtain ⟨-, hclient⟩ := request_outcome net "POST" "/users"
      (some (createUserPayload client.cfg params)) client world
    obtain ⟨hname, -, -⟩ := text_createUserPayload client.cfg params
    by_cases hnew : panelOf world params.username = none
    · have hexchanged := @request_exchanged _ net panelOf "POST" "/users"
        (some (createUserPayload client.cfg params)) client world _
        (fun _ payload => ∃ uuid, Reports params.username uuid
          (some (added (createUserPayload client.cfg params))) payload)
        (hcontract.addUser (apiRequest client "POST" "/users"
          (some (createUserPayload client.cfg params))) world params.username
          (createUserPayload client.cfg params) rfl (requestUrl hurl)
          (decode_bodyText _) hname hnew)
      rw [added_createUserPayload hsends] at hexchanged
      cases hexchanged with
      | failed herror hpanel =>
          rw [herror]
          exact ⟨isExchange_of_error rfl hpanel, hclient⟩
      | served hok hreplies hpanel =>
          rw [hok]
          obtain ⟨uuid, hreports⟩ := hreplies
          cases hreports with
          | found hdescribes =>
              simp only [readCreated_found hsends hdescribes]
              exact ⟨isExchange_of_serve (.user (mirrors_toPanelUser
                (isStored_storedExpiry hsends.1 hsends.2 rfl) hdescribes))
                hpanel, hclient⟩
    · have hexchanged := @request_exchanged _ net panelOf "POST" "/users"
        (some (createUserPayload client.cfg params)) client world _
        (fun _ _ => False) (hcontract.refuseUser
          (apiRequest client "POST" "/users"
            (some (createUserPayload client.cfg params))) world params.username
          (createUserPayload client.cfg params) rfl (requestUrl hurl)
          (decode_bodyText _) hname hnew)
      cases hexchanged with
      | failed herror hpanel =>
          rw [herror]
          exact ⟨isExchange_of_error rfl (Or.inl (hpanel.elim id id)), hclient⟩
      | served _ hreplies _ => exact hreplies.elim

/-! ### The other calls -/

/-- The lookup of a user. -/
theorem lookup_exchanged (hcontract : Contract net apiBase panelOf uuids)
    (hurl : client.apiBase = apiBase) (username : String) :
    Exchanged panelOf id (fun panel payload =>
        Reports username (uuids world username) (panel username) payload)
      (panelOf world)
      (request net "GET" (byUsernamePath username) none client world) :=
  @request_exchanged _ net panelOf "GET" (byUsernamePath username) none client
    world _ (fun panel payload => Reports username (uuids world username)
      (panel username) payload)
    (hcontract.getUser (apiRequest client "GET" (byUsernamePath username) none)
      world username rfl (requestUrl hurl))

/-- A change of a user. -/
theorem patch_exchanged (hcontract : Contract net apiBase panelOf uuids)
    (hurl : client.apiBase = apiBase) {json : Json}
    (hname : json.text "username" = some username) :
    Exchanged panelOf
      (fun panel => Function.update panel username
        ((panel username).map (modified json)))
      (fun panel payload => ∃ uuid, Reports username uuid
        ((panel username).map (modified json)) payload)
      (panelOf world) (request net "PATCH" "/users" (some json) client world) :=
  @request_exchanged _ net panelOf "PATCH" "/users" (some json) client world _
    (fun panel payload => ∃ uuid, Reports username uuid
      ((panel username).map (modified json)) payload)
    (hcontract.modifyUser (apiRequest client "PATCH" "/users" (some json)) world
      username json rfl (requestUrl hurl) (decode_bodyText json) hname)

theorem getUser_outcome (hcontract : Contract net apiBase panelOf uuids)
    (hurl : client.apiBase = apiBase)
    (hstored : AllStored .remnawave (panelOf world)) :
    ReadsUser (panelOf world) username
        (RemnawavePanelClient.getUser net username client world).result ∧
      panelOf (RemnawavePanelClient.getUser net username client world).world =
        panelOf world ∧
      (RemnawavePanelClient.getUser net username client world).client =
        client := by
  have hexchanged := @lookup_exchanged _ net panelOf uuids apiBase client world
    hcontract hurl username
  obtain ⟨-, hclient⟩ := request_outcome net "GET" (byUsernamePath username) none
    client world
  simp only [RemnawavePanelClient.getUser, bind_apply]
  cases hexchanged with
  | failed herror hpanel =>
      rw [herror]
      exact ⟨.error _, hpanel.elim id id, hclient⟩
  | served hok hreplies hpanel =>
      rw [hok]
      generalize hheld : panelOf world username = held at hreplies
      refine ⟨?_, hpanel, hclient⟩
      cases hreplies with
      | missing => exact .missing hheld
      | found hdescribes =>
          simp only [Option.filter_some_pos hdescribes.truthy]
          exact .found hheld
            (mirrors_toPanelUser (hstored _ _ hheld) hdescribes)

theorem getUser_isExchange (hcontract : Contract net apiBase panelOf uuids)
    (hurl : client.apiBase = apiBase)
    (hstored : AllStored .remnawave (panelOf world)) (now : ℕ) :
    IsExchange panelOf .remnawave now (.getUser username) (panelOf world)
        (perform net (.getUser username) client world) ∧
      (perform net (.getUser username) client world).client = client := by
  obtain ⟨hreads, hpanel, hclient⟩ :=
    @getUser_outcome _ net panelOf uuids apiBase username client world hcontract
      hurl hstored
  exact ⟨isExchange_of_reads hreads hpanel, hclient⟩

theorem disableUser_isExchange (hcontract : Contract net apiBase panelOf uuids)
    (hurl : client.apiBase = apiBase) (now : ℕ) :
    IsExchange panelOf .remnawave now (.disableUser username) (panelOf world)
        (perform net (.disableUser username) client world) ∧
      (perform net (.disableUser username) client world).client = client := by
  have hexchanged := @patch_exchanged _ net panelOf uuids apiBase username client
    world hcontract hurl
    (.obj [("username", .str username), ("status", .str "DISABLED")]) rfl
  obtain ⟨-, hclient⟩ := request_outcome net "PATCH" "/users"
    (some (.obj [("username", .str username), ("status", .str "DISABLED")]))
    client world
  simp only [perform, RemnawavePanelClient.disableUser, bind_apply]
  cases hexchanged with
  | failed herror hpanel =>
      rw [herror]
      exact ⟨isExchange_of_error rfl hpanel, hclient⟩
  | served hok _ hpanel =>
      rw [hok]
      exact ⟨isExchange_of_serve .none hpanel, hclient⟩

/-- A user is removed by the uuid that the lookup reported. -/
theorem deleteUser_isExchange (hcontract : Contract net apiBase panelOf uuids)
    (hurl : client.apiBase = apiBase) (now : ℕ) :
    IsExchange panelOf .remnawave now (.deleteUser username) (panelOf world)
        (perform net (.deleteUser username) client world) ∧
      (perform net (.deleteUser username) client world).client = client := by
  have hlookup := @lookup_exchanged _ net panelOf uuids apiBase client world
    hcontract hurl username
  obtain ⟨hsent, hclient⟩ := request_outcome net "GET" (byUsernamePath username)
    none client world
  simp only [perform, RemnawavePanelClient.deleteUser, bind_apply]
  cases hlookup with
  | failed herror hpanel =>
      rw [herror]
      exact ⟨isExchange_of_error rfl (Or.inl (hpanel.elim id id)), hclient⟩
  | served hok hreplies hpanel =>
      rw [hok]
      generalize hheld : panelOf world username = held at hreplies
      cases hreplies with
      | missing =>
          refine ⟨isExchange_of_serve .none (hpanel.trans ?_), hclient⟩
          exact (hheld ▸ Function.update_eq_self username (panelOf world)).symm
      | found hdescribes =>
          have huuids := hcontract.keepsUuids
            (apiRequest client "GET" (byUsernamePath username) none) world rfl
          rw [← hsent] at huuids
          simp only [hdescribes.uuid, hclient, bind_apply]
          generalize hafter : (request net "GET" (byUsernamePath username) none
            client world).world = after at hpanel huuids
          have hremoved := @request_exchanged _ net panelOf "DELETE"
            ("/users/" ++ encodeURIComponent (uuids world username)) none client
            after _ (fun _ _ => True) (hcontract.removeUser
              (apiRequest client "DELETE" ("/users/" ++
                encodeURIComponent (uuids world username)) none) after username
              rfl (huuids ▸ requestUrl hurl) (by simp [hpanel, hheld]))
          obtain ⟨-, hsame⟩ := request_outcome net "DELETE" ("/users/" ++
            encodeURIComponent (uuids world username)) none client after
          rw [hpanel] at hremoved
          cases hremoved with
          | failed herror hpanel =>
              rw [herror]
              exact ⟨isExchange_of_error rfl hpanel, hsame⟩
          | served hok _ hpanel =>
              rw [hok]
              exact ⟨isExchange_of_serve .none hpanel, hsame⟩

/-! ### Pushing an expiry -/

/-- The body of a push. -/
def pushPayload (username : String) (expireAt : ℕ) : Json :=
  .obj [("username", .str username), ("status", .str "ACTIVE"),
    ("expireAt", .str (isoString expireAt))]

/-- The end of a push. -/
def readUpdated (username : String) (expireAt : ℕ) (updated : Option Json) :
    Call World PanelUser :=
  match updated.filter Json.isTruthy with
  | none => fail (IdealPanel.vanished username "after expiry update")
  | some dto => do
      let user := toPanelUser dto
      fromExcept (assertExpiryRoundTrip
        RemnawavePanelClient.expireDriftToleranceMs user expireAt
        "setUserExpiry")
      return user

/-- An instant that has passed is not sent. -/
theorem setUserExpiry_past {expireAt : ℕ}
    (hpast : expireAt ≤ net.now world + RemnawavePanelClient.expireDriftToleranceMs) :
    RemnawavePanelClient.setUserExpiry net username expireAt client world = (do
      let current ← RemnawavePanelClient.getUser net username
      match current with
      | none => fail (IdealPanel.vanished username "during past-expiry no-op")
      | some user => return user : Call World PanelUser) client world := by
  rw [RemnawavePanelClient.setUserExpiry, bind_apply]
  simp only [now, if_pos hpast, List.nil_append]
  rfl

theorem setUserExpiry_future {expireAt : ℕ}
    (hfuture : ¬ expireAt ≤
      net.now world + RemnawavePanelClient.expireDriftToleranceMs) :
    RemnawavePanelClient.setUserExpiry net username expireAt client world = (do
      let updated ← request net "PATCH" "/users"
        (some (pushPayload username expireAt))
      readUpdated username expireAt updated : Call World PanelUser) client
        world := by
  rw [RemnawavePanelClient.setUserExpiry, bind_apply]
  simp only [now, if_neg hfuture, List.nil_append]
  rfl

theorem modified_pushPayload {expireAt : ℕ}
    (hsends : SendsDate (.setUserExpiry username expireAt)) :
    modified (pushPayload username expireAt) =
      pushedAccount .remnawave expireAt := by
  funext account
  have hstatus : (pushPayload username expireAt).text "status" =
      some "ACTIVE" := rfl
  have hexpiry : (pushPayload username expireAt).text "expireAt" =
      some (isoString expireAt) := by
    simp only [pushPayload, Json.text, Json.member, List.lookup_cons,
      Option.bind_some, Json.str?, String.reduceBEq]
  rw [modified, hstatus, hexpiry, Option.bind_some,
    parseDateTime_isoString hsends.2]
  rfl

theorem readUpdated_found {expireAt : ℕ}
    (hsends : SendsDate (.setUserExpiry username expireAt))
    (hdescribes : Describes username uuid
      (pushedAccount .remnawave expireAt account) dto) :
    readUpdated username expireAt (some dto) client world =
      ⟨.ok (toPanelUser dto), [], client, world⟩ := by
  have hmirrors := mirrors_toPanelUser
    (isStored_storedExpiry hsends.1 hsends.2 rfl) hdescribes
  have hexpiry : (toPanelUser dto).expireAt = .at expireAt := hmirrors.expireAt
  have hchecked := assertExpiryRoundTrip_stored "setUserExpiry" hexpiry
  simp only [readUpdated, Option.filter_some_pos hdescribes.truthy, bind_apply,
    fromExcept, hchecked]
  rfl

/-- A push of an instant that has passed only looks the user up. -/
theorem pastExpiry_isExchange (hcontract : Contract net apiBase panelOf uuids)
    (hurl : client.apiBase = apiBase)
    (hstored : AllStored .remnawave (panelOf world)) {expireAt : ℕ}
    (hpast : expireAt ≤
      net.now world + RemnawavePanelClient.expireDriftToleranceMs) :
    IsExchange panelOf .remnawave (net.now world)
        (.setUserExpiry username expireAt) (panelOf world)
        (perform net (.setUserExpiry username expireAt) client world) ∧
      (perform net (.setUserExpiry username expireAt) client
        world).client = client := by
  have hnoOp : isPastNoOp .remnawave (net.now world) expireAt = true :=
    decide_eq_true hpast
  have hserve : (serve .remnawave (net.now world)
      (.setUserExpiry username expireAt) (panelOf world)).2 = panelOf world := by
    rw [serve, setUserExpiry_panel, if_pos hnoOp]
  obtain ⟨hreads, hpanel, hclient⟩ :=
    @getUser_outcome _ net panelOf uuids apiBase username client world hcontract
      hurl hstored
  simp only [perform, bind_apply, setUserExpiry_past hpast]
  generalize (RemnawavePanelClient.getUser net username client
    world).result = result at hreads
  cases hreads with
  | error cause => exact ⟨isExchange_of_error rfl (Or.inl hpanel), hclient⟩
  | missing hheld =>
      refine ⟨isExchange_of_serve ?_ (hpanel.trans hserve.symm), hclient⟩
      simp only [serve, IdealPanel.setUserExpiry, hheld, if_pos hnoOp]
      exact .error _
  | found hheld hmirrors =>
      refine ⟨isExchange_of_serve ?_ (hpanel.trans hserve.symm), hclient⟩
      simp only [serve, IdealPanel.setUserExpiry, hheld, if_pos hnoOp]
      exact .user hmirrors

/-- A later instant is one change, which also enables the user. -/
theorem futureExpiry_isExchange (hcontract : Contract net apiBase panelOf uuids)
    (hurl : client.apiBase = apiBase) {expireAt : ℕ}
    (hsends : SendsDate (.setUserExpiry username expireAt))
    (hfuture : ¬ expireAt ≤
      net.now world + RemnawavePanelClient.expireDriftToleranceMs) :
    IsExchange panelOf .remnawave (net.now world)
        (.setUserExpiry username expireAt) (panelOf world)
        (perform net (.setUserExpiry username expireAt) client world) ∧
      (perform net (.setUserExpiry username expireAt) client
        world).client = client := by
  have hnoOp : ¬ isPastNoOp .remnawave (net.now world) expireAt = true :=
    fun hpast => hfuture (of_decide_eq_true hpast)
  have hserve : (serve .remnawave (net.now world)
      (.setUserExpiry username expireAt) (panelOf world)).2 =
      Function.update (panelOf world) username
        ((panelOf world username).map (pushedAccount .remnawave expireAt)) := by
    rw [serve, setUserExpiry_panel, if_neg hnoOp]
  have hexchanged := @patch_exchanged _ net panelOf uuids apiBase username client
    world hcontract hurl (pushPayload username expireAt) rfl
  rw [modified_pushPayload hsends] at hexchanged
  obtain ⟨-, hclient⟩ := request_outcome net "PATCH" "/users"
    (some (pushPayload username expireAt)) client world
  simp only [perform, bind_apply, setUserExpiry_future hfuture]
  cases hexchanged with
  | failed herror hpanel =>
      rw [herror]
      rw [← hserve] at hpanel
      exact ⟨isExchange_of_error rfl hpanel, hclient⟩
  | served hok hreplies hpanel =>
      rw [hok]
      rw [← hserve] at hpanel
      obtain ⟨uuid, hreports⟩ := hreplies
      cases hheld : panelOf world username with
      | none =>
          rw [hheld] at hreports
          cases hreports with
          | missing =>
              refine ⟨isExchange_of_serve ?_ hpanel, hclient⟩
              simp only [serve, IdealPanel.setUserExpiry, hheld, if_neg hnoOp]
              exact Agrees.error (IdealPanel.vanished username
                "after expiry update")
      | some account =>
          rw [hheld] at hreports
          cases hreports with
          | found hdescribes =>
              simp only [readUpdated_found hsends hdescribes]
              refine ⟨isExchange_of_serve ?_ hpanel, hclient⟩
              simp only [serve, IdealPanel.setUserExpiry, hheld, if_neg hnoOp]
              exact .user (mirrors_toPanelUser
                (isStored_storedExpiry hsends.1 hsends.2 rfl) hdescribes)

/-- Against a panel that keeps its contract every call of the client, in any
sequence, is one exchange of the ideal panel: also the removal by a uuid that is
looked up first, and the push of an instant that has passed. -/
theorem calls_are_panel_exchanges
    (hcontract : Contract net apiBase panelOf uuids)
    (hurl : client.apiBase = apiBase) {calls : List PanelCall}
    (hsends : ∀ call ∈ calls, SendsDate call)
    (hstored : AllStored .remnawave (panelOf world)) :
    ∀ entry ∈ history (perform net) calls client world,
      IsExchange panelOf .remnawave (net.now entry.world) entry.call
        (panelOf entry.world) entry.outcome := by
  refine @history_isExchange _ _ panelOf .remnawave net.now (perform net)
    (fun client => client.apiBase = apiBase) ?_ calls hsends client hurl world
    hstored
  intro call client world hurl hstored hcall
  have hbase : ∀ {after : Client}, after = client → after.apiBase = apiBase :=
    fun hsame => (congrArg Client.apiBase hsame).trans hurl
  cases call with
  | createUser params =>
      exact (createUser_isExchange hcontract hurl hcall _).imp id hbase
  | setUserExpiry username expireAt =>
      by_cases hpast : expireAt ≤
          net.now world + RemnawavePanelClient.expireDriftToleranceMs
      · exact (pastExpiry_isExchange hcontract hurl hstored hpast).imp id hbase
      · exact (futureExpiry_isExchange hcontract hurl hcall hpast).imp id hbase
  | getUser username =>
      exact (getUser_isExchange hcontract hurl hstored _).imp id hbase
  | disableUser username =>
      exact (disableUser_isExchange hcontract hurl _).imp id hbase
  | deleteUser username =>
      exact (deleteUser_isExchange hcontract hurl _).imp id hbase

end Calls

/-! ## A panel that keeps the contract -/

section Server

open VpnMiddleware.PathSegment

/-- The uuid of a user, derived from its name. -/
def uuidOfName (username : String) : String := "uuid-" ++ username

/-- The user of a uuid. -/
def nameOfUuid (uuid : String) : String :=
  String.ofList (uuid.toList.drop 5)

def userDto (username : String) (account : Account) : Json :=
  .obj [("uuid", .str (uuidOfName username)), ("username", .str username),
    ("status", .str (if account.enabled then "ACTIVE" else "DISABLED")),
    ("expireAt", .str (isoString account.expireAt))]

/-- An expiry with a year of four digits. -/
def isReadable (account : Account) : Bool :=
  isoDate (isoString account.expireAt) == some (account.expireAt : ℚ)

def message (text : String) : Json := .obj [("message", .str text)]

/-- The report of a user; a date that the panel cannot write is its failure. -/
def report (username : String) (account : Account) (panel : Panel) :
    HttpResponse Failure × Panel :=
  if isReadable account then
    (respond 200 (.obj [("response", userDto username account)]),
      Function.update panel username (some account))
  else (respond 500 (message "Invalid date"), panel)

def missingUser : HttpResponse Failure := respond 404 (message "User not found")

/-- `GET /users/by-username/{username}`. -/
def serveLookup (username : String) (panel : Panel) :
    HttpResponse Failure × Panel :=
  match panel username with
  | none => (missingUser, panel)
  | some account => report username account panel

/-- `DELETE /users/{uuid}`. -/
def serveRemoval (uuid : String) (panel : Panel) :
    HttpResponse Failure × Panel :=
  (respond 200 (.obj [("response", .obj [("isDeleted", .bool true)])]),
    Function.update panel (nameOfUuid uuid) none)

/-- `PATCH /users` and `POST /users`. -/
def serveUsers (request : HttpRequest) (panel : Panel) :
    HttpResponse Failure × Panel :=
  match request.body.bind jsonDecode with
  | none => (respond 400 (message "Validation failed"), panel)
  | some json =>
      match json.text "username" with
      | none => (respond 400 (message "Validation failed"), panel)
      | some username =>
          match panel username with
          | none =>
              if request.method = "POST" then
                report username (added json) panel
              else (missingUser, panel)
          | some account =>
              if request.method = "POST" then
                (respond 400 (message "User already exists"), panel)
              else report username (modified json account) panel

def serveRequest (apiBase : String) (request : HttpRequest) (panel : Panel) :
    HttpResponse Failure × Panel :=
  if request.method = "GET" then
    match readSegment (apiBase ++ "/users/by-username/") request.url with
    | some username => serveLookup username panel
    | none => (respond 404 (message "Not found"), panel)
  else if request.method = "DELETE" then
    match readSegment (apiBase ++ "/users/") request.url with
    | some uuid => serveRemoval uuid panel
    | none => (respond 404 (message "Not found"), panel)
  else serveUsers request panel

/-- The panel at an address. -/
def server (apiBase : String) : Network Failure Panel :=
  serverOf (serveRequest apiBase)

variable {apiBase username : String} {request : HttpRequest} {panel : Panel}
variable {account : Account}

theorem nameOfUuid_uuidOfName (username : String) :
    nameOfUuid (uuidOfName username) = username := by
  rw [nameOfUuid, uuidOfName, String.toList_append]
  exact String.ofList_toList

theorem uuidOfName_ne_empty (username : String) : uuidOfName username ≠ "" := by
  intro hempty
  have hlength := congrArg (fun text => text.toList.length) hempty
  simp [uuidOfName, String.toList_append] at hlength

theorem describes_userDto (hreadable : isReadable account = true) :
    Describes username (uuidOfName username) account
      (userDto username account) where
  truthy := rfl
  username := rfl
  uuid := by
    have htext : (userDto username account).text "uuid" =
        some (uuidOfName username) := rfl
    rw [uuidOf, Option.bind_some, htext]
    exact Option.filter_some_pos (bne_iff_ne.mpr (uuidOfName_ne_empty username))
  expireAt := by
    have hread : isoDate (isoString account.expireAt) =
        some (account.expireAt : ℚ) := eq_of_beq hreadable
    refine ⟨isoString account.expireAt, rfl, ?_, hread⟩
    intro hempty
    rw [hempty] at hread
    cases hread
  status := by
    cases henabled : account.enabled <;> simp [userDto, henabled, Json.text,
      Json.member, Json.str?, List.lookup_cons]

/-- A report of the user as it is after the effect. -/
theorem handles_report {effect : Panel → Panel}
    {Replies : Panel → Option Json → Prop}
    (hserve : serveRequest apiBase request panel =
      report username account panel)
    (hreplies : isReadable account = true →
      Replies panel (some (.obj [("response", userDto username account)])))
    (hafter : Function.update panel username (some account) = effect panel) :
    Handles (server apiBase) id request panel effect Replies := by
  by_cases hreadable : isReadable account = true
  · rw [report, if_pos hreadable] at hserve
    exact handles_served hserve (answers_respond _) (hreplies hreadable) hafter
  · rw [report, if_neg hreadable] at hserve
    exact handles_rejected hserve rfl (by change (500 : ℕ) ≠ 404; decide)
      (by change (500 : ℕ) ≠ 401; decide)

theorem readSegment_path (before path text : String) :
    readSegment (before ++ path) (before ++ (path ++ encodeURIComponent text)) =
      some text := by
  rw [← String.append_assoc]
  exact readSegment_encodeURIComponent (before ++ path) text

theorem byUsernamePath_eq (username : String) :
    byUsernamePath username =
      "/users/by-username/" ++ encodeURIComponent username := by
  unfold byUsernamePath
  exact Eq.refl _

theorem serveRequest_lookup (hmethod : request.method = "GET")
    (hurl : request.url = apiBase ++ byUsernamePath username) :
    serveRequest apiBase request panel = serveLookup username panel := by
  simp only [byUsernamePath_eq] at hurl
  rw [serveRequest, if_pos hmethod, hurl, readSegment_path]

theorem serveRequest_removal {uuid : String} (hmethod : request.method = "DELETE")
    (hurl : request.url = apiBase ++ ("/users/" ++ encodeURIComponent uuid)) :
    serveRequest apiBase request panel = serveRemoval uuid panel := by
  have hget : ¬ request.method = "GET" := by
    rw [hmethod]
    decide
  rw [serveRequest, if_neg hget, if_pos hmethod, hurl, readSegment_path]

/-- The request for a change of a user that the panel holds. -/
theorem serveRequest_change {json : Json} (hmethod : request.method = "PATCH")
    (hbody : request.body.bind jsonDecode = some json)
    (hname : json.text "username" = some username) :
    serveRequest apiBase request panel =
      match panel username with
      | none => (missingUser, panel)
      | some account => report username (modified json account) panel := by
  have hserve : serveRequest apiBase request panel =
      serveUsers request panel := by
    simp only [serveRequest, hmethod, String.reduceEq, ↓reduceIte]
  simp only [hserve, serveUsers, hbody, hname, hmethod, String.reduceEq,
    ↓reduceIte]

theorem serveRequest_creation {json : Json} (hmethod : request.method = "POST")
    (hbody : request.body.bind jsonDecode = some json)
    (hname : json.text "username" = some username) :
    serveRequest apiBase request panel =
      match panel username with
      | none => report username (added json) panel
      | some _ => (respond 400 (message "User already exists"), panel) := by
  have hserve : serveRequest apiBase request panel =
      serveUsers request panel := by
    simp only [serveRequest, hmethod, String.reduceEq, ↓reduceIte]
  simp only [hserve, serveUsers, hbody, hname, hmethod, ↓reduceIte]

theorem contract_server (apiBase : String) :
    Contract (server apiBase) apiBase id fun _ => uuidOfName where
  keepsUuids _ _ _ := rfl
  getUser request panel username hmethod hurl := by
    have hserve := @serveRequest_lookup apiBase username request panel hmethod
      hurl
    rw [serveLookup] at hserve
    cases hheld : panel username with
    | none =>
        rw [hheld] at hserve
        exact handles_served hserve (.missing rfl) (hheld ▸ .missing) rfl
    | some account =>
        rw [hheld] at hserve
        refine handles_report hserve (fun hreadable => ?_) ?_
        · rw [hheld]
          exact .found (describes_userDto hreadable)
        · exact hheld ▸ Function.update_eq_self username panel
  modifyUser request panel username json hmethod _ hbody hname := by
    have hserve := @serveRequest_change apiBase username request panel json
      hmethod hbody hname
    cases hheld : panel username with
    | none =>
        rw [hheld] at hserve
        refine handles_served hserve (.missing rfl) ⟨"", ?_⟩ ?_
        · rw [hheld]
          exact .missing
        · rw [hheld]
          exact (hheld ▸ Function.update_eq_self username panel).symm
    | some account =>
        rw [hheld] at hserve
        refine handles_report hserve (fun hreadable =>
          ⟨uuidOfName username, ?_⟩) ?_
        · rw [hheld]
          exact .found (describes_userDto hreadable)
        · rw [hheld]
          rfl
  removeUser request panel username hmethod hurl _ := by
    have hserve := @serveRequest_removal apiBase request panel _ hmethod hurl
    rw [serveRemoval, nameOfUuid_uuidOfName] at hserve
    exact handles_served hserve (answers_respond _) trivial rfl
  addUser request panel username json hmethod _ hbody hname hnew := by
    have hserve := @serveRequest_creation apiBase username request panel json
      hmethod hbody hname
    rw [show panel username = none from hnew] at hserve
    exact handles_report hserve (fun hreadable => ⟨uuidOfName username,
      .found (describes_userDto hreadable)⟩) rfl
  refuseUser request panel username json hmethod _ hbody hname hheld := by
    have hserve := @serveRequest_creation apiBase username request panel json
      hmethod hbody hname
    obtain ⟨account, haccount⟩ := Option.ne_none_iff_exists'.mp hheld
    rw [show panel username = some account from haccount] at hserve
    exact handles_rejected hserve rfl (by change (400 : ℕ) ≠ 404; decide)
      (by change (400 : ℕ) ≠ 401; decide)

def newClient : Client where
  cfg := ⟨"https://panel", "token", none, ["squad"], 8000⟩
  apiBase := "https://panel/api"

/-- A session's user, its extension and its revocation. -/
def sessionCalls : List PanelCall :=
  [.createUser {
      username := "s_1"
      expireAt := 1800000
      proxies := [("vless", { id := some "secret" })]
      inboundsByProtocol := [("vless", ["free"])] },
    .setUserExpiry "s_1" 3600000, .disableUser "s_1", .deleteUser "s_1"]

theorem sendsDate_sessionCalls : ∀ call ∈ sessionCalls, SendsDate call := by
  intro call hcall
  simp only [sessionCalls, List.mem_cons, List.not_mem_nil, or_false] at hcall
  rcases hcall with rfl | rfl | rfl | rfl
  · exact ⟨by decide, by decide⟩
  · exact ⟨by decide, by decide⟩
  · exact trivial
  · exact trivial

theorem calls_are_panel_exchanges_session :
    (history (perform (server "https://panel/api")) sessionCalls newClient
      (fun _ => none)).length = 4 ∧
    ∀ entry ∈ history (perform (server "https://panel/api")) sessionCalls
        newClient (fun _ => none),
      IsExchange id .remnawave ((server "https://panel/api").now entry.world)
        entry.call (id entry.world) entry.outcome := by
  refine ⟨rfl, ?_⟩
  have hempty : AllStored .remnawave (id fun _ => none) := by
    intro _ _ hnone
    cases hnone
  exact @calls_are_panel_exchanges _ (server "https://panel/api") id
    (fun _ => uuidOfName) "https://panel/api" newClient (fun _ => none)
    (contract_server _) rfl sessionCalls sendsDate_sessionCalls hempty

end Server

end VpnMiddleware.RemnawaveContract
