import VpnMiddleware.Core.PathSegment
import VpnMiddleware.Invariants.ExpiryEncodings
import VpnMiddleware.Invariants.PanelContract

/-!
# The Rebecca client against its panel

The documented interface of the panel: `POST /api/user` adds a user, `PUT`
changes the members it names, `GET` reports a user and `DELETE` removes it.
Every call of the client is one exchange with the ideal panel, also when tokens
expire, requests are lost or the panel fails in between.
-/

namespace VpnMiddleware.RebeccaContract

open VpnMiddleware.Errors VpnMiddleware.Environment VpnMiddleware.JsonText
open VpnMiddleware.WebText VpnMiddleware.Http VpnMiddleware.Http.Exchange
open VpnMiddleware.PanelTypes VpnMiddleware.PanelHttp VpnMiddleware.IdealPanel
open VpnMiddleware.PanelContract VpnMiddleware.RebeccaPanelClient
open VpnMiddleware.ExpiryEcho VpnMiddleware.ExpiryEncodings

variable {World : Type}

/-! ## The interface of the panel -/

/-- The account after a change of the members that the body names. -/
def modified (json : Json) (account : Account) : Account where
  enabled := match json.text "status" with
    | some status => status != "disabled"
    | none => account.enabled
  expireAt := match json.number "expire" with
    | some seconds => seconds * 1000
    | none => account.expireAt

/-- The account that a body describes. -/
def added (json : Json) : Account :=
  modified json ⟨true, 0⟩

/-- The body reports the account. -/
structure Describes (username : String) (account : Account) (dto : Json) :
    Prop where
  truthy : dto.isTruthy = true
  username : dto.text "username" = some username
  expire : dto.member "expire" = some (.num (account.expireAt / 1000))
  status : dto.text "status" = some "disabled" ↔ account.enabled = false

/-- A user that exists is reported, and no other. -/
inductive Reports (username : String) : Option Account → Option Json → Prop
  | missing : Reports username none none
  | found {account : Account} {dto : Json} : Describes username account dto →
      Reports username (some account) (some dto)

/-- The requests of `/api`.  A request for a token does not touch the users,
and a user that exists is not added again. -/
structure Contract (net : Network Failure World) (baseUrl : String)
    (panelOf : World → Panel) : Prop where
  token : ∀ request world, request.url = baseUrl ++ "/api/admin/token" →
    panelOf (net.fetch request world).2 = panelOf world
  getUser : ∀ request world username, request.method = "GET" →
    request.url = baseUrl ++ userPath username →
    Handles net panelOf request world id fun panel payload =>
      Reports username (panel username) payload
  modifyUser : ∀ request world username json, request.method = "PUT" →
    request.url = baseUrl ++ userPath username →
    request.body.bind jsonDecode = some json →
    Handles net panelOf request world
      (fun panel => Function.update panel username
        ((panel username).map (modified json))) fun _ _ => True
  removeUser : ∀ request world username, request.method = "DELETE" →
    request.url = baseUrl ++ userPath username →
    Handles net panelOf request world
      (fun panel => Function.update panel username none) fun _ _ => True
  addUser : ∀ request world username json, request.method = "POST" →
    request.url = baseUrl ++ "/api/user" →
    request.body.bind jsonDecode = some json →
    json.text "username" = some username → panelOf world username = none →
    Handles net panelOf request world
      (fun panel => Function.update panel username (some (added json)))
      fun _ payload => Reports username (some (added json)) payload
  refuseUser : ∀ request world username json, request.method = "POST" →
    request.url = baseUrl ++ "/api/user" →
    request.body.bind jsonDecode = some json →
    json.text "username" = some username → panelOf world username ≠ none →
    Handles net panelOf request world id fun _ _ => False

/-! ## One request -/

section Request

variable {net : Network Failure World} {panelOf : World → Panel}
variable {baseUrl method path : String} {body : Option Json}
variable {client : Client} {world : World}

theorem authenticate_outcome (net : Network Failure World) (client : Client)
    (world : World) :
    (authenticate net client world).world =
        (net.fetch (authRequest client.cfg) world).2 ∧
      (authenticate net client world).client.cfg = client.cfg := by
  rw [authenticate, bind_apply]
  simp only [getClient, bind_apply, fetchWithTimeout]
  cases hfetch : (net.fetch (authRequest client.cfg) world).1 with
  | error cause => exact ⟨rfl, rfl⟩
  | ok res =>
      simp only
      split
      · exact ⟨rfl, rfl⟩
      · simp only [bind_apply, fromExcept]
        cases res.json with
        | error cause => exact ⟨rfl, rfl⟩
        | ok json =>
            simp only [accessToken]
            cases json <;> exact ⟨rfl, rfl⟩

/-- A token is had without touching the users. -/
theorem getToken_outcome (hcontract : Contract net baseUrl panelOf)
    (hurl : client.cfg.baseUrl = baseUrl) :
    panelOf (getToken net client world).world = panelOf world ∧
      (getToken net client world).client.cfg = client.cfg := by
  rw [getToken, bind_apply]
  simp only [getClient, bind_apply, now]
  split
  · exact ⟨rfl, rfl⟩
  · obtain ⟨hworld, hclient⟩ := authenticate_outcome net client world
    rw [hworld]
    exact ⟨hcontract.token _ _ (hurl ▸ rfl), hclient⟩

/-- An accepted answer is read as its payload. -/
theorem readBody_of_answers {res : HttpResponse Failure}
    {payload : Option Json} (hanswers : Answers res payload) :
    (readBody method path res : Call World (Option Json)) client world =
      ⟨.ok payload, [], client, world⟩ := by
  rw [readBody]
  cases hanswers with
  | missing hstatus => rw [if_pos hstatus]; rfl
  | empty hstatus =>
      have hne : res.status ≠ 404 := by omega
      have hok : res.ok = true := by
        rw [HttpResponse.ok, hstatus]
        decide
      rw [if_neg hne, hok, hstatus]
      rfl
  | body hok hstatus hjson =>
      have hne : res.status ≠ 404 := by
        intro hmissing
        rw [HttpResponse.ok, hmissing] at hok
        revert hok
        decide
      rw [if_neg hne, hok, if_neg hstatus, hjson]
      rfl

/-- Any other answer is an error. -/
theorem readBody_of_fault {res : HttpResponse Failure} (hok : res.ok = false)
    (hstatus : res.status ≠ 404) :
    (readBody method path res : Call World (Option Json)) client world =
      ⟨.error (requestFailed "panel" method path res), [], client, world⟩ := by
  rw [readBody, if_neg hstatus, hok]
  rfl

theorem ne_unauthorized_of_answers {res : HttpResponse Failure}
    {payload : Option Json} (hanswers : Answers res payload) :
    res.status ≠ 401 := by
  cases hanswers with
  | missing hstatus => omega
  | empty hstatus => omega
  | body hok _ _ =>
      intro hunauthorized
      rw [HttpResponse.ok, hunauthorized] at hok
      revert hok
      decide

variable {effect : Panel → Panel} {Replies : Panel → Option Json → Prop}
variable {before : Panel}

/-- What `request` does with an answer that it does not retry. -/
theorem readBody_exchanged {res : HttpResponse Failure} {after : World}
    (hanswer : (∃ payload, Answers res payload ∧ Replies before payload ∧
        panelOf after = effect before) ∨
      (res.ok = false ∧ res.status ≠ 404) ∧
        (panelOf after = before ∨ panelOf after = effect before)) :
    Exchanged panelOf effect Replies before
        ((readBody method path res : Call World (Option Json)) client after) ∧
      ((readBody method path res : Call World (Option Json)) client
        after).client = client := by
  rcases hanswer with ⟨payload, hanswers, hreplies, hpanel⟩ |
    ⟨⟨hok, hstatus⟩, hpanel⟩
  · rw [readBody_of_answers hanswers]
    exact ⟨.served rfl hreplies hpanel, rfl⟩
  · rw [readBody_of_fault hok hstatus]
    exact ⟨.failed rfl hpanel, rfl⟩

/-- What comes back for a handled request: an answer that is not retried, a
refusal that had no effect, or nothing. -/
theorem fetch_of_handles {request : HttpRequest} {sent : World}
    (hbefore : panelOf sent = before)
    (hhandles : Handles net panelOf request sent effect Replies) :
    (∃ res, (net.fetch request sent).1 = .ok res ∧ res.status ≠ 401 ∧
      ((∃ payload, Answers res payload ∧ Replies before payload ∧
        panelOf (net.fetch request sent).2 = effect before) ∨
      (res.ok = false ∧ res.status ≠ 404) ∧
        (panelOf (net.fetch request sent).2 = before ∨
          panelOf (net.fetch request sent).2 = effect before))) ∨
    (∃ res, (net.fetch request sent).1 = .ok res ∧ res.status = 401 ∧
      panelOf (net.fetch request sent).2 = before) ∨
    ∃ cause, (net.fetch request sent).1 = .error cause ∧
      (panelOf (net.fetch request sent).2 = before ∨
        panelOf (net.fetch request sent).2 = effect before) := by
  subst hbefore
  cases hhandles with
  | served hfetch hanswers hreplies hpanel =>
      exact Or.inl ⟨_, hfetch, ne_unauthorized_of_answers hanswers,
        Or.inl ⟨_, hanswers, hreplies, hpanel⟩⟩
  | unauthorized hfetch hstatus hpanel =>
      exact Or.inr (Or.inl ⟨_, hfetch, hstatus, hpanel⟩)
  | failed hfault hpanel =>
      cases hfetch : (net.fetch request sent).1 with
      | error cause => exact Or.inr (Or.inr ⟨cause, rfl, hpanel⟩)
      | ok res =>
          rw [hfetch] at hfault
          obtain ⟨hok, hmissing, hunauthorized⟩ := hfault
          exact Or.inl ⟨res, rfl, hunauthorized, Or.inr ⟨⟨hok, hmissing⟩, hpanel⟩⟩

/-- A refusal is an error once it is not retried. -/
theorem not_ok_of_unauthorized {res : HttpResponse Failure}
    (hstatus : res.status = 401) : res.ok = false ∧ res.status ≠ 404 := by
  rw [HttpResponse.ok, hstatus]
  decide

/-- One try: the token, the request and the body of the answer. -/
theorem requestOnce_exchanged (hcontract : Contract net baseUrl panelOf)
    (hurl : client.cfg.baseUrl = baseUrl) (hbefore : panelOf world = before)
    (hhandles : ∀ token sent, panelOf sent = before →
      Handles net panelOf (apiRequest client.cfg token method path body) sent
        effect Replies) :
    Exchanged panelOf effect Replies before
        (requestOnce net method path body client world) ∧
      (requestOnce net method path body client world).client.cfg =
        client.cfg := by
  obtain ⟨hpanel, hclient⟩ := @getToken_outcome _ _ _ _ _ world hcontract hurl
  rw [hbefore] at hpanel
  rw [requestOnce, bind_apply]
  cases (getToken net client world).result with
  | error cause => exact ⟨.failed rfl (Or.inl hpanel), hclient⟩
  | ok token =>
      have hhandled := hhandles token _ hpanel
      rw [← hclient] at hhandled
      simp only [bind_apply, getClient, fetchWithTimeout]
      rcases fetch_of_handles hpanel hhandled with ⟨res, hfetch, -, hanswer⟩ |
        ⟨res, hfetch, hstatus, hafter⟩ | ⟨cause, hfetch, hafter⟩
      · rw [hfetch]
        obtain ⟨hexchanged, hsame⟩ := @readBody_exchanged _ _ method path
          (getToken net client world).client _ _ _ _ _ hanswer
        exact ⟨hexchanged.of_eq rfl rfl, (congrArg Client.cfg hsame).trans hclient⟩
      · rw [hfetch]
        obtain ⟨hexchanged, hsame⟩ := @readBody_exchanged _ _ method path
          (getToken net client world).client effect Replies _ _ _
          (Or.inr ⟨not_ok_of_unauthorized hstatus, Or.inl hafter⟩)
        exact ⟨hexchanged.of_eq rfl rfl, (congrArg Client.cfg hsame).trans hclient⟩
      · rw [hfetch]
        exact ⟨.failed rfl hafter, hclient⟩

/-- A request, sent again once if it was refused as unauthorized. -/
theorem request_exchanged (hcontract : Contract net baseUrl panelOf)
    (hurl : client.cfg.baseUrl = baseUrl) (hbefore : panelOf world = before)
    (hhandles : ∀ token sent, panelOf sent = before →
      Handles net panelOf (apiRequest client.cfg token method path body) sent
        effect Replies) :
    Exchanged panelOf effect Replies before
        (request net method path body client world) ∧
      (request net method path body client world).client.cfg =
        client.cfg := by
  obtain ⟨hpanel, hclient⟩ := @getToken_outcome _ _ _ _ _ world hcontract hurl
  rw [hbefore] at hpanel
  rw [request, bind_apply]
  cases (getToken net client world).result with
  | error cause => exact ⟨.failed rfl (Or.inl hpanel), hclient⟩
  | ok token =>
      have hhandled := hhandles token _ hpanel
      rw [← hclient] at hhandled
      simp only [bind_apply, getClient, fetchWithTimeout]
      rcases fetch_of_handles hpanel hhandled with
        ⟨res, hfetch, hstatus, hanswer⟩ |
        ⟨res, hfetch, hstatus, hafter⟩ | ⟨cause, hfetch, hafter⟩
      · rw [hfetch]
        simp only [if_neg hstatus]
        obtain ⟨hexchanged, hsame⟩ := @readBody_exchanged _ _ method path
          (getToken net client world).client _ _ _ _ _ hanswer
        exact ⟨hexchanged.of_eq rfl rfl, (congrArg Client.cfg hsame).trans hclient⟩
      · rw [hfetch]
        simp only [if_pos hstatus, bind_apply, modifyClient]
        obtain ⟨hexchanged, hsame⟩ := @requestOnce_exchanged _ net panelOf baseUrl
          method path body { (getToken net client world).client with
            token := none, tokenExpiresAt := 0 } _ effect Replies before hcontract
          ((congrArg RebeccaConfig.baseUrl hclient).trans hurl) hafter
          (fun token sent hsent => hclient ▸ hhandles token sent hsent)
        exact ⟨hexchanged.of_eq rfl rfl, hsame.trans hclient⟩
      · rw [hfetch]
        exact ⟨.failed rfl hafter, hclient⟩

end Request

/-! ## Calls -/

/-- The method of the client that a call of the services runs. -/
def perform (net : Network Failure World) :
    PanelCall → Call World (Option PanelUser)
  | .createUser params => do
      let user ← createUser net params
      return some user
  | .setUserExpiry username expireAt => do
      let user ← setUserExpiry net username expireAt
      return some user
  | .getUser username => getUser net username
  | .disableUser username => do
      disableUser net username
      return none
  | .deleteUser username => do
      deleteUser net username
      return none

section Calls

variable {net : Network Failure World} {panelOf : World → Panel}
variable {baseUrl username : String} {client : Client} {world : World}
variable {account : Account} {dto : Json}

theorem statusOf_eq_disabled (status : Option String) :
    statusOf status = .disabled ↔ status = some "disabled" := by
  rw [statusOf.eq_def]
  split <;> simp_all

/-- A reported account is read as it is stored. -/
theorem mirrors_toPanelUser (hstored : IsStored .rebecca account)
    (hdescribes : Describes username account dto) :
    Mirrors username (toPanelUser dto) account := by
  obtain ⟨hshown, hlow, hhigh⟩ := hstored
  simp only [storedExpiry] at hshown
  refine ⟨hdescribes.username, ?_, ?_⟩
  · have hread := @readSeconds_natCast (account.expireAt / 1000) (by omega)
      (by rw [DateText.maxDate]; omega)
    simp only [toPanelUser, reportedExpiry, hdescribes.expire, Echo.ofMember]
    rw [hread]
    congr 1
    exact_mod_cast hshown
  · simp only [toPanelUser]
    rw [statusOf_eq_disabled]
    exact hdescribes.status

/-- What was stored passes the check of what was sent. -/
theorem assertExpiryRoundTrip_stored {user : PanelUser} {sent : ℕ} (op : String)
    (hexpiry : user.expireAt = .at (storedExpiry .rebecca sent)) :
    assertExpiryRoundTrip RebeccaPanelClient.expireDriftToleranceMs user sent op =
      .ok () := by
  have hnear : hasDrifted RebeccaPanelClient.expireDriftToleranceMs sent
      user.expireAt = false := by
    rw [hexpiry, hasDrifted, decide_eq_false_iff_not, storedExpiry,
      RebeccaPanelClient.expireDriftToleranceMs]
    omega
  rw [assertExpiryRoundTrip, hnear]
  rfl

/-! ### Creating a user -/

theorem added_createUserPayload (params : CreateUserParams) :
    added (createUserPayload params) =
      ⟨true, storedExpiry .rebecca params.expireAt⟩ := rfl

/-- The end of `createUser`. -/
def readCreated (params : CreateUserParams) (created : Option Json) :
    Call World PanelUser :=
  match created with
  | none | some .null => fail (cannotRead created "username")
  | some dto => do
      let user := toPanelUser dto
      fromExcept (assertExpiryRoundTrip
        RebeccaPanelClient.expireDriftToleranceMs user params.expireAt
        "createUser")
      return user

theorem createUser_eq {params : CreateUserParams}
    (hrefused : isRefused params ≠ true) :
    createUser net params = (do
      let created ← request net "POST" "/api/user"
        (some (createUserPayload params))
      readCreated params created) := by
  rw [createUser, if_neg hrefused]
  rfl

theorem readCreated_found {params : CreateUserParams}
    (hsends : SendsDate (.createUser params))
    (hdescribes : Describes params.username
      ⟨true, storedExpiry .rebecca params.expireAt⟩ dto) :
    readCreated params (some dto) client world =
      ⟨.ok (toPanelUser dto), [], client, world⟩ := by
  have hmirrors := mirrors_toPanelUser
    (isStored_storedExpiry hsends.1 hsends.2 rfl) hdescribes
  have hchecked := assertExpiryRoundTrip_stored "createUser" hmirrors.expireAt
  cases dto with
  | null => cases hdescribes.truthy
  | _ =>
      simp only [readCreated, bind_apply, fromExcept, hchecked]
      rfl

/-- A user is created, unless there is one of this name. -/
theorem createUser_isExchange (hcontract : Contract net baseUrl panelOf)
    (hurl : client.cfg.baseUrl = baseUrl) {params : CreateUserParams}
    (hsends : SendsDate (.createUser params)) (now : ℕ) :
    IsExchange panelOf .rebecca now (.createUser params) (panelOf world)
        (perform net (.createUser params) client world) ∧
      (perform net (.createUser params) client world).client.cfg =
        client.cfg := by
  by_cases hrefused : isRefused params = true
  · simp only [perform, createUser, if_pos hrefused, bind_apply, fail]
    exact ⟨isExchange_of_error rfl (Or.inl rfl), trivial⟩
  · simp only [perform, createUser_eq hrefused, bind_apply]
    have hname : (createUserPayload params).text "username" =
        some params.username := rfl
    by_cases hnew : panelOf world params.username = none
    · obtain ⟨hexchanged, hclient⟩ := @request_exchanged _ net panelOf baseUrl
        "POST" "/api/user" (some (createUserPayload params)) client world _ _ _
        hcontract hurl rfl (fun token sent hsent => hcontract.addUser _ sent
          params.username (createUserPayload params) rfl (by rw [← hurl]; rfl)
          (decode_bodyText _) hname (hsent ▸ hnew))
      cases hexchanged with
      | failed herror hpanel =>
          rw [herror]
          exact ⟨isExchange_of_error rfl hpanel, hclient⟩
      | served hok hreplies hpanel =>
          rw [hok]
          cases hreplies with
          | found hdescribes =>
              simp only [readCreated_found hsends hdescribes]
              exact ⟨isExchange_of_serve (.user (mirrors_toPanelUser
                (isStored_storedExpiry hsends.1 hsends.2 rfl) hdescribes))
                hpanel, hclient⟩
    · obtain ⟨hexchanged, hclient⟩ := @request_exchanged _ net panelOf baseUrl
        "POST" "/api/user" (some (createUserPayload params)) client world _ _ _
        hcontract hurl rfl (fun token sent hsent => hcontract.refuseUser _ sent
          params.username (createUserPayload params) rfl (by rw [← hurl]; rfl)
          (decode_bodyText _) hname (hsent ▸ hnew))
      cases hexchanged with
      | failed herror hpanel =>
          rw [herror]
          exact ⟨isExchange_of_error rfl (Or.inl (hpanel.elim id id)), hclient⟩
      | served _ hreplies _ => exact hreplies.elim

/-! ### The other calls -/

theorem userUrl {path token method : String} {body : Option Json}
    (hurl : client.cfg.baseUrl = baseUrl) :
    (apiRequest client.cfg token method path body).url = baseUrl ++ path :=
  congrArg (· ++ path) hurl

theorem getUser_outcome (hcontract : Contract net baseUrl panelOf)
    (hurl : client.cfg.baseUrl = baseUrl)
    (hstored : AllStored .rebecca (panelOf world)) :
    ReadsUser (panelOf world) username
        (RebeccaPanelClient.getUser net username client world).result ∧
      panelOf (RebeccaPanelClient.getUser net username client world).world =
        panelOf world ∧
      (RebeccaPanelClient.getUser net username client world).client.cfg =
        client.cfg := by
  obtain ⟨hexchanged, hclient⟩ := @request_exchanged _ net panelOf baseUrl
    "GET" (userPath username) none client world _ _ _ hcontract hurl rfl
    (fun token sent _ => hcontract.getUser _ sent username rfl (userUrl hurl))
  simp only [RebeccaPanelClient.getUser, bind_apply]
  cases hexchanged with
  | failed herror hpanel =>
      rw [herror]
      exact ⟨.error _, hpanel.elim id id, hclient⟩
  | served hok hreplies hpanel =>
      rw [hok]
      generalize hheld : panelOf world username = held at hreplies
      refine ⟨?_, hpanel, hclient⟩
      cases hreplies with
      | missing => exact .missing hheld
      | found hdescribes =>
          simp only [Option.filter_some_pos hdescribes.truthy]
          exact .found hheld
            (mirrors_toPanelUser (hstored _ _ hheld) hdescribes)

theorem getUser_isExchange (hcontract : Contract net baseUrl panelOf)
    (hurl : client.cfg.baseUrl = baseUrl)
    (hstored : AllStored .rebecca (panelOf world)) (now : ℕ) :
    IsExchange panelOf .rebecca now (.getUser username) (panelOf world)
        (perform net (.getUser username) client world) ∧
      (perform net (.getUser username) client world).client.cfg =
        client.cfg := by
  obtain ⟨hreads, hpanel, hclient⟩ :=
    @getUser_outcome _ net panelOf baseUrl username client world hcontract hurl
      hstored
  exact ⟨isExchange_of_reads hreads hpanel, hclient⟩

theorem disableUser_isExchange (hcontract : Contract net baseUrl panelOf)
    (hurl : client.cfg.baseUrl = baseUrl) (now : ℕ) :
    IsExchange panelOf .rebecca now (.disableUser username) (panelOf world)
        (perform net (.disableUser username) client world) ∧
      (perform net (.disableUser username) client world).client.cfg =
        client.cfg := by
  obtain ⟨hexchanged, hclient⟩ := @request_exchanged _ net panelOf baseUrl
    "PUT" (userPath username) (some (.obj [("status", .str "disabled")])) client
    world _ _ _ hcontract hurl rfl (fun token sent _ =>
      hcontract.modifyUser _ sent username (.obj [("status", .str "disabled")])
        rfl (userUrl hurl) (decode_bodyText _))
  simp only [perform, RebeccaPanelClient.disableUser, bind_apply]
  cases hexchanged with
  | failed herror hpanel =>
      rw [herror]
      exact ⟨isExchange_of_error rfl hpanel, hclient⟩
  | served hok _ hpanel =>
      rw [hok]
      exact ⟨isExchange_of_serve .none hpanel, hclient⟩

theorem deleteUser_isExchange (hcontract : Contract net baseUrl panelOf)
    (hurl : client.cfg.baseUrl = baseUrl) (now : ℕ) :
    IsExchange panelOf .rebecca now (.deleteUser username) (panelOf world)
        (perform net (.deleteUser username) client world) ∧
      (perform net (.deleteUser username) client world).client.cfg =
        client.cfg := by
  obtain ⟨hexchanged, hclient⟩ := @request_exchanged _ net panelOf baseUrl
    "DELETE" (userPath username) none client world _ _ _ hcontract hurl rfl
    (fun token sent _ => hcontract.removeUser _ sent username rfl (userUrl hurl))
  simp only [perform, RebeccaPanelClient.deleteUser, bind_apply]
  cases hexchanged with
  | failed herror hpanel =>
      rw [herror]
      exact ⟨isExchange_of_error rfl hpanel, hclient⟩
  | served hok _ hpanel =>
      rw [hok]
      exact ⟨isExchange_of_serve .none hpanel, hclient⟩

/-- The panel after the first request of `setUserExpiry`. -/
theorem serve_setUserExpiry (now expireAt : ℕ) (before : Panel) :
    (serve .rebecca now (.setUserExpiry username expireAt) before).2 =
      Function.update before username ((before username).map
        (modified (.obj [("expire", .num (toEpochSeconds expireAt))]))) := by
  rw [serve, setUserExpiry_panel]
  rfl

/-- `setUserExpiry` reports the account that the panel then holds. -/
theorem serve_setUserExpiry_result (now expireAt : ℕ) (before : Panel) :
    (serve .rebecca now (.setUserExpiry username expireAt) before).1 =
      match (serve .rebecca now (.setUserExpiry username expireAt) before).2
        username with
      | none => .error (vanished username "after expiry update")
      | some account => .ok (some account) := by
  cases hheld : before username with
  | none => simp [serve, IdealPanel.setUserExpiry, hheld, isPastNoOp]
  | some account => simp [serve, IdealPanel.setUserExpiry, hheld, isPastNoOp]

theorem vanished_eq (username : String) :
    Failure.panel { message :=
      "user " ++ username ++ " vanished after expiry update" } =
      vanished username "after expiry update" := by
  have htext : " vanished after expiry update" =
      " vanished " ++ "after expiry update" := rfl
  rw [vanished, htext, ← String.append_assoc]

/-- The end of `setUserExpiry`. -/
def readBack (username : String) (expireAt : ℕ) (user : Option PanelUser) :
    Call World PanelUser :=
  match user with
  | none => fail (.panel {
      message := "user " ++ username ++ " vanished after expiry update" })
  | some user => do
      fromExcept (assertExpiryRoundTrip
        RebeccaPanelClient.expireDriftToleranceMs user expireAt
        "setUserExpiry")
      return user

theorem setUserExpiry_eq (username : String) (expireAt : ℕ) :
    RebeccaPanelClient.setUserExpiry net username expireAt = (do
      let _ ← request net "PUT" (userPath username)
        (some (.obj [("expire", .num (toEpochSeconds expireAt))]))
      let user ← RebeccaPanelClient.getUser net username
      readBack username expireAt user) := by
  rw [RebeccaPanelClient.setUserExpiry]
  rfl

/-- The push of an expiry is two requests, of which only the first has an
effect. -/
theorem setUserExpiry_isExchange (hcontract : Contract net baseUrl panelOf)
    (hurl : client.cfg.baseUrl = baseUrl)
    (hstored : AllStored .rebecca (panelOf world)) {expireAt : ℕ}
    (hsends : SendsDate (.setUserExpiry username expireAt)) (now : ℕ) :
    IsExchange panelOf .rebecca now (.setUserExpiry username expireAt)
        (panelOf world)
        (perform net (.setUserExpiry username expireAt) client world) ∧
      (perform net (.setUserExpiry username expireAt) client
        world).client.cfg = client.cfg := by
  obtain ⟨hexchanged, hclient⟩ := @request_exchanged _ net panelOf baseUrl
    "PUT" (userPath username)
    (some (.obj [("expire", .num (toEpochSeconds expireAt))])) client world _ _
    _ hcontract hurl rfl (fun token sent _ => hcontract.modifyUser _ sent
      username (.obj [("expire", .num (toEpochSeconds expireAt))]) rfl
      (userUrl hurl) (decode_bodyText _))
  simp only [perform, setUserExpiry_eq, bind_apply]
  cases hexchanged with
  | failed herror hpanel =>
      rw [herror]
      rw [← serve_setUserExpiry now] at hpanel
      exact ⟨isExchange_of_error rfl hpanel, hclient⟩
  | served hok _ hpanel =>
      rw [hok]
      rw [← serve_setUserExpiry now] at hpanel
      have hpushed : AllStored .rebecca (panelOf (request net "PUT"
          (userPath username) (some (.obj [("expire",
            .num (toEpochSeconds expireAt))])) client world).world) := by
        rw [hpanel]
        exact allStored_serve hstored hsends
      obtain ⟨hreads, hsame, hcfg⟩ := @getUser_outcome _ net panelOf baseUrl
        username _ _ hcontract ((congrArg RebeccaConfig.baseUrl hclient).trans
          hurl) hpushed
      have hserved := @serve_setUserExpiry_result username now
        expireAt (panelOf world)
      rw [← hpanel] at hserved
      generalize hresult : (RebeccaPanelClient.getUser net username _
        _).result = result at hreads
      cases hreads with
      | error cause =>
          exact ⟨isExchange_of_error rfl (Or.inr (hsame.trans hpanel)),
            hcfg.trans hclient⟩
      | missing hheld =>
          refine ⟨isExchange_of_serve ?_ (hsame.trans hpanel), hcfg.trans hclient⟩
          rw [hserved, hheld, ← vanished_eq]
          exact .error _
      | @found account user hheld hmirrors =>
          have hexpiry : account.expireAt = storedExpiry .rebecca expireAt := by
            have hheld' := hheld
            rw [hpanel, serve_setUserExpiry, Function.update_self,
              Option.map_eq_some_iff] at hheld'
            obtain ⟨old, -, rfl⟩ := hheld'
            rfl
          have hchecked := @assertExpiryRoundTrip_stored user expireAt
            "setUserExpiry" (hexpiry ▸ hmirrors.expireAt)
          simp only [readBack, bind_apply, fromExcept, hchecked]
          refine ⟨isExchange_of_serve ?_ (hsame.trans hpanel), hcfg.trans hclient⟩
          rw [hserved, hheld]
          exact .user hmirrors

/-- Against a panel that keeps its contract every call of the client, in any
sequence, is one exchange of the ideal panel: it returns what the services
expect, or an error after no effect or the whole effect, whatever tokens expire
and whichever requests or responses are lost. -/
theorem calls_are_exchanges (hcontract : Contract net baseUrl panelOf)
    (hurl : client.cfg.baseUrl = baseUrl) {calls : List PanelCall}
    (hsends : ∀ call ∈ calls, SendsDate call)
    (hstored : AllStored .rebecca (panelOf world)) :
    ∀ entry ∈ history (perform net) calls client world,
      IsExchange panelOf .rebecca (net.now entry.world) entry.call
        (panelOf entry.world) entry.outcome := by
  refine @history_isExchange _ _ panelOf .rebecca net.now (perform net)
    (fun client => client.cfg.baseUrl = baseUrl) ?_ calls hsends client hurl
    world hstored
  intro call client world hurl hstored hcall
  have hcfg : ∀ {after : Client}, after.cfg = client.cfg →
      after.cfg.baseUrl = baseUrl := fun hsame =>
    (congrArg RebeccaConfig.baseUrl hsame).trans hurl
  cases call with
  | createUser params =>
      exact (createUser_isExchange hcontract hurl hcall _).imp id hcfg
  | setUserExpiry username expireAt =>
      exact (setUserExpiry_isExchange hcontract hurl hstored hcall _).imp id hcfg
  | getUser username =>
      exact (getUser_isExchange hcontract hurl hstored _).imp id hcfg
  | disableUser username =>
      exact (disableUser_isExchange hcontract hurl _).imp id hcfg
  | deleteUser username =>
      exact (deleteUser_isExchange hcontract hurl _).imp id hcfg

end Calls

/-! ## A panel that keeps the contract -/

section Server

open VpnMiddleware.PathSegment

def detail (text : String) : Json := .obj [("detail", .str text)]

def notFound : HttpResponse Failure := respond 404 (detail "User not found")

def userDto (username : String) (account : Account) : Json :=
  .obj [("username", .str username),
    ("status", .str (if account.enabled then "active" else "disabled")),
    ("expire", .num (account.expireAt / 1000)), ("data_limit", .null),
    ("used_traffic", .num 0)]

/-- `/api/user/{username}`. -/
def serveUser (request : HttpRequest) (username : String) (panel : Panel) :
    HttpResponse Failure × Panel :=
  match panel username with
  | none => (notFound, panel)
  | some account =>
      if request.method = "GET" then (respond 200 (userDto username account), panel)
      else if request.method = "DELETE" then
        (respond 200 (detail "User successfully deleted"),
          Function.update panel username none)
      else
        match request.body.bind jsonDecode with
        | none => (respond 422 (detail "Invalid body"), panel)
        | some json =>
            (respond 200 (userDto username (modified json account)),
              Function.update panel username (some (modified json account)))

/-- `POST /api/user`. -/
def serveUsers (request : HttpRequest) (panel : Panel) :
    HttpResponse Failure × Panel :=
  match request.body.bind jsonDecode with
  | none => (respond 422 (detail "Invalid body"), panel)
  | some json =>
      match json.text "username" with
      | none => (respond 422 (detail "Invalid body"), panel)
      | some username =>
          if panel username = none then
            (respond 200 (userDto username (added json)),
              Function.update panel username (some (added json)))
          else (respond 409 (detail "User already exists"), panel)

def serveRequest (baseUrl : String) (request : HttpRequest) (panel : Panel) :
    HttpResponse Failure × Panel :=
  if request.url = baseUrl ++ "/api/admin/token" then
    (respond 200 (.obj [("access_token", .str "secret")]), panel)
  else if ("authorization", "Bearer secret") ∉ request.headers then
    (respond 401 (detail "Not authenticated"), panel)
  else if request.url = baseUrl ++ "/api/user" then serveUsers request panel
  else
    match readSegment (baseUrl ++ "/api/user/") request.url with
    | some username => serveUser request username panel
    | none => (respond 404 (detail "Not Found"), panel)

/-- The panel at an address. -/
def server (baseUrl : String) : Network Failure Panel :=
  serverOf (serveRequest baseUrl)

variable {baseUrl username : String} {request : HttpRequest} {panel : Panel}

theorem describes_userDto (account : Account) :
    Describes username account (userDto username account) where
  truthy := rfl
  username := rfl
  expire := rfl
  status := by
    cases henabled : account.enabled <;> simp [userDto, henabled, Json.text,
      Json.member, Json.str?, List.lookup_cons]

theorem userPath_ne_token : userPath username ≠ "/api/admin/token" := by
  intro heq
  have hchar := congrArg (fun text => text.toList[5]?) heq
  simp [userPath, String.toList_append] at hchar

theorem userPath_ne_users : userPath username ≠ "/api/user" := by
  intro heq
  have hlength := congrArg (fun text => text.toList.length) heq
  simp [userPath, String.toList_append] at hlength

theorem serveRequest_user (hurl : request.url = baseUrl ++ userPath username)
    (hauthorized : ("authorization", "Bearer secret") ∈ request.headers) :
    serveRequest baseUrl request panel = serveUser request username panel := by
  have hsegment : readSegment (baseUrl ++ "/api/user/") request.url =
      some username := by
    rw [hurl, userPath, ← String.append_assoc]
    exact readSegment_encodeURIComponent _ _
  rw [serveRequest, if_neg (hurl ▸ path_ne userPath_ne_token),
    if_neg (not_not.mpr hauthorized), if_neg (hurl ▸ path_ne userPath_ne_users),
    hsegment]

/-- A request without the token is refused. -/
theorem handles_unauthorized {effect : Panel → Panel}
    {Replies : Panel → Option Json → Prop}
    (hurl : request.url ≠ baseUrl ++ "/api/admin/token")
    (hrefused : ("authorization", "Bearer secret") ∉ request.headers) :
    Handles (server baseUrl) id request panel effect Replies := by
  have hserve : serveRequest baseUrl request panel =
      (respond 401 (detail "Not authenticated"), panel) := by
    rw [serveRequest, if_neg hurl, if_pos hrefused]
  exact handles_refused hserve rfl

theorem contract_server (baseUrl : String) :
    Contract (server baseUrl) baseUrl id where
  token request panel hurl := by
    have hserve : serveRequest baseUrl request panel =
        (respond 200 (.obj [("access_token", .str "secret")]), panel) := by
      rw [serveRequest, if_pos hurl]
    rw [server, serverOf, Prod.map_snd, hserve]
    rfl
  getUser request panel username hmethod hurl := by
    by_cases hauthorized : ("authorization", "Bearer secret") ∈ request.headers
    · have hserve := @serveRequest_user baseUrl username request panel hurl
        hauthorized
      rw [serveUser, hmethod] at hserve
      cases hheld : panel username with
      | none =>
          rw [hheld] at hserve
          exact handles_served hserve (.missing rfl) (hheld ▸ .missing) rfl
      | some account =>
          rw [hheld] at hserve
          exact handles_served hserve (answers_respond _)
            (hheld ▸ .found (describes_userDto account)) rfl
    · exact handles_unauthorized (hurl ▸ path_ne userPath_ne_token) hauthorized
  modifyUser request panel username json hmethod hurl hbody := by
    by_cases hauthorized : ("authorization", "Bearer secret") ∈ request.headers
    · have hserve := @serveRequest_user baseUrl username request panel hurl
        hauthorized
      rw [serveUser, hmethod, hbody] at hserve
      cases hheld : panel username with
      | none =>
          rw [hheld] at hserve
          refine handles_served hserve (.missing rfl) trivial ?_
          rw [hheld]
          exact (hheld ▸ Function.update_eq_self username panel).symm
      | some account =>
          rw [hheld] at hserve
          refine handles_served hserve (answers_respond _) trivial ?_
          rw [hheld]
          rfl
    · exact handles_unauthorized (hurl ▸ path_ne userPath_ne_token) hauthorized
  removeUser request panel username hmethod hurl := by
    by_cases hauthorized : ("authorization", "Bearer secret") ∈ request.headers
    · have hserve := @serveRequest_user baseUrl username request panel hurl
        hauthorized
      rw [serveUser, hmethod] at hserve
      cases hheld : panel username with
      | none =>
          rw [hheld] at hserve
          refine handles_served hserve (.missing rfl) trivial ?_
          exact (hheld ▸ Function.update_eq_self username panel).symm
      | some account =>
          rw [hheld] at hserve
          exact handles_served hserve (answers_respond _) trivial rfl
    · exact handles_unauthorized (hurl ▸ path_ne userPath_ne_token) hauthorized
  addUser request panel username json hmethod hurl hbody hname hnew := by
    by_cases hauthorized : ("authorization", "Bearer secret") ∈ request.headers
    · have hserve : serveRequest baseUrl request panel =
          (respond 200 (userDto username (added json)),
            Function.update panel username (some (added json))) := by
        rw [serveRequest, if_neg (hurl ▸ path_ne (by decide)),
          if_neg (not_not.mpr hauthorized), if_pos hurl, serveUsers, hbody]
        simp only [hname]
        exact if_pos hnew
      exact handles_served hserve (answers_respond _)
        (.found (describes_userDto _)) rfl
    · exact handles_unauthorized (hurl ▸ path_ne (by decide)) hauthorized
  refuseUser request panel username json hmethod hurl hbody hname hheld := by
    by_cases hauthorized : ("authorization", "Bearer secret") ∈ request.headers
    · have hserve : serveRequest baseUrl request panel =
          (respond 409 (detail "User already exists"), panel) := by
        rw [serveRequest, if_neg (hurl ▸ path_ne (by decide)),
          if_neg (not_not.mpr hauthorized), if_pos hurl, serveUsers, hbody]
        simp only [hname]
        exact if_neg hheld
      exact handles_rejected hserve rfl (by change (409 : ℕ) ≠ 404; decide)
        (by change (409 : ℕ) ≠ 401; decide)
    · exact handles_unauthorized (hurl ▸ path_ne (by decide)) hauthorized

/-- A client that has no token yet. -/
def newClient : Client where
  cfg := ⟨"https://panel", "admin", "password", 8000⟩

/-- A session's user, its extension and its revocation. -/
def sessionCalls : List PanelCall :=
  [.createUser {
      username := "s_1"
      expireAt := 1800000
      proxies := [("vless", { id := some "secret" })]
      inboundsByProtocol := [("vless", ["free"])] },
    .setUserExpiry "s_1" 3600000, .disableUser "s_1", .deleteUser "s_1"]

theorem sendsDate_sessionCalls : ∀ call ∈ sessionCalls, SendsDate call := by
  intro call hcall
  simp only [sessionCalls, List.mem_cons, List.not_mem_nil, or_false] at hcall
  rcases hcall with rfl | rfl | rfl | rfl
  · exact ⟨by decide, by decide⟩
  · exact ⟨by decide, by decide⟩
  · exact trivial
  · exact trivial

theorem calls_are_exchanges_session :
    (history (perform (server "https://panel")) sessionCalls newClient
      (fun _ => none)).length = 4 ∧
    ∀ entry ∈ history (perform (server "https://panel")) sessionCalls newClient
        (fun _ => none),
      IsExchange id .rebecca ((server "https://panel").now entry.world)
        entry.call (id entry.world) entry.outcome := by
  refine ⟨rfl, ?_⟩
  have hempty : AllStored .rebecca (id fun _ => none) := by
    intro _ _ hnone
    cases hnone
  exact @calls_are_exchanges _ (server "https://panel") id "https://panel"
    newClient (fun _ => none) (contract_server _) rfl sessionCalls
    sendsDate_sessionCalls hempty

end Server

end VpnMiddleware.RebeccaContract
