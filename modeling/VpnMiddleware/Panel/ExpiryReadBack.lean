import VpnMiddleware.Ads.AdsService
import VpnMiddleware.Panel.RebeccaPanelClient
import VpnMiddleware.Panel.RemnawavePanelClient
import VpnMiddleware.Workers.OutboxDrainer

/-!
# The read-back of a pushed expiry

`createUser` and `setUserExpiry` of both clients as functions of the answers to
their requests.  An answer holds a user record whose expiry member is any value;
`assertExpiryRoundTrip` is the only check of it, and `verifyAdReward` and the
outbox drainer record a push as done when the call returns.
-/

namespace VpnMiddleware.ExpiryReadBack

open VpnMiddleware.Schema VpnMiddleware.Errors VpnMiddleware.Environment
open VpnMiddleware.Database VpnMiddleware.Transaction VpnMiddleware.Table
open VpnMiddleware.JsonText VpnMiddleware.PanelTypes VpnMiddleware.PanelHttp
open VpnMiddleware.ExpiryEcho VpnMiddleware.OutboxDrainer
open VpnMiddleware.Http.Exchange (result_bind bind_result_ok)

/-! ## Answers -/

/-- A user record of a response: its members, and the value of its expiry
member, which may be a number that `Json` has no text for. -/
structure UserDto where
  record : Json
  expiry : Echo

/-- What comes of a request: a record, none, or an error. -/
abbrev Reply := Except Failure (Option UserDto)

/-- The calls that push an expiry. -/
inductive Push
  | createUser (params : CreateUserParams)
  | setUserExpiry (username : String) (expireAt : ℕ)
  deriving DecidableEq, Repr

/-- The instant that is sent. -/
def Push.sent : Push → ℕ
  | .createUser params => params.expireAt
  | .setUserExpiry _ expireAt => expireAt

/-- The clock, and the answers to the request that writes and to the one that
reads the user back, where they are sent. -/
structure Answers where
  now : ℕ
  write : Reply
  read : Reply

/-- `EXPIRE_DRIFT_TOLERANCE_MS`. -/
def toleranceMs : ℕ := 2000

/-! ## The calls -/

section Calls

-- `Date.parse`: engines read other texts than ISO dates; none is not a number
variable (dateParse : String → Option ℚ)

/-- The expiry that `toPanelUser` makes of the echoed value. -/
def readExpiry : Provider → Echo → ReportedExpiry
  | .rebecca => readSeconds
  | .remnawave => readDate dateParse

def toPanelUser (provider : Provider) (dto : UserDto) : PanelUser :=
  let user := match provider with
    | .rebecca => RebeccaPanelClient.toPanelUser dto.record
    | .remnawave => RemnawavePanelClient.toPanelUser dto.record
  { user with expireAt := readExpiry dateParse provider dto.expiry }

/-- The end of each call: the record is mapped and its expiry is compared. -/
def confirm (provider : Provider) (sent : ℕ) (op : String) (missing : Failure)
    (reply : Reply) : Except Failure PanelUser := do
  match ← reply with
  | none => .error missing
  | some dto =>
      let user := toPanelUser dateParse provider dto
      assertExpiryRoundTrip toleranceMs user sent op
      return user

/-- The error of a record that is gone after the write; the Rebecca client. -/
def vanished (username : String) : Failure :=
  .panel { message := "user " ++ username ++ " vanished after expiry update" }

/-- `createUser` and `setUserExpiry` of the Rebecca client. -/
def rebeccaPush (answers : Answers) : Push → Except Failure PanelUser
  | .createUser params =>
      if RebeccaPanelClient.isRefused params then
        .error (.panel {
          message := "refusing to create user with empty inbounds allow-list"
          retryable := false })
      else confirm dateParse .rebecca params.expireAt "createUser"
        (RebeccaPanelClient.cannotRead none "username") answers.write
  | .setUserExpiry username expireAt => do
      let _ ← answers.write
      confirm dateParse .rebecca expireAt "setUserExpiry" (vanished username)
        answers.read

/-- A push of an instant that has passed is answered with the current user. -/
def isPastNoOp (now : ℕ) : Push → Bool
  | .createUser _ => false
  | .setUserExpiry _ expireAt => decide (expireAt ≤ now + toleranceMs)

/-- `createUser` and `setUserExpiry` of the Remnawave client. -/
def remnawavePush (squadUuids : List String) (answers : Answers) :
    Push → Except Failure PanelUser
  | .createUser params =>
      if squadUuids.isEmpty then
        .error (.panel {
          message := "refusing to create user: REMNAWAVE_SQUAD_UUIDS is empty " ++
            "(no access scope)"
          retryable := false })
      else confirm dateParse .remnawave params.expireAt "createUser"
        (.panel { message := "remnawave createUser returned no body"
                  retryable := false }) answers.write
  | .setUserExpiry username expireAt =>
      if isPastNoOp answers.now (.setUserExpiry username expireAt) then do
        match ← answers.read with
        | none => .error (RemnawavePanelClient.vanished username
            "during past-expiry no-op")
        | some dto => return toPanelUser dateParse .remnawave dto
      else confirm dateParse .remnawave expireAt "setUserExpiry"
        (RemnawavePanelClient.vanished username "after expiry update") answers.write

end Calls

/-- A client, as far as a push depends on it. -/
inductive Client
  | rebecca
  | remnawave (squadUuids : List String)
  deriving DecidableEq, Repr

def Client.provider : Client → Provider
  | .rebecca => .rebecca
  | .remnawave _ => .remnawave

def push (dateParse : String → Option ℚ) (client : Client) (answers : Answers)
    (call : Push) : Except Failure PanelUser :=
  match client with
  | .rebecca => rebeccaPush dateParse answers call
  | .remnawave squadUuids => remnawavePush dateParse squadUuids answers call

/-! ## What the callers record -/

/-- Phase B of `verifyAdReward` after the push: the outbox row is completed, or
left to the drainer. -/
def recordPush (now opId : ℕ) (pushed : Except Failure PanelUser) : Query Unit :=
  match pushed with
  | .ok _ => AdsService.recordPushed now opId
  | .error cause => AdsService.recordPushFailed now opId cause.message

/-- The drainer after the dispatch of an `extend_user` row. -/
def recordDispatch (cfg : Config) (now : ℕ) (row : OutboxRow)
    (pushed : Except Failure PanelUser) : Query Unit :=
  match pushed with
  | .ok _ => recordSucceeded now row.id
  | .error cause => recordFailed cfg now row cause

/-! ## The clients on a network -/

section Network

variable {World : Type} (net : Http.Network Failure World)

/-- The member of a user record that holds the expiry. -/
def expiryMember : Provider → String
  | .rebecca => "expire"
  | .remnawave => "expireAt"

def UserDto.ofJson (provider : Provider) (json : Json) : UserDto :=
  ⟨json, .ofMember (json.member (expiryMember provider))⟩

/-- The answer that a request of a client gets from the network. -/
def replyOf (provider : Provider) : Except Failure (Option Json) → Reply
  | .error cause => .error cause
  | .ok body => .ok ((body.filter Json.isTruthy).map (.ofJson provider))

/-- The end of a call on the network is the comparison of the record. -/
theorem result_confirm {Client : Type} (provider : Provider) (sent : ℕ)
    (op : String) (missing : Failure) (user : Json → PanelUser)
    (huser : ∀ json, user json = toPanelUser isoDate provider (.ofJson provider json))
    (body : Option Json) (client : Client) (world : World) :
    ((match body.filter Json.isTruthy with
      | none => Http.Exchange.fail missing
      | some dto => do
          Http.Exchange.fromExcept (assertExpiryRoundTrip toleranceMs (user dto)
            sent op)
          return user dto :
        Http.Exchange Failure Client World PanelUser) client world).result =
      confirm isoDate provider sent op missing (replyOf provider (.ok body)) := by
  rw [replyOf]
  cases body.filter Json.isTruthy with
  | none => rfl
  | some dto =>
      rw [result_bind, Option.map_some]
      rw [huser]
      rfl

/-- `request` of the Remnawave client, as an answer. -/
def remnawaveReply (method path : String) (body : Option Json)
    (client : RemnawavePanelClient.Client) (world : World) : Reply :=
  replyOf .remnawave
    (RemnawavePanelClient.request net method path body client world).result

theorem remnawave_createUser (params : CreateUserParams)
    (client : RemnawavePanelClient.Client) (world : World) (now : ℕ) (read : Reply) :
    (RemnawavePanelClient.createUser net params client world).result =
      remnawavePush isoDate client.cfg.squadUuids
        ⟨now, remnawaveReply net "POST" "/users"
          (some (RemnawavePanelClient.createUserPayload client.cfg params)) client
          world, read⟩ (.createUser params) := by
  rw [RemnawavePanelClient.createUser, result_bind]
  change ((if RemnawavePanelClient.isRefused client.cfg then _ else _ :
    RemnawavePanelClient.Call World PanelUser) client world).result = _
  cases hrefused : client.cfg.squadUuids.isEmpty with
  | true =>
      rw [RemnawavePanelClient.isRefused, hrefused, if_pos rfl, remnawavePush,
        hrefused, if_pos rfl]
      rfl
  | false =>
      rw [RemnawavePanelClient.isRefused, hrefused, if_neg Bool.false_ne_true,
        remnawavePush, hrefused, if_neg Bool.false_ne_true, result_bind,
        remnawaveReply]
      cases (RemnawavePanelClient.request net "POST" "/users" _ client world).result with
      | error cause => rfl
      | ok body =>
          exact result_confirm .remnawave params.expireAt "createUser" _
            RemnawavePanelClient.toPanelUser (fun _ => rfl) body _ _

theorem remnawave_setUserExpiry (username : String) (expireAt : ℕ)
    (client : RemnawavePanelClient.Client) (world : World) :
    (RemnawavePanelClient.setUserExpiry net username expireAt client world).result =
      remnawavePush isoDate client.cfg.squadUuids
        ⟨net.now world,
          remnawaveReply net "PATCH" "/users" (some (.obj [
            ("username", .str username), ("status", .str "ACTIVE"),
            ("expireAt", .str (WebText.isoString expireAt))])) client world,
          remnawaveReply net "GET" (RemnawavePanelClient.byUsernamePath username)
            none client world⟩ (.setUserExpiry username expireAt) := by
  rw [RemnawavePanelClient.setUserExpiry, result_bind]
  change ((if expireAt ≤ net.now world + RemnawavePanelClient.expireDriftToleranceMs
    then _ else _ : RemnawavePanelClient.Call World PanelUser) client world).result = _
  by_cases hpast : expireAt ≤
      net.now world + RemnawavePanelClient.expireDriftToleranceMs
  · have hnoOp : isPastNoOp (net.now world) (.setUserExpiry username expireAt) =
        true := decide_eq_true hpast
    rw [if_pos hpast, remnawavePush, hnoOp, if_pos rfl,
      RemnawavePanelClient.getUser, result_bind, result_bind, remnawaveReply,
      remnawaveReply]
    cases (RemnawavePanelClient.request net "GET" _ none client world).result with
    | error cause => rfl
    | ok body =>
        dsimp only [replyOf]
        cases body.filter Json.isTruthy <;> rfl
  · have hahead : isPastNoOp (net.now world) (.setUserExpiry username expireAt) =
        false := decide_eq_false hpast
    rw [if_neg hpast, remnawavePush, hahead, if_neg Bool.false_ne_true, result_bind,
      remnawaveReply]
    cases (RemnawavePanelClient.request net "PATCH" "/users" _ client world).result with
    | error cause => rfl
    | ok body =>
        exact result_confirm .remnawave expireAt "setUserExpiry" _
          RemnawavePanelClient.toPanelUser (fun _ => rfl) body _ _

/-- A body that is no record has no expiry. -/
theorem reportedExpiry_of_falsy {dto : Json} (hfalsy : dto.isTruthy = false) :
    RebeccaPanelClient.reportedExpiry dto = .unlimited := by
  cases dto with
  | arr items => cases hfalsy
  | obj members => cases hfalsy
  | _ => rfl

theorem not_ok_of_unlimited {dto : Json} {sent : ℕ} {op : String}
    {client : RebeccaPanelClient.Client} {world : World} {user : PanelUser}
    (hunlimited : RebeccaPanelClient.reportedExpiry dto = .unlimited) :
    ((do
        Http.Exchange.fromExcept (assertExpiryRoundTrip toleranceMs
          (RebeccaPanelClient.toPanelUser dto) sent op)
        return RebeccaPanelClient.toPanelUser dto :
      RebeccaPanelClient.Call World PanelUser) client world).result ≠ .ok user := by
  intro hok
  obtain ⟨_, hpassed, -⟩ := bind_result_ok.mp hok
  have hdrifted : hasDrifted toleranceMs sent
      (RebeccaPanelClient.toPanelUser dto).expireAt = true := by
    rw [RebeccaPanelClient.toPanelUser, hunlimited]
    rfl
  simp [Http.Exchange.fromExcept, assertExpiryRoundTrip, hdrifted] at hpassed

/-- What Rebecca's `createUser` does with the record of its request. -/
theorem rebecca_createUser_ok_iff (params : CreateUserParams)
    (client : RebeccaPanelClient.Client) (world : World) (now : ℕ) (read : Reply)
    (user : PanelUser) :
    (RebeccaPanelClient.createUser net params client world).result = .ok user ↔
      rebeccaPush isoDate ⟨now, replyOf .rebecca (RebeccaPanelClient.request net
        "POST" "/api/user" (some (RebeccaPanelClient.createUserPayload params)) client
        world).result, read⟩ (.createUser params) = .ok user := by
  rw [RebeccaPanelClient.createUser, rebeccaPush]
  cases RebeccaPanelClient.isRefused params with
  | true => simp [Http.Exchange.fail]
  | false =>
      rw [if_neg Bool.false_ne_true, if_neg Bool.false_ne_true, result_bind]
      cases (RebeccaPanelClient.request net "POST" "/api/user" _ client world).result with
      | error cause => exact Iff.rfl
      | ok body =>
          cases body with
          | none =>
              refine iff_of_false (fun hok => ?_) (fun hok => ?_)
              · cases hok
              · cases hok
          | some dto =>
              cases htruthy : dto.isTruthy with
              | false =>
                  have hreply : replyOf .rebecca (.ok (some dto)) = .ok none := by
                    simp [replyOf, htruthy]
                  rw [hreply]
                  have hunlimited := reportedExpiry_of_falsy htruthy
                  refine iff_of_false (fun hok => ?_) (fun hok => ?_)
                  · cases dto with
                    | null => cases hok
                    | _ => exact not_ok_of_unlimited hunlimited hok
                  · cases hok
              | true =>
                  have hreply : replyOf .rebecca (.ok (some dto)) =
                      .ok (some (.ofJson .rebecca dto)) := by
                    simp [replyOf, htruthy]
                  rw [hreply]
                  cases dto with
                  | null => cases htruthy
                  | _ => exact Iff.of_eq (congrArg (· = .ok user)
                      ((result_bind _ _).trans rfl))

/-- The read-back of Rebecca's `setUserExpiry`. -/
theorem result_readBack (username : String) (expireAt : ℕ)
    (client : RebeccaPanelClient.Client) (world : World) :
    ((do
        let user ← RebeccaPanelClient.getUser net username
        match user with
        | none => Http.Exchange.fail (vanished username)
        | some user =>
            Http.Exchange.fromExcept (assertExpiryRoundTrip toleranceMs user expireAt
              "setUserExpiry")
            return user :
        RebeccaPanelClient.Call World PanelUser) client world).result =
      confirm isoDate .rebecca expireAt "setUserExpiry" (vanished username)
        (replyOf .rebecca (RebeccaPanelClient.request net "GET"
          (RebeccaPanelClient.userPath username) none client world).result) := by
  rw [result_bind, RebeccaPanelClient.getUser, result_bind]
  cases (RebeccaPanelClient.request net "GET" _ none client world).result with
  | error cause => rfl
  | ok body =>
      dsimp only [replyOf]
      cases body.filter Json.isTruthy with
      | none => rfl
      | some dto =>
          exact (@result_bind _ _ _ _ _ (Http.Exchange.fromExcept
            (assertExpiryRoundTrip toleranceMs (RebeccaPanelClient.toPanelUser dto)
              expireAt "setUserExpiry")) (fun _ => pure _) _ _).trans rfl

theorem rebecca_setUserExpiry (username : String) (expireAt : ℕ)
    (client : RebeccaPanelClient.Client) (world : World) (now : ℕ) :
    let put := RebeccaPanelClient.request net "PUT"
      (RebeccaPanelClient.userPath username)
      (some (.obj [("expire", .num (RebeccaPanelClient.toEpochSeconds expireAt))]))
      client world
    let get := RebeccaPanelClient.request net "GET"
      (RebeccaPanelClient.userPath username) none put.client put.world
    (RebeccaPanelClient.setUserExpiry net username expireAt client world).result =
      rebeccaPush isoDate ⟨now, replyOf .rebecca put.result,
        replyOf .rebecca get.result⟩ (.setUserExpiry username expireAt) := by
  intro put get
  rw [RebeccaPanelClient.setUserExpiry, result_bind, rebeccaPush]
  cases put.result with
  | error cause => rfl
  | ok written => exact result_readBack net username expireAt put.client put.world

end Network

end VpnMiddleware.ExpiryReadBack
