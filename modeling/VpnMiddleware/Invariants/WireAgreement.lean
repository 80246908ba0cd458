import VpnMiddleware.Connection.WireFormat
import VpnMiddleware.Invariants.Funding
import VpnMiddleware.Invariants.PayloadRoundTrip

/-!
# Wire agreement of success responses

What the client's decoders make of the bodies that the server sends.
-/

namespace VpnMiddleware.WireAgreement

open VpnMiddleware.Schema VpnMiddleware.Environment VpnMiddleware.Transaction
open VpnMiddleware.JsonText VpnMiddleware.DateText VpnMiddleware.WireFormat
open VpnMiddleware.PayloadCipher VpnMiddleware.PayloadRoundTrip
open VpnMiddleware.ConnectionModels VpnMiddleware.TransitionSystem
open VpnMiddleware.ConnectionService VpnMiddleware.AdsService
open VpnMiddleware.ConnectFlow VpnMiddleware.VerifyFlow
open VpnMiddleware.Middleware VpnMiddleware.Funding VpnMiddleware.ConfigBuilder

variable {Key : Type} {wire : Wire Key} {draw : CipherDraw Key}

/-! ## Agreement -/

/-- The same session id, deadline and grant data. -/
inductive SameConnect (wire : Wire Key) : ConnectResult → ConnectResponse → Prop
  | free {sessionId grantId requiredAds provisioningExpiresAt : ℕ}
      {nonce : String} {note : Option String} :
      SameConnect wire (.free sessionId (some grantId) (some nonce) requiredAds
          provisioningExpiresAt)
        ⟨wire.idText sessionId, wire.idText grantId, nonce, requiredAds,
          provisioningExpiresAt, note⟩
  | premium {sessionId expiresAt : ℕ}
      {payload : SessionConfigService.EncryptedPayload}
      {response : ConnectResponse} :
      response.sessionId = wire.idText sessionId →
      response.provisioningExpiresAt = expiresAt →
      SameConnect wire (.premium sessionId expiresAt payload) response

/-- The client decodes the body of a connect into the same data. -/
def ConnectAgrees (wire : Wire Key) (result : ConnectResult) (text : String) :
    Prop :=
  ∃ response, (jsonDecode text).map ConnectResponse.fromJson =
    some (.ok response) ∧ SameConnect wire result response

/-- The same payload bytes, or none on both sides. -/
def SamePayload (wire : Wire Key) (draw : CipherDraw Key)
    (sent : Option SessionConfigService.EncryptedPayload)
    (received : Option ConnectionModels.EncryptedPayload) : Prop :=
  match sent with
  | none => received = none
  | some payload => ∃ key, payloadKey wire.crypto draw
      (wire.idText payload.sessionId) payload.clientPublicKey = some key ∧
      received = some (envelope wire.crypto draw key payload.plaintext)

/-- The client decodes the body of a claim into the same session id, expiry,
minutes and payload bytes. -/
def VerifyAgrees (wire : Wire Key) (draw : CipherDraw Key)
    (result : VerifyRewardResult) (text : String) : Prop :=
  ∃ response, (jsonDecode text).map VerifyRewardResponse.fromJson =
      some (.ok response) ∧
    response.sessionId = wire.idText result.sessionId ∧
    response.expiresAt = result.expiresAt ∧
    response.grantedMinutes = result.grantedMinutes ∧
    SamePayload wire draw result.payload response.payload

def IsFree : ConnectResult → Prop
  | .free .. => True
  | .premium .. => False

/-! ## Connect bodies -/

/-- A premium body has no grant to read. -/
theorem not_connectAgrees_premium {sessionId expiresAt : ℕ}
    {payload : SessionConfigService.EncryptedPayload} {json : Json}
    (hjson : connectJson wire draw (.premium sessionId expiresAt payload) =
      some json) :
    ¬ ConnectAgrees wire (.premium sessionId expiresAt payload)
      (bodyText json) := by
  rintro ⟨response, hresponse, -⟩
  simp only [connectJson, Option.bind_eq_bind, Option.bind_eq_some_iff,
    Option.pure_def, Option.some.injEq] at hjson
  obtain ⟨expiry, -, dto, -, rfl⟩ := hjson
  have hgrantId : asString (.obj [("tier", .str "premium"),
      ("sessionId", .str (wire.idText sessionId)), ("expiresAt", .str expiry),
      ("payload", dto.json)]) "grantId" = .error .typeError := rfl
  rw [bodyText, jsonDecode_stringify, Option.map_some, Option.some.injEq,
    ConnectResponse.fromJson, hgrantId] at hresponse
  cases hresponse

theorem connectAgrees_free {sessionId grantId requiredAds expiresAt : ℕ}
    {nonce : String} {json : Json}
    (hjson : connectJson wire draw (.free sessionId (some grantId) (some nonce)
      requiredAds expiresAt) = some json) :
    ConnectAgrees wire (.free sessionId (some grantId) (some nonce) requiredAds
      expiresAt) (bodyText json) := by
  simp only [connectJson, Option.bind_eq_bind, Option.bind_eq_some_iff,
    Option.pure_def, Option.some.injEq] at hjson
  obtain ⟨expiry, hexpiry, rfl⟩ := hjson
  let body : Json := .obj [("tier", .str "free"),
    ("sessionId", .str (wire.idText sessionId)),
    ("grantId", .str (wire.idText grantId)), ("nonce", .str nonce),
    ("requiredAds", .num requiredAds), ("provisioningExpiresAt", .str expiry)]
  have hdeadline : asInstant body "provisioningExpiresAt" = .ok expiresAt :=
    asInstant_of_field hexpiry rfl
  have hread : ConnectResponse.fromJson body = .ok ⟨wire.idText sessionId,
      wire.idText grantId, nonce, requiredAds, expiresAt, none⟩ := by
    rw [ConnectResponse.fromJson, hdeadline]
    rfl
  have hdecoded : (jsonDecode (bodyText body)).map ConnectResponse.fromJson =
      some (.ok ⟨wire.idText sessionId, wire.idText grantId, nonce, requiredAds,
        expiresAt, none⟩) := by
    rw [bodyText, jsonDecode_stringify]
    exact congrArg some hread
  exact ⟨_, hdecoded, .free⟩

/-! ## Claim bodies -/

/-- The DTO of a payload is that of its envelope. -/
theorem exists_key_of_dtoOf {payload : SessionConfigService.EncryptedPayload}
    {dto : EncryptedPayloadDto} (hdto : dtoOf wire draw payload = some dto) :
    ∃ key, payloadKey wire.crypto draw (wire.idText payload.sessionId)
      payload.clientPublicKey = some key ∧
      dto = envelopeDto (envelope wire.crypto draw key payload.plaintext) := by
  rw [dtoOf, encryptFor] at hdto
  split_ifs at hdto with hlength
  · simp [Except.toOption] at hdto
  · cases hkey : payloadKey wire.crypto draw (wire.idText payload.sessionId)
        payload.clientPublicKey with
    | none => simp [hkey, Except.toOption] at hdto
    | some key =>
        simp only [hkey, Except.toOption, Option.some.injEq] at hdto
        exact ⟨key, rfl, hdto.symm⟩

theorem fromJson_dto (hsizes : NodeSizes wire.crypto) {key : List UInt8}
    {plaintext : String} (htext : plaintext ≠ "") :
    payloadFromJson (envelopeDto (envelope wire.crypto draw key plaintext)).json =
      .ok (some (envelope wire.crypto draw key plaintext)) := by
  have hformed := @wellFormed_envelope _ _ draw hsizes key _ htext
  have hread := fromJson_envelopeDto
    (ne_nil_of_length hformed.serverPubKey (by decide))
    (ne_nil_of_length hformed.iv (by decide)) hformed.cipherText
    (ne_nil_of_length hformed.tag (by decide))
  exact congrArg (some <$> ·) hread

/-- A claim body is decoded, with or without its payload. -/
theorem verifyAgrees_of_plaintext (hsizes : NodeSizes wire.crypto)
    {result : VerifyRewardResult} {json : Json}
    (hplaintext : ∀ payload ∈ result.payload, payload.plaintext ≠ "")
    (hjson : verifyJson wire draw result = some json) :
    VerifyAgrees wire draw result (bodyText json) := by
  simp only [verifyJson, Option.bind_eq_bind, Option.bind_eq_some_iff,
    Option.pure_def, Option.some.injEq] at hjson
  obtain ⟨expiry, hexpiry, members, hmembers, rfl⟩ := hjson
  let head : List (String × Json) :=
    [("sessionId", .str (wire.idText result.sessionId)),
      ("expiresAt", .str expiry), ("grantedMinutes", .num result.grantedMinutes),
      ("panelSync", .str (PanelSync.text result.panelSync))]
  have hread : ∀ {received}, payloadFromJson (field (.obj (head ++ members))
      "payload") = .ok received →
      VerifyRewardResponse.fromJson (.obj (head ++ members)) =
        .ok ⟨wire.idText result.sessionId, result.expiresAt,
          result.grantedMinutes, received⟩ := by
    intro received hpayload
    have hdeadline : asInstant (.obj (head ++ members)) "expiresAt" =
        .ok result.expiresAt := asInstant_of_field hexpiry rfl
    rw [VerifyRewardResponse.fromJson, hdeadline, hpayload]
    rfl
  rw [VerifyAgrees, bodyText, jsonDecode_stringify, Option.map_some]
  cases hpayload : result.payload with
  | none =>
      rw [hpayload] at hmembers
      obtain rfl := Option.some.inj hmembers
      exact ⟨_, congrArg some (hread rfl), rfl, rfl, rfl, rfl⟩
  | some payload =>
      rw [hpayload] at hmembers
      obtain ⟨dto, hdto, rfl⟩ := Option.map_eq_some_iff.mp hmembers
      obtain ⟨key, hkey, rfl⟩ := exists_key_of_dtoOf hdto
      have hne := hplaintext payload (by simp [hpayload])
      exact ⟨_, congrArg some (hread (fromJson_dto hsizes hne)), rfl, rfl, rfl,
        key, hkey, rfl⟩

/-! ## Over runs -/

section Runs

variable {cfg : Config} {s s' : State} {act : Action}

/-- A free connect has minted its grant. -/
def HasGrant (provision : Provision) : Prop :=
  provision.plan.tier = .free → ∃ grantId nonce,
    provision.tx.grantId = some grantId ∧ provision.tx.nonce = some nonce

def Minted (s : State) : Prop :=
  ∀ provision, .provisioning provision ∈ s.connects → HasGrant provision

theorem hasGrant_of_commit {now : ℕ} {input : ConnectInput} {plan : Resolved}
    {draw : Draw} {db after : Db} {tx : TxResult} {stage : ProvisionStage}
    (hok : connectTransaction cfg now input plan draw db = .ok (tx, after)) :
    HasGrant ⟨input, plan, tx, stage⟩ := by
  intro htier
  simp only [connectTransaction, bind_ok, get_ok, expect_ok] at hok
  obtain ⟨_, _, ⟨rfl, rfl⟩, usernames, mid, -, _, _, ⟨rfl, rfl⟩, node, _,
    ⟨-, rfl⟩, sessionId, inserted, -, hrest⟩ := hok
  simp only [show plan.tier = .free from htier, bind_ok, pure_ok] at hrest
  obtain ⟨grantId, _, -, rfl, -⟩ := hrest
  exact ⟨_, _, rfl, rfl⟩

theorem minted_step (hminted : Minted s) (hstep : step cfg s act = some s') :
    Minted s' := by
  intro provision hmem
  rcases connects_step hstep hmem with
    hold | ⟨input, hadmitted⟩ | ⟨i, draw, reply, proc, -, hproc, hnext⟩
  · exact hminted provision hold
  · cases hadmitted
  · generalize hcurrent : ConnectProc.provisioning provision = next at hnext
    cases hnext with
    | resolve => cases hcurrent
    | commit hrun _ =>
        obtain rfl := ConnectProc.provisioning.inj hcurrent
        exact hasGrant_of_commit hrun
    | provision _ =>
        obtain rfl := ConnectProc.provisioning.inj hcurrent
        have hold := hminted _ (List.mem_of_getElem? hproc)
        exact fun htier => hold htier

theorem minted_run {start last : State} {trace : List (State × Action)}
    (hinit : IsInitial start) (hrun : Run (middleware cfg) start trace last) :
    Always Minted trace last := by
  have hstart : Minted start := by
    intro provision hmem
    rw [hinit.connects] at hmem
    cases hmem
  exact hrun.always hstart fun _ _ _ hminted hstep => minted_step hminted hstep

/-- The answer of a connect is that of one of its processes. -/
theorem connect_response {result : ConnectResult}
    (hresponse : responseOf cfg s act = some (.connect (.ok result))) :
    ∃ provision, .provisioning provision ∈ s.connects ∧
      Answers cfg s.world provision result := by
  cases act with
  | connect i draw reply =>
      simp only [responseOf, perform, State.connect] at hresponse
      cases hproc : s.connects[i]? with
      | none => simp [hproc] at hresponse
      | some proc =>
          simp only [hproc, Option.map_some, Option.bind_some,
            Option.map_eq_some_iff] at hresponse
          obtain ⟨answer, hanswer, hsame⟩ := hresponse
          obtain rfl := Response.connect.inj hsame
          obtain ⟨provision, rfl, hanswers⟩ := connect_answers hanswer
          exact ⟨provision, List.mem_of_getElem? hproc, hanswers⟩
  | requestConnect userId deviceId presented =>
      simp only [responseOf, perform, State.requestConnect,
        Option.bind_some] at hresponse
      cases hcheck : checkRequest s.world.clock userId deviceId presented
        s.world.db <;> simp [hcheck] at hresponse
  | verifyAdReward input =>
      simp only [responseOf, perform, State.verifyAdReward, Option.bind_some,
        Option.map_eq_some_iff] at hresponse
      obtain ⟨answer, -, hsame⟩ := hresponse
      cases hsame
  | verify i reply =>
      simp only [responseOf, perform, State.verify] at hresponse
      cases hproc : s.verifies[i]? <;> simp [hproc] at hresponse
  | drain i reply =>
      simp only [responseOf, perform, State.drain] at hresponse
      cases hproc : s.drains[i]? <;> simp [hproc] at hresponse
  | _ => simp [responseOf, perform] at hresponse

/-- A free answer carries a grant. -/
theorem free_of_answers {provision : Provision} {result : ConnectResult}
    (hgrant : HasGrant provision) (hanswers : Answers cfg s.world provision result)
    (hfree : IsFree result) : ∃ sessionId grantId nonce requiredAds expiresAt,
      result = .free sessionId (some grantId) (some nonce) requiredAds
        expiresAt := by
  cases hanswers with
  | free htier =>
      obtain ⟨grantId, nonce, hid, hnonce⟩ := hgrant htier
      rw [freeResult, hid, hnonce]
      exact ⟨_, _, _, _, _, rfl⟩
  | premium _ _ => exact hfree.elim

/-- A delivered payload holds a config. -/
theorem plaintext_of_deliveredBy {payload : SessionConfigService.EncryptedPayload}
    (hdelivered : deliveredBy cfg s act = some payload) :
    payload.plaintext ≠ "" := by
  have hread : ∀ {sessionId}, payloadFor cfg sessionId s.world.db =
      some payload → payload.plaintext ≠ "" := by
    intro sessionId hread
    obtain ⟨_, hrun⟩ := payloadFor_eq_some hread
    obtain ⟨_, _, _, -, -, -, -, -, -, rfl⟩ :=
      SessionConfigService.encryptedPayloadForSession_ok hrun
    exact buildSingboxConfig_ne_empty _
  cases delivers_of_deliveredBy hdelivered with
  | premium provision after _ _ hbuilt =>
      obtain ⟨-, -, endpoint, rfl⟩ := buildPayload_ok hbuilt
      exact buildSingboxConfig_ne_empty _
  | extension _ _ _ _ hfound => exact hread hfound
  | replay _ _ _ _ _ _ hfound => exact hread hfound

/-- The client decodes every claim body, and exactly the free connect bodies,
into what the server sent. -/
theorem wire_agreement {start last : State} {trace : List (State × Action)}
    (hinit : IsInitial start) (hrun : Run (middleware cfg) start trace last)
    (hsizes : NodeSizes wire.crypto) :
    ∀ entry ∈ trace,
      (∀ result json,
        responseOf cfg entry.1 entry.2 = some (.connect (.ok result)) →
        connectJson wire draw result = some json →
        (ConnectAgrees wire result (bodyText json) ↔ IsFree result)) ∧
      ∀ result json,
        responseOf cfg entry.1 entry.2 = some (.verify (.ok result)) →
        verifyJson wire draw result = some json →
        VerifyAgrees wire draw result (bodyText json) := by
  have hminted := minted_run hinit hrun
  intro entry hentry
  constructor
  · intro result json hresponse hjson
    obtain ⟨provision, hmem, hanswers⟩ := connect_response hresponse
    constructor
    · intro hagrees
      cases result with
      | free _ _ _ _ _ => exact trivial
      | premium _ _ _ => exact absurd hagrees (not_connectAgrees_premium hjson)
    · intro hfree
      have hgrant := hminted.1 entry hentry provision hmem
      obtain ⟨sessionId, grantId, nonce, requiredAds, expiresAt, rfl⟩ :=
        free_of_answers hgrant hanswers hfree
      exact connectAgrees_free hjson
  · intro result json hresponse hjson
    refine verifyAgrees_of_plaintext hsizes (fun payload hpayload => ?_) hjson
    apply @plaintext_of_deliveredBy cfg entry.1 entry.2
    rw [deliveredBy, hresponse]
    exact hpayload

end Runs

/-! ## Two deliveries -/

def toyWire : Wire UInt8 := ⟨Nat.repr, toyNode⟩

def toyDraw : CipherDraw UInt8 := ⟨2, fun _ => 0⟩

/-- The successful answer of a claim, if its body can be written. -/
def claimed (response : Option Response) : Option (VerifyRewardResult × Json) :=
  match response with
  | some (.verify (.ok result)) =>
      (verifyJson toyWire toyDraw result).map fun json => (result, json)
  | _ => none

/-- The premium answer of a connect, if its body can be written. -/
def premiumAnswer (response : Option Response) :
    Option (ℕ × ℕ × SessionConfigService.EncryptedPayload × Json) :=
  match response with
  | some (.connect (.ok (.premium sessionId expiresAt payload))) =>
      (connectJson toyWire toyDraw (.premium sessionId expiresAt payload)).map
        fun json => (sessionId, expiresAt, payload, json)
  | _ => none

theorem claimed_eq_some {response : Option Response} {result : VerifyRewardResult}
    {json : Json} (hclaimed : claimed response = some (result, json)) :
    response = some (.verify (.ok result)) ∧
      verifyJson toyWire toyDraw result = some json := by
  simp only [claimed] at hclaimed
  split at hclaimed
  · obtain ⟨_, hjson, heq⟩ := Option.map_eq_some_iff.mp hclaimed
    obtain ⟨rfl, rfl⟩ := Prod.mk.inj heq
    exact ⟨rfl, hjson⟩
  · cases hclaimed

theorem premiumAnswer_eq_some {response : Option Response}
    {sessionId expiresAt : ℕ} {payload : SessionConfigService.EncryptedPayload}
    {json : Json} (hanswer : premiumAnswer response =
      some (sessionId, expiresAt, payload, json)) :
    response = some (.connect (.ok (.premium sessionId expiresAt payload))) ∧
      connectJson toyWire toyDraw (.premium sessionId expiresAt payload) =
        some json := by
  simp only [premiumAnswer] at hanswer
  split at hanswer
  · obtain ⟨_, hjson, heq⟩ := Option.map_eq_some_iff.mp hanswer
    simp only [Prod.mk.injEq] at heq
    obtain ⟨rfl, rfl, rfl, rfl⟩ := heq
    exact ⟨rfl, hjson⟩
  · cases hanswer

/-- The claim that funds the small connect is decoded with its payload. -/
theorem wire_agreement_funded : ∃ trace last entry result json,
    Run (middleware {}) smallDeployment trace last ∧ entry ∈ trace ∧
    responseOf {} entry.1 entry.2 = some (.verify (.ok result)) ∧
    verifyJson toyWire toyDraw result = some json ∧ result.payload ≠ none ∧
    VerifyAgrees toyWire toyDraw result (bodyText json) := by
  have hsome : (execute (middleware {}) smallDeployment
      fundedConnect).isSome = true := by decide +kernel
  have hdelivered : ∃ entry ∈ traceOf (middleware {}) smallDeployment
      fundedConnect, (claimed (responseOf {} entry.1 entry.2)).any
        (fun answer => answer.1.payload.isSome) = true := by
    decide +kernel
  obtain ⟨last, hrun⟩ := exists_run_of_isSome hsome
  obtain ⟨entry, hentry, hpayload⟩ := hdelivered
  obtain ⟨⟨result, json⟩, hclaimed, hpayload⟩ :=
    (Option.any_eq_true _ _).mp hpayload
  obtain ⟨hresponse, hjson⟩ := claimed_eq_some hclaimed
  have hagrees := (@wire_agreement _ toyWire toyDraw {} _ _ _
    isInitial_smallDeployment hrun compatible_toy.sizes entry hentry).2
  exact ⟨_, last, entry, result, json, hrun, hentry, hresponse, hjson,
    Option.isSome_iff_ne_none.mp hpayload, hagrees result json hresponse hjson⟩

/-- The small deployment with a premium subscription. -/
def premiumDeployment : State where
  world :=
    { db := { smallDb with
        plans := [{ id := 1, code := "premium", tier := .premium }]
        subscriptions := [{
          id := 1
          userId := 1
          planId := 1
          source := .internal
          status := .active
          currentPeriodEnd := some 86400000 }] } }

theorem premium_connect_not_decoded : IsInitial premiumDeployment ∧
    ∃ trace mid last act sessionId expiresAt payload json,
      Run (middleware {}) premiumDeployment (trace ++ [(mid, act)]) last ∧
      responseOf {} mid act =
        some (.connect (.ok (.premium sessionId expiresAt payload))) ∧
      connectJson toyWire toyDraw (.premium sessionId expiresAt payload) =
        some json ∧
      ¬ ConnectAgrees toyWire (.premium sessionId expiresAt payload)
        (bodyText json) := by
  obtain ⟨mid, last, hrun, -, htest⟩ := @exists_run_of_execute _ _
    (middleware {}) premiumDeployment
    (smallConnect ++ [.connect 0 smallDraw .ok, .connect 0 smallDraw .ok,
      .connect 0 smallDraw .ok]) (.connect 0 smallDraw .ok)
    (fun mid _ => (premiumAnswer (responseOf {} mid
      (.connect 0 smallDraw .ok))).isSome = true) _ (by decide +kernel)
  obtain ⟨⟨sessionId, expiresAt, payload, json⟩, hanswer⟩ :=
    Option.isSome_iff_exists.mp htest
  obtain ⟨hresponse, hjson⟩ := premiumAnswer_eq_some hanswer
  refine ⟨⟨rfl, rfl, rfl, rfl, fun _ => rfl, rfl, rfl, rfl⟩, _, mid, last, _,
    sessionId, expiresAt, payload, json, hrun, hresponse, hjson, ?_⟩
  exact not_connectAgrees_premium hjson

end VpnMiddleware.WireAgreement
