import VpnMiddleware.Connection.ConnectionService
import VpnMiddleware.Panel.RebeccaPanelClient
import VpnMiddleware.Panel.RemnawavePanelClient

/-!
# One credential in three places

The credential that `connect` generates has to be the one in the session row,
the one the panel registers and the one the client gets.  The row's column
takes uuids only, so this works for the protocols that authenticate by uuid.
-/

namespace VpnMiddleware.Credential

open VpnMiddleware.Schema VpnMiddleware.Errors VpnMiddleware.Environment
open VpnMiddleware.JsonText VpnMiddleware.Database VpnMiddleware.Transaction
open VpnMiddleware.UuidText VpnMiddleware.Random VpnMiddleware.ConfigBuilder
open VpnMiddleware.SessionConfigService VpnMiddleware.ConnectionService

/-- The protocols that the schema documents for a node inbound. -/
def documentedProtocols : List String :=
  ["vless", "vmess", "trojan", "shadowsocks"]

def uuidProtocols : List String := ["vless", "vmess"]

/-! ## Where a protocol keeps its secret -/

/-- The field of a panel credential and of a sing-box outbound, in that
order. -/
def secretFields (protocol : String) : String × String :=
  if uuidProtocols.contains protocol then ("id", "uuid")
  else ("password", "password")

/-- The secret that Rebecca registers for a protocol. -/
def rebeccaSecret (protocol : String) (payload : Json) : Option String :=
  (payload.member "proxies").bind fun proxies =>
    (proxies.member protocol).bind fun credential =>
      credential.text (secretFields protocol).1

def remnawaveField (protocol : String) : String :=
  if uuidProtocols.contains protocol then "vlessUuid"
  else if protocol == "trojan" then "trojanPassword"
  else "ssPassword"

/-- The secret that Remnawave registers for a protocol. -/
def remnawaveSecret (protocol : String) (payload : Json) : Option String :=
  payload.text (remnawaveField protocol)

/-- The secret in the first outbound of a sing-box config. -/
def emittedSecret (protocol : String) (config : Json) : Option String :=
  ((config.member "outbounds").bind Json.arr?).bind fun outbounds =>
    outbounds.head?.bind fun outbound =>
      outbound.text (secretFields protocol).2

/-- The text is a sing-box config that carries the secret. -/
def Emits (protocol secret plaintext : String) : Prop :=
  ∃ config, plaintext = String.ofList (stringify config) ∧
    emittedSecret protocol config = some secret

/-! ## The claim about one connect -/

section Agreement

variable (cfg : Config) (now : ℕ) (input : ConnectInput) (plan : Resolved)
variable (node : NodePick) (draw : Draw) (db : Db)

/-- The secret of `connect`. -/
def secretOf : String := newCredential node.protocol draw.credential

/-- What `connect` keeps of a session it has inserted. -/
def resultOf (grantId : Option ℕ) (nonce : Option String)
    (revokeUsernames : List String) : TxResult where
  sessionId := draw.sessionId
  panelUsername := newPanelUsername draw.username
  credentialRef := secretOf node draw
  node := node
  revokeUsernames := revokeUsernames
  grantId := grantId
  nonce := nonce

/-- The insert is accepted and stores the secret. -/
def Stored : Prop :=
  ∃ row after, insertSession now draw.sessionId
      (newSession input plan node draw) db = .ok (draw.sessionId, after) ∧
    after.sessions = db.sessions ++ [row] ∧
    uuidOut row.credentialRef = secretOf node draw

/-- Either client registers the secret. -/
def Registered (tx : TxResult) : Prop :=
  rebeccaSecret node.protocol (RebeccaPanelClient.createUserPayload
    (createUserParams cfg plan tx)) = some (secretOf node draw) ∧
  ∀ panel, remnawaveSecret node.protocol
    (RemnawavePanelClient.createUserPayload panel
      (createUserParams cfg plan tx)) = some (secretOf node draw)

/-- The config that `connect` builds carries the secret. -/
def DeliveredInline (tx : TxResult) : Prop :=
  ∀ later payload after, buildPayload cfg tx input.clientPubKey later =
      .ok (payload, after) →
    Emits node.protocol (secretOf node draw) payload.plaintext

/-- The config that is built from the inserted row, whatever else has changed
by then, carries the secret. -/
def DeliveredLater : Prop :=
  ∀ credentialRef, uuidIn (secretOf node draw) = some credentialRef →
    ∀ later row payload after,
      later.sessions.find? (fun row => row.id == draw.sessionId) = some row →
      row.credentialRef = credentialRef → row.protocol = some node.protocol →
      encryptedPayloadForSession cfg draw.sessionId later =
        .ok (payload, after) →
      Emits node.protocol (secretOf node draw) payload.plaintext

/-- One secret in all places. -/
structure OneSecret : Prop where
  stored : Stored now input plan node draw db
  registered : ∀ grantId nonce usernames, Registered cfg plan node draw
    (resultOf node draw grantId nonce usernames)
  inline : ∀ grantId nonce usernames, DeliveredInline cfg input node draw
    (resultOf node draw grantId nonce usernames)
  later : DeliveredLater cfg node draw

/-- The unique and foreign keys of the new row; none of them looks at the
credential. -/
structure KeysFit (values : NewSession) (id : ℕ) : Prop where
  fresh_id : ∀ row ∈ db.sessions, row.id ≠ id
  fresh_username : ∀ row ∈ db.sessions,
    row.panelUsername ≠ values.panelUsername
  device_free : values.status.isLive = true →
    hasLiveSession values.deviceId db.sessions = false
  user : ∃ user ∈ db.users, user.id = values.userId
  device : ∃ device ∈ db.devices, device.id = values.deviceId
  node : ∃ node ∈ db.nodes, node.id = values.nodeId

end Agreement

/-! ## Storing -/

section Storing

variable {now id : ℕ} {values : NewSession} {db after : Db} {sessionId : ℕ}

theorem insertSession_iff :
    insertSession now id values db = .ok (sessionId, after) ↔
      KeysFit db values id ∧ sessionId = id ∧
      ∃ credentialRef, uuidIn values.credentialRef = some credentialRef ∧
        after = { db with
          sessions := db.sessions ++ [values.row now id credentialRef] } := by
  simp only [insertSession, bind_ok, get_ok, expect_ok, require_ok, modify_ok,
    pure_ok]
  constructor
  · rintro ⟨_, _, ⟨rfl, rfl⟩, credentialRef, _, ⟨hcredential, rfl⟩,
      _, _, ⟨hid, rfl⟩, _, _, ⟨husername, rfl⟩, _, _, ⟨hlive, rfl⟩,
      _, _, ⟨huser, rfl⟩, _, _, ⟨hdevice, rfl⟩, _, _, ⟨hnode, rfl⟩,
      _, _, rfl, rfl, rfl⟩
    refine ⟨⟨by simpa using hid, by simpa using husername, fun hstatus => ?_,
      by simpa using huser, by simpa using hdevice, by simpa using hnode⟩, rfl,
      credentialRef, hcredential, rfl⟩
    simpa [hstatus] using hlive
  · rintro ⟨⟨hid, husername, hlive, huser, hdevice, hnode⟩, rfl, credentialRef,
      hcredential, rfl⟩
    refine ⟨_, _, ⟨rfl, rfl⟩, credentialRef, _, ⟨hcredential, rfl⟩,
      ⟨⟩, _, ⟨by simpa using hid, rfl⟩, ⟨⟩, _, ⟨by simpa using husername, rfl⟩,
      ⟨⟩, _, ⟨?_, rfl⟩, ⟨⟩, _, ⟨by simpa using huser, rfl⟩,
      ⟨⟩, _, ⟨by simpa using hdevice, rfl⟩, ⟨⟩, _, ⟨by simpa using hnode, rfl⟩,
      ⟨⟩, _, rfl, rfl, rfl⟩
    cases hstatus : values.status.isLive with
    | false => rfl
    | true => simp [hlive hstatus]

end Storing

/-! ## The generated credential -/

theorem newCredential_ne_empty (protocol : String) (bytes : Bytes) :
    newCredential protocol bytes ≠ "" := by
  intro hempty
  rw [newCredential] at hempty
  split at hempty
  · have hlength := length_base62 24 bytes
    rw [hempty] at hlength
    simp at hlength
  · have hread := uuidIn_uuidOut (randomUUID bytes)
    rw [hempty, uuidIn_eq_none_of_short (by decide)] at hread
    cases hread

/-- The uuid column takes the credential of a protocol exactly if that is a
uuid. -/
theorem uuidIn_newCredential (protocol : String) (bytes : Bytes) :
    uuidIn (newCredential protocol bytes) =
      if isPasswordProtocol protocol then none else some (randomUUID bytes) := by
  rw [newCredential]
  split
  · apply uuidIn_eq_none_of_short
    rw [length_base62]
    decide
  · exact uuidIn_uuidOut _

/-! ## Registering and delivering -/

section Places

variable {cfg : Config} {input : ConnectInput} {plan : Resolved}
variable {node : NodePick} {draw : Draw} {tx : TxResult}

/-- Each client puts the credential into the field of its protocol. -/
theorem registered_of_documented (hnode : tx.node = node)
    (hsecret : tx.credentialRef = secretOf node draw)
    (hprotocol : node.protocol ∈ documentedProtocols) :
    Registered cfg plan node draw tx := by
  have hne : secretOf node draw ≠ "" := newCredential_ne_empty _ _
  rw [Registered, createUserParams]
  rw [hnode, hsecret]
  generalize secretOf node draw = secret at hne
  have hkept : Option.filter (fun text => text != "") (some secret) =
      some secret := by simp [Option.filter_some, hne]
  obtain ⟨nodeId, inboundTag, protocol⟩ := node
  simp only [documentedProtocols, List.mem_cons, List.not_mem_nil,
    or_false] at hprotocol
  rcases hprotocol with rfl | rfl | rfl | rfl <;> refine ⟨rfl, fun panel => ?_⟩
  all_goals
    simp [remnawaveSecret, remnawaveField, uuidProtocols, isPasswordProtocol,
      RemnawavePanelClient.createUserPayload,
      RemnawavePanelClient.credentialMembers, RemnawavePanelClient.credentialOf,
      RemnawavePanelClient.secretOf, Json.text, Json.member, Json.str?,
      List.lookup_cons, hkept]

/-- The config carries the credential in the field of its protocol. -/
theorem emittedSecret_singboxConfig (p : ConfigParams) :
    emittedSecret p.protocol (singboxConfig p) = some p.uuid := by
  by_cases hprotocol : p.protocol = "vless" ∨ p.protocol = "vmess"
  · have hfield : uuidProtocols.contains p.protocol = true := by
      simpa [uuidProtocols] using hprotocol
    simp only [emittedSecret, singboxConfig, outbound, credentialMembers,
      if_pos hprotocol, secretFields, hfield]
    cases p.flow with
    | none => rfl
    | some flow =>
        by_cases hflow : flow = "" <;>
          simp [hflow, Json.member, Json.arr?, Json.text, Json.str?, List.lookup_cons]
  · have hfield : uuidProtocols.contains p.protocol = false := by
      simpa [uuidProtocols] using hprotocol
    simp only [emittedSecret, singboxConfig, outbound, credentialMembers,
      if_neg hprotocol, secretFields, hfield]
    rfl

theorem emits_buildSingboxConfig (p : ConfigParams) :
    Emits p.protocol p.uuid (buildSingboxConfig p) :=
  ⟨singboxConfig p, rfl, emittedSecret_singboxConfig p⟩

theorem deliveredInline (hnode : tx.node = node)
    (hsecret : tx.credentialRef = secretOf node draw) :
    DeliveredInline cfg input node draw tx := by
  intro later payload after hpayload
  obtain ⟨-, -, endpoint, rfl⟩ := buildPayload_ok hpayload
  rw [hnode, hsecret]
  exact emits_buildSingboxConfig _

theorem deliveredLater : DeliveredLater cfg node draw := by
  intro credentialRef hread later row payload after hrow hcredential hprotocol
    hpayload
  obtain ⟨session, endpoint, clientPub, -, hsession, -, -, -, -, rfl⟩ :=
    encryptedPayloadForSession_ok hpayload
  obtain rfl := Option.some.inj (hrow.symm.trans hsession)
  have hsecret : uuidOut row.credentialRef = secretOf node draw := by
    rw [secretOf, newCredential] at hread ⊢
    split at hread
    · rw [uuidIn_eq_none_of_short (by rw [length_base62]; decide)] at hread
      cases hread
    · rw [uuidIn_uuidOut] at hread
      rw [hcredential, ← Option.some.inj hread]
      simp [*]
  have hemits := emits_buildSingboxConfig
    { protocol := row.protocol.getD "vless"
      address := endpoint.address
      port := endpoint.port
      uuid := uuidOut row.credentialRef
      flow := some cfg.vlessFlow
      security := endpoint.security }
  rw [hprotocol] at hemits ⊢
  rw [hsecret] at hemits ⊢
  exact hemits

end Places

/-! ## The condition -/

section Condition

variable {now : ℕ} {input : ConnectInput} {plan : Resolved} {node : NodePick}
variable {draw : Draw} {db : Db}

theorem stored_iff : Stored now input plan node draw db ↔
    isPasswordProtocol node.protocol = false ∧
      KeysFit db (newSession input plan node draw) draw.sessionId := by
  have hread : uuidIn (newSession input plan node draw).credentialRef =
      if isPasswordProtocol node.protocol then none
      else some (randomUUID draw.credential) := uuidIn_newCredential _ _
  constructor
  · rintro ⟨row, after, hinsert, -⟩
    obtain ⟨hkeys, -, credentialRef, hcredential, -⟩ := insertSession_iff.mp hinsert
    refine ⟨?_, hkeys⟩
    cases hpassword : isPasswordProtocol node.protocol with
    | false => rfl
    | true => simp [hread, hpassword] at hcredential
  · rintro ⟨hpassword, hkeys⟩
    rw [hpassword] at hread
    refine ⟨_, _, insertSession_iff.mpr ⟨hkeys, rfl, _, hread, rfl⟩, rfl, ?_⟩
    simp [NewSession.row, secretOf, newCredential, hpassword]

theorem uuidProtocol_iff (hprotocol : node.protocol ∈ documentedProtocols) :
    isPasswordProtocol node.protocol = false ↔
      node.protocol ∈ uuidProtocols := by
  have hall : ∀ protocol ∈ documentedProtocols,
      (isPasswordProtocol protocol = false ↔ protocol ∈ uuidProtocols) := by
    decide
  exact hall _ hprotocol

/-- For a documented protocol, one secret is stored, registered and delivered
exactly if the protocol authenticates by uuid and the row fits the keys of its
table. -/
theorem oneSecret_iff (cfg : Config)
    (hprotocol : node.protocol ∈ documentedProtocols) :
    OneSecret cfg now input plan node draw db ↔
      node.protocol ∈ uuidProtocols ∧
        KeysFit db (newSession input plan node draw) draw.sessionId := by
  rw [← uuidProtocol_iff hprotocol]
  constructor
  · exact fun hsecret => stored_iff.mp hsecret.stored
  · intro hcondition
    exact
      { stored := stored_iff.mpr hcondition
        registered := fun _ _ _ => registered_of_documented rfl rfl hprotocol
        inline := fun _ _ _ => deliveredInline rfl rfl
        later := deliveredLater }

end Condition

/-! ## A connect to a vless and to a trojan inbound -/

def sampleDb : Db where
  users := [{ id := 1 }]
  devices := [{ id := 1, userId := 1 }]
  nodes := [{ id := 1, tier := .free }]

def sampleInput : ConnectInput := ⟨1, 1, List.replicate 32 7⟩

def samplePlan : Resolved := ⟨.free, 300000, 1⟩

def sampleNode (protocol : String) : NodePick := ⟨1, "in", protocol⟩

def sampleDraw : Draw := ⟨1, 1, fun _ => 0, fun _ => 0, fun _ => 0⟩

theorem oneSecret_vless : OneSecret {} 0 sampleInput samplePlan
    (sampleNode "vless") sampleDraw sampleDb := by
  refine (oneSecret_iff {} (by decide)).mpr ⟨by decide, ?_⟩
  constructor <;> simp [sampleDb, newSession, sampleInput, sampleNode,
    hasLiveSession]

/-- The uuid column rejects the password of a trojan session. -/
theorem trojan_rejected :
    insertSession 0 sampleDraw.sessionId (newSession sampleInput samplePlan
      (sampleNode "trojan") sampleDraw) sampleDb =
        .error (.db (.invalidText "uuid")) ∧
    ¬ OneSecret {} 0 sampleInput samplePlan (sampleNode "trojan") sampleDraw
      sampleDb := by
  constructor
  · have hread : uuidIn (newSession sampleInput samplePlan (sampleNode "trojan")
        sampleDraw).credentialRef = none :=
      uuidIn_newCredential "trojan" sampleDraw.credential
    simp only [insertSession, hread]
    rfl
  · exact fun hsecret => absurd (stored_iff.mp hsecret.stored).1 (by decide)

end VpnMiddleware.Credential
