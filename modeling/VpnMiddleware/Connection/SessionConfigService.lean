import VpnMiddleware.Connection.ConfigBuilder
import VpnMiddleware.Schema.Database
import VpnMiddleware.Common.Environment

/-!
# Payload encryption and delivery for an existing session

`encryptFor` is symbolic: an encrypted payload records what it was encrypted
to and what it contains.  `encryptedPayloadForSession` is the read that serves
verify-ad-reward.
-/

namespace VpnMiddleware.SessionConfigService

open VpnMiddleware.Schema VpnMiddleware.Errors VpnMiddleware.Environment
open VpnMiddleware.ConfigBuilder VpnMiddleware.UuidText
open VpnMiddleware.Database VpnMiddleware.Transaction

/-- An `EncryptedPayloadDto`, with the key, salt and plaintext it was made
from. -/
structure EncryptedPayload where
  sessionId : ℕ
  clientPublicKey : List UInt8
  plaintext : String
  deriving DecidableEq, Repr

/-- `PayloadCipher.encryptFor`. -/
def encryptFor (cfg : Config) (plaintext : String) (sessionId : ℕ)
    (clientPubRaw : List UInt8) : Except Failure EncryptedPayload :=
  if clientPubRaw.length ≠ 32 then
    .error (.error "client public key must be 32 bytes")
  else if !cfg.keyAgreement clientPubRaw then
    .error (.error "failed during derivation")
  else .ok ⟨sessionId, clientPubRaw, plaintext⟩

theorem encryptFor_ok {cfg : Config} {plaintext : String} {sessionId : ℕ}
    {clientPubRaw : List UInt8} {payload : EncryptedPayload}
    (hok : encryptFor cfg plaintext sessionId clientPubRaw = .ok payload) :
    payload = ⟨sessionId, clientPubRaw, plaintext⟩ ∧
      clientPubRaw.length = 32 := by
  rw [encryptFor] at hok
  split_ifs at hok with hlength hkey
  exact ⟨(Except.ok.inj hok).symm, not_not.mp hlength⟩

/-- The keys that the cipher takes. -/
theorem exists_encryptFor {cfg : Config} {plaintext : String} {sessionId : ℕ}
    {clientPubRaw : List UInt8} :
    (∃ payload, encryptFor cfg plaintext sessionId clientPubRaw = .ok payload) ↔
      clientPubRaw.length = 32 ∧ cfg.keyAgreement clientPubRaw = true := by
  rw [encryptFor]
  by_cases hlength : clientPubRaw.length = 32
  · cases hagreement : cfg.keyAgreement clientPubRaw <;> simp [hlength]
  · simp [hlength]

/-- The endpoint joined to a session; null inbound tags match nothing. -/
def endpointFor (db : Db) (session : Session) : Option NodeEndpoint :=
  db.nodeEndpoints.find? fun endpoint =>
    endpoint.nodeId == session.nodeId &&
      some endpoint.inboundTag == session.inboundTag && endpoint.isActive

def encryptedPayloadForSession (cfg : Config) (sessionId : ℕ) :
    Query EncryptedPayload := do
  let db ← get
  let session ← expect (db.sessions.find? fun row => row.id == sessionId)
    (.sessionConfigError "session_endpoint_unavailable")
  let endpoint ← expect (endpointFor db session)
    (.sessionConfigError "session_endpoint_unavailable")
  require session.status.isLive (.sessionConfigError "session_not_live")
  let clientPub ← expect (session.clientPublicKey.filter (·.length == 32))
    (.sessionConfigError "no_session_key")
  let configJson := buildSingboxConfig
    { protocol := session.protocol.getD "vless"
      address := endpoint.address
      port := endpoint.port
      uuid := uuidOut session.credentialRef
      flow := some cfg.vlessFlow
      security := endpoint.security }
  lift (encryptFor cfg configJson sessionId clientPub)

/-- A payload is only built from a live row of the session. -/
theorem encryptedPayloadForSession_ok {cfg : Config} {db after : Db}
    {sessionId : ℕ} {payload : EncryptedPayload}
    (hok : encryptedPayloadForSession cfg sessionId db =
      .ok (payload, after)) :
    ∃ session endpoint clientPub, after = db ∧
      db.sessions.find? (fun row => row.id == sessionId) = some session ∧
      endpointFor db session = some endpoint ∧
      session.status.isLive = true ∧
      session.clientPublicKey = some clientPub ∧ clientPub.length = 32 ∧
      payload = ⟨sessionId, clientPub, buildSingboxConfig
        { protocol := session.protocol.getD "vless"
          address := endpoint.address
          port := endpoint.port
          uuid := uuidOut session.credentialRef
          flow := some cfg.vlessFlow
          security := endpoint.security }⟩ := by
  simp only [encryptedPayloadForSession, bind_ok, get_ok, expect_ok,
    require_ok, lift_ok] at hok
  obtain ⟨_, _, ⟨rfl, rfl⟩, session, _, ⟨hsession, rfl⟩, endpoint, _,
    ⟨hendpoint, rfl⟩, _, _, ⟨hlive, rfl⟩, clientPub, _, ⟨hkey, rfl⟩,
    hcipher, rfl⟩ := hok
  obtain ⟨rfl, hlength⟩ := encryptFor_ok hcipher
  exact ⟨session, endpoint, clientPub, rfl, hsession, hendpoint, hlive,
    (Option.filter_eq_some_iff.mp hkey).1, hlength, rfl⟩

end VpnMiddleware.SessionConfigService
