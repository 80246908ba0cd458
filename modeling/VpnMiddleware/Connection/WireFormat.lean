import VpnMiddleware.Ads.AdsService
import VpnMiddleware.Connection.ConnectionService
import VpnMiddleware.Connection.PayloadCipher
import VpnMiddleware.Core.DateText

/-!
# Success responses on the wire

The JSON bodies of a `ConnectResult` and a `VerifyRewardResult`.  Ids are
written by a parameter, and each payload is encrypted with its own draw.
-/

namespace VpnMiddleware.WireFormat

open VpnMiddleware.JsonText VpnMiddleware.DateText VpnMiddleware.PayloadCipher
open VpnMiddleware.ConnectionService VpnMiddleware.AdsService

/-- How ids are written, and the cipher. -/
structure Wire (Key : Type) where
  idText : ℕ → String
  crypto : NodeCrypto Key

variable {Key : Type}

/-- A payload under the key that this draw agrees on. -/
def dtoOf (wire : Wire Key) (draw : CipherDraw Key)
    (payload : SessionConfigService.EncryptedPayload) :
    Option EncryptedPayloadDto :=
  (encryptFor wire.crypto draw payload.plaintext
    (wire.idText payload.sessionId) payload.clientPublicKey).toOption

/-- A member that may be null. -/
def optional (value : Option String) : Json :=
  match value with
  | some text => .str text
  | none => .null

/-- The response of `connect`. -/
def connectJson (wire : Wire Key) (draw : CipherDraw Key) :
    ConnectResult → Option Json
  | .premium sessionId expiresAt payload => do
      let expiry ← toISOString expiresAt
      let dto ← dtoOf wire draw payload
      return .obj [("tier", .str "premium"),
        ("sessionId", .str (wire.idText sessionId)), ("expiresAt", .str expiry),
        ("payload", dto.json)]
  | .free sessionId grantId nonce requiredAds provisioningExpiresAt => do
      let expiry ← toISOString provisioningExpiresAt
      return .obj [("tier", .str "free"),
        ("sessionId", .str (wire.idText sessionId)),
        ("grantId", optional (grantId.map wire.idText)),
        ("nonce", optional nonce), ("requiredAds", .num requiredAds),
        ("provisioningExpiresAt", .str expiry)]

def PanelSync.text : PanelSync → String
  | .synced => "synced"
  | .pending => "pending"
  | .unchanged => "unchanged"

/-- A member that is left out when it is undefined. -/
def payloadMember (wire : Wire Key) (draw : CipherDraw Key) :
    Option SessionConfigService.EncryptedPayload → Option (List (String × Json))
  | none => some []
  | some payload =>
      (dtoOf wire draw payload).map fun dto => [("payload", dto.json)]

/-- The response of `verifyAdReward`. -/
def verifyJson (wire : Wire Key) (draw : CipherDraw Key)
    (result : VerifyRewardResult) : Option Json := do
  let expiry ← toISOString result.expiresAt
  let payload ← payloadMember wire draw result.payload
  return .obj ([("sessionId", .str (wire.idText result.sessionId)),
    ("expiresAt", .str expiry), ("grantedMinutes", .num result.grantedMinutes),
    ("panelSync", .str (PanelSync.text result.panelSync))] ++ payload)

/-- The text of a body. -/
def bodyText (json : Json) : String := String.ofList (stringify json)

end VpnMiddleware.WireFormat
