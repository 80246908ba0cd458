import VpnMiddleware.Client.ConnectionModels
import VpnMiddleware.Core.WebText

/-!
# The client half of the payload encryption

`decryptProfile` over the primitives of the `cryptography` package, which are
parameters.
-/

namespace VpnMiddleware.PayloadCrypto

open VpnMiddleware.ConnectionModels VpnMiddleware.WebText
open VpnMiddleware.JsonText

/-- The package's X25519, HKDF-SHA256 and AES-256-GCM; a call that throws gives
none. -/
structure DartCrypto (Key : Type) where
  publicKey : Key → List UInt8
  sharedSecretKey : Key → List UInt8 → Option (List UInt8)
  deriveKey : (secret salt info : List UInt8) → (length : ℕ) → List UInt8
  decrypt : (key nonce cipherText mac : List UInt8) → Option (List UInt8)

/-- A `PayloadFailure`. -/
structure PayloadFailure where
  message : String
  deriving DecidableEq, Repr

/-- `AppConfig.payloadAlg`. -/
def payloadAlg : String := "x25519-hkdf-sha256-aes256gcm"

/-- `AppConfig.payloadHkdfInfo`. -/
def payloadHkdfInfo : String := "vpncfg|v1"

def expectLen (what : String) (bytes : List UInt8) (length : ℕ) :
    Except PayloadFailure Unit :=
  if bytes.length = length then .ok ()
  else .error ⟨"Invalid " ++ what ++ " length."⟩

variable {Key : Type}

/-- The key that the client derives for a server key and a session id. -/
def derivedKey (crypto : DartCrypto Key) (session : Key)
    (serverPubKey : List UInt8) (sessionId : String) : Option (List UInt8) :=
  (crypto.sharedSecretKey session serverPubKey).map fun secret =>
    crypto.deriveKey secret (utf8Encode sessionId) (utf8Encode payloadHkdfInfo) 32

/-- The end of `decryptProfile`: the text and its shape. -/
def readProfile (clearBytes : List UInt8) (expiresAt : ℕ) :
    Except PayloadFailure VpnProfile :=
  match utf8Decode clearBytes with
  | none => .error ⟨"Configuration was malformed."⟩
  | some plaintext =>
      match VpnProfile.fromDecrypted plaintext expiresAt with
      | .ok profile => .ok profile
      | .error _ => .error ⟨"Configuration was malformed."⟩

def decryptProfile (crypto : DartCrypto Key) (session : Key)
    (payload : EncryptedPayload) (sessionId : String) (expiresAt : ℕ) :
    Except PayloadFailure VpnProfile := do
  if payload.alg ≠ payloadAlg then
    throw ⟨"Unsupported payload algorithm."⟩
  expectLen "server public key" payload.serverPubKey 32
  expectLen "iv" payload.iv 12
  expectLen "tag" payload.tag 16
  if payload.serverPubKey = crypto.publicKey session then
    throw ⟨"Server key invalid (reflected)."⟩
  match derivedKey crypto session payload.serverPubKey sessionId with
  | none => throw ⟨"Could not establish a secure configuration."⟩
  | some derived =>
      match crypto.decrypt derived payload.iv payload.cipherText payload.tag with
      | none => throw ⟨"Configuration failed integrity check."⟩
      | some clearBytes => readProfile clearBytes expiresAt

/-- Parse an envelope and decrypt it; an envelope that does not parse is a
payload failure as well. -/
def receivePayload (crypto : DartCrypto Key) (session : Key) (text : String)
    (sessionId : String) (expiresAt : ℕ) : Except PayloadFailure VpnProfile :=
  match (jsonDecode text).map EncryptedPayload.fromJson with
  | some (.ok payload) =>
      decryptProfile crypto session payload sessionId expiresAt
  | some (.error .typeError) =>
      .error ⟨"Server returned an unexpected configuration shape."⟩
  | some (.error (.formatException _)) | none =>
      .error ⟨"Server returned a malformed configuration."⟩

end VpnMiddleware.PayloadCrypto
