import VpnMiddleware.Common.Random
import VpnMiddleware.Core.Base64
import VpnMiddleware.Core.JsonText
import VpnMiddleware.Core.WebText

/-!
# The server half of the payload encryption

`encryptFor` over the primitives of Node's `crypto`, which are parameters.
-/

namespace VpnMiddleware.PayloadCipher

open VpnMiddleware.JsonText VpnMiddleware.Random VpnMiddleware.WebText

/-- Node's X25519, HKDF-SHA256 and AES-256-GCM.  `diffieHellman` throws on a
degenerate shared secret; `aesGcmSeal` gives the ciphertext and the tag. -/
structure NodeCrypto (Key : Type) where
  publicKey : Key → List UInt8
  diffieHellman : Key → List UInt8 → Option (List UInt8)
  hkdfSync : (ikm salt info : List UInt8) → (length : ℕ) → List UInt8
  aesGcmSeal : (key iv plaintext : List UInt8) → List UInt8 × List UInt8

/-- What one call draws: the ephemeral key pair and the nonce. -/
structure CipherDraw (Key : Type) where
  ephemeral : Key
  iv : Bytes

structure EncryptedPayloadDto where
  alg : String
  keyRef : String
  iv : String
  ciphertext : String
  tag : String
  deriving DecidableEq, Repr

def payloadAlg : String := "x25519-hkdf-sha256-aes256gcm"

/-- `HKDF_INFO`. -/
def hkdfInfo : List UInt8 := utf8Encode "vpncfg|v1"

/-- `randomBytes(length)`. -/
def randomBytes (length : ℕ) (bytes : Bytes) : List UInt8 :=
  (List.range length).map bytes

/-- `buffer.toString('base64')`. -/
def toBase64 (bytes : List UInt8) : String := String.ofList (Base64.encode bytes)

variable {Key : Type}

/-- The key of a payload; none if the key agreement throws. -/
def payloadKey (crypto : NodeCrypto Key) (draw : CipherDraw Key)
    (sessionId : String) (clientPubRaw : List UInt8) : Option (List UInt8) :=
  (crypto.diffieHellman draw.ephemeral clientPubRaw).map fun ikm =>
    crypto.hkdfSync ikm (utf8Encode sessionId) hkdfInfo 32

/-- `PayloadCipher.encryptFor`. -/
def encryptFor (crypto : NodeCrypto Key) (draw : CipherDraw Key)
    (plaintext sessionId : String) (clientPubRaw : List UInt8) :
    Except String EncryptedPayloadDto :=
  if clientPubRaw.length ≠ 32 then .error "client public key must be 32 bytes"
  else
    match payloadKey crypto draw sessionId clientPubRaw with
    | none => .error "failed during derivation"
    | some key =>
        let iv := randomBytes 12 draw.iv
        let sealedBox := crypto.aesGcmSeal key iv (utf8Encode plaintext)
        .ok { alg := payloadAlg
              keyRef := toBase64 (crypto.publicKey draw.ephemeral)
              iv := toBase64 iv
              ciphertext := toBase64 sealedBox.1
              tag := toBase64 sealedBox.2 }

/-- The DTO in a response body. -/
def EncryptedPayloadDto.json (dto : EncryptedPayloadDto) : Json :=
  .obj [("alg", .str dto.alg), ("keyRef", .str dto.keyRef), ("iv", .str dto.iv),
    ("ciphertext", .str dto.ciphertext), ("tag", .str dto.tag)]

@[simp]
theorem length_randomBytes (length : ℕ) (bytes : Bytes) :
    (randomBytes length bytes).length = length := by
  simp [randomBytes]

end VpnMiddleware.PayloadCipher
