import VpnMiddleware.Client.PayloadCrypto
import VpnMiddleware.Connection.ConfigBuilder
import VpnMiddleware.Connection.PayloadCipher

/-!
# The payload across the two languages

What the server encrypts for a session the client decrypts to the same text;
any other derived key gives a payload failure.
-/

namespace VpnMiddleware.PayloadRoundTrip

open VpnMiddleware.JsonText VpnMiddleware.WebText VpnMiddleware.ConfigBuilder
open VpnMiddleware.ConnectionModels VpnMiddleware.PayloadCipher
open VpnMiddleware.PayloadCrypto

variable {NodeKey DartKey : Type}

/-- The sizes of X25519 keys and AES-256-GCM boxes. -/
structure NodeSizes (node : NodeCrypto NodeKey) : Prop where
  publicKey : ∀ key, (node.publicKey key).length = 32
  ciphertext : ∀ key iv plaintext,
    (node.aesGcmSeal key iv plaintext).1.length = plaintext.length
  tag : ∀ key iv plaintext, (node.aesGcmSeal key iv plaintext).2.length = 16

/-- The two libraries implement the same primitives: X25519 commutes, HKDF is
one function, and AES-256-GCM opens what it has sealed. -/
structure Compatible (node : NodeCrypto NodeKey) (dart : DartCrypto DartKey) :
    Prop where
  sizes : NodeSizes node
  dart_publicKey : ∀ key, (dart.publicKey key).length = 32
  agree : ∀ ephemeral key, ∃ secret,
    node.diffieHellman ephemeral (dart.publicKey key) = some secret ∧
      dart.sharedSecretKey key (node.publicKey ephemeral) = some secret
  hkdf : dart.deriveKey = node.hkdfSync
  opens : ∀ key iv plaintext,
    dart.decrypt key iv (node.aesGcmSeal key iv plaintext).1
      (node.aesGcmSeal key iv plaintext).2 = some plaintext

/-- AES-256-GCM rejects the box of a payload under any key but its own. -/
def RejectsOtherKeys (node : NodeCrypto NodeKey) (dart : DartCrypto DartKey)
    (draw : CipherDraw NodeKey) (plaintext sessionId : String)
    (clientPubRaw : List UInt8) : Prop :=
  ∀ key, payloadKey node draw sessionId clientPubRaw = some key →
    ∀ other, other ≠ key →
      let iv := randomBytes 12 draw.iv
      let sealedBox := node.aesGcmSeal key iv (utf8Encode plaintext)
      dart.decrypt other iv sealedBox.1 sealedBox.2 = none

/-- The body in which a DTO travels. -/
def bodyOf (dto : EncryptedPayloadDto) : String :=
  String.ofList (stringify dto.json)

/-! ## The envelope -/

section Envelope

variable {node : NodeCrypto NodeKey} {dart : DartCrypto DartKey}
variable {draw : CipherDraw NodeKey}

theorem ne_nil_of_length {bytes : List UInt8} {length : ℕ}
    (hlength : bytes.length = length) (hpos : 0 < length) : bytes ≠ [] := by
  rintro rfl
  rw [List.length_nil] at hlength
  omega

/-- The client's view of the envelope of a sealed box. -/
def envelope (node : NodeCrypto NodeKey) (draw : CipherDraw NodeKey)
    (key : List UInt8) (plaintext : String) : EncryptedPayload :=
  let iv := randomBytes 12 draw.iv
  let sealedBox := node.aesGcmSeal key iv (utf8Encode plaintext)
  { alg := PayloadCipher.payloadAlg
    serverPubKey := node.publicKey draw.ephemeral
    iv := iv
    cipherText := sealedBox.1
    tag := sealedBox.2 }

/-- The server's DTO of a sealed box. -/
def envelopeDto (payload : EncryptedPayload) : EncryptedPayloadDto where
  alg := payload.alg
  keyRef := toBase64 payload.serverPubKey
  iv := toBase64 payload.iv
  ciphertext := toBase64 payload.cipherText
  tag := toBase64 payload.tag

theorem encryptFor_eq {plaintext sessionId : String}
    {clientPubRaw key : List UInt8} (hlength : clientPubRaw.length = 32)
    (hkey : payloadKey node draw sessionId clientPubRaw = some key) :
    encryptFor node draw plaintext sessionId clientPubRaw =
      .ok (envelopeDto (envelope node draw key plaintext)) := by
  simp only [encryptFor, hlength, ne_eq, not_true_eq_false, if_false, hkey]
  rfl

/-- Every member of an envelope that has all its parts is read back. -/
theorem fromJson_envelopeDto {payload : EncryptedPayload}
    (hkey : payload.serverPubKey ≠ []) (hiv : payload.iv ≠ [])
    (htext : payload.cipherText ≠ []) (htag : payload.tag ≠ []) :
    EncryptedPayload.fromJson (envelopeDto payload).json = .ok payload := by
  have hkeyRef := @asBytes_of_field (envelopeDto payload).json "keyRef" _ hkey rfl
  have hnonce := @asBytes_of_field (envelopeDto payload).json "iv" _ hiv rfl
  have hcipher := @asBytes_of_field (envelopeDto payload).json "ciphertext" _
    htext rfl
  have hmac := @asBytes_of_field (envelopeDto payload).json "tag" _ htag rfl
  have halg : asOptionalString (envelopeDto payload).json "alg" =
      .ok (some payload.alg) := rfl
  simp only [EncryptedPayload.fromJson, halg, hkeyRef, hnonce, hcipher, hmac]
  rfl

/-- The parts of a sealed box have the lengths that the client expects. -/
structure WellFormed (payload : EncryptedPayload) : Prop where
  alg : payload.alg = PayloadCrypto.payloadAlg
  serverPubKey : payload.serverPubKey.length = 32
  iv : payload.iv.length = 12
  tag : payload.tag.length = 16
  cipherText : payload.cipherText ≠ []

theorem wellFormed_envelope (hsizes : NodeSizes node) {key : List UInt8}
    {plaintext : String} (htext : plaintext ≠ "") :
    WellFormed (envelope node draw key plaintext) where
  alg := rfl
  serverPubKey := hsizes.publicKey _
  iv := length_randomBytes _ _
  tag := hsizes.tag _ _ _
  cipherText := by
    have hlength := hsizes.ciphertext key (randomBytes 12 draw.iv)
      (utf8Encode plaintext)
    intro hnil
    simp only [envelope] at hnil
    rw [hnil, List.length_nil] at hlength
    exact utf8Encode_ne_nil htext (List.length_eq_zero_iff.mp hlength.symm)

theorem receivePayload_bodyOf {session : DartKey} {sessionId : String}
    {expiresAt : ℕ} {payload : EncryptedPayload} (hformed : WellFormed payload) :
    receivePayload dart session (bodyOf (envelopeDto payload)) sessionId
        expiresAt =
      decryptProfile dart session payload sessionId expiresAt := by
  have hread := fromJson_envelopeDto
    (ne_nil_of_length hformed.serverPubKey (by decide))
    (ne_nil_of_length hformed.iv (by decide)) hformed.cipherText
    (ne_nil_of_length hformed.tag (by decide))
  rw [receivePayload, bodyOf, jsonDecode_stringify, Option.map_some, hread]

/-- What `decryptProfile` does with a well-formed envelope. -/
theorem decryptProfile_eq {session : DartKey} {sessionId : String}
    {expiresAt : ℕ} {payload : EncryptedPayload} (hformed : WellFormed payload) :
    decryptProfile dart session payload sessionId expiresAt =
      if payload.serverPubKey = dart.publicKey session then
        .error ⟨"Server key invalid (reflected)."⟩
      else
        match derivedKey dart session payload.serverPubKey sessionId with
        | none => .error ⟨"Could not establish a secure configuration."⟩
        | some derived =>
            match dart.decrypt derived payload.iv payload.cipherText
              payload.tag with
            | none => .error ⟨"Configuration failed integrity check."⟩
            | some clearBytes => readProfile clearBytes expiresAt := by
  simp only [decryptProfile, expectLen, hformed.alg, hformed.serverPubKey,
    hformed.iv, hformed.tag, ne_eq, not_true_eq_false, if_true, if_false]
  split_ifs <;> rfl

end Envelope

/-! ## The profile -/

theorem buildSingboxConfig_toList (p : ConfigParams) : ∃ rest,
    (buildSingboxConfig p).toList = '{' :: rest := by
  rw [buildSingboxConfig, String.toList_ofList, singboxConfig, stringify]
  exact ⟨_, rfl⟩

theorem buildSingboxConfig_ne_empty (p : ConfigParams) :
    buildSingboxConfig p ≠ "" := by
  intro hempty
  obtain ⟨rest, htext⟩ := buildSingboxConfig_toList p
  rw [hempty] at htext
  exact absurd htext (by simp)

/-- The config passes the client's shape check. -/
theorem readProfile_buildSingboxConfig (p : ConfigParams) (expiresAt : ℕ) :
    readProfile (utf8Encode (buildSingboxConfig p)) expiresAt =
      .ok ⟨buildSingboxConfig p, expiresAt⟩ := by
  obtain ⟨rest, htext⟩ := buildSingboxConfig_toList p
  have hmark : dropMark (buildSingboxConfig p).toList =
      (buildSingboxConfig p).toList := by
    rw [htext]
    rfl
  have hdecoded : jsonDecode (buildSingboxConfig p) = some (singboxConfig p) :=
    jsonDecode_stringify _
  have hshape : VpnProfile.fromDecrypted (buildSingboxConfig p) expiresAt =
      .ok ⟨buildSingboxConfig p, expiresAt⟩ := by
    rw [VpnProfile.fromDecrypted, hdecoded]
    rfl
  rw [readProfile, utf8Decode_utf8Encode hmark]
  simp only [hshape]

/-! ## The round trip -/

section RoundTrip

variable {node : NodeCrypto NodeKey} {dart : DartCrypto DartKey}
variable {draw : CipherDraw NodeKey} {session : DartKey} {sessionId : String}

/-- Both sides derive the same key. -/
theorem exists_shared_key (hcompat : Compatible node dart) : ∃ key,
    payloadKey node draw sessionId (dart.publicKey session) = some key ∧
      derivedKey dart session (node.publicKey draw.ephemeral) sessionId =
        some key := by
  obtain ⟨secret, hserver, hclient⟩ := hcompat.agree draw.ephemeral session
  refine ⟨_, by rw [payloadKey, hserver, Option.map_some], ?_⟩
  rw [derivedKey, hclient, Option.map_some, hcompat.hkdf]
  rfl

end RoundTrip

/-- The client gets exactly the config that the server encrypted for its
session and key; with a session id or key that derives another key it gets a
payload failure. -/
theorem payload_round_trip {node : NodeCrypto NodeKey}
    {dart : DartCrypto DartKey} (hcompat : Compatible node dart)
    (p : ConfigParams) (sessionId : String) (draw : CipherDraw NodeKey)
    (session : DartKey) (expiresAt : ℕ)
    (hdistinct : node.publicKey draw.ephemeral ≠ dart.publicKey session)
    (hrejects : RejectsOtherKeys node dart draw (buildSingboxConfig p) sessionId
      (dart.publicKey session)) :
    ∃ dto, encryptFor node draw (buildSingboxConfig p) sessionId
        (dart.publicKey session) = .ok dto ∧
      receivePayload dart session (bodyOf dto) sessionId expiresAt =
        .ok ⟨buildSingboxConfig p, expiresAt⟩ ∧
      ∀ session' sessionId',
        derivedKey dart session' (node.publicKey draw.ephemeral) sessionId' ≠
          payloadKey node draw sessionId (dart.publicKey session) →
        ∃ failure, receivePayload dart session' (bodyOf dto) sessionId'
          expiresAt = .error failure := by
  obtain ⟨key, hserver, hclient⟩ :=
    @exists_shared_key _ _ node dart draw session sessionId hcompat
  have hformed := @wellFormed_envelope _ _ draw hcompat.sizes key _
    (buildSingboxConfig_ne_empty p)
  refine ⟨_, encryptFor_eq (hcompat.dart_publicKey session) hserver, ?_, ?_⟩
  · have hnotReflected : (envelope node draw key
        (buildSingboxConfig p)).serverPubKey ≠ dart.publicKey session := hdistinct
    rw [receivePayload_bodyOf hformed, decryptProfile_eq hformed,
      if_neg hnotReflected]
    simp only [envelope, hclient, hcompat.opens]
    exact readProfile_buildSingboxConfig p expiresAt
  · intro session' sessionId' hother
    rw [receivePayload_bodyOf hformed, decryptProfile_eq hformed]
    split_ifs with hreflected
    · exact ⟨_, rfl⟩
    · rw [hserver] at hother
      simp only [envelope]
      cases hderived : derivedKey dart session' (node.publicKey draw.ephemeral)
          sessionId' with
      | none => exact ⟨_, rfl⟩
      | some derived =>
          have hne : derived ≠ key := by
            rintro rfl
            exact hother hderived
          simp only [hrejects key hserver derived hne]
          exact ⟨_, rfl⟩

/-! ## An instance -/

/-- The key of session `"s"` for the key pairs 2 and 3 of `toyNode`. -/
def toyKey : List UInt8 := 6 :: utf8Encode "s"

def toyTag (key : List UInt8) : List UInt8 :=
  List.replicate 16 (if key = toyKey then 1 else 0)

/-- Key agreement by multiplication, keys that spell their salt, and a tag that
tells the one key from all others. -/
def toyNode : NodeCrypto UInt8 where
  publicKey key := List.replicate 32 key
  diffieHellman key remote := remote.head?.map fun byte => [key * byte]
  hkdfSync ikm salt _ _ := ikm ++ salt
  aesGcmSeal key _ plaintext := (plaintext, toyTag key)

def toyDart : DartCrypto UInt8 where
  publicKey key := List.replicate 32 key
  sharedSecretKey key remote := remote.head?.map fun byte => [key * byte]
  deriveKey secret salt _ _ := secret ++ salt
  decrypt key _ cipherText mac :=
    if mac = toyTag key then some cipherText else none

theorem compatible_toy : Compatible toyNode toyDart where
  sizes := ⟨fun _ => List.length_replicate, fun _ _ _ => rfl,
    fun _ _ _ => List.length_replicate⟩
  dart_publicKey _ := List.length_replicate
  agree ephemeral key := by
    refine ⟨[ephemeral * key], rfl, ?_⟩
    rw [UInt8.mul_comm]
    rfl
  hkdf := rfl
  opens _ _ _ := if_pos rfl

theorem rejectsOtherKeys_toy {plaintext : String} :
    RejectsOtherKeys toyNode toyDart ⟨2, fun _ => 0⟩ plaintext "s"
      (toyDart.publicKey 3) := by
  intro key hkey other hother
  obtain rfl : toyKey = key := Option.some.inj hkey
  have htag : toyTag toyKey ≠ toyTag other := by
    simp [toyTag, hother, List.replicate]
  exact if_neg htag

def toyParams : ConfigParams where
  protocol := "vless"
  address := "node"
  port := 443
  uuid := "credential"
  security := {}

/-- The round trip of a config between the key pairs 2 and 3; the key pair 4
does not open it. -/
theorem payload_round_trip_toy : ∃ dto,
    encryptFor toyNode ⟨2, fun _ => 0⟩ (buildSingboxConfig toyParams) "s"
      (toyDart.publicKey 3) = .ok dto ∧
    receivePayload toyDart 3 (bodyOf dto) "s" 7 =
      .ok ⟨buildSingboxConfig toyParams, 7⟩ ∧
    ∃ failure, receivePayload toyDart 4 (bodyOf dto) "s" 7 = .error failure := by
  obtain ⟨dto, hdto, hprofile, hothers⟩ := payload_round_trip compatible_toy
    toyParams "s" ⟨2, fun _ => 0⟩ 3 7 (by decide) rejectsOtherKeys_toy
  exact ⟨dto, hdto, hprofile, hothers 4 "s" (by decide)⟩

end VpnMiddleware.PayloadRoundTrip
