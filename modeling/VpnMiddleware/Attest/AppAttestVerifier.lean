import VpnMiddleware.Attest.PlayIntegrityVerifier
import VpnMiddleware.Core.WebText

/-!
# App Attest

The checks of an attestation and of an assertion.  CBOR, X.509, key parsing,
signatures and the hash are parameters; the binary layouts are read here.
-/

namespace VpnMiddleware.AppAttestVerifier

open VpnMiddleware.Errors VpnMiddleware.PlayIntegrityVerifier
open VpnMiddleware.WebText

/-- What is read off an `X509Certificate`. -/
structure Certificate where
  publicKey : List UInt8
  /-- The value of the extension `1.2.840.113635.100.8.2`. -/
  appleNonce : Option (List UInt8)
  /-- `getExtension(BasicConstraintsExtension)?.ca`. -/
  ca : Option Bool
  deriving DecidableEq, Repr

/-- The decoded CBOR of an attestation. -/
structure AttestationObject where
  fmt : Option String
  x5c : Option (List (List UInt8))
  authData : Option (List UInt8)
  deriving DecidableEq, Repr

/-- The decoded CBOR of an assertion. -/
structure AssertionObject where
  signature : Option (List UInt8)
  authenticatorData : Option (List UInt8)
  deriving DecidableEq, Repr

/-- The libraries; a call that throws gives none. -/
structure AppleCrypto where
  sha256 : List UInt8 → List UInt8
  /-- `Buffer.from(text, 'base64')`. -/
  fromBase64 : String → List UInt8
  decodeAttestation : List UInt8 → Option AttestationObject
  decodeAssertion : List UInt8 → Option AssertionObject
  certificate : List UInt8 → Option Certificate
  /-- Leaf by intermediate, intermediate by the pinned root, at a time. -/
  chainOk : Certificate → Certificate → ℕ → Bool
  uncompressedPoint : List UInt8 → Option (List UInt8)
  /-- `verify('sha256', preimage, key, signature)`; keys that do not parse
  throw. -/
  verifySignature : (key preimage signature : List UInt8) → Option Bool

inductive AppleEnv | production | development
  deriving DecidableEq, Repr

structure AppleConfig where
  appleTeamId : String
  appleBundleId : String
  appleAttestEnv : AppleEnv := .production
  deriving DecidableEq, Repr

structure AttestationResult where
  publicKeyDer : List UInt8
  signCount : ℕ
  deriving DecidableEq, Repr

def aaguidProd : List UInt8 := utf8Encode "appattest" ++ List.replicate 7 0

def aaguidDev : List UInt8 := utf8Encode "appattestdevelop"

/-- `FLAG_AT`. -/
def flagAt : UInt8 := 0x40

section

variable (apple : AppleCrypto) (cfg : AppleConfig)

def clientDataHash (clientPubKey challenge : List UInt8) : List UInt8 :=
  apple.sha256 (clientPubKey ++ challenge)

def appIdHash : List UInt8 :=
  apple.sha256 (utf8Encode (cfg.appleTeamId ++ "." ++ cfg.appleBundleId))

/-! ## Binary layouts -/

structure AuthData where
  rpIdHash : List UInt8
  flags : UInt8
  hasAttestedCredentialData : Bool
  signCount : ℕ
  aaguid : Option (List UInt8)
  deriving DecidableEq, Repr

/-- `b.readUInt32BE(offset)`. -/
def readUInt32BE (b : List UInt8) (offset : ℕ) : ℕ :=
  ((b.drop offset).take 4).foldl (fun value byte => value * 256 + byte.toNat) 0

def parseAuthData (b : List UInt8) : Check AuthData := do
  ensure (decide (37 ≤ b.length)) "authdata_too_short"
  let flags := b.getD 32 0
  let hasAttestedCredentialData := flags &&& flagAt != 0
  ensure (!hasAttestedCredentialData || decide (55 ≤ b.length))
    "authdata_missing_cred_data"
  return {
    rpIdHash := b.take 32
    flags := flags
    hasAttestedCredentialData := hasAttestedCredentialData
    signCount := readUInt32BE b 33
    aaguid := if hasAttestedCredentialData then some ((b.drop 37).take 16)
      else none }

/-- The two length bytes are stepped over. -/
def extractAppleNonce (cert : Certificate) : Option (List UInt8) := do
  let raw ← cert.appleNonce
  if raw[0]? ≠ some 0x30 then none
  else if raw[2]? ≠ some 0xa1 then none
  else if raw[4]? ≠ some 0x04 then none
  else if raw[5]? ≠ some 0x20 then none
  else if 6 + 32 ≠ raw.length then none
  else some ((raw.drop 6).take 32)

def assertCaConstraints (leaf intermediate : Certificate) : Check Unit := do
  ensure (leaf.ca != some true) "leaf_is_ca"
  ensure (intermediate.ca == some true) "intermediate_not_ca"

/-! ## The two verifications -/

def verifyAttestation (now : ℕ) (attestation keyId : String)
    (clientPubKey challenge : List UInt8) : Check AttestationResult := do
  ensure (clientPubKey.length == 32) "bad_pubkey_len"
  let obj ← orThrow (apple.decodeAttestation (apple.fromBase64 attestation))
    (.attestationError "cbor_decode_failed")
  ensure (obj.fmt == some "apple-appattest") "bad_fmt"
  let x5c ← orThrow (obj.x5c.filter fun certs => decide (2 ≤ certs.length))
    (.attestationError "bad_attestation_shape")
  let authData ← orThrow obj.authData (.attestationError "bad_attestation_shape")
  let leaf ← orThrow (x5c[0]?.bind apple.certificate)
    (.error "bad certificate")
  let intermediate ← orThrow (x5c[1]?.bind apple.certificate)
    (.error "bad certificate")
  ensure (apple.chainOk leaf intermediate now) "cert_chain_invalid"
  assertCaConstraints leaf intermediate
  let hash := clientDataHash apple clientPubKey challenge
  ensure (extractAppleNonce leaf == some (apple.sha256 (authData ++ hash)))
    "nonce_mismatch"
  ensure (!leaf.publicKey.isEmpty) "bad_public_key"
  let point ← orThrow (apple.uncompressedPoint leaf.publicKey)
    (.attestationError "bad_public_key")
  ensure (apple.sha256 point == apple.fromBase64 keyId) "keyid_mismatch"
  let ad ← parseAuthData authData
  ensure ad.hasAttestedCredentialData "at_flag_unset"
  ensure (ad.rpIdHash == appIdHash apple cfg) "rpid_mismatch"
  ensure (ad.signCount == 0) "counter_not_zero"
  let expectedAaguid :=
    if cfg.appleAttestEnv = .production then aaguidProd else aaguidDev
  ensure (ad.aaguid == some expectedAaguid) "aaguid_mismatch"
  return ⟨leaf.publicKey, 0⟩

/-- The new counter. -/
def verifyAssertion (assertion : String) (storedPublicKeyDer : List UInt8)
    (storedSignCount : ℕ) (clientPubKey challenge : List UInt8) : Check ℕ := do
  ensure (clientPubKey.length == 32) "bad_pubkey_len"
  let obj ← orThrow (apple.decodeAssertion (apple.fromBase64 assertion))
    (.attestationError "cbor_decode_failed")
  let signature ← orThrow obj.signature (.attestationError "bad_assertion_shape")
  let authData ← orThrow obj.authenticatorData
    (.attestationError "bad_assertion_shape")
  let hash := clientDataHash apple clientPubKey challenge
  let sigOk ← orThrow
    (apple.verifySignature storedPublicKeyDer (authData ++ hash) signature)
    (.error "bad key")
  ensure sigOk "assertion_signature_invalid"
  let ad ← parseAuthData authData
  ensure (!ad.hasAttestedCredentialData) "at_flag_set"
  ensure (ad.rpIdHash == appIdHash apple cfg) "rpid_mismatch"
  ensure (decide (storedSignCount < ad.signCount)) "counter_replay"
  return ad.signCount

end

/-! ## What an accepted statement is bound to -/

variable {apple : AppleCrypto} {cfg : AppleConfig}
variable {clientPubKey challenge : List UInt8}

/-- The attestation certifies a client data hash. -/
def AttestsTo (apple : AppleCrypto) (attestation : String) (hash : List UInt8) :
    Prop :=
  ∃ obj leaf authData,
    apple.decodeAttestation (apple.fromBase64 attestation) = some obj ∧
    obj.authData = some authData ∧
    (obj.x5c.bind (·[0]?)).bind apple.certificate = some leaf ∧
    extractAppleNonce leaf = some (apple.sha256 (authData ++ hash))

/-- The assertion signs a client data hash with the key. -/
def SignsTo (apple : AppleCrypto) (assertion : String) (key hash : List UInt8) :
    Prop :=
  ∃ obj signature authData,
    apple.decodeAssertion (apple.fromBase64 assertion) = some obj ∧
    obj.signature = some signature ∧ obj.authenticatorData = some authData ∧
    apple.verifySignature key (authData ++ hash) signature = some true

theorem attestsTo_of_verify {now : ℕ} {attestation keyId : String}
    {res : AttestationResult}
    (hok : verifyAttestation apple cfg now attestation keyId clientPubKey
      challenge = .ok res) :
    AttestsTo apple attestation (clientDataHash apple clientPubKey challenge) := by
  simp only [verifyAttestation, check_bind_ok, ensure_ok, orThrow_ok, beq_iff_eq,
    Option.filter_eq_some_iff] at hok
  obtain ⟨-, -, obj, hobj, -, -, x5c, ⟨hx5c, -⟩, authData, hauth, leaf, hleaf, -, -,
    -, -, -, -, -, hnonce, -⟩ := hok
  exact ⟨obj, leaf, authData, hobj, hauth, by rw [hx5c]; exact hleaf, hnonce⟩

/-- The count that an assertion carries. -/
def Counts (apple : AppleCrypto) (assertion : String) (count : ℕ) : Prop :=
  ∃ obj authData ad,
    apple.decodeAssertion (apple.fromBase64 assertion) = some obj ∧
    obj.authenticatorData = some authData ∧ parseAuthData authData = .ok ad ∧
    ad.signCount = count

theorem Counts.unique {assertion : String} {count count' : ℕ}
    (hcounts : Counts apple assertion count)
    (hcounts' : Counts apple assertion count') : count = count' := by
  obtain ⟨obj, authData, ad, hobj, hauth, had, rfl⟩ := hcounts
  obtain ⟨obj', authData', ad', hobj', hauth', had', rfl⟩ := hcounts'
  obtain rfl := Option.some.inj (hobj.symm.trans hobj')
  obtain rfl := Option.some.inj (hauth.symm.trans hauth')
  obtain rfl := Except.ok.inj (had.symm.trans had')
  rfl

/-- A registration starts the count at zero. -/
theorem signCount_of_verify {now : ℕ} {attestation keyId : String}
    {res : AttestationResult}
    (hok : verifyAttestation apple cfg now attestation keyId clientPubKey
      challenge = .ok res) : res.signCount = 0 := by
  simp only [verifyAttestation, check_bind_ok] at hok
  obtain ⟨-, -, obj, -, -, -, x5c, -, authData, -, leaf, -, intermediate, -, -,
    -, -, -, -, -, -, -, point, -, -, -, ad, -, -, -, -, -, -, -, -, -, hres⟩ :=
    hok
  obtain rfl := Except.ok.inj hres
  rfl

/-- An accepted assertion counts further than the stored counter. -/
theorem counts_of_verify {assertion : String} {key : List UInt8}
    {storedSignCount newSignCount : ℕ}
    (hok : verifyAssertion apple cfg assertion key storedSignCount clientPubKey
      challenge = .ok newSignCount) :
    Counts apple assertion newSignCount ∧ storedSignCount < newSignCount := by
  simp only [verifyAssertion, check_bind_ok, ensure_ok, orThrow_ok,
    decide_eq_true_eq] at hok
  obtain ⟨-, -, obj, hobj, signature, -, authData, hauth, sigOk, -, -, -, ad, had,
    -, -, -, -, -, hcount, hres⟩ := hok
  obtain rfl := Except.ok.inj hres
  exact ⟨⟨obj, authData, ad, hobj, hauth, had, rfl⟩, hcount⟩

theorem signsTo_of_verify {assertion : String} {key : List UInt8}
    {storedSignCount newSignCount : ℕ}
    (hok : verifyAssertion apple cfg assertion key storedSignCount clientPubKey
      challenge = .ok newSignCount) :
    SignsTo apple assertion key (clientDataHash apple clientPubKey challenge) := by
  simp only [verifyAssertion, check_bind_ok, ensure_ok, orThrow_ok] at hok
  obtain ⟨-, -, obj, hobj, signature, hsignature, authData, hauth, sigOk, hverified,
    -, hok, -⟩ := hok
  exact ⟨obj, signature, authData, hobj, hsignature, hauth, hok ▸ hverified⟩

end VpnMiddleware.AppAttestVerifier
