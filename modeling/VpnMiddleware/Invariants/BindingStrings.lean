import VpnMiddleware.Client.AttestationService

/-!
# One binding hash on both sides

What the app hands to Play Integrity and to App Attest is what the verifiers
compute from the submitted key and the issued challenge.
-/

namespace VpnMiddleware.BindingStrings

open VpnMiddleware.Errors VpnMiddleware.AttestService
open VpnMiddleware.AttestationBridge hiding attest
open VpnMiddleware.AttestationService

/-- The text that the app puts on the method channel. -/
def channelText (sha256 : List UInt8 → List UInt8) (key challenge : List UInt8) :
    String :=
  String.ofList (Base64.encode (bindingHash sha256 key challenge))

section Agreement

variable {sha256 : List UInt8 → List UInt8} {key challenge : List UInt8}

theorem toRequestHash_channelText :
    toRequestHash (channelText sha256 key challenge) =
      some (PlayIntegrityVerifier.requestHash sha256 key challenge) := by
  rw [toRequestHash, channelText, String.toList_ofList, decodeDefault_encode]
  rfl

theorem dataFromBase64_channelText :
    dataFromBase64 (channelText sha256 key challenge).toList =
      some (bindingHash sha256 key challenge) := by
  rw [channelText, String.toList_ofList, dataFromBase64_encode]

theorem attest_eq (hkey : key.length = 32) (hchallenge : 16 ≤ challenge.length)
    (channel : String → ChannelReply) :
    attest sha256 channel key challenge =
      (channel (channelText sha256 key challenge)).result := by
  rw [attest, if_neg (by omega), if_neg (by omega)]
  rfl

/-- The verifier's text is not empty: the hash has 32 bytes. -/
theorem requestHash_ne_empty (hhash : ∀ bytes, (sha256 bytes).length = 32) :
    PlayIntegrityVerifier.requestHash sha256 key challenge ≠ "" := by
  intro hempty
  have hnil : Base64.encodeUrl (sha256 (key ++ challenge)) =
      Base64.encodeUrl [] := by
    have htext := congrArg String.toList hempty
    rwa [PlayIntegrityVerifier.requestHash, String.toList_ofList] at htext
  have hlength := hhash (key ++ challenge)
  rw [Base64.encodeUrl_injective hnil] at hlength
  cases hlength

open PlayIntegrityVerifier in
/-- Only another request hash is refused as a mismatch. -/
theorem mismatch_iff (hhash : ∀ bytes, (sha256 bytes).length = 32)
    {cfg : PlayConfig} {now : ℕ} {payload : TokenPayload}
    {details : RequestDetails} (hdetails : payload.requestDetails = some details) :
    verify sha256 cfg now (.ok (some payload)) key challenge =
        .error (.attestationError "request_hash_mismatch") ↔
      details.requestHash ≠ some (requestHash sha256 key challenge) := by
  have hne : requestHash sha256 key challenge ≠ "" := requestHash_ne_empty hhash
  simp only [verify, decoded, check_bind_eq_error, ensure_eq_error]
  -- Every later check fails with a reason of its own.
  simp [hdetails, hne, pure, Except.pure]

end Agreement

section Statement

open PlayIntegrityVerifier AppAttestVerifier

variable {apple : AppleCrypto}

theorem attestOnIos_channelText (key challenge : List UInt8)
    (hhash : ∀ bytes, (apple.sha256 bytes).length = 32) (keyId : Option String) :
    attestOnIos true (channelText apple.sha256 key challenge) keyId =
      .ok (match keyId with
        | some keyId => .generateAssertion keyId (clientDataHash apple key challenge)
        | none => .generateKey (clientDataHash apple key challenge)) := by
  have hfilter : (some (bindingHash apple.sha256 key challenge)).filter
      (fun hash => hash.length == 32) =
        some (clientDataHash apple key challenge) := by
    rw [Option.filter_some, if_pos]
    · rfl
    · simp [bindingHash, hhash]
  rw [attestOnIos, dataFromBase64_channelText, AttestationBridge.attest,
    if_neg (by simp), hfilter]
  cases keyId <;> rfl

/-- The Android request hash is the text that the verifier wants, the iOS
client data hash the bytes that the verifier computes, and equal ones are the
hash of equal inputs. -/
theorem binding_agrees (hhash : ∀ bytes, (apple.sha256 bytes).length = 32)
    (key challenge : List UInt8) (hkey : key.length = 32)
    (hchallenge : 16 ≤ challenge.length) :
    (∀ channel : String → ChannelReply,
      attest apple.sha256 channel key challenge =
        (channel (channelText apple.sha256 key challenge)).result) ∧
    (∃ handed : String,
      toRequestHash (channelText apple.sha256 key challenge) = some handed ∧
      (∀ (provider : TokenProvider) (cached : Option TokenProvider) prepared,
        cached = some provider ∨ cached = none ∧ prepared = .ok provider →
        attestOnAndroid cached prepared (channelText apple.sha256 key challenge) =
          some (request provider handed)) ∧
      ∀ (cfg : PlayConfig) (now : ℕ) (payload : TokenPayload)
        (details : RequestDetails), payload.requestDetails = some details →
        (verify apple.sha256 cfg now (.ok (some payload)) key challenge =
            .error (.attestationError "request_hash_mismatch") ↔
          details.requestHash ≠ some handed)) ∧
    (∀ keyId : Option String,
      attestOnIos true (channelText apple.sha256 key challenge) keyId =
        .ok (match keyId with
          | some keyId =>
              .generateAssertion keyId (clientDataHash apple key challenge)
          | none => .generateKey (clientDataHash apple key challenge))) ∧
    ∀ otherKey otherChallenge : List UInt8,
      toRequestHash (channelText apple.sha256 key challenge) =
          toRequestHash (channelText apple.sha256 otherKey otherChallenge) ∨
        requestHash apple.sha256 key challenge =
          requestHash apple.sha256 otherKey otherChallenge ∨
        dataFromBase64 (channelText apple.sha256 key challenge).toList =
          dataFromBase64 (channelText apple.sha256 otherKey otherChallenge).toList ∨
        clientDataHash apple key challenge =
          clientDataHash apple otherKey otherChallenge →
      apple.sha256 (key ++ challenge) =
        apple.sha256 (otherKey ++ otherChallenge) := by
  refine ⟨attest_eq hkey hchallenge, ⟨_, toRequestHash_channelText, ?_, ?_⟩,
    attestOnIos_channelText key challenge hhash, ?_⟩
  · intro provider cached prepared hprovider
    rw [attestOnAndroid, toRequestHash_channelText, Option.map_some]
    rcases hprovider with rfl | ⟨rfl, rfl⟩ <;> rfl
  · intro cfg now payload details hdetails
    exact mismatch_iff hhash hdetails
  · intro otherKey otherChallenge heq
    have hurl : requestHash apple.sha256 key challenge =
          requestHash apple.sha256 otherKey otherChallenge →
        apple.sha256 (key ++ challenge) =
          apple.sha256 (otherKey ++ otherChallenge) := by
      intro hsame
      have hchars := congrArg String.toList hsame
      rw [requestHash, requestHash, String.toList_ofList,
        String.toList_ofList] at hchars
      exact Base64.encodeUrl_injective hchars
    simp only [toRequestHash_channelText, dataFromBase64_channelText,
      Option.some.injEq] at heq
    rcases heq with hsame | hsame | hsame | hsame
    · exact hurl hsame
    · exact hurl hsame
    · exact hsame
    · exact hsame

/-- A hash of 32 bytes, for evaluation. -/
def firstByteCrypto : AppleCrypto where
  sha256 bytes := List.replicate 32 (bytes.headD 0)
  fromBase64 _ := []
  decodeAttestation _ := none
  decodeAssertion _ := none
  certificate _ := none
  chainOk _ _ _ := false
  uncompressedPoint _ := none
  verifySignature _ _ _ := none

theorem binding_agrees_firstByte :
    (∃ handed, toRequestHash (channelText firstByteCrypto.sha256
      (List.replicate 32 7) (List.replicate 16 9)) = some handed) ∧
    attestOnIos true (channelText firstByteCrypto.sha256
      (List.replicate 32 7) (List.replicate 16 9)) none =
        .ok (.generateKey (List.replicate 32 7)) := by
  obtain ⟨-, ⟨handed, hhanded, -⟩, hios, -⟩ := @binding_agrees firstByteCrypto
    (fun _ => List.length_replicate) (List.replicate 32 7) (List.replicate 16 9)
    rfl (by decide)
  exact ⟨⟨handed, hhanded⟩, hios none⟩

end Statement

end VpnMiddleware.BindingStrings
