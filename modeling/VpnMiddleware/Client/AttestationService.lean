import VpnMiddleware.Client.AttestationBridge
import VpnMiddleware.Client.ConnectionFlow

/-!
# The app's attestation service

The binding hash crosses the method channel as standard base64.  Android
decodes it and encodes it again for Play Integrity; iOS decodes it to the
client data hash of App Attest.
-/

namespace VpnMiddleware.AttestationService

open VpnMiddleware.ConnectionFlow VpnMiddleware.AttestService
open VpnMiddleware.AttestationBridge

/-! ## Base64 on the platforms -/

/-- What `Base64.decode(.., DEFAULT)` keeps: other characters are skipped. -/
def isKept (c : Char) : Bool := decide (c ∈ Base64.alphabet) || c == '='

/-- `Base64.decode(text, Base64.DEFAULT)` of Android; `none` throws.  The
padding may be missing, not incomplete. -/
def decodeDefault (text : List Char) : Option (List UInt8) :=
  let kept := text.filter isKept
  let digits := kept.takeWhile (· != '=')
  let padding := kept.dropWhile (· != '=')
  if digits.length % 4 = 1 then none
  else if padding = [] ∨ padding = Base64.paddingFor digits.length then
    some (Base64.bytesOf (digits.filterMap Base64.sextet))
  else none

/-- `Data(base64Encoded: text)` of Foundation: no other characters, and the
whole padding. -/
def dataFromBase64 (text : List Char) : Option (List UInt8) :=
  let digits := text.takeWhile (· != '=')
  let padding := text.dropWhile (· != '=')
  if text.all isKept = true ∧ digits.length % 4 ≠ 1 ∧
      padding = Base64.paddingFor digits.length then
    some (Base64.bytesOf (digits.filterMap Base64.sextet))
  else none

/-! ## Dart -/

/-- How a call of the method channel ends. -/
inductive ChannelReply
  | answered (payload : AttestationPayload)
  | nothing
  | unknownPlatform
  | platformException (code : String)
  deriving DecidableEq, Repr

/-- `_message`. -/
def message (code : String) : String :=
  if code = "unsupported" then
    "This device cannot be verified (attestation unsupported)."
  else if code = "play_unavailable" then "Google Play services are required."
  else if code = "transient" then
    "Verification temporarily unavailable. Try again."
  else "Device verification failed."

def ChannelReply.result : ChannelReply → Except AppFailure AttestationPayload
  | .answered payload => .ok payload
  | .nothing => .error (.auth "Attestation returned nothing.")
  | .unknownPlatform => .error (.auth "Unknown attestation platform.")
  | .platformException code => .error (.auth (message code))

section Dart

variable (sha256 : List UInt8 → List UInt8)

/-- `_bindingHash`. -/
def bindingHash (pub challenge : List UInt8) : List UInt8 :=
  sha256 (pub ++ challenge)

/-- `attest`; the channel is asked with the base64 of the binding hash. -/
def attest (channel : String → ChannelReply)
    (clientPublicKey challenge : List UInt8) :
    Except AppFailure AttestationPayload :=
  if clientPublicKey.length ≠ 32 then
    .error (.auth ("Invalid public key length (" ++
      toString clientPublicKey.length ++ ")."))
  else if challenge.length < 16 then
    .error (.auth ("Challenge too short (" ++ toString challenge.length ++ ")."))
  else
    (channel (String.ofList (Base64.encode
      (bindingHash sha256 clientPublicKey challenge)))).result

end Dart

/-! ## Android -/

/-- `StandardIntegrityTokenProvider.request` for a request hash: a token, or
the message of the failure. -/
abbrev TokenProvider := String → Except (Option String) String

/-- The request hash; `none` throws. -/
def toRequestHash (bindingHashB64 : String) : Option String :=
  (decodeDefault bindingHashB64.toList).map fun raw =>
    String.ofList (Base64.encodeUrl raw)

/-- `request`, with the provider that is kept. -/
def request (provider : TokenProvider) (requestHash : String) :
    Option TokenProvider × Except FlutterError AttestationPayload :=
  match provider requestHash with
  | .ok token => (some provider, .ok (.android token))
  | .error message => (none, .error ⟨"transient", message⟩)

/-- `attest` of the Android bridge; `prepared` is how the warm-up ends if no
provider is cached. -/
def attestOnAndroid (tokenProvider : Option TokenProvider)
    (prepared : Except (Option String) TokenProvider)
    (bindingHashB64 : String) :
    Option (Option TokenProvider × Except FlutterError AttestationPayload) :=
  (toRequestHash bindingHashB64).map fun requestHash =>
    match tokenProvider, prepared with
    | some provider, _ => request provider requestHash
    | none, .ok provider => request provider requestHash
    | none, .error message => (none, .error ⟨"play_unavailable", message⟩)

/-! ## iOS -/

/-- `attest` of the iOS bridge, from the text of the channel. -/
def attestOnIos (isSupported : Bool) (bindingHashB64 : String)
    (keyId : Option String) : Except FlutterError Pending :=
  AttestationBridge.attest isSupported (dataFromBase64 bindingHashB64.toList)
    keyId

/-! ## Both platforms read back the hash -/

section ReadingBack

variable (bytes : List UInt8)

private theorem ne_pad_of_mem_digits {c : Char} (hc : c ∈ Base64.digits bytes) :
    c ≠ '=' := by
  simpa using (List.mem_filter.mp hc).2

theorem takeWhile_encode :
    (Base64.encode bytes).takeWhile (· != '=') = Base64.digits bytes := by
  rw [Base64.encode_eq_digits_append, List.takeWhile_append_of_pos]
  · have hnone : (Base64.paddingFor (Base64.digits bytes).length).takeWhile
        (· != '=') = [] := by
      cases hpad : Base64.paddingFor (Base64.digits bytes).length with
      | nil => rfl
      | cons c rest =>
          have hmem : c ∈ Base64.paddingFor (Base64.digits bytes).length := by
            simp [hpad]
          simp [Base64.eq_pad_of_mem_paddingFor hmem]
    rw [hnone, List.append_nil]
  · intro c hc
    simpa using ne_pad_of_mem_digits bytes hc

theorem dropWhile_encode : (Base64.encode bytes).dropWhile (· != '=') =
    Base64.paddingFor (Base64.digits bytes).length := by
  have hsplit := @List.takeWhile_append_dropWhile _ (· != '=') (Base64.encode bytes)
  rw [takeWhile_encode] at hsplit
  nth_rewrite 2 [Base64.encode_eq_digits_append] at hsplit
  exact List.append_cancel_left hsplit

theorem all_isKept_encode : ∀ c ∈ Base64.encode bytes, isKept c = true := by
  intro c hc
  rw [Base64.encode_eq_digits_append, List.mem_append] at hc
  rcases hc with hdigit | hpad
  · simp [isKept, Base64.mem_alphabet_of_mem_digits hdigit]
  · simp [isKept, Base64.eq_pad_of_mem_paddingFor hpad]

theorem decodeDefault_encode :
    decodeDefault (Base64.encode bytes) = some bytes := by
  have hkept : (Base64.encode bytes).filter isKept = Base64.encode bytes :=
    List.filter_eq_self.mpr (all_isKept_encode bytes)
  rw [decodeDefault, hkept, takeWhile_encode, dropWhile_encode,
    if_neg (Base64.digits_length_mod bytes), if_pos (Or.inr rfl), Base64.bytesOf_digits]

theorem dataFromBase64_encode :
    dataFromBase64 (Base64.encode bytes) = some bytes := by
  rw [dataFromBase64, takeWhile_encode, dropWhile_encode, if_pos,
    Base64.bytesOf_digits]
  exact ⟨List.all_eq_true.mpr (all_isKept_encode bytes),
    Base64.digits_length_mod bytes, rfl⟩

end ReadingBack

end VpnMiddleware.AttestationService
