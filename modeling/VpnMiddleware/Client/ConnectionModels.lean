import VpnMiddleware.Core.Base64
import VpnMiddleware.Core.DateText
import VpnMiddleware.Core.JsonText

/-!
# The client's connection models

What the app reads out of the two success responses and out of a decrypted
config.  A cast that fails is a type error; an absent member reads as null.
-/

namespace VpnMiddleware.ConnectionModels

open VpnMiddleware.JsonText VpnMiddleware.DateText

inductive DecodeError
  | typeError
  | formatException (message : String)
  deriving DecidableEq, Repr

abbrev Decode := Except DecodeError

/-! ## Casts -/

/-- `j[name]`. -/
def field (j : Json) (name : String) : Json := (j.member name).getD .null

/-- `j[name] as String`. -/
def asString (j : Json) (name : String) : Decode String :=
  match field j name with
  | .str value => .ok value
  | _ => .error .typeError

/-- `j[name] as String?`. -/
def asOptionalString (j : Json) (name : String) : Decode (Option String) :=
  match field j name with
  | .str value => .ok (some value)
  | .null => .ok none
  | _ => .error .typeError

/-- `(j[name] as num).toInt()`. -/
def asInt (j : Json) (name : String) : Decode ℕ :=
  match field j name with
  | .num value => .ok value
  | _ => .error .typeError

/-- `(j[name] as num?)?.toInt()`. -/
def asOptionalInt (j : Json) (name : String) : Decode (Option ℕ) :=
  match field j name with
  | .num value => .ok (some value)
  | .null => .ok none
  | _ => .error .typeError

/-- `DateTime.parse(j[name] as String).toUtc()`. -/
def asInstant (j : Json) (name : String) : Decode ℕ := do
  let text ← asString j name
  match parseDateTime text with
  | some ms => .ok ms
  | none => .error (.formatException "Invalid date format")

/-! ## Responses -/

structure ConnectResponse where
  sessionId : String
  grantId : String
  nonce : String
  requiredAds : ℕ
  provisioningExpiresAt : ℕ
  serverNote : Option String
  deriving DecidableEq, Repr

def ConnectResponse.fromJson (j : Json) : Decode ConnectResponse := do
  let sessionId ← asString j "sessionId"
  let grantId ← asString j "grantId"
  let nonce ← asString j "nonce"
  let requiredAds ← asInt j "requiredAds"
  let provisioningExpiresAt ← asInstant j "provisioningExpiresAt"
  let serverNote ← asOptionalString j "serverNote"
  return ⟨sessionId, grantId, nonce, requiredAds, provisioningExpiresAt,
    serverNote⟩

/-- The AES-256-GCM envelope of a config. -/
structure EncryptedPayload where
  alg : String
  serverPubKey : List UInt8
  iv : List UInt8
  cipherText : List UInt8
  tag : List UInt8
  deriving DecidableEq, Repr

/-- The `b64` of `EncryptedPayload.fromJson`. -/
def asBytes (j : Json) (key : String) : Decode (List UInt8) :=
  match field j key with
  | .str value =>
      if value = "" then
        .error (.formatException ("missing payload field: " ++ key))
      else match Base64.decode value.toList with
        | some bytes => .ok bytes
        | none => .error
            (.formatException ("invalid base64 in payload field: " ++ key))
  | _ => .error (.formatException ("missing payload field: " ++ key))

def EncryptedPayload.fromJson (j : Json) : Decode EncryptedPayload := do
  let alg ← asOptionalString j "alg"
  let serverPubKey ← asBytes j "keyRef"
  let iv ← asBytes j "iv"
  let cipherText ← asBytes j "ciphertext"
  let tag ← asBytes j "tag"
  return ⟨alg.getD "", serverPubKey, iv, cipherText, tag⟩

structure VerifyRewardResponse where
  sessionId : String
  expiresAt : ℕ
  grantedMinutes : ℕ
  payload : Option EncryptedPayload
  deriving DecidableEq, Repr

/-- `p is Map<String, dynamic> ? EncryptedPayload.fromJson(p) : null`. -/
def payloadFromJson : Json → Decode (Option EncryptedPayload)
  | .obj members => some <$> EncryptedPayload.fromJson (.obj members)
  | _ => .ok none

def VerifyRewardResponse.fromJson (j : Json) : Decode VerifyRewardResponse := do
  let sessionId ← asString j "sessionId"
  let expiresAt ← asInstant j "expiresAt"
  let grantedMinutes ← asOptionalInt j "grantedMinutes"
  let payload ← payloadFromJson (field j "payload")
  return ⟨sessionId, expiresAt, grantedMinutes.getD 0, payload⟩

/-! ## The decrypted profile -/

/-- A config that passed the shape check. -/
structure VpnProfile where
  singboxConfigJson : String
  expiresAt : ℕ
  deriving DecidableEq, Repr

def VpnProfile.fromDecrypted (plaintext : String) (expiresAt : ℕ) :
    Decode VpnProfile :=
  match jsonDecode plaintext with
  | none => .error (.formatException "Unexpected character")
  | some (.obj members) =>
      let decoded := Json.obj members
      if (decoded.member "outbounds").isNone &&
          (decoded.member "outbound").isNone then
        .error (.formatException "config has no outbound")
      else .ok ⟨plaintext, expiresAt⟩
  | some _ => .error (.formatException "config is not a JSON object")

/-! ## Reading written members -/

section Reading

variable {j : Json} {name text : String}

@[simp]
theorem asString_of_field (hfield : field j name = .str text) :
    asString j name = .ok text := by
  rw [asString, hfield]

@[simp]
theorem asInt_of_field {value : ℕ} (hfield : field j name = .num value) :
    asInt j name = .ok value := by
  rw [asInt, hfield]

@[simp]
theorem asOptionalInt_of_field {value : ℕ} (hfield : field j name = .num value) :
    asOptionalInt j name = .ok (some value) := by
  rw [asOptionalInt, hfield]

/-- A written instant is read back. -/
theorem asInstant_of_field {ms : ℕ} (htext : toISOString ms = some text)
    (hfield : field j name = .str text) : asInstant j name = .ok ms := by
  simp [asInstant, asString_of_field hfield, parseDateTime_toISOString htext,
    bind, Except.bind]

/-- Written bytes are read back, except the empty string, which counts as
missing. -/
theorem asBytes_of_field {bytes : List UInt8} (hbytes : bytes ≠ [])
    (hfield : field j name = .str (String.ofList (Base64.encode bytes))) :
    asBytes j name = .ok bytes := by
  have hne : String.ofList (Base64.encode bytes) ≠ "" := by
    intro hempty
    have hnil := congrArg String.toList hempty
    rw [String.toList_ofList] at hnil
    exact hbytes (Base64.encode_eq_nil_iff.mp hnil)
  rw [asBytes, hfield]
  simp only [if_neg hne, String.toList_ofList, Base64.decode_encode]

end Reading

end VpnMiddleware.ConnectionModels
