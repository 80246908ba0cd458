import VpnMiddleware.Common.Errors
import VpnMiddleware.Core.Base64
import Mathlib.Data.Int.Init

/-!
# Play Integrity

The checks of a decoded verdict.  What Google's `decodeIntegrityToken` answers
is an input; the hash is a parameter.
-/

namespace VpnMiddleware.PlayIntegrityVerifier

open VpnMiddleware.Errors

/-- What `Number(..)` gives. -/
inductive Numeric
  | notFinite
  | finite (value : ℤ)
  deriving DecidableEq, Repr

structure RequestDetails where
  requestHash : Option String := none
  requestPackageName : Option String := none
  /-- `Number(rd.timestampMillis ?? 0)`. -/
  timestampMillis : Numeric := .finite 0
  deriving DecidableEq, Repr

structure AppIntegrity where
  appRecognitionVerdict : Option String := none
  certificateSha256Digest : List String := []
  deriving DecidableEq, Repr

/-- `TokenPayloadExternal`; the verdicts are those of `deviceIntegrity`. -/
structure TokenPayload where
  requestDetails : Option RequestDetails := none
  appIntegrity : Option AppIntegrity := none
  deviceRecognitionVerdict : List String := []
  deriving DecidableEq, Repr

/-- The call of Google's API: its payload, or the HTTP status it fails with. -/
abbrev DecodeReply := Except (Option ℕ) (Option TokenPayload)

structure PlayConfig where
  androidPackageName : String
  androidCertDigests : List String := []
  androidTokenMaxAgeMs : ℕ := 5 * 60000
  deriving DecidableEq, Repr

abbrev Check := Except Failure

/-- `if (!condition) throw new AttestationError(reason)`. -/
def ensure (condition : Bool) (reason : String) : Check Unit :=
  if condition then .ok () else .error (.attestationError reason)

/-- A value, or a throw. -/
def orThrow {Value : Type} (value : Option Value) (failure : Failure) :
    Check Value :=
  match value with
  | some value => .ok value
  | none => .error failure

/-- A forged token is told from an outage by Google's status. -/
def decoded : DecodeReply → Check TokenPayload
  | .ok (some payload) => .ok payload
  | .ok none => .error (.attestationError "empty_payload")
  | .error (some status) =>
      if 400 ≤ status ∧ status < 500 then
        .error (.attestationError "invalid_token")
      else .error (.attestationError "transient")
  | .error none => .error (.attestationError "transient")

/-- `base64UrlNoPad(sha256(clientPubKey ‖ challenge))`. -/
def requestHash (sha256 : List UInt8 → List UInt8)
    (clientPubKey challenge : List UInt8) : String :=
  String.ofList (Base64.encodeUrl (sha256 (clientPubKey ++ challenge)))

/-- The verdict is not older than allowed. -/
def isFresh (maxAgeMs now : ℕ) : Numeric → Bool
  | .notFinite => false
  | .finite value => decide ((now : ℤ) - value ≤ maxAgeMs)

def verify (sha256 : List UInt8 → List UInt8) (cfg : PlayConfig) (now : ℕ)
    (reply : DecodeReply) (clientPubKey challenge : List UInt8) :
    Check TokenPayload := do
  let payload ← decoded reply
  let expected := requestHash sha256 clientPubKey challenge
  let details := payload.requestDetails
  ensure (details.any fun rd => rd.requestHash == some expected && expected != "")
    "request_hash_mismatch"
  ensure (details.any fun rd =>
      rd.requestPackageName == some cfg.androidPackageName) "package_mismatch"
  ensure (payload.appIntegrity.any fun ai =>
      ai.appRecognitionVerdict == some "PLAY_RECOGNIZED") "app_not_recognized"
  ensure (cfg.androidCertDigests.isEmpty || payload.appIntegrity.any fun ai =>
      ai.certificateSha256Digest.any fun d => cfg.androidCertDigests.contains d)
    "cert_digest_mismatch"
  ensure (payload.deviceRecognitionVerdict.contains "MEETS_DEVICE_INTEGRITY")
    "device_integrity_failed"
  ensure (details.any fun rd =>
      isFresh cfg.androidTokenMaxAgeMs now rd.timestampMillis) "token_stale"
  return payload

/-! ## What an accepted verdict is bound to -/

@[simp]
theorem ensure_ok {condition : Bool} {reason : String} {done : Unit} :
    ensure condition reason = .ok done ↔ condition = true := by
  cases condition <;> simp [ensure]

@[simp]
theorem orThrow_ok {Value : Type} {value : Option Value} {failure : Failure}
    {result : Value} : orThrow value failure = .ok result ↔ value = some result := by
  cases value <;> simp [orThrow]

@[simp]
theorem check_bind_ok {First Second : Type} {first : Check First}
    {next : First → Check Second} {result : Second} :
    (first >>= next) = .ok result ↔
      ∃ value, first = .ok value ∧ next value = .ok result := by
  cases first with
  | error failure => simp [bind, Except.bind]
  | ok value => simp [bind, Except.bind]

theorem ensure_eq_error {condition : Bool} {reason : String} {failure : Failure} :
    ensure condition reason = .error failure ↔
      condition = false ∧ .attestationError reason = failure := by
  cases condition <;> simp [ensure]

theorem check_bind_eq_error {First Second : Type} {first : Check First}
    {next : First → Check Second} {failure : Failure} :
    (first >>= next) = .error failure ↔ first = .error failure ∨
      ∃ value, first = .ok value ∧ next value = .error failure := by
  cases first with
  | error other => simp [bind, Except.bind]
  | ok value => simp [bind, Except.bind]

/-- An accepted verdict carries the hash of the key and the challenge. -/
theorem requestHash_of_verify {sha256 : List UInt8 → List UInt8}
    {cfg : PlayConfig} {now : ℕ} {reply : DecodeReply}
    {clientPubKey challenge : List UInt8} {payload : TokenPayload}
    (hok : verify sha256 cfg now reply clientPubKey challenge = .ok payload) :
    reply = .ok (some payload) ∧ ∃ details, payload.requestDetails = some details ∧
      details.requestHash = some (requestHash sha256 clientPubKey challenge) := by
  simp only [verify, check_bind_ok, ensure_ok, Option.any_eq_true,
    Bool.and_eq_true, beq_iff_eq] at hok
  obtain ⟨payload', hdecoded, -, ⟨details, hdetails, hhash, -⟩, -, -, -, -, -, -,
    -, -, -, -, hsame⟩ := hok
  obtain rfl : payload' = payload := by simpa [pure, Except.pure] using hsame
  refine ⟨?_, details, hdetails, hhash⟩
  rcases reply with status | payload?
  · cases status <;> simp only [decoded] at hdecoded
    · cases hdecoded
    · split at hdecoded <;> cases hdecoded
  · cases payload? with
    | none => simp [decoded] at hdecoded
    | some value => simpa [decoded] using hdecoded

end VpnMiddleware.PlayIntegrityVerifier
