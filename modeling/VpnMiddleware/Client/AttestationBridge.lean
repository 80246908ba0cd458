import VpnMiddleware.Attest.AttestService

/-!
# The iOS attestation bridge

`AttestationBridge` between its asynchronous calls of App Attest.  The id of
the registered key is kept in the user defaults.
-/

namespace VpnMiddleware.AttestationBridge

open VpnMiddleware.AttestService

/-- `DCError.Code`. -/
inductive DCError
  | unknownSystemFailure | featureUnsupported | invalidInput | invalidKey
  | serverUnavailable
  deriving DecidableEq, Repr

/-- The `Error` of a call of App Attest. -/
inductive AttestError
  | dcError (code : DCError)
  | other (localizedDescription : String)
  deriving DecidableEq, Repr

structure FlutterError where
  code : String
  message : Option String := none
  deriving DecidableEq, Repr

def mapError : Option AttestError → FlutterError
  | none => ⟨"unknown", none⟩
  | some (.other localizedDescription) => ⟨"unknown", some localizedDescription⟩
  | some (.dcError .featureUnsupported) => ⟨"unsupported", some "unsupported"⟩
  | some (.dcError .serverUnavailable) => ⟨"transient", some "server unavailable"⟩
  | some (.dcError .invalidInput) | some (.dcError .invalidKey) =>
      ⟨"transient", some "retry"⟩
  | some (.dcError .unknownSystemFailure) =>
      ⟨"transient", some "attestation failed"⟩

/-- The call of App Attest whose completion is outstanding. -/
inductive Pending
  | generateKey (clientDataHash : List UInt8)
  | attestKey (keyId : String) (clientDataHash : List UInt8)
  | generateAssertion (keyId : String) (clientDataHash : List UInt8)
  deriving DecidableEq, Repr

/-- `attest`, for the decoded binding hash and the stored key id. -/
def attest (isSupported : Bool) (bindingHash : Option (List UInt8))
    (keyId : Option String) : Except FlutterError Pending :=
  if isSupported = false then
    .error ⟨"unsupported", some "App Attest unsupported"⟩
  else
    match bindingHash.filter fun hash => hash.length == 32 with
    | none => .error ⟨"bad_args", some "bindingHash must be 32 bytes"⟩
    | some hash =>
        match keyId with
        | some keyId => .ok (.generateAssertion keyId hash)
        | none => .ok (.generateKey hash)

/-- How a call of App Attest ends. -/
inductive Completion
  | key (keyId : String)
  | object (base64 : String)
  | failed (error : Option AttestError)
  deriving DecidableEq, Repr

/-- What a completion leads to: another call, or a result for the app. -/
inductive Continuation
  | call (pending : Pending)
  | result (payload : IosAttestation)
  | error (error : FlutterError)
  deriving DecidableEq, Repr

/-- The completion handlers, with the stored key id they leave; `none` is a
completion that the call does not have. -/
def complete (stored : Option String) :
    Pending → Completion → Option (Option String × Continuation)
  | .generateKey hash, .key keyId => some (stored, .call (.attestKey keyId hash))
  | .generateKey _, .failed error => some (stored, .error (mapError error))
  | .attestKey keyId _, .object attestation =>
      some (some keyId, .result
        { mode := .attest, keyId := keyId, attestation := some attestation })
  | .attestKey _ _, .failed error =>
      some (if error = some (.dcError .serverUnavailable) then stored else none,
        .error (mapError error))
  | .generateAssertion keyId _, .object assertion =>
      some (stored, .result
        { mode := .assert, keyId := keyId, assertion := some assertion })
  | .generateAssertion _ _, .failed error =>
      some (if error = some (.dcError .invalidKey) then none else stored,
        .error (mapError error))
  | _, _ => none

end VpnMiddleware.AttestationBridge
