import Mathlib.Data.List.Infix
import VpnMiddleware.Client.ConnectionFlow
import VpnMiddleware.Core.WebText

/-!
# The app's HTTP gateway

`_mapDioError` and what `postJson` and `getJson` throw.  A cast that fails
throws a type error, which is no `AppFailure`.
-/

namespace VpnMiddleware.ApiClient

open VpnMiddleware.JsonText VpnMiddleware.ConnectionModels
open VpnMiddleware.ConnectionFlow

inductive DioExceptionType
  | connectionTimeout | sendTimeout | receiveTimeout | badCertificate
  | badResponse | cancel | connectionError | unknown
  deriving DecidableEq, Repr

/-- The error that a `DioException` wraps. -/
inductive WrappedError
  | handshakeException
  | tlsException
  | socketException (message : String)
  | other
  deriving DecidableEq, Repr

structure DioException where
  type : DioExceptionType
  error : Option WrappedError := none
  statusCode : Option ℕ := none
  /-- `e.response?.data`, decoded. -/
  data : Json := .null

/-- What Dio throws for a response outside the 2xx range. -/
def DioException.ofResponse (status : ℕ) (data : Json) : DioException where
  type := .badResponse
  statusCode := some status
  data := data

def WrappedError.isHandshake : WrappedError → Bool
  | .handshakeException | .tlsException => true
  | .socketException message =>
      decide ("certificate".toList <:+: message.toLower.toList)
  | .other => false

/-- `body is Map ? body[name] as String? : null`. -/
def optionalText (body : Json) (name : String) : Decode (Option String) :=
  match body with
  | .obj members => asOptionalString (.obj members) name
  | _ => .ok none

def pinningFailure : AppFailure :=
  .pinning "Secure connection could not be verified."

def mapDioError (e : DioException) : Decode AppFailure :=
  if e.error.any WrappedError.isHandshake then .ok pinningFailure
  else
    match e.type with
    | .connectionTimeout | .receiveTimeout | .sendTimeout | .connectionError =>
        .ok (.network "Network unavailable.")
    | .badCertificate => .ok pinningFailure
    | .badResponse => do
        let code := e.statusCode.getD 0
        let apiCode ← optionalText e.data "code"
        let msg ← optionalText e.data "message"
        if code = 401 ∨ code = 403 then
          .ok (.auth (msg.getD "Session expired — please sign in again."))
        else
          .ok (.api (msg.getD ("Request failed (" ++ toString code ++ ").")) code
            apiCode)
    | .cancel | .unknown =>
        .ok (.network "Something went wrong. Please try again.")

/-- What `postJson` and `getJson` throw for a `DioException`. -/
def thrownFor (e : DioException) : Thrown :=
  match mapDioError e with
  | .ok failure => .appFailure failure
  | .error _ => .other

/-- `_asMap`. -/
def asMap (data : Json) : Except Thrown Json :=
  match data with
  | .obj members => .ok (.obj members)
  | .str text =>
      if text = "" then .error (.appFailure (.payload "Unexpected server response."))
      else
        match jsonDecode text with
        | none => .error .other
        | some (.obj members) => .ok (.obj members)
        | some _ => .error (.appFailure (.payload "Unexpected server response."))
  | _ => .error (.appFailure (.payload "Unexpected server response."))

/-- `postJson` and `getJson`, once the call has ended. -/
def requestJson : Except DioException Json → Except Thrown Json
  | .ok data => asMap data
  | .error e => .error (thrownFor e)

theorem requestJson_of_mapped {e : DioException} {failure : AppFailure}
    (hmap : mapDioError e = .ok failure) :
    requestJson (.error e) = .error (.appFailure failure) := by
  rw [requestJson, thrownFor, hmap]

section Responses

variable {status : ℕ} {data : Json}

/-- Once both casts succeed, the status decides the failure. -/
theorem mapDioError_ofResponse {apiCode msg : Option String}
    (hcode : optionalText data "code" = .ok apiCode)
    (hmsg : optionalText data "message" = .ok msg) :
    mapDioError (.ofResponse status data) =
      if status = 401 ∨ status = 403 then
        .ok (.auth (msg.getD "Session expired — please sign in again."))
      else
        .ok (.api (msg.getD ("Request failed (" ++ toString status ++ ").")) status
          apiCode) := by
  simp only [mapDioError, DioException.ofResponse, Option.any_none, hcode, hmsg,
    Option.getD_some]
  rfl

theorem mapDioError_ofResponse_error {apiCode : Option String}
    {error : DecodeError} (hcode : optionalText data "code" = .ok apiCode)
    (hmsg : optionalText data "message" = .error error) :
    mapDioError (.ofResponse status data) = .error error := by
  simp only [mapDioError, DioException.ofResponse, Option.any_none, hcode, hmsg]
  rfl

end Responses

end VpnMiddleware.ApiClient
