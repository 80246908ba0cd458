import VpnMiddleware.Client.ApiClient
import VpnMiddleware.Common.AllExceptionsFilter

/-!
# Error bodies and the app's failures

The filter sends either one message or the list of a failed validation; the
app casts the member to a string.
-/

namespace VpnMiddleware.ErrorBodies

open VpnMiddleware.JsonText VpnMiddleware.ConnectionModels
open VpnMiddleware.ConnectionFlow VpnMiddleware.AllExceptionsFilter
open VpnMiddleware.ApiClient

/-- The failure class of a status. -/
def IsClassFor (status : ℕ) : AppFailure → Prop
  | .auth _ => status = 401 ∨ status = 403
  | .api _ code _ => code = status ∧ status ≠ 401 ∧ status ≠ 403
  | _ => False

/-- A response outside the 2xx range reaches the app's callers as a failure of
its class. -/
def IsMapped (status : ℕ) (data : Json) : Prop :=
  ∃ failure, requestJson (.error (.ofResponse status data)) =
    .error (.appFailure failure) ∧ IsClassFor status failure

/-- The exception carries a list of messages. -/
def hasMessageList : Exception → Bool
  | .http _ (.object (some (.texts _)) _) _ => true
  | _ => false

section Mapping

variable {status : ℕ} {data : Json}

/-- Once both casts succeed, the status decides the class. -/
theorem isMapped_of_casts {apiCode msg : Option String}
    (hcode : optionalText data "code" = .ok apiCode)
    (hmsg : optionalText data "message" = .ok msg) : IsMapped status data := by
  have hmap := @mapDioError_ofResponse status data _ _ hcode hmsg
  by_cases hauth : status = 401 ∨ status = 403
  · rw [if_pos hauth] at hmap
    exact ⟨_, requestJson_of_mapped hmap, hauth⟩
  · rw [if_neg hauth] at hmap
    rw [not_or] at hauth
    exact ⟨_, requestJson_of_mapped hmap, rfl, hauth⟩

theorem not_isMapped_of_message {error : DecodeError} {apiCode : Option String}
    (hcode : optionalText data "code" = .ok apiCode)
    (hmsg : optionalText data "message" = .error error) :
    ¬ IsMapped status data := by
  rintro ⟨failure, hthrown, -⟩
  rw [requestJson, thrownFor, mapDioError_ofResponse_error hcode hmsg] at hthrown
  cases hthrown

variable {statusCodes : ℕ → Option String} {timestamp url : String}
variable {exception : Exception}

theorem code_of_body :
    optionalText (catchException statusCodes exception timestamp url).2 "code" =
      .ok none := rfl

theorem message_of_json :
    optionalText (catchException statusCodes exception timestamp url).2 "message" =
      match (describe statusCodes exception).message.json with
      | .str value => .ok (some value)
      | .null => .ok none
      | _ => .error .typeError := rfl

theorem message_of_body :
    optionalText (catchException statusCodes exception timestamp url).2 "message" =
      match (describe statusCodes exception).message with
      | .text value => .ok (some value)
      | .texts _ => .error .typeError := by
  rw [message_of_json]
  cases (describe statusCodes exception).message <;> rfl

theorem describe_texts_iff :
    (∃ values, (describe statusCodes exception).message = .texts values) ↔
      hasMessageList exception = true := by
  cases exception with
  | other message => simp [describe, hasMessageList]
  | http status response own =>
      cases response with
      | text message => simp [describe, hasMessageList]
      | object message error =>
          cases message with
          | none => simp [describe, hasMessageList]
          | some message => cases message <;> simp [describe, hasMessageList]

/-- The body of an exception is mapped exactly if it holds one message. -/
theorem isMapped_body_iff :
    IsMapped (catchException statusCodes exception timestamp url).1
        (catchException statusCodes exception timestamp url).2 ↔
      hasMessageList exception = false := by
  have hmsg := @message_of_body statusCodes timestamp url exception
  rw [← Bool.not_eq_true, ← @describe_texts_iff statusCodes]
  cases hmessage : (describe statusCodes exception).message with
  | text value =>
      rw [hmessage] at hmsg
      exact iff_of_true (isMapped_of_casts code_of_body hmsg) (by simp)
  | texts values =>
      rw [hmessage] at hmsg
      exact iff_of_false (not_isMapped_of_message code_of_body hmsg) (by simp)

theorem isMapped_of_not_map (hdata : ∀ members, data ≠ .obj members) :
    IsMapped status data := by
  have hnone : ∀ name, optionalText data name = .ok none := by
    intro name
    cases data with
    | obj members => exact absurd rfl (hdata members)
    | _ => rfl
  exact isMapped_of_casts (hnone "code") (hnone "message")

end Mapping

/-- Whatever the backend throws, its body reaches the app's callers as a failure
of its class exactly if it holds no list of messages; a body that is no object
always does. -/
theorem error_bodies_mapped_iff (statusCodes : ℕ → Option String) :
    (∀ (exception : Exception) (timestamp url : String),
      ∃ received,
        jsonDecode (String.ofList (stringify
          (catchException statusCodes exception timestamp url).2)) =
            some received ∧
        (IsMapped (catchException statusCodes exception timestamp url).1
            received ↔ hasMessageList exception = false)) ∧
    ∀ (status : ℕ) (data : Json), (∀ members, data ≠ .obj members) →
      IsMapped status data := by
  constructor
  · intro exception timestamp url
    exact ⟨_, jsonDecode_stringify _, isMapped_body_iff⟩
  · intro status data hdata
    exact isMapped_of_not_map hdata

theorem error_bodies_mapped_iff_text :
    IsMapped 502 (.str "<html>Bad Gateway</html>") :=
  (error_bodies_mapped_iff fun _ => none).2 502 _ (fun _ => Json.noConfusion)

/-- A failed validation reaches the callers as a type error. -/
theorem validation_not_mapped :
    ¬ ∀ (exception : Exception) (timestamp url : String),
      IsMapped (catchException (fun _ => none) exception timestamp url).1
        (catchException (fun _ => none) exception timestamp url).2 := by
  intro hall
  have hmapped := hall (.validation ["grantId must be a UUID"])
    "2026-01-01T00:00:00.000Z" "/api/v1/ads/verify-ad-reward"
  have hno : hasMessageList (.validation ["grantId must be a UUID"]) = false :=
    isMapped_body_iff.mp hmapped
  cases hno

end VpnMiddleware.ErrorBodies
