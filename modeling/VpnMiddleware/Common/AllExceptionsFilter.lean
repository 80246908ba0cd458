import VpnMiddleware.Core.JsonText

/-!
# The exception filter

`AllExceptionsFilter` turns whatever a request throws into a status and one
JSON body.
-/

namespace VpnMiddleware.AllExceptionsFilter

open VpnMiddleware.JsonText

/-- `message?: string | string[]`. -/
inductive Message
  | text (value : String)
  | texts (values : List String)
  deriving DecidableEq, Repr

/-- `exception.getResponse()`. -/
inductive ResponseBody
  | text (message : String)
  | object (message : Option Message) (error : Option String)
  deriving DecidableEq, Repr

/-- What a request throws; `message` is that of the exception itself. -/
inductive Exception
  | http (status : ℕ) (response : ResponseBody) (message : String)
  | other (message : String)
  deriving DecidableEq, Repr

/-- A failed `ValidationPipe`: the constraints that a body breaks. -/
def Exception.validation (constraints : List String) : Exception :=
  .http 400 (.object (some (.texts constraints)) (some "Bad Request"))
    "Bad Request Exception"

def Message.json : Message → Json
  | .text value => .str value
  | .texts values => .arr (values.map .str)

structure ErrorResponse where
  status : ℕ
  message : Message
  error : String
  deriving DecidableEq, Repr

section

variable (statusCodes : ℕ → Option String)

/-- Status, label and message of an exception; `statusCodes` are the reason
phrases of Node's HTTP module. -/
def describe : Exception → ErrorResponse
  | .other _ => ⟨500, .text "Internal server error", "Internal Server Error"⟩
  | .http status response own =>
      let label := (statusCodes status).getD "Internal Server Error"
      match response with
      | .text message => ⟨status, .text message, label⟩
      | .object message error =>
          ⟨status, message.getD (.text own), error.getD label⟩

/-- `catch`: the status and the body that are sent. -/
def catchException (exception : Exception) (timestamp url : String) : ℕ × Json :=
  let response := describe statusCodes exception
  (response.status, .obj
    [("statusCode", .num response.status), ("error", .str response.error),
      ("message", response.message.json), ("timestamp", .str timestamp),
      ("path", .str url)])

end

end VpnMiddleware.AllExceptionsFilter
