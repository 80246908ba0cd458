import Mathlib.Data.Nat.Notation

/-!
# Errors

What the services throw: the HTTP exceptions of the controllers, errors of the
database server, `PanelError` and plain JavaScript errors.
-/

namespace VpnMiddleware.Errors

/-- `PanelError` of `panel.types.ts`. -/
structure PanelError where
  message : String
  status : Option ℕ := none
  retryable : Bool := true
  deriving DecidableEq, Repr

/-- Errors raised by the database server, by constraint or type. -/
inductive DbError
  | uniqueViolation (constraint : String)
  | foreignKeyViolation (constraint : String)
  | checkViolation (constraint : String)
  | invalidText (typeName : String)
  | unavailable (message : String)
  deriving DecidableEq, Repr

inductive Failure
  | connectError (reason : String) (httpStatus : ℕ)
  | notFound (message : String)
  | unauthorized (message : String)
  | forbidden (message : String)
  | conflict (message : String)
  | badRequest (message : String)
  | db (cause : DbError)
  | panel (cause : PanelError)
  | sessionConfigError (message : String)
  | attestationError (reason : String)
  | typeError (message : String)
  | error (message : String)
  deriving DecidableEq, Repr

/-- A text with U+0000, which neither `text` nor `jsonb` stores. -/
def holdsNul (text : List Char) : Bool := text.contains (Char.ofNat 0)

/-- The server refuses such a text as a parameter. -/
def nulInText : Failure :=
  .error "invalid byte sequence for encoding \"UTF8\": 0x00"

/-- It refuses such a text inside a `jsonb` parameter. -/
def nulInJson : Failure := .error "unsupported Unicode escape sequence"

/-- `!(err instanceof PanelError) || err.retryable`. -/
def Failure.retryable : Failure → Bool
  | .panel cause => cause.retryable
  | _ => true

/-- The text of a database error. -/
def DbError.message : DbError → String
  | .uniqueViolation constraint =>
      "duplicate key value violates unique constraint \"" ++ constraint ++ "\""
  | .foreignKeyViolation constraint =>
      "violates foreign key constraint \"" ++ constraint ++ "\""
  | .checkViolation constraint =>
      "violates check constraint \"" ++ constraint ++ "\""
  | .invalidText typeName => "invalid input syntax for type " ++ typeName
  | .unavailable message => message

/-- `(err as Error).message`. -/
def Failure.message : Failure → String
  | .connectError reason _ | .attestationError reason => reason
  | .db cause => cause.message
  | .panel cause => cause.message
  | .notFound message | .unauthorized message | .forbidden message
  | .conflict message | .badRequest message | .sessionConfigError message
  | .typeError message | .error message => message

end VpnMiddleware.Errors
