import VpnMiddleware.Core.DateText
import VpnMiddleware.Core.JsonText
import VpnMiddleware.Core.NumberText
import VpnMiddleware.Panel.PanelTypes

/-!
# The expiry that a panel echoes

A panel may answer with any JSON value where its contract has an expiry.  Each
client tests whether the value is set and makes a `Date` of it; a value that is
no date gives an invalid one.  Numbers are exact.
-/

namespace VpnMiddleware.ExpiryEcho

open VpnMiddleware.JsonText VpnMiddleware.NumberText VpnMiddleware.PanelTypes
open VpnMiddleware.WebText

/-- The value of a member as JavaScript coerces it: an array or an object counts
by its text. -/
inductive Echo
  | undefined
  | null
  | bool (value : Bool)
  | number (value : ℚ)
  | text (value : String)
  | composite (text : String)
  deriving DecidableEq, Repr

/-! ## Coercions -/

mutual

/-- `String(value)`. -/
def textOf : Json → String
  | .null => "null"
  | .bool true => "true"
  | .bool false => "false"
  | .num value => toString value
  | .str value => value
  | .arr items => joinTexts items
  | .obj _ => "[object Object]"

/-- `items.join(',')`; null items are empty. -/
def joinTexts : List Json → String
  | [] => ""
  | [.null] => ""
  | [item] => textOf item
  | .null :: items => "," ++ joinTexts items
  | item :: items => textOf item ++ "," ++ joinTexts items

end

def Echo.ofMember : Option Json → Echo
  | none => .undefined
  | some .null => .null
  | some (.bool value) => .bool value
  | some (.num value) => .number value
  | some (.str value) => .text value
  | some value => .composite (textOf value)

/-- The value in a condition. -/
def Echo.isTruthy : Echo → Bool
  | .undefined | .null => false
  | .bool value => value
  | .number value => value != 0
  | .text value => value != ""
  | .composite _ => true

/-- `Number(value)`; none is not a number or infinite. -/
def Echo.toNumber : Echo → Option ℚ
  | .undefined => none
  | .null => some 0
  | .bool value => some (if value then 1 else 0)
  | .number value => some value
  | .text value | .composite value => stringToNumber value

/-- The time value that `new Date(value)` starts from: texts are parsed, other
values are numbers. -/
def Echo.timeValue (dateParse : String → Option ℚ) : Echo → Option ℚ
  | .text value | .composite value => dateParse value
  | value => value.toNumber

/-! ## Dates -/

/-- Rounding toward zero. -/
def truncate (value : ℚ) : ℤ :=
  if 0 ≤ value then value.floor else value.ceil

/-- The time value of a date. -/
def timeClip (ms : ℚ) : ReportedExpiry :=
  if -(DateText.maxDate : ℚ) ≤ ms ∧ ms ≤ (DateText.maxDate : ℚ) then
    .at (truncate ms)
  else .invalid

/-- A date, from its time value. -/
def dateOf : Option ℚ → ReportedExpiry
  | none => .invalid
  | some ms => timeClip ms

/-- `value ? new Date(value * 1000) : null`. -/
def readSeconds (value : Echo) : ReportedExpiry :=
  if value.isTruthy then dateOf (value.toNumber.map (· * 1000)) else .unlimited

/-- `value ? new Date(value) : null`. -/
def readDate (dateParse : String → Option ℚ) (value : Echo) : ReportedExpiry :=
  if value.isTruthy then dateOf (value.timeValue dateParse) else .unlimited

/-- `Date.parse(text)` on an ISO date and time with a zone. -/
def isoDate (text : String) : Option ℚ :=
  (parseInstant text).map fun ms => (ms : ℚ)

end VpnMiddleware.ExpiryEcho
