import VpnMiddleware.Common.Errors
import VpnMiddleware.Core.Http
import VpnMiddleware.Core.WebText
import VpnMiddleware.Panel.PanelTypes

/-!
# What both panel clients do alike

The error of a rejected request, the round trip of an expiry and the list of
nodes; each client has its own copy of this code.
-/

namespace VpnMiddleware.PanelHttp

open VpnMiddleware.Errors VpnMiddleware.JsonText VpnMiddleware.WebText
open VpnMiddleware.Http VpnMiddleware.Http.Exchange VpnMiddleware.PanelTypes

/-- The error of a status that is not accepted; `label` names the panel. -/
def requestFailed (label method path : String) (res : HttpResponse Failure) :
    Failure :=
  .panel {
    message := label ++ " " ++ method ++ " " ++ path ++ " -> " ++
      toString res.status ++ ": " ++ String.ofList (res.text.toList.take 300)
    status := some res.status
    retryable := decide (500 ≤ res.status) || res.status == 429 }

/-- `Math.abs(got - sent.getTime()) > toleranceMs`; a comparison with an
invalid date is false. -/
def hasDrifted (toleranceMs sent : ℕ) : ReportedExpiry → Bool
  | .unlimited => true
  | .at got => decide (toleranceMs < (got - sent).natAbs)
  | .invalid => false

/-- `date.toISOString()`.  The calendar repeats every 400 years, so an instant
before the epoch is written as one that many eras later. -/
def instantText (ms : ℤ) : String :=
  if 0 ≤ ms then isoString ms.toNat
  else
    let eras := (-ms).toNat / 12622780800000 + 1
    let (year, month, day) :=
      civilOfDays ((ms + eras * 12622780800000).toNat / 86400000)
    let clock := (ms + eras * 12622780800000).toNat % 86400000
    let yearText :=
      if eras * 400 ≤ year then padded 4 (year - eras * 400)
      else '-' :: padded 6 (eras * 400 - year)
    String.ofList (yearText ++ '-' :: padded 2 month ++ '-' :: padded 2 day ++
      'T' :: padded 2 (clock / 3600000) ++ ':' :: padded 2 (clock / 60000 % 60) ++
      ':' :: padded 2 (clock / 1000 % 60) ++ '.' :: padded 3 (clock % 1000) ++
      ['Z'])

/-- No error is thrown for an invalid date. -/
def expiryText : ReportedExpiry → String
  | .at ms => instantText ms
  | .unlimited | .invalid => "null"

/-- `assertExpiryRoundTrip(user, sent, op)`. -/
def assertExpiryRoundTrip (toleranceMs : ℕ) (user : PanelUser) (sent : ℕ)
    (op : String) : Except Failure Unit :=
  if hasDrifted toleranceMs sent user.expireAt then
    .error (.panel {
      message := op ++ ": expire round-trip mismatch (sent " ++
        isoString sent ++ ", panel stored " ++ expiryText user.expireAt ++ ")"
      retryable := false })
  else .ok ()

/-- `(nodes ?? []).map(..)`. -/
def mapNodes (toPanelNode : Json → PanelNode) :
    Option Json → Except Failure (List PanelNode)
  | none | some .null => .ok []
  | some (.arr items) => .ok (items.map toPanelNode)
  | some _ => .error (.typeError "(nodes ?? []).map is not a function")

/-- The body of a request. -/
def bodyText (body : Option Json) : Option String :=
  body.map fun json => String.ofList (stringify json)

end VpnMiddleware.PanelHttp
