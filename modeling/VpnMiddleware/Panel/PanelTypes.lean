import Mathlib.Data.Int.Notation
import Mathlib.Data.Nat.Notation

/-!
# Panel types

The records that cross the `IPanelClient` interface.  Instants are
milliseconds; a JavaScript record is the list of its entries in insertion
order.
-/

namespace VpnMiddleware.PanelTypes

inductive PanelUserStatus | active | disabled | limited | expired | onHold
  deriving DecidableEq, Repr

structure ProxyCredential where
  id : Option String := none
  password : Option String := none
  flow : Option String := none
  deriving DecidableEq, Repr

structure CreateUserParams where
  username : String
  expireAt : ℕ
  dataLimitBytes : Option ℕ := none
  proxies : List (String × ProxyCredential)
  inboundsByProtocol : List (String × List String)
  deriving DecidableEq, Repr

/-- An expiry that a panel reports: none, an instant, or an invalid date. -/
inductive ReportedExpiry
  | unlimited
  | at (ms : ℤ)
  | invalid
  deriving DecidableEq, Repr

structure PanelUser where
  username : Option String
  expireAt : ReportedExpiry
  dataLimitBytes : Option ℕ
  status : PanelUserStatus
  usedTrafficBytes : ℕ
  subscriptionToken : Option String
  deriving DecidableEq, Repr

structure PanelNode where
  panelNodeId : Option String
  name : Option String
  status : Option String
  address : Option String
  deriving DecidableEq, Repr

end VpnMiddleware.PanelTypes
