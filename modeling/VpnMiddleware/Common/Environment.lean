import Mathlib.Data.Nat.Notation

/-!
# Tunables and other parameters

The environment variables the services read once at start, with their
defaults, and what the deployment decides: the panel provider, which client
keys the X25519 derivation accepts and which texts the `inet` type accepts.
-/

namespace VpnMiddleware.Environment

/-- `PanelConfig.provider`. -/
inductive Provider | rebecca | remnawave
  deriving DecidableEq, Repr

structure Config where
  provider : Provider := .rebecca
  freeTtlMs : ℕ := 5 * 60000
  premiumFallbackTtlMs : ℕ := 30 * 24 * 60 * 60000
  requiredAds : ℕ := 2
  grantMinutes : ℕ := 60
  vlessFlow : String := "xtls-rprx-vision"
  tokenWindowMin : ℕ := 15
  maxSessionMin : ℕ := 1440
  batch : ℕ := 20
  leaseMin : ℕ := 2
  maxAttempts : ℕ := 12
  reapBatch : ℕ := 500
  adminGrantDays : ℕ := 30
  keyAgreement : List UInt8 → Bool := fun _ => true
  inetAccepts : String → Bool := fun _ => true

end VpnMiddleware.Environment
