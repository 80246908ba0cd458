import VpnMiddleware.Schema.Database

/-!
# The gate of POST /connect

`canActivate` reads the device and its user once and returns the attested key.
-/

namespace VpnMiddleware.AttestedGuard

open VpnMiddleware.Schema VpnMiddleware.Errors VpnMiddleware.Database
open VpnMiddleware.Transaction

/-- The device joined to its user. -/
def deviceRow (deviceId : ℕ) (db : Db) : Option (Device × User) := do
  let device ← db.devices.find? fun device => device.id == deviceId
  let user ← db.users.find? fun user => user.id == device.userId
  return (device, user)

def isSuspended (row : Device × User) : Bool :=
  row.2.isBanned || row.2.status != .active

def isAttested (now : ℕ) (row : Device × User) : Bool :=
  row.1.status == .active && row.1.isAttested &&
    row.1.attestedUntil.any fun attestedUntil => decide (now < attestedUntil)

/-- `presented` is the decoded `clientPublicKey` of the request body. -/
def canActivate (now deviceId : ℕ) (presented : Option (List UInt8)) :
    Query (List UInt8) := do
  let presented ← expect presented (.forbidden "missing clientPublicKey")
  let db ← get
  let dev := deviceRow deviceId db
  require (!dev.any isSuspended) (.forbidden "account suspended")
  let dev ← expect (dev.filter (isAttested now))
    (.forbidden "device attestation required")
  expect (dev.1.attestedClientPublicKey.filter (· == presented))
    (.forbidden "key not bound to attestation")

/-! ## Specifications -/

section Specifications

variable {now deviceId : ℕ} {presented : Option (List UInt8)}
variable {key : List UInt8} {db after : Db}

theorem deviceRow_eq {device : Device} {user : User}
    (hrow : deviceRow deviceId db = some (device, user)) :
    device ∈ db.devices ∧ device.id = deviceId ∧ user.id = device.userId := by
  simp only [deviceRow, Option.bind_eq_bind, Option.bind_eq_some_iff,
    Option.pure_def, Option.some.injEq, Prod.mk.injEq] at hrow
  obtain ⟨_, hdevice, _, huser, rfl, rfl⟩ := hrow
  exact ⟨List.mem_of_find?_eq_some hdevice, by simpa using List.find?_some hdevice,
    by simpa using List.find?_some huser⟩

/-- An admission read an attested device of a user who is not suspended, and
the key is that of the attestation. -/
theorem canActivate_ok
    (hok : canActivate now deviceId presented db = .ok (key, after)) :
    ∃ device user, deviceRow deviceId db = some (device, user) ∧
      isSuspended (device, user) = false ∧
      isAttested now (device, user) = true ∧
      device.attestedClientPublicKey = some key := by
  simp only [canActivate, bind_ok, get_ok, expect_ok, require_ok] at hok
  obtain ⟨_, _, ⟨-, rfl⟩, _, _, ⟨rfl, rfl⟩, _, _, ⟨hallowed, rfl⟩, dev, _,
    ⟨hdev, rfl⟩, hkey, -⟩ := hok
  obtain ⟨hrow, hattested⟩ := Option.filter_eq_some_iff.mp hdev
  rw [hrow] at hallowed
  exact ⟨dev.1, dev.2, hrow, by simpa using hallowed, hattested,
    (Option.filter_eq_some_iff.mp hkey).1⟩

end Specifications

end VpnMiddleware.AttestedGuard
