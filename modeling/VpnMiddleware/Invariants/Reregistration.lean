import VpnMiddleware.Invariants.KeyRegistration

/-!
# Registering a key again

A registration sets the counter of the device back to zero, and the trigger of
the table lets a counter go back only from zero.  So whether an accepted
attestation is stored depends on the counter that the row already has.
-/

namespace VpnMiddleware.Reregistration

open VpnMiddleware.Schema VpnMiddleware.Errors VpnMiddleware.Database
open VpnMiddleware.Transaction VpnMiddleware.Table
open VpnMiddleware.PlayIntegrityVerifier VpnMiddleware.AppAttestVerifier
open VpnMiddleware.AttestService

variable {cfg : AttestConfig} {now later : ℕ} {db mid after : Db}
variable {input : VerifyInput} {ios : IosAttestation} {challenge : List UInt8}
variable {device : Device} {res : AttestationResult}

/-- The challenge of the request may still be consumed. -/
def IsFresh (now : ℕ) (input : VerifyInput) (row : AttestationChallenge)
    (db : Db) : Prop :=
  (db.attestationChallenges.find? fun row =>
    row.id == input.challengeId && row.deviceId == input.deviceId) = some row ∧
  row.consumedAt = none ∧ now < row.expiresAt

/-- An attestation in mode `attest` for a key that no other device has, which
`verifyAttestation` accepts. -/
structure Presents (cfg : AttestConfig) (now : ℕ) (input : VerifyInput)
    (ios : IosAttestation) (challenge : List UInt8) (db : Db)
    (device : Device) (res : AttestationResult) : Prop where
  keys : (db.devices.map Device.id).Nodup
  device_mem : device ∈ db.devices
  device_id : device.id = input.deviceId
  mode : ios.mode = .attest
  free : ∀ other ∈ db.devices, other.appAttestKeyId = some ios.keyId →
    other.id = input.deviceId
  accepted : ∃ attestation, ios.attestation = some attestation ∧
    attestation ≠ "" ∧
    verifyAttestation cfg.appleCrypto cfg.apple now attestation ios.keyId
      input.clientPubKey challenge = .ok res

/-- The row after a registration. -/
structure HoldsKey (input : VerifyInput) (ios : IosAttestation)
    (res : AttestationResult) (row : Device) : Prop where
  id : row.id = input.deviceId
  keyId : row.appAttestKeyId = some ios.keyId
  publicKey : row.appAttestPublicKey = some res.publicKeyDer
  counter : row.appAttestCounter = 0
  attested : row.isAttested = true
  clientKey : row.attestedClientPublicKey = some input.clientPubKey

/-- The call that has consumed its challenge ends well and leaves the key in
the row of the device. -/
def Registers (cfg : AttestConfig) (now : ℕ) (input : VerifyInput)
    (ios : IosAttestation) (challenge : List UInt8) (res : AttestationResult)
    (db : Db) : Prop :=
  ∃ after, (∀ reply, AttestProc.resume cfg now ⟨input, .ios ios challenge⟩ reply
      db = (.done (.ok ()), after)) ∧
    ∃ row ∈ after.devices, HoldsKey input ios res row

/-- A fresh challenge is consumed by the first transaction. -/
theorem beginVerify_of_fresh {row : AttestationChallenge}
    (hlength : input.clientPubKey.length = 32)
    (hattestation : input.attestation = .ios ios)
    (hfresh : IsFresh now input row db) :
    ∃ after, beginVerify now input db =
      (.ok ⟨input, .ios ios row.challenge⟩, after) := by
  obtain ⟨hrow, hunused, htime⟩ := hfresh
  refine ⟨_, beginVerify_ok.mpr ⟨hlength, row.challenge,
    consumeChallenge_ok.mpr ⟨row, hrow, hunused, htime, rfl, rfl⟩, ?_⟩⟩
  rw [hattestation]
  rfl

/-- With a counter of zero nothing is in the way. -/
theorem registrable_of_counter
    (hpresents : Presents cfg now input ios challenge db device res)
    (hcounter : device.appAttestCounter = 0) :
    Registrable cfg now input ios challenge db where
  mode := hpresents.mode
  device := ⟨device, hpresents.device_mem, hpresents.device_id⟩
  free := hpresents.free
  counter := by
    intro other hother hid
    have hsame := eq_of_key hpresents.keys hother hpresents.device_mem
      (hid.trans hpresents.device_id.symm)
    rw [hsame]
    exact hcounter
  accepted := by
    obtain ⟨attestation, hattestation, hne, hverified⟩ := hpresents.accepted
    exact ⟨attestation, hattestation, hne, by rw [hverified]; rfl⟩

/-- What a committed registration leaves in the row. -/
theorem holdsKey_of_verifyIos
    (hpresents : Presents cfg now input ios challenge db device res)
    (hok : verifyIos cfg now input ios challenge db = .ok ((), after)) :
    ∃ row ∈ after.devices, HoldsKey input ios res row := by
  obtain ⟨change, haccepted, rfl⟩ := verifyIos_ok hok
  obtain ⟨attestation, hattestation, -, hverified⟩ := hpresents.accepted
  cases haccepted with
  | assert hmode _ _ _ _ _ _ =>
      rw [hpresents.mode] at hmode
      cases hmode
  | @attest other stored _ hother _ hstored =>
      obtain rfl := Option.some.inj (hattestation.symm.trans hother)
      obtain rfl := Except.ok.inj (hverified.symm.trans hstored)
      refine ⟨attested cfg now input.clientPubKey (registered ios.keyId res device),
        mem_changeDevice.mpr ⟨device, hpresents.device_mem, ?_⟩,
        ⟨hpresents.device_id, rfl, rfl, signCount_of_verify hverified, rfl, rfl⟩⟩
      rw [if_pos hpresents.device_id]
      rfl

/-- The second transaction of a registration commits exactly from zero. -/
theorem registers_iff
    (hpresents : Presents cfg now input ios challenge db device res) :
    Registers cfg now input ios challenge res db ↔
      device.appAttestCounter = 0 := by
  constructor
  · rintro ⟨after, hresume, -⟩
    have hdone := hresume (.error none)
    simp only [AttestProc.resume, Prod.mk.injEq, Continued.done.injEq] at hdone
    have hcommit : withTransaction (verifyIos cfg now input ios challenge) db =
        (.ok (), after) := Prod.ext hdone.1 hdone.2
    exact counter_of_registration hpresents.mode (withTransaction_ok hcommit)
      hpresents.device_mem hpresents.device_id
  · intro hcounter
    obtain ⟨after, hok⟩ :=
      verifyIos_of_registrable (registrable_of_counter hpresents hcounter)
    refine ⟨after, fun reply => ?_, holdsKey_of_verifyIos hpresents hok⟩
    simp only [AttestProc.resume, withTransaction_of_ok hok]

/-- A request with a fresh challenge and an accepted attestation reaches its
second transaction, and that one stores the key exactly if the counter of the
device's row is zero, whatever happened in between. -/
theorem reregistration {cfg : AttestConfig} {now : ℕ} {input : VerifyInput}
    {ios : IosAttestation} {row : AttestationChallenge} {db : Db}
    (hlength : input.clientPubKey.length = 32)
    (hattestation : input.attestation = .ios ios)
    (hfresh : IsFresh now input row db) :
    (∃ after, beginVerify now input db =
      (.ok ⟨input, .ios ios row.challenge⟩, after)) ∧
    ∀ (later : ℕ) (mid : Db) (device : Device) (res : AttestationResult),
      Presents cfg later input ios row.challenge mid device res →
      (Registers cfg later input ios row.challenge res mid ↔
        device.appAttestCounter = 0) :=
  ⟨beginVerify_of_fresh hlength hattestation hfresh,
    fun _ _ _ _ hpresents => registers_iff hpresents⟩

/-! ## An installation that comes back -/

section Reinstalled

open VpnMiddleware.KeyRegistration

/-- The device asserted with an earlier key this many times. -/
def reinstalled (counter : ℕ) : Db where
  devices := [{
    id := 1
    userId := 1
    appAttestKeyId := some "old"
    appAttestPublicKey := some [9]
    appAttestCounter := counter }]
  attestationChallenges := [{
    id := 1
    deviceId := 1
    challenge := challengeBytes serverBytes
    expiresAt := 300000 }]

def freshIos : IosAttestation where
  mode := .attest
  keyId := phoneKeyId
  attestation := some (String.ofList (Base64.encode [3]))

def freshInput : VerifyInput := ⟨1, 1, phoneKey, .ios freshIos⟩

theorem presents_reinstalled (counter : ℕ) :
    Presents smallConfig.attest 0 freshInput freshIos (challengeBytes serverBytes)
      (reinstalled counter)
      { id := 1
        userId := 1
        appAttestKeyId := some "old"
        appAttestPublicKey := some [9]
        appAttestCounter := counter } ⟨[4], 0⟩ where
  keys := by simp [reinstalled]
  device_mem := by simp [reinstalled]
  device_id := rfl
  mode := rfl
  free := by simp [reinstalled, freshInput]
  accepted := ⟨_, rfl, by decide +kernel, by decide +kernel⟩

/-- A first registration goes through. -/
theorem reregistration_unused :
    Registers smallConfig.attest 0 freshInput freshIos
      (challengeBytes serverBytes) ⟨[4], 0⟩ (reinstalled 0) :=
  ((@reregistration smallConfig.attest 0 freshInput freshIos
      { id := 1
        deviceId := 1
        challenge := challengeBytes serverBytes
        expiresAt := 300000 } (reinstalled 0) rfl rfl ⟨rfl, rfl, by decide⟩).2 0
    _ _ _ (presents_reinstalled 0)).mpr rfl

/-- After one assertion the new key of a reinstalled app is refused. -/
theorem reregistration_refused :
    IsFresh 0 freshInput
        { id := 1
          deviceId := 1
          challenge := challengeBytes serverBytes
          expiresAt := 300000 } (reinstalled 1) ∧
      (∃ device res, Presents smallConfig.attest 0 freshInput freshIos
        (challengeBytes serverBytes) (reinstalled 1) device res ∧
          ¬ Registers smallConfig.attest 0 freshInput freshIos
            (challengeBytes serverBytes) res (reinstalled 1)) := by
  refine ⟨⟨rfl, rfl, by decide⟩, _, _, presents_reinstalled 1, fun hregisters => ?_⟩
  have hzero := (registers_iff (presents_reinstalled 1)).mp hregisters
  cases hzero

end Reinstalled

end VpnMiddleware.Reregistration
