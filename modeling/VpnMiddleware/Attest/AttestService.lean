import VpnMiddleware.Attest.AppAttestVerifier
import VpnMiddleware.Common.Random
import VpnMiddleware.Schema.Database

/-!
# Device attestation

Challenges, and the verify loop cut at its transactions: the challenge is
consumed in one, Google is asked in between on Android, and the device is
updated in another.
-/

namespace VpnMiddleware.AttestService

open VpnMiddleware.Schema VpnMiddleware.Errors VpnMiddleware.Database
open VpnMiddleware.Transaction VpnMiddleware.Table VpnMiddleware.Random
open VpnMiddleware.PlayIntegrityVerifier VpnMiddleware.AppAttestVerifier

/-- The two verifiers with their configurations, and `JSON.stringify` of a
verdict. -/
structure AttestConfig where
  play : PlayConfig
  apple : AppleConfig
  appleCrypto : AppleCrypto
  stringify : TokenPayload → String
  challengeTtlMs : ℕ := 5 * 60000
  attestationTtlMs : ℕ := 24 * 60 * 60000

inductive IosMode | attest | assert
  deriving DecidableEq, Repr

structure IosAttestation where
  mode : IosMode
  keyId : String
  attestation : Option String := none
  assertion : Option String := none
  deriving DecidableEq, Repr

/-- `AttestationPayload`. -/
inductive AttestationPayload
  | android (integrityToken : String)
  | ios (payload : IosAttestation)
  deriving DecidableEq, Repr

structure VerifyInput where
  deviceId : ℕ
  challengeId : ℕ
  clientPubKey : List UInt8
  attestation : AttestationPayload
  deriving DecidableEq, Repr

variable (cfg : AttestConfig) (now : ℕ)

/-! ## Statements -/

/-- The `randomBytes(32)` of a challenge. -/
def challengeBytes (bytes : Bytes) : List UInt8 := (List.range 32).map bytes

def newChallenge (id deviceId : ℕ) (bytes : Bytes) : AttestationChallenge where
  id := id
  deviceId := deviceId
  challenge := challengeBytes bytes
  expiresAt := now + cfg.challengeTtlMs

def createChallenge (id deviceId : ℕ) (bytes : Bytes) : Query ℕ := do
  let db ← get
  require (!db.attestationChallenges.any fun row => row.id == id)
    (uniqueViolation "attestation_challenges_pkey")
  require (db.devices.any fun device => device.id == deviceId)
    (foreignKeyViolation "attestation_challenges_device_id_fkey")
  modify fun db =>
    { db with
      attestationChallenges :=
        db.attestationChallenges ++ [newChallenge cfg now id deviceId bytes] }
  return id

/-- `enforce_attest_counter_monotonic`. -/
def counterAllowed (old new : Device) : Bool :=
  new.appAttestCounter == old.appAttestCounter ||
    decide (old.appAttestCounter < new.appAttestCounter) ||
    old.appAttestCounter == 0

/-- What the trigger raises. -/
def counterError (old new : Device) : Failure :=
  .error ("app_attest_counter must be strictly increasing (" ++
    toString old.appAttestCounter ++ " -> " ++ toString new.appAttestCounter ++ ")")

/-- The trigger on the rows that an update changes. -/
def enforceCounters (id : ℕ) (change : Device → Device) (devices : List Device) :
    Except Failure Unit :=
  match devices.find? fun device =>
      device.id == id && !counterAllowed device (change device) with
  | some device => .error (counterError device (change device))
  | none => .ok ()

/-- `devices_app_attest_key_uq`, for a new value in the row `id`. -/
def keyIdFree (id : ℕ) (devices : List Device) (keyId : String) : Bool :=
  !devices.any fun other => other.id != id && other.appAttestKeyId == some keyId

def changeDevice (id : ℕ) (change : Device → Device) (db : Db) : Db :=
  { db with
    devices := updateWhere (fun device => device.id == id) change db.devices }

/-- `update devices set .. where id = ..`. -/
def updateDevice (id : ℕ) (change : Device → Device) : Query Unit := do
  let db ← get
  lift (enforceCounters id change db.devices)
  require (db.devices.all fun device =>
      device.id != id || (change device).appAttestKeyId.all (keyIdFree id db.devices))
    (uniqueViolation "devices_app_attest_key_uq")
  modify (changeDevice id change)

/-! ## The verify loop -/

/-- Phase A: consume the challenge. -/
def consumeChallenge (input : VerifyInput) : Query (List UInt8) := do
  let db ← get
  let row ← expect (db.attestationChallenges.find? fun row =>
      row.id == input.challengeId && row.deviceId == input.deviceId)
    (.attestationError "challenge_not_found")
  require row.consumedAt.isNone (.attestationError "challenge_used")
  require (decide (now < row.expiresAt)) (.attestationError "challenge_expired")
  modify fun db =>
    { db with
      attestationChallenges := updateWhere (fun other => other.id == row.id)
        (fun other => { other with consumedAt := some now })
        db.attestationChallenges }
  return row.challenge

/-- The columns that `markAttested` sets. -/
def attested (clientPubKey : List UInt8) (device : Device) : Device :=
  { device with
    isAttested := true
    attestedUntil := some (now + cfg.attestationTtlMs)
    lastAttestedAt := some now
    attestedClientPublicKey := some clientPubKey }

def markAttested (input : VerifyInput) : Query Unit :=
  updateDevice input.deviceId (attested cfg now input.clientPubKey)

/-- The last transaction on Android. -/
def persistVerdict (input : VerifyInput) (snapshot : TokenPayload) :
    Query Unit := do
  updateDevice input.deviceId fun device =>
    { device with lastIntegrityVerdict := some (cfg.stringify snapshot) }
  markAttested cfg now input

/-- The columns that a registration sets. -/
def registered (keyId : String) (res : AttestationResult) (device : Device) :
    Device :=
  { device with
    appAttestKeyId := some keyId
    appAttestPublicKey := some res.publicKeyDer
    appAttestCounter := res.signCount }

/-- `ios.mode === 'attest'`. -/
def registerKey (input : VerifyInput) (ios : IosAttestation)
    (challenge : List UInt8) : Query Unit := do
  let attestation ← expect (ios.attestation.filter (· != ""))
    (.attestationError "missing_attestation")
  let db ← get
  require (!db.devices.any fun device =>
      device.appAttestKeyId == some ios.keyId && device.id != input.deviceId)
    (.attestationError "keyid_bound_elsewhere")
  let res ← lift (verifyAttestation cfg.appleCrypto cfg.apple now attestation
    ios.keyId input.clientPubKey challenge)
  updateDevice input.deviceId (registered ios.keyId res)

/-- `ios.mode === 'assert'`, against the device as it was read. -/
def checkAssertion (input : VerifyInput) (ios : IosAttestation)
    (challenge : List UInt8) (dev : Device) : Query Unit := do
  let assertion ← expect (ios.assertion.filter (· != ""))
    (.attestationError "missing_assertion")
  let key ← expect (dev.appAttestPublicKey.filter fun _ =>
      dev.appAttestKeyId == some ios.keyId)
    (.attestationError "key_not_registered")
  let newSignCount ← lift (verifyAssertion cfg.appleCrypto cfg.apple assertion key
    dev.appAttestCounter input.clientPubKey challenge)
  updateDevice input.deviceId fun device =>
    { device with appAttestCounter := newSignCount }

/-- The one transaction on iOS. -/
def verifyIos (input : VerifyInput) (ios : IosAttestation)
    (challenge : List UInt8) : Query Unit := do
  let db ← get
  let dev ← expect (db.devices.find? fun device => device.id == input.deviceId)
    (.attestationError "device_not_found")
  match ios.mode with
  | .attest => registerKey cfg now input ios challenge
  | .assert => checkAssertion cfg input ios challenge dev
  markAttested cfg now input

/-! ## The loop as a process -/

inductive VerifyStage
  /-- Google is asked. -/
  | decode (integrityToken : String) (challenge : List UInt8)
  | persist (snapshot : TokenPayload) (challenge : List UInt8)
  | ios (payload : IosAttestation) (challenge : List UInt8)
  deriving DecidableEq, Repr

/-- A call of `verify` whose challenge is consumed. -/
structure AttestProc where
  input : VerifyInput
  stage : VerifyStage
  deriving DecidableEq, Repr

def stageOf (challenge : List UInt8) : AttestationPayload → VerifyStage
  | .android integrityToken => .decode integrityToken challenge
  | .ios payload => .ios payload challenge

/-- `verify` up to the end of Phase A. -/
def beginVerify (input : VerifyInput) (db : Db) : Except Failure AttestProc × Db :=
  if input.clientPubKey.length = 32 then
    match withTransaction (consumeChallenge now input) db with
    | (.ok challenge, after) => (.ok ⟨input, stageOf challenge input.attestation⟩, after)
    | (.error failure, after) => (.error failure, after)
  else (.error (.attestationError "bad_pubkey_len"), db)

/-- What the next step of a call leads to. -/
inductive Continued
  | next (proc : AttestProc)
  | done (answer : Except Failure Unit)

/-- The next step; Google's reply matters where it is asked. -/
def AttestProc.resume (proc : AttestProc) (reply : DecodeReply) (db : Db) :
    Continued × Db :=
  match proc.stage with
  | .decode _ challenge =>
      match PlayIntegrityVerifier.verify cfg.appleCrypto.sha256 cfg.play now reply
        proc.input.clientPubKey challenge with
      | .ok snapshot => (.next { proc with stage := .persist snapshot challenge }, db)
      | .error failure => (.done (.error failure), db)
  | .persist snapshot _ =>
      let outcome := withTransaction (persistVerdict cfg now proc.input snapshot) db
      (.done outcome.1, outcome.2)
  | .ios payload challenge =>
      let outcome := withTransaction (verifyIos cfg now proc.input payload challenge) db
      (.done outcome.1, outcome.2)

/-! ## Specifications -/

section Specifications

variable {cfg : AttestConfig} {now : ℕ} {db after : Db} {input : VerifyInput}
variable {ios : IosAttestation} {challenge : List UInt8}

theorem createChallenge_ok {id deviceId result : ℕ} {bytes : Bytes}
    (hok : createChallenge cfg now id deviceId bytes db = .ok (result, after)) :
    (∀ row ∈ db.attestationChallenges, row.id ≠ id) ∧
      after = { db with
        attestationChallenges := db.attestationChallenges ++
          [newChallenge cfg now id deviceId bytes] } := by
  simp only [createChallenge, bind_ok, get_ok, require_ok, modify_ok,
    pure_ok] at hok
  obtain ⟨_, _, ⟨rfl, rfl⟩, _, _, ⟨hfresh, rfl⟩, _, _, ⟨-, rfl⟩, _, _, rfl, -,
    rfl⟩ := hok
  exact ⟨by simpa using hfresh, rfl⟩

theorem consumeChallenge_ok :
    consumeChallenge now input db = .ok (challenge, after) ↔
      ∃ row, (db.attestationChallenges.find? fun row =>
          row.id == input.challengeId && row.deviceId == input.deviceId) =
            some row ∧
        row.consumedAt = none ∧ now < row.expiresAt ∧ challenge = row.challenge ∧
        after = { db with
          attestationChallenges := updateWhere (fun other => other.id == row.id)
            (fun other => { other with consumedAt := some now })
            db.attestationChallenges } := by
  simp only [consumeChallenge, bind_ok, get_ok, expect_ok, require_ok, modify_ok,
    pure_ok, Option.isNone_iff_eq_none, decide_eq_true_eq]
  constructor
  · rintro ⟨_, _, ⟨rfl, rfl⟩, row, _, ⟨hrow, rfl⟩, _, _, ⟨hunused, rfl⟩,
      _, _, ⟨htime, rfl⟩, _, _, rfl, rfl, rfl⟩
    exact ⟨row, hrow, hunused, htime, rfl, rfl⟩
  · rintro ⟨row, hrow, hunused, htime, rfl, rfl⟩
    exact ⟨_, _, ⟨rfl, rfl⟩, row, _, ⟨hrow, rfl⟩, (), _, ⟨hunused, rfl⟩, (), _,
      ⟨htime, rfl⟩, (), _, rfl, rfl, rfl⟩

theorem enforceCounters_ok {id : ℕ} {change : Device → Device}
    {devices : List Device} :
    enforceCounters id change devices = .ok () ↔
      ∀ device ∈ devices, device.id = id →
        counterAllowed device (change device) = true := by
  rw [enforceCounters]
  cases hfind : devices.find? fun device =>
      device.id == id && !counterAllowed device (change device) with
  | none =>
      rw [List.find?_eq_none] at hfind
      refine iff_of_true rfl fun device hdevice hid => ?_
      simpa [hid] using hfind device hdevice
  | some device =>
      have hbroken := List.find?_some hfind
      simp only [Bool.and_eq_true, beq_iff_eq, Bool.not_eq_true'] at hbroken
      refine iff_of_false (by simp) fun hallowed => ?_
      have htrue := hallowed device (List.mem_of_find?_eq_some hfind) hbroken.1
      rw [hbroken.2] at htrue
      cases htrue

theorem updateDevice_ok {id : ℕ} {change : Device → Device} :
    updateDevice id change db = .ok ((), after) ↔
      (∀ device ∈ db.devices, device.id = id →
        counterAllowed device (change device) = true ∧
          (change device).appAttestKeyId.all (keyIdFree id db.devices) = true) ∧
      after = changeDevice id change db := by
  simp only [updateDevice, bind_ok, get_ok, lift_ok, require_ok, modify_ok]
  constructor
  · rintro ⟨_, _, ⟨rfl, rfl⟩, _, _, ⟨hcounter, rfl⟩, _, _, ⟨hfree, rfl⟩, rfl⟩
    have hallowed := enforceCounters_ok.mp hcounter
    refine ⟨fun device hdevice hid => ⟨hallowed device hdevice hid, ?_⟩, rfl⟩
    have hfree' := List.all_eq_true.mp hfree device hdevice
    simpa only [hid, bne_self_eq_false, Bool.false_or] using hfree'
  · rintro ⟨hallowed, rfl⟩
    have hcounter : enforceCounters id change db.devices = .ok () :=
      enforceCounters_ok.mpr fun device hdevice hid => (hallowed device hdevice hid).1
    refine ⟨_, _, ⟨rfl, rfl⟩, (), _, ⟨hcounter, rfl⟩, (), _, ⟨?_, rfl⟩, rfl⟩
    rw [List.all_eq_true]
    intro device hdevice
    rw [Bool.or_eq_true, bne_iff_ne]
    exact (em (device.id = id)).symm.imp_right fun hid =>
      (hallowed device hdevice hid).2

/-- Two updates of one device in a row. -/
theorem changeDevice_comp {id : ℕ} {first second : Device → Device}
    (hkeep : ∀ device, (first device).id = device.id) :
    changeDevice id second (changeDevice id first db) =
      changeDevice id (second ∘ first) db := by
  simp only [changeDevice]
  rw [updateWhere_comp fun device => by rw [hkeep]]

/-- A row after the update of one device. -/
theorem mem_changeDevice {id : ℕ} {change : Device → Device} {device : Device} :
    device ∈ (changeDevice id change db).devices ↔
      ∃ old ∈ db.devices, device = if old.id = id then change old else old := by
  simp only [changeDevice, mem_updateWhere, beq_iff_eq]
  constructor
  · rintro ⟨old, hold, rfl⟩
    exact ⟨old, hold, rfl⟩
  · rintro ⟨old, hold, rfl⟩
    exact ⟨old, hold, rfl⟩

section ChangedRows

variable {id : ℕ} {change : Device → Device} {device : Device}

/-- The changed row. -/
theorem eq_change_of_mem (hmem : device ∈ (changeDevice id change db).devices)
    (hid : device.id = id) :
    ∃ old ∈ db.devices, old.id = id ∧ device = change old := by
  obtain ⟨old, hold, rfl⟩ := mem_changeDevice.mp hmem
  by_cases hsame : old.id = id
  · exact ⟨old, hold, hsame, if_pos hsame⟩
  · rw [if_neg hsame] at hid
    exact absurd hid hsame

/-- The other rows. -/
theorem mem_of_mem_changeDevice
    (hmem : device ∈ (changeDevice id change db).devices) (hid : device.id ≠ id)
    (hkeep : ∀ device, (change device).id = device.id) : device ∈ db.devices := by
  obtain ⟨old, hold, rfl⟩ := mem_changeDevice.mp hmem
  by_cases hsame : old.id = id
  · rw [if_pos hsame, hkeep] at hid
    exact absurd hsame hid
  · rwa [if_neg hsame]

theorem keyIdFree_iff {devices : List Device} {keyId : String} :
    keyIdFree id devices keyId = true ↔
      ∀ device ∈ devices, device.appAttestKeyId = some keyId → device.id = id := by
  simp only [keyIdFree, Bool.not_eq_eq_eq_not, Bool.not_true, List.any_eq_false,
    Bool.and_eq_true, bne_iff_ne, beq_iff_eq]
  exact forall₂_congr fun device _ => by tauto

end ChangedRows

/-- The accepted statement and what it changes in the device's row. -/
inductive Accepted (cfg : AttestConfig) (now : ℕ) (input : VerifyInput)
    (ios : IosAttestation) (challenge : List UInt8) (db : Db) :
    (Device → Device) → Prop
  | attest {attestation : String} {res : AttestationResult} :
      ios.mode = .attest → ios.attestation = some attestation →
      (∀ device ∈ db.devices, device.appAttestKeyId = some ios.keyId →
        device.id = input.deviceId) →
      verifyAttestation cfg.appleCrypto cfg.apple now attestation ios.keyId
        input.clientPubKey challenge = .ok res →
      Accepted cfg now input ios challenge db (registered ios.keyId res)
  | assert {assertion : String} {key : List UInt8} {dev : Device}
      {newSignCount : ℕ} :
      ios.mode = .assert → ios.assertion = some assertion →
      dev ∈ db.devices → dev.id = input.deviceId →
      dev.appAttestPublicKey = some key → dev.appAttestKeyId = some ios.keyId →
      verifyAssertion cfg.appleCrypto cfg.apple assertion key dev.appAttestCounter
        input.clientPubKey challenge = .ok newSignCount →
      Accepted cfg now input ios challenge db fun device =>
        { device with appAttestCounter := newSignCount }

theorem Accepted.keeps_id {change : Device → Device}
    (haccepted : Accepted cfg now input ios challenge db change) (device : Device) :
    (change device).id = device.id := by
  cases haccepted <;> rfl

theorem registerKey_ok (hmode : ios.mode = .attest)
    (hok : registerKey cfg now input ios challenge db = .ok ((), after)) :
    ∃ change, Accepted cfg now input ios challenge db change ∧
      after = changeDevice input.deviceId change db := by
  simp only [registerKey, bind_ok, get_ok, expect_ok, require_ok, lift_ok,
    Option.filter_eq_some_iff] at hok
  obtain ⟨attestation, _, ⟨⟨hattestation, -⟩, rfl⟩, _, _, ⟨rfl, rfl⟩, _, _,
    ⟨hfree, rfl⟩, res, _, ⟨hverified, rfl⟩, hupdate⟩ := hok
  obtain ⟨-, rfl⟩ := updateDevice_ok.mp hupdate
  refine ⟨registered ios.keyId res, .attest hmode hattestation ?_ hverified, rfl⟩
  intro device hdevice hkey
  by_contra hother
  simp only [Bool.not_eq_eq_eq_not, Bool.not_true, List.any_eq_false,
    Bool.and_eq_true, beq_iff_eq, bne_iff_ne, not_and, not_not] at hfree
  exact hother (hfree device hdevice hkey)

theorem checkAssertion_ok {dev : Device} (hmode : ios.mode = .assert)
    (hdev : (db.devices.find? fun device => device.id == input.deviceId) = some dev)
    (hok : checkAssertion cfg input ios challenge dev db = .ok ((), after)) :
    ∃ change, Accepted cfg now input ios challenge db change ∧
      after = changeDevice input.deviceId change db := by
  simp only [checkAssertion, bind_ok, expect_ok, lift_ok,
    Option.filter_eq_some_iff, beq_iff_eq] at hok
  obtain ⟨assertion, _, ⟨⟨hassertion, -⟩, rfl⟩, key, _, ⟨⟨hkey, hkeyId⟩, rfl⟩,
    newSignCount, _, ⟨hverified, rfl⟩, hupdate⟩ := hok
  obtain ⟨-, rfl⟩ := updateDevice_ok.mp hupdate
  have hid : dev.id = input.deviceId := by simpa using List.find?_some hdev
  exact ⟨_, .assert hmode hassertion (List.mem_of_find?_eq_some hdev) hid hkey
    hkeyId hverified, rfl⟩

/-- An accepted request on iOS changes the device's row in one go. -/
theorem verifyIos_ok
    (hok : verifyIos cfg now input ios challenge db = .ok ((), after)) :
    ∃ change, Accepted cfg now input ios challenge db change ∧
      after = changeDevice input.deviceId
        (attested cfg now input.clientPubKey ∘ change) db := by
  have hmarked : ∀ {change mid}, Accepted cfg now input ios challenge db change →
      mid = changeDevice input.deviceId change db →
      markAttested cfg now input mid = .ok ((), after) →
      ∃ change, Accepted cfg now input ios challenge db change ∧
        after = changeDevice input.deviceId
          (attested cfg now input.clientPubKey ∘ change) db := by
    rintro change mid haccepted rfl hmark
    obtain ⟨-, rfl⟩ := updateDevice_ok.mp hmark
    exact ⟨change, haccepted, changeDevice_comp haccepted.keeps_id⟩
  simp only [verifyIos, bind_ok, get_ok, expect_ok] at hok
  obtain ⟨_, _, ⟨rfl, rfl⟩, dev, _, ⟨hdev, rfl⟩, hok⟩ := hok
  cases hmode : ios.mode with
  | attest =>
      simp only [hmode, bind_ok] at hok
      obtain ⟨_, mid, hregistered, hmark⟩ := hok
      obtain ⟨change, haccepted, hmid⟩ := registerKey_ok hmode hregistered
      exact hmarked haccepted hmid hmark
  | assert =>
      simp only [hmode, bind_ok] at hok
      obtain ⟨_, mid, hchecked, hmark⟩ := hok
      obtain ⟨change, haccepted, hmid⟩ := checkAssertion_ok hmode hdev hchecked
      exact hmarked haccepted hmid hmark

/-- The trigger: a committed registration found a counter of zero. -/
theorem counter_of_registration {device : Device} (hmode : ios.mode = .attest)
    (hok : verifyIos cfg now input ios challenge db = .ok ((), after))
    (hdevice : device ∈ db.devices) (hid : device.id = input.deviceId) :
    device.appAttestCounter = 0 := by
  simp only [verifyIos, bind_ok, get_ok, expect_ok, hmode, registerKey,
    require_ok, lift_ok] at hok
  obtain ⟨_, _, ⟨rfl, rfl⟩, dev, _, ⟨-, rfl⟩, _, mid, hregister, -⟩ := hok
  obtain ⟨attestation, _, ⟨-, rfl⟩, _, _, ⟨rfl, rfl⟩, _, _, ⟨-, rfl⟩, stored, _,
    ⟨hverified, rfl⟩, hupdate⟩ := hregister
  have hallowed := ((updateDevice_ok.mp hupdate).1 device hdevice hid).1
  have hzero := signCount_of_verify hverified
  simp only [counterAllowed, registered, hzero, Nat.not_lt_zero, decide_false,
    Bool.or_false, Bool.or_eq_true, beq_iff_eq] at hallowed
  rcases hallowed with hzero | hzero
  · exact hzero.symm
  · exact hzero

/-- The Android verdict is stored and the device marked in one go. -/
theorem persistVerdict_ok {snapshot : TokenPayload}
    (hok : persistVerdict cfg now input snapshot db = .ok ((), after)) :
    after = changeDevice input.deviceId
      (attested cfg now input.clientPubKey ∘ fun device =>
        { device with lastIntegrityVerdict := some (cfg.stringify snapshot) })
      db := by
  simp only [persistVerdict, bind_ok] at hok
  obtain ⟨_, mid, hstored, hmarked⟩ := hok
  obtain ⟨-, rfl⟩ := updateDevice_ok.mp hstored
  obtain ⟨-, rfl⟩ := updateDevice_ok.mp hmarked
  exact changeDevice_comp fun _ => rfl

/-- A registration that nothing is in the way of. -/
structure Registrable (cfg : AttestConfig) (now : ℕ) (input : VerifyInput)
    (ios : IosAttestation) (challenge : List UInt8) (db : Db) : Prop where
  mode : ios.mode = .attest
  device : ∃ device ∈ db.devices, device.id = input.deviceId
  free : ∀ device ∈ db.devices, device.appAttestKeyId = some ios.keyId →
    device.id = input.deviceId
  /-- The trigger lets a counter go back only from zero. -/
  counter : ∀ device ∈ db.devices, device.id = input.deviceId →
    device.appAttestCounter = 0
  accepted : ∃ attestation ∈ ios.attestation, attestation ≠ "" ∧
    (verifyAttestation cfg.appleCrypto cfg.apple now attestation ios.keyId
      input.clientPubKey challenge).isOk = true

instance : Decidable (Registrable cfg now input ios challenge db) :=
  decidable_of_iff (_ ∧ _ ∧ _ ∧ _ ∧ _)
    ⟨fun ⟨hmode, hdevice, hfree, hcounter, haccepted⟩ =>
      ⟨hmode, hdevice, hfree, hcounter, haccepted⟩,
    fun ⟨hmode, hdevice, hfree, hcounter, haccepted⟩ =>
      ⟨hmode, hdevice, hfree, hcounter, haccepted⟩⟩

theorem verifyIos_of_registrable
    (hregistrable : Registrable cfg now input ios challenge db) :
    ∃ after, verifyIos cfg now input ios challenge db = .ok ((), after) := by
  obtain ⟨device, hdevice, hid⟩ := hregistrable.device
  obtain ⟨attestation, hattestation, hne, hisOk⟩ := hregistrable.accepted
  obtain ⟨res, hverified⟩ : ∃ res, verifyAttestation cfg.appleCrypto cfg.apple now
      attestation ios.keyId input.clientPubKey challenge = .ok res := by
    revert hisOk
    cases verifyAttestation cfg.appleCrypto cfg.apple now attestation ios.keyId
      input.clientPubKey challenge with
    | ok res => exact fun _ => ⟨res, rfl⟩
    | error failure => exact fun hisOk => nomatch hisOk
  have hfound : ∃ dev,
      (db.devices.find? fun device => device.id == input.deviceId) = some dev := by
    apply Option.isSome_iff_exists.mp
    rw [List.find?_isSome]
    exact ⟨device, hdevice, by simpa using hid⟩
  obtain ⟨dev, hdev⟩ := hfound
  have hfree : keyIdFree input.deviceId db.devices ios.keyId = true :=
    keyIdFree_iff.mpr hregistrable.free
  have hregister : updateDevice input.deviceId (registered ios.keyId res) db =
      .ok ((), changeDevice input.deviceId (registered ios.keyId res) db) := by
    refine updateDevice_ok.mpr ⟨fun other hother hsame => ⟨?_, hfree⟩, rfl⟩
    simp [counterAllowed, hregistrable.counter other hother hsame]
  have hmark : ∃ after, markAttested cfg now input
      (changeDevice input.deviceId (registered ios.keyId res) db) = .ok ((), after) := by
    refine ⟨_, updateDevice_ok.mpr ⟨fun other hother hsame => ⟨?_, ?_⟩, rfl⟩⟩
    · simp [counterAllowed, attested]
    · obtain ⟨old, -, -, rfl⟩ := eq_change_of_mem hother hsame
      refine keyIdFree_iff.mpr fun third hthird hkey => ?_
      by_contra hne
      have hold := mem_of_mem_changeDevice hthird hne fun _ => rfl
      exact hne (hregistrable.free third hold hkey)
  obtain ⟨after, hmark⟩ := hmark
  refine ⟨after, ?_⟩
  simp only [verifyIos, bind_ok, get_ok, expect_ok]
  refine ⟨_, _, ⟨rfl, rfl⟩, dev, _, ⟨hdev, rfl⟩, ?_⟩
  simp only [hregistrable.mode, bind_ok]
  refine ⟨(), _, ?_, hmark⟩
  simp only [registerKey, bind_ok, get_ok, expect_ok, require_ok, lift_ok,
    Option.filter_eq_some_iff]
  exact ⟨attestation, _, ⟨⟨hattestation, by simpa using hne⟩, rfl⟩, _, _, ⟨rfl, rfl⟩,
    (), _, ⟨by simpa using hregistrable.free, rfl⟩, res, _, ⟨hverified, rfl⟩, hregister⟩

theorem beginVerify_ok {proc : AttestProc} :
    beginVerify now input db = (.ok proc, after) ↔
      input.clientPubKey.length = 32 ∧ ∃ challenge,
        consumeChallenge now input db = .ok (challenge, after) ∧
        proc = ⟨input, stageOf challenge input.attestation⟩ := by
  rw [beginVerify]
  split_ifs with hlength
  · cases hconsume : withTransaction (consumeChallenge now input) db with
    | mk result mid =>
        cases result with
        | ok challenge =>
            have hok := withTransaction_ok hconsume
            simp [hok, hlength, and_comm, eq_comm]
        | error failure =>
            have hnone : ∀ challenge mid,
                consumeChallenge now input db ≠ .ok (challenge, mid) := by
              intro challenge mid hok
              rw [withTransaction_of_ok hok] at hconsume
              cases hconsume
            simp [hnone]
  · simp [hlength]

theorem beginVerify_error {failure : Failure}
    (herror : beginVerify now input db = (.error failure, after)) : after = db := by
  rw [beginVerify] at herror
  split_ifs at herror
  · cases hconsume : withTransaction (consumeChallenge now input) db with
    | mk result mid =>
        cases result with
        | ok challenge => simp [hconsume] at herror
        | error failure =>
            simp only [hconsume, Prod.mk.injEq] at herror
            exact herror.2 ▸ withTransaction_error hconsume
  · exact (Prod.mk.inj herror).2.symm

/-- What the next step of a call can do. -/
inductive Resumes (cfg : AttestConfig) (now : ℕ) (proc : AttestProc)
    (reply : DecodeReply) (db : Db) : Continued → Db → Prop
  | decoded {token : String} {challenge : List UInt8} {snapshot : TokenPayload} :
      proc.stage = .decode token challenge →
      PlayIntegrityVerifier.verify cfg.appleCrypto.sha256 cfg.play now reply
        proc.input.clientPubKey challenge = .ok snapshot →
      Resumes cfg now proc reply db
        (.next { proc with stage := .persist snapshot challenge }) db
  | refused (failure : Failure) :
      Resumes cfg now proc reply db (.done (.error failure)) db
  | persisted {snapshot : TokenPayload} {challenge : List UInt8} :
      proc.stage = .persist snapshot challenge →
      Resumes cfg now proc reply db (.done (.ok ()))
        (changeDevice proc.input.deviceId
          (attested cfg now proc.input.clientPubKey ∘ fun device =>
            { device with lastIntegrityVerdict := some (cfg.stringify snapshot) })
          db)
  | accepted {payload : IosAttestation} {challenge : List UInt8}
      {change : Device → Device} :
      proc.stage = .ios payload challenge →
      Accepted cfg now proc.input payload challenge db change →
      Resumes cfg now proc reply db (.done (.ok ()))
        (changeDevice proc.input.deviceId
          (attested cfg now proc.input.clientPubKey ∘ change) db)

theorem AttestProc.resumes (proc : AttestProc) (reply : DecodeReply) :
    Resumes cfg now proc reply db (proc.resume cfg now reply db).1
      (proc.resume cfg now reply db).2 := by
  cases hstage : proc.stage with
  | decode token challenge =>
      simp only [resume, hstage]
      cases hverify : PlayIntegrityVerifier.verify cfg.appleCrypto.sha256 cfg.play now
          reply proc.input.clientPubKey challenge with
      | ok snapshot => exact .decoded hstage hverify
      | error failure => exact .refused failure
  | persist snapshot challenge =>
      simp only [resume, hstage]
      cases hrun : withTransaction (persistVerdict cfg now proc.input snapshot) db with
      | mk result mid =>
          cases result with
          | ok done =>
              rw [persistVerdict_ok (withTransaction_ok hrun)]
              exact .persisted hstage
          | error failure => exact withTransaction_error hrun ▸ .refused failure
  | ios payload challenge =>
      simp only [resume, hstage]
      cases hrun : withTransaction
          (verifyIos cfg now proc.input payload challenge) db with
      | mk result mid =>
          cases result with
          | ok done =>
              obtain ⟨change, haccepted, hmid⟩ := verifyIos_ok (withTransaction_ok hrun)
              exact hmid ▸ .accepted hstage haccepted
          | error failure => exact withTransaction_error hrun ▸ .refused failure

end Specifications

end VpnMiddleware.AttestService
