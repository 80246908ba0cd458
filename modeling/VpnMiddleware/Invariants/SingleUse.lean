import VpnMiddleware.Invariants.KeyRegistration
import VpnMiddleware.System.AttestedMiddleware

/-!
# Challenges and assertions are used once

A challenge leaves Phase A marked as consumed, whatever becomes of the call.
The counter of a device never goes back, and a key whose counter has moved
stays with its device, so an assertion is accepted once.
-/

namespace VpnMiddleware.SingleUse

open VpnMiddleware.Schema VpnMiddleware.Errors VpnMiddleware.Database
open VpnMiddleware.Transaction VpnMiddleware.TransitionSystem VpnMiddleware.Pool
open VpnMiddleware.PlayIntegrityVerifier VpnMiddleware.AppAttestVerifier
open VpnMiddleware.AttestService VpnMiddleware.AttestedMiddleware
open VpnMiddleware.Frame VpnMiddleware.Frames VpnMiddleware.Table

variable {cfg : AttestedMiddleware.Config} {s s' : State} {act : Action}

/-! ## What the rest of the middleware leaves alone -/

theorem challenges_core {core : Middleware.State} {act : Middleware.Action}
    (hstep : Middleware.step cfg.middleware s.core act = some core) :
    core.world.db.attestationChallenges = s.db.attestationChallenges := by
  by_cases hmaintain : ∃ tables, act = .operate (.maintain tables)
  · obtain ⟨tables, rfl⟩ := hmaintain
    rw [Middleware.step_operate hstep]
    rfl
  · have hframed : Framed (Same Db.attestationChallenges) :=
      ⟨fun _ _ => rfl, fun _ _ => rfl, fun _ _ => rfl, fun _ _ => rfl,
        fun _ _ => rfl, fun _ _ => rfl⟩
    exact respects_step_of_nodes hframed (fun _ _ => rfl)
      (fun _ _ _ _ => respects_applyTier (fun _ _ => rfl) (fun _ _ => rfl) _ _)
      (fun tables hact => hmaintain ⟨tables, hact⟩) hstep

/-- New devices are unattested, and the others keep their attestation. -/
structure Extends (before after : List Device) : Prop where
  columns : ∃ added : List ℕ, after.map attestationOf =
    before.map attestationOf ++ added.map unattested
  ids : (before.map Device.id).Nodup → (after.map Device.id).Nodup

theorem Extends.refl (devices : List Device) : Extends devices devices :=
  ⟨⟨[], by simp⟩, id⟩

theorem devices_core {core : Middleware.State} {act : Middleware.Action}
    (hpermitted : isPermitted s act = true)
    (hstep : Middleware.step cfg.middleware s.core act = some core) :
    Extends s.db.devices core.world.db.devices := by
  by_cases hmaintain : ∃ tables, act = .operate (.maintain tables)
  · obtain ⟨tables, rfl⟩ := hmaintain
    rw [Middleware.step_operate hstep]
    obtain ⟨hcolumns, hids⟩ := (Bool.and_eq_true _ _).mp hpermitted
    exact ⟨⟨_, of_decide_eq_true hcolumns⟩, fun _ => of_decide_eq_true hids⟩
  · have hframed : Framed (Same Db.devices) :=
      ⟨fun _ _ => rfl, fun _ _ => rfl, fun _ _ => rfl, fun _ _ => rfl,
        fun _ _ => rfl, fun _ _ => rfl⟩
    have hsame : core.world.db.devices = s.db.devices :=
      respects_step_of_nodes hframed (fun _ _ => rfl)
        (fun _ _ _ _ => respects_applyTier (fun _ _ => rfl) (fun _ _ => rfl) _ _)
        (fun tables hact => hmaintain ⟨tables, hact⟩) hstep
    rw [hsame]
    exact Extends.refl _

/-- A row after an extension: an old one with its attestation, or a new one. -/
theorem Extends.mem {before after : List Device} (hextends : Extends before after)
    {device : Device} (hdevice : device ∈ after) :
    (∃ old ∈ before, attestationOf device = attestationOf old) ∨
      attestationOf device = unattested device.id := by
  obtain ⟨added, hcolumns⟩ := hextends.columns
  have hmem : attestationOf device ∈ after.map attestationOf :=
    List.mem_map_of_mem hdevice
  rw [hcolumns, List.mem_append] at hmem
  rcases hmem with hold | hnew
  · obtain ⟨old, hmem, hsame⟩ := List.mem_map.mp hold
    exact Or.inl ⟨old, hmem, hsame.symm⟩
  · obtain ⟨id, -, hsame⟩ := List.mem_map.mp hnew
    right
    have hid : id = device.id := congrArg Attestation.deviceId hsame
    rw [← hid, hsame]

theorem Extends.kept {before after : List Device} (hextends : Extends before after)
    {old : Device} (hold : old ∈ before) :
    ∃ device ∈ after, attestationOf device = attestationOf old := by
  obtain ⟨added, hcolumns⟩ := hextends.columns
  have hmem : attestationOf old ∈ after.map attestationOf := by
    rw [hcolumns]
    exact List.mem_append_left _ (List.mem_map_of_mem hold)
  exact List.mem_map.mp hmem

/-! ## Challenges -/

/-- The challenge that an action consumes. -/
def consumes (s : State) : Action → Option ℕ
  | .verify input =>
      match (beginVerify s.clock input s.db).1 with
      | .ok _ => some input.challengeId
      | .error _ => none
  | _ => none

/-- Only an open challenge of the device is consumed. -/
theorem isOpen_of_consumes {id : ℕ} (hconsumes : consumes s act = some id) :
    ∃ input row, act = .verify input ∧ IsOpen s input row ∧ row.id = id := by
  cases act with
  | verify input =>
      cases hbegin : beginVerify s.clock input s.db with
      | mk outcome after =>
          simp only [consumes, hbegin] at hconsumes
          cases outcome with
          | error failure => cases hconsumes
          | ok proc =>
              obtain ⟨row, hopen, -, -, -⟩ := begins hbegin
              cases hconsumes
              exact ⟨input, row, rfl, hopen, hopen.id⟩
  | _ => cases hconsumes

/-- Challenges carry distinct ids. -/
def DistinctChallenges (db : Db) : Prop :=
  (db.attestationChallenges.map AttestationChallenge.id).Nodup

/-- The challenge has been consumed. -/
def IsConsumed (id : ℕ) (db : Db) : Prop :=
  ∃ row ∈ db.attestationChallenges, row.id = id ∧ row.consumedAt ≠ none

theorem challenges_resumes {now : ℕ} {proc : AttestProc} {reply : DecodeReply}
    {db after : Db} {continued : Continued}
    (hresumes : Resumes cfg.attest now proc reply db continued after) :
    after.attestationChallenges = db.attestationChallenges := by
  cases hresumes <;> rfl

theorem distinctChallenges_step (hdistinct : DistinctChallenges s.db)
    (hstep : step cfg s act = some s') : DistinctChallenges s'.db := by
  rw [DistinctChallenges] at hdistinct ⊢
  cases stepCase hstep with
  | core _ hcore _ => rwa [challenges_core hcore]
  | challenged hfresh hafter =>
      rw [hafter]
      simp only [State.withDb, List.map_append, List.map_cons, List.map_nil]
      apply List.Nodup.append hdistinct (List.nodup_singleton _)
      intro id hold hnew
      obtain ⟨row, hrow, rfl⟩ := List.mem_map.mp hold
      exact hfresh row hrow (List.mem_singleton.mp hnew)
  | @begun _ row _ _ hafter =>
      rw [hafter]
      change ((updateWhere _ _ _).map _).Nodup
      rwa [map_updateWhere fun _ => by rfl]
  | resumed _ _ hresumes hafter =>
      rw [hafter]
      exact (challenges_resumes hresumes).symm ▸ hdistinct
  | refusedChallenge hafter => exact hafter ▸ hdistinct
  | refusedVerify _ hafter => exact hafter ▸ hdistinct
  | crashed hafter => exact hafter ▸ hdistinct

/-- A consumed challenge stays consumed. -/
theorem isConsumed_step {id : ℕ} (hconsumed : IsConsumed id s.db)
    (hstep : step cfg s act = some s') : IsConsumed id s'.db := by
  obtain ⟨row, hrow, hid, hused⟩ := hconsumed
  cases stepCase hstep with
  | core _ hcore _ =>
      exact ⟨row, (challenges_core hcore).symm ▸ hrow, hid, hused⟩
  | challenged hfresh hafter =>
      rw [hafter]
      exact ⟨row, List.mem_append_left _ hrow, hid, hused⟩
  | @begun _ taken _ _ hafter =>
      rw [hafter]
      refine ⟨_, mem_updateWhere.mpr ⟨row, hrow, rfl⟩, ?_⟩
      by_cases htaken : (row.id == taken.id) = true
      · rw [if_pos htaken]
        exact ⟨hid, nofun⟩
      · rw [if_neg htaken]
        exact ⟨hid, hused⟩
  | resumed _ _ hresumes hafter =>
      rw [hafter]
      exact ⟨row, (challenges_resumes hresumes).symm ▸ hrow, hid, hused⟩
  | refusedChallenge hafter => exact hafter ▸ ⟨row, hrow, hid, hused⟩
  | refusedVerify _ hafter => exact hafter ▸ ⟨row, hrow, hid, hused⟩
  | crashed hafter => exact hafter ▸ ⟨row, hrow, hid, hused⟩

/-- The step that consumes a challenge leaves it consumed. -/
theorem isConsumed_of_consumes {id : ℕ} (hconsumes : consumes s act = some id)
    (hstep : step cfg s act = some s') : IsConsumed id s'.db := by
  cases stepCase hstep with
  | @begun input row hopen _ hafter =>
      obtain ⟨_, other, hact, hother, rfl⟩ := isOpen_of_consumes hconsumes
      cases hact
      rw [hafter]
      refine ⟨_, mem_updateWhere.mpr ⟨row, hopen.mem, rfl⟩, ?_⟩
      rw [if_pos (beq_self_eq_true row.id)]
      exact ⟨hopen.id.trans hother.id.symm, nofun⟩
  | @refusedVerify input hrefused _ =>
      cases hbegin : beginVerify s.clock input s.db with
      | mk outcome after =>
          simp only [consumes, hbegin] at hconsumes
          cases outcome with
          | error failure => cases hconsumes
          | ok proc => exact absurd hbegin (hrefused proc after)
  | core | challenged | resumed | refusedChallenge | crashed => cases hconsumes

/-- A consumed challenge is not consumed again. -/
theorem not_consumes {id : ℕ} (hdistinct : DistinctChallenges s.db)
    (hconsumed : IsConsumed id s.db) : consumes s act ≠ some id := by
  intro hconsumes
  obtain ⟨input, row, -, hopen, hid⟩ := isOpen_of_consumes hconsumes
  obtain ⟨other, hother, hotherId, hused⟩ := hconsumed
  have hsame := eq_of_key hdistinct hother hopen.mem (hotherId.trans hid.symm)
  exact hused (hsame ▸ hopen.unused)

/-- How often a challenge was consumed in a run. -/
def consumptions (id : ℕ) (trace : List (State × Action)) : ℕ :=
  trace.countP fun entry => consumes entry.1 entry.2 == some id

/-- What a run has made of its challenges. -/
structure Accounted (trace : List (State × Action)) (s : State) : Prop where
  distinct : DistinctChallenges s.db
  once : ∀ id, consumptions id trace ≤ 1
  marked : ∀ id, 0 < consumptions id trace → IsConsumed id s.db

theorem accounted_step {trace : List (State × Action)}
    (haccounted : Accounted trace s) (hstep : step cfg s act = some s') :
    Accounted (trace ++ [(s, act)]) s' := by
  have hcount : ∀ id, consumptions id (trace ++ [(s, act)]) =
      consumptions id trace + if consumes s act = some id then 1 else 0 := by
    intro id
    simp only [consumptions, List.countP_append, List.countP_singleton, beq_iff_eq]
  refine ⟨distinctChallenges_step haccounted.distinct hstep, fun id => ?_,
    fun id => ?_⟩
  · rw [hcount]
    split_ifs with hconsumes
    · have hunused : ¬ 0 < consumptions id trace := fun hpos =>
        not_consumes haccounted.distinct (haccounted.marked id hpos) hconsumes
      omega
    · exact haccounted.once id
  · rw [hcount]
    split_ifs with hconsumes
    · exact fun _ => isConsumed_of_consumes hconsumes hstep
    · exact fun hpos => isConsumed_step (haccounted.marked id hpos) hstep

/-! ## Counters -/

/-- Devices carry distinct ids, and a key belongs to one device. -/
structure DistinctKeys (devices : List Device) : Prop where
  ids : (devices.map Device.id).Nodup
  keys : ∀ device ∈ devices, ∀ other ∈ devices, ∀ keyId,
    device.appAttestKeyId = some keyId → other.appAttestKeyId = some keyId →
      device.id = other.id

/-- Counters do not go back, and a key whose counter has moved stays. -/
def Advances (before after : List Device) : Prop :=
  ∀ device ∈ before, ∃ device' ∈ after, device'.id = device.id ∧
    device.appAttestCounter ≤ device'.appAttestCounter ∧
    (0 < device.appAttestCounter →
      device'.appAttestKeyId = device.appAttestKeyId)

theorem Advances.refl (devices : List Device) : Advances devices devices :=
  fun device hdevice => ⟨device, hdevice, rfl, le_rfl, fun _ => rfl⟩

theorem Advances.trans {first mid last : List Device}
    (hfirst : Advances first mid) (hlast : Advances mid last) :
    Advances first last := by
  intro device hdevice
  obtain ⟨device', hdevice', hid, hcounter, hkey⟩ := hfirst device hdevice
  obtain ⟨device'', hdevice'', hid', hcounter', hkey'⟩ := hlast device' hdevice'
  refine ⟨device'', hdevice'', hid'.trans hid, hcounter.trans hcounter',
    fun hpos => ?_⟩
  exact (hkey' (hpos.trans_le hcounter)).trans (hkey hpos)

theorem Extends.advances {before after : List Device}
    (hextends : Extends before after) : Advances before after := by
  intro device hdevice
  obtain ⟨device', hdevice', hsame⟩ := hextends.kept hdevice
  exact ⟨device', hdevice', congrArg Attestation.deviceId hsame,
    (congrArg Attestation.counter hsame).ge,
    fun _ => congrArg Attestation.keyId hsame⟩

theorem Extends.distinctKeys {before after : List Device}
    (hextends : Extends before after) (hdistinct : DistinctKeys before) :
    DistinctKeys after := by
  have hold : ∀ device ∈ after, ∀ keyId, device.appAttestKeyId = some keyId →
      ∃ old ∈ before, old.id = device.id ∧ old.appAttestKeyId = some keyId := by
    intro device hdevice keyId hkey
    rcases hextends.mem hdevice with ⟨old, hmem, hsame⟩ | hblank
    · refine ⟨old, hmem, (congrArg Attestation.deviceId hsame).symm, ?_⟩
      exact (congrArg Attestation.keyId hsame).symm.trans hkey
    · have hnone : device.appAttestKeyId = none :=
        congrArg Attestation.keyId hblank
      rw [hnone] at hkey
      cases hkey
  refine ⟨hextends.ids hdistinct.ids, ?_⟩
  intro device hdevice other hother keyId hkey hkey'
  obtain ⟨old, hmem, hid, holdKey⟩ := hold device hdevice keyId hkey
  obtain ⟨old', hmem', hid', holdKey'⟩ := hold other hother keyId hkey'
  rw [← hid, ← hid']
  exact hdistinct.keys old hmem old' hmem' keyId holdKey holdKey'

section ChangedDevice

variable {db : Db} {id : ℕ} {change : Device → Device}

theorem advances_changeDevice
    (hchange : ∀ device ∈ db.devices, device.id = id →
      (change device).id = device.id ∧
      device.appAttestCounter ≤ (change device).appAttestCounter ∧
      (0 < device.appAttestCounter →
        (change device).appAttestKeyId = device.appAttestKeyId)) :
    Advances db.devices (changeDevice id change db).devices := by
  intro device hdevice
  refine ⟨_, mem_changeDevice.mpr ⟨device, hdevice, rfl⟩, ?_⟩
  split_ifs with hid
  · exact hchange device hdevice hid
  · exact ⟨rfl, le_rfl, fun _ => rfl⟩

/-- A key that a changed row has is its old one or one that no other row has. -/
theorem distinctKeys_changeDevice (hdistinct : DistinctKeys db.devices)
    (hid : ∀ device, (change device).id = device.id)
    (hkey : ∀ device ∈ db.devices, ∀ keyId,
      (change device).appAttestKeyId = some keyId →
        device.appAttestKeyId = some keyId ∨ ∀ other ∈ db.devices,
          other.appAttestKeyId = some keyId → other.id = id) :
    DistinctKeys (changeDevice id change db).devices := by
  have hids : (changeDevice id change db).devices.map Device.id =
      db.devices.map Device.id := map_updateWhere hid _ _
  refine ⟨hids ▸ hdistinct.ids, ?_⟩
  intro device hdevice other hother keyId hdeviceKey hotherKey
  obtain ⟨old, hold, rfl⟩ := mem_changeDevice.mp hdevice
  obtain ⟨old', hold', rfl⟩ := mem_changeDevice.mp hother
  by_cases hchanged : old.id = id
  · by_cases hchanged' : old'.id = id
    · rw [if_pos hchanged, if_pos hchanged', hid, hid, hchanged, hchanged']
    · rw [if_pos hchanged] at hdeviceKey ⊢
      rw [if_neg hchanged'] at hotherKey ⊢
      rw [hid]
      rcases hkey old hold keyId hdeviceKey with hsame | hfree
      · exact hdistinct.keys old hold old' hold' keyId hsame hotherKey
      · exact absurd (hfree old' hold' hotherKey) hchanged'
  · by_cases hchanged' : old'.id = id
    · rw [if_neg hchanged] at hdeviceKey ⊢
      rw [if_pos hchanged'] at hotherKey ⊢
      rw [hid]
      rcases hkey old' hold' keyId hotherKey with hsame | hfree
      · exact hdistinct.keys old hold old' hold' keyId hdeviceKey hsame
      · exact absurd (hfree old hold hdeviceKey) hchanged
    · rw [if_neg hchanged] at hdeviceKey ⊢
      rw [if_neg hchanged'] at hotherKey ⊢
      exact hdistinct.keys old hold old' hold' keyId hdeviceKey hotherKey

end ChangedDevice

/-! ## The last step of a call -/

section Resumed

variable {now : ℕ} {proc : AttestProc} {reply : DecodeReply} {db after : Db}
variable {continued : Continued}

/-- A registration that goes through found a counter of zero. -/
theorem counter_of_resume {payload : IosAttestation} {challenge : List UInt8}
    {device : Device} (hstage : proc.stage = .ios payload challenge)
    (hmode : payload.mode = .attest)
    (hdone : (proc.resume cfg.attest now reply db).1 = .done (.ok ()))
    (hdevice : device ∈ db.devices) (hid : device.id = proc.input.deviceId) :
    device.appAttestCounter = 0 := by
  simp only [AttestProc.resume, hstage, Continued.done.injEq] at hdone
  have hcommit : withTransaction (verifyIos cfg.attest now proc.input payload
      challenge) db = (.ok (), _) := Prod.ext hdone rfl
  exact counter_of_registration hmode (withTransaction_ok hcommit) hdevice hid

/-- The counter of an accepted assertion is beyond that of the device's row. -/
theorem count_of_accepted {input : VerifyInput}
    {assertion : String} {challenge key : List UInt8} {dev device : Device}
    {count : ℕ} (hdistinct : DistinctKeys db.devices)
    (hdev : dev ∈ db.devices) (hdevId : dev.id = input.deviceId)
    (hverified : verifyAssertion cfg.attest.appleCrypto cfg.attest.apple assertion
      key dev.appAttestCounter input.clientPubKey challenge = .ok count)
    (hdevice : device ∈ db.devices) (hid : device.id = input.deviceId) :
    device = dev ∧ device.appAttestCounter < count := by
  have hsame := eq_of_key hdistinct.ids hdevice hdev (hid.trans hdevId.symm)
  exact ⟨hsame, hsame ▸ (counts_of_verify hverified).2⟩

theorem advances_resumes (hdistinct : DistinctKeys db.devices)
    (hresume : (proc.resume cfg.attest now reply db).1 = continued)
    (hresumes : Resumes cfg.attest now proc reply db continued after) :
    Advances db.devices after.devices := by
  cases hresumes with
  | decoded _ _ => exact Advances.refl _
  | refused _ => exact Advances.refl _
  | persisted _ =>
      exact advances_changeDevice fun _ _ _ => ⟨rfl, le_rfl, fun _ => rfl⟩
  | accepted hstage haccepted =>
      apply advances_changeDevice
      intro device hdevice hid
      cases haccepted with
      | attest hmode _ _ _ =>
          have hzero := counter_of_resume hstage hmode hresume hdevice hid
          exact ⟨rfl, hzero ▸ Nat.zero_le _, fun hpos => by omega⟩
      | assert _ _ hdev hdevId _ _ hverified =>
          have hcount :=
            (count_of_accepted hdistinct hdev hdevId hverified hdevice hid).2
          exact ⟨rfl, hcount.le, fun _ => rfl⟩

theorem distinctKeys_resumes (hdistinct : DistinctKeys db.devices)
    (hresumes : Resumes cfg.attest now proc reply db continued after) :
    DistinctKeys after.devices := by
  cases hresumes with
  | decoded _ _ => exact hdistinct
  | refused _ => exact hdistinct
  | persisted _ =>
      apply distinctKeys_changeDevice hdistinct
      · exact fun _ => rfl
      · exact fun _ _ _ hkey => Or.inl hkey
  | accepted _ haccepted =>
      apply distinctKeys_changeDevice hdistinct
      · exact haccepted.keeps_id
      · intro device hdevice keyId hkey
        cases haccepted with
        | attest _ _ hfree _ =>
            right
            intro other hother hotherKey
            exact hfree other hother (hotherKey.trans hkey.symm)
        | assert _ _ _ _ _ _ _ => exact Or.inl hkey

end Resumed

theorem distinctKeys_step (hdistinct : DistinctKeys s.db.devices)
    (hstep : step cfg s act = some s') : DistinctKeys s'.db.devices := by
  cases stepCase hstep with
  | core hpermitted hcore _ =>
      exact (devices_core hpermitted hcore).distinctKeys hdistinct
  | resumed _ _ hresumes hafter =>
      rw [hafter]
      exact distinctKeys_resumes hdistinct hresumes
  | challenged _ hafter => exact hafter ▸ hdistinct
  | begun _ _ hafter => exact hafter ▸ hdistinct
  | refusedChallenge hafter => exact hafter ▸ hdistinct
  | refusedVerify _ hafter => exact hafter ▸ hdistinct
  | crashed hafter => exact hafter ▸ hdistinct

theorem advances_step (hdistinct : DistinctKeys s.db.devices)
    (hstep : step cfg s act = some s') :
    Advances s.db.devices s'.db.devices := by
  cases stepCase hstep with
  | core hpermitted hcore _ => exact (devices_core hpermitted hcore).advances
  | resumed _ hresume hresumes hafter =>
      rw [hafter]
      exact advances_resumes hdistinct (congrArg Prod.fst hresume) hresumes
  | challenged _ hafter => exact hafter ▸ Advances.refl _
  | begun _ _ hafter => exact hafter ▸ Advances.refl _
  | refusedChallenge hafter => exact hafter ▸ Advances.refl _
  | refusedVerify _ hafter => exact hafter ▸ Advances.refl _
  | crashed hafter => exact hafter ▸ Advances.refl _

/-! ## Assertions -/

/-- The action completes a call that asserts with a key of a device. -/
inductive Asserts (cfg : AttestedMiddleware.Config) (s : State) :
    Action → ℕ → String → String → Prop
  | intro {i : ℕ} {reply : DecodeReply} {proc : AttestProc}
      {payload : IosAttestation} {challenge : List UInt8} {assertion : String} :
      s.calls[i]? = some proc → proc.stage = .ios payload challenge →
      payload.mode = .assert → payload.assertion = some assertion →
      (proc.resume cfg.attest s.clock reply s.db).1 = .done (.ok ()) →
      Asserts cfg s (.resume i reply) proc.input.deviceId payload.keyId assertion

/-- What an accepted assertion finds in the row of its device, and leaves. -/
structure Counted (s s' : State) (deviceId : ℕ) (keyId : String) (count : ℕ) :
    Prop where
  before : ∃ device ∈ s.db.devices, device.id = deviceId ∧
    device.appAttestKeyId = some keyId ∧ device.appAttestCounter < count
  after : ∃ device ∈ s'.db.devices, device.id = deviceId ∧
    device.appAttestKeyId = some keyId ∧ device.appAttestCounter = count

theorem counted_of_asserts {deviceId : ℕ} {keyId assertion : String}
    (hasserts : Asserts cfg s act deviceId keyId assertion)
    (hstep : step cfg s act = some s') :
    ∃ count, Counts cfg.attest.appleCrypto assertion count ∧
      Counted s s' deviceId keyId count := by
  cases hasserts with
  | @intro i reply proc payload challenge assertion hproc hstage hmode hassertion
      hdone =>
    cases stepCase hstep with
    | @resumed _ _ current continued after hcurrent hresume hresumes hafter =>
      obtain rfl := Option.some.inj (hcurrent.symm.trans hproc)
      rw [hresume] at hdone
      obtain rfl : continued = .done (.ok ()) := hdone
      cases hresumes with
      | persisted hother =>
          rw [hstage] at hother
          cases hother
      | accepted hother haccepted =>
          rw [hstage] at hother
          cases hother
          cases haccepted with
          | attest hattest _ _ _ =>
              rw [hmode] at hattest
              cases hattest
          | @assert presented key dev count _ hpresented hdev hid _ hkeyId
              hverified =>
              obtain rfl := Option.some.inj (hassertion.symm.trans hpresented)
              obtain ⟨hcounts, hless⟩ := counts_of_verify hverified
              refine ⟨count, hcounts, ⟨dev, hdev, hid, hkeyId, hless⟩, ?_⟩
              rw [hafter]
              refine ⟨_, mem_changeDevice.mpr ⟨dev, hdev, rfl⟩, ?_⟩
              rw [if_pos hid]
              exact ⟨hid, hkeyId, rfl⟩

/-! ## Runs -/

section Runs

variable {start last : State} {trace : List (State × Action)}

theorem advances_run (hdistinct : DistinctKeys start.db.devices)
    (hrun : Run (attestedMiddleware cfg) start trace last) :
    DistinctKeys last.db.devices ∧
      Advances start.db.devices last.db.devices := by
  induction hrun with
  | refl => exact ⟨hdistinct, Advances.refl _⟩
  | snoc _ hstep ih =>
      exact ⟨distinctKeys_step ih.1 hstep, ih.2.trans (advances_step ih.1 hstep)⟩

theorem accounted_run (hchallenges : start.db.attestationChallenges = [])
    (hrun : Run (attestedMiddleware cfg) start trace last) :
    Accounted trace last := by
  induction hrun with
  | refl =>
      refine ⟨?_, fun id => Nat.zero_le _, fun id hpos => ?_⟩
      · simp [DistinctChallenges, hchallenges]
      · exact absurd hpos (Nat.lt_irrefl 0)
  | snoc _ hstep ih => exact accounted_step ih hstep

theorem distinctKeys_initial (hinit : IsInitial start) :
    DistinctKeys start.db.devices := by
  refine ⟨hinit.devices, ?_⟩
  intro device hdevice other _ keyId hkey _
  have hnone : device.appAttestKeyId = none :=
    congrArg Attestation.keyId (hinit.blank device hdevice)
  rw [hnone] at hkey
  cases hkey

/-- Of two assertions accepted one after the other, with one key or for one
device, the second counts further. -/
theorem count_lt_of_asserts {mid : List (State × Action)}
    {s₁ s₁' s₂ s₂' : State} {deviceId deviceId' : ℕ} {keyId keyId' : String}
    {count count' : ℕ} (hdistinct : DistinctKeys s₁'.db.devices)
    (hfirst : Counted s₁ s₁' deviceId keyId count)
    (hmid : Run (attestedMiddleware cfg) s₁' mid s₂)
    (hsecond : Counted s₂ s₂' deviceId' keyId' count')
    (hsame : keyId = keyId' ∨ deviceId = deviceId') : count < count' := by
  obtain ⟨hkeys, hadvances⟩ := advances_run hdistinct hmid
  obtain ⟨old, -, -, -, hpos⟩ := hfirst.before
  obtain ⟨device, hdevice, hid, hkey, hcounter⟩ := hfirst.after
  obtain ⟨device', hdevice', hid', hless, hstays⟩ := hadvances device hdevice
  have hkey' : device'.appAttestKeyId = some keyId :=
    (hstays (by omega)).trans hkey
  obtain ⟨other, hother, hotherId, hotherKey, hcount'⟩ := hsecond.before
  have hrow : device'.id = other.id := by
    rcases hsame with rfl | rfl
    · exact hkeys.keys device' hdevice' other hother keyId hkey' hotherKey
    · exact (hid'.trans hid).trans hotherId.symm
  obtain rfl := eq_of_key hkeys.ids hdevice' hother hrow
  omega

/-- Challenges and assertions are used once. -/
theorem single_use (hinit : IsInitial start)
    (hrun : Run (attestedMiddleware cfg) start trace last) :
    (∀ entry ∈ trace, ∀ id, consumes entry.1 entry.2 = some id →
      ∃ input row, entry.2 = .verify input ∧ IsOpen entry.1 input row ∧
        row.id = id) ∧
    (∀ id, consumptions id trace ≤ 1) ∧
    (∀ entry ∈ trace, ∀ next, step cfg entry.1 entry.2 = some next →
      Advances entry.1.db.devices next.db.devices ∧
      ∀ deviceId keyId assertion,
        Asserts cfg entry.1 entry.2 deviceId keyId assertion →
          ∃ count, Counted entry.1 next deviceId keyId count) ∧
    (∀ before first mid second after,
      trace = before ++ first :: (mid ++ second :: after) →
      ∀ deviceId deviceId' keyId keyId' assertion assertion',
        Asserts cfg first.1 first.2 deviceId keyId assertion →
        Asserts cfg second.1 second.2 deviceId' keyId' assertion' →
        keyId = keyId' ∨ deviceId = deviceId' → assertion ≠ assertion') := by
  have hkeys := distinctKeys_initial hinit
  refine ⟨fun entry _ id hconsumes => isOpen_of_consumes hconsumes,
    (accounted_run hinit.challenges hrun).once, ?_, ?_⟩
  · intro entry hentry next hstep
    obtain ⟨earlier, -, -, -, hbefore, -⟩ := hrun.exists_prefix hentry
    refine ⟨advances_step (advances_run hkeys hbefore).1 hstep, ?_⟩
    intro deviceId keyId assertion hasserts
    obtain ⟨count, -, hcounted⟩ := counted_of_asserts hasserts hstep
    exact ⟨count, hcounted⟩
  · rintro before first mid second after rfl deviceId deviceId' keyId keyId'
      assertion assertion' hfirst hsecond hsame rfl
    obtain ⟨next, hbefore, hstep, hrest⟩ := hrun.exists_split
    obtain ⟨next', hmid, hstep', -⟩ := hrest.exists_split
    obtain ⟨count, hcounts, hcounted⟩ := counted_of_asserts hfirst hstep
    obtain ⟨count', hcounts', hcounted'⟩ := counted_of_asserts hsecond hstep'
    have hdistinct := distinctKeys_step (advances_run hkeys hbefore).1 hstep
    have hless := count_lt_of_asserts hdistinct hcounted hmid hcounted' hsame
    exact absurd (hcounts.unique hcounts') hless.ne

end Runs

/-! ## One registration and one assertion -/

section Asserted

open VpnMiddleware.KeyRegistration

/-- `authData` of the first assertion with a key. -/
def firstAuthData : List UInt8 :=
  byteSum (WebText.utf8Encode "TEAM.app") ++ [0, 0, 0, 0, 1]

def assertingApple : AppleCrypto :=
  { smallApple with
    decodeAssertion := fun bytes =>
      if bytes = [6] then some ⟨some [], some firstAuthData⟩ else none
    verifySignature := fun _ _ _ => some true }

def assertingConfig : AttestedMiddleware.Config where
  attest := { smallConfig.attest with appleCrypto := assertingApple }

/-- The small deployment before any attestation. -/
def blankDeployment : State where
  core := { world := { db :=
    { Middleware.smallDb with devices := [{ id := 1, userId := 1 }] } } }

theorem isInitial_blankDeployment : IsInitial blankDeployment where
  core := ⟨rfl, rfl, rfl, rfl, fun _ => rfl, rfl, rfl, rfl⟩
  devices := by simp [blankDeployment]
  blank := by simp [blankDeployment, attestationOf, unattested]
  challenges := rfl
  calls := rfl

def registering : IosAttestation where
  mode := .attest
  keyId := phoneKeyId
  attestation := some (String.ofList (Base64.encode [3]))

def asserting : IosAttestation where
  mode := .assert
  keyId := phoneKeyId
  assertion := some (String.ofList (Base64.encode [6]))

/-- A key is registered, then the app asserts with it. -/
def registerThenAssert : List Action :=
  [.createChallenge 1 1 serverBytes,
    .verify ⟨1, 1, phoneKey, .ios registering⟩,
    .resume 0 (.error none),
    .createChallenge 2 1 serverBytes,
    .verify ⟨1, 2, phoneKey, .ios asserting⟩,
    .resume 0 (.error none)]

/-- The assertion is accepted, and each challenge was consumed once. -/
theorem single_use_asserted : ∃ trace last,
    Run (attestedMiddleware assertingConfig) blankDeployment trace last ∧
      last.db.devices.map Device.appAttestCounter = [1] ∧
      ∀ id, consumptions id trace ≤ 1 := by
  obtain ⟨last, hrun, hcounter⟩ :=
    @exists_run_with _ _ (attestedMiddleware assertingConfig) blankDeployment
      registerThenAssert
      (fun last => last.db.devices.map Device.appAttestCounter = [1]) _
      (by decide +kernel)
  exact ⟨_, last, hrun, hcounter,
    (single_use isInitial_blankDeployment hrun).2.1⟩

end Asserted

end VpnMiddleware.SingleUse
