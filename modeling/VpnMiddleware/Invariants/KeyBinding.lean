import VpnMiddleware.Invariants.Funding
import VpnMiddleware.Invariants.Principals
import VpnMiddleware.Invariants.SingleUse

/-!
# The key that a payload is encrypted to

Every encrypted payload goes back, event by event, to an attestation of its
device: the session was created by a connect, the connect was admitted while
the window of a verify was open, the verify accepted an attestation over the
key and a challenge, and the challenge was issued to the device.
-/

namespace VpnMiddleware.KeyBinding

open VpnMiddleware.Schema VpnMiddleware.Errors VpnMiddleware.Database
open VpnMiddleware.Transaction VpnMiddleware.TransitionSystem VpnMiddleware.Pool
open VpnMiddleware.Table VpnMiddleware.PlayIntegrityVerifier
open VpnMiddleware.AppAttestVerifier VpnMiddleware.AttestService
open VpnMiddleware.AttestedMiddleware VpnMiddleware.SingleUse
open VpnMiddleware.ConnectionService VpnMiddleware.ConnectFlow
open VpnMiddleware.Evolution

/-- The recorded steps of a run. -/
abbrev Trace := List (State × AttestedMiddleware.Action)

/-! ## The events -/

section Events

variable (cfg : AttestedMiddleware.Config)

/-- A challenge is issued to a device. -/
def Issues (deviceId challengeId : ℕ) (challenge : List UInt8) (_ : Trace)
    (s : State) (act : AttestedMiddleware.Action) : Prop :=
  ∃ bytes result, act = .createChallenge challengeId deviceId bytes ∧
    (withTransaction (AttestService.createChallenge cfg.attest s.clock
      challengeId deviceId bytes) s.db).1 = .ok result ∧
    challenge = challengeBytes bytes

/-- A call of `verify` consumes a challenge of its device. -/
def Begins (input : VerifyInput) (challenge : List UInt8) (before : Trace)
    (s : State) (act : AttestedMiddleware.Action) : Prop :=
  act = .verify input ∧ consumes s act = some input.challengeId ∧
    Earlier before (Issues cfg input.deviceId input.challengeId challenge)

/-- The verdict that the call gets from Google carries the hash. -/
def Decodes (input : VerifyInput) (challenge : List UInt8) (_ : Trace)
    (s : State) (act : AttestedMiddleware.Action) : Prop :=
  ∃ i payload details proc, act = .resume i (.ok (some payload)) ∧
    s.calls[i]? = some proc ∧ proc.input = input ∧
    payload.requestDetails = some details ∧
    details.requestHash = some (requestHash cfg.attest.appleCrypto.sha256
      input.clientPubKey challenge)

/-- What was accepted attests to the hash of the key and the challenge. -/
inductive Attests (input : VerifyInput) (challenge : List UInt8)
    (before : Trace) (s : State) : Prop
  | verdict {token : String} : input.attestation = .android token →
      Earlier before (Decodes cfg input challenge) →
      Attests input challenge before s
  | attestation {ios : IosAttestation} {attestation : String} :
      input.attestation = .ios ios → ios.mode = .attest →
      ios.attestation = some attestation →
      AttestsTo cfg.attest.appleCrypto attestation
        (clientDataHash cfg.attest.appleCrypto input.clientPubKey challenge) →
      Attests input challenge before s
  | assertion {ios : IosAttestation} {assertion : String} {device : Device}
      {key : List UInt8} :
      input.attestation = .ios ios → ios.mode = .assert →
      ios.assertion = some assertion → device ∈ s.db.devices →
      device.id = input.deviceId → device.appAttestPublicKey = some key →
      SignsTo cfg.attest.appleCrypto assertion key
        (clientDataHash cfg.attest.appleCrypto input.clientPubKey challenge) →
      Attests input challenge before s

/-- A call of `verify` succeeds and sets the window of its device. -/
def Verifies (deviceId : ℕ) (key : List UInt8) (attestedUntil : ℕ)
    (before : Trace) (s : State) (act : AttestedMiddleware.Action) : Prop :=
  ∃ i reply proc challenge, act = .resume i reply ∧
    s.calls[i]? = some proc ∧
    (proc.resume cfg.attest s.clock reply s.db).1 = .done (.ok ()) ∧
    proc.input.deviceId = deviceId ∧ proc.input.clientPubKey = key ∧
    attestedUntil = s.clock + cfg.attest.attestationTtlMs ∧
    Earlier before (Begins cfg proc.input challenge) ∧
    Attests cfg proc.input challenge before s

/-- The guard admits a connect. -/
def Admits (input : ConnectInput) (_ : Trace) (s : State)
    (act : AttestedMiddleware.Action) : Prop :=
  ∃ presented,
    act = .core (.requestConnect input.userId input.deviceId presented) ∧
    Middleware.checkRequest s.clock input.userId input.deviceId presented s.db =
      .ok input

/-- The window of a verify of the device and the key is open. -/
def HasOpenWindow (input : ConnectInput) (before : Trace) (s : State) : Prop :=
  ∃ attestedUntil, s.clock < attestedUntil ∧
    Earlier before (Verifies cfg input.deviceId input.clientPubKey attestedUntil)

/-- An admitted connect inserts a session. -/
def Creates (input : ConnectInput) (sessionId : ℕ) (before : Trace) (s : State)
    (act : AttestedMiddleware.Action) : Prop :=
  ∃ core after plan draw tx, act = .core core ∧
    CommitsPhaseA cfg.middleware s.core core after input plan draw tx ∧
    draw.sessionId = sessionId ∧ Earlier before (Admits input)

end Events

/-! ## What the state remembers -/

def inputOf : ConnectProc → ConnectInput
  | .admitted input => input
  | .resolved input _ => input
  | .provisioning provision => provision.input

/-- The session of a connect has the device and the key of its input. -/
def HoldsKey (db : Db) (provision : Provision) : Prop :=
  ∃ row ∈ db.sessions, row.id = provision.tx.sessionId ∧
    row.deviceId = provision.input.deviceId ∧
    row.clientPublicKey = some provision.input.clientPubKey

section Remembered

variable (cfg : AttestedMiddleware.Config) (trace : Trace)

/-- Where a call of `verify` stands. -/
inductive StageBound (input : VerifyInput) (challenge : List UInt8) :
    VerifyStage → Prop
  | decode {token : String} : input.attestation = .android token →
      StageBound input challenge (.decode token challenge)
  | persist {token : String} {snapshot : TokenPayload} :
      input.attestation = .android token →
      Earlier trace (Decodes cfg input challenge) →
      StageBound input challenge (.persist snapshot challenge)
  | ios {ios : IosAttestation} : input.attestation = .ios ios →
      StageBound input challenge (.ios ios challenge)

def CallBound (proc : AttestProc) : Prop :=
  ∃ challenge, Earlier trace (Begins cfg proc.input challenge) ∧
    StageBound cfg trace proc.input challenge proc.stage

def DeviceBound (device : Device) : Prop :=
  ∀ key attestedUntil, device.attestedClientPublicKey = some key →
    device.attestedUntil = some attestedUntil →
      Earlier trace (Verifies cfg device.id key attestedUntil)

def SessionBound (row : Session) : Prop :=
  ∃ input : ConnectInput, row.deviceId = input.deviceId ∧
    row.clientPublicKey = some input.clientPubKey ∧
    Earlier trace (Creates cfg input row.id)

/-- Everything that leads to a payload goes back to an event of the run. -/
structure Remembers (s : State) : Prop where
  keyed : Keyed s.db
  challenges : ∀ row ∈ s.db.attestationChallenges,
    Earlier trace (Issues cfg row.deviceId row.id row.challenge)
  calls : ∀ proc ∈ s.calls, CallBound cfg trace proc
  devices : ∀ device ∈ s.db.devices, DeviceBound cfg trace device
  connects : ∀ proc ∈ s.core.connects, Earlier trace (Admits (inputOf proc))
  sessions : ∀ row ∈ s.db.sessions, SessionBound cfg trace row
  provisions : ∀ provision, .provisioning provision ∈ s.core.connects →
    HoldsKey s.db provision

end Remembered

section Lasting

variable {cfg : AttestedMiddleware.Config} {trace : Trace}

theorem CallBound.append {proc : AttestProc} (hbound : CallBound cfg trace proc)
    (more : Trace) : CallBound cfg (trace ++ more) proc := by
  obtain ⟨challenge, hbegins, hstage⟩ := hbound
  refine ⟨challenge, hbegins.append more, ?_⟩
  generalize proc.stage = stage at hstage
  cases hstage with
  | decode hinput => exact .decode hinput
  | persist hinput hdecodes => exact .persist hinput (hdecodes.append more)
  | ios hinput => exact .ios hinput

theorem DeviceBound.append {device : Device}
    (hbound : DeviceBound cfg trace device) (more : Trace) :
    DeviceBound cfg (trace ++ more) device :=
  fun key attestedUntil hkey huntil =>
    (hbound key attestedUntil hkey huntil).append more

theorem SessionBound.append {row : Session} (hbound : SessionBound cfg trace row)
    (more : Trace) : SessionBound cfg (trace ++ more) row := by
  obtain ⟨input, hdevice, hkey, hcreates⟩ := hbound
  exact ⟨input, hdevice, hkey, hcreates.append more⟩

end Lasting

/-! ## Steps -/

section Steps

variable {cfg : AttestedMiddleware.Config} {trace : Trace} {s s' : State}
variable {act : AttestedMiddleware.Action}

/-- The tables and processes that attestation leaves alone. -/
structure SameSessions (s s' : State) : Prop where
  sessions : s'.db.sessions = s.db.sessions
  grants : s'.db.grants = s.db.grants
  panelOps : s'.db.panelOps = s.db.panelOps
  connects : s'.core.connects = s.core.connects

/-- A step is one of the middleware's own, or leaves its tables alone. -/
theorem core_or_same (hstep : step cfg s act = some s') :
    (∃ core, act = .core core ∧
      Middleware.step cfg.middleware s.core core = some s'.core) ∨
      SameSessions s s' := by
  cases stepCase hstep with
  | core _ hcore _ => exact Or.inl ⟨_, rfl, hcore⟩
  | challenged _ hafter => exact Or.inr (hafter ▸ ⟨rfl, rfl, rfl, rfl⟩)
  | begun _ _ hafter => exact Or.inr (hafter ▸ ⟨rfl, rfl, rfl, rfl⟩)
  | resumed _ _ hresumes hafter =>
      right
      rw [hafter]
      cases hresumes <;> exact ⟨rfl, rfl, rfl, rfl⟩
  | refusedChallenge hafter => exact Or.inr (hafter ▸ ⟨rfl, rfl, rfl, rfl⟩)
  | refusedVerify _ hafter => exact Or.inr (hafter ▸ ⟨rfl, rfl, rfl, rfl⟩)
  | crashed hafter => exact Or.inr (hafter ▸ ⟨rfl, rfl, rfl, rfl⟩)

theorem keyed_step (hkeyed : Keyed s.db) (hstep : step cfg s act = some s') :
    Keyed s'.db := by
  rcases core_or_same hstep with ⟨core, -, hcore⟩ | hsame
  · exact Keys.keyed_step hkeyed hcore
  · refine ⟨⟨?_, ?_⟩, ?_, ?_⟩
    · rw [hsame.sessions]
      exact hkeyed.ids
    · rw [hsame.sessions]
      exact hkeyed.usernames
    · rw [hsame.grants]
      exact hkeyed.grants
    · rw [hsame.panelOps]
      exact hkeyed.panelOps

/-! ### Challenges and calls -/

/-- A challenge that a step adds was issued by it. -/
theorem issues_of_step {id deviceId : ℕ} {bytes : Random.Bytes}
    (hstep : step cfg s (.createChallenge id deviceId bytes) = some s')
    {row : AttestationChallenge} (hrow : row ∈ s'.db.attestationChallenges) :
    row ∈ s.db.attestationChallenges ∨
      Issues cfg row.deviceId row.id row.challenge trace s
        (.createChallenge id deviceId bytes) := by
  obtain rfl := Option.some.inj hstep
  cases hrun : withTransaction (AttestService.createChallenge cfg.attest s.clock
      id deviceId bytes) s.db with
  | mk outcome after =>
      simp only [State.createChallenge, hrun, State.withDb] at hrow
      cases outcome with
      | error failure =>
          rw [withTransaction_error hrun] at hrow
          exact Or.inl hrow
      | ok result =>
          rw [(createChallenge_ok (withTransaction_ok hrun)).2] at hrow
          rcases List.mem_append.mp hrow with hold | hnew
          · exact Or.inl hold
          · right
            obtain rfl := List.mem_singleton.mp hnew
            refine ⟨bytes, result, rfl, ?_, rfl⟩
            exact congrArg Prod.fst hrun

theorem challenges_step (hremembers : Remembers cfg trace s)
    (hstep : step cfg s act = some s') :
    ∀ row ∈ s'.db.attestationChallenges, Earlier (trace ++ [(s, act)])
      (Issues cfg row.deviceId row.id row.challenge) := by
  have hold : ∀ row ∈ s.db.attestationChallenges,
      Earlier (trace ++ [(s, act)])
        (Issues cfg row.deviceId row.id row.challenge) := fun row hrow =>
    (hremembers.challenges row hrow).append _
  intro row hrow
  cases stepCase hstep with
  | core _ hcore _ =>
      rw [challenges_core hcore] at hrow
      exact hold row hrow
  | challenged _ _ =>
      rcases @issues_of_step cfg trace _ _ _ _ _ hstep row hrow with
        hmem | hissues
      · exact hold row hmem
      · exact .last hissues
  | begun _ _ hafter =>
      rw [hafter] at hrow
      obtain ⟨old, hmem, rfl⟩ := mem_updateWhere.mp hrow
      have hbound := hold old hmem
      split_ifs <;> exact hbound
  | resumed _ _ hresumes hafter =>
      rw [hafter] at hrow
      exact hold row (challenges_resumes hresumes ▸ hrow)
  | refusedChallenge hafter => exact hold row (hafter ▸ hrow)
  | refusedVerify _ hafter => exact hold row (hafter ▸ hrow)
  | crashed hafter =>
      rw [hafter] at hrow
      exact hold row hrow

/-- A call that a step begins has consumed an open challenge. -/
theorem begins_of_step {input : VerifyInput}
    (hstep : step cfg s (.verify input) = some s') {proc : AttestProc}
    (hproc : proc ∈ s'.calls) :
    proc ∈ s.calls ∨ ∃ row, IsOpen s input row ∧
      consumes s (.verify input) = some input.challengeId ∧
      proc = ⟨input, stageOf row.challenge input.attestation⟩ := by
  obtain rfl := Option.some.inj hstep
  cases hbegin : beginVerify s.clock input s.db with
  | mk outcome after =>
      simp only [State.verify, hbegin] at hproc
      cases outcome with
      | error failure => exact Or.inl hproc
      | ok begun =>
          obtain ⟨row, hopen, -, -, rfl⟩ := begins hbegin
          rcases List.mem_append.mp hproc with hold | hnew
          · exact Or.inl hold
          · refine Or.inr ⟨row, hopen, ?_, List.mem_singleton.mp hnew⟩
            simp only [consumes, hbegin]

theorem calls_step (hremembers : Remembers cfg trace s)
    (hstep : step cfg s act = some s') :
    ∀ proc ∈ s'.calls, CallBound cfg (trace ++ [(s, act)]) proc := by
  have hold : ∀ proc ∈ s.calls, CallBound cfg (trace ++ [(s, act)]) proc :=
    fun proc hproc => (hremembers.calls proc hproc).append _
  intro proc hproc
  cases stepCase hstep with
  | core _ _ hcalls => exact hold proc (hcalls ▸ hproc)
  | challenged _ hafter =>
      rw [hafter] at hproc
      exact hold proc hproc
  | @begun input _ _ _ _ =>
      rcases begins_of_step hstep hproc with hmem | ⟨row, hopen, hconsumes, rfl⟩
      · exact hold proc hmem
      · have hissued := hremembers.challenges row hopen.mem
        rw [hopen.id, hopen.deviceId] at hissued
        refine ⟨row.challenge, .last ⟨rfl, hconsumes, hissued⟩, ?_⟩
        cases hinput : input.attestation with
        | android token => exact .decode hinput
        | ios payload => exact .ios hinput
  | @resumed i reply current continued after hcurrent _ hresumes hafter =>
      rw [hafter] at hproc
      rcases mem_settle hproc with hmem | hnext
      · exact hold proc hmem
      · cases hresumes with
        | @decoded token challenge payload hstage hverify =>
            obtain rfl := Option.some.inj hnext
            obtain ⟨rfl, details, hdetails, hhash⟩ :=
              requestHash_of_verify hverify
            obtain ⟨issued, hbegins, hbound⟩ :=
              hremembers.calls current (List.mem_of_getElem? hcurrent)
            rw [hstage] at hbound
            cases hbound with
            | decode hinput =>
                refine ⟨_, hbegins.append _, .persist hinput (.last ?_)⟩
                exact ⟨i, payload, details, current, rfl, hcurrent, rfl,
                  hdetails, hhash⟩
        | refused failure => cases hnext
        | persisted _ => cases hnext
        | accepted _ _ => cases hnext
  | refusedChallenge hafter => exact hold proc (hafter ▸ hproc)
  | refusedVerify _ hafter => exact hold proc (hafter ▸ hproc)
  | crashed hafter =>
      rw [hafter] at hproc
      exact hold proc (List.mem_of_mem_eraseIdx hproc)

/-! ### Devices -/

/-- What a call that succeeds has accepted. -/
theorem verifies_of_resume (hremembers : Remembers cfg trace s) {i : ℕ}
    {reply : DecodeReply} {proc : AttestProc} {after : Db}
    (hproc : s.calls[i]? = some proc)
    (hresume : proc.resume cfg.attest s.clock reply s.db = (.done (.ok ()), after))
    (hresumes : Resumes cfg.attest s.clock proc reply s.db (.done (.ok ()))
      after) :
    Verifies cfg proc.input.deviceId proc.input.clientPubKey
      (s.clock + cfg.attest.attestationTtlMs) trace s (.resume i reply) := by
  obtain ⟨challenge, hbegins, hbound⟩ :=
    hremembers.calls proc (List.mem_of_getElem? hproc)
  refine ⟨i, reply, proc, challenge, rfl, hproc, congrArg Prod.fst hresume, rfl,
    rfl, rfl, hbegins, ?_⟩
  cases hresumes with
  | persisted hstage =>
      rw [hstage] at hbound
      cases hbound with
      | persist hinput hdecodes => exact .verdict hinput hdecodes
  | accepted hstage haccepted =>
      rw [hstage] at hbound
      cases hbound with
      | ios hinput =>
          cases haccepted with
          | attest hmode hattestation _ hverified =>
              exact .attestation hinput hmode hattestation
                (attestsTo_of_verify hverified)
          | assert hmode hassertion hdevice hid hkey _ hverified =>
              exact .assertion hinput hmode hassertion hdevice hid hkey
                (signsTo_of_verify hverified)

/-- The columns that open the gate are those of the last verify. -/
theorem deviceBound_attested (hremembers : Remembers cfg trace s) {i : ℕ}
    {reply : DecodeReply} {proc : AttestProc} {db : Db}
    {change : Device → Device}
    (hverifies : Verifies cfg proc.input.deviceId proc.input.clientPubKey
      (s.clock + cfg.attest.attestationTtlMs) trace s (.resume i reply))
    (hdb : db.devices = s.db.devices)
    (hid : ∀ device, (change device).id = device.id) {device : Device}
    (hdevice : device ∈ (changeDevice proc.input.deviceId
      (attested cfg.attest s.clock proc.input.clientPubKey ∘ change)
        db).devices) :
    DeviceBound cfg (trace ++ [(s, .resume i reply)]) device := by
  obtain ⟨old, hold, rfl⟩ := mem_changeDevice.mp hdevice
  rw [hdb] at hold
  split_ifs with hchanged
  · intro key attestedUntil hkey huntil
    obtain rfl : proc.input.clientPubKey = key := Option.some.inj hkey
    obtain rfl : s.clock + cfg.attest.attestationTtlMs = attestedUntil :=
      Option.some.inj huntil
    have hsame : (change old).id = proc.input.deviceId :=
      (hid old).trans hchanged
    rw [← hsame] at hverifies
    exact .last hverifies
  · exact (hremembers.devices old hold).append _

theorem devices_step (hremembers : Remembers cfg trace s)
    (hstep : step cfg s act = some s') :
    ∀ device ∈ s'.db.devices, DeviceBound cfg (trace ++ [(s, act)]) device := by
  have hold : ∀ device ∈ s.db.devices,
      DeviceBound cfg (trace ++ [(s, act)]) device := fun device hdevice =>
    (hremembers.devices device hdevice).append _
  intro device hdevice
  cases stepCase hstep with
  | core hpermitted hcore _ =>
      rcases (devices_core hpermitted hcore).mem hdevice with
        ⟨old, hmem, hsame⟩ | hblank
      · intro key attestedUntil hkey huntil
        have hid : device.id = old.id := congrArg Attestation.deviceId hsame
        rw [hid]
        exact hold old hmem key attestedUntil
          ((congrArg Attestation.clientPublicKey hsame).symm.trans hkey)
          ((congrArg Attestation.attestedUntil hsame).symm.trans huntil)
      · intro key attestedUntil hkey _
        have hnone : device.attestedClientPublicKey = none :=
          congrArg Attestation.clientPublicKey hblank
        rw [hnone] at hkey
        cases hkey
  | resumed hproc hresume hresumes hafter =>
      rw [hafter] at hdevice
      cases hresumes with
      | decoded _ _ => exact hold device hdevice
      | refused _ => exact hold device hdevice
      | persisted hstage =>
          refine deviceBound_attested hremembers
            (verifies_of_resume hremembers hproc hresume (.persisted hstage)) rfl
            ?_ hdevice
          exact fun _ => rfl
      | accepted hstage haccepted =>
          exact deviceBound_attested hremembers
            (verifies_of_resume hremembers hproc hresume
              (.accepted hstage haccepted)) rfl haccepted.keeps_id hdevice
  | challenged _ hafter =>
      rw [hafter] at hdevice
      exact hold device hdevice
  | begun _ _ hafter =>
      rw [hafter] at hdevice
      exact hold device hdevice
  | refusedChallenge hafter => exact hold device (hafter ▸ hdevice)
  | refusedVerify _ hafter => exact hold device (hafter ▸ hdevice)
  | crashed hafter =>
      rw [hafter] at hdevice
      exact hold device hdevice

/-! ### Connects and sessions -/

/-- An admission passed the gate with the attested key of an open window. -/
theorem checkRequest_ok {now userId deviceId : ℕ}
    {presented : Option (List UInt8)} {db : Db} {input : ConnectInput}
    (hcheck : Middleware.checkRequest now userId deviceId presented db =
      .ok input) :
    input.userId = userId ∧ input.deviceId = deviceId ∧
      ∃ device ∈ db.devices, device.id = deviceId ∧
        device.attestedClientPublicKey = some input.clientPubKey ∧
        ∃ attestedUntil, device.attestedUntil = some attestedUntil ∧
          now < attestedUntil := by
  rw [Middleware.checkRequest] at hcheck
  cases hrun : withTransaction (AttestedGuard.canActivate now deviceId presented)
      db with
  | mk outcome after =>
      cases outcome with
      | error cause =>
          rw [hrun] at hcheck
          cases hcheck
      | ok key =>
          rw [hrun] at hcheck
          dsimp only at hcheck
          split_ifs at hcheck
          obtain rfl := Except.ok.inj hcheck
          have hok := withTransaction_ok hrun
          obtain ⟨device, user, hrow, -, hattested, hkey⟩ :=
            AttestedGuard.canActivate_ok hok
          obtain ⟨hmem, hid, -⟩ := AttestedGuard.deviceRow_eq hrow
          simp only [AttestedGuard.isAttested, Bool.and_eq_true,
            Option.any_eq_true, decide_eq_true_eq] at hattested
          obtain ⟨-, attestedUntil, huntil, htime⟩ := hattested
          exact ⟨rfl, rfl, device, hmem, hid, hkey, attestedUntil, huntil, htime⟩

/-- Whatever is admitted, the window of a verify is open. -/
theorem hasOpenWindow_of_admits (hremembers : Remembers cfg trace s)
    {input : ConnectInput} (hadmits : Admits input trace s act) :
    HasOpenWindow cfg input trace s := by
  obtain ⟨presented, -, hcheck⟩ := hadmits
  obtain ⟨-, -, device, hdevice, hid, hkey, attestedUntil, huntil, htime⟩ :=
    checkRequest_ok hcheck
  refine ⟨attestedUntil, htime, ?_⟩
  have hbound := hremembers.devices device hdevice _ _ hkey huntil
  rwa [hid] at hbound

/-- Where the connects after a step come from. -/
theorem inputOf_step {core : Middleware.Action}
    (hstep : Middleware.step cfg.middleware s.core core = some s'.core)
    {next : ConnectProc} (hnext : next ∈ s'.core.connects) :
    (∃ proc ∈ s.core.connects, inputOf next = inputOf proc) ∨
      Admits (inputOf next) trace s (.core core) := by
  have hsame : s'.core.connects = s.core.connects →
      ∃ proc ∈ s.core.connects, inputOf next = inputOf proc := fun hsame =>
    ⟨next, hsame ▸ hnext, rfl⟩
  cases core with
  | requestConnect userId deviceId presented =>
      simp only [Middleware.step, Middleware.perform,
        Middleware.State.requestConnect, Option.map_some,
        Option.some.injEq] at hstep
      cases hcheck : Middleware.checkRequest s.core.world.clock userId deviceId
          presented s.core.world.db with
      | error cause =>
          rw [hcheck] at hstep
          exact Or.inl (hsame (by rw [← hstep]))
      | ok input =>
          rw [hcheck] at hstep
          rw [← hstep] at hnext
          rcases List.mem_append.mp hnext with hold | hnew
          · exact Or.inl ⟨next, hold, rfl⟩
          · right
            obtain rfl := List.mem_singleton.mp hnew
            obtain ⟨rfl, rfl, -⟩ := checkRequest_ok hcheck
            exact ⟨presented, rfl, hcheck⟩
  | connect i draw reply =>
      left
      obtain ⟨proc, hproc, hafter⟩ := Middleware.step_connect hstep
      rw [hafter] at hnext
      rcases mem_settle hnext with hold | hresumed
      · exact ⟨next, hold, rfl⟩
      · refine ⟨proc, List.mem_of_getElem? hproc, ?_⟩
        cases connect_next hresumed <;> rfl
  | crashConnect i =>
      left
      rw [Middleware.step_crashConnect hstep] at hnext
      exact ⟨next, List.mem_of_mem_eraseIdx hnext, rfl⟩
  | advance ms =>
      exact Or.inl (hsame (by rw [Middleware.step_advance hstep]))
  | operate op =>
      exact Or.inl (hsame (by rw [Middleware.step_operate hstep]))
  | verifyAdReward input =>
      exact Or.inl (hsame (by rw [Middleware.step_verifyAdReward hstep]))
  | verify i reply =>
      obtain ⟨_, -, hafter⟩ := Middleware.step_verify hstep
      exact Or.inl (hsame (by rw [hafter]))
  | claim locked =>
      left
      apply hsame
      rw [Middleware.step_claim hstep]
      rw [Middleware.State.claim]
      split <;> rfl
  | drain i reply =>
      obtain ⟨_, -, hafter⟩ := Middleware.step_drain hstep
      exact Or.inl (hsame (by rw [hafter]))
  | crashVerify i =>
      exact Or.inl (hsame (by rw [Middleware.step_crashVerify hstep]))
  | crashDrain i =>
      exact Or.inl (hsame (by rw [Middleware.step_crashDrain hstep]))

theorem connects_step (hremembers : Remembers cfg trace s)
    (hstep : step cfg s act = some s') :
    ∀ proc ∈ s'.core.connects,
      Earlier (trace ++ [(s, act)]) (Admits (inputOf proc)) := by
  intro proc hproc
  rcases core_or_same hstep with ⟨core, rfl, hcore⟩ | hsame
  · rcases @inputOf_step cfg trace _ _ _ hcore _ hproc with
      ⟨old, hold, hinput⟩ | hadmits
    · rw [hinput]
      exact (hremembers.connects old hold).append _
    · exact .last hadmits
  · exact (hremembers.connects proc (hsame.connects ▸ hproc)).append _

theorem sessions_step (hremembers : Remembers cfg trace s)
    (hstep : step cfg s act = some s') :
    ∀ row ∈ s'.db.sessions, SessionBound cfg (trace ++ [(s, act)]) row := by
  intro row hrow
  rcases core_or_same hstep with ⟨core, rfl, hcore⟩ | hsame
  · rcases (step_effects hremembers.keyed hcore).sessions.backward hrow with
      ⟨old, hold, hchange⟩ | ⟨added, hadded, hmem⟩
    · have hbound := (hremembers.sessions old hold).append
        [(s, AttestedMiddleware.Action.core core)]
      cases hchange <;> exact hbound
    · cases hadded with
      | none => cases hmem
      | @phaseA input plan draw tx credentialRef hcommits _ _ =>
          obtain rfl := List.mem_singleton.mp hmem
          obtain ⟨i, reply, -, -, hproc⟩ := hcommits.acts
          refine ⟨input, rfl, rfl, .last ⟨core, _, plan, draw, tx, rfl, hcommits,
            rfl, ?_⟩⟩
          exact hremembers.connects _ (List.mem_of_getElem? hproc)
  · exact (hremembers.sessions row (hsame.sessions ▸ hrow)).append _

/-- The session of a connect stays its own. -/
theorem HoldsKey.step {core : Middleware.Action} (hkeyed : Keyed s.db)
    (hstep : Middleware.step cfg.middleware s.core core = some s'.core)
    {provision : Provision} (hholds : HoldsKey s.db provision) :
    HoldsKey s'.db provision := by
  obtain ⟨row, hrow, hid, hdevice, hkey⟩ := hholds
  obtain ⟨row', hrow', -, hchange⟩ :=
    Keys.exists_sessionChange hkeyed hstep hrow
  refine ⟨row', hrow', ?_⟩
  cases hchange <;> exact ⟨hid, hdevice, hkey⟩

theorem provisions_step (hremembers : Remembers cfg trace s)
    (hstep : step cfg s act = some s') :
    ∀ provision, .provisioning provision ∈ s'.core.connects →
      HoldsKey s'.db provision := by
  intro provision hmem
  rcases core_or_same hstep with ⟨core, rfl, hcore⟩ | hsame
  · rcases Middleware.connects_step hcore hmem with
      hold | ⟨input, hnew⟩ | ⟨i, draw, reply, proc, rfl, hproc, hresumed⟩
    · exact (hremembers.provisions provision hold).step hremembers.keyed hcore
    · cases hnew
    · cases hresumed with
      | @commit input plan tx _ hrun hreply =>
          subst hreply
          have hcommits : CommitsPhaseA cfg.middleware s.core
              (.connect i draw .ok) _ _ _ draw _ := ⟨⟨i, .ok, rfl, rfl, hproc⟩, hrun⟩
          obtain ⟨rows, mid, credentialRef, hcommit⟩ := connectTransaction_ok hrun
          refine ⟨insertedRow s.clock input plan tx.node draw credentialRef, ?_,
            hcommit.session_id.symm, rfl, rfl⟩
          rw [State.db, phaseA_db hcommits hcore, hcommit.sessions]
          exact List.mem_append_right _ (List.mem_singleton_self _)
      | @provision old stage _ =>
          have hholds := hremembers.provisions old (List.mem_of_getElem? hproc)
          exact hholds.step hremembers.keyed hcore
  · obtain ⟨row, hrow, hbound⟩ :=
      hremembers.provisions provision (hsame.connects ▸ hmem)
    exact ⟨row, hsame.sessions.symm ▸ hrow, hbound⟩

theorem remembers_step (hremembers : Remembers cfg trace s)
    (hstep : step cfg s act = some s') :
    Remembers cfg (trace ++ [(s, act)]) s' where
  keyed := keyed_step hremembers.keyed hstep
  challenges := challenges_step hremembers hstep
  calls := calls_step hremembers hstep
  devices := devices_step hremembers hstep
  connects := connects_step hremembers hstep
  sessions := sessions_step hremembers hstep
  provisions := provisions_step hremembers hstep

theorem remembers_initial (hinit : IsInitial s) : Remembers cfg [] s where
  keyed := Keys.keyed_initial hinit.core
  challenges := by simp [hinit.challenges]
  calls := by simp [hinit.calls]
  devices := by
    intro device hdevice key attestedUntil hkey _
    have hnone : device.attestedClientPublicKey = none :=
      congrArg Attestation.clientPublicKey (hinit.blank device hdevice)
    rw [hnone] at hkey
    cases hkey
  connects := by simp [hinit.core.connects]
  sessions := by simp [hinit.core.sessions]
  provisions := by simp [hinit.core.connects]

theorem remembers_run {start last : State} (hinit : IsInitial start)
    (hrun : Run (attestedMiddleware cfg) start trace last) :
    Remembers cfg trace last :=
  hrun.induction_on (remembers_initial hinit) fun _ _ _ _ hremembers hstep =>
    remembers_step hremembers hstep

end Steps

/-! ## Payloads -/

section Payloads

open VpnMiddleware.Funding VpnMiddleware.SessionConfigService

variable {cfg : AttestedMiddleware.Config} {trace : Trace} {s : State}
variable {payload : EncryptedPayload}

/-- The key of the payload is 32 bytes, and goes back to a verify of the
device of its session whose window was open at the admission. -/
structure IsAttested (cfg : AttestedMiddleware.Config) (before : Trace)
    (s : State) (payload : EncryptedPayload) : Prop where
  length : payload.clientPublicKey.length = 32
  session : ∃ row ∈ s.db.sessions, row.id = payload.sessionId ∧
    ∃ input : ConnectInput, row.deviceId = input.deviceId ∧
      input.clientPubKey = payload.clientPublicKey ∧
      Earlier before (Creates cfg input row.id) ∧
      ∀ earlier admitting act later,
        before = earlier ++ (admitting, act) :: later →
        Admits input earlier admitting act →
          HasOpenWindow cfg input earlier admitting

theorem key_of_payloadFor {middleware : Environment.Config} {sessionId : ℕ}
    {db : Db} (hread : AdsService.payloadFor middleware sessionId db =
      some payload) :
    payload.clientPublicKey.length = 32 ∧ ∃ row ∈ db.sessions,
      row.id = payload.sessionId ∧
      row.clientPublicKey = some payload.clientPublicKey := by
  obtain ⟨_, hrun⟩ := AdsService.payloadFor_eq_some hread
  obtain ⟨session, _, _, -, hsession, -, -, hkey, hlength, rfl⟩ :=
    encryptedPayloadForSession_ok hrun
  exact ⟨hlength, session, List.mem_of_find?_eq_some hsession,
    by simpa using List.find?_some hsession, hkey⟩

/-- Every payload is encrypted to the key in the row of its session. -/
theorem key_of_delivered (hremembers : Remembers cfg trace s)
    {act : Middleware.Action}
    (hdelivered : deliveredBy cfg.middleware s.core act = some payload) :
    payload.clientPublicKey.length = 32 ∧ ∃ row ∈ s.db.sessions,
      row.id = payload.sessionId ∧
      row.clientPublicKey = some payload.clientPublicKey := by
  cases delivers_of_deliveredBy hdelivered with
  | premium provision after hmem _ hbuilt =>
      obtain ⟨-, hlength, endpoint, rfl⟩ :=
        ConnectionService.buildPayload_ok hbuilt
      obtain ⟨row, hrow, hrowId, -, hrowKey⟩ :=
        hremembers.provisions provision hmem
      exact ⟨hlength, row, hrow, hrowId, hrowKey⟩
  | extension _ _ _ _ hread => exact key_of_payloadFor hread
  | replay _ _ _ _ _ _ hread => exact key_of_payloadFor hread

/-- Challenges are consumed once, and every payload that reaches a client is
encrypted to a key that was attested for the device of its session. -/
theorem payload_key_attested {start last : State} (hinit : IsInitial start)
    (hrun : Run (attestedMiddleware cfg) start trace last) :
    (∀ id, consumptions id trace ≤ 1) ∧
      ∀ before s act after, trace = before ++ (s, .core act) :: after →
        ∀ payload, deliveredBy cfg.middleware s.core act = some payload →
          IsAttested cfg before s payload := by
  refine ⟨(accounted_run hinit.challenges hrun).once, ?_⟩
  rintro before s act after rfl payload hdelivered
  obtain ⟨_, hbefore, -, -⟩ := hrun.exists_split
  have hremembers := remembers_run hinit hbefore
  obtain ⟨hlength, row, hrow, hid, hkey⟩ := key_of_delivered hremembers hdelivered
  obtain ⟨input, hdevice, hinputKey, hcreates⟩ := hremembers.sessions row hrow
  refine ⟨hlength, row, hrow, hid, input, hdevice,
    Option.some.inj (hinputKey.symm.trans hkey), hcreates, ?_⟩
  rintro earlier admitting act' later rfl hadmits
  obtain ⟨_, hearlier, -, -⟩ := hbefore.exists_split
  exact hasOpenWindow_of_admits (remembers_run hinit hearlier) hadmits

/-! ### A premium connect after an attestation -/

/-- The blank deployment with a premium subscription. -/
def premiumDeployment : State where
  core := { world := { db :=
    { Middleware.smallDb with
      devices := [{ id := 1, userId := 1 }]
      plans := [{ id := 1, code := "premium", tier := .premium }]
      subscriptions := [{
        id := 1
        userId := 1
        planId := 1
        source := .internal
        status := .active
        currentPeriodEnd := some 86400000 }] } } }

theorem isInitial_premiumDeployment : IsInitial premiumDeployment where
  core := ⟨rfl, rfl, rfl, rfl, fun _ => rfl, rfl, rfl, rfl⟩
  devices := by simp [premiumDeployment]
  blank := by simp [premiumDeployment, attestationOf, unattested]
  challenges := rfl
  calls := rfl

def attestAndConnect : List AttestedMiddleware.Action :=
  [.createChallenge 1 1 KeyRegistration.serverBytes,
    .verify ⟨1, 1, KeyRegistration.phoneKey, .ios registering⟩,
    .resume 0 (.error none),
    .core (.requestConnect 1 1 (some KeyRegistration.phoneKey))] ++
  List.replicate 5 (.core (.connect 0 Middleware.smallDraw .ok))

theorem premium_payload_attested : ∃ trace mid last payload,
    Run (attestedMiddleware assertingConfig) premiumDeployment
      (trace ++ [(mid, .core (.connect 0 Middleware.smallDraw .ok))]) last ∧
    deliveredBy {} mid.core (.connect 0 Middleware.smallDraw .ok) =
      some payload ∧ IsAttested assertingConfig trace mid payload := by
  obtain ⟨mid, last, hrun, -, htest⟩ := @exists_run_of_execute _ _
    (attestedMiddleware assertingConfig) premiumDeployment attestAndConnect
    (.core (.connect 0 Middleware.smallDraw .ok))
    (fun mid _ => (deliveredBy {} mid.core
      (.connect 0 Middleware.smallDraw .ok)).isSome = true) _ (by decide +kernel)
  obtain ⟨payload, hdelivered⟩ := Option.isSome_iff_exists.mp htest
  refine ⟨_, mid, last, payload, hrun, hdelivered, ?_⟩
  exact (payload_key_attested isInitial_premiumDeployment hrun).2 _ mid _ [] rfl
    payload hdelivered

end Payloads

end VpnMiddleware.KeyBinding
