import VpnMiddleware.Attest.AttestService
import VpnMiddleware.System.Frames

/-!
# The middleware with its attestation endpoints

The transition system of `System.Middleware` together with the calls of
`AttestService.verify`, each cut at its transactions.  Challenges are issued to
devices at any time, and the gate of `POST /connect` reads what the calls have
stored.
-/

namespace VpnMiddleware.AttestedMiddleware

open VpnMiddleware.Schema VpnMiddleware.Errors VpnMiddleware.Database
open VpnMiddleware.Transaction VpnMiddleware.TransitionSystem VpnMiddleware.Pool
open VpnMiddleware.PlayIntegrityVerifier VpnMiddleware.AttestService
open VpnMiddleware.Frame VpnMiddleware.Frames VpnMiddleware.Table

structure Config where
  middleware : Environment.Config := {}
  attest : AttestConfig

structure State where
  core : Middleware.State
  /-- Calls of `verify` that have consumed their challenge. -/
  calls : List AttestProc := []

namespace State

abbrev db (s : State) : Db := s.core.world.db

abbrev clock (s : State) : ℕ := s.core.world.clock

def withDb (s : State) (db : Db) : State :=
  { s with core := { s.core with world := { s.core.world with db := db } } }

end State

/-! ## The columns that attestation owns -/

structure Attestation where
  deviceId : ℕ
  keyId : Option String
  publicKey : Option (List UInt8)
  counter : ℕ
  isAttested : Bool
  attestedUntil : Option ℕ
  clientPublicKey : Option (List UInt8)
  deriving DecidableEq, Repr

def attestationOf (device : Device) : Attestation where
  deviceId := device.id
  keyId := device.appAttestKeyId
  publicKey := device.appAttestPublicKey
  counter := device.appAttestCounter
  isAttested := device.isAttested
  attestedUntil := device.attestedUntil
  clientPublicKey := device.attestedClientPublicKey

/-- The defaults of a device that a sign-in inserts. -/
def unattested (deviceId : ℕ) : Attestation where
  deviceId := deviceId
  keyId := none
  publicKey := none
  counter := 0
  isAttested := false
  attestedUntil := none
  clientPublicKey := none

/-- Sign-ins insert devices; nothing but `verify` writes these columns. -/
def keepsAttestation (before after : List Device) : Bool :=
  decide (after.map attestationOf = before.map attestationOf ++
      ((after.drop before.length).map Device.id).map unattested) &&
    decide ((after.map Device.id).Nodup)

/-- The reference tables are maintained by code that leaves attestation
alone. -/
def isPermitted (s : State) : Middleware.Action → Bool
  | .operate (.maintain tables) => keepsAttestation s.db.devices tables.devices
  | _ => true

/-! ## The system -/

inductive Action
  | core (act : Middleware.Action)
  | createChallenge (id deviceId : ℕ) (bytes : Random.Bytes)
  /-- A call of `verify` up to the end of Phase A. -/
  | verify (input : VerifyInput)
  /-- The next step of a call; Google's reply matters where it is asked. -/
  | resume (i : ℕ) (reply : DecodeReply)
  | crash (i : ℕ)

/-- The call that goes on. -/
def nextOf : Continued → Option AttestProc
  | .next proc => some proc
  | .done _ => none

variable (cfg : Config)

def State.createChallenge (s : State) (id deviceId : ℕ) (bytes : Random.Bytes) :
    State :=
  s.withDb (withTransaction (AttestService.createChallenge cfg.attest s.clock id
    deviceId bytes) s.db).2

def State.verify (s : State) (input : VerifyInput) : State :=
  match beginVerify s.clock input s.db with
  | (.ok proc, after) => { s.withDb after with calls := s.calls ++ [proc] }
  | (.error _, after) => s.withDb after

def State.resume (s : State) (i : ℕ) (reply : DecodeReply) : Option State :=
  s.calls[i]?.map fun proc =>
    let outcome := proc.resume cfg.attest s.clock reply s.db
    { s.withDb outcome.2 with calls := settle s.calls i (nextOf outcome.1) }

def step (s : State) : Action → Option State
  | .core act =>
      if isPermitted s act then
        (Middleware.step cfg.middleware s.core act).map fun core =>
          { s with core := core }
      else none
  | .createChallenge id deviceId bytes =>
      some (s.createChallenge cfg id deviceId bytes)
  | .verify input => some (s.verify input)
  | .resume i reply => s.resume cfg i reply
  | .crash i => some { s with calls := s.calls.eraseIdx i }

/-- Nothing has been connected, no device has been attested and no challenge
has been issued. -/
structure IsInitial (s : State) : Prop where
  core : Middleware.IsInitial s.core
  devices : (s.db.devices.map Device.id).Nodup
  blank : ∀ device ∈ s.db.devices,
    attestationOf device = unattested device.id
  challenges : s.db.attestationChallenges = []
  calls : s.calls = []

def attestedMiddleware : System State Action where
  init := IsInitial
  step := step cfg

/-! ## What a step does -/

section Steps

variable {cfg} {s s' : State} {act : Action}

/-- The challenge is there, unused, unexpired and the device's own. -/
structure IsOpen (s : State) (input : VerifyInput) (row : AttestationChallenge) :
    Prop where
  mem : row ∈ s.db.attestationChallenges
  id : row.id = input.challengeId
  deviceId : row.deviceId = input.deviceId
  unused : row.consumedAt = none
  unexpired : s.clock < row.expiresAt

/-- The tables after the challenge was consumed. -/
def consumed (now : ℕ) (row : AttestationChallenge) (db : Db) : Db :=
  { db with
    attestationChallenges := updateWhere (fun other => other.id == row.id)
      (fun other => { other with consumedAt := some now })
      db.attestationChallenges }

/-- Phase A takes an open challenge. -/
theorem begins {input : VerifyInput} {proc : AttestProc} {after : Db}
    (hbegin : beginVerify s.clock input s.db = (.ok proc, after)) :
    ∃ row, IsOpen s input row ∧ input.clientPubKey.length = 32 ∧
      after = consumed s.clock row s.db ∧
      proc = ⟨input, stageOf row.challenge input.attestation⟩ := by
  obtain ⟨hlength, challenge, hconsume, rfl⟩ := beginVerify_ok.mp hbegin
  obtain ⟨row, hrow, hunused, htime, rfl, rfl⟩ := consumeChallenge_ok.mp hconsume
  have hkeys := List.find?_some hrow
  simp only [Bool.and_eq_true, beq_iff_eq] at hkeys
  exact ⟨row, ⟨List.mem_of_find?_eq_some hrow, hkeys.1, hkeys.2, hunused, htime⟩,
    hlength, rfl, rfl⟩

inductive StepCase (cfg : Config) (s s' : State) : Action → Prop
  | core {act : Middleware.Action} : isPermitted s act = true →
      Middleware.step cfg.middleware s.core act = some s'.core →
      s'.calls = s.calls → StepCase cfg s s' (.core act)
  | challenged {id deviceId : ℕ} {bytes : Random.Bytes} :
      (∀ row ∈ s.db.attestationChallenges, row.id ≠ id) →
      s' = s.withDb { s.db with
        attestationChallenges := s.db.attestationChallenges ++
          [newChallenge cfg.attest s.clock id deviceId bytes] } →
      StepCase cfg s s' (.createChallenge id deviceId bytes)
  | begun {input : VerifyInput} {row : AttestationChallenge} :
      IsOpen s input row → input.clientPubKey.length = 32 →
      s' = { s.withDb (consumed s.clock row s.db) with
        calls := s.calls ++ [⟨input, stageOf row.challenge input.attestation⟩] } →
      StepCase cfg s s' (.verify input)
  | resumed {i : ℕ} {reply : DecodeReply} {proc : AttestProc}
      {continued : Continued} {after : Db} : s.calls[i]? = some proc →
      proc.resume cfg.attest s.clock reply s.db = (continued, after) →
      Resumes cfg.attest s.clock proc reply s.db continued after →
      s' = { s.withDb after with calls := settle s.calls i (nextOf continued) } →
      StepCase cfg s s' (.resume i reply)
  | refusedChallenge {id deviceId : ℕ} {bytes : Random.Bytes} : s' = s →
      StepCase cfg s s' (.createChallenge id deviceId bytes)
  | refusedVerify {input : VerifyInput} :
      (∀ proc after, beginVerify s.clock input s.db ≠ (.ok proc, after)) →
      s' = s → StepCase cfg s s' (.verify input)
  | crashed {i : ℕ} : s' = { s with calls := s.calls.eraseIdx i } →
      StepCase cfg s s' (.crash i)

theorem stepCase (hstep : step cfg s act = some s') : StepCase cfg s s' act := by
  cases act with
  | core act =>
      simp only [step] at hstep
      split_ifs at hstep with hpermitted
      obtain ⟨core, hcore, rfl⟩ := Option.map_eq_some_iff.mp hstep
      exact .core hpermitted hcore rfl
  | createChallenge id deviceId bytes =>
      obtain rfl := Option.some.inj hstep
      cases hrun : withTransaction (AttestService.createChallenge cfg.attest
          s.clock id deviceId bytes) s.db with
      | mk outcome after =>
          cases outcome with
          | error failure =>
              apply StepCase.refusedChallenge
              rw [State.createChallenge, hrun, withTransaction_error hrun]
              rfl
          | ok result =>
              obtain ⟨hfresh, rfl⟩ := createChallenge_ok (withTransaction_ok hrun)
              apply StepCase.challenged hfresh
              rw [State.createChallenge, hrun]
  | verify input =>
      obtain rfl := Option.some.inj hstep
      cases hbegin : beginVerify s.clock input s.db with
      | mk outcome after =>
          cases outcome with
          | error failure =>
              apply StepCase.refusedVerify
              · intro proc after' hok
                rw [hbegin] at hok
                cases hok
              · rw [State.verify, hbegin, beginVerify_error hbegin]
                rfl
          | ok proc =>
              obtain ⟨row, hopen, hlength, rfl, rfl⟩ := begins hbegin
              apply StepCase.begun hopen hlength
              rw [State.verify, hbegin]
  | resume i reply =>
      obtain ⟨proc, hproc, rfl⟩ := Option.map_eq_some_iff.mp hstep
      exact .resumed hproc rfl (proc.resumes reply) rfl
  | crash i => exact .crashed (Option.some.inj hstep).symm

end Steps

end VpnMiddleware.AttestedMiddleware
