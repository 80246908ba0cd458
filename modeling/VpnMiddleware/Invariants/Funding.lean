import VpnMiddleware.Invariants.AdGrants
import VpnMiddleware.Invariants.Processes

/-!
# Ads before config

Where a client gets an encrypted config: at the end of a premium connect, and
from verify-ad-reward after a claim or as the replay of one.  A free session
that is funded has left `provisioning`, and one that has left it is funded.
-/

namespace VpnMiddleware.Funding

open VpnMiddleware.Schema VpnMiddleware.Environment VpnMiddleware.Database
open VpnMiddleware.Transaction VpnMiddleware.Table VpnMiddleware.Closing
open VpnMiddleware.TransitionSystem VpnMiddleware.Shared
open VpnMiddleware.Middleware VpnMiddleware.Evolution VpnMiddleware.Keys
open VpnMiddleware.Processes VpnMiddleware.AdGrants VpnMiddleware.AdsService
open VpnMiddleware.SessionConfigService VpnMiddleware.ConnectionService
open VpnMiddleware.ConnectFlow VpnMiddleware.VerifyFlow

variable {cfg : Config} {s s' : State} {act : Action}

/-- The payload that an action sends to a client. -/
def deliveredBy (cfg : Config) (s : State) (act : Action) :
    Option EncryptedPayload :=
  match responseOf cfg s act with
  | some (.connect (.ok (.premium _ _ payload))) => some payload
  | some (.verify (.ok result)) => result.payload
  | _ => none

/-- The config of a free session goes out only if the session is funded and
has left `provisioning`. -/
def AdsBeforeConfig (cfg : Config) (s : State) (act : Action) : Prop :=
  ∀ payload ∈ deliveredBy cfg s act, ∀ row ∈ s.world.db.sessions,
    row.id = payload.sessionId → row.tier = .free →
      Funded s.world.db row.id ∧ row.status ≠ .provisioning

instance (db : Db) (sessionId : ℕ) : Decidable (Funded db sessionId) :=
  inferInstanceAs (Decidable (∃ grant ∈ db.grants, grant.status = .consumed ∧
    0 < grant.grantMinutes ∧ grant.requiredAds ≤ grant.verifiedAds ∧
    grant.sessionId = some sessionId))

instance (cfg : Config) (s : State) (act : Action) :
    Decidable (AdsBeforeConfig cfg s act) :=
  inferInstanceAs (Decidable (∀ payload ∈ deliveredBy cfg s act,
    ∀ row ∈ s.world.db.sessions, row.id = payload.sessionId →
      row.tier = .free →
        Funded s.world.db row.id ∧ row.status ≠ .provisioning))

/-- The grant and the session of a replay that reads its payload now. -/
def replayOf (s : State) : Action → Option (ℕ × ℕ)
  | .verify i _ =>
      match s.verifies[i]? with
      | some ⟨input, .replay sessionId _⟩ => some (input.grantId, sessionId)
      | _ => none
  | _ => none

/-- The replay of a grant without minutes reads the payload of a session that
is still provisioning. -/
def ReplaysUnfunded (s : State) (act : Action) : Prop :=
  ∃ grant ∈ s.world.db.grants, ∃ row ∈ s.world.db.sessions,
    replayOf s act = some (grant.id, row.id) ∧ grant.grantMinutes = 0 ∧
      row.status = .provisioning

instance (s : State) (act : Action) : Decidable (ReplaysUnfunded s act) :=
  inferInstanceAs (Decidable (∃ grant ∈ s.world.db.grants,
    ∃ row ∈ s.world.db.sessions, replayOf s act = some (grant.id, row.id) ∧
      grant.grantMinutes = 0 ∧ row.status = .provisioning))

/-! ## Funded sessions -/

structure Funds (s : State) : Prop where
  attached : Attached s
  funded : ∀ row ∈ s.world.db.sessions, row.tier = .free →
    row.status = .active ∨ row.status = .limited → Funded s.world.db row.id
  started : ∀ row ∈ s.world.db.sessions, Funded s.world.db row.id →
    row.status ≠ .provisioning

theorem funds_initial (hinit : IsInitial s) : Funds s where
  attached := attached_initial hinit
  funded := by simp [hinit.sessions]
  started := by simp [hinit.sessions]

theorem extendRow_status (grantId newExpires : ℕ) (row : Session) :
    (extendRow grantId newExpires row).status ≠ .provisioning := by
  by_cases hstatus : row.status = .provisioning <;> simp [extendRow, hstatus]

/-- A row that is provisioning after a step was so before or is new. -/
theorem provisioning_backward (hkeyed : Keyed s.world.db)
    (hstep : step cfg s act = some s') {row' : Session}
    (hrow' : row' ∈ s'.world.db.sessions) (hstatus : row'.status = .provisioning) :
    (∃ row ∈ s.world.db.sessions, row.id = row'.id ∧
      row.status = .provisioning) ∨
      ∀ row ∈ s.world.db.sessions, row.id ≠ row'.id := by
  rcases (step_effects hkeyed hstep).sessions.backward hrow' with
    ⟨row, hrow, hchange⟩ | ⟨added, hadded, hmem⟩
  · left
    refine ⟨row, hrow, (SessionChange.identity hchange).id.symm, ?_⟩
    cases hchange with
    | same => exact hstatus
    | stamped => exact hstatus
    | activated => exact hstatus
    | closed _ hclosed _ =>
        rcases hclosed with rfl | rfl <;> simp [closeRow] at hstatus
    | failed _ => simp [closeRow] at hstatus
    | extended _ _ _ _ _ => exact absurd hstatus (extendRow_status _ _ row)
  · right
    cases hadded with
    | none => simp at hmem
    | phaseA _ hfresh _ =>
        rw [List.mem_singleton] at hmem
        subst hmem
        exact hfresh

/-- A session is funded by a claim that extends it. -/
theorem funded_backward (hkeyed : Keyed s.world.db)
    (hstep : step cfg s act = some s') {sessionId : ℕ}
    (hfunded : Funded s'.world.db sessionId) :
    Funded s.world.db sessionId ∨ ∀ row' ∈ s'.world.db.sessions,
      row'.id = sessionId → row'.status ≠ .provisioning := by
  obtain ⟨grant', hgrant', hconsumed, hpos, hpaid, hsession⟩ := hfunded
  cases step_booking hkeyed hstep with
  | quiet added _ _ hadded hgrants _ _ =>
      rw [hgrants] at hgrant'
      rcases List.mem_append.mp hgrant' with hold | hnew
      · exact Or.inl ⟨grant', hold, hconsumed, hpos, hpaid, hsession⟩
      · rcases hadded with rfl | ⟨minted, hminted, rfl⟩
        · simp at hnew
        · rw [List.mem_singleton] at hnew
          simp [hnew, hminted.pending] at hconsumed
  | counted reward grant _ _ hgrant hopen _ hafter =>
      rw [hafter] at hgrant'
      rcases mem_updateWhere_key hkeyed.grants hgrant hgrant' with
        rfl | ⟨hold, -⟩
      · exact absurd hconsumed (countAd_status (isOpen_pending hopen))
      · exact Or.inl ⟨grant', hold, hconsumed, hpos, hpaid, hsession⟩
  | claimed input grant session _ _ hclaimed hgrants _ hsessions =>
      rw [hgrants] at hgrant'
      rcases mem_updateWhere_key hkeyed.grants hclaimed.grant_mem hgrant' with
        rfl | ⟨hold, -⟩
      · right
        obtain rfl := Option.some.inj hsession
        rcases hsessions with ⟨-, hzero⟩ | ⟨-, newExpires, hextended⟩
        · exact absurd hzero (Nat.pos_iff_ne_zero.mp hpos)
        · intro row' hrow' hid
          rw [hextended] at hrow'
          rcases mem_updateWhere_key hkeyed.ids hclaimed.session_mem hrow' with
            rfl | ⟨-, hother⟩
          · exact extendRow_status _ _ session
          · exact absurd hid hother
      · exact Or.inl ⟨grant', hold, hconsumed, hpos, hpaid, hsession⟩

theorem started_step (hfunds : Funds s) (hstep : step cfg s act = some s') :
    ∀ row' ∈ s'.world.db.sessions, Funded s'.world.db row'.id →
      row'.status ≠ .provisioning := by
  intro row' hrow' hfunded hstatus
  rcases funded_backward hfunds.attached.keyed hstep hfunded with
    hbefore | hstarted
  · rcases provisioning_backward hfunds.attached.keyed hstep hrow' hstatus with
      ⟨row, hrow, hid, hold⟩ | hfresh
    · exact hfunds.started row hrow (hid.symm ▸ hbefore) hold
    · obtain ⟨grant, hgrant, hconsumed, -, -, hsession⟩ := hbefore
      obtain ⟨-, row, hrow, hbound⟩ :=
        hfunds.attached.consumed grant hgrant hconsumed
      exact hfresh row hrow (Option.some.inj (hbound.symm.trans hsession))
  · exact hstarted row' hrow' rfl hstatus

theorem funded_step (hfunds : Funds s) (hstep : step cfg s act = some s') :
    ∀ row' ∈ s'.world.db.sessions, row'.tier = .free →
      row'.status = .active ∨ row'.status = .limited →
        Funded s'.world.db row'.id := by
  have hgrows := grows_step hfunds.attached.keyed hstep
  intro row' hrow' htier hstatus
  rcases (step_effects hfunds.attached.keyed hstep).sessions.backward hrow' with
    ⟨row, hrow, hchange⟩ | ⟨added, hadded, hmem⟩
  · cases hchange with
    | same => exact (hfunds.funded row' hrow htier hstatus).grows hgrows
    | stamped => exact (hfunds.funded row hrow htier hstatus).grows hgrows
    | activated => exact (hfunds.funded row hrow htier hstatus).grows hgrows
    | closed _ hclosed _ =>
        rcases hclosed with rfl | rfl <;> simp [closeRow] at hstatus
    | failed _ => simp [closeRow] at hstatus
    | @extended input grant newExpires _ hclaimed hpos _ hafter =>
        rw [hafter]
        refine ⟨consume s.world.clock row.id grant, ?_, rfl, hpos,
          hclaimed.verified, rfl⟩
        exact mem_updateWhere.mpr ⟨grant, hclaimed.grant_mem,
          if_pos (beq_iff_eq.mpr hclaimed.grant_id)⟩
  · cases hadded with
    | none => simp at hmem
    | @phaseA input plan draw tx credentialRef _ _ _ =>
        rw [List.mem_singleton] at hmem
        subst hmem
        have hfree : plan.tier = .free := htier
        simp [insertedRow, NewSession.row, newSession, hfree] at hstatus

theorem funds_step (hfunds : Funds s) (hstep : step cfg s act = some s') :
    Funds s' where
  attached := attached_step hfunds.attached hstep
  funded := funded_step hfunds hstep
  started := started_step hfunds hstep

/-! ## Deliveries -/

/-- The three ways a payload reaches a client. -/
inductive Delivers (cfg : Config) (s : State) (act : Action)
    (payload : EncryptedPayload) : Prop
  | premium (provision : Provision) (after : Db) :
      .provisioning provision ∈ s.connects →
      provision.stage = .buildPayload →
      ConnectionService.buildPayload cfg provision.tx
        provision.input.clientPubKey s.world.db = .ok (payload, after) →
      Delivers cfg s act payload
  | extension (proc : VerifyProc) (ext : Extension) : proc ∈ s.verifies →
      proc.stage.extension = some ext →
      payloadFor cfg ext.sessionId s.world.db = some payload →
      Delivers cfg s act payload
  | replay (proc : VerifyProc) (sessionId expiresAt : ℕ) :
      proc ∈ s.verifies → proc.stage = .replay sessionId expiresAt →
      replayOf s act = some (proc.input.grantId, sessionId) →
      payloadFor cfg sessionId s.world.db = some payload →
      Delivers cfg s act payload

theorem delivers_of_connect {i : ℕ} {draw : Draw} {reply : IdealPanel.Reply}
    {payload : EncryptedPayload}
    (hdelivered : deliveredBy cfg s (.connect i draw reply) = some payload) :
    Delivers cfg s (.connect i draw reply) payload := by
  simp only [deliveredBy, responseOf, perform, State.connect] at hdelivered
  cases hproc : s.connects[i]? with
  | none => simp [hproc] at hdelivered
  | some proc =>
      simp only [hproc, Option.map_some, Option.bind_some] at hdelivered
      rcases hanswer : (proc.resume cfg s.world draw reply).answer with
        _ | (cause | ⟨sessionId, expiresAt, built⟩ | _)
      · simp [hanswer] at hdelivered
      · simp [hanswer] at hdelivered
      · simp only [hanswer, Option.map_some, Option.some.injEq] at hdelivered
        subst hdelivered
        obtain ⟨provision, after, rfl, hstage, hbuilt⟩ := connect_answer hanswer
        exact .premium provision after (List.mem_of_getElem? hproc) hstage hbuilt
      · simp [hanswer] at hdelivered

theorem delivers_of_verify {i : ℕ} {reply : IdealPanel.Reply}
    {payload : EncryptedPayload}
    (hdelivered : deliveredBy cfg s (.verify i reply) = some payload) :
    Delivers cfg s (.verify i reply) payload := by
  simp only [deliveredBy, responseOf, perform, State.verify] at hdelivered
  cases hproc : s.verifies[i]? with
  | none => simp [hproc] at hdelivered
  | some proc =>
      simp only [hproc, Option.map_some, Option.bind_some] at hdelivered
      rcases hanswer : (proc.resume cfg s.world reply).answer with
        _ | (cause | result)
      · simp [hanswer] at hdelivered
      · simp [hanswer] at hdelivered
      · simp only [hanswer, Option.map_some] at hdelivered
        have hmem := List.mem_of_getElem? hproc
        obtain ⟨sessionId, hread, hstage⟩ := verify_answer hanswer hdelivered
        rcases hstage with ⟨ext, sync, hstage, rfl⟩ | ⟨expiresAt, hstage⟩
        · exact .extension proc ext hmem (by rw [hstage]; rfl) hread
        · refine .replay proc sessionId expiresAt hmem hstage ?_ hread
          obtain ⟨input, stage⟩ := proc
          subst hstage
          simp [replayOf, hproc]

theorem delivers_of_deliveredBy {payload : EncryptedPayload}
    (hdelivered : deliveredBy cfg s act = some payload) :
    Delivers cfg s act payload := by
  cases act with
  | connect i draw reply => exact delivers_of_connect hdelivered
  | verify i reply => exact delivers_of_verify hdelivered
  | verifyAdReward input =>
      simp only [deliveredBy, responseOf, perform, State.verifyAdReward,
        Option.bind_some] at hdelivered
      rcases hanswer : (input.start cfg s.world).answer with
        _ | (cause | result)
      · simp [hanswer] at hdelivered
      · simp [hanswer] at hdelivered
      · simp [hanswer, start_answer hanswer] at hdelivered
  | requestConnect userId deviceId presented =>
      simp only [deliveredBy, responseOf, perform, State.requestConnect,
        Option.bind_some] at hdelivered
      cases hcheck : checkRequest s.world.clock userId deviceId presented
          s.world.db <;> simp [hcheck] at hdelivered
  | drain i reply =>
      simp only [deliveredBy, responseOf, perform, State.drain] at hdelivered
      cases hproc : s.drains[i]? <;> simp [hproc] at hdelivered
  | _ => simp [deliveredBy, responseOf, perform] at hdelivered

/-- The payload that verify-ad-reward reads is that of a live session. -/
theorem payloadFor_live (hkeyed : Keyed s.world.db) {sessionId : ℕ}
    {payload : EncryptedPayload}
    (hread : payloadFor cfg sessionId s.world.db = some payload) :
    payload.sessionId = sessionId ∧ ∀ row ∈ s.world.db.sessions,
      row.id = sessionId → row.status.isLive = true := by
  obtain ⟨_, hrun⟩ := payloadFor_eq_some hread
  obtain ⟨session, endpoint, clientPub, -, hfind, -, hlive, -, -, rfl⟩ :=
    encryptedPayloadForSession_ok hrun
  refine ⟨rfl, fun row hrow hid => ?_⟩
  have hsession : session.id = sessionId := by
    simpa using List.find?_some hfind
  rw [eq_of_key hkeyed.ids hrow (List.mem_of_find?_eq_some hfind)
    (hid.trans hsession.symm)]
  exact hlive

theorem adsBeforeConfig_of_funds (hfunds : Funds s)
    (hguard : ¬ ReplaysUnfunded s act) : AdsBeforeConfig cfg s act := by
  have hkeyed := hfunds.attached.keyed
  intro payload hdelivered row hrow hid htier
  cases delivers_of_deliveredBy hdelivered with
  | premium provision after hmem hstage hbuilt =>
      obtain ⟨-, -, endpoint, rfl⟩ := ConnectionService.buildPayload_ok hbuilt
      -- the session of a connect that builds a payload is premium
      have hbound := hfunds.attached.connects provision hmem
      obtain ⟨other, hother, hotherId, -, hotherTier⟩ := hbound.session
      have hsame : row = other := eq_of_key hkeyed.ids hrow hother
        (hid.trans hotherId.symm)
      have hpremium := hbound.premium (by rw [hstage]; rfl)
      rw [hsame, hotherTier, hpremium] at htier
      simp at htier
  | extension proc ext hmem hext hread =>
      have hfunded := ((hfunds.attached.verifies proc hmem).extension ext
        hext).funded
      rw [← (payloadFor_live hkeyed hread).1, ← hid] at hfunded
      exact ⟨hfunded, hfunds.started row hrow hfunded⟩
  | replay proc sessionId expiresAt hmem hstage hreplay hread =>
      obtain ⟨hsessionId, hlive⟩ := payloadFor_live hkeyed hread
      have hrowId : row.id = sessionId := hid.trans hsessionId
      obtain ⟨grant, hgrant, hgrantId, hconsumed, hsession⟩ :=
        (hfunds.attached.verifies proc hmem).replay sessionId expiresAt hstage
      have hfunded : Funded s.world.db row.id := by
        by_cases hzero : grant.grantMinutes = 0
        · have hstatus : row.status ≠ .provisioning := by
            intro hprovisioning
            refine hguard ⟨grant, hgrant, row, hrow, ?_, hzero, hprovisioning⟩
            rw [hreplay, hgrantId, hrowId]
          refine hfunds.funded row hrow htier ?_
          have hrowLive := hlive row hrow hrowId
          cases hcase : row.status <;>
            simp [hcase, SessionStatus.isLive] at hstatus hrowLive ⊢
        · exact ⟨grant, hgrant, hconsumed, Nat.pos_of_ne_zero hzero,
            (hfunds.attached.consumed grant hgrant hconsumed).1,
            hrowId.symm ▸ hsession⟩
      exact ⟨hfunded, hfunds.started row hrow hfunded⟩

/-- In a run without replays of minute-less grants on provisioning sessions,
the config of a free session goes out only after its ads. -/
theorem ads_before_config {start last : State} {trace : List (State × Action)}
    (hinit : IsInitial start) (hrun : Run (middleware cfg) start trace last)
    (hguard : ∀ entry ∈ trace, ¬ ReplaysUnfunded entry.1 entry.2) :
    ∀ entry ∈ trace, AdsBeforeConfig cfg entry.1 entry.2 := by
  have hstep : ∀ state act next, Funds state →
      ¬ ReplaysUnfunded state act → step cfg state act = some next →
      Funds next := fun _ _ _ hfunds _ hstep => funds_step hfunds hstep
  have hfunds := hrun.always_of_guard (funds_initial hinit) hstep hguard
  intro entry hentry
  exact adsBeforeConfig_of_funds (hfunds.1 entry hentry) (hguard entry hentry)

/-- The ads of the small connect are watched and claimed and the payload is
read. -/
def fundedConnect : List Action :=
  watchedConnect ++ [.verifyAdReward ⟨1, 1, 1⟩, .verify 0 .ok, .verify 0 .ok,
    .verify 0 .ok]

theorem ads_before_config_funded : ∃ last,
    Run (middleware {}) smallDeployment
      (traceOf (middleware {}) smallDeployment fundedConnect) last ∧
    ∃ entry ∈ traceOf (middleware {}) smallDeployment fundedConnect,
      (deliveredBy {} entry.1 entry.2).isSome = true ∧
        AdsBeforeConfig {} entry.1 entry.2 := by
  have hsome : (execute (middleware {}) smallDeployment
      fundedConnect).isSome = true := by decide +kernel
  have hguard : ∀ entry ∈ traceOf (middleware {}) smallDeployment
      fundedConnect, ¬ ReplaysUnfunded entry.1 entry.2 := by decide +kernel
  have hdelivered : ∃ entry ∈ traceOf (middleware {}) smallDeployment
      fundedConnect, (deliveredBy {} entry.1 entry.2).isSome = true := by
    decide +kernel
  obtain ⟨last, hrun⟩ := exists_run_of_isSome hsome
  obtain ⟨entry, hentry, hpayload⟩ := hdelivered
  exact ⟨last, hrun, entry, hentry, hpayload,
    ads_before_config isInitial_smallDeployment hrun hguard entry hentry⟩

/-- A grant for disconnecting, one ad and no minutes, is claimed twice for the
provisioning session. -/
def unfundedReplay : List Action :=
  smallConnect ++
    [.connect 0 smallDraw .ok, .connect 0 smallDraw .ok,
      .operate (.requestAdToken 1 1 .disconnect (some 1) 2 fun _ => 1),
      .operate (.admobSsv { smallReward "t1" with
        customData := Random.randomUrlToken 32 fun _ => 1 }),
      .verifyAdReward ⟨1, 2, 1⟩, .verifyAdReward ⟨1, 2, 1⟩]

theorem provisioning_config_delivered : IsInitial smallDeployment ∧
    ∃ trace mid last, Run (middleware {}) smallDeployment
      (trace ++ [(mid, .verify 0 .ok)]) last ∧
      ¬ AdsBeforeConfig {} mid (.verify 0 .ok) := by
  obtain ⟨mid, last, hrun, -, htest⟩ := @exists_run_of_execute _ _
    (middleware {}) smallDeployment unfundedReplay (.verify 0 .ok)
    (fun mid _ => ¬ AdsBeforeConfig {} mid (.verify 0 .ok)) _
    (by decide +kernel)
  exact ⟨isInitial_smallDeployment, _, mid, last, hrun, htest⟩

end VpnMiddleware.Funding
