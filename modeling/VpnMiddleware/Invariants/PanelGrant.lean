import VpnMiddleware.Invariants.PanelExpiry

/-!
# The panel never over-grants

An expiry that the panel holds, or that a process or an outbox row may still
write, was the expiry of its session when it was promised.  Expiries never
fall, so it is at most the expiry of the session now.
-/

namespace VpnMiddleware.PanelGrant

open VpnMiddleware.Schema VpnMiddleware.Environment VpnMiddleware.Database
open VpnMiddleware.Table VpnMiddleware.Closing VpnMiddleware.TransitionSystem
open VpnMiddleware.IdealPanel VpnMiddleware.Shared VpnMiddleware.Middleware
open VpnMiddleware.Statements VpnMiddleware.Evolution VpnMiddleware.Keys
open VpnMiddleware.Processes VpnMiddleware.PanelExpiry
open VpnMiddleware.ConnectionService VpnMiddleware.ConnectFlow
open VpnMiddleware.AdsService VpnMiddleware.VerifyFlow
open VpnMiddleware.OutboxDrainer VpnMiddleware.DrainFlow

variable {cfg : Config} {s s' : State} {act : Action} {after : Db}

/-! ## Expiries never fall -/

/-- The end of the longest session that may be extended. -/
def lifetimeCap (cfg : Config) (row : Session) : ℕ :=
  row.createdAt + cfg.maxSessionMin * 60000

theorem extendedExpiry_le_cap {now minutes : ℕ} {row : Session} :
    extendedExpiry cfg now minutes row ≤ lifetimeCap cfg row := by
  unfold extendedExpiry lifetimeCap
  dsimp only
  split <;> omega

theorem le_extendedExpiry {now minutes : ℕ} {row : Session}
    (hbelow : isAtCap cfg now row = false) :
    row.expiresAt ≤ extendedExpiry cfg now minutes row := by
  have hcap : max now row.expiresAt < row.createdAt + cfg.maxSessionMin * 60000 := by
    simpa [isAtCap] using hbelow
  unfold extendedExpiry
  dsimp only
  split <;> omega

theorem SessionChange.expiresAt_le {row row' : Session}
    (hchange : SessionChange cfg s act after row row') :
    row.expiresAt ≤ row'.expiresAt := by
  cases hchange with
  | same => exact le_rfl
  | closed _ _ _ => exact le_rfl
  | failed _ => exact le_rfl
  | stamped => exact le_rfl
  | activated => exact le_rfl
  | extended _ hclaimed hpos hexpires _ =>
      subst hexpires
      exact le_extendedExpiry (hclaimed.below_cap hpos)

/-- A session within the longest lifetime stays within it. -/
theorem SessionChange.le_cap {row row' : Session}
    (hchange : SessionChange cfg s act after row row')
    (hcap : row.expiresAt ≤ lifetimeCap cfg row) :
    row'.expiresAt ≤ lifetimeCap cfg row' := by
  cases hchange with
  | same => exact hcap
  | closed _ _ _ => exact hcap
  | failed _ => exact hcap
  | stamped => exact hcap
  | activated => exact hcap
  | extended _ _ _ hexpires _ =>
      subst hexpires
      exact extendedExpiry_le_cap

/-! ## Promised expiries -/

/-- An expiry that the panel stores for a user, or that an outbox row, a claim
or a connect may still write to it. -/
inductive Promised (s : State) : String → ℕ → Prop
  | stored {username : String} {account : Account} :
      s.world.panel username = some account →
      Promised s username account.expireAt
  | queued {op : PanelOp} {epoch : ℕ} : op ∈ s.world.db.panelOps →
      op.payload.expireEpoch = some epoch →
      Promised s op.payload.panelUsername (epoch * 1000)
  | pushing {proc : VerifyProc} {ext : Extension} : proc ∈ s.verifies →
      proc.stage.extension = some ext →
      Promised s ext.panelUsername ext.newExpires
  | creating {provision : Provision} :
      .provisioning provision ∈ s.connects →
      Promised s provision.tx.panelUsername provision.plan.expiresAt

/-- The expiry is at most that of the session of the panel user. -/
def Covered (db : Db) (username : String) (expireAt : ℕ) : Prop :=
  ∃ row ∈ db.sessions, row.panelUsername = username ∧ expireAt ≤ row.expiresAt

theorem Covered.le {db : Db} {username : String} {lower upper : ℕ}
    (hcovered : Covered db username upper) (hle : lower ≤ upper) :
    Covered db username lower := by
  obtain ⟨row, hrow, husername, hupper⟩ := hcovered
  exact ⟨row, hrow, husername, hle.trans hupper⟩

theorem storedExpiry_le (provider : Provider) (expireAt : ℕ) :
    storedExpiry provider expireAt ≤ expireAt := by
  cases provider with
  | rebecca => exact Nat.div_mul_le_self expireAt 1000
  | remnawave => exact le_rfl

section Step

variable (hattached : Attached s) (hstep : step cfg s act = some s')
include hattached hstep

theorem covered_step {username : String} {expireAt : ℕ}
    (hcovered : Covered s.world.db username expireAt) :
    Covered s'.world.db username expireAt := by
  obtain ⟨row, hrow, husername, hle⟩ := hcovered
  obtain ⟨row', hrow', hchange⟩ :=
    (step_effects hattached.keyed hstep).sessions.forward hrow
  exact ⟨row', hrow', (SessionChange.identity hchange).panelUsername.trans husername,
    hle.trans (SessionChange.expiresAt_le hchange)⟩

/-- Every expiry that a push sends was promised before. -/
theorem promised_of_setUserExpiry {username : String} {expireAt : ℕ}
    (hcall : callOf cfg s act = some (.setUserExpiry username expireAt)) :
    Promised s username expireAt := by
  cases act with
  | connect i draw reply =>
      obtain ⟨proc, -, hcall⟩ := Option.bind_eq_some_iff.mp hcall
      cases proc with
      | provisioning provision =>
          simp only [connectCall, provisionCall] at hcall
          split at hcall <;> simp at hcall
      | _ => simp [connectCall] at hcall
  | verify i reply =>
      obtain ⟨proc, hproc, hcall⟩ := Option.bind_eq_some_iff.mp hcall
      rw [verifyCall] at hcall
      split at hcall
      · next ext hstage =>
          obtain ⟨rfl, rfl⟩ := PanelCall.setUserExpiry.inj (Option.some.inj hcall)
          exact .pushing (List.mem_of_getElem? hproc) (by rw [hstage]; rfl)
      · simp at hcall
  | drain i reply =>
      obtain ⟨proc, hproc, hcall⟩ := Option.bind_eq_some_iff.mp hcall
      obtain ⟨op, hop, -, -, hpayload⟩ := hattached.drains proc
        (List.mem_of_getElem? hproc) proc.row (List.mem_cons_self ..)
      rw [drainCall] at hcall
      split at hcall
      · rw [dispatchCall] at hcall
        split at hcall <;>
          simp only [Option.some.injEq, PanelCall.setUserExpiry.injEq,
            reduceCtorEq] at hcall
        next epoch _ _ hepoch =>
          obtain ⟨rfl, rfl⟩ := hcall
          rw [← hpayload] at hepoch ⊢
          exact .queued hop hepoch
      · simp at hcall
      · simp at hcall
  | _ => simp [callOf] at hcall

/-- What the panel stores after a step is at most what was promised before. -/
theorem exists_promised_of_stored {username : String} {account : Account}
    (haccount : s'.world.panel username = some account) :
    ∃ expireAt, Promised s username expireAt ∧ account.expireAt ≤ expireAt := by
  rw [step_panel hstep] at haccount
  split at haccount
  · next made _ hcall =>
      cases servedAccount haccount with
      | kept old hold hsame => exact ⟨_, .stored hold, hsame.le⟩
      | created params hmade husername hexpiry =>
          subst hmade
          obtain ⟨i, draw, reply, provision, rfl, hproc, -, rfl⟩ :=
            callOf_createUser hcall
          refine ⟨provision.plan.expiresAt, ?_, ?_⟩
          · rw [← husername]
            exact .creating (List.mem_of_getElem? hproc)
          · rw [hexpiry]
            exact storedExpiry_le _ _
      | pushed old expireAt _ hmade _ hexpiry =>
          subst hmade
          refine ⟨expireAt, promised_of_setUserExpiry hattached hstep hcall, ?_⟩
          rw [hexpiry]
          exact storedExpiry_le _ _
  · exact ⟨_, .stored haccount, le_rfl⟩

end Step

/-! ## New promises -/

/-- An extension promises the expiry that it has just committed. -/
theorem covered_of_extension {now grantId newExpires : ℕ} {row : Session}
    {db : Db} (hrow : row ∈ db.sessions) :
    Covered (withExtension now grantId row newExpires db) row.panelUsername
      newExpires :=
  ⟨extendRow grantId newExpires row,
    mem_updateWhere.mpr ⟨row, hrow, if_pos (beq_self_eq_true _)⟩, rfl, le_rfl⟩

/-- So does a connect. -/
theorem covered_of_commit {input : ConnectInput} {plan : Resolved} {draw : Draw}
    {tx : TxResult} {db : Db}
    (hrun : connectTransaction cfg s.world.clock input plan draw db =
      .ok (tx, after)) : Covered after tx.panelUsername plan.expiresAt := by
  obtain ⟨rows, mid, credentialRef, hcommit⟩ := connectTransaction_ok hrun
  refine ⟨insertedRow s.world.clock input plan tx.node draw credentialRef, ?_,
    hcommit.username.symm, le_rfl⟩
  rw [hcommit.sessions]
  exact List.mem_append_right _ (List.mem_singleton_self _)

/-- The row that a claim queues carries the expiry that it commits. -/
theorem queued_of_verify {input : VerifyInput} {planned : Planned} {op : PanelOp}
    {epoch : ℕ}
    (hcommit : VerifyCommit cfg s.world.clock input.userId input.grantId
      input.sessionId s.world.db planned after)
    (hop : op ∈ after.panelOps) (hepoch : op.payload.expireEpoch = some epoch) :
    op ∈ s.world.db.panelOps ∨
      Covered after op.payload.panelUsername (epoch * 1000) := by
  cases hcommit with
  | replay => exact Or.inl hop
  | claim _ _ => exact Or.inl hop
  | extend hclaimed _ _ =>
      rcases List.mem_append.mp hop with hold | hnew
      · exact Or.inl hold
      · right
        rw [List.mem_singleton] at hnew
        subst hnew
        obtain rfl := Option.some.inj hepoch
        exact (covered_of_extension hclaimed.session_mem).le
          (Nat.div_mul_le_self _ 1000)

/-- The push that a claim starts with sends the expiry that it commits. -/
theorem covered_of_start {input : VerifyInput} {planned : Planned}
    {stage : VerifyStage} {ext : Extension}
    (hcommit : VerifyCommit cfg s.world.clock input.userId input.grantId
      input.sessionId s.world.db planned after)
    (hstarts : StartsWith planned stage) (hext : stage.extension = some ext) :
    Covered after ext.panelUsername ext.newExpires := by
  cases hstarts with
  | replay _ => simp [VerifyStage.extension] at hext
  | push hplanned =>
      obtain rfl := Option.some.inj hext
      subst hplanned
      generalize hmade : Planned.extend _ _ _ _ _ = made at hcommit
      cases hcommit with
      | replay => simp at hmade
      | claim _ _ => simp at hmade
      | extend hclaimed _ _ =>
          obtain ⟨-, husername, hexpires, -, -⟩ := Planned.extend.inj hmade
          rw [husername, hexpires]
          exact covered_of_extension hclaimed.session_mem

section Step

variable (hattached : Attached s) (hstep : step cfg s act = some s')
include hattached hstep

theorem promised_of_queued {op : PanelOp} {epoch : ℕ}
    (hop : op ∈ s'.world.db.panelOps)
    (hepoch : op.payload.expireEpoch = some epoch) :
    Promised s op.payload.panelUsername (epoch * 1000) ∨
      Covered s'.world.db op.payload.panelUsername (epoch * 1000) := by
  rcases (step_effects hattached.keyed hstep).panelOps.backward hop with
    ⟨old, hold, hchange⟩ | ⟨added, hadded, hnew⟩
  · left
    have hpayload := (OpChange.identity hchange).payload
    rw [hpayload] at hepoch ⊢
    exact .queued hold hepoch
  · cases hadded with
    | closing _ _ _ _ =>
        obtain ⟨_, _, _, _, rfl⟩ := mem_queuedOps hnew
        simp [newPanelOp] at hepoch
    | failEnqueue _ _ =>
        rw [List.mem_singleton] at hnew
        subst hnew
        simp [newPanelOp] at hepoch
    | @extension input _ _ _ hclaimed =>
        rcases step_commits hstep with hsame | ⟨-, query, done, hstatement, hrun⟩
        · rw [hsame] at hop
          exact Or.inl (.queued hop hepoch)
        · obtain rfl := Option.some.inj hstatement
          obtain ⟨planned, hrun⟩ := effect_ok.mp hrun
          exact (queued_of_verify (verifyTransaction_ok hrun) hop hepoch).imp_left
            fun hold => .queued hold hepoch

omit hattached in
theorem promised_of_pushing {proc : VerifyProc} {ext : Extension}
    (hproc : proc ∈ s'.verifies) (hext : proc.stage.extension = some ext) :
    Promised s ext.panelUsername ext.newExpires ∨
      Covered s'.world.db ext.panelUsername ext.newExpires := by
  rcases verifies_step hstep hproc with
    hold | ⟨planned, after, rfl, hrun, hstarts⟩ |
      ⟨i, reply, old, rfl, hbefore, -, hpush⟩
  · exact Or.inl (.pushing hold hext)
  · right
    rw [verify_db hrun hstep]
    exact covered_of_start (verifyTransaction_ok hrun) hstarts hext
  · obtain ⟨other, hother, hother'⟩ := hpush.extension
    obtain rfl := Option.some.inj (hother'.symm.trans hext)
    exact Or.inl (.pushing (List.mem_of_getElem? hbefore) hother)

omit hattached in
theorem promised_of_creating {provision : Provision}
    (hproc : .provisioning provision ∈ s'.connects) :
    Promised s provision.tx.panelUsername provision.plan.expiresAt ∨
      Covered s'.world.db provision.tx.panelUsername provision.plan.expiresAt := by
  rcases connects_step hstep hproc with
    hold | ⟨input, hnew⟩ | ⟨i, draw, reply, proc, rfl, hbefore, hresumed⟩
  · exact Or.inl (.creating hold)
  · simp at hnew
  · cases hresumed with
    | commit hrun hreply =>
        subst hreply
        have hcommits : CommitsPhaseA cfg s (.connect i draw .ok) _ _ _ draw _ :=
          ⟨⟨i, .ok, rfl, rfl, hbefore⟩, hrun⟩
        rw [phaseA_db hcommits hstep]
        exact Or.inr (covered_of_commit hrun)
    | @provision old stage hstage =>
        exact Or.inl (@Promised.creating s old (List.mem_of_getElem? hbefore))

/-- A promise after a step was one before, was undercut by one, or is the
expiry that the step commits. -/
theorem promised_step {username : String} {expireAt : ℕ}
    (hpromised : Promised s' username expireAt) :
    (∃ upper, Promised s username upper ∧ expireAt ≤ upper) ∨
      Covered s'.world.db username expireAt := by
  cases hpromised with
  | stored haccount =>
      exact Or.inl (exists_promised_of_stored hattached hstep haccount)
  | queued hop hepoch =>
      exact (promised_of_queued hattached hstep hop hepoch).imp_left
        fun hold => ⟨_, hold, le_rfl⟩
  | pushing hproc hext =>
      exact (promised_of_pushing hstep hproc hext).imp_left
        fun hold => ⟨_, hold, le_rfl⟩
  | creating hproc =>
      exact (promised_of_creating hstep hproc).imp_left
        fun hold => ⟨_, hold, le_rfl⟩

end Step

/-! ## Over runs -/

/-- Every promise is covered by the expiry of the session. -/
structure Honest (s : State) : Prop where
  attached : Attached s
  covered : ∀ username expireAt, Promised s username expireAt →
    Covered s.world.db username expireAt

theorem honest_initial (hinit : IsInitial s) : Honest s where
  attached := attached_initial hinit
  covered := by
    intro username expireAt hpromised
    cases hpromised with
    | stored haccount => simp [hinit.panel] at haccount
    | queued hop _ => simp [hinit.panelOps] at hop
    | pushing hproc _ => simp [hinit.verifies] at hproc
    | creating hproc => simp [hinit.connects] at hproc

theorem honest_step (hhonest : Honest s) (hstep : step cfg s act = some s') :
    Honest s' where
  attached := attached_step hhonest.attached hstep
  covered := by
    intro username expireAt hpromised
    rcases promised_step hhonest.attached hstep hpromised with
      ⟨upper, hbefore, hle⟩ | hcovered
    · exact (covered_step hhonest.attached hstep
        (hhonest.covered username upper hbefore)).le hle
    · exact hcovered

/-- The panel holds at most the expiry of every session. -/
def WithinExpiry (s : State) : Prop :=
  ∀ row ∈ s.world.db.sessions, ∀ account ∈ s.world.panel row.panelUsername,
    account.expireAt ≤ row.expiresAt

theorem withinExpiry_of_honest (hhonest : Honest s) : WithinExpiry s := by
  intro row hrow account haccount
  obtain ⟨other, hother, husername, hle⟩ :=
    hhonest.covered _ _ (.stored (Option.mem_def.mp haccount))
  obtain rfl := eq_of_key hhonest.attached.keyed.usernames hother hrow husername
  exact hle

/-- The session exists and expires within the longest lifetime. -/
def WithinCap (cfg : Config) (sessionId : ℕ) (s : State) : Prop :=
  ∃ row ∈ s.world.db.sessions, row.id = sessionId ∧
    row.expiresAt ≤ lifetimeCap cfg row

theorem withinCap_step {sessionId : ℕ} (hkeyed : Keyed s.world.db)
    (hcap : WithinCap cfg sessionId s) (hstep : step cfg s act = some s') :
    WithinCap cfg sessionId s' := by
  obtain ⟨row, hrow, hid, hle⟩ := hcap
  obtain ⟨row', hrow', hid', hchange⟩ := exists_sessionChange hkeyed hstep hrow
  exact ⟨row', hrow', hid'.trans hid, SessionChange.le_cap hchange hle⟩

/-- The panel expiry of the session is within the longest lifetime. -/
def PanelWithinCap (cfg : Config) (sessionId : ℕ) (s : State) : Prop :=
  ∀ row ∈ s.world.db.sessions, row.id = sessionId →
    ∀ account ∈ s.world.panel row.panelUsername,
      account.expireAt ≤ lifetimeCap cfg row

theorem panelWithinCap_of_honest {sessionId : ℕ} (hhonest : Honest s)
    (hcap : WithinCap cfg sessionId s) : PanelWithinCap cfg sessionId s := by
  intro row hrow hid account haccount
  obtain ⟨other, hother, hother_id, hle⟩ := hcap
  obtain rfl :=
    eq_of_key hhonest.attached.keyed.ids hother hrow (hother_id.trans hid.symm)
  exact (withinExpiry_of_honest hhonest other hother account haccount).trans hle

theorem honest_run {start last : State} {trace : List (State × Action)}
    (hhonest : Honest start) (hrun : Run (middleware cfg) start trace last) :
    Always Honest trace last :=
  @Run.always_of_guard _ _ _ _ _ _ Honest (fun _ _ => True) hrun hhonest
    (fun _ _ _ hhonest _ hstep => honest_step hhonest hstep) fun _ _ => trivial

/-- In every state of every run the panel holds at most the expiry of each
session; once a session is within the longest lifetime, as it may be when it
is created, the panel stays within that lifetime. -/
theorem panel_never_over_grants {start mid : State}
    {trace : List (State × Action)} (hinit : IsInitial start)
    (hrun : Run (middleware cfg) start trace mid) :
    Always WithinExpiry trace mid ∧
      ∀ row ∈ mid.world.db.sessions, row.expiresAt ≤ lifetimeCap cfg row →
        ∀ rest last, Run (middleware cfg) mid rest last →
          Always (PanelWithinCap cfg row.id) rest last := by
  have hhonest := honest_run (honest_initial hinit) hrun
  refine ⟨⟨fun entry hentry => ?_, ?_⟩, fun row hrow hle rest last hrest => ?_⟩
  · exact withinExpiry_of_honest (hhonest.1 entry hentry)
  · exact withinExpiry_of_honest hhonest.2
  · have hcap : WithinCap cfg row.id mid := ⟨row, hrow, rfl, hle⟩
    have hboth : Always (fun s => Honest s ∧ WithinCap cfg row.id s) rest last :=
      @Run.always_of_guard _ _ _ _ _ _ (fun s => Honest s ∧ WithinCap cfg row.id s)
        (fun _ _ => True) hrest ⟨hhonest.2, hcap⟩
        (fun s act next hboth _ hstep => ⟨honest_step hboth.1 hstep,
          withinCap_step hboth.1.attached.keyed hboth.2 hstep⟩)
        fun _ _ => trivial
    refine ⟨fun entry hentry => ?_, ?_⟩
    · obtain ⟨hhonest, hcap⟩ := hboth.1 entry hentry
      exact panelWithinCap_of_honest hhonest hcap
    · exact panelWithinCap_of_honest hboth.2.1 hboth.2.2

/-- After a claim has pushed its extension, the panel holds the new expiry. -/
theorem panel_never_over_grants_pushed : ∃ trace last,
    Run (middleware {}) smallDeployment trace last ∧ WithinExpiry last ∧
    ∃ row ∈ last.world.db.sessions, row.extensionsCount = 1 ∧
      last.world.panel row.panelUsername ≠ none ∧
      PanelWithinCap {} row.id last := by
  obtain ⟨last, hrun, row, hrow, hcount, haccount, hle⟩ := @exists_run_with
    _ _ (middleware {}) smallDeployment
    (extendedOnce ++ [.verify 0 .ok, .verify 0 .ok])
    (fun last => ∃ row ∈ last.world.db.sessions, row.extensionsCount = 1 ∧
      last.world.panel row.panelUsername ≠ none ∧
      row.expiresAt ≤ lifetimeCap {} row) _ (by decide +kernel)
  obtain ⟨hwithin, hcap⟩ :=
    panel_never_over_grants isInitial_smallDeployment hrun
  exact ⟨_, last, hrun, hwithin.2, row, hrow, hcount, haccount,
    (hcap row hrow hle [] last Run.refl).2⟩

end VpnMiddleware.PanelGrant
