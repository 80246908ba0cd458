import VpnMiddleware.Invariants.AdGrants
import VpnMiddleware.Invariants.Processes

/-!
# The expiry that the panel holds

The panel holds the current expiry of a live session, or the outbox row that
carries it has still to land.  Only the write of an older expiry after the
latest one has landed breaks this.
-/

namespace VpnMiddleware.PanelExpiry

open VpnMiddleware.Schema VpnMiddleware.Environment VpnMiddleware.Database
open VpnMiddleware.Table VpnMiddleware.Closing VpnMiddleware.TransitionSystem
open VpnMiddleware.IdealPanel VpnMiddleware.Shared VpnMiddleware.Middleware
open VpnMiddleware.Statements VpnMiddleware.Evolution VpnMiddleware.Keys
open VpnMiddleware.Processes VpnMiddleware.ConnectionService
open VpnMiddleware.ConnectFlow VpnMiddleware.AdsService
open VpnMiddleware.VerifyFlow VpnMiddleware.OutboxDrainer
open VpnMiddleware.DrainFlow VpnMiddleware.AdGrants

variable {cfg : Config} {s s' : State} {act : Action}

/-! ## Extensions that have landed -/

/-- The outbox row whose push a claim records next. -/
def recording : VerifyStage → Option ℕ
  | .recordPushed ext => some ext.opId
  | _ => none

theorem recording_eq_some {stage : VerifyStage} {opId : ℕ}
    (hrecording : recording stage = some opId) :
    ∃ ext, stage = .recordPushed ext ∧ ext.opId = opId := by
  cases stage with
  | recordPushed ext => exact ⟨ext, rfl, Option.some.inj hrecording⟩
  | _ => simp [recording] at hrecording

/-- The row is recorded as pushed, or a process that pushed it is about to
record it. -/
def Landed (s : State) (op : PanelOp) : Prop :=
  op.status = .succeeded ∨
    (∃ proc ∈ s.drains, proc.stage = .complete ∧ proc.row.id = op.id) ∨
    ∃ proc ∈ s.verifies, recording proc.stage = some op.id

/-- The row carries the current expiry of the session. -/
def Carries (op : PanelOp) (row : Session) : Prop :=
  op.op = .extendUser ∧
    op.payload = { panelUsername := row.panelUsername
                   expireEpoch := some (row.expiresAt / 1000) }

def LatestToLand (s : State) (row : Session) : Prop :=
  ∃ op ∈ s.world.db.panelOps, Carries op row ∧ ¬ Landed s op

/-- The panel holds the expiry of the session, to the second. -/
def InSync (panel : Panel) (row : Session) : Prop :=
  ∀ account ∈ panel row.panelUsername,
    account.expireAt / 1000 = row.expiresAt / 1000

/-! ## Writes -/

/-- The expiry that an action writes to a panel user. -/
def writtenExpiry (cfg : Config) (s : State) (act : Action) (username : String) :
    Option ℕ :=
  match (replyOf act).applies, callOf cfg s act with
  | true, some (.createUser params) =>
      if params.username = username then some params.expireAt else none
  | true, some (.setUserExpiry other expireAt) =>
      if other = username ∧
          isPastNoOp cfg.provider s.world.clock expireAt = false then
        some expireAt
      else none
  | _, _ => none

/-- The expiry that an action reports as pushed although the client did not
write it. -/
def ignoredExpiry (cfg : Config) (s : State) (act : Action) (username : String) :
    Option ℕ :=
  match replyOf act, callOf cfg s act with
  | .ok, some (.setUserExpiry other expireAt) =>
      if other = username ∧
          isPastNoOp cfg.provider s.world.clock expireAt = true then
        some expireAt
      else none
  | _, _ => none

/-- An action writes an older expiry to the user of a live session only while
the latest one has still to land, and no push of the latest one is ignored. -/
structure PushesLatest (cfg : Config) (s : State) (act : Action) : Prop where
  written : ∀ row ∈ s.world.db.sessions, row.status.isLive = true →
    ∀ expireAt ∈ writtenExpiry cfg s act row.panelUsername,
      expireAt / 1000 = row.expiresAt / 1000 ∨ LatestToLand s row
  ignored : ∀ row ∈ s.world.db.sessions, row.status.isLive = true →
    ∀ expireAt ∈ ignoredExpiry cfg s act row.panelUsername,
      expireAt / 1000 = row.expiresAt / 1000 → InSync s.world.panel row

section Decidable

variable (s : State) (row : Session)

instance (op : PanelOp) : Decidable (Landed s op) :=
  inferInstanceAs (Decidable (_ ∨ (∃ proc ∈ s.drains,
    proc.stage = .complete ∧ proc.row.id = op.id) ∨
      ∃ proc ∈ s.verifies, recording proc.stage = some op.id))

instance (op : PanelOp) : Decidable (Carries op row) :=
  inferInstanceAs (Decidable (_ ∧ _))

instance : Decidable (LatestToLand s row) :=
  inferInstanceAs (Decidable (∃ op ∈ s.world.db.panelOps,
    Carries op row ∧ ¬ Landed s op))

instance (panel : Panel) : Decidable (InSync panel row) :=
  inferInstanceAs (Decidable (∀ account ∈ panel row.panelUsername,
    account.expireAt / 1000 = row.expiresAt / 1000))

instance (cfg : Config) (act : Action) : Decidable (PushesLatest cfg s act) :=
  decidable_of_iff
    ((∀ row ∈ s.world.db.sessions, row.status.isLive = true →
      ∀ expireAt ∈ writtenExpiry cfg s act row.panelUsername,
        expireAt / 1000 = row.expiresAt / 1000 ∨ LatestToLand s row) ∧
      ∀ row ∈ s.world.db.sessions, row.status.isLive = true →
        ∀ expireAt ∈ ignoredExpiry cfg s act row.panelUsername,
          expireAt / 1000 = row.expiresAt / 1000 → InSync s.world.panel row)
    ⟨fun ⟨hwritten, hignored⟩ => ⟨hwritten, hignored⟩,
      fun hpushes => ⟨hpushes.written, hpushes.ignored⟩⟩

end Decidable

/-! ## What lands in a step -/

/-- The step pushed the row, and the panel has its user. -/
structure Pushes (cfg : Config) (s : State) (act : Action) (op : PanelOp) :
    Prop where
  reply : replyOf act = .ok
  call : ∃ expireAt, callOf cfg s act =
    some (.setUserExpiry op.payload.panelUsername expireAt) ∧
      op.payload.expireEpoch = some (expireAt / 1000)
  account : s.world.panel op.payload.panelUsername ≠ none

/-- A drainer that is about to record the success of an extension has pushed
it in its last step or was there before. -/
theorem complete_of_extension (hattached : Attached s)
    (hstep : step cfg s act = some s') {proc : DrainProc}
    (hmem : proc ∈ s'.drains) (hstage : proc.stage = .complete) {op : PanelOp}
    (hkind : op.op = .extendUser) (hop : op.op = proc.row.op)
    (hpayload : op.payload = proc.row.payload) :
    proc ∈ s.drains ∨ Pushes cfg s act op := by
  rcases drains_step hstep hmem with
    hold | ⟨_, -, hdispatch, -⟩ | ⟨i, reply, old, rfl, hproc, hresumed⟩
  · exact Or.inl hold
  · simp [hdispatch] at hstage
  · rcases hresumed with ⟨hrows, hdrain⟩ | ⟨-, hdispatch⟩
    · right
      rw [(List.cons.inj hrows).1] at hop hpayload
      rw [hstage] at hdrain
      have hextend : old.row.op = .extendUser := hop.symm.trans hkind
      generalize hbefore : old.stage = before at hdrain
      cases hdrain with
      | @extended epoch account _ hepoch hpos hreply hserve =>
          refine ⟨hreply, ⟨epoch * 1000, ?_, ?_⟩, ?_⟩
          · obtain ⟨epoch, rfl⟩ := Nat.exists_eq_succ_of_ne_zero hpos
            simp [callOf, hproc, drainCall, hbefore, dispatchCall, hextend,
              hepoch, hpayload]
          · rw [hpayload, hepoch, Nat.mul_div_cancel _ (by decide)]
          · rw [hpayload]
            exact exists_of_setUserExpiry hserve
      | deleted hdelete _ => simp [hextend] at hdelete
      | revoked _ =>
          have hrevoke := hattached.deleting old (List.mem_of_getElem? hproc)
            hbefore
          simp [hextend] at hrevoke
    · simp [hdispatch] at hstage

/-- The same for a claim. -/
theorem recording_of_extension (hattached : Attached s)
    (hstep : step cfg s act = some s') {proc : VerifyProc}
    (hmem : proc ∈ s'.verifies) {op : PanelOp}
    (hrecording : recording proc.stage = some op.id)
    (hop : op ∈ s'.world.db.panelOps) :
    proc ∈ s.verifies ∨ Pushes cfg s act op := by
  obtain ⟨ext, hstage, hid⟩ := recording_eq_some hrecording
  rcases verifies_step hstep hmem with
    hold | ⟨planned, after, -, -, hstarts⟩ | ⟨i, reply, old, rfl, hproc, -, hpush⟩
  · exact Or.inl hold
  · rw [hstage] at hstarts
    cases hstarts
  · right
    rw [hstage] at hpush
    obtain ⟨hbefore, hreply, account, hserve⟩ := hpush.recordPushed
    obtain ⟨other, hother, hotherId, -, hpayload⟩ :=
      ((verifies_attached hattached hstep proc hmem).extension ext
        (by rw [hstage]; rfl)).op
    obtain rfl := (keyed_step hattached.keyed hstep).eq_of_opId hother hop
      (hotherId.trans hid)
    refine ⟨hreply, ⟨ext.newExpires, ?_, ?_⟩, ?_⟩
    · simp [callOf, hproc, verifyCall, hbefore, hpayload]
    · rw [hpayload]
    · rw [hpayload]
      exact exists_of_setUserExpiry hserve

section Step

variable (hattached : Attached s) (hstep : step cfg s act = some s')
include hattached hstep

/-- A row that a step changed was landed before or the step has pushed it. -/
theorem landed_of_change {op op' : PanelOp}
    (hop' : op' ∈ s'.world.db.panelOps) (hchange : OpChange cfg s act op op')
    (hkind : op.op = .extendUser) (hlanded : Landed s' op') :
    Landed s op ∨ Pushes cfg s act op' := by
  have hsame := OpChange.identity hchange
  rcases hlanded with hsucceeded | ⟨proc, hmem, hstage, hid⟩ |
    ⟨proc, hmem, hrecording⟩
  · left
    cases hchange with
    | same => exact Or.inl hsucceeded
    | leased _ => simp [lease] at hsucceeded
    | completed hproc hcomplete hid _ =>
        exact Or.inr (Or.inl ⟨_, List.mem_of_getElem? hproc, hcomplete, hid.symm⟩)
    | dispatchFailed _ _ _ _ => split at hsucceeded <;> simp at hsucceeded
    | marked _ _ hrevoke _ => simp [hkind] at hrevoke
    | pushed hproc hrecord hid =>
        refine Or.inr (Or.inr ⟨_, List.mem_of_getElem? hproc, ?_⟩)
        rw [hrecord, hid]
        rfl
    | pushFailed _ _ _ => simp at hsucceeded
  · obtain ⟨other, hother, hotherId, hotherKind, hpayload⟩ := drains_attached
      hattached hstep proc hmem proc.row (List.mem_cons_self ..)
    obtain rfl := (keyed_step hattached.keyed hstep).eq_of_opId hother hop'
      (hotherId.trans hid)
    refine (complete_of_extension hattached hstep hmem hstage
      (hsame.kind.trans hkind) hotherKind hpayload).imp_left fun hold => ?_
    exact Or.inr (Or.inl ⟨proc, hold, hstage, hid.trans hsame.id⟩)
  · refine (recording_of_extension hattached hstep hmem hrecording hop').imp_left
      fun hold => ?_
    exact Or.inr (Or.inr ⟨proc, hold, hsame.id ▸ hrecording⟩)

/-- A row that is new after a step has not landed. -/
theorem not_landed_of_fresh {op : PanelOp} (hpending : op.status = .pending)
    (hfresh : s.world.db.panelOps.length < op.id) : ¬ Landed s' op := by
  rintro (hsucceeded | ⟨proc, hmem, hstage, hid⟩ | ⟨proc, hmem, hrecording⟩)
  · simp [hpending] at hsucceeded
  · have hle := rowId_le_of_complete hattached hstep hmem hstage
    omega
  · obtain ⟨ext, hstage, hid⟩ := recording_eq_some hrecording
    have hle := opId_le_of_recordPushed hattached hstep hmem hstage
    omega

/-! ## Users of live sessions stay -/

theorem hasDeadSession_of_delete {username : String}
    (hcall : callOf cfg s act = some (.deleteUser username)) :
    HasDeadSession s.world.db username := by
  cases act with
  | connect i draw reply =>
      obtain ⟨proc, hproc, hcall⟩ := Option.bind_eq_some_iff.mp hcall
      cases proc with
      | provisioning provision =>
          have hbound := hattached.connects provision (List.mem_of_getElem? hproc)
          simp only [connectCall, provisionCall] at hcall
          split at hcall <;>
            simp only [Option.some.injEq, PanelCall.deleteUser.injEq,
              reduceCtorEq] at hcall
          next other rest hstage =>
            apply hbound.displaced
            rw [hstage, ← hcall]
            exact List.mem_cons_self ..
      | _ => simp [connectCall] at hcall
  | verify i reply =>
      obtain ⟨proc, -, hcall⟩ := Option.bind_eq_some_iff.mp hcall
      rw [verifyCall] at hcall
      split at hcall <;> simp at hcall
  | drain i reply =>
      obtain ⟨proc, hproc, hcall⟩ := Option.bind_eq_some_iff.mp hcall
      have hdrain := List.mem_of_getElem? hproc
      obtain ⟨op, hop, -, hkind, hpayload⟩ :=
        hattached.drains proc hdrain proc.row (List.mem_cons_self ..)
      apply hattached.reclaimed op hop
      rw [Reclaims, hkind, hpayload]
      rw [drainCall] at hcall
      split at hcall
      · rw [dispatchCall] at hcall
        split at hcall <;>
          simp only [Option.some.injEq, PanelCall.deleteUser.injEq,
            reduceCtorEq] at hcall
        next _ hdelete => exact ⟨Or.inr hdelete, hcall⟩
      · next hstage =>
          simp only [Option.some.injEq, PanelCall.deleteUser.injEq] at hcall
          exact ⟨Or.inl (hattached.deleting proc hdrain hstage), hcall⟩
      · simp at hcall
  | _ => simp [callOf] at hcall

/-- The panel user of a live session is not removed. -/
theorem account_stays {row : Session} (hrow : row ∈ s.world.db.sessions)
    (hlive : row.status.isLive = true)
    (haccount : s.world.panel row.panelUsername ≠ none) :
    s'.world.panel row.panelUsername ≠ none := by
  rw [step_panel hstep]
  split
  · next made _ hcall =>
      refine serve_ne_none haccount fun hdelete => ?_
      subst hdelete
      obtain ⟨other, hother, husername, hdead⟩ :=
        hasDeadSession_of_delete hattached hstep hcall
      rw [eq_of_key hattached.keyed.usernames hother hrow husername, hlive] at hdead
      simp at hdead
  · exact haccount

/-! ## The latest expiry lands or is still to land -/

omit hattached in
/-- The expiry of a panel user after a step is the one before or one that the
step wrote. -/
theorem account_step {username : String} {account : Account}
    (haccount : s'.world.panel username = some account) :
    (∃ old, s.world.panel username = some old ∧
      account.expireAt = old.expireAt) ∨
    ∃ expireAt ∈ writtenExpiry cfg s act username,
      account.expireAt / 1000 = expireAt / 1000 := by
  rw [step_panel hstep] at haccount
  split at haccount
  · next made happlies hcall =>
      cases servedAccount haccount with
      | kept old hold hsame => exact Or.inl ⟨old, hold, hsame⟩
      | created params hmade husername hexpiry =>
          refine Or.inr ⟨params.expireAt, ?_, ?_⟩
          · simp [writtenExpiry, happlies, hcall, hmade, husername]
          · rw [hexpiry, storedExpiry_seconds]
      | pushed old expireAt _ hmade hpast hexpiry =>
          refine Or.inr ⟨expireAt, ?_, ?_⟩
          · simp [writtenExpiry, happlies, hcall, hmade, hpast]
          · rw [hexpiry, storedExpiry_seconds]
  · exact Or.inl ⟨account, haccount, rfl⟩

section Row

variable (hguard : PushesLatest cfg s act) {row : Session}
variable (hrow : row ∈ s.world.db.sessions) (hlive : row.status.isLive = true)
include hguard hrow hlive

omit hattached in
/-- A confirmed push of the row that carries the current expiry. -/
theorem inSync_of_push {op : PanelOp} (hcarries : Carries op row)
    (hpush : Pushes cfg s act op) : InSync s'.world.panel row := by
  obtain ⟨hreply, ⟨expireAt, hcall, hepoch⟩, -⟩ := hpush
  rw [hcarries.2] at hcall hepoch
  have hseconds : expireAt / 1000 = row.expiresAt / 1000 :=
    (Option.some.inj hepoch).symm
  have hpanel := step_panel hstep
  rw [hreply, hcall] at hpanel
  simp only [Reply.applies, serve, setUserExpiry_panel] at hpanel
  by_cases hpast : isPastNoOp cfg.provider s.world.clock expireAt = true
  · rw [if_pos hpast] at hpanel
    rw [hpanel]
    refine hguard.ignored row hrow hlive expireAt ?_ hseconds
    simp [ignoredExpiry, hreply, hcall, hpast]
  · rw [if_neg hpast] at hpanel
    intro account haccount
    rw [hpanel, Function.update_self, Option.mem_def,
      Option.map_eq_some_iff] at haccount
    obtain ⟨old, -, rfl⟩ := haccount
    exact (storedExpiry_seconds _ _).trans hseconds

theorem landing_step (hland : LatestToLand s row) :
    InSync s'.world.panel row ∨ LatestToLand s' row := by
  obtain ⟨op, hop, hcarries, hnotLanded⟩ := hland
  obtain ⟨op', hop', hchange⟩ :=
    (step_effects hattached.keyed hstep).panelOps.forward hop
  have hsame := OpChange.identity hchange
  have hcarries' : Carries op' row :=
    ⟨hsame.kind.trans hcarries.1, hsame.payload.trans hcarries.2⟩
  by_cases hlanded : Landed s' op'
  · rcases landed_of_change hattached hstep hop' hchange hcarries.1 hlanded with
      hbefore | hpush
    · exact absurd hbefore hnotLanded
    · exact Or.inl (inSync_of_push hstep hguard hrow hlive hcarries' hpush)
  · exact Or.inr ⟨op', hop', hcarries', hlanded⟩

/-- As long as a session keeps its expiry, the panel holds it or is still to
get it. -/
theorem latest_step
    (hlatest : InSync s.world.panel row ∨ LatestToLand s row) :
    InSync s'.world.panel row ∨ LatestToLand s' row := by
  by_cases hland : LatestToLand s row
  · exact landing_step hattached hstep hguard hrow hlive hland
  · left
    have hsync := hlatest.resolve_right hland
    intro account haccount
    rcases account_step hstep haccount with
      ⟨old, hold, hsame⟩ | ⟨expireAt, hwritten, hsame⟩
    · rw [hsame]
      exact hsync old hold
    · rw [hsame]
      exact (hguard.written row hrow hlive expireAt hwritten).resolve_right hland

end Row

/-- An extension queues the row that carries its expiry. -/
theorem latestToLand_of_extension {row : Session} {grantId newExpires : ℕ}
    (hafter : s'.world.db = withExtension s.world.clock grantId row newExpires
      s.world.db) : LatestToLand s' (extendRow grantId newExpires row) := by
  refine ⟨extendOp s.world.clock (s.world.db.panelOps.length + 1) row.id
    row.panelUsername newExpires, ?_, ⟨rfl, rfl⟩, ?_⟩
  · rw [hafter]
    exact List.mem_append_right _ (List.mem_singleton_self _)
  · exact not_landed_of_fresh hattached hstep rfl (Nat.lt_succ_self _)

/-- A session that has just been inserted has no panel user yet. -/
theorem no_account_of_phaseA {after : Db} {input : ConnectInput}
    {plan : Resolved} {draw : ConnectionService.Draw} {tx : TxResult}
    {username : String}
    (hcommits : CommitsPhaseA cfg s act after input plan draw tx)
    (hfresh : ∀ row ∈ s.world.db.sessions, row.panelUsername ≠ username) :
    s'.world.panel username = none := by
  by_contra haccount
  obtain ⟨account, haccount⟩ := Option.ne_none_iff_exists'.mp haccount
  rcases account_step hstep haccount with
    ⟨old, hold, -⟩ | ⟨expireAt, hwritten, -⟩
  · obtain ⟨row, hrow, husername⟩ := hattached.panel username old hold
    exact hfresh row hrow husername
  · obtain ⟨i, reply, rfl, happlies, hproc⟩ := hcommits.acts
    simp [writtenExpiry, callOf, hproc, connectCall] at hwritten

end Step

/-! ## Over runs -/

structure Converges (s : State) : Prop where
  attached : Attached s
  latest : ∀ row ∈ s.world.db.sessions, row.status.isLive = true →
    InSync s.world.panel row ∨ LatestToLand s row
  hosted : ∀ row ∈ s.world.db.sessions, row.status.isLive = true →
    ∀ op ∈ s.world.db.panelOps, op.op = .extendUser →
      op.payload.panelUsername = row.panelUsername → Landed s op →
      s.world.panel row.panelUsername ≠ none

theorem converges_initial (hinit : IsInitial s) : Converges s where
  attached := attached_initial hinit
  latest := by simp [hinit.sessions]
  hosted := by simp [hinit.sessions]

theorem latest_of_step (hconverges : Converges s)
    (hguard : PushesLatest cfg s act) (hstep : step cfg s act = some s')
    (row' : Session) (hrow' : row' ∈ s'.world.db.sessions)
    (hlive' : row'.status.isLive = true) :
    InSync s'.world.panel row' ∨ LatestToLand s' row' := by
  have hattached := hconverges.attached
  rcases (step_effects hattached.keyed hstep).sessions.backward hrow' with
    ⟨row, hrow, hchange⟩ | ⟨added, hadded, hmem⟩
  · have hkept : row.status.isLive = true →
        InSync s'.world.panel row ∨ LatestToLand s' row := fun hlive =>
      latest_step hattached hstep hguard hrow hlive
        (hconverges.latest row hrow hlive)
    cases hchange with
    | same => exact hkept hlive'
    | stamped => exact hkept hlive'
    | activated => exact hkept hlive'
    | closed _ hstatus _ =>
        rcases hstatus with rfl | rfl <;>
          simp [closeRow, SessionStatus.isLive] at hlive'
    | failed _ => simp [closeRow, SessionStatus.isLive] at hlive'
    | extended _ _ _ _ hafter =>
        exact Or.inr (latestToLand_of_extension hattached hstep hafter)
  · cases hadded with
    | none => simp at hmem
    | phaseA hcommits _ hfresh =>
        rw [List.mem_singleton] at hmem
        subst hmem
        left
        intro account haccount
        have hnone := no_account_of_phaseA hattached hstep hcommits hfresh
        rw [Option.mem_def] at haccount
        exact absurd (haccount.symm.trans hnone) (by simp)

theorem hosted_of_step (hconverges : Converges s)
    (hstep : step cfg s act = some s') (row' : Session)
    (hrow' : row' ∈ s'.world.db.sessions) (hlive' : row'.status.isLive = true)
    (op' : PanelOp) (hop' : op' ∈ s'.world.db.panelOps)
    (hkind : op'.op = .extendUser)
    (husername : op'.payload.panelUsername = row'.panelUsername)
    (hlanded : Landed s' op') : s'.world.panel row'.panelUsername ≠ none := by
  have hattached := hconverges.attached
  have heffects := step_effects hattached.keyed hstep
  rcases heffects.panelOps.backward hop' with
    ⟨op, hop, hchange⟩ | ⟨added, hadded, hnew⟩
  · -- the session of an extension is there before the extension
    have hsame := OpChange.identity hchange
    obtain ⟨row, hrow, -, hbound⟩ :=
      hattached.extensions op hop (hsame.kind.symm.trans hkind)
    have hsameRow : row.panelUsername = row'.panelUsername := by
      rw [← hbound, ← hsame.payload, husername]
    have hlive : row.status.isLive = true := by
      obtain ⟨other, hother, hidentity, hstays⟩ :=
        (grows_step hattached.keyed hstep).sessions row hrow
      have heq : other = row' :=
        eq_of_key (keyed_step hattached.keyed hstep).usernames hother hrow'
          (hidentity.panelUsername.trans hsameRow)
      by_contra hdead
      rw [Bool.not_eq_true] at hdead
      rw [heq, hlive'] at hstays
      exact absurd (hstays hdead) (by simp)
    rw [← hsameRow]
    apply account_stays hattached hstep hrow hlive
    rcases landed_of_change hattached hstep hop' hchange
      (hsame.kind.symm.trans hkind) hlanded with hbefore | hpush
    · exact hconverges.hosted row hrow hlive op hop
        (hsame.kind.symm.trans hkind) hbound hbefore
    · have haccount := hpush.account
      rwa [husername, ← hsameRow] at haccount
  · exact absurd hlanded (not_landed_of_fresh hattached hstep
      (hadded.pending hnew) (hadded.fresh hnew))

theorem converges_step (hconverges : Converges s)
    (hguard : PushesLatest cfg s act) (hstep : step cfg s act = some s') :
    Converges s' where
  attached := attached_step hconverges.attached hstep
  latest := latest_of_step hconverges hguard hstep
  hosted := hosted_of_step hconverges hstep

/-- Every extension of the session is recorded as pushed. -/
def AllPushed (db : Db) (row : Session) : Prop :=
  ∀ op ∈ db.panelOps, op.op = .extendUser → op.sessionId = some row.id →
    op.status = .succeeded

instance (db : Db) (row : Session) : Decidable (AllPushed db row) :=
  inferInstanceAs (Decidable (∀ op ∈ db.panelOps, op.op = .extendUser →
    op.sessionId = some row.id → op.status = .succeeded))

/-- The panel holds the expiry of the session, and its user if the session was
ever extended. -/
structure Converged (s : State) (row : Session) : Prop where
  expiry : InSync s.world.panel row
  user : (∃ op ∈ s.world.db.panelOps, op.op = .extendUser ∧
    op.sessionId = some row.id) → s.world.panel row.panelUsername ≠ none

theorem converged_of_converges (hconverges : Converges s) {row : Session}
    (hrow : row ∈ s.world.db.sessions) (hlive : row.status.isLive = true)
    (hpushed : AllPushed s.world.db row) : Converged s row := by
  have hkeyed := hconverges.attached.keyed
  constructor
  · refine (hconverges.latest row hrow hlive).resolve_right ?_
    rintro ⟨op, hop, ⟨hkind, hpayload⟩, hnotLanded⟩
    obtain ⟨other, hother, hsession, husername⟩ :=
      hconverges.attached.extensions op hop hkind
    rw [hpayload] at husername
    obtain rfl := eq_of_key hkeyed.usernames hrow hother husername
    exact hnotLanded (Or.inl (hpushed op hop hkind hsession))
  · rintro ⟨op, hop, hkind, hsession⟩
    obtain ⟨other, hother, hbound, husername⟩ :=
      hconverges.attached.extensions op hop hkind
    obtain rfl := eq_of_key hkeyed.ids hrow hother
      (Option.some.inj (hsession.symm.trans hbound))
    exact hconverges.hosted row hrow hlive op hop hkind husername
      (Or.inl (hpushed op hop hkind hsession))

/-- In a run that never overwrites the latest expiry with an older one, the
panel holds the expiry of a live session whenever all its extensions are
recorded as pushed. -/
theorem panel_expiry_converges {start last : State}
    {trace : List (State × Action)} (hinit : IsInitial start)
    (hrun : Run (middleware cfg) start trace last)
    (hguard : ∀ entry ∈ trace, PushesLatest cfg entry.1 entry.2) :
    Always (fun s => ∀ row ∈ s.world.db.sessions, row.status.isLive = true →
      AllPushed s.world.db row → Converged s row) trace last := by
  have hconverges : Always Converges trace last :=
    hrun.always_of_guard (converges_initial hinit)
      (fun _ _ _ hconverges hguard hstep =>
        converges_step hconverges hguard hstep) hguard
  constructor
  · intro entry hentry row hrow hlive hpushed
    exact converged_of_converges (hconverges.1 entry hentry) hrow hlive hpushed
  · intro row hrow hlive hpushed
    exact converged_of_converges hconverges.2 hrow hlive hpushed

/-- The small connect finishes and its ads are claimed. -/
def extendedOnce : List Action :=
  smallConnect ++
    [.connect 0 smallDraw .ok, .connect 0 smallDraw .ok,
      .operate (.admobSsv (smallReward "t1")),
      .operate (.admobSsv (smallReward "t2")), .verifyAdReward ⟨1, 1, 1⟩]

theorem panel_expiry_converges_pushed : ∃ trace last,
    Run (middleware {}) smallDeployment trace last ∧
    ∃ row ∈ last.world.db.sessions, row.extensionsCount = 1 ∧
      AllPushed last.world.db row ∧ Converged last row := by
  obtain ⟨last, hrun, row, hrow, hcount, hlive, hpushed⟩ := @exists_run_with
    _ _ (middleware {}) smallDeployment
    (extendedOnce ++ [.verify 0 .ok, .verify 0 .ok])
    (fun last => ∃ row ∈ last.world.db.sessions, row.extensionsCount = 1 ∧
      row.status.isLive = true ∧ AllPushed last.world.db row) _
    (by decide +kernel)
  exact ⟨_, last, hrun, row, hrow, hcount, hpushed,
    (panel_expiry_converges isInitial_smallDeployment hrun
      (by decide +kernel)).2 row hrow hlive hpushed⟩

/-- The inline push of a first extension fails, that of a second one succeeds,
and the drainer dispatches the first one again. -/
def redispatched : List Action :=
  extendedOnce ++
    [.verify 0 (.fail false (.error "timeout")), .verify 0 .ok, .verify 0 .ok,
      .operate (.requestAdToken 1 1 .extend (some 1) 2 fun _ => 1),
      .operate (.admobSsv { smallReward "t3" with
        customData := Random.randomUrlToken 32 fun _ => 1 }),
      .operate (.admobSsv { smallReward "t4" with
        customData := Random.randomUrlToken 32 fun _ => 1 }),
      .verifyAdReward ⟨1, 2, 1⟩, .verify 0 .ok, .verify 0 .ok, .verify 0 .ok,
      .verify 0 .ok, .advance 15000, .claim [], .drain 0 .ok, .drain 0 .ok,
      .drain 0 .ok]

theorem older_expiry_wins : IsInitial smallDeployment ∧ ∃ trace last,
    Run (middleware {}) smallDeployment trace last ∧ last.verifies = [] ∧
    ∃ row ∈ last.world.db.sessions, row.status.isLive = true ∧
      AllPushed last.world.db row ∧
      ∃ account, last.world.panel row.panelUsername = some account ∧
        account.expireAt / 1000 < row.expiresAt / 1000 := by
  obtain ⟨last, hrun, hverifies, row, hrow, hlive, hpushed, haccount⟩ :=
    @exists_run_with _ _ (middleware {}) smallDeployment redispatched
      (fun last => last.verifies = [] ∧ ∃ row ∈ last.world.db.sessions,
        row.status.isLive = true ∧ AllPushed last.world.db row ∧
        (last.world.panel row.panelUsername).any (fun account =>
          decide (account.expireAt / 1000 < row.expiresAt / 1000)) = true) _
      (by decide +kernel)
  obtain ⟨account, haccount, hearlier⟩ := (Option.any_eq_true _ _).mp haccount
  exact ⟨isInitial_smallDeployment, _, last, hrun, hverifies, row, hrow, hlive,
    hpushed, account, haccount, of_decide_eq_true hearlier⟩

end VpnMiddleware.PanelExpiry
