import VpnMiddleware.Invariants.Keys

/-!
# The life of a session row

Terminal statuses, the reclaim that every termination leaves in the outbox,
and banned users.  Each result names the steps that break it and holds of the
runs without such steps.
-/

namespace VpnMiddleware.SessionLifecycle

open VpnMiddleware.Schema VpnMiddleware.Environment VpnMiddleware.Database
open VpnMiddleware.Transaction VpnMiddleware.Table VpnMiddleware.Closing
open VpnMiddleware.TransitionSystem VpnMiddleware.IdealPanel
open VpnMiddleware.Shared VpnMiddleware.Middleware VpnMiddleware.Statements
open VpnMiddleware.Evolution
open VpnMiddleware.Keys VpnMiddleware.AdsService VpnMiddleware.AdminService
open VpnMiddleware.ConnectionService VpnMiddleware.ConnectFlow

variable {cfg : Config} {s s' : State} {act : Action}

/-! ## Terminal rows -/

/-- The columns that a termination sets. -/
structure SameClosing (row row' : Session) : Prop where
  status : row'.status = row.status
  closedAt : row'.closedAt = row.closedAt
  closeReason : row'.closeReason = row.closeReason

instance (row row' : Session) : Decidable (SameClosing row row') :=
  decidable_of_iff (row'.status = row.status ∧ row'.closedAt = row.closedAt ∧
      row'.closeReason = row.closeReason)
    ⟨fun hsame => ⟨hsame.1, hsame.2.1, hsame.2.2⟩,
      fun hsame => ⟨hsame.status, hsame.closedAt, hsame.closeReason⟩⟩

/-- Every terminal row of `before` is in `after`, closed as it was. -/
def KeepsTerminal (before after : State) : Prop :=
  ∀ row ∈ before.world.db.sessions, row.status.isLive = false →
    (∃ row' ∈ after.world.db.sessions, row'.id = row.id) ∧
    ∀ row' ∈ after.world.db.sessions, row'.id = row.id → SameClosing row row'

instance (before after : State) : Decidable (KeepsTerminal before after) :=
  inferInstanceAs (Decidable (∀ row ∈ before.world.db.sessions,
    row.status.isLive = false →
      (∃ row' ∈ after.world.db.sessions, row'.id = row.id) ∧
      ∀ row' ∈ after.world.db.sessions, row'.id = row.id →
        SameClosing row row'))

/-- A status change from live to live is the activation of a session by a
claim that grants time. -/
def LiveMoves (cfg : Config) (s : State) (act : Action) (s' : State) : Prop :=
  ∀ row ∈ s.world.db.sessions, ∀ row' ∈ s'.world.db.sessions,
    row'.id = row.id → row.status.isLive = true → row'.status.isLive = true →
    row'.status ≠ row.status →
      row.status = .provisioning ∧ row'.status = .active ∧
      ∃ input grant, act = .verifyAdReward input ∧ 0 < grant.grantMinutes ∧
        Claimed cfg s.world.clock input.userId input.grantId input.sessionId
          s.world.db grant row ∧
        ∃ grant' ∈ s'.world.db.grants, grant'.id = grant.id ∧
          grant'.status = .consumed

/-- `failSession` closes only live rows: nobody else closed them before. -/
def FailsOnlyLive (s : State) (act : Action) : Prop :=
  ∀ row ∈ s.world.db.sessions, RunsFailClose s act row.id →
    row.status.isLive = true

instance (s : State) (act : Action) : Decidable (FailsOnlyLive s act) :=
  inferInstanceAs (Decidable (∀ row ∈ s.world.db.sessions,
    RunsFailClose s act row.id → row.status.isLive = true))

theorem keepsTerminal_trans {first mid next : State}
    (hfirst : KeepsTerminal first mid) (hsecond : KeepsTerminal mid next) :
    KeepsTerminal first next := by
  intro row hrow hterminal
  obtain ⟨⟨row', hrow', hid⟩, hsame⟩ := hfirst row hrow hterminal
  have hkept := hsame row' hrow' hid
  obtain ⟨⟨row'', hrow'', hid'⟩, hsame'⟩ :=
    hsecond row' hrow' (hkept.status ▸ hterminal)
  refine ⟨⟨row'', hrow'', hid'.trans hid⟩, fun last hlast hlast_id => ?_⟩
  have hlater := hsame' last hlast (hlast_id.trans hid.symm)
  exact ⟨hlater.status.trans hkept.status, hlater.closedAt.trans hkept.closedAt,
    hlater.closeReason.trans hkept.closeReason⟩

/-- What one step does to a terminal row. -/
theorem sameClosing_of_change {after : Db} {row row' : Session}
    (hterminal : row.status.isLive = false)
    (hguard : ¬ RunsFailClose s act row.id)
    (hchange : SessionChange cfg s act after row row') : SameClosing row row' := by
  cases hchange with
  | same => exact ⟨rfl, rfl, rfl⟩
  | stamped => exact ⟨rfl, rfl, rfl⟩
  | activated => exact ⟨rfl, rfl, rfl⟩
  | closed hlive _ _ => simp [hterminal] at hlive
  | failed hfails => exact absurd hfails hguard
  | extended _ hclaimed _ _ _ =>
      have hlive := hclaimed.session_live
      simp [hterminal] at hlive

theorem keepsTerminal_step (hkeyed : Keyed s.world.db)
    (hguard : FailsOnlyLive s act) (hstep : step cfg s act = some s') :
    KeepsTerminal s s' := by
  intro row hrow hterminal
  have hfails : ¬ RunsFailClose s act row.id := fun hfails => by
    have hlive := hguard row hrow hfails
    simp [hterminal] at hlive
  obtain ⟨row', hrow', hid, -⟩ := exists_sessionChange hkeyed hstep hrow
  refine ⟨⟨row', hrow', hid⟩, fun other hother hother_id => ?_⟩
  exact sameClosing_of_change hterminal hfails
    (sessionChange_of_id hkeyed hstep hrow hother hother_id)

theorem liveMoves_step (hkeyed : Keyed s.world.db)
    (hstep : step cfg s act = some s') : LiveMoves cfg s act s' := by
  intro row hrow row' hrow' hid hlive hlive' hmoved
  cases sessionChange_of_id hkeyed hstep hrow hrow' hid with
  | same => exact absurd rfl hmoved
  | stamped => exact absurd rfl hmoved
  | activated => exact absurd rfl hmoved
  | closed _ hstatus _ =>
      rcases hstatus with rfl | rfl <;> simp [closeRow, SessionStatus.isLive] at hlive'
  | failed _ => simp [closeRow, SessionStatus.isLive] at hlive'
  | @extended input grant newExpires hact hclaimed hpos _ hafter =>
      have hprovisioning : row.status = .provisioning := by
        by_contra hother
        exact hmoved (by simp [extendRow, hother])
      refine ⟨hprovisioning, by simp [extendRow, hprovisioning], input, grant,
        hact, hpos, hclaimed, ?_⟩
      refine ⟨consume s.world.clock row.id grant, ?_, rfl, rfl⟩
      rw [hafter]
      refine mem_updateWhere.mpr ⟨grant, hclaimed.grant_mem, ?_⟩
      simp [hclaimed.grant_id]

/-- Terminal rows stay as they were closed, and live rows move only from
provisioning to active, in every run whose `failSession` steps find their
session live. -/
theorem terminal_absorbing {start last : State} {trace : List (State × Action)}
    (hinit : IsInitial start) (hrun : Run (middleware cfg) start trace last)
    (hguard : ∀ entry ∈ trace, FailsOnlyLive entry.1 entry.2) :
    (∀ entry ∈ trace, KeepsTerminal entry.1 last) ∧
    ∀ entry ∈ trace, ∀ next, step cfg entry.1 entry.2 = some next →
      KeepsTerminal entry.1 next ∧ LiveMoves cfg entry.1 entry.2 next := by
  have hkeyed : ∀ state act next, Keyed state.world.db →
      FailsOnlyLive state act → step cfg state act = some next →
      Keyed next.world.db := fun _ _ _ hkeyed _ hstep => keyed_step hkeyed hstep
  constructor
  · refine hrun.relates_last (keyed_initial hinit) hkeyed
      (fun _ _ _ => keepsTerminal_trans) ?_ hguard
    intro state act next hkeyed hguard hstep
    exact keepsTerminal_step hkeyed hguard hstep
  · have hlaw : ∀ state act next, Keyed state.world.db →
        FailsOnlyLive state act → step cfg state act = some next →
        KeepsTerminal state next ∧ LiveMoves cfg state act next :=
      fun _ _ _ hkeyed hguard hstep =>
        ⟨keepsTerminal_step hkeyed hguard hstep, liveMoves_step hkeyed hstep⟩
    exact hrun.forall_steps (keyed_initial hinit) hkeyed hlaw hguard

/-- An admin kicks the provisioning session of the small deployment. -/
def kickedConnect : List Action :=
  smallConnect ++ [.operate (.kickSession 1)]

/-- The connect of the kicked session goes on, an admin kicks it again, and its
revocation is drained. -/
def kickedTwice : List Action :=
  kickedConnect ++ [.connect 0 smallDraw .ok, .connect 0 smallDraw .ok,
    .advance 1000, .operate (.kickSession 1), .operate (.sweepOnce []),
    .claim [], .drain 0 .ok, .drain 0 .ok, .drain 0 .ok]

theorem terminal_absorbing_kicked :
    ∃ last, Run (middleware {}) smallDeployment
        (traceOf (middleware {}) smallDeployment kickedTwice) last ∧
      (traceOf (middleware {}) smallDeployment kickedTwice).countP (fun entry =>
        entry.1.world.db.sessions.any fun row => row.status == .revoked) = 9 ∧
      (∀ entry ∈ traceOf (middleware {}) smallDeployment kickedTwice,
        KeepsTerminal entry.1 last) ∧
      ∀ entry ∈ traceOf (middleware {}) smallDeployment kickedTwice, ∀ next,
        step {} entry.1 entry.2 = some next →
          KeepsTerminal entry.1 next ∧ LiveMoves {} entry.1 entry.2 next := by
  obtain ⟨last, hrun⟩ := @exists_run_of_isSome _ _ (middleware {})
    smallDeployment kickedTwice (by decide +kernel)
  refine ⟨last, hrun, by decide +kernel, ?_⟩
  exact terminal_absorbing isInitial_smallDeployment hrun (by decide +kernel)

/-- `createUser` of the kicked session fails and `failSession` overwrites the
revoked row. -/
theorem kicked_session_overwritten : IsInitial smallDeployment ∧
    ∃ trace mid last, Run (middleware {}) smallDeployment
      (trace ++ [(mid, .connect 0 smallDraw .ok)]) last ∧
      ¬ KeepsTerminal mid last := by
  obtain ⟨mid, last, hrun, -, htest⟩ := @exists_run_of_execute _ _
    (middleware {}) smallDeployment
    (kickedConnect ++ [.connect 0 smallDraw (.fail false (.error "timeout"))])
    (.connect 0 smallDraw .ok) (fun mid last => ¬ KeepsTerminal mid last) _
    (by decide +kernel)
  exact ⟨isInitial_smallDeployment, _, mid, last, hrun, htest⟩

/-! ## Reclaims -/

/-- A termination by any of the seven paths. -/
def IsTerminated (status : SessionStatus) : Prop :=
  status = .expired ∨ status = .revoked ∨ status = .failed

instance (status : SessionStatus) : Decidable (IsTerminated status) :=
  inferInstanceAs (Decidable (_ ∨ _ ∨ _))

theorem IsTerminated.not_live {status : SessionStatus}
    (hterminated : IsTerminated status) : status.isLive = false := by
  rcases hterminated with rfl | rfl | rfl <;> rfl

/-- Every terminated session has an outbox row that deletes its panel user. -/
def DurablyReclaimed (s : State) : Prop :=
  ∀ row ∈ s.world.db.sessions, IsTerminated row.status →
    ∃ op ∈ s.world.db.panelOps, Reclaims row.panelUsername op

instance (s : State) : Decidable (DurablyReclaimed s) :=
  inferInstanceAs (Decidable (∀ row ∈ s.world.db.sessions,
    IsTerminated row.status →
      ∃ op ∈ s.world.db.panelOps, Reclaims row.panelUsername op))

/-- The first statement of `failSession` closes a session for which nothing is
queued yet. -/
def StrandsSession (s : State) (act : Action) : Prop :=
  ∃ row ∈ s.world.db.sessions, RunsFailClose s act row.id ∧
    ∀ op ∈ s.world.db.panelOps, ¬ Reclaims row.panelUsername op

/-- Outbox rows keep what they reclaim. -/
theorem reclaims_forward (hkeyed : Keyed s.world.db)
    (hstep : step cfg s act = some s') {username : String} {op : PanelOp}
    (hop : op ∈ s.world.db.panelOps) (hreclaims : Reclaims username op) :
    ∃ op' ∈ s'.world.db.panelOps, Reclaims username op' := by
  obtain ⟨op', hop', hchange⟩ := (step_effects hkeyed hstep).panelOps.forward hop
  have hsame := OpChange.identity hchange
  exact ⟨op', hop', hsame.kind ▸ hreclaims.1, hsame.payload ▸ hreclaims.2⟩

theorem durablyReclaimed_step (hkeyed : Keyed s.world.db)
    (hreclaimed : DurablyReclaimed s) (hguard : ¬ StrandsSession s act)
    (hstep : step cfg s act = some s') : DurablyReclaimed s' := by
  intro row' hrow' hterminated
  have hkept : ∀ row ∈ s.world.db.sessions, IsTerminated row.status →
      ∃ op ∈ s'.world.db.panelOps, Reclaims row.panelUsername op := by
    intro row hrow hterminated
    obtain ⟨op, hop, hreclaims⟩ := hreclaimed row hrow hterminated
    exact reclaims_forward hkeyed hstep hop hreclaims
  rcases (step_effects hkeyed hstep).sessions.backward hrow' with
    ⟨row, hrow, hchange⟩ | ⟨added, hadded, hmem⟩
  · cases hchange with
    | same => exact hkept row' hrow hterminated
    | stamped => exact hkept row hrow hterminated
    | activated => exact hkept row hrow hterminated
    | closed _ _ hqueued => exact ⟨_, hqueued.mem, hqueued.reclaims⟩
    | failed hfails =>
        by_contra hnone
        refine hguard ⟨row, hrow, hfails, fun op hop hreclaims => hnone ?_⟩
        exact reclaims_forward hkeyed hstep hop hreclaims
    | extended _ hclaimed _ _ _ =>
        have hdead := hterminated.not_live
        rw [isLive_extendRow _ _ hclaimed.session_live] at hdead
        simp at hdead
  · cases hadded with
    | none => simp at hmem
    | phaseA _ _ _ =>
        rw [List.mem_singleton] at hmem
        subst hmem
        have hdead := hterminated.not_live
        rw [isLive_insertedRow] at hdead
        simp at hdead

theorem not_durablyReclaimed_of_strands (hstrands : StrandsSession s act)
    (hstep : step cfg s act = some s') : ¬ DurablyReclaimed s' := by
  obtain ⟨row, hrow, hcloses, hnone⟩ := hstrands
  have hdb := failClose_db hcloses hstep
  intro hreclaimed
  have hclosed : closeRow s.world.clock .failed "panel_provision_failed" row ∈
      s'.world.db.sessions := by
    rw [hdb]
    exact mem_updateWhere.mpr ⟨row, hrow, by simp⟩
  obtain ⟨op, hop, hreclaims⟩ :=
    hreclaimed _ hclosed (Or.inr (Or.inr rfl))
  rw [hdb] at hop
  exact hnone op hop hreclaims

/-- Every terminated session has its reclaim in every state of a run exactly
if no `failSession` step closes a session with nothing queued. -/
theorem durably_reclaimed_iff {start last : State}
    {trace : List (State × Action)} (hinit : IsInitial start)
    (hrun : Run (middleware cfg) start trace last) :
    Always DurablyReclaimed trace last ↔
      ∀ entry ∈ trace, ¬ StrandsSession entry.1 entry.2 := by
  constructor
  · intro halways entry hentry hstrands
    obtain ⟨_, _, next, _, _, hnext⟩ := hrun.exists_prefix hentry
    exact not_durablyReclaimed_of_strands hstrands hnext
      (hrun.always_next halways hentry hnext)
  · intro hguard
    have hstart : Keyed start.world.db ∧ DurablyReclaimed start :=
      ⟨keyed_initial hinit, fun row hrow => by simp [hinit.sessions] at hrow⟩
    have hstep : ∀ state act next,
        Keyed state.world.db ∧ DurablyReclaimed state →
        ¬ StrandsSession state act → step cfg state act = some next →
        Keyed next.world.db ∧ DurablyReclaimed next :=
      fun _ _ _ hinv hguard hstep => ⟨keyed_step hinv.1 hstep,
        durablyReclaimed_step hinv.1 hinv.2 hguard hstep⟩
    have hboth := hrun.always_of_guard hstart hstep hguard
    exact ⟨fun entry hentry => (hboth.1 entry hentry).2, hboth.2.2⟩

theorem durably_reclaimed_iff_kicked : ∃ trace last,
    Run (middleware {}) smallDeployment trace last ∧ trace.length = 4 ∧
    (Always DurablyReclaimed trace last ↔
      ∀ entry ∈ trace, ¬ StrandsSession entry.1 entry.2) := by
  obtain ⟨last, hrun⟩ := @exists_run_of_isSome _ _ (middleware {})
    smallDeployment kickedConnect (by decide +kernel)
  exact ⟨_, last, hrun, by decide +kernel,
    durably_reclaimed_iff isInitial_smallDeployment hrun⟩

/-- `createUser` of a connect fails; after the first statement of `failSession`
nothing is queued for its session. -/
theorem failed_session_stranded : IsInitial smallDeployment ∧
    ∃ trace mid last, Run (middleware {}) smallDeployment
      (trace ++ [(mid, .connect 0 smallDraw .ok)]) last ∧
      ¬ DurablyReclaimed last := by
  obtain ⟨mid, last, hrun, -, htest⟩ := @exists_run_of_execute _ _
    (middleware {}) smallDeployment
    (smallConnect ++ [.connect 0 smallDraw (.fail false (.error "timeout"))])
    (.connect 0 smallDraw .ok) (fun _ last => ¬ DurablyReclaimed last) _
    (by decide +kernel)
  exact ⟨isInitial_smallDeployment, _, mid, last, hrun, htest⟩

/-! ## Banned users -/

def IsBanned (db : Db) (userId : ℕ) : Prop :=
  ∃ user ∈ db.users, user.id = userId ∧ user.isBanned = true

instance (db : Db) (userId : ℕ) : Decidable (IsBanned db userId) :=
  inferInstanceAs (Decidable (∃ user ∈ db.users,
    user.id = userId ∧ user.isBanned = true))

/-- No banned user owns a live session. -/
def NoBannedLive (s : State) : Prop :=
  ∀ row ∈ s.world.db.sessions, IsBanned s.world.db row.userId →
    row.status.isLive = false

instance (s : State) : Decidable (NoBannedLive s) :=
  inferInstanceAs (Decidable (∀ row ∈ s.world.db.sessions,
    IsBanned s.world.db row.userId → row.status.isLive = false))

/-- Phase A commits for a user who is banned by then. -/
def CommitsBanned (cfg : Config) (s : State) (act : Action) : Prop :=
  ∃ after input plan draw tx, CommitsPhaseA cfg s act after input plan draw tx ∧
    IsBanned s.world.db input.userId

/-- A user who is banned after a step was banned before, unless the step is
the ban, which closes the user's sessions. -/
theorem isBanned_backward (hkeyed : Keyed s.world.db)
    (hstep : step cfg s act = some s') {userId : ℕ}
    (hbanned : IsBanned s'.world.db userId) :
    IsBanned s.world.db userId ∨ ∀ row ∈ s'.world.db.sessions,
      row.userId = userId → row.status.isLive = false := by
  obtain ⟨user, huser, hid, hflag⟩ := hbanned
  rcases (step_effects hkeyed hstep).users with
    hsame | ⟨target, _, _, _, hsame | ⟨isBanned, husers, hclosed⟩⟩
  · exact Or.inl ⟨user, hsame ▸ huser, hid, hflag⟩
  · exact Or.inl ⟨user, hsame ▸ huser, hid, hflag⟩
  · rw [husers] at huser
    obtain ⟨old, hold, heq⟩ := mem_updateWhere.mp huser
    by_cases htarget : old.id = target
    · simp only [htarget, beq_self_eq_true, if_true] at heq
      subst heq
      obtain rfl : target = userId := hid
      exact Or.inr (hclosed hflag)
    · rw [if_neg (by simpa using htarget)] at heq
      subst heq
      exact Or.inl ⟨old, hold, hid, hflag⟩

theorem noBannedLive_step (hkeyed : Keyed s.world.db)
    (hnone : NoBannedLive s) (hguard : ¬ CommitsBanned cfg s act)
    (hstep : step cfg s act = some s') : NoBannedLive s' := by
  intro row' hrow' hbanned
  rcases isBanned_backward hkeyed hstep hbanned with hbanned | hclosed
  · rcases (step_effects hkeyed hstep).sessions.backward hrow' with
      ⟨row, hrow, hchange⟩ | ⟨added, hadded, hmem⟩
    · have huser := (SessionChange.identity hchange).userId
      have hdead := hnone row hrow (huser ▸ hbanned)
      cases hchange with
      | same => exact hdead
      | stamped => exact hdead
      | activated => exact hdead
      | closed hlive _ _ => simp [hdead] at hlive
      | failed _ => rfl
      | extended _ hclaimed _ _ _ =>
          have hlive := hclaimed.session_live
          simp [hdead] at hlive
    · cases hadded with
      | none => simp at hmem
      | phaseA hcommits _ _ =>
          rw [List.mem_singleton] at hmem
          subst hmem
          exact absurd ⟨_, _, _, _, _, hcommits, hbanned⟩ hguard
  · exact hclosed row' hrow' rfl

theorem not_noBannedLive_of_commits (hcommits : CommitsBanned cfg s act)
    (hstep : step cfg s act = some s') : ¬ NoBannedLive s' := by
  obtain ⟨after, input, plan, draw, tx, hcommits, hbanned⟩ := hcommits
  obtain ⟨rows, mid, credentialRef, hcommit⟩ :=
    connectTransaction_ok hcommits.commits
  have hdb := phaseA_db hcommits hstep
  intro hnone
  have hdead := hnone
    (insertedRow s.world.clock input plan tx.node draw credentialRef)
    (by rw [hdb, hcommit.sessions]; simp)
    (by rw [hdb, IsBanned, hcommit.users]; exact hbanned)
  rw [isLive_insertedRow] at hdead
  simp at hdead

/-- No banned user owns a live session in any state of a run exactly if Phase A
never commits for a banned user. -/
theorem no_banned_live_iff {start last : State} {trace : List (State × Action)}
    (hinit : IsInitial start) (hrun : Run (middleware cfg) start trace last) :
    Always NoBannedLive trace last ↔
      ∀ entry ∈ trace, ¬ CommitsBanned cfg entry.1 entry.2 := by
  constructor
  · intro halways entry hentry hcommits
    obtain ⟨_, _, next, _, _, hnext⟩ := hrun.exists_prefix hentry
    exact not_noBannedLive_of_commits hcommits hnext
      (hrun.always_next halways hentry hnext)
  · intro hguard
    have hstart : Keyed start.world.db ∧ NoBannedLive start :=
      ⟨keyed_initial hinit, fun row hrow => by simp [hinit.sessions] at hrow⟩
    have hstep : ∀ state act next,
        Keyed state.world.db ∧ NoBannedLive state →
        ¬ CommitsBanned cfg state act → step cfg state act = some next →
        Keyed next.world.db ∧ NoBannedLive next :=
      fun _ _ _ hinv hguard hstep => ⟨keyed_step hinv.1 hstep,
        noBannedLive_step hinv.1 hinv.2 hguard hstep⟩
    have hboth := hrun.always_of_guard hstart hstep hguard
    exact ⟨fun entry hentry => (hboth.1 entry hentry).2, hboth.2.2⟩

/-- A user with a provisioning session is banned. -/
theorem no_banned_live_iff_banned : ∃ trace last,
    Run (middleware {}) smallDeployment trace last ∧
    (∃ user ∈ last.world.db.users, user.isBanned = true) ∧
    (∃ row ∈ last.world.db.sessions, row.status = .revoked) ∧
    (Always NoBannedLive trace last ↔
      ∀ entry ∈ trace, ¬ CommitsBanned {} entry.1 entry.2) := by
  obtain ⟨last, hrun, hbanned, hrevoked⟩ := @exists_run_with _ _ (middleware {})
    smallDeployment
    (smallConnect ++ [.operate (.mutateUser 1 { isBanned := some true } {})])
    (fun last => (∃ user ∈ last.world.db.users, user.isBanned = true) ∧
      ∃ row ∈ last.world.db.sessions, row.status = .revoked) _ (by decide +kernel)
  exact ⟨_, last, hrun, hbanned, hrevoked,
    no_banned_live_iff isInitial_smallDeployment hrun⟩

/-- The ban commits between the tier read and Phase A of a connect. -/
theorem banned_between_reads : IsInitial smallDeployment ∧
    ∃ trace mid last, Run (middleware {}) smallDeployment
      (trace ++ [(mid, .connect 0 smallDraw .ok)]) last ∧
      ¬ NoBannedLive last := by
  obtain ⟨mid, last, hrun, -, htest⟩ := @exists_run_of_execute _ _
    (middleware {}) smallDeployment
    [.requestConnect 1 1 (some smallKey), .connect 0 smallDraw .ok,
      .operate (.mutateUser 1 { isBanned := some true } {})]
    (.connect 0 smallDraw .ok) (fun _ last => ¬ NoBannedLive last) _
    (by decide +kernel)
  exact ⟨isInitial_smallDeployment, _, mid, last, hrun, htest⟩

end VpnMiddleware.SessionLifecycle
