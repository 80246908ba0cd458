import VpnMiddleware.Invariants.AdGrants

/-!
# The status of an outbox row

Workers write to rows in flight and the inline revoke to pending rows, but the
inline push of `verifyAdReward` writes to its row whatever the status.  A row
stays succeeded or dead unless an inline push records its failure there, and a
succeeded row is not dispatched unless a worker had claimed it before.
-/

namespace VpnMiddleware.OutboxStatus

open VpnMiddleware.Schema VpnMiddleware.Environment VpnMiddleware.Database
open VpnMiddleware.Table VpnMiddleware.TransitionSystem VpnMiddleware.IdealPanel
open VpnMiddleware.Middleware VpnMiddleware.Statements VpnMiddleware.Evolution
open VpnMiddleware.Keys VpnMiddleware.VerifyFlow VpnMiddleware.DrainFlow
open VpnMiddleware.OutboxDrainer VpnMiddleware.AdGrants

variable {cfg : Config} {s s' start last : State} {act : Action}
variable {trace : List (State × Action)}

/-! ## Dispatches, inline failures and what a status may become -/

/-- The outbox row that a step dispatches. -/
def dispatchedOp (s : State) : Action → Option ℕ
  | .drain i _ => s.drains[i]?.bind fun proc =>
      match proc.stage with
      | .dispatch => some proc.row.id
      | _ => none
  | _ => none

/-- The outbox row on which a step records that the inline push failed. -/
def failedInline (s : State) : Action → Option ℕ
  | .verify i reply =>
      match reply.applies with
      | false => none
      | true => s.verifies[i]?.bind fun proc =>
          match proc.stage with
          | .recordFailed ext _ => some ext.opId
          | _ => none
  | _ => none

def IsSettled (status : PanelOpStatus) : Prop :=
  status = .succeeded ∨ status = .dead

instance (status : PanelOpStatus) : Decidable (IsSettled status) :=
  inferInstanceAs (Decidable (_ ∨ _))

/-- Succeeded rows are still succeeded, and dead rows are dead or succeeded. -/
def KeepsStatus (before after : State) : Prop :=
  ∀ op ∈ before.world.db.panelOps, ∃ op' ∈ after.world.db.panelOps,
    op'.id = op.id ∧ (op.status = .succeeded → op'.status = .succeeded) ∧
      (op.status = .dead → IsSettled op'.status)

/-- No step dispatches a row that has succeeded in a state before it. -/
def NeverDispatched (before : State) (steps : List (State × Action)) : Prop :=
  ∀ op ∈ before.world.db.panelOps, op.status = .succeeded →
    ∀ later ∈ steps, dispatchedOp later.1 later.2 ≠ some op.id

/-- From every state of a run on, statuses are kept and succeeded rows are not
dispatched. -/
def Lifecycle (trace : List (State × Action)) (last : State) : Prop :=
  ∀ before entry after, trace = before ++ entry :: after →
    Always (KeepsStatus entry.1) (entry :: after) last ∧
      NeverDispatched entry.1 (entry :: after)

/-- The step records no inline failure on a settled row and dispatches no row
that has succeeded. -/
def RespectsStatus (s : State) (act : Action) : Prop :=
  (∀ opId ∈ failedInline s act, ∀ op ∈ s.world.db.panelOps,
    op.id = opId → ¬ IsSettled op.status) ∧
  ∀ opId ∈ dispatchedOp s act, ∀ op ∈ s.world.db.panelOps,
    op.id = opId → op.status ≠ .succeeded

instance (s : State) (act : Action) : Decidable (RespectsStatus s act) :=
  inferInstanceAs (Decidable (_ ∧ _))

theorem failedInline_iff {opId : ℕ} :
    failedInline s act = some opId ↔
      ∃ i reply proc ext cause, act = .verify i reply ∧ reply.applies = true ∧
        s.verifies[i]? = some proc ∧ proc.stage = .recordFailed ext cause ∧
        ext.opId = opId := by
  constructor
  · intro hfailed
    simp only [failedInline] at hfailed
    split at hfailed
    · next i reply =>
      split at hfailed
      · simp at hfailed
      · next happlies =>
        obtain ⟨proc, hproc, hstage⟩ := Option.bind_eq_some_iff.mp hfailed
        split at hstage
        · next ext cause hfailed =>
          exact ⟨i, reply, proc, ext, cause, rfl, happlies, hproc, hfailed,
            Option.some.inj hstage⟩
        · simp at hstage
    · simp at hfailed
  · rintro ⟨i, reply, proc, ext, cause, rfl, happlies, hproc, hstage, rfl⟩
    simp only [failedInline, happlies, hproc, Option.bind_some, hstage]

theorem KeepsStatus.refl : KeepsStatus s s :=
  fun op hop => ⟨op, hop, rfl, id, Or.inr⟩

theorem KeepsStatus.trans {first mid next : State}
    (hfirst : KeepsStatus first mid) (hsecond : KeepsStatus mid next) :
    KeepsStatus first next := by
  intro op hop
  obtain ⟨op', hop', hid, hsucceeded, hdead⟩ := hfirst op hop
  obtain ⟨op'', hop'', hid', hsucceeded', hdead'⟩ := hsecond op' hop'
  refine ⟨op'', hop'', hid'.trans hid, fun h => hsucceeded' (hsucceeded h), ?_⟩
  intro hstatus
  rcases hdead hstatus with hnew | hold
  · exact Or.inl (hsucceeded' hnew)
  · exact hdead' hold

/-! ## One step -/

/-- The drainer and the inline revoke keep settled rows; so does every step
that records no inline failure on them. -/
theorem keepsStatus_step (hkeyed : Keyed s.world.db)
    (hrespects : RespectsStatus s act) (hstep : step cfg s act = some s') :
    KeepsStatus s s' := by
  rcases step_commits hstep with hsame | ⟨happlies, query, done, hstatement, hrun⟩
  · intro op hop
    exact ⟨op, hsame ▸ hop, rfl, id, Or.inr⟩
  · have heffects := effects_of_statement hkeyed happlies hstatement hrun
    intro op hop
    obtain ⟨op', hop', hchange⟩ := heffects.panelOps.forward hop
    refine ⟨op', hop', (OpChange.identity hchange).id, ?_⟩
    cases hchange with
    | same => exact ⟨id, Or.inr⟩
    | leased hdue =>
        constructor <;> intro hstatus <;> simp [isDue, hstatus] at hdue
    | completed _ _ _ _ => simp [IsSettled]
    | dispatchFailed _ _ _ hflight => simp [hflight]
    | marked _ _ _ _ => simp [IsSettled]
    | pushed _ _ _ => simp [IsSettled]
    | @pushFailed i reply proc ext cause _ hproc hstage hid =>
        have hfailed : failedInline s (.verify i reply) = some ext.opId :=
          failedInline_iff.mpr
            ⟨i, reply, proc, ext, cause, rfl, happlies, hproc, hstage, rfl⟩
        have hopen := hrespects.1 ext.opId hfailed op hop hid
        exact ⟨fun h => absurd (Or.inl h) hopen, fun h => absurd (Or.inr h) hopen⟩

/-- An inline failure reopens its row. -/
theorem not_keepsStatus_of_failedInline {opId : ℕ} {op : PanelOp}
    (hkeyed : Keyed s'.world.db) (hfailed : failedInline s act = some opId)
    (hop : op ∈ s.world.db.panelOps) (hid : op.id = opId)
    (hsettled : IsSettled op.status) (hstep : step cfg s act = some s') :
    ¬ KeepsStatus s s' := by
  obtain ⟨i, reply, proc, ext, cause, rfl, happlies, hproc, hstage, rfl⟩ :=
    failedInline_iff.mp hfailed
  have hdb := step_db hstep
  simp only [replyOf, happlies, statementOf, hproc, Option.bind_some,
    verifyStatement, hstage] at hdb
  have hfailedOp : { op with
      status := .failed
      lastError := some (String.ofList (cause.message.toList.take 500))
      nextAttemptAt := s.world.clock + 15000 } ∈ s'.world.db.panelOps := by
    rw [hdb]
    exact mem_updateWhere.mpr ⟨op, hop, by simp [hid]⟩
  intro hkeeps
  obtain ⟨op', hop', hid', hsucceeded, hdead⟩ := hkeeps op hop
  obtain rfl := hkeyed.eq_of_opId hop' hfailedOp hid'
  rcases hsettled with hstatus | hstatus
  · simpa using hsucceeded hstatus
  · simpa [IsSettled] using hdead hstatus

/-! ## Over runs -/

section Runs

variable (hinit : IsInitial start)
include hinit

theorem keyed_of_run (hrun : Run (middleware cfg) start trace last) :
    Keyed last.world.db :=
  hrun.invariant (keyed_initial hinit)
    fun _ _ _ hkeyed hstep => keyed_step hkeyed hstep

theorem respectsStatus_of_lifecycle
    (hrun : Run (middleware cfg) start trace last)
    (hlife : Lifecycle trace last) :
    ∀ entry ∈ trace, RespectsStatus entry.1 entry.2 := by
  intro entry hentry
  obtain ⟨before, after, htrace⟩ := List.append_of_mem hentry
  subst htrace
  obtain ⟨hkeeps, hnever⟩ := hlife before entry after rfl
  obtain ⟨next, hbefore, hnext, hafter⟩ := hrun.exists_split
  constructor
  · intro opId hfailed op hop hid hsettled
    have hkeyed := keyed_step (keyed_of_run hinit hbefore) hnext
    apply not_keepsStatus_of_failedInline hkeyed hfailed hop hid hsettled hnext
    apply hafter.always_start
    exact ⟨fun other hother => hkeeps.1 other (List.mem_cons_of_mem _ hother),
      hkeeps.2⟩
  · intro opId hdispatched op hop hid hstatus
    exact hnever op hop hstatus entry (List.mem_cons_self ..) (hid ▸ hdispatched)

theorem lifecycle_of_respectsStatus
    (hrun : Run (middleware cfg) start trace last)
    (hrespects : ∀ entry ∈ trace, RespectsStatus entry.1 entry.2) :
    Lifecycle trace last := by
  intro before entry after htrace
  subst htrace
  obtain ⟨next, hbefore, hnext, hafter⟩ := hrun.exists_split
  have hkeyed := keyed_of_run hinit hbefore
  have hfirst := keepsStatus_step hkeyed (hrespects entry (by simp)) hnext
  have hkeeps : Always (fun state => Keyed state.world.db ∧
      KeepsStatus entry.1 state) after last := by
    apply @Run.always_of_guard _ _ _ _ _ _ _ RespectsStatus hafter
      ⟨keyed_step hkeyed hnext, hfirst⟩
    · intro state act next hinv hguard hstep
      exact ⟨keyed_step hinv.1 hstep,
        hinv.2.trans (keepsStatus_step hinv.1 hguard hstep)⟩
    · intro later hlater
      exact hrespects later (by simp [hlater])
  have hstates : ∀ later ∈ entry :: after, KeepsStatus entry.1 later.1 := by
    intro later hlater
    rcases List.mem_cons.mp hlater with rfl | hlater
    · exact KeepsStatus.refl
    · exact (hkeeps.1 later hlater).2
  refine ⟨⟨hstates, hkeeps.2.2⟩, fun op hop hstatus later hlater hdispatched => ?_⟩
  obtain ⟨op', hop', hid, hsucceeded, -⟩ := hstates later hlater op hop
  have hmem : later ∈ before ++ entry :: after :=
    List.mem_append_right _ hlater
  exact (hrespects later hmem).2 op.id hdispatched op' hop' hid
    (hsucceeded hstatus)

/-- Outbox rows keep `succeeded` and `dead` and no succeeded row is dispatched
exactly if no step records an inline failure on a settled row or dispatches a
row that has succeeded. -/
theorem status_lifecycle_iff (hrun : Run (middleware cfg) start trace last) :
    Lifecycle trace last ↔ ∀ entry ∈ trace, RespectsStatus entry.1 entry.2 :=
  ⟨respectsStatus_of_lifecycle hinit hrun, lifecycle_of_respectsStatus hinit hrun⟩

end Runs

/-- A worker pushes an extension and records it; the inline push of the same
extension times out after that. -/
def pushedThenTimedOut : List Action :=
  watchedConnect ++ [.verifyAdReward ⟨1, 1, 1⟩, .connect 0 smallDraw .ok,
    .claim [], .drain 0 .ok, .drain 0 .ok,
    .verify 0 (.fail true (.error "timeout")), .verify 0 .ok]

theorem status_lifecycle_iff_timedOut : ∃ trace last,
    Run (middleware {}) smallDeployment trace last ∧ trace.length = 13 ∧
    (Lifecycle trace last ↔ ∀ entry ∈ trace, RespectsStatus entry.1 entry.2) := by
  obtain ⟨last, hrun⟩ := @exists_run_of_isSome _ _ (middleware {})
    smallDeployment pushedThenTimedOut (by decide +kernel)
  exact ⟨_, last, hrun, by decide +kernel,
    status_lifecycle_iff isInitial_smallDeployment hrun⟩

theorem succeeded_then_failed : IsInitial smallDeployment ∧
    ∃ trace last, Run (middleware {}) smallDeployment trace last ∧
      ¬ Lifecycle trace last := by
  obtain ⟨last, hrun⟩ := @exists_run_of_isSome _ _ (middleware {})
    smallDeployment pushedThenTimedOut (by decide +kernel)
  refine ⟨isInitial_smallDeployment, _, last, hrun, fun hlife => ?_⟩
  have hrespects :=
    respectsStatus_of_lifecycle isInitial_smallDeployment hrun hlife
  revert hrespects
  decide +kernel

end VpnMiddleware.OutboxStatus
