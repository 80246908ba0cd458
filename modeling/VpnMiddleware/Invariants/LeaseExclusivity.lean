import VpnMiddleware.Invariants.SessionLifecycle

/-!
# Leases of outbox rows

A claim leases an outbox row to one worker and increments its `attempts`, so
the counter numbers the claims of the row.  A worker that writes an outcome
back looks at the status of the row alone: it may write to a row that another
worker has reclaimed, and it does so exactly if the counter has moved on.
-/

namespace VpnMiddleware.LeaseExclusivity

open VpnMiddleware.Schema VpnMiddleware.Environment VpnMiddleware.Database
open VpnMiddleware.Transaction VpnMiddleware.Table VpnMiddleware.Closing
open VpnMiddleware.TransitionSystem VpnMiddleware.IdealPanel
open VpnMiddleware.Middleware VpnMiddleware.Statements VpnMiddleware.Evolution
open VpnMiddleware.Keys VpnMiddleware.DrainFlow VpnMiddleware.OutboxDrainer
open VpnMiddleware.AdsService VpnMiddleware.SessionLifecycle

variable {cfg : Config} {s s' start last : State} {act : Action}
variable {trace : List (State × Action)} {row : OutboxRow}

/-! ## Claims and completions -/

/-- The outbox rows that a step leases to a worker. -/
def claimedBy (cfg : Config) (entry : State × Action) : List OutboxRow :=
  match entry.2 with
  | .claim locked =>
      (claimable cfg entry.1.world.clock locked entry.1.world.db).map claimedRow
  | _ => []

def claims (cfg : Config) (opId : ℕ) (entry : State × Action) : Bool :=
  (claimedBy cfg entry).any fun row => row.id == opId

/-- The claimed row whose outcome a step writes back: `succeeded`, or `failed`
and `dead` with the next attempt. -/
def completionWrite (s : State) : Action → Option OutboxRow
  | .drain i reply =>
      match reply.applies with
      | false => none
      | true => s.drains[i]?.bind fun proc =>
          match proc.stage with
          | .complete => some proc.row
          | .recordFailed _ => some proc.row
          | _ => none
  | _ => none

/-- Two states differ in an outbox row. -/
def ChangesOp (opId : ℕ) (before after : State) : Prop :=
  ∃ op ∈ before.world.db.panelOps, op.id = opId ∧ op ∉ after.world.db.panelOps

/-- No claim of the row follows the one that leased it. -/
def HeldSince (cfg : Config) (trace : List (State × Action))
    (row : OutboxRow) : Prop :=
  ∃ before entry after, trace = before ++ entry :: after ∧
    row ∈ claimedBy cfg entry ∧
    ∀ later ∈ after, claims cfg row.id later = false

/-- A worker that changes an outbox row by its completion write is the last
that claimed it. -/
def LeaseExclusive (cfg : Config) (trace : List (State × Action)) : Prop :=
  ∀ before entry after row next, trace = before ++ entry :: after →
    completionWrite entry.1 entry.2 = some row →
    step cfg entry.1 entry.2 = some next → ChangesOp row.id entry.1 next →
    HeldSince cfg before row

/-- A completion write meets its row under the count of its own claim, or not
in flight. -/
def StillLeased (s : State) (act : Action) : Prop :=
  ∀ row ∈ completionWrite s act, ∀ op ∈ s.world.db.panelOps,
    op.id = row.id → op.status = .inFlight → op.attempts = row.attempts

instance (s : State) (act : Action) : Decidable (StillLeased s act) :=
  inferInstanceAs (Decidable (∀ row ∈ completionWrite s act,
    ∀ op ∈ s.world.db.panelOps, op.id = row.id → op.status = .inFlight →
      op.attempts = row.attempts))

theorem claims_iff {opId : ℕ} {entry : State × Action} :
    claims cfg opId entry = true ↔ ∃ row ∈ claimedBy cfg entry, row.id = opId := by
  simp [claims]

theorem exists_of_claimedBy {entry : State × Action}
    (hrow : row ∈ claimedBy cfg entry) :
    ∃ locked, entry.2 = .claim locked ∧ ∃ op ∈ claimable cfg
      entry.1.world.clock locked entry.1.world.db, claimedRow op = row := by
  rw [claimedBy] at hrow
  split at hrow
  · next locked hact => exact ⟨locked, hact, List.mem_map.mp hrow⟩
  · simp at hrow

theorem completionWrite_eq_some (hwrite : completionWrite s act = some row) :
    ∃ i reply proc, act = .drain i reply ∧ reply.applies = true ∧
      s.drains[i]? = some proc ∧ row = proc.row ∧
      (proc.stage = .complete ∨ ∃ cause, proc.stage = .recordFailed cause) := by
  simp only [completionWrite] at hwrite
  split at hwrite
  · next i reply =>
    split at hwrite
    · simp at hwrite
    · next happlies =>
      obtain ⟨proc, hproc, hstage⟩ := Option.bind_eq_some_iff.mp hwrite
      refine ⟨i, reply, proc, rfl, happlies, hproc, ?_⟩
      split at hstage
      · next hcomplete =>
        exact ⟨(Option.some.inj hstage).symm, Or.inl hcomplete⟩
      · next cause hfailed =>
        exact ⟨(Option.some.inj hstage).symm, Or.inr ⟨cause, hfailed⟩⟩
      · simp at hstage
  · simp at hwrite

/-! ## What a completion write does -/

/-- A completion write updates the row with its id, if that is in flight. -/
theorem panelOps_of_completionWrite (hwrite : completionWrite s act = some row)
    (hstep : step cfg s act = some s') :
    ∃ change : PanelOp → PanelOp, (∀ op, (change op).status ≠ .inFlight) ∧
      s'.world.db.panelOps = updateWhere
        (fun op => op.id == row.id && op.status == .inFlight) change
        s.world.db.panelOps := by
  obtain ⟨i, reply, proc, rfl, happlies, hproc, rfl, hstage⟩ :=
    completionWrite_eq_some hwrite
  have hdb := step_db hstep
  simp only [replyOf, happlies, statementOf, hproc, Option.bind_some] at hdb
  rcases hstage with hstage | ⟨cause, hstage⟩
  · simp only [drainStatement, hstage] at hdb
    refine ⟨fun op =>
      { op with status := .succeeded, completedAt := some s.world.clock }, ?_, ?_⟩
    · simp
    · rw [hdb]
      rfl
  · simp only [drainStatement, hstage] at hdb
    refine ⟨fun op =>
      { op with
        status := if isDead cfg proc.row cause then .dead else .failed
        lastError := some (String.ofList (cause.message.toList.take 500))
        nextAttemptAt :=
          s.world.clock + backoffSec proc.row.attempts * 1000 }, ?_, ?_⟩
    · intro op
      dsimp only
      split <;> simp
    · rw [hdb]
      rfl

theorem changesOp_iff (hwrite : completionWrite s act = some row)
    (hstep : step cfg s act = some s') :
    ChangesOp row.id s s' ↔ ∃ op ∈ s.world.db.panelOps,
      op.id = row.id ∧ op.status = .inFlight := by
  obtain ⟨change, hchange, hafter⟩ := panelOps_of_completionWrite hwrite hstep
  constructor
  · rintro ⟨op, hop, hid, hgone⟩
    refine ⟨op, hop, hid, ?_⟩
    by_contra hstatus
    apply hgone
    rw [hafter]
    exact mem_updateWhere.mpr ⟨op, hop, by simp [hstatus]⟩
  · rintro ⟨op, hop, hid, hstatus⟩
    refine ⟨op, hop, hid, ?_⟩
    intro hkept
    rw [hafter] at hkept
    obtain ⟨old, -, heq⟩ := mem_updateWhere.mp hkept
    split at heq
    · exact hchange old (heq ▸ hstatus)
    · next hselected =>
      subst heq
      exact hselected (by simp [hid, hstatus])

/-! ## The counter numbers the claims -/

/-- `attempts` counts the claims of an outbox row, and a worker holds rows that
it has claimed. -/
structure Leases (cfg : Config) (trace : List (State × Action)) (s : State) :
    Prop where
  keyed : Keyed s.world.db
  attempts : ∀ op ∈ s.world.db.panelOps,
    op.attempts = trace.countP (claims cfg op.id)
  claimed : ∀ entry ∈ trace, ∀ row ∈ claimedBy cfg entry,
    row.id ≤ s.world.db.panelOps.length
  held : ∀ proc ∈ s.drains, ∀ row ∈ proc.rows,
    ∃ entry ∈ trace, row ∈ claimedBy cfg entry

theorem leases_initial (hinit : IsInitial s) : Leases cfg [] s where
  keyed := keyed_initial hinit
  attempts := by simp [hinit.panelOps]
  claimed := by simp
  held := by simp [hinit.drains]

theorem countP_append_entry (opId : ℕ) :
    (trace ++ [(s, act)]).countP (claims cfg opId) =
      trace.countP (claims cfg opId) +
        if claims cfg opId (s, act) = true then 1 else 0 := by
  rw [List.countP_append, List.countP_singleton]

/-- A new outbox row has not been attempted. -/
theorem attempts_of_opsAdded {after : Db} {added : List PanelOp}
    (hadded : OpsAdded cfg s after act added) {op : PanelOp} (hop : op ∈ added) :
    op.attempts = 0 := by
  cases hadded with
  | closing _ _ _ _ =>
      obtain ⟨_, _, _, _, rfl⟩ := mem_queuedOps hop
      rfl
  | failEnqueue _ _ =>
      rw [List.mem_singleton] at hop
      exact hop ▸ rfl
  | extension _ =>
      rw [List.mem_singleton] at hop
      exact hop ▸ rfl

theorem length_panelOps_le (hkeyed : Keyed s.world.db)
    (hstep : step cfg s act = some s') :
    s.world.db.panelOps.length ≤ s'.world.db.panelOps.length := by
  obtain ⟨kept, added, hafter, hkept, -⟩ := (step_effects hkeyed hstep).panelOps
  rw [hafter, List.length_append, hkept.length_eq]
  exact Nat.le_add_right ..

/-- A claim leases the rows it returns. -/
theorem panelOps_of_claim {locked : List ℕ}
    (hstep : step cfg s (.claim locked) = some s') :
    s'.world.db.panelOps = updateWhere
      (fun op => claims cfg op.id (s, .claim locked)) (lease cfg s.world.clock)
      s.world.db.panelOps := by
  have hdb := (step_db hstep).trans (withTransaction_effect _ _)
  have hclaim : OutboxDrainer.claim cfg s.world.clock locked s.world.db =
      .ok (_, _) := rfl
  rw [hdb, withTransaction_of_ok hclaim, (claim_ok hclaim).2]
  apply updateWhere_congr
  intro op _
  rw [Bool.eq_iff_iff, isNamedBy_iff, claims_iff]
  simp [claimedBy, claimedRow]

theorem claims_le (hkeyed : Keyed s.world.db) (hrow : row ∈ claimedBy cfg (s, act)) :
    row.id ≤ s.world.db.panelOps.length := by
  obtain ⟨locked, -, op, hop, rfl⟩ := exists_of_claimedBy hrow
  exact hkeyed.opId_le (mem_claimable hop).1

/-- A row that does not exist yet has not been claimed. -/
theorem countP_fresh (hleases : Leases cfg trace s) {opId : ℕ}
    (hfresh : s.world.db.panelOps.length < opId) :
    (trace ++ [(s, act)]).countP (claims cfg opId) = 0 := by
  rw [List.countP_eq_zero]
  intro entry hentry hclaims
  obtain ⟨row, hrow, rfl⟩ := claims_iff.mp hclaims
  rcases List.mem_append.mp hentry with hold | hnew
  · exact Nat.not_lt.mpr (hleases.claimed entry hold row hrow) hfresh
  · rw [List.mem_singleton] at hnew
    subst hnew
    exact Nat.not_lt.mpr (claims_le hleases.keyed hrow) hfresh

section Step

variable (hleases : Leases cfg trace s) (hstep : step cfg s act = some s')
include hleases hstep

theorem attempts_step (op' : PanelOp) (hop' : op' ∈ s'.world.db.panelOps) :
    op'.attempts = (trace ++ [(s, act)]).countP (claims cfg op'.id) := by
  by_cases hclaim : ∃ locked, act = .claim locked
  · obtain ⟨locked, rfl⟩ := hclaim
    rw [panelOps_of_claim hstep] at hop'
    obtain ⟨op, hop, rfl⟩ := mem_updateWhere.mp hop'
    rw [countP_append_entry]
    split
    · next hclaimed =>
      rw [show (lease cfg s.world.clock op).id = op.id from rfl, if_pos hclaimed,
        ← hleases.attempts op hop]
      rfl
    · exact hleases.attempts op hop
  · have hnone : ∀ opId, claims cfg opId (s, act) = false := by
      intro opId
      rw [Bool.eq_false_iff]
      intro hclaims
      obtain ⟨row, hrow, -⟩ := claims_iff.mp hclaims
      obtain ⟨locked, hact, -⟩ := exists_of_claimedBy hrow
      exact hclaim ⟨locked, hact⟩
    rcases (step_effects hleases.keyed hstep).panelOps.backward hop' with
      ⟨op, hop, hchange⟩ | ⟨added, hadded, hnew⟩
    · have hsame : op'.attempts = op.attempts := by
        cases hchange with
        | leased _ => exact absurd ⟨_, rfl⟩ hclaim
        | _ => rfl
      rw [countP_append_entry, hnone, hsame, (OpChange.identity hchange).id]
      exact hleases.attempts op hop
    · rw [attempts_of_opsAdded hadded hnew,
        countP_fresh hleases (hadded.fresh hnew)]

theorem claimed_step (entry : State × Action) (hentry : entry ∈ trace ++ [(s, act)])
    (row : OutboxRow) (hrow : row ∈ claimedBy cfg entry) :
    row.id ≤ s'.world.db.panelOps.length := by
  apply le_trans _ (length_panelOps_le hleases.keyed hstep)
  rcases List.mem_append.mp hentry with hold | hnew
  · exact hleases.claimed entry hold row hrow
  · rw [List.mem_singleton] at hnew
    subst hnew
    exact claims_le hleases.keyed hrow

theorem held_step (proc : DrainProc) (hproc : proc ∈ s'.drains)
    (row : OutboxRow) (hrow : row ∈ proc.rows) :
    ∃ entry ∈ trace ++ [(s, act)], row ∈ claimedBy cfg entry := by
  have hkept : ∀ old ∈ s.drains, row ∈ old.rows →
      ∃ entry ∈ trace ++ [(s, act)], row ∈ claimedBy cfg entry := by
    intro old hold hrow
    obtain ⟨entry, hentry, hclaimed⟩ := hleases.held old hold row hrow
    exact ⟨entry, List.mem_append_left _ hentry, hclaimed⟩
  rcases drains_step hstep hproc with
    hold | ⟨locked, rfl, -, hrows⟩ | ⟨i, reply, old, rfl, hold, hrows⟩
  · exact hkept proc hold hrow
  · rw [hrows] at hrow
    exact ⟨_, List.mem_append_right _ (List.mem_singleton_self _), hrow⟩
  · have hmem := List.mem_of_getElem? hold
    rcases hrows with ⟨hrows, -⟩ | ⟨hrows, -⟩
    · exact hkept old hmem (hrows ▸ hrow)
    · exact hkept old hmem (List.mem_cons_of_mem _ (hrows ▸ hrow))

theorem leases_step : Leases cfg (trace ++ [(s, act)]) s' where
  keyed := keyed_step hleases.keyed hstep
  attempts := attempts_step hleases hstep
  claimed := claimed_step hleases hstep
  held := held_step hleases hstep

end Step

/-! ## Leases over runs -/

section Runs

variable (hinit : IsInitial start)
include hinit

theorem leases_run (hrun : Run (middleware cfg) start trace last) :
    Leases cfg trace last :=
  hrun.induction_on (leases_initial hinit)
    fun _ _ _ _ hleases hstep => leases_step hleases hstep

/-- A claimed row carries the number of its claim. -/
theorem attempts_of_claimedBy {before after : List (State × Action)}
    {entry : State × Action}
    (hrun : Run (middleware cfg) start (before ++ entry :: after) last)
    (hrow : row ∈ claimedBy cfg entry) :
    row.attempts = before.countP (claims cfg row.id) + 1 := by
  obtain ⟨_, hbefore, -, -⟩ := hrun.exists_split
  obtain ⟨locked, -, op, hop, rfl⟩ := exists_of_claimedBy hrow
  have hattempts :=
    (leases_run hinit hbefore).attempts op (mem_claimable hop).1
  exact congrArg (· + 1) hattempts

/-- A worker's claim is the last one exactly if its number is the number of
claims. -/
theorem heldSince_iff (hrun : Run (middleware cfg) start trace last)
    (hclaimed : ∃ entry ∈ trace, row ∈ claimedBy cfg entry) :
    HeldSince cfg trace row ↔
      trace.countP (claims cfg row.id) = row.attempts := by
  have hcount : ∀ before entry after, trace = before ++ entry :: after →
      row ∈ claimedBy cfg entry → trace.countP (claims cfg row.id) =
        row.attempts + after.countP (claims cfg row.id) := by
    intro before entry after htrace hrow
    subst htrace
    have hclaims : claims cfg row.id entry = true :=
      claims_iff.mpr ⟨row, hrow, rfl⟩
    rw [List.countP_append, List.countP_cons_of_pos hclaims,
      attempts_of_claimedBy hinit hrun hrow]
    omega
  constructor
  · rintro ⟨before, entry, after, htrace, hrow, hlater⟩
    rw [hcount before entry after htrace hrow, List.countP_eq_zero.mpr]
    · rfl
    · intro later hmem
      rw [hlater later hmem]
      exact Bool.false_ne_true
  · intro hattempts
    obtain ⟨entry, hentry, hrow⟩ := hclaimed
    obtain ⟨before, after, htrace⟩ := List.append_of_mem hentry
    refine ⟨before, entry, after, htrace, hrow, ?_⟩
    have hzero : after.countP (claims cfg row.id) = 0 := by
      have hsum := hcount before entry after htrace hrow
      omega
    intro later hmem
    exact Bool.eq_false_iff.mpr (List.countP_eq_zero.mp hzero later hmem)

/-- The row of a completion write was leased to its worker. -/
theorem claimed_of_completionWrite
    (hrun : Run (middleware cfg) start trace last)
    (hwrite : completionWrite last act = some row) :
    ∃ entry ∈ trace, row ∈ claimedBy cfg entry := by
  obtain ⟨i, reply, proc, rfl, -, hproc, rfl, -⟩ :=
    completionWrite_eq_some hwrite
  exact (leases_run hinit hrun).held proc (List.mem_of_getElem? hproc) proc.row
    (List.mem_cons_self ..)

theorem stillLeased_of_exclusive (hrun : Run (middleware cfg) start trace last)
    (hexclusive : LeaseExclusive cfg trace) :
    ∀ entry ∈ trace, StillLeased entry.1 entry.2 := by
  intro entry hentry row hwrite op hop hid hstatus
  obtain ⟨before, after, next, htrace, hbefore, hnext⟩ := hrun.exists_prefix hentry
  have hchanges := (changesOp_iff hwrite hnext).mpr ⟨op, hop, hid, hstatus⟩
  have hheld := hexclusive before entry after row next htrace hwrite hnext hchanges
  have hclaimed := claimed_of_completionWrite hinit hbefore hwrite
  calc op.attempts = before.countP (claims cfg op.id) :=
        (leases_run hinit hbefore).attempts op hop
    _ = before.countP (claims cfg row.id) := by rw [hid]
    _ = row.attempts := (heldSince_iff hinit hbefore hclaimed).mp hheld

theorem exclusive_of_stillLeased (hrun : Run (middleware cfg) start trace last)
    (hleased : ∀ entry ∈ trace, StillLeased entry.1 entry.2) :
    LeaseExclusive cfg trace := by
  intro before entry after row next htrace hwrite hnext hchanges
  subst htrace
  obtain ⟨_, hbefore, -, -⟩ := hrun.exists_split
  obtain ⟨op, hop, hid, hstatus⟩ := (changesOp_iff hwrite hnext).mp hchanges
  have hclaimed := claimed_of_completionWrite hinit hbefore hwrite
  apply (heldSince_iff hinit hbefore hclaimed).mpr
  calc before.countP (claims cfg row.id)
      = before.countP (claims cfg op.id) := by rw [hid]
    _ = op.attempts := ((leases_run hinit hbefore).attempts op hop).symm
    _ = row.attempts := hleased entry (by simp) row hwrite op hop hid hstatus

/-- Workers complete only rows that nobody has reclaimed exactly if every
completion write meets its row under the count of its own claim. -/
theorem lease_exclusive_iff (hrun : Run (middleware cfg) start trace last) :
    LeaseExclusive cfg trace ↔ ∀ entry ∈ trace, StillLeased entry.1 entry.2 :=
  ⟨stillLeased_of_exclusive hinit hrun, exclusive_of_stillLeased hinit hrun⟩

end Runs

/-- A worker deletes the user of a kicked session on the panel, outlives its
lease and completes the row that another worker has reclaimed. -/
def reclaimedLease : List Action :=
  kickedConnect ++ [.claim [], .drain 0 .ok, .drain 0 .ok, .advance 120000,
    .claim [], .drain 0 .ok]

theorem lease_exclusive_iff_reclaimed : ∃ trace last,
    Run (middleware {}) smallDeployment trace last ∧ trace.length = 10 ∧
    (LeaseExclusive {} trace ↔ ∀ entry ∈ trace, StillLeased entry.1 entry.2) := by
  obtain ⟨last, hrun⟩ := @exists_run_of_isSome _ _ (middleware {})
    smallDeployment reclaimedLease (by decide +kernel)
  exact ⟨_, last, hrun, by decide +kernel,
    lease_exclusive_iff isInitial_smallDeployment hrun⟩

theorem lease_not_exclusive : IsInitial smallDeployment ∧
    ∃ trace last, Run (middleware {}) smallDeployment trace last ∧
      ¬ LeaseExclusive {} trace := by
  obtain ⟨last, hrun⟩ := @exists_run_of_isSome _ _ (middleware {})
    smallDeployment reclaimedLease (by decide +kernel)
  refine ⟨isInitial_smallDeployment, _, last, hrun, fun hexclusive => ?_⟩
  have hleased :=
    stillLeased_of_exclusive isInitial_smallDeployment hrun hexclusive
  revert hleased
  decide +kernel

end VpnMiddleware.LeaseExclusivity
