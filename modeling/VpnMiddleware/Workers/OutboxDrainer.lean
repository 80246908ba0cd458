import Mathlib.Data.List.Sort
import VpnMiddleware.Common.Environment
import VpnMiddleware.Schema.Closing

/-!
# The outbox drainer and the reaper: database work

The claim of due outbox rows, the statements that record a dispatch, the
retry policy and the reaper's sweep.  The panel calls of a dispatch are in
`System.DrainFlow`.
-/

namespace VpnMiddleware.OutboxDrainer

open VpnMiddleware.Schema VpnMiddleware.Errors VpnMiddleware.Environment
open VpnMiddleware.Database VpnMiddleware.Transaction VpnMiddleware.Table
open VpnMiddleware.Closing

/-- A claimed row, as `returning` gives it. -/
structure OutboxRow where
  id : ℕ
  op : PanelOpKind
  payload : PanelOpPayload
  attempts : ℕ
  deriving DecidableEq, Repr

/-! ## Claim -/

/-- The where clause of the claim. -/
def isDue (now : ℕ) (op : PanelOp) : Bool :=
  (op.status == .pending || op.status == .failed ||
    (op.status == .inFlight && decide (op.nextAttemptAt ≤ now))) &&
    decide (op.nextAttemptAt ≤ now)

/-- `order by next_attempt_at, id`. -/
def claimsFirst (left right : PanelOp) : Bool :=
  decide (left.nextAttemptAt < right.nextAttemptAt) ||
    (left.nextAttemptAt == right.nextAttemptAt && decide (left.id ≤ right.id))

/-- The rows to claim; `locked` are the ids skipped because another
transaction holds them. -/
def claimable (cfg : Config) (now : ℕ) (locked : List ℕ) (db : Db) :
    List PanelOp :=
  ((db.panelOps.filter fun op => isDue now op && !locked.contains op.id)
    |>.insertionSort (claimsFirst · ·)).take cfg.batch

/-- `set status = 'in_flight', attempts = attempts + 1, next_attempt_at = ..`. -/
def lease (cfg : Config) (now : ℕ) (op : PanelOp) : PanelOp :=
  { op with
    status := .inFlight
    attempts := op.attempts + 1
    nextAttemptAt := now + cfg.leaseMin * 60000 }

def claim (cfg : Config) (now : ℕ) (locked : List ℕ) :
    Query (List OutboxRow) := do
  let db ← get
  let rows := claimable cfg now locked db
  updatePanelOps (fun op => (rows.map PanelOp.id).contains op.id)
    (lease cfg now)
  return rows.map fun op => ⟨op.id, op.op, op.payload, op.attempts + 1⟩

/-! ## Recording a dispatch -/

def recordSucceeded (now opId : ℕ) : Query Unit :=
  updatePanelOps (fun op => op.id == opId && op.status == .inFlight)
    fun op => { op with status := .succeeded, completedAt := some now }

/-- Whether a failed dispatch is not retried. -/
def isDead (cfg : Config) (row : OutboxRow) (cause : Failure) : Bool :=
  !cause.retryable || decide (cfg.maxAttempts ≤ row.attempts)

def backoffSec (attempts : ℕ) : ℕ := min 300 (2 ^ min attempts 8)

def recordFailed (cfg : Config) (now : ℕ) (row : OutboxRow) (cause : Failure) :
    Query Unit :=
  updatePanelOps (fun op => op.id == row.id && op.status == .inFlight) fun op =>
    { op with
      status := if isDead cfg row cause then .dead else .failed
      lastError := some (String.ofList (cause.message.toList.take 500))
      nextAttemptAt := now + backoffSec row.attempts * 1000 }

def stampSyncOf (now : ℕ) (panelUsername : String) : Query Unit :=
  updateSessions (fun row => row.panelUsername == panelUsername)
    fun row => { row with lastPanelSyncAt := some now }

/-! ## Reaper -/

/-- The sessions that a sweep closes. -/
def reapable (cfg : Config) (now : ℕ) (locked : List ℕ) (db : Db) :
    List Session :=
  ((db.sessions.filter fun row => row.status.isLive &&
      decide (row.expiresAt ≤ now) && !locked.contains row.id)
    |>.insertionSort fun left right => left.expiresAt ≤ right.expiresAt).take
      cfg.reapBatch

/-- `close_reason = coalesce(close_reason, 'reaped_expired')`. -/
def reapRow (now : ℕ) (row : Session) : Session :=
  closeRow now .expired (row.closeReason.getD "reaped_expired") row

/-- `ReaperWorker.sweepOnce`; returns the number of sessions closed. -/
def sweepOnce (cfg : Config) (now : ℕ) (locked : List ℕ) : Query ℕ := do
  let db ← get
  let ids := (reapable cfg now locked db).map Session.id
  let selected := fun row : Session => ids.contains row.id
  updateSessions selected (reapRow now)
  let rows := db.sessions.filter selected
  enqueueEach now .deleteUser rows
  return rows.length

/-! ## Specifications -/

section Specifications

variable {cfg : Config} {now : ℕ} {locked : List ℕ} {db after : Db}

theorem mem_reapable {row : Session} (hrow : row ∈ reapable cfg now locked db) :
    row ∈ db.sessions ∧ row.status.isLive = true := by
  have hsorted := (List.mem_insertionSort _).mp (List.mem_of_mem_take hrow)
  obtain ⟨hmem, hselected⟩ := List.mem_filter.mp hsorted
  simp only [Bool.and_eq_true] at hselected
  exact ⟨hmem, hselected.1.1⟩

theorem sweepOnce_ok {count : ℕ} (hkeyed : KeyedSessions db)
    (hok : sweepOnce cfg now locked db = .ok (count, after)) :
    (∃ rows, Closes now rows db after) ∧ after.users = db.users := by
  simp only [sweepOnce, updateSessions, bind_ok, get_ok, modify_ok,
    pure_ok] at hok
  obtain ⟨_, _, ⟨rfl, rfl⟩, _, _, rfl, _, _, hrun, -, rfl⟩ := hok
  refine ⟨⟨_, Closes.of_selected hkeyed ?_ ?_ (Or.inr rfl) hrun⟩,
    by rw [enqueueEach_ok hrun]⟩
  · intro row hrow hsel
    obtain ⟨other, hother, hid⟩ := List.mem_map.mp (List.contains_iff_mem.mp hsel)
    obtain ⟨hmem, hlive⟩ := mem_reapable hother
    exact eq_of_key hkeyed.ids hmem hrow hid ▸ hlive
  · exact fun row => ⟨.expired, _, Or.inr rfl, rfl⟩

theorem mem_claimable {op : PanelOp}
    (hop : op ∈ claimable cfg now locked db) :
    op ∈ db.panelOps ∧ isDue now op = true := by
  have hsorted := (List.mem_insertionSort _).mp (List.mem_of_mem_take hop)
  obtain ⟨hmem, hdue⟩ := List.mem_filter.mp hsorted
  exact ⟨hmem, (Bool.and_eq_true _ _ ▸ hdue).1⟩

/-- The row that a claim returns for an outbox row. -/
def claimedRow (op : PanelOp) : OutboxRow :=
  ⟨op.id, op.op, op.payload, op.attempts + 1⟩

theorem claim_ok {rows : List OutboxRow}
    (hok : claim cfg now locked db = .ok (rows, after)) :
    rows = (claimable cfg now locked db).map claimedRow ∧
      after = { db with
        panelOps := updateWhere
          (isNamedBy PanelOp.id (claimable cfg now locked db)) (lease cfg now)
          db.panelOps } := by
  simp only [claim, updatePanelOps, bind_ok, get_ok, modify_ok, pure_ok] at hok
  obtain ⟨_, _, ⟨rfl, rfl⟩, _, _, rfl, rfl, rfl⟩ := hok
  refine ⟨rfl, ?_⟩
  congr 2
  funext op
  rw [Bool.eq_iff_iff, isNamedBy_iff, List.contains_iff_mem, List.mem_map]

end Specifications

end VpnMiddleware.OutboxDrainer
