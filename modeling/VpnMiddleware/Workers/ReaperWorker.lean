import VpnMiddleware.Ads.AdsService
import VpnMiddleware.Core.Counting
import VpnMiddleware.Core.TransitionSystem
import VpnMiddleware.System.Shared
import VpnMiddleware.Workers.OutboxDrainer

/-!
# The reaper

Any number of instances run the loop of `reap`, one transaction `sweepOnce` at
a time, among the transactions that extend sessions and those that create them.
-/

namespace VpnMiddleware.ReaperWorker

open VpnMiddleware.Schema VpnMiddleware.Errors VpnMiddleware.Environment
open VpnMiddleware.Database VpnMiddleware.Transaction VpnMiddleware.Table
open VpnMiddleware.IdealPanel VpnMiddleware.Shared VpnMiddleware.Closing
open VpnMiddleware.AdsService VpnMiddleware.OutboxDrainer
open VpnMiddleware.TransitionSystem

/-! ## One sweep -/

/-- The where clause of a sweep. -/
def isOverdue (now : ℕ) (row : Session) : Bool :=
  row.status.isLive && decide (row.expiresAt ≤ now)

/-- The rows that a sweep returns. -/
def sweptRows (cfg : Config) (now : ℕ) (locked : List ℕ) (db : Db) :
    List Session :=
  db.sessions.filter (isNamedBy Session.id (reapable cfg now locked db))

/-- The tables after a sweep. -/
def swept (cfg : Config) (now : ℕ) (locked : List ℕ) (db : Db) : Db :=
  { db with
    sessions := updateWhere (isNamedBy Session.id (reapable cfg now locked db))
      (reapRow now) db.sessions
    panelOps := db.panelOps ++
      queuedOps now .deleteUser db.panelOps.length (sweptRows cfg now locked db) }

section Sweep

variable {cfg : Config} {now : ℕ} {locked : List ℕ} {db : Db} {row : Session}

theorem enqueueEach_run {op : PanelOpKind} (rows : List Session) :
    ∀ db : Db, enqueueEach now op rows db = .ok ((), { db with
      panelOps := db.panelOps ++ queuedOps now op db.panelOps.length rows }) := by
  induction rows with
  | nil =>
      intro db
      rw [queuedOps, List.append_nil]
      rfl
  | cons row rows ih =>
      intro db
      have hhead : enqueue now row.id op { panelUsername := row.panelUsername } db =
          .ok (db.panelOps.length + 1, { db with panelOps := db.panelOps ++
            [newPanelOp now (db.panelOps.length + 1) row.id op
              { panelUsername := row.panelUsername }] }) :=
        enqueue_ok.mpr ⟨rfl, rfl⟩
      rw [enqueueEach, bind_of_ok hhead, ih]
      simp [queuedOps]

/-- A sweep always commits. -/
theorem sweepOnce_eq : sweepOnce cfg now locked db =
    .ok ((sweptRows cfg now locked db).length, swept cfg now locked db) := by
  have hselected : (fun row : Session =>
      ((reapable cfg now locked db).map Session.id).contains row.id) =
        isNamedBy Session.id (reapable cfg now locked db) := by
    funext row
    rw [Bool.eq_iff_iff, List.contains_iff_mem, List.mem_map, isNamedBy_iff]
  rw [sweepOnce, run_get_bind]
  simp only [hselected]
  rw [updateSessions, run_modify_bind, bind_of_ok (enqueueEach_run _ _)]
  rfl

/-- What a sweep may close. -/
theorem mem_reapable_overdue (hrow : row ∈ reapable cfg now locked db) :
    row ∈ db.sessions ∧ isOverdue now row = true ∧ row.id ∉ locked := by
  have hsorted := (List.mem_insertionSort _).mp (List.mem_of_mem_take hrow)
  obtain ⟨hmem, hselected⟩ := List.mem_filter.mp hsorted
  rw [Bool.and_eq_true] at hselected
  refine ⟨hmem, hselected.1, ?_⟩
  simpa using hselected.2

/-- A batch that is not full holds everything due. -/
theorem mem_reapable_of_lt
    (hlength : (reapable cfg now locked db).length < cfg.reapBatch)
    (hrow : row ∈ db.sessions) (hoverdue : isOverdue now row = true)
    (hfree : row.id ∉ locked) : row ∈ reapable cfg now locked db := by
  have hsorted : row ∈ (db.sessions.filter fun row => row.status.isLive &&
      decide (row.expiresAt ≤ now) && !locked.contains row.id).insertionSort
        fun left right => left.expiresAt ≤ right.expiresAt := by
    rw [List.mem_insertionSort, List.mem_filter, Bool.and_eq_true]
    exact ⟨hrow, hoverdue, by simpa using hfree⟩
  rw [reapable] at hlength ⊢
  rw [List.length_take] at hlength
  rw [List.take_of_length_le (by omega)]
  exact hsorted

section Keyed

variable (hkeyed : (db.sessions.map Session.id).Nodup)

include hkeyed

theorem isNamedBy_reapable (hrow : row ∈ db.sessions) :
    isNamedBy Session.id (reapable cfg now locked db) row = true ↔
      row ∈ reapable cfg now locked db :=
  isNamedBy_iff_mem hkeyed (fun _ hother => (mem_reapable_overdue hother).1) hrow

theorem nodup_reapable : (reapable cfg now locked db).Nodup := by
  have hsessions : db.sessions.Nodup := List.Nodup.of_map _ hkeyed
  have hfilter := hsessions.filter fun row => row.status.isLive &&
    decide (row.expiresAt ≤ now) && !locked.contains row.id
  have hsorted := (List.perm_insertionSort
    (fun left right : Session => left.expiresAt ≤ right.expiresAt) _).nodup_iff.mpr
      hfilter
  exact hsorted.sublist (List.take_sublist _ _)

theorem length_sweptRows : (sweptRows cfg now locked db).length =
    (reapable cfg now locked db).length := by
  apply List.Perm.length_eq
  rw [sweptRows, List.perm_ext_iff_of_nodup ((List.Nodup.of_map _ hkeyed).filter _)
    (nodup_reapable hkeyed)]
  intro row
  rw [List.mem_filter]
  constructor
  · rintro ⟨hrow, hnamed⟩
    exact (isNamedBy_reapable hkeyed hrow).mp hnamed
  · intro hrow
    have hmem := (mem_reapable_overdue hrow).1
    exact ⟨hmem, (isNamedBy_reapable hkeyed hmem).mpr hrow⟩

end Keyed

end Sweep

/-! ## The instances -/

/-- The database with its clock, and the instances with a tick under way. -/
structure State where
  world : World
  running : ℕ → Bool := fun _ => false

inductive Action
  | advance (ms : ℕ)
  | tick (i : ℕ)
  /-- The next `sweepOnce` of a tick: its `now()` is `started`; `locked` are
  the rows that other transactions hold. -/
  | sweep (i started : ℕ) (locked : List ℕ) (reply : Reply)
  | verifyAdReward (userId grantId sessionId : ℕ) (reply : Reply)
  | createSession (id : ℕ) (values : NewSession) (reply : Reply)

/-- `if (reaped < REAP_BATCH) break`; an error ends the tick as well. -/
def goesOn (cfg : Config) : Except Failure ℕ → Bool
  | .ok reaped => !decide (reaped < cfg.reapBatch)
  | .error _ => false

def step (cfg : Config) (s : State) : Action → Option State
  | .advance ms =>
      some { s with world := { s.world with clock := s.world.clock + ms } }
  | .tick i => some { s with running := Function.update s.running i true }
  | .sweep i started locked reply =>
      if s.running i = true ∧ started ≤ s.world.clock then
        let outcome := s.world.query (sweepOnce cfg started locked) reply
        some ⟨outcome.2, Function.update s.running i (goesOn cfg outcome.1)⟩
      else none
  | .verifyAdReward userId grantId sessionId reply =>
      some { s with world := (s.world.query (verifyTransaction cfg s.world.clock
        userId grantId sessionId) reply).2 }
  | .createSession id values reply =>
      some { s with world :=
        (s.world.query (insertSession s.world.clock id values) reply).2 }

/-- The sessions have distinct ids. -/
def IsInitial (s : State) : Prop := (s.world.db.sessions.map Session.id).Nodup

def reapers (cfg : Config) : System State Action where
  init := IsInitial
  step := step cfg

/-! ## What a step does -/

theorem step_sweep {cfg : Config} {s s' : State} {i started : ℕ} {locked : List ℕ}
    {reply : Reply} (hstep : step cfg s (.sweep i started locked reply) = some s') :
    s.running i = true ∧ started ≤ s.world.clock ∧
      s' = ⟨(s.world.query (sweepOnce cfg started locked) reply).2,
        Function.update s.running i
          (goesOn cfg (s.world.query (sweepOnce cfg started locked) reply).1)⟩ := by
  simp only [step, Option.ite_none_right_eq_some, Option.some.injEq] at hstep
  exact ⟨hstep.1.1, hstep.1.2, hstep.2.symm⟩

/-- The tables after a step. -/
inductive DbStep (cfg : Config) (s : State) : Action → Db → Prop
  | same {act : Action} : DbStep cfg s act s.world.db
  | swept {i started : ℕ} {locked : List ℕ} {reply : Reply} :
      DbStep cfg s (.sweep i started locked reply)
        (swept cfg started locked s.world.db)
  | verified {userId grantId sessionId : ℕ} {reply : Reply} {planned : Planned}
      {after : Db} : VerifyCommit cfg s.world.clock userId grantId sessionId
        s.world.db planned after →
      DbStep cfg s (.verifyAdReward userId grantId sessionId reply) after
  | created {id : ℕ} {values : NewSession} {reply : Reply} {sessionId : ℕ}
      {after : Db} : insertSession s.world.clock id values s.world.db =
        .ok (sessionId, after) →
      DbStep cfg s (.createSession id values reply) after

theorem dbStep_of_step {cfg : Config} {s s' : State} {act : Action}
    (hstep : step cfg s act = some s') : DbStep cfg s act s'.world.db := by
  cases act with
  | advance ms =>
      obtain rfl := Option.some.inj hstep
      exact .same
  | tick i =>
      obtain rfl := Option.some.inj hstep
      exact .same
  | sweep i started locked reply =>
      obtain ⟨-, -, rfl⟩ := step_sweep hstep
      rcases s.world.query_db (sweepOnce cfg started locked) reply with
        hsame | ⟨result, hrun⟩
      · rw [hsame]
        exact .same
      · rw [sweepOnce_eq] at hrun
        obtain ⟨-, hafter⟩ := Prod.mk.inj (Except.ok.inj hrun)
        rw [← hafter]
        exact .swept
  | verifyAdReward userId grantId sessionId reply =>
      obtain rfl := Option.some.inj hstep
      rcases s.world.query_db (verifyTransaction cfg s.world.clock userId grantId
        sessionId) reply with hsame | ⟨planned, hrun⟩
      · rw [hsame]
        exact .same
      · exact .verified (verifyTransaction_ok hrun)
  | createSession id values reply =>
      obtain rfl := Option.some.inj hstep
      rcases s.world.query_db (insertSession s.world.clock id values) reply with
        hsame | ⟨sessionId, hrun⟩
      · rw [hsame]
        exact .same
      · exact .created hrun

end VpnMiddleware.ReaperWorker
