import VpnMiddleware.Invariants.ClaimedTime
import VpnMiddleware.Workers.ReaperWorker

/-!
# What the reaper closes

A sweep closes sessions whose time has run out, each of them once and with one
outbox row.  The loop ends since every full batch uses up live sessions, and
its last batch leaves nothing behind that was due.
-/

namespace VpnMiddleware.Reaping

open VpnMiddleware.Schema VpnMiddleware.Errors VpnMiddleware.Environment
open VpnMiddleware.Database VpnMiddleware.Transaction VpnMiddleware.Table
open VpnMiddleware.IdealPanel VpnMiddleware.Shared VpnMiddleware.Closing
open VpnMiddleware.AdsService VpnMiddleware.OutboxDrainer
open VpnMiddleware.ReaperWorker VpnMiddleware.TransitionSystem
open VpnMiddleware.Counting VpnMiddleware.ClaimedTime

variable {cfg : Config} {s s' start last : State} {act : Action}
variable {trace : List (State × Action)} {db : Db} {id : ℕ}

/-! ## One row -/

def rowAt (id : ℕ) (db : Db) : Option Session :=
  db.sessions.find? fun row => row.id == id

theorem mem_of_rowAt {row : Session} (hrow : rowAt id db = some row) :
    row ∈ db.sessions ∧ row.id = id :=
  ⟨List.mem_of_find?_eq_some hrow, by simpa using List.find?_some hrow⟩

theorem rowAt_of_sessions {db' : Db} {selected : Session → Bool}
    {change : Session → Session} (hkeep : ∀ row, (change row).id = row.id)
    (hsessions : db'.sessions = updateWhere selected change db.sessions) :
    rowAt id db' =
      (rowAt id db).map fun row => if selected row then change row else row := by
  rw [rowAt, hsessions, updateWhere, List.find?_map, rowAt]
  congr 1
  apply congrArg (List.find? · db.sessions)
  funext row
  by_cases hselected : selected row = true <;> simp [hselected, hkeep]

/-- What a step does to the row of a session. -/
inductive RowStep (s : State) (id : ℕ) : Action → Option Session →
    Option Session → Prop
  | same {act : Action} {row : Option Session} : RowStep s id act row row
  | reaped {i started : ℕ} {locked : List ℕ} {reply : Reply} {row : Session} :
      isOverdue started row = true →
      RowStep s id (.sweep i started locked reply) (some row)
        (some (reapRow started row))
  | extended {userId grantId : ℕ} {reply : Reply} {row : Session}
      {newExpires : ℕ} : row.status.isLive = true →
      row.expiresAt ≤ newExpires → s.world.clock < newExpires →
      RowStep s id (.verifyAdReward userId grantId id reply) (some row)
        (some (extendRow grantId newExpires row))
  | created {values : NewSession} {reply : Reply} {new : Session} :
      RowStep s id (.createSession id values reply) none (some new)

theorem lt_extendedExpiry {now minutes : ℕ} {row : Session}
    (hpos : 0 < minutes) (hbelow : isAtCap cfg now row = false) :
    row.expiresAt ≤ extendedExpiry cfg now minutes row ∧
      now < extendedExpiry cfg now minutes row := by
  have hcap : base now row < cap cfg row := by
    rw [← Nat.not_le, ← isAtCap_iff, hbelow]
    exact Bool.false_ne_true
  rw [extendedExpiry_eq]
  rw [base] at hcap ⊢
  omega

/-- Ids stay keys. -/
theorem keyed_step (hkeyed : IsInitial s) (hstep : step cfg s act = some s') :
    IsInitial s' := by
  have hdb := dbStep_of_step hstep
  rw [IsInitial] at hkeyed ⊢
  generalize s'.world.db = after at hdb ⊢
  cases hdb with
  | same => exact hkeyed
  | @swept i started locked reply =>
      have hids : (swept cfg started locked s.world.db).sessions.map Session.id =
          s.world.db.sessions.map Session.id := map_updateWhere (fun _ => by rfl) _ _
      rw [hids]
      exact hkeyed
  | @verified userId grantId sessionId reply planned _ hcommit =>
      cases hcommit with
      | replay => exact hkeyed
      | claim => exact hkeyed
      | @extend grant session newExpires =>
          have hids : (withExtension s.world.clock grantId session newExpires
              s.world.db).sessions.map Session.id =
                s.world.db.sessions.map Session.id := map_updateWhere (fun _ => by rfl) _ _
          rw [hids]
          exact hkeyed
  | created hinsert =>
      obtain ⟨credentialRef, -, -, hfresh, -, rfl⟩ := insertSession_ok hinsert
      rw [List.map_append, List.nodup_append]
      refine ⟨hkeyed, List.nodup_singleton _, ?_⟩
      intro left hleft right hright
      obtain ⟨row, hrow, rfl⟩ := List.mem_map.mp hleft
      rw [List.mem_map] at hright
      obtain ⟨new, hnew, rfl⟩ := hright
      rw [List.mem_singleton.mp hnew]
      exact hfresh row hrow

theorem keyed_run (hinit : IsInitial start)
    (hrun : Run (reapers cfg) start trace last) : IsInitial last :=
  hrun.invariant hinit fun _ _ _ hkeyed hstep => keyed_step hkeyed hstep

theorem rowStep_of_step (hkeyed : IsInitial s) (hstep : step cfg s act = some s')
    (id : ℕ) : RowStep s id act (rowAt id s.world.db) (rowAt id s'.world.db) := by
  have hdb := dbStep_of_step hstep
  generalize s'.world.db = after at hdb ⊢
  cases hdb with
  | same => exact .same
  | @swept i started locked reply =>
      have hafter := @rowAt_of_sessions s.world.db id
        (swept cfg started locked s.world.db) _ (reapRow started) (fun _ => rfl) rfl
      rw [hafter]
      cases hat : rowAt id s.world.db with
      | none => exact .same
      | some row =>
          rw [Option.map_some]
          split
          · rename_i hnamed
            have hreaped := (isNamedBy_reapable hkeyed (mem_of_rowAt hat).1).mp hnamed
            exact .reaped (mem_reapable_overdue hreaped).2.1
          · exact .same
  | @verified userId grantId sessionId reply planned _ hcommit =>
      cases hcommit with
      | replay => exact .same
      | claim => exact .same
      | @extend grant session newExpires hclaimed hpos hexpires =>
          have hafter := @rowAt_of_sessions s.world.db id
            (withExtension s.world.clock grantId session newExpires s.world.db) _
            (extendRow grantId newExpires) (fun _ => rfl) rfl
          rw [hafter]
          cases hat : rowAt id s.world.db with
          | none => exact .same
          | some row =>
              obtain ⟨hmem, rfl⟩ := mem_of_rowAt hat
              rw [Option.map_some]
              split
              · rename_i hsame
                have hrow : row = session :=
                  eq_of_key hkeyed hmem hclaimed.session_mem (by simpa using hsame)
                subst hrow
                rw [← hclaimed.session_id]
                obtain ⟨hlater, hfuture⟩ := lt_extendedExpiry hpos
                  (hclaimed.below_cap hpos)
                rw [← hexpires] at hlater hfuture
                exact .extended hclaimed.session_live hlater hfuture
              · exact .same
  | @created newId values reply sessionId _ hinsert =>
      obtain ⟨credentialRef, -, -, hfresh, -, rfl⟩ := insertSession_ok hinsert
      have hafter : rowAt id { s.world.db with sessions := s.world.db.sessions ++
          [values.row s.world.clock newId credentialRef] } =
            (rowAt id s.world.db).or
              ([values.row s.world.clock newId credentialRef].find?
                fun row => row.id == id) := List.find?_append
      rw [hafter]
      cases hat : rowAt id s.world.db with
      | some row => exact .same
      | none =>
          by_cases hid : newId = id
          · subst hid
            have hfound : [values.row s.world.clock newId credentialRef].find?
                (fun row => row.id == newId) =
                  some (values.row s.world.clock newId credentialRef) :=
              List.find?_cons_of_pos (by simp [NewSession.row])
            rw [hfound]
            exact .created
          · have hmissing : [values.row s.world.clock newId credentialRef].find?
                (fun row => row.id == id) = none := by
              simp [NewSession.row, hid]
            rw [hmissing]
            exact .same

/-! ## Closed once -/

/-- A sweep that changes the row of a session. -/
def closes (cfg : Config) (id : ℕ) (entry : State × Action) : Bool :=
  match entry.2 with
  | .sweep _ _ _ _ => (step cfg entry.1 entry.2).any fun next =>
      decide (rowAt id next.world.db ≠ rowAt id entry.1.world.db)
  | _ => false

/-- The outbox rows that delete a session's panel user. -/
def deleteOps (id : ℕ) (db : Db) : ℕ :=
  db.panelOps.countP fun op => op.op == .deleteUser && op.sessionId == some id

theorem closes_iff (hstep : step cfg s act = some s') :
    closes cfg id (s, act) = true ↔ (∃ i started locked reply,
      act = .sweep i started locked reply) ∧
        rowAt id s'.world.db ≠ rowAt id s.world.db := by
  cases act <;> simp [closes, hstep]

/-- A closed row was overdue. -/
theorem overdue_of_closes (hkeyed : IsInitial s) (hstep : step cfg s act = some s')
    (hcloses : closes cfg id (s, act) = true) :
    ∃ i started locked reply row, act = .sweep i started locked reply ∧
      rowAt id s.world.db = some row ∧ isOverdue started row = true ∧
        rowAt id s'.world.db = some (reapRow started row) := by
  obtain ⟨⟨i, started, locked, reply, rfl⟩, hchanged⟩ := (closes_iff hstep).mp hcloses
  have hrow := rowStep_of_step hkeyed hstep id
  generalize rowAt id s.world.db = before at hrow hchanged ⊢
  generalize rowAt id s'.world.db = after at hrow hchanged ⊢
  cases hrow with
  | same => exact absurd rfl hchanged
  | reaped hoverdue => exact ⟨_, _, _, _, _, rfl, rfl, hoverdue, rfl⟩

theorem not_isLive_reapRow (now : ℕ) (row : Session) :
    (reapRow now row).status.isLive = false := rfl

theorem isLive_of_isOverdue {now : ℕ} {row : Session}
    (hoverdue : isOverdue now row = true) : row.status.isLive = true :=
  (Bool.and_eq_true _ _ ▸ hoverdue).1

/-- A session is closed at most once, and is not live afterwards. -/
theorem closes_once (hinit : IsInitial start)
    (hrun : Run (reapers cfg) start trace last) (id : ℕ) :
    trace.countP (closes cfg id) = 0 ∨ (trace.countP (closes cfg id) = 1 ∧
      ∃ row, rowAt id last.world.db = some row ∧ row.status.isLive = false) := by
  induction hrun with
  | refl => exact Or.inl rfl
  | @snoc trace mid last act hearlier hlast ih =>
      have hkeyed : IsInitial mid := keyed_run hinit hearlier
      rw [List.countP_append, List.countP_singleton]
      cases hcloses : closes cfg id (mid, act) with
      | true =>
          obtain ⟨_, _, _, _, row, rfl, hat, hoverdue, hafter⟩ :=
            overdue_of_closes hkeyed hlast hcloses
          refine Or.inr ⟨?_, _, hafter, not_isLive_reapRow _ _⟩
          rcases ih with hzero | ⟨-, other, hother, hdead⟩
          · rw [hzero]
            rfl
          · rw [hat, Option.some.injEq] at hother
            subst hother
            rw [isLive_of_isOverdue hoverdue] at hdead
            cases hdead
      | false =>
          rcases ih with hzero | ⟨hone, row, hat, hdead⟩
          · exact Or.inl (by simpa using hzero)
          · refine Or.inr ⟨by simpa using hone, ?_⟩
            have hrow := rowStep_of_step hkeyed hlast id
            rw [hat] at hrow
            generalize rowAt id last.world.db = after at hrow ⊢
            cases hrow with
            | same => exact ⟨row, rfl, hdead⟩
            | reaped hoverdue =>
                rw [isLive_of_isOverdue hoverdue] at hdead
                cases hdead
            | extended hlive =>
                rw [hlive] at hdead
                cases hdead

theorem countP_queuedOps (now : ℕ) (rows : List Session) (id : ℕ) :
    ∀ count, (queuedOps now .deleteUser count rows).countP
        (fun op => op.op == .deleteUser && op.sessionId == some id) =
      rows.countP fun row => row.id == id := by
  induction rows with
  | nil => exact fun _ => rfl
  | cons row rows ih =>
      intro count
      rw [queuedOps, List.countP_cons, List.countP_cons, ih]
      simp [newPanelOp]

theorem countP_id {rows : List Session} (hnodup : (rows.map Session.id).Nodup)
    (id : ℕ) : rows.countP (fun row => row.id == id) =
      if id ∈ rows.map Session.id then 1 else 0 := by
  rw [← hnodup.count, List.count, List.countP_map]
  rfl

/-- The closed rows are those that a sweep returns. -/
theorem mem_sweptRows_iff {started : ℕ} {locked : List ℕ}
    (hkeyed : (db.sessions.map Session.id).Nodup) :
    id ∈ (sweptRows cfg started locked db).map Session.id ↔
      rowAt id (swept cfg started locked db) ≠ rowAt id db := by
  have hafter := @rowAt_of_sessions db id (swept cfg started locked db) _
    (reapRow started) (fun _ => rfl) rfl
  rw [hafter, List.mem_map]
  constructor
  · rintro ⟨row, hrow, rfl⟩
    obtain ⟨hmem, hnamed⟩ := List.mem_filter.mp hrow
    have hat : rowAt row.id db = some row := find?_of_mem hkeyed hmem
    rw [hat, Option.map_some, if_pos hnamed]
    intro hsame
    have hreaped := (isNamedBy_reapable hkeyed hmem).mp hnamed
    have hlive := isLive_of_isOverdue (mem_reapable_overdue hreaped).2.1
    rw [← Option.some.inj hsame, not_isLive_reapRow] at hlive
    cases hlive
  · intro hchanged
    cases hat : rowAt id db with
    | none =>
        rw [hat] at hchanged
        exact absurd rfl hchanged
    | some row =>
        obtain ⟨hmem, hid⟩ := mem_of_rowAt hat
        refine ⟨row, List.mem_filter.mpr ⟨hmem, ?_⟩, hid⟩
        by_contra hnamed
        rw [hat, Option.map_some, if_neg hnamed] at hchanged
        exact hchanged rfl

/-- One outbox row for a closed session, none for another. -/
theorem deleteOps_step (hkeyed : IsInitial s) (hstep : step cfg s act = some s')
    (id : ℕ) : deleteOps id s'.world.db = deleteOps id s.world.db +
      if closes cfg id (s, act) = true then 1 else 0 := by
  have hcloses := @closes_iff _ _ _ _ id hstep
  have hdb := dbStep_of_step hstep
  generalize s'.world.db = after at hdb hcloses ⊢
  cases hdb with
  | same =>
      have hnot : closes cfg id (s, act) ≠ true := fun h => (hcloses.mp h).2 rfl
      rw [if_neg hnot, Nat.add_zero]
  | @swept i started locked reply =>
      have hops : deleteOps id (swept cfg started locked s.world.db) =
          deleteOps id s.world.db + (sweptRows cfg started locked s.world.db).countP
            fun row => row.id == id := by
        rw [deleteOps, swept, List.countP_append, countP_queuedOps]
        rfl
      have hnodup : ((sweptRows cfg started locked s.world.db).map
          Session.id).Nodup := hkeyed.sublist (List.filter_sublist.map _)
      rw [hops, countP_id hnodup]
      congr 1
      apply if_congr _ rfl rfl
      rw [hcloses, mem_sweptRows_iff hkeyed]
      exact (and_iff_right ⟨i, started, locked, reply, rfl⟩).symm
  | @verified userId grantId sessionId reply planned _ hcommit =>
      have hnot : closes cfg id (s, .verifyAdReward userId grantId sessionId reply) ≠
          true := Bool.false_ne_true
      rw [if_neg hnot]
      cases hcommit with
      | replay => rfl
      | claim => rfl
      | extend =>
          rw [deleteOps, withExtension, List.countP_append]
          rfl
  | @created newId values reply sessionId _ hinsert =>
      have hnot : closes cfg id (s, .createSession newId values reply) ≠ true :=
        Bool.false_ne_true
      rw [if_neg hnot]
      obtain ⟨credentialRef, -, -, -, -, rfl⟩ := insertSession_ok hinsert
      rfl

theorem deleteOps_run (hinit : IsInitial start)
    (hrun : Run (reapers cfg) start trace last) (id : ℕ) :
    deleteOps id last.world.db =
      deleteOps id start.world.db + trace.countP (closes cfg id) := by
  induction hrun with
  | refl => rfl
  | @snoc trace mid last act hearlier hlast ih =>
      have hkeyed : IsInitial mid := keyed_run hinit hearlier
      rw [deleteOps_step hkeyed hlast, ih, List.countP_append,
        List.countP_singleton, Nat.add_assoc]

/-! ## Extensions -/

/-- No expiry moves back. -/
theorem expiresAt_le_of_run (hinit : IsInitial start)
    (hrun : Run (reapers cfg) start trace last) {row : Session}
    (hrow : rowAt id start.world.db = some row) :
    ∃ row', rowAt id last.world.db = some row' ∧ row.expiresAt ≤ row'.expiresAt := by
  induction hrun with
  | refl => exact ⟨row, hrow, le_rfl⟩
  | @snoc trace mid last act hearlier hlast ih =>
      have hkeyed : IsInitial mid := keyed_run hinit hearlier
      obtain ⟨row', hat, hle⟩ := ih
      have hstep := rowStep_of_step hkeyed hlast id
      rw [hat] at hstep
      generalize rowAt id last.world.db = after at hstep ⊢
      cases hstep with
      | same => exact ⟨row', rfl, hle⟩
      | reaped => exact ⟨_, rfl, hle⟩
      | extended _ hlater => exact ⟨_, rfl, hle.trans hlater⟩

/-- A claim that changes the row of a session, with the new row. -/
def Extends (cfg : Config) (id : ℕ) (entry : State × Action) (new : Session) :
    Prop :=
  (∃ userId grantId sessionId reply,
    entry.2 = .verifyAdReward userId grantId sessionId reply) ∧
  ∃ next, step cfg entry.1 entry.2 = some next ∧
    rowAt id next.world.db = some new ∧ rowAt id entry.1.world.db ≠ some new

theorem future_of_extends (hkeyed : IsInitial s) {new : Session}
    (hextends : Extends cfg id (s, act) new) : s.world.clock < new.expiresAt := by
  obtain ⟨⟨userId, grantId, sessionId, reply, rfl⟩, next, hstep, hnew, hchanged⟩ :=
    hextends
  have hrow := rowStep_of_step hkeyed hstep id
  rw [hnew] at hrow
  generalize rowAt id s.world.db = before at hrow hchanged
  cases hrow with
  | same => exact absurd rfl hchanged
  | extended _ _ hfuture => exact hfuture

/-- A sweep that closes an extended session started when the added time had
run out. -/
theorem extended_of_closes {before between after : List (State × Action)}
    {extension : State × Action} {i started : ℕ} {locked : List ℕ} {reply : Reply}
    {new : Session} (hinit : IsInitial start)
    (hrun : Run (reapers cfg) start (before ++ extension :: (between ++
      (s, .sweep i started locked reply) :: after)) last)
    (hextends : Extends cfg id extension new)
    (hcloses : closes cfg id (s, .sweep i started locked reply) = true) :
    extension.1.world.clock < started ∧ new.expiresAt ≤ started := by
  obtain ⟨next, hbefore, hnext, hrest⟩ := hrun.exists_split
  obtain ⟨closed, hbetween, hclosed, -⟩ := hrest.exists_split
  have hsweep : step cfg s (.sweep i started locked reply) = some closed := hclosed
  have hkeyed : IsInitial extension.1 := keyed_run hinit hbefore
  have hkeyedNext : IsInitial next := keyed_step hkeyed hnext
  have hkeyedSweep : IsInitial s := keyed_run hkeyedNext hbetween
  have hfuture := future_of_extends hkeyed hextends
  obtain ⟨-, next', hnext', hnew, -⟩ := hextends
  obtain rfl := Option.some.inj (hnext.symm.trans hnext')
  obtain ⟨row', hat', hle⟩ := expiresAt_le_of_run hkeyedNext hbetween hnew
  obtain ⟨_, _, _, _, row, hact, hat, hoverdue, -⟩ :=
    overdue_of_closes hkeyedSweep hsweep hcloses
  obtain ⟨rfl, rfl, rfl, rfl⟩ := Action.sweep.inj hact
  obtain rfl := Option.some.inj (hat.symm.trans hat')
  rw [isOverdue, Bool.and_eq_true, decide_eq_true_eq] at hoverdue
  omega

/-! ## The last batch -/

/-- A sweep that the database answers. -/
theorem query_sweepOnce {world : World} {started : ℕ} {locked : List ℕ} :
    world.query (sweepOnce cfg started locked) .ok =
      (.ok (sweptRows cfg started locked world.db).length,
        { world with db := swept cfg started locked world.db }) :=
  World.query_of_ok sweepOnce_eq

/-- A batch that is not full leaves nothing behind that is due. -/
theorem completes {i started : ℕ} {locked : List ℕ} (hkeyed : IsInitial s)
    (hstep : step cfg s (.sweep i started locked .ok) = some s')
    (hlast : s'.running i = false)
    (hfree : ∀ row ∈ s.world.db.sessions, isOverdue started row = true →
      row.id ∉ locked) :
    ∀ row ∈ s'.world.db.sessions, isOverdue started row = false := by
  obtain ⟨-, -, rfl⟩ := step_sweep hstep
  rw [query_sweepOnce] at hlast ⊢
  have hlength : (reapable cfg started locked s.world.db).length < cfg.reapBatch := by
    rw [← length_sweptRows hkeyed]
    simpa [goesOn] using hlast
  intro row hrow
  obtain ⟨old, hold, rfl⟩ := mem_updateWhere.mp hrow
  split
  · rfl
  · rename_i hnamed
    rw [← Bool.not_eq_true]
    intro hoverdue
    apply hnamed
    rw [isNamedBy_reapable hkeyed hold]
    exact mem_reapable_of_lt hlength hold hoverdue (hfree old hold hoverdue)

/-! ## The loop ends -/

def liveCount (db : Db) : ℕ := db.sessions.countP fun row => row.status.isLive

def isTickOf (i : ℕ) (entry : State × Action) : Bool :=
  match entry.2 with
  | .tick j => j == i
  | _ => false

def isSweepOf (i : ℕ) (entry : State × Action) : Bool :=
  match entry.2 with
  | .sweep j _ _ _ => j == i
  | _ => false

def isCreation (entry : State × Action) : Bool :=
  match entry.2 with
  | .createSession _ _ _ => true
  | _ => false

/-- A sweep after which its loop goes on. -/
def isFullSweep (cfg : Config) (entry : State × Action) : Bool :=
  match entry.2 with
  | .sweep _ started locked reply =>
      goesOn cfg (entry.1.world.query (sweepOnce cfg started locked) reply).1
  | _ => false

/-- A sweep uses up the sessions that it closes. -/
theorem liveCount_swept {started : ℕ} {locked : List ℕ}
    (hkeyed : (db.sessions.map Session.id).Nodup) :
    liveCount (swept cfg started locked db) +
      (sweptRows cfg started locked db).length ≤ liveCount db := by
  rw [length_sweptRows hkeyed]
  refine countP_updateWhere_named (nodup_reapable hkeyed) ?_ ?_
  · intro row hrow
    obtain ⟨hmem, hoverdue, -⟩ := mem_reapable_overdue hrow
    exact ⟨hmem, isLive_of_isOverdue hoverdue⟩
  · exact fun row => rfl

theorem liveCount_step (hkeyed : IsInitial s) (hstep : step cfg s act = some s') :
    (if isFullSweep cfg (s, act) = true then 1 else 0) * cfg.reapBatch +
      liveCount s'.world.db ≤
        liveCount s.world.db + if isCreation (s, act) = true then 1 else 0 := by
  have hdb := dbStep_of_step hstep
  cases act with
  | sweep i started locked reply =>
      obtain ⟨-, -, rfl⟩ := step_sweep hstep
      by_cases hfull : isFullSweep cfg (s, .sweep i started locked reply) = true
      · have hreply : reply = .ok := by
          cases reply with
          | ok => rfl
          | fail applied cause => cases hfull
        subst hreply
        have hlength : cfg.reapBatch ≤
            (sweptRows cfg started locked s.world.db).length := by
          simpa [isFullSweep, query_sweepOnce, goesOn] using hfull
        have hlive := @liveCount_swept cfg _ started locked hkeyed
        rw [if_pos hfull, query_sweepOnce]
        simp only [isCreation, Bool.false_eq_true, if_false]
        omega
      · rw [if_neg hfull, Nat.zero_mul, Nat.zero_add]
        generalize World.db _ = after at hdb ⊢
        cases hdb with
        | same => exact Nat.le_add_right _ _
        | swept =>
            have hlive := @liveCount_swept cfg _ started locked hkeyed
            omega
  | createSession newId values reply =>
      have hquiet : isFullSweep cfg (s, .createSession newId values reply) ≠ true :=
        Bool.false_ne_true
      rw [if_neg hquiet, Nat.zero_mul, Nat.zero_add]
      simp only [isCreation, if_true]
      generalize World.db _ = after at hdb ⊢
      cases hdb with
      | same => exact Nat.le_add_right _ _
      | created hinsert =>
          obtain ⟨credentialRef, -, -, -, -, rfl⟩ := insertSession_ok hinsert
          rw [liveCount, List.countP_append]
          exact Nat.add_le_add_left (List.countP_le_length.trans le_rfl) _
  | verifyAdReward userId grantId sessionId reply =>
      have hquiet : isFullSweep cfg (s, .verifyAdReward userId grantId sessionId
        reply) ≠ true := Bool.false_ne_true
      rw [if_neg hquiet, Nat.zero_mul, Nat.zero_add]
      refine le_trans (le_of_eq ?_) (Nat.le_add_right _ _)
      generalize World.db _ = after at hdb ⊢
      cases hdb with
      | same => rfl
      | verified hcommit =>
          cases hcommit with
          | replay => rfl
          | claim => rfl
          | @extend grant session newExpires hclaimed _ _ =>
              apply countP_updateWhere_of_same
              intro row hrow hselected
              have hsame : row = session :=
                eq_of_key hkeyed hrow hclaimed.session_mem (by simpa using hselected)
              subst hsame
              rw [hclaimed.session_live, isLive_extendRow _ _ hclaimed.session_live]
  | advance ms =>
      obtain rfl := Option.some.inj hstep
      simp [isFullSweep, isCreation]
  | tick i =>
      obtain rfl := Option.some.inj hstep
      simp [isFullSweep, isCreation]

/-- Full batches use up the sessions that are live or created. -/
theorem fullSweeps_le (hinit : IsInitial start)
    (hrun : Run (reapers cfg) start trace last) :
    trace.countP (isFullSweep cfg) * cfg.reapBatch + liveCount last.world.db ≤
      liveCount start.world.db + trace.countP isCreation := by
  induction hrun with
  | refl => simp
  | @snoc trace mid last act hearlier hlast ih =>
      have hkeyed : IsInitial mid := keyed_run hinit hearlier
      have hstep := liveCount_step hkeyed hlast
      rw [List.countP_append, List.countP_append, List.countP_singleton,
        List.countP_singleton, Nat.add_mul]
      omega

/-- Every sweep of an instance goes on, or ends a tick that was started. -/
theorem sweepsOf_le (i : ℕ) (hrun : Run (reapers cfg) start trace last) :
    trace.countP (isSweepOf i) + (if last.running i = true then 1 else 0) ≤
      trace.countP (isFullSweep cfg) + trace.countP (isTickOf i) + 1 := by
  induction hrun with
  | refl =>
      simp only [List.countP_nil]
      split <;> omega
  | @snoc trace mid last act hearlier hlast ih =>
      simp only [List.countP_append, List.countP_singleton]
      cases act with
      | sweep j started locked reply =>
          obtain ⟨hrunning, -, rfl⟩ := step_sweep hlast
          by_cases hij : j = i
          · subst hij
            rw [hrunning] at ih
            simp only [isSweepOf, isTickOf, isFullSweep, Function.update_self,
              beq_self_eq_true, if_true, Bool.false_eq_true, if_false] at ih ⊢
            by_cases hmore : goesOn cfg
                (mid.world.query (sweepOnce cfg started locked) reply).1 = true
            · simp only [hmore, if_true]
              omega
            · simp only [hmore, Bool.false_eq_true, if_false]
              omega
          · simp only [isSweepOf, isTickOf, Function.update_of_ne (Ne.symm hij),
              beq_iff_eq, hij, if_false, Bool.false_eq_true]
            omega
      | tick j =>
          obtain rfl := Option.some.inj hlast
          by_cases hij : j = i
          · subst hij
            simp only [isSweepOf, isTickOf, isFullSweep, Function.update_self,
              beq_self_eq_true, if_true, Bool.false_eq_true, if_false]
            split at ih <;> omega
          · simp only [isSweepOf, isTickOf, isFullSweep,
              Function.update_of_ne (Ne.symm hij), beq_iff_eq, hij, if_false,
              Bool.false_eq_true]
            omega
      | advance ms =>
          obtain rfl := Option.some.inj hlast
          simpa [isSweepOf, isTickOf, isFullSweep] using ih
      | verifyAdReward userId grantId sessionId reply =>
          obtain rfl := Option.some.inj hlast
          simpa [isSweepOf, isTickOf, isFullSweep] using ih
      | createSession newId values reply =>
          obtain rfl := Option.some.inj hlast
          simpa [isSweepOf, isTickOf, isFullSweep] using ih

/-! ## Runs -/

/-- What holds of the reapers in a run. -/
structure Reaps (cfg : Config) (start : State) (trace : List (State × Action))
    (last : State) : Prop where
  /-- The loop of an instance ends: it has no more sweeps than full batches of
  live and created sessions, and one for each tick. -/
  terminates : ∀ i, trace.countP (isSweepOf i) +
    (if last.running i = true then 1 else 0) ≤
      (liveCount start.world.db + trace.countP isCreation) / cfg.reapBatch +
        trace.countP (isTickOf i) + 1
  /-- A closed session was live and its time had run out. -/
  due : ∀ s i started locked reply, (s, .sweep i started locked reply) ∈ trace →
    ∀ id, closes cfg id (s, .sweep i started locked reply) = true →
      ∃ row, rowAt id s.world.db = some row ∧ isOverdue started row = true
  /-- A session is closed at most once, and each time with one outbox row. -/
  once : ∀ id, trace.countP (closes cfg id) ≤ 1 ∧ deleteOps id last.world.db =
    deleteOps id start.world.db + trace.countP (closes cfg id)
  /-- An extended session is closed only by a sweep that started when the added
  time had run out. -/
  spares : ∀ before extension between s i started locked reply after,
    trace = before ++ extension :: (between ++
      (s, .sweep i started locked reply) :: after) →
    ∀ id new, Extends cfg id extension new →
      closes cfg id (s, .sweep i started locked reply) = true →
        extension.1.world.clock < started ∧ new.expiresAt ≤ started
  /-- The sweep that ends a loop and meets no skipped row leaves no live session
  behind that was due when it started. -/
  completes : ∀ s i started locked next,
    (s, .sweep i started locked .ok) ∈ trace →
    step cfg s (.sweep i started locked .ok) = some next →
    next.running i = false →
    (∀ row ∈ s.world.db.sessions, isOverdue started row = true →
      row.id ∉ locked) →
    ∀ row ∈ next.world.db.sessions, isOverdue started row = false

theorem reaps (hbatch : 1 ≤ cfg.reapBatch) (hinit : IsInitial start)
    (hrun : Run (reapers cfg) start trace last) : Reaps cfg start trace last := by
  have hkeyed : Always IsInitial trace last :=
    hrun.always hinit fun _ _ _ hkeyed hstep => keyed_step hkeyed hstep
  constructor
  case terminates =>
    intro i
    have hfull : trace.countP (isFullSweep cfg) ≤
        (liveCount start.world.db + trace.countP isCreation) / cfg.reapBatch := by
      rw [Nat.le_div_iff_mul_le hbatch]
      have hlive := fullSweeps_le hinit hrun
      omega
    have hsweeps := sweepsOf_le i hrun
    omega
  case due =>
    intro s i started locked reply hentry id hcloses
    obtain ⟨_, _, next, -, -, hnext⟩ := hrun.exists_prefix hentry
    have hstep : step cfg s (.sweep i started locked reply) = some next := hnext
    obtain ⟨_, _, _, _, row, hact, hat, hoverdue, -⟩ :=
      overdue_of_closes (hkeyed.1 _ hentry) hstep hcloses
    obtain ⟨rfl, rfl, rfl, rfl⟩ := Action.sweep.inj hact
    exact ⟨row, hat, hoverdue⟩
  case once =>
    intro id
    refine ⟨?_, deleteOps_run hinit hrun id⟩
    rcases closes_once hinit hrun id with hzero | ⟨hone, -⟩
    · omega
    · omega
  case spares =>
    rintro before extension between s i started locked reply after rfl id new
      hextends hcloses
    exact extended_of_closes hinit hrun hextends hcloses
  case completes =>
    intro s i started locked next hentry hstep hlast hfree
    exact completes (hkeyed.1 _ hentry) hstep hlast hfree

/-! ## One session -/

/-- A live session whose grant may be claimed. -/
def claimable : State := ⟨claimWorld (paidGrant .extend 60) 500000, fun _ => false⟩

def extension : Action := .verifyAdReward 1 1 1 .ok

/-- The session is extended by an hour; more than an hour later it is closed. -/
theorem extended_session_closed : IsInitial claimable ∧
    ∃ between s last new, Run (reapers {}) claimable
      ((claimable, extension) :: (between ++ [(s, .sweep 0 5500000 [] .ok)])) last ∧
    Extends {} 1 (claimable, extension) new ∧
    closes {} 1 (s, .sweep 0 5500000 [] .ok) = true := by
  refine ⟨by unfold IsInitial; decide, ?_⟩
  obtain ⟨s, last, hrun, -, hcloses⟩ := @exists_run_of_execute _ _ (reapers {})
    claimable [extension, .advance 5000000, .tick 0] (.sweep 0 5500000 [] .ok)
    (fun s _ => closes {} 1 (s, .sweep 0 5500000 [] .ok) = true) _
    (by decide +kernel)
  refine ⟨_, s, last, extendRow 1 4600000 liveSession, hrun, ⟨⟨_, _, _, _, rfl⟩,
    _, rfl, by decide +kernel, by decide +kernel⟩, hcloses⟩

/-- With batches of one the loop goes on until nothing is due. -/
theorem reaps_extended : ∃ trace last,
    Run (reapers { reapBatch := 1 }) claimable trace last ∧
    trace.countP (isSweepOf 0) = 2 ∧ last.running 0 = false ∧
    Reaps { reapBatch := 1 } claimable trace last := by
  obtain ⟨last, hrun, hlast⟩ := @exists_run_with _ _ (reapers { reapBatch := 1 })
    claimable [extension, .advance 5000000, .tick 0, .sweep 0 5500000 [] .ok,
      .sweep 0 5500000 [] .ok] (fun last => last.running 0 = false) _
    (by decide +kernel)
  exact ⟨_, last, hrun, by decide +kernel, hlast,
    reaps (by decide) (by unfold IsInitial; decide) hrun⟩

end VpnMiddleware.Reaping
