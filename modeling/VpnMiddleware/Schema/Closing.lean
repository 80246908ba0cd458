import VpnMiddleware.Schema.Database

/-!
# Closing sessions together with their outbox rows

Every operation that terminates sessions updates them and queues one outbox
row for each in the same transaction.  `Closes` is that effect, whichever
statements produced it.
-/

namespace VpnMiddleware.Closing

open VpnMiddleware.Schema VpnMiddleware.Database VpnMiddleware.Table
open VpnMiddleware.Transaction

/-- The session table has distinct ids and distinct panel usernames. -/
structure KeyedSessions (db : Db) : Prop where
  ids : (db.sessions.map Session.id).Nodup
  usernames : (db.sessions.map Session.panelUsername).Nodup

theorem KeyedSessions.of_sessions {before after : Db}
    (hkeyed : KeyedSessions before) (hsessions : after.sessions = before.sessions) :
    KeyedSessions after where
  ids := hsessions ▸ hkeyed.ids
  usernames := hsessions ▸ hkeyed.usernames

/-- An outbox row that deletes the panel user. -/
def Reclaims (username : String) (op : PanelOp) : Prop :=
  (op.op = .revokeUser ∨ op.op = .deleteUser) ∧
    op.payload.panelUsername = username

instance (username : String) (op : PanelOp) : Decidable (Reclaims username op) :=
  inferInstanceAs (Decidable (_ ∧ _))

/-- The outbox rows queued for `rows` after `count` earlier ones. -/
def queuedOps (now : ℕ) (op : PanelOpKind) : ℕ → List Session → List PanelOp
  | _, [] => []
  | count, row :: rows =>
      newPanelOp now (count + 1) row.id op
        { panelUsername := row.panelUsername } ::
          queuedOps now op (count + 1) rows

theorem mem_queuedOps {now : ℕ} {op : PanelOpKind} {rows : List Session} :
    ∀ {count : ℕ} {queued : PanelOp}, queued ∈ queuedOps now op count rows →
      ∃ row ∈ rows, ∃ id, count < id ∧ queued = newPanelOp now id row.id op
        { panelUsername := row.panelUsername } := by
  induction rows with
  | nil => intro count queued hqueued; simp [queuedOps] at hqueued
  | cons head rows ih =>
      intro count queued hqueued
      rcases List.mem_cons.mp hqueued with rfl | htail
      · exact ⟨head, by simp, count + 1, by omega, rfl⟩
      · obtain ⟨row, hrow, id, hid, hop⟩ := ih htail
        exact ⟨row, List.mem_cons_of_mem _ hrow, id, by omega, hop⟩

theorem exists_queuedOps {now : ℕ} {op : PanelOpKind} {rows : List Session}
    {row : Session} (hrow : row ∈ rows) :
    ∀ count, ∃ id, count < id ∧ newPanelOp now id row.id op
      { panelUsername := row.panelUsername } ∈ queuedOps now op count rows := by
  induction rows with
  | nil => simp at hrow
  | cons head rows ih =>
      intro count
      rcases List.mem_cons.mp hrow with rfl | htail
      · exact ⟨count + 1, by omega, by simp [queuedOps]⟩
      · obtain ⟨id, hid, hmem⟩ := ih htail (count + 1)
        exact ⟨id, by omega, List.mem_cons_of_mem _ hmem⟩

/-- Queued rows take the identity values after the existing ones. -/
theorem map_id_queuedOps {now : ℕ} {op : PanelOpKind} {rows : List Session} :
    ∀ count, (queuedOps now op count rows).map PanelOp.id =
      List.range' (count + 1) rows.length := by
  induction rows with
  | nil => intro count; rfl
  | cons row rows ih =>
      intro count
      simp [queuedOps, ih, newPanelOp, List.range'_succ]

theorem enqueueEach_ok {now : ℕ} {op : PanelOpKind} {rows : List Session} :
    ∀ {db after : Db} {done : Unit},
      enqueueEach now op rows db = .ok (done, after) →
        after = { db with
          panelOps := db.panelOps ++
            queuedOps now op db.panelOps.length rows } := by
  induction rows with
  | nil =>
      intro db after done hrun
      obtain ⟨-, rfl⟩ := pure_ok.mp hrun
      simp [queuedOps]
  | cons row rows ih =>
      intro db after done hrun
      obtain ⟨_, mid, hhead, hrest⟩ := bind_ok.mp hrun
      obtain ⟨-, rfl⟩ := enqueue_ok.mp hhead
      rw [ih hrest]
      simp [queuedOps]

/-- A change that terminates a row. -/
def IsClosing (now : ℕ) (change : Session → Session) : Prop :=
  ∀ row, ∃ status reason, (status = .revoked ∨ status = .expired) ∧
    change row = closeRow now status reason row

theorem isClosing_closeRow (now : ℕ) (reason : String) :
    IsClosing now (closeRow now .revoked reason) :=
  fun _ => ⟨_, _, Or.inl rfl, rfl⟩

/-- From `before` to `after` exactly the live sessions `rows` were closed, and
one outbox row was queued for each. -/
structure Closes (now : ℕ) (rows : List Session) (before after : Db) :
    Prop where
  live : ∀ row ∈ rows, row ∈ before.sessions ∧ row.status.isLive = true
  sessions : ∃ change, IsClosing now change ∧ after.sessions =
    updateWhere (isNamedBy Session.id rows) change before.sessions
  panelOps : ∃ op, (op = .revokeUser ∨ op = .deleteUser) ∧ after.panelOps =
    before.panelOps ++ queuedOps now op before.panelOps.length rows
  grants : after.grants = before.grants
  rewards : after.rewards = before.rewards

/-- The tables that sessions and grants live in, and the users. -/
structure SameCore (before after : Db) : Prop where
  users : after.users = before.users
  sessions : after.sessions = before.sessions
  panelOps : after.panelOps = before.panelOps
  grants : after.grants = before.grants
  rewards : after.rewards = before.rewards

theorem SameCore.trans {before mid after : Db} (hfirst : SameCore before mid)
    (hsecond : SameCore mid after) : SameCore before after where
  users := hsecond.users.trans hfirst.users
  sessions := hsecond.sessions.trans hfirst.sessions
  panelOps := hsecond.panelOps.trans hfirst.panelOps
  grants := hsecond.grants.trans hfirst.grants
  rewards := hsecond.rewards.trans hfirst.rewards

namespace Closes

variable {now : ℕ} {rows : List Session} {before mid after : Db}

/-- Closing no session. -/
theorem of_sameCore (hsame : SameCore before after) :
    Closes now [] before after where
  live := by simp
  sessions := ⟨_, isClosing_closeRow now "",
    hsame.sessions.trans (updateWhere_eq_self fun _ _ => rfl).symm⟩
  panelOps := ⟨.revokeUser, Or.inl rfl, by simp [hsame.panelOps, queuedOps]⟩
  grants := hsame.grants
  rewards := hsame.rewards

/-- An update of the live rows that a predicate selects, followed by
`enqueueEach` on the returned rows. -/
theorem of_selected {selected : Session → Bool} {change : Session → Session}
    {op : PanelOpKind} {done : Unit} (hkeyed : KeyedSessions before)
    (hlive : ∀ row ∈ before.sessions, selected row = true →
      row.status.isLive = true)
    (hchange : IsClosing now change) (hop : op = .revokeUser ∨ op = .deleteUser)
    (hrun : enqueueEach now op (before.sessions.filter selected)
      { before with
        sessions := updateWhere selected change before.sessions } =
          .ok (done, after)) :
    Closes now (before.sessions.filter selected) before after := by
  have hafter := enqueueEach_ok hrun
  refine ⟨?_, ⟨change, hchange, ?_⟩, ⟨op, hop, ?_⟩, ?_, ?_⟩
  · intro row hrow
    obtain ⟨hmem, hsel⟩ := List.mem_filter.mp hrow
    exact ⟨hmem, hlive row hmem hsel⟩
  · rw [hafter]
    refine updateWhere_congr fun row hrow => ?_
    rw [Bool.eq_iff_iff, isNamedBy_iff_mem hkeyed.ids
      (fun _ hmem => List.mem_of_mem_filter hmem) hrow, List.mem_filter]
    simp [hrow]
  · rw [hafter]
  · rw [hafter]
  · rw [hafter]

/-- Closing keeps every row, with its id and username. -/
theorem exists_row (hcloses : Closes now rows before after) {row : Session}
    (hrow : row ∈ before.sessions) : ∃ row' ∈ after.sessions,
      row'.id = row.id ∧ row'.panelUsername = row.panelUsername := by
  obtain ⟨change, hchange, hsessions⟩ := hcloses.sessions
  refine ⟨if isNamedBy Session.id rows row then change row else row, ?_, ?_⟩
  · rw [hsessions]
    exact mem_updateWhere.mpr ⟨row, hrow, rfl⟩
  · obtain ⟨status, reason, -, hclosed⟩ := hchange row
    split_ifs
    · rw [hclosed]
      exact ⟨rfl, rfl⟩
    · exact ⟨rfl, rfl⟩

/-- The closed rows are there, no longer live. -/
theorem exists_closed (hcloses : Closes now rows before after) {row : Session}
    (hrow : row ∈ rows) : ∃ row' ∈ after.sessions,
      row'.panelUsername = row.panelUsername ∧ row'.status.isLive = false := by
  obtain ⟨change, hchange, hsessions⟩ := hcloses.sessions
  obtain ⟨status, reason, hstatus, hclosed⟩ := hchange row
  have hnamed : isNamedBy Session.id rows row = true :=
    isNamedBy_iff.mpr ⟨row, hrow, rfl⟩
  refine ⟨change row, ?_, ?_⟩
  · rw [hsessions]
    exact mem_updateWhere.mpr ⟨row, (hcloses.live row hrow).1, if_pos hnamed⟩
  · rw [hclosed]
    rcases hstatus with rfl | rfl <;> exact ⟨rfl, rfl⟩

/-- Later changes to other tables. -/
theorem then_sameCore (hcloses : Closes now rows before mid)
    (hsame : SameCore mid after) : Closes now rows before after where
  live := hcloses.live
  sessions := hsame.sessions ▸ hcloses.sessions
  panelOps := hsame.panelOps ▸ hcloses.panelOps
  grants := hsame.grants.trans hcloses.grants
  rewards := hsame.rewards.trans hcloses.rewards

/-- Earlier changes to users, nodes and other tables. -/
theorem after_change (hcloses : Closes now rows mid after)
    (hsessions : mid.sessions = before.sessions)
    (hpanelOps : mid.panelOps = before.panelOps)
    (hgrants : mid.grants = before.grants)
    (hrewards : mid.rewards = before.rewards) :
    Closes now rows before after where
  live := hsessions ▸ hcloses.live
  sessions := hsessions ▸ hcloses.sessions
  panelOps := hpanelOps ▸ hcloses.panelOps
  grants := hcloses.grants.trans hgrants
  rewards := hcloses.rewards.trans hrewards

end Closes

end VpnMiddleware.Closing
