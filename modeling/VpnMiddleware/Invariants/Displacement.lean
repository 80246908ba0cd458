import VpnMiddleware.System.Middleware

/-!
# Displacement in Phase A

What the Phase A transaction of a connect does to the tables, computed for
every state: the oldest live sessions of the user are closed until one more
fits, each with its outbox row, and the new session is inserted.
-/

namespace VpnMiddleware.Displacement

open VpnMiddleware.Schema VpnMiddleware.Errors VpnMiddleware.Environment
open VpnMiddleware.Database VpnMiddleware.Transaction VpnMiddleware.Table
open VpnMiddleware.Closing VpnMiddleware.ConnectionService
open VpnMiddleware.UuidText

/-! ## Prefixes -/

section Prefixes

variable {Row : Type} {rows : List Row} {row : Row} {k : ℕ}

theorem mem_take_iff_split :
    row ∈ rows.take k ↔
      ∃ earlier later, rows = earlier ++ row :: later ∧ earlier.length < k := by
  constructor
  · intro hmem
    obtain ⟨earlier, later, hsplit⟩ := List.append_of_mem hmem
    refine ⟨earlier, later ++ rows.drop k, ?_, ?_⟩
    · rw [← List.cons_append, ← List.append_assoc, ← hsplit,
        List.take_append_drop]
    · have hlength := congrArg List.length hsplit
      simp only [List.length_take, List.length_append, List.length_cons]
        at hlength
      omega
  · rintro ⟨earlier, later, rfl, hlength⟩
    have hrow : (earlier ++ row :: later)[earlier.length]? = some row := by simp
    apply List.mem_of_getElem?
    rw [List.getElem?_take_of_lt hlength]
    exact hrow

/-- Leaving out a prefix leaves the rest to count. -/
theorem countP_not_mem_take [DecidableEq Row] (hnodup : rows.Nodup) :
    rows.countP (fun row => decide (row ∉ rows.take k)) = rows.length - k := by
  have hsplit := List.take_append_drop k rows
  have hdisjoint : ∀ row ∈ rows.drop k, row ∉ rows.take k := by
    intro row hdrop htake
    rw [← hsplit] at hnodup
    exact List.disjoint_of_nodup_append hnodup htake hdrop
  calc rows.countP (fun row => decide (row ∉ rows.take k))
      = (rows.take k ++ rows.drop k).countP
          (fun row => decide (row ∉ rows.take k)) := by rw [hsplit]
    _ = 0 + (rows.drop k).length := by
        rw [List.countP_append]
        congr 1
        · rw [List.countP_eq_zero]
          simp
        · rw [List.countP_eq_length]
          simpa using hdisjoint
    _ = rows.length - k := by simp

end Prefixes

/-! ## The displaced sessions -/

section Displaced

variable {userId maxConcurrent : ℕ} {sessions : List Session} {row : Session}

/-- A live session of the user. -/
def IsLiveOf (userId : ℕ) (row : Session) : Bool :=
  row.userId == userId && row.status.isLive

instance : Std.Total fun left right : Session =>
    left.createdAt ≤ right.createdAt :=
  ⟨fun left right => Nat.le_total left.createdAt right.createdAt⟩

instance : IsTrans Session fun left right =>
    left.createdAt ≤ right.createdAt :=
  ⟨fun _ _ _ hfirst hsecond => Nat.le_trans hfirst hsecond⟩

theorem mem_liveSessions_iff :
    row ∈ liveSessions userId sessions ↔
      row ∈ sessions ∧ IsLiveOf userId row = true := by
  rw [liveSessions, List.mem_insertionSort, List.mem_filter]
  rfl

theorem length_liveSessions :
    (liveSessions userId sessions).length =
      sessions.countP (IsLiveOf userId) := by
  rw [liveSessions, List.length_insertionSort, List.countP_eq_length_filter]
  rfl

theorem perm_liveSessions :
    (liveSessions userId sessions).Perm (sessions.filter (IsLiveOf userId)) :=
  List.perm_insertionSort _ _

/-- How many sessions make room. -/
def overBy (maxConcurrent live : ℕ) : ℕ :=
  if maxConcurrent ≤ live then live - maxConcurrent + 1 else 0

theorem displaced_eq_take {live : List Session} :
    displaced maxConcurrent live = live.take (overBy maxConcurrent live.length) := by
  simp only [displaced, overBy]
  split_ifs <;> simp

theorem length_displaced {live : List Session} (hpos : 1 ≤ maxConcurrent) :
    (displaced maxConcurrent live).length =
      overBy maxConcurrent live.length := by
  rw [displaced_eq_take, List.length_take, overBy]
  split_ifs <;> omega

/-- The displaced sessions are older than the live ones that stay. -/
theorem displaced_older {live other : Session}
    (hdisplaced : live ∈ displaced maxConcurrent (liveSessions userId sessions))
    (hother : other ∈ liveSessions userId sessions)
    (hstays : other ∉ displaced maxConcurrent (liveSessions userId sessions)) :
    live.createdAt ≤ other.createdAt := by
  have hsorted : (liveSessions userId sessions).Pairwise
      fun left right => left.createdAt ≤ right.createdAt :=
    List.pairwise_insertionSort _ _
  rw [displaced_eq_take] at hdisplaced hstays
  rw [← List.take_append_drop (overBy maxConcurrent
    (liveSessions userId sessions).length) (liveSessions userId sessions)]
    at hsorted hother
  rcases List.mem_append.mp hother with htaken | hdropped
  · exact absurd htaken hstays
  · exact (List.pairwise_append.mp hsorted).2.2 _ hdisplaced _ hdropped

end Displaced

/-! ## The transaction -/

section Transaction

variable {cfg : Config} {now : ℕ} {input : ConnectInput} {plan : Resolved}
variable {draw : Draw} {db after : Db} {tx : TxResult} {node : NodePick}

/-- The tables after the displacement loop. -/
def withDisplaced (now : ℕ) (rows : List Session) (db : Db) : Db :=
  { db with
    sessions := updateWhere (isNamedBy Session.id rows)
      (closeRow now .revoked "concurrency") db.sessions
    panelOps := db.panelOps ++
      queuedOps now .revokeUser db.panelOps.length rows }

theorem displaceEach_run (rows : List Session) (db : Db) :
    displaceEach now rows db =
      .ok (rows.map Session.panelUsername, withDisplaced now rows db) := by
  have htotal : ∀ rows db, ∃ usernames after,
      displaceEach now rows db = .ok (usernames, after) := by
    intro rows
    induction rows with
    | nil => exact fun db => ⟨[], db, rfl⟩
    | cons row rows ih =>
        intro db
        obtain ⟨usernames, after, hrest⟩ := ih _
        refine ⟨row.panelUsername :: usernames, after, ?_⟩
        simp only [displaceEach, updateSessions, run_modify_bind]
        rw [bind_of_ok (enqueue_ok.mpr ⟨rfl, rfl⟩), bind_of_ok hrest]
        rfl
  obtain ⟨usernames, after, hrun⟩ := htotal rows db
  obtain ⟨husernames, hafter⟩ := displaceEach_ok hrun
  rw [hrun, husernames, hafter]
  rfl

/-- The sessions that the connect displaces. -/
def displacedBy (input : ConnectInput) (plan : Resolved) (db : Db) :
    List Session :=
  displaced plan.maxConcurrent (liveSessions input.userId db.sessions)

/-- The tables that the insert of Phase A finds. -/
def beforeInsert (now : ℕ) (input : ConnectInput) (plan : Resolved) (db : Db) :
    Db :=
  withDisplaced now (displacedBy input plan db) db

theorem connectTransaction_no_node (hnone : pickNode plan.tier db = none) :
    connectTransaction cfg now input plan draw db =
      .error (.connectError "no_node_capacity" 503) := by
  have hnode : pickNode plan.tier (withDisplaced now
      (displaced plan.maxConcurrent (liveSessions input.userId db.sessions))
      db) = none := hnone
  simp only [connectTransaction, run_get_bind]
  rw [bind_of_ok (displaceEach_run _ db)]
  simp only [run_get_bind, hnode, run_missing_bind]

/-- With an eligible node the transaction goes on with its insert. -/
theorem connectTransaction_insert (hnode : pickNode plan.tier db = some node) :
    connectTransaction cfg now input plan draw db =
      (do
        let sessionId ← insertSession now draw.sessionId
          (newSession input plan node draw)
        match plan.tier with
        | .free => do
            let grant := connectGrant cfg now input plan sessionId draw
            let grantId ← insertGrant grant
            return ⟨sessionId, newPanelUsername draw.username,
              newCredential node.protocol draw.credential, node,
              (displacedBy input plan db).map Session.panelUsername,
              some grantId, some grant.nonce⟩
        | .premium =>
            return ⟨sessionId, newPanelUsername draw.username,
              newCredential node.protocol draw.credential, node,
              (displacedBy input plan db).map Session.panelUsername,
              none, none⟩ : Query TxResult)
        (beforeInsert now input plan db) := by
  have hpick : pickNode plan.tier (withDisplaced now
      (displaced plan.maxConcurrent (liveSessions input.userId db.sessions))
      db) = some node := hnode
  simp only [connectTransaction, run_get_bind]
  rw [bind_of_ok (displaceEach_run _ db)]
  simp only [run_get_bind, hpick, run_expect_bind]
  rfl

/-- The tables that Phase A commits. -/
theorem connectTransaction_commits
    (hok : connectTransaction cfg now input plan draw db = .ok (tx, after)) :
    ∃ node credentialRef, pickNode plan.tier db = some node ∧
      after = { beforeInsert now input plan db with
        sessions := (beforeInsert now input plan db).sessions ++
          [insertedRow now input plan node draw credentialRef]
        grants := db.grants ++
          match plan.tier with
          | .free => [connectGrant cfg now input plan draw.sessionId draw]
          | .premium => [] } := by
  cases hnode : pickNode plan.tier db with
  | none =>
      rw [connectTransaction_no_node hnode] at hok
      cases hok
  | some node =>
      rw [connectTransaction_insert hnode, bind_ok] at hok
      obtain ⟨sessionId, mid, hinsert, hrest⟩ := hok
      obtain ⟨credentialRef, -, rfl, -, -, rfl⟩ := insertSession_ok hinsert
      refine ⟨node, credentialRef, rfl, ?_⟩
      cases htier : plan.tier with
      | premium =>
          simp only [htier, pure_ok] at hrest
          rw [← hrest.2, List.append_nil]
          rfl
      | free =>
          simp only [htier, bind_ok, pure_ok] at hrest
          obtain ⟨grantId, _, hgrant, -, rfl⟩ := hrest
          obtain ⟨-, -, rfl⟩ := insertGrant_ok hgrant
          rfl

end Transaction

/-! ## The law of displacement -/

/-- A new outbox row that revokes the session. -/
structure IsRevokeOf (row : Session) (op : PanelOp) : Prop where
  kind : op.op = .revokeUser
  pending : op.status = .pending
  session : op.sessionId = some row.id
  username : op.payload.panelUsername = row.panelUsername

/-- A new pending grant for the session, up to the session's deadline. -/
structure IsConnectGrant (new : Session) (grant : Grant) : Prop where
  purpose : grant.purpose = .connect
  pending : grant.status = .pending
  owner : grant.userId = new.userId
  session : grant.sessionId = some new.id
  deadline : grant.expiresAt = new.expiresAt

/-- What Phase A did: it revoked `oldest` and inserted `new`. -/
structure Displaces (now : ℕ) (input : ConnectInput) (plan : Resolved)
    (db after : Db) (oldest : List Session) (new : Session) : Prop where
  count : oldest.length = overBy plan.maxConcurrent
    (db.sessions.countP (IsLiveOf input.userId))
  distinct : oldest.Nodup
  live : ∀ row ∈ oldest, row ∈ db.sessions ∧ IsLiveOf input.userId row = true
  older : ∀ row ∈ oldest, ∀ other ∈ db.sessions,
    IsLiveOf input.userId other = true → other ∉ oldest →
      row.createdAt ≤ other.createdAt
  sessions : after.sessions = (db.sessions.map fun row =>
    if row ∈ oldest then closeRow now .revoked "concurrency" row else row) ++
      [new]
  owner : new.userId = input.userId ∧ new.deviceId = input.deviceId
  opened : new.status.isLive = true ∧ new.expiresAt = plan.expiresAt
  live_after : after.sessions.countP (IsLiveOf input.userId) =
    min (db.sessions.countP (IsLiveOf input.userId))
      (plan.maxConcurrent - 1) + 1
  panelOps : ∃ added, after.panelOps = db.panelOps ++ added ∧
    List.Forall₂ IsRevokeOf oldest added
  free_grant : plan.tier = .free → ∃ grant, after.grants = db.grants ++ [grant] ∧
    IsConnectGrant new grant
  premium_grants : plan.tier = .premium → after.grants = db.grants
  others : (after.sessions.filter fun row => row.userId != input.userId) =
    db.sessions.filter fun row => row.userId != input.userId
  frame : after = { db with
    sessions := after.sessions
    panelOps := after.panelOps
    grants := after.grants }

section Law

variable {cfg : Config} {now : ℕ} {input : ConnectInput} {plan : Resolved}
variable {draw : Draw} {db after : Db} {tx : TxResult}

theorem revokes_queuedOps (rows : List Session) :
    ∀ id, List.Forall₂ IsRevokeOf rows (queuedOps now .revokeUser id rows) := by
  induction rows with
  | nil => exact fun _ => List.Forall₂.nil
  | cons row rows ih =>
      exact fun id => List.Forall₂.cons ⟨rfl, rfl, rfl, rfl⟩ (ih (id + 1))

/-- With distinct ids the loop closes exactly the displaced rows. -/
theorem sessions_withDisplaced {rows : List Session}
    (hkeys : (db.sessions.map Session.id).Nodup)
    (hrows : ∀ row ∈ rows, row ∈ db.sessions) :
    (withDisplaced now rows db).sessions = db.sessions.map fun row =>
      if row ∈ rows then closeRow now .revoked "concurrency" row else row := by
  rw [withDisplaced, updateWhere]
  apply List.map_congr_left
  intro row hrow
  simp only [isNamedBy_iff_mem hkeys hrows hrow]

/-- The live sessions that stay. -/
theorem countP_stays (hnodup : db.sessions.Nodup) :
    (db.sessions.map fun row => if row ∈ displacedBy input plan db
        then closeRow now .revoked "concurrency" row else row).countP
        (IsLiveOf input.userId) =
      db.sessions.countP (IsLiveOf input.userId) -
        overBy plan.maxConcurrent
          (db.sessions.countP (IsLiveOf input.userId)) := by
  have hstays : ∀ row, IsLiveOf input.userId (if row ∈ displacedBy input plan db
      then closeRow now .revoked "concurrency" row else row) =
        (decide (row ∉ displacedBy input plan db) &&
          IsLiveOf input.userId row) := by
    intro row
    by_cases hrow : row ∈ displacedBy input plan db
    · simp [hrow, IsLiveOf, closeRow, SessionStatus.isLive]
    · simp [hrow]
  have hlive : (liveSessions input.userId db.sessions).Nodup :=
    perm_liveSessions.nodup_iff.mpr (hnodup.filter _)
  calc _ = db.sessions.countP (fun row =>
          decide (row ∉ displacedBy input plan db) &&
            IsLiveOf input.userId row) := by
        rw [List.countP_map]
        exact List.countP_congr fun row _ => by
          rw [Function.comp_apply, hstays]
    _ = (liveSessions input.userId db.sessions).countP
          (fun row => decide (row ∉ displacedBy input plan db)) := by
        rw [perm_liveSessions.countP_eq, List.countP_filter]
    _ = _ := by
        rw [displacedBy, displaced_eq_take, countP_not_mem_take hlive,
          length_liveSessions]

/-- Closing sessions of the user leaves the others alone. -/
theorem others_closed {rows sessions : List Session}
    (hrows : ∀ row ∈ rows, row ∈ db.sessions ∧ IsLiveOf input.userId row = true) :
    ((sessions.map fun row => if row ∈ rows
        then closeRow now .revoked "concurrency" row else row).filter
          fun row => row.userId != input.userId) =
      sessions.filter fun row => row.userId != input.userId := by
  induction sessions with
  | nil => rfl
  | cons row sessions ih =>
      rw [List.map_cons, List.filter_cons, List.filter_cons, ih]
      by_cases hrow : row ∈ rows
      · have huser : row.userId = input.userId := by
          have hlive := (hrows row hrow).2
          simp only [IsLiveOf, Bool.and_eq_true, beq_iff_eq] at hlive
          exact hlive.1
        simp [hrow, closeRow, huser]
      · simp [hrow]

theorem displaces_of_commit (hkeys : (db.sessions.map Session.id).Nodup)
    (hpos : 1 ≤ plan.maxConcurrent)
    (hok : connectTransaction cfg now input plan draw db = .ok (tx, after)) :
    ∃ new, Displaces now input plan db after (displacedBy input plan db) new := by
  obtain ⟨node, credentialRef, -, rfl⟩ := connectTransaction_commits hok
  have hmem : ∀ row ∈ displacedBy input plan db, row ∈ db.sessions ∧
      IsLiveOf input.userId row = true :=
    fun row hrow => mem_liveSessions_iff.mp (mem_displaced hrow)
  have hclosed := @sessions_withDisplaced now db (displacedBy input plan db) hkeys
    fun row hrow => (hmem row hrow).1
  have hnodup : db.sessions.Nodup := List.Nodup.of_map _ hkeys
  refine ⟨insertedRow now input plan node draw credentialRef, ?_⟩
  constructor
  case count =>
    rw [displacedBy, length_displaced hpos, length_liveSessions]
  case distinct =>
    have hlive : (liveSessions input.userId db.sessions).Nodup :=
      perm_liveSessions.nodup_iff.mpr (hnodup.filter _)
    rw [displacedBy, displaced_eq_take]
    exact hlive.sublist (List.take_sublist _ _)
  case live => exact hmem
  case older =>
    intro row hrow other hother hlive hstays
    exact displaced_older hrow (mem_liveSessions_iff.mpr ⟨hother, hlive⟩) hstays
  case sessions =>
    rw [beforeInsert, hclosed]
  case owner => exact ⟨rfl, rfl⟩
  case opened => exact ⟨isLive_insertedRow, rfl⟩
  case live_after =>
    have hnew : IsLiveOf input.userId
        (insertedRow now input plan node draw credentialRef) = true := by
      rw [IsLiveOf, isLive_insertedRow]
      simp [insertedRow, NewSession.row, newSession]
    rw [beforeInsert, hclosed, List.countP_append, countP_stays hnodup,
      List.countP_singleton, if_pos hnew, overBy]
    split_ifs <;> omega
  case panelOps => exact ⟨_, rfl, revokes_queuedOps _ _⟩
  case free_grant =>
    intro htier
    refine ⟨connectGrant cfg now input plan draw.sessionId draw, ?_,
      ⟨rfl, rfl, rfl, rfl, rfl⟩⟩
    simp only [htier]
  case premium_grants =>
    intro htier
    simp only [htier, List.append_nil]
  case others =>
    have hnew : ((insertedRow now input plan node draw credentialRef).userId !=
        input.userId) = false := by
      simp [insertedRow, NewSession.row, newSession]
    rw [beforeInsert, hclosed, List.filter_append, others_closed hmem]
    simp [hnew]
  case frame => rfl

end Law

/-- Every committed Phase A follows the law of displacement; without an
eligible node nothing is changed. -/
theorem phase_a_displacement {cfg : Config} {now : ℕ} {input : ConnectInput}
    {plan : Resolved} {draw : Draw} {db : Db}
    (hkeys : (db.sessions.map Session.id).Nodup)
    (hpos : 1 ≤ plan.maxConcurrent) :
    (∀ tx after, withTransaction (connectTransaction cfg now input plan draw) db =
        (.ok tx, after) →
      ∃ oldest new, Displaces now input plan db after oldest new) ∧
    (pickNode plan.tier db = none →
      withTransaction (connectTransaction cfg now input plan draw) db =
        (.error (.connectError "no_node_capacity" 503), db)) := by
  constructor
  · intro tx after hcommit
    exact ⟨_, displaces_of_commit hkeys hpos (withTransaction_ok hcommit)⟩
  · intro hnone
    exact withTransaction_of_error (connectTransaction_no_node hnone)

/-- A live session of the user of the small deployment. -/
def openSession (id deviceId createdAt : ℕ) : Session where
  id := id
  userId := 1
  deviceId := deviceId
  nodeId := 1
  tier := .free
  status := .active
  panelUsername := "s" ++ toString id
  credentialRef := ⟨List.replicate 32 (hexOfNat 0), length_zeros⟩
  expiresAt := 1000
  createdAt := createdAt

/-- Two live sessions of the user, on two devices. -/
def twoOpen : Db :=
  { Middleware.smallDb with
    sessions := [openSession 7 1 20, openSession 8 2 10] }

def planOf (maxConcurrent : ℕ) : Resolved := ⟨.free, 300000, maxConcurrent⟩

def smallInput : ConnectInput := ⟨1, 1, Middleware.smallKey⟩

/-- With a limit of one both sessions make room. -/
theorem phase_a_displacement_two : ∃ tx after oldest new,
    withTransaction (connectTransaction {} 30 smallInput (planOf 1)
      Middleware.smallDraw) twoOpen = (.ok tx, after) ∧
    Displaces 30 smallInput (planOf 1) twoOpen after oldest new ∧
    oldest.length = 2 := by
  have hlaw := @phase_a_displacement {} 30 smallInput (planOf 1)
    Middleware.smallDraw twoOpen (by decide) (by decide)
  have hisOk : (withTransaction (connectTransaction {} 30 smallInput (planOf 1)
      Middleware.smallDraw) twoOpen).1.isOk = true := by decide +kernel
  rcases hrun : withTransaction (connectTransaction {} 30 smallInput (planOf 1)
    Middleware.smallDraw) twoOpen with ⟨cause | tx, after⟩
  · rw [hrun] at hisOk
    cases hisOk
  · obtain ⟨oldest, new, hdisplaces⟩ := hlaw.1 tx after hrun
    exact ⟨tx, after, oldest, new, rfl, hdisplaces, hdisplaces.count⟩

/-! ## The index on live sessions -/

/-- One live session for each device. -/
def deviceIndex : Failure :=
  uniqueViolation "vpn_sessions_one_live_per_device"

/-- The session is displaced: enough of the user's live sessions come after
it. -/
def MakesRoom (maxConcurrent : ℕ) (live : List Session) (row : Session) : Prop :=
  ∃ earlier later, live = earlier ++ row :: later ∧
    maxConcurrent ≤ later.length + 1

theorem makesRoom_iff {maxConcurrent : ℕ} {live : List Session} {row : Session} :
    row ∈ displaced maxConcurrent live ↔ MakesRoom maxConcurrent live row := by
  rw [displaced_eq_take, mem_take_iff_split, MakesRoom]
  refine exists_congr fun earlier => exists_congr fun later => ?_
  refine and_congr_right fun hlive => ?_
  rw [hlive, overBy]
  simp only [List.length_append, List.length_cons]
  split_ifs <;> omega

section Index

variable {cfg : Config} {now id : ℕ} {input : ConnectInput} {plan : Resolved}
variable {draw : Draw} {db after : Db} {tx : TxResult} {node : NodePick}

/-- The insert of Phase A finds a live session of the device. -/
theorem hasLiveSession_iff (hkeys : (db.sessions.map Session.id).Nodup) :
    hasLiveSession input.deviceId (beforeInsert now input plan db).sessions =
        true ↔
      ∃ row ∈ db.sessions, row.deviceId = input.deviceId ∧
        row.status.isLive = true ∧ ¬ MakesRoom plan.maxConcurrent
          (liveSessions input.userId db.sessions) row := by
  have hclosed := @sessions_withDisplaced now db (displacedBy input plan db) hkeys
    fun row hrow => (mem_liveSessions (mem_displaced hrow)).1
  rw [hasLiveSession, beforeInsert, hclosed, List.any_map, List.any_eq_true]
  refine exists_congr fun row => and_congr_right fun _ => ?_
  rw [← makesRoom_iff]
  change _ ↔ _ ∧ _ ∧ row ∉ displacedBy input plan db
  by_cases hrow : row ∈ displacedBy input plan db
  · simp [hrow, closeRow, SessionStatus.isLive]
  · simp [hrow]

/-- The insert of the grant fails for other reasons. -/
theorem insertGrant_ne_deviceIndex {grant : Grant} :
    insertGrant grant db ≠ .error deviceIndex := by
  intro herror
  simp [insertGrant, bind_error, require_error, deviceIndex, uniqueViolation,
    foreignKeyViolation] at herror
  obtain ⟨-, -, -, -, -, -, hdone⟩ := herror
  cases hdone

theorem conflict_of_insertSession {values : NewSession}
    (herror : insertSession now id values db = .error deviceIndex) :
    hasLiveSession values.deviceId db.sessions = true := by
  cases huuid : uuidIn values.credentialRef with
  | none =>
      simp only [insertSession, run_get_bind, huuid, run_missing_bind] at herror
      cases herror
  | some credentialRef =>
      by_contra hfree
      simp [insertSession, bind_error, require_error, huuid, hfree, deviceIndex,
        uniqueViolation, foreignKeyViolation] at herror
      obtain ⟨-, -, -, -, -, -, hdone⟩ := herror
      cases hdone

/-- A refused insert of Phase A. -/
theorem conflict_of_connectTransaction
    (hnode : pickNode plan.tier db = some node)
    (herror : connectTransaction cfg now input plan draw db =
      .error deviceIndex) :
    hasLiveSession input.deviceId (beforeInsert now input plan db).sessions =
      true := by
  rw [connectTransaction_insert hnode, bind_error] at herror
  rcases herror with hinsert | ⟨sessionId, mid, -, hrest⟩
  · exact conflict_of_insertSession hinsert
  · exfalso
    cases htier : plan.tier with
    | premium =>
        simp only [htier, pure_error] at hrest
    | free =>
        simp only [htier, bind_error, pure_error, and_false, exists_false,
          or_false] at hrest
        exact insertGrant_ne_deviceIndex hrest

/-- Nothing but the index is in the way of the insert. -/
structure Insertable (input : ConnectInput) (node : NodePick) (draw : Draw)
    (db : Db) : Prop where
  credential : (uuidIn (newCredential node.protocol draw.credential)).isSome = true
  id : ∀ row ∈ db.sessions, row.id ≠ draw.sessionId
  username : ∀ row ∈ db.sessions,
    row.panelUsername ≠ newPanelUsername draw.username

/-- The loop brings no new value of a column that it leaves alone. -/
theorem any_beforeInsert {Key : Type} [DecidableEq Key] {column : Session → Key}
    {value : Key} (hfresh : ∀ row ∈ db.sessions, column row ≠ value)
    (hkeep : ∀ row,
      column (closeRow now .revoked "concurrency" row) = column row) :
    ((beforeInsert now input plan db).sessions.any fun row =>
      column row == value) = false := by
  have hcolumn : (beforeInsert now input plan db).sessions.map column =
      db.sessions.map column := map_updateWhere hkeep _ _
  rw [← Bool.not_eq_true, List.any_eq_true]
  rintro ⟨row, hrow, hsame⟩
  have hmem : column row ∈ db.sessions.map column :=
    hcolumn ▸ List.mem_map_of_mem hrow
  obtain ⟨old, hold, heq⟩ := List.mem_map.mp hmem
  exact hfresh old hold (heq.trans (beq_iff_eq.mp hsame))

theorem connectTransaction_conflict (hnode : pickNode plan.tier db = some node)
    (hinsertable : Insertable input node draw db)
    (hconflict : hasLiveSession input.deviceId
      (beforeInsert now input plan db).sessions = true) :
    connectTransaction cfg now input plan draw db = .error deviceIndex := by
  obtain ⟨credentialRef, hcredential⟩ :=
    Option.isSome_iff_exists.mp hinsertable.credential
  have hid := @any_beforeInsert now input plan db _ _ Session.id draw.sessionId
    hinsertable.id fun _ => rfl
  have husername := @any_beforeInsert now input plan db _ _
    Session.panelUsername (newPanelUsername draw.username)
    hinsertable.username fun _ => rfl
  have hlive : (newSession input plan node draw).status.isLive = true :=
    @isLive_insertedRow now input plan node draw credentialRef
  have htext : uuidIn (newSession input plan node draw).credentialRef =
      some credentialRef := hcredential
  have hname : ((beforeInsert now input plan db).sessions.any fun row =>
      row.panelUsername == (newSession input plan node draw).panelUsername) =
        false := husername
  have hindex : hasLiveSession (newSession input plan node draw).deviceId
      (beforeInsert now input plan db).sessions = true := hconflict
  rw [connectTransaction_insert hnode]
  apply bind_of_error
  simp only [insertSession, run_get_bind, htext, run_expect_bind, hid, hname,
    hlive, hindex, Bool.not_false, run_require_bind, Bool.and_self,
    Bool.not_true, run_refused_bind]
  rfl

end Index

/-- With an eligible node the insert of Phase A violates the index on live
sessions exactly if the device has a live session that is not displaced, one
with too few of the user's live sessions after it. -/
theorem device_reconnects {cfg : Config} {now : ℕ} {input : ConnectInput}
    {plan : Resolved} {draw : Draw} {db : Db} {node : NodePick}
    (hkeys : (db.sessions.map Session.id).Nodup)
    (hnode : pickNode plan.tier db = some node) :
    ((∀ row ∈ db.sessions, row.deviceId = input.deviceId →
        row.status.isLive = true → MakesRoom plan.maxConcurrent
          (liveSessions input.userId db.sessions) row) →
      connectTransaction cfg now input plan draw db ≠ .error deviceIndex) ∧
    ((∃ row ∈ db.sessions, row.deviceId = input.deviceId ∧
        row.status.isLive = true ∧ ¬ MakesRoom plan.maxConcurrent
          (liveSessions input.userId db.sessions) row) →
      Insertable input node draw db →
      withTransaction (connectTransaction cfg now input plan draw) db =
        (.error deviceIndex, db)) := by
  constructor
  · intro hroom herror
    obtain ⟨row, hrow, hdevice, hlive, hstays⟩ := (hasLiveSession_iff hkeys).mp
      (conflict_of_connectTransaction hnode herror)
    exact hstays (hroom row hrow hdevice hlive)
  · intro hstays hinsertable
    apply withTransaction_of_error
    exact connectTransaction_conflict hnode hinsertable
      ((hasLiveSession_iff hkeys).mpr hstays)

theorem makesRoom_of_single {live : List Session} {row : Session}
    (hrow : row ∈ live) : MakesRoom 1 live row := by
  obtain ⟨earlier, later, hlive⟩ := List.append_of_mem hrow
  exact ⟨earlier, later, hlive, by omega⟩

/-- With a limit of one a device of the user can always reconnect. -/
theorem device_reconnects_single :
    connectTransaction {} 30 smallInput (planOf 1) Middleware.smallDraw
      twoOpen ≠ .error deviceIndex := by
  apply (@device_reconnects {} 30 smallInput (planOf 1) Middleware.smallDraw
    twoOpen ⟨1, "vless-in", "vless"⟩ (by decide) (by decide +kernel)).1
  intro row hrow _ hlive
  apply makesRoom_of_single
  rw [mem_liveSessions_iff]
  refine ⟨hrow, ?_⟩
  have huser : row.userId = 1 := by
    simp only [twoOpen, List.mem_cons, List.not_mem_nil, or_false] at hrow
    rcases hrow with rfl | rfl <;> rfl
  simp [IsLiveOf, huser, smallInput, hlive]

/-- With a limit of three the device of the newest session cannot. -/
theorem device_locked_out :
    pickNode .free twoOpen = some ⟨1, "vless-in", "vless"⟩ ∧
      connectTransaction {} 30 smallInput (planOf 3) Middleware.smallDraw
        twoOpen = .error deviceIndex := by
  have hnode : pickNode (planOf 3).tier twoOpen =
      some ⟨1, "vless-in", "vless"⟩ := by decide +kernel
  refine ⟨hnode, connectTransaction_conflict hnode ?_ (by decide +kernel)⟩
  exact ⟨by decide +kernel, by decide, by decide +kernel⟩

end VpnMiddleware.Displacement
