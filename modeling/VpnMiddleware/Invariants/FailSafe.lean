import VpnMiddleware.System.Middleware
import VpnMiddleware.System.Statements

/-!
# How a connect ends

One connect from the commit of its Phase A to its answer.  Its statements
succeed, the panel answers anything, and nothing else touches its session; what
the rest of the system does in between is otherwise left open.
-/

namespace VpnMiddleware.FailSafe

open VpnMiddleware.Schema VpnMiddleware.Errors VpnMiddleware.Environment
open VpnMiddleware.ConnectionService VpnMiddleware.IdealPanel
open VpnMiddleware.Shared VpnMiddleware.Database VpnMiddleware.Transaction
open VpnMiddleware.ConnectFlow VpnMiddleware.Statements VpnMiddleware.Table
open VpnMiddleware.Closing VpnMiddleware.SessionConfigService
open VpnMiddleware.Middleware

/-! ## A connect without interference -/

/-- The rows of the session. -/
def rowsOf (sessionId : ℕ) (db : Db) : List Session :=
  db.sessions.filter fun row => row.id == sessionId

theorem rowsOf_updateSessions {sessionId : ℕ} {change : Session → Session}
    {db after : Db} {done : Unit} (hkeep : ∀ row, (change row).id = row.id)
    (hrun : updateSessions (fun row => row.id == sessionId) change db =
      .ok (done, after)) :
    rowsOf sessionId after = (rowsOf sessionId db).map change := by
  obtain rfl := modify_ok.mp hrun
  exact @filter_updateWhere _ _ _ Session.id db.sessions change hkeep sessionId

/-- A `delete_user` operation for the panel user is in the outbox. -/
def IsReclaimed (tx : TxResult) (db : Db) : Prop :=
  ∃ op ∈ db.panelOps, op.op = .deleteUser ∧
    op.payload.panelUsername = tx.panelUsername

/-- Nothing else touches the session.  Until the read back the panel may hold
anything under the name: what it stored is an outcome of `createUser`. -/
structure LeavesAlone (provision : Provision) (before after : World) : Prop where
  session : rowsOf provision.tx.sessionId after.db =
    rowsOf provision.tx.sessionId before.db
  outbox : IsReclaimed provision.tx before.db → IsReclaimed provision.tx after.db
  account : provision.stage.isPremium = true →
    after.panel provision.tx.panelUsername =
      before.panel provision.tx.panelUsername

/-- Statements succeed; a panel call may fail in any way. -/
def Served (cfg : Config) (provision : Provision) (reply : Reply) : Prop :=
  provisionCall cfg provision = none → reply = .ok

/-- The connect runs from a world to its answer; the trace records where each
of its steps began. -/
inductive Proceeds (cfg : Config) : Provision → World →
    List (Provision × World) → Except Failure ConnectResult → World → Prop
  | answer {provision : Provision} {world : World} {reply : Reply}
      {answer : Except Failure ConnectResult} :
      Served cfg provision reply →
      (provision.resume cfg world reply).answer = some answer →
      Proceeds cfg provision world [(provision, world)] answer
        (provision.resume cfg world reply).world
  | step {provision next : Provision} {world later last : World}
      {reply : Reply} {trace : List (Provision × World)}
      {answer : Except Failure ConnectResult} :
      Served cfg provision reply →
      (provision.resume cfg world reply).next = some (.provisioning next) →
      LeavesAlone next (provision.resume cfg world reply).world later →
      Proceeds cfg next later trace answer last →
      Proceeds cfg provision world ((provision, world) :: trace) answer last

/-- Where a connect stands once Phase A has committed. -/
def begun (input : ConnectInput) (plan : Resolved) (tx : TxResult) : Provision :=
  ⟨input, plan, tx, nextRevoke tx.revokeUsernames⟩

/-! ## What it leaves behind -/

/-- The session is live, with the expiry that was resolved for it. -/
def IsOpen (provision : Provision) (db : Db) : Prop :=
  ∃ row, rowsOf provision.tx.sessionId db = [row] ∧
    row.status.isLive = true ∧ row.expiresAt = provision.plan.expiresAt

/-- The session is no longer live. -/
def IsShut (provision : Provision) (db : Db) : Prop :=
  ∃ row, rowsOf provision.tx.sessionId db = [row] ∧ row.status.isLive = false

/-- The panel user exists with that expiry, as close as `connect` asks for. -/
def IsProvisioned (provision : Provision) (panel : Panel) : Prop :=
  ∃ account, panel provision.tx.panelUsername = some account ∧
    expiryMatches (some account.expireAt) provision.plan.expiresAt = true

/-- A result stands for a session that works, an error for one that is gone. -/
def FailsSafe (provision : Provision) (answer : Except Failure ConnectResult)
    (last : World) : Prop :=
  match answer with
  | .ok _ => IsOpen provision last.db ∧ IsProvisioned provision last.panel
  | .error _ => IsShut provision last.db ∧ IsReclaimed provision.tx last.db

/-- The payload can be built: the endpoint is still there and the cipher takes
the client's key. -/
structure IsDeliverable (cfg : Config) (provision : Provision) (db : Db) :
    Prop where
  endpoint : ∃ endpoint ∈ db.nodeEndpoints,
    endpoint.nodeId = provision.tx.node.nodeId ∧
      endpoint.inboundTag = provision.tx.node.inboundTag ∧
      endpoint.isActive = true
  length : provision.input.clientPubKey.length = 32
  agreement : cfg.keyAgreement provision.input.clientPubKey = true

/-! ## The start -/

section Start

variable {cfg : Config} {now : ℕ} {input : ConnectInput} {plan : Resolved}
variable {draw : Draw} {db after : Db} {tx : TxResult}

/-- Phase A commits a live session with a fresh id and the resolved expiry. -/
theorem isOpen_of_commit
    (hcommit : connectTransaction cfg now input plan draw db =
      .ok (tx, after)) : IsOpen (begun input plan tx) after := by
  obtain ⟨rows, mid, credentialRef, hcommitted⟩ := connectTransaction_ok hcommit
  have hnone : mid.sessions.filter (fun row => row.id == draw.sessionId) = [] := by
    rw [List.filter_eq_nil_iff]
    intro row hrow
    simpa using hcommitted.fresh_id row hrow
  refine ⟨insertedRow now input plan tx.node draw credentialRef, ?_,
    isLive_insertedRow, rfl⟩
  change after.sessions.filter (fun row => row.id == tx.sessionId) = _
  rw [hcommitted.sessions, hcommitted.session_id, List.filter_append, hnone]
  simp [insertedRow, NewSession.row]

end Start

/-! ## One step -/

section Steps

variable {cfg : Config} {provision next : Provision} {world later : World}
variable {reply : Reply} {answer : Except Failure ConnectResult}

/-- What holds when a stage begins. -/
def Ready (provision : Provision) (world : World) : Prop :=
  match provision.stage with
  | .failEnqueue => IsShut provision world.db
  | .failPenalize =>
      IsShut provision world.db ∧ IsReclaimed provision.tx world.db
  | .activate | .buildPayload =>
      IsOpen provision world.db ∧ IsProvisioned provision world.panel
  | _ => IsOpen provision world.db

theorem ready_nextRevoke {usernames : List String}
    (hopen : IsOpen provision world.db) :
    Ready { provision with stage := nextRevoke usernames } world := by
  cases usernames <;> exact hopen

theorem IsOpen.of_rows {db db' : Db} (hopen : IsOpen provision db)
    (hrows : rowsOf provision.tx.sessionId db' =
      rowsOf provision.tx.sessionId db) : IsOpen provision db' := by
  obtain ⟨row, hrow, hlive, hexpiry⟩ := hopen
  exact ⟨row, hrows.trans hrow, hlive, hexpiry⟩

theorem IsShut.of_rows {db db' : Db} (hshut : IsShut provision db)
    (hrows : rowsOf provision.tx.sessionId db' =
      rowsOf provision.tx.sessionId db) : IsShut provision db' := by
  obtain ⟨row, hrow, hclosed⟩ := hshut
  exact ⟨row, hrows.trans hrow, hclosed⟩

/-- The rest of the system leaves a ready connect ready. -/
theorem ready_of_leavesAlone (hready : Ready provision world)
    (halone : LeavesAlone provision world later) : Ready provision later := by
  have hshut : IsShut provision world.db → IsShut provision later.db :=
    fun hshut => hshut.of_rows halone.session
  have hopen : IsOpen provision world.db → IsOpen provision later.db :=
    fun hopen => hopen.of_rows halone.session
  rw [Ready] at hready ⊢
  cases hstage : provision.stage with
  | failEnqueue =>
      rw [hstage] at hready
      exact hshut hready
  | failPenalize =>
      rw [hstage] at hready
      exact ⟨hshut hready.1, halone.outbox hready.2⟩
  | activate =>
      rw [hstage] at hready
      have haccount := halone.account (by rw [hstage]; rfl)
      refine ⟨hopen hready.1, ?_⟩
      simpa only [IsProvisioned, haccount] using hready.2
  | buildPayload =>
      rw [hstage] at hready
      have haccount := halone.account (by rw [hstage]; rfl)
      refine ⟨hopen hready.1, ?_⟩
      simpa only [IsProvisioned, haccount] using hready.2
  | revoke _ _ _ | createUser | getUser | failClose =>
      rw [hstage] at hready
      exact hopen hready

/-- The statement of `failSession` that closes the session. -/
theorem isShut_failSessionClose {now : ℕ} {db after : Db} {done : Unit}
    (hopen : IsOpen provision db)
    (hrun : failSessionClose now provision.tx.sessionId db = .ok (done, after)) :
    IsShut provision after := by
  obtain ⟨row, hrow, -, -⟩ := hopen
  refine ⟨closeRow now .failed "panel_provision_failed" row, ?_, rfl⟩
  rw [rowsOf_updateSessions (fun _ => by rfl) hrun, hrow, List.map_singleton]

/-- Stamping the activation keeps the session open. -/
theorem isOpen_activateSession {now : ℕ} {db after : Db} {done : Unit}
    (hopen : IsOpen provision db)
    (hrun : activateSession now provision.tx.sessionId db = .ok (done, after)) :
    IsOpen provision after := by
  obtain ⟨row, hrow, hlive, hexpiry⟩ := hopen
  refine ⟨{ row with activatedAt := some now }, ?_, hlive, hexpiry⟩
  rw [rowsOf_updateSessions (fun _ => by rfl) hrun, hrow, List.map_singleton]

/-- The statement of `failSession` that queues the deletion. -/
theorem isReclaimed_failSessionEnqueue {now : ℕ} {db after : Db} {done : Unit}
    {tx : TxResult}
    (hrun : failSessionEnqueue now tx.sessionId tx.panelUsername db =
      .ok (done, after)) :
    after.sessions = db.sessions ∧ IsReclaimed tx after := by
  simp only [failSessionEnqueue, bind_ok, enqueue_ok, pure_ok] at hrun
  obtain ⟨_, _, ⟨rfl, rfl⟩, -, rfl⟩ := hrun
  exact ⟨rfl, newPanelOp now (db.panelOps.length + 1) tx.sessionId .deleteUser
    { panelUsername := tx.panelUsername }, by simp, rfl, rfl⟩

/-- A panel call leaves the tables alone. -/
theorem db_call {call : PanelCall} {outcome : Except Failure (Option Account)}
    (hcall : world.call cfg.provider call reply = (outcome, later)) :
    later.db = world.db :=
  (congrArg (fun called => called.2.db) hcall).symm

/-- A statement leaves the panel alone. -/
theorem panel_query {Result : Type} {query : Query Result}
    {outcome : Except Failure Result}
    (hquery : world.query query reply = (outcome, later)) :
    later.panel = world.panel := by
  have hpanel : (world.query query reply).2.panel = world.panel := by
    cases reply <;> rfl
  rw [← hpanel, hquery]

/-- A call of the revoke loop, or `createUser`, leads to a stage that only asks
for an open session. -/
theorem ready_revokeCall {call : PanelCall} {success failure : ProvisionStage}
    (hopen : IsOpen provision world.db)
    (hready : ∀ stage later, stage = success ∨ stage = failure →
      IsOpen provision later.db → Ready { provision with stage := stage } later)
    (hnext : (provision.revokeCall cfg call success failure world reply).next =
      some (.provisioning next)) :
    Ready next
      (provision.revokeCall cfg call success failure world reply).world := by
  rw [Provision.revokeCall] at hnext ⊢
  cases hcall : world.call cfg.provider call reply with
  | mk outcome later =>
      have hlater : IsOpen provision later.db := by
        rw [db_call hcall]
        exact hopen
      cases outcome with
      | ok account =>
          rw [hcall] at hnext
          cases hnext
          exact hready success later (Or.inl rfl) hlater
      | error cause =>
          rw [hcall] at hnext
          cases hnext
          exact hready failure later (Or.inr rfl) hlater

/-- A read back that matches has found the user. -/
theorem isProvisioned_of_getUser {stored : Option Account}
    (hcall : world.call cfg.provider (.getUser provision.tx.panelUsername)
      reply = (.ok stored, later))
    (hmatches : expiryMatches (stored.map Account.expireAt)
      provision.plan.expiresAt = true) : IsProvisioned provision later.panel := by
  obtain ⟨rfl, hserve⟩ := World.call_ok hcall
  have hpanel : later.panel = world.panel :=
    (congrArg (fun called => called.2.panel) hcall).symm
  have hstored : world.panel provision.tx.panelUsername = stored :=
    Except.ok.inj hserve
  cases stored with
  | none => cases hmatches
  | some account => exact ⟨account, hpanel ▸ hstored, hmatches⟩

/-- The read back: the next stage finds the user it asks for. -/
theorem ready_getUser (hstage : provision.stage = .getUser)
    (hopen : IsOpen provision world.db)
    (hnext : (provision.resume cfg world reply).next =
      some (.provisioning next)) :
    Ready next (provision.resume cfg world reply).world := by
  simp only [Provision.resume, hstage] at hnext ⊢
  cases hcall : world.call cfg.provider (.getUser provision.tx.panelUsername)
      reply with
  | mk outcome later =>
      have hlater : IsOpen provision later.db := by
        rw [db_call hcall]
        exact hopen
      cases outcome with
      | error cause =>
          rw [hcall] at hnext
          cases hnext
          exact hlater
      | ok stored =>
          rw [hcall] at hnext
          dsimp only at hnext ⊢
          split_ifs at hnext ⊢ with hmatches
          · have hprovisioned := isProvisioned_of_getUser hcall hmatches
            rw [Provision.provisioned] at hnext ⊢
            cases htier : provision.plan.tier with
            | free =>
                rw [htier] at hnext
                cases hnext
            | premium =>
                rw [htier] at hnext
                cases hnext
                exact ⟨hlater, hprovisioned⟩
          · cases hnext
            exact hlater

/-- Every step that goes on leaves the connect ready for its next stage. -/
theorem ready_resume (hready : Ready provision world)
    (hnext : (provision.resume cfg world reply).next =
      some (.provisioning next)) :
    Ready next (provision.resume cfg world reply).world := by
  obtain ⟨input, plan, tx, stage⟩ := provision
  cases stage with
  | revoke call username rest =>
      cases call with
      | disable =>
          apply ready_revokeCall hready ?_ hnext
          rintro stage later (rfl | rfl) hopen
          · exact hopen
          · exact ready_nextRevoke hopen
      | delete =>
          apply ready_revokeCall hready ?_ hnext
          rintro stage later (rfl | rfl) hopen
          · exact hopen
          · exact ready_nextRevoke hopen
      | mark =>
          cases hnext
          apply ready_nextRevoke
          apply IsOpen.of_rows hready
          cases reply with
          | ok => rfl
          | fail applied cause => cases applied <;> rfl
  | createUser =>
      apply ready_revokeCall hready ?_ hnext
      rintro stage later (rfl | rfl) hopen <;> exact hopen
  | getUser => exact ready_getUser rfl hready hnext
  | failClose =>
      simp only [Provision.resume] at hnext ⊢
      cases hquery : world.query (failSessionClose world.clock tx.sessionId)
          reply with
      | mk outcome later =>
          rw [hquery] at hnext
          cases outcome with
          | error cause => cases hnext
          | ok done =>
              cases hnext
              exact isShut_failSessionClose hready (World.query_ok hquery).2
  | failEnqueue =>
      simp only [Provision.resume] at hnext ⊢
      cases hquery : world.query (failSessionEnqueue world.clock tx.sessionId
          tx.panelUsername) reply with
      | mk outcome later =>
          rw [hquery] at hnext
          cases outcome with
          | error cause => cases hnext
          | ok done =>
              cases hnext
              obtain ⟨hsessions, hreclaimed⟩ :=
                isReclaimed_failSessionEnqueue (World.query_ok hquery).2
              refine ⟨IsShut.of_rows hready ?_, hreclaimed⟩
              exact congrArg (List.filter _) hsessions
  | failPenalize => cases hnext
  | activate =>
      simp only [Provision.resume] at hnext ⊢
      cases hquery : world.query (activateSession world.clock tx.sessionId)
          reply with
      | mk outcome later =>
          have hpanel := panel_query hquery
          rw [hquery] at hnext
          cases outcome with
          | error cause => cases hnext
          | ok done =>
              cases hnext
              refine ⟨isOpen_activateSession hready.1
                (World.query_ok hquery).2, ?_⟩
              exact hpanel ▸ hready.2
  | buildPayload =>
      simp only [Provision.resume] at hnext
      cases hquery : world.query (ConnectionService.buildPayload cfg tx
          input.clientPubKey) reply with
      | mk outcome later =>
          rw [hquery] at hnext
          cases outcome <;> cases hnext

end Steps

/-! ## The answer -/

section Answers

variable {cfg : Config} {provision : Provision} {world : World} {reply : Reply}
variable {answer : Except Failure ConnectResult}

/-- The payload of a premium session is built exactly if the endpoint is there
and the cipher takes the key. -/
theorem buildPayload_isOk {db : Db} :
    (∃ payload after, ConnectionService.buildPayload cfg provision.tx
      provision.input.clientPubKey db = .ok (payload, after)) ↔
      IsDeliverable cfg provision db := by
  constructor
  · rintro ⟨payload, after, hrun⟩
    simp only [ConnectionService.buildPayload, bind_ok, get_ok, expect_ok,
      lift_ok] at hrun
    obtain ⟨_, _, ⟨rfl, rfl⟩, endpoint, _, ⟨hfound, rfl⟩, hcipher, -⟩ := hrun
    obtain ⟨hlength, hagreement⟩ := exists_encryptFor.mp ⟨payload, hcipher⟩
    have hmatches := List.find?_some hfound
    simp only [Bool.and_eq_true, beq_iff_eq, and_assoc] at hmatches
    exact ⟨⟨endpoint, List.mem_of_find?_eq_some hfound, hmatches⟩, hlength,
      hagreement⟩
  · rintro ⟨⟨endpoint, hmem, hnode, htag, hactive⟩, hlength, hagreement⟩
    have hsome : (db.nodeEndpoints.find? fun endpoint =>
        endpoint.nodeId == provision.tx.node.nodeId &&
          endpoint.inboundTag == provision.tx.node.inboundTag &&
          endpoint.isActive).isSome := by
      rw [List.find?_isSome]
      exact ⟨endpoint, hmem, by simp [hnode, htag, hactive]⟩
    obtain ⟨found, hfound⟩ := Option.isSome_iff_exists.mp hsome
    obtain ⟨payload, hcipher⟩ :=
      exists_encryptFor.mpr ⟨hlength, hagreement⟩
    refine ⟨payload, db, ?_⟩
    simp only [ConnectionService.buildPayload, bind_ok, get_ok, expect_ok,
      lift_ok]
    exact ⟨db, db, ⟨rfl, rfl⟩, found, db, ⟨hfound, rfl⟩, hcipher, rfl⟩

/-- Building the payload writes nothing. -/
theorem buildPayload_db {db after : Db} {payload : EncryptedPayload}
    (hrun : ConnectionService.buildPayload cfg provision.tx
      provision.input.clientPubKey db = .ok (payload, after)) : after = db := by
  simp only [ConnectionService.buildPayload, bind_ok, get_ok, expect_ok,
    lift_ok] at hrun
  obtain ⟨_, _, ⟨rfl, rfl⟩, _, _, ⟨-, rfl⟩, -, rfl⟩ := hrun
  rfl

/-- An open session is not shut. -/
theorem not_isShut {db : Db} (hopen : IsOpen provision db) :
    ¬ IsShut provision db := by
  obtain ⟨row, hrow, hlive, -⟩ := hopen
  rintro ⟨other, hother, hclosed⟩
  obtain rfl := List.singleton_inj.mp (hrow.symm.trans hother)
  exact absurd (hlive.symm.trans hclosed) (by decide)

/-- A free connect answers with its session open and its user there. -/
theorem failsSafe_getUser (hstage : provision.stage = .getUser)
    (hopen : IsOpen provision world.db)
    (hanswer : (provision.resume cfg world reply).answer = some answer) :
    FailsSafe provision answer (provision.resume cfg world reply).world := by
  simp only [Provision.resume, hstage] at hanswer ⊢
  cases hcall : world.call cfg.provider (.getUser provision.tx.panelUsername)
      reply with
  | mk outcome later =>
      rw [hcall] at hanswer
      cases outcome with
      | error cause => cases hanswer
      | ok stored =>
          dsimp only at hanswer ⊢
          split_ifs at hanswer ⊢ with hmatches
          · have hprovisioned := isProvisioned_of_getUser hcall hmatches
            rw [Provision.provisioned] at hanswer ⊢
            cases htier : provision.plan.tier with
            | premium =>
                rw [htier] at hanswer
                cases hanswer
            | free =>
                rw [htier] at hanswer
                cases hanswer
                refine ⟨?_, hprovisioned⟩
                simpa only [finish, db_call hcall] using hopen
          · cases hanswer

/-- A premium connect answers safely exactly if its payload was built. -/
theorem failsSafe_buildPayload (hstage : provision.stage = .buildPayload)
    (hopen : IsOpen provision world.db)
    (hprovisioned : IsProvisioned provision world.panel)
    (hanswer : (provision.resume cfg world .ok).answer = some answer) :
    FailsSafe provision answer (provision.resume cfg world .ok).world ↔
      IsDeliverable cfg provision world.db := by
  rw [← buildPayload_isOk]
  simp only [Provision.resume, hstage, World.query] at hanswer ⊢
  cases hrun : ConnectionService.buildPayload cfg provision.tx
      provision.input.clientPubKey world.db with
  | ok outcome =>
      obtain ⟨payload, after⟩ := outcome
      obtain rfl := buildPayload_db hrun
      rw [withTransaction_of_ok hrun] at hanswer ⊢
      cases hanswer
      exact ⟨fun _ => ⟨payload, _, rfl⟩, fun _ => ⟨hopen, hprovisioned⟩⟩
  | error cause =>
      rw [withTransaction_of_error hrun] at hanswer ⊢
      cases hanswer
      constructor
      · exact fun hsafe => absurd hsafe.1 (not_isShut hopen)
      · rintro ⟨_, _, hok⟩
        cases hok

/-- What a connect that was ready leaves behind when it answers. -/
theorem failsSafe_resume (hready : Ready provision world)
    (hserved : Served cfg provision reply)
    (hanswer : (provision.resume cfg world reply).answer = some answer) :
    FailsSafe provision answer (provision.resume cfg world reply).world ↔
      (provision.stage = .buildPayload →
        IsDeliverable cfg provision world.db) := by
  obtain ⟨input, plan, tx, stage⟩ := provision
  cases stage with
  | revoke call username rest =>
      cases call with
      | mark => cases hanswer
      | disable | delete =>
          simp only [Provision.resume, Provision.revokeCall] at hanswer
          split at hanswer <;> cases hanswer
  | createUser =>
      simp only [Provision.resume, Provision.revokeCall] at hanswer
      split at hanswer <;> cases hanswer
  | getUser =>
      have hsafe := failsSafe_getUser rfl hready hanswer
      refine ⟨fun _ hstage => ?_, fun _ => hsafe⟩
      cases hstage
  | failClose =>
      obtain rfl := hserved rfl
      cases hanswer
  | failEnqueue =>
      obtain rfl := hserved rfl
      cases hanswer
  | failPenalize =>
      obtain rfl := hserved rfl
      cases hanswer
      refine ⟨fun _ hstage => ?_, fun _ => hready⟩
      cases hstage
  | activate =>
      obtain rfl := hserved rfl
      cases hanswer
  | buildPayload =>
      obtain rfl := hserved rfl
      rw [failsSafe_buildPayload rfl hready.1 hready.2 hanswer]
      exact ⟨fun hdeliverable _ => hdeliverable, fun hif => hif rfl⟩

/-! ## The whole connect -/

variable {last : World} {trace : List (Provision × World)}

/-- Only the last step of a connect builds the payload. -/
theorem next_of_buildPayload (hstage : provision.stage = .buildPayload) :
    (provision.resume cfg world reply).next = none := by
  simp only [Provision.resume, hstage]
  split <;> rfl

/-- From any stage that is ready. -/
theorem failsSafe_of_ready
    (hrun : Proceeds cfg provision world trace answer last)
    (hready : Ready provision world) :
    FailsSafe provision answer last ↔
      ∀ entry ∈ trace, entry.1.stage = .buildPayload →
        IsDeliverable cfg entry.1 entry.2.db := by
  induction hrun with
  | answer hserved hanswer =>
      rw [failsSafe_resume hready hserved hanswer, List.forall_mem_singleton]
  | @step provision next world later last reply trace answer hserved hnext
      halone hrest ih =>
      have hcontinues : provision.stage ≠ .buildPayload := by
        intro hstage
        rw [next_of_buildPayload hstage] at hnext
        cases hnext
      have hsame : FailsSafe provision answer last ↔
          FailsSafe next answer last := by
        obtain ⟨stage, hnext, -⟩ := provision_next hnext
        cases hnext
        rfl
      rw [hsame, ih (ready_of_leavesAlone (ready_resume hready hnext) halone),
        List.forall_mem_cons]
      exact ⟨fun htail => ⟨fun hstage => absurd hstage hcontinues, htail⟩,
        fun hall => hall.2⟩

end Answers

/-! ## A premium connect -/

section Premium

variable {cfg : Config} {input : ConnectInput} {plan : Resolved} {tx : TxResult}
variable {world : World}

theorem leavesAlone_refl (provision : Provision) :
    LeavesAlone provision world world :=
  ⟨rfl, id, fun _ => rfl⟩

/-- The panel has created the user. -/
def createdIn (cfg : Config) (plan : Resolved) (tx : TxResult) (world : World) :
    World :=
  (world.call cfg.provider (.createUser (createUserParams cfg plan tx)) .ok).2

/-- The session has been stamped, too. -/
def activatedIn (cfg : Config) (plan : Resolved) (tx : TxResult)
    (world : World) : World :=
  ((createdIn cfg plan tx world).query
    (activateSession world.clock tx.sessionId) .ok).2

theorem expiryMatches_created :
    expiryMatches (((createdIn cfg plan tx world).panel tx.panelUsername).map
      Account.expireAt) plan.expiresAt = true := by
  have haccount : (createdIn cfg plan tx world).panel tx.panelUsername =
      some ⟨true, storedExpiry cfg.provider plan.expiresAt⟩ :=
    Function.update_self _ _ _
  simp [haccount, expiryMatches, storedExpiry_seconds]

/-- A premium connect that nothing disturbs goes from the panel's user to the
payload. -/
theorem exists_proceeds (htier : plan.tier = .premium) :
    ∃ answer last, Proceeds cfg ⟨input, plan, tx, .createUser⟩ world
      [(⟨input, plan, tx, .createUser⟩, world),
        (⟨input, plan, tx, .getUser⟩, createdIn cfg plan tx world),
        (⟨input, plan, tx, .activate⟩, createdIn cfg plan tx world),
        (⟨input, plan, tx, .buildPayload⟩, activatedIn cfg plan tx world)]
      answer last := by
  obtain ⟨answer, hanswer⟩ : ∃ answer, (Provision.resume cfg
      ⟨input, plan, tx, .buildPayload⟩ (activatedIn cfg plan tx world)
      .ok).answer = some answer := by
    simp only [Provision.resume]
    split <;> exact ⟨_, rfl⟩
  have hgetUser : Provision.resume cfg ⟨input, plan, tx, .getUser⟩
      (createdIn cfg plan tx world) .ok =
        Provision.goto ⟨input, plan, tx, .getUser⟩ .activate
          (createdIn cfg plan tx world) := by
    have hstored : Provision.resume cfg ⟨input, plan, tx, .getUser⟩
        (createdIn cfg plan tx world) .ok =
          if expiryMatches (((createdIn cfg plan tx world).panel
            tx.panelUsername).map Account.expireAt) plan.expiresAt
          then Provision.provisioned cfg ⟨input, plan, tx, .getUser⟩
            (createdIn cfg plan tx world)
          else Provision.goto ⟨input, plan, tx, .getUser⟩ .failClose
            (createdIn cfg plan tx world) := rfl
    rw [hstored, if_pos expiryMatches_created, Provision.provisioned, htier]
  have halone : LeavesAlone ⟨input, plan, tx, .activate⟩
      (Provision.resume cfg ⟨input, plan, tx, .getUser⟩
        (createdIn cfg plan tx world) .ok).world
      (createdIn cfg plan tx world) := by
    rw [hgetUser]
    exact leavesAlone_refl _
  exact ⟨answer, _, .step (fun _ => rfl) rfl (leavesAlone_refl _)
    (.step (fun _ => rfl) (hgetUser ▸ rfl) halone
      (.step (fun _ => rfl) rfl (leavesAlone_refl _)
        (.answer (fun _ => rfl) hanswer)))⟩

/-- The small deployment with a subscriber. -/
def premiumDb : Db :=
  { smallDb with
    plans := smallDb.plans ++ [{ id := 2, code := "premium", tier := .premium }]
    subscriptions := [{
      id := 1
      userId := 1
      planId := 2
      source := .internal
      status := .active }] }

def premiumInput (key : List UInt8) : ConnectInput := ⟨1, 1, key⟩

def premiumPlan : Resolved := resolveTierAndExpiry {} 0 1 premiumDb

/-- The subscriber's connect after Phase A. -/
structure Committed (cfg : Config) (key : List UInt8) (tx : TxResult)
    (committed : Db) : Prop where
  commit : connectTransaction cfg 0 (premiumInput key) premiumPlan smallDraw
    premiumDb = .ok (tx, committed)
  usernames : tx.revokeUsernames = []
  node : tx.node = ⟨1, "vless-in", "vless"⟩
  endpoints : committed.nodeEndpoints = premiumDb.nodeEndpoints

theorem exists_committed {cfg : Config} {key : List UInt8}
    (hcommits : ((connectTransaction cfg 0 (premiumInput key) premiumPlan
      smallDraw premiumDb).toOption.any fun outcome =>
        outcome.1.revokeUsernames = [] ∧
          outcome.1.node = ⟨1, "vless-in", "vless"⟩ ∧
          outcome.2.nodeEndpoints = premiumDb.nodeEndpoints) = true) :
    ∃ tx committed, Committed cfg key tx committed := by
  cases hrun : connectTransaction cfg 0 (premiumInput key) premiumPlan smallDraw
      premiumDb with
  | error cause =>
      rw [hrun] at hcommits
      cases hcommits
  | ok outcome =>
      rw [hrun] at hcommits
      obtain ⟨husernames, hnode, hendpoints⟩ := of_decide_eq_true hcommits
      exact ⟨outcome.1, outcome.2, hrun, husernames, hnode, hendpoints⟩

/-- Its steps to the payload. -/
theorem exists_premium {cfg : Config} {key : List UInt8} {tx : TxResult}
    {committed : Db} (hcommitted : Committed cfg key tx committed) :
    ∃ trace answer last,
      Proceeds cfg (begun (premiumInput key) premiumPlan tx)
        { db := committed } trace answer last ∧
      ((∀ entry ∈ trace, entry.1.stage = .buildPayload →
        IsDeliverable cfg entry.1 entry.2.db) ↔
          key.length = 32 ∧ cfg.keyAgreement key = true) := by
  have hstart : begun (premiumInput key) premiumPlan tx =
      ⟨premiumInput key, premiumPlan, tx, .createUser⟩ := by
    simp only [begun, hcommitted.usernames, nextRevoke]
  obtain ⟨answer, last, hrun⟩ := @exists_proceeds cfg (premiumInput key)
    premiumPlan tx { db := committed } (by decide +kernel)
  rw [hstart]
  refine ⟨_, answer, last, hrun, ?_⟩
  have hendpoint : ∃ endpoint ∈ committed.nodeEndpoints,
      endpoint.nodeId = tx.node.nodeId ∧
        endpoint.inboundTag = tx.node.inboundTag ∧ endpoint.isActive = true := by
    rw [hcommitted.endpoints, hcommitted.node]
    decide
  simp only [List.forall_mem_cons, List.not_mem_nil, false_implies,
    implies_true, reduceCtorEq, forall_const, true_and, and_true]
  constructor
  · exact fun hdeliverable => ⟨hdeliverable.length, hdeliverable.agreement⟩
  · rintro ⟨hlength, hagreement⟩
    exact ⟨hendpoint, hlength, hagreement⟩

end Premium

/-! ## The whole connect -/

/-- A connect fails safe exactly if it does not come to build a payload that
cannot be built. -/
theorem fails_safe {cfg : Config} {input : ConnectInput} {plan : Resolved}
    {draw : Draw} {before world last : World} {committed : Db} {tx : TxResult}
    {trace : List (Provision × World)} {answer : Except Failure ConnectResult}
    (hcommit : connectTransaction cfg before.clock input plan draw before.db =
      .ok (tx, committed))
    (halone : LeavesAlone (begun input plan tx) { before with db := committed }
      world)
    (hrun : Proceeds cfg (begun input plan tx) world trace answer last) :
    FailsSafe (begun input plan tx) answer last ↔
      ∀ entry ∈ trace, entry.1.stage = .buildPayload →
        IsDeliverable cfg entry.1 entry.2.db := by
  apply failsSafe_of_ready hrun
  apply ready_of_leavesAlone _ halone
  exact ready_nextRevoke (isOpen_of_commit hcommit)

/-- A subscriber with a sound key gets a session that works. -/
theorem fails_safe_premium :
    ∃ tx committed trace answer last,
      Committed {} smallKey tx committed ∧
      Proceeds {} (begun (premiumInput smallKey) premiumPlan tx)
        { db := committed } trace answer last ∧
      FailsSafe (begun (premiumInput smallKey) premiumPlan tx) answer last := by
  obtain ⟨tx, committed, hcommitted⟩ := @exists_committed {} smallKey
    (by decide +kernel)
  obtain ⟨trace, answer, last, hrun, hdeliverable⟩ := exists_premium hcommitted
  refine ⟨tx, committed, trace, answer, last, hcommitted, hrun, ?_⟩
  have hsafe := @fails_safe {} (premiumInput smallKey) premiumPlan smallDraw
    { db := premiumDb } _ _ _ _ _ _ hcommitted.commit (leavesAlone_refl _) hrun
  exact hsafe.mpr (hdeliverable.mpr ⟨rfl, rfl⟩)

/-- A deployment whose key agreement refuses the zero key. -/
def strictConfig : Config where
  keyAgreement key := key != List.replicate 32 0

/-- A subscriber whose key the cipher refuses is answered with an error, and
the session stays open. -/
theorem refused_key_stays_open :
    ∃ tx committed trace answer last,
      Committed strictConfig (List.replicate 32 0) tx committed ∧
      Proceeds strictConfig
        (begun (premiumInput (List.replicate 32 0)) premiumPlan tx)
        { db := committed } trace answer last ∧
      ¬ FailsSafe (begun (premiumInput (List.replicate 32 0)) premiumPlan tx)
        answer last := by
  obtain ⟨tx, committed, hcommitted⟩ := @exists_committed strictConfig
    (List.replicate 32 0) (by decide +kernel)
  obtain ⟨trace, answer, last, hrun, hdeliverable⟩ := exists_premium hcommitted
  refine ⟨tx, committed, trace, answer, last, hcommitted, hrun, fun hsafe => ?_⟩
  have hready : Ready (begun (premiumInput (List.replicate 32 0)) premiumPlan tx)
      { db := committed } :=
    ready_nextRevoke (isOpen_of_commit hcommitted.commit)
  rw [failsSafe_of_ready hrun hready, hdeliverable] at hsafe
  exact absurd hsafe.2 (by decide)

end VpnMiddleware.FailSafe
