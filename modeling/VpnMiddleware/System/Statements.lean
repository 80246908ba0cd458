import VpnMiddleware.System.Middleware

/-!
# What one action can do to the world

Every action sends at most one statement or transaction to the database or
makes at most one panel call.  `statementOf` and `callOf` name them, and
`step_world` says that nothing else changes the world.
-/

namespace VpnMiddleware.Statements

open VpnMiddleware.Schema VpnMiddleware.Errors VpnMiddleware.Environment
open VpnMiddleware.Database VpnMiddleware.Transaction VpnMiddleware.IdealPanel
open VpnMiddleware.Shared VpnMiddleware.Middleware
open VpnMiddleware.ConnectionService VpnMiddleware.ConnectFlow
open VpnMiddleware.AdsService VpnMiddleware.VerifyFlow VpnMiddleware.DrainFlow
open VpnMiddleware.OutboxDrainer

/-- Run a query for its effect. -/
def effect {Result : Type} (query : Query Result) : Query Unit := do
  let _ ← query

theorem effect_ok {Result : Type} {query : Query Result} {db after : Db}
    {done : Unit} :
    effect query db = .ok (done, after) ↔
      ∃ result, query db = .ok (result, after) := by
  simp only [effect, bind_ok, pure_ok]
  constructor
  · rintro ⟨result, _, hrun, -, rfl⟩
    exact ⟨result, hrun⟩
  · rintro ⟨result, hrun⟩
    exact ⟨result, after, hrun, trivial, rfl⟩

theorem effect_self (query : Query Unit) : effect query = query := by
  funext db
  change Except.bind (query db) _ = query db
  cases query db <;> rfl

theorem withTransaction_effect {Result : Type} (query : Query Result) (db : Db) :
    (withTransaction (effect query) db).2 = (withTransaction query db).2 := by
  cases hrun : query db with
  | error cause =>
      have heffect : effect query db = .error cause := by
        change Except.bind (query db) _ = _
        rw [hrun]
        rfl
      rw [withTransaction_of_error hrun, withTransaction_of_error heffect]
  | ok result =>
      have heffect : effect query db = .ok ((), result.2) :=
        effect_ok.mpr ⟨result.1, hrun⟩
      rw [withTransaction_of_ok hrun, withTransaction_of_ok heffect]

/-! ## Statements and calls of each process -/

def provisionStatement (cfg : Config) (now : ℕ) (provision : Provision) :
    Option (Query Unit) :=
  match provision.stage with
  | .revoke .mark username _ => some (markRevoked now username)
  | .failClose => some (failSessionClose now provision.tx.sessionId)
  | .failEnqueue => some (failSessionEnqueue now provision.tx.sessionId
      provision.tx.panelUsername)
  | .failPenalize => some (failSessionPenalize provision.tx.node.nodeId)
  | .activate => some (activateSession now provision.tx.sessionId)
  | .buildPayload => some (effect (ConnectionService.buildPayload cfg
      provision.tx provision.input.clientPubKey))
  | _ => none

def provisionCall (cfg : Config) (provision : Provision) : Option PanelCall :=
  match provision.stage with
  | .revoke .disable username _ => some (.disableUser username)
  | .revoke .delete username _ => some (.deleteUser username)
  | .createUser =>
      some (.createUser (createUserParams cfg provision.plan provision.tx))
  | .getUser => some (.getUser provision.tx.panelUsername)
  | _ => none

def connectStatement (cfg : Config) (now : ℕ) (draw : Draw) :
    ConnectProc → Option (Query Unit)
  | .admitted _ => none
  | .resolved input plan =>
      some (effect (connectTransaction cfg now input plan draw))
  | .provisioning provision => provisionStatement cfg now provision

def connectCall (cfg : Config) : ConnectProc → Option PanelCall
  | .provisioning provision => provisionCall cfg provision
  | _ => none

def verifyStatement (now : ℕ) (proc : VerifyProc) : Option (Query Unit) :=
  match proc.stage with
  | .recordPushed ext => some (AdsService.recordPushed now ext.opId)
  | .stampSync ext => some (AdsService.stampSync now ext.sessionId)
  | .recordFailed ext cause =>
      some (recordPushFailed now ext.opId cause.message)
  | _ => none

def verifyCall (proc : VerifyProc) : Option PanelCall :=
  match proc.stage with
  | .push ext => some (.setUserExpiry ext.panelUsername ext.newExpires)
  | _ => none

def drainStatement (cfg : Config) (now : ℕ) (proc : DrainProc) :
    Option (Query Unit) :=
  match proc.stage with
  | .complete => some (recordSucceeded now proc.row.id)
  | .stamp => some (stampSyncOf now proc.row.payload.panelUsername)
  | .recordFailed cause =>
      some (OutboxDrainer.recordFailed cfg now proc.row cause)
  | _ => none

/-- The call of a drainer at its first stage. -/
def dispatchCall (row : OutboxRow) : Option PanelCall :=
  match row.op, row.payload.expireEpoch with
  | .extendUser, none => none
  | .extendUser, some 0 => none
  | .extendUser, some epoch =>
      some (.setUserExpiry row.payload.panelUsername (epoch * 1000))
  | .revokeUser, _ => some (.disableUser row.payload.panelUsername)
  | .deleteUser, _ => some (.deleteUser row.payload.panelUsername)
  | .createUser, _ => none

def drainCall (proc : DrainProc) : Option PanelCall :=
  match proc.stage with
  | .dispatch => dispatchCall proc.row
  | .delete => some (.deleteUser proc.row.payload.panelUsername)
  | _ => none

def statementOf (cfg : Config) (s : State) : Action → Option (Query Unit)
  | .operate op => some (op.query cfg s.world.clock)
  | .connect i draw _ =>
      s.connects[i]?.bind (connectStatement cfg s.world.clock draw)
  | .verifyAdReward input => some (effect (verifyTransaction cfg s.world.clock
      input.userId input.grantId input.sessionId))
  | .verify i _ => s.verifies[i]?.bind (verifyStatement s.world.clock)
  | .claim locked => some (effect (OutboxDrainer.claim cfg s.world.clock locked))
  | .drain i _ => s.drains[i]?.bind (drainStatement cfg s.world.clock)
  | _ => none

def callOf (cfg : Config) (s : State) : Action → Option PanelCall
  | .connect i _ _ => s.connects[i]?.bind (connectCall cfg)
  | .verify i _ => s.verifies[i]?.bind verifyCall
  | .drain i _ => s.drains[i]?.bind drainCall
  | _ => none

/-- What comes back to the process that acts. -/
def replyOf : Action → Reply
  | .connect _ _ reply => reply
  | .verify _ reply => reply
  | .drain _ reply => reply
  | _ => .ok

/-! ## Nothing else changes the world -/

/-- The world after a statement or a call that the reply lets take effect. -/
def actOn (cfg : Config) (reply : Reply) (statement : Option (Query Unit))
    (call : Option PanelCall) (world : World) : World :=
  match reply.applies with
  | false => world
  | true =>
      { world with
        db := match statement with
          | some query => (withTransaction query world.db).2
          | none => world.db
        panel := match call with
          | some made => (serve cfg.provider world.clock made world.panel).2
          | none => world.panel }

section ActOn

variable {cfg : Config} {reply : Reply} {world : World} {Result : Type}

@[simp]
theorem actOn_none : actOn cfg reply none none world = world := by
  rw [actOn]
  cases reply.applies <;> rfl

/-- A statement whose outcome may decide what the process does next. -/
theorem actOn_query {query : Query Result}
    {outcome : Except Failure Result × World}
    (houtcome : world.query query reply = outcome) :
    outcome.2 = actOn cfg reply (some (effect query)) none world := by
  subst houtcome
  rcases reply with _ | ⟨_ | _, cause⟩
  · simp [actOn, Reply.applies, World.query, withTransaction_effect]
  · rfl
  · simp [actOn, Reply.applies, World.query, withTransaction_effect]

theorem actOn_statement {query : Query Unit}
    {outcome : Except Failure Unit × World}
    (houtcome : world.query query reply = outcome) :
    outcome.2 = actOn cfg reply (some query) none world := by
  rw [actOn_query houtcome, effect_self]

theorem actOn_call {made : PanelCall}
    {outcome : Except Failure (Option Account) × World}
    (houtcome : world.call cfg.provider made reply = outcome) :
    outcome.2 = actOn cfg reply none (some made) world := by
  subst houtcome
  rcases reply with _ | ⟨_ | _, cause⟩ <;> rfl

end ActOn

section Processes

variable {cfg : Config} {world : World} {reply : Reply}

theorem provisioned_world (provision : Provision) :
    (provision.provisioned cfg world).world = world := by
  rw [Provision.provisioned]
  cases provision.plan.tier <;> rfl

theorem revokeCall_world {provision : Provision} {made : PanelCall}
    {success failure : ProvisionStage} :
    (provision.revokeCall cfg made success failure world reply).world =
      actOn cfg reply none (some made) world := by
  rw [Provision.revokeCall]
  rcases hcall : world.call _ _ _ with ⟨_ | _, after⟩ <;>
    exact actOn_call hcall

theorem provision_world (provision : Provision) :
    (provision.resume cfg world reply).world =
      actOn cfg reply (provisionStatement cfg world.clock provision)
        (provisionCall cfg provision) world := by
  obtain ⟨input, plan, tx, stage⟩ := provision
  cases stage with
  | revoke call username rest =>
      cases call with
      | disable => exact revokeCall_world
      | delete => exact revokeCall_world
      | mark => exact actOn_statement rfl
  | createUser => exact revokeCall_world
  | getUser =>
      simp only [Provision.resume]
      rcases hcall : world.call _ _ _ with ⟨_ | stored, after⟩
      · exact actOn_call hcall
      · dsimp only
        split_ifs
        · rw [provisioned_world]
          exact actOn_call hcall
        · exact actOn_call hcall
  | failClose =>
      simp only [Provision.resume]
      rcases hquery : world.query _ _ with ⟨_ | _, after⟩ <;>
        exact actOn_statement hquery
  | failEnqueue =>
      simp only [Provision.resume]
      rcases hquery : world.query _ _ with ⟨_ | _, after⟩ <;>
        exact actOn_statement hquery
  | failPenalize => exact actOn_statement rfl
  | activate =>
      simp only [Provision.resume]
      rcases hquery : world.query _ _ with ⟨_ | _, after⟩ <;>
        exact actOn_statement hquery
  | buildPayload =>
      simp only [Provision.resume]
      rcases hquery : world.query _ _ with ⟨_ | _, after⟩ <;>
        exact actOn_query hquery

theorem connect_world (proc : ConnectProc) (draw : Draw) :
    (proc.resume cfg world draw reply).world =
      actOn cfg reply (connectStatement cfg world.clock draw proc)
        (connectCall cfg proc) world := by
  cases proc with
  | admitted input => cases reply <;> exact actOn_none.symm
  | resolved input plan =>
      simp only [ConnectProc.resume]
      rcases hquery : world.query _ _ with ⟨_ | _, after⟩ <;>
        exact actOn_query hquery
  | provisioning provision => exact provision_world provision

theorem start_world (input : VerifyInput) :
    (input.start cfg world).world =
      actOn cfg .ok (some (effect (verifyTransaction cfg world.clock
        input.userId input.grantId input.sessionId))) none world := by
  rw [VerifyInput.start]
  rcases hquery : world.query _ _ with ⟨_ | planned, after⟩
  · exact actOn_query hquery
  · rcases planned with _ | ⟨_, _, _, _, _ | _⟩ <;>
      exact actOn_query hquery

theorem verify_world (proc : VerifyProc) :
    (proc.resume cfg world reply).world =
      actOn cfg reply (verifyStatement world.clock proc) (verifyCall proc)
        world := by
  obtain ⟨input, stage⟩ := proc
  cases stage with
  | push ext =>
      simp only [VerifyProc.resume]
      rcases hcall : world.call _ _ _ with ⟨_ | _, after⟩ <;>
        exact actOn_call hcall
  | recordPushed ext =>
      simp only [VerifyProc.resume]
      rcases hquery : world.query _ _ with ⟨_ | _, after⟩ <;>
        exact actOn_statement hquery
  | stampSync ext =>
      simp only [VerifyProc.resume]
      rcases hquery : world.query _ _ with ⟨_ | _, after⟩ <;>
        exact actOn_statement hquery
  | recordFailed ext cause =>
      simp only [VerifyProc.resume]
      rcases hquery : world.query _ _ with ⟨_ | _, after⟩ <;>
        exact actOn_statement hquery
  | deliver ext sync => exact actOn_none.symm
  | replay sessionId expiresAt => exact actOn_none.symm

theorem drainCall_world {proc : DrainProc} {made : PanelCall}
    {success : DrainStage} :
    (proc.call cfg made success world reply).world =
      actOn cfg reply none (some made) world := by
  rw [DrainProc.call]
  rcases hcall : world.call _ _ _ with ⟨_ | _, after⟩ <;>
    exact actOn_call hcall

theorem drain_world (proc : DrainProc) :
    (proc.resume cfg world reply).world =
      actOn cfg reply (drainStatement cfg world.clock proc) (drainCall proc)
        world := by
  obtain ⟨⟨id, op, ⟨username, epoch⟩, attempts⟩, stage, queue⟩ := proc
  cases stage with
  | dispatch =>
      cases op with
      | createUser => exact actOn_none.symm
      | extendUser =>
          rcases epoch with _ | _ | epoch
          · exact actOn_none.symm
          · exact actOn_none.symm
          · exact drainCall_world
      | revokeUser => exact drainCall_world
      | deleteUser => exact drainCall_world
  | delete => exact drainCall_world
  | complete =>
      simp only [DrainProc.resume]
      rcases hquery : world.query _ _ with ⟨_ | _, after⟩
      · exact actOn_statement hquery
      · cases op <;> exact actOn_statement hquery
  | stamp => exact actOn_statement rfl
  | recordFailed cause =>
      simp only [DrainProc.resume]
      rcases hquery : world.query _ _ with ⟨_ | _, after⟩ <;>
        exact actOn_statement hquery

end Processes

/-! ## One action -/

section Steps

variable {cfg : Config} {s s' : State} {act : Action}

/-- Apart from the clock, an action changes the world by its statement or its
call. -/
theorem step_world (hstep : step cfg s act = some s') :
    (∃ ms, act = .advance ms) ∨
      s'.world = actOn cfg (replyOf act) (statementOf cfg s act)
        (callOf cfg s act) s.world := by
  cases act with
  | advance ms => exact Or.inl ⟨ms, rfl⟩
  | operate op =>
      rw [step_operate hstep]
      exact Or.inr (actOn_statement rfl)
  | requestConnect userId deviceId presented =>
      right
      rcases step_requestConnect hstep with rfl | ⟨input, rfl⟩ <;>
        exact actOn_none.symm
  | connect i draw reply =>
      obtain ⟨proc, hproc, rfl⟩ := step_connect hstep
      right
      simp only [statementOf, callOf, hproc]
      exact connect_world proc draw
  | verifyAdReward input =>
      rw [step_verifyAdReward hstep]
      exact Or.inr (start_world input)
  | verify i reply =>
      obtain ⟨proc, hproc, rfl⟩ := step_verify hstep
      right
      simp only [statementOf, callOf, hproc]
      exact verify_world proc
  | claim locked =>
      rw [step_claim hstep]
      right
      rw [State.claim]
      rcases hquery : s.world.query _ _ with ⟨_ | _, after⟩ <;>
        exact actOn_query hquery
  | drain i reply =>
      obtain ⟨proc, hproc, rfl⟩ := step_drain hstep
      right
      simp only [statementOf, callOf, hproc]
      exact drain_world proc
  | crashConnect i =>
      rw [step_crashConnect hstep]
      exact Or.inr actOn_none.symm
  | crashVerify i =>
      rw [step_crashVerify hstep]
      exact Or.inr actOn_none.symm
  | crashDrain i =>
      rw [step_crashDrain hstep]
      exact Or.inr actOn_none.symm

/-- The tables after a step. -/
theorem step_db (hstep : step cfg s act = some s') :
    s'.world.db = match (replyOf act).applies, statementOf cfg s act with
      | true, some query => (withTransaction query s.world.db).2
      | _, _ => s.world.db := by
  rcases step_world hstep with ⟨ms, rfl⟩ | hworld
  · rw [step_advance hstep]
    rfl
  · rw [hworld]
    simp only [actOn]
    cases (replyOf act).applies <;> cases statementOf cfg s act <;> rfl

/-- The panel after a step. -/
theorem step_panel (hstep : step cfg s act = some s') :
    s'.world.panel = match (replyOf act).applies, callOf cfg s act with
      | true, some made =>
          (serve cfg.provider s.world.clock made s.world.panel).2
      | _, _ => s.world.panel := by
  rcases step_world hstep with ⟨ms, rfl⟩ | hworld
  · rw [step_advance hstep]
    rfl
  · rw [hworld]
    simp only [actOn]
    cases (replyOf act).applies <;> cases callOf cfg s act <;> rfl

/-- The tables change only by a statement that commits. -/
theorem step_commits (hstep : step cfg s act = some s') :
    s'.world.db = s.world.db ∨ (replyOf act).applies = true ∧
      ∃ query done, statementOf cfg s act = some query ∧
        query s.world.db = .ok (done, s'.world.db) := by
  have hdb := step_db hstep
  cases happlies : (replyOf act).applies with
  | false => exact Or.inl (by simpa [happlies] using hdb)
  | true =>
      cases hstatement : statementOf cfg s act with
      | none => exact Or.inl (by simpa [happlies, hstatement] using hdb)
      | some query =>
          simp only [happlies, hstatement] at hdb
          cases hrun : query s.world.db with
          | error cause =>
              rw [withTransaction_of_error hrun] at hdb
              exact Or.inl hdb
          | ok result =>
              rw [withTransaction_of_ok hrun] at hdb
              exact Or.inr ⟨rfl, query, result.1, rfl, by rw [hrun, hdb]⟩

/-- Only a connect calls `createUser`. -/
theorem callOf_createUser {params : PanelTypes.CreateUserParams}
    (hcall : callOf cfg s act = some (.createUser params)) :
    ∃ i draw reply provision, act = .connect i draw reply ∧
      s.connects[i]? = some (.provisioning provision) ∧
      provision.stage = .createUser ∧
      params = createUserParams cfg provision.plan provision.tx := by
  cases act with
  | connect i draw reply =>
      obtain ⟨proc, hproc, hcall⟩ := Option.bind_eq_some_iff.mp hcall
      cases proc with
      | provisioning provision =>
          refine ⟨i, draw, reply, provision, rfl, hproc, ?_⟩
          simp only [connectCall, provisionCall] at hcall
          split at hcall <;>
            simp only [Option.some.injEq, PanelCall.createUser.injEq,
              reduceCtorEq] at hcall
          next hstage => exact ⟨hstage, hcall.symm⟩
      | _ => simp [connectCall] at hcall
  | verify i reply =>
      obtain ⟨proc, -, hcall⟩ := Option.bind_eq_some_iff.mp hcall
      rw [verifyCall] at hcall
      split at hcall <;> simp at hcall
  | drain i reply =>
      obtain ⟨proc, -, hcall⟩ := Option.bind_eq_some_iff.mp hcall
      rw [drainCall, dispatchCall] at hcall
      split at hcall
      · split at hcall <;> simp at hcall
      · simp at hcall
      · simp at hcall
  | _ => simp [callOf] at hcall

/-! ## Confirmed deletions -/

/-- The panel user whose deletion a step confirms. -/
def deletedBy (cfg : Config) (s : State) (act : Action) : Option String :=
  match replyOf act, callOf cfg s act with
  | .ok, some (.deleteUser username) => some username
  | _, _ => none

theorem deletedBy_eq_some {username : String} :
    deletedBy cfg s act = some username ↔
      replyOf act = .ok ∧ callOf cfg s act = some (.deleteUser username) := by
  rw [deletedBy]
  constructor
  · intro hdeleted
    split at hdeleted
    · next hreply hcall =>
        obtain rfl := Option.some.inj hdeleted
        exact ⟨hreply, hcall⟩
    · simp at hdeleted
  · rintro ⟨hreply, hcall⟩
    rw [hreply, hcall]

theorem DrainStep.deletes {i : ℕ} {reply : Reply} {proc : DrainProc}
    (hproc : s.drains[i]? = some proc)
    (hstep : DrainStep cfg s.world reply proc.row proc.stage .complete)
    (hop : proc.row.op = .revokeUser ∨ proc.row.op = .deleteUser) :
    deletedBy cfg s (.drain i reply) =
      some proc.row.payload.panelUsername := by
  obtain ⟨row, stage, queue⟩ := proc
  dsimp only at hop ⊢
  rw [deletedBy_eq_some]
  generalize hlast : DrainStage.complete = last at hstep
  cases hstep with
  | extended hkind _ _ _ _ =>
      dsimp only at hkind
      simp [hkind] at hop
  | deleted hkind hreply =>
      dsimp only at hkind
      exact ⟨hreply, by simp [callOf, hproc, drainCall, dispatchCall, hkind]⟩
  | revoked hreply => exact ⟨hreply, by simp [callOf, hproc, drainCall]⟩
  | _ => simp at hlast

/-- A drainer that is about to record the success of a revocation has deleted
the user in its last step or was there before. -/
theorem complete_backward (hstep : step cfg s act = some s') {proc : DrainProc}
    (hmem : proc ∈ s'.drains) (hstage : proc.stage = .complete)
    (hop : proc.row.op = .revokeUser ∨ proc.row.op = .deleteUser) :
    proc ∈ s.drains ∨
      deletedBy cfg s act = some proc.row.payload.panelUsername ∧
      ∃ i reply old, act = .drain i reply ∧ s.drains[i]? = some old ∧
        old.row = proc.row := by
  rcases drains_step hstep hmem with
    hold | ⟨_, -, hdispatch, -⟩ | ⟨i, reply, old, rfl, hproc, hresumed⟩
  · exact Or.inl hold
  · simp [hdispatch] at hstage
  · rcases hresumed with ⟨hrows, hdrain⟩ | ⟨-, hdispatch⟩
    · obtain ⟨hrow, -⟩ := List.cons.inj hrows
      rw [hstage] at hdrain
      rw [hrow] at hop ⊢
      exact Or.inr ⟨DrainStep.deletes hproc hdrain hop, i, reply, old, rfl,
        hproc, rfl⟩
    · simp [hdispatch] at hstage

/-- The same for a connect that is about to mark a user as revoked. -/
theorem mark_backward (hstep : step cfg s act = some s') {provision : Provision}
    {username : String} {rest : List String}
    (hmem : .provisioning provision ∈ s'.connects)
    (hstage : provision.stage = .revoke .mark username rest) :
    .provisioning provision ∈ s.connects ∨
      deletedBy cfg s act = some username ∧ ∃ i draw reply old,
        act = .connect i draw reply ∧ .provisioning old ∈ s.connects ∧
        old.stage = .revoke .delete username rest := by
  rcases connects_step hstep hmem with
    hold | ⟨input, hnew⟩ | ⟨i, draw, reply, proc, rfl, hproc, hresumed⟩
  · exact Or.inl hold
  · simp at hnew
  · right
    cases hresumed with
    | @commit input plan tx _ _ _ =>
        have hnext : nextRevoke tx.revokeUsernames =
          .revoke .mark username rest := hstage
        cases hnames : tx.revokeUsernames <;> simp [hnames, nextRevoke] at hnext
    | @provision old stage hchange =>
        obtain rfl : stage = .revoke .mark username rest := hstage
        obtain ⟨hreply, hbefore⟩ := hchange.mark
        refine ⟨deletedBy_eq_some.mpr ⟨hreply, ?_⟩, i, draw, reply, old, rfl,
          List.mem_of_getElem? hproc, hbefore⟩
        simp [callOf, hproc, connectCall, provisionCall, hbefore]

/-- A confirmed deletion leaves no panel user. -/
theorem panel_of_deletedBy (hstep : step cfg s act = some s')
    {username : String} (hdeleted : deletedBy cfg s act = some username) :
    s'.world.panel username = none := by
  obtain ⟨hreply, hcall⟩ := deletedBy_eq_some.mp hdeleted
  rw [step_panel hstep, hreply, hcall]
  simp [Reply.applies, serve]

end Steps

end VpnMiddleware.Statements
