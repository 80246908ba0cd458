import VpnMiddleware.Connection.ConnectionService
import VpnMiddleware.System.Shared

/-!
# The connect flow: order of its steps

One process for each admitted request.  Between two of its statements or panel
calls any other process may run.
-/

namespace VpnMiddleware.ConnectFlow

open VpnMiddleware.Schema VpnMiddleware.Errors VpnMiddleware.Environment
open VpnMiddleware.ConnectionService VpnMiddleware.IdealPanel
open VpnMiddleware.Shared VpnMiddleware.Database VpnMiddleware.Transaction

inductive RevokeCall | disable | delete | mark
  deriving DecidableEq, Repr

/-- Where a connect that has committed Phase A stands. -/
inductive ProvisionStage
  | revoke (call : RevokeCall) (username : String) (rest : List String)
  | createUser
  | getUser
  | failClose
  | failEnqueue
  | failPenalize
  | activate
  | buildPayload
  deriving DecidableEq, Repr

structure Provision where
  input : ConnectInput
  plan : Resolved
  tx : TxResult
  stage : ProvisionStage
  deriving DecidableEq, Repr

inductive ConnectProc
  | admitted (input : ConnectInput)
  | resolved (input : ConnectInput) (plan : Resolved)
  | provisioning (provision : Provision)
  deriving DecidableEq, Repr

abbrev ConnectOutcome := Outcome ConnectProc (Except Failure ConnectResult)

/-- The next iteration of the inline revoke loop, or `createUser` after it. -/
def nextRevoke : List String → ProvisionStage
  | [] => .createUser
  | username :: rest => .revoke .disable username rest

def Provision.goto (provision : Provision) (stage : ProvisionStage)
    (world : World) : ConnectOutcome :=
  { world := world
    next := some (.provisioning { provision with stage := stage }) }

def finish (answer : Except Failure ConnectResult) (world : World) :
    ConnectOutcome :=
  { world := world, answer := some answer }

def provisionFailed : Except Failure ConnectResult :=
  .error (.connectError "provision_failed" 503)

/-- The free-tier answer: no payload. -/
def freeResult (cfg : Config) (provision : Provision) : ConnectResult :=
  .free provision.tx.sessionId provision.tx.grantId provision.tx.nonce
    cfg.requiredAds provision.plan.expiresAt

/-- What follows a successful round trip of the expiry. -/
def Provision.provisioned (cfg : Config) (provision : Provision)
    (world : World) : ConnectOutcome :=
  match provision.plan.tier with
  | .premium => provision.goto .activate world
  | .free => finish (.ok (freeResult cfg provision)) world

/-- One panel call of the inline revoke loop; errors go on to the next user. -/
def Provision.revokeCall (cfg : Config) (provision : Provision)
    (call : PanelCall) (success failure : ProvisionStage) (world : World)
    (reply : Reply) : ConnectOutcome :=
  match world.call cfg.provider call reply with
  | (.ok _, after) => provision.goto success after
  | (.error _, after) => provision.goto failure after

def Provision.resume (cfg : Config) (provision : Provision) (world : World)
    (reply : Reply) : ConnectOutcome :=
  let tx := provision.tx
  match provision.stage with
  | .revoke .disable username rest =>
      provision.revokeCall cfg (.disableUser username)
        (.revoke .delete username rest) (nextRevoke rest) world reply
  | .revoke .delete username rest =>
      provision.revokeCall cfg (.deleteUser username)
        (.revoke .mark username rest) (nextRevoke rest) world reply
  | .revoke .mark username rest =>
      provision.goto (nextRevoke rest)
        (world.query (markRevoked world.clock username) reply).2
  | .createUser =>
      provision.revokeCall cfg
        (.createUser (createUserParams cfg provision.plan tx))
        .getUser .failClose world reply
  | .getUser =>
      match world.call cfg.provider (.getUser tx.panelUsername) reply with
      | (.ok stored, after) =>
          if expiryMatches (stored.map Account.expireAt) provision.plan.expiresAt
          then provision.provisioned cfg after
          else provision.goto .failClose after
      | (.error _, after) => provision.goto .failClose after
  | .failClose =>
      match world.query (failSessionClose world.clock tx.sessionId) reply with
      | (.ok _, after) => provision.goto .failEnqueue after
      | (.error _, after) => finish provisionFailed after
  | .failEnqueue =>
      match world.query
        (failSessionEnqueue world.clock tx.sessionId tx.panelUsername) reply with
      | (.ok _, after) => provision.goto .failPenalize after
      | (.error _, after) => finish provisionFailed after
  | .failPenalize =>
      finish provisionFailed
        (world.query (failSessionPenalize tx.node.nodeId) reply).2
  | .activate =>
      match world.query (activateSession world.clock tx.sessionId) reply with
      | (.ok _, after) => provision.goto .buildPayload after
      | (.error cause, after) => finish (.error cause) after
  | .buildPayload =>
      match world.query
        (ConnectionService.buildPayload cfg tx provision.input.clientPubKey)
        reply with
      | (.ok payload, after) =>
          finish (.ok (.premium tx.sessionId provision.plan.expiresAt payload))
            after
      | (.error cause, after) => finish (.error cause) after

/-- One step of `connect`. -/
def ConnectProc.resume (cfg : Config) (proc : ConnectProc) (world : World)
    (draw : Draw) (reply : Reply) : ConnectOutcome :=
  match proc with
  | .admitted input =>
      match reply with
      | .ok =>
          { world := world
            next := some (.resolved input (resolveTierAndExpiry cfg world.clock
              input.userId world.db)) }
      | .fail _ cause => finish (.error cause) world
  | .resolved input plan =>
      match world.query
        (connectTransaction cfg world.clock input plan draw) reply with
      | (.ok tx, after) =>
          { world := after
            next := some (.provisioning
              ⟨input, plan, tx, nextRevoke tx.revokeUsernames⟩) }
      | (.error cause, after) => finish (.error cause) after
  | .provisioning provision => provision.resume cfg world reply

/-- The panel users that the inline revoke loop has still to handle. -/
def ProvisionStage.revoking : ProvisionStage → List String
  | .revoke _ username rest => username :: rest
  | _ => []

@[simp]
theorem revoking_nextRevoke (usernames : List String) :
    (nextRevoke usernames).revoking = usernames := by
  cases usernames <;> rfl

/-- The stages that only a premium connect reaches. -/
def ProvisionStage.isPremium : ProvisionStage → Bool
  | .activate | .buildPayload => true
  | _ => false

@[simp]
theorem isPremium_nextRevoke (usernames : List String) :
    (nextRevoke usernames).isPremium = false := by
  cases usernames <;> rfl

/-! ## Where one step leads -/

/-- The stages that one step connects, with the reply it got. -/
inductive StageStep (tier : PlanTier) (reply : Reply) :
    ProvisionStage → ProvisionStage → Prop
  | disabled {username : String} {rest : List String} : reply = .ok →
      StageStep tier reply (.revoke .disable username rest)
        (.revoke .delete username rest)
  | deleted {username : String} {rest : List String} : reply = .ok →
      StageStep tier reply (.revoke .delete username rest)
        (.revoke .mark username rest)
  | skipped {call : RevokeCall} {username : String} {rest : List String} :
      reply ≠ .ok →
      StageStep tier reply (.revoke call username rest) (nextRevoke rest)
  | marked {username : String} {rest : List String} :
      StageStep tier reply (.revoke .mark username rest) (nextRevoke rest)
  | created : reply = .ok → StageStep tier reply .createUser .getUser
  | notCreated : reply ≠ .ok → StageStep tier reply .createUser .failClose
  | provisioned : tier = .premium → StageStep tier reply .getUser .activate
  | mismatched : StageStep tier reply .getUser .failClose
  | closed : reply = .ok → StageStep tier reply .failClose .failEnqueue
  | enqueued : reply = .ok → StageStep tier reply .failEnqueue .failPenalize
  | activated : StageStep tier reply .activate .buildPayload

theorem StageStep.revoking {tier : PlanTier} {reply : Reply}
    {stage stage' : ProvisionStage} (hstep : StageStep tier reply stage stage') :
    stage'.revoking ⊆ stage.revoking := by
  cases hstep with
  | skipped _ =>
      rw [revoking_nextRevoke]
      exact List.subset_cons_self _ _
  | marked =>
      rw [revoking_nextRevoke]
      exact List.subset_cons_self _ _
  | _ => simp [ProvisionStage.revoking]

theorem StageStep.isPremium {tier : PlanTier} {reply : Reply}
    {stage stage' : ProvisionStage} (hstep : StageStep tier reply stage stage')
    (hpremium : stage'.isPremium = true) :
    tier = .premium ∨ stage.isPremium = true := by
  cases hstep with
  | provisioned htier => exact Or.inl htier
  | activated => exact Or.inr rfl
  | skipped _ => simp at hpremium
  | marked => simp at hpremium
  | _ => simp [ProvisionStage.isPremium] at hpremium

/-- Only a confirmed deletion leads to the statement that records it. -/
theorem StageStep.mark {tier : PlanTier} {reply : Reply} {stage : ProvisionStage}
    {username : String} {rest : List String}
    (hstep : StageStep tier reply stage (.revoke .mark username rest)) :
    reply = .ok ∧ stage = .revoke .delete username rest := by
  generalize hmark : ProvisionStage.revoke .mark username rest = mark at hstep
  cases hstep with
  | disabled _ => simp at hmark
  | deleted hreply =>
      obtain ⟨-, rfl, rfl⟩ := ProvisionStage.revoke.inj hmark
      exact ⟨hreply, rfl⟩
  | @skipped _ _ others _ => cases others <;> simp [nextRevoke] at hmark
  | @marked _ others => cases others <;> simp [nextRevoke] at hmark
  | _ => simp at hmark

/-- Only a successful first statement of `failSession` leads to the second. -/
theorem StageStep.failEnqueue {tier : PlanTier} {reply : Reply}
    {stage : ProvisionStage} (hstep : StageStep tier reply stage .failEnqueue) :
    reply = .ok ∧ stage = .failClose := by
  generalize hnext : ProvisionStage.failEnqueue = next at hstep
  cases hstep with
  | closed hreply => exact ⟨hreply, rfl⟩
  | @skipped _ _ rest _ => cases rest <;> simp [nextRevoke] at hnext
  | @marked _ rest => cases rest <;> simp [nextRevoke] at hnext
  | _ => simp at hnext

/-- The processes that one step connects. -/
inductive ConnectStep (cfg : Config) (world : World) (draw : Draw)
    (reply : Reply) : ConnectProc → ConnectProc → Prop
  | resolve {input : ConnectInput} :
      ConnectStep cfg world draw reply (.admitted input) (.resolved input
        (resolveTierAndExpiry cfg world.clock input.userId world.db))
  | commit {input : ConnectInput} {plan : Resolved} {tx : TxResult} {after : Db} :
      connectTransaction cfg world.clock input plan draw world.db =
        .ok (tx, after) → reply = .ok →
      ConnectStep cfg world draw reply (.resolved input plan)
        (.provisioning ⟨input, plan, tx, nextRevoke tx.revokeUsernames⟩)
  | provision {provision : Provision} {stage : ProvisionStage} :
      StageStep provision.plan.tier reply provision.stage stage →
      ConnectStep cfg world draw reply (.provisioning provision)
        (.provisioning { provision with stage := stage })

section Steps

variable {cfg : Config} {world : World} {draw : Draw} {reply : Reply}
variable {next : ConnectProc}

private theorem goto_next {provision : Provision} {stage : ProvisionStage}
    (hnext : (provision.goto stage world).next = some next) :
    next = .provisioning { provision with stage := stage } :=
  (Option.some.inj hnext).symm

private theorem revokeCall_next {provision : Provision} {call : PanelCall}
    {success failure : ProvisionStage}
    (hserve : ∀ cause, (serve cfg.provider world.clock call world.panel).1 ≠
      .error cause)
    (hnext : (provision.revokeCall cfg call success failure world reply).next =
      some next) :
    reply = .ok ∧ next = .provisioning { provision with stage := success } ∨
      reply ≠ .ok ∧ next = .provisioning { provision with stage := failure } := by
  rw [Provision.revokeCall] at hnext
  rcases hcall : world.call cfg.provider call reply with ⟨cause | _, after⟩
  · rw [hcall] at hnext
    refine Or.inr ⟨?_, goto_next hnext⟩
    rcases World.call_error hcall with hreply | herror
    · exact hreply
    · exact absurd herror (hserve _)
  · rw [hcall] at hnext
    exact Or.inl ⟨(World.call_ok hcall).1, goto_next hnext⟩

theorem provision_next {provision : Provision}
    (hnext : (provision.resume cfg world reply).next = some next) :
    ∃ stage, next = .provisioning { provision with stage := stage } ∧
      StageStep provision.plan.tier reply provision.stage stage := by
  obtain ⟨input, plan, tx, stage⟩ := provision
  cases stage with
  | revoke call username rest =>
      cases call with
      | disable =>
          rcases revokeCall_next (by simp [serve]) hnext with
            ⟨hreply, rfl⟩ | ⟨hreply, rfl⟩
          · exact ⟨_, rfl, .disabled hreply⟩
          · exact ⟨_, rfl, .skipped hreply⟩
      | delete =>
          rcases revokeCall_next (by simp [serve]) hnext with
            ⟨hreply, rfl⟩ | ⟨hreply, rfl⟩
          · exact ⟨_, rfl, .deleted hreply⟩
          · exact ⟨_, rfl, .skipped hreply⟩
      | mark => exact ⟨_, goto_next hnext, .marked⟩
  | createUser =>
      rcases revokeCall_next (by simp [serve]) hnext with
        ⟨hreply, rfl⟩ | ⟨hreply, rfl⟩
      · exact ⟨_, rfl, .created hreply⟩
      · exact ⟨_, rfl, .notCreated hreply⟩
  | getUser =>
      simp only [Provision.resume] at hnext
      rcases hcall : world.call _ _ _ with ⟨cause | stored, after⟩
      · rw [hcall] at hnext
        exact ⟨_, goto_next hnext, .mismatched⟩
      · rw [hcall] at hnext
        dsimp only at hnext
        split_ifs at hnext
        · rw [Provision.provisioned] at hnext
          cases htier : plan.tier with
          | premium =>
              simp only [htier] at hnext
              exact ⟨_, goto_next hnext, .provisioned rfl⟩
          | free => simp [htier, finish] at hnext
        · exact ⟨_, goto_next hnext, .mismatched⟩
  | failClose =>
      simp only [Provision.resume] at hnext
      rcases hquery : world.query (failSessionClose world.clock tx.sessionId)
        reply with ⟨_ | _, after⟩
      · simp [hquery, finish] at hnext
      · rw [hquery] at hnext
        exact ⟨_, goto_next hnext, .closed (World.query_ok hquery).1⟩
  | failEnqueue =>
      simp only [Provision.resume] at hnext
      rcases hquery : world.query (failSessionEnqueue world.clock tx.sessionId
        tx.panelUsername) reply with ⟨_ | _, after⟩
      · simp [hquery, finish] at hnext
      · rw [hquery] at hnext
        exact ⟨_, goto_next hnext, .enqueued (World.query_ok hquery).1⟩
  | failPenalize => simp [Provision.resume, finish] at hnext
  | activate =>
      simp only [Provision.resume] at hnext
      rcases hquery : world.query (activateSession world.clock tx.sessionId)
        reply with ⟨_ | _, after⟩
      · simp [hquery, finish] at hnext
      · rw [hquery] at hnext
        exact ⟨_, goto_next hnext, .activated⟩
  | buildPayload =>
      simp only [Provision.resume] at hnext
      rcases hquery : world.query (ConnectionService.buildPayload cfg tx
        input.clientPubKey) reply with ⟨_ | _, after⟩ <;>
        simp [hquery, finish] at hnext

theorem connect_next {proc : ConnectProc}
    (hnext : (proc.resume cfg world draw reply).next = some next) :
    ConnectStep cfg world draw reply proc next := by
  cases proc with
  | admitted input =>
      cases reply with
      | ok =>
          obtain rfl := Option.some.inj hnext
          exact .resolve
      | fail applied cause => simp [ConnectProc.resume, finish] at hnext
  | resolved input plan =>
      simp only [ConnectProc.resume] at hnext
      rcases hquery : world.query (connectTransaction cfg world.clock input plan
        draw) reply with ⟨_ | tx, after⟩
      · simp [hquery, finish] at hnext
      · rw [hquery] at hnext
        obtain rfl := Option.some.inj hnext
        obtain ⟨hreply, hrun⟩ := World.query_ok hquery
        exact .commit hrun hreply
  | provisioning provision =>
      obtain ⟨stage, rfl, hstage⟩ := provision_next hnext
      exact .provision hstage

/-- The two successful answers of a connect. -/
inductive Answers (cfg : Config) (world : World) (provision : Provision) :
    ConnectResult → Prop
  | free : provision.plan.tier = .free →
      Answers cfg world provision (freeResult cfg provision)
  | premium {payload : SessionConfigService.EncryptedPayload} {after : Db} :
      provision.stage = .buildPayload →
      ConnectionService.buildPayload cfg provision.tx
        provision.input.clientPubKey world.db = .ok (payload, after) →
      Answers cfg world provision
        (.premium provision.tx.sessionId provision.plan.expiresAt payload)

theorem connect_answers {proc : ConnectProc} {result : ConnectResult}
    (hanswer : (proc.resume cfg world draw reply).answer = some (.ok result)) :
    ∃ provision, proc = .provisioning provision ∧
      Answers cfg world provision result := by
  cases proc with
  | admitted input =>
      cases reply <;> simp [ConnectProc.resume, finish] at hanswer
  | resolved input plan =>
      simp only [ConnectProc.resume] at hanswer
      rcases hquery : world.query (connectTransaction cfg world.clock input plan
        draw) reply with ⟨_ | tx, after⟩ <;>
        simp [hquery, finish] at hanswer
  | provisioning provision =>
      refine ⟨provision, rfl, ?_⟩
      obtain ⟨input, plan, tx, stage⟩ := provision
      simp only [ConnectProc.resume, Provision.resume] at hanswer
      cases stage with
      | revoke call username rest =>
          cases call <;> simp only [Provision.revokeCall] at hanswer
          · split at hanswer <;> simp [Provision.goto] at hanswer
          · split at hanswer <;> simp [Provision.goto] at hanswer
          · simp [Provision.goto] at hanswer
      | createUser =>
          simp only [Provision.revokeCall] at hanswer
          split at hanswer <;> simp [Provision.goto] at hanswer
      | getUser =>
          dsimp only at hanswer
          split at hanswer
          · split_ifs at hanswer
            · rw [Provision.provisioned] at hanswer
              cases htier : plan.tier with
              | premium => simp [htier, Provision.goto] at hanswer
              | free =>
                  simp only [htier, finish, Option.some.injEq,
                    Except.ok.injEq] at hanswer
                  exact hanswer ▸ .free htier
            · simp [Provision.goto] at hanswer
          · simp [Provision.goto] at hanswer
      | failClose =>
          dsimp only at hanswer
          split at hanswer <;>
            simp [Provision.goto, finish, provisionFailed] at hanswer
      | failEnqueue =>
          dsimp only at hanswer
          split at hanswer <;>
            simp [Provision.goto, finish, provisionFailed] at hanswer
      | failPenalize => simp [finish, provisionFailed] at hanswer
      | activate =>
          dsimp only at hanswer
          split at hanswer <;> simp [Provision.goto, finish] at hanswer
      | buildPayload =>
          dsimp only at hanswer
          rcases hquery : world.query (ConnectionService.buildPayload cfg tx
            input.clientPubKey) reply with ⟨_ | built, after⟩
          · simp [hquery, finish] at hanswer
          · simp only [hquery, finish, Option.some.injEq,
              Except.ok.injEq] at hanswer
            exact hanswer ▸ .premium rfl (World.query_ok hquery).2

/-- Only the last step of a premium connect answers with a payload. -/
theorem connect_answer {proc : ConnectProc} {sessionId expiresAt : ℕ}
    {payload : SessionConfigService.EncryptedPayload}
    (hanswer : (proc.resume cfg world draw reply).answer =
      some (.ok (.premium sessionId expiresAt payload))) :
    ∃ provision after, proc = .provisioning provision ∧
      provision.stage = .buildPayload ∧
      ConnectionService.buildPayload cfg provision.tx
        provision.input.clientPubKey world.db = .ok (payload, after) := by
  obtain ⟨provision, hproc, hanswers⟩ := connect_answers hanswer
  cases hanswers with
  | premium hstage hbuilt => exact ⟨provision, _, hproc, hstage, hbuilt⟩

end Steps

end VpnMiddleware.ConnectFlow
