import VpnMiddleware.Ads.AdsService
import VpnMiddleware.System.Shared

/-!
# The verify-ad-reward flow: order of its steps

The transaction, the inline push with the statements that record its outcome,
and the delivery of the payload.
-/

namespace VpnMiddleware.VerifyFlow

open VpnMiddleware.Schema VpnMiddleware.Errors VpnMiddleware.Environment
open VpnMiddleware.AdsService VpnMiddleware.IdealPanel VpnMiddleware.Shared
open VpnMiddleware.Transaction

structure VerifyInput where
  userId : ℕ
  grantId : ℕ
  sessionId : ℕ
  deriving DecidableEq, Repr

/-- The committed plan of a claim that granted time. -/
structure Extension where
  sessionId : ℕ
  panelUsername : String
  newExpires : ℕ
  grantedMinutes : ℕ
  opId : ℕ
  deriving DecidableEq, Repr

inductive VerifyStage
  | push (ext : Extension)
  | recordPushed (ext : Extension)
  | stampSync (ext : Extension)
  | recordFailed (ext : Extension) (cause : Failure)
  | deliver (ext : Extension) (sync : PanelSync)
  | replay (sessionId expiresAt : ℕ)
  deriving DecidableEq, Repr

structure VerifyProc where
  input : VerifyInput
  stage : VerifyStage
  deriving DecidableEq, Repr

abbrev VerifyOutcome := Outcome VerifyProc (Except Failure VerifyRewardResult)

def VerifyInput.goto (input : VerifyInput) (stage : VerifyStage)
    (world : World) : VerifyOutcome :=
  { world := world, next := some ⟨input, stage⟩ }

def finish (answer : Except Failure VerifyRewardResult) (world : World) :
    VerifyOutcome :=
  { world := world, answer := some answer }

/-- The transaction of `verifyAdReward` and the branch on what it planned. -/
def VerifyInput.start (cfg : Config) (input : VerifyInput) (world : World) :
    VerifyOutcome :=
  match world.query (verifyTransaction cfg world.clock input.userId
    input.grantId input.sessionId) .ok with
  | (.ok (.idempotent sessionId expiresAt), after) =>
      input.goto (.replay sessionId expiresAt) after
  | (.ok (.extend sessionId _ newExpires _ none), after) =>
      finish (.ok ⟨sessionId, newExpires, 0, .unchanged, none⟩) after
  | (.ok (.extend sessionId panelUsername newExpires minutes (some opId)),
      after) =>
      input.goto (.push ⟨sessionId, panelUsername, newExpires, minutes, opId⟩)
        after
  | (.error cause, after) => finish (.error cause) after

/-- The payload of the answer; the read can fail like any other. -/
def deliveredPayload (cfg : Config) (sessionId : ℕ) (world : World)
    (reply : Reply) : Option SessionConfigService.EncryptedPayload :=
  match reply with
  | .ok => payloadFor cfg sessionId world.db
  | .fail _ _ => none

/-- One step after the transaction. -/
def VerifyProc.resume (cfg : Config) (proc : VerifyProc) (world : World)
    (reply : Reply) : VerifyOutcome :=
  let input := proc.input
  match proc.stage with
  | .push ext =>
      match world.call cfg.provider
        (.setUserExpiry ext.panelUsername ext.newExpires) reply with
      | (.ok _, after) => input.goto (.recordPushed ext) after
      | (.error cause, after) => input.goto (.recordFailed ext cause) after
  | .recordPushed ext =>
      match world.query (AdsService.recordPushed world.clock ext.opId) reply with
      | (.ok _, after) => input.goto (.stampSync ext) after
      | (.error cause, after) => input.goto (.recordFailed ext cause) after
  | .stampSync ext =>
      match world.query (AdsService.stampSync world.clock ext.sessionId)
        reply with
      | (.ok _, after) => input.goto (.deliver ext .synced) after
      | (.error cause, after) => input.goto (.recordFailed ext cause) after
  | .recordFailed ext cause =>
      match world.query (recordPushFailed world.clock ext.opId cause.message)
        reply with
      | (.ok _, after) => input.goto (.deliver ext .pending) after
      | (.error cause, after) => finish (.error cause) after
  | .deliver ext sync =>
      finish (.ok ⟨ext.sessionId, ext.newExpires, ext.grantedMinutes, sync,
        deliveredPayload cfg ext.sessionId world reply⟩) world
  | .replay sessionId expiresAt =>
      finish (.ok ⟨sessionId, expiresAt, 0, .unchanged,
        deliveredPayload cfg sessionId world reply⟩) world

/-! ## Where one step leads -/

/-- The extension that a process carries to the panel. -/
def VerifyStage.extension : VerifyStage → Option Extension
  | .push ext | .recordPushed ext | .stampSync ext => some ext
  | .recordFailed ext _ | .deliver ext _ => some ext
  | .replay _ _ => none

/-- The stages that one step connects. -/
inductive VerifyStep (cfg : Config) (world : World) (reply : Reply) :
    VerifyStage → VerifyStage → Prop
  | pushed {ext : Extension} {account : Option Account} : reply = .ok →
      (serve cfg.provider world.clock (.setUserExpiry ext.panelUsername
        ext.newExpires) world.panel).1 = .ok account →
      VerifyStep cfg world reply (.push ext) (.recordPushed ext)
  | pushFailed {ext : Extension} (cause : Failure) :
      VerifyStep cfg world reply (.push ext) (.recordFailed ext cause)
  | recorded {ext : Extension} :
      VerifyStep cfg world reply (.recordPushed ext) (.stampSync ext)
  | recordError {ext : Extension} (cause : Failure) :
      VerifyStep cfg world reply (.recordPushed ext) (.recordFailed ext cause)
  | stamped {ext : Extension} :
      VerifyStep cfg world reply (.stampSync ext) (.deliver ext .synced)
  | stampError {ext : Extension} (cause : Failure) :
      VerifyStep cfg world reply (.stampSync ext) (.recordFailed ext cause)
  | failed {ext : Extension} {cause : Failure} :
      VerifyStep cfg world reply (.recordFailed ext cause) (.deliver ext .pending)

theorem VerifyStep.extension {cfg : Config} {world : World} {reply : Reply}
    {stage stage' : VerifyStage} (hstep : VerifyStep cfg world reply stage stage') :
    ∃ ext, stage.extension = some ext ∧ stage'.extension = some ext := by
  cases hstep <;> exact ⟨_, rfl, rfl⟩

/-- Only a successful push leads to the statement that records it. -/
theorem VerifyStep.recordPushed {cfg : Config} {world : World} {reply : Reply}
    {stage : VerifyStage} {ext : Extension}
    (hstep : VerifyStep cfg world reply stage (.recordPushed ext)) :
    stage = .push ext ∧ reply = .ok ∧ ∃ account, (serve cfg.provider world.clock
      (.setUserExpiry ext.panelUsername ext.newExpires) world.panel).1 =
        .ok account := by
  cases hstep with
  | pushed hreply hserve => exact ⟨rfl, hreply, _, hserve⟩

section Steps

variable {cfg : Config} {world : World} {reply : Reply} {next : VerifyProc}

private theorem goto_next {input : VerifyInput} {stage : VerifyStage}
    (hnext : (input.goto stage world).next = some next) :
    next = ⟨input, stage⟩ :=
  (Option.some.inj hnext).symm

theorem verify_next {proc : VerifyProc}
    (hnext : (proc.resume cfg world reply).next = some next) :
    next.input = proc.input ∧
      VerifyStep cfg world reply proc.stage next.stage := by
  obtain ⟨input, stage⟩ := proc
  cases stage with
  | push ext =>
      simp only [VerifyProc.resume] at hnext
      rcases hcall : world.call cfg.provider (.setUserExpiry ext.panelUsername
        ext.newExpires) reply with ⟨cause | account, after⟩
      · rw [hcall] at hnext
        rw [goto_next hnext]
        exact ⟨rfl, .pushFailed cause⟩
      · rw [hcall] at hnext
        rw [goto_next hnext]
        obtain ⟨hreply, hserve⟩ := World.call_ok hcall
        exact ⟨rfl, .pushed hreply hserve⟩
  | recordPushed ext =>
      simp only [VerifyProc.resume] at hnext
      rcases hquery : world.query (AdsService.recordPushed world.clock ext.opId)
        reply with ⟨cause | _, after⟩
      · rw [hquery] at hnext
        rw [goto_next hnext]
        exact ⟨rfl, .recordError cause⟩
      · rw [hquery] at hnext
        rw [goto_next hnext]
        exact ⟨rfl, .recorded⟩
  | stampSync ext =>
      simp only [VerifyProc.resume] at hnext
      rcases hquery : world.query (AdsService.stampSync world.clock
        ext.sessionId) reply with ⟨cause | _, after⟩
      · rw [hquery] at hnext
        rw [goto_next hnext]
        exact ⟨rfl, .stampError cause⟩
      · rw [hquery] at hnext
        rw [goto_next hnext]
        exact ⟨rfl, .stamped⟩
  | recordFailed ext cause =>
      simp only [VerifyProc.resume] at hnext
      rcases hquery : world.query (recordPushFailed world.clock ext.opId
        cause.message) reply with ⟨_ | _, after⟩
      · simp [hquery, finish] at hnext
      · rw [hquery] at hnext
        rw [goto_next hnext]
        exact ⟨rfl, .failed⟩
  | deliver ext sync => simp [VerifyProc.resume, finish] at hnext
  | replay sessionId expiresAt => simp [VerifyProc.resume, finish] at hnext

/-- Only the last step answers, with the payload that it reads. -/
theorem verify_answer {proc : VerifyProc} {result : VerifyRewardResult}
    {payload : SessionConfigService.EncryptedPayload}
    (hanswer : (proc.resume cfg world reply).answer = some (.ok result))
    (hpayload : result.payload = some payload) :
    ∃ sessionId, payloadFor cfg sessionId world.db = some payload ∧
      ((∃ ext sync, proc.stage = .deliver ext sync ∧
          ext.sessionId = sessionId) ∨
        ∃ expiresAt, proc.stage = .replay sessionId expiresAt) := by
  have hread : ∀ {sessionId}, deliveredPayload cfg sessionId world reply =
      some payload → payloadFor cfg sessionId world.db = some payload := by
    intro sessionId hdelivered
    cases reply with
    | ok => exact hdelivered
    | fail applied cause => simp [deliveredPayload] at hdelivered
  obtain ⟨input, stage⟩ := proc
  simp only [VerifyProc.resume] at hanswer
  cases stage with
  | deliver ext sync =>
      obtain rfl := Except.ok.inj (Option.some.inj hanswer)
      exact ⟨ext.sessionId, hread hpayload, Or.inl ⟨ext, sync, rfl, rfl⟩⟩
  | replay sessionId expiresAt =>
      obtain rfl := Except.ok.inj (Option.some.inj hanswer)
      exact ⟨sessionId, hread hpayload, Or.inr ⟨expiresAt, rfl⟩⟩
  | push ext =>
      dsimp only at hanswer
      split at hanswer <;> simp [VerifyInput.goto] at hanswer
  | recordPushed ext =>
      dsimp only at hanswer
      split at hanswer <;> simp [VerifyInput.goto] at hanswer
  | stampSync ext =>
      dsimp only at hanswer
      split at hanswer <;> simp [VerifyInput.goto] at hanswer
  | recordFailed ext cause =>
      dsimp only at hanswer
      split at hanswer <;> simp [VerifyInput.goto, finish] at hanswer

theorem start_answer {input : VerifyInput} {result : VerifyRewardResult}
    (hanswer : (input.start cfg world).answer = some (.ok result)) :
    result.payload = none := by
  rw [VerifyInput.start] at hanswer
  split at hanswer
  · simp [VerifyInput.goto] at hanswer
  · obtain rfl := Except.ok.inj (Option.some.inj hanswer)
    rfl
  · simp [VerifyInput.goto] at hanswer
  · simp [finish] at hanswer

/-- A committed transaction goes on with a push or with a replay. -/
inductive StartsWith (planned : Planned) : VerifyStage → Prop
  | replay {sessionId expiresAt : ℕ} :
      planned = .idempotent sessionId expiresAt →
      StartsWith planned (.replay sessionId expiresAt)
  | push {ext : Extension} :
      planned = .extend ext.sessionId ext.panelUsername ext.newExpires
        ext.grantedMinutes (some ext.opId) →
      StartsWith planned (.push ext)

theorem start_next {input : VerifyInput}
    (hnext : (input.start cfg world).next = some next) :
    next.input = input ∧ ∃ planned after,
      verifyTransaction cfg world.clock input.userId input.grantId
        input.sessionId world.db = .ok (planned, after) ∧
      StartsWith planned next.stage := by
  rw [VerifyInput.start] at hnext
  rcases hquery : world.query (verifyTransaction cfg world.clock input.userId
    input.grantId input.sessionId) .ok with ⟨cause | planned, after⟩
  · simp [hquery, finish] at hnext
  · have hrun := (World.query_ok hquery).2
    rw [hquery] at hnext
    rcases planned with ⟨sessionId, expiresAt⟩ |
      ⟨sessionId, username, newExpires, minutes, _ | opId⟩
    · rw [goto_next hnext]
      exact ⟨rfl, _, _, hrun, .replay rfl⟩
    · simp [finish] at hnext
    · rw [goto_next hnext]
      exact ⟨rfl, _, _, hrun, .push rfl⟩

end Steps

end VpnMiddleware.VerifyFlow
