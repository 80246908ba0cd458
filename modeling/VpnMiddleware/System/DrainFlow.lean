import VpnMiddleware.System.Shared
import VpnMiddleware.Workers.OutboxDrainer

/-!
# The outbox drainer: order of its steps

One process for each claimed batch.  It dispatches the rows in turn and
records each outcome; a crashed process leaves its rows to their leases.
-/

namespace VpnMiddleware.DrainFlow

open VpnMiddleware.Schema VpnMiddleware.Errors VpnMiddleware.Environment
open VpnMiddleware.OutboxDrainer VpnMiddleware.IdealPanel VpnMiddleware.Shared

inductive DrainStage
  | dispatch
  | delete
  | complete
  | stamp
  | recordFailed (cause : Failure)
  deriving DecidableEq, Repr

structure DrainProc where
  row : OutboxRow
  stage : DrainStage
  queue : List OutboxRow
  deriving DecidableEq, Repr

abbrev DrainOutcome := Outcome DrainProc Unit

/-- The loop over the claimed rows. -/
def startNext : List OutboxRow → Option DrainProc
  | [] => none
  | row :: queue => some ⟨row, .dispatch, queue⟩

def DrainProc.goto (proc : DrainProc) (stage : DrainStage) (world : World) :
    DrainOutcome :=
  { world := world, next := some { proc with stage := stage } }

def DrainProc.nextRow (proc : DrainProc) (world : World) : DrainOutcome :=
  { world := world, next := startNext proc.queue }

def DrainProc.call (cfg : Config) (proc : DrainProc) (call : PanelCall)
    (success : DrainStage) (world : World) (reply : Reply) : DrainOutcome :=
  match world.call cfg.provider call reply with
  | (.ok _, after) => proc.goto success after
  | (.error cause, after) => proc.goto (.recordFailed cause) after

def missingEpoch : Failure :=
  .panel { message := "extend_user missing expire_epoch", retryable := false }

def unknownOp : Failure :=
  .panel { message := "unknown outbox op create_user", retryable := false }

/-- The first panel call of `dispatch`. -/
def DrainProc.dispatch (cfg : Config) (proc : DrainProc) (world : World)
    (reply : Reply) : DrainOutcome :=
  let username := proc.row.payload.panelUsername
  match proc.row.op with
  | .extendUser =>
      match proc.row.payload.expireEpoch with
      | none | some 0 => proc.goto (.recordFailed missingEpoch) world
      | some epoch =>
          proc.call cfg (.setUserExpiry username (epoch * 1000)) .complete world
            reply
  | .revokeUser =>
      proc.call cfg (.disableUser username) .delete world reply
  | .deleteUser =>
      proc.call cfg (.deleteUser username) .complete world reply
  | .createUser => proc.goto (.recordFailed unknownOp) world

def DrainProc.resume (cfg : Config) (proc : DrainProc) (world : World)
    (reply : Reply) : DrainOutcome :=
  match proc.stage with
  | .dispatch => proc.dispatch cfg world reply
  | .delete =>
      proc.call cfg (.deleteUser proc.row.payload.panelUsername) .complete world
        reply
  | .complete =>
      match world.query (recordSucceeded world.clock proc.row.id) reply with
      | (.ok _, after) =>
          match proc.row.op with
          | .extendUser => proc.goto .stamp after
          | _ => proc.nextRow after
      | (.error cause, after) => proc.goto (.recordFailed cause) after
  | .stamp =>
      proc.nextRow (world.query
        (stampSyncOf world.clock proc.row.payload.panelUsername) reply).2
  | .recordFailed cause =>
      match world.query (OutboxDrainer.recordFailed cfg world.clock proc.row
        cause) reply with
      | (.ok _, after) => proc.nextRow after
      | (.error _, after) => { world := after }

/-! ## Where one step leads -/

/-- The outbox row of the current stage and those still to dispatch. -/
def DrainProc.rows (proc : DrainProc) : List OutboxRow :=
  proc.row :: proc.queue

/-- The stages of one row that one step connects. -/
inductive DrainStep (cfg : Config) (world : World) (reply : Reply)
    (row : OutboxRow) : DrainStage → DrainStage → Prop
  | extended {epoch : ℕ} {account : Option Account} : row.op = .extendUser →
      row.payload.expireEpoch = some epoch → epoch ≠ 0 → reply = .ok →
      (serve cfg.provider world.clock (.setUserExpiry row.payload.panelUsername
        (epoch * 1000)) world.panel).1 = .ok account →
      DrainStep cfg world reply row .dispatch .complete
  | disabled : row.op = .revokeUser → reply = .ok →
      DrainStep cfg world reply row .dispatch .delete
  | deleted : row.op = .deleteUser → reply = .ok →
      DrainStep cfg world reply row .dispatch .complete
  | revoked : reply = .ok → DrainStep cfg world reply row .delete .complete
  | completed : row.op = .extendUser →
      DrainStep cfg world reply row .complete .stamp
  | failed {stage : DrainStage} (cause : Failure) :
      (reply ≠ .ok ∨ row.op = .extendUser ∨ row.op = .createUser) →
      DrainStep cfg world reply row stage (.recordFailed cause)

theorem DrainStep.delete {cfg : Config} {world : World} {reply : Reply}
    {row : OutboxRow} {stage : DrainStage}
    (hstep : DrainStep cfg world reply row stage .delete) :
    row.op = .revokeUser := by
  cases hstep with
  | disabled hop _ => exact hop

/-- Without a fault only extensions and unknown operations fail. -/
theorem DrainStep.failure {cfg : Config} {world : World} {reply : Reply}
    {row : OutboxRow} {stage : DrainStage} {cause : Failure}
    (hstep : DrainStep cfg world reply row stage (.recordFailed cause)) :
    reply ≠ .ok ∨ row.op = .extendUser ∨ row.op = .createUser := by
  cases hstep with
  | failed _ hfailed => exact hfailed

section Steps

variable {cfg : Config} {world : World} {reply : Reply}
variable {proc next : DrainProc}

private theorem goto_next {stage : DrainStage}
    (hnext : (proc.goto stage world).next = some next) :
    next = { proc with stage := stage } :=
  (Option.some.inj hnext).symm

private theorem call_next {call : PanelCall} {success : DrainStage}
    (hnext : (proc.call cfg call success world reply).next = some next) :
    (∃ account, reply = .ok ∧
      (serve cfg.provider world.clock call world.panel).1 = .ok account ∧
      next = { proc with stage := success }) ∨
    ∃ cause, (reply ≠ .ok ∨
      (serve cfg.provider world.clock call world.panel).1 = .error cause) ∧
      next = { proc with stage := .recordFailed cause } := by
  rw [DrainProc.call] at hnext
  rcases hcall : world.call cfg.provider call reply with ⟨cause | account, after⟩
  · rw [hcall] at hnext
    exact Or.inr ⟨cause, World.call_error hcall, goto_next hnext⟩
  · rw [hcall] at hnext
    obtain ⟨hreply, hserve⟩ := World.call_ok hcall
    exact Or.inl ⟨account, hreply, hserve, goto_next hnext⟩

private theorem dispatch_next (hstage : proc.stage = .dispatch)
    (hnext : (proc.dispatch cfg world reply).next = some next) :
    ∃ stage, next = { proc with stage := stage } ∧
      DrainStep cfg world reply proc.row proc.stage stage := by
  rw [hstage]
  rw [DrainProc.dispatch] at hnext
  cases hop : proc.row.op with
  | createUser =>
      simp only [hop] at hnext
      exact ⟨_, goto_next hnext, .failed _ (Or.inr (Or.inr hop))⟩
  | extendUser =>
      simp only [hop] at hnext
      cases hepoch : proc.row.payload.expireEpoch with
      | none =>
          simp only [hepoch] at hnext
          exact ⟨_, goto_next hnext, .failed _ (Or.inr (Or.inl hop))⟩
      | some epoch =>
          cases epoch with
          | zero =>
              simp only [hepoch] at hnext
              exact ⟨_, goto_next hnext, .failed _ (Or.inr (Or.inl hop))⟩
          | succ epoch =>
              simp only [hepoch] at hnext
              rcases call_next hnext with
                ⟨account, hreply, hserve, rfl⟩ | ⟨cause, -, rfl⟩
              · exact ⟨_, rfl, .extended hop hepoch (Nat.succ_ne_zero epoch)
                  hreply hserve⟩
              · exact ⟨_, rfl, .failed cause (Or.inr (Or.inl hop))⟩
  | revokeUser =>
      simp only [hop] at hnext
      rcases call_next hnext with ⟨_, hreply, -, rfl⟩ | ⟨cause, hfail, rfl⟩
      · exact ⟨_, rfl, .disabled hop hreply⟩
      · exact ⟨_, rfl, .failed cause (hfail.imp_right (by simp [serve]))⟩
  | deleteUser =>
      simp only [hop] at hnext
      rcases call_next hnext with ⟨_, hreply, -, rfl⟩ | ⟨cause, hfail, rfl⟩
      · exact ⟨_, rfl, .deleted hop hreply⟩
      · exact ⟨_, rfl, .failed cause (hfail.imp_right (by simp [serve]))⟩

/-- A step works on the current row or starts the next one. -/
theorem drain_next (hnext : (proc.resume cfg world reply).next = some next) :
    (∃ stage, next = { proc with stage := stage } ∧
      DrainStep cfg world reply proc.row proc.stage stage) ∨
    startNext proc.queue = some next := by
  cases hstage : proc.stage with
  | dispatch =>
      simp only [DrainProc.resume, hstage] at hnext
      exact Or.inl (hstage ▸ dispatch_next hstage hnext)
  | delete =>
      simp only [DrainProc.resume, hstage] at hnext
      left
      rcases call_next hnext with ⟨_, hreply, -, rfl⟩ | ⟨cause, hfail, rfl⟩
      · exact ⟨_, rfl, .revoked hreply⟩
      · exact ⟨_, rfl, .failed cause (hfail.imp_right (by simp [serve]))⟩
  | complete =>
      simp only [DrainProc.resume, hstage] at hnext
      rcases hquery : world.query (recordSucceeded world.clock proc.row.id)
        reply with ⟨cause | _, after⟩
      · rw [hquery] at hnext
        refine Or.inl ⟨_, goto_next hnext, .failed cause (Or.inl ?_)⟩
        rcases World.query_error hquery with hreply | herror
        · exact hreply
        · cases herror
      · rw [hquery] at hnext
        cases hop : proc.row.op with
        | extendUser =>
            simp only [hop] at hnext
            exact Or.inl ⟨_, goto_next hnext, .completed hop⟩
        | _ =>
            simp only [hop] at hnext
            exact Or.inr hnext
  | stamp =>
      simp only [DrainProc.resume, hstage] at hnext
      exact Or.inr hnext
  | recordFailed cause =>
      simp only [DrainProc.resume, hstage] at hnext
      rcases hquery : world.query (OutboxDrainer.recordFailed cfg world.clock
        proc.row cause) reply with ⟨_ | _, after⟩
      · simp [hquery] at hnext
      · rw [hquery] at hnext
        exact Or.inr hnext

theorem rows_of_startNext {queue : List OutboxRow}
    (hnext : startNext queue = some next) : next.rows = queue := by
  cases queue with
  | nil => simp [startNext] at hnext
  | cons row queue =>
      obtain rfl := Option.some.inj hnext
      rfl

theorem stage_of_startNext {queue : List OutboxRow}
    (hnext : startNext queue = some next) : next.stage = .dispatch := by
  cases queue with
  | nil => simp [startNext] at hnext
  | cons row queue =>
      obtain rfl := Option.some.inj hnext
      rfl

end Steps

end VpnMiddleware.DrainFlow
