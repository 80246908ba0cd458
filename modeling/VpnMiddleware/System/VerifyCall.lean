import VpnMiddleware.System.VerifyFlow

/-!
# A call of verify-ad-reward as a whole

The steps of one call put together, whatever the rest of the system does
between them: `worlds i` is the world that its `i`-th step after the
transaction finds, and `replies` says how each stage is answered.
-/

namespace VpnMiddleware.VerifyCall

open VpnMiddleware.Schema VpnMiddleware.Errors VpnMiddleware.Environment
open VpnMiddleware.AdsService VpnMiddleware.IdealPanel VpnMiddleware.Shared
open VpnMiddleware.Transaction VpnMiddleware.VerifyFlow

/-- The answer that a call gives within a number of steps. -/
def answerWithin (cfg : Config) (replies : VerifyStage → Reply) :
    ℕ → (ℕ → World) → VerifyProc → Option (Except Failure VerifyRewardResult)
  | 0, _, _ => none
  | steps + 1, worlds, proc =>
      let outcome := proc.resume cfg (worlds 0) (replies proc.stage)
      match outcome.next with
      | some next => answerWithin cfg replies steps (fun i => worlds (i + 1)) next
      | none => outcome.answer

/-- The answer to `verifyAdReward`; after its transaction a call takes at most
five steps. -/
def answer (cfg : Config) (replies : VerifyStage → Reply) (worlds : ℕ → World)
    (input : VerifyInput) (world : World) :
    Option (Except Failure VerifyRewardResult) :=
  let outcome := input.start cfg world
  match outcome.next with
  | some proc => answerWithin cfg replies 5 worlds proc
  | none => outcome.answer

/-- The tables that the transaction of the call commits. -/
def committed (cfg : Config) (input : VerifyInput) (world : World) : Db :=
  (input.start cfg world).world.db

/-- Statements succeed; the panel may answer anything. -/
def StatementsSucceed (replies : VerifyStage → Reply) : Prop :=
  ∀ stage, (∀ ext, stage ≠ .push ext) → replies stage = .ok

variable {cfg : Config} {replies : VerifyStage → Reply} {worlds : ℕ → World}
variable {input : VerifyInput} {ext : Extension} {steps : ℕ}
variable {result : VerifyRewardResult}

/-! ## The steps after the transaction -/

/-- A successful answer reports the plan that the transaction committed. -/
structure Reports (ext : Extension) (result : VerifyRewardResult) : Prop where
  session : result.sessionId = ext.sessionId
  expiry : result.expiresAt = ext.newExpires
  minutes : result.grantedMinutes = ext.grantedMinutes

theorem resume_reports {proc : VerifyProc} {world : World} {reply : Reply}
    (hext : proc.stage.extension = some ext)
    (hanswer : (proc.resume cfg world reply).answer = some (.ok result)) :
    Reports ext result := by
  obtain ⟨input, stage⟩ := proc
  cases stage with
  | deliver other sync =>
      obtain rfl := Except.ok.inj (Option.some.inj hanswer)
      obtain rfl := Option.some.inj hext
      exact ⟨rfl, rfl, rfl⟩
  | replay sessionId expiresAt => cases hext
  | push other =>
      simp only [VerifyProc.resume] at hanswer
      split at hanswer <;> simp [VerifyInput.goto] at hanswer
  | recordPushed other =>
      simp only [VerifyProc.resume] at hanswer
      split at hanswer <;> simp [VerifyInput.goto] at hanswer
  | stampSync other =>
      simp only [VerifyProc.resume] at hanswer
      split at hanswer <;> simp [VerifyInput.goto] at hanswer
  | recordFailed other cause =>
      simp only [VerifyProc.resume] at hanswer
      split at hanswer <;> simp [VerifyInput.goto, finish] at hanswer

theorem answerWithin_reports {proc : VerifyProc}
    (hext : proc.stage.extension = some ext)
    (hanswer : answerWithin cfg replies steps worlds proc = some (.ok result)) :
    Reports ext result := by
  induction steps generalizing worlds proc with
  | zero => cases hanswer
  | succ steps ih =>
      simp only [answerWithin] at hanswer
      cases hnext : (proc.resume cfg (worlds 0) (replies proc.stage)).next with
      | none =>
          rw [hnext] at hanswer
          exact resume_reports hext hanswer
      | some next =>
          rw [hnext] at hanswer
          obtain ⟨other, hbefore, hafter⟩ := (verify_next hnext).2.extension
          obtain rfl := Option.some.inj (hbefore.symm.trans hext)
          exact ih hafter hanswer

/-! ## Termination -/

/-- A step that goes on leaves the answer to the next one. -/
theorem answerWithin_succ {proc next : VerifyProc}
    (hnext : (proc.resume cfg (worlds 0) (replies proc.stage)).next =
      some next) :
    answerWithin cfg replies (steps + 1) worlds proc =
      answerWithin cfg replies steps (fun i => worlds (i + 1)) next := by
  simp only [answerWithin, hnext]

theorem exists_answer_deliver (sync : PanelSync) :
    ∃ result, answerWithin cfg replies (steps + 1) worlds
      ⟨input, .deliver ext sync⟩ = some (.ok result) :=
  ⟨_, rfl⟩

theorem exists_answer_recordFailed {cause : Failure}
    (hreply : replies (.recordFailed ext cause) = .ok) :
    ∃ result, answerWithin cfg replies (steps + 2) worlds
      ⟨input, .recordFailed ext cause⟩ = some (.ok result) := by
  have hnext : (VerifyProc.resume cfg ⟨input, .recordFailed ext cause⟩
      (worlds 0) (replies (.recordFailed ext cause))).next =
        some ⟨input, .deliver ext .pending⟩ := by
    rw [hreply]
    rfl
  rw [answerWithin_succ hnext]
  exact exists_answer_deliver .pending

theorem exists_answer_recordPushed
    (hrecorded : replies (.recordPushed ext) = .ok)
    (hstamped : replies (.stampSync ext) = .ok) :
    ∃ result, answerWithin cfg replies (steps + 3) worlds
      ⟨input, .recordPushed ext⟩ = some (.ok result) := by
  have hnext : (VerifyProc.resume cfg ⟨input, .recordPushed ext⟩ (worlds 0)
      (replies (.recordPushed ext))).next = some ⟨input, .stampSync ext⟩ := by
    rw [hrecorded]
    rfl
  have hthen : (VerifyProc.resume cfg ⟨input, .stampSync ext⟩ (worlds 1)
      (replies (.stampSync ext))).next = some ⟨input, .deliver ext .synced⟩ := by
    rw [hstamped]
    rfl
  rw [answerWithin_succ hnext, answerWithin_succ hthen]
  exact exists_answer_deliver .synced

/-- Whatever the panel answers to the push, the call ends successfully. -/
theorem exists_answer_push (hstatements : StatementsSucceed replies) :
    ∃ result, answerWithin cfg replies 5 worlds ⟨input, .push ext⟩ =
      some (.ok result) := by
  have hok : ∀ stage, (∀ ext, stage ≠ .push ext) → replies stage = .ok :=
    hstatements
  cases hcall : (worlds 0).call cfg.provider
      (.setUserExpiry ext.panelUsername ext.newExpires)
      (replies (.push ext)) with
  | mk outcome after =>
      cases outcome with
      | ok account =>
          have hnext : (VerifyProc.resume cfg ⟨input, .push ext⟩ (worlds 0)
              (replies (.push ext))).next = some ⟨input, .recordPushed ext⟩ := by
            simp only [VerifyProc.resume, hcall]
            rfl
          rw [answerWithin_succ hnext]
          apply exists_answer_recordPushed
          · exact hok _ (by simp)
          · exact hok _ (by simp)
      | error cause =>
          have hnext : (VerifyProc.resume cfg ⟨input, .push ext⟩ (worlds 0)
              (replies (.push ext))).next =
                some ⟨input, .recordFailed ext cause⟩ := by
            simp only [VerifyProc.resume, hcall]
            rfl
          rw [answerWithin_succ hnext]
          apply exists_answer_recordFailed
          exact hok _ (by simp)

/-! ## The whole call -/

section Call

variable {world : World} {after : Db}

theorem start_of_error {cause : Failure}
    (hthrow : verifyTransaction cfg world.clock input.userId input.grantId
      input.sessionId world.db = .error cause) :
    answer cfg replies worlds input world = some (.error cause) ∧
      committed cfg input world = world.db := by
  have hquery : world.query (verifyTransaction cfg world.clock input.userId
      input.grantId input.sessionId) .ok = (.error cause, world) := by
    simp only [World.query, withTransaction_of_error hthrow]
  constructor
  · simp only [answer, VerifyInput.start, hquery]
    rfl
  · simp only [committed, VerifyInput.start, hquery]
    rfl

theorem committed_of_ok {planned : Planned}
    (hrun : verifyTransaction cfg world.clock input.userId input.grantId
      input.sessionId world.db = .ok (planned, after)) :
    committed cfg input world = after := by
  have hquery : world.query (verifyTransaction cfg world.clock input.userId
      input.grantId input.sessionId) .ok =
        (.ok planned, { world with db := after }) := by
    exact World.query_of_ok hrun
  simp only [committed, VerifyInput.start, hquery]
  rcases planned with _ | ⟨_, _, _, _, _ | _⟩ <;> rfl

/-- A claim without time answers at once. -/
theorem answer_of_claim {sessionId newExpires minutes : ℕ} {username : String}
    (hrun : verifyTransaction cfg world.clock input.userId input.grantId
      input.sessionId world.db =
        .ok (.extend sessionId username newExpires minutes none, after)) :
    answer cfg replies worlds input world =
      some (.ok ⟨sessionId, newExpires, 0, .unchanged, none⟩) := by
  simp only [answer, VerifyInput.start, World.query_of_ok hrun]
  rfl

/-- A claim with time goes on to the panel. -/
theorem answer_of_extend {sessionId newExpires minutes opId : ℕ}
    {username : String}
    (hrun : verifyTransaction cfg world.clock input.userId input.grantId
      input.sessionId world.db =
        .ok (.extend sessionId username newExpires minutes (some opId), after)) :
    answer cfg replies worlds input world =
      answerWithin cfg replies 5 worlds
        ⟨input, .push ⟨sessionId, username, newExpires, minutes, opId⟩⟩ := by
  simp only [answer, VerifyInput.start, World.query_of_ok hrun]
  rfl

end Call

end VpnMiddleware.VerifyCall
