import VpnMiddleware.Admin.AdminService
import VpnMiddleware.Attest.AttestedGuard
import VpnMiddleware.Core.Pool
import VpnMiddleware.Core.TransitionSystem
import VpnMiddleware.System.ConnectFlow
import VpnMiddleware.System.DrainFlow
import VpnMiddleware.System.VerifyFlow
import VpnMiddleware.Workers.NodeSync

/-!
# The middleware as a transition system

Any number of connects, claims of ad grants and drained batches are in flight;
each action is one of their steps, one transaction of another operation, a
crash of a process, or the passing of time.
-/

namespace VpnMiddleware.Middleware

open VpnMiddleware.Schema VpnMiddleware.Errors VpnMiddleware.Environment
open VpnMiddleware.Database VpnMiddleware.Transaction VpnMiddleware.IdealPanel
open VpnMiddleware.Shared VpnMiddleware.Pool VpnMiddleware.TransitionSystem
open VpnMiddleware.ConnectionService VpnMiddleware.ConnectFlow
open VpnMiddleware.AdsService VpnMiddleware.VerifyFlow VpnMiddleware.DrainFlow
open VpnMiddleware.AdminService VpnMiddleware.OutboxDrainer

structure State where
  world : World
  connects : List ConnectProc := []
  verifies : List VerifyProc := []
  drains : List DrainProc := []

/-- The tables that other parts of the service and the operators maintain. -/
structure ReferenceTables where
  devices : List Device
  subscriptions : List Subscription
  nodeInbounds : List NodeInbound
  nodeEndpoints : List NodeEndpoint

/-- The operations that are one transaction. -/
inductive Operation
  | requestAdToken (userId deviceId : ℕ) (purpose : AdGrantPurpose)
      (sessionId : Option ℕ) (grantId : ℕ) (bytes : Random.Bytes)
  | admobSsv (reward : AdMobReward)
  | sweepOnce (locked : List ℕ)
  | kickSession (sessionId : ℕ)
  | mutateUser (userId : ℕ) (changes : UserChanges) (actor : AdminActor)
  | panicRevokeFreeSessions (actor : AdminActor)
  | setNodeActive (nodeId : ℕ) (isActive : Bool)
  | forceMigrateNode (nodeId : ℕ) (actor : AdminActor)
  | syncNode (panelNodeId panelStatus : String)
  | maintain (tables : ReferenceTables)

def maintainTables (tables : ReferenceTables) : Query Unit :=
  modify fun db =>
    { db with
      devices := tables.devices
      subscriptions := tables.subscriptions
      nodeInbounds := tables.nodeInbounds
      nodeEndpoints := tables.nodeEndpoints }

def Operation.query (cfg : Config) (now : ℕ) : Operation → Query Unit
  | .requestAdToken userId deviceId purpose sessionId grantId bytes => do
      let _ ← AdsService.requestAdToken cfg now userId deviceId purpose
        sessionId grantId bytes
  | .admobSsv reward => do
      let _ ← recordVerifiedReward now reward
  | .sweepOnce locked => do
      let _ ← OutboxDrainer.sweepOnce cfg now locked
  | .kickSession sessionId => AdminService.kickSession now sessionId
  | .mutateUser userId changes actor => do
      let _ ← AdminService.mutateUser cfg now userId changes actor
  | .panicRevokeFreeSessions actor => do
      let _ ← AdminService.panicRevokeFreeSessions cfg now actor
  | .setNodeActive nodeId isActive =>
      AdminService.setNodeActive nodeId isActive
  | .forceMigrateNode nodeId actor => do
      let _ ← AdminService.forceMigrateNode cfg now nodeId actor
  | .syncNode panelNodeId panelStatus =>
      NodeSync.syncNode now panelNodeId panelStatus
  | .maintain tables => maintainTables tables

inductive Action
  | advance (ms : ℕ)
  | operate (op : Operation)
  | requestConnect (userId deviceId : ℕ) (presented : Option (List UInt8))
  | connect (i : ℕ) (draw : Draw) (reply : Reply)
  | verifyAdReward (input : VerifyInput)
  | verify (i : ℕ) (reply : Reply)
  | claim (locked : List ℕ)
  | drain (i : ℕ) (reply : Reply)
  | crashConnect (i : ℕ)
  | crashVerify (i : ℕ)
  | crashDrain (i : ℕ)

/-- The answers that reach a client. -/
inductive Response
  | connect (answer : Except Failure ConnectResult)
  | verify (answer : Except Failure VerifyRewardResult)

/-- `AttestedGuard`, then the controller's check of the key. -/
def checkRequest (now userId deviceId : ℕ) (presented : Option (List UInt8))
    (db : Db) : Except Failure ConnectInput :=
  match (withTransaction (AttestedGuard.canActivate now deviceId presented)
    db).1 with
  | .ok key =>
      if key.length = 32 then .ok ⟨userId, deviceId, key⟩
      else .error (.badRequest "missing attested key")
  | .error cause => .error cause

def State.requestConnect (s : State) (userId deviceId : ℕ)
    (presented : Option (List UInt8)) : State × Option Response :=
  match checkRequest s.world.clock userId deviceId presented s.world.db with
  | .ok input => ({ s with connects := s.connects ++ [.admitted input] }, none)
  | .error cause => (s, some (.connect (.error cause)))

def State.connect (cfg : Config) (s : State) (i : ℕ) (draw : Draw)
    (reply : Reply) : Option (State × Option Response) :=
  s.connects[i]?.map fun proc =>
    let outcome := proc.resume cfg s.world draw reply
    ({ s with world := outcome.world
              connects := settle s.connects i outcome.next },
      outcome.answer.map .connect)

def State.verifyAdReward (cfg : Config) (s : State) (input : VerifyInput) :
    State × Option Response :=
  let outcome := input.start cfg s.world
  ({ s with world := outcome.world
            verifies := s.verifies ++ outcome.next.toList },
    outcome.answer.map .verify)

def State.verify (cfg : Config) (s : State) (i : ℕ) (reply : Reply) :
    Option (State × Option Response) :=
  s.verifies[i]?.map fun proc =>
    let outcome := proc.resume cfg s.world reply
    ({ s with world := outcome.world
              verifies := settle s.verifies i outcome.next },
      outcome.answer.map .verify)

def State.claim (cfg : Config) (s : State) (locked : List ℕ) : State :=
  match s.world.query (OutboxDrainer.claim cfg s.world.clock locked) .ok with
  | (.ok rows, after) =>
      { s with world := after, drains := s.drains ++ (startNext rows).toList }
  | (.error _, after) => { s with world := after }

def State.drain (cfg : Config) (s : State) (i : ℕ) (reply : Reply) :
    Option State :=
  s.drains[i]?.map fun proc =>
    let outcome := proc.resume cfg s.world reply
    { s with world := outcome.world
             drains := settle s.drains i outcome.next }

/-- One action, with the answer it sends to a client. -/
def perform (cfg : Config) (s : State) :
    Action → Option (State × Option Response)
  | .advance ms =>
      some ({ s with world := { s.world with clock := s.world.clock + ms } },
        none)
  | .operate op =>
      some ({ s with
        world := (s.world.query (op.query cfg s.world.clock) .ok).2 }, none)
  | .requestConnect userId deviceId presented => some (s.requestConnect userId deviceId presented)
  | .connect i draw reply => s.connect cfg i draw reply
  | .verifyAdReward input => some (s.verifyAdReward cfg input)
  | .verify i reply => s.verify cfg i reply
  | .claim locked => some (s.claim cfg locked, none)
  | .drain i reply => (s.drain cfg i reply).map fun next => (next, none)
  | .crashConnect i => some ({ s with connects := s.connects.eraseIdx i }, none)
  | .crashVerify i => some ({ s with verifies := s.verifies.eraseIdx i }, none)
  | .crashDrain i => some ({ s with drains := s.drains.eraseIdx i }, none)

def step (cfg : Config) (s : State) (act : Action) : Option State :=
  (perform cfg s act).map Prod.fst

/-! ## Inversion of a step -/

section Inversion

variable {cfg : Config} {s s' : State} {act : Action}

theorem step_advance {ms : ℕ} (hstep : step cfg s (.advance ms) = some s') :
    s' = { s with world := { s.world with clock := s.world.clock + ms } } := by
  simpa only [step, perform, Option.map_some, Option.some.injEq] using hstep.symm

theorem step_operate {op : Operation}
    (hstep : step cfg s (.operate op) = some s') :
    s' = { s with
      world := (s.world.query (op.query cfg s.world.clock) .ok).2 } := by
  simpa only [step, perform, Option.map_some, Option.some.injEq] using hstep.symm

theorem step_requestConnect {userId deviceId : ℕ} {presented : Option (List UInt8)}
    (hstep : step cfg s (.requestConnect userId deviceId presented) = some s') :
    s' = s ∨ ∃ input, s' = { s with
      connects := s.connects ++ [.admitted input] } := by
  simp only [step, perform, State.requestConnect, Option.map_some,
    Option.some.injEq] at hstep
  subst hstep
  split
  · exact Or.inr ⟨_, rfl⟩
  · exact Or.inl rfl

theorem step_connect {i : ℕ} {draw : Draw} {reply : Reply}
    (hstep : step cfg s (.connect i draw reply) = some s') :
    ∃ proc, s.connects[i]? = some proc ∧ s' = { s with
      world := (proc.resume cfg s.world draw reply).world
      connects := settle s.connects i
        (proc.resume cfg s.world draw reply).next } := by
  simp only [step, perform, State.connect, Option.map_map,
    Option.map_eq_some_iff] at hstep
  obtain ⟨proc, hproc, rfl⟩ := hstep
  exact ⟨proc, hproc, rfl⟩

theorem step_verifyAdReward {input : VerifyInput}
    (hstep : step cfg s (.verifyAdReward input) = some s') :
    s' = { s with
      world := (input.start cfg s.world).world
      verifies := s.verifies ++ (input.start cfg s.world).next.toList } := by
  simpa only [step, perform, State.verifyAdReward, Option.map_some,
    Option.some.injEq] using hstep.symm

theorem step_verify {i : ℕ} {reply : Reply}
    (hstep : step cfg s (.verify i reply) = some s') :
    ∃ proc, s.verifies[i]? = some proc ∧ s' = { s with
      world := (proc.resume cfg s.world reply).world
      verifies := settle s.verifies i (proc.resume cfg s.world reply).next } := by
  simp only [step, perform, State.verify, Option.map_map,
    Option.map_eq_some_iff] at hstep
  obtain ⟨proc, hproc, rfl⟩ := hstep
  exact ⟨proc, hproc, rfl⟩

theorem step_claim {locked : List ℕ}
    (hstep : step cfg s (.claim locked) = some s') :
    s' = s.claim cfg locked := by
  simpa only [step, perform, Option.map_some, Option.some.injEq] using hstep.symm

theorem step_drain {i : ℕ} {reply : Reply}
    (hstep : step cfg s (.drain i reply) = some s') :
    ∃ proc, s.drains[i]? = some proc ∧ s' = { s with
      world := (proc.resume cfg s.world reply).world
      drains := settle s.drains i (proc.resume cfg s.world reply).next } := by
  simp only [step, perform, State.drain, Option.map_map,
    Option.map_eq_some_iff] at hstep
  obtain ⟨proc, hproc, rfl⟩ := hstep
  exact ⟨proc, hproc, rfl⟩

theorem step_crashConnect {i : ℕ}
    (hstep : step cfg s (.crashConnect i) = some s') :
    s' = { s with connects := s.connects.eraseIdx i } := by
  simpa only [step, perform, Option.map_some, Option.some.injEq] using hstep.symm

theorem step_crashVerify {i : ℕ}
    (hstep : step cfg s (.crashVerify i) = some s') :
    s' = { s with verifies := s.verifies.eraseIdx i } := by
  simpa only [step, perform, Option.map_some, Option.some.injEq] using hstep.symm

theorem step_crashDrain {i : ℕ}
    (hstep : step cfg s (.crashDrain i) = some s') :
    s' = { s with drains := s.drains.eraseIdx i } := by
  simpa only [step, perform, Option.map_some, Option.some.injEq] using hstep.symm

/-! ### Processes after a step -/

/-- The connects in flight after a step. -/
inductive ConnectsChange (cfg : Config) (s : State) (act : Action)
    (after : List ConnectProc) : Prop
  | same : (∀ i draw reply, act ≠ .connect i draw reply) →
      after = s.connects → ConnectsChange cfg s act after
  | requested (input : ConnectInput) :
      (∀ i draw reply, act ≠ .connect i draw reply) →
      after = s.connects ++ [.admitted input] → ConnectsChange cfg s act after
  | crashed (i : ℕ) : act = .crashConnect i →
      after = s.connects.eraseIdx i → ConnectsChange cfg s act after
  | resumed {i : ℕ} {draw : Draw} {reply : Reply} {proc : ConnectProc} :
      act = .connect i draw reply → s.connects[i]? = some proc →
      after = settle s.connects i (proc.resume cfg s.world draw reply).next →
      ConnectsChange cfg s act after

theorem connectsChange (hstep : step cfg s act = some s') :
    ConnectsChange cfg s act s'.connects := by
  cases act with
  | advance ms =>
      obtain rfl := step_advance hstep
      exact .same (by simp) rfl
  | operate op =>
      obtain rfl := step_operate hstep
      exact .same (by simp) rfl
  | requestConnect userId deviceId presented =>
      rcases step_requestConnect hstep with rfl | ⟨input, rfl⟩
      · exact .same (by simp) rfl
      · exact .requested input (by simp) rfl
  | connect i draw reply =>
      obtain ⟨proc, hproc, rfl⟩ := step_connect hstep
      exact .resumed rfl hproc rfl
  | verifyAdReward input =>
      obtain rfl := step_verifyAdReward hstep
      exact .same (by simp) rfl
  | verify i reply =>
      obtain ⟨_, -, rfl⟩ := step_verify hstep
      exact .same (by simp) rfl
  | claim locked =>
      have hsame : (s.claim cfg locked).connects = s.connects := by
        rw [State.claim]
        split <;> rfl
      rw [step_claim hstep, hsame]
      exact .same (by simp) rfl
  | drain i reply =>
      obtain ⟨_, -, rfl⟩ := step_drain hstep
      exact .same (by simp) rfl
  | crashConnect i =>
      obtain rfl := step_crashConnect hstep
      exact .crashed i rfl rfl
  | crashVerify i =>
      obtain rfl := step_crashVerify hstep
      exact .same (by simp) rfl
  | crashDrain i =>
      obtain rfl := step_crashDrain hstep
      exact .same (by simp) rfl

theorem mem_connects_of_next {i : ℕ} {draw : Draw} {reply : Reply}
    {proc next : ConnectProc}
    (hstep : step cfg s (.connect i draw reply) = some s')
    (hproc : s.connects[i]? = some proc)
    (hnext : (proc.resume cfg s.world draw reply).next = some next) :
    next ∈ s'.connects := by
  obtain ⟨current, hcurrent, rfl⟩ := step_connect hstep
  obtain rfl := Option.some.inj (hcurrent.symm.trans hproc)
  exact mem_settle_next hcurrent hnext

/-- A connect that does not crash stays, or goes on from its own step. -/
theorem connects_forward (hstep : step cfg s act = some s') {proc : ConnectProc}
    (hproc : proc ∈ s.connects) :
    proc ∈ s'.connects ∨ (∃ i, act = .crashConnect i) ∨
      ∃ i draw reply, act = .connect i draw reply ∧
        s.connects[i]? = some proc := by
  cases connectsChange hstep with
  | same _ hsame => exact Or.inl (hsame ▸ hproc)
  | requested input _ happend =>
      exact Or.inl (happend ▸ List.mem_append_left _ hproc)
  | crashed i hact _ => exact Or.inr (Or.inl ⟨i, hact⟩)
  | resumed hact hcurrent hsettle =>
      rcases mem_settle_of_mem hcurrent hproc with rfl | hother
      · exact Or.inr (Or.inr ⟨_, _, _, hact, hcurrent⟩)
      · exact Or.inl (hsettle ▸ hother)

theorem connects_step (hstep : step cfg s act = some s') {next : ConnectProc}
    (hnext : next ∈ s'.connects) :
    next ∈ s.connects ∨ (∃ input, next = .admitted input) ∨
      ∃ i draw reply proc, act = .connect i draw reply ∧
        s.connects[i]? = some proc ∧
        ConnectStep cfg s.world draw reply proc next := by
  cases connectsChange hstep with
  | same _ hsame => exact Or.inl (hsame ▸ hnext)
  | requested input _ happend =>
      rcases List.mem_append.mp (happend ▸ hnext) with hold | hnew
      · exact Or.inl hold
      · exact Or.inr (Or.inl ⟨input, List.mem_singleton.mp hnew⟩)
  | crashed i _ herase =>
      exact Or.inl (List.mem_of_mem_eraseIdx (herase ▸ hnext))
  | resumed hact hproc hsettle =>
      refine (mem_settle (hsettle ▸ hnext)).imp_right fun hresumed => Or.inr ?_
      exact ⟨_, _, _, _, hact, hproc, connect_next hresumed⟩

theorem verifies_step (hstep : step cfg s act = some s') {next : VerifyProc}
    (hnext : next ∈ s'.verifies) :
    next ∈ s.verifies ∨
      (∃ planned after, act = .verifyAdReward next.input ∧
        verifyTransaction cfg s.world.clock next.input.userId
          next.input.grantId next.input.sessionId s.world.db =
            .ok (planned, after) ∧ StartsWith planned next.stage) ∨
      ∃ i reply proc, act = .verify i reply ∧ s.verifies[i]? = some proc ∧
        next.input = proc.input ∧
        VerifyStep cfg s.world reply proc.stage next.stage := by
  cases act with
  | advance ms =>
      obtain rfl := step_advance hstep
      exact Or.inl hnext
  | operate op =>
      obtain rfl := step_operate hstep
      exact Or.inl hnext
  | requestConnect userId deviceId presented =>
      rcases step_requestConnect hstep with rfl | ⟨input, rfl⟩ <;> exact Or.inl hnext
  | connect i draw reply =>
      obtain ⟨_, -, rfl⟩ := step_connect hstep
      exact Or.inl hnext
  | verifyAdReward input =>
      rw [step_verifyAdReward hstep] at hnext
      refine (List.mem_append.mp hnext).imp_right fun hnew => Or.inl ?_
      obtain ⟨rfl, planned, after, hrun, hstarts⟩ :=
        start_next (Option.mem_toList.mp hnew)
      exact ⟨planned, after, rfl, hrun, hstarts⟩
  | verify i reply =>
      obtain ⟨proc, hproc, rfl⟩ := step_verify hstep
      refine (mem_settle hnext).imp_right fun hresumed => Or.inr ?_
      exact ⟨i, reply, proc, rfl, hproc, verify_next hresumed⟩
  | claim locked =>
      rw [step_claim hstep] at hnext
      rw [State.claim] at hnext
      split at hnext <;> exact Or.inl hnext
  | drain i reply =>
      obtain ⟨_, -, rfl⟩ := step_drain hstep
      exact Or.inl hnext
  | crashConnect i =>
      obtain rfl := step_crashConnect hstep
      exact Or.inl hnext
  | crashVerify i =>
      rw [step_crashVerify hstep] at hnext
      exact Or.inl (List.mem_of_mem_eraseIdx hnext)
  | crashDrain i =>
      obtain rfl := step_crashDrain hstep
      exact Or.inl hnext

theorem drains_step (hstep : step cfg s act = some s') {next : DrainProc}
    (hnext : next ∈ s'.drains) :
    next ∈ s.drains ∨
      (∃ locked, act = .claim locked ∧ next.stage = .dispatch ∧
        next.rows = (claimable cfg s.world.clock locked s.world.db).map
          claimedRow) ∨
      ∃ i reply proc, act = .drain i reply ∧ s.drains[i]? = some proc ∧
        ((next.rows = proc.rows ∧
            DrainStep cfg s.world reply proc.row proc.stage next.stage) ∨
          (next.rows = proc.queue ∧ next.stage = .dispatch)) := by
  cases act with
  | advance ms =>
      obtain rfl := step_advance hstep
      exact Or.inl hnext
  | operate op =>
      obtain rfl := step_operate hstep
      exact Or.inl hnext
  | requestConnect userId deviceId presented =>
      rcases step_requestConnect hstep with rfl | ⟨input, rfl⟩ <;> exact Or.inl hnext
  | connect i draw reply =>
      obtain ⟨_, -, rfl⟩ := step_connect hstep
      exact Or.inl hnext
  | verifyAdReward input =>
      obtain rfl := step_verifyAdReward hstep
      exact Or.inl hnext
  | verify i reply =>
      obtain ⟨_, -, rfl⟩ := step_verify hstep
      exact Or.inl hnext
  | claim locked =>
      rw [step_claim hstep] at hnext
      rw [State.claim] at hnext
      rcases hquery : s.world.query (OutboxDrainer.claim cfg s.world.clock
        locked) .ok with ⟨cause | rows, after⟩
      · rw [hquery] at hnext
        exact Or.inl hnext
      · rw [hquery] at hnext
        refine (List.mem_append.mp hnext).imp_right fun hnew => Or.inl ?_
        have hstart := Option.mem_toList.mp hnew
        obtain ⟨hrows, -⟩ := claim_ok (World.query_ok hquery).2
        exact ⟨locked, rfl, stage_of_startNext hstart,
          (rows_of_startNext hstart).trans hrows⟩
  | drain i reply =>
      obtain ⟨proc, hproc, rfl⟩ := step_drain hstep
      refine (mem_settle hnext).imp_right fun hresumed => Or.inr ?_
      refine ⟨i, reply, proc, rfl, hproc, ?_⟩
      rcases drain_next hresumed with ⟨stage, rfl, hstage⟩ | hstart
      · exact Or.inl ⟨rfl, hstage⟩
      · exact Or.inr ⟨rows_of_startNext hstart, stage_of_startNext hstart⟩
  | crashConnect i =>
      obtain rfl := step_crashConnect hstep
      exact Or.inl hnext
  | crashVerify i =>
      obtain rfl := step_crashVerify hstep
      exact Or.inl hnext
  | crashDrain i =>
      rw [step_crashDrain hstep] at hnext
      exact Or.inl (List.mem_of_mem_eraseIdx hnext)

end Inversion

/-! ## The system -/

/-- The answer that an action sends to a client. -/
def responseOf (cfg : Config) (s : State) (act : Action) : Option Response :=
  (perform cfg s act).bind Prod.snd

/-- Users, devices, plans, subscriptions and nodes exist; nothing has been
connected yet. -/
structure IsInitial (s : State) : Prop where
  sessions : s.world.db.sessions = []
  panelOps : s.world.db.panelOps = []
  grants : s.world.db.grants = []
  rewards : s.world.db.rewards = []
  panel : ∀ username, s.world.panel username = none
  connects : s.connects = []
  verifies : s.verifies = []
  drains : s.drains = []

def middleware (cfg : Config) : System State Action where
  init := IsInitial
  step := step cfg

/-! ## A small deployment -/

def smallKey : List UInt8 := List.replicate 32 7

/-- One user with an attested device, the free plan and one free node. -/
def smallDb : Db where
  users := [{ id := 1 }]
  devices := [{
    id := 1
    userId := 1
    isAttested := true
    attestedUntil := some 86400000
    attestedClientPublicKey := some smallKey }]
  plans := [{ id := 1, code := "free", tier := .free }]
  nodes := [{ id := 1, tier := .free }]
  nodeInbounds := [{
    nodeId := 1
    inboundTag := "vless-in"
    protocol := "vless"
    tier := .free }]
  nodeEndpoints := [{
    nodeId := 1
    inboundTag := "vless-in"
    address := "node"
    port := 443 }]

def smallDeployment : State := { world := { db := smallDb } }

theorem isInitial_smallDeployment : IsInitial smallDeployment :=
  ⟨rfl, rfl, rfl, rfl, fun _ => rfl, rfl, rfl, rfl⟩

def smallDraw : Draw := ⟨1, 1, fun _ => 0, fun _ => 0, fun _ => 0⟩

/-- The user's connect runs up to the commit of Phase A. -/
def smallConnect : List Action :=
  [.requestConnect 1 1 (some smallKey), .connect 0 smallDraw .ok,
    .connect 0 smallDraw .ok]

end VpnMiddleware.Middleware
