import VpnMiddleware.Client.TunnelService

/-!
# Start and teardown of the Android tunnel

`CONNECTED` is to mean a running box, and a stop, revoke or expiry is to leave
nothing running.  Both hold as long as a start thread goes on only while its
start is still the wanted one: it never checks that itself.
-/

namespace VpnMiddleware.TunnelSafety

open VpnMiddleware.TransitionSystem VpnMiddleware.TunnelService
open VpnMiddleware.TunnelService.Process

variable {p next : Process} {act : Action}
variable {trace : List (Process × Action)}

/-! ## What is to hold of a run -/

/-- The live instance holds a running box. -/
def HoldsRunning (p : Process) : Prop :=
  ∃ v k, p.live = some v ∧ (p.services v).box = some k ∧
    (p.cores k).running = true

/-- It holds a running box whose deadline has not passed. -/
def HoldsInTime (p : Process) : Prop :=
  ∃ v k, p.live = some v ∧ (p.services v).box = some k ∧
    (p.cores k).running = true ∧
    expired p.now (p.cores k).hardExpiryEpochMs = false

/-- What a step publishes on the bus. -/
def published (p next : Process) : List BusState :=
  next.bus.emitted.drop p.bus.emitted.length

/-- The next step of a thread finds its deadline passed and tears down. -/
def handlesExpiry (p : Process) (id : ℕ) : Bool :=
  (p.threads id).any fun thread => match thread.stage with
    | .scheduleHardExpiry _ => expired p.now thread.hardExpiryEpochMs
    | _ => false

/-- How a step moves the mark of a halt. -/
def markHalted (flag : Bool) (entry : Process × Action) : Bool :=
  match entry.2 with
  | .stop | .revoke | .expire _ => true
  | .start config _ => flag && isNullOrBlank config
  | .thread id _ => flag || handlesExpiry entry.1 id
  | .tick _ | .destroy => flag

/-- A stop, revoke or expiry has been handled since the last start intent. -/
def halted (trace : List (Process × Action)) : Bool :=
  trace.foldl markHalted false

/-- No start thread is in flight. -/
def Quiescent (p : Process) : Prop := ∀ id, p.threads id = none

structure TunnelSafe (trace : List (Process × Action)) (last : Process) :
    Prop where
  connected : Always (fun p => p.bus.currentState = .connected → HoldsRunning p)
    trace last
  inTime : ∀ entry ∈ trace, ∀ next, step entry.1 entry.2 = some next →
    .connected ∈ published entry.1 next → HoldsInTime next
  silent : ∀ before entry after, trace = before ++ entry :: after →
    halted (before ++ [entry]) = true → ∀ next,
      step entry.1 entry.2 = some next → .connected ∉ published entry.1 next
  stopped : ∀ before entry after, trace = before ++ entry :: after →
    halted before = true → Quiescent entry.1 →
      ∀ k, (entry.1.cores k).running = false
  stopped_last : halted trace = true → Quiescent last →
    ∀ k, (last.cores k).running = false

/-! ## The condition -/

/-- The next step of a thread tears down. -/
def tearsDown (p : Process) (id : ℕ) : Bool :=
  handlesExpiry p id || (p.threads id).any fun thread =>
    thread.stage == .stopSelfGracefully

/-- How a step moves the wanted start. -/
def markWanted (wanted : Option ℕ) (entry : Process × Action) : Option ℕ :=
  match entry.2 with
  | .start config _ =>
      if isNullOrBlank config then wanted else some entry.1.nextThread
  | .stop | .revoke | .destroy | .expire _ => none
  | .thread id _ => if tearsDown entry.1 id then none else wanted
  | .tick _ => wanted

/-- The thread of the last start intent, unless a teardown has come since. -/
def wantedStart (trace : List (Process × Action)) : Option ℕ :=
  trace.foldl markWanted none

/-- A thread's step is in order: once it has made its core it goes on only
while its start is wanted, it stores the core into an empty field, and it
reports the tunnel before the deadline. -/
def inOrder (wanted : Option ℕ) (p : Process) (id : ℕ) (thread : StartThread) :
    Bool :=
  match thread.stage with
  | .newService | .stopSelfGracefully => true
  | .start _ | .startCommandClient _ | .scheduleHardExpiry _ => wanted == some id
  | .assignBox _ => wanted == some id && (p.services thread.service).box.isNone
  | .emitConnected _ =>
      wanted == some id && !expired p.now thread.hardExpiryEpochMs

/-- A step is orderly: a thread's step is in order or throws, and an instance
is not destroyed while the tunnel is reported up. -/
def orderly (wanted : Option ℕ) (entry : Process × Action) : Bool :=
  match entry.2 with
  | .destroy => entry.1.bus.currentState != .connected
  | .thread _ (.threw _) => true
  | .thread id _ => (entry.1.threads id).all (inOrder wanted entry.1 id)
  | _ => true

def orderlyFrom (wanted : Option ℕ) : List (Process × Action) → Bool
  | [] => true
  | entry :: rest =>
      orderly wanted entry && orderlyFrom (markWanted wanted entry) rest

/-- Every step of the run is orderly where it is taken. -/
def orderlyRun (trace : List (Process × Action)) : Bool := orderlyFrom none trace

theorem inOrder_of_orderly {wanted : Option ℕ} {id : ℕ} {thread : StartThread}
    {outcome : Outcome} (hthread : p.threads id = some thread)
    (horder : orderly wanted (p, .thread id outcome) = true)
    (hreturns : ∀ tunFd, outcome ≠ .threw tunFd) :
    inOrder wanted p id thread = true := by
  cases outcome with
  | threw tunFd => exact absurd rfl (hreturns tunFd)
  | _ => simpa [orderly, hthread] using horder

theorem orderlyFrom_append {first second : List (Process × Action)} :
    ∀ {wanted : Option ℕ}, orderlyFrom wanted (first ++ second) =
      (orderlyFrom wanted first &&
        orderlyFrom (first.foldl markWanted wanted) second) := by
  induction first with
  | nil => intro wanted; rfl
  | cons entry rest ih =>
      intro wanted
      simp only [List.cons_append, orderlyFrom, ih, List.foldl_cons, Bool.and_assoc]

theorem orderlyRun_append {first second : List (Process × Action)} :
    orderlyRun (first ++ second) =
      (orderlyRun first && orderlyFrom (wantedStart first) second) :=
  orderlyFrom_append

/-! ## The invariant -/

/-- What the thread of the wanted start has reached. -/
def Reached (p : Process) (thread : StartThread) : Stage → Prop
  | .newService | .stopSelfGracefully => True
  | .start k =>
      k < p.nextCore ∧
        (p.cores k).hardExpiryEpochMs = thread.hardExpiryEpochMs
  | .assignBox k =>
      k < p.nextCore ∧
        (p.cores k).hardExpiryEpochMs = thread.hardExpiryEpochMs ∧
        (p.cores k).running = true
  | .startCommandClient k | .scheduleHardExpiry k =>
      (p.services thread.service).box = some k ∧
        (p.cores k).hardExpiryEpochMs = thread.hardExpiryEpochMs ∧
        ∀ r, p.posted r = none
  | .emitConnected k =>
      (p.services thread.service).box = some k ∧
        (p.cores k).hardExpiryEpochMs = thread.hardExpiryEpochMs

/-- Of an orderly run with this wanted start and halt mark. -/
structure Tidy (wanted : Option ℕ) (flag : Bool) (p : Process) : Prop where
  fresh : ∀ id, p.nextThread ≤ id → p.threads id = none
  boxes : ∀ v k, (p.services v).box = some k →
    p.live = some v ∧ k < p.nextCore ∧ (p.cores k).running = true
  running : ∀ k, (p.cores k).running = true →
    (∃ v, (p.services v).box = some k) ∨
      ∃ id thread, p.threads id = some thread ∧ thread.stage = .assignBox k
  posted : ∀ r runnable, p.posted r = some runnable →
    p.live = some runnable.service ∧
      (p.services runnable.service).expiryRunnable = some r ∧
      (p.services runnable.service).box ≠ none
  connected : p.bus.currentState = .connected → HoldsRunning p
  wanted_thread : ∀ id thread, wanted = some id → p.threads id = some thread →
    p.live = some thread.service ∧ Reached p thread thread.stage
  halted : flag = true → wanted = none ∧ ∀ v, (p.services v).box = none

namespace Tidy

variable {wanted : Option ℕ} {flag flag' : Bool}

theorem box_none_of_live_none (htidy : Tidy wanted flag p)
    (hlive : p.live = none) (v : ℕ) : (p.services v).box = none := by
  cases hbox : (p.services v).box with
  | none => rfl
  | some k => simp [(htidy.boxes v k hbox).1] at hlive

/-! ### Teardown -/

theorem box_teardown {v v' k : ℕ} (hbox : ((p.teardown v).services v').box = some k) :
    v' ≠ v ∧ (p.services v').box = some k := by
  simp only [teardown, Function.update_apply] at hbox
  split at hbox
  · cases hbox
  · exact ⟨‹_›, hbox⟩

theorem running_teardown {v k : ℕ}
    (hrunning : ((p.teardown v).cores k).running = true) :
    (p.cores k).running = true ∧ (p.services v).box ≠ some k := by
  simp only [teardown] at hrunning
  cases hbox : (p.services v).box with
  | none => simpa [closeBox, hbox] using hrunning
  | some k' =>
      simp only [hbox, closeBox, Function.update_apply] at hrunning
      split at hrunning
      · cases hrunning
      · next hne => exact ⟨hrunning, fun heq => hne (Option.some.inj heq).symm⟩

theorem cores_teardown {v k : ℕ} (hbox : (p.services v).box ≠ some k) :
    (p.teardown v).cores k = p.cores k := by
  cases hheld : (p.services v).box with
  | none => simp [teardown, hheld, closeBox]
  | some k' =>
      have hne : k ≠ k' := fun heq => hbox (heq ▸ hheld)
      simp [teardown, hheld, closeBox, hne]

theorem posted_teardown {v r : ℕ} {runnable : ExpiryRunnable}
    (hposted : (p.teardown v).posted r = some runnable) :
    p.posted r = some runnable ∧ (p.services v).expiryRunnable ≠ some r := by
  cases hheld : (p.services v).expiryRunnable with
  | none => simpa [teardown, hheld, removeCallbacks] using hposted
  | some r' =>
      simp only [teardown, hheld, removeCallbacks, Function.update_apply] at hposted
      split at hposted
      · cases hposted
      · next hne => exact ⟨hposted, fun heq => hne (Option.some.inj heq).symm⟩

/-- A teardown ends the wanted start; of the live instance it ends the tunnel. -/
theorem teardown (htidy : Tidy wanted flag p) (v : ℕ)
    (hflag : flag' = true → flag = true ∨ p.live = some v) :
    Tidy none flag' ((p.teardown v).emitState .disconnected) := by
  constructor
  case fresh => exact htidy.fresh
  case boxes =>
    intro v' k hbox
    obtain ⟨hne, hbox⟩ := box_teardown hbox
    obtain ⟨hlive, hlt, hrunning⟩ := htidy.boxes v' k hbox
    refine ⟨hlive, hlt, ?_⟩
    have hother : (p.services v).box ≠ some k := by
      intro hheld
      have := (htidy.boxes v k hheld).1
      rw [hlive, Option.some.injEq] at this
      exact hne this
    change ((p.teardown v).cores k).running = true
    rw [cores_teardown hother]
    exact hrunning
  case running =>
    intro k hrunning
    obtain ⟨hrunning, hother⟩ := running_teardown hrunning
    rcases htidy.running k hrunning with ⟨v', hbox⟩ | hthread
    · refine .inl ⟨v', ?_⟩
      have hne : v' ≠ v := by
        rintro rfl
        exact hother hbox
      simpa [Process.teardown, emitState, hne] using hbox
    · exact .inr hthread
  case posted =>
    intro r runnable hposted
    obtain ⟨hposted, hother⟩ := posted_teardown hposted
    obtain ⟨hlive, hexpiry, hbox⟩ := htidy.posted r runnable hposted
    have hne : runnable.service ≠ v := by
      rintro rfl
      exact hother hexpiry
    refine ⟨hlive, ?_, ?_⟩
    · simpa [Process.teardown, emitState, hne] using hexpiry
    · simpa [Process.teardown, emitState, hne] using hbox
  case connected => intro hstate; cases hstate
  case wanted_thread => intro id thread hwanted; cases hwanted
  case halted =>
    intro hset
    refine ⟨rfl, fun v' => ?_⟩
    cases hbox : (((p.teardown v).emitState .disconnected).services v').box with
    | none => rfl
    | some k =>
        obtain ⟨hne, hbox⟩ := box_teardown hbox
        rcases hflag hset with hold | hlive
        · simp [(htidy.halted hold).2 v'] at hbox
        · have := (htidy.boxes v' k hbox).1
          rw [hlive, Option.some.injEq] at this
          exact absurd this.symm hne

/-! ### Events of the main thread -/

theorem emitState {state : BusState} (htidy : Tidy wanted flag p)
    (hstate : state ≠ .connected) : Tidy wanted flag (p.emitState state) where
  fresh := htidy.fresh
  boxes := htidy.boxes
  running := htidy.running
  posted := htidy.posted
  connected heq := absurd heq hstate
  wanted_thread := htidy.wanted_thread
  halted := htidy.halted

theorem stopSelfGracefully (htidy : Tidy wanted flag p) (v : ℕ)
    (hflag : flag' = true → flag = true ∨ p.live = some v) :
    Tidy none flag' (p.stopSelfGracefully v) :=
  (htidy.emitState (by decide)).teardown v hflag

theorem tick (htidy : Tidy wanted flag p) (ms : ℕ) :
    Tidy wanted flag { p with now := p.now + ms } where
  fresh := htidy.fresh
  boxes := htidy.boxes
  running := htidy.running
  posted := htidy.posted
  connected := htidy.connected
  wanted_thread := htidy.wanted_thread
  halted := htidy.halted

/-- Taking an intent in changes nothing but the live instance, which then is
the receiver. -/
theorem receiver (htidy : Tidy wanted flag p) :
    Tidy wanted flag p.receiver.2 ∧ p.receiver.2.live = some p.receiver.1 := by
  cases hlive : p.live with
  | some v => simpa [Process.receiver, hlive] using htidy
  | none =>
      have hbox := htidy.box_none_of_live_none hlive
      refine ⟨?_, by simp [Process.receiver, hlive]⟩
      simp only [Process.receiver, hlive]
      constructor
      case fresh => exact htidy.fresh
      case boxes => exact fun v k hheld => by simp [hbox] at hheld
      case running => exact htidy.running
      case posted =>
        intro r runnable hposted
        have hsome := (htidy.posted r runnable hposted).1
        simp [hlive] at hsome
      case connected =>
        intro hstate
        obtain ⟨v, -, hsome, -⟩ := htidy.connected hstate
        simp [hlive] at hsome
      case wanted_thread =>
        intro id thread hwanted hthread
        have hsome := (htidy.wanted_thread id thread hwanted hthread).1
        simp [hlive] at hsome
      case halted => exact htidy.halted

theorem startCore (htidy : Tidy wanted flag p) {v : ℕ} {hardExpiryEpochMs : ℤ}
    (hlive : p.live = some v) :
    Tidy (some p.nextThread) false (p.startCore v hardExpiryEpochMs) := by
  have hnew := htidy.fresh p.nextThread (Nat.le_refl _)
  constructor
  case fresh =>
    intro id hid
    have hne : id ≠ p.nextThread := by
      rintro rfl
      exact absurd hid (Nat.not_succ_le_self _)
    simpa [Process.startCore, Process.emitState, hne] using
      htidy.fresh id (Nat.le_of_succ_le hid)
  case boxes => exact htidy.boxes
  case running =>
    intro k hrunning
    rcases htidy.running k hrunning with hbox | ⟨id, thread, hthread, hstage⟩
    · exact .inl hbox
    · refine .inr ⟨id, thread, ?_, hstage⟩
      have hne : id ≠ p.nextThread := by
        rintro rfl
        simp [hnew] at hthread
      simpa [Process.startCore, Process.emitState, hne] using hthread
  case posted => exact htidy.posted
  case connected => intro hstate; cases hstate
  case wanted_thread =>
    intro id thread hwanted hthread
    obtain rfl := Option.some.inj hwanted
    simp only [Process.startCore, Process.emitState, Function.update_self,
      Option.some.injEq] at hthread
    subst hthread
    exact ⟨hlive, trivial⟩
  case halted => intro hset; cases hset

theorem onStart (htidy : Tidy wanted flag p) {config : Option String}
    {hardExpiryEpochMs : ℤ} :
    Tidy (markWanted wanted (p, .start config hardExpiryEpochMs))
      (markHalted flag (p, .start config hardExpiryEpochMs))
      (p.onStart config hardExpiryEpochMs) := by
  obtain ⟨hreceived, hlive⟩ := htidy.receiver
  have hnext : p.receiver.2.nextThread = p.nextThread := by
    rw [Process.receiver]
    cases p.live <;> rfl
  simp only [Process.onStart, markWanted, markHalted]
  cases isNullOrBlank config with
  | true => simpa using hreceived
  | false => simpa [hnext] using hreceived.startCore hlive

theorem onStop (htidy : Tidy wanted flag p) : Tidy none true p.onStop := by
  obtain ⟨hreceived, hlive⟩ := htidy.receiver
  exact hreceived.stopSelfGracefully _ fun _ => .inr hlive

theorem onRevoke (htidy : Tidy wanted flag p) (hstep : p.onRevoke = some next) :
    Tidy none true next := by
  obtain ⟨v, hlive, rfl⟩ := Option.map_eq_some_iff.mp hstep
  exact htidy.stopSelfGracefully v fun _ => .inr hlive

theorem onDestroy (htidy : Tidy wanted flag p)
    (hbus : p.bus.currentState ≠ .connected) (hstep : p.onDestroy = some next) :
    Tidy none flag next := by
  obtain ⟨v, hlive, rfl⟩ := Option.map_eq_some_iff.mp hstep
  have hdown : Tidy none flag ((p.teardown v).emitState .disconnected) :=
    htidy.teardown v .inl
  have hbox : ∀ v', ((p.teardown v).services v').box = none := by
    intro v'
    cases hheld : ((p.teardown v).services v').box with
    | none => rfl
    | some k =>
        obtain ⟨hne, hheld⟩ := box_teardown hheld
        have := (htidy.boxes v' k hheld).1
        rw [hlive, Option.some.injEq] at this
        exact absurd this.symm hne
  constructor
  case fresh => exact hdown.fresh
  case boxes => exact fun v' k hheld => by simp [hbox] at hheld
  case running => exact hdown.running
  case posted =>
    intro r runnable hposted
    exact absurd (hbox _) (hdown.posted r runnable hposted).2.2
  case connected => exact fun hstate => absurd hstate hbus
  case wanted_thread => intro id thread hwanted; cases hwanted
  case halted => exact hdown.halted

theorem removeCallbacks (htidy : Tidy wanted flag p) (r : ℕ) :
    Tidy wanted flag { p with
      posted := Process.removeCallbacks p.posted (some r) } := by
  have hkept : ∀ r' runnable,
      Process.removeCallbacks p.posted (some r) r' = some runnable →
        p.posted r' = some runnable := by
    intro r' runnable hposted
    simp only [Process.removeCallbacks, Function.update_apply] at hposted
    split at hposted
    · cases hposted
    · exact hposted
  constructor
  case fresh => exact htidy.fresh
  case boxes => exact htidy.boxes
  case running => exact htidy.running
  case posted =>
    exact fun r' runnable hposted =>
      htidy.posted r' runnable (hkept r' runnable hposted)
  case connected => exact htidy.connected
  case wanted_thread =>
    intro id thread hwanted hthread
    obtain ⟨hlive, hreached⟩ := htidy.wanted_thread id thread hwanted hthread
    refine ⟨hlive, ?_⟩
    have hnone : (∀ r', p.posted r' = none) →
        ∀ r', Process.removeCallbacks p.posted (some r) r' = none := by
      intro hnone r'
      simp [Process.removeCallbacks, Function.update_apply, hnone]
    cases hstage : thread.stage <;> rw [hstage] at hreached
    case startCommandClient k =>
      exact ⟨hreached.1, hreached.2.1, hnone hreached.2.2⟩
    case scheduleHardExpiry k =>
      exact ⟨hreached.1, hreached.2.1, hnone hreached.2.2⟩
    all_goals exact hreached
  case halted => exact htidy.halted

theorem onExpiry (htidy : Tidy wanted flag p) {r : ℕ}
    (hstep : p.onExpiry r = some next) : Tidy none true next := by
  rw [Process.onExpiry] at hstep
  cases hposted : p.posted r with
  | none => simp [hposted] at hstep
  | some runnable =>
      simp only [hposted] at hstep
      split at hstep
      · obtain rfl := Option.some.inj hstep
        have hlive := (htidy.posted r runnable hposted).1
        exact (htidy.removeCallbacks r).stopSelfGracefully _ fun _ => .inr hlive
      · cases hstep

/-! ### Steps of a start thread -/

variable {id : ℕ} {thread : StartThread}

theorem lt_nextThread (htidy : Tidy wanted flag p)
    (hthread : p.threads id = some thread) : id < p.nextThread := by
  by_contra hge
  rw [htidy.fresh id (Nat.le_of_not_lt hge)] at hthread
  cases hthread

theorem fresh_setStage (htidy : Tidy wanted flag p) {stage : Stage}
    (hthread : p.threads id = some thread) (other : ℕ)
    (hother : p.nextThread ≤ other) :
    (p.setStage id thread stage).threads other = none := by
  have hne : other ≠ id := by
    rintro rfl
    exact absurd (htidy.lt_nextThread hthread) (Nat.not_lt_of_le hother)
  simpa [Process.setStage, hne] using htidy.fresh other hother

/-- A thread between `start()` and the box assignment is not the one that
moves, unless its stage is the one that is left. -/
theorem assigning_setStage {stage : Stage} {other k : ℕ} {thread' : StartThread}
    (hthread : p.threads id = some thread) (hother : p.threads other = some thread')
    (hassign : thread'.stage = .assignBox k) (hleft : thread.stage ≠ .assignBox k) :
    (p.setStage id thread stage).threads other = some thread' := by
  have hne : other ≠ id := by
    rintro rfl
    rw [hthread, Option.some.injEq] at hother
    exact hleft (hother ▸ hassign)
  simpa [Process.setStage, hne] using hother

/-- A thread moves on from any stage but the one that holds a running core. -/
theorem setStage (htidy : Tidy wanted flag p) {stage : Stage}
    (hthread : p.threads id = some thread)
    (hstage : ∀ k, thread.stage ≠ .assignBox k)
    (hreached : wanted = some id → Reached p thread stage) :
    Tidy wanted flag (p.setStage id thread stage) := by
  constructor
  case fresh => exact htidy.fresh_setStage hthread
  case boxes => exact htidy.boxes
  case running =>
    intro k hrunning
    rcases htidy.running k hrunning with hbox | ⟨other, thread', hother, hassign⟩
    · exact .inl hbox
    · exact .inr ⟨other, thread',
        assigning_setStage hthread hother hassign (hstage k), hassign⟩
  case posted => exact htidy.posted
  case connected => exact htidy.connected
  case wanted_thread =>
    intro other thread' hwanted hother
    by_cases hsame : other = id
    · subst hsame
      simp only [Process.setStage, Function.update_self, Option.some.injEq] at hother
      subst hother
      refine ⟨(htidy.wanted_thread other thread hwanted hthread).1, ?_⟩
      have hmoved := hreached hwanted
      cases stage <;> exact hmoved
    · have hold : p.threads other = some thread' := by
        simpa [Process.setStage, hsame] using hother
      obtain ⟨hlive, hold⟩ := htidy.wanted_thread other thread' hwanted hold
      refine ⟨hlive, ?_⟩
      cases hst : thread'.stage <;> rw [hst] at hold <;> exact hold
  case halted => exact htidy.halted

theorem endThread (htidy : Tidy wanted flag p)
    (hthread : p.threads id = some thread)
    (hstage : ∀ k, thread.stage ≠ .assignBox k) :
    Tidy wanted flag (p.endThread id) := by
  have hkept : ∀ other thread', (p.endThread id).threads other = some thread' →
      p.threads other = some thread' := by
    intro other thread' hother
    simp only [Process.endThread, Function.update_apply] at hother
    split at hother
    · cases hother
    · exact hother
  constructor
  case fresh =>
    intro other hother
    cases hother' : (p.endThread id).threads other with
    | none => rfl
    | some thread' =>
        have := htidy.lt_nextThread (hkept other thread' hother')
        exact absurd this (Nat.not_lt_of_le hother)
  case boxes => exact htidy.boxes
  case running =>
    intro k hrunning
    rcases htidy.running k hrunning with hbox | ⟨other, thread', hother, hassign⟩
    · exact .inl hbox
    · refine .inr ⟨other, thread', ?_, hassign⟩
      have hne : other ≠ id := by
        rintro rfl
        rw [hthread, Option.some.injEq] at hother
        exact hstage k (hother ▸ hassign)
      simpa [Process.endThread, hne] using hother
  case posted => exact htidy.posted
  case connected => exact htidy.connected
  case wanted_thread =>
    intro other thread' hwanted hother
    obtain ⟨hlive, hreached⟩ :=
      htidy.wanted_thread other thread' hwanted (hkept other thread' hother)
    refine ⟨hlive, ?_⟩
    cases hst : thread'.stage <;> rw [hst] at hreached <;> exact hreached
  case halted => exact htidy.halted

/-- Fields other than the box and the runnable are free to change. -/
theorem setService (htidy : Tidy wanted flag p) {v : ℕ} {service : Service}
    (hbox : service.box = (p.services v).box)
    (hexpiry : service.expiryRunnable = (p.services v).expiryRunnable) :
    Tidy wanted flag (p.setService v service) := by
  have hboxes : ∀ v', ((p.setService v service).services v').box =
      (p.services v').box := by
    intro v'
    by_cases hsame : v' = v
    · subst hsame
      simp [Process.setService, hbox]
    · simp [Process.setService, hsame]
  have hexpiries : ∀ v', ((p.setService v service).services v').expiryRunnable =
      (p.services v').expiryRunnable := by
    intro v'
    by_cases hsame : v' = v
    · subst hsame
      simp [Process.setService, hexpiry]
    · simp [Process.setService, hsame]
  constructor
  case fresh => exact htidy.fresh
  case boxes =>
    intro v' k hheld
    exact htidy.boxes v' k (hboxes v' ▸ hheld)
  case running =>
    intro k hrunning
    rcases htidy.running k hrunning with ⟨v', hheld⟩ | hthread
    · exact .inl ⟨v', (hboxes v').trans hheld⟩
    · exact .inr hthread
  case posted =>
    intro r runnable hposted
    rw [hboxes, hexpiries]
    exact htidy.posted r runnable hposted
  case connected =>
    intro hstate
    obtain ⟨v', k, hlive, hheld, hrunning⟩ := htidy.connected hstate
    exact ⟨v', k, hlive, (hboxes v').trans hheld, hrunning⟩
  case wanted_thread =>
    intro other thread' hwanted hother
    obtain ⟨hlive, hreached⟩ := htidy.wanted_thread other thread' hwanted hother
    refine ⟨hlive, ?_⟩
    cases hst : thread'.stage <;> rw [hst] at hreached <;>
      simp only [Reached, hboxes] <;> exact hreached
  case halted =>
    intro hset
    refine ⟨(htidy.halted hset).1, fun v' => ?_⟩
    rw [hboxes]
    exact (htidy.halted hset).2 v'

/-- `Libbox.newService`. -/
theorem newCore (htidy : Tidy wanted flag p) {epochMs : ℤ} :
    Tidy wanted flag { p with
      cores := Function.update p.cores p.nextCore ⟨epochMs, false⟩
      nextCore := p.nextCore + 1 } := by
  have hold : ∀ k, k < p.nextCore →
      Function.update p.cores p.nextCore ⟨epochMs, false⟩ k = p.cores k :=
    fun k hk => Function.update_of_ne (Nat.ne_of_lt hk) _ _
  constructor
  case fresh => exact htidy.fresh
  case boxes =>
    intro v k hheld
    obtain ⟨hlive, hlt, hrunning⟩ := htidy.boxes v k hheld
    refine ⟨hlive, Nat.lt_succ_of_lt hlt, ?_⟩
    simpa only [hold k hlt] using hrunning
  case running =>
    intro k hrunning
    simp only [Function.update_apply] at hrunning
    split at hrunning
    · cases hrunning
    · exact htidy.running k hrunning
  case posted => exact htidy.posted
  case connected =>
    intro hstate
    obtain ⟨v, k, hlive, hheld, hrunning⟩ := htidy.connected hstate
    refine ⟨v, k, hlive, hheld, ?_⟩
    simpa only [hold k (htidy.boxes v k hheld).2.1] using hrunning
  case wanted_thread =>
    intro other thread' hwanted hother
    obtain ⟨hlive, hreached⟩ := htidy.wanted_thread other thread' hwanted hother
    refine ⟨hlive, ?_⟩
    have hin : ∀ k, (p.services thread'.service).box = some k → k < p.nextCore :=
      fun k hheld => (htidy.boxes _ k hheld).2.1
    cases hst : thread'.stage with
    | newService => trivial
    | stopSelfGracefully => trivial
    | start k =>
        rw [hst] at hreached
        exact ⟨Nat.lt_succ_of_lt hreached.1, by
          simpa only [hold k hreached.1] using hreached.2⟩
    | assignBox k =>
        rw [hst] at hreached
        exact ⟨Nat.lt_succ_of_lt hreached.1, by
          simpa only [hold k hreached.1] using hreached.2⟩
    | startCommandClient k | scheduleHardExpiry k =>
        rw [hst] at hreached
        refine ⟨hreached.1, ?_⟩
        simpa only [hold k (hin k hreached.1)] using hreached.2
    | emitConnected k =>
        rw [hst] at hreached
        refine ⟨hreached.1, ?_⟩
        simpa only [hold k (hin k hreached.1)] using hreached.2
  case halted => exact htidy.halted

/-- `service.start()` on the core of the wanted start. -/
theorem started (htidy : Tidy wanted flag p) {k : ℕ}
    (hthread : p.threads id = some thread) (hstage : thread.stage = .start k)
    (hwanted : wanted = some id) :
    Tidy wanted flag ({ p with
      cores := Function.update p.cores k { p.cores k with running := true }
      }.setStage id thread (.assignBox k)) := by
  have hkept : ∀ k', (p.cores k').running = true →
      (Function.update p.cores k { p.cores k with running := true } k').running =
        true := by
    intro k' hrunning
    rw [Function.update_apply]
    split
    · rfl
    · exact hrunning
  constructor
  case fresh => exact htidy.fresh_setStage hthread
  case boxes =>
    intro v k' hheld
    obtain ⟨hlive, hlt, hrunning⟩ := htidy.boxes v k' hheld
    exact ⟨hlive, hlt, hkept k' hrunning⟩
  case running =>
    intro k' hrunning
    by_cases hsame : k' = k
    · subst hsame
      exact .inr ⟨id, { thread with stage := .assignBox k' },
        by simp [Process.setStage], rfl⟩
    · simp only [Process.setStage, Function.update_of_ne hsame] at hrunning
      rcases htidy.running k' hrunning with hbox | ⟨other, thread', hother, hassign⟩
      · exact .inl hbox
      · exact .inr ⟨other, thread', assigning_setStage hthread hother hassign
          (by simp [hstage]), hassign⟩
  case posted => exact htidy.posted
  case connected =>
    intro hstate
    obtain ⟨v, k', hlive, hheld, hrunning⟩ := htidy.connected hstate
    exact ⟨v, k', hlive, hheld, hkept k' hrunning⟩
  case wanted_thread =>
    intro other thread' hother hmoved
    obtain rfl := Option.some.inj (hwanted.symm.trans hother)
    obtain ⟨hlive, hreached⟩ := htidy.wanted_thread id thread hwanted hthread
    simp only [Process.setStage, Function.update_self, Option.some.injEq] at hmoved
    subst hmoved
    rw [hstage] at hreached
    exact ⟨hlive, hreached.1, by simpa [Process.setStage] using hreached.2,
      by simp [Process.setStage]⟩
  case halted => exact htidy.halted

/-- `box = service`. -/
theorem assigned (htidy : Tidy wanted flag p) {k : ℕ}
    (hthread : p.threads id = some thread) (hstage : thread.stage = .assignBox k)
    (hwanted : wanted = some id) (hempty : (p.services thread.service).box = none) :
    Tidy wanted flag ((p.setService thread.service
      { p.services thread.service with box := some k }).setStage id thread
        (.startCommandClient k)) := by
  obtain ⟨hlive, hreached⟩ := htidy.wanted_thread id thread hwanted hthread
  rw [hstage] at hreached
  have hposted : ∀ r, p.posted r = none := by
    intro r
    cases hr : p.posted r with
    | none => rfl
    | some runnable =>
        obtain ⟨hother, -, hbox⟩ := htidy.posted r runnable hr
        rw [hlive, Option.some.injEq] at hother
        exact absurd (hother ▸ hempty) hbox
  constructor
  case fresh => exact htidy.fresh_setStage hthread
  case boxes =>
    intro v k' hheld
    simp only [Process.setStage, Process.setService, Function.update_apply] at hheld
    split at hheld
    · next hsame =>
        obtain rfl := Option.some.inj hheld
        exact ⟨hsame ▸ hlive, hreached.1, hreached.2.2⟩
    · exact htidy.boxes v k' hheld
  case running =>
    intro k' hrunning
    rcases htidy.running k' hrunning with ⟨v, hheld⟩ | ⟨other, thread', hother, hassign⟩
    · refine .inl ⟨v, ?_⟩
      have hne : v ≠ thread.service := by
        rintro rfl
        simp [hempty] at hheld
      simpa [Process.setStage, Process.setService, hne] using hheld
    · by_cases hsame : k = k'
      · exact .inl ⟨thread.service, by
          simp [Process.setStage, Process.setService, hsame]⟩
      · exact .inr ⟨other, thread', assigning_setStage hthread hother hassign
          (by simpa [hstage] using hsame), hassign⟩
  case posted =>
    intro r runnable hr
    have hsome : p.posted r = some runnable := hr
    simp [hposted r] at hsome
  case connected =>
    intro hstate
    obtain ⟨v, k', hother, hheld, -⟩ := htidy.connected hstate
    rw [hlive, Option.some.injEq] at hother
    simp [← hother, hempty] at hheld
  case wanted_thread =>
    intro other thread' hother hmoved
    obtain rfl := Option.some.inj (hwanted.symm.trans hother)
    simp only [Process.setStage, Function.update_self, Option.some.injEq] at hmoved
    subst hmoved
    refine ⟨hlive, ?_, hreached.2.1, hposted⟩
    simp [Process.setStage, Process.setService]
  case halted =>
    intro hset
    have hnone := (htidy.halted hset).1
    simp [hwanted] at hnone

/-- The wanted start posts its runnable. -/
theorem postDelayed (htidy : Tidy wanted flag p) {k : ℕ} {due : ℤ}
    (hthread : p.threads id = some thread)
    (hstage : thread.stage = .emitConnected k) (hwanted : wanted = some id)
    (hnone : ∀ r, p.posted r = none) :
    Tidy wanted flag { (p.setService thread.service { p.services thread.service with
      expiryRunnable := some id }) with
        posted := Function.update p.posted id (some ⟨thread.service, due⟩) } := by
  obtain ⟨hlive, hreached⟩ := htidy.wanted_thread id thread hwanted hthread
  rw [hstage] at hreached
  have hboxes : ∀ v, (Function.update p.services thread.service
      { p.services thread.service with expiryRunnable := some id } v).box =
        (p.services v).box := by
    intro v
    rw [Function.update_apply]
    split
    · next hsame => rw [hsame]
    · rfl
  constructor
  case fresh => exact htidy.fresh
  case boxes => exact fun v k' hheld => htidy.boxes v k' ((hboxes v).symm.trans hheld)
  case running =>
    intro k' hrunning
    rcases htidy.running k' hrunning with ⟨v, hheld⟩ | hthread
    · exact .inl ⟨v, (hboxes v).trans hheld⟩
    · exact .inr hthread
  case posted =>
    intro r runnable hposted
    by_cases hsame : r = id
    · subst hsame
      simp only [Function.update_self, Option.some.injEq] at hposted
      subst hposted
      exact ⟨hlive, by simp [Process.setService],
        by simp [Process.setService, hreached.1]⟩
    · simp [Function.update_of_ne hsame, hnone] at hposted
  case connected =>
    intro hstate
    obtain ⟨v, k', hheld, hbox, hrunning⟩ := htidy.connected hstate
    exact ⟨v, k', hheld, (hboxes v).trans hbox, hrunning⟩
  case wanted_thread =>
    intro other thread' hother hsome
    obtain rfl := Option.some.inj (hwanted.symm.trans hother)
    obtain rfl := Option.some.inj (hthread.symm.trans hsome)
    refine ⟨hlive, ?_⟩
    rw [hstage]
    exact ⟨(hboxes _).trans hreached.1, hreached.2⟩
  case halted =>
    intro hset
    exact ⟨(htidy.halted hset).1, fun v => (hboxes v).trans ((htidy.halted hset).2 v)⟩

theorem emitConnected (htidy : Tidy wanted flag p) (hholds : HoldsRunning p) :
    Tidy wanted flag (p.emitState .connected) where
  fresh := htidy.fresh
  boxes := htidy.boxes
  running := htidy.running
  posted := htidy.posted
  connected _ := hholds
  wanted_thread := htidy.wanted_thread
  halted := htidy.halted

theorem caught (htidy : Tidy wanted flag p)
    (hthread : p.threads id = some thread)
    (hstage : ∀ k, thread.stage ≠ .assignBox k) :
    Tidy wanted flag (p.caught id thread) :=
  (htidy.emitState (by decide)).setStage hthread hstage fun _ => trivial

theorem openTun (htidy : Tidy wanted flag p) (v : ℕ) (tunFd : Option ℕ) :
    Tidy wanted flag (p.openTun v tunFd) :=
  htidy.setService rfl rfl

/-- `scheduleHardExpiry` in the wanted start, whose box is in place. -/
theorem scheduleHardExpiry (htidy : Tidy wanted flag p) {k : ℕ}
    (hthread : p.threads id = some thread)
    (hstage : thread.stage = .scheduleHardExpiry k) (hwanted : wanted = some id) :
    Tidy (if expired p.now thread.hardExpiryEpochMs then none else wanted)
      (flag || expired p.now thread.hardExpiryEpochMs)
      ((p.scheduleHardExpiry id thread.service thread.hardExpiryEpochMs).setStage
        id thread (.emitConnected k)) := by
  obtain ⟨hlive, hreached⟩ := htidy.wanted_thread id thread hwanted hthread
  rw [hstage] at hreached
  have hleft : ∀ k', thread.stage ≠ .assignBox k' := by simp [hstage]
  have hmoved : Tidy wanted flag (p.setStage id thread (.emitConnected k)) :=
    htidy.setStage hthread hleft fun _ => ⟨hreached.1, hreached.2.1⟩
  rw [Process.scheduleHardExpiry]
  by_cases hnever : thread.hardExpiryEpochMs ≤ 0
  · have hexpired : expired p.now thread.hardExpiryEpochMs = false := by
      simp [expired, Int.not_lt.mpr hnever]
    simpa [hnever, hexpired] using hmoved
  · cases hexpired : expired p.now thread.hardExpiryEpochMs with
    | true =>
        have hdown : Tidy none (flag || true)
            (p.stopSelfGracefully thread.service) :=
          htidy.stopSelfGracefully _ fun _ => .inr hlive
        rw [if_neg hnever, if_pos rfl, if_pos rfl]
        exact hdown.setStage hthread hleft fun hnone => by cases hnone
    | false =>
        have hthread' : (p.setStage id thread (.emitConnected k)).threads id =
            some { thread with stage := .emitConnected k } := by
          simp [Process.setStage]
        have hposted := @postDelayed _ _ _ _ _ hmoved k thread.hardExpiryEpochMs
          hthread' rfl hwanted hreached.2.2
        rw [if_neg hnever, if_neg Bool.false_ne_true, if_neg Bool.false_ne_true,
          Bool.or_false]
        exact hposted

theorem markWanted_thread {outcome : Outcome} (hkeeps : tearsDown p id = false) :
    markWanted wanted (p, .thread id outcome) = wanted := by
  simp [markWanted, hkeeps]

theorem markHalted_thread {outcome : Outcome} (hkeeps : tearsDown p id = false) :
    markHalted flag (p, .thread id outcome) = flag := by
  rw [tearsDown, Bool.or_eq_false_iff] at hkeeps
  simp [markHalted, hkeeps.1]

/-- The end of a start that is still wanted: its box is the live one. -/
theorem holds_of_emitting (htidy : Tidy wanted flag p) {k : ℕ}
    (hthread : p.threads id = some thread)
    (hstage : thread.stage = .emitConnected k) (hwanted : wanted = some id)
    (htime : expired p.now thread.hardExpiryEpochMs = false) : HoldsInTime p := by
  obtain ⟨hlive, hreached⟩ := htidy.wanted_thread id thread hwanted hthread
  rw [hstage] at hreached
  have hrunning := (htidy.boxes _ k hreached.1).2.2
  exact ⟨_, k, hlive, hreached.1, hrunning, hreached.2 ▸ htime⟩

/-- A step that is in order, or fails. -/
theorem threadStep (htidy : Tidy wanted flag p) {outcome : Outcome}
    (hthread : p.threads id = some thread)
    (horder : orderly wanted (p, .thread id outcome) = true)
    (hstep : p.threadStep id thread outcome = some next) :
    Tidy (markWanted wanted (p, .thread id outcome))
      (markHalted flag (p, .thread id outcome)) next := by
  cases hstage : thread.stage with
  | newService =>
      have hleft : ∀ k, thread.stage ≠ .assignBox k := by simp [hstage]
      have hkeeps : tearsDown p id = false := by
        simp [tearsDown, handlesExpiry, hthread, hstage]
      rw [markWanted_thread hkeeps, markHalted_thread hkeeps]
      cases outcome with
      | returned =>
          simp only [Process.threadStep, hstage, Option.some.injEq] at hstep
          subst hstep
          refine htidy.newCore.setStage hthread hleft fun _ => ⟨?_, ?_⟩
          · exact Nat.lt_succ_self _
          · simp
      | threw tunFd =>
          simp only [Process.threadStep, hstage, Option.some.injEq] at hstep
          exact hstep ▸ htidy.caught hthread hleft
      | _ => simp [Process.threadStep, hstage] at hstep
  | start k =>
      have hleft : ∀ k, thread.stage ≠ .assignBox k := by simp [hstage]
      have hkeeps : tearsDown p id = false := by
        simp [tearsDown, handlesExpiry, hthread, hstage]
      rw [markWanted_thread hkeeps, markHalted_thread hkeeps]
      cases outcome with
      | started tunFd =>
          have hwanted := inOrder_of_orderly hthread horder (by simp)
          simp only [inOrder, hstage, beq_iff_eq] at hwanted
          simp only [Process.threadStep, hstage, Option.some.injEq] at hstep
          exact hstep ▸ (htidy.openTun _ _).started hthread hstage hwanted
      | threw tunFd =>
          simp only [Process.threadStep, hstage, Option.some.injEq] at hstep
          exact hstep ▸ (htidy.openTun _ _).caught hthread hleft
      | _ => simp [Process.threadStep, hstage] at hstep
  | assignBox k =>
      have hkeeps : tearsDown p id = false := by
        simp [tearsDown, handlesExpiry, hthread, hstage]
      rw [markWanted_thread hkeeps, markHalted_thread hkeeps]
      cases outcome with
      | returned =>
          have hwanted := inOrder_of_orderly hthread horder (by simp)
          simp only [inOrder, hstage, beq_iff_eq, Bool.and_eq_true,
            Option.isNone_iff_eq_none] at hwanted
          simp only [Process.threadStep, hstage, Option.some.injEq] at hstep
          exact hstep ▸ htidy.assigned hthread hstage hwanted.1 hwanted.2
      | _ => simp [Process.threadStep, hstage] at hstep
  | startCommandClient k =>
      have hleft : ∀ k, thread.stage ≠ .assignBox k := by simp [hstage]
      have hkeeps : tearsDown p id = false := by
        simp [tearsDown, handlesExpiry, hthread, hstage]
      rw [markWanted_thread hkeeps, markHalted_thread hkeeps]
      cases outcome with
      | client connected =>
          simp only [Process.threadStep, hstage, Option.some.injEq] at hstep
          subst hstep
          have hset : Tidy wanted flag (p.setService thread.service
              { p.services thread.service with commandClient := some ⟨connected⟩ }) :=
            htidy.setService rfl rfl
          refine hset.setStage hthread hleft fun hwanted => ?_
          have hreached := (hset.wanted_thread id thread hwanted hthread).2
          rw [hstage] at hreached
          exact hreached
      | threw tunFd =>
          simp only [Process.threadStep, hstage, Option.some.injEq] at hstep
          exact hstep ▸ htidy.caught hthread hleft
      | _ => simp [Process.threadStep, hstage] at hstep
  | scheduleHardExpiry k =>
      cases outcome with
      | returned =>
          have hwanted := inOrder_of_orderly hthread horder (by simp)
          simp only [inOrder, hstage, beq_iff_eq] at hwanted
          simp only [Process.threadStep, hstage, Option.some.injEq] at hstep
          have hdone := htidy.scheduleHardExpiry hthread hstage hwanted
          simpa [markWanted, markHalted, tearsDown, handlesExpiry, hthread, hstage,
            hstep] using hdone
      | _ => simp [Process.threadStep, hstage] at hstep
  | emitConnected k =>
      have hleft : ∀ k, thread.stage ≠ .assignBox k := by simp [hstage]
      have hkeeps : tearsDown p id = false := by
        simp [tearsDown, handlesExpiry, hthread, hstage]
      rw [markWanted_thread hkeeps, markHalted_thread hkeeps]
      cases outcome with
      | returned =>
          have hwanted := inOrder_of_orderly hthread horder (by simp)
          simp only [inOrder, hstage, beq_iff_eq, Bool.and_eq_true,
            Bool.not_eq_eq_eq_not, Bool.not_true] at hwanted
          obtain ⟨v, k', hlive, hheld, hrunning, -⟩ :=
            htidy.holds_of_emitting hthread hstage hwanted.1 hwanted.2
          simp only [Process.threadStep, hstage, Option.some.injEq] at hstep
          exact hstep ▸ (htidy.emitConnected ⟨v, k', hlive, hheld, hrunning⟩).endThread
            hthread hleft
      | _ => simp [Process.threadStep, hstage] at hstep
  | stopSelfGracefully =>
      have hleft : ∀ k, thread.stage ≠ .assignBox k := by simp [hstage]
      cases outcome with
      | returned =>
          simp only [Process.threadStep, hstage, Option.some.injEq] at hstep
          subst hstep
          have hdown : Tidy none flag (p.stopSelfGracefully thread.service) :=
            htidy.stopSelfGracefully _ .inl
          simpa [markWanted, markHalted, tearsDown, handlesExpiry, hthread, hstage]
            using hdown.endThread hthread hleft
      | _ => simp [Process.threadStep, hstage] at hstep

/-- Every orderly step keeps the invariant. -/
theorem step (htidy : Tidy wanted flag p) (horder : orderly wanted (p, act) = true)
    (hstep : TunnelService.step p act = some next) :
    Tidy (markWanted wanted (p, act)) (markHalted flag (p, act)) next := by
  cases act with
  | tick ms =>
      obtain rfl := Option.some.inj hstep
      exact htidy.tick ms
  | start config hardExpiryEpochMs =>
      obtain rfl := Option.some.inj hstep
      exact htidy.onStart
  | stop =>
      obtain rfl := Option.some.inj hstep
      exact htidy.onStop
  | revoke => exact htidy.onRevoke hstep
  | destroy => exact htidy.onDestroy (bne_iff_ne.mp horder) hstep
  | expire r => exact htidy.onExpiry hstep
  | thread id outcome =>
      cases hthread : p.threads id with
      | none => simp [TunnelService.step, hthread] at hstep
      | some thread =>
          simp only [TunnelService.step, hthread] at hstep
          exact htidy.threadStep hthread horder hstep

end Tidy

/-! ## Publishing `CONNECTED` -/

theorem published_stopSelfGracefully {v : ℕ} (q : Process) (hbus : q.bus = p.bus) :
    published p (q.stopSelfGracefully v) = [.disconnecting, .disconnected] := by
  simp [published, stopSelfGracefully, emitState, teardown, hbus]

theorem published_of_bus (hbus : next.bus = p.bus) : published p next = [] := by
  simp [published, hbus]

theorem bus_receiver : p.receiver.2.bus = p.bus := by
  rw [receiver]
  cases p.live <;> rfl

theorem published_onStart {config : Option String} {hardExpiryEpochMs : ℤ} :
    .connected ∉ published p (p.onStart config hardExpiryEpochMs) := by
  simp only [onStart]
  split
  · simp [published_of_bus bus_receiver]
  · simp [published, startCore, emitState, bus_receiver]

theorem published_threadStep {id : ℕ} {thread : StartThread} {outcome : Outcome}
    (hstep : p.threadStep id thread outcome = some next)
    (hpublished : .connected ∈ published p next) :
    ∃ k, thread.stage = .emitConnected k ∧ outcome = .returned ∧
      next = (p.emitState .connected).endThread id := by
  cases hstage : thread.stage <;> cases outcome <;>
    simp only [threadStep, hstage, Option.some.injEq, reduceCtorEq] at hstep <;>
    subst hstep
  case emitConnected.returned k => exact ⟨k, rfl, rfl, rfl⟩
  case stopSelfGracefully.returned =>
    rw [show published p ((p.stopSelfGracefully thread.service).endThread id) =
      published p (p.stopSelfGracefully thread.service) from rfl,
      published_stopSelfGracefully p rfl] at hpublished
    simp at hpublished
  case scheduleHardExpiry.returned k =>
    simp only [scheduleHardExpiry] at hpublished
    split at hpublished
    · simp [published, setStage] at hpublished
    · split at hpublished
      · rw [show published p ((p.stopSelfGracefully thread.service).setStage id thread
          (.emitConnected k)) = published p (p.stopSelfGracefully thread.service)
            from rfl, published_stopSelfGracefully p rfl] at hpublished
        simp at hpublished
      · simp [published, setStage, setService] at hpublished
  all_goals
    simp [published, setStage, setService, caught, emitState, openTun] at hpublished

/-- Only the last step of a start publishes it. -/
theorem publishes_connected (hstep : step p act = some next)
    (hpublished : .connected ∈ published p next) :
    ∃ id thread k, act = .thread id .returned ∧ p.threads id = some thread ∧
      thread.stage = .emitConnected k ∧
      next = (p.emitState .connected).endThread id := by
  cases act with
  | tick ms =>
      obtain rfl := Option.some.inj hstep
      simp [published] at hpublished
  | start config hardExpiryEpochMs =>
      obtain rfl := Option.some.inj hstep
      exact absurd hpublished published_onStart
  | stop =>
      obtain rfl := Option.some.inj hstep
      simp [onStop, published_stopSelfGracefully _ bus_receiver] at hpublished
  | revoke =>
      obtain ⟨v, -, rfl⟩ := Option.map_eq_some_iff.mp hstep
      simp [published_stopSelfGracefully p rfl] at hpublished
  | destroy =>
      obtain ⟨v, -, rfl⟩ := Option.map_eq_some_iff.mp hstep
      simp [published, teardown] at hpublished
  | expire r =>
      simp only [step, onExpiry] at hstep
      split at hstep
      · cases hstep
      · split at hstep
        · obtain rfl := Option.some.inj hstep
          simp [published, stopSelfGracefully, emitState, teardown] at hpublished
        · cases hstep
  | thread id outcome =>
      cases hthread : p.threads id with
      | none => simp [step, hthread] at hstep
      | some thread =>
          simp only [step, hthread] at hstep
          obtain ⟨k, hstage, rfl, hnext⟩ := published_threadStep hstep hpublished
          exact ⟨id, thread, k, rfl, hthread, hstage, hnext⟩

/-! ## Over runs -/

theorem halted_snoc {entry : Process × Action} :
    halted (trace ++ [entry]) = markHalted (halted trace) entry := by
  rw [halted, List.foldl_append]
  rfl

theorem wantedStart_snoc {entry : Process × Action} :
    wantedStart (trace ++ [entry]) = markWanted (wantedStart trace) entry := by
  rw [wantedStart, List.foldl_append]
  rfl

variable {start last : Process}

theorem tidy_run (hinit : tunnel.init start) (hrun : Run tunnel start trace last)
    (horder : orderlyRun trace = true) : Tidy (wantedStart trace) (halted trace) last := by
  induction hrun with
  | refl =>
      rw [hinit]
      constructor <;> simp [wantedStart, halted]
  | @snoc trace mid last act hearlier hstep ih =>
      rw [wantedStart_snoc, halted_snoc]
      rw [orderlyRun_append, Bool.and_eq_true] at horder
      have hstepped := (Bool.and_eq_true_iff.mp horder.2).1
      exact (ih horder.1).step hstepped hstep

/-- In a quiescent state after a halt nothing runs. -/
theorem Tidy.stopped {wanted : Option ℕ} (htidy : Tidy wanted true p)
    (hquiet : Quiescent p) (k : ℕ) : (p.cores k).running = false := by
  cases hrunning : (p.cores k).running with
  | false => rfl
  | true =>
      rcases htidy.running k hrunning with ⟨v, hheld⟩ | ⟨id, thread, hthread, -⟩
      · simp [(htidy.halted rfl).2 v] at hheld
      · simp [hquiet id] at hthread

/-- In an orderly step `CONNECTED` is published by the wanted start only, with
its box in place and in time. -/
theorem Tidy.published {wanted : Option ℕ} {flag : Bool}
    (htidy : Tidy wanted flag p) (horder : orderly wanted (p, act) = true)
    (hstep : TunnelService.step p act = some next)
    (hpublished : .connected ∈ published p next) :
    HoldsInTime next ∧ markHalted flag (p, act) = false := by
  obtain ⟨id, thread, k, rfl, hthread, hstage, rfl⟩ :=
    publishes_connected hstep hpublished
  have hwanted := inOrder_of_orderly hthread horder (by simp)
  simp only [inOrder, hstage, beq_iff_eq, Bool.and_eq_true,
    Bool.not_eq_eq_eq_not, Bool.not_true] at hwanted
  refine ⟨htidy.holds_of_emitting hthread hstage hwanted.1 hwanted.2, ?_⟩
  rw [Tidy.markHalted_thread (by simp [tearsDown, handlesExpiry, hthread, hstage])]
  cases hflag : flag with
  | false => rfl
  | true => simp [(htidy.halted hflag).1] at hwanted

/-- A run is safe if its start threads go on only while they are wanted, store
their core into an empty field and report before their deadline, and if no
instance is destroyed while the tunnel is reported up. -/
theorem tunnel_safe_of_orderly (hinit : tunnel.init start)
    (hrun : Run tunnel start trace last) (horder : orderlyRun trace = true) :
    TunnelSafe trace last := by
  have hearlier : ∀ before entry after, trace = before ++ entry :: after →
      Tidy (wantedStart before) (halted before) entry.1 ∧
        orderly (wantedStart before) entry = true := by
    rintro before entry after rfl
    obtain ⟨-, hbefore, -, -⟩ := hrun.exists_split
    rw [orderlyRun_append, Bool.and_eq_true] at horder
    exact ⟨tidy_run hinit hbefore horder.1, (Bool.and_eq_true_iff.mp horder.2).1⟩
  have hlast := tidy_run hinit hrun horder
  constructor
  case connected =>
    refine ⟨fun entry hentry => ?_, hlast.connected⟩
    obtain ⟨before, after, htrace⟩ := List.append_of_mem hentry
    exact (hearlier before entry after htrace).1.connected
  case inTime =>
    intro entry hentry next hstep hpublished
    obtain ⟨before, after, htrace⟩ := List.append_of_mem hentry
    obtain ⟨htidy, hordered⟩ := hearlier before entry after htrace
    exact (htidy.published hordered hstep hpublished).1
  case silent =>
    intro before entry after htrace hhalted next hstep hpublished
    obtain ⟨htidy, hordered⟩ := hearlier before entry after htrace
    have hnot := (htidy.published hordered hstep hpublished).2
    rw [halted_snoc] at hhalted
    simp [hhalted] at hnot
  case stopped =>
    intro before entry after htrace hhalted hquiet
    have htidy := (hearlier before entry after htrace).1
    rw [hhalted] at htidy
    exact htidy.stopped hquiet
  case stopped_last =>
    intro hhalted hquiet
    rw [hhalted] at hlast
    exact hlast.stopped hquiet

/-- The steps of a start that gets through, from `newService` on. -/
def startSteps : List Outcome :=
  [.returned, .started 3, .returned, .client true, .returned, .returned]

def startedBy (id : ℕ) : List Action := startSteps.map (.thread id)

/-- A stop between `newService` and `start()` is run over: the core is started
all the same, stays up and is reported.  A deadline that has passed takes the
tunnel down and then has it reported up. -/
theorem tunnel_not_safe :
    (∃ trace last, Run tunnel {} trace last ∧ ¬ TunnelSafe trace last ∧
      last.bus.currentState = .connected ∧ (last.cores 0).running = true) ∧
    ∃ trace last, Run tunnel {} trace last ∧ ¬ TunnelSafe trace last ∧
      last.bus.currentState = .connected ∧ (last.cores 0).running = false := by
  constructor
  · obtain ⟨mid, last, hrun, hstep, hpublished, hstate, hrunning⟩ :=
      @exists_run_of_execute _ _ tunnel {}
        ([.start (some "c") 0, .thread 0 .returned, .stop] ++
          (startedBy 0).tail.dropLast) (.thread 0 .returned)
        (fun mid last => .connected ∈ published mid last ∧
          last.bus.currentState = .connected ∧ (last.cores 0).running = true) _
        (by decide +kernel)
    refine ⟨_, last, hrun, fun hsafe => ?_, hstate, hrunning⟩
    refine hsafe.silent _ _ [] rfl ?_ last hstep hpublished
    rw [halted_snoc, markHalted]
    exact Bool.or_eq_true_iff.mpr (.inl (by decide +kernel))
  · obtain ⟨last, hrun, hstate, hrunning, hbox⟩ :=
      @exists_run_with _ _ tunnel {}
        ([.tick 1000, .start (some "c") 1] ++ startedBy 0)
        (fun last => last.bus.currentState = .connected ∧
          (last.cores 0).running = false ∧
          last.live.all fun v => (last.services v).box.isNone) _
        (by decide +kernel)
    refine ⟨_, last, hrun, fun hsafe => ?_, hstate, hrunning⟩
    obtain ⟨v, k, hlive, hheld, -⟩ := hsafe.connected.2 hstate
    simp [hlive, hheld] at hbox

/-- A start that gets through, and a stop. -/
theorem tunnel_safe_stopped : ∃ trace last, Run tunnel {} trace last ∧
    TunnelSafe trace last ∧ .connected ∈ last.bus.emitted ∧
    last.bus.currentState = .disconnected := by
  obtain ⟨last, hrun, hemitted, hstate⟩ :=
    @exists_run_with _ _ tunnel {}
      (.start (some "c") 5000 :: startedBy 0 ++ [.stop])
      (fun last => .connected ∈ last.bus.emitted ∧
        last.bus.currentState = .disconnected) _ (by decide +kernel)
  exact ⟨_, last, hrun, tunnel_safe_of_orderly rfl hrun (by decide +kernel),
    hemitted, hstate⟩

end VpnMiddleware.TunnelSafety
