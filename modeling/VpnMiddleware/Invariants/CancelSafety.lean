import VpnMiddleware.Client.ConnectionFlow

/-!
# Cancelling a connection run

A cancel or disconnect that reaches a run is to end it with the tunnel down
and without the app ever claiming `connected`.  Every stretch of the run
respects this except the one that follows a confirmed tunnel: there the flag
is not read again.
-/

namespace VpnMiddleware.CancelSafety

open VpnMiddleware.ConnectionModels VpnMiddleware.TransitionSystem
open VpnMiddleware.ConnectionFlow

variable {c c' next : Controller} {act : Action}
variable {trace : List (Controller × Action)}

/-! ## What is to hold of a run -/

def claimsConnected : Effect → Bool
  | .emitted state => state.phase == .connected
  | _ => false

def engineCommand : Effect → Option EngineCommand
  | .command sent => some sent
  | _ => none

/-- The last command that the engine has received. -/
def lastCommand (c : Controller) : Option EngineCommand :=
  (c.effects.filterMap engineCommand).getLast?

/-- The effects of a step. -/
def added (c next : Controller) : List Effect :=
  next.effects.drop c.effects.length

/-- How a step moves the mark of an interruption: a cancel during a run or a
disconnect sets it, the start of a new run takes it back. -/
def mark (flag : Bool) (entry : Controller × Action) : Bool :=
  match entry.2 with
  | .connect => entry.1.inFlight.isSome && flag
  | .cancel => entry.1.inFlight.isSome || flag
  | .disconnect _ => true
  | _ => flag

/-- A cancel or disconnect has come since the last start of a run. -/
def interrupted (trace : List (Controller × Action)) : Bool :=
  trace.foldl mark false

/-- After an interruption no step claims `connected`, and in every settled
state the engine was stopped last. -/
structure CancelSafe (trace : List (Controller × Action)) (last : Controller) :
    Prop where
  silent : ∀ before entry after, trace = before ++ entry :: after →
    interrupted (before ++ [entry]) = true →
    ∀ next, step entry.1 entry.2 = some next →
      ∀ effect ∈ added entry.1 next, claimsConnected effect = false
  stopped : ∀ before entry after, trace = before ++ entry :: after →
    interrupted before = true → entry.1.inFlight = none →
      lastCommand entry.1 = some .stop
  stopped_last : interrupted trace = true → last.inFlight = none →
    lastCommand last = some .stop

/-- The engine reports the tunnel up to a run that waits for it. -/
def confirms (c : Controller) : Action → Bool
  | .resume _ _ (.current .connected) =>
      c.inFlight.any fun await => match await with
        | .currentState _ => true
        | _ => false
  | .resume _ _ (.streamed .connected) =>
      c.inFlight.any fun await => match await with
        | .stateStream _ => true
        | _ => false
  | _ => false

/-! ## Quiet stretches -/

/-- No `connected` is claimed and the flag is not touched. -/
structure Quiet (c c' : Controller) : Prop where
  cancelled : c'.cancelled = c.cancelled
  phase : c'.state.phase ≠ .connected
  effects : ∃ new, c'.effects = c.effects ++ new ∧
    ∀ effect ∈ new, claimsConnected effect = false

namespace Quiet

theorem refl (hphase : c.state.phase ≠ .connected) : Quiet c c :=
  ⟨rfl, hphase, [], by simp, by simp⟩

theorem trans (hfirst : Quiet c c') (hsecond : Quiet c' next) :
    Quiet c next := by
  obtain ⟨new, heffects, hnew⟩ := hfirst.effects
  obtain ⟨new', heffects', hnew'⟩ := hsecond.effects
  refine ⟨hsecond.cancelled.trans hfirst.cancelled, hsecond.phase,
    new ++ new', ?_, ?_⟩
  · rw [heffects', heffects, List.append_assoc]
  · intro effect heffect
    rcases List.mem_append.mp heffect with hold | hlater
    · exact hnew effect hold
    · exact hnew' effect hlater

theorem perform {effect : Effect} (hphase : c.state.phase ≠ .connected)
    (heffect : claimsConnected effect = false) : Quiet c (c.perform effect) :=
  ⟨rfl, hphase, [effect], rfl, by simpa using heffect⟩

theorem emit {state : ConnectionFlowState} (hphase : state.phase ≠ .connected) :
    Quiet c (c.emit state) :=
  ⟨rfl, hphase, [.emitted state], rfl, by simpa [claimsConnected] using hphase⟩

theorem added_silent (hquiet : Quiet c c') :
    ∀ effect ∈ added c c', claimsConnected effect = false := by
  obtain ⟨new, heffects, hnew⟩ := hquiet.effects
  rw [added, heffects, List.drop_left]
  exact hnew

end Quiet

/-- A stretch that is quiet and whose value, if it does not throw, meets
`post`. -/
def Keeps {A : Type} (part : Stretch A) (post : A → Prop) : Prop :=
  ∀ c : Controller, c.state.phase ≠ .connected →
    Quiet c (part.run.run c).2 ∧ ∀ value, (part.run.run c).1 = .ok value →
      post value

namespace Keeps

variable {A B : Type} {part : Stretch A} {post : A → Prop}

theorem pure {value : A} (hvalue : post value) :
    Keeps (Pure.pure value) post := by
  intro c hphase
  refine ⟨Quiet.refl hphase, fun other hother => ?_⟩
  cases hother
  exact hvalue

theorem throw {failure : AppFailure} : Keeps (throw failure) post := by
  intro c hphase
  exact ⟨Quiet.refl hphase, fun other hother => by cases hother⟩

theorem bind {mid : A → Prop} {rest : A → Stretch B} {post : B → Prop}
    (hpart : Keeps part mid) (hrest : ∀ value, mid value →
      Keeps (rest value) post) : Keeps (part >>= rest) post := by
  intro c hphase
  obtain ⟨hquiet, hmid⟩ := hpart c hphase
  change Quiet c (ExceptT.bindCont rest (part.run.run c).1
    (part.run.run c).2).2 ∧ ∀ value, (ExceptT.bindCont rest (part.run.run c).1
    (part.run.run c).2).1 = .ok value → post value
  generalize part.run.run c = result at hquiet hmid
  obtain ⟨outcome, c'⟩ := result
  cases outcome with
  | error failure => exact ⟨hquiet, fun value hvalue => by cases hvalue⟩
  | ok value =>
      obtain ⟨hlater, hpost⟩ := hrest value (hmid value rfl) c' hquiet.phase
      exact ⟨hquiet.trans hlater, hpost⟩

theorem get : Keeps (MonadState.get : Stretch Controller) fun _ => True :=
  fun _ hphase => ⟨Quiet.refl hphase, fun _ _ => trivial⟩

theorem perform {effect : Effect} (heffect : claimsConnected effect = false) :
    Keeps (ConnectionFlow.perform effect) fun _ => True :=
  fun _ hphase => ⟨Quiet.perform hphase heffect, fun _ _ => trivial⟩

theorem emitWith {change : ConnectionFlowState → ConnectionFlowState}
    (hchange : ∀ state : ConnectionFlowState, state.phase ≠ .connected →
      (change state).phase ≠ .connected) :
    Keeps (ConnectionFlow.emitWith change) fun _ => True :=
  fun _ hphase => ⟨Quiet.emit (hchange _ hphase), fun _ _ => trivial⟩

theorem ite {condition : Prop} [Decidable condition] {other : Stretch A}
    (hpart : Keeps part post) (hother : Keeps other post) :
    Keeps (if condition then part else other) post := by
  split
  · exact hpart
  · exact hother

theorem guardWindow {now deadline : ℕ} :
    Keeps (ConnectionFlow.guardWindow now deadline) fun _ => True :=
  ite throw (pure trivial)

theorem throwIfCancelled : Keeps ConnectionFlow.throwIfCancelled fun _ => True :=
  bind get fun _ _ => ite throw (pure trivial)

theorem map_some {part : Stretch Await} {post : Await → Prop}
    (hpart : Keeps part post) :
    Keeps (some <$> part) fun value => ∃ await, value = some await ∧ post await := by
  rw [map_eq_pure_bind]
  exact bind hpart fun await hawait => pure ⟨await, rfl, hawait⟩

end Keeps

/-! ## The stretches of the run -/

def isSettling : Await → Bool
  | .stopQuietly _ => true
  | _ => false

/-- The run goes on to another await. -/
def GoesOn (value : Option Await) : Prop :=
  ∃ await, value = some await ∧ isSettling await = false

section Stretches

variable {now later attempt i : ℕ} {grant : ConnectResult} {profile : VpnProfile}

theorem keeps_requestVerify :
    Keeps (requestVerify now grant attempt) (isSettling · = false) :=
  .bind .throwIfCancelled fun _ _ =>
    .bind .guardWindow fun _ _ =>
      .bind (.perform rfl) fun _ _ => .pure rfl

theorem keeps_showNextAd :
    Keeps (showNextAd now grant i) (isSettling · = false) := by
  apply Keeps.ite
  · exact .bind .guardWindow fun _ _ =>
      .bind .throwIfCancelled fun _ _ =>
        .bind .get fun _ _ =>
          .bind (.perform rfl) fun _ _ => .pure rfl
  · exact .bind (.emitWith fun _ _ => by simp) fun _ _ => keeps_requestVerify

theorem keeps_afterConnect :
    Keeps (afterConnect now later grant) (isSettling · = false) :=
  .bind .guardWindow fun _ _ =>
    .bind .throwIfCancelled fun _ _ =>
      .bind (.emitWith fun _ _ => by simp) fun _ _ => keeps_showNextAd

theorem keeps_afterAd {completed : Bool} :
    Keeps (afterAd now grant i completed) (isSettling · = false) :=
  .ite (.bind (.emitWith fun _ hphase => hphase) fun _ _ => keeps_showNextAd)
    .throw

theorem keeps_afterVerify :
    Keeps (afterVerify grant profile) (isSettling · = false) :=
  .bind .throwIfCancelled fun _ _ =>
    .bind (.emitWith fun _ _ => by simp) fun _ _ =>
      .bind (.perform rfl) fun _ _ => .pure rfl

theorem keeps_afterVerifyThrow {thrown : Thrown} :
    Keeps (afterVerifyThrow grant attempt thrown) (isSettling · = false) :=
  .ite (.pure rfl) .throw

theorem keeps_afterBackoff :
    Keeps (afterBackoff now later grant attempt) (isSettling · = false) :=
  .bind .throwIfCancelled fun _ _ =>
    .bind .guardWindow fun _ _ => keeps_requestVerify

theorem keeps_afterPrepare {granted : Bool} :
    Keeps (afterPrepare grant profile granted) (isSettling · = false) :=
  .ite (.bind .throwIfCancelled fun _ _ =>
      .bind (.emitWith fun _ _ => by simp) fun _ _ =>
        .bind (.perform rfl) fun _ _ => .pure rfl)
    .throw

theorem keeps_afterStart :
    Keeps (afterStart profile) (isSettling · = false) :=
  .bind (.perform rfl) fun _ _ => .pure rfl

theorem keeps_afterCurrentState {current : VpnConnectionState}
    (hcurrent : current ≠ .connected) :
    Keeps (afterCurrentState profile current) GoesOn := by
  rw [afterCurrentState, if_neg hcurrent]
  exact .bind (.perform rfl) fun _ _ => .pure ⟨_, rfl, rfl⟩

theorem keeps_afterStreamed {seen : VpnConnectionState}
    (hseen : seen ≠ .connected) : Keeps (afterStreamed profile seen) GoesOn := by
  cases seen with
  | connected => exact absurd rfl hseen
  | error => exact .throw
  | _ => exact .pure ⟨_, rfl, rfl⟩

end Stretches

/-- Every stretch is quiet and goes on or throws, except the one that a
confirmed tunnel starts. -/
theorem stretch_cases {now later : ℕ} {await : Await} {reply : Reply}
    {part : Stretch (Option Await)} (hawait : c.inFlight = some await)
    (hpart : stretch now later await reply = some part) :
    (confirms c (.resume now later reply) = false ∧ Keeps part GoesOn) ∨
      (confirms c (.resume now later reply) = true ∧
        ∃ profile, part = tunnelUp profile) := by
  cases await <;> cases reply <;>
    simp only [stretch, Option.some.injEq, reduceCtorEq] at hpart <;> subst hpart
  case connect.connectResult => exact .inl ⟨rfl, keeps_afterConnect.map_some⟩
  case showRewarded.presented => exact .inl ⟨rfl, keeps_afterAd.map_some⟩
  case verify.decrypted => exact .inl ⟨rfl, keeps_afterVerify.map_some⟩
  case verify.threw => exact .inl ⟨rfl, keeps_afterVerifyThrow.map_some⟩
  case backoff.delayed => exact .inl ⟨rfl, keeps_afterBackoff.map_some⟩
  case prepare.consent => exact .inl ⟨rfl, keeps_afterPrepare.map_some⟩
  case start.started => exact .inl ⟨rfl, keeps_afterStart.map_some⟩
  case currentState.current profile state =>
    by_cases hstate : state = .connected
    · subst hstate
      exact .inr ⟨by simp [confirms, hawait], profile, rfl⟩
    · refine .inl ⟨?_, keeps_afterCurrentState hstate⟩
      cases state <;> first | rfl | exact absurd rfl hstate
  case stateStream.streamed profile state =>
    by_cases hstate : state = .connected
    · subst hstate
      exact .inr ⟨by simp [confirms, hawait], profile, rfl⟩
    · refine .inl ⟨?_, keeps_afterStreamed hstate⟩
      cases state <;> first | rfl | exact absurd rfl hstate
  all_goals exact .inl ⟨rfl, .throw⟩

/-! ## The steps -/

theorem lastCommand_perform {effect : Effect} (hnone : engineCommand effect = none) :
    lastCommand (c.perform effect) = lastCommand c := by
  simp [lastCommand, hnone]

@[simp]
theorem lastCommand_emit {state : ConnectionFlowState} :
    lastCommand (c.emit state) = lastCommand c := by
  simp [lastCommand, engineCommand]

@[simp]
theorem lastCommand_stop :
    lastCommand (c.perform (.command .stop)) = some .stop := by
  simp [lastCommand, engineCommand]

/-- How a run that is not settling goes on: quietly to another await, by a
throw to the `stop` of `_settleError`, or to its end with a confirmed tunnel. -/
inductive Advanced (c : Controller) (act : Action) (next : Controller) : Prop
  | goesOn (hconfirms : confirms c act = false) (hquiet : Quiet c next)
      (await : Await) (hawait : next.inFlight = some await)
      (hsettling : isSettling await = true → lastCommand next = some .stop)
  | tunnelUp (hconfirms : confirms c act = true)
      (hcancelled : next.cancelled = c.cancelled) (hdone : next.inFlight = none)
      (state : ConnectionFlowState) (hstate : state.phase = .connected)
      (hadded : next.effects = c.effects ++ [.emitted state])

theorem advanced_of_stretch {now later : ℕ} {await : Await} {reply : Reply}
    {part : Stretch (Option Await)} (hphase : c.state.phase ≠ .connected)
    (hawait : c.inFlight = some await)
    (hpart : stretch now later await reply = some part) :
    Advanced c (.resume now later reply) (c.advance part) := by
  rcases stretch_cases hawait hpart with ⟨hconfirms, hkeeps⟩ |
    ⟨hconfirms, profile, rfl⟩
  · obtain ⟨hquiet, hpost⟩ := hkeeps c hphase
    rw [Controller.advance]
    generalize part.run.run c = result at hquiet hpost
    obtain ⟨outcome, c'⟩ := result
    cases outcome with
    | ok value =>
        obtain ⟨await', rfl, hgoing⟩ := hpost value rfl
        exact .goesOn hconfirms ⟨hquiet.cancelled, hquiet.phase, hquiet.effects⟩
          await' rfl fun hsettling => by simp [hgoing] at hsettling
    | error failure =>
        have hstop : Quiet c' (c'.perform (.command .stop)) :=
          Quiet.perform hquiet.phase rfl
        have hall := hquiet.trans hstop
        exact .goesOn hconfirms ⟨hall.cancelled, hall.phase, hall.effects⟩ _ rfl
          fun _ => lastCommand_stop
  · exact .tunnelUp hconfirms rfl rfl _ rfl rfl

/-- A resumed run either settles, quietly, or advances. -/
theorem resume_cases {now later : ℕ} {reply : Reply}
    (hphase : c.inFlight ≠ none → c.state.phase ≠ .connected)
    (hresume : c.resume now later reply = some next) :
    (∃ failure, c.inFlight = some (.stopQuietly failure) ∧
      next = c.settled failure) ∨
    c.inFlight ≠ none ∧ Advanced c (.resume now later reply) next := by
  have hadvance : ∀ await, c.inFlight = some await →
      (stretch now later await reply).map c.advance = some next →
      c.inFlight ≠ none ∧ Advanced c (.resume now later reply) next := by
    intro await hawait hmap
    obtain ⟨part, hpart, rfl⟩ := Option.map_eq_some_iff.mp hmap
    have hrunning : c.inFlight ≠ none := by simp [hawait]
    exact ⟨hrunning, advanced_of_stretch (hphase hrunning) hawait hpart⟩
  rw [Controller.resume] at hresume
  cases hawait : c.inFlight with
  | none => simp [hawait] at hresume
  | some await =>
      cases await with
      | stopQuietly failure =>
          simp only [hawait, Option.some.injEq] at hresume
          exact .inl ⟨failure, rfl, hresume.symm⟩
      | _ =>
          simp only [hawait] at hresume
          exact .inr (hawait ▸ hadvance _ hawait hresume)

theorem quiet_settled {failure : Option AppFailure} :
    Quiet c (c.settled failure) := by
  cases failure with
  | none =>
      have hquiet : Quiet c (c.emit .initial) := .emit (by decide)
      exact ⟨hquiet.cancelled, hquiet.phase, hquiet.effects⟩
  | some failure =>
      have hquiet : Quiet c (c.emit { c.state with
          phase := .failed, failure := some failure }) := .emit (by simp)
      exact ⟨hquiet.cancelled, hquiet.phase, hquiet.effects⟩

@[simp]
theorem lastCommand_settled {failure : Option AppFailure} :
    lastCommand (c.settled failure) = lastCommand c := by
  cases failure <;> exact lastCommand_emit

/-- The end of a `disconnect` is quiet and leaves the run alone. -/
theorem stopReturned_spec {i : ℕ} (hstep : c.stopReturned i = some next) :
    Quiet c next ∧ next.inFlight = c.inFlight ∧
      lastCommand next = lastCommand c := by
  rw [Controller.stopReturned] at hstep
  cases hclosing : c.closing[i]? with
  | none => simp [hclosing] at hstep
  | some showClosingAd =>
      simp only [hclosing, Option.some.injEq] at hstep
      subst hstep
      have hphase : ConnectionFlowState.initial.phase ≠ .connected := by decide
      cases showClosingAd with
      | false =>
          have hquiet : Quiet c (c.emit .initial) := .emit hphase
          exact ⟨⟨rfl, hphase, hquiet.effects⟩, rfl, lastCommand_emit⟩
      | true =>
          refine ⟨⟨rfl, hphase, [.showRewarded Controller.closingAdNonce c.userId,
            .emitted .initial], ?_, ?_⟩, rfl, ?_⟩
          · simp [Controller.finishDisconnect]
          · simp [claimsConnected, ConnectionFlowState.initial]
          · exact lastCommand_emit.trans (lastCommand_perform rfl)

/-! ## Invariants of a run -/

/-- During a run the flag says whether it was interrupted, the state does not
claim `connected`, and a settling run has stopped the engine. -/
structure Controlled (flag : Bool) (c : Controller) : Prop where
  phase : c.inFlight ≠ none → c.state.phase ≠ .connected
  flagged : c.inFlight ≠ none → c.cancelled = flag
  settling : ∀ await, c.inFlight = some await → isSettling await = true →
    lastCommand c = some .stop

/-- The second half of safety, in one state. -/
def Stopped (flag : Bool) (c : Controller) : Prop :=
  flag = true → c.inFlight = none → lastCommand c = some .stop

theorem controlled_of_settled {flag : Bool} (hdone : c.inFlight = none) :
    Controlled flag c := by
  constructor <;> simp [hdone]

theorem controlled_connect {flag : Bool} (hcontrolled : Controlled flag c) :
    Controlled (mark flag (c, .connect)) c.connect := by
  rw [Controller.connect]
  cases hrun : c.inFlight with
  | some await => simpa [mark, hrun] using hcontrolled
  | none =>
      constructor
      · simp
      · simp [mark, hrun]
      · simp only [Option.some.injEq]
        rintro await rfl hsettling
        cases hsettling

theorem controlled_cancel {flag : Bool} (hcontrolled : Controlled flag c) :
    Controlled (mark flag (c, .cancel)) c.signalCancel := by
  constructor
  · exact hcontrolled.phase
  · intro hrunning
    have hsome := Option.isSome_iff_ne_none.mpr hrunning
    simp only [Controller.signalCancel] at hsome
    simp [mark, Controller.signalCancel, hsome]
  · exact hcontrolled.settling

theorem controlled_disconnect {flag showClosingAd : Bool} :
    Controlled (mark flag (c, .disconnect showClosingAd))
      (c.disconnect showClosingAd) := by
  constructor
  · simp [Controller.disconnect]
  · simp [mark, Controller.disconnect]
  · exact fun _ _ _ => lastCommand_stop

theorem controlled_resume {flag : Bool} {now later : ℕ} {reply : Reply}
    (hcontrolled : Controlled flag c)
    (hresume : c.resume now later reply = some next) : Controlled flag next := by
  rcases resume_cases hcontrolled.phase hresume with ⟨failure, -, rfl⟩ |
    ⟨hrunning, hadvanced⟩
  · apply controlled_of_settled
    cases failure <;> rfl
  · cases hadvanced with
    | tunnelUp _ _ hdone => exact controlled_of_settled hdone
    | goesOn _ hquiet await hawait hsettling =>
        refine ⟨fun _ => hquiet.phase, fun _ => ?_, fun other hother hstop => ?_⟩
        · exact hquiet.cancelled.trans (hcontrolled.flagged hrunning)
        · rw [hawait, Option.some.injEq] at hother
          exact hsettling (hother ▸ hstop)

theorem controlled_stopReturned {flag : Bool} {i : ℕ}
    (hcontrolled : Controlled flag c) (hstep : c.stopReturned i = some next) :
    Controlled flag next := by
  obtain ⟨hquiet, hrun, hlast⟩ := stopReturned_spec hstep
  refine ⟨fun _ => hquiet.phase, fun hrunning => ?_, fun await hawait hstop => ?_⟩
  · exact hquiet.cancelled.trans (hcontrolled.flagged (hrun ▸ hrunning))
  · exact hlast.trans (hcontrolled.settling await (hrun ▸ hawait) hstop)

theorem controlled_step {flag : Bool} (hcontrolled : Controlled flag c)
    (hstep : step c act = some next) : Controlled (mark flag (c, act)) next := by
  cases act with
  | connect =>
      obtain rfl := Option.some.inj hstep
      exact controlled_connect hcontrolled
  | cancel =>
      obtain rfl := Option.some.inj hstep
      exact controlled_cancel hcontrolled
  | disconnect showClosingAd =>
      obtain rfl := Option.some.inj hstep
      exact controlled_disconnect
  | resume now later reply => exact controlled_resume hcontrolled hstep
  | stopReturned i => exact controlled_stopReturned hcontrolled hstep

/-- Unless a flagged run is told that its tunnel is up, an interruption leaves
the engine stopped. -/
theorem stopped_step {flag : Bool} (hcontrolled : Controlled flag c)
    (hstopped : Stopped flag c) (hguard : c.cancelled = true → confirms c act = false)
    (hstep : step c act = some next) : Stopped (mark flag (c, act)) next := by
  intro hmark hdone
  cases act with
  | connect =>
      obtain rfl := Option.some.inj hstep
      simp only [mark, Bool.and_eq_true] at hmark
      have hjoin : c.connect = c := by
        obtain ⟨await, hawait⟩ := Option.isSome_iff_exists.mp hmark.1
        rw [Controller.connect, hawait]
      rw [hjoin] at hdone ⊢
      exact hstopped hmark.2 hdone
  | cancel =>
      obtain rfl := Option.some.inj hstep
      have hrun : c.inFlight = none := hdone
      simp only [mark, hrun, Option.isSome_none, Bool.false_or] at hmark
      exact hstopped hmark hrun
  | disconnect showClosingAd =>
      obtain rfl := Option.some.inj hstep
      exact lastCommand_stop
  | resume now later reply =>
      rcases resume_cases hcontrolled.phase hstep with ⟨failure, hawait, rfl⟩ |
        ⟨hrunning, hadvanced⟩
      · rw [lastCommand_settled]
        exact hcontrolled.settling _ hawait rfl
      · cases hadvanced with
        | goesOn _ _ await hawait _ => simp [hawait] at hdone
        | tunnelUp hconfirms =>
            have hflag : c.cancelled = true :=
              (hcontrolled.flagged hrunning).trans hmark
            simp [hguard hflag] at hconfirms
  | stopReturned i =>
      obtain ⟨-, hrun, hlast⟩ := stopReturned_spec hstep
      exact hlast.trans (hstopped hmark (hrun ▸ hdone))

theorem confirms_of_settling {failure : Option AppFailure}
    (hawait : c.inFlight = some (.stopQuietly failure)) :
    confirms c act = false := by
  simp only [confirms]
  split <;> simp [hawait]

/-- A confirmation reaches a run, and it interrupts nothing. -/
theorem running_of_confirms {flag : Bool} (hconfirms : confirms c act = true) :
    c.inFlight ≠ none ∧ mark flag (c, act) = flag := by
  simp only [confirms] at hconfirms
  split at hconfirms
  · exact ⟨by rintro hnone; simp [hnone] at hconfirms, rfl⟩
  · exact ⟨by rintro hnone; simp [hnone] at hconfirms, rfl⟩
  · cases hconfirms

/-- Only a confirmed tunnel makes a step claim `connected`, and then it does. -/
theorem claims_iff_confirms {flag : Bool} (hcontrolled : Controlled flag c)
    (hstep : step c act = some next) :
    (∀ effect ∈ added c next, claimsConnected effect = false) ↔
      confirms c act = false := by
  have hquiet : Quiet c next → confirms c act = false →
      ((∀ effect ∈ added c next, claimsConnected effect = false) ↔
        confirms c act = false) :=
    fun hquiet hconfirms => iff_of_true hquiet.added_silent hconfirms
  cases act with
  | connect =>
      obtain rfl := Option.some.inj hstep
      refine iff_of_true ?_ rfl
      rw [Controller.connect]
      cases c.inFlight <;> simp [added, claimsConnected]
  | cancel =>
      obtain rfl := Option.some.inj hstep
      exact iff_of_true (by simp [added, Controller.signalCancel]) rfl
  | disconnect showClosingAd =>
      obtain rfl := Option.some.inj hstep
      refine iff_of_true ?_ rfl
      simp [added, Controller.disconnect, Controller.signalCancel, claimsConnected]
  | resume now later reply =>
      rcases resume_cases hcontrolled.phase hstep with ⟨failure, hawait, rfl⟩ |
        ⟨-, hadvanced⟩
      · exact hquiet quiet_settled (confirms_of_settling hawait)
      · cases hadvanced with
        | goesOn hconfirms hsilent => exact hquiet hsilent hconfirms
        | tunnelUp hconfirms _ _ state hstate hadded =>
            simp [added, hadded, claimsConnected, hstate, hconfirms]
  | stopReturned i => exact hquiet (stopReturned_spec hstep).1 rfl

/-! ## Over runs -/

theorem interrupted_snoc {entry : Controller × Action} :
    interrupted (trace ++ [entry]) = mark (interrupted trace) entry := by
  rw [interrupted, List.foldl_append]
  rfl

variable {userId : String} {start last : Controller}

theorem controlled_run (hinit : (flow userId).init start)
    (hrun : Run (flow userId) start trace last) :
    Controlled (interrupted trace) last := by
  apply @Run.induction_on _ _ _ _ _ _
    (fun trace c => Controlled (interrupted trace) c) hrun
  · rw [hinit]
    exact controlled_of_settled rfl
  · intro trace c act next hcontrolled hstep
    rw [interrupted_snoc]
    exact controlled_step hcontrolled hstep

theorem stopped_run (hinit : (flow userId).init start)
    (hrun : Run (flow userId) start trace last)
    (hguard : ∀ entry ∈ trace, entry.1.cancelled = true →
      confirms entry.1 entry.2 = false) : Stopped (interrupted trace) last := by
  induction hrun with
  | refl => exact fun hflag => by simp [interrupted] at hflag
  | @snoc trace c next act hearlier hstep ih =>
      rw [interrupted_snoc]
      have hbefore := ih fun entry hentry =>
        hguard entry (List.mem_append_left _ hentry)
      exact stopped_step (controlled_run hinit hearlier) hbefore
        (hguard (c, act) (by simp)) hstep

/-- Cancelling is safe on exactly the runs in which the engine never reports
the tunnel up to a run whose flag is already set. -/
theorem cancel_safety (hinit : (flow userId).init start)
    (hrun : Run (flow userId) start trace last) :
    CancelSafe trace last ↔ ∀ entry ∈ trace, entry.1.cancelled = true →
      confirms entry.1 entry.2 = false := by
  constructor
  · intro hsafe entry hentry hflag
    obtain ⟨before, after, next, rfl, hbefore, hstep⟩ := hrun.exists_prefix hentry
    have hcontrolled := controlled_run hinit hbefore
    cases hconfirms : confirms entry.1 entry.2 with
    | false => rfl
    | true =>
        obtain ⟨hrunning, hmark⟩ := @running_of_confirms _ _
          (interrupted before) hconfirms
        have hinterrupted : interrupted (before ++ [entry]) = true := by
          rw [interrupted_snoc, hmark, ← hcontrolled.flagged hrunning, hflag]
        have hsilent := hsafe.silent before entry after rfl hinterrupted next hstep
        exact hconfirms ▸ (claims_iff_confirms hcontrolled hstep).mp hsilent
  · intro hguard
    refine ⟨?_, ?_, stopped_run hinit hrun hguard⟩
    · rintro before entry after rfl hinterrupted next hstep
      obtain ⟨-, hbefore, -, -⟩ := hrun.exists_split
      have hcontrolled := controlled_run hinit hbefore
      refine (claims_iff_confirms hcontrolled hstep).mpr ?_
      cases hconfirms : confirms entry.1 entry.2 with
      | false => rfl
      | true =>
          obtain ⟨hrunning, hmark⟩ := @running_of_confirms _ _
            (interrupted before) hconfirms
          rw [interrupted_snoc, hmark, ← hcontrolled.flagged hrunning] at hinterrupted
          exact hconfirms ▸ hguard entry (by simp) hinterrupted
    · rintro before entry after rfl
      obtain ⟨-, hbefore, -, -⟩ := hrun.exists_split
      exact stopped_run hinit hbefore fun other hother =>
        hguard other (List.mem_append_left _ hother)

/-- One ad, then the config of session `s`. -/
def oneAd : ConnectResult where
  response := ⟨"s", "g", "n", 1, 300000, none⟩
  session := ⟨[]⟩

/-- A run up to its first ad. -/
def toFirstAd : List Action :=
  [.connect, .resume 0 0 (.connectResult oneAd)]

/-- The rest of the run up to `start`. -/
def toStart : List Action :=
  [.resume 0 0 (.presented true), .resume 0 0 (.decrypted ⟨"\x7b\x7d", 3600000⟩),
    .resume 0 0 (.consent true)]

/-- A cancel while `start` is pending: the tunnel comes up, the app shows
`connected` and the engine is never told to stop. -/
theorem cancel_safety_unsafe : ∃ userId trace last,
    Run (flow userId) { userId := userId } trace last ∧
      ¬ CancelSafe trace last ∧ last.state.phase = .connected := by
  obtain ⟨last, hrun, hdone, hphase, hcommand⟩ :=
    @exists_run_with _ _ (flow "user") { userId := "user" }
      (toFirstAd ++ toStart ++
        [.cancel, .resume 0 0 .started, .resume 0 0 (.current .connected)])
      (fun last => last.inFlight = none ∧ last.state.phase = .connected ∧
        lastCommand last ≠ some .stop) _ (by decide +kernel)
  refine ⟨_, _, last, hrun, fun hsafe => ?_, hphase⟩
  exact hcommand (hsafe.stopped_last (by decide +kernel) hdone)

/-- A cancel during an ad. -/
theorem cancel_safety_during_ad : ∃ trace last,
    Run (flow "user") { userId := "user" } trace last ∧
      CancelSafe trace last ∧ interrupted trace = true ∧
      last.state = .initial ∧ lastCommand last = some .stop := by
  obtain ⟨last, hrun, hstate, hcommand⟩ :=
    @exists_run_with _ _ (flow "user") { userId := "user" }
      (toFirstAd ++ [.cancel, .resume 0 0 (.presented true),
        .resume 0 0 (.threw .other)])
      (fun last => last.state = .initial ∧ lastCommand last = some .stop) _
      (by decide +kernel)
  refine ⟨_, last, hrun, ?_, by decide +kernel, hstate, hcommand⟩
  exact (cancel_safety rfl hrun).mpr (by decide +kernel)

end VpnMiddleware.CancelSafety
