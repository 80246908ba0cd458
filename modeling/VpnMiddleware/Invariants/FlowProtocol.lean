import VpnMiddleware.Invariants.CancelSafety

/-!
# The conversation of a connection run

What a run of the connection flow says to the backend, the ad network and the
engine, and what it hears.  A run that is not given up follows one script: a
grant, the required ads under its nonce, at most seven verifications, consent,
one start of the engine and the confirmation that the tunnel is up.  Wherever
it departs from the script it stops the engine and is over.
-/

namespace VpnMiddleware.FlowProtocol

open VpnMiddleware.ConnectionModels VpnMiddleware.TransitionSystem
open VpnMiddleware.ConnectionFlow VpnMiddleware.CancelSafety

/-! ## The script -/

inductive Event
  | sent (effect : Effect)
  | heard (reply : Reply)
  deriving DecidableEq, Repr

section Script

variable (userId : String) (grant : ConnectResult) (profile : VpnProfile)

def opening : List Event :=
  [.sent .connectRequest, .heard (.connectResult grant)]

def showAd : Event :=
  .sent (.showRewarded grant.response.nonce userId)

/-- The first ads, each watched to its end. -/
def ads (count : ℕ) : List Event :=
  (List.replicate count [showAd userId grant, .heard (.presented true)]).flatten

def askVerify : Event :=
  .sent (.verifyRequest grant.response.grantId grant.response.sessionId
    grant.session)

/-- Verifications that were too early, each with a pause after it. -/
def retries (failures : List Thrown) : List Event :=
  failures.flatMap fun thrown =>
    [askVerify grant, .heard (.threw thrown), .heard .delayed]

def startRequest : VpnStartRequest :=
  ⟨grant.response.sessionId, profile.singboxConfigJson, profile.expiresAt⟩

/-- Up to the request for the first verification. -/
def funded (failures : List Thrown) : List Event :=
  opening grant ++ ads userId grant grant.response.requiredAds ++
    retries grant failures

/-- Up to the start of the engine. -/
def launched (failures : List Thrown) : List Event :=
  funded userId grant failures ++
    [askVerify grant, .heard (.decrypted profile),
      .sent (.command .prepare), .heard (.consent true),
      .sent (.command (.start (startRequest grant profile)))]

/-- The tunnel is up already, or the run watches its states until it is. -/
inductive Confirmation : List Event → Prop
  | atOnce : Confirmation [.heard .started, .sent .currentState,
      .heard (.current .connected)]
  | later (first : VpnConnectionState) (watched : List VpnConnectionState) :
      first ≠ .connected →
      (∀ state ∈ watched, state ≠ .connected ∧ state ≠ .error) →
      Confirmation ([.heard .started, .sent .currentState,
        .heard (.current first), .sent .stateStream] ++
        watched.map (fun state => .heard (.streamed state)) ++
        [.heard (.streamed .connected)])

/-- The whole conversation of a run that ends with a tunnel. -/
structure IsTalk (userId : String) (talk : List Event) : Prop where
  exists_parts : ∃ grant failures profile confirmation,
    failures.length ≤ 6 ∧
    (∀ thrown ∈ failures, retryable thrown.caught = true) ∧
    Confirmation confirmation ∧
    talk = launched userId grant profile failures ++ confirmation

end Script

/-- A run follows the script, or it has given up after some reply and stopped
the engine. -/
inductive Follows (userId : String) : List Event → Prop
  | idle : Follows userId []
  | underway {log talk : List Event} : IsTalk userId talk → log <+: talk →
      Follows userId log
  | givenUp {log talk : List Event} {reply : Reply} : IsTalk userId talk →
      log <+: talk →
      Follows userId (log ++ [.heard reply, .sent (.command .stop)])

/-! ## The log of a run -/

/-- What leaves the app; the states are for its own screens. -/
def isWire : Effect → Bool
  | .emitted _ => false
  | _ => true

/-- What a step sends. -/
def sentIn (entry : Controller × Action) : List Event :=
  match step entry.1 entry.2 with
  | none => []
  | some next => ((added entry.1 next).filter isWire).map .sent

/-- The log of the last run: a new run begins a new one, and the steps of
others do not belong to it. -/
def extend (log : List Event) (entry : Controller × Action) : List Event :=
  match entry.2, entry.1.inFlight with
  | .connect, none => sentIn entry
  | .resume _ _ _, some (.stopQuietly _) => log
  | .resume _ _ reply, some _ => log ++ .heard reply :: sentIn entry
  | _, _ => log

def runLog (trace : List (Controller × Action)) : List Event :=
  trace.foldl extend []

/-- The start requests of a log. -/
def starts (log : List Event) : List VpnStartRequest :=
  log.filterMap fun event => match event with
    | .sent (.command (.start request)) => some request
    | _ => none

/-- The engine is started at most once, for the session of the grant and with
the config that the backend released, after the required ads. -/
def StartsOnce (userId : String) (log : List Event) : Prop :=
  starts log = [] ∨ ∃ grant profile failures rest,
    failures.length ≤ 6 ∧
    log = launched userId grant profile failures ++ rest ∧
    starts log = [startRequest grant profile]

/-! ## What a stretch sends -/

/-- The effects that a stretch adds, by what it returns; before it throws it
sends nothing. -/
def Sends {A : Type} (userId : String) (part : Stretch A)
    (post : A → List Effect → Prop) : Prop :=
  ∀ c : Controller, c.userId = userId →
    (part.run.run c).2.userId = userId ∧
      ∃ new, (part.run.run c).2.effects = c.effects ++ new ∧
        match (part.run.run c).1 with
        | .error _ => new.filter isWire = []
        | .ok value => post value (new.filter isWire)

/-- The stretch sends nothing. -/
def Silent {A : Type} (userId : String) (part : Stretch A) : Prop :=
  Sends userId part fun _ new => new = []

namespace Sends

variable {A B : Type} {userId : String} {part : Stretch A}
variable {post : A → List Effect → Prop}

theorem pure {value : A} (hvalue : post value []) :
    Sends userId (Pure.pure value) post :=
  fun _ huser => ⟨huser, [], (List.append_nil _).symm, hvalue⟩

theorem throw {failure : AppFailure} : Sends userId (throw failure) post :=
  fun _ huser => ⟨huser, [], (List.append_nil _).symm, rfl⟩

theorem bind {rest : A → Stretch B} {post : B → List Effect → Prop}
    (hpart : Silent userId part) (hrest : ∀ value, Sends userId (rest value) post) :
    Sends userId (part >>= rest) post := by
  intro c huser
  obtain ⟨huser', new, heffects, hnew⟩ := hpart c huser
  change (ExceptT.bindCont rest (part.run.run c).1
      (part.run.run c).2).2.userId = userId ∧
    ∃ new, (ExceptT.bindCont rest (part.run.run c).1
      (part.run.run c).2).2.effects = c.effects ++ new ∧
      match (ExceptT.bindCont rest (part.run.run c).1 (part.run.run c).2).1 with
      | .error _ => new.filter isWire = []
      | .ok value => post value (new.filter isWire)
  generalize part.run.run c = result at huser' heffects hnew
  obtain ⟨outcome, c'⟩ := result
  cases outcome with
  | error failure => exact ⟨huser', new, heffects, hnew⟩
  | ok value =>
      obtain ⟨huser'', later, hlater, hpost⟩ := hrest value c' huser'
      refine ⟨huser'', new ++ later, ?_, ?_⟩
      · exact hlater.trans (heffects ▸ List.append_assoc _ _ _)
      · have hfilter : (new ++ later).filter isWire = later.filter isWire := by
          rw [List.filter_append, hnew, List.nil_append]
        rw [hfilter]
        exact hpost

/-- One request, after which the stretch returns. -/
theorem request {effect : Effect} {value : A} (hwire : isWire effect = true)
    (hpost : post value [effect]) :
    Sends userId (do
      ConnectionFlow.perform effect
      return value) post := by
  intro c huser
  refine ⟨huser, [effect], rfl, ?_⟩
  have hfilter : [effect].filter isWire = [effect] :=
    List.filter_cons_of_pos hwire
  rw [hfilter]
  exact hpost

theorem emitWith {change : ConnectionFlowState → ConnectionFlowState} :
    Silent userId (ConnectionFlow.emitWith change) :=
  fun _ huser => ⟨huser, [.emitted _], rfl, rfl⟩

theorem ite {condition : Prop} [Decidable condition] {other : Stretch A}
    (hpart : condition → Sends userId part post)
    (hother : ¬ condition → Sends userId other post) :
    Sends userId (if condition then part else other) post := by
  by_cases hcondition : condition
  · rw [if_pos hcondition]
    exact hpart hcondition
  · rw [if_neg hcondition]
    exact hother hcondition

theorem guardWindow {now deadline : ℕ} :
    Silent userId (ConnectionFlow.guardWindow now deadline) :=
  ite (fun _ => throw) fun _ => pure rfl

theorem read {rest : Controller → Stretch A}
    (hrest : ∀ c : Controller, c.userId = userId → Sends userId (rest c) post) :
    Sends userId (MonadState.get >>= rest) post :=
  fun c huser => hrest c huser c huser

theorem throwIfCancelled : Silent userId ConnectionFlow.throwIfCancelled :=
  read fun _ _ => ite (fun _ => throw) fun _ => pure rfl

/-- Only the returned value is changed at the end. -/
theorem bind_pure {f : A → B} {post' : B → List Effect → Prop}
    (hpart : Sends userId part post)
    (hpost : ∀ value new, post value new → post' (f value) new) :
    Sends userId (part >>= fun value => Pure.pure (f value)) post' := by
  intro c huser
  obtain ⟨huser', new, heffects, hnew⟩ := hpart c huser
  generalize hrest : (fun value => Pure.pure (f value) : A → Stretch B) = rest
  have hreturns : ∀ value c', (rest value).run.run c' = (.ok (f value), c') := by
    subst hrest
    exact fun _ _ => rfl
  change (ExceptT.bindCont rest (part.run.run c).1
      (part.run.run c).2).2.userId = userId ∧
    ∃ new, (ExceptT.bindCont rest (part.run.run c).1
      (part.run.run c).2).2.effects = c.effects ++ new ∧
      match (ExceptT.bindCont rest (part.run.run c).1 (part.run.run c).2).1 with
      | .error _ => new.filter isWire = []
      | .ok value => post' value (new.filter isWire)
  generalize part.run.run c = result at huser' heffects hnew
  obtain ⟨outcome, c'⟩ := result
  cases outcome with
  | error failure => exact ⟨huser', new, heffects, hnew⟩
  | ok value =>
      change ((rest value).run.run c').2.userId = userId ∧
        ∃ new, ((rest value).run.run c').2.effects = c.effects ++ new ∧
          match ((rest value).run.run c').1 with
          | .error _ => new.filter isWire = []
          | .ok value => post' value (new.filter isWire)
      rw [hreturns]
      exact ⟨huser', new, heffects, hpost _ _ hnew⟩

theorem map_some {part : Stretch Await} {post : Await → List Effect → Prop}
    (hpart : Sends userId part post) :
    Sends userId (some <$> part) fun value new =>
      ∃ await, value = some await ∧ post await new := by
  rw [map_eq_pure_bind]
  exact hpart.bind_pure fun await _ hpost => ⟨await, rfl, hpost⟩

theorem imp {post' : A → List Effect → Prop} (hpart : Sends userId part post)
    (himp : ∀ value new, post value new → post' value new) :
    Sends userId part post' := by
  intro c huser
  obtain ⟨huser', new, heffects, hnew⟩ := hpart c huser
  refine ⟨huser', new, heffects, ?_⟩
  generalize (part.run.run c).1 = outcome at hnew
  cases outcome with
  | error failure => exact hnew
  | ok value => exact himp _ _ hnew

end Sends

/-! ## The stretches of the run -/

section Stretches

variable {userId : String} {now later attempt i : ℕ} {grant : ConnectResult}
variable {profile : VpnProfile}

theorem sends_requestVerify :
    Sends userId (requestVerify now grant attempt) fun await new =>
      await = .verify grant attempt ∧ new.map .sent = [askVerify grant] :=
  .bind .throwIfCancelled fun _ => .bind .guardWindow fun _ =>
    .request rfl ⟨rfl, rfl⟩

/-- The next ad, or the first verification after the last one. -/
inductive NextAd (userId : String) (grant : ConnectResult) (i : ℕ) :
    Await → List Effect → Prop
  | show {new : List Effect} : i < grant.response.requiredAds →
      new.map .sent = [showAd userId grant] →
      NextAd userId grant i (.showRewarded grant i) new
  | verify {new : List Effect} : grant.response.requiredAds ≤ i →
      new.map .sent = [askVerify grant] →
      NextAd userId grant i (.verify grant 0) new

theorem sends_showNextAd :
    Sends userId (showNextAd now grant i) (NextAd userId grant i) := by
  apply Sends.ite
  · intro hnext
    refine .bind .guardWindow fun _ => .bind .throwIfCancelled fun _ =>
      .read fun c huser => ?_
    apply Sends.request rfl
    exact .show hnext (by rw [huser]; rfl)
  · intro hlast
    refine .bind .emitWith fun _ => sends_requestVerify.imp fun await new hnew => ?_
    obtain ⟨rfl, hsent⟩ := hnew
    exact .verify (not_lt.mp hlast) hsent

theorem sends_afterConnect :
    Sends userId (afterConnect now later grant) (NextAd userId grant 0) :=
  .bind .guardWindow fun _ => .bind .throwIfCancelled fun _ =>
    .bind .emitWith fun _ => sends_showNextAd

theorem sends_afterAd {completed : Bool} :
    Sends userId (afterAd now grant i completed) fun await new =>
      completed = true ∧ NextAd userId grant (i + 1) await new :=
  .ite (fun hcompleted => .bind .emitWith fun _ =>
    sends_showNextAd.imp fun _ _ hnext => ⟨hcompleted, hnext⟩) fun _ => .throw

theorem sends_afterVerify :
    Sends userId (afterVerify grant profile) fun await new =>
      await = .prepare grant profile ∧ new = [.command .prepare] :=
  .bind .throwIfCancelled fun _ => .bind .emitWith fun _ =>
    .request rfl ⟨rfl, rfl⟩

theorem sends_afterVerifyThrow {thrown : Thrown} :
    Sends userId (afterVerifyThrow grant attempt thrown) fun await new =>
      await = .backoff grant (attempt + 1) (400 * 2 ^ attempt) ∧
        retryable thrown.caught = true ∧ attempt < 6 ∧ new = [] := by
  apply Sends.ite
  · intro hretry
    rw [Bool.and_eq_true, decide_eq_true_eq] at hretry
    exact .pure ⟨rfl, hretry.1, hretry.2, rfl⟩
  · exact fun _ => .throw

theorem sends_afterBackoff :
    Sends userId (afterBackoff now later grant attempt) fun await new =>
      await = .verify grant attempt ∧ new.map .sent = [askVerify grant] :=
  .bind .throwIfCancelled fun _ => .bind .guardWindow fun _ => sends_requestVerify

theorem sends_afterPrepare {granted : Bool} :
    Sends userId (afterPrepare grant profile granted) fun await new =>
      granted = true ∧ await = .start profile ∧
        new = [.command (.start (startRequest grant profile))] :=
  .ite (fun hgranted => .bind .throwIfCancelled fun _ => .bind .emitWith fun _ =>
    .request rfl ⟨hgranted, rfl, rfl⟩) fun _ => .throw

theorem sends_afterStart :
    Sends userId (afterStart profile) fun await new =>
      await = .currentState profile ∧ new = [.currentState] :=
  .request rfl ⟨rfl, rfl⟩

/-- The tunnel is up and the run ends, or the run goes on watching. -/
theorem sends_afterCurrentState {current : VpnConnectionState} :
    Sends userId (afterCurrentState profile current) fun next new =>
      (current = .connected ∧ next = none ∧ new = []) ∨
        current ≠ .connected ∧ next = some (.stateStream profile) ∧
          new = [.stateStream] :=
  .ite (fun hup => .bind .emitWith fun _ => .pure (Or.inl ⟨hup, rfl, rfl⟩))
    fun hdown => .request rfl (Or.inr ⟨hdown, rfl, rfl⟩)

theorem sends_afterStreamed {seen : VpnConnectionState} :
    Sends userId (afterStreamed profile seen) fun next new => new = [] ∧
      ((seen = .connected ∧ next = none) ∨
        (seen ≠ .connected ∧ seen ≠ .error) ∧
          next = some (.stateStream profile)) := by
  cases seen with
  | connected => exact .bind .emitWith fun _ => .pure ⟨rfl, Or.inl ⟨rfl, rfl⟩⟩
  | error => exact .throw
  | _ => exact .pure ⟨rfl, Or.inr ⟨⟨by decide, by decide⟩, rfl⟩⟩

end Stretches

/-! ## Where a run is in the script -/

/-- The failures that a run may go on after. -/
def Tolerated (failures : List Thrown) : Prop :=
  failures.length ≤ 6 ∧ ∀ thrown ∈ failures, retryable thrown.caught = true

/-- The log of a run that is suspended at an await. -/
inductive At (userId : String) : Await → List Event → Prop
  | connect : At userId .connect [.sent .connectRequest]
  | showRewarded {grant : ConnectResult} {i : ℕ} :
      i < grant.response.requiredAds →
      At userId (.showRewarded grant i)
        (opening grant ++ ads userId grant i ++ [showAd userId grant])
  | verify {grant : ConnectResult} {failures : List Thrown} :
      Tolerated failures →
      At userId (.verify grant failures.length)
        (funded userId grant failures ++ [askVerify grant])
  | backoff {grant : ConnectResult} {failures : List Thrown} {thrown : Thrown}
      {delay : ℕ} : Tolerated (failures ++ [thrown]) →
      At userId (.backoff grant (failures.length + 1) delay)
        (funded userId grant failures ++
          [askVerify grant, .heard (.threw thrown)])
  | prepare {grant : ConnectResult} {failures : List Thrown}
      {profile : VpnProfile} : Tolerated failures →
      At userId (.prepare grant profile)
        (funded userId grant failures ++ [askVerify grant,
          .heard (.decrypted profile), .sent (.command .prepare)])
  | start {grant : ConnectResult} {failures : List Thrown}
      {profile : VpnProfile} : Tolerated failures →
      At userId (.start profile) (launched userId grant profile failures)
  | currentState {grant : ConnectResult} {failures : List Thrown}
      {profile : VpnProfile} : Tolerated failures →
      At userId (.currentState profile)
        (launched userId grant profile failures ++
          [.heard .started, .sent .currentState])
  | stateStream {grant : ConnectResult} {failures : List Thrown}
      {profile : VpnProfile} {first : VpnConnectionState}
      {watched : List VpnConnectionState} : Tolerated failures →
      first ≠ .connected →
      (∀ state ∈ watched, state ≠ .connected ∧ state ≠ .error) →
      At userId (.stateStream profile)
        (launched userId grant profile failures ++
          ([.heard .started, .sent .currentState, .heard (.current first),
            .sent .stateStream] ++
            watched.map fun state => .heard (.streamed state)))

/-- The log after a stretch: the run goes on, or it has reached its end. -/
inductive Next (userId : String) : Option Await → List Event → Prop
  | goesOn {await : Await} {log : List Event} : At userId await log →
      Next userId (some await) log
  | ended {talk : List Event} : IsTalk userId talk → Next userId none talk

section Positions

variable {userId : String} {grant : ConnectResult} {failures : List Thrown}
variable {profile : VpnProfile} {log : List Event} {await : Await}
variable {now later i : ℕ} {reply : Reply}

theorem ads_succ (userId : String) (grant : ConnectResult) (i : ℕ) :
    ads userId grant (i + 1) = ads userId grant i ++
      [showAd userId grant, .heard (.presented true)] := by
  rw [ads, List.replicate_succ', List.flatten_append]
  rfl

theorem funded_append (userId : String) (grant : ConnectResult)
    (failures : List Thrown) (thrown : Thrown) :
    funded userId grant (failures ++ [thrown]) = funded userId grant failures ++
      [askVerify grant, .heard (.threw thrown), .heard .delayed] := by
  rw [funded, funded, retries, List.flatMap_append, ← List.append_assoc]
  rfl

/-- The next ad of a run that has watched some. -/
theorem at_of_nextAd {new : List Effect} (hi : i ≤ grant.response.requiredAds)
    (hnext : NextAd userId grant i await new) :
    At userId await
      (opening grant ++ ads userId grant i ++ new.map .sent) := by
  cases hnext with
  | «show» hmore hsent =>
      rw [hsent]
      exact .showRewarded hmore
  | verify hlast hsent =>
      obtain rfl : i = grant.response.requiredAds := le_antisymm hi hlast
      have hverify := @At.verify userId grant [] ⟨by simp, by simp⟩
      rw [hsent]
      simpa only [funded, retries, List.flatMap_nil, List.append_nil,
        List.length_nil] using hverify

/-- From each await of the script the run goes on along the script. -/
theorem sends_stretch (hat : At userId await log)
    {part : Stretch (Option Await)}
    (hpart : stretch now later await reply = some part) :
    Sends userId part fun value new =>
      Next userId value (log ++ .heard reply :: new.map .sent) := by
  cases hat with
  | connect =>
      cases reply with
      | connectResult grant =>
          obtain rfl := Option.some.inj hpart
          refine sends_afterConnect.map_some.imp ?_
          rintro _ new ⟨await, rfl, hnext⟩
          exact .goesOn (at_of_nextAd (Nat.zero_le _) hnext)
      | threw thrown =>
          obtain rfl := Option.some.inj hpart
          exact .throw
      | _ => cases hpart
  | @showRewarded grant i hi =>
      cases reply with
      | presented completed =>
          obtain rfl := Option.some.inj hpart
          refine sends_afterAd.map_some.imp ?_
          rintro _ new ⟨await, rfl, rfl, hnext⟩
          have hat := at_of_nextAd hi hnext
          rw [ads_succ] at hat
          refine .goesOn ?_
          simpa only [List.append_assoc, List.cons_append, List.nil_append,
            List.map_cons, List.map_nil, List.length_singleton] using hat
      | threw thrown =>
          obtain rfl := Option.some.inj hpart
          exact .throw
      | _ => cases hpart
  | @verify grant failures htolerated =>
      cases reply with
      | decrypted profile =>
          obtain rfl := Option.some.inj hpart
          refine sends_afterVerify.map_some.imp ?_
          rintro _ new ⟨await, rfl, rfl, rfl⟩
          have hat := @At.prepare userId grant failures profile htolerated
          refine .goesOn ?_
          simpa only [List.append_assoc, List.cons_append, List.nil_append,
            List.map_cons, List.map_nil, List.length_singleton] using hat
      | threw thrown =>
          obtain rfl := Option.some.inj hpart
          refine sends_afterVerifyThrow.map_some.imp ?_
          rintro _ new ⟨await, rfl, rfl, hretry, hfew, rfl⟩
          have hmore : Tolerated (failures ++ [thrown]) := by
            have hlength : (failures ++ [thrown]).length ≤ 6 := by
              rw [List.length_append]
              exact hfew
            refine ⟨hlength, ?_⟩
            intro failure hfailure
            rcases List.mem_append.mp hfailure with hold | hnew
            · exact htolerated.2 failure hold
            · exact List.mem_singleton.mp hnew ▸ hretry
          have hat := @At.backoff userId grant failures thrown
            (400 * 2 ^ failures.length) hmore
          refine .goesOn ?_
          simpa only [List.append_assoc, List.cons_append, List.nil_append,
            List.map_cons, List.map_nil, List.length_singleton] using hat
      | _ => cases hpart
  | @backoff grant failures thrown delay htolerated =>
      cases reply with
      | delayed =>
          obtain rfl := Option.some.inj hpart
          refine sends_afterBackoff.map_some.imp ?_
          rintro _ new ⟨await, rfl, rfl, hsent⟩
          have hat := @At.verify userId grant (failures ++ [thrown]) htolerated
          rw [funded_append, List.length_append] at hat
          refine .goesOn ?_
          rw [hsent]
          simpa only [List.append_assoc, List.cons_append, List.nil_append,
            List.map_cons, List.map_nil, List.length_singleton] using hat
      | _ => cases hpart
  | @prepare grant failures profile htolerated =>
      cases reply with
      | consent granted =>
          obtain rfl := Option.some.inj hpart
          refine sends_afterPrepare.map_some.imp ?_
          rintro _ new ⟨await, rfl, rfl, rfl, rfl⟩
          have hat := @At.start userId grant failures profile htolerated
          rw [launched] at hat
          refine .goesOn ?_
          simpa only [List.append_assoc, List.cons_append, List.nil_append,
            List.map_cons, List.map_nil, List.length_singleton] using hat
      | threw thrown =>
          obtain rfl := Option.some.inj hpart
          exact .throw
      | _ => cases hpart
  | @start grant failures profile htolerated =>
      cases reply with
      | started =>
          obtain rfl := Option.some.inj hpart
          refine sends_afterStart.map_some.imp ?_
          rintro _ new ⟨await, rfl, rfl, rfl⟩
          exact .goesOn (.currentState htolerated)
      | threw thrown =>
          obtain rfl := Option.some.inj hpart
          exact .throw
      | _ => cases hpart
  | @currentState grant failures profile htolerated =>
      cases reply with
      | current state =>
          obtain rfl := Option.some.inj hpart
          refine sends_afterCurrentState.imp ?_
          rintro next new (⟨rfl, rfl, rfl⟩ | ⟨hdown, rfl, rfl⟩)
          · rw [List.append_assoc]
            exact .ended ⟨grant, failures, profile, _, htolerated.1,
              htolerated.2, .atOnce, rfl⟩
          · have hat := @At.stateStream userId grant failures profile state []
              htolerated hdown (by simp)
            refine .goesOn ?_
            simpa only [List.append_assoc, List.cons_append, List.nil_append,
              List.map_nil, List.append_nil, List.map_cons] using hat
      | threw thrown =>
          obtain rfl := Option.some.inj hpart
          exact .throw
      | _ => cases hpart
  | @stateStream grant failures profile first watched htolerated hfirst hwatched =>
      cases reply with
      | streamed seen =>
          obtain rfl := Option.some.inj hpart
          refine sends_afterStreamed.imp ?_
          rintro next new ⟨rfl, ⟨rfl, rfl⟩ | ⟨hseen, rfl⟩⟩
          · rw [List.append_assoc]
            exact .ended ⟨grant, failures, profile, _, htolerated.1,
              htolerated.2, .later first watched hfirst hwatched, rfl⟩
          · have hall : ∀ state ∈ watched ++ [seen],
                state ≠ .connected ∧ state ≠ .error := by
              intro state hstate
              rcases List.mem_append.mp hstate with hold | hnew
              · exact hwatched state hold
              · exact List.mem_singleton.mp hnew ▸ hseen
            have hat := @At.stateStream userId grant failures profile first
              (watched ++ [seen]) htolerated hfirst hall
            refine .goesOn ?_
            simpa only [List.append_assoc, List.cons_append, List.nil_append,
              List.map_append, List.map_cons, List.map_nil] using hat
      | streamTimeout =>
          obtain rfl := Option.some.inj hpart
          exact .throw
      | threw thrown =>
          obtain rfl := Option.some.inj hpart
          exact .throw
      | _ => cases hpart

end Positions

/-! ## Positions and the script -/

section Prefixes

variable {userId : String} {grant : ConnectResult} {failures : List Thrown}
variable {profile : VpnProfile} {log : List Event} {await : Await}

theorem ads_add (userId : String) (grant : ConnectResult) (i j : ℕ) :
    ads userId grant (i + j) = ads userId grant i ++ ads userId grant j := by
  rw [ads, List.replicate_add, List.flatten_append]
  rfl

/-- A talk that is confirmed at once. -/
theorem isTalk_atOnce (htolerated : Tolerated failures) :
    IsTalk userId (launched userId grant profile failures ++
      [.heard .started, .sent .currentState, .heard (.current .connected)]) :=
  ⟨grant, failures, profile, _, htolerated.1, htolerated.2, .atOnce, rfl⟩

theorem exists_talk_of_launched (htolerated : Tolerated failures)
    (hinitial : log <+: launched userId grant profile failures) :
    ∃ talk, IsTalk userId talk ∧ log <+: talk :=
  ⟨_, isTalk_atOnce htolerated, hinitial.trans (List.prefix_append _ _)⟩

theorem exists_talk_of_funded (htolerated : Tolerated failures)
    {ahead : List Event} (hlog : log = funded userId grant failures ++ ahead)
    (hahead : ∃ profile, ahead <+: [askVerify grant, .heard (.decrypted profile),
      .sent (.command .prepare)]) :
    ∃ talk, IsTalk userId talk ∧ log <+: talk := by
  obtain ⟨profile, rest, hrest⟩ := hahead
  refine @exists_talk_of_launched userId grant failures profile log htolerated
    ⟨rest ++ [.heard (.consent true),
      .sent (.command (.start (startRequest grant profile)))], ?_⟩
  rw [hlog, launched, List.append_assoc, ← List.append_assoc ahead, hrest]
  rfl

/-- Every position is within a talk. -/
theorem At.exists_talk (hat : At userId await log) :
    ∃ talk, IsTalk userId talk ∧ log <+: talk := by
  have hnone : Tolerated [] := ⟨Nat.zero_le _, by simp⟩
  cases hat with
  | connect =>
      refine @exists_talk_of_launched userId
        ⟨⟨"", "", "", 0, 0, none⟩, ⟨[]⟩⟩ [] ⟨"", 0⟩ _ hnone ?_
      exact List.prefix_append [Event.sent .connectRequest] _
  | @showRewarded grant i hi =>
      refine @exists_talk_of_launched userId grant [] ⟨"", 0⟩ _ hnone ?_
      obtain ⟨more, hmore⟩ := Nat.exists_eq_add_of_lt hi
      have hads : ads userId grant grant.response.requiredAds =
          ads userId grant i ++ [showAd userId grant] ++
            ([.heard (.presented true)] ++ ads userId grant more) := by
        rw [hmore, Nat.add_right_comm, ads_add, ads_succ]
        simp only [List.append_assoc, List.cons_append, List.nil_append]
      rw [launched, funded, hads]
      simp only [List.append_assoc]
      refine (List.prefix_append_right_inj _).mpr ?_
      refine (List.prefix_append_right_inj _).mpr ?_
      exact List.prefix_append _ _
  | verify htolerated =>
      exact exists_talk_of_funded htolerated rfl
        ⟨⟨"", 0⟩, List.prefix_append [askVerify _] _⟩
  | @backoff grant failures thrown delay htolerated =>
      refine @exists_talk_of_launched userId grant (failures ++ [thrown]) ⟨"", 0⟩
        _ htolerated ?_
      rw [launched, funded_append]
      simp only [List.append_assoc]
      refine (List.prefix_append_right_inj _).mpr ?_
      exact List.prefix_append [askVerify grant, .heard (.threw thrown)] _
  | prepare htolerated =>
      exact exists_talk_of_funded htolerated rfl ⟨_, List.prefix_rfl⟩
  | start htolerated => exact exists_talk_of_launched htolerated List.prefix_rfl
  | @currentState grant failures profile htolerated =>
      refine ⟨_, @isTalk_atOnce userId grant failures profile htolerated, ?_⟩
      refine (List.prefix_append_right_inj _).mpr ?_
      exact List.prefix_append [Event.heard .started, .sent .currentState] _
  | @stateStream grant failures profile first watched htolerated hfirst hwatched =>
      refine ⟨_, ⟨grant, failures, profile, _, htolerated.1, htolerated.2,
        .later first watched hfirst hwatched, rfl⟩, ?_⟩
      refine (List.prefix_append_right_inj _).mpr ?_
      exact List.prefix_append _ _

end Prefixes

/-! ## Starts of the engine -/

section Starts

variable {userId : String} {grant : ConnectResult} {failures : List Thrown}
variable {profile : VpnProfile} {log talk : List Event}

theorem starts_append (left right : List Event) :
    starts (left ++ right) = starts left ++ starts right :=
  List.filterMap_append

theorem starts_funded : starts (funded userId grant failures) = [] := by
  have hads : starts (ads userId grant grant.response.requiredAds) = [] := by
    refine List.filterMap_eq_nil_iff.mpr fun event hevent => ?_
    obtain ⟨pair, hpair, hmem⟩ := List.mem_flatten.mp hevent
    rw [List.eq_of_mem_replicate hpair] at hmem
    simp only [List.mem_cons, List.not_mem_nil, or_false] at hmem
    rcases hmem with rfl | rfl <;> rfl
  have hretries : starts (retries grant failures) = [] := by
    refine List.filterMap_eq_nil_iff.mpr fun event hevent => ?_
    obtain ⟨thrown, -, hmem⟩ := List.mem_flatMap.mp hevent
    simp only [List.mem_cons, List.not_mem_nil, or_false] at hmem
    rcases hmem with rfl | rfl | rfl <;> rfl
  rw [funded, starts_append, starts_append, hads, hretries]
  rfl

theorem starts_launched :
    starts (launched userId grant profile failures) =
      [startRequest grant profile] := by
  rw [launched, starts_append, starts_funded]
  rfl

theorem starts_confirmation {confirmation : List Event}
    (hconfirmation : Confirmation confirmation) : starts confirmation = [] := by
  cases hconfirmation with
  | atOnce => rfl
  | later first watched _ _ =>
      rw [starts_append, starts_append]
      have hwatched : starts (watched.map fun state => .heard (.streamed state)) =
          [] := by
        refine List.filterMap_eq_nil_iff.mpr fun event hevent => ?_
        obtain ⟨state, -, rfl⟩ := List.mem_map.mp hevent
        rfl
      rw [hwatched]
      rfl

theorem starts_nil_of_initial (hinitial : log <+: talk) (htalk : starts talk = []) :
    starts log = [] := by
  obtain ⟨rest, rfl⟩ := hinitial
  rw [starts_append] at htalk
  exact (List.append_eq_nil_iff.mp htalk).1

/-- The script starts the engine once, where it says. -/
theorem startsOnce_of_initial (htalk : IsTalk userId talk) (hinitial : log <+: talk) :
    StartsOnce userId log := by
  obtain ⟨grant, failures, profile, confirmation, hfew, -, hconfirmation, rfl⟩ :=
    htalk
  rcases List.prefix_or_prefix_of_prefix hinitial (List.prefix_append _ _) with
    hbefore | ⟨rest, rfl⟩
  · have hlaunched : launched userId grant profile failures =
        funded userId grant failures ++ [askVerify grant,
          .heard (.decrypted profile), .sent (.command .prepare),
          .heard (.consent true)] ++
        [.sent (.command (.start (startRequest grant profile)))] := by
      rw [launched, List.append_assoc]
      rfl
    rw [hlaunched, List.prefix_concat_iff, ← hlaunched] at hbefore
    rcases hbefore with rfl | hearlier
    · exact Or.inr ⟨grant, profile, failures, [], hfew,
        (List.append_nil _).symm, starts_launched⟩
    · refine Or.inl (starts_nil_of_initial hearlier ?_)
      rw [starts_append, starts_funded]
      rfl
  · have hrest := (List.prefix_append_right_inj _).mp hinitial
    refine Or.inr ⟨grant, profile, failures, rest, hfew, rfl, ?_⟩
    rw [starts_append, starts_launched,
      starts_nil_of_initial hrest (starts_confirmation hconfirmation)]
    rfl

theorem Follows.startsOnce (hfollows : Follows userId log) :
    StartsOnce userId log := by
  cases hfollows with
  | idle => exact Or.inl rfl
  | underway htalk hinitial => exact startsOnce_of_initial htalk hinitial
  | @givenUp log talk reply htalk hinitial =>
      rcases startsOnce_of_initial htalk hinitial with hnone |
        ⟨grant, profile, failures, rest, hfew, rfl, hstarts⟩
      · refine Or.inl ?_
        rw [starts_append, hnone]
        rfl
      · refine Or.inr ⟨grant, profile, failures,
          rest ++ [.heard reply, .sent (.command .stop)], hfew,
          List.append_assoc _ _ _, ?_⟩
        rw [starts_append, hstarts]
        rfl

end Starts

/-! ## Runs of the controller -/

section Runs

variable {userId : String} {c c' next start last : Controller} {act : Action}
variable {trace : List (Controller × Action)} {log : List Event}
variable {now later : ℕ} {reply : Reply}

/-- A run is suspended within the script, or it has ended or is settling. -/
inductive Logged (userId : String) (c : Controller) (log : List Event) : Prop
  | running {await : Await} : c.inFlight = some await → At userId await log →
      Logged userId c log
  | settled : (∀ await, c.inFlight = some await → isSettling await = true) →
      Follows userId log → Logged userId c log

theorem Logged.of_inFlight (hlogged : Logged userId c log)
    (hsame : c'.inFlight = c.inFlight) : Logged userId c' log := by
  cases hlogged with
  | running hawait hat => exact .running (hsame.trans hawait) hat
  | settled hsettling hfollows => exact .settled (hsame ▸ hsettling) hfollows

theorem Logged.follows (hlogged : Logged userId c log) : Follows userId log := by
  cases hlogged with
  | running _ hat =>
      obtain ⟨talk, htalk, hinitial⟩ := hat.exists_talk
      exact .underway htalk hinitial
  | settled _ hfollows => exact hfollows

theorem not_isSettling {await : Await} (hat : At userId await log) :
    isSettling await = false := by
  cases hat <;> rfl

theorem sentIn_of_effects {new : List Effect} (hstep : step c act = some next)
    (heffects : next.effects = c.effects ++ new) :
    sentIn (c, act) = (new.filter isWire).map .sent := by
  rw [sentIn, hstep]
  simp only [added, heffects, List.drop_left]

/-- The reply that a suspended run waits for. -/
theorem logged_advance {await : Await} {part : Stretch (Option Await)}
    (huser : c.userId = userId) (hat : At userId await log)
    (hpart : stretch now later await reply = some part)
    (hstep : step c (.resume now later reply) = some (c.advance part)) :
    (c.advance part).userId = userId ∧ Logged userId (c.advance part)
      (log ++ .heard reply :: sentIn (c, .resume now later reply)) := by
  obtain ⟨huser', new, heffects, hnew⟩ := sends_stretch hat hpart c huser
  cases hresult : part.run.run c with | mk outcome c' =>
  rw [hresult] at huser' heffects hnew
  cases outcome with
  | ok value =>
      have hadvance : c.advance part = { c' with inFlight := value } := by
        rw [Controller.advance, hresult]
      dsimp only at huser' heffects hnew
      rw [hadvance] at hstep ⊢
      rw [sentIn_of_effects hstep heffects]
      refine ⟨huser', ?_⟩
      cases hnew with
      | goesOn hat' => exact .running rfl hat'
      | ended htalk =>
          exact .settled (fun _ hnone => by cases hnone)
            (.underway htalk List.prefix_rfl)
  | error failure =>
      have hadvance : c.advance part = c'.settleError failure := by
        rw [Controller.advance, hresult]
      dsimp only at huser' heffects hnew
      have hstopped : (c'.settleError failure).effects =
          c.effects ++ (new ++ [.command .stop]) := by
        rw [← List.append_assoc, ← heffects]
        rfl
      have hwire : (new ++ [Effect.command .stop]).filter isWire =
          [.command .stop] := by
        rw [List.filter_append, hnew]
        rfl
      rw [hadvance] at hstep ⊢
      rw [sentIn_of_effects hstep hstopped, hwire]
      obtain ⟨talk, htalk, hinitial⟩ := hat.exists_talk
      refine ⟨huser', .settled ?_ (.givenUp htalk hinitial)⟩
      intro await hawait
      obtain rfl := Option.some.inj hawait
      rfl

theorem logged_resume (huser : c.userId = userId) (hlogged : Logged userId c log)
    (hstep : step c (.resume now later reply) = some next) :
    next.userId = userId ∧
      Logged userId next (extend log (c, .resume now later reply)) := by
  cases hlogged with
  | @running await hawait hat =>
      have hsettling := not_isSettling hat
      have hresume : (stretch now later await reply).map c.advance = some next := by
        have hresumed : c.resume now later reply = some next := hstep
        rw [Controller.resume, hawait] at hresumed
        cases await with
        | stopQuietly failure => cases hsettling
        | _ => exact hresumed
      have hextend : extend log (c, .resume now later reply) =
          log ++ .heard reply :: sentIn (c, .resume now later reply) := by
        rw [extend, hawait]
        cases await with
        | stopQuietly failure => cases hsettling
        | _ => rfl
      obtain ⟨part, hpart, rfl⟩ := Option.map_eq_some_iff.mp hresume
      rw [hextend]
      exact logged_advance huser hat hpart hstep
  | settled hsettling hfollows =>
      have hresumed : c.resume now later reply = some next := hstep
      rw [Controller.resume] at hresumed
      cases hawait : c.inFlight with
      | none =>
          rw [hawait] at hresumed
          cases hresumed
      | some await =>
          have hstop := hsettling await hawait
          cases await with
          | stopQuietly failure =>
              rw [hawait] at hresumed
              obtain rfl := Option.some.inj hresumed
              have hextend : extend log (c, .resume now later reply) = log := by
                rw [extend, hawait]
              rw [hextend]
              cases failure <;>
                exact ⟨huser, .settled (fun _ hnone => by cases hnone) hfollows⟩
          | _ => cases hstop

/-- A run that begins. -/
theorem logged_connect (huser : c.userId = userId) (hlogged : Logged userId c log) :
    c.connect.userId = userId ∧
      Logged userId c.connect (extend log (c, .connect)) := by
  cases hawait : c.inFlight with
  | some await =>
      have hjoined : c.connect = c := by
        rw [Controller.connect, hawait]
      have hextend : extend log (c, .connect) = log := by
        rw [extend, hawait]
      rw [hjoined, hextend]
      exact ⟨huser, hlogged⟩
  | none =>
      have hconnect : c.connect = { ({ c with
          cancelled := false
          cancelToken := some ⟨false⟩ }.emit
            { phase := .requestingGrant }).perform .connectRequest with
          inFlight := some .connect } := by
        rw [Controller.connect, hawait]
      have heffects : c.connect.effects = c.effects ++
          [.emitted { phase := .requestingGrant }, .connectRequest] := by
        rw [hconnect]
        simp
      have hextend : extend log (c, .connect) = [.sent .connectRequest] := by
        rw [extend, hawait]
        exact sentIn_of_effects rfl heffects
      rw [hextend, hconnect]
      exact ⟨huser, .running rfl .connect⟩

theorem logged_step (huser : c.userId = userId) (hlogged : Logged userId c log)
    (hstep : step c act = some next) :
    next.userId = userId ∧ Logged userId next (extend log (c, act)) := by
  cases act with
  | connect =>
      obtain rfl := Option.some.inj hstep
      exact logged_connect huser hlogged
  | resume now later reply => exact logged_resume huser hlogged hstep
  | cancel =>
      obtain rfl := Option.some.inj hstep
      exact ⟨huser, hlogged.of_inFlight rfl⟩
  | disconnect showClosingAd =>
      obtain rfl := Option.some.inj hstep
      exact ⟨huser, hlogged.of_inFlight rfl⟩
  | stopReturned i =>
      have hreturned : c.stopReturned i = some next := hstep
      rw [Controller.stopReturned] at hreturned
      cases hclosing : c.closing[i]? with
      | none =>
          rw [hclosing] at hreturned
          cases hreturned
      | some showClosingAd =>
          rw [hclosing] at hreturned
          obtain rfl := Option.some.inj hreturned
          cases showClosingAd <;> exact ⟨huser, hlogged.of_inFlight rfl⟩

theorem logged_run (hinit : (flow userId).init start)
    (hrun : Run (flow userId) start trace last) :
    last.userId = userId ∧ Logged userId last (runLog trace) := by
  obtain rfl : start = { userId := userId } := hinit
  induction hrun with
  | refl => exact ⟨rfl, .settled (fun _ hnone => by cases hnone) .idle⟩
  | snoc _ hlast ih =>
      rw [runLog, List.foldl_append]
      exact logged_step ih.1 ih.2 hlast

/-- Whatever cancels, disconnects and further connects come in between, and
whatever the backend, the ads, the engine and the clock do: every connection
run follows the script up to the point where it gives up, and the engine is
started at most once in it, for the granted session and with the released
config, after the required ads and at most seven verifications. -/
theorem runs_follow_script (hinit : (flow userId).init start)
    (hrun : Run (flow userId) start trace last) :
    Follows userId (runLog trace) ∧ StartsOnce userId (runLog trace) := by
  obtain ⟨-, hlogged⟩ := logged_run hinit hrun
  exact ⟨hlogged.follows, hlogged.follows.startsOnce⟩

end Runs

/-- A grant of one ad. -/
def smallGrant : ConnectResult :=
  ⟨⟨"session", "grant", "nonce", 1, 60000, none⟩, ⟨[7]⟩⟩

/-- A run that verifies too early once, with a disconnect while the tunnel
comes up. -/
def interruptedRun : List Action :=
  [.connect, .resume 0 0 (.connectResult smallGrant),
    .resume 0 0 (.presented true),
    .resume 0 0 (.threw (.appFailure (.api "" 409 (some "ads_not_verified")))),
    .resume 400 400 .delayed, .resume 400 400 (.decrypted ⟨"config", 90000⟩),
    .resume 500 500 (.consent true), .disconnect false,
    .resume 600 600 .started, .stopReturned 0]

/-- It has started the engine, as the script says. -/
theorem runs_follow_script_interrupted : ∃ last,
    Run (flow "user") { userId := "user" }
      (traceOf (flow "user") { userId := "user" } interruptedRun) last ∧
    starts (runLog (traceOf (flow "user") { userId := "user" } interruptedRun)) =
      [⟨"session", "config", 90000⟩] ∧
    Follows "user"
      (runLog (traceOf (flow "user") { userId := "user" } interruptedRun)) := by
  have hexecute : (execute (flow "user") { userId := "user" }
      interruptedRun).isSome = true := by decide
  obtain ⟨last, hlast⟩ := Option.isSome_iff_exists.mp hexecute
  have hrun := run_of_execute hlast
  exact ⟨last, hrun, by decide, (runs_follow_script rfl hrun).1⟩

end VpnMiddleware.FlowProtocol
