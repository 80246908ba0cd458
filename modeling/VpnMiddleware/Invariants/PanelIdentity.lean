import VpnMiddleware.Invariants.PanelMirror
import VpnMiddleware.System.PanelSwitch

/-!
# The panel that carries out an operation

An outbox row names a panel user and no panel, and both clients take a user
that they do not find for one that is gone.  A row can therefore succeed on a
panel that never held its user; it does not if the configuration names the same
panel when the user is created and when the row is carried out.
-/

namespace VpnMiddleware.PanelIdentity

open VpnMiddleware.Schema VpnMiddleware.Environment VpnMiddleware.Database
open VpnMiddleware.TransitionSystem VpnMiddleware.IdealPanel
open VpnMiddleware.SettingsService VpnMiddleware.DynamicPanelClient
open VpnMiddleware.Middleware VpnMiddleware.Statements VpnMiddleware.Evolution
open VpnMiddleware.Keys VpnMiddleware.Processes VpnMiddleware.ConnectFlow
open VpnMiddleware.VerifyFlow VpnMiddleware.OutboxDrainer
open VpnMiddleware.DrainFlow VpnMiddleware.PanelMirror
open VpnMiddleware.PanelSwitch (PanelId panelSwitch reaching)

/-! ## What carries an operation out -/

section Executions

variable (cfg : Config) (s : State) (act : Action)

/-- The call that a step makes, if the panel answers it without an error. -/
def confirmed : Option PanelCall :=
  match replyOf act, callOf cfg s act with
  | .ok, some call =>
      match (serve cfg.provider s.world.clock call s.world.panel).1 with
      | .ok _ => some call
      | .error _ => none
  | _, _ => none

/-- The last call of an operation. -/
def CarriesOut (kind : PanelOpKind) (payload : PanelOpPayload) :
    PanelCall → Prop
  | .deleteUser username =>
      (kind = .revokeUser ∨ kind = .deleteUser) ∧
        username = payload.panelUsername
  | .setUserExpiry username expireAt =>
      kind = .extendUser ∧ username = payload.panelUsername ∧
        payload.expireEpoch = some (expireAt / 1000)
  | _ => False

/-- The outbox row that a step works for; the inline revoke has none. -/
def worksFor : Option ℕ :=
  match act with
  | .drain i _ => s.drains[i]?.map fun proc => proc.row.id
  | .verify i _ => s.verifies[i]?.bind fun proc =>
      proc.stage.extension.map Extension.opId
  | _ => none

/-- The panel confirms the last call of an outbox row. -/
def Executes (opId : ℕ) (kind : PanelOpKind) (payload : PanelOpPayload) :
    Prop :=
  (∃ call ∈ confirmed cfg s act, CarriesOut kind payload call) ∧
    (worksFor s act = some opId ∨ worksFor s act = none)

end Executions

instance (kind : PanelOpKind) (payload : PanelOpPayload) :
    DecidablePred (CarriesOut kind payload)
  | .deleteUser _ => inferInstanceAs (Decidable (_ ∧ _))
  | .setUserExpiry _ _ => inferInstanceAs (Decidable (_ ∧ _ ∧ _))
  | .createUser _ | .getUser _ | .disableUser _ =>
      inferInstanceAs (Decidable False)

instance (cfg : Config) (s : State) (act : Action) (opId : ℕ)
    (kind : PanelOpKind) (payload : PanelOpPayload) :
    Decidable (Executes cfg s act opId kind payload) :=
  inferInstanceAs (Decidable (_ ∧ _))

variable {cfg : Config} {s s' : State} {act : Action}

theorem confirmed_eq_some {call : PanelCall} :
    confirmed cfg s act = some call ↔
      replyOf act = .ok ∧ callOf cfg s act = some call ∧
        ∃ account, (serve cfg.provider s.world.clock call s.world.panel).1 =
          .ok account := by
  rw [confirmed]
  constructor
  · intro hconfirmed
    split at hconfirmed
    · next made hreply hcall =>
        split at hconfirmed
        · next account hserve =>
            obtain rfl := Option.some.inj hconfirmed
            exact ⟨hreply, hcall, account, hserve⟩
        · simp at hconfirmed
    · simp at hconfirmed
  · rintro ⟨hreply, hcall, account, hserve⟩
    simp only [hreply, hcall, hserve]

theorem confirmed_of_deletedBy {username : String}
    (hdeleted : deletedBy cfg s act = some username) :
    confirmed cfg s act = some (.deleteUser username) := by
  obtain ⟨hreply, hcall⟩ := deletedBy_eq_some.mp hdeleted
  exact confirmed_eq_some.mpr ⟨hreply, hcall, none, rfl⟩

/-- A drainer goes on to `complete` by the last call of its row. -/
theorem executes_of_drainStep {i : ℕ} {reply : Reply} {proc : DrainProc}
    (hproc : s.drains[i]? = some proc)
    (hdeleting : proc.stage = .delete → proc.row.op = .revokeUser)
    (hdrain : DrainStep cfg s.world reply proc.row proc.stage .complete) :
    Executes cfg s (.drain i reply) proc.row.id proc.row.op
      proc.row.payload := by
  have hworks : worksFor s (.drain i reply) = some proc.row.id := by
    simp [worksFor, hproc]
  by_cases hop : proc.row.op = .revokeUser ∨ proc.row.op = .deleteUser
  · have hdeleted := DrainStep.deletes hproc hdrain hop
    exact ⟨⟨_, confirmed_of_deletedBy hdeleted, hop, rfl⟩, Or.inl hworks⟩
  · obtain ⟨row, stage, queue⟩ := proc
    dsimp only at hdeleting hdrain hop hworks ⊢
    generalize hlast : DrainStage.complete = last at hdrain
    cases hdrain with
    | @extended epoch account hkind hepoch hpositive hreply hserve =>
        obtain ⟨before, rfl⟩ := Nat.exists_eq_succ_of_ne_zero hpositive
        have hcall : callOf cfg s (.drain i reply) = some (.setUserExpiry
            row.payload.panelUsername ((before + 1) * 1000)) := by
          simp [callOf, hproc, drainCall, dispatchCall, hkind, hepoch]
        refine ⟨⟨_, confirmed_eq_some.mpr ⟨hreply, hcall, account, hserve⟩,
          hkind, rfl, ?_⟩, Or.inl hworks⟩
        rw [hepoch, Nat.mul_div_cancel _ (by decide)]
    | deleted hkind _ => exact absurd (Or.inr hkind) hop
    | revoked _ => exact absurd (Or.inl (hdeleting rfl)) hop
    | _ => simp at hlast

/-- The inline push goes on to `recordPushed` by the call of its row. -/
theorem executes_of_push {i : ℕ} {reply : Reply} {proc : VerifyProc}
    {ext : Extension} (hproc : s.verifies[i]? = some proc)
    (hpush : VerifyStep cfg s.world reply proc.stage (.recordPushed ext)) :
    Executes cfg s (.verify i reply) ext.opId .extendUser
      { panelUsername := ext.panelUsername
        expireEpoch := some (ext.newExpires / 1000) } := by
  obtain ⟨hstage, hreply, account, hserve⟩ := hpush.recordPushed
  have hcall : callOf cfg s (.verify i reply) =
      some (.setUserExpiry ext.panelUsername ext.newExpires) := by
    simp [callOf, hproc, verifyCall, hstage]
  have hworks : worksFor s (.verify i reply) = some ext.opId := by
    simp [worksFor, hproc, hstage, VerifyStage.extension]
  exact ⟨⟨_, confirmed_eq_some.mpr ⟨hreply, hcall, account, hserve⟩, rfl, rfl,
    rfl⟩, Or.inl hworks⟩

/-! ## Successes have been carried out -/

/-- What has succeeded, or is about to be recorded so, belongs to the past. -/
structure Backed (Past : ℕ → PanelOpKind → PanelOpPayload → Prop) (s : State) :
    Prop where
  completing : ∀ proc ∈ s.drains, proc.stage = .complete →
    Past proc.row.id proc.row.op proc.row.payload
  marking : ∀ provision username rest, .provisioning provision ∈ s.connects →
    provision.stage = .revoke .mark username rest → ∀ opId payload,
      payload.panelUsername = username → Past opId .revokeUser payload
  pushing : ∀ proc ∈ s.verifies, ∀ ext, proc.stage = .recordPushed ext →
    Past ext.opId .extendUser
      { panelUsername := ext.panelUsername
        expireEpoch := some (ext.newExpires / 1000) }
  succeeded : ∀ op ∈ s.world.db.panelOps, op.status = .succeeded →
    Past op.id op.op op.payload

theorem backed_initial (hinit : Middleware.IsInitial s)
    (Past : ℕ → PanelOpKind → PanelOpPayload → Prop) : Backed Past s where
  completing := by simp [hinit.drains]
  marking := by simp [hinit.connects]
  pushing := by simp [hinit.verifies]
  succeeded := by simp [hinit.panelOps]

section Step

variable {Past Past' : ℕ → PanelOpKind → PanelOpPayload → Prop}
variable (hattached : Attached s) (hbacked : Backed Past s)
variable (hstep : step cfg s act = some s')
variable (hkeeps : ∀ opId kind payload, Past opId kind payload →
  Past' opId kind payload)
variable (hadds : ∀ opId kind payload, Executes cfg s act opId kind payload →
  Past' opId kind payload)
include hattached hbacked hstep hkeeps hadds

theorem completing_step (proc : DrainProc) (hmem : proc ∈ s'.drains)
    (hstage : proc.stage = .complete) :
    Past' proc.row.id proc.row.op proc.row.payload := by
  rcases drains_step hstep hmem with
    hold | ⟨_, -, hdispatch, -⟩ | ⟨i, reply, old, rfl, hproc, hresumed⟩
  · exact hkeeps _ _ _ (hbacked.completing proc hold hstage)
  · simp [hdispatch] at hstage
  · rcases hresumed with ⟨hrows, hdrain⟩ | ⟨-, hdispatch⟩
    · rw [(List.cons.inj hrows).1]
      rw [hstage] at hdrain
      have hdeleting := hattached.deleting old (List.mem_of_getElem? hproc)
      exact hadds _ _ _ (executes_of_drainStep hproc hdeleting hdrain)
    · simp [hdispatch] at hstage

omit hattached in
theorem marking_step (provision : Provision) (username : String)
    (rest : List String) (hmem : .provisioning provision ∈ s'.connects)
    (hstage : provision.stage = .revoke .mark username rest) (opId : ℕ)
    (payload : PanelOpPayload) (hpayload : payload.panelUsername = username) :
    Past' opId .revokeUser payload := by
  rcases mark_backward hstep hmem hstage with
    hold | ⟨hdeleted, i, draw, reply, old, rfl, -, -⟩
  · exact hkeeps _ _ _ (hbacked.marking provision username rest hold hstage opId
      payload hpayload)
  · apply hadds
    exact ⟨⟨_, confirmed_of_deletedBy hdeleted, Or.inl rfl, hpayload.symm⟩,
      Or.inr rfl⟩

omit hattached in
theorem pushing_step (proc : VerifyProc) (hmem : proc ∈ s'.verifies)
    (ext : Extension) (hstage : proc.stage = .recordPushed ext) :
    Past' ext.opId .extendUser
      { panelUsername := ext.panelUsername
        expireEpoch := some (ext.newExpires / 1000) } := by
  rcases verifies_step hstep hmem with
    hold | ⟨_, _, -, -, hstarts⟩ | ⟨i, reply, old, rfl, hproc, -, hpush⟩
  · exact hkeeps _ _ _ (hbacked.pushing proc hold ext hstage)
  · rw [hstage] at hstarts
    cases hstarts
  · rw [hstage] at hpush
    exact hadds _ _ _ (executes_of_push hproc hpush)

theorem succeeded_step (op' : PanelOp) (hmem : op' ∈ s'.world.db.panelOps)
    (hstatus : op'.status = .succeeded) : Past' op'.id op'.op op'.payload := by
  have hkeyed := hattached.keyed
  apply hkeeps
  rcases (step_effects hkeyed hstep).panelOps.backward hmem with
    ⟨op, hop, hchange⟩ | ⟨added, hadded, hnew⟩
  · cases hchange with
    | same => exact hbacked.succeeded op' hop hstatus
    | leased _ => simp [lease] at hstatus
    | @completed i reply proc _ hproc hstage hid _ =>
        have hdrain := List.mem_of_getElem? hproc
        obtain ⟨other, hother, hotherId, hkind, hpayload⟩ :=
          hattached.drains proc hdrain proc.row (List.mem_cons_self ..)
        obtain rfl := hkeyed.eq_of_opId hother hop (hotherId.trans hid.symm)
        have hpast := hbacked.completing proc hdrain hstage
        rw [← hid, ← hkind, ← hpayload] at hpast
        exact hpast
    | @marked i draw reply provision rest _ hproc hstage hkind _ =>
        have hpast := hbacked.marking provision _ rest
          (List.mem_of_getElem? hproc) hstage op.id op.payload rfl
        rw [← hkind] at hpast
        exact hpast
    | @pushed i reply proc ext _ hproc hstage hid =>
        have hverify := List.mem_of_getElem? hproc
        obtain ⟨other, hother, hotherId, hkind, hpayload⟩ :=
          ((hattached.verifies proc hverify).extension ext
            (by rw [hstage]; rfl)).op
        obtain rfl := hkeyed.eq_of_opId hother hop (hotherId.trans hid.symm)
        have hpast := hbacked.pushing proc hverify ext hstage
        rw [← hid, ← hkind, ← hpayload] at hpast
        exact hpast
    | pushFailed _ _ _ => simp at hstatus
    | @dispatchFailed i reply proc _ cause _ _ _ _ =>
        by_cases hdead : isDead cfg proc.row cause = true <;>
          simp [hdead] at hstatus
  · exact absurd hstatus (hadded.pending hnew ▸ by simp)

theorem backed_step : Backed Past' s' where
  completing := completing_step hattached hbacked hstep hkeeps hadds
  marking := marking_step hbacked hstep hkeeps hadds
  pushing := pushing_step hbacked hstep hkeeps hadds
  succeeded := succeeded_step hattached hbacked hstep hkeeps hadds

end Step

theorem Backed.mono {Past Past' : ℕ → PanelOpKind → PanelOpPayload → Prop}
    (hbacked : Backed Past s) (hkeeps : ∀ opId kind payload,
      Past opId kind payload → Past' opId kind payload) : Backed Past' s where
  completing := fun proc hmem hstage =>
    hkeeps _ _ _ (hbacked.completing proc hmem hstage)
  marking := fun provision username rest hmem hstage opId payload hpayload =>
    hkeeps _ _ _ (hbacked.marking provision username rest hmem hstage opId
      payload hpayload)
  pushing := fun proc hmem ext hstage =>
    hkeeps _ _ _ (hbacked.pushing proc hmem ext hstage)
  succeeded := fun op hmem hstatus =>
    hkeeps _ _ _ (hbacked.succeeded op hmem hstatus)

/-! ## Panels that come and go -/

section Panels

variable (env : PanelEnv) (cfg : Config) (defines : ClientCall → Bool)

/-- A state of the system with several panels, and the action taken there. -/
abbrev Entry := PanelSwitch.State × PanelSwitch.Action

/-- The user that a step creates, and the panel. -/
def createdOn (entry : Entry) : Option (PanelId × String) :=
  match entry.2 with
  | .setPanelConfig _ => none
  | .core act => (reaching env cfg defines entry.1 act).bind fun panel =>
      (createdUser cfg entry.1.core act).map fun username => (panel, username)

/-- The last call of an operation that a step makes, confirmed by the panel. -/
def carriedOutOn (entry : Entry) : Option (PanelId × PanelCall) :=
  match entry.2 with
  | .setPanelConfig _ => none
  | .core act => (reaching env cfg defines entry.1 act).bind fun panel =>
      (confirmed { cfg with provider := panel.provider }
        (entry.1.facing panel) act).map fun call => (panel, call)

/-- The panel confirms the last call of an outbox row. -/
def ExecutesOn (entry : Entry) (panel : PanelId) (opId : ℕ)
    (kind : PanelOpKind) (payload : PanelOpPayload) : Prop :=
  match entry.2 with
  | .setPanelConfig _ => False
  | .core act => reaching env cfg defines entry.1 act = some panel ∧
      Executes { cfg with provider := panel.provider } (entry.1.facing panel)
        act opId kind payload

/-- Every outbox row that has succeeded was carried out on the panel on which
its user was created. -/
def ExecutedAtHome (trace : List Entry) (last : PanelSwitch.State) : Prop :=
  ∀ op ∈ last.core.world.db.panelOps, op.status = .succeeded →
    ∀ created ∈ trace, ∀ home,
      createdOn env cfg defines created =
        some (home, op.payload.panelUsername) →
      ∃ entry ∈ trace,
        ExecutesOn env cfg defines entry home op.id op.op op.payload

/-- The user of a call that carries an operation out. -/
def userOf : PanelCall → Option String
  | .deleteUser username => some username
  | .setUserExpiry username _ => some username
  | _ => none

/-- `panel_config` names the same panel when a user is created and whenever a
panel confirms the last call of an operation on that user. -/
def KeepsPanel (trace : List Entry) : Prop :=
  ∀ created ∈ trace, ∀ home ∈ createdOn env cfg defines created,
    ∀ entry ∈ trace, ∀ made ∈ carriedOutOn env cfg defines entry,
      userOf made.2 = some home.2 →
      PanelSwitch.configured env created.1.panelConfig =
        PanelSwitch.configured env entry.1.panelConfig

end Panels

instance (env : PanelEnv) (cfg : Config) (defines : ClientCall → Bool)
    (entry : Entry) (panel : PanelId) (opId : ℕ) (kind : PanelOpKind)
    (payload : PanelOpPayload) :
    Decidable (ExecutesOn env cfg defines entry panel opId kind payload) :=
  match entry with
  | (_, .setPanelConfig _) => inferInstanceAs (Decidable False)
  | (_, .core _) => inferInstanceAs (Decidable (_ ∧ _))

instance (env : PanelEnv) (cfg : Config) (defines : ClientCall → Bool)
    (trace : List Entry) : Decidable (KeepsPanel env cfg defines trace) :=
  inferInstanceAs (Decidable (∀ created ∈ trace,
    ∀ home ∈ createdOn env cfg defines created, ∀ entry ∈ trace,
      ∀ made ∈ carriedOutOn env cfg defines entry,
        userOf made.2 = some home.2 → _ = _))

section Switches

variable {env : PanelEnv} {defines : ClientCall → Bool}
variable {before after start last : PanelSwitch.State} {trace : List Entry}
variable {action : PanelSwitch.Action}

theorem carriedOutOn_of_executesOn {entry : Entry} {panel : PanelId} {opId : ℕ}
    {kind : PanelOpKind} {payload : PanelOpPayload}
    (hexecutes : ExecutesOn env cfg defines entry panel opId kind payload) :
    PanelSwitch.configured env entry.1.panelConfig = .ok panel ∧
      ∃ call, carriedOutOn env cfg defines entry = some (panel, call) ∧
        userOf call = some payload.panelUsername := by
  obtain ⟨state, action⟩ := entry
  cases action with
  | setPanelConfig value => exact absurd hexecutes id
  | core act =>
      obtain ⟨hreaching, ⟨call, hconfirmed, hcarries⟩, -⟩ := hexecutes
      refine ⟨PanelSwitch.configured_of_reaching hreaching, call, ?_, ?_⟩
      · have hcall : confirmed { cfg with provider := panel.provider }
          (state.facing panel) act = some call := hconfirmed
        simp only [carriedOutOn, hreaching, Option.bind_some, hcall,
          Option.map_some]
      · cases call with
        | deleteUser username => exact congrArg some hcarries.2
        | setUserExpiry username expireAt => exact congrArg some hcarries.2.1
        | _ => exact absurd hcarries id

theorem configured_of_createdOn {entry : Entry} {home : PanelId}
    {username : String}
    (hcreated : createdOn env cfg defines entry = some (home, username)) :
    PanelSwitch.configured env entry.1.panelConfig = .ok home := by
  obtain ⟨state, action⟩ := entry
  cases action with
  | setPanelConfig value => simp [createdOn] at hcreated
  | core act =>
      obtain ⟨panel, hreaching, hcreated⟩ := Option.bind_eq_some_iff.mp hcreated
      obtain ⟨_, -, heq⟩ := Option.map_eq_some_iff.mp hcreated
      obtain ⟨rfl, -⟩ := Prod.mk.inj heq
      exact PanelSwitch.configured_of_reaching hreaching

/-! ### The processes and the panels -/

/-- The processes know what they work on, and no panel has a user without a
session. -/
structure Held (s : PanelSwitch.State) : Prop where
  core : Attached s.core
  panels : ∀ panel username account, s.panels panel username = some account →
    ∃ row ∈ s.core.world.db.sessions, row.panelUsername = username

theorem Held.facing (hheld : Held before) (panel : PanelId) :
    Attached (before.facing panel) where
  keyed := hheld.core.keyed
  connects := hheld.core.connects
  verifies := hheld.core.verifies
  drains := hheld.core.drains
  deleting := hheld.core.deleting
  consumed := hheld.core.consumed
  extensions := hheld.core.extensions
  reclaimed := hheld.core.reclaimed
  panel := hheld.panels panel

/-- Sessions stay, so the users of a panel that a step leaves alone have
them. -/
theorem exists_session_of_grows (hheld : Held before)
    (hgrows : Grows before.core.world.db after.core.world.db) {panel : PanelId}
    {username : String} {account : Account}
    (haccount : before.panels panel username = some account) :
    ∃ row ∈ after.core.world.db.sessions, row.panelUsername = username := by
  obtain ⟨row, hrow, husername⟩ := hheld.panels panel username account haccount
  obtain ⟨row', hrow', hsame, -⟩ := hgrows.sessions row hrow
  exact ⟨row', hrow', hsame.panelUsername.trans husername⟩

theorem held_step (hheld : Held before)
    (hstep : PanelSwitch.step env cfg defines before action = some after) :
    Held after := by
  cases action with
  | setPanelConfig value =>
      obtain rfl := Option.some.inj hstep
      exact ⟨hheld.core, hheld.panels⟩
  | core act =>
      cases PanelSwitch.coreStep hstep with
      | reached panel _ hcore hpanels =>
          have hattached := attached_step (hheld.facing panel) hcore
          refine ⟨hattached, fun other username account haccount => ?_⟩
          rw [hpanels] at haccount
          by_cases hother : other = panel
          · subst hother
            rw [Function.update_self] at haccount
            exact hattached.panel username account haccount
          · rw [Function.update_of_ne hother] at haccount
            have hgrows := grows_step (hheld.facing panel).keyed hcore
            exact exists_session_of_grows hheld hgrows haccount
      | refused _ _ hcore hpanels =>
          refine ⟨attached_step hheld.core hcore, fun _ _ _ haccount => ?_⟩
          rw [hpanels] at haccount
          exact exists_session_of_grows hheld
            (grows_step hheld.core.keyed hcore) haccount
      | silent _ hcore hpanels =>
          refine ⟨attached_step hheld.core hcore, fun _ _ _ haccount => ?_⟩
          rw [hpanels] at haccount
          exact exists_session_of_grows hheld
            (grows_step hheld.core.keyed hcore) haccount

theorem confirmed_refused (cause : Errors.Failure)
    (hcall : callOf cfg s act ≠ none) :
    confirmed cfg s (PanelSwitch.refused cause act) = none := by
  cases act with
  | connect i draw reply => rfl
  | verify i reply => rfl
  | drain i reply => rfl
  | _ => simp [callOf] at hcall

theorem confirmed_silent (hcall : callOf cfg s act = none) :
    confirmed cfg s act = none := by
  rw [confirmed]
  rw [hcall]
  cases replyOf act <;> rfl

/-! ### Over runs -/

/-- Some panel has confirmed the last call of the row. -/
def Past (env : PanelEnv) (cfg : Config) (defines : ClientCall → Bool)
    (trace : List Entry) (opId : ℕ) (kind : PanelOpKind)
    (payload : PanelOpPayload) : Prop :=
  ∃ entry ∈ trace, ∃ panel,
    ExecutesOn env cfg defines entry panel opId kind payload

theorem past_append {opId : ℕ} {kind : PanelOpKind} {payload : PanelOpPayload}
    (entry : Entry) (hpast : Past env cfg defines trace opId kind payload) :
    Past env cfg defines (trace ++ [entry]) opId kind payload := by
  obtain ⟨other, hother, hexecutes⟩ := hpast
  exact ⟨other, List.mem_append_left _ hother, hexecutes⟩

theorem backed_switch (hheld : Held before)
    (hbacked : Backed (Past env cfg defines trace) before.core)
    (hstep : PanelSwitch.step env cfg defines before action = some after) :
    Backed (Past env cfg defines (trace ++ [(before, action)])) after.core := by
  have hkeeps := fun opId kind payload =>
    @past_append cfg env defines trace opId kind payload (before, action)
  cases action with
  | setPanelConfig value =>
      obtain rfl := Option.some.inj hstep
      exact hbacked.mono hkeeps
  | core act =>
      cases PanelSwitch.coreStep hstep with
      | reached panel hreaching hcore _ =>
          have hfacing : Backed (Past env cfg defines trace)
              (before.facing panel) :=
            ⟨hbacked.completing, hbacked.marking, hbacked.pushing,
              hbacked.succeeded⟩
          apply backed_step (hheld.facing panel) hfacing hcore hkeeps
          intro opId kind payload hexecutes
          exact ⟨(before, .core act), by simp, panel, hreaching, hexecutes⟩
      | refused cause hcall hcore _ =>
          apply backed_step hheld.core hbacked hcore hkeeps
          rintro opId kind payload ⟨⟨call, hconfirmed, -⟩, -⟩
          simp [confirmed_refused cause hcall] at hconfirmed
      | silent hcall hcore _ =>
          apply backed_step hheld.core hbacked hcore hkeeps
          rintro opId kind payload ⟨⟨call, hconfirmed, -⟩, -⟩
          simp [confirmed_silent hcall] at hconfirmed

/-- Whatever the configuration was, a row that has succeeded was carried out on
some panel. -/
theorem backed_run (hinit : PanelSwitch.IsInitial start)
    (hrun : Run (panelSwitch env cfg defines) start trace last) :
    Backed (Past env cfg defines trace) last.core := by
  have hstart : Held start :=
    ⟨attached_initial hinit.core, by simp [hinit.panels]⟩
  have hboth : Held last ∧ Backed (Past env cfg defines trace) last.core := by
    apply @Run.induction_on _ _ _ _ _ _ (fun trace state =>
      Held state ∧ Backed (Past env cfg defines trace) state.core) hrun
    · exact ⟨hstart, backed_initial hinit.core _⟩
    · rintro trace state action next ⟨hheld, hbacked⟩ hstep
      exact ⟨held_step hheld hstep, backed_switch hheld hbacked hstep⟩
  exact hboth.2

/-- Operations succeed on the panel that holds their user as long as
`panel_config` names that panel whenever one is carried out. -/
theorem executed_at_home (hinit : PanelSwitch.IsInitial start)
    (hrun : Run (panelSwitch env cfg defines) start trace last)
    (hkeeps : KeepsPanel env cfg defines trace) :
    ExecutedAtHome env cfg defines trace last := by
  intro op hop hstatus created hcreated home hhome
  obtain ⟨entry, hentry, panel, hexecutes⟩ :=
    (backed_run hinit hrun).succeeded op hop hstatus
  obtain ⟨hpanel, call, hmade, huser⟩ := carriedOutOn_of_executesOn hexecutes
  have hsame := hkeeps created hcreated _ hhome entry hentry _ hmade huser
  rw [configured_of_createdOn hhome, hpanel] at hsame
  obtain rfl := Except.ok.inj hsame
  exact ⟨entry, hentry, hexecutes⟩

end Switches

/-! ## Two panels -/

/-- The panel that the environment names. -/
def firstEnv : PanelEnv where
  panelBaseUrl := some "https://first"

def firstPanel : PanelId := ⟨.rebecca, "https://first"⟩

/-- The configuration of another panel of the same kind. -/
def secondConfig : PanelConfigValue where
  json := .obj [("provider", .str "rebecca"),
    ("rebecca", .obj [("baseUrl", .str "https://second")])]
  config := ⟨some "rebecca", some { baseUrl := some "https://second" }, none⟩
  typed := rfl

def twoPanels : PanelSwitch.State := { core := smallDeployment }

theorem isInitial_twoPanels : PanelSwitch.IsInitial twoPanels :=
  ⟨isInitial_smallDeployment, fun _ _ => rfl⟩

/-- The middleware as it is deployed, with the proxy's own methods. -/
abbrev deployed : TransitionSystem.System PanelSwitch.State PanelSwitch.Action :=
  panelSwitch firstEnv {} PanelSwitch.proxyDefines

/-- A connect creates its user, fails on a method that the proxy lacks and
queues the deletion. -/
def abandonedConnect : List PanelSwitch.Action :=
  (smallConnect ++ List.replicate 5 (Action.connect 0 smallDraw .ok)).map .core

/-- The drainer deletes the user. -/
def drainDeletion : List PanelSwitch.Action :=
  [.core (.claim []), .core (.drain 0 .ok), .core (.drain 0 .ok)]

theorem executed_at_home_unswitched : ∃ trace last,
    Run deployed twoPanels trace last ∧
    (∃ op ∈ last.core.world.db.panelOps, op.status = .succeeded) ∧
    ExecutedAtHome firstEnv {} PanelSwitch.proxyDefines trace last := by
  obtain ⟨last, hrun, hsucceeded⟩ := @exists_run_with _ _ deployed twoPanels
    (abandonedConnect ++ drainDeletion)
    (fun last => ∃ op ∈ last.core.world.db.panelOps, op.status = .succeeded) _
    (by decide +kernel)
  exact ⟨_, last, hrun, hsucceeded,
    executed_at_home isInitial_twoPanels hrun (by decide +kernel)⟩

/-- The configuration is changed before the drainer's turn. -/
def switchBeforeDrain : List PanelSwitch.Action :=
  abandonedConnect ++ .setPanelConfig secondConfig :: drainDeletion

/-- The deletion succeeds on a panel without such a user, and the user of the
first panel may still connect. -/
theorem deleted_on_other_panel : PanelSwitch.IsInitial twoPanels ∧
    ∃ trace last, Run deployed twoPanels trace last ∧
      ¬ ExecutedAtHome firstEnv {} PanelSwitch.proxyDefines trace last ∧
      ∃ op ∈ last.core.world.db.panelOps, op.status = .succeeded ∧
        (last.panels firstPanel op.payload.panelUsername).any
          Account.enabled = true := by
  have htest := @exists_run_with _ _ deployed twoPanels switchBeforeDrain
    (fun last => ∃ op ∈ last.core.world.db.panelOps, op.status = .succeeded ∧
      (last.panels firstPanel op.payload.panelUsername).any
        Account.enabled = true ∧
      (∃ created ∈ traceOf deployed twoPanels switchBeforeDrain,
        createdOn firstEnv {} PanelSwitch.proxyDefines created =
          some (firstPanel, op.payload.panelUsername)) ∧
      ∀ entry ∈ traceOf deployed twoPanels switchBeforeDrain,
        ¬ ExecutesOn firstEnv {} PanelSwitch.proxyDefines entry firstPanel
          op.id op.op op.payload) _ (by decide +kernel)
  obtain ⟨last, hrun, op, hop, hstatus, henabled, ⟨created, hcreated, hhome⟩,
    hnever⟩ := htest
  refine ⟨isInitial_twoPanels, _, last, hrun, ?_, op, hop, hstatus, henabled⟩
  intro hexecuted
  obtain ⟨entry, hentry, hexecutes⟩ :=
    hexecuted op hop hstatus created hcreated firstPanel hhome
  exact hnever entry hentry hexecutes

end VpnMiddleware.PanelIdentity
