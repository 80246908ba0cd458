import VpnMiddleware.Invariants.Processes

/-!
# Panel users of dead sessions

A panel user whose session is no longer live is one whose deletion is still to
come: a connect goes on to delete it, or an outbox row for it waits to be
dispatched.  Only a late `createUser` breaks this.
-/

namespace VpnMiddleware.PanelMirror

open VpnMiddleware.Schema VpnMiddleware.Environment VpnMiddleware.Database
open VpnMiddleware.Transaction VpnMiddleware.Table VpnMiddleware.Closing
open VpnMiddleware.TransitionSystem VpnMiddleware.IdealPanel
open VpnMiddleware.Shared VpnMiddleware.Middleware VpnMiddleware.Statements
open VpnMiddleware.Evolution VpnMiddleware.Keys VpnMiddleware.Processes
open VpnMiddleware.ConnectionService VpnMiddleware.ConnectFlow
open VpnMiddleware.VerifyFlow VpnMiddleware.OutboxDrainer
open VpnMiddleware.AdsService
open VpnMiddleware.DrainFlow

variable {cfg : Config} {s s' : State} {act : Action} {username : String}

/-- No connect crashes, and every call and statement of a connect or a drainer
succeeds. -/
def Smooth : Action → Prop
  | .connect _ _ reply | .drain _ reply => reply = .ok
  | .crashConnect _ => False
  | _ => True

instance (act : Action) : Decidable (Smooth act) := by
  cases act <;> unfold Smooth <;> infer_instance

/-! ## Deletions to come -/

/-- The panel users that a connect goes on to delete, itself or by an outbox
row that it queues. -/
def reclaiming : ConnectProc → List String
  | .provisioning provision =>
      match provision.stage with
      | .revoke .mark _ rest => rest
      | .revoke _ username rest => username :: rest
      | .failEnqueue => [provision.tx.panelUsername]
      | _ => []
  | _ => []

/-- The user whose outbox rows a connect marks as succeeded next. -/
def marking : ConnectProc → Option String
  | .provisioning provision =>
      match provision.stage with
      | .revoke .mark username _ => some username
      | _ => none
  | _ => none

/-- An outbox row whose dispatch still deletes the user: no drainer and no
connect is about to mark it as done. -/
structure AwaitsDispatch (s : State) (username : String) (op : PanelOp) :
    Prop where
  reclaims : Reclaims username op
  unsettled : op.status = .pending ∨ op.status = .failed ∨ op.status = .inFlight
  dispatched : ∀ proc ∈ s.drains, proc.stage = .complete → proc.row.id ≠ op.id
  marked : op.op = .revokeUser → op.status = .pending →
    ∀ proc ∈ s.connects, marking proc ≠ some username

def DeleteToCome (s : State) (username : String) : Prop :=
  (∃ proc ∈ s.connects, username ∈ reclaiming proc) ∨
    ∃ op ∈ s.world.db.panelOps, AwaitsDispatch s username op

/-- The session of a panel user is live, or the user is to be deleted. -/
def Mirrored (s : State) (username : String) : Prop :=
  ∃ row ∈ s.world.db.sessions, row.panelUsername = username ∧
    (row.status.isLive = true ∨ DeleteToCome s username)

/-- The panel user that an action creates. -/
def createdUser (cfg : Config) (s : State) (act : Action) : Option String :=
  match (replyOf act).applies, callOf cfg s act with
  | true, some (.createUser params) => some params.username
  | _, _ => none

/-- A panel user is created only while its session is live or its deletion is
still to come. -/
def CreatesInTime (cfg : Config) (s : State) (act : Action) : Prop :=
  ∀ username ∈ createdUser cfg s act, Mirrored s username

section Decidable

variable (s : State) (username : String)

instance (op : PanelOp) : Decidable (AwaitsDispatch s username op) :=
  decidable_of_iff (Reclaims username op ∧
      (op.status = .pending ∨ op.status = .failed ∨ op.status = .inFlight) ∧
      (∀ proc ∈ s.drains, proc.stage = .complete → proc.row.id ≠ op.id) ∧
      (op.op = .revokeUser → op.status = .pending →
        ∀ proc ∈ s.connects, marking proc ≠ some username))
    ⟨fun ⟨hreclaims, hunsettled, hdispatched, hmarked⟩ =>
        ⟨hreclaims, hunsettled, hdispatched, hmarked⟩,
      fun hawaits => ⟨hawaits.reclaims, hawaits.unsettled,
        hawaits.dispatched, hawaits.marked⟩⟩

instance : Decidable (DeleteToCome s username) :=
  inferInstanceAs (Decidable (_ ∨ _))

instance : Decidable (Mirrored s username) :=
  inferInstanceAs (Decidable (∃ row ∈ s.world.db.sessions,
    row.panelUsername = username ∧
      (row.status.isLive = true ∨ DeleteToCome s username)))

instance (cfg : Config) (act : Action) : Decidable (CreatesInTime cfg s act) :=
  inferInstanceAs (Decidable (∀ username ∈ createdUser cfg s act,
    Mirrored s username))

end Decidable

/-! ## What the processes in flight refer to -/

theorem marking_eq_some {proc : ConnectProc} (hmarking : marking proc = some username) :
    ∃ provision rest, proc = .provisioning provision ∧
      provision.stage = .revoke .mark username rest := by
  simp only [marking] at hmarking
  split at hmarking
  · next provision =>
      split at hmarking
      · next other rest hstage =>
          obtain rfl := Option.some.inj hmarking
          exact ⟨provision, rest, rfl, hstage⟩
      · simp at hmarking
  · simp at hmarking

/-- In smooth steps only extensions and unknown operations fail. -/
def FailsExtensions (s : State) : Prop :=
  ∀ proc ∈ s.drains, ∀ cause, proc.stage = .recordFailed cause →
    proc.row.op = .extendUser ∨ proc.row.op = .createUser

theorem failsExtensions_step (hfails : FailsExtensions s) (hsmooth : Smooth act)
    (hstep : step cfg s act = some s') : FailsExtensions s' := by
  intro proc hmem cause hstage
  rcases drains_step hstep hmem with
    hold | ⟨_, -, hdispatch, -⟩ | ⟨i, reply, old, rfl, hproc, hresumed⟩
  · exact hfails proc hold cause hstage
  · simp [hdispatch] at hstage
  · rcases hresumed with ⟨hrows, hdrain⟩ | ⟨-, hdispatch⟩
    · obtain ⟨hrow, -⟩ := List.cons.inj hrows
      rw [hstage] at hdrain
      rw [hrow]
      exact hdrain.failure.resolve_left (not_not_intro hsmooth)
    · simp [hdispatch] at hstage

section Step

variable (hattached : Attached s) (hstep : step cfg s act = some s')
include hattached hstep

/-- No connect is about to mark the user of a session that was live. -/
theorem not_marking_live {row : Session} (hrow : row ∈ s.world.db.sessions)
    (hlive : row.status.isLive = true) {proc : ConnectProc}
    (hproc : proc ∈ s'.connects) : marking proc ≠ some row.panelUsername := by
  intro hmarking
  obtain ⟨provision, rest, rfl, hstage⟩ := marking_eq_some hmarking
  have hdisplaced : ∀ old, .provisioning old ∈ s.connects →
      row.panelUsername ∉ old.stage.revoking := by
    intro old hold hrevoking
    obtain ⟨other, hother, husername, hdead⟩ :=
      (hattached.connects old hold).displaced _ hrevoking
    rw [eq_of_key hattached.keyed.usernames hother hrow husername, hlive] at hdead
    simp at hdead
  rcases mark_backward hstep hproc hstage with
    hold | ⟨-, _, _, _, old, -, hold, hbefore⟩
  · exact hdisplaced provision hold (by simp [hstage, ProvisionStage.revoking])
  · exact hdisplaced old hold (by simp [hbefore, ProvisionStage.revoking])

/-- The row that is queued when a live session is closed awaits its
dispatch. -/
theorem awaits_of_queued {row : Session} (hrow : row ∈ s.world.db.sessions)
    (hlive : row.status.isLive = true) {op : PanelOp}
    (hqueued : QueuedFor s s'.world.db row.panelUsername op) :
    DeleteToCome s' row.panelUsername := by
  refine Or.inr ⟨op, hqueued.mem, hqueued.reclaims, Or.inl hqueued.pending, ?_, ?_⟩
  · intro proc hmem hstage hid
    have hle := rowId_le_of_complete hattached hstep hmem hstage
    have hfresh := hqueued.fresh
    omega
  · intro _ _ proc hproc
    exact not_marking_live hattached hstep hrow hlive hproc

/-! ## A deletion stays to come until it happens -/

/-- Only a confirmed deletion settles an outbox row that awaits its
dispatch. -/
theorem unsettled_step (hfails : FailsExtensions s) {op op' : PanelOp}
    (hop : op ∈ s.world.db.panelOps) (hchange : OpChange cfg s act op op')
    (hawaits : AwaitsDispatch s username op) :
    op'.status = .pending ∨ op'.status = .failed ∨ op'.status = .inFlight := by
  have hkeyed := hattached.keyed
  have hkind : op.op ≠ .extendUser ∧ op.op ≠ .createUser := by
    rcases hawaits.reclaims.1 with hop | hop <;> simp [hop]
  cases hchange with
  | same => exact hawaits.unsettled
  | leased _ => exact Or.inr (Or.inr rfl)
  | completed hproc hstage hid _ =>
      exact absurd hid.symm
        (hawaits.dispatched _ (List.mem_of_getElem? hproc) hstage)
  | @dispatchFailed i reply proc _ cause hproc hstage hid _ =>
      have hdrain := List.mem_of_getElem? hproc
      obtain ⟨other, hother, hotherId, hotherKind, -⟩ :=
        hattached.drains proc hdrain proc.row (List.mem_cons_self ..)
      obtain rfl := hkeyed.eq_of_opId hother hop (hotherId.trans hid.symm)
      rcases hfails proc hdrain cause hstage with hextend | hcreate
      · exact absurd (hotherKind.trans hextend) hkind.1
      · exact absurd (hotherKind.trans hcreate) hkind.2
  | marked hproc hstage hrevoke hpending =>
      refine absurd ?_ (hawaits.marked hrevoke hpending _
        (List.mem_of_getElem? hproc))
      simp [marking, hstage, hawaits.reclaims.2]
  | @pushed i reply proc ext _ hproc hstage hid =>
      obtain ⟨other, hother, hotherId, hotherKind, -⟩ := ((hattached.verifies
        proc (List.mem_of_getElem? hproc)).extension ext
          (by rw [hstage]; rfl)).op
      obtain rfl := hkeyed.eq_of_opId hother hop (hotherId.trans hid.symm)
      exact absurd hotherKind hkind.1
  | pushFailed _ _ _ => exact Or.inr (Or.inl rfl)

theorem awaits_step (hfails : FailsExtensions s)
    (haccount : s'.world.panel username ≠ none) {op : PanelOp}
    (hop : op ∈ s.world.db.panelOps) (hawaits : AwaitsDispatch s username op) :
    DeleteToCome s' username := by
  have hnotDeleted : deletedBy cfg s act ≠ some username :=
    fun hdeleted => haccount (panel_of_deletedBy hstep hdeleted)
  obtain ⟨op', hop', hchange⟩ :=
    (step_effects hattached.keyed hstep).panelOps.forward hop
  have hsame := OpChange.identity hchange
  have hreclaims : Reclaims username op' := by
    rw [Reclaims, hsame.kind, hsame.payload]
    exact hawaits.reclaims
  refine Or.inr ⟨op', hop', hreclaims,
    unsettled_step hattached hstep hfails hop hchange hawaits, ?_, ?_⟩
  · intro proc hmem hstage hid
    obtain ⟨other, hother, hotherId, hkind, hpayload⟩ := drains_attached
      hattached hstep proc hmem proc.row (List.mem_cons_self ..)
    obtain rfl := (keyed_step hattached.keyed hstep).eq_of_opId hother hop'
      (hotherId.trans hid)
    rcases complete_backward hstep hmem hstage (hkind ▸ hreclaims.1) with
      hold | ⟨hdeleted, -⟩
    · exact hawaits.dispatched proc hold hstage (hid.trans hsame.id)
    · rw [← hpayload, hreclaims.2] at hdeleted
      exact hnotDeleted hdeleted
  · intro hrevoke hpending proc hproc hmarking
    have hbefore : op.status = .pending := by
      cases hchange with
      | same => exact hpending
      | dispatchFailed _ _ _ _ => split at hpending <;> simp at hpending
      | _ => simp [lease] at hpending
    obtain ⟨provision, rest, rfl, hstage⟩ := marking_eq_some hmarking
    rcases mark_backward hstep hproc hstage with hold | ⟨hdeleted, -⟩
    · exact hawaits.marked (hsame.kind ▸ hrevoke) hbefore _ hold hmarking
    · exact hnotDeleted hdeleted

/-- The row that `failSession` queues awaits its dispatch. -/
theorem deleteToCome_of_failEnqueue {i : ℕ} {draw : Draw} {provision : Provision}
    (hact : act = .connect i draw .ok)
    (hproc : s.connects[i]? = some (.provisioning provision))
    (hstage : provision.stage = .failEnqueue) :
    DeleteToCome s' provision.tx.panelUsername := by
  subst hact
  have hqueued : newPanelOp s.world.clock (s.world.db.panelOps.length + 1)
      provision.tx.sessionId .deleteUser
      { panelUsername := provision.tx.panelUsername } ∈
        s'.world.db.panelOps := by
    rw [failEnqueue_db hproc hstage hstep]
    exact List.mem_append_right _ (List.mem_singleton_self _)
  refine Or.inr ⟨_, hqueued, ⟨Or.inr rfl, rfl⟩, Or.inl rfl, ?_, ?_⟩
  · intro proc hmem hcomplete hid
    have hle := rowId_le_of_complete hattached hstep hmem hcomplete
    simp only [newPanelOp] at hid
    omega
  · intro hrevoke
    simp [newPanelOp] at hrevoke

/-- A connect goes on to delete the users that it reclaims. -/
theorem reclaiming_step (hsmooth : Smooth act)
    (haccount : s'.world.panel username ≠ none) {proc : ConnectProc}
    (hproc : proc ∈ s.connects) (hreclaiming : username ∈ reclaiming proc) :
    DeleteToCome s' username := by
  rcases connects_forward hstep hproc with
    hstays | ⟨i, rfl⟩ | ⟨i, draw, reply, rfl, hcurrent⟩
  · exact Or.inl ⟨proc, hstays, hreclaiming⟩
  · exact hsmooth.elim
  · obtain rfl : reply = .ok := hsmooth
    cases proc with
    | admitted input => simp [reclaiming] at hreclaiming
    | resolved input plan => simp [reclaiming] at hreclaiming
    | provisioning provision =>
        obtain ⟨input, plan, tx, stage⟩ := provision
        cases stage with
        | revoke call head rest =>
            cases call with
            | disable =>
                exact Or.inl ⟨_, mem_connects_of_next hstep hcurrent rfl,
                  hreclaiming⟩
            | delete =>
                refine Or.inl ⟨_, mem_connects_of_next hstep hcurrent rfl, ?_⟩
                rcases List.mem_cons.mp hreclaiming with rfl | hrest
                · refine absurd (panel_of_deletedBy hstep ?_) haccount
                  rw [deletedBy_eq_some]
                  simp [replyOf, callOf, hcurrent, connectCall, provisionCall]
                · exact hrest
            | mark =>
                refine Or.inl ⟨_, mem_connects_of_next hstep hcurrent rfl, ?_⟩
                cases rest with
                | nil => exact hreclaiming
                | cons next others => exact hreclaiming
        | failEnqueue =>
            obtain rfl := List.mem_singleton.mp hreclaiming
            exact deleteToCome_of_failEnqueue hattached hstep rfl hcurrent rfl
        | _ => simp [reclaiming] at hreclaiming

theorem deleteToCome_step (hfails : FailsExtensions s) (hsmooth : Smooth act)
    (haccount : s'.world.panel username ≠ none)
    (hdelete : DeleteToCome s username) : DeleteToCome s' username := by
  rcases hdelete with ⟨proc, hproc, hreclaiming⟩ | ⟨op, hop, hawaits⟩
  · exact reclaiming_step hattached hstep hsmooth haccount hproc hreclaiming
  · exact awaits_step hattached hstep hfails haccount hop hawaits

/-! ## Mirrored users stay mirrored -/

/-- `failSession` goes on to queue the deletion of the user. -/
theorem deleteToCome_of_failed (hsmooth : Smooth act) {row : Session}
    (hrow : row ∈ s.world.db.sessions) (hcloses : RunsFailClose s act row.id) :
    DeleteToCome s' row.panelUsername := by
  obtain ⟨i, draw, reply, ⟨input, plan, tx, _⟩, rfl, -, hproc, rfl, hid⟩ :=
    runsFailClose_iff.mp hcloses
  obtain rfl : reply = .ok := hsmooth
  obtain ⟨other, hother, hotherId, husername, -⟩ :=
    (hattached.connects _ (List.mem_of_getElem? hproc)).session
  obtain rfl := eq_of_key hattached.keyed.ids hother hrow (hotherId.trans hid)
  exact Or.inl ⟨_, mem_connects_of_next hstep hproc rfl,
    List.mem_singleton.mpr husername⟩

/-- As long as a panel user exists, its session is live or its deletion is
still to come. -/
theorem mirrored_step (hfails : FailsExtensions s) (hsmooth : Smooth act)
    (haccount : s'.world.panel username ≠ none) (hmirrored : Mirrored s username) :
    Mirrored s' username := by
  obtain ⟨row, hrow, rfl, hstate⟩ := hmirrored
  obtain ⟨row', hrow', -, hchange⟩ :=
    exists_sessionChange hattached.keyed hstep hrow
  refine ⟨row', hrow', (SessionChange.identity hchange).panelUsername, ?_⟩
  rcases hstate with hlive | hdelete
  · cases hchange with
    | same => exact Or.inl hlive
    | stamped => exact Or.inl hlive
    | activated => exact Or.inl hlive
    | extended _ _ _ _ _ => exact Or.inl (isLive_extendRow _ _ hlive)
    | closed _ _ hqueued =>
        exact Or.inr (awaits_of_queued hattached hstep hrow hlive hqueued)
    | failed hcloses =>
        exact Or.inr (deleteToCome_of_failed hattached hstep hsmooth hrow hcloses)
  · exact Or.inr (deleteToCome_step hattached hstep hfails hsmooth haccount
      hdelete)

end Step

/-! ## Over runs -/

structure Mirrors (s : State) : Prop where
  attached : Attached s
  fails : FailsExtensions s
  users : ∀ username, s.world.panel username ≠ none → Mirrored s username

theorem mirrors_initial (hinit : IsInitial s) : Mirrors s where
  attached := attached_initial hinit
  fails := by simp [FailsExtensions, hinit.drains]
  users := fun username haccount => absurd (hinit.panel username) haccount

/-- A user that exists after a step existed before it or was created in it. -/
theorem exists_or_created (hstep : step cfg s act = some s')
    (haccount : s'.world.panel username ≠ none) :
    s.world.panel username ≠ none ∨ createdUser cfg s act = some username := by
  obtain ⟨account, haccount⟩ := Option.ne_none_iff_exists'.mp haccount
  rw [step_panel hstep] at haccount
  split at haccount
  · next made happlies hcall =>
      rcases exists_of_serve haccount with ⟨old, hold⟩ | ⟨params, rfl, husername⟩
      · exact Or.inl (by simp [hold])
      · exact Or.inr (by simp [createdUser, happlies, hcall, husername])
  · exact Or.inl (by simp [haccount])

theorem mirrors_step (hmirrors : Mirrors s)
    (hguard : Smooth act ∧ CreatesInTime cfg s act)
    (hstep : step cfg s act = some s') : Mirrors s' where
  attached := attached_step hmirrors.attached hstep
  fails := failsExtensions_step hmirrors.fails hguard.1 hstep
  users := by
    intro username haccount
    apply mirrored_step hmirrors.attached hstep hmirrors.fails hguard.1 haccount
    rcases exists_or_created hstep haccount with hold | hcreated
    · exact hmirrors.users username hold
    · exact hguard.2 username hcreated

/-- No request is in flight and no outbox row is pending, failed or in
flight. -/
structure Quiescent (s : State) : Prop where
  connects : s.connects = []
  verifies : s.verifies = []
  panelOps : ∀ op ∈ s.world.db.panelOps,
    op.status = .succeeded ∨ op.status = .dead

instance (s : State) : Decidable (Quiescent s) :=
  decidable_of_iff (s.connects = [] ∧ s.verifies = [] ∧
      ∀ op ∈ s.world.db.panelOps, op.status = .succeeded ∨ op.status = .dead)
    ⟨fun ⟨hconnects, hverifies, hops⟩ => ⟨hconnects, hverifies, hops⟩,
      fun hquiescent => ⟨hquiescent.connects, hquiescent.verifies,
        hquiescent.panelOps⟩⟩

/-- The panel holds an enabled user only for live sessions. -/
def OnlyLiveUsers (s : State) : Prop :=
  ∀ username account, s.world.panel username = some account →
    account.enabled = true → ∃ row ∈ s.world.db.sessions,
      row.panelUsername = username ∧ row.status.isLive = true

theorem onlyLiveUsers_of_mirrors (hmirrors : Mirrors s)
    (hquiescent : Quiescent s) : OnlyLiveUsers s := by
  intro username account haccount _
  obtain ⟨row, hrow, husername, hlive | hdelete⟩ :=
    hmirrors.users username (by simp [haccount])
  · exact ⟨row, hrow, husername, hlive⟩
  · rcases hdelete with ⟨proc, hproc, -⟩ | ⟨op, hop, hawaits⟩
    · simp [hquiescent.connects] at hproc
    · rcases hquiescent.panelOps op hop with hdone | hdead
      · have hunsettled := hawaits.unsettled
        simp [hdone] at hunsettled
      · have hunsettled := hawaits.unsettled
        simp [hdead] at hunsettled

/-- In a smooth run that creates no panel user too late, the panel holds an
enabled user only for live sessions whenever the system is quiescent. -/
theorem only_live_users {start last : State} {trace : List (State × Action)}
    (hinit : IsInitial start) (hrun : Run (middleware cfg) start trace last)
    (hsmooth : ∀ entry ∈ trace, Smooth entry.2)
    (hguard : ∀ entry ∈ trace, CreatesInTime cfg entry.1 entry.2) :
    Always (fun s => Quiescent s → OnlyLiveUsers s) trace last := by
  have hmirrors : Always Mirrors trace last :=
    hrun.always_of_guard (mirrors_initial hinit)
      (fun _ _ _ hmirrors hguard hstep => mirrors_step hmirrors hguard hstep)
      fun entry hentry => ⟨hsmooth entry hentry, hguard entry hentry⟩
  exact ⟨fun entry hentry => onlyLiveUsers_of_mirrors (hmirrors.1 entry hentry),
    onlyLiveUsers_of_mirrors hmirrors.2⟩

/-- The dispatch of the kicked session's outbox row. -/
def revokeKicked : List Action :=
  [.operate (.kickSession 1), .claim [], .drain 0 .ok, .drain 0 .ok,
    .drain 0 .ok]

/-- The small connect finishes before its session is kicked. -/
def createdThenKicked : List Action :=
  smallConnect ++ [.connect 0 smallDraw .ok, .connect 0 smallDraw .ok] ++
    revokeKicked

theorem only_live_users_kicked : ∃ trace last,
    Run (middleware {}) smallDeployment trace last ∧ trace.length = 10 ∧
    Always (fun s => Quiescent s → OnlyLiveUsers s) trace last := by
  obtain ⟨last, hrun⟩ := @exists_run_of_isSome _ _ (middleware {})
    smallDeployment createdThenKicked (by decide +kernel)
  exact ⟨_, last, hrun, by decide +kernel, only_live_users
    isInitial_smallDeployment hrun (by decide +kernel) (by decide +kernel)⟩

/-- The session is kicked and its revocation dispatched before the connect
calls `createUser`. -/
def kickedThenCreated : List Action :=
  smallConnect ++ revokeKicked ++
    [.connect 0 smallDraw .ok, .connect 0 smallDraw .ok]

theorem late_user_stays : IsInitial smallDeployment ∧
    ∃ trace last, Run (middleware {}) smallDeployment trace last ∧
      (∀ entry ∈ trace, Smooth entry.2) ∧ Quiescent last ∧
      ¬ OnlyLiveUsers last := by
  obtain ⟨last, hrun, hquiescent, ⟨row, hrow, haccount⟩, hdead⟩ :=
    @exists_run_with _ _ (middleware {}) smallDeployment kickedThenCreated
      (fun last => Quiescent last ∧
        (∃ row ∈ last.world.db.sessions,
          (last.world.panel row.panelUsername).any Account.enabled = true) ∧
        ∀ row ∈ last.world.db.sessions, row.status.isLive = false) _
      (by decide +kernel)
  refine ⟨isInitial_smallDeployment, _, last, hrun, by decide +kernel,
    hquiescent, fun honly => ?_⟩
  obtain ⟨account, haccount, henabled⟩ := (Option.any_eq_true _ _).mp haccount
  obtain ⟨other, hother, -, hlive⟩ := honly _ account haccount henabled
  simp [hdead other hother] at hlive

end VpnMiddleware.PanelMirror
