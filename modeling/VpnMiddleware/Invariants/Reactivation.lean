import VpnMiddleware.Invariants.PanelExpiry
import VpnMiddleware.Invariants.PanelMirror

/-!
# Users that are enabled again

A revoked session's panel user is disabled before it is deleted.  Between the
two calls an extension that is still outstanding may be pushed, and a push to
Remnawave enables the user again.
-/

namespace VpnMiddleware.Reactivation

open VpnMiddleware.Schema VpnMiddleware.Environment VpnMiddleware.Database
open VpnMiddleware.Transaction VpnMiddleware.Pool
open VpnMiddleware.TransitionSystem VpnMiddleware.IdealPanel
open VpnMiddleware.Shared VpnMiddleware.Middleware VpnMiddleware.Statements
open VpnMiddleware.Evolution VpnMiddleware.Keys VpnMiddleware.Processes
open VpnMiddleware.ConnectionService VpnMiddleware.ConnectFlow
open VpnMiddleware.PanelMirror VpnMiddleware.PanelExpiry

variable {cfg : Config} {s s' start last : State} {act : Action}
variable {trace : List (State × Action)} {username : String}

/-! ## A panel user is created once -/

/-- The panel user that a connect has still to create. -/
def creating : ConnectProc → Option String
  | .provisioning provision =>
      match provision.stage with
      | .revoke _ _ _ | .createUser => some provision.tx.panelUsername
      | _ => none
  | _ => none

def isCreating (username : String) (proc : ConnectProc) : Bool :=
  creating proc == some username

/-- The connects that have still to create the user. -/
def creators (username : String) (s : State) : ℕ :=
  s.connects.countP (isCreating username)

@[simp]
theorem creating_nextRevoke {input : ConnectInput} {plan : Resolved}
    {tx : TxResult} {usernames : List String} :
    creating (.provisioning ⟨input, plan, tx, nextRevoke usernames⟩) =
      some tx.panelUsername := by
  cases usernames <;> rfl

theorem isCreating_stageStep {provision : Provision} {reply : Reply}
    {stage : ProvisionStage}
    (hstep : StageStep provision.plan.tier reply provision.stage stage)
    (hcreating : isCreating username
      (.provisioning { provision with stage := stage }) = true) :
    isCreating username (.provisioning provision) = true ∧
      provision.stage ≠ .createUser := by
  obtain ⟨input, plan, tx, before⟩ := provision
  simp only [isCreating, beq_iff_eq] at hcreating ⊢
  cases hstep with
  | disabled _ => exact ⟨hcreating, by simp⟩
  | deleted _ => exact ⟨hcreating, by simp⟩
  | skipped _ =>
      rw [creating_nextRevoke] at hcreating
      exact ⟨hcreating, by simp⟩
  | marked =>
      rw [creating_nextRevoke] at hcreating
      exact ⟨hcreating, by simp⟩
  | _ => simp [creating] at hcreating

theorem createdUser_connect {i : ℕ} {draw : Draw} {reply : Reply}
    {proc : ConnectProc} (hproc : s.connects[i]? = some proc)
    (hcreated : createdUser cfg s (.connect i draw reply) = some username) :
    isCreating username proc = true ∧
      ∃ provision, proc = .provisioning provision ∧
        provision.stage = .createUser := by
  rw [createdUser] at hcreated
  split at hcreated
  · next params _ hcall =>
    obtain ⟨j, draw', reply', provision, hact, hproc', hstage, hparams⟩ :=
      callOf_createUser hcall
    obtain ⟨rfl, -, -⟩ := Action.connect.inj hact
    obtain rfl := Option.some.inj (hproc.symm.trans hproc')
    refine ⟨?_, provision, rfl, hstage⟩
    rw [hparams] at hcreated
    obtain ⟨input, plan, tx, _⟩ := provision
    obtain rfl := hstage
    simpa [isCreating, creating, createUserParams] using hcreated
  · simp at hcreated

/-- A connect that creates the user no longer has to. -/
theorem creators_step (hstep : step cfg s act = some s') :
    creators username s' +
        (if createdUser cfg s act = some username then 1 else 0) ≤
      creators username s ∨
    ∃ input plan draw tx, CommitsPhaseA cfg s act s'.world.db input plan draw tx ∧
      tx.panelUsername = username ∧
      creators username s' ≤ creators username s + 1 := by
  have hother : (∀ i draw reply, act ≠ .connect i draw reply) →
      createdUser cfg s act ≠ some username := by
    intro hne hcreated
    rw [createdUser] at hcreated
    split at hcreated
    · next params _ hcall =>
      obtain ⟨i, draw, reply, -, hact, -⟩ := callOf_createUser hcall
      exact hne i draw reply hact
    · simp at hcreated
  cases connectsChange hstep with
  | same hne hsame =>
      rw [if_neg (hother hne), creators, hsame]
      exact Or.inl le_rfl
  | requested input hne happend =>
      rw [if_neg (hother hne), creators, happend]
      simp [creators, isCreating, creating]
  | crashed i hact herase =>
      rw [if_neg (hother (by simp [hact])), creators, herase]
      exact Or.inl (List.eraseIdx_sublist s.connects i).countP_le
  | @resumed i draw reply proc hact hproc hsettle =>
      subst hact
      have hcount := @countP_settle _ _ _ _
        (proc.resume cfg s.world draw reply).next (isCreating username) hproc
      rw [← hsettle] at hcount
      have hkeeps : ((proc.resume cfg s.world draw reply).next.any
          (isCreating username) = true → isCreating username proc = true ∧
            createdUser cfg s (.connect i draw reply) ≠ some username) →
          creators username s' +
            (if createdUser cfg s (.connect i draw reply) = some username then
              1 else 0) ≤ creators username s := by
        intro hkeeps
        change creators username s' + _ = creators username s + _ at hcount
        by_cases hcreated : createdUser cfg s (.connect i draw reply) =
          some username
        · obtain ⟨hproc', -⟩ := createdUser_connect hproc hcreated
          have hdone : ¬ (proc.resume cfg s.world draw reply).next.any
              (isCreating username) = true :=
            fun hany => (hkeeps hany).2 hcreated
          rw [if_pos hproc', if_neg hdone] at hcount
          rw [if_pos hcreated]
          omega
        · rw [if_neg hcreated]
          split at hcount
          · split at hcount <;> omega
          · next hproc' =>
            rw [if_neg fun hany => hproc' (hkeeps hany).1] at hcount
            omega
      cases hnext : (proc.resume cfg s.world draw reply).next with
      | none => exact Or.inl (hkeeps (by simp [hnext]))
      | some next =>
          rw [hnext, Option.any_some] at hkeeps hcount
          cases connect_next hnext with
          | resolve => exact Or.inl (hkeeps (by simp [isCreating, creating]))
          | @commit input plan tx after hrun hreply =>
              by_cases husername : tx.panelUsername = username
              · have hcommits : CommitsPhaseA cfg s (.connect i draw reply)
                    after input plan draw tx :=
                  ⟨⟨i, reply, rfl, by rw [hreply]; rfl, hproc⟩, hrun⟩
                rw [phaseA_db hcommits hstep]
                refine Or.inr ⟨input, plan, draw, tx, hcommits, husername, ?_⟩
                change creators username s' + _ = creators username s + _ at hcount
                split at hcount <;> split at hcount <;> omega
              · exact Or.inl (hkeeps (by simp [isCreating, husername]))
          | provision hstage =>
              refine Or.inl (hkeeps fun hcreating => ?_)
              obtain ⟨hproc', hne⟩ := isCreating_stageStep hstage hcreating
              refine ⟨hproc', fun hcreated => ?_⟩
              obtain ⟨-, old, hold, hstage'⟩ := createdUser_connect hproc hcreated
              obtain rfl := ConnectProc.provisioning.inj hold
              exact hne hstage'

/-- The panel user of a new session is a new one. -/
theorem fresh_of_commits {after : Db} {input : ConnectInput} {plan : Resolved}
    {draw : Draw} {tx : TxResult}
    (hcommits : CommitsPhaseA cfg s act after input plan draw tx) {row : Session}
    (hrow : row ∈ s.world.db.sessions) :
    row.panelUsername ≠ tx.panelUsername := by
  obtain ⟨rows, mid, credentialRef, hcommit⟩ :=
    connectTransaction_ok hcommits.commits
  obtain ⟨row', hrow', -, husername⟩ := hcommit.closes.exists_row hrow
  rw [← husername, hcommit.username]
  exact hcommit.fresh_username row' hrow'

/-- A connect creates only the user of a session that exists. -/
theorem creators_eq_zero (hattached : Attached s)
    (hfresh : ∀ row ∈ s.world.db.sessions, row.panelUsername ≠ username) :
    creators username s = 0 := by
  rw [creators, List.countP_eq_zero]
  intro proc hproc hcreating
  cases proc with
  | provisioning provision =>
      obtain ⟨row, hrow, -, husername, -⟩ :=
        (hattached.connects provision hproc).session
      obtain ⟨input, plan, tx, stage⟩ := provision
      apply hfresh row hrow
      rw [husername]
      cases stage <;> simp [isCreating, creating] at hcreating <;>
        exact hcreating
  | _ => simp [isCreating, creating] at hcreating

/-- At most one connect has still to create a user, and none once the user
exists. -/
structure CreatedOnce (s : State) : Prop where
  attached : Attached s
  single : ∀ username, creators username s ≤ 1
  created : ∀ username, s.world.panel username ≠ none →
    creators username s = 0

theorem createdOnce_initial (hinit : IsInitial s) : CreatedOnce s where
  attached := attached_initial hinit
  single := by simp [creators, hinit.connects]
  created := fun username haccount => absurd (hinit.panel username) haccount

theorem createdOnce_step (honce : CreatedOnce s)
    (hstep : step cfg s act = some s') : CreatedOnce s' := by
  have hattached := honce.attached
  have hbound : ∀ username, creators username s' ≤ 1 ∧
      (s'.world.panel username ≠ none → creators username s' = 0) := by
    intro username
    have hsingle := honce.single username
    rcases @creators_step _ _ _ _ username hstep with
      hle | ⟨input, plan, draw, tx, hcommits, rfl, hle⟩
    · refine ⟨by omega, fun haccount => ?_⟩
      rcases exists_or_created hstep haccount with hold | hcreated
      · have hnone := honce.created username hold
        omega
      · rw [if_pos hcreated] at hle
        omega
    · have hzero : creators tx.panelUsername s = 0 :=
        creators_eq_zero hattached fun row hrow => fresh_of_commits hcommits hrow
      refine ⟨by omega, fun haccount => absurd ?_ haccount⟩
      exact no_account_of_phaseA hattached hstep hcommits
        fun row hrow => fresh_of_commits hcommits hrow
  exact
    { attached := attached_step hattached hstep
      single := fun username => (hbound username).1
      created := fun username => (hbound username).2 }

/-! ## Disabling and enabling -/

/-- The panel user that an action disables: the call takes effect, and the
panel knows the user. -/
def disabledBy (cfg : Config) (s : State) (act : Action) : Option String :=
  match (replyOf act).applies, callOf cfg s act with
  | true, some (.disableUser username) =>
      (s.world.panel username).map fun _ => username
  | _, _ => none

/-- A disabled user that an action pushes an expiry for, so that Remnawave
enables it. -/
def reactivatedBy (cfg : Config) (s : State) (act : Action) : Option String :=
  match cfg.provider, (replyOf act).applies, callOf cfg s act with
  | .remnawave, true, some (.setUserExpiry username expireAt) =>
      if isPastNoOp .remnawave s.world.clock expireAt then none
      else match s.world.panel username with
        | some account => if account.enabled then none else some username
        | none => none
  | _, _, _ => none

/-- A user that a step of the run disables is never enabled after it. -/
def StaysDisabled (cfg : Config) (trace : List (State × Action)) (last : State) :
    Prop :=
  ∀ before entry after, trace = before ++ entry :: after →
    ∀ username ∈ disabledBy cfg entry.1 entry.2,
      Always (fun s => isEnabled s.world.panel username = false) after last

theorem disabledBy_eq_some :
    disabledBy cfg s act = some username ↔
      (replyOf act).applies = true ∧
        callOf cfg s act = some (.disableUser username) ∧
        s.world.panel username ≠ none := by
  constructor
  · intro hdisabled
    rw [disabledBy] at hdisabled
    split at hdisabled
    · next other happlies hcall =>
      obtain ⟨account, haccount, rfl⟩ := Option.map_eq_some_iff.mp hdisabled
      exact ⟨happlies, hcall, by simp [haccount]⟩
    · simp at hdisabled
  · rintro ⟨happlies, hcall, haccount⟩
    obtain ⟨account, haccount⟩ := Option.ne_none_iff_exists'.mp haccount
    simp only [disabledBy, happlies, hcall, haccount, Option.map_some]

theorem reactivatedBy_eq_some :
    reactivatedBy cfg s act = some username ↔
      cfg.provider = .remnawave ∧ (replyOf act).applies = true ∧
        ∃ expireAt account,
          callOf cfg s act = some (.setUserExpiry username expireAt) ∧
          isPastNoOp .remnawave s.world.clock expireAt = false ∧
          s.world.panel username = some account ∧ account.enabled = false := by
  constructor
  · intro hreactivated
    rw [reactivatedBy] at hreactivated
    split at hreactivated
    · next other expireAt hprovider happlies hcall =>
      split at hreactivated
      · simp at hreactivated
      · next hpast =>
        split at hreactivated
        · next account haccount =>
          split at hreactivated
          · simp at hreactivated
          · next hdisabled =>
            obtain rfl := Option.some.inj hreactivated
            exact ⟨hprovider, happlies, expireAt, account, hcall,
              by simpa using hpast, haccount, by simpa using hdisabled⟩
        · simp at hreactivated
    · simp at hreactivated
  · rintro ⟨hprovider, happlies, expireAt, account, hcall, hpast, haccount,
      hdisabled⟩
    simp [reactivatedBy, hprovider, happlies, hcall, hpast, haccount, hdisabled]

/-- A push to Remnawave enables the user. -/
theorem isEnabled_of_reactivated (hstep : step cfg s act = some s')
    (hreactivated : reactivatedBy cfg s act = some username) :
    isEnabled s'.world.panel username = true := by
  obtain ⟨hprovider, happlies, expireAt, account, hcall, hpast, haccount, -⟩ :=
    reactivatedBy_eq_some.mp hreactivated
  rw [step_panel hstep, happlies, hcall, hprovider]
  simp [isEnabled, serve, setUserExpiry, haccount, hpast, pushedAccount]

/-- A user that is not enabled, has a session and is not to be created. -/
structure Down (username : String) (s : State) : Prop where
  disabled : isEnabled s.world.panel username = false
  settled : creators username s = 0
  session : ∃ row ∈ s.world.db.sessions, row.panelUsername = username

theorem settled_step (hattached : Attached s) (hstep : step cfg s act = some s')
    (hsettled : creators username s = 0)
    (hsession : ∃ row ∈ s.world.db.sessions, row.panelUsername = username) :
    creators username s' = 0 ∧
      ∃ row ∈ s'.world.db.sessions, row.panelUsername = username := by
  obtain ⟨row, hrow, husername⟩ := hsession
  obtain ⟨row', hrow', hsame, -⟩ :=
    (grows_step hattached.keyed hstep).sessions row hrow
  refine ⟨?_, row', hrow', hsame.panelUsername.trans husername⟩
  rcases @creators_step _ _ _ _ username hstep with
    hle | ⟨input, plan, draw, tx, hcommits, hnew, -⟩
  · omega
  · exact absurd (husername.trans hnew.symm) (fresh_of_commits hcommits hrow)

theorem down_of_disabled (honce : CreatedOnce s) (hstep : step cfg s act = some s')
    (hdisabled : disabledBy cfg s act = some username) : Down username s' := by
  obtain ⟨happlies, hcall, haccount⟩ := disabledBy_eq_some.mp hdisabled
  obtain ⟨account, haccount'⟩ := Option.ne_none_iff_exists'.mp haccount
  obtain ⟨hsettled, hsession⟩ := settled_step honce.attached hstep
    (honce.created username haccount) (honce.attached.panel username _ haccount')
  refine ⟨?_, hsettled, hsession⟩
  rw [step_panel hstep, happlies, hcall]
  simp [isEnabled, serve, haccount']

theorem down_step (hattached : Attached s) (hdown : Down username s)
    (hpush : reactivatedBy cfg s act ≠ some username)
    (hstep : step cfg s act = some s') : Down username s' := by
  obtain ⟨hsettled, hsession⟩ :=
    settled_step hattached hstep hdown.settled hdown.session
  refine ⟨?_, hsettled, hsession⟩
  rw [Bool.eq_false_iff]
  intro henabled
  rw [step_panel hstep] at henabled
  split at henabled
  · next made happlies hcall =>
    cases servedEnabled henabled with
    | kept hold _ => simp [hdown.disabled] at hold
    | created params hmade husername =>
        subst hmade
        obtain ⟨i, draw, reply, provision, rfl, hproc, -, -⟩ :=
          callOf_createUser hcall
        have hcreated : createdUser cfg s (.connect i draw reply) =
            some username := by
          simp [createdUser, happlies, hcall, husername]
        have hnone := List.countP_eq_zero.mp hdown.settled _
          (List.mem_of_getElem? hproc)
        exact hnone (createdUser_connect hproc hcreated).1
    | pushed expireAt hmade hpast haccount hprovider =>
        obtain ⟨account, haccount⟩ := Option.ne_none_iff_exists'.mp haccount
        apply hpush
        rw [reactivatedBy_eq_some]
        refine ⟨hprovider, happlies, expireAt, account, hmade ▸ hcall,
          hprovider ▸ hpast, haccount, ?_⟩
        simpa [isEnabled, haccount] using hdown.disabled
  · simp [hdown.disabled] at henabled

/-! ## Over runs -/

theorem createdOnce_of_run (hinit : IsInitial start)
    (hrun : Run (middleware cfg) start trace last) : CreatedOnce last :=
  hrun.invariant (createdOnce_initial hinit)
    fun _ _ _ honce hstep => createdOnce_step honce hstep

/-- A disabled user was disabled by a step of the run. -/
theorem exists_disabledBy (hinit : IsInitial start)
    (hrun : Run (middleware cfg) start trace last) {account : Account}
    (haccount : last.world.panel username = some account)
    (hdisabled : account.enabled = false) :
    ∃ before entry after, trace = before ++ entry :: after ∧
      disabledBy cfg entry.1 entry.2 = some username := by
  induction hrun generalizing account with
  | refl => simp [hinit.panel] at haccount
  | @snoc trace mid last act hearlier hstep ih =>
      have hkeep : (∃ old, mid.world.panel username = some old ∧
          old.enabled = false) → ∃ before entry after,
            trace ++ [(mid, act)] = before ++ entry :: after ∧
              disabledBy cfg entry.1 entry.2 = some username := by
        rintro ⟨old, hold, holdDisabled⟩
        obtain ⟨before, entry, after, rfl, hby⟩ := ih hold holdDisabled
        exact ⟨before, entry, after ++ [(mid, act)], by simp, hby⟩
      have hpanel := step_panel hstep
      rw [hpanel] at haccount
      split at haccount
      · next made happlies hcall =>
        rcases servedDisabled haccount hdisabled with hold | ⟨rfl, hknown⟩
        · exact hkeep hold
        · exact ⟨trace, (mid, act), [], rfl,
            disabledBy_eq_some.mpr ⟨happlies, hcall, hknown⟩⟩
      · exact hkeep ⟨account, haccount, hdisabled⟩

/-- A push for a disabled user enables a user that was disabled before. -/
theorem no_push_of_staysDisabled (hinit : IsInitial start)
    (hrun : Run (middleware cfg) start trace last)
    (hstays : StaysDisabled cfg trace last) {entry : State × Action}
    (hentry : entry ∈ trace) : reactivatedBy cfg entry.1 entry.2 = none := by
  rw [Option.eq_none_iff_forall_ne_some]
  intro username hreactivated
  obtain ⟨before, after, next, rfl, hbefore, hnext⟩ := hrun.exists_prefix hentry
  obtain ⟨-, -, _, account, -, -, haccount, hdisabled⟩ :=
    reactivatedBy_eq_some.mp hreactivated
  obtain ⟨earlier, disabling, between, rfl, hby⟩ :=
    exists_disabledBy hinit hbefore haccount hdisabled
  have hsplit : earlier ++ disabling :: between ++ entry :: after =
      earlier ++ disabling :: (between ++ entry :: after) := by simp
  rw [hsplit] at hrun
  obtain ⟨_, -, -, hafter⟩ := hrun.exists_split
  have hdown := hstays earlier disabling (between ++ entry :: after) hsplit
    username hby
  have hlater := hafter.always_next hdown
    (List.mem_append_right _ (List.mem_cons_self ..)) hnext
  rw [isEnabled_of_reactivated hnext hreactivated] at hlater
  simp at hlater

theorem staysDisabled_of_no_push (hinit : IsInitial start)
    (hrun : Run (middleware cfg) start trace last)
    (hpushes : ∀ entry ∈ trace, reactivatedBy cfg entry.1 entry.2 = none) :
    StaysDisabled cfg trace last := by
  rintro before entry after rfl username hdisabled
  obtain ⟨next, hbefore, hstep, hafter⟩ := hrun.exists_split
  have honce := createdOnce_of_run hinit hbefore
  have hdown := @Run.always_of_guard _ _ _ _ _ _
    (fun state => CreatedOnce state ∧ Down username state)
    (fun state act => reactivatedBy cfg state act ≠ some username) hafter
    ⟨createdOnce_step honce hstep, down_of_disabled honce hstep hdisabled⟩
    (fun _ _ _ hinv hguard hnext => ⟨createdOnce_step hinv.1 hnext,
      down_step hinv.1.attached hinv.2 hguard hnext⟩)
    (fun other hother => by
      rw [hpushes other (List.mem_append_right _
        (List.mem_cons_of_mem _ hother))]
      simp)
  exact ⟨fun other hother => (hdown.1 other hother).2.disabled,
    hdown.2.2.disabled⟩

/-- A run keeps every disabled user disabled exactly if none of its steps
pushes an expiry for a disabled user of a Remnawave panel. -/
theorem no_reactivation_iff (hinit : IsInitial start)
    (hrun : Run (middleware cfg) start trace last) :
    StaysDisabled cfg trace last ↔
      ∀ entry ∈ trace, reactivatedBy cfg entry.1 entry.2 = none :=
  ⟨fun hstays _ hentry => no_push_of_staysDisabled hinit hrun hstays hentry,
    staysDisabled_of_no_push hinit hrun⟩

/-- The inline push of an extension fails and the session is kicked.  A drainer
disables its user, but the deletion fails; the extension is dispatched later. -/
def revokedThenExtended : List Action :=
  extendedOnce ++
    [.verify 0 (.fail false (.error "timeout")), .verify 0 .ok, .verify 0 .ok,
      .advance 14000, .operate (.kickSession 1), .claim [], .drain 0 .ok,
      .drain 0 (.fail false (.error "timeout")), .drain 0 .ok,
      .advance 1000, .claim []]

def remnawave : Config := { provider := .remnawave }

theorem no_reactivation_iff_extended : ∃ trace last,
    Run (middleware remnawave) smallDeployment trace last ∧
    trace.length = 20 ∧
    (StaysDisabled remnawave trace last ↔
      ∀ entry ∈ trace, reactivatedBy remnawave entry.1 entry.2 = none) := by
  obtain ⟨last, hrun⟩ := @exists_run_of_isSome _ _ (middleware remnawave)
    smallDeployment (revokedThenExtended ++ [.drain 0 .ok])
    (by decide +kernel)
  exact ⟨_, last, hrun, by decide +kernel,
    no_reactivation_iff isInitial_smallDeployment hrun⟩

/-- The pushed expiry enables the user of the revoked session again. -/
theorem reactivated_after_revoke : IsInitial smallDeployment ∧ ∃ trace last,
    Run (middleware remnawave) smallDeployment trace last ∧
    ¬ StaysDisabled remnawave trace last ∧
    ∃ row ∈ last.world.db.sessions, row.status = .revoked ∧
      isEnabled last.world.panel row.panelUsername = true := by
  obtain ⟨mid, last, hrun, -, hpushed, hrevoked⟩ := @exists_run_of_execute _ _
    (middleware remnawave) smallDeployment revokedThenExtended (.drain 0 .ok)
    (fun mid last => reactivatedBy remnawave mid (.drain 0 .ok) ≠ none ∧
      ∃ row ∈ last.world.db.sessions, row.status = .revoked ∧
        isEnabled last.world.panel row.panelUsername = true) _
    (by decide +kernel)
  refine ⟨isInitial_smallDeployment, _, last, hrun, fun hstays => hpushed ?_,
    hrevoked⟩
  exact no_push_of_staysDisabled isInitial_smallDeployment hrun hstays
    (List.mem_append_right _ (List.mem_singleton_self _))

end VpnMiddleware.Reactivation
