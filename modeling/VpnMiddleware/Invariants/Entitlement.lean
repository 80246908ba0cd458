import VpnMiddleware.Invariants.Keys
import VpnMiddleware.System.Frames

/-!
# Entitlement at the commit of Phase A

`connect` resolves tier, expiry and session limit before its transaction opens.
A premium session is entitled in the state in which it commits as long as no
step in between takes a premium subscription of its user away.
-/

namespace VpnMiddleware.Entitlement

open VpnMiddleware.Schema VpnMiddleware.Environment VpnMiddleware.Database
open VpnMiddleware.Transaction VpnMiddleware.TransitionSystem
open VpnMiddleware.Middleware VpnMiddleware.Statements VpnMiddleware.Evolution
open VpnMiddleware.Keys VpnMiddleware.ConnectionService VpnMiddleware.ConnectFlow
open VpnMiddleware.Table VpnMiddleware.Frame VpnMiddleware.Frames
open VpnMiddleware.AdminService

variable {cfg : Config} {s s' start last : State} {act : Action}
variable {trace : List (State × Action)} {now userId : ℕ} {db after : Db}

/-! ## The entitlement rule -/

/-- A subscription and a plan as `effective_tier` joins them. -/
def entitles (now userId : ℕ) (row : Subscription) (plan : Plan) : Bool :=
  plan.id == row.planId && row.userId == userId && plan.tier == .premium &&
    (row.status == .active || row.status == .inGrace) &&
    row.currentPeriodEnd.all fun periodEnd => decide (now < periodEnd)

/-- `effective_tier(p_user_id)` of the schema. -/
def effectiveTier (now userId : ℕ) (db : Db) : PlanTier :=
  if db.subscriptions.any (fun row => db.plans.any (entitles now userId row)) then
    .premium
  else .free

/-- A plan that one of the user's subscriptions entitles to. -/
def IsEntitled (now userId : ℕ) (db : Db) (plan : Plan) : Prop :=
  plan ∈ db.plans ∧ ∃ row ∈ db.subscriptions, entitles now userId row plan = true

theorem effectiveTier_eq_premium_iff :
    effectiveTier now userId db = .premium ↔
      ∃ plan, IsEntitled now userId db plan := by
  have hany : db.subscriptions.any
      (fun row => db.plans.any (entitles now userId row)) = true ↔
        ∃ plan, IsEntitled now userId db plan := by
    simp only [List.any_eq_true, IsEntitled]
    constructor
    · rintro ⟨row, hrow, plan, hplan, hentitles⟩
      exact ⟨plan, hplan, row, hrow, hentitles⟩
    · rintro ⟨plan, hplan, row, hrow, hentitles⟩
      exact ⟨row, hrow, plan, hplan, hentitles⟩
  rw [← hany, effectiveTier]
  split <;> simp_all

/-- The query of `resolveTierAndExpiry` mirrors the rule. -/
theorem mem_premiumRows {row : Subscription} {plan : Plan} :
    (row, plan) ∈ premiumRows now userId db ↔
      row ∈ db.subscriptions ∧ plan ∈ db.plans ∧
        entitles now userId row plan = true := by
  simp only [premiumRows, List.mem_flatMap, List.mem_map, List.mem_filter,
    Prod.mk.injEq, entitles, isCurrent, Bool.and_assoc]
  constructor
  · rintro ⟨_, hrow, _, ⟨hplan, hentitles⟩, rfl, rfl⟩
    exact ⟨hrow, hplan, hentitles⟩
  · rintro ⟨hrow, hplan, hentitles⟩
    exact ⟨row, hrow, plan, ⟨hplan, hentitles⟩, rfl, rfl⟩

/-- Phase A leaves plans and subscriptions alone. -/
theorem connectTransaction_keeps {input : ConnectInput} {plan : Resolved}
    {draw : Draw} {tx : TxResult}
    (hok : connectTransaction cfg now input plan draw db = .ok (tx, after)) :
    after.plans = db.plans ∧ after.subscriptions = db.subscriptions := by
  simp only [connectTransaction, bind_ok, get_ok, expect_ok] at hok
  obtain ⟨_, _, ⟨rfl, rfl⟩, usernames, mid, hdisplace, _, _, ⟨rfl, rfl⟩, node,
    _, ⟨-, rfl⟩, sessionId, inserted, hinsert, hrest⟩ := hok
  obtain ⟨-, hmid⟩ := displaceEach_ok hdisplace
  obtain ⟨_, -, -, -, -, rfl⟩ := insertSession_ok hinsert
  cases htier : plan.tier with
  | premium =>
      simp only [htier, pure_ok] at hrest
      obtain ⟨-, rfl⟩ := hrest
      exact ⟨by rw [hmid], by rw [hmid]⟩
  | free =>
      simp only [htier, bind_ok, pure_ok] at hrest
      obtain ⟨_, _, hgrant, -, rfl⟩ := hrest
      obtain ⟨-, -, rfl⟩ := insertGrant_ok hgrant
      exact ⟨by rw [hmid], by rw [hmid]⟩

/-! ## Commits of Phase A -/

/-- What a step commits Phase A with: the request and its resolution. -/
def committedWith (cfg : Config) (s : State) :
    Action → Option (ConnectInput × Resolved)
  | .connect i draw reply =>
      match reply.applies, s.connects[i]? with
      | true, some (.resolved input plan) =>
          match connectTransaction cfg s.world.clock input plan draw
            s.world.db with
          | .ok _ => some (input, plan)
          | .error _ => none
      | _, _ => none
  | _ => none

/-- A premium session that the step inserts belongs to a user whose effective
tier is then premium, and the limit it enforced is that of a plan the user is
then entitled to. -/
def EntitledAtCommit (cfg : Config) (s : State) (act : Action) : Prop :=
  ∀ next ∈ step cfg s act, ∀ row ∈ next.world.db.sessions,
    (∀ old ∈ s.world.db.sessions, old.id ≠ row.id) → row.tier = .premium →
      effectiveTier next.world.clock row.userId next.world.db = .premium ∧
      ∃ commit ∈ committedWith cfg s act, ∃ plan,
        IsEntitled next.world.clock row.userId next.world.db plan ∧
        plan.maxConcurrentSessions = commit.2.maxConcurrent

/-- Does the step take the subscription, and with it the entitlement to its plan,
away from the user?  Its period ends, an admin withdraws the grant or grants it
anew for no time, or other tables hold no current subscription to the plan. -/
def takesAway (cfg : Config) (s : State) (userId : ℕ) (row : Subscription)
    (plan : Plan) : Action → Bool
  | .advance ms => row.currentPeriodEnd.any fun periodEnd =>
      decide (periodEnd ≤ s.world.clock + ms)
  | .operate (.mutateUser id changes _) =>
      id == userId && row.source == .internal &&
        (changes.tier == some .free ||
          changes.tier == some .premium && cfg.adminGrantDays == 0)
  | .operate (.maintain tables) => !tables.subscriptions.any fun row' =>
      entitles s.world.clock userId row' plan
  | _ => false

/-- The user of a connect that stands between its resolution and its commit. -/
def awaitsCommit : ConnectProc → Option ℕ
  | .resolved input _ => some input.userId
  | _ => none

/-- The step takes no premium subscription away from a user with such a connect. -/
def Undisturbed (cfg : Config) (s : State) (act : Action) : Prop :=
  ∀ proc ∈ s.connects, ∀ userId ∈ awaitsCommit proc,
    ∀ row ∈ s.world.db.subscriptions, ∀ plan ∈ s.world.db.plans,
      entitles s.world.clock userId row plan = true →
        takesAway cfg s userId row plan act = false

instance : Decidable (Undisturbed cfg s act) :=
  inferInstanceAs (Decidable (∀ proc ∈ s.connects, ∀ userId ∈ awaitsCommit proc,
    ∀ row ∈ s.world.db.subscriptions, ∀ plan ∈ s.world.db.plans,
      entitles s.world.clock userId row plan = true →
        takesAway cfg s userId row plan act = false))

/-- The resolution of every premium connect that has not committed stands. -/
def Stands (s : State) : Prop :=
  ∀ input resolved, .resolved input resolved ∈ s.connects →
    resolved.tier = .premium → ∃ plan,
      IsEntitled s.world.clock input.userId s.world.db plan ∧
      plan.maxConcurrentSessions = resolved.maxConcurrent

theorem committedWith_eq_some {input : ConnectInput} {plan : Resolved} :
    committedWith cfg s act = some (input, plan) ↔
      ∃ after draw tx, CommitsPhaseA cfg s act after input plan draw tx := by
  constructor
  · intro hcommit
    simp only [committedWith] at hcommit
    split at hcommit
    · next i draw reply =>
      split at hcommit
      · next happlies hproc =>
        split at hcommit
        · next result hrun =>
          obtain ⟨rfl, rfl⟩ := Prod.mk.inj (Option.some.inj hcommit)
          exact ⟨result.2, draw, result.1,
            ⟨⟨i, reply, rfl, happlies, hproc⟩, hrun⟩⟩
        · simp at hcommit
      · simp at hcommit
    · simp at hcommit
  · rintro ⟨after, draw, tx, ⟨⟨i, reply, rfl, happlies, hproc⟩, hrun⟩⟩
    simp only [committedWith, happlies, hproc, hrun]

/-- A step that commits Phase A leaves the clock. -/
theorem clock_of_commits {input : ConnectInput} {plan : Resolved} {draw : Draw}
    {tx : TxResult} (hcommits : CommitsPhaseA cfg s act after input plan draw tx)
    (hstep : step cfg s act = some s') : s'.world.clock = s.world.clock := by
  obtain ⟨i, reply, rfl, -, -⟩ := hcommits.acts
  rcases step_world hstep with ⟨ms, hact⟩ | hworld
  · cases hact
  · rw [hworld]
    simp only [actOn]
    split <;> rfl

theorem IsEntitled.congr {db' : Db} {plan : Plan} (hplans : db'.plans = db.plans)
    (hsubscriptions : db'.subscriptions = db.subscriptions)
    (hentitled : IsEntitled now userId db plan) :
    IsEntitled now userId db' plan := by
  obtain ⟨hplan, row, hrow, hentitles⟩ := hentitled
  exact ⟨hplans ▸ hplan, row, hsubscriptions ▸ hrow, hentitles⟩

/-! ## One commit -/

/-- The rule at a commit does not depend on which side of it is looked at. -/
theorem isEntitled_commit_iff {input : ConnectInput} {plan : Resolved}
    {draw : Draw} {tx : TxResult} {entitled : Plan}
    (hcommits : CommitsPhaseA cfg s act s'.world.db input plan draw tx)
    (hstep : step cfg s act = some s') :
    IsEntitled s'.world.clock userId s'.world.db entitled ↔
      IsEntitled s.world.clock userId s.world.db entitled := by
  obtain ⟨hplans, hsubscriptions⟩ := connectTransaction_keeps hcommits.commits
  rw [clock_of_commits hcommits hstep]
  exact ⟨IsEntitled.congr hplans.symm hsubscriptions.symm,
    IsEntitled.congr hplans hsubscriptions⟩

theorem entitledAtCommit_of_stands (hkeyed : Keyed s.world.db)
    (hstands : Stands s) : EntitledAtCommit cfg s act := by
  intro next hstep row hrow hfresh htier
  rcases (step_effects hkeyed hstep).sessions.backward hrow with
    ⟨old, hold, hchange⟩ | ⟨added, hadded, hmem⟩
  · exact absurd (SessionChange.identity hchange).id.symm (hfresh old hold)
  · cases hadded with
    | none => simp at hmem
    | @phaseA input plan draw tx credentialRef hcommits _ _ =>
        rw [List.mem_singleton] at hmem
        subst hmem
        have hcommit : committedWith cfg s act = some (input, plan) :=
          committedWith_eq_some.mpr ⟨_, draw, tx, hcommits⟩
        obtain ⟨i, reply, -, -, hproc⟩ := hcommits.acts
        obtain ⟨entitled, hplan, hlimit⟩ :=
          hstands input plan (List.mem_of_getElem? hproc) htier
        have hplan' := (isEntitled_commit_iff hcommits hstep).mpr hplan
        exact ⟨effectiveTier_eq_premium_iff.mpr ⟨entitled, hplan'⟩, _, hcommit,
          entitled, hplan', hlimit⟩

/-! ## What a step leaves to a user -/

section Tiers

variable {id : ℕ} {changes : UserChanges} {plan : Plan}
variable {keeps : SubscriptionSource → Prop}

/-- A subscription entitles the user to the plan, and its source is kept. -/
def IsHeld (keeps : SubscriptionSource → Prop) (now userId : ℕ) (plan : Plan)
    (db : Db) : Prop :=
  plan ∈ db.plans ∧ ∃ row ∈ db.subscriptions,
    entitles now userId row plan = true ∧ keeps row.source

/-- The change of the account's tier spares subscriptions of this source. -/
def Spares (cfg : Config) (userId id : ℕ) (changes : UserChanges)
    (source : SubscriptionSource) : Prop :=
  id = userId → source = .internal → changes.tier ≠ some .free ∧
    (changes.tier = some .premium → cfg.adminGrantDays ≠ 0)

theorem framed_isHeld : Framed (Preserves (IsHeld keeps now userId plan)) where
  users := fun _ _ hheld => hheld
  sessions := fun _ _ hheld => hheld
  panelOps := fun _ _ hheld => hheld
  grants := fun _ _ hheld => hheld
  rewards := fun _ _ hheld => hheld
  auditLogs := fun _ _ hheld => hheld

/-- Subscriptions that are updated row by row. -/
theorem IsHeld.updateWhere {selected : Subscription → Bool}
    {change : Subscription → Subscription} (hheld : IsHeld keeps now userId plan db)
    (hchange : ∀ row, entitles now userId row plan = true → keeps row.source →
      selected row = true →
        entitles now userId (change row) plan = true ∧ keeps (change row).source) :
    IsHeld keeps now userId plan
      { db with subscriptions := updateWhere selected change db.subscriptions } := by
  obtain ⟨hplan, row, hrow, hentitles, hkeeps⟩ := hheld
  refine ⟨hplan, _, mem_updateWhere.mpr ⟨row, hrow, rfl⟩, ?_⟩
  split
  · next hselected => exact hchange row hentitles hkeeps hselected
  · exact ⟨hentitles, hkeeps⟩

theorem userId_of_entitles {row : Subscription}
    (hentitles : entitles now userId row plan = true) : row.userId = userId := by
  simp only [entitles, Bool.and_eq_true, beq_iff_eq] at hentitles
  exact hentitles.1.1.1.2

/-- A grant for some time entitles. -/
theorem entitles_extended {row : Subscription} {days : ℕ} (hdays : days ≠ 0)
    (hentitles : entitles now userId row plan = true) :
    entitles now userId { row with
      currentPeriodEnd := some (now + days * 24 * 60 * 60000)
      status := .active } plan = true := by
  simp only [entitles, Bool.and_eq_true, beq_iff_eq] at hentitles ⊢
  obtain ⟨⟨⟨hplan, htier⟩, -⟩, -⟩ := hentitles
  refine ⟨⟨⟨hplan, htier⟩, rfl⟩, ?_⟩
  rw [Option.all_some, decide_eq_true_eq]
  omega

theorem respects_grantInternalPremium
    (hspares : ∀ source, keeps source → Spares cfg userId id changes source)
    (htier : changes.tier = some .premium) :
    Respects (Preserves (IsHeld keeps now userId plan))
      (grantInternalPremium cfg now id changes) := by
  have hplans : ∀ db rows, Preserves (IsHeld keeps now userId plan) db
      (if (db.plans.any fun plan => plan.code == adminGrantCode) = true then db
        else { db with plans := db.plans ++ rows }) := by
    intro db rows hheld
    split
    · exact hheld
    · exact ⟨List.mem_append_left _ hheld.1, hheld.2⟩
  apply (Respects.modify fun db => hplans db _).bind
  intro _
  apply Respects.get.bind
  intro db
  apply (Respects.expect _ _).bind
  intro granted
  apply Respects.modify
  intro mid hheld
  split
  · apply hheld.updateWhere
    intro row hentitles hkeeps hselected
    simp only [isInternalGrant, Bool.and_eq_true, beq_iff_eq] at hselected
    obtain ⟨⟨⟨hid, hsource⟩, -⟩, -⟩ := hselected
    have hsame : id = userId := hid.symm.trans (userId_of_entitles hentitles)
    have hdays := (hspares _ hkeeps hsame hsource).2 htier
    exact ⟨entitles_extended hdays hentitles, hkeeps⟩
  · obtain ⟨hplan, row, hrow, hrest⟩ := hheld
    exact ⟨hplan, row, List.mem_append_left _ hrow, hrest⟩

theorem respects_expireInternalPremium
    (hspares : ∀ source, keeps source → Spares cfg userId id changes source)
    (htier : changes.tier = some .free) :
    Respects (Preserves (IsHeld keeps now userId plan))
      (expireInternalPremium id) := by
  apply Respects.modify
  intro mid hheld
  apply hheld.updateWhere
  intro row hentitles hkeeps hselected
  simp only [Bool.and_eq_true, beq_iff_eq] at hselected
  obtain ⟨⟨⟨hid, hsource⟩, -⟩, -⟩ := hselected
  have hsame : id = userId := hid.symm.trans (userId_of_entitles hentitles)
  exact absurd htier (hspares _ hkeeps hsame hsource).1

theorem respects_applyTier
    (hspares : ∀ source, keeps source → Spares cfg userId id changes source) :
    Respects (Preserves (IsHeld keeps now userId plan))
      (applyTier cfg now id changes) := by
  rw [applyTier]
  split
  · next htier => exact respects_grantInternalPremium hspares htier
  · next htier => exact respects_expireInternalPremium hspares htier
  · exact Respects.pure _

end Tiers

/-! ## Steps -/

theorem isEntitled_advance {ms : ℕ} {plan : Plan} {row : Subscription}
    (hrow : row ∈ s.world.db.subscriptions) (hplan : plan ∈ s.world.db.plans)
    (hentitles : entitles s.world.clock userId row plan = true)
    (hkept : takesAway cfg s userId row plan (.advance ms) = false) :
    IsEntitled (s.world.clock + ms) userId s.world.db plan := by
  refine ⟨hplan, row, hrow, ?_⟩
  simp only [entitles, Bool.and_eq_true] at hentitles ⊢
  refine ⟨hentitles.1, ?_⟩
  cases hend : row.currentPeriodEnd with
  | none => rfl
  | some periodEnd =>
      simp only [takesAway, hend, Option.any_some, decide_eq_false_iff_not,
        Nat.not_le] at hkept
      exact decide_eq_true hkept

theorem isEntitled_maintain {tables : ReferenceTables} {plan : Plan}
    {row : Subscription} (hplan : plan ∈ s.world.db.plans)
    (hkept : takesAway cfg s userId row plan (.operate (.maintain tables)) = false)
    (hstep : step cfg s (.operate (.maintain tables)) = some s') :
    IsEntitled s'.world.clock userId s'.world.db plan := by
  rw [step_operate hstep]
  rw [takesAway, Bool.not_eq_false', List.any_eq_true] at hkept
  obtain ⟨row', hrow', hentitles⟩ := hkept
  exact ⟨hplan, row', hrow', hentitles⟩

/-- A step that does not take the subscription away leaves its user the plan. -/
theorem isEntitled_step {plan : Plan} {row : Subscription}
    (hrow : row ∈ s.world.db.subscriptions) (hplan : plan ∈ s.world.db.plans)
    (hentitles : entitles s.world.clock userId row plan = true)
    (hkept : takesAway cfg s userId row plan act = false)
    (hstep : step cfg s act = some s') :
    IsEntitled s'.world.clock userId s'.world.db plan := by
  rcases step_world hstep with ⟨ms, rfl⟩ | hworld
  · rw [step_advance hstep]
    exact isEntitled_advance hrow hplan hentitles hkept
  by_cases hmaintain : ∃ tables, act = .operate (.maintain tables)
  · obtain ⟨tables, rfl⟩ := hmaintain
    exact isEntitled_maintain hplan hkept hstep
  have hclock : s'.world.clock = s.world.clock := by
    rw [hworld]
    simp only [actOn]
    split <;> rfl
  -- what the step would have to spare, were it a change of the user's tier
  let keeps : SubscriptionSource → Prop := fun source =>
    ∀ id changes actor, act = .operate (.mutateUser id changes actor) →
      Spares cfg userId id changes source
  have hkeeps : keeps row.source := by
    rintro id changes actor rfl hid hsource
    simp only [takesAway, hid, hsource, beq_self_eq_true, Bool.true_and,
      Bool.or_eq_false_iff, beq_eq_false_iff_ne, Bool.and_eq_false_iff] at hkept
    exact ⟨hkept.1, fun hpremium => hkept.2.resolve_left (not_not_intro hpremium)⟩
  have hrespects : Preserves (IsHeld keeps s.world.clock userId plan)
      s.world.db s'.world.db := by
    refine respects_step_of_nodes framed_isHeld (fun _ _ hheld => hheld) ?_
      (fun tables hact => hmaintain ⟨tables, hact⟩) hstep
    rintro id changes actor hact
    exact respects_applyTier fun source hsource => hsource id changes actor hact
  obtain ⟨hplan', row', hrow', hentitles', -⟩ :=
    hrespects ⟨hplan, row, hrow, hentitles, hkeeps⟩
  rw [hclock]
  exact ⟨hplan', row', hrow', hentitles'⟩

/-- A premium resolution reads a plan that the user is entitled to. -/
theorem isEntitled_resolved
    (htier : (resolveTierAndExpiry cfg now userId db).tier = .premium) :
    ∃ plan, IsEntitled now userId db plan ∧ plan.maxConcurrentSessions =
      (resolveTierAndExpiry cfg now userId db).maxConcurrent := by
  rw [resolveTierAndExpiry] at htier ⊢
  cases hrows : (premiumRows now userId db).insertionSort (endsNoEarlier · ·) with
  | nil =>
      rw [hrows] at htier
      cases htier
  | cons pair rows =>
      have hpair : pair ∈ premiumRows now userId db := by
        rw [← List.mem_insertionSort (endsNoEarlier · ·), hrows]
        exact List.mem_cons_self
      obtain ⟨hrow, hplan, hentitles⟩ := mem_premiumRows.mp hpair
      exact ⟨pair.2, ⟨hplan, pair.1, hrow, hentitles⟩, rfl⟩

theorem stands_step (hkept : Undisturbed cfg s act)
    (hstands : Stands s) (hstep : step cfg s act = some s') : Stands s' := by
  intro input resolved hproc htier
  have hleft : ∀ plan, IsEntitled s.world.clock input.userId s.world.db plan →
      .resolved input resolved ∈ s.connects →
        IsEntitled s'.world.clock input.userId s'.world.db plan := by
    rintro plan ⟨hplan, row, hrow, hentitles⟩ hopen
    exact isEntitled_step hrow hplan hentitles
      (hkept _ hopen _ rfl row hrow plan hplan hentitles) hstep
  rcases connects_step hstep hproc with
    hopen | ⟨_, hadmitted⟩ | ⟨i, draw, reply, proc, rfl, hcurrent, hnext⟩
  · obtain ⟨plan, hentitled, hlimit⟩ := hstands input resolved hopen htier
    exact ⟨plan, hleft plan hentitled hopen, hlimit⟩
  · cases hadmitted
  · cases hnext with
    | resolve =>
        obtain ⟨plan, ⟨hplan, row, hrow, hentitles⟩, hlimit⟩ :=
          isEntitled_resolved htier
        exact ⟨plan, isEntitled_step hrow hplan hentitles rfl hstep, hlimit⟩

/-! ## Over runs -/

/-- In every run in which no premium subscription is taken away from a user
between the resolution and the commit of a connect, each premium session is
entitled at its commit, and its limit is that of a plan of its user. -/
theorem entitled_at_commit (hinit : IsInitial start)
    (hrun : Run (middleware cfg) start trace last)
    (hkept : ∀ entry ∈ trace, Undisturbed cfg entry.1 entry.2) :
    ∀ entry ∈ trace, EntitledAtCommit cfg entry.1 entry.2 := by
  have hstart : Stands start := by
    intro input resolved hproc
    rw [hinit.connects] at hproc
    cases hproc
  have hstands : Always (fun state => Keyed state.world.db ∧ Stands state) trace
      last :=
    hrun.always_of_guard ⟨keyed_initial hinit, hstart⟩
      (fun _ _ _ hinv hguard hstep =>
        ⟨keyed_step hinv.1 hstep, stands_step hguard hinv.2 hstep⟩) hkept
  intro entry hentry
  obtain ⟨hkeyed, hentitled⟩ := hstands.1 entry hentry
  exact entitledAtCommit_of_stands hkeyed hentitled

/-- The small deployment with a premium plan, granted to the user for a day. -/
def grantedDeployment : State where
  world :=
    { db := { smallDb with
        plans := smallDb.plans ++ [{
          id := 2
          code := "admin_grant_premium"
          tier := .premium
          maxConcurrentSessions := 3 }]
        subscriptions := [{
          id := 1
          userId := 1
          planId := 2
          source := .internal
          status := .active
          currentPeriodEnd := some 86400000 }] } }

theorem isInitial_grantedDeployment : IsInitial grantedDeployment :=
  ⟨rfl, rfl, rfl, rfl, fun _ => rfl, rfl, rfl, rfl⟩

/-- Time passes and the grant is renewed between the resolution and the commit. -/
def renewedConnect : List Action :=
  [.requestConnect 1 1 (some smallKey), .connect 0 smallDraw .ok, .advance 1000,
    .operate (.mutateUser 1 { tier := some .premium } {}),
    .connect 0 smallDraw .ok]

theorem entitled_at_commit_renewed : ∃ last,
    Run (middleware {}) grantedDeployment
      (traceOf (middleware {}) grantedDeployment renewedConnect) last ∧
    (∃ row ∈ last.world.db.sessions, row.tier = .premium) ∧
    ∀ entry ∈ traceOf (middleware {}) grantedDeployment renewedConnect,
      EntitledAtCommit {} entry.1 entry.2 := by
  obtain ⟨last, hrun, hpremium⟩ := @exists_run_with _ _ (middleware {})
    grantedDeployment renewedConnect
    (fun last => ∃ row ∈ last.world.db.sessions, row.tier = .premium) _
    (by decide +kernel)
  exact ⟨last, hrun, hpremium, entitled_at_commit isInitial_grantedDeployment hrun
    (by decide +kernel)⟩

/-- An admin takes the grant back between the resolution and the commit. -/
def downgradedConnect : List Action :=
  [.requestConnect 1 1 (some smallKey), .connect 0 smallDraw .ok,
    .operate (.mutateUser 1 { tier := some .free } {})]

theorem premium_after_downgrade : IsInitial grantedDeployment ∧
    ∃ trace mid last, Run (middleware {}) grantedDeployment
      (trace ++ [(mid, .connect 0 smallDraw .ok)]) last ∧
      ¬ EntitledAtCommit {} mid (.connect 0 smallDraw .ok) := by
  obtain ⟨mid, last, hrun, hstep, row, hrow, hfresh, htier, hlapsed⟩ :=
    @exists_run_of_execute _ _ (middleware {}) grantedDeployment
      downgradedConnect (.connect 0 smallDraw .ok)
      (fun mid last => ∃ row ∈ last.world.db.sessions,
        (∀ old ∈ mid.world.db.sessions, old.id ≠ row.id) ∧
        row.tier = .premium ∧ effectiveTier last.world.clock row.userId
          last.world.db ≠ .premium) _ (by decide +kernel)
  refine ⟨isInitial_grantedDeployment, _, mid, last, hrun, fun hentitled => ?_⟩
  exact hlapsed (hentitled last hstep row hrow hfresh htier).1

end VpnMiddleware.Entitlement
