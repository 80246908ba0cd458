import VpnMiddleware.Admin.AdminStats
import VpnMiddleware.Invariants.Entitlement

/-!
# One entitlement rule, three copies

`effective_tier` asks whether an entitled row exists, `resolveTierAndExpiry`
takes the first in the order of the ends, and the dashboard counts the users
who have one.
-/

namespace VpnMiddleware.EntitlementCopies

open VpnMiddleware.Schema VpnMiddleware.Environment
open VpnMiddleware.ConnectionService VpnMiddleware.Entitlement
open VpnMiddleware.AdminStats

variable {cfg : Config} {now userId : ℕ} {db : Db}

/-! ## The order of the ends -/

instance endsNoEarlier_total :
    Std.Total (fun left right => endsNoEarlier left right = true) where
  total left right := by
    simp only [endsNoEarlier]
    cases left.1.currentPeriodEnd <;> cases right.1.currentPeriodEnd <;> simp
    exact Nat.le_total _ _

instance endsNoEarlier_trans :
    IsTrans (Subscription × Plan)
      (fun left right => endsNoEarlier left right = true) where
  trans first second third := by
    simp only [endsNoEarlier]
    cases first.1.currentPeriodEnd <;> cases second.1.currentPeriodEnd <;>
      cases third.1.currentPeriodEnd <;> simp
    exact fun hfirst hsecond => Nat.le_trans hsecond hfirst

/-- The row that the limit leaves ends no earlier than any other. -/
theorem endsNoEarlier_of_head {first : Subscription × Plan}
    {rest : List (Subscription × Plan)}
    (hsorted : (premiumRows now userId db).insertionSort (endsNoEarlier · ·) =
      first :: rest) :
    first ∈ premiumRows now userId db ∧
      ∀ other ∈ premiumRows now userId db, endsNoEarlier first other = true := by
  have hpairwise := List.pairwise_insertionSort
    (fun left right => endsNoEarlier left right = true) (premiumRows now userId db)
  rw [hsorted, List.pairwise_cons] at hpairwise
  have hmem : ∀ other, other ∈ premiumRows now userId db ↔ other ∈ first :: rest := by
    intro other
    rw [← hsorted, List.mem_insertionSort]
  constructor
  · exact (hmem first).mpr List.mem_cons_self
  · intro other hother
    rcases List.mem_cons.mp ((hmem other).mp hother) with rfl | hrest
    · exact (or_self_iff.mp (endsNoEarlier_total.total other other))
    · exact hpairwise.1 other hrest

/-! ## The three copies -/

theorem resolveTier_eq_premium_iff :
    (resolveTierAndExpiry cfg now userId db).tier = .premium ↔
      premiumRows now userId db ≠ [] := by
  rw [resolveTierAndExpiry]
  cases hsorted : (premiumRows now userId db).insertionSort (endsNoEarlier · ·) with
  | nil =>
      have hlength := congrArg List.length hsorted
      rw [List.length_insertionSort] at hlength
      simp [List.length_eq_zero_iff.mp hlength]
  | cons first rest =>
      have hfirst := (endsNoEarlier_of_head hsorted).1
      simp [List.ne_nil_of_mem hfirst]

/-- The resolution and the schema's function agree. -/
theorem resolveTier_iff_effectiveTier :
    (resolveTierAndExpiry cfg now userId db).tier = .premium ↔
      effectiveTier now userId db = .premium := by
  rw [resolveTier_eq_premium_iff, effectiveTier_eq_premium_iff]
  constructor
  · intro hrows
    obtain ⟨⟨row, plan⟩, hpair⟩ := List.exists_mem_of_ne_nil _ hrows
    obtain ⟨hrow, hplan, hentitles⟩ := mem_premiumRows.mp hpair
    exact ⟨plan, hplan, row, hrow, hentitles⟩
  · rintro ⟨plan, hplan, row, hrow, hentitles⟩
    exact List.ne_nil_of_mem (mem_premiumRows.mpr ⟨hrow, hplan, hentitles⟩)

/-- The dashboard counts the rows that the rule entitles. -/
theorem mem_joined_iff {row : Subscription} {plan : Plan} :
    ((row, plan) ∈ joinedPlans db ∧
        (plan.tier == .premium && isCurrent now row) = true) ↔
      row ∈ db.subscriptions ∧ plan ∈ db.plans ∧
        entitles now row.userId row plan = true := by
  simp only [joinedPlans, List.mem_flatMap, List.mem_map, List.mem_filter,
    Prod.mk.injEq, entitles, isCurrent, Bool.and_eq_true, beq_self_eq_true,
    and_true]
  constructor
  · rintro ⟨⟨_, hrow, _, ⟨hplan, hid⟩, rfl, rfl⟩, htier, hstatus, hend⟩
    exact ⟨hrow, hplan, ⟨⟨hid, htier⟩, hstatus⟩, hend⟩
  · rintro ⟨hrow, hplan, ⟨⟨hid, htier⟩, hstatus⟩, hend⟩
    exact ⟨⟨row, hrow, plan, ⟨hplan, hid⟩, rfl, rfl⟩, htier, hstatus, hend⟩

theorem userId_eq_of_entitles {row : Subscription} {plan : Plan}
    (hentitles : entitles now userId row plan = true) : row.userId = userId := by
  simp only [entitles, Bool.and_eq_true, beq_iff_eq] at hentitles
  exact hentitles.1.1.1.2

/-- The dashboard's users are those with a row of the resolution's query. -/
theorem mem_premiumUserIds :
    userId ∈ premiumUserIds now db ↔
      (resolveTierAndExpiry cfg now userId db).tier = .premium := by
  rw [resolveTier_eq_premium_iff, premiumUserIds, List.mem_dedup, List.mem_map]
  constructor
  · rintro ⟨⟨row, plan⟩, hpair, rfl⟩
    obtain ⟨hrow, hplan, hentitles⟩ :=
      mem_joined_iff.mp (List.mem_filter.mp hpair)
    exact List.ne_nil_of_mem (mem_premiumRows.mpr ⟨hrow, hplan, hentitles⟩)
  · intro hrows
    obtain ⟨⟨row, plan⟩, hpair⟩ := List.exists_mem_of_ne_nil _ hrows
    obtain ⟨hrow, hplan, hentitles⟩ := mem_premiumRows.mp hpair
    obtain rfl := userId_eq_of_entitles hentitles
    have hjoined := mem_joined_iff.mpr ⟨hrow, hplan, hentitles⟩
    exact ⟨(row, plan), List.mem_filter.mpr hjoined, rfl⟩

/-! ## Expiry and limit -/

/-- What the resolution chooses: an entitled row with the greatest end, or one
without an end if no entitled row has one. -/
structure IsChoice (cfg : Config) (now userId : ℕ) (db : Db)
    (row : Subscription) (plan : Plan) (resolved : Resolved) : Prop where
  entitled : row ∈ db.subscriptions ∧ plan ∈ db.plans ∧
    entitles now userId row plan = true
  limit : resolved.maxConcurrent = plan.maxConcurrentSessions
  greatest : ∀ periodEnd ∈ row.currentPeriodEnd,
    resolved.expiresAt = periodEnd ∧ now < periodEnd ∧
      ∀ other ∈ db.subscriptions, ∀ otherPlan ∈ db.plans,
        entitles now userId other otherPlan = true →
          ∀ otherEnd ∈ other.currentPeriodEnd, otherEnd ≤ periodEnd
  open_ended : row.currentPeriodEnd = none →
    resolved.expiresAt = now + cfg.premiumFallbackTtlMs ∧
      ∀ other ∈ db.subscriptions, ∀ otherPlan ∈ db.plans,
        entitles now userId other otherPlan = true →
          other.currentPeriodEnd = none

theorem exists_choice
    (hpremium : (resolveTierAndExpiry cfg now userId db).tier = .premium) :
    ∃ row plan, IsChoice cfg now userId db row plan
      (resolveTierAndExpiry cfg now userId db) := by
  rw [resolveTierAndExpiry] at hpremium ⊢
  cases hsorted : (premiumRows now userId db).insertionSort (endsNoEarlier · ·) with
  | nil =>
      rw [hsorted] at hpremium
      cases hpremium
  | cons first rest =>
      obtain ⟨row, plan⟩ := first
      obtain ⟨hmem, hfirst⟩ := endsNoEarlier_of_head hsorted
      have hentitled := mem_premiumRows.mp hmem
      have hbefore : ∀ other ∈ db.subscriptions, ∀ otherPlan ∈ db.plans,
          entitles now userId other otherPlan = true →
            endsNoEarlier (row, plan) (other, otherPlan) = true := by
        intro other hother otherPlan hotherPlan hentitles
        exact hfirst _ (mem_premiumRows.mpr ⟨hother, hotherPlan, hentitles⟩)
      refine ⟨row, plan, hentitled, rfl, ?_, ?_⟩
      · intro periodEnd hend
        rw [Option.mem_def] at hend
        refine ⟨by simp [hend], ?_, ?_⟩
        · have hentitles := hentitled.2.2
          simp only [entitles, hend, Option.all_some, Bool.and_eq_true,
            decide_eq_true_eq] at hentitles
          exact hentitles.2
        · intro other hother otherPlan hotherPlan hentitles otherEnd hotherEnd
          have horder := hbefore other hother otherPlan hotherPlan hentitles
          rw [Option.mem_def] at hotherEnd
          simpa [endsNoEarlier, hend, hotherEnd] using horder
      · intro hnone
        refine ⟨by simp [hnone], ?_⟩
        intro other hother otherPlan hotherPlan hentitles
        have horder := hbefore other hother otherPlan hotherPlan hentitles
        cases hotherEnd : other.currentPeriodEnd with
        | none => rfl
        | some otherEnd => simp [endsNoEarlier, hnone, hotherEnd] at horder

/-- The resolution, the schema's function and the dashboard agree on who is
premium; a premium expiry lies ahead and is the greatest there is. -/
theorem one_rule (cfg : Config) (now : ℕ) (db : Db) :
    (∀ userId, (resolveTierAndExpiry cfg now userId db).tier = .premium ↔
      effectiveTier now userId db = .premium) ∧
    (∃ premium : List ℕ, premium.Nodup ∧
      (∀ userId, userId ∈ premium ↔
        (resolveTierAndExpiry cfg now userId db).tier = .premium) ∧
      premiumUsers now db = premium.length) ∧
    ∀ userId, (resolveTierAndExpiry cfg now userId db).tier = .premium →
      (0 < cfg.premiumFallbackTtlMs →
        now < (resolveTierAndExpiry cfg now userId db).expiresAt) ∧
      ∃ row plan, IsChoice cfg now userId db row plan
        (resolveTierAndExpiry cfg now userId db) := by
  refine ⟨fun userId => resolveTier_iff_effectiveTier,
    ⟨premiumUserIds now db, List.nodup_dedup _, fun userId => mem_premiumUserIds,
      rfl⟩, ?_⟩
  intro userId hpremium
  obtain ⟨row, plan, hchoice⟩ := exists_choice hpremium
  refine ⟨?_, row, plan, hchoice⟩
  intro hfallback
  cases hend : row.currentPeriodEnd with
  | none =>
      rw [(hchoice.open_ended hend).1]
      exact Nat.lt_add_of_pos_right hfallback
  | some periodEnd =>
      obtain ⟨hexpires, hahead, -⟩ := hchoice.greatest periodEnd hend
      rw [hexpires]
      exact hahead

/-- A subscription without an end. -/
def openEnded : Db where
  plans := [{ id := 1, code := "premium", tier := .premium }]
  subscriptions :=
    [{ id := 1, userId := 7, planId := 1, source := .internal, status := .active }]

theorem one_rule_openEnded :
    0 < (resolveTierAndExpiry {} 0 7 openEnded).expiresAt ∧
      ∃ row plan, IsChoice {} 0 7 openEnded row plan
        (resolveTierAndExpiry {} 0 7 openEnded) := by
  obtain ⟨-, -, hchoice⟩ := one_rule {} 0 openEnded
  obtain ⟨hahead, hexists⟩ := hchoice 7 (by decide +kernel)
  exact ⟨hahead (by decide), hexists⟩

end VpnMiddleware.EntitlementCopies
