import Mathlib.Data.Finset.Card
import VpnMiddleware.Core.Counting
import VpnMiddleware.Invariants.Keys

/-!
# Conservation of ad-earned time

The credits and claims of a run are read off its steps.  The ledger invariant
ties them to the columns of grants, rewards and sessions, whatever the order
of callbacks, replays and claims.
-/

namespace VpnMiddleware.AdGrants

open VpnMiddleware.Schema VpnMiddleware.Environment VpnMiddleware.Database
open VpnMiddleware.Transaction VpnMiddleware.Table VpnMiddleware.Closing
open VpnMiddleware.Counting VpnMiddleware.TransitionSystem
open VpnMiddleware.Shared VpnMiddleware.Middleware VpnMiddleware.Statements
open VpnMiddleware.Evolution VpnMiddleware.Keys VpnMiddleware.AdsService
open VpnMiddleware.ConnectionService VpnMiddleware.VerifyFlow

variable {cfg : Config} {s s' : State} {act : Action}
variable {trace : List (State × Action)}

/-! ## Credits and claims of a run -/

/-- A verified ad transaction counted for a grant. -/
structure Credit where
  network : AdNetwork
  transactionId : String
  grantId : ℕ
  deriving DecidableEq, Repr

def Credit.key (credit : Credit) : AdNetwork × String :=
  (credit.network, credit.transactionId)

def rewardKey (row : Reward) : AdNetwork × String :=
  (row.network, row.transactionId)

/-- The credit that an SSV callback books. -/
def creditOf (s : State) : Action → Option Credit
  | .operate (.admobSsv reward) =>
      match recordVerifiedReward s.world.clock reward s.world.db with
      | .ok (.counted grantId, _) =>
          some ⟨.admob, reward.transactionId, grantId⟩
      | _ => none
  | _ => none

def credits (trace : List (State × Action)) : List Credit :=
  trace.filterMap fun entry => creditOf entry.1 entry.2

/-- The transactions credited to a grant. -/
def creditedTo (grantId : ℕ) (trace : List (State × Action)) :
    List (AdNetwork × String) :=
  ((credits trace).filter fun credit => credit.grantId == grantId).map Credit.key

/-- A grant consumed for a session. -/
structure Claim where
  grantId : ℕ
  sessionId : ℕ
  deriving DecidableEq, Repr

/-- The claim that a `verifyAdReward` commits; a replay claims nothing. -/
def claimOf (cfg : Config) (s : State) : Action → Option Claim
  | .verifyAdReward input =>
      match verifyTransaction cfg s.world.clock input.userId input.grantId
        input.sessionId s.world.db with
      | .ok (.extend sessionId _ _ _ _, _) => some ⟨input.grantId, sessionId⟩
      | _ => none
  | _ => none

def claims (cfg : Config) (trace : List (State × Action)) : List Claim :=
  trace.filterMap fun entry => claimOf cfg entry.1 entry.2

/-- The sessions that a grant was consumed for. -/
def claimedFor (cfg : Config) (grantId : ℕ) (trace : List (State × Action)) :
    List ℕ :=
  ((claims cfg trace).filter fun claim => claim.grantId == grantId).map
    Claim.sessionId

/-- A consumed grant that extended a session. -/
def funds (sessionId : ℕ) (grant : Grant) : Bool :=
  grant.status == .consumed && decide (0 < grant.grantMinutes) &&
    grant.sessionId == some sessionId

theorem disjoint_funds : Disjoint funds := by
  intro grant left right hleft hright
  simp only [funds, Bool.and_eq_true, beq_iff_eq] at hleft hright
  exact Option.some.inj (hleft.2.symm.trans hright.2)

/-! ## What a step does to grants, rewards and extension counters -/

/-- A session that is not extended: an old one with its counter, or a new
one. -/
def Unextended (s : State) (row' : Session) : Prop :=
  (∃ row ∈ s.world.db.sessions, row'.id = row.id ∧
    row'.extensionsCount = row.extensionsCount) ∨
  (row'.extensionsCount = 0 ∧ ∀ row ∈ s.world.db.sessions, row.id ≠ row'.id)

/-- The tables that the ledger reads, before and after a step. -/
inductive Booking (cfg : Config) (s : State) (act : Action) (after : Db) : Prop
  | quiet (added : List Grant) : creditOf s act = none →
      claimOf cfg s act = none → GrantsAdded cfg s added →
      after.grants = s.world.db.grants ++ added →
      s.world.db.rewards ⊆ after.rewards →
      (∀ row' ∈ after.sessions, Unextended s row') → Booking cfg s act after
  | counted (reward : AdMobReward) (grant : Grant) :
      creditOf s act = some ⟨.admob, reward.transactionId, grant.id⟩ →
      claimOf cfg s act = none → grant ∈ s.world.db.grants →
      isOpen s.world.clock grant = true →
      isDuplicate (rewardRow s.world.clock grant.id reward) s.world.db.rewards =
        false →
      after = withCountedReward s.world.clock reward grant s.world.db →
      Booking cfg s act after
  | claimed (input : VerifyInput) (grant : Grant) (session : Session) :
      creditOf s act = none →
      claimOf cfg s act = some ⟨grant.id, session.id⟩ →
      Claimed cfg s.world.clock input.userId input.grantId input.sessionId
        s.world.db grant session →
      after.grants = updateWhere (fun row => row.id == grant.id)
        (consume s.world.clock session.id) s.world.db.grants →
      after.rewards = s.world.db.rewards →
      (after.sessions = s.world.db.sessions ∧ grant.grantMinutes = 0 ∨
        0 < grant.grantMinutes ∧ ∃ newExpires,
          after.sessions = updateWhere (fun row => row.id == session.id)
            (extendRow grant.id newExpires) s.world.db.sessions) →
      Booking cfg s act after

private theorem unextended_same {after : Db}
    (hsessions : after.sessions = s.world.db.sessions) :
    ∀ row' ∈ after.sessions, Unextended s row' :=
  fun row' hrow' => Or.inl ⟨row', hsessions ▸ hrow', rfl, rfl⟩

private theorem Booking.idle (hcredit : creditOf s act = none)
    (hclaim : claimOf cfg s act = none) : Booking cfg s act s.world.db :=
  .quiet [] hcredit hclaim (Or.inl rfl) (by simp) (fun _ hmem => hmem)
    (unextended_same rfl)

theorem booking_admobSsv {reward : AdMobReward} :
    Booking cfg s (.operate (.admobSsv reward))
      (withTransaction (recordVerifiedReward s.world.clock reward)
        s.world.db).2 := by
  cases hrun : recordVerifiedReward s.world.clock reward s.world.db with
  | error cause =>
      rw [withTransaction_of_error hrun]
      exact Booking.idle (by simp [creditOf, hrun]) rfl
  | ok result =>
      obtain ⟨outcome, after⟩ := result
      rw [withTransaction_of_ok hrun]
      rcases recordVerifiedReward_ok hrun with
        ⟨houtcome, rfl⟩ | ⟨grant, hgrant, hduplicate, hpath⟩
      · refine Booking.idle ?_ rfl
        rcases houtcome with rfl | rfl <;> simp [creditOf, hrun]
      · rcases hpath with ⟨rfl, rfl⟩ | ⟨rfl, hopen, hafter⟩
        · refine .quiet [] (by simp [creditOf, hrun]) rfl (Or.inl rfl)
            (by simp [withReward]) ?_ (unextended_same rfl)
          exact List.subset_append_left _ _
        · exact .counted reward grant (by simp [creditOf, hrun]) rfl hgrant hopen
            hduplicate hafter

theorem booking_verifyAdReward {input : VerifyInput} :
    Booking cfg s (.verifyAdReward input)
      (withTransaction (verifyTransaction cfg s.world.clock input.userId
        input.grantId input.sessionId) s.world.db).2 := by
  cases hrun : verifyTransaction cfg s.world.clock input.userId input.grantId
      input.sessionId s.world.db with
  | error cause =>
      rw [withTransaction_of_error hrun]
      exact Booking.idle rfl (by simp [claimOf, hrun])
  | ok result =>
      obtain ⟨planned, after⟩ := result
      rw [withTransaction_of_ok hrun]
      cases verifyTransaction_ok hrun with
      | replay => exact Booking.idle rfl (by simp [claimOf, hrun])
      | @claim grant session hclaimed hzero =>
          refine .claimed input grant session rfl ?_ hclaimed ?_ rfl
            (Or.inl ⟨rfl, hzero⟩)
          · simp [claimOf, hrun, hclaimed.grant_id, hclaimed.session_id]
          · rw [hclaimed.grant_id, hclaimed.session_id]
            rfl
      | @extend grant session newExpires hclaimed hpos _ =>
          refine .claimed input grant session rfl ?_ hclaimed ?_ rfl
            (Or.inr ⟨hpos, newExpires, ?_⟩)
          · simp [claimOf, hrun, hclaimed.grant_id, hclaimed.session_id]
          · rw [hclaimed.grant_id]
            rfl
          · rw [hclaimed.grant_id]
            rfl

theorem booking_other {after : Db} (heffects : Effects cfg s act after)
    (hssv : ∀ reward, act ≠ .operate (.admobSsv reward))
    (hverify : ∀ input, act ≠ .verifyAdReward input) :
    Booking cfg s act after := by
  have hcredit : creditOf s act = none := by
    unfold creditOf
    split
    · exact absurd rfl (hssv _)
    · rfl
  have hclaim : claimOf cfg s act = none := by
    unfold claimOf
    split
    · exact absurd rfl (hverify _)
    · rfl
  obtain ⟨added, hadded, hgrants⟩ := heffects.grants.exists_append (by
    intro row row' hchange
    cases hchange with
    | same => rfl
    | counted hact _ _ => exact absurd hact (hssv _)
    | consumed hact _ => exact absurd hact (hverify _))
  refine .quiet added hcredit hclaim hadded hgrants
    (by rw [heffects.rewards hssv]; exact fun _ hmem => hmem) ?_
  intro row' hrow'
  rcases heffects.sessions.backward hrow' with
    ⟨row, hrow, hchange⟩ | ⟨_, hadded, hmem⟩
  · left
    refine ⟨row, hrow, (SessionChange.identity hchange).id, ?_⟩
    cases hchange with
    | extended hact _ _ _ _ => exact absurd hact (hverify _)
    | _ => rfl
  · right
    cases hadded with
    | none => simp at hmem
    | phaseA _ hfresh _ =>
        rw [List.mem_singleton] at hmem
        subst hmem
        exact ⟨rfl, hfresh⟩

/-- Every step books at most one credit or one claim. -/
theorem step_booking (hkeyed : Keyed s.world.db)
    (hstep : step cfg s act = some s') : Booking cfg s act s'.world.db := by
  by_cases hssv : ∃ reward, act = .operate (.admobSsv reward)
  · obtain ⟨reward, rfl⟩ := hssv
    have hdb := (step_db hstep).trans (withTransaction_effect
      (recordVerifiedReward s.world.clock reward) s.world.db)
    exact hdb ▸ booking_admobSsv
  · by_cases hverify : ∃ input, act = .verifyAdReward input
    · obtain ⟨input, rfl⟩ := hverify
      have hdb := (step_db hstep).trans (withTransaction_effect
        (verifyTransaction cfg s.world.clock input.userId input.grantId
          input.sessionId) s.world.db)
      exact hdb ▸ booking_verifyAdReward
    · exact booking_other (step_effects hkeyed hstep)
        (fun reward hact => hssv ⟨reward, hact⟩)
        (fun input hact => hverify ⟨input, hact⟩)

/-! ## The ledger -/

/-- The counter of a grant agrees with its requirement and status. -/
structure GrantSound (grant : Grant) : Prop where
  required : 1 ≤ grant.requiredAds
  bounded : grant.verifiedAds ≤ grant.requiredAds
  open_below : grant.status = .pending → grant.verifiedAds < grant.requiredAds
  consumed_full : grant.status = .consumed → grant.requiredAds ≤ grant.verifiedAds

/-- The sessions that a grant is recorded as consumed for. -/
def boundSessions (grant : Grant) : List ℕ :=
  if grant.status = .consumed then grant.sessionId.toList else []

/-- What the tables say about the credits and claims of the run so far. -/
structure Ledger (cfg : Config) (trace : List (State × Action)) (s : State) :
    Prop where
  keyed : Keyed s.world.db
  credited : ((credits trace).map Credit.key).Nodup
  rewarded : ∀ credit ∈ credits trace,
    credit.key ∈ s.world.db.rewards.map rewardKey
  credit_known : ∀ credit ∈ credits trace,
    ∃ grant ∈ s.world.db.grants, grant.id = credit.grantId
  claim_known : ∀ claim ∈ claims cfg trace,
    ∃ grant ∈ s.world.db.grants, grant.id = claim.grantId
  sound : ∀ grant ∈ s.world.db.grants, GrantSound grant
  verified : ∀ grant ∈ s.world.db.grants,
    grant.verifiedAds = (creditedTo grant.id trace).length
  claimed : ∀ grant ∈ s.world.db.grants,
    claimedFor cfg grant.id trace = boundSessions grant
  owned : ∀ grant ∈ s.world.db.grants, grant.status = .consumed →
    ∃ session ∈ s.world.db.sessions, grant.sessionId = some session.id ∧
      session.userId = grant.userId
  extensions : ∀ session ∈ s.world.db.sessions,
    session.extensionsCount = s.world.db.grants.countP (funds session.id)

theorem ledger_initial (hinit : IsInitial s) : Ledger cfg [] s where
  keyed := keyed_initial hinit
  credited := List.nodup_nil
  rewarded := by simp [credits]
  credit_known := by simp [credits]
  claim_known := by simp [claims]
  sound := by simp [hinit.grants]
  verified := by simp [hinit.grants]
  claimed := by simp [hinit.grants]
  owned := by simp [hinit.grants]
  extensions := by simp [hinit.sessions]

section Append

theorem credits_append (trace : List (State × Action)) (s : State)
    (act : Action) :
    credits (trace ++ [(s, act)]) =
      credits trace ++ (creditOf s act).toList := by
  cases hcredit : creditOf s act <;> simp [credits, hcredit]

theorem claims_append (trace : List (State × Action)) (s : State)
    (act : Action) :
    claims cfg (trace ++ [(s, act)]) =
      claims cfg trace ++ (claimOf cfg s act).toList := by
  cases hclaim : claimOf cfg s act <;> simp [claims, hclaim]

theorem creditedTo_append_none (hcredit : creditOf s act = none) (grantId : ℕ) :
    creditedTo grantId (trace ++ [(s, act)]) = creditedTo grantId trace := by
  simp [creditedTo, credits_append, hcredit]

theorem claimedFor_append_none (hclaim : claimOf cfg s act = none)
    (grantId : ℕ) :
    claimedFor cfg grantId (trace ++ [(s, act)]) =
      claimedFor cfg grantId trace := by
  simp [claimedFor, claims_append, hclaim]

/-- Nothing is credited to a grant that does not exist yet. -/
theorem Ledger.creditedTo_fresh (hledger : Ledger cfg trace s) {grantId : ℕ}
    (hfresh : ∀ row ∈ s.world.db.grants, row.id ≠ grantId) :
    creditedTo grantId trace = [] := by
  rw [creditedTo, List.map_eq_nil_iff, List.filter_eq_nil_iff]
  intro credit hcredit hid
  obtain ⟨grant, hgrant, hknown⟩ := hledger.credit_known credit hcredit
  exact hfresh grant hgrant (hknown.trans (by simpa using hid))

theorem Ledger.claimedFor_fresh (hledger : Ledger cfg trace s) {grantId : ℕ}
    (hfresh : ∀ row ∈ s.world.db.grants, row.id ≠ grantId) :
    claimedFor cfg grantId trace = [] := by
  rw [claimedFor, List.map_eq_nil_iff, List.filter_eq_nil_iff]
  intro claim hclaim hid
  obtain ⟨grant, hgrant, hknown⟩ := hledger.claim_known claim hclaim
  exact hfresh grant hgrant (hknown.trans (by simpa using hid))

/-- No consumed grant is bound to a session that does not exist yet. -/
theorem Ledger.funds_fresh (hledger : Ledger cfg trace s) {sessionId : ℕ}
    (hfresh : ∀ row ∈ s.world.db.sessions, row.id ≠ sessionId) :
    s.world.db.grants.countP (funds sessionId) = 0 := by
  rw [List.countP_eq_zero]
  intro grant hgrant hfunds
  simp only [funds, Bool.and_eq_true, beq_iff_eq] at hfunds
  obtain ⟨session, hsession, hbound, -⟩ :=
    hledger.owned grant hgrant hfunds.1.1
  exact hfresh session hsession (Option.some.inj (hbound.symm.trans hfunds.2))

end Append

/-- The owner of a consumed grant's session stays in the table. -/
theorem owned_forward (hkeyed : Keyed s.world.db)
    (hstep : step cfg s act = some s') {sessionId userId : ℕ}
    (howned : ∃ session ∈ s.world.db.sessions, session.id = sessionId ∧
      session.userId = userId) :
    ∃ session ∈ s'.world.db.sessions, session.id = sessionId ∧
      session.userId = userId := by
  obtain ⟨session, hsession, hid, huser⟩ := howned
  obtain ⟨session', hsession', hid', hchange⟩ :=
    exists_sessionChange hkeyed hstep hsession
  have hsame := SessionChange.identity hchange
  exact ⟨session', hsession', hid'.trans hid, hsame.userId.trans huser⟩

theorem Ledger.owned_step (hledger : Ledger cfg trace s)
    (hstep : step cfg s act = some s') {grant : Grant}
    (hgrant : grant ∈ s.world.db.grants) (hconsumed : grant.status = .consumed) :
    ∃ session ∈ s'.world.db.sessions, grant.sessionId = some session.id ∧
      session.userId = grant.userId := by
  obtain ⟨session, hsession, hbound, huser⟩ :=
    hledger.owned grant hgrant hconsumed
  obtain ⟨session', hsession', hid, huser'⟩ :=
    owned_forward hledger.keyed hstep ⟨session, hsession, rfl, huser⟩
  exact ⟨session', hsession', by rw [hbound, hid], huser'⟩

theorem IsMinted.sound {grant : Grant} (hminted : IsMinted cfg s grant)
    (hpos : 1 ≤ cfg.requiredAds) : GrantSound grant where
  required := hminted.required hpos
  bounded := by simp [hminted.unverified]
  open_below := fun _ => by
    have hrequired := hminted.required hpos
    rw [hminted.unverified]
    omega
  consumed_full := fun hconsumed => by simp [hminted.pending] at hconsumed

/-- A step that books nothing. -/
theorem ledger_quiet (hpos : 1 ≤ cfg.requiredAds) (hledger : Ledger cfg trace s)
    (hstep : step cfg s act = some s') {added : List Grant}
    (hcredit : creditOf s act = none) (hclaim : claimOf cfg s act = none)
    (hadded : GrantsAdded cfg s added)
    (hgrants : s'.world.db.grants = s.world.db.grants ++ added)
    (hrewards : s.world.db.rewards ⊆ s'.world.db.rewards)
    (hsessions : ∀ row' ∈ s'.world.db.sessions, Unextended s row') :
    Ledger cfg (trace ++ [(s, act)]) s' := by
  have hcredits : credits (trace ++ [(s, act)]) = credits trace := by
    simp [credits_append, hcredit]
  have hclaims : claims cfg (trace ++ [(s, act)]) = claims cfg trace := by
    simp [claims_append, hclaim]
  have hmem : ∀ grant ∈ s'.world.db.grants,
      grant ∈ s.world.db.grants ∨ IsMinted cfg s grant := by
    intro grant hgrant
    rw [hgrants, List.mem_append] at hgrant
    refine hgrant.imp_right fun hnew => ?_
    rcases hadded with rfl | ⟨minted, hminted, rfl⟩
    · simp at hnew
    · exact List.mem_singleton.mp hnew ▸ hminted
  have hkept : ∀ grant ∈ s.world.db.grants, grant ∈ s'.world.db.grants :=
    fun grant hgrant => hgrants ▸ List.mem_append_left _ hgrant
  have hfunds : ∀ sessionId, s'.world.db.grants.countP (funds sessionId) =
      s.world.db.grants.countP (funds sessionId) := by
    intro sessionId
    rw [hgrants, List.countP_append, Nat.add_eq_left, List.countP_eq_zero]
    intro grant hgrant
    rcases hadded with rfl | ⟨minted, hminted, rfl⟩
    · simp at hgrant
    · rw [List.mem_singleton] at hgrant
      simp [funds, hgrant, hminted.pending]
  refine
    { keyed := keyed_step hledger.keyed hstep
      credited := hcredits ▸ hledger.credited
      rewarded := ?_
      credit_known := ?_
      claim_known := ?_
      sound := ?_
      verified := ?_
      claimed := ?_
      owned := ?_
      extensions := ?_ }
  · rw [hcredits]
    intro credit hmem
    exact List.map_subset _ hrewards (hledger.rewarded credit hmem)
  · rw [hcredits]
    intro credit hmem
    obtain ⟨grant, hgrant, hid⟩ := hledger.credit_known credit hmem
    exact ⟨grant, hkept grant hgrant, hid⟩
  · rw [hclaims]
    intro claim hmem
    obtain ⟨grant, hgrant, hid⟩ := hledger.claim_known claim hmem
    exact ⟨grant, hkept grant hgrant, hid⟩
  · intro grant hgrant
    rcases hmem grant hgrant with hold | hminted
    · exact hledger.sound grant hold
    · exact IsMinted.sound hminted hpos
  · intro grant hgrant
    rw [creditedTo_append_none hcredit]
    rcases hmem grant hgrant with hold | hminted
    · exact hledger.verified grant hold
    · rw [hledger.creditedTo_fresh hminted.fresh, hminted.unverified]
      rfl
  · intro grant hgrant
    rw [claimedFor_append_none hclaim]
    rcases hmem grant hgrant with hold | hminted
    · exact hledger.claimed grant hold
    · rw [hledger.claimedFor_fresh hminted.fresh]
      simp [boundSessions, hminted.pending]
  · intro grant hgrant hconsumed
    rcases hmem grant hgrant with hold | hminted
    · exact hledger.owned_step hstep hold hconsumed
    · simp [hminted.pending] at hconsumed
  · intro row' hrow'
    rw [hfunds]
    rcases hsessions row' hrow' with ⟨row, hrow, hid, hcount⟩ | ⟨hzero, hfresh⟩
    · rw [hcount, hid]
      exact hledger.extensions row hrow
    · rw [hzero, hledger.funds_fresh hfresh]

/-! ### A counted callback -/

theorem funds_eq_false {sessionId : ℕ} {grant : Grant}
    (hopen : grant.status ≠ .consumed) : funds sessionId grant = false := by
  simp [funds, hopen]

theorem isDuplicate_eq_false {row : Reward} {rewards : List Reward}
    (hnew : isDuplicate row rewards = false) :
    rewardKey row ∉ rewards.map rewardKey := by
  intro hmem
  obtain ⟨other, hother, hkey⟩ := List.mem_map.mp hmem
  simp only [rewardKey, Prod.mk.injEq] at hkey
  have hnone := List.any_eq_false.mp hnew other hother
  simp [hkey.1, hkey.2] at hnone

theorem GrantSound.countAd {now : ℕ} {grant : Grant} (hsound : GrantSound grant)
    (hpending : grant.status = .pending) :
    GrantSound (countAd now grant grant) where
  required := hsound.required
  bounded := hsound.open_below hpending
  open_below := fun hopen => by
    by_contra hfull
    have hrequired : grant.requiredAds ≤ grant.verifiedAds + 1 := by
      simpa [AdsService.countAd] using hfull
    simp [AdsService.countAd, hrequired] at hopen
  consumed_full := fun hconsumed => absurd hconsumed (countAd_status hpending)

theorem ledger_counted (hledger : Ledger cfg trace s)
    (hstep : step cfg s act = some s') {reward : AdMobReward} {grant : Grant}
    (hcredit : creditOf s act = some ⟨.admob, reward.transactionId, grant.id⟩)
    (hclaim : claimOf cfg s act = none) (hgrant : grant ∈ s.world.db.grants)
    (hopen : isOpen s.world.clock grant = true)
    (hnew : isDuplicate (rewardRow s.world.clock grant.id reward)
      s.world.db.rewards = false)
    (hafter : s'.world.db =
      withCountedReward s.world.clock reward grant s.world.db) :
    Ledger cfg (trace ++ [(s, act)]) s' := by
  have hpending := isOpen_pending hopen
  have hcredits : credits (trace ++ [(s, act)]) =
      credits trace ++ [⟨.admob, reward.transactionId, grant.id⟩] := by
    simp [credits_append, hcredit]
  have hclaims : claims cfg (trace ++ [(s, act)]) = claims cfg trace := by
    simp [claims_append, hclaim]
  have hgrants : s'.world.db.grants = updateWhere (fun row => row.id == grant.id)
      (countAd s.world.clock grant) s.world.db.grants := by
    rw [hafter]
    rfl
  have hrewards : s'.world.db.rewards = s.world.db.rewards ++
      [rewardRow s.world.clock grant.id reward] := by
    rw [hafter]
    rfl
  have hsessions : s'.world.db.sessions = s.world.db.sessions := by
    rw [hafter]
    rfl
  have hmem : ∀ row' ∈ s'.world.db.grants,
      row' = countAd s.world.clock grant grant ∨
        (row' ∈ s.world.db.grants ∧ row'.id ≠ grant.id) :=
    fun row' hrow' => mem_updateWhere_key hledger.keyed.grants hgrant
      (hgrants ▸ hrow')
  have hknown : ∀ id, (∃ row ∈ s.world.db.grants, row.id = id) →
      ∃ row ∈ s'.world.db.grants, row.id = id :=
    fun id hexists => hgrants ▸ exists_key_updateWhere (fun _ => rfl) hexists
  refine
    { keyed := keyed_step hledger.keyed hstep
      credited := ?_
      rewarded := ?_
      credit_known := ?_
      claim_known := fun claim hmem => hknown _ (hledger.claim_known claim
        (hclaims ▸ hmem))
      sound := ?_
      verified := ?_
      claimed := ?_
      owned := ?_
      extensions := ?_ }
  · rw [hcredits, List.map_append, List.map_singleton]
    refine hledger.credited.append (List.nodup_singleton _) ?_
    rw [List.disjoint_singleton, List.mem_map]
    rintro ⟨credit, hold, hkey⟩
    have hrewarded := hledger.rewarded credit hold
    rw [hkey] at hrewarded
    exact isDuplicate_eq_false hnew hrewarded
  · rw [hcredits, hrewards, List.map_append]
    intro credit hcredit
    rcases List.mem_append.mp hcredit with hold | hlast
    · exact List.mem_append_left _ (hledger.rewarded credit hold)
    · rw [List.mem_singleton.mp hlast]
      exact List.mem_append_right _ (by simp [Credit.key, rewardKey, rewardRow])
  · rw [hcredits]
    intro credit hcredit
    rcases List.mem_append.mp hcredit with hold | hlast
    · exact hknown _ (hledger.credit_known credit hold)
    · rw [List.mem_singleton.mp hlast]
      exact hknown _ ⟨grant, hgrant, rfl⟩
  · intro row' hrow'
    rcases hmem row' hrow' with rfl | ⟨hold, -⟩
    · exact (hledger.sound grant hgrant).countAd hpending
    · exact hledger.sound row' hold
  · intro row' hrow'
    have happend : creditedTo row'.id (trace ++ [(s, act)]) =
        creditedTo row'.id trace ++ if grant.id = row'.id then
          [(.admob, reward.transactionId)] else [] := by
      rw [creditedTo, hcredits, List.filter_append, List.map_append]
      by_cases hid : grant.id = row'.id <;> simp [creditedTo, hid, Credit.key]
    rw [happend, List.length_append]
    rcases hmem row' hrow' with rfl | ⟨hold, hid⟩
    · have hverified := hledger.verified grant hgrant
      simp [countAd, hverified]
    · rw [if_neg (Ne.symm hid), hledger.verified row' hold]
      rfl
  · intro row' hrow'
    rw [claimedFor_append_none hclaim]
    rcases hmem row' hrow' with rfl | ⟨hold, -⟩
    · have hclaimed := hledger.claimed grant hgrant
      rw [boundSessions, if_neg (by simp [hpending])] at hclaimed
      rw [boundSessions, if_neg (countAd_status hpending)]
      exact hclaimed
    · exact hledger.claimed row' hold
  · intro row' hrow' hconsumed
    rcases hmem row' hrow' with rfl | ⟨hold, -⟩
    · exact absurd hconsumed (countAd_status hpending)
    · exact hledger.owned_step hstep hold hconsumed
  · rw [hsessions]
    intro session hsession
    rw [hledger.extensions session hsession, hgrants,
      countP_updateWhere_of_same]
    intro row hrow hid
    obtain rfl : row = grant :=
      eq_of_key hledger.keyed.grants hrow hgrant (by simpa using hid)
    rw [funds_eq_false (countAd_status hpending),
      funds_eq_false (by simp [hpending])]

/-! ### A claim -/

theorem funds_consume {now sessionId session : ℕ} {grant : Grant} :
    funds session (consume now sessionId grant) =
      (decide (0 < grant.grantMinutes) && sessionId == session) := by
  change (true && decide (0 < grant.grantMinutes) &&
    some sessionId == some session) = _
  rw [Bool.eq_iff_iff]
  simp

/-- The counters of the sessions after a claim. -/
theorem extensions_claimed (hledger : Ledger cfg trace s) {now newExpires : ℕ}
    {grant : Grant} {session : Session} (hgrant : grant ∈ s.world.db.grants)
    (hopen : grant.status ≠ .consumed) (hpos : 0 < grant.grantMinutes)
    (hsession : session ∈ s.world.db.sessions) :
    ∀ row' ∈ updateWhere (fun row => row.id == session.id)
      (extendRow grant.id newExpires) s.world.db.sessions,
      row'.extensionsCount =
        (updateWhere (fun row => row.id == grant.id) (consume now session.id)
          s.world.db.grants).countP (funds row'.id) := by
  intro row' hrow'
  rcases mem_updateWhere_key hledger.keyed.ids hsession hrow' with
    rfl | ⟨hold, hid⟩
  · rw [countP_updateWhere_key hledger.keyed.grants hgrant]
    · exact congrArg (· + 1) (hledger.extensions session hsession)
    · exact funds_eq_false hopen
    · simp [funds_consume, hpos, extendRow]
  · rw [countP_updateWhere_of_same, hledger.extensions row' hold]
    intro row hrow hselected
    obtain rfl : row = grant :=
      eq_of_key hledger.keyed.grants hrow hgrant (by simpa using hselected)
    rw [funds_eq_false hopen, funds_consume]
    simp [Ne.symm hid]

theorem ledger_claimed (hledger : Ledger cfg trace s)
    (hstep : step cfg s act = some s') {input : VerifyInput} {grant : Grant}
    {session : Session} (hcredit : creditOf s act = none)
    (hclaim : claimOf cfg s act = some ⟨grant.id, session.id⟩)
    (hclaimed : Claimed cfg s.world.clock input.userId input.grantId
      input.sessionId s.world.db grant session)
    (hgrants : s'.world.db.grants = updateWhere (fun row => row.id == grant.id)
      (consume s.world.clock session.id) s.world.db.grants)
    (hrewards : s'.world.db.rewards = s.world.db.rewards)
    (hsessions : s'.world.db.sessions = s.world.db.sessions ∧
        grant.grantMinutes = 0 ∨
      0 < grant.grantMinutes ∧ ∃ newExpires, s'.world.db.sessions =
        updateWhere (fun row => row.id == session.id)
          (extendRow grant.id newExpires) s.world.db.sessions) :
    Ledger cfg (trace ++ [(s, act)]) s' := by
  have hgrant := hclaimed.grant_mem
  have hopen := hclaimed.not_consumed
  have hcredits : credits (trace ++ [(s, act)]) = credits trace := by
    simp [credits_append, hcredit]
  have hclaims : claims cfg (trace ++ [(s, act)]) =
      claims cfg trace ++ [⟨grant.id, session.id⟩] := by
    simp [claims_append, hclaim]
  have hmem : ∀ row' ∈ s'.world.db.grants,
      row' = consume s.world.clock session.id grant ∨
        (row' ∈ s.world.db.grants ∧ row'.id ≠ grant.id) :=
    fun row' hrow' => mem_updateWhere_key hledger.keyed.grants hgrant
      (hgrants ▸ hrow')
  have hknown : ∀ id, (∃ row ∈ s.world.db.grants, row.id = id) →
      ∃ row ∈ s'.world.db.grants, row.id = id :=
    fun id hexists => hgrants ▸ exists_key_updateWhere (fun _ => rfl) hexists
  refine
    { keyed := keyed_step hledger.keyed hstep
      credited := hcredits ▸ hledger.credited
      rewarded := hcredits ▸ hrewards ▸ hledger.rewarded
      credit_known := fun credit hmem => hknown _ (hledger.credit_known credit
        (hcredits ▸ hmem))
      claim_known := ?_
      sound := ?_
      verified := ?_
      claimed := ?_
      owned := ?_
      extensions := ?_ }
  · rw [hclaims]
    intro claim hclaim
    rcases List.mem_append.mp hclaim with hold | hlast
    · exact hknown _ (hledger.claim_known claim hold)
    · rw [List.mem_singleton.mp hlast]
      exact hknown _ ⟨grant, hgrant, rfl⟩
  · intro row' hrow'
    rcases hmem row' hrow' with rfl | ⟨hold, -⟩
    · have hsound := hledger.sound grant hgrant
      refine ⟨hsound.required, hsound.bounded, fun hpending => ?_,
        fun _ => hclaimed.verified⟩
      simp [consume] at hpending
    · exact hledger.sound row' hold
  · intro row' hrow'
    rw [creditedTo_append_none hcredit]
    rcases hmem row' hrow' with rfl | ⟨hold, -⟩
    · exact hledger.verified grant hgrant
    · exact hledger.verified row' hold
  · intro row' hrow'
    have happend : claimedFor cfg row'.id (trace ++ [(s, act)]) =
        claimedFor cfg row'.id trace ++
          if grant.id = row'.id then [session.id] else [] := by
      rw [claimedFor, hclaims, List.filter_append, List.map_append]
      by_cases hid : grant.id = row'.id <;> simp [claimedFor, hid]
    rw [happend]
    rcases hmem row' hrow' with rfl | ⟨hold, hid⟩
    · have hnone := hledger.claimed grant hgrant
      rw [boundSessions, if_neg hopen] at hnone
      simp [consume, boundSessions, hnone]
    · rw [if_neg (Ne.symm hid), List.append_nil]
      exact hledger.claimed row' hold
  · intro row' hrow' hconsumed
    rcases hmem row' hrow' with rfl | ⟨hold, -⟩
    · obtain ⟨session', hsession', hid, huser⟩ := owned_forward hledger.keyed
        hstep ⟨session, hclaimed.session_mem, rfl, rfl⟩
      refine ⟨session', hsession', by rw [hid]; rfl, huser.trans ?_⟩
      exact hclaimed.session_owner.trans hclaimed.grant_owner.symm
    · exact hledger.owned_step hstep hold hconsumed
  · rcases hsessions with ⟨hsame, hzero⟩ | ⟨hpos, newExpires, hextended⟩
    · rw [hsame, hgrants]
      intro row' hrow'
      rw [hledger.extensions row' hrow', countP_updateWhere_of_same]
      intro row hrow hselected
      obtain rfl : row = grant :=
        eq_of_key hledger.keyed.grants hrow hgrant (by simpa using hselected)
      rw [funds_eq_false hopen, funds_consume, hzero]
      rfl
    · rw [hextended, hgrants]
      exact extensions_claimed hledger hgrant hopen hpos hclaimed.session_mem

theorem ledger_step (hpos : 1 ≤ cfg.requiredAds) (hledger : Ledger cfg trace s)
    (hstep : step cfg s act = some s') :
    Ledger cfg (trace ++ [(s, act)]) s' := by
  cases step_booking hledger.keyed hstep with
  | quiet added hcredit hclaim hadded hgrants hrewards hsessions =>
      exact ledger_quiet hpos hledger hstep hcredit hclaim hadded hgrants
        hrewards hsessions
  | counted reward grant hcredit hclaim hgrant hopen hnew hafter =>
      exact ledger_counted hledger hstep hcredit hclaim hgrant hopen hnew hafter
  | claimed input grant session hcredit hclaim hclaimed hgrants hrewards
      hsessions =>
      exact ledger_claimed hledger hstep hcredit hclaim hclaimed hgrants hrewards
        hsessions

theorem ledger_run {start last : State} (hpos : 1 ≤ cfg.requiredAds)
    (hinit : IsInitial start) (hrun : Run (middleware cfg) start trace last) :
    Ledger cfg trace last :=
  @Run.induction_on _ _ _ _ _ _ (Ledger cfg) hrun (ledger_initial hinit)
    fun _ _ _ _ hledger hstep => ledger_step hpos hledger hstep

/-! ## Conservation -/

/-- The ads that paid for the extensions of a session. -/
def adsSpentOn (db : Db) (sessionId : ℕ) : ℕ :=
  ((db.grants.filter (funds sessionId)).map Grant.requiredAds).sum

/-- The distinct verified ad transactions. -/
def verifiedTransactions (db : Db) : Finset (AdNetwork × String) :=
  (db.rewards.map rewardKey).toFinset

/-- No ad is credited twice, no grant is spent twice, and the extensions of
all sessions together are paid by verified ads. -/
structure Conserved (cfg : Config) (trace : List (State × Action))
    (last : State) : Prop where
  credited_once : ((credits trace).map Credit.key).Nodup
  counted : ∀ grant ∈ last.world.db.grants,
    grant.verifiedAds = (creditedTo grant.id trace).toFinset.card ∧
    grant.verifiedAds ≤ grant.requiredAds ∧ 1 ≤ grant.requiredAds
  consumed : ∀ grant ∈ last.world.db.grants, grant.status = .consumed →
    grant.requiredAds ≤ grant.verifiedAds ∧
    ∃ session ∈ last.world.db.sessions, session.userId = grant.userId ∧
      grant.sessionId = some session.id ∧
      claimedFor cfg grant.id trace = [session.id]
  unconsumed : ∀ grant ∈ last.world.db.grants, grant.status ≠ .consumed →
    claimedFor cfg grant.id trace = []
  extensions : ∀ session ∈ last.world.db.sessions,
    session.extensionsCount =
      (last.world.db.grants.filter (funds session.id)).length
  paid : (last.world.db.sessions.map fun session =>
    adsSpentOn last.world.db session.id).sum ≤
      (verifiedTransactions last.world.db).card

theorem Ledger.nodup_creditedTo (hledger : Ledger cfg trace s) (grantId : ℕ) :
    (creditedTo grantId trace).Nodup :=
  hledger.credited.sublist (List.filter_sublist.map _)

/-- The verified ads of all grants are distinct transactions. -/
theorem Ledger.sum_verified_le (hledger : Ledger cfg trace s) :
    (s.world.db.grants.map Grant.verifiedAds).sum ≤
      (verifiedTransactions s.world.db).card := by
  have hcounts : s.world.db.grants.map Grant.verifiedAds =
      (s.world.db.grants.map Grant.id).map fun id =>
        (credits trace).countP fun credit => credit.grantId == id := by
    rw [List.map_map]
    apply List.map_congr_left
    intro grant hgrant
    rw [hledger.verified grant hgrant, creditedTo, List.length_map,
      Function.comp, List.countP_eq_length_filter]
  have hdisjoint : Disjoint fun (id : ℕ) (credit : Credit) =>
      credit.grantId == id := by
    intro credit left right hleft hright
    simp only [beq_iff_eq] at hleft hright
    exact hleft.symm.trans hright
  have hsubset : ((credits trace).map Credit.key).toFinset ⊆
      verifiedTransactions s.world.db := by
    intro key hkey
    obtain ⟨credit, hcredit, rfl⟩ := List.mem_map.mp (List.mem_toFinset.mp hkey)
    exact List.mem_toFinset.mpr (hledger.rewarded credit hcredit)
  calc (s.world.db.grants.map Grant.verifiedAds).sum
      ≤ (credits trace).length := by
        rw [hcounts]
        exact sum_countP_le hdisjoint hledger.keyed.grants _
    _ = ((credits trace).map Credit.key).toFinset.card := by
        rw [List.toFinset_card_of_nodup hledger.credited, List.length_map]
    _ ≤ (verifiedTransactions s.world.db).card := Finset.card_le_card hsubset

theorem Ledger.adsSpentOn_le (hledger : Ledger cfg trace s) (sessionId : ℕ) :
    adsSpentOn s.world.db sessionId ≤
      ((s.world.db.grants.filter (funds sessionId)).map
        Grant.verifiedAds).sum := by
  refine List.sum_le_sum fun grant hgrant => ?_
  obtain ⟨hmem, hfunds⟩ := List.mem_filter.mp hgrant
  simp only [funds, Bool.and_eq_true, beq_iff_eq] at hfunds
  exact (hledger.sound grant hmem).consumed_full hfunds.1.1

theorem Ledger.conserved (hledger : Ledger cfg trace s) :
    Conserved cfg trace s where
  credited_once := hledger.credited
  counted := by
    intro grant hgrant
    have hsound := hledger.sound grant hgrant
    rw [List.toFinset_card_of_nodup (hledger.nodup_creditedTo grant.id)]
    exact ⟨hledger.verified grant hgrant, hsound.bounded, hsound.required⟩
  consumed := by
    intro grant hgrant hconsumed
    obtain ⟨session, hsession, hbound, huser⟩ :=
      hledger.owned grant hgrant hconsumed
    refine ⟨(hledger.sound grant hgrant).consumed_full hconsumed, session,
      hsession, huser, hbound, ?_⟩
    rw [hledger.claimed grant hgrant, boundSessions, if_pos hconsumed, hbound]
    rfl
  unconsumed := by
    intro grant hgrant hopen
    rw [hledger.claimed grant hgrant, boundSessions, if_neg hopen]
  extensions := by
    intro session hsession
    rw [hledger.extensions session hsession, List.countP_eq_length_filter]
  paid := by
    have hspent : (s.world.db.sessions.map fun session =>
        adsSpentOn s.world.db session.id).sum ≤
        ((s.world.db.sessions.map Session.id).map fun id =>
          ((s.world.db.grants.filter (funds id)).map
            Grant.verifiedAds).sum).sum := by
      rw [List.map_map]
      exact List.sum_le_sum fun session _ => hledger.adsSpentOn_le session.id
    have hbuckets := sum_buckets_le disjoint_funds Grant.verifiedAds
      hledger.keyed.ids s.world.db.grants
    exact hspent.trans (hbuckets.trans hledger.sum_verified_le)

/-- Ad-earned time is conserved in every run. -/
theorem ad_time_conserved {start last : State} (hpos : 1 ≤ cfg.requiredAds)
    (hinit : IsInitial start) (hrun : Run (middleware cfg) start trace last) :
    Conserved cfg trace last :=
  (ledger_run hpos hinit hrun).conserved

/-- A callback for the grant of the small deployment's connect. -/
def smallReward (transactionId : String) : AdMobReward where
  customData := Random.randomUrlToken 32 fun _ => 0
  transactionId := transactionId
  keyId := "1"

/-- Both ads of the connect are watched; the first callback comes twice. -/
def watchedConnect : List Action :=
  smallConnect ++ [.operate (.admobSsv (smallReward "t1")),
    .operate (.admobSsv (smallReward "t1")),
    .operate (.admobSsv (smallReward "t2"))]

theorem ad_time_conserved_watched : ∃ trace last,
    Run (middleware {}) smallDeployment trace last ∧
    (∃ session ∈ last.world.db.sessions, session.extensionsCount = 1) ∧
    Conserved {} trace last := by
  obtain ⟨mid, last, hrun, -, htest⟩ := @exists_run_of_execute _ _
    (middleware {}) smallDeployment watchedConnect (.verifyAdReward ⟨1, 1, 1⟩)
    (fun _ last => ∃ session ∈ last.world.db.sessions,
      session.extensionsCount = 1) _ (by decide +kernel)
  exact ⟨_, last, hrun, htest,
    ad_time_conserved (by decide) isInitial_smallDeployment hrun⟩

end VpnMiddleware.AdGrants
