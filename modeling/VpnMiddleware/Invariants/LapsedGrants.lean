import VpnMiddleware.Invariants.ClaimedTime

/-!
# Lapsed grants

`verifyAdReward` marks a grant whose window has passed and then throws inside
the same transaction, so the mark is rolled back with it.
-/

namespace VpnMiddleware.LapsedGrants

open VpnMiddleware.Schema VpnMiddleware.Errors VpnMiddleware.Environment
open VpnMiddleware.Database VpnMiddleware.Transaction VpnMiddleware.Table
open VpnMiddleware.TransitionSystem VpnMiddleware.Shared
open VpnMiddleware.Middleware VpnMiddleware.Evolution VpnMiddleware.Keys
open VpnMiddleware.AdsService VpnMiddleware.VerifyFlow
open VpnMiddleware.ClaimedTime

variable {cfg : Config} {now userId sessionId : ℕ} {db : Db} {grant : Grant}

/-- The call rejects the grant because its window has passed. -/
def Rejects (cfg : Config) (now : ℕ) (input : VerifyInput) (db : Db) : Prop :=
  (withTransaction (verifyTransaction cfg now input.userId input.grantId
    input.sessionId) db).1 =
      .error (.conflict "ad grant window expired; request a new token")

instance {input : VerifyInput} : Decidable (Rejects cfg now input db) :=
  match houtcome : (withTransaction (verifyTransaction cfg now input.userId
    input.grantId input.sessionId) db).1 with
  | .ok planned => isFalse (by simp [Rejects, houtcome])
  | .error cause =>
      decidable_of_iff (cause =
        .conflict "ad grant window expired; request a new token")
        (by simp [Rejects, houtcome])

/-- The tables after the transaction of a call. -/
def tablesAfter (cfg : Config) (now : ℕ) (input : VerifyInput) (db : Db) : Db :=
  (withTransaction (verifyTransaction cfg now input.userId input.grantId
    input.sessionId) db).2

/-- The grant is stored as expired and no other table has changed. -/
def RecordsLapse (grantId : ℕ) (before after : Db) : Prop :=
  (grantRow grantId after).map Grant.status = some .expired ∧
    after = { before with grants := after.grants }

theorem tablesAfter_of_rejects {input : VerifyInput}
    (hrejects : Rejects cfg now input db) :
    tablesAfter cfg now input db = db := by
  have herror : withTransaction (verifyTransaction cfg now input.userId
      input.grantId input.sessionId) db = (.error
        (.conflict "ad grant window expired; request a new token"),
      tablesAfter cfg now input db) := Prod.ext hrejects rfl
  exact withTransaction_error herror

theorem recordsLapse_iff {input : VerifyInput}
    (hgrant : grantRow input.grantId db = some grant)
    (hrejects : Rejects cfg now input db) :
    RecordsLapse input.grantId db (tablesAfter cfg now input db) ↔
      grant.status = .expired := by
  rw [tablesAfter_of_rejects hrejects, RecordsLapse, hgrant]
  simp

/-! ## Reachable states -/

variable {s s' : State} {act : Action}

/-- Minted, counted or consumed. -/
def NeverLapses (db : Db) : Prop :=
  ∀ row ∈ db.grants,
    row.status = .pending ∨ row.status = .fulfilled ∨ row.status = .consumed

theorem neverLapses_of_change {row row' : Grant}
    (hchange : GrantChange cfg s act row row')
    (hbefore : row.status = .pending ∨ row.status = .fulfilled ∨
      row.status = .consumed) :
    row'.status = .pending ∨ row'.status = .fulfilled ∨
      row'.status = .consumed := by
  cases hchange with
  | same => exact hbefore
  | counted _ _ _ =>
      by_cases hfull : row.requiredAds ≤ row.verifiedAds + 1
      · simp [countAd, hfull]
      · simpa [countAd, hfull] using hbefore
  | consumed _ _ => exact Or.inr (Or.inr rfl)

theorem neverLapses_step (hkeyed : Keyed s.world.db)
    (hbefore : NeverLapses s.world.db) (hstep : step cfg s act = some s') :
    NeverLapses s'.world.db := by
  intro row' hrow'
  rcases (step_effects hkeyed hstep).grants.backward hrow' with
    ⟨row, hrow, hchange⟩ | ⟨added, hadded, hmem⟩
  · exact neverLapses_of_change hchange (hbefore row hrow)
  · rcases hadded with rfl | ⟨grant, hminted, rfl⟩
    · simp at hmem
    · obtain rfl := List.mem_singleton.mp hmem
      exact Or.inl hminted.pending

theorem neverLapses_run {start last : State} {trace : List (State × Action)}
    (hinit : IsInitial start) (hrun : Run (middleware cfg) start trace last) :
    Keyed last.world.db ∧ NeverLapses last.world.db := by
  apply hrun.invariant
  · exact ⟨keyed_initial hinit, by simp [NeverLapses, hinit.grants]⟩
  · rintro state act next ⟨hkeyed, hbefore⟩ hstep
    exact ⟨keyed_step hkeyed hstep, neverLapses_step hkeyed hbefore hstep⟩

/-- A rejected lapsed grant is stored as expired only if it already was, and
in a reachable state it stays open. -/
theorem lapsed_grant_status (cfg : Config) :
    (∀ (now : ℕ) (db : Db) (input : VerifyInput) (grant : Grant),
      grantRow input.grantId db = some grant → grant.status ≠ .consumed →
      grant.expiresAt ≤ now → Rejects cfg now input db →
      (RecordsLapse input.grantId db (tablesAfter cfg now input db) ↔
        grant.status = .expired)) ∧
    ∀ (start last : State) (trace : List (State × Action))
      (input : VerifyInput) (grant : Grant), IsInitial start →
      Run (middleware cfg) start trace last →
      grantRow input.grantId last.world.db = some grant →
      grant.status ≠ .consumed →
      Rejects cfg last.world.clock input last.world.db →
      grantRow input.grantId
          (tablesAfter cfg last.world.clock input last.world.db) =
        some grant ∧
      (grant.status = .pending ∨ grant.status = .fulfilled) := by
  constructor
  · intro now db input grant hgrant _ _ hrejects
    exact recordsLapse_iff hgrant hrejects
  · intro start last trace input grant hinit hrun hgrant hunconsumed hrejects
    rw [tablesAfter_of_rejects hrejects]
    refine ⟨hgrant, ?_⟩
    have hstatus := (neverLapses_run hinit hrun).2 grant
      (List.mem_of_find?_eq_some hgrant)
    rcases hstatus with hpending | hfulfilled | hconsumed
    · exact Or.inl hpending
    · exact Or.inr hfulfilled
    · exact absurd hconsumed hunconsumed

/-- The grant of a connect whose ads were never watched. -/
def unwatched : List Action := smallConnect ++ [.advance 300000]

/-- The claim of the lapsed grant is rejected, and the grant stays open. -/
theorem lapsed_grant_status_unwatched :
    ∃ last, Run (middleware {}) smallDeployment
        (traceOf (middleware {}) smallDeployment unwatched) last ∧
      ∃ grant, grantRow 1 last.world.db = some grant ∧
        (¬ RecordsLapse 1 last.world.db
          (tablesAfter {} last.world.clock ⟨1, 1, 1⟩ last.world.db)) ∧
        (grant.status = .pending ∨ grant.status = .fulfilled) := by
  obtain ⟨last, hrun, htest⟩ := @exists_run_with _ _ (middleware {})
    smallDeployment unwatched
    (fun last => (grantRow 1 last.world.db).any (fun grant =>
        grant.status = .pending ∧ grant.expiresAt ≤ last.world.clock) = true ∧
      Rejects {} last.world.clock ⟨1, 1, 1⟩ last.world.db)
    (fun _ => instDecidableAnd) (by decide +kernel)
  obtain ⟨grant, hgrant, hopen⟩ := (Option.any_eq_true _ _).mp htest.1
  obtain ⟨hpending, hlapsed⟩ := of_decide_eq_true hopen
  have hunconsumed : grant.status ≠ .consumed := by simp [hpending]
  refine ⟨last, hrun, grant, hgrant, fun hrecords => ?_, ?_⟩
  · have hexpired := ((lapsed_grant_status {}).1 _ _ ⟨1, 1, 1⟩ grant hgrant
      hunconsumed hlapsed htest.2).mp hrecords
    simp [hpending] at hexpired
  · exact ((lapsed_grant_status {}).2 _ _ _ ⟨1, 1, 1⟩ grant
      isInitial_smallDeployment hrun hgrant hunconsumed htest.2).2

/-- A rejected lapsed grant is still pending. -/
theorem lapsed_grant_stays_pending :
    let db : Db := { grants := [{ paidGrant .connect 60 with expiresAt := 0 }] }
    Rejects {} 0 ⟨1, 1, 1⟩ db ∧
      (grantRow 1 (tablesAfter {} 0 ⟨1, 1, 1⟩ db)).map Grant.status =
        some .pending :=
  ⟨rfl, rfl⟩

end VpnMiddleware.LapsedGrants
