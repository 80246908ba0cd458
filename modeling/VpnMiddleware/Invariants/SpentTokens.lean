import VpnMiddleware.Invariants.TokenFamilies

/-!
# Spent and unspent refresh tokens

A token is spendable until it is rotated or its family is revoked; an expired
one counts as spendable, since to present it again revokes nothing.  Presenting
a token spends that token only.
-/

namespace VpnMiddleware.SpentTokens

open VpnMiddleware.Schema VpnMiddleware.Errors VpnMiddleware.Database
open VpnMiddleware.Transaction VpnMiddleware.Table VpnMiddleware.AuthService
open VpnMiddleware.AuthSystem VpnMiddleware.TokenFamilies

variable {cfg : AuthConfig} {s s' : State} {act : Action}
variable {tokens after : List RefreshToken} {row other : RefreshToken}
variable {rawToken : String} {draw : AuthDraw}

inductive Spendable (row : RefreshToken) : Prop
  | live : row.revokedAt = none → row.revokeReason = none → Spendable row
  | expired : row.revokedAt ≠ none → row.revokeReason = some "expired" →
      Spendable row

/-- The table has keys, and a family with an expired token has no live one. -/
structure Sound (tokens : List RefreshToken) : Prop where
  families : FamilySafe tokens
  hashes : (tokens.map RefreshToken.tokenHash).Nodup
  expired : ∀ row ∈ tokens, row.revokedAt ≠ none →
    row.revokeReason = some "expired" → ∀ other ∈ tokens,
      other.familyId = row.familyId → other.revokedAt ≠ none

/-! ## Changes of the table -/

theorem Sound.eq_of_hash (hsound : Sound tokens) (hrow : row ∈ tokens)
    (hother : other ∈ tokens) (hhash : row.tokenHash = other.tokenHash) :
    row = other :=
  eq_of_key hsound.hashes hrow hother hhash

theorem hashes_revoke {selected : RefreshToken → Bool} {now : ℕ}
    {reason : String} :
    (updateWhere selected (revokeToken now reason) tokens).map
      RefreshToken.tokenHash = tokens.map RefreshToken.tokenHash := by
  apply map_updateWhere
  exact fun _ => rfl

theorem nodup_append_hash (hnodup : (tokens.map RefreshToken.tokenHash).Nodup)
    (hfresh : ∀ other ∈ tokens, other.tokenHash ≠ row.tokenHash) :
    ((tokens ++ [row]).map RefreshToken.tokenHash).Nodup := by
  rw [List.map_append, List.map_singleton]
  apply hnodup.append (List.nodup_singleton _)
  rw [List.disjoint_singleton, List.mem_map]
  rintro ⟨other, hother, heq⟩
  exact hfresh other hother heq

theorem hashes_of_change (hsound : Sound s.db.refreshTokens)
    (hchange : TokenChange s tokens) :
    (tokens.map RefreshToken.tokenHash).Nodup := by
  cases hchange with
  | same => exact hsound.hashes
  | started hfits _ _ _ => exact nodup_append_hash hsound.hashes hfits.fresh_hash
  | familyRevoked familyId reason =>
      rw [hashes_revoke]
      exact hsound.hashes
  | expired _ _ =>
      rw [hashes_revoke]
      exact hsound.hashes
  | @rotated row next _ _ _ hfits _ _ _ =>
      apply nodup_append_hash
      · rw [hashes_revoke]
        exact hsound.hashes
      · intro other' hother'
        obtain ⟨other, hother, rfl⟩ := mem_updateWhere.mp hother'
        have hfresh := hfits.fresh_hash other hother
        split_ifs
        · exact hfresh
        · exact hfresh

/-- The families with an expired token have no live one after rows are revoked,
if so for each row that expires now. -/
theorem expired_revoke {selected : RefreshToken → Bool} {now : ℕ}
    {reason : String} (hsound : Sound tokens)
    (hnew : reason = "expired" → ∀ row ∈ tokens, selected row = true →
      ∀ other ∈ tokens, other.familyId = row.familyId →
        other.revokedAt = none → selected other = true) :
    ∀ row ∈ updateWhere selected (revokeToken now reason) tokens,
      row.revokedAt ≠ none → row.revokeReason = some "expired" →
        ∀ other ∈ updateWhere selected (revokeToken now reason) tokens,
          other.familyId = row.familyId → other.revokedAt ≠ none := by
  intro row' hrow' hrevoked hreason other' hother' hsame
  obtain ⟨row, hrow, rfl⟩ := mem_updateWhere.mp hrow'
  obtain ⟨other, hother, rfl⟩ := mem_updateWhere.mp hother'
  by_cases hselected : selected other = true
  · rw [if_pos hselected]
    simp [revokeToken]
  · rw [if_neg hselected] at hsame ⊢
    by_cases hhit : selected row = true
    · rw [if_pos hhit] at hreason hsame
      intro hlive
      exact hselected (hnew (Option.some.inj hreason) row hrow hhit other hother
        hsame hlive)
    · rw [if_neg hhit] at hrevoked hreason hsame
      exact hsound.expired row hrow hrevoked hreason other hother hsame

/-- A family that has an expired token has no live one after the change. -/
theorem expired_of_change (hsound : Sound s.db.refreshTokens)
    (hchange : TokenChange s tokens) : ∀ row ∈ tokens, row.revokedAt ≠ none →
      row.revokeReason = some "expired" → ∀ other ∈ tokens,
        other.familyId = row.familyId → other.revokedAt ≠ none := by
  cases hchange with
  | same => exact hsound.expired
  | @started next _ hfamily _ hlive =>
      intro row hrow hrevoked hreason other hother hsame
      rcases List.mem_append.mp hrow with hrow | hrow
      · rcases List.mem_append.mp hother with hother | hother
        · exact hsound.expired row hrow hrevoked hreason other hother hsame
        · rw [List.mem_singleton.mp hother] at hsame
          exact absurd hsame.symm (hfamily row hrow)
      · rw [List.mem_singleton.mp hrow] at hrevoked
        exact absurd hlive hrevoked
  | familyRevoked familyId reason =>
      apply expired_revoke hsound
      intro _ row _ hselected other _ hsame hlive
      simp only [isLiveIn, Bool.and_eq_true, beq_iff_eq,
        Option.isNone_iff_eq_none] at hselected ⊢
      exact ⟨hsame.trans hselected.1, hlive⟩
  | @expired dead hdead hlive =>
      apply expired_revoke hsound
      intro _ row hrow hselected other hother hsame hother'Live
      have heq := hsound.families.eq_of_id hrow hdead (beq_iff_eq.mp hselected)
      rw [heq] at hsame
      exact beq_iff_eq.mpr
        (hsound.families.live_unique other hother dead hdead hsame hother'Live
          hlive)
  | @rotated old next hold hlive _ hfits hfamily _ hnew =>
      -- the family of the rotated token had a live token and so no expired one
      have hquiet := @expired_revoke _ (fun token => token.id == old.id) s.clock
        "rotated" hsound (by simp)
      intro row hrow hrevoked hreason other hother hsame
      rcases List.mem_append.mp hrow with hrow | hrow
      · rcases List.mem_append.mp hother with hother | hother
        · exact hquiet row hrow hrevoked hreason other hother hsame
        · obtain ⟨before, hbefore, rfl⟩ := mem_updateWhere.mp hrow
          rw [List.mem_singleton.mp hother, hfamily] at hsame
          split_ifs at hrevoked hreason hsame
          · simp [revokeToken] at hreason
          · exact absurd hlive (hsound.expired before hbefore hrevoked hreason
              old hold hsame)
      · rw [List.mem_singleton.mp hrow] at hrevoked
        exact absurd hnew hrevoked

theorem sound_of_change (hsound : Sound s.db.refreshTokens)
    (hchange : TokenChange s tokens) : Sound tokens :=
  ⟨familySafe_of_change hsound.families hchange,
    hashes_of_change hsound hchange, expired_of_change hsound hchange⟩

theorem sound_step (hsound : Sound s.db.refreshTokens)
    (hstep : step cfg s act = some s') : Sound s'.db.refreshTokens :=
  sound_of_change hsound (step_tokens hstep)

theorem sound_initial (hinit : IsInitial s) : Sound s.db.refreshTokens := by
  rw [IsInitial] at hinit
  rw [hinit]
  exact ⟨⟨List.nodup_nil, by simp, by simp, by simp⟩, List.nodup_nil, by simp⟩

/-! ## Presenting a token -/

/-- What presenting a token does, by the answer. -/
inductive Presented (cfg : AuthConfig) (s : State) (rawToken : String) :
    Except Failure TokenPair → List RefreshToken → Prop
  | kept (cause : Failure) :
      Presented cfg s rawToken (.error cause) s.db.refreshTokens
  | reused (cause : Failure) {row : RefreshToken} :
      findToken cfg rawToken s.db = some row → row.revokedAt ≠ none →
      Presented cfg s rawToken (.error cause)
        (updateWhere (isLiveIn row.familyId) (revokeToken s.clock "reuse_detected")
          s.db.refreshTokens)
  | expired (cause : Failure) {row : RefreshToken} :
      findToken cfg rawToken s.db = some row → row.revokedAt = none →
      Presented cfg s rawToken (.error cause)
        (updateWhere (fun token => token.id == row.id)
          (revokeToken s.clock "expired") s.db.refreshTokens)
  | rotated {row next : RefreshToken} {answer : TokenPair} :
      findToken cfg rawToken s.db = some row → row.revokedAt = none →
      FitsKeys s.db.refreshTokens next →
      next.tokenHash = cfg.hashRefresh answer.refreshToken →
      Spendable next →
      Presented cfg s rawToken (.ok answer)
        (updateWhere (fun token => token.id == row.id)
          (revokeToken s.clock "rotated") s.db.refreshTokens ++ [next])

theorem presented_of_refresh
    (hstep : step cfg s (.refresh rawToken draw) = some s') :
    ∃ answer, (perform cfg s (.refresh rawToken draw)).1 = some answer ∧
      Presented cfg s rawToken answer s'.db.refreshTokens := by
  obtain ⟨rfl, -⟩ := step_eq hstep
  cases hrun : refreshTransaction cfg s.clock rawToken draw s.db with
  | error cause =>
      simp only [perform, refresh, withTransaction_of_error hrun]
      exact ⟨_, rfl, .kept cause⟩
  | ok result =>
      obtain ⟨outcome, after⟩ := result
      simp only [perform, refresh, withTransaction_of_ok hrun, Except.bind]
      refine ⟨_, rfl, ?_⟩
      simp only [refreshTransaction, updateTokens, bind_ok, get_ok] at hrun
      obtain ⟨_, _, ⟨rfl, rfl⟩, hrun⟩ := hrun
      cases hrow : findToken cfg rawToken s.db with
      | none =>
          simp only [hrow, pure_ok] at hrun
          obtain ⟨rfl, rfl⟩ := hrun
          exact .kept _
      | some row =>
          simp only [hrow] at hrun
          split_ifs at hrun with hrevoked hexpired
          · simp only [bind_ok, modify_ok, pure_ok] at hrun
            obtain ⟨_, _, rfl, rfl, rfl⟩ := hrun
            exact .reused _ hrow (Option.isSome_iff_ne_none.mp hrevoked)
          · simp only [bind_ok, modify_ok, pure_ok] at hrun
            obtain ⟨_, _, rfl, rfl, rfl⟩ := hrun
            exact .expired _ hrow (by simpa using hrevoked)
          · simp only [bind_ok, modify_ok, issueRefresh, pure_ok] at hrun
            obtain ⟨_, _, rfl, raw, _, ⟨_, _, hinsert, rfl, rfl⟩, rfl, rfl⟩ :=
              hrun
            obtain ⟨hfits, hafter⟩ := insertRefreshToken_ok hinsert
            rw [hafter]
            exact .rotated hrow (by simpa using hrevoked)
              (FitsKeys.of_updateWhere hfits) rfl (.live rfl rfl)

/-- What an admin login does to the tokens, by the answer. -/
inductive SignedIn (cfg : AuthConfig) (s : State) :
    Except Failure TokenPair → List RefreshToken → Prop
  | refused (cause : Failure) :
      SignedIn cfg s (.error cause) s.db.refreshTokens
  | issued {next : RefreshToken} {answer : TokenPair} :
      FitsKeys s.db.refreshTokens next →
      next.tokenHash = cfg.hashRefresh answer.refreshToken →
      Spendable next → SignedIn cfg s (.ok answer) (s.db.refreshTokens ++ [next])

theorem signedIn_of_adminLogin {email password : String}
    (hstep : step cfg s (.adminLogin email password draw) = some s') :
    ∃ answer, (perform cfg s (.adminLogin email password draw)).1 =
        some answer ∧ SignedIn cfg s answer s'.db.refreshTokens := by
  obtain ⟨rfl, -⟩ := step_eq hstep
  cases hrun : adminLogin cfg s.clock email password draw s.db with
  | error cause =>
      simp only [perform, withTransaction_of_error hrun]
      exact ⟨_, rfl, .refused cause⟩
  | ok result =>
      obtain ⟨answer, after⟩ := result
      simp only [perform, withTransaction_of_ok hrun]
      refine ⟨_, rfl, ?_⟩
      simp only [adminLogin, issueRefresh, bind_ok, get_ok, expect_ok,
        require_ok, pure_ok] at hrun
      obtain ⟨_, _, ⟨rfl, rfl⟩, _, _, ⟨-, rfl⟩, _, _, ⟨-, rfl⟩, _, _,
        ⟨_, _, hinsert, rfl, rfl⟩, rfl, rfl⟩ := hrun
      obtain ⟨hfits, hafter⟩ := insertRefreshToken_ok hinsert
      rw [hafter]
      exact .issued hfits rfl (.live rfl rfl)

/-! ## Presenting a spendable token -/

section Spending

variable {answer : Except Failure TokenPair}

theorem findToken_eq (hsound : Sound s.db.refreshTokens)
    (hrow : row ∈ s.db.refreshTokens)
    (hhash : row.tokenHash = cfg.hashRefresh rawToken) :
    findToken cfg rawToken s.db = some row := by
  cases hfind : findToken cfg rawToken s.db with
  | none =>
      have hnone := List.find?_eq_none.mp hfind row hrow
      simp [hhash] at hnone
  | some found =>
      have hfound := List.find?_some hfind
      have hmem := List.mem_of_find?_eq_some hfind
      rw [hsound.eq_of_hash hmem hrow ((beq_iff_eq.mp hfound).trans hhash.symm)]

/-- A row that an update does not select stays. -/
theorem mem_updateWhere_of_not {selected : RefreshToken → Bool}
    {change : RefreshToken → RefreshToken} (hrow : row ∈ tokens)
    (hother : selected row = false) : row ∈ updateWhere selected change tokens :=
  mem_updateWhere.mpr ⟨row, hrow, if_neg (by rw [hother]; simp)⟩

/-- To present an expired token again revokes nothing. -/
theorem reused_eq_self (hsound : Sound tokens) (hrow : row ∈ tokens)
    (hspendable : Spendable row) (hrevoked : row.revokedAt ≠ none)
    {change : RefreshToken → RefreshToken} :
    updateWhere (isLiveIn row.familyId) change tokens = tokens := by
  apply updateWhere_eq_self
  intro other hother
  cases hspendable with
  | live hlive _ => exact absurd hlive hrevoked
  | expired _ hreason =>
      have hdead := hsound.expired row hrow hrevoked hreason other hother
      simp only [isLiveIn, Bool.and_eq_false_iff, beq_eq_false_iff_ne]
      by_cases hsame : other.familyId = row.familyId
      · right
        rw [Option.isNone_eq_false_iff]
        exact Option.isSome_iff_ne_none.mpr (hdead hsame)
      · exact Or.inl hsame

variable (hsound : Sound s.db.refreshTokens) (hrow : row ∈ s.db.refreshTokens)
variable (hhash : row.tokenHash = cfg.hashRefresh rawToken)
include hsound hrow hhash

/-- Rows of other tokens stay as they are. -/
theorem mem_of_presented (hspendable : Spendable row)
    (hpresented : Presented cfg s rawToken answer after)
    (hother : other ∈ s.db.refreshTokens)
    (hne : other.tokenHash ≠ cfg.hashRefresh rawToken) : other ∈ after := by
  have hfound := @findToken_eq cfg s row rawToken hsound hrow hhash
  have hid : (other.id == row.id) = false := by
    rw [beq_eq_false_iff_ne]
    intro hid
    exact hne (hsound.families.eq_of_id hother hrow hid ▸ hhash)
  cases hpresented with
  | kept cause => exact hother
  | reused cause hfind hrevoked =>
      obtain rfl := Option.some.inj (hfound.symm.trans hfind)
      rwa [reused_eq_self hsound hrow hspendable hrevoked]
  | expired cause hfind _ =>
      obtain rfl := Option.some.inj (hfound.symm.trans hfind)
      exact mem_updateWhere_of_not hother hid
  | rotated hfind _ _ _ _ =>
      obtain rfl := Option.some.inj (hfound.symm.trans hfind)
      exact List.mem_append_left _ (mem_updateWhere_of_not hother hid)

/-- A token stays spendable if it was not rotated. -/
theorem spendable_of_presented (hspendable : Spendable row) {cause : Failure}
    (hpresented : Presented cfg s rawToken (.error cause) after) :
    ∃ row' ∈ after, row'.tokenHash = cfg.hashRefresh rawToken ∧
      Spendable row' := by
  have hfound := @findToken_eq cfg s row rawToken hsound hrow hhash
  cases hpresented with
  | kept => exact ⟨row, hrow, hhash, hspendable⟩
  | reused cause hfind hrevoked =>
      obtain rfl := Option.some.inj (hfound.symm.trans hfind)
      rw [reused_eq_self hsound hrow hspendable hrevoked]
      exact ⟨row, hrow, hhash, hspendable⟩
  | expired cause hfind _ =>
      obtain rfl := Option.some.inj (hfound.symm.trans hfind)
      refine ⟨_, mem_updateWhere.mpr ⟨row, hrow, if_pos (beq_self_eq_true _)⟩,
        hhash, .expired ?_ rfl⟩
      simp [revokeToken]

/-- No row is revoked for reuse. -/
theorem reason_of_presented (hspendable : Spendable row)
    (hpresented : Presented cfg s rawToken answer after)
    (hother : other ∈ after)
    (hreason : other.revokeReason = some "reuse_detected") :
    other ∈ s.db.refreshTokens := by
  have hfound := @findToken_eq cfg s row rawToken hsound hrow hhash
  cases hpresented with
  | kept cause => exact hother
  | reused cause hfind hrevoked =>
      obtain rfl := Option.some.inj (hfound.symm.trans hfind)
      rwa [reused_eq_self hsound hrow hspendable hrevoked] at hother
  | expired cause hfind _ =>
      obtain ⟨old, hold, rfl⟩ := mem_updateWhere.mp hother
      split_ifs at hreason ⊢
      · simp [revokeToken] at hreason
      · exact hold
  | rotated hfind _ _ _ hnext =>
      rcases List.mem_append.mp hother with hother | hother
      · obtain ⟨old, hold, rfl⟩ := mem_updateWhere.mp hother
        split_ifs at hreason ⊢
        · simp [revokeToken] at hreason
        · exact hold
      · rw [List.mem_singleton.mp hother] at hreason
        cases hnext with
        | live _ hnone => simp [hnone] at hreason
        | expired _ hexpired => simp [hexpired] at hreason

end Spending

/-- A token that was issued has a new hash. -/
theorem fresh_of_rotated {answer : TokenPair}
    (hpresented : Presented cfg s rawToken (.ok answer) after) :
    (∃ next ∈ after, next.tokenHash = cfg.hashRefresh answer.refreshToken ∧
      Spendable next) ∧ ∀ other ∈ s.db.refreshTokens,
        other.tokenHash ≠ cfg.hashRefresh answer.refreshToken := by
  cases hpresented with
  | @rotated _ next _ _ _ hfits hhash hnext =>
      refine ⟨⟨next, List.mem_append_right _ (List.mem_singleton_self _), hhash,
        hnext⟩, ?_⟩
      rw [← hhash]
      exact hfits.fresh_hash

theorem fresh_of_signedIn {answer : TokenPair}
    (hsigned : SignedIn cfg s (.ok answer) after) :
    (∃ next ∈ after, next.tokenHash = cfg.hashRefresh answer.refreshToken ∧
      Spendable next) ∧ ∀ other ∈ s.db.refreshTokens,
        other.tokenHash ≠ cfg.hashRefresh answer.refreshToken := by
  cases hsigned with
  | @issued next _ hfits hhash hnext =>
      refine ⟨⟨next, List.mem_append_right _ (List.mem_singleton_self _), hhash,
        hnext⟩, ?_⟩
      rw [← hhash]
      exact hfits.fresh_hash

theorem mem_of_signedIn {answer : Except Failure TokenPair}
    (hsigned : SignedIn cfg s answer after) (hrow : row ∈ s.db.refreshTokens) :
    row ∈ after := by
  cases hsigned with
  | refused cause => exact hrow
  | issued _ _ _ => exact List.mem_append_left _ hrow

end VpnMiddleware.SpentTokens
