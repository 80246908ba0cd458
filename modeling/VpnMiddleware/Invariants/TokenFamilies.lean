import VpnMiddleware.Auth.AuthSystem

/-!
# Refresh-token families

A family has at most one unrevoked token, a token has at most one successor,
and a family that reuse detection or a logout has revoked stays revoked.
-/

namespace VpnMiddleware.TokenFamilies

open VpnMiddleware.Schema VpnMiddleware.Errors VpnMiddleware.Database
open VpnMiddleware.Transaction VpnMiddleware.Table VpnMiddleware.AuthService
open VpnMiddleware.AuthSystem VpnMiddleware.TransitionSystem

variable {cfg : AuthConfig} {s s' : State} {act : Action}

/-! ## One request -/

theorem step_eq (hstep : step cfg s act = some s') :
    s' = (perform cfg s act).2 ∧ (newFamily act).all (isFreshFamily s.db) = true := by
  rw [step] at hstep
  split_ifs at hstep with hfresh
  exact ⟨(Option.some.inj hstep).symm, hfresh⟩

theorem ne_of_isFreshFamily {draw : AuthDraw}
    (hfresh : isFreshFamily s.db draw = true) :
    ∀ other ∈ s.db.refreshTokens, other.familyId ≠ draw.familyId := by
  intro other hother
  simpa using List.all_eq_true.mp hfresh other hother

theorem mem_of_findToken {rawToken : String} {row : RefreshToken}
    (hrow : findToken cfg rawToken s.db = some row) :
    row ∈ s.db.refreshTokens :=
  List.mem_of_find?_eq_some hrow

theorem tokenChange_of_refreshed {rawToken : String} {outcome : RefreshOutcome}
    {tokens : List RefreshToken}
    (hrefreshed : Refreshed cfg s.clock rawToken s.db outcome tokens) :
    TokenChange s tokens := by
  cases hrefreshed with
  | invalid _ => exact .same
  | reuse _ _ => exact .familyRevoked _ _
  | expired hrow hlive => exact .expired (mem_of_findToken hrow) hlive
  | rotated hrow hlive htime hfits hfamily hfrom hnew =>
      exact .rotated (mem_of_findToken hrow) hlive htime hfits hfamily hfrom hnew

theorem tokenChange_of_loggedOut {rawToken : String} {tokens : List RefreshToken}
    (hlogout : LoggedOut cfg s.clock rawToken s.db tokens) :
    TokenChange s tokens := by
  cases hlogout with
  | unknown _ => exact .same
  | revoked _ => exact .familyRevoked _ _

/-- The token table after a request, by the request. -/
inductive RequestChange (cfg : AuthConfig) (s : State) (act : Action) :
    List RefreshToken → Prop
  | same : RequestChange cfg s act s.db.refreshTokens
  | started {draw : AuthDraw} {tokens : List RefreshToken} :
      isFreshFamily s.db draw = true → Starts s.db.refreshTokens draw tokens →
      RequestChange cfg s act tokens
  | refreshed {rawToken : String} {draw : AuthDraw} {outcome : RefreshOutcome}
      {tokens : List RefreshToken} : act = .refresh rawToken draw →
      Refreshed cfg s.clock rawToken s.db outcome tokens →
      RequestChange cfg s act tokens
  | loggedOut {userId : ℕ} {rawToken : String} {tokens : List RefreshToken} :
      act = .logout userId rawToken →
      LoggedOut cfg s.clock rawToken s.db tokens →
      RequestChange cfg s act tokens

theorem step_requestChange (hstep : step cfg s act = some s') :
    RequestChange cfg s act s'.db.refreshTokens := by
  obtain ⟨rfl, hfresh⟩ := step_eq hstep
  cases act with
  | advance ms => exact .same
  | anon input draw =>
      rcases withTransaction_cases (anon cfg s.clock input draw) s.db with
        ⟨answer, after, hrun, heq⟩ | ⟨cause, heq⟩
      · simp only [perform, heq]
        exact .started hfresh (anon_ok hrun)
      · simp only [perform, heq]
        exact .same
  | register userId email password =>
      rcases withTransaction_cases (register cfg userId email password) s.db with
        ⟨answer, after, hrun, heq⟩ | ⟨cause, heq⟩
      · simp only [perform, heq, register_ok hrun]
        exact .same
      · simp only [perform, heq]
        exact .same
  | login email password input draw =>
      simp only [perform, login]
      cases huser : findByEmail cfg (cfg.toLowerCase email) s.db with
      | none => exact .same
      | some user =>
          dsimp only
          split_ifs
          · exact .same
          · rcases withTransaction_cases (loginTransaction cfg s.clock user.id
                input draw) s.db with ⟨answer, after, hrun, heq⟩ | ⟨cause, heq⟩
            · rw [heq]
              exact .started hfresh (loginTransaction_ok hrun)
            · rw [heq]
              exact .same
          · exact .same
  | adminLogin email password draw =>
      rcases withTransaction_cases
          (adminLogin cfg s.clock email password draw) s.db with
        ⟨answer, after, hrun, heq⟩ | ⟨cause, heq⟩
      · simp only [perform, heq]
        exact .started hfresh (adminLogin_ok hrun)
      · simp only [perform, heq]
        exact .same
  | refresh rawToken draw =>
      rcases withTransaction_cases
          (refreshTransaction cfg s.clock rawToken draw) s.db with
        ⟨outcome, after, hrun, heq⟩ | ⟨cause, heq⟩
      · simp only [perform, refresh, heq]
        exact .refreshed rfl (refreshTransaction_ok hrun)
      · simp only [perform, refresh, heq]
        exact .same
  | logout userId rawToken =>
      rcases withTransaction_cases (logout cfg s.clock userId rawToken) s.db with
        ⟨answer, after, hrun, heq⟩ | ⟨cause, heq⟩
      · simp only [perform, heq]
        exact .loggedOut rfl (logout_ok hrun)
      · simp only [perform, heq]
        exact .same
  | setUser userId change => exact .same

theorem tokenChange_of_requestChange {tokens : List RefreshToken}
    (hchange : RequestChange cfg s act tokens) : TokenChange s tokens := by
  cases hchange with
  | same => exact .same
  | started hfresh hstarts =>
      obtain ⟨row, rfl, hfits, hfamily, hfirst, hlive⟩ := hstarts
      refine .started hfits (fun other hother => ?_) hfirst hlive
      exact hfamily ▸ ne_of_isFreshFamily hfresh other hother
  | refreshed _ hrefreshed => exact tokenChange_of_refreshed hrefreshed
  | loggedOut _ hlogout => exact tokenChange_of_loggedOut hlogout

/-- Every request changes the token table in one of five ways. -/
theorem step_tokens (hstep : step cfg s act = some s') :
    TokenChange s s'.db.refreshTokens :=
  tokenChange_of_requestChange (step_requestChange hstep)

/-! ## The invariant -/

/-- What revoking keeps of a token. -/
structure SameToken (row row' : RefreshToken) : Prop where
  id : row'.id = row.id
  familyId : row'.familyId = row.familyId
  rotatedFrom : row'.rotatedFrom = row.rotatedFrom
  revoked : row.revokedAt ≠ none → row'.revokedAt ≠ none

structure FamilySafe (tokens : List RefreshToken) : Prop where
  ids : (tokens.map RefreshToken.id).Nodup
  live_unique : ∀ left ∈ tokens, ∀ right ∈ tokens,
    left.familyId = right.familyId → left.revokedAt = none →
      right.revokedAt = none → left.id = right.id
  origin : ∀ row ∈ tokens, ∀ previous, row.rotatedFrom = some previous →
    ∃ old ∈ tokens, old.id = previous ∧ old.revokedAt ≠ none
  successor_unique : ∀ left ∈ tokens, ∀ right ∈ tokens, ∀ previous,
    left.rotatedFrom = some previous → right.rotatedFrom = some previous →
      left.id = right.id

section Revoking

variable {tokens : List RefreshToken} {selected : RefreshToken → Bool}
variable {now : ℕ} {reason : String} {row row' : RefreshToken}

theorem sameToken_revoke (selected : RefreshToken → Bool) (now : ℕ)
    (reason : String) (row : RefreshToken) : SameToken row
      (if selected row then revokeToken now reason row else row) := by
  split_ifs
  · exact ⟨rfl, rfl, rfl, fun _ => by simp [revokeToken]⟩
  · exact ⟨rfl, rfl, rfl, id⟩

theorem exists_of_mem_revoked
    (hrow' : row' ∈ updateWhere selected (revokeToken now reason) tokens) :
    ∃ row ∈ tokens, SameToken row row' := by
  obtain ⟨row, hrow, rfl⟩ := mem_updateWhere.mp hrow'
  exact ⟨row, hrow, sameToken_revoke selected now reason row⟩

theorem exists_revoked (hrow : row ∈ tokens) :
    ∃ row' ∈ updateWhere selected (revokeToken now reason) tokens,
      SameToken row row' ∧ (selected row = true → row'.revokedAt ≠ none) := by
  refine ⟨_, mem_updateWhere.mpr ⟨row, hrow, rfl⟩,
    sameToken_revoke selected now reason row, fun hselected => ?_⟩
  simp [hselected, revokeToken]

theorem map_id_revoked :
    (updateWhere selected (revokeToken now reason) tokens).map RefreshToken.id =
      tokens.map RefreshToken.id := by
  apply map_updateWhere
  exact fun _ => rfl

/-- Revoking tokens keeps families safe. -/
theorem FamilySafe.revoke (hsafe : FamilySafe tokens) :
    FamilySafe (updateWhere selected (revokeToken now reason) tokens) where
  ids := by
    rw [map_id_revoked]
    exact hsafe.ids
  live_unique := by
    intro left hleft right hright hfamily hleftLive hrightLive
    obtain ⟨oldLeft, hmemLeft, hsameLeft⟩ := exists_of_mem_revoked hleft
    obtain ⟨oldRight, hmemRight, hsameRight⟩ := exists_of_mem_revoked hright
    rw [hsameLeft.id, hsameRight.id]
    apply hsafe.live_unique _ hmemLeft _ hmemRight
    · rw [← hsameLeft.familyId, ← hsameRight.familyId, hfamily]
    · by_contra hrevoked
      exact hsameLeft.revoked hrevoked hleftLive
    · by_contra hrevoked
      exact hsameRight.revoked hrevoked hrightLive
  origin := by
    intro row' hrow' previous hfrom
    obtain ⟨row, hrow, hsame⟩ := exists_of_mem_revoked hrow'
    obtain ⟨old, hold, hid, hrevoked⟩ :=
      hsafe.origin row hrow previous (hsame.rotatedFrom ▸ hfrom)
    obtain ⟨old', hold', hsameOld, -⟩ := @exists_revoked _ selected now reason _ hold
    exact ⟨old', hold', hsameOld.id.trans hid, hsameOld.revoked hrevoked⟩
  successor_unique := by
    intro left hleft right hright previous hleftFrom hrightFrom
    obtain ⟨oldLeft, hmemLeft, hsameLeft⟩ := exists_of_mem_revoked hleft
    obtain ⟨oldRight, hmemRight, hsameRight⟩ := exists_of_mem_revoked hright
    rw [hsameLeft.id, hsameRight.id]
    exact hsafe.successor_unique _ hmemLeft _ hmemRight previous
      (hsameLeft.rotatedFrom ▸ hleftFrom) (hsameRight.rotatedFrom ▸ hrightFrom)

end Revoking

/-- A new token keeps families safe if no unrevoked token shares its family and
its predecessor is a revoked token without another successor. -/
theorem FamilySafe.append {tokens : List RefreshToken} {row : RefreshToken}
    (hsafe : FamilySafe tokens) (hid : ∀ other ∈ tokens, other.id ≠ row.id)
    (hlive : ∀ other ∈ tokens, other.familyId = row.familyId →
      other.revokedAt ≠ none)
    (horigin : ∀ previous, row.rotatedFrom = some previous →
      ∃ old ∈ tokens, old.id = previous ∧ old.revokedAt ≠ none)
    (hfirst : ∀ other ∈ tokens, ∀ previous, row.rotatedFrom = some previous →
      other.rotatedFrom ≠ some previous) : FamilySafe (tokens ++ [row]) where
  ids := by
    rw [List.map_append, List.map_singleton]
    refine hsafe.ids.append (List.nodup_singleton _) ?_
    rw [List.disjoint_singleton, List.mem_map]
    rintro ⟨other, hother, heq⟩
    exact hid other hother heq
  live_unique := by
    intro left hleft right hright hfamily hleftLive hrightLive
    rcases List.mem_append.mp hleft with hleft | hleft <;>
      rcases List.mem_append.mp hright with hright | hright
    · exact hsafe.live_unique _ hleft _ hright hfamily hleftLive hrightLive
    · rw [List.mem_singleton.mp hright] at hfamily
      exact absurd hleftLive (hlive left hleft hfamily)
    · rw [List.mem_singleton.mp hleft] at hfamily
      exact absurd hrightLive (hlive right hright hfamily.symm)
    · rw [List.mem_singleton.mp hleft, List.mem_singleton.mp hright]
  origin := by
    intro other hother previous hfrom
    have hold : ∃ old ∈ tokens, old.id = previous ∧ old.revokedAt ≠ none := by
      rcases List.mem_append.mp hother with hother | hother
      · exact hsafe.origin other hother previous hfrom
      · exact horigin previous (List.mem_singleton.mp hother ▸ hfrom)
    obtain ⟨old, hmem, hrest⟩ := hold
    exact ⟨old, List.mem_append_left _ hmem, hrest⟩
  successor_unique := by
    intro left hleft right hright previous hleftFrom hrightFrom
    rcases List.mem_append.mp hleft with hleft | hleft <;>
      rcases List.mem_append.mp hright with hright | hright
    · exact hsafe.successor_unique _ hleft _ hright previous hleftFrom hrightFrom
    · rw [List.mem_singleton.mp hright] at hrightFrom
      exact absurd hleftFrom (hfirst left hleft previous hrightFrom)
    · rw [List.mem_singleton.mp hleft] at hleftFrom
      exact absurd hrightFrom (hfirst right hright previous hleftFrom)
    · rw [List.mem_singleton.mp hleft, List.mem_singleton.mp hright]

theorem FamilySafe.eq_of_id {tokens : List RefreshToken}
    {left right : RefreshToken} (hsafe : FamilySafe tokens)
    (hleft : left ∈ tokens) (hright : right ∈ tokens)
    (hid : left.id = right.id) : left = right :=
  eq_of_key hsafe.ids hleft hright hid

theorem familySafe_of_change {tokens : List RefreshToken}
    (hsafe : FamilySafe s.db.refreshTokens) (hchange : TokenChange s tokens) :
    FamilySafe tokens := by
  cases hchange with
  | same => exact hsafe
  | @started row hfits hfamily hfirst _ =>
      refine hsafe.append hfits.fresh_id (fun other hother hsame => ?_) ?_ ?_
      · exact absurd hsame (hfamily other hother)
      · simp [hfirst]
      · simp [hfirst]
  | familyRevoked familyId reason => exact hsafe.revoke
  | expired _ _ => exact hsafe.revoke
  | @rotated row next hrow hlive _ hfits hfamily hfrom _ =>
      -- the rotated token was the live one of its family and had no successor
      have hsame : ∀ other ∈ s.db.refreshTokens, other.id = row.id →
          other = row := fun other hother hid => hsafe.eq_of_id hother hrow hid
      refine FamilySafe.append hsafe.revoke ?_ ?_ ?_ ?_
      · intro other' hother'
        obtain ⟨other, hother, hkept⟩ := exists_of_mem_revoked hother'
        exact hkept.id ▸ hfits.fresh_id other hother
      · intro other' hother' hother'Family hother'Live
        obtain ⟨other, hother, rfl⟩ := mem_updateWhere.mp hother'
        split_ifs at hother'Live hother'Family with hselected
        · simp [revokeToken] at hother'Live
        · have hid := hsafe.live_unique other hother row hrow
            (hother'Family.trans hfamily) hother'Live hlive
          simp [hid] at hselected
      · intro previous hprevious
        obtain rfl := Option.some.inj (hfrom.symm.trans hprevious)
        obtain ⟨row', hrow', hkept, hrevoked⟩ := @exists_revoked _
          (fun token => token.id == row.id) s.clock "rotated" _ hrow
        exact ⟨row', hrow', hkept.id, hrevoked (beq_self_eq_true _)⟩
      · intro other' hother' previous hprevious hother'From
        obtain rfl := Option.some.inj (hfrom.symm.trans hprevious)
        obtain ⟨other, hother, hkept⟩ := exists_of_mem_revoked hother'
        rw [hkept.rotatedFrom] at hother'From
        obtain ⟨old, hold, hid, hrevoked⟩ :=
          hsafe.origin other hother row.id hother'From
        rw [hsame old hold hid] at hrevoked
        exact hrevoked hlive

/-! ## Revoked families -/

/-- The request revokes a family: reuse detection, or a logout by its owner. -/
inductive Revokes (cfg : AuthConfig) (s : State) : Action → ℕ → Prop
  | reuse {rawToken : String} {draw : AuthDraw} {userId familyId : ℕ} :
      (withTransaction (refreshTransaction cfg s.clock rawToken draw) s.db).1 =
        .ok (.reuse userId familyId) →
      Revokes cfg s (.refresh rawToken draw) familyId
  | logout {userId : ℕ} {rawToken : String} {row : RefreshToken} :
      findToken cfg rawToken s.db = some row →
      (withTransaction (logout cfg s.clock userId rawToken) s.db).1 = .ok () →
      Revokes cfg s (.logout userId rawToken) row.familyId

/-- The request presents a token of a family and is answered with a new token
pair. -/
def Accepts (cfg : AuthConfig) (s : State) (act : Action) (familyId : ℕ) :
    Prop :=
  ∃ rawToken draw row answer, act = .refresh rawToken draw ∧
    findToken cfg rawToken s.db = some row ∧ row.familyId = familyId ∧
    (perform cfg s act).1 = some (.ok answer)

/-- The family has tokens, all of them revoked. -/
structure FamilyDead (familyId : ℕ) (tokens : List RefreshToken) : Prop where
  known : ∃ row ∈ tokens, row.familyId = familyId
  revoked : ∀ row ∈ tokens, row.familyId = familyId → row.revokedAt ≠ none

theorem familyDead_of_familyRevoked {tokens : List RefreshToken} {now : ℕ}
    {reason : String} {row : RefreshToken} (hrow : row ∈ tokens) :
    FamilyDead row.familyId
      (updateWhere (isLiveIn row.familyId) (revokeToken now reason) tokens) where
  known := by
    obtain ⟨row', hrow', hsame, -⟩ := @exists_revoked _
      (isLiveIn row.familyId) now reason _ hrow
    exact ⟨row', hrow', hsame.familyId⟩
  revoked := by
    intro other' hother' hfamily
    obtain ⟨other, hother, rfl⟩ := mem_updateWhere.mp hother'
    split_ifs at hfamily ⊢ with hlive
    · simp [revokeToken]
    · simpa [isLiveIn, hfamily] using hlive

theorem familyDead_of_revokes {familyId : ℕ}
    (hrevokes : Revokes cfg s act familyId) (hstep : step cfg s act = some s') :
    FamilyDead familyId s'.db.refreshTokens := by
  obtain ⟨rfl, -⟩ := step_eq hstep
  cases hrevokes with
  | @reuse rawToken draw _ _ hreuse =>
      rcases withTransaction_cases
          (refreshTransaction cfg s.clock rawToken draw) s.db with
        ⟨outcome, after, hrun, heq⟩ | ⟨cause, heq⟩
      · rw [heq] at hreuse
        obtain rfl := Except.ok.inj hreuse
        have hrefreshed := refreshTransaction_ok hrun
        simp only [perform, refresh, heq]
        generalize after.refreshTokens = tokens at hrefreshed
        cases hrefreshed with
        | reuse hrow _ => exact familyDead_of_familyRevoked (mem_of_findToken hrow)
      · rw [heq] at hreuse
        cases hreuse
  | @logout userId rawToken row hrow hok =>
      rcases withTransaction_cases (logout cfg s.clock userId rawToken) s.db with
        ⟨done, after, hrun, heq⟩ | ⟨cause, heq⟩
      · have hlogout := logout_ok hrun
        simp only [perform, heq]
        generalize after.refreshTokens = tokens at hlogout
        cases hlogout with
        | unknown hnone => simp [hrow] at hnone
        | revoked hother =>
            obtain rfl := Option.some.inj (hrow.symm.trans hother)
            exact familyDead_of_familyRevoked (mem_of_findToken hrow)
      · rw [heq] at hok
        cases hok

theorem FamilyDead.revoke {familyId : ℕ} {tokens : List RefreshToken}
    {selected : RefreshToken → Bool} {now : ℕ} {reason : String}
    (hdead : FamilyDead familyId tokens) : FamilyDead familyId
      (updateWhere selected (revokeToken now reason) tokens) where
  known := by
    obtain ⟨row, hrow, hfamily⟩ := hdead.known
    obtain ⟨row', hrow', hsame, -⟩ := @exists_revoked _ selected now reason _ hrow
    exact ⟨row', hrow', hsame.familyId.trans hfamily⟩
  revoked := by
    intro row' hrow' hfamily
    obtain ⟨row, hrow, hsame⟩ := exists_of_mem_revoked hrow'
    exact hsame.revoked (hdead.revoked row hrow (hsame.familyId ▸ hfamily))

theorem FamilyDead.append {familyId : ℕ} {tokens : List RefreshToken}
    {row : RefreshToken} (hdead : FamilyDead familyId tokens)
    (hother : row.familyId ≠ familyId) : FamilyDead familyId (tokens ++ [row]) where
  known := by
    obtain ⟨old, hold, hfamily⟩ := hdead.known
    exact ⟨old, List.mem_append_left _ hold, hfamily⟩
  revoked := by
    intro other hmem hfamily
    rcases List.mem_append.mp hmem with hold | hnew
    · exact hdead.revoked other hold hfamily
    · rw [List.mem_singleton.mp hnew] at hfamily
      exact absurd hfamily hother

/-- A revoked family stays revoked. -/
theorem familyDead_step {familyId : ℕ}
    (hdead : FamilyDead familyId s.db.refreshTokens)
    (hstep : step cfg s act = some s') :
    FamilyDead familyId s'.db.refreshTokens := by
  have hchange := step_tokens hstep
  generalize s'.db.refreshTokens = tokens at hchange
  cases hchange with
  | same => exact hdead
  | started _ hfamily _ _ =>
      obtain ⟨row, hrow, rfl⟩ := hdead.known
      exact hdead.append (hfamily row hrow).symm
  | familyRevoked _ _ => exact hdead.revoke
  | expired _ _ => exact hdead.revoke
  | rotated hrow hlive _ _ hfamily _ _ =>
      refine hdead.revoke.append fun hsame => ?_
      exact hdead.revoked _ hrow (hfamily.symm.trans hsame) hlive

theorem not_accepts_of_dead {familyId : ℕ}
    (hdead : FamilyDead familyId s.db.refreshTokens) :
    ¬ Accepts cfg s act familyId := by
  rintro ⟨rawToken, draw, row, answer, rfl, hrow, hfamily, hanswer⟩
  rcases withTransaction_cases
      (refreshTransaction cfg s.clock rawToken draw) s.db with
    ⟨outcome, after, hrun, heq⟩ | ⟨cause, heq⟩
  · simp only [perform, refresh, heq, Option.some.injEq] at hanswer
    have hrefreshed := refreshTransaction_ok hrun
    generalize after.refreshTokens = tokens at hrefreshed
    cases hrefreshed with
    | rotated hother hlive _ _ _ _ _ =>
        obtain rfl := Option.some.inj (hrow.symm.trans hother)
        exact hdead.revoked _ (mem_of_findToken hrow) hfamily hlive
    | _ => cases hanswer
  · simp only [perform, refresh, heq, Option.some.injEq] at hanswer
    cases hanswer

/-! ## Over runs -/

/-- Each family has at most one unrevoked token and each token at most one
successor. -/
def AtMostOne (s : State) : Prop :=
  (∀ familyId, (s.db.refreshTokens.filter (isLiveIn familyId)).length ≤ 1) ∧
    ∀ id, (s.db.refreshTokens.filter fun row =>
      row.rotatedFrom == some id).length ≤ 1

theorem length_filter_le_one {tokens : List RefreshToken}
    {selected : RefreshToken → Bool}
    (hids : (tokens.map RefreshToken.id).Nodup)
    (hsame : ∀ left ∈ tokens, ∀ right ∈ tokens, selected left = true →
      selected right = true → left.id = right.id) :
    (tokens.filter selected).length ≤ 1 := by
  have hnodup : ((tokens.filter selected).map RefreshToken.id).Nodup :=
    hids.sublist (List.filter_sublist.map _)
  rcases hkept : tokens.filter selected with _ | ⟨left, _ | ⟨right, rest⟩⟩
  · exact Nat.zero_le _
  · exact le_rfl
  · have hmem : ∀ row ∈ left :: right :: rest, row ∈ tokens ∧ selected row = true :=
      fun row hrow => List.mem_filter.mp (hkept ▸ hrow)
    rw [hkept] at hnodup
    have hleft := hmem left (by simp)
    have hright := hmem right (by simp)
    have hid := hsame left hleft.1 right hright.1 hleft.2 hright.2
    simp [hid] at hnodup

theorem atMostOne_of_safe (hsafe : FamilySafe s.db.refreshTokens) :
    AtMostOne s := by
  constructor
  · intro familyId
    apply length_filter_le_one hsafe.ids
    intro left hleft right hright hselected hother
    simp only [isLiveIn, Bool.and_eq_true, beq_iff_eq,
      Option.isNone_iff_eq_none] at hselected hother
    exact hsafe.live_unique left hleft right hright
      (hselected.1.trans hother.1.symm) hselected.2 hother.2
  · intro id
    apply length_filter_le_one hsafe.ids
    intro left hleft right hright hselected hother
    exact hsafe.successor_unique left hleft right hright id
      (beq_iff_eq.mp hselected) (beq_iff_eq.mp hother)

theorem familySafe_initial (hinit : IsInitial s) :
    FamilySafe s.db.refreshTokens := by
  rw [IsInitial] at hinit
  constructor <;> simp [hinit]

/-- In every state of every run families are linear, and after a family has
been revoked none of its tokens is accepted. -/
theorem family_safety {start last : State} {trace : List (State × Action)}
    (hinit : IsInitial start) (hrun : Run (auth cfg) start trace last) :
    Always AtMostOne trace last ∧
      ∀ before entry after familyId, trace = before ++ entry :: after →
        Revokes cfg entry.1 entry.2 familyId →
        ∀ later ∈ after, ¬ Accepts cfg later.1 later.2 familyId := by
  constructor
  · have hsafe : Always (fun s => FamilySafe s.db.refreshTokens) trace last :=
      hrun.always (familySafe_initial hinit) fun _ _ _ hsafe hstep =>
        familySafe_of_change hsafe (step_tokens hstep)
    exact ⟨fun entry hentry => atMostOne_of_safe (hsafe.1 entry hentry),
      atMostOne_of_safe hsafe.2⟩
  · rintro before entry after familyId rfl hrevokes later hlater
    obtain ⟨next, -, hstep, hrest⟩ := hrun.exists_split
    have hdead : Always (fun s => FamilyDead familyId s.db.refreshTokens)
        after last :=
      hrest.always (familyDead_of_revokes hrevokes hstep) fun _ _ _ hdead hstep =>
        familyDead_step hdead hstep
    exact not_accepts_of_dead (hdead.1 later hlater)

/-- Libraries whose hash spells the bytes of a token; ASCII letters fold. -/
def plainConfig : AuthConfig where
  hashRefresh raw := raw.toList.map fun char => char.toNat.toUInt8
  argonHash := id
  argonVerify hash password := hash == password
  toLowerCase := String.toLower
  citext := String.toLower

def nthDraw (n : ℕ) : AuthDraw := ⟨n, n, n, n, fun _ => n.toUInt8⟩

def firstLaunch : Action :=
  .anon { platform := .android, installId := "phone" } (nthDraw 1)

/-- The `n`th raw token is presented; the next draw is at hand. -/
def present (n next : ℕ) : Action :=
  .refresh (newRefreshRaw (nthDraw n)) (nthDraw next)

/-- The first token is rotated and then replayed; its successor is refused. -/
theorem family_safety_replayed : ∃ trace s s' last,
    Run (auth plainConfig) {} (trace ++ [(s, present 1 3), (s', present 2 4)])
      last ∧ AtMostOne last ∧ last.db.refreshTokens.length = 2 ∧
    ¬ Accepts plainConfig s' (present 2 4) 1 := by
  obtain ⟨s, s', hrun, hstep, hreuse, last, hlast, hlength⟩ :=
    @exists_run_of_execute _ _ (auth plainConfig) {} [firstLaunch, present 1 2]
      (present 1 3) (fun s s' =>
        (withTransaction (refreshTransaction plainConfig s.clock
          (newRefreshRaw (nthDraw 1)) (nthDraw 3)) s.db).1 = .ok (.reuse 1 1) ∧
        ∃ last ∈ (step plainConfig s' (present 2 4)).toList,
          last.db.refreshTokens.length = 2) _ (by decide +kernel)
  have hnext : (auth plainConfig).step s' (present 2 4) = some last :=
    Option.mem_toList.mp hlast
  have hfull := Run.snoc hrun hnext
  rw [List.append_assoc] at hfull
  have hinit : IsInitial {} := rfl
  obtain ⟨hsafe, hrefused⟩ := family_safety hinit hfull
  refine ⟨_, s, s', last, hfull, hsafe.2, hlength, ?_⟩
  exact hrefused _ _ _ 1 rfl (.reuse hreuse) (s', present 2 4) (by simp)

end VpnMiddleware.TokenFamilies
