import VpnMiddleware.Invariants.Lockout
import VpnMiddleware.Invariants.SpentTokens
import VpnMiddleware.Web.Dashboard

/-!
# Refresh tokens of an honest dashboard

Within one tab at most one refresh is in flight.  The tokens that the browser
may still present, in storage or in flight, are distinct and spendable as long
as no tab starts a refresh with a token that another refresh carries.
-/

namespace VpnMiddleware.HonestRefresh

open VpnMiddleware.Schema VpnMiddleware.Errors VpnMiddleware.Pool
open VpnMiddleware.AuthService VpnMiddleware.SpentTokens
open VpnMiddleware.TransitionSystem
open VpnMiddleware.Dashboard

variable {cfg : AuthConfig} {s s' start last : State} {act : Action}
variable {trace : List (State × Action)} {calls : List Call} {call : Call}
variable {i tab : ℕ} {store : TokenStore} {hash : List UInt8}

/-! ## The law -/

/-- The exchange is a refresh of the tab. -/
def isRefreshOf (tab : ℕ) (call : Call) : Bool :=
  call.tab == some tab &&
    match call.exchange with
    | .refresh _ _ => true
    | _ => false

/-- The refreshes of a tab that are in flight. -/
def inFlight (tab : ℕ) (s : State) : ℕ := s.calls.countP (isRefreshOf tab)

/-- The token that a refresh in flight has spent or is about to spend. -/
def carries : Exchange → Option String
  | .refresh token none | .refresh token (some (.ok _)) => some token
  | _ => none

/-- The token with which a step starts a refresh: a request got its first 401,
and its tab has no refresh promise. -/
def starts (s : State) : Action → Option String
  | .deliver i _ => do
      let call ← s.calls[i]?
      let tab ← call.tab
      match call.exchange with
      | .api _ false (some 401) =>
          if s.tabs[tab]?.any Tab.refreshing then none else s.store.refreshToken
      | _ => none
  | _ => none

/-- No refresh in flight carries the token with which a refresh starts. -/
def StartsAlone (s : State) (act : Action) : Prop :=
  ∀ token ∈ starts s act, ∀ call ∈ s.calls, carries call.exchange ≠ some token

instance (s : State) (act : Action) : Decidable (StartsAlone s act) :=
  inferInstanceAs (Decidable (∀ token ∈ (_ : Option String), _))

/-- The token that the server receives in a step. -/
def presents (s : State) : Action → Option (String × AuthDraw)
  | .serve i _ draw => do
      let call ← s.calls[i]?
      match call.exchange with
      | .refresh token none => some (token, draw)
      | _ => none
  | _ => none

/-- The presented token has not been rotated, and presenting it revokes no
family for reuse. -/
structure NotReplayed (cfg : AuthConfig) (server : AuthSystem.State)
    (token : String) (draw : AuthDraw) : Prop where
  not_rotated : ∀ row ∈ findToken cfg token server.db,
    row.revokeReason ≠ some "rotated"
  not_reused : ∀ after,
    AuthSystem.step cfg server (.refresh token draw) = some after →
      ∀ row ∈ after.db.refreshTokens,
        row.revokeReason = some "reuse_detected" → row ∈ server.db.refreshTokens

/-! ## Tokens that may still be presented -/

/-- The exchange will present a token with this hash, or bring one. -/
def spends (cfg : AuthConfig) (hash : List UInt8) (call : Call) : Bool :=
  match call.exchange with
  | .refresh token none => cfg.hashRefresh token == hash
  | .refresh _ (some (.ok pair)) | .login _ _ (some (.ok pair)) =>
      cfg.hashRefresh pair.refreshToken == hash
  | _ => false

/-- The stored token, unless a refresh in flight carries it. -/
def isFree (cfg : AuthConfig) (store : TokenStore) (calls : List Call)
    (hash : List UInt8) : Bool :=
  store.refreshToken.any fun token => cfg.hashRefresh token == hash &&
    calls.all fun call => carries call.exchange != some token

/-- How many tokens with this hash may still be presented. -/
def copies (cfg : AuthConfig) (store : TokenStore) (calls : List Call)
    (hash : List UInt8) : ℕ :=
  calls.countP (spends cfg hash) + if isFree cfg store calls hash then 1 else 0

/-- Storage was cleared when a request lost its tab. -/
structure Abandoned (s : State) : Prop where
  unanswered : ∀ call ∈ s.calls, call.tab = none →
    call.exchange.isAnswered = false
  unstored : ∀ call ∈ s.calls, call.tab = none →
    ∀ token ∈ carries call.exchange, s.store.refreshToken ≠ some token

structure Honest (cfg : AuthConfig) (s : State) : Prop where
  sound : Sound s.server.db.refreshTokens
  once : ∀ hash, copies cfg s.store s.calls hash ≤ 1
  spendable : ∀ hash, 0 < copies cfg s.store s.calls hash →
    ∃ row ∈ s.server.db.refreshTokens, row.tokenHash = hash ∧ Spendable row
  abandoned : Abandoned s

/-! ## Counting -/

/-- A refresh in flight carries the token. -/
def Carried (calls : List Call) (token : String) : Prop :=
  ∃ call ∈ calls, carries call.exchange = some token

theorem isFree_iff : isFree cfg store calls hash = true ↔
    ∃ token, store.refreshToken = some token ∧ cfg.hashRefresh token = hash ∧
      ¬ Carried calls token := by
  simp [isFree, Carried, Option.any_eq_true]

theorem countP_le_copies :
    calls.countP (spends cfg hash) ≤ copies cfg store calls hash :=
  Nat.le_add_right _ _

/-- The stored token counts as before if it was carried before whenever it is
carried now. -/
theorem copies_le {calls' : List Call}
    (hcount : calls'.countP (spends cfg hash) ≤ calls.countP (spends cfg hash))
    (hcarried : ∀ token, store.refreshToken = some token →
      cfg.hashRefresh token = hash → Carried calls token →
        Carried calls' token) :
    copies cfg store calls' hash ≤ copies cfg store calls hash := by
  apply Nat.add_le_add hcount
  by_cases hfree : isFree cfg store calls' hash = true
  · obtain ⟨token, hstored, hhash, hnone⟩ := isFree_iff.mp hfree
    have hbefore : isFree cfg store calls hash = true := by
      refine isFree_iff.mpr ⟨token, hstored, hhash, ?_⟩
      exact fun hcarries => hnone (hcarried token hstored hhash hcarries)
    rw [if_pos hfree, if_pos hbefore]
  · rw [if_neg hfree]
    exact Nat.zero_le _

/-- A stored token that a response brought counts once, instead of it. -/
theorem copies_stored {pair : TokenPair}
    (hcalls : calls[i]? = some call)
    (hspends : ∀ hash, spends cfg hash call =
      (cfg.hashRefresh pair.refreshToken == hash)) :
    copies cfg (.ofPair pair) (settle calls i none) hash ≤
      calls.countP (spends cfg hash) := by
  have hcount := @countP_settle _ calls i call none (spends cfg hash) hcalls
  have hfree : isFree cfg (.ofPair pair) (settle calls i none) hash = true →
      spends cfg hash call = true := by
    intro hfree
    obtain ⟨token, hstored, hhash, -⟩ := isFree_iff.mp hfree
    obtain rfl := Option.some.inj hstored
    rw [hspends, hhash, beq_self_eq_true]
  rw [Option.any_none, if_neg Bool.false_ne_true] at hcount
  rw [copies]
  split_ifs with hnow
  · rw [if_pos (hfree hnow)] at hcount
    omega
  · omega

theorem carried_append {calls : List Call} {token : String} :
    Carried (calls ++ [call]) token ↔
      Carried calls token ∨ carries call.exchange = some token := by
  simp [Carried, or_and_right, exists_or]

/-- An exchange without a refresh token. -/
structure Idle (cfg : AuthConfig) (call : Call) : Prop where
  carries : carries call.exchange = none
  spends : ∀ hash, spends cfg hash call = false

theorem idle_api {token : Option AccessToken} {retried : Bool}
    {status : Option ℕ} {tab : Option ℕ} :
    Idle cfg ⟨tab, .api token retried status⟩ :=
  ⟨rfl, fun _ => rfl⟩

theorem idle_login {email password : String} {tab : Option ℕ} :
    Idle cfg ⟨tab, .login email password none⟩ :=
  ⟨rfl, fun _ => rfl⟩

theorem copies_append_idle (hidle : Idle cfg call) :
    copies cfg store (calls ++ [call]) hash ≤ copies cfg store calls hash := by
  apply copies_le
  · simp [List.countP_append, hidle.spends hash]
  · exact fun token _ _ hcarried => carried_append.mpr (Or.inl hcarried)

/-- A refresh takes over the stored token. -/
theorem copies_append_refresh {token : String} {tab : Option ℕ}
    (hstored : store.refreshToken = some token)
    (halone : ¬ Carried calls token) :
    copies cfg store (calls ++ [⟨tab, .refresh token none⟩]) hash ≤
      copies cfg store calls hash := by
  have hafter : isFree cfg store (calls ++ [⟨tab, .refresh token none⟩]) hash =
      false := by
    rw [Bool.eq_false_iff]
    intro hfree
    obtain ⟨other, hother, -, hnone⟩ := isFree_iff.mp hfree
    obtain rfl := Option.some.inj (hstored.symm.trans hother)
    exact hnone (carried_append.mpr (Or.inr rfl))
  simp only [copies]
  rw [hafter, List.countP_append, List.countP_singleton]
  by_cases hhash : cfg.hashRefresh token = hash
  · have hbefore : isFree cfg store calls hash = true :=
      isFree_iff.mpr ⟨token, hstored, hhash, halone⟩
    simp [hbefore, spends, hhash]
  · simp [spends, hhash]

/-! ## Steps of a tab -/

/-- A step of a tab presents no token twice that it did not before. -/
structure Shrinks (cfg : AuthConfig) (s s' : State) : Prop where
  server : s'.server = s.server
  copies : ∀ hash, copies cfg s'.store s'.calls hash ≤
    copies cfg s.store s.calls hash
  abandoned : Abandoned s → Abandoned s'

theorem Shrinks.refl (s : State) : Shrinks cfg s s :=
  ⟨rfl, fun _ => Nat.le_refl _, id⟩

theorem Shrinks.trans {mid : State} (hfirst : Shrinks cfg s mid)
    (hsecond : Shrinks cfg mid s') : Shrinks cfg s s' where
  server := hsecond.server.trans hfirst.server
  copies := fun hash => (hsecond.copies hash).trans (hfirst.copies hash)
  abandoned := hsecond.abandoned ∘ hfirst.abandoned

theorem Honest.of_shrinks (hhonest : Honest cfg s) (hshrinks : Shrinks cfg s s') :
    Honest cfg s' where
  sound := by
    rw [hshrinks.server]
    exact hhonest.sound
  once := fun hash => (hshrinks.copies hash).trans (hhonest.once hash)
  spendable := by
    intro hash hpositive
    rw [hshrinks.server]
    exact hhonest.spendable hash (hpositive.trans_le (hshrinks.copies hash))
  abandoned := hshrinks.abandoned hhonest.abandoned

theorem shrinks_setTab {change : Tab → Tab} : Shrinks cfg s (setTab s tab change) :=
  ⟨rfl, fun _ => Nat.le_refl _, fun h => ⟨h.unanswered, h.unstored⟩⟩

/-- A new request belongs to its tab. -/
theorem Abandoned.send {exchange : Exchange} (habandoned : Abandoned s) :
    Abandoned (send s tab exchange) where
  unanswered := by
    intro call hcall hnone
    rcases List.mem_append.mp hcall with hcall | hcall
    · exact habandoned.unanswered call hcall hnone
    · rw [List.mem_singleton.mp hcall] at hnone
      cases hnone
  unstored := by
    intro call hcall hnone
    rcases List.mem_append.mp hcall with hcall | hcall
    · exact habandoned.unstored call hcall hnone
    · rw [List.mem_singleton.mp hcall] at hnone
      cases hnone

theorem shrinks_send {exchange : Exchange} (hidle : Idle cfg ⟨some tab, exchange⟩) :
    Shrinks cfg s (send s tab exchange) :=
  ⟨rfl, fun _ => copies_append_idle hidle, Abandoned.send⟩

theorem shrinks_clear : Shrinks cfg s { s with store := .clear } where
  server := rfl
  copies := fun _ => countP_le_copies
  abandoned := fun h => ⟨h.unanswered, fun _ _ _ _ _ => by simp [TokenStore.clear]⟩

theorem abandon_eq {call' : Call} (habandon : abandon tab call = some call') :
    spends cfg hash call' = spends cfg hash call ∧
      carries call'.exchange = carries call.exchange ∧
      (call' = call ∨ call'.exchange.isAnswered = false) := by
  rw [abandon] at habandon
  split_ifs at habandon with htab hanswered
  · obtain rfl := Option.some.inj habandon
    exact ⟨rfl, rfl, Or.inr (by simpa using hanswered)⟩
  · obtain rfl := Option.some.inj habandon
    exact ⟨rfl, rfl, Or.inl rfl⟩

theorem countP_abandon_le :
    (calls.filterMap (abandon tab)).countP (spends cfg hash) ≤
      calls.countP (spends cfg hash) := by
  rw [List.countP_filterMap]
  apply List.countP_mono_left
  intro call _ hspends
  cases habandon : abandon tab call with
  | none => simp [habandon] at hspends
  | some call' =>
      rw [← (@abandon_eq cfg call tab hash call' habandon).1]
      simpa [habandon] using hspends

theorem shrinks_toLogin {leaves : Bool} : Shrinks cfg s (toLogin s tab leaves) := by
  rw [toLogin]
  cases leaves with
  | false => exact shrinks_clear
  | true =>
      refine ⟨rfl, fun hash => ?_, fun habandoned => ⟨?_, ?_⟩⟩
      · exact countP_abandon_le.trans countP_le_copies
      · intro call' hcall' hnone
        obtain ⟨call, hcall, habandon⟩ := List.mem_filterMap.mp hcall'
        rcases (@abandon_eq cfg call tab [] call' habandon).2.2 with
          rfl | hunanswered
        · exact habandoned.unanswered call' hcall hnone
        · exact hunanswered
      · exact fun _ _ _ _ _ => by simp [TokenStore.clear, setTab]

/-- A request is over. -/
theorem shrinks_remove (hcall : s.calls[i]? = some call) (hidle : Idle cfg call) :
    Shrinks cfg s { s with calls := settle s.calls i none } where
  server := rfl
  copies := by
    intro hash
    apply copies_le
    · exact (List.eraseIdx_sublist s.calls i).countP_le
    · rintro token - - ⟨other, hother, hcarries⟩
      rcases @mem_settle_of_mem _ s.calls i call other none hcall hother with
        rfl | hkept
      · rw [hidle.carries] at hcarries
        cases hcarries
      · exact ⟨other, hkept, hcarries⟩
  abandoned := by
    intro habandoned
    have hsub : ∀ other ∈ settle s.calls i none, other ∈ s.calls :=
      fun other hother => List.mem_of_mem_eraseIdx hother
    exact ⟨fun other hother => habandoned.unanswered other (hsub other hother),
      fun other hother => habandoned.unstored other (hsub other hother)⟩

theorem shrinks_refreshOnce {leaves : Bool}
    (halone : ∀ token, s.tabs[tab]?.any Tab.refreshing = false →
      s.store.refreshToken = some token → ¬ Carried s.calls token) :
    Shrinks cfg s (refreshOnce s tab leaves) := by
  rw [refreshOnce]
  split_ifs with hrefreshing
  · exact shrinks_setTab
  · split
    · exact shrinks_toLogin
    · next token hstored =>
      refine ⟨rfl, fun hash => ?_, fun habandoned => ?_⟩
      · apply copies_append_refresh hstored
        exact halone token (by simpa using hrefreshing) hstored
      · exact Abandoned.send ⟨habandoned.unanswered, habandoned.unstored⟩

theorem shrinks_onApiStatus {retried leaves : Bool} {status : ℕ}
    (halone : ∀ token, retried = false → status = 401 →
      s.tabs[tab]?.any Tab.refreshing = false →
      s.store.refreshToken = some token → ¬ Carried s.calls token) :
    Shrinks cfg s (onApiStatus s tab retried status leaves) := by
  rw [onApiStatus]
  split_ifs with hforbidden hunauthorized hretried
  · exact shrinks_toLogin
  · exact shrinks_toLogin
  · apply shrinks_refreshOnce
    exact fun token => halone token (by simpa using hretried) hunauthorized
  · exact .refl s

/-- The token that a response brings is stored; no copy of it is in flight. -/
theorem Honest.of_stored {pair : TokenPair} {tabs : List Tab}
    (hhonest : Honest cfg s) (hcall : s.calls[i]? = some call)
    (hspends : ∀ hash, spends cfg hash call =
      (cfg.hashRefresh pair.refreshToken == hash)) :
    Honest cfg { s with
      store := .ofPair pair, tabs := tabs, calls := settle s.calls i none } := by
  have hcopies : ∀ hash, copies cfg (.ofPair pair) (settle s.calls i none) hash ≤
      copies cfg s.store s.calls hash :=
    fun hash => (copies_stored hcall hspends).trans countP_le_copies
  have hsub : ∀ other ∈ settle s.calls i none, other ∈ s.calls :=
    fun other hother => List.mem_of_mem_eraseIdx hother
  refine ⟨hhonest.sound, fun hash => (hcopies hash).trans (hhonest.once hash),
    fun hash hpositive => hhonest.spendable hash (hpositive.trans_le
      (hcopies hash)), fun other hother =>
        hhonest.abandoned.unanswered other (hsub other hother), ?_⟩
  intro other hother hnone token hcarries hstored
  -- a request that lost its tab would present a second copy
  obtain rfl := Option.some.inj hstored
  have hunanswered :=
    hhonest.abandoned.unanswered other (hsub other hother) hnone
  have hsecond : spends cfg (cfg.hashRefresh pair.refreshToken) other = true := by
    revert hcarries hunanswered
    simp only [carries, Exchange.isAnswered, spends]
    rcases other.exchange with _ | ⟨token, _ | (_ | _)⟩ | _ <;>
      simp +contextual
  have hcount := @countP_settle _ s.calls i call none
    (spends cfg (cfg.hashRefresh pair.refreshToken)) hcall
  have hkept : other ∈ settle s.calls i none := hother
  have hpositive := List.countP_pos_iff.mpr ⟨other, hkept, hsecond⟩
  have honce := countP_le_copies.trans
    (hhonest.once (cfg.hashRefresh pair.refreshToken))
  rw [hspends, beq_self_eq_true, if_pos rfl, Option.any_none,
    if_neg Bool.false_ne_true] at hcount
  omega

/-- A tab receives a response. -/
theorem honest_deliver {leaves : Bool} (hhonest : Honest cfg s)
    (halone : StartsAlone s (.deliver i leaves))
    (hstep : step cfg s (.deliver i leaves) = some s') : Honest cfg s' := by
  simp only [step, Option.bind_eq_bind, Option.bind_eq_some_iff] at hstep
  obtain ⟨call, hcall, tab, htab, hresponse⟩ := hstep
  simp only [onResponse] at hresponse
  split at hresponse
  · next token retried status hexchange =>
    obtain rfl := Option.some.inj hresponse
    have hidle : Idle cfg call :=
      ⟨by rw [hexchange]; rfl, fun hash => by rw [spends, hexchange]⟩
    apply hhonest.of_shrinks ((shrinks_remove hcall hidle).trans _)
    apply shrinks_onApiStatus
    rintro token rfl rfl hrefreshing hstored ⟨other, hother, hcarries⟩
    refine halone token ?_ other (List.mem_of_mem_eraseIdx hother) hcarries
    simpa [starts, hcall, htab, hexchange, hrefreshing] using hstored
  · next token answer hexchange =>
    obtain rfl := Option.some.inj hresponse
    cases answer with
    | ok pair =>
        apply hhonest.of_stored hcall
        exact fun hash => by rw [spends, hexchange]
    | error cause =>
        have hidle : Idle cfg call :=
          ⟨by rw [hexchange]; rfl, fun hash => by rw [spends, hexchange]⟩
        apply hhonest.of_shrinks ((shrinks_remove hcall hidle).trans _)
        exact shrinks_setTab.trans shrinks_toLogin
  · next email password answer hexchange =>
    obtain rfl := Option.some.inj hresponse
    cases answer with
    | ok pair =>
        apply hhonest.of_stored hcall
        exact fun hash => by rw [spends, hexchange]
    | error cause =>
        have hidle : Idle cfg call :=
          ⟨by rw [hexchange]; rfl, fun hash => by rw [spends, hexchange]⟩
        apply hhonest.of_shrinks ((shrinks_remove hcall hidle).trans _)
        simp only [onLogin]
        split_ifs
        · exact shrinks_toLogin
        · exact .refl _
  · cases hresponse

/-! ## Steps of the server -/

section Replacing

variable {next : Option Call}

/-- The exchange that takes the place of another one carries its token, if that
token is stored. -/
theorem copies_replace (hcall : calls[i]? = some call)
    (hcarries : ∀ token, store.refreshToken = some token →
      carries call.exchange = some token →
        Carried (settle calls i next) token) :
    copies cfg store (settle calls i next) hash +
        (if spends cfg hash call then 1 else 0) ≤
      copies cfg store calls hash +
        if next.any (spends cfg hash) then 1 else 0 := by
  have hcount := @countP_settle _ calls i call next (spends cfg hash) hcall
  have hfree : isFree cfg store (settle calls i next) hash = true →
      isFree cfg store calls hash = true := by
    intro hfree
    obtain ⟨token, hstored, hhash, hnone⟩ := isFree_iff.mp hfree
    refine isFree_iff.mpr ⟨token, hstored, hhash, ?_⟩
    rintro ⟨other, hother, hother'Carries⟩
    apply hnone
    rcases @mem_settle_of_mem _ calls i call other next hcall hother with
      rfl | hkept
    · exact hcarries token hstored hother'Carries
    · exact ⟨other, hkept, hother'Carries⟩
  simp only [copies]
  by_cases hafter : isFree cfg store (settle calls i next) hash = true
  · rw [if_pos hafter, if_pos (hfree hafter)]
    omega
  · rw [if_neg hafter]
    omega

/-- A refresh that was not answered with a pair gives its token back. -/
theorem copies_refused {token : String} (hcall : calls[i]? = some call)
    (hexchange : call.exchange = .refresh token none)
    (hnext : ∀ hash, next.any (spends cfg hash) = false) :
    copies cfg store (settle calls i next) hash ≤ copies cfg store calls hash := by
  have hspends : spends cfg hash call = (cfg.hashRefresh token == hash) := by
    rw [spends, hexchange]
  have hcount := @countP_settle _ calls i call next (spends cfg hash) hcall
  rw [hnext, if_neg Bool.false_ne_true, hspends] at hcount
  by_cases hsame : cfg.hashRefresh token = hash
  · rw [hsame, beq_self_eq_true, if_pos rfl] at hcount
    simp only [copies]
    split_ifs <;> omega
  · rw [if_neg (by simpa using hsame)] at hcount
    apply copies_le (by omega)
    rintro stored - hhash ⟨other, hother, hcarries⟩
    rcases @mem_settle_of_mem _ calls i call other next hcall hother with
      rfl | hkept
    · rw [hexchange] at hcarries
      obtain rfl := Option.some.inj hcarries
      exact absurd hhash hsame
    · exact ⟨other, hkept, hcarries⟩

end Replacing

theorem abandoned_answered {exchange : Exchange} (habandoned : Abandoned s)
    {server : AuthSystem.State} :
    Abandoned { s with
      server := server, calls := settle s.calls i (answered call exchange) } := by
  have hcases : ∀ other ∈ settle s.calls i (answered call exchange),
      other.tab = none → other ∈ s.calls := by
    intro other hother hnone
    rcases mem_settle hother with hold | hnew
    · exact hold
    · rw [answered] at hnew
      split_ifs at hnew with htab
      obtain rfl := Option.some.inj hnew
      rw [show call.tab = none from hnone] at htab
      cases htab
  exact ⟨fun other hother hnone => habandoned.unanswered other
      (hcases other hother hnone) hnone,
    fun other hother hnone => habandoned.unstored other
      (hcases other hother hnone) hnone⟩

/-- Responses that bring no token. -/
theorem any_answered {exchange : Exchange}
    (hidle : ∀ tab hash, spends cfg hash ⟨tab, exchange⟩ = false) :
    (answered call exchange).any (spends cfg hash) = false := by
  rw [answered]
  split_ifs
  · exact hidle call.tab hash
  · rfl

theorem any_answered_le {exchange : Exchange} {pair : TokenPair}
    (hspends : ∀ tab, spends cfg hash ⟨tab, exchange⟩ =
      (cfg.hashRefresh pair.refreshToken == hash))
    (hany : (answered call exchange).any (spends cfg hash) = true) :
    cfg.hashRefresh pair.refreshToken = hash := by
  rw [answered] at hany
  split_ifs at hany
  · rw [Option.any_some, hspends call.tab] at hany
    exact beq_iff_eq.mp hany
  · cases hany

/-- A token pair arrives whose token has a new hash; the tokens that may still
be presented otherwise stay spendable. -/
theorem Honest.of_issued {server : AuthSystem.State} {next : List Call}
    {pair : TokenPair} (hhonest : Honest cfg s)
    (hsound : Sound server.db.refreshTokens)
    (hcopies : ∀ hash, cfg.hashRefresh pair.refreshToken ≠ hash →
      copies cfg s.store next hash ≤ copies cfg s.store s.calls hash)
    (hnew : copies cfg s.store next (cfg.hashRefresh pair.refreshToken) ≤
      copies cfg s.store s.calls (cfg.hashRefresh pair.refreshToken) + 1)
    (hfresh : ∀ row ∈ s.server.db.refreshTokens,
      row.tokenHash ≠ cfg.hashRefresh pair.refreshToken)
    (hissued : ∃ row ∈ server.db.refreshTokens,
      row.tokenHash = cfg.hashRefresh pair.refreshToken ∧ Spendable row)
    (hkept : ∀ hash, 0 < copies cfg s.store next hash →
      ∀ row ∈ s.server.db.refreshTokens, row.tokenHash = hash →
        row ∈ server.db.refreshTokens)
    (habandoned : Abandoned { s with server := server, calls := next }) :
    Honest cfg { s with server := server, calls := next } := by
  have hunused : copies cfg s.store s.calls
      (cfg.hashRefresh pair.refreshToken) = 0 := by
    by_contra hused
    obtain ⟨row, hrow, hhash, -⟩ :=
      hhonest.spendable _ (Nat.pos_of_ne_zero hused)
    exact hfresh row hrow hhash
  refine ⟨hsound, fun hash => ?_, fun hash hpositive => ?_, habandoned⟩
  · by_cases hsame : cfg.hashRefresh pair.refreshToken = hash
    · subst hsame
      rw [hunused] at hnew
      exact hnew
    · exact (hcopies hash hsame).trans (hhonest.once hash)
  · by_cases hsame : cfg.hashRefresh pair.refreshToken = hash
    · exact hsame ▸ hissued
    · obtain ⟨row, hrow, hhash, hspendable⟩ :=
        hhonest.spendable hash (hpositive.trans_le (hcopies hash hsame))
      exact ⟨row, hkept hash hpositive row hrow hhash, hhash, hspendable⟩

/-- The row of a token that may still be presented. -/
theorem Honest.presented_row {token : String} (hhonest : Honest cfg s)
    (hcall : s.calls[i]? = some call)
    (hexchange : call.exchange = .refresh token none) :
    ∃ row ∈ s.server.db.refreshTokens,
      row.tokenHash = cfg.hashRefresh token ∧ Spendable row := by
  apply hhonest.spendable
  refine Nat.lt_of_lt_of_le (List.countP_pos_iff.mpr
    ⟨call, List.mem_of_getElem? hcall, ?_⟩) countP_le_copies
  rw [spends, hexchange]
  exact beq_self_eq_true _

/-- The server answers a refresh. -/
theorem honest_refresh {token : String} {draw : AuthDraw}
    {server : AuthSystem.State} {answer : Except Failure TokenPair}
    (hhonest : Honest cfg s) (hcall : s.calls[i]? = some call)
    (hexchange : call.exchange = .refresh token none)
    (hstep : AuthSystem.step cfg s.server (.refresh token draw) = some server)
    (hpresented : Presented cfg s.server token answer server.db.refreshTokens) :
    Honest cfg { s with
      server := server
      calls := settle s.calls i
        (answered call (.refresh token (some answer))) } := by
  obtain ⟨row, hrow, hhash, hspendable⟩ := hhonest.presented_row hcall hexchange
  have hsound := sound_step hhonest.sound hstep
  have hspends : ∀ hash, spends cfg hash call = (cfg.hashRefresh token == hash) :=
    fun hash => by rw [spends, hexchange]
  have habandoned := @abandoned_answered s call i
    (.refresh token (some answer)) hhonest.abandoned server
  cases answer with
  | error cause =>
      have hcopies : ∀ hash, copies cfg s.store (settle s.calls i
          (answered call (.refresh token (some (.error cause))))) hash ≤
            copies cfg s.store s.calls hash :=
        fun hash => copies_refused hcall hexchange
          fun hash => any_answered fun _ _ => rfl
      refine ⟨hsound, fun hash => (hcopies hash).trans (hhonest.once hash),
        fun hash hpositive => ?_, habandoned⟩
      by_cases hsame : hash = cfg.hashRefresh token
      · rw [hsame]
        exact spendable_of_presented hhonest.sound hrow hhash hspendable
          hpresented
      · obtain ⟨other, hother, hother'Hash, hother'Spendable⟩ :=
          hhonest.spendable hash (hpositive.trans_le (hcopies hash))
        refine ⟨other, ?_, hother'Hash, hother'Spendable⟩
        exact mem_of_presented hhonest.sound hrow hhash hspendable hpresented
          hother (hother'Hash ▸ hsame)
  | ok pair =>
      obtain ⟨hissued, hfresh⟩ := fresh_of_rotated hpresented
      have hcarried : ∀ stored, s.store.refreshToken = some stored →
          carries call.exchange = some stored → Carried (settle s.calls i
            (answered call (.refresh token (some (.ok pair))))) stored := by
        intro stored hstored hcarries
        cases htab : call.tab with
        | none =>
            exact absurd hstored (hhonest.abandoned.unstored call
              (List.mem_of_getElem? hcall) htab stored hcarries)
        | some tab =>
            rw [hexchange] at hcarries
            obtain rfl := Option.some.inj hcarries
            refine ⟨⟨some tab, .refresh token (some (.ok pair))⟩, ?_, rfl⟩
            apply mem_settle_next hcall
            rw [answered, htab]
            rfl
      have hcount := fun hash => @copies_replace cfg s.calls call i s.store hash
        (answered call (.refresh token (some (.ok pair)))) hcall hcarried
      have hother : ∀ hash, cfg.hashRefresh pair.refreshToken ≠ hash →
          (answered call (.refresh token (some (.ok pair)))).any
            (spends cfg hash) = false := by
        intro hash hne
        rw [Bool.eq_false_iff]
        exact fun hany => hne (any_answered_le (fun _ => rfl) hany)
      refine hhonest.of_issued hsound (fun hash hne => ?_) ?_ hfresh hissued
        (fun hash hpositive other hmem hother'Hash => ?_) habandoned
      · have hbound := hcount hash
        rw [hother hash hne, if_neg Bool.false_ne_true] at hbound
        omega
      · have hbound := hcount (cfg.hashRefresh pair.refreshToken)
        split_ifs at hbound <;> omega
      · apply mem_of_presented hhonest.sound hrow hhash hspendable hpresented hmem
        -- the presented token is spent, so no copy of it is left
        intro hsame
        have hbound := hcount hash
        have honce := hhonest.once hash
        rw [hspends, ← hother'Hash, hsame, beq_self_eq_true, if_pos rfl,
          hother _ fun heq => hfresh row hrow (hhash.trans heq.symm),
          if_neg Bool.false_ne_true, ← hsame, hother'Hash] at hbound
        omega

/-- The server answers a login. -/
theorem honest_signedIn {email password : String} {draw : AuthDraw}
    {server : AuthSystem.State} {answer : Except Failure TokenPair}
    (hhonest : Honest cfg s) (hcall : s.calls[i]? = some call)
    (hexchange : call.exchange = .login email password none)
    (hstep : AuthSystem.step cfg s.server (.adminLogin email password draw) =
      some server)
    (hsigned : SignedIn cfg s.server answer server.db.refreshTokens) :
    Honest cfg { s with
      server := server
      calls := settle s.calls i
        (answered call (.login email password (some answer))) } := by
  have hsound := sound_step hhonest.sound hstep
  have habandoned := @abandoned_answered s call i
    (.login email password (some answer)) hhonest.abandoned server
  have hcount := fun hash => @copies_replace cfg s.calls call i s.store hash
    (answered call (.login email password (some answer))) hcall
    (fun stored _ hcarries => by rw [hexchange] at hcarries; cases hcarries)
  have hspends : ∀ hash, spends cfg hash call = false :=
    fun hash => by rw [spends, hexchange]
  have hkept : ∀ row ∈ s.server.db.refreshTokens,
      row ∈ server.db.refreshTokens := fun row => mem_of_signedIn hsigned
  cases answer with
  | error cause =>
      have hcopies : ∀ hash, copies cfg s.store (settle s.calls i
          (answered call (.login email password (some (.error cause))))) hash ≤
            copies cfg s.store s.calls hash := by
        intro hash
        have hbound := hcount hash
        rwa [hspends, any_answered fun _ _ => rfl,
          if_neg Bool.false_ne_true] at hbound
      refine ⟨hsound, fun hash => (hcopies hash).trans (hhonest.once hash),
        fun hash hpositive => ?_, habandoned⟩
      obtain ⟨row, hrow, hrest⟩ :=
        hhonest.spendable hash (hpositive.trans_le (hcopies hash))
      exact ⟨row, hkept row hrow, hrest⟩
  | ok pair =>
      obtain ⟨hissued, hfresh⟩ := fresh_of_signedIn hsigned
      refine hhonest.of_issued hsound (fun hash hne => ?_) ?_ hfresh hissued
        (fun _ _ row hrow _ => hkept row hrow) habandoned
      · have hbound := hcount hash
        rwa [hspends, Bool.eq_false_iff.mpr fun hany =>
          hne (any_answered_le (fun _ => rfl) hany),
          if_neg Bool.false_ne_true] at hbound
      · have hbound := hcount (cfg.hashRefresh pair.refreshToken)
        split_ifs at hbound <;> omega

theorem honest_serve {status : ℕ} {draw : AuthDraw} (hhonest : Honest cfg s)
    (hstep : step cfg s (.serve i status draw) = some s') : Honest cfg s' := by
  simp only [step, Option.bind_eq_bind, Option.bind_eq_some_iff,
    Option.pure_def, Option.some.injEq, Prod.exists] at hstep
  obtain ⟨call, hcall, server, exchange, hserve, rfl⟩ := hstep
  simp only [serveExchange] at hserve
  split at hserve
  · next token retried hexchange =>
    cases hserve
    have hcopies : ∀ hash, copies cfg s.store (settle s.calls i
        (answered call (.api token retried (some status)))) hash ≤
          copies cfg s.store s.calls hash := by
      intro hash
      have hbound := @copies_replace cfg s.calls call i s.store hash
        (answered call (.api token retried (some status))) hcall
        (fun stored _ hcarries => by rw [hexchange] at hcarries; cases hcarries)
      rwa [spends, hexchange, any_answered fun _ _ => rfl,
        if_neg Bool.false_ne_true] at hbound
    exact hhonest.of_shrinks ⟨rfl, hcopies, fun h => abandoned_answered h⟩
  · next token hexchange =>
    obtain ⟨after, hstep, heq⟩ := Option.map_eq_some_iff.mp hserve
    obtain ⟨answer, hanswer, hpresented⟩ := presented_of_refresh hstep
    rw [hanswer] at heq
    cases heq
    exact honest_refresh hhonest hcall hexchange hstep hpresented
  · next email password hexchange =>
    obtain ⟨after, hstep, heq⟩ := Option.map_eq_some_iff.mp hserve
    obtain ⟨answer, hanswer, hsigned⟩ := signedIn_of_adminLogin hstep
    rw [hanswer] at heq
    cases heq
    exact honest_signedIn hhonest hcall hexchange hstep hsigned
  · cases hserve

/-! ## Other clients -/

/-- A request that presents no token of the family leaves its rows. -/
theorem mem_of_foreign {act : AuthSystem.Action} {server after : AuthSystem.State}
    {row : RefreshToken} (hsound : Sound server.db.refreshTokens)
    (hstep : AuthSystem.step cfg server act = some after)
    (hrow : row ∈ server.db.refreshTokens)
    (hforeign : ∀ familyId ∈ presentedFamily cfg server.db act,
      row.familyId ≠ familyId) : row ∈ after.db.refreshTokens := by
  have hchange := TokenFamilies.step_requestChange hstep
  generalize after.db.refreshTokens = tokens at hchange
  have hother : ∀ {rawToken found},
      findToken cfg rawToken server.db = some found →
        row.familyId ≠ found.familyId → (row.id == found.id) = false := by
    intro rawToken found hfound hne
    rw [beq_eq_false_iff_ne]
    intro hid
    exact hne (congrArg RefreshToken.familyId (hsound.families.eq_of_id hrow
      (List.mem_of_find?_eq_some hfound) hid))
  cases hchange with
  | same => exact hrow
  | started _ hstarts =>
      obtain ⟨next, rfl, -⟩ := hstarts
      exact List.mem_append_left _ hrow
  | refreshed hact hrefreshed =>
      subst hact
      cases hrefreshed with
      | invalid _ => exact hrow
      | reuse hfound _ =>
          have hne := hforeign _ (by rw [presentedFamily, hfound]; rfl)
          apply mem_updateWhere_of_not hrow
          simp [AuthService.isLiveIn, hne]
      | expired hfound _ =>
          have hne := hforeign _ (by rw [presentedFamily, hfound]; rfl)
          exact mem_updateWhere_of_not hrow (hother hfound hne)
      | rotated hfound _ _ _ _ _ _ =>
          have hne := hforeign _ (by rw [presentedFamily, hfound]; rfl)
          exact List.mem_append_left _
            (mem_updateWhere_of_not hrow (hother hfound hne))
  | loggedOut hact hlogout =>
      subst hact
      cases hlogout with
      | unknown _ => exact hrow
      | revoked hfound =>
          have hne := hforeign _ (by rw [presentedFamily, hfound]; rfl)
          apply mem_updateWhere_of_not hrow
          simp [AuthService.isLiveIn, hne]

/-- A token that may still be presented is in the browser. -/
theorem exists_held (hpositive : 0 < copies cfg s.store s.calls hash) :
    ∃ token ∈ held s, cfg.hashRefresh token = hash := by
  by_cases hfree : isFree cfg s.store s.calls hash = true
  · obtain ⟨token, hstored, hhash, -⟩ := isFree_iff.mp hfree
    refine ⟨token, List.mem_append_left _ ?_, hhash⟩
    simp [hstored]
  · rw [copies, if_neg hfree, Nat.add_zero, List.countP_pos_iff] at hpositive
    obtain ⟨call, hcall, hspends⟩ := hpositive
    have hheld : ∃ token ∈ call.exchange.held, cfg.hashRefresh token = hash := by
      revert hspends
      simp only [spends, Exchange.held]
      rcases call.exchange with _ | ⟨token, _ | (_ | _)⟩ | ⟨_, _, _ | (_ | _)⟩ <;>
        simp +contextual
    obtain ⟨token, htoken, hhash⟩ := hheld
    refine ⟨token, List.mem_append_right _ ?_, hhash⟩
    exact List.mem_flatMap.mpr ⟨call, hcall, htoken⟩

theorem honest_other {act : AuthSystem.Action} (hhonest : Honest cfg s)
    (hstep : step cfg s (.other act) = some s') : Honest cfg s' := by
  simp only [step] at hstep
  split_ifs at hstep with hforeign
  obtain ⟨server, hserver, rfl⟩ := Option.map_eq_some_iff.mp hstep
  refine ⟨sound_step hhonest.sound hserver, hhonest.once, ?_,
    hhonest.abandoned.unanswered, hhonest.abandoned.unstored⟩
  intro hash hpositive
  obtain ⟨row, hrow, hhash, hspendable⟩ := hhonest.spendable hash hpositive
  refine ⟨row, mem_of_foreign hhonest.sound hserver hrow ?_, hhash, hspendable⟩
  intro familyId hfamily
  obtain ⟨token, htoken, heq⟩ := exists_held hpositive
  have hfound := @findToken_eq cfg s.server row token hhonest.sound hrow
    (hhash.trans heq.symm)
  have hall := (Option.all_eq_true _ _).mp hforeign familyId hfamily
  have hne := List.all_eq_true.mp hall token htoken
  rw [hfound] at hne
  simpa using hne

theorem honest_step (hhonest : Honest cfg s) (halone : StartsAlone s act)
    (hstep : step cfg s act = some s') : Honest cfg s' := by
  cases act with
  | openTab =>
      cases hstep
      exact hhonest.of_shrinks ⟨rfl, fun _ => Nat.le_refl _,
        fun h => ⟨h.unanswered, h.unstored⟩⟩
  | request tab =>
      simp only [step] at hstep
      split_ifs at hstep
      cases hstep
      exact hhonest.of_shrinks (shrinks_send idle_api)
  | replay tab =>
      simp only [step] at hstep
      split_ifs at hstep
      cases hstep
      exact hhonest.of_shrinks (shrinks_setTab.trans (shrinks_send idle_api))
  | login tab email password =>
      simp only [step] at hstep
      split_ifs at hstep
      cases hstep
      exact hhonest.of_shrinks (shrinks_send idle_login)
  | signOut =>
      cases hstep
      exact hhonest.of_shrinks shrinks_clear
  | serve i status draw => exact honest_serve hhonest hstep
  | deliver i leaves => exact honest_deliver hhonest halone hstep
  | other act => exact honest_other hhonest hstep

/-! ## One refresh for each tab -/

/-- A refresh promise allows one refresh. -/
def promises (tab : ℕ) (s : State) : ℕ :=
  if s.tabs[tab]?.any Tab.refreshing then 1 else 0

structure SingleFlight (s : State) : Prop where
  bounded : ∀ tab, inFlight tab s ≤ promises tab s
  valid : ∀ call ∈ s.calls, ∀ tab ∈ call.tab, tab < s.tabs.length

theorem promises_setTab {change : Tab → Tab} {other : ℕ}
    (hkeep : other = tab → ∀ page, (change page).refreshing = page.refreshing) :
    promises other (setTab s tab change) = promises other s := by
  unfold promises setTab
  rw [List.getElem?_modify]
  cases s.tabs[other]? with
  | none => rfl
  | some page =>
      by_cases hsame : tab = other
      · simp [hsame, hkeep hsame.symm page]
      · simp [hsame]

theorem SingleFlight.setTab {change : Tab → Tab} (hsingle : SingleFlight s)
    (hkeep : ∀ page, (change page).refreshing = page.refreshing) :
    SingleFlight (setTab s tab change) where
  bounded := by
    intro other
    rw [promises_setTab fun _ => hkeep]
    exact hsingle.bounded other
  valid := by
    intro call hcall other hother
    rw [Dashboard.setTab, List.length_modify]
    exact hsingle.valid call hcall other hother

/-- A request that is no refresh. -/
theorem SingleFlight.send {exchange : Exchange} (hsingle : SingleFlight s)
    (htab : tab < s.tabs.length)
    (hother : ∀ other, isRefreshOf other ⟨some tab, exchange⟩ = false) :
    SingleFlight (send s tab exchange) where
  bounded := by
    intro other
    have hbound := hsingle.bounded other
    rw [inFlight, Dashboard.send]
    rw [List.countP_append, List.countP_singleton, hother other]
    exact hbound
  valid := by
    intro call hcall other hmem
    rcases List.mem_append.mp hcall with hcall | hcall
    · exact hsingle.valid call hcall other hmem
    · rw [List.mem_singleton.mp hcall] at hmem
      exact Option.some.inj hmem ▸ htab

theorem SingleFlight.remove (hsingle : SingleFlight s) :
    SingleFlight { s with calls := settle s.calls i none } where
  bounded := fun tab => ((List.eraseIdx_sublist s.calls i).countP_le).trans
    (hsingle.bounded tab)
  valid := fun call hcall => hsingle.valid call (List.mem_of_mem_eraseIdx hcall)

theorem isRefreshOf_abandon {other : ℕ} {call' : Call}
    (habandon : abandon tab call = some call')
    (hrefresh : isRefreshOf other call' = true) :
    other ≠ tab ∧ isRefreshOf other call = true := by
  rw [abandon] at habandon
  split_ifs at habandon with htab
  · obtain rfl := Option.some.inj habandon
    simp [isRefreshOf] at hrefresh
  · obtain rfl := Option.some.inj habandon
    refine ⟨?_, hrefresh⟩
    rintro rfl
    simp [isRefreshOf, htab] at hrefresh

theorem SingleFlight.toLogin {leaves : Bool} (hsingle : SingleFlight s) :
    SingleFlight (toLogin s tab leaves) := by
  rw [Dashboard.toLogin]
  cases leaves with
  | false => exact ⟨hsingle.bounded, hsingle.valid⟩
  | true =>
      refine ⟨fun other => ?_, fun call' hcall' other hother => ?_⟩
      · change List.countP _ (List.filterMap _ _) ≤
          promises other (Dashboard.setTab s tab fun _ => {})
        by_cases hsame : other = tab
        · rw [List.countP_eq_zero.mpr]
          · exact Nat.zero_le _
          · intro call' hcall' hrefresh
            obtain ⟨call, -, habandon⟩ := List.mem_filterMap.mp hcall'
            exact (isRefreshOf_abandon habandon hrefresh).1 hsame
        · rw [promises_setTab fun heq => absurd heq hsame]
          refine le_trans ?_ (hsingle.bounded other)
          rw [List.countP_filterMap]
          apply List.countP_mono_left
          intro call _ hrefresh
          cases habandon : abandon tab call with
          | none => simp [habandon] at hrefresh
          | some call' =>
              exact (isRefreshOf_abandon habandon
                (by simpa [habandon] using hrefresh)).2
      · obtain ⟨call, hcall, habandon⟩ := List.mem_filterMap.mp hcall'
        change other < (s.tabs.modify tab _).length
        rw [List.length_modify]
        apply hsingle.valid call hcall
        rw [abandon] at habandon
        split_ifs at habandon
        · rw [← Option.some.inj habandon] at hother
          cases hother
        · exact Option.some.inj habandon ▸ hother

theorem SingleFlight.refreshOnce {leaves : Bool} (hsingle : SingleFlight s)
    (htab : tab < s.tabs.length) : SingleFlight (refreshOnce s tab leaves) := by
  rw [Dashboard.refreshOnce]
  split_ifs with hrefreshing
  · exact hsingle.setTab fun _ => rfl
  · split
    · exact hsingle.toLogin
    · next token hstored =>
      constructor
      · intro other
        have hbound := hsingle.bounded other
        change List.countP _ (s.calls ++ [_]) ≤
          promises other (Dashboard.setTab s tab fun page =>
            { page with refreshing := true, waiting := 1 })
        rw [List.countP_append, List.countP_singleton]
        by_cases hsame : other = tab
        · subst hsame
          have hnone : promises other s = 0 := if_neg hrefreshing
          have hnow : promises other (Dashboard.setTab s other fun page =>
              { page with refreshing := true, waiting := 1 }) = 1 := by
            simp [promises, Dashboard.setTab, htab]
          rw [hnone] at hbound
          rw [hnow]
          rw [inFlight] at hbound
          split_ifs <;> omega
        · rw [promises_setTab fun heq => absurd heq hsame]
          have hnot : isRefreshOf other ⟨some tab, .refresh token none⟩ = false := by
            simpa [isRefreshOf] using Ne.symm hsame
          rw [hnot]
          exact hbound
      · intro call hcall other hother
        change other < (s.tabs.modify tab _).length
        rw [List.length_modify]
        rcases List.mem_append.mp hcall with hcall | hcall
        · exact hsingle.valid call hcall other hother
        · rw [List.mem_singleton.mp hcall] at hother
          exact Option.some.inj hother ▸ htab

/-- The answered refresh of a tab was its only one. -/
theorem SingleFlight.refreshed {page : Tab → Tab} (hsingle : SingleFlight s)
    (hcall : s.calls[i]? = some call) (hrefresh : isRefreshOf tab call = true) :
    SingleFlight (Dashboard.setTab { s with calls := settle s.calls i none } tab
      page) where
  bounded := by
    intro other
    have hbound := hsingle.bounded other
    by_cases hsame : other = tab
    · subst hsame
      have hcount := @countP_settle _ s.calls i call none (isRefreshOf other) hcall
      rw [hrefresh, if_pos rfl, Option.any_none, if_neg Bool.false_ne_true]
        at hcount
      have hone : promises other s ≤ 1 := by
        rw [promises]
        split_ifs <;> omega
      change (settle s.calls i none).countP (isRefreshOf other) ≤ _
      rw [inFlight] at hbound
      omega
    · rw [promises_setTab fun heq => absurd heq hsame]
      exact ((List.eraseIdx_sublist s.calls i).countP_le).trans hbound
  valid := by
    intro other hother k hk
    change k < (s.tabs.modify tab page).length
    rw [List.length_modify]
    exact hsingle.valid other (List.mem_of_mem_eraseIdx hother) k hk

theorem singleFlight_deliver {leaves : Bool} (hsingle : SingleFlight s)
    (hstep : step cfg s (.deliver i leaves) = some s') : SingleFlight s' := by
  simp only [step, Option.bind_eq_bind, Option.bind_eq_some_iff] at hstep
  obtain ⟨call, hcall, tab, htab, hresponse⟩ := hstep
  have hremoved := @SingleFlight.remove s i hsingle
  have hvalid : tab < s.tabs.length :=
    hsingle.valid call (List.mem_of_getElem? hcall) tab htab
  simp only [onResponse] at hresponse
  split at hresponse
  · obtain rfl := Option.some.inj hresponse
    rw [onApiStatus]
    split_ifs
    · exact hremoved.toLogin
    · exact hremoved.toLogin
    · exact hremoved.refreshOnce hvalid
    · exact hremoved
  · next token answer hexchange =>
    obtain rfl := Option.some.inj hresponse
    have hrefresh : isRefreshOf tab call = true := by
      simp [isRefreshOf, htab, hexchange]
    cases answer with
    | ok pair =>
        have hnext := @SingleFlight.refreshed s call i tab (fun page =>
          { refreshing := false, waiting := 0,
            replays := page.replays + page.waiting }) hsingle hcall hrefresh
        exact ⟨hnext.bounded, hnext.valid⟩
    | error cause =>
        apply SingleFlight.toLogin
        exact hsingle.refreshed hcall hrefresh
  · next email password answer _ =>
    obtain rfl := Option.some.inj hresponse
    cases answer with
    | ok pair => exact ⟨hremoved.bounded, hremoved.valid⟩
    | error cause =>
        simp only [onLogin]
        split_ifs
        · exact hremoved.toLogin
        · exact hremoved
  · cases hresponse

theorem singleFlight_serve {status : ℕ} {draw : AuthDraw}
    (hsingle : SingleFlight s)
    (hstep : step cfg s (.serve i status draw) = some s') : SingleFlight s' := by
  simp only [step, Option.bind_eq_bind, Option.bind_eq_some_iff,
    Option.pure_def, Option.some.injEq, Prod.exists] at hstep
  obtain ⟨call, hcall, server, exchange, hserve, rfl⟩ := hstep
  have hkind : ∀ tab, isRefreshOf tab { call with exchange := exchange } =
      isRefreshOf tab call := by
    intro tab
    simp only [serveExchange] at hserve
    split at hserve
    · next hexchange =>
      cases hserve
      rw [isRefreshOf, isRefreshOf, hexchange]
    · next hexchange =>
      obtain ⟨_, -, heq⟩ := Option.map_eq_some_iff.mp hserve
      cases heq
      rw [isRefreshOf, isRefreshOf, hexchange]
    · next hexchange =>
      obtain ⟨_, -, heq⟩ := Option.map_eq_some_iff.mp hserve
      cases heq
      rw [isRefreshOf, isRefreshOf, hexchange]
    · cases hserve
  constructor
  · intro tab
    have hcount := @countP_settle _ s.calls i call (answered call exchange)
      (isRefreshOf tab) hcall
    have hbound := hsingle.bounded tab
    have hany : (answered call exchange).any (isRefreshOf tab) =
        isRefreshOf tab call := by
      rw [answered]
      split_ifs with hsome
      · exact hkind tab
      · rw [Option.not_isSome_iff_eq_none] at hsome
        simp [isRefreshOf, hsome]
    rw [hany] at hcount
    change (settle s.calls i (answered call exchange)).countP _ ≤ promises tab s
    rw [inFlight] at hbound
    omega
  · intro other hother tab htab
    rcases mem_settle hother with hold | hnew
    · exact hsingle.valid other hold tab htab
    · rw [answered] at hnew
      split_ifs at hnew
      rw [← Option.some.inj hnew] at htab
      exact hsingle.valid call (List.mem_of_getElem? hcall) tab htab

theorem singleFlight_step (hsingle : SingleFlight s)
    (hstep : step cfg s act = some s') : SingleFlight s' := by
  cases act with
  | openTab =>
      cases hstep
      refine ⟨fun tab => ?_, fun call hcall tab htab => ?_⟩
      · refine (hsingle.bounded tab).trans ?_
        simp only [promises]
        rcases Nat.lt_trichotomy tab s.tabs.length with hlt | rfl | hgt
        · simp [List.getElem?_append_left hlt]
        · simp
        · simp [List.getElem?_eq_none hgt.le]
      · rw [List.length_append]
        exact Nat.lt_add_right _ (hsingle.valid call hcall tab htab)
  | request tab =>
      simp only [step] at hstep
      split_ifs at hstep with htab
      cases hstep
      exact hsingle.send htab fun _ => by simp [isRefreshOf]
  | replay tab =>
      simp only [step] at hstep
      split_ifs at hstep with hreplay
      cases hstep
      have htab : tab < s.tabs.length := by
        by_contra hout
        simp [List.getElem?_eq_none (Nat.not_lt.mp hout)] at hreplay
      have hset : SingleFlight (Dashboard.setTab s tab fun page =>
          { page with replays := page.replays - 1 }) :=
        hsingle.setTab fun _ => rfl
      apply hset.send
      · change tab < (s.tabs.modify tab _).length
        rwa [List.length_modify]
      · exact fun _ => by simp [isRefreshOf]
  | login tab email password =>
      simp only [step] at hstep
      split_ifs at hstep with htab
      cases hstep
      exact hsingle.send htab fun _ => by simp [isRefreshOf]
  | signOut =>
      cases hstep
      exact ⟨hsingle.bounded, hsingle.valid⟩
  | serve i status draw => exact singleFlight_serve hsingle hstep
  | deliver i leaves => exact singleFlight_deliver hsingle hstep
  | other act =>
      simp only [step] at hstep
      split_ifs at hstep
      obtain ⟨server, -, rfl⟩ := Option.map_eq_some_iff.mp hstep
      exact ⟨hsingle.bounded, hsingle.valid⟩

/-! ## Every run -/

theorem honest_initial (hinit : IsInitial s) : Honest cfg s where
  sound := sound_initial hinit.server
  once := by
    intro hash
    rw [hinit.store, hinit.calls]
    exact Nat.zero_le _
  spendable := by
    intro hash hpositive
    rw [hinit.store, hinit.calls] at hpositive
    cases hpositive
  abandoned := by
    constructor <;> simp [hinit.calls]

theorem singleFlight_initial (hinit : IsInitial s) : SingleFlight s := by
  constructor
  · intro tab
    rw [inFlight, hinit.calls]
    exact Nat.zero_le _
  · simp [hinit.calls]

theorem notReplayed_of_honest {token : String} {draw : AuthDraw}
    (hhonest : Honest cfg s) (hpresents : presents s act = some (token, draw)) :
    NotReplayed cfg s.server token draw := by
  simp only [presents] at hpresents
  split at hpresents
  · next i status _ =>
    simp only [Option.bind_eq_bind, Option.bind_eq_some_iff] at hpresents
    obtain ⟨call, hcall, hpresents⟩ := hpresents
    split at hpresents
    · next hexchange =>
      cases hpresents
      obtain ⟨row, hrow, hhash, hspendable⟩ :=
        hhonest.presented_row hcall hexchange
      refine ⟨?_, fun after hstep other hother hreason => ?_⟩
      · rw [findToken_eq hhonest.sound hrow hhash]
        intro found hfound hrotated
        obtain rfl := Option.mem_some_iff.mp hfound
        cases hspendable with
        | live _ hnone => simp [hnone] at hrotated
        | expired _ hexpired => simp [hexpired] at hrotated
      · obtain ⟨answer, -, hpresented⟩ := presented_of_refresh hstep
        exact reason_of_presented hhonest.sound hrow hhash hspendable hpresented
          hother hreason
    · cases hpresents
  · cases hpresents

/-- Within each tab at most one refresh is ever in flight.  In a run in which
no tab starts a refresh with a token that another refresh carries, no token is
presented after it was rotated, and no family is revoked for reuse. -/
theorem honest_dashboard (hinit : IsInitial start)
    (hrun : Run (dashboard cfg) start trace last) :
    Always (fun s => ∀ tab, inFlight tab s ≤ 1) trace last ∧
      ((∀ entry ∈ trace, StartsAlone entry.1 entry.2) →
        ∀ entry ∈ trace, ∀ token draw,
          presents entry.1 entry.2 = some (token, draw) →
            NotReplayed cfg entry.1.server token draw) := by
  constructor
  · have hsingle := @Run.always _ _ _ _ _ _ SingleFlight hrun
      (singleFlight_initial hinit)
      fun state act next hinv hstep => singleFlight_step hinv hstep
    have hone : ∀ s, SingleFlight s → ∀ tab, inFlight tab s ≤ 1 := by
      intro s hsingle tab
      refine (hsingle.bounded tab).trans ?_
      rw [promises]
      split_ifs <;> omega
    exact ⟨fun entry hentry => hone _ (hsingle.1 entry hentry),
      hone _ hsingle.2⟩
  · intro halone entry hentry token draw hpresents
    have hhonest := (@Run.always_of_guard _ _ _ _ _ _ (Honest cfg) StartsAlone
      hrun (honest_initial hinit) (fun state act next hinv hguard hstep =>
        honest_step hinv hguard hstep) halone).1 entry hentry
    exact notReplayed_of_honest hhonest hpresents

/-! ## Two runs -/

section Runs

open VpnMiddleware.TokenFamilies

theorem presents_serve {status : ℕ} {draw : AuthDraw} {token : String}
    (hpresents : (presents s (.serve i status draw)).map Prod.fst = some token) :
    presents s (.serve i status draw) = some (token, draw) := by
  obtain ⟨⟨_, other⟩, hsome, rfl⟩ := Option.map_eq_some_iff.mp hpresents
  rw [hsome]
  simp only [presents, Option.bind_eq_bind, Option.bind_eq_some_iff] at hsome
  obtain ⟨call, -, hsome⟩ := hsome
  split at hsome
  · cases hsome
    rfl
  · cases hsome

/-- The server of one administrator, and an empty browser. -/
def deployment : State where
  server := { db := Lockout.adminDeployment.db }

theorem isInitial_deployment : IsInitial deployment := ⟨rfl, rfl, rfl, rfl⟩

/-- Two tabs, and a login in the first one; the access token expires. -/
def signedIn : List Action :=
  [.openTab, .openTab, .login 0 "root@vpn.example" "right",
    .serve 0 200 (nthDraw 1), .deliver 0 false, .other (.advance 900000)]

/-- The first tab refreshes, and then the second one. -/
def oneAfterTheOther : List Action :=
  signedIn ++
    [.request 0, .serve 0 401 (nthDraw 2), .deliver 0 false,
      .serve 0 200 (nthDraw 2), .deliver 0 false, .replay 0, .request 1,
      .serve 1 401 (nthDraw 3), .deliver 1 false]

theorem honest_dashboard_in_turn : ∃ trace s last,
    Run (dashboard plainConfig) deployment
      (trace ++ [(s, .serve 1 200 (nthDraw 3))]) last ∧
    (∀ entry ∈ trace ++ [(s, .serve 1 200 (nthDraw 3))],
      StartsAlone entry.1 entry.2) ∧
    presents s (.serve 1 200 (nthDraw 3)) =
      some (newRefreshRaw (nthDraw 2), nthDraw 3) ∧
    NotReplayed plainConfig s.server (newRefreshRaw (nthDraw 2)) (nthDraw 3) := by
  obtain ⟨s, last, hrun, -, hpresents⟩ :=
    @exists_run_of_execute _ _ (dashboard plainConfig) deployment
      oneAfterTheOther (.serve 1 200 (nthDraw 3)) (fun s _ =>
        (presents s (.serve 1 200 (nthDraw 3))).map Prod.fst =
          some (newRefreshRaw (nthDraw 2))) _ (by decide +kernel)
  have hbefore : ∀ entry ∈ traceOf (dashboard plainConfig) deployment
      oneAfterTheOther, StartsAlone entry.1 entry.2 := by decide +kernel
  have halone : ∀ entry ∈ traceOf (dashboard plainConfig) deployment
      oneAfterTheOther ++ [(s, .serve 1 200 (nthDraw 3))],
      StartsAlone entry.1 entry.2 := by
    intro entry hentry
    rcases List.mem_append.mp hentry with hold | hlast
    · exact hbefore entry hold
    · rw [List.mem_singleton.mp hlast]
      exact fun token htoken => by cases htoken
  have hdraw := presents_serve hpresents
  refine ⟨_, s, last, hrun, halone, hdraw, ?_⟩
  exact (honest_dashboard isInitial_deployment hrun).2 halone
    (s, .serve 1 200 (nthDraw 3)) (by simp) _ _ hdraw

/-- Both tabs refresh with the token of the login. -/
def bothAtOnce : List Action :=
  signedIn ++
    [.request 0, .request 1, .serve 0 401 (nthDraw 2), .serve 1 401 (nthDraw 2),
      .deliver 0 false, .deliver 0 false, .serve 0 200 (nthDraw 2)]

/-- The second refresh presents the rotated token; the family of the honest
administrator is revoked for reuse. -/
theorem two_tabs_replay : IsInitial deployment ∧ ∃ trace s last,
    Run (dashboard plainConfig) deployment
      (trace ++ [(s, .serve 1 200 (nthDraw 3))]) last ∧
    presents s (.serve 1 200 (nthDraw 3)) =
      some (newRefreshRaw (nthDraw 1), nthDraw 3) ∧
    ¬ NotReplayed plainConfig s.server (newRefreshRaw (nthDraw 1)) (nthDraw 3) ∧
    (∃ row ∈ last.server.db.refreshTokens, row.id = 2 ∧
      row.revokeReason = some "reuse_detected") := by
  obtain ⟨s, last, hrun, -, hpresents, ⟨row, hrow, hrotated⟩, hrevoked⟩ :=
    @exists_run_of_execute _ _ (dashboard plainConfig) deployment
      bothAtOnce (.serve 1 200 (nthDraw 3)) (fun s last =>
        (presents s (.serve 1 200 (nthDraw 3))).map Prod.fst =
          some (newRefreshRaw (nthDraw 1)) ∧
        (∃ row ∈ findToken plainConfig (newRefreshRaw (nthDraw 1)) s.server.db,
          row.revokeReason = some "rotated") ∧
        ∃ row ∈ last.server.db.refreshTokens, row.id = 2 ∧
          row.revokeReason = some "reuse_detected") _ (by decide +kernel)
  exact ⟨isInitial_deployment, _, s, last, hrun, presents_serve hpresents,
    fun hnot => hnot.not_rotated row hrow hrotated, hrevoked⟩

end Runs

end VpnMiddleware.HonestRefresh
