import VpnMiddleware.Client.AuthInterceptor

/-!
# When the app drops its tokens

The catch block around the refresh clears the store whatever went wrong: a
refresh that fails in transit and a failed replay drop the tokens just as a
rejected refresh token does.
-/

namespace VpnMiddleware.TokenRetention

open VpnMiddleware.JsonText VpnMiddleware.ConnectionModels
open VpnMiddleware.ApiClient VpnMiddleware.AuthInterceptor
open VpnMiddleware.TransitionSystem

/-! ## The two conditions -/

/-- The refresh endpoint's answer to a token that is unknown, expired or
reused. -/
def rejectsToken : Reply → Bool
  | .ok _ => false
  | .error e => e.type == .badResponse && e.statusCode == some 401

/-- A step drops a token that was stored. -/
def Drops (before after : Interceptor) : Prop :=
  (before.store.access ≠ none ∧ after.store.access = none) ∨
    (before.store.refresh ≠ none ∧ after.store.refresh = none)

/-- Tokens are dropped only at a refresh that the server rejects. -/
def DropsOnRejection (s : Interceptor) (event : Event) : Prop :=
  ∀ next, AuthInterceptor.step s event = some next → Drops s next →
    ∃ reply, event = .refreshed reply ∧ rejectsToken reply = true

/-- The answers that leave the catch block alone, and a rejected refresh. -/
def isBenign : Event → Bool
  | .failed _ _ => true
  | .refreshed (.error e) => rejectsToken (.error e)
  | .refreshed (.ok (.obj members)) => (tokenPair (.obj members)).toBool
  | .refreshed (.ok _) => true
  | .replayed (.ok _) => true
  | .replayed (.error _) => false

section Steps

variable {s next : Interceptor} {event : Event}

/-- A call is awaited only while a refresh token is stored. -/
def Refreshable (s : Interceptor) : Prop :=
  s.awaiting ≠ none → s.store.refresh ≠ none

theorem not_drops_of_store_eq (hstore : next.store = s.store) : ¬ Drops s next := by
  rintro (⟨hsome, hnone⟩ | ⟨hsome, hnone⟩)
  · exact hsome (hstore ▸ hnone)
  · exact hsome (hstore ▸ hnone)

theorem drops_giveUp (hrefresh : s.store.refresh ≠ none) : Drops s (giveUp s) :=
  Or.inr ⟨hrefresh, rfl⟩

theorem onError_store (status : Option ℕ) (path : String) :
    (onError s status path).store = s.store := by
  rw [onError]
  split
  · rfl
  · split <;> rfl

/-- What the answer to a refresh does to the store. -/
theorem afterRefresh_cases (path : String) (reply : Reply) :
    (isBenign (.refreshed reply) = true ∧
      ((afterRefresh s path reply).store = s.store ∧
        (afterRefresh s path reply).awaiting = none ∨
      ∃ access refresh,
        (afterRefresh s path reply).store = setTokens access refresh)) ∨
    (isBenign (.refreshed reply) = rejectsToken reply ∧
      afterRefresh s path reply = giveUp s) := by
  cases reply with
  | error e => exact .inr ⟨rfl, rfl⟩
  | ok data =>
      cases data with
      | obj members =>
          cases hpair : tokenPair (.obj members) with
          | error error =>
              right
              refine ⟨?_, ?_⟩
              · simp [isBenign, rejectsToken, hpair, Except.toBool]
              · simp [afterRefresh, hpair]
          | ok pair =>
              obtain ⟨access, refresh⟩ := pair
              left
              refine ⟨?_, .inr ⟨access, refresh, ?_⟩⟩
              · simp [isBenign, hpair, Except.toBool]
              · simp [afterRefresh, hpair]
      | _ => exact .inl ⟨rfl, .inl ⟨rfl, rfl⟩⟩

theorem refreshable_step (hinv : Refreshable s)
    (hstep : AuthInterceptor.step s event = some next) : Refreshable next := by
  cases event with
  | failed status path =>
      obtain rfl : onError s status path = next := by
        simpa [AuthInterceptor.step] using hstep
      rw [onError]
      split
      · exact hinv
      · cases hrefresh : s.store.refresh with
        | none => exact fun hsome => absurd rfl hsome
        | some presented => exact fun _ => by simp [hrefresh]
  | refreshed reply =>
      rw [AuthInterceptor.step] at hstep
      split at hstep
      · obtain rfl := Option.some.inj hstep
        rename_i path _ _
        rcases @afterRefresh_cases s path reply with ⟨-, hsame | hset⟩ | ⟨-, hgive⟩
        · exact fun hsome => absurd hsame.2 hsome
        · obtain ⟨access, refresh, hset⟩ := hset
          intro _
          rw [hset]
          simp [setTokens]
        · rw [hgive]
          exact fun hsome => absurd rfl hsome
      · cases hstep
  | replayed reply =>
      rw [AuthInterceptor.step] at hstep
      split at hstep
      · obtain rfl := Option.some.inj hstep
        cases reply <;> exact fun hsome => absurd rfl hsome
      · cases hstep

/-- A step that happens drops tokens without a rejection exactly if its answer
is not benign. -/
theorem dropsOnRejection_iff (hinv : Refreshable s)
    (hstep : AuthInterceptor.step s event = some next) :
    DropsOnRejection s event ↔ isBenign event = true := by
  rw [DropsOnRejection]
  rw [hstep]
  simp only [Option.some.injEq, forall_eq']
  cases event with
  | failed status path =>
      obtain rfl : onError s status path = next := by
        simpa [AuthInterceptor.step] using hstep
      refine iff_of_true (fun hdrops => ?_) rfl
      exact absurd hdrops (not_drops_of_store_eq (onError_store status path))
  | refreshed reply =>
      rw [AuthInterceptor.step] at hstep
      split at hstep
      · rename_i path presented hawaiting
        obtain rfl := Option.some.inj hstep
        have hrefresh : s.store.refresh ≠ none := hinv (by simp [hawaiting])
        rcases @afterRefresh_cases s path reply with
          ⟨hbenign, hsame | hset⟩ | ⟨hbenign, hgive⟩
        · refine iff_of_true (fun hdrops => ?_) hbenign
          exact absurd hdrops (not_drops_of_store_eq hsame.1)
        · obtain ⟨access, refresh, hset⟩ := hset
          refine iff_of_true (fun hdrops => ?_) hbenign
          simp [Drops, hset, setTokens] at hdrops
        · rw [hbenign, hgive]
          constructor
          · intro hlaw
            obtain ⟨other, hother, hrejects⟩ := hlaw (drops_giveUp hrefresh)
            obtain rfl : reply = other := by simpa using hother
            exact hrejects
          · intro hrejects _
            exact ⟨reply, rfl, hrejects⟩
      · cases hstep
  | replayed reply =>
      rw [AuthInterceptor.step] at hstep
      split at hstep
      · rename_i path bearer hawaiting
        obtain rfl := Option.some.inj hstep
        have hrefresh : s.store.refresh ≠ none := hinv (by simp [hawaiting])
        cases reply with
        | ok data =>
            refine iff_of_true (fun hdrops => ?_) rfl
            exact absurd hdrops (not_drops_of_store_eq rfl)
        | error e =>
            refine iff_of_false (fun hlaw => ?_) (by simp [isBenign])
            obtain ⟨reply, hreply, -⟩ := hlaw (drops_giveUp hrefresh)
            cases hreply
      · cases hstep

end Steps

/-! ## Runs -/

variable {start last : Interceptor} {trace : List (Interceptor × Event)}

/-- In a run, tokens are dropped only at a rejected refresh exactly if every
refresh succeeds, is rejected or is answered without an object, and every
replay succeeds. -/
theorem tokens_kept_iff (hstart : start.awaiting = none)
    (hrun : Run interceptor start trace last) :
    (∀ entry ∈ trace, DropsOnRejection entry.1 entry.2) ↔
      ∀ entry ∈ trace, isBenign entry.2 = true := by
  have hrefreshable : Refreshable start := fun hsome => absurd hstart hsome
  have halways := hrun.always hrefreshable
    fun state event next hinv hnext => refreshable_step hinv hnext
  have hentry : ∀ entry ∈ trace,
      DropsOnRejection entry.1 entry.2 ↔ isBenign entry.2 = true := by
    intro entry hmem
    obtain ⟨_, _, next, -, -, hnext⟩ := hrun.exists_prefix hmem
    exact dropsOnRejection_iff (halways.1 entry hmem) hnext
  exact forall₂_congr hentry

/-- Both tokens are stored. -/
def signedIn : Interceptor where
  store := setTokens "access" "refresh"

/-- A new pair. -/
def newPair : Json :=
  .obj [("accessToken", .str "newer access"), ("refreshToken", .str "newer refresh")]

/-- A call answered 401, and its successful refresh. -/
def refreshedCall : List Event :=
  [.failed (some 401) "/api/v1/connect", .refreshed (.ok newPair)]

theorem tokens_kept_iff_refreshed : ∃ trace last,
    Run interceptor signedIn trace last ∧
      ∀ entry ∈ trace, DropsOnRejection entry.1 entry.2 := by
  obtain ⟨last, hrun⟩ := @exists_run_of_isSome _ _ interceptor signedIn
    refreshedCall (by decide +kernel)
  refine ⟨_, last, hrun, (tokens_kept_iff rfl hrun).mpr ?_⟩
  have hbenign : (traceOf interceptor signedIn refreshedCall).all
      (fun entry => isBenign entry.2) = true := by decide +kernel
  exact List.all_eq_true.mp hbenign

/-- The replayed call times out: the pair that was just stored is dropped. -/
theorem replay_timeout_drops_tokens : ∃ trace mid last,
    signedIn.awaiting = none ∧
      Run interceptor signedIn (trace ++ [(mid, .replayed (.error
        { type := .receiveTimeout }))]) last ∧
      mid.store = setTokens "newer access" "newer refresh" ∧
      last.store = clearAuth ∧
      ¬ DropsOnRejection mid (.replayed (.error { type := .receiveTimeout })) := by
  obtain ⟨mid, last, hrun, hstep, hmid, hlast⟩ := @exists_run_of_execute _ _
    interceptor signedIn refreshedCall
    (.replayed (.error { type := .receiveTimeout }))
    (fun mid last => mid.store = setTokens "newer access" "newer refresh" ∧
      last.store = clearAuth) _ (by decide +kernel)
  refine ⟨_, mid, last, rfl, hrun, hmid, hlast, ?_⟩
  intro hlaw
  have hdrops : Drops mid last := by
    left
    rw [hmid, hlast]
    exact ⟨by simp [setTokens], rfl⟩
  obtain ⟨reply, hreply, -⟩ := hlaw last hstep hdrops
  cases hreply

end VpnMiddleware.TokenRetention
