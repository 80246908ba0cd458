import VpnMiddleware.Client.AdMobRewardService
import VpnMiddleware.Core.Slots

/-!
# A rewarded ad is shown for one grant

The nonce that the SDK echoes for a view is the nonce of the call that shows
the ad, and no ad is shown twice, whatever calls, callbacks, timeouts and
disposals come between.
-/

namespace VpnMiddleware.RewardBinding

open VpnMiddleware.AdMobRewardService
open VpnMiddleware.TransitionSystem VpnMiddleware.Slots

/-! ## Events -/

def Earned (trace : List (State × Action)) (a : ℕ) : Prop :=
  Earlier trace fun _ _ act => act = .onUserEarnedReward a

/-- The ad was dismissed, and it had signalled its reward before if `earned`. -/
def Dismissed (trace : List (State × Action)) (a : ℕ) (earned : Bool) : Prop :=
  Earlier trace fun before _ act => act = .onAdDismissedFullScreenContent a ∧
    (earned = true → Earned before a)

def isDisposal : State × Action → Bool
  | (_, .disposed) => true
  | _ => false

/-! ## The invariant -/

/-- The view of an ad by the call `i`. -/
def viewOf (i : ℕ) (call : ShowCall) : View :=
  ⟨i, some ⟨call.nonce, call.userId⟩⟩

/-- Why a call may return `presentation`. -/
structure Presented (trace : List (State × Action)) (ads : List RewardedAd)
    (call : ShowCall) (presentation : AdPresentation) : Prop where
  completed : presentation.completed = true
  dismissed : ∃ a ad, call.ad = some a ∧ ads[a]? = some ad ∧ ad.views ≠ [] ∧
    ad.disposed = true ∧ Dismissed trace a presentation.earnedRewardSignaled

structure Valid (trace : List (State × Action)) (ads : List RewardedAd) (i : ℕ)
    (call : ShowCall) : Prop where
  owned : ∀ a, call.ad = some a → ∃ ad, ads[a]? = some ad ∧
    ad.fullScreenContentCallback = some i ∧
    (ad.views = [] ∨ ad.views = [viewOf i call])
  preparing : ∀ n, call.stage = .preparing n → call.ad = none
  unseen : call.stage = .settingOptions → ∀ a ad, call.ad = some a →
    ads[a]? = some ad → ad.views = []
  signaled : call.earnedSignaled = true → ∃ a, call.ad = some a ∧ Earned trace a
  done : ∀ presentation, call.done = some (.ok presentation) →
    Presented trace ads call presentation
  finished : ∀ presentation, call.stage = .finished (.ok presentation) →
    Presented trace ads call presentation

/-- An ad has a callback exactly when a call took it. -/
structure Registered (shows : List ShowCall) (a : ℕ) (ad : RewardedAd) :
    Prop where
  unused : ad.fullScreenContentCallback = none → ad.views = []
  taken : ∀ i, ad.fullScreenContentCallback = some i →
    ∃ call, shows[i]? = some call ∧ call.ad = some a

structure Inv (trace : List (State × Action)) (s : State) : Prop where
  valid : ∀ i call, s.shows[i]? = some call → Valid trace s.ads i call
  registered : ∀ a ad, s.ads[a]? = some ad → Registered s.shows a ad
  kept : ∀ a, s.ad = some a → ∃ ad, s.ads[a]? = some ad ∧
    ad.fullScreenContentCallback = none
  loading : ∀ n, s.loadCompleter = some n → s.loads[n]? = some none
  pending : s.loads.countP Option.isNone ≤
    trace.countP isDisposal + if s.loadCompleter.isSome then 1 else 0

section Steps

variable {trace : List (State × Action)} {s next : State}
variable {ads ads' : List RewardedAd} {shows shows' : List ShowCall}
variable {i : ℕ} {call call' : ShowCall}

theorem Presented.append {presentation : AdPresentation}
    (h : Presented trace ads call presentation) (more : List (State × Action)) :
    Presented (trace ++ more) ads call presentation where
  completed := h.completed
  dismissed := by
    obtain ⟨a, ad, hcall, had, hviews, hdisposed, hdismissed⟩ := h.dismissed
    exact ⟨a, ad, hcall, had, hviews, hdisposed, hdismissed.append more⟩

/-- The ad of the call changes, but what it has shown remains. -/
theorem Presented.mono {presentation : AdPresentation}
    (h : Presented trace ads call presentation) (hcall : call'.ad = call.ad)
    (hads : ∀ (a : ℕ) (ad : RewardedAd), ads[a]? = some ad → call.ad = some a →
      ∃ ad', ads'[a]? = some ad' ∧ (ad.views ≠ [] → ad'.views ≠ []) ∧
        (ad.disposed = true → ad'.disposed = true)) :
    Presented trace ads' call' presentation where
  completed := h.completed
  dismissed := by
    obtain ⟨a, ad, hown, had, hviews, hdisposed, hdismissed⟩ := h.dismissed
    obtain ⟨ad', had', hviews', hdisposed'⟩ := hads a ad had hown
    exact ⟨a, ad', hcall.trans hown, had', hviews' hviews, hdisposed' hdisposed,
      hdismissed⟩

theorem Valid.append (h : Valid trace ads i call) (more : List (State × Action)) :
    Valid (trace ++ more) ads i call where
  owned := h.owned
  preparing := h.preparing
  unseen := h.unseen
  signaled hsignaled := by
    obtain ⟨a, hcall, hearned⟩ := h.signaled hsignaled
    exact ⟨a, hcall, hearned.append more⟩
  done presentation hdone := (h.done presentation hdone).append more
  finished presentation hfinished := (h.finished presentation hfinished).append more

/-- A call whose ad a step leaves alone. -/
theorem Valid.frame (h : Valid trace ads i call)
    (hads : ∀ (a : ℕ) (ad : RewardedAd), ads[a]? = some ad →
      ad.fullScreenContentCallback = some i → ads'[a]? = some ad) :
    Valid trace ads' i call := by
  have hown : ∀ a ad, ads[a]? = some ad → call.ad = some a →
      ads'[a]? = some ad := by
    intro a ad had hcall
    obtain ⟨other, hother, hcallback, -⟩ := h.owned a hcall
    obtain rfl := Option.some.inj (had.symm.trans hother)
    exact hads a ad had hcallback
  exact {
    owned := by
      intro a hcall
      obtain ⟨ad, had, hrest⟩ := h.owned a hcall
      exact ⟨ad, hown a ad had hcall, hrest⟩
    preparing := h.preparing
    unseen := by
      intro hstage a ad hcall had
      obtain ⟨other, hother, -⟩ := h.owned a hcall
      obtain rfl := Option.some.inj (had.symm.trans (hown a other hother hcall))
      exact h.unseen hstage a ad hcall hother
    signaled := h.signaled
    done := fun presentation hdone => (h.done presentation hdone).mono rfl
      fun a ad had hcall => ⟨ad, hown a ad had hcall, id, id⟩
    finished := fun presentation hfinished =>
      (h.finished presentation hfinished).mono rfl
        fun a ad had hcall => ⟨ad, hown a ad had hcall, id, id⟩ }

theorem Registered.frame {a : ℕ} {ad : RewardedAd} (h : Registered shows a ad)
    (hshows : ∀ (i : ℕ) (call : ShowCall), shows[i]? = some call →
      call.ad = some a → ∃ call', shows'[i]? = some call' ∧
        call'.ad = some a) : Registered shows' a ad where
  unused := h.unused
  taken i hcallback := by
    obtain ⟨call, hcall, had⟩ := h.taken i hcallback
    exact hshows i call hcall had

theorem Inv.append (h : Inv trace s) (more : List (State × Action)) :
    Inv (trace ++ more) s where
  valid i call hcall := (h.valid i call hcall).append more
  registered := h.registered
  kept := h.kept
  loading := h.loading
  pending := by
    rw [List.countP_append, Nat.add_right_comm]
    exact h.pending.trans (Nat.le_add_right _ _)

/-- A step of one call that touches no ad. -/
theorem Inv.put (h : Inv trace s) (hcall : s.shows[i]? = some call)
    (had : call'.ad = call.ad) (hvalid : Valid trace s.ads i call') :
    Inv trace (s.put i call') := by
  exact {
    valid := by
      intro j other hother
      rcases getElem?_set_cases hother with ⟨rfl, rfl⟩ | ⟨-, hold⟩
      · exact hvalid
      · exact h.valid j other hold
    registered := by
      intro a ad hmem
      refine (h.registered a ad hmem).frame ?_
      intro j other hother hown
      by_cases hj : i = j
      · subst hj
        obtain rfl := Option.some.inj (hcall.symm.trans hother)
        exact ⟨call', getElem?_set_new hcall, had.trans hown⟩
      · exact ⟨other, by rw [State.put, List.getElem?_set_ne hj, hother], hown⟩
    kept := h.kept
    loading := h.loading
    pending := h.pending }

/-- A step of one call that changes its ad. -/
theorem Inv.touch {a : ℕ} {ad ad' : RewardedAd} (h : Inv trace s)
    (hcall : s.shows[i]? = some call) (had : s.ads[a]? = some ad)
    (hads : next.ads = s.ads.set a ad') (hshows : next.shows = s.shows.set i call')
    (hloads : next.loads = s.loads ∧ next.loadCompleter = s.loadCompleter)
    (hfree : ad.fullScreenContentCallback = none ∨
      ad.fullScreenContentCallback = some i)
    (hcallback : ad'.fullScreenContentCallback = some i)
    (hown : call'.ad = some a) (hbefore : call.ad = none ∨ call.ad = some a)
    (hkept : next.ad = none ∨
      next.ad = s.ad ∧ ad.fullScreenContentCallback = some i)
    (hvalid : Valid trace next.ads i call') : Inv trace next := by
  exact {
    valid := by
      intro j other hother
      rw [hshows] at hother
      rcases getElem?_set_cases hother with ⟨rfl, rfl⟩ | ⟨hj, hold⟩
      · exact hvalid
      · refine (h.valid j other hold).frame ?_
        intro b mine hmine hregistered
        have hne : a ≠ b := by
          rintro rfl
          obtain rfl := Option.some.inj (had.symm.trans hmine)
          rcases hfree with hnone | hsome
          · rw [hnone] at hregistered
            cases hregistered
          · exact hj (Option.some.inj (hregistered.symm.trans hsome))
        rw [hads, List.getElem?_set_ne hne, hmine]
    registered := by
      intro b mine hmine
      rw [hads] at hmine
      rcases getElem?_set_cases hmine with ⟨rfl, rfl⟩ | ⟨hb, hmine⟩
      · exact {
          unused := fun hnone => by
            rw [hcallback] at hnone
            cases hnone
          taken := by
            intro j hj
            obtain rfl := Option.some.inj (hcallback.symm.trans hj)
            exact ⟨call', by rw [hshows, getElem?_set_new hcall], hown⟩ }
      · refine (h.registered b mine hmine).frame ?_
        intro j other hother hmineOwn
        have hj : i ≠ j := by
          rintro rfl
          obtain rfl := Option.some.inj (hcall.symm.trans hother)
          rcases hbefore with hnone | hsome
          · rw [hnone] at hmineOwn
            cases hmineOwn
          · exact hb (Option.some.inj (hmineOwn.symm.trans hsome))
        exact ⟨other, by rw [hshows, List.getElem?_set_ne hj, hother], hmineOwn⟩
    kept := by
      intro b hb
      rcases hkept with hnone | ⟨hsame, hsome⟩
      · rw [hnone] at hb
        cases hb
      · obtain ⟨mine, hmine, hfresh⟩ := h.kept b (hsame ▸ hb)
        have hne : a ≠ b := by
          rintro rfl
          obtain rfl := Option.some.inj (had.symm.trans hmine)
          rw [hsome] at hfresh
          cases hfresh
        exact ⟨mine, by rw [hads, List.getElem?_set_ne hne, hmine], hfresh⟩
    loading := by
      rw [hloads.1, hloads.2]
      exact h.loading
    pending := by
      rw [hloads.1, hloads.2]
      exact h.pending }

/-! ## Loads -/

theorem load_cases (s : State) :
    (∃ n, s.loadCompleter = some n ∧ s.load = (s, n)) ∨
      s.loadCompleter = none ∧ s.load = ({ s with
        loadCompleter := some s.loads.length, loads := s.loads ++ [none] },
        s.loads.length) := by
  rw [State.load]
  cases hload : s.loadCompleter with
  | none => exact .inr ⟨rfl, rfl⟩
  | some n => exact .inl ⟨n, rfl, rfl⟩

theorem Inv.load (h : Inv trace s) : Inv trace s.load.1 := by
  rcases load_cases s with ⟨n, -, heq⟩ | ⟨hnone, heq⟩
  · rw [heq]
    exact h
  · rw [heq]
    exact {
      valid := h.valid
      registered := h.registered
      kept := h.kept
      loading := by
        intro n hn
        obtain rfl := Option.some.inj hn
        simp
      pending := by
        have hbefore := h.pending
        rw [hnone] at hbefore
        rw [List.countP_append]
        simpa using hbefore }

theorem Inv.preload (h : Inv trace s) : Inv trace s.preload := by
  rw [State.preload]
  split
  · exact h
  · exact h.load

/-- A new call, before it has an ad. -/
theorem Inv.started (h : Inv trace s) (had : call.ad = none)
    (hsignaled : call.earnedSignaled = false) (hdone : call.done = none)
    (hstage : ∀ result, call.stage ≠ .finished result) :
    Inv trace { s with shows := s.shows ++ [call] } where
  valid := by
    intro i other hother
    rcases getElem?_concat_cases hother with hold | ⟨-, rfl⟩
    · exact h.valid i other hold
    · exact {
        owned := fun a hown => by
          rw [had] at hown
          cases hown
        preparing := fun _ _ => had
        unseen := fun _ a ad hown _ => by
          rw [had] at hown
          cases hown
        signaled := fun htrue => by
          rw [hsignaled] at htrue
          cases htrue
        done := fun presentation hsome => by
          rw [hdone] at hsome
          cases hsome
        finished := fun presentation hfinished =>
          absurd hfinished (hstage _) }
  registered a ad hmine := (h.registered a ad hmine).frame
    fun i other hother hown => ⟨other, getElem?_concat_of_some hother, hown⟩
  kept := h.kept
  loading := h.loading
  pending := h.pending

/-- A load that ends is no longer in flight. -/
theorem countP_settled {loads : List (Option (Except ConnectionFlow.AppFailure Unit))}
    {n : ℕ} {outcome : Except ConnectionFlow.AppFailure Unit}
    (hpending : loads[n]? = some none) :
    (loads.set n (some outcome)).countP Option.isNone + 1 =
      loads.countP Option.isNone := by
  obtain ⟨hlt, hget⟩ := List.getElem?_eq_some_iff.mp hpending
  have hpos : 0 < loads.countP Option.isNone :=
    List.countP_pos_iff.mpr ⟨none, hget ▸ List.getElem_mem hlt, rfl⟩
  rw [List.countP_set hlt, hget]
  simp only [Option.isNone_none, if_true, Option.isNone_some, Bool.false_eq_true,
    if_false]
  omega

theorem Inv.settled {n : ℕ} (h : Inv trace s) (hpending : s.loads[n]? = some none)
    (outcome : Except ConnectionFlow.AppFailure Unit) :
    (s.loads.set n (some outcome)).countP Option.isNone ≤
      trace.countP isDisposal := by
  have hbefore := h.pending
  have hsettled := @countP_settled _ _ outcome hpending
  split at hbefore <;> omega

theorem Inv.onAdLoaded {n : ℕ} (h : Inv trace s)
    (hpending : s.loads[n]? = some none) : Inv trace { s with
      ad := some s.ads.length
      ads := s.ads ++ [{}]
      loadCompleter := none
      loads := s.loads.set n (some (.ok ())) } where
  valid i call hcall := (h.valid i call hcall).frame
    fun a ad had _ => getElem?_concat_of_some had
  registered := by
    intro a ad had
    rcases getElem?_concat_cases had with hold | ⟨-, rfl⟩
    · exact h.registered a ad hold
    · exact ⟨fun _ => rfl, fun i hi => by cases hi⟩
  kept := by
    intro a ha
    obtain rfl := Option.some.inj ha
    exact ⟨{}, by simp, rfl⟩
  loading := fun m hm => by cases hm
  pending := h.settled hpending _

theorem Inv.onAdFailedToLoad {n : ℕ} (h : Inv trace s)
    (hpending : s.loads[n]? = some none) (failure : ConnectionFlow.AppFailure) :
    Inv trace { s with
      ad := none
      loadCompleter := none
      loads := s.loads.set n (some (.error failure)) } where
  valid := h.valid
  registered := h.registered
  kept := fun a ha => by cases ha
  loading := fun m hm => by cases hm
  pending := h.settled hpending _

theorem Inv.onLoad {n : ℕ} {loaded : Bool} (h : Inv trace s)
    (hnext : s.onLoad n loaded = some next) : Inv trace next := by
  rw [State.onLoad] at hnext
  split at hnext
  · rename_i hpending
    split at hnext
    · obtain rfl := Option.some.inj hnext
      exact h.onAdLoaded hpending
    · obtain rfl := Option.some.inj hnext
      exact h.onAdFailedToLoad hpending _
  · cases hnext

/-! ## Calls -/

/-- A call without an ad has no reward and no result. -/
theorem Valid.unstarted (h : Valid trace ads i call) (had : call.ad = none) :
    call.earnedSignaled = false ∧
      ∀ presentation, call.done ≠ some (.ok presentation) := by
  constructor
  · cases hsignaled : call.earnedSignaled with
    | false => rfl
    | true =>
        obtain ⟨a, hown, -⟩ := h.signaled hsignaled
        rw [had] at hown
        cases hown
  · intro presentation hdone
    obtain ⟨a, ad, hown, -⟩ := (h.done presentation hdone).dismissed
    rw [had] at hown
    cases hown

/-- A call that fails without an ad. -/
theorem Inv.refused (h : Inv trace s) (hcall : s.shows[i]? = some call)
    (failure : ConnectionFlow.AppFailure) :
    Inv trace (s.put i { call with stage := .finished (.error failure) }) := by
  have hvalid := h.valid i call hcall
  exact h.put hcall rfl {
    owned := hvalid.owned
    preparing := fun n hn => by cases hn
    unseen := fun hstage => by cases hstage
    signaled := hvalid.signaled
    done := fun presentation hdone => (hvalid.done presentation hdone).mono rfl
      fun a ad hmem _ => ⟨ad, hmem, id, id⟩
    finished := fun presentation hfinished => by cases hfinished }

theorem Inv.take (h : Inv trace s) (hcall : s.shows[i]? = some call)
    (hnone : call.ad = none) : Inv trace (s.take i call) := by
  rw [State.take]
  cases hkept : s.ad with
  | none => exact h.refused hcall _
  | some a =>
      obtain ⟨ad, had, hfresh⟩ := h.kept a hkept
      have hviews := (h.registered a ad had).unused hfresh
      obtain ⟨hsignaled, hdone⟩ := (h.valid i call hcall).unstarted hnone
      simp only [had]
      refine h.touch hcall had rfl rfl ⟨rfl, rfl⟩ (.inl hfresh) rfl rfl (.inl hnone)
        (.inl rfl) ?_
      exact {
        owned := by
          intro b hb
          obtain rfl := Option.some.inj hb
          exact ⟨_, getElem?_set_new had, rfl, .inl hviews⟩
        preparing := fun n hn => by cases hn
        unseen := by
          intro _ b other hb hother
          obtain rfl := Option.some.inj hb
          rcases getElem?_set_cases hother with ⟨-, rfl⟩ | ⟨hne, -⟩
          · exact hviews
          · exact absurd rfl hne
        signaled := fun htrue => by
          rw [hsignaled] at htrue
          cases htrue
        done := fun presentation hsome => absurd hsome (hdone presentation)
        finished := fun presentation hfinished => by cases hfinished }

theorem Inv.showRewarded (h : Inv trace s) (nonce userId : String) :
    Inv trace (s.showRewarded nonce userId) := by
  rw [State.showRewarded]
  split
  · exact h.load.started rfl rfl rfl fun result hresult => by cases hresult
  · have hstarted := @Inv.started trace s { nonce, userId, stage := .ready } h
      rfl rfl rfl fun result hresult => by cases hresult
    exact hstarted.take (by simp) rfl

theorem Inv.preloaded (h : Inv trace s) (hnext : s.preloaded i = some next) :
    Inv trace next := by
  rw [State.preloaded] at hnext
  cases hcall : s.shows[i]? with
  | none =>
      rw [hcall] at hnext
      cases hnext
  | some call =>
      rw [hcall] at hnext
      cases hstage : call.stage with
      | preparing n =>
          have hnone := (h.valid i call hcall).preparing n hstage
          simp only [hstage] at hnext
          split at hnext
          · obtain rfl := Option.some.inj hnext
            exact h.take hcall hnone
          · obtain rfl := Option.some.inj hnext
            exact h.refused hcall _
          · cases hnext
      | _ =>
          simp only [hstage] at hnext
          cases hnext

/-! ## The ad of a call -/

/-- A step of a call with its ad: what it may do to both. -/
structure Change (trace : List (State × Action)) (i a : ℕ) (ad ad' : RewardedAd)
    (call call' : ShowCall) : Prop where
  callback : ad'.fullScreenContentCallback = ad.fullScreenContentCallback
  own : call'.ad = call.ad
  view : viewOf i call' = viewOf i call
  views : ad'.views = ad.views ∨ ad.views = [] ∧ ad'.views = [viewOf i call]
  disposed : ad.disposed = true → ad'.disposed = true
  stage : (∀ n, call'.stage ≠ .preparing n) ∧ call'.stage ≠ .settingOptions ∧
    ∀ presentation, call'.stage = .finished (.ok presentation) →
      call.stage = .finished (.ok presentation)
  signaled : call'.earnedSignaled = call.earnedSignaled
  done : ∀ presentation, call'.done = some (.ok presentation) →
    call.done = some (.ok presentation) ∨
      presentation.completed = true ∧ ad'.views ≠ [] ∧ ad'.disposed = true ∧
        Dismissed trace a presentation.earnedRewardSignaled

theorem Inv.change {a : ℕ} {ad ad' : RewardedAd} (h : Inv trace s)
    (hcall : s.shows[i]? = some call) (hown : call.ad = some a)
    (had : s.ads[a]? = some ad) (hchange : Change trace i a ad ad' call call') :
    Inv trace ((s.setAd a ad').put i call') := by
  have hvalid := h.valid i call hcall
  obtain ⟨mine, hmine, hcallback, hviews⟩ := hvalid.owned a hown
  obtain rfl := Option.some.inj (had.symm.trans hmine)
  have hset : (s.ads.set a ad')[a]? = some ad' := getElem?_set_new had
  have hshown : ad.views ≠ [] → ad'.views ≠ [] := by
    intro hne
    rcases hchange.views with hsame | ⟨hempty, -⟩
    · rwa [hsame]
    · exact absurd hempty hne
  have hmono : ∀ b other, s.ads[b]? = some other → call.ad = some b →
      ∃ other', (s.ads.set a ad')[b]? = some other' ∧
        (other.views ≠ [] → other'.views ≠ []) ∧
        (other.disposed = true → other'.disposed = true) := by
    intro b other hother hb
    obtain rfl := Option.some.inj (hown.symm.trans hb)
    obtain rfl := Option.some.inj (had.symm.trans hother)
    exact ⟨ad', hset, hshown, hchange.disposed⟩
  refine h.touch hcall had rfl rfl ⟨rfl, rfl⟩ (.inr hcallback)
    (hchange.callback.trans hcallback) (hchange.own.trans hown) (.inr hown)
    (.inr ⟨rfl, hcallback⟩) ?_
  exact {
    owned := by
      intro b hb
      obtain rfl := Option.some.inj ((hchange.own.trans hown).symm.trans hb)
      refine ⟨ad', hset, hchange.callback.trans hcallback, ?_⟩
      rw [hchange.view]
      rcases hchange.views with hsame | ⟨-, hview⟩
      · rwa [hsame]
      · exact .inr hview
    preparing := fun n hn => absurd hn (hchange.stage.1 n)
    unseen := fun hstage => absurd hstage hchange.stage.2.1
    signaled := by
      rw [hchange.signaled, hchange.own]
      exact hvalid.signaled
    done := by
      intro presentation hdone
      rcases hchange.done presentation hdone with hold | hnew
      · exact (hvalid.done presentation hold).mono hchange.own hmono
      · obtain ⟨hcompleted, hne, hdisposed, hdismissed⟩ := hnew
        exact ⟨hcompleted, a, ad', hchange.own.trans hown, hset, hne, hdisposed,
          hdismissed⟩
    finished := by
      intro presentation hfinished
      exact (hvalid.finished presentation (hchange.stage.2.2 presentation
        hfinished)).mono hchange.own hmono }

/-- A result that is no presentation says nothing new. -/
theorem done_of_complete {failure : ConnectionFlow.AppFailure}
    {presentation : AdPresentation}
    (hdone : (call.complete (.error failure)).done = some (.ok presentation)) :
    call.done = some (.ok presentation) := by
  cases hbefore : call.done with
  | none => simp [ShowCall.complete, hbefore] at hdone
  | some result =>
      rw [ShowCall.complete, hbefore] at hdone
      exact hdone

theorem Inv.caught {a : ℕ} {ad : RewardedAd} (h : Inv trace s)
    (hcall : s.shows[i]? = some call) (hown : call.ad = some a)
    (had : s.ads[a]? = some ad) : Inv trace (s.caught i call a ad) := by
  refine h.change hcall hown had {
    callback := rfl
    own := rfl
    view := rfl
    views := .inl rfl
    disposed := fun _ => rfl
    stage := ⟨fun n hn => ?_, fun hstage => ?_, fun presentation hstage => ?_⟩
    signaled := rfl
    done := fun presentation hdone => .inl (done_of_complete hdone) }
  · cases hn
  · cases hstage
  · cases hstage

theorem Inv.optionsSet {returned : Bool} (h : Inv trace s)
    (hnext : s.optionsSet i returned = some next) : Inv trace next := by
  rw [State.optionsSet] at hnext
  cases hcall : s.shows[i]? with
  | none =>
      rw [hcall] at hnext
      cases hnext
  | some call =>
      rw [hcall] at hnext
      simp only at hnext
      split at hnext
      · rename_i a hstage hown
        cases had : s.ads[a]? with
        | none =>
            rw [had] at hnext
            cases hnext
        | some ad =>
            have hunseen := (h.valid i call hcall).unseen hstage a ad hown had
            rw [had] at hnext
            simp only at hnext
            split at hnext
            · obtain rfl := Option.some.inj hnext
              refine h.change hcall hown had {
                callback := rfl
                own := rfl
                view := rfl
                views := .inr ⟨hunseen, by rw [hunseen]; rfl⟩
                disposed := id
                stage := ⟨fun n hn => ?_, fun hshowing => ?_,
                  fun presentation hshowing => ?_⟩
                signaled := rfl
                done := fun presentation hdone => .inl hdone }
              · cases hn
              · cases hshowing
              · cases hshowing
            · obtain rfl := Option.some.inj hnext
              exact h.caught hcall hown had
      · cases hnext

/-- A step of one call that leaves its ad and its reward alone. -/
theorem Inv.goesOn (h : Inv trace s) (hcall : s.shows[i]? = some call)
    (hown : call'.ad = call.ad) (hview : viewOf i call' = viewOf i call)
    (hsignaled : call'.earnedSignaled = true → ∃ a, call.ad = some a ∧ Earned trace a)
    (hstage : (∀ n, call'.stage ≠ .preparing n) ∧ call'.stage ≠ .settingOptions)
    (hdone : ∀ presentation, call'.done = some (.ok presentation) →
      call.done = some (.ok presentation))
    (hfinished : ∀ presentation, call'.stage = .finished (.ok presentation) →
      call.done = some (.ok presentation) ∨
        call.stage = .finished (.ok presentation)) :
    Inv trace (s.put i call') := by
  have hvalid := h.valid i call hcall
  have hmono : ∀ b other, s.ads[b]? = some other → call.ad = some b →
      ∃ other', s.ads[b]? = some other' ∧ (other.views ≠ [] → other'.views ≠ []) ∧
        (other.disposed = true → other'.disposed = true) :=
    fun b other hother _ => ⟨other, hother, id, id⟩
  refine h.put hcall hown {
    owned := ?_
    preparing := fun n hn => absurd hn (hstage.1 n)
    unseen := fun hsetting => absurd hsetting hstage.2
    signaled := ?_
    done := fun presentation hsome =>
      (hvalid.done presentation (hdone presentation hsome)).mono hown hmono
    finished := ?_ }
  · intro a ha
    rw [hview]
    exact hvalid.owned a (hown.symm.trans ha)
  · rw [hown]
    exact hsignaled
  · intro presentation hend
    rcases hfinished presentation hend with hsome | hbefore
    · exact (hvalid.done presentation hsome).mono hown hmono
    · exact (hvalid.finished presentation hbefore).mono hown hmono

theorem Inv.showReturned {returned : Bool} (h : Inv trace s)
    (hnext : s.showReturned i returned = some next) : Inv trace next := by
  rw [State.showReturned] at hnext
  cases hcall : s.shows[i]? with
  | none =>
      rw [hcall] at hnext
      cases hnext
  | some call =>
      rw [hcall] at hnext
      simp only at hnext
      split at hnext
      · rename_i a hstage hown
        cases had : s.ads[a]? with
        | none =>
            rw [had] at hnext
            cases hnext
        | some ad =>
            rw [had] at hnext
            simp only at hnext
            split at hnext
            · obtain rfl := Option.some.inj hnext
              refine h.goesOn hcall rfl rfl (h.valid i call hcall).signaled
                ⟨fun n hn => ?_, fun hsetting => ?_⟩ (fun _ => id)
                fun presentation hend => ?_
              · cases hn
              · cases hsetting
              · cases hend
            · obtain rfl := Option.some.inj hnext
              exact h.caught hcall hown had
      · cases hnext

/-! ## Callbacks -/

/-- The callback of an ad that was shown is the closure of the call that has
the ad, and that call is past `ad.show(..)`. -/
theorem Inv.listener {a : ℕ} {ad : RewardedAd} (h : Inv trace s)
    (hlistener : s.listener a = some (ad, i, call)) :
    s.ads[a]? = some ad ∧ ad.views ≠ [] ∧ s.shows[i]? = some call ∧
      call.ad = some a ∧ (∀ n, call.stage ≠ .preparing n) ∧
      call.stage ≠ .settingOptions := by
  rw [State.listener] at hlistener
  cases had : s.ads[a]? with
  | none =>
      rw [had] at hlistener
      cases hlistener
  | some mine =>
      rw [had] at hlistener
      simp only at hlistener
      split at hlistener
      · cases hlistener
      · rename_i hviews
        cases hcallback : mine.fullScreenContentCallback with
        | none =>
            rw [hcallback] at hlistener
            cases hlistener
        | some j =>
            rw [hcallback] at hlistener
            obtain ⟨other, hother, heq⟩ := Option.map_eq_some_iff.mp hlistener
            obtain ⟨rfl, rfl, rfl⟩ := heq
            obtain ⟨found, hfound, hown⟩ := (h.registered a _ had).taken _ hcallback
            obtain rfl := Option.some.inj (hother.symm.trans hfound)
            have hvalid := h.valid _ _ hother
            refine ⟨rfl, hviews, hother, hown, ?_, ?_⟩
            · intro n hstage
              rw [hvalid.preparing n hstage] at hown
              cases hown
            · exact fun hstage => hviews (hvalid.unseen hstage a _ hown had)

theorem Inv.onAdDismissed {a : ℕ} (h : Inv trace s)
    (hnext : s.onAdDismissedFullScreenContent a = some next) :
    Inv (trace ++ [(s, .onAdDismissedFullScreenContent a)]) next := by
  obtain ⟨⟨ad, i, call⟩, hlistener, rfl⟩ := Option.map_eq_some_iff.mp hnext
  obtain ⟨had, hviews, hcall, hown, hpreparing, hsetting⟩ := h.listener hlistener
  have hearned : call.earnedSignaled = true → Earned trace a := by
    intro htrue
    obtain ⟨b, hb, hevent⟩ := (h.valid i call hcall).signaled htrue
    obtain rfl := Option.some.inj (hown.symm.trans hb)
    exact hevent
  apply Inv.preload
  refine (h.append _).change hcall hown had {
    callback := rfl
    own := rfl
    view := rfl
    views := .inl rfl
    disposed := fun _ => rfl
    stage := ⟨hpreparing, hsetting, fun _ => id⟩
    signaled := rfl
    done := ?_ }
  intro presentation hdone
  cases hbefore : call.done with
  | some result =>
      rw [ShowCall.complete, hbefore] at hdone
      exact .inl hdone
  | none =>
      rw [ShowCall.complete, hbefore] at hdone
      obtain rfl := Except.ok.inj (Option.some.inj hdone)
      exact .inr ⟨rfl, hviews, rfl, Earlier.last ⟨rfl, hearned⟩⟩

theorem Inv.onAdFailedToShow {a : ℕ} (h : Inv trace s)
    (hnext : s.onAdFailedToShowFullScreenContent a = some next) :
    Inv trace next := by
  obtain ⟨⟨ad, i, call⟩, hlistener, rfl⟩ := Option.map_eq_some_iff.mp hnext
  obtain ⟨had, -, hcall, hown, hpreparing, hsetting⟩ := h.listener hlistener
  exact h.change hcall hown had {
    callback := rfl
    own := rfl
    view := rfl
    views := .inl rfl
    disposed := fun _ => rfl
    stage := ⟨hpreparing, hsetting, fun _ => id⟩
    signaled := rfl
    done := fun presentation hdone => .inl (done_of_complete hdone) }

theorem Inv.onUserEarnedReward {a : ℕ} (h : Inv trace s) (hearned : Earned trace a)
    (hnext : s.onUserEarnedReward a = some next) : Inv trace next := by
  rw [State.onUserEarnedReward] at hnext
  cases hview : s.ads[a]?.bind fun ad => ad.views.getLast? with
  | none =>
      rw [hview] at hnext
      cases hnext
  | some view =>
      rw [hview] at hnext
      obtain ⟨call, hcall, rfl⟩ := Option.map_eq_some_iff.mp hnext
      obtain ⟨ad, had, hlast⟩ := Option.bind_eq_some_iff.mp hview
      have hviews : ad.views ≠ [] := by
        intro hempty
        rw [hempty] at hlast
        cases hlast
      -- the view is the one of the call that has the ad
      cases hcallback : ad.fullScreenContentCallback with
      | none => exact absurd ((h.registered a ad had).unused hcallback) hviews
      | some i =>
          obtain ⟨owner, howner, hown⟩ := (h.registered a ad had).taken i hcallback
          have hvalid := h.valid i owner howner
          obtain ⟨other, hother, -, hshown⟩ := hvalid.owned a hown
          obtain rfl := Option.some.inj (had.symm.trans hother)
          rw [hshown.resolve_left hviews, List.getLast?_singleton,
            Option.some.injEq] at hlast
          subst hlast
          obtain rfl := Option.some.inj (howner.symm.trans hcall)
          refine h.goesOn hcall rfl rfl (fun _ => ⟨a, hown, hearned⟩)
            ⟨?_, ?_⟩ (fun _ => id) fun _ => .inr
          · intro n hstage
            rw [hvalid.preparing n hstage] at hown
            cases hown
          · exact fun hstage => hviews (hvalid.unseen hstage a ad hown had)

theorem Inv.presented (h : Inv trace s) (hnext : s.presented i = some next) :
    Inv trace next := by
  rw [State.presented] at hnext
  cases hcall : s.shows[i]? with
  | none =>
      rw [hcall] at hnext
      cases hnext
  | some call =>
      rw [hcall] at hnext
      simp only at hnext
      split at hnext
      · rename_i result hstage hdone
        obtain rfl := Option.some.inj hnext
        refine h.goesOn hcall rfl rfl (h.valid i call hcall).signaled
          ⟨fun n hn => ?_, fun hsetting => ?_⟩ (fun _ => id)
          fun presentation hend => .inl ?_
        · cases hn
        · cases hsetting
        · rw [hdone, Stage.finished.inj hend]
      · cases hnext

theorem Inv.timedOut (h : Inv trace s) (hnext : s.timedOut i = some next) :
    Inv trace next := by
  rw [State.timedOut] at hnext
  cases hcall : s.shows[i]? with
  | none =>
      rw [hcall] at hnext
      cases hnext
  | some call =>
      rw [hcall] at hnext
      cases hstage : call.stage with
      | presenting =>
          simp only [hstage] at hnext
          obtain rfl := Option.some.inj hnext
          refine h.goesOn hcall rfl rfl (h.valid i call hcall).signaled
            ⟨fun n hn => ?_, fun hsetting => ?_⟩
            (fun presentation => done_of_complete) fun presentation => .inr
          · rw [ShowCall.complete, hstage] at hn
            cases hn
          · rw [ShowCall.complete, hstage] at hsetting
            cases hsetting
      | _ =>
          simp only [hstage] at hnext
          cases hnext

/-! ## Disposal -/

/-- The ad that the service keeps is disposed; no call has it. -/
theorem Inv.dispose (h : Inv trace s) : Inv trace s.dispose := by
  rw [State.dispose]
  cases hkept : s.ad with
  | none =>
      exact ⟨h.valid, h.registered, fun a ha => h.kept a (hkept ▸ ha), h.loading,
        h.pending⟩
  | some a =>
      obtain ⟨ad, had, hfresh⟩ := h.kept a hkept
      have hchanged : ∀ (b : ℕ) (other : RewardedAd), (s.ads.modify a fun ad =>
          { ad with disposed := true })[b]? = some other →
          ∃ before, s.ads[b]? = some before ∧
            other.fullScreenContentCallback = before.fullScreenContentCallback ∧
            other.views = before.views := by
        intro b other hother
        rw [List.getElem?_modify, Option.map_eq_map,
          Option.map_eq_some_iff] at hother
        obtain ⟨before, hbefore, rfl⟩ := hother
        refine ⟨before, hbefore, ?_⟩
        split <;> exact ⟨rfl, rfl⟩
      exact {
        valid := by
          intro i call hcall
          refine (h.valid i call hcall).frame ?_
          intro b other hother hregistered
          have hne : a ≠ b := by
            rintro rfl
            obtain rfl := Option.some.inj (had.symm.trans hother)
            rw [hfresh] at hregistered
            cases hregistered
          rw [State.disposeAd, List.getElem?_modify, hother, Option.map_eq_map,
            Option.map_some, if_neg hne]
        registered := by
          intro b other hother
          obtain ⟨before, hbefore, hcallback, hviews⟩ := hchanged b other hother
          have hregistered := h.registered b before hbefore
          exact {
            unused := by
              rw [hcallback, hviews]
              exact hregistered.unused
            taken := by
              rw [hcallback]
              exact hregistered.taken }
        kept := by
          intro b hb
          obtain rfl := Option.some.inj hb
          refine ⟨{ ad with disposed := true }, ?_, hfresh⟩
          rw [State.disposeAd, List.getElem?_modify, had, Option.map_eq_map,
            Option.map_some, if_pos rfl]
        loading := h.loading
        pending := h.pending }

theorem Inv.disposed (h : Inv trace s) (hnext : s.disposed = some next) :
    Inv (trace ++ [(s, .disposed)]) next := by
  rw [State.disposed] at hnext
  split at hnext
  · cases hnext
  · obtain rfl := Option.some.inj hnext
    have happended := h.append [(s, .disposed)]
    exact {
      valid := happended.valid
      registered := h.registered
      kept := fun a ha => by cases ha
      loading := fun n hn => by cases hn
      pending := by
        have hbefore := h.pending
        rw [List.countP_append, List.countP_singleton]
        simp only [isDisposal, if_true, Option.isSome_none, Bool.false_eq_true,
          if_false]
        split at hbefore <;> omega }

theorem inv_step {act : Action} (h : Inv trace s) (hnext : step s act = some next) :
    Inv (trace ++ [(s, act)]) next := by
  have happended := h.append [(s, act)]
  cases act with
  | preload =>
      obtain rfl := Option.some.inj hnext
      exact happended.preload
  | showRewarded nonce userId =>
      obtain rfl := Option.some.inj hnext
      exact happended.showRewarded nonce userId
  | onLoad n loaded => exact happended.onLoad hnext
  | preloaded i => exact happended.preloaded hnext
  | optionsSet i returned => exact happended.optionsSet hnext
  | showReturned i returned => exact happended.showReturned hnext
  | onAdDismissedFullScreenContent a => exact h.onAdDismissed hnext
  | onAdFailedToShowFullScreenContent a => exact happended.onAdFailedToShow hnext
  | onUserEarnedReward a =>
      exact happended.onUserEarnedReward (Earlier.last rfl) hnext
  | presented i => exact happended.presented hnext
  | timedOut i => exact happended.timedOut hnext
  | dispose =>
      obtain rfl := Option.some.inj hnext
      exact happended.dispose
  | disposed => exact h.disposed hnext

theorem inv_init (h : rewardService.init s) : Inv [] s := by
  obtain rfl : s = {} := h
  exact {
    valid := fun i call hcall => by cases hcall
    registered := fun a ad had => by cases had
    kept := fun a ha => by cases ha
    loading := fun n hn => by cases hn
    pending := le_rfl }

end Steps

/-! ## Every run -/

/-- What holds of the ads and of the calls of a run. -/
structure RewardsBound (trace : List (State × Action)) (s : State) : Prop where
  /-- No ad is shown twice. -/
  shownOnce : ∀ ad ∈ s.ads, ad.views.length ≤ 1
  /-- A view carries the nonce and the user of the call that has the ad. -/
  bound : ∀ (a : ℕ) (ad : RewardedAd) (view : View), s.ads[a]? = some ad →
    view ∈ ad.views → ∃ call, s.shows[view.call]? = some call ∧
      call.ad = some a ∧ view.options = some ⟨call.nonce, call.userId⟩
  /-- No two calls have the same ad. -/
  exclusive : ∀ (i j : ℕ) (call other : ShowCall) (a : ℕ),
    s.shows[i]? = some call → s.shows[j]? = some other → call.ad = some a →
    other.ad = some a → i = j
  /-- A call that returns has shown its ad, the ad was dismissed and released,
  and a reward is reported only if it was signalled before that. -/
  presented : ∀ (i : ℕ) (call : ShowCall) (presentation : AdPresentation),
    s.shows[i]? = some call → call.stage = .finished (.ok presentation) →
    presentation.completed = true ∧ ∃ a ad, call.ad = some a ∧
      s.ads[a]? = some ad ∧ ad.views = [viewOf i call] ∧ ad.disposed = true ∧
      Dismissed trace a presentation.earnedRewardSignaled
  /-- One load is in flight, and one more for each disposal. -/
  inFlight : s.loads.countP Option.isNone ≤ trace.countP isDisposal + 1

section Runs

variable {trace : List (State × Action)} {start last s : State}

theorem Inv.views (h : Inv trace s) {a : ℕ} {ad : RewardedAd}
    (had : s.ads[a]? = some ad) : ad.views = [] ∨ ∃ i call,
      s.shows[i]? = some call ∧ call.ad = some a ∧ ad.views = [viewOf i call] := by
  have hregistered := h.registered a ad had
  cases hcallback : ad.fullScreenContentCallback with
  | none => exact .inl (hregistered.unused hcallback)
  | some i =>
      obtain ⟨call, hcall, hown⟩ := hregistered.taken i hcallback
      obtain ⟨other, hother, -, hviews⟩ := (h.valid i call hcall).owned a hown
      obtain rfl := Option.some.inj (had.symm.trans hother)
      exact hviews.imp_right fun hview => ⟨i, call, hcall, hown, hview⟩

theorem rewardsBound_of_inv (h : Inv trace s) : RewardsBound trace s where
  shownOnce ad hmem := by
    obtain ⟨a, had⟩ := List.mem_iff_getElem?.mp hmem
    rcases h.views had with hempty | ⟨i, call, -, -, hview⟩
    · simp [hempty]
    · simp [hview]
  bound a ad view had hmem := by
    rcases h.views had with hempty | ⟨i, call, hcall, hown, hview⟩
    · rw [hempty] at hmem
      cases hmem
    · rw [hview, List.mem_singleton] at hmem
      subst hmem
      exact ⟨call, hcall, hown, rfl⟩
  exclusive i j call other a hcall hother hown hotherOwn := by
    obtain ⟨ad, had, hfirst, -⟩ := (h.valid i call hcall).owned a hown
    obtain ⟨ad', had', hsecond, -⟩ := (h.valid j other hother).owned a hotherOwn
    obtain rfl := Option.some.inj (had.symm.trans had')
    exact Option.some.inj (hfirst.symm.trans hsecond)
  presented i call presentation hcall hstage := by
    have hvalid := h.valid i call hcall
    have hpresented := hvalid.finished presentation hstage
    obtain ⟨a, ad, hown, had, hviews, hdisposed, hdismissed⟩ := hpresented.dismissed
    obtain ⟨mine, hmine, -, hshown⟩ := hvalid.owned a hown
    obtain rfl := Option.some.inj (had.symm.trans hmine)
    exact ⟨hpresented.completed, a, ad, hown, had, hshown.resolve_left hviews,
      hdisposed, hdismissed⟩
  inFlight := by
    refine h.pending.trans (Nat.add_le_add_left ?_ _)
    split <;> decide

theorem views_are_bound (hinit : rewardService.init start)
    (hrun : Run rewardService start trace last) : RewardsBound trace last :=
  rewardsBound_of_inv (hrun.induction_on (inv_init hinit) fun _ _ _ _ => inv_step)

end Runs

/-- Two calls share a load; the first one gets the ad. -/
def sharedLoad : List Action :=
  [.showRewarded "n" "u", .showRewarded "m" "u", .onLoad 0 true, .preloaded 0,
    .preloaded 1, .optionsSet 0 true, .showReturned 0 true, .onUserEarnedReward 0,
    .onAdDismissedFullScreenContent 0, .timedOut 0, .presented 0]

theorem views_are_bound_shared : ∃ last,
    Run rewardService {} (traceOf rewardService {} sharedLoad) last ∧
      (last.ads.map RewardedAd.views = [[⟨0, some ⟨"n", "u"⟩⟩]] ∧
        last.shows.map ShowCall.stage = [.finished (.ok ⟨true, true⟩),
          .finished (.error (.ad "No ad available." .noFill))]) ∧
      RewardsBound (traceOf rewardService {} sharedLoad) last := by
  have htest : (execute rewardService {} sharedLoad).any (fun last =>
      decide (last.ads.map RewardedAd.views = [[⟨0, some ⟨"n", "u"⟩⟩]] ∧
        last.shows.map ShowCall.stage = [.finished (.ok ⟨true, true⟩),
          .finished (.error (.ad "No ad available." .noFill))])) = true := by
    decide +kernel
  obtain ⟨last, hrun, htest⟩ := exists_run_with htest
  exact ⟨last, hrun, htest, views_are_bound rfl hrun⟩

end VpnMiddleware.RewardBinding
