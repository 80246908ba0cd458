import VpnMiddleware.Client.ConnectionFlow

/-!
# The app's rewarded ads

`AdMobRewardService` and the part of the ads SDK that it relies on.  A call of
`showRewarded` is cut at its awaits; loads, the callbacks of the ads, timeouts
and `dispose` come between them.
-/

namespace VpnMiddleware.AdMobRewardService

open VpnMiddleware.ConnectionFlow VpnMiddleware.TransitionSystem

/-! ## The SDK -/

structure ServerSideVerificationOptions where
  customData : String
  userId : String
  deriving DecidableEq, Repr

/-- An `ad.show(..)`: whose reward callback it got, and the options that the ad
had at that time. -/
structure View where
  call : ℕ
  options : Option ServerSideVerificationOptions
  deriving DecidableEq, Repr

/-- An ad; its callback is the closure of a call of `_show`. -/
structure RewardedAd where
  fullScreenContentCallback : Option ℕ := none
  options : Option ServerSideVerificationOptions := none
  views : List View := []
  disposed : Bool := false
  deriving DecidableEq, Repr

/-! ## The service -/

structure AdPresentation where
  completed : Bool
  earnedRewardSignaled : Bool
  deriving DecidableEq, Repr

abbrev Result := Except AppFailure AdPresentation

/-- Where `showRewarded` is suspended. -/
inductive Stage
  /-- `_ad` is about to be read. -/
  | ready
  /-- At the completer of a load. -/
  | preparing (load : ℕ)
  | settingOptions
  | showing
  /-- At `done.future.timeout(..)`. -/
  | presenting
  | finished (result : Result)
  deriving DecidableEq

/-- A call of `showRewarded` and `_show`; `done` is its completer. -/
structure ShowCall where
  nonce : String
  userId : String
  ad : Option ℕ := none
  earnedSignaled : Bool := false
  done : Option Result := none
  stage : Stage
  deriving DecidableEq

/-- `if (!done.isCompleted) done.complete(..)`, also for an error. -/
def ShowCall.complete (call : ShowCall) (result : Result) : ShowCall :=
  { call with done := call.done.or (some result) }

/-- Ads and completers of loads are numbered in the order of their creation. -/
structure State where
  ad : Option ℕ := none
  loadCompleter : Option ℕ := none
  loads : List (Option (Except AppFailure Unit)) := []
  ads : List RewardedAd := []
  shows : List ShowCall := []
  /-- Calls of `dispose` that await the disposal of an ad. -/
  disposing : ℕ := 0

namespace State

variable (s : State)

def put (i : ℕ) (call : ShowCall) : State :=
  { s with shows := s.shows.set i call }

def setAd (a : ℕ) (ad : RewardedAd) : State :=
  { s with ads := s.ads.set a ad }

/-- `preload()` without an ad: the load in flight, or a new one. -/
def load : State × ℕ :=
  match s.loadCompleter with
  | some n => (s, n)
  | none =>
      ({ s with
          loadCompleter := some s.loads.length
          loads := s.loads ++ [none] },
        s.loads.length)

def preload : State :=
  match s.ad with
  | some _ => s
  | none => s.load.1

/-- `final ad = _ad` and `_show` up to its first await. -/
def take (i : ℕ) (call : ShowCall) : State :=
  match s.ad with
  | none => s.put i { call with
      stage := .finished (.error (.ad "No ad available." .noFill)) }
  | some a =>
      match s.ads[a]? with
      | none => s
      | some ad =>
          let registered := { ad with fullScreenContentCallback := some i }
          { (s.setAd a registered).put i { call with
              ad := some a, stage := .settingOptions } with ad := none }

def showRewarded (nonce userId : String) : State :=
  match s.ad with
  | none =>
      let loading := s.load
      { loading.1 with shows := loading.1.shows ++
        [{ nonce, userId, stage := .preparing loading.2 }] }
  | some _ =>
      let call : ShowCall := { nonce, userId, stage := .ready }
      { s with shows := s.shows ++ [call] }.take s.shows.length call

/-- A load ends; `onAdLoaded` or `onAdFailedToLoad`. -/
def onLoad (n : ℕ) (loaded : Bool) : Option State :=
  match s.loads[n]? with
  | some none =>
      if loaded then
        some { s with
          ad := some s.ads.length
          ads := s.ads ++ [{}]
          loadCompleter := none
          loads := s.loads.set n (some (.ok ())) }
      else
        some { s with
          ad := none
          loadCompleter := none
          loads := s.loads.set n
            (some (.error (.ad "Ad failed to load." .noFill))) }
  | _ => none

/-- `showRewarded` goes on once its load has ended. -/
def preloaded (i : ℕ) : Option State :=
  match s.shows[i]? with
  | none => none
  | some call =>
      match call.stage with
      | .preparing n =>
          match s.loads[n]? with
          | some (some (.ok _)) => some (s.take i call)
          | some (some (.error failure)) =>
              some (s.put i { call with stage := .finished (.error failure) })
          | _ => none
      | _ => none

def couldNotPresent : Result :=
  .error (.ad "Could not present the ad." .showFailed)

/-- The catch clause of `_show`. -/
def caught (i : ℕ) (call : ShowCall) (a : ℕ) (ad : RewardedAd) : State :=
  (s.setAd a { ad with disposed := true }).put i
    { call.complete couldNotPresent with stage := .presenting }

/-- `setServerSideVerificationOptions` returns; then the ad is shown. -/
def optionsSet (i : ℕ) (returned : Bool) : Option State :=
  match s.shows[i]? with
  | none => none
  | some call =>
      match call.stage, call.ad with
      | .settingOptions, some a =>
          match s.ads[a]? with
          | none => none
          | some ad =>
              if returned then
                let options : ServerSideVerificationOptions :=
                  ⟨call.nonce, call.userId⟩
                some ((s.setAd a { ad with
                  options := some options
                  views := ad.views ++ [⟨i, some options⟩] }).put i
                  { call with stage := .showing })
              else some (s.caught i call a ad)
      | _, _ => none

/-- `ad.show(..)` returns or throws. -/
def showReturned (i : ℕ) (returned : Bool) : Option State :=
  match s.shows[i]? with
  | none => none
  | some call =>
      match call.stage, call.ad with
      | .showing, some a =>
          match s.ads[a]? with
          | none => none
          | some ad =>
              if returned then some (s.put i { call with stage := .presenting })
              else some (s.caught i call a ad)
      | _, _ => none

/-! ## Callbacks of an ad that was shown -/

/-- The call whose closure a full-screen callback of this ad is. -/
def listener (a : ℕ) : Option (RewardedAd × ℕ × ShowCall) :=
  match s.ads[a]? with
  | none => none
  | some ad =>
      if ad.views = [] then none
      else
        match ad.fullScreenContentCallback with
        | none => none
        | some i => s.shows[i]?.map fun call => (ad, i, call)

def onAdDismissedFullScreenContent (a : ℕ) : Option State :=
  (s.listener a).map fun (ad, i, call) =>
    ((s.setAd a { ad with disposed := true }).put i
      (call.complete (.ok ⟨true, call.earnedSignaled⟩))).preload

def onAdFailedToShowFullScreenContent (a : ℕ) : Option State :=
  (s.listener a).map fun (ad, i, call) =>
    (s.setAd a { ad with disposed := true }).put i
      (call.complete (.error (.ad "Ad failed to display." .showFailed)))

/-- The reward callback that the last `show` of this ad got. -/
def onUserEarnedReward (a : ℕ) : Option State :=
  match s.ads[a]?.bind fun ad => ad.views.getLast? with
  | none => none
  | some view =>
      s.shows[view.call]?.map fun call =>
        s.put view.call { call with earnedSignaled := true }

/-! ## The end of a call -/

/-- `done` is completed, and the call returns it. -/
def presented (i : ℕ) : Option State :=
  match s.shows[i]? with
  | none => none
  | some call =>
      match call.stage, call.done with
      | .presenting, some result =>
          some (s.put i { call with stage := .finished result })
      | _, _ => none

/-- Three minutes are over. -/
def timedOut (i : ℕ) : Option State :=
  match s.shows[i]? with
  | none => none
  | some call =>
      match call.stage with
      | .presenting =>
          some (s.put i (call.complete (.error (.ad "Ad timed out." .timeout))))
      | _ => none

def disposeAd : Option ℕ → List RewardedAd → List RewardedAd
  | none, ads => ads
  | some a, ads => ads.modify a fun ad => { ad with disposed := true }

/-- `dispose()` up to its await. -/
def dispose : State :=
  { s with ads := disposeAd s.ad s.ads, disposing := s.disposing + 1 }

/-- The end of `dispose()`. -/
def disposed : Option State :=
  match s.disposing with
  | 0 => none
  | n + 1 => some { s with ad := none, loadCompleter := none, disposing := n }

end State

inductive Action
  | preload
  | showRewarded (nonce userId : String)
  | onLoad (load : ℕ) (loaded : Bool)
  | preloaded (i : ℕ)
  | optionsSet (i : ℕ) (returned : Bool)
  | showReturned (i : ℕ) (returned : Bool)
  | onAdDismissedFullScreenContent (ad : ℕ)
  | onAdFailedToShowFullScreenContent (ad : ℕ)
  | onUserEarnedReward (ad : ℕ)
  | presented (i : ℕ)
  | timedOut (i : ℕ)
  | dispose
  | disposed
  deriving DecidableEq, Repr

def step (s : State) : Action → Option State
  | .preload => some s.preload
  | .showRewarded nonce userId => some (s.showRewarded nonce userId)
  | .onLoad n loaded => s.onLoad n loaded
  | .preloaded i => s.preloaded i
  | .optionsSet i returned => s.optionsSet i returned
  | .showReturned i returned => s.showReturned i returned
  | .onAdDismissedFullScreenContent a => s.onAdDismissedFullScreenContent a
  | .onAdFailedToShowFullScreenContent a => s.onAdFailedToShowFullScreenContent a
  | .onUserEarnedReward a => s.onUserEarnedReward a
  | .presented i => s.presented i
  | .timedOut i => s.timedOut i
  | .dispose => some s.dispose
  | .disposed => s.disposed

def rewardService : System State Action where
  init s := s = {}
  step := step

end VpnMiddleware.AdMobRewardService
