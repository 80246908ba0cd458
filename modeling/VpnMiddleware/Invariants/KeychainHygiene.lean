import VpnMiddleware.Client.PacketTunnel
import VpnMiddleware.Core.Slots

/-!
# No config is left in the Keychain

A config is in the Keychain only for a start of the app that has not come to
its end, for a request that the system has not delivered, or for a provider
that was neither stopped nor expired and has not failed.  A core runs a config
that the app stored for its session, with a timer for its deadline.
-/

namespace VpnMiddleware.KeychainHygiene

open VpnMiddleware.TransitionSystem VpnMiddleware.PacketTunnel
open VpnMiddleware.Slots

/-! ## Events -/

/-- The provider `j` was told to stop, its core failed, or it expired while
its core was up. -/
def isEnd (j : ℕ) (state : State) : Action → Prop
  | .stopTunnel k | .coreStarted k false => k = j
  | .expiryFired k => k = j ∧ ∃ provider, state.providers[j]? = some provider ∧
      provider.boxService ≠ none
  | _ => False

def Ended (trace : List (State × Action)) (j : ℕ) : Prop :=
  Earlier trace fun _ state act => isEnd j state act

def Fired (trace : List (State × Action)) (j : ℕ) : Prop :=
  Earlier trace fun _ _ act => act = .expiryFired j

/-! ## Who a config is for -/

/-- A start that has neither failed nor got its tunnel request accepted. -/
def IsUnderWay (call : StartCall) : Prop :=
  ∀ error, call.stage ≠ .returned error

/-- Who is still to use or to delete the config of a session. -/
inductive Awaited (trace : List (State × Action)) (s : State)
    (sessionId : String) : Prop
  | start (i : ℕ) (call : StartCall) (hcall : s.starts[i]? = some call)
      (hsession : call.sessionId = sessionId) (hunderWay : IsUnderWay call)
  | request (r : ℕ) (options : StartOptions) (hoptions : s.requests[r]? = some options)
      (hsession : options.sessionId = sessionId) (hpending : options.delivered = false)
  | provider (j : ℕ) (provider : Provider)
      (hprovider : s.providers[j]? = some provider)
      (hsession : provider.sessionId = some sessionId)
      (hfound : provider.stage ≠ .completed (some .missingConfig))
      (hended : ¬ Ended trace j)

/-- The app stored this config for the session. -/
def Stored (s : State) (sessionId config : String) : Prop :=
  ∃ call ∈ s.starts, call.sessionId = sessionId ∧ call.config = config

/-- The app asked for a tunnel of the session until this deadline. -/
def Requested (s : State) (sessionId : String) (hardExpiryEpochMs : ℤ) : Prop :=
  ∃ call ∈ s.starts, call.sessionId = sessionId ∧
    call.hardExpiryEpochMs = hardExpiryEpochMs

structure Provider.Valid (trace : List (State × Action)) (s : State) (j : ℕ)
    (provider : Provider) : Prop where
  reading : ∀ config, provider.stage = .starting config →
    ∃ sessionId, provider.sessionId = some sessionId ∧ Stored s sessionId config
  running : ∀ config, provider.boxService = some config →
    ∃ sessionId, provider.sessionId = some sessionId ∧ Stored s sessionId config ∧
      Requested s sessionId provider.hardExpiryEpochMs
  requested : ∀ sessionId, provider.sessionId = some sessionId →
    Requested s sessionId provider.hardExpiryEpochMs
  deadline : provider.boxService ≠ none → 0 < provider.hardExpiryEpochMs →
    provider.expiryTimer = some provider.hardExpiryEpochMs ∨ Fired trace j

structure Inv (trace : List (State × Action)) (s : State) : Prop where
  kept : ∀ sessionId config, s.keychain sessionId = some config →
    Awaited trace s sessionId ∧ Stored s sessionId config
  requests : ∀ options ∈ s.requests,
    Requested s options.sessionId options.hardExpiryEpochMs
  providers : ∀ j provider, s.providers[j]? = some provider →
    Provider.Valid trace s j provider
  bounded : ∀ j, Ended trace j → j < s.providers.length

section Steps

variable {trace : List (State × Action)} {s next : State} {act : Action}
variable {sessionId config : String} {i j : ℕ}

/-- A step that ends nothing, or ends another provider. -/
theorem ended_snoc (h : Ended (trace ++ [(s, act)]) j) (hact : ¬ isEnd j s act) :
    Ended trace j := by
  obtain ⟨before, state, other, after, htrace, hevent⟩ := h
  rcases List.eq_nil_or_concat after with rfl | ⟨init, final, rfl⟩
  · obtain ⟨rfl, heq⟩ := List.append_inj' htrace rfl
    obtain ⟨rfl, rfl⟩ := Prod.mk.inj (List.singleton_inj.mp heq)
    exact absurd hevent hact
  · rw [List.concat_eq_append, ← List.cons_append, ← List.append_assoc] at htrace
    obtain ⟨rfl, -⟩ := List.append_inj' htrace rfl
    exact ⟨before, state, other, init, rfl, hevent⟩

/-- The calls that were there before a step still are, with their arguments. -/
def Grows (s next : State) : Prop :=
  ∀ call ∈ s.starts, ∃ call' ∈ next.starts, call'.sessionId = call.sessionId ∧
    call'.config = call.config ∧ call'.hardExpiryEpochMs = call.hardExpiryEpochMs

theorem Stored.grows (h : Stored s sessionId config) (hgrows : Grows s next) :
    Stored next sessionId config := by
  obtain ⟨call, hcall, hsession, hconfig⟩ := h
  obtain ⟨call', hcall', hsession', hconfig', -⟩ := hgrows call hcall
  exact ⟨call', hcall', hsession'.trans hsession, hconfig'.trans hconfig⟩

theorem Requested.grows {expiry : ℤ} (h : Requested s sessionId expiry)
    (hgrows : Grows s next) : Requested next sessionId expiry := by
  obtain ⟨call, hcall, hsession, hexpiry⟩ := h
  obtain ⟨call', hcall', hsession', -, hexpiry'⟩ := hgrows call hcall
  exact ⟨call', hcall', hsession'.trans hsession, hexpiry'.trans hexpiry⟩

theorem Provider.Valid.grows {provider : Provider}
    (h : Provider.Valid trace s j provider) (hgrows : Grows s next)
    (more : List (State × Action)) :
    Provider.Valid (trace ++ more) next j provider where
  reading config hstage := by
    obtain ⟨sessionId, hsession, hstored⟩ := h.reading config hstage
    exact ⟨sessionId, hsession, hstored.grows hgrows⟩
  running config hbox := by
    obtain ⟨sessionId, hsession, hstored, hrequested⟩ := h.running config hbox
    exact ⟨sessionId, hsession, hstored.grows hgrows, hrequested.grows hgrows⟩
  requested sessionId hsession := (h.requested sessionId hsession).grows hgrows
  deadline hbox hexpiry := (h.deadline hbox hexpiry).imp_right
    fun hfired => hfired.append more

theorem grows_refl (hstarts : next.starts = s.starts) : Grows s next :=
  fun call hcall => ⟨call, hstarts ▸ hcall, rfl, rfl, rfl⟩

/-- Who awaits a config is who awaited it before. -/
theorem Awaited.keep (h : Awaited trace s sessionId)
    (hstarts : ∀ (i : ℕ) (call : StartCall), s.starts[i]? = some call →
      call.sessionId = sessionId → IsUnderWay call →
      Awaited (trace ++ [(s, act)]) next sessionId)
    (hrequests : ∀ (r : ℕ) (options : StartOptions),
      s.requests[r]? = some options → options.sessionId = sessionId → options.delivered = false →
      Awaited (trace ++ [(s, act)]) next sessionId)
    (hproviders : ∀ (j : ℕ) (provider : Provider),
      s.providers[j]? = some provider → provider.sessionId = some sessionId →
      provider.stage ≠ .completed (some .missingConfig) →
      ¬ isEnd j s act ∧ ∃ provider', next.providers[j]? = some provider' ∧
        provider'.sessionId = some sessionId ∧
        provider'.stage ≠ .completed (some .missingConfig)) :
    Awaited (trace ++ [(s, act)]) next sessionId := by
  cases h with
  | start i call hcall hsession hunderWay => exact hstarts i call hcall hsession hunderWay
  | request r options hoptions hsession hpending =>
      exact hrequests r options hoptions hsession hpending
  | provider j provider hprovider hsession hmissing hended =>
      obtain ⟨hact, provider', hprovider', hsession', hmissing'⟩ :=
        hproviders j provider hprovider hsession hmissing
      exact .provider j provider' hprovider' hsession' hmissing'
        fun hlater => hended (ended_snoc hlater hact)

theorem deleteConfig_eq_some {keychain : Keychain} {other : String}
    (hfound : keychain.deleteConfig sessionId other = some config) :
    other ≠ sessionId ∧ keychain other = some config := by
  rw [Keychain.deleteConfig] at hfound
  by_cases hother : other = sessionId
  · subst hother
    rw [Function.update_self] at hfound
    cases hfound
  · rw [Function.update_of_ne hother] at hfound
    exact ⟨hother, hfound⟩

/-! ## Steps of the app -/

/-- A step of the app ends no provider. -/
def ofApp : Action → Prop
  | .start .. | .startResumed .. | .appKilled => True
  | _ => False

theorem not_isEnd_of_app (hact : ofApp act) : ¬ isEnd j s act := by
  cases act <;> first | exact id | exact absurd hact id

theorem Awaited.keepApp (h : Awaited trace s sessionId) (hact : ofApp act)
    (hproviders : next.providers = s.providers)
    (hrequests : ∀ (r : ℕ) (options : StartOptions),
      s.requests[r]? = some options → next.requests[r]? = some options)
    (hstarts : ∀ (i : ℕ) (call : StartCall), s.starts[i]? = some call →
      call.sessionId = sessionId → IsUnderWay call →
      Awaited (trace ++ [(s, act)]) next sessionId) :
    Awaited (trace ++ [(s, act)]) next sessionId := by
  refine h.keep hstarts ?_ ?_
  · intro r options hoptions hsession hpending
    exact .request r options (hrequests r options hoptions) hsession hpending
  · intro j provider hprovider hsession hmissing
    exact ⟨not_isEnd_of_app hact, provider, hproviders ▸ hprovider, hsession, hmissing⟩

/-- A step of the app that keeps the calls, the requests and the providers. -/
theorem Inv.app (h : Inv trace s) (hact : ofApp act) (hgrows : Grows s next)
    (hproviders : next.providers = s.providers)
    (hrequests : ∀ options ∈ next.requests,
      Requested next options.sessionId options.hardExpiryEpochMs)
    (hkept : ∀ sessionId config, next.keychain sessionId = some config →
      Awaited (trace ++ [(s, act)]) next sessionId ∧ Stored next sessionId config) :
    Inv (trace ++ [(s, act)]) next where
  kept := hkept
  requests := hrequests
  providers := by
    rw [hproviders]
    exact fun j provider hprovider => (h.providers j provider hprovider).grows hgrows _
  bounded := by
    rw [hproviders]
    exact fun j hended => h.bounded j (ended_snoc hended (not_isEnd_of_app hact))

theorem inv_start {expiry : ℤ} {added : Bool} (h : Inv trace s) :
    Inv (trace ++ [(s, .start config sessionId expiry added)])
      (s.start config sessionId expiry added) := by
  have hgrows : Grows s (s.start config sessionId expiry added) :=
    fun call hcall => ⟨call, List.mem_append_left _ hcall, rfl, rfl, rfl⟩
  refine h.app trivial hgrows rfl
    (fun options hoptions => (h.requests options hoptions).grows hgrows) ?_
  intro other found hfound
  simp only [State.start, Keychain.putConfig, Keychain.deleteConfig] at hfound
  by_cases hother : other = sessionId
  · subst hother
    split at hfound
    · rename_i hadded
      rw [Function.update_self, Option.some.injEq] at hfound
      subst hfound
      refine ⟨.start s.starts.length ⟨config, other, expiry, .loadOrCreateManager⟩
        ?_ rfl (fun error herror => by cases herror), ?_⟩
      · simp [State.start, hadded]
      · exact ⟨_, List.mem_append_right _ List.mem_cons_self, rfl, rfl⟩
    · rw [Function.update_self] at hfound
      cases hfound
  · have hbefore : s.keychain other = some found := by
      split at hfound
      · rwa [Function.update_of_ne hother] at hfound
      · rwa [Function.update_of_ne hother] at hfound
    obtain ⟨hawaited, hstored⟩ := h.kept other found hbefore
    refine ⟨hawaited.keepApp trivial rfl (fun _ _ => id) ?_, hstored.grows hgrows⟩
    intro i call hcall hsession hunderWay
    exact .start i call (getElem?_concat_of_some hcall) hsession hunderWay

theorem grows_set {call call' : StartCall} (hcall : s.starts[i]? = some call)
    (hstarts : next.starts = s.starts.set i call')
    (hsame : call'.sessionId = call.sessionId ∧ call'.config = call.config ∧
      call'.hardExpiryEpochMs = call.hardExpiryEpochMs) : Grows s next := by
  intro other hother
  obtain ⟨k, hk⟩ := List.mem_iff_getElem?.mp hother
  rw [hstarts]
  by_cases hik : i = k
  · subst hik
    obtain rfl := Option.some.inj (hcall.symm.trans hk)
    exact ⟨call', List.mem_of_getElem? (getElem?_set_new hcall), hsame⟩
  · have hother : (s.starts.set i call')[k]? = some other := by
      rw [List.getElem?_set_ne hik, hk]
    exact ⟨other, List.mem_of_getElem? hother, rfl, rfl, rfl⟩

/-- A start that fails takes its config with it. -/
theorem inv_startFailed {call : StartCall} {succeeded : Bool} (h : Inv trace s)
    (hcall : s.starts[i]? = some call) :
    Inv (trace ++ [(s, .startResumed i succeeded)]) (s.startFailed i call) := by
  have hgrows : Grows s (s.startFailed i call) := grows_set hcall rfl ⟨rfl, rfl, rfl⟩
  refine h.app trivial hgrows rfl
    (fun options hoptions => (h.requests options hoptions).grows hgrows) ?_
  intro other found hfound
  obtain ⟨hother, hbefore⟩ := deleteConfig_eq_some hfound
  obtain ⟨hawaited, hstored⟩ := h.kept other found hbefore
  refine ⟨hawaited.keepApp trivial rfl (fun _ _ => id) ?_, hstored.grows hgrows⟩
  intro k mine hmine hsession hunderWay
  have hik : i ≠ k := by
    rintro rfl
    obtain rfl := Option.some.inj (hcall.symm.trans hmine)
    exact hother hsession.symm
  refine .start k mine ?_ hsession hunderWay
  rw [State.startFailed, State.putStart, State.deleteConfig,
    List.getElem?_set_ne hik, hmine]

/-- A start that goes on to its next wait. -/
theorem inv_startWaits {call : StartCall} {stage : StartStage} {succeeded : Bool}
    (h : Inv trace s) (hcall : s.starts[i]? = some call)
    (hstage : ∀ error, stage ≠ .returned error) :
    Inv (trace ++ [(s, .startResumed i succeeded)])
      (s.putStart i { call with stage := stage }) := by
  have hgrows : Grows s (s.putStart i { call with stage := stage }) :=
    grows_set hcall rfl ⟨rfl, rfl, rfl⟩
  refine h.app trivial hgrows rfl
    (fun options hoptions => (h.requests options hoptions).grows hgrows) ?_
  intro other found hfound
  obtain ⟨hawaited, hstored⟩ := h.kept other found hfound
  refine ⟨hawaited.keepApp trivial rfl (fun _ _ => id) ?_, hstored.grows hgrows⟩
  intro k mine hmine hsession hunderWay
  by_cases hik : i = k
  · subst hik
    obtain rfl := Option.some.inj (hcall.symm.trans hmine)
    exact .start i _ (getElem?_set_new hcall) hsession hstage
  · exact .start k mine (by rw [State.putStart, List.getElem?_set_ne hik, hmine])
      hsession hunderWay

/-- A start whose tunnel request is accepted hands its config on. -/
theorem inv_startAccepted {call : StartCall} {succeeded : Bool} (h : Inv trace s)
    (hcall : s.starts[i]? = some call) :
    Inv (trace ++ [(s, .startResumed i succeeded)])
      { s.putStart i { call with stage := .returned none } with
        requests := s.requests ++
          [⟨call.sessionId, call.hardExpiryEpochMs, false⟩] } := by
  have hgrows : Grows s { s.putStart i { call with stage := .returned none } with
      requests := s.requests ++
        [⟨call.sessionId, call.hardExpiryEpochMs, false⟩] } :=
    grows_set hcall rfl ⟨rfl, rfl, rfl⟩
  refine h.app trivial hgrows rfl ?_ ?_
  · intro options hoptions
    rcases List.mem_append.mp hoptions with hold | hnew
    · exact (h.requests options hold).grows hgrows
    · obtain rfl := List.mem_singleton.mp hnew
      have hrequested : Requested s call.sessionId call.hardExpiryEpochMs :=
        ⟨call, List.mem_of_getElem? hcall, rfl, rfl⟩
      exact hrequested.grows hgrows
  · intro other found hfound
    obtain ⟨hawaited, hstored⟩ := h.kept other found hfound
    refine ⟨hawaited.keepApp trivial rfl ?_ ?_, hstored.grows hgrows⟩
    · exact fun r options => getElem?_concat_of_some
    · intro k mine hmine hsession hunderWay
      by_cases hik : i = k
      · subst hik
        obtain rfl := Option.some.inj (hcall.symm.trans hmine)
        exact .request s.requests.length _ List.getElem?_concat_length hsession rfl
      · exact .start k mine (by rw [State.putStart, List.getElem?_set_ne hik, hmine])
          hsession hunderWay

theorem inv_startResumed {succeeded : Bool} (h : Inv trace s)
    (hnext : s.startResumed i succeeded = some next) :
    Inv (trace ++ [(s, .startResumed i succeeded)]) next := by
  rw [State.startResumed] at hnext
  cases hcall : s.starts[i]? with
  | none =>
      rw [hcall] at hnext
      cases hnext
  | some call =>
      rw [hcall] at hnext
      cases succeeded with
      | false =>
          have hfailed : next = s.startFailed i call := by
            cases hstage : call.stage <;> simp [hstage] at hnext
            all_goals exact hnext.symm
          exact hfailed ▸ inv_startFailed h hcall
      | true =>
          cases hstage : call.stage with
          | loadOrCreateManager =>
              simp only [hstage, if_true, Option.some.injEq] at hnext
              exact hnext ▸ inv_startWaits h hcall fun _ herror => by cases herror
          | saveToPreferences =>
              simp only [hstage, if_true, Option.some.injEq] at hnext
              exact hnext ▸ inv_startWaits h hcall fun _ herror => by cases herror
          | loadFromPreferences =>
              simp only [hstage, if_true, Option.map_some, Option.some.injEq] at hnext
              exact hnext ▸ inv_startAccepted h hcall
          | returned error =>
              simp only [hstage] at hnext
              cases hnext
          | killed =>
              simp only [hstage] at hnext
              cases hnext

/-- What the app has not finished stays so when it is killed. -/
theorem inv_appKilled (h : Inv trace s) :
    Inv (trace ++ [(s, .appKilled)]) s.appKilled := by
  have hgrows : Grows s s.appKilled := by
    intro call hcall
    refine ⟨_, List.mem_map_of_mem hcall, ?_⟩
    split <;> exact ⟨rfl, rfl, rfl⟩
  refine h.app trivial hgrows rfl
    (fun options hoptions => (h.requests options hoptions).grows hgrows) ?_
  intro other found hfound
  obtain ⟨hawaited, hstored⟩ := h.kept other found hfound
  refine ⟨hawaited.keepApp trivial rfl (fun _ _ => id) ?_, hstored.grows hgrows⟩
  intro k mine hmine hsession hunderWay
  refine .start k { mine with stage := .killed } ?_ hsession
    fun error herror => by cases herror
  rw [State.appKilled, List.getElem?_map, hmine, Option.map_some]
  split
  · rename_i error hreturned
    exact absurd hreturned (hunderWay error)
  · rfl

/-! ## Steps of the system -/

/-- Nothing has happened yet to a provider that is started now. -/
theorem Inv.fresh (h : Inv trace s) (hact : ¬ isEnd s.providers.length s act) :
    ¬ Ended (trace ++ [(s, act)]) s.providers.length :=
  fun hended => Nat.lt_irrefl _ (h.bounded _ (ended_snoc hended hact))

/-- The system starts a provider. -/
theorem Inv.launched {provider : Provider} (h : Inv trace s)
    (hact : ∀ k, ¬ isEnd k s act) (hkeychain : next.keychain = s.keychain)
    (hstarts : next.starts = s.starts)
    (hproviders : next.providers = s.providers ++ [provider])
    (hrequests : ∀ options ∈ next.requests,
      Requested s options.sessionId options.hardExpiryEpochMs)
    (hawaited : ∀ (r : ℕ) (options : StartOptions) (sessionId : String),
      s.requests[r]? = some options →
      options.sessionId = sessionId → options.delivered = false →
      Awaited (trace ++ [(s, act)]) next sessionId)
    (hvalid : Provider.Valid (trace ++ [(s, act)]) s s.providers.length provider) :
    Inv (trace ++ [(s, act)]) next where
  kept sessionId config hfound := by
    obtain ⟨hbefore, hstored⟩ := h.kept sessionId config (hkeychain ▸ hfound)
    refine ⟨hbefore.keep ?_ ?_ ?_, hstored.grows (grows_refl hstarts)⟩
    · intro i call hcall hsession hunderWay
      exact .start i call (hstarts ▸ hcall) hsession hunderWay
    · exact fun r options => hawaited r options sessionId
    · intro j mine hmine hsession hmissing
      refine ⟨hact j, mine, ?_, hsession, hmissing⟩
      rw [hproviders]
      exact getElem?_concat_of_some hmine
  requests options hoptions :=
    (hrequests options hoptions).grows (grows_refl hstarts)
  providers j mine hmine := by
    rw [hproviders] at hmine
    rcases getElem?_concat_cases hmine with hold | ⟨rfl, rfl⟩
    · exact (h.providers j mine hold).grows (grows_refl hstarts) _
    · have hgrown := hvalid.grows (grows_refl hstarts) []
      rwa [List.append_nil] at hgrown
  bounded j hended := by
    rw [hproviders, List.length_append]
    exact Nat.lt_of_lt_of_le (h.bounded j (ended_snoc hended (hact j)))
      (Nat.le_add_right _ _)

theorem inv_startedWithoutOptions (h : Inv trace s) :
    Inv (trace ++ [(s, .startedWithoutOptions)]) s.startedWithoutOptions := by
  refine h.launched (fun _ => id) rfl rfl rfl h.requests ?_ {
    reading := fun config hstage => by cases hstage
    running := fun config hbox => by cases hbox
    requested := fun sessionId hsession => by cases hsession
    deadline := fun hbox => absurd rfl hbox }
  intro r options sessionId hoptions hsession hpending
  exact .request r options hoptions hsession hpending

theorem inv_deliver {r : ℕ} (h : Inv trace s) (hnext : s.deliver r = some next) :
    Inv (trace ++ [(s, .deliver r)]) next := by
  rw [State.deliver] at hnext
  cases hoptions : s.requests[r]? with
  | none =>
      rw [hoptions] at hnext
      cases hnext
  | some options =>
      rw [hoptions] at hnext
      simp only at hnext
      split at hnext
      · cases hnext
      · obtain rfl := Option.some.inj hnext
        have hrequested := h.requests options (List.mem_of_getElem? hoptions)
        refine h.launched (fun _ => id) rfl rfl rfl ?_ ?_ {
          reading := fun config hstage => by cases hstage
          running := fun config hbox => by cases hbox
          requested := ?_
          deadline := fun hbox => absurd rfl hbox }
        · intro other hother
          rcases List.mem_or_eq_of_mem_set hother with hold | rfl
          · exact h.requests other hold
          · exact hrequested
        · intro k other sessionId hother hsession hpending
          by_cases hk : r = k
          · subst hk
            obtain rfl := Option.some.inj (hoptions.symm.trans hother)
            refine .provider s.providers.length _ List.getElem?_concat_length
              (congrArg some hsession) (fun hstage => by cases hstage) ?_
            exact h.fresh id
          · exact .request k other (by rw [List.getElem?_set_ne hk, hother])
              hsession hpending
        · intro sessionId hsession
          obtain rfl := Option.some.inj hsession
          exact hrequested

/-! ## Steps of a provider -/

theorem alive_eq_some {provider : Provider} (h : s.alive j = some provider) :
    s.providers[j]? = some provider :=
  (Option.filter_eq_some_iff.mp h).1

/-- A step of one provider.  If it ends the provider, it deletes the config of
its session. -/
theorem Inv.provider {provider provider' : Provider} (h : Inv trace s)
    (hprovider : s.providers[j]? = some provider) (hact : ∀ k, isEnd k s act → k = j)
    (hstarts : next.starts = s.starts) (hrequests : next.requests = s.requests)
    (hproviders : next.providers = s.providers.set j provider')
    (hsession : provider'.sessionId = provider.sessionId)
    (hkeychain : ∀ sessionId config, next.keychain sessionId = some config →
      s.keychain sessionId = some config ∧ (provider.sessionId = some sessionId →
        ¬ isEnd j s act ∧ (provider.stage ≠ .completed (some .missingConfig) →
          provider'.stage ≠ .completed (some .missingConfig))))
    (hvalid : Provider.Valid (trace ++ [(s, act)]) s j provider') :
    Inv (trace ++ [(s, act)]) next := by
  have hlt := (List.getElem?_eq_some_iff.mp hprovider).1
  exact {
    kept := by
      intro sessionId config hfound
      obtain ⟨hbefore, hkept⟩ := hkeychain sessionId config hfound
      obtain ⟨hawaited, hstored⟩ := h.kept sessionId config hbefore
      refine ⟨hawaited.keep ?_ ?_ ?_, hstored.grows (grows_refl hstarts)⟩
      · intro i call hcall hsession hunderWay
        exact .start i call (hstarts ▸ hcall) hsession hunderWay
      · intro r options hoptions hsession hpending
        exact .request r options (hrequests ▸ hoptions) hsession hpending
      · intro k mine hmine hmineSession hmissing
        by_cases hk : j = k
        · subst hk
          obtain rfl := Option.some.inj (hprovider.symm.trans hmine)
          obtain ⟨hend, hstage⟩ := hkept hmineSession
          exact ⟨hend, provider', by rw [hproviders, getElem?_set_new hprovider],
            hsession.trans hmineSession, hstage hmissing⟩
        · refine ⟨fun hend => hk (hact k hend).symm, mine, ?_, hmineSession, hmissing⟩
          rw [hproviders, List.getElem?_set_ne hk, hmine]
    requests := by
      rw [hrequests]
      exact fun options hoptions =>
        (h.requests options hoptions).grows (grows_refl hstarts)
    providers := by
      intro k mine hmine
      rw [hproviders] at hmine
      rcases getElem?_set_cases hmine with ⟨rfl, rfl⟩ | ⟨-, hold⟩
      · have hgrown := hvalid.grows (grows_refl hstarts) []
        rwa [List.append_nil] at hgrown
      · exact (h.providers k mine hold).grows (grows_refl hstarts) _
    bounded := by
      intro k hended
      rw [hproviders, List.length_set]
      by_cases hk : isEnd k s act
      · exact hact k hk ▸ hlt
      · exact h.bounded k (ended_snoc hended hk) }

theorem inv_readConfig (h : Inv trace s) (hnext : s.readConfig j = some next) :
    Inv (trace ++ [(s, .readConfig j)]) next := by
  rw [State.readConfig] at hnext
  cases halive : s.alive j with
  | none =>
      rw [halive] at hnext
      cases hnext
  | some provider =>
      have hprovider := alive_eq_some halive
      have hvalid := (h.providers j provider hprovider).grows (grows_refl rfl)
        [(s, .readConfig j)]
      rw [halive] at hnext
      simp only at hnext
      split at hnext
      · rename_i sessionId hstage hsession
        obtain rfl := Option.some.inj hnext
        refine h.provider hprovider (fun _ hend => hend.elim) rfl rfl rfl rfl ?_ {
          reading := ?_
          running := hvalid.running
          requested := hvalid.requested
          deadline := hvalid.deadline }
        · intro other config hfound
          refine ⟨hfound, fun hother => ⟨id, fun _ hmissing => ?_⟩⟩
          obtain rfl := Option.some.inj (hsession.symm.trans hother)
          have hread : s.keychain sessionId = some config := hfound
          rw [hread] at hmissing
          cases hmissing
        · intro config hread
          cases hfound : s.keychain sessionId with
          | none =>
              rw [hfound] at hread
              cases hread
          | some found =>
              rw [hfound] at hread
              obtain rfl := TunnelStage.starting.inj hread
              exact ⟨sessionId, hsession, (h.kept sessionId found hfound).2⟩
      · cases hnext

theorem inv_coreStarted {started : Bool} (h : Inv trace s)
    (hnext : s.coreStarted j started = some next) :
    Inv (trace ++ [(s, .coreStarted j started)]) next := by
  rw [State.coreStarted] at hnext
  cases halive : s.alive j with
  | none =>
      rw [halive] at hnext
      cases hnext
  | some provider =>
      have hprovider := alive_eq_some halive
      have hvalid := (h.providers j provider hprovider).grows (grows_refl rfl)
        [(s, .coreStarted j started)]
      rw [halive] at hnext
      simp only at hnext
      split at hnext
      · rename_i config sessionId hstage hsession
        obtain ⟨other, hother, hstored⟩ := hvalid.reading config hstage
        split at hnext
        · rename_i hstarted
          subst hstarted
          obtain rfl := Option.some.inj hnext
          refine h.provider hprovider (fun _ hend => hend.elim) rfl rfl rfl rfl ?_ {
            reading := fun found hfound => by cases hfound
            running := ?_
            requested := hvalid.requested
            deadline := ?_ }
          · intro other found hfound
            exact ⟨hfound, fun _ => ⟨id, fun _ hmissing => by cases hmissing⟩⟩
          · intro found hfound
            obtain rfl := Option.some.inj hfound
            exact ⟨other, hother, hstored, hvalid.requested other hother⟩
          · intro _ hexpiry
            left
            rw [State.scheduled, if_pos hexpiry]
        · rename_i hstarted
          rw [Bool.not_eq_true] at hstarted
          subst hstarted
          obtain rfl := Option.some.inj hnext
          refine h.provider hprovider (fun _ hend => hend.symm) rfl rfl rfl rfl ?_ {
            reading := fun found hfound => by cases hfound
            running := hvalid.running
            requested := hvalid.requested
            deadline := hvalid.deadline }
          intro other found hfound
          obtain ⟨hne, hbefore⟩ := deleteConfig_eq_some hfound
          refine ⟨hbefore, fun hsame => ?_⟩
          exact absurd (Option.some.inj (hsame.symm.trans hsession)) hne
      · cases hnext

theorem wipe_eq_some {session : Option String} {other : String}
    (hfound : (s.wipe session).keychain other = some config) :
    s.keychain other = some config ∧ session ≠ some other := by
  cases session with
  | none => exact ⟨hfound, fun hsame => by cases hsame⟩
  | some sessionId =>
      obtain ⟨hne, hbefore⟩ := deleteConfig_eq_some hfound
      exact ⟨hbefore, fun hsame => hne (Option.some.inj hsame).symm⟩

theorem wipe_unchanged (s : State) (session : Option String) :
    (s.wipe session).starts = s.starts ∧ (s.wipe session).requests = s.requests ∧
      (s.wipe session).providers = s.providers := by
  cases session <;> exact ⟨rfl, rfl, rfl⟩

theorem inv_stopTunnel (h : Inv trace s) (hnext : s.stopTunnel j = some next) :
    Inv (trace ++ [(s, .stopTunnel j)]) next := by
  obtain ⟨provider, halive, rfl⟩ := Option.map_eq_some_iff.mp hnext
  have hprovider := alive_eq_some halive
  have hvalid := (h.providers j provider hprovider).grows (grows_refl rfl)
    [(s, .stopTunnel j)]
  obtain ⟨hstarts, hrequests, hproviders⟩ := wipe_unchanged s provider.sessionId
  have hset : ((s.wipe provider.sessionId).putProvider j { provider with
      expiryTimer := none, boxService := none }).providers =
      s.providers.set j { provider with
        expiryTimer := none, boxService := none } := by
    rw [State.putProvider, hproviders]
  refine h.provider hprovider (fun _ hend => hend.symm) hstarts hrequests hset rfl ?_ {
      reading := hvalid.reading
      running := fun found hfound => by cases hfound
      requested := hvalid.requested
      deadline := fun hbox => absurd rfl hbox }
  intro other found hfound
  obtain ⟨hbefore, hne⟩ := wipe_eq_some hfound
  exact ⟨hbefore, fun hsame => absurd hsame hne⟩

theorem inv_expiryFired (h : Inv trace s) (hnext : s.expiryFired j = some next) :
    Inv (trace ++ [(s, .expiryFired j)]) next := by
  rw [State.expiryFired] at hnext
  cases halive : s.alive j with
  | none =>
      rw [halive] at hnext
      cases hnext
  | some provider =>
      have hprovider := alive_eq_some halive
      have hvalid := (h.providers j provider hprovider).grows (grows_refl rfl)
        [(s, .expiryFired j)]
      have hfired : Provider.Valid (trace ++ [(s, .expiryFired j)]) s j
          { provider with expiryTimer := none } := {
        reading := hvalid.reading
        running := hvalid.running
        requested := hvalid.requested
        deadline := fun _ _ => .inr (Earlier.last rfl) }
      rw [halive] at hnext
      simp only at hnext
      split at hnext
      · cases hnext
      · split at hnext
        · cases hnext
        · obtain rfl := Option.some.inj hnext
          split
          · obtain ⟨hstarts, hrequests, hproviders⟩ := wipe_unchanged
              (s.putProvider j { provider with expiryTimer := none })
              provider.sessionId
            refine h.provider hprovider (fun _ hend => hend.1.symm) hstarts hrequests
              hproviders rfl ?_ hfired
            intro other found hfound
            obtain ⟨hbefore, hne⟩ := wipe_eq_some hfound
            exact ⟨hbefore, fun hsame => absurd hsame hne⟩
          · rename_i hbox
            rw [Bool.not_eq_true, Option.isSome_eq_false_iff,
              Option.isNone_iff_eq_none] at hbox
            refine h.provider hprovider (fun _ hend => hend.1.symm) rfl rfl rfl rfl ?_
              hfired
            intro other found hfound
            refine ⟨hfound, fun _ => ⟨?_, id⟩⟩
            rintro ⟨-, mine, hmine, hrunning⟩
            obtain rfl := Option.some.inj (hprovider.symm.trans hmine)
            exact hrunning hbox

theorem inv_providerKilled (h : Inv trace s)
    (hnext : s.providerKilled j = some next) :
    Inv (trace ++ [(s, .providerKilled j)]) next := by
  obtain ⟨provider, halive, rfl⟩ := Option.map_eq_some_iff.mp hnext
  have hprovider := alive_eq_some halive
  have hvalid := (h.providers j provider hprovider).grows (grows_refl rfl)
    [(s, .providerKilled j)]
  refine h.provider hprovider (fun _ hend => hend.elim) rfl rfl rfl rfl ?_
    ⟨hvalid.reading, hvalid.running, hvalid.requested, hvalid.deadline⟩
  exact fun other found hfound => ⟨hfound, fun _ => ⟨id, id⟩⟩

theorem inv_tick {ms : ℕ} (h : Inv trace s) :
    Inv (trace ++ [(s, .tick ms)]) { s with now := s.now + ms } where
  kept sessionId config hfound := by
    obtain ⟨hawaited, hstored⟩ := h.kept sessionId config hfound
    refine ⟨hawaited.keep ?_ ?_ ?_, hstored⟩
    · exact fun i call hcall => .start i call hcall
    · exact fun r options hoptions => .request r options hoptions
    · exact fun j provider hprovider hsession hmissing =>
        ⟨id, provider, hprovider, hsession, hmissing⟩
  requests := h.requests
  providers j provider hprovider :=
    (h.providers j provider hprovider).grows
      (@grows_refl s { s with now := s.now + ms } rfl) _
  bounded j hended := h.bounded j (ended_snoc hended id)

theorem inv_step (h : Inv trace s) (hnext : step s act = some next) :
    Inv (trace ++ [(s, act)]) next := by
  cases act with
  | tick ms =>
      obtain rfl := Option.some.inj hnext
      exact inv_tick h
  | start config sessionId expiry added =>
      obtain rfl := Option.some.inj hnext
      exact inv_start h
  | startResumed i succeeded => exact inv_startResumed h hnext
  | appKilled =>
      obtain rfl := Option.some.inj hnext
      exact inv_appKilled h
  | deliver r => exact inv_deliver h hnext
  | startedWithoutOptions =>
      obtain rfl := Option.some.inj hnext
      exact inv_startedWithoutOptions h
  | readConfig j => exact inv_readConfig h hnext
  | coreStarted j started => exact inv_coreStarted h hnext
  | stopTunnel j => exact inv_stopTunnel h hnext
  | expiryFired j => exact inv_expiryFired h hnext
  | providerKilled j => exact inv_providerKilled h hnext

theorem inv_init (h : iosTunnel.init s) : Inv [] s := by
  obtain ⟨hkeychain, hstarts, hrequests, hproviders⟩ := h
  exact {
    kept := fun sessionId config hfound => by
      rw [hkeychain] at hfound
      cases hfound
    requests := fun options hoptions => by
      rw [hrequests] at hoptions
      cases hoptions
    providers := fun j provider hprovider => by
      rw [hproviders] at hprovider
      cases hprovider
    bounded := by
      rintro j ⟨before, state, act, after, htrace, -⟩
      simp at htrace }

end Steps

/-! ## Every run -/

end VpnMiddleware.KeychainHygiene
