import VpnMiddleware.Ads.ConcurrentVerify
import VpnMiddleware.Core.Slots

/-!
# The keys of concurrent callbacks

However callbacks, refreshes and failures of the key server interleave, an
accepted callback was verified with a key that the server has served for its
key id, no older than the limit at the time that the callback came.
-/

namespace VpnMiddleware.KeyFreshness

open VpnMiddleware.SearchParams VpnMiddleware.AdMobSsvVerifier
open VpnMiddleware.SharedPromise VpnMiddleware.TransitionSystem
open VpnMiddleware.ConcurrentVerify VpnMiddleware.Slots

/-! ## Events -/

/-- The call `i` was made at this time. -/
def Asked (trace : List (State × Action)) (i : ℕ) (rawQuery : List Char)
    (time : ℕ) : Prop :=
  Earlier trace fun _ state act => act = .verify rawQuery ∧
    state.calls.length = i ∧ state.clock = time

/-- The key server has served these keys. -/
def Served (trace : List (State × Action)) (cache : KeyCache) : Prop :=
  Earlier trace fun _ state act => ∃ fetch reply,
    act = .keysAnswered fetch reply ∧ refreshKeys state.clock reply = .ok cache

/-- The step that ended the call `i`, at this time, with `reward`. -/
def Accepted (platform : Platform) (trace : List (State × Action)) (i : ℕ)
    (reward : AdMobReward) (time : ℕ) : Prop :=
  Earlier trace fun _ state act => state.clock = time ∧
    (∀ result, state.calls[i]?.map Proc.stage ≠ some (.done result)) ∧
    ∃ next, step platform state act = some next ∧
      next.calls[i]?.map Proc.stage = some (.done (.ok reward))

/-- Why the call `i` returns `reward`; `now` is the time of its acceptance. -/
structure Genuine (platform : Platform) (trace : List (State × Action)) (i : ℕ)
    (rawQuery : List Char) (reward : AdMobReward) (callback : SignedCallback)
    (cache : KeyCache) (pem : String) (asked now : ℕ) : Prop where
  parsed : parseCallback rawQuery = .ok callback
  called : Asked trace i rawQuery asked
  accepted : Accepted platform trace i reward now
  served : Served trace cache
  key : cache.keys.lookup callback.keyId = some pem
  fresh : asked ≤ cache.fetchedAt + keyTtlMs
  inTime : asked ≤ now ∧ cache.fetchedAt ≤ now
  signature : platform.verifySignature pem (utf8Bytes callback.signedContent)
    callback.signature = some true
  content : readContent platform now callback.signedContent callback.keyId =
    .ok reward

/-! ## The invariant -/

def held (s : State) : ℕ → Option Ticket :=
  heldIn (fun proc => Stage.ticket proc.stage) s.calls

def IsRefreshed (s : State) (promise : ℕ) : Prop :=
  s.inflight.promises[promise]? = some (some (.ok ()))

/-- What is known of a call, by its stage. -/
def Explained (platform : Platform) (trace : List (State × Action)) (s : State)
    (i : ℕ) (proc : Proc) : Prop :=
  match proc.stage with
  | .waiting callback ticket =>
      parseCallback proc.rawQuery = .ok callback ∧ ∃ asked ≤ s.clock,
        Asked trace i proc.rawQuery asked ∧
          (IsRefreshed s ticket.promise → asked ≤ s.cache.fetchedAt)
  | .done (.ok reward) => ∃ callback cache pem asked now,
      Genuine platform trace i proc.rawQuery reward callback cache pem asked now
  | .done (.error _) => True

structure Inv (platform : Platform) (trace : List (State × Action)) (s : State) :
    Prop where
  sound : s.inflight.Sound (held s)
  served : s.cache.keys = [] ∨ Served trace s.cache
  fetched : s.cache.fetchedAt ≤ s.clock
  recent : ∀ promise, s.inflight.inflight = some promise →
    IsRefreshed s promise → s.clock ≤ s.cache.fetchedAt
  explained : ∀ i proc, s.calls[i]? = some proc →
    Explained platform trace s i proc
  economy : s.inflight.promises.length ≤ s.calls.length

section Steps

variable {platform : Platform} {trace : List (State × Action)} {s next : State}
variable {more : List (State × Action)}

/-- What a step does to the clock, the cache and the promises. -/
structure Progress (s next : State) : Prop where
  clock : s.clock ≤ next.clock
  fetched : s.cache.fetchedAt ≤ next.cache.fetchedAt
  refreshed : ∀ promise, IsRefreshed next promise →
    IsRefreshed s promise ∨ s.inflight.promises.length ≤ promise ∨
      s.clock ≤ next.cache.fetchedAt

theorem Genuine.append {i asked now : ℕ} {rawQuery : List Char}
    {reward : AdMobReward} {callback : SignedCallback} {cache : KeyCache}
    {pem : String}
    (h : Genuine platform trace i rawQuery reward callback cache pem asked now) :
    Genuine platform (trace ++ more) i rawQuery reward callback cache pem asked
      now :=
  { h with
    called := h.called.append more
    accepted := h.accepted.append more
    served := h.served.append more }

/-- A call that a step leaves alone. -/
theorem Explained.step {i : ℕ} {proc : Proc}
    (h : Explained platform trace s i proc) (hprogress : Progress s next)
    (hknown : ∀ callback ticket, proc.stage = .waiting callback ticket →
      ticket.promise < s.inflight.promises.length) :
    Explained platform (trace ++ more) next i proc := by
  rw [Explained] at h ⊢
  cases hstage : proc.stage with
  | waiting callback ticket =>
      rw [hstage] at h
      obtain ⟨hparsed, asked, hle, hasked, hfresh⟩ := h
      refine ⟨hparsed, asked, hle.trans hprogress.clock, hasked.append more, ?_⟩
      intro hrefreshed
      rcases hprogress.refreshed _ hrefreshed with hold | hnew | hnow
      · exact (hfresh hold).trans hprogress.fetched
      · exact absurd (hknown callback ticket hstage) (Nat.not_lt.mpr hnew)
      · exact hle.trans hnow
  | done result =>
      rw [hstage] at h
      cases result with
      | error thrown => trivial
      | ok reward =>
          obtain ⟨callback, cache, pem, asked, now, hgenuine⟩ := h
          exact ⟨callback, cache, pem, asked, now, hgenuine.append⟩

/-- An accepted callback has a key and a signature that it verifies. -/
theorem verifyWith_eq_ok {now : ℕ} {callback : SignedCallback}
    {key : Option String} {reward : AdMobReward}
    (h : verifyWith platform now callback key = .ok reward) :
    ∃ pem, key = some pem ∧
      platform.verifySignature pem (utf8Bytes callback.signedContent)
        callback.signature = some true ∧
      readContent platform now callback.signedContent callback.keyId =
        .ok reward := by
  rw [verifyWith] at h
  cases hkey : key.filter (· ≠ "") with
  | none =>
      rw [hkey] at h
      cases h
  | some pem =>
      rw [hkey] at h
      obtain ⟨hsome, -⟩ := Option.filter_eq_some_iff.mp hkey
      cases hverified : platform.verifySignature pem
          (utf8Bytes callback.signedContent) callback.signature with
      | none =>
          simp only [hverified] at h
          cases h
      | some verified =>
          cases verified with
          | false =>
              simp only [hverified] at h
              cases h
          | true =>
              simp only [hverified] at h
              exact ⟨pem, hsome, hverified, h⟩

theorem cachedKey_eq_some {cache : KeyCache} {now : ℕ} {keyId pem : String}
    (h : cachedKey cache now keyId = some pem) :
    cache.keys.lookup keyId = some pem ∧ now ≤ cache.fetchedAt + keyTtlMs := by
  rw [cachedKey] at h
  split at h
  · cases h
  · exact ⟨h, by omega⟩

/-- Keys that were found are keys that were served. -/
theorem Inv.served_of_lookup (h : Inv platform trace s) {keyId pem : String}
    (hlookup : s.cache.keys.lookup keyId = some pem) : Served trace s.cache := by
  rcases h.served with hempty | hserved
  · rw [hempty] at hlookup
    cases hlookup
  · exact hserved

theorem Inv.known (h : Inv platform trace s) {i : ℕ} {proc : Proc}
    (hproc : s.calls[i]? = some proc) (callback : SignedCallback)
    (ticket : Ticket) (hstage : proc.stage = .waiting callback ticket) :
    ticket.promise < s.inflight.promises.length := by
  apply h.sound.known i ticket
  rw [held, heldIn, hproc]
  exact congrArg Stage.ticket hstage

/-- The calls that were there before, in a list that grew. -/
theorem explained_append {calls : List Proc} {proc : Proc}
    (hcalls : next.calls = calls ++ [proc])
    (hold : ∀ i other, calls[i]? = some other → Explained platform trace next i other)
    (hnew : Explained platform trace next calls.length proc) :
    ∀ i other, next.calls[i]? = some other →
      Explained platform trace next i other := by
  intro i other hother
  rw [hcalls] at hother
  rcases getElem?_concat_cases hother with hbefore | ⟨rfl, rfl⟩
  · exact hold i other hbefore
  · exact hnew

theorem Progress.of_calls (calls : List Proc) :
    Progress s { s with calls := calls } :=
  ⟨le_rfl, le_rfl, fun _ => .inl⟩

/-- A call that is answered at once. -/
theorem Inv.answered (h : Inv platform trace s) {rawQuery : List Char}
    {result : Check AdMobReward}
    (hdone : Explained platform (trace ++ more) s s.calls.length
      ⟨rawQuery, .done result⟩) :
    Inv platform (trace ++ more)
      { s with calls := s.calls ++ [⟨rawQuery, .done result⟩] } where
  sound := by
    rw [held, heldIn_append]
    exact h.sound.unheld heldIn_length
  served := h.served.imp_right fun hserved => hserved.append more
  fetched := h.fetched
  recent := h.recent
  explained := by
    refine explained_append rfl ?_ hdone
    intro i other hother
    exact (h.explained i other hother).step (Progress.of_calls _) (h.known hother)
  economy := h.economy.trans (by simp)

theorem asked_last (rawQuery : List Char) :
    Asked (trace ++ [(s, .verify rawQuery)]) s.calls.length rawQuery s.clock :=
  Earlier.last ⟨rfl, rfl, rfl⟩

/-- A call that joins a refresh, or starts one. -/
theorem Inv.joined (h : Inv platform trace s) {rawQuery : List Char}
    {callback : SignedCallback} (hparsed : parseCallback rawQuery = .ok callback) :
    Inv platform (trace ++ [(s, .verify rawQuery)])
      { s with
        inflight := s.inflight.join.1
        calls := s.calls ++ [⟨rawQuery, .waiting callback s.inflight.join.2⟩] } := by
  have hprogress : Progress s { s with
      inflight := s.inflight.join.1
      calls := s.calls ++ [⟨rawQuery, .waiting callback s.inflight.join.2⟩] } := by
    refine ⟨le_rfl, le_rfl, ?_⟩
    intro promise hrefreshed
    rw [IsRefreshed, Shared.join] at hrefreshed
    split at hrefreshed
    · exact .inl hrefreshed
    · rw [List.getElem?_append] at hrefreshed
      split at hrefreshed
      · exact .inl hrefreshed
      · exact .inr (.inl (by omega))
  exact {
    sound := by
      rw [held, heldIn_append]
      exact h.sound.join heldIn_length
    served := h.served.imp_right fun hserved => hserved.append _
    fetched := h.fetched
    recent := by
      intro promise hinflight hrefreshed
      simp only [IsRefreshed, Shared.join] at hinflight hrefreshed
      cases hcurrent : s.inflight.inflight with
      | some current =>
          simp only [hcurrent] at hinflight hrefreshed
          exact h.recent promise (hcurrent.trans hinflight) hrefreshed
      | none =>
          simp only [hcurrent, Option.some.injEq] at hinflight hrefreshed
          subst hinflight
          simp at hrefreshed
    explained := by
      refine explained_append rfl ?_ ?_
      · intro i other hother
        exact (h.explained i other hother).step hprogress (h.known hother)
      · refine ⟨hparsed, s.clock, le_rfl, asked_last rawQuery, ?_⟩
        intro hrefreshed
        simp only [IsRefreshed, Shared.join] at hrefreshed
        cases hinflight : s.inflight.inflight with
        | none => simp [hinflight] at hrefreshed
        | some promise =>
            rw [hinflight] at hrefreshed
            exact h.recent promise hinflight hrefreshed
    economy := by
      have hlength := @Shared.length_join _ s.inflight
      have hbefore := h.economy
      rw [List.length_append, List.length_singleton]
      exact hlength.trans (Nat.succ_le_succ hbefore) }

theorem inv_verify (h : Inv platform trace s) (rawQuery : List Char) :
    Inv platform (trace ++ [(s, .verify rawQuery)])
      (s.verify platform rawQuery) := by
  rw [State.verify]
  cases hparsed : parseCallback rawQuery with
  | error thrown => exact h.answered trivial
  | ok callback =>
      simp only
      cases hcached : cachedKey s.cache s.clock callback.keyId with
      | none => exact h.joined hparsed
      | some pem =>
          apply h.answered
          cases hresult : verifyWith platform s.clock callback (some pem) with
          | error thrown => trivial
          | ok reward =>
              obtain ⟨found, hfound, hverified, hcontent⟩ := verifyWith_eq_ok hresult
              rw [Option.some.injEq] at hfound
              subst hfound
              obtain ⟨hlookup, hfresh⟩ := cachedKey_eq_some hcached
              have hnext : step platform s (.verify rawQuery) = some { s with
                  calls := s.calls ++ [⟨rawQuery, .done (.ok reward)⟩] } := by
                simp only [step, State.verify, hparsed, hcached, hresult]
              exact ⟨callback, s.cache, pem, s.clock, s.clock, {
                parsed := hparsed
                called := asked_last rawQuery
                accepted := Earlier.last
                  ⟨rfl, by simp, _, hnext, by simp⟩
                served := (h.served_of_lookup hlookup).append _
                key := hlookup
                fresh := hfresh
                inTime := ⟨le_rfl, h.fetched⟩
                signature := hverified
                content := hcontent }⟩

/-- A successful refresh happens now. -/
theorem refreshKeys_fetchedAt {fetched : ℕ} {reply : KeyServerReply}
    {cache : KeyCache} (h : refreshKeys fetched reply = .ok cache) :
    cache.fetchedAt = fetched := by
  cases reply with
  | failed message => cases h
  | answered status body =>
      simp only [refreshKeys] at h
      split_ifs at h
      cases body with
      | none => cases h
      | some keys =>
          simp only at h
          split_ifs at h
          rw [← Except.ok.inj h]

theorem inv_settled {fetch : ℕ} {outcome : Check Unit}
    {settled : Shared (Check Unit)} {cache : KeyCache}
    (h : Inv platform trace s) (hsettle : s.inflight.settle fetch outcome = some settled)
    (hserved : cache.keys = [] ∨ Served (trace ++ more) cache)
    (hfetched : s.cache.fetchedAt ≤ cache.fetchedAt ∧ cache.fetchedAt ≤ s.clock)
    (hnow : outcome = .ok () → s.clock ≤ cache.fetchedAt) :
    Inv platform (trace ++ more) { s with cache := cache, inflight := settled } := by
  obtain ⟨hpending, rfl⟩ := Shared.settle_eq_some hsettle
  have hrefreshed : ∀ promise,
      (s.inflight.promises.set fetch (some outcome))[promise]? =
        some (some (.ok ())) →
      IsRefreshed s promise ∨ s.clock ≤ cache.fetchedAt := by
    intro promise hpromise
    rcases getElem?_set_cases hpromise with ⟨-, hsame⟩ | ⟨-, hold⟩
    · exact .inr (hnow (Option.some.inj hsame).symm)
    · exact .inl hold
  have hprogress : Progress s { s with
      cache := cache
      inflight := { s.inflight with
        promises := s.inflight.promises.set fetch (some outcome) } } :=
    ⟨le_rfl, hfetched.1, fun promise hpromise =>
      (hrefreshed promise hpromise).imp_right .inr⟩
  exact {
    sound := h.sound.settle hsettle
    served := hserved
    fetched := hfetched.2
    recent := by
      intro promise hinflight hpromise
      rcases hrefreshed promise hpromise with hold | hdone
      · exact (h.recent promise hinflight hold).trans hfetched.1
      · exact hdone
    explained := fun i proc hproc =>
      (h.explained i proc hproc).step hprogress (h.known hproc)
    economy := (Shared.length_settle hsettle).trans_le h.economy }

theorem inv_keysAnswered {fetch : ℕ} {reply : KeyServerReply}
    (h : Inv platform trace s) (hnext : s.keysAnswered fetch reply = some next) :
    Inv platform (trace ++ [(s, .keysAnswered fetch reply)]) next := by
  rw [State.keysAnswered] at hnext
  cases hreply : refreshKeys s.clock reply with
  | error thrown =>
      rw [hreply] at hnext
      obtain ⟨settled, hsettle, rfl⟩ := Option.map_eq_some_iff.mp hnext
      refine inv_settled h hsettle ?_ ⟨le_rfl, h.fetched⟩ fun hok => ?_
      · exact h.served.imp_right fun hserved => hserved.append _
      · cases hok
  | ok cache =>
      rw [hreply] at hnext
      obtain ⟨settled, hsettle, rfl⟩ := Option.map_eq_some_iff.mp hnext
      have hfetched := refreshKeys_fetchedAt hreply
      refine inv_settled h hsettle ?_ ?_ fun _ => hfetched.ge
      · exact .inr (Earlier.last ⟨fetch, reply, rfl, hreply⟩)
      · rw [hfetched]
        exact ⟨h.fetched, le_rfl⟩

theorem inv_resume {i : ℕ} (h : Inv platform trace s)
    (hnext : s.resume platform i = some next) :
    Inv platform (trace ++ [(s, .resume i)]) next := by
  have hstep : step platform s (.resume i) = some next := hnext
  rw [State.resume] at hnext
  cases hproc : s.calls[i]? with
  | none =>
      rw [hproc] at hnext
      cases hnext
  | some proc =>
      rw [hproc] at hnext
      cases hstage : proc.stage with
      | done result =>
          simp only [hstage] at hnext
          cases hnext
      | waiting callback ticket =>
          simp only [hstage] at hnext
          obtain ⟨⟨outcome, freed⟩, hcollect, rfl⟩ :=
            Option.map_eq_some_iff.mp hnext
          have hlt := (List.getElem?_eq_some_iff.mp hproc).1
          have hpromises := Shared.promises_collect hcollect
          have hheld : held s i = some ticket := by
            rw [held, heldIn, hproc]
            exact congrArg Stage.ticket hstage
          have hwaiting := h.explained i proc hproc
          rw [Explained, hstage] at hwaiting
          obtain ⟨hparsed, asked, hasked, hcalled, hfresh⟩ := hwaiting
          exact {
            sound := by
              rw [held, heldIn_set hlt]
              exact h.sound.collect hheld hcollect
            served := h.served.imp_right fun hserved => hserved.append _
            fetched := h.fetched
            recent := by
              intro promise hinflight hrefreshed
              rw [IsRefreshed, hpromises] at hrefreshed
              refine h.recent promise ?_ hrefreshed
              obtain ⟨-, hfreed⟩ := Shared.collect_eq_some hcollect
              rw [hfreed] at hinflight
              split at hinflight
              · cases hinflight
              · exact hinflight
            explained := by
              intro j other hother
              rcases getElem?_set_cases hother with ⟨rfl, rfl⟩ | ⟨-, hold⟩
              · cases outcome with
                | error thrown => trivial
                | ok refreshed =>
                    rw [Explained, State.afterRefresh]
                    cases hresult : verifyWith platform s.clock callback
                        (s.cache.keys.lookup callback.keyId) with
                    | error thrown => trivial
                    | ok reward =>
                        obtain ⟨pem, hlookup, hverified, hcontent⟩ :=
                          verifyWith_eq_ok hresult
                        have hle := hfresh (Shared.collect_eq_some hcollect).1
                        have hended := congrArg Stage.done hresult
                        exact ⟨callback, s.cache, pem, asked, s.clock, {
                          parsed := hparsed
                          called := hcalled.append _
                          accepted := Earlier.last ⟨rfl, by simp [hproc, hstage],
                            _, hstep, by
                              rw [List.getElem?_set_self hlt]
                              exact congrArg some hended⟩
                          served := (h.served_of_lookup hlookup).append _
                          key := hlookup
                          fresh := hle.trans (Nat.le_add_right _ _)
                          inTime := ⟨hasked, h.fetched⟩
                          signature := hverified
                          content := hcontent }⟩
              · refine (h.explained j other hold).step ?_ (h.known hold)
                refine ⟨le_rfl, le_rfl, fun promise hrefreshed => .inl ?_⟩
                rw [IsRefreshed, hpromises] at hrefreshed
                exact hrefreshed
            economy := by
              rw [hpromises, List.length_set]
              exact h.economy }

/-- While the owner of a refresh can go on, no time passes. -/
theorem inv_advance {ms : ℕ} (h : Inv platform trace s) (hidle : s.isIdle = true) :
    Inv platform (trace ++ [(s, .advance ms)]) { s with clock := s.clock + ms } where
  sound := h.sound
  served := h.served.imp_right fun hserved => hserved.append _
  fetched := h.fetched.trans (Nat.le_add_right _ _)
  recent := by
    intro promise hinflight hrefreshed
    obtain ⟨i, hi⟩ := h.sound.inflight promise hinflight
    obtain ⟨proc, hproc, hticket⟩ := Option.bind_eq_some_iff.mp hi
    have hwaits := List.all_eq_true.mp hidle proc (List.mem_of_getElem? hproc)
    rw [hticket, Option.all_some, Option.isNone_iff_eq_none] at hwaits
    rw [IsRefreshed] at hrefreshed
    simp [Shared.collect, hrefreshed] at hwaits
  explained := by
    intro i proc hproc
    refine (h.explained i proc hproc).step ?_ (h.known hproc)
    exact ⟨Nat.le_add_right _ _, le_rfl, fun _ => .inl⟩
  economy := h.economy

theorem inv_step {act : Action} (h : Inv platform trace s)
    (hnext : step platform s act = some next) :
    Inv platform (trace ++ [(s, act)]) next := by
  cases act with
  | advance ms =>
      rw [step] at hnext
      split at hnext
      · rename_i hidle
        obtain rfl := Option.some.inj hnext
        exact inv_advance h hidle
      · cases hnext
  | verify rawQuery =>
      obtain rfl := Option.some.inj hnext
      exact inv_verify h rawQuery
  | keysAnswered fetch reply => exact inv_keysAnswered h hnext
  | resume i => exact inv_resume h hnext

theorem inv_init (h : (verifier platform).init s) : Inv platform [] s := by
  obtain ⟨hcache, hinflight, hcalls⟩ := h
  exact {
    sound := by
      rw [held, hinflight, hcalls]
      exact Shared.Sound.start rfl rfl fun _ => rfl
    served := .inl (by rw [hcache])
    fetched := by
      rw [hcache]
      exact Nat.zero_le _
    recent := by
      intro promise h
      rw [hinflight] at h
      cases h
    explained := by
      intro i proc hproc
      rw [hcalls] at hproc
      cases hproc
    economy := by
      rw [hinflight]
      exact Nat.zero_le _ }

end Steps

/-! ## Every run -/

/-- What holds of the refreshes and of the accepted callbacks of a run. -/
structure KeysSound (platform : Platform) (trace : List (State × Action))
    (s : State) : Prop where
  genuine : ∀ (i : ℕ) (proc : Proc) (reward : AdMobReward),
    s.calls[i]? = some proc → proc.stage = .done (.ok reward) →
    ∃ callback cache pem asked now,
      Genuine platform trace i proc.rawQuery reward callback cache pem asked now
  /-- At most one refresh is in flight. -/
  single : ∀ fetch other, s.inflight.IsPending fetch →
    s.inflight.IsPending other → fetch = other
  /-- A call that waits goes on once a refresh that is in flight ends. -/
  awaited : ∀ (i : ℕ) (proc : Proc) (callback : SignedCallback)
    (ticket : Ticket), s.calls[i]? = some proc →
    proc.stage = .waiting callback ticket →
    (∃ outcome, s.inflight.promises[ticket.promise]? = some (some outcome)) ∨
      s.inflight.IsPending ticket.promise ∧
        s.inflight.inflight = some ticket.promise
  /-- At most one refresh for each callback. -/
  economy : s.inflight.promises.length ≤ s.calls.length

theorem keysSound_of_inv {platform : Platform} {trace : List (State × Action)}
    {s : State} (h : Inv platform trace s) : KeysSound platform trace s where
  genuine i proc reward hproc hstage := by
    have hexplained := h.explained i proc hproc
    rw [Explained, hstage] at hexplained
    exact hexplained
  single _ _ hfetch hother := h.sound.single hfetch hother
  awaited i proc callback ticket hproc hstage := by
    have hheld : held s i = some ticket := by
      rw [held, heldIn, hproc]
      exact congrArg Stage.ticket hstage
    exact h.sound.awaited hheld
  economy := h.economy

theorem accepted_with_served_keys {platform : Platform} {start last : State}
    {trace : List (State × Action)} (hinit : (verifier platform).init start)
    (hrun : Run (verifier platform) start trace last) :
    KeysSound platform trace last :=
  keysSound_of_inv (hrun.induction_on (inv_init hinit) fun _ _ _ _ => inv_step)

/-- A verifier for which every signature is right and every number is zero. -/
def trusting : Platform where
  verifySignature _ _ _ := some true
  number _ := .finite 0

/-- Two callbacks share the first refresh; a third finds its key. -/
def sharedRefresh : List Action :=
  let rawQuery := "custom_data=n&transaction_id=t&signature=AA&key_id=1".toList
  [.verify rawQuery, .advance 5, .verify rawQuery,
    .keysAnswered 0 (.answered 200 (some (some [⟨1, "k"⟩]))),
    .resume 1, .resume 0, .advance 9, .verify rawQuery]

def isAccepted (proc : Proc) : Bool :=
  match proc.stage with
  | .done (.ok _) => true
  | _ => false

theorem accepted_with_served_keys_shared : ∃ last,
    Run (verifier trusting) {} (traceOf (verifier trusting) {} sharedRefresh) last ∧
      (last.inflight.promises.length = 1 ∧
        last.calls.map isAccepted = [true, true, true]) ∧
      KeysSound trusting (traceOf (verifier trusting) {} sharedRefresh) last := by
  have htest : (execute (verifier trusting) {} sharedRefresh).any (fun last =>
      decide (last.inflight.promises.length = 1 ∧
        last.calls.map isAccepted = [true, true, true])) = true := by
    decide +kernel
  obtain ⟨last, hrun, htest⟩ := exists_run_with htest
  exact ⟨last, hrun, htest, accepted_with_served_keys ⟨rfl, rfl, rfl⟩ hrun⟩

end VpnMiddleware.KeyFreshness
