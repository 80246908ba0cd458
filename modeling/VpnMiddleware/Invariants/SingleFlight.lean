import VpnMiddleware.Panel.ConcurrentCalls

/-!
# One token request at a time

The calls of a shared client send their requests with tokens that the panel
issued, and few token requests: at most one is in flight, and there is at most
one for each call and for each 401 answer that a call retries.
-/

namespace VpnMiddleware.SingleFlight

open VpnMiddleware.Errors VpnMiddleware.JsonText VpnMiddleware.Http
open VpnMiddleware.Http.Exchange VpnMiddleware.RebeccaPanelClient
open VpnMiddleware.TransitionSystem VpnMiddleware.SharedPromise
open VpnMiddleware.ConcurrentCalls

def Stage.ticket : Stage → Option Ticket
  | .waiting ticket => some ticket
  | _ => none

/-- The promise that each call awaits. -/
def held (s : State) : ℕ → Option Ticket :=
  heldIn (fun proc => Stage.ticket proc.stage) s.calls

/-- The requests sent since the last answer to the call. -/
def Stage.sent : Stage → ℕ
  | .waiting _ | .ready _ => 0
  | .fetching | .done _ => 1

/-- A token request was answered with this token. -/
def Issued (auth : Shared (Except Failure String)) (token : String) : Prop :=
  auth.Settled (.ok token)

/-- What every call meets, while it runs and after. -/
structure Proc.Valid (cfg : RebeccaConfig) (auth : Shared (Except Failure String))
    (proc : Proc) : Prop where
  length : proc.sent.length ≤
    (if proc.retryOn401 then 0 else 1) + Stage.sent proc.stage
  ready : ∀ token, proc.stage = .ready token → Issued auth token
  bearer : ∀ request ∈ proc.sent, ∃ token, Issued auth token ∧
    request = apiRequest cfg token proc.method proc.path proc.body

def retried (s : State) : ℕ := s.calls.countP fun proc => !proc.retryOn401

structure Inv (cfg : RebeccaConfig) (s : State) : Prop where
  config : s.client.cfg = cfg
  token : ∀ token, s.client.token = some token → Issued s.inflightAuth token
  sound : s.inflightAuth.Sound (held s)
  valid : ∀ proc ∈ s.calls, Proc.Valid cfg s.inflightAuth proc
  economy : s.inflightAuth.promises.length ≤ s.calls.length + retried s

/-! ## The parts of a step -/

section Parts

variable {s next : State} {cfg : RebeccaConfig}
variable {auth after : Shared (Except Failure String)}

theorem Proc.Valid.mono {proc : Proc} (h : Proc.Valid cfg auth proc)
    (hissued : ∀ token, Issued auth token → Issued after token) :
    Proc.Valid cfg after proc where
  length := h.length
  ready token hready := hissued token (h.ready token hready)
  bearer request hrequest := by
    obtain ⟨token, htoken, heq⟩ := h.bearer request hrequest
    exact ⟨token, hissued token htoken, heq⟩

/-- The token that the client keeps is the one that the call returns. -/
theorem authenticate_token (net : Network Failure Unit) (client : Client) :
    (authenticate net client ()).client.cfg = client.cfg ∧
      ((authenticate net client ()).client.token = client.token ∨
        ∀ token, (authenticate net client ()).client.token = some token →
          (authenticate net client ()).result = .ok token) := by
  rw [authenticate, bind_apply]
  simp only [getClient, bind_apply, fetchWithTimeout]
  cases (net.fetch (authRequest client.cfg) ()).1 with
  | error cause => exact ⟨rfl, .inl rfl⟩
  | ok res =>
      simp only
      split
      · exact ⟨rfl, .inl rfl⟩
      · simp only [bind_apply, fromExcept]
        cases res.json with
        | error cause => exact ⟨rfl, .inl rfl⟩
        | ok json =>
            simp only [accessToken]
            cases json with
            | null => exact ⟨rfl, .inl rfl⟩
            | _ =>
                refine ⟨rfl, .inr ?_⟩
                intro token htoken
                exact congrArg Except.ok (congrArg (Option.getD · "undefined") htoken)

theorem token_of_isFresh {client : Client} {time : ℕ}
    (hfresh : isFresh client time = true) :
    client.token = some (client.token.getD "") := by
  rw [isFresh, Bool.and_eq_true] at hfresh
  cases htoken : client.token with
  | none => simp [htoken] at hfresh
  | some token => rfl

/-- What `getToken` leaves: the call has the client's own token, or it awaits a
promise. -/
theorem getToken_cases (s : State) :
    (s.getToken = (s, .ready (s.client.token.getD "")) ∧
        s.client.token = some (s.client.token.getD "")) ∨
      s.getToken = ({ s with inflightAuth := s.inflightAuth.join.1 },
        .waiting s.inflightAuth.join.2) := by
  rw [State.getToken]
  split
  · rename_i hfresh
    exact .inl ⟨rfl, token_of_isFresh hfresh⟩
  · exact .inr rfl

theorem getToken_unchanged (s : State) :
    s.getToken.1.calls = s.calls ∧ s.getToken.1.client = s.client ∧
      Stage.sent s.getToken.2 = 0 := by
  rcases getToken_cases s with ⟨h, -⟩ | h
  · rw [h]
    exact ⟨rfl, rfl, rfl⟩
  · rw [h]
    exact ⟨rfl, rfl, rfl⟩

theorem issued_getToken {token : String} (h : Issued s.inflightAuth token) :
    Issued s.getToken.1.inflightAuth token := by
  rcases getToken_cases s with ⟨heq, -⟩ | heq
  · rwa [heq]
  · rw [heq]
    exact Shared.settled_join h

theorem ready_getToken {token : String}
    (htoken : ∀ token, s.client.token = some token →
      Issued s.inflightAuth token)
    (h : s.getToken.2 = .ready token) : Issued s.getToken.1.inflightAuth token := by
  apply issued_getToken
  rcases getToken_cases s with ⟨heq, hkept⟩ | heq
  · rw [heq, Stage.ready.injEq] at h
    exact htoken token (h ▸ hkept)
  · rw [heq] at h
    cases h

theorem sound_getToken {held : ℕ → Option Ticket} {i : ℕ}
    (h : s.inflightAuth.Sound held) (hfree : held i = none) :
    s.getToken.1.inflightAuth.Sound
      (Function.update held i (Stage.ticket s.getToken.2)) := by
  rcases getToken_cases s with ⟨heq, -⟩ | heq
  · rw [heq]
    exact h.unheld hfree
  · rw [heq]
    exact h.join hfree

theorem length_getToken (s : State) :
    s.getToken.1.inflightAuth.promises.length ≤
      s.inflightAuth.promises.length + 1 := by
  rcases getToken_cases s with ⟨heq, -⟩ | heq
  · rw [heq]
    exact Nat.le_succ _
  · rw [heq]
    exact Shared.length_join

/-- A call that changes, and how often it has retried. -/
theorem countP_put {calls : List Proc} {i : ℕ} {proc proc' : Proc}
    (hproc : calls[i]? = some proc) :
    (calls.set i proc').countP (fun other => !other.retryOn401) +
        (if proc.retryOn401 then 0 else 1) =
      calls.countP (fun other => !other.retryOn401) +
        if proc'.retryOn401 then 0 else 1 := by
  obtain ⟨hlt, hget⟩ := List.getElem?_eq_some_iff.mp hproc
  rw [List.countP_set hlt, hget]
  cases hbefore : proc.retryOn401 with
  | true => cases proc'.retryOn401 <;> simp
  | false =>
      have hpos : 0 < calls.countP fun other => !other.retryOn401 :=
        List.countP_pos_iff.mpr ⟨proc, hget ▸ List.getElem_mem hlt, by
          rw [hbefore]
          rfl⟩
      simp only [Bool.not_false, if_true, Bool.false_eq_true, if_false]
      cases proc'.retryOn401 with
      | true =>
          simp only [Bool.not_true, Bool.false_eq_true, if_false, if_true]
          omega
      | false =>
          simp only [Bool.not_false, Bool.false_eq_true, if_true, if_false]
          omega

/-- The invariant after a step of one call. -/
theorem Inv.put {i : ℕ} {proc proc' : Proc} (h : Inv cfg s)
    (hproc : s.calls[i]? = some proc) (hcalls : next.calls = s.calls.set i proc')
    (hconfig : next.client.cfg = s.client.cfg)
    (hissued : ∀ token, Issued s.inflightAuth token →
      Issued next.inflightAuth token)
    (htoken : ∀ token, next.client.token = some token →
      s.client.token = some token)
    (hsound : next.inflightAuth.Sound
      (Function.update (held s) i (Stage.ticket proc'.stage)))
    (hvalid : Proc.Valid cfg next.inflightAuth proc')
    (heconomy : next.inflightAuth.promises.length +
        (if proc.retryOn401 then 0 else 1) ≤
      s.inflightAuth.promises.length + if proc'.retryOn401 then 0 else 1) :
    Inv cfg next := by
  have hlt := (List.getElem?_eq_some_iff.mp hproc).1
  exact {
    config := hconfig.trans h.config
    token := fun token hkept => hissued token (h.token token (htoken token hkept))
    sound := by
      rw [held, hcalls, heldIn_set hlt]
      exact hsound
    valid := by
      intro other hother
      rw [hcalls] at hother
      rcases List.mem_or_eq_of_mem_set hother with hold | rfl
      · exact (h.valid other hold).mono hissued
      · exact hvalid
    economy := by
      have hcount := @countP_put _ _ _ proc' hproc
      have hbefore := h.economy
      rw [retried] at hbefore
      rw [retried, hcalls, List.length_set]
      omega }

end Parts

/-! ## Every step -/

section Steps

variable {s next : State} {cfg : RebeccaConfig}

theorem held_eq {i : ℕ} {proc : Proc} (hproc : s.calls[i]? = some proc) :
    held s i = Stage.ticket proc.stage := by
  rw [held, heldIn, hproc]
  rfl

theorem inv_request (h : Inv cfg s) (method path : String) (body : Option Json) :
    Inv cfg (s.request method path body) := by
  obtain ⟨hcalls, hclient, hsent⟩ := getToken_unchanged s
  exact {
    config := (congrArg Client.cfg hclient).trans h.config
    token := by
      intro token htoken
      exact issued_getToken (h.token token (hclient ▸ htoken))
    sound := by
      rw [held, State.request, hcalls, heldIn_append]
      exact sound_getToken h.sound heldIn_length
    valid := by
      intro proc hproc
      rw [State.request, hcalls] at hproc
      rcases List.mem_append.mp hproc with hold | hnew
      · exact (h.valid proc hold).mono fun token => issued_getToken
      · obtain rfl := List.mem_singleton.mp hnew
        exact {
          length := Nat.zero_le _
          ready := fun token hready => ready_getToken h.token hready
          bearer := fun request hrequest => absurd hrequest List.not_mem_nil }
    economy := by
      have hlength := length_getToken s
      have hbefore := h.economy
      rw [retried, State.request, hcalls, List.length_append,
        List.countP_append, List.length_singleton, List.countP_singleton]
      rw [retried] at hbefore
      simp only [Bool.not_true, Bool.false_eq_true, if_false]
      omega }

theorem inv_authAnswered {auth : ℕ} {reply : Except Failure (HttpResponse Failure)}
    (h : Inv cfg s) (hnext : s.authAnswered auth reply = some next) :
    Inv cfg next := by
  obtain ⟨settled, hsettle, rfl⟩ := Option.map_eq_some_iff.mp hnext
  have hmono : ∀ token, Issued s.inflightAuth token → Issued settled token :=
    fun token => Shared.settled_settle hsettle
  obtain ⟨hconfig, htoken⟩ :=
    authenticate_token (answering reply s.clock) s.client
  exact {
    config := hconfig.trans h.config
    token := by
      intro token hkept
      rcases htoken with hsame | hissued
      · exact hmono token (h.token token (hsame ▸ hkept))
      · have hresult := hissued token hkept
        rw [hresult] at hsettle
        exact Shared.settled_of_settle hsettle
    sound := h.sound.settle hsettle
    valid := fun proc hproc => (h.valid proc hproc).mono hmono
    economy := (Shared.length_settle hsettle).trans_le h.economy }

theorem settledStage_ready {outcome : Except Failure String} {token : String}
    (h : settledStage outcome = .ready token) : outcome = .ok token := by
  cases outcome with
  | error cause => cases h
  | ok issued => rw [Stage.ready.inj h]

theorem ticket_settledStage (outcome : Except Failure String) :
    Stage.ticket (settledStage outcome) = none := by
  cases outcome <;> rfl

theorem inv_resume {i : ℕ} (h : Inv cfg s) (hnext : s.resume i = some next) :
    Inv cfg next := by
  rw [State.resume] at hnext
  cases hproc : s.calls[i]? with
  | none =>
      rw [hproc] at hnext
      cases hnext
  | some proc =>
      have hvalid := h.valid proc (List.mem_of_getElem? hproc)
      rw [hproc] at hnext
      cases hstage : proc.stage with
      | waiting ticket =>
          simp only [hstage] at hnext
          obtain ⟨⟨outcome, freed⟩, hcollect, rfl⟩ :=
            Option.map_eq_some_iff.mp hnext
          have hpromises := Shared.promises_collect hcollect
          have hmono : ∀ token, Issued s.inflightAuth token →
              Issued freed token := by
            intro token htoken
            rw [Issued, Shared.Settled, hpromises]
            exact htoken
          have hheld : held s i = some ticket := by
            rw [held_eq hproc, hstage]
            rfl
          refine h.put hproc rfl rfl hmono (fun _ => id) ?_ ?_ ?_
          · rw [ticket_settledStage]
            exact h.sound.collect hheld hcollect
          · exact {
              length := by
                have hlength := hvalid.length
                rw [hstage] at hlength
                exact hlength.trans (Nat.add_le_add_left (Nat.zero_le _) _)
              ready := by
                intro token hready
                have houtcome := settledStage_ready hready
                subst houtcome
                exact hmono token (Shared.settled_collect hcollect)
              bearer := (hvalid.mono hmono).bearer }
          · exact Nat.le_of_eq (congrArg (· + _) (congrArg List.length hpromises))
      | ready token =>
          simp only [hstage, Option.some.injEq] at hnext
          subst hnext
          have hfree : held s i = none := by
            rw [held_eq hproc, hstage]
            rfl
          refine h.put hproc rfl rfl (fun _ => id) (fun _ => id) ?_ ?_ le_rfl
          · exact h.sound.unheld hfree
          · exact {
              length := by
                have hlength := hvalid.length
                rw [hstage] at hlength
                rw [List.length_append]
                exact Nat.succ_le_succ hlength
              ready := fun other hready => by cases hready
              bearer := by
                intro request hrequest
                rcases List.mem_append.mp hrequest with hold | hnew
                · exact hvalid.bearer request hold
                · rw [List.mem_singleton, h.config] at hnew
                  exact ⟨token, hvalid.ready token hstage, hnew⟩ }
      | fetching =>
          simp only [hstage] at hnext
          cases hnext
      | done result =>
          simp only [hstage] at hnext
          cases hnext

/-- A call whose last request is answered for good. -/
theorem inv_finished {i : ℕ} {proc : Proc} (h : Inv cfg s)
    (hproc : s.calls[i]? = some proc) (hstage : proc.stage = .fetching)
    (result : Except Failure (Option Json)) :
    Inv cfg (s.put i { proc with stage := .done result }) := by
  have hvalid := h.valid proc (List.mem_of_getElem? hproc)
  have hfree : held s i = none := by
    rw [held_eq hproc, hstage]
    rfl
  refine h.put hproc rfl rfl (fun _ => id) (fun _ => id) ?_ ?_ le_rfl
  · exact h.sound.unheld hfree
  · exact {
      length := by
        have hlength := hvalid.length
        rw [hstage] at hlength
        exact hlength
      ready := fun other hready => by cases hready
      bearer := hvalid.bearer }

/-- A call that got a 401 answer and retries. -/
theorem inv_retry {i : ℕ} {proc : Proc} (h : Inv cfg s)
    (hproc : s.calls[i]? = some proc) (hstage : proc.stage = .fetching)
    (hretry : proc.retryOn401 = true) :
    Inv cfg (s.dropToken.getToken.1.put i
      { proc with retryOn401 := false, stage := s.dropToken.getToken.2 }) := by
  have hvalid := h.valid proc (List.mem_of_getElem? hproc)
  obtain ⟨hcalls, hclient, hsent⟩ := getToken_unchanged s.dropToken
  have hfree : held s i = none := by
    rw [held_eq hproc, hstage]
    rfl
  have hmono : ∀ token, Issued s.inflightAuth token →
      Issued s.dropToken.getToken.1.inflightAuth token :=
    fun token => @issued_getToken s.dropToken token
  have hput : (s.dropToken.getToken.1.put i { proc with
      retryOn401 := false, stage := s.dropToken.getToken.2 }).calls =
      s.calls.set i { proc with
        retryOn401 := false, stage := s.dropToken.getToken.2 } := by
    rw [State.put, hcalls, State.dropToken]
  refine h.put hproc hput ?_ hmono ?_ ?_ ?_ ?_
  · rw [State.put, hclient, State.dropToken]
  · intro token hkept
    have hnone : s.dropToken.client.token = some token := hclient ▸ hkept
    cases hnone
  · exact @sound_getToken s.dropToken _ _ h.sound hfree
  · exact {
      length := by
        have hlength := hvalid.length
        rw [hstage, hretry] at hlength
        rw [hsent]
        exact hlength
      ready := by
        intro token hready
        exact @ready_getToken s.dropToken token (fun token hkept => by cases hkept)
          hready
      bearer := (hvalid.mono hmono).bearer }
  · rw [hretry]
    exact length_getToken s.dropToken

theorem inv_answered {i : ℕ} {reply : Except Failure (HttpResponse Failure)}
    (h : Inv cfg s) (hnext : s.answered i reply = some next) : Inv cfg next := by
  rw [State.answered] at hnext
  cases hproc : s.calls[i]? with
  | none =>
      rw [hproc] at hnext
      cases hnext
  | some proc =>
      rw [hproc] at hnext
      cases hstage : proc.stage with
      | fetching =>
          cases reply with
          | error cause =>
              simp only [hstage, Option.some.injEq] at hnext
              subst hnext
              exact inv_finished h hproc hstage _
          | ok res =>
              simp only [hstage] at hnext
              split at hnext
              · rename_i hretry
                rw [Option.some.injEq] at hnext
                subst hnext
                exact inv_retry h hproc hstage hretry.2
              · rw [Option.some.injEq] at hnext
                subst hnext
                exact inv_finished h hproc hstage _
      | _ =>
          simp only [hstage] at hnext
          cases hnext

theorem inv_step {act : Action} (h : Inv cfg s) (hnext : step s act = some next) :
    Inv cfg next := by
  cases act with
  | advance ms =>
      obtain rfl := Option.some.inj hnext
      exact ⟨h.config, h.token, h.sound, h.valid, h.economy⟩
  | request method path body =>
      obtain rfl := Option.some.inj hnext
      exact inv_request h method path body
  | authAnswered auth reply => exact inv_authAnswered h hnext
  | resume i => exact inv_resume h hnext
  | answered i reply => exact inv_answered h hnext

theorem inv_init (h : calls.init s) : Inv s.client.cfg s := by
  obtain ⟨htoken, hauth, hcalls⟩ := h
  exact {
    config := rfl
    token := by
      intro token hkept
      rw [htoken] at hkept
      cases hkept
    sound := by
      rw [held, hauth, hcalls]
      exact Shared.Sound.start rfl rfl fun _ => rfl
    valid := by
      intro proc hproc
      rw [hcalls] at hproc
      cases hproc
    economy := by
      rw [hauth]
      exact Nat.zero_le _ }

end Steps

/-! ## Every run -/

/-- What holds of the token requests and of the calls at any instant. -/
structure Economical (cfg : RebeccaConfig) (s : State) : Prop where
  /-- At most one token request is in flight. -/
  single : ∀ auth other, s.inflightAuth.IsPending auth →
    s.inflightAuth.IsPending other → auth = other
  /-- No call is left at a promise that nobody settles. -/
  awaited : ∀ proc ∈ s.calls, ∀ ticket, proc.stage = .waiting ticket →
    (∃ outcome, s.inflightAuth.promises[ticket.promise]? = some (some outcome)) ∨
      s.inflightAuth.IsPending ticket.promise ∧
        s.inflightAuth.inflight = some ticket.promise
  /-- Some call that is still under way clears `inflightAuth`. -/
  freed : ∀ auth, s.inflightAuth.inflight = some auth →
    ∃ proc ∈ s.calls, proc.stage = .waiting ⟨auth, true⟩
  /-- One request for each call, and a second one after a 401 answer. -/
  length : ∀ proc ∈ s.calls,
    proc.sent.length ≤ if proc.retryOn401 then 1 else 2
  bearer : ∀ proc ∈ s.calls, ∀ request ∈ proc.sent,
    ∃ token, Issued s.inflightAuth token ∧
      request = apiRequest cfg token proc.method proc.path proc.body
  /-- At most one token request for each call and each retry. -/
  economy : s.inflightAuth.promises.length ≤ s.calls.length + retried s

theorem economical_of_inv {s : State} {cfg : RebeccaConfig} (h : Inv cfg s) :
    Economical cfg s where
  single _ _ hauth hother := h.sound.single hauth hother
  awaited proc hproc ticket hstage := by
    obtain ⟨i, hi⟩ := List.mem_iff_getElem?.mp hproc
    have hheld : held s i = some ticket := by
      rw [held_eq hi, hstage]
      rfl
    exact h.sound.awaited hheld
  freed auth hauth := by
    obtain ⟨i, hi⟩ := h.sound.inflight auth hauth
    obtain ⟨proc, hproc, hticket⟩ := Option.bind_eq_some_iff.mp hi
    refine ⟨proc, List.mem_of_getElem? hproc, ?_⟩
    cases hstage : proc.stage with
    | waiting ticket =>
        rw [hstage] at hticket
        rw [Option.some.inj hticket]
    | _ =>
        rw [hstage] at hticket
        cases hticket
  length proc hproc := by
    have hlength := (h.valid proc hproc).length
    have hsent : Stage.sent proc.stage ≤ 1 := by
      cases proc.stage <;> simp [Stage.sent]
    split
    · rename_i hretry
      rw [if_pos hretry] at hlength
      omega
    · rename_i hretry
      rw [if_neg hretry] at hlength
      omega
  bearer proc hproc := (h.valid proc hproc).bearer
  economy := h.economy

/-- Over every interleaving of the calls and of the answers that they get. -/
theorem tokens_are_shared {start last : State} {trace : List (State × Action)}
    (hinit : calls.init start) (hrun : Run calls start trace last) :
    Always (Economical start.client.cfg) trace last := by
  have halways := hrun.always (inv_init hinit) fun _ _ _ => inv_step
  exact ⟨fun entry hentry => economical_of_inv (halways.1 entry hentry),
    economical_of_inv halways.2⟩

/-- Two calls share a token request; one of them is refused with the token and
gets another. -/
theorem tokens_are_shared_wave :
    let reply : String → Except Failure (HttpResponse Failure) := fun token =>
      .ok { status := 200, json := .ok (.obj [("access_token", .str token)]) }
    let start : State := { client := { cfg := ⟨"p", "u", "s", 1⟩ } }
    let acts : List Action := [.request "GET" "/a" none, .request "GET" "/b" none,
      .authAnswered 0 (reply "t"), .resume 1, .resume 0, .resume 1, .resume 0,
      .answered 1 (.ok { status := 401, json := .ok .null }),
      .authAnswered 1 (reply "v"), .resume 1, .resume 1]
    ∃ last, Run calls start (traceOf calls start acts) last ∧
      (last.inflightAuth.promises.length = 2 ∧
        last.calls.map (fun proc => proc.sent.length) = [1, 2]) ∧
      Economical start.client.cfg last := by
  intro reply start acts
  have htest : (execute calls start acts).any (fun last =>
      decide (last.inflightAuth.promises.length = 2 ∧
        last.calls.map (fun proc => proc.sent.length) = [1, 2])) = true := by
    decide +kernel
  obtain ⟨last, hrun, htest⟩ := exists_run_with htest
  exact ⟨last, hrun, htest, (tokens_are_shared ⟨rfl, rfl, rfl⟩ hrun).2⟩

end VpnMiddleware.SingleFlight
