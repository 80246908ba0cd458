import VpnMiddleware.Panel.ExpiryReadBack

/-!
# A pushed expiry is confirmed

The comparison lets an invalid date through, since no comparison with it holds.
A push fails closed exactly where the panel's value is a date or is not set.
-/

namespace VpnMiddleware.ConfirmedExpiry

open VpnMiddleware.Schema VpnMiddleware.Errors VpnMiddleware.Environment
open VpnMiddleware.Database VpnMiddleware.Transaction VpnMiddleware.Table
open VpnMiddleware.PanelTypes VpnMiddleware.PanelHttp
open VpnMiddleware.ExpiryEcho VpnMiddleware.ExpiryReadBack
open VpnMiddleware.OutboxDrainer

/-! ## The law -/

section Law

variable (dateParse : String → Option ℚ)

/-- The answer whose record is compared. -/
def readBack (answers : Answers) : Provider → Push → Reply
  | .rebecca, .setUserExpiry _ _ => answers.read
  | _, _ => answers.write

/-- The value denotes an instant within the tolerance of the sent one. -/
def Confirms (provider : Provider) (sent : ℕ) (value : Echo) : Prop :=
  ∃ ms : ℤ, readExpiry dateParse provider value = .at ms ∧
    (ms - sent).natAbs ≤ toleranceMs

/-- The panel has confirmed the expiry, or the call was Remnawave's no-op. -/
def Settled (client : Client) (answers : Answers) (call : Push) : Prop :=
  (client.provider = .remnawave ∧ isPastNoOp answers.now call = true) ∨
    ∃ dto, readBack answers client.provider call = .ok (some dto) ∧
      Confirms dateParse client.provider call.sent dto.expiry

/-- An outbox row is completed that was not. -/
def Completes (query : Query Unit) (opId : ℕ) : Prop :=
  ∃ db after op, query db = .ok ((), after) ∧ op ∈ after.panelOps ∧
    op.id = opId ∧ op.status = .succeeded ∧
    ∀ old ∈ db.panelOps, old.id = opId → old.status ≠ .succeeded

/-- Only a settled push returns, and only a settled one is recorded. -/
structure FailsClosed (client : Client) (answers : Answers) (call : Push) :
    Prop where
  returns : ∀ user, push dateParse client answers call = .ok user →
    Settled dateParse client answers call
  rewards : ∀ now opId,
    Completes (recordPush now opId (push dateParse client answers call)) opId →
      Settled dateParse client answers call
  drains : ∀ cfg now row,
    Completes (recordDispatch cfg now row (push dateParse client answers call))
        row.id →
      Settled dateParse client answers call

/-! ## Values that are no date -/

/-- What a client takes for the time value, in milliseconds. -/
def timeValueOf : Provider → Echo → Option ℚ
  | .rebecca, value => value.toNumber.map (· * 1000)
  | .remnawave, value => value.timeValue dateParse

/-- A value that is set but no number, respectively no date, or one beyond the
range of dates. -/
def IsUnreadable (provider : Provider) (value : Echo) : Prop :=
  value.isTruthy = true ∧ ∀ ms, timeValueOf dateParse provider value = some ms →
    ms < -(DateText.maxDate : ℚ) ∨ (DateText.maxDate : ℚ) < ms

/-- The call is answered with a record that it compares. -/
structure GetsRecord (client : Client) (answers : Answers) (call : Push)
    (dto : UserDto) : Prop where
  permitted : match client, call with
    | .rebecca, .createUser params => RebeccaPanelClient.isRefused params = false
    | .remnawave squadUuids, .createUser _ => squadUuids.isEmpty = false
    | _, .setUserExpiry _ _ => True
  ahead : client.provider = .remnawave → isPastNoOp answers.now call = false
  written : ∃ reply, answers.write = .ok reply
  record : readBack answers client.provider call = .ok (some dto)

end Law

/-! ## What the comparison lets through -/

section Comparison

variable {dateParse : String → Option ℚ} {provider : Provider} {value : Echo}

theorem hasDrifted_eq_false_iff {tolerance sent : ℕ} {reported : ReportedExpiry} :
    hasDrifted tolerance sent reported = false ↔ reported = .invalid ∨
      ∃ ms : ℤ, reported = .at ms ∧ (ms - sent).natAbs ≤ tolerance := by
  cases reported with
  | unlimited => simp [hasDrifted]
  | «at» ms => simp [hasDrifted]
  | invalid => simp [hasDrifted]

theorem timeClip_eq_invalid_iff {ms : ℚ} :
    timeClip ms = .invalid ↔
      ms < -(DateText.maxDate : ℚ) ∨ (DateText.maxDate : ℚ) < ms := by
  rw [timeClip, ← Rat.not_le, ← Rat.not_le, ← not_and_or]
  split_ifs with hrange <;> simp [hrange]

theorem dateOf_eq_invalid_iff {time : Option ℚ} :
    dateOf time = .invalid ↔ ∀ ms, time = some ms →
      ms < -(DateText.maxDate : ℚ) ∨ (DateText.maxDate : ℚ) < ms := by
  cases time with
  | none => simp [dateOf]
  | some ms => simp [dateOf, timeClip_eq_invalid_iff]

theorem readExpiry_eq (provider : Provider) (value : Echo) :
    readExpiry dateParse provider value =
      if value.isTruthy then dateOf (timeValueOf dateParse provider value)
      else .unlimited := by
  cases provider <;> rfl

theorem readExpiry_eq_invalid_iff :
    readExpiry dateParse provider value = .invalid ↔
      IsUnreadable dateParse provider value := by
  rw [readExpiry_eq, IsUnreadable]
  cases value.isTruthy with
  | false => simp
  | true => simp [dateOf_eq_invalid_iff]

/-- The comparison passes what it confirms, and what is no date. -/
theorem passes_iff {sent : ℕ} :
    hasDrifted toleranceMs sent (readExpiry dateParse provider value) = false ↔
      IsUnreadable dateParse provider value ∨
        Confirms dateParse provider sent value := by
  rw [hasDrifted_eq_false_iff, readExpiry_eq_invalid_iff]
  rfl

theorem not_confirms_of_unreadable {sent : ℕ}
    (hunreadable : IsUnreadable dateParse provider value) :
    ¬ Confirms dateParse provider sent value := by
  rintro ⟨ms, hms, -⟩
  rw [readExpiry_eq_invalid_iff.mpr hunreadable] at hms
  cases hms

end Comparison

/-! ## The calls -/

section Outcomes

variable {dateParse : String → Option ℚ} {client : Client} {answers : Answers}
variable {call : Push}

theorem confirm_ok_iff {provider : Provider} {sent : ℕ} {op : String}
    {missing : Failure} {reply : Reply} :
    (∃ user, confirm dateParse provider sent op missing reply = .ok user) ↔
      ∃ dto, reply = .ok (some dto) ∧ hasDrifted toleranceMs sent
        (readExpiry dateParse provider dto.expiry) = false := by
  rcases reply with cause | _ | dto
  · simp [confirm, bind, Except.bind]
  · simp [confirm, bind, Except.bind]
  · have huser : (toPanelUser dateParse provider dto).expireAt =
        readExpiry dateParse provider dto.expiry := rfl
    cases hdrift : hasDrifted toleranceMs sent
        (readExpiry dateParse provider dto.expiry) with
    | true => simp [confirm, bind, Except.bind, assertExpiryRoundTrip, huser, hdrift]
    | false =>
        simp [confirm, bind, Except.bind, assertExpiryRoundTrip, huser, hdrift,
          pure, Except.pure]

/-- The comparison at the end of a call that gets every record. -/
private theorem confirm_gets_iff {op : String} {missing : Failure}
    (hgets : ∀ dto, readBack answers client.provider call = .ok (some dto) →
      GetsRecord client answers call dto) :
    (∃ user, confirm dateParse client.provider call.sent op missing
        (readBack answers client.provider call) = .ok user) ↔
      ∃ dto, GetsRecord client answers call dto ∧ hasDrifted toleranceMs call.sent
        (readExpiry dateParse client.provider dto.expiry) = false := by
  rw [confirm_ok_iff]
  constructor
  · rintro ⟨dto, hreply, hpasses⟩
    exact ⟨dto, hgets dto hreply, hpasses⟩
  · rintro ⟨dto, hdto, hpasses⟩
    exact ⟨dto, hdto.record, hpasses⟩

/-- A call that is not the no-op returns exactly if it gets a record that
passes. -/
theorem push_ok_iff
    (hahead : client.provider = .remnawave → isPastNoOp answers.now call = false) :
    (∃ user, push dateParse client answers call = .ok user) ↔
      ∃ dto, GetsRecord client answers call dto ∧ hasDrifted toleranceMs call.sent
        (readExpiry dateParse client.provider dto.expiry) = false := by
  cases client with
  | rebecca =>
      cases call with
      | createUser params =>
          cases hrefused : RebeccaPanelClient.isRefused params with
          | true =>
              refine iff_of_false ?_ ?_
              · rintro ⟨user, hok⟩
                simp [push, rebeccaPush, hrefused] at hok
              · rintro ⟨dto, hgets, -⟩
                exact absurd hgets.permitted (by simp [hrefused])
          | false =>
              simp only [push, rebeccaPush, hrefused, Bool.false_eq_true, if_false]
              exact confirm_gets_iff fun dto hreply =>
                ⟨hrefused, hahead, ⟨_, hreply⟩, hreply⟩
      | setUserExpiry username expireAt =>
          cases hwrite : answers.write with
          | error cause =>
              refine iff_of_false ?_ ?_
              · rintro ⟨user, hok⟩
                simp [push, rebeccaPush, hwrite, bind, Except.bind] at hok
              · rintro ⟨dto, hgets, -⟩
                obtain ⟨reply, hreply⟩ := hgets.written
                simp [hwrite] at hreply
          | ok reply =>
              have hpush : push dateParse .rebecca answers
                  (.setUserExpiry username expireAt) =
                    confirm dateParse .rebecca expireAt "setUserExpiry"
                      (vanished username) answers.read := by
                simp [push, rebeccaPush, hwrite, bind, Except.bind]
              rw [hpush]
              exact confirm_gets_iff fun dto hreply =>
                ⟨trivial, hahead, ⟨_, hwrite⟩, hreply⟩
  | remnawave squadUuids =>
      cases call with
      | createUser params =>
          cases hrefused : squadUuids.isEmpty with
          | true =>
              refine iff_of_false ?_ ?_
              · rintro ⟨user, hok⟩
                simp [push, remnawavePush, hrefused] at hok
              · rintro ⟨dto, hgets, -⟩
                exact absurd hgets.permitted (by simp [hrefused])
          | false =>
              simp only [push, remnawavePush, hrefused, Bool.false_eq_true, if_false]
              exact confirm_gets_iff fun dto hreply =>
                ⟨hrefused, hahead, ⟨_, hreply⟩, hreply⟩
      | setUserExpiry username expireAt =>
          simp only [push, remnawavePush, hahead rfl, Bool.false_eq_true, if_false]
          exact confirm_gets_iff fun dto hreply =>
            ⟨trivial, hahead, ⟨_, hreply⟩, hreply⟩

/-! ## What is recorded -/

/-- Phase B completes the row only of a push that returned. -/
theorem pushed_of_recordPush {now opId : ℕ} {pushed : Except Failure PanelUser}
    (hcompletes : Completes (recordPush now opId pushed) opId) :
    ∃ user, pushed = .ok user := by
  obtain ⟨db, after, op, hok, hop, hid, hstatus, hopen⟩ := hcompletes
  cases pushed with
  | ok user => exact ⟨user, rfl⟩
  | error cause =>
      simp only [recordPush, AdsService.recordPushFailed, updatePanelOps,
        modify_ok] at hok
      subst hok
      obtain ⟨old, -, rfl⟩ := mem_updateWhere.mp hop
      by_cases hselected : old.id = opId
      · simp [hselected] at hstatus
      · simp [hselected] at hid

/-- The drainer completes the row only of a push that returned. -/
theorem pushed_of_recordDispatch {cfg : Config} {now : ℕ} {row : OutboxRow}
    {pushed : Except Failure PanelUser}
    (hcompletes : Completes (recordDispatch cfg now row pushed) row.id) :
    ∃ user, pushed = .ok user := by
  obtain ⟨db, after, op, hok, hop, hid, hstatus, hopen⟩ := hcompletes
  cases pushed with
  | ok user => exact ⟨user, rfl⟩
  | error cause =>
      simp only [recordDispatch, recordFailed, updatePanelOps, modify_ok] at hok
      subst hok
      obtain ⟨old, hold, rfl⟩ := mem_updateWhere.mp hop
      cases hselected : old.id == row.id && old.status == .inFlight with
      | true => cases hdead : isDead cfg row cause <;> simp [hselected, hdead] at hstatus
      | false =>
          simp only [hselected, Bool.false_eq_true, if_false] at hid hstatus
          exact absurd hstatus (hopen old hold hid)

/-- A push fails closed exactly if it does not compare a value that is no
date. -/
theorem failsClosed_iff (dateParse : String → Option ℚ) (client : Client)
    (answers : Answers) (call : Push) :
    FailsClosed dateParse client answers call ↔
      ∀ dto, GetsRecord client answers call dto →
        ¬ IsUnreadable dateParse client.provider dto.expiry := by
  constructor
  · intro hclosed dto hgets hunreadable
    obtain ⟨user, hok⟩ := (push_ok_iff hgets.ahead).mpr
      ⟨dto, hgets, passes_iff.mpr (Or.inl hunreadable)⟩
    cases hclosed.returns user hok with
    | inl hnoOp => simp [hgets.ahead hnoOp.1] at hnoOp
    | inr hconfirmed =>
        obtain ⟨other, hother, hconfirms⟩ := hconfirmed
        obtain rfl : other = dto := by
          simpa [hgets.record] using hother.symm
        exact not_confirms_of_unreadable hunreadable hconfirms
  · intro hreadable
    have hsettled : (∃ user, push dateParse client answers call = .ok user) →
        Settled dateParse client answers call := by
      intro hok
      by_cases hnoOp : client.provider = .remnawave ∧
          isPastNoOp answers.now call = true
      · exact Or.inl hnoOp
      · have hahead : client.provider = .remnawave →
            isPastNoOp answers.now call = false := by
          intro hprovider
          simpa [hprovider] using hnoOp
        obtain ⟨dto, hgets, hpasses⟩ := (push_ok_iff hahead).mp hok
        have hconfirms := (passes_iff.mp hpasses).resolve_left (hreadable dto hgets)
        exact Or.inr ⟨dto, hgets.record, hconfirms⟩
    refine ⟨fun user hok => hsettled ⟨user, hok⟩, fun now opId hcompletes => ?_,
      fun cfg now row hcompletes => ?_⟩
    · exact hsettled (pushed_of_recordPush hcompletes)
    · exact hsettled (pushed_of_recordDispatch hcompletes)

end Outcomes

/-- Rebecca answers with an ISO text instead of seconds. -/
theorem iso_text_accepted :
    ¬ FailsClosed isoDate .rebecca
      ⟨0, .ok none, .ok (some ⟨.obj [], .text "2026-01-01T00:00:00Z"⟩)⟩
      (.setUserExpiry "user" 1700000000000) := by
  intro hclosed
  have hunreadable : readSeconds (.text "2026-01-01T00:00:00Z") = .invalid := by
    decide +kernel
  obtain ⟨user, hok⟩ : ∃ user, push isoDate .rebecca
      ⟨0, .ok none, .ok (some ⟨.obj [], .text "2026-01-01T00:00:00Z"⟩)⟩
      (.setUserExpiry "user" 1700000000000) = .ok user := ⟨_, rfl⟩
  cases hclosed.returns user hok with
  | inl hnoOp => cases hnoOp.1
  | inr hconfirmed =>
      obtain ⟨dto, hdto, ms, hms, -⟩ := hconfirmed
      cases hdto
      cases hunreadable.symm.trans hms

end VpnMiddleware.ConfirmedExpiry
