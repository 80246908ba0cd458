import Mathlib.Logic.Function.Basic
import Mathlib.Tactic.SplitIfs
import VpnMiddleware.Common.Environment
import VpnMiddleware.Common.Errors
import VpnMiddleware.Panel.PanelTypes

/-!
# The panel as the services see it

A panel is a map from usernames to accounts.  `serve` is what a call of an
`IPanelClient` does to it and returns when the network is up; `exchange` adds
the network: a failing call may or may not have taken effect.
-/

namespace VpnMiddleware.IdealPanel

open VpnMiddleware.Environment VpnMiddleware.Errors VpnMiddleware.PanelTypes

/-- A panel user: whether it may connect, and its stored expiry. -/
structure Account where
  enabled : Bool
  expireAt : ℕ
  deriving DecidableEq, Repr

abbrev Panel := String → Option Account

/-- The calls that the services make on a user. -/
inductive PanelCall
  | createUser (params : CreateUserParams)
  | setUserExpiry (username : String) (expireAt : ℕ)
  | getUser (username : String)
  | disableUser (username : String)
  | deleteUser (username : String)
  deriving DecidableEq, Repr

def expireDriftToleranceMs : ℕ := 2000

/-- The expiry that the panel stores: Rebecca keeps whole seconds. -/
def storedExpiry (provider : Provider) (expireAt : ℕ) : ℕ :=
  match provider with
  | .rebecca => expireAt / 1000 * 1000
  | .remnawave => expireAt

def vanished (username context : String) : Failure :=
  .panel { message := "user " ++ username ++ " vanished " ++ context }

/-- Remnawave answers a push of an instant that has passed with the current
user. -/
def isPastNoOp (provider : Provider) (now expireAt : ℕ) : Bool :=
  provider == .remnawave && decide (expireAt ≤ now + expireDriftToleranceMs)

/-- The account after a push; Remnawave also enables it. -/
def pushedAccount (provider : Provider) (expireAt : ℕ) (account : Account) :
    Account :=
  let enabled := match provider with
    | .rebecca => account.enabled
    | .remnawave => true
  ⟨enabled, storedExpiry provider expireAt⟩

def setUserExpiry (provider : Provider) (now : ℕ) (username : String)
    (expireAt : ℕ) (panel : Panel) : Except Failure (Option Account) × Panel :=
  match panel username with
  | none =>
      if isPastNoOp provider now expireAt then
        (.error (vanished username "during past-expiry no-op"), panel)
      else (.error (vanished username "after expiry update"), panel)
  | some account =>
      if isPastNoOp provider now expireAt then (.ok (some account), panel)
      else
        let updated := pushedAccount provider expireAt account
        (.ok (some updated), Function.update panel username (some updated))

def serve (provider : Provider) (now : ℕ) (call : PanelCall)
    (panel : Panel) : Except Failure (Option Account) × Panel :=
  match call with
  | .createUser params =>
      let account := ⟨true, storedExpiry provider params.expireAt⟩
      (.ok (some account), Function.update panel params.username (some account))
  | .setUserExpiry username expireAt =>
      setUserExpiry provider now username expireAt panel
  | .getUser username => (.ok (panel username), panel)
  | .disableUser username =>
      (.ok none, Function.update panel username
        ((panel username).map fun account => { account with enabled := false }))
  | .deleteUser username => (.ok none, Function.update panel username none)

/-- A push changes an existing account, unless it is a no-op. -/
theorem setUserExpiry_panel {provider : Provider} {now : ℕ} {username : String}
    {expireAt : ℕ} {panel : Panel} :
    (setUserExpiry provider now username expireAt panel).2 =
      if isPastNoOp provider now expireAt then panel
      else Function.update panel username
        ((panel username).map (pushedAccount provider expireAt)) := by
  rw [setUserExpiry]
  cases haccount : panel username with
  | none =>
      have hsame : Function.update panel username none = panel :=
        haccount ▸ Function.update_eq_self username panel
      by_cases hpast : isPastNoOp provider now expireAt = true <;>
        simp [hpast, hsame]
  | some account =>
      by_cases hpast : isPastNoOp provider now expireAt = true <;> simp [hpast]

theorem storedExpiry_seconds (provider : Provider) (expireAt : ℕ) :
    storedExpiry provider expireAt / 1000 = expireAt / 1000 := by
  cases provider with
  | rebecca => exact Nat.mul_div_cancel _ (by decide)
  | remnawave => rfl

/-- A user is created, or it existed: with the same expiry or with one that
`setUserExpiry` replaced. -/
inductive ServedAccount (provider : Provider) (now : ℕ) (call : PanelCall)
    (panel : Panel) (username : String) (account : Account) : Prop
  | kept (old : Account) : panel username = some old →
      account.expireAt = old.expireAt →
      ServedAccount provider now call panel username account
  | created (params : CreateUserParams) : call = .createUser params →
      params.username = username →
      account.expireAt = storedExpiry provider params.expireAt →
      ServedAccount provider now call panel username account
  | pushed (old : Account) (expireAt : ℕ) : panel username = some old →
      call = .setUserExpiry username expireAt →
      isPastNoOp provider now expireAt = false →
      account.expireAt = storedExpiry provider expireAt →
      ServedAccount provider now call panel username account

theorem servedAccount {provider : Provider} {now : ℕ} {call : PanelCall}
    {panel : Panel} {username : String} {account : Account}
    (hserve : (serve provider now call panel).2 username = some account) :
    ServedAccount provider now call panel username account := by
  cases call with
  | createUser params =>
      by_cases husername : username = params.username
      · subst husername
        simp only [serve, Function.update_self, Option.some.injEq] at hserve
        exact .created params rfl rfl (hserve ▸ rfl)
      · simp only [serve, Function.update_of_ne husername] at hserve
        exact .kept account hserve rfl
  | setUserExpiry other expireAt =>
      simp only [serve, setUserExpiry_panel] at hserve
      by_cases hpast : isPastNoOp provider now expireAt = true
      · rw [if_pos hpast] at hserve
        exact .kept account hserve rfl
      · rw [if_neg hpast] at hserve
        by_cases husername : username = other
        · subst husername
          simp only [Function.update_self, Option.map_eq_some_iff] at hserve
          obtain ⟨old, hold, rfl⟩ := hserve
          exact .pushed old expireAt hold rfl (by simpa using hpast) rfl
        · rw [Function.update_of_ne husername] at hserve
          exact .kept account hserve rfl
  | getUser other => exact .kept account hserve rfl
  | disableUser other =>
      by_cases husername : username = other
      · subst husername
        simp only [serve, Function.update_self, Option.map_eq_some_iff] at hserve
        obtain ⟨old, hold, rfl⟩ := hserve
        exact .kept old hold rfl
      · simp only [serve, Function.update_of_ne husername] at hserve
        exact .kept account hserve rfl
  | deleteUser other =>
      by_cases husername : username = other
      · simp [serve, husername] at hserve
      · simp only [serve, Function.update_of_ne husername] at hserve
        exact .kept account hserve rfl

/-- Only `createUser` makes a user. -/
theorem exists_of_serve {provider : Provider} {now : ℕ} {call : PanelCall}
    {panel : Panel} {username : String} {account : Account}
    (hserve : (serve provider now call panel).2 username = some account) :
    (∃ old, panel username = some old) ∨
      ∃ params, call = .createUser params ∧ params.username = username := by
  cases servedAccount hserve with
  | kept old hold _ => exact Or.inl ⟨old, hold⟩
  | created params hcall husername _ => exact Or.inr ⟨params, hcall, husername⟩
  | pushed old _ hold _ _ _ => exact Or.inl ⟨old, hold⟩

/-- Only `deleteUser` removes a user. -/
theorem serve_ne_none {provider : Provider} {now : ℕ} {call : PanelCall}
    {panel : Panel} {username : String} (haccount : panel username ≠ none)
    (hcall : call ≠ .deleteUser username) :
    (serve provider now call panel).2 username ≠ none := by
  obtain ⟨account, haccount⟩ := Option.ne_none_iff_exists'.mp haccount
  cases call with
  | createUser params =>
      by_cases husername : username = params.username
      · simp [serve, husername]
      · simp [serve, Function.update_of_ne husername, haccount]
  | setUserExpiry other expireAt =>
      simp only [serve, setUserExpiry_panel]
      split_ifs
      · simp [haccount]
      · by_cases husername : username = other
        · subst husername
          simp [haccount]
        · simp [Function.update_of_ne husername, haccount]
  | getUser other => simp [serve, haccount]
  | disableUser other =>
      by_cases husername : username = other
      · subst husername
        simp [serve, haccount]
      · simp [serve, Function.update_of_ne husername, haccount]
  | deleteUser other =>
      have husername : username ≠ other := fun heq => hcall (heq ▸ rfl)
      simp [serve, Function.update_of_ne husername, haccount]

/-- A push succeeds only for an existing user. -/
theorem exists_of_setUserExpiry {provider : Provider} {now : ℕ}
    {username : String} {expireAt : ℕ} {panel : Panel} {account : Option Account}
    (hok : (serve provider now (.setUserExpiry username expireAt) panel).1 =
      .ok account) : panel username ≠ none := by
  intro hnone
  simp only [serve, setUserExpiry, hnone] at hok
  split_ifs at hok

/-- The panel holds the user and lets it connect. -/
def isEnabled (panel : Panel) (username : String) : Bool :=
  (panel username).any Account.enabled

/-- A user is enabled by its creation or by a push to Remnawave, or it was
enabled and is not being disabled. -/
inductive ServedEnabled (provider : Provider) (now : ℕ) (call : PanelCall)
    (panel : Panel) (username : String) : Prop
  | kept : isEnabled panel username = true → call ≠ .disableUser username →
      ServedEnabled provider now call panel username
  | created (params : CreateUserParams) : call = .createUser params →
      params.username = username →
      ServedEnabled provider now call panel username
  | pushed (expireAt : ℕ) : call = .setUserExpiry username expireAt →
      isPastNoOp provider now expireAt = false → panel username ≠ none →
      provider = .remnawave → ServedEnabled provider now call panel username

theorem servedEnabled {provider : Provider} {now : ℕ} {call : PanelCall}
    {panel : Panel} {username : String}
    (henabled : isEnabled (serve provider now call panel).2 username = true) :
    ServedEnabled provider now call panel username := by
  cases call with
  | createUser params =>
      by_cases husername : username = params.username
      · exact .created params rfl husername.symm
      · simp only [isEnabled, serve, Function.update_of_ne husername] at henabled
        exact .kept henabled (by simp)
  | setUserExpiry other expireAt =>
      simp only [isEnabled, serve, setUserExpiry_panel] at henabled
      by_cases hpast : isPastNoOp provider now expireAt = true
      · rw [if_pos hpast] at henabled
        exact .kept henabled (by simp)
      · rw [if_neg hpast] at henabled
        by_cases husername : username = other
        · subst husername
          rw [Function.update_self] at henabled
          cases haccount : panel username with
          | none => simp [haccount] at henabled
          | some account =>
              cases provider with
              | rebecca =>
                  simp only [haccount, Option.map_some, Option.any_some,
                    pushedAccount] at henabled
                  exact .kept (by simp [isEnabled, haccount, henabled]) (by simp)
              | remnawave =>
                  exact .pushed expireAt rfl (by simpa using hpast)
                    (by simp [haccount]) rfl
        · rw [Function.update_of_ne husername] at henabled
          exact .kept henabled (by simp)
  | getUser other => exact .kept henabled (by simp)
  | disableUser other =>
      by_cases husername : username = other
      · subst husername
        cases haccount : panel username <;>
          simp [isEnabled, serve, haccount] at henabled
      · simp only [isEnabled, serve, Function.update_of_ne husername] at henabled
        exact .kept henabled (by simpa using Ne.symm husername)
  | deleteUser other =>
      by_cases husername : username = other
      · simp [isEnabled, serve, husername] at henabled
      · simp only [isEnabled, serve, Function.update_of_ne husername] at henabled
        exact .kept henabled (by simp)

/-- Only `disableUser` disables a user. -/
theorem servedDisabled {provider : Provider} {now : ℕ} {call : PanelCall}
    {panel : Panel} {username : String} {account : Account}
    (hserve : (serve provider now call panel).2 username = some account)
    (hdisabled : account.enabled = false) :
    (∃ old, panel username = some old ∧ old.enabled = false) ∨
      call = .disableUser username ∧ panel username ≠ none := by
  cases call with
  | createUser params =>
      by_cases husername : username = params.username
      · subst husername
        simp only [serve, Function.update_self, Option.some.injEq] at hserve
        rw [← hserve] at hdisabled
        simp at hdisabled
      · simp only [serve, Function.update_of_ne husername] at hserve
        exact Or.inl ⟨account, hserve, hdisabled⟩
  | setUserExpiry other expireAt =>
      simp only [serve, setUserExpiry_panel] at hserve
      by_cases hpast : isPastNoOp provider now expireAt = true
      · rw [if_pos hpast] at hserve
        exact Or.inl ⟨account, hserve, hdisabled⟩
      · rw [if_neg hpast] at hserve
        by_cases husername : username = other
        · subst husername
          simp only [Function.update_self, Option.map_eq_some_iff] at hserve
          obtain ⟨old, hold, rfl⟩ := hserve
          cases provider with
          | rebecca => exact Or.inl ⟨old, hold, hdisabled⟩
          | remnawave => simp [pushedAccount] at hdisabled
        · rw [Function.update_of_ne husername] at hserve
          exact Or.inl ⟨account, hserve, hdisabled⟩
  | getUser other => exact Or.inl ⟨account, hserve, hdisabled⟩
  | disableUser other =>
      by_cases husername : username = other
      · subst husername
        simp only [serve, Function.update_self, Option.map_eq_some_iff] at hserve
        obtain ⟨old, hold, -⟩ := hserve
        exact Or.inr ⟨rfl, by simp [hold]⟩
      · simp only [serve, Function.update_of_ne husername] at hserve
        exact Or.inl ⟨account, hserve, hdisabled⟩
  | deleteUser other =>
      by_cases husername : username = other
      · simp [serve, husername] at hserve
      · simp only [serve, Function.update_of_ne husername] at hserve
        exact Or.inl ⟨account, hserve, hdisabled⟩

/-- What comes back from a call over the network or to the database: its
answer, or a failure after the call took effect or before. -/
inductive Reply
  | ok
  | fail (applied : Bool) (cause : Failure)
  deriving DecidableEq, Repr

/-- The call took effect, whatever was reported back. -/
def Reply.applies : Reply → Bool
  | .ok => true
  | .fail applied _ => applied

def exchange (provider : Provider) (now : ℕ) (call : PanelCall) (reply : Reply)
    (panel : Panel) : Except Failure (Option Account) × Panel :=
  let outcome := serve provider now call panel
  match reply with
  | .ok => outcome
  | .fail applied cause => (.error cause, if applied then outcome.2 else panel)

end VpnMiddleware.IdealPanel
