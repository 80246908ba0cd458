import Mathlib.Data.List.Basic

/-!
# Transactions

A transaction reads and changes a store and may throw.  `withTransaction`
commits its changes if it returns and discards all of them if it throws.  The
`_ok` lemmas take a successful run apart statement by statement.
-/

namespace VpnMiddleware.Transaction

abbrev Tx (Store Err : Type) (Result : Type) : Type :=
  StateT Store (Except Err) Result

variable {Store Err Result Other : Type}

/-- Commit on success, roll back on throw. -/
def withTransaction (tx : Tx Store Err Result) (store : Store) :
    Except Err Result × Store :=
  match tx store with
  | .ok (result, after) => (.ok result, after)
  | .error err => (.error err, store)

@[simp]
theorem bind_ok {tx : Tx Store Err Result} {next : Result → Tx Store Err Other}
    {store after : Store} {other : Other} :
    (tx >>= next) store = .ok (other, after) ↔
      ∃ result mid, tx store = .ok (result, mid) ∧
        next result mid = .ok (other, after) := by
  change (Except.bind (tx store) fun outcome => next outcome.1 outcome.2) =
    .ok (other, after) ↔ _
  cases tx store with
  | error err => simp [Except.bind]
  | ok outcome =>
      obtain ⟨result, mid⟩ := outcome
      simp [Except.bind]

@[simp]
theorem pure_ok {result other : Result} {store after : Store} :
    (pure result : Tx Store Err Result) store = .ok (other, after) ↔
      result = other ∧ store = after := by
  change (Except.ok (result, store) : Except Err _) = .ok (other, after) ↔ _
  simp

@[simp]
theorem get_ok {store after read : Store} :
    (get : Tx Store Err Store) store = .ok (read, after) ↔
      store = read ∧ store = after := by
  change (Except.ok (store, store) : Except Err _) = .ok (read, after) ↔ _
  simp

@[simp]
theorem modify_ok {change : Store → Store} {store after : Store}
    {done : PUnit} :
    (modify change : Tx Store Err PUnit) store = .ok (done, after) ↔
      change store = after := by
  change (Except.ok (PUnit.unit, change store) : Except Err _) =
    .ok (done, after) ↔ _
  simp

@[simp]
theorem throw_ok {err : Err} {store after : Store} {result : Result} :
    (throw err : Tx Store Err Result) store = .ok (result, after) ↔ False := by
  change (Except.error err : Except Err _) = .ok (result, after) ↔ _
  simp

/-- `if (!condition) throw err`. -/
def require (condition : Bool) (err : Err) : Tx Store Err PUnit :=
  match condition with
  | true => pure PUnit.unit
  | false => throw err

/-- `if (!value) throw err`, and the value otherwise. -/
def expect (value : Option Result) (err : Err) : Tx Store Err Result :=
  match value with
  | some result => pure result
  | none => throw err

@[simp]
theorem require_ok {condition : Bool} {err : Err} {store after : Store}
    {done : PUnit} :
    (require condition err : Tx Store Err PUnit) store = .ok (done, after) ↔
      condition = true ∧ store = after := by
  cases condition <;> simp [require]

@[simp]
theorem expect_ok {value : Option Result} {err : Err} {store after : Store}
    {result : Result} :
    (expect value err : Tx Store Err Result) store = .ok (result, after) ↔
      value = some result ∧ store = after := by
  cases value <;> simp [expect]

/-- Run a computation that does not use the store. -/
def lift (outcome : Except Err Result) : Tx Store Err Result :=
  match outcome with
  | .ok result => pure result
  | .error err => throw err

@[simp]
theorem lift_ok {outcome : Except Err Result} {store after : Store}
    {result : Result} :
    (lift outcome : Tx Store Err Result) store = .ok (result, after) ↔
      outcome = .ok result ∧ store = after := by
  cases outcome <;> simp [lift]

section Errors

variable {store : Store} {err : Err}

theorem bind_error {tx : Tx Store Err Result} {next : Result → Tx Store Err Other} :
    (tx >>= next) store = .error err ↔ tx store = .error err ∨
      ∃ result mid, tx store = .ok (result, mid) ∧
        next result mid = .error err := by
  change (Except.bind (tx store) fun outcome => next outcome.1 outcome.2) =
    .error err ↔ _
  cases tx store with
  | error cause => simp [Except.bind]
  | ok outcome =>
      obtain ⟨result, mid⟩ := outcome
      simp [Except.bind]

theorem pure_error {result : Result} :
    (pure result : Tx Store Err Result) store = .error err ↔ False := by
  change (Except.ok (result, store) : Except Err _) = .error err ↔ _
  simp

theorem get_error : (get : Tx Store Err Store) store = .error err ↔ False := by
  change (Except.ok (store, store) : Except Err _) = .error err ↔ _
  simp

theorem modify_error {change : Store → Store} :
    (modify change : Tx Store Err PUnit) store = .error err ↔ False := by
  change (Except.ok (PUnit.unit, change store) : Except Err _) =
    .error err ↔ _
  simp

theorem require_error {condition : Bool} {cause : Err} :
    (require condition cause : Tx Store Err PUnit) store = .error err ↔
      condition = false ∧ cause = err := by
  cases condition with
  | true => simp [require, pure_error]
  | false =>
      change (Except.error cause : Except Err _) = .error err ↔ _
      simp

end Errors

/-! ## Running a transaction -/

section Running

variable {store mid : Store} {err : Err} {result : Result}
variable {next : Result → Tx Store Err Other}

/-- A statement that succeeds hands its result on. -/
theorem bind_of_ok {tx : Tx Store Err Result}
    (hrun : tx store = .ok (result, mid)) :
    (tx >>= next) store = next result mid := by
  change Except.bind (tx store) (fun outcome => next outcome.1 outcome.2) = _
  rw [hrun]
  rfl

/-- A statement that throws ends the transaction. -/
theorem bind_of_error {tx : Tx Store Err Result}
    (hrun : tx store = .error err) : (tx >>= next) store = .error err := by
  change Except.bind (tx store) (fun outcome => next outcome.1 outcome.2) = _
  rw [hrun]
  rfl

@[simp]
theorem run_get_bind {next : Store → Tx Store Err Other} :
    ((get : Tx Store Err Store) >>= next) store = next store store := rfl

@[simp]
theorem run_modify_bind {change : Store → Store}
    {next : PUnit → Tx Store Err Other} :
    ((modify change : Tx Store Err PUnit) >>= next) store =
      next PUnit.unit (change store) := rfl

@[simp]
theorem run_expect_bind :
    ((expect (some result) err : Tx Store Err Result) >>= next) store =
      next result store := rfl

@[simp]
theorem run_require_bind {next : PUnit → Tx Store Err Other} :
    ((require true err : Tx Store Err PUnit) >>= next) store =
      next PUnit.unit store := rfl

@[simp]
theorem run_refused_bind {next : PUnit → Tx Store Err Other} :
    ((require false err : Tx Store Err PUnit) >>= next) store = .error err := rfl

@[simp]
theorem run_missing_bind :
    ((expect none err : Tx Store Err Result) >>= next) store = .error err := rfl

end Running

theorem withTransaction_of_ok {tx : Tx Store Err Result} {store after : Store}
    {result : Result} (hrun : tx store = .ok (result, after)) :
    withTransaction tx store = (.ok result, after) := by
  rw [withTransaction, hrun]

theorem withTransaction_of_error {tx : Tx Store Err Result} {store : Store}
    {err : Err} (hrun : tx store = .error err) :
    withTransaction tx store = (.error err, store) := by
  rw [withTransaction, hrun]

/-- A transaction that commits, or one that changes nothing. -/
theorem withTransaction_cases (tx : Tx Store Err Result) (store : Store) :
    (∃ result after, tx store = .ok (result, after) ∧
      withTransaction tx store = (.ok result, after)) ∨
    ∃ cause, withTransaction tx store = (.error cause, store) := by
  cases hrun : tx store with
  | ok outcome => exact Or.inl ⟨_, _, rfl, withTransaction_of_ok hrun⟩
  | error cause => exact Or.inr ⟨_, withTransaction_of_error hrun⟩

/-- What is there afterwards: what was there, or what the transaction left. -/
theorem withTransaction_store (tx : Tx Store Err Result) (store : Store) :
    (withTransaction tx store).2 = store ∨
      ∃ result, tx store = .ok (result, (withTransaction tx store).2) := by
  rcases withTransaction_cases tx store with
    ⟨result, after, hrun, hcommit⟩ | ⟨cause, hthrown⟩
  · rw [hcommit]
    exact Or.inr ⟨result, hrun⟩
  · rw [hthrown]
    exact Or.inl rfl

/-- A committed transaction ran to its end. -/
theorem withTransaction_ok {tx : Tx Store Err Result} {store after : Store}
    {result : Result} (hcommit : withTransaction tx store = (.ok result, after)) :
    tx store = .ok (result, after) := by
  rw [withTransaction] at hcommit
  split at hcommit
  · rename_i heq
    simp only [Prod.mk.injEq, Except.ok.injEq] at hcommit
    obtain ⟨rfl, rfl⟩ := hcommit
    exact heq
  · simp at hcommit

/-- A transaction that throws changes nothing. -/
theorem withTransaction_error {tx : Tx Store Err Result} {store after : Store}
    {err : Err} (hthrow : withTransaction tx store = (.error err, after)) :
    after = store := by
  rw [withTransaction] at hthrow
  split at hthrow
  · simp at hthrow
  · simp only [Prod.mk.injEq] at hthrow
    exact hthrow.2.symm

end VpnMiddleware.Transaction
