import Mathlib.Data.List.Basic

/-!
# Guarded transition systems and recorded runs

A system is a set of initial states and a partial step function.  A run keeps
the list of its steps, each with the state it was taken from, so that a
property of a run can speak about the steps (a condition that every step
meets, how often an event happened) without ghost fields in the state.
-/

namespace VpnMiddleware.TransitionSystem

/-- Initial states and a step function; `none` is a disabled action. -/
structure System (State Action : Type*) where
  init : State → Prop
  step : State → Action → Option State

variable {State Action : Type*}

/-- `Run sys start trace last`: the steps of `trace`, in order, lead from
`start` to `last`.  Each entry is the state before the step and its action. -/
inductive Run (sys : System State Action) (start : State) :
    List (State × Action) → State → Prop
  | refl : Run sys start [] start
  | snoc {trace : List (State × Action)} {mid last : State} {act : Action} :
      Run sys start trace mid → sys.step mid act = some last →
        Run sys start (trace ++ [(mid, act)]) last

/-- A predicate holds in every state of a run. -/
def Always (P : State → Prop) (trace : List (State × Action))
    (last : State) : Prop :=
  (∀ entry ∈ trace, P entry.1) ∧ P last

/-- The state from which the rest of a run goes on. -/
def stateAt : List (State × Action) → State → State
  | [], last => last
  | entry :: _, _ => entry.1

/-! ## Events of a run -/

/-- Some step of a run was such an event, with the run before it. -/
def Earlier (trace : List (State × Action))
    (Event : List (State × Action) → State → Action → Prop) : Prop :=
  ∃ before state act after,
    trace = before ++ (state, act) :: after ∧ Event before state act

section Events

variable {trace : List (State × Action)}
variable {Event Event' : List (State × Action) → State → Action → Prop}

/-- What happened remains so. -/
theorem Earlier.append (hearlier : Earlier trace Event)
    (more : List (State × Action)) : Earlier (trace ++ more) Event := by
  obtain ⟨before, state, act, after, rfl, hevent⟩ := hearlier
  exact ⟨before, state, act, after ++ more, by simp, hevent⟩

theorem Earlier.last {state : State} {act : Action}
    (hevent : Event trace state act) :
    Earlier (trace ++ [(state, act)]) Event :=
  ⟨trace, state, act, [], rfl, hevent⟩

theorem Earlier.imp (hearlier : Earlier trace Event)
    (himp : ∀ before state act, Event before state act →
      Event' before state act) : Earlier trace Event' := by
  obtain ⟨before, state, act, after, htrace, hevent⟩ := hearlier
  exact ⟨before, state, act, after, htrace, himp _ _ _ hevent⟩

end Events

namespace Run

variable {sys : System State Action} {start last : State}
variable {trace : List (State × Action)}

/-- Induction over a run, for properties of its trace and last state. -/
theorem induction_on {Inv : List (State × Action) → State → Prop}
    (hrun : Run sys start trace last) (hstart : Inv [] start)
    (hstep : ∀ trace state act next, Inv trace state →
      sys.step state act = some next → Inv (trace ++ [(state, act)]) next) :
    Inv trace last := by
  induction hrun with
  | refl => exact hstart
  | snoc _ hlast ih => exact hstep _ _ _ _ ih hlast

/-- The invariant rule for runs whose steps all meet a guard. -/
theorem invariant_of_guard {Inv : State → Prop} {guard : State → Action → Prop}
    (hrun : Run sys start trace last) (hstart : Inv start)
    (hstep : ∀ state act next, Inv state → guard state act →
      sys.step state act = some next → Inv next)
    (hguard : ∀ entry ∈ trace, guard entry.1 entry.2) : Inv last := by
  induction hrun with
  | refl => exact hstart
  | @snoc trace mid last act _ hlast ih =>
      have hbefore := ih fun entry hentry =>
        hguard entry (List.mem_append_left _ hentry)
      exact hstep _ _ _ hbefore (hguard (mid, act) (by simp)) hlast

/-- The invariant rule. -/
theorem invariant {Inv : State → Prop} (hrun : Run sys start trace last)
    (hstart : Inv start)
    (hstep : ∀ state act next, Inv state →
      sys.step state act = some next → Inv next) : Inv last :=
  @invariant_of_guard _ _ _ _ _ _ Inv (fun _ _ => True) hrun hstart
    (fun state act next hinv _ hnext => hstep state act next hinv hnext)
    fun _ _ => trivial

/-- Every recorded step is a step of the system, taken from a state that a
prefix of the run reaches. -/
theorem exists_prefix (hrun : Run sys start trace last)
    {entry : State × Action} (hentry : entry ∈ trace) :
    ∃ before after next, trace = before ++ entry :: after ∧
      Run sys start before entry.1 ∧
      sys.step entry.1 entry.2 = some next := by
  induction hrun with
  | refl => simp at hentry
  | @snoc trace mid last act hearlier hlast ih =>
      rcases List.mem_append.mp hentry with hold | hnew
      · obtain ⟨before, after, next, htrace, hbefore, hnext⟩ := ih hold
        exact ⟨before, after ++ [(mid, act)], next, by simp [htrace],
          hbefore, hnext⟩
      · rw [List.mem_singleton] at hnew
        subst hnew
        exact ⟨trace, [], last, rfl, hearlier, hlast⟩

/-- A run splits at each of its steps into the run before it and the run from
the state after it. -/
theorem exists_split {before after : List (State × Action)}
    {entry : State × Action} (hrun : Run sys start (before ++ entry :: after) last) :
    ∃ next, Run sys start before entry.1 ∧
      sys.step entry.1 entry.2 = some next ∧ Run sys next after last := by
  generalize htrace : before ++ entry :: after = trace at hrun
  induction hrun generalizing after with
  | refl => simp at htrace
  | @snoc trace mid last act hearlier hlast ih =>
      rcases List.eq_nil_or_concat after with rfl | ⟨init, final, rfl⟩
      · obtain ⟨rfl, heq⟩ := List.append_inj' htrace rfl
        obtain rfl := List.singleton_inj.mp heq
        exact ⟨last, hearlier, hlast, Run.refl⟩
      · rw [List.concat_eq_append, ← List.cons_append, ← List.append_assoc] at htrace
        obtain ⟨rfl, heq⟩ := List.append_inj' htrace rfl
        obtain rfl := List.singleton_inj.mp heq
        obtain ⟨next, hbefore, hnext, hafter⟩ := ih rfl
        refine ⟨next, hbefore, hnext, ?_⟩
        rw [List.concat_eq_append]
        exact Run.snoc hafter hlast

/-- The first steps of a run are a run. -/
theorem initial {before after : List (State × Action)}
    (hrun : Run sys start (before ++ after) last) :
    Run sys start before (stateAt after last) := by
  cases after with
  | nil =>
      rw [List.append_nil] at hrun
      exact hrun
  | cons entry after =>
      obtain ⟨_, hbefore, -, -⟩ := hrun.exists_split
      exact hbefore

/-- An invariant of guarded runs holds in every state of such a run. -/
theorem always_of_guard {Inv : State → Prop} {guard : State → Action → Prop}
    (hrun : Run sys start trace last) (hstart : Inv start)
    (hstep : ∀ state act next, Inv state → guard state act →
      sys.step state act = some next → Inv next)
    (hguard : ∀ entry ∈ trace, guard entry.1 entry.2) :
    Always Inv trace last := by
  refine ⟨?_, hrun.invariant_of_guard hstart hstep hguard⟩
  intro entry hentry
  obtain ⟨before, after, _, htrace, hbefore, _⟩ := hrun.exists_prefix hentry
  refine hbefore.invariant_of_guard hstart hstep fun other hother => ?_
  exact hguard other (htrace ▸ List.mem_append_left _ hother)

/-- An invariant holds in every state of a run. -/
theorem always {Inv : State → Prop} (hrun : Run sys start trace last)
    (hstart : Inv start)
    (hstep : ∀ state act next, Inv state →
      sys.step state act = some next → Inv next) : Always Inv trace last :=
  @always_of_guard _ _ _ _ _ _ Inv (fun _ _ => True) hrun hstart
    (fun state act next hinv _ hnext => hstep state act next hinv hnext)
    fun _ _ => trivial

/-- A property of single steps holds of every step of a run once an invariant
of the guarded run implies it. -/
theorem forall_steps {Inv : State → Prop} {guard : State → Action → Prop}
    {Law : State → Action → State → Prop}
    (hrun : Run sys start trace last) (hstart : Inv start)
    (hstep : ∀ state act next, Inv state → guard state act →
      sys.step state act = some next → Inv next)
    (hlaw : ∀ state act next, Inv state → guard state act →
      sys.step state act = some next → Law state act next)
    (hguard : ∀ entry ∈ trace, guard entry.1 entry.2) :
    ∀ entry ∈ trace, ∀ next, sys.step entry.1 entry.2 = some next →
      Law entry.1 entry.2 next := by
  intro entry hentry next hnext
  have hinv := (hrun.always_of_guard hstart hstep hguard).1 entry hentry
  exact hlaw _ _ _ hinv (hguard entry hentry) hnext

/-- A transitive relation that every step respects leads from each recorded
state to the last one. -/
theorem relates_last {Inv : State → Prop} {guard : State → Action → Prop}
    {Rel : State → State → Prop} (hrun : Run sys start trace last)
    (hstart : Inv start)
    (hstep : ∀ state act next, Inv state → guard state act →
      sys.step state act = some next → Inv next)
    (htrans : ∀ first mid next, Rel first mid → Rel mid next → Rel first next)
    (hrel : ∀ state act next, Inv state → guard state act →
      sys.step state act = some next → Rel state next)
    (hguard : ∀ entry ∈ trace, guard entry.1 entry.2) :
    ∀ entry ∈ trace, Rel entry.1 last := by
  induction hrun with
  | refl => simp
  | @snoc trace mid last act hearlier hlast ih =>
      have hbefore : ∀ entry ∈ trace, guard entry.1 entry.2 :=
        fun entry hentry => hguard entry (List.mem_append_left _ hentry)
      have hinv := hearlier.invariant_of_guard hstart hstep hbefore
      have hnew := hrel mid act last hinv (hguard (mid, act) (by simp)) hlast
      intro entry hentry
      rcases List.mem_append.mp hentry with hold | hmem
      · exact htrans _ _ _ (ih hbefore entry hold) hnew
      · rw [List.mem_singleton] at hmem
        exact hmem ▸ hnew

/-- The first state of a run is one of its states. -/
theorem always_start {P : State → Prop} (hrun : Run sys start trace last)
    (halways : Always P trace last) : P start := by
  induction hrun with
  | refl => exact halways.2
  | @snoc trace mid last act _ _ ih =>
      apply ih
      refine ⟨fun other hother => ?_, ?_⟩
      · exact halways.1 other (List.mem_append_left _ hother)
      · exact halways.1 (mid, act) (by simp)

/-- The successor of a recorded step is a state of the run. -/
theorem always_next {P : State → Prop} (hrun : Run sys start trace last)
    (halways : Always P trace last) {entry : State × Action}
    (hentry : entry ∈ trace) {next : State}
    (hnext : sys.step entry.1 entry.2 = some next) : P next := by
  induction hrun with
  | refl => simp at hentry
  | @snoc trace mid last act hearlier hlast ih =>
      rcases List.mem_append.mp hentry with hold | hnew
      · refine ih ⟨fun other hother => ?_, ?_⟩ hold
        · exact halways.1 other (List.mem_append_left _ hother)
        · exact halways.1 (mid, act) (by simp)
      · rw [List.mem_singleton] at hnew
        subst hnew
        rw [hlast, Option.some.injEq] at hnext
        exact hnext ▸ halways.2

end Run

/-- Execute a list of actions; `none` if one of them is disabled. -/
def execute (sys : System State Action) :
    State → List Action → Option State
  | state, [] => some state
  | state, act :: acts =>
      match sys.step state act with
      | none => none
      | some next => execute sys next acts

/-- The trace of an execution, up to the first disabled action. -/
def traceOf (sys : System State Action) :
    State → List Action → List (State × Action)
  | _, [] => []
  | state, act :: acts =>
      match sys.step state act with
      | none => []
      | some next => (state, act) :: traceOf sys next acts

/-- The trace records actions of the execution. -/
theorem mem_traceOf {sys : System State Action} {acts : List Action} :
    ∀ {start : State}, ∀ entry ∈ traceOf sys start acts, entry.2 ∈ acts := by
  induction acts with
  | nil =>
      intro start entry hentry
      cases hentry
  | cons act acts ih =>
      intro start entry hentry
      cases hnext : sys.step start act with
      | none =>
          rw [traceOf, hnext] at hentry
          cases hentry
      | some next =>
          rw [traceOf, hnext] at hentry
          rcases List.mem_cons.mp hentry with rfl | hlater
          · exact List.mem_cons_self
          · exact List.mem_cons_of_mem _ (ih entry hlater)

private theorem run_cons {sys : System State Action} {state next last : State}
    {act : Action} {trace : List (State × Action)}
    (hnext : sys.step state act = some next) (hrun : Run sys next trace last) :
    Run sys state ((state, act) :: trace) last := by
  induction hrun with
  | refl => exact @Run.snoc _ _ sys state [] _ _ _ Run.refl hnext
  | snoc _ hlast ih =>
      rw [← List.cons_append]
      exact Run.snoc ih hlast

/-- An execution that does not get stuck is a run. -/
theorem run_of_execute {sys : System State Action} {acts : List Action} :
    ∀ {start last : State}, execute sys start acts = some last →
      Run sys start (traceOf sys start acts) last := by
  induction acts with
  | nil =>
      intro start last hlast
      simp only [execute, Option.some.injEq] at hlast
      subst hlast
      exact Run.refl
  | cons act acts ih =>
      intro start last hlast
      cases hnext : sys.step start act with
      | none => simp [execute, hnext] at hlast
      | some next =>
          simp only [execute, hnext] at hlast
          simp only [traceOf, hnext]
          exact run_cons hnext (ih hlast)

/-- An execution whose last state passes a test. -/
theorem exists_run_with {sys : System State Action} {start : State}
    {acts : List Action} {Test : State → Prop} [∀ last, Decidable (Test last)]
    (htest : (execute sys start acts).any (fun last => decide (Test last)) =
      true) : ∃ last, Run sys start (traceOf sys start acts) last ∧ Test last := by
  obtain ⟨last, hlast, htest⟩ := (Option.any_eq_true _ _).mp htest
  exact ⟨last, run_of_execute hlast, of_decide_eq_true htest⟩

theorem exists_run_of_isSome {sys : System State Action} {start : State}
    {acts : List Action} (hsome : (execute sys start acts).isSome = true) :
    ∃ last, Run sys start (traceOf sys start acts) last := by
  obtain ⟨last, hlast⟩ := Option.isSome_iff_exists.mp hsome
  exact ⟨last, run_of_execute hlast⟩

/-- An execution followed by one more step, with a test of the two states. -/
theorem exists_run_of_execute {sys : System State Action} {start : State}
    {acts : List Action} {act : Action} {Test : State → State → Prop}
    [∀ mid last, Decidable (Test mid last)]
    (htest : (execute sys start acts).any (fun mid =>
      (sys.step mid act).any fun last => decide (Test mid last)) = true) :
    ∃ mid last, Run sys start (traceOf sys start acts ++ [(mid, act)]) last ∧
      sys.step mid act = some last ∧ Test mid last := by
  obtain ⟨mid, hmid, htest⟩ := (Option.any_eq_true _ _).mp htest
  obtain ⟨last, hlast, htest⟩ := (Option.any_eq_true _ _).mp htest
  exact ⟨mid, last, Run.snoc (run_of_execute hmid) hlast, hlast,
    of_decide_eq_true htest⟩

end VpnMiddleware.TransitionSystem
