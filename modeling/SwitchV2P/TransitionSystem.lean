import Mathlib.Logic.Relation

/-!
# Partial deterministic transition systems

A system is a partial step function: an action either takes the system from
one state to the next or is not enabled.  A run is a sequence of enabled steps,
each of which also meets an environment assumption.  Runs remember the states
they visited, so that a property may speak about an earlier moment.

Everything here is independent of the system that is being verified.
-/

universe u v w

/-- A state space with one partial step function. -/
structure TransitionSystem (State : Type u) (Action : Type v) where
  /-- The successor of a state under an action, if the action is enabled. -/
  step : State → Action → Option State

namespace TransitionSystem

variable {State : Type u} {Action : Type v}

/-- Perform a list of actions, stopping as soon as one is not enabled. -/
def run?
    (system : TransitionSystem State Action) :
    State → List Action → Option State
  | state, [] => some state
  | state, action :: rest =>
      match system.step state action with
      | some next => system.run? next rest
      | none => none

/--
A run from `initial` whose every step is allowed by the environment.

The list holds every state visited so far, the latest first.
-/
inductive Run
    (system : TransitionSystem State Action)
    (allowed : State → Action → Prop)
    (initial : State) :
    List State → State → Prop where
  | start :
      Run system allowed initial [initial] initial
  | step
      {visited : List State}
      {state next : State}
      {action : Action}
      (earlier : Run system allowed initial visited state)
      (permitted : allowed state action)
      (stepped : system.step state action = some next) :
      Run system allowed initial (next :: visited) next

/-- A state is reachable when some run ends in it. -/
def Reachable
    (system : TransitionSystem State Action)
    (allowed : State → Action → Prop)
    (initial state : State) : Prop :=
  ∃ visited, system.Run allowed initial visited state

namespace Run

variable
  {system : TransitionSystem State Action}
  {allowed : State → Action → Prop}
  {initial : State}

/-- The current state is among the visited ones. -/
theorem current_mem
    {visited : List State}
    {state : State}
    (run : system.Run allowed initial visited state) :
    state ∈ visited := by
  cases run with
  | start => simp
  | step earlier permitted stepped => simp

/--
A predicate on the visited states and the current state holds along a run when
it holds at the start and every allowed step preserves it.
-/
theorem invariant
    (holds : List State → State → Prop)
    (atStart : holds [initial] initial)
    (preserved :
      ∀ {visited state action next},
        system.Run allowed initial visited state →
        holds visited state →
        allowed state action →
        system.step state action = some next →
        holds (next :: visited) next)
    {visited : List State}
    {state : State}
    (run : system.Run allowed initial visited state) :
    holds visited state := by
  induction run with
  | start => exact atStart
  | step earlier permitted stepped inductionHypothesis =>
      exact preserved earlier inductionHypothesis permitted stepped

/-- Weakening the environment assumption keeps every run. -/
theorem mono
    {weaker : State → Action → Prop}
    (weakens : ∀ state action, allowed state action → weaker state action)
    {visited : List State}
    {state : State}
    (run : system.Run allowed initial visited state) :
    system.Run weaker initial visited state := by
  induction run with
  | start => exact .start
  | step earlier permitted stepped inductionHypothesis =>
      exact .step inductionHypothesis (weakens _ _ permitted) stepped

end Run

namespace Reachable

variable
  {system : TransitionSystem State Action}
  {allowed : State → Action → Prop}
  {initial : State}

/-- The initial state is reachable. -/
theorem start :
    system.Reachable allowed initial initial :=
  ⟨[initial], .start⟩

/-- One more allowed step stays within the reachable states. -/
theorem step
    {state next : State}
    {action : Action}
    (reachable : system.Reachable allowed initial state)
    (permitted : allowed state action)
    (stepped : system.step state action = some next) :
    system.Reachable allowed initial next := by
  obtain ⟨visited, run⟩ := reachable
  exact ⟨next :: visited, run.step permitted stepped⟩

/--
The invariant rule: what holds initially and is preserved by every allowed step
holds in every reachable state.
-/
theorem invariant
    (holds : State → Prop)
    (atStart : holds initial)
    (preserved :
      ∀ {state action next},
        holds state →
        allowed state action →
        system.step state action = some next →
        holds next)
    {state : State}
    (reachable : system.Reachable allowed initial state) :
    holds state := by
  obtain ⟨visited, run⟩ := reachable
  exact
    run.invariant (fun _ current => holds current) atStart
      fun _ current permitted stepped =>
        preserved current permitted stepped

end Reachable

/--
When every counted action brings a measure down, a list of counted actions is
no longer than the measure, and what the actions preserve holds at its end.
-/
theorem holds_length_of_run?
    {system : TransitionSystem State Action}
    (counted : Action → Prop)
    (holds : State → Prop)
    (measure : State → Nat)
    (down :
      ∀ {state action next},
        holds state →
        counted action →
        system.step state action = some next →
        holds next ∧ measure next < measure state)
    {actions : List Action}
    (allCounted : ∀ action ∈ actions, counted action)
    {state final : State}
    (atStart : holds state)
    (ran : system.run? state actions = some final) :
    holds final ∧ actions.length + measure final ≤ measure state := by
  induction actions generalizing state with
  | nil =>
      obtain rfl := Option.some.inj ran
      exact ⟨atStart, Nat.le_of_eq (Nat.zero_add _)⟩
  | cons action rest inductionHypothesis =>
      simp only [run?] at ran
      cases stepped : system.step state action with
      | none => simp [stepped] at ran
      | some next =>
          simp only [stepped] at ran
          obtain ⟨holdsNext, less⟩ :=
            down atStart (allCounted action List.mem_cons_self) stepped
          obtain ⟨holdsFinal, bound⟩ :=
            inductionHypothesis
              (fun other member =>
                allCounted other (List.mem_cons_of_mem _ member))
              holdsNext ran
          refine ⟨holdsFinal, ?_⟩
          rw [List.length_cons]
          omega

/--
When every counted action brings a measure down and no other one raises it, a
run has no more counted actions than the measure.
-/
theorem countP_of_run?
    {system : TransitionSystem State Action}
    (counted : Action → Bool)
    (holds : State → Prop)
    (measure : State → Nat)
    (down :
      ∀ {state action next},
        holds state →
        system.step state action = some next →
        holds next ∧
          measure next + (if counted action then 1 else 0) ≤ measure state)
    {actions : List Action}
    {state final : State}
    (atStart : holds state)
    (ran : system.run? state actions = some final) :
    actions.countP counted + measure final ≤ measure state := by
  induction actions generalizing state with
  | nil =>
      obtain rfl := Option.some.inj ran
      exact Nat.le_of_eq (Nat.zero_add _)
  | cons action rest inductionHypothesis =>
      rw [run?] at ran
      cases stepped : system.step state action with
      | none =>
          rw [stepped] at ran
          exact absurd ran (Option.some_ne_none final).symm
      | some next =>
          rw [stepped] at ran
          obtain ⟨holdsNext, less⟩ := down atStart stepped
          have bound := inductionHypothesis holdsNext ran
          rw [List.countP_cons]
          omega

/-- Check the environment assumption along a list of actions. -/
def allowedAlong
    (system : TransitionSystem State Action)
    (allowed : State → Action → Bool) :
    State → List Action → Bool
  | _, [] => true
  | state, action :: rest =>
      allowed state action &&
        match system.step state action with
        | some next => system.allowedAlong allowed next rest
        | none => true

/--
A checked list of actions is a run.  The visited states extend those of the run
it continues.
-/
theorem run_of_run?
    {system : TransitionSystem State Action}
    {allowed : State → Action → Prop}
    {check : State → Action → Bool}
    (checkSound :
      ∀ state action, check state action = true → allowed state action)
    {initial : State}
    {actions : List Action}
    {visited : List State}
    {state final : State}
    (earlier : system.Run allowed initial visited state)
    (checked : system.allowedAlong check state actions = true)
    (ran : system.run? state actions = some final) :
    ∃ later, system.Run allowed initial later final := by
  induction actions generalizing visited state with
  | nil =>
      simp only [run?, Option.some.injEq] at ran
      subst final
      exact ⟨visited, earlier⟩
  | cons action rest inductionHypothesis =>
      simp only [run?] at ran
      simp only [allowedAlong, Bool.and_eq_true] at checked
      cases stepped : system.step state action with
      | none => simp [stepped] at ran
      | some next =>
          simp only [stepped] at ran checked
          exact
            inductionHypothesis
              (earlier.step (checkSound _ _ checked.1) stepped)
              checked.2 ran

/-- A checked list of actions leads to a reachable state. -/
theorem reachable_of_run?
    {system : TransitionSystem State Action}
    {allowed : State → Action → Prop}
    {check : State → Action → Bool}
    (checkSound :
      ∀ state action, check state action = true → allowed state action)
    {initial final : State}
    {actions : List Action}
    (checked : system.allowedAlong check initial actions = true)
    (ran : system.run? initial actions = some final) :
    system.Reachable allowed initial final :=
  run_of_run? checkSound .start checked ran

/-- Without an environment assumption there is nothing to check. -/
theorem reachable_of_unrestricted_run?
    {system : TransitionSystem State Action}
    {initial final : State}
    {actions : List Action}
    (ran : system.run? initial actions = some final) :
    system.Reachable (fun _ _ => True) initial final := by
  have unchecked :
      ∀ (actions : List Action) (state : State),
        system.allowedAlong (fun _ _ => true) state actions = true := by
    intro actions
    induction actions with
    | nil => exact fun _ => rfl
    | cons action rest inductionHypothesis =>
        intro state
        rw [allowedAlong, Bool.true_and]
        cases system.step state action with
        | none => rfl
        | some next => exact inductionHypothesis next
  exact
    reachable_of_run? (fun _ _ _ => trivial) (unchecked actions initial) ran

end TransitionSystem
