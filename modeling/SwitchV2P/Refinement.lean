import SwitchV2P.TransitionSystem

/-!
# Refinement of transition systems

A concrete system refines an abstract one when every concrete step is matched
by abstract steps, none or several, between related states.  The proof that a
step is matched may use everything that is known of reachable abstract states.

Everything here is independent of the systems that are being related.
-/

universe u v w x

namespace TransitionSystem

namespace Reachable

variable
  {State : Type u}
  {Action : Type v}
  {system : TransitionSystem State Action}
  {allowed : State → Action → Prop}

/-- What is reachable from a reachable state is reachable. -/
theorem trans
    {initial middle final : State}
    (first : system.Reachable allowed initial middle)
    (later : system.Reachable allowed middle final) :
    system.Reachable allowed initial final := by
  obtain ⟨visited, run⟩ := later
  induction run with
  | start => exact first
  | step earlier permitted stepped inductionHypothesis =>
      exact inductionHypothesis.step permitted stepped

/-- One allowed step. -/
theorem single
    {state next : State}
    {action : Action}
    (permitted : allowed state action)
    (stepped : system.step state action = some next) :
    system.Reachable allowed state next :=
  start.step permitted stepped

end Reachable

variable
  {State : Type u}
  {Action : Type v}
  {AbstractState : Type w}
  {AbstractAction : Type x}

/--
A simulation of a concrete system by an abstract one: which states go together,
and how the steps of the one are matched by the other.
-/
structure Simulates
    (concrete : TransitionSystem State Action)
    (allowed : State → Action → Prop)
    (initial : State)
    (abstract : TransitionSystem AbstractState AbstractAction)
    (abstractAllowed : AbstractState → AbstractAction → Prop)
    (abstractInitial : AbstractState)
    (related : State → AbstractState → Prop) :
    Prop where
  atStart : related initial abstractInitial
  matched :
    ∀ {state abstractState action next},
      related state abstractState →
      abstract.Reachable abstractAllowed abstractInitial abstractState →
      allowed state action →
      concrete.step state action = some next →
      ∃ abstractNext,
        abstract.Reachable abstractAllowed abstractState abstractNext ∧
          related next abstractNext

/-- Every reachable concrete state goes with a reachable abstract one. -/
theorem Simulates.reachable
    {concrete : TransitionSystem State Action}
    {allowed : State → Action → Prop}
    {initial : State}
    {abstract : TransitionSystem AbstractState AbstractAction}
    {abstractAllowed : AbstractState → AbstractAction → Prop}
    {abstractInitial : AbstractState}
    {related : State → AbstractState → Prop}
    (simulates :
      Simulates concrete allowed initial abstract abstractAllowed
        abstractInitial related)
    {state : State}
    (reachable : concrete.Reachable allowed initial state) :
    ∃ abstractState,
      abstract.Reachable abstractAllowed abstractInitial abstractState ∧
        related state abstractState := by
  refine
    reachable.invariant
      (fun current =>
        ∃ abstractState,
          abstract.Reachable abstractAllowed abstractInitial
              abstractState ∧
            related current abstractState)
      ⟨abstractInitial, .start, simulates.atStart⟩ ?_
  rintro current action next ⟨abstractState, reached, related⟩ permitted
    stepped
  obtain ⟨abstractNext, further, after⟩ :=
    simulates.matched related reached permitted stepped
  exact ⟨abstractNext, reached.trans further, after⟩

end TransitionSystem
