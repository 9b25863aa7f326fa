import SwitchV2P.Refinement

/-!
# Potentials of runs

Some actions do work and others bring it in.  When each unit of work is paid
from a potential, and only the actions that bring work in raise it, the work
of a run is bounded; and when there is always some work that can be done, the
run can be continued until there is none left.

Everything here is independent of the system that is being verified.
-/

universe u v w

namespace TransitionSystem

variable {State : Type u} {Action : Type v}

/-- The actions are allowed and performed one after the other. -/
inductive Performs
    (system : TransitionSystem State Action)
    (allowed : State → Action → Prop) :
    State → List Action → State → Prop where
  | nil (state : State) :
      Performs system allowed state [] state
  | cons
      {state next final : State}
      {action : Action}
      {rest : List Action}
      (permitted : allowed state action)
      (stepped : system.step state action = some next)
      (later : Performs system allowed next rest final) :
      Performs system allowed state (action :: rest) final

variable
  {system : TransitionSystem State Action}
  {allowed : State → Action → Prop}

namespace Performs

/-- The actions of a run lead to a reachable state. -/
theorem reachable
    {state final : State}
    {actions : List Action}
    (performs : system.Performs allowed state actions final) :
    system.Reachable allowed state final := by
  induction performs with
  | nil state => exact .start
  | cons permitted stepped later inductionHypothesis =>
      exact (Reachable.single permitted stepped).trans inductionHypothesis

/-- A checked list of actions can be performed. -/
theorem of_run?
    {check : State → Action → Bool}
    (checkSound :
      ∀ state action, check state action = true → allowed state action)
    {initial final : State}
    {actions : List Action}
    (checked : system.allowedAlong check initial actions = true)
    (ran : system.run? initial actions = some final) :
    system.Performs allowed initial actions final := by
  induction actions generalizing initial with
  | nil =>
      obtain rfl := Option.some.inj ran
      exact .nil initial
  | cons action rest inductionHypothesis =>
      simp only [run?] at ran
      simp only [allowedAlong, Bool.and_eq_true] at checked
      cases stepped : system.step initial action with
      | none => simp [stepped] at ran
      | some next =>
          simp only [stepped] at ran checked
          exact
            .cons (checkSound _ _ checked.1) stepped
              (inductionHypothesis checked.2 ran)

/-- What a checked list of actions leads to can be seen in the end. -/
theorem exists_of_run?
    {check : State → Action → Bool}
    (checkSound :
      ∀ state action, check state action = true → allowed state action)
    {initial : State}
    {actions : List Action}
    (checked : system.allowedAlong check initial actions = true)
    {View : Type w}
    {view : State → View}
    {seen : View}
    (ran : (system.run? initial actions).map view = some seen) :
    ∃ final, system.Performs allowed initial actions final ∧
      view final = seen := by
  obtain ⟨final, ends, isSeen⟩ := Option.map_eq_some_iff.mp ran
  exact ⟨final, of_run? checkSound checked ends, isSeen⟩

/--
The work of a run is paid from the potential at its start and from what the
other actions bring in.
-/
theorem countP_le
    {holds : State → Prop}
    {potential : State → Nat}
    {works earns : Action → Bool}
    {rate : Nat}
    (pays :
      ∀ {state action next},
        holds state →
        allowed state action →
        system.step state action = some next →
        holds next ∧
          potential next + (if works action then 1 else 0) ≤
            potential state + (if earns action then rate else 0))
    {state final : State}
    {actions : List Action}
    (performs : system.Performs allowed state actions final)
    (atStart : holds state) :
    potential final + actions.countP works ≤
      potential state + rate * actions.countP earns := by
  induction performs with
  | nil state => exact Nat.le_refl _
  | @cons state next final action rest permitted stepped later
      inductionHypothesis =>
      obtain ⟨holdsNext, paid⟩ := pays atStart permitted stepped
      have bound := inductionHypothesis holdsNext
      have earned :
          rate * (if earns action then 1 else 0) =
            if earns action then rate else 0 := by
        split
        · exact Nat.mul_one rate
        · exact Nat.mul_zero rate
      rw [List.countP_cons, List.countP_cons, Nat.mul_add, earned]
      omega

end Performs

/--
When work that can be done is left in every state that is not settled, and
work brings the potential down, some run of nothing but work settles the state.
-/
theorem exists_settled
    {holds settled : State → Prop}
    {works : Action → Prop}
    {potential : State → Nat}
    (progress :
      ∀ {state}, holds state → ¬ settled state →
        ∃ action next, works action ∧ allowed state action ∧
          system.step state action = some next)
    (pays :
      ∀ {state action next},
        holds state →
        works action →
        allowed state action →
        system.step state action = some next →
        holds next ∧ potential next < potential state)
    {state : State}
    (atStart : holds state) :
    ∃ actions final, system.Performs allowed state actions final ∧
      (∀ action ∈ actions, works action) ∧ holds final ∧ settled final := by
  induction bound : potential state using Nat.strongRecOn
    generalizing state with
  | ind amount inductionHypothesis =>
      by_cases isSettled : settled state
      · exact
          ⟨[], state, .nil state, fun _ member => absurd member (by simp),
            atStart, isSettled⟩
      · obtain ⟨action, next, isWork, permitted, stepped⟩ :=
          progress atStart isSettled
        obtain ⟨holdsNext, less⟩ :=
          pays atStart isWork permitted stepped
        rw [bound] at less
        obtain ⟨actions, final, performs, allWork, holdsFinal, ends⟩ :=
          inductionHypothesis (potential next) less holdsNext rfl
        refine
          ⟨action :: actions, final, .cons permitted stepped performs, ?_,
            holdsFinal, ends⟩
        exact List.forall_mem_cons.mpr ⟨isWork, allWork⟩

end TransitionSystem
