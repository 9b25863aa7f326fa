import Mathlib.Data.List.Basic

/-!
# Running minima and maxima

A loop that keeps the better one of what it has and what comes next, for some
order that says what is better.  The result is as good as everything seen, and
it is the starting value or something seen.

Everything here is independent of the order.
-/

universe u

namespace RunningExtrema

variable {α : Type u}

/-- `choose` returns a better one of its arguments. -/
structure Selects
    (better : α → α → Prop)
    (choose : α → α → α) : Prop where
  refl : ∀ value, better value value
  trans :
    ∀ {first second third},
      better first second → better second third → better first third
  antisymm :
    ∀ {first second}, better first second → better second first →
      first = second
  left : ∀ first second, better (choose first second) first
  right : ∀ first second, better (choose first second) second
  either :
    ∀ first second,
      choose first second = first ∨ choose first second = second

namespace Selects

variable
  {better : α → α → Prop}
  {choose : α → α → α}

/-- It is enough to say which argument is chosen and that it is better. -/
theorem of_chooses
    (refl : ∀ value, better value value)
    (trans :
      ∀ {first second third},
        better first second → better second third → better first third)
    (antisymm :
      ∀ {first second}, better first second → better second first →
        first = second)
    (chooses :
      ∀ first second,
        (choose first second = first ∧ better first second) ∨
          (choose first second = second ∧ better second first)) :
    Selects better choose where
  refl := refl
  trans := trans
  antisymm := antisymm
  left := by
    intro first second
    rcases chooses first second with ⟨same, _⟩ | ⟨same, isBetter⟩
    · rw [same]
      exact refl first
    · rw [same]
      exact isBetter
  right := by
    intro first second
    rcases chooses first second with ⟨same, isBetter⟩ | ⟨same, _⟩
    · rw [same]
      exact isBetter
    · rw [same]
      exact refl second
  either := fun first second =>
    (chooses first second).imp And.left And.left

/-- The result is as good as the start. -/
theorem foldl_start
    (selects : Selects better choose)
    (values : List α)
    (start : α) :
    better (values.foldl choose start) start := by
  induction values generalizing start with
  | nil => exact selects.refl start
  | cons value rest inductionHypothesis =>
      exact
        selects.trans (inductionHypothesis (choose start value))
          (selects.left start value)

/-- The result is as good as every value. -/
theorem foldl_mem
    (selects : Selects better choose)
    {values : List α}
    {value : α}
    (start : α)
    (member : value ∈ values) :
    better (values.foldl choose start) value := by
  induction values generalizing start with
  | nil => exact absurd member List.not_mem_nil
  | cons first rest inductionHypothesis =>
      rcases List.mem_cons.mp member with isFirst | inRest
      · subst isFirst
        exact
          selects.trans (selects.foldl_start rest _)
            (selects.right start value)
      · exact inductionHypothesis (choose start first) inRest

/-- The result is the start or one of the values. -/
theorem foldl_eq_or_mem
    (selects : Selects better choose)
    (values : List α)
    (start : α) :
    values.foldl choose start = start ∨
      values.foldl choose start ∈ values := by
  induction values generalizing start with
  | nil => exact Or.inl rfl
  | cons value rest inductionHypothesis =>
      rcases inductionHypothesis (choose start value) with same | member
      · rcases selects.either start value with isStart | isValue
        · exact Or.inl (same.trans isStart)
        · apply Or.inr
          rw [List.foldl_cons, same, isValue]
          exact List.mem_cons_self
      · exact Or.inr (List.mem_cons_of_mem _ member)

/-- From a start that nothing is worse than, the result is a value. -/
theorem foldl_mem_of_start
    (selects : Selects better choose)
    {values : List α}
    {start : α}
    (nonempty : values ≠ [])
    (atLeast : ∀ value ∈ values, better value start) :
    values.foldl choose start ∈ values := by
  rcases selects.foldl_eq_or_mem values start with same | member
  · obtain ⟨value, inside⟩ := List.exists_mem_of_ne_nil values nonempty
    have reached := selects.foldl_mem start inside
    rw [same] at reached ⊢
    rw [selects.antisymm reached (atLeast value inside)]
    exact inside
  · exact member

end Selects

end RunningExtrema
