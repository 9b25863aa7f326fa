import Mathlib.Data.List.Count
import Mathlib.Tactic.Common

/-!
# Runs of equal numbers in a sorted list

In a sorted list the occurrences of a number stand next to each other.  Their
run starts after the smaller numbers and ends before the larger ones.

Everything here is independent of what the numbers stand for.
-/

namespace SortedRuns

/-- The place at which the run of a number starts. -/
def startOf (numbers : List Nat) (number : Nat) : Nat :=
  numbers.countP (· < number)

variable {numbers : List Nat} {number : Nat}

/-- A sorted list is its smaller numbers, a run, and its larger numbers. -/
theorem split
    (sorted : numbers.Pairwise (· ≤ ·))
    (number : Nat) :
    numbers =
      numbers.filter (· < number) ++
        (List.replicate (numbers.count number) number ++
          numbers.filter (number < ·)) := by
  induction sorted with
  | nil => rfl
  | @cons first rest least sorted inductionHypothesis =>
      rcases Nat.lt_trichotomy first number with below | same | above
      · have notAbove : ¬ decide (number < first) = true := by
          simpa using Nat.le_of_lt below
        rw [List.filter_cons, if_pos (decide_eq_true below),
          List.count_cons_of_ne (Nat.ne_of_lt below), List.filter_cons,
          if_neg notAbove, List.cons_append, ← inductionHypothesis]
      · subst same
        have none : rest.filter (· < first) = [] := by
          apply List.filter_eq_nil_iff.mpr
          intro other member
          simpa using least other member
        have notBelow : ¬ decide (first < first) = true := by
          simp
        rw [none, List.nil_append] at inductionHypothesis
        rw [List.filter_cons, if_neg notBelow, none, List.nil_append,
          List.count_cons_self, List.replicate_succ, List.cons_append,
          List.filter_cons, if_neg notBelow, ← inductionHypothesis]
      · have all (other : Nat) (member : other ∈ first :: rest) :
            number < other := by
          rcases List.mem_cons.mp member with isFirst | inRest
          · rw [isFirst]
            exact above
          · exact Nat.lt_of_lt_of_le above (least other inRest)
        have noneBelow : (first :: rest).filter (· < number) = [] := by
          apply List.filter_eq_nil_iff.mpr
          intro other member
          simpa using Nat.le_of_lt (all other member)
        have absent : (first :: rest).count number = 0 := by
          apply List.count_eq_zero.mpr
          exact fun member => Nat.lt_irrefl _ (all number member)
        have everyAbove :
            (first :: rest).filter (number < ·) = first :: rest := by
          apply List.filter_eq_self.mpr
          exact fun other member => decide_eq_true (all other member)
        rw [noneBelow, absent, everyAbove]
        rfl

/-- The next run starts where this one ends. -/
theorem startOf_succ :
    startOf numbers (number + 1) =
      startOf numbers number + numbers.count number := by
  unfold startOf
  induction numbers with
  | nil => rfl
  | cons first rest inductionHypothesis =>
      rw [List.countP_cons, List.countP_cons, List.count_cons,
        inductionHypothesis]
      rcases Nat.lt_trichotomy first number with below | same | above
      · have notSame := Nat.ne_of_lt below
        simp [below, Nat.lt_succ_of_lt below, notSame]
        omega
      · simp [same]
        omega
      · have notSame := Nat.ne_of_gt above
        have notBelow : ¬ first < number + 1 := by omega
        simp [Nat.not_lt_of_gt above, notBelow, notSame]

/-- The parts of a sorted list around a run. -/
structure Parts
    (numbers : List Nat)
    (number : Nat)
    (smaller larger : List Nat) : Prop where
  shape :
    numbers =
      smaller ++
        (List.replicate (numbers.count number) number ++ larger)
  length_smaller : smaller.length = startOf numbers number
  above : ∀ other ∈ larger, number < other

theorem exists_parts
    (sorted : numbers.Pairwise (· ≤ ·))
    (number : Nat) :
    ∃ smaller larger, Parts numbers number smaller larger :=
  ⟨_, _,
    { shape := split sorted number
      length_smaller := List.countP_eq_length_filter.symm
      above := fun _ member =>
        of_decide_eq_true (List.mem_filter.mp member).2 }⟩

/-- Within the run stands the number. -/
theorem getElem?_run
    (sorted : numbers.Pairwise (· ≤ ·))
    {offset : Nat}
    (inside : offset < numbers.count number) :
    numbers[startOf numbers number + offset]? = some number := by
  obtain ⟨smaller, larger, parts⟩ := exists_parts sorted number
  rw [← parts.length_smaller]
  have shape := parts.shape
  generalize numbers.count number = run at inside shape
  rw [shape, List.getElem?_append_right (Nat.le_add_right _ _),
    Nat.add_sub_cancel_left, List.getElem?_append_left,
    List.getElem?_replicate, if_pos inside]
  rw [List.length_replicate]
  exact inside

/-- After the run stands a larger number, unless the list ends there. -/
theorem getElem?_afterRun
    (sorted : numbers.Pairwise (· ≤ ·))
    (notAtEnd :
      startOf numbers number + numbers.count number < numbers.length) :
    ∃ next,
      numbers[startOf numbers number + numbers.count number]? = some next ∧
        number < next := by
  obtain ⟨smaller, larger, parts⟩ := exists_parts sorted number
  rw [← parts.length_smaller] at notAtEnd ⊢
  have shape := parts.shape
  have above := parts.above
  generalize numbers.count number = run at notAtEnd shape ⊢
  rw [shape] at notAtEnd ⊢
  rw [List.length_append, List.length_append,
    List.length_replicate] at notAtEnd
  cases larger with
  | nil =>
      rw [List.length_nil, Nat.add_zero] at notAtEnd
      exact absurd notAtEnd (Nat.lt_irrefl _)
  | cons next later =>
      refine ⟨next, ?_, above next List.mem_cons_self⟩
      rw [List.getElem?_append_right (Nat.le_add_right _ _),
        Nat.add_sub_cancel_left, List.getElem?_append_right,
        List.length_replicate, Nat.sub_self]
      · rfl
      · exact Nat.le_of_eq List.length_replicate

/-- If all numbers are small, the run of a large one starts at the end. -/
theorem startOf_eq_length
    (small : ∀ other ∈ numbers, other < number) :
    startOf numbers number = numbers.length :=
  List.countP_eq_length.mpr fun other member =>
    decide_eq_true (small other member)

end SortedRuns
