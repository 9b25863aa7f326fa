import Mathlib.Data.List.Basic
import Mathlib.Data.List.TakeWhile
import Mathlib.Tactic.Common

/-!
# Nested counting loops

A loop that counts from zero and collects what its body yields is a `flatMap`
over `List.range`.  The lemmas here evaluate such loops when few rounds yield
anything, and split a counter into quotient and remainder.

Everything here is independent of what the loops collect.
-/

namespace RangeLoops

variable {α : Type*}

/-- A condition that one round meets selects that round. -/
theorem filter_range_eq_singleton
    {condition : Nat → Bool}
    {count round : Nat}
    (small : round < count)
    (only : ∀ other < count, condition other = true ↔ other = round) :
    (List.range count).filter condition = [round] := by
  induction count with
  | zero => omega
  | succ count inductionHypothesis =>
      rw [List.range_succ, List.filter_append]
      by_cases last : round = count
      · have none :
            (List.range count).filter condition = [] := by
          rw [List.filter_eq_nil_iff]
          intro other member selected
          have below := List.mem_range.mp member
          have same := (only other (by omega)).mp selected
          omega
        have selected : condition count = true :=
          (only count (by omega)).mpr last.symm
        rw [none, last]
        simp [selected]
      · have rest :=
          inductionHypothesis (by omega)
            fun other below => only other (by omega)
        have unselected : condition count = false := by
          rw [Bool.eq_false_iff]
          intro selected
          have same := (only count (by omega)).mp selected
          omega
        rw [rest]
        simp [unselected]

/-- A loop of which one round yields something. -/
theorem flatMap_range_eq_single
    {body : Nat → List α}
    {count round : Nat}
    (small : round < count)
    (others : ∀ other < count, other ≠ round → body other = []) :
    (List.range count).flatMap body = body round := by
  induction count with
  | zero => omega
  | succ count inductionHypothesis =>
      rw [List.range_succ, List.flatMap_append, List.flatMap_singleton]
      by_cases last : round = count
      · have none : (List.range count).flatMap body = [] := by
          rw [List.flatMap_eq_nil_iff]
          intro other member
          have below := List.mem_range.mp member
          exact others other (by omega) (by omega)
        rw [none, last, List.nil_append]
      · have rest :=
          inductionHypothesis (by omega)
            fun other below => others other (by omega)
        rw [rest, others count (by omega) (Ne.symm last),
          List.append_nil]

/-- A loop, split around one of its rounds. -/
theorem flatMap_range_split
    (body : Nat → List α)
    {count round : Nat}
    (small : round < count) :
    (List.range count).flatMap body =
      (List.range round).flatMap body ++ (body round ++
        (List.range' (round + 1) (count - (round + 1))).flatMap body) := by
  have split :
      List.range count =
        List.range round ++
          (round :: List.range' (round + 1) (count - (round + 1))) := by
    have whole : round + (count - (round + 1) + 1) = count := by
      omega
    have joined :=
      List.range'_append_1 (s := 0) (m := round)
        (n := count - (round + 1) + 1)
    rw [Nat.zero_add, whole] at joined
    rw [List.range_eq_range', List.range_eq_range', ← List.range'_succ]
    exact joined.symm
  rw [split, List.flatMap_append, List.flatMap_cons]

/-- A loop of which no round yields anything. -/
theorem flatMap_range_eq_nil
    {body : Nat → List α}
    {count : Nat}
    (none : ∀ round < count, body round = []) :
    (List.range count).flatMap body = [] := by
  rw [List.flatMap_eq_nil_iff]
  exact fun round member => none round (List.mem_range.mp member)

/-- A loop all rounds of which yield one element. -/
theorem flatMap_range_eq_map
    {body : Nat → List α}
    {element : Nat → α}
    {count : Nat}
    (one : ∀ round < count, body round = [element round]) :
    (List.range count).flatMap body = (List.range count).map element := by
  have same :
      (List.range count).flatMap body =
        (List.range count).flatMap fun round => [element round] :=
    List.flatMap_congr fun round member =>
      one round (List.mem_range.mp member)
  rw [same, ← List.map_eq_flatMap]

/-! ## Counters of the form `block * width + offset` -/

theorem block_div
    {width offset : Nat}
    (inside : offset < width)
    (block : Nat) :
    (block * width + offset) / width = block := by
  rw [Nat.mul_comm, Nat.mul_add_div (by omega),
    Nat.div_eq_of_lt inside, Nat.add_zero]

theorem block_mod
    {width offset : Nat}
    (inside : offset < width)
    (block : Nat) :
    (block * width + offset) % width = offset := by
  rw [Nat.mul_comm, Nat.mul_add_mod, Nat.mod_eq_of_lt inside]

theorem block_inj
    {width block block' offset offset' : Nat}
    (inside : offset < width)
    (inside' : offset' < width) :
    block * width + offset = block' * width + offset' ↔
      block = block' ∧ offset = offset' := by
  constructor
  · intro same
    have quotients := congrArg (· / width) same
    have remainders := congrArg (· % width) same
    simp only [block_div inside, block_div inside'] at quotients
    simp only [block_mod inside, block_mod inside'] at remainders
    exact ⟨quotients, remainders⟩
  · rintro ⟨rfl, rfl⟩
    rfl

theorem block_lt
    {count width block offset : Nat}
    (small : block < count)
    (inside : offset < width) :
    block * width + offset < count * width := by
  calc
    block * width + offset < block * width + width := by omega
    _ = (block + 1) * width := (Nat.succ_mul block width).symm
    _ ≤ count * width := Nat.mul_le_mul_right width (by omega)

/-- A counter split into quotient and remainder. -/
theorem flatMap_range_mul
    (body : Nat → List α)
    (count width : Nat) :
    (List.range (count * width)).flatMap body =
      (List.range count).flatMap fun block =>
        (List.range width).flatMap fun offset =>
          body (block * width + offset) := by
  induction count with
  | zero => simp
  | succ count inductionHypothesis =>
      rw [Nat.succ_mul, List.range_add, List.flatMap_append,
        inductionHypothesis, List.range_succ, List.flatMap_append,
        List.flatMap_singleton, List.flatMap_map]

/-- A loop condition that never fails. -/
theorem takeWhile_range
    {condition : Nat → Bool}
    {count : Nat}
    (always : ∀ round < count, condition round = true) :
    (List.range count).takeWhile condition = List.range count := by
  rw [List.takeWhile_eq_self_iff]
  exact fun round member => always round (List.mem_range.mp member)

end RangeLoops
