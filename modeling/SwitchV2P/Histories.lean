import Mathlib.Data.List.Basic
import Mathlib.Data.List.Induction

/-!
# The latest event of a history

A history lists events in the order in which they happened.  The latest event
of some kind is the one after which no event of that kind follows.

Everything here is independent of what the events are.
-/

universe u

namespace Histories

variable {Event : Type u}

/-- The latest event of one kind in a history. -/
def Latest
    (kind : Event → Prop)
    (history : List Event)
    (event : Event) : Prop :=
  ∃ earlier later,
    history = earlier ++ event :: later ∧
      kind event ∧
      ∀ other ∈ later, ¬ kind other

variable
  {kind : Event → Prop}
  {history : List Event}
  {event other : Event}

/-- The latest event is one of the history. -/
theorem Latest.mem (latest : Latest kind history event) :
    event ∈ history := by
  obtain ⟨earlier, later, rfl, _, _⟩ := latest
  exact List.mem_append_right _ List.mem_cons_self

theorem Latest.isKind (latest : Latest kind history event) :
    kind event := by
  obtain ⟨_, _, _, met, _⟩ := latest
  exact met

/-- Only the kind counts, not how it is written. -/
theorem latest_congr
    {same : Event → Prop}
    (agree : ∀ event, kind event ↔ same event) :
    Latest kind history event ↔ Latest same history event := by
  have equal : kind = same :=
    funext fun event => propext (agree event)
  rw [equal]

/-- Any event of a longer history is its last one or one of the history. -/
theorem eq_last_or_earlier
    {earlier later : List Event}
    (split : history ++ [other] = earlier ++ event :: later) :
    (other = event ∧ later = []) ∨
      ∃ between,
        later = between ++ [other] ∧
          history = earlier ++ event :: between := by
  rcases List.eq_nil_or_concat' later with rfl | ⟨between, last, rfl⟩
  · have isLast : [other] = [event] := List.append_inj_right' split rfl
    exact Or.inl ⟨List.singleton_inj.mp isLast, rfl⟩
  · have ends :
        history ++ [other] = (earlier ++ event :: between) ++ [last] := by
      rw [split, List.append_assoc, List.cons_append]
    obtain ⟨before, isLast⟩ := List.append_inj' ends rfl
    obtain rfl := List.singleton_inj.mp isLast
    exact Or.inr ⟨between, rfl, before⟩

/-- An event of the kind becomes the latest one. -/
theorem latest_append_of_kind (met : kind other) :
    Latest kind (history ++ [other]) event ↔ event = other := by
  constructor
  · rintro ⟨earlier, later, split, _, silent⟩
    rcases eq_last_or_earlier split with ⟨isLast, _⟩ | ⟨between, rfl, _⟩
    · exact isLast.symm
    · exact
        absurd met
          (silent other (List.mem_append_right _ List.mem_cons_self))
  · rintro rfl
    exact ⟨history, [], rfl, met, fun _ member => by simp at member⟩

/-- Any other event leaves the latest one as it was. -/
theorem latest_append_of_not (unmet : ¬ kind other) :
    Latest kind (history ++ [other]) event ↔
      Latest kind history event := by
  constructor
  · rintro ⟨earlier, later, split, met, silent⟩
    rcases eq_last_or_earlier split with
      ⟨rfl, _⟩ | ⟨between, rfl, before⟩
    · exact absurd met unmet
    · exact
        ⟨earlier, between, before, met,
          fun later member =>
            silent later (List.mem_append_left _ member)⟩
  · rintro ⟨earlier, later, rfl, met, silent⟩
    refine
      ⟨earlier, later ++ [other], by simp, met, fun next member => ?_⟩
    rcases List.mem_append.mp member with old | new
    · exact silent next old
    · obtain rfl := List.mem_singleton.mp new
      exact unmet

/-- There is no more than one latest event. -/
theorem Latest.unique
    (first : Latest kind history event)
    (second : Latest kind history other) :
    event = other := by
  induction history using List.reverseRecOn with
  | nil => exact absurd first.mem List.not_mem_nil
  | append_singleton earlier last inductionHypothesis =>
      by_cases met : kind last
      · rw [latest_append_of_kind met] at first second
        rw [first, second]
      · rw [latest_append_of_not met] at first second
        exact inductionHypothesis first second

/-- An empty history has no latest event. -/
theorem not_latest_nil : ¬ Latest kind [] event :=
  fun latest => absurd latest.mem List.not_mem_nil

end Histories
