import Mathlib.Data.List.Basic
import Mathlib.Algebra.BigOperators.Group.List.Basic
import Mathlib.Algebra.GroupWithZero.Nat

/-!
# Agendas of timed events

A discrete-event simulator keeps the events that are still to happen, each with
its time, and always runs one of the earliest.  An agenda lists them in the
order in which they were scheduled.  A line is the part of an agenda that some
selection picks out; if its times increase, the events of the line happen in
the order in which they were scheduled.

Everything here is independent of the events of a particular simulation.
-/

universe u v

/-- An event and the time at which it is to happen. -/
structure TimedEvent (Event : Type u) where
  time : Nat
  event : Event
  deriving Repr, DecidableEq

/-- The clock, and the events to come in the order of their scheduling. -/
structure Agenda (Event : Type u) where
  now : Nat
  pending : List (TimedEvent Event)
  deriving Repr, DecidableEq

namespace Agenda

variable {Event : Type u} {Value : Type v}

/-- An agenda before anything is scheduled. -/
def empty : Agenda Event where
  now := 0
  pending := []

/-- Schedule events after the given delays. -/
def schedule
    (agenda : Agenda Event)
    (later : List (Nat × Event)) :
    Agenda Event :=
  { agenda with
    pending :=
      agenda.pending ++
        later.map fun entry =>
          { time := agenda.now + entry.1, event := entry.2 } }

/-- Cancel the chosen events. -/
def cancel (agenda : Agenda Event) (chosen : Event → Bool) :
    Agenda Event :=
  { agenda with
    pending := agenda.pending.filter fun entry => !chosen entry.event }

/-- Nothing is to happen before the given time. -/
def NoneBefore (agenda : Agenda Event) (time : Nat) : Prop :=
  ∀ entry ∈ agenda.pending, time ≤ entry.time

instance (agenda : Agenda Event) (time : Nat) :
    Decidable (agenda.NoneBefore time) :=
  inferInstanceAs (Decidable (∀ entry ∈ agenda.pending, _))

/-- Let time pass up to a moment before which nothing is to happen. -/
def advance?
    (agenda : Agenda Event)
    (time : Nat) :
    Option (Agenda Event) :=
  if agenda.now ≤ time ∧ agenda.NoneBefore time then
    some { agenda with now := time }
  else
    none

/-- Take the event at a position, if it is one of the earliest. -/
def take?
    (agenda : Agenda Event)
    (position : Nat) :
    Option (Event × Agenda Event) :=
  match agenda.pending[position]? with
  | some entry =>
      if agenda.NoneBefore entry.time then
        some
          (entry.event,
            { now := entry.time
              pending := agenda.pending.eraseIdx position })
      else
        none
  | none => none

/-- The events that a selection picks out, with their times. -/
def line
    (select : Event → Option Value)
    (agenda : Agenda Event) :
    List (Nat × Value) :=
  agenda.pending.filterMap fun entry =>
    (select entry.event).map fun value => (entry.time, value)

/-- The sum of the weights of all events to come. -/
def weigh (weight : Event → Nat) (agenda : Agenda Event) : Nat :=
  (agenda.pending.map fun entry => weight entry.event).sum

/-- Without anything that is scheduled, an agenda stays as it is. -/
theorem schedule_nil (agenda : Agenda Event) :
    agenda.schedule [] = agenda := by
  rw [schedule, List.map_nil, List.append_nil]

/-- Without anything that is chosen, an agenda stays as it is. -/
theorem cancel_of_none
    {agenda : Agenda Event}
    {chosen : Event → Bool}
    (none : ∀ entry ∈ agenda.pending, chosen entry.event = false) :
    agenda.cancel chosen = agenda := by
  have kept :
      agenda.pending.filter (fun entry => !chosen entry.event) =
        agenda.pending := by
    apply List.filter_eq_self.mpr
    intro entry member
    rw [none entry member]
    rfl
  rw [cancel, kept]

/-! ## Taking an event -/

/-- An event that is taken is one of the earliest. -/
structure Taken
    (agenda : Agenda Event)
    (entry : TimedEvent Event)
    (before after : List (TimedEvent Event))
    (next : Agenda Event) : Prop where
  pending : agenda.pending = before ++ entry :: after
  earliest : agenda.NoneBefore entry.time
  rest : next.pending = before ++ after
  now : next.now = entry.time

theorem taken_of_take?
    {agenda next : Agenda Event}
    {position : Nat}
    {event : Event}
    (took : agenda.take? position = some (event, next)) :
    ∃ entry before after,
      entry.event = event ∧ agenda.Taken entry before after next := by
  unfold take? at took
  split at took
  next entry found =>
    split at took
    next earliest =>
      obtain ⟨sameEvent, rfl⟩ := Prod.mk.inj (Option.some.inj took)
      obtain ⟨inside, atPosition⟩ := List.getElem?_eq_some_iff.mp found
      refine
        ⟨entry, agenda.pending.take position,
          agenda.pending.drop (position + 1), sameEvent, ?_, earliest,
          ?_, rfl⟩
      · rw [← atPosition, List.cons_getElem_drop_succ,
          List.take_append_drop]
      · exact List.eraseIdx_eq_take_drop_succ _ _
    next => exact absurd took (Option.some_ne_none _).symm
  next => exact absurd took (Option.some_ne_none _).symm

/-- Some event is one of the earliest. -/
theorem exists_earliest
    {pending : List (TimedEvent Event)}
    (nonempty : pending ≠ []) :
    ∃ (position : Nat) (entry : TimedEvent Event),
      pending[position]? = some entry ∧
        ∀ other ∈ pending, entry.time ≤ other.time := by
  induction pending with
  | nil => exact absurd rfl nonempty
  | cons first rest inductionHypothesis =>
      by_cases last : rest = []
      · subst last
        refine ⟨0, first, rfl, fun other member => ?_⟩
        have same := List.mem_singleton.mp member
        exact Nat.le_of_eq (congrArg TimedEvent.time same.symm)
      · obtain ⟨position, entry, found, earliest⟩ :=
          inductionHypothesis last
        by_cases sooner : first.time ≤ entry.time
        · refine ⟨0, first, rfl, fun other member => ?_⟩
          rcases List.mem_cons.mp member with same | inRest
          · exact Nat.le_of_eq (congrArg TimedEvent.time same.symm)
          · exact Nat.le_trans sooner (earliest other inRest)
        · refine ⟨position + 1, entry, found, fun other member => ?_⟩
          rcases List.mem_cons.mp member with same | inRest
          · rw [same]
            exact Nat.le_of_not_le sooner
          · exact earliest other inRest

/-- As long as events are to come, one of them can be taken. -/
theorem exists_take?
    {agenda : Agenda Event}
    (nonempty : agenda.pending ≠ []) :
    ∃ position event next,
      agenda.take? position = some (event, next) := by
  obtain ⟨position, entry, found, earliest⟩ := exists_earliest nonempty
  refine
    ⟨position, entry.event,
      { now := entry.time
        pending := agenda.pending.eraseIdx position }, ?_⟩
  unfold take?
  rw [found]
  exact if_pos earliest

/-! ## The clock -/

/-- The clock has not passed any event that is to come. -/
def WellTimed (agenda : Agenda Event) : Prop :=
  agenda.NoneBefore agenda.now

theorem WellTimed.schedule
    {agenda : Agenda Event}
    (timed : agenda.WellTimed)
    (later : List (Nat × Event)) :
    (agenda.schedule later).WellTimed := by
  intro entry member
  rcases List.mem_append.mp member with old | new
  · exact timed entry old
  · obtain ⟨delayed, _, rfl⟩ := List.mem_map.mp new
    exact Nat.le_add_right _ _

theorem wellTimed_of_advance?
    {agenda next : Agenda Event}
    {time : Nat}
    (advanced : agenda.advance? time = some next) :
    next.WellTimed ∧ agenda.now ≤ next.now ∧
      next.pending = agenda.pending := by
  unfold advance? at advanced
  split at advanced
  next possible =>
    obtain rfl := Option.some.inj advanced
    exact ⟨possible.2, possible.1, rfl⟩
  next => exact absurd advanced (Option.some_ne_none _).symm

theorem Taken.wellTimed
    {agenda next : Agenda Event}
    {entry : TimedEvent Event}
    {before after : List (TimedEvent Event)}
    (taken : agenda.Taken entry before after next) :
    next.WellTimed := by
  intro other member
  rw [taken.now]
  apply taken.earliest
  rw [taken.pending]
  rw [taken.rest] at member
  rcases List.mem_append.mp member with early | late
  · exact List.mem_append_left _ early
  · exact List.mem_append_right _ (List.mem_cons_of_mem _ late)

theorem Taken.now_le
    {agenda next : Agenda Event}
    {entry : TimedEvent Event}
    {before after : List (TimedEvent Event)}
    (taken : agenda.Taken entry before after next)
    (timed : agenda.WellTimed) :
    agenda.now ≤ next.now := by
  rw [taken.now]
  apply timed
  rw [taken.pending]
  exact List.mem_append_right _ List.mem_cons_self

/-! ## Lines -/

section Line

variable {select : Event → Option Value}

theorem line_schedule
    (agenda : Agenda Event)
    (later : List (Nat × Event)) :
    (agenda.schedule later).line select =
      agenda.line select ++
        later.filterMap fun entry =>
          (select entry.2).map fun value =>
            (agenda.now + entry.1, value) := by
  unfold line schedule
  rw [List.filterMap_append, List.filterMap_map]
  rfl

/-- Scheduling one event that is not in the line leaves it as it is. -/
theorem line_schedule_singleton
    (agenda : Agenda Event)
    (delay : Nat)
    {event : Event}
    (outside : select event = none) :
    (agenda.schedule [(delay, event)]).line select =
      agenda.line select := by
  rw [line_schedule, List.filterMap_cons, outside]
  exact List.append_nil _

/-- A line depends on the events to come, not on the clock. -/
theorem line_congr
    {agenda other : Agenda Event}
    (same : agenda.pending = other.pending) :
    agenda.line select = other.line select := by
  rw [line, line, same]

/-- What is in a line is to happen. -/
theorem exists_of_mem_line
    {agenda : Agenda Event}
    {picked : Nat × Value}
    (member : picked ∈ agenda.line select) :
    ∃ entry ∈ agenda.pending,
      entry.time = picked.1 ∧ select entry.event = some picked.2 := by
  obtain ⟨entry, inside, isPicked⟩ := List.mem_filterMap.mp member
  obtain ⟨value, selected, rfl⟩ := Option.map_eq_some_iff.mp isPicked
  exact ⟨entry, inside, rfl, selected⟩

/-- Nothing of an empty line is to happen. -/
theorem select_eq_none_of_line
    {agenda : Agenda Event}
    (empty : agenda.line select = []) :
    ∀ entry ∈ agenda.pending, select entry.event = none := by
  intro entry inside
  have notPicked := List.filterMap_eq_nil_iff.mp empty entry inside
  exact Option.map_eq_none_iff.mp notPicked

/-- An event that is not in the line leaves it as it is. -/
theorem Taken.line_of_none
    {agenda next : Agenda Event}
    {entry : TimedEvent Event}
    {before after : List (TimedEvent Event)}
    (taken : agenda.Taken entry before after next)
    (outside : select entry.event = none) :
    next.line select = agenda.line select := by
  unfold line
  rw [taken.pending, taken.rest, List.filterMap_append,
    List.filterMap_append, List.filterMap_cons, outside]
  rfl

/-- In a line of increasing times, the event that is taken is the first. -/
theorem Taken.line_of_some
    {agenda next : Agenda Event}
    {entry : TimedEvent Event}
    {before after : List (TimedEvent Event)}
    {value : Value}
    (taken : agenda.Taken entry before after next)
    (inside : select entry.event = some value)
    (increasing :
      (agenda.line select).Pairwise fun first second =>
        first.1 < second.1) :
    agenda.line select = (entry.time, value) :: next.line select := by
  have split :
      agenda.line select =
        before.filterMap
            (fun entry =>
              (select entry.event).map fun value =>
                (entry.time, value)) ++
          (entry.time, value) ::
            after.filterMap fun entry =>
              (select entry.event).map fun value =>
                (entry.time, value) := by
    rw [line, taken.pending, List.filterMap_append,
      List.filterMap_cons, inside]
    rfl
  -- An earlier element of the line would have an earlier time.
  have alone :
      before.filterMap
          (fun entry =>
            (select entry.event).map fun value => (entry.time, value)) =
        [] := by
    rw [List.eq_nil_iff_forall_not_mem]
    intro early member
    rw [split, List.pairwise_append] at increasing
    have sooner :=
      increasing.2.2 early member (entry.time, value) List.mem_cons_self
    obtain ⟨other, inBefore, picked⟩ := List.mem_filterMap.mp member
    obtain ⟨_, _, rfl⟩ := Option.map_eq_some_iff.mp picked
    have later : entry.time ≤ other.time := by
      apply taken.earliest
      rw [taken.pending]
      exact List.mem_append_left _ inBefore
    exact absurd sooner (Nat.not_lt.mpr later)
  rw [split, line, taken.rest, List.filterMap_append, alone]
  rfl

end Line

/-! ## Properties of all events -/

/-- A property of all events to come. -/
def Every (holds : Event → Prop) (agenda : Agenda Event) : Prop :=
  ∀ entry ∈ agenda.pending, holds entry.event

theorem Every.mono
    {holds weaker : Event → Prop}
    {agenda : Agenda Event}
    (every : agenda.Every holds)
    (weakens : ∀ event, holds event → weaker event) :
    agenda.Every weaker :=
  fun entry member => weakens _ (every entry member)

theorem Every.schedule
    {holds : Event → Prop}
    {agenda : Agenda Event}
    {later : List (Nat × Event)}
    (every : agenda.Every holds)
    (new : ∀ entry ∈ later, holds entry.2) :
    (agenda.schedule later).Every holds := by
  intro entry member
  rcases List.mem_append.mp member with old | added
  · exact every entry old
  · obtain ⟨delayed, inLater, rfl⟩ := List.mem_map.mp added
    exact new delayed inLater

/-- What holds of all events holds of the one that is taken and of the rest. -/
theorem Taken.every
    {holds : Event → Prop}
    {agenda next : Agenda Event}
    {entry : TimedEvent Event}
    {before after : List (TimedEvent Event)}
    (taken : agenda.Taken entry before after next)
    (every : agenda.Every holds) :
    holds entry.event ∧ next.Every holds := by
  unfold Every at every ⊢
  rw [taken.pending] at every
  rw [taken.rest]
  refine
    ⟨every entry (List.mem_append_right _ List.mem_cons_self),
      fun other member => ?_⟩
  rcases List.mem_append.mp member with early | late
  · exact every other (List.mem_append_left _ early)
  · exact
      every other
        (List.mem_append_right _ (List.mem_cons_of_mem _ late))

/-! ## Weights -/

theorem weigh_schedule
    (weight : Event → Nat)
    (agenda : Agenda Event)
    (later : List (Nat × Event)) :
    (agenda.schedule later).weigh weight =
      agenda.weigh weight + (later.map fun entry => weight entry.2).sum := by
  unfold weigh schedule
  rw [List.map_append, List.sum_append, List.map_map]
  rfl

/-- Taking an event takes its weight away. -/
theorem Taken.weigh
    {agenda next : Agenda Event}
    {entry : TimedEvent Event}
    {before after : List (TimedEvent Event)}
    (taken : agenda.Taken entry before after next)
    (weight : Event → Nat) :
    agenda.weigh weight = next.weigh weight + weight entry.event := by
  unfold Agenda.weigh
  rw [taken.pending, taken.rest]
  simp only [List.map_append, List.map_cons, List.sum_append,
    List.sum_cons]
  omega

end Agenda
