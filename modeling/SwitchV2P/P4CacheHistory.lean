import SwitchV2P.Histories
import SwitchV2P.P4Cache
import SwitchV2P.SimulationBase
import SwitchV2P.TransitionSystem

namespace SwitchV2P

open Histories

/-!
# The switch cache against its own history

Every call of a member function of `P4Cache` is recorded with its Boolean
result.  The invariants tie each slot to the latest recorded event that could
change it: its pair to the latest write or removal, and its access bit to the
latest lookup, write or removal.
-/

namespace P4Cache

/-- A call of a member function. -/
inductive Call (K V : Type) where
  | put (key : K) (value : V)
  | putIfNotEvict (key : K) (value : V)
  | get (key : K)
  | getWithBit (key : K)
  | find (key : K)
  | getBit (key : K)
  | remove (key : K)
  deriving Repr, DecidableEq

/-- A call and the Boolean it returned.  `Remove` returns nothing. -/
structure Event (K V : Type) where
  call : Call K V
  returned : Bool
  deriving Repr, DecidableEq

/-- A cache and all calls so far, the latest one last. -/
structure Recorded (K V : Type) where
  cache : P4Cache K V
  history : List (Event K V)

namespace Call

variable {K V : Type} [Zero K] [Zero V]

/-- The key that a call is given, which selects the slot. -/
def key : Call K V → K
  | .put key _ => key
  | .putIfNotEvict key _ => key
  | .get key => key
  | .getWithBit key => key
  | .find key => key
  | .getBit key => key
  | .remove key => key

/-- The pair that a call leaves in its slot if it writes it. -/
def leaves : Call K V → K × V
  | .put key value => (key, value)
  | .putIfNotEvict key value => (key, value)
  | _ => (0, 0)

/-- The call stores the value under the key, if it takes effect. -/
def Writes
    (call : Call K V)
    (key : K)
    (value : V) : Prop :=
  call = .put key value ∨ call = .putIfNotEvict key value

/-- The call looks up, stores or removes a key. -/
def DecidesBit : Call K V → Prop
  | .put _ _ => True
  | .get _ => True
  | .remove _ => True
  | _ => False

/-- What a call leaves is nonzero only if it writes. -/
theorem leaves_eq_iff
    {call : Call K V}
    {key : K}
    {value : V}
    (nonzero : value ≠ 0) :
    call.leaves = (key, value) ↔ call.Writes key value := by
  have empty : ((0, 0) : K × V) ≠ (key, value) := fun same =>
    nonzero (congrArg Prod.snd same).symm
  cases call <;> simp [leaves, Writes, empty]

end Call

/-- The call wrote or emptied its slot. -/
def Event.TookEffect {K V : Type} (event : Event K V) : Prop :=
  match event.call with
  | .put _ _ => True
  | .putIfNotEvict _ _ => event.returned = true
  | .remove _ => True
  | _ => False

variable {K V : Type} [DecidableEq K] [DecidableEq V] [Zero K] [Zero V]

/-- What a call returns, and the cache after it. -/
def perform
    (cache : P4Cache K V) :
    Call K V → Bool × P4Cache K V
  | .put key value =>
      let stored := cache.put key value
      (stored.1.isSome, stored.2)
  | .putIfNotEvict key value => cache.putIfNotEvict key value
  | .get key =>
      let lookup := cache.get key
      (lookup.1.isSome, lookup.2)
  | .getWithBit key =>
      let lookup := cache.getWithBit key
      (lookup.1.isSome, lookup.2)
  | .find key => (cache.find key, cache)
  | .getBit key => (cache.getBit key, cache)
  | .remove key => (false, cache.remove key)

/-- The event that a call is recorded as. -/
def event
    (cache : P4Cache K V)
    (call : Call K V) :
    Event K V where
  call := call
  returned := (cache.perform call).1

/-- The latest event of this kind decides what the slot of the key holds. -/
def RewrittenBy
    (cache : P4Cache K V)
    (key : K)
    (event : Event K V) : Prop :=
  cache.Collide key event.call.key ∧ event.TookEffect

/-- A `Get`, `Put` or `Remove` that indexed the slot of the key. -/
def IndexedBy
    (cache : P4Cache K V)
    (key : K)
    (event : Event K V) : Prop :=
  cache.Collide key event.call.key ∧ event.call.DecidesBit

namespace Recorded

/-- A cache after `Setup`, before any call. -/
def setup
    (capacity : Nat)
    (capacity_pos : 0 < capacity)
    (hash : K → Nat) :
    Recorded K V where
  cache := P4Cache.setup capacity capacity_pos hash
  history := []

/-- Perform a call and record it. -/
def record
    (state : Recorded K V)
    (call : Call K V) :
    Recorded K V where
  cache := (state.cache.perform call).2
  history := state.history ++ [state.cache.event call]

end Recorded

/-- A cache and its history, as a transition system. -/
def recorder : TransitionSystem (Recorded K V) (Call K V) where
  step := fun state call => some (state.record call)

/-! ## What one call does to a slot -/

/-- No call changes where a key is stored. -/
theorem collide_perform
    (cache : P4Cache K V)
    (call : Call K V)
    (first second : K) :
    (cache.perform call).2.Collide first second ↔
      cache.Collide first second := by
  cases call with
  | put key value => exact collide_put cache key first second value
  | putIfNotEvict key value =>
      exact collide_putIfNotEvict cache key first second value
  | get key => exact collide_get cache key first second
  | getWithBit key => exact collide_getWithBit cache key first second
  | find key => rfl
  | getBit key => rfl
  | remove key => exact collide_remove cache key first second

/-- A slot holds what the call left there, or what it held before. -/
theorem slot_perform_of_rewritten
    {cache : P4Cache K V}
    {call : Call K V}
    {key : K}
    (rewritten : cache.RewrittenBy key (cache.event call)) :
    (cache.perform call).2.slot key = call.leaves := by
  obtain ⟨collide, tookEffect⟩ := rewritten
  cases call with
  | put written value =>
      rw [perform, slot_put]
      exact if_pos collide
  | putIfNotEvict written value =>
      have admitted : (cache.putIfNotEvict written value).1 = true :=
        tookEffect
      rw [perform, slot_putIfNotEvict]
      refine if_pos ⟨collide, ?_⟩
      by_contra occupied
      have refused :
          (cache.putIfNotEvict written value).1 = false := by
        unfold putIfNotEvict
        rw [if_pos (not_or.mp occupied)]
      rw [refused] at admitted
      exact Bool.false_ne_true admitted
  | remove removed =>
      rw [perform, slot_remove]
      exact if_pos collide
  | _ => exact absurd tookEffect id

theorem slot_perform_of_not_rewritten
    {cache : P4Cache K V}
    {call : Call K V}
    {key : K}
    (kept : ¬ cache.RewrittenBy key (cache.event call)) :
    (cache.perform call).2.slot key = cache.slot key := by
  cases call with
  | put written value =>
      rw [perform, slot_put]
      exact if_neg fun collide => kept ⟨collide, trivial⟩
  | putIfNotEvict written value =>
      rw [perform, slot_putIfNotEvict]
      refine if_neg fun admitted => kept ⟨admitted.1, ?_⟩
      have free :
          ¬ ((cache.slot written).1 ≠ 0 ∧
            (cache.slot written).1 ≠ written) := by
        tauto
      change (cache.putIfNotEvict written value).1 = true
      unfold putIfNotEvict
      rw [if_neg free]
  | get looked => exact slot_get cache looked key
  | getWithBit looked => exact slot_getWithBit cache looked key
  | find looked => rfl
  | getBit looked => rfl
  | remove removed =>
      rw [perform, slot_remove]
      exact if_neg fun collide => kept ⟨collide, trivial⟩

/-- A call stores what it is given, and nothing else. -/
theorem Stores.perform
    {holds : K → V → Prop}
    {cache : P4Cache K V}
    (stores : cache.Stores holds)
    {call : Call K V}
    (new : ∀ key value, call.Writes key value → holds key value) :
    (cache.perform call).2.Stores holds := by
  cases call with
  | put key value => exact stores.put (new key value (Or.inl rfl))
  | putIfNotEvict key value =>
      exact stores.putIfNotEvict (new key value (Or.inr rfl))
  | get key => exact stores.get key
  | getWithBit key => exact stores.getWithBit key
  | find key => exact stores
  | getBit key => exact stores
  | remove key => exact stores.remove key

/-! ## The pair of a slot -/

/-- A call moves no event to another slot. -/
theorem latest_rewrittenBy_perform
    {cache : P4Cache K V}
    {call : Call K V}
    {key : K}
    {history : List (Event K V)}
    {event : Event K V} :
    Latest ((cache.perform call).2.RewrittenBy key) history event ↔
      Latest (cache.RewrittenBy key) history event :=
  latest_congr fun other =>
    and_congr_left' (collide_perform cache call key other.call.key)

theorem latest_indexedBy_perform
    {cache : P4Cache K V}
    {call : Call K V}
    {key : K}
    {history : List (Event K V)}
    {event : Event K V} :
    Latest ((cache.perform call).2.IndexedBy key) history event ↔
      Latest (cache.IndexedBy key) history event :=
  latest_congr fun other =>
    and_congr_left' (collide_perform cache call key other.call.key)

namespace Recorded

/-- Every live slot holds what the latest event that changed it left there. -/
def Tracks (state : Recorded K V) : Prop :=
  ∀ key entry, entry.2 ≠ 0 →
    (state.cache.slot key = entry ↔
      ∃ event,
        Latest (state.cache.RewrittenBy key) state.history event ∧
          event.call.leaves = entry)

omit [DecidableEq K] [DecidableEq V] in
theorem tracks_setup
    (capacity : Nat)
    (capacity_pos : 0 < capacity)
    (hash : K → Nat) :
    (setup capacity capacity_pos hash : Recorded K V).Tracks := by
  intro key entry nonzero
  constructor
  · intro stored
    exact absurd (congrArg Prod.snd stored).symm nonzero
  · rintro ⟨event, latest, _⟩
    exact absurd latest not_latest_nil

theorem Tracks.record
    {state : Recorded K V}
    (tracks : state.Tracks)
    (call : Call K V) :
    (state.record call).Tracks := by
  intro key entry nonzero
  have moved (event : Event K V) :
      Latest ((state.record call).cache.RewrittenBy key)
          (state.record call).history event ↔
        Latest (state.cache.RewrittenBy key)
          (state.history ++ [state.cache.event call]) event :=
    latest_rewrittenBy_perform
  by_cases rewritten :
      state.cache.RewrittenBy key (state.cache.event call)
  · have now : (state.record call).cache.slot key = call.leaves :=
      slot_perform_of_rewritten rewritten
    rw [now]
    constructor
    · intro left
      exact
        ⟨state.cache.event call,
          (moved _).mpr ((latest_append_of_kind rewritten).mpr rfl), left⟩
    · rintro ⟨event, latest, left⟩
      obtain rfl :=
        (latest_append_of_kind rewritten).mp ((moved event).mp latest)
      exact left
  · have kept : (state.record call).cache.slot key = state.cache.slot key :=
      slot_perform_of_not_rewritten rewritten
    rw [kept, tracks key entry nonzero]
    apply exists_congr
    intro event
    rw [moved event, latest_append_of_not rewritten]

end Recorded

/-- Whatever a call writes is nonzero. -/
def NonzeroValues (_ : Recorded K V) (call : Call K V) : Prop :=
  ∀ key value, call.Writes key value → value ≠ 0

/-- What is known about a cache into which only nonzero values are written. -/
structure Recorded.Consistent (state : Recorded K V) : Prop where
  tracks : state.Tracks
  stores : state.cache.Stores fun _ value => value ≠ 0
  written :
    ∀ event ∈ state.history,
      ∀ key value, event.call.Writes key value → value ≠ 0

namespace Recorded

variable
  {capacity : Nat}
  {capacity_pos : 0 < capacity}
  {hash : K → Nat}
  {state : Recorded K V}

theorem consistent_of_reachable
    (reachable :
      recorder.Reachable NonzeroValues
        (setup capacity capacity_pos hash) state) :
    state.Consistent := by
  refine
    reachable.invariant Consistent
      ⟨tracks_setup capacity capacity_pos hash,
        .setup capacity capacity_pos hash,
        fun event member => absurd member List.not_mem_nil⟩ ?_
  intro state call next consistent nonzero stepped
  obtain rfl := Option.some.inj stepped
  refine
    ⟨consistent.tracks.record call, consistent.stores.perform nonzero, ?_⟩
  intro event member
  rcases List.mem_append.mp member with old | new
  · exact consistent.written event old
  · obtain rfl := List.mem_singleton.mp new
    exact nonzero

namespace Consistent

/-- `Get` returns the value of the latest write that took effect. -/
theorem get_eq_some_iff_written
    (consistent : state.Consistent)
    (key : K)
    (value : V) :
    (state.cache.get key).1 = some value ↔
      ∃ event,
        Latest (state.cache.RewrittenBy key) state.history event ∧
          event.call.Writes key value := by
  rw [get_eq_some_iff]
  constructor
  · rintro ⟨stored, nonzero⟩
    obtain ⟨event, latest, left⟩ :=
      (consistent.tracks key (key, value) nonzero).mp stored
    exact ⟨event, latest, (Call.leaves_eq_iff nonzero).mp left⟩
  · rintro ⟨event, latest, writes⟩
    have nonzero := consistent.written event latest.mem key value writes
    have left := (Call.leaves_eq_iff nonzero).mpr writes
    exact
      ⟨(consistent.tracks key (key, value) nonzero).mpr
          ⟨event, latest, left⟩,
        nonzero⟩

omit [DecidableEq K] [DecidableEq V] in
/-- A live entry is stored in the slot of its own key. -/
theorem collide_of_live
    (consistent : state.Consistent)
    {key other : K}
    {value : V}
    (stored : state.cache.slot key = (other, value))
    (nonzero : value ≠ 0) :
    state.cache.Collide other key := by
  obtain ⟨event, latest, left⟩ :=
    (consistent.tracks key (other, value) nonzero).mp stored
  have writes := (Call.leaves_eq_iff nonzero).mp left
  have sameKey : event.call.key = other := by
    rcases writes with isPut | isPut <;> rw [isPut] <;> rfl
  rw [← sameKey]
  exact latest.isKind.1.symm

end Consistent

end Recorded

end P4Cache

end SwitchV2P
