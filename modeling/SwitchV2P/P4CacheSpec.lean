import SwitchV2P.P4CacheHistory
import SwitchV2P.SwitchRuns

namespace SwitchV2P

open Histories

/-!
# What the switch cache promises

Three views of `P4Cache` after any sequence of calls: a dictionary with one
entry for each slot, an eviction report that misses no live entry, and an
access bit that tells whether the entry was hit since its slot was last used
for anything else.
-/

namespace P4Cache

variable {K V : Type} [DecidableEq K] [DecidableEq V] [Zero K] [Zero V]

/-! ## Reported evictions -/

/-- The slot of `key` holds an entry that `Get` would return. -/
structure Occupies
    (cache : P4Cache K V)
    (key other : K)
    (occupant : V) : Prop where
  collide : cache.Collide other key
  found : (cache.get other).1 = some occupant

omit [Zero K] in
/-- Such an entry is what the slot has, with a nonzero value. -/
theorem Occupies.stored
    {cache : P4Cache K V}
    {key other : K}
    {occupant : V}
    (occupies : cache.Occupies key other occupant) :
    cache.slot key = (other, occupant) ∧ occupant ≠ 0 := by
  obtain ⟨stored, nonzero⟩ := get_eq_some_iff.mp occupies.found
  refine ⟨?_, nonzero⟩
  rw [← stored]
  unfold slot
  rw [occupies.collide]

/--
A write to the slot of `key` loses no live entry of another key silently: `Put`
reports exactly such an entry, and `PutIfNotEvict` refuses exactly for one.
-/
structure ReportsLoss
    (cache : P4Cache K V)
    (key : K)
    (value : V) : Prop where
  put :
    ∀ other occupant,
      (cache.put key value).1 = some (other, occupant) ↔
        cache.Occupies key other occupant ∧ other ≠ key
  putIfNotEvict :
    cache.putIfNotEvict key value = (false, cache) ↔
      ∃ other occupant, cache.Occupies key other occupant ∧ other ≠ key

omit [DecidableEq V] [Zero V] in
/-- `PutIfNotEvict` refuses when the slot has another nonzero key. -/
theorem putIfNotEvict_refused_iff
    {cache : P4Cache K V}
    {key : K}
    {value : V} :
    cache.putIfNotEvict key value = (false, cache) ↔
      (cache.slot key).1 ≠ 0 ∧ (cache.slot key).1 ≠ key := by
  unfold putIfNotEvict
  constructor
  · intro refused
    by_contra free
    rw [if_neg free] at refused
    exact absurd (congrArg Prod.fst refused).symm Bool.false_ne_true
  · exact fun occupied => if_pos occupied

namespace Recorded

variable
  {capacity : Nat}
  {capacity_pos : 0 < capacity}
  {hash : K → Nat}
  {state : Recorded K V}

/-- An occupant is a pair with a nonzero value. -/
theorem Consistent.occupies_iff
    (consistent : state.Consistent)
    {key other : K}
    {occupant : V} :
    state.cache.Occupies key other occupant ↔
      state.cache.slot key = (other, occupant) ∧ occupant ≠ 0 := by
  constructor
  · exact fun occupies => occupies.stored
  · rintro ⟨stored, nonzero⟩
    have collide := consistent.collide_of_live stored nonzero
    refine ⟨collide, get_eq_some_iff.mpr ⟨?_, nonzero⟩⟩
    rw [← stored]
    unfold slot
    rw [collide]

/--
The reports are exact unless the slot of a nonzero key holds an entry of the
key zero, which `Put` and `PutIfNotEvict` take for an empty slot.
-/
theorem reportsLoss_iff
    (reachable :
      recorder.Reachable NonzeroValues
        (setup capacity capacity_pos hash) state)
    (key : K)
    (value : V) :
    state.cache.ReportsLoss key value ↔
      key = 0 ∨ ∀ occupant, ¬ state.cache.Occupies key 0 occupant := by
  have consistent := consistent_of_reachable reachable
  constructor
  · intro reports
    by_contra unmet
    obtain ⟨nonzeroKey, occupied⟩ := not_or.mp unmet
    obtain ⟨occupant, occupies⟩ := not_forall_not.mp occupied
    have reported :=
      (reports.put 0 occupant).mpr ⟨occupies, Ne.symm nonzeroKey⟩
    exact (put_evicted_eq_some_iff.mp reported).2.1 rfl
  · intro noZero
    have sameTest (other : K) (occupant : V)
        (stored : state.cache.slot key = (other, occupant)) :
        other ≠ 0 ∧ other ≠ key ↔ occupant ≠ 0 ∧ other ≠ key := by
      constructor
      · rintro ⟨nonzeroKey, different⟩
        refine ⟨fun isZero => ?_, different⟩
        rcases consistent.stores (state.cache.getIndex key) with
          empty | live
        · have isEmpty : state.cache.slot key = (0, 0) := empty
          rw [isEmpty] at stored
          exact nonzeroKey (congrArg Prod.fst stored).symm
        · have atSlot : (state.cache.slot key).2 ≠ 0 := live
          rw [stored] at atSlot
          exact atSlot isZero
      · rintro ⟨nonzero, different⟩
        refine ⟨?_, different⟩
        rintro rfl
        rcases noZero with isZero | free
        · exact different isZero.symm
        · exact
            free occupant
              (consistent.occupies_iff.mpr ⟨stored, nonzero⟩)
    constructor
    · intro other occupant
      rw [put_evicted_eq_some_iff, consistent.occupies_iff, and_assoc]
      exact and_congr_right (sameTest other occupant)
    · rw [putIfNotEvict_refused_iff]
      constructor
      · intro refused
        have entry := (sameTest _ _ rfl).mp refused
        exact
          ⟨_, _, consistent.occupies_iff.mpr ⟨rfl, entry.1⟩, entry.2⟩
      · rintro ⟨other, occupant, occupies, different⟩
        obtain ⟨stored, nonzero⟩ := consistent.occupies_iff.mp occupies
        rw [stored]
        exact (sameTest other occupant stored).mpr ⟨nonzero, different⟩

end Recorded

/-- A nonzero value may be put at any time. -/
theorem Recorded.reachable_record_put
    {initial state : Recorded K V}
    (reachable : recorder.Reachable NonzeroValues initial state)
    (key : K)
    {value : V}
    (nonzero : value ≠ 0) :
    recorder.Reachable NonzeroValues initial
      (state.record (.put key value)) := by
  refine reachable.step ?_ rfl
  intro written other writes
  rcases writes with isPut | isPutIfNotEvict
  · cases isPut
    exact nonzero
  · cases isPutIfNotEvict

/-- A key may be removed at any time. -/
theorem Recorded.reachable_record_remove
    {initial state : Recorded K V}
    (reachable : recorder.Reachable NonzeroValues initial state)
    (key : K) :
    recorder.Reachable NonzeroValues initial
      (state.record (.remove key)) := by
  refine reachable.step ?_ rfl
  intro written other writes
  rcases writes with isPut | isPutIfNotEvict
  · cases isPut
  · cases isPutIfNotEvict

/--
Container 0 has the virtual address 0, and its entry is lost silently to
container 1 in a cache with one slot.
-/
theorem lossOfContainerZero :
    (SimulationBase.assignIds [[["first"], ["second"]]]).containerToId
        "first" = some 0 ∧
      (SimulationBase.assignIds [[["first"], ["second"]]]).containerToId
        "second" = some 1 ∧
      ∃ state : Recorded Ipv4Address Ipv4Address,
        recorder.Reachable NonzeroValues
            (Recorded.setup 1 Nat.one_pos fun _ => 0) state ∧
          ¬ state.cache.ReportsLoss
              (IpUtils.getContainerVirtualAddress 1) 9 := by
  refine
    ⟨by decide, by decide,
      (Recorded.setup 1 Nat.one_pos fun _ => 0).record
        (.put (IpUtils.getContainerVirtualAddress 0) 7),
      Recorded.reachable_record_put .start _ (by decide), ?_⟩
  intro reports
  have occupies :
      ((Recorded.setup 1 Nat.one_pos fun _ => 0).record
          (.put 0 7) : Recorded Ipv4Address Ipv4Address).cache.Occupies
        1 0 7 :=
    ⟨rfl, by decide⟩
  have reported := (reports.put 0 7).mpr ⟨occupies, by decide⟩
  exact absurd reported (by decide)

/-- Between containers 1 and 2 the reports are exact. -/
theorem reportsLoss_afterPut :
    ((Recorded.setup 1 Nat.one_pos fun _ => 0).record
      (.put 1 7) : Recorded Ipv4Address Ipv4Address).cache.ReportsLoss
        2 9 := by
  refine
    (Recorded.reportsLoss_iff
      (Recorded.reachable_record_put .start 1 (by decide)) 2 9).mpr
      (Or.inr fun occupant occupies => ?_)
  have missed :
      (((Recorded.setup 1 Nat.one_pos fun _ => 0).record
        (.put 1 7) : Recorded Ipv4Address Ipv4Address).cache.get 0).1 =
          none := by
    decide
  exact absurd (missed.symm.trans occupies.found) (Option.some_ne_none _).symm

/-! ## The access bit -/

/-- A `Get`, `Put` or `Remove` that indexed a slot. -/
def IndexedAt
    (cache : P4Cache K V)
    (idx : Fin cache.cacheSize)
    (event : Event K V) : Prop :=
  cache.getIndex event.call.key = idx ∧ event.call.DecidesBit

/-- Only the bits of slots that some key has are ever set. -/
def BitsUsed (cache : P4Cache K V) : Prop :=
  ∀ idx, cache.bits idx = true → ∃ key, cache.getIndex key = idx

omit [DecidableEq K] [DecidableEq V] [Zero K] [Zero V] in
theorem BitsUsed.update
    {cache : P4Cache K V}
    (used : cache.BitsUsed)
    (key : K)
    (bit : Bool)
    (idx : Fin cache.cacheSize)
    (isSet :
      Function.update cache.bits (cache.getIndex key) bit idx = true) :
    ∃ other, cache.getIndex other = idx := by
  by_cases same : idx = cache.getIndex key
  · exact ⟨key, same.symm⟩
  · rw [Function.update_of_ne same] at isSet
    exact used idx isSet

theorem BitsUsed.perform
    {cache : P4Cache K V}
    (used : cache.BitsUsed)
    (call : Call K V) :
    (cache.perform call).2.BitsUsed := by
  cases call with
  | put key value => exact used.update key false
  | putIfNotEvict key value =>
      change (cache.putIfNotEvict key value).2.BitsUsed
      unfold putIfNotEvict
      split <;> exact used
  | get key =>
      change (cache.get key).2.BitsUsed
      unfold P4Cache.get
      split <;> exact used.update key _
  | getWithBit key =>
      change (cache.getWithBit key).2.BitsUsed
      unfold P4Cache.getWithBit
      split
      · exact used.update key true
      · exact used
  | find key => exact used
  | getBit key => exact used
  | remove key => exact used.update key false

/-- A call that decides the bit sets it only as a lookup that hits. -/
theorem getBit_perform_of_indexed
    {cache : P4Cache K V}
    {call : Call K V}
    {key : K}
    (indexed : cache.IndexedBy key (cache.event call)) :
    (cache.perform call).2.getBit key = true ↔
      ∃ looked, cache.event call = ⟨.get looked, true⟩ := by
  obtain ⟨collide, decides⟩ := indexed
  have atSlot : cache.Collide key call.key := collide
  cases call with
  | put written value =>
      have bit : (cache.put written value).2.getBit key = false := by
        rw [getBit_put]
        exact if_pos atSlot
      simp [P4Cache.perform, event, bit]
  | get looked =>
      have bit :
          (cache.get looked).2.getBit key = (cache.get looked).1.isSome := by
        rw [getBit_get]
        exact if_pos atSlot
      simp [P4Cache.perform, event, bit]
  | remove removed =>
      have bit : (cache.remove removed).getBit key = false := by
        rw [getBit_remove]
        exact if_pos atSlot
      simp [P4Cache.perform, event, bit]
  | _ => exact absurd decides id

/-- No other call but the `Get` with three arguments changes a bit. -/
theorem getBit_perform_of_not_indexed
    {cache : P4Cache K V}
    {call : Call K V}
    {key : K}
    (twoArguments : ∀ looked, call ≠ .getWithBit looked)
    (apart : ¬ cache.IndexedBy key (cache.event call)) :
    (cache.perform call).2.getBit key = cache.getBit key := by
  cases call with
  | put written value =>
      rw [P4Cache.perform, getBit_put]
      exact if_neg fun collide => apart ⟨collide, trivial⟩
  | putIfNotEvict written value =>
      exact getBit_putIfNotEvict cache written key value
  | get looked =>
      rw [P4Cache.perform, getBit_get]
      exact if_neg fun collide => apart ⟨collide, trivial⟩
  | getWithBit looked => exact absurd rfl (twoArguments looked)
  | find looked => rfl
  | getBit looked => rfl
  | remove removed =>
      rw [P4Cache.perform, getBit_remove]
      exact if_neg fun collide => apart ⟨collide, trivial⟩

/-- Nonzero keys and values are written, and `Get` has two arguments. -/
structure BitCall (_ : Recorded K V) (call : Call K V) : Prop where
  nonzero :
    ∀ key value, call.Writes key value → key ≠ 0 ∧ value ≠ 0
  twoArguments : ∀ key, call ≠ .getWithBit key

namespace Recorded

/--
A slot is live, and the latest `Get`, `Put` or `Remove` that indexed it was a
`Get` that hit its present occupant.
-/
structure HitLast
    (state : Recorded K V)
    (idx : Fin state.cache.cacheSize) : Prop where
  live : (state.cache.array idx).2 ≠ 0
  latest :
    Latest (state.cache.IndexedAt idx) state.history
      ⟨.get (state.cache.array idx).1, true⟩

/-- What ties the access bits to the history. -/
structure BitsTracked (state : Recorded K V) : Prop where
  stores : state.cache.Stores fun key value => key ≠ 0 ∧ value ≠ 0
  used : state.cache.BitsUsed
  bit :
    ∀ key,
      state.cache.getBit key = true ↔
        ∃ looked,
          Latest (state.cache.IndexedBy key) state.history
            ⟨.get looked, true⟩
  hit :
    ∀ key looked,
      Latest (state.cache.IndexedBy key) state.history
          ⟨.get looked, true⟩ →
        (state.cache.slot key).1 = looked ∧
          (state.cache.slot key).2 ≠ 0

omit [DecidableEq K] [DecidableEq V] in
theorem bitsTracked_setup
    (capacity : Nat)
    (capacity_pos : 0 < capacity)
    (hash : K → Nat) :
    (setup capacity capacity_pos hash : Recorded K V).BitsTracked where
  stores := .setup capacity capacity_pos hash
  used := fun _ isSet => absurd isSet Bool.false_ne_true
  bit := fun _ =>
    ⟨fun isSet => absurd isSet Bool.false_ne_true,
      fun ⟨_, latest⟩ => absurd latest not_latest_nil⟩
  hit := fun _ _ latest => absurd latest not_latest_nil

namespace BitsTracked

variable {state : Recorded K V} {call : Call K V}

/-- A lookup of the occupant stays the latest one that counts. -/
theorem hit_of_not_indexed
    (tracked : state.BitsTracked)
    (allowed : BitCall state call)
    {key looked : K}
    (apart : ¬ state.cache.IndexedBy key (state.cache.event call))
    (latest :
      Latest (state.cache.IndexedBy key) state.history
        ⟨.get looked, true⟩) :
    ((state.record call).cache.slot key).1 = looked ∧
      ((state.record call).cache.slot key).2 ≠ 0 := by
  obtain ⟨occupant, live⟩ := tracked.hit key looked latest
  have occupant_ne_zero : looked ≠ 0 := by
    rw [← occupant]
    exact (tracked.stores.of_live (state.cache.getIndex key) live).1
  by_cases rewritten :
      state.cache.RewrittenBy key (state.cache.event call)
  · have now : (state.record call).cache.slot key = call.leaves :=
      slot_perform_of_rewritten rewritten
    obtain ⟨collide, tookEffect⟩ := rewritten
    rw [now]
    cases call with
    | put written value => exact absurd ⟨collide, trivial⟩ apart
    | remove removed => exact absurd ⟨collide, trivial⟩ apart
    | putIfNotEvict written value =>
        have sameSlot : state.cache.slot written = state.cache.slot key := by
          unfold slot
          rw [show state.cache.getIndex key =
            state.cache.getIndex written from collide]
        have sameKey : written = looked := by
          by_contra different
          have refused :
              state.cache.putIfNotEvict written value =
                (false, state.cache) := by
            apply putIfNotEvict_refused_iff.mpr
            rw [sameSlot, occupant]
            exact ⟨occupant_ne_zero, Ne.symm different⟩
          have admitted :
              (state.cache.putIfNotEvict written value).1 = true :=
            tookEffect
          rw [refused] at admitted
          exact Bool.false_ne_true admitted
        exact
          ⟨sameKey,
            (allowed.nonzero written value (Or.inr rfl)).2⟩
    | _ => exact absurd tookEffect id
  · have kept : (state.record call).cache.slot key = state.cache.slot key :=
      slot_perform_of_not_rewritten rewritten
    rw [kept]
    exact ⟨occupant, live⟩

/-- A lookup that hits finds its key in the slot. -/
theorem hit_of_indexed
    {key looked : K}
    (indexed : state.cache.IndexedBy key (state.cache.event call))
    (isHit : state.cache.event call = ⟨.get looked, true⟩) :
    ((state.record call).cache.slot key).1 = looked ∧
      ((state.record call).cache.slot key).2 ≠ 0 := by
  obtain ⟨collide, _⟩ := indexed
  obtain rfl : call = .get looked := congrArg Event.call isHit
  have found : (state.cache.get looked).1.isSome = true :=
    congrArg Event.returned isHit
  obtain ⟨value, found⟩ := Option.isSome_iff_exists.mp found
  obtain ⟨stored, nonzero⟩ := get_eq_some_iff.mp found
  have now :
      (state.record (.get looked)).cache.slot key = (looked, value) := by
    have kept := slot_get state.cache looked key
    rw [← stored]
    apply kept.trans
    exact congrArg state.cache.array collide
  rw [now]
  exact ⟨rfl, nonzero⟩

theorem record
    (tracked : state.BitsTracked)
    (allowed : BitCall state call) :
    (state.record call).BitsTracked := by
  have moved (key : K) (event : Event K V) :
      Latest ((state.record call).cache.IndexedBy key)
          (state.record call).history event ↔
        Latest (state.cache.IndexedBy key)
          (state.history ++ [state.cache.event call]) event :=
    latest_indexedBy_perform
  refine
    ⟨tracked.stores.perform allowed.nonzero, tracked.used.perform call,
      fun key => ?_, fun key looked latest => ?_⟩
  · by_cases indexed :
        state.cache.IndexedBy key (state.cache.event call)
    · have decided :
          (state.record call).cache.getBit key = true ↔
            ∃ looked, state.cache.event call = ⟨.get looked, true⟩ :=
        getBit_perform_of_indexed indexed
      rw [decided]
      apply exists_congr
      intro looked
      rw [moved, latest_append_of_kind indexed]
      exact eq_comm
    · have kept :
          (state.record call).cache.getBit key = state.cache.getBit key :=
        getBit_perform_of_not_indexed allowed.twoArguments indexed
      rw [kept, tracked.bit key]
      apply exists_congr
      intro looked
      rw [moved, latest_append_of_not indexed]
  · have latest := (moved key _).mp latest
    by_cases indexed :
        state.cache.IndexedBy key (state.cache.event call)
    · exact
        hit_of_indexed indexed
          ((latest_append_of_kind indexed).mp latest).symm
    · exact
        tracked.hit_of_not_indexed allowed indexed
          ((latest_append_of_not indexed).mp latest)

end BitsTracked

variable
  {capacity : Nat}
  {capacity_pos : 0 < capacity}
  {hash : K → Nat}
  {state : Recorded K V}

theorem bitsTracked_of_reachable
    (reachable :
      recorder.Reachable BitCall
        (setup capacity capacity_pos hash) state) :
    state.BitsTracked := by
  refine
    reachable.invariant BitsTracked
      (bitsTracked_setup capacity capacity_pos hash) ?_
  intro state call next tracked allowed stepped
  obtain rfl := Option.some.inj stepped
  exact tracked.record allowed

omit [DecidableEq K] [DecidableEq V] in
/-- The bit of the slot of a key tells whether its occupant was hit last. -/
theorem BitsTracked.bit_iff_hitLast
    (tracked : state.BitsTracked)
    (idx : Fin state.cache.cacheSize) :
    state.cache.bits idx = true ↔ state.HitLast idx := by
  by_cases isUsed : ∃ key, state.cache.getIndex key = idx
  · obtain ⟨key, rfl⟩ := isUsed
    have sameKind (event : Event K V) :
        state.cache.IndexedBy key event ↔
          state.cache.IndexedAt (state.cache.getIndex key) event :=
      and_congr_left' eq_comm
    constructor
    · intro isSet
      obtain ⟨looked, latest⟩ := (tracked.bit key).mp isSet
      obtain ⟨occupant, live⟩ := tracked.hit key looked latest
      refine ⟨live, (latest_congr sameKind).mp ?_⟩
      rw [← occupant] at latest
      exact latest
    · rintro ⟨live, latest⟩
      exact
        (tracked.bit key).mpr ⟨_, (latest_congr sameKind).mpr latest⟩
  · constructor
    · exact fun isSet => absurd (tracked.used idx isSet) isUsed
    · rintro ⟨_, latest⟩
      exact absurd ⟨_, latest.isKind.1⟩ isUsed

/--
The access bit of a slot is set exactly when the slot is live and was last
looked up with a hit.  The bit of an empty slot is clear, so that an entry that
`PutIfNotEvict` adds starts with a clear bit.
-/
theorem bit_meaning
    (reachable :
      recorder.Reachable BitCall
        (setup capacity capacity_pos hash) state) :
    (∀ idx, state.cache.bits idx = true ↔ state.HitLast idx) ∧
      (∀ idx, (state.cache.array idx).2 = 0 →
        state.cache.bits idx = false) ∧
      ∀ key value, key ≠ 0 →
        state.cache.find key = false →
        (state.cache.putIfNotEvict key value).1 = true →
        (state.cache.putIfNotEvict key value).2.getBit key = false := by
  have tracked := bitsTracked_of_reachable reachable
  have clear (idx : Fin state.cache.cacheSize)
      (empty : (state.cache.array idx).2 = 0) :
      state.cache.bits idx = false := by
    apply Bool.eq_false_of_not_eq_true
    intro isSet
    exact ((tracked.bit_iff_hitLast idx).mp isSet).live empty
  refine ⟨tracked.bit_iff_hitLast, clear, ?_⟩
  intro key value key_ne_zero absent admitted
  rw [getBit_putIfNotEvict]
  apply clear
  by_contra live
  have absent :
      ¬ ((state.cache.slot key).1 = key ∧ (state.cache.slot key).2 ≠ 0) :=
    of_decide_eq_false absent
  have occupied := (tracked.stores.of_live _ live).1
  have refused :
      state.cache.putIfNotEvict key value = (false, state.cache) :=
    putIfNotEvict_refused_iff.mpr
      ⟨occupied, fun same => absent ⟨same, live⟩⟩
  rw [refused] at admitted
  exact Bool.false_ne_true admitted

/-- The only slot of a cache after container 1 was stored and looked up. -/
theorem bit_meaning_afterHit :
    ∃ state : Recorded Ipv4Address Ipv4Address,
      state.cache.find 1 = true ∧
        state.HitLast (state.cache.getIndex 1) := by
  have reachable :
      recorder.Reachable BitCall
        (setup 1 Nat.one_pos fun _ => 0 : Recorded Ipv4Address Ipv4Address)
        (((setup 1 Nat.one_pos fun _ => 0).record (.put 1 7)).record
          (.get 1)) := by
    refine (TransitionSystem.Reachable.start.step ?_ rfl).step ?_ rfl
    · refine ⟨fun key value writes => ?_, fun key => by simp⟩
      rcases writes with isPut | isPutIfNotEvict
      · cases isPut
        decide
      · cases isPutIfNotEvict
    · refine ⟨fun key value writes => ?_, fun key => by simp⟩
      rcases writes with isPut | isPutIfNotEvict
      · cases isPut
      · cases isPutIfNotEvict
  exact ⟨_, by decide, ((bit_meaning reachable).1 _).mp (by decide)⟩

end Recorded

end P4Cache

end SwitchV2P
