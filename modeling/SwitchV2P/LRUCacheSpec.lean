import Mathlib.Data.List.Pairwise
import SwitchV2P.LRUCache
import SwitchV2P.Recency
import SwitchV2P.TransitionSystem

namespace SwitchV2P

open Histories
open Recency

/-!
# `LRUCache` replaces the least recently used key

A map and a deque that are updated side by side keep the same keys.  Against
the history of the calls the deque is the list of keys that a store of its
capacity keeps when it drops the least recently used one.
-/

namespace LRUCache

/-- A call of a member function. -/
inductive Call (K V : Type) where
  | put (key : K) (value : V)
  | get (key : K)
  | find (key : K)
  | remove (key : K)
  deriving Repr, DecidableEq

/-- A cache and what has touched its keys, the latest last. -/
structure Recorded (K V : Type) where
  cache : LRUCache K V
  history : List (Touch K V)

variable {K V : Type} [DecidableEq K]

/-- The cache after a call. -/
def perform (cache : LRUCache K V) : Call K V → LRUCache K V
  | .put key value => (cache.put key value).2
  | .get key => (cache.get key).2
  | .find _ => cache
  | .remove key => cache.remove key

/-- The keys that a call touches; a lookup that misses touches none. -/
def touches (cache : LRUCache K V) : Call K V → List (Touch K V)
  | .put key value => [.put key value]
  | .get key => if cache.find key then [.got key] else []
  | .find _ => []
  | .remove key => [.removed key]

/-- The key for which a call scans the deque. -/
def scanned (cache : LRUCache K V) : Call K V → Option K
  | .put key _ => if cache.find key then some key else none
  | .get key => if cache.find key then some key else none
  | .find _ => none
  | .remove key => some key

namespace Recorded

/-- A cache after `SetCapacity`, before any call. -/
def setCapacity (capacity : Nat) : Recorded K V where
  cache := LRUCache.setCapacity capacity
  history := []

/-- Perform a call and record what it touches. -/
def record (state : Recorded K V) (call : Call K V) : Recorded K V where
  cache := state.cache.perform call
  history := state.history ++ state.cache.touches call

end Recorded

/-- A cache and its history, as a transition system. -/
def recorder : TransitionSystem (Recorded K V) (Call K V) where
  step := fun state call => some (state.record call)

/-- Only keys that are present are removed. -/
def RemovesPresent (state : Recorded K V) (call : Call K V) : Prop :=
  ∀ key, call = .remove key → state.cache.find key = true

/-! ## The map and the deque -/

/-- The deque lists the keys of the map, and no more than fit. -/
structure WellFormed (cache : LRUCache K V) : Prop where
  cacheSize_pos : 0 < cache.cacheSize
  nodup : cache.dq.Nodup
  bounded : cache.dq.length ≤ cache.cacheSize
  keys : ∀ key, key ∈ cache.dq ↔ cache.find key = true

variable {cache : LRUCache K V} {key : K}

omit [DecidableEq K] in
theorem map_eq_none_of_find
    (absent : cache.find key = false) :
    cache.map key = none :=
  Option.not_isSome_iff_eq_none.mp (Bool.eq_false_iff.mp absent)

/-- What `Put` does: refresh, add, or take the place of the last key. -/
inductive PutOutcome
    (cache : LRUCache K V)
    (key : K)
    (value : V) :
    Option (K × V) × LRUCache K V → Prop where
  | present
      (found : cache.find key = true) :
      PutOutcome cache key value
        (none,
          { cache with
            map := Function.update cache.map key (some value)
            dq := key :: cache.dq.erase key })
  | room
      (absent : cache.find key = false)
      (notFull : cache.dq.length < cache.cacheSize) :
      PutOutcome cache key value
        (none,
          { cache with
            map := Function.update cache.map key (some value)
            dq := key :: cache.dq })
  | full
      {earlier : List K}
      {last : K}
      {lastValue : V}
      (absent : cache.find key = false)
      (atCapacity : cache.dq.length = cache.cacheSize)
      (shape : cache.dq = earlier ++ [last])
      (stored : cache.map last = some lastValue) :
      PutOutcome cache key value
        (some (last, lastValue),
          { cache with
            map :=
              Function.update (Function.update cache.map last none) key
                (some value)
            dq := key :: earlier })

namespace WellFormed

omit [DecidableEq K] in
theorem not_mem
    (wellFormed : cache.WellFormed)
    (absent : cache.find key = false) :
    key ∉ cache.dq := by
  intro member
  rw [(wellFormed.keys key).mp member] at absent
  exact Bool.false_ne_true absent.symm

omit [DecidableEq K] in
theorem map_eq_none
    (wellFormed : cache.WellFormed)
    (notMember : key ∉ cache.dq) :
    cache.map key = none := by
  apply map_eq_none_of_find
  rw [Bool.eq_false_iff]
  exact fun found => notMember ((wellFormed.keys key).mpr found)

theorem putOutcome
    (wellFormed : cache.WellFormed)
    (key : K)
    (value : V) :
    PutOutcome cache key value (cache.put key value) := by
  cases found : cache.find key with
  | true =>
      rw [put_of_present value found]
      exact .present found
  | false =>
      have absent := map_eq_none_of_find found
      by_cases full : cache.cacheSize = cache.dq.length
      · rcases List.eq_nil_or_concat' cache.dq with
          empty | ⟨earlier, last, shape⟩
        · have pos := wellFormed.cacheSize_pos
          rw [full, empty] at pos
          exact absurd pos (Nat.lt_irrefl 0)
        · have present : cache.find last = true := by
            apply (wellFormed.keys last).mp
            rw [shape]
            exact List.mem_append_right _ List.mem_cons_self
          obtain ⟨lastValue, stored⟩ :=
            Option.isSome_iff_exists.mp present
          rw [put_of_full value absent full shape, stored]
          exact .full found full.symm shape stored
      · rw [put_of_room value absent full]
        exact
          .room found
            (Nat.lt_of_le_of_ne wellFormed.bounded (Ne.symm full))

/-- A write leaves room for the keys that were used before its own. -/
theorem dq_put
    (wellFormed : cache.WellFormed)
    (key : K)
    (value : V) :
    (cache.put key value).2.dq =
      (key :: cache.dq.erase key).take cache.cacheSize := by
  have outcome := wellFormed.putOutcome key value
  generalize cache.put key value = result at outcome ⊢
  cases outcome with
  | present found =>
      have member : key ∈ cache.dq := (wellFormed.keys key).mpr found
      rw [List.take_of_length_le]
      rw [List.length_cons, List.length_erase_add_one member]
      exact wellFormed.bounded
  | room absent notFull =>
      rw [List.erase_of_not_mem (wellFormed.not_mem absent),
        List.take_of_length_le]
      exact notFull
  | full absent atCapacity shape stored =>
      rw [List.erase_of_not_mem (wellFormed.not_mem absent), ← atCapacity,
        shape, List.length_append, List.length_singleton,
        List.take_succ_cons, List.take_left]

/-- The written key gets its value, the keys that stay keep theirs. -/
theorem map_put
    (wellFormed : cache.WellFormed)
    (key : K)
    (value : V)
    (other : K) :
    (cache.put key value).2.map other =
      if other = key then
        some value
      else if other ∈ (cache.put key value).2.dq then
        cache.map other
      else
        none := by
  by_cases same : other = key
  · subst same
    rw [if_pos rfl]
    have outcome := wellFormed.putOutcome other value
    generalize cache.put other value = result at outcome ⊢
    cases outcome with
    | present found => exact Function.update_self ..
    | room absent notFull => exact Function.update_self ..
    | full absent atCapacity shape stored => exact Function.update_self ..
  · rw [if_neg same]
    have outcome := wellFormed.putOutcome key value
    generalize cache.put key value = result at outcome ⊢
    cases outcome with
    | present found =>
        dsimp only
        rw [Function.update_of_ne same]
        split
        next kept => rfl
        next gone =>
          apply wellFormed.map_eq_none
          intro member
          exact
            gone
              (List.mem_cons_of_mem _ ((List.mem_erase_of_ne same).mpr member))
    | room absent notFull =>
        dsimp only
        rw [Function.update_of_ne same]
        split
        next kept => rfl
        next gone =>
          apply wellFormed.map_eq_none
          exact fun member => gone (List.mem_cons_of_mem _ member)
    | @full earlier last lastValue absent atCapacity shape stored =>
        have distinct := wellFormed.nodup
        rw [shape] at distinct
        dsimp only
        rw [Function.update_of_ne same]
        by_cases isLast : other = last
        · subst isLast
          have notKept : other ∉ key :: earlier := by
            intro member
            rcases List.mem_cons.mp member with isKey | inEarlier
            · exact same isKey
            · exact
                (List.nodup_append.mp distinct).2.2 other inEarlier other
                  List.mem_cons_self rfl
          rw [if_neg notKept]
          exact Function.update_self ..
        · rw [Function.update_of_ne isLast]
          split
          next kept => rfl
          next gone =>
            apply wellFormed.map_eq_none
            rw [shape]
            intro member
            rcases List.mem_append.mp member with inEarlier | atEnd
            · exact gone (List.mem_cons_of_mem _ inEarlier)
            · exact isLast (List.mem_singleton.mp atEnd)

theorem cacheSize_put
    (wellFormed : cache.WellFormed)
    (key : K)
    (value : V) :
    (cache.put key value).2.cacheSize = cache.cacheSize := by
  have outcome := wellFormed.putOutcome key value
  generalize cache.put key value = result at outcome ⊢
  cases outcome <;> rfl

theorem put
    (wellFormed : cache.WellFormed)
    (key : K)
    (value : V) :
    (cache.put key value).2.WellFormed := by
  have sameSize := wellFormed.cacheSize_put key value
  have shape := wellFormed.dq_put key value
  refine
    { cacheSize_pos := by rw [sameSize]; exact wellFormed.cacheSize_pos
      nodup := ?_
      bounded := ?_
      keys := fun other => ?_ }
  · rw [shape]
    have distinct : (key :: cache.dq.erase key).Nodup :=
      List.nodup_cons.mpr
        ⟨wellFormed.nodup.not_mem_erase, wellFormed.nodup.erase key⟩
    exact distinct.sublist (List.take_sublist _ _)
  · rw [shape, sameSize]
    exact List.length_take_le _ _
  · unfold find
    rw [wellFormed.map_put key value other]
    by_cases same : other = key
    · subst same
      rw [if_pos rfl, shape]
      exact iff_of_true (mem_take_cons wellFormed.cacheSize_pos) rfl
    · rw [if_neg same]
      split
      next kept =>
        refine iff_of_true kept ((wellFormed.keys other).mp ?_)
        rw [shape] at kept
        have kept :=
          (List.mem_cons.mp (List.mem_of_mem_take kept)).resolve_left same
        exact List.mem_of_mem_erase kept
      next gone => exact iff_of_false gone Bool.false_ne_true

/-- A successful lookup only changes the order. -/
theorem get
    (wellFormed : cache.WellFormed)
    (found : cache.find key = true) :
    ({ cache with dq := key :: cache.dq.erase key } :
      LRUCache K V).WellFormed := by
  have member : key ∈ cache.dq := (wellFormed.keys key).mpr found
  refine
    { cacheSize_pos := wellFormed.cacheSize_pos
      nodup :=
        List.nodup_cons.mpr
          ⟨wellFormed.nodup.not_mem_erase, wellFormed.nodup.erase key⟩
      bounded := ?_
      keys := fun other => ?_ }
  · rw [List.length_cons, List.length_erase_add_one member]
    exact wellFormed.bounded
  · rw [(List.perm_cons_erase member).symm.mem_iff]
    exact wellFormed.keys other

theorem remove
    (wellFormed : cache.WellFormed)
    (key : K) :
    (cache.remove key).WellFormed := by
  refine
    { cacheSize_pos := wellFormed.cacheSize_pos
      nodup := wellFormed.nodup.erase key
      bounded :=
        Nat.le_trans List.erase_sublist.length_le wellFormed.bounded
      keys := fun other => ?_ }
  unfold LRUCache.remove find
  dsimp only
  by_cases same : other = key
  · subst same
    rw [Function.update_self]
    exact
      iff_of_false wellFormed.nodup.not_mem_erase Bool.false_ne_true
  · rw [Function.update_of_ne same, List.mem_erase_of_ne same]
    exact wellFormed.keys other

end WellFormed

/-! ## The cache and its history -/

namespace Recorded

/--
The deque is the list of keys that a store of this capacity keeps, and every
value is that of the latest write of its key.
-/
structure Represents
    (capacity : Nat)
    (state : Recorded K V) : Prop where
  wellFormed : state.cache.WellFormed
  cacheSize : state.cache.cacheSize = capacity
  dq : state.cache.dq = cached capacity state.history
  latestPut :
    ∀ key value, state.cache.map key = some value →
      Latest (Touch.Puts key) state.history (.put key value)

variable {capacity : Nat} {state : Recorded K V}

theorem represents_setCapacity (capacity_pos : 0 < capacity) :
    (setCapacity capacity : Recorded K V).Represents capacity where
  wellFormed :=
    { cacheSize_pos := capacity_pos
      nodup := List.nodup_nil
      bounded := Nat.zero_le capacity
      keys := fun _ => iff_of_false List.not_mem_nil Bool.false_ne_true }
  cacheSize := rfl
  dq := rfl
  latestPut := fun _ _ stored => absurd stored (Option.some_ne_none _).symm

namespace Represents

theorem put
    (represents : state.Represents capacity)
    (key : K)
    (value : V) :
    (state.record (.put key value)).Represents capacity := by
  have wellFormed := represents.wellFormed
  refine
    { wellFormed := wellFormed.put key value
      cacheSize :=
        (wellFormed.cacheSize_put key value).trans represents.cacheSize
      dq := ?_
      latestPut := fun other otherValue stored => ?_ }
  · have written := wellFormed.dq_put key value
    rw [represents.cacheSize, represents.dq] at written
    apply written.trans
    exact (cached_append (.put key value)).symm
  · have stored :
        (state.cache.put key value).2.map other = some otherValue :=
      stored
    rw [wellFormed.map_put key value other] at stored
    by_cases same : other = key
    · subst same
      rw [if_pos rfl] at stored
      obtain rfl := Option.some.inj stored
      exact (latest_append_of_kind ⟨value, rfl⟩).mpr rfl
    · rw [if_neg same] at stored
      have apart : ¬ Touch.Puts other (.put key value : Touch K V) := by
        rintro ⟨written, samePut⟩
        cases samePut
        exact same rfl
      apply (latest_append_of_not apart).mpr
      split at stored
      next kept => exact represents.latestPut other otherValue stored
      next gone => exact absurd stored (Option.some_ne_none _).symm

theorem get
    (represents : state.Represents capacity)
    (key : K) :
    (state.record (.get key)).Represents capacity := by
  cases found : state.cache.find key with
  | true =>
      obtain ⟨value, stored⟩ := Option.isSome_iff_exists.mp found
      have next :
          state.record (.get key) =
            { cache :=
                { state.cache with dq := key :: state.cache.dq.erase key }
              history := state.history ++ [.got key] } := by
        have touched : state.cache.touches (.get key) = [.got key] :=
          if_pos found
        unfold record
        rw [touched]
        exact
          congrArg (fun looked => Recorded.mk looked.2 _)
            (get_of_present stored)
      have member : key ∈ state.cache.dq :=
        (represents.wellFormed.keys key).mpr found
      rw [next]
      refine
        { wellFormed := represents.wellFormed.get found
          cacheSize := represents.cacheSize
          dq := ?_
          latestPut := fun other value stored => ?_ }
      · have bounded := represents.wellFormed.bounded
        have fits :
            (key :: state.cache.dq.erase key).length ≤ capacity := by
          rw [List.length_cons, List.length_erase_add_one member,
            ← represents.cacheSize]
          exact bounded
        rw [represents.dq] at fits ⊢
        rw [cached_append]
        exact (List.take_of_length_le fits).symm
      · have apart : ¬ Touch.Puts other (.got key : Touch K V) := by
          rintro ⟨written, samePut⟩
          cases samePut
        apply (latest_append_of_not apart).mpr
        exact represents.latestPut other value stored
  | false =>
      have missed := map_eq_none_of_find found
      have next : state.record (.get key) = state := by
        have touched : state.cache.touches (.get key) = [] :=
          if_neg (Bool.eq_false_iff.mp found)
        unfold record
        rw [touched, List.append_nil]
        exact
          congrArg (fun looked => Recorded.mk looked.2 _)
            (get_of_absent missed)
      rw [next]
      exact represents

theorem find
    (represents : state.Represents capacity)
    (key : K) :
    (state.record (.find key)).Represents capacity := by
  have next : state.record (.find key) = state :=
    congrArg (Recorded.mk state.cache) (List.append_nil _)
  rw [next]
  exact represents

theorem remove
    (represents : state.Represents capacity)
    (key : K) :
    (state.record (.remove key)).Represents capacity := by
  refine
    { wellFormed := represents.wellFormed.remove key
      cacheSize := represents.cacheSize
      dq := ?_
      latestPut := fun other value stored => ?_ }
  · have erased :
        (state.cache.remove key).dq =
          (cached capacity state.history).erase key :=
      congrArg (fun dq => dq.erase key) represents.dq
    apply erased.trans
    exact (cached_append (.removed key)).symm
  · have apart : ¬ Touch.Puts other (.removed key : Touch K V) := by
      rintro ⟨written, samePut⟩
      cases samePut
    apply (latest_append_of_not apart).mpr
    have stored :
        Function.update state.cache.map key none other = some value :=
      stored
    by_cases same : other = key
    · rw [same, Function.update_self] at stored
      exact absurd stored (Option.some_ne_none _).symm
    · rw [Function.update_of_ne same] at stored
      exact represents.latestPut other value stored

theorem record
    (represents : state.Represents capacity)
    (call : Call K V) :
    (state.record call).Represents capacity := by
  cases call with
  | put key value => exact represents.put key value
  | get key => exact represents.get key
  | find key => exact represents.find key
  | remove key => exact represents.remove key

/-- The keys are listed from the latest to the earliest use. -/
theorem ordered (represents : state.Represents capacity) :
    state.cache.dq.Pairwise (MoreRecent state.history) := by
  rw [represents.dq]
  exact pairwise_recency.sublist isPrefix_cached.sublist

theorem find_iff
    (represents : state.Represents capacity)
    (key : K) :
    state.cache.find key = true ↔
      StaysRecent capacity state.history key := by
  have capacity_pos : 0 < capacity := by
    rw [← represents.cacheSize]
    exact represents.wellFormed.cacheSize_pos
  rw [← represents.wellFormed.keys key, represents.dq]
  exact mem_cached_iff capacity_pos

end Represents

theorem represents_of_reachable
    (capacity_pos : 0 < capacity)
    (reachable :
      recorder.Reachable RemovesPresent (setCapacity capacity) state) :
    state.Represents capacity := by
  refine
    reachable.invariant (fun state => state.Represents capacity)
      (represents_setCapacity capacity_pos) ?_
  intro state call next represents _ stepped
  obtain rfl := Option.some.inj stepped
  exact represents.record call

/-! ## Least recently used replacement -/

/-- What `LRUCache` promises about a cache and its history. -/
structure IsLeastRecentlyUsed
    (capacity : Nat)
    (state : Recorded K V) : Prop where
  nodup : state.cache.dq.Nodup
  keys : ∀ key, key ∈ state.cache.dq ↔ state.cache.find key = true
  bounded : state.cache.dq.length ≤ capacity
  /-- Every scan of a call stops, at the place that is erased. -/
  scans :
    ∀ call key, RemovesPresent state call →
      state.cache.scanned call = some key →
        ∃ position,
          scan? key state.cache.dq = some position ∧
            state.cache.dq.eraseIdx position = state.cache.dq.erase key
  ordered : state.cache.dq.Pairwise (MoreRecent state.history)
  /-- What `Get` returns. -/
  get :
    ∀ key value,
      (state.cache.get key).1 = some value ↔
        StaysRecent capacity state.history key ∧
          Latest (Touch.Puts key) state.history (.put key value)
  /-- What `Put` evicts. -/
  put :
    ∀ key value last lastValue,
      (state.cache.put key value).1 = some (last, lastValue) ↔
        state.cache.find key = false ∧
          state.cache.dq.length = capacity ∧
          (state.cache.get last).1 = some lastValue ∧
          ∀ other, state.cache.find other = true → other ≠ last →
            MoreRecent state.history other last

namespace Represents

/-- Whatever is scanned for is in the deque. -/
theorem exists_scan
    (represents : state.Represents capacity)
    {call : Call K V}
    {key : K}
    (allowed : RemovesPresent state call)
    (isScanned : state.cache.scanned call = some key) :
    ∃ position,
      scan? key state.cache.dq = some position ∧
        state.cache.dq.eraseIdx position = state.cache.dq.erase key := by
  have onlyPresent {looked : K}
      (guarded :
        (if state.cache.find looked then some looked else none) =
          some key) :
      state.cache.find key = true := by
    split at guarded
    next found =>
      obtain rfl := Option.some.inj guarded
      exact found
    next missed => exact absurd guarded (Option.some_ne_none _).symm
  have found : state.cache.find key = true := by
    cases call with
    | put written value => exact onlyPresent isScanned
    | get looked => exact onlyPresent isScanned
    | find looked => exact absurd isScanned (Option.some_ne_none _).symm
    | remove removed =>
        obtain rfl := Option.some.inj isScanned
        exact allowed removed rfl
  exact scan?_of_mem ((represents.wellFormed.keys key).mpr found)

/-- `Get` returns the latest value of a key that stayed recent. -/
theorem get_eq_some_iff
    (represents : state.Represents capacity)
    (key : K)
    (value : V) :
    (state.cache.get key).1 = some value ↔
      StaysRecent capacity state.history key ∧
        Latest (Touch.Puts key) state.history (.put key value) := by
  rw [get_fst, ← represents.find_iff key]
  constructor
  · intro stored
    refine ⟨?_, represents.latestPut key value stored⟩
    unfold LRUCache.find
    rw [stored]
    rfl
  · rintro ⟨found, latest⟩
    obtain ⟨other, stored⟩ := Option.isSome_iff_exists.mp found
    have sameTouch :=
      (represents.latestPut key other stored).unique latest
    cases sameTouch
    exact stored

/-- In a full cache the last key of the deque is the least recently used. -/
theorem last_iff
    (represents : state.Represents capacity)
    {earlier : List K}
    {back last : K}
    (shape : state.cache.dq = earlier ++ [back])
    (present : state.cache.find last = true) :
    last = back ↔
      ∀ other, state.cache.find other = true → other ≠ last →
        MoreRecent state.history other last := by
  have ordered := represents.ordered
  have keys := represents.wellFormed.keys
  rw [shape] at ordered
  have older := (List.pairwise_append.mp ordered).2.2
  have inEarlier {other : K}
      (found : state.cache.find other = true)
      (different : other ≠ back) :
      other ∈ earlier := by
    have member := (keys other).mpr found
    rw [shape] at member
    exact
      (List.mem_append.mp member).resolve_right fun atEnd =>
        different (List.mem_singleton.mp atEnd)
  constructor
  · rintro rfl other found different
    exact older other (inEarlier found different) last List.mem_cons_self
  · intro least
    by_contra different
    have backPresent : state.cache.find back = true := by
      apply (keys back).mp
      rw [shape]
      exact List.mem_append_right _ List.mem_cons_self
    have oneWay := least back backPresent (Ne.symm different)
    have otherWay :=
      older last (inEarlier present different) back List.mem_cons_self
    exact different (otherWay.eq_of_both oneWay)

/-- `Put` evicts the least recently used key of a full cache. -/
theorem put_evicted_iff
    (represents : state.Represents capacity)
    (key : K)
    (value : V)
    (last : K)
    (lastValue : V) :
    (state.cache.put key value).1 = some (last, lastValue) ↔
      state.cache.find key = false ∧
        state.cache.dq.length = capacity ∧
        (state.cache.get last).1 = some lastValue ∧
        ∀ other, state.cache.find other = true → other ≠ last →
          MoreRecent state.history other last := by
  have outcome := represents.wellFormed.putOutcome key value
  generalize state.cache.put key value = result at outcome ⊢
  cases outcome with
  | present found =>
      refine iff_of_false (Option.some_ne_none _).symm ?_
      rintro ⟨absent, _⟩
      rw [found] at absent
      exact Bool.false_ne_true absent.symm
  | room absent notFull =>
      refine iff_of_false (Option.some_ne_none _).symm ?_
      rintro ⟨_, full, _⟩
      rw [full, represents.cacheSize] at notFull
      exact Nat.lt_irrefl _ notFull
  | @full earlier back backValue absent atCapacity shape stored =>
      rw [get_fst]
      have isPresent {other : K} {otherValue : V}
          (storedOther : state.cache.map other = some otherValue) :
          state.cache.find other = true := by
        unfold LRUCache.find
        rw [storedOther]
        rfl
      constructor
      · intro evicted
        obtain ⟨rfl, rfl⟩ := Prod.mk.inj (Option.some.inj evicted)
        exact
          ⟨absent, atCapacity.trans represents.cacheSize, stored,
            (represents.last_iff shape (isPresent stored)).mp rfl⟩
      · rintro ⟨_, _, storedLast, least⟩
        obtain rfl :=
          (represents.last_iff shape (isPresent storedLast)).mpr least
        rw [stored] at storedLast
        obtain rfl := Option.some.inj storedLast
        rfl

end Represents

/--
`LRUCache` keeps its map and deque together, lists the keys in the order of
their latest uses, returns the latest value of every key that stayed recent, and
evicts only the least recently used key of a full cache.
-/
theorem isLeastRecentlyUsed_of_reachable
    (capacity_pos : 0 < capacity)
    (reachable :
      recorder.Reachable RemovesPresent (setCapacity capacity) state) :
    state.IsLeastRecentlyUsed capacity := by
  have represents := represents_of_reachable capacity_pos reachable
  exact
    { nodup := represents.wellFormed.nodup
      keys := represents.wellFormed.keys
      bounded := by
        rw [← represents.cacheSize]
        exact represents.wellFormed.bounded
      scans := fun _ _ allowed isScanned =>
        represents.exists_scan allowed isScanned
      ordered := represents.ordered
      get := represents.get_eq_some_iff
      put := represents.put_evicted_iff }

/-- Any key may be put at any time. -/
theorem reachable_record_put
    {initial : Recorded K V}
    (reachable : recorder.Reachable RemovesPresent initial state)
    (key : K)
    (value : V) :
    recorder.Reachable RemovesPresent initial
      (state.record (.put key value)) := by
  refine reachable.step ?_ rfl
  intro removed isRemove
  cases isRemove

/-- Any key may be looked up at any time. -/
theorem reachable_record_get
    {initial : Recorded K V}
    (reachable : recorder.Reachable RemovesPresent initial state)
    (key : K) :
    recorder.Reachable RemovesPresent initial
      (state.record (.get key)) := by
  refine reachable.step ?_ rfl
  intro removed isRemove
  cases isRemove

/-- A key that is present may be removed. -/
theorem reachable_record_remove
    {initial : Recorded K V}
    (reachable : recorder.Reachable RemovesPresent initial state)
    {key : K}
    (present : state.cache.find key = true) :
    recorder.Reachable RemovesPresent initial
      (state.record (.remove key)) := by
  refine reachable.step ?_ rfl
  intro removed isRemove
  cases isRemove
  exact present

/-- Two keys; a hit on the first makes the third evict the second. -/
def refreshed : Recorded UInt32 UInt32 :=
  ((((setCapacity 2).record (.put 1 10)).record
    (.put 2 20)).record (.get 1)).record (.put 3 30)

/-- The refreshed key is the one that is left after a removal. -/
theorem isLeastRecentlyUsed_refreshed :
    refreshed.cache.dq = [3, 1] ∧
      (refreshed.record (.remove 3)).cache.dq = [1] ∧
      (refreshed.record (.remove 3)).IsLeastRecentlyUsed 2 := by
  have filled :
      recorder.Reachable RemovesPresent (setCapacity 2) refreshed :=
    reachable_record_put
      (reachable_record_get
        (reachable_record_put (reachable_record_put .start 1 10) 2 20) 1)
      3 30
  exact
    ⟨by decide, by decide,
      isLeastRecentlyUsed_of_reachable Nat.two_pos
        (reachable_record_remove filled (by decide))⟩

/--
In a cache of two keys a removal makes room, but does not bring back what was
evicted before: key 1 is absent and yet one of the two latest used keys that
were not removed.  Nor does a removed key count against those that stay: key 2
is present at the end, and the two latest uses were of other keys.
-/
theorem removal_leavesRoom :
    (∃ state : Recorded UInt32 UInt32,
      recorder.Reachable RemovesPresent (setCapacity 2) state ∧
        1 ∈ (recency state.history).take 2 ∧
        (state.cache.get 1).1 = none) ∧
      ∃ state : Recorded UInt32 UInt32,
        recorder.Reachable RemovesPresent (setCapacity 2) state ∧
          2 ∉ (recency
            (state.history.filter fun touch =>
              touch ≠ .removed touch.key)).take 2 ∧
          (state.cache.get 2).1 = some 20 := by
  have started :
      recorder.Reachable RemovesPresent (setCapacity 2)
        (setCapacity 2 : Recorded UInt32 UInt32) :=
    .start
  have filled :=
    reachable_record_put
      (reachable_record_put (reachable_record_put started 1 10) 2 20) 3 30
  have removed :=
    reachable_record_remove filled (show find _ 3 = true by decide)
  exact
    ⟨⟨_, removed, by decide, by decide⟩,
      ⟨_, reachable_record_put removed 4 40, by decide, by decide⟩⟩

end Recorded

end LRUCache

end SwitchV2P
