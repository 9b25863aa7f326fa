import SwitchV2P.IlpControllerApp
import SwitchV2P.LRUCacheSpec
import SwitchV2P.Packet

namespace SwitchV2P

open Recency

/-!
# Switches whose cache a controller fills

`SwitchApp` only reads its `LRUCache` in the packet path; the controller fills
it with one list of items at a time.  A list that fits takes the place of the
least recently used entries.
-/

namespace LRUCache

variable {K V : Type} [DecidableEq K]

/-- `BulkInsertToCache`. -/
def bulkInsert
    (cache : LRUCache K V)
    (items : List (K × V)) :
    LRUCache K V :=
  items.foldl (fun cache item => (cache.put item.1 item.2).2) cache

theorem bulkInsert_append
    (cache : LRUCache K V)
    (items : List (K × V))
    (item : K × V) :
    cache.bulkInsert (items ++ [item]) =
      ((cache.bulkInsert items).put item.1 item.2).2 := by
  unfold bulkInsert
  rw [List.foldl_append]
  rfl

/-- The keys of a cache that a list of items does not mention. -/
def otherKeys
    (cache : LRUCache K V)
    (items : List (K × V)) :
    List K :=
  cache.dq.filter fun key => key ∉ items.map Prod.fst

theorem otherKeys_nil (cache : LRUCache K V) :
    cache.otherKeys [] = cache.dq :=
  List.filter_eq_self.mpr fun _ _ => decide_eq_true List.not_mem_nil

theorem otherKeys_append
    {cache : LRUCache K V}
    (nodup : cache.dq.Nodup)
    (items : List (K × V))
    (item : K × V) :
    cache.otherKeys (items ++ [item]) =
      (cache.otherKeys items).erase item.1 := by
  unfold otherKeys
  rw [(nodup.filter _).erase_eq_filter, List.filter_filter]
  apply List.filter_congr
  intro key _
  have split :
      key ∉ (items ++ [item]).map Prod.fst ↔
        key ≠ item.1 ∧ key ∉ items.map Prod.fst := by
    rw [List.map_append, List.mem_append, not_or, and_comm]
    exact and_congr_left' (not_congr List.mem_singleton)
  have test : (key != item.1) = decide (key ≠ item.1) := by
    rw [Bool.eq_iff_iff, bne_iff_ne, decide_eq_true_iff]
  rw [decide_eq_decide.mpr split, Bool.decide_and, test]

/-- Erasing a key makes room for one more. -/
theorem take_erase_take
    (keys : List K)
    (key : K)
    (room : Nat) :
    ((keys.take (room + 1)).erase key).take room =
      (keys.erase key).take room := by
  induction keys generalizing room with
  | nil => rfl
  | cons first rest inductionHypothesis =>
      rw [List.take_succ_cons]
      by_cases same : first = key
      · subst same
        rw [List.erase_cons_head, List.erase_cons_head, List.take_take,
          Nat.min_self]
      · rw [List.erase_cons_tail (by simpa using same),
          List.erase_cons_tail (by simpa using same)]
        cases room with
        | zero => rfl
        | succ room =>
            rw [List.take_succ_cons, List.take_succ_cons,
              inductionHypothesis]

namespace WellFormed

variable {cache : LRUCache K V}

theorem bulkInsert
    (wellFormed : cache.WellFormed)
    (items : List (K × V)) :
    (cache.bulkInsert items).WellFormed := by
  induction items using List.reverseRecOn with
  | nil => exact wellFormed
  | append_singleton earlier item inductionHypothesis =>
      rw [bulkInsert_append]
      exact inductionHypothesis.put item.1 item.2

theorem cacheSize_bulkInsert
    (wellFormed : cache.WellFormed)
    (items : List (K × V)) :
    (cache.bulkInsert items).cacheSize = cache.cacheSize := by
  induction items using List.reverseRecOn with
  | nil => rfl
  | append_singleton earlier item inductionHypothesis =>
      rw [bulkInsert_append]
      exact
        ((wellFormed.bulkInsert earlier).cacheSize_put item.1
          item.2).trans inductionHypothesis

/--
A list that fits comes to the front, in reverse, and leaves as many of the
other keys as there is room for.
-/
theorem dq_bulkInsert
    (wellFormed : cache.WellFormed)
    {items : List (K × V)}
    (distinct : (items.map Prod.fst).Nodup)
    (fits : items.length ≤ cache.cacheSize) :
    (cache.bulkInsert items).dq =
      (items.map Prod.fst).reverse ++
        (cache.otherKeys items).take
          (cache.cacheSize - items.length) := by
  induction items using List.reverseRecOn with
  | nil =>
      rw [otherKeys_nil, List.length_nil, Nat.sub_zero,
        List.take_of_length_le wellFormed.bounded]
      rfl
  | append_singleton earlier item inductionHypothesis =>
      rw [List.map_append] at distinct
      obtain ⟨distinctEarlier, _, apart⟩ := List.nodup_append.mp distinct
      have newKey : item.1 ∉ (earlier.map Prod.fst).reverse := by
        rw [List.mem_reverse]
        exact fun member =>
          apart item.1 member item.1 List.mem_cons_self rfl
      rw [List.length_append, List.length_singleton] at fits ⊢
      obtain ⟨room, size⟩ := Nat.exists_eq_add_of_le fits
      have before :=
        inductionHypothesis distinctEarlier (Nat.le_of_succ_le fits)
      have roomBefore : cache.cacheSize - earlier.length = room + 1 := by
        omega
      have roomAfter :
          cache.cacheSize - (earlier.length + 1) = room := by
        omega
      have front :
          (item.1 :: (earlier.map Prod.fst).reverse).length + room =
            cache.cacheSize := by
        rw [List.length_cons, List.length_reverse, List.length_map, size]
      calc (cache.bulkInsert (earlier ++ [item])).dq
          = (item.1 :: (cache.bulkInsert earlier).dq.erase item.1).take
              cache.cacheSize := by
            rw [bulkInsert_append,
              (wellFormed.bulkInsert earlier).dq_put,
              wellFormed.cacheSize_bulkInsert]
        _ = ((item.1 :: (earlier.map Prod.fst).reverse) ++
              ((cache.otherKeys earlier).take (room + 1)).erase
                item.1).take
              cache.cacheSize := by
            rw [before, roomBefore, List.erase_append_right _ newKey]
            rfl
        _ = (item.1 :: (earlier.map Prod.fst).reverse) ++
              (((cache.otherKeys earlier).take (room + 1)).erase
                item.1).take room := by
            rw [← front, List.take_length_add_append]
        _ = ((earlier ++ [item]).map Prod.fst).reverse ++
              (cache.otherKeys (earlier ++ [item])).take
                (cache.cacheSize - (earlier.length + 1)) := by
            rw [take_erase_take, otherKeys_append wellFormed.nodup,
              roomAfter, List.map_append, List.reverse_append]
            rfl

/-- Every item of a list that fits is stored. -/
theorem map_bulkInsert_of_mem
    (wellFormed : cache.WellFormed)
    {items : List (K × V)}
    (distinct : (items.map Prod.fst).Nodup)
    (fits : items.length ≤ cache.cacheSize)
    {item : K × V}
    (member : item ∈ items) :
    (cache.bulkInsert items).map item.1 = some item.2 := by
  induction items using List.reverseRecOn with
  | nil => exact absurd member List.not_mem_nil
  | append_singleton earlier last inductionHypothesis =>
      have stays :
          item.1 ∈ (cache.bulkInsert (earlier ++ [last])).dq := by
        rw [wellFormed.dq_bulkInsert distinct fits]
        apply List.mem_append_left
        exact List.mem_reverse.mpr (List.mem_map_of_mem member)
      rw [bulkInsert_append] at stays ⊢
      rw [(wellFormed.bulkInsert earlier).map_put]
      rcases List.mem_append.mp member with old | new
      · rw [List.map_append] at distinct
        obtain ⟨distinctEarlier, _, apart⟩ :=
          List.nodup_append.mp distinct
        have different : item.1 ≠ last.1 :=
          apart item.1 (List.mem_map_of_mem old) last.1
            List.mem_cons_self
        rw [List.length_append, List.length_singleton] at fits
        rw [if_neg different, if_pos stays]
        exact
          inductionHypothesis distinctEarlier (Nat.le_of_succ_le fits) old
      · rw [List.mem_singleton.mp new]
        exact if_pos rfl

/-- A key that the list does not mention keeps its value if it stays. -/
theorem map_bulkInsert_of_kept
    (wellFormed : cache.WellFormed)
    {items : List (K × V)}
    {key : K}
    (unmentioned : key ∉ items.map Prod.fst)
    (kept : key ∈ (cache.bulkInsert items).dq) :
    (cache.bulkInsert items).map key = cache.map key := by
  induction items using List.reverseRecOn with
  | nil => rfl
  | append_singleton earlier last inductionHypothesis =>
      rw [List.map_append, List.mem_append, not_or] at unmentioned
      have different : key ≠ last.1 := fun same =>
        unmentioned.2 (List.mem_singleton.mpr same)
      have sorted := wellFormed.bulkInsert earlier
      rw [bulkInsert_append] at kept ⊢
      rw [sorted.map_put, if_neg different, if_pos kept]
      rw [sorted.dq_put] at kept
      have before : key ∈ (cache.bulkInsert earlier).dq :=
        List.mem_of_mem_erase
          ((List.mem_cons.mp (List.mem_of_mem_take kept)).resolve_left
            different)
      exact inductionHypothesis unmentioned.1 before

end WellFormed

end LRUCache

/-! ## The application -/

namespace SwitchApp

/-- What happens to a switch. -/
inductive Action where
  | bulkInsertToCache (items : List Mapping)
  | receivePacket (packet : DataPacket)
  deriving Repr, DecidableEq

/-- The tables of a switch and what touched them. -/
abbrev State := LRUCache.Recorded Ipv4Address Ipv4Address

/-- `ReceivePacket`: redirect a gateway-bound packet on a hit. -/
def receivePacket
    (gwAddresses : List Ipv4Address)
    (cache : LRUCache Ipv4Address Ipv4Address)
    (packet : DataPacket) :
    LRUCache Ipv4Address Ipv4Address × DataPacket :=
  if packet.outer.destination ∈ gwAddresses then
    let lookup := cache.get packet.inner.destination
    match lookup.1 with
    | some cachedAddr => (lookup.2, packet.setDestination cachedAddr)
    | none => (lookup.2, packet)
  else
    (cache, packet)

/-- `BulkInsertToCache`, recorded. -/
def bulkInsertToCache (state : State) (items : List Mapping) : State where
  cache := state.cache.bulkInsert items
  history := state.history ++ items.map fun item => .put item.1 item.2

/-- What a switch does, recorded. -/
def perform
    (gwAddresses : List Ipv4Address)
    (state : State) :
    Action → State
  | .bulkInsertToCache items => bulkInsertToCache state items
  | .receivePacket packet =>
      { cache := (receivePacket gwAddresses state.cache packet).1
        history :=
          if packet.outer.destination ∈ gwAddresses then
            state.history ++
              state.cache.touches (.get packet.inner.destination)
          else
            state.history }

/-- A switch as a transition system. -/
def switchSystem
    (gwAddresses : List Ipv4Address) :
    TransitionSystem State Action where
  step := fun state action => some (perform gwAddresses state action)

variable
  {gwAddresses : List Ipv4Address}
  {capacity : Nat}
  {state : State}

open LRUCache.Recorded

theorem represents_bulkInsertToCache
    (represents : Represents capacity state)
    (items : List Mapping) :
    Represents capacity (bulkInsertToCache state items) := by
  induction items using List.reverseRecOn with
  | nil =>
      have same : bulkInsertToCache state [] = state :=
        congrArg (LRUCache.Recorded.mk state.cache) (List.append_nil _)
      rw [same]
      exact represents
  | append_singleton earlier item inductionHypothesis =>
      have next :
          bulkInsertToCache state (earlier ++ [item]) =
            (bulkInsertToCache state earlier).record
              (.put item.1 item.2) := by
        unfold bulkInsertToCache
        rw [LRUCache.bulkInsert_append, List.map_append,
          ← List.append_assoc]
        rfl
      rw [next]
      exact inductionHypothesis.put item.1 item.2

theorem receivePacket_cache
    (gwAddresses : List Ipv4Address)
    (cache : LRUCache Ipv4Address Ipv4Address)
    (packet : DataPacket) :
    (receivePacket gwAddresses cache packet).1 =
      if packet.outer.destination ∈ gwAddresses then
        (cache.get packet.inner.destination).2
      else
        cache := by
  unfold receivePacket
  split
  · dsimp only
    split <;> rfl
  · rfl

/-- Plans and packets keep the cache in step with its history. -/
theorem represents_perform
    (represents : Represents capacity state)
    (action : Action) :
    Represents capacity (perform gwAddresses state action) := by
  cases action with
  | bulkInsertToCache items =>
      exact represents_bulkInsertToCache represents items
  | receivePacket packet =>
      unfold perform
      dsimp only
      rw [receivePacket_cache]
      split
      · exact represents.get packet.inner.destination
      · exact represents

theorem represents_of_reachable
    (capacity_pos : 0 < capacity)
    (reachable :
      (switchSystem gwAddresses).Reachable (fun _ _ => True)
        (setCapacity capacity) state) :
    Represents capacity state := by
  refine
    reachable.invariant (fun state => Represents capacity state)
      (represents_setCapacity capacity_pos) ?_
  intro state action next represents _ stepped
  obtain rfl := Option.some.inj stepped
  exact represents_perform represents action

/--
A plan is installed: all its items are cached, and of the other keys the most
recently used ones that fit are kept with their values.
-/
structure Installs
    (capacity : Nat)
    (state : State)
    (items : List Mapping)
    (next : State) : Prop where
  installed :
    ∀ item ∈ items, (next.cache.get item.1).1 = some item.2
  bounded : next.cache.dq.length ≤ capacity
  others :
    ∀ key,
      key ∈ state.cache.otherKeys items ↔
        state.cache.find key = true ∧ key ∉ items.map Prod.fst
  ordered :
    (state.cache.otherKeys items).Pairwise (MoreRecent state.history)
  cached :
    ∀ key,
      next.cache.find key = true ↔
        key ∈ items.map Prod.fst ∨
          key ∈
            (state.cache.otherKeys items).take (capacity - items.length)
  kept :
    ∀ key ∈ (state.cache.otherKeys items).take (capacity - items.length),
      (next.cache.get key).1 = (state.cache.get key).1

theorem installs_of_represents
    (represents : Represents capacity state)
    {items : List Mapping}
    (distinct : (items.map Prod.fst).Nodup)
    (fits : items.length ≤ capacity) :
    Installs capacity state items
      (perform gwAddresses state (.bulkInsertToCache items)) := by
  have wellFormed := represents.wellFormed
  have installed := represents_bulkInsertToCache represents items
  rw [← represents.cacheSize] at fits
  have shape := wellFormed.dq_bulkInsert distinct fits
  rw [represents.cacheSize] at shape
  have others (key : Ipv4Address) :
      key ∈ state.cache.otherKeys items ↔
        state.cache.find key = true ∧ key ∉ items.map Prod.fst := by
    unfold LRUCache.otherKeys
    rw [List.mem_filter, wellFormed.keys key, decide_eq_true_iff]
  refine
    { installed := fun item member => ?_
      bounded := ?_
      others := others
      ordered :=
        represents.ordered.sublist List.filter_sublist
      cached := fun key => ?_
      kept := fun key member => ?_ }
  · rw [LRUCache.get_fst]
    exact wellFormed.map_bulkInsert_of_mem distinct fits member
  · have bounded := installed.wellFormed.bounded
    rw [installed.cacheSize] at bounded
    exact bounded
  · refine (installed.wellFormed.keys key).symm.trans ?_
    have listed :
        (bulkInsertToCache state items).cache.dq =
          (items.map Prod.fst).reverse ++
            (state.cache.otherKeys items).take
              (capacity - items.length) :=
      shape
    rw [listed, List.mem_append, List.mem_reverse]
  · rw [LRUCache.get_fst, LRUCache.get_fst]
    apply wellFormed.map_bulkInsert_of_kept
    · exact ((others key).mp (List.mem_of_mem_take member)).2
    · rw [shape]
      exact List.mem_append_right _ member

/-- In every reachable state a plan that fits is fully installed. -/
theorem installs_of_reachable
    (capacity_pos : 0 < capacity)
    (reachable :
      (switchSystem gwAddresses).Reachable (fun _ _ => True)
        (setCapacity capacity) state)
    {items : List Mapping}
    (distinct : (items.map Prod.fst).Nodup)
    (fits : items.length ≤ capacity) :
    Installs capacity state items
      (perform gwAddresses state (.bulkInsertToCache items)) :=
  installs_of_represents (represents_of_reachable capacity_pos reachable)
    distinct fits

/-- A plan of two items for a switch whose three entries are all in use. -/
theorem installs_secondPlan :
    Installs 3
      (perform [] (setCapacity 3)
        (.bulkInsertToCache [(1, 10), (2, 20), (3, 30)]))
      [(2, 21), (4, 40)]
      (perform []
        (perform [] (setCapacity 3)
          (.bulkInsertToCache [(1, 10), (2, 20), (3, 30)]))
        (.bulkInsertToCache [(2, 21), (4, 40)])) := by
  have reachable :
      (switchSystem []).Reachable (fun _ _ => True) (setCapacity 3)
        (perform [] (setCapacity 3)
          (.bulkInsertToCache [(1, 10), (2, 20), (3, 30)])) :=
    TransitionSystem.Reachable.start.step trivial rfl
  exact
    installs_of_reachable (Nat.succ_pos 2) reachable (by decide) (by decide)

/-- What the solver chooses under the memory constraint is a plan that fits. -/
theorem installs_planItems
    (represents : Represents capacity state)
    {containerCount : Nat}
    (addressed : containerCount ≤ 2 ^ 32)
    {active chosen : Nat → Bool}
    (constraint :
      IlpControllerApp.memoryUsed containerCount active chosen ≤ capacity)
    (virtualToPhysical : UInt32 → Ipv4Address) :
    Installs capacity state
      (IlpControllerApp.planItems containerCount active chosen
        virtualToPhysical)
      (perform gwAddresses state
        (.bulkInsertToCache
          (IlpControllerApp.planItems containerCount active chosen
            virtualToPhysical))) := by
  apply installs_of_represents represents
  · exact
      IlpControllerApp.nodup_planItems addressed active chosen
        virtualToPhysical
  · rw [IlpControllerApp.length_planItems]
    exact constraint

end SwitchApp

end SwitchV2P
