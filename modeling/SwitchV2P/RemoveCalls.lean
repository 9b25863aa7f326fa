import SwitchV2P.P4CacheSpec

namespace SwitchV2P

open Histories

/-!
# The calls of `Remove` in the packet path

`P4SwitchApp` removes a key in three places: for the invalidation of a protocol
packet, for the invalidation of a data packet, and for an obsolete entry.  Each
call is guarded by a lookup of the same key, so the assertion of `Remove` holds.
-/

namespace SwitchConfig

variable (config : SwitchConfig)

/-- A hit leaves the key in its slot. -/
theorem held_of_get
    {cache : P4Cache Ipv4Address Ipv4Address}
    {key value : Ipv4Address}
    (found : (cache.get key).1 = some value) :
    ((cache.get key).2.slot key).1 = key := by
  rw [P4Cache.slot_get, (P4Cache.get_eq_some_iff.mp found).1]

theorem assertsHeld_invalidate
    (cache : P4Cache Ipv4Address Ipv4Address)
    (invalidated : Mapping) :
    (invalidate cache invalidated).assertsHeld = cache.assertsHeld := by
  unfold invalidate
  dsimp only
  split
  next found =>
    rw [P4Cache.assertsHeld_remove (held_of_get found),
      P4Cache.assertsHeld_get]
  next missed => exact P4Cache.assertsHeld_get cache invalidated.1

theorem assertsHeld_followInvalidation
    (cache : P4Cache Ipv4Address Ipv4Address)
    (packet : DataPacket)
    (invalidated : Mapping) :
    (followInvalidation cache packet invalidated).1.assertsHeld =
      cache.assertsHeld := by
  unfold followInvalidation
  dsimp only
  cases found : (cache.get invalidated.1).1 with
  | none => exact P4Cache.assertsHeld_get cache invalidated.1
  | some cachedVal =>
      dsimp only
      split
      · rw [P4Cache.assertsHeld_remove (held_of_get found),
          P4Cache.assertsHeld_get]
      · exact P4Cache.assertsHeld_get cache invalidated.1

theorem assertsHeld_receiveInvalidationTagged
    (state : SwitchState)
    (packet : DataPacket)
    (invalidated : Mapping) :
    (config.receiveInvalidationTagged state packet
        invalidated).state.cache.assertsHeld =
      state.cache.assertsHeld := by
  have followed :=
    assertsHeld_followInvalidation state.cache packet invalidated
  unfold receiveInvalidationTagged
  dsimp only
  split
  next atLeaf =>
    obtain ⟨sameCache, _⟩ :=
      config.reportInvalidation_spec
        { state with
          cache := (followInvalidation state.cache packet invalidated).1 }
        (followInvalidation state.cache packet invalidated).2
        invalidated
    rw [sameCache]
    exact followed
  next elsewhere => exact followed

theorem assertsHeld_learnAtLeaf
    (cache : P4Cache Ipv4Address Ipv4Address)
    (packet : DataPacket) :
    (config.learnAtLeaf cache packet).assertsHeld =
      cache.assertsHeld := by
  unfold learnAtLeaf
  split
  · rfl
  · split
    · exact P4Cache.assertsHeld_putIfNotEvict cache _ _
    · rfl

theorem assertsHeld_learnAtCore
    (cache : P4Cache Ipv4Address Ipv4Address)
    (packet : DataPacket)
    (foundTag : Bool)
    (learn : Mapping) :
    (learnAtCore cache packet foundTag learn).1.assertsHeld =
      cache.assertsHeld := by
  unfold learnAtCore
  split
  · dsimp only
    split
    · rw [putAndTag_cache, P4Cache.assertsHeld_put]
    · rfl
  · exact P4Cache.assertsHeld_putIfNotEvict cache _ _

theorem assertsHeld_learnUnlessActive
    (cache : P4Cache Ipv4Address Ipv4Address)
    (packet : DataPacket)
    (foundTag : Bool)
    (learn : Mapping) :
    (learnUnlessActive cache packet foundTag learn).1.assertsHeld =
      cache.assertsHeld := by
  rw [learnUnlessActive_cache]
  split
  · rfl
  · exact P4Cache.assertsHeld_put cache _ _

/-- Learning elsewhere: the removal of an obsolete entry is guarded as well. -/
theorem assertsHeld_learnElsewhere
    (draw : Bool)
    (cache : P4Cache Ipv4Address Ipv4Address)
    (packet : DataPacket) :
    (config.learnElsewhere draw cache packet).1.assertsHeld =
      cache.assertsHeld := by
  unfold learnElsewhere
  dsimp only
  split
  next obsolete =>
    dsimp only
    split
    next found =>
      have held :
          (cache.slot packet.inner.destination).1 =
              packet.inner.destination ∧
            (cache.slot packet.inner.destination).2 ≠ 0 :=
        of_decide_eq_true found
      exact P4Cache.assertsHeld_remove held.1
    next absent => rfl
  next current =>
    split
    · split
      · exact assertsHeld_learnAtCore _ _ _ _
      · split
        · exact assertsHeld_learnUnlessActive _ _ _ _
        · dsimp only
          rw [putAndTag_cache, P4Cache.assertsHeld_put]
    · rfl

theorem assertsHeld_learnFromPacket
    (draw : Bool)
    (cache : P4Cache Ipv4Address Ipv4Address)
    (packet : DataPacket) :
    (config.learnFromPacket draw cache packet).1.assertsHeld =
      cache.assertsHeld := by
  unfold learnFromPacket
  split
  · exact config.assertsHeld_learnAtLeaf cache packet
  · exact config.assertsHeld_learnElsewhere draw cache packet

theorem assertsHeld_promoteLookup
    (cache : P4Cache Ipv4Address Ipv4Address)
    (packet : DataPacket) :
    (config.promoteLookup cache packet).2.assertsHeld =
      cache.assertsHeld := by
  unfold promoteLookup
  split
  · exact P4Cache.assertsHeld_get cache _
  · rfl

theorem assertsHeld_redirectFromCache
    (cache : P4Cache Ipv4Address Ipv4Address)
    (packet : DataPacket) :
    (config.redirectFromCache cache packet).1.assertsHeld =
      cache.assertsHeld := by
  rw [redirectFromCache_cache]
  split
  · exact P4Cache.assertsHeld_get cache _
  · rfl

theorem assertsHeld_receiveUntagged
    (draw : Bool)
    (state : SwitchState)
    (packet : DataPacket) :
    (config.receiveUntagged draw state packet).state.cache.assertsHeld =
      state.cache.assertsHeld := by
  have promoted := config.assertsHeld_promoteLookup state.cache packet
  have learned :=
    config.assertsHeld_learnFromPacket draw
      (config.promoteLookup state.cache packet).2 packet
  unfold receiveUntagged
  dsimp only
  split
  · exact promoted
  · split
    · exact learned.trans promoted
    · exact
        (config.assertsHeld_redirectFromCache _ _).trans
          (learned.trans promoted)

theorem assertsHeld_localP4CacheLogic
    (state : SwitchState)
    (packet : DataPacket) :
    (config.localP4CacheLogic state packet).state.cache.assertsHeld =
      state.cache.assertsHeld := by
  unfold localP4CacheLogic
  split
  · exact P4Cache.assertsHeld_get state.cache _
  · rfl

theorem assertsHeld_receivePacket
    (draw : Bool)
    (state : SwitchState)
    (packet : DataPacket) :
    (config.receivePacket draw state packet).state.cache.assertsHeld =
      state.cache.assertsHeld := by
  unfold receivePacket
  split
  · exact config.assertsHeld_localP4CacheLogic state packet
  · split
    · exact config.assertsHeld_receiveInvalidationTagged state packet _
    · exact config.assertsHeld_receiveUntagged draw state packet

theorem assertsHeld_handleProtocolPacket
    (state : SwitchState)
    (packet : ProtocolPacket) :
    (config.handleProtocolPacket state packet).1.cache.assertsHeld =
      state.cache.assertsHeld := by
  unfold handleProtocolPacket
  dsimp only
  cases packet.invalidationTag.peek with
  | none =>
      split
      · split <;> rfl
      · rfl
  | some invalidated =>
      have applied := assertsHeld_invalidate state.cache invalidated
      split
      · split <;> exact applied
      · exact applied

/-- No datagram makes an assertion of `Remove` fail. -/
theorem assertsHeld_receive
    (state : SwitchState)
    (arrival : Arrival) :
    (config.receive state arrival).cache.assertsHeld =
      state.cache.assertsHeld := by
  obtain ⟨datagram, draw⟩ := arrival
  cases datagram with
  | data packet => exact config.assertsHeld_receivePacket draw state packet
  | protocol packet =>
      exact config.assertsHeld_handleProtocolPacket state packet

variable {config}

/-- In every reachable state all calls of `Remove` were for keys held. -/
theorem assertsHeld_of_reachable
    {memorySize : Nat}
    {memorySize_pos : 0 < memorySize}
    {hash : Ipv4Address → Nat}
    {bloomFilterSize : Nat}
    {heap : UInt32 → UInt8}
    {state : SwitchState}
    (reachable :
      config.switchSystem.Reachable (fun _ _ => True)
        (setup memorySize memorySize_pos hash bloomFilterSize heap)
        state) :
    state.cache.assertsHeld = true := by
  refine
    reachable.invariant (fun current => current.cache.assertsHeld = true)
      rfl ?_
  intro current arrival next held _ stepped
  obtain rfl := Option.some.inj stepped
  exact (config.assertsHeld_receive current arrival).trans held

end SwitchConfig

namespace P4Cache

/-- A call that only reads the cache, its access bits apart. -/
def Call.IsLookup {K V : Type} : Call K V → Prop
  | .get _ => True
  | .getWithBit _ => True
  | .find _ => True
  | .getBit _ => True
  | _ => False

variable {K V : Type} [DecidableEq K] [DecidableEq V] [Zero K] [Zero V]

/-- A lookup changes no entry. -/
theorem slot_perform_of_isLookup
    {cache : P4Cache K V}
    {call : Call K V}
    (isLookup : call.IsLookup)
    (key : K) :
    (cache.perform call).2.slot key = cache.slot key := by
  apply slot_perform_of_not_rewritten
  rintro ⟨_, tookEffect⟩
  cases call <;> first | exact isLookup | exact tookEffect

/--
`P4Cache` is a dictionary with one entry for each slot: a key is found exactly
if the latest write or removal that took effect on its slot was a write for it,
and `Get` returns the value of that write.
-/
structure Recorded.IsDirectMapped (state : Recorded K V) : Prop where
  get :
    ∀ key value,
      (state.cache.get key).1 = some value ↔
        ∃ event,
          Latest (state.cache.RewrittenBy key) state.history event ∧
            event.call.Writes key value
  find :
    ∀ key,
      state.cache.find key = true ↔
        ∃ event value,
          Latest (state.cache.RewrittenBy key) state.history event ∧
            event.call.Writes key value
  lookup :
    ∀ call key, call.IsLookup →
      (state.record call).cache.slot key = state.cache.slot key

theorem Recorded.Consistent.isDirectMapped
    {state : Recorded K V}
    (consistent : state.Consistent) :
    state.IsDirectMapped where
  get := consistent.get_eq_some_iff_written
  find := by
    intro key
    rw [find_eq_isSome_get, Option.isSome_iff_exists, exists_comm]
    exact exists_congr (consistent.get_eq_some_iff_written key)
  lookup := fun _ key isLookup => slot_perform_of_isLookup isLookup key

/--
The cache is a direct-mapped dictionary.  In a switch every `Remove` is called
for a key that its slot holds, and then takes away no entry of another key.
-/
theorem directMapped_and_removesHeld :
    (∀ {capacity : Nat}
        {capacity_pos : 0 < capacity}
        {hash : K → Nat}
        {state : Recorded K V},
      recorder.Reachable NonzeroValues
          (Recorded.setup capacity capacity_pos hash) state →
        state.IsDirectMapped) ∧
      (∀ {config : SwitchConfig}
          {memorySize : Nat}
          {memorySize_pos : 0 < memorySize}
          {hash : Ipv4Address → Nat}
          {bloomFilterSize : Nat}
          {heap : UInt32 → UInt8}
          {state : SwitchState},
        config.switchSystem.Reachable (fun _ _ => True)
            (SwitchConfig.setup memorySize memorySize_pos hash
              bloomFilterSize heap)
            state →
          state.cache.assertsHeld = true) ∧
      ∀ (cache : P4Cache K V) (key other : K),
        (cache.slot key).1 = key →
          other ≠ key →
          ((cache.remove key).get other).1 = (cache.get other).1 :=
  ⟨fun reachable =>
      (Recorded.consistent_of_reachable reachable).isDirectMapped,
    fun reachable => SwitchConfig.assertsHeld_of_reachable reachable,
    fun _ _ _ held different => get_remove_of_ne held different⟩

/-- One slot, in which container 2 displaces container 1 and is removed. -/
def displaced : Recorded Ipv4Address Ipv4Address :=
  (((Recorded.setup 1 Nat.one_pos fun _ => 0).record
    (.put 1 7)).record (.put 2 8)).record (.remove 2)

/-- Containers 1 and 2 next to each other. -/
def neighbours : P4Cache Ipv4Address Ipv4Address :=
  (((setup 2 Nat.two_pos UInt32.toNat).put 1 7).2.put 2 8).2

/-- A core that learns from packets to its own address 9. -/
def learner : SwitchConfig where
  switchAddress := 9
  nodeId := 0
  switchType := .core
  simMode := .switchV2P
  gwAddresses := []
  podCount := 1
  defaultTtl := 64
  sourceLearning := false
  accessBit := false
  bloomFilterEnabled := true
  generateInvalidation := true

/-- The core after the mapping (1, 7) was taught to it. -/
def taught : SwitchState :=
  learner.receive
    (SwitchConfig.setup 2 Nat.two_pos UInt32.toNat 80 fun _ => 0)
    ⟨.protocol
      { destination := 9
        evictionTag := TagStack.empty.add (1, 7)
        invalidationTag := TagStack.empty }, false⟩

/-- And after the mapping was withdrawn again. -/
def withdrawn : SwitchState :=
  learner.receive taught
    ⟨.protocol
      { destination := 9
        evictionTag := TagStack.empty
        invalidationTag := TagStack.empty.add (1, 7) }, false⟩

/--
A displacing `Put` and a `Remove`, a switch that removes what it has learned,
and a removal next to another entry.
-/
theorem directMapped_and_removesHeld_learner :
    displaced.IsDirectMapped ∧
      (taught.cache.find 1 = true ∧ withdrawn.cache.find 1 = false ∧
        withdrawn.cache.assertsHeld = true) ∧
      ((neighbours.remove 2).get 1).1 = some 7 := by
  have recorded :
      recorder.Reachable NonzeroValues
        (Recorded.setup 1 Nat.one_pos fun _ => 0) displaced :=
    Recorded.reachable_record_remove
      (Recorded.reachable_record_put
        (Recorded.reachable_record_put .start 1 (by decide)) 2 (by decide))
      2
  have received :
      learner.switchSystem.Reachable (fun _ _ => True)
        (SwitchConfig.setup 2 Nat.two_pos UInt32.toNat 80 fun _ => 0)
        withdrawn :=
    SwitchConfig.reachable_receive
      (SwitchConfig.reachable_receive .start _ trivial) _ trivial
  obtain ⟨directMapped, removesHeld, removesOne⟩ :=
    @directMapped_and_removesHeld Ipv4Address Ipv4Address _ _ _ _
  refine
    ⟨directMapped recorded,
      ⟨by decide, by decide, removesHeld received⟩, ?_⟩
  rw [removesOne neighbours 2 1 (by decide) (by decide)]
  decide

end P4Cache

end SwitchV2P
