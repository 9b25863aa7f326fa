import SwitchV2P.SwitchRuns
import SwitchV2P.TraceSimulation

namespace SwitchV2P.ActiveEntries

/-!
# Active entries are protected

Spines with access bits and core switches do not let a mapping for another key
displace an entry whose bit is set.  The bit is cleared by a lookup of another
key of the slot; at a spine the packet that makes this lookup can itself bring
the mapping that then takes the slot.
-/

/-- A switch type that protects active entries. -/
structure Protects (config : SwitchConfig) : Prop where
  mode : config.simMode = .switchV2P
  guarded :
    config.switchType = .core ∨
      ((config.switchType = .spine ∨ config.switchType = .gwSpine) ∧
        config.accessBit = true)

/-- The key that a datagram makes a switch look up. -/
def lookedUp (config : SwitchConfig) : Datagram → Option Ipv4Address
  | .data packet =>
      match packet.invalidationTag.peek with
      | some invalidated => some invalidated.1
      | none =>
          if config.isGateway packet.outer.destination then
            some packet.inner.destination
          else
            none
  | .protocol packet => packet.invalidationTag.peek.map Prod.fst

/-- The mapping that a data packet teaches a switch other than a leaf. -/
def learned (config : SwitchConfig) : Datagram → Option Mapping
  | .data packet =>
      match packet.invalidationTag.peek, packet.evictionTag.peek with
      | some _, _ => none
      | none, some learn => some learn
      | none, none =>
          if config.isGateway packet.outer.destination then
            none
          else
            some (packet.inner.destination, packet.outer.destination)
  | .protocol _ => none

/-- The mapping that a datagram invalidates. -/
def invalidated : Datagram → Option Mapping
  | .data packet => packet.invalidationTag.peek
  | .protocol packet => packet.invalidationTag.peek

/-- The environment: nonzero addresses, and learning packets for leaves. -/
structure Permitted
    (config : SwitchConfig)
    (state : SwitchState)
    (arrival : Arrival) : Prop where
  nonzero : NonzeroArrival state arrival
  learningForLeaves :
    ∀ packet, arrival.datagram = .protocol packet →
      packet.evictionTag.peek ≠ none →
      packet.destination ≠ config.switchAddress

/-- A lookup of another key of the same slot. -/
def Misses
    (config : SwitchConfig)
    (cache : P4Cache Ipv4Address Ipv4Address)
    (key : Ipv4Address)
    (datagram : Datagram) : Prop :=
  ∃ other, lookedUp config datagram = some other ∧ other ≠ key ∧
    cache.Collide other key

/--
At a spine, a gateway-bound packet looks one key of the slot up and carries a
mapping for another.
-/
def Overtaken
    (config : SwitchConfig)
    (cache : P4Cache Ipv4Address Ipv4Address)
    (key : Ipv4Address)
    (datagram : Datagram) : Prop :=
  config.switchType = .spine ∧
    Misses config cache key datagram ∧
    ∃ learn, learned config datagram = some learn ∧ learn.1 ≠ key ∧
      cache.Collide learn.1 key

variable
  {config : SwitchConfig}
  {cache : P4Cache Ipv4Address Ipv4Address}
  {packet : DataPacket}
  {key value other : Ipv4Address}
  {learn : Mapping}

/-! ## Operations of the cache -/

/-- A lookup of the key, or in another slot, keeps the bit. -/
theorem active_get
    (active : cache.Active key value)
    (harmless : other = key ∨ ¬ cache.Collide other key) :
    (cache.get other).2.Active key value := by
  refine ⟨(P4Cache.live_get other).mpr active.toLive, ?_⟩
  rw [P4Cache.getBit_get]
  by_cases collide : cache.Collide key other
  · have same : other = key :=
      harmless.resolve_right fun apart => apart collide.symm
    subst same
    rw [if_pos collide, P4Cache.live_iff_get.mp active.toLive]
    rfl
  · rw [if_neg collide]
    exact active.bit

/-- `Put` in another slot keeps the entry. -/
theorem active_put
    (active : cache.Active key value)
    (apart : ¬ cache.Collide learn.1 key) :
    (cache.put learn.1 learn.2).2.Active key value := by
  have elsewhere : ¬ cache.Collide key learn.1 :=
    fun collide => apart collide.symm
  refine ⟨active.toLive.put_of_not_collide elsewhere, ?_⟩
  rw [P4Cache.getBit_put, if_neg elsewhere]
  exact active.bit

/-- The slot of an active entry: its bit is set and other keys are absent. -/
theorem bit_and_find_of_collide
    (active : cache.Active key value)
    (collide : cache.Collide other key)
    (different : other ≠ key) :
    cache.getBit other = true ∧ cache.find other = false := by
  constructor
  · have bit := active.bit
    unfold P4Cache.getBit at bit ⊢
    rw [collide]
    exact bit
  · rw [Bool.eq_false_iff]
    intro found
    obtain ⟨otherValue, live⟩ := P4Cache.find_eq_true_iff.mp found
    exact different (active.toLive.eq_of_collide live collide).1

/-! ## Learning -/

/-- A core does not displace an active entry. -/
theorem active_learnAtCore
    {foundTag : Bool}
    (active : cache.Active key value)
    (key_ne_zero : key ≠ 0)
    (different : learn.1 ≠ key) :
    (SwitchConfig.learnAtCore cache packet foundTag learn).1.Active key
      value := by
  unfold SwitchConfig.learnAtCore
  split
  next tagged =>
    dsimp only
    split
    next promoted =>
      rw [SwitchConfig.putAndTag_cache]
      refine active_put active fun collide => ?_
      have protectedBit :=
        (bit_and_find_of_collide active collide different).1
      simp [protectedBit] at promoted
    next retained => exact active
  next untagged =>
    refine
      ⟨active.toLive.putIfNotEvict key_ne_zero different.symm, ?_⟩
    rw [P4Cache.getBit_putIfNotEvict]
    exact active.bit

/-- A spine with access bits does not displace an active entry. -/
theorem active_learnUnlessActive
    {foundTag : Bool}
    (active : cache.Active key value)
    (different : learn.1 ≠ key) :
    (SwitchConfig.learnUnlessActive cache packet foundTag
      learn).1.Active key value := by
  rw [SwitchConfig.learnUnlessActive_cache]
  split
  next refused => exact active
  next admitted =>
    have apart : ¬ cache.Collide learn.1 key := by
      intro collide
      exact
        admitted (bit_and_find_of_collide active collide different)
    exact active_put active apart

/-- Learning in another slot keeps the entry, whatever its bit. -/
theorem live_learnUnlessActive
    {foundTag : Bool}
    (live : cache.Live key value)
    (apart : ¬ cache.Collide learn.1 key) :
    (SwitchConfig.learnUnlessActive cache packet foundTag
      learn).1.Live key value := by
  rw [SwitchConfig.learnUnlessActive_cache]
  split
  · exact live
  · exact live.put_of_not_collide fun collide => apart collide.symm

/-- What `learned` says about the learning step of a data packet. -/
theorem learned_eq
    (uninvalidated : packet.invalidationTag.peek = none)
    (offered :
      packet.evictionTag.peek.isSome = true ∨
        ¬ config.isGateway packet.outer.destination = true) :
    learned config (.data packet) =
      some
        (packet.evictionTag.peek.getD
          (packet.inner.destination, packet.outer.destination)) := by
  simp only [learned, uninvalidated]
  cases found : packet.evictionTag.peek with
  | some learn => rfl
  | none =>
      have resolved :
          ¬ config.isGateway packet.outer.destination = true := by
        simpa [found] using offered
      simp [resolved]

/-- A nonzero tag is not an obsolete one. -/
theorem notObsolete
    (tagsNonzero :
      ∀ mapping ∈ packet.evictionTag.tags, Nonzero mapping.1 mapping.2) :
    ¬ (packet.evictionTag.peek.isSome = true ∧
      (packet.evictionTag.peek.getD
        (packet.inner.destination, packet.outer.destination)).1 = 0 ∧
      (packet.evictionTag.peek.getD
        (packet.inner.destination, packet.outer.destination)).2 = 0) := by
  rintro ⟨tagged, zero, _⟩
  obtain ⟨learn, found⟩ := Option.isSome_iff_exists.mp tagged
  have nonzero := tagsNonzero learn (TagStack.mem_of_peek found)
  rw [found] at zero
  exact nonzero.1 zero

/-- Learning from a packet does not displace an active entry. -/
theorem active_learnElsewhere
    {draw : Bool}
    (protects : Protects config)
    (uninvalidated : packet.invalidationTag.peek = none)
    (tagsNonzero :
      ∀ mapping ∈ packet.evictionTag.tags, Nonzero mapping.1 mapping.2)
    (active : cache.Active key value)
    (key_ne_zero : key ≠ 0)
    (different :
      ∀ learn, learned config (.data packet) = some learn →
        learn.1 ≠ key) :
    (config.learnElsewhere draw cache packet).1.Active key value := by
  unfold SwitchConfig.learnElsewhere
  dsimp only
  split
  next obsolete =>
    exact absurd obsolete (notObsolete tagsNonzero)
  next ordinary =>
    split
    next offered =>
      have other := different _ (learned_eq uninvalidated offered)
      split
      next atCore => exact active_learnAtCore active key_ne_zero other
      next notCore =>
        have protectedSpine := protects.guarded.resolve_left notCore
        rw [if_pos protectedSpine]
        exact active_learnUnlessActive active other
    next nothing => exact active

/-- Learning in another slot at a spine. -/
theorem live_learnElsewhere
    {draw : Bool}
    (atSpine : config.switchType = .spine)
    (protects : Protects config)
    (uninvalidated : packet.invalidationTag.peek = none)
    (tagsNonzero :
      ∀ mapping ∈ packet.evictionTag.tags, Nonzero mapping.1 mapping.2)
    (live : cache.Live key value)
    (apart :
      ∀ learn, learned config (.data packet) = some learn →
        ¬ cache.Collide learn.1 key) :
    (config.learnElsewhere draw cache packet).1.Live key value := by
  unfold SwitchConfig.learnElsewhere
  dsimp only
  split
  next obsolete =>
    exact absurd obsolete (notObsolete tagsNonzero)
  next ordinary =>
    split
    next offered =>
      have elsewhere := apart _ (learned_eq uninvalidated offered)
      have notCore : config.switchType ≠ .core := by
        simp [atSpine]
      rw [if_neg notCore]
      have protectedSpine := protects.guarded.resolve_left notCore
      rw [if_pos protectedSpine]
      exact live_learnUnlessActive live elsewhere
    next nothing => exact live

/-! ## Lookups for gateway-bound packets -/

/-- The lookup of a gateway-bound packet is of the key or in another slot. -/
theorem harmless_of_not_misses
    (uninvalidated : packet.invalidationTag.peek = none)
    (present : ¬ Misses config cache key (.data packet))
    (toGateway : config.isGateway packet.outer.destination = true) :
    packet.inner.destination = key ∨
      ¬ cache.Collide packet.inner.destination key := by
  by_contra harmful
  obtain ⟨different, collide⟩ := not_or.mp harmful
  refine present ⟨packet.inner.destination, ?_, different, ?_⟩
  · simp [lookedUp, uninvalidated, toGateway]
  · exact not_not.mp collide

theorem active_promoteLookup
    (active : cache.Active key value)
    (harmless :
      config.isGateway packet.outer.destination = true →
        packet.inner.destination = key ∨
          ¬ cache.Collide packet.inner.destination key) :
    (config.promoteLookup cache packet).2.Active key value := by
  unfold SwitchConfig.promoteLookup
  split
  next bound => exact active_get active (harmless bound.2)
  next unbound => exact active

theorem live_promoteLookup
    (live : cache.Live key value) :
    (config.promoteLookup cache packet).2.Live key value := by
  unfold SwitchConfig.promoteLookup
  split
  · exact (P4Cache.live_get _).mpr live
  · exact live

theorem collide_promoteLookup
    {first second : Ipv4Address} :
    (config.promoteLookup cache packet).2.Collide first second ↔
      cache.Collide first second := by
  unfold SwitchConfig.promoteLookup
  split
  · exact P4Cache.collide_get _ _ _ _
  · exact Iff.rfl

theorem active_redirectFromCache
    (active : cache.Active key value)
    (harmless :
      config.isGateway packet.outer.destination = true →
        packet.inner.destination = key ∨
          ¬ cache.Collide packet.inner.destination key) :
    (config.redirectFromCache cache packet).1.Active key value := by
  rw [SwitchConfig.redirectFromCache_cache]
  split
  next toGateway => exact active_get active (harmless toGateway)
  next resolved => exact active

theorem live_redirectFromCache
    (live : cache.Live key value) :
    (config.redirectFromCache cache packet).1.Live key value := by
  rw [SwitchConfig.redirectFromCache_cache]
  split
  next toGateway => exact (P4Cache.live_get _).mpr live
  next resolved => exact live

/-! ## Which keys share a slot never changes -/

theorem collide_putAndTag
    {first second : Ipv4Address} :
    (SwitchConfig.putAndTag cache packet learn).1.Collide first second ↔
      cache.Collide first second := by
  rw [SwitchConfig.putAndTag_cache]
  exact P4Cache.collide_put _ _ _ _ _

theorem collide_learnElsewhere
    {draw : Bool}
    {first second : Ipv4Address} :
    (config.learnElsewhere draw cache packet).1.Collide first second ↔
      cache.Collide first second := by
  unfold SwitchConfig.learnElsewhere
  dsimp only
  split
  next obsolete =>
    split
    · exact P4Cache.collide_remove _ _ _ _
    · exact Iff.rfl
  next ordinary =>
    split
    next offered =>
      split
      next atCore =>
        unfold SwitchConfig.learnAtCore
        dsimp only
        split
        · split
          · exact collide_putAndTag
          · exact Iff.rfl
        · exact P4Cache.collide_putIfNotEvict _ _ _ _ _
      next notCore =>
        split
        next protectedSpine =>
          rw [SwitchConfig.learnUnlessActive_cache]
          split
          · exact Iff.rfl
          · exact P4Cache.collide_put _ _ _ _ _
        next unprotected => exact collide_putAndTag
    next nothing => exact Iff.rfl

/-! ## One datagram -/

/-- The three ways in which an untagged packet can leave the cache. -/
theorem receiveUntagged_cache
    (packet : DataPacket)
    (notLeaf : config.switchType ≠ .leaf)
    (draw : Bool)
    (state : SwitchState) :
    let promoted := (config.promoteLookup state.cache packet).2
    let learnt := config.learnElsewhere draw promoted packet
    let after := (config.receiveUntagged draw state packet).state.cache
    after = promoted ∨ after = learnt.1 ∨
      after = (config.redirectFromCache learnt.1 learnt.2.1).1 := by
  dsimp only
  unfold SwitchConfig.receiveUntagged
  dsimp only
  split
  next promoted => exact Or.inl rfl
  next unpromoted =>
    rw [SwitchConfig.learnFromPacket_of_ne_leaf _ _ _ notLeaf]
    split
    · exact Or.inr (Or.inl rfl)
    · exact Or.inr (Or.inr rfl)

theorem Protects.notLeaf
    (protects : Protects config) :
    config.switchType ≠ .leaf := by
  intro atLeaf
  rcases protects.guarded with atCore | ⟨atSpine, _⟩
  · simp [atLeaf] at atCore
  · simp [atLeaf] at atSpine

/-- Without a missing lookup, an active entry stays active. -/
theorem active_receiveUntagged
    (protects : Protects config)
    (draw : Bool)
    {state : SwitchState}
    (uninvalidated : packet.invalidationTag.peek = none)
    (tagsNonzero :
      ∀ mapping ∈ packet.evictionTag.tags, Nonzero mapping.1 mapping.2)
    (active : state.cache.Active key value)
    (key_ne_zero : key ≠ 0)
    (different :
      ∀ learn, learned config (.data packet) = some learn →
        learn.1 ≠ key)
    (present : ¬ Misses config state.cache key (.data packet)) :
    (config.receiveUntagged draw state packet).state.cache.Active key
      value := by
  have harmless := harmless_of_not_misses uninvalidated present
  have promoted := active_promoteLookup active harmless
  have learnt :
      (config.learnElsewhere draw
        (config.promoteLookup state.cache packet).2 packet).1.Active
          key value :=
    active_learnElsewhere protects uninvalidated tagsNonzero promoted
      key_ne_zero different
  obtain ⟨tags, samePacket⟩ :=
    config.learnElsewhere_packet draw
      (config.promoteLookup state.cache packet).2 uninvalidated
  rcases receiveUntagged_cache packet protects.notLeaf draw state with
    after | after | after
  · rw [after]
    exact promoted
  · rw [after]
    exact learnt
  · rw [after, samePacket]
    refine active_redirectFromCache learnt fun toGateway => ?_
    rw [collide_learnElsewhere, collide_promoteLookup]
    exact harmless toGateway

/-- A missing lookup clears the bit; the entry stays unless overtaken. -/
theorem live_receiveUntagged
    (protects : Protects config)
    (draw : Bool)
    {state : SwitchState}
    (uninvalidated : packet.invalidationTag.peek = none)
    (tagsNonzero :
      ∀ mapping ∈ packet.evictionTag.tags, Nonzero mapping.1 mapping.2)
    (active : state.cache.Active key value)
    (key_ne_zero : key ≠ 0)
    (different :
      ∀ learn, learned config (.data packet) = some learn →
        learn.1 ≠ key)
    (missing : Misses config state.cache key (.data packet))
    (ahead : ¬ Overtaken config state.cache key (.data packet)) :
    (config.receiveUntagged draw state packet).state.cache.Live key
      value := by
  have promoted :
      (config.promoteLookup state.cache packet).2.Live key value :=
    live_promoteLookup active.toLive
  have learnt :
      (config.learnElsewhere draw
        (config.promoteLookup state.cache packet).2 packet).1.Live
          key value := by
    by_cases atSpine : config.switchType = .spine
    · refine
        live_learnElsewhere atSpine protects uninvalidated tagsNonzero
          promoted fun learn teaches collide => ?_
      rw [collide_promoteLookup] at collide
      exact
        ahead
          ⟨atSpine, missing, learn, teaches, different learn teaches,
            collide⟩
    · -- other switches learn before they look up
      have unchanged :
          (config.promoteLookup state.cache packet).2 = state.cache := by
        simp [SwitchConfig.promoteLookup, atSpine]
      rw [unchanged]
      exact
        (active_learnElsewhere protects uninvalidated tagsNonzero active
          key_ne_zero different).toLive
  rcases receiveUntagged_cache packet protects.notLeaf draw state with
    after | after | after
  · rw [after]
    exact promoted
  · rw [after]
    exact learnt
  · rw [after]
    exact live_redirectFromCache learnt

/-- The cache after an invalidation tag is that after an invalidation. -/
theorem followInvalidation_cache
    (invalidated : Mapping) :
    (SwitchConfig.followInvalidation cache packet invalidated).1 =
      SwitchConfig.invalidate cache invalidated := by
  unfold SwitchConfig.followInvalidation SwitchConfig.invalidate
  dsimp only
  cases (cache.get invalidated.1).1 with
  | none => simp
  | some cachedVal =>
      by_cases same : cachedVal = invalidated.2
      · simp [same]
      · simp [same]

/-- An invalidation without a missing lookup removes only its own mapping. -/
theorem active_invalidate
    (active : cache.Active key value)
    {invalidated : Mapping}
    (other : invalidated ≠ (key, value))
    (harmless :
      invalidated.1 = key ∨ ¬ cache.Collide invalidated.1 key) :
    (SwitchConfig.invalidate cache invalidated).Active key value := by
  have looked := active_get active harmless
  unfold SwitchConfig.invalidate
  dsimp only
  split
  next found =>
    have apart : ¬ cache.Collide key invalidated.1 := by
      intro collide
      have live := P4Cache.live_iff_get.mpr found
      have same := live.eq_of_collide active.toLive collide
      exact other (Prod.ext same.1.symm same.2.symm)
    refine ⟨looked.toLive.remove_of_not_collide ?_, ?_⟩
    · rwa [P4Cache.collide_get]
    · rw [P4Cache.getBit_remove, if_neg]
      · exact looked.bit
      · rwa [P4Cache.collide_get]
  next absent => exact looked

/-- A missing lookup by an invalidation removes nothing. -/
theorem live_invalidate
    (live : cache.Live key value)
    {invalidated : Mapping}
    (different : invalidated.1 ≠ key)
    (collide : cache.Collide invalidated.1 key) :
    (SwitchConfig.invalidate cache invalidated).Live key value := by
  unfold SwitchConfig.invalidate
  dsimp only
  split
  next found =>
    have otherLive := P4Cache.live_iff_get.mpr found
    exact absurd (live.eq_of_collide otherLive collide).1 different
  next absent => exact (P4Cache.live_get _).mpr live

variable
  {state : SwitchState}
  {arrival : Arrival}

/-- What a datagram with an invalidation does to the cache. -/
theorem receive_cache_of_invalidated
    (protects : Protects config)
    (permitted : Permitted config state arrival)
    {mapping : Mapping}
    (tagged : invalidated arrival.datagram = some mapping) :
    (config.receive state arrival).cache =
        SwitchConfig.invalidate state.cache mapping ∧
      lookedUp config arrival.datagram = some mapping.1 := by
  obtain ⟨datagram, draw⟩ := arrival
  cases datagram with
  | data packet =>
      change packet.invalidationTag.peek = some mapping at tagged
      constructor
      · have notLeaf := protects.notLeaf
        simp only [SwitchConfig.receive, SwitchConfig.receivePacket,
          protects.mode, tagged, reduceCtorEq, ↓reduceIte,
          SwitchConfig.receiveInvalidationTagged, notLeaf]
        exact followInvalidation_cache mapping
      · simp [lookedUp, tagged]
  | protocol packet =>
      change packet.invalidationTag.peek = some mapping at tagged
      constructor
      · have notHere :
            packet.destination = config.switchAddress →
              packet.evictionTag.peek = none := by
          intro here
          by_contra teaches
          exact
            permitted.learningForLeaves packet rfl teaches here
        simp only [SwitchConfig.receive,
          SwitchConfig.handleProtocolPacket, tagged]
        by_cases here : packet.destination = config.switchAddress
        · simp [here, notHere here]
        · simp [here]
      · simp [lookedUp, tagged]

/-- Other protocol packets change nothing. -/
theorem receive_protocol_of_untagged
    {packet : ProtocolPacket}
    {draw : Bool}
    (permitted : Permitted config state ⟨.protocol packet, draw⟩)
    (untagged : packet.invalidationTag.peek = none) :
    (config.receive state ⟨.protocol packet, draw⟩).cache =
      state.cache := by
  simp only [SwitchConfig.receive, SwitchConfig.handleProtocolPacket,
    untagged]
  by_cases here : packet.destination = config.switchAddress
  · have noTag : packet.evictionTag.peek = none := by
      by_contra teaches
      exact permitted.learningForLeaves packet rfl teaches here
    simp [here, noTag]
  · simp [here]

/-- Other data packets take the path without an invalidation tag. -/
theorem receive_data_of_untagged
    {packet : DataPacket}
    {draw : Bool}
    (protects : Protects config)
    (untagged : packet.invalidationTag.peek = none) :
    config.receive state ⟨.data packet, draw⟩ =
      (config.receiveUntagged draw state packet).state := by
  rw [SwitchConfig.receive]
  dsimp only
  rw [SwitchConfig.receivePacket_of_untagged draw state protects.mode
    untagged]

/-- The step lemma for an entry that nothing concerns. -/
theorem active_receive
    (protects : Protects config)
    (permitted : Permitted config state arrival)
    (active : state.cache.Active key value)
    (key_ne_zero : key ≠ 0)
    (valid : invalidated arrival.datagram ≠ some (key, value))
    (different :
      ∀ learn, learned config arrival.datagram = some learn →
        learn.1 ≠ key)
    (present : ¬ Misses config state.cache key arrival.datagram) :
    (config.receive state arrival).cache.Active key value := by
  cases tagged : invalidated arrival.datagram with
  | some mapping =>
      obtain ⟨after, looked⟩ :=
        receive_cache_of_invalidated protects permitted tagged
      have other : mapping ≠ (key, value) := by
        rintro rfl
        exact valid tagged
      have harmless :
          mapping.1 = key ∨ ¬ state.cache.Collide mapping.1 key := by
        by_contra harmful
        obtain ⟨differs, collide⟩ := not_or.mp harmful
        exact
          present ⟨mapping.1, looked, differs, not_not.mp collide⟩
      rw [after]
      exact active_invalidate active other harmless
  | none =>
      obtain ⟨datagram, draw⟩ := arrival
      cases datagram with
      | data packet =>
          rw [receive_data_of_untagged protects tagged]
          exact
            active_receiveUntagged protects draw tagged
              permitted.nonzero.2.2 active key_ne_zero different present
      | protocol packet =>
          rw [receive_protocol_of_untagged permitted tagged]
          exact active

/-- The step lemma for an entry whose bit a missing lookup clears. -/
theorem live_receive
    (protects : Protects config)
    (permitted : Permitted config state arrival)
    (active : state.cache.Active key value)
    (key_ne_zero : key ≠ 0)
    (different :
      ∀ learn, learned config arrival.datagram = some learn →
        learn.1 ≠ key)
    (missing : Misses config state.cache key arrival.datagram)
    (ahead : ¬ Overtaken config state.cache key arrival.datagram) :
    (config.receive state arrival).cache.Live key value := by
  cases tagged : invalidated arrival.datagram with
  | some mapping =>
      obtain ⟨after, looked⟩ :=
        receive_cache_of_invalidated protects permitted tagged
      obtain ⟨other, lookedOther, differs, collide⟩ := missing
      rw [looked, Option.some.injEq] at lookedOther
      subst lookedOther
      rw [after]
      exact live_invalidate active.toLive differs collide
  | none =>
      obtain ⟨datagram, draw⟩ := arrival
      cases datagram with
      | data packet =>
          rw [receive_data_of_untagged protects tagged]
          exact
            live_receiveUntagged protects draw tagged
              permitted.nonzero.2.2 active key_ne_zero different missing
              ahead
      | protocol packet =>
          rw [receive_protocol_of_untagged permitted tagged]
          exact active.toLive

/-! ## Runs -/

/-- Nothing that could clear the bit of the entry or remove it. -/
structure Quiet
    (config : SwitchConfig)
    (key value : Ipv4Address)
    (state : SwitchState)
    (arrival : Arrival) : Prop where
  permitted : Permitted config state arrival
  valid : invalidated arrival.datagram ≠ some (key, value)
  notRelearned :
    ∀ learn, learned config arrival.datagram = some learn →
      learn.1 ≠ key
  noMiss : ¬ Misses config state.cache key arrival.datagram

/-- What is promised about an active entry. -/
structure Protected
    (config : SwitchConfig)
    (state : SwitchState)
    (key value : Ipv4Address) : Prop where
  /-- No datagram removes or changes the entry, with three exceptions. -/
  kept :
    ∀ arrival, Permitted config state arrival →
      (config.receive state arrival).cache.Live key value ∨
        invalidated arrival.datagram = some (key, value) ∨
        (∃ newValue,
          learned config arrival.datagram = some (key, newValue)) ∨
        Overtaken config state.cache key arrival.datagram
  /-- The bit is only cleared for one of three reasons. -/
  bit :
    ∀ arrival, Permitted config state arrival →
      (config.receive state arrival).cache.getBit key = true ∨
        Misses config state.cache key arrival.datagram ∨
        (∃ newValue,
          learned config arrival.datagram = some (key, newValue)) ∨
        invalidated arrival.datagram = some (key, value)
  /-- The entry stays active for as long as nothing concerns it. -/
  persists :
    ∀ visited later,
      config.switchSystem.Run (Quiet config key value) state visited
        later →
      later.cache.Active key value

/-- The run lemma: an entry that nothing concerns stays active. -/
theorem active_of_quiet_run
    (protects : Protects config)
    (active : state.cache.Active key value)
    (key_ne_zero : key ≠ 0)
    {visited : List SwitchState}
    {later : SwitchState}
    (run :
      config.switchSystem.Run (Quiet config key value) state visited
        later) :
    later.cache.Active key value := by
  induction run with
  | start => exact active
  | step earlier quiet stepped inductionHypothesis =>
      simp only [SwitchConfig.switchSystem,
        Option.some.injEq] at stepped
      subst stepped
      exact
        active_receive protects quiet.permitted inductionHypothesis
          key_ne_zero quiet.valid quiet.notRelearned quiet.noMiss

/--
In every reachable state active entries are protected: only an invalidation of
the entry, a mapping for its own key, or a mapping that overtakes it at a spine
changes it, and only a missing lookup in its slot, a mapping for its own key or
its invalidation clears its bit.
-/
theorem protected_of_reachable
    (protects : Protects config)
    {memorySize : Nat}
    {memorySize_pos : 0 < memorySize}
    {hash : Ipv4Address → Nat}
    {bloomFilterSize : Nat}
    {heap : UInt32 → UInt8}
    (reachable :
      config.switchSystem.Reachable (Permitted config)
        (SwitchConfig.setup memorySize memorySize_pos hash
          bloomFilterSize heap)
        state)
    (active : state.cache.Active key value) :
    Protected config state key value := by
  obtain ⟨visited, run⟩ := reachable
  have stores :=
    SwitchConfig.stores_of_reachable
      ⟨visited, run.mono fun _ _ permitted => permitted.nonzero⟩
  have key_ne_zero :=
    SwitchConfig.key_ne_zero_of_live stores active.toLive
  have step :
      ∀ arrival, Permitted config state arrival →
        (config.receive state arrival).cache.Active key value ∨
          invalidated arrival.datagram = some (key, value) ∨
          (∃ newValue,
            learned config arrival.datagram = some (key, newValue)) ∨
          (Misses config state.cache key arrival.datagram ∧
            ((config.receive state arrival).cache.Live key value ∨
              Overtaken config state.cache key arrival.datagram)) := by
    intro arrival permitted
    by_cases valid : invalidated arrival.datagram = some (key, value)
    · exact Or.inr (Or.inl valid)
    by_cases relearned :
        ∃ newValue,
          learned config arrival.datagram = some (key, newValue)
    · exact Or.inr (Or.inr (Or.inl relearned))
    have different :
        ∀ learn, learned config arrival.datagram = some learn →
          learn.1 ≠ key := by
      rintro ⟨learnKey, learnValue⟩ teaches rfl
      exact relearned ⟨learnValue, teaches⟩
    by_cases missing : Misses config state.cache key arrival.datagram
    · refine Or.inr (Or.inr (Or.inr ⟨missing, ?_⟩))
      by_cases ahead :
          Overtaken config state.cache key arrival.datagram
      · exact Or.inr ahead
      · exact Or.inl
          (live_receive protects permitted active key_ne_zero different
            missing ahead)
    · exact Or.inl
        (active_receive protects permitted active key_ne_zero valid
          different missing)
  refine
    { kept := fun arrival permitted => ?_
      bit := fun arrival permitted => ?_
      persists := fun visited later quiet =>
        active_of_quiet_run protects active key_ne_zero quiet }
  · rcases step arrival permitted with
      stays | removed | relearned | ⟨_, live | overtaken⟩
    · exact Or.inl stays.toLive
    · exact Or.inr (Or.inl removed)
    · exact Or.inr (Or.inr (Or.inl relearned))
    · exact Or.inl live
    · exact Or.inr (Or.inr (Or.inr overtaken))
  · rcases step arrival permitted with
      stays | removed | relearned | ⟨missing, _⟩
    · exact Or.inl stays.bit
    · exact Or.inr (Or.inr (Or.inr removed))
    · exact Or.inr (Or.inr (Or.inl relearned))
    · exact Or.inr (Or.inl missing)

/-- Data packets with nonzero addresses are always permitted. -/
theorem permitted_data
    {packet : DataPacket}
    (draw : Bool)
    (nonzero : Datagram.NonzeroAddresses (.data packet)) :
    Permitted config state ⟨.data packet, draw⟩ :=
  ⟨nonzero, fun _ isProtocol => by simp at isProtocol⟩

section OnePod

open TraceSimulation

/-- A spine learns where container 2 is, and then a packet to it hits. -/
def onePodHit : SwitchState :=
  let learnt :=
    (onePod.plainSpineConfig .switchV2P).receive
      (SwitchConfig.setup 1 Nat.one_pos (fun _ => 0) 80 fun _ => 0)
      ⟨.data (onePod.packetTo .switchV2P 2 onePod.oldHost), false⟩
  (onePod.plainSpineConfig .switchV2P).receive learnt
    ⟨.data (onePod.packetTo .switchV2P 2 onePod.gateway), false⟩

/-- A gateway-bound packet to container 3 that carries container 1. -/
def onePodOvertaking : DataPacket :=
  { onePod.packetTo .switchV2P 3 onePod.gateway with
    evictionTag := TagStack.empty.add (1, onePod.newHost) }

theorem reachable_onePodHit :
    (onePod.plainSpineConfig .switchV2P).switchSystem.Reachable
      (Permitted (onePod.plainSpineConfig .switchV2P))
      (SwitchConfig.setup 1 Nat.one_pos (fun _ => 0) 80 fun _ => 0)
      onePodHit := by
  refine
    SwitchConfig.reachable_receive
      (SwitchConfig.reachable_receive .start _ (permitted_data _ ?_))
      _ (permitted_data _ ?_)
  · exact
      ⟨⟨by decide, by decide⟩, ⟨by decide, by decide⟩,
        fun _ member => absurd member List.not_mem_nil⟩
  · exact
      ⟨⟨by decide, by decide⟩, ⟨by decide, by decide⟩,
        fun _ member => absurd member List.not_mem_nil⟩

theorem active_onePodHit :
    onePodHit.cache.Active 2 onePod.oldHost :=
  ⟨⟨by decide +kernel, by decide⟩, by decide +kernel⟩

/-- The entry that was hit is protected. -/
theorem protected_of_reachable_onePod :
    Protected (onePod.plainSpineConfig .switchV2P) onePodHit 2
      onePod.oldHost :=
  protected_of_reachable ⟨rfl, Or.inr ⟨Or.inl rfl, rfl⟩⟩
    reachable_onePodHit active_onePodHit

/--
The mapping in the tag overtakes: it displaces the active entry of another key,
which the packet neither invalidates nor teaches.
-/
theorem overtaken_onePod :
    ∃ state arrival,
      (onePod.plainSpineConfig .switchV2P).switchSystem.Reachable
          (Permitted (onePod.plainSpineConfig .switchV2P))
          (SwitchConfig.setup 1 Nat.one_pos (fun _ => 0) 80 fun _ => 0)
          state ∧
        state.cache.Active 2 onePod.oldHost ∧
        Permitted (onePod.plainSpineConfig .switchV2P) state arrival ∧
        ¬ (((onePod.plainSpineConfig .switchV2P).receive state
              arrival).cache.Live 2 onePod.oldHost ∨
            invalidated arrival.datagram = some (2, onePod.oldHost) ∨
            ∃ newValue,
              learned (onePod.plainSpineConfig .switchV2P)
                arrival.datagram = some (2, newValue)) := by
  have permitted :
      Permitted (onePod.plainSpineConfig .switchV2P) onePodHit
        ⟨.data onePodOvertaking, false⟩ := by
    refine permitted_data _ ⟨⟨by decide, by decide⟩,
      ⟨by decide, by decide⟩, ?_⟩
    intro mapping member
    have isTag : mapping = (1, onePod.newHost) := by
      simpa [onePodOvertaking] using member
    rw [isTag]
    exact ⟨by decide, by decide⟩
  have displaced :
      (((onePod.plainSpineConfig .switchV2P).receive onePodHit
        ⟨.data onePodOvertaking, false⟩).cache.slot 2) =
          (1, onePod.newHost) := by
    decide +kernel
  refine
    ⟨onePodHit, ⟨.data onePodOvertaking, false⟩, reachable_onePodHit,
      active_onePodHit, permitted, ?_⟩
  rintro (live | removed | ⟨newValue, relearned⟩)
  · have stored := live.stored
    rw [displaced] at stored
    exact absurd stored (by decide)
  · exact absurd removed (by decide)
  · have teaches :
        learned (onePod.plainSpineConfig .switchV2P)
          (.data onePodOvertaking) = some (1, onePod.newHost) := by
      decide
    rw [teaches] at relearned
    simp at relearned

end OnePod

end SwitchV2P.ActiveEntries
