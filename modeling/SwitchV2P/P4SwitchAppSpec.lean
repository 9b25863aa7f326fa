import SwitchV2P.P4SwitchApp

namespace SwitchV2P

/-!
# What one packet can do at a switch

Everything later proofs need to know about `receivePacket` is stated once here,
relative to a property `holds` of mappings: if the cache stores only mappings
with the property and the packet offers only such mappings, then so does what
the switch leaves behind, and every redirection goes to an address that the
cache vouched for.
-/

namespace SwitchConfig

variable (config : SwitchConfig)

/-- The switch reads tags: it is not in local-learning mode. -/
def readsTags : Bool :=
  config.simMode ≠ .localLearning

/-- The packet teaches the switch its destination. -/
structure LearnsDestination (packet : DataPacket) : Prop where
  uninvalidated :
    config.readsTags = true → packet.invalidationTag.peek = none
  resolved : config.isGateway packet.outer.destination = false

/-- The packet teaches the switch its source. -/
structure LearnsSource (packet : DataPacket) : Prop where
  readsTags : config.readsTags = true
  uninvalidated : packet.invalidationTag.peek = none
  atLeaf : config.switchType = .leaf
  enabled : config.sourceLearning = true
  distant : packet.outer.ttl.toUInt32 < config.defaultTtl - 1

instance (packet : DataPacket) :
    Decidable (config.LearnsSource packet) :=
  decidable_of_iff
    (config.readsTags = true ∧ packet.invalidationTag.peek = none ∧
      config.switchType = .leaf ∧ config.sourceLearning = true ∧
      packet.outer.ttl.toUInt32 < config.defaultTtl - 1)
    ⟨fun ⟨readsTags, uninvalidated, atLeaf, enabled, distant⟩ =>
        ⟨readsTags, uninvalidated, atLeaf, enabled, distant⟩,
      fun ⟨readsTags, uninvalidated, atLeaf, enabled, distant⟩ =>
        ⟨readsTags, uninvalidated, atLeaf, enabled, distant⟩⟩

/-- Every mapping the packet can teach the switch has the property. -/
structure Offers
    (holds : Ipv4Address → Ipv4Address → Prop)
    (packet : DataPacket) : Prop where
  evicted : ∀ mapping ∈ packet.evictionTag.tags, holds mapping.1 mapping.2
  destination :
    config.LearnsDestination packet →
      holds packet.inner.destination packet.outer.destination
  source :
    config.LearnsSource packet →
      holds packet.inner.source packet.outer.source

/-- How a switch may change the destination of a packet. -/
inductive Readdressed
    (holds : Ipv4Address → Ipv4Address → Prop)
    (packet : DataPacket) :
    Ipv4Address → Prop where
  | kept :
      Readdressed holds packet packet.outer.destination
  | followed
      {invalidated : Mapping}
      {address : Ipv4Address}
      (readsTags : config.readsTags = true)
      (tagged : packet.invalidationTag.peek = some invalidated)
      (vouched : holds invalidated.1 address)
      (different : address ≠ invalidated.2) :
      Readdressed holds packet address
  | hit
      {address : Ipv4Address}
      (uninvalidated :
        config.readsTags = true → packet.invalidationTag.peek = none)
      (toGateway : config.isGateway packet.outer.destination = true)
      (vouched : holds packet.inner.destination address) :
      Readdressed holds packet address

/-- How a switch may change the hit tags of a packet it leaves as `after`. -/
inductive Retagged
    (holds : Ipv4Address → Ipv4Address → Prop)
    (packet after : DataPacket) : Prop where
  | kept
      (same : after.hitTag = packet.hitTag)
      (unredirected :
        config.readsTags = true → packet.invalidationTag.peek = none →
          after.outer.destination = packet.outer.destination)
  | reported
      {invalidated : Mapping}
      (readsTags : config.readsTags = true)
      (tagged : packet.invalidationTag.peek = some invalidated)
      (removed : after.hitTag = packet.hitTag.remove)
  | hit
      {tag : HitTag}
      (readsTags : config.readsTags = true)
      (uninvalidated : packet.invalidationTag.peek = none)
      (toGateway : config.isGateway packet.outer.destination = true)
      (vouched :
        holds packet.inner.destination after.outer.destination)
      (added : after.hitTag = packet.hitTag.add tag)

/-- A switch changes only the destination and the hit and eviction tags. -/
structure SamePacket (packet after : DataPacket) : Prop where
  source : after.outer.source = packet.outer.source
  ttl : after.outer.ttl = packet.outer.ttl
  inner : after.inner = packet.inner
  invalidationTag : after.invalidationTag = packet.invalidationTag
  sourceTag : after.sourceTag = packet.sourceTag
  flowId : after.flowId = packet.flowId
  misdeliveries : after.misdeliveries = packet.misdeliveries

/-- Everything the network proofs use about one packet at one switch. -/
structure Handled
    (holds : Ipv4Address → Ipv4Address → Prop)
    (packet : DataPacket)
    (received : Received) : Prop where
  stores : received.state.cache.Stores holds
  evicted :
    ∀ mapping ∈ received.packet.evictionTag.tags,
      holds mapping.1 mapping.2
  learning :
    ∀ generated ∈ received.generated,
      ∀ mapping ∈ generated.evictionTag.tags, holds mapping.1 mapping.2
  same : SamePacket packet received.packet
  destination :
    config.Readdressed holds packet received.packet.outer.destination
  hitTag : config.Retagged holds packet received.packet
  evictionTag :
    packet.evictionTag.AtMostOne → received.packet.evictionTag.AtMostOne

theorem SamePacket.refl (packet : DataPacket) : SamePacket packet packet :=
  ⟨rfl, rfl, rfl, rfl, rfl, rfl, rfl⟩

variable
  {config : SwitchConfig}
  {holds : Ipv4Address → Ipv4Address → Prop}

/-! ## Generated packets -/

/-- A generated learning packet carries the mapping it was made for. -/
theorem mem_generatePacketToAddress
    {data : Mapping}
    {dstAddress : Ipv4Address}
    {learning : Bool}
    {generated : ProtocolPacket}
    (member :
      generated ∈ config.generatePacketToAddress data dstAddress learning) :
    generated.destination = dstAddress ∧
      generated.evictionTag.tags = (if learning then [data] else []) ∧
      generated.invalidationTag.tags =
        (if learning then [] else [data]) := by
  unfold generatePacketToAddress at member
  cases learning <;>
    simp only [ite_true, Bool.false_eq_true, ite_false] at member ⊢ <;>
    split at member <;> simp_all

theorem generateLearning_evicted
    {draw : Bool}
    {packet : DataPacket}
    {learn : Mapping}
    (vouched : holds learn.1 learn.2)
    {generated : ProtocolPacket}
    (member : generated ∈ config.generateLearning draw packet learn)
    {mapping : Mapping}
    (carried : mapping ∈ generated.evictionTag.tags) :
    holds mapping.1 mapping.2 := by
  unfold generateLearning at member
  split at member
  · obtain ⟨_, tags, _⟩ := mem_generatePacketToAddress member
    simp only [tags, ite_true, List.mem_singleton] at carried
    subst carried
    exact vouched
  · simp at member

/-! ## Local learning -/

theorem handled_localP4CacheLogic
    {state : SwitchState}
    {packet : DataPacket}
    (mode : config.simMode = .localLearning)
    (stores : state.cache.Stores holds)
    (offers : config.Offers holds packet) :
    config.Handled holds packet
      (config.localP4CacheLogic state packet) := by
  have ignoresTags : ¬ config.readsTags = true := by
    simp [readsTags, mode]
  unfold localP4CacheLogic
  dsimp only
  split
  next toGateway =>
    cases found : (state.cache.get packet.inner.destination).1 with
    | none =>
        exact
          { stores := stores.get _
            evicted := offers.evicted
            learning := by simp
            same := .refl packet
            destination := .kept
            hitTag := .kept rfl fun reads => absurd reads ignoresTags
            evictionTag := id }
    | some address =>
        exact
          { stores := stores.get _
            evicted := offers.evicted
            learning := by simp
            same := ⟨rfl, rfl, rfl, rfl, rfl, rfl, rfl⟩
            destination :=
              .hit (fun reads => absurd reads ignoresTags) toGateway
                (stores.of_get found)
            hitTag := .kept rfl fun reads => absurd reads ignoresTags
            evictionTag := id }
  next resolved =>
    have learns : config.LearnsDestination packet :=
      ⟨fun reads => absurd reads ignoresTags, by simpa using resolved⟩
    exact
      { stores := stores.put (offers.destination learns)
        evicted := offers.evicted
        learning := by simp
        same := .refl packet
        destination := .kept
        hitTag := .kept rfl fun reads => absurd reads ignoresTags
        evictionTag := id }

/-! ## Packets with an invalidation tag -/

/-- The cache half of the invalidation path. -/
theorem followInvalidation_spec
    {cache : P4Cache Ipv4Address Ipv4Address}
    {packet : DataPacket}
    {invalidated : Mapping}
    (readsTags : config.readsTags = true)
    (tagged : packet.invalidationTag.peek = some invalidated)
    (stores : cache.Stores holds) :
    (followInvalidation cache packet invalidated).1.Stores holds ∧
      ∃ address, config.Readdressed holds packet address ∧
        (followInvalidation cache packet invalidated).2 =
          packet.setDestination address := by
  unfold followInvalidation
  dsimp only
  cases found : (cache.get invalidated.1).1 with
  | none =>
      exact ⟨stores.get _, _, .kept, rfl⟩
  | some cachedVal =>
      dsimp only
      split
      next same =>
        exact ⟨(stores.get _).remove _, _, .kept, rfl⟩
      next different =>
        exact ⟨stores.get _, cachedVal,
          .followed readsTags tagged (stores.of_get found) different,
          rfl⟩

/-- The reporting half changes nothing but the hit tags. -/
theorem reportInvalidation_spec
    (config : SwitchConfig)
    (state : SwitchState)
    (packet : DataPacket)
    (invalidated : Mapping) :
    let received := config.reportInvalidation state packet invalidated
    received.state.cache = state.cache ∧
      (∃ hitTag, received.packet = { packet with hitTag := hitTag } ∧
        (hitTag = packet.hitTag ∨ hitTag = packet.hitTag.remove)) ∧
      ∀ generated ∈ received.generated,
        generated.evictionTag.tags = [] := by
  unfold reportInvalidation
  cases found : packet.hitTag.peek with
  | none =>
      exact ⟨rfl, ⟨packet.hitTag, rfl, Or.inl rfl⟩, by simp⟩
  | some hitTag =>
      refine ⟨rfl, ⟨packet.hitTag.remove, rfl, Or.inr rfl⟩, ?_⟩
      intro generated member
      dsimp only at member
      split at member
      · simpa using (mem_generatePacketToAddress member).2.1
      · simp at member

theorem handled_receiveInvalidationTagged
    {state : SwitchState}
    {packet : DataPacket}
    {invalidated : Mapping}
    (readsTags : config.readsTags = true)
    (tagged : packet.invalidationTag.peek = some invalidated)
    (stores : state.cache.Stores holds)
    (offers : config.Offers holds packet) :
    config.Handled holds packet
      (config.receiveInvalidationTagged state packet invalidated) := by
  obtain ⟨followedStores, address, readdressed, followedPacket⟩ :=
    followInvalidation_spec readsTags tagged stores
  unfold receiveInvalidationTagged
  dsimp only
  rw [followedPacket]
  split
  next atLeaf =>
    obtain ⟨sameCache, ⟨hitTag, shape, retagged⟩, noLearning⟩ :=
      config.reportInvalidation_spec
        { state with
          cache :=
            (followInvalidation state.cache packet invalidated).1 }
        (packet.setDestination address)
        invalidated
    refine
      { stores := by rw [sameCache]; exact followedStores
        evicted := by rw [shape]; exact offers.evicted
        learning := ?_
        same := by rw [shape]; exact ⟨rfl, rfl, rfl, rfl, rfl, rfl, rfl⟩
        destination := by rw [shape]; exact readdressed
        hitTag := ?_
        evictionTag := by rw [shape]; exact id }
    · intro generated member mapping carried
      rw [noLearning generated member] at carried
      simp at carried
    · rw [shape]
      rcases retagged with unchanged | removed
      · exact
          .kept unchanged fun _ untagged => by simp [tagged] at untagged
      · exact .reported readsTags tagged removed
  next elsewhere =>
    exact
      { stores := followedStores
        evicted := offers.evicted
        learning := by simp
        same := ⟨rfl, rfl, rfl, rfl, rfl, rfl, rfl⟩
        destination := readdressed
        hitTag :=
          .kept rfl fun _ untagged => by simp [tagged] at untagged
        evictionTag := id }

/-! ## Learning -/

/-- Learning at a leaf stores what the packet offers. -/
theorem learnAtLeaf_stores
    {cache : P4Cache Ipv4Address Ipv4Address}
    {packet : DataPacket}
    (readsTags : config.readsTags = true)
    (uninvalidated : packet.invalidationTag.peek = none)
    (atLeaf : config.switchType = .leaf)
    (stores : cache.Stores holds)
    (offers : config.Offers holds packet) :
    (config.learnAtLeaf cache packet).Stores holds := by
  unfold learnAtLeaf
  split
  next distant =>
    exact
      stores.put
        (offers.source
          ⟨readsTags, uninvalidated, atLeaf, distant.1, distant.2⟩)
  next near =>
    split
    next resolved =>
      exact
        stores.putIfNotEvict
          (offers.destination
            ⟨fun _ => uninvalidated, by simpa using resolved⟩)
    next toGateway => exact stores

/-- The result of a learning step: a cache, and new eviction tags. -/
structure Learnt
    (holds : Ipv4Address → Ipv4Address → Prop)
    (packet : DataPacket)
    (result : P4Cache Ipv4Address Ipv4Address × DataPacket) : Prop where
  stores : result.1.Stores holds
  tagged :
    result.2 = packet ∨
      ∃ mapping, holds mapping.1 mapping.2 ∧
        result.2 =
          { packet with evictionTag := packet.evictionTag.add mapping }

/-- Tagging aside, `putAndTag` is `Put`. -/
@[simp] theorem putAndTag_cache
    (cache : P4Cache Ipv4Address Ipv4Address)
    (packet : DataPacket)
    (learn : Mapping) :
    (putAndTag cache packet learn).1 = (cache.put learn.1 learn.2).2 := by
  unfold putAndTag
  dsimp only
  split <;> rfl

theorem putAndTag_learnt
    {cache : P4Cache Ipv4Address Ipv4Address}
    (packet : DataPacket)
    {learn : Mapping}
    (stores : cache.Stores holds)
    (vouched : holds learn.1 learn.2) :
    Learnt holds packet (putAndTag cache packet learn) := by
  unfold putAndTag
  dsimp only
  cases reported : (cache.put learn.1 learn.2).1 with
  | none => exact ⟨stores.put vouched, Or.inl rfl⟩
  | some evicted =>
      exact ⟨stores.put vouched,
        Or.inr ⟨evicted, stores.of_evicted reported, rfl⟩⟩

theorem learnAtCore_learnt
    {cache : P4Cache Ipv4Address Ipv4Address}
    (packet : DataPacket)
    (foundTag : Bool)
    {learn : Mapping}
    (stores : cache.Stores holds)
    (vouched : holds learn.1 learn.2) :
    Learnt holds packet (learnAtCore cache packet foundTag learn) := by
  unfold learnAtCore
  split
  · dsimp only
    split
    · exact putAndTag_learnt packet stores vouched
    · exact ⟨stores, Or.inr ⟨learn, vouched, rfl⟩⟩
  · exact ⟨stores.putIfNotEvict vouched, Or.inl rfl⟩

/-- A slot that is not active against the key takes the entry. -/
theorem learnUnlessActive_of_admitted
    {cache : P4Cache Ipv4Address Ipv4Address}
    {learn : Mapping}
    (packet : DataPacket)
    (foundTag : Bool)
    (admitted :
      ¬ (cache.getBit learn.1 = true ∧ cache.find learn.1 = false)) :
    learnUnlessActive cache packet foundTag learn =
      putAndTag cache packet learn := by
  -- The two conditions of the source are exhaustive.
  have exhaustive :
      cache.getBit learn.1 = false ∨ cache.find learn.1 = true := by
    simpa [Decidable.or_iff_not_imp_left] using admitted
  unfold learnUnlessActive
  dsimp only
  rw [if_neg admitted, if_pos exhaustive]

theorem learnUnlessActive_cache
    (cache : P4Cache Ipv4Address Ipv4Address)
    (packet : DataPacket)
    (foundTag : Bool)
    (learn : Mapping) :
    (learnUnlessActive cache packet foundTag learn).1 =
      if cache.getBit learn.1 = true ∧ cache.find learn.1 = false then
        cache
      else
        (cache.put learn.1 learn.2).2 := by
  split
  next refused =>
    unfold learnUnlessActive
    dsimp only
    rw [if_pos refused]
    split <;> rfl
  next admitted =>
    rw [learnUnlessActive_of_admitted packet foundTag admitted,
      putAndTag_cache]

theorem learnUnlessActive_learnt
    {cache : P4Cache Ipv4Address Ipv4Address}
    (packet : DataPacket)
    (foundTag : Bool)
    {learn : Mapping}
    (stores : cache.Stores holds)
    (vouched : holds learn.1 learn.2) :
    Learnt holds packet
      (learnUnlessActive cache packet foundTag learn) := by
  by_cases refused :
      cache.getBit learn.1 = true ∧ cache.find learn.1 = false
  · unfold learnUnlessActive
    dsimp only
    rw [if_pos refused]
    split
    · exact ⟨stores, Or.inr ⟨learn, vouched, rfl⟩⟩
    · exact ⟨stores, Or.inl rfl⟩
  · rw [learnUnlessActive_of_admitted packet foundTag refused]
    exact putAndTag_learnt packet stores vouched

/-- A packet that differs from another in its eviction tags only. -/
def EvictionTagged
    (holds : Ipv4Address → Ipv4Address → Prop)
    (packet after : DataPacket) : Prop :=
  ∃ tags, after = { packet with evictionTag := tags } ∧
    (∀ mapping ∈ tags.tags, holds mapping.1 mapping.2) ∧
    (packet.evictionTag.AtMostOne → tags.AtMostOne)

/-- Removing the newest eviction tag. -/
theorem EvictionTagged.untagged
    {packet : DataPacket}
    (evicted :
      ∀ mapping ∈ packet.evictionTag.tags, holds mapping.1 mapping.2) :
    EvictionTagged holds packet
      { packet with evictionTag := packet.evictionTag.remove } :=
  ⟨packet.evictionTag.remove, rfl,
    fun mapping member => evicted mapping (TagStack.mem_of_mem_remove member),
    fun single => single.remove⟩

/-- Replacing the newest eviction tag by another mapping. -/
theorem EvictionTagged.replaced
    {packet : DataPacket}
    (evicted :
      ∀ mapping ∈ packet.evictionTag.tags, holds mapping.1 mapping.2)
    (mapping : Mapping)
    (vouched : holds mapping.1 mapping.2) :
    EvictionTagged holds packet
      { packet with
        evictionTag := packet.evictionTag.remove.add mapping } := by
  refine ⟨_, rfl, ?_, fun single => single.remove_add mapping⟩
  intro carried member
  rcases TagStack.mem_add.mp member with isNew | wasThere
  · rw [isNew]
    exact vouched
  · exact evicted carried (TagStack.mem_of_mem_remove wasThere)

/-- Learning after the tag was taken off leaves at most one new tag. -/
theorem EvictionTagged.of_learnt
    {packet : DataPacket}
    {result : P4Cache Ipv4Address Ipv4Address × DataPacket}
    (evicted :
      ∀ mapping ∈ packet.evictionTag.tags, holds mapping.1 mapping.2)
    (learnt :
      Learnt holds
        { packet with evictionTag := packet.evictionTag.remove } result) :
    EvictionTagged holds packet result.2 := by
  rcases learnt.tagged with unchanged | ⟨mapping, vouched, added⟩
  · rw [unchanged]
    exact .untagged evicted
  · rw [added]
    exact .replaced evicted mapping vouched

/-- Learning at every switch but a leaf. -/
theorem learnElsewhere_spec
    (draw : Bool)
    {cache : P4Cache Ipv4Address Ipv4Address}
    {packet : DataPacket}
    (uninvalidated : packet.invalidationTag.peek = none)
    (stores : cache.Stores holds)
    (offers : config.Offers holds packet) :
    let result := config.learnElsewhere draw cache packet
    result.1.Stores holds ∧
      EvictionTagged holds packet result.2.1 ∧
      ∀ generated ∈ result.2.2.1,
        ∀ mapping ∈ generated.evictionTag.tags,
          holds mapping.1 mapping.2 := by
  have learnVouched :
      (packet.evictionTag.peek.isSome = true ∨
        ¬ config.isGateway packet.outer.destination = true) →
      holds
        (packet.evictionTag.peek.getD
          (packet.inner.destination, packet.outer.destination)).1
        (packet.evictionTag.peek.getD
          (packet.inner.destination, packet.outer.destination)).2 := by
    intro offered
    cases found : packet.evictionTag.peek with
    | some learn =>
        exact offers.evicted learn (TagStack.mem_of_peek found)
    | none =>
        have resolved :
            ¬ config.isGateway packet.outer.destination = true := by
          simpa [found] using offered
        exact offers.destination
          ⟨fun _ => uninvalidated, by simpa using resolved⟩
  unfold learnElsewhere
  dsimp only
  split
  next obsolete =>
    have vouched := learnVouched (Or.inl obsolete.1)
    refine ⟨?_, .replaced offers.evicted _ vouched, by simp⟩
    split
    · exact stores.remove _
    · exact stores
  next ordinary =>
    split
    next offered =>
      have vouched := learnVouched offered
      split
      next atCore =>
        have learnt :=
          learnAtCore_learnt
            { packet with evictionTag := packet.evictionTag.remove }
            packet.evictionTag.peek.isSome stores vouched
        exact ⟨learnt.stores, .of_learnt offers.evicted learnt, by simp⟩
      next notCore =>
        split
        next protectedSpine =>
          have learnt :=
            learnUnlessActive_learnt
              { packet with evictionTag := packet.evictionTag.remove }
              packet.evictionTag.peek.isSome stores vouched
          exact ⟨learnt.stores, .of_learnt offers.evicted learnt,
            by simp⟩
        next unprotected =>
          have learnt :=
            putAndTag_learnt
              { packet with evictionTag := packet.evictionTag.remove }
              stores vouched
          exact ⟨learnt.stores, .of_learnt offers.evicted learnt,
            fun _ member _ carried =>
              generateLearning_evicted vouched member carried⟩
    next nothing =>
      exact ⟨stores, .untagged offers.evicted, by simp⟩

/-- Learning changes nothing of the packet but its eviction tags. -/
theorem learnElsewhere_packet
    (config : SwitchConfig)
    (draw : Bool)
    (cache : P4Cache Ipv4Address Ipv4Address)
    {packet : DataPacket}
    (uninvalidated : packet.invalidationTag.peek = none) :
    ∃ tags,
      (config.learnElsewhere draw cache packet).2.1 =
        { packet with evictionTag := tags } := by
  have stores : cache.Stores fun _ _ => True := fun _ => Or.inr trivial
  have offers : config.Offers (fun _ _ => True) packet :=
    ⟨fun _ _ => trivial, fun _ => trivial, fun _ => trivial⟩
  obtain ⟨_, ⟨tags, shape, _⟩, _⟩ :=
    learnElsewhere_spec draw uninvalidated stores offers
  exact ⟨tags, shape⟩

theorem learnFromPacket_spec
    (draw : Bool)
    {cache : P4Cache Ipv4Address Ipv4Address}
    {packet : DataPacket}
    (readsTags : config.readsTags = true)
    (uninvalidated : packet.invalidationTag.peek = none)
    (stores : cache.Stores holds)
    (offers : config.Offers holds packet) :
    let result := config.learnFromPacket draw cache packet
    result.1.Stores holds ∧
      EvictionTagged holds packet result.2.1 ∧
      ∀ generated ∈ result.2.2.1,
        ∀ mapping ∈ generated.evictionTag.tags,
          holds mapping.1 mapping.2 := by
  unfold learnFromPacket
  split
  next atLeaf =>
    exact
      ⟨learnAtLeaf_stores readsTags uninvalidated atLeaf stores offers,
        ⟨packet.evictionTag, rfl, offers.evicted, id⟩, by simp⟩
  next elsewhere =>
    exact learnElsewhere_spec draw uninvalidated stores offers

/-- Only leaves learn nothing from tags. -/
theorem learnFromPacket_of_ne_leaf
    (draw : Bool)
    (cache : P4Cache Ipv4Address Ipv4Address)
    (packet : DataPacket)
    (notLeaf : config.switchType ≠ .leaf) :
    config.learnFromPacket draw cache packet =
      config.learnElsewhere draw cache packet := by
  rw [learnFromPacket, if_neg notLeaf]

/-! ## Packets without an invalidation tag -/

/-- Only spines promote their entries. -/
theorem promoteLookup_of_ne_spine
    (cache : P4Cache Ipv4Address Ipv4Address)
    (packet : DataPacket)
    (notSpine : config.switchType ≠ .spine) :
    config.promoteLookup cache packet = (none, cache) := by
  rw [promoteLookup, if_neg fun promotes => notSpine promotes.1]

/-- Nor does a spine when the packet has its destination. -/
theorem promoteLookup_of_resolved
    (cache : P4Cache Ipv4Address Ipv4Address)
    {packet : DataPacket}
    (resolved : config.isGateway packet.outer.destination = false) :
    config.promoteLookup cache packet = (none, cache) := by
  rw [promoteLookup, if_neg]
  rintro ⟨_, toGateway⟩
  rw [resolved] at toGateway
  exact Bool.false_ne_true toGateway

theorem promoteLookup_spec
    (config : SwitchConfig)
    {cache : P4Cache Ipv4Address Ipv4Address}
    (packet : DataPacket)
    (stores : cache.Stores holds) :
    (config.promoteLookup cache packet).2.Stores holds ∧
      ∀ {cachedVal},
        (config.promoteLookup cache packet).1 = some cachedVal →
        holds packet.inner.destination cachedVal := by
  unfold promoteLookup
  split
  · exact ⟨stores.get _, fun found => stores.of_get found⟩
  · exact ⟨stores, fun found => nomatch found⟩

/-- The last lookup is made for gateway-bound packets only. -/
theorem redirectFromCache_cache
    (config : SwitchConfig)
    (cache : P4Cache Ipv4Address Ipv4Address)
    (packet : DataPacket) :
    (config.redirectFromCache cache packet).1 =
      if config.isGateway packet.outer.destination then
        (cache.get packet.inner.destination).2
      else
        cache := by
  unfold redirectFromCache
  split
  · dsimp only
    split <;> rfl
  · rfl

/-- The last lookup, on a packet whose eviction tags may have changed. -/
theorem redirectFromCache_spec
    {cache : P4Cache Ipv4Address Ipv4Address}
    {packet learned : DataPacket}
    (readsTags : config.readsTags = true)
    (uninvalidated : packet.invalidationTag.peek = none)
    (stores : cache.Stores holds)
    (tagged : EvictionTagged holds packet learned)
    {bloomFilter : BloomFilter}
    {generated : List ProtocolPacket}
    (learning :
      ∀ protocolPacket ∈ generated,
        ∀ mapping ∈ protocolPacket.evictionTag.tags,
          holds mapping.1 mapping.2) :
    config.Handled holds packet
      { state :=
          { cache := (config.redirectFromCache cache learned).1
            bloomFilter := bloomFilter }
        packet := (config.redirectFromCache cache learned).2
        generated := generated } := by
  obtain ⟨tags, rfl, evicted, single⟩ := tagged
  unfold redirectFromCache
  dsimp only
  split
  next toGateway =>
    cases found : (cache.get packet.inner.destination).1 with
    | none =>
        exact
          { stores := stores.get _
            evicted := evicted
            learning := learning
            same := ⟨rfl, rfl, rfl, rfl, rfl, rfl, rfl⟩
            destination := .kept
            hitTag := .kept rfl fun _ _ => rfl
            evictionTag := single }
    | some address =>
        have vouched := stores.of_get found
        exact
          { stores := stores.get _
            evicted := evicted
            learning := learning
            same := ⟨rfl, rfl, rfl, rfl, rfl, rfl, rfl⟩
            destination :=
              .hit (fun _ => uninvalidated) toGateway vouched
            hitTag :=
              .hit readsTags uninvalidated toGateway vouched rfl
            evictionTag := single }
  next resolved =>
    exact
      { stores := stores
        evicted := evicted
        learning := learning
        same := ⟨rfl, rfl, rfl, rfl, rfl, rfl, rfl⟩
        destination := .kept
        hitTag := .kept rfl fun _ _ => rfl
        evictionTag := single }

theorem handled_receiveUntagged
    (draw : Bool)
    {state : SwitchState}
    {packet : DataPacket}
    (readsTags : config.readsTags = true)
    (uninvalidated : packet.invalidationTag.peek = none)
    (stores : state.cache.Stores holds)
    (offers : config.Offers holds packet) :
    config.Handled holds packet
      (config.receiveUntagged draw state packet) := by
  obtain ⟨promotedStores, promotedVouched⟩ :=
    config.promoteLookup_spec packet stores
  unfold receiveUntagged
  dsimp only
  cases found : (config.promoteLookup state.cache packet).1 with
  | some cachedVal =>
      obtain ⟨tags, shape, evicted, single⟩ :=
        EvictionTagged.replaced offers.evicted
          (packet.inner.destination, cachedVal)
          (promotedVouched found)
      simp only [DataPacket.mk.injEq, true_and] at shape
      obtain ⟨rfl, -⟩ := shape
      exact
        { stores := promotedStores
          evicted := evicted
          learning := by simp
          same := ⟨rfl, rfl, rfl, rfl, rfl, rfl, rfl⟩
          destination := .kept
          hitTag := .kept rfl fun _ _ => rfl
          evictionTag := single }
  | none =>
      obtain ⟨learnedStores, tagged, learning⟩ :=
        learnFromPacket_spec draw readsTags uninvalidated
          promotedStores offers
      dsimp only
      split
      next returned =>
        obtain ⟨tags, shape, evicted, single⟩ := tagged
        rw [shape]
        exact
          { stores := learnedStores
            evicted := evicted
            learning := learning
            same := ⟨rfl, rfl, rfl, rfl, rfl, rfl, rfl⟩
            destination := .kept
            hitTag := .kept rfl fun _ _ => rfl
            evictionTag := single }
      next continued =>
        exact
          redirectFromCache_spec readsTags uninvalidated learnedStores
            tagged learning

/-- The last lookup changes no entry. -/
@[simp] theorem slot_redirectFromCache
    (config : SwitchConfig)
    (cache : P4Cache Ipv4Address Ipv4Address)
    (packet : DataPacket)
    (key : Ipv4Address) :
    (config.redirectFromCache cache packet).1.slot key =
      cache.slot key := by
  unfold redirectFromCache
  split
  next =>
    dsimp only
    split <;> exact P4Cache.slot_get _ _ _
  next => rfl

/-- The last lookup leaves the eviction tag alone. -/
@[simp] theorem evictionTag_redirectFromCache
    (config : SwitchConfig)
    (cache : P4Cache Ipv4Address Ipv4Address)
    (packet : DataPacket) :
    (config.redirectFromCache cache packet).2.evictionTag =
      packet.evictionTag := by
  unfold redirectFromCache
  split
  next =>
    dsimp only
    split <;> rfl
  next => rfl

/-! ## Every packet -/

theorem receivePacket_of_untagged
    (draw : Bool)
    (state : SwitchState)
    {packet : DataPacket}
    (mode : config.simMode = .switchV2P)
    (untagged : packet.invalidationTag.peek = none) :
    config.receivePacket draw state packet =
      config.receiveUntagged draw state packet := by
  rw [receivePacket, if_neg (by simp [mode]), untagged]

theorem receivePacket_of_tagged
    (draw : Bool)
    (state : SwitchState)
    {packet : DataPacket}
    {invalidated : Mapping}
    (mode : config.simMode = .switchV2P)
    (tagged : packet.invalidationTag.peek = some invalidated) :
    config.receivePacket draw state packet =
      config.receiveInvalidationTagged state packet invalidated := by
  rw [receivePacket, if_neg (by simp [mode]), tagged]

/-- The one fact about `receivePacket` that network invariants rely on. -/
theorem handled_receivePacket
    (draw : Bool)
    {state : SwitchState}
    {packet : DataPacket}
    (stores : state.cache.Stores holds)
    (offers : config.Offers holds packet) :
    config.Handled holds packet
      (config.receivePacket draw state packet) := by
  unfold receivePacket
  split
  next mode =>
    exact handled_localP4CacheLogic mode stores offers
  next mode =>
    have readsTags : config.readsTags = true := by
      simp [SwitchConfig.readsTags, mode]
    cases tagged : packet.invalidationTag.peek with
    | some invalidated =>
        exact
          handled_receiveInvalidationTagged readsTags tagged stores offers
    | none =>
        exact handled_receiveUntagged draw readsTags tagged stores offers

/-- Whatever it holds, a switch changes only a destination and two tags. -/
theorem samePacket_receivePacket
    (config : SwitchConfig)
    (draw : Bool)
    (state : SwitchState)
    (packet : DataPacket) :
    SamePacket packet (config.receivePacket draw state packet).packet := by
  have stores : state.cache.Stores fun _ _ => True :=
    fun _ => Or.inr trivial
  have offers : config.Offers (fun _ _ => True) packet :=
    ⟨fun _ _ => trivial, fun _ => trivial, fun _ => trivial⟩
  exact (handled_receivePacket draw stores offers).same

/-- An invalidation only removes. -/
theorem invalidate_stores
    {cache : P4Cache Ipv4Address Ipv4Address}
    {invalidated : Mapping}
    (stores : cache.Stores holds) :
    (invalidate cache invalidated).Stores holds := by
  unfold invalidate
  dsimp only
  split
  · exact (stores.get _).remove _
  · exact stores.get _

/-- A protocol packet is learned from or sent on unchanged. -/
theorem handleProtocolPacket_spec
    (config : SwitchConfig)
    {state : SwitchState}
    {packet : ProtocolPacket}
    (stores : state.cache.Stores holds)
    (learning :
      ∀ mapping ∈ packet.evictionTag.tags, holds mapping.1 mapping.2) :
    (config.handleProtocolPacket state packet).1.cache.Stores holds ∧
      ∀ sent ∈ (config.handleProtocolPacket state packet).2,
        sent = packet := by
  unfold handleProtocolPacket
  dsimp only
  split
  next =>
    cases found : packet.evictionTag.peek with
    | none =>
        refine ⟨?_, by simp⟩
        dsimp only
        split
        next => exact invalidate_stores stores
        next => exact stores
    | some learn =>
        have learned :=
          learning learn (TagStack.mem_of_peek found)
        refine ⟨P4Cache.Stores.put ?_ learned, by simp⟩
        split
        next => exact invalidate_stores stores
        next => exact stores
  next =>
    refine ⟨?_, by simp⟩
    split
    next => exact invalidate_stores stores
    next => exact stores

end SwitchConfig

end SwitchV2P
