import SwitchV2P.LearningPackets
import SwitchV2P.SwitchApplications

namespace SwitchV2P

/-!
# What a switch adds to the traffic

For each data packet a switch generates at most one packet of its own, and the
address it sends it to is that of a switch: one that a hit tag names, or the
leaf above the sender.
-/

open DottedQuad LearningPackets

/-- `GeneratePacketToLeaf` computes the address of the leaf above a host. -/
theorem SimulationBase.getLeafAddress_hostAddress
    (sim : SimulationBase)
    (leaf host : Nat) :
    let source := sim.hostAddress leaf host
    IpUtils.getLeafAddress (UInt32.ofNat sim.podCount).toNat
        ((source >>> 24) - 1).toNat 0 ((source >>> 16) &&& 0xff).toNat =
      sim.nodeAddress (.leaf leaf) := by
  intro source
  have value :
      source.toNat =
        (((leaf / sim.podWidth + 1) % 256 * 256 +
          leaf % sim.podWidth % 256) * 256 + host % 256) * 256 + 1 := by
    change (IpUtils.getNodePhysicalAddress _ _ _).toNat = _
    rw [IpUtils.getNodePhysicalAddress_octets, toNat_ofOctets]
  have pod : (source >>> 24).toNat = (leaf / sim.podWidth + 1) % 256 := by
    rw [UInt32.toNat_shiftRight, value, Nat.shiftRight_eq_div_pow]
    change _ / 2 ^ 24 = _
    omega
  have offset :
      ((source >>> 16) &&& 0xff).toNat = leaf % sim.podWidth % 256 := by
    rw [UInt32.toNat_and, UInt32.toNat_shiftRight, value,
      Nat.shiftRight_eq_div_pow]
    change _ / 2 ^ 16 &&& 2 ^ 8 - 1 = _
    rw [Nat.and_two_pow_sub_one_eq_mod]
    omega
  rw [nodeAddress, IpUtils.getLeafAddress_octets,
    IpUtils.getLeafAddress_octets, ofOctets_eq_iff, offset,
    UInt32.toNat_sub, pod, UInt32.toNat_ofNat']
  refine ⟨?_, rfl, Nat.mod_mod _ _, rfl⟩
  -- 2 ^ 32 is a multiple of 256, so the octets do not notice the wrap.
  change (_ + (2 ^ 32 - 1 + _) % 2 ^ 32 + 1) % 256 = _
  omega

namespace SwitchConfig

variable {config : SwitchConfig}

/-- Where a switch sends what it generates. -/
inductive Addressee
    (config : SwitchConfig)
    (packet : DataPacket) :
    Ipv4Address → Prop where
  | hitSwitch
      {hitTag : HitTag}
      (atLeaf : config.switchType = .leaf)
      (tagged : hitTag ∈ packet.hitTag.tags) :
      Addressee config packet hitTag.address
  | senderLeaf
      (atGwLeaf : config.switchType = .gwLeaf) :
      Addressee config packet (leafAbove config packet)

/-- At most one packet, to one of the addressees but the switch itself. -/
def Generates
    (config : SwitchConfig)
    (packet : DataPacket)
    (generated : List ProtocolPacket) :
    Prop :=
  generated.length ≤ 1 ∧
    ∀ protocol ∈ generated,
      config.simMode ≠ .localLearning ∧
        protocol.destination ≠ config.switchAddress ∧
          config.Addressee packet protocol.destination

/-- Hit tags are old, or name this switch. -/
def NamesHits
    (config : SwitchConfig)
    (packet after : DataPacket) :
    Prop :=
  ∀ hitTag ∈ after.hitTag.tags,
    hitTag ∈ packet.hitTag.tags ∨ hitTag.address = config.switchAddress

theorem generates_nil (packet : DataPacket) :
    config.Generates packet [] :=
  ⟨Nat.zero_le 1, fun _ member => absurd member List.not_mem_nil⟩

theorem generates_generatePacketToAddress
    {packet : DataPacket}
    (readsTags : config.simMode ≠ .localLearning)
    {address : Ipv4Address}
    (addressee : config.Addressee packet address)
    (data : Mapping)
    (learning : Bool) :
    config.Generates packet
      (config.generatePacketToAddress data address learning) := by
  unfold generatePacketToAddress
  dsimp only
  split
  next elsewhere =>
    refine ⟨Nat.le_refl 1, fun protocol member => ⟨readsTags, ?_⟩⟩
    rw [List.mem_singleton.mp member]
    cases learning <;> exact ⟨elsewhere, addressee⟩
  next here => exact generates_nil packet

/-- The packets of a gateway leaf go to the leaf above the sender. -/
theorem generates_generateLearning
    {packet untagged : DataPacket}
    (readsTags : config.simMode ≠ .localLearning)
    (sameSource : untagged.sourceTag = packet.sourceTag)
    (draw : Bool)
    (learn : Mapping) :
    config.Generates packet
      (config.generateLearning draw untagged learn) := by
  unfold generateLearning
  split
  next atGwLeaf =>
    have addressee :
        config.Addressee packet (leafAbove config packet) :=
      Addressee.senderLeaf atGwLeaf.1
    unfold leafAbove at addressee
    rw [← sameSource] at addressee
    exact generates_generatePacketToAddress readsTags addressee learn true
  next => exact generates_nil packet

theorem generates_learnFromPacket
    (readsTags : config.simMode ≠ .localLearning)
    (draw : Bool)
    (cache : P4Cache Ipv4Address Ipv4Address)
    (packet : DataPacket) :
    config.Generates packet
      (config.learnFromPacket draw cache packet).2.2.1 := by
  unfold learnFromPacket
  split
  next => exact generates_nil packet
  next =>
    unfold learnElsewhere
    dsimp only
    split
    next => exact generates_nil packet
    next =>
      split
      next =>
        split
        next => exact generates_nil packet
        next =>
          split
          next => exact generates_nil packet
          next => exact generates_generateLearning readsTags rfl draw _
      next => exact generates_nil packet

/-- Learning leaves the hit tags alone. -/
theorem hitTag_learnFromPacket
    (draw : Bool)
    (cache : P4Cache Ipv4Address Ipv4Address)
    {packet : DataPacket}
    (uninvalidated : packet.invalidationTag.peek = none) :
    (config.learnFromPacket draw cache packet).2.1.hitTag =
      packet.hitTag := by
  unfold learnFromPacket
  split
  next => rfl
  next =>
    obtain ⟨tags, shape⟩ :=
      learnElsewhere_packet config draw cache uninvalidated
    rw [shape]

theorem namesHits_of_eq
    {packet after : DataPacket}
    (same : after.hitTag = packet.hitTag) :
    config.NamesHits packet after := by
  intro hitTag member
  rw [same] at member
  exact Or.inl member

/-- A hit adds a tag with the address of the switch. -/
theorem namesHits_redirectFromCache
    (cache : P4Cache Ipv4Address Ipv4Address)
    {packet untagged : DataPacket}
    (same : untagged.hitTag = packet.hitTag) :
    config.NamesHits packet
      (config.redirectFromCache cache untagged).2 := by
  unfold redirectFromCache
  split
  next =>
    dsimp only
    split
    next cachedAddr hit =>
      intro hitTag member
      rcases TagStack.mem_add.mp member with isNew | old
      · rw [isNew]
        exact Or.inr rfl
      · rw [same] at old
        exact Or.inl old
    next => exact namesHits_of_eq same
  next => exact namesHits_of_eq same

/-- Only the packet that reports an invalidation loses its hit tag. -/
theorem contributes_reportInvalidation
    (readsTags : config.simMode ≠ .localLearning)
    (atLeaf : config.switchType = .leaf)
    (state : SwitchState)
    {packet followed : DataPacket}
    (same : followed.hitTag = packet.hitTag)
    (invalidated : Mapping) :
    let received := config.reportInvalidation state followed invalidated
    config.NamesHits packet received.packet ∧
      config.Generates packet received.generated := by
  unfold reportInvalidation
  split
  next hitTag found =>
    have tagged : hitTag ∈ packet.hitTag.tags := by
      rw [← same]
      exact TagStack.mem_of_peek found
    refine ⟨fun other member => Or.inl ?_, ?_⟩
    · rw [← same]
      exact TagStack.mem_of_mem_remove member
    · dsimp only
      split
      next =>
        exact
          generates_generatePacketToAddress readsTags
            (.hitSwitch atLeaf tagged) _ false
      next => exact generates_nil packet
  next => exact ⟨namesHits_of_eq same, generates_nil packet⟩

theorem hitTag_followInvalidation
    (cache : P4Cache Ipv4Address Ipv4Address)
    (packet : DataPacket)
    (invalidated : Mapping) :
    (followInvalidation cache packet invalidated).2.hitTag =
      packet.hitTag := by
  unfold followInvalidation
  dsimp only
  split
  · split <;> rfl
  · rfl

/-- What one data packet makes a switch add to the traffic. -/
theorem contributes_receivePacket
    (config : SwitchConfig)
    (draw : Bool)
    (state : SwitchState)
    (packet : DataPacket) :
    let received := config.receivePacket draw state packet
    config.NamesHits packet received.packet ∧
      config.Generates packet received.generated := by
  unfold receivePacket
  split
  next =>
    unfold localP4CacheLogic
    dsimp only
    split
    · refine ⟨namesHits_of_eq ?_, generates_nil packet⟩
      dsimp only
      split <;> rfl
    · exact ⟨namesHits_of_eq rfl, generates_nil packet⟩
  next readsTags =>
    split
    next invalidated tagged =>
      have same := hitTag_followInvalidation state.cache packet invalidated
      unfold receiveInvalidationTagged
      dsimp only
      split
      next atLeaf =>
        exact
          contributes_reportInvalidation readsTags atLeaf _ same
            invalidated
      next => exact ⟨namesHits_of_eq same, generates_nil packet⟩
    next uninvalidated =>
      unfold receiveUntagged
      dsimp only
      split
      next => exact ⟨namesHits_of_eq rfl, generates_nil packet⟩
      next =>
        have same :=
          config.hitTag_learnFromPacket draw
            (config.promoteLookup state.cache packet).2 uninvalidated
        split
        next =>
          exact
            ⟨namesHits_of_eq same,
              generates_learnFromPacket readsTags draw _ packet⟩
        next =>
          exact
            ⟨namesHits_redirectFromCache _ same,
              generates_learnFromPacket readsTags draw _ packet⟩

/-- A protocol packet is consumed where it is addressed to. -/
theorem handleProtocolPacket_sent
    (config : SwitchConfig)
    (state : SwitchState)
    (packet : ProtocolPacket) :
    (config.handleProtocolPacket state packet).2 =
      if packet.destination = config.switchAddress then
        []
      else
        [packet] := by
  unfold handleProtocolPacket
  dsimp only
  split
  next => split <;> rfl
  next => rfl

end SwitchConfig

end SwitchV2P
