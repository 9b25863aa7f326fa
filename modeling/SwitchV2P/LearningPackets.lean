import SwitchV2P.SwitchRuns
import SwitchV2P.TraceSimulation

namespace SwitchV2P.LearningPackets

/-!
# What a gateway leaf teaches

A gateway leaf sends some of what it learns to the leaf above the sender.  It
learns from the eviction tag if there is one, and the tag need not be about the
container that the sender is talking to.
-/

/-- The mapping that a packet teaches a gateway leaf. -/
def taught (packet : DataPacket) : Mapping :=
  packet.evictionTag.peek.getD
    (packet.inner.destination, packet.outer.destination)

/-- The leaf above the host that the packet says it comes from. -/
def leafAbove
    (config : SwitchConfig)
    (packet : DataPacket) :
    Ipv4Address :=
  let source := packet.sourceTag.getD 0x66666666
  IpUtils.getLeafAddress config.podCount.toNat
    ((source >>> 24) - 1).toNat 0 ((source >>> 16) &&& 0xff).toNat

/-- The packet teaches the gateway leaf anything. -/
def Teaches (config : SwitchConfig) (packet : DataPacket) : Prop :=
  packet.invalidationTag.peek = none ∧
    match packet.evictionTag.peek with
    | some learn => ¬ (learn.1 = 0 ∧ learn.2 = 0)
    | none => config.isGateway packet.outer.destination = false

/-- A learning packet is sent to another switch. -/
def LearningDue
    (config : SwitchConfig)
    (draw : Bool)
    (packet : DataPacket) : Prop :=
  draw = true ∧ Teaches config packet ∧
    leafAbove config packet ≠ config.switchAddress

/-- A switch has learned the destination, and a generated packet says so. -/
def TeachesDestination
    (packet : DataPacket)
    (received : Received)
    (generated : ProtocolPacket) : Prop :=
  ∃ value,
    generated.evictionTag.tags = [(packet.inner.destination, value)] ∧
      received.state.cache.slot packet.inner.destination =
        (packet.inner.destination, value)

variable
  {config : SwitchConfig}
  {draw : Bool}
  {state : SwitchState}
  {packet : DataPacket}

/-- The learning packets of a gateway leaf. -/
theorem generateLearning_gwLeaf
    (atGwLeaf : config.switchType = .gwLeaf)
    (packet : DataPacket)
    (learn : Mapping) :
    config.generateLearning draw packet learn =
      if draw = true ∧ leafAbove config packet ≠ config.switchAddress then
        [{ destination := leafAbove config packet
           evictionTag := TagStack.empty.add learn
           invalidationTag := TagStack.empty }]
      else
        [] := by
  unfold SwitchConfig.generateLearning SwitchConfig.generatePacketToLeaf
    SwitchConfig.generatePacketToAddress
  cases draw with
  | false => simp
  | true =>
      simp only [atGwLeaf, true_and, ite_true]
      rfl

/-- A gateway leaf stores what it is taught, and may pass it on. -/
theorem learnElsewhere_gwLeaf
    (draw : Bool)
    (atGwLeaf : config.switchType = .gwLeaf)
    (cache : P4Cache Ipv4Address Ipv4Address)
    (teaches : Teaches config packet) :
    (config.learnElsewhere draw cache packet).1 =
        (cache.put (taught packet).1 (taught packet).2).2 ∧
      (config.learnElsewhere draw cache packet).2.2.1 =
        (if draw = true ∧
            leafAbove config packet ≠ config.switchAddress then
          [{ destination := leafAbove config packet
             evictionTag := TagStack.empty.add (taught packet)
             invalidationTag := TagStack.empty }]
        else
          []) ∧
      (config.learnElsewhere draw cache packet).2.2.2 = false := by
  have present :
      ¬ (packet.evictionTag.peek.isSome ∧ (taught packet).1 = 0 ∧
        (taught packet).2 = 0) := by
    rintro ⟨tagged, zero⟩
    obtain ⟨learn, found⟩ := Option.isSome_iff_exists.mp tagged
    have nonzero := teaches.2
    rw [found] at nonzero
    rw [taught, found] at zero
    exact nonzero zero
  have learns :
      packet.evictionTag.peek.isSome ∨
        ¬ config.isGateway packet.outer.destination := by
    cases found : packet.evictionTag.peek with
    | some learn => exact Or.inl rfl
    | none =>
        have resolved := teaches.2
        rw [found] at resolved
        exact Or.inr (by simp [resolved])
  unfold SwitchConfig.learnElsewhere
  dsimp only
  rw [← taught, if_neg present, if_pos learns, if_neg (by simp [atGwLeaf]),
    if_neg (by simp [atGwLeaf]), generateLearning_gwLeaf atGwLeaf]
  exact ⟨SwitchConfig.putAndTag_cache _ _ _, rfl, rfl⟩

/-- Any other packet makes a gateway leaf generate nothing. -/
theorem generated_learnElsewhere_of_not_teaches
    (uninvalidated : packet.invalidationTag.peek = none)
    (cache : P4Cache Ipv4Address Ipv4Address)
    (silent : ¬ Teaches config packet) :
    (config.learnElsewhere draw cache packet).2.2.1 = [] := by
  unfold SwitchConfig.learnElsewhere
  dsimp only
  split
  next => rfl
  next present =>
    split
    next learns =>
      exfalso
      apply silent
      refine ⟨uninvalidated, ?_⟩
      cases found : packet.evictionTag.peek with
      | some learn => simpa [found] using present
      | none => simpa [found] using learns
    next => rfl

/-- What a gateway leaf does with a packet without an invalidation tag. -/
theorem receivePacket_gwLeaf
    (draw : Bool)
    (state : SwitchState)
    (mode : config.simMode = .switchV2P)
    (atGwLeaf : config.switchType = .gwLeaf)
    (uninvalidated : packet.invalidationTag.peek = none) :
    (config.receivePacket draw state packet).generated =
        (config.learnElsewhere draw state.cache packet).2.2.1 ∧
      ∀ key,
        (config.receivePacket draw state packet).state.cache.slot key =
          (config.learnElsewhere draw state.cache packet).1.slot key := by
  have notSpine : config.switchType ≠ .spine := by simp [atGwLeaf]
  have notLeaf : config.switchType ≠ .leaf := by simp [atGwLeaf]
  rw [SwitchConfig.receivePacket_of_untagged draw state mode uninvalidated,
    SwitchConfig.receiveUntagged,
    SwitchConfig.promoteLookup_of_ne_spine _ _ notSpine]
  dsimp only
  rw [SwitchConfig.learnFromPacket_of_ne_leaf _ _ _ notLeaf]
  split
  next => exact ⟨rfl, fun _ => rfl⟩
  next =>
    exact ⟨rfl, fun key => SwitchConfig.slot_redirectFromCache _ _ _ _⟩

/-- Every learning packet of a gateway leaf passes on what it was taught. -/
theorem generated_gwLeaf
    (mode : config.simMode = .switchV2P)
    (atGwLeaf : config.switchType = .gwLeaf)
    {generated : ProtocolPacket}
    (member :
      generated ∈ (config.receivePacket draw state packet).generated) :
    LearningDue config draw packet ∧
      generated.destination = leafAbove config packet ∧
      generated.evictionTag.tags = [taught packet] := by
  cases tagged : packet.invalidationTag.peek with
  | some invalidated =>
      rw [SwitchConfig.receivePacket_of_tagged draw state mode tagged,
        SwitchConfig.receiveInvalidationTagged,
        if_neg (by simp [atGwLeaf])] at member
      exact absurd member (List.not_mem_nil)
  | none =>
      rw [(receivePacket_gwLeaf draw state mode atGwLeaf tagged).1] at member
      by_cases teaches : Teaches config packet
      · rw [(learnElsewhere_gwLeaf draw atGwLeaf state.cache
          teaches).2.1] at member
        split at member
        next due =>
          rw [List.mem_singleton] at member
          subst member
          exact ⟨⟨due.1, teaches, due.2⟩, rfl, rfl⟩
        next => exact absurd member (List.not_mem_nil)
      · rw [generated_learnElsewhere_of_not_teaches tagged state.cache
          teaches] at member
        exact absurd member (List.not_mem_nil)

/-- A due learning packet is generated, and what it says has been stored. -/
theorem LearningDue.generates
    (due : LearningDue config draw packet)
    (state : SwitchState)
    (mode : config.simMode = .switchV2P)
    (atGwLeaf : config.switchType = .gwLeaf) :
    (∃ generated ∈ (config.receivePacket draw state packet).generated,
      generated.evictionTag.tags = [taught packet]) ∧
      (config.receivePacket draw state packet).state.cache.slot
          (taught packet).1 =
        taught packet := by
  obtain ⟨drawn, teaches, elsewhere⟩ := due
  obtain ⟨generatedEq, slotEq⟩ :=
    receivePacket_gwLeaf draw state mode atGwLeaf teaches.1
  obtain ⟨cacheEq, packetsEq, _⟩ :=
    learnElsewhere_gwLeaf draw atGwLeaf state.cache teaches
  have ownSlot :
      state.cache.Collide (taught packet).1 (taught packet).1 :=
    rfl
  rw [generatedEq, packetsEq, slotEq, cacheEq, if_pos ⟨drawn, elsewhere⟩,
    P4Cache.slot_put, if_pos ownSlot]
  exact ⟨⟨_, List.mem_singleton_self _, rfl⟩, rfl⟩

/--
The learning packets of a gateway leaf are about the destination of the packet
that triggers them exactly if none is due, or the packet has no eviction tag,
or one for its own destination.
-/
theorem teachesDestination_iff
    (mode : config.simMode = .switchV2P)
    (atGwLeaf : config.switchType = .gwLeaf) :
    (∀ generated ∈ (config.receivePacket draw state packet).generated,
        TeachesDestination packet
          (config.receivePacket draw state packet) generated) ↔
      (LearningDue config draw packet →
        ∀ learn, packet.evictionTag.peek = some learn →
          learn.1 = packet.inner.destination) := by
  constructor
  · intro teaches due learn tagged
    obtain ⟨⟨generated, member, tags⟩, _⟩ :=
      due.generates state mode atGwLeaf
    obtain ⟨value, ownTags, _⟩ := teaches generated member
    rw [tags, taught, tagged] at ownTags
    exact congrArg Prod.fst (List.singleton_inj.mp ownTags)
  · intro own generated member
    obtain ⟨due, _, tags⟩ := generated_gwLeaf mode atGwLeaf member
    have sameKey : (taught packet).1 = packet.inner.destination := by
      cases tagged : packet.evictionTag.peek with
      | none => rw [taught, tagged]; rfl
      | some learn =>
          rw [taught, tagged]
          exact own due learn tagged
    have stored := (due.generates state mode atGwLeaf).2
    rw [sameKey] at stored
    refine ⟨(taught packet).2, ?_, ?_⟩
    · rw [tags, ← sameKey]
    · rw [stored, ← sameKey]

/-! ## A tag from the spine above -/

open TraceSimulation

/-- The gateway leaf of the pod. -/
abbrev gatewayLeaf : SwitchConfig :=
  (onePod.network .switchV2P).switches
    (onePod.leaf .switchV2P ⟨0, Nat.succ_pos 3⟩)

/-- The tables of a switch with one slot after start-up. -/
abbrev oneSlot : SwitchState :=
  SwitchConfig.setup 1 Nat.one_pos (fun _ => 0) 80 fun _ => 0

/-- The second host below the gateway leaf. -/
abbrev neighbour : Ipv4Address :=
  DottedQuad.ofOctets 1 0 1 1

/-- The spine above the gateway leaf after a packet to container 3. -/
def occupiedSpine : SwitchState :=
  ((onePod.spineConfig .switchV2P).receivePacket false oneSlot
    (onePod.packetTo .switchV2P 3 onePod.newHost)).state

/-- A packet to container 2, next to the gateway, as the spine passes it on. -/
def passedOn : DataPacket :=
  ((onePod.spineConfig .switchV2P).receivePacket false occupiedSpine
    (onePod.packetTo .switchV2P 2 neighbour)).packet

theorem teachesDestination_passedOn :
    (∀ generated ∈ (gatewayLeaf.receivePacket true oneSlot
          passedOn).generated,
        TeachesDestination passedOn
          (gatewayLeaf.receivePacket true oneSlot passedOn) generated) ↔
      (LearningDue gatewayLeaf true passedOn →
        ∀ learn, passedOn.evictionTag.peek = some learn →
          learn.1 = passedOn.inner.destination) :=
  teachesDestination_iff rfl (by decide)

/-- The learning packet that the gateway leaf generates. -/
def aboutAnother : ProtocolPacket where
  destination := leafAbove gatewayLeaf passedOn
  evictionTag := TagStack.empty.add (3, onePod.newHost)
  invalidationTag := TagStack.empty

/-- The leaf above container 1 is told about container 3. -/
theorem not_teachesDestination_passedOn :
    passedOn.inner.destination = 2 ∧
      (gatewayLeaf.receivePacket true oneSlot passedOn).generated =
        [aboutAnother] ∧
      ¬ ∀ generated ∈ (gatewayLeaf.receivePacket true oneSlot
          passedOn).generated,
        TeachesDestination passedOn
          (gatewayLeaf.receivePacket true oneSlot passedOn) generated := by
  have destination : passedOn.inner.destination = 2 := by
    decide +kernel
  have generated :
      (gatewayLeaf.receivePacket true oneSlot passedOn).generated =
        [aboutAnother] := by
    decide +kernel
  refine ⟨destination, generated, fun teaches => ?_⟩
  rw [generated] at teaches
  obtain ⟨value, tags, _⟩ := teaches aboutAnother (List.mem_singleton_self _)
  rw [destination] at tags
  have sameKey : (3 : Ipv4Address) = 2 :=
    congrArg Prod.fst (List.singleton_inj.mp tags)
  exact absurd sameKey (by decide)

end SwitchV2P.LearningPackets
