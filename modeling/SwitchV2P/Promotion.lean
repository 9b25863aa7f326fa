import SwitchV2P.P4CacheSpec
import SwitchV2P.PrototypeEviction
import SwitchV2P.PrototypeRedirect
import SwitchV2P.TraceSimulation

namespace SwitchV2P.Promotion

/-!
# Promotion from a spine to a core

A spine that finds the destination of a gateway-bound packet leaves it to the
core: it tags the packet with the entry and sends it on.  The simulator's core
learns from the tag before it looks at the destination, but overwrites an entry
of container 0 silently.  The prototype's core looks up every gateway-bound
packet and never reaches the branch that learns.
-/

/-! ## The simulator -/

/-- A spine that caches the destination, below a core that has a slot for it. -/
structure SimulatedPair
    (spine core : SwitchConfig)
    (spineState coreState : SwitchState)
    (packet : DataPacket)
    (value : Ipv4Address) : Prop where
  spineMode : spine.simMode = .switchV2P
  spineType : spine.switchType = .spine
  spineGateway : spine.isGateway packet.outer.destination = true
  coreMode : core.simMode = .switchV2P
  coreType : core.switchType = .core
  cached : spineState.cache.Live packet.inner.destination value
  inactive : coreState.cache.getBit packet.inner.destination = false
  absent : coreState.cache.find packet.inner.destination = false

/-- What the core leaves of a packet that the spine has passed on. -/
def passBoth
    (spine core : SwitchConfig)
    (spineState coreState : SwitchState)
    (draws : Bool × Bool)
    (packet : DataPacket) :
    Received :=
  core.receivePacket draws.2 coreState
    (spine.receivePacket draws.1 spineState packet).packet

/-- The entry is in the cache, and what it displaced is on the packet. -/
structure Promoted
    (before after : P4Cache Ipv4Address Ipv4Address)
    (packet : DataPacket)
    (key value : Ipv4Address) : Prop where
  learned : after.Live key value
  displaced :
    ∀ other occupant,
      before.Occupies key other occupant → other ≠ key →
        packet.evictionTag.peek = some (other, occupant)

/--
The packet has no invalidation tag, and the slot of its destination has no entry
of container 0, unless a second eviction tag of the packet already names it.
-/
structure Promotable
    (cache : P4Cache Ipv4Address Ipv4Address)
    (packet : DataPacket) : Prop where
  uninvalidated : packet.invalidationTag.peek = none
  nonzero :
    ∀ occupant,
      cache.Occupies packet.inner.destination 0 occupant →
        packet.evictionTag.remove.peek = some (0, occupant)

section Simulator

variable
  {spine core : SwitchConfig}
  {spineState coreState : SwitchState}
  {draws : Bool × Bool}
  {draw : Bool}
  {packet : DataPacket}
  {value : Ipv4Address}

/-- The spine tags the packet with its entry. -/
theorem SimulatedPair.spine_packet
    (pair :
      SimulatedPair spine core spineState coreState packet value)
    (uninvalidated : packet.invalidationTag.peek = none) :
    (spine.receivePacket draw spineState packet).packet =
      { packet with
        evictionTag :=
          packet.evictionTag.remove.add
            (packet.inner.destination, value) } := by
  have found := P4Cache.live_iff_get.mp pair.cached
  have promotes :
      spine.promoteLookup spineState.cache packet =
        spineState.cache.get packet.inner.destination := by
    rw [SwitchConfig.promoteLookup,
      if_pos ⟨pair.spineType, pair.spineGateway⟩]
  rw [SwitchConfig.receivePacket_of_untagged draw spineState
    pair.spineMode uninvalidated]
  unfold SwitchConfig.receiveUntagged
  dsimp only
  rw [promotes, found]

/-- A core writes the entry of a tag for the destination into a free slot. -/
theorem learnElsewhere_core
    {cache : P4Cache Ipv4Address Ipv4Address}
    (atCore : core.switchType = .core)
    (tagged :
      packet.evictionTag.peek = some (packet.inner.destination, value))
    (nonzero : value ≠ 0)
    (inactive : cache.getBit packet.inner.destination = false)
    (absent : cache.find packet.inner.destination = false) :
    core.learnElsewhere draw cache packet =
      ((SwitchConfig.putAndTag cache
          { packet with evictionTag := packet.evictionTag.remove }
          (packet.inner.destination, value)).1,
        (SwitchConfig.putAndTag cache
          { packet with evictionTag := packet.evictionTag.remove }
          (packet.inner.destination, value)).2, [], false) := by
  unfold SwitchConfig.learnElsewhere SwitchConfig.learnAtCore
  simp [tagged, nonzero, atCore, inactive, absent]

/-- The core learns the spine's entry, and then looks up what is left. -/
theorem SimulatedPair.passBoth_eq
    (pair :
      SimulatedPair spine core spineState coreState packet value)
    (uninvalidated : packet.invalidationTag.peek = none) :
    let learned :=
      SwitchConfig.putAndTag coreState.cache
        { packet with
          evictionTag :=
            (packet.evictionTag.remove.add
              (packet.inner.destination, value)).remove }
        (packet.inner.destination, value)
    let redirected := core.redirectFromCache learned.1 learned.2
    passBoth spine core spineState coreState draws packet =
      { state := { coreState with cache := redirected.1 }
        packet := redirected.2
        generated := [] } := by
  let tagged : DataPacket :=
    { packet with
      evictionTag :=
        packet.evictionTag.remove.add (packet.inner.destination, value) }
  have sameTag : tagged.invalidationTag.peek = none := uninvalidated
  have notSpine : core.switchType ≠ .spine := by simp [pair.coreType]
  have notLeaf : core.switchType ≠ .leaf := by simp [pair.coreType]
  have learned :
      core.learnFromPacket draws.2 coreState.cache tagged =
        ((SwitchConfig.putAndTag coreState.cache
            { tagged with evictionTag := tagged.evictionTag.remove }
            (packet.inner.destination, value)).1,
          (SwitchConfig.putAndTag coreState.cache
            { tagged with evictionTag := tagged.evictionTag.remove }
            (packet.inner.destination, value)).2, [], false) := by
    rw [SwitchConfig.learnFromPacket_of_ne_leaf _ _ _ notLeaf]
    exact
      learnElsewhere_core pair.coreType (TagStack.peek_add _ _)
        pair.cached.nonzero pair.inactive pair.absent
  unfold passBoth
  rw [pair.spine_packet uninvalidated,
    SwitchConfig.receivePacket_of_untagged draws.2 coreState
      pair.coreMode sameTag,
    SwitchConfig.receiveUntagged,
    SwitchConfig.promoteLookup_of_ne_spine _ _ notSpine]
  dsimp only
  rw [learned, if_neg Bool.false_ne_true]

/-- Another key that is not zero is tagged, and the key zero is not. -/
theorem SimulatedPair.evictionTag_passBoth
    (pair :
      SimulatedPair spine core spineState coreState packet value)
    (uninvalidated : packet.invalidationTag.peek = none)
    {other occupant : Ipv4Address}
    (occupies :
      coreState.cache.Occupies packet.inner.destination other occupant)
    (different : other ≠ packet.inner.destination) :
    (passBoth spine core spineState coreState draws
        packet).packet.evictionTag.peek =
      if other = 0 then
        packet.evictionTag.remove.peek
      else
        some (other, occupant) := by
  rw [pair.passBoth_eq uninvalidated]
  dsimp only
  rw [SwitchConfig.evictionTag_redirectFromCache]
  unfold SwitchConfig.putAndTag
  by_cases isZero : other = 0
  · have unreported :
        (coreState.cache.put packet.inner.destination value).1 = none := by
      cases reported :
          (coreState.cache.put packet.inner.destination value).1 with
      | none => rfl
      | some evicted =>
          obtain ⟨stored, nonzero, -⟩ :=
            P4Cache.put_evicted_eq_some_iff.mp reported
          rw [← stored, occupies.stored.1] at nonzero
          exact absurd isZero nonzero
    rw [if_pos isZero]
    simp only [unreported]
    rfl
  · have evicted :
        (coreState.cache.put packet.inner.destination value).1 =
          some (other, occupant) := by
      rw [P4Cache.put_evicted_eq_some_iff]
      exact ⟨occupies.stored.1, isZero, different⟩
    rw [if_neg isZero]
    simp only [evicted, TagStack.peek_add]

/-- The promotion succeeds unless an entry of container 0 is lost. -/
theorem SimulatedPair.promoted
    (pair :
      SimulatedPair spine core spineState coreState packet value)
    (promotable : Promotable coreState.cache packet) :
    Promoted coreState.cache
      (passBoth spine core spineState coreState draws packet).state.cache
      (passBoth spine core spineState coreState draws packet).packet
      packet.inner.destination value := by
  constructor
  · rw [pair.passBoth_eq promotable.uninvalidated]
    dsimp only
    refine ⟨?_, pair.cached.nonzero⟩
    rw [SwitchConfig.slot_redirectFromCache,
      SwitchConfig.putAndTag_cache]
    exact (P4Cache.live_put_self pair.cached.nonzero).stored
  · intro other occupant occupies different
    rw [pair.evictionTag_passBoth promotable.uninvalidated occupies
      different]
    by_cases isZero : other = 0
    · subst isZero
      rw [if_pos rfl]
      exact promotable.nonzero occupant occupies
    · rw [if_neg isZero]

/-- Following an invalidation adds no entry to a cache. -/
theorem live_of_followInvalidation
    {cache : P4Cache Ipv4Address Ipv4Address}
    {invalidated : Mapping}
    {key : Ipv4Address}
    (live :
      (SwitchConfig.followInvalidation cache packet
        invalidated).1.Live key value) :
    cache.Live key value := by
  unfold SwitchConfig.followInvalidation at live
  dsimp only at live
  split at live
  next =>
    split at live
    next =>
      exact (P4Cache.live_get _).mp (P4Cache.Live.of_remove live)
    next => exact (P4Cache.live_get _).mp live
  next => exact (P4Cache.live_get _).mp live

/-- A packet with an invalidation tag adds no entry to a cache. -/
theorem live_of_invalidationTag
    {config : SwitchConfig}
    {state : SwitchState}
    {invalidated : Mapping}
    {key : Ipv4Address}
    (mode : config.simMode = .switchV2P)
    (tagged : packet.invalidationTag.peek = some invalidated)
    (live :
      (config.receivePacket draw state packet).state.cache.Live
        key value) :
    state.cache.Live key value := by
  rw [SwitchConfig.receivePacket_of_tagged draw state mode tagged] at live
  unfold SwitchConfig.receiveInvalidationTagged at live
  dsimp only at live
  split at live
  next =>
    rw [(config.reportInvalidation_spec _ _ _).1] at live
    exact live_of_followInvalidation live
  next => exact live_of_followInvalidation live

/-- The core does not hold the destination, so whatever it holds differs. -/
theorem SimulatedPair.ne_destination_of_occupies
    (pair :
      SimulatedPair spine core spineState coreState packet value)
    {other occupant : Ipv4Address}
    (occupies :
      coreState.cache.Occupies packet.inner.destination other occupant) :
    other ≠ packet.inner.destination := by
  rintro rfl
  have live := P4Cache.live_iff_get.mpr occupies.found
  have found := P4Cache.find_eq_true_iff.mpr ⟨occupant, live⟩
  rw [pair.absent] at found
  exact Bool.false_ne_true found

/-- In the simulator, promotion works for exactly these packets. -/
theorem SimulatedPair.promoted_iff
    (pair :
      SimulatedPair spine core spineState coreState packet value) :
    Promoted coreState.cache
        (passBoth spine core spineState coreState draws packet).state.cache
        (passBoth spine core spineState coreState draws packet).packet
        packet.inner.destination value ↔
      Promotable coreState.cache packet := by
  refine ⟨fun promoted => ?_, pair.promoted⟩
  cases tagged : packet.invalidationTag.peek with
  | none =>
      refine ⟨tagged, fun occupant occupies => ?_⟩
      have different := pair.ne_destination_of_occupies occupies
      have carried := promoted.displaced 0 occupant occupies different
      rw [pair.evictionTag_passBoth tagged occupies different,
        if_pos rfl] at carried
      exact carried
  | some invalidated =>
      have sameTag :
          (spine.receivePacket draws.1 spineState
              packet).packet.invalidationTag =
            packet.invalidationTag :=
        (spine.samePacket_receivePacket draws.1 spineState
          packet).invalidationTag
      have live :=
        live_of_invalidationTag pair.coreMode
          (by rw [sameTag]; exact tagged) promoted.learned
      have found := P4Cache.find_eq_true_iff.mpr ⟨value, live⟩
      rw [pair.absent] at found
      exact absurd found Bool.false_ne_true

end Simulator

/-! ## The prototype -/

section Pipeline

open Prototype PrototypeEviction PrototypeRedirect

/-- The same pair of switches in the prototype. -/
structure PipelinePair
    (spine core : Program)
    (spineRegisters coreRegisters : Registers)
    (header : Header)
    (val : Ipv4Address) : Prop where
  spineType : spine.switchType = .spine
  spineGateway : spine.matchGw header.ipv4Outter.dstAddr = true
  coreType : core.switchType = .core
  coreGateway : core.matchGw header.ipv4Outter.dstAddr = true
  cached : Holds spine spineRegisters header.ipv4Inner.dstAddr val
  inactive :
    (coreRegisters.keys
      (core.dstIndexHash header.ipv4Inner.dstAddr)).accessBit = 0
  absent :
    (coreRegisters.keys
      (core.dstIndexHash header.ipv4Inner.dstAddr)).key ≠
        header.ipv4Inner.dstAddr

/-- The packet that the core receives, with the core's own draw and time. -/
def handOver
    (spine : Program)
    (spineRegisters : Registers)
    (packet : Ingress)
    (rand : BitVec 10)
    (globalTstamp : BitVec 48) :
    Ingress where
  header := (ingress spine spineRegisters packet).header
  rand := rand
  globalTstamp := globalTstamp

/-- The entry is in the registers, and what it displaced is on the packet. -/
structure PipelinePromoted
    (program : Program)
    (before after : Registers)
    (header : Header)
    (key val : Ipv4Address) : Prop where
  learned : Holds program after key val
  displaced :
    ∀ oldKey oldVal,
      HoldsOther before (program.dstIndexHash key) key oldKey oldVal →
        CarriesAway header oldKey oldVal

/-- The packet is itself a learning packet for the entry, in an empty slot. -/
structure TeachesDirectly
    (core : Program)
    (coreRegisters : Registers)
    (header : Header)
    (val : Ipv4Address) : Prop where
  type : header.switchv2p.type = learningType
  key : header.switchv2p.key = header.ipv4Inner.dstAddr
  val : header.switchv2p.val = val
  vacant :
    ∀ oldKey oldVal,
      ¬ HoldsOther coreRegisters
        (core.dstIndexHash header.ipv4Inner.dstAddr)
        header.ipv4Inner.dstAddr oldKey oldVal

variable
  {spine core program : Program}
  {spineRegisters coreRegisters registers : Registers}
  {packet : Ingress}
  {rand : BitVec 10}
  {globalTstamp : BitVec 48}
  {val : Ipv4Address}

/-- A spine sends a gateway-bound packet on to the same addresses. -/
theorem header_spine
    (registers : Registers)
    (atSpine : program.switchType = .spine)
    (bound : program.matchGw packet.header.ipv4Outter.dstAddr = true) :
    (ingress program registers packet).header = packet.header ∨
      branch program packet.header = .toGateway ∧
        ∃ found, (ingress program registers packet).header =
          addEvictionTag packet.header found := by
  by_cases toGateway : branch program packet.header = .toGateway
  · have delivered : ¬ Misdelivered program packet.header := by
      rintro ⟨atTor, _⟩
      rw [atSpine] at atTor
      exact absurd atTor (by decide)
    rw [ingress_toGateway toGateway delivered, if_pos atSpine]
    split
    next => exact Or.inr ⟨toGateway, _, rfl⟩
    next => exact Or.inl rfl
  · left
    rw [branch_of_bound bound] at toGateway
    rw [ingress_eq, branch_of_bound bound]
    by_cases learning : packet.header.switchv2p.type = learningType
    · rw [if_pos learning]
      rfl
    · rw [if_neg learning] at toGateway ⊢
      by_cases clears :
          packet.header.switchv2p.type = invalidationType ∨
            packet.header.switchv2p.type = invalidationTagType
      · rw [if_pos clears]
      · rw [if_neg clears] at toGateway
        exact absurd rfl toGateway

/-- The core takes a handed-over packet for what it was at the spine. -/
theorem PipelinePair.branch_handOver
    (pair :
      PipelinePair spine core spineRegisters coreRegisters
        packet.header val)
    (rand : BitVec 10)
    (globalTstamp : BitVec 48)
    (notLearning : packet.header.switchv2p.type ≠ learningType) :
    branch core
          (handOver spine spineRegisters packet rand
            globalTstamp).header =
        .toGateway ∨
      branch core
          (handOver spine spineRegisters packet rand
            globalTstamp).header =
        .clear := by
  change
    branch core (ingress spine spineRegisters packet).header = _ ∨
      branch core (ingress spine spineRegisters packet).header = _
  rcases header_spine spineRegisters pair.spineType
      pair.spineGateway with
    same | ⟨_, found, tagged⟩
  · rw [same]
    by_cases clears :
        packet.header.switchv2p.type = invalidationType ∨
          packet.header.switchv2p.type = invalidationTagType
    · right
      rw [branch_of_bound pair.coreGateway, if_neg notLearning,
        if_pos clears]
    · left
      rw [branch_of_bound pair.coreGateway, if_neg notLearning,
        if_neg clears]
  · left
    rw [tagged, branch_eq_toGateway_iff]
    exact ⟨(by decide : evictionTagType ≠ learningType),
      (by decide : evictionTagType ≠ invalidationType),
      (by decide : evictionTagType ≠ invalidationTagType),
      pair.coreGateway⟩

/-- These branches store no key. -/
theorem key_ingress_of_toGateway_or_clear
    (registers : Registers)
    (taken :
      branch program packet.header = .toGateway ∨
        branch program packet.header = .clear)
    (i : Index) :
    ((ingress program registers packet).registers.keys i).key =
        (registers.keys i).key ∨
      ((ingress program registers packet).registers.keys i).key = 1 := by
  rw [ingress_eq]
  rcases taken with toGateway | clears
  · rw [toGateway]
    exact Or.inl ((applyToGw_registers _ _).2 i)
  · rw [clears]
    dsimp only
    rw [Registers.key_clearKey]
    split
    next => exact Or.inr rfl
    next => exact Or.inl rfl

/-- A learning packet is written as it is. -/
theorem ingress_learning
    (program : Program)
    (registers : Registers)
    (learning : packet.header.switchv2p.type = learningType) :
    (ingress program registers packet).header = packet.header ∧
      (ingress program registers packet).registers =
        ((registers.setKey
            (program.dstIndexHash packet.header.switchv2p.key)
            packet.header.switchv2p.key).2.setVal
          (program.dstIndexHash packet.header.switchv2p.key)
          packet.header.switchv2p.val).2 := by
  have elsewhere : ¬ LearnsSource program packet.header := by
    rintro ⟨_, _, normal | evicted⟩
    · rw [learning] at normal
      exact absurd normal (by decide)
    · rw [learning] at evicted
      exact absurd evicted (by decide)
  have tagged :
      (parse packet.header).key = packet.header.switchv2p.key ∧
        (parse packet.header).val = packet.header.switchv2p.val := by
    simp [parse, learning]
  have slot :
      index program packet.header =
        program.dstIndexHash packet.header.switchv2p.key := by
    rw [index, if_neg elsewhere, tagged.1]
  obtain ⟨key, value⟩ := settled_of_not_learnsSource elsewhere
  rw [ingress_eq, branch, if_pos learning]
  dsimp only [applyWrite]
  rw [key, value, slot, tagged.1, tagged.2]
  exact ⟨rfl, rfl⟩

/-- In the prototype, only a packet that is itself a learning packet teaches. -/
theorem PipelinePair.promoted_iff
    (pair :
      PipelinePair spine core spineRegisters coreRegisters
        packet.header val) :
    let after :=
      ingress core coreRegisters
        (handOver spine spineRegisters packet rand globalTstamp)
    PipelinePromoted core coreRegisters after.registers after.header
        packet.header.ipv4Inner.dstAddr val ↔
      TeachesDirectly core coreRegisters packet.header val := by
  intro after
  by_cases learning : packet.header.switchv2p.type = learningType
  · have sameHeader :
        (handOver spine spineRegisters packet rand
          globalTstamp).header = packet.header :=
      (ingress_learning spine spineRegisters learning).1
    have learningAtCore :
        (handOver spine spineRegisters packet rand
          globalTstamp).header.switchv2p.type = learningType := by
      rw [sameHeader]
      exact learning
    obtain ⟨header, written⟩ :=
      ingress_learning core coreRegisters learningAtCore
    rw [sameHeader] at header written
    rw [header, written]
    constructor
    · intro promoted
      have held := promoted.learned.1
      rw [Registers.key_setKey_setVal] at held
      split at held
      next same =>
        refine ⟨learning, held, ?_, fun oldKey oldVal holds => ?_⟩
        · have value := promoted.learned.2.1
          rw [Registers.vals_setKey_setVal, same,
            Function.update_self] at value
          exact value
        · have carries := (promoted.displaced oldKey oldVal holds).type
          rw [learning] at carries
          exact absurd carries (by decide)
      next => exact absurd held pair.absent
    · intro teaches
      refine ⟨?_, fun oldKey oldVal holds => ?_⟩
      · rw [Holds, Registers.key_setKey_setVal,
          Registers.vals_setKey_setVal, teaches.key, teaches.val]
        exact ⟨if_pos rfl, Function.update_self _ _ _, pair.cached.2.2⟩
      · exact absurd holds (teaches.vacant oldKey oldVal)
  · have taken :=
      pair.branch_handOver rand globalTstamp learning
    constructor
    · intro promoted
      exfalso
      have held := promoted.learned.1
      rcases key_ingress_of_toGateway_or_clear coreRegisters taken
          (core.dstIndexHash packet.header.ipv4Inner.dstAddr) with
        kept | cleared
      · exact pair.absent (kept.symm.trans held)
      · exact pair.cached.2.2 (held.symm.trans cleared)
    · intro teaches
      exact absurd teaches.type learning

/--
Promotion from spine to core: the simulator does it for every packet without an
invalidation tag unless an entry of container 0 is in the way, the prototype
only for a learning packet that needs no help.
-/
theorem promotion_iff
    {spineConfig coreConfig : SwitchConfig}
    {spineState coreState : SwitchState}
    {data : DataPacket}
    {draws : Bool × Bool}
    {value : Ipv4Address}
    (simulated :
      SimulatedPair spineConfig coreConfig spineState coreState data value)
    (pipeline :
      PipelinePair spine core spineRegisters coreRegisters
        packet.header val) :
    (Promoted coreState.cache
        (passBoth spineConfig coreConfig spineState coreState draws
          data).state.cache
        (passBoth spineConfig coreConfig spineState coreState draws
          data).packet
        data.inner.destination value ↔
      Promotable coreState.cache data) ∧
      (PipelinePromoted core coreRegisters
          (ingress core coreRegisters
            (handOver spine spineRegisters packet rand
              globalTstamp)).registers
          (ingress core coreRegisters
            (handOver spine spineRegisters packet rand
              globalTstamp)).header
          packet.header.ipv4Inner.dstAddr val ↔
        TeachesDirectly core coreRegisters packet.header val) :=
  ⟨simulated.promoted_iff, pipeline.promoted_iff⟩

/-! ## A pair of switches -/

/-- A core with the attributes of the spine below it. -/
abbrev plainCoreConfig : SwitchConfig :=
  { TraceSimulation.onePod.plainSpineConfig .switchV2P with
    switchType := .core }

/-- The tables of a switch after start-up. -/
abbrev emptyState : SwitchState :=
  SwitchConfig.setup 10 (by decide) (fun key => key.toNat) 80 fun _ => 0

/-- The tables of a spine that knows container 2. -/
abbrev taughtState : SwitchState :=
  { emptyState with
    cache := (emptyState.cache.put 2 TraceSimulation.onePod.oldHost).2 }

/-- A packet to container 2 by way of the gateway. -/
abbrev gatewayBound : DataPacket :=
  TraceSimulation.onePod.packetTo .switchV2P 2
    TraceSimulation.onePod.gateway

theorem simulatedPair_onePod :
    SimulatedPair (TraceSimulation.onePod.plainSpineConfig .switchV2P)
      plainCoreConfig taughtState emptyState gatewayBound
      TraceSimulation.onePod.oldHost where
  spineMode := rfl
  spineType := rfl
  spineGateway := by decide
  coreMode := rfl
  coreType := rfl
  cached := ⟨by decide, by decide⟩
  inactive := by decide
  absent := by decide

/-- Switches of the prototype with one gateway, address 9. -/
def pipelineSwitch (switchType : Prototype.SwitchType) : Program where
  switchType := switchType
  switchId := 5
  matchGw := fun address => address = 9
  checkMisdelivered := fun _ => false
  learningMirrorSession := fun _ => 2
  invalidationMirrorSession := fun _ => 1
  retransmitTimeout := 0
  dstIndexHash := fun key => BitVec.ofNat 13 key.toNat
  srcIndexHash := fun key => BitVec.ofNat 13 key.toNat

/-- An untagged packet from container 1 to container 2. -/
def untaggedPacket (host : Ipv4Address) : Ingress where
  header :=
    { ipv4Outter := { srcAddr := 16, dstAddr := host }
      ipv4Inner := { srcAddr := 1, dstAddr := 2 }
      switchv2p :=
        { type := normalType, switchId := 0, key := 0, val := 0 } }
  rand := 0
  globalTstamp := 0

/-- The spine of the prototype after a packet to container 2 at host 17. -/
def taughtSpineRegisters : Registers :=
  (ingress (pipelineSwitch .spine) .initial
    (untaggedPacket 17)).registers

theorem pipelinePair_pipelineSwitch :
    PipelinePair (pipelineSwitch .spine) (pipelineSwitch .core)
      taughtSpineRegisters .initial (untaggedPacket 9).header 17 where
  spineType := rfl
  spineGateway := by decide
  coreType := rfl
  coreGateway := by decide
  cached := by decide
  inactive := by decide
  absent := by decide

theorem promotion_onePod :
    (Promoted emptyState.cache
        (passBoth (TraceSimulation.onePod.plainSpineConfig .switchV2P)
          plainCoreConfig taughtState emptyState (false, false)
          gatewayBound).state.cache
        (passBoth (TraceSimulation.onePod.plainSpineConfig .switchV2P)
          plainCoreConfig taughtState emptyState (false, false)
          gatewayBound).packet
        2 TraceSimulation.onePod.oldHost ↔
      Promotable emptyState.cache gatewayBound) ∧
      (PipelinePromoted (pipelineSwitch .core) .initial
          (ingress (pipelineSwitch .core) .initial
            (handOver (pipelineSwitch .spine) taughtSpineRegisters
              (untaggedPacket 9) 0 0)).registers
          (ingress (pipelineSwitch .core) .initial
            (handOver (pipelineSwitch .spine) taughtSpineRegisters
              (untaggedPacket 9) 0 0)).header
          2 17 ↔
        TeachesDirectly (pipelineSwitch .core) .initial
          (untaggedPacket 9).header 17) :=
  promotion_iff simulatedPair_onePod pipelinePair_pipelineSwitch

/-- The spine has tagged the packet, and the core has not learned from it. -/
theorem not_promoted_pipelineSwitch :
    PipelinePair (pipelineSwitch .spine) (pipelineSwitch .core)
        taughtSpineRegisters .initial (untaggedPacket 9).header 17 ∧
      CarriesAway
        (ingress (pipelineSwitch .spine) taughtSpineRegisters
          (untaggedPacket 9)).header 2 17 ∧
      ¬ PipelinePromoted (pipelineSwitch .core) .initial
        (ingress (pipelineSwitch .core) .initial
          (handOver (pipelineSwitch .spine) taughtSpineRegisters
            (untaggedPacket 9) 0 0)).registers
        (ingress (pipelineSwitch .core) .initial
          (handOver (pipelineSwitch .spine) taughtSpineRegisters
            (untaggedPacket 9) 0 0)).header
        2 17 := by
  refine ⟨pipelinePair_pipelineSwitch, ⟨by decide, by decide, by decide⟩,
    fun promoted => ?_⟩
  have learned := promoted.learned
  revert learned
  decide

end Pipeline

end SwitchV2P.Promotion
