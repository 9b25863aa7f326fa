import SwitchV2P.Network

namespace SwitchV2P

/-!
# Invariants of the network

An `Assertion` says what holds of every cached mapping and of every packet,
depending on where the packet is.  `Assertion.Closed` lists what has to be
shown about single packets; `Assertion.Holds.step` turns it into preservation
by every step of the network, so that the position of a packet, the other
packets and the tables of the other switches never appear in later proofs.
-/

namespace ProtocolPacket

/-- Each kind of tag was added at most once. -/
structure Single (packet : ProtocolPacket) : Prop where
  evictionTag : packet.evictionTag.AtMostOne
  invalidationTag : packet.invalidationTag.AtMostOne

end ProtocolPacket

namespace SwitchConfig

variable {config : SwitchConfig}

/-- A generated packet gets its one tag when it is made. -/
theorem single_of_mem_generatePacketToAddress
    {data : Mapping}
    {dstAddress : Ipv4Address}
    {learning : Bool}
    {generated : ProtocolPacket}
    (member :
      generated ∈ config.generatePacketToAddress data dstAddress learning) :
    generated.Single := by
  have none : (TagStack.empty : TagStack Mapping).AtMostOne := .empty
  have one := none.add rfl data
  unfold generatePacketToAddress at member
  cases learning <;>
    simp only [ite_true, Bool.false_eq_true, ite_false] at member <;>
    split at member <;>
    simp only [List.mem_singleton, List.not_mem_nil] at member
  · subst member
    exact ⟨none, one⟩
  · subst member
    exact ⟨one, none⟩

theorem single_of_mem_generateLearning
    {draw : Bool}
    {packet : DataPacket}
    {learn : Mapping}
    {generated : ProtocolPacket}
    (member : generated ∈ config.generateLearning draw packet learn) :
    generated.Single := by
  unfold generateLearning at member
  split at member
  · exact single_of_mem_generatePacketToAddress member
  · simp at member

theorem single_of_mem_learnFromPacket
    {draw : Bool}
    {cache : P4Cache Ipv4Address Ipv4Address}
    {packet : DataPacket}
    {generated : ProtocolPacket}
    (member :
      generated ∈ (config.learnFromPacket draw cache packet).2.2.1) :
    generated.Single := by
  unfold learnFromPacket at member
  split at member
  · simp at member
  · unfold learnElsewhere at member
    dsimp only at member
    split at member
    · simp at member
    · split at member
      · split at member
        · simp at member
        · split at member
          · simp at member
          · exact single_of_mem_generateLearning member
      · simp at member

/-- Whatever a switch generates is well tagged. -/
theorem single_of_mem_generated
    {draw : Bool}
    {state : SwitchState}
    {packet : DataPacket}
    {generated : ProtocolPacket}
    (member :
      generated ∈ (config.receivePacket draw state packet).generated) :
    generated.Single := by
  unfold receivePacket at member
  split at member
  next localLearning =>
    unfold localP4CacheLogic at member
    dsimp only at member
    split at member <;> simp at member
  next caching =>
    split at member
    next tagged =>
      unfold receiveInvalidationTagged at member
      dsimp only at member
      split at member
      · unfold reportInvalidation at member
        split at member
        · dsimp only at member
          split at member
          · exact single_of_mem_generatePacketToAddress member
          · simp at member
        · simp at member
      · simp at member
    next untagged =>
      unfold receiveUntagged at member
      dsimp only at member
      split at member
      · simp at member
      · split at member <;>
          exact single_of_mem_learnFromPacket member

end SwitchConfig

/-- What is said of every mapping and of every packet. -/
structure Assertion where
  mapping : Ipv4Address → Ipv4Address → Prop
  inFlight : DataPacket → Prop
  scheduled : Ipv4Address → DataPacket → SendCall → Prop
  waiting : DataPacket → Prop

namespace Assertion

variable {Switch : Type}

/-- The assertion about one packet, wherever it is. -/
def parcel (assertion : Assertion) : Parcel → Prop
  | .inFlight (.data packet) => assertion.inFlight packet
  | .inFlight (.protocol packet) =>
      packet.Single ∧
        ∀ mapping ∈ packet.evictionTag.tags,
          assertion.mapping mapping.1 mapping.2
  | .scheduled host packet call =>
      assertion.scheduled host packet call
  | .atGateway packet => assertion.waiting packet

/-- The assertion about a state: all caches and all packets satisfy it. -/
structure Holds
    (assertion : Assertion)
    (state : NetworkState Switch) : Prop where
  caches :
    ∀ switch, (state.tables switch).cache.Stores assertion.mapping
  parcels :
    ∀ parcel ∈ state.parcels, assertion.parcel parcel

/-- A packet that is sent on after its inner TTL was decremented. -/
def forwardInner (packet : DataPacket) : DataPacket :=
  { packet with
    inner := { packet.inner with ttl := packet.inner.ttl - 1 } }

/--
What must be shown about single packets while the full mapping stays what it
is.
-/
structure Closed
    (assertion : Assertion)
    (network : Network Switch)
    (virtualToPhysical : Ipv4Address → Option Ipv4Address) : Prop where
  /-- A container's packet, on its way to a gateway. -/
  fresh :
    ∀ {source destination flowId sourceTag host gateway},
      virtualToPhysical source = some host →
      network.isGateway host = false →
      network.isGateway gateway = true →
      assertion.inFlight
        ((network.socketHelper host).sendTo
          (Network.freshPacket source destination flowId sourceTag)
          gateway)
  /-- The outer TTL does not matter. -/
  anyTtl :
    ∀ {packet} (ttl : UInt8),
      assertion.inFlight packet →
      assertion.inFlight
        { packet with outer := { packet.outer with ttl := ttl } }
  /-- A switch keeps the assertion when it only does what it may do. -/
  handled :
    ∀ {switch packet received},
      assertion.inFlight packet →
      (network.switches switch).Handled assertion.mapping packet
        received →
      assertion.inFlight received.packet
  /-- The gateway. -/
  resolved :
    ∀ {packet address},
      assertion.inFlight packet →
      network.isGateway packet.outer.destination = true →
      virtualToPhysical packet.inner.destination = some address →
      assertion.waiting (packet.setDestination address)
  /-- The gateway's delayed half. -/
  sent :
    ∀ {packet},
      assertion.waiting packet →
      assertion.inFlight (GatewayApp.sendPacket packet)
  /-- The inner TTL was full when the packet was sent. -/
  ttl :
    ∀ {packet},
      assertion.inFlight packet →
      0 < packet.inner.ttl ∧ packet.inner.ttl ≤ 64
  /-- A host that does not have the container. -/
  misdelivered :
    ∀ {packet} (state : HostState),
      assertion.inFlight packet →
      network.isGateway packet.outer.destination = false →
      virtualToPhysical packet.inner.destination ≠
        some packet.outer.destination →
      packet.inner.ttl - 1 ≠ 0 →
      let sending :=
        (network.socketHelper packet.outer.destination).resendMisdelivered
          state (forwardInner packet)
      assertion.scheduled packet.outer.destination sending.packet
        sending.call
  /-- The scheduled call. -/
  fired :
    ∀ {host packet call sent},
      assertion.scheduled host packet call →
      (network.socketHelper host).perform virtualToPhysical packet
          call = some sent →
      assertion.inFlight sent

/-- A weaker assertion holds as well. -/
theorem Holds.mono
    {stronger weaker : Assertion}
    {state : NetworkState Switch}
    (holds : stronger.Holds state)
    (mapping :
      ∀ key value, stronger.mapping key value → weaker.mapping key value)
    (inFlight :
      ∀ packet, stronger.inFlight packet → weaker.inFlight packet)
    (scheduled :
      ∀ host packet call,
        stronger.scheduled host packet call →
        weaker.scheduled host packet call)
    (waiting :
      ∀ packet, stronger.waiting packet → weaker.waiting packet) :
    weaker.Holds state := by
  refine ⟨fun switch => (holds.caches switch).mono mapping, ?_⟩
  intro parcel member
  have before := holds.parcels parcel member
  cases parcel with
  | inFlight datagram =>
      cases datagram with
      | data packet => exact inFlight packet before
      | protocol packet =>
          exact ⟨before.1, fun carried tagged =>
            mapping _ _ (before.2 carried tagged)⟩
  | scheduled host packet call =>
      exact scheduled host packet call before
  | atGateway packet => exact waiting packet before

/-- The assertion says nothing about the full mapping. -/
theorem Holds.of_same
    {assertion : Assertion}
    {state other : NetworkState Switch}
    (holds : assertion.Holds state)
    (tables : other.tables = state.tables)
    (parcels : other.parcels = state.parcels) :
    assertion.Holds other :=
  ⟨by rw [tables]; exact holds.caches, by rw [parcels]; exact holds.parcels⟩

/-- A live slot has the asserted property. -/
theorem Holds.cached
    {assertion : Assertion}
    {state : NetworkState Switch}
    (holds : assertion.Holds state)
    {key value : Ipv4Address}
    (caches : state.Caches key value) :
    assertion.mapping key value := by
  obtain ⟨switch, idx, stored, nonzero⟩ := caches
  have live := (holds.caches switch).of_live idx
  simp only [stored] at live
  exact live nonzero

/-- So has what a learning packet carries. -/
theorem Holds.taught
    {assertion : Assertion}
    {state : NetworkState Switch}
    (holds : assertion.Holds state)
    {mapping : Mapping}
    (teaches : state.Teaches mapping) :
    assertion.mapping mapping.1 mapping.2 := by
  obtain ⟨packet, member, carried⟩ := teaches
  exact (holds.parcels _ member).2 mapping carried

/-- A property of data packets that the assertion implies everywhere. -/
theorem Holds.carried
    {assertion : Assertion}
    {state : NetworkState Switch}
    (holds : assertion.Holds state)
    (property : DataPacket → Prop)
    (inFlight : ∀ packet, assertion.inFlight packet → property packet)
    (scheduled :
      ∀ host packet call,
        assertion.scheduled host packet call → property packet)
    (waiting : ∀ packet, assertion.waiting packet → property packet)
    {packet : DataPacket}
    (carries : state.Carries packet) :
    property packet := by
  obtain ⟨parcel, member, found⟩ := carries
  have asserted := holds.parcels parcel member
  cases parcel with
  | inFlight datagram =>
      cases datagram with
      | data carried =>
          simp only [Parcel.dataPacket?, Option.some.injEq] at found
          subst found
          exact inFlight _ asserted
      | protocol carried => simp [Parcel.dataPacket?] at found
  | scheduled host carried call =>
      simp only [Parcel.dataPacket?, Option.some.injEq] at found
      subst found
      exact scheduled host _ call asserted
  | atGateway carried =>
      simp only [Parcel.dataPacket?, Option.some.injEq] at found
      subst found
      exact waiting _ asserted

/-- Every assertion holds of a network without mappings and packets. -/
theorem Holds.start
    {state : NetworkState Switch}
    (started : Network.Started state)
    (assertion : Assertion) :
    assertion.Holds state := by
  refine ⟨fun switch => ?_, by simp [started.noParcels]⟩
  obtain ⟨capacity, capacity_pos, hash, empty⟩ :=
    started.emptyCaches switch
  rw [empty]
  exact .setup capacity capacity_pos hash

/-- Replacing one packet by packets that satisfy the assertion. -/
theorem Holds.replace
    {assertion : Assertion}
    {state : NetworkState Switch}
    (holds : assertion.Holds state)
    (position : Nat)
    {parcels : List Parcel}
    (new : ∀ parcel ∈ parcels, assertion.parcel parcel) :
    assertion.Holds (state.replace position parcels) := by
  refine ⟨holds.caches, fun parcel member => ?_⟩
  rcases NetworkState.mem_replace member with old | added
  · exact holds.parcels parcel old
  · exact new parcel added

/-- Changing one table to one that satisfies the assertion. -/
theorem Holds.setTable
    [DecidableEq Switch]
    {assertion : Assertion}
    {state : NetworkState Switch}
    (holds : assertion.Holds state)
    (switch : Switch)
    {table : SwitchState}
    (stores : table.cache.Stores assertion.mapping) :
    assertion.Holds (state.setTable switch table) := by
  refine ⟨fun other => ?_, holds.parcels⟩
  by_cases same : other = switch
  · subst same
    simpa [NetworkState.setTable] using stores
  · simpa [NetworkState.setTable, same] using holds.caches other

/-- Hosts have no caches of mappings. -/
theorem Holds.setHost
    {assertion : Assertion}
    {state : NetworkState Switch}
    (holds : assertion.Holds state)
    (address : Ipv4Address)
    (host : HostState) :
    assertion.Holds (state.setHost address host) :=
  holds.of_same rfl rfl

end Assertion

namespace Network

variable {Switch : Type} {network : Network Switch}

/-- The modes in which switches cache and hosts always ask a gateway. -/
structure Caching (network : Network Switch) : Prop where
  mode :
    network.simParams.simMode = .switchV2P ∨
      network.simParams.simMode = .localLearning

/-- Switches test for the gateways of the network. -/
@[simp] theorem isGateway_switches (switch : Switch) (address : Ipv4Address) :
    (network.switches switch).isGateway address =
      network.isGateway address := by
  simp [SwitchConfig.isGateway, isGateway, network.sameGateways switch]

/-- A packet to a gateway is sent to one of the gateway addresses. -/
theorem isGateway_of_perform
    {host : Ipv4Address}
    {virtualToPhysical : Ipv4Address → Option Ipv4Address}
    {packet sent : DataPacket}
    {gwIdx : Nat}
    (performed :
      (network.socketHelper host).perform virtualToPhysical packet
        (.sendToGateway gwIdx) = some sent) :
    ∃ gateway, network.isGateway gateway = true ∧
      sent = (network.socketHelper host).sendTo packet gateway := by
  simp only [SocketHelper.perform, Option.map_eq_some_iff] at performed
  obtain ⟨gateway, chosen, rfl⟩ := performed
  refine ⟨gateway, ?_, rfl⟩
  have member : gateway ∈ network.gwAddresses :=
    List.mem_of_getElem? chosen
  simpa [isGateway] using member

/-- A fresh packet goes to a gateway at once. -/
theorem virtualSend_fresh
    (caching : network.Caching)
    {state : NetworkState Switch}
    {host : Ipv4Address}
    {packet : DataPacket}
    (fresh : ¬ packet.inner.ttl < 64)
    {result : NetworkState Switch × Parcel}
    (sent : network.virtualSend state host packet = some result) :
    ∃ gateway, network.isGateway gateway = true ∧
      result.1 = state.setHost host (state.hosts host) ∧
      result.2 =
        .inFlight
          (.data ((network.socketHelper host).sendTo packet gateway)) := by
  have notDirect : network.simParams.simMode ≠ .direct := by
    rcases caching.mode with mode | mode <;> simp [mode]
  have notOnDemand : network.simParams.simMode ≠ .onDemand := by
    rcases caching.mode with mode | mode <;> simp [mode]
  have sending :=
    SocketHelper.virtualSend_fresh (network.socketHelper host)
      (state.hosts host) notDirect notOnDemand fresh
  simp only [virtualSend, sending, ↓reduceIte,
    Option.map_eq_some_iff] at sent
  obtain ⟨performed, chosen, rfl⟩ := sent
  obtain ⟨gateway, isGateway, rfl⟩ := isGateway_of_perform chosen
  exact ⟨gateway, isGateway, rfl, rfl⟩

/-- A misdelivered packet is marked and scheduled. -/
theorem virtualSend_misdelivered
    (network : Network Switch)
    (state : NetworkState Switch)
    (host : Ipv4Address)
    {packet : DataPacket}
    (forwarded : packet.inner.ttl < 64) :
    ∃ marked,
      let sending :=
        (network.socketHelper host).resendMisdelivered marked packet
      network.virtualSend state host packet =
        some
          (state.setHost host marked,
            .scheduled host sending.packet sending.call) := by
  obtain ⟨marked, sending⟩ :=
    SocketHelper.virtualSend_of_ttl_lt (network.socketHelper host)
      (state.hosts host) forwarded
  refine ⟨marked, ?_⟩
  simp only [virtualSend, sending]
  rfl

end Network

namespace Assertion

open Network

variable
  {Switch : Type}
  {network : Network Switch}
  {assertion : Assertion}
  {state : NetworkState Switch}

/-- The packets a switch sends satisfy the assertion. -/
theorem Holds.receiveAtSwitch
    [DecidableEq Switch]
    (closed : assertion.Closed network state.virtualToPhysical)
    (holds : assertion.Holds state)
    {switch : Switch}
    (draw : Bool)
    {datagram : Datagram}
    (before : assertion.parcel (.inFlight datagram))
    (offers :
      ∀ packet, datagram = .data packet →
        (network.switches switch).Offers assertion.mapping packet) :
    let received :=
      network.receiveAtSwitch state switch draw datagram
    assertion.Holds received.1 ∧
      ∀ parcel ∈ received.2, assertion.parcel parcel := by
  cases datagram with
  | data packet =>
      have handled :=
        SwitchConfig.handled_receivePacket draw
          (holds.caches switch) (offers packet rfl)
      refine ⟨holds.setTable switch handled.stores, ?_⟩
      intro parcel member
      rcases List.mem_append.mp member with forwarded | generated
      · unfold forward at forwarded
        split at forwarded
        · simp at forwarded
        · rw [List.mem_singleton] at forwarded
          subst forwarded
          exact closed.anyTtl _ (closed.handled before handled)
      · obtain ⟨protocolPacket, generatedMember, rfl⟩ :=
          List.mem_map.mp generated
        exact ⟨SwitchConfig.single_of_mem_generated generatedMember,
          handled.learning protocolPacket generatedMember⟩
  | protocol packet =>
      obtain ⟨stores, sentSame⟩ :=
        SwitchConfig.handleProtocolPacket_spec
          (network.switches switch)
          (holds.caches switch) before.2
      refine ⟨holds.setTable switch stores, ?_⟩
      intro parcel member
      obtain ⟨sent, sentMember, rfl⟩ := List.mem_map.mp member
      rw [sentSame sent sentMember]
      exact before

/-- What the addressed node does keeps the assertion. -/
theorem Holds.receiveAtNode
    (closed : assertion.Closed network state.virtualToPhysical)
    (holds : assertion.Holds state)
    {packet : DataPacket}
    (before : assertion.inFlight packet)
    {received : NetworkState Switch × List Parcel}
    (performed : network.receiveAtNode state packet = some received) :
    assertion.Holds received.1 ∧
      ∀ parcel ∈ received.2, assertion.parcel parcel := by
  unfold Network.receiveAtNode at performed
  dsimp only at performed
  split at performed
  next atGateway =>
    simp only [GatewayApp.receivePacket, Option.map_map,
      Option.map_eq_some_iff, Function.comp_apply] at performed
    obtain ⟨address, found, rfl⟩ := performed
    refine ⟨holds, fun parcel member => ?_⟩
    rw [List.mem_singleton] at member
    subst member
    exact closed.resolved before atGateway found
  next atHost =>
    have notGateway :
        network.isGateway packet.outer.destination = false := by
      simpa using atHost
    split at performed
    next delivered =>
      simp only [Option.some.injEq] at performed
      subst performed
      exact ⟨holds.setHost _ _, by simp⟩
    next elsewhere =>
      split at performed
      next expired =>
        simp only [Option.some.injEq] at performed
        subst performed
        exact ⟨holds.setHost _ _, by simp⟩
      next alive =>
        obtain ⟨positive, atMost⟩ := closed.ttl before
        have forwarded : (forwardInner packet).inner.ttl < 64 := by
          change packet.inner.ttl - 1 < 64
          simp only [UInt8.lt_iff_toNat_lt, UInt8.le_iff_toNat_le,
            UInt8.toNat_sub, UInt8.reduceToNat] at positive atMost ⊢
          omega
        obtain ⟨marked, sent⟩ :=
          virtualSend_misdelivered network
            (state.setHost packet.outer.destination
              ((network.socketHelper
                packet.outer.destination).socketRecv
                  (state.hosts packet.outer.destination) packet))
            packet.outer.destination forwarded
        rw [forwardInner] at sent
        rw [sent] at performed
        simp only [Option.map_some, Option.some.injEq] at performed
        subst performed
        refine ⟨(holds.setHost _ _).setHost _ _, ?_⟩
        intro parcel member
        rw [List.mem_singleton] at member
        subst member
        exact
          closed.misdelivered marked before notGateway elsewhere alive

/-- A scheduled call keeps the assertion. -/
theorem Holds.fire
    (closed : assertion.Closed network state.virtualToPhysical)
    {parcel sent : Parcel}
    (before : assertion.parcel parcel)
    (performed : network.fire state parcel = some sent) :
    assertion.parcel sent := by
  cases parcel with
  | inFlight datagram => simp [Network.fire] at performed
  | scheduled host packet call =>
      simp only [Network.fire, Option.map_eq_some_iff] at performed
      obtain ⟨packetSent, chosen, rfl⟩ := performed
      exact closed.fired before chosen
  | atGateway packet =>
      simp only [Network.fire, Option.some.injEq] at performed
      subst performed
      exact closed.sent before

/-- A container's packet keeps the assertion. -/
theorem Holds.send
    (caching : network.Caching)
    (closed : assertion.Closed network state.virtualToPhysical)
    (holds : assertion.Holds state)
    {source destination host : Ipv4Address}
    {flowId : UInt32}
    {sourceTag : Option Ipv4Address}
    (located : state.virtualToPhysical source = some host)
    (notGateway : network.isGateway host = false)
    {result : NetworkState Switch × Parcel}
    (sent :
      network.virtualSend state host
        (freshPacket source destination flowId sourceTag) =
          some result) :
    assertion.Holds
      { result.1 with parcels := result.1.parcels ++ [result.2] } := by
  obtain ⟨gateway, isGateway, unchanged, shape⟩ :=
    virtualSend_fresh caching (by simp [freshPacket]) sent
  rw [unchanged, shape]
  refine ⟨holds.caches, fun parcel member => ?_⟩
  rcases List.mem_append.mp member with old | new
  · exact holds.parcels parcel old
  · rw [List.mem_singleton] at new
    subst new
    exact closed.fresh located notGateway isGateway

/--
Every step other than a migration keeps an assertion that is closed for single
packets, provided the packet at a switch offers only good mappings.
-/
theorem Holds.step
    [DecidableEq Switch]
    (caching : network.Caching)
    (closed : assertion.Closed network state.virtualToPhysical)
    (holds : assertion.Holds state)
    {action : Action Switch}
    {next : NetworkState Switch}
    (offers :
      ∀ {switch position draw packet},
        action = .atSwitch switch position draw →
        state.parcels[position]? = some (.inFlight (.data packet)) →
        (network.switches switch).Offers assertion.mapping packet)
    (noMigration :
      ∀ container host, action ≠ .migrate container host)
    (stepped : network.system.step state action = some next) :
    assertion.Holds next := by
  change network.step state action = some next at stepped
  cases action with
  | send source destination flowId sourceTag =>
      simp only [Network.step] at stepped
      split at stepped
      next host located =>
        split at stepped
        next isGateway => simp at stepped
        next notGateway =>
          simp only [Option.map_eq_some_iff] at stepped
          obtain ⟨result, sent, rfl⟩ := stepped
          exact
            holds.send caching closed located (by simpa using notGateway)
              sent
      next missing => simp at stepped
  | atSwitch switch position draw =>
      simp only [Network.step] at stepped
      split at stepped
      next datagram found =>
        simp only [Option.some.injEq] at stepped
        subst stepped
        obtain ⟨after, sent⟩ :=
          holds.receiveAtSwitch closed draw
            (holds.parcels _ (List.mem_of_getElem? found))
            (fun packet shape => offers rfl (by rw [found, shape]))
        exact after.replace position sent
      next missing => simp at stepped
  | atNode position =>
      simp only [Network.step] at stepped
      split at stepped
      next packet found =>
        simp only [Option.map_eq_some_iff] at stepped
        obtain ⟨received, performed, rfl⟩ := stepped
        obtain ⟨after, sent⟩ :=
          holds.receiveAtNode closed
            (holds.parcels _ (List.mem_of_getElem? found)) performed
        exact after.replace position sent
      next missing => simp at stepped
  | timer position =>
      simp only [Network.step] at stepped
      split at stepped
      next parcel found =>
        simp only [Option.map_eq_some_iff] at stepped
        obtain ⟨sent, performed, rfl⟩ := stepped
        refine holds.replace position fun parcel member => ?_
        rw [List.mem_singleton] at member
        subst member
        exact
          Holds.fire closed
            (holds.parcels _ (List.mem_of_getElem? found)) performed
      next missing => simp at stepped
  | lose position =>
      simp only [Network.step] at stepped
      split at stepped
      next parcel found =>
        simp only [Option.some.injEq] at stepped
        subst stepped
        exact holds.replace position (by simp)
      next missing => simp at stepped
  | migrate container host =>
      exact absurd rfl (noMigration container host)

end Assertion

namespace Network

variable {Switch : Type} {network : Network Switch}

theorem virtualToPhysical_of_virtualSend
    {state : NetworkState Switch}
    {host : Ipv4Address}
    {packet : DataPacket}
    {result : NetworkState Switch × Parcel}
    (sent : network.virtualSend state host packet = some result) :
    result.1.virtualToPhysical = state.virtualToPhysical := by
  unfold virtualSend at sent
  dsimp only at sent
  split at sent
  · simp only [Option.map_eq_some_iff] at sent
    obtain ⟨_, _, rfl⟩ := sent
    rfl
  · simp only [Option.some.injEq] at sent
    subst sent
    rfl

theorem virtualToPhysical_of_receiveAtNode
    {state : NetworkState Switch}
    {packet : DataPacket}
    {received : NetworkState Switch × List Parcel}
    (performed : network.receiveAtNode state packet = some received) :
    received.1.virtualToPhysical = state.virtualToPhysical := by
  unfold receiveAtNode at performed
  dsimp only at performed
  split at performed
  next atGateway =>
    simp only [Option.map_eq_some_iff] at performed
    obtain ⟨_, _, rfl⟩ := performed
    rfl
  next atHost =>
    split at performed
    next delivered =>
      simp only [Option.some.injEq] at performed
      subst performed
      rfl
    next elsewhere =>
      split at performed
      next expired =>
        simp only [Option.some.injEq] at performed
        subst performed
        rfl
      next alive =>
        simp only [Option.map_eq_some_iff] at performed
        obtain ⟨result, sent, rfl⟩ := performed
        exact (virtualToPhysical_of_virtualSend sent).trans rfl

/-- Only a migration changes the full mapping. -/
theorem virtualToPhysical_of_step
    [DecidableEq Switch]
    {state next : NetworkState Switch}
    {action : Action Switch}
    (noMigration :
      ∀ container host, action ≠ .migrate container host)
    (stepped : network.system.step state action = some next) :
    next.virtualToPhysical = state.virtualToPhysical := by
  change network.step state action = some next at stepped
  cases action with
  | send source destination flowId sourceTag =>
      simp only [step] at stepped
      split at stepped
      · split at stepped
        · simp at stepped
        · simp only [Option.map_eq_some_iff] at stepped
          obtain ⟨result, sent, rfl⟩ := stepped
          exact virtualToPhysical_of_virtualSend sent
      · simp at stepped
  | atSwitch switch position draw =>
      simp only [step] at stepped
      split at stepped
      next datagram found =>
        simp only [Option.some.injEq] at stepped
        subst stepped
        cases datagram <;> rfl
      next missing => simp at stepped
  | atNode position =>
      simp only [step] at stepped
      split at stepped
      · simp only [Option.map_eq_some_iff] at stepped
        obtain ⟨received, performed, rfl⟩ := stepped
        exact virtualToPhysical_of_receiveAtNode performed
      · simp at stepped
  | timer position =>
      simp only [step] at stepped
      split at stepped
      · simp only [Option.map_eq_some_iff] at stepped
        obtain ⟨_, _, rfl⟩ := stepped
        rfl
      · simp at stepped
  | lose position =>
      simp only [step] at stepped
      split at stepped
      · simp only [Option.some.injEq] at stepped
        subst stepped
        rfl
      · simp at stepped
  | migrate container host =>
      exact absurd rfl (noMigration container host)

end Network

end SwitchV2P
