import SwitchV2P.GatewayApp
import SwitchV2P.P4SwitchAppSpec
import SwitchV2P.SocketHelper
import SwitchV2P.TransitionSystem

namespace SwitchV2P

/-!
# Hosts, gateways and switches together

Any switch may handle any packet that is in flight, any packet may be lost, and
timers fire in any order: routing, queueing and time are left to the
environment, which chooses the next action.  What the chosen node does with the
packet is the code's choice.
-/

/-- A packet somewhere in the network. -/
inductive Parcel where
  /-- On a link. -/
  | inFlight (datagram : Datagram)
  /-- In a host, waiting for a scheduled send call. -/
  | scheduled
      (host : Ipv4Address)
      (packet : DataPacket)
      (call : SendCall)
  /-- In a gateway, waiting for its `SendPacket`. -/
  | atGateway (packet : DataPacket)
  deriving Repr, DecidableEq

/-- The data packet in a parcel, if it is one. -/
def Parcel.dataPacket? : Parcel → Option DataPacket
  | .inFlight (.data packet) => some packet
  | .inFlight (.protocol _) => none
  | .scheduled _ packet _ => some packet
  | .atGateway packet => some packet

/-- The nodes of one simulation and what their setup hands them. -/
structure Network (Switch : Type) where
  switches : Switch → SwitchConfig
  simParams : SimulationParameters
  migrationParams : MigrationParams
  gwAddresses : List Ipv4Address
  gatewayRange : Nat
  crc32 : UInt32 → Nat
  leafCount : Nat
  /-- Every node is given the same gateway addresses. -/
  sameGateways :
    ∀ switch, (switches switch).gwAddresses = gwAddresses
  /-- Every node is given the same mode. -/
  sameMode :
    ∀ switch, (switches switch).simMode = simParams.simMode

/-- Everything that changes while the simulation runs. -/
structure NetworkState (Switch : Type) where
  virtualToPhysical : Ipv4Address → Option Ipv4Address
  tables : Switch → SwitchState
  hosts : Ipv4Address → HostState
  parcels : List Parcel

/-- The next thing to happen; a packet is named by its position. -/
inductive Action (Switch : Type) where
  /-- A container sends a packet. -/
  | send
      (source destination : Ipv4Address)
      (flowId : UInt32)
      (sourceTag : Option Ipv4Address)
  /-- A packet reaches a switch. -/
  | atSwitch (switch : Switch) (position : Nat) (draw : Bool)
  /-- A packet reaches the node that its outer header names. -/
  | atNode (position : Nat)
  /-- A scheduled call is due. -/
  | timer (position : Nat)
  /-- A packet is lost. -/
  | lose (position : Nat)
  /-- A container moves to another host. -/
  | migrate (container host : Ipv4Address)
  deriving Repr, DecidableEq

namespace NetworkState

variable {Switch : Type}

/-- A data packet on a link, in a host or in a gateway. -/
def Carries
    (state : NetworkState Switch)
    (packet : DataPacket) : Prop :=
  ∃ parcel ∈ state.parcels, parcel.dataPacket? = some packet

/-- A live slot of some switch, one that a lookup can return. -/
def Caches
    (state : NetworkState Switch)
    (key value : Ipv4Address) : Prop :=
  ∃ switch idx,
    (state.tables switch).cache.array idx = (key, value) ∧ value ≠ 0

/-- A learning packet on a link. -/
def Teaches
    (state : NetworkState Switch)
    (mapping : Mapping) : Prop :=
  ∃ packet : ProtocolPacket,
    .inFlight (.protocol packet) ∈ state.parcels ∧
      mapping ∈ packet.evictionTag.tags

/-- Replace the packet at a position by others. -/
def replace
    (state : NetworkState Switch)
    (position : Nat)
    (parcels : List Parcel) :
    NetworkState Switch :=
  { state with parcels := state.parcels.eraseIdx position ++ parcels }

/-- Change the tables of one switch. -/
def setTable
    [DecidableEq Switch]
    (state : NetworkState Switch)
    (switch : Switch)
    (table : SwitchState) :
    NetworkState Switch :=
  { state with tables := Function.update state.tables switch table }

/-- Change the state of one host. -/
def setHost
    (state : NetworkState Switch)
    (address : Ipv4Address)
    (host : HostState) :
    NetworkState Switch :=
  { state with hosts := Function.update state.hosts address host }

/-- The packets after a replacement are old or new. -/
theorem mem_replace
    {state : NetworkState Switch}
    {position : Nat}
    {parcels : List Parcel}
    {parcel : Parcel}
    (member : parcel ∈ (state.replace position parcels).parcels) :
    parcel ∈ state.parcels ∨ parcel ∈ parcels := by
  rcases List.mem_append.mp member with old | new
  · exact Or.inl (List.mem_of_mem_eraseIdx old)
  · exact Or.inr new

end NetworkState

namespace Network

variable {Switch : Type}

/-- A gateway address. -/
def isGateway
    (network : Network Switch)
    (address : Ipv4Address) : Bool :=
  address ∈ network.gwAddresses

/-- The `SocketHelper` of the host with this address. -/
def socketHelper
    (network : Network Switch)
    (address : Ipv4Address) :
    SocketHelper where
  simParams := network.simParams
  migrationParams := network.migrationParams
  gatewayAddresses := network.gwAddresses
  gatewayRange := network.gatewayRange
  crc32 := network.crc32
  physicalAddress := address

/-- `m_podWidth`: `SimulationBase` replaces the pod width of a CLOS network. -/
def podWidth (network : Network Switch) : Nat :=
  match network.simParams.networkTopology with
  | .clos => network.leafCount
  | .fattree => network.simParams.podWidth % 2 ^ 32

/-- The address that `UpdateMappings` writes for the migrated container. -/
def updateMappingsAddress (network : Network Switch) : Ipv4Address :=
  IpUtils.getNodePhysicalAddress
    (network.migrationParams.dstLeaf.toNat / network.podWidth)
    (network.migrationParams.dstLeaf.toNat % network.podWidth)
    network.migrationParams.dstHost.toNat

/-- The address that the follow-me rule of every host uses. -/
def followMeAddress (network : Network Switch) : Ipv4Address :=
  (network.socketHelper 0).followMeAddress

/-- The migrated container. -/
def migratedContainer (network : Network Switch) : Ipv4Address :=
  IpUtils.getContainerVirtualAddress network.migrationParams.containerId

/-- What a container hands to `VirtualSend`: no tags and a full TTL. -/
def freshPacket
    (source destination : Ipv4Address)
    (flowId : UInt32)
    (sourceTag : Option Ipv4Address) :
    DataPacket where
  outer := { source := 0, destination := 0, ttl := 0 }
  inner := { source := source, destination := destination, ttl := 64 }
  evictionTag := .empty
  invalidationTag := .empty
  hitTag := .empty
  sourceTag := sourceTag
  flowId := flowId
  misdeliveries := 0

/-- `VirtualSend` on a host: an immediate send call or a scheduled one. -/
def virtualSend
    (network : Network Switch)
    (state : NetworkState Switch)
    (host : Ipv4Address)
    (packet : DataPacket) :
    Option (NetworkState Switch × Parcel) :=
  let helper := network.socketHelper host
  let sending := helper.virtualSend (state.hosts host) packet
  let state := state.setHost host sending.state
  if sending.delayMicroseconds = 0 then
    (helper.perform state.virtualToPhysical sending.packet
        sending.call).map
      fun sent => (state, .inFlight (.data sent))
  else
    some (state, .scheduled host sending.packet sending.call)

/-- A packet leaves a switch with its TTL decremented, unless it expires. -/
def forward (packet : DataPacket) : List Parcel :=
  if packet.outer.ttl - 1 = 0 then
    []
  else
    [.inFlight
      (.data
        { packet with
          outer := { packet.outer with ttl := packet.outer.ttl - 1 } })]

/-- What a switch does with a packet. -/
def receiveAtSwitch
    [DecidableEq Switch]
    (network : Network Switch)
    (state : NetworkState Switch)
    (switch : Switch)
    (draw : Bool) :
    Datagram → NetworkState Switch × List Parcel
  | .data packet =>
      let received :=
        (network.switches switch).receivePacket draw
          (state.tables switch) packet
      (state.setTable switch received.state,
        forward received.packet ++
          received.generated.map fun generated =>
            .inFlight (.protocol generated))
  | .protocol packet =>
      let handled :=
        (network.switches switch).handleProtocolPacket
          (state.tables switch) packet
      (state.setTable switch handled.1,
        handled.2.map fun sent => .inFlight (.protocol sent))

/--
What the node does that the outer header names: a gateway looks the packet up,
the container's host takes it, and any other host forwards the inner packet.
-/
def receiveAtNode
    (network : Network Switch)
    (state : NetworkState Switch)
    (packet : DataPacket) :
    Option (NetworkState Switch × List Parcel) :=
  let host := packet.outer.destination
  if network.isGateway host then
    (GatewayApp.receivePacket state.virtualToPhysical packet).map
      fun resolved => (state, [.atGateway resolved])
  else
    let helper := network.socketHelper host
    let state :=
      state.setHost host (helper.socketRecv (state.hosts host) packet)
    if state.virtualToPhysical packet.inner.destination = some host then
      some (state, [])
    else if packet.inner.ttl - 1 = 0 then
      some (state, [])
    else
      (network.virtualSend state host
          { packet with
            inner :=
              { packet.inner with ttl := packet.inner.ttl - 1 } }).map
        fun sent => (sent.1, [sent.2])

/-- A scheduled call is carried out. -/
def fire
    (network : Network Switch)
    (state : NetworkState Switch) :
    Parcel → Option Parcel
  | .inFlight _ => none
  | .scheduled host packet call =>
      ((network.socketHelper host).perform state.virtualToPhysical
          packet call).map
        fun sent => .inFlight (.data sent)
  | .atGateway packet =>
      some (.inFlight (.data (GatewayApp.sendPacket packet)))

/-- One step of the network. -/
def step
    [DecidableEq Switch]
    (network : Network Switch)
    (state : NetworkState Switch) :
    Action Switch → Option (NetworkState Switch)
  | .send source destination flowId sourceTag =>
      match state.virtualToPhysical source with
      | some host =>
          if network.isGateway host then
            none
          else
            (network.virtualSend state host
                (freshPacket source destination flowId sourceTag)).map
              fun sent =>
                { sent.1 with parcels := sent.1.parcels ++ [sent.2] }
      | none => none
  | .atSwitch switch position draw =>
      match state.parcels[position]? with
      | some (.inFlight datagram) =>
          let received :=
            network.receiveAtSwitch state switch draw datagram
          some (received.1.replace position received.2)
      | _ => none
  | .atNode position =>
      match state.parcels[position]? with
      | some (.inFlight (.data packet)) =>
          (network.receiveAtNode state packet).map
            fun received => received.1.replace position received.2
      | _ => none
  | .timer position =>
      match state.parcels[position]? with
      | some parcel =>
          (network.fire state parcel).map
            fun sent => state.replace position [sent]
      | none => none
  | .lose position =>
      match state.parcels[position]? with
      | some _ => some (state.replace position [])
      | none => none
  | .migrate container host =>
      some
        { state with
          virtualToPhysical :=
            Function.update state.virtualToPhysical container
              (some host) }

/-- The network as a transition system. -/
def system
    [DecidableEq Switch]
    (network : Network Switch) :
    TransitionSystem (NetworkState Switch) (Action Switch) where
  step := network.step

/-- The state after `Setup` of every node, before the first packet. -/
def start
    (_ : Network Switch)
    (virtualToPhysical : Ipv4Address → Option Ipv4Address)
    (memorySize : Nat)
    (memorySize_pos : 0 < memorySize)
    (hash : Ipv4Address → Nat)
    (bloomFilterSize : Nat)
    (heap : UInt32 → UInt8) :
    NetworkState Switch where
  virtualToPhysical := virtualToPhysical
  tables := fun _ =>
    { cache := P4Cache.setup memorySize memorySize_pos hash
      bloomFilter := BloomFilter.setup bloomFilterSize heap }
  hosts := fun _ => { onDemandCache := [], firstPacket := true }
  parcels := []

/-- Empty caches and no packets yet. -/
structure Started (state : NetworkState Switch) : Prop where
  emptyCaches :
    ∀ switch, ∃ capacity capacity_pos hash,
      (state.tables switch).cache =
        P4Cache.setup capacity capacity_pos hash
  noParcels : state.parcels = []

theorem started_start
    (network : Network Switch)
    (virtualToPhysical : Ipv4Address → Option Ipv4Address)
    (memorySize : Nat)
    (memorySize_pos : 0 < memorySize)
    (hash : Ipv4Address → Nat)
    (bloomFilterSize : Nat)
    (heap : UInt32 → UInt8) :
    Started
      (network.start virtualToPhysical memorySize memorySize_pos hash
        bloomFilterSize heap) :=
  ⟨fun _ => ⟨memorySize, memorySize_pos, hash, rfl⟩, rfl⟩

end Network

end SwitchV2P
