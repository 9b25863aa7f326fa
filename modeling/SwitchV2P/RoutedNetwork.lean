import SwitchV2P.SwitchApplications

namespace SwitchV2P

/-!
# Every node with its routes

Packets go from node to node over the routes that `PopulateRoutingTable`
installs, with a random choice among equal ones, and each node does with a
packet what its sockets, its interceptor and its routing do, in this order.
Time, queues and the packets that queues drop are left to the environment.
-/

/-- A container's packet, with the number of its send and its `HopsTag`. -/
structure TaggedPacket where
  uid : Nat
  hopsTag : Option UInt32
  packet : DataPacket
  deriving Repr, DecidableEq

namespace TaggedPacket

/-- `HopsTag::IncHops`, when there is a tag. -/
def incHops (tagged : TaggedPacket) : TaggedPacket :=
  { tagged with hopsTag := tagged.hopsTag.map (· + 1) }

/-- The packet after a hop, with the TTL that `IpForward` leaves. -/
def decrementTtl (tagged : TaggedPacket) : TaggedPacket :=
  { tagged with
    packet :=
      { tagged.packet with
        outer :=
          { tagged.packet.outer with
            ttl := tagged.packet.outer.ttl - 1 } } }

/-- The destination of the outer header. -/
def destination (tagged : TaggedPacket) : Ipv4Address :=
  tagged.packet.outer.destination

end TaggedPacket

/-- A packet, by what happens to it next. -/
inductive Transit where
  /-- It reaches a node. -/
  | data (node : Node) (tagged : TaggedPacket)
  | protocol (node : Node) (packet : ProtocolPacket)
  /-- A send call of a host is due. -/
  | scheduled
      (leaf host : Nat)
      (tagged : TaggedPacket)
      (call : SendCall)
  /-- `SendPacket` of a gateway is due. -/
  | atGateway (leaf host : Nat) (tagged : TaggedPacket)
  deriving Repr, DecidableEq

/-- A packet that a host has handed to its container. -/
structure Delivery where
  leaf : Nat
  host : Nat
  tagged : TaggedPacket
  deriving Repr, DecidableEq

/-- What becomes of a packet at a node. -/
structure Handling where
  transits : List Transit
  delivered : List Delivery
  dropped : List TaggedPacket
  deriving Repr, DecidableEq

namespace Handling

def send (transits : List Transit) : Handling where
  transits := transits
  delivered := []
  dropped := []

def deliver (delivery : Delivery) : Handling where
  transits := []
  delivered := [delivery]
  dropped := []

/-- `m_dropTrace`. -/
def drop (tagged : TaggedPacket) : Handling where
  transits := []
  delivered := []
  dropped := [tagged]

end Handling

/-- Everything that changes while the simulation runs. -/
structure RoutedState where
  virtualToPhysical : Ipv4Address → Option Ipv4Address
  /-- The addresses of the tunnel interface of a host. -/
  addresses : Nat → Nat → List Ipv4Address
  applications : Node → Option SwitchApplication
  hosts : Nat → Nat → HostState
  transits : List Transit
  /-- The number of packets that containers have sent. -/
  sent : Nat
  delivered : List Delivery
  dropped : List TaggedPacket
  lost : List Transit

/-- The next thing to happen, with the random numbers that it takes. -/
inductive RoutedAction where
  /-- A container on the host sends a packet. -/
  | send
      (leaf host : Nat)
      (source destination : Ipv4Address)
      (flowId : UInt32)
      (pick : Nat)
  /-- A packet reaches its node, or what is due for it happens. -/
  | handle (position : Nat) (draw : Bool) (pick learnPick : Nat)
  /-- A queue drops a packet. -/
  | lose (position : Nat)
  /-- `Migration` from the host, and `UpdateMappings` right after it. -/
  | migration (srcLeaf srcHost : Nat)
  /-- The controller installs what the solver has chosen for each switch. -/
  | querySwitches (chosen : Nat → Nat → Bool)

namespace RoutedState

/-- Change the application of a switch. -/
def setApplication
    (state : RoutedState)
    (node : Node)
    (application : SwitchApplication) :
    RoutedState :=
  { state with
    applications :=
      Function.update state.applications node (some application) }

@[simp]
theorem applications_setApplication_self
    (state : RoutedState)
    (node : Node)
    (application : SwitchApplication) :
    (state.setApplication node application).applications node =
      some application :=
  Function.update_self ..

theorem applications_setApplication_of_ne
    (state : RoutedState)
    {node other : Node}
    (isOther : other ≠ node)
    (application : SwitchApplication) :
    (state.setApplication node application).applications other =
      state.applications other :=
  Function.update_of_ne isOther ..

/-- Change the state of a host. -/
def setHost
    (state : RoutedState)
    (leaf host : Nat)
    (hostState : HostState) :
    RoutedState :=
  { state with
    hosts := fun otherLeaf otherHost =>
      if otherLeaf = leaf ∧ otherHost = host then
        hostState
      else
        state.hosts otherLeaf otherHost }

/-- Take a packet away and add what became of it. -/
def replace
    (state : RoutedState)
    (position : Nat)
    (handling : Handling) :
    RoutedState :=
  { state with
    transits := state.transits.eraseIdx position ++ handling.transits
    delivered := state.delivered ++ handling.delivered
    dropped := state.dropped ++ handling.dropped }

end RoutedState

/-- A simulation with its memory and `m_containerToId.size ()`. -/
structure RoutedSimulation extends TraceSimulation where
  memory : SwitchMemory
  containerCount : Nat

namespace RoutedSimulation

variable (sim : RoutedSimulation)

/-- The `SocketHelper` of a host. -/
def socketHelper (leaf host : Nat) : SocketHelper :=
  sim.setupApplications.socketHelper (sim.hostAddress leaf host)

/-! ## Sending -/

/-- A data packet leaves a node by one of its routes. -/
def output
    (node : Node)
    (tagged : TaggedPacket)
    (pick : Nat) :
    Handling :=
  match sim.routeOutput node tagged.destination pick with
  | some next => .send [.data next tagged]
  | none => .drop tagged

/-- `m_socket->SendTo` of a switch, which fails without a route. -/
def outputProtocol
    (node : Node)
    (packet : ProtocolPacket)
    (pick : Nat) :
    List Transit :=
  ((sim.routeOutput node packet.destination pick).map fun next =>
    .protocol next packet).toList

/-- `IpForward`. -/
def ipForward
    (node : Node)
    (tagged : TaggedPacket)
    (pick : Nat) :
    Handling :=
  if tagged.packet.outer.ttl - 1 = 0 then
    .drop tagged
  else
    sim.output node tagged.decrementTtl pick

/-- A send call of a host. -/
def perform
    (virtualToPhysical : Ipv4Address → Option Ipv4Address)
    (leaf host : Nat)
    (tagged : TaggedPacket)
    (call : SendCall)
    (pick : Nat) :
    Option Handling :=
  ((sim.socketHelper leaf host).perform virtualToPhysical tagged.packet
      call).map fun sent =>
    sim.output (.host leaf host) { tagged with packet := sent } pick

/-- `VirtualSend`: an immediate send call or a scheduled one. -/
def virtualSend
    (virtualToPhysical : Ipv4Address → Option Ipv4Address)
    (leaf host : Nat)
    (hostState : HostState)
    (tagged : TaggedPacket)
    (pick : Nat) :
    Option (HostState × Handling) :=
  let sending :=
    (sim.socketHelper leaf host).virtualSend hostState tagged.packet
  let marked := { tagged with packet := sending.packet }
  if sending.delayMicroseconds = 0 then
    (sim.perform virtualToPhysical leaf host marked sending.call pick).map
      fun handling => (sending.state, handling)
  else
    some
      (sending.state, .send [.scheduled leaf host marked sending.call])

/-! ## Receiving -/

/--
A switch hands a data packet to its application and then routes it.  No socket
of a switch takes data packets that are addressed to it.
-/
def receiveAtSwitch
    (application : SwitchApplication)
    (node : Node)
    (tagged : TaggedPacket)
    (draw : Bool)
    (pick learnPick : Nat) :
    Option (SwitchApplication × Handling) :=
  (application.receivePacket draw tagged.packet).map fun outcome =>
    let received := { tagged.incHops with packet := outcome.packet }
    let forwarded :=
      if sim.isLocal node received.destination then
        .drop received
      else
        sim.ipForward node received pick
    (outcome.application,
      { forwarded with
        transits :=
          forwarded.transits ++
            outcome.generated.flatMap fun packet =>
              sim.outputProtocol node packet learnPick })

/--
The raw socket of a gateway takes every packet.  Any other host unwraps what is
addressed to it, and hands it to its container or forwards it.
-/
def receiveAtHost
    (state : RoutedState)
    (leaf host : Nat)
    (tagged : TaggedPacket)
    (pick : Nat) :
    Option (HostState × Handling) :=
  let packet := tagged.packet
  let hostState := state.hosts leaf host
  if (leaf, host) ∈ sim.gws then
    (GatewayApp.receivePacket state.virtualToPhysical packet).map
      fun resolved =>
        (hostState,
          .send [.atGateway leaf host { tagged with packet := resolved }])
  else if tagged.destination = sim.hostAddress leaf host then
    let received :=
      (sim.socketHelper leaf host).socketRecv hostState packet
    if packet.inner.destination ∈ state.addresses leaf host then
      some (received, .deliver ⟨leaf, host, tagged⟩)
    else if packet.inner.ttl - 1 = 0 then
      some (received, .drop tagged)
    else
      sim.virtualSend state.virtualToPhysical leaf host received
        { tagged with
          packet :=
            { packet with
              inner := { packet.inner with ttl := packet.inner.ttl - 1 } } }
        pick
  else
    some (hostState, sim.ipForward (.host leaf host) tagged pick)

/-- What happens next to a packet, and what it changes. -/
def handle
    (state : RoutedState)
    (draw : Bool)
    (pick learnPick : Nat) :
    Transit → Option (RoutedState × Handling)
  | .data (.host leaf host) tagged =>
      (sim.receiveAtHost state leaf host tagged pick).map fun received =>
        (state.setHost leaf host received.1, received.2)
  | .data node tagged =>
      match state.applications node with
      | some application =>
          (sim.receiveAtSwitch application node tagged draw pick
              learnPick).map fun received =>
            (state.setApplication node received.1, received.2)
      | none => none
  | .protocol node packet =>
      match state.applications node with
      | some application =>
          (application.handleProtocolPacket packet).map fun handled =>
            (state.setApplication node handled.1,
              .send
                (handled.2.flatMap fun packet =>
                  sim.outputProtocol node packet pick))
      -- No host has a socket on `SWITCH_PORT`.
      | none => some (state, .send [])
  | .scheduled leaf host tagged call =>
      (sim.perform state.virtualToPhysical leaf host tagged call pick).map
        fun handling => (state, handling)
  | .atGateway leaf host tagged =>
      some
        (state,
          sim.output (.host leaf host)
            { tagged with packet := GatewayApp.sendPacket tagged.packet }
            pick)

/-- At a switch the application comes first. -/
theorem handle_switch
    {node : Node}
    (isSwitch : node.isSwitch = true)
    (state : RoutedState)
    (tagged : TaggedPacket)
    (draw : Bool)
    (pick learnPick : Nat) :
    sim.handle state draw pick learnPick (.data node tagged) =
      (state.applications node).bind fun application =>
        (sim.receiveAtSwitch application node tagged draw pick
            learnPick).map fun received =>
          (state.setApplication node received.1, received.2) := by
  cases node with
  | host leaf host => simp [Node.isSwitch] at isSwitch
  | leaf leaf => cases found : state.applications (.leaf leaf) <;>
      simp [handle, found]
  | spine spine => cases found : state.applications (.spine spine) <;>
      simp [handle, found]
  | core core => cases found : state.applications (.core core) <;>
      simp [handle, found]

/-! ## Steps -/

/-- A container's packet as it enters the tunnel interface. -/
def newPacket
    (state : RoutedState)
    (leaf host : Nat)
    (source destination : Ipv4Address)
    (flowId : UInt32) :
    TaggedPacket where
  uid := state.sent
  -- `ClientApp` adds the tag to UDP packets and `AddSocketTags` to TCP packets.
  hopsTag := some 0
  packet :=
    Network.freshPacket source destination flowId
      (some (sim.hostAddress leaf host))

/-- The container that moves. -/
def migratedContainer : Ipv4Address :=
  sim.setupApplications.migratedContainer

/-- `Migration` and `UpdateMappings`. -/
def migrate
    (state : RoutedState)
    (srcLeaf srcHost : Nat) :
    RoutedState :=
  let dstLeaf := sim.migrationParams.dstLeaf.toNat
  let dstHost := sim.migrationParams.dstHost.toNat
  let dummy :=
    IpUtils.getContainerVirtualAddress
      (UInt32.ofNat (sim.containerCount + 1))
  let removed := fun leaf host =>
    if leaf = srcLeaf ∧ host = srcHost then
      (state.addresses leaf host).erase sim.migratedContainer ++ [dummy]
    else
      state.addresses leaf host
  { state with
    addresses := fun leaf host =>
      if leaf = dstLeaf ∧ host = dstHost then
        removed leaf host ++ [sim.migratedContainer]
      else
        removed leaf host
    virtualToPhysical :=
      Function.update state.virtualToPhysical sim.migratedContainer
        (some sim.setupApplications.updateMappingsAddress) }

/-- A destination in the traffic matrix of some leaf. -/
def isActive (state : RoutedState) (destination : Ipv4Address) : Bool :=
  (List.range sim.leafCount).any fun leaf =>
    match state.applications (.leaf leaf) with
    | some (.switchApp _ _ members) =>
        members.trafficMatrix.entries.any fun entry =>
          entry.2.dstIp = destination
    | _ => false

/--
`QuerySwitches`: every switch gives its traffic matrix away and gets the plan
that the solver has chosen for its place in `m_switchApps`.
-/
def installPlans
    (state : RoutedState)
    (chosen : Nat → Nat → Bool) :
    RoutedState :=
  let switchApps := IlpControllerApp.switchApps sim.toSimulationBase
  { state with
    applications := fun node =>
      match state.applications node with
      | some (.switchApp gwAddresses switchMode members) =>
          let items :=
            IlpControllerApp.planItems sim.containerCount
              (fun container =>
                sim.isActive state (UInt32.ofNat container))
              (chosen (switchApps.idxOf node))
              (fun container =>
                (state.virtualToPhysical container).getD 0)
          some
            (.switchApp gwAddresses switchMode
              (members.getTrafficMatrix.2.bulkInsertToCache items))
      | application => application }

/-- One step of the simulation. -/
def step
    (state : RoutedState) :
    RoutedAction → Option RoutedState
  | .send leaf host source destination flowId pick =>
      if sim.HasNode (.host leaf host) ∧ (leaf, host) ∉ sim.gws ∧
          source ∈ state.addresses leaf host then
        (sim.virtualSend state.virtualToPhysical leaf host
            (state.hosts leaf host)
            (sim.newPacket state leaf host source destination flowId)
            pick).map fun sent =>
          { state.setHost leaf host sent.1 with
            transits := state.transits ++ sent.2.transits
            sent := state.sent + 1
            dropped := state.dropped ++ sent.2.dropped }
      else
        none
  | .handle position draw pick learnPick =>
      match state.transits[position]? with
      | some transit =>
          (sim.handle state draw pick learnPick transit).map fun handled =>
            handled.1.replace position handled.2
      | none => none
  | .lose position =>
      match state.transits[position]? with
      | some transit =>
          some
            { state with
              transits := state.transits.eraseIdx position
              lost := state.lost ++ [transit] }
      | none => none
  | .migration srcLeaf srcHost =>
      -- In on-demand mode `UpdateMappings` is a millisecond late.
      if sim.migrationParams.migration ∧
          sim.simParameters.simMode ≠ .onDemand ∧
          sim.migratedContainer ∈ state.addresses srcLeaf srcHost then
        some (sim.migrate state srcLeaf srcHost)
      else
        none
  | .querySwitches chosen =>
      if sim.simParameters.simMode = .controller then
        some (sim.installPlans state chosen)
      else
        none

/-- What a step does if it is possible, one case for each action. -/
inductive Steps (state : RoutedState) :
    RoutedAction → RoutedState → Prop
  | send
      {leaf host pick : Nat}
      {source destination : Ipv4Address}
      {flowId : UInt32}
      {sent : HostState × Handling}
      (present : sim.HasNode (.host leaf host))
      (server : (leaf, host) ∉ sim.gws)
      (isHere : source ∈ state.addresses leaf host)
      (sends :
        sim.virtualSend state.virtualToPhysical leaf host
            (state.hosts leaf host)
            (sim.newPacket state leaf host source destination flowId)
            pick =
          some sent) :
      Steps state (.send leaf host source destination flowId pick)
        { state.setHost leaf host sent.1 with
          transits := state.transits ++ sent.2.transits
          sent := state.sent + 1
          dropped := state.dropped ++ sent.2.dropped }
  | handle
      {position pick learnPick : Nat}
      {draw : Bool}
      {transit : Transit}
      {handled : RoutedState × Handling}
      (found : state.transits[position]? = some transit)
      (handles :
        sim.handle state draw pick learnPick transit = some handled) :
      Steps state (.handle position draw pick learnPick)
        (handled.1.replace position handled.2)
  | lose
      {position : Nat}
      {transit : Transit}
      (found : state.transits[position]? = some transit) :
      Steps state (.lose position)
        { state with
          transits := state.transits.eraseIdx position
          lost := state.lost ++ [transit] }
  | migration
      {srcLeaf srcHost : Nat}
      (isHere : sim.migratedContainer ∈ state.addresses srcLeaf srcHost) :
      Steps state (.migration srcLeaf srcHost)
        (sim.migrate state srcLeaf srcHost)
  | querySwitches
      {chosen : Nat → Nat → Bool}
      (controller : sim.simParameters.simMode = .controller) :
      Steps state (.querySwitches chosen) (sim.installPlans state chosen)

theorem steps_of_step
    {state next : RoutedState}
    {action : RoutedAction}
    (stepped : sim.step state action = some next) :
    sim.Steps state action next := by
  cases action with
  | send leaf host source destination flowId pick =>
      obtain ⟨⟨present, server, isHere⟩, isNext⟩ :=
        Option.ite_none_right_eq_some.mp stepped
      obtain ⟨sent, sends, rfl⟩ := Option.map_eq_some_iff.mp isNext
      exact .send present server isHere sends
  | handle position draw pick learnPick =>
      unfold step at stepped
      cases found : state.transits[position]? with
      | none => simp [found] at stepped
      | some transit =>
          simp only [found, Option.map_eq_some_iff] at stepped
          obtain ⟨handled, handles, rfl⟩ := stepped
          exact .handle found handles
  | lose position =>
      unfold step at stepped
      cases found : state.transits[position]? with
      | none => simp [found] at stepped
      | some transit =>
          simp only [found, Option.some.injEq] at stepped
          subst stepped
          exact .lose found
  | migration srcLeaf srcHost =>
      obtain ⟨⟨_, _, isHere⟩, isNext⟩ :=
        Option.ite_none_right_eq_some.mp stepped
      rw [← Option.some.inj isNext]
      exact .migration isHere
  | querySwitches chosen =>
      obtain ⟨controller, isNext⟩ :=
        Option.ite_none_right_eq_some.mp stepped
      rw [← Option.some.inj isNext]
      exact .querySwitches controller

/-- The simulation as a transition system. -/
def system : TransitionSystem RoutedState RoutedAction where
  step := sim.step

/-- The state after the setup of all nodes. -/
def start
    (virtualToPhysical : Ipv4Address → Option Ipv4Address)
    (addresses : Nat → Nat → List Ipv4Address) :
    RoutedState where
  virtualToPhysical := virtualToPhysical
  addresses := addresses
  applications := sim.applicationAt sim.memory
  hosts := fun _ _ => { onDemandCache := [], firstPacket := true }
  transits := []
  sent := 0
  delivered := []
  dropped := []
  lost := []

/-! ## An example -/

/--
Two pods of two leaves with one host each.  The gateway is below leaf 0, each
other host has the container with the number of its leaf, and container 3 is
the one that may move, from leaf 3 to leaf 2.
-/
def pods (simMode : Mode) : RoutedSimulation where
  toSimulationBase :=
    { FlowPaths.gatewayPods with
      simParameters :=
        { FlowPaths.gatewayPods.simParameters with simMode := simMode } }
  migrationParams :=
    { migration := true
      containerId := 3
      dstLeaf := 2
      dstHost := 0 }
  attributes := { sourceLearning := true }
  gatewayRange := 4
  crc32 := fun _ => 0
  memory :=
    { memorySize := 1
      memorySize_pos := Nat.one_pos
      hash := fun _ _ => 0
      heap := fun _ _ => 0 }
  containerCount := 4

namespace pods

/-- The full mapping of the two pods. -/
def virtualToPhysical (container : Ipv4Address) : Option Ipv4Address :=
  if 0 < container ∧ container < 4 then
    some (FlowPaths.gatewayPods.hostAddress container.toNat 0)
  else
    none

/-- The containers of a host. -/
def addresses (leaf host : Nat) : List Ipv4Address :=
  if 0 < leaf ∧ leaf < 4 ∧ host = 0 then [UInt32.ofNat leaf] else []

/-- The first state of the two pods. -/
def start (simMode : Mode) : RoutedState :=
  (pods simMode).start virtualToPhysical addresses

/-- Container 1 sends a packet to container 3, which then arrives. -/
def resolve : List RoutedAction :=
  .send 1 0 1 3 7 0 :: List.replicate 11 (.handle 0 false 0 0)

/-- The container moves, and the next packet is redirected to its old host. -/
def resend : List RoutedAction :=
  resolve ++ .migration 3 0 :: .send 1 0 1 3 7 0 ::
    List.replicate 20 (.handle 0 false 0 0)

end pods

end RoutedSimulation

end SwitchV2P
