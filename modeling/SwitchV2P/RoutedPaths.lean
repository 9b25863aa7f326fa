import SwitchV2P.RoutedNetwork
import SwitchV2P.SwitchTraffic

namespace SwitchV2P

/-!
# How far a packet has to go

A packet for a gateway has at most five links to go there and five from there
to a host; a redirection only takes the gateway out of its way.  From this come
a bound on its hops, the TTL that it has left, and a bound on the work that it
still causes, protocol packets included.
-/

namespace TaggedPacket

/-- `HopsTag::GetHops`, and no hops without the tag. -/
def getHops (tagged : TaggedPacket) : Nat :=
  (tagged.hopsTag.map UInt32.toNat).getD 0

theorem getHops_incHops (tagged : TaggedPacket) :
    tagged.incHops.getHops ≤ tagged.getHops + 1 := by
  unfold getHops incHops
  cases tagged.hopsTag with
  | none => exact Nat.zero_le 1
  | some hops =>
      dsimp only [Option.map_some, Option.getD_some]
      rw [UInt32.toNat_add]
      exact Nat.mod_le _ _

end TaggedPacket

namespace RoutedSimulation

variable (sim : RoutedSimulation)

/-- What the deployment of nodes has to satisfy. -/
structure Sound : Prop where
  routable : sim.Routable
  placed : FlowPaths.GatewaysPlaced sim.toSimulationBase
  gateways : sim.gws ≠ []

/-- The address of some host. -/
def IsHost (address : Ipv4Address) : Prop :=
  ∃ leaf host, sim.GoesBy address (.host leaf host)

/-- The address of a host without a gateway. -/
structure IsServer (address : Ipv4Address) : Prop where
  isHost : sim.IsHost address
  noGateway : address ∉ sim.gwAddresses

/-- The container is on a host without a gateway. -/
def OnServer
    (virtualToPhysical : Ipv4Address → Option Ipv4Address)
    (container : Ipv4Address) :
    Prop :=
  ∃ address, virtualToPhysical container = some address ∧
    sim.IsServer address

/-- Is the gateway still ahead? -/
def gatewaysAhead (address : Ipv4Address) : Nat :=
  if address ∈ sim.gwAddresses then 1 else 0

/-- The links to go, and those from the gateway on. -/
noncomputable def linksAhead
    (node : Node)
    (address : Ipv4Address) :
    Nat :=
  sim.linksTo address node + 5 * sim.gatewaysAhead address

/-- What holds of a container's packet, wherever it is. -/
structure Routine
    (virtualToPhysical : Ipv4Address → Option Ipv4Address)
    (limit : Nat)
    (packet : DataPacket) :
    Prop where
  misdeliveries : packet.misdeliveries ≤ limit
  container : sim.OnServer virtualToPhysical packet.inner.destination
  sender :
    ∃ leaf host, sim.HasNode (.host leaf host) ∧
      packet.sourceTag = some (sim.hostAddress leaf host)
  hits :
    ∀ hitTag ∈ packet.hitTag.tags,
      ∃ node, node.isSwitch = true ∧ sim.GoesBy hitTag.address node

/--
The hops that a packet may still make: each misdelivery takes it to a gateway
once more.
-/
def HopsLeft (limit ahead : Nat) (tagged : TaggedPacket) : Prop :=
  tagged.getHops + ahead +
      10 * (limit - tagged.packet.misdeliveries) ≤
    10 * (limit + 1)

/-- A packet on its way to a host, which is the only one that it reaches. -/
structure OnTheWay
    (virtualToPhysical : Ipv4Address → Option Ipv4Address)
    (limit : Nat)
    (node : Node)
    (tagged : TaggedPacket) :
    Prop where
  routine : sim.Routine virtualToPhysical limit tagged.packet
  present : sim.HasNode node
  target :
    ∃ leaf host, sim.GoesBy tagged.destination (.host leaf host) ∧
      (node.isSwitch = false → .host leaf host = node)
  reaches : sim.Reaches tagged.destination node
  hops : HopsLeft limit (sim.linksAhead node tagged.destination) tagged
  ttl :
    sim.linksAhead node tagged.destination + 54 ≤
      tagged.packet.outer.ttl.toNat

/-- A protocol packet on its way to a switch. -/
structure ProtocolOnTheWay
    (node : Node)
    (packet : ProtocolPacket) :
    Prop where
  mode : sim.simParameters.simMode = .switchV2P
  present : sim.HasNode node
  isSwitch : node.isSwitch = true
  target :
    ∃ target, target.isSwitch = true ∧
      sim.GoesBy packet.destination target
  reaches : sim.Reaches packet.destination node

/-- A send call that finds its gateway or its host. -/
def Callable : SendCall → Prop
  | .sendToGateway gwIdx => gwIdx < sim.gws.length
  | .sendFollowMeRule true =>
      sim.IsServer sim.setupApplications.followMeAddress
  | .sendFollowMeRule false => True

/-- A packet that its host is about to send. -/
structure ToBeSent
    (virtualToPhysical : Ipv4Address → Option Ipv4Address)
    (limit leaf host : Nat)
    (tagged : TaggedPacket)
    (call : SendCall) :
    Prop where
  routine : sim.Routine virtualToPhysical limit tagged.packet
  present : sim.HasNode (.host leaf host)
  callable : sim.Callable call
  hops : HopsLeft limit 10 tagged

/-- A packet that its gateway is about to send. -/
structure Resolved
    (virtualToPhysical : Ipv4Address → Option Ipv4Address)
    (limit leaf host : Nat)
    (tagged : TaggedPacket) :
    Prop where
  routine : sim.Routine virtualToPhysical limit tagged.packet
  present : sim.HasNode (.host leaf host)
  server : sim.IsServer tagged.destination
  hops : HopsLeft limit 5 tagged
  ttl : 59 ≤ tagged.packet.outer.ttl.toNat

/-- What holds of a packet in transit. -/
def Placed
    (virtualToPhysical : Ipv4Address → Option Ipv4Address)
    (limit : Nat) :
    Transit → Prop
  | .data node tagged =>
      sim.OnTheWay virtualToPhysical limit node tagged
  | .protocol node packet => sim.ProtocolOnTheWay node packet
  | .scheduled leaf host tagged call =>
      sim.ToBeSent virtualToPhysical limit leaf host tagged call
  | .atGateway leaf host tagged =>
      sim.Resolved virtualToPhysical limit leaf host tagged

/--
The work that a packet may still cause.  A switch may generate a protocol
packet for each data packet, and that packet has five links to go as well.
-/
noncomputable def workLeft (limit : Nat) : Transit → Nat
  | .data node tagged =>
      7 * sim.linksTo tagged.destination node + 1 +
        37 * sim.gatewaysAhead tagged.destination +
          74 * (limit - tagged.packet.misdeliveries)
  | .protocol node packet => sim.linksTo packet.destination node + 1
  | .scheduled _ _ tagged _ =>
      74 + 74 * (limit - tagged.packet.misdeliveries)
  | .atGateway _ _ tagged =>
      37 + 74 * (limit - tagged.packet.misdeliveries)

/-- The work that a list of packets may still cause. -/
noncomputable def totalWork
    (limit : Nat)
    (transits : List Transit) :
    Nat :=
  (transits.map (sim.workLeft limit)).sum

variable
  {sim : RoutedSimulation}
  {virtualToPhysical : Ipv4Address → Option Ipv4Address}
  {limit : Nat}

/-! ## Hosts -/

/-- A gateway address is the address of a host. -/
theorem Sound.isHost_gateway
    (sound : sim.Sound)
    {address : Ipv4Address}
    (isGateway : address ∈ sim.gwAddresses) :
    sim.IsHost address := by
  obtain ⟨gw, member, rfl⟩ := List.mem_map.mp isGateway
  exact ⟨gw.1, gw.2, sound.placed gw member, rfl⟩

/-- A host has the address of a gateway only if it is one. -/
theorem Sound.mem_gws_iff
    (sound : sim.Sound)
    {leaf host : Nat}
    (present : sim.HasNode (.host leaf host)) :
    (leaf, host) ∈ sim.gws ↔
      sim.hostAddress leaf host ∈ sim.gwAddresses := by
  constructor
  · intro member
    exact List.mem_map.mpr ⟨(leaf, host), member, rfl⟩
  · intro member
    obtain ⟨gw, isGw, same⟩ := List.mem_map.mp member
    have equal :=
      sound.routable.unique ⟨sound.placed gw isGw, same⟩
        (⟨present, rfl⟩ :
          sim.GoesBy (sim.hostAddress leaf host) (.host leaf host))
    obtain ⟨sameLeaf, sameHost⟩ := Node.host.inj equal
    rw [← sameLeaf, ← sameHost]
    exact isGw

theorem gatewaysAhead_le (address : Ipv4Address) :
    sim.gatewaysAhead address ≤ 1 := by
  unfold gatewaysAhead
  split
  · exact Nat.le_refl 1
  · exact Nat.zero_le 1

/-- No gateway is ahead of a server. -/
theorem IsServer.gatewaysAhead
    {address : Ipv4Address}
    (server : sim.IsServer address) :
    sim.gatewaysAhead address = 0 :=
  if_neg server.noGateway

/-- What a host sends arrives at its leaf. -/
theorem Sound.output_host
    (sound : sim.Sound)
    {leaf host : Nat}
    (present : sim.HasNode (.host leaf host))
    {tagged : TaggedPacket}
    (isHost : sim.IsHost tagged.destination)
    (pick : Nat) :
    sim.output (.host leaf host) tagged pick =
      .send [.data (.leaf leaf) tagged] := by
  obtain ⟨otherLeaf, other, goesBy⟩ := isHost
  rw [output, sound.routable.routeOutput_host present goesBy]

/-- At the leaf it is on its way. -/
theorem Sound.onTheWay_leaf
    (sound : sim.Sound)
    {leaf host : Nat}
    (present : sim.HasNode (.host leaf host))
    {tagged : TaggedPacket}
    (routine : sim.Routine virtualToPhysical limit tagged.packet)
    (isHost : sim.IsHost tagged.destination)
    (hops :
      HopsLeft limit (5 + 5 * sim.gatewaysAhead tagged.destination) tagged)
    (ttl :
      5 + 5 * sim.gatewaysAhead tagged.destination + 54 ≤
        tagged.packet.outer.ttl.toNat) :
    sim.OnTheWay virtualToPhysical limit (.leaf leaf) tagged ∧
      sim.linksTo tagged.destination (.leaf leaf) ≤ 5 := by
  obtain ⟨otherLeaf, other, goesBy⟩ := isHost
  obtain ⟨reaches, near⟩ := sound.routable.reaches_of_leaf present.1 goesBy
  refine
    ⟨{ routine := routine
       present := present.1
       target := ⟨otherLeaf, other, goesBy, fun notSwitch => ?_⟩
       reaches := reaches
       hops := ?_
       ttl := ?_ }, near⟩
  · simp [Node.isSwitch] at notSwitch
  · unfold HopsLeft at hops ⊢
    unfold linksAhead
    omega
  · unfold linksAhead
    omega

/-! ## Send calls -/

theorem Sound.getGatewayIdx_lt
    (sound : sim.Sound)
    (leaf host : Nat)
    (packet : DataPacket) :
    (sim.socketHelper leaf host).getGatewayIdx packet < sim.gws.length := by
  have count :
      (sim.socketHelper leaf host).gatewayAddresses.length =
        sim.gws.length :=
    List.length_map _
  have some := List.length_pos_of_ne_nil sound.gateways
  unfold SocketHelper.getGatewayIdx
  rw [count]
  split
  · exact Nat.mod_lt _ some
  · omega

/-- Every send call addresses a host. -/
theorem Sound.exists_perform
    (sound : sim.Sound)
    {call : SendCall}
    (callable : sim.Callable call)
    {packet : DataPacket}
    (container :
      sim.OnServer virtualToPhysical packet.inner.destination)
    (leaf host : Nat) :
    ∃ address, sim.IsHost address ∧
      (sim.socketHelper leaf host).perform virtualToPhysical packet call =
        some ((sim.socketHelper leaf host).sendTo packet address) := by
  cases call with
  | sendToGateway gwIdx =>
      have inside :
          gwIdx < (sim.socketHelper leaf host).gatewayAddresses.length :=
        Nat.lt_of_lt_of_eq callable (List.length_map _).symm
      refine ⟨_, sound.isHost_gateway (List.getElem_mem inside), ?_⟩
      rw [SocketHelper.perform, List.getElem?_eq_getElem inside]
      rfl
  | sendFollowMeRule misdelivery =>
      cases misdelivery with
      | true => exact ⟨_, callable.isHost, rfl⟩
      | false =>
          obtain ⟨address, located, server⟩ := container
          refine ⟨address, server.isHost, ?_⟩
          rw [SocketHelper.perform, located]
          rfl

/-- What is due is sent, and it is on its way then. -/
theorem ToBeSent.perform
    {leaf host : Nat}
    {tagged : TaggedPacket}
    {call : SendCall}
    (due :
      sim.ToBeSent virtualToPhysical limit leaf host tagged call)
    (sound : sim.Sound)
    (pick : Nat) :
    ∃ sent,
      sim.perform virtualToPhysical leaf host tagged call pick =
          some (.send [.data (.leaf leaf) sent]) ∧
        sim.OnTheWay virtualToPhysical limit (.leaf leaf) sent ∧
        sim.workLeft limit (.data (.leaf leaf) sent) <
          74 + 74 * (limit - tagged.packet.misdeliveries) := by
  obtain ⟨address, isHost, performed⟩ :=
    sound.exists_perform due.callable due.routine.container leaf host
  have hops := due.hops
  have gateways := sim.gatewaysAhead_le address
  let sent : TaggedPacket :=
    { tagged with
      packet := (sim.socketHelper leaf host).sendTo tagged.packet address }
  have routine : sim.Routine virtualToPhysical limit sent.packet :=
    ⟨due.routine.misdeliveries, due.routine.container,
      due.routine.sender, due.routine.hits⟩
  have toHost : sim.IsHost sent.destination := isHost
  obtain ⟨onTheWay, near⟩ :=
    sound.onTheWay_leaf due.present routine toHost
      (by
        unfold HopsLeft at hops ⊢
        change tagged.getHops + (5 + 5 * sim.gatewaysAhead address) +
          10 * (limit - tagged.packet.misdeliveries) ≤ _
        omega)
      (by
        change 5 + 5 * sim.gatewaysAhead address + 54 ≤ 64
        omega)
  refine ⟨sent, ?_, onTheWay, ?_⟩
  · rw [RoutedSimulation.perform, performed, Option.map_some,
      sound.output_host due.present toHost]
  · change
      7 * sim.linksTo address (.leaf leaf) + 1 +
          37 * sim.gatewaysAhead address +
            74 * (limit - tagged.packet.misdeliveries) < _
    change sim.linksTo address (.leaf leaf) ≤ 5 at near
    omega

/-- A host marks a misdelivered packet and will send it once more. -/
theorem Sound.virtualSend_misdelivered
    (sound : sim.Sound)
    {leaf host : Nat}
    (present : sim.HasNode (.host leaf host))
    {tagged : TaggedPacket}
    (routine : sim.Routine virtualToPhysical limit tagged.packet)
    (misses : tagged.packet.misdeliveries < limit)
    (forwarded : tagged.packet.inner.ttl < 64)
    (follows :
      tagged.packet.hitTag.peek = none →
        sim.IsServer sim.setupApplications.followMeAddress)
    (hops : HopsLeft limit 0 tagged)
    (hostState : HostState)
    (pick : Nat) :
    ∃ hostState' marked call,
      sim.virtualSend virtualToPhysical leaf host hostState tagged pick =
          some (hostState', .send [.scheduled leaf host marked call]) ∧
        sim.ToBeSent virtualToPhysical limit leaf host marked call ∧
        marked.packet.misdeliveries =
          tagged.packet.misdeliveries + 1 := by
  obtain ⟨state, resent⟩ :=
    (sim.socketHelper leaf host).virtualSend_of_ttl_lt hostState forwarded
  let sending :=
    (sim.socketHelper leaf host).resendMisdelivered state tagged.packet
  refine
    ⟨sending.state, { tagged with packet := sending.packet }, sending.call,
      ?_, ?_, rfl⟩
  · unfold RoutedSimulation.virtualSend
    dsimp only
    rw [resent]
    rfl
  · refine
      { routine :=
          ⟨misses, routine.container, routine.sender, routine.hits⟩
        present := present
        callable := ?_
        hops := ?_ }
    · change sim.Callable (if _ then _ else _)
      split
      next redirected => exact sound.getGatewayIdx_lt leaf host _
      next unredirected =>
        exact follows (Option.not_isSome_iff_eq_none.mp unredirected)
    · unfold HopsLeft at hops ⊢
      change tagged.getHops + 10 +
        10 * (limit - (tagged.packet.misdeliveries + 1)) ≤ _
      omega

/-- A container's packet is sent at once, or soon. -/
theorem Sound.virtualSend_fresh
    (sound : sim.Sound)
    {leaf host : Nat}
    (present : sim.HasNode (.host leaf host))
    {tagged : TaggedPacket}
    (routine : sim.Routine virtualToPhysical limit tagged.packet)
    (fresh : ¬ tagged.packet.inner.ttl < 64)
    (hops : HopsLeft limit 10 tagged)
    (hostState : HostState)
    (pick : Nat) :
    ∃ hostState' transit,
      sim.virtualSend virtualToPhysical leaf host hostState tagged pick =
          some (hostState', .send [transit]) ∧
        sim.Placed virtualToPhysical limit transit ∧
        sim.workLeft limit transit ≤
          74 + 74 * (limit - tagged.packet.misdeliveries) := by
  obtain ⟨hostState', call, delay, sending, chosen⟩ :=
    (sim.socketHelper leaf host).exists_virtualSend hostState fresh
  have callable : sim.Callable call := by
    rcases chosen with rfl | rfl
    · trivial
    · exact sound.getGatewayIdx_lt leaf host tagged.packet
  have due :
      sim.ToBeSent virtualToPhysical limit leaf host tagged call :=
    ⟨routine, present, callable, hops⟩
  unfold RoutedSimulation.virtualSend
  dsimp only
  rw [sending]
  dsimp only
  split
  next =>
    obtain ⟨sent, performed, onTheWay, work⟩ := due.perform sound pick
    refine
      ⟨hostState', .data (.leaf leaf) sent, ?_, onTheWay,
        Nat.le_of_lt work⟩
    change (sim.perform _ leaf host tagged call pick).map _ = _
    rw [performed]
    rfl
  next => exact ⟨hostState', _, rfl, due, Nat.le_refl _⟩

end RoutedSimulation

end SwitchV2P
