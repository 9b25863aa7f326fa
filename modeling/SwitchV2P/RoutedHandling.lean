import SwitchV2P.RoutedPaths

namespace SwitchV2P.RoutedSimulation

/-!
# What becomes of a packet on its way

A packet on its way is never dropped and never stuck: whatever node it is at
sends it on, keeps it for a moment or delivers it, and each of these leaves
less work than there was.
-/

variable {sim : RoutedSimulation}

/-- The outcome of one packet at one node. -/
structure Proceeds
    (sim : RoutedSimulation)
    (virtualToPhysical : Ipv4Address → Option Ipv4Address)
    (addresses : Nat → Nat → List Ipv4Address)
    (limit : Nat)
    (transit : Transit)
    (handling : Handling) :
    Prop where
  placed :
    ∀ after ∈ handling.transits, sim.Placed virtualToPhysical limit after
  work :
    sim.totalWork limit handling.transits < sim.workLeft limit transit
  delivered :
    ∀ delivery ∈ handling.delivered,
      transit = .data (.host delivery.leaf delivery.host) delivery.tagged ∧
        (delivery.leaf, delivery.host) ∉ sim.gws ∧
        delivery.tagged.packet.inner.destination ∈
          addresses delivery.leaf delivery.host
  undropped : handling.dropped = []

/-- What the application of a switch makes of a data packet. -/
structure Relays
    (sim : RoutedSimulation)
    (node : Node)
    (packet : DataPacket)
    (outcome : ApplicationOutcome) :
    Prop where
  same : SwitchConfig.SamePacket packet outcome.packet
  redirected :
    outcome.packet.outer.destination = packet.outer.destination ∨
      (packet.outer.destination ∈ sim.gwAddresses ∧
        sim.IsServer outcome.packet.outer.destination)
  hits :
    ∀ hitTag ∈ outcome.packet.hitTag.tags,
      hitTag ∈ packet.hitTag.tags ∨
        hitTag.address = sim.nodeAddress node
  few : outcome.generated.length ≤ 1
  addressed :
    ∀ protocol ∈ outcome.generated,
      sim.simParameters.simMode = .switchV2P ∧
        (∃ leaf, node = .leaf leaf) ∧
        ∃ target, target.isSwitch = true ∧ target ≠ node ∧
          sim.GoesBy protocol.destination target

variable
  {virtualToPhysical : Ipv4Address → Option Ipv4Address}
  {addresses : Nat → Nat → List Ipv4Address}
  {limit : Nat}

@[simp] theorem totalWork_nil : sim.totalWork limit [] = 0 :=
  rfl

@[simp] theorem totalWork_cons (transit : Transit) (rest : List Transit) :
    sim.totalWork limit (transit :: rest) =
      sim.workLeft limit transit + sim.totalWork limit rest := by
  simp [totalWork]

@[simp] theorem totalWork_append (first second : List Transit) :
    sim.totalWork limit (first ++ second) =
      sim.totalWork limit first + sim.totalWork limit second := by
  simp [totalWork]

/-- One packet that causes less work follows. -/
theorem Proceeds.of_send
    {transit after : Transit}
    (placed : sim.Placed virtualToPhysical limit after)
    (work : sim.workLeft limit after < sim.workLeft limit transit) :
    sim.Proceeds virtualToPhysical addresses limit transit
      (.send [after]) where
  placed := fun other member => by
    rw [List.mem_singleton.mp member]
    exact placed
  work := by
    change sim.totalWork limit [after] < _
    rw [totalWork_cons, totalWork_nil]
    exact work
  delivered := fun _ member => absurd member List.not_mem_nil
  undropped := rfl

/-! ## At a gateway -/

/-- The gateway sends the packet to a host. -/
theorem Resolved.proceeds
    {leaf host : Nat}
    {tagged : TaggedPacket}
    (resolved :
      sim.Resolved virtualToPhysical limit leaf host tagged)
    (sound : sim.Sound)
    (pick : Nat) :
    sim.Proceeds virtualToPhysical addresses limit
      (.atGateway leaf host tagged)
      (sim.output (.host leaf host)
        { tagged with packet := GatewayApp.sendPacket tagged.packet }
        pick) := by
  let sent : TaggedPacket :=
    { tagged with packet := GatewayApp.sendPacket tagged.packet }
  have noGateway := resolved.server.gatewaysAhead
  have hops := resolved.hops
  have ttl := resolved.ttl
  have routine : sim.Routine virtualToPhysical limit sent.packet :=
    ⟨resolved.routine.misdeliveries, resolved.routine.container,
      resolved.routine.sender, resolved.routine.hits⟩
  have isHost : sim.IsHost sent.destination := resolved.server.isHost
  obtain ⟨onTheWay, near⟩ :=
    sound.onTheWay_leaf resolved.present routine isHost
      (by
        change HopsLeft limit
          (5 + 5 * sim.gatewaysAhead tagged.destination) tagged
        rw [noGateway]
        exact hops)
      (by
        change 5 + 5 * sim.gatewaysAhead tagged.destination + 54 ≤
          tagged.packet.outer.ttl.toNat
        rw [noGateway]
        exact ttl)
  rw [sound.output_host resolved.present isHost]
  refine .of_send onTheWay ?_
  change
    7 * sim.linksTo tagged.destination (.leaf leaf) + 1 +
        37 * sim.gatewaysAhead tagged.destination +
          74 * (limit - tagged.packet.misdeliveries) < _
  change sim.linksTo tagged.destination (.leaf leaf) ≤ 5 at near
  rw [noGateway]
  change _ < 37 + 74 * (limit - tagged.packet.misdeliveries)
  omega

/-! ## At a host -/

/-- A packet at a host is for that host. -/
theorem OnTheWay.destination_eq
    {leaf host : Nat}
    {tagged : TaggedPacket}
    (onTheWay :
      sim.OnTheWay virtualToPhysical limit (.host leaf host) tagged) :
    tagged.destination = sim.hostAddress leaf host := by
  obtain ⟨otherLeaf, other, goesBy, here⟩ := onTheWay.target
  have same := goesBy.2
  rw [here rfl] at same
  exact same.symm

/-- The host delivers the packet, resolves it or sends it on. -/
theorem OnTheWay.receiveAtHost
    {leaf host : Nat}
    {tagged : TaggedPacket}
    {state : RoutedState}
    (onTheWay :
      sim.OnTheWay state.virtualToPhysical limit (.host leaf host) tagged)
    (sound : sim.Sound)
    (misdelivered :
      (leaf, host) ∉ sim.gws →
      tagged.packet.inner.destination ∉ state.addresses leaf host →
        tagged.packet.misdeliveries < limit ∧
          tagged.packet.inner.ttl = 64 ∧
          (tagged.packet.hitTag.peek = none →
            sim.IsServer sim.setupApplications.followMeAddress))
    (pick : Nat) :
    ∃ received, sim.receiveAtHost state leaf host tagged pick =
        some received ∧
      sim.Proceeds state.virtualToPhysical state.addresses limit
        (.data (.host leaf host) tagged) received.2 := by
  have here := onTheWay.destination_eq
  have hops := onTheWay.hops
  have ttl := onTheWay.ttl
  obtain ⟨misdeliveries, ⟨address, located, server⟩, sender, hits⟩ :=
    onTheWay.routine
  unfold RoutedSimulation.receiveAtHost
  dsimp only
  rw [if_pos here]
  split
  next isGateway =>
    have ahead : sim.gatewaysAhead tagged.destination = 1 := by
      rw [here]
      exact if_pos ((sound.mem_gws_iff onTheWay.present).mp isGateway)
    rw [GatewayApp.receivePacket, located]
    refine ⟨_, rfl, .of_send ?_ ?_⟩
    · unfold linksAhead at hops ttl
      rw [ahead] at hops ttl
      refine
        { routine := ⟨misdeliveries, ⟨address, located, server⟩, sender,
            hits⟩
          present := onTheWay.present
          server := server
          hops := ?_
          ttl := ?_ }
      · unfold HopsLeft at hops ⊢
        change tagged.getHops + 5 +
          10 * (limit - tagged.packet.misdeliveries) ≤ _
        omega
      · change 59 ≤ tagged.packet.outer.ttl.toNat
        omega
    · change
        37 + 74 * (limit - tagged.packet.misdeliveries) <
          7 * sim.linksTo tagged.destination (.host leaf host) + 1 +
            37 * sim.gatewaysAhead tagged.destination +
              74 * (limit - tagged.packet.misdeliveries)
      omega
  next isServer =>
    split
    next isHere =>
      refine ⟨_, rfl, ?_⟩
      refine
        { placed := fun _ member => absurd member List.not_mem_nil
          work := ?_
          delivered := fun delivery member => ?_
          undropped := rfl }
      · change
          0 < 7 * sim.linksTo tagged.destination (.host leaf host) + 1 +
            37 * sim.gatewaysAhead tagged.destination +
              74 * (limit - tagged.packet.misdeliveries)
        omega
      · rw [List.mem_singleton.mp member]
        exact ⟨rfl, isServer, isHere⟩
    next elsewhere =>
      obtain ⟨misses, fullTtl, follows⟩ := misdelivered isServer elsewhere
      rw [fullTtl, if_neg (by decide)]
      have forwarded : (64 - 1 : UInt8) < 64 := by decide
      let unwrapped : TaggedPacket :=
        { tagged with
          packet :=
            { tagged.packet with
              inner := { tagged.packet.inner with ttl := 64 - 1 } } }
      have routine :
          sim.Routine state.virtualToPhysical limit unwrapped.packet :=
        ⟨misdeliveries, ⟨address, located, server⟩, sender, hits⟩
      obtain ⟨hostState, marked, call, sends, due, once⟩ :=
        sound.virtualSend_misdelivered onTheWay.present routine misses
          forwarded follows
          (by
            unfold HopsLeft at hops ⊢
            change tagged.getHops + 0 +
              10 * (limit - tagged.packet.misdeliveries) ≤ _
            omega)
          ((sim.socketHelper leaf host).socketRecv
            (state.hosts leaf host) tagged.packet)
          pick
      refine ⟨_, sends, .of_send due ?_⟩
      change
        74 + 74 * (limit - marked.packet.misdeliveries) <
          7 * sim.linksTo tagged.destination (.host leaf host) + 1 +
            37 * sim.gatewaysAhead tagged.destination +
              74 * (limit - tagged.packet.misdeliveries)
      change marked.packet.misdeliveries =
        tagged.packet.misdeliveries + 1 at once
      omega

/-! ## At a switch -/

/-- A packet of a switch to another one takes one of its routes. -/
theorem Sound.outputProtocol
    (sound : sim.Sound)
    (mode : sim.simParameters.simMode = .switchV2P)
    {node : Node}
    (present : sim.HasNode node)
    {packet : ProtocolPacket}
    {target : Node}
    (isSwitch : target.isSwitch = true)
    (elsewhere : target ≠ node)
    (goesBy : sim.GoesBy packet.destination target)
    (reaches : sim.Reaches packet.destination node)
    (pick : Nat) :
    ∃ next, sim.outputProtocol node packet pick = [.protocol next packet] ∧
      sim.ProtocolOnTheWay next packet ∧
      sim.linksTo packet.destination next <
        sim.linksTo packet.destination node := by
  obtain ⟨next, routed, nextPresent, later, closer, onlyTarget⟩ :=
    sound.routable.exists_routeOutput present goesBy elsewhere reaches pick
  refine ⟨next, ?_, ?_, closer⟩
  · rw [RoutedSimulation.outputProtocol, routed]
    rfl
  · refine ⟨mode, nextPresent, ?_, ⟨target, isSwitch, goesBy⟩, later⟩
    by_contra notSwitch
    rw [Bool.not_eq_true] at notSwitch
    rw [onlyTarget notSwitch, notSwitch] at isSwitch
    exact absurd isSwitch (by simp)

/-- The protocol packets that one data packet causes. -/
theorem Relays.generated
    {node : Node}
    {packet : DataPacket}
    {outcome : ApplicationOutcome}
    (relays : sim.Relays node packet outcome)
    (sound : sim.Sound)
    (present : sim.HasNode node)
    (learnPick : Nat) :
    let sent :=
      outcome.generated.flatMap fun protocol =>
        sim.outputProtocol node protocol learnPick
    (∀ after ∈ sent, sim.Placed virtualToPhysical limit after) ∧
      sim.totalWork limit sent ≤ 5 := by
  intro sent
  have few := relays.few
  cases isSent : outcome.generated with
  | nil =>
      have nothing : sent = [] := by
        change outcome.generated.flatMap _ = []
        rw [isSent]
        rfl
      rw [nothing]
      exact ⟨fun _ member => absurd member List.not_mem_nil, Nat.zero_le 5⟩
  | cons protocol rest =>
      have single : rest = [] := by
        rw [isSent, List.length_cons] at few
        exact List.length_eq_zero_iff.mp (by omega)
      subst single
      obtain ⟨mode, ⟨leaf, rfl⟩, target, isSwitch, elsewhere, goesBy⟩ :=
        relays.addressed protocol (by rw [isSent]; exact List.mem_cons_self)
      obtain ⟨reaches, near⟩ :=
        sound.routable.reaches_of_leaf present goesBy
      obtain ⟨next, output, onTheWay, closer⟩ :=
        sound.outputProtocol mode present isSwitch elsewhere goesBy reaches
          learnPick
      have only : sent = [.protocol next protocol] := by
        change outcome.generated.flatMap _ = _
        rw [isSent, List.flatMap_singleton, output]
      rw [only]
      constructor
      · intro after member
        rw [List.mem_singleton.mp member]
        exact onTheWay
      · rw [totalWork_cons, totalWork_nil]
        change sim.linksTo protocol.destination next + 1 + 0 ≤ 5
        omega

/-- Where a packet is bound for after a switch, and how far that is. -/
theorem OnTheWay.redirected
    {node : Node}
    {tagged : TaggedPacket}
    (onTheWay : sim.OnTheWay virtualToPhysical limit node tagged)
    (sound : sim.Sound)
    (isSwitch : node.isSwitch = true)
    {address : Ipv4Address}
    (redirected :
      address = tagged.destination ∨
        (tagged.destination ∈ sim.gwAddresses ∧ sim.IsServer address)) :
    (∃ leaf host, sim.GoesBy address (.host leaf host)) ∧
      sim.Reaches address node ∧
      sim.linksAhead node address ≤
        sim.linksAhead node tagged.destination ∧
      7 * sim.linksTo address node + 37 * sim.gatewaysAhead address ≤
        7 * sim.linksTo tagged.destination node +
          37 * sim.gatewaysAhead tagged.destination := by
  rcases redirected with rfl | ⟨toGateway, server⟩
  · obtain ⟨leaf, host, goesBy, _⟩ := onTheWay.target
    exact
      ⟨⟨leaf, host, goesBy⟩, onTheWay.reaches, Nat.le_refl _,
        Nat.le_refl _⟩
  · obtain ⟨leaf, host, goesBy⟩ := server.isHost
    obtain ⟨reaches, near⟩ :=
      sound.routable.reaches_of_switch onTheWay.present isSwitch goesBy
    have ahead : sim.gatewaysAhead tagged.destination = 1 :=
      if_pos toGateway
    refine ⟨⟨leaf, host, goesBy⟩, reaches, ?_, ?_⟩
    · unfold linksAhead
      rw [server.gatewaysAhead, ahead]
      omega
    · rw [server.gatewaysAhead, ahead]
      omega

/-- A TTL that is not used up is decremented. -/
theorem toNat_decrement
    {ttl : UInt8}
    (positive : 0 < ttl.toNat) :
    (ttl - 1).toNat = ttl.toNat - 1 := by
  have one : (1 : UInt8) ≤ ttl := by
    rw [UInt8.le_iff_toNat_le]
    exact positive
  rw [UInt8.toNat_sub_of_le _ _ one]
  rfl

/-- A packet with a route and TTL to spare is forwarded. -/
theorem ipForward_of_routeOutput
    {node next : Node}
    {tagged : TaggedPacket}
    {pick : Nat}
    (routed : sim.routeOutput node tagged.destination pick = some next)
    (alive : 1 < tagged.packet.outer.ttl.toNat) :
    sim.ipForward node tagged pick =
      .send [.data next tagged.decrementTtl] := by
  have routedAfter :
      sim.routeOutput node tagged.decrementTtl.destination pick =
        some next :=
    routed
  rw [ipForward, if_neg, output, routedAfter]
  intro expired
  have zero := congrArg UInt8.toNat expired
  rw [toNat_decrement (by omega)] at zero
  change tagged.packet.outer.ttl.toNat - 1 = 0 at zero
  omega

/-- The application of a switch keeps a packet routine. -/
theorem Routine.relayed
    {node : Node}
    {packet : DataPacket}
    {outcome : ApplicationOutcome}
    (routine : sim.Routine virtualToPhysical limit packet)
    (relays : sim.Relays node packet outcome)
    (isSwitch : node.isSwitch = true)
    (present : sim.HasNode node) :
    sim.Routine virtualToPhysical limit outcome.packet where
  misdeliveries := relays.same.misdeliveries.trans_le routine.misdeliveries
  container := by
    rw [relays.same.inner]
    exact routine.container
  sender := by
    rw [relays.same.sourceTag]
    exact routine.sender
  hits := by
    intro hitTag member
    rcases relays.hits hitTag member with old | isNew
    · exact routine.hits hitTag old
    · exact ⟨node, isSwitch, present, isNew.symm⟩

/-- One link closer, a packet is still on its way. -/
theorem OnTheWay.forwarded
    {node next : Node}
    {tagged : TaggedPacket}
    {outcome : ApplicationOutcome}
    (onTheWay : sim.OnTheWay virtualToPhysical limit node tagged)
    (relays : sim.Relays node tagged.packet outcome)
    (isSwitch : node.isSwitch = true)
    (nextPresent : sim.HasNode next)
    (target :
      ∃ leaf host,
        sim.GoesBy outcome.packet.outer.destination (.host leaf host) ∧
          (next.isSwitch = false → .host leaf host = next))
    (reaches : sim.Reaches outcome.packet.outer.destination next)
    (nextAhead :
      sim.linksAhead next outcome.packet.outer.destination + 1 ≤
        sim.linksAhead node tagged.destination) :
    sim.OnTheWay virtualToPhysical limit next
      (TaggedPacket.decrementTtl
        { tagged.incHops with packet := outcome.packet }) := by
  obtain ⟨misdeliveries, container, sender, hits⟩ :=
    onTheWay.routine.relayed relays isSwitch onTheWay.present
  have hops := onTheWay.hops
  have ttl := onTheWay.ttl
  have counted := tagged.getHops_incHops
  have remaining :
      (outcome.packet.outer.ttl - 1).toNat =
        tagged.packet.outer.ttl.toNat - 1 := by
    rw [relays.same.ttl]
    exact toNat_decrement (by omega)
  refine
    { routine := ⟨misdeliveries, container, sender, hits⟩
      present := nextPresent
      target := target
      reaches := reaches
      hops := ?_
      ttl := ?_ }
  · unfold HopsLeft at hops ⊢
    change tagged.incHops.getHops +
        sim.linksAhead next outcome.packet.outer.destination +
          10 * (limit - outcome.packet.misdeliveries) ≤ _
    rw [relays.same.misdeliveries]
    omega
  · change sim.linksAhead next outcome.packet.outer.destination + 54 ≤
      (outcome.packet.outer.ttl - 1).toNat
    omega

/-- The switch sends the packet on by any of its routes. -/
theorem OnTheWay.receiveAtSwitch
    (addresses : Nat → Nat → List Ipv4Address)
    {node : Node}
    {tagged : TaggedPacket}
    (onTheWay : sim.OnTheWay virtualToPhysical limit node tagged)
    (sound : sim.Sound)
    (isSwitch : node.isSwitch = true)
    {application : SwitchApplication}
    {draw : Bool}
    {outcome : ApplicationOutcome}
    (received :
      application.receivePacket draw tagged.packet = some outcome)
    (relays : sim.Relays node tagged.packet outcome)
    (pick learnPick : Nat) :
    ∃ handling,
      sim.receiveAtSwitch application node tagged draw pick learnPick =
          some (outcome.application, handling) ∧
        sim.Proceeds virtualToPhysical addresses limit (.data node tagged)
          handling := by
  let after : TaggedPacket :=
    { tagged.incHops with packet := outcome.packet }
  obtain ⟨⟨leaf, host, goesBy⟩, reaches, ahead, work⟩ :=
    onTheWay.redirected sound isSwitch relays.redirected
  have elsewhere : Node.host leaf host ≠ node := by
    rintro rfl
    simp [Node.isSwitch] at isSwitch
  obtain ⟨next, routed, nextPresent, later, closer, onlyTarget⟩ :=
    sound.routable.exists_routeOutput onTheWay.present goesBy elsewhere
      reaches pick
  have nextAhead :
      sim.linksAhead next after.destination + 1 ≤
        sim.linksAhead node tagged.destination := by
    unfold linksAhead at ahead ⊢
    change
      sim.linksTo outcome.packet.outer.destination next +
          5 * sim.gatewaysAhead outcome.packet.outer.destination + 1 ≤ _
    omega
  have forwarded :
      (if sim.isLocal node after.destination then
          Handling.drop after
        else
          sim.ipForward node after pick) =
        .send [.data next after.decrementTtl] := by
    have notLocal : sim.isLocal node after.destination = false :=
      sound.routable.isLocal_eq_false goesBy elsewhere
    have ttl := onTheWay.ttl
    rw [notLocal, if_neg (by simp)]
    refine ipForward_of_routeOutput routed ?_
    change 1 < outcome.packet.outer.ttl.toNat
    rw [relays.same.ttl]
    omega
  obtain ⟨protocolPlaced, protocolWork⟩ :=
    @Relays.generated sim virtualToPhysical limit node tagged.packet
      outcome relays sound onTheWay.present learnPick
  have nextPlaced :
      sim.OnTheWay virtualToPhysical limit next after.decrementTtl :=
    onTheWay.forwarded relays isSwitch nextPresent
      ⟨leaf, host, goesBy, onlyTarget⟩ later nextAhead
  refine
    ⟨{ transits :=
         .data next after.decrementTtl ::
           outcome.generated.flatMap fun packet =>
             sim.outputProtocol node packet learnPick
       delivered := []
       dropped := [] }, ?_, ?_⟩
  · rw [RoutedSimulation.receiveAtSwitch, received, Option.map_some]
    dsimp only
    rw [forwarded]
    rfl
  · refine
      { placed := fun transit member => ?_
        work := ?_
        delivered := fun _ member => absurd member List.not_mem_nil
        undropped := rfl }
    · rcases List.mem_cons.mp member with isData | isProtocol
      · rw [isData]
        exact nextPlaced
      · exact protocolPlaced transit isProtocol
    · rw [totalWork_cons]
      change
        7 * sim.linksTo outcome.packet.outer.destination next + 1 +
                37 * sim.gatewaysAhead outcome.packet.outer.destination +
              74 * (limit - outcome.packet.misdeliveries) + _ <
          7 * sim.linksTo tagged.destination node + 1 +
              37 * sim.gatewaysAhead tagged.destination +
            74 * (limit - tagged.packet.misdeliveries)
      rw [relays.same.misdeliveries]
      omega

/-- A protocol packet is consumed, or sent on towards its switch. -/
theorem ProtocolOnTheWay.proceeds
    {node : Node}
    {packet : ProtocolPacket}
    (onTheWay : sim.ProtocolOnTheWay node packet)
    (sound : sim.Sound)
    (pick : Nat) :
    let sent :=
      if packet.destination = sim.nodeAddress node then [] else [packet]
    sim.Proceeds virtualToPhysical addresses limit (.protocol node packet)
      (.send
        (sent.flatMap fun packet =>
          sim.outputProtocol node packet pick)) := by
  intro sent
  obtain ⟨target, isSwitch, goesBy⟩ := onTheWay.target
  by_cases here : packet.destination = sim.nodeAddress node
  · have consumed : sent = [] := if_pos here
    rw [consumed]
    exact
      { placed := fun _ member => absurd member List.not_mem_nil
        work := Nat.succ_pos _
        delivered := fun _ member => absurd member List.not_mem_nil
        undropped := rfl }
  · have kept : sent = [packet] := if_neg here
    have elsewhere : target ≠ node := by
      rintro rfl
      exact here goesBy.2.symm
    obtain ⟨next, output, later, closer⟩ :=
      sound.outputProtocol onTheWay.mode onTheWay.present isSwitch elsewhere
        goesBy onTheWay.reaches pick
    rw [kept, List.flatMap_singleton, output]
    exact .of_send later (Nat.succ_lt_succ closer)

end SwitchV2P.RoutedSimulation
