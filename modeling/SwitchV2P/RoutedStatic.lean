import SwitchV2P.RoutedRuns
import SwitchV2P.StaticMappings

namespace SwitchV2P.RoutedSimulation

/-!
# Delivery while nothing migrates

In every mode but Bluebird, what switches cache and what packets carry agrees
with the full mapping, so that every packet is delivered to the host of its
container, by whatever routes it goes and however the nodes take turns.
-/

open StaticMappings

/-- The full mapping and the tunnel interfaces agree. -/
structure Deployed
    (sim : RoutedSimulation)
    (virtualToPhysical : Ipv4Address → Option Ipv4Address)
    (addresses : Nat → Nat → List Ipv4Address) :
    Prop where
  sound : sim.Sound
  mem_addresses_iff :
    ∀ {leaf host}, sim.HasNode (.host leaf host) →
      ∀ container,
        container ∈ addresses leaf host ↔
          virtualToPhysical container = some (sim.hostAddress leaf host)

/-- What the sending host knows of a packet that is due. -/
structure FaithfullySent
    (virtualToPhysical : Ipv4Address → Option Ipv4Address)
    (host : Ipv4Address)
    (packet : DataPacket)
    (call : SendCall) :
    Prop where
  evicted :
    ∀ mapping ∈ packet.evictionTag.tags,
      virtualToPhysical mapping.1 = some mapping.2
  uninvalidated : packet.invalidationTag.tags = []
  ttl : packet.inner.ttl = 64
  misdeliveries : packet.misdeliveries = 0
  source : virtualToPhysical packet.inner.source = some host
  call : call ≠ .sendFollowMeRule true

variable (sim : RoutedSimulation)

/-- All that a packet in transit says is right. -/
def Honest
    (virtualToPhysical : Ipv4Address → Option Ipv4Address) :
    Transit → Prop
  | .data _ tagged =>
      Faithful sim.setupApplications virtualToPhysical tagged.packet
  | .protocol _ packet =>
      ∀ mapping ∈ packet.evictionTag.tags,
        virtualToPhysical mapping.1 = some mapping.2
  | .scheduled leaf host tagged call =>
      FaithfullySent virtualToPhysical (sim.hostAddress leaf host)
        tagged.packet call
  | .atGateway _ _ tagged =>
      Faithful sim.setupApplications virtualToPhysical tagged.packet

/-- All that an application serves is right. -/
structure Informed
    (virtualToPhysical : Ipv4Address → Option Ipv4Address)
    (application : SwitchApplication) :
    Prop where
  stores :
    application.Stores fun key value =>
      virtualToPhysical key = some value
  observes :
    application.Observes fun container gateway =>
      virtualToPhysical container ≠ none ∧ gateway ∈ sim.gwAddresses

/-- A state that agrees with a full mapping that never changes. -/
structure Agrees
    (virtualToPhysical : Ipv4Address → Option Ipv4Address)
    (addresses : Nat → Nat → List Ipv4Address)
    (state : RoutedState) :
    Prop where
  sameMapping : state.virtualToPhysical = virtualToPhysical
  sameAddresses : state.addresses = addresses
  informed :
    ∀ node application, state.applications node = some application →
      sim.Informed virtualToPhysical application
  honest :
    ∀ transit ∈ state.transits, sim.Honest virtualToPhysical transit
  delivered :
    ∀ delivery ∈ state.delivered,
      virtualToPhysical delivery.tagged.packet.inner.destination =
        some (sim.hostAddress delivery.leaf delivery.host)

/-- Containers send to containers, and none migrates. -/
def StaticWorkload
    (state : RoutedState)
    (action : RoutedAction) :
    Prop :=
  sim.Permitted state action ∧
    ∀ srcLeaf srcHost, action ≠ .migration srcLeaf srcHost

variable
  {sim : RoutedSimulation}
  {virtualToPhysical : Ipv4Address → Option Ipv4Address}
  {addresses : Nat → Nat → List Ipv4Address}

/-! ## Switches -/

/-- `Setup` gives every application the gateways of the simulation. -/
def gatewaysOf : SwitchKind → List Ipv4Address
  | .p4SwitchApp config => config.gwAddresses
  | .switchApp gwAddresses _ => gwAddresses

theorem Equipped.gatewaysOf_kind
    {state : RoutedState}
    (equipped : sim.Equipped state)
    {node : Node}
    {application : SwitchApplication}
    (installed : state.applications node = some application) :
    gatewaysOf application.kind = sim.gwAddresses := by
  obtain ⟨initial, installs, sameKind⟩ := equipped.installs installed
  rw [sameKind]
  cases installs <;> rfl

theorem isGateway_setupApplications (address : Ipv4Address) :
    sim.setupApplications.isGateway address = true ↔
      address ∈ sim.gwAddresses :=
  decide_eq_true_iff

/-- A faithful packet teaches right mappings only. -/
theorem offers_of_faithful
    {config : SwitchConfig}
    (gateways : config.gwAddresses = sim.gwAddresses)
    {packet : DataPacket}
    (faithful :
      Faithful sim.setupApplications virtualToPhysical packet) :
    config.Offers (fun key value => virtualToPhysical key = some value)
      packet where
  evicted := faithful.evicted
  destination := fun learns => by
    have resolved := learns.resolved
    rw [SwitchConfig.isGateway, decide_eq_false_iff_not, gateways]
      at resolved
    refine faithful.destination.resolve_left fun toGateway => ?_
    exact resolved ((isGateway_setupApplications _).mp toGateway)
  source := fun _ => faithful.source

/-- A switch leaves a faithful packet faithful. -/
theorem faithful_of_relayed
    {packet after : DataPacket}
    (faithful :
      Faithful sim.setupApplications virtualToPhysical packet)
    (relayed :
      SwitchApplication.Relayed sim.gwAddresses
        (fun key value => virtualToPhysical key = some value)
        packet after) :
    Faithful sim.setupApplications virtualToPhysical after := by
  obtain ⟨source, _, inner, invalidationTag, _, _, misdeliveries⟩ :=
    relayed.same
  refine
    { evicted := relayed.evicted
      uninvalidated := by rw [invalidationTag, faithful.uninvalidated]
      ttl := by rw [inner, faithful.ttl]
      misdeliveries := by rw [misdeliveries, faithful.misdeliveries]
      destination := ?_
      source := by rw [inner, source, faithful.source] }
  rw [inner]
  rcases relayed.destination with same | ⟨_, vouched⟩
  · rw [same]
    exact faithful.destination
  · exact Or.inr vouched

/-- What one faithful packet does to an informed application. -/
theorem Informed.receivePacket
    {application : SwitchApplication}
    (informed : sim.Informed virtualToPhysical application)
    (gateways : gatewaysOf application.kind = sim.gwAddresses)
    {packet : DataPacket}
    (faithful :
      Faithful sim.setupApplications virtualToPhysical packet)
    (mapped : virtualToPhysical packet.inner.destination ≠ none)
    {draw : Bool}
    {outcome : ApplicationOutcome}
    (received : application.receivePacket draw packet = some outcome) :
    sim.Informed virtualToPhysical outcome.application ∧
      SwitchApplication.Relayed sim.gwAddresses
        (fun key value => virtualToPhysical key = some value)
        packet outcome.packet ∧
      ∀ protocol ∈ outcome.generated,
        ∀ mapping ∈ protocol.evictionTag.tags,
          virtualToPhysical mapping.1 = some mapping.2 := by
  cases application with
  | p4SwitchApp config tables =>
      rw [SwitchApplication.receivePacket] at received
      dsimp only at received
      split at received
      next => exact absurd received (by simp)
      next =>
        have isOutcome := Option.some.inj received
        subst isOutcome
        have stores :
            tables.cache.Stores fun key value =>
              virtualToPhysical key = some value :=
          informed.stores
        have handled :=
          SwitchConfig.handled_receivePacket draw stores
            (offers_of_faithful gateways faithful)
        exact
          ⟨⟨handled.stores, trivial⟩,
            SwitchApplication.relayed_of_handled gateways
              faithful.uninvalidated handled,
            handled.learning⟩
  | switchApp gwAddresses switchMode members =>
      rw [SwitchApplication.receivePacket] at received
      have isOutcome := Option.some.inj received
      subst isOutcome
      have isGateways : gwAddresses = sim.gwAddresses := gateways
      subst isGateways
      have before :
          members.cache.Stores fun key value =>
            virtualToPhysical key = some value :=
        informed.stores
      obtain ⟨stores, relayed⟩ :=
        SwitchApplication.relayed_switchApp before faithful.evicted
      refine
        ⟨⟨stores, ?_⟩, relayed, fun _ member =>
          absurd member List.not_mem_nil⟩
      have observes :
          ∀ flow info, members.trafficMatrix.lookup flow = some info →
            virtualToPhysical info.dstIp ≠ none ∧
              info.gwIp ∈ sim.gwAddresses :=
        informed.observes
      unfold SwitchApplication.Observes SwitchApp.Members.receivePacket
      dsimp only
      split
      next counts =>
        exact
          @SwitchApplication.observes_countPacket
            (fun container gateway =>
              virtualToPhysical container ≠ none ∧
                gateway ∈ sim.gwAddresses)
            _ observes _ ⟨mapped, counts.2⟩
      next => exact observes

/-- A protocol packet teaches right mappings only. -/
theorem Informed.handleProtocolPacket
    {application : SwitchApplication}
    (informed : sim.Informed virtualToPhysical application)
    {packet : ProtocolPacket}
    (right :
      ∀ mapping ∈ packet.evictionTag.tags,
        virtualToPhysical mapping.1 = some mapping.2)
    {handled : SwitchApplication × List ProtocolPacket}
    (handles : application.handleProtocolPacket packet = some handled) :
    sim.Informed virtualToPhysical handled.1 ∧
      ∀ sent ∈ handled.2, sent = packet := by
  cases application with
  | p4SwitchApp config tables =>
      rw [SwitchApplication.handleProtocolPacket] at handles
      have isHandled := Option.some.inj handles
      subst isHandled
      have stores :
          tables.cache.Stores fun key value =>
            virtualToPhysical key = some value :=
        informed.stores
      obtain ⟨after, same⟩ :=
        config.handleProtocolPacket_spec stores right
      exact ⟨⟨after, trivial⟩, same⟩
  | switchApp => exact absurd handles (by
      simp [SwitchApplication.handleProtocolPacket])

/-! ## Hosts -/

/-- A due packet is faithful once it is sent. -/
theorem FaithfullySent.faithful
    {leaf host : Nat}
    {packet : DataPacket}
    {call : SendCall}
    (due :
      FaithfullySent virtualToPhysical (sim.hostAddress leaf host) packet
        call)
    {address : Ipv4Address}
    (located : virtualToPhysical packet.inner.destination = some address)
    {sent : DataPacket}
    (performed :
      (sim.socketHelper leaf host).perform virtualToPhysical packet call =
        some sent) :
    Faithful sim.setupApplications virtualToPhysical sent := by
  obtain ⟨evicted, uninvalidated, ttl, misdeliveries, source, notFollow⟩ :=
    due
  cases call with
  | sendToGateway gwIdx =>
      simp only [SocketHelper.perform, Option.map_eq_some_iff] at performed
      obtain ⟨gateway, chosen, rfl⟩ := performed
      refine
        ⟨evicted, uninvalidated, ttl, misdeliveries, Or.inl ?_, source⟩
      exact
        (isGateway_setupApplications gateway).mpr
          (List.mem_of_getElem? chosen)
  | sendFollowMeRule misdelivery =>
      cases misdelivery with
      | true => exact absurd rfl notFollow
      | false =>
          rw [SocketHelper.perform, located, Option.getD_some] at performed
          rw [← Option.some.inj performed]
          exact
            ⟨evicted, uninvalidated, ttl, misdeliveries, Or.inr located,
              source⟩

/-- What leaves a node is the packet that it has been given. -/
theorem honest_of_mem_output
    {node : Node}
    {tagged : TaggedPacket}
    (faithful :
      Faithful sim.setupApplications virtualToPhysical tagged.packet)
    {pick : Nat}
    {transit : Transit}
    (member : transit ∈ (sim.output node tagged pick).transits) :
    sim.Honest virtualToPhysical transit := by
  unfold output at member
  split at member
  next next routed =>
    rw [List.mem_singleton.mp member]
    exact faithful
  next => exact absurd member List.not_mem_nil

theorem honest_of_mem_ipForward
    {node : Node}
    {tagged : TaggedPacket}
    (faithful :
      Faithful sim.setupApplications virtualToPhysical tagged.packet)
    {pick : Nat}
    {transit : Transit}
    (member : transit ∈ (sim.ipForward node tagged pick).transits) :
    sim.Honest virtualToPhysical transit := by
  unfold ipForward at member
  split at member
  next => exact absurd member List.not_mem_nil
  next =>
    have decremented :
        Faithful sim.setupApplications virtualToPhysical
          tagged.decrementTtl.packet :=
      closed.anyTtl _ faithful
    exact honest_of_mem_output decremented member

theorem honest_of_mem_outputProtocol
    {node : Node}
    {packets : List ProtocolPacket}
    (right :
      ∀ packet ∈ packets, ∀ mapping ∈ packet.evictionTag.tags,
        virtualToPhysical mapping.1 = some mapping.2)
    {pick : Nat}
    {transit : Transit}
    (member :
      transit ∈
        packets.flatMap fun packet =>
          sim.outputProtocol node packet pick) :
    sim.Honest virtualToPhysical transit := by
  obtain ⟨packet, isPacket, sent⟩ := List.mem_flatMap.mp member
  simp only [outputProtocol, Option.mem_toList,
    Option.map_eq_some_iff] at sent
  obtain ⟨next, _, rfl⟩ := sent
  exact right packet isPacket

/-- Only the application of one switch changes. -/
theorem informed_setApplication
    {state : RoutedState}
    (informed :
      ∀ node application, state.applications node = some application →
        sim.Informed virtualToPhysical application)
    (node : Node)
    {application : SwitchApplication}
    (after : sim.Informed virtualToPhysical application) :
    ∀ other found,
      (state.setApplication node application).applications other =
          some found →
        sim.Informed virtualToPhysical found := by
  intro other found installed
  by_cases isNode : other = node
  · subst isNode
    rw [RoutedState.applications_setApplication_self] at installed
    rw [← Option.some.inj installed]
    exact after
  · rw [RoutedState.applications_setApplication_of_ne state isNode]
      at installed
    exact informed other found installed

/-- No packet is at a server that does not have its container. -/
theorem Agrees.isHere
    {state : RoutedState}
    (agrees : sim.Agrees virtualToPhysical addresses state)
    (deployed : sim.Deployed virtualToPhysical addresses)
    {limit leaf host : Nat}
    {tagged : TaggedPacket}
    (onTheWay :
      sim.OnTheWay state.virtualToPhysical limit (.host leaf host) tagged)
    (faithful :
      Faithful sim.setupApplications virtualToPhysical tagged.packet)
    (server : (leaf, host) ∉ sim.gws) :
    tagged.packet.inner.destination ∈ state.addresses leaf host := by
  rw [agrees.sameAddresses,
    deployed.mem_addresses_iff onTheWay.present]
  have here := onTheWay.destination_eq
  rw [← here]
  refine faithful.destination.resolve_left fun toGateway => server ?_
  rw [deployed.sound.mem_gws_iff onTheWay.present, ← here]
  exact (isGateway_setupApplications _).mp toGateway

/-- What is true of the mapping makes a state orderly. -/
theorem Agrees.orderly
    {state : RoutedState}
    (agrees : sim.Agrees virtualToPhysical addresses state)
    (deployed : sim.Deployed virtualToPhysical addresses)
    (inOrder : sim.InOrder 0 state) :
    sim.Orderly 0 state where
  redirected := by
    intro node tagged application draw outcome member installed received
    have onTheWay : sim.OnTheWay state.virtualToPhysical 0 node tagged :=
      inOrder.placed _ member
    obtain ⟨address, located, server⟩ := onTheWay.routine.container
    rw [agrees.sameMapping] at located
    have mapped :
        virtualToPhysical tagged.packet.inner.destination ≠ none := by
      rw [located]
      exact Option.some_ne_none address
    obtain ⟨_, relayed, _⟩ :=
      (agrees.informed node application installed).receivePacket
        (inOrder.equipped.gatewaysOf_kind installed)
        (agrees.honest _ member) mapped received
    refine relayed.destination.imp_right fun redirected => ?_
    obtain ⟨toGateway, vouched⟩ := redirected
    refine ⟨toGateway, ?_⟩
    rw [located] at vouched
    rw [← Option.some.inj vouched]
    exact server
  misdelivered := by
    intro leaf host tagged member server elsewhere
    exact
      absurd
        (agrees.isHere deployed (inOrder.placed _ member)
          (agrees.honest _ member) server)
        elsewhere

/-- What handling a packet leaves of the agreement. -/
structure Agreed
    (sim : RoutedSimulation)
    (virtualToPhysical : Ipv4Address → Option Ipv4Address)
    (handled : RoutedState × Handling) :
    Prop where
  informed :
    ∀ node application, handled.1.applications node = some application →
      sim.Informed virtualToPhysical application
  honest :
    ∀ after ∈ handled.2.transits, sim.Honest virtualToPhysical after

/-- A container to which a packet may be sent is mapped. -/
theorem Agrees.exists_address
    {state : RoutedState}
    (agrees : sim.Agrees virtualToPhysical addresses state)
    {limit : Nat}
    {packet : DataPacket}
    (routine : sim.Routine state.virtualToPhysical limit packet) :
    ∃ address,
      virtualToPhysical packet.inner.destination = some address := by
  obtain ⟨address, found, _⟩ := routine.container
  rw [agrees.sameMapping] at found
  exact ⟨address, found⟩

/-- A switch passes on what is true, and learns nothing else. -/
theorem Agrees.handleAtSwitch
    {state : RoutedState}
    (agrees : sim.Agrees virtualToPhysical addresses state)
    (equipped : sim.Equipped state)
    {node : Node}
    (isSwitch : node.isSwitch = true)
    {tagged : TaggedPacket}
    (faithful :
      Faithful sim.setupApplications virtualToPhysical tagged.packet)
    {address : Ipv4Address}
    (found :
      virtualToPhysical tagged.packet.inner.destination = some address)
    {draw : Bool}
    {pick learnPick : Nat}
    {handled : RoutedState × Handling}
    (handles :
      sim.handle state draw pick learnPick (.data node tagged) =
        some handled) :
    Agreed sim virtualToPhysical handled := by
  rw [sim.handle_switch isSwitch] at handles
  obtain ⟨application, installed, received⟩ :=
    Option.bind_eq_some_iff.mp handles
  simp only [receiveAtSwitch, Option.map_map,
    Option.map_eq_some_iff] at received
  obtain ⟨outcome, receives, rfl⟩ := received
  obtain ⟨informed, relayed, taught⟩ :=
    (agrees.informed node application installed).receivePacket
      (equipped.gatewaysOf_kind installed) faithful
      (by rw [found]; exact Option.some_ne_none address) receives
  refine ⟨informed_setApplication agrees.informed node informed, ?_⟩
  intro after isAfter
  rcases List.mem_append.mp isAfter with isData | isProtocol
  · have afterFaithful := faithful_of_relayed faithful relayed
    split at isData
    next => exact absurd isData List.not_mem_nil
    next => exact honest_of_mem_ipForward afterFaithful isData
  · exact honest_of_mem_outputProtocol taught isProtocol

/-- A gateway resolves the container, and a server delivers the packet. -/
theorem Agrees.handleAtHost
    {state : RoutedState}
    (agrees : sim.Agrees virtualToPhysical addresses state)
    (deployed : sim.Deployed virtualToPhysical addresses)
    {limit leaf host : Nat}
    {tagged : TaggedPacket}
    (onTheWay :
      sim.OnTheWay state.virtualToPhysical limit (.host leaf host) tagged)
    (faithful :
      Faithful sim.setupApplications virtualToPhysical tagged.packet)
    {draw : Bool}
    {pick learnPick : Nat}
    {handled : RoutedState × Handling}
    (handles :
      sim.handle state draw pick learnPick
          (.data (.host leaf host) tagged) =
        some handled) :
    Agreed sim virtualToPhysical handled := by
  obtain ⟨address, found⟩ := agrees.exists_address onTheWay.routine
  simp only [RoutedSimulation.handle, Option.map_eq_some_iff] at handles
  obtain ⟨received, receives, rfl⟩ := handles
  refine ⟨agrees.informed, ?_⟩
  unfold receiveAtHost at receives
  dsimp only at receives
  rw [if_pos onTheWay.destination_eq] at receives
  split at receives
  next isGateway =>
    rw [agrees.sameMapping] at receives
    simp only [Option.map_eq_some_iff] at receives
    obtain ⟨resolved, resolves, rfl⟩ := receives
    rw [GatewayApp.receivePacket, found] at resolves
    rw [← Option.some.inj resolves]
    intro after isAfter
    rw [List.mem_singleton.mp isAfter]
    exact
      ⟨faithful.evicted, faithful.uninvalidated, faithful.ttl,
        faithful.misdeliveries, Or.inr found, faithful.source⟩
  next server =>
    rw [if_pos (agrees.isHere deployed onTheWay faithful server)]
      at receives
    rw [← Option.some.inj receives]
    exact fun _ isAfter => absurd isAfter List.not_mem_nil

/-- A protocol packet is learned from, or sent on as it is. -/
theorem Agrees.handleProtocol
    {state : RoutedState}
    (agrees : sim.Agrees virtualToPhysical addresses state)
    {node : Node}
    {packet : ProtocolPacket}
    (honest : sim.Honest virtualToPhysical (.protocol node packet))
    {draw : Bool}
    {pick learnPick : Nat}
    {handled : RoutedState × Handling}
    (handles :
      sim.handle state draw pick learnPick (.protocol node packet) =
        some handled) :
    Agreed sim virtualToPhysical handled := by
  simp only [RoutedSimulation.handle] at handles
  split at handles
  next application installed =>
    simp only [Option.map_eq_some_iff] at handles
    obtain ⟨received, receives, rfl⟩ := handles
    obtain ⟨informed, same⟩ :=
      (agrees.informed node application installed).handleProtocolPacket
        honest receives
    refine ⟨informed_setApplication agrees.informed node informed, ?_⟩
    intro after isAfter
    refine honest_of_mem_outputProtocol (fun sent isSent => ?_) isAfter
    rw [same sent isSent]
    exact honest
  next =>
    rw [← Option.some.inj handles]
    exact
      ⟨agrees.informed, fun _ isAfter => absurd isAfter List.not_mem_nil⟩

/-- A socket sends what it was given, to where the mapping says. -/
theorem Agrees.handleScheduled
    {state : RoutedState}
    (agrees : sim.Agrees virtualToPhysical addresses state)
    {limit leaf host : Nat}
    {tagged : TaggedPacket}
    {call : SendCall}
    (due :
      sim.ToBeSent state.virtualToPhysical limit leaf host tagged call)
    (honest :
      FaithfullySent virtualToPhysical (sim.hostAddress leaf host)
        tagged.packet call)
    {draw : Bool}
    {pick learnPick : Nat}
    {handled : RoutedState × Handling}
    (handles :
      sim.handle state draw pick learnPick
          (.scheduled leaf host tagged call) =
        some handled) :
    Agreed sim virtualToPhysical handled := by
  obtain ⟨address, found⟩ := agrees.exists_address due.routine
  simp only [RoutedSimulation.handle, Option.map_eq_some_iff] at handles
  obtain ⟨handling, performs, rfl⟩ := handles
  rw [agrees.sameMapping] at performs
  simp only [perform, Option.map_eq_some_iff] at performs
  obtain ⟨sent, performed, rfl⟩ := performs
  refine ⟨agrees.informed, fun after isAfter => ?_⟩
  have faithful :
      Faithful sim.setupApplications virtualToPhysical
        { tagged with packet := sent }.packet :=
    honest.faithful found performed
  exact honest_of_mem_output faithful isAfter

/-- A gateway sends the packet to the container that it has resolved. -/
theorem Agrees.handleAtGateway
    {state : RoutedState}
    (agrees : sim.Agrees virtualToPhysical addresses state)
    {leaf host : Nat}
    {tagged : TaggedPacket}
    (honest :
      sim.Honest virtualToPhysical (.atGateway leaf host tagged))
    {draw : Bool}
    {pick learnPick : Nat}
    {handled : RoutedState × Handling}
    (handles :
      sim.handle state draw pick learnPick (.atGateway leaf host tagged) =
        some handled) :
    Agreed sim virtualToPhysical handled := by
  simp only [RoutedSimulation.handle, Option.some.injEq] at handles
  subst handles
  refine ⟨agrees.informed, fun after isAfter => ?_⟩
  have faithful :
      Faithful sim.setupApplications virtualToPhysical
        { tagged with
          packet := GatewayApp.sendPacket tagged.packet }.packet :=
    closed.sent honest
  exact honest_of_mem_output faithful isAfter

/-- Handling a packet keeps the agreement. -/
theorem Agrees.handle
    {state : RoutedState}
    (agrees : sim.Agrees virtualToPhysical addresses state)
    (deployed : sim.Deployed virtualToPhysical addresses)
    (inOrder : sim.InOrder 0 state)
    {transit : Transit}
    (member : transit ∈ state.transits)
    {draw : Bool}
    {pick learnPick : Nat}
    {handled : RoutedState × Handling}
    (handles :
      sim.handle state draw pick learnPick transit = some handled) :
    Agreed sim virtualToPhysical handled := by
  have honest := agrees.honest transit member
  have placed := inOrder.placed transit member
  cases transit with
  | data node tagged =>
      have onTheWay : sim.OnTheWay state.virtualToPhysical 0 node tagged :=
        placed
      obtain ⟨address, found⟩ := agrees.exists_address onTheWay.routine
      cases isSwitch : node.isSwitch with
      | true =>
          exact
            agrees.handleAtSwitch inOrder.equipped isSwitch honest found
              handles
      | false =>
          obtain ⟨leaf, host, rfl⟩ := Node.exists_host isSwitch
          exact agrees.handleAtHost deployed onTheWay honest handles
  | protocol => exact agrees.handleProtocol honest handles
  | scheduled => exact agrees.handleScheduled placed honest handles
  | atGateway => exact agrees.handleAtGateway honest handles

/-! ## Plans -/

/-- An active destination is mapped. -/
theorem Agrees.mapped_of_isActive
    {state : RoutedState}
    (agrees : sim.Agrees virtualToPhysical addresses state)
    {destination : Ipv4Address}
    (active : sim.isActive state destination = true) :
    virtualToPhysical destination ≠ none := by
  unfold isActive at active
  obtain ⟨leaf, _, counted⟩ := List.any_eq_true.mp active
  split at counted
  next gwAddresses switchMode members installed =>
    obtain ⟨entry, member, isDestination⟩ := List.any_eq_true.mp counted
    have observes :
        ∀ flow info, members.trafficMatrix.lookup flow = some info →
          virtualToPhysical info.dstIp ≠ none ∧
            info.gwIp ∈ sim.gwAddresses :=
      (agrees.informed _ _ installed).observes
    have found := AList.mem_entries_iff.mp member
    rw [← of_decide_eq_true isDestination]
    exact (observes _ _ found).1
  next => simp at counted

/-- What the controller installs is right. -/
theorem Agrees.installPlans
    {state : RoutedState}
    (agrees : sim.Agrees virtualToPhysical addresses state)
    (chosen : Nat → Nat → Bool) :
    sim.Agrees virtualToPhysical addresses
      (sim.installPlans state chosen) where
  sameMapping := agrees.sameMapping
  sameAddresses := agrees.sameAddresses
  informed := by
    intro node application installed
    unfold RoutedSimulation.installPlans at installed
    dsimp only at installed
    split at installed
    next gwAddresses switchMode members before =>
      rw [← Option.some.inj installed]
      have stores :
          members.cache.Stores fun key value =>
            virtualToPhysical key = some value :=
        (agrees.informed node _ before).stores
      refine ⟨stores.bulkInsert fun item member => ?_, ?_⟩
      · obtain ⟨container, isPlanned, rfl⟩ := List.mem_map.mp member
        have active :=
          (Bool.and_eq_true_iff.mp (List.mem_filter.mp isPlanned).2).1
        obtain ⟨address, found⟩ :=
          Option.ne_none_iff_exists'.mp (agrees.mapped_of_isActive active)
        change
          virtualToPhysical (UInt32.ofNat container) =
            some
              ((state.virtualToPhysical (UInt32.ofNat container)).getD 0)
        rw [agrees.sameMapping, found, Option.getD_some]
      · intro flow info found
        exact absurd found (by simp [SwitchApp.Members.getTrafficMatrix,
          SwitchApp.Members.bulkInsertToCache])
    next => exact agrees.informed node application installed
  honest := agrees.honest
  delivered := agrees.delivered

/-! ## Runs -/

/-- What a container sends is right. -/
theorem Agrees.virtualSend
    {state : RoutedState}
    (agrees : sim.Agrees virtualToPhysical addresses state)
    (deployed : sim.Deployed virtualToPhysical addresses)
    {leaf host : Nat}
    (present : sim.HasNode (.host leaf host))
    {source destination : Ipv4Address}
    (isHere : source ∈ state.addresses leaf host)
    (permitted : sim.OnServer state.virtualToPhysical destination)
    {flowId : UInt32}
    {pick : Nat}
    {sent : HostState × Handling}
    (sends :
      sim.virtualSend state.virtualToPhysical leaf host
          (state.hosts leaf host)
          (sim.newPacket state leaf host source destination flowId) pick =
        some sent) :
    ∀ transit ∈ sent.2.transits, sim.Honest virtualToPhysical transit := by
  have fullTtl : ¬ (64 : UInt8) < 64 := by decide
  have fresh :
      ¬ (sim.newPacket state leaf host source destination
        flowId).packet.inner.ttl < 64 :=
    fullTtl
  obtain ⟨hostState, call, delay, sending, chosen⟩ :=
    (sim.socketHelper leaf host).exists_virtualSend
      (state.hosts leaf host) fresh
  rw [agrees.sameAddresses, deployed.mem_addresses_iff present] at isHere
  have due :
      FaithfullySent virtualToPhysical (sim.hostAddress leaf host)
        (sim.newPacket state leaf host source destination flowId).packet
        call :=
    { evicted := fun _ member => absurd member List.not_mem_nil
      uninvalidated := rfl
      ttl := rfl
      misdeliveries := rfl
      source := isHere
      call := by rcases chosen with rfl | rfl <;> simp }
  obtain ⟨address, located, _⟩ := permitted
  rw [agrees.sameMapping] at located
  unfold RoutedSimulation.virtualSend at sends
  dsimp only at sends
  rw [sending] at sends
  dsimp only at sends
  split at sends
  next =>
    simp only [perform, Option.map_map, Option.map_eq_some_iff] at sends
    obtain ⟨packet, performed, rfl⟩ := sends
    rw [agrees.sameMapping] at performed
    intro transit member
    have faithful :
        Faithful sim.setupApplications virtualToPhysical
          { sim.newPacket state leaf host source destination flowId with
            packet := packet }.packet :=
      due.faithful located performed
    exact honest_of_mem_output faithful member
  next =>
    rw [← Option.some.inj sends]
    intro transit member
    rw [List.mem_singleton.mp member]
    exact due

/-- One step keeps the agreement and the order. -/
theorem Agrees.step
    {state next : RoutedState}
    {action : RoutedAction}
    (agrees : sim.Agrees virtualToPhysical addresses state)
    (deployed : sim.Deployed virtualToPhysical addresses)
    (inOrder : sim.InOrder 0 state)
    (spec : StepSpec sim 0 state action next)
    (static : sim.StaticWorkload state action)
    (stepped : sim.system.step state action = some next) :
    sim.Agrees virtualToPhysical addresses next := by
  obtain ⟨permitted, noMigration⟩ := static
  have delivered :
      ∀ delivery ∈ next.delivered,
        virtualToPhysical delivery.tagged.packet.inner.destination =
          some (sim.hostAddress delivery.leaf delivery.host) := by
    intro delivery member
    rcases spec.delivered delivery member with old | ⟨_, isHere⟩
    · exact agrees.delivered delivery old
    · have timely := spec.inOrder.delivered delivery member
      rw [agrees.sameAddresses,
        deployed.mem_addresses_iff timely.present] at isHere
      exact isHere
  cases sim.steps_of_step stepped with
  | send present _ isHere sends =>
      refine
        { sameMapping := agrees.sameMapping
          sameAddresses := agrees.sameAddresses
          informed := agrees.informed
          honest := fun transit member => ?_
          delivered := delivered }
      rcases List.mem_append.mp member with old | isNew
      · exact agrees.honest transit old
      · exact
          agrees.virtualSend deployed present isHere permitted.1 sends
            transit isNew
  | handle found handles =>
      obtain ⟨same, _⟩ := sameTraffic_of_handle handles
      obtain ⟨informed, honest⟩ :=
        agrees.handle deployed inOrder (List.mem_of_getElem? found) handles
      refine
        { sameMapping := same.virtualToPhysical.trans agrees.sameMapping
          sameAddresses := same.addresses.trans agrees.sameAddresses
          informed := informed
          honest := fun other member => ?_
          delivered := delivered }
      rcases List.mem_append.mp member with old | isNew
      · rw [same.transits] at old
        exact agrees.honest other (List.mem_of_mem_eraseIdx old)
      · exact honest other isNew
  | lose found =>
      exact
        { agrees with
          honest := fun other member =>
            agrees.honest other (List.mem_of_mem_eraseIdx member) }
  | migration => exact absurd rfl (noMigration _ _)
  | querySwitches => exact agrees.installPlans _

theorem informed_p4SwitchApp
    (switchType : SwitchType)
    (simMode : Mode)
    (node : Node) :
    sim.Informed virtualToPhysical
      (sim.p4SwitchApp sim.memory switchType simMode node) where
  stores := by
    unfold TraceSimulation.p4SwitchApp SwitchApplication.Stores
    exact P4Cache.Stores.setup _ sim.memory.memorySize_pos _
  observes := trivial

/-- Every fresh application serves nothing yet. -/
theorem informed_of_applicationAt
    {node : Node}
    {application : SwitchApplication}
    (installed : sim.applicationAt sim.memory node = some application) :
    sim.Informed virtualToPhysical application := by
  cases TraceSimulation.installs_of_applicationAt installed with
  | caching => exact informed_p4SwitchApp _ _ _
  | gatewayLeaf => exact informed_p4SwitchApp _ _ _
  | bluebird => exact informed_p4SwitchApp _ _ _
  | plain =>
      refine ⟨LRUCache.Stores.setCapacity _, fun flow info found => ?_⟩
      exact absurd found (by simp [SwitchApp.Members.setup])

theorem agrees_start :
    sim.Agrees virtualToPhysical addresses
      (sim.start virtualToPhysical addresses) where
  sameMapping := rfl
  sameAddresses := rfl
  informed := fun _ _ installed => informed_of_applicationAt installed
  honest := fun _ member => absurd member List.not_mem_nil
  delivered := fun _ member => absurd member List.not_mem_nil

/-- A state of a run in which nothing migrates. -/
structure Settles
    (sim : RoutedSimulation)
    (virtualToPhysical : Ipv4Address → Option Ipv4Address)
    (addresses : Nat → Nat → List Ipv4Address)
    (state : RoutedState) :
    Prop where
  inOrder : sim.InOrder 0 state
  agrees : sim.Agrees virtualToPhysical addresses state

/-- Without migrations the mappings in use stay right. -/
theorem maintains_settles
    (deployed : sim.Deployed virtualToPhysical addresses) :
    Maintains sim 0 sim.StaticWorkload
      (Settles sim virtualToPhysical addresses) where
  inOrder := fun settles => settles.inOrder
  orderly := fun settles =>
    settles.agrees.orderly deployed settles.inOrder
  permitted := fun _ static => static.1
  handling := fun _ _ _ _ _ =>
    ⟨trivial, fun _ _ => RoutedAction.noConfusion⟩
  preserved := fun settles static stepped spec =>
    ⟨spec.inOrder,
      settles.agrees.step deployed settles.inOrder spec static stepped⟩

theorem settles_start :
    Settles sim virtualToPhysical addresses
      (sim.start virtualToPhysical addresses) :=
  ⟨inOrder_start virtualToPhysical addresses, agrees_start⟩

theorem settles_of_reachable
    (deployed : sim.Deployed virtualToPhysical addresses)
    (notBluebird : sim.NotBluebird)
    {state : RoutedState}
    (reachable :
      sim.system.Reachable sim.StaticWorkload
        (sim.start virtualToPhysical addresses) state) :
    Settles sim virtualToPhysical addresses state := by
  refine
    reachable.invariant (Settles sim virtualToPhysical addresses)
      settles_start ?_
  intro current action next settles static stepped
  exact
    ((maintains_settles deployed).step deployed.sound notBluebird settles
      static stepped).1

/--
While nothing migrates, no node ever drops a packet, and every delivery is to
the host of the container, after ten hops at most.
-/
theorem delivered_of_static
    (deployed : sim.Deployed virtualToPhysical addresses)
    (notBluebird : sim.NotBluebird)
    {state : RoutedState}
    (reachable :
      sim.system.Reachable sim.StaticWorkload
        (sim.start virtualToPhysical addresses) state) :
    state.dropped = [] ∧
      ∀ delivery ∈ state.delivered,
        virtualToPhysical delivery.tagged.packet.inner.destination =
            some (sim.hostAddress delivery.leaf delivery.host) ∧
          (delivery.leaf, delivery.host) ∉ sim.gws ∧
          delivery.tagged.getHops ≤ 10 ∧
          54 ≤ delivery.tagged.packet.outer.ttl.toNat := by
  obtain ⟨inOrder, agrees⟩ :=
    settles_of_reachable deployed notBluebird reachable
  refine ⟨inOrder.undropped, fun delivery member => ?_⟩
  have timely := inOrder.delivered delivery member
  exact
    ⟨agrees.delivered delivery member, timely.server, timely.hops,
      timely.ttl⟩

theorem mem_addresses_pods_iff
    {leaf : Nat}
    (leafSmall : leaf < 4)
    (container : Ipv4Address) :
    container ∈ pods.addresses leaf 0 ↔
      pods.virtualToPhysical container =
        some (FlowPaths.gatewayPods.hostAddress leaf 0) := by
  have small :
      ∀ leaf < 4, ∀ container < 4,
        UInt32.ofNat container ∈ pods.addresses leaf 0 ↔
          pods.virtualToPhysical (UInt32.ofNat container) =
            some (FlowPaths.gatewayPods.hostAddress leaf 0) := by
    decide
  by_cases isSmall : container < 4
  · rw [← UInt32.ofNat_toNat (x := container)]
    exact small leaf leafSmall container.toNat isSmall
  · have unmapped : pods.virtualToPhysical container = none :=
      if_neg fun inside => isSmall inside.2
    rw [unmapped]
    refine iff_of_false (fun member => isSmall ?_) (by simp)
    unfold pods.addresses at member
    split at member
    next =>
      rw [List.mem_singleton.mp member, UInt32.lt_iff_toNat_lt,
        UInt32.toNat_ofNat', Nat.mod_eq_of_lt (by omega)]
      exact leafSmall
    next => exact absurd member List.not_mem_nil

theorem deployed_pods (simMode : Mode) :
    (pods simMode).Deployed pods.virtualToPhysical pods.addresses where
  sound :=
    { routable :=
        { accepted := { RoutingDelivery.accepted_twoPods with }
          fits := { RoutingDelivery.fits_twoPods with }
          crossing := Or.inr (by decide : 1 ≤ 2) }
      placed := fun gw member => by
        rw [List.mem_singleton.mp member]
        cases simMode <;> decide
      gateways := List.cons_ne_nil _ _ }
  mem_addresses_iff := by
    intro leaf host present container
    obtain ⟨leafSmall, hostSmall⟩ := present
    have isFour : leaf < 4 := leafSmall
    have single :
        ∀ leaf < 4, FlowPaths.gatewayPods.hostCount leaf = 1 := by
      decide
    have isZero : host = 0 :=
      Nat.lt_one_iff.mp (hostSmall.trans_eq (single leaf isFour))
    rw [isZero]
    exact mem_addresses_pods_iff isFour container

theorem isServer_pods
    (simMode : Mode)
    {leaf : Nat}
    (positive : 0 < leaf)
    (small : leaf < 4) :
    (pods simMode).IsServer
      (FlowPaths.gatewayPods.hostAddress leaf 0) := by
  have servers :
      ∀ leaf < 4, 0 < leaf →
        FlowPaths.gatewayPods.HasNode (.host leaf 0) ∧
          FlowPaths.gatewayPods.hostAddress leaf 0 ∉
            FlowPaths.gatewayPods.gwAddresses := by
    decide
  obtain ⟨present, noGateway⟩ := servers leaf small positive
  exact ⟨⟨leaf, 0, present, rfl⟩, noGateway⟩

/-- The container is on a host of the two pods, but not on the gateway. -/
def podsServe (state : RoutedState) (container : Ipv4Address) : Bool :=
  [1, 2, 3].any fun leaf =>
    state.virtualToPhysical container =
      some (FlowPaths.gatewayPods.hostAddress leaf 0)

theorem onServer_of_podsServe
    (simMode : Mode)
    {state : RoutedState}
    {container : Ipv4Address}
    (serves : podsServe state container = true) :
    (pods simMode).OnServer state.virtualToPhysical container := by
  obtain ⟨leaf, member, isThere⟩ := List.any_eq_true.mp serves
  have bounds : ∀ leaf ∈ [1, 2, 3], 0 < leaf ∧ leaf < 4 := by decide
  obtain ⟨positive, small⟩ := bounds leaf member
  exact ⟨_, of_decide_eq_true isThere, isServer_pods simMode positive small⟩

theorem permitted_of_podsServe
    (simMode : Mode)
    {state : RoutedState}
    {leaf host : Nat}
    {destination : Ipv4Address}
    (sends :
      (podsServe state destination &&
        !(state.addresses leaf host).contains destination) = true) :
    (pods simMode).OnServer state.virtualToPhysical destination ∧
      destination ∉ state.addresses leaf host := by
  obtain ⟨serves, elsewhere⟩ := Bool.and_eq_true_iff.mp sends
  exact
    ⟨onServer_of_podsServe simMode serves, by simpa using elsewhere⟩

/-- The executable form of `StaticWorkload`. -/
def podsStatic (state : RoutedState) : RoutedAction → Bool
  | .send leaf host _ destination _ _ =>
      podsServe state destination &&
        !(state.addresses leaf host).contains destination
  | .migration _ _ => false
  | _ => true

theorem staticWorkload_of_podsStatic
    (simMode : Mode)
    (state : RoutedState)
    (action : RoutedAction)
    (allowed : podsStatic state action = true) :
    (pods simMode).StaticWorkload state action := by
  cases action with
  | send => exact ⟨permitted_of_podsServe simMode allowed, by simp⟩
  | migration => simp [podsStatic] at allowed
  | _ => exact ⟨trivial, by simp⟩

theorem notBluebird_pods : (pods .switchV2P).NotBluebird := by
  unfold NotBluebird
  decide

/-- One packet goes to the gateway and to its container. -/
theorem performs_pods :
    ∃ state,
      (pods .switchV2P).system.Performs (pods .switchV2P).StaticWorkload
          (pods.start .switchV2P) pods.resolve state ∧
        state.delivered.length = 1 :=
  TransitionSystem.Performs.exists_of_run?
    (staticWorkload_of_podsStatic .switchV2P) (by decide +kernel)
    (by decide +kernel)

/-- A packet that is resolved by the gateway. -/
theorem delivered_of_static_pods :
    ∃ state,
      (pods .switchV2P).system.Reachable (pods .switchV2P).StaticWorkload
          (pods.start .switchV2P) state ∧
        state.delivered.length = 1 ∧
        state.dropped = [] ∧
        ∀ delivery ∈ state.delivered,
          pods.virtualToPhysical delivery.tagged.packet.inner.destination =
              some
                ((pods .switchV2P).hostAddress delivery.leaf
                  delivery.host) ∧
            (delivery.leaf, delivery.host) ∉ (pods .switchV2P).gws ∧
            delivery.tagged.getHops ≤ 10 ∧
            54 ≤ delivery.tagged.packet.outer.ttl.toNat := by
  obtain ⟨state, performs, delivered⟩ := performs_pods
  have reachable := performs.reachable
  exact
    ⟨state, reachable, delivered,
      delivered_of_static (deployed_pods _) notBluebird_pods reachable⟩

/-- However the nodes take turns, each packet is handled 74 times at most. -/
theorem countP_handles_le_of_static
    (deployed : sim.Deployed virtualToPhysical addresses)
    (notBluebird : sim.NotBluebird)
    {actions : List RoutedAction}
    {state : RoutedState}
    (performs :
      sim.system.Performs sim.StaticWorkload
        (sim.start virtualToPhysical addresses) actions state) :
    actions.countP handles ≤ 74 * actions.countP sends :=
  (maintains_settles deployed).countP_handles_le deployed.sound notBluebird
    settles_start performs

/-- Eleven times are enough for that packet. -/
theorem countP_handles_le_of_static_pods :
    ∃ state,
      (pods .switchV2P).system.Performs (pods .switchV2P).StaticWorkload
          (pods.start .switchV2P) pods.resolve state ∧
        pods.resolve.countP handles = 11 ∧
        pods.resolve.countP handles ≤ 74 * pods.resolve.countP sends := by
  obtain ⟨state, performs, _⟩ := performs_pods
  exact
    ⟨state, performs, by decide,
      countP_handles_le_of_static (deployed_pods _) notBluebird_pods
        performs⟩

/--
From wherever a run has got, letting the nodes handle what there is comes to an
end, and then every packet is delivered that no queue has dropped.
-/
theorem exists_quiet_of_static
    (deployed : sim.Deployed virtualToPhysical addresses)
    (notBluebird : sim.NotBluebird)
    {state : RoutedState}
    (reachable :
      sim.system.Reachable sim.StaticWorkload
        (sim.start virtualToPhysical addresses) state) :
    ∃ actions final,
      sim.system.Performs sim.StaticWorkload state actions final ∧
        (∀ action ∈ actions, handles action = true) ∧
        final.transits = [] ∧
        (final.delivered.map (fun delivery => delivery.tagged.uid) ++
            final.lost.flatMap Transit.uids).Perm
          (List.range final.sent) := by
  obtain ⟨actions, final, performs, onlyHandles, settles, quiet⟩ :=
    (maintains_settles deployed).exists_quiet deployed.sound notBluebird
      (settles_of_reachable deployed notBluebird reachable)
  have balanced :=
    balanced_of_reachable virtualToPhysical addresses
      (reachable.trans performs.reachable)
  exact
    ⟨actions, final, performs, onlyHandles, quiet,
      perm_of_quiet balanced settles.inOrder quiet⟩

/-- From the moment at which a packet has left its host. -/
theorem exists_quiet_of_static_pods :
    ∃ state,
      (pods .switchV2P).system.Reachable (pods .switchV2P).StaticWorkload
          (pods.start .switchV2P) state ∧
        state.transits.length = 1 ∧
        ∃ actions final,
          (pods .switchV2P).system.Performs (pods .switchV2P).StaticWorkload
              state actions final ∧
            (∀ action ∈ actions, handles action = true) ∧
            final.transits = [] ∧
            (final.delivered.map (fun delivery => delivery.tagged.uid) ++
                final.lost.flatMap Transit.uids).Perm
              (List.range final.sent) := by
  obtain ⟨state, performs, inTransit⟩ :
      ∃ state,
        (pods .switchV2P).system.Performs (pods .switchV2P).StaticWorkload
            (pods.start .switchV2P) (pods.resolve.take 1) state ∧
          state.transits.length = 1 :=
    TransitionSystem.Performs.exists_of_run?
      (staticWorkload_of_podsStatic .switchV2P) (by decide +kernel)
      (by decide +kernel)
  exact
    ⟨state, performs.reachable, inTransit,
      exists_quiet_of_static (deployed_pods _) notBluebird_pods
        performs.reachable⟩

end SwitchV2P.RoutedSimulation
