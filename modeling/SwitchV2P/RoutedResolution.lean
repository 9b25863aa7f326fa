import SwitchV2P.RoutedCounters

namespace SwitchV2P

/-!
# Hits and gateway packets

While nothing migrates, a packet that its host has sent to a gateway is
resolved once: by the first switch that has the destination in its cache, or
by the gateway.  Where every hit is traced, the two counts add up to what was
sent.
-/

namespace SwitchApplication

variable
  {holds : Ipv4Address → Ipv4Address → Prop}
  {gwAddresses : List Ipv4Address}

/-- What a traced hit says about the destination of a packet. -/
structure Traces
    (gwAddresses : List Ipv4Address)
    (holds : Ipv4Address → Ipv4Address → Prop)
    (draw : Bool)
    (application : SwitchApplication)
    (packet after : DataPacket) :
    Prop where
  hit :
    application.tracesCacheHit draw packet = true →
      packet.outer.destination ∈ gwAddresses ∧
        holds packet.inner.destination after.outer.destination
  miss :
    application.tracesCacheHit draw packet = false →
      after.outer.destination = packet.outer.destination

theorem traces_p4SwitchApp
    {config : SwitchConfig}
    {state : SwitchState}
    (readsTags : config.readsTags = true)
    (sameGateways : config.gwAddresses = gwAddresses)
    {draw : Bool}
    {packet : DataPacket}
    (uninvalidated : packet.invalidationTag.tags = [])
    (handled :
      config.Handled holds packet
        (config.receivePacket draw state packet)) :
    Traces gwAddresses holds draw (.p4SwitchApp config state) packet
      (config.receivePacket draw state packet).packet := by
  have noTag : packet.invalidationTag.peek = none := by
    rw [TagStack.peek, uninvalidated]
    rfl
  obtain ⟨added, kept⟩ :=
    config.hitTag_receivePacket draw state readsTags noTag
  have longer {stack : TagStack HitTag} {tag : HitTag} :
      stack.add tag ≠ stack := by
    intro same
    have lengths := congrArg (fun stack => stack.tags.length) same
    simp at lengths
  have retagged := handled.hitTag
  constructor
  · intro traced
    have isAdded := added traced
    cases retagged with
    | kept same unredirected =>
        exact absurd (isAdded.symm.trans same) longer
    | reported _ tagged _ => exact absurd (noTag.symm.trans tagged) (by simp)
    | hit _ _ toGateway vouched _ =>
        rw [SwitchConfig.isGateway, decide_eq_true_eq, sameGateways]
          at toGateway
        exact ⟨toGateway, vouched⟩
  · intro untraced
    have isKept := kept untraced
    cases retagged with
    | kept same unredirected => exact unredirected readsTags noTag
    | reported _ tagged _ => exact absurd (noTag.symm.trans tagged) (by simp)
    | hit _ _ _ _ isAdded =>
        exact absurd (isAdded.symm.trans isKept) longer

theorem traces_switchApp
    {switchMode : Mode}
    {members : SwitchApp.Members}
    (stores : members.cache.Stores holds)
    (draw : Bool)
    (packet : DataPacket) :
    Traces gwAddresses holds draw
      (.switchApp gwAddresses switchMode members) packet
      (SwitchApp.receivePacket gwAddresses members.cache packet).2 := by
  have found := LRUCache.get_fst members.cache packet.inner.destination
  constructor
  · intro traced
    obtain ⟨toGateway, hit⟩ := Bool.and_eq_true_iff.mp traced
    obtain ⟨address, isHit⟩ := Option.isSome_iff_exists.mp hit
    have isGateway := of_decide_eq_true toGateway
    rw [SwitchApp.destination_receivePacket, if_pos isGateway, isHit]
    exact ⟨isGateway, stores _ _ (found.symm.trans isHit)⟩
  · intro untraced
    rw [SwitchApp.destination_receivePacket]
    split
    next isGateway =>
      have miss :
          (members.cache.get packet.inner.destination).1 = none := by
        rw [tracesCacheHit, SwitchApp.tracesCacheHit,
          decide_eq_true isGateway, Bool.true_and] at untraced
        exact Option.isNone_iff_eq_none.mp
          (Option.isSome_eq_false_iff.mp untraced)
      rw [miss]
      rfl
    next => rfl

end SwitchApplication

namespace RoutedSimulation

open StaticMappings

variable (sim : RoutedSimulation)

/-- The modes in which every redirection by a switch is traced. -/
def TracesHits : Prop :=
  sim.simParameters.simMode = .switchV2P ∨
    sim.simParameters.simMode = .controller ∨
    sim.simParameters.simMode = .noCache

/-- Does a gateway still have to send the packet on? -/
def unresolved : Transit → Nat
  | .data _ tagged => sim.gatewaysAhead tagged.destination
  | .protocol _ _ => 0
  | .scheduled _ _ _ (.sendToGateway _) => 1
  | .scheduled _ _ _ (.sendFollowMeRule _) => 0
  | .atGateway _ _ _ => 1

/-- The packets that nobody has resolved, those that queues dropped included. -/
def totalUnresolved (state : RoutedState) : Nat :=
  (state.transits.map sim.unresolved).sum +
    (state.lost.map sim.unresolved).sum

/-- What was sent is resolved by a switch, by a gateway or not yet. -/
def Resolves (state : TracedState) : Prop :=
  state.counters.sentPackets =
    state.counters.gwPackets + state.counters.switchToCacheHits.sum +
      sim.totalUnresolved state.network

variable
  {sim : RoutedSimulation}
  {virtualToPhysical : Ipv4Address → Option Ipv4Address}
  {addresses : Nat → Nat → List Ipv4Address}

/-- In these modes an application that reads no tags is a `SwitchApp`. -/
theorem TracesHits.readsTags
    (tracesHits : sim.TracesHits)
    {state : RoutedState}
    (equipped : sim.Equipped state)
    {node : Node}
    {config : SwitchConfig}
    {tables : SwitchState}
    (installed :
      state.applications node = some (.p4SwitchApp config tables)) :
    config.readsTags = true := by
  obtain ⟨initial, installs, sameKind⟩ := equipped.installs installed
  cases installs with
  | caching mode =>
      have sameConfig :
          config =
            sim.switchConfig node (sim.switchTypeOf node)
              sim.simParameters.simMode :=
        SwitchKind.p4SwitchApp.inj sameKind
      rw [sameConfig, SwitchConfig.readsTags, decide_eq_true_eq]
      change sim.simParameters.simMode ≠ .localLearning
      rcases tracesHits with isMode | isMode | isMode <;> simp [isMode]
  | gatewayLeaf mode =>
      rcases tracesHits with isMode | isMode | isMode <;>
        simp [isMode] at mode
  | bluebird mode =>
      rcases tracesHits with isMode | isMode | isMode <;>
        simp [isMode] at mode
  | plain notCaching =>
      exact absurd sameKind SwitchKind.noConfusion

/-- What a container's mapping names is no gateway. -/
theorem gatewaysAhead_of_mapped
    {container address : Ipv4Address}
    (onServer : sim.OnServer virtualToPhysical container)
    (mapped : virtualToPhysical container = some address) :
    sim.gatewaysAhead address = 0 := by
  obtain ⟨other, located, server⟩ := onServer
  rw [Option.some.inj (mapped.symm.trans located)]
  exact server.gatewaysAhead

/-- A switch resolves a packet for a gateway exactly if it traces a hit. -/
theorem gatewaysAhead_receivePacket
    (tracesHits : sim.TracesHits)
    {state : RoutedState}
    (equipped : sim.Equipped state)
    {node : Node}
    {application : SwitchApplication}
    (installed : state.applications node = some application)
    (informed : sim.Informed virtualToPhysical application)
    {packet : DataPacket}
    (faithful :
      Faithful sim.setupApplications virtualToPhysical packet)
    (onServer : sim.OnServer virtualToPhysical packet.inner.destination)
    {draw : Bool}
    {outcome : ApplicationOutcome}
    (received : application.receivePacket draw packet = some outcome) :
    sim.gatewaysAhead outcome.packet.outer.destination +
        (if application.tracesCacheHit draw packet then 1 else 0) =
      sim.gatewaysAhead packet.outer.destination := by
  have gateways := equipped.gatewaysOf_kind installed
  have traces :
      SwitchApplication.Traces sim.gwAddresses
        (fun key value => virtualToPhysical key = some value) draw
        application packet outcome.packet := by
    cases application with
    | p4SwitchApp config tables =>
        rw [SwitchApplication.receivePacket] at received
        dsimp only at received
        split at received
        next => exact absurd received (by simp)
        next =>
          rw [← Option.some.inj received]
          have stores :
              tables.cache.Stores fun key value =>
                virtualToPhysical key = some value :=
            informed.stores
          exact
            SwitchApplication.traces_p4SwitchApp
              (tracesHits.readsTags equipped installed) gateways
              faithful.uninvalidated
              (SwitchConfig.handled_receivePacket draw stores
                (offers_of_faithful gateways faithful))
    | switchApp gwAddresses switchMode members =>
        rw [SwitchApplication.receivePacket] at received
        rw [← Option.some.inj received]
        have isGateways : gwAddresses = sim.gwAddresses := gateways
        subst isGateways
        have stores :
            members.cache.Stores fun key value =>
              virtualToPhysical key = some value :=
          informed.stores
        exact SwitchApplication.traces_switchApp stores draw packet
  cases traced : application.tracesCacheHit draw packet with
  | true =>
      obtain ⟨toGateway, mapped⟩ := traces.hit traced
      rw [gatewaysAhead_of_mapped onServer mapped, gatewaysAhead,
        if_pos toGateway]
      rfl
  | false =>
      rw [traces.miss traced]
      rfl

/-! ## One step -/

/-- Protocol packets need no gateway. -/
theorem unresolved_of_protocol
    {transits : List Transit}
    (protocol : transits.flatMap Transit.packets = []) :
    (transits.map sim.unresolved).sum = 0 := by
  refine List.sum_eq_zero fun count member => ?_
  obtain ⟨transit, isTransit, rfl⟩ := List.mem_map.mp member
  have noPacket := List.flatMap_eq_nil_iff.mp protocol transit isTransit
  cases transit with
  | protocol node packet => rfl
  | _ => exact absurd noPacket (List.cons_ne_nil _ _)

/-- A send call resolves a packet exactly if it asks no gateway. -/
theorem gatewaysAhead_of_performed
    {leaf host : Nat}
    {packet sent : DataPacket}
    {call : SendCall}
    (sentFaithfully :
      FaithfullySent virtualToPhysical (sim.hostAddress leaf host) packet
        call)
    (onServer : sim.OnServer virtualToPhysical packet.inner.destination)
    (performed :
      (sim.socketHelper leaf host).perform virtualToPhysical packet call =
        some sent)
    (tagged : TaggedPacket) :
    sim.gatewaysAhead sent.outer.destination =
      sim.unresolved (.scheduled leaf host tagged call) := by
  cases call with
  | sendToGateway gwIdx =>
      simp only [SocketHelper.perform, Option.map_eq_some_iff] at performed
      obtain ⟨gateway, chosen, rfl⟩ := performed
      exact if_pos (List.mem_of_getElem? chosen)
  | sendFollowMeRule misdelivery =>
      cases misdelivery with
      | true => exact absurd rfl sentFaithfully.call
      | false =>
          obtain ⟨address, located, server⟩ := onServer
          rw [SocketHelper.perform, located, Option.getD_some] at performed
          rw [← Option.some.inj performed]
          exact server.gatewaysAhead

/-- Whoever resolves a packet reports it. -/
theorem Agrees.unresolved
    {state : RoutedState}
    (agrees : sim.Agrees virtualToPhysical addresses state)
    (deployed : sim.Deployed virtualToPhysical addresses)
    (inOrder : sim.InOrder 0 state)
    (tracesHits : sim.TracesHits)
    {transit : Transit}
    (member : transit ∈ state.transits)
    {draw : Bool}
    {handling : Handling}
    (continues : Continues sim state draw transit handling) :
    (handling.transits.map sim.unresolved).sum +
        (sim.reportsOf state draw transit).countP Report.isGatewayRx +
        (sim.reportsOf state draw transit).countP Report.isCacheHit =
      sim.unresolved transit := by
  have honest := agrees.honest transit member
  have placed := inOrder.placed transit member
  have onServer {packet : DataPacket}
      (routine : sim.Routine state.virtualToPhysical 0 packet) :
      sim.OnServer virtualToPhysical packet.inner.destination := by
    rw [← agrees.sameMapping]
    exact routine.container
  cases continues with
  | @relayed node next tagged application outcome generated isSwitch
      installed received protocol =>
      have onTheWay : sim.OnTheWay state.virtualToPhysical 0 node tagged :=
        placed
      have resolution :=
        gatewaysAhead_receivePacket tracesHits inOrder.equipped installed
          (agrees.informed node application installed) honest
          (onServer onTheWay.routine) received
      rw [reportsOf_switch isSwitch installed]
      change
        (sim.gatewaysAhead outcome.packet.outer.destination ::
              generated.map sim.unresolved).sum + _ + _ =
          sim.gatewaysAhead tagged.packet.outer.destination
      rw [List.sum_cons, unresolved_of_protocol protocol, ← resolution]
      split <;> rfl
  | @resolved leaf host tagged packet isGateway resolves =>
      have onTheWay :
          sim.OnTheWay state.virtualToPhysical 0 (.host leaf host)
            tagged :=
        placed
      rw [reportsOf_gateway isGateway]
      change 1 = sim.gatewaysAhead tagged.destination
      rw [onTheWay.destination_eq, gatewaysAhead, if_pos]
      exact
        (deployed.sound.mem_gws_iff onTheWay.present).mp isGateway
  | @delivered leaf host tagged server addressed isHere =>
      have onTheWay :
          sim.OnTheWay state.virtualToPhysical 0 (.host leaf host)
            tagged :=
        placed
      rw [reportsOf_server server addressed, if_pos isHere]
      change 0 = sim.gatewaysAhead tagged.destination
      rw [addressed, gatewaysAhead, if_neg]
      exact fun isGateway =>
        server
          ((deployed.sound.mem_gws_iff onTheWay.present).mpr isGateway)
  | misdelivered server addressed elsewhere fullTtl sameHops sameFlow
      again =>
      exact
        absurd (agrees.isHere deployed placed honest server) elsewhere
  | protocol protocol =>
      exact unresolved_of_protocol protocol
  | @called leaf host next tagged call packet performed =>
      have due :
          sim.ToBeSent state.virtualToPhysical 0 leaf host tagged call :=
        placed
      rw [agrees.sameMapping] at performed
      exact
        gatewaysAhead_of_performed honest (onServer due.routine) performed
          tagged
  | @sent leaf host next tagged =>
      have resolved :
          sim.Resolved state.virtualToPhysical 0 leaf host tagged :=
        placed
      change sim.gatewaysAhead tagged.destination + 1 = 1
      rw [resolved.server.gatewaysAhead]

/-- In these modes a container's packet goes to a gateway at once. -/
theorem TracesHits.unresolved_virtualSend
    (tracesHits : sim.TracesHits)
    {leaf host : Nat}
    {hostState : HostState}
    {tagged : TaggedPacket}
    {pick : Nat}
    {sent : HostState × Handling}
    (fresh : ¬ tagged.packet.inner.ttl < 64)
    (sends :
      sim.virtualSend virtualToPhysical leaf host hostState tagged pick =
        some sent)
    (undropped : sent.2.dropped = []) :
    (sent.2.transits.map sim.unresolved).sum = 1 := by
  have notDirect : sim.simParameters.simMode ≠ .direct := by
    rcases tracesHits with isMode | isMode | isMode <;> simp [isMode]
  have notOnDemand : sim.simParameters.simMode ≠ .onDemand := by
    rcases tracesHits with isMode | isMode | isMode <;> simp [isMode]
  unfold virtualSend at sends
  dsimp only at sends
  rw [(sim.socketHelper leaf host).virtualSend_fresh hostState notDirect
    notOnDemand fresh] at sends
  dsimp only at sends
  rw [if_pos rfl] at sends
  simp only [perform, Option.map_map, Option.map_eq_some_iff] at sends
  obtain ⟨_, performed, rfl⟩ := sends
  rw [SocketHelper.perform, Option.map_eq_some_iff] at performed
  obtain ⟨gateway, chosen, rfl⟩ := performed
  obtain ⟨next, output⟩ := exists_output undropped
  dsimp only [Function.comp_apply]
  rw [output]
  have isGateway : gateway ∈ sim.gwAddresses := List.mem_of_getElem? chosen
  change sim.gatewaysAhead gateway + 0 = 1
  rw [gatewaysAhead, if_pos isGateway]

theorem sum_unresolved_eraseIdx
    (sim : RoutedSimulation)
    {transits : List Transit}
    {position : Nat}
    {transit : Transit}
    (found : transits[position]? = some transit) :
    (transits.map sim.unresolved).sum =
      sim.unresolved transit +
        ((transits.eraseIdx position).map sim.unresolved).sum := by
  obtain ⟨inside, isTransit⟩ := List.getElem?_eq_some_iff.mp found
  rw [← ((List.getElem_cons_eraseIdx_perm inside).map
    sim.unresolved).sum_eq, List.map_cons, List.sum_cons, isTransit]

/-- No step without a migration resolves a packet twice or not at all. -/
theorem Resolves.step
    {state : TracedState}
    (resolves : sim.Resolves state)
    (deployed : sim.Deployed virtualToPhysical addresses)
    (notBluebird : sim.NotBluebird)
    (tracesHits : sim.TracesHits)
    (settles : Settles sim virtualToPhysical addresses state.network)
    {action : RoutedAction}
    {next : TracedState}
    (static : sim.StaticWorkload state.network action)
    (stepped : sim.traced.step state action = some next) :
    sim.Resolves next := by
  obtain ⟨inOrder, agrees⟩ := settles
  obtain ⟨after, steps, rfl⟩ := Option.map_eq_some_iff.mp stepped
  have orderly := agrees.orderly deployed inOrder
  have undropped :=
    (inOrder.step orderly deployed.sound notBluebird static.1
      steps).inOrder.undropped
  unfold Resolves totalUnresolved at resolves ⊢
  cases sim.steps_of_step steps with
  | @send _ _ _ _ _ _ sent _ _ _ sends =>
      have fullTtl : ¬ (64 : UInt8) < 64 := by decide
      have isNew :=
        tracesHits.unresolved_virtualSend fullTtl sends
          (List.append_eq_nil_iff.mp undropped).2
      change state.counters.sentPackets + 1 =
        state.counters.gwPackets +
            state.counters.switchToCacheHits.sum +
          (((state.network.transits ++ sent.2.transits).map
              sim.unresolved).sum +
            (state.network.lost.map sim.unresolved).sum)
      rw [List.map_append, List.sum_append, isNew, resolves]
      omega
  | @handle position _ _ draw transit handled found handles =>
      have member := List.mem_of_getElem? found
      obtain ⟨same, _⟩ := sameTraffic_of_handle handles
      have continues : Continues sim state.network draw transit handled.2 :=
        .of_handle inOrder orderly deployed.sound notBluebird member
          handles
      have resolution :=
        agrees.unresolved deployed inOrder tracesHits member continues
      have before := sum_unresolved_eraseIdx sim found
      have adds :=
        TrafficCounters.adds_performAll
          (sim.reportsOf state.network draw transit) state.counters
      rw [reports_handle found]
      dsimp only
      rw [adds.sentPackets, adds.gwPackets, adds.cacheHits,
        continues.unsent]
      change _ = _ +
        (((handled.1.transits.eraseIdx position ++
            handled.2.transits).map sim.unresolved).sum +
          (handled.1.lost.map sim.unresolved).sum)
      rw [same.transits, same.lost, List.map_append, List.sum_append]
      omega
  | @lose position transit found =>
      have before := sum_unresolved_eraseIdx sim found
      change state.counters.sentPackets =
        state.counters.gwPackets +
            state.counters.switchToCacheHits.sum +
          (((state.network.transits.eraseIdx position).map
              sim.unresolved).sum +
            ((state.network.lost ++ [transit]).map
              sim.unresolved).sum)
      rw [List.map_append, List.sum_append, List.map_singleton,
        List.sum_singleton]
      omega
  | migration => exact absurd rfl (static.2 _ _)
  | querySwitches => exact resolves

/-! ## Runs -/

theorem resolves_start
    (sim : RoutedSimulation)
    (virtualToPhysical : Ipv4Address → Option Ipv4Address)
    (addresses : Nat → Nat → List Ipv4Address)
    (misdeliveryCount : UInt32) :
    sim.Resolves
      (sim.tracedStart virtualToPhysical addresses misdeliveryCount) := by
  unfold Resolves totalUnresolved
  rfl

/-- What holds of all states, counted, while nothing migrates. -/
theorem settles_of_traced
    (deployed : sim.Deployed virtualToPhysical addresses)
    (notBluebird : sim.NotBluebird)
    {misdeliveryCount : UInt32}
    {state : TracedState}
    (reachable :
      sim.traced.Reachable
        (fun traced action => sim.StaticWorkload traced.network action)
        (sim.tracedStart virtualToPhysical addresses misdeliveryCount)
        state) :
    Settles sim virtualToPhysical addresses state.network ∧
      Accounted misdeliveryCount state :=
  (maintains_settles deployed).accounted deployed.sound notBluebird
    (by decide) settles_start reachable

/-- The resolutions of all runs in which nothing migrates. -/
theorem resolves_of_traced
    (deployed : sim.Deployed virtualToPhysical addresses)
    (notBluebird : sim.NotBluebird)
    (tracesHits : sim.TracesHits)
    {misdeliveryCount : UInt32}
    {state : TracedState}
    (reachable :
      sim.traced.Reachable
        (fun traced action => sim.StaticWorkload traced.network action)
        (sim.tracedStart virtualToPhysical addresses misdeliveryCount)
        state) :
    sim.Resolves state := by
  refine
    (reachable.invariant
      (fun traced =>
        Settles sim virtualToPhysical addresses traced.network ∧
          sim.Resolves traced)
      ⟨settles_start, resolves_start sim virtualToPhysical addresses _⟩
      ?_).2
  rintro current action next ⟨settles, resolves⟩ static stepped
  have further :=
    resolves.step deployed notBluebird tracesHits settles static stepped
  obtain ⟨after, steps, rfl⟩ := Option.map_eq_some_iff.mp stepped
  exact
    ⟨((maintains_settles deployed).step deployed.sound notBluebird settles
        static steps).1,
      further⟩

/--
While nothing migrates, the counters agree with the packets in every state, and
where hits are traced, each packet that was sent was hit, was resolved by a
gateway or is not resolved yet.
-/
theorem accounted_of_static
    (deployed : sim.Deployed virtualToPhysical addresses)
    (notBluebird : sim.NotBluebird)
    {misdeliveryCount : UInt32}
    {state : TracedState}
    (reachable :
      sim.traced.Reachable
        (fun traced action => sim.StaticWorkload traced.network action)
        (sim.tracedStart virtualToPhysical addresses misdeliveryCount)
        state) :
    Accounted misdeliveryCount state ∧ (sim.TracesHits → sim.Resolves state) :=
  ⟨(settles_of_traced deployed notBluebird reachable).2,
    fun tracesHits =>
      resolves_of_traced deployed notBluebird tracesHits reachable⟩

/-- A packet that the gateway has resolved, and one on its way to the spine. -/
theorem accounted_of_static_pods :
    ∃ state,
      (pods .switchV2P).traced.Reachable
          (fun traced action =>
            (pods .switchV2P).StaticWorkload traced.network action)
          ((pods .switchV2P).tracedStart pods.virtualToPhysical
            pods.addresses 5)
          state ∧
        (state.counters.sentPackets, state.counters.gwPackets,
            state.counters.switchToCacheHits.sum) =
          (2, 1, 0) ∧
        Accounted 5 state ∧
        (pods .switchV2P).Resolves state := by
  obtain ⟨state, performs, counted⟩ :
      ∃ state,
        (pods .switchV2P).traced.Performs
            (fun traced action =>
              (pods .switchV2P).StaticWorkload traced.network action)
            ((pods .switchV2P).tracedStart pods.virtualToPhysical
              pods.addresses 5)
            (pods.resolve ++ [.send 1 0 1 3 7 0]) state ∧
          (state.counters.sentPackets, state.counters.gwPackets,
              state.counters.switchToCacheHits.sum) =
            (2, 1, 0) :=
    TransitionSystem.Performs.exists_of_run?
      (fun traced : TracedState =>
        staticWorkload_of_podsStatic .switchV2P traced.network)
      (by decide +kernel) (by decide +kernel)
  obtain ⟨accounted, resolves⟩ :=
    accounted_of_static (deployed_pods _) notBluebird_pods
      performs.reachable
  exact
    ⟨state, performs.reachable, counted, accounted,
      resolves (Or.inl rfl)⟩

/--
When everything is delivered without losses or migrations, the statistics add
up: each packet was received after ten hops at most and none was misdelivered,
and where hits are traced, the gateways have resolved what was not hit.
-/
theorem addsUp_of_static
    (deployed : sim.Deployed virtualToPhysical addresses)
    (notBluebird : sim.NotBluebird)
    {misdeliveryCount : UInt32}
    {state : TracedState}
    (reachable :
      sim.traced.Reachable
        (fun traced action => sim.StaticWorkload traced.network action)
        (sim.tracedStart virtualToPhysical addresses misdeliveryCount)
        state)
    (quiet : state.network.transits = [])
    (lossless : state.network.lost = [])
    (ofFlows : state.network.delivered.all ofFlow = true) :
    AddsUp 0 misdeliveryCount state.counters ∧
      (sim.TracesHits →
        state.counters.gwPackets + state.counters.switchToCacheHits.sum =
          state.counters.sentPackets) := by
  obtain ⟨settles, accounted⟩ :=
    settles_of_traced deployed notBluebird reachable
  have balanced :=
    balanced_of_reachable virtualToPhysical addresses
      (reachable_of_traced reachable)
  refine
    ⟨accounted.addsUp balanced settles.inOrder quiet lossless ofFlows,
      fun tracesHits => ?_⟩
  have resolves :=
    resolves_of_traced deployed notBluebird tracesHits reachable
  rw [Resolves, totalUnresolved, quiet, lossless] at resolves
  exact resolves.symm

/-- The gateway resolves the first packet, and a switch hits the second one. -/
theorem addsUp_of_static_pods :
    ∃ state,
      (pods .switchV2P).traced.Reachable
          (fun traced action =>
            (pods .switchV2P).StaticWorkload traced.network action)
          ((pods .switchV2P).tracedStart pods.virtualToPhysical
            pods.addresses 5)
          state ∧
        (state.counters.sentPackets, state.counters.gwPackets,
            state.counters.switchToCacheHits.sum) =
          (2, 1, 1) ∧
        AddsUp 0 5 state.counters ∧
        state.counters.gwPackets + state.counters.switchToCacheHits.sum =
          state.counters.sentPackets := by
  obtain ⟨state, performs, seen⟩ :
      ∃ state,
        (pods .switchV2P).traced.Performs
            (fun traced action =>
              (pods .switchV2P).StaticWorkload traced.network action)
            ((pods .switchV2P).tracedStart pods.virtualToPhysical
              pods.addresses 5)
            (pods.resolve ++ .send 1 0 1 3 7 0 ::
              List.replicate 6 (.handle 0 false 0 0))
            state ∧
          ((state.counters.sentPackets, state.counters.gwPackets,
              state.counters.switchToCacheHits.sum),
            state.network.transits.length, state.network.lost.length,
            state.network.delivered.all ofFlow) =
          ((2, 1, 1), 0, 0, true) :=
    TransitionSystem.Performs.exists_of_run?
      (fun traced : TracedState =>
        staticWorkload_of_podsStatic .switchV2P traced.network)
      (by decide +kernel) (by decide +kernel)
  obtain ⟨counted, quiet, lossless, ofFlows⟩ := by
    simpa only [Prod.mk.injEq] using seen
  obtain ⟨addsUp, resolved⟩ :=
    addsUp_of_static (deployed_pods _) notBluebird_pods
      performs.reachable (List.length_eq_zero_iff.mp quiet)
      (List.length_eq_zero_iff.mp lossless) ofFlows
  refine ⟨state, performs.reachable, ?_, addsUp, resolved (Or.inl rfl)⟩
  simpa only [Prod.mk.injEq] using counted

end RoutedSimulation

end SwitchV2P
