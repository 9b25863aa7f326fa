import SwitchV2P.Potential
import SwitchV2P.RoutedHandling
import SwitchV2P.RoutedLedger

namespace SwitchV2P.RoutedSimulation

/-!
# Runs in which packets stay on their way

Two facts about the packets in a state are enough for everything in it to
proceed: switches redirect packets for gateways only, and to servers, and a
host that does not have a packet's container has not seen the limit of its
misdeliveries.  Which runs have these facts is shown elsewhere.
-/

variable (sim : RoutedSimulation)

/-- What the mappings in use have to ensure. -/
structure Orderly (limit : Nat) (state : RoutedState) : Prop where
  redirected :
    ∀ {node tagged application draw outcome},
      .data node tagged ∈ state.transits →
      state.applications node = some application →
      application.receivePacket draw tagged.packet = some outcome →
      outcome.packet.outer.destination = tagged.destination ∨
        (tagged.destination ∈ sim.gwAddresses ∧
          sim.IsServer outcome.packet.outer.destination)
  misdelivered :
    ∀ {leaf host tagged},
      .data (.host leaf host) tagged ∈ state.transits →
      (leaf, host) ∉ sim.gws →
      tagged.packet.inner.destination ∉ state.addresses leaf host →
      tagged.packet.misdeliveries < limit ∧
        tagged.packet.inner.ttl = 64 ∧
        (tagged.packet.hitTag.peek = none →
          sim.IsServer sim.setupApplications.followMeAddress)

/-- Every node has the application that was installed. -/
def Equipped (state : RoutedState) : Prop :=
  ∀ node,
    (state.applications node).map SwitchApplication.kind =
      (sim.applicationAt sim.memory node).map SwitchApplication.kind

/-- A delivery to a server after no more hops than that. -/
structure Timely (limit : Nat) (delivery : Delivery) : Prop where
  present : sim.HasNode (.host delivery.leaf delivery.host)
  server : (delivery.leaf, delivery.host) ∉ sim.gws
  misdeliveries : delivery.tagged.packet.misdeliveries ≤ limit
  hops : delivery.tagged.getHops ≤ 10 * (limit + 1)
  ttl : 54 ≤ delivery.tagged.packet.outer.ttl.toNat

/-- All packets are on their way or delivered. -/
structure InOrder (limit : Nat) (state : RoutedState) : Prop where
  equipped : sim.Equipped state
  placed :
    ∀ transit ∈ state.transits,
      sim.Placed state.virtualToPhysical limit transit
  delivered : ∀ delivery ∈ state.delivered, sim.Timely limit delivery
  undropped : state.dropped = []

/--
Containers talk to containers on other servers, and move to servers.  What a
host sends to a container of its own does not pass `VirtualSend`.
-/
def Permitted (state : RoutedState) : RoutedAction → Prop
  | .send leaf host _ destination _ _ =>
      sim.OnServer state.virtualToPhysical destination ∧
        destination ∉ state.addresses leaf host
  | .migration _ _ =>
      sim.IsServer sim.setupApplications.updateMappingsAddress
  | _ => True

/-- The simulated mode has no slow path of its own. -/
def NotBluebird : Prop :=
  sim.simParameters.simMode ≠ .bluebird

variable {sim : RoutedSimulation} {limit : Nat}

/-! ## Applications -/

theorem Equipped.setApplication
    {state : RoutedState}
    (equipped : sim.Equipped state)
    {node : Node}
    {application after : SwitchApplication}
    (installed : state.applications node = some application)
    (same : after.kind = application.kind) :
    sim.Equipped (state.setApplication node after) := by
  intro other
  by_cases isNode : other = node
  · subst isNode
    rw [← equipped other, installed,
      RoutedState.applications_setApplication_self, Option.map_some,
      Option.map_some, same]
  · rw [← equipped other,
      RoutedState.applications_setApplication_of_ne state isNode]

/-- A plan changes no application's kind. -/
theorem Equipped.installPlans
    {state : RoutedState}
    (equipped : sim.Equipped state)
    (chosen : Nat → Nat → Bool) :
    sim.Equipped (sim.installPlans state chosen) := by
  intro node
  rw [← equipped node]
  unfold RoutedSimulation.installPlans
  dsimp only
  split
  next installed =>
    rw [installed]
    rfl
  next => rfl

/-- Some application of that kind was installed. -/
theorem Equipped.installs
    {state : RoutedState}
    (equipped : sim.Equipped state)
    {node : Node}
    {application : SwitchApplication}
    (installed : state.applications node = some application) :
    ∃ initial,
      TraceSimulation.Installs sim.toTraceSimulation sim.memory node
          initial ∧
        application.kind = initial.kind := by
  have same := equipped node
  rw [installed, Option.map_some] at same
  obtain ⟨initial, isInitial, kind⟩ :=
    Option.map_eq_some_iff.mp same.symm
  exact
    ⟨initial, TraceSimulation.installs_of_applicationAt isInitial,
      kind.symm⟩

/-- Every switch has an application. -/
theorem Equipped.exists_application
    {state : RoutedState}
    (equipped : sim.Equipped state)
    (sound : sim.Sound)
    {node : Node}
    (present : sim.HasNode node)
    (isSwitch : node.isSwitch = true) :
    ∃ application, state.applications node = some application := by
  have installed :
      (sim.applicationAt sim.memory node).isSome = true :=
    (TraceSimulation.isSome_applicationAt sound.placed node).mpr
      ⟨present, isSwitch⟩
  have same := congrArg Option.isSome (equipped node)
  rw [Option.isSome_map, Option.isSome_map, installed] at same
  exact Option.isSome_iff_exists.mp same

/-- No other node has one. -/
theorem Equipped.isSwitch
    {state : RoutedState}
    (equipped : sim.Equipped state)
    (sound : sim.Sound)
    {node : Node}
    {application : SwitchApplication}
    (installed : state.applications node = some application) :
    node.isSwitch = true := by
  have same := congrArg Option.isSome (equipped node)
  rw [Option.isSome_map, Option.isSome_map, installed] at same
  exact
    ((TraceSimulation.isSome_applicationAt sound.placed node).mp
      same.symm).2

/-- Only the leaves have the types that generate packets. -/
theorem exists_leaf_of_switchTypeOf
    {node : Node}
    (generates :
      sim.switchTypeOf node = .leaf ∨ sim.switchTypeOf node = .gwLeaf) :
    ∃ leaf, node = .leaf leaf := by
  cases node with
  | leaf leaf => exact ⟨leaf, rfl⟩
  | spine spine =>
      rw [TraceSimulation.switchTypeOf] at generates
      split at generates <;> simp at generates
  | core core => simp [TraceSimulation.switchTypeOf] at generates
  | host leaf host => simp [TraceSimulation.switchTypeOf] at generates

/-- What a `P4SwitchApp` generates is for another switch. -/
theorem addressed_of_generates
    {node : Node}
    {virtualToPhysical : Ipv4Address → Option Ipv4Address}
    {packet : DataPacket}
    (routine : sim.Routine virtualToPhysical limit packet)
    {simMode : Mode}
    {protocol : ProtocolPacket}
    (elsewhere : protocol.destination ≠ sim.nodeAddress node)
    (addressee :
      (sim.switchConfig node (sim.switchTypeOf node) simMode).Addressee
        packet protocol.destination) :
    (∃ leaf, node = .leaf leaf) ∧
      ∃ target, target.isSwitch = true ∧ target ≠ node ∧
        sim.GoesBy protocol.destination target := by
  have different {target : Node}
      (goesBy : sim.GoesBy protocol.destination target) :
      target ≠ node := by
    rintro rfl
    exact elsewhere goesBy.2.symm
  generalize protocol.destination = address at addressee different
  cases addressee with
  | hitSwitch atLeaf tagged =>
      obtain ⟨target, isSwitch, goesBy⟩ := routine.hits _ tagged
      exact
        ⟨exists_leaf_of_switchTypeOf (Or.inl atLeaf), target, isSwitch,
          different goesBy, goesBy⟩
  | senderLeaf atGwLeaf =>
      obtain ⟨leaf, host, present, source⟩ := routine.sender
      have isLeaf :
          sim.GoesBy
            (LearningPackets.leafAbove
              (sim.switchConfig node (sim.switchTypeOf node) simMode)
              packet)
            (.leaf leaf) := by
        refine ⟨present.1, ?_⟩
        rw [LearningPackets.leafAbove, source, Option.getD_some]
        exact (sim.getLeafAddress_hostAddress leaf host).symm
      exact
        ⟨exists_leaf_of_switchTypeOf (Or.inr atGwLeaf), .leaf leaf, rfl,
          different isLeaf, isLeaf⟩

/-- The application of a switch relays data packets. -/
theorem Equipped.relays
    {state : RoutedState}
    (equipped : sim.Equipped state)
    {virtualToPhysical : Ipv4Address → Option Ipv4Address}
    {node : Node}
    {application : SwitchApplication}
    (installed : state.applications node = some application)
    {packet : DataPacket}
    (routine : sim.Routine virtualToPhysical limit packet)
    {draw : Bool}
    {outcome : ApplicationOutcome}
    (received : application.receivePacket draw packet = some outcome)
    (redirected :
      outcome.packet.outer.destination = packet.outer.destination ∨
        (packet.outer.destination ∈ sim.gwAddresses ∧
          sim.IsServer outcome.packet.outer.destination)) :
    sim.Relays node packet outcome := by
  obtain ⟨initial, installs, sameKind⟩ := equipped.installs installed
  cases application with
  | switchApp gwAddresses switchMode members =>
      rw [SwitchApplication.receivePacket] at received
      have isOutcome := Option.some.inj received
      subst isOutcome
      refine
        { same := ?_
          redirected := redirected
          hits := fun hitTag member => Or.inl ?_
          few := Nat.zero_le 1
          addressed := fun _ member => absurd member List.not_mem_nil }
      · unfold SwitchApp.Members.receivePacket SwitchApp.receivePacket
        dsimp only
        split
        · split <;> exact ⟨rfl, rfl, rfl, rfl, rfl, rfl, rfl⟩
        · exact .refl packet
      · unfold SwitchApp.Members.receivePacket SwitchApp.receivePacket
          at member
        dsimp only at member
        split at member
        · split at member <;> exact member
        · exact member
  | p4SwitchApp config tables =>
      rw [SwitchApplication.receivePacket] at received
      dsimp only at received
      split at received
      next => exact absurd received (by simp)
      next notBluebird =>
        have isOutcome := Option.some.inj received
        subst isOutcome
        obtain ⟨names, few, generates⟩ :=
          config.contributes_receivePacket draw tables packet
        refine
          { same := config.samePacket_receivePacket draw tables packet
            redirected := redirected
            hits := ?_
            few := few
            addressed := ?_ }
        · cases installs <;>
            simp only [SwitchApplication.kind, TraceSimulation.p4SwitchApp,
              TraceSimulation.switchApp, SwitchKind.p4SwitchApp.injEq,
              reduceCtorEq] at sameKind <;>
            subst sameKind <;> exact names
        · intro protocol member
          obtain ⟨readsTags, elsewhere, addressee⟩ :=
            generates protocol member
          cases installs with
          | caching mode =>
              have isConfig := SwitchKind.p4SwitchApp.inj sameKind
              subst isConfig
              exact
                ⟨mode.resolve_right readsTags,
                  addressed_of_generates routine elsewhere addressee⟩
          | gatewayLeaf mode =>
              have isConfig := SwitchKind.p4SwitchApp.inj sameKind
              subst isConfig
              exact absurd rfl readsTags
          | bluebird mode =>
              have isConfig := SwitchKind.p4SwitchApp.inj sameKind
              subst isConfig
              exact absurd rfl notBluebird
          | plain => exact absurd sameKind (by simp [SwitchApplication.kind,
              TraceSimulation.switchApp])

/-- Outside of Bluebird mode every data packet has an outcome. -/
theorem Equipped.exists_outcome
    {state : RoutedState}
    (equipped : sim.Equipped state)
    (notBluebird : sim.NotBluebird)
    {node : Node}
    {application : SwitchApplication}
    (installed : state.applications node = some application)
    (draw : Bool)
    (packet : DataPacket) :
    ∃ outcome, application.receivePacket draw packet = some outcome := by
  obtain ⟨initial, installs, sameKind⟩ := equipped.installs installed
  cases application with
  | switchApp gwAddresses switchMode members => exact ⟨_, rfl⟩
  | p4SwitchApp config tables =>
      have caches : config.simMode ≠ .bluebird := by
        cases installs with
        | caching mode =>
            rw [SwitchKind.p4SwitchApp.inj sameKind]
            exact notBluebird
        | gatewayLeaf mode =>
            rw [SwitchKind.p4SwitchApp.inj sameKind]
            simp [TraceSimulation.switchConfig]
        | bluebird mode => exact absurd mode notBluebird
        | plain =>
            exact absurd sameKind
              (by simp [SwitchApplication.kind, TraceSimulation.switchApp])
      rw [SwitchApplication.receivePacket, if_neg caches]
      exact ⟨_, rfl⟩

/-- In switch mode every application handles protocol packets. -/
theorem Equipped.handleProtocolPacket
    {state : RoutedState}
    (equipped : sim.Equipped state)
    (mode : sim.simParameters.simMode = .switchV2P)
    {node : Node}
    {application : SwitchApplication}
    (installed : state.applications node = some application)
    (packet : ProtocolPacket) :
    ∃ after,
      application.handleProtocolPacket packet =
        some
          (after,
            if packet.destination = sim.nodeAddress node then
              []
            else
              [packet]) := by
  obtain ⟨initial, installs, sameKind⟩ := equipped.installs installed
  cases installs with
  | caching =>
      cases application with
      | switchApp => simp [SwitchApplication.kind,
          TraceSimulation.p4SwitchApp] at sameKind
      | p4SwitchApp config tables =>
          have isConfig := SwitchKind.p4SwitchApp.inj sameKind
          refine
            ⟨.p4SwitchApp config
              (config.handleProtocolPacket tables packet).1, ?_⟩
          rw [SwitchApplication.handleProtocolPacket,
            config.handleProtocolPacket_sent, isConfig]
          rfl
  | gatewayLeaf other => simp [mode] at other
  | bluebird other => simp [mode] at other
  | plain notCaching => exact absurd (Or.inl mode) notCaching

/-! ## One packet -/

/-- Whatever is next for a packet in an orderly state happens. -/
theorem InOrder.handle
    {state : RoutedState}
    (inOrder : sim.InOrder limit state)
    (orderly : sim.Orderly limit state)
    (sound : sim.Sound)
    (notBluebird : sim.NotBluebird)
    {transit : Transit}
    (member : transit ∈ state.transits)
    (draw : Bool)
    (pick learnPick : Nat) :
    ∃ handled,
      sim.handle state draw pick learnPick transit = some handled ∧
        sim.Equipped handled.1 ∧
        sim.Proceeds state.virtualToPhysical state.addresses limit transit
          handled.2 := by
  have placed := inOrder.placed transit member
  cases transit with
  | data node tagged =>
      have onTheWay :
          sim.OnTheWay state.virtualToPhysical limit node tagged :=
        placed
      cases isSwitch : node.isSwitch with
      | true =>
          obtain ⟨application, installed⟩ :=
            inOrder.equipped.exists_application sound onTheWay.present
              isSwitch
          obtain ⟨outcome, received⟩ :=
            inOrder.equipped.exists_outcome notBluebird installed draw
              tagged.packet
          have relays :=
            inOrder.equipped.relays installed onTheWay.routine received
              (orderly.redirected member installed received)
          obtain ⟨handling, receives, proceeds⟩ :=
            onTheWay.receiveAtSwitch state.addresses sound isSwitch
              received relays pick learnPick
          refine
            ⟨(state.setApplication node outcome.application, handling), ?_,
              inOrder.equipped.setApplication installed
                (SwitchApplication.kind_receivePacket received),
              proceeds⟩
          rw [sim.handle_switch isSwitch, installed, Option.bind_some,
            receives]
          rfl
      | false =>
          obtain ⟨leaf, host, rfl⟩ := Node.exists_host isSwitch
          obtain ⟨received, receives, proceeds⟩ :=
            onTheWay.receiveAtHost sound (orderly.misdelivered member) pick
          refine
            ⟨(state.setHost leaf host received.1, received.2), ?_,
              inOrder.equipped, proceeds⟩
          rw [RoutedSimulation.handle, receives]
          rfl
  | protocol node packet =>
      have onTheWay : sim.ProtocolOnTheWay node packet := placed
      obtain ⟨application, installed⟩ :=
        inOrder.equipped.exists_application sound onTheWay.present
          onTheWay.isSwitch
      obtain ⟨after, handles⟩ :=
        inOrder.equipped.handleProtocolPacket onTheWay.mode installed packet
      refine
        ⟨(state.setApplication node after, _), ?_,
          inOrder.equipped.setApplication installed
            (SwitchApplication.kind_handleProtocolPacket handles),
          onTheWay.proceeds sound pick⟩
      simp only [RoutedSimulation.handle, installed, handles,
        Option.map_some]
      rfl
  | scheduled leaf host tagged call =>
      have due :
          sim.ToBeSent state.virtualToPhysical limit leaf host tagged
            call :=
        placed
      obtain ⟨sent, performed, onTheWay, work⟩ := due.perform sound pick
      refine
        ⟨(state, .send [.data (.leaf leaf) sent]), ?_, inOrder.equipped,
          .of_send onTheWay work⟩
      rw [RoutedSimulation.handle, performed]
      rfl
  | atGateway leaf host tagged =>
      have resolved :
          sim.Resolved state.virtualToPhysical limit leaf host tagged :=
        placed
      exact ⟨_, rfl, inOrder.equipped, resolved.proceeds sound pick⟩

/-- A delivery at the end of a way was in time. -/
theorem OnTheWay.timely
    {virtualToPhysical : Ipv4Address → Option Ipv4Address}
    {delivery : Delivery}
    (onTheWay :
      sim.OnTheWay virtualToPhysical limit
        (.host delivery.leaf delivery.host) delivery.tagged)
    (server : (delivery.leaf, delivery.host) ∉ sim.gws) :
    sim.Timely limit delivery := by
  have hops := onTheWay.hops
  have ttl := onTheWay.ttl
  refine
    ⟨onTheWay.present, server, onTheWay.routine.misdeliveries, ?_, ?_⟩
  · unfold HopsLeft at hops
    omega
  · omega

/-- The work of a state is that of one packet and that of the others. -/
theorem totalWork_eraseIdx
    {state : RoutedState}
    {position : Nat}
    {transit : Transit}
    (found : state.transits[position]? = some transit) :
    sim.totalWork limit state.transits =
      sim.workLeft limit transit +
        sim.totalWork limit (state.transits.eraseIdx position) := by
  obtain ⟨inside, isTransit⟩ := List.getElem?_eq_some_iff.mp found
  have perm :=
    (List.getElem_cons_eraseIdx_perm inside).map (sim.workLeft limit)
  rw [isTransit] at perm
  exact perm.sum_eq.symm.trans (by rw [List.map_cons, List.sum_cons]; rfl)

/-! ## One step -/

/-- A node handles a packet. -/
def handles : RoutedAction → Bool
  | .handle _ _ _ _ => true
  | _ => false

/-- A container sends a packet. -/
def sends : RoutedAction → Bool
  | .send _ _ _ _ _ _ => true
  | _ => false

theorem sends_of_handles
    {action : RoutedAction}
    (isHandle : handles action = true) :
    sends action = false := by
  cases action with
  | handle => rfl
  | _ => simp [handles] at isHandle

/-- What one step leaves, does and delivers. -/
structure StepSpec
    (sim : RoutedSimulation)
    (limit : Nat)
    (state : RoutedState)
    (action : RoutedAction)
    (next : RoutedState) :
    Prop where
  inOrder : sim.InOrder limit next
  work :
    sim.totalWork limit next.transits +
        (if handles action then 1 else 0) ≤
      sim.totalWork limit state.transits +
        (if sends action then 74 * (limit + 1) else 0)
  delivered :
    ∀ delivery ∈ next.delivered,
      delivery ∈ state.delivered ∨
        (.data (.host delivery.leaf delivery.host) delivery.tagged ∈
            state.transits ∧
          delivery.tagged.packet.inner.destination ∈
            state.addresses delivery.leaf delivery.host)

/-- Moving a container keeps every container on a server. -/
theorem OnServer.migrate
    {state : RoutedState}
    (server : sim.IsServer sim.setupApplications.updateMappingsAddress)
    {container : Ipv4Address}
    (onServer : sim.OnServer state.virtualToPhysical container)
    (srcLeaf srcHost : Nat) :
    sim.OnServer (sim.migrate state srcLeaf srcHost).virtualToPhysical
      container := by
  by_cases isMigrated : container = sim.migratedContainer
  · refine ⟨_, ?_, server⟩
    rw [isMigrated]
    exact Function.update_self ..
  · obtain ⟨address, located, isServer⟩ := onServer
    exact
      ⟨address, (Function.update_of_ne isMigrated ..).trans located,
        isServer⟩

theorem Placed.migrate
    {state : RoutedState}
    (server : sim.IsServer sim.setupApplications.updateMappingsAddress)
    {transit : Transit}
    (placed : sim.Placed state.virtualToPhysical limit transit)
    (srcLeaf srcHost : Nat) :
    sim.Placed (sim.migrate state srcLeaf srcHost).virtualToPhysical limit
      transit := by
  have routine
      {packet : DataPacket}
      (routine : sim.Routine state.virtualToPhysical limit packet) :
      sim.Routine (sim.migrate state srcLeaf srcHost).virtualToPhysical
        limit packet :=
    { routine with
      container := routine.container.migrate server srcLeaf srcHost }
  cases transit with
  | data node tagged =>
      have onTheWay : sim.OnTheWay _ limit node tagged := placed
      exact { onTheWay with routine := routine onTheWay.routine }
  | protocol node packet => exact placed
  | scheduled leaf host tagged call =>
      have due : sim.ToBeSent _ limit leaf host tagged call := placed
      exact { due with routine := routine due.routine }
  | atGateway leaf host tagged =>
      have resolved : sim.Resolved _ limit leaf host tagged := placed
      exact { resolved with routine := routine resolved.routine }

/-- A step that leaves the packets and the mapping alone. -/
theorem InOrder.of_same
    {state next : RoutedState}
    (inOrder : sim.InOrder limit state)
    (equipped : sim.Equipped next)
    (virtualToPhysical : next.virtualToPhysical = state.virtualToPhysical)
    (transits : next.transits = state.transits)
    (delivered : next.delivered = state.delivered)
    (dropped : next.dropped = state.dropped) :
    sim.InOrder limit next where
  equipped := equipped
  placed := by
    rw [virtualToPhysical, transits]
    exact inOrder.placed
  delivered := by
    rw [delivered]
    exact inOrder.delivered
  undropped := dropped.trans inOrder.undropped

/-- A container sends the next packet. -/
theorem InOrder.send
    {state next : RoutedState}
    (inOrder : sim.InOrder limit state)
    (sound : sim.Sound)
    {leaf host pick : Nat}
    {source destination : Ipv4Address}
    {flowId : UInt32}
    (onServer : sim.OnServer state.virtualToPhysical destination)
    (stepped :
      sim.step state (.send leaf host source destination flowId pick) =
        some next) :
    StepSpec sim limit state
      (.send leaf host source destination flowId pick) next := by
  cases sim.steps_of_step stepped with
  | send present _ _ sends =>
      have fullTtl : ¬ (64 : UInt8) < 64 := by decide
      have routine :
          sim.Routine state.virtualToPhysical limit
            (sim.newPacket state leaf host source destination
              flowId).packet :=
        { misdeliveries := Nat.zero_le limit
          container := onServer
          sender := ⟨leaf, host, present, rfl⟩
          hits := fun _ member => absurd member List.not_mem_nil }
      obtain ⟨hostState, transit, fresh, placed, work⟩ :=
        sound.virtualSend_fresh present routine fullTtl
          (by
            change 0 + 10 + 10 * (limit - 0) ≤ 10 * (limit + 1)
            omega)
          (state.hosts leaf host) pick
      obtain rfl := Option.some.inj (fresh.symm.trans sends)
      refine
        { inOrder :=
            { equipped := inOrder.equipped
              placed := fun other member => ?_
              delivered := inOrder.delivered
              undropped := ?_ }
          work := ?_
          delivered := fun _ member => Or.inl member }
      · rcases List.mem_append.mp member with old | isNew
        · exact inOrder.placed other old
        · rw [List.mem_singleton.mp isNew]
          exact placed
      · change state.dropped ++ [] = []
        rw [List.append_nil, inOrder.undropped]
      · change
          sim.totalWork limit (state.transits ++ [transit]) + 0 ≤
            sim.totalWork limit state.transits + 74 * (limit + 1)
        rw [totalWork_append, totalWork_cons, totalWork_nil]
        change _ ≤ 74 + 74 * (limit - 0) at work
        omega

/-- A packet that proceeds is replaced by what becomes of it. -/
theorem InOrder.replace
    {state after : RoutedState}
    (inOrder : sim.InOrder limit state)
    {position : Nat}
    {transit : Transit}
    {handling : Handling}
    (found : state.transits[position]? = some transit)
    (same : RoutedState.SameTraffic state after)
    (equipped : sim.Equipped after)
    (proceeds :
      sim.Proceeds state.virtualToPhysical state.addresses limit transit
        handling)
    {draw : Bool}
    {pick learnPick : Nat} :
    StepSpec sim limit state (.handle position draw pick learnPick)
      (after.replace position handling) := by
  have member := List.mem_of_getElem? found
  have delivered :
      ∀ delivery ∈ handling.delivered,
        .data (.host delivery.leaf delivery.host) delivery.tagged ∈
            state.transits ∧
          delivery.tagged.packet.inner.destination ∈
            state.addresses delivery.leaf delivery.host ∧
          sim.Timely limit delivery := by
    intro delivery isNew
    obtain ⟨rfl, server, isHere⟩ := proceeds.delivered delivery isNew
    have onTheWay :
        sim.OnTheWay state.virtualToPhysical limit _ _ :=
      inOrder.placed _ member
    exact ⟨member, isHere, onTheWay.timely server⟩
  refine
    { inOrder :=
        { equipped := equipped
          placed := fun other isLater => ?_
          delivered := fun delivery isLater => ?_
          undropped := ?_ }
      work := ?_
      delivered := fun delivery isLater => ?_ }
  · change sim.Placed after.virtualToPhysical limit other
    rw [same.virtualToPhysical]
    rcases List.mem_append.mp isLater with old | isNew
    · rw [same.transits] at old
      exact inOrder.placed other (List.mem_of_mem_eraseIdx old)
    · exact proceeds.placed other isNew
  · rcases List.mem_append.mp isLater with old | isNew
    · rw [same.delivered] at old
      exact inOrder.delivered delivery old
    · exact (delivered delivery isNew).2.2
  · change after.dropped ++ handling.dropped = []
    rw [same.dropped, inOrder.undropped, proceeds.undropped]
    rfl
  · change
      sim.totalWork limit
            (after.transits.eraseIdx position ++ handling.transits) + 1 ≤
        sim.totalWork limit state.transits + 0
    rw [same.transits, totalWork_append, totalWork_eraseIdx found]
    have less := proceeds.work
    omega
  · rcases List.mem_append.mp isLater with old | isNew
    · rw [same.delivered] at old
      exact Or.inl old
    · exact
        Or.inr ⟨(delivered delivery isNew).1, (delivered delivery isNew).2.1⟩

/-- A queue takes a packet. -/
theorem InOrder.lose
    {state : RoutedState}
    (inOrder : sim.InOrder limit state)
    {position : Nat}
    {transit : Transit}
    (found : state.transits[position]? = some transit) :
    StepSpec sim limit state (.lose position)
      { state with
        transits := state.transits.eraseIdx position
        lost := state.lost ++ [transit] } where
  inOrder :=
    { equipped := inOrder.equipped
      placed := fun other member =>
        inOrder.placed other (List.mem_of_mem_eraseIdx member)
      delivered := inOrder.delivered
      undropped := inOrder.undropped }
  work := by
    rw [totalWork_eraseIdx found]
    exact Nat.le_add_left _ _
  delivered := fun _ member => Or.inl member

/-- One step of an orderly state. -/
theorem InOrder.step
    {state next : RoutedState}
    {action : RoutedAction}
    (inOrder : sim.InOrder limit state)
    (orderly : sim.Orderly limit state)
    (sound : sim.Sound)
    (notBluebird : sim.NotBluebird)
    (permitted : sim.Permitted state action)
    (stepped : sim.system.step state action = some next) :
    StepSpec sim limit state action next := by
  cases sim.steps_of_step stepped with
  | send => exact inOrder.send sound permitted.1 stepped
  | @handle _ pick learnPick draw _ _ found handles =>
      obtain ⟨handled, again, equipped, proceeds⟩ :=
        inOrder.handle orderly sound notBluebird
          (List.mem_of_getElem? found) draw pick learnPick
      obtain rfl := Option.some.inj (again.symm.trans handles)
      exact
        inOrder.replace found (sameTraffic_of_handle handles).1 equipped
          proceeds
  | lose found => exact inOrder.lose found
  | @migration srcLeaf srcHost =>
      exact
        { inOrder :=
            { equipped := inOrder.equipped
              placed := fun transit member =>
                (inOrder.placed transit member).migrate permitted srcLeaf
                  srcHost
              delivered := inOrder.delivered
              undropped := inOrder.undropped }
          work := Nat.le_refl _
          delivered := fun _ member => Or.inl member }
  | @querySwitches chosen =>
      exact
        { inOrder :=
            inOrder.of_same (inOrder.equipped.installPlans chosen) rfl rfl
              rfl rfl
          work := Nat.le_refl _
          delivered := fun _ member => Or.inl member }

/-- No packet is ever stuck. -/
theorem InOrder.exists_step
    {state : RoutedState}
    (inOrder : sim.InOrder limit state)
    (orderly : sim.Orderly limit state)
    (sound : sim.Sound)
    (notBluebird : sim.NotBluebird)
    {position : Nat}
    (inside : position < state.transits.length)
    (draw : Bool)
    (pick learnPick : Nat) :
    ∃ next,
      sim.system.step state (.handle position draw pick learnPick) =
        some next := by
  obtain ⟨handled, handles, _⟩ :=
    inOrder.handle orderly sound notBluebird (List.getElem_mem inside) draw
      pick learnPick
  refine ⟨handled.1.replace position handled.2, ?_⟩
  change sim.step state (.handle position draw pick learnPick) = _
  simp only [RoutedSimulation.step, List.getElem?_eq_getElem inside,
    handles, Option.map_some]

/-- The simulation starts in order. -/
theorem inOrder_start
    (virtualToPhysical : Ipv4Address → Option Ipv4Address)
    (addresses : Nat → Nat → List Ipv4Address) :
    sim.InOrder limit (sim.start virtualToPhysical addresses) where
  equipped := fun _ => rfl
  placed := fun _ member => absurd member List.not_mem_nil
  delivered := fun _ member => absurd member List.not_mem_nil
  undropped := rfl

/-! ## Runs -/

/-- What keeps all states of a run orderly. -/
structure Maintains
    (sim : RoutedSimulation)
    (limit : Nat)
    (allowed : RoutedState → RoutedAction → Prop)
    (holds : RoutedState → Prop) :
    Prop where
  inOrder : ∀ {state}, holds state → sim.InOrder limit state
  orderly : ∀ {state}, holds state → sim.Orderly limit state
  permitted :
    ∀ {state action}, holds state → allowed state action →
      sim.Permitted state action
  handling :
    ∀ state position draw pick learnPick,
      allowed state (.handle position draw pick learnPick)
  preserved :
    ∀ {state action next},
      holds state →
      allowed state action →
      sim.system.step state action = some next →
      StepSpec sim limit state action next →
      holds next

namespace Maintains

variable
  {allowed : RoutedState → RoutedAction → Prop}
  {holds : RoutedState → Prop}

theorem step
    (maintains : Maintains sim limit allowed holds)
    (sound : sim.Sound)
    (notBluebird : sim.NotBluebird)
    {state next : RoutedState}
    {action : RoutedAction}
    (before : holds state)
    (permitted : allowed state action)
    (stepped : sim.system.step state action = some next) :
    holds next ∧
      sim.totalWork limit next.transits +
          (if handles action then 1 else 0) ≤
        sim.totalWork limit state.transits +
          (if sends action then 74 * (limit + 1) else 0) := by
  have spec :=
    (maintains.inOrder before).step (maintains.orderly before) sound
      notBluebird (maintains.permitted before permitted) stepped
  exact ⟨maintains.preserved before permitted stepped spec, spec.work⟩

/-- The nodes have only so much to do for each packet. -/
theorem countP_handles_le
    (maintains : Maintains sim limit allowed holds)
    (sound : sim.Sound)
    (notBluebird : sim.NotBluebird)
    {virtualToPhysical : Ipv4Address → Option Ipv4Address}
    {addresses : Nat → Nat → List Ipv4Address}
    (atStart : holds (sim.start virtualToPhysical addresses))
    {actions : List RoutedAction}
    {state : RoutedState}
    (performs :
      sim.system.Performs allowed (sim.start virtualToPhysical addresses)
        actions state) :
    actions.countP handles ≤ 74 * (limit + 1) * actions.countP sends := by
  have bound :=
    performs.countP_le
      (fun before permitted stepped =>
        maintains.step sound notBluebird before permitted stepped)
      atStart
  exact (Nat.le_add_left _ _).trans (bound.trans_eq (Nat.zero_add _))

/-- When the nodes only handle what there is, they are done some time. -/
theorem exists_quiet
    (maintains : Maintains sim limit allowed holds)
    (sound : sim.Sound)
    (notBluebird : sim.NotBluebird)
    {state : RoutedState}
    (before : holds state) :
    ∃ actions final,
      sim.system.Performs allowed state actions final ∧
        (∀ action ∈ actions, handles action = true) ∧
        holds final ∧ final.transits = [] := by
  have progress
      {current : RoutedState}
      (atCurrent : holds current)
      (busy : ¬ current.transits = []) :
      ∃ action next, handles action = true ∧ allowed current action ∧
        sim.system.step current action = some next := by
    obtain ⟨next, stepped⟩ :=
      (maintains.inOrder atCurrent).exists_step
        (maintains.orderly atCurrent) sound notBluebird
        (List.length_pos_of_ne_nil busy) false 0 0
    exact
      ⟨.handle 0 false 0 0, next, rfl,
        maintains.handling current 0 false 0 0, stepped⟩
  have pays
      {current next : RoutedState}
      {action : RoutedAction}
      (atCurrent : holds current)
      (isHandle : handles action = true)
      (permitted : allowed current action)
      (stepped : sim.system.step current action = some next) :
      holds next ∧
        sim.totalWork limit next.transits <
          sim.totalWork limit current.transits := by
    obtain ⟨after, work⟩ :=
      maintains.step sound notBluebird atCurrent permitted stepped
    rw [if_pos isHandle, sends_of_handles isHandle] at work
    exact ⟨after, work⟩
  exact TransitionSystem.exists_settled progress pays before

end Maintains

/-- Once nothing is in transit, packets are delivered or lost. -/
theorem perm_of_quiet
    {state : RoutedState}
    (balanced : state.Balanced)
    (inOrder : sim.InOrder limit state)
    (quiet : state.transits = []) :
    (state.delivered.map (fun delivery => delivery.tagged.uid) ++
        state.lost.flatMap Transit.uids).Perm
      (List.range state.sent) := by
  unfold RoutedState.Balanced RoutedState.uids at balanced
  rw [quiet, inOrder.undropped] at balanced
  exact balanced

end SwitchV2P.RoutedSimulation
