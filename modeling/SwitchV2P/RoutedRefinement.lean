import SwitchV2P.RoutedRuns

namespace SwitchV2P

/-!
# What routes add

Without the routes, the hops and the numbers of its packets, a run of the
routed simulation is a run of the network in which any switch may handle any
packet.  What holds of all runs of that network holds of the routed ones.
-/

theorem SwitchNode.toNode_injective
    {leafCount spineCount coreCount : Nat} :
    Function.Injective
      (toNode : SwitchNode leafCount spineCount coreCount → Node) := by
  intro first second same
  cases first <;> cases second <;> simp [toNode, Fin.ext_iff] at same ⊢ <;>
    exact same

namespace RoutedState

/-- The last state of a host counts. -/
theorem setHost_setHost
    (state : RoutedState)
    (leaf host : Nat)
    (earlier hostState : HostState) :
    (state.setHost leaf host earlier).setHost leaf host hostState =
      state.setHost leaf host hostState := by
  unfold setHost
  congr 1
  funext otherLeaf otherHost
  split
  next => rfl
  next different => exact if_neg different

theorem setHost_self
    (state : RoutedState)
    (leaf host : Nat) :
    state.setHost leaf host (state.hosts leaf host) = state := by
  unfold setHost
  congr 1
  funext otherLeaf otherHost
  split
  next same => rw [same.1, same.2]
  next => rfl

@[simp] theorem hosts_setHost_self
    (state : RoutedState)
    (leaf host : Nat)
    (hostState : HostState) :
    (state.setHost leaf host hostState).hosts leaf host = hostState :=
  if_pos ⟨rfl, rfl⟩

end RoutedState

namespace RoutedSimulation

variable (sim : RoutedSimulation)

/-- The network without its routes. -/
abbrev network : Network sim.Switches :=
  sim.setupApplications

/-- A packet in transit without its way. -/
def parcel : Transit → Parcel
  | .data _ tagged => .inFlight (.data tagged.packet)
  | .protocol _ packet => .inFlight (.protocol packet)
  | .scheduled leaf host tagged call =>
      .scheduled (sim.hostAddress leaf host) tagged.packet call
  | .atGateway _ _ tagged => .atGateway tagged.packet

/-- The tunnel interfaces agree with the full mapping. -/
def Located (state : RoutedState) : Prop :=
  ∀ leaf host, sim.HasNode (.host leaf host) →
    ∀ container, state.virtualToPhysical container ≠ none →
      (container ∈ state.addresses leaf host ↔
        state.virtualToPhysical container =
          some (sim.hostAddress leaf host))

/-- The two states differ in what the network does not have. -/
structure Abstracts
    (state : RoutedState)
    (abstract : NetworkState sim.Switches) :
    Prop where
  virtualToPhysical :
    abstract.virtualToPhysical = state.virtualToPhysical
  tables :
    ∀ switch : sim.Switches,
      state.applications switch.toNode =
        some
          (.p4SwitchApp (sim.network.switches switch)
            (abstract.tables switch))
  hosts :
    ∀ {leaf host}, sim.HasNode (.host leaf host) →
      abstract.hosts (sim.hostAddress leaf host) =
        state.hosts leaf host
  parcels : abstract.parcels = state.transits.map sim.parcel

variable {sim : RoutedSimulation} {limit : Nat}

/-! ## Switches -/

/-- Every switch has a place in the network. -/
theorem exists_toNode
    {node : Node}
    (present : sim.HasNode node)
    (isSwitch : node.isSwitch = true) :
    ∃ switch : sim.Switches, switch.toNode = node := by
  cases node with
  | leaf leaf => exact ⟨.leaf ⟨leaf, present⟩, rfl⟩
  | spine spine => exact ⟨.spine ⟨spine, present⟩, rfl⟩
  | core core => exact ⟨.core ⟨core, present⟩, rfl⟩
  | host leaf host => simp [Node.isSwitch] at isSwitch

namespace Abstracts

variable
  {state : RoutedState}
  {abstract : NetworkState sim.Switches}

/-- The tables of one switch change. -/
theorem setApplication
    (abstracts : sim.Abstracts state abstract)
    (switch : sim.Switches)
    (table : SwitchState) :
    sim.Abstracts
      (state.setApplication switch.toNode
        (.p4SwitchApp (sim.network.switches switch) table))
      (abstract.setTable switch table) where
  virtualToPhysical := abstracts.virtualToPhysical
  tables := by
    intro other
    unfold NetworkState.setTable
    dsimp only
    by_cases same : other = switch
    · subst same
      rw [Function.update_self,
        RoutedState.applications_setApplication_self]
    · rw [Function.update_of_ne same,
        RoutedState.applications_setApplication_of_ne state
          (SwitchNode.toNode_injective.ne same),
        abstracts.tables]
  hosts := abstracts.hosts
  parcels := abstracts.parcels

/-- The state of one host changes. -/
theorem setHost
    (abstracts : sim.Abstracts state abstract)
    (routable : sim.Routable)
    {leaf host : Nat}
    (present : sim.HasNode (.host leaf host))
    (hostState : HostState) :
    sim.Abstracts (state.setHost leaf host hostState)
      (abstract.setHost (sim.hostAddress leaf host) hostState) where
  virtualToPhysical := abstracts.virtualToPhysical
  tables := abstracts.tables
  hosts := by
    intro otherLeaf otherHost otherPresent
    unfold RoutedState.setHost NetworkState.setHost
    dsimp only
    by_cases same : otherLeaf = leaf ∧ otherHost = host
    · obtain ⟨rfl, rfl⟩ := same
      rw [Function.update_self, if_pos ⟨rfl, rfl⟩]
    · have different :
          sim.hostAddress otherLeaf otherHost ≠
            sim.hostAddress leaf host := by
        intro equal
        have isNode :=
          routable.unique
            (⟨otherPresent, equal⟩ :
              sim.GoesBy _ (.host otherLeaf otherHost))
            (⟨present, rfl⟩ : sim.GoesBy _ (.host leaf host))
        exact same (Node.host.inj isNode)
      rw [Function.update_of_ne different, if_neg same,
        abstracts.hosts otherPresent]
  parcels := abstracts.parcels

/-- One packet is replaced by others. -/
theorem replace
    (abstracts : sim.Abstracts state abstract)
    (position : Nat)
    {handling : Handling}
    {parcels : List Parcel}
    (same : handling.transits.map sim.parcel = parcels) :
    sim.Abstracts (state.replace position handling)
      (abstract.replace position parcels) where
  virtualToPhysical := abstracts.virtualToPhysical
  tables := abstracts.tables
  hosts := abstracts.hosts
  parcels := by
    unfold RoutedState.replace NetworkState.replace
    dsimp only
    rw [List.map_append, same, abstracts.parcels]
    rw [List.eraseIdx_map]

end Abstracts

/-! ## Packets at a node -/

/-- A packet that leaves a node. -/
theorem parcels_output
    {node : Node}
    {tagged : TaggedPacket}
    {pick : Nat}
    (undropped : (sim.output node tagged pick).dropped = []) :
    (sim.output node tagged pick).transits.map sim.parcel =
      [.inFlight (.data tagged.packet)] := by
  unfold output at undropped ⊢
  split
  next next routed => rfl
  next unrouted =>
    rw [unrouted] at undropped
    exact absurd undropped (List.cons_ne_nil _ _)

/-- A packet that a switch forwards. -/
theorem parcels_ipForward
    {node : Node}
    {tagged : TaggedPacket}
    {pick : Nat}
    (undropped : (sim.ipForward node tagged pick).dropped = []) :
    (sim.ipForward node tagged pick).transits.map sim.parcel =
      Network.forward tagged.packet := by
  unfold ipForward at undropped ⊢
  unfold Network.forward
  split
  next expired =>
    rw [if_pos expired] at undropped
    exact absurd undropped (List.cons_ne_nil _ _)
  next alive =>
    rw [if_neg alive] at undropped
    exact parcels_output undropped

/-- Protocol packets that a switch sends. -/
theorem parcels_outputProtocol
    {node : Node}
    {pick : Nat}
    {packets : List ProtocolPacket}
    (routed :
      ∀ packet ∈ packets,
        ∃ next, sim.outputProtocol node packet pick =
          [.protocol next packet]) :
    (packets.flatMap fun packet =>
        sim.outputProtocol node packet pick).map sim.parcel =
      packets.map fun packet => .inFlight (.protocol packet) := by
  induction packets with
  | nil => rfl
  | cons packet rest inductionHypothesis =>
      obtain ⟨next, output⟩ := routed packet List.mem_cons_self
      rw [List.flatMap_cons, output, List.map_append,
        inductionHypothesis fun other member =>
          routed other (List.mem_cons_of_mem packet member)]
      rfl

/-- What a switch generates has a route. -/
theorem Relays.routed
    {node : Node}
    {packet : DataPacket}
    {outcome : ApplicationOutcome}
    (relays : sim.Relays node packet outcome)
    (sound : sim.Sound)
    (present : sim.HasNode node)
    (learnPick : Nat) :
    ∀ protocol ∈ outcome.generated,
      ∃ next, sim.outputProtocol node protocol learnPick =
        [.protocol next protocol] := by
  intro protocol member
  obtain ⟨mode, ⟨leaf, rfl⟩, target, isSwitch, elsewhere, goesBy⟩ :=
    relays.addressed protocol member
  obtain ⟨reaches, _⟩ := sound.routable.reaches_of_leaf present goesBy
  obtain ⟨next, output, _⟩ :=
    sound.outputProtocol mode present isSwitch elsewhere goesBy reaches
      learnPick
  exact ⟨next, output⟩

/-- A protocol packet that is not consumed has a route. -/
theorem ProtocolOnTheWay.routed
    {node : Node}
    {packet : ProtocolPacket}
    (onTheWay : sim.ProtocolOnTheWay node packet)
    (sound : sim.Sound)
    (pick : Nat) :
    ∀ sent ∈
        if packet.destination = sim.nodeAddress node then
          []
        else
          [packet],
      ∃ next, sim.outputProtocol node sent pick =
        [.protocol next sent] := by
  intro sent member
  split at member
  next => exact absurd member List.not_mem_nil
  next elsewhere =>
    obtain ⟨target, isSwitch, goesBy⟩ := onTheWay.target
    have notHere : target ≠ node := by
      rintro rfl
      exact elsewhere goesBy.2.symm
    obtain ⟨next, output, _⟩ :=
      sound.outputProtocol onTheWay.mode onTheWay.present isSwitch notHere
        goesBy onTheWay.reaches pick
    rw [List.mem_singleton.mp member]
    exact ⟨next, output⟩

/-! ## One step -/

namespace Abstracts

variable
  {state : RoutedState}
  {abstract : NetworkState sim.Switches}

/-- The packet has the same position in both states. -/
theorem getElem?_parcels
    (abstracts : sim.Abstracts state abstract)
    {position : Nat}
    {transit : Transit}
    (found : state.transits[position]? = some transit) :
    abstract.parcels[position]? = some (sim.parcel transit) := by
  rw [abstracts.parcels, List.getElem?_map, found, Option.map_some]

/-- A data packet at a switch. -/
theorem atSwitch
    (abstracts : sim.Abstracts state abstract)
    (notBluebird : sim.NotBluebird)
    {position : Nat}
    {switch : sim.Switches}
    {tagged : TaggedPacket}
    (found :
      state.transits[position]? = some (.data switch.toNode tagged))
    {application : SwitchApplication}
    (installed : state.applications switch.toNode = some application)
    {draw : Bool}
    {outcome : ApplicationOutcome}
    (received :
      application.receivePacket draw tagged.packet = some outcome)
    {pick learnPick : Nat}
    (routed :
      ∀ protocol ∈ outcome.generated,
        ∃ next, sim.outputProtocol switch.toNode protocol learnPick =
          [.protocol next protocol])
    {handling : Handling}
    (receives :
      sim.receiveAtSwitch application switch.toNode tagged draw pick
          learnPick =
        some (outcome.application, handling))
    (undropped : handling.dropped = []) :
    ∃ after,
      sim.network.system.step abstract (.atSwitch switch position draw) =
          some after ∧
        sim.Abstracts
          ((state.setApplication switch.toNode
            outcome.application).replace position handling) after := by
  have isApplication :=
    (abstracts.tables switch).symm.trans installed
  have isInstalled := Option.some.inj isApplication
  subst isInstalled
  have caches :
      (sim.network.switches switch).simMode ≠ .bluebird :=
    notBluebird
  rw [SwitchApplication.receivePacket, if_neg caches] at received
  have isOutcome := Option.some.inj received
  subst isOutcome
  rw [receiveAtSwitch, SwitchApplication.receivePacket, if_neg caches,
    Option.map_some] at receives
  have isHandling := congrArg Prod.snd (Option.some.inj receives)
  dsimp only at isHandling
  have parcels :
      handling.transits.map sim.parcel =
        (sim.network.receiveAtSwitch abstract switch draw
          (.data tagged.packet)).2 := by
    subst isHandling
    rw [List.map_append, parcels_outputProtocol routed]
    refine congrArg (· ++ _) ?_
    dsimp only at undropped
    split
    next isLocal =>
      rw [if_pos isLocal] at undropped
      exact absurd undropped (List.cons_ne_nil _ _)
    next remote =>
      rw [if_neg remote] at undropped
      exact parcels_ipForward undropped
  refine
    ⟨_, ?_, (abstracts.setApplication switch _).replace position parcels⟩
  change sim.network.step abstract (.atSwitch switch position draw) = _
  simp only [Network.step, abstracts.getElem?_parcels found, parcel]
  rfl

/-- A protocol packet at a switch. -/
theorem protocolAtSwitch
    (abstracts : sim.Abstracts state abstract)
    {position : Nat}
    {switch : sim.Switches}
    {packet : ProtocolPacket}
    (found :
      state.transits[position]? = some (.protocol switch.toNode packet))
    {application : SwitchApplication}
    (installed : state.applications switch.toNode = some application)
    {handled : SwitchApplication × List ProtocolPacket}
    (handles : application.handleProtocolPacket packet = some handled)
    {pick : Nat}
    (routed :
      ∀ sent ∈ handled.2,
        ∃ next, sim.outputProtocol switch.toNode sent pick =
          [.protocol next sent]) :
    ∃ after,
      sim.network.system.step abstract (.atSwitch switch position false) =
          some after ∧
        sim.Abstracts
          ((state.setApplication switch.toNode handled.1).replace position
            (.send
              (handled.2.flatMap fun sent =>
                sim.outputProtocol switch.toNode sent pick)))
          after := by
  have isApplication :=
    (abstracts.tables switch).symm.trans installed
  have isInstalled := Option.some.inj isApplication
  subst isInstalled
  rw [SwitchApplication.handleProtocolPacket] at handles
  have isHandled := Option.some.inj handles
  subst isHandled
  refine
    ⟨_, ?_,
      (abstracts.setApplication switch _).replace position
        (parcels_outputProtocol routed)⟩
  change sim.network.step abstract (.atSwitch switch position false) = _
  simp only [Network.step, abstracts.getElem?_parcels found, parcel]
  rfl

/-- A send call that is carried out. -/
theorem parcels_perform
    {virtualToPhysical : Ipv4Address → Option Ipv4Address}
    {leaf host : Nat}
    {tagged : TaggedPacket}
    {call : SendCall}
    {pick : Nat}
    {handling : Handling}
    (performs :
      sim.perform virtualToPhysical leaf host tagged call pick =
        some handling)
    (undropped : handling.dropped = []) :
    ∃ sent,
      (sim.network.socketHelper (sim.hostAddress leaf host)).perform
          virtualToPhysical tagged.packet call =
          some sent ∧
        handling.transits.map sim.parcel = [.inFlight (.data sent)] := by
  rw [RoutedSimulation.perform, Option.map_eq_some_iff] at performs
  obtain ⟨sent, performed, isHandling⟩ := performs
  subst isHandling
  exact ⟨sent, performed, parcels_output undropped⟩

/-- `VirtualSend` of a host. -/
theorem virtualSend
    (abstracts : sim.Abstracts state abstract)
    (routable : sim.Routable)
    {leaf host : Nat}
    (present : sim.HasNode (.host leaf host))
    {tagged : TaggedPacket}
    {pick : Nat}
    {sent : HostState × Handling}
    (sends :
      sim.virtualSend state.virtualToPhysical leaf host
          (state.hosts leaf host) tagged pick =
        some sent)
    (undropped : sent.2.dropped = []) :
    ∃ after parcel,
      sim.network.virtualSend abstract (sim.hostAddress leaf host)
          tagged.packet =
          some (after, parcel) ∧
        sim.Abstracts (state.setHost leaf host sent.1) after ∧
        sent.2.transits.map sim.parcel = [parcel] := by
  unfold RoutedSimulation.virtualSend at sends
  unfold Network.virtualSend
  dsimp only at sends ⊢
  rw [abstracts.hosts present]
  split at sends
  next immediately =>
    rw [Option.map_eq_some_iff] at sends
    obtain ⟨handling, performs, isSent⟩ := sends
    subst isSent
    obtain ⟨packet, performed, parcels⟩ :=
      parcels_perform performs undropped
    refine ⟨_, .inFlight (.data packet), ?_,
      abstracts.setHost routable present _, parcels⟩
    refine (if_pos immediately).trans ?_
    change
      Option.map _
          (SocketHelper.perform _ abstract.virtualToPhysical _ _) = _
    rw [abstracts.virtualToPhysical]
    exact congrArg _ performed
  next later =>
    have isSent := Option.some.inj sends
    subst isSent
    refine ⟨_, _, ?_, abstracts.setHost routable present _, rfl⟩
    exact if_neg later

/-- A packet at its host. -/
theorem atNode
    (abstracts : sim.Abstracts state abstract)
    (sound : sim.Sound)
    (located : sim.Located state)
    {position leaf host : Nat}
    {tagged : TaggedPacket}
    (found :
      state.transits[position]? = some (.data (.host leaf host) tagged))
    (present : sim.HasNode (.host leaf host))
    (here : tagged.destination = sim.hostAddress leaf host)
    (mapped :
      state.virtualToPhysical tagged.packet.inner.destination ≠ none)
    {pick : Nat}
    {received : HostState × Handling}
    (receives :
      sim.receiveAtHost state leaf host tagged pick = some received)
    (undropped : received.2.dropped = []) :
    ∃ after,
      sim.network.system.step abstract (.atNode position) = some after ∧
        sim.Abstracts
          ((state.setHost leaf host received.1).replace position
            received.2)
          after := by
  have parcelHere := abstracts.getElem?_parcels found
  have addressed :
      tagged.packet.outer.destination = sim.hostAddress leaf host :=
    here
  have steps :
      sim.network.system.step abstract (.atNode position) =
        (sim.network.receiveAtNode abstract tagged.packet).map
          fun received => received.1.replace position received.2 := by
    change sim.network.step abstract (.atNode position) = _
    simp only [Network.step, parcelHere, parcel]
  rw [steps]
  have gateway :
      sim.network.isGateway (sim.hostAddress leaf host) = true ↔
        (leaf, host) ∈ sim.gws :=
    decide_eq_true_iff.trans (sound.mem_gws_iff present).symm
  unfold RoutedSimulation.receiveAtHost at receives
  unfold Network.receiveAtNode
  dsimp only at receives ⊢
  rw [addressed]
  split at receives
  next isGw =>
    rw [if_pos (gateway.mpr isGw), abstracts.virtualToPhysical]
    rw [Option.map_eq_some_iff] at receives
    obtain ⟨resolved, resolves, isReceived⟩ := receives
    subst isReceived
    rw [resolves]
    rw [RoutedState.setHost_self]
    exact ⟨_, rfl, abstracts.replace position rfl⟩
  next isServer =>
    have notGateway :
        ¬ sim.network.isGateway (sim.hostAddress leaf host) = true :=
      fun isGateway => isServer (gateway.mp isGateway)
    rw [if_neg notGateway, abstracts.hosts present]
    have heard :=
      abstracts.setHost sound.routable present
        ((sim.socketHelper leaf host).socketRecv (state.hosts leaf host)
          tagged.packet)
    have sameMapping := congrFun abstracts.virtualToPhysical
      tagged.packet.inner.destination
    split at receives
    next isHere =>
      have isReceived := Option.some.inj receives
      subst isReceived
      refine ⟨_, ?_, heard.replace position rfl⟩
      refine congrArg (Option.map _) (if_pos (sameMapping.trans ?_))
      exact (located leaf host present _ mapped).mp isHere
    next elsewhere =>
      have notHere :
          ¬ state.virtualToPhysical tagged.packet.inner.destination =
            some (sim.hostAddress leaf host) :=
        fun isHere =>
          elsewhere ((located leaf host present _ mapped).mpr isHere)
      rw [if_neg]
      · split at receives
        next expired =>
          have isReceived := Option.some.inj receives
          subst isReceived
          exact absurd undropped (List.cons_ne_nil _ _)
        next alive =>
          rw [if_neg alive]
          have hosts :=
            state.hosts_setHost_self leaf host
              ((sim.socketHelper leaf host).socketRecv
                (state.hosts leaf host) tagged.packet)
          rw [← hosts] at receives
          obtain ⟨after, sentParcel, sends, abstractsAfter, parcels⟩ :=
            heard.virtualSend sound.routable present receives undropped
          rw [RoutedState.setHost_setHost] at abstractsAfter
          refine ⟨_, ?_, abstractsAfter.replace position parcels⟩
          have forwarded := congrArg
            (Option.map fun sent : _ × Parcel => (sent.1, [sent.2])) sends
          exact congrArg (Option.map _) forwarded
      · exact fun isThere => notHere (sameMapping.symm.trans isThere)

/-- What a host has scheduled is due. -/
theorem timer
    (abstracts : sim.Abstracts state abstract)
    {position leaf host : Nat}
    {tagged : TaggedPacket}
    {call : SendCall}
    (found :
      state.transits[position]? = some (.scheduled leaf host tagged call))
    {pick : Nat}
    {handling : Handling}
    (performs :
      sim.perform state.virtualToPhysical leaf host tagged call pick =
        some handling)
    (undropped : handling.dropped = []) :
    ∃ after,
      sim.network.system.step abstract (.timer position) = some after ∧
        sim.Abstracts (state.replace position handling) after := by
  obtain ⟨sent, performed, parcels⟩ := parcels_perform performs undropped
  refine ⟨_, ?_, abstracts.replace position parcels⟩
  change sim.network.step abstract (.timer position) = _
  simp only [Network.step, abstracts.getElem?_parcels found, parcel,
    Network.fire, abstracts.virtualToPhysical, performed,
    Option.map_some]

/-- `SendPacket` of a gateway is due. -/
theorem timerAtGateway
    (abstracts : sim.Abstracts state abstract)
    {position leaf host : Nat}
    {tagged : TaggedPacket}
    (found :
      state.transits[position]? = some (.atGateway leaf host tagged))
    {pick : Nat}
    (undropped :
      (sim.output (.host leaf host)
        { tagged with packet := GatewayApp.sendPacket tagged.packet }
        pick).dropped = []) :
    ∃ after,
      sim.network.system.step abstract (.timer position) = some after ∧
        sim.Abstracts
          (state.replace position
            (sim.output (.host leaf host)
              { tagged with packet := GatewayApp.sendPacket tagged.packet }
              pick))
          after := by
  refine
    ⟨_, ?_, abstracts.replace position (parcels_output undropped)⟩
  change sim.network.step abstract (.timer position) = _
  simp only [Network.step, abstracts.getElem?_parcels found, parcel,
    Network.fire, Option.map_some]

/-- Handling a packet is one step of the network. -/
theorem handle
    (abstracts : sim.Abstracts state abstract)
    (sound : sim.Sound)
    (notBluebird : sim.NotBluebird)
    (located : sim.Located state)
    (inOrder : sim.InOrder limit state)
    (orderly : sim.Orderly limit state)
    {position : Nat}
    {transit : Transit}
    (found : state.transits[position]? = some transit)
    {draw : Bool}
    {pick learnPick : Nat}
    {handled : RoutedState × Handling}
    (handles :
      sim.handle state draw pick learnPick transit = some handled) :
    ∃ action after,
      (∀ container host, action ≠ .migrate container host) ∧
        sim.network.system.step abstract action = some after ∧
        sim.Abstracts (handled.1.replace position handled.2) after := by
  have member := List.mem_of_getElem? found
  have placed := inOrder.placed transit member
  have undropped : handled.2.dropped = [] := by
    obtain ⟨result, isResult, _, proceeds⟩ :=
      inOrder.handle orderly sound notBluebird member draw pick learnPick
    rw [handles] at isResult
    rw [Option.some.inj isResult]
    exact proceeds.undropped
  cases transit with
  | data node tagged =>
      have onTheWay :
          sim.OnTheWay state.virtualToPhysical limit node tagged :=
        placed
      cases isSwitch : node.isSwitch with
      | true =>
          rw [sim.handle_switch isSwitch] at handles
          obtain ⟨switch, rfl⟩ :=
            exists_toNode onTheWay.present isSwitch
          obtain ⟨application, installed, delivered⟩ :=
            Option.bind_eq_some_iff.mp handles
          rw [Option.map_eq_some_iff] at delivered
          obtain ⟨received, receives, isHandled⟩ := delivered
          subst isHandled
          have reads := receives
          rw [receiveAtSwitch, Option.map_eq_some_iff] at reads
          obtain ⟨outcome, outcomes, isReceived⟩ := reads
          subst isReceived
          have relays :=
            inOrder.equipped.relays installed onTheWay.routine outcomes
              (orderly.redirected member installed outcomes)
          obtain ⟨after, stepped, abstractsAfter⟩ :=
            abstracts.atSwitch notBluebird found installed outcomes
              (relays.routed sound onTheWay.present learnPick) receives
              undropped
          exact ⟨_, after, by simp, stepped, abstractsAfter⟩
      | false =>
          obtain ⟨leaf, host, rfl⟩ := Node.exists_host isSwitch
          simp only [RoutedSimulation.handle,
            Option.map_eq_some_iff] at handles
          obtain ⟨received, receives, isHandled⟩ := handles
          subst isHandled
          obtain ⟨address, mapped, _⟩ := onTheWay.routine.container
          obtain ⟨after, stepped, abstractsAfter⟩ :=
            abstracts.atNode sound located found onTheWay.present
              onTheWay.destination_eq
              (by rw [mapped]; exact Option.some_ne_none address)
              receives undropped
          exact ⟨_, after, by simp, stepped, abstractsAfter⟩
  | protocol node packet =>
      have onTheWay : sim.ProtocolOnTheWay node packet := placed
      obtain ⟨switch, rfl⟩ :=
        exists_toNode onTheWay.present onTheWay.isSwitch
      obtain ⟨application, installed⟩ :=
        inOrder.equipped.exists_application sound onTheWay.present
          onTheWay.isSwitch
      obtain ⟨applicationAfter, received⟩ :=
        inOrder.equipped.handleProtocolPacket onTheWay.mode installed packet
      simp only [RoutedSimulation.handle, installed, received,
        Option.map_some, Option.some.injEq] at handles
      subst handles
      obtain ⟨after, stepped, abstractsAfter⟩ :=
        abstracts.protocolAtSwitch found installed received
          (onTheWay.routed sound pick)
      exact ⟨_, after, by simp, stepped, abstractsAfter⟩
  | scheduled leaf host tagged call =>
      simp only [RoutedSimulation.handle, Option.map_eq_some_iff]
        at handles
      obtain ⟨handling, performs, isHandled⟩ := handles
      subst isHandled
      obtain ⟨after, stepped, abstractsAfter⟩ :=
        abstracts.timer found performs undropped
      exact ⟨_, after, by simp, stepped, abstractsAfter⟩
  | atGateway leaf host tagged =>
      simp only [RoutedSimulation.handle, Option.some.injEq] at handles
      subst handles
      obtain ⟨after, stepped, abstractsAfter⟩ :=
        abstracts.timerAtGateway found undropped
      exact ⟨_, after, by simp, stepped, abstractsAfter⟩

/-- A container sends a packet. -/
theorem send
    (abstracts : sim.Abstracts state abstract)
    (sound : sim.Sound)
    (located : sim.Located state)
    {leaf host : Nat}
    (present : sim.HasNode (.host leaf host))
    (server : (leaf, host) ∉ sim.gws)
    {source destination : Ipv4Address}
    (isHere : source ∈ state.addresses leaf host)
    (mapped : state.virtualToPhysical source ≠ none)
    {flowId : UInt32}
    {pick : Nat}
    {sent : HostState × Handling}
    (sends :
      sim.virtualSend state.virtualToPhysical leaf host
          (state.hosts leaf host)
          (sim.newPacket state leaf host source destination flowId) pick =
        some sent)
    (undropped : sent.2.dropped = []) :
    ∃ after,
      sim.network.system.step abstract
          (.send source destination flowId
            (some (sim.hostAddress leaf host))) =
          some after ∧
        sim.Abstracts
          { state.setHost leaf host sent.1 with
            transits := state.transits ++ sent.2.transits
            sent := state.sent + 1
            dropped := state.dropped ++ sent.2.dropped }
          after := by
  obtain ⟨after, sentParcel, virtually, abstractsAfter, parcels⟩ :=
    abstracts.virtualSend sound.routable present sends undropped
  have notGateway :
      ¬ sim.network.isGateway (sim.hostAddress leaf host) = true :=
    fun isGateway =>
      server
        ((sound.mem_gws_iff present).mpr (decide_eq_true_iff.mp isGateway))
  have onHost := (located leaf host present source mapped).mp isHere
  refine
    ⟨{ after with parcels := after.parcels ++ [sentParcel] }, ?_,
      { virtualToPhysical := abstractsAfter.virtualToPhysical
        tables := abstractsAfter.tables
        hosts := abstractsAfter.hosts
        parcels := ?_ }⟩
  · change sim.network.step abstract (.send source destination _ _) = _
    simp only [Network.step, abstracts.virtualToPhysical, onHost]
    rw [if_neg notGateway]
    exact congrArg (Option.map _) virtually
  · dsimp only
    rw [List.map_append, parcels, abstractsAfter.parcels]
    rfl

/-- A queue drops a packet. -/
theorem lose
    (abstracts : sim.Abstracts state abstract)
    {position : Nat}
    {transit : Transit}
    (found : state.transits[position]? = some transit) :
    ∃ after,
      sim.network.system.step abstract (.lose position) = some after ∧
        sim.Abstracts
          { state with
            transits := state.transits.eraseIdx position
            lost := state.lost ++ [transit] }
          after := by
  refine
    ⟨abstract.replace position [], ?_,
      { virtualToPhysical := abstracts.virtualToPhysical
        tables := abstracts.tables
        hosts := abstracts.hosts
        parcels := ?_ }⟩
  · change sim.network.step abstract (.lose position) = _
    simp only [Network.step, abstracts.getElem?_parcels found]
  · unfold NetworkState.replace
    dsimp only
    rw [List.append_nil, abstracts.parcels, List.eraseIdx_map]

/-- The container moves. -/
theorem migrate
    (abstracts : sim.Abstracts state abstract)
    (srcLeaf srcHost : Nat) :
    ∃ after,
      sim.network.system.step abstract
          (.migrate sim.network.migratedContainer
            sim.network.updateMappingsAddress) =
          some after ∧
        sim.Abstracts (sim.migrate state srcLeaf srcHost) after := by
  refine
    ⟨_, rfl,
      { virtualToPhysical := ?_
        tables := abstracts.tables
        hosts := abstracts.hosts
        parcels := abstracts.parcels }⟩
  dsimp only
  rw [abstracts.virtualToPhysical]
  rfl

end Abstracts

/-! ## The first states -/

variable (sim)

/-- The network after the setup of all switches. -/
def networkStart
    (virtualToPhysical : Ipv4Address → Option Ipv4Address) :
    NetworkState sim.Switches where
  virtualToPhysical := virtualToPhysical
  tables := fun switch =>
    { cache :=
        P4Cache.setup sim.memory.memorySize sim.memory.memorySize_pos
          (sim.memory.hash switch.toNode)
      bloomFilter :=
        BloomFilter.setup sim.memory.bloomFilterSize
          (sim.memory.heap switch.toNode) }
  hosts := fun _ => { onDemandCache := [], firstPacket := true }
  parcels := []

variable {sim}

theorem started_networkStart
    (virtualToPhysical : Ipv4Address → Option Ipv4Address) :
    Network.Started (sim.networkStart virtualToPhysical) where
  emptyCaches := fun switch =>
    ⟨sim.memory.memorySize, sim.memory.memorySize_pos,
      sim.memory.hash switch.toNode, rfl⟩
  noParcels := rfl

end RoutedSimulation

end SwitchV2P
