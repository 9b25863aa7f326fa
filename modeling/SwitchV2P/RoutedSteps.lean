import SwitchV2P.RoutedMigration

namespace SwitchV2P

/-!
# The packets of a step

A step takes one packet from its place to the next one, and protocol packets
come on top.  While no node drops a packet, there are seven ways to go on.
-/

/-! ## All packets -/

/-- The container's packet in a transit. -/
def Transit.packets : Transit → List TaggedPacket
  | .data _ tagged => [tagged]
  | .protocol _ _ => []
  | .scheduled _ _ tagged _ => [tagged]
  | .atGateway _ _ tagged => [tagged]

/-- The packets of containers in a handling. -/
def Handling.packets (handling : Handling) : List TaggedPacket :=
  handling.transits.flatMap Transit.packets ++
    handling.delivered.map Delivery.tagged ++ handling.dropped

namespace RoutedState

/-- Every packet of a container, wherever it is. -/
def packets (state : RoutedState) : List TaggedPacket :=
  state.transits.flatMap Transit.packets ++
    (state.delivered.map Delivery.tagged ++
      (state.dropped ++ state.lost.flatMap Transit.packets))

/-- What the packets have of something together. -/
def total (measure : TaggedPacket → Nat) (state : RoutedState) : Nat :=
  (state.packets.map measure).sum

/-- One transit, and all others. -/
theorem perm_packets
    {state : RoutedState}
    {position : Nat}
    {transit : Transit}
    (found : state.transits[position]? = some transit) :
    (state.transits.flatMap Transit.packets).Perm
      ((state.transits.eraseIdx position).flatMap Transit.packets ++
        transit.packets) := by
  obtain ⟨inside, isTransit⟩ := List.getElem?_eq_some_iff.mp found
  have perm :=
    (List.getElem_cons_eraseIdx_perm inside).flatMap_right Transit.packets
  rw [isTransit, List.flatMap_cons] at perm
  exact perm.symm.trans List.perm_append_comm

/-- The packets that a step leaves alone. -/
def others (state : RoutedState) (position : Nat) : List TaggedPacket :=
  (state.transits.eraseIdx position).flatMap Transit.packets ++
    (state.delivered.map Delivery.tagged ++
      (state.dropped ++ state.lost.flatMap Transit.packets))

theorem perm_others
    {state : RoutedState}
    {position : Nat}
    {transit : Transit}
    (found : state.transits[position]? = some transit) :
    state.packets.Perm (state.others position ++ transit.packets) := by
  have taken := perm_packets found
  rw [packets, others]
  refine (taken.append_right _).trans ?_
  rw [List.append_assoc, List.append_assoc]
  exact List.perm_append_comm.append_left _

theorem perm_replace
    (state : RoutedState)
    (position : Nat)
    (handling : Handling) :
    (state.replace position handling).packets.Perm
      (state.others position ++ handling.packets) := by
  classical
  rw [List.perm_iff_count]
  intro tagged
  simp only [replace, packets, others, Handling.packets,
    List.flatMap_append, List.map_append, List.count_append]
  omega

theorem total_replace
    (measure : TaggedPacket → Nat)
    {state : RoutedState}
    {position : Nat}
    {transit : Transit}
    (found : state.transits[position]? = some transit)
    (handling : Handling) :
    (state.replace position handling).total measure +
        (transit.packets.map measure).sum =
      state.total measure + (handling.packets.map measure).sum := by
  have before := ((perm_others found).map measure).sum_eq
  have after := ((perm_replace state position handling).map measure).sum_eq
  rw [List.map_append, List.sum_append] at before after
  unfold total
  omega

/-- Applications and hosts have no packets. -/
theorem SameTraffic.packets_replace
    {state after : RoutedState}
    (same : SameTraffic state after)
    (position : Nat)
    (handling : Handling) :
    (after.replace position handling).packets =
      (state.replace position handling).packets := by
  unfold RoutedState.packets RoutedState.replace
  rw [same.transits, same.delivered, same.dropped, same.lost]

end RoutedState

namespace RoutedSimulation

/-! ## What a step can do -/

/-- What becomes of a transit that no node drops. -/
inductive Continues
    (sim : RoutedSimulation)
    (state : RoutedState)
    (draw : Bool) :
    Transit → Handling → Prop where
  | relayed
      {node next : Node}
      {tagged : TaggedPacket}
      {application : SwitchApplication}
      {outcome : ApplicationOutcome}
      {generated : List Transit}
      (isSwitch : node.isSwitch = true)
      (installed : state.applications node = some application)
      (received :
        application.receivePacket draw tagged.packet = some outcome)
      (protocol : generated.flatMap Transit.packets = []) :
      Continues sim state draw (.data node tagged)
        (.send
          (.data next
              (TaggedPacket.decrementTtl
                { tagged.incHops with packet := outcome.packet }) ::
            generated))
  | resolved
      {leaf host : Nat}
      {tagged : TaggedPacket}
      {packet : DataPacket}
      (isGateway : (leaf, host) ∈ sim.gws)
      (resolves :
        GatewayApp.receivePacket state.virtualToPhysical tagged.packet =
          some packet) :
      Continues sim state draw (.data (.host leaf host) tagged)
        (.send [.atGateway leaf host { tagged with packet := packet }])
  | delivered
      {leaf host : Nat}
      {tagged : TaggedPacket}
      (server : (leaf, host) ∉ sim.gws)
      (addressed : tagged.destination = sim.hostAddress leaf host)
      (isHere :
        tagged.packet.inner.destination ∈ state.addresses leaf host) :
      Continues sim state draw (.data (.host leaf host) tagged)
        (.deliver ⟨leaf, host, tagged⟩)
  | misdelivered
      {leaf host : Nat}
      {tagged marked : TaggedPacket}
      {call : SendCall}
      (server : (leaf, host) ∉ sim.gws)
      (addressed : tagged.destination = sim.hostAddress leaf host)
      (elsewhere :
        tagged.packet.inner.destination ∉ state.addresses leaf host)
      (fullTtl : tagged.packet.inner.ttl = 64)
      (sameHops : marked.hopsTag = tagged.hopsTag)
      (sameFlow : marked.packet.flowId = tagged.packet.flowId)
      (again :
        marked.packet.misdeliveries = tagged.packet.misdeliveries + 1) :
      Continues sim state draw (.data (.host leaf host) tagged)
        (.send [.scheduled leaf host marked call])
  | protocol
      {node : Node}
      {packet : ProtocolPacket}
      {transits : List Transit}
      (protocol : transits.flatMap Transit.packets = []) :
      Continues sim state draw (.protocol node packet) (.send transits)
  | called
      {leaf host : Nat}
      {next : Node}
      {tagged : TaggedPacket}
      {call : SendCall}
      {packet : DataPacket}
      (performed :
        (sim.socketHelper leaf host).perform state.virtualToPhysical
            tagged.packet call =
          some packet) :
      Continues sim state draw (.scheduled leaf host tagged call)
        (.send [.data next { tagged with packet := packet }])
  | sent
      {leaf host : Nat}
      {next : Node}
      {tagged : TaggedPacket} :
      Continues sim state draw (.atGateway leaf host tagged)
        (.send
          [.data next
            { tagged with packet := GatewayApp.sendPacket tagged.packet }])

variable {sim : RoutedSimulation} {limit : Nat}

/-- What is not dropped leaves by some route. -/
theorem exists_output
    {node : Node}
    {tagged : TaggedPacket}
    {pick : Nat}
    (undropped : (sim.output node tagged pick).dropped = []) :
    ∃ next, sim.output node tagged pick = .send [.data next tagged] := by
  unfold output at undropped ⊢
  split
  next next routed => exact ⟨next, rfl⟩
  next unrouted =>
    rw [unrouted] at undropped
    exact absurd undropped (List.cons_ne_nil _ _)

/-- No packet of a container is among the protocol packets. -/
theorem packets_outputProtocol
    (sim : RoutedSimulation)
    (node : Node)
    (packets : List ProtocolPacket)
    (pick : Nat) :
    (packets.flatMap fun packet =>
        sim.outputProtocol node packet pick).flatMap Transit.packets =
      [] := by
  simp only [List.flatMap_eq_nil_iff]
  intro transit member
  obtain ⟨packet, _, isSent⟩ := List.mem_flatMap.mp member
  simp only [outputProtocol, Option.mem_toList,
    Option.map_eq_some_iff] at isSent
  obtain ⟨next, _, rfl⟩ := isSent
  rfl

theorem Continues.of_receiveAtSwitch
    {state : RoutedState}
    {draw : Bool}
    {node : Node}
    {tagged : TaggedPacket}
    {application : SwitchApplication}
    {pick learnPick : Nat}
    {received : SwitchApplication × Handling}
    (isSwitch : node.isSwitch = true)
    (installed : state.applications node = some application)
    (receives :
      sim.receiveAtSwitch application node tagged draw pick learnPick =
        some received)
    (undropped : received.2.dropped = []) :
    Continues sim state draw (.data node tagged) received.2 := by
  simp only [receiveAtSwitch, Option.map_eq_some_iff] at receives
  obtain ⟨outcome, handles, rfl⟩ := receives
  have protocol :=
    packets_outputProtocol sim node outcome.generated learnPick
  dsimp only at undropped ⊢
  split at undropped
  next here => exact absurd undropped (List.cons_ne_nil _ _)
  next elsewhere =>
    rw [if_neg elsewhere]
    unfold ipForward at undropped ⊢
    split at undropped
    next expired => exact absurd undropped (List.cons_ne_nil _ _)
    next alive =>
      rw [if_neg alive]
      obtain ⟨next, output⟩ := exists_output undropped
      rw [output]
      exact .relayed isSwitch installed handles protocol

theorem Continues.of_receiveAtHost
    {state : RoutedState}
    {draw : Bool}
    {leaf host : Nat}
    {tagged : TaggedPacket}
    {pick : Nat}
    {received : HostState × Handling}
    (addressed : tagged.destination = sim.hostAddress leaf host)
    (fullTtl :
      (leaf, host) ∉ sim.gws →
        tagged.packet.inner.destination ∉ state.addresses leaf host →
          tagged.packet.inner.ttl = 64)
    (receives :
      sim.receiveAtHost state leaf host tagged pick = some received) :
    Continues sim state draw (.data (.host leaf host) tagged)
      received.2 := by
  unfold receiveAtHost at receives
  dsimp only at receives
  rw [if_pos addressed] at receives
  split at receives
  next isGateway =>
    simp only [Option.map_eq_some_iff] at receives
    obtain ⟨resolved, resolves, rfl⟩ := receives
    exact .resolved isGateway resolves
  next server =>
    split at receives
    next isHere =>
      rw [← Option.some.inj receives]
      exact .delivered server addressed isHere
    next elsewhere =>
      have full := fullTtl server elsewhere
      rw [full, if_neg (by decide)] at receives
      unfold virtualSend at receives
      dsimp only at receives
      let unwrapped : DataPacket :=
        { tagged.packet with
          inner := { tagged.packet.inner with ttl := 64 - 1 } }
      have forwarded : unwrapped.inner.ttl < 64 := by
        change (64 - 1 : UInt8) < 64
        decide
      obtain ⟨marked, sending⟩ :=
        (sim.socketHelper leaf host).virtualSend_of_ttl_lt
          ((sim.socketHelper leaf host).socketRecv
            (state.hosts leaf host) tagged.packet)
          forwarded
      simp only [unwrapped] at sending
      rw [sending] at receives
      rw [← Option.some.inj receives]
      exact .misdelivered server addressed elsewhere full rfl rfl rfl

/-- Everything that happens to what is on its way. -/
theorem Continues.of_handle
    {state : RoutedState}
    (inOrder : sim.InOrder limit state)
    (orderly : sim.Orderly limit state)
    (sound : sim.Sound)
    (notBluebird : sim.NotBluebird)
    {transit : Transit}
    (member : transit ∈ state.transits)
    {draw : Bool}
    {pick learnPick : Nat}
    {handled : RoutedState × Handling}
    (handles :
      sim.handle state draw pick learnPick transit = some handled) :
    Continues sim state draw transit handled.2 := by
  obtain ⟨other, alsoHandles, _, proceeds⟩ :=
    inOrder.handle orderly sound notBluebird member draw pick learnPick
  obtain rfl := Option.some.inj (alsoHandles.symm.trans handles)
  have undropped := proceeds.undropped
  cases transit with
  | data node tagged =>
      have onTheWay :
          sim.OnTheWay state.virtualToPhysical limit node tagged :=
        inOrder.placed _ member
      cases isSwitch : node.isSwitch with
      | true =>
          rw [sim.handle_switch isSwitch] at handles
          obtain ⟨application, installed, receives⟩ :=
            Option.bind_eq_some_iff.mp handles
          simp only [Option.map_eq_some_iff] at receives
          obtain ⟨received, receives, rfl⟩ := receives
          exact .of_receiveAtSwitch isSwitch installed receives undropped
      | false =>
          obtain ⟨leaf, host, rfl⟩ := Node.exists_host isSwitch
          simp only [RoutedSimulation.handle,
            Option.map_eq_some_iff] at handles
          obtain ⟨received, receives, rfl⟩ := handles
          exact
            .of_receiveAtHost onTheWay.destination_eq
              (fun server elsewhere =>
                (orderly.misdelivered member server elsewhere).2.1)
              receives
  | protocol node packet =>
      simp only [RoutedSimulation.handle] at handles
      split at handles
      next application installed =>
        simp only [Option.map_eq_some_iff] at handles
        obtain ⟨received, _, rfl⟩ := handles
        exact .protocol (packets_outputProtocol ..)
      next missing =>
        rw [← Option.some.inj handles]
        exact .protocol rfl
  | scheduled leaf host tagged call =>
      simp only [RoutedSimulation.handle, perform, Option.map_map,
        Option.map_eq_some_iff] at handles
      obtain ⟨packet, performed, rfl⟩ := handles
      obtain ⟨next, output⟩ := exists_output undropped
      dsimp only [Function.comp_apply]
      rw [output]
      exact .called performed
  | atGateway leaf host tagged =>
      rw [← Option.some.inj handles] at undropped ⊢
      obtain ⟨next, output⟩ := exists_output undropped
      rw [output]
      exact .sent

end RoutedSimulation

end SwitchV2P
