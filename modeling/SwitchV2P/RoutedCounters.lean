import SwitchV2P.RoutedSteps
import SwitchV2P.TrafficCounters

namespace SwitchV2P

/-!
# The counters and the packets

Every packet carries the hops that the switches have counted and its own
misdeliveries, so that the sums over all packets are what the counters of the
simulation say.
-/

namespace Report

def isClientTx : Report → Bool
  | clientTx _ => true
  | _ => false

def isGatewayRx : Report → Bool
  | gatewayRx => true
  | _ => false

def isProcessedPacket : Report → Bool
  | processedPacket _ => true
  | _ => false

def isCacheHit : Report → Bool
  | cacheHit _ => true
  | _ => false

def isMisdelivery : Report → Bool
  | misdelivery => true
  | _ => false

end Report

namespace TrafficCounters

/-- What some reports add to the counters. -/
structure Adds
    (reports : List Report)
    (before after : TrafficCounters) :
    Prop where
  sentPackets :
    after.sentPackets =
      before.sentPackets + reports.countP Report.isClientTx
  gwPackets :
    after.gwPackets = before.gwPackets + reports.countP Report.isGatewayRx
  misdeliveryCount :
    after.misdeliveryCount =
      before.misdeliveryCount +
        UInt32.ofNat (reports.countP Report.isMisdelivery)
  processedPackets :
    after.switchToProcessedPackets.sum =
      before.switchToProcessedPackets.sum +
        reports.countP Report.isProcessedPacket
  cacheHits :
    after.switchToCacheHits.sum =
      before.switchToCacheHits.sum + reports.countP Report.isCacheHit

theorem adds_perform
    (counters : TrafficCounters)
    (report : Report) :
    Adds [report] counters (counters.perform report) := by
  cases report with
  | sinkRx hopsTag flowId =>
      unfold perform sinkRx
      dsimp only
      split
      next => exact ⟨rfl, rfl, (UInt32.add_zero _).symm, rfl, rfl⟩
      next => exact ⟨rfl, rfl, (UInt32.add_zero _).symm, rfl, rfl⟩
  | processedPacket node =>
      exact
        ⟨rfl, rfl, (UInt32.add_zero _).symm, AList.sum_increment _ _, rfl⟩
  | cacheHit node =>
      exact
        ⟨rfl, rfl, (UInt32.add_zero _).symm, rfl, AList.sum_increment _ _⟩
  | misdelivery => exact ⟨rfl, rfl, rfl, rfl, rfl⟩
  | _ => exact ⟨rfl, rfl, (UInt32.add_zero _).symm, rfl, rfl⟩

/-- Reports add up. -/
theorem adds_performAll
    (reports : List Report)
    (counters : TrafficCounters) :
    Adds reports counters (counters.performAll reports) := by
  induction reports generalizing counters with
  | nil => exact ⟨rfl, rfl, (UInt32.add_zero _).symm, rfl, rfl⟩
  | cons report rest inductionHypothesis =>
      have first := counters.adds_perform report
      have others := inductionHypothesis (counters.perform report)
      rw [← List.singleton_append]
      refine ⟨?_, ?_, ?_, ?_, ?_⟩
      · rw [List.countP_append, ← Nat.add_assoc, ← first.sentPackets]
        exact others.sentPackets
      · rw [List.countP_append, ← Nat.add_assoc, ← first.gwPackets]
        exact others.gwPackets
      · rw [List.countP_append, UInt32.ofNat_add, ← UInt32.add_assoc,
          ← first.misdeliveryCount]
        exact others.misdeliveryCount
      · rw [List.countP_append, ← Nat.add_assoc, ← first.processedPackets]
        exact others.processedPackets
      · rw [List.countP_append, ← Nat.add_assoc, ← first.cacheHits]
        exact others.cacheHits

/-- `ClientTx` records its flow, if it has an id. -/
theorem mem_flows_clientTx
    (counters : TrafficCounters)
    (flowId other : UInt32) :
    other ∈ (counters.clientTx flowId).flows ↔
      other ∈ counters.flows ∨ (other = flowId ∧ flowId ≠ 0) := by
  unfold clientTx
  dsimp only
  split
  next known =>
    refine ⟨Or.inl, fun recorded => recorded.elim id ?_⟩
    rintro ⟨rfl, nonzero⟩
    exact known.resolve_left nonzero
  next unknown =>
    rw [List.mem_cons, or_comm]
    exact
      or_congr_right
        (iff_self_and.mpr fun _ isZero => unknown (Or.inl isZero))

end TrafficCounters

namespace RoutedSimulation

variable {sim : RoutedSimulation} {limit : Nat}

/-! ## One step -/

theorem reportsOf_switch
    {state : RoutedState}
    {node : Node}
    {application : SwitchApplication}
    (isSwitch : node.isSwitch = true)
    (installed : state.applications node = some application)
    (draw : Bool)
    (tagged : TaggedPacket) :
    sim.reportsOf state draw (.data node tagged) =
      .processedPacket node ::
        if application.tracesCacheHit draw tagged.packet then
          [.cacheHit node]
        else
          [] := by
  cases node with
  | host leaf host => exact absurd isSwitch (by simp [Node.isSwitch])
  | _ => simp only [reportsOf, installed]

theorem reportsOf_gateway
    {state : RoutedState}
    {leaf host : Nat}
    (isGateway : (leaf, host) ∈ sim.gws)
    (draw : Bool)
    (tagged : TaggedPacket) :
    sim.reportsOf state draw (.data (.host leaf host) tagged) = [] := by
  rw [reportsOf]
  exact if_pos (Or.inl (List.contains_iff_mem.mpr isGateway))

theorem reportsOf_server
    {state : RoutedState}
    {leaf host : Nat}
    {tagged : TaggedPacket}
    (server : (leaf, host) ∉ sim.gws)
    (addressed : tagged.destination = sim.hostAddress leaf host)
    (draw : Bool) :
    sim.reportsOf state draw (.data (.host leaf host) tagged) =
      if tagged.packet.inner.destination ∈ state.addresses leaf host then
        [.sinkRx tagged.hopsTag tagged.packet.flowId]
      else if tagged.packet.inner.ttl - 1 = 0 ∨
          ¬ tagged.packet.inner.ttl - 1 < 64 then
        []
      else
        [.misdelivery] := by
  rw [reportsOf, if_neg]
  rintro (isGateway | elsewhere)
  · exact server (List.contains_iff_mem.mp isGateway)
  · exact elsewhere addressed

theorem reportsOf_misdelivered
    {state : RoutedState}
    {leaf host : Nat}
    {tagged : TaggedPacket}
    (server : (leaf, host) ∉ sim.gws)
    (addressed : tagged.destination = sim.hostAddress leaf host)
    (elsewhere :
      tagged.packet.inner.destination ∉ state.addresses leaf host)
    (fullTtl : tagged.packet.inner.ttl = 64)
    (draw : Bool) :
    sim.reportsOf state draw (.data (.host leaf host) tagged) =
      [.misdelivery] := by
  rw [reportsOf_server server addressed, if_neg elsewhere, fullTtl]
  rfl

/-- What the packet of a transit carries on. -/
structure Carries
    (reports : List Report)
    (before after : List TaggedPacket) :
    Prop where
  flowIds :
    after.map (fun tagged => tagged.packet.flowId) =
      before.map fun tagged => tagged.packet.flowId
  hopsTags :
    (∀ tagged ∈ before, tagged.hopsTag.isSome = true) →
      ∀ tagged ∈ after, tagged.hopsTag.isSome = true
  hops :
    (∀ tagged ∈ before,
        tagged.hopsTag.isSome = true ∧ tagged.getHops + 1 < 2 ^ 32) →
      (after.map TaggedPacket.getHops).sum =
        (before.map TaggedPacket.getHops).sum +
          reports.countP Report.isProcessedPacket
  misdeliveries :
    (after.map fun tagged => tagged.packet.misdeliveries).sum =
      (before.map fun tagged => tagged.packet.misdeliveries).sum +
        reports.countP Report.isMisdelivery

/-- Only what a switch counts has one hop more. -/
theorem getHops_incHops_of_small
    {tagged : TaggedPacket}
    (hasTag : tagged.hopsTag.isSome = true)
    (small : tagged.getHops + 1 < 2 ^ 32) :
    tagged.incHops.getHops = tagged.getHops + 1 := by
  obtain ⟨hops, isTag⟩ := Option.isSome_iff_exists.mp hasTag
  unfold TaggedPacket.getHops TaggedPacket.incHops at *
  rw [isTag] at small ⊢
  dsimp only [Option.map_some, Option.getD_some] at small ⊢
  rw [UInt32.toNat_add]
  exact Nat.mod_eq_of_lt small

/-- A transit that keeps its packet and reports nothing of it. -/
theorem Carries.of_same
    {reports : List Report}
    {tagged after : TaggedPacket}
    (hopsTag : after.hopsTag = tagged.hopsTag)
    (flowId : after.packet.flowId = tagged.packet.flowId)
    (misdeliveries :
      after.packet.misdeliveries = tagged.packet.misdeliveries)
    (unprocessed : reports.countP Report.isProcessedPacket = 0)
    (delivered : reports.countP Report.isMisdelivery = 0) :
    Carries reports [tagged] [after] where
  flowIds := by simp [flowId]
  hopsTags := by simp [hopsTag]
  hops := fun _ => by
    simp [TaggedPacket.getHops, hopsTag, unprocessed]
  misdeliveries := by simp [misdeliveries, delivered]

/-- A send call changes the outer header only. -/
theorem same_of_perform
    {helper : SocketHelper}
    {virtualToPhysical : Ipv4Address → Option Ipv4Address}
    {packet sent : DataPacket}
    {call : SendCall}
    (performed : helper.perform virtualToPhysical packet call = some sent) :
    sent.flowId = packet.flowId ∧
      sent.misdeliveries = packet.misdeliveries := by
  cases call with
  | sendToGateway gwIdx =>
      simp only [SocketHelper.perform, Option.map_eq_some_iff] at performed
      obtain ⟨_, _, rfl⟩ := performed
      exact ⟨rfl, rfl⟩
  | sendFollowMeRule misdelivery =>
      cases misdelivery with
      | true =>
          rw [← Option.some.inj performed]
          exact ⟨rfl, rfl⟩
      | false =>
          rw [← Option.some.inj performed]
          exact ⟨rfl, rfl⟩

theorem Continues.carries
    {state : RoutedState}
    {draw : Bool}
    {transit : Transit}
    {handling : Handling}
    (continues : Continues sim state draw transit handling) :
    Carries (sim.reportsOf state draw transit) transit.packets
      handling.packets := by
  cases continues with
  | @relayed node next tagged application outcome generated isSwitch
      installed received protocol =>
      have same := SwitchApplication.samePacket_receivePacket received
      have packets :
          Handling.packets
              (.send
                (.data next
                    (TaggedPacket.decrementTtl
                      { tagged.incHops with packet := outcome.packet }) ::
                  generated)) =
            [TaggedPacket.decrementTtl
              { tagged.incHops with packet := outcome.packet }] := by
        simp [Handling.packets, Handling.send, Transit.packets, protocol]
      have processed :
          (sim.reportsOf state draw (.data node tagged)).countP
              Report.isProcessedPacket = 1 := by
        rw [reportsOf_switch isSwitch installed]
        split <;> rfl
      have delivered :
          (sim.reportsOf state draw (.data node tagged)).countP
              Report.isMisdelivery = 0 := by
        rw [reportsOf_switch isSwitch installed]
        split <;> rfl
      rw [packets]
      refine ⟨?_, ?_, fun small => ?_, ?_⟩
      · exact congrArg (fun flowId => [flowId]) same.flowId
      · intro hasTag other isOther
        rw [List.mem_singleton.mp isOther]
        have before := hasTag tagged List.mem_cons_self
        change (tagged.hopsTag.map _).isSome = true
        rw [Option.isSome_map]
        exact before
      · obtain ⟨hasTag, few⟩ := small tagged List.mem_cons_self
        rw [processed]
        change tagged.incHops.getHops + 0 = tagged.getHops + 0 + 1
        rw [getHops_incHops_of_small hasTag few]
      · rw [delivered]
        exact congrArg (· + 0) same.misdeliveries
  | resolved isGateway resolves =>
      rw [reportsOf_gateway isGateway]
      simp only [GatewayApp.receivePacket, Option.map_eq_some_iff]
        at resolves
      obtain ⟨address, _, rfl⟩ := resolves
      exact .of_same rfl rfl rfl rfl rfl
  | delivered server addressed isHere =>
      rw [reportsOf_server server addressed, if_pos isHere]
      exact .of_same rfl rfl rfl rfl rfl
  | misdelivered server addressed elsewhere fullTtl sameHops sameFlow
      again =>
      rw [reportsOf_misdelivered server addressed elsewhere fullTtl]
      refine ⟨?_, ?_, fun _ => ?_, ?_⟩
      · exact congrArg (fun flowId => [flowId]) sameFlow
      · simp [Transit.packets, Handling.packets, Handling.send, sameHops]
      · simp [Transit.packets, Handling.packets, Handling.send,
          TaggedPacket.getHops, sameHops, Report.isProcessedPacket]
      · exact congrArg (· + 0) again
  | protocol protocol =>
      have packets (transits : List Transit) :
          Handling.packets (.send transits) =
            transits.flatMap Transit.packets := by
        simp [Handling.packets, Handling.send]
      rw [packets, protocol]
      exact ⟨rfl, id, fun _ => rfl, rfl⟩
  | @called leaf host next tagged call packet performed =>
      obtain ⟨sameFlow, sameCount⟩ := same_of_perform performed
      exact .of_same rfl sameFlow sameCount rfl rfl
  | sent => exact .of_same rfl rfl rfl rfl rfl

/-- Does the delivery belong to a flow with statistics? -/
def isRecorded (flows : List UInt32) (delivery : Delivery) : Bool :=
  delivery.tagged.packet.flowId ∈ flows

/-- Sinks report what is delivered to them. -/
structure Receives
    (handling : Handling)
    (before after : TrafficCounters) :
    Prop where
  flows : after.flows = before.flows
  receivedPackets :
    after.receivedPackets =
      before.receivedPackets +
        (handling.delivered.filter (isRecorded before.flows)).length
  totalPacketHops :
    after.totalPacketHops =
      before.totalPacketHops +
        ((handling.delivered.filter (isRecorded before.flows)).map
          fun delivery => delivery.tagged.getHops).sum

theorem Continues.receives
    {state : RoutedState}
    {draw : Bool}
    {transit : Transit}
    {handling : Handling}
    (continues : Continues sim state draw transit handling)
    (counters : TrafficCounters) :
    Receives handling counters
      (counters.performAll (sim.reportsOf state draw transit)) := by
  cases continues with
  | relayed isSwitch installed received protocol =>
      rw [reportsOf_switch isSwitch installed]
      split
      next => exact ⟨rfl, rfl, rfl⟩
      next => exact ⟨rfl, rfl, rfl⟩
  | resolved isGateway resolves =>
      rw [reportsOf_gateway isGateway]
      exact ⟨rfl, rfl, rfl⟩
  | @delivered leaf host tagged server addressed isHere =>
      rw [reportsOf_server server addressed, if_pos isHere]
      change Receives _ counters (counters.sinkRx _ _)
      unfold TrafficCounters.sinkRx
      split
      next unknown =>
        have ignored :
            [Delivery.mk leaf host tagged].filter
                (isRecorded counters.flows) =
              [] := by
          simp [isRecorded, unknown]
        refine ⟨rfl, ?_, ?_⟩
        · change _ = _ + (List.filter _ [_]).length
          rw [ignored]
          rfl
        · change _ = _ + ((List.filter _ [_]).map _).sum
          rw [ignored]
          rfl
      next known =>
        have counted :
            [Delivery.mk leaf host tagged].filter
                (isRecorded counters.flows) =
              [Delivery.mk leaf host tagged] := by
          simpa [isRecorded] using known
        refine ⟨rfl, ?_, ?_⟩
        · change _ = _ + (List.filter _ [_]).length
          rw [counted]
          rfl
        · change _ = _ + ((List.filter _ [_]).map _).sum
          rw [counted]
          rfl
  | misdelivered server addressed elsewhere fullTtl sameHops sameFlow
      again =>
      rw [reportsOf_misdelivered server addressed elsewhere fullTtl]
      exact ⟨rfl, rfl, rfl⟩
  | protocol protocol => exact ⟨rfl, rfl, rfl⟩
  | called performed => exact ⟨rfl, rfl, rfl⟩
  | sent => exact ⟨rfl, rfl, rfl⟩

/-! ## Runs -/

/-- A delivery of a flow with an id. -/
def ofFlow (delivery : Delivery) : Bool :=
  delivery.tagged.packet.flowId ≠ 0

/--
The counters say what the packets say.  The count of misdeliveries has been
`misdeliveryCount` before the first packet.
-/
structure Accounted
    (misdeliveryCount : UInt32)
    (state : TracedState) : Prop where
  hopsTags :
    ∀ tagged ∈ state.network.packets, tagged.hopsTag.isSome = true
  nonzero : 0 ∉ state.counters.flows
  recorded :
    ∀ tagged ∈ state.network.packets,
      tagged.packet.flowId ≠ 0 →
        tagged.packet.flowId ∈ state.counters.flows
  sentPackets : state.counters.sentPackets = state.network.sent
  receivedPackets :
    state.counters.receivedPackets =
      (state.network.delivered.filter ofFlow).length
  totalPacketHops :
    state.counters.totalPacketHops =
      ((state.network.delivered.filter ofFlow).map
        fun delivery => delivery.tagged.getHops).sum
  processedPackets :
    state.counters.switchToProcessedPackets.sum =
      state.network.total TaggedPacket.getHops
  misdeliveries :
    state.counters.misdeliveryCount =
      misdeliveryCount +
        UInt32.ofNat
          (state.network.total fun tagged => tagged.packet.misdeliveries)

variable {misdeliveryCount : UInt32}

theorem accounted_start
    (virtualToPhysical : Ipv4Address → Option Ipv4Address)
    (addresses : Nat → Nat → List Ipv4Address)
    (misdeliveryCount : UInt32) :
    Accounted misdeliveryCount
      (sim.tracedStart virtualToPhysical addresses misdeliveryCount) where
  hopsTags := fun _ member => absurd member List.not_mem_nil
  nonzero := List.not_mem_nil
  recorded := fun _ member => absurd member List.not_mem_nil
  sentPackets := rfl
  receivedPackets := rfl
  totalPacketHops := rfl
  processedPackets := rfl
  misdeliveries := (UInt32.add_zero _).symm

/-- Only `ClientTx` counts what is sent. -/
theorem Continues.unsent
    {state : RoutedState}
    {draw : Bool}
    {transit : Transit}
    {handling : Handling}
    (continues : Continues sim state draw transit handling) :
    (sim.reportsOf state draw transit).countP Report.isClientTx = 0 := by
  cases continues with
  | relayed isSwitch installed received protocol =>
      rw [reportsOf_switch isSwitch installed]
      split <;> rfl
  | resolved isGateway resolves =>
      rw [reportsOf_gateway isGateway]
      rfl
  | delivered server addressed isHere =>
      rw [reportsOf_server server addressed, if_pos isHere]
      rfl
  | misdelivered server addressed elsewhere fullTtl sameHops sameFlow
      again =>
      rw [reportsOf_misdelivered server addressed elsewhere fullTtl]
      rfl
  | protocol protocol => rfl
  | called performed => rfl
  | sent => rfl

/-- What becomes of a packet is of a flow that is known already. -/
theorem Accounted.recorded_of_carries
    {state : TracedState}
    (accounted : Accounted misdeliveryCount state)
    {reports : List Report}
    {before after : List TaggedPacket}
    (carries : Carries reports before after)
    (ofState : ∀ tagged ∈ before, tagged ∈ state.network.packets) :
    ∀ tagged ∈ after,
      tagged.packet.flowId ≠ 0 →
        tagged.packet.flowId ∈ state.counters.flows := by
  intro tagged isNew nonzero
  have listed :
      tagged.packet.flowId ∈
        before.map fun tagged => tagged.packet.flowId := by
    rw [← carries.flowIds]
    exact List.mem_map_of_mem isNew
  obtain ⟨earlier, isEarlier, sameFlow⟩ := List.mem_map.mp listed
  rw [← sameFlow] at nonzero ⊢
  exact accounted.recorded earlier (ofState earlier isEarlier) nonzero

/-- A delivery is counted exactly if its packet is of a flow. -/
theorem Accounted.filter_isRecorded
    {state : TracedState}
    (accounted : Accounted misdeliveryCount state)
    {delivered : List Delivery}
    (recorded :
      ∀ delivery ∈ delivered,
        delivery.tagged.packet.flowId ≠ 0 →
          delivery.tagged.packet.flowId ∈ state.counters.flows) :
    delivered.filter (isRecorded state.counters.flows) =
      delivered.filter ofFlow := by
  refine List.filter_congr fun delivery member => ?_
  rw [Bool.eq_iff_iff, isRecorded, ofFlow, decide_eq_true_eq,
    decide_eq_true_eq]
  refine ⟨fun known same => ?_, recorded delivery member⟩
  rw [same] at known
  exact accounted.nonzero known

/-- The sums over the packets that are handled, and over all packets. -/
theorem total_handled
    {state after : RoutedState}
    {position : Nat}
    {transit : Transit}
    (found : state.transits[position]? = some transit)
    (same : RoutedState.SameTraffic state after)
    (handling : Handling)
    (measure : TaggedPacket → Nat) :
    (after.replace position handling).total measure +
        (transit.packets.map measure).sum =
      state.total measure + (handling.packets.map measure).sum := by
  rw [RoutedState.total, same.packets_replace position handling]
  exact RoutedState.total_replace measure found handling

/-- Handling what is in transit. -/
theorem Accounted.replace
    {state : TracedState}
    (accounted : Accounted misdeliveryCount state)
    {position : Nat}
    {draw : Bool}
    {transit : Transit}
    {handling : Handling}
    {after : RoutedState}
    (found : state.network.transits[position]? = some transit)
    (continues : Continues sim state.network draw transit handling)
    (small : ∀ tagged ∈ transit.packets, tagged.getHops + 1 < 2 ^ 32)
    (same : RoutedState.SameTraffic state.network after) :
    Accounted misdeliveryCount
      { network := after.replace position handling
        counters :=
          state.counters.performAll
            (sim.reportsOf state.network draw transit) } := by
  have carries := continues.carries
  have receives := continues.receives state.counters
  have adds :=
    TrafficCounters.adds_performAll
      (sim.reportsOf state.network draw transit) state.counters
  have before := RoutedState.perm_others found
  have later :
      ((after.replace position handling).packets).Perm
        (state.network.others position ++ handling.packets) := by
    rw [same.packets_replace position handling]
    exact RoutedState.perm_replace state.network position handling
  have total := total_handled found same handling
  have ofOthers {tagged : TaggedPacket}
      (member : tagged ∈ state.network.others position) :
      tagged ∈ state.network.packets :=
    before.mem_iff.mpr (List.mem_append_left _ member)
  have ofTransit :
      ∀ tagged ∈ transit.packets, tagged ∈ state.network.packets :=
    fun tagged member =>
      before.mem_iff.mpr (List.mem_append_right _ member)
  have tagged :
      ∀ tagged ∈ transit.packets, tagged.hopsTag.isSome = true :=
    fun tagged member => accounted.hopsTags tagged (ofTransit tagged member)
  have recorded := accounted.recorded_of_carries carries ofTransit
  have ofFlows :
      handling.delivered.filter (isRecorded state.counters.flows) =
        handling.delivered.filter ofFlow :=
    accounted.filter_isRecorded fun delivery member =>
      recorded delivery.tagged
        (List.mem_append_left _
          (List.mem_append_right _ (List.mem_map_of_mem member)))
  refine
    { hopsTags := fun other member => ?_
      nonzero := ?_
      recorded := fun other member nonzero => ?_
      sentPackets := ?_
      receivedPackets := ?_
      totalPacketHops := ?_
      processedPackets := ?_
      misdeliveries := ?_ }
  · rcases List.mem_append.mp (later.mem_iff.mp member) with old | isNew
    · exact accounted.hopsTags other (ofOthers old)
    · exact carries.hopsTags tagged other isNew
  · rw [receives.flows]
    exact accounted.nonzero
  · rw [receives.flows]
    rcases List.mem_append.mp (later.mem_iff.mp member) with old | isNew
    · exact accounted.recorded other (ofOthers old) nonzero
    · exact recorded other isNew nonzero
  · rw [adds.sentPackets, continues.unsent, accounted.sentPackets]
    exact same.sent.symm
  · rw [receives.receivedPackets, ofFlows, accounted.receivedPackets]
    change _ = (List.filter _ (after.delivered ++ _)).length
    rw [same.delivered, List.filter_append, List.length_append]
  · rw [receives.totalPacketHops, ofFlows, accounted.totalPacketHops]
    change _ = ((List.filter _ (after.delivered ++ _)).map _).sum
    rw [same.delivered, List.filter_append, List.map_append,
      List.sum_append]
  · have hops :=
      carries.hops fun other member =>
        ⟨tagged other member, small other member⟩
    have sums := total TaggedPacket.getHops
    rw [adds.processedPackets, accounted.processedPackets]
    dsimp only
    omega
  · have sums := total fun tagged => tagged.packet.misdeliveries
    rw [carries.misdeliveries] at sums
    rw [adds.misdeliveryCount, accounted.misdeliveries, UInt32.add_assoc,
      ← UInt32.ofNat_add]
    congr 2
    dsimp only
    omega

/-- A packet that is on its way has made few hops. -/
theorem getHops_lt_of_placed
    {virtualToPhysical : Ipv4Address → Option Ipv4Address}
    {transit : Transit}
    (placed : sim.Placed virtualToPhysical limit transit)
    (few : 10 * (limit + 1) + 1 < 2 ^ 32) :
    ∀ tagged ∈ transit.packets, tagged.getHops + 1 < 2 ^ 32 := by
  have bound {ahead : Nat} {tagged : TaggedPacket}
      (hops : HopsLeft limit ahead tagged) :
      tagged.getHops + 1 < 2 ^ 32 := by
    unfold HopsLeft at hops
    omega
  intro tagged member
  cases transit with
  | data node other =>
      rw [List.mem_singleton.mp member]
      exact bound (OnTheWay.hops placed)
  | protocol node packet => exact absurd member List.not_mem_nil
  | scheduled leaf host other call =>
      rw [List.mem_singleton.mp member]
      exact bound (ToBeSent.hops placed)
  | atGateway leaf host other =>
      rw [List.mem_singleton.mp member]
      exact bound (Resolved.hops placed)

/-- What a container sends is one packet, with all its tags. -/
theorem packets_virtualSend
    {virtualToPhysical : Ipv4Address → Option Ipv4Address}
    {leaf host : Nat}
    {hostState : HostState}
    {tagged : TaggedPacket}
    {pick : Nat}
    {sent : HostState × Handling}
    (fresh : ¬ tagged.packet.inner.ttl < 64)
    (sends :
      sim.virtualSend virtualToPhysical leaf host hostState tagged pick =
        some sent)
    (undropped : sent.2.dropped = []) :
    ∃ packet : DataPacket,
      sent.2.packets = [{ tagged with packet := packet }] ∧
        packet.flowId = tagged.packet.flowId ∧
        packet.misdeliveries = tagged.packet.misdeliveries := by
  obtain ⟨after, call, delay, sending, _⟩ :=
    (sim.socketHelper leaf host).exists_virtualSend hostState fresh
  unfold virtualSend at sends
  dsimp only at sends
  rw [sending] at sends
  dsimp only at sends
  split at sends
  next =>
    simp only [perform, Option.map_map, Option.map_eq_some_iff] at sends
    obtain ⟨packet, performed, rfl⟩ := sends
    obtain ⟨sameFlow, sameCount⟩ := same_of_perform performed
    obtain ⟨next, output⟩ := exists_output undropped
    refine ⟨packet, ?_, sameFlow, sameCount⟩
    dsimp only [Function.comp_apply]
    rw [output]
    rfl
  next =>
    rw [← Option.some.inj sends]
    exact ⟨tagged.packet, rfl, rfl, rfl⟩

/-- A container sends the next packet. -/
theorem Accounted.send
    {state : TracedState}
    (accounted : Accounted misdeliveryCount state)
    {handling : Handling}
    {tagged : TaggedPacket}
    (isNew : handling.packets = [tagged])
    (hopsTag : tagged.hopsTag = some 0)
    (unmoved : tagged.packet.misdeliveries = 0)
    (undelivered : handling.delivered = [])
    (after : RoutedState)
    (transits :
      after.transits = state.network.transits ++ handling.transits)
    (delivered : after.delivered = state.network.delivered)
    (dropped : after.dropped = state.network.dropped ++ handling.dropped)
    (lost : after.lost = state.network.lost)
    (sent : after.sent = state.network.sent + 1) :
    Accounted misdeliveryCount
      { network := after
        counters :=
          state.counters.performAll
            [.clientTx tagged.packet.flowId] } := by
  have packets :
      after.packets.Perm (state.network.packets ++ [tagged]) := by
    classical
    rw [← isNew, List.perm_iff_count]
    intro other
    simp only [RoutedState.packets, Handling.packets, transits, delivered,
      dropped, lost, undelivered, List.flatMap_append, List.count_append,
      List.map_nil, List.count_nil]
    omega
  have total (measure : TaggedPacket → Nat) :
      after.total measure = state.network.total measure + measure tagged := by
    rw [RoutedState.total, (packets.map measure).sum_eq, List.map_append,
      List.sum_append]
    rfl
  have noHops : tagged.getHops = 0 := by
    rw [TaggedPacket.getHops, hopsTag]
    rfl
  have flows :=
    state.counters.mem_flows_clientTx tagged.packet.flowId
  refine
    { hopsTags := fun other member => ?_
      nonzero := ?_
      recorded := fun other member nonzero => ?_
      sentPackets := ?_
      receivedPackets := ?_
      totalPacketHops := ?_
      processedPackets := ?_
      misdeliveries := ?_ }
  · rcases List.mem_append.mp (packets.mem_iff.mp member) with old | added
    · exact accounted.hopsTags other old
    · rw [List.mem_singleton.mp added, hopsTag]
      rfl
  · intro member
    rcases (flows 0).mp member with old | ⟨isZero, nonzero⟩
    · exact accounted.nonzero old
    · exact nonzero isZero.symm
  · apply (flows other.packet.flowId).mpr
    rcases List.mem_append.mp (packets.mem_iff.mp member) with old | added
    · exact Or.inl (accounted.recorded other old nonzero)
    · rw [List.mem_singleton.mp added] at nonzero ⊢
      exact Or.inr ⟨rfl, nonzero⟩
  · exact (congrArg (· + 1) accounted.sentPackets).trans sent.symm
  · change state.counters.receivedPackets = _
    rw [delivered]
    exact accounted.receivedPackets
  · change state.counters.totalPacketHops = _
    rw [delivered]
    exact accounted.totalPacketHops
  · change state.counters.switchToProcessedPackets.sum = after.total _
    rw [total, noHops]
    exact accounted.processedPackets
  · change
      state.counters.misdeliveryCount =
        misdeliveryCount + UInt32.ofNat (after.total _)
    rw [total, unmoved]
    exact accounted.misdeliveries

/-- Nothing is sent or delivered. -/
theorem Accounted.of_perm
    {state : TracedState}
    (accounted : Accounted misdeliveryCount state)
    {after : RoutedState}
    (packets : after.packets.Perm state.network.packets)
    (delivered : after.delivered = state.network.delivered)
    (sent : after.sent = state.network.sent) :
    Accounted misdeliveryCount { state with network := after } where
  hopsTags := fun tagged member =>
    accounted.hopsTags tagged (packets.mem_iff.mp member)
  nonzero := accounted.nonzero
  recorded := fun tagged member =>
    accounted.recorded tagged (packets.mem_iff.mp member)
  sentPackets := accounted.sentPackets.trans sent.symm
  receivedPackets := by
    rw [delivered]
    exact accounted.receivedPackets
  totalPacketHops := by
    rw [delivered]
    exact accounted.totalPacketHops
  processedPackets :=
    accounted.processedPackets.trans (packets.map _).sum_eq.symm
  misdeliveries := by
    have sameTotal :
        after.total (fun tagged => tagged.packet.misdeliveries) =
          state.network.total fun tagged => tagged.packet.misdeliveries :=
      (packets.map _).sum_eq
    rw [sameTotal]
    exact accounted.misdeliveries

/-- A queue takes a packet. -/
theorem perm_packets_lose
    {state : RoutedState}
    {position : Nat}
    {transit : Transit}
    (found : state.transits[position]? = some transit) :
    RoutedState.packets
        { state with
          transits := state.transits.eraseIdx position
          lost := state.lost ++ [transit] } |>.Perm state.packets := by
  refine List.Perm.trans ?_ (RoutedState.perm_others found).symm
  classical
  rw [List.perm_iff_count]
  intro tagged
  simp only [RoutedState.packets, RoutedState.others, List.flatMap_append,
    List.flatMap_singleton, List.count_append]
  omega

/-- No step of a state in order breaks the accounts. -/
theorem Accounted.step
    {state : TracedState}
    (accounted : Accounted misdeliveryCount state)
    (inOrder : sim.InOrder limit state.network)
    (orderly : sim.Orderly limit state.network)
    (sound : sim.Sound)
    (notBluebird : sim.NotBluebird)
    (few : 10 * (limit + 1) + 1 < 2 ^ 32)
    {action : RoutedAction}
    {next : TracedState}
    (permitted : sim.Permitted state.network action)
    (stepped : sim.traced.step state action = some next) :
    Accounted misdeliveryCount next := by
  obtain ⟨after, steps, rfl⟩ := Option.map_eq_some_iff.mp stepped
  have undropped :=
    (inOrder.step orderly sound notBluebird permitted
      steps).inOrder.undropped
  cases sim.steps_of_step steps with
  | @send leaf host _ _ _ _ sent _ _ _ sends =>
      have fullTtl : ¬ (64 : UInt8) < 64 := by decide
      obtain ⟨packet, packets, sameFlow, sameCount⟩ :=
        packets_virtualSend fullTtl sends
          (List.append_eq_nil_iff.mp undropped).2
      have again :=
        accounted.send packets rfl sameCount (delivered_virtualSend sends)
          { state.network.setHost leaf host sent.1 with
            transits := state.network.transits ++ sent.2.transits
            sent := state.network.sent + 1
            dropped := state.network.dropped ++ sent.2.dropped }
          rfl rfl rfl rfl rfl
      rw [sameFlow] at again
      exact again
  | handle found handles =>
      have member := List.mem_of_getElem? found
      rw [reports_handle found]
      exact
        accounted.replace found
          (.of_handle inOrder orderly sound notBluebird member handles)
          (getHops_lt_of_placed (inOrder.placed _ member) few)
          (sameTraffic_of_handle handles).1
  | lose found => exact accounted.of_perm (perm_packets_lose found) rfl rfl
  | migration => exact accounted.of_perm (.refl _) rfl rfl
  | querySwitches => exact accounted.of_perm (.refl _) rfl rfl

/-! ## The end of a run -/

/--
What the statistics of a run without losses say, if the misdeliveries have been
counted from `misdeliveryCount` on.
-/
structure AddsUp
    (limit : Nat)
    (misdeliveryCount : UInt32)
    (counters : TrafficCounters) : Prop where
  receivedPackets : counters.receivedPackets = counters.sentPackets
  processedPackets :
    counters.switchToProcessedPackets.sum = counters.totalPacketHops
  totalPacketHops :
    counters.totalPacketHops ≤ 10 * (limit + 1) * counters.sentPackets
  misdeliveries :
    ∃ misdeliveries ≤ limit * counters.sentPackets,
      counters.misdeliveryCount =
        misdeliveryCount + UInt32.ofNat misdeliveries

/-- Once everything is delivered, there are no other packets. -/
theorem packets_of_quiet
    {state : RoutedState}
    (inOrder : sim.InOrder limit state)
    (quiet : state.transits = [])
    (lossless : state.lost = []) :
    state.packets = state.delivered.map Delivery.tagged := by
  rw [RoutedState.packets, quiet, lossless, inOrder.undropped]
  exact List.append_nil _

/-- A bound for each packet, and for all of them. -/
theorem sum_map_delivered_le
    {delivered : List Delivery}
    {measure : TaggedPacket → Nat}
    {bound : Nat}
    (bounded : ∀ delivery ∈ delivered, measure delivery.tagged ≤ bound) :
    ((delivered.map Delivery.tagged).map measure).sum ≤
      bound * delivered.length := by
  induction delivered with
  | nil => exact Nat.zero_le _
  | cons delivery rest inductionHypothesis =>
      have here := bounded delivery List.mem_cons_self
      have others :=
        inductionHypothesis fun other member =>
          bounded other (List.mem_cons_of_mem _ member)
      rw [List.length_cons, Nat.mul_succ, Nat.add_comm]
      exact Nat.add_le_add here others

theorem Accounted.addsUp
    {state : TracedState}
    (accounted : Accounted misdeliveryCount state)
    (balanced : state.network.Balanced)
    (inOrder : sim.InOrder limit state.network)
    (quiet : state.network.transits = [])
    (lossless : state.network.lost = [])
    (ofFlows : state.network.delivered.all ofFlow = true) :
    AddsUp limit misdeliveryCount state.counters := by
  have allOfFlows :
      state.network.delivered.filter ofFlow = state.network.delivered :=
    List.filter_eq_self.mpr (List.all_eq_true.mp ofFlows)
  have packets := packets_of_quiet inOrder quiet lossless
  have received := accounted.receivedPackets
  have hops := accounted.totalPacketHops
  have processed := accounted.processedPackets
  have misdeliveries := accounted.misdeliveries
  rw [allOfFlows] at received hops
  rw [RoutedState.total, packets] at processed misdeliveries
  have allDelivered :
      state.network.delivered.length = state.counters.sentPackets := by
    have lengths := (perm_of_quiet balanced inOrder quiet).length_eq
    rw [lossless, List.flatMap_nil, List.append_nil, List.length_map,
      List.length_range] at lengths
    exact lengths.trans accounted.sentPackets.symm
  have sameHops :
      state.counters.switchToProcessedPackets.sum =
        state.counters.totalPacketHops := by
    rw [processed, hops, List.map_map]
    rfl
  refine
    ⟨received.trans allDelivered, sameHops, ?_, _, ?_, misdeliveries⟩
  · rw [← sameHops, processed, ← allDelivered]
    exact
      sum_map_delivered_le fun delivery member =>
        (inOrder.delivered delivery member).hops
  · rw [← allDelivered]
    exact
      sum_map_delivered_le fun delivery member =>
        (inOrder.delivered delivery member).misdeliveries

/-- The accounts of all runs whose packets stay on their way. -/
theorem Maintains.accounted
    {allowed : RoutedState → RoutedAction → Prop}
    {holds : RoutedState → Prop}
    (maintains : Maintains sim limit allowed holds)
    (sound : sim.Sound)
    (notBluebird : sim.NotBluebird)
    (few : 10 * (limit + 1) + 1 < 2 ^ 32)
    {virtualToPhysical : Ipv4Address → Option Ipv4Address}
    {addresses : Nat → Nat → List Ipv4Address}
    (atStart : holds (sim.start virtualToPhysical addresses))
    {state : TracedState}
    (reachable :
      sim.traced.Reachable
        (fun traced action => allowed traced.network action)
        (sim.tracedStart virtualToPhysical addresses misdeliveryCount)
        state) :
    holds state.network ∧ Accounted misdeliveryCount state := by
  refine
    reachable.invariant
      (fun state => holds state.network ∧ Accounted misdeliveryCount state)
      ⟨atStart, accounted_start virtualToPhysical addresses _⟩ ?_
  rintro current action next ⟨before, accounted⟩ permitted stepped
  have further :=
    accounted.step (maintains.inOrder before) (maintains.orderly before)
      sound notBluebird few (maintains.permitted before permitted) stepped
  obtain ⟨after, steps, rfl⟩ := Option.map_eq_some_iff.mp stepped
  exact
    ⟨(maintains.step sound notBluebird before permitted steps).1, further⟩

/-! ## One migration -/

end RoutedSimulation

end SwitchV2P
