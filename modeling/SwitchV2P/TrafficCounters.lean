import SwitchV2P.RoutedNetwork

/-!
# What the simulation counts

The applications report to `TraceSimulation` what they send, receive and find
in their caches, and the hosts share a count of misdeliveries, which no
constructor initialises.  The other counters are natural numbers; bytes, times,
drops and generated packets are left out.
-/

namespace AList

variable {K : Type} [DecidableEq K]

/-- `table[key]++`. -/
def increment
    (table : AList fun _ : K => Nat)
    (key : K) :
    AList fun _ : K => Nat :=
  table.insert key ((table.lookup key).getD 0 + 1)

/-- All counts of a table together. -/
def sum (table : AList fun _ : K => Nat) : Nat :=
  table.total fun _ count => count

@[simp] theorem sum_increment
    (table : AList fun _ : K => Nat)
    (key : K) :
    (table.increment key).sum = table.sum + 1 := by
  unfold sum increment
  rw [total_insert]
  cases found : table.lookup key with
  | none =>
      rw [total_of_not_found _ found, Option.getD_none]
      omega
  | some count =>
      rw [total_of_lookup _ found, Option.getD_some]
      omega

end AList

namespace SwitchV2P

/-- A trace that fires, or `m_misdeliveryCount++`. -/
inductive Report where
  | clientTx (flowId : UInt32)
  | sinkRx (hopsTag : Option UInt32) (flowId : UInt32)
  | gatewayRx
  | processedPacket (node : Node)
  | cacheHit (node : Node)
  | misdelivery
  deriving Repr, DecidableEq

/-- The counters, and the keys of `m_flowStats`. -/
structure TrafficCounters where
  sentPackets : Nat
  receivedPackets : Nat
  gwPackets : Nat
  misdeliveryCount : UInt32
  totalPacketHops : Nat
  flows : List UInt32
  switchToProcessedPackets : AList fun _ : Node => Nat
  switchToCacheHits : AList fun _ : Node => Nat

namespace TrafficCounters

/-- Before the first packet, with what is found in `m_misdeliveryCount`. -/
def start (misdeliveryCount : UInt32) : TrafficCounters where
  sentPackets := 0
  receivedPackets := 0
  gwPackets := 0
  misdeliveryCount := misdeliveryCount
  totalPacketHops := 0
  flows := []
  switchToProcessedPackets := ∅
  switchToCacheHits := ∅

/-- `ClientTx`. -/
def clientTx
    (counters : TrafficCounters)
    (flowId : UInt32) :
    TrafficCounters :=
  { counters with
    sentPackets := counters.sentPackets + 1
    flows :=
      if flowId = 0 ∨ flowId ∈ counters.flows then
        counters.flows
      else
        flowId :: counters.flows }

/-- `SinkRx`. -/
def sinkRx
    (counters : TrafficCounters)
    (hopsTag : Option UInt32)
    (flowId : UInt32) :
    TrafficCounters :=
  if flowId ∉ counters.flows then
    counters
  else
    { counters with
      receivedPackets := counters.receivedPackets + 1
      totalPacketHops :=
        counters.totalPacketHops + (hopsTag.map UInt32.toNat).getD 0 }

/-- `GatewayRx`. -/
def gatewayRx (counters : TrafficCounters) : TrafficCounters :=
  { counters with gwPackets := counters.gwPackets + 1 }

/-- `ProcessedPacket`. -/
def processedPacket
    (counters : TrafficCounters)
    (node : Node) :
    TrafficCounters :=
  { counters with
    switchToProcessedPackets :=
      counters.switchToProcessedPackets.increment node }

/-- `CacheHit`, for all hits alike. -/
def cacheHit
    (counters : TrafficCounters)
    (node : Node) :
    TrafficCounters :=
  { counters with
    switchToCacheHits := counters.switchToCacheHits.increment node }

def perform (counters : TrafficCounters) : Report → TrafficCounters
  | .clientTx flowId => counters.clientTx flowId
  | .sinkRx hopsTag flowId => counters.sinkRx hopsTag flowId
  | .gatewayRx => counters.gatewayRx
  | .processedPacket node => counters.processedPacket node
  | .cacheHit node => counters.cacheHit node
  | .misdelivery =>
      { counters with misdeliveryCount := counters.misdeliveryCount + 1 }

/-- The counters after some reports. -/
def performAll
    (counters : TrafficCounters)
    (reports : List Report) :
    TrafficCounters :=
  reports.foldl perform counters

end TrafficCounters

/-! ## Cache hits -/

namespace SwitchConfig

variable (config : SwitchConfig)

/--
`m_cacheHit` fires at the last lookup of `ReceivePacket` only.  The lookups of
`LocalP4CacheLogic` and for an invalidation redirect packets without it.
-/
def tracesCacheHit
    (draw : Bool)
    (state : SwitchState)
    (packet : DataPacket) :
    Bool :=
  if config.simMode = .localLearning then
    false
  else
    match packet.invalidationTag.peek with
    | some _ => false
    | none =>
        let promotion := config.promoteLookup state.cache packet
        let learned := config.learnFromPacket draw promotion.2 packet
        !promotion.1.isSome && !learned.2.2.2 &&
          config.isGateway learned.2.1.outer.destination &&
            (learned.1.get learned.2.1.inner.destination).1.isSome

/-- Whatever is learned, the packet has another eviction tag at most. -/
theorem learnFromPacket_packet
    (draw : Bool)
    (cache : P4Cache Ipv4Address Ipv4Address)
    {packet : DataPacket}
    (uninvalidated : packet.invalidationTag.peek = none) :
    ∃ tags,
      (config.learnFromPacket draw cache packet).2.1 =
        { packet with evictionTag := tags } := by
  unfold learnFromPacket
  split
  next atLeaf => exact ⟨packet.evictionTag, rfl⟩
  next elsewhere =>
    exact config.learnElsewhere_packet draw cache uninvalidated

/-- A traced hit is a new `HitTag`, and there are no other new ones. -/
theorem hitTag_receivePacket
    (draw : Bool)
    (state : SwitchState)
    {packet : DataPacket}
    (readsTags : config.readsTags = true)
    (uninvalidated : packet.invalidationTag.peek = none) :
    let after := (config.receivePacket draw state packet).packet
    (config.tracesCacheHit draw state packet = true →
        after.hitTag =
          packet.hitTag.add
            { address := config.switchAddress
              switchId := config.nodeId }) ∧
      (config.tracesCacheHit draw state packet = false →
        after.hitTag = packet.hitTag) := by
  have notLocal : config.simMode ≠ .localLearning :=
    of_decide_eq_true readsTags
  rw [receivePacket, if_neg notLocal, tracesCacheHit, if_neg notLocal,
    uninvalidated]
  unfold receiveUntagged
  dsimp only
  cases promoted : (config.promoteLookup state.cache packet).1 with
  | some cachedVal => simp
  | none =>
      obtain ⟨tags, learned⟩ :=
        config.learnFromPacket_packet draw
          (config.promoteLookup state.cache packet).2 uninvalidated
      dsimp only
      rw [learned]
      split
      next returned => simp [returned]
      next continued =>
        rw [Bool.eq_false_iff.mpr continued]
        unfold redirectFromCache
        dsimp only
        cases toGateway : config.isGateway packet.outer.destination with
        | false => simp
        | true =>
            rw [if_pos rfl]
            cases
              ((config.learnFromPacket draw
                (config.promoteLookup state.cache packet).2
                packet).1.get packet.inner.destination).1 with
            | none => simp
            | some cachedAddr => simp

end SwitchConfig

namespace SwitchApp

/-- Does `ReceivePacket` call `m_cacheHit`? -/
def tracesCacheHit
    (gwAddresses : List Ipv4Address)
    (cache : LRUCache Ipv4Address Ipv4Address)
    (packet : DataPacket) :
    Bool :=
  packet.outer.destination ∈ gwAddresses &&
    (cache.get packet.inner.destination).1.isSome

end SwitchApp

/-- The cache hit that an application traces. -/
def SwitchApplication.tracesCacheHit
    (draw : Bool)
    (application : SwitchApplication)
    (packet : DataPacket) :
    Bool :=
  match application with
  | p4SwitchApp config state => config.tracesCacheHit draw state packet
  | switchApp gwAddresses _ members =>
      SwitchApp.tracesCacheHit gwAddresses members.cache packet

/-! ## Traced runs -/

/-- A state with everything that was counted until then. -/
structure TracedState where
  network : RoutedState
  counters : TrafficCounters

namespace RoutedSimulation

variable (sim : RoutedSimulation)

/-- The traces of what happens next to a packet. -/
def reportsOf
    (state : RoutedState)
    (draw : Bool) :
    Transit → List Report
  | .data (.host leaf host) tagged =>
      let inner := tagged.packet.inner
      if sim.gws.contains (leaf, host) ∨
          tagged.destination ≠ sim.hostAddress leaf host then
        []
      else if inner.destination ∈ state.addresses leaf host then
        [.sinkRx tagged.hopsTag tagged.packet.flowId]
      else if inner.ttl - 1 = 0 ∨ ¬ inner.ttl - 1 < 64 then
        []
      else
        [.misdelivery]
  | .data node tagged =>
      match state.applications node with
      | some application =>
          .processedPacket node ::
            if application.tracesCacheHit draw tagged.packet then
              [.cacheHit node]
            else
              []
      | none => []
  | .atGateway _ _ _ => [.gatewayRx]
  | _ => []

/--
The traces of a step.  Every container that is sent to has a sink, and one that
answers sends for a flow that its client has reported before.
-/
def reports (state : RoutedState) : RoutedAction → List Report
  | .send _ _ _ _ flowId _ => [.clientTx flowId]
  | .handle position draw _ _ =>
      match state.transits[position]? with
      | some transit => sim.reportsOf state draw transit
      | none => []
  | _ => []

/-- The simulation with its counters. -/
def traced : TransitionSystem TracedState RoutedAction where
  step := fun state action =>
    (sim.step state.network action).map fun next =>
      { network := next
        counters :=
          state.counters.performAll (sim.reports state.network action) }

/--
The state after the setup, with nothing counted.  Nothing sets the count of
misdeliveries.
-/
def tracedStart
    (virtualToPhysical : Ipv4Address → Option Ipv4Address)
    (addresses : Nat → Nat → List Ipv4Address)
    (misdeliveryCount : UInt32) :
    TracedState where
  network := sim.start virtualToPhysical addresses
  counters := .start misdeliveryCount

variable {sim : RoutedSimulation}

/-- The turn of a node is traced as what happens to the packet that it has. -/
theorem reports_handle
    {state : RoutedState}
    {position : Nat}
    {transit : Transit}
    (found : state.transits[position]? = some transit)
    (draw : Bool)
    (pick learnPick : Nat) :
    sim.reports state (.handle position draw pick learnPick) =
      sim.reportsOf state draw transit := by
  rw [reports, found]

/-- Counting changes nothing of the runs. -/
theorem reachable_of_traced
    {allowed : RoutedState → RoutedAction → Prop}
    {start state : TracedState}
    (reachable :
      sim.traced.Reachable
        (fun traced action => allowed traced.network action) start
        state) :
    sim.system.Reachable allowed start.network state.network := by
  refine
    reachable.invariant
      (fun traced =>
        sim.system.Reachable allowed start.network traced.network)
      .start ?_
  intro current action next before permitted stepped
  obtain ⟨network, steps, rfl⟩ := Option.map_eq_some_iff.mp stepped
  exact before.step permitted steps

end RoutedSimulation

end SwitchV2P
