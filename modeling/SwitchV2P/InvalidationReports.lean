import SwitchV2P.GatewayApp
import SwitchV2P.SocketHelper
import SwitchV2P.SwitchRuns
import SwitchV2P.TraceSimulation

namespace SwitchV2P.InvalidationReports

/-!
# Who reports a misdelivery

A host that gets a packet for a container it does not have marks it and sends
it on.  If the packet was redirected by a cache on its way, the leaf above the
host tells that switch what is wrong.  The packet then travels on through
switches and a gateway; nobody else reports it again.
-/

/-! ## The way of a packet -/

/-- A place that a packet passes on its way. -/
inductive Stop where
  | switch (config : SwitchConfig) (state : SwitchState) (draw : Bool)
  | gateway (virtualToPhysical : Ipv4Address → Option Ipv4Address)

/-- What leaves a place: the packet, and what was generated there. -/
def Stop.visit :
    Stop → DataPacket → Option (DataPacket × List ProtocolPacket)
  | .switch config state draw, packet =>
      some
        ((config.receivePacket draw state packet).packet,
          (config.receivePacket draw state packet).generated)
  | .gateway virtualToPhysical, packet =>
      (GatewayApp.receivePacket virtualToPhysical packet).map
        fun resolved => (GatewayApp.sendPacket resolved, [])

/-- Everything that is generated along the way of a packet. -/
def generatedAlong : List Stop → DataPacket → List ProtocolPacket
  | [], _ => []
  | stop :: rest, packet =>
      match stop.visit packet with
      | some (next, generated) => generated ++ generatedAlong rest next
      | none => []

/-- The invalidation packets among generated packets. -/
def invalidations (generated : List ProtocolPacket) : List ProtocolPacket :=
  generated.filter fun packet => !packet.invalidationTag.tags.isEmpty

/-- The packet has one tag for its own destination, and one hit tag. -/
structure Marked
    (packet : DataPacket)
    (value : Ipv4Address)
    (hitTag : HitTag) : Prop where
  invalidated :
    packet.invalidationTag.tags = [(packet.inner.destination, value)]
  hit : packet.hitTag.tags = [hitTag]

/-- No switch has anything to report about the packet. -/
def Quiet (packet : DataPacket) : Prop :=
  packet.invalidationTag.tags = [] ∨
    (packet.hitTag.tags = [] ∧ packet.invalidationTag.tags.length ≤ 1)

variable
  {config : SwitchConfig}
  {draw : Bool}
  {state : SwitchState}
  {packet : DataPacket}
  {value : Ipv4Address}
  {hitTag : HitTag}

/-! ## The host that marks the packet -/

/-- A host marks a misdelivered packet with its own address. -/
theorem marked_of_perform
    {helper : SocketHelper}
    {hostState : HostState}
    {virtualToPhysical : Ipv4Address → Option Ipv4Address}
    {arrived sent : DataPacket}
    (misdelivered : arrived.inner.ttl < 64)
    (hit : arrived.hitTag.tags = [hitTag])
    (unmarked : arrived.invalidationTag.tags = [])
    (sends :
      helper.perform virtualToPhysical
          (helper.virtualSend hostState arrived).packet
          (helper.virtualSend hostState arrived).call =
        some sent) :
    sent.inner = arrived.inner ∧
      Marked sent helper.physicalAddress hitTag := by
  obtain ⟨marked, resends⟩ :=
    helper.virtualSend_of_ttl_lt hostState misdelivered
  obtain ⟨destination, rfl⟩ := helper.eq_sendTo_of_perform sends
  rw [resends]
  refine ⟨rfl, ?_, hit⟩
  change _ :: arrived.invalidationTag.tags = _
  rw [unmarked]
  rfl

/-! ## The leaf that reports it -/

/-- After following an invalidation the named entry is gone. -/
theorem not_live_followInvalidation
    (cache : P4Cache Ipv4Address Ipv4Address)
    (packet : DataPacket)
    (invalidated : Mapping) :
    ¬ (SwitchConfig.followInvalidation cache packet
      invalidated).1.Live invalidated.1 invalidated.2 := by
  intro live
  unfold SwitchConfig.followInvalidation at live
  dsimp only at live
  split at live
  next cachedVal found =>
    split at live
    next same =>
      have emptied := live.stored
      have ownSlot :
          (cache.get invalidated.1).2.Collide invalidated.1
            invalidated.1 :=
        rfl
      rw [P4Cache.slot_remove, if_pos ownSlot] at emptied
      exact live.nonzero (congrArg Prod.snd emptied).symm
    next different =>
      have kept := P4Cache.live_iff_get.mp ((P4Cache.live_get _).mp live)
      rw [found] at kept
      exact different (Option.some.inj kept)
  next missing =>
    have kept := P4Cache.live_iff_get.mp ((P4Cache.live_get _).mp live)
    rw [missing] at kept
    exact absurd kept (Option.some_ne_none _).symm

/-- Following an invalidation changes at most the outer destination. -/
theorem tags_followInvalidation
    (cache : P4Cache Ipv4Address Ipv4Address)
    (packet : DataPacket)
    (invalidated : Mapping) :
    (SwitchConfig.followInvalidation cache packet
          invalidated).2.hitTag =
        packet.hitTag ∧
      (SwitchConfig.followInvalidation cache packet
          invalidated).2.invalidationTag =
        packet.invalidationTag ∧
      (SwitchConfig.followInvalidation cache packet
          invalidated).2.inner =
        packet.inner := by
  unfold SwitchConfig.followInvalidation
  dsimp only
  split
  next => split <;> exact ⟨rfl, rfl, rfl⟩
  next => exact ⟨rfl, rfl, rfl⟩

/-- The path of a tagged packet through a leaf. -/
theorem receivePacket_leaf
    (mode : config.simMode = .switchV2P)
    (atLeaf : config.switchType = .leaf)
    {invalidated : Mapping}
    (tagged : packet.invalidationTag.peek = some invalidated) :
    config.receivePacket draw state packet =
      config.reportInvalidation
        { state with
          cache :=
            (SwitchConfig.followInvalidation state.cache packet
              invalidated).1 }
        (SwitchConfig.followInvalidation state.cache packet
          invalidated).2
        invalidated := by
  rw [SwitchConfig.receivePacket_of_tagged draw state mode tagged,
    SwitchConfig.receiveInvalidationTagged, if_pos atLeaf]

/-- A leaf reports a packet with a hit tag, unless its filter forbids it. -/
theorem reportInvalidation_of_hitTag
    {invalidated : Mapping}
    (found : packet.hitTag.peek = some hitTag) :
    config.reportInvalidation state packet invalidated =
      { state :=
          { state with
            bloomFilter :=
              if config.bloomFilterEnabled then
                state.bloomFilter.put hitTag.switchId
              else
                state.bloomFilter }
        packet := { packet with hitTag := packet.hitTag.remove }
        generated :=
          if config.generateInvalidation &&
              !(config.bloomFilterEnabled &&
                state.bloomFilter.get hitTag.switchId) then
            config.generatePacketToAddress
              (packet.inner.destination, invalidated.2)
              hitTag.address false
          else
            [] } := by
  unfold SwitchConfig.reportInvalidation
  rw [found]

/-- The invalidation packet for a mapping, unless it would go to the sender. -/
def report
    (config : SwitchConfig)
    (mapping : Mapping)
    (address : Ipv4Address) :
    List ProtocolPacket :=
  if address = config.switchAddress then
    []
  else
    [{ destination := address
       evictionTag := TagStack.empty
       invalidationTag := TagStack.empty.add mapping }]

theorem generatePacketToAddress_eq_report
    (mapping : Mapping)
    (address : Ipv4Address) :
    config.generatePacketToAddress mapping address false =
      report config mapping address := by
  unfold SwitchConfig.generatePacketToAddress report
  by_cases own : address = config.switchAddress
  · simp [own]
  · simp [own]

/-- A leaf without a filter reports a marked packet and drops its entry. -/
theorem Marked.receivePacket_leaf
    (draw : Bool)
    (state : SwitchState)
    (marked : Marked packet value hitTag)
    (mode : config.simMode = .switchV2P)
    (atLeaf : config.switchType = .leaf)
    (enabled : config.generateInvalidation = true)
    (unfiltered : config.bloomFilterEnabled = false) :
    let received := config.receivePacket draw state packet
    received.generated =
        report config (packet.inner.destination, value)
          hitTag.address ∧
      Quiet received.packet ∧
      ¬ received.state.cache.Live packet.inner.destination value := by
  have tagged :
      packet.invalidationTag.peek =
        some (packet.inner.destination, value) := by
    rw [TagStack.peek, marked.invalidated]
    rfl
  obtain ⟨sameHit, sameInvalidation, sameInner⟩ :=
    tags_followInvalidation state.cache packet
      (packet.inner.destination, value)
  have found :
      (SwitchConfig.followInvalidation state.cache packet
          (packet.inner.destination, value)).2.hitTag.peek =
        some hitTag := by
    rw [sameHit, TagStack.peek, marked.hit]
    rfl
  intro received
  have reported :
      received =
        config.reportInvalidation _ _
          (packet.inner.destination, value) :=
    InvalidationReports.receivePacket_leaf mode atLeaf tagged
  rw [reportInvalidation_of_hitTag found] at reported
  rw [reported]
  refine ⟨?_, Or.inr ⟨?_, ?_⟩, ?_⟩
  · simp only [enabled, unfiltered, Bool.false_and, Bool.not_false,
      Bool.and_true, ite_true]
    rw [sameInner, generatePacketToAddress_eq_report]
  · dsimp only
    rw [sameHit, TagStack.tags_remove, marked.hit]
    rfl
  · dsimp only
    rw [sameInvalidation, marked.invalidated]
    exact Nat.le_refl 1
  · exact not_live_followInvalidation state.cache packet
      (packet.inner.destination, value)

/-! ## The rest of the way -/

/-- Learning generates no invalidations. -/
theorem invalidationTag_of_mem_learnElsewhere
    {cache : P4Cache Ipv4Address Ipv4Address}
    {generated : ProtocolPacket}
    (member :
      generated ∈ (config.learnElsewhere draw cache packet).2.2.1) :
    generated.invalidationTag.tags = [] := by
  unfold SwitchConfig.learnElsewhere at member
  dsimp only at member
  split at member
  next => exact absurd member List.not_mem_nil
  next =>
    split at member
    next =>
      split at member
      next => exact absurd member List.not_mem_nil
      next =>
        split at member
        next => exact absurd member List.not_mem_nil
        next =>
          dsimp only at member
          unfold SwitchConfig.generateLearning at member
          split at member
          next =>
            exact
              (SwitchConfig.mem_generatePacketToAddress member).2.2
          next => exact absurd member List.not_mem_nil
    next => exact absurd member List.not_mem_nil

/-- An invalidation is only generated for a packet with both tags. -/
theorem invalidationTag_of_mem_generated
    {generated : ProtocolPacket}
    (member :
      generated ∈ (config.receivePacket draw state packet).generated)
    (silent :
      packet.invalidationTag.tags = [] ∨ packet.hitTag.tags = []) :
    generated.invalidationTag.tags = [] := by
  unfold SwitchConfig.receivePacket at member
  split at member
  next =>
    unfold SwitchConfig.localP4CacheLogic at member
    split at member
    next => exact absurd member List.not_mem_nil
    next => exact absurd member List.not_mem_nil
  next =>
    split at member
    next invalidated tagged =>
      have unhit : packet.hitTag.tags = [] := by
        refine silent.resolve_left fun untagged => ?_
        rw [TagStack.peek, untagged] at tagged
        exact absurd tagged (Option.some_ne_none _).symm
      unfold SwitchConfig.receiveInvalidationTagged at member
      dsimp only at member
      split at member
      next =>
        have missing :
            (SwitchConfig.followInvalidation state.cache packet
              invalidated).2.hitTag.peek = none := by
          rw [(tags_followInvalidation _ _ _).1, TagStack.peek, unhit]
          rfl
        unfold SwitchConfig.reportInvalidation at member
        rw [missing] at member
        exact absurd member List.not_mem_nil
      next => exact absurd member List.not_mem_nil
    next =>
      unfold SwitchConfig.receiveUntagged at member
      dsimp only at member
      split at member
      next => exact absurd member List.not_mem_nil
      next =>
        have learned :
            generated ∈
              (config.learnFromPacket draw
                (config.promoteLookup state.cache packet).2
                packet).2.2.1 := by
          split at member
          next => exact member
          next => exact member
        unfold SwitchConfig.learnFromPacket at learned
        split at learned
        next => exact absurd learned List.not_mem_nil
        next => exact invalidationTag_of_mem_learnElsewhere learned

/-- A quiet packet stays quiet, and nothing is reported about it. -/
theorem Quiet.visit
    (quiet : Quiet packet)
    {stop : Stop}
    {next : DataPacket}
    {generated : List ProtocolPacket}
    (visited : stop.visit packet = some (next, generated)) :
    Quiet next ∧ invalidations generated = [] := by
  cases stop with
  | switch config state draw =>
      obtain ⟨rfl, rfl⟩ := Prod.mk.inj (Option.some.inj visited)
      have stores : state.cache.Stores fun _ _ => True :=
        fun _ => Or.inr trivial
      have offers : config.Offers (fun _ _ => True) packet :=
        ⟨fun _ _ => trivial, fun _ => trivial, fun _ => trivial⟩
      have handled :=
        SwitchConfig.handled_receivePacket draw stores offers
      refine ⟨?_, List.filter_eq_nil_iff.mpr fun packet member => ?_⟩
      · unfold Quiet
        rw [handled.same.invalidationTag]
        rcases quiet with untagged | ⟨unhit, single⟩
        · exact Or.inl untagged
        · cases handled.hitTag with
          | kept same _ => exact Or.inr ⟨by rw [same, unhit], single⟩
          | reported _ _ removed =>
              refine Or.inr ⟨?_, single⟩
              rw [removed, TagStack.tags_remove, unhit]
              rfl
          | hit _ uninvalidated =>
              exact Or.inl (TagStack.tags_eq_nil_of_peek uninvalidated)
      · have silent :=
          invalidationTag_of_mem_generated member
            (quiet.imp id And.left)
        simp [silent]
  | gateway virtualToPhysical =>
      obtain ⟨resolved, received, sent⟩ := Option.map_eq_some_iff.mp visited
      obtain ⟨rfl, rfl⟩ := Prod.mk.inj sent
      obtain ⟨address, _, rfl⟩ := Option.map_eq_some_iff.mp received
      refine ⟨Or.inl ?_, rfl⟩
      change packet.invalidationTag.tags.tail = []
      rcases quiet with untagged | ⟨_, single⟩
      · rw [untagged]
        rfl
      · exact List.eq_nil_of_length_eq_zero
          (by rw [List.length_tail]; omega)

/-- Nothing is reported along the way of a quiet packet. -/
theorem Quiet.invalidations_along
    (quiet : Quiet packet)
    (stops : List Stop) :
    invalidations (generatedAlong stops packet) = [] := by
  induction stops generalizing packet with
  | nil => rfl
  | cons stop rest inductionHypothesis =>
      unfold generatedAlong
      cases visited : stop.visit packet with
      | none => rfl
      | some left =>
          obtain ⟨quietNext, silent⟩ := quiet.visit visited
          dsimp only
          rw [invalidations, List.filter_append, ← invalidations,
            ← invalidations, silent, inductionHypothesis quietNext]
          rfl

theorem invalidations_report (mapping : Mapping) (address : Ipv4Address) :
    invalidations (report config mapping address) =
      report config mapping address := by
  unfold report
  split <;> rfl

/--
A host sends a packet on that a cache misdirected to it.  The leaf above the
host sends that switch one invalidation, and no other switch on the packet's
way sends any; if the leaf is the switch itself it has dropped the entry.
-/
theorem reported_once
    {leaf : SwitchConfig}
    (mode : leaf.simMode = .switchV2P)
    (atLeaf : leaf.switchType = .leaf)
    (enabled : leaf.generateInvalidation = true)
    (unfiltered : leaf.bloomFilterEnabled = false)
    {helper : SocketHelper}
    {hostState : HostState}
    {virtualToPhysical : Ipv4Address → Option Ipv4Address}
    {arrived sent : DataPacket}
    (misdelivered : arrived.inner.ttl < 64)
    (hit : arrived.hitTag.tags = [hitTag])
    (unmarked : arrived.invalidationTag.tags = [])
    (sends :
      helper.perform virtualToPhysical
          (helper.virtualSend hostState arrived).packet
          (helper.virtualSend hostState arrived).call =
        some sent)
    (rest : List Stop) :
    let received := leaf.receivePacket draw state sent
    let reported :=
      report leaf (arrived.inner.destination, helper.physicalAddress)
        hitTag.address
    received.generated = reported ∧
      invalidations
          (generatedAlong (.switch leaf state draw :: rest) sent) =
        reported ∧
      ¬ received.state.cache.Live arrived.inner.destination
        helper.physicalAddress := by
  obtain ⟨sameInner, marked⟩ :=
    marked_of_perform misdelivered hit unmarked sends
  obtain ⟨generated, quiet, dropped⟩ :=
    marked.receivePacket_leaf draw state mode atLeaf enabled unfiltered
  rw [sameInner] at generated dropped
  intro received reported
  refine ⟨generated, ?_, dropped⟩
  have along :
      generatedAlong (.switch leaf state draw :: rest) sent =
        received.generated ++ generatedAlong rest received.packet :=
    rfl
  rw [along, invalidations, List.filter_append, ← invalidations,
    ← invalidations, quiet.invalidations_along, generated,
    invalidations_report, List.append_nil]

/-! ## The filter -/

/-- The tables after datagrams that arrive one after another. -/
def after
    (config : SwitchConfig)
    (state : SwitchState)
    (arrivals : List Arrival) :
    SwitchState :=
  arrivals.foldl config.receive state

/-- The datagram is a marked packet that names a switch. -/
structure Names
    (arrival : Arrival)
    (packet : DataPacket)
    (invalidated : Mapping)
    (hitTag : HitTag) : Prop where
  data : arrival.datagram = .data packet
  invalidated : packet.invalidationTag.peek = some invalidated
  hit : packet.hitTag.peek = some hitTag

/-- One of the datagrams named the switch, and was reported to it. -/
def ReportedTo
    (config : SwitchConfig)
    (state : SwitchState)
    (arrivals : List Arrival)
    (switchId : UInt32) : Prop :=
  ∃ earlier first later packet invalidated hitTag,
    arrivals = earlier ++ first :: later ∧
      Names first packet invalidated hitTag ∧
      hitTag.switchId = switchId ∧
      (config.receivePacket first.draw (after config state earlier)
          packet).generated =
        report config (packet.inner.destination, invalidated.2)
          hitTag.address

theorem after_append_singleton
    (arrivals : List Arrival)
    (arrival : Arrival) :
    after config state (arrivals ++ [arrival]) =
      config.receive (after config state arrivals) arrival := by
  rw [after, List.foldl_append]
  rfl

/-- A later datagram takes no report back. -/
theorem ReportedTo.append
    {arrivals : List Arrival}
    {switchId : UInt32}
    (reported : ReportedTo config state arrivals switchId)
    (arrival : Arrival) :
    ReportedTo config state (arrivals ++ [arrival]) switchId := by
  obtain ⟨earlier, first, later, packet, invalidated, hitTag, rfl,
    named⟩ := reported
  refine
    ⟨earlier, first, later ++ [arrival], packet, invalidated, hitTag, ?_,
      named⟩
  rw [List.append_assoc, List.cons_append]

/-- A packet without an invalidation tag leaves the filter alone. -/
theorem bloomFilter_receiveUntagged :
    (config.receiveUntagged draw state packet).state.bloomFilter =
      state.bloomFilter := by
  unfold SwitchConfig.receiveUntagged
  dsimp only
  split
  next => rfl
  next => split <;> rfl

/-- What a leaf with a filter does with a packet that names a switch. -/
theorem receivePacket_filtered
    (draw : Bool)
    (state : SwitchState)
    (mode : config.simMode = .switchV2P)
    (atLeaf : config.switchType = .leaf)
    (enabled : config.generateInvalidation = true)
    (filtered : config.bloomFilterEnabled = true)
    {arrival : Arrival}
    {invalidated : Mapping}
    (names : Names arrival packet invalidated hitTag) :
    (config.receivePacket draw state packet).state.bloomFilter =
        state.bloomFilter.put hitTag.switchId ∧
      (config.receivePacket draw state packet).generated =
        if state.bloomFilter.get hitTag.switchId then
          []
        else
          report config (packet.inner.destination, invalidated.2)
            hitTag.address := by
  obtain ⟨sameHit, _, sameInner⟩ :=
    tags_followInvalidation state.cache packet invalidated
  have found :
      (SwitchConfig.followInvalidation state.cache packet
          invalidated).2.hitTag.peek =
        some hitTag := by
    rw [sameHit]
    exact names.hit
  rw [receivePacket_leaf mode atLeaf names.invalidated,
    reportInvalidation_of_hitTag found, sameInner,
    generatePacketToAddress_eq_report]
  simp only [enabled, filtered, Bool.true_and, ite_true, true_and]
  cases state.bloomFilter.get hitTag.switchId <;> rfl

/-- Only such a packet changes the filter of a leaf. -/
theorem bloomFilter_receive
    (state : SwitchState)
    (mode : config.simMode = .switchV2P)
    (atLeaf : config.switchType = .leaf)
    (arrival : Arrival) :
    (config.receive state arrival).bloomFilter = state.bloomFilter ∨
      ∃ packet invalidated hitTag,
        Names arrival packet invalidated hitTag := by
  cases shape : arrival.datagram with
  | protocol packet =>
      left
      rw [SwitchConfig.receive, shape]
      dsimp only
      unfold SwitchConfig.handleProtocolPacket
      dsimp only
      split
      next => split <;> rfl
      next => rfl
  | data packet =>
      cases tagged : packet.invalidationTag.peek with
      | none =>
          left
          rw [SwitchConfig.receive, shape]
          dsimp only
          rw [SwitchConfig.receivePacket_of_untagged _ _ mode tagged]
          exact bloomFilter_receiveUntagged
      | some invalidated =>
          cases found : packet.hitTag.peek with
          | some hitTag =>
              exact
                Or.inr
                  ⟨packet, invalidated, hitTag, shape, tagged, found⟩
          | none =>
              left
              have missing :
                  (SwitchConfig.followInvalidation state.cache packet
                    invalidated).2.hitTag.peek = none := by
                rw [(tags_followInvalidation _ _ _).1]
                exact found
              rw [SwitchConfig.receive, shape]
              dsimp only
              rw [receivePacket_leaf mode atLeaf tagged]
              unfold SwitchConfig.reportInvalidation
              rw [missing]

/-- The invariant of the filter: every byte set in it stands for a report. -/
theorem reportedTo_of_get
    (mode : config.simMode = .switchV2P)
    (atLeaf : config.switchType = .leaf)
    (enabled : config.generateInvalidation = true)
    (filtered : config.bloomFilterEnabled = true)
    {bloomFilterSize : Nat}
    {heap : UInt32 → UInt8}
    (start : state.bloomFilter = BloomFilter.setup bloomFilterSize heap)
    (arrivals : List Arrival)
    {switchId : UInt32}
    (inside : switchId.toNat < bloomFilterSize)
    (entered :
      (after config state arrivals).bloomFilter.get switchId = true) :
    ReportedTo config state arrivals switchId := by
  induction arrivals using List.reverseRecOn with
  | nil =>
      change state.bloomFilter.get switchId = true at entered
      rw [start, BloomFilter.get_setup inside heap] at entered
      exact absurd entered Bool.false_ne_true
  | append_singleton arrivals arrival inductionHypothesis =>
      rw [after_append_singleton] at entered
      rcases bloomFilter_receive (after config state arrivals)
          mode atLeaf arrival with
        same | ⟨packet, invalidated, hitTag, names⟩
      · rw [same] at entered
        exact (inductionHypothesis entered).append arrival
      · obtain ⟨put, generated⟩ :=
          receivePacket_filtered arrival.draw
            (after config state arrivals)
            mode atLeaf enabled filtered names
        by_cases before :
            (after config state arrivals).bloomFilter.get switchId = true
        · exact (inductionHypothesis before).append arrival
        · -- This packet is the one that makes the entry.
          have same : hitTag.switchId = switchId := by
            rw [SwitchConfig.receive, names.data] at entered
            dsimp only at entered
            rw [put, BloomFilter.get_put] at entered
            exact (entered.resolve_right before).symm
          rw [same, if_neg before] at generated
          exact
            ⟨arrivals, arrival, [], packet, invalidated, hitTag, rfl,
              names, same, generated⟩

/--
A leaf with a filter stays silent about a marked packet only if the packet
names the leaf itself, or a switch that it has reported a packet to before.
This is about the switches whose ids are inside of the filter.
-/
theorem reportedTo_of_silent
    (mode : config.simMode = .switchV2P)
    (atLeaf : config.switchType = .leaf)
    (enabled : config.generateInvalidation = true)
    (filtered : config.bloomFilterEnabled = true)
    {bloomFilterSize : Nat}
    {heap : UInt32 → UInt8}
    (start : state.bloomFilter = BloomFilter.setup bloomFilterSize heap)
    (arrivals : List Arrival)
    {arrival : Arrival}
    {invalidated : Mapping}
    (names : Names arrival packet invalidated hitTag)
    (inside : hitTag.switchId.toNat < bloomFilterSize)
    (silent :
      (config.receivePacket draw (after config state arrivals)
        packet).generated = []) :
    hitTag.address = config.switchAddress ∨
      ReportedTo config state arrivals hitTag.switchId := by
  have generated :=
    (receivePacket_filtered draw (after config state arrivals)
      mode atLeaf enabled filtered names).2
  rw [silent] at generated
  by_cases entered :
      (after config state arrivals).bloomFilter.get hitTag.switchId = true
  · exact
      Or.inr
        (reportedTo_of_get mode atLeaf enabled filtered start arrivals
          inside entered)
  · rw [if_neg entered] at generated
    left
    by_contra other
    rw [report, if_neg other] at generated
    exact absurd generated (List.cons_ne_nil _ _).symm

/-! ## Two leaves of a pod -/

section OnePod

open TraceSimulation

/-- A leaf that generates invalidations. -/
abbrev reporting (leaf : Fin 4) : SwitchConfig :=
  { (onePod.network .switchV2P).switches (onePod.leaf .switchV2P leaf) with
    generateInvalidation := true }

/-- The leaf of the gateway. -/
abbrev gatewayLeaf : SwitchConfig :=
  reporting ⟨0, by decide⟩

/-- The leaf that container 2 leaves. -/
abbrev oldLeaf : SwitchConfig :=
  reporting ⟨2, by decide⟩

/-- The leaf that container 2 moves to. -/
abbrev newLeaf : SwitchConfig :=
  reporting ⟨3, by decide⟩

/-- The hit tag of the spine. -/
abbrev spineHit : HitTag where
  address := (onePod.spineConfig .switchV2P).switchAddress
  switchId := (onePod.spineConfig .switchV2P).nodeId

/-- A packet that the spine sent to a host without its container. -/
def misdirected (container host : Ipv4Address) : DataPacket :=
  { onePod.packetTo .switchV2P container host with
    inner := { source := 1, destination := container, ttl := 63 }
    hitTag := TagStack.empty.add spineHit }

/-- The same packet as that host sends it on. -/
def resent (container host : Ipv4Address) : DataPacket :=
  let helper := (onePod.network .switchV2P).socketHelper host
  helper.sendTo
    (helper.virtualSend { onDemandCache := [], firstPacket := true }
      (misdirected container host)).packet
    onePod.gateway

/-- The tables of a switch with one slot after start-up. -/
abbrev oneSlot : SwitchState :=
  SwitchConfig.setup 1 Nat.one_pos (fun _ => 0) 80 fun _ => 0

/-- The way from a gateway's leaf to the gateway and on to the new host. -/
def throughGateway : List Stop :=
  [.switch gatewayLeaf oneSlot false,
    .gateway fun _ => some onePod.newHost,
    .switch gatewayLeaf oneSlot false,
    .switch (onePod.spineConfig .switchV2P) oneSlot false,
    .switch newLeaf oneSlot false]

theorem reported_once_onePod :
    let leaf := oldLeaf
    let received :=
      leaf.receivePacket false oneSlot (resent 2 onePod.oldHost)
    let reported := report leaf (2, onePod.oldHost) spineHit.address
    received.generated = reported ∧
      invalidations
          (generatedAlong
            (.switch leaf oneSlot false ::
              .switch (onePod.spineConfig .switchV2P) oneSlot false ::
              throughGateway)
            (resent 2 onePod.oldHost)) =
        reported ∧
      ¬ received.state.cache.Live 2 onePod.oldHost := by
  have atLeaf : oldLeaf.switchType = .leaf := by
    decide
  have misdelivered : (misdirected 2 onePod.oldHost).inner.ttl < 64 := by
    decide
  have sends :
      ((onePod.network .switchV2P).socketHelper
          onePod.oldHost).perform
          (fun _ => none)
          (((onePod.network .switchV2P).socketHelper
            onePod.oldHost).virtualSend
              { onDemandCache := [], firstPacket := true }
              (misdirected 2 onePod.oldHost)).packet
          (((onePod.network .switchV2P).socketHelper
            onePod.oldHost).virtualSend
              { onDemandCache := [], firstPacket := true }
              (misdirected 2 onePod.oldHost)).call =
        some (resent 2 onePod.oldHost) := by
    decide +kernel
  exact
    reported_once rfl atLeaf rfl rfl misdelivered rfl rfl sends
      (.switch (onePod.spineConfig .switchV2P) oneSlot false ::
        throughGateway)

/-- A host next to the gateway, below the gateway leaf. -/
abbrev neighbour : Ipv4Address :=
  DottedQuad.ofOctets 1 0 1 1

/-- The gateway leaf does not tell the spine, and neither does anyone else. -/
theorem not_reported_gatewayLeaf :
    gatewayLeaf.switchType = .gwLeaf ∧
      (resent 2 neighbour).invalidationTag.tags = [(2, neighbour)] ∧
      (resent 2 neighbour).hitTag.tags = [spineHit] ∧
      spineHit.address ≠ gatewayLeaf.switchAddress ∧
      generatedAlong throughGateway (resent 2 neighbour) = [] := by
  refine ⟨by decide, by decide +kernel, by decide +kernel,
    by decide +kernel, by decide +kernel⟩

/-- The same leaf with its filter switched on. -/
abbrev filteringLeaf : SwitchConfig :=
  { oldLeaf with bloomFilterEnabled := true }

/-- A marked packet from the old host as it arrives at the leaf. -/
def resentArrival (container : Ipv4Address) : Arrival where
  datagram := .data (resent container onePod.oldHost)
  draw := false

/-- The tags that the old host's packets arrive with. -/
theorem names_resentArrival (container : Ipv4Address) :
    Names (resentArrival container) (resent container onePod.oldHost)
      (container, onePod.oldHost) spineHit where
  data := rfl
  invalidated := rfl
  hit := rfl

/-- The second packet for container 2 is not reported, after the first. -/
theorem reportedTo_filteringLeaf :
    spineHit.address = filteringLeaf.switchAddress ∨
      ReportedTo filteringLeaf oneSlot [resentArrival 2]
        spineHit.switchId := by
  have atLeaf : filteringLeaf.switchType = .leaf := by
    decide
  have silent :
      (filteringLeaf.receivePacket false
        (after filteringLeaf oneSlot [resentArrival 2])
        (resent 2 onePod.oldHost)).generated = [] := by
    decide +kernel
  exact
    reportedTo_of_silent rfl atLeaf rfl rfl rfl [resentArrival 2]
      (names_resentArrival 2) (by decide +kernel) silent

/--
After a packet for container 2 the leaf reports nothing about container 3,
though the spine holds a stale entry for that as well.
-/
theorem not_reported_filteringLeaf :
    Names (resentArrival 3) (resent 3 onePod.oldHost)
        (3, onePod.oldHost) spineHit ∧
      (filteringLeaf.receivePacket false oneSlot
          (resent 2 onePod.oldHost)).generated =
        report filteringLeaf (2, onePod.oldHost) spineHit.address ∧
      (filteringLeaf.receivePacket false
          (after filteringLeaf oneSlot [resentArrival 2])
          (resent 3 onePod.oldHost)).generated = [] ∧
      report filteringLeaf (3, onePod.oldHost) spineHit.address ≠ [] := by
  refine ⟨names_resentArrival 3, by decide +kernel, by decide +kernel, ?_⟩
  decide +kernel

end OnePod

end SwitchV2P.InvalidationReports
