import SwitchV2P.ControllerObjective
import SwitchV2P.SwitchApplications

namespace SwitchV2P.IlpControllerApp

/-!
# What the objective says about the gateways

A flow is charged less than the gateway's cost only if some switch on the way
of its packets is given its destination, and once the plans are installed this
switch redirects them.  If the traffic of an interval comes again, the gateways
therefore handle no more packets than the objective has charged for.
-/

open FlowPaths SimulationBase

variable {sim : SimulationBase} {members : Members}

/-! ## The objective exists -/

/-- The controller can tell apart whatever the matrices mention. -/
structure Readable
    (sim : SimulationBase)
    (members : Members)
    (trafficMatrices : Nat → TrafficMatrix) :
    Prop where
  located :
    ∀ leaf < sim.leafCount, ∀ flow info,
      (trafficMatrices leaf).lookup flow = some info →
        info.dstIp.toNat < members.containerCount
  addressed :
    ∀ leaf < sim.leafCount, ∀ flow info,
      (trafficMatrices leaf).lookup flow = some info →
        info.gwIp ∈ sim.gwAddresses

/-- The terms of every flow are the switches on its way. -/
structure Routes (sim : SimulationBase) : Prop where
  accepted : sim.Accepted
  follows :
    ∀ leaf < sim.leafCount, ∀ host, ∀ gateway ∈ sim.gwAddresses,
      FollowsRoutes sim leaf host gateway

/-- A topology whose numbers fit, with gateways that are hosts of it. -/
structure Deployable (sim : SimulationBase) : Prop where
  accepted : sim.Accepted
  fits : AddressPlan.Fits sim
  placed : GatewaysPlaced sim
  crossing : sim.podCount = 1 ∨ sim.podWidth ≤ sim.coreCount

/-- In such a topology no octet and no index of a core wraps around. -/
theorem Deployable.routes (deployable : Deployable sim) : Routes sim where
  accepted := deployable.accepted
  follows := by
    intro leaf inside host gateway isGateway
    obtain ⟨gw, first⟩ := exists_firstGateway isGateway
    have accepted := deployable.accepted
    have podSmall := accepted.pod_lt inside
    have narrow := deployable.fits.width_le accepted podSmall
    have pods := deployable.fits.pods
    have cores := deployable.fits.cores
    have leaves : sim.leafCount ≤ 42 * 256 := by
      rw [accepted.leafCount_eq]
      exact Nat.mul_le_mul pods narrow
    rw [followsRoutes_iff accepted deployable.placed deployable.crossing
      inside first]
    refine Or.inr ⟨by omega, ⟨?_, ?_⟩, Or.inr (by omega)⟩
    · exact lt_of_lt_of_le (accepted.offset_lt gw.1) narrow
    · exact narrow.trans (Nat.le_add_left 256 _)

variable
  {getHash64 : String → UInt64}
  {trafficMatrices : Nat → TrafficMatrix}
  {chosen : Nat → Nat → Bool}
  {leaf : Nat}
  {flow : Ipv4Address × UInt32}
  {info : FlowInfo}

theorem mem_attachedFlows :
    (flow, info) ∈ attachedFlows members (trafficMatrices leaf) leaf ↔
      (trafficMatrices leaf).lookup flow = some info ∧
        (members.location flow.1).1 = leaf := by
  rw [attachedFlows, List.mem_filter, decide_eq_true_eq]
  refine and_congr_left fun _ => ?_
  rw [← AList.mem_entries_iff, List.mem_map]
  constructor
  · rintro ⟨⟨_, _⟩, member, same⟩
    cases same
    exact member
  · intro member
    exact ⟨_, member, rfl⟩

/-- A destination in a matrix has its expressions. -/
theorem activeDestination_of_lookup
    (inside : leaf < sim.leafCount)
    (found : (trafficMatrices leaf).lookup flow = some info) :
    activeDestination sim trafficMatrices info.dstIp.toNat = true := by
  rw [activeDestination, List.any_eq_true]
  refine ⟨leaf, List.mem_range.mpr inside, ?_⟩
  rw [List.any_eq_true]
  exact
    ⟨⟨flow, info⟩, AList.mem_entries_iff.mpr found, decide_eq_true rfl⟩

theorem exists_servedCost
    (members : Members)
    (accepted : sim.Accepted)
    (isGateway : info.gwIp ∈ sim.gwAddresses)
    (leaf : Nat)
    (srcContainerId : UInt32) :
    ∃ served,
      servedCost sim members leaf srcContainerId info = some served := by
  obtain ⟨gw, first⟩ := exists_firstGateway isGateway
  have found : sim.gws[sim.gwAddresses.idxOf info.gwIp]? = some gw := first
  rw [servedCost, found]
  simp only [Option.bind_eq_bind, Option.bind_some, div32,
    accepted.podWidth_ne_zero, ↓reduceIte, Option.pure_def]
  split
  next =>
    rw [getPacketCost]
    simp only [div32, accepted.podWidth_ne_zero, ↓reduceIte,
      Option.bind_eq_bind, Option.bind_some, Option.pure_def]
    exact ⟨_, rfl⟩
  next => exact ⟨8, rfl⟩

/-- What a flow is charged, in terms of the switches on its way. -/
theorem exists_flowCost
    (getHash64 : String → UInt64)
    (chosen : Nat → Nat → Bool)
    (routes : Routes sim)
    (readable : Readable sim members trafficMatrices)
    (inside : leaf < sim.leafCount)
    (found : (trafficMatrices leaf).lookup flow = some info) :
    ∃ switches served,
      querySwitches sim getHash64 leaf (members.location flow.1).2
          info.gwIp = some switches ∧
        flowCost sim members getHash64 trafficMatrices chosen leaf flow.1
            info =
          some
            (info.packetCount.toNat *
              if switches.any (chosen · info.dstIp.toNat) then
                ((served : Nat) : Int)
              else
                members.gwCost) := by
  have isGateway := readable.addressed leaf inside flow info found
  obtain ⟨switches, gw, terms, present, -⟩ :=
    routes.follows leaf inside (members.location flow.1).2 info.gwIp
      isGateway getHash64
  obtain ⟨served, isServed⟩ :=
    exists_servedCost members routes.accepted isGateway leaf flow.1
  have evaluated :
      switches.mapM
          (expressionAt sim members trafficMatrices chosen
            info.dstIp.toNat) =
        some (switches.map (chosen · info.dstIp.toNat)) := by
    refine mapM_eq_some_map fun index member => ?_
    rw [expressionAt, if_pos]
    exact
      ⟨present index member, readable.located leaf inside flow info found,
        activeDestination_of_lookup inside found⟩
  refine ⟨switches, served, terms, ?_⟩
  rw [flowCost, terms]
  simp only [Option.bind_eq_bind, Option.bind_some, evaluated, isServed,
    Option.pure_def, List.any_map]
  rfl

/-- `QuerySwitches` looks up no expression that there is not. -/
theorem exists_objective
    (getHash64 : String → UInt64)
    (chosen : Nat → Nat → Bool)
    (routes : Routes sim)
    (readable : Readable sim members trafficMatrices) :
    ∃ cost,
      objective sim members getHash64 trafficMatrices chosen =
        some cost := by
  have costs :
      ∃ results,
        ((List.range sim.leafCount).flatMap fun leaf =>
            (attachedFlows members (trafficMatrices leaf) leaf).map
              fun flow => (leaf, flow)).mapM
          (fun flow =>
            flowCost sim members getHash64 trafficMatrices chosen flow.1
              flow.2.1.1 flow.2.2) =
          some results := by
    refine exists_mapM ?_
    rintro ⟨leaf, flow, info⟩ member
    obtain ⟨_, inside, member⟩ := List.mem_flatMap.mp member
    obtain ⟨_, member, same⟩ := List.mem_map.mp member
    cases same
    obtain ⟨_, _, _, isCost⟩ :=
      exists_flowCost getHash64 chosen routes
        readable (List.mem_range.mp inside) (mem_attachedFlows.mp member).1
    exact ⟨_, isCost⟩
  obtain ⟨results, isResults⟩ := costs
  refine ⟨results.sum, ?_⟩
  rw [objective, isResults]
  rfl

/-! ## On the way to the gateway -/

section Way

variable
  (sim)
  (getHash64)
  (caches : Node → LRUCache Ipv4Address Ipv4Address)

/-- A switch sends a packet somewhere else than to a gateway. -/
def redirect (packet : DataPacket) (node : Node) : Option DataPacket :=
  if node.isSwitch then
    let after :=
      (SwitchApp.receivePacket sim.gwAddresses (caches node) packet).2
    if after.outer.destination ∈ sim.gwAddresses then none else some after
  else
    none

/-- No switch on the way of the packet's flow redirects it. -/
def reachesGateway (leaf host : Nat) (packet : DataPacket) : Bool :=
  ((sim.flowPath getHash64 leaf host
      packet.outer.destination).findSome?
    (redirect sim caches packet)).isNone

end Way

section Plans

variable
  (sim)
  (members)
  (trafficMatrices)
  (chosen)

/-- The solver keeps to the controller's memory constraint of every switch. -/
def Feasible : Prop :=
  ∀ switchIdx < (switchApps sim).length,
    memoryUsed members.containerCount
        (activeDestination sim trafficMatrices) (chosen switchIdx) ≤
      members.memorySize

instance :
    Decidable (Feasible sim members trafficMatrices chosen) :=
  inferInstanceAs (Decidable (∀ switchIdx < _, _))

/-- What the plan of a switch contains is what the switch answers. -/
def Answers
    (virtualToPhysical : UInt32 → Ipv4Address)
    (caches : Node → LRUCache Ipv4Address Ipv4Address) :
    Prop :=
  ∀ {switchIdx : Nat} {node : Node} {container : UInt32},
    (switchApps sim)[switchIdx]? = some node →
      container.toNat < members.containerCount →
        activeDestination sim trafficMatrices container.toNat = true →
          chosen switchIdx container.toNat = true →
            ((caches node).get container).1 =
              some (virtualToPhysical container)

end Plans

variable
  {virtualToPhysical : UInt32 → Ipv4Address}
  {caches : Node → LRUCache Ipv4Address Ipv4Address}

/-- A flow that is not charged for the gateway is redirected before it. -/
theorem reachesGateway_of_served
    (routes : Routes sim)
    (answers :
      Answers sim members trafficMatrices chosen virtualToPhysical caches)
    (inside : leaf < sim.leafCount)
    {host : Nat}
    {packet : DataPacket}
    (isGateway : packet.outer.destination ∈ sim.gwAddresses)
    (located :
      packet.inner.destination.toNat < members.containerCount)
    (active :
      activeDestination sim trafficMatrices
        packet.inner.destination.toNat = true)
    (elsewhere :
      virtualToPhysical packet.inner.destination ∉ sim.gwAddresses)
    {switches : List Nat}
    (terms :
      querySwitches sim getHash64 leaf host packet.outer.destination =
        some switches)
    (served :
      switches.any (chosen · packet.inner.destination.toNat) = true) :
    reachesGateway sim getHash64 caches leaf host packet = false := by
  obtain ⟨index, member, isChosen⟩ := List.any_eq_true.mp served
  obtain ⟨indices, gw, isIndices, present, -, -, path⟩ :=
    routes.follows leaf inside host _ isGateway getHash64
  obtain rfl := Option.some.inj (terms.symm.trans isIndices)
  obtain ⟨node, isSwitch⟩ :
      ∃ node, (switchApps sim)[index]? = some node :=
    ⟨_, List.getElem?_eq_getElem (present index member)⟩
  have onPath :
      node ∈ sim.flowPath getHash64 leaf host packet.outer.destination := by
    have listed :
        some node ∈
          (sim.flowPath getHash64 leaf host
            packet.outer.destination).map some := by
      rw [path, ← isSwitch]
      exact List.mem_append_left _ (List.mem_map_of_mem member)
    obtain ⟨_, onPath, same⟩ := List.mem_map.mp listed
    rw [← Option.some.inj same]
    exact onPath
  rw [reachesGateway, Option.isNone_eq_false_iff,
    List.findSome?_isSome_iff]
  refine ⟨node, onPath, ?_⟩
  have nodeIsSwitch : node.isSwitch = true :=
    (mem_switchApps_iff.mp (List.mem_of_getElem? isSwitch)).2
  have away :
      (SwitchApp.receivePacket sim.gwAddresses (caches node)
        packet).2.outer.destination ∉ sim.gwAddresses := by
    rw [SwitchApp.destination_receivePacket, if_pos isGateway,
      answers isSwitch located active isChosen]
    exact elsewhere
  rw [redirect, if_pos nodeIsSwitch]
  dsimp only
  rw [if_neg away]
  rfl

/-! ## All flows together -/

section Load

variable
  (sim)
  (members)
  (getHash64)
  (caches : Node → LRUCache Ipv4Address Ipv4Address)

/-- A packet that its own leaf has seen, and that a gateway gets. -/
def loads (leaf : Nat) (packet : DataPacket) : Bool :=
  (members.location packet.inner.source).1 = leaf &&
    reachesGateway sim getHash64 caches leaf
      (members.location packet.inner.source).2 packet

/-- How many of the packets that their own leaves have seen get there. -/
def gatewayLoad (seen : Nat → List DataPacket) : Nat :=
  ((List.range sim.leafCount).map fun leaf =>
    (seen leaf).countP (loads sim members getHash64 caches leaf)).sum

end Load

/-- What the leaves have seen in an interval. -/
structure Seen
    (sim : SimulationBase)
    (members : Members)
    (virtualToPhysical : UInt32 → Ipv4Address)
    (trafficMatrices : Nat → TrafficMatrix)
    (seen : Nat → List DataPacket) :
    Prop where
  summarises :
    ∀ leaf < sim.leafCount,
      SwitchApp.Summarises (seen leaf) (trafficMatrices leaf)
  consistent : ∀ leaf < sim.leafCount, SwitchApp.Consistent (seen leaf)
  few : ∀ leaf < sim.leafCount, (seen leaf).length < 2 ^ 32
  toGateway :
    ∀ leaf < sim.leafCount, ∀ packet ∈ seen leaf,
      packet.outer.destination ∈ sim.gwAddresses
  located :
    ∀ leaf < sim.leafCount, ∀ packet ∈ seen leaf,
      packet.inner.destination.toNat < members.containerCount
  elsewhere :
    ∀ leaf < sim.leafCount, ∀ packet ∈ seen leaf,
      virtualToPhysical packet.inner.destination ∉ sim.gwAddresses

variable {seen : Nat → List DataPacket}

theorem Seen.readable
    (isSeen : Seen sim members virtualToPhysical trafficMatrices seen) :
    Readable sim members trafficMatrices where
  located := by
    intro leaf inside flow info found
    obtain ⟨packet, member, -, dst, -⟩ :=
      (isSeen.summarises leaf inside).exists_packet found
    rw [dst]
    exact isSeen.located leaf inside packet member
  addressed := by
    intro leaf inside flow info found
    obtain ⟨packet, member, -, -, gw, -⟩ :=
      (isSeen.summarises leaf inside).exists_packet found
    rw [gw]
    exact isSeen.toGateway leaf inside packet member

/-- A packet reaches its gateway if every lookup on the way sends it there. -/
theorem reachesGateway_iff
    (caches : Node → LRUCache Ipv4Address Ipv4Address)
    (leaf host : Nat)
    (packet : DataPacket) :
    reachesGateway sim getHash64 caches leaf host packet = true ↔
      ∀ node ∈ sim.flowPath getHash64 leaf host packet.outer.destination,
        node.isSwitch = true →
          (if packet.outer.destination ∈ sim.gwAddresses then
            ((caches node).get packet.inner.destination).1.getD
              packet.outer.destination
          else
            packet.outer.destination) ∈ sim.gwAddresses := by
  rw [reachesGateway, Option.isNone_iff_eq_none,
    List.findSome?_eq_none_iff]
  refine forall₂_congr fun node onPath => ?_
  unfold redirect
  dsimp only
  rw [← SwitchApp.destination_receivePacket]
  generalize
    SwitchApp.receivePacket sim.gwAddresses (caches node) packet = received
  by_cases isSwitch : node.isSwitch = true
  · by_cases toGateway : received.2.outer.destination ∈ sim.gwAddresses
    · simp [isSwitch, toGateway]
    · simp [isSwitch, toGateway]
  · simp [isSwitch]

/-- A packet that stands for all packets of a flow. -/
def probe (source destination gateway : Ipv4Address) : DataPacket :=
  (Network.freshPacket source destination 0 none).setDestination gateway

/-- Only the addresses of a packet decide where it gets. -/
theorem loads_probe
    (caches : Node → LRUCache Ipv4Address Ipv4Address)
    (leaf : Nat)
    (packet : DataPacket) :
    loads sim members getHash64 caches leaf
        (probe packet.inner.source packet.inner.destination
          packet.outer.destination) =
      loads sim members getHash64 caches leaf packet := by
  have same :
      reachesGateway sim getHash64 caches leaf
          (members.location packet.inner.source).2
          (probe packet.inner.source packet.inner.destination
            packet.outer.destination) =
        reachesGateway sim getHash64 caches leaf
          (members.location packet.inner.source).2 packet := by
    rw [Bool.eq_iff_iff, reachesGateway_iff, reachesGateway_iff]
    rfl
  exact congrArg (_ && ·) same

theorem sum_map_filter
    {Item : Type}
    (keep : Item → Bool)
    (weight : Item → Nat)
    (items : List Item) :
    ((items.filter keep).map weight).sum =
      (items.map fun item => if keep item then weight item else 0).sum := by
  induction items with
  | nil => rfl
  | cons item rest inductionHypothesis =>
      rw [List.filter_cons, List.map_cons, List.sum_cons,
        ← inductionHypothesis]
      split
      next => rfl
      next => exact (Nat.zero_add _).symm

/-- The packets below a leaf that get to a gateway, by flows. -/
theorem countP_loads
    (caches : Node → LRUCache Ipv4Address Ipv4Address)
    (isSeen : Seen sim members virtualToPhysical trafficMatrices seen)
    (inside : leaf < sim.leafCount)
    (cost : Nat) :
    (seen leaf).countP (loads sim members getHash64 caches leaf) * cost =
      ((attachedFlows members (trafficMatrices leaf) leaf).map fun flow =>
        flow.2.packetCount.toNat *
          if loads sim members getHash64 caches leaf
              (probe flow.1.1 flow.2.dstIp flow.2.gwIp) then
            cost
          else
            0).sum := by
  have total :=
    (isSeen.summarises leaf inside).total_eq
      (isSeen.consistent leaf inside) (isSeen.few leaf inside)
      fun source destination gateway =>
        if loads sim members getHash64 caches leaf
            (probe source destination gateway) then
          cost
        else
          0
  simp only [loads_probe] at total
  have counted :
      ((seen leaf).map fun packet =>
          if loads sim members getHash64 caches leaf packet then
            cost
          else
            0).sum =
        (seen leaf).countP (loads sim members getHash64 caches leaf) *
          cost := by
    rw [← sum_map_filter, List.map_const', List.sum_replicate_nat,
      List.countP_eq_length_filter]
  rw [← counted, ← total, attachedFlows, sum_map_filter, List.map_map,
    AList.total]
  congr 1
  refine List.map_congr_left fun entry _ => ?_
  by_cases attached : (members.location entry.1.1).1 = leaf
  · simp [attached]
  · have elsewhere :
        loads sim members getHash64 caches leaf
            (probe entry.1.1 entry.2.dstIp entry.2.gwIp) =
          false := by
      rw [loads, Bool.and_eq_false_iff]
      exact Or.inl (decide_eq_false attached)
    simp [attached, elsewhere]

theorem sum_map_mul
    {Item : Type}
    {count : Nat → Nat}
    {items : Nat → List Item}
    {weight : Item → Nat}
    {cost : Nat}
    {leaves : List Nat}
    (same :
      ∀ leaf ∈ leaves,
        count leaf * cost = ((items leaf).map weight).sum) :
    (leaves.map count).sum * cost =
      ((leaves.flatMap items).map weight).sum := by
  induction leaves with
  | nil => exact Nat.zero_mul cost
  | cons leaf rest inductionHypothesis =>
      have others :=
        inductionHypothesis fun other member =>
          same other (List.mem_cons_of_mem leaf member)
      rw [List.map_cons, List.sum_cons, Nat.add_mul, others,
        same leaf List.mem_cons_self, List.flatMap_cons, List.map_append,
        List.sum_append]

/-- A flow is charged for each of its packets that gets to a gateway. -/
theorem le_flowCost
    (routes : Routes sim)
    (answers :
      Answers sim members trafficMatrices chosen virtualToPhysical caches)
    (isSeen : Seen sim members virtualToPhysical trafficMatrices seen)
    (inside : leaf < sim.leafCount)
    (found : (trafficMatrices leaf).lookup flow = some info)
    {gwCost : Nat}
    (isGwCost : members.gwCost = gwCost)
    {result : Int}
    (isResult :
      flowCost sim members getHash64 trafficMatrices chosen leaf flow.1
          info =
        some result) :
    ((info.packetCount.toNat *
        if loads sim members getHash64 caches leaf
            (probe flow.1 info.dstIp info.gwIp) then
          gwCost
        else
          0 : Nat) : Int) ≤ result := by
  have readable := isSeen.readable
  obtain ⟨switches, served, terms, isCost⟩ :=
    exists_flowCost getHash64 chosen routes readable inside found
  obtain rfl := Option.some.inj (isCost.symm.trans isResult)
  obtain ⟨packet, member, -, dst, gw, -⟩ :=
    (isSeen.summarises leaf inside).exists_packet found
  rw [isGwCost, Nat.cast_mul]
  refine
    mul_le_mul_of_nonneg_left ?_ (Int.natCast_nonneg _)
  by_cases isServed :
      switches.any (chosen · info.dstIp.toNat) = true
  · have avoided :
        loads sim members getHash64 caches leaf
            (probe flow.1 info.dstIp info.gwIp) =
          false := by
      rw [loads, Bool.and_eq_false_iff]
      refine Or.inr ?_
      refine
        reachesGateway_of_served routes answers inside
          (readable.addressed leaf inside flow info found)
          (readable.located leaf inside flow info found)
          (activeDestination_of_lookup inside found) ?_ terms isServed
      change virtualToPhysical info.dstIp ∉ sim.gwAddresses
      rw [dst]
      exact isSeen.elsewhere leaf inside packet member
    rw [avoided, if_pos isServed]
    exact Int.natCast_nonneg served
  · rw [if_neg isServed]
    split
    next => exact le_rfl
    next => exact Int.natCast_nonneg gwCost

/--
If the switches answer what the solver has chosen, the same traffic brings no
more packets to the gateways than the value of the objective pays for.
-/
theorem gatewayLoad_le
    (deployable : Deployable sim)
    (answers :
      Answers sim members trafficMatrices chosen virtualToPhysical caches)
    (isSeen : Seen sim members virtualToPhysical trafficMatrices seen)
    (nonnegative : 0 ≤ members.gwCost) :
    ∃ cost,
      objective sim members getHash64 trafficMatrices chosen =
          some cost ∧
        (gatewayLoad sim members getHash64 caches seen : Int) *
            members.gwCost ≤
          cost := by
  have routes := deployable.routes
  obtain ⟨cost, isCost⟩ :=
    exists_objective getHash64 chosen routes isSeen.readable
  refine ⟨cost, isCost, ?_⟩
  obtain ⟨gwCost, isGwCost⟩ := Int.eq_ofNat_of_zero_le nonnegative
  obtain ⟨costs, isCosts, isSum⟩ := Option.bind_eq_some_iff.mp isCost
  obtain rfl := Option.some.inj isSum
  have load :
      gatewayLoad sim members getHash64 caches seen * gwCost =
        (((List.range sim.leafCount).flatMap fun leaf =>
            (attachedFlows members (trafficMatrices leaf) leaf).map
              fun flow => (leaf, flow)).map
          fun flow =>
            flow.2.2.packetCount.toNat *
              if loads sim members getHash64 caches flow.1
                  (probe flow.2.1.1 flow.2.2.dstIp flow.2.2.gwIp) then
                gwCost
              else
                0).sum := by
    refine sum_map_mul fun leaf member => ?_
    rw [countP_loads _ isSeen (List.mem_range.mp member), List.map_map]
    rfl
  rw [isGwCost, ← Nat.cast_mul, load]
  refine sum_le_of_mapM isCosts ?_
  rintro ⟨leaf, flow, info⟩ member result isResult
  obtain ⟨_, inside, member⟩ := List.mem_flatMap.mp member
  obtain ⟨_, member, same⟩ := List.mem_map.mp member
  cases same
  exact
    le_flowCost routes answers isSeen (List.mem_range.mp inside)
      (mem_attachedFlows.mp member).1 isGwCost
      isResult

end SwitchV2P.IlpControllerApp
