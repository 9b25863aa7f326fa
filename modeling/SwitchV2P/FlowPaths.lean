import SwitchV2P.IlpControllerApp
import SwitchV2P.RoutingDelivery

namespace SwitchV2P.FlowPaths

/-!
# The controller's paths and the routed paths

The cost term of a flow mentions exactly the switches that the packets of the
flow visit on the way to the gateway, unless the octets of the gateway's leaf
name a second leaf.  Offsets wrap around at 256, and nothing keeps pods from
being wider than that.
-/

open DottedQuad RangeLoops SimulationBase Forwarding IlpControllerApp
open RoutingDelivery

variable {sim : SimulationBase}

/-- The gateways are hosts, `AssignIds`. -/
def GatewaysPlaced (sim : SimulationBase) : Prop :=
  ∀ gw ∈ sim.gws, sim.HasNode (.host gw.1 gw.2)

/--
For every hash function, the terms are switches, and the packets of the flow
visit these switches in this order, and then a gateway with the address.
-/
def FollowsRoutes
    (sim : SimulationBase)
    (leaf host : Nat)
    (gateway : Ipv4Address) :
    Prop :=
  ∀ getHash64, ∃ indices gw,
    querySwitches sim getHash64 leaf host gateway = some indices ∧
      (∀ index ∈ indices, index < (switchApps sim).length) ∧
      gw ∈ sim.gws ∧ sim.hostAddress gw.1 gw.2 = gateway ∧
      (sim.flowPath getHash64 leaf host gateway).map some =
        (indices.map fun index => (switchApps sim)[index]?) ++
          [some (.host gw.1 gw.2)]

/-- No other leaf of its pod has the same offset modulo 256. -/
def Unaliased (sim : SimulationBase) (leaf : Nat) : Prop :=
  leaf % sim.podWidth < 256 ∧ sim.podWidth ≤ leaf % sim.podWidth + 256

/-! ## Where one node sends a packet -/

section NextHop

variable
  {destination : Ipv4Address}
  {node peer : Node}
  {flowHash : UInt64}

theorem connected_eq_nil
    (noLink : ∀ interface, ¬ Links sim destination node interface) :
    sim.connected node destination = [] := by
  rw [List.eq_nil_iff_forall_not_mem]
  intro peer member
  obtain ⟨interface, links, _⟩ := mem_connected.mp member
  exact noLink interface links

/-- Where no interface shares the subnet, none has the address. -/
theorem isLocal_eq_false
    (noLink : ∀ interface, ¬ Links sim destination node interface) :
    sim.isLocal node destination = false := by
  rw [isLocal, List.any_eq_false]
  intro interface member same
  have equal := of_decide_eq_true same
  refine noLink interface ⟨member, ?_⟩
  rw [equal, samePrefix, decide_eq_true_eq]

/-- The only directly connected neighbour. -/
theorem nextHop_of_connected
    (notLocal : sim.isLocal node destination = false)
    (connected : sim.connected node destination = [peer]) :
    sim.nextHop flowHash destination node = some peer := by
  simp [nextHop, notLocal, connected]

/-- The hash picks one of the routes. -/
theorem nextHop_of_routes
    (noLink : ∀ interface, ¬ Links sim destination node interface)
    (notLoopback : isLoopback destination = false)
    {peers : List Node}
    (allRoutes : sim.allRoutes node destination = peers.map some)
    (some : 0 < peers.length)
    (small : peers.length ≤ 2 ^ 32) :
    sim.nextHop flowHash destination node =
      peers[flowHash.toNat % peers.length]? := by
  have index : flowHash.toNat % peers.length < peers.length :=
    Nat.mod_lt _ some
  have nonempty : peers ≠ [] := List.ne_nil_of_length_pos some
  simp only [nextHop, isLocal_eq_false noLink, connected_eq_nil noLink,
    notLoopback, Ipv4GlobalRouting.lookupGlobal, allRoutes,
    List.length_map, List.map_eq_nil_iff, nonempty,
    Bool.false_eq_true, ↓reduceIte, List.getLast?_nil]
  rw [Nat.mod_eq_of_lt (lt_of_lt_of_le index small), List.getElem?_map,
    List.getElem?_eq_getElem index]
  rfl

/-- A node only sends over its own links. -/
theorem exists_interface_of_nextHop
    (next : sim.nextHop flowHash destination node = some peer) :
    ∃ interface ∈ sim.interfaces node, interface.peer = peer := by
  rw [nextHop] at next
  split at next
  next => exact absurd next (by simp)
  next =>
    split at next
    next neighbour found =>
      obtain rfl := Option.some.inj next
      have member := List.mem_of_getLast? found
      obtain ⟨interface, links, same⟩ := mem_connected.mp member
      exact ⟨interface, links.1, same⟩
    next =>
      split at next
      next => exact absurd next (by simp)
      next =>
        rw [Ipv4GlobalRouting.lookupGlobal] at next
        dsimp only at next
        split at next
        next => exact absurd next (by simp)
        next =>
          rw [Option.join_eq_some_iff] at next
          have member := List.mem_of_getElem? next
          obtain ⟨route, _, isPeer⟩ := mem_allRoutes.mp member
          cases number : route.interface with
          | zero => simp [number, interfacePeer] at isPeer
          | succ index =>
              rw [number, interfacePeer, Option.map_eq_some_iff] at isPeer
              obtain ⟨interface, found, same⟩ := isPeer
              exact ⟨interface, List.mem_of_getElem? found, same⟩

end NextHop

/-! ## Around the leaf of the gateway -/

section Gateway

variable {pod offset host : Nat}

/-- The check on the pods never lets leaf links share a block with hosts. -/
theorem podCount_mod_ne_zero
    (accepted : sim.Accepted)
    (podSmall : pod < sim.podCount) :
    sim.podCount % 256 ≠ 0 := by
  have octetFits := accepted.octetFits
  have leaves : sim.leafCount < 2 ^ 32 :=
    Nat.mod_lt sim.hostCounts.length (Nat.two_pow_pos 32)
  have atMost : sim.podCount ≤ sim.leafCount :=
    Nat.div_le_self sim.leafCount sim.podWidth
  intro multiple
  have folded :
      sim.podCount * 3 % 2 ^ 32 % 256 = sim.podCount * 3 % 256 :=
    Nat.mod_mod_of_dvd _ (by decide)
  have wrapped : sim.podCount * 3 % 2 ^ 32 = 0 := by
    generalize sim.podCount * 3 % 2 ^ 32 = remainder at *
    omega
  have divides : 2 ^ 32 ∣ sim.podCount :=
    Nat.Coprime.dvd_of_dvd_mul_right (by decide)
      (Nat.dvd_of_mod_eq_zero wrapped)
  have atLeast := Nat.le_of_dvd (Nat.zero_lt_of_lt podSmall) divides
  exact absurd (atLeast.trans atMost) (Nat.not_le.mpr leaves)

theorem connected_ownLeaf
    (accepted : sim.Accepted)
    (podSmall : pod < sim.podCount)
    (inside : offset < sim.podWidth)
    (present : host < sim.hostCount (pod * sim.podWidth + offset)) :
    sim.connected (.leaf (pod * sim.podWidth + offset))
        (ofOctets (pod + 1) offset host 1) =
      [.host (pod * sim.podWidth + offset) host] := by
  have notMultiple := podCount_mod_ne_zero accepted podSmall
  have hosts :=
    accepted.hostCount_le _ (accepted.member_lt podSmall inside)
  have only :
      (List.range (sim.hostCount (pod * sim.podWidth + offset))).filter
          (fun other =>
            samePrefix 24 (ofOctets (pod + 1) offset host 1)
              (ofOctets (pod + 1) offset other 2)) =
        [host] := by
    refine filter_range_eq_singleton present ?_
    intro other small
    rw [samePrefix_24_ofOctets]
    omega
  have none :
      (List.range sim.podWidth).filter
          (fun spine =>
            samePrefix 24 (ofOctets (pod + 1) offset host 1)
              (ofOctets (sim.podCount + pod + 1) spine offset 2)) =
        [] := by
    rw [List.filter_eq_nil_iff]
    intro spine _
    rw [samePrefix_24_ofOctets]
    omega
  rw [connected, accepted.interfaces_leaf podSmall inside,
    List.filter_append, List.filter_map, List.filter_map]
  simp only [Function.comp_def, only, none, List.map_cons, List.map_nil,
    List.append_nil]

/-- A leaf's own addresses end in 2, and those of hosts in 1. -/
theorem isLocal_leaf
    (accepted : sim.Accepted)
    (podSmall : pod < sim.podCount)
    (inside : offset < sim.podWidth)
    (a b c : Nat) :
    sim.isLocal (.leaf (pod * sim.podWidth + offset)) (ofOctets a b c 1) =
      false := by
  rw [isLocal, List.any_eq_false]
  intro interface member same
  have equal := of_decide_eq_true same
  rw [accepted.interfaces_leaf podSmall inside, List.mem_append] at member
  rcases member with member | member
  · obtain ⟨other, _, rfl⟩ := List.mem_map.mp member
    have octets := ofOctets_eq_iff.mp equal
    omega
  · obtain ⟨other, _, rfl⟩ := List.mem_map.mp member
    have octets := ofOctets_eq_iff.mp equal
    omega

/-- The leaf of the gateway hands over to it, whatever the hash. -/
theorem nextHop_ownLeaf
    (accepted : sim.Accepted)
    (podSmall : pod < sim.podCount)
    (inside : offset < sim.podWidth)
    (present : host < sim.hostCount (pod * sim.podWidth + offset))
    (flowHash : UInt64) :
    sim.nextHop flowHash (ofOctets (pod + 1) offset host 1)
        (.leaf (pod * sim.podWidth + offset)) =
      some (.host (pod * sim.podWidth + offset) host) :=
  nextHop_of_connected
    (isLocal_leaf accepted podSmall inside _ _ _)
    (connected_ownLeaf accepted podSmall inside present)

/-- The gateway keeps its packets. -/
theorem nextHop_gateway
    (accepted : sim.Accepted)
    (podSmall : pod < sim.podCount)
    (inside : offset < sim.podWidth)
    (present : host < sim.hostCount (pod * sim.podWidth + offset))
    (flowHash : UInt64) :
    sim.nextHop flowHash (ofOctets (pod + 1) offset host 1)
        (.host (pod * sim.podWidth + offset) host) =
      none := by
  have interfaces :=
    accepted.interfaces_host
      (show sim.HasNode (.host (pod * sim.podWidth + offset) host) from
        ⟨accepted.member_lt podSmall inside, present⟩)
  have kept :
      sim.isLocal (.host (pod * sim.podWidth + offset) host)
          (ofOctets (pod + 1) offset host 1) =
        true := by
    simp [isLocal, interfaces, hostAddress, block_div inside,
      block_mod inside, IpUtils.getNodePhysicalAddress_octets]
  simp [nextHop, kept]

end Gateway

/-! ## Away from the leaf of the gateway -/

/--
The route loops see one leaf: no other leaf has its offset modulo 256, and the
check on the pods has not wrapped around.
-/
structure OneLeaf (sim : SimulationBase) (pod offset : Nat) : Prop where
  pods : sim.podCount ≤ 84
  podSmall : pod < sim.podCount
  inside : offset < sim.podWidth
  octet : offset < 256
  narrow : sim.podWidth ≤ offset + 256

section Away

variable {pod offset host : Nat} {other spine core : Nat}

theorem OneLeaf.notLoopback
    (one : OneLeaf sim pod offset)
    (host : Nat) :
    isLoopback (ofOctets (pod + 1) offset host 1) = false := by
  have pods := one.pods
  have podSmall := one.podSmall
  exact isLoopback_ofOctets (Or.inl (by omega))

theorem OneLeaf.noLink_leaf
    (accepted : sim.Accepted)
    (one : OneLeaf sim pod offset)
    {leaf : Nat}
    (otherSmall : other < sim.podCount)
    (leafInside : leaf < sim.podWidth)
    (different : ¬ (leaf = offset ∧ other = pod))
    (interface : Interface) :
    ¬ Links sim (ofOctets (pod + 1) offset host 1)
        (.leaf (other * sim.podWidth + leaf)) interface := by
  obtain ⟨pods, podSmall, inside, octet, narrow⟩ := one
  intro links
  refine
    leaf_onward (fun _ => False) accepted otherSmall leafInside ?_ ?_ links
  · intro host' _ same
    rw [samePrefix_24_ofOctets] at same
    omega
  · intro spine _ same
    rw [samePrefix_24_ofOctets] at same
    omega

theorem noLink_spine
    (accepted : sim.Accepted)
    (pods : sim.podCount ≤ 84)
    (podSmall : pod < sim.podCount)
    (otherSmall : other < sim.podCount)
    (spineInside : spine < sim.podWidth)
    (interface : Interface) :
    ¬ Links sim (ofOctets (pod + 1) offset host 1)
        (.spine (other * sim.podWidth + spine)) interface := by
  intro links
  refine
    spine_onward (fun _ => False) accepted otherSmall spineInside ?_ ?_ links
  · intro leaf _ same
    rw [samePrefix_24_ofOctets] at same
    omega
  · intro core _ same
    rw [samePrefix_24_ofOctets] at same
    omega

theorem noLink_core
    (accepted : sim.Accepted)
    (pods : sim.podCount ≤ 84)
    (podSmall : pod < sim.podCount)
    (present : core < sim.coreCount)
    (interface : Interface) :
    ¬ Links sim (ofOctets (pod + 1) offset host 1) (.core core)
        interface := by
  intro links
  refine core_onward (fun _ => False) accepted present ?_ links
  intro other _ same
  rw [samePrefix_24_ofOctets] at same
  omega

/-- A loop body that adds one route for hosts and one for a leaf. -/
theorem filter_pair
    (pods : sim.podCount ≤ 84)
    (podSmall : pod < sim.podCount)
    {pod' offset' interface : Nat}
    (podSmall' : pod' < sim.podCount) :
    [nodeRoute pod' offset' interface,
        sim.leafRoute pod' offset' interface].filter
        (fun route => route.isMatch (ofOctets (pod + 1) offset host 1)) =
      if pod' = pod ∧ offset' % 256 = offset % 256 then
        [nodeRoute pod' offset' interface]
      else
        [] := by
  have notLeaf :
      ¬ (sim.leafRoute pod' offset' interface).isMatch
          (ofOctets (pod + 1) offset host 1) = true := by
    rw [leafRoute_isMatch]
    omega
  have onNode :
      (nodeRoute pod' offset' interface).isMatch
          (ofOctets (pod + 1) offset host 1) = true ↔
        pod' = pod ∧ offset' % 256 = offset % 256 := by
    rw [nodeRoute_isMatch]
    omega
  by_cases same : pod' = pod ∧ offset' % 256 = offset % 256
  · have matched := onNode.mpr same
    rw [if_pos same]
    simp [matched, notLeaf]
  · have unmatched := mt onNode.mp same
    rw [if_neg same]
    simp [unmatched, notLeaf]

/-- A leaf other than the gateway's does not match. -/
theorem OneLeaf.apart
    (accepted : sim.Accepted)
    (one : OneLeaf sim pod offset)
    {leaf : Nat}
    (elsewhere : leaf ≠ pod * sim.podWidth + offset) :
    ¬ (leaf / sim.podWidth = pod ∧
        leaf % sim.podWidth % 256 = offset % 256) := by
  obtain ⟨pods, podSmall, inside, octet, narrow⟩ := one
  rintro ⟨samePod, sameOctet⟩
  have sameOffset : leaf % sim.podWidth = offset := by
    have small := accepted.offset_lt leaf
    omega
  apply elsewhere
  rw [← samePod, ← sameOffset, Nat.mul_comm]
  exact (Nat.div_add_mod leaf sim.podWidth).symm

/-- Another leaf has one route over each spine. -/
theorem OneLeaf.filter_leafRoutes
    (accepted : sim.Accepted)
    (one : OneLeaf sim pod offset)
    {leaf : Nat}
    (leafInside : leaf < sim.podWidth)
    (different : ¬ (offset = leaf ∧ pod = other)) :
    (sim.leafRoutes (other * sim.podWidth + leaf)).filter
        (fun route => route.isMatch (ofOctets (pod + 1) offset host 1)) =
      (List.range sim.podWidth).map fun k =>
        nodeRoute pod offset
          (sim.hostCount (other * sim.podWidth + leaf) + 1 + k) := by
  have pods := one.pods
  have podSmall := one.podSmall
  have inside := one.inside
  have toSpines :
      (sim.leafToSpineRoutes (other * sim.podWidth + leaf)).filter
          (fun route =>
            route.isMatch (ofOctets (pod + 1) offset host 1)) =
        [] := by
    rw [List.filter_eq_nil_iff]
    intro route member
    obtain ⟨pod', podSmall', offset', interface, rfl⟩ :=
      accepted.exists_of_mem_leafToSpineRoutes member
    rw [spineRoute_isMatch]
    omega
  have toCores :
      (sim.leafToCoreRoutes (other * sim.podWidth + leaf)).filter
          (fun route =>
            route.isMatch (ofOctets (pod + 1) offset host 1)) =
        [] := by
    rw [List.filter_eq_nil_iff]
    intro route member
    obtain ⟨core, interface, rfl⟩ := exists_of_mem_leafToCoreRoutes member
    rw [coreRoute_isMatch]
    omega
  rw [leafRoutes, List.filter_append, List.filter_append, toSpines,
    toCores, List.append_nil, List.append_nil, leafToLeafRoutes,
    List.filter_flatMap,
    flatMap_range_eq_single (accepted.member_lt podSmall inside)]
  · rw [block_div inside, block_mod inside, block_div leafInside,
      block_mod leafInside, if_neg different, List.filter_flatMap]
    refine flatMap_range_eq_map ?_
    intro k _
    rw [filter_pair pods podSmall podSmall, if_pos ⟨rfl, rfl⟩]
  · intro j present elsewhere
    split
    next => rfl
    next =>
      rw [List.filter_flatMap]
      refine flatMap_range_eq_nil ?_
      intro k _
      rw [filter_pair pods podSmall (accepted.pod_lt present),
        if_neg (one.apart accepted elsewhere)]

/-- No route to spines or cores matches at a spine. -/
theorem filter_spineRoutes
    (accepted : sim.Accepted)
    (pods : sim.podCount ≤ 84)
    (podSmall : pod < sim.podCount)
    (spine : Nat) :
    (sim.spineRoutes spine).filter
        (fun route => route.isMatch (ofOctets (pod + 1) offset host 1)) =
      (sim.spineToLeafRoutes spine).filter
        (fun route =>
          route.isMatch (ofOctets (pod + 1) offset host 1)) := by
  have toSpines :
      (sim.spineToSpineRoutes spine).filter
          (fun route =>
            route.isMatch (ofOctets (pod + 1) offset host 1)) =
        [] := by
    rw [List.filter_eq_nil_iff]
    intro route member
    obtain ⟨pod', podSmall', offset', interface, rfl⟩ :=
      accepted.exists_of_mem_spineToSpineRoutes member
    rw [spineRoute_isMatch]
    omega
  have toCores :
      (sim.spineToCoreRoutes spine).filter
          (fun route =>
            route.isMatch (ofOctets (pod + 1) offset host 1)) =
        [] := by
    rw [List.filter_eq_nil_iff]
    intro route member
    obtain ⟨core, interface, rfl⟩ := exists_of_mem_spineToCoreRoutes member
    rw [coreRoute_isMatch]
    omega
  rw [spineRoutes, List.filter_append, List.filter_append, toSpines,
    toCores, List.append_nil, List.append_nil]

/-- The routes of one round of `spineToLeafRoutes` for a spine of a pod. -/
def spineToLeafRound (sim : SimulationBase) (pod i : Nat) : List Route :=
  if pod = i / sim.podWidth then
    [nodeRoute (i / sim.podWidth) (i % sim.podWidth)
        (i % sim.podWidth + 1),
      sim.leafRoute (i / sim.podWidth) (i % sim.podWidth)
        (i % sim.podWidth + 1)]
  else
    (List.range sim.coresPerSpine).flatMap fun j =>
      [nodeRoute (i / sim.podWidth) (i % sim.podWidth)
          (sim.podWidth + 1 + j),
        sim.leafRoute (i / sim.podWidth) (i % sim.podWidth)
          (sim.podWidth + 1 + j)]

theorem spineToLeafRoutes_eq
    {spine : Nat}
    (spineInside : spine < sim.podWidth) :
    sim.spineToLeafRoutes (pod * sim.podWidth + spine) =
      (List.range sim.leafCount).flatMap (spineToLeafRound sim pod) := by
  rw [spineToLeafRoutes, block_div spineInside]
  rfl

/-- The round of the gateway's leaf adds one matching route. -/
theorem filter_ownRound
    (accepted : sim.Accepted)
    (podSmall : pod < sim.podCount)
    (inside : offset < sim.podWidth) :
    (spineToLeafRound sim pod (pod * sim.podWidth + offset)).filter
        (fun route => route.isMatch (ofOctets (pod + 1) offset host 1)) =
      [nodeRoute pod offset (offset + 1)] := by
  have notMultiple := podCount_mod_ne_zero accepted podSmall
  have onNode :
      (nodeRoute pod offset (offset + 1)).isMatch
          (ofOctets (pod + 1) offset host 1) = true :=
    nodeRoute_isMatch.mpr ⟨rfl, rfl⟩
  have notLeaf :
      ¬ (sim.leafRoute pod offset (offset + 1)).isMatch
          (ofOctets (pod + 1) offset host 1) = true := by
    rw [leafRoute_isMatch]
    omega
  rw [spineToLeafRound, block_div inside, block_mod inside, if_pos rfl]
  simp [onNode, notLeaf]

/-- At a spine, only the round of the gateway's leaf yields a route. -/
theorem OneLeaf.filter_spineRoutes
    (accepted : sim.Accepted)
    (one : OneLeaf sim pod offset)
    (spineInside : spine < sim.podWidth) :
    (sim.spineRoutes (other * sim.podWidth + spine)).filter
        (fun route => route.isMatch (ofOctets (pod + 1) offset host 1)) =
      (spineToLeafRound sim other (pod * sim.podWidth + offset)).filter
        (fun route =>
          route.isMatch (ofOctets (pod + 1) offset host 1)) := by
  have pods := one.pods
  have podSmall := one.podSmall
  rw [FlowPaths.filter_spineRoutes accepted pods podSmall,
    spineToLeafRoutes_eq spineInside, List.filter_flatMap,
    flatMap_range_eq_single (accepted.member_lt podSmall one.inside)]
  intro leaf present elsewhere
  have apart := one.apart accepted elsewhere
  have podSmall' := accepted.pod_lt present
  unfold spineToLeafRound
  split
  next => rw [filter_pair pods podSmall podSmall', if_neg apart]
  next =>
    rw [List.filter_flatMap]
    refine flatMap_range_eq_nil ?_
    intro j _
    rw [filter_pair pods podSmall podSmall', if_neg apart]

/-- A spine of the pod has one route, to the leaf of the gateway. -/
theorem OneLeaf.filter_nearSpineRoutes
    (accepted : sim.Accepted)
    (one : OneLeaf sim pod offset)
    (spineInside : spine < sim.podWidth) :
    (sim.spineRoutes (pod * sim.podWidth + spine)).filter
        (fun route => route.isMatch (ofOctets (pod + 1) offset host 1)) =
      [nodeRoute pod offset (offset + 1)] := by
  rw [one.filter_spineRoutes accepted spineInside]
  exact filter_ownRound accepted one.podSmall one.inside

/-- A spine of another pod has one route over each of its cores. -/
theorem OneLeaf.filter_farSpineRoutes
    (accepted : sim.Accepted)
    (one : OneLeaf sim pod offset)
    (spineInside : spine < sim.podWidth)
    (different : other ≠ pod) :
    (sim.spineRoutes (other * sim.podWidth + spine)).filter
        (fun route => route.isMatch (ofOctets (pod + 1) offset host 1)) =
      (List.range sim.coresPerSpine).map fun j =>
        nodeRoute pod offset (sim.podWidth + 1 + j) := by
  have podSmall := one.podSmall
  rw [one.filter_spineRoutes accepted spineInside, spineToLeafRound,
    block_div one.inside, block_mod one.inside, if_neg different,
    List.filter_flatMap]
  refine flatMap_range_eq_map ?_
  intro j _
  rw [filter_pair one.pods podSmall podSmall, if_pos ⟨rfl, rfl⟩]

/-- A core has one route, to its spine in the pod. -/
theorem OneLeaf.filter_coreRoutes
    (accepted : sim.Accepted)
    (one : OneLeaf sim pod offset) :
    sim.coreRoutes.filter
        (fun route => route.isMatch (ofOctets (pod + 1) offset host 1)) =
      [nodeRoute pod offset (pod + 1)] := by
  obtain ⟨pods, podSmall, inside, octet, narrow⟩ := one
  have notSpine
      {pod' offset' interface : Nat}
      (podSmall' : pod' < sim.podCount) :
      ¬ (sim.spineRoute pod' offset' interface).isMatch
          (ofOctets (pod + 1) offset host 1) = true := by
    rw [spineRoute_isMatch]
    omega
  have toLeaves :
      sim.coreToLeafRoutes.filter
          (fun route =>
            route.isMatch (ofOctets (pod + 1) offset host 1)) =
        [] := by
    rw [List.filter_eq_nil_iff]
    intro route member
    obtain ⟨leaf, present, rfl⟩ := List.mem_map.mp member
    have podSmall' := accepted.pod_lt (List.mem_range.mp present)
    generalize leaf / sim.podWidth = pod' at podSmall'
    rw [leafRoute_isMatch]
    omega
  rw [coreRoutes, List.filter_append, toLeaves, List.append_nil,
    coreToSpineRoutes, List.filter_flatMap,
    flatMap_range_eq_single podSmall, List.filter_flatMap,
    flatMap_range_eq_single inside]
  · have onNode :
        (nodeRoute pod offset (pod + 1)).isMatch
            (ofOctets (pod + 1) offset host 1) = true :=
      nodeRoute_isMatch.mpr ⟨rfl, rfl⟩
    simp [onNode, notSpine podSmall]
  · intro offset' inside' elsewhere
    have notNode :
        ¬ (nodeRoute pod offset' (pod + 1)).isMatch
            (ofOctets (pod + 1) offset host 1) = true := by
      rw [nodeRoute_isMatch]
      omega
    simp [notNode, notSpine podSmall]
  · intro pod' podSmall' elsewhere
    rw [List.filter_flatMap]
    refine flatMap_range_eq_nil ?_
    intro offset' _
    have notNode :
        ¬ (nodeRoute pod' offset' (pod' + 1)).isMatch
            (ofOctets (pod + 1) offset host 1) = true := by
      rw [nodeRoute_isMatch]
      omega
    simp [notNode, notSpine podSmall']

theorem coreCount_lt (sim : SimulationBase) : sim.coreCount < 2 ^ 32 := by
  rw [coreCount]
  split
  next => exact Nat.two_pow_pos 32
  next => exact Nat.mod_lt _ (Nat.two_pow_pos 32)

theorem coresPerSpine_lt (sim : SimulationBase) :
    sim.coresPerSpine < 2 ^ 32 :=
  lt_of_le_of_lt (Nat.div_le_self _ _) (coreCount_lt sim)

theorem OneLeaf.nextHop_leaf
    (accepted : sim.Accepted)
    (one : OneLeaf sim pod offset)
    {leaf : Nat}
    (otherSmall : other < sim.podCount)
    (leafInside : leaf < sim.podWidth)
    (different : ¬ (leaf = offset ∧ other = pod))
    (flowHash : UInt64) :
    sim.nextHop flowHash (ofOctets (pod + 1) offset host 1)
        (.leaf (other * sim.podWidth + leaf)) =
      some
        (.spine
          (other * sim.podWidth + flowHash.toNat % sim.podWidth)) := by
  have wide := accepted.podWidth_pos
  have octet := one.octet
  have narrow := one.narrow
  have allRoutes :
      sim.allRoutes (.leaf (other * sim.podWidth + leaf))
          (ofOctets (pod + 1) offset host 1) =
        ((List.range sim.podWidth).map fun k =>
          Node.spine (other * sim.podWidth + k)).map some := by
    have apart : ¬ (offset = leaf ∧ pod = other) := by
      rintro ⟨rfl, rfl⟩
      exact different ⟨rfl, rfl⟩
    rw [SimulationBase.allRoutes, routes,
      one.filter_leafRoutes accepted leafInside apart, List.map_map,
      List.map_map]
    refine List.map_congr_left ?_
    intro k member
    exact
      interfacePeer_leaf accepted otherSmall leafInside
        (List.mem_range.mp member)
  rw [nextHop_of_routes
    (one.noLink_leaf accepted otherSmall leafInside different)
    (one.notLoopback host) allRoutes (by simpa using wide)
    (by simp; omega)]
  simp [Nat.mod_lt _ wide]

theorem OneLeaf.nextHop_nearSpine
    (accepted : sim.Accepted)
    (one : OneLeaf sim pod offset)
    (spineInside : spine < sim.podWidth)
    (flowHash : UInt64) :
    sim.nextHop flowHash (ofOctets (pod + 1) offset host 1)
        (.spine (pod * sim.podWidth + spine)) =
      some (.leaf (pod * sim.podWidth + offset)) := by
  have allRoutes :
      sim.allRoutes (.spine (pod * sim.podWidth + spine))
          (ofOctets (pod + 1) offset host 1) =
        [Node.leaf (pod * sim.podWidth + offset)].map some := by
    rw [SimulationBase.allRoutes, routes,
      one.filter_nearSpineRoutes accepted spineInside, List.map_singleton,
      List.map_singleton]
    exact
      congrArg (fun peer => [peer])
        (interfacePeer_spine accepted one.podSmall spineInside one.inside)
  rw [nextHop_of_routes
    (noLink_spine accepted one.pods one.podSmall one.podSmall spineInside)
    (one.notLoopback host) allRoutes (by simp) (by simp)]
  simp [Nat.mod_one]

theorem OneLeaf.nextHop_farSpine
    (accepted : sim.Accepted)
    (one : OneLeaf sim pod offset)
    (otherSmall : other < sim.podCount)
    (spineInside : spine < sim.podWidth)
    (different : other ≠ pod)
    (above : 0 < sim.coresPerSpine)
    (flowHash : UInt64) :
    sim.nextHop flowHash (ofOctets (pod + 1) offset host 1)
        (.spine (other * sim.podWidth + spine)) =
      some
        (.core
          (spine * sim.coresPerSpine +
            flowHash.toNat % sim.coresPerSpine)) := by
  have few := coresPerSpine_lt sim
  have allRoutes :
      sim.allRoutes (.spine (other * sim.podWidth + spine))
          (ofOctets (pod + 1) offset host 1) =
        ((List.range sim.coresPerSpine).map fun j =>
          Node.core (spine * sim.coresPerSpine + j)).map some := by
    rw [SimulationBase.allRoutes, routes,
      one.filter_farSpineRoutes accepted spineInside different,
      List.map_map, List.map_map]
    refine List.map_congr_left ?_
    intro j member
    exact
      interfacePeer_spine_core accepted otherSmall spineInside
        (List.mem_range.mp member)
  rw [nextHop_of_routes
    (noLink_spine accepted one.pods one.podSmall otherSmall spineInside)
    (one.notLoopback host) allRoutes (by simpa using above)
    (by simp; omega)]
  simp [Nat.mod_lt _ above]

theorem OneLeaf.nextHop_core
    (accepted : sim.Accepted)
    (one : OneLeaf sim pod offset)
    (present : core < sim.coreCount)
    (flowHash : UInt64) :
    sim.nextHop flowHash (ofOctets (pod + 1) offset host 1)
        (.core core) =
      some
        (.spine (pod * sim.podWidth + core / sim.coresPerSpine)) := by
  have allRoutes :
      sim.allRoutes (.core core) (ofOctets (pod + 1) offset host 1) =
        [Node.spine
          (pod * sim.podWidth + core / sim.coresPerSpine)].map some := by
    rw [SimulationBase.allRoutes, routes, one.filter_coreRoutes accepted,
      List.map_singleton, List.map_singleton]
    exact
      congrArg (fun peer => [peer])
        (interfacePeer_core accepted one.podSmall present)
  rw [nextHop_of_routes
    (noLink_core accepted one.pods one.podSmall present)
    (one.notLoopback host) allRoutes (by simp) (by simp)]
  simp [Nat.mod_one]

end Away

/-! ## What the controller computes -/

section Controller

variable
  (getHash64 : String → UInt64)
  {leaf : Nat}
  (host : Nat)
  {gateway : Ipv4Address}
  {gw : Nat × Nat}

/-- The gateway that the controller takes an address for. -/
def FirstGateway
    (sim : SimulationBase)
    (gateway : Ipv4Address)
    (gw : Nat × Nat) :
    Prop :=
  sim.gws[sim.gwAddresses.idxOf gateway]? = some gw

theorem exists_firstGateway
    (isGateway : gateway ∈ sim.gwAddresses) :
    ∃ gw, FirstGateway sim gateway gw := by
  have small := List.idxOf_lt_length_of_mem isGateway
  rw [gwAddresses, List.length_map] at small
  exact ⟨_, List.getElem?_eq_getElem small⟩

theorem FirstGateway.mem
    (first : FirstGateway sim gateway gw) :
    gw ∈ sim.gws :=
  List.mem_of_getElem? first

/-- Both lists of the controller have the gateway in the same place. -/
theorem FirstGateway.address
    (first : FirstGateway sim gateway gw) :
    sim.gwAddresses[sim.gwAddresses.idxOf gateway]? = some gateway ∧
      sim.hostAddress gw.1 gw.2 = gateway := by
  have found :
      sim.gwAddresses[sim.gwAddresses.idxOf gateway]? =
        some (sim.hostAddress gw.1 gw.2) := by
    have mapped :
        sim.gwAddresses[sim.gwAddresses.idxOf gateway]? =
          (sim.gws[sim.gwAddresses.idxOf gateway]?).map
            fun gw => sim.hostAddress gw.1 gw.2 :=
      List.getElem?_map
    rw [mapped, show sim.gws[sim.gwAddresses.idxOf gateway]? = some gw from
      first, Option.map_some]
  have small :
      sim.gwAddresses.idxOf gateway < sim.gwAddresses.length := by
    obtain ⟨small, _⟩ := List.getElem?_eq_some_iff.mp found
    exact small
  have same := List.getElem_idxOf small
  have present := List.getElem?_eq_getElem small
  rw [same] at present
  exact ⟨present, Option.some.inj (found.symm.trans present)⟩

/-- The hash of the flow's packets. -/
def flowHashOf
    (sim : SimulationBase)
    (getHash64 : String → UInt64)
    (leaf host : Nat)
    (gateway : Ipv4Address) :
    UInt64 :=
  Ipv4GlobalRouting.getFlowHash getHash64
    (sim.tunnelHeader leaf host gateway)

theorem querySwitches_own
    (accepted : sim.Accepted)
    (first : FirstGateway sim gateway gw)
    (own : leaf = gw.1) :
    querySwitches sim getHash64 leaf host gateway = some [leaf] := by
  have found : sim.gws[sim.gwAddresses.idxOf gateway]? = some gw := first
  simp [querySwitches, found, div32, accepted.podWidth_ne_zero, own]

theorem querySwitches_samePod
    (accepted : sim.Accepted)
    (first : FirstGateway sim gateway gw)
    (elsewhere : leaf ≠ gw.1)
    (samePod : leaf / sim.podWidth = gw.1 / sim.podWidth) :
    querySwitches sim getHash64 leaf host gateway =
      some
        [leaf,
          add32
            (leaf / sim.podWidth * sim.podWidth +
              (flowHashOf sim getHash64 leaf host gateway).toNat %
                sim.podWidth)
            sim.leafCount,
          gw.1] := by
  have found : sim.gws[sim.gwAddresses.idxOf gateway]? = some gw := first
  simp [querySwitches, found, div32, mod64, accepted.podWidth_ne_zero,
    elsewhere, first.address.1, samePod, flowHashOf,
    getFlowHash_tunnelHeader]

theorem querySwitches_otherPod
    (accepted : sim.Accepted)
    (first : FirstGateway sim gateway gw)
    (otherPod : leaf / sim.podWidth ≠ gw.1 / sim.podWidth)
    (above : 0 < sim.coresPerSpine) :
    let hash := (flowHashOf sim getHash64 leaf host gateway).toNat
    let offset := hash % sim.podWidth
    querySwitches sim getHash64 leaf host gateway =
      some
        [leaf,
          add32 (leaf / sim.podWidth * sim.podWidth + offset)
            sim.leafCount,
          add32
            (add32
              (offset * sim.coresPerSpine + hash % sim.coresPerSpine)
              sim.leafCount)
            sim.spineCount,
          add32 (offset + sim.podWidth * (gw.1 / sim.podWidth))
            sim.leafCount,
          gw.1] := by
  have found : sim.gws[sim.gwAddresses.idxOf gateway]? = some gw := first
  have elsewhere : leaf ≠ gw.1 := by
    rintro rfl
    exact otherPod rfl
  have perSpine : sim.coreCount / sim.podWidth = sim.coresPerSpine := rfl
  have some : sim.coresPerSpine ≠ 0 := Nat.ne_of_gt above
  intro hash offset
  have sameSpine :
      (offset * sim.coresPerSpine + hash % sim.coresPerSpine) /
          sim.coresPerSpine =
        offset :=
    block_div (Nat.mod_lt hash above) _
  have sameHash :
      hash =
        (getFlowHash getHash64 (leaf / sim.podWidth)
          (leaf % sim.podWidth) host gateway).toNat := by
    simp only [hash, flowHashOf, getFlowHash_tunnelHeader]
  simp only [offset, sameHash] at sameSpine ⊢
  simp [querySwitches, found, div32, mod64, accepted.podWidth_ne_zero,
    elsewhere, first.address.1, otherPod, perSpine, some, sameSpine]

theorem switchApps_leaf
    (present : leaf < sim.leafCount) :
    (switchApps sim)[leaf]? = some (.leaf leaf) := by
  rw [switchApps, List.append_assoc,
    List.getElem?_append_left (by simpa using present)]
  simp [present]

theorem switchApps_spine
    {spine : Nat}
    (present : spine < sim.spineCount) :
    (switchApps sim)[spine + sim.leafCount]? = some (.spine spine) := by
  rw [switchApps, List.append_assoc,
    List.getElem?_append_right (by simp),
    List.getElem?_append_left (by simpa using present)]
  simp [present]

theorem switchApps_core
    {core : Nat}
    (present : core < sim.coreCount) :
    (switchApps sim)[core + sim.leafCount + sim.spineCount]? =
      some (.core core) := by
  rw [switchApps, List.getElem?_append_right
    (by simp only [List.length_append, List.length_map,
      List.length_range]; omega)]
  have index :
      core + sim.leafCount + sim.spineCount -
          ((List.range sim.leafCount).map Node.leaf ++
            (List.range sim.spineCount).map Node.spine).length =
        core := by
    simp
    omega
  rw [index]
  simp [present]

/-- The terms of one hash, matched with the path of the packets. -/
theorem follows_of_path
    {getHash64 : String → UInt64}
    {host : Nat}
    {indices : List Nat}
    {nodes : List Node}
    (first : FirstGateway sim gateway gw)
    (terms :
      querySwitches sim getHash64 leaf host gateway = some indices)
    (switches :
      (indices.map fun index => (switchApps sim)[index]?) =
        nodes.map some)
    (path :
      sim.flowPath getHash64 leaf host gateway =
        nodes ++ [.host gw.1 gw.2]) :
    ∃ indices gw,
      querySwitches sim getHash64 leaf host gateway = some indices ∧
        (∀ index ∈ indices, index < (switchApps sim).length) ∧
        gw ∈ sim.gws ∧ sim.hostAddress gw.1 gw.2 = gateway ∧
        (sim.flowPath getHash64 leaf host gateway).map some =
          (indices.map fun index => (switchApps sim)[index]?) ++
            [some (.host gw.1 gw.2)] := by
  refine ⟨indices, gw, terms, ?_, first.mem, first.address.2, ?_⟩
  · intro index member
    have looked :
        (switchApps sim)[index]? ∈ nodes.map some := by
      rw [← switches]
      exact List.mem_map_of_mem member
    obtain ⟨node, _, found⟩ := List.mem_map.mp looked
    obtain ⟨small, _⟩ := List.getElem?_eq_some_iff.mp found.symm
    exact small
  · rw [path, switches, List.map_append, List.map_singleton]

end Controller

/-! ## Flows whose terms are right -/

section Right

variable
  {leaf host pod offset gwHost : Nat}
  {gateway : Ipv4Address}

/-- The address of a gateway, in octets. -/
theorem FirstGateway.octets
    (inside : offset < sim.podWidth)
    (first :
      FirstGateway sim gateway (pod * sim.podWidth + offset, gwHost)) :
    gateway = ofOctets (pod + 1) offset gwHost 1 := by
  rw [← first.address.2, hostAddress, block_div inside,
    block_mod inside, IpUtils.getNodePhysicalAddress_octets]

/-- A flow from the leaf of the gateway stays there. -/
theorem followsRoutes_own
    (accepted : sim.Accepted)
    (podSmall : pod < sim.podCount)
    (inside : offset < sim.podWidth)
    (present : gwHost < sim.hostCount (pod * sim.podWidth + offset))
    (first :
      FirstGateway sim gateway (pod * sim.podWidth + offset, gwHost)) :
    FollowsRoutes sim (pod * sim.podWidth + offset) host gateway := by
  have octets := first.octets inside
  have leafPresent := accepted.member_lt podSmall inside
  intro getHash64
  have switches :
      ([pod * sim.podWidth + offset].map fun index =>
          (switchApps sim)[index]?) =
        [Node.leaf (pod * sim.podWidth + offset)].map some := by
    simp [switchApps_leaf leafPresent]
  have path :
      sim.flowPath getHash64 (pod * sim.podWidth + offset) host gateway =
        [.leaf (pod * sim.podWidth + offset)] ++
          [.host (pod * sim.podWidth + offset) gwHost] := by
    rw [octets, flowPath, follow_of_some
        (nextHop_ownLeaf accepted podSmall inside present _),
      follow_of_none (nextHop_gateway accepted podSmall inside present _)]
    rfl
  exact
    follows_of_path first
      (querySwitches_own getHash64 host accepted first rfl) switches path

/-- With one leaf, the switches are few. -/
theorem OneLeaf.leafCount_le
    (accepted : sim.Accepted)
    (one : OneLeaf sim pod offset) :
    sim.leafCount ≤ 84 * 511 := by
  have octet := one.octet
  have narrow := one.narrow
  rw [accepted.leafCount_eq]
  exact Nat.mul_le_mul one.pods (by omega)

theorem add32_eq
    {first second : Nat}
    (small : first + second < 2 ^ 32) :
    add32 first second = first + second :=
  Nat.mod_eq_of_lt small

/-- The index of a spine does not wrap around. -/
theorem OneLeaf.switchApps_spine
    (accepted : sim.Accepted)
    (one : OneLeaf sim pod offset)
    {spine : Nat}
    (present : spine < sim.spineCount) :
    (switchApps sim)[add32 spine sim.leafCount]? =
      some (.spine spine) := by
  have few := one.leafCount_le accepted
  have bounded : spine < sim.leafCount := present
  rw [add32_eq (by omega)]
  exact FlowPaths.switchApps_spine present

/-- Nor does that of a core, when the cores are few as well. -/
theorem switchApps_coreIndex
    (few : sim.coreCount + 2 * sim.leafCount ≤ 2 ^ 32)
    {core : Nat}
    (present : core < sim.coreCount) :
    (switchApps sim)[add32 (add32 core sim.leafCount) sim.spineCount]? =
      some (.core core) := by
  have spines : sim.spineCount = sim.leafCount := rfl
  have inner : add32 core sim.leafCount = core + sim.leafCount :=
    add32_eq (by omega)
  rw [inner, add32_eq (by omega)]
  exact switchApps_core present

/-- The switches on the way to the gateway within its pod. -/
theorem OneLeaf.follow_samePod
    (accepted : sim.Accepted)
    (one : OneLeaf sim pod offset)
    (present : gwHost < sim.hostCount (pod * sim.podWidth + offset))
    (leafInside : leaf < sim.podWidth)
    (different : leaf ≠ offset)
    (flowHash : UInt64) :
    follow (sim.nextHop flowHash (ofOctets (pod + 1) offset gwHost 1)) 64
        (.leaf (pod * sim.podWidth + leaf)) =
      [.leaf (pod * sim.podWidth + leaf),
        .spine (pod * sim.podWidth + flowHash.toNat % sim.podWidth),
        .leaf (pod * sim.podWidth + offset)] ++
        [.host (pod * sim.podWidth + offset) gwHost] := by
  have spineInside : flowHash.toNat % sim.podWidth < sim.podWidth :=
    Nat.mod_lt _ accepted.podWidth_pos
  rw [follow_of_some
      (one.nextHop_leaf accepted one.podSmall leafInside
        (fun same => different same.1) _),
    follow_of_some (one.nextHop_nearSpine accepted spineInside _),
    follow_of_some
      (nextHop_ownLeaf accepted one.podSmall one.inside present _),
    follow_of_none
      (nextHop_gateway accepted one.podSmall one.inside present _)]
  rfl

/-- The switches on the way from another pod. -/
theorem OneLeaf.follow_otherPod
    (accepted : sim.Accepted)
    (one : OneLeaf sim pod offset)
    (present : gwHost < sim.hostCount (pod * sim.podWidth + offset))
    {other : Nat}
    (otherSmall : other < sim.podCount)
    (leafInside : leaf < sim.podWidth)
    (different : other ≠ pod)
    (above : 0 < sim.coresPerSpine)
    (flowHash : UInt64) :
    follow (sim.nextHop flowHash (ofOctets (pod + 1) offset gwHost 1)) 64
        (.leaf (other * sim.podWidth + leaf)) =
      [.leaf (other * sim.podWidth + leaf),
        .spine (other * sim.podWidth + flowHash.toNat % sim.podWidth),
        .core
          (flowHash.toNat % sim.podWidth * sim.coresPerSpine +
            flowHash.toNat % sim.coresPerSpine),
        .spine (pod * sim.podWidth + flowHash.toNat % sim.podWidth),
        .leaf (pod * sim.podWidth + offset)] ++
        [.host (pod * sim.podWidth + offset) gwHost] := by
  have spineInside : flowHash.toNat % sim.podWidth < sim.podWidth :=
    Nat.mod_lt _ accepted.podWidth_pos
  have coreSmall :
      flowHash.toNat % sim.coresPerSpine < sim.coresPerSpine :=
    Nat.mod_lt _ above
  have down :
      sim.nextHop flowHash (ofOctets (pod + 1) offset gwHost 1)
          (.core _) =
        some (.spine _) :=
    one.nextHop_core accepted
      (accepted.core_lt spineInside coreSmall) flowHash
  rw [block_div coreSmall] at down
  rw [follow_of_some
      (one.nextHop_leaf accepted otherSmall leafInside
        (fun same => different same.2) _),
    follow_of_some
      (one.nextHop_farSpine accepted otherSmall spineInside different
        above _),
    follow_of_some down,
    follow_of_some (one.nextHop_nearSpine accepted spineInside _),
    follow_of_some
      (nextHop_ownLeaf accepted one.podSmall one.inside present _),
    follow_of_none
      (nextHop_gateway accepted one.podSmall one.inside present _)]
  rfl

/-- A flow in the pod of the gateway goes over the spine of its hash. -/
theorem followsRoutes_samePod
    (accepted : sim.Accepted)
    (one : OneLeaf sim pod offset)
    (present : gwHost < sim.hostCount (pod * sim.podWidth + offset))
    (first :
      FirstGateway sim gateway (pod * sim.podWidth + offset, gwHost))
    (leafInside : leaf < sim.podWidth)
    (different : leaf ≠ offset) :
    FollowsRoutes sim (pod * sim.podWidth + leaf) host gateway := by
  have inside := one.inside
  have elsewhere :
      pod * sim.podWidth + leaf ≠ pod * sim.podWidth + offset := by
    omega
  have samePod :
      (pod * sim.podWidth + leaf) / sim.podWidth =
        (pod * sim.podWidth + offset) / sim.podWidth := by
    rw [block_div leafInside, block_div inside]
  intro getHash64
  have terms :=
    querySwitches_samePod getHash64 host accepted first elsewhere samePod
  rw [block_div leafInside] at terms
  have path :=
    one.follow_samePod accepted present leafInside different
      (flowHashOf sim getHash64 (pod * sim.podWidth + leaf) host gateway)
  rw [← first.octets inside] at path
  have spineInside :
      (flowHashOf sim getHash64 (pod * sim.podWidth + leaf) host
          gateway).toNat % sim.podWidth <
        sim.podWidth :=
    Nat.mod_lt _ accepted.podWidth_pos
  refine follows_of_path first terms ?_ path
  simp only [List.map_cons, List.map_nil,
    switchApps_leaf (accepted.member_lt one.podSmall leafInside),
    switchApps_leaf (accepted.member_lt one.podSmall inside),
    one.switchApps_spine accepted
      (accepted.member_lt one.podSmall spineInside)]

/-- A flow from another pod goes over two spines and a core. -/
theorem followsRoutes_otherPod
    (accepted : sim.Accepted)
    (one : OneLeaf sim pod offset)
    (present : gwHost < sim.hostCount (pod * sim.podWidth + offset))
    (first :
      FirstGateway sim gateway (pod * sim.podWidth + offset, gwHost))
    {other : Nat}
    (otherSmall : other < sim.podCount)
    (leafInside : leaf < sim.podWidth)
    (different : other ≠ pod)
    (above : 0 < sim.coresPerSpine)
    (few : sim.coreCount + 2 * sim.leafCount ≤ 2 ^ 32) :
    FollowsRoutes sim (other * sim.podWidth + leaf) host gateway := by
  have inside := one.inside
  have otherPod :
      (other * sim.podWidth + leaf) / sim.podWidth ≠
        (pod * sim.podWidth + offset) / sim.podWidth := by
    rwa [block_div leafInside, block_div inside]
  intro getHash64
  have terms :=
    querySwitches_otherPod getHash64 host accepted first otherPod above
  have path :=
    one.follow_otherPod accepted present otherSmall leafInside different
      above
      (flowHashOf sim getHash64 (other * sim.podWidth + leaf) host gateway)
  rw [← first.octets inside] at path
  refine follows_of_path first terms ?_ path
  clear path terms
  generalize flowHashOf sim getHash64 (other * sim.podWidth + leaf) host
    gateway = flowHash
  have spineInside : flowHash.toNat % sim.podWidth < sim.podWidth :=
    Nat.mod_lt _ accepted.podWidth_pos
  have coreSmall :
      flowHash.toNat % sim.coresPerSpine < sim.coresPerSpine :=
    Nat.mod_lt _ above
  have secondSpine :
      flowHash.toNat % sim.podWidth +
          sim.podWidth *
            ((pod * sim.podWidth + offset) / sim.podWidth) =
        pod * sim.podWidth + flowHash.toNat % sim.podWidth := by
    rw [block_div inside, Nat.mul_comm, Nat.add_comm]
  simp only [List.map_cons, List.map_nil, block_div leafInside,
    secondSpine,
    switchApps_coreIndex few (accepted.core_lt spineInside coreSmall),
    switchApps_leaf (accepted.member_lt otherSmall leafInside),
    switchApps_leaf (accepted.member_lt one.podSmall inside),
    one.switchApps_spine accepted
      (accepted.member_lt one.podSmall spineInside),
    one.switchApps_spine accepted
      (accepted.member_lt otherSmall spineInside)]

end Right

/-! ## Gateways with two leaves -/

/--
Another leaf to which the route loops send packets for the gateway, in the same
pod or in one that the cores lead to.
-/
structure SecondLeaf
    (sim : SimulationBase)
    (pod offset leaf : Nat) :
    Prop where
  present : leaf < sim.leafCount
  elsewhere : leaf ≠ pod * sim.podWidth + offset
  samePodOctet : (leaf / sim.podWidth + 1) % 256 = (pod + 1) % 256
  sameOctet : leaf % sim.podWidth % 256 = offset % 256
  connected : leaf / sim.podWidth = pod ∨ 0 < sim.coresPerSpine

section Two

variable {pod offset host : Nat}

/-- Only the round of a leaf of the pod uses the interface to that leaf. -/
theorem interface_ne_of_mem_round
    (inside : offset < sim.podWidth)
    {i : Nat}
    (elsewhere : i ≠ pod * sim.podWidth + offset)
    {route : Route}
    (member : route ∈ spineToLeafRound sim pod i) :
    route.interface ≠ offset + 1 := by
  rw [spineToLeafRound] at member
  split at member
  next samePod =>
    have different : i % sim.podWidth ≠ offset := by
      intro sameOffset
      apply elsewhere
      rw [samePod, ← sameOffset, Nat.mul_comm]
      exact (Nat.div_add_mod i sim.podWidth).symm
    simp only [List.mem_cons, List.not_mem_nil, or_false] at member
    rcases member with rfl | rfl
    · exact fun same => different (Nat.succ.inj same)
    · exact fun same => different (Nat.succ.inj same)
  next =>
    obtain ⟨j, _, member⟩ := List.mem_flatMap.mp member
    simp only [List.mem_cons, List.not_mem_nil, or_false] at member
    -- The interfaces to the cores come after those to the leaves.
    have later : sim.podWidth + 1 + j ≠ offset + 1 := by omega
    rcases member with rfl | rfl
    · exact later
    · exact later

/-- The round of the second leaf adds a matching route, too. -/
theorem SecondLeaf.exists_route
    {leaf : Nat}
    (second : SecondLeaf sim pod offset leaf) :
    ∃ route ∈ spineToLeafRound sim pod leaf,
      route.isMatch (ofOctets (pod + 1) offset host 1) = true := by
  have onNode (interface : Nat) :
      (nodeRoute (leaf / sim.podWidth) (leaf % sim.podWidth)
          interface).isMatch (ofOctets (pod + 1) offset host 1) =
        true :=
    nodeRoute_isMatch.mpr
      ⟨second.samePodOctet.symm, second.sameOctet.symm⟩
  by_cases samePod : pod = leaf / sim.podWidth
  · refine ⟨_, ?_, onNode (leaf % sim.podWidth + 1)⟩
    rw [spineToLeafRound, if_pos samePod]
    exact List.mem_cons_self
  · have above : 0 < sim.coresPerSpine := by
      rcases second.connected with same | above
      · exact absurd same.symm samePod
      · exact above
    refine ⟨_, ?_, onNode (sim.podWidth + 1 + 0)⟩
    rw [spineToLeafRound, if_neg samePod]
    exact
      List.mem_flatMap.mpr
        ⟨0, List.mem_range.mpr above, List.mem_cons_self⟩

/-- The routes of a spine of the pod that match the address of the gateway. -/
def gatewayRoutes
    (sim : SimulationBase)
    (pod offset host : Nat) :
    List Route :=
  ((List.range sim.leafCount).flatMap (spineToLeafRound sim pod)).filter
    fun route => route.isMatch (ofOctets (pod + 1) offset host 1)

/-- A spine of the pod tries these routes first. -/
theorem exists_filter_routes
    (pod offset host : Nat)
    {spine : Nat}
    (spineInside : spine < sim.podWidth) :
    ∃ others,
      (sim.routes (.spine (pod * sim.podWidth + spine))).filter
          (fun route =>
            route.isMatch (ofOctets (pod + 1) offset host 1)) =
        gatewayRoutes sim pod offset host ++ others := by
  rw [routes, spineRoutes, List.append_assoc, List.filter_append,
    spineToLeafRoutes_eq spineInside]
  exact ⟨_, rfl⟩

/--
There are two of these routes, and one of the first two does not lead to the
gateway's leaf.
-/
theorem SecondLeaf.exists_wrongRoute
    (accepted : sim.Accepted)
    (podSmall : pod < sim.podCount)
    (inside : offset < sim.podWidth)
    {leaf : Nat}
    (second : SecondLeaf sim pod offset leaf)
    (host : Nat) :
    1 < (gatewayRoutes sim pod offset host).length ∧
      ∃ index ≤ 1, ∃ route,
        (gatewayRoutes sim pod offset host)[index]? = some route ∧
          route.interface ≠ offset + 1 := by
  have small := accepted.member_lt podSmall inside
  have split := flatMap_range_split (spineToLeafRound sim pod) small
  have matching :=
    congrArg
      (List.filter fun route : Route =>
        route.isMatch (ofOctets (pod + 1) offset host 1))
      split
  rw [List.filter_append, List.filter_append,
    filter_ownRound accepted podSmall inside] at matching
  generalize earlierRounds :
    ((List.range (pod * sim.podWidth + offset)).flatMap
      (spineToLeafRound sim pod)).filter
        (fun route => route.isMatch (ofOctets (pod + 1) offset host 1)) =
    earlier at matching
  generalize laterRounds :
    ((List.range' (pod * sim.podWidth + offset + 1)
        (sim.leafCount - (pod * sim.podWidth + offset + 1))).flatMap
      (spineToLeafRound sim pod)).filter
        (fun route => route.isMatch (ofOctets (pod + 1) offset host 1)) =
    later at matching
  obtain ⟨secondRoute, secondMember, secondMatch⟩ :
      ∃ route ∈ spineToLeafRound sim pod _,
        route.isMatch (ofOctets (pod + 1) offset host 1) = true :=
    second.exists_route
  rw [gatewayRoutes, matching]
  cases earlier with
  | cons route earlier =>
      refine ⟨?_, 0, Nat.zero_le 1, route, rfl, ?_⟩
      · simp only [List.length_append, List.length_cons]
        omega
      have member := List.mem_cons_self (a := route) (l := earlier)
      rw [← earlierRounds, List.mem_filter] at member
      obtain ⟨round, before, inRound⟩ := List.mem_flatMap.mp member.1
      have different : round ≠ pod * sim.podWidth + offset :=
        Nat.ne_of_lt (List.mem_range.mp before)
      exact interface_ne_of_mem_round inside different inRound
  | nil =>
      cases later with
      | cons route later =>
          refine ⟨by simp, 1, Nat.le_refl 1, route, rfl, ?_⟩
          have member := List.mem_cons_self (a := route) (l := later)
          rw [← laterRounds, List.mem_filter] at member
          obtain ⟨round, after, inRound⟩ := List.mem_flatMap.mp member.1
          have different : round ≠ pod * sim.podWidth + offset := by
            rw [List.mem_range'_1] at after
            omega
          exact interface_ne_of_mem_round inside different inRound
      | nil =>
          -- The second leaf has a round before or after the gateway's.
          have notNil
              (rounds : List Nat)
              (inRounds : leaf ∈ rounds) :
              (rounds.flatMap (spineToLeafRound sim pod)).filter
                  (fun route =>
                    route.isMatch (ofOctets (pod + 1) offset host 1)) ≠
                [] := by
            refine List.ne_nil_of_mem (a := secondRoute) ?_
            rw [List.mem_filter]
            exact
              ⟨List.mem_flatMap.mpr ⟨leaf, inRounds, secondMember⟩,
                secondMatch⟩
          have present := second.present
          rcases Nat.lt_or_gt_of_ne second.elsewhere with before | after
          · refine absurd earlierRounds (notNil _ ?_)
            exact List.mem_range.mpr before
          · refine absurd laterRounds (notNil _ ?_)
            rw [List.mem_range'_1]
            omega

/-- A leaf is behind one interface of a spine only. -/
theorem interfacePeer_spine_eq_leaf
    (accepted : sim.Accepted)
    (podSmall : pod < sim.podCount)
    {spine number : Nat}
    (spineInside : spine < sim.podWidth)
    (isLeaf :
      sim.interfacePeer (.spine (pod * sim.podWidth + spine)) number =
        some (.leaf (pod * sim.podWidth + offset))) :
    number = offset + 1 := by
  cases number with
  | zero => simp [interfacePeer] at isLeaf
  | succ index =>
      by_cases toLeaf : index < sim.podWidth
      · rw [interfacePeer_spine accepted podSmall spineInside toLeaf]
          at isLeaf
        have same := Node.leaf.inj (Option.some.inj isLeaf)
        omega
      · rw [interfacePeer, accepted.interfaces_spine podSmall spineInside,
          List.getElem?_append_right (by simpa using toLeaf),
          List.getElem?_map, Option.map_map,
          Option.map_eq_some_iff] at isLeaf
        obtain ⟨core, _, isCore⟩ := isLeaf
        exact absurd isCore (by simp)

/--
For some hash, no spine of the pod forwards to the gateway's leaf.  It is the
same hash for all of them, since their routes are in the same order.
-/
theorem SecondLeaf.exists_hash
    (accepted : sim.Accepted)
    (podSmall : pod < sim.podCount)
    (inside : offset < sim.podWidth)
    {leaf : Nat}
    (second : SecondLeaf sim pod offset leaf)
    (host : Nat) :
    ∃ flowHash, ∀ spine < sim.podWidth,
      sim.nextHop flowHash (ofOctets (pod + 1) offset host 1)
          (.spine (pod * sim.podWidth + spine)) ≠
        some (.leaf (pod * sim.podWidth + offset)) := by
  have notMultiple := podCount_mod_ne_zero accepted podSmall
  obtain ⟨two, index, atMost, route, found, wrong⟩ :=
    second.exists_wrongRoute accepted podSmall inside host
  refine ⟨UInt64.ofNat index, ?_⟩
  have hash : (UInt64.ofNat index).toNat = index := by
    rw [UInt64.toNat_ofNat']
    omega
  intro spine spineInside next
  rw [nextHop] at next
  split at next
  next => exact absurd next (by simp)
  next =>
    split at next
    next peer last =>
      -- The link to the leaf has another first octet.
      rw [Option.some.inj next] at last
      obtain ⟨interface, links, same⟩ :=
        mem_connected.mp (List.mem_of_getLast? last)
      have onward :=
        spine_onward
          (fun peer => peer ≠ .leaf (pod * sim.podWidth + offset))
          accepted podSmall spineInside ?_ ?_ links
      · exact onward same
      · intro other _ samePrefix
        rw [samePrefix_24_ofOctets] at samePrefix
        omega
      · intro core _ _ isLeaf
        exact absurd isLeaf (by simp)
    next =>
      split at next
      next => exact absurd next (by simp)
      next =>
        rw [Ipv4GlobalRouting.lookupGlobal] at next
        dsimp only at next
        split at next
        next => exact absurd next (by simp)
        next =>
          obtain ⟨others, matching⟩ :=
            exists_filter_routes pod offset host spineInside
          have inBoth :
              index <
                (gatewayRoutes sim pod offset host).length +
                  others.length := by
            omega
          rw [allRoutes, matching, List.length_map, List.length_append,
            hash, Nat.mod_eq_of_lt inBoth, Nat.mod_eq_of_lt (by omega),
            List.getElem?_map, List.getElem?_append_left (by omega),
            found] at next
          exact
            wrong
              (interfacePeer_spine_eq_leaf accepted podSmall spineInside
                next)

/-- Every switch of the controller is a leaf, a spine or a core. -/
theorem mem_switchApps
    {node : Node}
    (member : node ∈ switchApps sim) :
    (∃ leaf < sim.leafCount, node = .leaf leaf) ∨
      (∃ spine < sim.spineCount, node = .spine spine) ∨
      ∃ core < sim.coreCount, node = .core core := by
  rw [switchApps, List.mem_append, List.mem_append] at member
  rcases member with (member | member) | member
  · obtain ⟨leaf, present, rfl⟩ := List.mem_map.mp member
    exact Or.inl ⟨leaf, List.mem_range.mp present, rfl⟩
  · obtain ⟨spine, present, rfl⟩ := List.mem_map.mp member
    exact Or.inr (Or.inl ⟨spine, List.mem_range.mp present, rfl⟩)
  · obtain ⟨core, present, rfl⟩ := List.mem_map.mp member
    exact Or.inr (Or.inr ⟨core, List.mem_range.mp present, rfl⟩)

/-- The only switches with a link to a leaf are the spines of its pod. -/
theorem exists_spine_of_nextHop
    (accepted : sim.Accepted)
    (inside : offset < sim.podWidth)
    {flowHash : UInt64}
    {destination : Ipv4Address}
    {node : Node}
    (member : node ∈ switchApps sim)
    (next :
      sim.nextHop flowHash destination node =
        some (.leaf (pod * sim.podWidth + offset))) :
    ∃ spine < sim.podWidth, node = .spine (pod * sim.podWidth + spine) := by
  obtain ⟨interface, link, isLeaf⟩ := exists_interface_of_nextHop next
  rcases mem_switchApps member with
    ⟨leaf, present, rfl⟩ | ⟨spine, present, rfl⟩ | ⟨core, present, rfl⟩
  · obtain ⟨pod', podSmall', leaf, leafInside, rfl⟩ :=
      accepted.exists_member present
    rw [accepted.interfaces_leaf podSmall' leafInside,
      List.mem_append] at link
    rcases link with link | link
    · obtain ⟨_, _, rfl⟩ := List.mem_map.mp link
      exact absurd isLeaf (by simp)
    · obtain ⟨_, _, rfl⟩ := List.mem_map.mp link
      exact absurd isLeaf (by simp)
  · obtain ⟨pod', podSmall', spine, spineInside, rfl⟩ :=
      accepted.exists_member present
    rw [accepted.interfaces_spine podSmall' spineInside,
      List.mem_append] at link
    rcases link with link | link
    · obtain ⟨leaf, leafInside, rfl⟩ := List.mem_map.mp link
      have sameLeaf := Node.leaf.inj isLeaf
      rw [block_inj (List.mem_range.mp leafInside) inside] at sameLeaf
      rw [sameLeaf.1]
      exact ⟨spine, spineInside, rfl⟩
    · obtain ⟨_, _, rfl⟩ := List.mem_map.mp link
      exact absurd isLeaf (by simp)
  · rw [accepted.interfaces_core present] at link
    obtain ⟨_, _, rfl⟩ := List.mem_map.mp link
    exact absurd isLeaf (by simp)

/-- With a second leaf, some hash leads past the controller's terms. -/
theorem SecondLeaf.not_followsRoutes
    (accepted : sim.Accepted)
    (podSmall : pod < sim.podCount)
    (inside : offset < sim.podWidth)
    {other : Nat}
    (second : SecondLeaf sim pod offset other)
    {leaf : Nat}
    {gateway : Ipv4Address}
    (octets : gateway = ofOctets (pod + 1) offset host 1)
    {source : Nat}
    (terms :
      ∀ getHash64, ∃ front before,
        querySwitches sim getHash64 leaf source gateway =
          some (front ++ [before, pod * sim.podWidth + offset])) :
    ¬ FollowsRoutes sim leaf source gateway := by
  intro follows
  obtain ⟨flowHash, avoids⟩ :=
    second.exists_hash accepted podSmall inside host
  obtain ⟨front, before, isTerms⟩ := terms fun _ => flowHash
  obtain ⟨indices, gw, isIndices, small, _, _, path⟩ :=
    follows fun _ => flowHash
  obtain rfl := Option.some.inj (isIndices.symm.trans isTerms)
  have beforeSmall := small before (by simp)
  rw [List.map_append, List.append_assoc, List.map_eq_append_iff] at path
  obtain ⟨frontNodes, lastNodes, path, _, last⟩ := path
  have leafPresent := accepted.member_lt podSmall inside
  simp only [List.map_cons, List.map_nil, switchApps_leaf leafPresent,
    List.getElem?_eq_getElem beforeSmall, List.cons_append,
    List.nil_append, List.map_eq_cons_iff, List.map_eq_nil_iff,
    Option.some.injEq] at last
  obtain ⟨node, _, rfl, isNode, _, _, rfl, rfl, _, _, rfl, rfl, rfl⟩ := last
  have next := next_of_follow path
  have member : node ∈ switchApps sim := by
    rw [isNode]
    exact List.getElem_mem beforeSmall
  obtain ⟨spine, spineInside, rfl⟩ :=
    exists_spine_of_nextHop accepted inside member next
  rw [octets] at next
  exact avoids spine spineInside next

end Two

/-! ## Flows whose terms are wrong -/

section Wrong

variable
  {leaf host pod offset gwHost : Nat}
  {gateway : Ipv4Address}

/-- The terms of other leaves end with the gateway's leaf. -/
theorem exists_terms
    (accepted : sim.Accepted)
    (getHash64 : String → UInt64)
    {gw : Nat × Nat}
    (first : FirstGateway sim gateway gw)
    (elsewhere : leaf ≠ gw.1)
    (connected :
      leaf / sim.podWidth = gw.1 / sim.podWidth ∨
        0 < sim.coresPerSpine) :
    ∃ front before,
      querySwitches sim getHash64 leaf host gateway =
        some (front ++ [before, gw.1]) := by
  by_cases samePod : leaf / sim.podWidth = gw.1 / sim.podWidth
  · exact
      ⟨[_], _,
        querySwitches_samePod getHash64 host accepted first elsewhere
          samePod⟩
  · have above : 0 < sim.coresPerSpine := connected.resolve_left samePod
    exact
      ⟨[_, _, _], _,
        querySwitches_otherPod getHash64 host accepted first samePod
          above⟩

/-- Too wide a pod has a second leaf for every gateway. -/
theorem exists_secondLeaf_of_aliased
    (accepted : sim.Accepted)
    (podSmall : pod < sim.podCount)
    (inside : offset < sim.podWidth)
    (aliased : 256 ≤ offset ∨ offset + 256 < sim.podWidth) :
    ∃ leaf, SecondLeaf sim pod offset leaf := by
  have second
      (offset' : Nat)
      (inside' : offset' < sim.podWidth)
      (different : offset' ≠ offset)
      (sameOctet : offset' % 256 = offset % 256) :
      SecondLeaf sim pod offset (pod * sim.podWidth + offset') := by
    have onlyPod := block_div inside' pod
    refine ⟨accepted.member_lt podSmall inside', ?_, ?_, ?_, ?_⟩
    · omega
    · rw [onlyPod]
    · rwa [block_mod inside']
    · exact Or.inl onlyPod
  rcases aliased with after | before
  · exact ⟨_, second (offset - 256) (by omega) (by omega) (by omega)⟩
  · exact ⟨_, second (offset + 256) before (by omega) (by omega)⟩

/-- Once the check on the pods wraps around, pods share their octets. -/
theorem exists_secondLeaf_of_manyPods
    (accepted : sim.Accepted)
    (podSmall : pod < sim.podCount)
    (inside : offset < sim.podWidth)
    (above : 0 < sim.coresPerSpine)
    (many : 84 < sim.podCount) :
    ∃ leaf, SecondLeaf sim pod offset leaf := by
  have second
      (pod' : Nat)
      (podSmall' : pod' < sim.podCount)
      (different : pod' ≠ pod)
      (sameOctet : (pod' + 1) % 256 = (pod + 1) % 256) :
      SecondLeaf sim pod offset (pod' * sim.podWidth + offset) := by
    refine ⟨accepted.member_lt podSmall' inside, ?_, ?_, ?_, ?_⟩
    · intro same
      exact different ((block_inj inside inside).mp same).1
    · rwa [block_div inside]
    · rw [block_mod inside]
    · exact Or.inr above
  have wrapped := accepted.podCount_gt_of_wrapped many
  by_cases after : 256 ≤ pod
  · exact ⟨_, second (pod - 256) (by omega) (by omega) (by omega)⟩
  · exact ⟨_, second (pod + 256) (by omega) (by omega) (by omega)⟩

/-- The indices below the cores are those of leaves and spines. -/
theorem switchApps_ne_core
    {index : Nat}
    (below : index < 2 * sim.leafCount)
    (core : Nat) :
    (switchApps sim)[index]? ≠ some (.core core) := by
  have spines : sim.spineCount = sim.leafCount := rfl
  by_cases isLeaf : index < sim.leafCount
  · simp [switchApps_leaf isLeaf]
  · have isSpine : index - sim.leafCount < sim.spineCount := by omega
    have found := switchApps_spine isSpine
    rw [Nat.sub_add_cancel (by omega)] at found
    simp [found]

/-- The hash that is the last core selects that core. -/
theorem lastCore_eq
    (accepted : sim.Accepted)
    (above : 0 < sim.coresPerSpine) :
    (sim.coreCount - 1) % sim.podWidth * sim.coresPerSpine +
        (sim.coreCount - 1) % sim.coresPerSpine =
      sim.coreCount - 1 := by
  have wide := accepted.podWidth_pos
  have cores := accepted.coreCount_eq
  have bySpines :
      sim.coreCount - 1 =
        (sim.coresPerSpine - 1) * sim.podWidth + (sim.podWidth - 1) := by
    have product := Nat.sub_one_mul sim.coresPerSpine sim.podWidth
    have atLeast := Nat.le_mul_of_pos_left sim.podWidth above
    rw [Nat.mul_comm] at cores
    omega
  have byCores :
      sim.coreCount - 1 =
        (sim.podWidth - 1) * sim.coresPerSpine +
          (sim.coresPerSpine - 1) := by
    have product := Nat.sub_one_mul sim.podWidth sim.coresPerSpine
    have atLeast := Nat.le_mul_of_pos_left sim.coresPerSpine wide
    omega
  have spine : (sim.coreCount - 1) % sim.podWidth = sim.podWidth - 1 := by
    rw [bySpines, block_mod (by omega)]
  have core :
      (sim.coreCount - 1) % sim.coresPerSpine = sim.coresPerSpine - 1 := by
    rw [byCores, block_mod (by omega)]
  rw [spine, core]
  exact byCores.symm

/--
If the indices of the cores wrap around, that of the last core is not the index
of a core.
-/
theorem OneLeaf.not_followsRoutes
    (accepted : sim.Accepted)
    (one : OneLeaf sim pod offset)
    (first :
      FirstGateway sim gateway (pod * sim.podWidth + offset, gwHost))
    {other : Nat}
    (otherSmall : other < sim.podCount)
    (leafInside : leaf < sim.podWidth)
    (different : other ≠ pod)
    (above : 0 < sim.coresPerSpine)
    (many : 2 ^ 32 < sim.coreCount + 2 * sim.leafCount) :
    ¬ FollowsRoutes sim (other * sim.podWidth + leaf) host gateway := by
  have wide := accepted.podWidth_pos
  have few := coreCount_lt sim
  have hasCores := accepted.core_lt wide above
  have spines : sim.spineCount = sim.leafCount := rfl
  have inside := one.inside
  have octets := first.octets inside
  have otherPod :
      (other * sim.podWidth + leaf) / sim.podWidth ≠
        (pod * sim.podWidth + offset) / sim.podWidth := by
    rwa [block_div leafInside, block_div inside]
  let last := sim.coreCount - 1
  have lastCore :
      last % sim.podWidth * sim.coresPerSpine +
          last % sim.coresPerSpine =
        last :=
    lastCore_eq accepted above
  have hash : (UInt64.ofNat last).toNat = last := by
    rw [UInt64.toNat_ofNat']
    omega
  have spineInside : last % sim.podWidth < sim.podWidth :=
    Nat.mod_lt _ wide
  intro follows
  obtain ⟨indices, gw, isIndices, _, _, _, path⟩ :=
    follows fun _ => UInt64.ofNat last
  have terms :=
    querySwitches_otherPod (fun _ => UInt64.ofNat last) host accepted first
      otherPod above
  have flowHash :
      flowHashOf sim (fun _ => UInt64.ofNat last)
          (other * sim.podWidth + leaf) host gateway =
        UInt64.ofNat last :=
    rfl
  simp only [flowHash, hash, lastCore] at terms
  obtain rfl := Option.some.inj (isIndices.symm.trans terms)
  change List.map _ (follow (sim.nextHop (UInt64.ofNat last) gateway) 64 _)
    = _ at path
  rw [octets, follow_of_some
      (one.nextHop_leaf accepted otherSmall leafInside
        (fun same => different same.2) _),
    follow_of_some
      (one.nextHop_farSpine accepted otherSmall (by rwa [hash])
        different above _), hash, lastCore] at path
  obtain ⟨rest, afterCore⟩ :=
    exists_follow
      (sim.nextHop (UInt64.ofNat last) (ofOctets (pod + 1) offset gwHost 1))
      62 (.core last)
  rw [afterCore] at path
  simp only [List.map_cons, List.cons_append, List.cons.injEq] at path
  obtain ⟨_, _, core, _⟩ := path
  have wrapped :
      add32 (add32 last sim.leafCount) sim.spineCount <
        2 * sim.leafCount := by
    simp only [add32]
    omega
  exact switchApps_ne_core wrapped last core.symm

/--
The terms of a flow are right exactly if it starts below the gateway's leaf, or
the octets of that leaf name no other leaf and, for flows between pods, the
indices of the cores do not wrap around.
-/
theorem followsRoutes_iff
    (accepted : sim.Accepted)
    (placed : GatewaysPlaced sim)
    (crossing : sim.podCount = 1 ∨ sim.podWidth ≤ sim.coreCount)
    (leafPresent : leaf < sim.leafCount)
    {gw : Nat × Nat}
    (first : FirstGateway sim gateway gw) :
    FollowsRoutes sim leaf host gateway ↔
      leaf = gw.1 ∨
        (sim.podCount ≤ 84 ∧ Unaliased sim gw.1 ∧
          (leaf / sim.podWidth = gw.1 / sim.podWidth ∨
            sim.coreCount + 2 * sim.leafCount ≤ 2 ^ 32)) := by
  have wide := accepted.podWidth_pos
  obtain ⟨gwLeaf, gwHost⟩ := gw
  obtain ⟨gwPresent, present⟩ := placed _ first.mem
  obtain ⟨pod, podSmall, offset, inside, rfl⟩ :=
    accepted.exists_member gwPresent
  obtain ⟨other, otherSmall, source, sourceInside, rfl⟩ :=
    accepted.exists_member leafPresent
  have connected : other = pod ∨ 0 < sim.coresPerSpine := by
    rcases crossing with onePod | cores
    · exact Or.inl (by omega)
    · exact Or.inr (accepted.coresPerSpine_pos (by omega))
  simp only [Unaliased, block_div inside, block_mod inside,
    block_div sourceInside]
  by_cases own :
      other * sim.podWidth + source = pod * sim.podWidth + offset
  · rw [own]
    exact
      ⟨fun _ => Or.inl rfl,
        fun _ => followsRoutes_own accepted podSmall inside present first⟩
  have terms (getHash64 : String → UInt64) :
      ∃ front before,
        querySwitches sim getHash64 _ host gateway =
          some (front ++ [before, _]) :=
    exists_terms accepted getHash64 first own
      (by rwa [block_div inside, block_div sourceInside])
  have alone (follows :
      FollowsRoutes sim (other * sim.podWidth + source) host gateway)
      (leaf : Nat) :
      ¬ SecondLeaf sim pod offset leaf :=
    fun second =>
      second.not_followsRoutes accepted podSmall inside
        (first.octets inside) terms follows
  constructor
  · intro follows
    have pods : sim.podCount ≤ 84 := by
      by_contra many
      have above : 0 < sim.coresPerSpine := by
        rcases crossing with onePod | cores
        · exact absurd onePod (by omega)
        · exact accepted.coresPerSpine_pos (by omega)
      obtain ⟨second, isSecond⟩ :=
        exists_secondLeaf_of_manyPods accepted podSmall inside above
          (Nat.lt_of_not_le many)
      exact alone follows second isSecond
    have unaliased : offset < 256 ∧ sim.podWidth ≤ offset + 256 := by
      by_contra aliased
      obtain ⟨second, isSecond⟩ :=
        exists_secondLeaf_of_aliased accepted podSmall inside (by omega)
      exact alone follows second isSecond
    refine Or.inr ⟨pods, unaliased, ?_⟩
    by_cases samePod : other = pod
    · exact Or.inl samePod
    · have one : OneLeaf sim pod offset :=
        ⟨pods, podSmall, inside, unaliased.1, unaliased.2⟩
      refine Or.inr (Nat.le_of_not_lt fun many => ?_)
      exact
        one.not_followsRoutes accepted first otherSmall sourceInside
          samePod (connected.resolve_left samePod) many follows
  · rintro (same | ⟨pods, ⟨octet, narrow⟩, near⟩)
    · exact absurd same own
    · have one : OneLeaf sim pod offset :=
        ⟨pods, podSmall, inside, octet, narrow⟩
      by_cases samePod : other = pod
      · subst samePod
        exact
          followsRoutes_samePod accepted one present first sourceInside
            (fun same => own (by rw [same]))
      · exact
          followsRoutes_otherPod accepted one present first otherSmall
            sourceInside samePod (connected.resolve_left samePod)
            (near.resolve_left samePod)

/-- Once every address is allocated, the terms of every flow are right. -/
theorem followsRoutes_of_assigns
    {generator : Ipv4AddressGenerator}
    (refuses : generator.RefusesDuplicates)
    (assigns : sim.Assigns generator)
    (accepted : sim.Accepted)
    (placed : GatewaysPlaced sim)
    (crossing : sim.podCount = 1 ∨ sim.podWidth ≤ sim.coreCount)
    (leafPresent : leaf < sim.leafCount)
    (isGateway : gateway ∈ sim.gwAddresses) :
    FollowsRoutes sim leaf host gateway := by
  obtain ⟨gw, first⟩ := exists_firstGateway isGateway
  have podSmall := accepted.pod_lt leafPresent
  have width := assigns.podWidth_le refuses accepted podSmall
  have pods := assigns.podCount_le refuses accepted
  have cores :=
    assigns.coreCount_le refuses accepted (Nat.zero_lt_of_lt podSmall)
  have leaves : sim.leafCount ≤ 84 * 256 := by
    rw [accepted.leafCount_eq]
    exact Nat.mul_le_mul pods width
  have offset := accepted.offset_lt gw.1
  rw [followsRoutes_iff accepted placed crossing leafPresent first]
  refine Or.inr ⟨pods, ⟨?_, ?_⟩, Or.inr ?_⟩
  · exact lt_of_lt_of_le offset width
  · exact width.trans (Nat.le_add_left 256 _)
  · omega

/-- Two pods as before, with a gateway below the first leaf. -/
def gatewayPods : SimulationBase :=
  { twoPods with gws := [(0, 0)] }

/-- From the last leaf of the other pod. -/
theorem followsRoutes_gatewayPods :
    FollowsRoutes gatewayPods 3 0 (gatewayPods.hostAddress 0 0) :=
  followsRoutes_of_assigns
    Ipv4AddressGenerator.refusesDuplicates_ofList
    (show gatewayPods.Assigns Ipv4AddressGenerator.ofList by
      decide +kernel)
    { accepted_twoPods with }
    (fun gw member => by
      rw [List.mem_singleton.mp member]
      decide)
    (Or.inr (by decide))
    (by decide)
    (List.mem_singleton.mpr rfl)

end Wrong

end SwitchV2P.FlowPaths
