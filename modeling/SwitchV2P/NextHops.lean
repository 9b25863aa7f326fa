import SwitchV2P.Ipv4GlobalRouting
import SwitchV2P.RoutingDelivery

namespace SwitchV2P

/-!
# Next hops

A packet for a node of the network gets closer to it at every hop, and it
passes through no host on the way.  This holds from every switch and for every
choice among the matching routes, so a packet that is readdressed half-way has
at most five links to go from where it is.
-/

open DottedQuad RangeLoops Forwarding RoutingDelivery

/-- A leaf, a spine or a core. -/
def Node.isSwitch : Node → Bool
  | .host _ _ => false
  | _ => true

theorem Node.exists_host
    {node : Node}
    (notSwitch : node.isSwitch = false) :
    ∃ leaf host, node = .host leaf host := by
  cases node with
  | host leaf host => exact ⟨leaf, host, rfl⟩
  | leaf leaf => simp [isSwitch] at notSwitch
  | spine spine => simp [isSwitch] at notSwitch
  | core core => simp [isSwitch] at notSwitch

namespace SimulationBase

/-- `RouteOutput`: one of the matching routes, by a random number. -/
def routeOutput
    (sim : SimulationBase)
    (node : Node)
    (destination : Ipv4Address)
    (pick : Nat) :
    Option Node :=
  let hops := sim.hops destination node
  hops[pick % hops.length]?.join

/-- The node that others address so. -/
def GoesBy
    (sim : SimulationBase)
    (address : Ipv4Address)
    (node : Node) :
    Prop :=
  sim.HasNode node ∧ sim.nodeAddress node = address

/-- Every way to forward a packet from the node arrives. -/
abbrev Reaches
    (sim : SimulationBase)
    (address : Ipv4Address)
    (node : Node) :
    Prop :=
  Arrives (sim.hops address) (sim.GoesBy address) node

/-- The links that a packet has to go at most. -/
noncomputable abbrev linksTo
    (sim : SimulationBase)
    (address : Ipv4Address)
    (node : Node) :
    Nat :=
  linksLeft (sim.hops address) (sim.GoesBy address) node

/-- A topology in which every node can be told apart and reached. -/
structure Routable (sim : SimulationBase) : Prop where
  accepted : sim.Accepted
  fits : AddressPlan.Fits sim
  crossing : sim.podCount = 1 ∨ 1 ≤ sim.coreCount

variable {sim : SimulationBase} {node next : Node} {address : Ipv4Address}

/-! ## Neighbours -/

/-- A hop goes over an interface of the node. -/
theorem exists_interface_of_hops
    (hop : some next ∈ sim.hops address node) :
    ∃ interface ∈ sim.interfaces node, interface.peer = next := by
  rw [hops] at hop
  split at hop
  next =>
    obtain ⟨peer, isPeer, same⟩ := List.mem_map.mp hop
    obtain ⟨interface, links, isInterface⟩ := mem_connected.mp isPeer
    exact ⟨interface, links.1, isInterface.trans (Option.some.inj same)⟩
  next =>
    split at hop
    next => exact absurd hop (by simp)
    next =>
      obtain ⟨route, _, isPeer⟩ := mem_allRoutes.mp hop
      cases number : route.interface with
      | zero => simp [number, interfacePeer] at isPeer
      | succ index =>
          rw [number, interfacePeer, Option.map_eq_some_iff] at isPeer
          obtain ⟨interface, found, same⟩ := isPeer
          exact ⟨interface, List.mem_of_getElem? found, same⟩

/-- The other end of a link is a node as well. -/
theorem Accepted.hasNode_peer
    (accepted : sim.Accepted)
    (present : sim.HasNode node)
    {interface : Interface}
    (member : interface ∈ sim.interfaces node) :
    sim.HasNode interface.peer := by
  cases node with
  | host leaf host =>
      rw [accepted.interfaces_host present] at member
      rw [List.mem_singleton.mp member]
      exact present.1
  | leaf leaf =>
      obtain ⟨pod, podSmall, offset, inside, rfl⟩ :=
        accepted.exists_member present
      rw [accepted.interfaces_leaf podSmall inside,
        List.mem_append] at member
      rcases member with member | member
      · obtain ⟨host, small, rfl⟩ := List.mem_map.mp member
        exact ⟨present, List.mem_range.mp small⟩
      · obtain ⟨spine, small, rfl⟩ := List.mem_map.mp member
        exact accepted.member_lt podSmall (List.mem_range.mp small)
  | spine spine =>
      obtain ⟨pod, podSmall, offset, inside, rfl⟩ :=
        accepted.exists_member present
      rw [accepted.interfaces_spine podSmall inside,
        List.mem_append] at member
      rcases member with member | member
      · obtain ⟨leaf, small, rfl⟩ := List.mem_map.mp member
        exact accepted.member_lt podSmall (List.mem_range.mp small)
      · obtain ⟨core, small, rfl⟩ := List.mem_map.mp member
        exact accepted.core_lt inside (List.mem_range.mp small)
  | core core =>
      rw [accepted.interfaces_core present] at member
      obtain ⟨pod, podSmall, rfl⟩ := List.mem_map.mp member
      exact
        accepted.member_lt (List.mem_range.mp podSmall)
          (accepted.spineOfCore_lt present)

/-- A host is next to its own leaf only. -/
theorem Accepted.eq_leaf_of_peer_host
    (accepted : sim.Accepted)
    (present : sim.HasNode node)
    {interface : Interface}
    (member : interface ∈ sim.interfaces node)
    {leaf host : Nat}
    (isHost : interface.peer = .host leaf host) :
    node = .leaf leaf := by
  cases node with
  | host leaf' host' =>
      rw [accepted.interfaces_host present] at member
      rw [List.mem_singleton.mp member] at isHost
      simp at isHost
  | leaf leaf' =>
      obtain ⟨pod, podSmall, offset, inside, rfl⟩ :=
        accepted.exists_member present
      rw [accepted.interfaces_leaf podSmall inside,
        List.mem_append] at member
      rcases member with member | member
      · obtain ⟨other, _, rfl⟩ := List.mem_map.mp member
        rw [(Node.host.inj isHost).1]
      · obtain ⟨spine, _, rfl⟩ := List.mem_map.mp member
        simp at isHost
  | spine spine =>
      obtain ⟨pod, podSmall, offset, inside, rfl⟩ :=
        accepted.exists_member present
      rw [accepted.interfaces_spine podSmall inside,
        List.mem_append] at member
      rcases member with member | member
      · obtain ⟨other, _, rfl⟩ := List.mem_map.mp member
        simp at isHost
      · obtain ⟨core, _, rfl⟩ := List.mem_map.mp member
        simp at isHost
  | core core =>
      rw [accepted.interfaces_core present] at member
      obtain ⟨pod, _, rfl⟩ := List.mem_map.mp member
      simp at isHost

namespace Routable

/-! ## Addresses -/

/-- No two nodes go by the same address. -/
theorem unique
    (routable : sim.Routable)
    {first second : Node}
    (isFirst : sim.GoesBy address first)
    (isSecond : sim.GoesBy address second) :
    first = second :=
  (AddressPlan.sound_of_fits routable.accepted routable.fits).unique
    (Or.inr isFirst) (Or.inr isSecond)

/-- No node keeps packets that are addressed to another. -/
theorem isLocal_eq_false
    (routable : sim.Routable)
    {target : Node}
    (goesBy : sim.GoesBy address target)
    (elsewhere : target ≠ node) :
    sim.isLocal node address = false := by
  rw [isLocal, List.any_eq_false]
  intro interface member same
  obtain ⟨assigned, isOwner⟩ := List.mem_filter.mp member
  refine
    elsewhere
      ((AddressPlan.sound_of_fits routable.accepted routable.fits).unique
        (Or.inr goesBy) (Or.inl ⟨interface, assigned, ?_⟩))
  exact ⟨of_decide_eq_true isOwner, of_decide_eq_true same⟩

/-! ## Hops -/

/-- The next node is in the network. -/
theorem hasNode_of_hops
    (routable : sim.Routable)
    (present : sim.HasNode node)
    (hop : some next ∈ sim.hops address node) :
    sim.HasNode next := by
  obtain ⟨interface, member, rfl⟩ := exists_interface_of_hops hop
  exact routable.accepted.hasNode_peer present member

/-- From a switch, a packet goes to no host but the one it is for. -/
theorem goesBy_of_hops
    (routable : sim.Routable)
    (present : sim.HasNode node)
    {target : Node}
    (goesBy : sim.GoesBy address target)
    {leaf host : Nat}
    (hop : some (.host leaf host) ∈ sim.hops address node) :
    target = .host leaf host := by
  obtain ⟨accepted, fits, _⟩ := routable
  obtain ⟨targetPresent, rfl⟩ := goesBy
  obtain ⟨interface, member, isPeer⟩ := exists_interface_of_hops hop
  have isLeaf := accepted.eq_leaf_of_peer_host present member isPeer
  subst isLeaf
  have hostPresent := accepted.hasNode_peer present member
  rw [isPeer] at hostPresent
  by_contra elsewhere
  have apart :=
    not_samePrefix_host accepted fits hostPresent targetPresent elsewhere
  obtain ⟨pod, podSmall, offset, inside, rfl⟩ :=
    accepted.exists_member (show leaf < sim.leafCount from present)
  rw [hops] at hop
  split at hop
  next =>
    obtain ⟨peer, isHost, same⟩ := List.mem_map.mp hop
    obtain ⟨linked, ⟨linkedMember, inSubnet⟩, linkedPeer⟩ :=
      mem_connected.mp isHost
    rw [Option.some.inj same] at linkedPeer
    rw [accepted.interfaces_leaf podSmall inside,
      List.mem_append] at linkedMember
    rcases linkedMember with hosts | spines
    · obtain ⟨other, _, rfl⟩ := List.mem_map.mp hosts
      obtain rfl := (Node.host.inj linkedPeer).2
      refine apart ?_
      rw [hostAddress, block_div inside, block_mod inside,
        IpUtils.getNodePhysicalAddress_octets]
      rw [samePrefix, decide_eq_true_eq] at inSubnet ⊢
      rw [inSubnet, toNat_ofOctets, toNat_ofOctets]
      omega
    · obtain ⟨spine, _, rfl⟩ := List.mem_map.mp spines
      simp at linkedPeer
  next =>
    split at hop
    next => exact absurd hop (by simp)
    next =>
      obtain ⟨route, ⟨routed, _⟩, isNext⟩ := mem_allRoutes.mp hop
      cases (accepted.mem_leafRoutes_iff podSmall inside).mp routed with
      | node _ _ _ small =>
          simp [nodeRoute, interfacePeer_leaf accepted podSmall inside
            small] at isNext
      | leaf _ _ _ small =>
          simp [leafRoute, interfacePeer_leaf accepted podSmall inside
            small] at isNext
      | nearSpine small =>
          simp [spineRoute, interfacePeer_leaf accepted podSmall inside
            small] at isNext
      | farSpine _ _ _ small =>
          simp [spineRoute, interfacePeer_leaf accepted podSmall inside
            small] at isNext
      | core small =>
          have below := accepted.spineOfCore_lt small
          simp [coreRoute, interfacePeer_leaf accepted podSmall inside
            below] at isNext

/-- A host sends everything to its leaf, even what is for itself. -/
theorem routeOutput_host
    (routable : sim.Routable)
    {leaf host : Nat}
    (present : sim.HasNode (.host leaf host))
    {target : Node}
    (goesBy : sim.GoesBy address target)
    (pick : Nat) :
    sim.routeOutput (.host leaf host) address pick = some (.leaf leaf) := by
  obtain ⟨accepted, fits, _⟩ := routable
  obtain ⟨targetPresent, rfl⟩ := goesBy
  have interfaces := accepted.interfaces_host present
  have notLoopback : isLoopback (sim.nodeAddress target) = false := by
    obtain ⟨a, b, c, d, spells, address⟩ :=
      AddressPlan.spells_nodeAddress accepted targetPresent
    rw [address]
    exact isLoopback_ofOctets (spells.firstOctet fits)
  have default :
      sim.allRoutes (.host leaf host) (sim.nodeAddress target) =
        [some (.leaf leaf)] := by
    simp [allRoutes, routes, hostRoutes, Route.isMatch, samePrefix_zero,
      interfacePeer, interfaces]
  have onlyLeaf :
      sim.hops (sim.nodeAddress target) (.host leaf host) =
        [some (.leaf leaf)] := by
    cases inSubnet :
        samePrefix 24 (sim.nodeAddress target)
          (sim.hostAddress leaf host) with
    | true => simp [hops, connected, interfaces, inSubnet]
    | false =>
        simp [hops, connected, interfaces, inSubnet, notLoopback, default]
  rw [routeOutput, onlyLeaf]
  simp [Nat.mod_one]

/-- Whatever route is picked, the next node is closer. -/
theorem exists_routeOutput
    (routable : sim.Routable)
    (present : sim.HasNode node)
    {target : Node}
    (goesBy : sim.GoesBy address target)
    (elsewhere : target ≠ node)
    (reaches : sim.Reaches address node)
    (pick : Nat) :
    ∃ next, sim.routeOutput node address pick = some next ∧
      sim.HasNode next ∧ sim.Reaches address next ∧
      sim.linksTo address next < sim.linksTo address node ∧
      (next.isSwitch = false → target = next) := by
  obtain ⟨forwarded, onward⟩ :=
    reaches.onward fun here => elsewhere (routable.unique goesBy here)
  have index :
      pick % (sim.hops address node).length <
        (sim.hops address node).length :=
    Nat.mod_lt _ (List.length_pos_of_ne_nil forwarded)
  have member := List.getElem_mem index
  obtain ⟨next, isNext, later, closer⟩ := onward _ member
  rw [isNext] at member
  refine
    ⟨next, ?_, routable.hasNode_of_hops present member, later, closer, ?_⟩
  · rw [routeOutput, List.getElem?_eq_getElem index, isNext]
    rfl
  · intro isHost
    cases next with
    | host leaf host => exact routable.goesBy_of_hops present goesBy member
    | leaf leaf => simp [Node.isSwitch] at isHost
    | spine spine => simp [Node.isSwitch] at isHost
    | core core => simp [Node.isSwitch] at isHost

/-! ## From every switch -/

/-- From any leaf to any node. -/
theorem reaches_of_leaf
    (routable : sim.Routable)
    {leaf : Nat}
    (present : leaf < sim.leafCount)
    {target : Node}
    (goesBy : sim.GoesBy address target) :
    sim.Reaches address (.leaf leaf) ∧
      sim.linksTo address (.leaf leaf) ≤ 5 := by
  obtain ⟨accepted, fits, crossing⟩ := routable
  obtain ⟨targetPresent, rfl⟩ := goesBy
  have arrives :=
    arrivesWithin_five accepted fits crossing present targetPresent
  have goal :
      ArrivesWithin (sim.hops (sim.nodeAddress target))
        (sim.GoesBy (sim.nodeAddress target)) 5 (.leaf leaf) := by
    refine arrives.weaken fun node isTarget => ?_
    subst isTarget
    exact ⟨targetPresent, rfl⟩
  exact ⟨⟨5, goal⟩, linksLeft_le goal⟩

/-- From any switch to any host. -/
theorem reaches_of_switch
    (routable : sim.Routable)
    (present : sim.HasNode node)
    (isSwitch : node.isSwitch = true)
    {leaf host : Nat}
    (goesBy : sim.GoesBy address (.host leaf host)) :
    sim.Reaches address node ∧ sim.linksTo address node ≤ 5 := by
  have fromLeaf {leaf : Nat} (present : leaf < sim.leafCount) :=
    routable.reaches_of_leaf present goesBy
  obtain ⟨accepted, fits, crossing⟩ := routable
  obtain ⟨⟨leafPresent, hostSmall⟩, rfl⟩ := goesBy
  obtain ⟨pod, podSmall, offset, inside, rfl⟩ :=
    accepted.exists_member leafPresent
  have under := underLeaf_host accepted fits podSmall inside host
  have atLeaf := arrives_ownHost accepted fits podSmall inside hostSmall
  have within {links : Nat} {node : Node}
      (few : links ≤ 5)
      (arrives :
        ArrivesWithin (sim.hops (ofOctets (pod + 1) offset host 1))
          (fun node => node = .host (pod * sim.podWidth + offset) host)
          links node) :
      sim.Reaches
          (sim.nodeAddress (.host (pod * sim.podWidth + offset) host))
          node ∧
        sim.linksTo
            (sim.nodeAddress (.host (pod * sim.podWidth + offset) host))
            node ≤ 5 := by
    have spelled :
        sim.nodeAddress (.host (pod * sim.podWidth + offset) host) =
          ofOctets (pod + 1) offset host 1 := by
      rw [nodeAddress, hostAddress, block_div inside, block_mod inside,
        IpUtils.getNodePhysicalAddress_octets]
    rw [← spelled] at arrives
    have goal :
        ArrivesWithin
          (sim.hops
            (sim.nodeAddress (.host (pod * sim.podWidth + offset) host)))
          (sim.GoesBy
            (sim.nodeAddress (.host (pod * sim.podWidth + offset) host)))
          5 node := by
      refine (arrives.mono few).weaken fun node isTarget => ?_
      subst isTarget
      exact ⟨⟨leafPresent, hostSmall⟩, rfl⟩
    exact ⟨⟨5, goal⟩, linksLeft_le goal⟩
  cases node with
  | host leaf host => simp [Node.isSwitch] at isSwitch
  | leaf leaf => exact fromLeaf present
  | spine spine =>
      obtain ⟨other, otherSmall, offset', inside', rfl⟩ :=
        accepted.exists_member present
      by_cases samePod : other = pod
      · subst samePod
        exact
          within (by decide)
            (under.arrives_nearSpine accepted podSmall inside atLeaf
              inside')
      · have above := accepted.coresPerSpine_pos (by omega)
        exact
          within (by decide)
            (under.arrives_farSpine accepted podSmall inside atLeaf above
              otherSmall inside' samePod)
  | core core =>
      exact
        within (by decide)
          (under.arrives_core accepted podSmall inside atLeaf present)

end Routable

end SimulationBase

end SwitchV2P
