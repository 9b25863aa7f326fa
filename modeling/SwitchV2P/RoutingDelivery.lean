import SwitchV2P.AddressPlan
import SwitchV2P.Forwarding
import SwitchV2P.RoutingTables

namespace SwitchV2P.RoutingDelivery

/-!
# The routing tables are complete and loop free

From any leaf, a packet for a host, leaf, spine or core arrives within five
links, whichever of the matching routes each node picks.  The links are
counted backwards from the destination: the leaf or spine next to it, the core
above, the spine of another pod, and the leaf where the packet started.
-/

open DottedQuad RangeLoops SimulationBase Forwarding

variable {sim : SimulationBase}

/-! ## One hop -/

section Peers

variable {pod offset : Nat}

/-- The interfaces of a leaf after those of its hosts. -/
theorem interfacePeer_leaf
    (accepted : sim.Accepted)
    (podSmall : pod < sim.podCount)
    (inside : offset < sim.podWidth)
    {k : Nat}
    (small : k < sim.podWidth) :
    sim.interfacePeer (.leaf (pod * sim.podWidth + offset))
        (sim.hostCount (pod * sim.podWidth + offset) + 1 + k) =
      some (.spine (pod * sim.podWidth + k)) := by
  have number :
      sim.hostCount (pod * sim.podWidth + offset) + 1 + k =
        sim.hostCount (pod * sim.podWidth + offset) + k + 1 := by
    omega
  rw [number, interfacePeer, accepted.interfaces_leaf podSmall inside,
    List.getElem?_append_right (by simp)]
  simp [small]

theorem interfacePeer_spine
    (accepted : sim.Accepted)
    (podSmall : pod < sim.podCount)
    (inside : offset < sim.podWidth)
    {j : Nat}
    (small : j < sim.podWidth) :
    sim.interfacePeer (.spine (pod * sim.podWidth + offset)) (j + 1) =
      some (.leaf (pod * sim.podWidth + j)) := by
  rw [interfacePeer, accepted.interfaces_spine podSmall inside,
    List.getElem?_append_left (by simpa using small)]
  simp [small]

/-- The interfaces of a spine after those of its leaves. -/
theorem interfacePeer_spine_core
    (accepted : sim.Accepted)
    (podSmall : pod < sim.podCount)
    (inside : offset < sim.podWidth)
    {j : Nat}
    (small : j < sim.coresPerSpine) :
    sim.interfacePeer (.spine (pod * sim.podWidth + offset))
        (sim.podWidth + 1 + j) =
      some (.core (offset * sim.coresPerSpine + j)) := by
  have number : sim.podWidth + 1 + j = sim.podWidth + j + 1 := by
    omega
  rw [number, interfacePeer, accepted.interfaces_spine podSmall inside,
    List.getElem?_append_right (by simp)]
  simp [small]

theorem interfacePeer_core
    (accepted : sim.Accepted)
    (podSmall : pod < sim.podCount)
    {core : Nat}
    (present : core < sim.coreCount) :
    sim.interfacePeer (.core core) (pod + 1) =
      some (.spine (pod * sim.podWidth + core / sim.coresPerSpine)) := by
  rw [interfacePeer, accepted.interfaces_core present]
  simp [podSmall]

end Peers

section OneHop

variable {destination : Ipv4Address} {node : Node}

/-- An interface in a directly connected subnet of the destination. -/
def Links
    (sim : SimulationBase)
    (destination : Ipv4Address)
    (node : Node)
    (interface : Interface) :
    Prop :=
  interface ∈ sim.interfaces node ∧
    samePrefix 24 destination interface.address = true

/-- A network route that matches the destination. -/
def Matches
    (sim : SimulationBase)
    (destination : Ipv4Address)
    (node : Node)
    (route : Route) :
    Prop :=
  route ∈ sim.routes node ∧ route.isMatch destination = true

theorem mem_connected
    {peer : Node} :
    peer ∈ sim.connected node destination ↔
      ∃ interface, Links sim destination node interface ∧
        interface.peer = peer := by
  simp [connected, Links]

theorem mem_allRoutes
    {hop : Option Node} :
    hop ∈ sim.allRoutes node destination ↔
      ∃ route, Matches sim destination node route ∧
        sim.interfacePeer node route.interface = hop := by
  simp [allRoutes, Matches]

/-- The hops of a node lead on when those of each kind do. -/
theorem arrives_of_forward
    {goal : Node → Prop}
    {links : Nat}
    (notLoopback : isLoopback destination = false)
    (forwarded :
      (∃ interface, Links sim destination node interface) ∨
        ∃ route, Matches sim destination node route)
    (connectedOnward :
      ∀ interface, Links sim destination node interface →
        ArrivesWithin (sim.hops destination) goal links interface.peer)
    (routedOnward :
      ∀ route, Matches sim destination node route →
        ∃ next, sim.interfacePeer node route.interface = some next ∧
          ArrivesWithin (sim.hops destination) goal links next) :
    ArrivesWithin (sim.hops destination) goal (links + 1) node := by
  by_cases linked : sim.connected node destination = []
  · have hops :
        sim.hops destination node = sim.allRoutes node destination := by
      simp [hops, linked, notLoopback]
    have noLink (interface : Interface) :
        ¬ Links sim destination node interface := by
      intro links
      have member := mem_connected.mpr ⟨interface, links, rfl⟩
      rw [linked] at member
      exact absurd member List.not_mem_nil
    refine .step ?_ ?_
    · rw [hops]
      rcases forwarded with ⟨interface, links⟩ | ⟨route, isMatch⟩
      · exact absurd links (noLink interface)
      · exact List.ne_nil_of_mem (mem_allRoutes.mpr ⟨route, isMatch, rfl⟩)
    · intro hop member
      rw [hops, mem_allRoutes] at member
      obtain ⟨route, isMatch, rfl⟩ := member
      exact routedOnward route isMatch
  · have hops :
        sim.hops destination node =
          (sim.connected node destination).map some := by
      simp [hops, linked]
    refine .step ?_ ?_
    · rw [hops]
      exact fun none => linked (List.map_eq_nil_iff.mp none)
    · intro hop member
      rw [hops] at member
      obtain ⟨peer, isPeer, rfl⟩ := List.mem_map.mp member
      obtain ⟨interface, links, rfl⟩ := mem_connected.mp isPeer
      exact ⟨interface.peer, rfl, connectedOnward interface links⟩

end OneHop

/-! ## The subnets and routes of each kind of switch -/

section Switches

variable
  {destination : Ipv4Address}
  {pod offset : Nat}
  (onward : Node → Prop)

/-- What a leaf may do with a packet. -/
theorem leaf_onward
    (accepted : sim.Accepted)
    (podSmall : pod < sim.podCount)
    (inside : offset < sim.podWidth)
    (hosts :
      ∀ host < sim.hostCount (pod * sim.podWidth + offset),
        samePrefix 24 destination (ofOctets (pod + 1) offset host 2) =
          true →
        onward (.host (pod * sim.podWidth + offset) host))
    (spines :
      ∀ spine < sim.podWidth,
        samePrefix 24 destination
            (ofOctets (sim.podCount + pod + 1) spine offset 2) = true →
        onward (.spine (pod * sim.podWidth + spine)))
    {interface : Interface}
    (links :
      Links sim destination (.leaf (pod * sim.podWidth + offset))
        interface) :
    onward interface.peer := by
  obtain ⟨member, same⟩ := links
  rw [accepted.interfaces_leaf podSmall inside, List.mem_append] at member
  rcases member with member | member
  · obtain ⟨host, small, rfl⟩ := List.mem_map.mp member
    exact hosts host (List.mem_range.mp small) same
  · obtain ⟨spine, small, rfl⟩ := List.mem_map.mp member
    exact spines spine (List.mem_range.mp small) same

/-- What a spine may do with a packet. -/
theorem spine_onward
    (accepted : sim.Accepted)
    (podSmall : pod < sim.podCount)
    (inside : offset < sim.podWidth)
    (leaves :
      ∀ leaf < sim.podWidth,
        samePrefix 24 destination
            (ofOctets (sim.podCount + pod + 1) offset leaf 1) = true →
        onward (.leaf (pod * sim.podWidth + leaf)))
    (cores :
      ∀ core < sim.coresPerSpine,
        samePrefix 24 destination
            (ofOctets 255 (offset * sim.coresPerSpine + core) pod 2) =
          true →
        onward (.core (offset * sim.coresPerSpine + core)))
    {interface : Interface}
    (links :
      Links sim destination (.spine (pod * sim.podWidth + offset))
        interface) :
    onward interface.peer := by
  obtain ⟨member, same⟩ := links
  rw [accepted.interfaces_spine podSmall inside,
    List.mem_append] at member
  rcases member with member | member
  · obtain ⟨leaf, small, rfl⟩ := List.mem_map.mp member
    exact leaves leaf (List.mem_range.mp small) same
  · obtain ⟨core, small, rfl⟩ := List.mem_map.mp member
    exact cores core (List.mem_range.mp small) same

/-- What a core may do with a packet. -/
theorem core_onward
    (accepted : sim.Accepted)
    {core : Nat}
    (present : core < sim.coreCount)
    (spines :
      ∀ pod < sim.podCount,
        samePrefix 24 destination (ofOctets 255 core pod 1) = true →
        onward
          (.spine (pod * sim.podWidth + core / sim.coresPerSpine)))
    {interface : Interface}
    (links : Links sim destination (.core core) interface) :
    onward interface.peer := by
  obtain ⟨member, same⟩ := links
  rw [accepted.interfaces_core present] at member
  obtain ⟨pod, small, rfl⟩ := List.mem_map.mp member
  exact spines pod (List.mem_range.mp small) same

end Switches

/-! ## Destinations at a leaf -/

/-- A destination whose packets all pass through one leaf, or end there. -/
structure UnderLeaf
    (sim : SimulationBase)
    (destination : Ipv4Address)
    (pod offset : Nat) :
    Prop where
  notLoopback : isLoopback destination = false
  onNode :
    ∀ {pod' offset' interface}, pod' < sim.podCount →
      offset' < sim.podWidth →
      (nodeRoute pod' offset' interface).isMatch destination = true →
      pod' = pod ∧ offset' = offset
  onLeaf :
    ∀ {pod' offset' interface}, pod' < sim.podCount →
      offset' < sim.podWidth →
      (sim.leafRoute pod' offset' interface).isMatch destination = true →
      pod' = pod ∧ offset' = offset
  notSpine :
    ∀ {pod' offset' interface}, pod' < sim.podCount →
      ¬ (sim.spineRoute pod' offset' interface).isMatch destination = true
  notCore :
    ∀ {core interface},
      ¬ (coreRoute core interface).isMatch destination = true
  covered :
    (∀ interface,
        (nodeRoute pod offset interface).isMatch destination = true) ∨
      ∀ interface,
        (sim.leafRoute pod offset interface).isMatch destination = true
  hostSubnet :
    ∀ {pod' offset' host}, pod' < sim.podCount →
      offset' < sim.podWidth →
      samePrefix 24 destination (ofOctets (pod' + 1) offset' host 2) =
        true →
      pod' = pod ∧ offset' = offset
  leafSubnet :
    ∀ {pod' spine leaf last}, pod' < sim.podCount →
      leaf < sim.podWidth →
      samePrefix 24 destination
          (ofOctets (sim.podCount + pod' + 1) spine leaf last) = true →
      pod' = pod ∧ leaf = offset
  coreSubnet :
    ∀ {core pod' last},
      ¬ samePrefix 24 destination (ofOctets 255 core pod' last) = true

section Below

variable {pod offset : Nat}

theorem isLoopback_ofOctets
    {a b c d : Nat}
    (small : a ≤ 126 ∨ a = 255) :
    isLoopback (ofOctets a b c d) = false := by
  rw [isLoopback, samePrefix, decide_eq_false_iff_not, toNat_ofOctets,
    toNat_ofOctets]
  omega

theorem underLeaf_host
    (accepted : sim.Accepted)
    (fits : AddressPlan.Fits sim)
    (podSmall : pod < sim.podCount)
    (inside : offset < sim.podWidth)
    (host : Nat) :
    UnderLeaf sim (ofOctets (pod + 1) offset host 1) pod offset := by
  have pods := fits.pods
  have width := fits.width_le accepted podSmall
  constructor
  case notLoopback => exact isLoopback_ofOctets (Or.inl (by omega))
  case covered =>
    exact Or.inl fun _ => nodeRoute_isMatch.mpr ⟨rfl, rfl⟩
  all_goals
    intros
    simp only [nodeRoute_isMatch, leafRoute_isMatch, spineRoute_isMatch,
      coreRoute_isMatch, samePrefix_24_ofOctets] at *
    omega

theorem underLeaf_leaf
    (accepted : sim.Accepted)
    (fits : AddressPlan.Fits sim)
    (podSmall : pod < sim.podCount)
    (inside : offset < sim.podWidth) :
    UnderLeaf sim (ofOctets (sim.podCount + pod + 1) 0 offset 2) pod
      offset := by
  have pods := fits.pods
  have width := fits.width_le accepted podSmall
  constructor
  case notLoopback => exact isLoopback_ofOctets (Or.inl (by omega))
  case covered =>
    exact Or.inr fun _ => leafRoute_isMatch.mpr ⟨rfl, rfl, rfl⟩
  all_goals
    intros
    simp only [nodeRoute_isMatch, leafRoute_isMatch, spineRoute_isMatch,
      coreRoute_isMatch, samePrefix_24_ofOctets] at *
    omega

variable
  {destination : Ipv4Address}
  {goal : Node → Prop}
  {links : Nat}

/-- From a spine of the pod. -/
theorem UnderLeaf.arrives_nearSpine
    (accepted : sim.Accepted)
    (podSmall : pod < sim.podCount)
    (inside : offset < sim.podWidth)
    (under : UnderLeaf sim destination pod offset)
    (atLeaf :
      ArrivesWithin (sim.hops destination) goal links
        (.leaf (pod * sim.podWidth + offset)))
    {spine : Nat}
    (spineInside : spine < sim.podWidth) :
    ArrivesWithin (sim.hops destination) goal (links + 1)
      (.spine (pod * sim.podWidth + spine)) := by
  refine arrives_of_forward under.notLoopback (Or.inr ?_) ?_ ?_
  · rcases under.covered with node | leaf
    · exact
        ⟨_, (accepted.mem_spineRoutes_iff podSmall spineInside).mpr
          (.nearNode inside), node _⟩
    · exact
        ⟨_, (accepted.mem_spineRoutes_iff podSmall spineInside).mpr
          (.nearLeaf inside), leaf _⟩
  · intro interface linked
    refine
      spine_onward _ accepted podSmall spineInside ?_ ?_ linked
    · intro leaf leafInside same
      obtain ⟨_, rfl⟩ := under.leafSubnet podSmall leafInside same
      exact atLeaf
    · intro core _ same
      exact absurd same under.coreSubnet
  · rintro route ⟨member, isMatch⟩
    have form :=
      (accepted.mem_spineRoutes_iff podSmall spineInside).mp member
    cases form with
    | nearNode inside' =>
        obtain ⟨_, rfl⟩ := under.onNode podSmall inside' isMatch
        exact
          ⟨_, interfacePeer_spine accepted podSmall spineInside inside',
            atLeaf⟩
    | nearLeaf inside' =>
        obtain ⟨_, rfl⟩ := under.onLeaf podSmall inside' isMatch
        exact
          ⟨_, interfacePeer_spine accepted podSmall spineInside inside',
            atLeaf⟩
    | farNode podSmall' inside' different _ =>
        exact
          absurd (under.onNode podSmall' inside' isMatch).1 different
    | farLeaf podSmall' inside' different _ =>
        exact
          absurd (under.onLeaf podSmall' inside' isMatch).1 different
    | nearSpine _ _ _ => exact absurd isMatch (under.notSpine podSmall)
    | farSpine podSmall' _ _ _ =>
        exact absurd isMatch (under.notSpine podSmall')
    | core _ => exact absurd isMatch under.notCore

/-- From a core. -/
theorem UnderLeaf.arrives_core
    (accepted : sim.Accepted)
    (podSmall : pod < sim.podCount)
    (inside : offset < sim.podWidth)
    (under : UnderLeaf sim destination pod offset)
    (atLeaf :
      ArrivesWithin (sim.hops destination) goal links
        (.leaf (pod * sim.podWidth + offset)))
    {core : Nat}
    (present : core < sim.coreCount) :
    ArrivesWithin (sim.hops destination) goal (links + 2)
      (.core core) := by
  have atSpine :=
    under.arrives_nearSpine accepted podSmall inside atLeaf
      (accepted.spineOfCore_lt present)
  refine arrives_of_forward under.notLoopback (Or.inr ?_) ?_ ?_
  · rcases under.covered with node | leaf
    · exact
        ⟨_, accepted.mem_coreRoutes_iff.mpr (.node podSmall inside),
          node _⟩
    · exact
        ⟨_, accepted.mem_coreRoutes_iff.mpr (.leaf podSmall inside),
          leaf _⟩
  · intro interface linked
    refine
      core_onward _ accepted present ?_ linked
    intro pod' _ same
    exact absurd same under.coreSubnet
  · rintro route ⟨member, isMatch⟩
    cases accepted.mem_coreRoutes_iff.mp member with
    | node podSmall' inside' =>
        obtain ⟨rfl, _⟩ := under.onNode podSmall' inside' isMatch
        exact ⟨_, interfacePeer_core accepted podSmall present, atSpine⟩
    | spine podSmall' inside' =>
        exact absurd isMatch (under.notSpine podSmall')
    | leaf podSmall' inside' =>
        obtain ⟨rfl, _⟩ := under.onLeaf podSmall' inside' isMatch
        refine ⟨_, ?_, atSpine⟩
        rw [leafRoute, Nat.add_comm]
        exact interfacePeer_core accepted podSmall present

/-- From a spine of another pod. -/
theorem UnderLeaf.arrives_farSpine
    (accepted : sim.Accepted)
    (podSmall : pod < sim.podCount)
    (inside : offset < sim.podWidth)
    (under : UnderLeaf sim destination pod offset)
    (atLeaf :
      ArrivesWithin (sim.hops destination) goal links
        (.leaf (pod * sim.podWidth + offset)))
    (above : 0 < sim.coresPerSpine)
    {other spine : Nat}
    (otherSmall : other < sim.podCount)
    (spineInside : spine < sim.podWidth)
    (different : other ≠ pod) :
    ArrivesWithin (sim.hops destination) goal (links + 3)
      (.spine (other * sim.podWidth + spine)) := by
  have atCore {core : Nat} (small : core < sim.coresPerSpine) :=
    under.arrives_core accepted podSmall inside atLeaf
      (accepted.core_lt spineInside small)
  refine arrives_of_forward under.notLoopback (Or.inr ?_) ?_ ?_
  · rcases under.covered with node | leaf
    · exact
        ⟨_, (accepted.mem_spineRoutes_iff otherSmall spineInside).mpr
          (.farNode podSmall inside (Ne.symm different) above), node _⟩
    · exact
        ⟨_, (accepted.mem_spineRoutes_iff otherSmall spineInside).mpr
          (.farLeaf podSmall inside (Ne.symm different) above), leaf _⟩
  · intro interface linked
    refine spine_onward _ accepted otherSmall spineInside ?_ ?_ linked
    · intro leaf leafInside same
      exact
        absurd (under.leafSubnet otherSmall leafInside same).1 different
    · intro core _ same
      exact absurd same under.coreSubnet
  · rintro route ⟨member, isMatch⟩
    have form :=
      (accepted.mem_spineRoutes_iff otherSmall spineInside).mp member
    cases form with
    | nearNode inside' =>
        exact
          absurd (under.onNode otherSmall inside' isMatch).1 different
    | nearLeaf inside' =>
        exact
          absurd (under.onLeaf otherSmall inside' isMatch).1 different
    | farNode _ _ _ small =>
        exact
          ⟨_, interfacePeer_spine_core accepted otherSmall spineInside
            small, atCore small⟩
    | farLeaf _ _ _ small =>
        exact
          ⟨_, interfacePeer_spine_core accepted otherSmall spineInside
            small, atCore small⟩
    | nearSpine _ _ _ =>
        exact absurd isMatch (under.notSpine otherSmall)
    | farSpine podSmall' _ _ _ =>
        exact absurd isMatch (under.notSpine podSmall')
    | core _ => exact absurd isMatch under.notCore

/-- From any other leaf. -/
theorem UnderLeaf.arrives_otherLeaf
    (accepted : sim.Accepted)
    (podSmall : pod < sim.podCount)
    (inside : offset < sim.podWidth)
    (under : UnderLeaf sim destination pod offset)
    (atLeaf :
      ArrivesWithin (sim.hops destination) goal links
        (.leaf (pod * sim.podWidth + offset)))
    (crossing : sim.podCount = 1 ∨ 1 ≤ sim.coreCount)
    {other leaf : Nat}
    (otherSmall : other < sim.podCount)
    (leafInside : leaf < sim.podWidth)
    (different : ¬ (offset = leaf ∧ pod = other)) :
    ArrivesWithin (sim.hops destination) goal (links + 4)
      (.leaf (other * sim.podWidth + leaf)) := by
  have atSpine {spine : Nat} (spineInside : spine < sim.podWidth) :
      ArrivesWithin (sim.hops destination) goal (links + 3)
        (.spine (other * sim.podWidth + spine)) := by
    by_cases samePod : other = pod
    · subst samePod
      exact
        (under.arrives_nearSpine accepted podSmall inside atLeaf
          spineInside).mono (by omega)
    · have above := accepted.coresPerSpine_pos (by omega)
      exact
        under.arrives_farSpine accepted podSmall inside atLeaf above
          otherSmall spineInside samePod
  refine arrives_of_forward under.notLoopback (Or.inr ?_) ?_ ?_
  · have wide := accepted.podWidth_pos
    rcases under.covered with node | leaf
    · exact
        ⟨_, (accepted.mem_leafRoutes_iff otherSmall leafInside).mpr
          (.node podSmall inside different wide), node _⟩
    · exact
        ⟨_, (accepted.mem_leafRoutes_iff otherSmall leafInside).mpr
          (.leaf podSmall inside different wide), leaf _⟩
  · intro interface linked
    refine leaf_onward _ accepted otherSmall leafInside ?_ ?_ linked
    · intro host _ same
      obtain ⟨rfl, rfl⟩ := under.hostSubnet otherSmall leafInside same
      exact absurd ⟨rfl, rfl⟩ different
    · intro spine _ same
      obtain ⟨rfl, rfl⟩ := under.leafSubnet otherSmall leafInside same
      exact absurd ⟨rfl, rfl⟩ different
  · rintro route ⟨member, isMatch⟩
    have form :=
      (accepted.mem_leafRoutes_iff otherSmall leafInside).mp member
    cases form with
    | node _ _ _ small =>
        exact
          ⟨_, interfacePeer_leaf accepted otherSmall leafInside small,
            atSpine small⟩
    | leaf _ _ _ small =>
        exact
          ⟨_, interfacePeer_leaf accepted otherSmall leafInside small,
            atSpine small⟩
    | nearSpine _ => exact absurd isMatch (under.notSpine otherSmall)
    | farSpine podSmall' _ _ _ =>
        exact absurd isMatch (under.notSpine podSmall')
    | core _ => exact absurd isMatch under.notCore

/-- From any leaf, given that the leaf of the destination delivers. -/
theorem UnderLeaf.arrives
    (accepted : sim.Accepted)
    (podSmall : pod < sim.podCount)
    (inside : offset < sim.podWidth)
    (under : UnderLeaf sim destination pod offset)
    (atLeaf :
      ArrivesWithin (sim.hops destination) goal 1
        (.leaf (pod * sim.podWidth + offset)))
    (crossing : sim.podCount = 1 ∨ 1 ≤ sim.coreCount)
    {leaf : Nat}
    (present : leaf < sim.leafCount) :
    ArrivesWithin (sim.hops destination) goal 5 (.leaf leaf) := by
  obtain ⟨other, otherSmall, offset', inside', rfl⟩ :=
    accepted.exists_member present
  by_cases same : offset = offset' ∧ pod = other
  · obtain ⟨rfl, rfl⟩ := same
    exact atLeaf.mono (by decide)
  · exact
      under.arrives_otherLeaf accepted podSmall inside atLeaf crossing
        otherSmall inside' same

/-- The leaf of a host delivers to it. -/
theorem arrives_ownHost
    (accepted : sim.Accepted)
    (fits : AddressPlan.Fits sim)
    (podSmall : pod < sim.podCount)
    (inside : offset < sim.podWidth)
    {host : Nat}
    (present : host < sim.hostCount (pod * sim.podWidth + offset)) :
    ArrivesWithin (sim.hops (ofOctets (pod + 1) offset host 1))
      (fun node => node = .host (pod * sim.podWidth + offset) host) 1
      (.leaf (pod * sim.podWidth + offset)) := by
  have under := underLeaf_host accepted fits podSmall inside host
  have pods := fits.pods
  have hosts :=
    accepted.hostCount_le _ (accepted.member_lt podSmall inside)
  refine arrives_of_forward under.notLoopback (Or.inl ?_) ?_ ?_
  · refine
      ⟨{ owner := .leaf (pod * sim.podWidth + offset)
         address := ofOctets (pod + 1) offset host 2
         peer := .host (pod * sim.podWidth + offset) host }, ?_, ?_⟩
    · rw [accepted.interfaces_leaf podSmall inside]
      exact
        List.mem_append_left _
          (List.mem_map.mpr ⟨host, List.mem_range.mpr present, rfl⟩)
    · exact samePrefix_24_ofOctets.mpr ⟨rfl, rfl, rfl⟩
  · intro interface linked
    refine leaf_onward _ accepted podSmall inside ?_ ?_ linked
    · intro host' present' same
      have sameHost := samePrefix_24_ofOctets.mp same
      have equal : host' = host := by omega
      subst equal
      refine .here ?_ 0
      rfl
    · intro spine _ same
      have sameBlock := samePrefix_24_ofOctets.mp same
      omega
  · rintro route ⟨member, isMatch⟩
    have form := (accepted.mem_leafRoutes_iff podSmall inside).mp member
    cases form with
    | node podSmall' inside' different _ =>
        obtain ⟨rfl, rfl⟩ := under.onNode podSmall' inside' isMatch
        exact absurd ⟨rfl, rfl⟩ different
    | leaf podSmall' inside' different _ =>
        obtain ⟨rfl, rfl⟩ := under.onLeaf podSmall' inside' isMatch
        exact absurd ⟨rfl, rfl⟩ different
    | nearSpine _ => exact absurd isMatch (under.notSpine podSmall)
    | farSpine podSmall' _ _ _ =>
        exact absurd isMatch (under.notSpine podSmall')
    | core _ => exact absurd isMatch under.notCore

end Below

/-! ## Destinations at a spine -/

/-- The address of a spine matches the routes to it and nothing else. -/
structure OnlySpine
    (sim : SimulationBase)
    (destination : Ipv4Address)
    (pod offset : Nat) :
    Prop where
  notLoopback : isLoopback destination = false
  onSpine :
    ∀ {pod' offset' interface}, pod' < sim.podCount →
      offset' < sim.podWidth →
      (sim.spineRoute pod' offset' interface).isMatch destination =
        true →
      pod' = pod ∧ offset' = offset
  covered :
    ∀ interface,
      (sim.spineRoute pod offset interface).isMatch destination = true
  notNode :
    ∀ {pod' offset' interface}, pod' < sim.podCount →
      ¬ (nodeRoute pod' offset' interface).isMatch destination = true
  notLeaf :
    ∀ {pod' offset' interface}, pod' < sim.podCount →
      ¬ (sim.leafRoute pod' offset' interface).isMatch destination = true
  notCore :
    ∀ {core interface},
      ¬ (coreRoute core interface).isMatch destination = true
  noHostSubnet :
    ∀ {pod' offset' host last}, pod' < sim.podCount →
      ¬ samePrefix 24 destination (ofOctets (pod' + 1) offset' host last) =
        true
  noLeafSubnet :
    ∀ {pod' spine leaf last}, pod' < sim.podCount →
      ¬ samePrefix 24 destination
          (ofOctets (sim.podCount + pod' + 1) spine leaf last) =
        true
  noCoreSubnet :
    ∀ {core pod' last},
      ¬ samePrefix 24 destination (ofOctets 255 core pod' last) = true

section AtSpine

variable {pod offset : Nat}

theorem onlySpine
    (accepted : sim.Accepted)
    (fits : AddressPlan.Fits sim)
    (podSmall : pod < sim.podCount)
    (inside : offset < sim.podWidth) :
    OnlySpine sim (ofOctets (2 * sim.podCount + pod + 1) offset 0 1) pod
      offset := by
  have pods := fits.pods
  have width := fits.width_le accepted podSmall
  constructor
  case notLoopback => exact isLoopback_ofOctets (Or.inl (by omega))
  case covered => exact fun _ => spineRoute_isMatch.mpr ⟨rfl, rfl, rfl⟩
  all_goals
    intros
    simp only [nodeRoute_isMatch, leafRoute_isMatch, spineRoute_isMatch,
      coreRoute_isMatch, samePrefix_24_ofOctets] at *
    omega

variable {destination : Ipv4Address}

/-- A leaf of the pod has a link to the spine. -/
theorem OnlySpine.arrives_nearLeaf
    (accepted : sim.Accepted)
    (podSmall : pod < sim.podCount)
    (inside : offset < sim.podWidth)
    (only : OnlySpine sim destination pod offset)
    {leaf : Nat}
    (leafInside : leaf < sim.podWidth) :
    ArrivesWithin (sim.hops destination)
      (fun node => node = .spine (pod * sim.podWidth + offset)) 1
      (.leaf (pod * sim.podWidth + leaf)) := by
  refine arrives_of_forward only.notLoopback (Or.inr ?_) ?_ ?_
  · exact
      ⟨_, (accepted.mem_leafRoutes_iff podSmall leafInside).mpr
        (.nearSpine inside), only.covered _⟩
  · intro interface linked
    refine leaf_onward _ accepted podSmall leafInside ?_ ?_ linked
    · intro host _ same
      exact absurd same (only.noHostSubnet podSmall)
    · intro spine _ same
      exact absurd same (only.noLeafSubnet podSmall)
  · rintro route ⟨member, isMatch⟩
    have form :=
      (accepted.mem_leafRoutes_iff podSmall leafInside).mp member
    cases form with
    | node podSmall' _ _ _ =>
        exact absurd isMatch (only.notNode podSmall')
    | leaf podSmall' _ _ _ =>
        exact absurd isMatch (only.notLeaf podSmall')
    | nearSpine inside' =>
        obtain ⟨_, rfl⟩ := only.onSpine podSmall inside' isMatch
        refine
          ⟨_, interfacePeer_leaf accepted podSmall leafInside inside',
            .here ?_ 0⟩
        rfl
    | farSpine podSmall' inside' different _ =>
        exact
          absurd (only.onSpine podSmall' inside' isMatch).1 different
    | core _ => exact absurd isMatch only.notCore

/-- Another spine of the pod goes back down to any leaf. -/
theorem OnlySpine.arrives_nearSpine
    (accepted : sim.Accepted)
    (podSmall : pod < sim.podCount)
    (inside : offset < sim.podWidth)
    (only : OnlySpine sim destination pod offset)
    {spine : Nat}
    (spineInside : spine < sim.podWidth) :
    ArrivesWithin (sim.hops destination)
      (fun node => node = .spine (pod * sim.podWidth + offset)) 2
      (.spine (pod * sim.podWidth + spine)) := by
  by_cases self : offset = spine
  · subst self
    refine .here ?_ 2
    rfl
  have atLeaf {leaf : Nat} (leafInside : leaf < sim.podWidth) :=
    only.arrives_nearLeaf accepted podSmall inside leafInside
  refine arrives_of_forward only.notLoopback (Or.inr ?_) ?_ ?_
  · exact
      ⟨_, (accepted.mem_spineRoutes_iff podSmall spineInside).mpr
        (.nearSpine inside self accepted.podWidth_pos), only.covered _⟩
  · intro interface linked
    refine spine_onward _ accepted podSmall spineInside ?_ ?_ linked
    · intro leaf _ same
      exact absurd same (only.noLeafSubnet podSmall)
    · intro core _ same
      exact absurd same only.noCoreSubnet
  · rintro route ⟨member, isMatch⟩
    have form :=
      (accepted.mem_spineRoutes_iff podSmall spineInside).mp member
    cases form with
    | nearNode _ => exact absurd isMatch (only.notNode podSmall)
    | nearLeaf _ => exact absurd isMatch (only.notLeaf podSmall)
    | farNode podSmall' _ _ _ =>
        exact absurd isMatch (only.notNode podSmall')
    | farLeaf podSmall' _ _ _ =>
        exact absurd isMatch (only.notLeaf podSmall')
    | @nearSpine _ j _ _ small =>
        refine ⟨_, ?_, atLeaf small⟩
        rw [spineRoute, Nat.add_comm 1 j]
        exact interfacePeer_spine accepted podSmall spineInside small
    | farSpine podSmall' inside' different _ =>
        exact
          absurd (only.onSpine podSmall' inside' isMatch).1 different
    | core _ => exact absurd isMatch only.notCore

/-- A core has a link to one spine of the pod. -/
theorem OnlySpine.arrives_core
    (accepted : sim.Accepted)
    (podSmall : pod < sim.podCount)
    (inside : offset < sim.podWidth)
    (only : OnlySpine sim destination pod offset)
    {core : Nat}
    (present : core < sim.coreCount) :
    ArrivesWithin (sim.hops destination)
      (fun node => node = .spine (pod * sim.podWidth + offset)) 3
      (.core core) := by
  have atSpine :=
    only.arrives_nearSpine accepted podSmall inside
      (accepted.spineOfCore_lt present)
  refine arrives_of_forward only.notLoopback (Or.inr ?_) ?_ ?_
  · exact
      ⟨_, accepted.mem_coreRoutes_iff.mpr (.spine podSmall inside),
        only.covered _⟩
  · intro interface linked
    refine core_onward _ accepted present ?_ linked
    intro pod' _ same
    exact absurd same only.noCoreSubnet
  · rintro route ⟨member, isMatch⟩
    cases accepted.mem_coreRoutes_iff.mp member with
    | node podSmall' _ => exact absurd isMatch (only.notNode podSmall')
    | spine podSmall' inside' =>
        obtain ⟨rfl, _⟩ := only.onSpine podSmall' inside' isMatch
        exact ⟨_, interfacePeer_core accepted podSmall present, atSpine⟩
    | leaf podSmall' _ => exact absurd isMatch (only.notLeaf podSmall')

/-- A spine of another pod goes up. -/
theorem OnlySpine.arrives_farSpine
    (accepted : sim.Accepted)
    (podSmall : pod < sim.podCount)
    (inside : offset < sim.podWidth)
    (only : OnlySpine sim destination pod offset)
    (above : 0 < sim.coresPerSpine)
    {other spine : Nat}
    (otherSmall : other < sim.podCount)
    (spineInside : spine < sim.podWidth)
    (different : pod ≠ other) :
    ArrivesWithin (sim.hops destination)
      (fun node => node = .spine (pod * sim.podWidth + offset)) 4
      (.spine (other * sim.podWidth + spine)) := by
  have atCore {core : Nat} (small : core < sim.coresPerSpine) :=
    only.arrives_core accepted podSmall inside
      (accepted.core_lt spineInside small)
  refine arrives_of_forward only.notLoopback (Or.inr ?_) ?_ ?_
  · exact
      ⟨_, (accepted.mem_spineRoutes_iff otherSmall spineInside).mpr
        (.farSpine podSmall inside different above), only.covered _⟩
  · intro interface linked
    refine spine_onward _ accepted otherSmall spineInside ?_ ?_ linked
    · intro leaf _ same
      exact absurd same (only.noLeafSubnet otherSmall)
    · intro core _ same
      exact absurd same only.noCoreSubnet
  · rintro route ⟨member, isMatch⟩
    have form :=
      (accepted.mem_spineRoutes_iff otherSmall spineInside).mp member
    cases form with
    | nearNode _ => exact absurd isMatch (only.notNode otherSmall)
    | nearLeaf _ => exact absurd isMatch (only.notLeaf otherSmall)
    | farNode podSmall' _ _ _ =>
        exact absurd isMatch (only.notNode podSmall')
    | farLeaf podSmall' _ _ _ =>
        exact absurd isMatch (only.notLeaf podSmall')
    | nearSpine inside' _ _ =>
        obtain ⟨rfl, _⟩ := only.onSpine otherSmall inside' isMatch
        exact absurd rfl different
    | farSpine _ _ _ small =>
        exact
          ⟨_, interfacePeer_spine_core accepted otherSmall spineInside
            small, atCore small⟩
    | core _ => exact absurd isMatch only.notCore

/-- From any leaf to a spine. -/
theorem OnlySpine.arrives
    (accepted : sim.Accepted)
    (podSmall : pod < sim.podCount)
    (inside : offset < sim.podWidth)
    (only : OnlySpine sim destination pod offset)
    (crossing : sim.podCount = 1 ∨ 1 ≤ sim.coreCount)
    {leaf : Nat}
    (present : leaf < sim.leafCount) :
    ArrivesWithin (sim.hops destination)
      (fun node => node = .spine (pod * sim.podWidth + offset)) 5
      (.leaf leaf) := by
  obtain ⟨other, otherSmall, offset', inside', rfl⟩ :=
    accepted.exists_member present
  by_cases samePod : pod = other
  · subst samePod
    exact
      (only.arrives_nearLeaf accepted podSmall inside inside').mono
        (by decide)
  have above := accepted.coresPerSpine_pos (by omega)
  have atSpine {spine : Nat} (spineInside : spine < sim.podWidth) :=
    only.arrives_farSpine accepted podSmall inside above otherSmall
      spineInside samePod
  refine arrives_of_forward only.notLoopback (Or.inr ?_) ?_ ?_
  · exact
      ⟨_, (accepted.mem_leafRoutes_iff otherSmall inside').mpr
        (.farSpine podSmall inside samePod accepted.podWidth_pos),
        only.covered _⟩
  · intro interface linked
    refine leaf_onward _ accepted otherSmall inside' ?_ ?_ linked
    · intro host _ same
      exact absurd same (only.noHostSubnet otherSmall)
    · intro spine _ same
      exact absurd same (only.noLeafSubnet otherSmall)
  · rintro route ⟨member, isMatch⟩
    have form := (accepted.mem_leafRoutes_iff otherSmall inside').mp member
    cases form with
    | node podSmall' _ _ _ =>
        exact absurd isMatch (only.notNode podSmall')
    | leaf podSmall' _ _ _ =>
        exact absurd isMatch (only.notLeaf podSmall')
    | nearSpine inside'' =>
        obtain ⟨rfl, _⟩ := only.onSpine otherSmall inside'' isMatch
        exact absurd rfl samePod
    | farSpine _ _ _ small =>
        exact
          ⟨_, interfacePeer_leaf accepted otherSmall inside' small,
            atSpine small⟩
    | core _ => exact absurd isMatch only.notCore

end AtSpine

/-! ## Destinations at a core -/

/-- The address of a core matches the routes and subnets of that core. -/
structure OnlyCore
    (sim : SimulationBase)
    (destination : Ipv4Address)
    (core : Nat) :
    Prop where
  notLoopback : isLoopback destination = false
  onCore :
    ∀ {core' interface}, core' < sim.coreCount →
      (coreRoute core' interface).isMatch destination = true →
      core' = core
  covered :
    ∀ interface, (coreRoute core interface).isMatch destination = true
  notNode :
    ∀ {pod offset interface}, pod < sim.podCount →
      ¬ (nodeRoute pod offset interface).isMatch destination = true
  notLeaf :
    ∀ {pod offset interface}, pod < sim.podCount →
      ¬ (sim.leafRoute pod offset interface).isMatch destination = true
  notSpine :
    ∀ {pod offset interface}, pod < sim.podCount →
      ¬ (sim.spineRoute pod offset interface).isMatch destination = true
  noHostSubnet :
    ∀ {pod offset host last}, pod < sim.podCount →
      ¬ samePrefix 24 destination (ofOctets (pod + 1) offset host last) =
        true
  noLeafSubnet :
    ∀ {pod spine leaf last}, pod < sim.podCount →
      ¬ samePrefix 24 destination
          (ofOctets (sim.podCount + pod + 1) spine leaf last) =
        true
  coreSubnet :
    ∀ {core' pod last}, core' < sim.coreCount →
      samePrefix 24 destination (ofOctets 255 core' pod last) = true →
      core' = core

section AtCore

variable {core : Nat}

theorem onlyCore
    (fits : AddressPlan.Fits sim)
    (present : core < sim.coreCount) :
    OnlyCore sim (ofOctets 255 core 0 1) core := by
  have pods := fits.pods
  have cores := fits.cores
  constructor
  case notLoopback => exact isLoopback_ofOctets (Or.inr rfl)
  case covered => exact fun _ => coreRoute_isMatch.mpr ⟨rfl, rfl, rfl⟩
  all_goals
    intros
    simp only [nodeRoute_isMatch, leafRoute_isMatch, spineRoute_isMatch,
      coreRoute_isMatch, samePrefix_24_ofOctets] at *
    omega

variable {destination : Ipv4Address}

/-- The spine below the core has a link to it. -/
theorem OnlyCore.arrives_spine
    (accepted : sim.Accepted)
    (present : core < sim.coreCount)
    (only : OnlyCore sim destination core)
    {pod : Nat}
    (podSmall : pod < sim.podCount) :
    ArrivesWithin (sim.hops destination) (fun node => node = .core core) 1
      (.spine (pod * sim.podWidth + core / sim.coresPerSpine)) := by
  have inside := accepted.spineOfCore_lt present
  have above := accepted.coresPerSpine_pos (by omega)
  have small : core % sim.coresPerSpine < sim.coresPerSpine :=
    Nat.mod_lt core above
  have rebuilt :
      core / sim.coresPerSpine * sim.coresPerSpine +
        core % sim.coresPerSpine = core :=
    Nat.div_add_mod' core sim.coresPerSpine
  have covered :=
    only.covered (sim.podWidth + 1 + core % sim.coresPerSpine)
  refine arrives_of_forward only.notLoopback (Or.inr ?_) ?_ ?_
  · have form :
        SpineTable sim pod (core / sim.coresPerSpine)
          (coreRoute
            (core / sim.coresPerSpine * sim.coresPerSpine +
              core % sim.coresPerSpine)
            (sim.podWidth + 1 + core % sim.coresPerSpine)) :=
      .core small
    rw [rebuilt] at form
    exact
      ⟨_, (accepted.mem_spineRoutes_iff podSmall inside).mpr form,
        covered⟩
  · intro interface linked
    refine spine_onward _ accepted podSmall inside ?_ ?_ linked
    · intro leaf _ same
      exact absurd same (only.noLeafSubnet podSmall)
    · intro index small' same
      refine .here ?_ 0
      rw [only.coreSubnet (accepted.core_lt inside small') same]
  · rintro route ⟨member, isMatch⟩
    have form := (accepted.mem_spineRoutes_iff podSmall inside).mp member
    cases form with
    | nearNode _ => exact absurd isMatch (only.notNode podSmall)
    | nearLeaf _ => exact absurd isMatch (only.notLeaf podSmall)
    | farNode podSmall' _ _ _ =>
        exact absurd isMatch (only.notNode podSmall')
    | farLeaf podSmall' _ _ _ =>
        exact absurd isMatch (only.notLeaf podSmall')
    | nearSpine _ _ _ => exact absurd isMatch (only.notSpine podSmall)
    | farSpine podSmall' _ _ _ =>
        exact absurd isMatch (only.notSpine podSmall')
    | core small' =>
        refine
          ⟨_, interfacePeer_spine_core accepted podSmall inside small',
            .here ?_ 0⟩
        rw [only.onCore (accepted.core_lt inside small') isMatch]

/-- From any leaf to a core. -/
theorem OnlyCore.arrives
    (accepted : sim.Accepted)
    (present : core < sim.coreCount)
    (only : OnlyCore sim destination core)
    {leaf : Nat}
    (leafPresent : leaf < sim.leafCount) :
    ArrivesWithin (sim.hops destination) (fun node => node = .core core) 2
      (.leaf leaf) := by
  obtain ⟨pod, podSmall, offset, inside, rfl⟩ :=
    accepted.exists_member leafPresent
  have atSpine := only.arrives_spine accepted present podSmall
  have below := accepted.spineOfCore_lt present
  refine arrives_of_forward only.notLoopback (Or.inr ?_) ?_ ?_
  · exact
      ⟨_, (accepted.mem_leafRoutes_iff podSmall inside).mpr
        (.core present), only.covered _⟩
  · intro interface linked
    refine leaf_onward _ accepted podSmall inside ?_ ?_ linked
    · intro host _ same
      exact absurd same (only.noHostSubnet podSmall)
    · intro spine _ same
      exact absurd same (only.noLeafSubnet podSmall)
  · rintro route ⟨member, isMatch⟩
    have form := (accepted.mem_leafRoutes_iff podSmall inside).mp member
    cases form with
    | node podSmall' _ _ _ =>
        exact absurd isMatch (only.notNode podSmall')
    | leaf podSmall' _ _ _ =>
        exact absurd isMatch (only.notLeaf podSmall')
    | nearSpine _ => exact absurd isMatch (only.notSpine podSmall)
    | farSpine podSmall' _ _ _ =>
        exact absurd isMatch (only.notSpine podSmall')
    | core present' =>
        have same := only.onCore present' isMatch
        subst same
        exact
          ⟨_, interfacePeer_leaf accepted podSmall inside below, atSpine⟩

end AtCore

/-! ## All destinations -/

/-- No other node has its address in the subnet of a host. -/
theorem not_samePrefix_host
    (accepted : sim.Accepted)
    (fits : AddressPlan.Fits sim)
    {leaf host : Nat}
    (present : sim.HasNode (.host leaf host))
    {target : Node}
    (targetPresent : sim.HasNode target)
    (elsewhere : target ≠ .host leaf host) :
    ¬ samePrefix 24 (sim.nodeAddress target)
        (sim.hostAddress leaf host) = true := by
  obtain ⟨leafPresent, hostSmall⟩ := present
  obtain ⟨pod, podSmall, offset, inside, rfl⟩ :=
    accepted.exists_member leafPresent
  have pods := fits.pods
  have width := fits.width_le accepted podSmall
  have hosts := accepted.hostCount_le _ leafPresent
  rw [hostAddress, block_div inside, block_mod inside,
    IpUtils.getNodePhysicalAddress_octets]
  cases target with
  | host leaf' host' =>
      obtain ⟨leafPresent', hostSmall'⟩ := targetPresent
      have hosts' := accepted.hostCount_le _ leafPresent'
      obtain ⟨pod', podSmall', offset', inside', rfl⟩ :=
        accepted.exists_member leafPresent'
      rw [nodeAddress, hostAddress, block_div inside', block_mod inside',
        IpUtils.getNodePhysicalAddress_octets, samePrefix_24_ofOctets]
      intro same
      obtain ⟨rfl, rfl, rfl⟩ :
          pod' = pod ∧ offset' = offset ∧ host' = host := by
        omega
      exact elsewhere rfl
  | leaf leaf' =>
      obtain ⟨pod', podSmall', offset', inside', rfl⟩ :=
        accepted.exists_member targetPresent
      rw [nodeAddress, block_div inside', block_mod inside',
        IpUtils.getLeafAddress_octets, samePrefix_24_ofOctets]
      omega
  | spine spine =>
      obtain ⟨pod', podSmall', offset', inside', rfl⟩ :=
        accepted.exists_member targetPresent
      rw [nodeAddress, block_div inside', block_mod inside',
        IpUtils.getSpineFromLeafAddress_octets, samePrefix_24_ofOctets]
      omega
  | core core =>
      rw [nodeAddress, IpUtils.getCoreAddress_octets,
        samePrefix_24_ofOctets]
      omega

/-- A host hands everything to its leaf that is not for itself. -/
theorem hops_host
    (accepted : sim.Accepted)
    (fits : AddressPlan.Fits sim)
    {leaf host : Nat}
    (present : sim.HasNode (.host leaf host))
    {target : Node}
    (targetPresent : sim.HasNode target)
    (elsewhere : target ≠ .host leaf host) :
    sim.hops (sim.nodeAddress target) (.host leaf host) =
      [some (.leaf leaf)] := by
  have interfaces := accepted.interfaces_host present
  have apart :=
    not_samePrefix_host accepted fits present targetPresent elsewhere
  have notLoopback : isLoopback (sim.nodeAddress target) = false := by
    obtain ⟨a, b, c, d, spells, address⟩ :=
      AddressPlan.spells_nodeAddress accepted targetPresent
    rw [address]
    exact isLoopback_ofOctets (spells.firstOctet fits)
  have noLink :
      sim.connected (.host leaf host) (sim.nodeAddress target) = [] := by
    simp [connected, interfaces, apart]
  have default :
      sim.allRoutes (.host leaf host) (sim.nodeAddress target) =
        [some (.leaf leaf)] := by
    simp [allRoutes, routes, hostRoutes, Route.isMatch, samePrefix_zero,
      interfacePeer, interfaces]
  simp [hops, noLink, notLoopback, default]

/-- From any leaf to any node. -/
theorem arrivesWithin_five
    (accepted : sim.Accepted)
    (fits : AddressPlan.Fits sim)
    (crossing : sim.podCount = 1 ∨ 1 ≤ sim.coreCount)
    {leaf : Nat}
    {target : Node}
    (leafPresent : leaf < sim.leafCount)
    (targetPresent : sim.HasNode target) :
    ArrivesWithin (sim.hops (sim.nodeAddress target))
      (fun node => node = target) 5 (.leaf leaf) := by
  cases target with
  | host leaf' host =>
      obtain ⟨targetLeaf, hostSmall⟩ := targetPresent
      obtain ⟨pod, podSmall, offset, inside, rfl⟩ :=
        accepted.exists_member targetLeaf
      have under := underLeaf_host accepted fits podSmall inside host
      have atLeaf :=
        arrives_ownHost accepted fits podSmall inside hostSmall
      rw [nodeAddress, hostAddress, block_div inside, block_mod inside,
        IpUtils.getNodePhysicalAddress_octets]
      exact
        under.arrives accepted podSmall inside atLeaf crossing leafPresent
  | leaf leaf' =>
      obtain ⟨pod, podSmall, offset, inside, rfl⟩ :=
        accepted.exists_member targetPresent
      have under := underLeaf_leaf accepted fits podSmall inside
      rw [nodeAddress, block_div inside, block_mod inside,
        IpUtils.getLeafAddress_octets]
      refine
        under.arrives accepted podSmall inside (.here ?_ 1) crossing
          leafPresent
      rfl
  | spine spine =>
      obtain ⟨pod, podSmall, offset, inside, rfl⟩ :=
        accepted.exists_member targetPresent
      have only := onlySpine accepted fits podSmall inside
      rw [nodeAddress, block_div inside, block_mod inside,
        IpUtils.getSpineFromLeafAddress_octets]
      exact only.arrives accepted podSmall inside crossing leafPresent
  | core core =>
      have only := onlyCore fits targetPresent
      rw [nodeAddress, IpUtils.getCoreAddress_octets]
      exact
        (only.arrives accepted targetPresent leafPresent).mono (by decide)

/--
From any leaf, a packet for any node arrives there within five links, whichever
matching routes are taken; and a host has no way but to its leaf.
-/
theorem forwarding_complete
    (accepted : sim.Accepted)
    (fits : AddressPlan.Fits sim)
    (crossing : sim.podCount = 1 ∨ 1 ≤ sim.coreCount)
    {leaf : Nat}
    {target : Node}
    (leafPresent : leaf < sim.leafCount)
    (targetPresent : sim.HasNode target) :
    ArrivesWithin (sim.hops (sim.nodeAddress target))
        (fun node => node = target) 5 (.leaf leaf) ∧
      ∀ host < sim.hostCount leaf, target ≠ .host leaf host →
        sim.hops (sim.nodeAddress target) (.host leaf host) =
          [some (.leaf leaf)] := by
  refine ⟨?_, ?_⟩
  · exact
      arrivesWithin_five accepted fits crossing leafPresent targetPresent
  · intro host small elsewhere
    exact
      hops_host accepted fits ⟨leafPresent, small⟩ targetPresent elsewhere

/-- Two pods of two leaves, with one host below each leaf and two cores. -/
def twoPods : SimulationBase where
  simParameters :=
    { simMode := .switchV2P
      networkTopology := .fattree
      numOfPorts := 8
      numOfCore := 2
      podWidth := 2
      gatewayLeaves := []
      randomRouting := true
      gatewayPerFlowLoadBalancing := false
      udpMode := true }
  hostCounts := [1, 1, 1, 1]
  gws := []

theorem accepted_twoPods : twoPods.Accepted where
  podWidth_ne_zero := by decide
  ports := by decide
  podWidth_le := by decide
  closLeaves := by decide
  fullPods := by decide
  coresDivide := by decide
  podCount_le := by decide
  octetFits := by decide
  hostCount_le := by decide

theorem fits_twoPods : AddressPlan.Fits twoPods where
  pods := by decide
  cores := by decide
  width := by decide

/-- From leaf 0 of the first pod to the second spine of the other. -/
theorem forwarding_complete_twoPods :
    ArrivesWithin (twoPods.hops (twoPods.nodeAddress (.spine 3)))
        (fun node => node = .spine 3) 5 (.leaf 0) ∧
      ∀ host < twoPods.hostCount 0, Node.spine 3 ≠ .host 0 host →
        twoPods.hops (twoPods.nodeAddress (.spine 3)) (.host 0 host) =
          [some (.leaf 0)] :=
  forwarding_complete accepted_twoPods fits_twoPods (Or.inr (by decide))
    (by decide) (by decide)

end SwitchV2P.RoutingDelivery
