import SwitchV2P.RoutedStatic

namespace SwitchV2P

/-!
# The tunnel interfaces

`AssignIds` numbers the containers and finds the gateways, and `SetupTunnel`
gives every tunnel interface the addresses of its containers and fills the full
mapping.  A name may stand in several places, and then the two need not agree.
-/

/-- A container name with its leaf and host. -/
abbrev ContainerPlace := (Nat × Nat) × String

/-- The containers in the order of the loops. -/
def ContainerGroups.places
    (containerGroups : ContainerGroups) :
    List ContainerPlace :=
  containerGroups.zipIdx.flatMap fun leaf =>
    leaf.1.zipIdx.flatMap fun host =>
      host.1.map fun name => ((leaf.2, host.2), name)

/-- The members that `SetupTunnel` fills. -/
structure Tunnels where
  virtualToPhysical : Ipv4Address → Option Ipv4Address
  /-- The addresses of the tunnel interface of a host. -/
  addresses : Nat → Nat → List Ipv4Address

namespace SimulationBase

/-- `m_containerToId[name]`. -/
def containerAddress
    (containerGroups : ContainerGroups)
    (name : String) :
    Ipv4Address :=
  IpUtils.getContainerVirtualAddress
    (((assignIds containerGroups).containerToId name).getD 0)

/-- The innermost loop body of `SetupTunnel`. -/
def addContainer
    (sim : SimulationBase)
    (containerGroups : ContainerGroups)
    (leaf host : Nat)
    (tunnels : Tunnels)
    (name : String) :
    Tunnels where
  virtualToPhysical :=
    Function.update tunnels.virtualToPhysical
      (containerAddress containerGroups name)
      (some (sim.hostAddress leaf host))
  addresses := fun otherLeaf otherHost =>
    if otherLeaf = leaf ∧ otherHost = host then
      tunnels.addresses leaf host ++
        [containerAddress containerGroups name]
    else
      tunnels.addresses otherLeaf otherHost

/-- `SetupTunnel`. -/
def setupTunnel
    (sim : SimulationBase)
    (containerGroups : ContainerGroups) :
    Tunnels :=
  (containerGroups.take sim.leafCount).zipIdx.foldl
    (fun tunnels leaf =>
      leaf.1.zipIdx.foldl
        (fun tunnels host =>
          host.1.foldl
            (sim.addContainer containerGroups leaf.2 host.2) tunnels)
        tunnels)
    { virtualToPhysical := fun _ => none
      addresses := fun _ _ => [] }

/-- The simulation was made for these container groups. -/
structure MadeFor
    (sim : SimulationBase)
    (containerGroups : ContainerGroups) :
    Prop where
  hostCounts : sim.hostCounts = containerGroups.map List.length
  gws : sim.gws = (assignIds containerGroups).gws
  leaves : containerGroups.length < 2 ^ 32
  containers : (containerNames containerGroups).length ≤ 2 ^ 32

end SimulationBase

namespace ContainerGroups

variable {containerGroups : ContainerGroups}

/-- Three nested loops are one loop over the places. -/
theorem foldl_places
    {State : Type}
    (step : Nat → Nat → State → String → State)
    (state : State)
    (containerGroups : ContainerGroups) :
    containerGroups.zipIdx.foldl
        (fun state leaf =>
          leaf.1.zipIdx.foldl
            (fun state host => host.1.foldl (step leaf.2 host.2) state)
            state)
        state =
      containerGroups.places.foldl
        (fun state place => step place.1.1 place.1.2 state place.2)
        state := by
  unfold places
  rw [List.foldl_flatMap]
  refine List.foldl_ext _ _ _ fun state leaf _ => ?_
  rw [List.foldl_flatMap]
  refine List.foldl_ext _ _ _ fun state host _ => ?_
  rw [List.foldl_map]

theorem mem_places_iff
    {leaf host : Nat}
    {name : String} :
    ((leaf, host), name) ∈ containerGroups.places ↔
      ∃ hosts names, containerGroups[leaf]? = some hosts ∧
        hosts[host]? = some names ∧ name ∈ names := by
  unfold places
  simp only [List.mem_flatMap, List.mem_map, Prod.mk.injEq, Prod.exists,
    List.mem_zipIdx_iff_getElem?]
  constructor
  · rintro ⟨hosts, _, found, names, _, isHost, other, member, ⟨rfl, rfl⟩,
      rfl⟩
    exact ⟨hosts, names, found, isHost, member⟩
  · rintro ⟨hosts, names, found, isHost, member⟩
    exact
      ⟨hosts, leaf, found, names, host, isHost, name, member, ⟨rfl, rfl⟩,
        rfl⟩

/-- The names of all places. -/
theorem map_places (containerGroups : ContainerGroups) :
    containerGroups.places.map Prod.snd =
      SimulationBase.containerNames containerGroups := by
  have unnumbered
      {Item Result : Type}
      (items : List Item)
      (results : Item → List Result) :
      items.zipIdx.flatMap (fun item => results item.1) =
        items.flatMap results := by
    rw [← List.flatMap_map, List.zipIdx_map_fst]
  unfold places SimulationBase.containerNames
  simp only [List.map_flatMap, List.map_map, Function.comp_def,
    List.map_id']
  rw [unnumbered containerGroups fun hosts =>
    hosts.zipIdx.flatMap fun host => host.1]
  simp only [unnumbered _ fun names => names, List.flatMap_id']
  rw [List.flatten_flatten, List.flatMap_def]

end ContainerGroups

/-! ## What the loops leave -/

namespace SimulationBase

variable {sim : SimulationBase} {containerGroups : ContainerGroups}

/-- One place after the other. -/
def addPlaces
    (sim : SimulationBase)
    (containerGroups : ContainerGroups)
    (tunnels : Tunnels)
    (places : List ContainerPlace) :
    Tunnels :=
  places.foldl
    (fun tunnels place =>
      sim.addContainer containerGroups place.1.1 place.1.2 tunnels place.2)
    tunnels

/-- The interface of a host has the containers of the host, in order. -/
theorem addresses_addPlaces
    (tunnels : Tunnels)
    (places : List ContainerPlace)
    (leaf host : Nat) :
    (sim.addPlaces containerGroups tunnels places).addresses leaf host =
      tunnels.addresses leaf host ++
        (places.filter fun place => place.1 = (leaf, host)).map
          fun place => containerAddress containerGroups place.2 := by
  induction places generalizing tunnels with
  | nil => simp [addPlaces]
  | cons place rest inductionHypothesis =>
      have later :=
        inductionHypothesis
          (sim.addContainer containerGroups place.1.1 place.1.2 tunnels
            place.2)
      refine later.trans ?_
      by_cases isPlace : place.1 = (leaf, host)
      · simp [addContainer, isPlace]
      · have elsewhere : ¬ (leaf = place.1.1 ∧ host = place.1.2) :=
          fun same => isPlace (Prod.ext same.1.symm same.2.symm)
        simp [addContainer, isPlace, elsewhere]

/-- The mapping has the last place of each address. -/
theorem virtualToPhysical_addPlaces
    (places : List ContainerPlace)
    (address : Ipv4Address) :
    (sim.addPlaces containerGroups
        { virtualToPhysical := fun _ => none
          addresses := fun _ _ => [] }
        places).virtualToPhysical address =
      (places.filter fun place =>
        containerAddress containerGroups place.2 = address).getLast?.map
          fun place => sim.hostAddress place.1.1 place.1.2 := by
  induction places using List.reverseRecOn with
  | nil => rfl
  | append_singleton earlier place inductionHypothesis =>
      unfold addPlaces at inductionHypothesis ⊢
      rw [List.foldl_append, List.filter_append]
      change Function.update _ _ _ _ = _
      by_cases isAddress :
        containerAddress containerGroups place.2 = address
      · subst isAddress
        simp
      · rw [Function.update_of_ne (Ne.symm isAddress),
          inductionHypothesis]
        simp [isAddress]

namespace MadeFor

theorem leafCount
    (madeFor : sim.MadeFor containerGroups) :
    sim.leafCount = containerGroups.length := by
  unfold SimulationBase.leafCount
  rw [madeFor.hostCounts, List.length_map]
  exact Nat.mod_eq_of_lt madeFor.leaves

/-- `SetupTunnel` visits all places. -/
theorem setupTunnel_eq
    (madeFor : sim.MadeFor containerGroups) :
    sim.setupTunnel containerGroups =
      sim.addPlaces containerGroups
        { virtualToPhysical := fun _ => none
          addresses := fun _ _ => [] }
        containerGroups.places := by
  unfold setupTunnel
  rw [madeFor.leafCount, List.take_length]
  exact ContainerGroups.foldl_places _ _ _

/-- The hosts of the groups are the hosts of the topology. -/
theorem hasNode_iff
    (madeFor : sim.MadeFor containerGroups)
    {leaf host : Nat} :
    sim.HasNode (.host leaf host) ↔
      ∃ hosts names, containerGroups[leaf]? = some hosts ∧
        hosts[host]? = some names := by
  change leaf < sim.leafCount ∧ host < sim.hostCount leaf ↔ _
  rw [madeFor.leafCount, hostCount, madeFor.hostCounts,
    List.getD_eq_getElem?_getD, List.getElem?_map]
  cases found : containerGroups[leaf]? with
  | none =>
      refine iff_of_false (fun inside => ?_) (by simp)
      exact absurd inside.2 (Nat.not_lt_zero host)
  | some hosts =>
      obtain ⟨inside, _⟩ := List.getElem?_eq_some_iff.mp found
      constructor
      · rintro ⟨_, hostSmall⟩
        exact ⟨hosts, _, rfl, List.getElem?_eq_getElem hostSmall⟩
      · rintro ⟨_, names, isHosts, isHost⟩
        rw [← Option.some.inj isHosts] at isHost
        exact ⟨inside, (List.getElem?_eq_some_iff.mp isHost).1⟩

/-- Every place is on a host. -/
theorem present
    (madeFor : sim.MadeFor containerGroups)
    {place : ContainerPlace}
    (member : place ∈ containerGroups.places) :
    sim.HasNode (.host place.1.1 place.1.2) := by
  obtain ⟨hosts, names, found, isHost, _⟩ :=
    ContainerGroups.mem_places_iff.mp member
  exact madeFor.hasNode_iff.mpr ⟨hosts, names, found, isHost⟩

/-- Different names have different addresses. -/
theorem name_eq
    (madeFor : sim.MadeFor containerGroups)
    {first second : ContainerPlace}
    (isFirst : first ∈ containerGroups.places)
    (isSecond : second ∈ containerGroups.places)
    (same :
      containerAddress containerGroups first.2 =
        containerAddress containerGroups second.2) :
    first.2 = second.2 := by
  have numbered
      {place : ContainerPlace}
      (member : place ∈ containerGroups.places) :
      (assignIds containerGroups).containerToId place.2 =
        some (containerAddress containerGroups place.2) := by
    have named : place.2 ∈ containerNames containerGroups := by
      rw [← ContainerGroups.map_places]
      exact List.mem_map_of_mem member
    obtain ⟨containerId, isId⟩ :=
      (numbers_assignIds containerGroups).numbered _ named
    rw [isId, containerAddress, isId]
    rfl
  have isId := numbered isFirst
  rw [same] at isId
  exact assignIds_injective madeFor.containers isId (numbered isSecond)

end MadeFor

/-- Every tunnel interface has what the full mapping says. -/
def TunnelsAgree
    (sim : SimulationBase)
    (tunnels : Tunnels) :
    Prop :=
  ∀ {leaf host}, sim.HasNode (.host leaf host) →
    ∀ container,
      container ∈ tunnels.addresses leaf host ↔
        tunnels.virtualToPhysical container =
          some (sim.hostAddress leaf host)

/-- A host's address names one place. -/
theorem MadeFor.place_eq
    (madeFor : sim.MadeFor containerGroups)
    (routable : sim.Routable)
    {place : ContainerPlace}
    (member : place ∈ containerGroups.places)
    {leaf host : Nat}
    (present : sim.HasNode (.host leaf host))
    (same :
      sim.hostAddress place.1.1 place.1.2 = sim.hostAddress leaf host) :
    place.1 = (leaf, host) := by
  have isNode :=
    routable.unique
      (⟨madeFor.present member, same⟩ :
        sim.GoesBy _ (.host place.1.1 place.1.2))
      (⟨present, rfl⟩ : sim.GoesBy _ (.host leaf host))
  obtain ⟨sameLeaf, sameHost⟩ := Node.host.inj isNode
  exact Prod.ext sameLeaf sameHost

/-- Without names on two hosts the interfaces and the full mapping agree. -/
theorem MadeFor.tunnelsAgree
    (madeFor : sim.MadeFor containerGroups)
    (routable : sim.Routable)
    (once :
      ∀ first ∈ containerGroups.places,
        ∀ second ∈ containerGroups.places,
          first.2 = second.2 → first.1 = second.1) :
    sim.TunnelsAgree (sim.setupTunnel containerGroups) := by
  rw [madeFor.setupTunnel_eq]
  intro leaf host present container
  rw [addresses_addPlaces, List.nil_append, virtualToPhysical_addPlaces,
    Option.map_eq_some_iff]
  constructor
  · intro isHere
    obtain ⟨place, found, isContainer⟩ := List.mem_map.mp isHere
    obtain ⟨member, atHost⟩ := List.mem_filter.mp found
    have isHost := of_decide_eq_true atHost
    obtain ⟨last, isLast⟩ :
        ∃ last,
          (containerGroups.places.filter fun other =>
              containerAddress containerGroups other.2 =
                container).getLast? =
            some last := by
      refine
        ⟨_, List.getLast?_eq_some_getLast
          (List.ne_nil_of_mem (List.mem_filter.mpr ⟨member, ?_⟩))⟩
      exact decide_eq_true isContainer
    obtain ⟨lastMember, lastContainer⟩ :=
      List.mem_filter.mp (List.mem_of_getLast? isLast)
    refine ⟨last, isLast, ?_⟩
    have sameName :=
      madeFor.name_eq lastMember member
        ((of_decide_eq_true lastContainer).trans isContainer.symm)
    rw [once last lastMember place member sameName, isHost]
  · rintro ⟨last, isLast, atHost⟩
    obtain ⟨lastMember, lastContainer⟩ :=
      List.mem_filter.mp (List.mem_of_getLast? isLast)
    have isHost := madeFor.place_eq routable lastMember present atHost
    exact
      List.mem_map.mpr
        ⟨last,
          List.mem_filter.mpr ⟨lastMember, decide_eq_true isHost⟩,
          of_decide_eq_true lastContainer⟩

/--
The interfaces agree with the full mapping exactly if no container name stands
on two hosts.
-/
theorem tunnelsAgree_iff
    (routable : sim.Routable)
    (madeFor : sim.MadeFor containerGroups) :
    sim.TunnelsAgree (sim.setupTunnel containerGroups) ↔
      ∀ first ∈ containerGroups.places,
        ∀ second ∈ containerGroups.places,
          first.2 = second.2 → first.1 = second.1 := by
  refine ⟨?_, madeFor.tunnelsAgree routable⟩
  rw [madeFor.setupTunnel_eq]
  intro agree first isFirst second isSecond same
  have atPlace
      {place : ContainerPlace}
      (member : place ∈ containerGroups.places) :=
    (agree (madeFor.present member)
      (containerAddress containerGroups place.2)).mp (by
        rw [addresses_addPlaces, List.nil_append]
        refine List.mem_map.mpr ⟨place, ?_, rfl⟩
        exact List.mem_filter.mpr ⟨member, decide_eq_true rfl⟩)
  have atFirst := atPlace isFirst
  rw [same, atPlace isSecond, Option.some.injEq] at atFirst
  exact
    (madeFor.place_eq routable isSecond (madeFor.present isFirst)
      atFirst).symm

/-- The two pods with a gateway and a container of each name. -/
def podsGroups (first second third : String) : ContainerGroups :=
  [[["Gateway0"]], [[first]], [[second]], [[third]]]

theorem routable_pods (simMode : Mode) :
    (RoutedSimulation.pods simMode).Routable :=
  (RoutedSimulation.deployed_pods simMode).sound.routable

theorem madeFor_pods (simMode : Mode) :
    (RoutedSimulation.pods simMode).MadeFor
      (podsGroups "first" "second" "third") where
  hostCounts := rfl
  gws := by
    change FlowPaths.gatewayPods.gws = _
    decide +kernel
  leaves := by decide
  containers := by decide

theorem madeFor_podsTwice (simMode : Mode) :
    (RoutedSimulation.pods simMode).MadeFor
      (podsGroups "first" "second" "first") where
  hostCounts := rfl
  gws := by
    change FlowPaths.gatewayPods.gws = _
    decide +kernel
  leaves := by decide
  containers := by decide

/-- With a name on two hosts they do not agree. -/
theorem tunnelsAgree_iff_podsTwice :
    ¬ (RoutedSimulation.pods .switchV2P).TunnelsAgree
      ((RoutedSimulation.pods .switchV2P).setupTunnel
        (podsGroups "first" "second" "first")) := by
  rw [tunnelsAgree_iff (routable_pods _) (madeFor_podsTwice _)]
  intro once
  have same :=
    once ((1, 0), "first") (by decide) ((3, 0), "first") (by decide) rfl
  exact absurd same (by decide)

/-! ## Gateways -/

/-- The gateways are where their containers are. -/
theorem gws_assignIds (containerGroups : ContainerGroups) :
    (assignIds containerGroups).gws =
      (containerGroups.places.filter fun place =>
        namesGateway place.2).map Prod.fst := by
  have everyFold
      (places : List ContainerPlace)
      (ids : AssignedIds) :
      (places.foldl
          (fun ids place => assignId place.1.1 place.1.2 ids place.2)
          ids).gws =
        ids.gws ++
          (places.filter fun place => namesGateway place.2).map
            Prod.fst := by
    induction places generalizing ids with
    | nil => simp
    | cons place rest inductionHypothesis =>
        rw [List.foldl_cons, inductionHypothesis]
        by_cases isGateway : namesGateway place.2 = true
        · simp [assignId, isGateway]
        · simp [assignId, isGateway]
  unfold assignIds
  rw [ContainerGroups.foldl_places, everyFold, List.nil_append]

/-- No gateway is placed elsewhere than on a host. -/
theorem MadeFor.gatewaysPlaced
    (madeFor : sim.MadeFor containerGroups) :
    FlowPaths.GatewaysPlaced sim := by
  intro gw member
  rw [madeFor.gws, gws_assignIds] at member
  obtain ⟨place, isGateway, rfl⟩ := List.mem_map.mp member
  exact madeFor.present (List.mem_filter.mp isGateway).1

/-- Distinct names stand on one host each. -/
theorem places_eq_of_nodup
    (distinct : (containerNames containerGroups).Nodup)
    {first second : ContainerPlace}
    (isFirst : first ∈ containerGroups.places)
    (isSecond : second ∈ containerGroups.places)
    (same : first.2 = second.2) :
    first = second := by
  rw [← ContainerGroups.map_places] at distinct
  exact List.inj_on_of_nodup_map distinct isFirst isSecond same

end SimulationBase

namespace RoutedSimulation

variable {sim : RoutedSimulation} {containerGroups : ContainerGroups}

/-- `SetupTunnel` deploys the containers as the packets need it. -/
theorem deployed_setupTunnel
    (routable : sim.Routable)
    (madeFor : sim.MadeFor containerGroups)
    (gateways : sim.gws ≠ [])
    (distinct :
      (SimulationBase.containerNames containerGroups).Nodup) :
    sim.Deployed (sim.setupTunnel containerGroups).virtualToPhysical
      (sim.setupTunnel containerGroups).addresses where
  sound :=
    { routable := routable
      placed := madeFor.gatewaysPlaced
      gateways := gateways }
  mem_addresses_iff :=
    madeFor.tunnelsAgree routable fun _ isFirst _ isSecond same =>
      congrArg Prod.fst
        (SimulationBase.places_eq_of_nodup distinct isFirst isSecond same)

/-- The full mapping locates the containers where they are placed. -/
theorem place_of_virtualToPhysical
    (routable : sim.Routable)
    (madeFor : sim.MadeFor containerGroups)
    {leaf host : Nat}
    (present : sim.HasNode (.host leaf host))
    {container : Ipv4Address}
    (located :
      (sim.setupTunnel containerGroups).virtualToPhysical container =
        some (sim.hostAddress leaf host)) :
    ∃ name, ((leaf, host), name) ∈ containerGroups.places ∧
      SimulationBase.containerAddress containerGroups name =
        container := by
  rw [madeFor.setupTunnel_eq, SimulationBase.virtualToPhysical_addPlaces,
    Option.map_eq_some_iff] at located
  obtain ⟨place, isLast, atHost⟩ := located
  obtain ⟨member, isContainer⟩ :=
    List.mem_filter.mp (List.mem_of_getLast? isLast)
  have isNode :=
    routable.unique
      (⟨madeFor.present member, atHost⟩ :
        sim.GoesBy _ (.host place.1.1 place.1.2))
      (⟨present, rfl⟩ : sim.GoesBy _ (.host leaf host))
  obtain ⟨rfl, rfl⟩ := Node.host.inj isNode
  exact ⟨place.2, member, of_decide_eq_true isContainer⟩

/--
From the container groups to the deliveries: if no name stands twice and some
name is a gateway's, every packet that is delivered is delivered to the host
where its container is placed, and none is dropped on its way.
-/
theorem delivered_where_placed
    (routable : sim.Routable)
    (madeFor : sim.MadeFor containerGroups)
    (gateways : sim.gws ≠ [])
    (distinct :
      (SimulationBase.containerNames containerGroups).Nodup)
    (notBluebird : sim.NotBluebird)
    {state : RoutedState}
    (reachable :
      sim.system.Reachable sim.StaticWorkload
        (sim.start (sim.setupTunnel containerGroups).virtualToPhysical
          (sim.setupTunnel containerGroups).addresses)
        state) :
    state.dropped = [] ∧
      ∀ delivery ∈ state.delivered,
        ∃ name,
          ((delivery.leaf, delivery.host), name) ∈
              containerGroups.places ∧
            SimulationBase.containerAddress containerGroups name =
              delivery.tagged.packet.inner.destination := by
  have deployed := deployed_setupTunnel routable madeFor gateways distinct
  obtain ⟨inOrder, agrees⟩ :=
    settles_of_reachable deployed notBluebird reachable
  refine ⟨inOrder.undropped, fun delivery member => ?_⟩
  exact
    place_of_virtualToPhysical routable madeFor
      (inOrder.delivered delivery member).present
      (agrees.delivered delivery member)

/-- The third container gets its packet at leaf 3. -/
theorem delivered_where_placed_pods :
    let tunnels :=
      (pods .switchV2P).setupTunnel
        (SimulationBase.podsGroups "first" "second" "third")
    ∃ state,
      (pods .switchV2P).system.Reachable (pods .switchV2P).StaticWorkload
          ((pods .switchV2P).start tunnels.virtualToPhysical
            tunnels.addresses)
          state ∧
        state.delivered.map (fun delivery => delivery.leaf) = [3] ∧
        state.dropped = [] ∧
        ∀ delivery ∈ state.delivered,
          ∃ name,
            ((delivery.leaf, delivery.host), name) ∈
                (SimulationBase.podsGroups "first" "second"
                  "third").places ∧
              SimulationBase.containerAddress
                  (SimulationBase.podsGroups "first" "second" "third")
                  name =
                delivery.tagged.packet.inner.destination := by
  intro tunnels
  obtain ⟨state, performs, delivered⟩ :
      ∃ state,
        (pods .switchV2P).system.Performs (pods .switchV2P).StaticWorkload
            ((pods .switchV2P).start tunnels.virtualToPhysical
              tunnels.addresses)
            pods.resolve state ∧
          state.delivered.map (fun delivery => delivery.leaf) = [3] :=
    TransitionSystem.Performs.exists_of_run?
      (staticWorkload_of_podsStatic .switchV2P) (by decide +kernel)
      (by decide +kernel)
  exact
    ⟨state, performs.reachable, delivered,
      delivered_where_placed (SimulationBase.routable_pods _)
        (SimulationBase.madeFor_pods _) (List.cons_ne_nil _ _)
        (by decide) notBluebird_pods performs.reachable⟩

end RoutedSimulation

end SwitchV2P
