import SwitchV2P.GatewayLoad
import SwitchV2P.RoutedRuns

namespace SwitchV2P

/-!
# What the controller reads and installs

A `SwitchApp` counts the packets for the gateways until `QuerySwitches` takes
its matrix.  Whatever the nodes do, a query reads what the switches have seen
since the query before it, and the plans that it installs keep these packets
away from the gateways as far as the objective says.
-/

/-- What a switch has seen since the last query is what its matrix says. -/
def SwitchApplication.Watched
    (gwAddresses : List Ipv4Address)
    (memorySize : Nat)
    (seen : List DataPacket) :
    SwitchApplication → Prop
  | p4SwitchApp _ _ => True
  | switchApp gateways switchMode members =>
      gateways = gwAddresses ∧
        (switchMode = .controller →
          SwitchApp.Summarises seen members.trafficMatrix) ∧
        ∃ history,
          LRUCache.Recorded.Represents memorySize
            { cache := members.cache, history := history }

namespace SwitchApplication.Watched

variable
  {gwAddresses : List Ipv4Address}
  {memorySize : Nat}
  {seen : List DataPacket}
  {application : SwitchApplication}

theorem receivePacket
    (watched : application.Watched gwAddresses memorySize seen)
    {draw : Bool}
    {packet : DataPacket}
    {outcome : ApplicationOutcome}
    (received : application.receivePacket draw packet = some outcome) :
    outcome.application.Watched gwAddresses memorySize
      (if packet.outer.destination ∈ gwAddresses then
        seen ++ [packet]
      else
        seen) := by
  cases application with
  | p4SwitchApp config state =>
      rw [SwitchApplication.receivePacket] at received
      dsimp only at received
      split at received
      next => exact absurd received (by simp)
      next =>
        rw [← Option.some.inj received]
        trivial
  | switchApp gateways switchMode members =>
      obtain ⟨rfl, summarises, history, represents⟩ := watched
      rw [SwitchApplication.receivePacket] at received
      rw [← Option.some.inj received]
      refine ⟨rfl, fun isController => ?_, ?_⟩
      · subst isController
        unfold SwitchApp.Members.receivePacket
        dsimp only
        by_cases toGateway : packet.outer.destination ∈ gateways
        · rw [if_pos toGateway, if_pos ⟨rfl, toGateway⟩]
          exact (summarises rfl).countPacket packet
        · rw [if_neg toGateway, if_neg fun counted => toGateway counted.2]
          exact summarises rfl
      · exact
          ⟨_, SwitchApp.represents_perform represents
            (.receivePacket packet)⟩

/-- Only a `P4SwitchApp` takes protocol packets. -/
theorem handleProtocolPacket
    (application : SwitchApplication)
    {packet : ProtocolPacket}
    {handled : SwitchApplication × List ProtocolPacket}
    (handles : application.handleProtocolPacket packet = some handled) :
    handled.1.Watched gwAddresses memorySize seen := by
  cases application with
  | p4SwitchApp config state =>
      rw [SwitchApplication.handleProtocolPacket] at handles
      rw [← Option.some.inj handles]
      trivial
  | switchApp => exact absurd handles (Option.some_ne_none _).symm

end SwitchApplication.Watched

/-- The network, and what each switch has seen since the last query. -/
structure ObservedState where
  network : RoutedState
  seen : Node → List DataPacket

namespace RoutedSimulation

variable (sim : RoutedSimulation)

/-- A switch sees the packets for a gateway. -/
def observeTransit
    (seen : Node → List DataPacket) :
    Transit → Node → List DataPacket
  | .data node tagged =>
      if node.isSwitch ∧ tagged.destination ∈ sim.gwAddresses then
        Function.update seen node (seen node ++ [tagged.packet])
      else
        seen
  | _ => seen

/-- What the switches have seen after an action. -/
def observe
    (state : RoutedState)
    (seen : Node → List DataPacket) :
    RoutedAction → Node → List DataPacket
  | .handle position _ _ _ =>
      match state.transits[position]? with
      | some transit => sim.observeTransit seen transit
      | none => seen
  | .querySwitches _ => fun _ => []
  | _ => seen

/-- The simulation with what the switches see. -/
def observed : TransitionSystem ObservedState RoutedAction where
  step := fun state action =>
    (sim.step state.network action).map fun next =>
      { network := next
        seen := sim.observe state.network state.seen action }

/-- The state after the setup, with nothing seen. -/
def observedStart
    (virtualToPhysical : Ipv4Address → Option Ipv4Address)
    (addresses : Nat → Nat → List Ipv4Address) :
    ObservedState where
  network := sim.start virtualToPhysical addresses
  seen := fun _ => []

/-- The matrices say what the switches have seen. -/
structure Watches (state : ObservedState) : Prop where
  equipped : sim.Equipped state.network
  watched :
    ∀ node application,
      state.network.applications node = some application →
        application.Watched sim.gwAddresses sim.memory.memorySize
          (state.seen node)
  toGateway :
    ∀ node, ∀ packet ∈ state.seen node,
      packet.outer.destination ∈ sim.gwAddresses

variable {sim : RoutedSimulation}

/-! ## One step -/

theorem observeTransit_self
    (seen : Node → List DataPacket)
    {node : Node}
    (isSwitch : node.isSwitch = true)
    (tagged : TaggedPacket) :
    sim.observeTransit seen (.data node tagged) node =
      if tagged.packet.outer.destination ∈ sim.gwAddresses then
        seen node ++ [tagged.packet]
      else
        seen node := by
  rw [observeTransit]
  by_cases toGateway : tagged.packet.outer.destination ∈ sim.gwAddresses
  · rw [if_pos ⟨isSwitch, toGateway⟩, if_pos toGateway,
      Function.update_self]
  · rw [if_neg fun sees => toGateway sees.2, if_neg toGateway]

theorem observeTransit_of_ne
    (seen : Node → List DataPacket)
    {node other : Node}
    (isOther : other ≠ node)
    (tagged : TaggedPacket) :
    sim.observeTransit seen (.data node tagged) other = seen other := by
  rw [observeTransit]
  split
  next => exact Function.update_of_ne isOther ..
  next => rfl

/-- Hosts see nothing. -/
theorem observeTransit_host
    (seen : Node → List DataPacket)
    (leaf host : Nat)
    (tagged : TaggedPacket) :
    sim.observeTransit seen (.data (.host leaf host) tagged) = seen := by
  rw [observeTransit]
  exact if_neg fun sees => Bool.false_ne_true sees.1

/-- One switch has a new application, and no other has seen anything. -/
theorem Watches.setApplication
    {state : ObservedState}
    (watches : sim.Watches state)
    {node : Node}
    {application after : SwitchApplication}
    (installed : state.network.applications node = some application)
    (sameKind : after.kind = application.kind)
    {seen : Node → List DataPacket}
    (elsewhere : ∀ other, other ≠ node → seen other = state.seen other)
    (watched :
      after.Watched sim.gwAddresses sim.memory.memorySize (seen node))
    (toGateway :
      ∀ packet ∈ seen node,
        packet.outer.destination ∈ sim.gwAddresses) :
    sim.Watches
      { network := state.network.setApplication node after
        seen := seen } where
  equipped := watches.equipped.setApplication installed sameKind
  watched := by
    intro other isThere isAfter
    dsimp only at isAfter ⊢
    by_cases isNode : other = node
    · subst isNode
      rw [RoutedState.applications_setApplication_self] at isAfter
      rw [← Option.some.inj isAfter]
      exact watched
    · rw [RoutedState.applications_setApplication_of_ne _ isNode]
        at isAfter
      rw [elsewhere other isNode]
      exact watches.watched other isThere isAfter
  toGateway := by
    intro other packet member
    dsimp only at member
    by_cases isNode : other = node
    · subst isNode
      exact toGateway packet member
    · rw [elsewhere other isNode] at member
      exact watches.toGateway other packet member

/-- A switch's application receives what the switch sees. -/
theorem Watches.receive
    {state : ObservedState}
    (watches : sim.Watches state)
    {node : Node}
    {application : SwitchApplication}
    (isSwitch : node.isSwitch = true)
    (installed : state.network.applications node = some application)
    {draw : Bool}
    {tagged : TaggedPacket}
    {outcome : ApplicationOutcome}
    (received :
      application.receivePacket draw tagged.packet = some outcome) :
    sim.Watches
      { network :=
          state.network.setApplication node outcome.application
        seen := sim.observeTransit state.seen (.data node tagged) } := by
  refine
    watches.setApplication installed
      (SwitchApplication.kind_receivePacket received)
      (fun other isOther =>
        observeTransit_of_ne state.seen isOther tagged) ?_ ?_
  · rw [observeTransit_self state.seen isSwitch tagged]
    exact (watches.watched node application installed).receivePacket received
  · intro packet member
    rw [observeTransit_self state.seen isSwitch tagged] at member
    split at member
    next toGateway =>
      rcases List.mem_append.mp member with old | isNew
      · exact watches.toGateway node packet old
      · rw [List.mem_singleton.mp isNew]
        exact toGateway
    next => exact watches.toGateway node packet member

/-- Only the applications and what was seen matter. -/
theorem Watches.of_same
    {state : ObservedState}
    (watches : sim.Watches state)
    {network : RoutedState}
    (same : network.applications = state.network.applications) :
    sim.Watches { state with network := network } where
  equipped := fun node => by
    rw [same]
    exact watches.equipped node
  watched := fun node application installed =>
    watches.watched node application (same ▸ installed)
  toGateway := watches.toGateway

/-- What is handled is seen, if a switch sees it. -/
theorem Watches.handle
    {state : ObservedState}
    (watches : sim.Watches state)
    {transit : Transit}
    {draw : Bool}
    {pick learnPick : Nat}
    {handled : RoutedState × Handling}
    (handles :
      sim.handle state.network draw pick learnPick transit =
        some handled) :
    sim.Watches
      { network := handled.1
        seen := sim.observeTransit state.seen transit } := by
  cases transit with
  | data node tagged =>
      cases isSwitch : node.isSwitch with
      | true =>
          rw [sim.handle_switch isSwitch] at handles
          obtain ⟨application, installed, received⟩ :=
            Option.bind_eq_some_iff.mp handles
          simp only [receiveAtSwitch, Option.map_map,
            Option.map_eq_some_iff] at received
          obtain ⟨outcome, receives, rfl⟩ := received
          exact watches.receive isSwitch installed receives
      | false =>
          obtain ⟨leaf, host, rfl⟩ := Node.exists_host isSwitch
          simp only [RoutedSimulation.handle,
            Option.map_eq_some_iff] at handles
          obtain ⟨received, -, rfl⟩ := handles
          dsimp only
          rw [observeTransit_host]
          exact watches.of_same rfl
  | protocol node packet =>
      simp only [RoutedSimulation.handle] at handles
      split at handles
      next application installed =>
        simp only [Option.map_eq_some_iff] at handles
        obtain ⟨after, receives, rfl⟩ := handles
        exact
          watches.setApplication installed
            (SwitchApplication.kind_handleProtocolPacket receives)
            (fun _ _ => rfl)
            (SwitchApplication.Watched.handleProtocolPacket application
              receives)
            (watches.toGateway node)
      next =>
        rw [← Option.some.inj handles]
        exact watches
  | scheduled leaf host tagged call =>
      simp only [RoutedSimulation.handle,
        Option.map_eq_some_iff] at handles
      obtain ⟨handling, -, rfl⟩ := handles
      exact watches
  | atGateway leaf host tagged =>
      rw [RoutedSimulation.handle] at handles
      rw [← Option.some.inj handles]
      exact watches

/-- A query takes all matrices. -/
theorem Watches.installPlans
    {state : ObservedState}
    (watches : sim.Watches state)
    (chosen : Nat → Nat → Bool) :
    sim.Watches
      { network := sim.installPlans state.network chosen
        seen := fun _ => [] } where
  equipped := watches.equipped.installPlans chosen
  watched := by
    intro node application isAfter
    unfold RoutedSimulation.installPlans at isAfter
    dsimp only at isAfter
    split at isAfter
    next gateways switchMode members installed =>
      rw [← Option.some.inj isAfter]
      obtain ⟨sameGateways, -, history, represents⟩ :=
        watches.watched node _ installed
      exact
        ⟨sameGateways, fun _ => SwitchApp.summarises_nil, _,
          SwitchApp.represents_bulkInsertToCache represents _⟩
    next notSwitchApp =>
      have watched := watches.watched node application isAfter
      cases application with
      | p4SwitchApp config tables => trivial
      | switchApp gateways switchMode members =>
          exact absurd isAfter (notSwitchApp gateways switchMode members)
  toGateway := fun _ _ member => absurd member List.not_mem_nil

/-- Whatever happens, the matrices say what the switches have seen. -/
theorem Watches.step
    {state next : ObservedState}
    (watches : sim.Watches state)
    {action : RoutedAction}
    (stepped : sim.observed.step state action = some next) :
    sim.Watches next := by
  obtain ⟨after, steps, rfl⟩ := Option.map_eq_some_iff.mp stepped
  cases sim.steps_of_step steps with
  | send => exact watches.of_same rfl
  | handle found handles =>
      have sees := watches.handle handles
      rw [observe, found]
      exact sees.of_same rfl
  | lose => exact watches.of_same rfl
  | migration => exact watches.of_same rfl
  | querySwitches => exact watches.installPlans _

/-! ## Queries -/

/-- The matrices that the leaves have. -/
def trafficMatrices (state : RoutedState) (leaf : Nat) : TrafficMatrix :=
  match state.applications (.leaf leaf) with
  | some (.switchApp _ _ members) => members.trafficMatrix
  | _ => ∅

/-- The caches of the `SwitchApp`s. -/
def caches
    (state : RoutedState)
    (node : Node) :
    LRUCache Ipv4Address Ipv4Address :=
  match state.applications node with
  | some (.switchApp _ _ members) => members.cache
  | _ => .setCapacity 0

/-- `QuerySwitches` finds the same destinations in the matrices. -/
theorem isActive_eq
    (state : RoutedState)
    {container : Nat}
    (addressed : container < 2 ^ 32) :
    sim.isActive state (UInt32.ofNat container) =
      IlpControllerApp.activeDestination sim.toSimulationBase
        (trafficMatrices state) container := by
  unfold isActive IlpControllerApp.activeDestination
  congr 1
  funext leaf
  rw [trafficMatrices]
  cases state.applications (.leaf leaf) with
  | none => rfl
  | some application =>
      cases application with
      | p4SwitchApp config tables => rfl
      | switchApp gateways switchMode members =>
          dsimp only
          congr 1
          funext entry
          have same :
              entry.2.dstIp = UInt32.ofNat container ↔
                entry.2.dstIp.toNat = container := by
            rw [← UInt32.toNat_inj, UInt32.toNat_ofNat_of_lt' addressed]
          exact decide_eq_decide.mpr same

theorem planItems_congr
    {containerCount : Nat}
    {active other : Nat → Bool}
    (same :
      ∀ container < containerCount, active container = other container)
    (chosen : Nat → Bool)
    (virtualToPhysical : UInt32 → Ipv4Address) :
    IlpControllerApp.planItems containerCount active chosen
        virtualToPhysical =
      IlpControllerApp.planItems containerCount other chosen
        virtualToPhysical := by
  unfold IlpControllerApp.planItems
  congr 1
  refine List.filter_congr fun container member => ?_
  rw [same container (List.mem_range.mp member)]

/-- In controller mode every switch has a `SwitchApp` that counts. -/
theorem Watches.exists_switchApp
    {state : ObservedState}
    (watches : sim.Watches state)
    (placed : FlowPaths.GatewaysPlaced sim.toSimulationBase)
    (mode : sim.simParameters.simMode = .controller)
    {node : Node}
    (present : sim.HasNode node)
    (isSwitch : node.isSwitch = true) :
    ∃ members,
      state.network.applications node =
        some (.switchApp sim.gwAddresses .controller members) := by
  have isInitial :
      sim.applicationAt sim.memory node =
        some (sim.switchApp sim.memory .controller) := by
    have isInstalled :
        (sim.applicationAt sim.memory node).isSome = true :=
      (TraceSimulation.isSome_applicationAt placed node).mpr
        ⟨present, isSwitch⟩
    obtain ⟨initial, isInitial⟩ := Option.isSome_iff_exists.mp isInstalled
    obtain ⟨before, after, split, _⟩ :=
      List.lookup_eq_some_iff.mp isInitial
    have member :
        (node, initial) ∈ sim.installSwitchApps sim.memory := by
      rw [split]
      exact List.mem_append_right _ List.mem_cons_self
    unfold TraceSimulation.installSwitchApps at member
    simp only [mode, reduceCtorEq, or_self, ↓reduceIte,
      List.mem_map, Prod.mk.injEq] at member
    obtain ⟨_, _, _, rfl⟩ := member
    exact isInitial
  have same := watches.equipped node
  rw [isInitial, Option.map_some] at same
  obtain ⟨application, installed, kind⟩ :=
    Option.map_eq_some_iff.mp same
  cases application with
  | p4SwitchApp config tables => exact absurd kind SwitchKind.noConfusion
  | switchApp gateways switchMode members =>
      obtain ⟨rfl, rfl⟩ := SwitchKind.switchApp.inj kind
      exact ⟨members, installed⟩

/-- After a query the switches answer what the solver has chosen. -/
theorem Watches.answers
    {state : ObservedState}
    (watches : sim.Watches state)
    (placed : FlowPaths.GatewaysPlaced sim.toSimulationBase)
    (mode : sim.simParameters.simMode = .controller)
    {members : IlpControllerApp.Members}
    (sameCount : members.containerCount = sim.containerCount)
    (addressed : sim.containerCount ≤ 2 ^ 32)
    (fits : members.memorySize ≤ sim.memory.memorySize)
    {chosen : Nat → Nat → Bool}
    (feasible :
      IlpControllerApp.Feasible sim.toSimulationBase members
        (trafficMatrices state.network) chosen) :
    IlpControllerApp.Answers sim.toSimulationBase members
      (trafficMatrices state.network) chosen
      (fun container =>
        (state.network.virtualToPhysical container).getD 0)
      (caches (sim.installPlans state.network chosen)) := by
  intro switchIdx node container isSwitch located active isChosen
  obtain ⟨inside, atIndex⟩ := List.getElem?_eq_some_iff.mp isSwitch
  obtain ⟨present, nodeIsSwitch⟩ :=
    IlpControllerApp.mem_switchApps_iff.mp (List.mem_of_getElem? isSwitch)
  have index :
      (IlpControllerApp.switchApps sim.toSimulationBase).idxOf node =
        switchIdx := by
    rw [← atIndex]
    exact IlpControllerApp.nodup_switchApps.idxOf_getElem switchIdx inside
  obtain ⟨appMembers, installed⟩ :=
    watches.exists_switchApp placed mode present nodeIsSwitch
  obtain ⟨-, -, history, represents⟩ := watches.watched node _ installed
  have isCache :
      caches (sim.installPlans state.network chosen) node =
        appMembers.cache.bulkInsert
          (IlpControllerApp.planItems members.containerCount
            (IlpControllerApp.activeDestination sim.toSimulationBase
              (trafficMatrices state.network))
            (chosen switchIdx)
            fun container =>
              (state.network.virtualToPhysical container).getD 0) := by
    unfold caches RoutedSimulation.installPlans
    dsimp only
    rw [installed, index, sameCount]
    refine congrArg appMembers.cache.bulkInsert ?_
    refine planItems_congr (fun container small => ?_) _ _
    exact isActive_eq state.network (by omega)
  have installs :=
    @SwitchApp.installs_planItems sim.gwAddresses _ _ represents _
      (sameCount.trans_le addressed) _ _
      ((feasible switchIdx inside).trans fits)
      fun container =>
        (state.network.virtualToPhysical container).getD 0
  rw [isCache]
  refine
    installs.installed
      (container, (state.network.virtualToPhysical container).getD 0) ?_
  rw [IlpControllerApp.planItems, List.mem_map]
  refine ⟨container.toNat, ?_, ?_⟩
  · rw [List.mem_filter, List.mem_range, active, isChosen]
    exact ⟨located, rfl⟩
  · rw [UInt32.ofNat_toNat]
    rfl

/-- What the leaves have seen are packets that a plan can be made for. -/
structure Plannable
    (sim : RoutedSimulation)
    (members : IlpControllerApp.Members)
    (state : ObservedState) :
    Prop where
  consistent :
    ∀ leaf < sim.leafCount,
      SwitchApp.Consistent (state.seen (.leaf leaf))
  few : ∀ leaf < sim.leafCount, (state.seen (.leaf leaf)).length < 2 ^ 32
  located :
    ∀ leaf < sim.leafCount, ∀ packet ∈ state.seen (.leaf leaf),
      packet.inner.destination.toNat < members.containerCount
  elsewhere :
    ∀ leaf < sim.leafCount, ∀ packet ∈ state.seen (.leaf leaf),
      (state.network.virtualToPhysical packet.inner.destination).getD 0 ∉
        sim.gwAddresses

instance (packets : List DataPacket) :
    Decidable (SwitchApp.Consistent packets) :=
  inferInstanceAs (Decidable (∀ first ∈ packets, ∀ second ∈ packets, _))

instance
    (sim : RoutedSimulation)
    (members : IlpControllerApp.Members)
    (state : ObservedState) :
    Decidable (sim.Plannable members state) :=
  decidable_of_iff
    ((∀ leaf < sim.leafCount,
        SwitchApp.Consistent (state.seen (.leaf leaf))) ∧
      (∀ leaf < sim.leafCount,
        (state.seen (.leaf leaf)).length < 2 ^ 32) ∧
      (∀ leaf < sim.leafCount, ∀ packet ∈ state.seen (.leaf leaf),
        packet.inner.destination.toNat < members.containerCount) ∧
      ∀ leaf < sim.leafCount, ∀ packet ∈ state.seen (.leaf leaf),
        (state.network.virtualToPhysical
            packet.inner.destination).getD 0 ∉
          sim.gwAddresses)
    ⟨fun ⟨consistent, few, located, elsewhere⟩ =>
        ⟨consistent, few, located, elsewhere⟩,
      fun ⟨consistent, few, located, elsewhere⟩ =>
        ⟨consistent, few, located, elsewhere⟩⟩

/-- The controller's matrices are what the leaves have seen. -/
theorem Watches.seen
    {state : ObservedState}
    (watches : sim.Watches state)
    (placed : FlowPaths.GatewaysPlaced sim.toSimulationBase)
    (mode : sim.simParameters.simMode = .controller)
    {members : IlpControllerApp.Members}
    (plannable : sim.Plannable members state) :
    IlpControllerApp.Seen sim.toSimulationBase members
      (fun container =>
        (state.network.virtualToPhysical container).getD 0)
      (trafficMatrices state.network)
      fun leaf => state.seen (.leaf leaf) where
  summarises := by
    intro leaf inside
    obtain ⟨appMembers, installed⟩ :=
      watches.exists_switchApp placed mode
        (show sim.HasNode (.leaf leaf) from inside) rfl
    obtain ⟨-, summarises, -⟩ := watches.watched _ _ installed
    rw [trafficMatrices, installed]
    exact summarises rfl
  consistent := plannable.consistent
  few := plannable.few
  toGateway := fun leaf _ => watches.toGateway (.leaf leaf)
  located := plannable.located
  elsewhere := plannable.elsewhere

/-! ## Runs -/

theorem watches_start
    (virtualToPhysical : Ipv4Address → Option Ipv4Address)
    (addresses : Nat → Nat → List Ipv4Address) :
    sim.Watches (sim.observedStart virtualToPhysical addresses) where
  equipped := fun _ => rfl
  watched := by
    intro node application installed
    cases TraceSimulation.installs_of_applicationAt installed with
    | caching => trivial
    | gatewayLeaf => trivial
    | bluebird => trivial
    | plain =>
        exact
          ⟨rfl, fun _ => SwitchApp.summarises_nil, [],
            LRUCache.Recorded.represents_setCapacity
              sim.memory.memorySize_pos⟩
  toGateway := fun _ _ member => absurd member List.not_mem_nil

theorem watches_of_reachable
    {allowed : ObservedState → RoutedAction → Prop}
    {virtualToPhysical : Ipv4Address → Option Ipv4Address}
    {addresses : Nat → Nat → List Ipv4Address}
    {state : ObservedState}
    (reachable :
      sim.observed.Reachable allowed
        (sim.observedStart virtualToPhysical addresses) state) :
    sim.Watches state :=
  reachable.invariant sim.Watches
    (watches_start virtualToPhysical addresses)
    fun watches _ stepped => watches.step stepped

/-! ## An example -/

/-- Leaf 1 is given container 3. -/
def podsChosen (switchIdx container : Nat) : Bool :=
  switchIdx = 1 && container = 3

/-- The controller of the two pods, with the memory of their switches. -/
def podsMembers : IlpControllerApp.Members :=
  { IlpControllerApp.Members.setup
      (SimulationBase.podsGroups "first" "second" "third") with
    memorySize := 1 }

theorem deployable_pods (simMode : Mode) :
    IlpControllerApp.Deployable (pods simMode).toSimulationBase where
  accepted := { RoutingDelivery.accepted_twoPods with }
  fits := { RoutingDelivery.fits_twoPods with }
  placed := (deployed_pods simMode).sound.placed
  crossing := Or.inr (by cases simMode <;> decide)

/-- Leaf 1 sees two packets, and the controller may give it their container. -/
theorem performs_query_pods :
    ∃ state next,
      (pods .controller).observed.Reachable (fun _ _ => True)
          ((pods .controller).observedStart pods.virtualToPhysical
            pods.addresses)
          state ∧
        (state.seen (.leaf 1)).length = 2 ∧
        (pods .controller).Plannable podsMembers state ∧
        IlpControllerApp.Feasible (pods .controller).toSimulationBase
          podsMembers (trafficMatrices state.network) podsChosen ∧
        (pods .controller).observed.step state
            (.querySwitches podsChosen) =
          some next := by
  let actions : List RoutedAction :=
    [.send 1 0 1 3 7 0, .handle 0 false 0 0, .send 1 0 1 3 7 0,
      .handle 1 false 0 0]
  have counts :
      (((pods .controller).observed.run?
          ((pods .controller).observedStart pods.virtualToPhysical
            pods.addresses)
          actions).map
          fun state =>
            ((state.seen (.leaf 1)).length,
              decide ((pods .controller).Plannable podsMembers state),
              decide
                (IlpControllerApp.Feasible
                  (pods .controller).toSimulationBase podsMembers
                  (trafficMatrices state.network) podsChosen),
              ((pods .controller).observed.step state
                (.querySwitches podsChosen)).isSome)) =
        some (2, true, true, true) := by
    decide +kernel
  obtain ⟨state, ran, same⟩ := Option.map_eq_some_iff.mp counts
  obtain ⟨two, others⟩ := Prod.mk.inj same
  obtain ⟨plannable, others⟩ := Prod.mk.inj others
  obtain ⟨isFeasible, queries⟩ := Prod.mk.inj others
  obtain ⟨next, isNext⟩ := Option.isSome_iff_exists.mp queries
  exact
    ⟨state, next, TransitionSystem.reachable_of_unrestricted_run? ran, two,
      of_decide_eq_true plannable, of_decide_eq_true isFeasible, isNext⟩

/-! ## What the controller reads -/

/--
In every run, whatever the switches redirect and the controller installs, the
traffic matrix of a switch has the flows of the packets for the gateways that
the switch has seen since the last query, each with its packets counted.
-/
theorem summarises_of_reachable
    {allowed : ObservedState → RoutedAction → Prop}
    {virtualToPhysical : Ipv4Address → Option Ipv4Address}
    {addresses : Nat → Nat → List Ipv4Address}
    {state : ObservedState}
    (reachable :
      sim.observed.Reachable allowed
        (sim.observedStart virtualToPhysical addresses) state)
    {node : Node}
    {gwAddresses : List Ipv4Address}
    {members : SwitchApp.Members}
    (installed :
      state.network.applications node =
        some (.switchApp gwAddresses .controller members)) :
    SwitchApp.Summarises (state.seen node) members.trafficMatrix ∧
      ∀ packet ∈ state.seen node,
        packet.outer.destination ∈ gwAddresses := by
  have watches := watches_of_reachable reachable
  obtain ⟨rfl, summarises, -⟩ := watches.watched node _ installed
  exact ⟨summarises rfl, watches.toGateway node⟩

/-- Leaf 1 of the two pods has seen two packets. -/
theorem summarises_of_reachable_pods :
    ∃ (state : ObservedState) (members : SwitchApp.Members),
      (pods .controller).observed.Reachable (fun _ _ => True)
          ((pods .controller).observedStart pods.virtualToPhysical
            pods.addresses)
          state ∧
        (state.seen (.leaf 1)).length = 2 ∧
        SwitchApp.Summarises (state.seen (.leaf 1))
          members.trafficMatrix := by
  obtain ⟨state, next, reachable, two, -⟩ := performs_query_pods
  obtain ⟨members, installed⟩ :=
    (watches_of_reachable reachable).exists_switchApp
      (deployed_pods .controller).sound.placed rfl
      (show (pods .controller).HasNode (.leaf 1) by decide) rfl
  exact
    ⟨state, members, reachable, two,
      (summarises_of_reachable reachable installed).1⟩

/-! ## What the controller installs -/

/--
At every query of every run, whatever the solver chooses within the memory
constraints, the objective over the leaves' matrices has a value, and with the
caches after the query the packets that the leaves have seen since the last one
would bring no more load to the gateways than this value pays for.  The caches
have to be as large as the controller takes them to be.
-/
theorem gatewayLoad_le_of_query
    (deployable : IlpControllerApp.Deployable sim.toSimulationBase)
    {containerGroups : ContainerGroups}
    (madeFor : sim.MadeFor containerGroups)
    (distinct : (SimulationBase.containerNames containerGroups).Nodup)
    (counted :
      sim.containerCount =
        (SimulationBase.containerNames containerGroups).length)
    {members : IlpControllerApp.Members}
    (located :
      members.containerToPhysicalLocation =
        (IlpControllerApp.Members.setup
          containerGroups).containerToPhysicalLocation)
    (fits : members.memorySize ≤ sim.memory.memorySize)
    (nonnegative : 0 ≤ members.gwCost)
    {allowed : ObservedState → RoutedAction → Prop}
    {virtualToPhysical : Ipv4Address → Option Ipv4Address}
    {addresses : Nat → Nat → List Ipv4Address}
    {state next : ObservedState}
    (reachable :
      sim.observed.Reachable allowed
        (sim.observedStart virtualToPhysical addresses) state)
    (plannable : sim.Plannable members state)
    {chosen : Nat → Nat → Bool}
    (feasible :
      IlpControllerApp.Feasible sim.toSimulationBase members
        (trafficMatrices state.network) chosen)
    (queries :
      sim.observed.step state (.querySwitches chosen) = some next)
    (getHash64 : String → UInt64) :
    ∃ cost,
      IlpControllerApp.objective sim.toSimulationBase members getHash64
          (trafficMatrices state.network) chosen =
          some cost ∧
        (IlpControllerApp.gatewayLoad sim.toSimulationBase members
            getHash64 (caches next.network)
            (fun leaf => state.seen (.leaf leaf)) : Int) *
            members.gwCost ≤
          cost := by
  have watches := watches_of_reachable reachable
  have sameCount : members.containerCount = sim.containerCount := by
    have located := congrArg (fun table => table.entries.length) located
    exact
      located.trans
        ((IlpControllerApp.containerCount_setup madeFor distinct).trans
          counted.symm)
  have addressed : sim.containerCount ≤ 2 ^ 32 :=
    counted.trans_le madeFor.containers
  obtain ⟨after, steps, rfl⟩ := Option.map_eq_some_iff.mp queries
  cases sim.steps_of_step steps with
  | querySwitches mode =>
      exact
        IlpControllerApp.gatewayLoad_le deployable
          (watches.answers deployable.placed mode sameCount addressed fits
            feasible)
          (watches.seen deployable.placed mode plannable) nonnegative

/-- Those two packets are kept away from the gateway. -/
theorem gatewayLoad_le_of_query_pods :
    ∃ state next,
      (pods .controller).observed.step state
            (.querySwitches podsChosen) =
          some next ∧
        (state.seen (.leaf 1)).length = 2 ∧
        ∃ cost,
          IlpControllerApp.objective (pods .controller).toSimulationBase
              podsMembers (fun _ => 0) (trafficMatrices state.network)
              podsChosen =
              some cost ∧
            (IlpControllerApp.gatewayLoad
                (pods .controller).toSimulationBase podsMembers
                (fun _ => 0) (caches next.network)
                (fun leaf => state.seen (.leaf leaf)) : Int) *
                podsMembers.gwCost ≤
              cost := by
  obtain ⟨state, next, reachable, two, plannable, feasible, queries⟩ :=
    performs_query_pods
  exact
    ⟨state, next, queries, two,
      gatewayLoad_le_of_query (deployable_pods .controller)
        (SimulationBase.madeFor_pods .controller) (by decide) (by decide)
        (show podsMembers.containerToPhysicalLocation = _ from rfl)
        (by decide) (by decide) reachable plannable feasible queries _⟩

end RoutedSimulation

end SwitchV2P
