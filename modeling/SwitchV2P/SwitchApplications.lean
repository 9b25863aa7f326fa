import Mathlib.Data.List.Sort
import SwitchV2P.FlowPaths
import SwitchV2P.NetworkInvariant
import SwitchV2P.NextHops
import SwitchV2P.TrafficMatrix

namespace SwitchV2P

/-!
# The application of every switch

Which application `SetupApplications` puts on a switch depends on the mode: a
`P4SwitchApp` on every switch, a `SwitchApp` on every switch, or the one on
some leaves and the other on the rest.  A packet that reaches a switch is
handed to its application before it is routed.
-/

namespace LRUCache

variable {K V : Type} [DecidableEq K]

/-- Every cached pair has the given property. -/
def Stores (holds : K → V → Prop) (cache : LRUCache K V) : Prop :=
  ∀ key value, cache.map key = some value → holds key value

namespace Stores

variable {holds : K → V → Prop} {cache : LRUCache K V}

omit [DecidableEq K] in
theorem setCapacity (capacity : Nat) :
    Stores holds (LRUCache.setCapacity capacity) := by
  intro key value stored
  exact absurd stored.symm (Option.some_ne_none value)

theorem get
    (stores : cache.Stores holds)
    (key : K) :
    (cache.get key).2.Stores holds := by
  cases stored : cache.map key with
  | none =>
      rw [get_of_absent stored]
      exact stores
  | some value =>
      rw [get_of_present stored]
      exact stores

theorem dropBack (stores : cache.Stores holds) :
    cache.dropBack.2.Stores holds := by
  unfold LRUCache.dropBack
  split
  next last back =>
    intro key value stored
    by_cases same : key = last
    · subst same
      exact absurd stored (by simp)
    · exact stores key value ((Function.update_of_ne same ..).symm.trans stored)
  next empty => exact stores

theorem put
    (stores : cache.Stores holds)
    {key : K}
    {value : V}
    (asserted : holds key value) :
    (cache.put key value).2.Stores holds := by
  intro other result stored
  by_cases same : other = key
  · subst same
    have isValue := (Function.update_self ..).symm.trans stored
    rw [← Option.some.inj isValue]
    exact asserted
  · unfold LRUCache.put at stored
    dsimp only at stored
    rw [Function.update_of_ne same] at stored
    split at stored
    next old found => exact stores other result stored
    next absent =>
      split at stored
      next full => exact stores.dropBack other result stored
      next room => exact stores other result stored

theorem bulkInsert
    (stores : cache.Stores holds)
    {items : List (K × V)}
    (asserted : ∀ item ∈ items, holds item.1 item.2) :
    (cache.bulkInsert items).Stores holds := by
  induction items using List.reverseRecOn with
  | nil => exact stores
  | append_singleton earlier item inductionHypothesis =>
      rw [bulkInsert_append]
      refine (inductionHypothesis fun other member => ?_).put ?_
      · exact asserted other (List.mem_append_left _ member)
      · exact asserted item (by simp)

end Stores

end LRUCache

/-! ## The controller's switches -/

namespace IlpControllerApp

variable {sim : SimulationBase}

/-- The controller's list has all switches. -/
theorem mem_switchApps_iff {node : Node} :
    node ∈ switchApps sim ↔
      sim.HasNode node ∧ node.isSwitch = true := by
  unfold switchApps
  cases node <;>
    simp [SimulationBase.HasNode, Node.isSwitch]

theorem nodup_switchApps : (switchApps sim).Nodup := by
  have leaves : ((List.range sim.leafCount).map Node.leaf).Nodup :=
    List.nodup_range.map fun _ _ => Node.leaf.inj
  have spines : ((List.range sim.spineCount).map Node.spine).Nodup :=
    List.nodup_range.map fun _ _ => Node.spine.inj
  have cores : ((List.range sim.coreCount).map Node.core).Nodup :=
    List.nodup_range.map fun _ _ => Node.core.inj
  refine (leaves.append spines ?_).append cores ?_
  · simp [List.disjoint_left]
  · rw [List.disjoint_left]
    intro node member isCore
    obtain ⟨core, _, rfl⟩ := List.mem_map.mp isCore
    simp at member

end IlpControllerApp

namespace SwitchApp

/-- What a `SwitchApp` makes of the destination. -/
theorem destination_receivePacket
    (gwAddresses : List Ipv4Address)
    (cache : LRUCache Ipv4Address Ipv4Address)
    (packet : DataPacket) :
    (receivePacket gwAddresses cache packet).2.outer.destination =
      if packet.outer.destination ∈ gwAddresses then
        (cache.get packet.inner.destination).1.getD
          packet.outer.destination
      else
        packet.outer.destination := by
  unfold receivePacket
  split
  next =>
    dsimp only
    split
    next address hit =>
      rw [hit]
      rfl
    next miss =>
      rw [miss]
      rfl
  next => rfl

end SwitchApp

/-! ## Applications -/

/-- An application of a switch, with its members. -/
inductive SwitchApplication where
  | p4SwitchApp (config : SwitchConfig) (state : SwitchState)
  | switchApp
      (gwAddresses : List Ipv4Address)
      (switchMode : Mode)
      (members : SwitchApp.Members)

/-- What `Setup` fixes for an application. -/
inductive SwitchKind where
  | p4SwitchApp (config : SwitchConfig)
  | switchApp (gwAddresses : List Ipv4Address) (switchMode : Mode)
  deriving DecidableEq

/-- What an application leaves behind. -/
structure ApplicationOutcome where
  application : SwitchApplication
  packet : DataPacket
  generated : List ProtocolPacket

namespace SwitchApplication

def kind : SwitchApplication → SwitchKind
  | p4SwitchApp config _ => .p4SwitchApp config
  | switchApp gwAddresses switchMode _ => .switchApp gwAddresses switchMode

/--
`ReceivePacket` on a data packet, which is forwarded.  There is no result in
Bluebird mode, whose slow path has a model of its own.
-/
def receivePacket
    (draw : Bool)
    (application : SwitchApplication)
    (packet : DataPacket) :
    Option ApplicationOutcome :=
  match application with
  | p4SwitchApp config state =>
      if config.simMode = .bluebird then
        none
      else
        let received := config.receivePacket draw state packet
        some
          { application := p4SwitchApp config received.state
            packet := received.packet
            generated := received.generated }
  | switchApp gwAddresses switchMode members =>
      let received := members.receivePacket gwAddresses switchMode packet
      some
        { application := switchApp gwAddresses switchMode received.1
          packet := received.2
          generated := [] }

/--
`HandleProtocolPacket`: the packets to send on.  A `SwitchApp` would read the
64 zero bytes of a protocol packet as headers, for which there is no result.
-/
def handleProtocolPacket
    (application : SwitchApplication)
    (packet : ProtocolPacket) :
    Option (SwitchApplication × List ProtocolPacket) :=
  match application with
  | p4SwitchApp config state =>
      let handled := config.handleProtocolPacket state packet
      some (p4SwitchApp config handled.1, handled.2)
  | switchApp _ _ _ => none

/-- All mappings that the application can serve have the property. -/
def Stores
    (holds : Ipv4Address → Ipv4Address → Prop) :
    SwitchApplication → Prop
  | p4SwitchApp _ state => state.cache.Stores holds
  | switchApp _ _ members => members.cache.Stores holds

/-- Every flow that the application has counted has the property. -/
def Observes
    (holds : Ipv4Address → Ipv4Address → Prop) :
    SwitchApplication → Prop
  | p4SwitchApp _ _ => True
  | switchApp _ _ members =>
      ∀ flow info, members.trafficMatrix.lookup flow = some info →
        holds info.dstIp info.gwIp

/-! ## One data packet without an invalidation tag -/

/-- A switch may redirect a packet that is bound for a gateway. -/
structure Relayed
    (gwAddresses : List Ipv4Address)
    (holds : Ipv4Address → Ipv4Address → Prop)
    (packet after : DataPacket) :
    Prop where
  same : SwitchConfig.SamePacket packet after
  evicted : ∀ mapping ∈ after.evictionTag.tags, holds mapping.1 mapping.2
  destination :
    after.outer.destination = packet.outer.destination ∨
      (packet.outer.destination ∈ gwAddresses ∧
        holds packet.inner.destination after.outer.destination)

variable
  {holds : Ipv4Address → Ipv4Address → Prop}
  {gwAddresses : List Ipv4Address}

/-- What a `P4SwitchApp` does to such a packet. -/
theorem relayed_of_handled
    {config : SwitchConfig}
    (sameGateways : config.gwAddresses = gwAddresses)
    {packet : DataPacket}
    {received : Received}
    (uninvalidated : packet.invalidationTag.tags = [])
    (handled : config.Handled holds packet received) :
    Relayed gwAddresses holds packet received.packet where
  same := handled.same
  evicted := handled.evicted
  destination := by
    have readdressed := handled.destination
    generalize received.packet.outer.destination = address
      at readdressed ⊢
    cases readdressed with
    | kept => exact Or.inl rfl
    | followed readsTags tagged vouched different =>
        have member := TagStack.mem_of_peek tagged
        rw [uninvalidated] at member
        exact absurd member List.not_mem_nil
    | hit untagged toGateway vouched =>
        rw [SwitchConfig.isGateway, decide_eq_true_eq,
          sameGateways] at toGateway
        exact Or.inr ⟨toGateway, vouched⟩

/-- What a `SwitchApp` does to a packet. -/
theorem relayed_switchApp
    {cache : LRUCache Ipv4Address Ipv4Address}
    (stores : cache.Stores holds)
    {packet : DataPacket}
    (evicted :
      ∀ mapping ∈ packet.evictionTag.tags, holds mapping.1 mapping.2) :
    (SwitchApp.receivePacket gwAddresses cache packet).1.Stores holds ∧
      Relayed gwAddresses holds packet
        (SwitchApp.receivePacket gwAddresses cache packet).2 := by
  unfold SwitchApp.receivePacket
  split
  next toGateway =>
    have looked := stores.get packet.inner.destination
    have found := LRUCache.get_fst cache packet.inner.destination
    dsimp only
    split
    next address hit =>
      refine ⟨looked, ⟨rfl, rfl, rfl, rfl, rfl, rfl, rfl⟩, evicted, ?_⟩
      exact Or.inr ⟨toGateway, stores _ _ (found.symm.trans hit)⟩
    next miss => exact ⟨looked, .refl packet, evicted, Or.inl rfl⟩
  next resolved => exact ⟨stores, .refl packet, evicted, Or.inl rfl⟩

/-- A counted packet is one more observation. -/
theorem observes_countPacket
    {trafficMatrix : TrafficMatrix}
    (observes :
      ∀ flow info, trafficMatrix.lookup flow = some info →
        holds info.dstIp info.gwIp)
    {packet : DataPacket}
    (observed : holds packet.inner.destination packet.outer.destination) :
    ∀ flow info,
      (SwitchApp.countPacket trafficMatrix packet).lookup flow =
          some info →
        holds info.dstIp info.gwIp := by
  intro flow info found
  unfold SwitchApp.countPacket at found
  dsimp only at found
  by_cases isFlow : flow = SwitchApp.flowOf packet
  · subst isFlow
    rw [AList.lookup_insert] at found
    rw [← Option.some.inj found]
    exact observed
  · rw [AList.lookup_insert_ne isFlow] at found
    exact observes flow info found

/-- Whatever it holds, an application changes a destination and two tags. -/
theorem samePacket_receivePacket
    {draw : Bool}
    {application : SwitchApplication}
    {packet : DataPacket}
    {outcome : ApplicationOutcome}
    (received : application.receivePacket draw packet = some outcome) :
    SwitchConfig.SamePacket packet outcome.packet := by
  cases application with
  | p4SwitchApp config state =>
      rw [receivePacket] at received
      dsimp only at received
      split at received
      next => exact absurd received (by simp)
      next =>
        rw [← Option.some.inj received]
        exact config.samePacket_receivePacket draw state packet
  | switchApp gwAddresses switchMode members =>
      rw [receivePacket] at received
      rw [← Option.some.inj received]
      have stores : members.cache.Stores fun _ _ => True :=
        fun _ _ _ => trivial
      exact (relayed_switchApp stores fun _ _ => trivial).2.same

/-- What `Setup` fixes stays fixed. -/
theorem kind_receivePacket
    {draw : Bool}
    {application : SwitchApplication}
    {packet : DataPacket}
    {outcome : ApplicationOutcome}
    (received : application.receivePacket draw packet = some outcome) :
    outcome.application.kind = application.kind := by
  cases application with
  | p4SwitchApp config state =>
      rw [receivePacket] at received
      dsimp only at received
      split at received
      next => exact absurd received (by simp)
      next =>
        rw [← Option.some.inj received]
        rfl
  | switchApp gwAddresses switchMode members =>
      rw [receivePacket] at received
      rw [← Option.some.inj received]
      rfl

theorem kind_handleProtocolPacket
    {application : SwitchApplication}
    {packet : ProtocolPacket}
    {handled : SwitchApplication × List ProtocolPacket}
    (received : application.handleProtocolPacket packet = some handled) :
    handled.1.kind = application.kind := by
  cases application with
  | p4SwitchApp config state =>
      rw [handleProtocolPacket] at received
      rw [← Option.some.inj received]
      rfl
  | switchApp gwAddresses switchMode members =>
      rw [handleProtocolPacket] at received
      exact absurd received (by simp)

end SwitchApplication

/-! ## Installation -/

/-- The memory of the switches, and the hash function of each. -/
structure SwitchMemory where
  memorySize : Nat
  memorySize_pos : 0 < memorySize
  hash : Node → Ipv4Address → Nat
  bloomFilterSize : Nat := 80
  /-- What the switch finds where it reserves its filter, and behind it. -/
  heap : Node → UInt32 → UInt8

namespace TraceSimulation

variable (sim : TraceSimulation) (memory : SwitchMemory)

/-- `gatewayLeaves`, in the order of a `set`. -/
def gatewayLeaves : List Nat :=
  ((sim.gws.map Prod.fst).dedup).insertionSort (· ≤ ·)

/-- `GetId` of the nodes that `InitializeNodes` creates before the hosts. -/
def nodeId : Node → UInt32
  | .core core => UInt32.ofNat core
  | .spine spine => UInt32.ofNat (sim.coreCount + spine)
  | .leaf leaf => UInt32.ofNat (sim.coreCount + sim.spineCount + leaf)
  | .host _ _ => 0

/-- What `P4SwitchAppHelper` and the attributes give an application. -/
def switchConfig
    (node : Node)
    (switchType : SwitchType)
    (simMode : Mode) :
    SwitchConfig where
  switchAddress := sim.nodeAddress node
  nodeId := sim.nodeId node
  switchType := switchType
  simMode := simMode
  gwAddresses := sim.gwAddresses
  podCount := UInt32.ofNat sim.podCount
  defaultTtl := sim.attributes.defaultTtl
  sourceLearning := sim.attributes.sourceLearning
  accessBit := sim.attributes.accessBit
  bloomFilterEnabled := sim.attributes.bloomFilterEnabled
  generateInvalidation := sim.attributes.generateInvalidation

/-- `P4SwitchAppHelper::Install`. -/
def p4SwitchApp
    (switchType : SwitchType)
    (simMode : Mode)
    (node : Node) :
    SwitchApplication :=
  .p4SwitchApp (sim.switchConfig node switchType simMode)
    { cache :=
        P4Cache.setup memory.memorySize memory.memorySize_pos
          (memory.hash node)
      bloomFilter :=
        BloomFilter.setup memory.bloomFilterSize (memory.heap node) }

/-- `SwitchAppHelper::Install`. -/
def switchApp (simMode : Mode) : SwitchApplication :=
  .switchApp sim.gwAddresses simMode (.setup memory.memorySize)

/-- `SetupApplications`: the type of a `P4SwitchApp`. -/
def switchTypeOf : Node → SwitchType
  | .leaf leaf => if leaf ∈ sim.gatewayLeaves then .gwLeaf else .leaf
  | .spine spine =>
      if ∃ gw ∈ sim.gws,
          gw.1 / sim.podWidth = spine / sim.podWidth then
        .gwSpine
      else
        .spine
  | _ => .core

/-- `SetupApplications`: `m_switchApps`, each with its node. -/
def installSwitchApps : List (Node × SwitchApplication) :=
  let leaves := (List.range sim.leafCount).map Node.leaf
  let spines := (List.range sim.spineCount).map Node.spine
  let cores := (List.range sim.coreCount).map Node.core
  let simMode := sim.simParameters.simMode
  if simMode = .switchV2P ∨ simMode = .localLearning then
    (leaves ++ spines ++ cores).map fun node =>
      (node, sim.p4SwitchApp memory (sim.switchTypeOf node) simMode node)
  else if simMode = .gwCache then
    let gatewayLeaves := sim.gatewayLeaves.map Node.leaf
    (gatewayLeaves.map fun node =>
        (node, sim.p4SwitchApp memory .gwLeaf .localLearning node)) ++
      ((leaves.filter fun node => node ∉ gatewayLeaves) ++
        spines ++ cores).map fun node =>
          (node, sim.switchApp memory .noCache)
  else if simMode = .bluebird then
    (leaves.map fun node =>
        (node, sim.p4SwitchApp memory .leaf simMode node)) ++
      (spines ++ cores).map fun node =>
        (node, sim.switchApp memory .noCache)
  else
    (leaves ++ spines ++ cores).map fun node =>
      (node, sim.switchApp memory simMode)

variable {sim memory}

/-! ## Every switch once -/

theorem mem_gatewayLeaves {leaf : Nat} :
    leaf ∈ sim.gatewayLeaves ↔ ∃ gw ∈ sim.gws, gw.1 = leaf := by
  rw [gatewayLeaves, List.mem_insertionSort, List.mem_dedup, List.mem_map]

theorem nodup_gatewayLeaves : sim.gatewayLeaves.Nodup :=
  (List.perm_insertionSort _ _).nodup_iff.mpr (List.nodup_dedup _)

/-- Gateway leaves first, then the other leaves. -/
theorem perm_leaves
    (placed : FlowPaths.GatewaysPlaced sim.toSimulationBase) :
    (sim.gatewayLeaves.map Node.leaf ++
        ((List.range sim.leafCount).map Node.leaf).filter fun node =>
          node ∉ sim.gatewayLeaves.map Node.leaf).Perm
      ((List.range sim.leafCount).map Node.leaf) := by
  have leaves : ((List.range sim.leafCount).map Node.leaf).Nodup :=
    List.nodup_range.map fun _ _ => Node.leaf.inj
  have gateways : (sim.gatewayLeaves.map Node.leaf).Nodup :=
    nodup_gatewayLeaves.map fun _ _ => Node.leaf.inj
  refine
    (List.perm_ext_iff_of_nodup
      (gateways.append (leaves.filter _) ?_) leaves).mpr fun node => ?_
  · intro node member others
    exact of_decide_eq_true (List.mem_filter.mp others).2 member
  · rw [List.mem_append, List.mem_filter]
    constructor
    · rintro (member | others)
      · obtain ⟨leaf, isGateway, rfl⟩ := List.mem_map.mp member
        obtain ⟨gw, isGw, rfl⟩ := mem_gatewayLeaves.mp isGateway
        exact
          List.mem_map_of_mem (List.mem_range.mpr (placed gw isGw).1)
      · exact others.1
    · intro member
      by_cases isGateway : node ∈ sim.gatewayLeaves.map Node.leaf
      · exact Or.inl isGateway
      · exact Or.inr ⟨member, decide_eq_true isGateway⟩

/-- In every mode each switch gets one application. -/
theorem perm_installSwitchApps
    (placed : FlowPaths.GatewaysPlaced sim.toSimulationBase) :
    ((sim.installSwitchApps memory).map Prod.fst).Perm
      (IlpControllerApp.switchApps sim.toSimulationBase) := by
  unfold installSwitchApps IlpControllerApp.switchApps
  dsimp only
  split
  next caching =>
    rw [List.map_map]
    exact .of_eq (List.map_id _)
  next =>
    split
    next gwCache =>
      simp only [List.map_append, List.map_map, Function.comp_def,
        List.map_id', ← List.append_assoc]
      exact ((perm_leaves placed).append_right _).append_right _
    next =>
      split
      next bluebird =>
        simp only [List.map_append, List.map_map, Function.comp_def,
          ← List.append_assoc]
        exact .refl _
      next others =>
        rw [List.map_map]
        exact .of_eq (List.map_id _)

/-- The applications that the simulated modes put on a switch. -/
inductive Installs
    (sim : TraceSimulation)
    (memory : SwitchMemory)
    (node : Node) :
    SwitchApplication → Prop where
  | caching
      (mode :
        sim.simParameters.simMode = .switchV2P ∨
          sim.simParameters.simMode = .localLearning) :
      Installs sim memory node
        (sim.p4SwitchApp memory (sim.switchTypeOf node)
          sim.simParameters.simMode node)
  | gatewayLeaf
      (mode : sim.simParameters.simMode = .gwCache) :
      Installs sim memory node
        (sim.p4SwitchApp memory .gwLeaf .localLearning node)
  | bluebird
      (mode : sim.simParameters.simMode = .bluebird) :
      Installs sim memory node
        (sim.p4SwitchApp memory .leaf .bluebird node)
  | plain
      {simMode : Mode}
      (notCaching :
        ¬ (sim.simParameters.simMode = .switchV2P ∨
          sim.simParameters.simMode = .localLearning)) :
      Installs sim memory node (sim.switchApp memory simMode)

theorem installs_of_mem
    {node : Node}
    {application : SwitchApplication}
    (member : (node, application) ∈ sim.installSwitchApps memory) :
    Installs sim memory node application := by
  unfold installSwitchApps at member
  dsimp only at member
  split at member
  next mode =>
    obtain ⟨other, _, same⟩ := List.mem_map.mp member
    obtain ⟨rfl, rfl⟩ := Prod.mk.inj same
    exact .caching mode
  next notCaching =>
    split at member
    next mode =>
      rcases List.mem_append.mp member with member | member
      · obtain ⟨other, _, same⟩ := List.mem_map.mp member
        obtain ⟨rfl, rfl⟩ := Prod.mk.inj same
        exact .gatewayLeaf mode
      · obtain ⟨other, _, same⟩ := List.mem_map.mp member
        obtain ⟨rfl, rfl⟩ := Prod.mk.inj same
        exact .plain notCaching
    next =>
      split at member
      next mode =>
        rcases List.mem_append.mp member with member | member
        · obtain ⟨other, _, same⟩ := List.mem_map.mp member
          obtain ⟨rfl, rfl⟩ := Prod.mk.inj same
          rw [mode]
          exact .bluebird mode
        · obtain ⟨other, _, same⟩ := List.mem_map.mp member
          obtain ⟨rfl, rfl⟩ := Prod.mk.inj same
          exact .plain notCaching
      next =>
        obtain ⟨other, _, same⟩ := List.mem_map.mp member
        obtain ⟨rfl, rfl⟩ := Prod.mk.inj same
        exact .plain notCaching

/-- The application that is installed on a node. -/
def applicationAt
    (sim : TraceSimulation)
    (memory : SwitchMemory)
    (node : Node) :
    Option SwitchApplication :=
  (sim.installSwitchApps memory).lookup node

theorem installs_of_applicationAt
    {node : Node}
    {application : SwitchApplication}
    (installed : sim.applicationAt memory node = some application) :
    Installs sim memory node application := by
  obtain ⟨before, after, split, _⟩ :=
    List.lookup_eq_some_iff.mp installed
  refine installs_of_mem ?_
  rw [split]
  exact List.mem_append_right _ List.mem_cons_self

/-- The switches have applications, and no other node has. -/
theorem isSome_applicationAt
    (placed : FlowPaths.GatewaysPlaced sim.toSimulationBase)
    (node : Node) :
    (sim.applicationAt memory node).isSome = true ↔
      sim.HasNode node ∧ node.isSwitch = true := by
  have installed :
      ((sim.installSwitchApps memory).map Prod.fst).Perm
        (IlpControllerApp.switchApps sim.toSimulationBase) :=
    perm_installSwitchApps placed
  rw [← IlpControllerApp.mem_switchApps_iff, ← installed.mem_iff,
    List.mem_map, applicationAt, List.lookup_isSome_iff]
  simp only [beq_iff_eq]
  simp only [eq_comm]

end TraceSimulation

end SwitchV2P
