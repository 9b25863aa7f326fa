import Mathlib.Algebra.BigOperators.Group.List.Basic
import Mathlib.Algebra.Order.Ring.Int
import SwitchV2P.FlowPaths
import SwitchV2P.SetupTunnel
import SwitchV2P.TrafficMatrix

namespace AList

variable {K : Type} {V : Type} {Item : Type} [DecidableEq K]

/-- The table of items that are inserted one after the other. -/
def ofItems
    (key : Item → K)
    (value : Item → V)
    (items : List Item) :
    AList fun _ : K => V :=
  items.foldl
    (fun (table : AList fun _ : K => V) item =>
      table.insert (key item) (value item))
    ∅

/-- Under different keys, nothing that is inserted is overwritten. -/
theorem ofItems_of_nodup
    (key : Item → K)
    (value : Item → V)
    {items : List Item}
    (distinct : (items.map key).Nodup) :
    (ofItems key value items).entries.length = items.length ∧
      ∀ other ∈ ofItems key value items, other ∈ items.map key := by
  induction items using List.reverseRecOn with
  | nil => exact ⟨rfl, fun other member => absurd member (notMem_empty other)⟩
  | append_singleton earlier last inductionHypothesis =>
      rw [List.map_append, List.map_singleton] at distinct ⊢
      obtain ⟨distinctEarlier, _, apart⟩ := List.nodup_append.mp distinct
      obtain ⟨length, keys⟩ := inductionHypothesis distinctEarlier
      have next :
          ofItems key value (earlier ++ [last]) =
            (ofItems key value earlier).insert (key last) (value last) := by
        rw [ofItems, List.foldl_append]
        rfl
      have isNew : key last ∉ ofItems key value earlier := fun member =>
        apart _ (keys _ member) _ List.mem_cons_self rfl
      rw [next]
      refine ⟨?_, fun other member => ?_⟩
      · rw [entries_insert_of_notMem isNew, List.length_cons, length,
          List.length_append, List.length_singleton]
      · rcases (mem_insert _).mp member with rfl | old
        · exact List.mem_append_right _ List.mem_cons_self
        · exact List.mem_append_left _ (keys other old)

end AList

namespace SwitchV2P

/-!
# What the controller minimises

`Setup` locates the containers, and `QuerySwitches` adds up one cost for every
flow that its own leaf has counted: the gateway's cost, unless a switch on the
flow's path is given the destination.  The expression of a switch for a
container exists only for the destinations in the matrices whose number is
below the number of located containers; asking for any other one throws.
-/

namespace IlpControllerApp

/-- The members that `Setup` and the attributes fill. -/
structure Members where
  containerToPhysicalLocation : AList fun _ : UInt32 => Nat × Nat
  gwCost : Int := 40
  /-- The controller's own `MemorySize`; that of the switches is theirs. -/
  memorySize : Nat := 10

/-- `m_containerToPhysicalLocation[container]`. -/
def Members.location (members : Members) (container : UInt32) : Nat × Nat :=
  (members.containerToPhysicalLocation.lookup container).getD (0, 0)

/-- `m_containerToPhysicalLocation.size ()`. -/
def Members.containerCount (members : Members) : Nat :=
  members.containerToPhysicalLocation.entries.length

/-- `Setup`. -/
def Members.setup (containerGroups : ContainerGroups) : Members where
  containerToPhysicalLocation :=
    containerGroups.zipIdx.foldl
      (fun locations leaf =>
        leaf.1.zipIdx.foldl
          (fun locations physicalMachine =>
            physicalMachine.1.foldl
              (fun locations container =>
                locations.insert
                  (((SimulationBase.assignIds containerGroups).containerToId
                    container).getD 0)
                  (leaf.2, physicalMachine.2))
              locations)
          locations)
      ∅

variable (sim : SimulationBase) (members : Members)

/-- `GetPacketCost`. -/
def getPacketCost
    (srcContainerId dstContainerId : UInt32)
    (steps gwLeaf gwPod : Nat) :
    Option Nat := do
  let srcLeaf := (members.location srcContainerId).1
  let srcPod ← div32 srcLeaf sim.podWidth
  let dstLeaf := (members.location dstContainerId).1
  let dstPod ← div32 dstLeaf sim.podWidth
  return match steps with
    | 1 => if srcLeaf = dstLeaf then 2 else if srcPod = dstPod then 4 else 6
    | 2 => if srcPod = dstPod then 4 else 6
    | 3 => if sim.coreCount = 0 ∧ dstLeaf = gwLeaf then 4 else 6
    | 4 => if dstPod = gwPod then 6 else 8
    | _ => if gwLeaf = dstLeaf then 6 else if gwPod = dstPod then 8 else 10

/-- `activeDestinations.count (container)`. -/
def activeDestination
    (trafficMatrices : Nat → TrafficMatrix)
    (container : Nat) :
    Bool :=
  (List.range sim.leafCount).any fun leaf =>
    (trafficMatrices leaf).entries.any fun entry =>
      entry.2.dstIp.toNat = container

/-- `switchContainerExpressions[switchIdx].at (container)`, evaluated. -/
def expressionAt
    (trafficMatrices : Nat → TrafficMatrix)
    (chosen : Nat → Nat → Bool)
    (container switchIdx : Nat) :
    Option Bool :=
  if switchIdx < (switchApps sim).length ∧
      container < members.containerCount ∧
      activeDestination sim trafficMatrices container then
    some (chosen switchIdx container)
  else
    none

/-- The cost of a flow that is not sent to the gateway. -/
def servedCost
    (leaf : Nat)
    (srcContainerId : UInt32)
    (info : FlowInfo) :
    Option Nat := do
  let gw ← sim.gws[sim.gwAddresses.idxOf info.gwIp]?
  let gwLeaf := gw.1
  let gwPod ← div32 gwLeaf sim.podWidth
  if leaf = gwLeaf then
    getPacketCost sim members srcContainerId info.dstIp 1 gwLeaf gwPod
  else
    return 8

/-- What one flow adds to `cost`. -/
def flowCost
    (getHash64 : String → UInt64)
    (trafficMatrices : Nat → TrafficMatrix)
    (chosen : Nat → Nat → Bool)
    (leaf : Nat)
    (srcContainerId : UInt32)
    (info : FlowInfo) :
    Option Int := do
  let switches ←
    querySwitches sim getHash64 leaf (members.location srcContainerId).2
      info.gwIp
  let expressions ←
    switches.mapM
      (expressionAt sim members trafficMatrices chosen info.dstIp.toNat)
  let served ← servedCost sim members leaf srcContainerId info
  return info.packetCount.toNat *
    (if expressions.any id then (served : Int) else members.gwCost)

/-- The flows from containers below a leaf, in the order of its matrix. -/
def attachedFlows
    (trafficMatrix : TrafficMatrix)
    (leaf : Nat) :
    List ((Ipv4Address × UInt32) × FlowInfo) :=
  (trafficMatrix.entries.map fun entry => (entry.1, entry.2)).filter
    fun flow => (members.location flow.1.1).1 = leaf

/-- The value of `cost` for what the solver has chosen. -/
def objective
    (getHash64 : String → UInt64)
    (trafficMatrices : Nat → TrafficMatrix)
    (chosen : Nat → Nat → Bool) :
    Option Int := do
  let costs ←
    ((List.range sim.leafCount).flatMap fun leaf =>
        (attachedFlows members (trafficMatrices leaf) leaf).map fun flow =>
          (leaf, flow)).mapM
      fun flow =>
        flowCost sim members getHash64 trafficMatrices chosen flow.1
          flow.2.1.1 flow.2.2
  return costs.sum

/-! ## The located containers -/

section Setup

variable {containerGroups : ContainerGroups}

/-- `Setup` visits all places. -/
theorem setup_eq (containerGroups : ContainerGroups) :
    (Members.setup containerGroups).containerToPhysicalLocation =
      AList.ofItems
        (fun place : ContainerPlace =>
          SimulationBase.containerAddress containerGroups place.2)
        (fun place => place.1) containerGroups.places :=
  ContainerGroups.foldl_places
    (fun leaf host (locations : AList fun _ : UInt32 => Nat × Nat)
        container =>
      locations.insert
        (((SimulationBase.assignIds containerGroups).containerToId
          container).getD 0)
        (leaf, host))
    ∅ containerGroups

/-- If no name stands twice, every container is located. -/
theorem containerCount_setup
    {sim : SimulationBase}
    (madeFor : sim.MadeFor containerGroups)
    (distinct : (SimulationBase.containerNames containerGroups).Nodup) :
    (Members.setup containerGroups).containerCount =
      (SimulationBase.containerNames containerGroups).length := by
  have distinctPlaces : containerGroups.places.Nodup := by
    rw [← ContainerGroups.map_places] at distinct
    exact distinct.of_map _
  have distinctAddresses :
      (containerGroups.places.map fun place =>
        SimulationBase.containerAddress containerGroups place.2).Nodup :=
    distinctPlaces.map_on fun first isFirst second isSecond same =>
      SimulationBase.places_eq_of_nodup distinct isFirst isSecond
        (madeFor.name_eq isFirst isSecond same)
  obtain ⟨length, -⟩ :=
    AList.ofItems_of_nodup _ (fun place : ContainerPlace => place.1)
      distinctAddresses
  rw [Members.containerCount, setup_eq, length,
    ← ContainerGroups.map_places, List.length_map]

end Setup

/-! ## Sums of costs that may fail -/

theorem mapM_eq_some_map
    {Item Result : Type}
    {evaluate : Item → Option Result}
    {result : Item → Result}
    {items : List Item}
    (results : ∀ item ∈ items, evaluate item = some (result item)) :
    items.mapM evaluate = some (items.map result) := by
  induction items with
  | nil => rfl
  | cons item rest inductionHypothesis =>
      have others :=
        inductionHypothesis fun other member =>
          results other (List.mem_cons_of_mem item member)
      rw [List.mapM_cons, results item List.mem_cons_self, others]
      rfl

/-- If every cost exists, so does the list of costs. -/
theorem exists_mapM
    {Item Cost : Type}
    {cost : Item → Option Cost}
    {items : List Item}
    (costs : ∀ item ∈ items, ∃ result, cost item = some result) :
    ∃ results, items.mapM cost = some results := by
  induction items with
  | nil => exact ⟨[], rfl⟩
  | cons item rest inductionHypothesis =>
      obtain ⟨first, isFirst⟩ := costs item List.mem_cons_self
      obtain ⟨others, isOthers⟩ :=
        inductionHypothesis fun other member =>
          costs other (List.mem_cons_of_mem item member)
      exact ⟨first :: others, by simp [List.mapM_cons, isFirst, isOthers]⟩

/-- A bound on each cost is a bound on their sum. -/
theorem sum_le_of_mapM
    {Item : Type}
    {cost : Item → Option Int}
    {weight : Item → Nat}
    {items : List Item}
    {costs : List Int}
    (found : items.mapM cost = some costs)
    (bound :
      ∀ item ∈ items, ∀ result, cost item = some result →
        (weight item : Int) ≤ result) :
    ((items.map weight).sum : Nat) ≤ costs.sum := by
  induction items generalizing costs with
  | nil =>
      cases found
      exact le_rfl
  | cons item rest inductionHypothesis =>
      rw [List.mapM_cons] at found
      obtain ⟨first, isFirst, found⟩ := Option.bind_eq_some_iff.mp found
      obtain ⟨others, isOthers, found⟩ := Option.bind_eq_some_iff.mp found
      cases found
      have atFirst := bound item List.mem_cons_self first isFirst
      have atOthers :=
        inductionHypothesis isOthers fun other member =>
          bound other (List.mem_cons_of_mem item member)
      rw [List.map_cons, List.sum_cons, List.sum_cons, Nat.cast_add]
      exact add_le_add atFirst atOthers

end IlpControllerApp

end SwitchV2P
