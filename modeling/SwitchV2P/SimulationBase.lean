import Mathlib.Data.List.Infix
import Mathlib.Logic.Function.Basic
import SwitchV2P.IpUtils
import SwitchV2P.SimParameters

namespace SwitchV2P

/-!
# The topology of a simulation

`SimulationBase` derives the sizes of the network from its parameters and
checks them with assertions.  For the topology container groups only matter
through the number of hosts below each leaf and the places of the gateways.

Counts are `uint32_t` in the source and are truncated where the source
truncates them.
-/

/-- What the constructor of `SimulationBase` is given, and `m_gws`. -/
structure SimulationBase where
  simParameters : SimulationParameters
  /-- The number of hosts below each leaf. -/
  hostCounts : List Nat
  /-- Leaf and host of each gateway. -/
  gws : List (Nat × Nat)
  deriving Repr, DecidableEq

namespace SimulationBase

variable (sim : SimulationBase)

/-- `m_leafCount`. -/
def leafCount : Nat :=
  sim.hostCounts.length % 2 ^ 32

/-- `m_spineCount`. -/
def spineCount : Nat :=
  sim.leafCount

/-- `m_coreCount`. -/
def coreCount : Nat :=
  match sim.simParameters.networkTopology with
  | .clos => 0
  | .fattree => sim.simParameters.numOfCore % 2 ^ 32

/-- `m_podWidth`: a CLOS network is one pod. -/
def podWidth : Nat :=
  match sim.simParameters.networkTopology with
  | .clos => sim.leafCount
  | .fattree => sim.simParameters.podWidth % 2 ^ 32

/-- `m_podCount`. -/
def podCount : Nat :=
  sim.spineCount / sim.podWidth

/-- `m_containerGroups[leaf].size ()`. -/
def hostCount (leaf : Nat) : Nat :=
  sim.hostCounts.getD leaf 0

/--
The assertions of the constructor.  A pod width of zero is a division by zero
before the first of them.
-/
structure Accepted : Prop where
  podWidth_ne_zero : sim.podWidth ≠ 0
  ports : 8 ≤ sim.simParameters.numOfPorts
  podWidth_le : sim.podWidth ≤ sim.simParameters.numOfPorts / 2
  closLeaves :
    sim.simParameters.networkTopology = .clos → sim.leafCount ≤ 255
  fullPods :
    sim.simParameters.networkTopology = .fattree →
      sim.spineCount % sim.podWidth = 0
  coresDivide : sim.coreCount % sim.podWidth = 0
  podCount_le : sim.podCount ≤ sim.simParameters.numOfPorts
  octetFits : sim.podCount * 3 % 2 ^ 32 < 255
  hostCount_le : ∀ leaf < sim.leafCount, sim.hostCount leaf ≤ 255

/-- The physical address of a host. -/
def hostAddress (leaf host : Nat) : Ipv4Address :=
  IpUtils.getNodePhysicalAddress
    (leaf / sim.podWidth) (leaf % sim.podWidth) host

/-- `m_gwAddresses`. -/
def gwAddresses : List Ipv4Address :=
  sim.gws.map fun gw => sim.hostAddress gw.1 gw.2

end SimulationBase

/-! ## The containers -/

/-- `ContainerGroups`: the container names of every host below every leaf. -/
abbrev ContainerGroups := List (List (List String))

/-- The members that `AssignIds` fills, and its `containerId`. -/
structure AssignedIds where
  containerId : UInt32
  gws : List (Nat × Nat)
  containerToId : String → Option UInt32

namespace SimulationBase

/-- The name contains `Gateway`. -/
def namesGateway (name : String) : Bool :=
  "Gateway".toList <:+: name.toList

/-- The body of the loops of `AssignIds`. -/
def assignId
    (leaf host : Nat)
    (ids : AssignedIds)
    (name : String) :
    AssignedIds where
  containerId := ids.containerId + 1
  gws :=
    if namesGateway name then
      ids.gws ++ [(leaf, host)]
    else
      ids.gws
  containerToId :=
    Function.update ids.containerToId name (some ids.containerId)

/-- `AssignIds`. -/
def assignIds (containerGroups : ContainerGroups) : AssignedIds :=
  containerGroups.zipIdx.foldl
    (fun ids leaf =>
      leaf.1.zipIdx.foldl
        (fun ids host => host.1.foldl (assignId leaf.2 host.2) ids)
        ids)
    { containerId := 0
      gws := []
      containerToId := fun _ => none }

/-- The container names, in the order of the loops of `AssignIds`. -/
def containerNames (containerGroups : ContainerGroups) : List String :=
  containerGroups.flatten.flatten

/-- Every number is a position in the names that have been numbered. -/
structure Numbers (names : List String) (ids : AssignedIds) : Prop where
  containerId : ids.containerId = UInt32.ofNat names.length
  numbered :
    ∀ name ∈ names, ∃ containerId, ids.containerToId name = some containerId
  position :
    ∀ name containerId, ids.containerToId name = some containerId →
      ∃ position : Nat, names[position]? = some name ∧
        containerId = UInt32.ofNat position

namespace Numbers

variable {names : List String} {ids : AssignedIds}

theorem assignId
    (numbers : Numbers names ids)
    (leaf host : Nat)
    (name : String) :
    Numbers (names ++ [name]) (assignId leaf host ids name) where
  containerId := by
    rw [List.length_append, UInt32.ofNat_add, ← numbers.containerId]
    rfl
  numbered := by
    intro other member
    by_cases same : other = name
    · subst same
      exact ⟨ids.containerId, Function.update_self ..⟩
    · have earlier :=
        (List.mem_append.mp member).resolve_right fun isLast =>
          same (List.mem_singleton.mp isLast)
      obtain ⟨containerId, isId⟩ := numbers.numbered other earlier
      exact ⟨containerId, (Function.update_of_ne same ..).trans isId⟩
  position := by
    intro other containerId isId
    by_cases same : other = name
    · subst same
      have isNumber := (Function.update_self ..).symm.trans isId
      refine ⟨names.length, List.getElem?_concat_length, ?_⟩
      rw [← Option.some.inj isNumber]
      exact numbers.containerId
    · have isNumber := (Function.update_of_ne same ..).symm.trans isId
      obtain ⟨position, found, isPosition⟩ :=
        numbers.position other containerId isNumber
      obtain ⟨inside, _⟩ := List.getElem?_eq_some_iff.mp found
      exact
        ⟨position, (List.getElem?_append_left inside).trans found,
          isPosition⟩

/-- The containers of a host are numbered next. -/
theorem host
    (numbers : Numbers names ids)
    (leaf host : Nat)
    (containers : List String) :
    Numbers (names ++ containers)
      (containers.foldl (SimulationBase.assignId leaf host) ids) := by
  induction containers generalizing names ids with
  | nil =>
      rw [List.append_nil]
      exact numbers
  | cons name rest inductionHypothesis =>
      have next := inductionHypothesis (numbers.assignId leaf host name)
      rw [List.append_assoc] at next
      exact next

/-- The containers below a leaf are numbered next. -/
theorem leaf
    (numbers : Numbers names ids)
    (leaf first : Nat)
    (hosts : List (List String)) :
    Numbers (names ++ hosts.flatten)
      ((hosts.zipIdx first).foldl
        (fun ids host =>
          host.1.foldl (SimulationBase.assignId leaf host.2) ids)
        ids) := by
  induction hosts generalizing first names ids with
  | nil =>
      rw [List.flatten_nil, List.append_nil]
      exact numbers
  | cons containers rest inductionHypothesis =>
      have next :=
        inductionHypothesis (numbers.host leaf first containers) (first + 1)
      rw [List.append_assoc] at next
      exact next

theorem groups
    (numbers : Numbers names ids)
    (first : Nat)
    (groups : ContainerGroups) :
    Numbers (names ++ containerNames groups)
      ((groups.zipIdx first).foldl
        (fun ids leaf =>
          leaf.1.zipIdx.foldl
            (fun ids host =>
              host.1.foldl (SimulationBase.assignId leaf.2 host.2) ids)
            ids)
        ids) := by
  induction groups generalizing first names ids with
  | nil =>
      unfold containerNames
      rw [List.flatten_nil, List.flatten_nil, List.append_nil]
      exact numbers
  | cons hosts rest inductionHypothesis =>
      have next :=
        inductionHypothesis (numbers.leaf first 0 hosts) (first + 1)
      unfold containerNames at next ⊢
      rw [List.append_assoc, ← List.flatten_append] at next
      exact next

end Numbers

/-- A number is a position in the placement. -/
theorem numbers_assignIds (containerGroups : ContainerGroups) :
    Numbers (containerNames containerGroups)
      (assignIds containerGroups) := by
  have start :
      Numbers []
        { containerId := 0
          gws := []
          containerToId := fun _ => none } :=
    { containerId := rfl
      numbered := fun _ member => absurd member List.not_mem_nil
      position := fun _ containerId isId =>
        absurd isId.symm (Option.some_ne_none containerId) }
  exact start.groups 0 containerGroups

/-- Only containers of the placement are numbered. -/
theorem mem_containerNames_of_assignIds
    {containerGroups : ContainerGroups}
    {name : String}
    {containerId : UInt32}
    (isId :
      (assignIds containerGroups).containerToId name = some containerId) :
    name ∈ containerNames containerGroups := by
  obtain ⟨position, found, _⟩ :=
    (numbers_assignIds containerGroups).position name containerId isId
  exact List.mem_of_getElem? found

/-- Up to 2^32 containers have different numbers. -/
theorem assignIds_injective
    {containerGroups : ContainerGroups}
    (few : (containerNames containerGroups).length ≤ 2 ^ 32)
    {first second : String}
    {containerId : UInt32}
    (isFirst :
      (assignIds containerGroups).containerToId first = some containerId)
    (isSecond :
      (assignIds containerGroups).containerToId second =
        some containerId) :
    first = second := by
  have numbers := numbers_assignIds containerGroups
  obtain ⟨i, atFirst, firstId⟩ :=
    numbers.position first containerId isFirst
  obtain ⟨j, atSecond, secondId⟩ :=
    numbers.position second containerId isSecond
  obtain ⟨i_lt, _⟩ := List.getElem?_eq_some_iff.mp atFirst
  obtain ⟨j_lt, _⟩ := List.getElem?_eq_some_iff.mp atSecond
  have same : i = j := by
    have equal := congrArg UInt32.toNat (firstId.symm.trans secondId)
    rw [UInt32.toNat_ofNat_of_lt' (Nat.lt_of_lt_of_le i_lt few),
      UInt32.toNat_ofNat_of_lt' (Nat.lt_of_lt_of_le j_lt few)] at equal
    exact equal
  subst same
  exact Option.some.inj (atFirst.symm.trans atSecond)

end SimulationBase

end SwitchV2P
