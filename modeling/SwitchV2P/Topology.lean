import SwitchV2P.RangeLoops
import SwitchV2P.TraceSimulation

namespace SwitchV2P

/-!
# Links and interface addresses

`CreateTopology` installs the links and `AssignPhysicalIps` gives both ends of
each an address.  The order of the `Assign` calls matters: it is the order in
which a node numbers its interfaces, starting at 1 after the loopback.
-/

/-- The nodes of a network, by the container that holds them. -/
inductive Node where
  | host (leaf host : Nat)
  | leaf (leaf : Nat)
  | spine (spine : Nat)
  | core (core : Nat)
  deriving Repr, DecidableEq

/-- One end of a link, once it has an address. -/
structure Interface where
  owner : Node
  address : Ipv4Address
  peer : Node
  deriving Repr, DecidableEq

/--
`m_address.Assign` after `m_address.SetBase`: the first device of the container
gets the first address of the subnet, the second device the second.
-/
def assign
    (base : Ipv4Address)
    (devices : Node × Node) :
    List Interface :=
  [{ owner := devices.1, address := base + 1, peer := devices.2 },
    { owner := devices.2, address := base + 2, peer := devices.1 }]

/--
What `Assign` tells the `Ipv4AddressGenerator` of ns-3: each address in turn is
remembered, or ends the program, which is `none`.
-/
structure Ipv4AddressGenerator where
  State : Type
  initial : State
  addAllocated : State → Ipv4Address → Option State

namespace Ipv4AddressGenerator

variable (generator : Ipv4AddressGenerator)

def allocate (addresses : List Ipv4Address) : Option generator.State :=
  addresses.foldlM generator.addAllocated generator.initial

/-- The program ends at an address that has been allocated before. -/
def RefusesDuplicates : Prop :=
  ∀ addresses state address,
    generator.allocate addresses = some state → address ∈ addresses →
      generator.addAllocated state address = none

/-- A generator that keeps a list of the addresses. -/
def ofList : Ipv4AddressGenerator where
  State := List Ipv4Address
  initial := []
  addAllocated allocated address :=
    if address ∈ allocated then none else some (address :: allocated)

variable {generator}

/-- What is allocated without an end of the program is all different. -/
theorem nodup_of_allocate
    (refuses : generator.RefusesDuplicates)
    {addresses : List Ipv4Address}
    {state : generator.State}
    (allocated : generator.allocate addresses = some state) :
    addresses.Nodup := by
  induction addresses using List.reverseRecOn generalizing state with
  | nil => exact List.nodup_nil
  | append_singleton addresses address inductionHypothesis =>
      rw [allocate, List.foldlM_append] at allocated
      obtain ⟨before, isBefore, added⟩ := Option.bind_eq_some_iff.mp allocated
      rw [List.nodup_append']
      refine
        ⟨inductionHypothesis isBefore, List.nodup_singleton address, ?_⟩
      intro repeated earlier last
      rw [List.mem_singleton.mp last] at earlier
      have ended := refuses addresses before address isBefore earlier
      simp [ended] at added

theorem allocate_ofList
    {addresses : List Ipv4Address}
    {state : List Ipv4Address}
    (allocated : ofList.allocate addresses = some state) :
    state = addresses.reverse := by
  induction addresses using List.reverseRecOn generalizing state with
  | nil => exact (Option.some.inj allocated).symm
  | append_singleton addresses address inductionHypothesis =>
      rw [allocate, List.foldlM_append] at allocated
      obtain ⟨before, isBefore, added⟩ := Option.bind_eq_some_iff.mp allocated
      have known := inductionHypothesis isBefore
      simp only [ofList, List.foldlM_cons, List.foldlM_nil, known] at added
      split at added
      next => exact absurd added (by simp)
      next =>
        rw [List.reverse_append]
        exact (Option.some.inj added).symm

theorem refusesDuplicates_ofList : ofList.RefusesDuplicates := by
  intro addresses state address allocated member
  have known := allocate_ofList allocated
  subst known
  exact if_pos (List.mem_reverse.mpr member)

end Ipv4AddressGenerator

namespace SimulationBase

open RangeLoops

variable (sim : SimulationBase)

/-- `m_coreCount / m_podWidth`, the number of cores above each spine. -/
def coresPerSpine : Nat :=
  sim.coreCount / sim.podWidth

/-- The nodes that `InitializeNodes` creates. -/
def HasNode : Node → Prop
  | .host leaf host => leaf < sim.leafCount ∧ host < sim.hostCount leaf
  | .leaf leaf => leaf < sim.leafCount
  | .spine spine => spine < sim.spineCount
  | .core core => core < sim.coreCount

instance (node : Node) : Decidable (sim.HasNode node) :=
  match node with
  | .host _ _ => inferInstanceAs (Decidable (_ ∧ _))
  | .leaf _ => inferInstanceAs (Decidable (_ < _))
  | .spine _ => inferInstanceAs (Decidable (_ < _))
  | .core _ => inferInstanceAs (Decidable (_ < _))

/-- `m_nodeToSwDevice[i][j]`. -/
def nodeToSwDevice (i j : Nat) : Node × Node :=
  (.host i j, .leaf i)

/-- `m_swToSwDevice[i][j]`. -/
def swToSwDevice (i j : Nat) : Node × Node :=
  match sim.simParameters.networkTopology with
  | .fattree => (.spine i, .leaf (i / sim.podWidth * sim.podWidth + j))
  | .clos => (.spine i, .leaf j)

/-- `coreIdx`, the `j`-th core above spine `i`. -/
def coreIdx (i j : Nat) : Nat :=
  i % sim.podWidth * sim.coresPerSpine + j

/--
`m_coreToSpineDevice[coreIdx][podIdx]` as spine `i` installs it for its `j`-th
core.
-/
def coreToSpineDevice (i j : Nat) : Node × Node :=
  (.core (sim.coreIdx i j), .spine i)

/-- The links of all hosts. -/
def assignNodeToSw : List Interface :=
  (List.range sim.leafCount).flatMap fun i =>
    (List.range (sim.hostCount i)).flatMap fun j =>
      assign
        (IpUtils.getNodeBasePhysicalAddress
          (i / sim.podWidth) (i % sim.podWidth) j)
        (nodeToSwDevice i j)

/-- The links of spine `i` to its leaves. -/
def assignSwToSw (i : Nat) : List Interface :=
  ((List.range sim.podWidth).takeWhile fun j =>
      i / sim.podWidth * sim.podWidth + j < sim.leafCount).flatMap fun j =>
    assign
      (IpUtils.getSwitchBaseAddress sim.podCount
        (i / sim.podWidth) (i % sim.podWidth) j)
      (sim.swToSwDevice i j)

/-- The links of spine `i` to its cores. -/
def assignCoreToSpine (i : Nat) : List Interface :=
  (List.range sim.coresPerSpine).flatMap fun j =>
    assign
      (IpUtils.getCoreSwitchBaseAddress
        (i / sim.podWidth) (sim.coreIdx i j))
      (sim.coreToSpineDevice i j)

/-- `AssignPhysicalIps`: all interfaces, in the order of the calls. -/
def assignPhysicalIps : List Interface :=
  sim.assignNodeToSw ++
    (List.range sim.spineCount).flatMap fun i =>
      sim.assignSwToSw i ++ sim.assignCoreToSpine i

/-- `AssignPhysicalIps` gets to its end with this allocation of addresses. -/
def Assigns (generator : Ipv4AddressGenerator) : Prop :=
  (generator.allocate
    (sim.assignPhysicalIps.map Interface.address)).isSome

instance (generator : Ipv4AddressGenerator) :
    Decidable (sim.Assigns generator) :=
  inferInstanceAs (Decidable (Option.isSome _ = true))

/-- The interfaces of a node after the loopback, in numerical order. -/
def interfaces (node : Node) : List Interface :=
  sim.assignPhysicalIps.filter fun interface => interface.owner = node

/--
The address by which others send to a node: the only address of a host, and the
address that `SetupApplications` gives the `P4SwitchApp` of a switch.
-/
def nodeAddress : Node → Ipv4Address
  | .host leaf host => sim.hostAddress leaf host
  | .leaf leaf =>
      IpUtils.getLeafAddress sim.podCount
        (leaf / sim.podWidth) 0 (leaf % sim.podWidth)
  | .spine spine =>
      IpUtils.getSpineFromLeafAddress sim.podCount
        (spine / sim.podWidth) (spine % sim.podWidth) 0
  | .core core => IpUtils.getCoreAddress 0 core

end SimulationBase

/-- The node on which `SetupApplications` installs an application. -/
def SwitchNode.toNode
    {leafCount spineCount coreCount : Nat} :
    SwitchNode leafCount spineCount coreCount → Node
  | .leaf id => .leaf id.val
  | .spine id => .spine id.val
  | .core id => .core id.val

end SwitchV2P
