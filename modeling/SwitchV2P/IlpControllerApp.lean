import Mathlib.Algebra.GroupWithZero.Nat
import Mathlib.Algebra.BigOperators.Group.List.Basic
import SwitchV2P.Ipv4GlobalRouting

namespace SwitchV2P

/-!
# The ILP controller

For each flow in the traffic matrix of its leaf, `QuerySwitches` adds a cost
term that mentions the switches on the way to the gateway.  It computes their
places in `m_switchApps` in closed form from its own copy of the flow hash.
What the solver chooses for a switch under its memory constraint becomes the
plan that is installed there.
-/

namespace IlpControllerApp

/-- `uint32_t` addition. -/
def add32 (first second : Nat) : Nat :=
  (first + second) % 2 ^ 32

/-- `uint32_t` division; dividing by zero is undefined. -/
def div32 (dividend divisor : Nat) : Option Nat :=
  if divisor = 0 then none else some (dividend / divisor)

/-- The remainder of a `uint64_t` by a `uint32_t`. -/
def mod64 (dividend : UInt64) (divisor : Nat) : Option Nat :=
  if divisor = 0 then none else some (dividend.toNat % divisor)

/-- `GetFlowHash`. -/
def getFlowHash
    (getHash64 : String → UInt64)
    (podId leafOffset id : Nat)
    (gwAddress : Ipv4Address) :
    UInt64 :=
  getHash64
    (Ipv4GlobalRouting.printAddress
        (IpUtils.getNodePhysicalAddress podId leafOffset id) ++
      Ipv4GlobalRouting.printAddress gwAddress ++
      Ipv4GlobalRouting.printOctet 17 ++ toString 667 ++ toString 667)

variable (sim : SimulationBase)

/-- `m_switchApps`, by the nodes they are on. -/
def switchApps : List Node :=
  (List.range sim.leafCount).map Node.leaf ++
    (List.range sim.spineCount).map Node.spine ++
      (List.range sim.coreCount).map Node.core

/--
The indices of the switches in the cost term of a flow from a container on a
host to the gateway address `gwIp`.
-/
def querySwitches
    (getHash64 : String → UInt64)
    (leaf host : Nat)
    (gwIp : Ipv4Address) :
    Option (List Nat) := do
  let gwIdx := sim.gwAddresses.idxOf gwIp
  let gw ← sim.gws[gwIdx]?
  let gwLeaf := gw.1
  let gwPod ← div32 gwLeaf sim.podWidth
  if leaf = gwLeaf then
    return [leaf]
  else
    let srcPod ← div32 leaf sim.podWidth
    let gwAddress ← sim.gwAddresses[gwIdx]?
    let flowHash :=
      getFlowHash getHash64 (leaf / sim.podWidth) (leaf % sim.podWidth)
        host gwAddress
    let spineId := srcPod * sim.podWidth + (← mod64 flowHash sim.podWidth)
    if srcPod = gwPod then
      return [leaf, add32 spineId sim.leafCount, gwLeaf]
    else
      let coresPerSpine ← div32 sim.coreCount sim.podWidth
      let coreId :=
        spineId % sim.podWidth * coresPerSpine +
          (← mod64 flowHash coresPerSpine)
      let secondSpineId :=
        (← div32 coreId coresPerSpine) + sim.podWidth * gwPod
      return [leaf, add32 spineId sim.leafCount,
        add32 (add32 coreId sim.leafCount) sim.spineCount,
        add32 secondSpineId sim.leafCount, gwLeaf]

/-- The controller hashes what the switches hash. -/
theorem getFlowHash_tunnelHeader
    (getHash64 : String → UInt64)
    (leaf host : Nat)
    (gateway : Ipv4Address) :
    Ipv4GlobalRouting.getFlowHash getHash64
        (sim.tunnelHeader leaf host gateway) =
      getFlowHash getHash64 (leaf / sim.podWidth) (leaf % sim.podWidth)
        host gateway := by
  rfl

/-! ## Plans -/

/--
The left side of the memory constraint of a switch: the number of active
destinations whose expression `chosen` makes true.
-/
def memoryUsed
    (containerCount : Nat)
    (active chosen : Nat → Bool) :
    Nat :=
  (((List.range containerCount).filter active).map fun container =>
    if chosen container then 1 else 0).sum

/-- The items that `QuerySwitches` installs at that switch. -/
def planItems
    (containerCount : Nat)
    (active chosen : Nat → Bool)
    (virtualToPhysical : UInt32 → Ipv4Address) :
    List (Ipv4Address × Ipv4Address) :=
  ((List.range containerCount).filter fun container =>
    active container && chosen container).map fun container =>
      (IpUtils.getContainerVirtualAddress (UInt32.ofNat container),
        virtualToPhysical (UInt32.ofNat container))

/-- The constraint counts the items of the plan. -/
theorem length_planItems
    (containerCount : Nat)
    (active chosen : Nat → Bool)
    (virtualToPhysical : UInt32 → Ipv4Address) :
    (planItems containerCount active chosen virtualToPhysical).length =
      memoryUsed containerCount active chosen := by
  unfold planItems memoryUsed
  rw [List.length_map]
  induction List.range containerCount with
  | nil => rfl
  | cons container rest inductionHypothesis =>
      rw [List.filter_cons, List.filter_cons]
      cases isActive : active container with
      | false => exact inductionHypothesis
      | true =>
          rw [Bool.true_and, if_pos rfl, List.map_cons, List.sum_cons,
            ← inductionHypothesis]
          cases isChosen : chosen container with
          | false => exact (Nat.zero_add _).symm
          | true => exact Nat.add_comm _ 1

/-- Different containers have different virtual addresses. -/
theorem nodup_planItems
    {containerCount : Nat}
    (addressed : containerCount ≤ 2 ^ 32)
    (active chosen : Nat → Bool)
    (virtualToPhysical : UInt32 → Ipv4Address) :
    ((planItems containerCount active chosen virtualToPhysical).map
      Prod.fst).Nodup := by
  unfold planItems
  rw [List.map_map]
  apply List.Nodup.map_on ?_ (List.nodup_range.filter _)
  intro first firstMember second secondMember same
  have bounded {container : Nat}
      (member :
        container ∈
          (List.range containerCount).filter fun container =>
            active container && chosen container) :
      container < 2 ^ 32 :=
    Nat.lt_of_lt_of_le
      (List.mem_range.mp (List.mem_filter.mp member).1) addressed
  have values := congrArg UInt32.toNat same
  change
    (UInt32.ofNat first).toNat = (UInt32.ofNat second).toNat at values
  rw [UInt32.toNat_ofNat', UInt32.toNat_ofNat',
    Nat.mod_eq_of_lt (bounded firstMember),
    Nat.mod_eq_of_lt (bounded secondMember)] at values
  exact values

end IlpControllerApp

end SwitchV2P
