import SwitchV2P.TopologySpec

namespace SwitchV2P

/-!
# Routing tables

`AssignPhysicalIps` also fills the routing tables by hand, since the automatic
way is slow.  A node sends a packet to a directly connected subnet if it has
one, as the static routing of ns-3 does, and otherwise by one of the network
routes that match: the global routing of ns-3 does not prefer longer masks.
-/

/-- An entry of `AddNetworkRouteTo`. -/
structure Route where
  network : Ipv4Address
  /-- The number of leading ones in the mask. -/
  maskLength : Nat
  interface : Nat
  deriving Repr, DecidableEq

/-- `Ipv4Mask::IsMatch` for the mask and network of a route. -/
def Route.isMatch (route : Route) (destination : Ipv4Address) : Bool :=
  DottedQuad.samePrefix route.maskLength destination route.network

namespace SimulationBase

variable (sim : SimulationBase)

/-- A route to all hosts below a leaf, `GetClassBMask`. -/
def nodeRoute (podId leafOffset interface : Nat) : Route where
  network := IpUtils.getNodePhysicalAddress podId leafOffset 0
  maskLength := 16
  interface := interface

/-- A route to a leaf, `GetClassCMask`. -/
def leafRoute (podId leafOffset interface : Nat) : Route where
  network := IpUtils.getLeafAddress sim.podCount podId 0 leafOffset
  maskLength := 24
  interface := interface

/-- A route to a spine, `GetClassCMask`. -/
def spineRoute (podId spineOffset interface : Nat) : Route where
  network :=
    IpUtils.getSpineFromLeafAddress sim.podCount podId spineOffset 0
  maskLength := 24
  interface := interface

/-- A route to a core, `GetClassCMask`. -/
def coreRoute (core interface : Nat) : Route where
  network := IpUtils.getCoreAddress 0 core
  maskLength := 24
  interface := interface

/-- Node to leaf routing: the default route. -/
def hostRoutes : List Route :=
  [{ network := 0, maskLength := 0, interface := 1 }]

/-- Leaf to all nodes and leaves, through any spine. -/
def leafToLeafRoutes (i : Nat) : List Route :=
  (List.range sim.leafCount).flatMap fun j =>
    if j % sim.podWidth = i % sim.podWidth ∧
        j / sim.podWidth = i / sim.podWidth then
      []
    else
      (List.range sim.podWidth).flatMap fun k =>
        [nodeRoute (j / sim.podWidth) (j % sim.podWidth)
            (sim.hostCount i + 1 + k),
          sim.leafRoute (j / sim.podWidth) (j % sim.podWidth)
            (sim.hostCount i + 1 + k)]

/-- Leaf to spines: one path in the same pod, any spine for other pods. -/
def leafToSpineRoutes (i : Nat) : List Route :=
  (List.range sim.spineCount).flatMap fun j =>
    if j / sim.podWidth = i / sim.podWidth then
      [sim.spineRoute (j / sim.podWidth) (j % sim.podWidth)
        (sim.hostCount i + 1 + j % sim.podWidth)]
    else
      (List.range sim.podWidth).map fun k =>
        sim.spineRoute (j / sim.podWidth) (j % sim.podWidth)
          (sim.hostCount i + 1 + k)

/-- Leaf to core, only through a specific spine. -/
def leafToCoreRoutes (i : Nat) : List Route :=
  (List.range sim.coreCount).map fun j =>
    coreRoute j (sim.hostCount i + 1 + j / sim.coresPerSpine)

/-- Leaf to spine, leaf to leaf, leaf to core routing. -/
def leafRoutes (i : Nat) : List Route :=
  sim.leafToLeafRoutes i ++ sim.leafToSpineRoutes i ++
    sim.leafToCoreRoutes i

/-- Spine to nodes and leaves, through any core for other pods. -/
def spineToLeafRoutes (k : Nat) : List Route :=
  (List.range sim.leafCount).flatMap fun i =>
    let leafPodId := i / sim.podWidth
    let leafInternalId := i % sim.podWidth
    if k / sim.podWidth = leafPodId then
      [nodeRoute leafPodId leafInternalId (leafInternalId + 1),
        sim.leafRoute leafPodId leafInternalId (leafInternalId + 1)]
    else
      (List.range sim.coresPerSpine).flatMap fun j =>
        [nodeRoute leafPodId leafInternalId (sim.podWidth + 1 + j),
          sim.leafRoute leafPodId leafInternalId
            (sim.podWidth + 1 + j)]

/-- Spine to other spines. -/
def spineToSpineRoutes (k : Nat) : List Route :=
  (List.range sim.spineCount).flatMap fun i =>
    let otherSpinePodId := i / sim.podWidth
    let otherSpineInternalId := i % sim.podWidth
    if otherSpinePodId = k / sim.podWidth ∧
        otherSpineInternalId = k % sim.podWidth then
      []
    else if k / sim.podWidth = otherSpinePodId then
      (List.range sim.podWidth).map fun j =>
        sim.spineRoute otherSpinePodId otherSpineInternalId (1 + j)
    else
      (List.range sim.coresPerSpine).map fun j =>
        sim.spineRoute otherSpinePodId otherSpineInternalId
          (sim.podWidth + 1 + j)

/-- Spine to connected cores. -/
def spineToCoreRoutes (k : Nat) : List Route :=
  (List.range sim.coresPerSpine).map fun i =>
    coreRoute (sim.coreIdx k i) (sim.podWidth + 1 + i)

/-- Spine to leaf, core and spines routing. -/
def spineRoutes (k : Nat) : List Route :=
  sim.spineToLeafRoutes k ++ sim.spineToSpineRoutes k ++
    sim.spineToCoreRoutes k

/-- Core to nodes and spines, the same for every core. -/
def coreToSpineRoutes : List Route :=
  (List.range sim.podCount).flatMap fun i =>
    (List.range sim.podWidth).flatMap fun j =>
      [nodeRoute i j (i + 1), sim.spineRoute i j (i + 1)]

/-- Core to leaf, only one path. -/
def coreToLeafRoutes : List Route :=
  (List.range sim.leafCount).map fun leaf =>
    sim.leafRoute (leaf / sim.podWidth) (leaf % sim.podWidth)
      (1 + leaf / sim.podWidth)

/-- Core to spine routing. -/
def coreRoutes : List Route :=
  sim.coreToSpineRoutes ++ sim.coreToLeafRoutes

/-- The network routes of a node, in the order of their installation. -/
def routes : Node → List Route
  | .host _ _ => hostRoutes
  | .leaf leaf => sim.leafRoutes leaf
  | .spine spine => sim.spineRoutes spine
  | .core _ => sim.coreRoutes

/-- The node behind an interface.  Interface 0 is the loopback. -/
def interfacePeer (node : Node) : Nat → Option Node
  | 0 => none
  | number + 1 => (sim.interfaces node)[number]?.map Interface.peer

/-- The neighbours in directly connected subnets of the destination. -/
def connected (node : Node) (destination : Ipv4Address) : List Node :=
  ((sim.interfaces node).filter fun interface =>
    DottedQuad.samePrefix 24 destination interface.address).map
      Interface.peer

/-- `allRoutes` of `LookupGlobal`: the neighbours of all matching routes. -/
def allRoutes
    (node : Node)
    (destination : Ipv4Address) :
    List (Option Node) :=
  ((sim.routes node).filter fun route => route.isMatch destination).map
    fun route => sim.interfacePeer node route.interface

/-- Every node has the network 127.0.0.0/8 to itself. -/
def isLoopback (destination : Ipv4Address) : Bool :=
  DottedQuad.samePrefix 8 destination (DottedQuad.ofOctets 127 0 0 1)

/-- The links over which a node may send a packet, `none` being nowhere. -/
def hops
    (destination : Ipv4Address)
    (node : Node) :
    List (Option Node) :=
  if sim.connected node destination ≠ [] then
    (sim.connected node destination).map some
  else if isLoopback destination then
    [none]
  else
    sim.allRoutes node destination

end SimulationBase

end SwitchV2P
