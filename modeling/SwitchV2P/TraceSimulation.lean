import SwitchV2P.Network
import SwitchV2P.SimulationBase

namespace SwitchV2P

/-!
# The applications of a simulation

`SetupApplications` installs a `P4SwitchApp` on every leaf, spine and core and
tells it its role.
-/

/-- The attributes of `P4SwitchApp` that the command line may set. -/
structure SwitchAttributes where
  defaultTtl : UInt32 := 64
  sourceLearning : Bool := false
  accessBit : Bool := true
  bloomFilterEnabled : Bool := false
  generateInvalidation : Bool := false
  deriving Repr, DecidableEq

/-- The switches of a network of the given size. -/
inductive SwitchNode (leafCount spineCount coreCount : Nat) where
  | leaf (leaf : Fin leafCount)
  | spine (spine : Fin spineCount)
  | core (core : Fin coreCount)
  deriving Repr, DecidableEq

/-- A simulation together with what its applications are given. -/
structure TraceSimulation extends SimulationBase where
  migrationParams : MigrationParams
  attributes : SwitchAttributes
  gatewayRange : Nat
  crc32 : UInt32 → Nat

namespace TraceSimulation

variable (sim : TraceSimulation)

/-- The switches of the simulation. -/
abbrev Switches : Type :=
  SwitchNode sim.leafCount sim.spineCount sim.coreCount

/-- `SetupApplications`: the type of a switch. -/
def switchType : sim.Switches → SwitchType
  | .leaf leaf =>
      if sim.gws.any fun gw => gw.1 = leaf.val then .gwLeaf else .leaf
  | .spine spine =>
      if sim.gws.any fun gw =>
          gw.1 / sim.podWidth = spine.val / sim.podWidth then
        .gwSpine
      else
        .spine
  | .core _ => .core

/-- `SetupApplications`: the address of a switch. -/
def switchAddress : sim.Switches → Ipv4Address
  | .leaf leaf =>
      IpUtils.getLeafAddress sim.podCount
        (leaf.val / sim.podWidth) 0 (leaf.val % sim.podWidth)
  | .spine spine =>
      IpUtils.getSpineFromLeafAddress sim.podCount
        (spine.val / sim.podWidth) (spine.val % sim.podWidth) 0
  | .core core => IpUtils.getCoreAddress 0 core.val

/-- `SetupApplications`, for the modes that install `P4SwitchApp`s. -/
def setupApplications : Network sim.Switches where
  switches := fun switch =>
    { switchAddress := sim.switchAddress switch
      nodeId :=
        match switch with
        | .core core => UInt32.ofNat core.val
        | .spine spine => UInt32.ofNat (sim.coreCount + spine.val)
        | .leaf leaf =>
            UInt32.ofNat (sim.coreCount + sim.spineCount + leaf.val)
      switchType := sim.switchType switch
      simMode := sim.simParameters.simMode
      gwAddresses := sim.gwAddresses
      podCount := UInt32.ofNat sim.podCount
      defaultTtl := sim.attributes.defaultTtl
      sourceLearning := sim.attributes.sourceLearning
      accessBit := sim.attributes.accessBit
      bloomFilterEnabled := sim.attributes.bloomFilterEnabled
      generateInvalidation := sim.attributes.generateInvalidation }
  simParams := sim.simParameters
  migrationParams := sim.migrationParams
  gwAddresses := sim.gwAddresses
  gatewayRange := sim.gatewayRange
  crc32 := sim.crc32
  leafCount := sim.leafCount
  sameGateways := fun _ => rfl
  sameMode := fun _ => rfl

/--
A pod of four leaves with one host each.  The gateway is below leaf 0, and
container 2 is to move from leaf 2 to leaf 3.
-/
def onePod (mode : Mode) : TraceSimulation where
  simParameters :=
    { simMode := mode
      networkTopology := .fattree
      numOfPorts := 8
      numOfCore := 0
      podWidth := 4
      gatewayLeaves := [0]
      randomRouting := false
      gatewayPerFlowLoadBalancing := false
      udpMode := true }
  hostCounts := [1, 1, 1, 1]
  gws := [(0, 0)]
  migrationParams :=
    { migration := true
      containerId := 2
      dstLeaf := 3
      dstHost := 0 }
  attributes := { sourceLearning := true }
  gatewayRange := 4
  crc32 := fun _ => 0

namespace onePod

variable (mode : Mode)

/-- The network of the pod. -/
abbrev network : Network (onePod mode).Switches :=
  (onePod mode).setupApplications

abbrev leaf (leaf : Fin 4) : (onePod mode).Switches :=
  .leaf leaf

/-- The spine through which all traffic is routed. -/
abbrev spine : (onePod mode).Switches :=
  .spine (0 : Fin 4)

/-- Container `id` starts on the host below leaf `id`. -/
def virtualToPhysical (address : Ipv4Address) : Option Ipv4Address :=
  if address < 4 then
    some ((onePod .switchV2P).hostAddress address.toNat 0)
  else
    none

/-- Caches of one entry, for which the hash does not matter. -/
def start : NetworkState (onePod mode).Switches :=
  (network mode).start virtualToPhysical 1 Nat.one_pos (fun _ => 0) 80
    fun _ => 0

/--
Container 1 sends a packet to container 2, which the gateway resolves and which
then arrives at leaf 2.
-/
def resolve : List (Action (onePod mode).Switches) :=
  [.send 1 2 7 none,
    .atSwitch (leaf mode 1) 0 false,
    .atSwitch (spine mode) 0 false,
    .atSwitch (leaf mode 0) 0 false,
    .atNode 0,
    .timer 0,
    .atSwitch (leaf mode 0) 0 false,
    .atSwitch (spine mode) 0 false,
    .atSwitch (leaf mode 2) 0 false]

/-- The host below leaf 2, where container 2 is at first. -/
abbrev oldHost : Ipv4Address :=
  DottedQuad.ofOctets 1 2 0 1

/-- The host below leaf 3, where container 2 moves to. -/
abbrev newHost : Ipv4Address :=
  DottedQuad.ofOctets 1 3 0 1

/-- That spine by itself: there is a gateway in the pod. -/
abbrev spineConfig : SwitchConfig :=
  (network mode).switches (spine mode)

/-- The same spine in a pod without a gateway. -/
abbrev plainSpineConfig : SwitchConfig :=
  { spineConfig mode with switchType := .spine }

/-- The gateway, below leaf 0. -/
abbrev gateway : Ipv4Address :=
  DottedQuad.ofOctets 1 0 0 1

/-- A packet of container 1 that is addressed to a host. -/
def packetTo (container host : Ipv4Address) : DataPacket :=
  ((network mode).socketHelper (DottedQuad.ofOctets 1 1 0 1)).sendTo
    (Network.freshPacket 1 container 7 none) host

/--
Container 2 moves after it got its first packet.  A second one is redirected to
the old host by the spine; the old host sends it to the gateway, and the
gateway to the new host.
-/
def resend : List (Action (onePod mode).Switches) :=
  resolve mode ++
    [.atNode 0,
      .migrate 2 newHost,
      .send 1 2 7 none,
      .atSwitch (leaf mode 1) 0 false,
      .atSwitch (spine mode) 0 false,
      .atSwitch (leaf mode 2) 0 false,
      .atNode 0,
      .timer 0,
      .atSwitch (leaf mode 2) 0 false,
      .atSwitch (spine mode) 0 false,
      .atSwitch (leaf mode 0) 0 false,
      .atNode 0,
      .timer 0,
      .atSwitch (leaf mode 0) 0 false,
      .atSwitch (spine mode) 0 false,
      .atSwitch (leaf mode 3) 0 false]

end onePod

end TraceSimulation

end SwitchV2P
