import SwitchV2P.IpUtils

namespace SwitchV2P

/-!
# Simulation and migration parameters
-/

/-- `SimulationParameters::Mode`. -/
inductive Mode where
  | controller
  | switchV2P
  | localLearning
  | noCache
  | gwCache
  | direct
  | bluebird
  | onDemand
  deriving Repr, DecidableEq

/-- `SimulationParameters::Topology`. -/
inductive Topology where
  | clos
  | fattree
  deriving Repr, DecidableEq

/-- `SimulationParameters`; sizes are `size_t` in the source. -/
structure SimulationParameters where
  simMode : Mode
  networkTopology : Topology
  numOfPorts : Nat
  numOfCore : Nat
  podWidth : Nat
  gatewayLeaves : List Nat
  randomRouting : Bool
  gatewayPerFlowLoadBalancing : Bool
  udpMode : Bool
  deriving Repr, DecidableEq

/-- `MigrationParams`, without the migration time. -/
structure MigrationParams where
  migration : Bool
  containerId : UInt32
  dstLeaf : UInt32
  dstHost : UInt32
  deriving Repr, DecidableEq

end SwitchV2P
