import SwitchV2P.Forwarding
import SwitchV2P.Routing

namespace SwitchV2P

/-!
# Equal-cost routes per flow

With random routing off, `Ipv4GlobalRouting` hashes the addresses, protocol and
ports of a packet and lets the hash pick one of the matching routes, so that
every packet of a flow takes the same path.
-/

/-- `SocketHelper::PORT_NUMBER`. -/
def SocketHelper.portNumber : UInt16 := 667

/-- The headers that a flow hash reads. -/
structure FlowHeader where
  source : Ipv4Address
  destination : Ipv4Address
  protocol : UInt8
  sourcePort : UInt16
  destinationPort : UInt16
  deriving Repr, DecidableEq

namespace Ipv4GlobalRouting

def tcpProtNumber : UInt8 := 6

def udpProtNumber : UInt8 := 17

/-- `operator <<` for an `Ipv4Address`. -/
def printAddress (address : Ipv4Address) : String :=
  toString (address.toNat / 2 ^ 24) ++ "." ++
    toString (address.toNat / 2 ^ 16 % 256) ++ "." ++
    toString (address.toNat / 2 ^ 8 % 256) ++ "." ++
    toString (address.toNat % 256)

/-- `operator <<` for an octet, which prints it as a character. -/
def printOctet (octet : UInt8) : String :=
  (Char.ofNat octet.toNat).toString

/-- `GetFlowHash` over the hash function of the hasher. -/
def getFlowHash
    (getHash64 : String → UInt64)
    (header : FlowHeader) :
    UInt64 :=
  let addresses :=
    printAddress header.source ++ printAddress header.destination ++
      printOctet header.protocol
  let data :=
    if header.protocol = udpProtNumber then
      addresses ++ toString header.sourcePort.toNat ++
        toString header.destinationPort.toNat
    else if header.protocol = tcpProtNumber then
      addresses ++ toString header.sourcePort.toNat ++
        toString header.destinationPort.toNat
    else
      addresses
  getHash64 data

/-- `LookupGlobal` in the mode `ECMP_PER_FLOW`. -/
def lookupGlobal
    (sim : SimulationBase)
    (flowHash : UInt64)
    (destination : Ipv4Address)
    (node : Node) :
    Option Node :=
  let allRoutes := sim.allRoutes node destination
  if allRoutes = [] then
    none
  else
    let selectIndex := flowHash.toNat % allRoutes.length % 2 ^ 32
    allRoutes[selectIndex]?.join

end Ipv4GlobalRouting

namespace SimulationBase

variable (sim : SimulationBase)

/-- A node keeps packets for its own interfaces. -/
def isLocal (node : Node) (destination : Ipv4Address) : Bool :=
  (sim.interfaces node).any fun interface =>
    interface.address = destination

/-- Where a node sends the packets of a flow, if it does not keep them. -/
def nextHop
    (flowHash : UInt64)
    (destination : Ipv4Address)
    (node : Node) :
    Option Node :=
  if sim.isLocal node destination then
    none
  else
    match (sim.connected node destination).getLast? with
    | some peer => some peer
    | none =>
        if isLoopback destination then
          none
        else
          Ipv4GlobalRouting.lookupGlobal sim flowHash destination node

/-- The outer header of what a host sends to a gateway. -/
def tunnelHeader
    (leaf host : Nat)
    (gateway : Ipv4Address) :
    FlowHeader where
  source := sim.hostAddress leaf host
  destination := gateway
  protocol := Ipv4GlobalRouting.udpProtNumber
  sourcePort := SocketHelper.portNumber
  destinationPort := SocketHelper.portNumber

/-- The nodes that a packet visits from its first leaf on. -/
def flowPath
    (getHash64 : String → UInt64)
    (leaf host : Nat)
    (gateway : Ipv4Address) :
    List Node :=
  let flowHash :=
    Ipv4GlobalRouting.getFlowHash getHash64
      (sim.tunnelHeader leaf host gateway)
  -- The outer header starts with a TTL of 64.
  Forwarding.follow (sim.nextHop flowHash gateway) 64 (.leaf leaf)

end SimulationBase

end SwitchV2P
