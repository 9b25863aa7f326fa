import SwitchV2P.IpUtils
import SwitchV2P.TagStack

namespace SwitchV2P

/-!
# Packets

A data packet is a container's packet inside a host's: the outer header has
physical addresses, the inner one virtual addresses.  Its tags travel with it
through switches, gateways and hosts.  A protocol packet is what switches send
each other: 64 bytes with one tag.

The UDP port tells the two apart (`SWITCH_PORT` against 667), so the model
keeps two types instead of the port.  Hop counts and timestamps are only read
by the statistics and are left out.
-/

/-- A virtual address and the physical address it is believed to live at. -/
abbrev Mapping := Ipv4Address × Ipv4Address

/-- The fields of an IPv4 header that the simulator reads or writes. -/
structure Ipv4Header where
  source : Ipv4Address
  destination : Ipv4Address
  ttl : UInt8
  deriving Repr, DecidableEq

/-- `HitTag`: the switch whose cache redirected the packet. -/
structure HitTag where
  address : Ipv4Address
  switchId : UInt32
  deriving Repr, DecidableEq

/-- A tunnelled packet of one container to another. -/
structure DataPacket where
  outer : Ipv4Header
  inner : Ipv4Header
  evictionTag : TagStack Mapping
  invalidationTag : TagStack Mapping
  hitTag : TagStack HitTag
  sourceTag : Option Ipv4Address
  flowId : UInt32
  /--
  How often the packet entered the misdelivery branch of `VirtualSend`.  No
  node reads it: the source counts all packets together.
  -/
  misdeliveries : Nat
  deriving Repr, DecidableEq

namespace DataPacket

/-- `ipHeader.SetDestination` on the outer header. -/
def setDestination
    (packet : DataPacket)
    (address : Ipv4Address) :
    DataPacket :=
  { packet with
    outer := { packet.outer with destination := address } }

end DataPacket

/-- A learning packet (eviction tag) or an invalidation packet. -/
structure ProtocolPacket where
  destination : Ipv4Address
  evictionTag : TagStack Mapping
  invalidationTag : TagStack Mapping
  deriving Repr, DecidableEq

/-- What a switch can be handed. -/
inductive Datagram where
  | data (packet : DataPacket)
  | protocol (packet : ProtocolPacket)
  deriving Repr, DecidableEq

end SwitchV2P
