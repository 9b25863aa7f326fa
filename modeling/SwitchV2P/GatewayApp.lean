import SwitchV2P.Packet

namespace SwitchV2P.GatewayApp

/-!
# The gateway

A gateway looks the destination of a packet up in the full mapping and sends
the packet to it forty microseconds later, with the outer source unchanged.
-/

/-- `ReceivePacket`: no result when `at` finds no mapping. -/
def receivePacket
    (virtualToPhysical : Ipv4Address → Option Ipv4Address)
    (packet : DataPacket) :
    Option DataPacket :=
  (virtualToPhysical packet.inner.destination).map packet.setDestination

/-- `SendPacket`: two of the three tags are taken off, hit tags stay. -/
def sendPacket (packet : DataPacket) : DataPacket :=
  { packet with
    evictionTag := packet.evictionTag.remove
    invalidationTag := packet.invalidationTag.remove }

end SwitchV2P.GatewayApp
