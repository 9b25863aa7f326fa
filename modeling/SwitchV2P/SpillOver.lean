import SwitchV2P.SwitchRuns
import SwitchV2P.TraceSimulation

namespace SwitchV2P.SpillOver

/-!
# Entries spill from switch to switch

What a switch displaces leaves it in the eviction tag of the packet that
displaced it.  A key that was cached or carried is still cached or carried
afterwards, except that promotion at a spine replaces the tag of a
gateway-bound packet.
-/

/-- A mapping for the key is cached or carried. -/
def Keeps
    (cache : P4Cache Ipv4Address Ipv4Address)
    (packet : DataPacket)
    (key : Ipv4Address) : Prop :=
  ∃ value, cache.Live key value ∨
    packet.evictionTag.peek = some (key, value)

variable
  {config : SwitchConfig}
  {cache : P4Cache Ipv4Address Ipv4Address}
  {packet : DataPacket}
  {key value : Ipv4Address}
  {learn : Mapping}

/-- A lookup loses nothing. -/
theorem Keeps.get
    (keeps : Keeps cache packet key)
    (looked : Ipv4Address) :
    Keeps (cache.get looked).2 packet key := by
  obtain ⟨value, kept⟩ := keeps
  exact ⟨value, kept.imp_left (P4Cache.live_get looked).mpr⟩

/-- A gateway-bound packet whose mapping a spine hands on to the core. -/
def Promoted
    (config : SwitchConfig)
    (cache : P4Cache Ipv4Address Ipv4Address)
    (packet : DataPacket) : Prop :=
  config.switchType = .spine ∧
    config.isGateway packet.outer.destination = true ∧
    cache.find packet.inner.destination = true

end SwitchV2P.SpillOver
