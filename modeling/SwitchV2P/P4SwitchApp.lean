import SwitchV2P.BloomFilter
import SwitchV2P.P4Cache
import SwitchV2P.Packet
import SwitchV2P.SimParameters

namespace SwitchV2P

/-!
# The packet path of a caching switch

`P4SwitchApp::ReceivePacket` runs on every packet that reaches a switch, before
the packet is routed.  The function is cut here at the places where the source
has a comment or a new block, in the order of the source.

Learning and forwarding share no state with the Bluebird slow path, which has
its own queue and cache and is not part of this module.
-/

/-- `P4SwitchApp::SwitchType`. -/
inductive SwitchType where
  | leaf
  | gwLeaf
  | gwSpine
  | spine
  | core
  deriving Repr, DecidableEq

/-- What `Setup` and the attributes fix for one switch. -/
structure SwitchConfig where
  switchAddress : Ipv4Address
  nodeId : UInt32
  switchType : SwitchType
  simMode : Mode
  gwAddresses : List Ipv4Address
  podCount : UInt32
  defaultTtl : UInt32
  sourceLearning : Bool
  accessBit : Bool
  bloomFilterEnabled : Bool
  generateInvalidation : Bool
  deriving Repr, DecidableEq

/-- The tables of one switch. -/
structure SwitchState where
  cache : P4Cache Ipv4Address Ipv4Address
  bloomFilter : BloomFilter

/-- What handling one data packet leaves behind; the packet is forwarded. -/
structure Received where
  state : SwitchState
  packet : DataPacket
  generated : List ProtocolPacket

namespace SwitchConfig

variable (config : SwitchConfig)

/-- `m_gwAddresses.count (address)`. -/
def isGateway (address : Ipv4Address) : Bool :=
  address ∈ config.gwAddresses

/--
`GeneratePacketToAddress`: a fresh packet with one tag, unless it would be
addressed to this very switch.
-/
def generatePacketToAddress
    (data : Mapping)
    (dstAddress : Ipv4Address)
    (learning : Bool) :
    List ProtocolPacket :=
  let generatedPacket : ProtocolPacket :=
    if learning then
      { destination := dstAddress
        evictionTag := TagStack.empty.add data
        invalidationTag := TagStack.empty }
    else
      { destination := dstAddress
        evictionTag := TagStack.empty
        invalidationTag := TagStack.empty.add data }
  if dstAddress ≠ config.switchAddress then [generatedPacket] else []

/-- `GeneratePacketToLeaf`: address the leaf above a host. -/
def generatePacketToLeaf
    (data : Mapping)
    (hostAddress : Ipv4Address) :
    List ProtocolPacket :=
  let podId := (hostAddress >>> 24) - 1
  let leafOffset := (hostAddress >>> 16) &&& 0xff
  let dstAddress :=
    IpUtils.getLeafAddress config.podCount.toNat podId.toNat 0
      leafOffset.toNat
  config.generatePacketToAddress data dstAddress true

/-- Drop the cached mapping that an invalidation names. -/
def invalidate
    (cache : P4Cache Ipv4Address Ipv4Address)
    (invalidated : Mapping) :
    P4Cache Ipv4Address Ipv4Address :=
  let lookup := cache.get invalidated.1
  if lookup.1 = some invalidated.2 then
    lookup.2.remove invalidated.1
  else
    lookup.2

/--
`HandleProtocolPacket`: apply an invalidation, then either consume the packet,
learning from it, or send it on.
-/
def handleProtocolPacket
    (state : SwitchState)
    (packet : ProtocolPacket) :
    SwitchState × List ProtocolPacket :=
  let cache :=
    match packet.invalidationTag.peek with
    | some invalidated => invalidate state.cache invalidated
    | none => state.cache
  if packet.destination = config.switchAddress then
    match packet.evictionTag.peek with
    | some learn =>
        ({ state with cache := (cache.put learn.1 learn.2).2 }, [])
    | none =>
        ({ state with cache := cache }, [])
  else
    ({ state with cache := cache }, [packet])

/-- `LocalP4CacheLogic`. -/
def localP4CacheLogic
    (state : SwitchState)
    (packet : DataPacket) :
    Received :=
  if config.isGateway packet.outer.destination then
    let lookup := state.cache.get packet.inner.destination
    { state := { state with cache := lookup.2 }
      packet :=
        match lookup.1 with
        | some cachedAddr => packet.setDestination cachedAddr
        | none => packet
      generated := [] }
  else
    let cache :=
      (state.cache.put packet.inner.destination
        packet.outer.destination).2
    { state := { state with cache := cache }
      packet := packet
      generated := [] }

/--
The cache half of the invalidation path: drop the named mapping, or follow a
different one.
-/
def followInvalidation
    (cache : P4Cache Ipv4Address Ipv4Address)
    (packet : DataPacket)
    (invalidated : Mapping) :
    P4Cache Ipv4Address Ipv4Address × DataPacket :=
  let lookup := cache.get invalidated.1
  match lookup.1 with
  | some cachedVal =>
      if cachedVal = invalidated.2 then
        (lookup.2.remove invalidated.1, packet)
      else
        (lookup.2, packet.setDestination cachedVal)
  | none =>
      (lookup.2, packet)

/-- The reporting half of the invalidation path, taken at leaves only. -/
def reportInvalidation
    (state : SwitchState)
    (packet : DataPacket)
    (invalidated : Mapping) :
    Received :=
  match packet.hitTag.peek with
  | some hitTag =>
      let filtered :=
        config.bloomFilterEnabled &&
          state.bloomFilter.get hitTag.switchId
      { state :=
          { state with
            bloomFilter :=
              if config.bloomFilterEnabled then
                state.bloomFilter.put hitTag.switchId
              else
                state.bloomFilter }
        packet := { packet with hitTag := packet.hitTag.remove }
        generated :=
          if config.generateInvalidation && !filtered then
            config.generatePacketToAddress
              (packet.inner.destination, invalidated.2)
              hitTag.address false
          else
            [] }
  | none =>
      { state := state
        packet := packet
        generated := [] }

/-- The path of a data packet that carries an invalidation tag. -/
def receiveInvalidationTagged
    (state : SwitchState)
    (packet : DataPacket)
    (invalidated : Mapping) :
    Received :=
  let followed :=
    followInvalidation state.cache packet invalidated
  let state := { state with cache := followed.1 }
  if config.switchType = .leaf then
    config.reportInvalidation state followed.2 invalidated
  else
    { state := state
      packet := followed.2
      generated := [] }

/-- Learning at a leaf: the source of a distant packet, else the destination. -/
def learnAtLeaf
    (cache : P4Cache Ipv4Address Ipv4Address)
    (packet : DataPacket) :
    P4Cache Ipv4Address Ipv4Address :=
  if config.sourceLearning ∧
      packet.outer.ttl.toUInt32 < config.defaultTtl - 1 then
    (cache.put packet.inner.source packet.outer.source).2
  else if ¬ config.isGateway packet.outer.destination then
    (cache.putIfNotEvict packet.inner.destination
      packet.outer.destination).2
  else
    cache

/-- `m_cache.Put` with eviction, tagging the packet with what was evicted. -/
def putAndTag
    (cache : P4Cache Ipv4Address Ipv4Address)
    (packet : DataPacket)
    (learn : Mapping) :
    P4Cache Ipv4Address Ipv4Address × DataPacket :=
  let stored := cache.put learn.1 learn.2
  match stored.1 with
  | some evicted =>
      (stored.2,
        { packet with evictionTag := packet.evictionTag.add evicted })
  | none =>
      (stored.2, packet)

/-- Learning at a core switch. -/
def learnAtCore
    (cache : P4Cache Ipv4Address Ipv4Address)
    (packet : DataPacket)
    (foundTag : Bool)
    (learn : Mapping) :
    P4Cache Ipv4Address Ipv4Address × DataPacket :=
  if foundTag then
    let bit := cache.getBit learn.1
    let inCache := cache.find learn.1
    if learn.1 = packet.inner.destination ∧ bit = false ∧
        inCache = false then
      putAndTag cache packet learn
    else
      (cache,
        { packet with evictionTag := packet.evictionTag.add learn })
  else
    ((cache.putIfNotEvict learn.1 learn.2).2, packet)

/-- Learning at a spine whose access bits protect active entries. -/
def learnUnlessActive
    (cache : P4Cache Ipv4Address Ipv4Address)
    (packet : DataPacket)
    (foundTag : Bool)
    (learn : Mapping) :
    P4Cache Ipv4Address Ipv4Address × DataPacket :=
  let bit := cache.getBit learn.1
  let inCache := cache.find learn.1
  if bit = true ∧ inCache = false then
    if foundTag then
      (cache,
        { packet with evictionTag := packet.evictionTag.add learn })
    else
      (cache, packet)
  else if bit = false ∨ inCache = true then
    putAndTag cache packet learn
  else
    (cache, packet)

/--
Learning packets of a gateway leaf.  `draw` is the outcome of the comparison
with `m_generateProb`; a missing `SourceTag` leaves the default address.
-/
def generateLearning
    (draw : Bool)
    (packet : DataPacket)
    (learn : Mapping) :
    List ProtocolPacket :=
  if config.switchType = .gwLeaf ∧ draw = true then
    config.generatePacketToLeaf learn
      (packet.sourceTag.getD 0x66666666)
  else
    []

/--
Learning at every switch but a leaf, from the eviction tag if there is one.
The flag tells that `ReceivePacket` returns here.
-/
def learnElsewhere
    (draw : Bool)
    (cache : P4Cache Ipv4Address Ipv4Address)
    (packet : DataPacket) :
    P4Cache Ipv4Address Ipv4Address × DataPacket ×
      List ProtocolPacket × Bool :=
  let foundTag := packet.evictionTag.peek.isSome
  let learn :=
    packet.evictionTag.peek.getD
      (packet.inner.destination, packet.outer.destination)
  let untagged :=
    { packet with evictionTag := packet.evictionTag.remove }
  if foundTag ∧ learn.1 = 0 ∧ learn.2 = 0 then
    -- Remove obsolete entry
    let cache :=
      if cache.find packet.inner.destination then
        cache.remove packet.inner.destination
      else
        cache
    (cache,
      { untagged with evictionTag := untagged.evictionTag.add learn },
      [], true)
  else if foundTag ∨
      ¬ config.isGateway packet.outer.destination then
    if config.switchType = .core then
      let learned := learnAtCore cache untagged foundTag learn
      (learned.1, learned.2, [], false)
    else if (config.switchType = .spine ∨
        config.switchType = .gwSpine) ∧ config.accessBit then
      let learned := learnUnlessActive cache untagged foundTag learn
      (learned.1, learned.2, [], false)
    else
      let learned := putAndTag cache untagged learn
      (learned.1, learned.2,
        config.generateLearning draw untagged learn, false)
  else
    (cache, untagged, [], false)

/-- The last lookup: redirect a gateway-bound packet on a hit. -/
def redirectFromCache
    (cache : P4Cache Ipv4Address Ipv4Address)
    (packet : DataPacket) :
    P4Cache Ipv4Address Ipv4Address × DataPacket :=
  if config.isGateway packet.outer.destination then
    let lookup := cache.get packet.inner.destination
    match lookup.1 with
    | some cachedAddr =>
        (lookup.2,
          { packet.setDestination cachedAddr with
            hitTag :=
              packet.hitTag.add
                { address := config.switchAddress
                  switchId := config.nodeId } })
    | none =>
        (lookup.2, packet)
  else
    (cache, packet)

/-- Promotion from a spine to the core: the lookup and its result. -/
def promoteLookup
    (cache : P4Cache Ipv4Address Ipv4Address)
    (packet : DataPacket) :
    Option Ipv4Address × P4Cache Ipv4Address Ipv4Address :=
  if config.switchType = .spine ∧
      config.isGateway packet.outer.destination then
    cache.get packet.inner.destination
  else
    (none, cache)

/-- The learning block of a data packet without an invalidation tag. -/
def learnFromPacket
    (draw : Bool)
    (cache : P4Cache Ipv4Address Ipv4Address)
    (packet : DataPacket) :
    P4Cache Ipv4Address Ipv4Address × DataPacket ×
      List ProtocolPacket × Bool :=
  if config.switchType = .leaf then
    (config.learnAtLeaf cache packet, packet, [], false)
  else
    config.learnElsewhere draw cache packet

/-- The path of a data packet without an invalidation tag. -/
def receiveUntagged
    (draw : Bool)
    (state : SwitchState)
    (packet : DataPacket) :
    Received :=
  let promotion := config.promoteLookup state.cache packet
  match promotion.1 with
  | some cachedVal =>
      { state := { state with cache := promotion.2 }
        packet :=
          { packet with
            evictionTag :=
              packet.evictionTag.remove.add
                (packet.inner.destination, cachedVal) }
        generated := [] }
  | none =>
      let learned :=
        config.learnFromPacket draw promotion.2 packet
      if learned.2.2.2 then
        { state := { state with cache := learned.1 }
          packet := learned.2.1
          generated := learned.2.2.1 }
      else
        let redirected :=
          config.redirectFromCache learned.1 learned.2.1
        { state := { state with cache := redirected.1 }
          packet := redirected.2
          generated := learned.2.2.1 }

/-- `ReceivePacket` on a data packet, outside of Bluebird mode. -/
def receivePacket
    (draw : Bool)
    (state : SwitchState)
    (packet : DataPacket) :
    Received :=
  if config.simMode = .localLearning then
    config.localP4CacheLogic state packet
  else
    match packet.invalidationTag.peek with
    | some invalidated =>
        config.receiveInvalidationTagged state packet invalidated
    | none =>
        config.receiveUntagged draw state packet

end SwitchConfig

end SwitchV2P
