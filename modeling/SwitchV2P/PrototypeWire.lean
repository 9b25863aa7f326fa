import SwitchV2P.OnesComplement
import SwitchV2P.Prototype

namespace SwitchV2P.PrototypeWire

/-!
# The P4 prototype on the wire

The headers bit by bit, the two parsers, the two deparsers and the egress
control.  The ingress control is that of `Prototype`, which reads and writes
addresses and the SwitchV2P header and leaves every other field alone.

A frame is what follows the metadata that the hardware puts in front.  A parser
that rejects a frame or runs out of bits drops it.  A mirror copies the frame
as it was received, behind the mirror header that the deparser hands over, and
cuts it at the length of the session.
-/

open Prototype BitFormat OnesComplement

/-- `ethernet_h`. -/
structure EthernetH where
  dstAddr : BitVec 48
  srcAddr : BitVec 48
  etherType : BitVec 16
  deriving Repr, DecidableEq

/-- `ipv4_h`. -/
structure Ipv4H where
  version : BitVec 4
  ihl : BitVec 4
  diffserv : BitVec 8
  totalLen : BitVec 16
  identification : BitVec 16
  flags : BitVec 3
  fragOffset : BitVec 13
  ttl : BitVec 8
  protocol : BitVec 8
  hdrChecksum : BitVec 16
  srcAddr : Ipv4Address
  dstAddr : Ipv4Address
  deriving Repr, DecidableEq

/-- `mirror_h`. -/
structure MirrorH where
  type : PacketType
  val : Ipv4Address
  deriving Repr, DecidableEq

/-- `header_t`; of its headers only `mirror` is ever invalid. -/
structure HeaderT where
  mirror : Option MirrorH
  ethernet : EthernetH
  ipv4Outter : Ipv4H
  ipv4Inner : Ipv4H
  switchv2p : SwitchV2PHeader
  deriving Repr, DecidableEq

def etherTypeIpv4 : BitVec 16 := 0x0800#16

def ipProtocolsSwitchV2P : BitVec 8 := 146#8

/-! ## Layouts -/

def uint8 : BitFormat UInt8 :=
  (word 8).along
    { toFun := UInt8.ofBitVec
      invFun := UInt8.toBitVec
      left_inv := fun _ => rfl
      right_inv := fun _ => rfl }

def ipv4Addr : BitFormat Ipv4Address :=
  (word 32).along
    { toFun := UInt32.ofBitVec
      invFun := UInt32.toBitVec
      left_inv := fun _ => rfl
      right_inv := fun _ => rfl }

def ethernetFormat : BitFormat EthernetH :=
  ((word 48).pair ((word 48).pair (word 16))).along
    { toFun := fun fields => ⟨fields.1, fields.2.1, fields.2.2⟩
      invFun := fun header =>
        (header.dstAddr, header.srcAddr, header.etherType)
      left_inv := fun _ => rfl
      right_inv := fun _ => rfl }

/-- The fields in front of the checksum. -/
abbrev Ipv4Front : Type :=
  BitVec 4 × BitVec 4 × BitVec 8 × BitVec 16 × BitVec 16 × BitVec 3 ×
    BitVec 13 × BitVec 8 × BitVec 8

def ipv4Front : BitFormat Ipv4Front :=
  (word 4).pair ((word 4).pair ((word 8).pair ((word 16).pair
    ((word 16).pair ((word 3).pair ((word 13).pair ((word 8).pair
      (word 8))))))))

namespace Ipv4H

variable (header : Ipv4H)

def front : Ipv4Front :=
  (header.version, header.ihl, header.diffserv, header.totalLen,
    header.identification, header.flags, header.fragOffset, header.ttl,
    header.protocol)

/-- The list of fields that both deparsers hand to `ipv4_checksum.update`. -/
def checksumFields : List Bool :=
  ipv4Front.encode header.front ++
    (ipv4Addr.pair ipv4Addr).encode (header.srcAddr, header.dstAddr)

/-- `ipv4_checksum.update` over nine 16-bit words. -/
def updateChecksum : Ipv4H :=
  { header with
    hdrChecksum := ~~~(sum (wordsOf 16 9 header.checksumFields)) }

end Ipv4H

def ipv4Format : BitFormat Ipv4H :=
  (ipv4Front.pair ((word 16).pair (ipv4Addr.pair ipv4Addr))).along
    { toFun := fun ⟨⟨version, ihl, diffserv, totalLen, identification,
          flags, fragOffset, ttl, protocol⟩, hdrChecksum, srcAddr, dstAddr⟩ =>
        ⟨version, ihl, diffserv, totalLen, identification, flags, fragOffset,
          ttl, protocol, hdrChecksum, srcAddr, dstAddr⟩
      invFun := fun header =>
        (header.front, header.hdrChecksum, header.srcAddr, header.dstAddr)
      left_inv := fun _ => rfl
      right_inv := fun _ => rfl }

def switchv2pFormat : BitFormat SwitchV2PHeader :=
  (uint8.pair (uint8.pair (ipv4Addr.pair ipv4Addr))).along
    { toFun := fun fields =>
        ⟨fields.1, fields.2.1, fields.2.2.1, fields.2.2.2⟩
      invFun := fun header =>
        (header.type, header.switchId, header.key, header.val)
      left_inv := fun _ => rfl
      right_inv := fun _ => rfl }

def mirrorFormat : BitFormat MirrorH :=
  (uint8.pair ipv4Addr).along
    { toFun := fun fields => ⟨fields.1, fields.2⟩
      invFun := fun header => (header.type, header.val)
      left_inv := fun _ => rfl
      right_inv := fun _ => rfl }

namespace HeaderT

variable (header : HeaderT)

/-- What the ingress control reads. -/
def addresses : Header where
  ipv4Outter := ⟨header.ipv4Outter.srcAddr, header.ipv4Outter.dstAddr⟩
  ipv4Inner := ⟨header.ipv4Inner.srcAddr, header.ipv4Inner.dstAddr⟩
  switchv2p := header.switchv2p

/-- What the ingress control wrote. -/
def withAddresses (addresses : Header) : HeaderT :=
  { header with
    ipv4Outter :=
      { header.ipv4Outter with
        srcAddr := addresses.ipv4Outter.srcAddr
        dstAddr := addresses.ipv4Outter.dstAddr }
    ipv4Inner :=
      { header.ipv4Inner with
        srcAddr := addresses.ipv4Inner.srcAddr
        dstAddr := addresses.ipv4Inner.dstAddr }
    switchv2p := addresses.switchv2p }

/-- The valid headers of `pkt.emit(hdr)`, in the order of `header_t`. -/
def emit : List Bool :=
  (match header.mirror with
    | some mirror => mirrorFormat.encode mirror
    | none => []) ++
    (ethernetFormat.encode header.ethernet ++
      (ipv4Format.encode header.ipv4Outter ++
        (ipv4Format.encode header.ipv4Inner ++
          switchv2pFormat.encode header.switchv2p)))

end HeaderT

/-! ## Ingress -/

/-- `ingress_metadata_initializer`. -/
def ingressMetadataInitializer : Metadata where
  switchType := .tor
  switchId := 0
  key := 0
  val := 0
  mirrorSession := 0
  mirrorHeaderType := 0
  toGw := false
  misdelivered := false

/-- An accepted frame. -/
structure Parsed where
  header : HeaderT
  metadata : Metadata
  payload : List Bool
  deriving Repr, DecidableEq

/-- `SwitchV2PIngressParser`. -/
def ingressParser (frame : List Bool) : Option Parsed := do
  let (ethernet, rest) ← ethernetFormat.extract frame
  guard (ethernet.etherType = etherTypeIpv4)
  let (ipv4Outter, rest) ← ipv4Format.extract rest
  let (ipv4Inner, rest) ← ipv4Format.extract rest
  guard (ipv4Inner.protocol = ipProtocolsSwitchV2P)
  -- `lookahead` reads the type and leaves it in place.
  let (switchv2pType, _) ← uint8.extract rest
  let (switchv2p, payload) ← switchv2pFormat.extract rest
  let tagged :=
    switchv2pType = invalidationType ∨ switchv2pType = learningType ∨
      switchv2pType = evictionTagType
  return {
    header := ⟨none, ethernet, ipv4Outter, ipv4Inner, switchv2p⟩
    metadata :=
      if tagged then
        { ingressMetadataInitializer with
          key := switchv2p.key
          val := switchv2p.val }
      else
        { ingressMetadataInitializer with
          key := ipv4Inner.dstAddr
          val := ipv4Outter.dstAddr }
    payload := payload }

/-- `SwitchV2PIngressDeparser`, without the mirror. -/
def ingressDeparser (header : HeaderT) : List Bool :=
  HeaderT.emit
    { header with ipv4Outter := header.ipv4Outter.updateChecksum }

/-! ## Egress -/

/-- The tables of `SwitchV2PEgress`; both answer 0 by default. -/
structure EgressTables where
  switchIdToDst : UInt8 → Ipv4Address
  srcToTor : Ipv4Address → Ipv4Address

/-- `SwitchV2PEgressParser`. -/
def egressParser (frame : List Bool) : Option (HeaderT × List Bool) := do
  let (mirror, rest) ← mirrorFormat.extract frame
  let (ethernet, rest) ← ethernetFormat.extract rest
  let (ipv4Outter, rest) ← ipv4Format.extract rest
  let (ipv4Inner, rest) ← ipv4Format.extract rest
  let (switchv2p, payload) ← switchv2pFormat.extract rest
  return (⟨some mirror, ethernet, ipv4Outter, ipv4Inner, switchv2p⟩,
    payload)

/-- The header of a message that the mirror has made. -/
def asMessage
    (header : HeaderT)
    (type : PacketType)
    (dst : Ipv4Address)
    (val : Ipv4Address) :
    HeaderT :=
  { header with
    mirror := none
    ipv4Outter :=
      { header.ipv4Outter with totalLen := 50#16, dstAddr := dst }
    ipv4Inner := { header.ipv4Inner with totalLen := 30#16 }
    switchv2p :=
      { header.switchv2p with
        type := type
        key := header.ipv4Inner.dstAddr
        val := val } }

/-- `SwitchV2PEgress`. -/
def egressApply (tables : EgressTables) (header : HeaderT) : HeaderT :=
  match header.mirror with
  | some mirror =>
      if mirror.type = invalidationType then
        asMessage header invalidationType
          (tables.switchIdToDst header.switchv2p.switchId)
          header.switchv2p.val
      else if mirror.type = learningType then
        asMessage header learningType
          (tables.srcToTor header.ipv4Outter.srcAddr)
          mirror.val
      else
        { header with mirror := none }
  | none => header

/-- `SwitchV2PEgressDeparser`. -/
def egressDeparser (header : HeaderT) : List Bool :=
  HeaderT.emit
    { header with
      ipv4Outter := header.ipv4Outter.updateChecksum
      ipv4Inner := header.ipv4Inner.updateChecksum }

def egress (tables : EgressTables) (frame : List Bool) :
    Option (List Bool) := do
  let (header, payload) ← egressParser frame
  return egressDeparser (egressApply tables header) ++ payload

/-! ## A switch -/

/-- An entry of `$mirror.cfg`. -/
structure MirrorSession where
  /-- In bytes. -/
  maxPktLen : Nat
  egressPort : Nat

/-- One switch, with everything that its control plane has set. -/
structure Switch where
  program : Program
  egressTables : EgressTables
  l3Forwarding : Ipv4Address → Option Nat
  mirrorCfg : Nat → Option MirrorSession

/-- A frame that is received, with the random number and the time it meets. -/
structure Arrival where
  frame : List Bool
  rand : BitVec 10
  globalTstamp : BitVec 48

/-- A frame that is sent. -/
structure Departure where
  port : Nat
  frame : List Bool
  deriving Repr, DecidableEq

/-- What the switch does with a frame. -/
structure Handling where
  registers : Registers
  forwarded : Option Departure
  mirrored : Option Departure

/-- What the ingress control reads of an accepted frame. -/
def Parsed.ingress (parsed : Parsed) (arrival : Arrival) : Ingress where
  header := parsed.header.addresses
  rand := arrival.rand
  globalTstamp := arrival.globalTstamp

/-- `SwitchV2PIngress`, up to forwarding. -/
def ingressApply
    (switch : Switch)
    (registers : Registers)
    (parsed : Parsed)
    (arrival : Arrival) :
    Outcome :=
  cacheApply switch.program registers (parsed.ingress arrival)
    (configure switch.program parsed.header.addresses parsed.metadata)

/-- The packet goes on to the port of its destination, or is dropped. -/
def forward
    (switch : Switch)
    (parsed : Parsed)
    (outcome : Outcome) :
    Option Departure := do
  let header :=
    { parsed.header.withAddresses outcome.header with
      mirror := some { type := normalType, val := 0 } }
  let port ← switch.l3Forwarding header.ipv4Outter.dstAddr
  let frame ← egress switch.egressTables
    (ingressDeparser header ++ parsed.payload)
  return { port := port, frame := frame }

/-- The copy that the deparser asks for, through the egress of its session. -/
def mirror
    (switch : Switch)
    (arrival : Arrival)
    (outcome : Outcome) :
    Option Departure := do
  guard (outcome.mirrorType ≠ .none)
  let session ← switch.mirrorCfg outcome.metadata.mirrorSession
  let copy :=
    mirrorFormat.encode
      { type := outcome.metadata.mirrorHeaderType
        val := outcome.header.ipv4Outter.dstAddr } ++ arrival.frame
  let frame ← egress switch.egressTables (copy.take (8 * session.maxPktLen))
  return { port := session.egressPort, frame := frame }

/-- A frame from the wire to the wire. -/
def receive
    (switch : Switch)
    (registers : Registers)
    (arrival : Arrival) :
    Handling :=
  match ingressParser arrival.frame with
  | none =>
      { registers := registers
        forwarded := none
        mirrored := none }
  | some parsed =>
      let outcome := ingressApply switch registers parsed arrival
      { registers := outcome.registers
        forwarded := forward switch parsed outcome
        mirrored := mirror switch arrival outcome }

end SwitchV2P.PrototypeWire
