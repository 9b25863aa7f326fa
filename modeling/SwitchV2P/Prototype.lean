import SwitchV2P.IpUtils
import Mathlib.Logic.Function.Basic

namespace SwitchV2P.Prototype

/-!
# The P4 prototype

The ingress pipeline of the Tofino program: the parser's choice of a key and a
value, the two configuration tables, and the `Cache` control.  A register
action is one pass over one register cell, so each is a function of its own and
the control says in which order they run.

Tables that the control plane fills are functions; the hash engines, the random
number and the time stamp are inputs.
-/

/-- `switch_type_t`. -/
inductive SwitchType where
  | tor
  | gwTor
  | spine
  | gwSpine
  | core
  deriving Repr, DecidableEq

/-- `index_t`. -/
abbrev Index := BitVec 13

/-- `timestamp_t`. -/
abbrev Timestamp := BitVec 32

/-- `type_t`. -/
abbrev PacketType := UInt8

def normalType : PacketType := 0

def invalidationTagType : PacketType := 1

def evictionTagType : PacketType := 2

def invalidationType : PacketType := 3

def learningType : PacketType := 4

/-- The addresses of an `ipv4_h`. -/
structure Ipv4 where
  srcAddr : Ipv4Address
  dstAddr : Ipv4Address
  deriving Repr, DecidableEq

/-- `switchv2p_h`. -/
structure SwitchV2PHeader where
  type : PacketType
  switchId : UInt8
  key : Ipv4Address
  val : Ipv4Address
  deriving Repr, DecidableEq

/-- The headers of an accepted packet. -/
structure Header where
  ipv4Outter : Ipv4
  ipv4Inner : Ipv4
  switchv2p : SwitchV2PHeader
  deriving Repr, DecidableEq

/-- `switchv2p_md_h`. -/
structure Metadata where
  switchType : SwitchType
  switchId : UInt8
  key : Ipv4Address
  val : Ipv4Address
  mirrorSession : Nat
  mirrorHeaderType : PacketType
  toGw : Bool
  misdelivered : Bool
  deriving Repr, DecidableEq

/-- `mirror_type` of the deparser metadata; zero means no mirroring. -/
inductive MirrorType where
  | none
  | learning
  | invalidation
  deriving Repr, DecidableEq

/-- `key_pair_t`. -/
structure KeyPair where
  key : Ipv4Address
  accessBit : UInt32
  deriving Repr, DecidableEq

/-- The registers of the `Cache` control. -/
structure Registers where
  keys : Index → KeyPair
  vals : Index → Ipv4Address
  bf : UInt8 → Timestamp

/-- What the control plane and the hardware fix for one switch. -/
structure Program where
  switchType : SwitchType
  switchId : UInt8
  /-- `match_gw`. -/
  matchGw : Ipv4Address → Bool
  /-- `check_misdelivered`. -/
  checkMisdelivered : Ipv4Address → Bool
  learningMirrorSession : Ipv4Address → Nat
  invalidationMirrorSession : UInt8 → Nat
  retransmitTimeout : Timestamp
  dstIndexHash : Ipv4Address → Index
  srcIndexHash : Ipv4Address → Index

/-- A packet at the ingress, with the random number and the time it meets. -/
structure Ingress where
  header : Header
  rand : BitVec 10
  globalTstamp : BitVec 48
  deriving Repr, DecidableEq

/-- What the ingress leaves behind. -/
structure Outcome where
  registers : Registers
  header : Header
  metadata : Metadata
  mirrorType : MirrorType

/-- The initial registers: key 1 and a clear bit in every cell. -/
def Registers.initial : Registers where
  keys := fun _ => { key := 1, accessBit := 0 }
  vals := fun _ => 0
  bf := fun _ => 0

namespace Registers

variable (registers : Registers)

/-- Overwrite one cell of `keys`. -/
def writeKey (idx : Index) (pair : KeyPair) : Registers :=
  { registers with keys := Function.update registers.keys idx pair }

/-- `check_key`. -/
def checkKey (idx : Index) (key : Ipv4Address) : Bool × Registers :=
  if (registers.keys idx).key = key then
    (true, registers.writeKey idx { registers.keys idx with accessBit := 1 })
  else
    (false,
      registers.writeKey idx { registers.keys idx with accessBit := 0 })

/-- `set_key`. -/
def setKey (idx : Index) (key : Ipv4Address) : Ipv4Address × Registers :=
  ((registers.keys idx).key,
    registers.writeKey idx { key := key, accessBit := 0 })

/-- `set_key_if_not_active`. -/
def setKeyIfNotActive
    (idx : Index)
    (key : Ipv4Address) :
    Ipv4Address × Registers :=
  if (registers.keys idx).accessBit = 0 then
    ((registers.keys idx).key,
      registers.writeKey idx { registers.keys idx with key := key })
  else
    (0, registers)

/-- `clear_key`. -/
def clearKey (idx : Index) (key : Ipv4Address) : Registers :=
  if (registers.keys idx).key = key then
    registers.writeKey idx { key := 1, accessBit := 0 }
  else
    registers

/-- `get_val`. -/
def getVal (idx : Index) : Ipv4Address :=
  registers.vals idx

/-- `set_val`. -/
def setVal (idx : Index) (val : Ipv4Address) : Ipv4Address × Registers :=
  (registers.vals idx,
    { registers with vals := Function.update registers.vals idx val })

/-- `check_timeout`. -/
def checkTimeout
    (switchId : UInt8)
    (globalTstamp : BitVec 48)
    (retransmitTimeout : Timestamp) :
    Bool × Registers :=
  let now : Timestamp := globalTstamp.extractLsb' 16 32
  if registers.bf switchId < now then
    (true,
      { registers with
        bf :=
          Function.update registers.bf switchId
            (now + retransmitTimeout) })
  else
    (false, registers)

end Registers

/-- `parse_switchv2p`: tagged packets bring their own key and value. -/
def parse (header : Header) : Metadata :=
  let tagged :=
    header.switchv2p.type = invalidationType ∨
      header.switchv2p.type = learningType ∨
      header.switchv2p.type = evictionTagType
  { switchType := .tor
    switchId := 0
    key :=
      if tagged then header.switchv2p.key else header.ipv4Inner.dstAddr
    val :=
      if tagged then header.switchv2p.val else header.ipv4Outter.dstAddr
    mirrorSession := 0
    mirrorHeaderType := 0
    toGw := false
    misdelivered := false }

/-- `switch_config` and `match_gw`. -/
def configure
    (program : Program)
    (header : Header)
    (metadata : Metadata) :
    Metadata :=
  { metadata with
    switchType := program.switchType
    switchId := program.switchId
    toGw := program.matchGw header.ipv4Outter.dstAddr }

/-- `add_hit_tag`. -/
def addHitTag (header : Header) (metadata : Metadata) : Header :=
  { header with
    switchv2p := { header.switchv2p with switchId := metadata.switchId } }

/-- `add_eviction_tag`. -/
def addEvictionTag (header : Header) (val : Ipv4Address) : Header :=
  { header with
    switchv2p :=
      { header.switchv2p with
        type := evictionTagType
        key := header.ipv4Inner.dstAddr
        val := val } }

/-- `add_invalidation_tag`. -/
def addInvalidationTag (header : Header) : Header :=
  { header with
    switchv2p :=
      { header.switchv2p with
        type := invalidationTagType
        key := header.ipv4Inner.dstAddr } }

/-- Tag a packet with the key and value that a write displaced. -/
def tagDisplaced
    (header : Header)
    (key val : Ipv4Address) :
    Header :=
  { header with
    switchv2p :=
      { header.switchv2p with
        type := if key = 1 then normalType else evictionTagType
        key := key
        val := val } }

/-- The gateway-bound branch of `Cache.apply`. -/
def applyToGw
    (program : Program)
    (registers : Registers)
    (ingress : Ingress)
    (metadata : Metadata)
    (idx : Index) :
    Outcome :=
  let header := ingress.header
  if metadata.switchType = .tor ∧ metadata.misdelivered then
    let generate :=
      registers.checkTimeout header.switchv2p.switchId
        ingress.globalTstamp program.retransmitTimeout
    { registers := generate.2
      header := addInvalidationTag header
      metadata :=
        if generate.1 then
          { metadata with
            mirrorHeaderType := invalidationType
            mirrorSession :=
              program.invalidationMirrorSession
                header.switchv2p.switchId }
        else
          metadata
      mirrorType := if generate.1 then .invalidation else .none }
  else
    let inCache := registers.checkKey idx metadata.key
    if inCache.1 then
      if metadata.switchType = .spine then
        { registers := inCache.2
          header := addEvictionTag header (inCache.2.getVal idx)
          metadata := metadata
          mirrorType := .none }
      else
        { registers := inCache.2
          header :=
            addHitTag
              { header with
                ipv4Outter :=
                  { header.ipv4Outter with
                    dstAddr := inCache.2.getVal idx } }
              metadata
          metadata := metadata
          mirrorType := .none }
    else
      { registers := inCache.2
        header := header
        metadata := metadata
        mirrorType := .none }

/-- The learning branch of spines, and of cores for tagged packets. -/
def applyLearning
    (registers : Registers)
    (header : Header)
    (metadata : Metadata)
    (idx : Index) :
    Outcome :=
  let prev := registers.setKeyIfNotActive idx metadata.key
  if prev.1 ≠ 0 then
    let val := prev.2.setVal idx metadata.val
    { registers := val.2
      header := tagDisplaced header prev.1 val.1
      metadata := metadata
      mirrorType := .none }
  else
    { registers := prev.2
      header := header
      metadata := metadata
      mirrorType := .none }

/-- The learning branch of gateway leaves. -/
def applyGwTor
    (program : Program)
    (registers : Registers)
    (ingress : Ingress)
    (metadata : Metadata)
    (idx : Index) :
    Outcome :=
  let header := ingress.header
  let mirrored := ingress.rand ≤ 5
  let key := registers.setKey idx metadata.key
  let val := key.2.setVal idx metadata.val
  { registers := val.2
    header := tagDisplaced header key.1 val.1
    metadata :=
      if mirrored then
        { metadata with
          mirrorHeaderType := learningType
          mirrorSession :=
            program.learningMirrorSession header.ipv4Outter.srcAddr }
      else
        metadata
    mirrorType := if mirrored then .learning else .none }

/-- A key and a value are written, and the packet stays as it is. -/
def applyWrite
    (registers : Registers)
    (header : Header)
    (metadata : Metadata)
    (idx : Index) :
    Outcome :=
  { registers :=
      ((registers.setKey idx metadata.key).2.setVal idx metadata.val).2
    header := header
    metadata := metadata
    mirrorType := .none }

/-- `Cache.apply`. -/
def cacheApply
    (program : Program)
    (registers : Registers)
    (ingress : Ingress)
    (metadata : Metadata) :
    Outcome :=
  let header := ingress.header
  let learnsSource :=
    metadata.toGw = false ∧ metadata.switchType = .tor ∧
      (header.switchv2p.type = normalType ∨
        header.switchv2p.type = evictionTagType)
  let idx :=
    if learnsSource then
      program.srcIndexHash header.ipv4Inner.srcAddr
    else
      program.dstIndexHash metadata.key
  let metadata :=
    if learnsSource then
      { metadata with
        key := header.ipv4Inner.srcAddr
        val := header.ipv4Outter.srcAddr }
    else
      metadata
  let metadata :=
    { metadata with
      misdelivered := program.checkMisdelivered header.ipv4Outter.srcAddr }
  if header.switchv2p.type = learningType then
    applyWrite registers header metadata idx
  else if header.switchv2p.type = invalidationType ∨
      header.switchv2p.type = invalidationTagType then
    { registers := registers.clearKey idx metadata.key
      header := header
      metadata := metadata
      mirrorType := .none }
  else if metadata.toGw then
    applyToGw program registers ingress metadata idx
  else if metadata.switchType = .tor then
    applyWrite registers header metadata idx
  else if (metadata.switchType = .core ∧
        header.switchv2p.type = evictionTagType) ∨
      metadata.switchType = .spine ∨ metadata.switchType = .gwSpine then
    applyLearning registers header metadata idx
  else if metadata.switchType = .gwTor then
    applyGwTor program registers ingress metadata idx
  else
    { registers := registers
      header := header
      metadata := metadata
      mirrorType := .none }

/-- The ingress control, up to forwarding. -/
def ingress
    (program : Program)
    (registers : Registers)
    (packet : Ingress) :
    Outcome :=
  cacheApply program registers packet
    (configure program packet.header (parse packet.header))

end SwitchV2P.Prototype
