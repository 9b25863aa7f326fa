import SwitchV2P.PrototypeSpec

namespace SwitchV2P.PrototypeRedirect

/-!
# Where a gateway-bound packet is sent

The parser chooses the key of the lookup before anything is known about the
destination, and gives an eviction tag precedence over the inner header.  The
address that the lookup finds is used for the packet all the same.  The lookup
also takes an empty slot, whose key register is 1, for an entry of container 1.
-/

open Prototype

/-- The cache maps a key to a value; a slot with key 1 is empty. -/
def Holds
    (program : Program)
    (registers : Registers)
    (key val : Ipv4Address) :
    Prop :=
  (registers.keys (program.dstIndexHash key)).key = key ∧
    registers.vals (program.dstIndexHash key) = val ∧ key ≠ 1

instance
    (program : Program)
    (registers : Registers)
    (key val : Ipv4Address) :
    Decidable (Holds program registers key val) :=
  inferInstanceAs (Decidable (_ ∧ _ ∧ _))

/-- The packet is looked up and found. -/
structure Hits
    (program : Program)
    (registers : Registers)
    (header : Header) : Prop where
  toGateway : branch program header = .toGateway
  delivered : ¬ Misdelivered program header
  found :
    (registers.keys (index program header)).key =
      (settled program header).key

/-- What a lookup finds is used for the container that it was found for. -/
structure RedirectsByDestination
    (program : Program)
    (registers : Registers)
    (packet : Ingress) : Prop where
  /-- The outer destination is rewritten to the address of the inner one. -/
  rewrites :
    Hits program registers packet.header → program.switchType ≠ .spine →
      Holds program registers packet.header.ipv4Inner.dstAddr
        (ingress program registers packet).header.ipv4Outter.dstAddr
  /-- The eviction tag of a spine is an entry of the spine's cache. -/
  promotes :
    Hits program registers packet.header → program.switchType = .spine →
      Holds program registers
        (ingress program registers packet).header.switchv2p.key
        (ingress program registers packet).header.switchv2p.val

/--
The packet hits under the key of its eviction tag, which is not its destination
and whose address is not that of its destination.
-/
structure Mistaken
    (program : Program)
    (registers : Registers)
    (header : Header) : Prop where
  tagged : header.switchv2p.type = evictionTagType
  foreign : header.switchv2p.key ≠ header.ipv4Inner.dstAddr
  delivered : ¬ Misdelivered program header
  found :
    (registers.keys (program.dstIndexHash header.switchv2p.key)).key =
      header.switchv2p.key
  elsewhere :
    ¬ Holds program registers header.ipv4Inner.dstAddr
      (registers.vals (program.dstIndexHash header.switchv2p.key))

/--
The packet is looked up under its destination, which is container 1, and finds
an empty slot.
-/
structure FindsEmptySlot
    (program : Program)
    (registers : Registers)
    (header : Header) : Prop where
  notLearning : header.switchv2p.type ≠ learningType
  notInvalidation : header.switchv2p.type ≠ invalidationType
  notInvalidationTag : header.switchv2p.type ≠ invalidationTagType
  own :
    header.switchv2p.type = evictionTagType →
      header.switchv2p.key = header.ipv4Inner.dstAddr
  delivered : ¬ Misdelivered program header
  destination : header.ipv4Inner.dstAddr = 1
  empty : (registers.keys (program.dstIndexHash 1)).key = 1

variable
  {program : Program}
  {registers : Registers}
  {packet : Ingress}
  {header : Header}

/-- A spine tags a hit with the destination and the value it found. -/
theorem Hits.header_of_spine
    (hits : Hits program registers packet.header)
    (atSpine : program.switchType = .spine) :
    (ingress program registers packet).header =
      addEvictionTag packet.header
        (registers.vals (index program packet.header)) := by
  rw [ingress_toGateway hits.toGateway hits.delivered, if_pos hits.found,
    if_pos atSpine]

/-- Any other switch rewrites the destination. -/
theorem Hits.dstAddr_of_not_spine
    (hits : Hits program registers packet.header)
    (elsewhere : program.switchType ≠ .spine) :
    (ingress program registers packet).header.ipv4Outter.dstAddr =
      registers.vals (index program packet.header) := by
  rw [ingress_toGateway hits.toGateway hits.delivered, if_pos hits.found,
    if_neg elsewhere]
  rfl

/-- Only a hit elsewhere than at a spine changes the outer destination. -/
theorem hits_of_dstAddr_ne
    (changed :
      (ingress program registers packet).header.ipv4Outter.dstAddr ≠
        packet.header.ipv4Outter.dstAddr) :
    Hits program registers packet.header ∧
      program.switchType ≠ .spine := by
  by_cases toGateway : branch program packet.header = .toGateway
  · by_cases misdelivered : Misdelivered program packet.header
    · exfalso
      apply changed
      rw [(ingress_misdelivered toGateway misdelivered).2.1]
      rfl
    · rw [ingress_toGateway toGateway misdelivered] at changed
      split at changed
      next found =>
        split at changed
        next => exact absurd rfl changed
        next elsewhere =>
          exact ⟨⟨toGateway, misdelivered, found⟩, elsewhere⟩
      next => exact absurd rfl changed
  · exfalso
    apply changed
    rw [ingress_eq]
    cases taken : branch program packet.header with
    | toGateway => exact absurd taken toGateway
    | write => rfl
    | clear => rfl
    | pass => rfl
    | gwTor => rfl
    | learn =>
        dsimp only
        unfold applyLearning
        dsimp only
        split <;> rfl

/-! ## When the lookup is the right one -/

/-- A hit finds the key that was looked up. -/
theorem Hits.key_parsed
    (hits : Hits program registers header) :
    (registers.keys (program.dstIndexHash (parse header).key)).key =
      (parse header).key := by
  obtain ⟨sameKey, slot⟩ := settled_toGateway hits.toGateway
  have found := hits.found
  rw [sameKey, slot] at found
  exact found

/-- The value that a hit finds is that of the key it was looked up under. -/
theorem Hits.holds_parsed
    (hits : Hits program registers header)
    (valid : (parse header).key ≠ 1) :
    Holds program registers (parse header).key
      (registers.vals (index program header)) := by
  rw [(settled_toGateway hits.toGateway).2]
  exact ⟨hits.key_parsed, rfl, valid⟩

/-- Both halves ask whether the value found is that of the destination. -/
theorem redirectsByDestination_iff_holds :
    RedirectsByDestination program registers packet ↔
      (Hits program registers packet.header →
        Holds program registers packet.header.ipv4Inner.dstAddr
          (registers.vals (index program packet.header))) := by
  constructor
  · intro redirects hits
    by_cases atSpine : program.switchType = .spine
    · have promoted := redirects.promotes hits atSpine
      rw [hits.header_of_spine atSpine] at promoted
      exact promoted
    · have rewritten := redirects.rewrites hits atSpine
      rw [hits.dstAddr_of_not_spine atSpine] at rewritten
      exact rewritten
  · intro holds
    refine ⟨fun hits elsewhere => ?_, fun hits atSpine => ?_⟩
    · rw [hits.dstAddr_of_not_spine elsewhere]
      exact holds hits
    · rw [hits.header_of_spine atSpine]
      exact holds hits

/-- A packet that is mistaken for another container is not redirected right. -/
theorem Mistaken.not_holds
    (mistaken : Mistaken program registers header)
    (bound : program.matchGw header.ipv4Outter.dstAddr = true) :
    Hits program registers header ∧
      ¬ Holds program registers header.ipv4Inner.dstAddr
        (registers.vals (index program header)) := by
  have toGateway : branch program header = .toGateway := by
    rw [branch_eq_toGateway_iff, mistaken.tagged]
    exact ⟨by decide, by decide, by decide, bound⟩
  obtain ⟨sameKey, slot⟩ := settled_toGateway toGateway
  have parsed := parse_key_toGateway toGateway
  rw [if_pos mistaken.tagged] at parsed
  rw [parsed] at sameKey slot
  refine ⟨⟨toGateway, mistaken.delivered, ?_⟩, ?_⟩
  · rw [sameKey, slot]
    exact mistaken.found
  · rw [slot]
    exact mistaken.elsewhere

/-- Neither is one that finds an empty slot. -/
theorem FindsEmptySlot.not_holds
    (finds : FindsEmptySlot program registers header)
    (bound : program.matchGw header.ipv4Outter.dstAddr = true) :
    Hits program registers header ∧
      ¬ Holds program registers header.ipv4Inner.dstAddr
        (registers.vals (index program header)) := by
  have toGateway : branch program header = .toGateway := by
    rw [branch_eq_toGateway_iff]
    exact ⟨finds.notLearning, finds.notInvalidation,
      finds.notInvalidationTag, bound⟩
  obtain ⟨sameKey, slot⟩ := settled_toGateway toGateway
  have parsed : (parse header).key = 1 := by
    rw [parse_key_toGateway toGateway, ← finds.destination]
    split
    next tagged => exact finds.own tagged
    next => rfl
  rw [parsed] at sameKey slot
  refine ⟨⟨toGateway, finds.delivered, ?_⟩, ?_⟩
  · rw [sameKey, slot]
    exact finds.empty
  · rintro ⟨-, -, valid⟩
    exact valid finds.destination

/-- A hit under the destination is right, unless the slot is empty. -/
theorem Hits.holds_own
    (hits : Hits program registers header)
    (own : (parse header).key = header.ipv4Inner.dstAddr)
    (occupied : ¬ FindsEmptySlot program registers header) :
    Holds program registers header.ipv4Inner.dstAddr
      (registers.vals (index program header)) := by
  have held := hits.key_parsed
  have valid : (parse header).key ≠ 1 := by
    intro isOne
    rw [isOne] at held own
    obtain ⟨notLearning, notInvalidation, notInvalidationTag, -⟩ :=
      branch_eq_toGateway_iff.mp hits.toGateway
    have parsed := parse_key_toGateway hits.toGateway
    refine
      occupied
        ⟨notLearning, notInvalidation, notInvalidationTag,
          fun tagged => ?_, hits.delivered, own.symm, held⟩
    rw [if_pos tagged] at parsed
    rw [← parsed, isOne, own]
  rw [← own]
  exact hits.holds_parsed valid

/--
For every switch type, register state and gateway-bound packet, what the lookup
finds is right for the packet's destination unless the packet is mistaken for
the container in its eviction tag, or is for container 1 and finds an empty
slot.
-/
theorem redirectsByDestination_iff
    (bound : program.matchGw packet.header.ipv4Outter.dstAddr = true) :
    RedirectsByDestination program registers packet ↔
      ¬ Mistaken program registers packet.header ∧
        ¬ FindsEmptySlot program registers packet.header := by
  rw [redirectsByDestination_iff_holds]
  constructor
  · intro holds
    constructor
    · intro mistaken
      obtain ⟨hits, wrong⟩ := mistaken.not_holds bound
      exact wrong (holds hits)
    · intro finds
      obtain ⟨hits, wrong⟩ := finds.not_holds bound
      exact wrong (holds hits)
  · rintro ⟨sound, occupied⟩ hits
    have parsed := parse_key_toGateway hits.toGateway
    by_cases tagged : packet.header.switchv2p.type = evictionTagType
    · rw [if_pos tagged] at parsed
      by_cases own :
          packet.header.switchv2p.key = packet.header.ipv4Inner.dstAddr
      · exact hits.holds_own (parsed.trans own) occupied
      · have held := hits.key_parsed
        have slot := (settled_toGateway hits.toGateway).2
        rw [parsed] at held slot
        by_contra elsewhere
        rw [slot] at elsewhere
        exact sound ⟨tagged, own, hits.delivered, held, elsewhere⟩
    · rw [if_neg tagged] at parsed
      exact hits.holds_own parsed occupied

/-! ## Both cases happen -/

/-- A core switch with one gateway, address 9. -/
def coreProgram : Program where
  switchType := .core
  switchId := 5
  matchGw := fun address => address = 9
  checkMisdelivered := fun _ => false
  learningMirrorSession := fun _ => 2
  invalidationMirrorSession := fun _ => 1
  retransmitTimeout := 0
  dstIndexHash := fun key => BitVec.ofNat 13 key.toNat
  srcIndexHash := fun key => BitVec.ofNat 13 key.toNat

/-- A tagged packet from container 2 to container 3. -/
def taggedPacket (outer key val : Ipv4Address) : Ingress where
  header :=
    { ipv4Outter := { srcAddr := 16, dstAddr := outer }
      ipv4Inner := { srcAddr := 2, dstAddr := 3 }
      switchv2p :=
        { type := evictionTagType, switchId := 0, key := key, val := val } }
  rand := 100
  globalTstamp := 0

/-- The core after it has learned container 4 at host 20 from a tag. -/
def taughtCore : Registers :=
  (ingress coreProgram .initial (taggedPacket 17 4 20)).registers

/-- A tag for the destination itself is looked up rightly. -/
theorem redirectsByDestination_ownTag :
    RedirectsByDestination coreProgram taughtCore (taggedPacket 9 3 17) ↔
      ¬ Mistaken coreProgram taughtCore (taggedPacket 9 3 17).header ∧
        ¬ FindsEmptySlot coreProgram taughtCore
          (taggedPacket 9 3 17).header :=
  redirectsByDestination_iff (by decide)

/-- A packet for container 3 is sent to the host of container 4. -/
theorem not_redirectsByDestination_foreignTag :
    (taggedPacket 9 4 20).header.ipv4Inner.dstAddr = 3 ∧
      (ingress coreProgram taughtCore
        (taggedPacket 9 4 20)).header.ipv4Outter.dstAddr = 20 ∧
      ¬ RedirectsByDestination coreProgram taughtCore
        (taggedPacket 9 4 20) := by
  refine ⟨rfl, by decide, fun redirects => ?_⟩
  have hits : Hits coreProgram taughtCore (taggedPacket 9 4 20).header :=
    ⟨by decide, by decide, by decide⟩
  have holds := redirects.rewrites hits (by decide)
  revert holds
  decide

end SwitchV2P.PrototypeRedirect
