import SwitchV2P.PrototypeSpec

namespace SwitchV2P.PrototypeEviction

/-!
# What a packet carries away from a slot

A learning branch decides from the previous key alone how the packet leaves.
Key 1 is an empty slot and key 0 a refused write; every other key counts as
displaced, also the one that the packet has just stored again.
-/

open Prototype

/-- A learning branch stores both the key and the value of the packet. -/
def WritesSlot
    (program : Program)
    (registers : Registers)
    (header : Header) :
    Prop :=
  branch program header = .gwTor ∨
    (branch program header = .learn ∧
      (registers.keys (index program header)).accessBit = 0 ∧
      (registers.keys (index program header)).key ≠ 0)

instance
    (program : Program)
    (registers : Registers)
    (header : Header) :
    Decidable (WritesSlot program registers header) :=
  inferInstanceAs (Decidable (_ ∨ _ ∧ _ ∧ _))

/-- A slot has a valid entry whose key is not the given one. -/
structure HoldsOther
    (registers : Registers)
    (idx : Index)
    (stored : Ipv4Address)
    (key val : Ipv4Address) : Prop where
  slotKey : (registers.keys idx).key = key
  slotVal : registers.vals idx = val
  valid : key ≠ 0 ∧ key ≠ 1
  different : key ≠ stored

/-- The header is an eviction tag with the given entry. -/
structure CarriesAway
    (header : Header)
    (key val : Ipv4Address) : Prop where
  type : header.switchv2p.type = evictionTagType
  key : header.switchv2p.key = key
  val : header.switchv2p.val = val

/-- The packet leaves as an eviction exactly when it displaced another key. -/
structure TagsDisplaced
    (registers : Registers)
    (idx : Index)
    (stored : Ipv4Address)
    (after : Header) : Prop where
  evicts :
    ∀ key val,
      CarriesAway after key val ↔ HoldsOther registers idx stored key val
  normal :
    (∀ key val, ¬ HoldsOther registers idx stored key val) →
      after.switchv2p.type = normalType

variable
  {program : Program}
  {registers : Registers}
  {packet : Ingress}

/-- Every write into a slot tags the packet from what the slot held. -/
theorem header_ingress
    (writes : WritesSlot program registers packet.header) :
    (ingress program registers packet).header =
      tagDisplaced packet.header
        (registers.keys (index program packet.header)).key
        (registers.vals (index program packet.header)) := by
  rw [ingress_eq]
  rcases writes with atGwTor | ⟨learns, inactive, nonzero⟩
  · rw [atGwTor]
    rfl
  · rw [learns]
    dsimp only
    rw [applyLearning_of_inactive inactive nonzero]

/-- A header tagged with an occupied slot carries that slot away. -/
theorem carriesAway_tagDisplaced
    (header : Header)
    {slotKey slotVal : Ipv4Address}
    (occupied : slotKey ≠ 1)
    (key val : Ipv4Address) :
    CarriesAway (tagDisplaced header slotKey slotVal) key val ↔
      slotKey = key ∧ slotVal = val := by
  constructor
  · intro carries
    exact ⟨carries.key, carries.val⟩
  · rintro ⟨sameKey, sameVal⟩
    refine ⟨?_, sameKey, sameVal⟩
    change (if slotKey = 1 then normalType else evictionTagType) = _
    rw [if_neg occupied]

/-- A header tagged with an empty slot carries nothing away. -/
theorem type_tagDisplaced_empty
    (header : Header)
    (slotVal : Ipv4Address) :
    (tagDisplaced header 1 slotVal).switchv2p.type = normalType :=
  rfl

/--
A write is tagged as it should be exactly when the slot held neither the key
that is stored nor the invalid key 0.
-/
theorem tagsDisplaced_iff
    (writes : WritesSlot program registers packet.header)
    (usable : (taught program packet.header).1 ≠ 1) :
    TagsDisplaced registers (index program packet.header)
        (taught program packet.header).1
        (ingress program registers packet).header ↔
      (registers.keys (index program packet.header)).key ≠
          (taught program packet.header).1 ∧
        (registers.keys (index program packet.header)).key ≠ 0 := by
  rw [header_ingress writes]
  generalize index program packet.header = idx
  generalize (taught program packet.header).1 = stored at usable ⊢
  constructor
  · intro tags
    by_cases empty : (registers.keys idx).key = 1
    · rw [empty]
      exact ⟨usable.symm, by decide⟩
    · have carries :=
        (carriesAway_tagDisplaced packet.header empty
          (registers.keys idx).key (registers.vals idx)).mpr ⟨rfl, rfl⟩
      have holds := (tags.evicts _ _).mp carries
      exact ⟨holds.different, holds.valid.1⟩
  · rintro ⟨different, nonzero⟩
    by_cases empty : (registers.keys idx).key = 1
    · have leavesNormal :
          (tagDisplaced packet.header (registers.keys idx).key
            (registers.vals idx)).switchv2p.type = normalType := by
        rw [empty]
        exact type_tagDisplaced_empty _ _
      refine ⟨fun key val => ⟨?_, ?_⟩, fun _ => leavesNormal⟩
      · intro carries
        rw [carries.type] at leavesNormal
        exact absurd leavesNormal (by decide)
      · intro holds
        exact absurd (holds.slotKey.symm.trans empty) holds.valid.2
    · refine ⟨fun key val => ?_, fun none => ?_⟩
      · rw [carriesAway_tagDisplaced _ empty]
        constructor
        · rintro ⟨rfl, rfl⟩
          exact ⟨rfl, rfl, ⟨nonzero, empty⟩, different⟩
        · intro holds
          exact ⟨holds.slotKey, holds.slotVal⟩
      · exact absurd
          ⟨rfl, rfl, ⟨nonzero, empty⟩, different⟩
          (none (registers.keys idx).key (registers.vals idx))

/-- A gateway leaf that looks up by the low bits of an address. -/
def gatewayLeaf : Program where
  switchType := .gwTor
  switchId := 0
  matchGw := fun address => address = 9
  checkMisdelivered := fun _ => false
  learningMirrorSession := fun _ => 2
  invalidationMirrorSession := fun _ => 1
  retransmitTimeout := 0
  dstIndexHash := fun key => BitVec.ofNat 13 key.toNat
  srcIndexHash := fun key => BitVec.ofNat 13 key.toNat

/-- An untagged packet to a container at a host. -/
def packetTo (container host : Ipv4Address) : Ingress where
  header :=
    { ipv4Outter := { srcAddr := 16, dstAddr := host }
      ipv4Inner := { srcAddr := 2, dstAddr := container }
      switchv2p :=
        { type := normalType, switchId := 0, key := 0, val := 0 } }
  rand := 100
  globalTstamp := 0

/-- The registers of the gateway leaf after a packet to container 3. -/
def afterFirst : Registers :=
  (ingress gatewayLeaf .initial (packetTo 3 17)).registers

/-- Container 8195 falls into the same slot as container 3. -/
theorem tagsDisplaced_gatewayLeaf :
    TagsDisplaced afterFirst
        (index gatewayLeaf (packetTo 8195 18).header)
        (taught gatewayLeaf (packetTo 8195 18).header).1
        (ingress gatewayLeaf afterFirst (packetTo 8195 18)).header ↔
      (afterFirst.keys (index gatewayLeaf (packetTo 8195 18).header)).key ≠
          (taught gatewayLeaf (packetTo 8195 18).header).1 ∧
        (afterFirst.keys
          (index gatewayLeaf (packetTo 8195 18).header)).key ≠ 0 :=
  tagsDisplaced_iff (by decide) (by decide)

/-- Container 3 has moved; its packet spreads the host it has left. -/
theorem not_tagsDisplaced_relearnt :
    WritesSlot gatewayLeaf afterFirst (packetTo 3 18).header ∧
      taught gatewayLeaf (packetTo 3 18).header = (3, 18) ∧
      CarriesAway
        (ingress gatewayLeaf afterFirst (packetTo 3 18)).header 3 17 ∧
      ¬ TagsDisplaced afterFirst
        (index gatewayLeaf (packetTo 3 18).header)
        (taught gatewayLeaf (packetTo 3 18).header).1
        (ingress gatewayLeaf afterFirst (packetTo 3 18)).header := by
  have carries :
      CarriesAway
        (ingress gatewayLeaf afterFirst (packetTo 3 18)).header 3 17 :=
    ⟨by decide, by decide, by decide⟩
  refine ⟨by decide, by decide, carries, fun tags => ?_⟩
  have holds := (tags.evicts 3 17).mp carries
  exact absurd (by decide) holds.different

end SwitchV2P.PrototypeEviction
