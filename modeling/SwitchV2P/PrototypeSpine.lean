import SwitchV2P.P4SwitchApp
import SwitchV2P.PrototypeSpec
import SwitchV2P.SwitchRuns
import SwitchV2P.TraceSimulation

namespace SwitchV2P.PrototypeSpine

/-!
# The spine caches of prototype and simulator

A spine of the prototype keeps key, value and access bit in two registers and
updates each in one pass; the simulator tests bit and residency first.  The two
agree on every slot, except when a packet teaches a spine again what it already
holds as an active entry: the simulator then stores the new value and clears
the bit, the prototype does neither.
-/

open Prototype

/-- The header that carries a simulated packet and its eviction tag. -/
structure Represents (packet : DataPacket) (header : Header) : Prop where
  innerDestination :
    header.ipv4Inner.dstAddr = packet.inner.destination
  outerDestination :
    header.ipv4Outter.dstAddr = packet.outer.destination
  untagged :
    packet.evictionTag.peek = none → header.switchv2p.type = normalType
  tagged :
    ∀ learn, packet.evictionTag.peek = some learn →
      header.switchv2p.type = evictionTagType ∧
        header.switchv2p.key = learn.1 ∧ header.switchv2p.val = learn.2

/-- The same spine in both implementations. -/
structure Twins (config : SwitchConfig) (program : Program) : Prop where
  mode : config.simMode = .switchV2P
  accessBit : config.accessBit = true
  types :
    (config.switchType = .spine ∧ program.switchType = .spine) ∨
      (config.switchType = .gwSpine ∧ program.switchType = .gwSpine)
  gateways :
    ∀ address, program.matchGw address = config.isGateway address

/-- One slot of `P4Cache` and one cell of each register. -/
structure SlotAgrees
    (entry : Mapping)
    (bit : Bool)
    (pair : KeyPair)
    (val : Ipv4Address) : Prop where
  bit : pair.accessBit = if bit then 1 else 0
  entry :
    (entry = (0, 0) ∧ pair.key = 1) ∨
      (pair.key = entry.1 ∧ val = entry.2 ∧ entry.1 ≠ 0 ∧
        entry.1 ≠ 1 ∧ entry.2 ≠ 0)

/-- All slots agree, and both sides use one index function. -/
structure Agrees
    (program : Program)
    (cache : P4Cache Ipv4Address Ipv4Address)
    (registers : Registers) : Prop where
  size : cache.cacheSize = 2 ^ 13
  index :
    ∀ key, (program.dstIndexHash key).toNat = (cache.getIndex key).val
  slots :
    ∀ (idx : Fin cache.cacheSize) (i : Index), i.toNat = idx.val →
      SlotAgrees (cache.array idx) (cache.bits idx) (registers.keys i)
        (registers.vals i)

/-- A key that neither side takes for an empty slot. -/
def Usable (key : Ipv4Address) : Prop :=
  key ≠ 0 ∧ key ≠ 1

/-- The mapping that a packet teaches a spine. -/
def learnt (packet : DataPacket) : Mapping :=
  packet.evictionTag.peek.getD
    (packet.inner.destination, packet.outer.destination)

/-- The packets that the comparison is about. -/
structure Comparable
    (config : SwitchConfig)
    (packet : DataPacket) : Prop where
  uninvalidated : packet.invalidationTag.peek = none
  untaggedToGateway :
    config.isGateway packet.outer.destination = true →
      packet.evictionTag.peek = none
  destination : Usable packet.inner.destination
  learntKey : Usable (learnt packet).1
  learntValue :
    config.isGateway packet.outer.destination = false →
      (learnt packet).2 ≠ 0

/-- The packet teaches the spine an entry that is active there. -/
def Relearns
    (config : SwitchConfig)
    (cache : P4Cache Ipv4Address Ipv4Address)
    (packet : DataPacket) : Prop :=
  config.isGateway packet.outer.destination = false ∧
    cache.find (learnt packet).1 = true ∧
    cache.getBit (learnt packet).1 = true

variable
  {config : SwitchConfig}
  {program : Program}
  {cache : P4Cache Ipv4Address Ipv4Address}
  {registers : Registers}
  {key value : Ipv4Address}

/-! ## Single operations -/

/-- Both sides address the same slot. -/
theorem Agrees.index_eq_iff
    (agrees : Agrees program cache registers)
    {idx : Fin cache.cacheSize}
    {i : Index}
    (same : i.toNat = idx.val) :
    i = program.dstIndexHash key ↔ idx = cache.getIndex key := by
  rw [← BitVec.toNat_inj, agrees.index, same, Fin.ext_iff]

/-- The slot of a key and its cells. -/
theorem Agrees.slot
    (agrees : Agrees program cache registers)
    (key : Ipv4Address) :
    SlotAgrees (cache.slot key) (cache.getBit key)
      (registers.keys (program.dstIndexHash key))
      (registers.vals (program.dstIndexHash key)) :=
  agrees.slots (cache.getIndex key) _ (agrees.index key)

/-- A lookup hits on both sides or on neither. -/
theorem SlotAgrees.hit_iff
    {entry : Mapping}
    {bit : Bool}
    {pair : KeyPair}
    {val : Ipv4Address}
    (agrees : SlotAgrees entry bit pair val)
    (usable : Usable key) :
    pair.key = key ↔ entry.1 = key ∧ entry.2 ≠ 0 := by
  rcases agrees.entry with ⟨empty, vacant⟩ | ⟨sameKey, _, _, _, nonzero⟩
  · rw [vacant, empty]
    constructor
    · intro isOne
      exact absurd isOne.symm usable.2
    · rintro ⟨isZero, _⟩
      exact absurd isZero.symm usable.1
  · rw [sameKey]
    exact ⟨fun same => ⟨same, nonzero⟩, fun found => found.1⟩

/-- Setting a bit. -/
theorem Agrees.setBit
    (agrees : Agrees program cache registers)
    (bit : Bool) :
    Agrees program (cache.setBit key bit)
      (registers.writeKey (program.dstIndexHash key)
        { registers.keys (program.dstIndexHash key) with
          accessBit := if bit then 1 else 0 }) := by
  refine ⟨agrees.size, agrees.index, ?_⟩
  intro (idx : Fin cache.cacheSize) i same
  have slotAgrees := agrees.slots idx i same
  by_cases here : idx = cache.getIndex key
  · have cell := (agrees.index_eq_iff same).mpr here
    subst here
    subst cell
    refine ⟨?_, ?_⟩
    · simp [P4Cache.setBit, Registers.writeKey]
    · simpa [P4Cache.setBit, Registers.writeKey] using slotAgrees.entry
  · have elsewhere : i ≠ program.dstIndexHash key :=
      fun cell => here ((agrees.index_eq_iff same).mp cell)
    simpa [P4Cache.setBit, Registers.writeKey, here, elsewhere]
      using slotAgrees

/-- `Get` and `check_key`. -/
theorem Agrees.get
    (agrees : Agrees program cache registers)
    (usable : Usable key) :
    Agrees program (cache.get key).2
      (registers.checkKey (program.dstIndexHash key) key).2 := by
  have hit := (agrees.slot key).hit_iff usable
  unfold P4Cache.get Registers.checkKey
  by_cases found : (cache.slot key).1 = key ∧ (cache.slot key).2 ≠ 0
  · rw [if_pos found, if_pos (hit.mpr found)]
    exact agrees.setBit true
  · rw [if_neg found, if_neg fun same => found (hit.mp same)]
    exact agrees.setBit false

/-- `Put` and the two writes of an inactive slot. -/
theorem Agrees.put
    (agrees : Agrees program cache registers)
    (usable : Usable key)
    (nonzero : value ≠ 0)
    (inactive : cache.getBit key = false) :
    let idx := program.dstIndexHash key
    let written := registers.setKeyIfNotActive idx key
    written.1 ≠ 0 ∧
      Agrees program (cache.put key value).2
        (written.2.setVal idx value).2 := by
  have slotAgrees := agrees.slot key
  have clear :
      (registers.keys (program.dstIndexHash key)).accessBit = 0 := by
    rw [slotAgrees.bit, inactive]
    rfl
  dsimp only
  unfold Registers.setKeyIfNotActive
  rw [if_pos clear]
  constructor
  · rcases slotAgrees.entry with ⟨_, vacant⟩ | ⟨sameKey, _, nonzeroKey, _⟩
    · simp [vacant]
    · simpa [sameKey] using nonzeroKey
  · refine ⟨agrees.size, agrees.index, ?_⟩
    intro (idx : Fin cache.cacheSize) i same
    by_cases here : idx = cache.getIndex key
    · have cell := (agrees.index_eq_iff same).mpr here
      subst here
      subst cell
      refine ⟨?_, Or.inr ?_⟩
      · simp [P4Cache.put, P4Cache.write, Registers.writeKey,
          Registers.setVal, clear]
      · simp [P4Cache.put, P4Cache.write, Registers.writeKey,
          Registers.setVal, usable.1, usable.2, nonzero]
    · have elsewhere : i ≠ program.dstIndexHash key :=
        fun cell => here ((agrees.index_eq_iff same).mp cell)
      simpa [P4Cache.put, P4Cache.write, Registers.writeKey,
        Registers.setVal, here, elsewhere] using agrees.slots idx i same

/-- An active slot is left alone by `set_key_if_not_active`. -/
theorem Agrees.refused
    (agrees : Agrees program cache registers)
    (active : cache.getBit key = true) :
    registers.setKeyIfNotActive (program.dstIndexHash key) key =
      (0, registers) := by
  have set :
      (registers.keys (program.dstIndexHash key)).accessBit = 1 := by
    rw [(agrees.slot key).bit, active]
    rfl
  unfold Registers.setKeyIfNotActive
  rw [if_neg]
  simp [set]

/-! ## One packet in the simulator -/

theorem Twins.atSpine
    (twins : Twins config program) :
    config.switchType = .spine ∨ config.switchType = .gwSpine :=
  twins.types.imp (fun types => types.1) fun types => types.1

theorem Twins.notLeaf
    (twins : Twins config program) :
    config.switchType ≠ .leaf := by
  rcases twins.atSpine with type | type <;> simp [type]

theorem Twins.notCore
    (twins : Twins config program) :
    config.switchType ≠ .core := by
  rcases twins.atSpine with type | type <;> simp [type]

/-- An untagged gateway-bound packet is looked up and teaches nothing. -/
theorem receive_cache_toGateway
    (twins : Twins config program)
    (draw : Bool)
    {state : SwitchState}
    {packet : DataPacket}
    (uninvalidated : packet.invalidationTag.peek = none)
    (untagged : packet.evictionTag.peek = none)
    (toGateway : config.isGateway packet.outer.destination = true) :
    (config.receivePacket draw state packet).state.cache =
      (state.cache.get packet.inner.destination).2 := by
  have idle
      (cache : P4Cache Ipv4Address Ipv4Address) :
      config.learnFromPacket draw cache packet =
        (cache,
          { packet with evictionTag := packet.evictionTag.remove },
          [], false) := by
    rw [SwitchConfig.learnFromPacket_of_ne_leaf _ _ _ twins.notLeaf]
    simp [SwitchConfig.learnElsewhere, untagged, toGateway]
  have redirected
      (cache : P4Cache Ipv4Address Ipv4Address)
      (tags : TagStack Mapping) :
      (config.redirectFromCache cache
          { packet with evictionTag := tags }).1 =
        (cache.get packet.inner.destination).2 := by
    rw [SwitchConfig.redirectFromCache_cache]
    simp [toGateway]
  rw [SwitchConfig.receivePacket_of_untagged draw state twins.mode
      uninvalidated,
    SwitchConfig.receiveUntagged]
  by_cases atSpine : config.switchType = .spine
  · -- A spine has looked the destination up already.
    have promoted :
        config.promoteLookup state.cache packet =
          state.cache.get packet.inner.destination := by
      rw [SwitchConfig.promoteLookup, if_pos ⟨atSpine, toGateway⟩]
    rw [promoted]
    dsimp only
    split
    next => rfl
    next =>
      rw [idle, if_neg Bool.false_ne_true]
      dsimp only
      rw [redirected, P4Cache.get_get]
  · rw [SwitchConfig.promoteLookup_of_ne_spine _ _ atSpine]
    dsimp only
    rw [idle, if_neg Bool.false_ne_true]
    exact redirected _ _

/-- What a resolved packet teaches a spine. -/
theorem learnElsewhere_resolved
    (twins : Twins config program)
    (draw : Bool)
    (cache : P4Cache Ipv4Address Ipv4Address)
    {packet : DataPacket}
    (comparable : Comparable config packet)
    (resolved : config.isGateway packet.outer.destination = false) :
    config.learnElsewhere draw cache packet =
      ((SwitchConfig.learnUnlessActive cache
          { packet with evictionTag := packet.evictionTag.remove }
          packet.evictionTag.peek.isSome (learnt packet)).1,
        (SwitchConfig.learnUnlessActive cache
          { packet with evictionTag := packet.evictionTag.remove }
          packet.evictionTag.peek.isSome (learnt packet)).2,
        [], false) := by
  have atSpine :
      (config.switchType = .spine ∨ config.switchType = .gwSpine) ∧
        config.accessBit = true :=
    ⟨twins.atSpine, twins.accessBit⟩
  have notObsolete :
      ¬ (packet.evictionTag.peek.isSome = true ∧
        (learnt packet).1 = 0 ∧ (learnt packet).2 = 0) :=
    fun obsolete => comparable.learntKey.1 obsolete.2.1
  have offered :
      packet.evictionTag.peek.isSome = true ∨
        ¬ config.isGateway packet.outer.destination = true :=
    Or.inr (by simp [resolved])
  unfold learnt at notObsolete ⊢
  unfold SwitchConfig.learnElsewhere
  dsimp only
  rw [if_neg notObsolete, if_pos offered, if_neg twins.notCore,
    if_pos atSpine]

/-- Any other packet is learned from, unless its slot is active. -/
theorem receive_cache_resolved
    (twins : Twins config program)
    (draw : Bool)
    {state : SwitchState}
    {packet : DataPacket}
    (comparable : Comparable config packet)
    (resolved : config.isGateway packet.outer.destination = false) :
    (config.receivePacket draw state packet).state.cache =
      if state.cache.getBit (learnt packet).1 = true ∧
          state.cache.find (learnt packet).1 = false then
        state.cache
      else
        (state.cache.put (learnt packet).1 (learnt packet).2).2 := by
  obtain ⟨tags, samePacket⟩ :=
    config.learnElsewhere_packet draw state.cache
      comparable.uninvalidated
  have learned := learnElsewhere_resolved twins draw state.cache comparable
    resolved
  rw [SwitchConfig.receivePacket_of_untagged draw state twins.mode
      comparable.uninvalidated,
    SwitchConfig.receiveUntagged,
    SwitchConfig.promoteLookup_of_resolved _ resolved]
  dsimp only
  rw [SwitchConfig.learnFromPacket_of_ne_leaf _ _ _ twins.notLeaf,
    SwitchConfig.redirectFromCache_cache, samePacket, learned,
    if_neg Bool.false_ne_true]
  dsimp only
  rw [resolved, if_neg (by simp)]
  exact SwitchConfig.learnUnlessActive_cache _ _ _ _

/-! ## One packet in the prototype -/

/-- The parsed metadata of an untagged packet. -/
theorem parse_untagged
    {packet : DataPacket}
    {header : Header}
    (represents : Represents packet header)
    (untagged : packet.evictionTag.peek = none) :
    (parse header).key = packet.inner.destination ∧
      (parse header).val = packet.outer.destination := by
  have normal := represents.untagged untagged
  simp [parse, normal, normalType, invalidationType, learningType,
    evictionTagType, represents.innerDestination,
    represents.outerDestination]

/-- The parsed metadata are the mapping that the packet teaches. -/
theorem parse_learnt
    {packet : DataPacket}
    {header : Header}
    (represents : Represents packet header) :
    (parse header).key = (learnt packet).1 ∧
      (parse header).val = (learnt packet).2 := by
  unfold learnt
  cases found : packet.evictionTag.peek with
  | none => exact parse_untagged represents found
  | some learn =>
      obtain ⟨type, sameKey, sameVal⟩ := represents.tagged learn found
      simp [parse, type, sameKey, sameVal]

/-- A represented packet is neither a learning nor an invalidation packet. -/
theorem type_of_represents
    {packet : DataPacket}
    {header : Header}
    (represents : Represents packet header) :
    header.switchv2p.type ≠ learningType ∧
      ¬ (header.switchv2p.type = invalidationType ∨
        header.switchv2p.type = invalidationTagType) := by
  cases found : packet.evictionTag.peek with
  | none =>
      rw [represents.untagged found]
      decide
  | some learn =>
      rw [(represents.tagged learn found).1]
      decide

/-- A spine looks gateway-bound packets up and learns from the others. -/
theorem Twins.branch_eq
    (twins : Twins config program)
    {packet : DataPacket}
    {header : Header}
    (represents : Represents packet header) :
    branch program header =
      if config.isGateway packet.outer.destination then
        .toGateway
      else
        .learn := by
  obtain ⟨notLearning, notInvalidation⟩ := type_of_represents represents
  have bound :
      program.matchGw header.ipv4Outter.dstAddr =
        config.isGateway packet.outer.destination := by
    rw [represents.outerDestination, twins.gateways]
  have notTor : program.switchType ≠ .tor := by
    rcases twins.types with ⟨_, type⟩ | ⟨_, type⟩ <;> simp [type]
  have atSpine :
      (program.switchType = .core ∧
          header.switchv2p.type = evictionTagType) ∨
        program.switchType = .spine ∨ program.switchType = .gwSpine :=
    Or.inr (twins.types.imp (fun types => types.2) fun types => types.2)
  rw [branch, if_neg notLearning, if_neg notInvalidation, bound,
    if_neg notTor, if_pos atSpine]

/-- `Cache.apply` at a spine. -/
theorem ingress_registers
    (twins : Twins config program)
    {packet : DataPacket}
    {arrival : Ingress}
    (represents : Represents packet arrival.header) :
    let metadata := parse arrival.header
    let idx := program.dstIndexHash metadata.key
    (Prototype.ingress program registers arrival).registers =
      if config.isGateway packet.outer.destination then
        (registers.checkKey idx metadata.key).2
      else if (registers.setKeyIfNotActive idx metadata.key).1 ≠ 0 then
        ((registers.setKeyIfNotActive idx metadata.key).2.setVal idx
          metadata.val).2
      else
        (registers.setKeyIfNotActive idx metadata.key).2 := by
  have notTor : program.switchType ≠ .tor := by
    rcases twins.types with ⟨_, type⟩ | ⟨_, type⟩ <;> simp [type]
  have elsewhere : ¬ LearnsSource program arrival.header :=
    fun learns => notTor learns.2.1
  have delivered : ¬ Misdelivered program arrival.header :=
    fun misdelivered => notTor misdelivered.1
  obtain ⟨sameKey, sameVal⟩ := settled_of_not_learnsSource elsewhere
  have sameIndex :
      index program arrival.header =
        program.dstIndexHash (parse arrival.header).key := by
    rw [index, if_neg elsewhere]
  have branch := twins.branch_eq represents
  dsimp only
  rw [← sameIndex, ← sameKey, ← sameVal]
  cases toGateway : config.isGateway packet.outer.destination with
  | true =>
      rw [toGateway, if_pos rfl] at branch
      rw [registers_toGateway branch delivered, if_pos rfl]
  | false =>
      rw [toGateway, if_neg Bool.false_ne_true] at branch
      rw [ingress_eq, branch, if_neg Bool.false_ne_true]
      dsimp only
      unfold applyLearning
      dsimp only
      split <;> rfl

/-! ## Runs of both -/

/-- One packet at both spines, with what each draws at random. -/
structure Joint where
  packet : DataPacket
  draw : Bool
  arrival : Ingress
  deriving Repr, DecidableEq

/-- Both spines side by side, handed the same packets. -/
def bothSystem
    (config : SwitchConfig)
    (program : Program) :
    TransitionSystem (SwitchState × Registers) Joint where
  step := fun state joint =>
    some
      ((config.receivePacket joint.draw state.1 joint.packet).state,
        (Prototype.ingress program state.2 joint.arrival).registers)

/-- The packets of the comparison. -/
structure Admissible
    (config : SwitchConfig)
    (_ : SwitchState × Registers)
    (joint : Joint) : Prop where
  represents : Represents joint.packet joint.arrival.header
  comparable : Comparable config joint.packet

/-- Those that do not teach an active entry again. -/
structure Tame
    (config : SwitchConfig)
    (state : SwitchState × Registers)
    (joint : Joint) : Prop extends
    Admissible config state joint where
  fresh : ¬ Relearns config state.1.cache joint.packet

/-- The step lemma: one packet keeps the slots equal. -/
theorem agrees_step
    (twins : Twins config program)
    {state : SwitchState × Registers}
    {joint : Joint}
    (agrees : Agrees program state.1.cache state.2)
    (tame : Tame config state joint) :
    Agrees program
      (config.receivePacket joint.draw state.1
        joint.packet).state.cache
      (Prototype.ingress program state.2 joint.arrival).registers := by
  obtain ⟨⟨represents, comparable⟩, fresh⟩ := tame
  rw [ingress_registers twins represents]
  cases toGw : config.isGateway joint.packet.outer.destination with
  | true =>
      have untagged := comparable.untaggedToGateway toGw
      rw [receive_cache_toGateway twins joint.draw
        comparable.uninvalidated untagged toGw,
        (parse_untagged represents untagged).1]
      exact agrees.get comparable.destination
  | false =>
      rw [receive_cache_resolved twins joint.draw comparable toGw,
        (parse_learnt represents).1, (parse_learnt represents).2]
      simp only [Bool.false_eq_true, ↓reduceIte]
      cases active : state.1.cache.getBit (learnt joint.packet).1 with
      | true =>
          have absent :
              state.1.cache.find (learnt joint.packet).1 = false := by
            rw [Bool.eq_false_iff]
            exact fun present => fresh ⟨toGw, present, active⟩
          rw [agrees.refused active]
          simpa [absent] using agrees
      | false =>
          obtain ⟨written, agreesAfter⟩ :=
            agrees.put comparable.learntKey
              (comparable.learntValue toGw) active
          rw [if_pos written]
          simpa using agreesAfter

/--
From related states, both spines agree on every slot after every sequence of
packets in which no packet teaches an entry that is active in its slot.
-/
theorem agrees_of_reachable
    (twins : Twins config program)
    {initial state : SwitchState × Registers}
    (related : Agrees program initial.1.cache initial.2)
    (reachable :
      (bothSystem config program).Reachable (Tame config) initial
        state) :
    Agrees program state.1.cache state.2 := by
  refine
    reachable.invariant
      (fun current => Agrees program current.1.cache current.2)
      related ?_
  intro current joint next agrees tame stepped
  simp only [bothSystem, Option.some.injEq] at stepped
  subst stepped
  exact agrees_step twins agrees tame

/-- The state after `Setup` is related to the initial registers. -/
theorem agrees_initial
    {hash : Ipv4Address → Nat}
    (index :
      ∀ key, (program.dstIndexHash key).toNat = hash key % 2 ^ 13) :
    Agrees program
      (P4Cache.setup (2 ^ 13) (Nat.two_pow_pos 13) hash)
      Registers.initial := by
  refine ⟨rfl, index, ?_⟩
  intro idx i same
  exact ⟨rfl, Or.inl ⟨rfl, rfl⟩⟩

/-! ## A packet that teaches an active entry again -/

/-- A header for a simulated packet. -/
def headerOf (packet : DataPacket) : Header where
  ipv4Outter :=
    { srcAddr := packet.outer.source
      dstAddr := packet.outer.destination }
  ipv4Inner :=
    { srcAddr := packet.inner.source
      dstAddr := packet.inner.destination }
  switchv2p :=
    match packet.evictionTag.peek with
    | some learn =>
        { type := evictionTagType
          switchId := 0
          key := learn.1
          val := learn.2 }
    | none =>
        { type := normalType
          switchId := 0
          key := 0
          val := 0 }

theorem represents_headerOf (packet : DataPacket) :
    Represents packet (headerOf packet) where
  innerDestination := rfl
  outerDestination := rfl
  untagged := fun untagged => by simp [headerOf, untagged]
  tagged := fun learn found => by simp [headerOf, found]

section OnePod

open TraceSimulation

/-- The spine of the pod, as a program. -/
def onePodProgram : Program where
  switchType := .gwSpine
  switchId := 0
  matchGw := fun address => address = onePod.gateway
  checkMisdelivered := fun _ => false
  learningMirrorSession := fun _ => 2
  invalidationMirrorSession := fun _ => 1
  retransmitTimeout := 0
  dstIndexHash := fun key => BitVec.ofNat 13 key.toNat
  srcIndexHash := fun key => BitVec.ofNat 13 key.toNat

theorem twins_onePod :
    Twins (onePod.spineConfig .switchV2P) onePodProgram where
  mode := rfl
  accessBit := rfl
  types := Or.inr ⟨rfl, rfl⟩
  gateways := by
    intro address
    have gateways :
        (onePod.spineConfig .switchV2P).gwAddresses =
          [onePod.gateway] := by
      decide
    simp [SwitchConfig.isGateway, gateways, onePodProgram]

/-- Both spines after start-up. -/
def onePodStart : SwitchState × Registers :=
  (SwitchConfig.setup (2 ^ 13) (Nat.two_pow_pos 13)
      (fun key => key.toNat) 80 fun _ => 0,
    Registers.initial)

/-- A packet for container 2. -/
def onePodJoint (address : Ipv4Address) : Joint where
  packet := onePod.packetTo .switchV2P 2 address
  draw := false
  arrival :=
    { header := headerOf (onePod.packetTo .switchV2P 2 address)
      rand := 0
      globalTstamp := 0 }

theorem agrees_onePodStart :
    Agrees onePodProgram onePodStart.1.cache onePodStart.2 :=
  agrees_initial fun _ => BitVec.toNat_ofNat _ _

theorem admissible_onePodJoint
    (state : SwitchState × Registers)
    (address : Ipv4Address)
    (nonzero : address ≠ 0) :
    Admissible (onePod.spineConfig .switchV2P) state
      (onePodJoint address) where
  represents := represents_headerOf _
  comparable :=
    { uninvalidated := rfl
      untaggedToGateway := fun _ => rfl
      destination :=
        ⟨(by decide : (2 : Ipv4Address) ≠ 0),
          (by decide : (2 : Ipv4Address) ≠ 1)⟩
      learntKey :=
        ⟨(by decide : (2 : Ipv4Address) ≠ 0),
          (by decide : (2 : Ipv4Address) ≠ 1)⟩
      learntValue := fun _ => nonzero }

/-- Learning and a hit keep the spines equal. -/
theorem agrees_of_reachable_onePod :
    ∃ state,
      (bothSystem (onePod.spineConfig .switchV2P)
          onePodProgram).run? onePodStart
          [onePodJoint onePod.oldHost, onePodJoint onePod.gateway] =
        some state ∧
        state.1.cache.Active 2 onePod.oldHost ∧
        Agrees onePodProgram state.1.cache state.2 := by
  have learns :
      Tame (onePod.spineConfig .switchV2P) onePodStart
        (onePodJoint onePod.oldHost) := by
    refine ⟨admissible_onePodJoint _ _ (by decide), ?_⟩
    rintro ⟨_, present, _⟩
    exact absurd present (by decide)
  have hits (state : SwitchState × Registers) :
      Tame (onePod.spineConfig .switchV2P) state
        (onePodJoint onePod.gateway) := by
    refine ⟨admissible_onePodJoint _ _ (by decide), ?_⟩
    rintro ⟨resolved, _, _⟩
    exact absurd resolved (by decide)
  have start :
      (bothSystem (onePod.spineConfig .switchV2P)
        onePodProgram).Reachable
          (Tame (onePod.spineConfig .switchV2P)) onePodStart
          onePodStart :=
    .start
  refine
    ⟨_, rfl, ⟨⟨by decide +kernel, by decide⟩, by decide +kernel⟩, ?_⟩
  exact
    agrees_of_reachable twins_onePod agrees_onePodStart
      ((start.step learns rfl).step (hits _) rfl)

/--
After learning, a hit and a packet that teaches the new address of the same
container, the simulator stores the new address and the prototype the old one.
-/
theorem relearning_onePod :
    ∃ state,
      (bothSystem (onePod.spineConfig .switchV2P)
          onePodProgram).Reachable
          (Admissible (onePod.spineConfig .switchV2P)) onePodStart
          state ∧
        Agrees onePodProgram onePodStart.1.cache onePodStart.2 ∧
        ¬ Agrees onePodProgram state.1.cache state.2 := by
  have start :
      (bothSystem (onePod.spineConfig .switchV2P)
        onePodProgram).Reachable
          (Admissible (onePod.spineConfig .switchV2P)) onePodStart
          onePodStart :=
    .start
  have learnt :=
    start.step
      (admissible_onePodJoint onePodStart onePod.oldHost (by decide)) rfl
  have hit :=
    learnt.step (admissible_onePodJoint _ onePod.gateway (by decide)) rfl
  have relearnt :=
    hit.step (admissible_onePodJoint _ onePod.newHost (by decide)) rfl
  refine ⟨_, relearnt, agrees_onePodStart, ?_⟩
  intro agrees
  have sameBit := (agrees.slot 2).bit
  exact absurd sameBit (by decide +kernel)

end OnePod

end SwitchV2P.PrototypeSpine
