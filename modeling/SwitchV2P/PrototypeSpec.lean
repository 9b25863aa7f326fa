import SwitchV2P.Prototype

namespace SwitchV2P.Prototype

/-!
# What one packet does to the registers

`Cache.apply` first settles a key, a value and an index and then takes one of
six branches.  The functions here name what it settles and the branch it takes;
the lemmas say what each branch leaves in the registers.
-/

/-- The condition under which `Cache.apply` learns the source of a packet. -/
def LearnsSource (program : Program) (header : Header) : Prop :=
  program.matchGw header.ipv4Outter.dstAddr = false ∧
    program.switchType = .tor ∧
      (header.switchv2p.type = normalType ∨
        header.switchv2p.type = evictionTagType)

instance (program : Program) (header : Header) :
    Decidable (LearnsSource program header) :=
  inferInstanceAs (Decidable (_ ∧ _ ∧ _))

/-- The metadata with which `Cache.apply` enters its branches. -/
def settled (program : Program) (header : Header) : Metadata :=
  let metadata := configure program header (parse header)
  { (if LearnsSource program header then
      { metadata with
        key := header.ipv4Inner.srcAddr
        val := header.ipv4Outter.srcAddr }
    else
      metadata) with
    misdelivered := program.checkMisdelivered header.ipv4Outter.srcAddr }

/-- The slot that `Cache.apply` works on. -/
def index (program : Program) (header : Header) : Index :=
  if LearnsSource program header then
    program.srcIndexHash header.ipv4Inner.srcAddr
  else
    program.dstIndexHash (parse header).key

/-- The key and the value that a packet brings along. -/
def taught
    (program : Program)
    (header : Header) :
    Ipv4Address × Ipv4Address :=
  ((settled program header).key, (settled program header).val)

/-- The branches of `Cache.apply`. -/
inductive Branch where
  | write
  | clear
  | toGateway
  | learn
  | gwTor
  | pass
  deriving Repr, DecidableEq

/-- The branch that a packet takes. -/
def branch (program : Program) (header : Header) : Branch :=
  if header.switchv2p.type = learningType then
    .write
  else if header.switchv2p.type = invalidationType ∨
      header.switchv2p.type = invalidationTagType then
    .clear
  else if program.matchGw header.ipv4Outter.dstAddr then
    .toGateway
  else if program.switchType = .tor then
    .write
  else if (program.switchType = .core ∧
        header.switchv2p.type = evictionTagType) ∨
      program.switchType = .spine ∨ program.switchType = .gwSpine then
    .learn
  else if program.switchType = .gwTor then
    .gwTor
  else
    .pass

section Settled

variable {program : Program} {header : Header}

theorem settled_switchType :
    (settled program header).switchType = program.switchType := by
  unfold settled
  dsimp only
  split <;> rfl

theorem settled_toGw :
    (settled program header).toGw =
      program.matchGw header.ipv4Outter.dstAddr := by
  unfold settled
  dsimp only
  split <;> rfl

theorem settled_of_not_learnsSource
    (elsewhere : ¬ LearnsSource program header) :
    (settled program header).key = (parse header).key ∧
      (settled program header).val = (parse header).val := by
  unfold settled
  dsimp only
  rw [if_neg elsewhere]
  exact ⟨rfl, rfl⟩

/-- What a packet teaches is one of the three pairs that arrive in it. -/
theorem taught_arrives (program : Program) (header : Header) :
    taught program header =
        (header.ipv4Inner.srcAddr, header.ipv4Outter.srcAddr) ∨
      taught program header =
        (header.ipv4Inner.dstAddr, header.ipv4Outter.dstAddr) ∨
      taught program header =
        (header.switchv2p.key, header.switchv2p.val) := by
  unfold taught settled configure parse
  dsimp only
  by_cases source : LearnsSource program header
  · simp [source]
  · by_cases tagged :
        header.switchv2p.type = invalidationType ∨
          header.switchv2p.type = learningType ∨
          header.switchv2p.type = evictionTagType
    · simp [source, tagged]
    · simp [source, tagged]

/-- With one hash, the slot is that of the key. -/
theorem index_eq
    (sameHash : program.srcIndexHash = program.dstIndexHash) :
    index program header =
      program.dstIndexHash (taught program header).1 := by
  unfold index taught settled
  dsimp only
  split
  next => rw [sameHash]
  next => rfl

end Settled

/-- `Cache.apply` does what its branch does. -/
theorem ingress_eq
    (program : Program)
    (registers : Registers)
    (packet : Ingress) :
    ingress program registers packet =
      match branch program packet.header with
      | .write =>
          applyWrite registers packet.header
            (settled program packet.header)
            (index program packet.header)
      | .clear =>
          { registers :=
              registers.clearKey (index program packet.header)
                (settled program packet.header).key
            header := packet.header
            metadata := settled program packet.header
            mirrorType := .none }
      | .toGateway =>
          applyToGw program registers packet
            (settled program packet.header)
            (index program packet.header)
      | .learn =>
          applyLearning registers packet.header
            (settled program packet.header)
            (index program packet.header)
      | .gwTor =>
          applyGwTor program registers packet
            (settled program packet.header)
            (index program packet.header)
      | .pass =>
          { registers := registers
            header := packet.header
            metadata := settled program packet.header
            mirrorType := .none } := by
  change
    (if packet.header.switchv2p.type = learningType then _
    else if packet.header.switchv2p.type = invalidationType ∨
        packet.header.switchv2p.type = invalidationTagType then _
    else if (settled program packet.header).toGw then _
    else if (settled program packet.header).switchType = .tor then _
    else if ((settled program packet.header).switchType = .core ∧
          packet.header.switchv2p.type = evictionTagType) ∨
        (settled program packet.header).switchType = .spine ∨
        (settled program packet.header).switchType = .gwSpine then _
    else if (settled program packet.header).switchType = .gwTor then _
    else _) = _
  dsimp only
  rw [settled_toGw, settled_switchType, branch]
  by_cases learning : packet.header.switchv2p.type = learningType
  · rw [if_pos learning, if_pos learning]
    rfl
  rw [if_neg learning, if_neg learning]
  by_cases invalidation :
      packet.header.switchv2p.type = invalidationType ∨
        packet.header.switchv2p.type = invalidationTagType
  · rw [if_pos invalidation, if_pos invalidation]
    rfl
  rw [if_neg invalidation, if_neg invalidation]
  by_cases bound : program.matchGw packet.header.ipv4Outter.dstAddr = true
  · rw [if_pos bound, if_pos bound]
    rfl
  rw [if_neg bound, if_neg bound]
  by_cases atTor : program.switchType = .tor
  · rw [if_pos atTor, if_pos atTor]
    rfl
  rw [if_neg atTor, if_neg atTor]
  by_cases atSpine :
      (program.switchType = .core ∧
          packet.header.switchv2p.type = evictionTagType) ∨
        program.switchType = .spine ∨ program.switchType = .gwSpine
  · rw [if_pos atSpine, if_pos atSpine]
    rfl
  rw [if_neg atSpine, if_neg atSpine]
  by_cases atGwTor : program.switchType = .gwTor
  · rw [if_pos atGwTor, if_pos atGwTor]
    rfl
  rw [if_neg atGwTor, if_neg atGwTor]
  rfl

/-! ## Single register actions -/

namespace Registers

variable (registers : Registers) (idx : Index) (key val : Ipv4Address)

@[simp] theorem vals_writeKey (pair : KeyPair) :
    (registers.writeKey idx pair).vals = registers.vals :=
  rfl

theorem keys_writeKey (pair : KeyPair) (i : Index) :
    (registers.writeKey idx pair).keys i =
      if i = idx then pair else registers.keys i := by
  simp [writeKey, Function.update_apply]

@[simp] theorem vals_checkKey :
    (registers.checkKey idx key).2.vals = registers.vals := by
  unfold checkKey
  split <;> rfl

/-- A lookup changes no key. -/
@[simp] theorem key_checkKey (i : Index) :
    ((registers.checkKey idx key).2.keys i).key =
      (registers.keys i).key := by
  unfold checkKey
  split <;> dsimp only <;> rw [keys_writeKey] <;> split <;> simp_all

/-- `check_key` succeeds on a slot with the key. -/
theorem checkKey_eq_true_iff :
    (registers.checkKey idx key).1 = true ↔
      (registers.keys idx).key = key := by
  unfold checkKey
  split <;> simp_all

@[simp] theorem keys_checkTimeout
    (switchId : UInt8)
    (globalTstamp : BitVec 48)
    (retransmitTimeout : Timestamp) :
    (registers.checkTimeout switchId globalTstamp
        retransmitTimeout).2.keys =
      registers.keys := by
  unfold checkTimeout
  dsimp only
  split <;> rfl

@[simp] theorem vals_checkTimeout
    (switchId : UInt8)
    (globalTstamp : BitVec 48)
    (retransmitTimeout : Timestamp) :
    (registers.checkTimeout switchId globalTstamp
        retransmitTimeout).2.vals =
      registers.vals := by
  unfold checkTimeout
  dsimp only
  split <;> rfl

/-- A successful `check_timeout` sets the next deadline. -/
theorem bf_checkTimeout
    (switchId : UInt8)
    (globalTstamp : BitVec 48)
    (retransmitTimeout : Timestamp) :
    (registers.checkTimeout switchId globalTstamp
        retransmitTimeout).2.bf =
      if (registers.checkTimeout switchId globalTstamp
          retransmitTimeout).1 then
        Function.update registers.bf switchId
          (globalTstamp.extractLsb' 16 32 + retransmitTimeout)
      else
        registers.bf := by
  unfold checkTimeout
  dsimp only
  split
  next => exact (if_pos rfl).symm
  next => exact (if_neg Bool.false_ne_true).symm

theorem key_clearKey (i : Index) :
    ((registers.clearKey idx key).keys i).key =
      if i = idx ∧ (registers.keys idx).key = key then
        1
      else
        (registers.keys i).key := by
  unfold clearKey
  by_cases hit : (registers.keys idx).key = key
  · rw [if_pos hit, keys_writeKey]
    by_cases same : i = idx <;> simp [hit, same]
  · simp [hit]

@[simp] theorem vals_clearKey :
    (registers.clearKey idx key).vals = registers.vals := by
  unfold clearKey
  split <;> rfl

/-- `set_key` and then `set_val`. -/
theorem key_setKey_setVal (i : Index) :
    ((((registers.setKey idx key).2.setVal idx val).2).keys i).key =
      if i = idx then key else (registers.keys i).key := by
  change ((registers.writeKey idx { key := key, accessBit := 0 }).keys
    i).key = _
  rw [keys_writeKey]
  split <;> rfl

@[simp] theorem vals_setKey_setVal :
    (((registers.setKey idx key).2.setVal idx val).2).vals =
      Function.update registers.vals idx val :=
  rfl

end Registers

/-! ## One packet -/

/-- The packet stores its key, and its value with it. -/
def Stores
    (program : Program)
    (registers : Registers)
    (header : Header) :
    Prop :=
  branch program header = .write ∨ branch program header = .gwTor ∨
    (branch program header = .learn ∧
      (registers.keys (index program header)).accessBit = 0)

instance
    (program : Program)
    (registers : Registers)
    (header : Header) :
    Decidable (Stores program registers header) :=
  inferInstanceAs (Decidable (_ ∨ _ ∨ _ ∧ _))

theorem stores_iff
    {program : Program}
    {registers : Registers}
    {header : Header} :
    Stores program registers header ↔
      branch program header = .write ∨ branch program header = .gwTor ∨
        (branch program header = .learn ∧
          (registers.keys (index program header)).accessBit = 0) :=
  Iff.rfl

section Packet

variable
  {program : Program}
  {registers : Registers}
  {packet : Ingress}

/-- The gateway-bound branch leaves keys and values alone. -/
theorem applyToGw_registers
    (metadata : Metadata)
    (idx : Index) :
    (applyToGw program registers packet metadata idx).registers.vals =
        registers.vals ∧
      ∀ i, ((applyToGw program registers packet metadata
          idx).registers.keys i).key = (registers.keys i).key := by
  unfold applyToGw
  dsimp only
  split
  next => simp
  next =>
    split
    next => split <;> simp
    next => simp

/-- A slot that is not active is taken over. -/
theorem applyLearning_of_inactive
    {header : Header}
    {metadata : Metadata}
    {idx : Index}
    (inactive : (registers.keys idx).accessBit = 0)
    (nonzero : (registers.keys idx).key ≠ 0) :
    applyLearning registers header metadata idx =
      { registers :=
          ((registers.writeKey idx
              { registers.keys idx with key := metadata.key }).setVal idx
            metadata.val).2
        header :=
          tagDisplaced header (registers.keys idx).key
            (registers.vals idx)
        metadata := metadata
        mirrorType := .none } := by
  unfold applyLearning
  simp [Registers.setKeyIfNotActive, inactive, nonzero, Registers.setVal]

/-- An active slot is left alone. -/
theorem applyLearning_of_active
    {header : Header}
    {metadata : Metadata}
    {idx : Index}
    (active : (registers.keys idx).accessBit ≠ 0) :
    applyLearning registers header metadata idx =
      { registers := registers
        header := header
        metadata := metadata
        mirrorType := .none } := by
  unfold applyLearning
  simp [Registers.setKeyIfNotActive, active]

/-- A packet that stores anything writes its value, and no other does. -/
theorem vals_ingress
    (nonzero :
      (registers.keys (index program packet.header)).key ≠ 0) :
    (ingress program registers packet).registers.vals =
      if Stores program registers packet.header then
        Function.update registers.vals (index program packet.header)
          (taught program packet.header).2
      else
        registers.vals := by
  rw [ingress_eq]
  cases taken : branch program packet.header with
  | write => simp [stores_iff, taken, applyWrite, taught]
  | clear => simp [stores_iff, taken]
  | toGateway => simp [stores_iff, taken, applyToGw_registers]
  | gwTor => simp [stores_iff, taken, applyGwTor, taught]
  | pass => simp [stores_iff, taken]
  | learn =>
      by_cases inactive :
          (registers.keys (index program packet.header)).accessBit = 0
      · simp only [applyLearning_of_inactive inactive nonzero]
        simp [stores_iff, taken, inactive, Registers.setVal, taught]
      · simp only [applyLearning_of_active inactive]
        simp [stores_iff, taken, inactive]

/-- The keys change together with the values, or are cleared. -/
theorem key_ingress
    (nonzero :
      (registers.keys (index program packet.header)).key ≠ 0)
    (i : Index) :
    ((ingress program registers packet).registers.keys i).key =
      if Stores program registers packet.header ∧
          i = index program packet.header then
        (taught program packet.header).1
      else if branch program packet.header = .clear ∧
          i = index program packet.header ∧
          (registers.keys i).key = (taught program packet.header).1 then
        1
      else
        (registers.keys i).key := by
  rw [ingress_eq]
  cases taken : branch program packet.header with
  | write =>
      simp [stores_iff, taken, applyWrite, taught,
        Registers.key_setKey_setVal]
  | toGateway => simp [stores_iff, taken, applyToGw_registers]
  | gwTor =>
      simp [stores_iff, taken, applyGwTor, taught,
        Registers.key_setKey_setVal]
  | pass => simp [stores_iff, taken]
  | clear =>
      by_cases same : i = index program packet.header
      · simp [stores_iff, taken, Registers.key_clearKey, same, taught]
      · simp [stores_iff, taken, Registers.key_clearKey, same]
  | learn =>
      by_cases inactive :
          (registers.keys (index program packet.header)).accessBit = 0
      · simp only [applyLearning_of_inactive inactive nonzero]
        change ((registers.writeKey (index program packet.header)
          { registers.keys (index program packet.header) with
            key := (taught program packet.header).1 }).keys i).key = _
        rw [Registers.keys_writeKey]
        by_cases same : i = index program packet.header
        · simp [stores_iff, taken, same, inactive]
        · simp [same]
      · simp only [applyLearning_of_active inactive]
        simp [stores_iff, taken, inactive]

end Packet

/-! ## Gateway-bound packets -/

section ToGateway

variable
  {program : Program}
  {registers : Registers}
  {packet : Ingress}
  {header : Header}

/-- A leaf handles a packet that comes back from one of its own hosts. -/
def Misdelivered (program : Program) (header : Header) : Prop :=
  program.switchType = .tor ∧
    program.checkMisdelivered header.ipv4Outter.srcAddr = true

instance (program : Program) (header : Header) :
    Decidable (Misdelivered program header) :=
  inferInstanceAs (Decidable (_ ∧ _))

/-- The branches of gateway-bound packets. -/
theorem branch_of_bound
    (bound : program.matchGw header.ipv4Outter.dstAddr = true) :
    branch program header =
      if header.switchv2p.type = learningType then
        .write
      else if header.switchv2p.type = invalidationType ∨
          header.switchv2p.type = invalidationTagType then
        .clear
      else
        .toGateway := by
  rw [branch, if_pos bound]

/-- A gateway-bound packet is looked up unless it is a cache message. -/
theorem branch_eq_toGateway_iff :
    branch program header = .toGateway ↔
      header.switchv2p.type ≠ learningType ∧
        header.switchv2p.type ≠ invalidationType ∧
        header.switchv2p.type ≠ invalidationTagType ∧
        program.matchGw header.ipv4Outter.dstAddr = true := by
  unfold branch
  split
  next learning => simp [learning]
  next notLearning =>
    split
    next clears => rcases clears with same | same <;> simp [same]
    next keeps =>
      simp only [not_or] at keeps
      split
      next bound => simp [notLearning, keeps, bound]
      next elsewhere =>
        split
        next => simp [elsewhere]
        next =>
          split
          next => simp [elsewhere]
          next => split <;> simp [elsewhere]

/-- A gateway-bound packet does not teach a leaf its source. -/
theorem not_learnsSource
    (toGateway : branch program header = .toGateway) :
    ¬ LearnsSource program header := by
  intro learns
  have bound := (branch_eq_toGateway_iff.mp toGateway).2.2.2
  exact absurd (learns.1.symm.trans bound) (by decide)

/-- The lookup uses the parser's key, and the slot of that key. -/
theorem settled_toGateway
    (toGateway : branch program header = .toGateway) :
    (settled program header).key = (parse header).key ∧
      index program header = program.dstIndexHash (parse header).key := by
  have elsewhere := not_learnsSource toGateway
  refine ⟨(settled_of_not_learnsSource elsewhere).1, ?_⟩
  rw [index, if_neg elsewhere]

theorem settled_misdelivered :
    (settled program header).misdelivered =
      program.checkMisdelivered header.ipv4Outter.srcAddr :=
  rfl

/-- The test of the gateway-bound branch. -/
theorem settled_misdelivered_iff :
    ((settled program header).switchType = .tor ∧
        (settled program header).misdelivered = true) ↔
      Misdelivered program header := by
  rw [settled_switchType, settled_misdelivered]
  rfl

/-- The parser's key: that of an eviction tag, else the destination. -/
theorem parse_key_toGateway
    (toGateway : branch program header = .toGateway) :
    (parse header).key =
      if header.switchv2p.type = evictionTagType then
        header.switchv2p.key
      else
        header.ipv4Inner.dstAddr := by
  obtain ⟨notLearning, notInvalidation, _, _⟩ :=
    branch_eq_toGateway_iff.mp toGateway
  simp [parse, notLearning, notInvalidation]

/-- What the pipeline does with a misdelivered packet. -/
theorem ingress_misdelivered
    (toGateway : branch program packet.header = .toGateway)
    (misdelivered : Misdelivered program packet.header) :
    let generate :=
      registers.checkTimeout packet.header.switchv2p.switchId
        packet.globalTstamp program.retransmitTimeout
    (ingress program registers packet).registers = generate.2 ∧
      (ingress program registers packet).header =
        addInvalidationTag packet.header ∧
      (ingress program registers packet).mirrorType =
        if generate.1 then .invalidation else .none := by
  have skips := settled_misdelivered_iff.mpr misdelivered
  intro generate
  rw [ingress_eq, toGateway]
  dsimp only
  unfold applyToGw
  rw [if_pos skips]
  exact ⟨rfl, rfl, rfl⟩

/-- A lookup sets or clears the access bit, and that is all. -/
theorem registers_toGateway
    (toGateway : branch program packet.header = .toGateway)
    (delivered : ¬ Misdelivered program packet.header) :
    (ingress program registers packet).registers =
      (registers.checkKey (index program packet.header)
        (settled program packet.header).key).2 := by
  have skips := mt settled_misdelivered_iff.mp delivered
  rw [ingress_eq, toGateway]
  dsimp only
  unfold applyToGw
  rw [if_neg skips]
  dsimp only
  split
  next => split <;> rfl
  next => rfl

/-- What the pipeline does with a packet that is looked up. -/
theorem ingress_toGateway
    (toGateway : branch program packet.header = .toGateway)
    (delivered : ¬ Misdelivered program packet.header) :
    (ingress program registers packet).header =
      if (registers.keys (index program packet.header)).key =
          (settled program packet.header).key then
        if program.switchType = .spine then
          addEvictionTag packet.header
            (registers.vals (index program packet.header))
        else
          addHitTag
            { packet.header with
              ipv4Outter :=
                { packet.header.ipv4Outter with
                  dstAddr :=
                    registers.vals (index program packet.header) } }
            (settled program packet.header)
      else
        packet.header := by
  have skips := mt settled_misdelivered_iff.mp delivered
  rw [ingress_eq, toGateway]
  dsimp only
  unfold applyToGw
  rw [if_neg skips, settled_switchType]
  by_cases found :
      (registers.keys (index program packet.header)).key =
        (settled program packet.header).key
  · have hit :=
      (registers.checkKey_eq_true_iff (index program packet.header)
        (settled program packet.header).key).mpr found
    rw [if_pos hit, if_pos found]
    by_cases atSpine : program.switchType = .spine
    · rw [if_pos atSpine, if_pos atSpine]
      simp [Registers.getVal]
    · rw [if_neg atSpine, if_neg atSpine]
      simp [Registers.getVal]
  · have miss :
        ¬ (registers.checkKey (index program packet.header)
          (settled program packet.header).key).1 = true := by
      rw [registers.checkKey_eq_true_iff]
      exact found
    rw [if_neg miss, if_neg found]

end ToGateway

end SwitchV2P.Prototype
