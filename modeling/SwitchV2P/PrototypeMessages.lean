import SwitchV2P.PrototypePaths

namespace SwitchV2P.PrototypeWire

/-!
# Messages between switches

A gateway leaf that samples a packet, and a leaf that gets a packet back, copy
its headers to the mirror, whose egress turns them into a message.  The message
is a frame that every switch accepts, tells its own length, and reaches the
switches on its way unchanged; a learning message leaves each of them with the
mapping of the packet that was sampled, and an invalidation leaves none of them
with a mapping of the packet's destination.
-/

open Prototype PrototypeRedirect

/-- What a learning message says about a packet. -/
structure IsLearning
    (tables : EgressTables)
    (about message : HeaderT) : Prop where
  type : message.switchv2p.type = learningType
  key : message.switchv2p.key = about.ipv4Inner.dstAddr
  val : message.switchv2p.val = about.ipv4Outter.dstAddr
  dstAddr :
    message.ipv4Outter.dstAddr = tables.srcToTor about.ipv4Outter.srcAddr

/-- What an invalidation says about a packet. -/
structure IsInvalidation
    (tables : EgressTables)
    (about message : HeaderT) : Prop where
  type : message.switchv2p.type = invalidationType
  key : message.switchv2p.key = about.ipv4Inner.dstAddr
  dstAddr :
    message.ipv4Outter.dstAddr =
      tables.switchIdToDst about.switchv2p.switchId

/-- A frame of headers, whose lengths and checksums are right. -/
structure SelfConsistent (frame : List Bool) (message : Parsed) : Prop where
  bare : message.payload = []
  outterLength :
    frame.length = 8 * (14 + message.header.ipv4Outter.totalLen.toNat)
  innerLength :
    message.header.ipv4Outter.totalLen.toNat =
      20 + message.header.ipv4Inner.totalLen.toNat
  outterChecksum : ChecksumHolds message.header.ipv4Outter
  innerChecksum : ChecksumHolds message.header.ipv4Inner

/-- Every session cuts its copies behind the headers. -/
def HeadersOnly (switch : Switch) : Prop :=
  ∀ id session, switch.mirrorCfg id = some session →
    session.maxPktLen = 69

variable
  {program : Program}
  {registers : Registers}
  {packet : Ingress}
  {header after : HeaderT}
  {hop : Hop}
  {path : List Hop}

/-! ## What is mirrored -/

/-- The mirror header names the message, and the destination is untouched. -/
theorem mirror_ingress
    (asked : (ingress program registers packet).mirrorType ≠ .none) :
    ((ingress program registers packet).metadata.mirrorHeaderType =
          learningType ∨
        (ingress program registers packet).metadata.mirrorHeaderType =
          invalidationType) ∧
      (ingress program registers packet).header.ipv4Outter.dstAddr =
        packet.header.ipv4Outter.dstAddr := by
  rw [ingress_eq] at asked ⊢
  cases taken : branch program packet.header with
  | write => exact absurd (by rw [taken]; rfl) asked
  | clear => exact absurd (by rw [taken]) asked
  | pass => exact absurd (by rw [taken]) asked
  | learn =>
      rw [taken] at asked
      dsimp only at asked
      unfold applyLearning at asked
      dsimp only at asked
      split at asked <;> exact absurd rfl asked
  | gwTor =>
      rw [taken] at asked
      simp only [applyGwTor, ne_eq] at asked ⊢
      by_cases sampled : packet.rand ≤ 5
      · rw [if_pos sampled]
        exact ⟨Or.inl rfl, rfl⟩
      · rw [if_neg sampled] at asked
        exact absurd rfl asked
  | toGateway =>
      rw [taken] at asked
      dsimp only at asked ⊢
      unfold applyToGw at asked ⊢
      dsimp only at asked ⊢
      split
      next skips =>
        rw [if_pos skips] at asked
        dsimp only at asked ⊢
        split
        next => exact ⟨Or.inr rfl, rfl⟩
        next inTime =>
          rw [if_neg inTime] at asked
          exact absurd rfl asked
      next looked =>
        rw [if_neg looked] at asked
        split at asked
        next => split at asked <;> exact absurd rfl asked
        next => exact absurd rfl asked

/-! ## What switches do with messages -/

/-- The message types are those that no branch rewrites. -/
def IsMessage (header : HeaderT) : Prop :=
  header.switchv2p.type = learningType ∨
    header.switchv2p.type = invalidationType

theorem branch_of_learning
    {header : Header}
    (learning : header.switchv2p.type = learningType) :
    branch program header = .write := by
  rw [branch, if_pos learning]

theorem branch_of_invalidation
    {header : Header}
    (invalidation : header.switchv2p.type = invalidationType) :
    branch program header = .clear := by
  have notLearning : header.switchv2p.type ≠ learningType := by
    rw [invalidation]
    decide
  rw [branch, if_neg notLearning, if_pos (Or.inl invalidation)]

/-- A message teaches no source, and names the key that it is about. -/
theorem index_of_message
    (program : Program)
    {header : Header}
    (message :
      header.switchv2p.type = learningType ∨
        header.switchv2p.type = invalidationType) :
    index program header = program.dstIndexHash header.switchv2p.key ∧
      (settled program header).key = header.switchv2p.key ∧
      (settled program header).val = header.switchv2p.val := by
  have elsewhere : ¬ LearnsSource program header := by
    rintro ⟨_, _, normal | eviction⟩
    · rw [normal] at message
      exact absurd message (by decide)
    · rw [eviction] at message
      exact absurd message (by decide)
  have tagged :
      header.switchv2p.type = invalidationType ∨
        header.switchv2p.type = learningType ∨
        header.switchv2p.type = evictionTagType := by
    rcases message with learning | invalidation
    · exact Or.inr (Or.inl learning)
    · exact Or.inl invalidation
  have parsedKey : (parse header).key = header.switchv2p.key :=
    if_pos tagged
  have parsedVal : (parse header).val = header.switchv2p.val :=
    if_pos tagged
  obtain ⟨sameKey, sameVal⟩ := settled_of_not_learnsSource elsewhere
  refine ⟨?_, sameKey.trans parsedKey, sameVal.trans parsedVal⟩
  rw [index, if_neg elsewhere, parsedKey]

/-- A switch sends a message on as it came. -/
theorem IsMessage.next
    (message : IsMessage header)
    (forwards : hop.next header = some after) :
    after.switchv2p = header.switchv2p ∧
      after.ipv4Outter.dstAddr = header.ipv4Outter.dstAddr := by
  have sameHeader :
      (hop.outcome header).header = header.addresses := by
    rw [Hop.outcome, ingress_eq]
    rcases message with learning | invalidation
    · rw [branch_of_learning learning]
      rfl
    · rw [branch_of_invalidation invalidation]
      rfl
  obtain ⟨_, _, rfl⟩ := Option.map_eq_some_iff.mp forwards
  rw [sameHeader]
  exact ⟨rfl, rfl⟩

/-- So does a path. -/
theorem IsMessage.carry
    (message : IsMessage header)
    (carries : carry path header = some after) :
    after.switchv2p = header.switchv2p ∧
      after.ipv4Outter.dstAddr = header.ipv4Outter.dstAddr := by
  induction path generalizing header with
  | nil =>
      cases carries
      exact ⟨rfl, rfl⟩
  | cons hop rest inductionHypothesis =>
      obtain ⟨middle, forwards, carried⟩ :=
        Option.bind_eq_some_iff.mp carries
      obtain ⟨sameTag, sameDst⟩ := message.next forwards
      have middleMessage : IsMessage middle := by
        rw [IsMessage, sameTag]
        exact message
      obtain ⟨laterTag, laterDst⟩ :=
        inductionHypothesis middleMessage carried
      exact ⟨laterTag.trans sameTag, laterDst.trans sameDst⟩

/-- A switch that gets a learning message holds what it says. -/
theorem holds_of_learning
    (program : Program)
    (registers : Registers)
    (packet : Ingress)
    (learning : packet.header.switchv2p.type = learningType)
    (valid : packet.header.switchv2p.key ≠ 1) :
    Holds program (ingress program registers packet).registers
      packet.header.switchv2p.key packet.header.switchv2p.val := by
  obtain ⟨slot, key, val⟩ :=
    index_of_message program (Or.inl learning)
  rw [ingress_eq, branch_of_learning learning]
  dsimp only [applyWrite]
  rw [slot, key, val]
  refine ⟨?_, ?_, valid⟩
  · rw [Registers.key_setKey_setVal, if_pos rfl]
  · rw [Registers.vals_setKey_setVal, Function.update_self]

/-- A switch that gets an invalidation holds nothing for its key. -/
theorem not_holds_of_invalidation
    (program : Program)
    (registers : Registers)
    (packet : Ingress)
    (invalidation : packet.header.switchv2p.type = invalidationType)
    (val : Ipv4Address) :
    ¬ Holds program (ingress program registers packet).registers
      packet.header.switchv2p.key val := by
  obtain ⟨slot, key, -⟩ :=
    index_of_message program (Or.inr invalidation)
  rw [ingress_eq, branch_of_invalidation invalidation]
  dsimp only
  rw [slot, key]
  rintro ⟨sameKey, -, valid⟩
  rw [Registers.key_clearKey] at sameKey
  split at sameKey
  next => exact valid sameKey.symm
  next differs => exact differs ⟨rfl, sameKey⟩

/-- What an accepted frame leaves in the registers. -/
theorem Hop.registers_receive_emit
    (accepted : Accepted header)
    (payload : List Bool) :
    (receive hop.switch hop.registers
        (hop.arrival (header.emit ++ payload))).registers =
      (hop.outcome header).registers := by
  have parses := ingressParser_emit accepted payload
  rw [registers_receive]
  simp only [Hop.arrival, parses]
  rfl

/-! ## From the mirror to a receiver -/

/-- A header that the mirror's egress has made about another. -/
structure Made
    (tables : EgressTables)
    (about message : HeaderT) : Prop where
  accepted : Accepted message
  meaning :
    IsLearning tables about message ∨ IsInvalidation tables about message
  outterLen : message.ipv4Outter.totalLen = 50#16
  innerLen : message.ipv4Inner.totalLen = 30#16
  outterChecksum : ChecksumHolds message.ipv4Outter
  innerChecksum : ChecksumHolds message.ipv4Inner

/-- The message that the egress makes of a copy. -/
theorem made_copied
    (tables : EgressTables)
    (accepted : Accepted header)
    (asked : (hop.outcome header).mirrorType ≠ .none) :
    Made tables header
      (checked (egressApply tables (copied header (hop.outcome header)))) := by
  obtain ⟨named, sameDst⟩ := mirror_ingress asked
  have isMessage :
      egressApply tables (copied header (hop.outcome header)) =
        if (hop.outcome header).metadata.mirrorHeaderType =
            invalidationType then
          asMessage (copied header (hop.outcome header)) invalidationType
            (tables.switchIdToDst header.switchv2p.switchId)
            header.switchv2p.val
        else if (hop.outcome header).metadata.mirrorHeaderType =
            learningType then
          asMessage (copied header (hop.outcome header)) learningType
            (tables.srcToTor header.ipv4Outter.srcAddr)
            (hop.outcome header).header.ipv4Outter.dstAddr
        else
          { copied header (hop.outcome header) with mirror := none } :=
    rfl
  change
    (hop.outcome header).metadata.mirrorHeaderType = _ ∨
      (hop.outcome header).metadata.mirrorHeaderType = _ at named
  rcases named with learning | invalidation
  · rw [learning, if_neg (by decide), if_pos rfl] at isMessage
    rw [isMessage]
    exact
      { accepted := ⟨rfl, accepted.isIpv4, accepted.isSwitchV2P⟩
        meaning := Or.inl ⟨rfl, rfl, sameDst, rfl⟩
        outterLen := rfl
        innerLen := rfl
        outterChecksum := checksumHolds_updateChecksum _
        innerChecksum := checksumHolds_updateChecksum _ }
  · rw [invalidation, if_pos rfl] at isMessage
    rw [isMessage]
    exact
      { accepted := ⟨rfl, accepted.isIpv4, accepted.isSwitchV2P⟩
        meaning := Or.inr ⟨rfl, rfl, rfl⟩
        outterLen := rfl
        innerLen := rfl
        outterChecksum := checksumHolds_updateChecksum _
        innerChecksum := checksumHolds_updateChecksum _ }

/-- What a switch mirrors is the frame of such a message. -/
theorem made_of_mirrored
    {frame : List Bool}
    {parsed : Parsed}
    {departure : Departure}
    (parses : ingressParser frame = some parsed)
    (headersOnly : HeadersOnly hop.switch)
    (mirrored :
      (receive hop.switch hop.registers (hop.arrival frame)).mirrored =
        some departure) :
    ∃ made,
      Made hop.switch.egressTables parsed.header made ∧
        departure.frame = made.emit ++ [] := by
  have roomy :
      ∀ id session, hop.switch.mirrorCfg id = some session →
        69 ≤ session.maxPktLen :=
    fun id session configured => (headersOnly id session configured).ge
  have sent :
      some departure =
        if (hop.outcome parsed.header).mirrorType = .none then
          none
        else
          (hop.switch.mirrorCfg
              (hop.outcome parsed.header).metadata.mirrorSession).map
            fun session =>
              { port := session.egressPort
                frame :=
                  (checked
                      (egressApply hop.switch.egressTables
                        (copied parsed.header
                          (hop.outcome parsed.header)))).emit ++
                    parsed.payload.take (8 * (session.maxPktLen - 69)) } :=
    mirrored.symm.trans
      (mirrored_receive parses hop.switch hop.registers hop.rand
        hop.globalTstamp roomy)
  by_cases asked : (hop.outcome parsed.header).mirrorType = .none
  · rw [if_pos asked] at sent
    cases sent
  rw [if_neg asked] at sent
  obtain ⟨session, configured, rfl⟩ := Option.map_eq_some_iff.mp sent.symm
  have accepted := (eq_emit_of_ingressParser parses).1
  refine ⟨_, made_copied hop.switch.egressTables accepted asked, ?_⟩
  dsimp only
  rw [headersOnly _ _ configured, Nat.sub_self, Nat.mul_zero,
    List.take_zero]

namespace Made

variable
  {tables : EgressTables}
  {about message : HeaderT}

theorem isMessage (made : Made tables about message) :
    IsMessage message := by
  rcases made.meaning with learning | invalidation
  · exact Or.inl learning.type
  · exact Or.inr invalidation.type

/-- A message stays what it is along a path. -/
theorem carry
    (made : Made tables about message)
    (carries : carry path message = some after) :
    Made tables about after := by
  obtain ⟨sameTag, sameDst⟩ := made.isMessage.carry carries
  obtain ⟨preserves, sums, -⟩ := keeps_carry carries
  have sumsAfter :
      ChecksumHolds after.ipv4Outter ∧ ChecksumHolds after.ipv4Inner := by
    by_cases direct : path = []
    · subst direct
      cases carries
      exact ⟨made.outterChecksum, made.innerChecksum⟩
    · exact sums direct
  refine
    { accepted := made.accepted.carry carries
      meaning := ?_
      outterLen := by rw [preserves.ipv4Outter]; exact made.outterLen
      innerLen := by rw [preserves.ipv4Inner]; exact made.innerLen
      outterChecksum := sumsAfter.1
      innerChecksum := sumsAfter.2 }
  rcases made.meaning with learning | invalidation
  · refine Or.inl ⟨?_, ?_, ?_, sameDst.trans learning.dstAddr⟩
    · rw [sameTag, learning.type]
    · rw [sameTag, learning.key]
    · rw [sameTag, learning.val]
  · refine Or.inr ⟨?_, ?_, sameDst.trans invalidation.dstAddr⟩
    · rw [sameTag, invalidation.type]
    · rw [sameTag, invalidation.key]

/-- The lengths and checksums of a message are those of its frame. -/
theorem selfConsistent (made : Made tables about message) :
    SelfConsistent (message.emit ++ [])
      { header := message
        metadata := parse message.addresses
        payload := [] } where
  bare := rfl
  outterLength := by
    rw [List.append_nil, length_emit made.accepted.unmirrored]
    dsimp only
    rw [made.outterLen]
    rfl
  innerLength := by
    dsimp only
    rw [made.outterLen, made.innerLen]
    rfl
  outterChecksum := made.outterChecksum
  innerChecksum := made.innerChecksum

end Made

/--
What a switch mirrors is a message whose lengths and checksums are right.
Along any path and at any receiver, a learning message brings the mapping of
the packet that it is about, and an invalidation takes the mapping of the
packet's destination away.
-/
theorem mirrored_reaches
    {frame last : List Bool}
    {parsed : Parsed}
    {departure : Departure}
    (parses : ingressParser frame = some parsed)
    (headersOnly : HeadersOnly hop.switch)
    (mirrored :
      (receive hop.switch hop.registers (hop.arrival frame)).mirrored =
        some departure)
    (travels : travel path departure.frame = some last)
    (receiver : Hop) :
    ∃ message,
      ingressParser last = some message ∧
        SelfConsistent last message ∧
        (IsLearning hop.switch.egressTables parsed.header
              message.header ∧
            (parsed.header.ipv4Inner.dstAddr ≠ 1 →
              Holds receiver.switch.program
                (receive receiver.switch receiver.registers
                  (receiver.arrival last)).registers
                parsed.header.ipv4Inner.dstAddr
                parsed.header.ipv4Outter.dstAddr) ∨
          IsInvalidation hop.switch.egressTables parsed.header
              message.header ∧
            ∀ val, ¬ Holds receiver.switch.program
              (receive receiver.switch receiver.registers
                (receiver.arrival last)).registers
              parsed.header.ipv4Inner.dstAddr val) := by
  obtain ⟨message, made, isFrame⟩ :=
    made_of_mirrored parses headersOnly mirrored
  rw [isFrame, travel_emit made.accepted] at travels
  obtain ⟨after, carries, rfl⟩ := Option.map_eq_some_iff.mp travels
  have arrived := made.carry carries
  refine
    ⟨_, ingressParser_emit arrived.accepted [], arrived.selfConsistent, ?_⟩
  rw [receiver.registers_receive_emit arrived.accepted]
  rcases arrived.meaning with learning | invalidation
  · refine Or.inl ⟨learning, ?_⟩
    rw [← learning.key, ← learning.val]
    exact
      holds_of_learning receiver.switch.program receiver.registers
        (receiver.packet after) learning.type
  · refine Or.inr ⟨invalidation, ?_⟩
    rw [← invalidation.key]
    exact
      not_holds_of_invalidation receiver.switch.program
        receiver.registers (receiver.packet after) invalidation.type

/-- A gateway leaf that samples a packet. -/
def sampler : Hop where
  switch := plainSwitch .gwTor 4
  registers := .initial
  rand := 3
  globalTstamp := 0

/-- A leaf on the way of the message. -/
def relay : Hop where
  switch := plainSwitch .tor 7
  registers := .initial
  rand := 100
  globalTstamp := 0

theorem mirrored_reaches_sampler :
    ∃ departure last message,
      (receive sampler.switch sampler.registers
            (sampler.arrival ((plainHeader 16 17).emit ++ [true]))).mirrored =
          some departure ∧
        travel [relay] departure.frame = some last ∧
        ingressParser last = some message ∧
        SelfConsistent last message ∧
        (IsLearning sampler.switch.egressTables (plainHeader 16 17)
              message.header ∧
            ((3 : Ipv4Address) ≠ 1 →
              Holds relay.switch.program
                (receive relay.switch relay.registers
                  (relay.arrival last)).registers
                3 17) ∨
          IsInvalidation sampler.switch.egressTables (plainHeader 16 17)
              message.header ∧
            ∀ val, ¬ Holds relay.switch.program
              (receive relay.switch relay.registers
                (relay.arrival last)).registers
              3 val) := by
  have parses :=
    ingressParser_emit (accepted_plainHeader 16 17) [true]
  have headersOnly : HeadersOnly sampler.switch := by
    intro id session configured
    cases configured
    rfl
  have roomy :
      ∀ id session, sampler.switch.mirrorCfg id = some session →
        69 ≤ session.maxPktLen :=
    fun id session configured => (headersOnly id session configured).ge
  have asked :
      ¬ (sampler.outcome (plainHeader 16 17)).mirrorType = .none := by
    decide
  obtain ⟨departure, mirrored⟩ :
      ∃ departure,
        (receive sampler.switch sampler.registers
            (sampler.arrival
              ((plainHeader 16 17).emit ++ [true]))).mirrored =
          some departure :=
    ⟨_,
      (mirrored_receive parses sampler.switch sampler.registers
        sampler.rand sampler.globalTstamp roomy).trans (if_neg asked)⟩
  obtain ⟨made, isMade, isFrame⟩ :=
    made_of_mirrored parses headersOnly mirrored
  obtain ⟨after, carries⟩ : ∃ after, carry [relay] made = some after :=
    ⟨_, rfl⟩
  have travels :
      travel [relay] departure.frame =
        (carry [relay] made).map fun after => after.emit ++ [] := by
    rw [isFrame]
    exact travel_emit isMade.accepted []
  rw [carries] at travels
  obtain ⟨message, reached⟩ :=
    mirrored_reaches parses headersOnly mirrored travels relay
  exact ⟨departure, _, message, mirrored, travels, reached⟩

end SwitchV2P.PrototypeWire
