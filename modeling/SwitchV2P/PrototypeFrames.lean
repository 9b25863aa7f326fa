import SwitchV2P.PrototypeWire
import SwitchV2P.PrototypeSpec

namespace SwitchV2P.PrototypeWire

/-!
# What the parsers make of what the deparsers send

The parser of the ingress takes apart what `pkt.emit(hdr)` puts together, so
that a frame on the wire and the header it stands for can be exchanged for each
other.  It reads the checksums and does not check them, whereas the deparser of
the egress writes both: what the deparser sends are the accepted frames whose
checksums are already what it would write.  A switch then forwards an accepted
frame as the frame of the header that its ingress control leaves, and sends the
copy of a mirror as the frame of the message that its egress makes of it.
-/

open Prototype BitFormat OnesComplement

/-- The headers that the ingress parser accepts. -/
structure Accepted (header : HeaderT) : Prop where
  unmirrored : header.mirror = none
  isIpv4 : header.ethernet.etherType = etherTypeIpv4
  isSwitchV2P : header.ipv4Inner.protocol = ipProtocolsSwitchV2P

/-- Both checksums as the egress deparser sets them. -/
def checked (header : HeaderT) : HeaderT :=
  { header with
    ipv4Outter := header.ipv4Outter.updateChecksum
    ipv4Inner := header.ipv4Inner.updateChecksum }

/-- The frame of a header that goes on, once the ingress control is done. -/
def passed (header : HeaderT) (addresses : Header) : HeaderT :=
  checked { header.withAddresses addresses with mirror := none }

/-- What the egress deparser sends. -/
theorem egressDeparser_eq (header : HeaderT) :
    egressDeparser header = (checked header).emit :=
  rfl

/-- The checksums do not enter into themselves. -/
@[simp] theorem checked_checked (header : HeaderT) :
    checked (checked header) = checked header :=
  rfl

/-- Nothing that the parser selects on is a checksum. -/
theorem Accepted.checked {header : HeaderT} (accepted : Accepted header) :
    Accepted (checked header) where
  unmirrored := accepted.unmirrored
  isIpv4 := accepted.isIpv4
  isSwitchV2P := accepted.isSwitchV2P

/-- The bits that a receiver sums up come to all ones. -/
def ChecksumHolds (header : Ipv4H) : Prop :=
  sum (wordsOf 16 10 (ipv4Format.encode header)) = BitVec.allOnes 16

variable
  {header : HeaderT}
  {frame payload : List Bool}
  {parsed : Parsed}

/-! ## Checksums -/

/-- Every header that a deparser completes passes the receiver's check. -/
theorem checksumHolds_updateChecksum (header : Ipv4H) :
    ChecksumHolds header.updateChecksum := by
  have front :
      (ipv4Front.encode header.front).length = 5 * 16 :=
    ipv4Front.length_encode header.front
  have fields :
      wordsOf 16 9 header.checksumFields =
        wordsOf 16 5 (ipv4Front.encode header.front) ++
          wordsOf 16 4
            ((ipv4Addr.pair ipv4Addr).encode
              (header.srcAddr, header.dstAddr)) :=
    wordsOf_append 5 4 _ _ front
  change
    sum (wordsOf 16 (5 + (4 + 1))
      (ipv4Front.encode header.front ++
        (bitsOf 16 header.updateChecksum.hdrChecksum ++
          (ipv4Addr.pair ipv4Addr).encode
            (header.srcAddr, header.dstAddr)))) = _
  rw [wordsOf_append 5 (4 + 1) _ _ front, wordsOf_bitsOf_append,
    Ipv4H.updateChecksum, fields]
  exact sum_with_complement _ _

/-! ## Parsing -/

/-- The type that `lookahead` reads is that of the header to come. -/
theorem extract_type
    (switchv2p : SwitchV2PHeader)
    (payload : List Bool) :
    ∃ rest,
      uint8.extract (switchv2pFormat.encode switchv2p ++ payload) =
        some (switchv2p.type, rest) := by
  have layout :
      switchv2pFormat.encode switchv2p ++ payload =
        uint8.encode switchv2p.type ++
          ((uint8.pair (ipv4Addr.pair ipv4Addr)).encode
            (switchv2p.switchId, switchv2p.key, switchv2p.val) ++
              payload) := by
    rw [← List.append_assoc]
    rfl
  rw [layout, extract_encode_append]
  exact ⟨_, rfl⟩

/-- The parser takes apart what `pkt.emit(hdr)` put together. -/
theorem ingressParser_emit
    (accepted : Accepted header)
    (payload : List Bool) :
    ingressParser (header.emit ++ payload) =
      some
        { header := header
          metadata := parse header.addresses
          payload := payload } := by
  obtain ⟨mirror, ethernet, outter, inner, switchv2p⟩ := header
  obtain ⟨rfl, isIpv4, isSwitchV2P⟩ := accepted
  obtain ⟨rest, peeked⟩ := extract_type switchv2p payload
  dsimp only at isIpv4 isSwitchV2P
  simp only [HeaderT.emit, List.nil_append, List.append_assoc, ingressParser,
    extract_encode_append, Option.bind_eq_bind, Option.bind_some, isIpv4,
    guard_true, isSwitchV2P, peeked, Option.pure_def]
  by_cases tagged :
      switchv2p.type = invalidationType ∨ switchv2p.type = learningType ∨
        switchv2p.type = evictionTagType
  · simp [parse, HeaderT.addresses, ingressMetadataInitializer, tagged]
  · simp [parse, HeaderT.addresses, ingressMetadataInitializer, tagged]

/-- What the parser accepts was emitted, with a payload behind. -/
theorem eq_emit_of_ingressParser
    (parses : ingressParser frame = some parsed) :
    Accepted parsed.header ∧
      frame = parsed.header.emit ++ parsed.payload := by
  simp only [ingressParser, Option.bind_eq_bind, Option.pure_def,
    Option.bind_eq_some_iff, Prod.exists] at parses
  obtain ⟨ethernet, rest, isFrame, _, isIpv4, outter, rest', isRest, inner,
    rest'', isRest', _, isSwitchV2P, _, _, _, switchv2p, payload, isRest'',
    isParsed⟩ := parses
  rw [extract_eq_some_iff] at isFrame isRest isRest' isRest''
  subst isFrame isRest isRest' isRest''
  cases isParsed
  refine ⟨⟨rfl, ?_, ?_⟩, ?_⟩
  · by_contra otherwise
    simp [guard, otherwise] at isIpv4
  · by_contra otherwise
    simp [guard, otherwise] at isSwitchV2P
  · simp [HeaderT.emit]

/-- The metadata depend on the addresses and the type alone. -/
theorem metadata_of_ingressParser
    (parses : ingressParser frame = some parsed) :
    parsed.metadata = parse parsed.header.addresses := by
  obtain ⟨accepted, rfl⟩ := eq_emit_of_ingressParser parses
  rw [ingressParser_emit accepted] at parses
  exact (congrArg Parsed.metadata (Option.some.inj parses)).symm

/-- What the parser makes of the frame of a header with a payload behind. -/
def parsedAs (header : HeaderT) (payload : List Bool) : Parsed where
  header := checked header
  metadata := parse header.addresses
  payload := payload

/-- The ingress parser takes apart what the egress deparser sends. -/
theorem ingressParser_egressDeparser
    (accepted : Accepted header)
    (payload : List Bool) :
    ingressParser (egressDeparser header ++ payload) =
      some (parsedAs header payload) :=
  ingressParser_emit accepted.checked payload

/-- An accepted frame with right checksums comes from the deparser. -/
theorem eq_egressDeparser_of_ingressParser
    (parses : ingressParser frame = some parsed)
    (sums : checked parsed.header = parsed.header) :
    Accepted parsed.header ∧
      parsed = parsedAs parsed.header parsed.payload ∧
      frame = egressDeparser parsed.header ++ parsed.payload := by
  obtain ⟨accepted, isFrame⟩ := eq_emit_of_ingressParser parses
  have sent :
      frame = egressDeparser parsed.header ++ parsed.payload := by
    rw [egressDeparser_eq, sums]
    exact isFrame
  have again := ingressParser_egressDeparser accepted parsed.payload
  rw [← sent, parses] at again
  exact ⟨accepted, Option.some.inj again, sent⟩

/--
The frames of the egress deparser are the accepted frames with the checksums
that it would write, and the parser inverts it on them.
-/
theorem ingressParser_eq_some_iff :
    ingressParser frame = some parsed ∧
        checked parsed.header = parsed.header ↔
      ∃ header payload,
        Accepted header ∧
          parsed = parsedAs header payload ∧
          frame = egressDeparser header ++ payload := by
  constructor
  · rintro ⟨parses, sums⟩
    exact ⟨parsed.header, parsed.payload,
      eq_egressDeparser_of_ingressParser parses sums⟩
  · rintro ⟨header, payload, accepted, rfl, rfl⟩
    exact ⟨ingressParser_egressDeparser accepted payload,
      checked_checked header⟩

/-- The egress works on any frame with a mirror header in front. -/
theorem egress_emit
    (tables : EgressTables)
    {mirror : MirrorH}
    (carries : header.mirror = some mirror)
    (payload : List Bool) :
    egress tables (header.emit ++ payload) =
      some ((checked (egressApply tables header)).emit ++ payload) := by
  have parses :
      egressParser (header.emit ++ payload) = some (header, payload) := by
    obtain ⟨_, ethernet, outter, inner, switchv2p⟩ := header
    cases carries
    simp only [HeaderT.emit, List.append_assoc, egressParser,
      extract_encode_append, Option.bind_eq_bind, Option.bind_some,
      Option.pure_def]
  rw [egress, parses]
  rfl

/-! ## Lengths -/

/-- Ethernet, IPv4 twice, and SwitchV2P: 64 bytes. -/
theorem length_emit
    (unmirrored : header.mirror = none) :
    header.emit.length = 8 * 64 := by
  rw [HeaderT.emit, unmirrored]
  simp only [List.nil_append, List.length_append, length_encode]
  rfl

/-- The mirror header adds 5 bytes. -/
theorem length_emit_mirror
    {mirror : MirrorH}
    (carries : header.mirror = some mirror) :
    header.emit.length = 8 * 69 := by
  rw [HeaderT.emit, carries]
  simp only [List.length_append, length_encode]
  rfl

/-! ## Forwarding -/

@[simp] theorem dstAddr_passed (header : HeaderT) (addresses : Header) :
    (passed header addresses).ipv4Outter.dstAddr =
      addresses.ipv4Outter.dstAddr :=
  rfl

/-- What the ingress control does with an accepted frame. -/
theorem ingressApply_eq
    (parses : ingressParser frame = some parsed)
    (switch : Switch)
    (registers : Registers)
    (arrival : Arrival) :
    ingressApply switch registers parsed arrival =
      ingress switch.program registers (parsed.ingress arrival) := by
  rw [ingressApply, metadata_of_ingressParser parses]
  rfl

/-- What goes on is accepted again. -/
theorem Accepted.passed
    (accepted : Accepted header)
    (addresses : Header) :
    Accepted (passed header addresses) where
  unmirrored := rfl
  isIpv4 := accepted.isIpv4
  isSwitchV2P := accepted.isSwitchV2P

/-- The egress takes the mark of a normal packet away, and nothing else. -/
theorem forward_eq
    (switch : Switch)
    (parsed : Parsed)
    (outcome : Outcome) :
    forward switch parsed outcome =
      (switch.l3Forwarding outcome.header.ipv4Outter.dstAddr).map fun port =>
        { port := port
          frame :=
            (passed parsed.header outcome.header).emit ++
              parsed.payload } := by
  simp only [forward, ingressDeparser]
  change
    (switch.l3Forwarding outcome.header.ipv4Outter.dstAddr).bind _ = _
  cases switch.l3Forwarding outcome.header.ipv4Outter.dstAddr with
  | none => rfl
  | some port =>
      simp only [Option.bind_some]
      rw [egress_emit switch.egressTables rfl]
      rfl

/-- A switch forwards frames as its ingress control forwards headers. -/
theorem forwarded_receive
    (parses : ingressParser frame = some parsed)
    (switch : Switch)
    (registers : Registers)
    (rand : BitVec 10)
    (globalTstamp : BitVec 48) :
    let arrival : Arrival := ⟨frame, rand, globalTstamp⟩
    let outcome :=
      ingress switch.program registers (parsed.ingress arrival)
    (receive switch registers arrival).forwarded =
      (switch.l3Forwarding outcome.header.ipv4Outter.dstAddr).map fun port =>
        { port := port
          frame :=
            (passed parsed.header outcome.header).emit ++
              parsed.payload } := by
  intro arrival outcome
  simp only [receive, arrival, parses]
  rw [forward_eq, ingressApply_eq parses]

/-- A frame that is rejected leaves no trace; any other is handled. -/
theorem registers_receive
    (switch : Switch)
    (registers : Registers)
    (arrival : Arrival) :
    (receive switch registers arrival).registers =
      match ingressParser arrival.frame with
      | none => registers
      | some parsed =>
          (ingress switch.program registers
            (parsed.ingress arrival)).registers := by
  unfold receive
  cases parses : ingressParser arrival.frame with
  | none => rfl
  | some parsed =>
      dsimp only
      rw [ingressApply_eq parses]

/-! ## Mirroring -/

/-- The header of the copy that the egress gets. -/
def copied (header : HeaderT) (outcome : Outcome) : HeaderT :=
  { header with
    mirror :=
      some
        { type := outcome.metadata.mirrorHeaderType
          val := outcome.header.ipv4Outter.dstAddr } }

/-- Without a request, and without a session, nothing is mirrored. -/
theorem mirror_eq
    (switch : Switch)
    (arrival : Arrival)
    (outcome : Outcome) :
    mirror switch arrival outcome =
      if outcome.mirrorType = .none then
        none
      else
        (switch.mirrorCfg outcome.metadata.mirrorSession).bind fun session =>
          (egress switch.egressTables
            ((mirrorFormat.encode
                { type := outcome.metadata.mirrorHeaderType
                  val := outcome.header.ipv4Outter.dstAddr } ++
              arrival.frame).take (8 * session.maxPktLen))).map fun frame =>
            { port := session.egressPort, frame := frame } := by
  unfold mirror
  split
  next silent => simp [silent, guard]
  next asked =>
    simp only [guard, ne_eq, asked, not_false_eq_true, ↓reduceIte,
      Option.bind_eq_bind, Option.pure_def, Option.bind_some,
      Option.map_eq_bind]
    rfl

/-- The mirror sends the header of an accepted frame, and may cut the rest. -/
theorem mirrored_receive
    (parses : ingressParser frame = some parsed)
    (switch : Switch)
    (registers : Registers)
    (rand : BitVec 10)
    (globalTstamp : BitVec 48)
    (roomy :
      ∀ id session, switch.mirrorCfg id = some session →
        69 ≤ session.maxPktLen) :
    let arrival : Arrival := ⟨frame, rand, globalTstamp⟩
    let outcome :=
      ingress switch.program registers (parsed.ingress arrival)
    (receive switch registers arrival).mirrored =
      if outcome.mirrorType = .none then
        none
      else
        (switch.mirrorCfg outcome.metadata.mirrorSession).map fun session =>
          { port := session.egressPort
            frame :=
              (checked
                  (egressApply switch.egressTables
                    (copied parsed.header outcome))).emit ++
                parsed.payload.take (8 * (session.maxPktLen - 69)) } := by
  intro arrival outcome
  obtain ⟨accepted, isFrame⟩ := eq_emit_of_ingressParser parses
  have handled :
      (receive switch registers arrival).mirrored =
        mirror switch arrival outcome := by
    simp only [receive, arrival, parses]
    rw [ingressApply_eq parses]
  rw [handled, mirror_eq]
  split
  next => rfl
  next asked =>
    cases configured : switch.mirrorCfg outcome.metadata.mirrorSession with
    | none => rfl
    | some session =>
        have enough := roomy _ _ configured
        have size :
            (copied parsed.header outcome).emit.length = 8 * 69 :=
          length_emit_mirror rfl
        have whole :
            mirrorFormat.encode
                { type := outcome.metadata.mirrorHeaderType
                  val := outcome.header.ipv4Outter.dstAddr } ++ frame =
              (copied parsed.header outcome).emit ++ parsed.payload := by
          rw [isFrame, ← List.append_assoc, HeaderT.emit,
            accepted.unmirrored]
          rfl
        have cut :
            ((copied parsed.header outcome).emit ++ parsed.payload).take
                (8 * session.maxPktLen) =
              (copied parsed.header outcome).emit ++
                parsed.payload.take (8 * (session.maxPktLen - 69)) := by
          rw [List.take_append, List.take_of_length_le (by omega), size,
            ← Nat.mul_sub]
        simp only [Option.bind_some, Option.map_some]
        rw [whole, cut, egress_emit switch.egressTables rfl]
        rfl

end SwitchV2P.PrototypeWire
