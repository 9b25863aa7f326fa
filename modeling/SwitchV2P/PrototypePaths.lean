import SwitchV2P.PrototypeFrames
import SwitchV2P.PrototypeRedirect

namespace SwitchV2P.PrototypeWire

/-!
# Frames from switch to switch

A path is a list of switches, each with whatever its registers hold when the
frame gets there.  On the way the addresses and the SwitchV2P header may
change, and the checksums with them; the destination and the switch number on
arrival are those of the last switch that redirected the frame.

The messages that the mirror makes are frames like any other.  No switch
changes them, and each switch on their way learns, or forgets, what they say.
-/

open Prototype PrototypeRedirect

/-- A switch on the way, with the state that the frame meets there. -/
structure Hop where
  switch : Switch
  registers : Registers
  rand : BitVec 10
  globalTstamp : BitVec 48

namespace Hop

variable (hop : Hop)

def arrival (frame : List Bool) : Arrival where
  frame := frame
  rand := hop.rand
  globalTstamp := hop.globalTstamp

/-- The frame that the switch sends on. -/
def send (frame : List Bool) : Option (List Bool) :=
  (receive hop.switch hop.registers (hop.arrival frame)).forwarded.map
    Departure.frame

def packet (header : HeaderT) : Ingress where
  header := header.addresses
  rand := hop.rand
  globalTstamp := hop.globalTstamp

/-- What the ingress control does with a header. -/
def outcome (header : HeaderT) : Outcome :=
  ingress hop.switch.program hop.registers (hop.packet header)

/-- The header that the switch sends on. -/
def next (header : HeaderT) : Option HeaderT :=
  (hop.switch.l3Forwarding
      (hop.outcome header).header.ipv4Outter.dstAddr).map fun _ =>
    passed header (hop.outcome header).header

end Hop

/-- The switch number and the address that a redirection leaves. -/
def redirect
    (program : Program)
    (registers : Registers)
    (header : Header) :
    Option (UInt8 × Ipv4Address) :=
  if branch program header = .toGateway ∧
      ¬ Misdelivered program header ∧
      (registers.keys (index program header)).key =
        (settled program header).key ∧
      program.switchType ≠ .spine then
    some (program.switchId, registers.vals (index program header))
  else
    none

/-- A frame along a path. -/
def travel : List Hop → List Bool → Option (List Bool)
  | [], frame => some frame
  | hop :: rest, frame => (hop.send frame).bind (travel rest)

/-- A header along a path. -/
def carry : List Hop → HeaderT → Option HeaderT
  | [], header => some header
  | hop :: rest, header => (hop.next header).bind (carry rest)

/-- The redirections on the way, in the order in which they happen. -/
def redirections : List Hop → HeaderT → List (UInt8 × Ipv4Address)
  | [], _ => []
  | hop :: rest, header =>
      (redirect hop.switch.program hop.registers header.addresses).toList ++
        match hop.next header with
        | some after => redirections rest after
        | none => []

/-- What a frame does not change on its way. -/
structure Preserves (before after : HeaderT) : Prop where
  ethernet : after.ethernet = before.ethernet
  ipv4Outter :
    after.ipv4Outter =
      { before.ipv4Outter with
        hdrChecksum := after.ipv4Outter.hdrChecksum
        dstAddr := after.ipv4Outter.dstAddr }
  ipv4Inner :
    after.ipv4Inner =
      { before.ipv4Inner with hdrChecksum := after.ipv4Inner.hdrChecksum }

theorem Preserves.refl (header : HeaderT) : Preserves header header :=
  ⟨rfl, rfl, rfl⟩

theorem Preserves.trans
    {first second third : HeaderT}
    (before : Preserves first second)
    (after : Preserves second third) :
    Preserves first third := by
  refine ⟨after.ethernet.trans before.ethernet, ?_, ?_⟩
  · rw [after.ipv4Outter, before.ipv4Outter]
  · rw [after.ipv4Inner, before.ipv4Inner]

variable
  {header after : HeaderT}
  {hop : Hop}
  {path : List Hop}
  {frame payload : List Bool}

/-! ## Frames and headers -/

/-- A switch forwards the frame of a header as the frame of the next one. -/
theorem Hop.send_emit
    (accepted : Accepted header)
    (payload : List Bool) :
    hop.send (header.emit ++ payload) =
      (hop.next header).map fun after => after.emit ++ payload := by
  have parses := ingressParser_emit accepted payload
  unfold Hop.send Hop.arrival
  rw [forwarded_receive parses]
  unfold Hop.next
  rw [Option.map_map, Option.map_map]
  rfl

/-- The next switch accepts what this one forwards. -/
theorem Accepted.next
    (accepted : Accepted header)
    (forwards : hop.next header = some after) :
    Accepted after := by
  obtain ⟨_, _, rfl⟩ := Option.map_eq_some_iff.mp forwards
  exact accepted.passed _

/-- A path carries frames as it carries headers. -/
theorem travel_emit
    (accepted : Accepted header)
    (payload : List Bool) :
    travel path (header.emit ++ payload) =
      (carry path header).map fun after => after.emit ++ payload := by
  induction path generalizing header with
  | nil => rfl
  | cons hop rest inductionHypothesis =>
      rw [travel, hop.send_emit accepted, carry]
      cases forwards : hop.next header with
      | none => rfl
      | some after =>
          exact inductionHypothesis (accepted.next forwards)

theorem Accepted.carry
    (accepted : Accepted header)
    (carries : carry path header = some after) :
    Accepted after := by
  induction path generalizing header with
  | nil =>
      cases carries
      exact accepted
  | cons hop rest inductionHypothesis =>
      obtain ⟨middle, forwards, carried⟩ :=
        Option.bind_eq_some_iff.mp carries
      exact inductionHypothesis (accepted.next forwards) carried

/-! ## One switch -/

/-- The ingress control leaves the containers and the sender alone. -/
theorem header_ingress_keeps
    (program : Program)
    (registers : Registers)
    (packet : Ingress) :
    (ingress program registers packet).header.ipv4Inner =
        packet.header.ipv4Inner ∧
      (ingress program registers packet).header.ipv4Outter.srcAddr =
        packet.header.ipv4Outter.srcAddr := by
  rw [ingress_eq]
  cases branch program packet.header with
  | write => exact ⟨rfl, rfl⟩
  | clear => exact ⟨rfl, rfl⟩
  | pass => exact ⟨rfl, rfl⟩
  | gwTor => exact ⟨rfl, rfl⟩
  | learn =>
      dsimp only
      unfold applyLearning
      dsimp only
      split <;> exact ⟨rfl, rfl⟩
  | toGateway =>
      dsimp only
      unfold applyToGw
      dsimp only
      split
      next => exact ⟨rfl, rfl⟩
      next =>
        split
        next => split <;> exact ⟨rfl, rfl⟩
        next => exact ⟨rfl, rfl⟩

theorem settled_switchId {program : Program} {header : Header} :
    (settled program header).switchId = program.switchId := by
  unfold settled configure
  dsimp only
  split <;> rfl

/-- The switch number and the destination change together, or not at all. -/
theorem tag_ingress
    (program : Program)
    (registers : Registers)
    (packet : Ingress) :
    ((ingress program registers packet).header.switchv2p.switchId,
        (ingress program registers packet).header.ipv4Outter.dstAddr) =
      (redirect program registers packet.header).getD
        (packet.header.switchv2p.switchId,
          packet.header.ipv4Outter.dstAddr) := by
  unfold redirect
  by_cases toGateway : branch program packet.header = .toGateway
  · by_cases misdelivered : Misdelivered program packet.header
    · rw [if_neg fun redirects => redirects.2.1 misdelivered,
        (ingress_misdelivered toGateway misdelivered).2.1]
      rfl
    · rw [ingress_toGateway toGateway misdelivered]
      by_cases found :
          (registers.keys (index program packet.header)).key =
            (settled program packet.header).key
      · by_cases atSpine : program.switchType = .spine
        · rw [if_pos found, if_pos atSpine,
            if_neg fun redirects => redirects.2.2.2 atSpine]
          rfl
        · rw [if_pos found, if_neg atSpine,
            if_pos ⟨toGateway, misdelivered, found, atSpine⟩]
          exact congrArg (·, _) settled_switchId
      · rw [if_neg found, if_neg fun redirects => found redirects.2.2.1]
        rfl
  · rw [if_neg fun redirects => toGateway redirects.1, ingress_eq]
    cases taken : branch program packet.header with
    | toGateway => exact absurd taken toGateway
    | write => rfl
    | clear => rfl
    | pass => rfl
    | gwTor => rfl
    | learn =>
        dsimp only
        unfold applyLearning
        dsimp only
        split <;> rfl

/-- What one switch leaves of a header. -/
theorem Hop.keeps_next
    (forwards : hop.next header = some after) :
    Preserves header after ∧
      ChecksumHolds after.ipv4Outter ∧ ChecksumHolds after.ipv4Inner ∧
      (after.switchv2p.switchId, after.ipv4Outter.dstAddr) =
        (redirect hop.switch.program hop.registers header.addresses).getD
          (header.switchv2p.switchId, header.ipv4Outter.dstAddr) := by
  obtain ⟨_, _, rfl⟩ := Option.map_eq_some_iff.mp forwards
  obtain ⟨sameInner, sameSrc⟩ :=
    header_ingress_keeps hop.switch.program hop.registers
      (hop.packet header)
  refine ⟨⟨rfl, ?_, ?_⟩, checksumHolds_updateChecksum _,
    checksumHolds_updateChecksum _,
    tag_ingress hop.switch.program hop.registers (hop.packet header)⟩
  · have srcAddr :
        (hop.outcome header).header.ipv4Outter.srcAddr =
          header.ipv4Outter.srcAddr :=
      sameSrc
    simp only [passed, checked, HeaderT.withAddresses,
      Ipv4H.updateChecksum, srcAddr]
  · have inner :
        (hop.outcome header).header.ipv4Inner =
          ⟨header.ipv4Inner.srcAddr, header.ipv4Inner.dstAddr⟩ :=
      sameInner
    simp only [passed, checked, HeaderT.withAddresses,
      Ipv4H.updateChecksum, inner]

/-! ## A path -/

/-- What a path leaves of a header. -/
theorem keeps_carry
    (carries : carry path header = some after) :
    Preserves header after ∧
      (path ≠ [] →
        ChecksumHolds after.ipv4Outter ∧
          ChecksumHolds after.ipv4Inner) ∧
      (after.switchv2p.switchId, after.ipv4Outter.dstAddr) =
        (redirections path header).getLast?.getD
          (header.switchv2p.switchId, header.ipv4Outter.dstAddr) := by
  induction path generalizing header with
  | nil =>
      cases carries
      exact ⟨.refl _, fun nonempty => absurd rfl nonempty, rfl⟩
  | cons hop rest inductionHypothesis =>
      obtain ⟨middle, forwards, carried⟩ :=
        Option.bind_eq_some_iff.mp carries
      obtain ⟨first, outter, inner, tag⟩ := hop.keeps_next forwards
      obtain ⟨later, sums, lastTag⟩ := inductionHypothesis carried
      refine ⟨first.trans later, fun _ => ?_, ?_⟩
      · by_cases arrived : rest = []
        · subst arrived
          cases carried
          exact ⟨outter, inner⟩
        · exact sums arrived
      · rw [lastTag, tag, redirections, forwards]
        dsimp only
        rw [List.getLast?_append]
        cases (redirections rest middle).getLast? with
        | some last => rfl
        | none =>
            rw [Option.none_or]
            cases redirect hop.switch.program hop.registers
              header.addresses <;> rfl

/--
A frame that travels along switches, whatever they hold, arrives with its
payload and its length, with every field but the destination, the SwitchV2P
header and the checksums, and with checksums that hold; its destination and its
switch number are those of the last switch that redirected it.
-/
theorem travel_keeps
    {last : List Bool}
    {parsed : Parsed}
    (parses : ingressParser frame = some parsed)
    (travels : travel path frame = some last) :
    ∃ arrived,
      ingressParser last = some arrived ∧
        arrived.payload = parsed.payload ∧
        last.length = frame.length ∧
        Preserves parsed.header arrived.header ∧
        (path ≠ [] →
          ChecksumHolds arrived.header.ipv4Outter ∧
            ChecksumHolds arrived.header.ipv4Inner) ∧
        (arrived.header.switchv2p.switchId,
            arrived.header.ipv4Outter.dstAddr) =
          (redirections path parsed.header).getLast?.getD
            (parsed.header.switchv2p.switchId,
              parsed.header.ipv4Outter.dstAddr) := by
  obtain ⟨accepted, rfl⟩ := eq_emit_of_ingressParser parses
  rw [travel_emit accepted] at travels
  obtain ⟨after, carries, rfl⟩ := Option.map_eq_some_iff.mp travels
  have acceptedAfter := accepted.carry carries
  obtain ⟨preserves, sums, tag⟩ := keeps_carry carries
  refine ⟨_, ingressParser_emit acceptedAfter parsed.payload, rfl, ?_,
    preserves, sums, tag⟩
  rw [List.length_append, List.length_append,
    length_emit acceptedAfter.unmirrored, length_emit accepted.unmirrored]

/-- One gateway, address 9, and a lookup by the low bits. -/
def plainSwitch (switchType : SwitchType) (switchId : UInt8) : Switch where
  program :=
    { switchType := switchType
      switchId := switchId
      matchGw := fun address => address = 9
      checkMisdelivered := fun address => address = 23
      learningMirrorSession := fun _ => 2
      invalidationMirrorSession := fun _ => 1
      retransmitTimeout := 8
      dstIndexHash := fun key => BitVec.ofNat 13 key.toNat
      srcIndexHash := fun key => BitVec.ofNat 13 key.toNat }
  egressTables :=
    { switchIdToDst := fun id => id.toUInt32 + 100
      srcToTor := fun _ => 50 }
  l3Forwarding := fun _ => some 1
  mirrorCfg := fun _ => some { maxPktLen := 69, egressPort := 2 }

/-- A packet from container 2 to container 3. -/
def plainHeader (src dst : Ipv4Address) : HeaderT where
  mirror := none
  ethernet := { dstAddr := 1#48, srcAddr := 2#48, etherType := etherTypeIpv4 }
  ipv4Outter :=
    ⟨4#4, 5#4, 0#8, 50#16, 1#16, 0#3, 0#13, 64#8, 4#8, 0#16, src, dst⟩
  ipv4Inner :=
    ⟨4#4, 5#4, 0#8, 30#16, 1#16, 0#3, 0#13, 64#8, ipProtocolsSwitchV2P,
      0#16, 2, 3⟩
  switchv2p := ⟨normalType, 0, 0, 0⟩

theorem accepted_plainHeader (src dst : Ipv4Address) :
    Accepted (plainHeader src dst) :=
  ⟨rfl, rfl, rfl⟩

/-- Registers that map container 3 to a host. -/
def mapped (host : Ipv4Address) : Registers :=
  ((Registers.initial.setKey 3 3).2.setVal 3 host).2

/-- A spine that knows nothing, a core that redirects, and another spine. -/
def plainPath : List Hop :=
  [⟨plainSwitch .spine 4, .initial, 100, 0⟩,
    ⟨plainSwitch .core 5, mapped 17, 100, 0⟩,
    ⟨plainSwitch .spine 6, .initial, 100, 0⟩]

theorem travel_keeps_plainPath :
    redirections plainPath (plainHeader 16 9) = [(5, 17)] ∧
      ∃ last,
        travel plainPath ((plainHeader 16 9).emit ++ [true]) = some last ∧
          ∃ arrived,
            ingressParser last = some arrived ∧
              arrived.payload = [true] ∧
              last.length = ((plainHeader 16 9).emit ++ [true]).length ∧
              Preserves (plainHeader 16 9) arrived.header ∧
              (plainPath ≠ [] →
                ChecksumHolds arrived.header.ipv4Outter ∧
                  ChecksumHolds arrived.header.ipv4Inner) ∧
              (arrived.header.switchv2p.switchId,
                  arrived.header.ipv4Outter.dstAddr) =
                (redirections plainPath (plainHeader 16 9)).getLast?.getD
                  (0, 9) := by
  have accepted := accepted_plainHeader 16 9
  obtain ⟨after, carries⟩ :
      ∃ after, carry plainPath (plainHeader 16 9) = some after :=
    ⟨_, rfl⟩
  have travels :
      travel plainPath ((plainHeader 16 9).emit ++ [true]) =
        (carry plainPath (plainHeader 16 9)).map fun after =>
          after.emit ++ [true] :=
    travel_emit accepted [true]
  rw [carries] at travels
  exact
    ⟨by decide, _, travels,
      travel_keeps (ingressParser_emit accepted [true]) travels⟩

end SwitchV2P.PrototypeWire
