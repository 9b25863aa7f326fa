import SwitchV2P.PrototypePaths
import SwitchV2P.PrototypePairing
import SwitchV2P.Histories

namespace SwitchV2P.PrototypeWire

/-!
# Runs over frames

A switch that receives one frame after the other holds what the ingress control
would hold after the packets of the frames that were accepted.  What is known
of the registers in terms of packets is therefore known in terms of frames:
where a frame is redirected to was brought, together with the key that was
looked up, by the last frame that stored this key.
-/

open Prototype PrototypeRedirect

/-- The registers after a sequence of frames. -/
def run (switch : Switch) (arrivals : List Arrival) : Registers :=
  arrivals.foldl
    (fun registers arrival => (receive switch registers arrival).registers)
    .initial

/-- What the ingress control gets to see of a sequence of frames. -/
def packets (arrivals : List Arrival) : List Ingress :=
  arrivals.filterMap fun arrival =>
    (ingressParser arrival.frame).map fun parsed => parsed.ingress arrival

/-- Frames drive the registers as their packets do. -/
theorem run_eq (switch : Switch) (arrivals : List Arrival) :
    run switch arrivals =
      (PrototypePairing.run switch.program (packets arrivals)).registers := by
  induction arrivals using List.reverseRecOn with
  | nil => rfl
  | append_singleton arrivals arrival inductionHypothesis =>
      rw [packets, List.filterMap_append, run, List.foldl_append]
      change
        (receive switch (run switch arrivals) arrival).registers =
          (PrototypePairing.run switch.program
            (packets arrivals ++ _)).registers
      rw [registers_receive, inductionHypothesis]
      cases parses : ingressParser arrival.frame with
      | none => simp [parses]
      | some parsed =>
          simp only [List.filterMap_cons, parses, Option.map_some,
            List.filterMap_nil]
          rw [PrototypePairing.run, PrototypePairing.run,
            List.foldl_append, List.foldl_cons, List.foldl_nil,
            PrototypePairing.registers_receive]

/-- The last packet of a sequence that stored a key, and its value. -/
structure LastToStore
    (program : Program)
    (packets before : List Ingress)
    (packet : Ingress)
    (later : List Ingress)
    (key val : Ipv4Address) : Prop where
  isSplit : packets = before ++ packet :: later
  stores :
    Stores program (PrototypePairing.run program before).registers
      packet.header
  pair : taught program packet.header = (key, val)
  none :
    ∀ middle next rest, later = middle ++ next :: rest →
      Stores program
          (PrototypePairing.run program
            (before ++ packet :: middle)).registers next.header →
        (taught program next.header).1 ≠ key

/-- What was last learned for a key comes from the last packet to store it. -/
theorem exists_lastToStore
    (program : Program)
    {packets : List Ingress}
    {key val : Ipv4Address}
    (learned :
      (PrototypePairing.run program packets).lastLearned key = some val) :
    ∃ before packet later,
      LastToStore program packets before packet later key val := by
  induction packets using List.reverseRecOn with
  | nil => cases learned
  | append_singleton packets packet inductionHypothesis =>
      rw [PrototypePairing.run, List.foldl_append] at learned
      change
        (PrototypePairing.receive program
          (PrototypePairing.run program packets) packet).lastLearned key =
            some val at learned
      by_cases stored :
          Stores program (PrototypePairing.run program packets).registers
              packet.header ∧
            (taught program packet.header).1 = key
      · rw [PrototypePairing.receive, if_pos stored.1] at learned
        dsimp only at learned
        rw [stored.2, Function.update_self] at learned
        refine ⟨packets, packet, [], rfl, stored.1, ?_, ?_⟩
        · exact Prod.ext stored.2 (Option.some.inj learned)
        · intro middle next rest impossible
          simp at impossible
      · have earlier :
            (PrototypePairing.run program packets).lastLearned key =
              some val := by
          rw [PrototypePairing.receive] at learned
          split at learned
          next stores =>
            have otherKey : key ≠ (taught program packet.header).1 :=
              fun same => stored ⟨stores, same.symm⟩
            dsimp only at learned
            rwa [Function.update_of_ne otherKey] at learned
          next => exact learned
        obtain ⟨before, first, later, last⟩ := inductionHypothesis earlier
        refine
          ⟨before, first, later ++ [packet], ?_, last.stores, last.pair, ?_⟩
        · rw [last.isSplit, List.append_assoc, List.cons_append]
        · intro middle next rest isSplit stores
          rcases Histories.eq_last_or_earlier isSplit with
            ⟨rfl, rfl⟩ | ⟨between, -, isLater⟩
          · -- The last packet stores nothing for the key.
            have whole : middle = later := by
              simpa using isSplit.symm
            subst whole
            rw [← last.isSplit] at stores
            exact fun same => stored ⟨stores, same⟩
          · exact last.none middle next between isLater stores

variable
  {switch : Switch}
  {frame : List Bool}
  {parsed : Parsed}
  {departure : Departure}

/--
A frame that is redirected after any sequence of frames goes to the address
that the last frame to store its key brought along with the key.
-/
theorem redirected_to_last
    {arrivals : List Arrival}
    (sameHash :
      switch.program.srcIndexHash = switch.program.dstIndexHash)
    (usable :
      ∀ packet ∈ packets arrivals,
        PrototypePairing.Teaches switch.program packet.header →
          PrototypePairing.Usable
            (taught switch.program packet.header).1)
    (parses : ingressParser frame = some parsed)
    (usableKey :
      PrototypePairing.Usable (parse parsed.header.addresses).key)
    {rand : BitVec 10}
    {globalTstamp : BitVec 48}
    (forwarded :
      (receive switch (run switch arrivals)
          ⟨frame, rand, globalTstamp⟩).forwarded =
        some departure)
    {arrived : Parsed}
    (sent : ingressParser departure.frame = some arrived)
    (redirected :
      arrived.header.ipv4Outter.dstAddr ≠
        parsed.header.ipv4Outter.dstAddr) :
    ∃ before packet later,
      LastToStore switch.program (packets arrivals) before packet later
          (parse parsed.header.addresses).key
          arrived.header.ipv4Outter.dstAddr ∧
        PrototypePairing.Carries packet.header
          (parse parsed.header.addresses).key
          arrived.header.ipv4Outter.dstAddr := by
  have accepted := (eq_emit_of_ingressParser parses).1
  have passedOn :=
    forwarded.symm.trans
      (forwarded_receive parses switch (run switch arrivals) rand
        globalTstamp)
  obtain ⟨port, -, rfl⟩ := Option.map_eq_some_iff.mp passedOn.symm
  rw [ingressParser_emit (accepted.passed _)] at sent
  cases sent
  set packet : Ingress := parsed.ingress ⟨frame, rand, globalTstamp⟩
  change
    (ingress switch.program (run switch arrivals)
        packet).header.ipv4Outter.dstAddr ≠
      packet.header.ipv4Outter.dstAddr at redirected
  obtain ⟨hits, elsewhere⟩ := hits_of_dstAddr_ne redirected
  have value := hits.dstAddr_of_not_spine elsewhere
  change
    ∃ before packet' later,
      LastToStore switch.program (packets arrivals) before packet' later
          (parse packet.header).key
          (ingress switch.program (run switch arrivals)
            packet).header.ipv4Outter.dstAddr ∧
        PrototypePairing.Carries packet'.header (parse packet.header).key
          (ingress switch.program (run switch arrivals)
            packet).header.ipv4Outter.dstAddr
  rw [value]
  have holds := hits.holds_parsed usableKey.2
  rw [run_eq] at holds ⊢
  have paired := PrototypePairing.paired_run sameHash usable
  have learned :
      (PrototypePairing.run switch.program (packets arrivals)).lastLearned
          (parse packet.header).key =
        some
          ((PrototypePairing.run switch.program
            (packets arrivals)).registers.vals
              (index switch.program packet.header)) := by
    have ofSlot :=
      paired.learned (switch.program.dstIndexHash (parse packet.header).key)
        (by rw [holds.1]; exact usableKey.2)
    rw [holds.1, holds.2.1] at ofSlot
    exact ofSlot
  obtain ⟨before, packet', later, last⟩ :=
    exists_lastToStore switch.program learned
  refine ⟨before, packet', later, last, ?_⟩
  have carried := taught_arrives switch.program packet'.header
  rw [last.pair] at carried
  exact carried

/-- A packet whose tag maps container 3 to host 17. -/
def taggedHeader : HeaderT :=
  { plainHeader 16 18 with
    switchv2p := ⟨evictionTagType, 0, 3, 17⟩ }

/-- One frame teaches a core, another one is cut short and rejected. -/
def coreArrivals : List Arrival :=
  [⟨taggedHeader.emit ++ [], 100, 0⟩, ⟨[true, false], 100, 0⟩]

theorem packets_coreArrivals :
    packets coreArrivals =
      [{ header := taggedHeader.addresses
         rand := 100
         globalTstamp := 0 }] := by
  have first :
      ingressParser (taggedHeader.emit ++ []) =
        some ⟨taggedHeader, parse taggedHeader.addresses, []⟩ :=
    ingressParser_emit ⟨rfl, rfl, rfl⟩ []
  have second : ingressParser [true, false] = none :=
    rfl
  simp only [packets, coreArrivals, List.filterMap_cons, first, second,
    Option.map_some, Option.map_none, List.filterMap_nil]
  rfl

/-- What the core then does with a packet for container 3. -/
def coreOutcome : Outcome :=
  ingress (plainSwitch .core 5).program
    (run (plainSwitch .core 5) coreArrivals)
    ⟨(plainHeader 16 9).addresses, 100, 0⟩

theorem redirected_to_last_core :
    ∃ departure arrived,
      (receive (plainSwitch .core 5)
            (run (plainSwitch .core 5) coreArrivals)
            ⟨(plainHeader 16 9).emit ++ [], 100, 0⟩).forwarded =
          some departure ∧
        ingressParser departure.frame = some arrived ∧
        arrived.header.ipv4Outter.dstAddr = 17 ∧
        ∃ before packet later,
          LastToStore (plainSwitch .core 5).program
              (packets coreArrivals) before packet later
              (parse (plainHeader 16 9).addresses).key
              arrived.header.ipv4Outter.dstAddr ∧
            PrototypePairing.Carries packet.header
              (parse (plainHeader 16 9).addresses).key
              arrived.header.ipv4Outter.dstAddr := by
  have accepted := accepted_plainHeader 16 9
  have parses := ingressParser_emit accepted []
  obtain ⟨departure, forwarded, isFrame⟩ :
      ∃ departure,
        (receive (plainSwitch .core 5)
            (run (plainSwitch .core 5) coreArrivals)
            ⟨(plainHeader 16 9).emit ++ [], 100, 0⟩).forwarded =
          some departure ∧
        departure.frame =
          (passed (plainHeader 16 9) coreOutcome.header).emit ++ [] :=
    ⟨_, forwarded_receive parses (plainSwitch .core 5) _ 100 0, rfl⟩
  have sent :=
    ingressParser_emit (accepted.passed coreOutcome.header) []
  rw [← isFrame] at sent
  have found :
      (passed (plainHeader 16 9) coreOutcome.header).ipv4Outter.dstAddr =
        17 := by
    rw [dstAddr_passed, coreOutcome, run_eq, packets_coreArrivals]
    decide
  refine ⟨departure, _, forwarded, sent, found, ?_⟩
  refine
    redirected_to_last rfl ?_ parses (by decide) forwarded sent ?_
  · rw [packets_coreArrivals]
    decide
  · have differs : (17 : Ipv4Address) ≠ 9 := by
      decide
    exact fun same => differs (found.symm.trans same)

end SwitchV2P.PrototypeWire
