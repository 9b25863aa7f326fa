import SwitchV2P.PrototypeSpec
import Mathlib.Data.List.Infix

namespace SwitchV2P.PrototypeTimeout

/-!
# The rate limiter for invalidations

A leaf remembers for every switch from when on it may report to it again, in 32
bits, and compares that with 32 bits of the clock.  Here the clock goes on for
ever; a history records, next to the registers, when each switch was last
reported to.
-/

open Prototype

/-! ## Remainders in place of numbers -/

/-- Two numbers are in the same order as their remainders. -/
def ComparesAlike (size first second : Nat) : Prop :=
  first / size = second / size ∨
    (first / size < second / size ∧ first % size < second % size) ∨
    (second / size < first / size ∧ second % size ≤ first % size)

instance (size first second : Nat) :
    Decidable (ComparesAlike size first second) :=
  inferInstanceAs (Decidable (_ ∨ _ ∨ _))

/-- Comparing remainders decides the order in exactly these cases. -/
theorem mod_lt_mod_iff (size first second : Nat) :
    ((first % size < second % size) ↔ first < second) ↔
      ComparesAlike size first second := by
  have firstParts := Nat.div_add_mod first size
  have secondParts := Nat.div_add_mod second size
  unfold ComparesAlike
  rcases Nat.lt_trichotomy (first / size) (second / size) with
    before | same | after
  · have ordered : first < second := Nat.lt_of_div_lt_div before
    simp only [ordered, iff_true]
    omega
  · rw [same] at firstParts ⊢
    simp only [true_or, iff_true]
    omega
  · have ordered : second < first := Nat.lt_of_div_lt_div after
    have notBefore : ¬ first < second := Nat.lt_asymm ordered
    simp only [notBefore, iff_false, not_lt]
    omega

/-! ## The clock -/

/-- `global_tstamp[47:16]` counts these, and drops all but 32 bits. -/
def ticks (clock : Nat) : Nat :=
  clock / 2 ^ 16

/-- A packet that arrives when the clock has the given reading. -/
structure Arrival where
  header : Header
  rand : BitVec 10
  clock : Nat
  deriving Repr, DecidableEq

/-- What the pipeline sees of an arrival. -/
def Arrival.packet (arrival : Arrival) : Ingress where
  header := arrival.header
  rand := arrival.rand
  globalTstamp := BitVec.ofNat 48 arrival.clock

/-- The switch that a misdelivered packet names. -/
abbrev Arrival.reported (arrival : Arrival) : UInt8 :=
  arrival.header.switchv2p.switchId

/-- The packet comes to the rate limiter. -/
def Limited (program : Program) (header : Header) : Prop :=
  branch program header = .toGateway ∧ Misdelivered program header

instance (program : Program) (header : Header) :
    Decidable (Limited program header) :=
  inferInstanceAs (Decidable (_ ∧ _))

/-- The registers, and what the rate limiter has done for each switch. -/
structure History where
  registers : Registers
  /-- A packet that names the switch has come to the rate limiter. -/
  seen : UInt8 → Bool
  /-- The tick of the last packet that was let through. -/
  lastReport : UInt8 → Option Nat

def History.initial : History where
  registers := .initial
  seen := fun _ => false
  lastReport := fun _ => none

/-- The answer of `check_timeout` for a packet. -/
def reports
    (program : Program)
    (history : History)
    (arrival : Arrival) :
    Bool :=
  (history.registers.checkTimeout arrival.reported
    arrival.packet.globalTstamp program.retransmitTimeout).1

/-- One packet. -/
def receive
    (program : Program)
    (history : History)
    (arrival : Arrival) :
    History :=
  let registers :=
    (ingress program history.registers arrival.packet).registers
  if Limited program arrival.header then
    { registers := registers
      seen := Function.update history.seen arrival.reported true
      lastReport :=
        if reports program history arrival then
          Function.update history.lastReport arrival.reported
            (some (ticks arrival.clock))
        else
          history.lastReport }
  else
    { history with registers := registers }

/-- A sequence of packets, from the initial registers. -/
def run (program : Program) (arrivals : List Arrival) : History :=
  arrivals.foldl (receive program) .initial

/--
A report is due with the first packet, and when more than the timeout has
passed since the last report.
-/
def Due
    (program : Program)
    (history : History)
    (arrival : Arrival) :
    Prop :=
  history.seen arrival.reported = false ∨
    ∃ last, history.lastReport arrival.reported = some last ∧
      last + program.retransmitTimeout.toNat < ticks arrival.clock

/-- The clock has not wrapped in between, or not so that it shows. -/
def Unwrapped
    (program : Program)
    (history : History)
    (arrival : Arrival) :
    Prop :=
  match history.seen arrival.reported,
      history.lastReport arrival.reported with
  | false, _ => ticks arrival.clock % 2 ^ 32 ≠ 0
  | true, none => ticks arrival.clock % 2 ^ 32 = 0
  | true, some last =>
      ComparesAlike (2 ^ 32) (last + program.retransmitTimeout.toNat)
        (ticks arrival.clock)

/-! ## The register of one switch -/

/-- The register holds the remainder of the time from which on reports go. -/
structure Remembers (program : Program) (history : History) : Prop where
  fresh :
    ∀ id, history.lastReport id = none → history.registers.bf id = 0
  deadline :
    ∀ id last, history.lastReport id = some last →
      (history.registers.bf id).toNat =
        (last + program.retransmitTimeout.toNat) % 2 ^ 32
  unseen : ∀ id, history.seen id = false → history.lastReport id = none

theorem remembers_initial (program : Program) :
    Remembers program .initial where
  fresh := fun _ _ => rfl
  deadline := by
    intro id last reported
    exact absurd reported (Option.some_ne_none last).symm
  unseen := fun _ _ => rfl

variable
  {program : Program}
  {registers : Registers}
  {history : History}
  {arrival : Arrival}

/-- The 32 bits that the limiter reads. -/
theorem toNat_timestamp (clock : Nat) :
    ((BitVec.ofNat 48 clock).extractLsb' 16 32).toNat =
      ticks clock % 2 ^ 32 := by
  have window : 2 ^ 48 = 2 ^ 16 * 2 ^ 32 := rfl
  rw [BitVec.extractLsb'_toNat, BitVec.toNat_ofNat,
    Nat.shiftRight_eq_div_pow, window, Nat.mod_mul_right_div_self,
    Nat.mod_mod, ticks]

/-- `check_timeout` compares the register with the clock's remainder. -/
theorem reports_eq_true_iff :
    reports program history arrival = true ↔
      (history.registers.bf arrival.reported).toNat <
        ticks arrival.clock % 2 ^ 32 := by
  rw [← toNat_timestamp]
  unfold reports Registers.checkTimeout
  dsimp only
  split
  next later => simpa [Arrival.packet, BitVec.lt_def] using later
  next early => simpa [Arrival.packet, BitVec.lt_def] using early

/-- Only the rate limiter writes `bf`. -/
theorem bf_ingress_of_not_limited
    {packet : Ingress}
    (unlimited : ¬ Limited program packet.header) :
    (ingress program registers packet).registers.bf = registers.bf := by
  by_cases toGateway : branch program packet.header = .toGateway
  · have delivered : ¬ Misdelivered program packet.header :=
      fun misdelivered => unlimited ⟨toGateway, misdelivered⟩
    rw [registers_toGateway toGateway delivered]
    unfold Registers.checkKey
    split <;> rfl
  · rw [ingress_eq]
    cases taken : branch program packet.header with
    | toGateway => exact absurd taken toGateway
    | write => rfl
    | gwTor => rfl
    | pass => rfl
    | clear =>
        dsimp only
        unfold Registers.clearKey
        split <;> rfl
    | learn =>
        dsimp only
        unfold applyLearning Registers.setKeyIfNotActive
        split <;> dsimp only <;> split <;> rfl

/-- A report writes the register of the switch that it goes to. -/
theorem bf_ingress_of_limited
    (history : History)
    (limited : Limited program arrival.header) :
    (ingress program history.registers arrival.packet).registers.bf =
      if reports program history arrival then
        Function.update history.registers.bf arrival.reported
          (arrival.packet.globalTstamp.extractLsb' 16 32 +
            program.retransmitTimeout)
      else
        history.registers.bf := by
  have written :
      (ingress program history.registers arrival.packet).registers =
        (history.registers.checkTimeout arrival.reported
          arrival.packet.globalTstamp program.retransmitTimeout).2 :=
    (ingress_misdelivered limited.1 limited.2).1
  rw [written, Registers.bf_checkTimeout]
  rfl

/-! ## One packet -/

/-- A packet elsewhere leaves the limiter as it is. -/
theorem Remembers.receive_of_not_limited
    (remembers : Remembers program history)
    (unlimited : ¬ Limited program arrival.header) :
    Remembers program (receive program history arrival) := by
  have sameBf :
      (ingress program history.registers arrival.packet).registers.bf =
        history.registers.bf :=
    bf_ingress_of_not_limited unlimited
  rw [receive, if_neg unlimited]
  constructor
  · intro id never
    rw [sameBf]
    exact remembers.fresh id never
  · intro id last reported
    rw [sameBf]
    exact remembers.deadline id last reported
  · exact remembers.unseen

/-- A report moves the deadline of its switch, and no other. -/
theorem Remembers.receive_of_limited
    (remembers : Remembers program history)
    (limited : Limited program arrival.header) :
    Remembers program (receive program history arrival) := by
  have bf := bf_ingress_of_limited history limited
  rw [receive, if_pos limited]
  by_cases report : reports program history arrival = true
  · rw [if_pos report] at bf ⊢
    constructor
    · intro id never
      dsimp only at never ⊢
      by_cases same : id = arrival.reported
      · simp [same] at never
      · rw [Function.update_of_ne same] at never
        rw [bf, Function.update_of_ne same]
        exact remembers.fresh id never
    · intro id last reported
      dsimp only at reported ⊢
      by_cases same : id = arrival.reported
      · rw [same, Function.update_self] at reported
        rw [same, bf, Function.update_self, BitVec.toNat_add,
          Arrival.packet, toNat_timestamp, Nat.mod_add_mod,
          Option.some.inj reported]
      · rw [Function.update_of_ne same] at reported
        rw [bf, Function.update_of_ne same]
        exact remembers.deadline id last reported
    · intro id unseen
      dsimp only at unseen ⊢
      by_cases same : id = arrival.reported
      · simp [same] at unseen
      · rw [Function.update_of_ne same] at unseen ⊢
        exact remembers.unseen id unseen
  · rw [if_neg report] at bf ⊢
    constructor
    · intro id never
      rw [bf]
      exact remembers.fresh id never
    · intro id last reported
      rw [bf]
      exact remembers.deadline id last reported
    · intro id unseen
      dsimp only at unseen
      by_cases same : id = arrival.reported
      · simp [same] at unseen
      · rw [Function.update_of_ne same] at unseen
        exact remembers.unseen id unseen

/-- The run lemma. -/
theorem remembers_run (arrivals : List Arrival) :
    Remembers program (run program arrivals) := by
  induction arrivals using List.reverseRecOn with
  | nil => exact remembers_initial program
  | append_singleton arrivals arrival inductionHypothesis =>
      rw [run, List.foldl_append]
      by_cases limited : Limited program arrival.header
      · exact inductionHypothesis.receive_of_limited limited
      · exact inductionHypothesis.receive_of_not_limited limited

/-- The answer is right exactly when the clock has not wrapped visibly. -/
theorem Remembers.reports_iff_due_iff
    (remembers : Remembers program history) :
    (reports program history arrival = true ↔
        Due program history arrival) ↔
      Unwrapped program history arrival := by
  rw [reports_eq_true_iff]
  unfold Due Unwrapped
  cases seen : history.seen arrival.reported with
  | false =>
      have never := remembers.unseen _ seen
      have zero : (history.registers.bf arrival.reported).toNat = 0 := by
        rw [remembers.fresh _ never]
        rfl
      rw [zero]
      simp [Nat.pos_iff_ne_zero]
  | true =>
      cases report : history.lastReport arrival.reported with
      | none =>
          have zero :
              (history.registers.bf arrival.reported).toNat = 0 := by
            rw [remembers.fresh _ report]
            rfl
          rw [zero]
          simp
      | some last =>
          rw [remembers.deadline _ _ report]
          dsimp only
          rw [← mod_lt_mod_iff]
          simp

/-! ## All packets of a run -/

/--
In every run, `check_timeout` answers rightly for every packet exactly when the
clock has not wrapped visibly at any of them.
-/
theorem reports_iff_due_run
    (program : Program)
    (arrivals : List Arrival) :
    (∀ earlier arrival, earlier ++ [arrival] <+: arrivals →
        Limited program arrival.header →
          (reports program (run program earlier) arrival = true ↔
            Due program (run program earlier) arrival)) ↔
      ∀ earlier arrival, earlier ++ [arrival] <+: arrivals →
        Limited program arrival.header →
          Unwrapped program (run program earlier) arrival := by
  constructor
  · intro right earlier arrival initial limited
    exact
      (remembers_run earlier).reports_iff_due_iff.mp
        (right earlier arrival initial limited)
  · intro unwrapped earlier arrival initial limited
    exact
      (remembers_run earlier).reports_iff_due_iff.mpr
        (unwrapped earlier arrival initial limited)

/-! ## A clock that wraps -/

/-- A leaf with one gateway, address 9, and one host, address 16. -/
def leafProgram (retransmitTimeout : Timestamp) : Program where
  switchType := .tor
  switchId := 7
  matchGw := fun address => address = 9
  checkMisdelivered := fun address => address = 16
  learningMirrorSession := fun _ => 2
  invalidationMirrorSession := fun _ => 1
  retransmitTimeout := retransmitTimeout
  dstIndexHash := fun key => BitVec.ofNat 13 key.toNat
  srcIndexHash := fun key => BitVec.ofNat 13 key.toNat

/-- The host sends back a packet that switch 3 sent there, at the given tick. -/
def misdelivered (tick : Nat) : Arrival where
  header :=
    { ipv4Outter := { srcAddr := 16, dstAddr := 9 }
      ipv4Inner := { srcAddr := 2, dstAddr := 3 }
      switchv2p :=
        { type := normalType, switchId := 3, key := 0, val := 0 } }
  rand := 0
  clock := tick * 2 ^ 16

/--
With a timeout of ten ticks, a second report follows after one tick, and with
no timeout at all a second one is still missing after eleven.
-/
theorem not_due_leafProgram :
    (Limited (leafProgram 10) (misdelivered (2 ^ 32 - 4)).header ∧
      reports (leafProgram 10)
          (run (leafProgram 10) [misdelivered (2 ^ 32 - 5)])
          (misdelivered (2 ^ 32 - 4)) =
        true ∧
      ¬ Due (leafProgram 10)
        (run (leafProgram 10) [misdelivered (2 ^ 32 - 5)])
        (misdelivered (2 ^ 32 - 4))) ∧
      (Limited (leafProgram 0) (misdelivered (2 ^ 32 + 10)).header ∧
        reports (leafProgram 0)
            (run (leafProgram 0) [misdelivered (2 ^ 32 - 1)])
            (misdelivered (2 ^ 32 + 10)) =
          false ∧
        Due (leafProgram 0)
          (run (leafProgram 0) [misdelivered (2 ^ 32 - 1)])
          (misdelivered (2 ^ 32 + 10))) := by
  refine ⟨⟨by decide, by decide, ?_⟩, by decide, by decide, ?_⟩
  · rintro (unseen | ⟨last, reported, later⟩)
    · exact absurd unseen (by decide)
    · have recent :
          (run (leafProgram 10) [misdelivered (2 ^ 32 - 5)]).lastReport 3 =
            some (2 ^ 32 - 5) := by
        decide
      rw [show (misdelivered (2 ^ 32 - 4)).reported = 3 from rfl,
        recent] at reported
      rw [← Option.some.inj reported] at later
      exact absurd later (by decide)
  · exact Or.inr ⟨2 ^ 32 - 1, by decide, by decide⟩

end SwitchV2P.PrototypeTimeout
