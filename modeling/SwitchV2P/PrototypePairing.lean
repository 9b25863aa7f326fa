import SwitchV2P.PrototypeSpec

namespace SwitchV2P.PrototypePairing

/-!
# Keys and values stay together

Key and value of a slot are in two registers that different actions write.  A
history records what each packet stores next to the registers; the key of a
slot and its value are always those of the last packet that stored something
there.
-/

open Prototype

/-- The registers, and what the packets so far have stored. -/
structure History where
  registers : Registers
  /-- The last packet that wrote a slot. -/
  lastWriter : Index → Option Header
  /-- The value that came with a key when it was last learned. -/
  lastLearned : Ipv4Address → Option Ipv4Address

def History.initial : History where
  registers := .initial
  lastWriter := fun _ => none
  lastLearned := fun _ => none

/-- One packet. -/
def receive
    (program : Program)
    (history : History)
    (packet : Ingress) :
    History :=
  let registers := (ingress program history.registers packet).registers
  if Stores program history.registers packet.header then
    { registers := registers
      lastWriter :=
        Function.update history.lastWriter (index program packet.header)
          (some packet.header)
      lastLearned :=
        Function.update history.lastLearned
          (taught program packet.header).1
          (some (taught program packet.header).2) }
  else
    { history with registers := registers }

/-- A sequence of packets, from the initial registers. -/
def run (program : Program) (packets : List Ingress) : History :=
  packets.foldl (receive program) .initial

/-- Neither of the keys that stand for an empty slot and a refused write. -/
def Usable (key : Ipv4Address) : Prop :=
  key ≠ 0 ∧ key ≠ 1

instance (key : Ipv4Address) : Decidable (Usable key) :=
  inferInstanceAs (Decidable (_ ∧ _))

/-- The packet's branch learns the key that comes with the packet. -/
def Teaches (program : Program) (header : Header) : Prop :=
  branch program header = .write ∨ branch program header = .gwTor ∨
    branch program header = .learn

instance (program : Program) (header : Header) :
    Decidable (Teaches program header) :=
  inferInstanceAs (Decidable (_ ∨ _ ∨ _))

/-- A key and a value that arrive together in a packet. -/
def Carries (header : Header) (key val : Ipv4Address) : Prop :=
  (key, val) = (header.ipv4Inner.srcAddr, header.ipv4Outter.srcAddr) ∨
    (key, val) = (header.ipv4Inner.dstAddr, header.ipv4Outter.dstAddr) ∨
    (key, val) = (header.switchv2p.key, header.switchv2p.val)

/-- Every occupied slot is that of its key, and has the value of the key. -/
structure Paired (program : Program) (history : History) : Prop where
  nonzero : ∀ i, (history.registers.keys i).key ≠ 0
  slot :
    ∀ i, (history.registers.keys i).key ≠ 1 →
      i = program.dstIndexHash (history.registers.keys i).key
  written :
    ∀ i, (history.registers.keys i).key ≠ 1 →
      (history.lastWriter i).map (taught program) =
        some ((history.registers.keys i).key, history.registers.vals i)
  learned :
    ∀ i, (history.registers.keys i).key ≠ 1 →
      history.lastLearned (history.registers.keys i).key =
        some (history.registers.vals i)

theorem paired_initial (program : Program) :
    Paired program .initial where
  nonzero := fun _ => (by decide : (1 : Ipv4Address) ≠ 0)
  slot := fun _ occupied => absurd rfl occupied
  written := fun _ occupied => absurd rfl occupied
  learned := fun _ occupied => absurd rfl occupied

variable
  {program : Program}
  {history : History}
  {packet : Ingress}

@[simp] theorem registers_receive :
    (receive program history packet).registers =
      (ingress program history.registers packet).registers := by
  unfold receive
  dsimp only
  split <;> rfl

/-- A slot has been filled from a packet, and the history says so. -/
structure Filled
    (program : Program)
    (history : History)
    (header : Header)
    (next : History) : Prop where
  own :
    (next.registers.keys (index program header)).key =
      (taught program header).1
  other :
    ∀ {i}, i ≠ index program header →
      (next.registers.keys i).key = (history.registers.keys i).key
  vals :
    next.registers.vals =
      Function.update history.registers.vals (index program header)
        (taught program header).2
  lastWriter :
    next.lastWriter =
      Function.update history.lastWriter (index program header)
        (some header)
  lastLearned :
    next.lastLearned =
      Function.update history.lastLearned (taught program header).1
        (some (taught program header).2)

/-- A packet that stores something fills its slot. -/
theorem filled_receive
    (nonzero :
      (history.registers.keys (index program packet.header)).key ≠ 0)
    (stores : Stores program history.registers packet.header) :
    Filled program history packet.header
      (receive program history packet) := by
  have key (i : Index) :
      ((receive program history packet).registers.keys i).key =
        if i = index program packet.header then
          (taught program packet.header).1
        else if branch program packet.header = .clear ∧
            i = index program packet.header ∧
            (history.registers.keys i).key =
              (taught program packet.header).1 then
          1
        else
          (history.registers.keys i).key := by
    rw [registers_receive, key_ingress nonzero]
    simp only [stores, true_and]
  constructor
  · rw [key, if_pos rfl]
  · intro i elsewhere
    rw [key i]
    simp [elsewhere]
  · rw [registers_receive, vals_ingress nonzero, if_pos stores]
  · rw [receive, if_pos stores]
  · rw [receive, if_pos stores]

/-- A filled slot is paired, and the others stay so. -/
theorem Paired.filled
    {next : History}
    {header : Header}
    (paired : Paired program history)
    (sameHash : program.srcIndexHash = program.dstIndexHash)
    (usable : Usable (taught program header).1)
    (filled : Filled program history header next) :
    Paired program next := by
  have slotOfKey :
      index program header =
        program.dstIndexHash (taught program header).1 :=
    index_eq sameHash
  constructor
  · intro i
    by_cases same : i = index program header
    · rw [same, filled.own]
      exact usable.1
    · rw [filled.other same]
      exact paired.nonzero i
  · intro i occupied
    by_cases same : i = index program header
    · rw [same, filled.own]
      exact slotOfKey
    · rw [filled.other same] at occupied ⊢
      exact paired.slot i occupied
  · intro i occupied
    by_cases same : i = index program header
    · rw [same, filled.own, filled.lastWriter, filled.vals]
      simp
    · rw [filled.other same] at occupied ⊢
      rw [filled.lastWriter, filled.vals, Function.update_of_ne same,
        Function.update_of_ne same]
      exact paired.written i occupied
  · intro i occupied
    by_cases same : i = index program header
    · rw [same, filled.own, filled.lastLearned, filled.vals]
      simp
    · rw [filled.other same] at occupied ⊢
      -- Another slot holds another key.
      have otherKey :
          (history.registers.keys i).key ≠ (taught program header).1 := by
        intro sameKey
        apply same
        rw [paired.slot i occupied, sameKey, slotOfKey]
      rw [filled.lastLearned, filled.vals,
        Function.update_of_ne otherKey, Function.update_of_ne same]
      exact paired.learned i occupied

/-- Any other packet clears a slot or leaves keys and values as they are. -/
theorem Paired.receive_keeps
    (paired : Paired program history)
    (keeps : ¬ Stores program history.registers packet.header) :
    Paired program (receive program history packet) := by
  have nonzero := paired.nonzero (index program packet.header)
  have key (i : Index) :
      ((receive program history packet).registers.keys i).key =
          (history.registers.keys i).key ∨
        ((receive program history packet).registers.keys i).key = 1 := by
    rw [registers_receive, key_ingress nonzero, if_neg (by simp [keeps])]
    split
    next => exact Or.inr rfl
    next => exact Or.inl rfl
  have vals :
      (receive program history packet).registers.vals =
        history.registers.vals := by
    rw [registers_receive, vals_ingress nonzero, if_neg keeps]
  have lastWriter :
      (receive program history packet).lastWriter =
        history.lastWriter := by
    rw [receive, if_neg keeps]
  have lastLearned :
      (receive program history packet).lastLearned =
        history.lastLearned := by
    rw [receive, if_neg keeps]
  have kept {i : Index}
      (occupied :
        ((receive program history packet).registers.keys i).key ≠ 1) :
      ((receive program history packet).registers.keys i).key =
        (history.registers.keys i).key :=
    (key i).resolve_right occupied
  constructor
  · intro i
    rcases key i with same | cleared
    · rw [same]
      exact paired.nonzero i
    · rw [cleared]
      decide
  · intro i occupied
    have same := kept occupied
    rw [same] at occupied ⊢
    exact paired.slot i occupied
  · intro i occupied
    have same := kept occupied
    rw [same] at occupied ⊢
    rw [lastWriter, vals]
    exact paired.written i occupied
  · intro i occupied
    have same := kept occupied
    rw [same] at occupied ⊢
    rw [lastLearned, vals]
    exact paired.learned i occupied

/-- The step lemma. -/
theorem Paired.receive
    (paired : Paired program history)
    (sameHash : program.srcIndexHash = program.dstIndexHash)
    (usable :
      Teaches program packet.header →
        Usable (taught program packet.header).1) :
    Paired program (receive program history packet) := by
  by_cases stores : Stores program history.registers packet.header
  · have teaches : Teaches program packet.header := by
      rcases stores with write | gwTor | ⟨learn, _⟩
      · exact Or.inl write
      · exact Or.inr (Or.inl gwTor)
      · exact Or.inr (Or.inr learn)
    exact
      paired.filled sameHash (usable teaches)
        (filled_receive (paired.nonzero _) stores)
  · exact paired.receive_keeps stores

/-- The run lemma. -/
theorem paired_run
    (sameHash : program.srcIndexHash = program.dstIndexHash)
    {packets : List Ingress}
    (usable :
      ∀ packet ∈ packets, Teaches program packet.header →
        Usable (taught program packet.header).1) :
    Paired program (run program packets) := by
  induction packets using List.reverseRecOn with
  | nil => exact paired_initial program
  | append_singleton packets packet inductionHypothesis =>
      rw [run, List.foldl_append]
      refine
        (inductionHypothesis fun earlier member => ?_).receive sameHash
          (usable packet (by simp))
      exact usable earlier (by simp [member])

/-- An occupied slot has the key and the value that its last writer carried. -/
theorem Paired.lastWriter_carries
    (paired : Paired program history)
    {i : Index}
    (occupied : (history.registers.keys i).key ≠ 1) :
    ∃ header, history.lastWriter i = some header ∧
      taught program header =
        ((history.registers.keys i).key, history.registers.vals i) ∧
      Carries header (history.registers.keys i).key
        (history.registers.vals i) := by
  obtain ⟨header, writer, brought⟩ :=
    Option.map_eq_some_iff.mp (paired.written i occupied)
  refine ⟨header, writer, brought, ?_⟩
  have arrives := taught_arrives program header
  rw [brought] at arrives
  exact arrives

/-- What a successful lookup returns is what was last learned for the key. -/
theorem Paired.getVal_of_checkKey
    (paired : Paired program history)
    {idx : Index}
    {key : Ipv4Address}
    (usable : Usable key)
    (hit : (history.registers.checkKey idx key).1 = true) :
    history.lastLearned key =
      some ((history.registers.checkKey idx key).2.getVal idx) := by
  have holds := (Registers.checkKey_eq_true_iff _ _ _).mp hit
  have learned := paired.learned idx (by rw [holds]; exact usable.2)
  rw [holds] at learned
  rw [learned, Registers.getVal, Registers.vals_checkKey]

/--
In every reachable state, an occupied slot is that of its key, and its key and
value are the pair that the last packet to write the slot carried; and a lookup
that succeeds yields the value that was last learned.
-/
theorem neverTorn_run
    (sameHash : program.srcIndexHash = program.dstIndexHash)
    {packets : List Ingress}
    (usable :
      ∀ packet ∈ packets, Teaches program packet.header →
        Usable (taught program packet.header).1) :
    let history := run program packets
    (∀ i, (history.registers.keys i).key ≠ 1 →
      i = program.dstIndexHash (history.registers.keys i).key ∧
        ∃ header, history.lastWriter i = some header ∧
          taught program header =
            ((history.registers.keys i).key,
              history.registers.vals i) ∧
          Carries header (history.registers.keys i).key
            (history.registers.vals i)) ∧
      ∀ idx key, Usable key →
        (history.registers.checkKey idx key).1 = true →
          history.lastLearned key =
            some
              ((history.registers.checkKey idx key).2.getVal idx) := by
  intro history
  have paired : Paired program history := paired_run sameHash usable
  refine ⟨fun i occupied => ?_, fun idx key usableKey hit => ?_⟩
  · exact ⟨paired.slot i occupied, paired.lastWriter_carries occupied⟩
  · exact paired.getVal_of_checkKey usableKey hit

/-- A leaf with one gateway, address 9. -/
def leafProgram : Program where
  switchType := .tor
  switchId := 7
  matchGw := fun address => address = 9
  checkMisdelivered := fun _ => false
  learningMirrorSession := fun _ => 2
  invalidationMirrorSession := fun _ => 1
  retransmitTimeout := 0
  dstIndexHash := fun key => BitVec.ofNat 13 key.toNat
  srcIndexHash := fun key => BitVec.ofNat 13 key.toNat

/-- A packet from container 2 at host 16 to container 3 at host 17. -/
def leafPacket (type : PacketType) (key val : Ipv4Address) : Ingress where
  header :=
    { ipv4Outter := { srcAddr := 16, dstAddr := 17 }
      ipv4Inner := { srcAddr := 2, dstAddr := 3 }
      switchv2p :=
        { type := type, switchId := 0, key := key, val := val } }
  rand := 0
  globalTstamp := 0

/-- The sender is learned, then replaced by what a learning packet brings. -/
theorem neverTorn_leafProgram :
    let history :=
      run leafProgram
        [leafPacket normalType 0 0, leafPacket learningType 2 18]
    (∀ i, (history.registers.keys i).key ≠ 1 →
      i = leafProgram.dstIndexHash (history.registers.keys i).key ∧
        ∃ header, history.lastWriter i = some header ∧
          taught leafProgram header =
            ((history.registers.keys i).key,
              history.registers.vals i) ∧
          Carries header (history.registers.keys i).key
            (history.registers.vals i)) ∧
      ∀ idx key, Usable key →
        (history.registers.checkKey idx key).1 = true →
          history.lastLearned key =
            some
              ((history.registers.checkKey idx key).2.getVal idx) :=
  neverTorn_run rfl (by simp only [List.forall_mem_cons]; decide)

end SwitchV2P.PrototypePairing
