import SwitchV2P.TopologySpec

namespace SwitchV2P.AddressPlan

/-!
# The address plan

Hosts, leaf links, spines and cores have blocks of their own in the first
octet.  While every number fits its octet, the octets of an address determine
its node.  The constructor bounds three times the number of pods by 255, which
keeps the blocks below that of the cores, but not below the loopback network,
and it bounds neither the width of a pod nor the number of cores.
-/

open DottedQuad RangeLoops SimulationBase

variable {sim : SimulationBase}

/-- A node owns an address: on an interface or as a switch. -/
def Owns (sim : SimulationBase) (node : Node) (address : Ipv4Address) :
    Prop :=
  (∃ interface ∈ sim.assignPhysicalIps,
      interface.owner = node ∧ interface.address = address) ∨
    (sim.HasNode node ∧ sim.nodeAddress node = address)

/-- The address is in 127.0.0.0/8. -/
def IsLoopback (address : Ipv4Address) : Prop :=
  firstOctet address = 127

/-- The address is in 224.0.0.0/4. -/
def IsMulticast (address : Ipv4Address) : Prop :=
  224 ≤ firstOctet address ∧ firstOctet address < 240

/-- No two nodes share an address, and no address is reserved. -/
structure Sound (sim : SimulationBase) : Prop where
  unique :
    ∀ {first second address}, Owns sim first address →
      Owns sim second address → first = second
  notLoopback :
    ∀ {node address}, Owns sim node address → ¬ IsLoopback address
  notMulticast :
    ∀ {node address}, Owns sim node address → ¬ IsMulticast address

/-- The sizes at which every number of the plan fits its octet. -/
structure Fits (sim : SimulationBase) : Prop where
  pods : sim.podCount ≤ 42
  cores : sim.coreCount ≤ 256
  width : sim.leafCount = 0 ∨ sim.podWidth ≤ 256

/-- Where there is a pod, its width fits an octet. -/
theorem Fits.width_le
    (accepted : sim.Accepted)
    (fits : Fits sim)
    {pod : Nat}
    (podSmall : pod < sim.podCount) :
    sim.podWidth ≤ 256 := by
  rcases fits.width with noLeaves | narrow
  · have full := accepted.leafCount_eq
    rw [noLeaves, eq_comm, Nat.mul_eq_zero] at full
    have wide := accepted.podWidth_pos
    omega
  · exact narrow

/-! ## The forms of an address -/

/-- The octets that the plan gives a node. -/
inductive Spells (sim : SimulationBase) :
    Node → Nat → Nat → Nat → Nat → Prop where
  | host
      {pod offset host : Nat}
      (podSmall : pod < sim.podCount)
      (inside : offset < sim.podWidth)
      (present : host < sim.hostCount (pod * sim.podWidth + offset)) :
      Spells sim (.host (pod * sim.podWidth + offset) host)
        (pod + 1) offset host 1
  | leafOfHost
      {pod offset host : Nat}
      (podSmall : pod < sim.podCount)
      (inside : offset < sim.podWidth)
      (present : host < sim.hostCount (pod * sim.podWidth + offset)) :
      Spells sim (.leaf (pod * sim.podWidth + offset))
        (pod + 1) offset host 2
  | spineOfLeaf
      {pod spine leaf : Nat}
      (podSmall : pod < sim.podCount)
      (spineInside : spine < sim.podWidth)
      (leafInside : leaf < sim.podWidth) :
      Spells sim (.spine (pod * sim.podWidth + spine))
        (sim.podCount + pod + 1) spine leaf 1
  | leafOfSpine
      {pod spine leaf : Nat}
      (podSmall : pod < sim.podCount)
      (spineInside : spine < sim.podWidth)
      (leafInside : leaf < sim.podWidth) :
      Spells sim (.leaf (pod * sim.podWidth + leaf))
        (sim.podCount + pod + 1) spine leaf 2
  | spine
      {pod spine : Nat}
      (podSmall : pod < sim.podCount)
      (inside : spine < sim.podWidth) :
      Spells sim (.spine (pod * sim.podWidth + spine))
        (2 * sim.podCount + pod + 1) spine 0 1
  | coreOfSpine
      {pod core : Nat}
      (podSmall : pod < sim.podCount)
      (present : core < sim.coreCount) :
      Spells sim (.core core) 255 core pod 1
  | spineOfCore
      {pod core : Nat}
      (podSmall : pod < sim.podCount)
      (present : core < sim.coreCount) :
      Spells sim
        (.spine (pod * sim.podWidth + core / sim.coresPerSpine))
        255 core pod 2
  | core
      {core : Nat}
      (present : core < sim.coreCount) :
      Spells sim (.core core) 255 core 0 1

/-- Every interface has an address of one of the forms. -/
theorem spells_of_interface
    (accepted : sim.Accepted)
    {interface : Interface}
    (member : interface ∈ sim.assignPhysicalIps) :
    ∃ a b c d, Spells sim interface.owner a b c d ∧
      interface.address = ofOctets a b c d := by
  rw [accepted.assignPhysicalIps_eq] at member
  simp only [List.mem_append, List.mem_flatMap, List.mem_range] at member
  rcases member with ⟨leaf, leafSmall, host, present, member⟩ |
    ⟨pod, podSmall, spine, spineInside,
      ⟨leaf, leafInside, member⟩ | ⟨core, coreSmall, member⟩⟩
  · obtain ⟨pod, podSmall, offset, inside, rfl⟩ :=
      accepted.exists_member leafSmall
    simp only [hostLink, List.mem_cons, List.not_mem_nil, or_false,
      block_div inside, block_mod inside] at member
    rcases member with rfl | rfl
    · exact ⟨_, _, _, _, .host podSmall inside present, rfl⟩
    · exact ⟨_, _, _, _, .leafOfHost podSmall inside present, rfl⟩
  · simp only [leafLink, List.mem_cons, List.not_mem_nil,
      or_false] at member
    rcases member with rfl | rfl
    · exact
        ⟨_, _, _, _, .spineOfLeaf podSmall spineInside leafInside, rfl⟩
    · exact
        ⟨_, _, _, _, .leafOfSpine podSmall spineInside leafInside, rfl⟩
  · have present := accepted.core_lt spineInside coreSmall
    simp only [coreLink, List.mem_cons, List.not_mem_nil,
      or_false] at member
    rcases member with rfl | rfl
    · exact ⟨_, _, _, _, .coreOfSpine podSmall present, rfl⟩
    · exact ⟨_, _, _, _, .spineOfCore podSmall present, rfl⟩

/-- Every node goes by an address of one of the forms. -/
theorem spells_nodeAddress
    (accepted : sim.Accepted)
    {node : Node}
    (present : sim.HasNode node) :
    ∃ a b c d, Spells sim node a b c d ∧
      sim.nodeAddress node = ofOctets a b c d := by
  cases node with
  | host leaf host =>
      obtain ⟨leafSmall, hostSmall⟩ := present
      obtain ⟨pod, podSmall, offset, inside, rfl⟩ :=
        accepted.exists_member leafSmall
      refine ⟨_, _, _, _, .host podSmall inside hostSmall, ?_⟩
      simp only [nodeAddress, hostAddress, block_div inside,
        block_mod inside, IpUtils.getNodePhysicalAddress_octets]
  | leaf leaf =>
      obtain ⟨pod, podSmall, offset, inside, rfl⟩ :=
        accepted.exists_member present
      refine
        ⟨_, _, _, _,
          .leafOfSpine podSmall accepted.podWidth_pos inside, ?_⟩
      simp only [nodeAddress, block_div inside, block_mod inside,
        IpUtils.getLeafAddress_octets]
  | spine spine =>
      obtain ⟨pod, podSmall, offset, inside, rfl⟩ :=
        accepted.exists_member present
      refine ⟨_, _, _, _, .spine podSmall inside, ?_⟩
      simp only [nodeAddress, block_div inside, block_mod inside,
        IpUtils.getSpineFromLeafAddress_octets]
  | core core =>
      exact
        ⟨_, _, _, _, .core present,
          IpUtils.getCoreAddress_octets 0 core⟩

theorem spells_of_owns
    (accepted : sim.Accepted)
    {node : Node}
    {address : Ipv4Address}
    (owns : Owns sim node address) :
    ∃ a b c d, Spells sim node a b c d ∧ address = ofOctets a b c d := by
  rcases owns with ⟨interface, member, rfl, rfl⟩ | ⟨present, rfl⟩
  · exact spells_of_interface accepted member
  · exact spells_nodeAddress accepted present

/-! ## Reading the node off its octets -/

/-- The node that the octets of an address name. -/
def ownerOf (sim : SimulationBase) (a b c d : Nat) : Node :=
  if a = 255 then
    if d = 1 then .core b
    else .spine (c * sim.podWidth + b / sim.coresPerSpine)
  else if a ≤ sim.podCount then
    if d = 1 then .host ((a - 1) * sim.podWidth + b) c
    else .leaf ((a - 1) * sim.podWidth + b)
  else if a ≤ 2 * sim.podCount then
    if d = 1 then
      .spine ((a - sim.podCount - 1) * sim.podWidth + b)
    else
      .leaf ((a - sim.podCount - 1) * sim.podWidth + c)
  else
    .spine ((a - 2 * sim.podCount - 1) * sim.podWidth + b)

/-- The octets of a form name its node, as long as the blocks are apart. -/
theorem Spells.ownerOf_eq
    (fits : Fits sim)
    {node : Node}
    {a b c d : Nat}
    (spells : Spells sim node a b c d) :
    ownerOf sim a b c d = node := by
  have pods := fits.pods
  cases spells with
  | host podSmall inside present =>
      rw [ownerOf, if_neg (by omega), if_pos (by omega), if_pos rfl,
        Nat.add_sub_cancel]
  | leafOfHost podSmall inside present =>
      rw [ownerOf, if_neg (by omega), if_pos (by omega),
        if_neg (by decide), Nat.add_sub_cancel]
  | @spineOfLeaf pod spine leaf podSmall spineInside leafInside =>
      have block : sim.podCount + pod + 1 - sim.podCount - 1 = pod := by
        omega
      rw [ownerOf, if_neg (by omega), if_neg (by omega),
        if_pos (by omega), if_pos rfl, block]
  | @leafOfSpine pod spine leaf podSmall spineInside leafInside =>
      have block : sim.podCount + pod + 1 - sim.podCount - 1 = pod := by
        omega
      rw [ownerOf, if_neg (by omega), if_neg (by omega),
        if_pos (by omega), if_neg (by decide), block]
  | @spine pod spine podSmall inside =>
      have block :
          2 * sim.podCount + pod + 1 - 2 * sim.podCount - 1 = pod := by
        omega
      rw [ownerOf, if_neg (by omega), if_neg (by omega),
        if_neg (by omega), block]
  | coreOfSpine podSmall present =>
      rw [ownerOf, if_pos rfl, if_pos rfl]
  | spineOfCore podSmall present =>
      rw [ownerOf, if_pos rfl, if_neg (by decide)]
  | core present =>
      rw [ownerOf, if_pos rfl, if_pos rfl]

/-- Every number of a form fits its octet. -/
theorem Spells.small
    (accepted : sim.Accepted)
    (fits : Fits sim)
    {node : Node}
    {a b c d : Nat}
    (spells : Spells sim node a b c d) :
    a < 256 ∧ b < 256 ∧ c < 256 ∧ d < 256 := by
  have pods := fits.pods
  have cores := fits.cores
  have hosts
      {pod offset host : Nat}
      (podSmall : pod < sim.podCount)
      (inside : offset < sim.podWidth)
      (present : host < sim.hostCount (pod * sim.podWidth + offset)) :
      host < 256 := by
    have count :=
      accepted.hostCount_le _ (accepted.member_lt podSmall inside)
    omega
  cases spells with
  | host podSmall inside present =>
      have narrow := fits.width_le accepted podSmall
      have few := hosts podSmall inside present
      omega
  | leafOfHost podSmall inside present =>
      have narrow := fits.width_le accepted podSmall
      have few := hosts podSmall inside present
      omega
  | spineOfLeaf podSmall spineInside leafInside =>
      have narrow := fits.width_le accepted podSmall
      omega
  | leafOfSpine podSmall spineInside leafInside =>
      have narrow := fits.width_le accepted podSmall
      omega
  | spine podSmall inside =>
      have narrow := fits.width_le accepted podSmall
      omega
  | coreOfSpine podSmall present => omega
  | spineOfCore podSmall present => omega
  | core present => omega

/-- The first octet of a form is below the loopback network or that of cores. -/
theorem Spells.firstOctet
    (fits : Fits sim)
    {node : Node}
    {a b c d : Nat}
    (spells : Spells sim node a b c d) :
    a ≤ 126 ∨ a = 255 := by
  have pods := fits.pods
  cases spells with
  | host podSmall _ _ => omega
  | leafOfHost podSmall _ _ => omega
  | spineOfLeaf podSmall _ _ => omega
  | leafOfSpine podSmall _ _ => omega
  | spine podSmall _ => omega
  | coreOfSpine _ _ => exact Or.inr rfl
  | spineOfCore _ _ => exact Or.inr rfl
  | core _ => exact Or.inr rfl

/-- A plan whose numbers fit their octets is sound. -/
theorem sound_of_fits
    (accepted : sim.Accepted)
    (fits : Fits sim) :
    Sound sim where
  unique := by
    intro first second address ownsFirst ownsSecond
    obtain ⟨a, b, c, d, spells, rfl⟩ := spells_of_owns accepted ownsFirst
    obtain ⟨a', b', c', d', spells', same⟩ :=
      spells_of_owns accepted ownsSecond
    have small := spells.small accepted fits
    have small' := spells'.small accepted fits
    rw [ofOctets_eq_iff] at same
    obtain ⟨rfl, rfl, rfl, rfl⟩ :
        a = a' ∧ b = b' ∧ c = c' ∧ d = d' := by
      omega
    rw [← spells.ownerOf_eq fits, ← spells'.ownerOf_eq fits]
  notLoopback := by
    intro node address owns loopback
    obtain ⟨a, b, c, d, spells, rfl⟩ := spells_of_owns accepted owns
    have bounds := spells.firstOctet fits
    rw [IsLoopback, firstOctet_ofOctets] at loopback
    omega
  notMulticast := by
    intro node address owns multicast
    obtain ⟨a, b, c, d, spells, rfl⟩ := spells_of_owns accepted owns
    have bounds := spells.firstOctet fits
    rw [IsMulticast, firstOctet_ofOctets] at multicast
    omega

/-! ## Where the plan breaks -/

/-- The address of a spine as a switch. -/
theorem owns_spine
    (accepted : sim.Accepted)
    {pod : Nat}
    (podSmall : pod < sim.podCount) :
    Owns sim (.spine (pod * sim.podWidth))
      (ofOctets (2 * sim.podCount + pod + 1) 0 0 1) := by
  have wide := accepted.podWidth_pos
  have present := accepted.member_lt podSmall wide
  have quotient := block_div wide pod
  have remainder := block_mod wide pod
  rw [Nat.add_zero] at present quotient remainder
  refine Or.inr ⟨present, ?_⟩
  rw [nodeAddress, quotient, remainder,
    IpUtils.getSpineFromLeafAddress_octets]

/-- The address of a spine on its first link. -/
theorem owns_spineLink
    (accepted : sim.Accepted)
    {pod : Nat}
    (podSmall : pod < sim.podCount) :
    Owns sim (.spine (pod * sim.podWidth))
      (ofOctets (sim.podCount + pod + 1) 0 0 1) := by
  have wide := accepted.podWidth_pos
  refine
    Or.inl
      ⟨{ owner := .spine (pod * sim.podWidth + 0)
         address := ofOctets (sim.podCount + pod + 1) 0 0 1
         peer := .leaf (pod * sim.podWidth + 0) }, ?_, rfl, rfl⟩
  rw [accepted.assignPhysicalIps_eq]
  simp only [List.mem_append, List.mem_flatMap, List.mem_range]
  exact
    Or.inr
      ⟨pod, podSmall, 0, wide, Or.inl ⟨0, wide, by simp [leafLink]⟩⟩

/-- From 43 pods on, some address is in the loopback network. -/
theorem pods_of_notLoopback
    (accepted : sim.Accepted)
    (notLoopback :
      ∀ {node address}, Owns sim node address → ¬ IsLoopback address) :
    sim.podCount ≤ 42 := by
  by_contra many
  have octetFits := accepted.octetFits
  by_cases links : 64 ≤ sim.podCount ∧ sim.podCount ≤ 84
  · refine notLoopback (owns_spineLink accepted
      (show 126 - sim.podCount < sim.podCount by omega)) ?_
    rw [IsLoopback, firstOctet_ofOctets]
    omega
  · by_cases wrapped : 84 < sim.podCount
    · -- The check wrapped around, and the pods run through all octets.
      have large : 256 ≤ sim.podCount := by
        by_contra few
        rw [Nat.mod_eq_of_lt (by omega)] at octetFits
        omega
      have small : (126 + 254 * sim.podCount) % 256 < sim.podCount :=
        lt_of_lt_of_le (Nat.mod_lt _ (by decide)) large
      refine notLoopback (owns_spine accepted small) ?_
      rw [IsLoopback, firstOctet_ofOctets]
      omega
    · refine notLoopback (owns_spine accepted
        (show 126 - 2 * sim.podCount < sim.podCount by omega)) ?_
      rw [IsLoopback, firstOctet_ofOctets]
      omega

/-- Core 256 has the address of core 0. -/
theorem cores_of_unique
    (unique :
      ∀ {first second address}, Owns sim first address →
        Owns sim second address → first = second) :
    sim.coreCount ≤ 256 := by
  by_contra many
  have first : Owns sim (.core 0) (ofOctets 255 0 0 1) :=
    Or.inr
      ⟨show 0 < sim.coreCount by omega,
        IpUtils.getCoreAddress_octets 0 0⟩
  have aliased : Owns sim (.core 256) (ofOctets 255 0 0 1) :=
    Or.inr
      ⟨show 256 < sim.coreCount by omega,
        IpUtils.getCoreAddress_octets 0 256⟩
  have same := unique first aliased
  simp at same

/-- Leaf 256 of a pod has the address of leaf 0. -/
theorem width_of_unique
    (accepted : sim.Accepted)
    (unique :
      ∀ {first second address}, Owns sim first address →
        Owns sim second address → first = second) :
    sim.leafCount = 0 ∨ sim.podWidth ≤ 256 := by
  by_contra wide
  rw [not_or] at wide
  obtain ⟨leaves, wide⟩ := wide
  have podSmall : 0 < sim.podCount := by
    have first := accepted.pod_lt (Nat.pos_of_ne_zero leaves)
    rwa [Nat.zero_div] at first
  have owns
      {offset : Nat}
      (inside : offset < sim.podWidth) :
      Owns sim (.leaf offset)
        (ofOctets (sim.podCount + 0 + 1) 0 offset 2) := by
    have present := accepted.member_lt podSmall inside
    rw [Nat.zero_mul, Nat.zero_add] at present
    refine Or.inr ⟨present, ?_⟩
    rw [nodeAddress, IpUtils.getLeafAddress_octets,
      Nat.div_eq_of_lt inside, Nat.mod_eq_of_lt inside]
  have aliased :
      ofOctets (sim.podCount + 0 + 1) 0 0 2 =
        ofOctets (sim.podCount + 0 + 1) 0 256 2 := by
    rw [ofOctets_eq_iff]
    exact ⟨rfl, rfl, rfl, rfl⟩
  have first := owns (show 0 < sim.podWidth by omega)
  rw [aliased] at first
  have same := unique first (owns (show 256 < sim.podWidth by omega))
  simp at same

/--
In an accepted topology the address plan is sound exactly when there are at
most 42 pods and 256 cores and no pod is wider than 256.
-/
theorem sound_iff_fits (accepted : sim.Accepted) :
    Sound sim ↔ Fits sim := by
  constructor
  · intro sound
    exact
      { pods := pods_of_notLoopback accepted sound.notLoopback
        cores := cores_of_unique sound.unique
        width := width_of_unique accepted sound.unique }
  · exact sound_of_fits accepted

/-- A fat tree of pods with one leaf and one host each, below one core. -/
def narrowPods (pods : Nat) : SimulationBase where
  simParameters :=
    { simMode := .switchV2P
      networkTopology := .fattree
      numOfPorts := 64
      numOfCore := 1
      podWidth := 1
      gatewayLeaves := []
      randomRouting := false
      gatewayPerFlowLoadBalancing := false
      udpMode := true }
  hostCounts := List.replicate pods 1
  gws := []

theorem podCount_narrowPods
    {pods : Nat}
    (few : pods ≤ 64) :
    (narrowPods pods).podCount = pods := by
  simp only [narrowPods, podCount, spineCount, leafCount, podWidth,
    List.length_replicate]
  rw [Nat.mod_eq_of_lt (by omega)]
  exact Nat.div_one pods

theorem accepted_narrowPods
    {pods : Nat}
    (few : pods ≤ 64) :
    (narrowPods pods).Accepted where
  podWidth_ne_zero := by simp [narrowPods, podWidth]
  ports := by simp [narrowPods]
  podWidth_le := by simp [narrowPods, podWidth]
  closLeaves := by simp [narrowPods]
  fullPods := by simp [narrowPods, podWidth, Nat.mod_one]
  coresDivide := by simp [narrowPods, podWidth, Nat.mod_one]
  podCount_le := by
    rw [podCount_narrowPods few]
    exact few
  octetFits := by
    rw [podCount_narrowPods few, Nat.mod_eq_of_lt (by omega)]
    omega
  hostCount_le := by
    intro leaf _
    simp only [narrowPods, hostCount, List.getD_eq_getElem?_getD,
      List.getElem?_replicate]
    split <;> decide

/-- With 42 pods every address is fine. -/
theorem sound_narrowPods : Sound (narrowPods 42) :=
  (sound_iff_fits (accepted_narrowPods (by decide))).mpr
    { pods := by decide +kernel
      cores := by decide
      width := Or.inr (by decide) }

/-- With 43 pods the spine of pod 40 is 127.0.0.1. -/
theorem loopback_narrowPods :
    ¬ ∀ sim : SimulationBase, sim.Accepted → Sound sim := by
  intro always
  have sound := always _ (accepted_narrowPods (show 43 ≤ 64 by decide))
  have spine :
      Owns (narrowPods 43) (.spine 40) (ofOctets 127 0 0 1) :=
    Or.inr ⟨by decide +kernel, by decide +kernel⟩
  exact sound.notLoopback spine (firstOctet_ofOctets 127 0 0 1)

end SwitchV2P.AddressPlan
