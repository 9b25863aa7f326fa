import SwitchV2P.Topology

namespace SwitchV2P.SimulationBase

/-!
# The interfaces of each node

In an accepted topology all pods are full, and the loops of `AssignPhysicalIps`
give each node a list of interfaces that is known in closed form: a leaf has
its hosts before the spines of its pod, a spine its leaves before its cores,
and a core the pods in order.
-/

open RangeLoops DottedQuad

variable {sim : SimulationBase}

/-! ## Sizes of an accepted topology -/

theorem Accepted.podWidth_pos (accepted : sim.Accepted) :
    0 < sim.podWidth :=
  Nat.pos_of_ne_zero accepted.podWidth_ne_zero

/-- All pods are full. -/
theorem Accepted.leafCount_eq (accepted : sim.Accepted) :
    sim.leafCount = sim.podCount * sim.podWidth := by
  have full : sim.leafCount % sim.podWidth = 0 := by
    cases topology : sim.simParameters.networkTopology with
    | fattree => exact accepted.fullPods topology
    | clos =>
        have oneWide : sim.podWidth = sim.leafCount := by
          simp [podWidth, topology]
        rw [oneWide, Nat.mod_self]
  have divided := Nat.div_add_mod sim.leafCount sim.podWidth
  rw [full, Nat.add_zero, Nat.mul_comm] at divided
  exact divided.symm

/-- The check on the pods only lets more of them pass if it wraps around. -/
theorem Accepted.podCount_gt_of_wrapped
    (accepted : sim.Accepted)
    (many : 84 < sim.podCount) :
    511 < sim.podCount := by
  have octetFits := accepted.octetFits
  by_contra few
  rw [Nat.mod_eq_of_lt (by omega)] at octetFits
  omega

/-- The cores are shared out evenly among the spines of a pod. -/
theorem Accepted.coreCount_eq (accepted : sim.Accepted) :
    sim.coreCount = sim.podWidth * sim.coresPerSpine := by
  have divided := Nat.div_add_mod sim.coreCount sim.podWidth
  rw [accepted.coresDivide, Nat.add_zero] at divided
  exact divided.symm

/-- A leaf or spine lies in one of the pods. -/
theorem Accepted.pod_lt
    (accepted : sim.Accepted)
    {id : Nat}
    (present : id < sim.leafCount) :
    id / sim.podWidth < sim.podCount := by
  rw [Nat.div_lt_iff_lt_mul accepted.podWidth_pos]
  rwa [accepted.leafCount_eq] at present

theorem Accepted.offset_lt
    (accepted : sim.Accepted)
    (id : Nat) :
    id % sim.podWidth < sim.podWidth :=
  Nat.mod_lt id accepted.podWidth_pos

/-- Every pod holds as many leaves and spines as it is wide. -/
theorem Accepted.member_lt
    (accepted : sim.Accepted)
    {pod offset : Nat}
    (podSmall : pod < sim.podCount)
    (inside : offset < sim.podWidth) :
    pod * sim.podWidth + offset < sim.leafCount := by
  rw [accepted.leafCount_eq]
  exact block_lt podSmall inside

/-- A leaf or spine, by its pod and its offset. -/
theorem Accepted.exists_member
    (accepted : sim.Accepted)
    {id : Nat}
    (present : id < sim.leafCount) :
    ∃ pod < sim.podCount, ∃ offset < sim.podWidth,
      id = pod * sim.podWidth + offset := by
  refine ⟨id / sim.podWidth, accepted.pod_lt present,
    id % sim.podWidth, accepted.offset_lt id, ?_⟩
  rw [Nat.mul_comm]
  exact (Nat.div_add_mod id sim.podWidth).symm

/-- A core above a spine of a pod is a core. -/
theorem Accepted.core_lt
    (accepted : sim.Accepted)
    {offset core : Nat}
    (inside : offset < sim.podWidth)
    (small : core < sim.coresPerSpine) :
    offset * sim.coresPerSpine + core < sim.coreCount := by
  rw [accepted.coreCount_eq]
  exact block_lt inside small

/-- A core lies above one spine of each pod. -/
theorem Accepted.spineOfCore_lt
    (accepted : sim.Accepted)
    {core : Nat}
    (present : core < sim.coreCount) :
    core / sim.coresPerSpine < sim.podWidth := by
  have above : 0 < sim.coresPerSpine := by
    by_contra none
    rw [accepted.coreCount_eq, Nat.eq_zero_of_not_pos none] at present
    omega
  rw [Nat.div_lt_iff_lt_mul above]
  rwa [accepted.coreCount_eq] at present

/-- Where there are cores, every spine has some. -/
theorem Accepted.coresPerSpine_pos
    (accepted : sim.Accepted)
    (some : 1 ≤ sim.coreCount) :
    0 < sim.coresPerSpine := by
  by_contra none
  rw [accepted.coreCount_eq, Nat.eq_zero_of_not_pos none] at some
  omega

/-! ## Addresses of single links -/

/-- Both ends of the link between a leaf and one of its hosts. -/
def hostLink (sim : SimulationBase) (leaf host : Nat) : List Interface :=
  [{ owner := .host leaf host
     address :=
       ofOctets (leaf / sim.podWidth + 1) (leaf % sim.podWidth) host 1
     peer := .leaf leaf },
    { owner := .leaf leaf
      address :=
        ofOctets (leaf / sim.podWidth + 1) (leaf % sim.podWidth) host 2
      peer := .host leaf host }]

/-- Both ends of the link between a spine and a leaf of a pod. -/
def leafLink
    (sim : SimulationBase)
    (pod spine leaf : Nat) :
    List Interface :=
  [{ owner := .spine (pod * sim.podWidth + spine)
     address := ofOctets (sim.podCount + pod + 1) spine leaf 1
     peer := .leaf (pod * sim.podWidth + leaf) },
    { owner := .leaf (pod * sim.podWidth + leaf)
      address := ofOctets (sim.podCount + pod + 1) spine leaf 2
      peer := .spine (pod * sim.podWidth + spine) }]

/-- Both ends of the link between a core and the spine below it in a pod. -/
def coreLink
    (sim : SimulationBase)
    (pod core : Nat) :
    List Interface :=
  [{ owner := .core core
     address := ofOctets 255 core pod 1
     peer :=
       .spine (pod * sim.podWidth + core / sim.coresPerSpine) },
    { owner :=
        .spine (pod * sim.podWidth + core / sim.coresPerSpine)
      address := ofOctets 255 core pod 2
      peer := .core core }]

theorem assign_ofOctets
    (a b c : Nat)
    (devices : Node × Node) :
    assign (ofOctets a b c 0) devices =
      [{ owner := devices.1
         address := ofOctets a b c 1
         peer := devices.2 },
        { owner := devices.2
          address := ofOctets a b c 2
          peer := devices.1 }] := by
  have first : ofOctets a b c 0 + 1 = ofOctets a b c 1 :=
    ofOctets_add a b c (d := 0) (e := 1) (by decide)
  have second : ofOctets a b c 0 + 2 = ofOctets a b c 2 :=
    ofOctets_add a b c (d := 0) (e := 2) (by decide)
  rw [assign, first, second]

theorem assignNodeToSw_eq :
    sim.assignNodeToSw =
      (List.range sim.leafCount).flatMap fun leaf =>
        (List.range (sim.hostCount leaf)).flatMap fun host =>
          sim.hostLink leaf host := by
  simp only [assignNodeToSw, IpUtils.getNodeBasePhysicalAddress,
    assign_ofOctets, nodeToSwDevice, hostLink]

theorem Accepted.assignSwToSw_eq
    (accepted : sim.Accepted)
    {pod spine : Nat}
    (podSmall : pod < sim.podCount)
    (inside : spine < sim.podWidth) :
    sim.assignSwToSw (pod * sim.podWidth + spine) =
      (List.range sim.podWidth).flatMap fun leaf =>
        sim.leafLink pod spine leaf := by
  have onePod (clos : sim.simParameters.networkTopology = .clos) :
      pod = 0 := by
    have oneWide : sim.podWidth = sim.leafCount := by
      simp [podWidth, clos]
    have one : sim.podCount = 1 := by
      rw [podCount, spineCount, ← oneWide,
        Nat.div_self accepted.podWidth_pos]
    omega
  have devices (leaf : Nat) :
      sim.swToSwDevice (pod * sim.podWidth + spine) leaf =
        (.spine (pod * sim.podWidth + spine),
          .leaf (pod * sim.podWidth + leaf)) := by
    cases topology : sim.simParameters.networkTopology with
    | fattree => simp [swToSwDevice, topology, block_div inside]
    | clos => simp [swToSwDevice, topology, onePod topology]
  have noBreak :
      (List.range sim.podWidth).takeWhile (fun leaf =>
          (pod * sim.podWidth + spine) / sim.podWidth * sim.podWidth +
            leaf < sim.leafCount) =
        List.range sim.podWidth := by
    refine takeWhile_range ?_
    intro leaf inPod
    rw [block_div inside, decide_eq_true_eq]
    exact accepted.member_lt podSmall inPod
  rw [assignSwToSw, noBreak]
  simp only [block_div inside, block_mod inside, devices,
    IpUtils.getSwitchBaseAddress, assign_ofOctets, leafLink]

theorem assignCoreToSpine_eq
    {pod spine : Nat}
    (inside : spine < sim.podWidth) :
    sim.assignCoreToSpine (pod * sim.podWidth + spine) =
      (List.range sim.coresPerSpine).flatMap fun core =>
        sim.coreLink pod (spine * sim.coresPerSpine + core) := by
  refine List.flatMap_congr ?_
  intro core member
  have small := List.mem_range.mp member
  simp only [coreToSpineDevice, coreIdx, block_div inside,
    block_mod inside, IpUtils.getCoreSwitchBaseAddress, assign_ofOctets,
    coreLink, block_div small]

/-- `AssignPhysicalIps`, pod by pod. -/
theorem Accepted.assignPhysicalIps_eq (accepted : sim.Accepted) :
    sim.assignPhysicalIps =
      ((List.range sim.leafCount).flatMap fun leaf =>
        (List.range (sim.hostCount leaf)).flatMap fun host =>
          sim.hostLink leaf host) ++
      (List.range sim.podCount).flatMap fun pod =>
        (List.range sim.podWidth).flatMap fun spine =>
          ((List.range sim.podWidth).flatMap fun leaf =>
            sim.leafLink pod spine leaf) ++
          (List.range sim.coresPerSpine).flatMap fun core =>
            sim.coreLink pod (spine * sim.coresPerSpine + core) := by
  rw [assignPhysicalIps, assignNodeToSw_eq]
  congr 1
  rw [spineCount, accepted.leafCount_eq, flatMap_range_mul]
  refine List.flatMap_congr ?_
  intro pod podMember
  refine List.flatMap_congr ?_
  intro spine spineMember
  have podSmall := List.mem_range.mp podMember
  have inside := List.mem_range.mp spineMember
  rw [accepted.assignSwToSw_eq podSmall inside,
    assignCoreToSpine_eq inside]

/-! ## Interfaces in numerical order -/

/-- The only interface of a host. -/
theorem Accepted.interfaces_host
    (accepted : sim.Accepted)
    {leaf host : Nat}
    (present : sim.HasNode (.host leaf host)) :
    sim.interfaces (.host leaf host) =
      [{ owner := .host leaf host
         address := sim.hostAddress leaf host
         peer := .leaf leaf }] := by
  rw [interfaces, accepted.assignPhysicalIps_eq, List.filter_append]
  have hosts :
      ((List.range sim.leafCount).flatMap fun i =>
          (List.range (sim.hostCount i)).flatMap fun j =>
            sim.hostLink i j).filter
          (fun interface => interface.owner = .host leaf host) =
        [{ owner := .host leaf host
           address := sim.hostAddress leaf host
           peer := .leaf leaf }] := by
    rw [List.filter_flatMap, flatMap_range_eq_single present.1,
      List.filter_flatMap, flatMap_range_eq_single present.2]
    · simp [hostLink, hostAddress, IpUtils.getNodePhysicalAddress_octets]
    · intro other _ different
      simp [hostLink, different]
    · intro other _ different
      simp [List.filter_flatMap, hostLink, different]
  have switches :
      ((List.range sim.podCount).flatMap fun pod =>
        (List.range sim.podWidth).flatMap fun spine =>
          ((List.range sim.podWidth).flatMap fun leaf =>
            sim.leafLink pod spine leaf) ++
          (List.range sim.coresPerSpine).flatMap fun core =>
            sim.coreLink pod (spine * sim.coresPerSpine + core)).filter
          (fun interface => interface.owner = .host leaf host) =
        [] := by
    simp [List.filter_flatMap, leafLink, coreLink]
  rw [hosts, switches, List.append_nil]

/-- A leaf has its hosts before the spines of its pod. -/
theorem Accepted.interfaces_leaf
    (accepted : sim.Accepted)
    {pod offset : Nat}
    (podSmall : pod < sim.podCount)
    (inside : offset < sim.podWidth) :
    let leaf := pod * sim.podWidth + offset
    sim.interfaces (.leaf leaf) =
      ((List.range (sim.hostCount leaf)).map fun host =>
        { owner := .leaf leaf
          address := ofOctets (pod + 1) offset host 2
          peer := .host leaf host }) ++
      (List.range sim.podWidth).map fun spine =>
        { owner := .leaf leaf
          address := ofOctets (sim.podCount + pod + 1) spine offset 2
          peer := .spine (pod * sim.podWidth + spine) } := by
  intro leaf
  rw [interfaces, accepted.assignPhysicalIps_eq, List.filter_append]
  congr 1
  · rw [List.filter_flatMap,
      flatMap_range_eq_single (accepted.member_lt podSmall inside),
      List.filter_flatMap]
    · refine flatMap_range_eq_map ?_
      intro host _
      simp [hostLink, leaf, block_div inside, block_mod inside]
    · intro other _ different
      have apart : ¬ other = leaf := different
      simp [List.filter_flatMap, hostLink, apart]
  · rw [List.filter_flatMap, flatMap_range_eq_single podSmall,
      List.filter_flatMap]
    · refine flatMap_range_eq_map ?_
      intro spine _
      rw [List.filter_append, List.filter_flatMap,
        flatMap_range_eq_single inside]
      · simp [leafLink, List.filter_flatMap, coreLink, leaf]
      · intro other inPod different
        have apart : ¬ pod * sim.podWidth + other = leaf := by
          rw [block_inj inPod inside]
          exact fun same => different same.2
        simp [leafLink, apart]
    · intro other _ different
      rw [List.filter_eq_nil_iff]
      simp only [List.mem_flatMap, List.mem_append, List.mem_range,
        leafLink, coreLink, List.mem_cons, List.not_mem_nil, or_false,
        decide_eq_true_eq]
      rintro interface ⟨spine, _, ⟨other', inPod, rfl | rfl⟩ |
        ⟨core, _, rfl | rfl⟩⟩
      · simp
      · simp only [Node.leaf.injEq]
        rw [block_inj inPod inside]
        exact fun same => different same.1
      · simp
      · simp

/-- A spine has the leaves of its pod before its cores. -/
theorem Accepted.interfaces_spine
    (accepted : sim.Accepted)
    {pod offset : Nat}
    (podSmall : pod < sim.podCount)
    (inside : offset < sim.podWidth) :
    let spine := pod * sim.podWidth + offset
    sim.interfaces (.spine spine) =
      ((List.range sim.podWidth).map fun leaf =>
        { owner := .spine spine
          address := ofOctets (sim.podCount + pod + 1) offset leaf 1
          peer := .leaf (pod * sim.podWidth + leaf) }) ++
      (List.range sim.coresPerSpine).map fun core =>
        { owner := .spine spine
          address :=
            ofOctets 255 (offset * sim.coresPerSpine + core) pod 2
          peer := .core (offset * sim.coresPerSpine + core) } := by
  intro spine
  rw [interfaces, accepted.assignPhysicalIps_eq, List.filter_append]
  have hosts :
      ((List.range sim.leafCount).flatMap fun i =>
          (List.range (sim.hostCount i)).flatMap fun j =>
            sim.hostLink i j).filter
          (fun interface => interface.owner = .spine spine) =
        [] := by
    simp [List.filter_flatMap, hostLink]
  rw [hosts, List.nil_append, List.filter_flatMap,
    flatMap_range_eq_single podSmall, List.filter_flatMap,
    flatMap_range_eq_single inside, List.filter_append]
  · congr 1
    · rw [List.filter_flatMap]
      refine flatMap_range_eq_map ?_
      intro leaf _
      simp [leafLink, spine]
    · rw [List.filter_flatMap]
      refine flatMap_range_eq_map ?_
      intro core small
      simp [coreLink, spine, block_div small]
  · intro other inPod different
    have elsewhere : ¬ pod * sim.podWidth + other = spine := by
      rw [block_inj inPod inside]
      exact fun same => different same.2
    rw [List.filter_append, List.filter_flatMap, List.filter_flatMap,
      flatMap_range_eq_nil, flatMap_range_eq_nil, List.append_nil]
    · intro core small
      simp [coreLink, block_div small, elsewhere]
    · intro leaf _
      simp [leafLink, elsewhere]
  · intro other _ different
    rw [List.filter_flatMap]
    refine flatMap_range_eq_nil ?_
    intro offset' inPod
    have elsewhere : ¬ other * sim.podWidth + offset' = spine := by
      rw [block_inj inPod inside]
      exact fun same => different same.1
    rw [List.filter_append, List.filter_flatMap, List.filter_flatMap,
      flatMap_range_eq_nil, flatMap_range_eq_nil, List.append_nil]
    · intro core small
      simp [coreLink, block_div small, elsewhere]
    · intro leaf _
      simp [leafLink, elsewhere]

/-- A core has the pods in order. -/
theorem Accepted.interfaces_core
    (accepted : sim.Accepted)
    {core : Nat}
    (present : core < sim.coreCount) :
    sim.interfaces (.core core) =
      (List.range sim.podCount).map fun pod =>
        { owner := .core core
          address := ofOctets 255 core pod 1
          peer :=
            .spine (pod * sim.podWidth + core / sim.coresPerSpine) } := by
  have above : 0 < sim.coresPerSpine := accepted.coresPerSpine_pos (by omega)
  have small : core % sim.coresPerSpine < sim.coresPerSpine :=
    Nat.mod_lt core above
  have rebuilt :
      core / sim.coresPerSpine * sim.coresPerSpine +
        core % sim.coresPerSpine = core :=
    Nat.div_add_mod' core sim.coresPerSpine
  rw [interfaces, accepted.assignPhysicalIps_eq, List.filter_append]
  have hosts :
      ((List.range sim.leafCount).flatMap fun i =>
          (List.range (sim.hostCount i)).flatMap fun j =>
            sim.hostLink i j).filter
          (fun interface => interface.owner = .core core) =
        [] := by
    simp [List.filter_flatMap, hostLink]
  rw [hosts, List.nil_append, List.filter_flatMap]
  refine flatMap_range_eq_map ?_
  intro pod _
  rw [List.filter_flatMap,
    flatMap_range_eq_single (accepted.spineOfCore_lt present),
    List.filter_append, List.filter_flatMap, List.filter_flatMap,
    flatMap_range_eq_nil, flatMap_range_eq_single small]
  · simp [coreLink, rebuilt]
  · intro other inBlock different
    have apart :
        ¬ core / sim.coresPerSpine * sim.coresPerSpine + other = core := by
      omega
    simp [coreLink, apart]
  · intro leaf _
    simp [leafLink]
  · intro spine _ different
    rw [List.filter_append, List.filter_flatMap, List.filter_flatMap,
      flatMap_range_eq_nil, flatMap_range_eq_nil, List.append_nil]
    · intro other inBlock
      have apart : ¬ spine * sim.coresPerSpine + other = core := by
        rw [← rebuilt, block_inj inBlock small]
        exact fun same => different same.1
      simp [coreLink, apart]
    · intro leaf _
      simp [leafLink]

/-! ## Where no address is allocated twice -/

section Assigns

variable {generator : Ipv4AddressGenerator}

theorem Assigns.interface_eq
    (assigns : sim.Assigns generator)
    (refuses : generator.RefusesDuplicates)
    {node node' : Node}
    {first second : Interface}
    (ofNode : first ∈ sim.interfaces node)
    (ofNode' : second ∈ sim.interfaces node')
    (same : first.address = second.address) :
    first = second := by
  obtain ⟨state, allocated⟩ := Option.isSome_iff_exists.mp assigns
  have different := Ipv4AddressGenerator.nodup_of_allocate refuses allocated
  exact
    List.inj_on_of_nodup_map different (List.mem_filter.mp ofNode).1
      (List.mem_filter.mp ofNode').1 same

/-- The leaves of a pod have octets of their own. -/
theorem Assigns.podWidth_le
    (assigns : sim.Assigns generator)
    (refuses : generator.RefusesDuplicates)
    (accepted : sim.Accepted)
    {pod : Nat}
    (podSmall : pod < sim.podCount) :
    sim.podWidth ≤ 256 := by
  by_contra wide
  have interfaces :=
    accepted.interfaces_spine podSmall accepted.podWidth_pos
  have link
      {leaf : Nat}
      (inside : leaf < sim.podWidth) :
      Interface.mk (.spine (pod * sim.podWidth + 0))
          (ofOctets (sim.podCount + pod + 1) 0 leaf 1)
          (.leaf (pod * sim.podWidth + leaf)) ∈
        sim.interfaces (.spine (pod * sim.podWidth + 0)) := by
    rw [interfaces, List.mem_append]
    exact Or.inl (List.mem_map.mpr ⟨leaf, List.mem_range.mpr inside, rfl⟩)
  have same :=
    assigns.interface_eq refuses (link accepted.podWidth_pos)
      (link (show 256 < sim.podWidth by omega))
      (ofOctets_eq_iff.mpr ⟨rfl, rfl, rfl, rfl⟩)
  have peer := Node.leaf.inj (Interface.mk.inj same).2.2
  omega

/-- The pods have octets of their own. -/
theorem Assigns.podCount_le
    (assigns : sim.Assigns generator)
    (refuses : generator.RefusesDuplicates)
    (accepted : sim.Accepted) :
    sim.podCount ≤ 84 := by
  have wide := accepted.podWidth_pos
  by_contra many
  have wrapped := accepted.podCount_gt_of_wrapped (Nat.lt_of_not_le many)
  have link
      {pod : Nat}
      (podSmall : pod < sim.podCount) :
      Interface.mk (.spine (pod * sim.podWidth + 0))
          (ofOctets (sim.podCount + pod + 1) 0 0 1)
          (.leaf (pod * sim.podWidth + 0)) ∈
        sim.interfaces (.spine (pod * sim.podWidth + 0)) := by
    rw [accepted.interfaces_spine podSmall wide, List.mem_append]
    exact Or.inl (List.mem_map.mpr ⟨0, List.mem_range.mpr wide, rfl⟩)
  have same :=
    assigns.interface_eq refuses
      (link (show 0 < sim.podCount by omega))
      (link (show 256 < sim.podCount by omega))
      (ofOctets_eq_iff.mpr ⟨by omega, rfl, rfl, rfl⟩)
  have owner := Node.spine.inj (Interface.mk.inj same).1
  omega

/-- The cores have octets of their own, if they have any link. -/
theorem Assigns.coreCount_le
    (assigns : sim.Assigns generator)
    (refuses : generator.RefusesDuplicates)
    (accepted : sim.Accepted)
    (some : 0 < sim.podCount) :
    sim.coreCount ≤ 256 := by
  by_contra many
  have link
      {core : Nat}
      (present : core < sim.coreCount) :
      Interface.mk (.core core) (ofOctets 255 core 0 1)
          (.spine (0 * sim.podWidth + core / sim.coresPerSpine)) ∈
        sim.interfaces (.core core) := by
    rw [accepted.interfaces_core present]
    exact List.mem_map.mpr ⟨0, List.mem_range.mpr some, rfl⟩
  have same :=
    assigns.interface_eq refuses
      (link (show 0 < sim.coreCount by omega))
      (link (show 256 < sim.coreCount by omega))
      (ofOctets_eq_iff.mpr ⟨rfl, rfl, rfl, rfl⟩)
  exact absurd (Node.core.inj (Interface.mk.inj same).1) (by decide)

end Assigns

end SwitchV2P.SimulationBase
