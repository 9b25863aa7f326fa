import SwitchV2P.Routing

namespace SwitchV2P.SimulationBase

/-!
# What the routing tables hold

Each table is described by the forms of its routes, with nodes given by pod and
offset instead of by loop counters.
-/

open DottedQuad RangeLoops

variable {sim : SimulationBase}

/-! ## Matching -/

section Matching

variable {pod offset interface a b c d : Nat}

theorem nodeRoute_isMatch :
    (nodeRoute pod offset interface).isMatch (ofOctets a b c d) = true ↔
      a % 256 = (pod + 1) % 256 ∧ b % 256 = offset % 256 := by
  rw [Route.isMatch, nodeRoute, IpUtils.getNodePhysicalAddress_octets]
  exact samePrefix_16_ofOctets

theorem leafRoute_isMatch :
    (sim.leafRoute pod offset interface).isMatch (ofOctets a b c d) =
        true ↔
      a % 256 = (sim.podCount + pod + 1) % 256 ∧ b % 256 = 0 ∧
        c % 256 = offset % 256 := by
  rw [Route.isMatch, leafRoute, IpUtils.getLeafAddress_octets]
  exact samePrefix_24_ofOctets

theorem spineRoute_isMatch :
    (sim.spineRoute pod offset interface).isMatch (ofOctets a b c d) =
        true ↔
      a % 256 = (2 * sim.podCount + pod + 1) % 256 ∧
        b % 256 = offset % 256 ∧ c % 256 = 0 := by
  rw [Route.isMatch, spineRoute, IpUtils.getSpineFromLeafAddress_octets]
  exact samePrefix_24_ofOctets

theorem coreRoute_isMatch
    {core : Nat} :
    (coreRoute core interface).isMatch (ofOctets a b c d) = true ↔
      a % 256 = 255 ∧ b % 256 = core % 256 ∧ c % 256 = 0 := by
  rw [Route.isMatch, coreRoute, IpUtils.getCoreAddress_octets]
  exact samePrefix_24_ofOctets

end Matching

/-! ## The forms of routes -/

/-- The routes of the leaf at an offset of a pod. -/
inductive LeafTable (sim : SimulationBase) (pod offset : Nat) :
    Route → Prop where
  | node
      {pod' offset' k : Nat}
      (podSmall : pod' < sim.podCount)
      (inside : offset' < sim.podWidth)
      (different : ¬ (offset' = offset ∧ pod' = pod))
      (small : k < sim.podWidth) :
      LeafTable sim pod offset
        (nodeRoute pod' offset'
          (sim.hostCount (pod * sim.podWidth + offset) + 1 + k))
  | leaf
      {pod' offset' k : Nat}
      (podSmall : pod' < sim.podCount)
      (inside : offset' < sim.podWidth)
      (different : ¬ (offset' = offset ∧ pod' = pod))
      (small : k < sim.podWidth) :
      LeafTable sim pod offset
        (sim.leafRoute pod' offset'
          (sim.hostCount (pod * sim.podWidth + offset) + 1 + k))
  | nearSpine
      {offset' : Nat}
      (inside : offset' < sim.podWidth) :
      LeafTable sim pod offset
        (sim.spineRoute pod offset'
          (sim.hostCount (pod * sim.podWidth + offset) + 1 + offset'))
  | farSpine
      {pod' offset' k : Nat}
      (podSmall : pod' < sim.podCount)
      (inside : offset' < sim.podWidth)
      (different : pod' ≠ pod)
      (small : k < sim.podWidth) :
      LeafTable sim pod offset
        (sim.spineRoute pod' offset'
          (sim.hostCount (pod * sim.podWidth + offset) + 1 + k))
  | core
      {core : Nat}
      (present : core < sim.coreCount) :
      LeafTable sim pod offset
        (coreRoute core
          (sim.hostCount (pod * sim.podWidth + offset) + 1 +
            core / sim.coresPerSpine))

/-- The routes of the spine at an offset of a pod. -/
inductive SpineTable (sim : SimulationBase) (pod offset : Nat) :
    Route → Prop where
  | nearNode
      {offset' : Nat}
      (inside : offset' < sim.podWidth) :
      SpineTable sim pod offset (nodeRoute pod offset' (offset' + 1))
  | nearLeaf
      {offset' : Nat}
      (inside : offset' < sim.podWidth) :
      SpineTable sim pod offset (sim.leafRoute pod offset' (offset' + 1))
  | farNode
      {pod' offset' j : Nat}
      (podSmall : pod' < sim.podCount)
      (inside : offset' < sim.podWidth)
      (different : pod' ≠ pod)
      (small : j < sim.coresPerSpine) :
      SpineTable sim pod offset
        (nodeRoute pod' offset' (sim.podWidth + 1 + j))
  | farLeaf
      {pod' offset' j : Nat}
      (podSmall : pod' < sim.podCount)
      (inside : offset' < sim.podWidth)
      (different : pod' ≠ pod)
      (small : j < sim.coresPerSpine) :
      SpineTable sim pod offset
        (sim.leafRoute pod' offset' (sim.podWidth + 1 + j))
  | nearSpine
      {offset' j : Nat}
      (inside : offset' < sim.podWidth)
      (different : offset' ≠ offset)
      (small : j < sim.podWidth) :
      SpineTable sim pod offset (sim.spineRoute pod offset' (1 + j))
  | farSpine
      {pod' offset' j : Nat}
      (podSmall : pod' < sim.podCount)
      (inside : offset' < sim.podWidth)
      (different : pod' ≠ pod)
      (small : j < sim.coresPerSpine) :
      SpineTable sim pod offset
        (sim.spineRoute pod' offset' (sim.podWidth + 1 + j))
  | core
      {i : Nat}
      (small : i < sim.coresPerSpine) :
      SpineTable sim pod offset
        (coreRoute (offset * sim.coresPerSpine + i)
          (sim.podWidth + 1 + i))

/-- The routes of a core. -/
inductive CoreTable (sim : SimulationBase) : Route → Prop where
  | node
      {pod offset : Nat}
      (podSmall : pod < sim.podCount)
      (inside : offset < sim.podWidth) :
      CoreTable sim (nodeRoute pod offset (pod + 1))
  | spine
      {pod offset : Nat}
      (podSmall : pod < sim.podCount)
      (inside : offset < sim.podWidth) :
      CoreTable sim (sim.spineRoute pod offset (pod + 1))
  | leaf
      {pod offset : Nat}
      (podSmall : pod < sim.podCount)
      (inside : offset < sim.podWidth) :
      CoreTable sim (sim.leafRoute pod offset (1 + pod))

theorem Accepted.mem_leafRoutes_iff
    (accepted : sim.Accepted)
    {pod offset : Nat}
    (podSmall : pod < sim.podCount)
    (inside : offset < sim.podWidth)
    {route : Route} :
    route ∈ sim.leafRoutes (pod * sim.podWidth + offset) ↔
      LeafTable sim pod offset route := by
  simp only [leafRoutes, leafToLeafRoutes, leafToSpineRoutes,
    leafToCoreRoutes, block_div inside, block_mod inside,
    List.mem_append, List.mem_flatMap, List.mem_map, List.mem_range]
  constructor
  · rintro ((⟨j, present, member⟩ | ⟨j, present, member⟩) |
      ⟨core, present, rfl⟩)
    · obtain ⟨pod', podSmall', offset', inside', rfl⟩ :=
        accepted.exists_member present
      rw [block_div inside', block_mod inside'] at member
      split at member
      next => exact absurd member List.not_mem_nil
      next different =>
        obtain ⟨k, small, member⟩ := List.mem_flatMap.mp member
        rw [List.mem_range] at small
        simp only [List.mem_cons, List.not_mem_nil, or_false] at member
        rcases member with rfl | rfl
        · exact .node podSmall' inside' different small
        · exact .leaf podSmall' inside' different small
    · obtain ⟨pod', podSmall', offset', inside', rfl⟩ :=
        accepted.exists_member present
      rw [block_div inside', block_mod inside'] at member
      split at member
      next same =>
        rw [List.mem_singleton] at member
        subst member same
        exact .nearSpine inside'
      next different =>
        obtain ⟨k, small, rfl⟩ := List.mem_map.mp member
        rw [List.mem_range] at small
        exact .farSpine podSmall' inside' different small
    · exact .core present
  · intro form
    cases form with
    | @node pod' offset' k podSmall' inside' different small =>
        refine Or.inl (Or.inl ⟨pod' * sim.podWidth + offset',
          accepted.member_lt podSmall' inside', ?_⟩)
        rw [block_div inside', block_mod inside', if_neg different]
        exact
          List.mem_flatMap.mpr
            ⟨k, List.mem_range.mpr small, by simp⟩
    | @leaf pod' offset' k podSmall' inside' different small =>
        refine Or.inl (Or.inl ⟨pod' * sim.podWidth + offset',
          accepted.member_lt podSmall' inside', ?_⟩)
        rw [block_div inside', block_mod inside', if_neg different]
        exact
          List.mem_flatMap.mpr
            ⟨k, List.mem_range.mpr small, by simp⟩
    | @nearSpine offset' inside' =>
        refine Or.inl (Or.inr ⟨pod * sim.podWidth + offset',
          accepted.member_lt podSmall inside', ?_⟩)
        rw [block_div inside', block_mod inside', if_pos rfl]
        exact List.mem_singleton.mpr rfl
    | @farSpine pod' offset' k podSmall' inside' different small =>
        refine Or.inl (Or.inr ⟨pod' * sim.podWidth + offset',
          accepted.member_lt podSmall' inside', ?_⟩)
        rw [block_div inside', block_mod inside', if_neg different]
        exact List.mem_map.mpr ⟨k, List.mem_range.mpr small, rfl⟩
    | @core core present => exact Or.inr ⟨core, present, rfl⟩

theorem Accepted.mem_spineRoutes_iff
    (accepted : sim.Accepted)
    {pod offset : Nat}
    (podSmall : pod < sim.podCount)
    (inside : offset < sim.podWidth)
    {route : Route} :
    route ∈ sim.spineRoutes (pod * sim.podWidth + offset) ↔
      SpineTable sim pod offset route := by
  simp only [spineRoutes, spineToLeafRoutes, spineToSpineRoutes,
    spineToCoreRoutes, coreIdx, block_div inside, block_mod inside,
    List.mem_append, List.mem_flatMap, List.mem_map, List.mem_range]
  constructor
  · rintro ((⟨i, present, member⟩ | ⟨i, present, member⟩) |
      ⟨i, small, rfl⟩)
    · obtain ⟨pod', podSmall', offset', inside', rfl⟩ :=
        accepted.exists_member present
      rw [block_div inside', block_mod inside'] at member
      split at member
      next same =>
        subst same
        simp only [List.mem_cons, List.not_mem_nil, or_false] at member
        rcases member with rfl | rfl
        · exact .nearNode inside'
        · exact .nearLeaf inside'
      next different =>
        obtain ⟨j, small, member⟩ := List.mem_flatMap.mp member
        rw [List.mem_range] at small
        simp only [List.mem_cons, List.not_mem_nil, or_false] at member
        rcases member with rfl | rfl
        · exact .farNode podSmall' inside' (Ne.symm different) small
        · exact .farLeaf podSmall' inside' (Ne.symm different) small
    · obtain ⟨pod', podSmall', offset', inside', rfl⟩ :=
        accepted.exists_member present
      rw [block_div inside', block_mod inside'] at member
      split at member
      next => exact absurd member List.not_mem_nil
      next notSelf =>
        split at member
        next same =>
          subst same
          obtain ⟨j, small, rfl⟩ := List.mem_map.mp member
          rw [List.mem_range] at small
          exact
            .nearSpine inside' (fun equal => notSelf ⟨rfl, equal⟩) small
        next different =>
          obtain ⟨j, small, rfl⟩ := List.mem_map.mp member
          rw [List.mem_range] at small
          exact .farSpine podSmall' inside' (Ne.symm different) small
    · exact .core small
  · intro form
    cases form with
    | @nearNode offset' inside' =>
        refine Or.inl (Or.inl ⟨pod * sim.podWidth + offset',
          accepted.member_lt podSmall inside', ?_⟩)
        rw [block_div inside', block_mod inside', if_pos rfl]
        simp
    | @nearLeaf offset' inside' =>
        refine Or.inl (Or.inl ⟨pod * sim.podWidth + offset',
          accepted.member_lt podSmall inside', ?_⟩)
        rw [block_div inside', block_mod inside', if_pos rfl]
        simp
    | @farNode pod' offset' j podSmall' inside' different small =>
        refine Or.inl (Or.inl ⟨pod' * sim.podWidth + offset',
          accepted.member_lt podSmall' inside', ?_⟩)
        rw [block_div inside', block_mod inside',
          if_neg (Ne.symm different)]
        exact
          List.mem_flatMap.mpr
            ⟨j, List.mem_range.mpr small, by simp⟩
    | @farLeaf pod' offset' j podSmall' inside' different small =>
        refine Or.inl (Or.inl ⟨pod' * sim.podWidth + offset',
          accepted.member_lt podSmall' inside', ?_⟩)
        rw [block_div inside', block_mod inside',
          if_neg (Ne.symm different)]
        exact
          List.mem_flatMap.mpr
            ⟨j, List.mem_range.mpr small, by simp⟩
    | @nearSpine offset' j inside' different small =>
        refine Or.inl (Or.inr ⟨pod * sim.podWidth + offset',
          accepted.member_lt podSmall inside', ?_⟩)
        rw [block_div inside', block_mod inside',
          if_neg (fun same => different same.2), if_pos rfl]
        exact List.mem_map.mpr ⟨j, List.mem_range.mpr small, rfl⟩
    | @farSpine pod' offset' j podSmall' inside' different small =>
        refine Or.inl (Or.inr ⟨pod' * sim.podWidth + offset',
          accepted.member_lt podSmall' inside', ?_⟩)
        rw [block_div inside', block_mod inside',
          if_neg (fun same => different same.1),
          if_neg (Ne.symm different)]
        exact List.mem_map.mpr ⟨j, List.mem_range.mpr small, rfl⟩
    | @core i small => exact Or.inr ⟨i, small, rfl⟩

/-! ## The kinds of routes in each loop -/

theorem Accepted.exists_of_mem_leafToSpineRoutes
    (accepted : sim.Accepted)
    {leaf : Nat}
    {route : Route}
    (member : route ∈ sim.leafToSpineRoutes leaf) :
    ∃ pod < sim.podCount, ∃ offset interface,
      route = sim.spineRoute pod offset interface := by
  obtain ⟨spine, present, member⟩ := List.mem_flatMap.mp member
  have podSmall := accepted.pod_lt (List.mem_range.mp present)
  split at member
  next => exact ⟨_, podSmall, _, _, List.mem_singleton.mp member⟩
  next =>
    obtain ⟨k, _, rfl⟩ := List.mem_map.mp member
    exact ⟨_, podSmall, _, _, rfl⟩

theorem exists_of_mem_leafToCoreRoutes
    {leaf : Nat}
    {route : Route}
    (member : route ∈ sim.leafToCoreRoutes leaf) :
    ∃ core interface, route = coreRoute core interface := by
  obtain ⟨core, _, rfl⟩ := List.mem_map.mp member
  exact ⟨_, _, rfl⟩

theorem Accepted.exists_of_mem_spineToSpineRoutes
    (accepted : sim.Accepted)
    {spine : Nat}
    {route : Route}
    (member : route ∈ sim.spineToSpineRoutes spine) :
    ∃ pod < sim.podCount, ∃ offset interface,
      route = sim.spineRoute pod offset interface := by
  obtain ⟨other, present, member⟩ := List.mem_flatMap.mp member
  have podSmall := accepted.pod_lt (List.mem_range.mp present)
  dsimp only at member
  split at member
  next => exact absurd member List.not_mem_nil
  next =>
    split at member
    next =>
      obtain ⟨j, _, rfl⟩ := List.mem_map.mp member
      exact ⟨_, podSmall, _, _, rfl⟩
    next =>
      obtain ⟨j, _, rfl⟩ := List.mem_map.mp member
      exact ⟨_, podSmall, _, _, rfl⟩

theorem exists_of_mem_spineToCoreRoutes
    {spine : Nat}
    {route : Route}
    (member : route ∈ sim.spineToCoreRoutes spine) :
    ∃ core interface, route = coreRoute core interface := by
  obtain ⟨i, _, rfl⟩ := List.mem_map.mp member
  exact ⟨_, _, rfl⟩

/-! ## Cores -/

theorem Accepted.mem_coreRoutes_iff
    (accepted : sim.Accepted)
    {route : Route} :
    route ∈ sim.coreRoutes ↔ CoreTable sim route := by
  simp only [coreRoutes, coreToSpineRoutes, coreToLeafRoutes,
    List.mem_append, List.mem_flatMap, List.mem_map,
    List.mem_range, List.mem_cons, List.not_mem_nil, or_false]
  constructor
  · rintro (⟨pod, podSmall, offset, inside, rfl | rfl⟩ |
      ⟨leaf, present, rfl⟩)
    · exact .node podSmall inside
    · exact .spine podSmall inside
    · exact .leaf (accepted.pod_lt present) (accepted.offset_lt leaf)
  · intro form
    cases form with
    | @node pod offset podSmall inside =>
        exact Or.inl ⟨pod, podSmall, offset, inside, Or.inl rfl⟩
    | @spine pod offset podSmall inside =>
        exact Or.inl ⟨pod, podSmall, offset, inside, Or.inr rfl⟩
    | @leaf pod offset podSmall inside =>
        refine Or.inr ⟨pod * sim.podWidth + offset,
          accepted.member_lt podSmall inside, ?_⟩
        rw [block_div inside, block_mod inside]

end SwitchV2P.SimulationBase
