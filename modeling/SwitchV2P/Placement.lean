import Mathlib.Data.List.Basic
import SwitchV2P.SimulationBase
import SwitchV2P.SortedRuns

namespace SwitchV2P

open SortedRuns

/-!
# The placement of containers

`ParsePlacement` deals the servers of the placement file to the leaves and adds
the gateways.  One cursor runs over the servers and one over `GatewayLeaves`; a
third looks for the end of the current run of equal leaf numbers.

What an access finds is a parameter.  `checked` knows only what is in the
vector; an access beyond its end is undefined and yields no result.
`followedBy` also knows the number that happens to be stored behind the vector.
-/

namespace Placement

/-- The cursors of `ParsePlacement`, and the placement so far. -/
structure Progress where
  gwLeavesIdx : Nat
  nodesIdx : Nat
  placement : ContainerGroups
  deriving Repr, DecidableEq

/-- `GatewayLeaves[idx]` within the vector. -/
def checked (gatewayLeaves : List Nat) (idx : Nat) : Option Nat :=
  gatewayLeaves[idx]?

/-- `GatewayLeaves[idx]`, with the number that is stored behind the vector. -/
def followedBy
    (gatewayLeaves : List Nat)
    (behind : Nat)
    (idx : Nat) :
    Option Nat :=
  (gatewayLeaves ++ [behind])[idx]?

/--
`while (GatewayLeaves[gwIdx++] == leaf)`: the value of `gwIdx` after the loop.
The loop is followed for `rounds` rounds.
-/
def skipLeaf
    (read : Nat → Option Nat)
    (leaf : Nat) :
    Nat → Nat → Option Nat
  | 0, _ => none
  | rounds + 1, gwIdx =>
      match read gwIdx with
      | some entry =>
          if entry = leaf then
            skipLeaf read leaf rounds (gwIdx + 1)
          else
            some (gwIdx + 1)
      | none => none

/-- `gwCount` of a leaf. -/
def countGateways
    (read : Nat → Option Nat)
    (gatewayLeaves : List Nat)
    (leaf gwLeavesIdx : Nat) :
    Option Nat :=
  if gwLeavesIdx < gatewayLeaves.length then
    match read gwLeavesIdx with
    | some entry =>
        if entry = leaf then
          (skipLeaf read leaf (gatewayLeaves.length + 1) gwLeavesIdx).map
            fun gwIdx => gwIdx - gwLeavesIdx - 1
        else
          some 0
    | none => none
  else
    some 0

/-- `serversInLeaf`. -/
def serversInLeaf (serverCount nodesPerLeaf nodesIdx : Nat) : Nat :=
  if nodesIdx + nodesPerLeaf ≥ serverCount then
    serverCount - nodesIdx
  else
    nodesPerLeaf

/-- The node of a gateway. -/
def gatewayNode (gateway : Nat) : List String :=
  ["Gateway" ++ toString gateway]

/-- The body of the loop over the leaves. -/
def deployLeaf
    (read : Nat → Option Nat)
    (servers : List (List String))
    (gatewayLeaves : List Nat)
    (nodesPerLeaf : Nat)
    (progress : Progress)
    (leaf : Nat) :
    Option Progress :=
  match countGateways read gatewayLeaves leaf progress.gwLeavesIdx with
  | some gwCount =>
      let count :=
        serversInLeaf servers.length nodesPerLeaf progress.nodesIdx
      let nodes :=
        (List.range count).mapM fun j => servers[progress.nodesIdx + j]?
      nodes.map fun nodes =>
        { gwLeavesIdx := progress.gwLeavesIdx + gwCount
          nodesIdx := progress.nodesIdx + count
          placement :=
            progress.placement ++
              [nodes ++
                (List.range gwCount).map fun j =>
                  gatewayNode (progress.gwLeavesIdx + j)] }
  | none => none

/-- `totalLeaves`. -/
def totalLeaves (servers : List (List String)) (nodesPerLeaf : Nat) : Nat :=
  servers.length / nodesPerLeaf

/-- The loop of `ParsePlacement` over the first leaves. -/
def deployLeaves
    (read : Nat → Option Nat)
    (servers : List (List String))
    (gatewayLeaves : List Nat)
    (nodesPerLeaf leafCount : Nat) :
    Option Progress :=
  (List.range leafCount).foldlM
    (deployLeaf read servers gatewayLeaves nodesPerLeaf)
    { gwLeavesIdx := 0
      nodesIdx := 0
      placement := [] }

/-- `ParsePlacement`, without the file. -/
def parsePlacement
    (read : Nat → Option Nat)
    (servers : List (List String))
    (gatewayLeaves : List Nat)
    (numOfPorts : Nat) :
    Option Progress :=
  deployLeaves read servers gatewayLeaves (numOfPorts / 2)
    (totalLeaves servers (numOfPorts / 2))

/-! ## One leaf -/

/-- The servers of a leaf. -/
def serversOf
    (servers : List (List String))
    (nodesPerLeaf leaf : Nat) :
    List (List String) :=
  (servers.drop (leaf * nodesPerLeaf)).take nodesPerLeaf

/-- The gateways of a leaf. -/
def gatewaysOf (gatewayLeaves : List Nat) (leaf : Nat) :
    List (List String) :=
  (List.range (gatewayLeaves.count leaf)).map fun j =>
    gatewayNode (startOf gatewayLeaves leaf + j)

/-- The progress after the first leaves. -/
def progressAfter
    (servers : List (List String))
    (gatewayLeaves : List Nat)
    (nodesPerLeaf leafCount : Nat) :
    Progress where
  gwLeavesIdx := startOf gatewayLeaves leafCount
  nodesIdx := leafCount * nodesPerLeaf
  placement :=
    (List.range leafCount).map fun leaf =>
      serversOf servers nodesPerLeaf leaf ++ gatewaysOf gatewayLeaves leaf

/-- Accesses within the vector find its entries. -/
def ReadsEntries
    (read : Nat → Option Nat)
    (gatewayLeaves : List Nat) : Prop :=
  ∀ idx < gatewayLeaves.length, read idx = gatewayLeaves[idx]?

variable
  {read : Nat → Option Nat}
  {servers : List (List String)}
  {gatewayLeaves : List Nat}
  {leaf : Nat}

/-- The loop goes on as long as it reads the leaf. -/
theorem skipLeaf_run
    {run start : Nat}
    (inRun : ∀ offset < run, read (start + offset) = some leaf)
    (rounds : Nat) :
    skipLeaf read leaf (run + rounds) start =
      skipLeaf read leaf rounds (start + run) := by
  induction run generalizing start with
  | zero => rw [Nat.zero_add, Nat.add_zero]
  | succ run inductionHypothesis =>
      have first := inRun 0 (Nat.succ_pos run)
      rw [Nat.add_zero] at first
      have shift (offset : Nat) :
          start + 1 + offset = start + (offset + 1) := by
        rw [Nat.add_assoc, Nat.add_comm 1]
      have rest :
          ∀ offset < run, read (start + 1 + offset) = some leaf := by
        intro offset inside
        rw [shift]
        exact inRun (offset + 1) (Nat.succ_lt_succ inside)
      rw [Nat.succ_add, skipLeaf, first]
      dsimp only
      rw [if_pos rfl, inductionHypothesis rest, shift]

/-- The loop stops behind the first entry that is not the leaf. -/
theorem skipLeaf_of_stop
    {run start rounds entry : Nat}
    (inRun : ∀ offset < run, read (start + offset) = some leaf)
    (stop : read (start + run) = some entry)
    (different : entry ≠ leaf)
    (enough : run < rounds) :
    skipLeaf read leaf rounds start = some (start + run + 1) := by
  obtain ⟨left, rfl⟩ := Nat.exists_eq_add_of_lt enough
  rw [Nat.add_assoc, skipLeaf_run inRun, skipLeaf, stop]
  exact if_neg different

/-- The loop has no result if it runs out of what is known. -/
theorem skipLeaf_of_none
    {run start rounds : Nat}
    (inRun : ∀ offset < run, read (start + offset) = some leaf)
    (unknown : read (start + run) = none) :
    skipLeaf read leaf rounds start = none := by
  rcases Nat.le_total run rounds with enough | few
  · obtain ⟨left, rfl⟩ := Nat.exists_eq_add_of_le enough
    rw [skipLeaf_run inRun]
    cases left with
    | zero => rfl
    | succ left => rw [skipLeaf, unknown]
  · have shorter :
        skipLeaf read leaf (rounds + 0) start =
          skipLeaf read leaf 0 (start + rounds) :=
      skipLeaf_run
        (fun offset inside => inRun offset (Nat.lt_of_lt_of_le inside few)) 0
    exact shorter

/-- An access finds something else right behind the run of a leaf. -/
def EndsRun
    (read : Nat → Option Nat)
    (gatewayLeaves : List Nat)
    (leaf : Nat) : Prop :=
  ∃ entry,
    read (startOf gatewayLeaves leaf + gatewayLeaves.count leaf) =
        some entry ∧
      entry ≠ leaf

/-- No run goes beyond the end. -/
theorem startOf_add_count_le (gatewayLeaves : List Nat) (leaf : Nat) :
    startOf gatewayLeaves leaf + gatewayLeaves.count leaf ≤
      gatewayLeaves.length := by
  rw [← startOf_succ]
  exact List.countP_le_length

theorem read_run
    (reads : ReadsEntries read gatewayLeaves)
    (sorted : gatewayLeaves.Pairwise (· ≤ ·))
    {offset : Nat}
    (inside : offset < gatewayLeaves.count leaf) :
    read (startOf gatewayLeaves leaf + offset) = some leaf := by
  rw [reads, getElem?_run sorted inside]
  exact
    Nat.lt_of_lt_of_le (Nat.add_lt_add_left inside _)
      (startOf_add_count_le gatewayLeaves leaf)

/-- A run that does not end the vector is followed by another number. -/
theorem endsRun_of_lt
    (reads : ReadsEntries read gatewayLeaves)
    (sorted : gatewayLeaves.Pairwise (· ≤ ·))
    (notLast :
      startOf gatewayLeaves leaf + gatewayLeaves.count leaf <
        gatewayLeaves.length) :
    EndsRun read gatewayLeaves leaf := by
  obtain ⟨next, found, above⟩ := getElem?_afterRun sorted notLast
  exact ⟨next, (reads _ notLast).trans found, Nat.ne_of_gt above⟩

/-- A leaf gets as many gateways as it occurs. -/
theorem countGateways_eq
    (reads : ReadsEntries read gatewayLeaves)
    (sorted : gatewayLeaves.Pairwise (· ≤ ·))
    (ends : leaf ∈ gatewayLeaves → EndsRun read gatewayLeaves leaf) :
    countGateways read gatewayLeaves leaf
        (startOf gatewayLeaves leaf) =
      some (gatewayLeaves.count leaf) := by
  have within := startOf_add_count_le gatewayLeaves leaf
  unfold countGateways
  by_cases occurs : leaf ∈ gatewayLeaves
  · have some := List.count_pos_iff.mpr occurs
    have inside :
        startOf gatewayLeaves leaf < gatewayLeaves.length :=
      Nat.lt_of_lt_of_le (Nat.lt_add_of_pos_right some) within
    have first := read_run reads sorted some
    obtain ⟨entry, stop, different⟩ := ends occurs
    rw [Nat.add_zero] at first
    rw [if_pos inside, first]
    dsimp only
    rw [if_pos rfl,
      skipLeaf_of_stop (fun _ => read_run reads sorted) stop different
        (Nat.lt_succ_of_le List.count_le_length),
      Option.map_some, Nat.add_assoc, Nat.add_sub_cancel_left,
      Nat.add_sub_cancel]
  · have none := List.count_eq_zero.mpr occurs
    rw [none]
    split
    next inside =>
      have notAtEnd :
          startOf gatewayLeaves leaf + gatewayLeaves.count leaf <
            gatewayLeaves.length := by
        rw [none]
        exact inside
      obtain ⟨entry, stop, different⟩ :=
        endsRun_of_lt reads sorted notAtEnd
      rw [none, Nat.add_zero] at stop
      rw [stop]
      exact if_neg different
    next outside => rfl

/-- The count is undefined if the run ends what is known. -/
theorem countGateways_eq_none
    (reads : ReadsEntries read gatewayLeaves)
    (sorted : gatewayLeaves.Pairwise (· ≤ ·))
    (occurs : leaf ∈ gatewayLeaves)
    (unknown :
      read (startOf gatewayLeaves leaf + gatewayLeaves.count leaf) =
        none) :
    countGateways read gatewayLeaves leaf
        (startOf gatewayLeaves leaf) =
      none := by
  have within := startOf_add_count_le gatewayLeaves leaf
  have some := List.count_pos_iff.mpr occurs
  have inside : startOf gatewayLeaves leaf < gatewayLeaves.length :=
    Nat.lt_of_lt_of_le (Nat.lt_add_of_pos_right some) within
  have first := read_run reads sorted some
  rw [Nat.add_zero] at first
  unfold countGateways
  rw [if_pos inside, first]
  dsimp only
  rw [if_pos rfl,
    skipLeaf_of_none (fun _ => read_run reads sorted) unknown]
  rfl

/-- There are enough servers for every leaf. -/
theorem serversInLeaf_eq
    {serverCount nodesPerLeaf : Nat}
    (enough : (leaf + 1) * nodesPerLeaf ≤ serverCount) :
    serversInLeaf serverCount nodesPerLeaf (leaf * nodesPerLeaf) =
      nodesPerLeaf := by
  rw [Nat.succ_mul] at enough
  unfold serversInLeaf
  split
  next last =>
    rw [← Nat.le_antisymm enough last, Nat.add_sub_cancel_left]
  next more => rfl

/-- Reading in turn from a cursor takes a section of a list. -/
theorem mapM_range_getElem?
    {nodes : List (List String)}
    {start count : Nat}
    (within : start + count ≤ nodes.length) :
    (List.range count).mapM (fun j => nodes[start + j]?) =
      some ((nodes.drop start).take count) := by
  induction count with
  | zero => rfl
  | succ count inductionHypothesis =>
      have inside : start + count < nodes.length := within
      rw [List.range_succ, List.mapM_append,
        inductionHypothesis (Nat.le_of_lt inside), List.take_add_one,
        List.getElem?_drop, List.getElem?_eq_getElem inside]
      simp [List.getElem?_eq_getElem inside]

/-! ## All leaves -/

variable {nodesPerLeaf leafCount : Nat}

theorem deployLeaf_progressAfter
    (reads : ReadsEntries read gatewayLeaves)
    (sorted : gatewayLeaves.Pairwise (· ≤ ·))
    (enough : (leaf + 1) * nodesPerLeaf ≤ servers.length)
    (ends : leaf ∈ gatewayLeaves → EndsRun read gatewayLeaves leaf) :
    deployLeaf read servers gatewayLeaves nodesPerLeaf
        (progressAfter servers gatewayLeaves nodesPerLeaf leaf) leaf =
      some (progressAfter servers gatewayLeaves nodesPerLeaf (leaf + 1)) := by
  have within :
      leaf * nodesPerLeaf + nodesPerLeaf ≤ servers.length := by
    rw [← Nat.succ_mul]
    exact enough
  unfold deployLeaf
  dsimp only [progressAfter]
  rw [countGateways_eq reads sorted ends]
  dsimp only
  rw [serversInLeaf_eq enough, mapM_range_getElem? within,
    Option.map_some, List.range_succ, List.map_append, startOf_succ,
    Nat.succ_mul]
  rfl

theorem deployLeaves_succ (leafCount : Nat) :
    deployLeaves read servers gatewayLeaves nodesPerLeaf (leafCount + 1) =
      (deployLeaves read servers gatewayLeaves nodesPerLeaf
          leafCount).bind
        fun progress =>
          deployLeaf read servers gatewayLeaves nodesPerLeaf progress
            leafCount := by
  unfold deployLeaves
  rw [List.range_succ, List.foldlM_append]
  apply bind_congr
  intro progress
  rw [List.foldlM_cons]
  exact bind_pure _

/-- The loop gets through the leaves whose runs it sees the end of. -/
theorem deployLeaves_eq
    (reads : ReadsEntries read gatewayLeaves)
    (sorted : gatewayLeaves.Pairwise (· ≤ ·))
    (enough : leafCount * nodesPerLeaf ≤ servers.length)
    (ends :
      ∀ leaf < leafCount, leaf ∈ gatewayLeaves →
        EndsRun read gatewayLeaves leaf) :
    deployLeaves read servers gatewayLeaves nodesPerLeaf leafCount =
      some (progressAfter servers gatewayLeaves nodesPerLeaf leafCount) := by
  induction leafCount with
  | zero =>
      have atStart : startOf gatewayLeaves 0 = 0 :=
        List.countP_eq_zero.mpr fun _ _ => by simp
      unfold progressAfter
      rw [atStart, Nat.zero_mul]
      rfl
  | succ leafCount inductionHypothesis =>
      have fewer : leafCount * nodesPerLeaf ≤ servers.length :=
        Nat.le_trans (Nat.mul_le_mul_right _ (Nat.le_succ _)) enough
      rw [deployLeaves_succ,
        inductionHypothesis fewer fun leaf below =>
          ends leaf (Nat.lt_succ_of_lt below)]
      exact
        deployLeaf_progressAfter reads sorted enough
          (ends leafCount (Nat.lt_succ_self _))

/-- From an undefined count on, the loop has no result. -/
theorem deployLeaves_eq_none
    (before :
      deployLeaves read servers gatewayLeaves nodesPerLeaf leaf =
        some (progressAfter servers gatewayLeaves nodesPerLeaf leaf))
    (unknown :
      countGateways read gatewayLeaves leaf
          (startOf gatewayLeaves leaf) =
        none)
    (later : leaf < leafCount) :
    deployLeaves read servers gatewayLeaves nodesPerLeaf leafCount =
      none := by
  induction later with
  | refl =>
      rw [Nat.succ_eq_add_one, deployLeaves_succ, before]
      unfold Option.bind deployLeaf
      dsimp only [progressAfter]
      rw [unknown]
  | step _ inductionHypothesis =>
      rw [Nat.succ_eq_add_one, deployLeaves_succ, inductionHypothesis]
      rfl

/-! ## What is deployed -/

/--
Everything is deployed once: every leaf has its share of the servers, in the
order of the file, and as many gateways as it occurs in `GatewayLeaves`; the
gateways are numbered in leaf order; and the final assertion holds.
-/
structure Deploys
    (servers : List (List String))
    (gatewayLeaves : List Nat)
    (nodesPerLeaf : Nat)
    (progress : Progress) : Prop where
  groups :
    ∃ serversAt gatewaysAt : Nat → List (List String),
      progress.placement =
          (List.range (totalLeaves servers nodesPerLeaf)).map
            (fun leaf => serversAt leaf ++ gatewaysAt leaf) ∧
        (∀ leaf < totalLeaves servers nodesPerLeaf,
          (serversAt leaf).length = nodesPerLeaf) ∧
        (List.range (totalLeaves servers nodesPerLeaf)).flatMap serversAt =
          servers ∧
        (∀ leaf < totalLeaves servers nodesPerLeaf,
          (gatewaysAt leaf).length = gatewayLeaves.count leaf) ∧
        (List.range (totalLeaves servers nodesPerLeaf)).flatMap gatewaysAt =
          (List.range gatewayLeaves.length).map gatewayNode
  assertion :
    progress.gwLeavesIdx + progress.nodesIdx =
      servers.length + gatewayLeaves.length

theorem flatMap_serversOf (leafCount : Nat) :
    (List.range leafCount).flatMap (serversOf servers nodesPerLeaf) =
      servers.take (leafCount * nodesPerLeaf) := by
  induction leafCount with
  | zero => rw [Nat.zero_mul]; rfl
  | succ leafCount inductionHypothesis =>
      rw [List.range_succ, List.flatMap_append, inductionHypothesis,
        Nat.succ_mul, List.take_add, List.flatMap_singleton]
      rfl

theorem flatMap_gatewaysOf (leafCount : Nat) :
    (List.range leafCount).flatMap (gatewaysOf gatewayLeaves) =
      (List.range (startOf gatewayLeaves leafCount)).map gatewayNode := by
  induction leafCount with
  | zero =>
      have atStart : startOf gatewayLeaves 0 = 0 :=
        List.countP_eq_zero.mpr fun _ _ => by simp
      rw [atStart]
      rfl
  | succ leafCount inductionHypothesis =>
      rw [List.range_succ, List.flatMap_append, inductionHypothesis,
        startOf_succ, List.range_add, List.map_append, List.map_map,
        List.flatMap_singleton]
      rfl

/-- A placement file that fills its leaves, with gateways below them. -/
structure Fills
    (servers : List (List String))
    (gatewayLeaves : List Nat)
    (nodesPerLeaf : Nat) : Prop where
  nonempty : servers ≠ []
  full : nodesPerLeaf ∣ servers.length
  sorted : gatewayLeaves.Pairwise (· ≤ ·)
  leaves : ∀ leaf ∈ gatewayLeaves, leaf < totalLeaves servers nodesPerLeaf

namespace Fills

theorem length_eq
    (fills : Fills servers gatewayLeaves nodesPerLeaf) :
    totalLeaves servers nodesPerLeaf * nodesPerLeaf = servers.length :=
  Nat.div_mul_cancel fills.full

theorem deploys
    (fills : Fills servers gatewayLeaves nodesPerLeaf) :
    Deploys servers gatewayLeaves nodesPerLeaf
      (progressAfter servers gatewayLeaves nodesPerLeaf
        (totalLeaves servers nodesPerLeaf)) := by
  have allGateways :
      startOf gatewayLeaves (totalLeaves servers nodesPerLeaf) =
        gatewayLeaves.length :=
    startOf_eq_length fills.leaves
  refine
    { groups :=
        ⟨serversOf servers nodesPerLeaf, gatewaysOf gatewayLeaves, rfl,
          ?_, ?_, ?_, ?_⟩
      assertion := ?_ }
  · intro leaf below
    have within : (leaf + 1) * nodesPerLeaf ≤ servers.length := by
      rw [← fills.length_eq]
      exact Nat.mul_le_mul_right _ below
    rw [Nat.succ_mul] at within
    unfold serversOf
    rw [List.length_take, List.length_drop]
    exact Nat.min_eq_left (Nat.le_sub_of_add_le' within)
  · rw [flatMap_serversOf, fills.length_eq, List.take_length]
  · intro leaf _
    unfold gatewaysOf
    rw [List.length_map, List.length_range]
  · rw [flatMap_gatewaysOf, allGateways]
  · unfold progressAfter
    rw [allGateways, fills.length_eq, Nat.add_comm]

/-- The last run ends where the vector ends. -/
theorem lastRun
    (fills : Fills servers gatewayLeaves nodesPerLeaf)
    {earlier : List Nat}
    {last : Nat}
    (shape : gatewayLeaves = earlier ++ [last]) :
    startOf gatewayLeaves last + gatewayLeaves.count last =
      gatewayLeaves.length := by
  rw [← startOf_succ]
  apply startOf_eq_length
  intro leaf member
  have sorted := fills.sorted
  rw [shape] at member sorted
  rcases List.mem_append.mp member with before | isLast
  · exact
      Nat.lt_succ_of_le
        ((List.pairwise_append.mp sorted).2.2 leaf before last
          List.mem_cons_self)
  · rw [List.mem_singleton.mp isLast]
    exact Nat.lt_succ_self last

/-- Every run before that ends within the vector. -/
theorem run_lt
    (fills : Fills servers gatewayLeaves nodesPerLeaf)
    {earlier : List Nat}
    {last leaf : Nat}
    (shape : gatewayLeaves = earlier ++ [last])
    (before : leaf < last) :
    startOf gatewayLeaves leaf + gatewayLeaves.count leaf <
      gatewayLeaves.length := by
  have occurs : last ∈ gatewayLeaves := by
    rw [shape]
    exact List.mem_append_right _ List.mem_cons_self
  have notAfter :
      startOf gatewayLeaves leaf + gatewayLeaves.count leaf ≤
        startOf gatewayLeaves last := by
    rw [← startOf_succ]
    apply List.countP_mono_left
    intro other _ small
    exact
      decide_eq_true
        (Nat.lt_of_lt_of_le (of_decide_eq_true small) before)
  rw [← fills.lastRun shape]
  exact
    Nat.lt_of_le_of_lt notAfter
      (Nat.lt_add_of_pos_right (List.count_pos_iff.mpr occurs))

/-- With a gateway anywhere the loop reads beyond the end of the vector. -/
theorem parsePlacement_eq_none
    {numOfPorts : Nat}
    (fills : Fills servers gatewayLeaves (numOfPorts / 2))
    (someGateway : gatewayLeaves ≠ []) :
    parsePlacement (checked gatewayLeaves) servers gatewayLeaves
        numOfPorts =
      none := by
  have reads : ReadsEntries (checked gatewayLeaves) gatewayLeaves :=
    fun _ _ => rfl
  obtain ⟨earlier, last, shape⟩ :=
    (List.eq_nil_or_concat' gatewayLeaves).resolve_left someGateway
  have occurs : last ∈ gatewayLeaves := by
    rw [shape]
    exact List.mem_append_right _ List.mem_cons_self
  have below := fills.leaves last occurs
  have enough : last * (numOfPorts / 2) ≤ servers.length := by
    rw [← fills.length_eq]
    exact Nat.mul_le_mul_right _ (Nat.le_of_lt below)
  have before :=
    deployLeaves_eq reads fills.sorted enough fun leaf before _ =>
      endsRun_of_lt reads fills.sorted (fills.run_lt shape before)
  have unknown :
      checked gatewayLeaves
          (startOf gatewayLeaves last + gatewayLeaves.count last) =
        none := by
    rw [fills.lastRun shape]
    exact List.getElem?_eq_none (Nat.le_refl _)
  exact
    deployLeaves_eq_none before
      (countGateways_eq_none reads fills.sorted occurs unknown) below

/-- Where the loop sees the end of every run, everything is deployed. -/
theorem parsePlacement_deploys
    {numOfPorts : Nat}
    (fills : Fills servers gatewayLeaves (numOfPorts / 2))
    (reads : ReadsEntries read gatewayLeaves)
    (ends :
      ∀ leaf ∈ gatewayLeaves, EndsRun read gatewayLeaves leaf) :
    ∃ progress,
      parsePlacement read servers gatewayLeaves numOfPorts =
          some progress ∧
        Deploys servers gatewayLeaves (numOfPorts / 2) progress :=
  ⟨_,
    deployLeaves_eq reads fills.sorted (Nat.le_of_eq fills.length_eq)
      fun leaf _ => ends leaf,
    fills.deploys⟩

/-- Another number behind the vector ends the last run. -/
theorem endsRun_followedBy
    (fills : Fills servers gatewayLeaves nodesPerLeaf)
    {behind : Nat}
    (different : gatewayLeaves.getLast? ≠ some behind) :
    ReadsEntries (followedBy gatewayLeaves behind) gatewayLeaves ∧
      ∀ leaf ∈ gatewayLeaves,
        EndsRun (followedBy gatewayLeaves behind) gatewayLeaves leaf := by
  have reads :
      ReadsEntries (followedBy gatewayLeaves behind) gatewayLeaves :=
    fun _ inside => List.getElem?_append_left inside
  refine ⟨reads, fun leaf member => ?_⟩
  obtain ⟨earlier, last, shape⟩ :=
    (List.eq_nil_or_concat' gatewayLeaves).resolve_left
      (List.ne_nil_of_mem member)
  have notLarger : leaf ≤ last := by
    have sorted := fills.sorted
    rw [shape] at member sorted
    rcases List.mem_append.mp member with before | isLast
    · exact
        (List.pairwise_append.mp sorted).2.2 leaf before last
          List.mem_cons_self
    · exact Nat.le_of_eq (List.mem_singleton.mp isLast)
  rcases Nat.lt_or_eq_of_le notLarger with before | isLast
  · exact endsRun_of_lt reads fills.sorted (fills.run_lt shape before)
  · subst isLast
    refine ⟨behind, ?_, ?_⟩
    · rw [fills.lastRun shape]
      unfold followedBy
      rw [List.getElem?_append_right (Nat.le_refl _), Nat.sub_self]
      rfl
    · rintro rfl
      rw [shape, List.getLast?_concat] at different
      exact different rfl

end Fills

/--
`ParsePlacement` keeps to its vectors, and then deploys everything once, exactly
if there is no gateway: the search for the end of the last run reads beyond the
end of `GatewayLeaves`.  If another leaf number, or anything else, is stored
there, everything is deployed once all the same.
-/
theorem deploys_iff_noGateways
    {numOfPorts : Nat}
    (fills : Fills servers gatewayLeaves (numOfPorts / 2)) :
    ((∃ progress,
        parsePlacement (checked gatewayLeaves) servers gatewayLeaves
            numOfPorts = some progress ∧
          Deploys servers gatewayLeaves (numOfPorts / 2) progress) ↔
      gatewayLeaves = []) ∧
      ∀ behind, gatewayLeaves.getLast? ≠ some behind →
        ∃ progress,
          parsePlacement (followedBy gatewayLeaves behind) servers
              gatewayLeaves numOfPorts = some progress ∧
            Deploys servers gatewayLeaves (numOfPorts / 2) progress := by
  refine ⟨⟨?_, ?_⟩, ?_⟩
  · rintro ⟨progress, parsed, _⟩
    by_contra someGateway
    rw [fills.parsePlacement_eq_none someGateway] at parsed
    exact Option.some_ne_none _ parsed.symm
  · rintro rfl
    exact
      fills.parsePlacement_deploys (fun _ _ => rfl)
        fun _ none => absurd none List.not_mem_nil
  · intro behind different
    obtain ⟨reads, ends⟩ := fills.endsRun_followedBy different
    exact fills.parsePlacement_deploys reads ends

/-- Two leaves of four servers, with one gateway below the second. -/
def twoLeaves : List (List String) :=
  [["a"], ["b"], ["c"], ["d"], ["e"], ["f"], ["g"], ["h"]]

theorem fills_twoLeaves : Fills twoLeaves [1] (8 / 2) where
  nonempty := List.cons_ne_nil _ _
  full := ⟨2, rfl⟩
  sorted := List.pairwise_singleton _ _
  leaves := by
    intro leaf member
    rw [List.mem_singleton.mp member]
    decide

/-- One gateway is enough for an access beyond the end of the vector. -/
theorem not_deploys_twoLeaves :
    Fills twoLeaves [1] (8 / 2) ∧
      ¬ ∃ progress,
        parsePlacement (checked [1]) twoLeaves [1] 8 = some progress ∧
          Deploys twoLeaves [1] (8 / 2) progress := by
  refine ⟨fills_twoLeaves, ?_⟩
  rintro ⟨progress, parsed, _⟩
  have undefined :
      parsePlacement (checked [1]) twoLeaves [1] 8 = none := by
    decide
  rw [undefined] at parsed
  exact Option.some_ne_none _ parsed.symm

/-- A zero behind the vector does no harm there. -/
theorem deploys_twoLeaves :
    ∃ progress,
      parsePlacement (followedBy [1] 0) twoLeaves [1] 8 = some progress ∧
        Deploys twoLeaves [1] (8 / 2) progress :=
  (deploys_iff_noGateways fills_twoLeaves).2 0 (by decide)

end Placement

end SwitchV2P
