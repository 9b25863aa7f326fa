import Mathlib.Algebra.GroupWithZero.Nat
import Mathlib.Algebra.Ring.Int.Defs
import Mathlib.Data.List.Basic
import SwitchV2P.SimulationBase

namespace SwitchV2P

/-!
# The flows of a trace

`ParseTrace` collects the flows of every source container and the time at which
the applications stop, `CalculateDestinations` sorts the flows of a container
by their times, and `SetupApplications` gives every source container a client.

Times are nanoseconds.  A `Time` of the simulator is a signed number of 64 bits.
-/

structure Flow where
  ts : UInt64
  dst : UInt32
  flowId : UInt32
  size : UInt32
  deriving Repr, DecidableEq

/-- The tokens of a line, the numbers as `stoull` and `stoi` read them. -/
structure TraceLine where
  umContainer : String
  dmContainer : String
  ts : UInt64
  flowId : UInt32
  size : UInt32
  deriving Repr, DecidableEq

/-- What `ParseTrace` returns, and `m_stopTime`. -/
structure ParsedTrace where
  containerToFlows : UInt32 → Option (List Flow)
  stopTime : Int

/-- The part of `ClientApp` that schedules its flows. -/
structure ClientApp where
  containerId : UInt32
  flows : List Flow
  currentIdx : Nat
  running : Bool
  deriving Repr, DecidableEq

namespace TraceSimulation

/-- `NanoSeconds`: the number in 64 bits with a sign. -/
def nanoSeconds (value : UInt64) : Int :=
  Int.bmod value.toNat (2 ^ 64)

/-- The sum of two times. -/
def addTime (first second : Int) : Int :=
  Int.bmod (first + second) (2 ^ 64)

/-- `Minutes (1)`. -/
def minute : Int :=
  60000000000

section

variable (containerToId : String → Option UInt32)

/-- `containerToFlows[source].push_back (flow)`. -/
def pushFlow
    (containerToFlows : UInt32 → Option (List Flow))
    (source : UInt32)
    (flow : Flow) :
    UInt32 → Option (List Flow) :=
  Function.update containerToFlows source
    (some ((containerToFlows source).getD [] ++ [flow]))

/-- The body of the loop of `ParseTrace`; unknown containers are errors. -/
def parseLine? (parsed : ParsedTrace) (line : TraceLine) :
    Option ParsedTrace :=
  match containerToId line.umContainer, containerToId line.dmContainer with
  | some source, some destination =>
      some
        { containerToFlows :=
            pushFlow parsed.containerToFlows source
              { ts := line.ts
                dst := destination
                flowId := line.flowId
                size := line.size }
          stopTime := max parsed.stopTime (nanoSeconds line.ts) }
  | _, _ => none

/-- `ParseTrace`. -/
def parseTrace? (lines : List TraceLine) : Option ParsedTrace :=
  (lines.foldlM (parseLine? containerToId)
      { containerToFlows := fun _ => none, stopTime := 0 }).map
    fun parsed =>
      { parsed with stopTime := addTime parsed.stopTime minute }

end

/-- What `std::sort` promises for the order by `ts`. -/
structure Sorts (sort : List Flow → List Flow) : Prop where
  perm : ∀ flows, (sort flows).Perm flows
  sorted :
    ∀ flows, (sort flows).Pairwise fun first second => first.ts ≤ second.ts

/-- `CalculateDestinations`, without the set of destinations. -/
def calculateDestinations
    (sort : List Flow → List Flow)
    (parsed : ParsedTrace) :
    ParsedTrace :=
  { parsed with
    containerToFlows := fun containerId =>
      (parsed.containerToFlows containerId).map sort }

/-- `ClientApp::Setup`. -/
def setupClient (containerId : UInt32) (flows : List Flow) : ClientApp where
  containerId := containerId
  flows := flows
  currentIdx := 0
  running := false

/-- The client that `SetupApplications` installs for a container. -/
def clientFor?
    (containerToId : String → Option UInt32)
    (containerToFlows : UInt32 → Option (List Flow))
    (name : String) :
    Option ClientApp :=
  if SimulationBase.namesGateway name then
    none
  else
    let containerId := (containerToId name).getD 0
    (containerToFlows containerId).map (setupClient containerId)

/-- The clients that `SetupApplications` installs. -/
def clientApps
    (containerGroups : ContainerGroups)
    (containerToFlows : UInt32 → Option (List Flow)) :
    List ClientApp :=
  containerGroups.flatMap fun leaf =>
    leaf.flatMap fun node =>
      node.filterMap
        (clientFor? (SimulationBase.assignIds containerGroups).containerToId
          containerToFlows)

/-! ## What a trace says -/

/-- The flows of a container, in the order of their lines. -/
def flowsOf
    (containerToId : String → Option UInt32)
    (lines : List TraceLine)
    (containerId : UInt32) :
    List Flow :=
  lines.filterMap fun line =>
    if containerToId line.umContainer = some containerId then
      (containerToId line.dmContainer).map fun destination =>
        { ts := line.ts
          dst := destination
          flowId := line.flowId
          size := line.size }
    else
      none

variable
  {containerToId : String → Option UInt32}
  {lines : List TraceLine}
  {line : TraceLine}
  {parsed next : ParsedTrace}

theorem flowsOf_append (containerId : UInt32) :
    flowsOf containerToId (lines ++ [line]) containerId =
      flowsOf containerToId lines containerId ++
        flowsOf containerToId [line] containerId :=
  List.filterMap_append

/-- The flows of the lines that have been read. -/
structure Gathers
    (containerToId : String → Option UInt32)
    (lines : List TraceLine)
    (containerToFlows : UInt32 → Option (List Flow)) : Prop where
  known :
    ∀ line ∈ lines, ∃ source destination,
      containerToId line.umContainer = some source ∧
        containerToId line.dmContainer = some destination
  flows :
    ∀ containerId,
      (containerToFlows containerId).getD [] =
        flowsOf containerToId lines containerId
  nonempty : ∀ containerId, containerToFlows containerId ≠ some []

/-- The lines that `ParseTrace` has read. -/
structure Collects
    (containerToId : String → Option UInt32)
    (lines : List TraceLine)
    (parsed : ParsedTrace) : Prop where
  gathers : Gathers containerToId lines parsed.containerToFlows
  stopTime_nonneg : 0 ≤ parsed.stopTime
  le_stopTime : ∀ line ∈ lines, nanoSeconds line.ts ≤ parsed.stopTime
  stopTime_eq :
    parsed.stopTime = 0 ∨
      ∃ line ∈ lines, parsed.stopTime = nanoSeconds line.ts

theorem collects_nil :
    Collects containerToId []
      { containerToFlows := fun _ => none, stopTime := 0 } where
  gathers :=
    { known := fun _ member => absurd member List.not_mem_nil
      flows := fun _ => rfl
      nonempty := fun _ => (Option.some_ne_none []).symm }
  stopTime_nonneg := Int.le_refl 0
  le_stopTime := fun _ member => absurd member List.not_mem_nil
  stopTime_eq := Or.inl rfl

/-- Only the flows of the source get longer. -/
theorem getD_pushFlow
    (containerToFlows : UInt32 → Option (List Flow))
    (source containerId : UInt32)
    (flow : Flow) :
    (pushFlow containerToFlows source flow containerId).getD [] =
      (containerToFlows containerId).getD [] ++
        if source = containerId then [flow] else [] := by
  unfold pushFlow
  by_cases same : source = containerId
  · subst same
    rw [Function.update_self, if_pos rfl]
    rfl
  · rw [Function.update_of_ne (Ne.symm same), if_neg same,
      List.append_nil]

theorem pushFlow_ne_some_nil
    {containerToFlows : UInt32 → Option (List Flow)}
    (nonempty : ∀ containerId, containerToFlows containerId ≠ some [])
    (source : UInt32)
    (flow : Flow)
    (containerId : UInt32) :
    pushFlow containerToFlows source flow containerId ≠ some [] := by
  unfold pushFlow
  by_cases same : containerId = source
  · subst same
    rw [Function.update_self]
    intro empty
    exact List.concat_ne_nil _ _ (Option.some.inj empty)
  · rw [Function.update_of_ne same]
    exact nonempty containerId

/-- A known line adds one flow to its source. -/
theorem flowsOf_singleton
    {source destination : UInt32}
    (isSource : containerToId line.umContainer = some source)
    (isDestination : containerToId line.dmContainer = some destination)
    (containerId : UInt32) :
    flowsOf containerToId [line] containerId =
      if source = containerId then
        [{ ts := line.ts
           dst := destination
           flowId := line.flowId
           size := line.size }]
      else
        [] := by
  unfold flowsOf
  rw [List.filterMap_cons, isSource, isDestination]
  by_cases same : source = containerId
  · rw [if_pos (congrArg some same), if_pos same]
    rfl
  · rw [if_neg fun isSame => same (Option.some.inj isSame), if_neg same]
    rfl

theorem Gathers.pushFlow
    {containerToFlows : UInt32 → Option (List Flow)}
    (gathers : Gathers containerToId lines containerToFlows)
    {source destination : UInt32}
    (isSource : containerToId line.umContainer = some source)
    (isDestination : containerToId line.dmContainer = some destination) :
    Gathers containerToId (lines ++ [line])
      (pushFlow containerToFlows source
        { ts := line.ts
          dst := destination
          flowId := line.flowId
          size := line.size }) where
  known := by
    intro other member
    rcases List.mem_append.mp member with earlier | latest
    · exact gathers.known other earlier
    · obtain rfl := List.mem_singleton.mp latest
      exact ⟨source, destination, isSource, isDestination⟩
  flows := by
    intro containerId
    rw [flowsOf_append, flowsOf_singleton isSource isDestination,
      ← gathers.flows containerId]
    exact getD_pushFlow _ source containerId _
  nonempty := pushFlow_ne_some_nil gathers.nonempty source _

/-- One more line has been read. -/
theorem Collects.parseLine?
    (collects : Collects containerToId lines parsed)
    (read : parseLine? containerToId parsed line = some next) :
    Collects containerToId (lines ++ [line]) next := by
  unfold TraceSimulation.parseLine? at read
  split at read
  next source destination isSource isDestination =>
    obtain rfl := Option.some.inj read
    have stop_le :
        parsed.stopTime ≤ max parsed.stopTime (nanoSeconds line.ts) :=
      Int.le_max_left _ _
    refine
      { gathers := collects.gathers.pushFlow isSource isDestination
        stopTime_nonneg := Int.le_trans collects.stopTime_nonneg stop_le
        le_stopTime := fun other member => ?_
        stopTime_eq := ?_ }
    · rcases List.mem_append.mp member with earlier | latest
      · exact Int.le_trans (collects.le_stopTime other earlier) stop_le
      · obtain rfl := List.mem_singleton.mp latest
        exact Int.le_max_right _ _
    · rcases Int.le_total parsed.stopTime (nanoSeconds line.ts) with
        later | earlier
      · apply Or.inr
        refine ⟨line, ?_, Int.max_eq_right later⟩
        exact List.mem_append_right _ List.mem_cons_self
      · have same :
            max parsed.stopTime (nanoSeconds line.ts) = parsed.stopTime :=
          Int.max_eq_left earlier
        rcases collects.stopTime_eq with isZero | ⟨other, member, isTime⟩
        · exact Or.inl (same.trans isZero)
        · apply Or.inr
          exact
            ⟨other, List.mem_append_left _ member, same.trans isTime⟩
  next => exact absurd read (Option.some_ne_none next).symm

/-- All lines have been read at the end. -/
theorem Collects.foldlM
    {later : List TraceLine}
    (collects : Collects containerToId lines parsed)
    (read :
      later.foldlM (TraceSimulation.parseLine? containerToId) parsed =
        some next) :
    Collects containerToId (lines ++ later) next := by
  induction later generalizing lines parsed with
  | nil =>
      obtain rfl := Option.some.inj read
      rw [List.append_nil]
      exact collects
  | cons line rest inductionHypothesis =>
      rw [List.foldlM_cons] at read
      obtain ⟨middle, readLine, readRest⟩ := Option.bind_eq_some_iff.mp read
      have joined :=
        inductionHypothesis (collects.parseLine? readLine) readRest
      rw [List.append_assoc] at joined
      exact joined

/-- The times that leave room for the minute after the last flow. -/
def InRange (lines : List TraceLine) : Prop :=
  ∀ line ∈ lines, line.ts.toNat + 60000000000 < 2 ^ 63

theorem nanoSeconds_of_lt
    {value : UInt64}
    (small : value.toNat < 2 ^ 63) :
    nanoSeconds value = value.toNat := by
  unfold nanoSeconds
  exact Int.bmod_eq_of_le (by omega) (by omega)

/-- What `ParseTrace` returns for times that leave room. -/
structure Parsed
    (containerToId : String → Option UInt32)
    (lines : List TraceLine)
    (parsed : ParsedTrace) : Prop where
  gathers : Gathers containerToId lines parsed.containerToFlows
  stopTime_pos : 0 < parsed.stopTime
  lt_stopTime : ∀ line ∈ lines, (line.ts.toNat : Int) < parsed.stopTime

theorem parsed_of_parseTrace?
    (inRange : InRange lines)
    (read : parseTrace? containerToId lines = some parsed) :
    Parsed containerToId lines parsed := by
  obtain ⟨folded, readLines, rfl⟩ := Option.map_eq_some_iff.mp read
  have collects :
      Collects containerToId lines folded :=
    collects_nil.foldlM readLines
  have nonneg := collects.stopTime_nonneg
  have small : folded.stopTime + 60000000000 < 2 ^ 63 := by
    rcases collects.stopTime_eq with isZero | ⟨line, member, isTime⟩
    · rw [isZero]
      decide
    · have bound := inRange line member
      rw [isTime, nanoSeconds_of_lt (by omega)]
      omega
  have stop :
      addTime folded.stopTime minute = folded.stopTime + 60000000000 := by
    unfold addTime minute
    exact Int.bmod_eq_of_le (by omega) (by omega)
  refine
    { gathers := collects.gathers
      stopTime_pos := ?_
      lt_stopTime := fun line member => ?_ }
  · change 0 < addTime folded.stopTime minute
    rw [stop]
    omega
  · have bound := inRange line member
    have reached := collects.le_stopTime line member
    rw [nanoSeconds_of_lt (by omega)] at reached
    change (line.ts.toNat : Int) < addTime folded.stopTime minute
    rw [stop]
    omega

/-! ## The clients -/

variable
  {containerGroups : ContainerGroups}
  {containerToFlows : UInt32 → Option (List Flow)}
  {sort : List Flow → List Flow}

theorem clientApps_eq_filterMap :
    clientApps containerGroups containerToFlows =
      (SimulationBase.containerNames containerGroups).filterMap
        (clientFor? (SimulationBase.assignIds containerGroups).containerToId
          containerToFlows) := by
  unfold clientApps SimulationBase.containerNames
  rw [List.filterMap_flatten, List.map_flatten, List.flatten_flatten,
    List.map_map, List.flatMap_def]
  rfl

/-- The clients of a trace. -/
structure Serves
    (containerGroups : ContainerGroups)
    (lines : List TraceLine)
    (clients : List ClientApp) : Prop where
  served :
    ∀ line ∈ lines,
      SimulationBase.namesGateway line.umContainer = false →
        ∃ client ∈ clients,
          (SimulationBase.assignIds containerGroups).containerToId
              line.umContainer =
            some client.containerId
  flows :
    ∀ client ∈ clients,
      client.flows.Perm
        (flowsOf (SimulationBase.assignIds containerGroups).containerToId
          lines client.containerId)
  sorted :
    ∀ client ∈ clients,
      client.flows.Pairwise fun first second => first.ts ≤ second.ts
  nonempty : ∀ client ∈ clients, client.flows ≠ []
  fresh : ∀ client ∈ clients, client.currentIdx = 0
  distinct :
    (SimulationBase.containerNames containerGroups).Nodup →
    (SimulationBase.containerNames containerGroups).length ≤ 2 ^ 32 →
      (clients.map ClientApp.containerId).Nodup

theorem setupClient_of_clientFor?
    {name : String}
    {client : ClientApp}
    (installed :
      clientFor? containerToId containerToFlows name = some client) :
    ∃ flows, containerToFlows ((containerToId name).getD 0) = some flows ∧
      client = setupClient ((containerToId name).getD 0) flows := by
  unfold clientFor? at installed
  split at installed
  next => exact absurd installed (Option.some_ne_none client).symm
  next =>
    obtain ⟨flows, found, rfl⟩ := Option.map_eq_some_iff.mp installed
    exact ⟨flows, found, rfl⟩

theorem exists_setupClient
    {client : ClientApp}
    (installed : client ∈ clientApps containerGroups containerToFlows) :
    ∃ containerId flows,
      containerToFlows containerId = some flows ∧
        client = setupClient containerId flows := by
  rw [clientApps_eq_filterMap] at installed
  obtain ⟨name, _, isClient⟩ := List.mem_filterMap.mp installed
  obtain ⟨flows, found, same⟩ := setupClient_of_clientFor? isClient
  exact ⟨_, flows, found, same⟩

/-- Two containers have different clients. -/
theorem nodup_clientApps
    (distinct : (SimulationBase.containerNames containerGroups).Nodup)
    (few :
      (SimulationBase.containerNames containerGroups).length ≤ 2 ^ 32) :
    ((clientApps containerGroups containerToFlows).map
      ClientApp.containerId).Nodup := by
  have numbers := SimulationBase.numbers_assignIds containerGroups
  rw [clientApps_eq_filterMap]
  apply List.Pairwise.map ClientApp.containerId (fun _ _ apart => apart)
  rw [List.pairwise_filterMap]
  apply List.Pairwise.imp_of_mem _ distinct
  intro first second inFirst inSecond apart client isClient other isOther same
  obtain ⟨firstId, isFirst⟩ := numbers.numbered first inFirst
  obtain ⟨secondId, isSecond⟩ := numbers.numbered second inSecond
  obtain ⟨_, _, rfl⟩ := setupClient_of_clientFor? isClient
  obtain ⟨_, _, rfl⟩ := setupClient_of_clientFor? isOther
  unfold setupClient at same
  dsimp only at same
  rw [isFirst, isSecond] at same
  apply apart
  apply SimulationBase.assignIds_injective few isFirst
  rw [isSecond]
  exact congrArg some same.symm

/-- A source that is no gateway has a client. -/
theorem mem_clientApps_of_line
    (gathers :
      Gathers (SimulationBase.assignIds containerGroups).containerToId lines
        containerToFlows)
    (member : line ∈ lines)
    (notGateway :
      SimulationBase.namesGateway line.umContainer = false) :
    ∃ source flows,
      (SimulationBase.assignIds containerGroups).containerToId
          line.umContainer =
        some source ∧
      setupClient source (sort flows) ∈
        clientApps containerGroups fun containerId =>
          (containerToFlows containerId).map sort := by
  obtain ⟨source, destination, isSource, isDestination⟩ :=
    gathers.known line member
  have hasFlow :
      flowsOf (SimulationBase.assignIds containerGroups).containerToId lines
          source ≠
        [] := by
    apply List.ne_nil_of_mem
    apply List.mem_filterMap.mpr
    refine ⟨line, member, ?_⟩
    rw [if_pos isSource, isDestination]
    rfl
  cases found : containerToFlows source with
  | none =>
      have flows := gathers.flows source
      rw [found] at flows
      exact absurd flows.symm hasFlow
  | some flows =>
      refine ⟨source, flows, isSource, ?_⟩
      rw [clientApps_eq_filterMap]
      apply List.mem_filterMap.mpr
      refine
        ⟨line.umContainer,
          SimulationBase.mem_containerNames_of_assignIds isSource, ?_⟩
      unfold clientFor?
      rw [notGateway, isSource]
      dsimp only [Option.getD_some]
      rw [found]
      rfl

/-- The flows of a client are those of its container, sorted. -/
theorem exists_sorted_of_mem
    {client : ClientApp}
    (installed :
      client ∈ clientApps containerGroups fun containerId =>
        (containerToFlows containerId).map sort) :
    ∃ flows, containerToFlows client.containerId = some flows ∧
      client = setupClient client.containerId (sort flows) := by
  obtain ⟨containerId, _, found, rfl⟩ := exists_setupClient installed
  obtain ⟨flows, stored, rfl⟩ := Option.map_eq_some_iff.mp found
  exact ⟨flows, stored, rfl⟩

/-- After sorting every source container has its client. -/
theorem serves_of_gathers
    (sorts : Sorts sort)
    (gathers :
      Gathers (SimulationBase.assignIds containerGroups).containerToId lines
        containerToFlows) :
    Serves containerGroups lines
      (clientApps containerGroups fun containerId =>
        (containerToFlows containerId).map sort) where
  served := by
    intro line member notGateway
    obtain ⟨source, flows, isSource, installed⟩ :=
      mem_clientApps_of_line gathers member notGateway
    exact ⟨_, installed, isSource⟩
  flows := by
    intro client installed
    obtain ⟨flows, stored, isSorted⟩ := exists_sorted_of_mem installed
    have gathered := gathers.flows client.containerId
    rw [stored] at gathered
    rw [← gathered, isSorted]
    exact sorts.perm flows
  sorted := by
    intro client installed
    obtain ⟨flows, stored, isSorted⟩ := exists_sorted_of_mem installed
    rw [isSorted]
    exact sorts.sorted flows
  nonempty := by
    intro client installed
    obtain ⟨flows, stored, isSorted⟩ := exists_sorted_of_mem installed
    rw [isSorted]
    intro empty
    have noFlows : flows = [] :=
      List.perm_nil.mp
        ((sorts.perm flows).symm.trans (List.Perm.of_eq empty))
    subst noFlows
    exact gathers.nonempty client.containerId stored
  fresh := by
    intro client installed
    obtain ⟨flows, stored, isSorted⟩ := exists_sorted_of_mem installed
    rw [isSorted]
    rfl
  distinct := nodup_clientApps

end TraceSimulation

end SwitchV2P
