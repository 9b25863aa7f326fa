import Mathlib.Algebra.BigOperators.Group.List.Basic
import Mathlib.Data.List.AList
import SwitchV2P.SwitchApp

/-!
# Traffic matrices

In controller mode a `SwitchApp` counts the gateway-bound packets of every flow
until the controller asks for the counts.  An `unordered_map` is an association
list without repeated keys; nothing depends on the order of iteration.
-/

namespace AList

variable {K : Type} {V : Type} [DecidableEq K]

/-- What the entries of a table add up to. -/
def total
    (weight : K → V → Nat)
    (table : AList fun _ : K => V) :
    Nat :=
  (table.entries.map fun entry => weight entry.1 entry.2).sum

theorem mem_entries_iff
    {table : AList fun _ : K => V}
    {key : K}
    {value : V} :
    ⟨key, value⟩ ∈ table.entries ↔ table.lookup key = some value :=
  (List.mem_dlookup_iff table.nodupKeys).symm

/-- Only what the lookups find counts. -/
theorem total_eq_of_lookup
    (weight : K → V → Nat)
    {table other : AList fun _ : K => V}
    (agree : ∀ key, table.lookup key = other.lookup key) :
    table.total weight = other.total weight := by
  have same : table.entries.Perm other.entries := by
    refine List.lookup_ext table.nodupKeys other.nodupKeys ?_
    intro key value
    change value ∈ table.lookup key ↔ value ∈ other.lookup key
    rw [agree]
  exact (same.map _).sum_eq

/-- The new entry, and those of other keys. -/
theorem total_insert
    (weight : K → V → Nat)
    (table : AList fun _ : K => V)
    (key : K)
    (value : V) :
    (table.insert key value).total weight =
      weight key value + (table.erase key).total weight := by
  unfold total
  rw [entries_insert, List.map_cons, List.sum_cons]
  rfl

/-- The entry of a key, and those of other keys. -/
theorem total_of_lookup
    (weight : K → V → Nat)
    {table : AList fun _ : K => V}
    {key : K}
    {value : V}
    (found : table.lookup key = some value) :
    table.total weight =
      weight key value + (table.erase key).total weight := by
  rw [← total_insert]
  refine total_eq_of_lookup weight fun other => ?_
  by_cases isKey : other = key
  · subst isKey
    rw [lookup_insert, found]
  · rw [lookup_insert_ne isKey]

theorem total_of_not_found
    (weight : K → V → Nat)
    {table : AList fun _ : K => V}
    {key : K}
    (absent : table.lookup key = none) :
    (table.erase key).total weight = table.total weight := by
  have missing : key ∉ table.keys := lookup_eq_none.mp absent
  unfold total erase
  dsimp only
  rw [List.kerase_of_notMem_keys missing]

end AList

namespace SwitchV2P

/-- `FlowInfo`. -/
structure FlowInfo where
  dstIp : Ipv4Address
  gwIp : Ipv4Address
  packetCount : UInt32
  deriving Repr, DecidableEq

/-- `TrafficMatrix`, by the source and the flow id. -/
abbrev TrafficMatrix :=
  AList fun _ : Ipv4Address × UInt32 => FlowInfo

namespace SwitchApp

/-- The members of a `SwitchApp` that change. -/
structure Members where
  cache : LRUCache Ipv4Address Ipv4Address
  trafficMatrix : TrafficMatrix

/-- `Setup`. -/
def Members.setup (memorySize : Nat) : Members where
  cache := .setCapacity memorySize
  trafficMatrix := ∅

/-- The flow that a packet belongs to. -/
def flowOf (packet : DataPacket) : Ipv4Address × UInt32 :=
  (packet.inner.source, packet.flowId)

/-- The entry of a flow after one more packet of it. -/
def countPacket
    (trafficMatrix : TrafficMatrix)
    (packet : DataPacket) :
    TrafficMatrix :=
  let info :=
    (trafficMatrix.lookup (flowOf packet)).getD
      { dstIp := 0, gwIp := 0, packetCount := 0 }
  trafficMatrix.insert (flowOf packet)
    { dstIp := packet.inner.destination
      gwIp := packet.outer.destination
      packetCount := info.packetCount + 1 }

/-- `ReceivePacket`: in controller mode count, and redirect on a hit. -/
def Members.receivePacket
    (gwAddresses : List Ipv4Address)
    (switchMode : Mode)
    (members : Members)
    (packet : DataPacket) :
    Members × DataPacket :=
  let trafficMatrix :=
    if switchMode = .controller ∧
        packet.outer.destination ∈ gwAddresses then
      countPacket members.trafficMatrix packet
    else
      members.trafficMatrix
  let received := SwitchApp.receivePacket gwAddresses members.cache packet
  ({ cache := received.1, trafficMatrix := trafficMatrix }, received.2)

/-- `GetTrafficMatrix`, which also clears it. -/
def Members.getTrafficMatrix (members : Members) : TrafficMatrix × Members :=
  (members.trafficMatrix, { members with trafficMatrix := ∅ })

/-- `BulkInsertToCache`. -/
def Members.bulkInsertToCache
    (members : Members)
    (items : List Mapping) :
    Members :=
  { members with cache := members.cache.bulkInsert items }

/-! ## What the switch counts -/

/-- The entry that a list of packets leaves for a flow. -/
def summary
    (packets : List DataPacket)
    (flow : Ipv4Address × UInt32) :
    Option FlowInfo :=
  let own := packets.filter fun packet => flowOf packet = flow
  own.getLast?.map fun last =>
    { dstIp := last.inner.destination
      gwIp := last.outer.destination
      packetCount := UInt32.ofNat own.length }

/-- The matrix says of every flow what its packets say. -/
def Summarises
    (packets : List DataPacket)
    (trafficMatrix : TrafficMatrix) :
    Prop :=
  ∀ flow, trafficMatrix.lookup flow = summary packets flow

theorem summarises_nil : Summarises [] ∅ := fun _ => rfl

theorem Summarises.countPacket
    {packets : List DataPacket}
    {trafficMatrix : TrafficMatrix}
    (summarises : Summarises packets trafficMatrix)
    (packet : DataPacket) :
    Summarises (packets ++ [packet])
      (countPacket trafficMatrix packet) := by
  intro flow
  unfold SwitchApp.countPacket summary
  dsimp only
  rw [List.filter_append]
  by_cases isFlow : flowOf packet = flow
  · subst isFlow
    have own :
        [packet].filter (fun other => flowOf other = flowOf packet) =
          [packet] := by
      simp
    rw [AList.lookup_insert, own, List.getLast?_concat, Option.map_some,
      summarises, List.length_append, List.length_singleton,
      UInt32.ofNat_add]
    congr 2
    unfold summary
    dsimp only
    cases last :
        (packets.filter fun other =>
          flowOf other = flowOf packet).getLast? with
    | none =>
        rw [List.getLast?_eq_none_iff.mp last]
        rfl
    | some latest => rfl
  · have other :
        [packet].filter (fun other => flowOf other = flow) = [] := by
      simp [isFlow]
    rw [AList.lookup_insert_ne (Ne.symm isFlow), other, List.append_nil]
    exact summarises flow

/-- The packets of a flow have one destination and one gateway. -/
def Consistent (packets : List DataPacket) : Prop :=
  ∀ first ∈ packets, ∀ second ∈ packets,
    flowOf first = flowOf second →
      first.inner.destination = second.inner.destination ∧
        first.outer.destination = second.outer.destination

/-- Counting the packets one by one gives a summary of them. -/
theorem summarises_foldl (packets : List DataPacket) :
    Summarises packets (packets.foldl countPacket ∅) := by
  induction packets using List.reverseRecOn with
  | nil => exact summarises_nil
  | append_singleton earlier packet inductionHypothesis =>
      rw [List.foldl_append]
      exact inductionHypothesis.countPacket packet

/-- A summary has an entry for the flow of each packet, and no other. -/
theorem Summarises.exists_packet
    {packets : List DataPacket}
    {trafficMatrix : TrafficMatrix}
    (summarises : Summarises packets trafficMatrix)
    {flow : Ipv4Address × UInt32}
    {info : FlowInfo}
    (found : trafficMatrix.lookup flow = some info) :
    ∃ packet ∈ packets, flowOf packet = flow ∧
      info.dstIp = packet.inner.destination ∧
      info.gwIp = packet.outer.destination ∧
      info.packetCount =
        UInt32.ofNat
          (packets.filter fun other => flowOf other = flow).length := by
  rw [summarises flow] at found
  obtain ⟨last, isLast, rfl⟩ := Option.map_eq_some_iff.mp found
  obtain ⟨member, isFlow⟩ :=
    List.mem_filter.mp (List.mem_of_getLast? isLast)
  exact ⟨last, member, of_decide_eq_true isFlow, rfl, rfl, rfl⟩

/-- Each packet adds its weight to the total. -/
theorem total_foldl_countPacket
    {packets : List DataPacket}
    (consistent : Consistent packets)
    (few : packets.length < 2 ^ 32)
    (weight : Ipv4Address → Ipv4Address → Ipv4Address → Nat) :
    (packets.foldl SwitchApp.countPacket ∅).total
        (fun flow info =>
          info.packetCount.toNat * weight flow.1 info.dstIp info.gwIp) =
      (packets.map fun packet =>
        weight packet.inner.source packet.inner.destination
          packet.outer.destination).sum := by
  induction packets using List.reverseRecOn with
  | nil => rfl
  | append_singleton earlier packet inductionHypothesis =>
      rw [List.length_append, List.length_singleton] at few
      have before :=
        inductionHypothesis
          (fun first isFirst second isSecond =>
            consistent first (List.mem_append_left _ isFirst) second
              (List.mem_append_left _ isSecond))
          (Nat.lt_of_succ_lt few)
      have isSummary := summarises_foldl earlier
      rw [List.foldl_append, List.foldl_cons, List.foldl_nil,
        List.map_append, List.sum_append, List.map_singleton,
        List.sum_singleton, ← before]
      generalize earlier.foldl SwitchApp.countPacket ∅ = table at isSummary ⊢
      unfold SwitchApp.countPacket
      rw [AList.total_insert]
      dsimp only
      cases found : table.lookup (flowOf packet) with
      | none =>
          rw [AList.total_of_not_found _ found, Nat.add_comm]
          congr 1
          exact Nat.one_mul _
      | some info =>
          obtain ⟨last, member, sameFlow, dst, gw, count⟩ :=
            isSummary.exists_packet found
          obtain ⟨sameDst, sameGw⟩ :=
            consistent last (List.mem_append_left _ member) packet
              (by simp) sameFlow
          have atMost :=
            List.length_filter_le
              (fun other => decide (flowOf other = flowOf packet))
              earlier
          have more :
              (info.packetCount + 1).toNat =
                info.packetCount.toNat + 1 := by
            rw [count, UInt32.toNat_add, UInt32.toNat_ofNat_of_lt'
              (by change _ < 2 ^ 32; omega)]
            exact Nat.mod_eq_of_lt (by change _ + 1 < 2 ^ 32; omega)
          rw [AList.total_of_lookup _ found, Option.getD_some, more, dst,
            gw, sameDst, sameGw, Nat.add_mul, Nat.one_mul,
            Nat.add_right_comm]
          rfl

/-- Adding up over the entries of a summary is adding up over its packets. -/
theorem Summarises.total_eq
    {packets : List DataPacket}
    {trafficMatrix : TrafficMatrix}
    (summarises : Summarises packets trafficMatrix)
    (consistent : Consistent packets)
    (few : packets.length < 2 ^ 32)
    (weight : Ipv4Address → Ipv4Address → Ipv4Address → Nat) :
    trafficMatrix.total
        (fun flow info =>
          info.packetCount.toNat * weight flow.1 info.dstIp info.gwIp) =
      (packets.map fun packet =>
        weight packet.inner.source packet.inner.destination
          packet.outer.destination).sum := by
  rw [← total_foldl_countPacket consistent few]
  refine AList.total_eq_of_lookup _ fun flow => ?_
  rw [summarises, summarises_foldl packets]

end SwitchApp

end SwitchV2P
