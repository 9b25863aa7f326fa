import Mathlib.Algebra.GroupWithZero.Nat
import Mathlib.Algebra.BigOperators.Group.List.Basic
import Mathlib.Data.List.AList
import SwitchV2P.RunningExtrema
import SwitchV2P.TransitionSystem

namespace SwitchV2P

open RunningExtrema

/-!
# Per-flow statistics

`TraceSimulation` keeps a `FlowStats` for every flow of which a client has sent
a packet, updates it on every delivery and averages over all of them when the
simulation stops.  Times are nanoseconds in a `uint64_t`; packet counters are
natural numbers.
-/

structure PacketStats where
  txTime : UInt64
  rxTime : UInt64
  deriving Repr, DecidableEq

structure FlowStats where
  first : PacketStats
  last : PacketStats
  count : Nat
  disorder : Nat
  deriving Repr, DecidableEq

/-- The members of `TraceSimulation` behind the per-flow statistics. -/
structure FlowStatistics where
  stopTime : UInt64
  sentPackets : Nat
  receivedPackets : Nat
  totalPacketLatency : UInt64
  flowStats : AList fun _ : UInt32 => FlowStats

namespace FlowStatistics

/-- Before the first event. -/
def start (stopTime : UInt64) : FlowStatistics where
  stopTime := stopTime
  sentPackets := 0
  receivedPackets := 0
  totalPacketLatency := 0
  flowStats := ∅

/-- `ClientTx` at the simulation time `now`. -/
def clientTx
    (statistics : FlowStatistics)
    (now : UInt64)
    (flowId : UInt32) :
    FlowStatistics :=
  let statistics :=
    { statistics with sentPackets := statistics.sentPackets + 1 }
  if flowId = 0 then
    statistics
  else
    match statistics.flowStats.lookup flowId with
    | some _ => statistics
    | none =>
        { statistics with
          flowStats :=
            statistics.flowStats.insert flowId
              { first := { txTime := now, rxTime := statistics.stopTime }
                last := { txTime := now, rxTime := now }
                count := 0
                disorder := 0 } }

/-- `SinkRx`, without the hop count. -/
def sinkRx
    (statistics : FlowStatistics)
    (txTime rxTime : UInt64)
    (flowId : UInt32) :
    FlowStatistics :=
  match statistics.flowStats.lookup flowId with
  | none => statistics
  | some stats =>
      { statistics with
        receivedPackets := statistics.receivedPackets + 1
        totalPacketLatency :=
          statistics.totalPacketLatency + (rxTime - txTime)
        flowStats :=
          statistics.flowStats.insert flowId
            { first :=
                { txTime := min stats.first.txTime txTime
                  rxTime := min stats.first.rxTime rxTime }
              last :=
                { txTime := max stats.last.txTime txTime
                  rxTime := max stats.last.rxTime rxTime }
              count := stats.count + 1
              disorder := stats.disorder } }

/-- `RecordCongState`; the flag says that the new state is `CA_DISORDER`. -/
def recordCongState
    (statistics : FlowStatistics)
    (isDisorder : Bool)
    (flowId : UInt32) :
    FlowStatistics :=
  match statistics.flowStats.lookup flowId with
  | none => statistics
  | some stats =>
      if isDisorder ∧ flowId ≠ 0 then
        { statistics with
          flowStats :=
            statistics.flowStats.insert flowId
              { stats with disorder := stats.disorder + 1 } }
      else
        statistics

/-- The term of a flow in `totalFirstPacketLatency` of `StopSimulation`. -/
def firstPacketLatency (stats : FlowStats) : UInt64 :=
  stats.first.rxTime - stats.first.txTime

/-- The term of a flow in `totalFct` of `StopSimulation`. -/
def completionTime (stats : FlowStats) : UInt64 :=
  stats.last.rxTime - stats.first.txTime

/-! ## What has happened -/

/-- What is reported to the statistics. -/
inductive Event where
  | clientTx (now : UInt64) (flowId : UInt32)
  | sinkRx (txTime rxTime : UInt64) (flowId : UInt32)
  | recordCongState (isDisorder : Bool) (flowId : UInt32)
  deriving Repr, DecidableEq

def perform (statistics : FlowStatistics) : Event → FlowStatistics
  | .clientTx now flowId => statistics.clientTx now flowId
  | .sinkRx txTime rxTime flowId =>
      statistics.sinkRx txTime rxTime flowId
  | .recordCongState isDisorder flowId =>
      statistics.recordCongState isDisorder flowId

/-- The transmit time of an event in which a client sends for a flow. -/
def Event.sent? (flowId : UInt32) : Event → Option UInt64
  | .clientTx now flow => if flow = flowId then some now else none
  | _ => none

/-- The transmit and receive times of a delivery of a flow. -/
def Event.delivered? (flowId : UInt32) : Event → Option PacketStats
  | .sinkRx txTime rxTime flow =>
      if flow = flowId then
        some { txTime := txTime, rxTime := rxTime }
      else
        none
  | _ => none

/-- The transmit time that an event carries for a flow. -/
def Event.transmitted? (flowId : UInt32) : Event → Option UInt64
  | .clientTx now flow => if flow = flowId then some now else none
  | .sinkRx txTime _ flow => if flow = flowId then some txTime else none
  | .recordCongState _ _ => none

/-- When a client first sent for the flow. -/
def firstSent? (history : List Event) (flowId : UInt32) : Option UInt64 :=
  (history.filterMap (Event.sent? flowId)).head?

/-- The deliveries of a flow, in order. -/
def deliveries (history : List Event) (flowId : UInt32) :
    List PacketStats :=
  history.filterMap (Event.delivered? flowId)

/-- All transmit times of a flow. -/
def transmitTimes (history : List Event) (flowId : UInt32) :
    List UInt64 :=
  history.filterMap (Event.transmitted? flowId)

/-- All receive times of a flow. -/
def receiveTimes (history : List Event) (flowId : UInt32) :
    List UInt64 :=
  (deliveries history flowId).map PacketStats.rxTime

/-- The flow of an event. -/
def Event.flowId : Event → UInt32
  | .clientTx _ flowId => flowId
  | .sinkRx _ _ flowId => flowId
  | .recordCongState _ flowId => flowId

/--
The simulation time of an event.  A delivery happens at its receive time; the
time of a congestion event does not matter.
-/
def Event.time? : Event → Option UInt64
  | .clientTx now _ => some now
  | .sinkRx _ rxTime _ => some rxTime
  | .recordCongState _ _ => none

/-- The statistics, the clock, and all events so far, the latest one last. -/
structure Recorded where
  statistics : FlowStatistics
  now : UInt64
  history : List Event

namespace Recorded

def start (stopTime : UInt64) : Recorded where
  statistics := FlowStatistics.start stopTime
  now := 0
  history := []

/-- An event takes place. -/
def record (state : Recorded) (event : Event) : Recorded where
  statistics := state.statistics.perform event
  now := event.time?.getD state.now
  history := state.history ++ [event]

end Recorded

def recorder : TransitionSystem Recorded Event where
  step := fun state event => some (state.record event)

/--
Time does not go back nor beyond the stop time, flows have nonzero ids, and
what is delivered was sent after the flow's first packet was.
-/
structure Admissible (state : Recorded) (event : Event) : Prop where
  flowId_ne_zero : event.flowId ≠ 0
  time :
    ∀ time, event.time? = some time →
      state.now ≤ time ∧ time ≤ state.statistics.stopTime
  sent :
    ∀ txTime rxTime flowId, event = .sinkRx txTime rxTime flowId →
      txTime ≤ rxTime ∧
        ∃ sent, firstSent? state.history flowId = some sent ∧
          sent ≤ txTime

/-! ## One event -/

variable
  {statistics : FlowStatistics}
  {history : List Event}
  {event : Event}
  {flowId : UInt32}

theorem firstSent?_append :
    firstSent? (history ++ [event]) flowId =
      (firstSent? history flowId).or (event.sent? flowId) := by
  unfold firstSent?
  rw [List.filterMap_append, List.head?_append]
  cases sent : event.sent? flowId with
  | none => rw [List.filterMap_cons_none sent]; rfl
  | some time => rw [List.filterMap_cons_some sent]; rfl

/-- The first packet stays the first. -/
theorem firstSent?_append_of_some
    {sent : UInt64}
    (first : firstSent? history flowId = some sent) :
    firstSent? (history ++ [event]) flowId = some sent := by
  rw [firstSent?_append, first]
  rfl

theorem deliveries_append :
    deliveries (history ++ [event]) flowId =
      deliveries history flowId ++ (event.delivered? flowId).toList := by
  unfold deliveries
  rw [List.filterMap_append]
  cases delivered : event.delivered? flowId with
  | none => rw [List.filterMap_cons_none delivered]; rfl
  | some stats => rw [List.filterMap_cons_some delivered]; rfl

/-- An event is about its own flow only. -/
theorem sent?_of_ne (different : event.flowId ≠ flowId) :
    event.sent? flowId = none := by
  cases event with
  | clientTx now flow => exact if_neg different
  | sinkRx txTime rxTime flow => rfl
  | recordCongState isDisorder flow => rfl

theorem delivered?_of_ne (different : event.flowId ≠ flowId) :
    event.delivered? flowId = none := by
  cases event with
  | clientTx now flow => rfl
  | sinkRx txTime rxTime flow => exact if_neg different
  | recordCongState isDisorder flow => rfl

theorem lookup_perform_of_ne (different : event.flowId ≠ flowId) :
    (statistics.perform event).flowStats.lookup flowId =
      statistics.flowStats.lookup flowId := by
  have apart : flowId ≠ event.flowId := Ne.symm different
  cases event with
  | clientTx now flow =>
      change (statistics.clientTx now flow).flowStats.lookup flowId = _
      unfold clientTx
      dsimp only
      split
      · rfl
      · split
        · rfl
        · exact AList.lookup_insert_ne apart
  | sinkRx txTime rxTime flow =>
      change (statistics.sinkRx txTime rxTime flow).flowStats.lookup flowId = _
      unfold sinkRx
      split
      · rfl
      · exact AList.lookup_insert_ne apart
  | recordCongState isDisorder flow =>
      change
        (statistics.recordCongState isDisorder flow).flowStats.lookup
          flowId = _
      unfold recordCongState
      split
      · rfl
      · split
        · exact AList.lookup_insert_ne apart
        · rfl

theorem stopTime_perform :
    (statistics.perform event).stopTime = statistics.stopTime := by
  cases event with
  | clientTx now flow =>
      change (statistics.clientTx now flow).stopTime = _
      unfold clientTx
      dsimp only
      split
      · rfl
      · split <;> rfl
  | sinkRx txTime rxTime flow =>
      change (statistics.sinkRx txTime rxTime flow).stopTime = _
      unfold sinkRx
      split <;> rfl
  | recordCongState isDisorder flow =>
      change (statistics.recordCongState isDisorder flow).stopTime = _
      unfold recordCongState
      split
      · rfl
      · split <;> rfl

/-- The record of a flow after its first packet was sent. -/
def freshStats (now stopTime : UInt64) : FlowStats where
  first := { txTime := now, rxTime := stopTime }
  last := { txTime := now, rxTime := now }
  count := 0
  disorder := 0

/-- The record of a flow after a delivery. -/
def deliver (stats : FlowStats) (txTime rxTime : UInt64) : FlowStats where
  first :=
    { txTime := min stats.first.txTime txTime
      rxTime := min stats.first.rxTime rxTime }
  last :=
    { txTime := max stats.last.txTime txTime
      rxTime := max stats.last.rxTime rxTime }
  count := stats.count + 1
  disorder := stats.disorder

theorem clientTx_of_unknown
    {now : UInt64}
    (flowId_ne_zero : flowId ≠ 0)
    (unknown : statistics.flowStats.lookup flowId = none) :
    (statistics.clientTx now flowId).flowStats =
      statistics.flowStats.insert flowId
        (freshStats now statistics.stopTime) := by
  unfold clientTx
  dsimp only
  rw [if_neg flowId_ne_zero, unknown]
  rfl

theorem clientTx_of_known
    {now : UInt64}
    {stats : FlowStats}
    (known : statistics.flowStats.lookup flowId = some stats) :
    (statistics.clientTx now flowId).flowStats = statistics.flowStats := by
  unfold clientTx
  dsimp only
  split
  · rfl
  · rw [known]

theorem receivedPackets_clientTx (now : UInt64) (flowId : UInt32) :
    (statistics.clientTx now flowId).receivedPackets =
      statistics.receivedPackets := by
  unfold clientTx
  dsimp only
  split
  · rfl
  · split <;> rfl

theorem flowStats_sinkRx
    {txTime rxTime : UInt64}
    {stats : FlowStats}
    (known : statistics.flowStats.lookup flowId = some stats) :
    (statistics.sinkRx txTime rxTime flowId).flowStats =
      statistics.flowStats.insert flowId (deliver stats txTime rxTime) := by
  unfold sinkRx
  rw [known]
  rfl

theorem receivedPackets_sinkRx
    {txTime rxTime : UInt64}
    {stats : FlowStats}
    (known : statistics.flowStats.lookup flowId = some stats) :
    (statistics.sinkRx txTime rxTime flowId).receivedPackets =
      statistics.receivedPackets + 1 := by
  unfold sinkRx
  rw [known]

/-- A congestion event may only change the counter of its flow. -/
theorem recordCongState_cases (isDisorder : Bool) (flowId : UInt32) :
    statistics.recordCongState isDisorder flowId = statistics ∨
      ∃ stats disorder,
        statistics.flowStats.lookup flowId = some stats ∧
          statistics.recordCongState isDisorder flowId =
            { statistics with
              flowStats :=
                statistics.flowStats.insert flowId
                  { stats with disorder := disorder } } := by
  unfold recordCongState
  split
  next unknown => exact Or.inl rfl
  next stats known =>
    split
    · exact Or.inr ⟨stats, _, known, rfl⟩
    · exact Or.inl rfl

/-! ## Sums over all flows -/

/-- The sum of the counts. -/
def deliveredCount (flowStats : AList fun _ : UInt32 => FlowStats) : Nat :=
  (flowStats.entries.map fun entry => entry.2.count).sum

section

variable {flowStats : AList fun _ : UInt32 => FlowStats}

/-- A new record adds its count. -/
theorem deliveredCount_insert_of_unknown
    (unknown : flowStats.lookup flowId = none)
    (stats : FlowStats) :
    deliveredCount (flowStats.insert flowId stats) =
      stats.count + deliveredCount flowStats := by
  unfold deliveredCount
  rw [AList.entries_insert_of_notMem (AList.lookup_eq_none.mp unknown),
    List.map_cons, List.sum_cons]

/-- A changed record replaces its count. -/
theorem deliveredCount_insert_of_known
    {old : FlowStats}
    (known : flowStats.lookup flowId = some old)
    (stats : FlowStats) :
    deliveredCount (flowStats.insert flowId stats) + old.count =
      stats.count + deliveredCount flowStats := by
  have present : flowId ∈ flowStats.entries.keys := by
    apply AList.lookup_isSome.mp
    rw [known]
    rfl
  obtain ⟨held, before, after, _, split, erased⟩ :=
    List.exists_of_kerase present
  have isHeld : held = old := by
    have member : Sigma.mk flowId held ∈ flowStats.entries := by
      rw [split]
      exact List.mem_append_right _ List.mem_cons_self
    exact
      Option.some.inj
        ((AList.mem_lookup_iff.mpr member).symm.trans known)
  subst isHeld
  unfold deliveredCount
  rw [AList.entries_insert, erased, split]
  simp only [List.map_cons, List.sum_cons, List.map_append, List.sum_append]
  omega

end

/-! ## Times -/

theorem min_eq_ite (first second : UInt64) :
    min first second = if first ≤ second then first else second :=
  rfl

theorem max_eq_ite (first second : UInt64) :
    max first second = if first ≤ second then second else first :=
  rfl

theorem selects_min :
    Selects (fun first second : UInt64 => first ≤ second) min := by
  apply Selects.of_chooses UInt64.le_refl UInt64.le_trans UInt64.le_antisymm
  intro first second
  rw [min_eq_ite]
  split
  next le => exact Or.inl ⟨rfl, le⟩
  next notLe =>
    exact
      Or.inr ⟨rfl, (UInt64.le_total first second).resolve_left notLe⟩

theorem selects_max :
    Selects (fun first second : UInt64 => second ≤ first) max := by
  refine
    Selects.of_chooses UInt64.le_refl
      (fun first second => UInt64.le_trans second first)
      (fun first second => UInt64.le_antisymm second first)
      (fun first second => ?_)
  rw [max_eq_ite]
  split
  next le => exact Or.inr ⟨rfl, le⟩
  next notLe =>
    exact
      Or.inl ⟨rfl, (UInt64.le_total first second).resolve_left notLe⟩

/-! ## The history of a run -/

/-- A client sends at the time of the event. -/
theorem time?_of_sent?
    {sent : UInt64}
    (isSent : event.sent? flowId = some sent) :
    event.time? = some sent := by
  cases event with
  | clientTx now flow =>
      have same : (if flow = flowId then some now else none) = some sent :=
        isSent
      split at same
      next isFlow => exact same
      next other => exact absurd same.symm (Option.some_ne_none sent)
  | sinkRx txTime rxTime flow =>
      exact absurd isSent.symm (Option.some_ne_none sent)
  | recordCongState isDisorder flow =>
      exact absurd isSent.symm (Option.some_ne_none sent)

theorem transmitted?_of_sent?
    {sent : UInt64}
    (isSent : event.sent? flowId = some sent) :
    event.transmitted? flowId = some sent := by
  cases event with
  | clientTx now flow => exact isSent
  | sinkRx txTime rxTime flow =>
      exact absurd isSent.symm (Option.some_ne_none sent)
  | recordCongState isDisorder flow =>
      exact absurd isSent.symm (Option.some_ne_none sent)

/-- An event with a transmit time is a transmission or a delivery. -/
theorem transmitted?_cases
    {time : UInt64}
    (transmitted : event.transmitted? flowId = some time) :
    event.sent? flowId = some time ∨
      ∃ rxTime, event = .sinkRx time rxTime flowId := by
  cases event with
  | clientTx now flow => exact Or.inl transmitted
  | sinkRx txTime rxTime flow =>
      have same :
          (if flow = flowId then some txTime else none) = some time :=
        transmitted
      split at same
      next isFlow =>
        subst isFlow
        obtain rfl := Option.some.inj same
        exact Or.inr ⟨rxTime, rfl⟩
      next other => exact absurd same.symm (Option.some_ne_none time)
  | recordCongState isDisorder flow =>
      exact absurd transmitted.symm (Option.some_ne_none time)

theorem eq_sinkRx_of_delivered?
    {stats : PacketStats}
    (delivered : event.delivered? flowId = some stats) :
    event = .sinkRx stats.txTime stats.rxTime flowId := by
  cases event with
  | clientTx now flow =>
      exact absurd delivered.symm (Option.some_ne_none stats)
  | sinkRx txTime rxTime flow =>
      have same :
          (if flow = flowId then
              some ({ txTime := txTime, rxTime := rxTime } : PacketStats)
            else
              none) =
            some stats :=
        delivered
      split at same
      next isFlow =>
        subst isFlow
        obtain rfl := Option.some.inj same
        rfl
      next other => exact absurd same.symm (Option.some_ne_none stats)
  | recordCongState isDisorder flow =>
      exact absurd delivered.symm (Option.some_ne_none stats)

theorem mem_transmitTimes_append
    {time : UInt64}
    (member : time ∈ transmitTimes (history ++ [event]) flowId) :
    time ∈ transmitTimes history flowId ∨
      event.transmitted? flowId = some time := by
  obtain ⟨other, inside, transmitted⟩ := List.mem_filterMap.mp member
  rcases List.mem_append.mp inside with earlier | latest
  · exact Or.inl (List.mem_filterMap.mpr ⟨other, earlier, transmitted⟩)
  · obtain rfl := List.mem_singleton.mp latest
    exact Or.inr transmitted

theorem mem_receiveTimes_append
    {time : UInt64}
    (member : time ∈ receiveTimes (history ++ [event]) flowId) :
    time ∈ receiveTimes history flowId ∨
      ∃ txTime, event = .sinkRx txTime time flowId := by
  obtain ⟨stats, inside, rfl⟩ := List.mem_map.mp member
  rw [deliveries_append] at inside
  rcases List.mem_append.mp inside with earlier | latest
  · exact Or.inl (List.mem_map_of_mem earlier)
  · exact
      Or.inr
        ⟨stats.txTime,
          eq_sinkRx_of_delivered? (Option.mem_toList.mp latest)⟩

/-- The first packet of a flow is a transmission. -/
theorem mem_transmitTimes_of_firstSent?
    {sent : UInt64}
    (first : firstSent? history flowId = some sent) :
    sent ∈ transmitTimes history flowId := by
  obtain ⟨event, inside, isSent⟩ :=
    List.mem_filterMap.mp (List.mem_of_head? first)
  exact
    List.mem_filterMap.mpr ⟨event, inside, transmitted?_of_sent? isSent⟩

/-- A first packet was the first before or is sent by the latest event. -/
theorem firstSent?_append_cases
    {sent : UInt64}
    (first : firstSent? (history ++ [event]) flowId = some sent) :
    firstSent? history flowId = some sent ∨
      event.sent? flowId = some sent := by
  rw [firstSent?_append] at first
  rcases Option.or_eq_some_iff.mp first with earlier | ⟨_, latest⟩
  · exact Or.inl earlier
  · exact Or.inr latest

namespace Recorded

/--
All times lie between the first packet of their flow and the stop time, and
the clock has reached every packet that was sent.
-/
structure Timed (state : Recorded) : Prop where
  now_le_stopTime : state.now ≤ state.statistics.stopTime
  sent_le_now :
    ∀ flowId sent, firstSent? state.history flowId = some sent →
      sent ≤ state.now
  transmitted :
    ∀ flowId, ∀ time ∈ transmitTimes state.history flowId,
      ∃ sent, firstSent? state.history flowId = some sent ∧ sent ≤ time
  received :
    ∀ flowId, ∀ time ∈ receiveTimes state.history flowId,
      time ≤ state.statistics.stopTime ∧
        ∃ sent, firstSent? state.history flowId = some sent ∧ sent ≤ time

variable {state : Recorded}

theorem stopTime_record :
    (state.record event).statistics.stopTime = state.statistics.stopTime :=
  stopTime_perform

theorem timed_start (stopTime : UInt64) : (start stopTime).Timed where
  now_le_stopTime := UInt64.le_iff_toNat_le.mpr (Nat.zero_le _)
  sent_le_now := fun _ sent first =>
    absurd first.symm (Option.some_ne_none sent)
  transmitted := fun _ _ member => absurd member List.not_mem_nil
  received := fun _ _ member => absurd member List.not_mem_nil

/-- The clock does not go back. -/
theorem now_le_record (admissible : Admissible state event) :
    state.now ≤ (state.record event).now := by
  unfold record
  cases hasTime : event.time? with
  | none => exact UInt64.le_refl state.now
  | some time => exact (admissible.time time hasTime).1

/-- A packet of a flow is sent after its first one. -/
theorem Timed.transmitted_record
    (timed : state.Timed)
    (admissible : Admissible state event)
    {time : UInt64}
    (member : time ∈ transmitTimes (state.history ++ [event]) flowId) :
    ∃ sent,
      firstSent? (state.history ++ [event]) flowId = some sent ∧
        sent ≤ time := by
  rcases mem_transmitTimes_append member with earlier | latest
  · obtain ⟨sent, first, before⟩ := timed.transmitted flowId time earlier
    exact ⟨sent, firstSent?_append_of_some first, before⟩
  · rcases transmitted?_cases latest with isSent | ⟨rxTime, isDelivery⟩
    · cases first : firstSent? state.history flowId with
      | none =>
          refine ⟨time, ?_, UInt64.le_refl time⟩
          exact firstSent?_append.trans (by rw [first, isSent]; rfl)
      | some sent =>
          have inOrder := (admissible.time time (time?_of_sent? isSent)).1
          exact
            ⟨sent, firstSent?_append_of_some first,
              UInt64.le_trans (timed.sent_le_now flowId sent first)
                inOrder⟩
    · obtain ⟨_, sent, first, before⟩ :=
        admissible.sent time rxTime flowId isDelivery
      exact ⟨sent, firstSent?_append_of_some first, before⟩

/-- A packet of a flow is received in time and after the first was sent. -/
theorem Timed.received_record
    (timed : state.Timed)
    (admissible : Admissible state event)
    {time : UInt64}
    (member : time ∈ receiveTimes (state.history ++ [event]) flowId) :
    time ≤ state.statistics.stopTime ∧
      ∃ sent,
        firstSent? (state.history ++ [event]) flowId = some sent ∧
          sent ≤ time := by
  rcases mem_receiveTimes_append member with earlier | ⟨txTime, latest⟩
  · obtain ⟨inTime, sent, first, before⟩ :=
      timed.received flowId time earlier
    exact ⟨inTime, sent, firstSent?_append_of_some first, before⟩
  · obtain ⟨inOrder, sent, first, before⟩ :=
      admissible.sent txTime time flowId latest
    have hasTime : event.time? = some time := by
      rw [latest]
      rfl
    exact
      ⟨(admissible.time time hasTime).2, sent,
        firstSent?_append_of_some first, UInt64.le_trans before inOrder⟩

theorem Timed.record
    (timed : state.Timed)
    (admissible : Admissible state event) :
    (state.record event).Timed where
  now_le_stopTime := by
    rw [stopTime_record]
    unfold Recorded.record
    cases hasTime : event.time? with
    | none => exact timed.now_le_stopTime
    | some time => exact (admissible.time time hasTime).2
  sent_le_now := by
    intro flowId sent first
    rcases firstSent?_append_cases first with earlier | latest
    · exact
        UInt64.le_trans (timed.sent_le_now flowId sent earlier)
          (now_le_record admissible)
    · have hasTime := time?_of_sent? latest
      unfold Recorded.record
      rw [hasTime]
      exact UInt64.le_refl sent
  transmitted := fun _ _ => timed.transmitted_record admissible
  received := by
    intro flowId time member
    rw [stopTime_record]
    exact timed.received_record admissible member

end Recorded

/-! ## What a record holds -/

/-- A record holds the extrema over the deliveries of its flow. -/
structure Tracks
    (stopTime : UInt64)
    (history : List Event)
    (flowId : UInt32)
    (stats : FlowStats) : Prop where
  sent : firstSent? history flowId = some stats.first.txTime
  firstReceived :
    stats.first.rxTime = (receiveTimes history flowId).foldl min stopTime
  lastReceived :
    stats.last.rxTime =
      (receiveTimes history flowId).foldl max stats.first.txTime
  count : stats.count = (deliveries history flowId).length

variable
  {stopTime : UInt64}
  {stats : FlowStats}

theorem receiveTimes_append :
    receiveTimes (history ++ [event]) flowId =
      receiveTimes history flowId ++
        (event.delivered? flowId).toList.map PacketStats.rxTime := by
  unfold receiveTimes
  rw [deliveries_append, List.map_append]

theorem tracks_freshStats
    {now : UInt64}
    (unsent : firstSent? history flowId = none)
    (undelivered : deliveries history flowId = []) :
    Tracks stopTime (history ++ [.clientTx now flowId]) flowId
      (freshStats now stopTime) := by
  have silent :
      deliveries (history ++ [.clientTx now flowId]) flowId = [] := by
    rw [deliveries_append, undelivered]
    rfl
  have noneReceived :
      receiveTimes (history ++ [.clientTx now flowId]) flowId = [] := by
    unfold receiveTimes
    rw [silent]
    rfl
  refine
    { sent := ?_
      firstReceived := by rw [noneReceived]; rfl
      lastReceived := by rw [noneReceived]; rfl
      count := by rw [silent]; rfl }
  rw [firstSent?_append, unsent]
  exact if_pos rfl

namespace Tracks

/-- A delivery keeps the extrema, as it comes after the first packet. -/
theorem deliver
    {txTime rxTime : UInt64}
    (tracks : Tracks stopTime history flowId stats)
    (after : stats.first.txTime ≤ txTime) :
    Tracks stopTime (history ++ [.sinkRx txTime rxTime flowId]) flowId
      (deliver stats txTime rxTime) := by
  have delivered :
      Event.delivered? flowId (.sinkRx txTime rxTime flowId) =
        some { txTime := txTime, rxTime := rxTime } :=
    if_pos rfl
  have keepsFirst :
      (FlowStatistics.deliver stats txTime rxTime).first.txTime =
        stats.first.txTime := by
    exact Std.min_eq_if.trans (if_pos after)
  have times :
      receiveTimes (history ++ [.sinkRx txTime rxTime flowId]) flowId =
        receiveTimes history flowId ++ [rxTime] := by
    rw [receiveTimes_append, delivered]
    rfl
  refine
    { sent := ?_
      firstReceived := ?_
      lastReceived := ?_
      count := ?_ }
  · rw [keepsFirst]
    exact firstSent?_append_of_some tracks.sent
  · rw [times, List.foldl_append, ← tracks.firstReceived]
    rfl
  · rw [times, List.foldl_append, keepsFirst, ← tracks.lastReceived]
    rfl
  · rw [deliveries_append, delivered, List.length_append, ← tracks.count]
    rfl

/-- What is no delivery of the flow leaves its record as it is. -/
theorem append_of_silent
    (tracks : Tracks stopTime history flowId stats)
    (silent : event.delivered? flowId = none) :
    Tracks stopTime (history ++ [event]) flowId stats := by
  have sameDeliveries :
      deliveries (history ++ [event]) flowId =
        deliveries history flowId := by
    rw [deliveries_append, silent]
    exact List.append_nil _
  have sameTimes :
      receiveTimes (history ++ [event]) flowId =
        receiveTimes history flowId := by
    unfold receiveTimes
    rw [sameDeliveries]
  exact
    { sent := firstSent?_append_of_some tracks.sent
      firstReceived := by rw [sameTimes]; exact tracks.firstReceived
      lastReceived := by rw [sameTimes]; exact tracks.lastReceived
      count := by rw [sameDeliveries]; exact tracks.count }

end Tracks

namespace Recorded

/-- A flow has a record that tracks it, or has not sent yet. -/
structure Follows (state : Recorded) (flowId : UInt32) : Prop where
  known :
    ∀ stats, state.statistics.flowStats.lookup flowId = some stats →
      Tracks state.statistics.stopTime state.history flowId stats
  unknown :
    state.statistics.flowStats.lookup flowId = none →
      firstSent? state.history flowId = none

/-- All flows are followed and the counter is the sum of the counts. -/
structure Consistent (state : Recorded) : Prop where
  timed : state.Timed
  follows : ∀ flowId, state.Follows flowId
  receivedPackets :
    state.statistics.receivedPackets =
      deliveredCount state.statistics.flowStats

theorem consistent_start (stopTime : UInt64) :
    (start stopTime).Consistent where
  timed := timed_start stopTime
  follows := fun _ =>
    { known := fun stats found =>
        absurd found.symm (Option.some_ne_none stats)
      unknown := fun _ => rfl }
  receivedPackets := rfl

variable {state : Recorded}

/-- Nothing is delivered of a flow that has not sent. -/
theorem Timed.deliveries_eq_nil
    (timed : state.Timed)
    (unsent : firstSent? state.history flowId = none) :
    deliveries state.history flowId = [] := by
  cases found : deliveries state.history flowId with
  | nil => rfl
  | cons stats rest =>
      have member : stats.rxTime ∈ receiveTimes state.history flowId := by
        apply List.mem_map_of_mem
        rw [found]
        exact List.mem_cons_self
      obtain ⟨_, sent, first, _⟩ := timed.received flowId _ member
      rw [unsent] at first
      exact absurd first.symm (Option.some_ne_none sent)

/-- An event that is not about a flow leaves it alone. -/
theorem Follows.record_of_silent
    (follows : state.Follows flowId)
    (sameRecord :
      (state.record event).statistics.flowStats.lookup flowId =
        state.statistics.flowStats.lookup flowId)
    (undelivered : event.delivered? flowId = none)
    (unsent : event.sent? flowId = none) :
    (state.record event).Follows flowId where
  known := by
    intro stats found
    rw [stopTime_record]
    exact
      (follows.known stats (sameRecord.symm.trans found)).append_of_silent
        undelivered
  unknown := by
    intro found
    have earlier := follows.unknown (sameRecord.symm.trans found)
    exact firstSent?_append.trans (by rw [earlier, unsent]; rfl)

/-- A record that tracks its flow after an event. -/
theorem follows_record_of_lookup
    (found :
      (state.record event).statistics.flowStats.lookup flowId = some stats)
    (tracks :
      Tracks state.statistics.stopTime (state.history ++ [event]) flowId
        stats) :
    (state.record event).Follows flowId where
  known := by
    intro other foundOther
    rw [stopTime_record]
    obtain rfl := Option.some.inj (found.symm.trans foundOther)
    exact tracks
  unknown := fun absent =>
    absurd (found.symm.trans absent) (Option.some_ne_none stats)

/-- The counter of deliveries is the sum of the counts. -/
def Balanced (statistics : FlowStatistics) : Prop :=
  statistics.receivedPackets = deliveredCount statistics.flowStats

namespace Consistent

theorem record_clientTx
    {now : UInt64}
    (consistent : state.Consistent)
    (flowId_ne_zero : flowId ≠ 0) :
    (state.record (.clientTx now flowId)).Follows flowId ∧
      Balanced (state.statistics.clientTx now flowId) := by
  have follows := consistent.follows flowId
  unfold Balanced
  rw [receivedPackets_clientTx, consistent.receivedPackets]
  cases found : state.statistics.flowStats.lookup flowId with
  | none =>
      have inserted :
          (state.statistics.clientTx now flowId).flowStats =
            state.statistics.flowStats.insert flowId
              (freshStats now state.statistics.stopTime) :=
        clientTx_of_unknown flowId_ne_zero found
      have unsent := follows.unknown found
      constructor
      · have lookup := congrArg (AList.lookup flowId) inserted
        rw [AList.lookup_insert] at lookup
        exact
          follows_record_of_lookup lookup
            (tracks_freshStats unsent
              (consistent.timed.deliveries_eq_nil unsent))
      · rw [inserted, deliveredCount_insert_of_unknown found]
        exact (Nat.zero_add _).symm
  | some stats =>
      have same :
          (state.statistics.clientTx now flowId).flowStats =
            state.statistics.flowStats :=
        clientTx_of_known found
      constructor
      · have lookup := congrArg (AList.lookup flowId) same
        exact
          follows_record_of_lookup (lookup.trans found)
            ((follows.known stats found).append_of_silent rfl)
      · rw [same]

theorem record_sinkRx
    {txTime rxTime : UInt64}
    (consistent : state.Consistent)
    (admissible : Admissible state (.sinkRx txTime rxTime flowId)) :
    (state.record (.sinkRx txTime rxTime flowId)).Follows flowId ∧
      Balanced (state.statistics.sinkRx txTime rxTime flowId) := by
  have follows := consistent.follows flowId
  obtain ⟨_, sent, first, before⟩ :=
    admissible.sent txTime rxTime flowId rfl
  cases found : state.statistics.flowStats.lookup flowId with
  | none =>
      have unsent := follows.unknown found
      rw [first] at unsent
      exact absurd unsent (Option.some_ne_none sent)
  | some stats =>
      have tracks := follows.known stats found
      have inserted :
          (state.statistics.sinkRx txTime rxTime flowId).flowStats =
            state.statistics.flowStats.insert flowId
              (FlowStatistics.deliver stats txTime rxTime) :=
        flowStats_sinkRx found
      constructor
      · have lookup := congrArg (AList.lookup flowId) inserted
        rw [AList.lookup_insert] at lookup
        apply follows_record_of_lookup lookup
        apply tracks.deliver
        rw [Option.some.inj (tracks.sent.symm.trans first)]
        exact before
      · have replaced :=
          deliveredCount_insert_of_known found
            (FlowStatistics.deliver stats txTime rxTime)
        have count :
            (FlowStatistics.deliver stats txTime rxTime).count =
              1 + stats.count :=
          Nat.add_comm stats.count 1
        rw [count, Nat.add_right_comm] at replaced
        unfold Balanced
        rw [receivedPackets_sinkRx found, consistent.receivedPackets,
          inserted, Nat.add_comm]
        exact (Nat.add_right_cancel replaced).symm

theorem record_recordCongState
    {isDisorder : Bool}
    (consistent : state.Consistent) :
    (state.record (.recordCongState isDisorder flowId)).Follows flowId ∧
      Balanced (state.statistics.recordCongState isDisorder flowId) := by
  have follows := consistent.follows flowId
  rcases recordCongState_cases isDisorder flowId with
    same | ⟨stats, disorder, found, changed⟩
  · constructor
    · have sameRecord :=
        congrArg (fun statistics => statistics.flowStats.lookup flowId) same
      exact follows.record_of_silent sameRecord rfl rfl
    · unfold Balanced
      rw [same]
      exact consistent.receivedPackets
  · constructor
    · have lookup :
          (state.statistics.recordCongState isDisorder
              flowId).flowStats.lookup flowId =
            some { stats with disorder := disorder } := by
        rw [changed]
        exact AList.lookup_insert _
      have tracks :
          Tracks state.statistics.stopTime
            (state.history ++ [.recordCongState isDisorder flowId]) flowId
            stats :=
        (follows.known stats found).append_of_silent rfl
      apply follows_record_of_lookup lookup
      exact
        { sent := tracks.sent
          firstReceived := tracks.firstReceived
          lastReceived := tracks.lastReceived
          count := tracks.count }
    · have replaced :=
        deliveredCount_insert_of_known found
          { stats with disorder := disorder }
      unfold Balanced
      rw [changed, consistent.receivedPackets]
      rw [Nat.add_comm] at replaced
      exact (Nat.add_left_cancel replaced).symm

/-- Every event of a run keeps the statistics consistent. -/
theorem record
    (consistent : state.Consistent)
    (admissible : Admissible state event) :
    (state.record event).Consistent := by
  have atFlow :
      (state.record event).Follows event.flowId ∧
        Balanced (state.statistics.perform event) := by
    cases event with
    | clientTx now flow =>
        exact consistent.record_clientTx admissible.flowId_ne_zero
    | sinkRx txTime rxTime flow =>
        exact consistent.record_sinkRx admissible
    | recordCongState isDisorder flow =>
        exact consistent.record_recordCongState
  refine
    { timed := consistent.timed.record admissible
      follows := fun flowId => ?_
      receivedPackets := atFlow.2 }
  by_cases same : event.flowId = flowId
  · rw [← same]
    exact atFlow.1
  · exact
      (consistent.follows flowId).record_of_silent
        (lookup_perform_of_ne same) (delivered?_of_ne same)
        (sent?_of_ne same)

end Consistent

end Recorded

/-! ## The averages -/

/-- `time` is the earliest one, if there are any. -/
def IsEarliest (time : UInt64) (times : List UInt64) : Prop :=
  (∀ other ∈ times, time ≤ other) ∧ (times ≠ [] → time ∈ times)

/-- `time` is the latest one, if there are any. -/
def IsLatest (time : UInt64) (times : List UInt64) : Prop :=
  (∀ other ∈ times, other ≤ time) ∧ (times ≠ [] → time ∈ times)

/-- The record of a flow is ordered and says what happened to the flow. -/
structure Sound
    (history : List Event)
    (flowId : UInt32)
    (stats : FlowStats) : Prop where
  sent_le_received : stats.first.txTime ≤ stats.first.rxTime
  received_le_received : stats.first.rxTime ≤ stats.last.rxTime
  firstPacketLatency_exact :
    ((firstPacketLatency stats).toNat : Int) =
      stats.first.rxTime.toNat - stats.first.txTime.toNat
  completionTime_exact :
    ((completionTime stats).toNat : Int) =
      stats.last.rxTime.toNat - stats.first.txTime.toNat
  firstPacketLatency_le : firstPacketLatency stats ≤ completionTime stats
  firstSent : IsEarliest stats.first.txTime (transmitTimes history flowId)
  firstReceived :
    IsEarliest stats.first.rxTime (receiveTimes history flowId)
  lastReceived : IsLatest stats.last.rxTime (receiveTimes history flowId)
  count : stats.count = (deliveries history flowId).length

theorem toNat_sub_of_le
    {earlier later : UInt64}
    (inOrder : earlier ≤ later) :
    ((later - earlier).toNat : Int) = later.toNat - earlier.toNat := by
  rw [UInt64.toNat_sub_of_le _ _ inOrder]
  exact Int.ofNat_sub (UInt64.le_iff_toNat_le.mp inOrder)

/-- Every time of a flow is at least that of its first packet. -/
theorem Tracks.le_of_sent
    (tracks : Tracks stopTime history flowId stats)
    {time : UInt64}
    (sentBefore :
      ∃ sent, firstSent? history flowId = some sent ∧ sent ≤ time) :
    stats.first.txTime ≤ time := by
  obtain ⟨sent, first, before⟩ := sentBefore
  rw [Option.some.inj (tracks.sent.symm.trans first)]
  exact before

/-- The receive times lie before the stop time. -/
theorem Tracks.isEarliest
    (tracks : Tracks stopTime history flowId stats)
    (inTime : ∀ time ∈ receiveTimes history flowId, time ≤ stopTime) :
    IsEarliest stats.first.rxTime (receiveTimes history flowId) := by
  rw [tracks.firstReceived]
  constructor
  · exact fun time member => selects_min.foldl_mem _ member
  · intro nonempty
    exact selects_min.foldl_mem_of_start nonempty inTime

/-- The receive times come after the first packet. -/
theorem Tracks.isLatest
    (tracks : Tracks stopTime history flowId stats)
    (after :
      ∀ time ∈ receiveTimes history flowId, stats.first.txTime ≤ time) :
    IsLatest stats.last.rxTime (receiveTimes history flowId) := by
  rw [tracks.lastReceived]
  constructor
  · exact fun time member => selects_max.foldl_mem _ member
  · intro nonempty
    exact selects_max.foldl_mem_of_start nonempty after

namespace Recorded

variable {state : Recorded}

/-- All records are sound and their counts add up. -/
structure SoundAverages (state : Recorded) : Prop where
  entries :
    ∀ entry ∈ state.statistics.flowStats.entries,
      Sound state.history entry.1 entry.2
  receivedPackets :
    state.statistics.receivedPackets =
      (state.statistics.flowStats.entries.map
        fun entry => entry.2.count).sum

namespace Consistent

/-- The record of a flow that was delivered or sent at the very end. -/
theorem sound
    (consistent : state.Consistent)
    (found : state.statistics.flowStats.lookup flowId = some stats)
    (delivered :
      deliveries state.history flowId ≠ [] ∨
        stats.first.txTime = state.statistics.stopTime) :
    Sound state.history flowId stats := by
  have timed := consistent.timed
  have tracks := (consistent.follows flowId).known stats found
  have received := timed.received flowId
  have after :
      ∀ time ∈ receiveTimes state.history flowId,
        stats.first.txTime ≤ time :=
    fun time member => tracks.le_of_sent (received time member).2
  have firstReceived :=
    tracks.isEarliest fun time member => (received time member).1
  have lastReceived := tracks.isLatest after
  have inOrder :
      stats.first.txTime ≤ stats.first.rxTime ∧
        stats.first.rxTime ≤ stats.last.rxTime := by
    by_cases empty : receiveTimes state.history flowId = []
    · have atEnd : stats.first.txTime = state.statistics.stopTime :=
        delivered.resolve_left fun some =>
          some (List.map_eq_nil_iff.mp empty)
      have firstIs := tracks.firstReceived
      have lastIs := tracks.lastReceived
      rw [empty, List.foldl_nil] at firstIs lastIs
      rw [firstIs, lastIs, atEnd]
      exact ⟨UInt64.le_refl _, UInt64.le_refl _⟩
    · have member := firstReceived.2 empty
      exact ⟨after _ member, lastReceived.1 _ member⟩
  have complete := UInt64.le_trans inOrder.1 inOrder.2
  have latency_exact := toNat_sub_of_le inOrder.1
  have completion_exact := toNat_sub_of_le complete
  refine
    { sent_le_received := inOrder.1
      received_le_received := inOrder.2
      firstPacketLatency_exact := latency_exact
      completionTime_exact := completion_exact
      firstPacketLatency_le := ?_
      firstSent := ?_
      firstReceived := firstReceived
      lastReceived := lastReceived
      count := tracks.count }
  · have received_le := UInt64.le_iff_toNat_le.mp inOrder.2
    apply UInt64.le_iff_toNat_le.mpr
    unfold firstPacketLatency completionTime
    omega
  · constructor
    · exact fun time member =>
        tracks.le_of_sent (timed.transmitted flowId time member)
    · exact fun _ => mem_transmitTimes_of_firstSent? tracks.sent

/-- An ordered record was delivered or sent at the very end. -/
theorem delivered_of_received_le_received
    (consistent : state.Consistent)
    (found : state.statistics.flowStats.lookup flowId = some stats)
    (inOrder : stats.first.rxTime ≤ stats.last.rxTime) :
    deliveries state.history flowId ≠ [] ∨
      stats.first.txTime = state.statistics.stopTime := by
  have timed := consistent.timed
  have tracks := (consistent.follows flowId).known stats found
  by_cases empty : deliveries state.history flowId = []
  · have noneReceived : receiveTimes state.history flowId = [] :=
      List.map_eq_nil_iff.mpr empty
    have firstIs := tracks.firstReceived
    have lastIs := tracks.lastReceived
    rw [noneReceived, List.foldl_nil] at firstIs lastIs
    rw [firstIs, lastIs] at inOrder
    have inTime :=
      UInt64.le_trans (timed.sent_le_now flowId _ tracks.sent)
        timed.now_le_stopTime
    exact Or.inr (UInt64.le_antisymm inTime inOrder)
  · exact Or.inl empty

end Consistent

/-- Consistency holds throughout every run, as does the stop time. -/
theorem consistent_of_reachable
    {stopTime : UInt64}
    (reachable :
      recorder.Reachable Admissible (start stopTime) state) :
    state.Consistent ∧ state.statistics.stopTime = stopTime := by
  apply
    reachable.invariant fun state =>
      state.Consistent ∧ state.statistics.stopTime = stopTime
  · exact ⟨consistent_start stopTime, rfl⟩
  · intro state event next holds admissible stepped
    obtain rfl := Option.some.inj stepped
    exact
      ⟨holds.1.record admissible, stopTime_record.trans holds.2⟩

/--
After every run the records are sound exactly when every flow that was sent
had a delivery or was sent at the stop time.
-/
theorem soundAverages_iff_delivered
    {stopTime : UInt64}
    (reachable :
      recorder.Reachable Admissible (start stopTime) state) :
    state.SoundAverages ↔
      ∀ flowId sent, firstSent? state.history flowId = some sent →
        deliveries state.history flowId ≠ [] ∨ sent = stopTime := by
  obtain ⟨consistent, rfl⟩ := consistent_of_reachable reachable
  constructor
  · intro sound flowId sent first
    have follows := consistent.follows flowId
    cases found : state.statistics.flowStats.lookup flowId with
    | none =>
        rw [follows.unknown found] at first
        exact absurd first.symm (Option.some_ne_none sent)
    | some stats =>
        have tracks := follows.known stats found
        have entry : Sound state.history flowId stats :=
          sound.entries ⟨flowId, stats⟩ (AList.mem_lookup_iff.mp found)
        rw [← Option.some.inj (tracks.sent.symm.trans first)]
        exact
          consistent.delivered_of_received_le_received found
            entry.received_le_received
  · intro delivered
    refine
      { entries := fun entry member => ?_
        receivedPackets := consistent.receivedPackets }
    obtain ⟨flowId, stats⟩ := entry
    have found : state.statistics.flowStats.lookup flowId = some stats :=
      AList.mem_lookup_iff.mpr member
    have tracks := (consistent.follows flowId).known stats found
    exact consistent.sound found (delivered flowId _ tracks.sent)

/-- A flow that sends at 5 ns and stops within a minute. -/
def oneSent : Recorded :=
  (start 60000000000).record (.clientTx 5 1)

theorem reachable_oneSent :
    recorder.Reachable Admissible (start 60000000000) oneSent := by
  apply TransitionSystem.Reachable.start.step _ rfl
  exact
    { flowId_ne_zero := by decide
      time := fun time isTime => by
        obtain rfl := Option.some.inj isTime
        decide
      sent := fun _ _ _ isDelivery => by cases isDelivery }

/-- Its first packet is delivered. -/
def oneDelivered : Recorded :=
  oneSent.record (.sinkRx 5 17 1)

theorem reachable_oneDelivered :
    recorder.Reachable Admissible (start 60000000000) oneDelivered := by
  apply reachable_oneSent.step _ rfl
  exact
    { flowId_ne_zero := by decide
      time := fun time isTime => by
        obtain rfl := Option.some.inj isTime
        decide
      sent := fun _ _ _ isDelivery => by
        cases isDelivery
        exact ⟨by decide, 5, by decide, by decide⟩ }

theorem soundAverages_iff_delivered_oneDelivered :
    oneDelivered.SoundAverages ↔
      ∀ flowId sent, firstSent? oneDelivered.history flowId = some sent →
        deliveries oneDelivered.history flowId ≠ [] ∨
          sent = 60000000000 :=
  soundAverages_iff_delivered reachable_oneDelivered

/--
Without it the record has its first delivery at the stop time and its last one
at the transmission.
-/
theorem not_soundAverages_oneSent :
    recorder.Reachable Admissible (start 60000000000) oneSent ∧
      ¬ oneSent.SoundAverages := by
  refine ⟨reachable_oneSent, fun sound => ?_⟩
  have entry := sound.entries ⟨1, freshStats 5 60000000000⟩ List.mem_cons_self
  exact absurd entry.received_le_received (by decide)

end Recorded

end FlowStatistics

end SwitchV2P
