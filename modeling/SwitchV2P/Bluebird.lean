import SwitchV2P.Agenda
import SwitchV2P.LRUCache
import SwitchV2P.Packet
import SwitchV2P.TransitionSystem

namespace SwitchV2P.Bluebird

/-!
# The slow path of a Bluebird switch

A packet for which the switch has no mapping goes over the PCIe link to the
control plane, one packet at a time.  `BluebirdTxStart` schedules two events
for it: the link is free again 250 ns after the transmission, and the control
plane has the packet after a latency of its own.  A second packet can be on the
link while the first is still in the control plane.

What `DataRate::CalculateBytesTxTime` makes of a packet's size is a parameter,
and the simulator is an agenda.  The table `m_packetToSocket` is only ever
written and is left out.
-/

/-- A packet, and what `GetSize` says about it. -/
structure SizedPacket where
  packet : DataPacket
  size : Nat
  deriving Repr, DecidableEq

/-- `QueueSize`. -/
inductive QueueSize where
  | packets (limit : Nat)
  | bytes (limit : Nat)
  deriving Repr, DecidableEq

/-- `DropTailQueue<Packet>`, the packet that leaves next in front. -/
structure DropTailQueue where
  maxSize : QueueSize
  packets : List SizedPacket
  deriving Repr, DecidableEq

namespace DropTailQueue

/-- The queue stays within its limit when the packet is added. -/
def Admits (queue : DropTailQueue) (packet : SizedPacket) : Prop :=
  match queue.maxSize with
  | .packets limit => queue.packets.length + 1 ≤ limit
  | .bytes limit =>
      (queue.packets.map SizedPacket.size).sum + packet.size ≤ limit

instance (queue : DropTailQueue) (packet : SizedPacket) :
    Decidable (queue.Admits packet) := by
  unfold Admits
  split <;> infer_instance

/-- `Enqueue`: no queue when the packet is dropped. -/
def enqueue
    (queue : DropTailQueue)
    (packet : SizedPacket) :
    Option DropTailQueue :=
  if queue.Admits packet then
    some { queue with packets := queue.packets ++ [packet] }
  else
    none

/-- `Dequeue`. -/
def dequeue
    (queue : DropTailQueue) :
    Option (SizedPacket × DropTailQueue) :=
  match queue.packets with
  | packet :: rest => some (packet, { queue with packets := rest })
  | [] => none

end DropTailQueue

/-- The attributes of the switch; times are in nanoseconds. -/
structure Attributes where
  gwAddresses : List Ipv4Address
  /-- `m_bps.CalculateBytesTxTime`. -/
  calculateBytesTxTime : Nat → Nat
  bluebirdDelay : Nat
  bluebirdProgrammingDelay : Nat

/-- The members that the slow path reads and writes. -/
structure SlowPath where
  bluebirdBusy : Bool
  bluebirdQueue : DropTailQueue
  bluebirdCache : LRUCache Ipv4Address Ipv4Address

/-- The calls that the slow path schedules. -/
inductive Event where
  | bluebirdProcessPacket (packet : SizedPacket)
  | bluebirdTxComplete
  | populateBluebirdCache (virtualIp : Ipv4Address)
  deriving Repr, DecidableEq

/-- The members after a call, and what it schedules with which delays. -/
abbrev Scheduling : Type :=
  SlowPath × List (Nat × Event)

/-- What becomes of a packet that reaches the switch. -/
inductive Verdict where
  | forward (packet : DataPacket)
  | held
  | dropped
  deriving Repr, DecidableEq

variable (attributes : Attributes)

/-- `BluebirdTxStart`. -/
def bluebirdTxStart
    (path : SlowPath)
    (packet : SizedPacket) :
    Scheduling :=
  let txTime := attributes.calculateBytesTxTime packet.size
  ({ path with bluebirdBusy := true },
    [(txTime + attributes.bluebirdDelay, .bluebirdProcessPacket packet),
      (txTime + 250, .bluebirdTxComplete)])

/-- `BluebirdTxComplete`. -/
def bluebirdTxComplete (path : SlowPath) : Scheduling :=
  let path := { path with bluebirdBusy := false }
  match path.bluebirdQueue.dequeue with
  | some (packet, queue) =>
      bluebirdTxStart attributes { path with bluebirdQueue := queue } packet
  | none => (path, [])

/-- `BluebirdLogic`, in a switch whose clients put the header back on. -/
def bluebirdLogic
    (path : SlowPath)
    (packet : SizedPacket) :
    Verdict × Scheduling :=
  if packet.packet.outer.destination ∈ attributes.gwAddresses then
    let lookup := path.bluebirdCache.get packet.packet.inner.destination
    let path := { path with bluebirdCache := lookup.2 }
    match lookup.1 with
    | some cachedAddr =>
        (.forward (packet.packet.setDestination cachedAddr), path, [])
    | none =>
        match path.bluebirdQueue.enqueue packet with
        | some queue =>
            if path.bluebirdBusy then
              (.held, { path with bluebirdQueue := queue }, [])
            else
              match queue.dequeue with
              | some (first, rest) =>
                  (.held,
                    bluebirdTxStart attributes
                      { path with bluebirdQueue := rest } first)
              | none => (.held, { path with bluebirdQueue := queue }, [])
        | none => (.dropped, path, [])
  else
    (.forward packet.packet, path, [])

/-- `BluebirdProcessPacket`: the packet that is forwarded, if `at` succeeds. -/
def bluebirdProcessPacket
    (virtualToPhysical : Ipv4Address → Option Ipv4Address)
    (packet : SizedPacket) :
    Option (DataPacket × List (Nat × Event)) :=
  (virtualToPhysical packet.packet.inner.destination).map
    fun physicalIp =>
      (packet.packet.setDestination physicalIp,
        [(attributes.bluebirdProgrammingDelay,
          .populateBluebirdCache packet.packet.inner.destination)])

/-- `PopulateBluebirdCache`. -/
def populateBluebirdCache
    (virtualToPhysical : Ipv4Address → Option Ipv4Address)
    (path : SlowPath)
    (virtualIp : Ipv4Address) :
    Option SlowPath :=
  (virtualToPhysical virtualIp).map fun physicalIp =>
    { path with
      bluebirdCache := (path.bluebirdCache.put virtualIp physicalIp).2 }

/-! ## Runs of the simulator -/

/-- A packet on the slow path, as `BluebirdProcessPacket` forwarded it. -/
structure Forwarded where
  packet : SizedPacket
  sent : DataPacket
  deriving Repr, DecidableEq

/-- The simulation around one switch, and a record of the slow path. -/
structure Simulation where
  agenda : Agenda Event
  path : SlowPath
  virtualToPhysical : Ipv4Address → Option Ipv4Address
  /-- The packets without a mapping, and whether `Enqueue` took them. -/
  misses : List (SizedPacket × Bool)
  forwarded : List Forwarded

/-- What can happen next. -/
inductive Action where
  | arrive (time : Nat) (packet : SizedPacket)
  | run (position : Nat)
  | migrate (virtualIp physicalIp : Ipv4Address)
  deriving Repr, DecidableEq

/-- A packet reaches the switch. -/
def arrive
    (simulation : Simulation)
    (packet : SizedPacket) :
    Simulation :=
  let handled := bluebirdLogic attributes simulation.path packet
  { simulation with
    agenda := simulation.agenda.schedule handled.2.2
    path := handled.2.1
    misses :=
      match handled.1 with
      | .forward _ => simulation.misses
      | .held => simulation.misses ++ [(packet, true)]
      | .dropped => simulation.misses ++ [(packet, false)] }

/-- A scheduled call is made. -/
def call (simulation : Simulation) : Event → Option Simulation
  | .bluebirdProcessPacket packet =>
      (bluebirdProcessPacket attributes simulation.virtualToPhysical
        packet).map fun processed =>
        { simulation with
          agenda := simulation.agenda.schedule processed.2
          forwarded :=
            simulation.forwarded ++
              [{ packet := packet, sent := processed.1 }] }
  | .bluebirdTxComplete =>
      let completed := bluebirdTxComplete attributes simulation.path
      some
        { simulation with
          agenda := simulation.agenda.schedule completed.2
          path := completed.1 }
  | .populateBluebirdCache virtualIp =>
      (populateBluebirdCache simulation.virtualToPhysical simulation.path
        virtualIp).map fun path => { simulation with path := path }

/-- One step: an arrival, a scheduled call, or a migration elsewhere. -/
def step
    (simulation : Simulation) :
    Action → Option Simulation
  | .arrive time packet =>
      (simulation.agenda.advance? time).map fun agenda =>
        arrive attributes { simulation with agenda := agenda } packet
  | .run position =>
      (simulation.agenda.take? position).bind fun taken =>
        call attributes { simulation with agenda := taken.2 } taken.1
  | .migrate virtualIp physicalIp =>
      some
        { simulation with
          virtualToPhysical :=
            Function.update simulation.virtualToPhysical virtualIp
              (some physicalIp) }

/-- The transition system of a switch. -/
def system : TransitionSystem Simulation Action where
  step := step attributes

/-- The start of a simulation. -/
def start
    (maxSize : QueueSize)
    (memorySize : Nat)
    (virtualToPhysical : Ipv4Address → Option Ipv4Address) :
    Simulation where
  agenda := .empty
  path :=
    { bluebirdBusy := false
      bluebirdQueue := { maxSize := maxSize, packets := [] }
      bluebirdCache := .setCapacity memorySize }
  virtualToPhysical := virtualToPhysical
  misses := []
  forwarded := []

end SwitchV2P.Bluebird
