import SwitchV2P.P4SwitchAppSpec
import SwitchV2P.TransitionSystem

namespace SwitchV2P

/-!
# Runs of a single switch

What one switch does with the datagrams that arrive at it, in any order.  A
cache entry is live when a lookup of its key returns it, and active when its
access bit is set as well.
-/

namespace P4Cache

/-- A lookup of the key returns the value. -/
structure Live
    (cache : P4Cache Ipv4Address Ipv4Address)
    (key value : Ipv4Address) : Prop where
  stored : cache.slot key = (key, value)
  nonzero : value ≠ 0

/-- A live entry whose access bit is set. -/
structure Active
    (cache : P4Cache Ipv4Address Ipv4Address)
    (key value : Ipv4Address) : Prop extends
    Live cache key value where
  bit : cache.getBit key = true

variable
  {cache : P4Cache Ipv4Address Ipv4Address}
  {key value other : Ipv4Address}

/-- Live entries are what `Get` returns. -/
theorem live_iff_get :
    cache.Live key value ↔ (cache.get key).1 = some value := by
  rw [get_eq_some_iff]
  exact
    ⟨fun live => ⟨live.stored, live.nonzero⟩,
      fun found => ⟨found.1, found.2⟩⟩

/-- Live entries are what `Find` sees. -/
theorem find_eq_true_iff :
    cache.find key = true ↔ ∃ value, cache.Live key value := by
  rw [find_eq_isSome_get, Option.isSome_iff_exists]
  exact exists_congr fun value => live_iff_get.symm

/-- A slot has one live entry. -/
theorem Live.eq_of_collide
    {otherValue : Ipv4Address}
    (live : cache.Live key value)
    (otherLive : cache.Live other otherValue)
    (collide : cache.Collide other key) :
    other = key ∧ otherValue = value := by
  have same : cache.slot other = cache.slot key := by
    unfold slot
    rw [collide]
  rw [otherLive.stored, live.stored] at same
  simpa using same

/-- A lookup changes no entry. -/
@[simp] theorem live_get (looked : Ipv4Address) :
    (cache.get looked).2.Live key value ↔ cache.Live key value := by
  constructor
  · intro live
    exact ⟨by simpa using live.stored, live.nonzero⟩
  · intro live
    exact ⟨by simpa using live.stored, live.nonzero⟩

/-- `Put` stores its pair. -/
theorem live_put_self
    (nonzero : value ≠ 0) :
    (cache.put key value).2.Live key value :=
  ⟨by simp [Collide], nonzero⟩

/-- `Put` keeps the entries of the other slots. -/
theorem Live.put_of_not_collide
    (live : cache.Live key value)
    {learnValue : Ipv4Address}
    (apart : ¬ cache.Collide key other) :
    (cache.put other learnValue).2.Live key value :=
  ⟨by simp [apart, live.stored], live.nonzero⟩

/-- `PutIfNotEvict` of another key keeps every entry. -/
theorem Live.putIfNotEvict
    (live : cache.Live key value)
    (key_ne_zero : key ≠ 0)
    {learnValue : Ipv4Address}
    (different : key ≠ other) :
    (cache.putIfNotEvict other learnValue).2.Live key value := by
  refine ⟨?_, live.nonzero⟩
  rw [slot_putIfNotEvict, if_neg, live.stored]
  rintro ⟨collide, free⟩
  have occupied : cache.slot other = (key, value) := by
    rw [← live.stored]
    unfold slot
    rw [collide]
  rw [occupied] at free
  exact free.elim key_ne_zero different

/-- `Remove` keeps the entries of the other slots. -/
theorem Live.remove_of_not_collide
    (live : cache.Live key value)
    (apart : ¬ cache.Collide key other) :
    (cache.remove other).Live key value :=
  ⟨by simp [apart, live.stored], live.nonzero⟩

/-- `Remove` adds no entry. -/
theorem Live.of_remove
    (live : (cache.remove other).Live key value) :
    cache.Live key value := by
  refine ⟨?_, live.nonzero⟩
  have stored := live.stored
  rw [slot_remove] at stored
  split at stored
  next =>
    exact absurd (congrArg Prod.snd stored).symm live.nonzero
  next => exact stored

end P4Cache

/-- A mapping that a switch can tell from an empty slot. -/
def Nonzero (key value : Ipv4Address) : Prop :=
  key ≠ 0 ∧ value ≠ 0

/-- A datagram that arrives at a switch, and the outcome of its random draw. -/
structure Arrival where
  datagram : Datagram
  draw : Bool
  deriving Repr, DecidableEq

namespace SwitchConfig

variable (config : SwitchConfig)

/-- The tables after a datagram. -/
def receive
    (state : SwitchState)
    (arrival : Arrival) :
    SwitchState :=
  match arrival.datagram with
  | .data packet => (config.receivePacket arrival.draw state packet).state
  | .protocol packet => (config.handleProtocolPacket state packet).1

/-- A switch by itself, as a transition system. -/
def switchSystem : TransitionSystem SwitchState Arrival where
  step := fun state arrival => some (config.receive state arrival)

/-- The tables after `Setup`. -/
def setup
    (memorySize : Nat)
    (memorySize_pos : 0 < memorySize)
    (hash : Ipv4Address → Nat)
    (bloomFilterSize : Nat)
    (heap : UInt32 → UInt8) :
    SwitchState where
  cache := P4Cache.setup memorySize memorySize_pos hash
  bloomFilter := BloomFilter.setup bloomFilterSize heap

end SwitchConfig

/-- A datagram with nonzero addresses in its headers and its eviction tags. -/
def Datagram.NonzeroAddresses : Datagram → Prop
  | .data packet =>
      Nonzero packet.inner.destination packet.outer.destination ∧
        Nonzero packet.inner.source packet.outer.source ∧
        ∀ mapping ∈ packet.evictionTag.tags, Nonzero mapping.1 mapping.2
  | .protocol packet =>
      ∀ mapping ∈ packet.evictionTag.tags, Nonzero mapping.1 mapping.2

/-- The environment sends nonzero addresses. -/
def NonzeroArrival (_ : SwitchState) (arrival : Arrival) : Prop :=
  arrival.datagram.NonzeroAddresses

namespace SwitchConfig

variable {config : SwitchConfig}

/-- A switch accepts every datagram. -/
theorem reachable_receive
    {allowed : SwitchState → Arrival → Prop}
    {initial state : SwitchState}
    (reachable : config.switchSystem.Reachable allowed initial state)
    (arrival : Arrival)
    (permitted : allowed state arrival) :
    config.switchSystem.Reachable allowed initial
      (config.receive state arrival) :=
  reachable.step permitted rfl

/-- One datagram leaves nonzero pairs only. -/
theorem stores_receive
    {state : SwitchState}
    {arrival : Arrival}
    (stores : state.cache.Stores Nonzero)
    (nonzero : arrival.datagram.NonzeroAddresses) :
    (config.receive state arrival).cache.Stores Nonzero := by
  obtain ⟨datagram, draw⟩ := arrival
  cases datagram with
  | data packet =>
      obtain ⟨destination, source, evicted⟩ := nonzero
      have offers : config.Offers Nonzero packet :=
        ⟨evicted, fun _ => destination, fun _ => source⟩
      exact (handled_receivePacket draw stores offers).stores
  | protocol packet =>
      exact (handleProtocolPacket_spec config stores nonzero).1

/-- Every slot of a reachable cache is empty or holds a nonzero pair. -/
theorem stores_of_reachable
    {memorySize : Nat}
    {memorySize_pos : 0 < memorySize}
    {hash : Ipv4Address → Nat}
    {bloomFilterSize : Nat}
    {heap : UInt32 → UInt8}
    {state : SwitchState}
    (reachable :
      config.switchSystem.Reachable NonzeroArrival
        (setup memorySize memorySize_pos hash bloomFilterSize heap)
        state) :
    state.cache.Stores Nonzero := by
  refine
    reachable.invariant (fun current => current.cache.Stores Nonzero)
      (.setup memorySize memorySize_pos hash) ?_
  intro current arrival next stores nonzero stepped
  simp only [switchSystem, Option.some.injEq] at stepped
  subst stepped
  exact stores_receive stores nonzero

/-- In a reachable cache the key of a live entry is nonzero. -/
theorem key_ne_zero_of_live
    {cache : P4Cache Ipv4Address Ipv4Address}
    (stores : cache.Stores Nonzero)
    {key value : Ipv4Address}
    (live : cache.Live key value) :
    key ≠ 0 := by
  have found := P4Cache.live_iff_get.mp live
  exact (stores.of_get found).1

end SwitchConfig

end SwitchV2P
