import SwitchV2P.NetworkInvariant
import SwitchV2P.TraceSimulation

namespace SwitchV2P.Provenance

/-!
# Where mappings come from

When containers migrate, a cache may be stale.  It should still never name a
host that its container was never on.  A packet that a previous host re-sends
keeps its inner source but gets a new outer source, and the gateway takes its
invalidation tag off; a leaf that learns the source of such a packet records a
mapping that never existed.

Everything else keeps to the history of the full mapping: as long as no leaf
learns the source of a re-sent packet, every mapping in the network was once
right.
-/

variable {Switch : Type}

/-- The full mapping had this entry in one of the visited states. -/
def Held
    (visited : List (NetworkState Switch))
    (key value : Ipv4Address) : Prop :=
  ∃ state ∈ visited, state.virtualToPhysical key = some value

theorem Held.later
    {visited : List (NetworkState Switch)}
    {key value : Ipv4Address}
    (next : NetworkState Switch)
    (held : Held visited key value) :
    Held (next :: visited) key value := by
  obtain ⟨state, member, entry⟩ := held
  exact ⟨state, List.mem_cons_of_mem next member, entry⟩

/-- Every mapping in the network was once in the full mapping. -/
structure Witnessed
    (visited : List (NetworkState Switch))
    (state : NetworkState Switch) : Prop where
  cached :
    ∀ key value, state.Caches key value → Held visited key value
  evicted :
    ∀ packet, state.Carries packet →
      ∀ mapping ∈ packet.evictionTag.tags,
        Held visited mapping.1 mapping.2
  learning :
    ∀ mapping, state.Teaches mapping →
      Held visited mapping.1 mapping.2

/--
The environment assumption: when a leaf learns the source of a packet, no host
has re-sent the packet, or the sender is on the host that did.
-/
def LearnsSourcesAtHome
    (network : Network Switch)
    (state : NetworkState Switch)
    (action : Action Switch) : Prop :=
  ∀ switch position draw packet,
    action = .atSwitch switch position draw →
    state.parcels[position]? = some (.inFlight (.data packet)) →
    (network.switches switch).LearnsSource packet →
    packet.inner.ttl = 64 ∨
      state.virtualToPhysical packet.inner.source =
        some packet.outer.source

/-- The executable form of `LearnsSourcesAtHome`. -/
def learnsSourcesAtHome
    (network : Network Switch)
    (state : NetworkState Switch) :
    Action Switch → Bool
  | .atSwitch switch position _ =>
      match state.parcels[position]? with
      | some (.inFlight (.data packet)) =>
          !decide ((network.switches switch).LearnsSource packet) ||
            packet.inner.ttl = 64 ||
            state.virtualToPhysical packet.inner.source =
              some packet.outer.source
      | _ => true
  | _ => true

theorem learnsSourcesAtHome_sound
    (network : Network Switch)
    (state : NetworkState Switch)
    (action : Action Switch)
    (checked : learnsSourcesAtHome network state action = true) :
    LearnsSourcesAtHome network state action := by
  rintro switch position draw packet rfl found learns
  simpa [learnsSourcesAtHome, found, learns] using checked

/-! ## The invariant -/

/-- A packet whose parts can be traced back, or that no switch may trust. -/
structure Traceable
    (network : Network Switch)
    (held : Ipv4Address → Ipv4Address → Prop)
    (packet : DataPacket) : Prop where
  evicted :
    ∀ mapping ∈ packet.evictionTag.tags, held mapping.1 mapping.2
  ttl_pos : 0 < packet.inner.ttl
  ttl_le : packet.inner.ttl ≤ 64
  destination :
    packet.invalidationTag.tags ≠ [] ∨
      network.isGateway packet.outer.destination = true ∨
      held packet.inner.destination packet.outer.destination
  source :
    packet.inner.ttl = 64 →
      held packet.inner.source packet.outer.source

/-- A packet that a previous host is about to send on. -/
structure Resent
    (held : Ipv4Address → Ipv4Address → Prop)
    (packet : DataPacket) : Prop where
  evicted :
    ∀ mapping ∈ packet.evictionTag.tags, held mapping.1 mapping.2
  ttl_pos : 0 < packet.inner.ttl
  ttl_lt : packet.inner.ttl < 64
  invalidated : packet.invalidationTag.tags ≠ []

/-- All mappings are held, and all packets can be traced. -/
def assertion
    (network : Network Switch)
    (held : Ipv4Address → Ipv4Address → Prop) :
    Assertion where
  mapping := held
  inFlight := Traceable network held
  scheduled := fun _ packet _ => Resent held packet
  waiting := fun packet =>
    Traceable network held packet ∧
      held packet.inner.destination packet.outer.destination

variable
  {network : Network Switch}
  {held : Ipv4Address → Ipv4Address → Prop}
  {virtualToPhysical : Ipv4Address → Option Ipv4Address}

/-- A wider history changes nothing. -/
theorem Traceable.mono
    {wider : Ipv4Address → Ipv4Address → Prop}
    {packet : DataPacket}
    (traceable : Traceable network held packet)
    (widens : ∀ key value, held key value → wider key value) :
    Traceable network wider packet where
  evicted := fun mapping member =>
    widens _ _ (traceable.evicted mapping member)
  ttl_pos := traceable.ttl_pos
  ttl_le := traceable.ttl_le
  destination :=
    traceable.destination.imp_right (Or.imp_right (widens _ _))
  source := fun fresh => widens _ _ (traceable.source fresh)

/-- A switch that reads tags learns only mappings that can be traced. -/
theorem Traceable.offers
    {packet : DataPacket}
    (traceable : Traceable network held packet)
    (mode : network.simParams.simMode = .switchV2P)
    (switch : Switch)
    (sourceHeld :
      (network.switches switch).LearnsSource packet →
        held packet.inner.source packet.outer.source) :
    (network.switches switch).Offers held packet where
  evicted := traceable.evicted
  destination := fun learns => by
    have readsTags : (network.switches switch).readsTags = true := by
      simp [SwitchConfig.readsTags, network.sameMode switch, mode]
    have untagged :=
      TagStack.tags_eq_nil_of_peek (learns.uninvalidated readsTags)
    have resolved := learns.resolved
    simp only [Network.isGateway_switches] at resolved
    simpa [untagged, resolved] using traceable.destination
  source := sourceHeld

theorem Traceable.handled
    {packet : DataPacket}
    (traceable : Traceable network held packet)
    {switch : Switch}
    {received : Received}
    (handled :
      (network.switches switch).Handled held packet received) :
    Traceable network held received.packet := by
  obtain ⟨source, _, inner, invalidationTag, _, _, _⟩ := handled.same
  refine
    { evicted := handled.evicted
      ttl_pos := by rw [inner]; exact traceable.ttl_pos
      ttl_le := by rw [inner]; exact traceable.ttl_le
      destination := ?_
      source := by rw [inner, source]; exact traceable.source }
  rw [inner, invalidationTag]
  have readdressed := handled.destination
  generalize received.packet.outer.destination = address
    at readdressed ⊢
  cases readdressed with
  | kept => exact traceable.destination
  | followed readsTags tagged vouched different =>
      exact Or.inl (List.ne_nil_of_mem (TagStack.mem_of_peek tagged))
  | hit uninvalidated toGateway vouched =>
      exact Or.inr (Or.inr vouched)

/-- The mark that a previous host leaves on what it sends on. -/
theorem Traceable.misdelivered
    {packet : DataPacket}
    (traceable : Traceable network held packet)
    (alive : packet.inner.ttl - 1 ≠ 0)
    (helper : SocketHelper)
    (state : HostState) :
    Resent held
      (helper.resendMisdelivered state
        (Assertion.forwardInner packet)).packet := by
  have positive := traceable.ttl_pos
  have atMost := traceable.ttl_le
  refine
    { evicted := traceable.evicted
      ttl_pos := ?_
      ttl_lt := ?_
      invalidated := by simp [SocketHelper.resendMisdelivered] }
  · change 0 < packet.inner.ttl - 1
    exact UInt8.pos_iff_ne_zero.mpr alive
  · change packet.inner.ttl - 1 < 64
    simp only [UInt8.lt_iff_toNat_lt, UInt8.le_iff_toNat_le,
      UInt8.toNat_sub, UInt8.reduceToNat] at positive atMost ⊢
    omega

/-- The invalidation tag protects a re-sent packet wherever it is sent. -/
theorem Resent.sendTo
    {packet : DataPacket}
    (resent : Resent held packet)
    (helper : SocketHelper)
    (destination : Ipv4Address) :
    Traceable network held (helper.sendTo packet destination) where
  evicted := resent.evicted
  ttl_pos := resent.ttl_pos
  ttl_le := UInt8.le_of_lt resent.ttl_lt
  destination := Or.inl resent.invalidated
  source := fun full =>
    absurd full (UInt8.ne_of_lt resent.ttl_lt)

theorem closed
    (current :
      ∀ key value, virtualToPhysical key = some value → held key value) :
    (assertion network held).Closed network virtualToPhysical where
  fresh := fun located _ isGateway =>
    { evicted := by
        simp [SocketHelper.sendTo, Network.freshPacket]
      ttl_pos := (by decide : (0 : UInt8) < 64)
      ttl_le := (by decide : (64 : UInt8) ≤ 64)
      destination := Or.inr (Or.inl isGateway)
      source := fun _ => current _ _ located }
  anyTtl := fun _ traceable =>
    ⟨traceable.evicted, traceable.ttl_pos, traceable.ttl_le,
      traceable.destination, traceable.source⟩
  handled := fun traceable handled => traceable.handled handled
  resolved := fun traceable _ found =>
    ⟨⟨traceable.evicted, traceable.ttl_pos, traceable.ttl_le,
      Or.inr (Or.inr (current _ _ found)), traceable.source⟩,
      current _ _ found⟩
  sent := fun waiting =>
    { evicted := fun mapping member =>
        waiting.1.evicted mapping (TagStack.mem_of_mem_remove member)
      ttl_pos := waiting.1.ttl_pos
      ttl_le := waiting.1.ttl_le
      destination := Or.inr (Or.inr waiting.2)
      source := waiting.1.source }
  ttl := fun traceable => ⟨traceable.ttl_pos, traceable.ttl_le⟩
  misdelivered := fun state traceable _ _ alive =>
    traceable.misdelivered alive _ state
  fired := fun resent performed => by
    obtain ⟨destination, rfl⟩ :=
      SocketHelper.eq_sendTo_of_perform _ performed
    exact resent.sendTo _ destination

/-- Looking back from a later state only adds mappings. -/
theorem assertion_mono
    {wider : Ipv4Address → Ipv4Address → Prop}
    {state : NetworkState Switch}
    (holds : (assertion network held).Holds state)
    (widens : ∀ key value, held key value → wider key value) :
    (assertion network wider).Holds state :=
  holds.mono widens
    (fun _ traceable => traceable.mono widens)
    (fun _ _ _ resent =>
      { resent with
        evicted := fun mapping member =>
          widens _ _ (resent.evicted mapping member) })
    (fun _ waiting =>
      ⟨waiting.1.mono widens, widens _ _ waiting.2⟩)

/-- The environment moves other containers only, in executable form. -/
def keeps
    (container : Ipv4Address)
    (_ : NetworkState Switch) :
    Action Switch → Bool
  | .migrate moved _ => moved != container
  | _ => true

theorem keeps_sound
    (container : Ipv4Address)
    (state : NetworkState Switch)
    (action : Action Switch)
    (checked : keeps container state action = true) :
    ∀ host, action ≠ .migrate container host := by
  rintro host rfl
  simp [keeps] at checked

variable [DecidableEq Switch]

/-- One step keeps every mapping traceable. -/
theorem holds_of_step
    (mode : network.simParams.simMode = .switchV2P)
    {visited : List (NetworkState Switch)}
    {state next : NetworkState Switch}
    {action : Action Switch}
    (current : state ∈ visited)
    (holds : (assertion network (Held visited)).Holds state)
    (atHome : LearnsSourcesAtHome network state action)
    (stepped : network.system.step state action = some next) :
    (assertion network (Held (next :: visited))).Holds next := by
  have later :
      ∀ key value, Held visited key value →
        Held (next :: visited) key value :=
    fun key value held => held.later next
  by_cases migration : ∃ container host, action = .migrate container host
  · obtain ⟨container, host, rfl⟩ := migration
    change network.step state (.migrate container host) = some next
      at stepped
    simp only [Network.step, Option.some.injEq] at stepped
    refine assertion_mono (holds.of_same ?_ ?_) later <;>
      rw [← stepped]
  · have noMigration :
        ∀ container host, action ≠ .migrate container host :=
      fun container host isMigration =>
        migration ⟨container, host, isMigration⟩
    refine
      assertion_mono
        (holds.step ⟨Or.inl mode⟩
          (closed fun key value entry => ⟨state, current, entry⟩) ?_
          noMigration stepped)
        later
    intro switch position draw packet shape found
    have traceable : Traceable network (Held visited) packet :=
      holds.parcels _ (List.mem_of_getElem? found)
    refine traceable.offers mode switch fun learns => ?_
    rcases atHome switch position draw packet shape found learns with
      fresh | atSender
    · exact traceable.source fresh
    · exact ⟨state, current, atSender⟩

/--
In every run in which leaves only learn the sources of packets that were not
re-sent, or were re-sent by the host of their sender, every mapping in the
network was once in the full mapping.
-/
theorem witnessed_of_run
    (mode : network.simParams.simMode = .switchV2P)
    {initial state : NetworkState Switch}
    {visited : List (NetworkState Switch)}
    (started : Network.Started initial)
    (run :
      network.system.Run (LearnsSourcesAtHome network) initial visited
        state) :
    Witnessed visited state := by
  have holds : (assertion network (Held visited)).Holds state :=
    run.invariant
      (fun visited state =>
        (assertion network (Held visited)).Holds state)
      (.start started _)
      fun earlier holds permitted stepped =>
        holds_of_step mode earlier.current_mem holds permitted stepped
  exact
    { cached := fun _ _ caches => holds.cached caches
      evicted := fun packet carries =>
        holds.carried
          (fun packet =>
            ∀ mapping ∈ packet.evictionTag.tags,
              Held visited mapping.1 mapping.2)
          (fun _ traceable => traceable.evicted)
          (fun _ _ _ resent => resent.evicted)
          (fun _ waiting => waiting.1.evicted) carries
      learning := fun _ teaches => holds.taught teaches }

open TraceSimulation in
/-- Up to the last switch of the re-sent packet, the assumption is met. -/
theorem witnessed_of_run_onePod :
    ∃ visited state,
      (onePod.network .switchV2P).system.Run
          (LearnsSourcesAtHome (onePod.network .switchV2P))
          (onePod.start .switchV2P) visited state ∧
        state.Caches 2 onePod.newHost ∧
        Witnessed visited state := by
  have stored :
      ((onePod.network .switchV2P).system.run?
          (onePod.start .switchV2P)
          (onePod.resend .switchV2P).dropLast).map
            (fun state =>
              (state.tables (onePod.spine .switchV2P)).cache.slot 2) =
        some (2, onePod.newHost) := by
    decide +kernel
  obtain ⟨state, ran, slot⟩ := Option.map_eq_some_iff.mp stored
  obtain ⟨visited, run⟩ :=
    TransitionSystem.reachable_of_run?
      (learnsSourcesAtHome_sound (onePod.network .switchV2P))
      (by decide +kernel) ran
  exact
    ⟨visited, state, run, ⟨_, _, slot, by decide⟩,
      witnessed_of_run rfl (Network.started_start _ _ _ _ _ _ _) run⟩

/-! ## The mapping that never existed -/

/-- The full mapping keeps its entry for a container that never moves. -/
theorem virtualToPhysical_of_run
    {container : Ipv4Address}
    {initial state : NetworkState Switch}
    {visited : List (NetworkState Switch)}
    (run :
      network.system.Run
        (fun _ action => ∀ host, action ≠ .migrate container host)
        initial visited state) :
    ∀ earlier ∈ visited,
      earlier.virtualToPhysical container =
        initial.virtualToPhysical container := by
  induction run with
  | start => simp
  | @step visited state next action earlier permitted stepped
      inductionHypothesis =>
      have before := inductionHypothesis state earlier.current_mem
      have after :
          next.virtualToPhysical container =
            state.virtualToPhysical container := by
        by_cases migration :
            ∃ moved host, action = .migrate moved host
        · obtain ⟨moved, host, rfl⟩ := migration
          change network.step state (.migrate moved host) = some next
            at stepped
          simp only [Network.step, Option.some.injEq] at stepped
          subst stepped
          refine Function.update_of_ne ?_ _ _
          rintro rfl
          exact permitted host rfl
        · rw [Network.virtualToPhysical_of_step
            (fun moved host isMigration =>
              migration ⟨moved, host, isMigration⟩) stepped]
      intro visitedState member
      rcases List.mem_cons.mp member with rfl | old
      · rw [after, before]
      · exact inductionHypothesis visitedState old

open TraceSimulation in
/--
A leaf records that container 1 is on the previous host of container 2, where
it never was.
-/
theorem fabricated_onePod :
    ∃ visited state,
      (onePod.network .switchV2P).system.Run (fun _ _ => True)
          (onePod.start .switchV2P) visited state ∧
        state.Caches 1 onePod.oldHost ∧
        ¬ Held visited 1 onePod.oldHost ∧
        ¬ Witnessed visited state := by
  have stored :
      ((onePod.network .switchV2P).system.run?
          (onePod.start .switchV2P)
          (onePod.resend .switchV2P)).map
            (fun state =>
              (state.tables (onePod.leaf .switchV2P 3)).cache.slot 2) =
        some (1, onePod.oldHost) := by
    decide +kernel
  obtain ⟨state, ran, slot⟩ := Option.map_eq_some_iff.mp stored
  obtain ⟨visited, run⟩ :=
    TransitionSystem.reachable_of_run? (keeps_sound 1)
      (by decide +kernel) ran
  have cached : state.Caches 1 onePod.oldHost :=
    ⟨_, _, slot, by decide⟩
  have neverHeld : ¬ Held visited 1 onePod.oldHost := by
    rintro ⟨earlier, member, entry⟩
    rw [virtualToPhysical_of_run run earlier member] at entry
    exact absurd entry (by decide)
  exact
    ⟨visited, state, run.mono fun _ _ _ => trivial, cached, neverHeld,
      fun witnessed => neverHeld (witnessed.cached _ _ cached)⟩

end SwitchV2P.Provenance
