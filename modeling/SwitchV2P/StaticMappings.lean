import SwitchV2P.NetworkInvariant
import SwitchV2P.TraceSimulation

namespace SwitchV2P.StaticMappings

/-!
# While nothing migrates

With a constant full mapping, everything that switches learn, carry in tags or
send each other agrees with it, so a packet that leaves the path to its gateway
goes to the right host.
-/

variable {Switch : Type}

/-- What the run of a network without migrations does to a data packet. -/
structure Faithful
    (network : Network Switch)
    (virtualToPhysical : Ipv4Address → Option Ipv4Address)
    (packet : DataPacket) : Prop where
  evicted :
    ∀ mapping ∈ packet.evictionTag.tags,
      virtualToPhysical mapping.1 = some mapping.2
  uninvalidated : packet.invalidationTag.tags = []
  ttl : packet.inner.ttl = 64
  misdeliveries : packet.misdeliveries = 0
  destination :
    network.isGateway packet.outer.destination = true ∨
      virtualToPhysical packet.inner.destination =
        some packet.outer.destination
  source :
    virtualToPhysical packet.inner.source = some packet.outer.source

/-- All mappings are right, all packets are faithful, and none is re-sent. -/
def assertion
    (network : Network Switch)
    (virtualToPhysical : Ipv4Address → Option Ipv4Address) :
    Assertion where
  mapping := fun key value => virtualToPhysical key = some value
  inFlight := Faithful network virtualToPhysical
  scheduled := fun _ _ _ => False
  waiting := Faithful network virtualToPhysical

variable
  {network : Network Switch}
  {virtualToPhysical : Ipv4Address → Option Ipv4Address}

/-- A faithful packet teaches every switch right mappings only. -/
theorem Faithful.offers
    {packet : DataPacket}
    (faithful : Faithful network virtualToPhysical packet)
    (switch : Switch) :
    (network.switches switch).Offers
      (fun key value => virtualToPhysical key = some value) packet where
  evicted := faithful.evicted
  destination := fun learns => by
    have resolved := learns.resolved
    simp only [Network.isGateway_switches] at resolved
    simpa [resolved] using faithful.destination
  source := fun _ => faithful.source

theorem Faithful.handled
    {packet : DataPacket}
    (faithful : Faithful network virtualToPhysical packet)
    {switch : Switch}
    {received : Received}
    (handled :
      (network.switches switch).Handled
        (fun key value => virtualToPhysical key = some value)
        packet received) :
    Faithful network virtualToPhysical received.packet := by
  obtain ⟨source, _, inner, invalidationTag, _, _, misdeliveries⟩ :=
    handled.same
  refine
    { evicted := handled.evicted
      uninvalidated := by rw [invalidationTag, faithful.uninvalidated]
      ttl := by rw [inner, faithful.ttl]
      misdeliveries := by rw [misdeliveries, faithful.misdeliveries]
      destination := ?_
      source := by rw [inner, source, faithful.source] }
  rw [inner]
  have readdressed := handled.destination
  generalize received.packet.outer.destination = address
    at readdressed ⊢
  cases readdressed with
  | kept => exact faithful.destination
  | followed readsTags tagged vouched different =>
      have member := TagStack.mem_of_peek tagged
      simp [faithful.uninvalidated] at member
  | hit uninvalidated toGateway vouched => exact Or.inr vouched

/-- No host ever forwards a faithful packet. -/
theorem Faithful.delivered
    {packet : DataPacket}
    (faithful : Faithful network virtualToPhysical packet)
    (atHost : network.isGateway packet.outer.destination = false) :
    virtualToPhysical packet.inner.destination =
      some packet.outer.destination := by
  simpa [atHost] using faithful.destination

theorem closed :
    (assertion network virtualToPhysical).Closed network
      virtualToPhysical where
  fresh := fun located _ isGateway =>
    { evicted := by
        simp [SocketHelper.sendTo, Network.freshPacket]
      uninvalidated := rfl
      ttl := rfl
      misdeliveries := rfl
      destination := Or.inl isGateway
      source := located }
  anyTtl := fun _ faithful =>
    ⟨faithful.evicted, faithful.uninvalidated, faithful.ttl,
      faithful.misdeliveries, faithful.destination, faithful.source⟩
  handled := fun faithful handled => faithful.handled handled
  resolved := fun faithful _ found =>
    ⟨faithful.evicted, faithful.uninvalidated, faithful.ttl,
      faithful.misdeliveries, Or.inr found, faithful.source⟩
  sent := fun faithful =>
    { evicted := fun mapping member =>
        faithful.evicted mapping (TagStack.mem_of_mem_remove member)
      uninvalidated := by
        simp [GatewayApp.sendPacket, faithful.uninvalidated]
      ttl := faithful.ttl
      misdeliveries := faithful.misdeliveries
      destination := faithful.destination
      source := faithful.source }
  ttl := fun faithful => by
    rw [faithful.ttl]
    decide
  misdelivered := fun _ faithful atHost elsewhere _ =>
    absurd (faithful.delivered atHost) elsewhere
  fired := fun impossible _ => impossible.elim

/-- The environment moves no container. -/
def NoMigration (_ : NetworkState Switch) (action : Action Switch) : Prop :=
  ∀ container host, action ≠ .migrate container host

/-- The executable form of `NoMigration`. -/
def noMigration (_ : NetworkState Switch) : Action Switch → Bool
  | .migrate _ _ => false
  | _ => true

theorem noMigration_sound
    (state : NetworkState Switch)
    (action : Action Switch)
    (checked : noMigration state action = true) :
    NoMigration state action := by
  rintro container host rfl
  simp [noMigration] at checked

variable [DecidableEq Switch]

/-- The full mapping never changes, and everything agrees with it. -/
theorem holds_of_reachable
    (caching : network.Caching)
    {initial state : NetworkState Switch}
    (started : Network.Started initial)
    (reachable : network.system.Reachable NoMigration initial state) :
    state.virtualToPhysical = initial.virtualToPhysical ∧
      (assertion network initial.virtualToPhysical).Holds state := by
  refine
    reachable.invariant
      (fun current =>
        current.virtualToPhysical = initial.virtualToPhysical ∧
          (assertion network initial.virtualToPhysical).Holds current)
      ⟨rfl, .start started _⟩ ?_
  intro current action next invariant noMigration stepped
  obtain ⟨same, holds⟩ := invariant
  refine
    ⟨(Network.virtualToPhysical_of_step noMigration stepped).trans same,
      holds.step caching (by rw [same]; exact closed) ?_ noMigration
        stepped⟩
  intro switch position draw packet _ found
  exact
    (holds.parcels _ (List.mem_of_getElem? found)).offers switch

/-- The state of a network in which nothing was ever misdirected. -/
structure Undisturbed
    (network : Network Switch)
    (virtualToPhysical : Ipv4Address → Option Ipv4Address)
    (state : NetworkState Switch) : Prop where
  cached :
    ∀ key value, state.Caches key value →
      virtualToPhysical key = some value
  evicted :
    ∀ packet, state.Carries packet →
      ∀ mapping ∈ packet.evictionTag.tags,
        virtualToPhysical mapping.1 = some mapping.2
  learning :
    ∀ mapping, state.Teaches mapping →
      virtualToPhysical mapping.1 = some mapping.2
  destination :
    ∀ packet, .inFlight (.data packet) ∈ state.parcels →
      network.isGateway packet.outer.destination = true ∨
        virtualToPhysical packet.inner.destination =
          some packet.outer.destination
  misdeliveries :
    ∀ packet, state.Carries packet → packet.misdeliveries = 0
  notResent :
    ∀ host packet call, .scheduled host packet call ∉ state.parcels

/--
Caches never misdirect traffic while no container migrates, and no host ever
takes the misdelivery branch of `VirtualSend`.
-/
theorem undisturbed_of_reachable
    (caching : network.Caching)
    {initial state : NetworkState Switch}
    (started : Network.Started initial)
    (reachable : network.system.Reachable NoMigration initial state) :
    Undisturbed network initial.virtualToPhysical state := by
  obtain ⟨_, holds⟩ := holds_of_reachable caching started reachable
  have carried :
      ∀ packet, state.Carries packet →
        Faithful network initial.virtualToPhysical packet := by
    intro packet
    exact
      holds.carried _ (fun _ faithful => faithful)
        (fun _ _ _ impossible => impossible.elim)
        (fun _ faithful => faithful)
  exact
    { cached := fun _ _ caches => holds.cached caches
      evicted := fun packet carries => (carried packet carries).evicted
      learning := fun _ teaches => holds.taught teaches
      destination := fun packet member =>
        (carried packet ⟨_, member, rfl⟩).destination
      misdeliveries := fun packet carries =>
        (carried packet carries).misdeliveries
      notResent := fun _ _ _ member => holds.parcels _ member }

/-- The packet that the gateway resolves taught the spine its mapping. -/
theorem undisturbed_of_reachable_onePod :
    ∃ state,
      (TraceSimulation.onePod.network .switchV2P).system.run?
          (TraceSimulation.onePod.start .switchV2P)
          (TraceSimulation.onePod.resolve .switchV2P) = some state ∧
        state.Caches 2 TraceSimulation.onePod.oldHost ∧
        Undisturbed (TraceSimulation.onePod.network .switchV2P)
          TraceSimulation.onePod.virtualToPhysical state := by
  have enabled :
      ((TraceSimulation.onePod.network .switchV2P).system.run?
        (TraceSimulation.onePod.start .switchV2P)
        (TraceSimulation.onePod.resolve .switchV2P)).isSome = true := by
    decide
  refine ⟨_, (Option.some_get enabled).symm, ?_, ?_⟩
  · exact
      ⟨TraceSimulation.onePod.spine .switchV2P, ⟨0, Nat.one_pos⟩, rfl,
        by decide⟩
  · exact
      undisturbed_of_reachable ⟨Or.inl rfl⟩
        (Network.started_start _ _ _ _ _ _ _)
        (TransitionSystem.reachable_of_run? noMigration_sound
          (by decide) (Option.some_get enabled).symm)

end SwitchV2P.StaticMappings
