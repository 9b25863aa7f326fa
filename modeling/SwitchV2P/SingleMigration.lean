import SwitchV2P.NetworkInvariant
import SwitchV2P.TraceSimulation

namespace SwitchV2P.SingleMigration

/-!
# One container migrates

After the migration, caches may still send packets to the old host.  The old
host marks such a packet and sends it on, and from then on it is only ever
addressed to a gateway or to the right host: its invalidation tag keeps switches
from believing the old host's address, and when the gateway takes the tag off,
the packet is no longer bound for a gateway and is not redirected again.

The invariant says which wrong mappings a cache can hold.  All of them name the
old host: for the container itself, and, because leaves learn the sources of
re-sent packets, for any container that sent one.
-/

variable {Switch : Type}

/-- `MigrationParams` describe this migration, which has not happened yet. -/
structure MatchesParams
    (network : Network Switch)
    (oldHost : Ipv4Address)
    (state : NetworkState Switch)
    (container host : Ipv4Address) : Prop where
  isMigrated : container = network.migratedContainer
  updated : host = network.updateMappingsAddress
  followed : host = network.followMeAddress
  located : state.virtualToPhysical container = some oldHost
  moves : oldHost ≠ host
  fromHost : network.isGateway oldHost = false
  toHost : network.isGateway host = false

/-- The environment moves a container only as `MigrationParams` say. -/
def MigratesOnce
    (network : Network Switch)
    (oldHost : Ipv4Address)
    (state : NetworkState Switch)
    (action : Action Switch) : Prop :=
  ∀ container host, action = .migrate container host →
    MatchesParams network oldHost state container host

/-- The executable form of `MigratesOnce`. -/
def migratesOnce
    (network : Network Switch)
    (oldHost : Ipv4Address)
    (state : NetworkState Switch) :
    Action Switch → Bool
  | .migrate container host =>
      container = network.migratedContainer &&
        host = network.updateMappingsAddress &&
        host = network.followMeAddress &&
        state.virtualToPhysical container = some oldHost &&
        oldHost != host &&
        !network.isGateway oldHost &&
        !network.isGateway host
  | _ => true

theorem migratesOnce_sound
    (network : Network Switch)
    (oldHost : Ipv4Address)
    (state : NetworkState Switch)
    (action : Action Switch)
    (checked : migratesOnce network oldHost state action = true) :
    MigratesOnce network oldHost state action := by
  rintro container host rfl
  simp only [migratesOnce, Bool.and_eq_true, decide_eq_true_eq,
    bne_iff_ne, Bool.not_eq_true'] at checked
  obtain
    ⟨⟨⟨⟨⟨⟨isMigrated, updated⟩, followed⟩, located⟩, moves⟩, fromHost⟩,
      toHost⟩ := checked
  exact
    ⟨isMigrated, updated, followed, located, moves, fromHost, toHost⟩

/-- What the invariant is relative to. -/
structure Setting (Switch : Type) where
  network : Network Switch
  oldHost : Ipv4Address
  /-- What is known of every physical address of a container. -/
  proper : Ipv4Address → Prop
  virtualToPhysical : Ipv4Address → Option Ipv4Address

namespace Setting

variable (setting : Setting Switch)

/-- The mode in which switches read tags. -/
def readsTags : Bool :=
  setting.network.simParams.simMode ≠ .localLearning

/-- The container is not a gateway. -/
def OnHost (container : Ipv4Address) : Prop :=
  ∃ host, setting.virtualToPhysical container = some host ∧
    setting.network.isGateway host = false

/-- The address where the full mapping now places the container. -/
def Right (container address : Ipv4Address) : Prop :=
  setting.virtualToPhysical container = some address

/-- The migration has happened. -/
structure Migrated : Prop where
  arrived :
    setting.Right setting.network.migratedContainer
      setting.network.followMeAddress
  moved : setting.oldHost ≠ setting.network.followMeAddress
  fromHost : setting.network.isGateway setting.oldHost = false
  toHost :
    setting.network.isGateway setting.network.followMeAddress = false
  proper : setting.proper setting.oldHost

/-- A mapping that a switch may have learned. -/
structure Known (key value : Ipv4Address) : Prop where
  onHost : setting.OnHost key
  resolved : setting.network.isGateway value = false
  proper : setting.proper value
  current :
    setting.Right key value ∨
      (setting.Migrated ∧ value = setting.oldHost ∧
        (setting.readsTags = true ∨
          key = setting.network.migratedContainer))

/-- What holds of every data packet. -/
structure Tagged (packet : DataPacket) : Prop where
  evicted :
    ∀ mapping ∈ packet.evictionTag.tags,
      setting.Known mapping.1 mapping.2
  evictionTag : packet.evictionTag.AtMostOne
  hitTag : packet.hitTag.AtMostOne
  redirected :
    packet.hitTag.tags ≠ [] →
      setting.readsTags = true ∧ setting.OnHost packet.inner.destination
  source :
    setting.readsTags = true →
      setting.Known packet.inner.source packet.outer.source

/-- A packet that was never re-sent. -/
structure Fresh (packet : DataPacket) : Prop extends
    setting.Tagged packet where
  uninvalidated : packet.invalidationTag = .empty
  ttl : packet.inner.ttl = 64
  misdeliveries : packet.misdeliveries = 0
  leftGateway :
    packet.hitTag.tags ≠ [] →
      setting.network.isGateway packet.outer.destination = false
  destination :
    setting.network.isGateway packet.outer.destination = true ∨
      setting.Right packet.inner.destination packet.outer.destination ∨
      (setting.Migrated ∧
        packet.outer.destination = setting.oldHost ∧
        (packet.hitTag.tags ≠ [] ∨
          packet.inner.destination = setting.network.migratedContainer))

/-- A packet that the old host has marked. -/
structure Marked (packet : DataPacket) : Prop extends
    setting.Tagged packet where
  migrated : setting.Migrated
  ttl : packet.inner.ttl = 63
  misdeliveries : packet.misdeliveries = 1
  onHost : setting.OnHost packet.inner.destination
  invalidated :
    packet.invalidationTag = .empty ∨
      packet.invalidationTag =
        TagStack.empty.add
          (packet.inner.destination, setting.oldHost)

/-- A re-sent packet, on its way to a gateway or to the right host. -/
structure Resent (packet : DataPacket) : Prop extends
    setting.Marked packet where
  destination :
    setting.Right packet.inner.destination packet.outer.destination ∨
      (setting.network.isGateway packet.outer.destination = true ∧
        setting.readsTags = true ∧
        packet.invalidationTag.tags ≠ [])

/-- A packet that the old host is about to send on. -/
structure Scheduled
    (host : Ipv4Address)
    (packet : DataPacket)
    (call : SendCall) : Prop where
  fromOldHost : host = setting.oldHost
  marked :
    setting.Marked
      { packet with outer := { packet.outer with source := host } }
  invalidated : packet.invalidationTag.tags ≠ []
  call :
    (packet.hitTag.peek.isSome = true ∧ ∃ gwIdx, call = .sendToGateway gwIdx) ∨
      (packet.hitTag.peek = none ∧ call = .sendFollowMeRule true ∧
        packet.inner.destination = setting.network.migratedContainer)

/-- A packet on a link. -/
def Travelling (packet : DataPacket) : Prop :=
  setting.Fresh packet ∨ setting.Resent packet

/-- The invariant of the network. -/
def assertion : Assertion where
  mapping := setting.Known
  inFlight := setting.Travelling
  scheduled := setting.Scheduled
  waiting := fun packet =>
    setting.Travelling packet ∧
      setting.Travelling (GatewayApp.sendPacket packet)

variable {setting}

/-! ## Packets at a switch -/

@[simp] theorem readsTags_switches (switch : Switch) :
    (setting.network.switches switch).readsTags = setting.readsTags := by
  simp [SwitchConfig.readsTags, readsTags,
    setting.network.sameMode switch]

/-- The migrated container is on a host. -/
theorem Migrated.onHost
    (migrated : setting.Migrated) :
    setting.OnHost setting.network.migratedContainer :=
  ⟨_, migrated.arrived, migrated.toHost⟩

/-- The right address of a container on a host is not a gateway. -/
theorem OnHost.resolved
    {container address : Ipv4Address}
    (onHost : setting.OnHost container)
    (right : setting.Right container address) :
    setting.network.isGateway address = false := by
  obtain ⟨host, located, resolved⟩ := onHost
  rw [Right, located, Option.some.injEq] at right
  rwa [← right]

/-- A tag that a switch reads is one of the tags. -/
theorem Marked.eq_of_peek
    {packet : DataPacket}
    (marked : setting.Marked packet)
    {invalidated : Mapping}
    (tagged : packet.invalidationTag.peek = some invalidated) :
    invalidated = (packet.inner.destination, setting.oldHost) := by
  rcases marked.invalidated with untagged | added
  · simp [untagged] at tagged
  · simpa [added] using tagged.symm

/-- Fresh packets carry no invalidation tag. -/
theorem Fresh.peek_eq_none
    {packet : DataPacket}
    (fresh : setting.Fresh packet) :
    packet.invalidationTag.peek = none := by
  simp [fresh.uninvalidated]

/-- The tags of a packet after a switch. -/
theorem Tagged.handled
    {packet : DataPacket}
    (tagged : setting.Tagged packet)
    {switch : Switch}
    {received : Received}
    (handled :
      (setting.network.switches switch).Handled setting.Known packet
        received)
    (redirectable :
      packet.invalidationTag.peek = none →
        setting.network.isGateway packet.outer.destination = true →
        packet.hitTag.tags = []) :
    setting.Tagged received.packet := by
  obtain ⟨source, _, inner, _, _, _, _⟩ := handled.same
  have kept :
      packet.hitTag.tags ≠ [] →
        setting.readsTags = true ∧
          setting.OnHost received.packet.inner.destination := by
    rw [inner]
    exact tagged.redirected
  refine
    { evicted := handled.evicted
      evictionTag := handled.evictionTag tagged.evictionTag
      hitTag := ?_
      redirected := ?_
      source := by rw [inner, source]; exact tagged.source }
  · cases handled.hitTag with
    | kept same unredirected =>
        rw [same]
        exact tagged.hitTag
    | reported readsTags invalidated removed =>
        rw [removed]
        exact tagged.hitTag.remove
    | hit readsTags uninvalidated toGateway vouched added =>
        rw [Network.isGateway_switches] at toGateway
        rw [added]
        exact
          tagged.hitTag.add (redirectable uninvalidated toGateway) _
  · cases handled.hitTag with
    | kept same unredirected =>
        rw [same]
        exact kept
    | reported readsTags invalidated removed =>
        intro present
        refine kept fun absent => present ?_
        simp [removed, absent]
    | hit readsTags uninvalidated toGateway vouched added =>
        intro _
        rw [readsTags_switches] at readsTags
        rw [inner]
        exact ⟨readsTags, vouched.onHost⟩

/-- What a fresh packet teaches is known. -/
theorem Fresh.learnsDestination
    {packet : DataPacket}
    (fresh : setting.Fresh packet)
    (proper :
      ∀ key value, setting.Right key value → setting.proper value)
    (resolved :
      setting.network.isGateway packet.outer.destination = false) :
    setting.Known packet.inner.destination packet.outer.destination := by
  rcases fresh.destination with toGateway | right | ⟨migrated, wrong, why⟩
  · simp [resolved] at toGateway
  · exact ⟨⟨_, right, resolved⟩, resolved, proper _ _ right,
      Or.inl right⟩
  · have onHost : setting.OnHost packet.inner.destination := by
      rcases why with redirected | isMigrated
      · exact (fresh.redirected redirected).2
      · rw [isMigrated]
        exact migrated.onHost
    refine
      ⟨onHost, resolved, by rw [wrong]; exact migrated.proper,
        Or.inr ⟨migrated, wrong, ?_⟩⟩
    exact why.imp_left fun redirected => (fresh.redirected redirected).1

theorem Resent.learnsDestination
    {packet : DataPacket}
    (resent : setting.Resent packet)
    (proper :
      ∀ key value, setting.Right key value → setting.proper value)
    (resolved :
      setting.network.isGateway packet.outer.destination = false) :
    setting.Known packet.inner.destination packet.outer.destination := by
  rcases resent.destination with right | ⟨toGateway, _⟩
  · exact ⟨resent.onHost, resolved, proper _ _ right, Or.inl right⟩
  · simp [resolved] at toGateway

theorem Travelling.tagged
    {packet : DataPacket}
    (travelling : setting.Travelling packet) :
    setting.Tagged packet :=
  travelling.elim (fun fresh => fresh.toTagged)
    fun resent => resent.toTagged

/-- A switch learns only known mappings. -/
theorem Travelling.offers
    {packet : DataPacket}
    (travelling : setting.Travelling packet)
    (proper :
      ∀ key value, setting.Right key value → setting.proper value)
    (switch : Switch) :
    (setting.network.switches switch).Offers setting.Known packet where
  evicted := travelling.tagged.evicted
  destination := fun learns => by
    have resolved := learns.resolved
    rw [Network.isGateway_switches] at resolved
    exact
      travelling.elim
        (fun fresh => fresh.learnsDestination proper resolved)
        (fun resent => resent.learnsDestination proper resolved)
  source := fun learns => by
    have readsTags := learns.readsTags
    rw [readsTags_switches] at readsTags
    exact travelling.tagged.source readsTags

/-- A fresh packet stays fresh; a hit may send it to the old host. -/
theorem Fresh.handled
    {packet : DataPacket}
    (fresh : setting.Fresh packet)
    {switch : Switch}
    {received : Received}
    (handled :
      (setting.network.switches switch).Handled setting.Known packet
        received) :
    setting.Fresh received.packet := by
  have untagged := fresh.peek_eq_none
  have redirectable :
      packet.invalidationTag.peek = none →
        setting.network.isGateway packet.outer.destination = true →
        packet.hitTag.tags = [] := by
    intro _ toGateway
    by_contra present
    simp [fresh.leftGateway present] at toGateway
  have tagged := fresh.toTagged.handled handled redirectable
  obtain ⟨_, _, inner, invalidationTag, _, _, misdeliveries⟩ :=
    handled.same
  suffices destination :
      (received.packet.hitTag.tags ≠ [] →
        setting.network.isGateway received.packet.outer.destination =
          false) ∧
      (setting.network.isGateway received.packet.outer.destination =
          true ∨
        setting.Right packet.inner.destination
          received.packet.outer.destination ∨
        (setting.Migrated ∧
          received.packet.outer.destination = setting.oldHost ∧
          (received.packet.hitTag.tags ≠ [] ∨
            packet.inner.destination =
              setting.network.migratedContainer))) from
    { tagged with
      uninvalidated := by rw [invalidationTag, fresh.uninvalidated]
      ttl := by rw [inner, fresh.ttl]
      misdeliveries := by rw [misdeliveries, fresh.misdeliveries]
      leftGateway := destination.1
      destination := by rw [inner]; exact destination.2 }
  cases handled.hitTag with
  | reported readsTags invalidated removed =>
      simp [untagged] at invalidated
  | hit readsTags uninvalidated toGateway vouched added =>
      refine ⟨fun _ => vouched.resolved, Or.inr ?_⟩
      refine vouched.current.imp_right fun wrong => ?_
      exact ⟨wrong.1, wrong.2.1, Or.inl (by simp [added])⟩
  | kept same unredirected =>
      rw [same]
      have readdressed := handled.destination
      generalize received.packet.outer.destination = address
        at readdressed unredirected ⊢
      cases readdressed with
      | kept => exact ⟨fresh.leftGateway, fresh.destination⟩
      | followed readsTags invalidated vouched different =>
          simp [untagged] at invalidated
      | hit uninvalidated toGateway vouched =>
          by_cases readsTags : setting.readsTags = true
          · -- a switch that reads tags marks what it redirects
            have unchanged := unredirected (by simpa using readsTags) untagged
            rw [unchanged]
            exact ⟨fresh.leftGateway, fresh.destination⟩
          · refine ⟨fun _ => vouched.resolved, Or.inr ?_⟩
            refine vouched.current.imp_right fun wrong => ?_
            exact
              ⟨wrong.1, wrong.2.1,
                Or.inr (wrong.2.2.resolve_left readsTags)⟩

/-- A re-sent packet is never redirected to the old host again. -/
theorem Resent.handled
    {packet : DataPacket}
    (resent : setting.Resent packet)
    {switch : Switch}
    {received : Received}
    (handled :
      (setting.network.switches switch).Handled setting.Known packet
        received) :
    setting.Resent received.packet := by
  have toGateway_tagged :
      setting.network.isGateway packet.outer.destination = true →
        setting.readsTags = true ∧ packet.invalidationTag.tags ≠ [] := by
    intro toGateway
    rcases resent.destination with right | ⟨_, tagged⟩
    · simp [resent.onHost.resolved right] at toGateway
    · exact tagged
  have notRedirected :
      (setting.readsTags = true →
          packet.invalidationTag.peek = none) →
        setting.network.isGateway packet.outer.destination = true →
        False := by
    intro uninvalidated toGateway
    obtain ⟨readsTags, tagged⟩ := toGateway_tagged toGateway
    exact tagged
      (TagStack.tags_eq_nil_of_peek (uninvalidated readsTags))
  have tagged :=
    resent.toTagged.handled handled fun uninvalidated toGateway =>
      (notRedirected (fun _ => uninvalidated) toGateway).elim
  obtain ⟨_, _, inner, invalidationTag, _, _, misdeliveries⟩ :=
    handled.same
  refine
    { tagged with
      migrated := resent.migrated
      ttl := by rw [inner, resent.ttl]
      misdeliveries := by rw [misdeliveries, resent.misdeliveries]
      onHost := by rw [inner]; exact resent.onHost
      invalidated := by
        rw [inner, invalidationTag]
        exact resent.invalidated
      destination := ?_ }
  rw [inner, invalidationTag]
  have readdressed := handled.destination
  generalize received.packet.outer.destination = address
    at readdressed ⊢
  cases readdressed with
  | kept => exact resent.destination
  | followed readsTags invalidated vouched different =>
      -- the tag names the old host, so a different value is right
      rw [resent.eq_of_peek invalidated] at vouched different
      left
      rcases vouched.current with right | ⟨_, wrong, _⟩
      · exact right
      · exact absurd wrong different
  | hit uninvalidated toGateway vouched =>
      rw [readsTags_switches] at uninvalidated
      rw [Network.isGateway_switches] at toGateway
      exact (notRedirected uninvalidated toGateway).elim

/-! ## Packets at hosts and gateways -/

/-- A container's packet. -/
theorem Fresh.of_sendTo
    (proper :
      ∀ key value, setting.Right key value → setting.proper value)
    {source destination host gateway : Ipv4Address}
    {flowId : UInt32}
    {sourceTag : Option Ipv4Address}
    (located : setting.Right source host)
    (onHost : setting.network.isGateway host = false)
    (toGateway : setting.network.isGateway gateway = true) :
    setting.Fresh
      ((setting.network.socketHelper host).sendTo
        (Network.freshPacket source destination flowId sourceTag)
        gateway) where
  evicted := by simp [SocketHelper.sendTo, Network.freshPacket]
  evictionTag := .empty
  hitTag := .empty
  redirected := fun present => absurd rfl present
  source := fun _ =>
    ⟨⟨host, located, onHost⟩, onHost, proper _ _ located,
      Or.inl located⟩
  uninvalidated := rfl
  ttl := rfl
  misdeliveries := rfl
  leftGateway := fun present => absurd rfl present
  destination := Or.inl toGateway

/-- The gateway's two halves together. -/
theorem Travelling.resolved
    {packet : DataPacket}
    (travelling : setting.Travelling packet)
    {address : Ipv4Address}
    (toGateway :
      setting.network.isGateway packet.outer.destination = true)
    (found : setting.Right packet.inner.destination address) :
    setting.Travelling (packet.setDestination address) ∧
      setting.Travelling
        (GatewayApp.sendPacket (packet.setDestination address)) := by
  have evicted :
      ∀ mapping ∈ packet.evictionTag.remove.tags,
        setting.Known mapping.1 mapping.2 := fun mapping member =>
    travelling.tagged.evicted mapping (TagStack.mem_of_mem_remove member)
  have removed := travelling.tagged.evictionTag.remove
  rcases travelling with fresh | resent
  · have unmarked : ¬ packet.hitTag.tags ≠ [] := by
      intro present
      simp [fresh.leftGateway present] at toGateway
    have resolved : setting.Fresh (packet.setDestination address) :=
      { fresh with
        leftGateway := fun present => absurd present unmarked
        destination := Or.inr (Or.inl found) }
    refine ⟨Or.inl resolved, Or.inl ?_⟩
    exact
      { resolved with
        evicted := evicted
        evictionTag := removed
        uninvalidated := by
          change packet.invalidationTag.remove = .empty
          rw [fresh.uninvalidated]
          rfl }
  · have resolved : setting.Resent (packet.setDestination address) :=
      { resent with destination := Or.inl found }
    refine ⟨Or.inr resolved, Or.inr ?_⟩
    refine
      { resolved with
        evicted := evicted
        evictionTag := removed
        invalidated := Or.inl ?_
        destination := Or.inl found }
    change packet.invalidationTag.remove = .empty
    rcases resent.invalidated with untagged | added
    · rw [untagged]
      rfl
    · rw [added]
      rfl

/-- Only the old host forwards a packet, and it forwards it once. -/
theorem Travelling.misdelivered
    {packet : DataPacket}
    (travelling : setting.Travelling packet)
    (state : HostState)
    (atHost :
      setting.network.isGateway packet.outer.destination = false)
    (elsewhere :
      ¬ setting.Right packet.inner.destination packet.outer.destination) :
    let sending :=
      (setting.network.socketHelper
          packet.outer.destination).resendMisdelivered state
        (Assertion.forwardInner packet)
    setting.Scheduled packet.outer.destination sending.packet
      sending.call := by
  have fresh : setting.Fresh packet := by
    rcases travelling with fresh | resent
    · exact fresh
    · exfalso
      rcases resent.destination with right | ⟨toGateway, _⟩
      · exact elsewhere right
      · simp [atHost] at toGateway
  obtain ⟨migrated, wrong, why⟩ :
      setting.Migrated ∧ packet.outer.destination = setting.oldHost ∧
        (packet.hitTag.tags ≠ [] ∨
          packet.inner.destination =
            setting.network.migratedContainer) := by
    simpa [atHost, elsewhere] using fresh.destination
  have onHost : setting.OnHost packet.inner.destination := by
    rcases why with redirected | isMigrated
    · exact (fresh.redirected redirected).2
    · rw [isMigrated]
      exact migrated.onHost
  have invalidationTag :
      packet.invalidationTag.add
          (packet.inner.destination, packet.outer.destination) =
        TagStack.empty.add
          (packet.inner.destination, setting.oldHost) := by
    rw [fresh.uninvalidated, wrong]
  refine
    { fromOldHost := wrong
      marked :=
        { evicted := fresh.evicted
          evictionTag := fresh.evictionTag
          hitTag := fresh.hitTag
          redirected := fresh.redirected
          source := fun readsTags =>
            { onHost := (fresh.source readsTags).onHost
              resolved := atHost
              proper := by
                change setting.proper packet.outer.destination
                rw [wrong]
                exact migrated.proper
              current :=
                Or.inr ⟨migrated, wrong, Or.inl readsTags⟩ }
          migrated := migrated
          ttl := ?_
          misdeliveries := ?_
          onHost := onHost
          invalidated := Or.inr invalidationTag }
      invalidated := by simp [SocketHelper.resendMisdelivered]
      call := ?_ }
  · change packet.inner.ttl - 1 = 63
    rw [fresh.ttl]
    rfl
  · change packet.misdeliveries + 1 = 1
    rw [fresh.misdeliveries]
  · change
      packet.hitTag.peek.isSome = true ∧ _ ∨
        packet.hitTag.peek = none ∧ _ ∧ _
    cases found : packet.hitTag.peek with
    | some tag =>
        refine
          Or.inl
            ⟨rfl,
              (setting.network.socketHelper
                  packet.outer.destination).getGatewayIdx
                (Assertion.forwardInner packet),
              ?_⟩
        simp [SocketHelper.resendMisdelivered, Assertion.forwardInner,
          found]
    | none =>
        refine Or.inr ⟨rfl, ?_, ?_⟩
        · simp [SocketHelper.resendMisdelivered,
            Assertion.forwardInner, found]
        · exact why.resolve_left fun present =>
            present (TagStack.tags_eq_nil_of_peek found)

/-- The old host sends to a gateway or to the container's new host. -/
theorem Scheduled.fired
    {host : Ipv4Address}
    {packet sent : DataPacket}
    {call : SendCall}
    (scheduled : setting.Scheduled host packet call)
    (performed :
      (setting.network.socketHelper host).perform
        setting.virtualToPhysical packet call = some sent) :
    setting.Resent sent := by
  obtain ⟨_, marked, invalidated, call⟩ := scheduled
  rcases call with ⟨redirected, gwIdx, rfl⟩ | ⟨_, rfl, isMigrated⟩
  · obtain ⟨gateway, toGateway, rfl⟩ :=
      Network.isGateway_of_perform performed
    have present : packet.hitTag.tags ≠ [] := by
      intro absent
      simp [TagStack.peek, absent] at redirected
    exact
      { marked with
        destination :=
          Or.inr ⟨toGateway, (marked.redirected present).1, invalidated⟩ }
  · simp only [SocketHelper.perform, Option.some.injEq] at performed
    subst performed
    exact
      { marked with
        destination := Or.inl (by
          change
            setting.Right packet.inner.destination
              setting.network.followMeAddress
          rw [isMigrated]
          exact marked.migrated.arrived) }

theorem closed
    (setting : Setting Switch)
    (proper :
      ∀ key value, setting.Right key value → setting.proper value) :
    setting.assertion.Closed setting.network
      setting.virtualToPhysical where
  fresh := fun located onHost toGateway =>
    Or.inl (.of_sendTo proper located onHost toGateway)
  anyTtl := fun _ travelling =>
    travelling.imp (fun fresh => { fresh with })
      fun resent => { resent with }
  handled := fun travelling handled =>
    travelling.imp (fun fresh => fresh.handled handled)
      fun resent => resent.handled handled
  resolved := fun travelling toGateway found =>
    travelling.resolved toGateway found
  sent := fun waiting => waiting.2
  ttl := fun travelling => by
    rcases travelling with fresh | resent
    · rw [fresh.ttl]
      decide
    · rw [resent.ttl]
      decide
  misdelivered := fun state travelling atHost elsewhere _ =>
    travelling.misdelivered state atHost elsewhere
  fired := fun scheduled performed =>
    Or.inr (scheduled.fired performed)

/-! ## The migration -/

/-- The migration is about to happen. -/
structure Moves (setting : Setting Switch) : Prop where
  located :
    setting.Right setting.network.migratedContainer setting.oldHost
  moved : setting.oldHost ≠ setting.network.followMeAddress
  fromHost : setting.network.isGateway setting.oldHost = false
  toHost :
    setting.network.isGateway setting.network.followMeAddress = false
  proper : setting.proper setting.oldHost

/-- The setting once the container is on its new host. -/
def moved (setting : Setting Switch) : Setting Switch :=
  { setting with
    virtualToPhysical :=
      Function.update setting.virtualToPhysical
        setting.network.migratedContainer
        (some setting.network.followMeAddress) }

/-- There is one migration only. -/
theorem Moves.notMigrated
    (moves : setting.Moves) :
    ¬ setting.Migrated := by
  intro migrated
  have located := moves.located
  rw [Right, migrated.arrived, Option.some.injEq] at located
  exact moves.moved located.symm

theorem Moves.migrated
    (moves : setting.Moves) :
    setting.moved.Migrated where
  arrived := Function.update_self _ _ _
  moved := moves.moved
  fromHost := moves.fromHost
  toHost := moves.toHost
  proper := moves.proper

/-- Other containers stay where they are. -/
theorem moved_right_of_ne
    {container address : Ipv4Address}
    (other : container ≠ setting.network.migratedContainer) :
    setting.moved.Right container address ↔
      setting.Right container address := by
  simp [moved, Right, Function.update_of_ne other]

theorem Moves.onHost
    (moves : setting.Moves)
    {container : Ipv4Address}
    (onHost : setting.OnHost container) :
    setting.moved.OnHost container := by
  by_cases isMigrated : container = setting.network.migratedContainer
  · rw [isMigrated]
    exact moves.migrated.onHost
  · obtain ⟨host, located, resolved⟩ := onHost
    exact ⟨host, (moved_right_of_ne isMigrated).mpr located, resolved⟩

/-- A right address is still right, or is the old host of the container. -/
theorem Moves.right
    (moves : setting.Moves)
    {container address : Ipv4Address}
    (right : setting.Right container address) :
    setting.moved.Right container address ∨
      (setting.moved.Migrated ∧ address = setting.oldHost ∧
        container = setting.network.migratedContainer) := by
  by_cases isMigrated : container = setting.network.migratedContainer
  · right
    refine ⟨moves.migrated, ?_, isMigrated⟩
    have located := moves.located
    rw [isMigrated] at right
    rw [Right, right, Option.some.injEq] at located
    exact located
  · exact Or.inl ((moved_right_of_ne isMigrated).mpr right)

/-- What is cached may now be stale. -/
theorem Moves.known
    (moves : setting.Moves)
    {key value : Ipv4Address}
    (known : setting.Known key value) :
    setting.moved.Known key value := by
  refine
    ⟨moves.onHost known.onHost, known.resolved, known.proper, ?_⟩
  rcases known.current with right | ⟨migrated, _⟩
  · exact
      (moves.right right).imp_right fun stale =>
        ⟨stale.1, stale.2.1, Or.inr stale.2.2⟩
  · exact absurd migrated moves.notMigrated

theorem Moves.tagged
    (moves : setting.Moves)
    {packet : DataPacket}
    (tagged : setting.Tagged packet) :
    setting.moved.Tagged packet where
  evicted := fun mapping member =>
    moves.known (tagged.evicted mapping member)
  evictionTag := tagged.evictionTag
  hitTag := tagged.hitTag
  redirected := fun present =>
    ⟨(tagged.redirected present).1,
      moves.onHost (tagged.redirected present).2⟩
  source := fun readsTags => moves.known (tagged.source readsTags)

/-- Before the migration all packets are fresh, and they stay so. -/
theorem Moves.travelling
    (moves : setting.Moves)
    {packet : DataPacket}
    (travelling : setting.Travelling packet) :
    setting.moved.Travelling packet := by
  rcases travelling with fresh | resent
  · refine
      Or.inl
        { moves.tagged fresh.toTagged with
          uninvalidated := fresh.uninvalidated
          ttl := fresh.ttl
          misdeliveries := fresh.misdeliveries
          leftGateway := fresh.leftGateway
          destination := ?_ }
    refine fresh.destination.imp_right fun resolved => ?_
    rcases resolved with right | ⟨migrated, _⟩
    · exact
        (moves.right right).imp_right fun stale =>
          ⟨stale.1, stale.2.1, Or.inr stale.2.2⟩
    · exact absurd migrated moves.notMigrated
  · exact absurd resent.migrated moves.notMigrated

theorem Moves.holds
    (moves : setting.Moves)
    {state : NetworkState Switch}
    (holds : setting.assertion.Holds state) :
    setting.moved.assertion.Holds state :=
  holds.mono
    (fun _ _ known => moves.known known)
    (fun _ travelling => moves.travelling travelling)
    (fun _ _ _ scheduled =>
      absurd scheduled.marked.migrated moves.notMigrated)
    (fun _ waiting =>
      ⟨moves.travelling waiting.1, moves.travelling waiting.2⟩)

end Setting

/-! ## Runs -/

variable
  {network : Network Switch}
  {oldHost : Ipv4Address}
  {proper : Ipv4Address → Prop}
  {state next : NetworkState Switch}

/-- The setting at a state of a run. -/
abbrev settingAt
    (network : Network Switch)
    (oldHost : Ipv4Address)
    (proper : Ipv4Address → Prop)
    (state : NetworkState Switch) :
    Setting Switch where
  network := network
  oldHost := oldHost
  proper := proper
  virtualToPhysical := state.virtualToPhysical

/-- Every container has a proper address, and the invariant holds. -/
structure Invariant
    (network : Network Switch)
    (oldHost : Ipv4Address)
    (proper : Ipv4Address → Prop)
    (state : NetworkState Switch) : Prop where
  properAddresses :
    ∀ key value, state.virtualToPhysical key = some value → proper value
  holds : (settingAt network oldHost proper state).assertion.Holds state

variable [DecidableEq Switch]

theorem Invariant.step
    (caching : network.Caching)
    (properTarget : proper network.updateMappingsAddress)
    (invariant : Invariant network oldHost proper state)
    {action : Action Switch}
    (once : MigratesOnce network oldHost state action)
    (stepped : network.system.step state action = some next) :
    Invariant network oldHost proper next := by
  by_cases migration : ∃ container host, action = .migrate container host
  · obtain ⟨container, host, rfl⟩ := migration
    obtain ⟨isMigrated, updated, followed, located, moves, fromHost,
      toHost⟩ := once container host rfl
    change network.step state (.migrate container host) = some next
      at stepped
    simp only [Network.step, Option.some.injEq] at stepped
    subst stepped
    refine ⟨fun key value entry => ?_, ?_⟩
    · by_cases same : key = container
      · simp only [same, Function.update_self,
          Option.some.injEq] at entry
        rw [← entry, updated]
        exact properTarget
      · simp only [Function.update_of_ne same] at entry
        exact invariant.properAddresses key value entry
    · have willMove : (settingAt network oldHost proper state).Moves :=
        { located := by rw [← isMigrated]; exact located
          moved := by rw [← followed]; exact moves
          fromHost := fromHost
          toHost := by rw [← followed]; exact toHost
          proper := invariant.properAddresses _ _ located }
      subst isMigrated
      subst followed
      exact (willMove.holds invariant.holds).of_same rfl rfl
  · have noMigration :
        ∀ container host, action ≠ .migrate container host :=
      fun container host isMigration =>
        migration ⟨container, host, isMigration⟩
    have same := Network.virtualToPhysical_of_step noMigration stepped
    refine ⟨by rw [same]; exact invariant.properAddresses, ?_⟩
    rw [settingAt, same]
    refine
      invariant.holds.step caching
        (Setting.closed (settingAt network oldHost proper state)
          invariant.properAddresses)
        ?_ noMigration stepped
    intro switch position draw packet _ found
    have travelling :
        (settingAt network oldHost proper state).Travelling packet :=
      invariant.holds.parcels _ (List.mem_of_getElem? found)
    exact travelling.offers invariant.properAddresses switch

/-- The invariant holds in every reachable state. -/
theorem invariant_of_reachable
    (proper : Ipv4Address → Prop)
    (caching : network.Caching)
    (properTarget : proper network.updateMappingsAddress)
    {initial : NetworkState Switch}
    (started : Network.Started initial)
    (properStart :
      ∀ key value, initial.virtualToPhysical key = some value →
        proper value)
    (reachable :
      network.system.Reachable (MigratesOnce network oldHost) initial
        state) :
    Invariant network oldHost proper state :=
  reachable.invariant _ ⟨properStart, .start started _⟩
    fun invariant once stepped =>
      invariant.step caching properTarget once stepped

/-! ## At most one misdelivery -/

/-- No packet is misdelivered twice, and re-sent packets are well addressed. -/
structure MisdeliveredOnce
    (network : Network Switch)
    (state : NetworkState Switch) : Prop where
  atMostOne :
    ∀ packet, state.Carries packet → packet.misdeliveries ≤ 1
  destination :
    ∀ packet, .inFlight (.data packet) ∈ state.parcels →
      packet.misdeliveries ≠ 0 →
      network.isGateway packet.outer.destination = true ∨
        state.virtualToPhysical packet.inner.destination =
          some packet.outer.destination
  call :
    ∀ host packet call, .scheduled host packet call ∈ state.parcels →
      if packet.hitTag.peek.isSome then
        ∃ gwIdx, call = .sendToGateway gwIdx
      else
        call = .sendFollowMeRule true

/--
With one migration, a packet is misdelivered at most once; from then on it is
addressed to a gateway or to the host that its container is on.
-/
theorem misdeliveredOnce_of_reachable
    (caching : network.Caching)
    {initial : NetworkState Switch}
    (started : Network.Started initial)
    (reachable :
      network.system.Reachable (MigratesOnce network oldHost) initial
        state) :
    MisdeliveredOnce network state := by
  have invariant :=
    invariant_of_reachable (fun _ => True) caching trivial
      started (fun _ _ _ => trivial) reachable
  have travelling
      {packet : DataPacket}
      (travelling :
        (settingAt network oldHost (fun _ => True) state).Travelling
          packet) :
      packet.misdeliveries ≤ 1 := by
    rcases travelling with fresh | resent
    · simp [fresh.misdeliveries]
    · simp [resent.misdeliveries]
  refine ⟨fun packet carries => ?_, fun packet member resent => ?_,
    fun host packet call member => ?_⟩
  · exact
      invariant.holds.carried
        (fun packet => packet.misdeliveries ≤ 1)
        (fun _ asserted => travelling asserted)
        (fun _ _ _ scheduled => by
          have once := scheduled.marked.misdeliveries
          simp only at once
          omega)
        (fun _ waiting => travelling waiting.1) carries
  · rcases invariant.holds.parcels _ member with fresh | again
    · exact absurd fresh.misdeliveries resent
    · exact again.destination.symm.imp_left fun toGateway => toGateway.1
  · have scheduled := invariant.holds.parcels _ member
    rcases scheduled.call with ⟨redirected, gwIdx, sent⟩ | ⟨absent, sent, _⟩
    · rw [if_pos redirected]
      exact ⟨gwIdx, sent⟩
    · simpa [absent] using sent

open TraceSimulation in
/-- In the pod, the second packet is misdelivered once and then resolved. -/
theorem misdeliveredOnce_of_reachable_onePod :
    ∃ state,
      (onePod.network .switchV2P).system.Reachable
          (MigratesOnce (onePod.network .switchV2P) onePod.oldHost)
          (onePod.start .switchV2P) state ∧
        (state.parcels.any fun parcel =>
          parcel.dataPacket?.any fun packet =>
            packet.misdeliveries = 1) = true ∧
        MisdeliveredOnce (onePod.network .switchV2P) state := by
  have resent :
      ((onePod.network .switchV2P).system.run?
          (onePod.start .switchV2P) (onePod.resend .switchV2P)).map
            (fun state =>
              state.parcels.any fun parcel =>
                parcel.dataPacket?.any fun packet =>
                  packet.misdeliveries = 1) = some true := by
    decide +kernel
  obtain ⟨state, ran, misdelivered⟩ := Option.map_eq_some_iff.mp resent
  have reachable :=
    TransitionSystem.reachable_of_run?
      (migratesOnce_sound (onePod.network .switchV2P) onePod.oldHost)
      (by decide +kernel) ran
  exact
    ⟨state, reachable, misdelivered,
      misdeliveredOnce_of_reachable ⟨Or.inl rfl⟩
        (Network.started_start _ _ _ _ _ _ _) reachable⟩

end SwitchV2P.SingleMigration
