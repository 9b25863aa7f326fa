import SwitchV2P.RoutedRefinement
import SwitchV2P.RoutedStatic
import SwitchV2P.SingleMigration

namespace SwitchV2P.RoutedSimulation

/-!
# Delivery while one container migrates

Caches go stale when the container moves, so a packet may reach the old host.
What the network without routes says of its runs is enough to show that this
happens to no packet twice, so that every packet is still delivered.
-/

open SingleMigration

variable (sim : RoutedSimulation)

/-- The address that `Migration` leaves behind at the old host. -/
def placeholder : Ipv4Address :=
  IpUtils.getContainerVirtualAddress
    (UInt32.ofNat (sim.containerCount + 1))

/-- One container moves from one server to another one. -/
structure MovesOnce
    (oldLeaf oldHost : Nat)
    (virtualToPhysical : Ipv4Address → Option Ipv4Address)
    (addresses : Nat → Nat → List Ipv4Address) :
    Prop where
  deployed : sim.Deployed virtualToPhysical addresses
  onHosts :
    ∀ container address, virtualToPhysical container = some address →
      sim.IsHost address
  caching : sim.network.Caching
  fromHost : sim.HasNode (.host oldLeaf oldHost)
  fromServer : (oldLeaf, oldHost) ∉ sim.gws
  toHost :
    sim.HasNode
      (.host sim.migrationParams.dstLeaf.toNat
        sim.migrationParams.dstHost.toNat)
  toServer :
    (sim.migrationParams.dstLeaf.toNat,
      sim.migrationParams.dstHost.toNat) ∉ sim.gws
  moves :
    sim.hostAddress oldLeaf oldHost ≠ sim.network.updateMappingsAddress
  followed :
    sim.network.followMeAddress = sim.network.updateMappingsAddress
  located :
    virtualToPhysical sim.migratedContainer =
      some (sim.hostAddress oldLeaf oldHost)
  once : (addresses oldLeaf oldHost).count sim.migratedContainer ≤ 1
  unused : virtualToPhysical sim.placeholder = none

/-- Containers send to containers, and one migrates from the old host. -/
def MigratingWorkload
    (oldLeaf oldHost : Nat)
    (state : RoutedState) :
    RoutedAction → Prop
  | .send leaf host source destination _ _ =>
      state.virtualToPhysical source ≠ none ∧
        sim.OnServer state.virtualToPhysical destination ∧
        destination ∉ state.addresses leaf host
  | .migration srcLeaf srcHost => srcLeaf = oldLeaf ∧ srcHost = oldHost
  | _ => True

/-- Where the packet was delivered, its container was. -/
def DeliveredTo
    (oldLeaf oldHost : Nat)
    (virtualToPhysical : Ipv4Address → Option Ipv4Address)
    (delivery : Delivery) :
    Prop :=
  let container := delivery.tagged.packet.inner.destination
  virtualToPhysical container =
      some (sim.hostAddress delivery.leaf delivery.host) ∨
    (container = sim.migratedContainer ∧
      delivery.leaf = oldLeaf ∧ delivery.host = oldHost)

/-- What the migration keeps of the tunnel interfaces and the deliveries. -/
structure Moving
    (oldLeaf oldHost : Nat)
    (state : RoutedState) :
    Prop where
  located : sim.Located state
  mapped : state.virtualToPhysical sim.migratedContainer ≠ none
  once :
    (state.addresses oldLeaf oldHost).count sim.migratedContainer ≤ 1
  unused : state.virtualToPhysical sim.placeholder = none
  delivered :
    ∀ delivery ∈ state.delivered,
      sim.DeliveredTo oldLeaf oldHost state.virtualToPhysical delivery

variable
  {sim : RoutedSimulation}
  {limit oldLeaf oldHost : Nat}
  {virtualToPhysical : Ipv4Address → Option Ipv4Address}
  {addresses : Nat → Nat → List Ipv4Address}

/-- The address of the new host. -/
theorem updateMappingsAddress_eq :
    sim.network.updateMappingsAddress =
      sim.hostAddress sim.migrationParams.dstLeaf.toNat
        sim.migrationParams.dstHost.toNat :=
  rfl

namespace MovesOnce

/-- The new host has no gateway. -/
theorem isServer
    (movesOnce :
      sim.MovesOnce oldLeaf oldHost virtualToPhysical addresses) :
    sim.IsServer sim.network.updateMappingsAddress where
  isHost := ⟨_, _, movesOnce.toHost, rfl⟩
  noGateway := fun isGateway =>
    movesOnce.toServer
      ((movesOnce.deployed.sound.mem_gws_iff movesOnce.toHost).mpr
        isGateway)

theorem notBluebird
    (movesOnce :
      sim.MovesOnce oldLeaf oldHost virtualToPhysical addresses) :
    sim.NotBluebird := by
  rcases movesOnce.caching.mode with mode | mode <;>
    exact fun same => by
      rw [show sim.network.simParams.simMode =
        sim.simParameters.simMode from rfl, same] at mode
      cases mode

end MovesOnce

/-! ## Tunnel interfaces -/

/-- `RemoveAddress` and `AddAddress` concern two addresses only. -/
theorem mem_migrate_of_ne
    {state : RoutedState}
    (srcLeaf srcHost : Nat)
    {container : Ipv4Address}
    (other : container ≠ sim.migratedContainer)
    (used : container ≠ sim.placeholder)
    (leaf host : Nat) :
    container ∈ (sim.migrate state srcLeaf srcHost).addresses leaf host ↔
      container ∈ state.addresses leaf host := by
  unfold RoutedSimulation.migrate
  dsimp only
  change container ≠ IpUtils.getContainerVirtualAddress
    (UInt32.ofNat (sim.containerCount + 1)) at used
  generalize IpUtils.getContainerVirtualAddress
    (UInt32.ofNat (sim.containerCount + 1)) = placeholder at used ⊢
  split <;> split <;>
    simp [List.mem_erase_of_ne other, other, used]

/-- The container leaves the one host for the other. -/
theorem migratedContainer_mem_migrate
    {state : RoutedState}
    {srcLeaf srcHost : Nat}
    (used : sim.migratedContainer ≠ sim.placeholder)
    (once :
      (state.addresses srcLeaf srcHost).count sim.migratedContainer ≤ 1)
    {leaf host : Nat}
    (nowhereElse :
      ¬ (leaf = srcLeaf ∧ host = srcHost) →
        sim.migratedContainer ∉ state.addresses leaf host) :
    sim.migratedContainer ∈
        (sim.migrate state srcLeaf srcHost).addresses leaf host ↔
      leaf = sim.migrationParams.dstLeaf.toNat ∧
        host = sim.migrationParams.dstHost.toNat := by
  unfold RoutedSimulation.migrate
  dsimp only
  change sim.migratedContainer ≠ IpUtils.getContainerVirtualAddress
    (UInt32.ofNat (sim.containerCount + 1)) at used
  have removed :
      sim.migratedContainer ∉
        if leaf = srcLeaf ∧ host = srcHost then
          (state.addresses leaf host).erase sim.migratedContainer ++
            [IpUtils.getContainerVirtualAddress
              (UInt32.ofNat (sim.containerCount + 1))]
        else
          state.addresses leaf host := by
    split
    next isSource =>
      rw [isSource.1, isSource.2]
      intro member
      rcases List.mem_append.mp member with old | isPlaceholder
      · have counted := List.count_pos_iff.mpr old
        rw [List.count_erase_self] at counted
        omega
      · exact used (List.mem_singleton.mp isPlaceholder)
    next elsewhere => exact nowhereElse elsewhere
  split
  next isTarget =>
    exact iff_of_true (by simp) isTarget
  next notTarget => exact iff_of_false removed notTarget

namespace Moving

variable {state : RoutedState}

/-- The placeholder is no container. -/
theorem used
    (moving : sim.Moving oldLeaf oldHost state) :
    sim.migratedContainer ≠ sim.placeholder := by
  intro same
  have mapped := moving.mapped
  rw [same] at mapped
  exact mapped moving.unused

/-- The container is at the old host before the migration. -/
theorem located_oldHost
    (moving : sim.Moving oldLeaf oldHost state)
    (movesOnce :
      sim.MovesOnce oldLeaf oldHost virtualToPhysical addresses)
    (isHere :
      sim.migratedContainer ∈ state.addresses oldLeaf oldHost) :
    state.virtualToPhysical sim.migratedContainer =
      some (sim.hostAddress oldLeaf oldHost) :=
  (moving.located oldLeaf oldHost movesOnce.fromHost _ moving.mapped).mp
    isHere

/-- A migration keeps the interfaces in agreement with the mapping. -/
theorem located_migrate
    (moving : sim.Moving oldLeaf oldHost state)
    (movesOnce :
      sim.MovesOnce oldLeaf oldHost virtualToPhysical addresses)
    (isHere :
      sim.migratedContainer ∈ state.addresses oldLeaf oldHost) :
    sim.Located (sim.migrate state oldLeaf oldHost) := by
  have routable := movesOnce.deployed.sound.routable
  have atOldHost := moving.located_oldHost movesOnce isHere
  have different
      {leaf host otherLeaf otherHost : Nat}
      (present : sim.HasNode (.host leaf host))
      (otherPresent : sim.HasNode (.host otherLeaf otherHost))
      (same :
        sim.hostAddress leaf host = sim.hostAddress otherLeaf otherHost) :
      leaf = otherLeaf ∧ host = otherHost :=
    Node.host.inj
      (routable.unique
        (⟨present, same⟩ : sim.GoesBy _ (.host leaf host))
        (⟨otherPresent, rfl⟩ : sim.GoesBy _ (.host otherLeaf otherHost)))
  intro leaf host present container isMapped
  by_cases isMigrated : container = sim.migratedContainer
  · subst isMigrated
    have arrived :
        (sim.migrate state oldLeaf oldHost).virtualToPhysical
            sim.migratedContainer =
          some sim.network.updateMappingsAddress :=
      Function.update_self ..
    rw [migratedContainer_mem_migrate moving.used moving.once, arrived,
      updateMappingsAddress_eq, Option.some.injEq]
    · constructor
      · rintro ⟨rfl, rfl⟩
        rfl
      · intro same
        exact different present movesOnce.toHost same.symm
    · intro elsewhere isThere
      have atOther :=
        (moving.located leaf host present _ moving.mapped).mp isThere
      rw [atOldHost, Option.some.injEq] at atOther
      exact elsewhere (different present movesOnce.fromHost atOther.symm)
  · have sameMapping :
        (sim.migrate state oldLeaf oldHost).virtualToPhysical container =
          state.virtualToPhysical container :=
      Function.update_of_ne isMigrated ..
    rw [sameMapping] at isMapped ⊢
    have used : container ≠ sim.placeholder := by
      rintro rfl
      exact isMapped moving.unused
    rw [mem_migrate_of_ne oldLeaf oldHost isMigrated used]
    exact moving.located leaf host present container isMapped

/-- Deliveries stay where they were. -/
theorem deliveredTo_migrate
    (moving : sim.Moving oldLeaf oldHost state)
    (movesOnce :
      sim.MovesOnce oldLeaf oldHost virtualToPhysical addresses)
    (atOldHost :
      state.virtualToPhysical sim.migratedContainer =
        some (sim.hostAddress oldLeaf oldHost))
    {delivery : Delivery}
    (present : sim.HasNode (.host delivery.leaf delivery.host))
    (member : delivery ∈ state.delivered) :
    sim.DeliveredTo oldLeaf oldHost
      (sim.migrate state oldLeaf oldHost).virtualToPhysical delivery := by
  rcases moving.delivered delivery member with isThere | wasThere
  · by_cases isMigrated :
      delivery.tagged.packet.inner.destination = sim.migratedContainer
    · refine Or.inr ⟨isMigrated, ?_⟩
      rw [isMigrated, atOldHost, Option.some.injEq] at isThere
      exact
        Node.host.inj
          (movesOnce.deployed.sound.routable.unique
            (⟨present, isThere.symm⟩ :
              sim.GoesBy _ (.host delivery.leaf delivery.host))
            (⟨movesOnce.fromHost, rfl⟩ :
              sim.GoesBy _ (.host oldLeaf oldHost)))
    · exact Or.inl ((Function.update_of_ne isMigrated ..).trans isThere)
  · exact Or.inr wasThere

/-- The migration itself. -/
theorem migrate
    (moving : sim.Moving oldLeaf oldHost state)
    (movesOnce :
      sim.MovesOnce oldLeaf oldHost virtualToPhysical addresses)
    (inOrder : sim.InOrder limit state)
    (isHere :
      sim.migratedContainer ∈ state.addresses oldLeaf oldHost) :
    sim.Moving oldLeaf oldHost (sim.migrate state oldLeaf oldHost) where
  located := moving.located_migrate movesOnce isHere
  mapped := by
    have arrived :
        (sim.migrate state oldLeaf oldHost).virtualToPhysical
            sim.migratedContainer =
          some sim.network.updateMappingsAddress :=
      Function.update_self ..
    rw [arrived]
    exact Option.some_ne_none _
  once := by
    have elsewhere :
        ¬ (oldLeaf = sim.migrationParams.dstLeaf.toNat ∧
          oldHost = sim.migrationParams.dstHost.toNat) := by
      rintro ⟨sameLeaf, sameHost⟩
      refine movesOnce.moves ?_
      rw [updateMappingsAddress_eq, sameLeaf, sameHost]
    have removed :=
      migratedContainer_mem_migrate moving.used moving.once
        (fun notSource => absurd ⟨rfl, rfl⟩ notSource)
    rw [List.count_eq_zero.mpr (removed.not.mpr elsewhere)]
    exact Nat.zero_le 1
  unused :=
    (Function.update_of_ne moving.used.symm ..).trans moving.unused
  delivered := fun delivery member =>
    moving.deliveredTo_migrate movesOnce
      (moving.located_oldHost movesOnce isHere)
      (inOrder.delivered delivery member).present member

/-- Steps that move nothing. -/
theorem of_same
    (moving : sim.Moving oldLeaf oldHost state)
    {next : RoutedState}
    (virtualToPhysical :
      next.virtualToPhysical = state.virtualToPhysical)
    (addresses : next.addresses = state.addresses)
    (delivered :
      ∀ delivery ∈ next.delivered,
        delivery ∈ state.delivered ∨
          sim.DeliveredTo oldLeaf oldHost state.virtualToPhysical
            delivery) :
    sim.Moving oldLeaf oldHost next where
  located := by
    unfold Located
    rw [virtualToPhysical, addresses]
    exact moving.located
  mapped := by
    rw [virtualToPhysical]
    exact moving.mapped
  once := by
    rw [addresses]
    exact moving.once
  unused := by
    rw [virtualToPhysical]
    exact moving.unused
  delivered := by
    intro delivery member
    rw [virtualToPhysical]
    exact
      (delivered delivery member).elim (moving.delivered delivery) id

end Moving

/-! ## What the network says -/

variable
  {state : RoutedState}
  {abstract : NetworkState sim.Switches}

/-- A redirection follows the invariant of the network. -/
theorem Abstracts.redirected
    (abstracts : sim.Abstracts state abstract)
    (invariant :
      Invariant sim.network (sim.hostAddress oldLeaf oldHost) sim.IsHost
        abstract)
    {switch : sim.Switches}
    {tagged : TaggedPacket}
    (member : .data switch.toNode tagged ∈ state.transits)
    {draw : Bool} :
    let received :=
      (sim.network.switches switch).receivePacket draw
        (abstract.tables switch) tagged.packet
    received.packet.outer.destination = tagged.destination ∨
      (tagged.destination ∈ sim.gwAddresses ∧
        sim.IsServer received.packet.outer.destination) := by
  intro received
  let setting :=
    settingAt sim.network (sim.hostAddress oldLeaf oldHost) sim.IsHost
      abstract
  have isParcel :
      .inFlight (.data tagged.packet) ∈ abstract.parcels := by
    rw [abstracts.parcels]
    exact List.mem_map.mpr ⟨_, member, rfl⟩
  have travelling : setting.Travelling tagged.packet :=
    invariant.holds.parcels _ isParcel
  have handled :=
    (sim.network.switches switch).handled_receivePacket draw
      (invariant.holds.caches switch)
      (travelling.offers invariant.properAddresses switch)
  have server
      {key value : Ipv4Address}
      (known : setting.Known key value) :
      sim.IsServer value :=
    ⟨known.proper, of_decide_eq_false known.resolved⟩
  have readdressed := handled.destination
  change
    (sim.network.switches switch).Readdressed setting.Known tagged.packet
      received.packet.outer.destination at readdressed
  generalize received.packet.outer.destination = address
    at readdressed ⊢
  cases readdressed with
  | kept => exact Or.inl rfl
  | hit uninvalidated toGateway vouched =>
      rw [Network.isGateway_switches] at toGateway
      exact Or.inr ⟨of_decide_eq_true toGateway, server vouched⟩
  | followed readsTags invalidated vouched different =>
      rcases travelling with fresh | resent
      · exact absurd invalidated (by simp [fresh.peek_eq_none])
      · rcases resent.destination with right | ⟨toGateway, _⟩
        · -- the tag names the old host, so the entry is the right one
          have isTag := resent.eq_of_peek invalidated
          subst isTag
          refine Or.inl ?_
          rcases vouched.current with isRight | ⟨_, isOld, _⟩
          · have same := isRight.symm.trans right
            exact Option.some.inj same
          · exact absurd isOld different
        · exact Or.inr ⟨of_decide_eq_true toGateway, server vouched⟩

/-- A packet at a wrong host has not been at one before. -/
theorem Abstracts.misdelivered
    (abstracts : sim.Abstracts state abstract)
    (invariant :
      Invariant sim.network (sim.hostAddress oldLeaf oldHost) sim.IsHost
        abstract)
    (sound : sim.Sound)
    {leaf host : Nat}
    {tagged : TaggedPacket}
    (member : .data (.host leaf host) tagged ∈ state.transits)
    (present : sim.HasNode (.host leaf host))
    (here : tagged.destination = sim.hostAddress leaf host)
    (server : (leaf, host) ∉ sim.gws)
    (elsewhere :
      state.virtualToPhysical tagged.packet.inner.destination ≠
        some (sim.hostAddress leaf host)) :
    tagged.packet.misdeliveries < 1 ∧
      tagged.packet.inner.ttl = 64 ∧
      (tagged.packet.hitTag.peek = none →
        sim.IsServer sim.network.followMeAddress) := by
  let setting :=
    settingAt sim.network (sim.hostAddress oldLeaf oldHost) sim.IsHost
      abstract
  have isParcel :
      .inFlight (.data tagged.packet) ∈ abstract.parcels := by
    rw [abstracts.parcels]
    exact List.mem_map.mpr ⟨_, member, rfl⟩
  have travelling : setting.Travelling tagged.packet :=
    invariant.holds.parcels _ isParcel
  have notGateway :
      sim.network.isGateway tagged.packet.outer.destination ≠ true := by
    intro toGateway
    have isGateway := of_decide_eq_true toGateway
    rw [show tagged.packet.outer.destination =
      sim.hostAddress leaf host from here] at isGateway
    exact server ((sound.mem_gws_iff present).mpr isGateway)
  have notRight :
      ¬ setting.Right tagged.packet.inner.destination
        tagged.packet.outer.destination := by
    intro right
    refine elsewhere ?_
    rw [← abstracts.virtualToPhysical, ← here]
    exact right
  rcases travelling with fresh | resent
  · rcases fresh.destination with toGateway | right | ⟨migrated, _⟩
    · exact absurd toGateway notGateway
    · exact absurd right notRight
    · refine ⟨?_, fresh.ttl, fun _ => ⟨?_, ?_⟩⟩
      · rw [fresh.misdeliveries]
        exact Nat.one_pos
      · exact invariant.properAddresses _ _ migrated.arrived
      · exact of_decide_eq_false migrated.toHost
  · rcases resent.destination with right | ⟨toGateway, _⟩
    · exact absurd right notRight
    · exact absurd toGateway notGateway

/-- A state is orderly if its abstraction has the invariant. -/
theorem Abstracts.orderly
    (abstracts : sim.Abstracts state abstract)
    (invariant :
      Invariant sim.network (sim.hostAddress oldLeaf oldHost) sim.IsHost
        abstract)
    (movesOnce :
      sim.MovesOnce oldLeaf oldHost virtualToPhysical addresses)
    (inOrder : sim.InOrder 1 state)
    (moving : sim.Moving oldLeaf oldHost state) :
    sim.Orderly 1 state where
  redirected := by
    intro node tagged application draw outcome member installed received
    have onTheWay : sim.OnTheWay state.virtualToPhysical 1 node tagged :=
      inOrder.placed _ member
    have isSwitch :=
      inOrder.equipped.isSwitch movesOnce.deployed.sound installed
    obtain ⟨switch, rfl⟩ := exists_toNode onTheWay.present isSwitch
    have isApplication :=
      (abstracts.tables switch).symm.trans installed
    have isInstalled := Option.some.inj isApplication
    subst isInstalled
    have caches :
        (sim.network.switches switch).simMode ≠ .bluebird :=
      movesOnce.notBluebird
    rw [SwitchApplication.receivePacket, if_neg caches] at received
    have isOutcome := Option.some.inj received
    subst isOutcome
    exact abstracts.redirected invariant member
  misdelivered := by
    intro leaf host tagged member server elsewhere
    have onTheWay :
        sim.OnTheWay state.virtualToPhysical 1 (.host leaf host) tagged :=
      inOrder.placed _ member
    obtain ⟨address, found, _⟩ := onTheWay.routine.container
    have mapped :
        state.virtualToPhysical tagged.packet.inner.destination ≠ none := by
      rw [found]
      exact Option.some_ne_none address
    exact
      abstracts.misdelivered invariant movesOnce.deployed.sound member
        onTheWay.present onTheWay.destination_eq server fun isHere =>
          elsewhere
            ((moving.located leaf host onTheWay.present _ mapped).mpr
              isHere)

/-! ## Runs -/

/-- A state and its abstraction during the migration. -/
structure Follows
    (sim : RoutedSimulation)
    (oldLeaf oldHost : Nat)
    (state : RoutedState)
    (abstract : NetworkState sim.Switches) :
    Prop where
  abstracts : sim.Abstracts state abstract
  inOrder : sim.InOrder 1 state
  moving : sim.Moving oldLeaf oldHost state

/-- The migration is the one that the network expects. -/
theorem Moving.matchesParams
    (moving : sim.Moving oldLeaf oldHost state)
    (movesOnce :
      sim.MovesOnce oldLeaf oldHost virtualToPhysical addresses)
    (abstracts : sim.Abstracts state abstract)
    (isHere :
      sim.migratedContainer ∈ state.addresses oldLeaf oldHost) :
    MatchesParams sim.network (sim.hostAddress oldLeaf oldHost) abstract
      sim.network.migratedContainer sim.network.updateMappingsAddress where
  isMigrated := rfl
  updated := rfl
  followed := movesOnce.followed.symm
  located := by
    rw [abstracts.virtualToPhysical]
    exact moving.located_oldHost movesOnce isHere
  moves := movesOnce.moves
  fromHost :=
    decide_eq_false fun isGateway =>
      movesOnce.fromServer
        ((movesOnce.deployed.sound.mem_gws_iff movesOnce.fromHost).mpr
          isGateway)
  toHost := decide_eq_false movesOnce.isServer.noGateway

/-- What is delivered is delivered to the host of its container. -/
theorem Moving.deliveredTo
    (moving : sim.Moving oldLeaf oldHost state)
    (inOrder : sim.InOrder limit state)
    {action : RoutedAction}
    {next : RoutedState}
    (spec : StepSpec sim limit state action next) :
    ∀ delivery ∈ next.delivered,
      delivery ∈ state.delivered ∨
        sim.DeliveredTo oldLeaf oldHost state.virtualToPhysical
          delivery := by
  intro delivery member
  refine (spec.delivered delivery member).imp_right fun isNew => ?_
  obtain ⟨inTransit, isHere⟩ := isNew
  have onTheWay : sim.OnTheWay state.virtualToPhysical limit _ _ :=
    inOrder.placed _ inTransit
  obtain ⟨address, found, _⟩ := onTheWay.routine.container
  have mapped :
      state.virtualToPhysical delivery.tagged.packet.inner.destination ≠
        none := by
    rw [found]
    exact Option.some_ne_none address
  exact
    Or.inl ((moving.located _ _ onTheWay.present _ mapped).mp isHere)

/-- Every step is a step of the network without routes. -/
theorem Follows.matched
    (follows : Follows sim oldLeaf oldHost state abstract)
    (movesOnce :
      sim.MovesOnce oldLeaf oldHost virtualToPhysical addresses)
    (orderly : sim.Orderly 1 state)
    {action : RoutedAction}
    {next : RoutedState}
    (migrating : sim.MigratingWorkload oldLeaf oldHost state action)
    (stepped : sim.system.step state action = some next)
    (spec : StepSpec sim 1 state action next) :
    ∃ abstractNext,
      sim.network.system.Reachable
          (MigratesOnce sim.network (sim.hostAddress oldLeaf oldHost))
          abstract abstractNext ∧
        Follows sim oldLeaf oldHost next abstractNext := by
  obtain ⟨abstracts, inOrder, moving⟩ := follows
  have sound := movesOnce.deployed.sound
  have delivered := moving.deliveredTo inOrder spec
  have single
      {abstractAction : Action sim.Switches}
      {abstractNext : NetworkState sim.Switches}
      (noMigration :
        ∀ container host, abstractAction ≠ .migrate container host)
      (taken :
        sim.network.system.step abstract abstractAction =
          some abstractNext) :
      sim.network.system.Reachable
        (MigratesOnce sim.network (sim.hostAddress oldLeaf oldHost))
        abstract abstractNext :=
    .single
      (fun container host isMigration =>
        absurd isMigration (noMigration container host))
      taken
  cases sim.steps_of_step stepped with
  | send present server isHere sends =>
      have undropped := (List.append_eq_nil_iff.mp spec.inOrder.undropped).2
      obtain ⟨abstractNext, taken, after⟩ :=
        abstracts.send sound moving.located present server isHere
          migrating.1 sends undropped
      exact
        ⟨abstractNext, single (by simp) taken, after, spec.inOrder,
          moving.of_same rfl rfl delivered⟩
  | handle found handles =>
      obtain ⟨same, _⟩ := sameTraffic_of_handle handles
      obtain ⟨abstractAction, abstractNext, noMigration, taken, after⟩ :=
        abstracts.handle sound movesOnce.notBluebird moving.located
          inOrder orderly found handles
      exact
        ⟨abstractNext, single noMigration taken, after, spec.inOrder,
          moving.of_same same.virtualToPhysical same.addresses delivered⟩
  | lose found =>
      obtain ⟨abstractNext, taken, after⟩ := abstracts.lose found
      exact
        ⟨abstractNext, single (by simp) taken, after, spec.inOrder,
          moving.of_same rfl rfl delivered⟩
  | @migration srcLeaf srcHost isHere =>
      obtain ⟨rfl, rfl⟩ := migrating
      obtain ⟨abstractNext, taken, after⟩ :=
        abstracts.migrate srcLeaf srcHost
      refine
        ⟨abstractNext, .single ?_ taken, after, spec.inOrder,
          moving.migrate movesOnce inOrder isHere⟩
      intro container host isMigration
      obtain ⟨rfl, rfl⟩ := Action.migrate.inj isMigration
      exact moving.matchesParams movesOnce abstracts isHere
  | querySwitches controller =>
      have mode :
          sim.simParameters.simMode = .switchV2P ∨
            sim.simParameters.simMode = .localLearning :=
        movesOnce.caching.mode
      simp [controller] at mode

/-- The abstraction of a reachable state keeps the state orderly. -/
theorem Follows.orderly
    (follows : Follows sim oldLeaf oldHost state abstract)
    (movesOnce :
      sim.MovesOnce oldLeaf oldHost virtualToPhysical addresses)
    (reachable :
      sim.network.system.Reachable
        (MigratesOnce sim.network (sim.hostAddress oldLeaf oldHost))
        (sim.networkStart virtualToPhysical) abstract) :
    sim.Orderly 1 state :=
  follows.abstracts.orderly
    (invariant_of_reachable sim.IsHost movesOnce.caching
      movesOnce.isServer.isHost
      (started_networkStart virtualToPhysical) movesOnce.onHosts reachable)
    movesOnce follows.inOrder follows.moving

/-- The workload is one that the packets are ready for. -/
theorem MovesOnce.permitted
    (movesOnce :
      sim.MovesOnce oldLeaf oldHost virtualToPhysical addresses)
    {action : RoutedAction}
    (migrating : sim.MigratingWorkload oldLeaf oldHost state action) :
    sim.Permitted state action := by
  cases action with
  | send => exact migrating.2
  | migration => exact movesOnce.isServer
  | _ => trivial

end SwitchV2P.RoutedSimulation
