import SwitchV2P.SingleMigration

namespace SwitchV2P.TagDiscipline

/-!
# Tags are never stacked

`AddPacketTag` may only be called on a packet without a tag of that type.  With
one migration every call meets this, because eviction tags are taken off before
new ones are put on, a packet gets its hit tag when it leaves the path to a
gateway, and only the old host invalidates, once.
-/

/-- A data packet on which no tag was ever put on top of another. -/
structure Single (packet : DataPacket) : Prop where
  evictionTag : packet.evictionTag.AtMostOne
  invalidationTag : packet.invalidationTag.AtMostOne
  hitTag : packet.hitTag.AtMostOne

/-- What the tags of one data packet may be. -/
structure WellTagged (packet : DataPacket) : Prop where
  single : Single packet
  invalidationKey :
    ∀ mapping ∈ packet.invalidationTag.tags,
      mapping.1 = packet.inner.destination
  notObsolete : (0, 0) ∉ packet.evictionTag.tags

variable {Switch : Type}

/--
The tag discipline in one state: of the packets there, of what any switch would
make of those in flight, and of the packets switches send each other.
-/
structure Disciplined
    (network : Network Switch)
    (state : NetworkState Switch) : Prop where
  carried : ∀ packet, state.Carries packet → WellTagged packet
  received :
    ∀ switch draw packet, .inFlight (.data packet) ∈ state.parcels →
      WellTagged
        ((network.switches switch).receivePacket draw
          (state.tables switch) packet).packet
  generated :
    ∀ switch draw packet, .inFlight (.data packet) ∈ state.parcels →
      ∀ generated ∈
          ((network.switches switch).receivePacket draw
            (state.tables switch) packet).generated,
        generated.Single
  protocol :
    ∀ packet, .inFlight (.protocol packet) ∈ state.parcels →
      packet.Single
  learning : ∀ mapping, state.Teaches mapping → mapping ≠ (0, 0)

open SingleMigration

section Setting

variable
  {setting : Setting Switch}
  {packet : DataPacket}

/-- No known mapping is the pair of zeros. -/
theorem ne_zero_of_known
    (nonzero : ∀ value, setting.proper value → value ≠ 0)
    {mapping : Mapping}
    (known : setting.Known mapping.1 mapping.2) :
    mapping ≠ (0, 0) := by
  rintro rfl
  exact nonzero 0 known.proper rfl

/-- The invalidation tag of a marked packet names its destination. -/
theorem invalidationTag_of_marked
    (marked : setting.Marked packet) :
    packet.invalidationTag.AtMostOne ∧
      ∀ mapping ∈ packet.invalidationTag.tags,
        mapping.1 = packet.inner.destination := by
  rcases marked.invalidated with untagged | added
  · rw [untagged]
    exact ⟨.empty, by simp⟩
  · rw [added]
    refine ⟨TagStack.AtMostOne.empty.add rfl _, ?_⟩
    intro mapping member
    simp only [TagStack.tags_add, TagStack.tags_empty,
      List.mem_singleton] at member
    rw [member]

theorem wellTagged_of_tagged
    (nonzero : ∀ value, setting.proper value → value ≠ 0)
    (tagged : setting.Tagged packet)
    (invalidationTag :
      packet.invalidationTag.AtMostOne ∧
        ∀ mapping ∈ packet.invalidationTag.tags,
          mapping.1 = packet.inner.destination) :
    WellTagged packet := by
  refine
    ⟨⟨tagged.evictionTag, invalidationTag.1, tagged.hitTag⟩,
      invalidationTag.2, ?_⟩
  intro member
  exact ne_zero_of_known nonzero (tagged.evicted _ member) rfl

theorem wellTagged_of_marked
    (nonzero : ∀ value, setting.proper value → value ≠ 0)
    (marked : setting.Marked packet) :
    WellTagged packet :=
  wellTagged_of_tagged nonzero marked.toTagged
    (invalidationTag_of_marked marked)

theorem wellTagged_of_travelling
    (nonzero : ∀ value, setting.proper value → value ≠ 0)
    (travelling : setting.Travelling packet) :
    WellTagged packet := by
  rcases travelling with fresh | resent
  · refine wellTagged_of_tagged nonzero fresh.toTagged ?_
    rw [fresh.uninvalidated]
    exact ⟨.empty, by simp⟩
  · exact wellTagged_of_marked nonzero resent.toMarked

theorem wellTagged_of_scheduled
    (nonzero : ∀ value, setting.proper value → value ≠ 0)
    {host : Ipv4Address}
    {call : SendCall}
    (scheduled : setting.Scheduled host packet call) :
    WellTagged packet := by
  obtain ⟨⟨evictionTag, invalidationTag, hitTag⟩, key, notObsolete⟩ :=
    wellTagged_of_marked nonzero scheduled.marked
  exact ⟨⟨evictionTag, invalidationTag, hitTag⟩, key, notObsolete⟩

end Setting

theorem updateMappingsAddress_ne_zero (network : Network Switch) :
    network.updateMappingsAddress ≠ 0 :=
  IpUtils.getNodePhysicalAddress_ne_zero _ _ _

variable
  [DecidableEq Switch]
  {network : Network Switch}
  {oldHost : Ipv4Address}

/-- With at most one migration, no call to `AddPacketTag` stacks a tag. -/
theorem disciplined_of_reachable
    (mode : network.simParams.simMode = .switchV2P)
    {initial state : NetworkState Switch}
    (started : Network.Started initial)
    (nonzero :
      ∀ key value, initial.virtualToPhysical key = some value →
        value ≠ 0)
    (reachable :
      network.system.Reachable (MigratesOnce network oldHost) initial
        state) :
    Disciplined network state := by
  have invariant :=
    invariant_of_reachable (fun value => value ≠ 0) ⟨Or.inl mode⟩
      (updateMappingsAddress_ne_zero network) started nonzero reachable
  have closed :=
    Setting.closed
      (settingAt network oldHost (fun value => value ≠ 0) state)
      invariant.properAddresses
  refine
    { carried := fun packet carries => ?_
      received := fun switch draw packet member => ?_
      generated := fun switch draw packet member generated made =>
        SwitchConfig.single_of_mem_generated made
      protocol := fun packet member =>
        (invariant.holds.parcels _ member).1
      learning := fun mapping teaches =>
        ne_zero_of_known (fun _ => id) (invariant.holds.taught teaches) }
  · exact
      invariant.holds.carried WellTagged
        (fun _ travelling =>
          wellTagged_of_travelling (fun _ => id) travelling)
        (fun _ _ _ scheduled =>
          wellTagged_of_scheduled (fun _ => id) scheduled)
        (fun _ waiting =>
          wellTagged_of_travelling (fun _ => id) waiting.1)
        carries
  · have travelling :
        (settingAt network oldHost (fun value => value ≠ 0)
          state).Travelling packet :=
      invariant.holds.parcels _ member
    have handled :=
      SwitchConfig.handled_receivePacket draw
        (invariant.holds.caches switch)
        (travelling.offers invariant.properAddresses switch)
    exact
      wellTagged_of_travelling (fun _ => id)
        (closed.handled travelling handled)

open TraceSimulation in
/-- The tags of the packet that the old host re-sends, and of all others. -/
theorem disciplined_of_reachable_onePod :
    ∃ state,
      (onePod.network .switchV2P).system.Reachable
          (MigratesOnce (onePod.network .switchV2P) onePod.oldHost)
          (onePod.start .switchV2P) state ∧
        (state.parcels.any fun parcel =>
          parcel.dataPacket?.any fun packet =>
            packet.invalidationTag.tags = [(2, onePod.oldHost)]) = true ∧
        Disciplined (onePod.network .switchV2P) state := by
  have invalidated :
      ((onePod.network .switchV2P).system.run?
          (onePod.start .switchV2P)
          ((onePod.resend .switchV2P).take 17)).map
            (fun state =>
              state.parcels.any fun parcel =>
                parcel.dataPacket?.any fun packet =>
                  packet.invalidationTag.tags =
                    [(2, onePod.oldHost)]) = some true := by
    decide +kernel
  obtain ⟨state, ran, tagged⟩ := Option.map_eq_some_iff.mp invalidated
  have reachable :=
    TransitionSystem.reachable_of_run?
      (migratesOnce_sound (onePod.network .switchV2P) onePod.oldHost)
      (by decide +kernel) ran
  refine
    ⟨state, reachable, tagged,
      disciplined_of_reachable rfl (Network.started_start _ _ _ _ _ _ _) ?_
        reachable⟩
  intro key value located
  change onePod.virtualToPhysical key = some value at located
  unfold onePod.virtualToPhysical at located
  split at located
  · rw [← Option.some.inj located]
    exact IpUtils.getNodePhysicalAddress_ne_zero _ _ _
  · simp at located

end SwitchV2P.TagDiscipline
