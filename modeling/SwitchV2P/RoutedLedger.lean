import SwitchV2P.RoutedNetwork

namespace SwitchV2P

/-!
# Where every packet is

Whatever the switches have cached and wherever a packet is sent, no node loses
or duplicates it: each packet of a container is in transit, delivered, dropped
by a node or dropped by a queue, and in one of these places only.
-/

/-- The packets of containers in a transit. -/
def Transit.uids : Transit → List Nat
  | .data _ tagged => [tagged.uid]
  | .protocol _ _ => []
  | .scheduled _ _ tagged _ => [tagged.uid]
  | .atGateway _ _ tagged => [tagged.uid]

namespace Handling

/-- The packets of containers in a handling. -/
def uids (handling : Handling) : List Nat :=
  handling.transits.flatMap Transit.uids ++
    handling.delivered.map (fun delivery => delivery.tagged.uid) ++
      handling.dropped.map TaggedPacket.uid

@[simp] theorem uids_send (transits : List Transit) :
    (send transits).uids = transits.flatMap Transit.uids := by
  simp [uids, send]

@[simp] theorem uids_deliver (delivery : Delivery) :
    (deliver delivery).uids = [delivery.tagged.uid] := by
  simp [uids, deliver]

@[simp] theorem uids_drop (tagged : TaggedPacket) :
    (drop tagged).uids = [tagged.uid] := by
  simp [uids, drop]

/-- Protocol packets come on top. -/
theorem uids_append
    (handling : Handling)
    {transits : List Transit}
    (protocol : transits.flatMap Transit.uids = []) :
    { handling with transits := handling.transits ++ transits }.uids =
      handling.uids := by
  simp [uids, protocol]

end Handling

namespace RoutedState

/-- Every packet of a container, wherever it is. -/
def uids (state : RoutedState) : List Nat :=
  state.transits.flatMap Transit.uids ++
    (state.delivered.map (fun delivery => delivery.tagged.uid) ++
      (state.dropped.map TaggedPacket.uid ++
        state.lost.flatMap Transit.uids))

/-- Only tables of switches and hosts may differ. -/
structure SameTraffic (state after : RoutedState) : Prop where
  virtualToPhysical : after.virtualToPhysical = state.virtualToPhysical
  addresses : after.addresses = state.addresses
  transits : after.transits = state.transits
  sent : after.sent = state.sent
  delivered : after.delivered = state.delivered
  dropped : after.dropped = state.dropped
  lost : after.lost = state.lost

theorem SameTraffic.uids
    {state after : RoutedState}
    (same : SameTraffic state after) :
    after.uids = state.uids := by
  rw [RoutedState.uids, same.transits, same.delivered, same.dropped,
    same.lost]
  rfl

/-- What was sent is all there is. -/
def Balanced (state : RoutedState) : Prop :=
  state.uids.Perm (List.range state.sent)

/-- One transit, and all others. -/
theorem perm_eraseIdx
    {state : RoutedState}
    {position : Nat}
    {transit : Transit}
    (found : state.transits[position]? = some transit) :
    (state.transits.flatMap Transit.uids).Perm
      ((state.transits.eraseIdx position).flatMap Transit.uids ++
        transit.uids) := by
  obtain ⟨inside, isTransit⟩ := List.getElem?_eq_some_iff.mp found
  have perm :=
    (List.getElem_cons_eraseIdx_perm inside).flatMap_right Transit.uids
  rw [isTransit, List.flatMap_cons] at perm
  exact perm.symm.trans List.perm_append_comm

/-- A handling that keeps the packets of its transit. -/
theorem Balanced.replace
    {state : RoutedState}
    (balanced : state.Balanced)
    {position : Nat}
    {transit : Transit}
    (found : state.transits[position]? = some transit)
    {handling : Handling}
    (kept : handling.uids = transit.uids) :
    (state.replace position handling).Balanced := by
  refine List.Perm.trans ?_ balanced
  have taken := perm_eraseIdx found
  rw [← kept] at taken
  rw [List.perm_iff_count] at taken ⊢
  intro uid
  have here := taken uid
  simp only [RoutedState.replace, RoutedState.uids, Handling.uids,
    List.flatMap_append, List.map_append, List.count_append] at here ⊢
  omega

/-- The first state has no packets. -/
theorem balanced_of_empty
    {state : RoutedState}
    (noTransits : state.transits = [])
    (noneSent : state.sent = 0)
    (noneDelivered : state.delivered = [])
    (noneDropped : state.dropped = [])
    (noneLost : state.lost = []) :
    state.Balanced := by
  simp [Balanced, uids, noTransits, noneSent, noneDelivered, noneDropped,
    noneLost]

/-- A queue takes a packet. -/
theorem Balanced.lose
    {state : RoutedState}
    (balanced : state.Balanced)
    {position : Nat}
    {transit : Transit}
    (found : state.transits[position]? = some transit) :
    Balanced
      { state with
        transits := state.transits.eraseIdx position
        lost := state.lost ++ [transit] } := by
  refine List.Perm.trans ?_ balanced
  have taken := perm_eraseIdx found
  rw [List.perm_iff_count] at taken ⊢
  intro uid
  have here := taken uid
  simp only [RoutedState.uids, List.flatMap_append, List.flatMap_singleton,
    List.count_append] at here ⊢
  omega

/-- A container sends the next packet. -/
theorem Balanced.send
    {state after : RoutedState}
    (balanced : state.Balanced)
    {handling : Handling}
    (isNew : handling.uids = [state.sent])
    (undelivered : handling.delivered = [])
    (transits : after.transits = state.transits ++ handling.transits)
    (delivered : after.delivered = state.delivered)
    (dropped : after.dropped = state.dropped ++ handling.dropped)
    (lost : after.lost = state.lost)
    (sent : after.sent = state.sent + 1) :
    after.Balanced := by
  unfold Balanced
  rw [sent, List.range_succ]
  refine List.Perm.trans ?_ (balanced.append_right [state.sent])
  rw [← isNew, List.perm_iff_count]
  intro uid
  simp only [RoutedState.uids, Handling.uids, transits, delivered, dropped,
    lost, undelivered, List.flatMap_append, List.map_append,
    List.count_append, List.map_nil, List.count_nil]
  omega

end RoutedState

namespace RoutedSimulation

variable {sim : RoutedSimulation}

/-! ## One packet at one node -/

@[simp] theorem uids_output
    (node : Node)
    (tagged : TaggedPacket)
    (pick : Nat) :
    (sim.output node tagged pick).uids = [tagged.uid] := by
  unfold output
  split
  · simp [Transit.uids]
  · simp

@[simp] theorem uids_ipForward
    (node : Node)
    (tagged : TaggedPacket)
    (pick : Nat) :
    (sim.ipForward node tagged pick).uids = [tagged.uid] := by
  unfold ipForward
  split
  · simp
  · simp [TaggedPacket.decrementTtl]

/-- Protocol packets are none of the containers'. -/
theorem uids_outputProtocol
    (node : Node)
    (packets : List ProtocolPacket)
    (pick : Nat) :
    (packets.flatMap fun packet =>
        sim.outputProtocol node packet pick).flatMap Transit.uids = [] := by
  simp only [List.flatMap_eq_nil_iff]
  intro transit member
  obtain ⟨packet, _, isSent⟩ := List.mem_flatMap.mp member
  simp only [outputProtocol, Option.mem_toList,
    Option.map_eq_some_iff] at isSent
  obtain ⟨next, _, rfl⟩ := isSent
  rfl

theorem uids_perform
    {virtualToPhysical : Ipv4Address → Option Ipv4Address}
    {leaf host : Nat}
    {tagged : TaggedPacket}
    {call : SendCall}
    {pick : Nat}
    {handling : Handling}
    (performed :
      sim.perform virtualToPhysical leaf host tagged call pick =
        some handling) :
    handling.uids = [tagged.uid] := by
  simp only [perform, Option.map_eq_some_iff] at performed
  obtain ⟨sent, _, rfl⟩ := performed
  exact uids_output _ _ _

theorem uids_virtualSend
    {virtualToPhysical : Ipv4Address → Option Ipv4Address}
    {leaf host : Nat}
    {hostState : HostState}
    {tagged : TaggedPacket}
    {pick : Nat}
    {sent : HostState × Handling}
    (sends :
      sim.virtualSend virtualToPhysical leaf host hostState tagged pick =
        some sent) :
    sent.2.uids = [tagged.uid] := by
  unfold virtualSend at sends
  dsimp only at sends
  split at sends
  · simp only [Option.map_eq_some_iff] at sends
    obtain ⟨handling, performed, rfl⟩ := sends
    have kept := uids_perform performed
    exact kept
  · rw [← Option.some.inj sends]
    simp [Transit.uids]

theorem uids_receiveAtSwitch
    {application : SwitchApplication}
    {node : Node}
    {tagged : TaggedPacket}
    {draw : Bool}
    {pick learnPick : Nat}
    {received : SwitchApplication × Handling}
    (receives :
      sim.receiveAtSwitch application node tagged draw pick learnPick =
        some received) :
    received.2.uids = [tagged.uid] := by
  simp only [receiveAtSwitch, Option.map_eq_some_iff] at receives
  obtain ⟨outcome, _, rfl⟩ := receives
  dsimp only
  rw [Handling.uids_append _ (uids_outputProtocol ..)]
  split
  · simp [TaggedPacket.incHops]
  · simp [TaggedPacket.incHops]

theorem uids_receiveAtHost
    {state : RoutedState}
    {leaf host : Nat}
    {tagged : TaggedPacket}
    {pick : Nat}
    {received : HostState × Handling}
    (receives :
      sim.receiveAtHost state leaf host tagged pick = some received) :
    received.2.uids = [tagged.uid] := by
  unfold receiveAtHost at receives
  dsimp only at receives
  split at receives
  next =>
    simp only [Option.map_eq_some_iff] at receives
    obtain ⟨resolved, _, rfl⟩ := receives
    simp [Transit.uids]
  next =>
    split at receives
    next =>
      split at receives
      next =>
        rw [← Option.some.inj receives]
        simp
      next =>
        split at receives
        next =>
          rw [← Option.some.inj receives]
          simp
        next =>
          have kept := uids_virtualSend receives
          exact kept
    next =>
      rw [← Option.some.inj receives]
      simp

/-- Handling a packet changes one application or one host. -/
theorem sameTraffic_of_handle
    {state : RoutedState}
    {draw : Bool}
    {pick learnPick : Nat}
    {transit : Transit}
    {handled : RoutedState × Handling}
    (handles :
      sim.handle state draw pick learnPick transit = some handled) :
    RoutedState.SameTraffic state handled.1 ∧
      handled.2.uids = transit.uids := by
  cases transit with
  | data node tagged =>
      cases isSwitch : node.isSwitch with
      | false =>
          obtain ⟨leaf, host, rfl⟩ := Node.exists_host isSwitch
          simp only [handle, Option.map_eq_some_iff] at handles
          obtain ⟨received, receives, rfl⟩ := handles
          exact
            ⟨⟨rfl, rfl, rfl, rfl, rfl, rfl, rfl⟩, uids_receiveAtHost receives⟩
      | true =>
          rw [sim.handle_switch isSwitch] at handles
          obtain ⟨application, _, delivered⟩ :=
            Option.bind_eq_some_iff.mp handles
          simp only [Option.map_eq_some_iff] at delivered
          obtain ⟨received, receives, rfl⟩ := delivered
          exact
            ⟨⟨rfl, rfl, rfl, rfl, rfl, rfl, rfl⟩, uids_receiveAtSwitch receives⟩
  | protocol node packet =>
      simp only [handle] at handles
      split at handles
      next application installed =>
        simp only [Option.map_eq_some_iff] at handles
        obtain ⟨received, _, rfl⟩ := handles
        refine ⟨⟨rfl, rfl, rfl, rfl, rfl, rfl, rfl⟩, ?_⟩
        rw [Handling.uids_send, uids_outputProtocol]
        rfl
      next missing =>
        rw [← Option.some.inj handles]
        exact ⟨⟨rfl, rfl, rfl, rfl, rfl, rfl, rfl⟩, rfl⟩
  | scheduled leaf host tagged call =>
      simp only [handle, Option.map_eq_some_iff] at handles
      obtain ⟨handling, performed, rfl⟩ := handles
      exact ⟨⟨rfl, rfl, rfl, rfl, rfl, rfl, rfl⟩, uids_perform performed⟩
  | atGateway leaf host tagged =>
      simp only [handle, Option.some.injEq] at handles
      subst handles
      exact ⟨⟨rfl, rfl, rfl, rfl, rfl, rfl, rfl⟩, uids_output _ _ _⟩

/-- Sending delivers nothing yet. -/
theorem delivered_virtualSend
    {virtualToPhysical : Ipv4Address → Option Ipv4Address}
    {leaf host : Nat}
    {hostState : HostState}
    {tagged : TaggedPacket}
    {pick : Nat}
    {sent : HostState × Handling}
    (sends :
      sim.virtualSend virtualToPhysical leaf host hostState tagged pick =
        some sent) :
    sent.2.delivered = [] := by
  unfold virtualSend at sends
  dsimp only at sends
  split at sends
  · simp only [perform, Option.map_eq_some_iff] at sends
    obtain ⟨_, ⟨_, _, rfl⟩, rfl⟩ := sends
    unfold output
    dsimp only
    split <;> rfl
  · rw [← Option.some.inj sends]
    rfl

/-! ## Runs -/

/-- No step loses or duplicates a packet. -/
theorem balanced_of_step
    {state next : RoutedState}
    {action : RoutedAction}
    (balanced : state.Balanced)
    (stepped : sim.system.step state action = some next) :
    next.Balanced := by
  cases sim.steps_of_step stepped with
  | send _ _ _ sends =>
      exact
        balanced.send (uids_virtualSend sends)
          (delivered_virtualSend sends) rfl rfl rfl rfl rfl
  | handle found handles =>
      obtain ⟨same, kept⟩ := sameTraffic_of_handle handles
      refine RoutedState.Balanced.replace ?_ ?_ kept
      · unfold RoutedState.Balanced
        rw [same.uids, same.sent]
        exact balanced
      · rw [same.transits]
        exact found
  | lose found => exact balanced.lose found
  | migration => exact balanced
  | querySwitches => exact balanced

theorem balanced_of_reachable
    (virtualToPhysical : Ipv4Address → Option Ipv4Address)
    (addresses : Nat → Nat → List Ipv4Address)
    {allowed : RoutedState → RoutedAction → Prop}
    {state : RoutedState}
    (reachable :
      sim.system.Reachable allowed
        (sim.start virtualToPhysical addresses) state) :
    state.Balanced := by
  refine reachable.invariant RoutedState.Balanced ?_ ?_
  · exact RoutedState.balanced_of_empty rfl rfl rfl rfl rfl
  · intro current action next balanced _ stepped
    exact balanced_of_step balanced stepped

/--
In every run, whatever migrates and whatever the caches hold, each packet that
a container has sent is in one place: on its way, delivered, dropped or lost.
-/
theorem count_uids_of_reachable
    (virtualToPhysical : Ipv4Address → Option Ipv4Address)
    (addresses : Nat → Nat → List Ipv4Address)
    {allowed : RoutedState → RoutedAction → Prop}
    {state : RoutedState}
    (reachable :
      sim.system.Reachable allowed
        (sim.start virtualToPhysical addresses) state)
    (uid : Nat) :
    (state.transits.flatMap Transit.uids).count uid +
        (state.delivered.map fun delivery =>
          delivery.tagged.uid).count uid +
        (state.dropped.map TaggedPacket.uid).count uid +
        (state.lost.flatMap Transit.uids).count uid =
      if uid < state.sent then 1 else 0 := by
  have balanced :=
    balanced_of_reachable virtualToPhysical addresses reachable
  have once := balanced.count_eq uid
  rw [RoutedState.uids, List.count_append, List.count_append,
    List.count_append, List.nodup_range.count] at once
  simp only [List.mem_range] at once
  omega

/-- One packet is delivered, a second one is lost and a third is in transit. -/
theorem count_uids_of_reachable_pods :
    ∃ state,
      (pods .switchV2P).system.Reachable (fun _ _ => True)
          (pods.start .switchV2P) state ∧
        state.delivered.length = 1 ∧
        state.lost.length = 1 ∧
        state.transits.length = 1 ∧
        ∀ uid,
          (state.transits.flatMap Transit.uids).count uid +
              (state.delivered.map fun delivery =>
                delivery.tagged.uid).count uid +
              (state.dropped.map TaggedPacket.uid).count uid +
              (state.lost.flatMap Transit.uids).count uid =
            if uid < state.sent then 1 else 0 := by
  let actions :=
    pods.resolve ++ [.send 1 0 1 3 7 0, .lose 0, .send 1 0 1 3 7 0]
  have counts :
      (((pods .switchV2P).system.run? (pods.start .switchV2P) actions).map
          fun state =>
            (state.delivered.length, state.lost.length,
              state.transits.length)) =
        some (1, 1, 1) := by
    decide +kernel
  obtain ⟨state, ran, same⟩ := Option.map_eq_some_iff.mp counts
  obtain ⟨delivered, others⟩ := Prod.mk.inj same
  obtain ⟨lost, inTransit⟩ := Prod.mk.inj others
  have reachable := TransitionSystem.reachable_of_unrestricted_run? ran
  exact
    ⟨state, reachable, delivered, lost, inTransit,
      count_uids_of_reachable _ _ reachable⟩

end RoutedSimulation

end SwitchV2P
