import SwitchV2P.Bluebird

namespace SwitchV2P.Bluebird

/-!
# The slow path keeps its packets in order

The busy flag and the queue follow the events that are still to come: the link
is taken exactly as long as a completion is pending, there is never a second
one, and packets wait only while the link is taken.  A packet that is put on
the link reaches the control plane after all that went before it, because it
follows them by 250 ns at least and the latency is the same for all.

The packets that were forwarded, those on their way to the control plane and
those in the queue are therefore, in this order, the packets that were
accepted.
-/

namespace Event

/-- The end of a transmission. -/
def completion? : Event → Option Unit
  | .bluebirdTxComplete => some ()
  | _ => none

/-- The packet that the control plane gets. -/
def processed? : Event → Option SizedPacket
  | .bluebirdProcessPacket packet => some packet
  | _ => none

/-- The virtual address that a call looks up. -/
def looksUp? : Event → Option Ipv4Address
  | .bluebirdProcessPacket packet => some packet.packet.inner.destination
  | .bluebirdTxComplete => none
  | .populateBluebirdCache virtualIp => some virtualIp

/-- Every address that the call looks up is the destination of a packet. -/
def BackedBy (packets : List SizedPacket) (event : Event) : Prop :=
  ∀ virtualIp ∈ event.looksUp?,
    ∃ packet ∈ packets, packet.packet.inner.destination = virtualIp

theorem BackedBy.subset
    {packets more : List SizedPacket}
    {event : Event}
    (backed : event.BackedBy packets)
    (kept : packets ⊆ more) :
    event.BackedBy more := by
  intro virtualIp looked
  obtain ⟨packet, member, same⟩ := backed virtualIp looked
  exact ⟨packet, kept member, same⟩

/-- The calls that an event stands for, apart from those for queued packets. -/
def work : Event → Nat
  | .bluebirdProcessPacket _ => 2
  | .bluebirdTxComplete => 1
  | .populateBluebirdCache _ => 1

end Event

/-- The pending completions. -/
def completions (agenda : Agenda Event) : List (Nat × Unit) :=
  agenda.line Event.completion?

/-- The packets on their way to the control plane. -/
def inControlPlane (agenda : Agenda Event) : List (Nat × SizedPacket) :=
  agenda.line Event.processed?

/-- The packets without a mapping that `Enqueue` took. -/
def accepted (simulation : Simulation) : List SizedPacket :=
  (simulation.misses.filter Prod.snd).map Prod.fst

/-- The number of calls that are made when no packet arrives any more. -/
def workLeft (simulation : Simulation) : Nat :=
  3 * simulation.path.bluebirdQueue.packets.length +
    simulation.agenda.weigh Event.work

variable (attributes : Attributes)

/-! ## The control plane -/

/--
The packets reach the control plane one after the other, all of them before
the horizon.
-/
structure Timely (agenda : Agenda Event) (horizon : Nat) : Prop where
  increasing :
    (inControlPlane agenda).Pairwise fun first second =>
      first.1 < second.1
  before : ∀ entry ∈ inControlPlane agenda, entry.1 < horizon

theorem Timely.sublist
    {agenda next : Agenda Event}
    {horizon later : Nat}
    (timely : Timely agenda horizon)
    (fewer : (inControlPlane next).Sublist (inControlPlane agenda))
    (moved : horizon ≤ later) :
    Timely next later where
  increasing := timely.increasing.sublist fewer
  before := fun entry member =>
    Nat.lt_of_lt_of_le (timely.before entry (fewer.subset member)) moved

section TxStart

variable
  (agenda : Agenda Event)
  (path : SlowPath)
  (packet : SizedPacket)

theorem bluebirdQueue_txStart :
    (bluebirdTxStart attributes path packet).1.bluebirdQueue =
      path.bluebirdQueue :=
  rfl

theorem completions_txStart :
    completions
        (agenda.schedule (bluebirdTxStart attributes path packet).2) =
      completions agenda ++
        [(agenda.now +
            (attributes.calculateBytesTxTime packet.size + 250), ())] :=
  Agenda.line_schedule agenda _

theorem inControlPlane_txStart :
    inControlPlane
        (agenda.schedule (bluebirdTxStart attributes path packet).2) =
      inControlPlane agenda ++
        [(agenda.now +
            (attributes.calculateBytesTxTime packet.size +
              attributes.bluebirdDelay), packet)] :=
  Agenda.line_schedule agenda _

variable {agenda}

/-- A packet that is put on the link reaches the control plane last. -/
theorem Timely.txStart
    (timely : Timely agenda (agenda.now + attributes.bluebirdDelay)) :
    Timely
      (agenda.schedule (bluebirdTxStart attributes path packet).2)
      (agenda.now +
          (attributes.calculateBytesTxTime packet.size + 250) +
        attributes.bluebirdDelay) where
  increasing := by
    rw [inControlPlane_txStart, List.pairwise_append]
    refine
      ⟨timely.increasing, List.pairwise_singleton _ _,
        fun entry member last isLast => ?_⟩
    have before := timely.before entry member
    rw [List.mem_singleton.mp isLast]
    change entry.1 < agenda.now + (_ + attributes.bluebirdDelay)
    omega
  before := by
    intro entry member
    rw [inControlPlane_txStart] at member
    rcases List.mem_append.mp member with old | new
    · have before := timely.before entry old
      omega
    · rw [List.mem_singleton.mp new]
      change agenda.now + (_ + attributes.bluebirdDelay) < _
      omega

end TxStart

/-! ## The link -/

/-- The busy flag and the queue agree with the events to come. -/
inductive Link (path : SlowPath) (agenda : Agenda Event) : Prop where
  | free
      (idle : path.bluebirdBusy = false)
      (nothing : completions agenda = [])
      (empty : path.bluebirdQueue.packets = [])
      (timely : Timely agenda (agenda.now + attributes.bluebirdDelay))
  | taken
      (time : Nat)
      (busy : path.bluebirdBusy = true)
      (alone : completions agenda = [(time, ())])
      (timely : Timely agenda (time + attributes.bluebirdDelay))

namespace Link

variable
  {attributes : Attributes}
  {path : SlowPath}
  {agenda : Agenda Event}

theorem empty_of_idle
    (link : Link attributes path agenda)
    (idle : path.bluebirdBusy = false) :
    path.bluebirdQueue.packets = [] := by
  cases link with
  | free _ _ empty _ => exact empty
  | taken _ busy _ _ => exact absurd (idle.symm.trans busy) Bool.false_ne_true

theorem idle_iff
    (link : Link attributes path agenda) :
    path.bluebirdBusy = false ↔ completions agenda = [] := by
  cases link with
  | free idle nothing _ _ => exact iff_of_true idle nothing
  | taken _ busy alone _ =>
      refine iff_of_false ?_ ?_
      · rw [busy]
        exact Bool.true_eq_false_eq_False
      · rw [alone]
        exact List.cons_ne_nil _ _

/-- At most one packet is in transmission. -/
theorem length_completions
    (link : Link attributes path agenda) :
    (completions agenda).length ≤ 1 := by
  cases link with
  | free _ nothing _ _ =>
      rw [nothing]
      exact Nat.zero_le 1
  | taken _ _ alone _ =>
      rw [alone]
      exact Nat.le_refl 1

theorem increasing
    (link : Link attributes path agenda) :
    (inControlPlane agenda).Pairwise fun first second =>
      first.1 < second.1 := by
  cases link with
  | free _ _ _ timely => exact timely.increasing
  | taken _ _ _ timely => exact timely.increasing

/-- The link is as it was when time passes and packets are processed. -/
theorem sublist
    {next : Agenda Event}
    {newPath : SlowPath}
    (link : Link attributes path agenda)
    (sameBusy : newPath.bluebirdBusy = path.bluebirdBusy)
    (sameQueue : newPath.bluebirdQueue = path.bluebirdQueue)
    (sameCompletions : completions next = completions agenda)
    (fewer : (inControlPlane next).Sublist (inControlPlane agenda))
    (later : agenda.now ≤ next.now) :
    Link attributes newPath next := by
  cases link with
  | free idle nothing empty timely =>
      refine
        .free (sameBusy.trans idle) (sameCompletions.trans nothing) ?_
          (timely.sublist fewer (Nat.add_le_add_right later _))
      rw [sameQueue]
      exact empty
  | taken time busy alone timely =>
      exact
        .taken time (sameBusy.trans busy) (sameCompletions.trans alone)
          (timely.sublist fewer (Nat.le_refl _))

/-- While the link is taken, the queue is free to change. -/
theorem queue
    {newPath : SlowPath}
    (link : Link attributes path agenda)
    (busy : path.bluebirdBusy = true)
    (sameBusy : newPath.bluebirdBusy = path.bluebirdBusy) :
    Link attributes newPath agenda := by
  cases link with
  | free idle _ _ _ =>
      exact absurd (idle.symm.trans busy) Bool.false_ne_true
  | taken time _ alone timely =>
      exact .taken time (sameBusy.trans busy) alone timely

/-- A free link is free of completions, and no packet is late. -/
theorem nothing_timely
    (link : Link attributes path agenda)
    (idle : path.bluebirdBusy = false) :
    completions agenda = [] ∧
      Timely agenda (agenda.now + attributes.bluebirdDelay) := by
  cases link with
  | free _ nothing _ timely => exact ⟨nothing, timely⟩
  | taken _ busy _ _ =>
      exact absurd (idle.symm.trans busy) Bool.false_ne_true

/-- The link is free when its only completion is taken. -/
theorem completed
    {next : Agenda Event}
    {entry : TimedEvent Event}
    {before after : List (TimedEvent Event)}
    (link : Link attributes path agenda)
    (taken : agenda.Taken entry before after next)
    (isCompletion : entry.event = .bluebirdTxComplete) :
    completions next = [] ∧
      Timely next (next.now + attributes.bluebirdDelay) := by
  have picked : entry.event.completion? = some () := by
    rw [isCompletion]
    rfl
  have same : inControlPlane next = inControlPlane agenda := by
    refine taken.line_of_none ?_
    rw [isCompletion]
    rfl
  have first
      (increasing :
        (completions agenda).Pairwise fun first second =>
          first.1 < second.1) :
      completions agenda = (entry.time, ()) :: completions next :=
    taken.line_of_some picked increasing
  cases link with
  | free _ nothing _ _ =>
      rw [nothing] at first
      exact absurd (first .nil) (List.cons_ne_nil _ _).symm
  | taken time _ alone timely =>
      rw [alone] at first
      obtain ⟨sameTime, nothing⟩ :=
        List.cons.inj (first (List.pairwise_singleton _ _))
      refine ⟨nothing.symm, timely.sublist ?_ ?_⟩
      · rw [same]
      · rw [taken.now, (Prod.mk.inj sameTime).1]

/-- A free link takes a packet. -/
theorem txStart
    (nothing : completions agenda = [])
    (timely : Timely agenda (agenda.now + attributes.bluebirdDelay))
    (packet : SizedPacket) :
    Link attributes
      (bluebirdTxStart attributes path packet).1
      (agenda.schedule (bluebirdTxStart attributes path packet).2) := by
  refine .taken _ rfl ?_ (timely.txStart attributes path packet)
  rw [completions_txStart, nothing]
  rfl

end Link

/-! ## Arrivals -/

/-- What the switch does with a packet, as far as the link is concerned. -/
inductive Handled
    (path : SlowPath)
    (packet : SizedPacket) :
    Verdict × Scheduling → Prop where
  | passed
      (sent : DataPacket)
      (next : SlowPath)
      (sameBusy : next.bluebirdBusy = path.bluebirdBusy)
      (sameQueue : next.bluebirdQueue = path.bluebirdQueue) :
      Handled path packet (.forward sent, next, [])
  | dropped
      (next : SlowPath)
      (sameBusy : next.bluebirdBusy = path.bluebirdBusy)
      (sameQueue : next.bluebirdQueue = path.bluebirdQueue)
      (full : path.bluebirdQueue.enqueue packet = none) :
      Handled path packet (.dropped, next, [])
  | held
      (next : SlowPath)
      (busy : path.bluebirdBusy = true)
      (sameBusy : next.bluebirdBusy = path.bluebirdBusy)
      (queued :
        next.bluebirdQueue.packets =
          path.bluebirdQueue.packets ++ [packet]) :
      Handled path packet (.held, next, [])
  | started
      (next : SlowPath)
      (idle : path.bluebirdBusy = false)
      (empty : next.bluebirdQueue.packets = []) :
      Handled path packet (.held, bluebirdTxStart attributes next packet)

theorem handled_bluebirdLogic
    {path : SlowPath}
    (emptyOfIdle :
      path.bluebirdBusy = false → path.bluebirdQueue.packets = [])
    (packet : SizedPacket) :
    Handled attributes path packet
      (bluebirdLogic attributes path packet) := by
  unfold bluebirdLogic
  split
  next =>
    dsimp only
    cases (path.bluebirdCache.get packet.packet.inner.destination).1 with
    | some cachedAddr => exact .passed _ _ rfl rfl
    | none =>
        cases enqueued : path.bluebirdQueue.enqueue packet with
        | none => exact .dropped _ rfl rfl enqueued
        | some queue =>
            have queued :
                queue.packets = path.bluebirdQueue.packets ++ [packet] := by
              unfold DropTailQueue.enqueue at enqueued
              split at enqueued
              next => exact (Option.some.inj enqueued) ▸ rfl
              next => exact absurd enqueued (Option.some_ne_none _).symm
            cases busy : path.bluebirdBusy with
            | true =>
                simp only [if_true]
                exact .held _ busy busy.symm queued
            | false =>
                -- The queue was empty, so this packet is the first in it.
                rw [emptyOfIdle busy, List.nil_append] at queued
                simp only [DropTailQueue.dequeue, queued,
                  Bool.false_eq_true, if_false]
                exact .started _ busy rfl
  next => exact .passed _ _ rfl rfl

/-! ## The invariant -/

/-- The invariant of a simulation. -/
structure Invariant (simulation : Simulation) : Prop where
  timed : simulation.agenda.WellTimed
  link : Link attributes simulation.path simulation.agenda
  /-- Every accepted packet is in exactly one place, and in its turn. -/
  inOrder :
    simulation.forwarded.map Forwarded.packet ++
        (inControlPlane simulation.agenda).map Prod.snd ++
        simulation.path.bluebirdQueue.packets =
      accepted simulation
  backed :
    simulation.agenda.Every fun event =>
      event.BackedBy (accepted simulation)

theorem invariant_start
    (maxSize : QueueSize)
    (memorySize : Nat)
    (virtualToPhysical : Ipv4Address → Option Ipv4Address) :
    Invariant attributes
      (start maxSize memorySize virtualToPhysical) where
  timed := List.forall_mem_nil _
  link := .free rfl rfl rfl ⟨.nil, List.forall_mem_nil _⟩
  inOrder := rfl
  backed := List.forall_mem_nil _

theorem backed_txStart
    (path : SlowPath)
    {packet : SizedPacket}
    {packets : List SizedPacket}
    (member : packet ∈ packets) :
    ∀ entry ∈ (bluebirdTxStart attributes path packet).2,
      entry.2.BackedBy packets := by
  intro entry inPair virtualIp looked
  rcases List.mem_pair.mp inPair with rfl | rfl
  · exact ⟨packet, member, Option.some.inj looked⟩
  · exact absurd looked (Option.not_mem_none _)

section Arrive

variable {attributes : Attributes}

theorem accepted_append
    {simulation next : Simulation}
    {packet : SizedPacket}
    (appended : next.misses = simulation.misses ++ [(packet, true)]) :
    accepted next = accepted simulation ++ [packet] := by
  rw [accepted, appended, List.filter_append, List.map_append]
  rfl

theorem accepted_append_false
    {simulation next : Simulation}
    {packet : SizedPacket}
    (appended : next.misses = simulation.misses ++ [(packet, false)]) :
    accepted next = accepted simulation := by
  rw [accepted, appended, List.filter_append, List.map_append]
  exact List.append_nil _

/-- Time that passes before anything is to happen changes nothing. -/
theorem Invariant.advance
    {simulation : Simulation}
    {agenda : Agenda Event}
    {time : Nat}
    (invariant : Invariant attributes simulation)
    (advanced : simulation.agenda.advance? time = some agenda) :
    Invariant attributes { simulation with agenda := agenda } := by
  obtain ⟨timed, later, same⟩ := Agenda.wellTimed_of_advance? advanced
  have sameCompletions :
      completions agenda = completions simulation.agenda :=
    Agenda.line_congr same
  have sameControlPlane :
      inControlPlane agenda = inControlPlane simulation.agenda :=
    Agenda.line_congr same
  exact
    { timed := timed
      link :=
        invariant.link.sublist rfl rfl sameCompletions
          (sameControlPlane ▸ List.Sublist.refl _) later
      inOrder := by
        rw [sameControlPlane]
        exact invariant.inOrder
      backed := by
        intro entry member
        rw [same] at member
        exact invariant.backed entry member }

/-- The invariant is about the agenda, the link and the record of packets. -/
theorem Invariant.congr
    {simulation next : Simulation}
    (invariant : Invariant attributes simulation)
    (sameAgenda : next.agenda = simulation.agenda)
    (sameBusy : next.path.bluebirdBusy = simulation.path.bluebirdBusy)
    (sameQueue : next.path.bluebirdQueue = simulation.path.bluebirdQueue)
    (sameForwarded : next.forwarded = simulation.forwarded)
    (sameAccepted : accepted next = accepted simulation) :
    Invariant attributes next where
  timed := by
    rw [sameAgenda]
    exact invariant.timed
  link := by
    rw [sameAgenda]
    exact
      invariant.link.sublist sameBusy sameQueue rfl
        (List.Sublist.refl _) (Nat.le_refl _)
  inOrder := by
    rw [sameAgenda, sameQueue, sameForwarded, sameAccepted]
    exact invariant.inOrder
  backed := by
    rw [sameAgenda, sameAccepted]
    exact invariant.backed

/-- An arrival keeps the invariant. -/
theorem Invariant.arrive
    {simulation : Simulation}
    (invariant : Invariant attributes simulation)
    (packet : SizedPacket) :
    Invariant attributes (arrive attributes simulation packet) := by
  have handled :=
    handled_bluebirdLogic attributes invariant.link.empty_of_idle packet
  unfold Bluebird.arrive
  revert handled
  generalize bluebirdLogic attributes simulation.path packet = outcome
  intro handled
  cases handled with
  | passed sent next sameBusy sameQueue =>
      exact
        invariant.congr (Agenda.schedule_nil _) sameBusy sameQueue rfl rfl
  | dropped next sameBusy sameQueue full =>
      exact
        invariant.congr (Agenda.schedule_nil _) sameBusy sameQueue rfl
          (accepted_append_false rfl)
  | held next busy sameBusy queued =>
      refine
        { timed := ?_
          link := ?_
          inOrder := ?_
          backed := ?_ }
      all_goals dsimp only
      all_goals rw [Agenda.schedule_nil]
      · exact invariant.timed
      · exact invariant.link.queue busy sameBusy
      · rw [accepted_append rfl, queued, ← List.append_assoc,
          invariant.inOrder]
      · rw [accepted_append rfl]
        exact
          invariant.backed.mono fun event backed =>
            backed.subset (List.subset_append_left _ _)
  | started next idle empty =>
      obtain ⟨nothing, timely⟩ := invariant.link.nothing_timely idle
      refine
        { timed := invariant.timed.schedule _
          link := .txStart nothing timely packet
          inOrder := ?_
          backed := ?_ }
      · have before := invariant.inOrder
        rw [invariant.link.empty_of_idle idle, List.append_nil] at before
        dsimp only
        rw [accepted_append rfl, inControlPlane_txStart,
          List.map_append, ← List.append_assoc, before,
          bluebirdQueue_txStart, empty]
        exact List.append_nil _
      · rw [accepted_append rfl]
        exact
          (invariant.backed.mono fun event backed =>
            backed.subset (List.subset_append_left _ _)).schedule
            (backed_txStart attributes next
              (List.mem_append_right _ List.mem_cons_self))

end Arrive

/-! ## Calls -/

section Call

variable
  {attributes : Attributes}
  {simulation next : Simulation}
  {agenda : Agenda Event}
  {entry : TimedEvent Event}
  {before after : List (TimedEvent Event)}

/-- A packet that is processed was the next one in turn. -/
theorem Invariant.processPacket
    (invariant : Invariant attributes simulation)
    (taken : simulation.agenda.Taken entry before after agenda)
    {packet : SizedPacket}
    (isCall : entry.event = .bluebirdProcessPacket packet)
    (called :
      call attributes { simulation with agenda := agenda }
        (.bluebirdProcessPacket packet) = some next) :
    Invariant attributes next := by
  obtain ⟨processed, found, rfl⟩ := Option.map_eq_some_iff.mp called
  obtain ⟨physicalIp, _, rfl⟩ := Option.map_eq_some_iff.mp found
  have first :
      inControlPlane simulation.agenda =
        (entry.time, packet) :: inControlPlane agenda :=
    taken.line_of_some (isCall ▸ rfl) invariant.link.increasing
  have sameCompletions :
      completions agenda = completions simulation.agenda :=
    taken.line_of_none (isCall ▸ rfl)
  obtain ⟨backed, others⟩ := taken.every invariant.backed
  have notCompletion :
      completions
          (agenda.schedule
            [(attributes.bluebirdProgrammingDelay,
              .populateBluebirdCache packet.packet.inner.destination)]) =
        completions agenda :=
    agenda.line_schedule_singleton _ rfl
  have notPacket :
      inControlPlane
          (agenda.schedule
            [(attributes.bluebirdProgrammingDelay,
              .populateBluebirdCache packet.packet.inner.destination)]) =
        inControlPlane agenda :=
    agenda.line_schedule_singleton _ rfl
  refine
    { timed := taken.wellTimed.schedule _
      link :=
        invariant.link.sublist rfl rfl
          (notCompletion.trans sameCompletions) ?_
          (taken.now_le invariant.timed)
      inOrder := ?_
      backed := ?_ }
  · rw [notPacket, first]
    exact List.sublist_cons_self _ _
  · have inOrder := invariant.inOrder
    rw [first, List.map_cons, List.append_assoc, List.cons_append]
      at inOrder
    dsimp only
    rw [notPacket, List.map_append, List.append_assoc, List.append_assoc]
    exact inOrder
  · refine others.schedule fun scheduled isPopulate => ?_
    rw [List.mem_singleton.mp isPopulate]
    rw [isCall] at backed
    exact backed

/-- When a transmission ends, the next packet is put on the link. -/
theorem Invariant.txComplete
    (invariant : Invariant attributes simulation)
    (taken : simulation.agenda.Taken entry before after agenda)
    (isCall : entry.event = .bluebirdTxComplete)
    (called :
      call attributes { simulation with agenda := agenda }
        .bluebirdTxComplete = some next) :
    Invariant attributes next := by
  obtain rfl := Option.some.inj called
  have sameControlPlane :
      inControlPlane agenda = inControlPlane simulation.agenda :=
    taken.line_of_none (isCall ▸ rfl)
  obtain ⟨_, others⟩ := taken.every invariant.backed
  have inOrder := invariant.inOrder
  rw [← sameControlPlane] at inOrder
  obtain ⟨nothing, timely⟩ := invariant.link.completed taken isCall
  unfold bluebirdTxComplete DropTailQueue.dequeue
  dsimp only
  cases queued : simulation.path.bluebirdQueue.packets with
  | nil =>
      dsimp only
      rw [Agenda.schedule_nil]
      rw [queued] at inOrder
      exact
        { timed := taken.wellTimed
          link := .free rfl nothing queued timely
          inOrder := by
            dsimp only
            rw [queued]
            exact inOrder
          backed := others }
  | cons packet rest =>
      rw [queued] at inOrder
      have member : packet ∈ accepted simulation := by
        rw [← inOrder]
        exact List.mem_append_right _ List.mem_cons_self
      exact
        { timed := taken.wellTimed.schedule _
          link := .txStart nothing timely packet
          inOrder := by
            dsimp only
            rw [inControlPlane_txStart, List.map_append,
              ← List.append_assoc, bluebirdQueue_txStart,
              List.append_assoc _ _ rest]
            exact inOrder
          backed := others.schedule (backed_txStart attributes _ member) }

/-- Programming the cache does not touch the link. -/
theorem Invariant.populateCache
    (invariant : Invariant attributes simulation)
    (taken : simulation.agenda.Taken entry before after agenda)
    {virtualIp : Ipv4Address}
    (isCall : entry.event = .populateBluebirdCache virtualIp)
    (called :
      call attributes { simulation with agenda := agenda }
        (.populateBluebirdCache virtualIp) = some next) :
    Invariant attributes next := by
  obtain ⟨path, found, rfl⟩ := Option.map_eq_some_iff.mp called
  obtain ⟨physicalIp, _, rfl⟩ := Option.map_eq_some_iff.mp found
  have sameCompletions :
      completions agenda = completions simulation.agenda :=
    taken.line_of_none (isCall ▸ rfl)
  have sameControlPlane :
      inControlPlane agenda = inControlPlane simulation.agenda :=
    taken.line_of_none (isCall ▸ rfl)
  exact
    { timed := taken.wellTimed
      link :=
        invariant.link.sublist rfl rfl sameCompletions
          (sameControlPlane ▸ List.Sublist.refl _)
          (taken.now_le invariant.timed)
      inOrder := by
        rw [sameControlPlane]
        exact invariant.inOrder
      backed := (taken.every invariant.backed).2 }

end Call

/-- Every step keeps the invariant. -/
theorem Invariant.step
    {attributes : Attributes}
    {simulation next : Simulation}
    {action : Action}
    (invariant : Invariant attributes simulation)
    (stepped : (system attributes).step simulation action = some next) :
    Invariant attributes next := by
  cases action with
  | arrive time packet =>
      obtain ⟨agenda, advanced, rfl⟩ := Option.map_eq_some_iff.mp stepped
      exact (invariant.advance advanced).arrive packet
  | run position =>
      obtain ⟨⟨event, agenda⟩, took, called⟩ :=
        Option.bind_eq_some_iff.mp stepped
      obtain ⟨entry, before, after, isCall, taken⟩ :=
        Agenda.taken_of_take? took
      cases event with
      | bluebirdProcessPacket packet =>
          exact invariant.processPacket taken isCall called
      | bluebirdTxComplete => exact invariant.txComplete taken isCall called
      | populateBluebirdCache virtualIp =>
          exact invariant.populateCache taken isCall called
  | migrate virtualIp physicalIp =>
      obtain rfl := Option.some.inj stepped
      exact invariant.congr rfl rfl rfl rfl rfl

/-! ## Progress -/

/-- A call leaves the record of arrivals alone and brings the work down. -/
theorem workLeft_run
    {attributes : Attributes}
    {simulation next : Simulation}
    {position : Nat}
    (stepped :
      (system attributes).step simulation (.run position) = some next) :
    next.misses = simulation.misses ∧
      next.virtualToPhysical = simulation.virtualToPhysical ∧
      workLeft next < workLeft simulation := by
  obtain ⟨⟨event, agenda⟩, took, called⟩ :=
    Option.bind_eq_some_iff.mp stepped
  obtain ⟨entry, before, after, isCall, taken⟩ :=
    Agenda.taken_of_take? took
  have weight := taken.weigh Event.work
  rw [isCall] at weight
  cases event with
  | bluebirdProcessPacket packet =>
      obtain ⟨processed, found, rfl⟩ := Option.map_eq_some_iff.mp called
      obtain ⟨physicalIp, _, rfl⟩ := Option.map_eq_some_iff.mp found
      refine ⟨rfl, rfl, ?_⟩
      unfold workLeft
      dsimp only
      rw [Agenda.weigh_schedule, weight]
      exact
        Nat.add_lt_add_left
          (Nat.add_lt_add_left (Nat.lt_succ_self 1) _) _
  | bluebirdTxComplete =>
      obtain rfl := Option.some.inj called
      refine ⟨rfl, rfl, ?_⟩
      unfold workLeft bluebirdTxComplete DropTailQueue.dequeue
      dsimp only
      cases queued : simulation.path.bluebirdQueue.packets with
      | nil =>
          dsimp only
          rw [queued, Agenda.schedule_nil, weight]
          exact Nat.lt_succ_self _
      | cons packet rest =>
          dsimp only
          rw [bluebirdQueue_txStart, Agenda.weigh_schedule, weight]
          simp only [bluebirdTxStart, Event.work, List.map_cons,
            List.map_nil, List.sum_cons, List.sum_nil, List.length_cons]
          omega
  | populateBluebirdCache virtualIp =>
      obtain ⟨path, found, rfl⟩ := Option.map_eq_some_iff.mp called
      obtain ⟨physicalIp, _, rfl⟩ := Option.map_eq_some_iff.mp found
      refine ⟨rfl, rfl, ?_⟩
      unfold workLeft
      dsimp only
      rw [weight]
      exact Nat.lt_succ_self _

section Settled

variable
  {attributes : Attributes}
  {simulation : Simulation}

/-- When no call is left, everything that was accepted was forwarded. -/
theorem Invariant.forwarded_of_nil
    (invariant : Invariant attributes simulation)
    (nothing : simulation.agenda.pending = []) :
    simulation.forwarded.map Forwarded.packet = accepted simulation := by
  have noCompletion : completions simulation.agenda = [] := by
    rw [completions, Agenda.line, nothing, List.filterMap_nil]
  have noPacket : inControlPlane simulation.agenda = [] := by
    rw [inControlPlane, Agenda.line, nothing, List.filterMap_nil]
  have inOrder := invariant.inOrder
  rw [noPacket,
    invariant.link.empty_of_idle (invariant.link.idle_iff.mpr noCompletion),
    List.map_nil, List.append_nil, List.append_nil] at inOrder
  exact inOrder

/-- A call that cannot be made looks up an address that nobody has. -/
theorem Invariant.settled
    (invariant : Invariant attributes simulation)
    (stuck :
      ∀ position,
        (system attributes).step simulation (.run position) = none) :
    simulation.agenda.pending = [] ∨
      ∃ packet ∈ accepted simulation,
        simulation.virtualToPhysical packet.packet.inner.destination =
          none := by
  by_cases nothing : simulation.agenda.pending = []
  · exact Or.inl nothing
  · right
    obtain ⟨position, event, agenda, took⟩ := Agenda.exists_take? nothing
    obtain ⟨entry, before, after, isCall, taken⟩ :=
      Agenda.taken_of_take? took
    have backed := (taken.every invariant.backed).1
    rw [isCall] at backed
    have fails := Option.bind_eq_none_iff.mp (stuck position) _ took
    cases event with
    | bluebirdProcessPacket packet =>
        obtain ⟨known, member, same⟩ := backed _ rfl
        refine ⟨known, member, ?_⟩
        rw [same]
        exact Option.map_eq_none_iff.mp (Option.map_eq_none_iff.mp fails)
    | bluebirdTxComplete => exact absurd fails (Option.some_ne_none _)
    | populateBluebirdCache virtualIp =>
        obtain ⟨known, member, same⟩ := backed _ rfl
        refine ⟨known, member, ?_⟩
        rw [same]
        exact Option.map_eq_none_iff.mp (Option.map_eq_none_iff.mp fails)

end Settled

/-! ## Runs -/

theorem invariant_of_reachable
    {attributes : Attributes}
    {maxSize : QueueSize}
    {memorySize : Nat}
    {virtualToPhysical : Ipv4Address → Option Ipv4Address}
    {simulation : Simulation}
    (reachable :
      (system attributes).Reachable (fun _ _ => True)
        (start maxSize memorySize virtualToPhysical) simulation) :
    Invariant attributes simulation :=
  reachable.invariant _
    (invariant_start attributes maxSize memorySize virtualToPhysical)
    fun invariant _ stepped => invariant.step stepped

/-- A packet without a mapping is recorded with what `Enqueue` said. -/
theorem misses_of_arrive
    {attributes : Attributes}
    {simulation next : Simulation}
    {time : Nat}
    {packet : SizedPacket}
    (stepped :
      (system attributes).step simulation (.arrive time packet) =
        some next)
    (toGateway : packet.packet.outer.destination ∈ attributes.gwAddresses)
    (miss :
      (simulation.path.bluebirdCache.get
        packet.packet.inner.destination).1 = none) :
    next.misses =
      simulation.misses ++
        [(packet,
          (simulation.path.bluebirdQueue.enqueue packet).isSome)] := by
  obtain ⟨agenda, _, rfl⟩ := Option.map_eq_some_iff.mp stepped
  unfold arrive bluebirdLogic
  dsimp only
  rw [if_pos toGateway, miss]
  dsimp only
  cases simulation.path.bluebirdQueue.enqueue packet with
  | none => rfl
  | some queue =>
      dsimp only
      cases simulation.path.bluebirdBusy with
      | true => rfl
      | false =>
          cases queue.dequeue with
          | none => rfl
          | some first => rfl

/--
When no packet arrives any more, the simulator makes at most `workLeft` calls.
It then has forwarded every accepted packet, unless a call looked up an address
that nobody has.
-/
theorem forwarded_of_run?
    {attributes : Attributes}
    {simulation final : Simulation}
    {positions : List Nat}
    (invariant : Invariant attributes simulation)
    (ran :
      (system attributes).run? simulation (positions.map .run) =
        some final) :
    positions.length ≤ workLeft simulation ∧
      ((∀ position,
          (system attributes).step final (.run position) = none) →
        final.forwarded.map Forwarded.packet = accepted simulation ∨
          ∃ packet ∈ accepted simulation,
            simulation.virtualToPhysical
              packet.packet.inner.destination = none) := by
  obtain ⟨⟨atEnd, sameMisses, sameTable⟩, bound⟩ :=
    TransitionSystem.holds_length_of_run?
      (fun action => ∃ position, action = .run position)
      (fun state =>
        Invariant attributes state ∧
          state.misses = simulation.misses ∧
          state.virtualToPhysical = simulation.virtualToPhysical)
      workLeft
      (by
        rintro state _ next ⟨before, misses, table⟩ ⟨position, rfl⟩ stepped
        obtain ⟨sameMisses, sameTable, less⟩ := workLeft_run stepped
        exact
          ⟨⟨before.step stepped, sameMisses.trans misses,
            sameTable.trans table⟩, less⟩)
      (by
        intro action member
        obtain ⟨position, _, same⟩ := List.mem_map.mp member
        exact ⟨position, same.symm⟩)
      ⟨invariant, rfl, rfl⟩ ran
  have sameAccepted : accepted final = accepted simulation := by
    rw [accepted, sameMisses, accepted]
  rw [List.length_map] at bound
  refine ⟨Nat.le_trans (Nat.le_add_right _ _) bound, fun stuck => ?_⟩
  rw [← sameAccepted, ← sameTable]
  exact (atEnd.settled stuck).imp atEnd.forwarded_of_nil id

/--
The slow path loses, duplicates and reorders nothing.  The link is busy exactly
while its one completion is pending, and only then do packets wait.  Every
packet without a mapping is dropped by `Enqueue` or accepted, and the accepted
packets are forwarded, once each and in the order of their arrival, by the at
most `workLeft` calls that the simulator makes when nothing more arrives.
-/
theorem slowPath_inOrder
    {attributes : Attributes}
    {maxSize : QueueSize}
    {memorySize : Nat}
    {virtualToPhysical : Ipv4Address → Option Ipv4Address}
    {simulation : Simulation}
    (reachable :
      (system attributes).Reachable (fun _ _ => True)
        (start maxSize memorySize virtualToPhysical) simulation) :
    (simulation.path.bluebirdBusy = false ↔
        completions simulation.agenda = []) ∧
      (simulation.path.bluebirdBusy = false →
        simulation.path.bluebirdQueue.packets = []) ∧
      (completions simulation.agenda).length ≤ 1 ∧
      simulation.forwarded.map Forwarded.packet ++
          (inControlPlane simulation.agenda).map Prod.snd ++
          simulation.path.bluebirdQueue.packets =
        accepted simulation ∧
      (∀ {time : Nat} {packet : SizedPacket} {next : Simulation},
        (system attributes).step simulation (.arrive time packet) =
          some next →
        packet.packet.outer.destination ∈ attributes.gwAddresses →
        (simulation.path.bluebirdCache.get
          packet.packet.inner.destination).1 = none →
        next.misses =
          simulation.misses ++
            [(packet,
              (simulation.path.bluebirdQueue.enqueue packet).isSome)]) ∧
      ∀ {positions : List Nat} {final : Simulation},
        (system attributes).run? simulation (positions.map .run) =
          some final →
        positions.length ≤ workLeft simulation ∧
          ((∀ position,
              (system attributes).step final (.run position) = none) →
            final.forwarded.map Forwarded.packet = accepted simulation ∨
              ∃ packet ∈ accepted simulation,
                simulation.virtualToPhysical
                  packet.packet.inner.destination = none) := by
  have invariant := invariant_of_reachable reachable
  exact
    ⟨invariant.link.idle_iff, invariant.link.empty_of_idle,
      invariant.link.length_completions, invariant.inOrder,
      misses_of_arrive, forwarded_of_run? invariant⟩

/-- The default attributes, with one gateway. -/
def twentyGbps : Attributes where
  gwAddresses := [DottedQuad.ofOctets 1 0 0 1]
  calculateBytesTxTime := fun bytes => bytes * 8 / 20
  bluebirdDelay := 8500
  bluebirdProgrammingDelay := 2000000

/-- A packet to a container, on its way to the gateway. -/
def gatewayBound (container : Ipv4Address) (size : Nat) : SizedPacket where
  packet :=
    { outer :=
        { source := DottedQuad.ofOctets 1 1 0 1
          destination := DottedQuad.ofOctets 1 0 0 1
          ttl := 64 }
      inner := { source := 1, destination := container, ttl := 64 }
      evictionTag := .empty
      invalidationTag := .empty
      hitTag := .empty
      sourceTag := none
      flowId := 7
      misdeliveries := 0 }
  size := size

/-- Room for 1200 bytes, and a host that has every container. -/
def shortQueue : Simulation :=
  start (.bytes 1200) 4 fun _ => some (DottedQuad.ofOctets 1 1 0 2)

/-- The second packet waits for the first; the third finds the queue full. -/
def threeArrivals : List Action :=
  [.arrive 0 (gatewayBound 2 1000), .arrive 100 (gatewayBound 3 500),
    .arrive 200 (gatewayBound 4 1000)]

/-- The second completion happens before the first packet is processed. -/
def untilForwarded : List Nat :=
  [1, 2, 0, 0]

example :
    ((system twentyGbps).run? shortQueue
        (threeArrivals ++ untilForwarded.map Action.run)).map
        (fun simulation =>
          (simulation.agenda.now,
            simulation.forwarded.map fun sent => sent.packet.size)) =
      some (9350, [1000, 500]) := by
  decide

theorem slowPath_inOrder_threeArrivals :
    ∃ simulation,
      (system twentyGbps).run? shortQueue threeArrivals =
          some simulation ∧
        accepted simulation = [gatewayBound 2 1000, gatewayBound 3 500] ∧
        ∀ {positions : List Nat} {final : Simulation},
          (system twentyGbps).run? simulation (positions.map .run) =
            some final →
          positions.length ≤ workLeft simulation ∧
            ((∀ position,
                (system twentyGbps).step final (.run position) = none) →
              final.forwarded.map Forwarded.packet = accepted simulation ∨
                ∃ packet ∈ accepted simulation,
                  simulation.virtualToPhysical
                    packet.packet.inner.destination = none) := by
  have taken :
      ((system twentyGbps).run? shortQueue threeArrivals).map accepted =
        some [gatewayBound 2 1000, gatewayBound 3 500] := by
    decide
  obtain ⟨simulation, ran, sameAccepted⟩ :=
    Option.map_eq_some_iff.mp taken
  exact
    ⟨simulation, ran, sameAccepted,
      (slowPath_inOrder
        (TransitionSystem.reachable_of_unrestricted_run? ran)).2.2.2.2.2⟩

end SwitchV2P.Bluebird
