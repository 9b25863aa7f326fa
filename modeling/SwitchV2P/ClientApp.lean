import Mathlib.Algebra.BigOperators.Group.List.Basic
import Mathlib.Algebra.GroupWithZero.Nat
import Mathlib.Algebra.Ring.Int.Defs
import Mathlib.Data.List.Sort
import SwitchV2P.Agenda
import SwitchV2P.RangeLoops
import SwitchV2P.TraceFlows
import SwitchV2P.TransitionSystem

namespace SwitchV2P

/-!
# `ClientApp` launches its flows

A client schedules its first flow when it starts and every further flow when it
has launched the one before, after the difference of their times.  The clients
of a simulation share its agenda, and other events may come at any time.
-/

namespace ClientApp

open RangeLoops
open TraceSimulation

/-- An event of the client with this number. -/
inductive Event where
  | startApplication (client : Nat)
  | sendPacket (client : Nat)
  | stopApplication (client : Nat)
  deriving Repr, DecidableEq

/-- A flow that a client has launched, and when. -/
structure Launch where
  client : Nat
  flow : Flow
  time : Nat
  deriving Repr, DecidableEq

/--
The clients, what is to happen, what they have launched, and the number of
launches that were cancelled.
-/
structure Clients where
  agenda : Agenda Event
  apps : List ClientApp
  launches : List Launch
  cancelled : Nat
  deriving Repr, DecidableEq

/-- `m_startTime`. -/
def startTime : Nat :=
  0

namespace Clients

/--
After `Start` and `Stop` of all clients.  An event cannot be scheduled at a
negative time.
-/
def setup? (apps : List ClientApp) (stopTime : Int) : Option Clients :=
  if stopTime < 0 then
    none
  else
    some
      { agenda :=
          Agenda.empty.schedule
            ((List.range apps.length).flatMap fun client =>
              [(startTime, .startApplication client),
                (stopTime.toNat, .stopApplication client)])
        apps := apps
        launches := []
        cancelled := 0 }

/-- `Simulator::Schedule`, which asserts that the delay is not negative. -/
def schedule? (clients : Clients) (delay : Int) (event : Event) :
    Option Clients :=
  if delay < 0 then
    none
  else
    some
      { clients with
        agenda := clients.agenda.schedule [(delay.toNat, event)] }

/-- The delay in `ScheduleNext`, if both indices are in range. -/
def delay? (app : ClientApp) : Option UInt64 :=
  if app.currentIdx = 0 then
    app.flows[0]?.map Flow.ts
  else
    match app.flows[app.currentIdx]?, app.flows[app.currentIdx - 1]? with
    | some next, some last => some (next.ts - last.ts)
    | _, _ => none

/-- `ScheduleNext`. -/
def scheduleNext?
    (clients : Clients)
    (client : Nat)
    (app : ClientApp) :
    Option Clients :=
  match delay? app with
  | some delay =>
      clients.schedule? (nanoSeconds delay) (.sendPacket client)
  | none => none

/-- The members of a client have changed. -/
def update (clients : Clients) (client : Nat) (app : ClientApp) : Clients :=
  { clients with apps := clients.apps.set client app }

/-- `StartApplication`. -/
def startApplication? (clients : Clients) (client : Nat) :
    Option Clients :=
  match clients.apps[client]? with
  | some app =>
      let app : ClientApp := { app with running := true }
      (clients.update client app).scheduleNext? client app
  | none => none

/-- `SendPacket`: the current flow is launched. -/
def sendPacket? (clients : Clients) (client : Nat) : Option Clients :=
  match clients.apps[client]? with
  | some app =>
      match app.flows[app.currentIdx]? with
      | some flow =>
          let launched : Clients :=
            { clients with
              launches :=
                clients.launches ++
                  [{ client := client
                     flow := flow
                     time := clients.agenda.now }] }
          let app : ClientApp :=
            { app with currentIdx := app.currentIdx + 1 }
          if app.currentIdx < app.flows.length then
            (launched.update client app).scheduleNext? client app
          else
            some (launched.update client app)
      | none => none
  | none => none

/-- The launch that a client has scheduled. -/
def isLaunch (client : Nat) : Event → Bool
  | .sendPacket other => other = client
  | _ => false

/-- `StopApplication`: a launch that is still to come is cancelled. -/
def stopApplication? (clients : Clients) (client : Nat) :
    Option Clients :=
  match clients.apps[client]? with
  | some app =>
      let agenda := clients.agenda.cancel (isLaunch client)
      some
        { clients.update client { app with running := false } with
          agenda := agenda
          cancelled :=
            clients.cancelled +
              (clients.agenda.pending.length - agenda.pending.length) }
  | none => none

/-- An event happens. -/
def handle? (clients : Clients) : Event → Option Clients
  | .startApplication client => clients.startApplication? client
  | .sendPacket client => clients.sendPacket? client
  | .stopApplication client => clients.stopApplication? client

/-- The flows that a client has launched, with their times. -/
def launchesOf (clients : Clients) (client : Nat) : List (Flow × Nat) :=
  clients.launches.filterMap fun launch =>
    if launch.client = client then
      some (launch.flow, launch.time)
    else
      none

end Clients

/-- Other events let time pass; an event of a client is one of the earliest. -/
inductive Action where
  | pass (time : Nat)
  | run (position : Nat)
  deriving Repr, DecidableEq

/-- An event of a client happens. -/
def Action.isRun : Action → Bool
  | .pass _ => false
  | .run _ => true

/-- The clients in a simulation. -/
def simulation : TransitionSystem Clients Action where
  step := fun clients action =>
    match action with
    | .pass time =>
        (clients.agenda.advance? time).map fun agenda =>
          { clients with agenda := agenda }
    | .run position =>
        (clients.agenda.take? position).bind fun taken =>
          Clients.handle? { clients with agenda := taken.2 } taken.1

/-! ## What an event does -/

/-- The client of an event. -/
def Event.client : Event → Nat
  | .startApplication client => client
  | .sendPacket client => client
  | .stopApplication client => client

/-- The start of a client and its launches. -/
def chainOf (client : Nat) : Event → Option Bool
  | .startApplication other => if other = client then some false else none
  | .sendPacket other => if other = client then some true else none
  | .stopApplication _ => none

/-- The end of a client. -/
def stopOf (client : Nat) : Event → Option Unit
  | .stopApplication other => if other = client then some () else none
  | _ => none

variable
  {clients : Clients}
  {client other : Nat}
  {event : Event}
  {app : ClientApp}

theorem chainOf_of_ne (different : event.client ≠ client) :
    chainOf client event = none := by
  cases event with
  | startApplication other => exact if_neg different
  | sendPacket other => exact if_neg different
  | stopApplication other => rfl

theorem stopOf_of_ne (different : event.client ≠ client) :
    stopOf client event = none := by
  cases event with
  | startApplication other => rfl
  | sendPacket other => rfl
  | stopApplication other => exact if_neg different

namespace Clients

/--
A client changes, launches a flow or none, and schedules its next launch or
none.
-/
def progress
    (clients : Clients)
    (client : Nat)
    (app : ClientApp)
    (launched : Option Flow)
    (delay : Option Nat) :
    Clients where
  agenda :=
    clients.agenda.schedule
      (delay.toList.map fun delay => (delay, .sendPacket client))
  apps := clients.apps.set client app
  launches :=
    clients.launches ++
      launched.toList.map fun flow =>
        { client := client
          flow := flow
          time := clients.agenda.now }
  cancelled := clients.cancelled

variable
  {launched : Option Flow}
  {delay : Option Nat}

theorem launchesOf_progress :
    (clients.progress client app launched delay).launchesOf client =
      clients.launchesOf client ++
        launched.toList.map fun flow => (flow, clients.agenda.now) := by
  unfold launchesOf progress
  rw [List.filterMap_append]
  cases launched with
  | none => rfl
  | some flow =>
      apply congrArg (clients.launchesOf client ++ ·)
      exact List.filterMap_cons_some (if_pos rfl)

theorem line_progress :
    (clients.progress client app launched delay).agenda.line
        (chainOf client) =
      clients.agenda.line (chainOf client) ++
        delay.toList.map fun delay =>
          (clients.agenda.now + delay, true) := by
  unfold progress
  rw [Agenda.line_schedule]
  cases delay with
  | none => rfl
  | some delay =>
      apply congrArg (clients.agenda.line (chainOf client) ++ ·)
      have selected : chainOf client (.sendPacket client) = some true :=
        if_pos rfl
      apply List.filterMap_cons_some
      rw [selected]
      rfl

/-- No launch is the end of a client. -/
theorem stopLine_progress :
    (clients.progress client app launched delay).agenda.line
        (stopOf other) =
      clients.agenda.line (stopOf other) := by
  unfold progress
  cases delay with
  | none => exact congrArg (Agenda.line _) (Agenda.schedule_nil _)
  | some delay => exact Agenda.line_schedule_singleton _ _ rfl

end Clients

/-- Two states are the same for a client. -/
structure SameFor (client : Nat) (before after : Clients) : Prop where
  app : after.apps[client]? = before.apps[client]?
  launches : after.launchesOf client = before.launchesOf client
  chain :
    after.agenda.line (chainOf client) =
      before.agenda.line (chainOf client)
  stop :
    after.agenda.line (stopOf client) = before.agenda.line (stopOf client)

/-- The others are not affected. -/
theorem sameFor_progress
    {launched : Option Flow}
    {delay : Option Nat}
    (different : client ≠ other) :
    SameFor other clients
      (clients.progress client app launched delay) where
  app := List.getElem?_set_ne different
  launches := by
    unfold Clients.launchesOf Clients.progress
    rw [List.filterMap_append]
    cases launched with
    | none => exact List.append_nil _
    | some flow =>
        have outside :
            (if client = other then
                some (flow, clients.agenda.now)
              else
                none) =
              none :=
          if_neg different
        refine
          (congrArg (clients.launchesOf other ++ ·) ?_).trans
            (List.append_nil _)
        exact List.filterMap_cons_none outside
  chain := by
    unfold Clients.progress
    cases delay with
    | none => exact congrArg (Agenda.line _) (Agenda.schedule_nil _)
    | some delay =>
        exact
          Agenda.line_schedule_singleton _ _ (chainOf_of_ne different)
  stop := Clients.stopLine_progress

/-- The difference of two times in order, as a delay. -/
theorem nanoSeconds_sub
    {earlier later : UInt64}
    (inOrder : earlier ≤ later)
    (small : later.toNat < 2 ^ 63) :
    nanoSeconds (later - earlier) =
      ((later.toNat - earlier.toNat : Nat) : Int) := by
  have difference := UInt64.toNat_sub_of_le later earlier inOrder
  rw [nanoSeconds_of_lt (by omega), difference]

namespace Clients

theorem schedule?_of_nonneg
    (clients : Clients)
    (delay : Nat)
    (event : Event) :
    clients.schedule? delay event =
      some
        { clients with
          agenda := clients.agenda.schedule [(delay, event)] } := by
  unfold schedule?
  exact if_neg (Int.not_lt.mpr (Int.natCast_nonneg delay))

theorem delay?_first
    {flow : Flow}
    (atFirst : app.currentIdx = 0)
    (first : app.flows[0]? = some flow) :
    delay? app = some flow.ts := by
  unfold delay?
  rw [if_pos atFirst, first]
  rfl

theorem delay?_next
    {last next : Flow}
    {count : Nat}
    (atNext : app.currentIdx = count + 1)
    (isLast : app.flows[count]? = some last)
    (isNext : app.flows[count + 1]? = some next) :
    delay? app = some (next.ts - last.ts) := by
  unfold delay?
  rw [if_neg (by rw [atNext]; exact Nat.succ_ne_zero count), atNext,
    Nat.add_sub_cancel, isNext, isLast]

/-- A client that starts schedules its first flow. -/
theorem startApplication?_eq
    {flow : Flow}
    (found : clients.apps[client]? = some app)
    (atFirst : app.currentIdx = 0)
    (first : app.flows[0]? = some flow)
    (small : flow.ts.toNat < 2 ^ 63) :
    clients.startApplication? client =
      some
        (clients.progress client { app with running := true } none
          (some flow.ts.toNat)) := by
  have delay : delay? { app with running := true } = some flow.ts :=
    delay?_first atFirst first
  unfold startApplication?
  rw [found]
  dsimp only
  unfold scheduleNext?
  rw [delay]
  dsimp only
  rw [nanoSeconds_of_lt small, schedule?_of_nonneg]
  unfold update progress
  rw [Option.toList_none, List.map_nil, List.append_nil]
  rfl

/-- A first flow that seems to lie in the past stops the simulation. -/
theorem startApplication?_eq_none
    {flow : Flow}
    (found : clients.apps[client]? = some app)
    (atFirst : app.currentIdx = 0)
    (first : app.flows[0]? = some flow)
    (negative : nanoSeconds flow.ts < 0) :
    clients.startApplication? client = none := by
  have delay : delay? { app with running := true } = some flow.ts :=
    delay?_first atFirst first
  unfold startApplication?
  rw [found]
  dsimp only
  unfold scheduleNext?
  rw [delay]
  exact if_pos negative

/-- A flow is launched and the next one is scheduled. -/
theorem sendPacket?_next
    {flow next : Flow}
    (found : clients.apps[client]? = some app)
    (isCurrent : app.flows[app.currentIdx]? = some flow)
    (isNext : app.flows[app.currentIdx + 1]? = some next)
    (inOrder : flow.ts ≤ next.ts)
    (small : next.ts.toNat < 2 ^ 63) :
    clients.sendPacket? client =
      some
        (clients.progress client
          { app with currentIdx := app.currentIdx + 1 } (some flow)
          (some (next.ts.toNat - flow.ts.toNat))) := by
  have delay :
      delay? { app with currentIdx := app.currentIdx + 1 } =
        some (next.ts - flow.ts) :=
    delay?_next rfl isCurrent isNext
  obtain ⟨more, _⟩ := List.getElem?_eq_some_iff.mp isNext
  unfold sendPacket?
  rw [found]
  dsimp only
  rw [isCurrent]
  dsimp only
  rw [if_pos more]
  unfold scheduleNext?
  rw [delay]
  dsimp only
  rw [nanoSeconds_sub inOrder small, schedule?_of_nonneg]
  rfl

/-- The last flow is launched. -/
theorem sendPacket?_last
    {flow : Flow}
    (found : clients.apps[client]? = some app)
    (isCurrent : app.flows[app.currentIdx]? = some flow)
    (noNext : app.flows[app.currentIdx + 1]? = none) :
    clients.sendPacket? client =
      some
        (clients.progress client
          { app with currentIdx := app.currentIdx + 1 } (some flow)
          none) := by
  have noMore : ¬ app.currentIdx + 1 < app.flows.length :=
    Nat.not_lt.mpr (List.getElem?_eq_none_iff.mp noNext)
  unfold sendPacket?
  rw [found]
  dsimp only
  rw [isCurrent]
  dsimp only
  rw [if_neg noMore]
  unfold progress
  rw [Option.toList_none, List.map_nil, Agenda.schedule_nil]
  rfl

/-- A client without a launch to come just stops. -/
theorem stopApplication?_eq
    (found : clients.apps[client]? = some app)
    (noneToCome :
      ∀ entry ∈ clients.agenda.pending,
        chainOf client entry.event = none) :
    clients.stopApplication? client =
      some
        (clients.progress client { app with running := false } none
          none) := by
  have nothing : clients.agenda.cancel (isLaunch client) = clients.agenda := by
    apply Agenda.cancel_of_none
    intro entry member
    have outside := noneToCome entry member
    cases isEvent : entry.event with
    | startApplication other => rfl
    | stopApplication other => rfl
    | sendPacket other =>
        rw [isEvent] at outside
        apply decide_eq_false
        intro same
        exact
          absurd ((if_pos same).symm.trans outside)
            (Option.some_ne_none true)
  unfold stopApplication?
  rw [found]
  dsimp only
  rw [nothing]
  unfold update progress
  rw [Nat.sub_self, Option.toList_none, List.map_nil, Agenda.schedule_nil,
    Option.toList_none, List.map_nil, List.append_nil]
  rfl

end Clients

/-! ## The chain of one client -/

/-- When a flow is to be launched. -/
def due (flow : Flow) : Nat :=
  startTime + flow.ts.toNat

/-- Flows in the order of their times, all before the stop time. -/
structure Ready (stopTime : Nat) (flows : List Flow) : Prop where
  nonempty : flows ≠ []
  sorted : flows.Pairwise fun first second => first.ts ≤ second.ts
  small : ∀ flow ∈ flows, flow.ts.toNat < 2 ^ 63
  before : ∀ flow ∈ flows, due flow < stopTime

/--
A client has launched its first `count` flows and is about to start or to
launch the next one.
-/
structure Chain
    (stopTime : Nat)
    (flows : List Flow)
    (clients : Clients)
    (client count : Nat) : Prop where
  member :
    ∃ app, clients.apps[client]? = some app ∧ app.flows = flows ∧
      app.currentIdx = count
  launched :
    clients.launchesOf client =
      (flows.take count).map fun flow => (flow, due flow)
  count_le : count ≤ flows.length
  line :
    (clients.agenda.line (chainOf client) = [(startTime, false)] ∧
        count = 0) ∨
      clients.agenda.line (chainOf client) =
        flows[count]?.toList.map fun flow => (due flow, true)
  stop :
    clients.agenda.line (stopOf client) = [(stopTime, ())] ∨
      (clients.agenda.line (chainOf client) = [] ∧
        clients.agenda.line (stopOf client) = [])

variable
  {stopTime count : Nat}
  {flows : List Flow}
  {before after : Clients}

/-- What is the same for a client keeps its chain. -/
theorem Chain.congr
    (chain : Chain stopTime flows before client count)
    (same : SameFor client before after) :
    Chain stopTime flows after client count where
  member := by
    rw [same.app]
    exact chain.member
  launched := by
    rw [same.launches]
    exact chain.launched
  count_le := chain.count_le
  line := by
    rw [same.chain]
    exact chain.line
  stop := by
    rw [same.chain, same.stop]
    exact chain.stop

theorem SameFor.trans
    {middle : Clients}
    (first : SameFor client before middle)
    (second : SameFor client middle after) :
    SameFor client before after where
  app := second.app.trans first.app
  launches := second.launches.trans first.launches
  chain := second.chain.trans first.chain
  stop := second.stop.trans first.stop

section Taking

variable
  {entry : TimedEvent Event}
  {earlier later : List (TimedEvent Event)}
  {rest : Agenda Event}

/-- Taking an event of another client changes nothing for a client. -/
theorem sameFor_taken
    (taken : clients.agenda.Taken entry earlier later rest)
    (different : entry.event.client ≠ client) :
    SameFor client clients { clients with agenda := rest } where
  app := rfl
  launches := rfl
  chain := taken.line_of_none (chainOf_of_ne different)
  stop := taken.line_of_none (stopOf_of_ne different)

/-- How much a client has still to launch. -/
def left (app : ClientApp) : Nat :=
  app.flows.length - app.currentIdx

/-- A start is worth two, as it leads to a launch. -/
def weight : Event → Nat
  | .startApplication _ => 2
  | .sendPacket _ => 1
  | .stopApplication _ => 1

/-- What an event of a client makes of its chain. -/
structure Progresses
    (stopTime : Nat)
    (flows : List Flow)
    (clients : Clients)
    (event : Event)
    (old app : ClientApp)
    (launched : Option Flow)
    (delay : Option Nat) : Prop where
  handled :
    clients.handle? event =
      some (clients.progress event.client app launched delay)
  found : clients.apps[event.client]? = some old
  less : left app + delay.toList.length < left old + weight event
  chain :
    ∃ count,
      Chain stopTime flows (clients.progress event.client app launched delay)
        event.client count

namespace Chain

/-- The chain of a client has at most one event. -/
theorem pairwise
    (chain : Chain stopTime flows clients client count) :
    (clients.agenda.line (chainOf client)).Pairwise
      fun first second => first.1 < second.1 := by
  rcases chain.line with ⟨waits, _⟩ | continues
  · rw [waits]
    exact List.pairwise_singleton _ _
  · rw [continues]
    cases flows[count]? with
    | none => exact List.Pairwise.nil
    | some flow => exact List.pairwise_singleton _ _

/-- The event of a chain that has been taken was its only one. -/
theorem took
    (chain : Chain stopTime flows clients client count)
    (taken : clients.agenda.Taken entry earlier later rest)
    {launches : Bool}
    (selected : chainOf client entry.event = some launches)
    (notStop : stopOf client entry.event = none) :
    rest.line (chainOf client) = [] ∧
      rest.line (stopOf client) = [(stopTime, ())] ∧
      ((launches = false ∧ count = 0 ∧ rest.now = startTime) ∨
        (launches = true ∧
          ∃ flow, flows[count]? = some flow ∧ rest.now = due flow)) := by
  have split := taken.line_of_some selected chain.pairwise
  have stopLine := taken.line_of_none notStop
  have pending :
      clients.agenda.line (stopOf client) = [(stopTime, ())] := by
    rcases chain.stop with pending | ⟨finished, _⟩
    · exact pending
    · rw [finished] at split
      exact absurd split.symm (List.cons_ne_nil _ _)
  rw [stopLine, taken.now]
  rcases chain.line with ⟨waits, atStart⟩ | continues
  · rw [waits] at split
    obtain ⟨same, restLine⟩ := List.cons.inj split
    obtain ⟨sameTime, sameKind⟩ := Prod.mk.inj same
    exact
      ⟨restLine.symm, pending,
        Or.inl ⟨sameKind.symm, atStart, sameTime.symm⟩⟩
  · rw [continues] at split
    cases isNext : flows[count]? with
    | none =>
        rw [isNext] at split
        exact absurd split.symm (List.cons_ne_nil _ _)
    | some flow =>
        rw [isNext] at split
        obtain ⟨same, restLine⟩ := List.cons.inj split
        obtain ⟨sameTime, sameKind⟩ := Prod.mk.inj same
        exact
          ⟨restLine.symm, pending,
            Or.inr ⟨sameKind.symm, flow, rfl, sameTime.symm⟩⟩

/-- The chain after an event of its client that was not the end. -/
theorem progress
    {launched : Option Flow}
    {delay : Option Nat}
    {next : Nat}
    (inside : client < clients.apps.length)
    (sameFlows : app.flows = flows)
    (atNext : app.currentIdx = next)
    (next_le : next ≤ flows.length)
    (launches :
      clients.launchesOf client ++
          launched.toList.map (fun flow => (flow, clients.agenda.now)) =
        (flows.take next).map fun flow => (flow, due flow))
    (chainLine : clients.agenda.line (chainOf client) = [])
    (stopLine : clients.agenda.line (stopOf client) = [(stopTime, ())])
    (continues :
      delay.toList.map (fun delay => (clients.agenda.now + delay, true)) =
        flows[next]?.toList.map fun flow => (due flow, true)) :
    Chain stopTime flows (clients.progress client app launched delay)
      client next where
  member := ⟨app, List.getElem?_set_self inside, sameFlows, atNext⟩
  launched := Clients.launchesOf_progress.trans launches
  count_le := next_le
  line := by
    apply Or.inr
    rw [Clients.line_progress, chainLine]
    exact continues
  stop := Or.inl (Clients.stopLine_progress.trans stopLine)

/-- A client that starts. -/
theorem start
    (chain : Chain stopTime flows clients client count)
    (ready : Ready stopTime flows)
    (taken : clients.agenda.Taken entry earlier later rest)
    (isStart : entry.event = .startApplication client) :
    ∃ old app launched delay,
      Progresses stopTime flows { clients with agenda := rest }
        (.startApplication client) old app launched delay := by
  have selected : chainOf client entry.event = some false := by
    rw [isStart]
    exact if_pos rfl
  obtain ⟨chainLine, stopLine, ⟨_, rfl, now⟩ | ⟨launches, _⟩⟩ :=
    chain.took taken selected (by rw [isStart]; rfl)
  · obtain ⟨app, found, rfl, atFirst⟩ := chain.member
    obtain ⟨flow, others, shape⟩ :=
      List.exists_cons_of_ne_nil ready.nonempty
    have isFirst : app.flows[0]? = some flow := by
      rw [shape]
      rfl
    have small := ready.small flow (List.mem_of_getElem? isFirst)
    obtain ⟨inside, _⟩ := List.getElem?_eq_some_iff.mp found
    refine
      ⟨app, { app with running := true }, none, some flow.ts.toNat,
        { handled :=
            Clients.startApplication?_eq found atFirst isFirst small
          found := found
          less := Nat.lt_succ_self _
          chain := ⟨0, ?_⟩ }⟩
    have continues :
        [(rest.now + flow.ts.toNat, true)] =
          app.flows[0]?.toList.map fun flow => (due flow, true) := by
      rw [isFirst, now]
      rfl
    exact
      progress inside rfl atFirst (Nat.zero_le _)
        ((List.append_nil _).trans chain.launched) chainLine stopLine
        continues
  · exact absurd launches Bool.false_ne_true

end Chain

/-- A client is about to launch a flow that is due. -/
structure Sending
    (stopTime : Nat)
    (clients : Clients)
    (client : Nat)
    (app : ClientApp)
    (flow : Flow) : Prop where
  found : clients.apps[client]? = some app
  isCurrent : app.flows[app.currentIdx]? = some flow
  now : clients.agenda.now = due flow
  launched :
    clients.launchesOf client =
      (app.flows.take app.currentIdx).map fun flow => (flow, due flow)
  chainLine : clients.agenda.line (chainOf client) = []
  stopLine : clients.agenda.line (stopOf client) = [(stopTime, ())]

namespace Sending

variable {flow : Flow}

/-- The flow is launched when it is due. -/
theorem launches (sending : Sending stopTime clients client app flow) :
    clients.launchesOf client ++ [(flow, clients.agenda.now)] =
      (app.flows.take (app.currentIdx + 1)).map
        fun flow => (flow, due flow) := by
  rw [List.take_add_one, sending.isCurrent, List.map_append,
    ← sending.launched, sending.now]
  rfl

/-- The last flow. -/
theorem last
    (sending : Sending stopTime clients client app flow)
    (noNext : app.flows[app.currentIdx + 1]? = none) :
    Progresses stopTime app.flows clients (.sendPacket client) app
      { app with currentIdx := app.currentIdx + 1 } (some flow) none := by
  obtain ⟨inside, _⟩ := List.getElem?_eq_some_iff.mp sending.found
  obtain ⟨inFlows, _⟩ := List.getElem?_eq_some_iff.mp sending.isCurrent
  have continues :
      ([] : List (Nat × Bool)) =
        app.flows[app.currentIdx + 1]?.toList.map
          fun flow => (due flow, true) := by
    rw [noNext]
    rfl
  refine
    { handled :=
        Clients.sendPacket?_last sending.found sending.isCurrent noNext
      found := sending.found
      less := ?_
      chain :=
        ⟨app.currentIdx + 1,
          Chain.progress inside rfl rfl inFlows sending.launches
            sending.chainLine sending.stopLine continues⟩ }
  unfold left
  dsimp only [Option.toList_none, List.length_nil, weight]
  omega

/-- A flow after which another one is scheduled. -/
theorem more
    {next : Flow}
    (sending : Sending stopTime clients client app flow)
    (ready : Ready stopTime app.flows)
    (isNext : app.flows[app.currentIdx + 1]? = some next) :
    Progresses stopTime app.flows clients (.sendPacket client) app
      { app with currentIdx := app.currentIdx + 1 } (some flow)
      (some (next.ts.toNat - flow.ts.toNat)) := by
  obtain ⟨inside, _⟩ := List.getElem?_eq_some_iff.mp sending.found
  obtain ⟨inFlows, atCurrent⟩ :=
    List.getElem?_eq_some_iff.mp sending.isCurrent
  obtain ⟨nextInside, atNext⟩ := List.getElem?_eq_some_iff.mp isNext
  have small := ready.small next (List.mem_of_getElem? isNext)
  have inOrder : flow.ts ≤ next.ts := by
    rw [← atCurrent, ← atNext]
    exact
      List.pairwise_iff_getElem.mp ready.sorted _ _ inFlows nextInside
        (Nat.lt_succ_self _)
  have sum :
      clients.agenda.now + (next.ts.toNat - flow.ts.toNat) = due next := by
    have le := UInt64.le_iff_toNat_le.mp inOrder
    rw [sending.now]
    unfold due
    omega
  have continues :
      [(clients.agenda.now + (next.ts.toNat - flow.ts.toNat), true)] =
        app.flows[app.currentIdx + 1]?.toList.map
          fun flow => (due flow, true) := by
    rw [isNext, sum]
    rfl
  refine
    { handled :=
        Clients.sendPacket?_next sending.found sending.isCurrent isNext
          inOrder small
      found := sending.found
      less := ?_
      chain :=
        ⟨app.currentIdx + 1,
          Chain.progress inside rfl rfl inFlows sending.launches
            sending.chainLine sending.stopLine continues⟩ }
  unfold left
  dsimp only [Option.toList_some, List.length_singleton, weight]
  omega

end Sending

namespace Chain

/-- A client that launches a flow. -/
theorem send
    (chain : Chain stopTime flows clients client count)
    (ready : Ready stopTime flows)
    (taken : clients.agenda.Taken entry earlier later rest)
    (isSend : entry.event = .sendPacket client) :
    ∃ old app launched delay,
      Progresses stopTime flows { clients with agenda := rest }
        (.sendPacket client) old app launched delay := by
  have selected : chainOf client entry.event = some true := by
    rw [isSend]
    exact if_pos rfl
  obtain ⟨chainLine, stopLine, ⟨starts, _⟩ | ⟨_, flow, isCurrent, now⟩⟩ :=
    chain.took taken selected (by rw [isSend]; rfl)
  · exact absurd starts.symm Bool.false_ne_true
  · obtain ⟨app, found, rfl, rfl⟩ := chain.member
    have sending :
        Sending stopTime { clients with agenda := rest } client app flow :=
      { found := found
        isCurrent := isCurrent
        now := now
        launched := chain.launched
        chainLine := chainLine
        stopLine := stopLine }
    cases isNext : app.flows[app.currentIdx + 1]? with
    | none => exact ⟨_, _, _, _, sending.last isNext⟩
    | some next => exact ⟨_, _, _, _, sending.more ready isNext⟩

/-- A chain without an event has come to its end. -/
theorem count_eq
    (chain : Chain stopTime flows clients client count)
    (finished : clients.agenda.line (chainOf client) = []) :
    count = flows.length := by
  rcases chain.line with ⟨waits, _⟩ | continues
  · rw [finished] at waits
    exact absurd waits.symm (List.cons_ne_nil _ _)
  · rw [finished] at continues
    cases isNext : flows[count]? with
    | none =>
        exact
          Nat.le_antisymm chain.count_le
            (List.getElem?_eq_none_iff.mp isNext)
    | some flow =>
        rw [isNext] at continues
        exact absurd continues.symm (List.cons_ne_nil _ _)

/-- Nothing of a chain is as late as the stop time. -/
theorem finished
    (chain : Chain stopTime flows clients client count)
    (ready : Ready stopTime flows)
    (late : clients.agenda.NoneBefore stopTime) :
    clients.agenda.line (chainOf client) = [] := by
  rw [List.eq_nil_iff_forall_not_mem]
  intro picked member
  obtain ⟨pending, inside, sameTime, _⟩ := Agenda.exists_of_mem_line member
  have stop_le := late pending inside
  rw [sameTime] at stop_le
  rcases chain.line with ⟨waits, _⟩ | continues
  · rw [waits] at member
    rw [List.mem_singleton.mp member] at stop_le
    obtain ⟨flow, inFlows⟩ := List.exists_mem_of_ne_nil _ ready.nonempty
    have soon := ready.before flow inFlows
    exact
      absurd stop_le
        (Nat.not_le.mpr (Nat.lt_of_le_of_lt (Nat.le_add_right _ _) soon))
  · rw [continues] at member
    obtain ⟨flow, isNext, rfl⟩ := List.mem_map.mp member
    have soon :=
      ready.before flow (List.mem_of_getElem? (Option.mem_toList.mp isNext))
    exact absurd stop_le (Nat.not_le.mpr soon)

/-- The end of a client is at the stop time. -/
theorem tookStop
    (chain : Chain stopTime flows clients client count)
    (taken : clients.agenda.Taken entry earlier later rest)
    (selected : stopOf client entry.event = some ()) :
    entry.time = stopTime ∧ rest.line (stopOf client) = [] := by
  have pairwise :
      (clients.agenda.line (stopOf client)).Pairwise
        fun first second => first.1 < second.1 := by
    rcases chain.stop with pending | ⟨_, finished⟩
    · rw [pending]
      exact List.pairwise_singleton _ _
    · rw [finished]
      exact List.Pairwise.nil
  have split := taken.line_of_some selected pairwise
  rcases chain.stop with pending | ⟨_, finished⟩
  · rw [pending] at split
    obtain ⟨same, restLine⟩ := List.cons.inj split
    exact ⟨(congrArg Prod.fst same).symm, restLine.symm⟩
  · rw [finished] at split
    exact absurd split.symm (List.cons_ne_nil _ _)

/-- A client that stops has launched everything. -/
theorem stopped
    (chain : Chain stopTime flows clients client count)
    (ready : Ready stopTime flows)
    (taken : clients.agenda.Taken entry earlier later rest)
    (isStop : entry.event = .stopApplication client) :
    ∃ old app launched delay,
      Progresses stopTime flows { clients with agenda := rest }
        (.stopApplication client) old app launched delay := by
  have selected : stopOf client entry.event = some () := by
    rw [isStop]
    exact if_pos rfl
  obtain ⟨atStop, stopLine⟩ := chain.tookStop taken selected
  have late := taken.earliest
  rw [atStop] at late
  have finished := chain.finished ready late
  have all := chain.count_eq finished
  have restChain : rest.line (chainOf client) = [] :=
    (taken.line_of_none (by rw [isStop]; rfl)).trans finished
  obtain ⟨app, found, rfl, atEnd⟩ := chain.member
  obtain ⟨inside, _⟩ := List.getElem?_eq_some_iff.mp found
  have noneToCome := Agenda.select_eq_none_of_line restChain
  refine
    ⟨app, { app with running := false }, none, none,
      { handled := Clients.stopApplication?_eq found noneToCome
        found := found
        less := Nat.lt_succ_self _
        chain := ⟨count, ?_⟩ }⟩
  have chainLine :
      (Clients.progress { clients with agenda := rest } client
          { app with running := false } none none).agenda.line
          (chainOf client) =
        [] := by
    rw [Clients.line_progress]
    exact (List.append_nil _).trans restChain
  refine
    { member := ⟨_, List.getElem?_set_self inside, rfl, atEnd⟩
      launched := ?_
      count_le := chain.count_le
      line := Or.inr ?_
      stop := Or.inr ⟨chainLine, ?_⟩ }
  · rw [Clients.launchesOf_progress]
    exact (List.append_nil _).trans chain.launched
  · rw [all, List.getElem?_length]
    exact chainLine
  · exact Clients.stopLine_progress.trans stopLine

end Chain

/-- An event of a client does what its chain says. -/
theorem Chain.progresses
    (chain : Chain stopTime flows clients entry.event.client count)
    (ready : Ready stopTime flows)
    (taken : clients.agenda.Taken entry earlier later rest) :
    ∃ old app launched delay,
      Progresses stopTime flows { clients with agenda := rest } entry.event
        old app launched delay := by
  cases isEvent : entry.event with
  | startApplication client =>
      rw [isEvent] at chain
      exact chain.start ready taken isEvent
  | sendPacket client =>
      rw [isEvent] at chain
      exact chain.send ready taken isEvent
  | stopApplication client =>
      rw [isEvent] at chain
      exact chain.stopped ready taken isEvent

end Taking

/-! ## All clients -/

/-- Changing one summand changes the sum by as much. -/
theorem sum_map_set
    {apps : List ClientApp}
    {old : ClientApp}
    (measure : ClientApp → Nat)
    (found : apps[client]? = some old)
    (new : ClientApp) :
    ((apps.set client new).map measure).sum + measure old =
      (apps.map measure).sum + measure new := by
  induction apps generalizing client with
  | nil => exact absurd found.symm (Option.some_ne_none old)
  | cons first rest inductionHypothesis =>
      cases client with
      | zero =>
          obtain rfl := Option.some.inj found
          rw [List.set_cons_zero, List.map_cons, List.sum_cons, List.map_cons,
            List.sum_cons]
          omega
      | succ client =>
          have sums := inductionHypothesis found
          rw [List.set_cons_succ, List.map_cons, List.sum_cons,
            List.map_cons, List.sum_cons]
          omega

namespace Clients

/-- What is still to be done. -/
def remaining (clients : Clients) : Nat :=
  (clients.apps.map left).sum + clients.agenda.weigh weight

theorem remaining_progress
    {old : ClientApp}
    {launched : Option Flow}
    {delay : Option Nat}
    (found : clients.apps[client]? = some old) :
    (clients.progress client app launched delay).remaining + left old =
      clients.remaining + (left app + delay.toList.length) := by
  have sums := sum_map_set left found app
  unfold remaining progress
  dsimp only
  rw [Agenda.weigh_schedule]
  cases delay with
  | none =>
      rw [Option.toList_none, List.map_nil, List.map_nil, List.sum_nil,
        List.length_nil]
      omega
  | some delay =>
      have one :
          (([(delay, Event.sendPacket client)] : List (Nat × Event)).map
            fun entry => weight entry.2).sum = 1 :=
        rfl
      rw [Option.toList_some, List.map_singleton, one,
        List.length_singleton]
      omega

end Clients

theorem Progresses.remaining_lt
    {old : ClientApp}
    {launched : Option Flow}
    {delay : Option Nat}
    (progresses :
      Progresses stopTime flows clients event old app launched delay) :
    (clients.progress event.client app launched delay).remaining <
      clients.remaining + weight event := by
  have counted :
      (clients.progress event.client app launched delay).remaining +
          left old =
        clients.remaining + (left app + delay.toList.length) :=
    Clients.remaining_progress progresses.found
  have less := progresses.less
  omega

/-- Every client is where its chain says, and nothing was cancelled. -/
structure OnTime
    (stopTime : Nat)
    (installed : List ClientApp)
    (clients : Clients) : Prop where
  timed : clients.agenda.WellTimed
  chains :
    ∀ client app, installed[client]? = some app →
      ∃ count, Chain stopTime app.flows clients client count
  events :
    clients.agenda.Every fun event => event.client < installed.length
  launches :
    ∀ launch ∈ clients.launches, launch.client < installed.length
  cancelled : clients.cancelled = 0

variable {installed : List ClientApp}

namespace OnTime

/-- Time passes. -/
theorem pass
    {agenda : Agenda Event}
    {time : Nat}
    (onTime : OnTime stopTime installed clients)
    (advanced : clients.agenda.advance? time = some agenda) :
    OnTime stopTime installed { clients with agenda := agenda } := by
  obtain ⟨timed, _, samePending⟩ := Agenda.wellTimed_of_advance? advanced
  refine
    { timed := timed
      chains := fun client app isApp => ?_
      events := fun entry member => ?_
      launches := onTime.launches
      cancelled := onTime.cancelled }
  · obtain ⟨count, chain⟩ := onTime.chains client app isApp
    exact
      ⟨count,
        chain.congr
          { app := rfl
            launches := rfl
            chain := Agenda.line_congr samePending
            stop := Agenda.line_congr samePending }⟩
  · apply onTime.events entry
    rw [← samePending]
    exact member

/-- An event of a client happens. -/
theorem run
    {position : Nat}
    {event : Event}
    {rest : Agenda Event}
    (onTime : OnTime stopTime installed clients)
    (ready : ∀ app ∈ installed, Ready stopTime app.flows)
    (took : clients.agenda.take? position = some (event, rest)) :
    ∃ next,
      Clients.handle? { clients with agenda := rest } event = some next ∧
        OnTime stopTime installed next ∧
        next.remaining < clients.remaining := by
  obtain ⟨entry, earlier, later, rfl, taken⟩ :=
    Agenda.taken_of_take? took
  obtain ⟨inside, restEvents⟩ := taken.every onTime.events
  have isApp := List.getElem?_eq_getElem inside
  have readyHere := ready _ (List.getElem_mem inside)
  obtain ⟨count, chain⟩ := onTime.chains _ _ isApp
  obtain ⟨old, app, launched, delay, progresses⟩ :=
    chain.progresses readyHere taken
  refine ⟨_, progresses.handled, ?_, ?_⟩
  · refine
      { timed := taken.wellTimed.schedule _
        chains := fun client other isOther => ?_
        events := restEvents.schedule fun scheduled member => ?_
        launches := fun launch member => ?_
        cancelled := onTime.cancelled }
    · by_cases same : entry.event.client = client
      · subst same
        obtain rfl := Option.some.inj (isApp.symm.trans isOther)
        exact progresses.chain
      · obtain ⟨otherCount, otherChain⟩ :=
          onTime.chains client other isOther
        exact
          ⟨otherCount,
            otherChain.congr
              ((sameFor_taken taken same).trans (sameFor_progress same))⟩
    · obtain ⟨_, _, rfl⟩ := List.mem_map.mp member
      exact inside
    · rcases List.mem_append.mp member with old | new
      · exact onTime.launches launch old
      · obtain ⟨_, _, rfl⟩ := List.mem_map.mp new
        exact inside
  · have less := progresses.remaining_lt
    have weighed := taken.weigh weight
    unfold Clients.remaining at less ⊢
    rw [weighed, ← Nat.add_assoc]
    exact less

/-- A step of the simulation. -/
theorem step
    {action : Action}
    {next : Clients}
    (onTime : OnTime stopTime installed clients)
    (ready : ∀ app ∈ installed, Ready stopTime app.flows)
    (stepped : simulation.step clients action = some next) :
    OnTime stopTime installed next ∧
      next.remaining + (if action.isRun then 1 else 0) ≤
        clients.remaining := by
  cases action with
  | pass time =>
      obtain ⟨agenda, advanced, rfl⟩ := Option.map_eq_some_iff.mp stepped
      obtain ⟨_, _, samePending⟩ := Agenda.wellTimed_of_advance? advanced
      refine ⟨onTime.pass advanced, ?_⟩
      unfold Clients.remaining Agenda.weigh
      rw [samePending]
      exact Nat.le_refl _
  | run position =>
      obtain ⟨⟨event, rest⟩, took, handled⟩ :=
        Option.bind_eq_some_iff.mp stepped
      obtain ⟨result, isResult, onTimeResult, less⟩ := onTime.run ready took
      obtain rfl := Option.some.inj (isResult.symm.trans handled)
      exact ⟨onTimeResult, less⟩

end OnTime

/-! ## From the start -/

/-- The events that are scheduled first. -/
def firstEvents (stopTime client : Nat) : List (Nat × Event) :=
  [(startTime, .startApplication client), (stopTime, .stopApplication client)]

/-- What is scheduled first for a client. -/
theorem line_setup
    {Value : Type}
    (select : Event → Option Value)
    {count : Nat}
    (small : client < count)
    (others : ∀ event, event.client ≠ client → select event = none) :
    (Agenda.empty.schedule
        ((List.range count).flatMap (firstEvents stopTime))).line select =
      (firstEvents stopTime client).filterMap fun entry =>
        (select entry.2).map fun value => (0 + entry.1, value) := by
  rw [Agenda.line_schedule, List.filterMap_flatMap]
  apply (List.nil_append _).trans
  apply flatMap_range_eq_single small
  intro other _ different
  apply List.filterMap_eq_nil_iff.mpr
  intro entry member
  have outside : select entry.2 = none := by
    apply others
    rcases List.mem_cons.mp member with isStart | isStop
    · rw [isStart]
      exact different
    · rw [List.mem_singleton.mp isStop]
      exact different
  rw [outside]
  rfl

/-- The clients before anything happens. -/
theorem onTime_setup
    {time : Int}
    {start : Clients}
    (fresh : ∀ app ∈ installed, app.currentIdx = 0)
    (isStart : Clients.setup? installed time = some start) :
    OnTime time.toNat installed start := by
  unfold Clients.setup? at isStart
  split at isStart
  next => exact absurd isStart (Option.some_ne_none start).symm
  next =>
    obtain rfl := Option.some.inj isStart
    refine
      { timed := fun entry member => Nat.zero_le _
        chains := fun client app isApp => ⟨0, ?_⟩
        events := ?_
        launches := fun launch member => absurd member List.not_mem_nil
        cancelled := rfl }
    · obtain ⟨inside, _⟩ := List.getElem?_eq_some_iff.mp isApp
      have atFirst := fresh app (List.mem_of_getElem? isApp)
      have isStart :
          chainOf client (.startApplication client) = some false :=
        if_pos rfl
      have isStop : stopOf client (.stopApplication client) = some () :=
        if_pos rfl
      refine
        { member := ⟨app, isApp, rfl, atFirst⟩
          launched := rfl
          count_le := Nat.zero_le _
          line := Or.inl ⟨?_, rfl⟩
          stop := Or.inl ?_ }
      · apply
          (line_setup (chainOf client) inside
            fun event => chainOf_of_ne).trans
        unfold firstEvents
        rw [List.filterMap_cons, isStart]
        rfl
      · apply
          (line_setup (stopOf client) inside fun event => stopOf_of_ne).trans
        unfold firstEvents
        rw [List.filterMap_cons, List.filterMap_cons, isStop]
        exact congrArg (fun time => [(time, ())]) (Nat.zero_add _)
    · intro entry member
      obtain ⟨scheduled, inFirst, rfl⟩ := List.mem_map.mp member
      obtain ⟨client, inRange, isFirst⟩ := List.mem_flatMap.mp inFirst
      have inside := List.mem_range.mp inRange
      rcases List.mem_cons.mp isFirst with isStart | isStop
      · rw [isStart]
        exact inside
      · rw [List.mem_singleton.mp isStop]
        exact inside

/-- Everything stays on time in every run. -/
theorem onTime_of_reachable
    {start : Clients}
    (ready : ∀ app ∈ installed, Ready stopTime app.flows)
    (atStart : OnTime stopTime installed start)
    (reachable : simulation.Reachable (fun _ _ => True) start clients) :
    OnTime stopTime installed clients := by
  apply reachable.invariant (OnTime stopTime installed) atStart
  intro clients action next onTime _ stepped
  exact (onTime.step ready stepped).1

/-- The clients launch their flows, each at its time. -/
structure LaunchesOnTime
    (installed : List ClientApp)
    (clients : Clients) : Prop where
  launched :
    ∀ client app, installed[client]? = some app →
      ∃ count ≤ app.flows.length,
        clients.launchesOf client =
            (app.flows.take count).map
              (fun flow => (flow, startTime + flow.ts.toNat)) ∧
          ∀ index flow, app.flows[index]? = some flow →
            startTime + flow.ts.toNat < clients.agenda.now →
              index < count
  complete :
    clients.agenda.pending = [] →
      ∀ client app, installed[client]? = some app →
        clients.launchesOf client =
          app.flows.map fun flow => (flow, startTime + flow.ts.toNat)
  noOthers :
    ∀ launch ∈ clients.launches, launch.client < installed.length
  succeeds :
    ∀ position, (clients.agenda.take? position).isSome →
      (simulation.step clients (.run position)).isSome
  goesOn :
    clients.agenda.pending ≠ [] →
      ∃ position, (clients.agenda.take? position).isSome
  ends :
    ∀ actions final, simulation.run? clients actions = some final →
      actions.countP Action.isRun ≤ clients.remaining
  notCancelled : clients.cancelled = 0

/-- What is due has been launched. -/
theorem Chain.launched_of_due
    (chain : Chain stopTime flows clients client count)
    (ready : Ready stopTime flows)
    (timed : clients.agenda.WellTimed)
    {index : Nat}
    {flow : Flow}
    (isFlow : flows[index]? = some flow)
    (isDue : due flow < clients.agenda.now) :
    index < count := by
  by_contra notLaunched
  have count_le := Nat.le_of_not_lt notLaunched
  obtain ⟨inside, atIndex⟩ := List.getElem?_eq_some_iff.mp isFlow
  have nextInside := Nat.lt_of_le_of_lt count_le inside
  have isNext := List.getElem?_eq_getElem nextInside
  -- The next event of the chain is no later than the flow.
  have soon :
      ∃ picked ∈ clients.agenda.line (chainOf client),
        picked.1 ≤ due flow := by
    rcases chain.line with ⟨waits, _⟩ | continues
    · rw [waits]
      exact
        ⟨_, List.mem_singleton.mpr rfl, Nat.le_add_right startTime _⟩
    · rw [continues, isNext]
      refine ⟨_, List.mem_singleton.mpr rfl, ?_⟩
      apply Nat.add_le_add_left
      rcases Nat.lt_or_eq_of_le count_le with earlier | same
      · have inOrder :=
          List.pairwise_iff_getElem.mp ready.sorted _ _ nextInside inside
            earlier
        rw [atIndex] at inOrder
        exact UInt64.le_iff_toNat_le.mp inOrder
      · subst same
        rw [atIndex]
  obtain ⟨picked, member, le_due⟩ := soon
  obtain ⟨entry, pending, sameTime, _⟩ := Agenda.exists_of_mem_line member
  have now_le := timed entry pending
  omega

theorem OnTime.launchesOnTime
    (onTime : OnTime stopTime installed clients)
    (ready : ∀ app ∈ installed, Ready stopTime app.flows) :
    LaunchesOnTime installed clients where
  launched := by
    intro client app isApp
    have readyHere := ready app (List.mem_of_getElem? isApp)
    obtain ⟨count, chain⟩ := onTime.chains client app isApp
    exact
      ⟨count, chain.count_le, chain.launched, fun index flow isFlow isDue =>
        chain.launched_of_due readyHere onTime.timed isFlow isDue⟩
  complete := by
    intro nothing client app isApp
    obtain ⟨count, chain⟩ := onTime.chains client app isApp
    have finished : clients.agenda.line (chainOf client) = [] := by
      unfold Agenda.line
      rw [nothing]
      rfl
    have launched := chain.launched
    rw [chain.count_eq finished, List.take_length] at launched
    exact launched
  noOthers := onTime.launches
  succeeds := by
    intro position possible
    obtain ⟨⟨event, rest⟩, took⟩ := Option.isSome_iff_exists.mp possible
    obtain ⟨next, handled, _⟩ := onTime.run ready took
    apply Option.isSome_iff_exists.mpr
    exact ⟨next, (congrArg (Option.bind · _) took).trans handled⟩
  goesOn := by
    intro toCome
    obtain ⟨position, event, next, took⟩ := Agenda.exists_take? toCome
    exact ⟨position, Option.isSome_iff_exists.mpr ⟨_, took⟩⟩
  ends := by
    intro actions final ran
    have bound :=
      TransitionSystem.countP_of_run? Action.isRun
        (OnTime stopTime installed) Clients.remaining
        (fun holds stepped => holds.step ready stepped) onTime ran
    exact Nat.le_trans (Nat.le_add_right _ _) bound
  notCancelled := onTime.cancelled

/-! ## From the trace -/

variable
  {containerGroups : ContainerGroups}
  {lines : List TraceLine}
  {sort : List Flow → List Flow}
  {parsed : ParsedTrace}

/-- The clients for a trace that has been parsed. -/
def clientsFor
    (containerGroups : ContainerGroups)
    (sort : List Flow → List Flow)
    (parsed : ParsedTrace) :
    List ClientApp :=
  clientApps containerGroups
    (calculateDestinations sort parsed).containerToFlows

/-- The flows of a client leave time to launch them. -/
theorem ready_of_serves
    {containerToId : String → Option UInt32}
    (inRange : InRange lines)
    (isParsed : Parsed containerToId lines parsed)
    (nonempty : app.flows ≠ [])
    (sorted :
      app.flows.Pairwise fun first second => first.ts ≤ second.ts)
    (perm :
      app.flows.Perm (flowsOf containerToId lines app.containerId)) :
    Ready parsed.stopTime.toNat app.flows := by
  have onLine :
      ∀ flow ∈ app.flows, ∃ line ∈ lines, flow.ts = line.ts := by
    intro flow member
    obtain ⟨line, inLines, isFlow⟩ :=
      List.mem_filterMap.mp (perm.mem_iff.mp member)
    split at isFlow
    next =>
      obtain ⟨_, _, rfl⟩ := Option.map_eq_some_iff.mp isFlow
      exact ⟨line, inLines, rfl⟩
    next => exact absurd isFlow (Option.some_ne_none flow).symm
  refine
    { nonempty := nonempty
      sorted := sorted
      small := fun flow member => ?_
      before := fun flow member => ?_ }
  · obtain ⟨line, inLines, sameTime⟩ := onLine flow member
    have bound := inRange line inLines
    rw [sameTime]
    omega
  · obtain ⟨line, inLines, sameTime⟩ := onLine flow member
    have bound := isParsed.lt_stopTime line inLines
    unfold due startTime
    rw [sameTime]
    omega

/--
The clients of a trace with room for the times launch every flow of their
containers once, each at its time.
-/
theorem launchesOnTime_of_parseTrace?
    (sorts : Sorts sort)
    (inRange : InRange lines)
    (read :
      parseTrace? (SimulationBase.assignIds containerGroups).containerToId
          lines =
        some parsed) :
    Serves containerGroups lines
        (clientsFor containerGroups sort parsed) ∧
      (∀ app ∈ clientsFor containerGroups sort parsed, ∀ index last next,
        app.flows[index]? = some last →
          app.flows[index + 1]? = some next →
            ((next.ts - last.ts).toNat : Int) =
              next.ts.toNat - last.ts.toNat) ∧
      ∃ start,
        Clients.setup? (clientsFor containerGroups sort parsed)
            parsed.stopTime =
          some start ∧
        ∀ clients, simulation.Reachable (fun _ _ => True) start clients →
          LaunchesOnTime (clientsFor containerGroups sort parsed)
            clients := by
  have isParsed := parsed_of_parseTrace? inRange read
  have serves :
      Serves containerGroups lines
        (clientsFor containerGroups sort parsed) :=
    serves_of_gathers sorts isParsed.gathers
  have ready :
      ∀ app ∈ clientsFor containerGroups sort parsed,
        Ready parsed.stopTime.toNat app.flows := by
    intro app installed
    exact
      ready_of_serves inRange isParsed (serves.nonempty app installed)
        (serves.sorted app installed) (serves.flows app installed)
  refine ⟨serves, ?_, ?_⟩
  · intro app installed index last next isLast isNext
    obtain ⟨lastInside, atLast⟩ := List.getElem?_eq_some_iff.mp isLast
    obtain ⟨nextInside, atNext⟩ := List.getElem?_eq_some_iff.mp isNext
    have inOrder :=
      List.pairwise_iff_getElem.mp (serves.sorted app installed) _ _
        lastInside nextInside (Nat.lt_succ_self index)
    rw [atLast, atNext] at inOrder
    rw [UInt64.toNat_sub_of_le _ _ inOrder]
    exact Int.ofNat_sub (UInt64.le_iff_toNat_le.mp inOrder)
  · have stop_pos := isParsed.stopTime_pos
    obtain ⟨start, isStart⟩ :
        ∃ start,
          Clients.setup? (clientsFor containerGroups sort parsed)
              parsed.stopTime =
            some start :=
      ⟨_, if_neg (Int.not_lt.mpr (Int.le_of_lt stop_pos))⟩
    refine ⟨start, isStart, fun clients reachable => ?_⟩
    have atStart := onTime_setup serves.fresh isStart
    exact
      (onTime_of_reachable ready atStart reachable).launchesOnTime ready

/-! ## Three traces -/

/-- The order by `ts`. -/
def NoLater (first second : Flow) : Prop :=
  first.ts ≤ second.ts

instance (first second : Flow) : Decidable (NoLater first second) :=
  inferInstanceAs (Decidable (first.ts ≤ second.ts))

instance : Std.Total NoLater where
  total := fun first second => UInt64.le_total first.ts second.ts

instance : IsTrans Flow NoLater where
  trans := fun _ _ _ => UInt64.le_trans

/-- One way to sort flows. -/
def sortByTime (flows : List Flow) : List Flow :=
  flows.insertionSort NoLater

theorem sorts_sortByTime : Sorts sortByTime where
  perm := List.perm_insertionSort NoLater
  sorted := List.pairwise_insertionSort NoLater

/-- Two containers on two hosts. -/
def twoContainers : ContainerGroups :=
  [[["a"], ["b"]]]

/-- Three flows, two of them at the same time. -/
def threeFlows : List TraceLine :=
  [{ umContainer := "a", dmContainer := "b", ts := 7, flowId := 1, size := 9 },
    { umContainer := "b", dmContainer := "a", ts := 3, flowId := 2, size := 9 },
    { umContainer := "a", dmContainer := "b", ts := 3, flowId := 3, size := 9 }]

theorem launchesOnTime_threeFlows :
    ∃ parsed,
      parseTrace? (SimulationBase.assignIds twoContainers).containerToId
          threeFlows =
        some parsed ∧
      ∃ start,
        Clients.setup? (clientsFor twoContainers sortByTime parsed)
            parsed.stopTime =
          some start ∧
        ∀ clients, simulation.Reachable (fun _ _ => True) start clients →
          LaunchesOnTime (clientsFor twoContainers sortByTime parsed)
            clients := by
  have accepted :
      (parseTrace? (SimulationBase.assignIds twoContainers).containerToId
        threeFlows).isSome := by
    decide
  obtain ⟨parsed, read⟩ := Option.isSome_iff_exists.mp accepted
  have inRange : InRange threeFlows := by
    unfold InRange
    decide
  exact
    ⟨parsed, read,
      (launchesOnTime_of_parseTrace? sorts_sortByTime inRange read).2.2⟩

/-- A gateway that sends a flow. -/
def fromGateway : List TraceLine :=
  [{ umContainer := "Gateway0", dmContainer := "Gateway0", ts := 5
     flowId := 1, size := 9 }]

/-- A flow at a time that the simulator takes for a negative one. -/
def tooLate : List TraceLine :=
  [{ umContainer := "a", dmContainer := "b", ts := 9223372036854775808
     flowId := 1, size := 9 }]

/-- The clients of the late flow before anything happens. -/
def tooLateStart : Clients where
  agenda :=
    { now := 0
      pending :=
        [{ time := 0, event := .startApplication 0 },
          { time := 60000000000, event := .stopApplication 0 }] }
  apps :=
    [{ containerId := 0
       flows :=
        [{ ts := 9223372036854775808, dst := 1, flowId := 1, size := 9 }]
       currentIdx := 0
       running := false }]
  launches := []
  cancelled := 0

/-- A gateway has no client. -/
theorem clientsFor_gateway :
    clientsFor [[["Gateway0"]]] sort parsed = [] := by
  have isGateway : SimulationBase.namesGateway "Gateway0" = true := by
    decide
  have noClient :
      clientFor? (SimulationBase.assignIds [[["Gateway0"]]]).containerToId
          (calculateDestinations sort parsed).containerToFlows "Gateway0" =
        none :=
    if_pos isGateway
  unfold clientsFor clientApps
  rw [List.flatMap_singleton, List.flatMap_singleton,
    List.filterMap_cons_none noClient]
  rfl

/-- Without clients nothing is launched. -/
theorem launches_of_noClients
    {start : Clients}
    (atStart : OnTime stopTime [] start)
    (reachable : simulation.Reachable (fun _ _ => True) start clients) :
    clients.launches = [] := by
  have ready : ∀ app ∈ ([] : List ClientApp), Ready stopTime app.flows :=
    fun app member => absurd member List.not_mem_nil
  have onTime := onTime_of_reachable ready atStart reachable
  rw [List.eq_nil_iff_forall_not_mem]
  exact fun launch member =>
    absurd (onTime.launches launch member) (Nat.not_lt_zero _)

/-- The start is the only event that can be taken. -/
theorem take_tooLate
    {position : Nat}
    {event : Event}
    {rest : Agenda Event}
    (pending : clients.agenda.pending = tooLateStart.agenda.pending)
    (took : clients.agenda.take? position = some (event, rest)) :
    event = .startApplication 0 := by
  obtain ⟨entry, earlier, later, rfl, taken⟩ := Agenda.taken_of_take? took
  have member : entry ∈ tooLateStart.agenda.pending := by
    rw [← pending, taken.pending]
    exact List.mem_append_right _ List.mem_cons_self
  rcases List.mem_cons.mp member with isFirst | isSecond
  · rw [isFirst]
  · have early :=
      taken.earliest { time := 0, event := .startApplication 0 }
        (by rw [pending]; exact List.mem_cons_self)
    rw [List.mem_singleton.mp isSecond] at early
    exact absurd early (by decide)

/-- The late client cannot start. -/
theorem startApplication?_tooLate
    (apps : clients.apps = tooLateStart.apps) :
    clients.startApplication? 0 = none := by
  have found :
      clients.apps[0]? =
        some
          { containerId := 0
            flows :=
              [{ ts := 9223372036854775808, dst := 1, flowId := 1, size := 9 }]
            currentIdx := 0
            running := false } := by
    rw [apps]
    rfl
  exact Clients.startApplication?_eq_none found rfl rfl (by decide)

theorem launches_of_tooLate
    (reachable :
      simulation.Reachable (fun _ _ => True) tooLateStart clients) :
    clients.launches = [] := by
  have stuck :
      clients.agenda.pending = tooLateStart.agenda.pending ∧
        clients.apps = tooLateStart.apps ∧ clients.launches = [] := by
    apply
      reachable.invariant fun clients =>
        clients.agenda.pending = tooLateStart.agenda.pending ∧
          clients.apps = tooLateStart.apps ∧ clients.launches = []
    · exact ⟨rfl, rfl, rfl⟩
    · rintro clients action next ⟨pending, apps, nothing⟩ _ stepped
      cases action with
      | pass time =>
          obtain ⟨agenda, advanced, rfl⟩ :=
            Option.map_eq_some_iff.mp stepped
          obtain ⟨_, _, samePending⟩ :=
            Agenda.wellTimed_of_advance? advanced
          exact ⟨samePending.trans pending, apps, nothing⟩
      | run position =>
          obtain ⟨⟨event, rest⟩, took, handled⟩ :=
            Option.bind_eq_some_iff.mp stepped
          obtain rfl := take_tooLate pending took
          have fails :
              Clients.startApplication? { clients with agenda := rest } 0 =
                none :=
            startApplication?_tooLate apps
          exact
            absurd (fails.symm.trans handled)
              (Option.some_ne_none next).symm
  exact stuck.2.2

/--
A flow of a gateway is not launched, as `SetupApplications` skips gateways; nor
is a flow at a time beyond 63 bits.
-/
theorem notLaunched_fromGateway_tooLate :
    (∃ parsed start,
      parseTrace? (SimulationBase.assignIds [[["Gateway0"]]]).containerToId
          fromGateway =
        some parsed ∧
      Clients.setup? (clientsFor [[["Gateway0"]]] sortByTime parsed)
          parsed.stopTime =
        some start ∧
      ∀ clients, simulation.Reachable (fun _ _ => True) start clients →
        clients.launches = []) ∧
    ∃ parsed start,
      parseTrace? (SimulationBase.assignIds twoContainers).containerToId
          tooLate =
        some parsed ∧
      Clients.setup? (clientsFor twoContainers sortByTime parsed)
          parsed.stopTime =
        some start ∧
      ∀ clients, simulation.Reachable (fun _ _ => True) start clients →
        clients.launches = [] := by
  constructor
  · have accepted :
        ((parseTrace?
              (SimulationBase.assignIds [[["Gateway0"]]]).containerToId
              fromGateway).map ParsedTrace.stopTime) =
          some 60000000005 := by
      decide
    obtain ⟨parsed, read, isStop⟩ := Option.map_eq_some_iff.mp accepted
    have isSetUp :
        Clients.setup? (clientsFor [[["Gateway0"]]] sortByTime parsed)
            parsed.stopTime =
          some
            { agenda := { now := 0, pending := [] }
              apps := []
              launches := []
              cancelled := 0 } := by
      rw [isStop, clientsFor_gateway]
      rfl
    refine ⟨parsed, _, read, isSetUp, fun clients reachable => ?_⟩
    rw [clientsFor_gateway] at isSetUp
    have atStart :=
      onTime_setup (fun app member => absurd member List.not_mem_nil) isSetUp
    exact launches_of_noClients atStart reachable
  · have isSetUp :
        ((parseTrace?
              (SimulationBase.assignIds twoContainers).containerToId
              tooLate).bind fun parsed =>
            Clients.setup? (clientsFor twoContainers sortByTime parsed)
              parsed.stopTime) =
          some tooLateStart := by
      decide
    obtain ⟨parsed, read, started⟩ := Option.bind_eq_some_iff.mp isSetUp
    exact
      ⟨parsed, tooLateStart, read, started, fun clients reachable =>
        launches_of_tooLate reachable⟩

end ClientApp

end SwitchV2P
