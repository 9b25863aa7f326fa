import SwitchV2P.Packet
import SwitchV2P.SimParameters

namespace SwitchV2P

/-!
# The sending side of a host

`SocketHelper` wraps every packet of a container in an outer header.  A packet
whose inner TTL has already been decremented was delivered to a host that does
not have its container any more; that host marks it and sends it on.
-/

/-- What one host's `SocketHelper` is set up with. -/
structure SocketHelper where
  simParams : SimulationParameters
  migrationParams : MigrationParams
  gatewayAddresses : List Ipv4Address
  gatewayRange : Nat
  /-- `CRC32Calculate` over the four bytes of a flow id. -/
  crc32 : UInt32 → Nat
  physicalAddress : Ipv4Address

/-- The part of a host's state that `VirtualSend` changes. -/
structure HostState where
  onDemandCache : List Ipv4Address
  firstPacket : Bool
  deriving Repr, DecidableEq

/-- The call that `VirtualSend` makes or schedules for a packet. -/
inductive SendCall where
  | sendToGateway (gwIdx : Nat)
  | sendFollowMeRule (misdelivery : Bool)
  deriving Repr, DecidableEq

/-- The outcome of `VirtualSend`; a delay of zero is a direct call. -/
structure Sending where
  state : HostState
  packet : DataPacket
  call : SendCall
  delayMicroseconds : Nat

namespace SocketHelper

variable (helper : SocketHelper)

/-- `GetGatewayIdx`. -/
def getGatewayIdx (packet : DataPacket) : Nat :=
  if helper.simParams.gatewayPerFlowLoadBalancing then
    helper.crc32 packet.flowId % helper.gatewayAddresses.length
  else
    min (packet.inner.destination.toNat / helper.gatewayRange)
      (helper.gatewayAddresses.length - 1)

/-- The address the follow-me rule sends a misdelivered packet to. -/
def followMeAddress : Ipv4Address :=
  IpUtils.getNodePhysicalAddress
    (helper.migrationParams.dstLeaf.toNat / helper.simParams.podWidth)
    (helper.migrationParams.dstLeaf.toNat % helper.simParams.podWidth)
    helper.migrationParams.dstHost.toNat

/-- `m_socket->SendTo`: a fresh outer header from this host. -/
def sendTo
    (packet : DataPacket)
    (destination : Ipv4Address) :
    DataPacket :=
  { packet with
    outer :=
      { source := helper.physicalAddress
        destination := destination
        ttl := 64 } }

/--
Carry out a send call.  There is no result when the gateway index is out of
range.
-/
def perform
    (virtualToPhysical : Ipv4Address → Option Ipv4Address)
    (packet : DataPacket) :
    SendCall → Option DataPacket
  | .sendToGateway gwIdx =>
      (helper.gatewayAddresses[gwIdx]?).map (helper.sendTo packet)
  | .sendFollowMeRule true =>
      some (helper.sendTo packet helper.followMeAddress)
  | .sendFollowMeRule false =>
      some
        (helper.sendTo packet
          ((virtualToPhysical packet.inner.destination).getD 0))

/-- Mark a misdelivered packet and choose how to send it on. -/
def resendMisdelivered
    (state : HostState)
    (packet : DataPacket) :
    Sending :=
  { state := state
    packet :=
      { packet with
        invalidationTag :=
          packet.invalidationTag.add
            (packet.inner.destination, helper.physicalAddress)
        misdeliveries := packet.misdeliveries + 1 }
    call :=
      if packet.hitTag.peek.isSome then
        .sendToGateway (helper.getGatewayIdx packet)
      else
        .sendFollowMeRule true
    delayMicroseconds := 10 }

/-- `VirtualSend`. -/
def virtualSend
    (state : HostState)
    (packet : DataPacket) :
    Sending :=
  let state :=
    if helper.migrationParams.migration ∧
        helper.simParams.simMode = .onDemand then
      { state with
        onDemandCache :=
          IpUtils.getContainerVirtualAddress
            helper.migrationParams.containerId :: state.onDemandCache }
    else
      state
  if packet.inner.ttl < 64 then
    helper.resendMisdelivered state packet
  else if helper.simParams.simMode = .direct then
    { state := state
      packet := packet
      call := .sendFollowMeRule false
      delayMicroseconds := 0 }
  else if helper.simParams.simMode = .onDemand ∧
      packet.inner.destination ∈ state.onDemandCache then
    { state := { state with firstPacket := false }
      packet := packet
      call := .sendFollowMeRule false
      delayMicroseconds := if state.firstPacket then 40 else 0 }
  else
    { state := state
      packet := packet
      call := .sendToGateway (helper.getGatewayIdx packet)
      delayMicroseconds := 0 }

/-- `SocketRecv`, up to handing the packet to the virtual device. -/
def socketRecv
    (state : HostState)
    (packet : DataPacket) :
    HostState :=
  if helper.simParams.simMode = .onDemand then
    { state with
      onDemandCache :=
        packet.inner.source :: packet.inner.destination ::
          state.onDemandCache }
  else
    state

/-- A misdelivered packet takes the first branch. -/
theorem virtualSend_of_ttl_lt
    (state : HostState)
    {packet : DataPacket}
    (forwarded : packet.inner.ttl < 64) :
    ∃ marked,
      helper.virtualSend state packet =
        helper.resendMisdelivered marked packet := by
  unfold virtualSend
  dsimp only
  rw [if_pos forwarded]
  exact ⟨_, rfl⟩

/-- A fresh packet keeps its tags; some gateway or the mapping is asked. -/
theorem exists_virtualSend
    (state : HostState)
    {packet : DataPacket}
    (fresh : ¬ packet.inner.ttl < 64) :
    ∃ after call delay,
      helper.virtualSend state packet =
          { state := after
            packet := packet
            call := call
            delayMicroseconds := delay } ∧
        (call = .sendFollowMeRule false ∨
          call = .sendToGateway (helper.getGatewayIdx packet)) := by
  fun_cases SocketHelper.virtualSend helper state packet with
  | case1 state forwarded => exact absurd forwarded fresh
  | case2 => exact ⟨_, _, _, rfl, Or.inl rfl⟩
  | case3 => exact ⟨_, _, _, rfl, Or.inl rfl⟩
  | case4 => exact ⟨_, _, _, rfl, Or.inr rfl⟩

/-- In the caching modes a fresh packet goes to a gateway at once. -/
theorem virtualSend_fresh
    (state : HostState)
    {packet : DataPacket}
    (notDirect : helper.simParams.simMode ≠ .direct)
    (notOnDemand : helper.simParams.simMode ≠ .onDemand)
    (fresh : ¬ packet.inner.ttl < 64) :
    helper.virtualSend state packet =
      { state := state
        packet := packet
        call := .sendToGateway (helper.getGatewayIdx packet)
        delayMicroseconds := 0 } := by
  simp [virtualSend, notDirect, notOnDemand, fresh]

/-- Every send call puts a fresh outer header on the packet. -/
theorem eq_sendTo_of_perform
    {virtualToPhysical : Ipv4Address → Option Ipv4Address}
    {packet sent : DataPacket}
    {call : SendCall}
    (performed :
      helper.perform virtualToPhysical packet call = some sent) :
    ∃ destination, sent = helper.sendTo packet destination := by
  cases call with
  | sendToGateway gwIdx =>
      simp only [perform, Option.map_eq_some_iff] at performed
      obtain ⟨gateway, _, rfl⟩ := performed
      exact ⟨gateway, rfl⟩
  | sendFollowMeRule misdelivery =>
      cases misdelivery <;>
        simp only [perform, Option.some.injEq] at performed <;>
        exact ⟨_, performed.symm⟩

end SocketHelper

end SwitchV2P
