import Mathlib.Data.List.Induction

namespace SwitchV2P

/-!
# Packet interceptors

The patched `Ipv4L3Protocol` hands a packet to the callback for its protocol
before it routes the packet.  Callbacks are registered in a list, which takes
one for the first protocol only.
-/

variable {Packet : Type}

/-- Should the packet be forwarded, and what has become of it? -/
abbrev PacketInterceptorCallback (Packet : Type) : Type :=
  Packet → Bool × Packet

/-- An item of `m_interceptors`. -/
structure InterceptorItem (Packet : Type) where
  picb : PacketInterceptorCallback Packet
  protocol : UInt16

/-- `m_interceptors`. -/
abbrev IpInterceptor (Packet : Type) : Type :=
  List (InterceptorItem Packet)

/-- The arguments of `AddPacketInterceptor`. -/
structure Registration (Packet : Type) where
  picb : PacketInterceptorCallback Packet
  protocol : UInt8

namespace IpInterceptor

/-- The loop of `AddPacketInterceptor`, which stops at the first equal item. -/
def replaceFirst
    (newitem : InterceptorItem Packet) :
    IpInterceptor Packet → IpInterceptor Packet
  | [] => []
  | item :: rest =>
      if item.protocol = newitem.protocol then
        newitem :: rest
      else
        item :: replaceFirst newitem rest

/-- `newitem`. -/
def item (registration : Registration Packet) : InterceptorItem Packet where
  picb := registration.picb
  protocol := registration.protocol.toUInt16

/-- `AddPacketInterceptor`. -/
def addPacketInterceptor
    (interceptors : IpInterceptor Packet)
    (registration : Registration Packet) :
    IpInterceptor Packet :=
  if interceptors = [] then
    [item registration]
  else
    interceptors.replaceFirst (item registration)

/-- `GetPacketInterceptor`. -/
def getPacketInterceptor
    (interceptors : IpInterceptor Packet)
    (protocol : UInt8) :
    Option (PacketInterceptorCallback Packet) :=
  (interceptors.find? fun item =>
    item.protocol = protocol.toUInt16).map InterceptorItem.picb

/-- `CallPacketInterceptor`. -/
def callPacketInterceptor
    (interceptors : IpInterceptor Packet)
    (protocol : UInt8)
    (packet : Packet) :
    Bool × Packet :=
  match interceptors.getPacketInterceptor protocol with
  | some picb => picb packet
  | none => (true, packet)

/-! ## After any registrations -/

/-- The last registration for the protocol of the first one. -/
def effective
    (registrations : List (Registration Packet)) :
    Option (Registration Packet) :=
  registrations.head?.bind fun first =>
    (registrations.filter fun other =>
      other.protocol = first.protocol).getLast?

/-- A protocol that was registered first stays. -/
theorem effective_append
    {earlier : List (Registration Packet)}
    {first last : Registration Packet}
    (isFirst : earlier.head? = some first)
    (isLast : effective earlier = some last)
    (registration : Registration Packet) :
    effective (earlier ++ [registration]) =
      if registration.protocol = first.protocol then
        some registration
      else
        some last := by
  have stays : (earlier ++ [registration]).head? = some first := by
    rw [List.head?_append, isFirst]
    rfl
  rw [effective, isFirst] at isLast
  rw [effective, stays]
  dsimp only [Option.bind_some] at isLast ⊢
  rw [List.filter_append]
  by_cases sameProtocol : registration.protocol = first.protocol
  · simp [sameProtocol]
  · simp [sameProtocol, isLast]

/-- Whichever registration counts has the protocol of the first one. -/
theorem protocol_of_effective
    {registrations : List (Registration Packet)}
    {first last : Registration Packet}
    (isFirst : registrations.head? = some first)
    (isLast : effective registrations = some last) :
    last.protocol = first.protocol := by
  rw [effective, isFirst] at isLast
  exact
    of_decide_eq_true
      (List.mem_filter.mp (List.mem_of_getLast? isLast)).2

/-- Some registration counts, if there is one. -/
theorem exists_effective
    {registrations : List (Registration Packet)}
    {first : Registration Packet}
    (isFirst : registrations.head? = some first) :
    ∃ last, effective registrations = some last := by
  have member :
      first ∈ registrations.filter fun other =>
        other.protocol = first.protocol :=
    List.mem_filter.mpr
      ⟨List.mem_of_head? isFirst, decide_eq_true rfl⟩
  rw [effective, isFirst]
  exact
    ⟨_, List.getLast?_eq_some_getLast (List.ne_nil_of_mem member)⟩

/-- The list never has more than one item. -/
theorem foldl_addPacketInterceptor
    (registrations : List (Registration Packet)) :
    registrations.foldl addPacketInterceptor [] =
      ((effective registrations).map item).toList := by
  induction registrations using List.reverseRecOn with
  | nil => rfl
  | append_singleton earlier registration inductionHypothesis =>
      rw [List.foldl_append, List.foldl_cons, List.foldl_nil,
        inductionHypothesis]
      cases isFirst : earlier.head? with
      | none =>
          obtain rfl := List.head?_eq_none_iff.mp isFirst
          simp [effective, addPacketInterceptor, item]
      | some first =>
          obtain ⟨last, isLast⟩ := exists_effective isFirst
          have sameProtocol := protocol_of_effective isFirst isLast
          rw [isLast, effective_append isFirst isLast, ← sameProtocol]
          by_cases again : registration.protocol = last.protocol
          · simp [addPacketInterceptor, replaceFirst, item, again]
          · have other :
                ¬ last.protocol.toUInt16 =
                  registration.protocol.toUInt16 :=
              fun same => again (UInt8.toUInt16_inj.mp same).symm
            simp [addPacketInterceptor, replaceFirst, item, again, other]

/--
However often callbacks are registered, packets are intercepted for the
protocol of the first registration only, by the callback that was registered
last for it.  All other packets go on as they are.
-/
theorem callPacketInterceptor_of_registered
    (registrations : List (Registration Packet))
    (protocol : UInt8)
    (packet : Packet) :
    (registrations.foldl addPacketInterceptor []).callPacketInterceptor
        protocol packet =
      match effective registrations with
      | some last =>
          if last.protocol = protocol then
            last.picb packet
          else
            (true, packet)
      | none => (true, packet) := by
  rw [foldl_addPacketInterceptor]
  cases effective registrations with
  | none => rfl
  | some last =>
      unfold callPacketInterceptor getPacketInterceptor
      by_cases isProtocol : last.protocol = protocol
      · simp [item, isProtocol]
      · have other : ¬ last.protocol.toUInt16 = protocol.toUInt16 :=
          fun same => isProtocol (UInt8.toUInt16_inj.mp same)
        simp [item, isProtocol, other]

end IpInterceptor

end SwitchV2P
