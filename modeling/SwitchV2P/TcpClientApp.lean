import Mathlib.Algebra.BigOperators.Group.List.Basic
import Mathlib.Algebra.GroupWithZero.Nat
import Mathlib.Algebra.Ring.Int.Defs
import Mathlib.Data.List.Basic
import SwitchV2P.TransitionSystem

namespace SwitchV2P

/-!
# `TcpClientApp` and its socket

The application of a TCP flow fills the send buffer of its socket until the
flow has no bytes left.  The socket may take a part of a packet or nothing of
it; the application then keeps the rest and continues when the socket calls
back.

The bytes of a packet are numbered, so that a packet says which part of the
flow it is.
-/

namespace TcpClientApp

/-- The `size` bytes of the flow from number `first` on. -/
structure Segment where
  first : Nat
  size : Nat
  deriving Repr, DecidableEq

/-- `Packet::CreateFragment`. -/
def Segment.createFragment
    (packet : Segment)
    (start length : Nat) :
    Segment where
  first := packet.first + start
  size := length

/-- The bytes of a packet that a `Send` with this result took. -/
def Segment.taken (packet : Segment) (actual : Int) : List Nat :=
  List.range' packet.first actual.toNat

end TcpClientApp

/-- The members of `TcpClientApp` that `SendData` uses. -/
structure TcpClientApp where
  connected : Bool
  maxBytes : Nat
  totBytes : Nat
  unsentPacket : Option TcpClientApp.Segment
  sendSize : Nat
  deriving Repr, DecidableEq

namespace TcpClientApp

/-- A new application after `Setup`. -/
def setup (maxBytes : UInt32) : TcpClientApp where
  connected := false
  maxBytes := maxBytes.toNat
  totBytes := 0
  unsentPacket := none
  sendSize := 1024

/-- The condition of the loop. -/
def MoreToSend (app : TcpClientApp) : Prop :=
  app.maxBytes = 0 ∨ app.totBytes < app.maxBytes

instance (app : TcpClientApp) : Decidable app.MoreToSend :=
  inferInstanceAs (Decidable (_ ∨ _))

/-- How many bytes a new packet gets. -/
def toSend (app : TcpClientApp) : Nat :=
  if 0 < app.maxBytes then
    min app.sendSize (app.maxBytes - app.totBytes)
  else
    app.sendSize

/-- `m_totBytes += actual` in 64 bits. -/
def addTotal (app : TcpClientApp) (actual : Int) : Nat :=
  ((app.totBytes + actual) % 2 ^ 64).toNat

/-- `(unsigned) actual`. -/
def unsigned (actual : Int) : Nat :=
  (actual % 2 ^ 32).toNat

/--
The application with what it has done so far: the number of bytes in the
packets that it created, every packet it gave to `Send` with the result, and
how often it closed the socket.
-/
structure Connection where
  app : TcpClientApp
  established : Bool
  created : Nat
  sends : List (Segment × Int)
  closes : Nat
  deriving Repr, DecidableEq

/-- What becomes of a call of `SendData`. -/
inductive SendResult where
  | returns (connection : Connection)
  | fatalError
  | running
  deriving Repr, DecidableEq

namespace Connection

/-- Before the connection is made. -/
def start (maxBytes : UInt32) : Connection where
  app := setup maxBytes
  established := false
  created := 0
  sends := []
  closes := 0

/-- The packet of the next `Send`. -/
def nextPacket (connection : Connection) : Segment :=
  match connection.app.unsentPacket with
  | some packet => packet
  | none =>
      { first := connection.created
        size := connection.app.toSend }

/-- The number of bytes created when that packet is there. -/
def nextCreated (connection : Connection) : Nat :=
  match connection.app.unsentPacket with
  | some _ => connection.created
  | none => connection.created + connection.app.toSend

/-- The packet has been given to `Send`. -/
def offer
    (connection : Connection)
    (actual : Int) :
    Connection :=
  { connection with
    created := connection.nextCreated
    sends := connection.sends ++ [(connection.nextPacket, actual)] }

/-- All bytes of the packet were taken. -/
def acceptAll (connection : Connection) (actual : Int) : Connection :=
  { connection.offer actual with
    app :=
      { connection.app with
        totBytes := connection.app.addTotal actual
        unsentPacket := none } }

/-- No byte was taken. -/
def keepPacket (connection : Connection) (actual : Int) : Connection :=
  { connection.offer actual with
    app :=
      { connection.app with
        unsentPacket := some connection.nextPacket } }

/-- Some bytes were taken. -/
def keepFragment (connection : Connection) (actual : Int) : Connection :=
  { connection.offer actual with
    app :=
      { connection.app with
        totBytes := connection.app.addTotal actual
        unsentPacket :=
          some
            (connection.nextPacket.createFragment (unsigned actual)
              (connection.nextPacket.size - unsigned actual)) } }

/--
The loop of `SendData`.  The socket answers by the number of the call and the
packet; the result is `running` when so many rounds do not end it.
-/
def sendLoop (answer : Nat → Segment → Int) :
    Nat → Connection → SendResult
  | 0, _ => .running
  | rounds + 1, connection =>
      if connection.app.MoreToSend then
        let packet := connection.nextPacket
        let actual := answer connection.sends.length packet
        if unsigned actual = packet.size then
          sendLoop answer rounds (connection.acceptAll actual)
        else if actual = -1 then
          .returns (connection.keepPacket actual)
        else if 0 < actual ∧ unsigned actual < packet.size then
          .returns (connection.keepFragment actual)
        else
          .fatalError
      else
        .returns connection

/-- The socket is closed when everything has been sent. -/
def closeWhenSent (connection : Connection) : Connection :=
  if connection.app.totBytes = connection.app.maxBytes ∧
      connection.app.connected = true then
    { connection with
      app := { connection.app with connected := false }
      closes := connection.closes + 1 }
  else
    connection

/-- `SendData`. -/
def sendData
    (answer : Nat → Segment → Int)
    (rounds : Nat)
    (connection : Connection) :
    SendResult :=
  match connection.sendLoop answer rounds with
  | .returns connection => .returns connection.closeWhenSent
  | .fatalError => .fatalError
  | .running => .running

/-- `ConnectionSucceeded` before its call of `SendData`. -/
def connect (connection : Connection) : Connection :=
  { connection with
    app := { connection.app with connected := true }
    established := true }

end Connection

/-- A callback of the socket. -/
inductive Callback where
  | connectionSucceeded
  | dataSend
  deriving Repr, DecidableEq

namespace Connection

/-- A callback, with the rounds that its loop may take. -/
def call
    (answer : Nat → Segment → Int)
    (rounds : Nat)
    (connection : Connection) : Callback → SendResult
  | .connectionSucceeded => connection.connect.sendData answer rounds
  | .dataSend =>
      if connection.app.connected then
        connection.sendData answer rounds
      else
        .returns connection

end Connection

/-- More rounds than there are bytes left. -/
def enoughRounds (app : TcpClientApp) : Nat :=
  app.maxBytes - app.totBytes + 1

/-- A connection and the callbacks of its socket. -/
def client (answer : Nat → Segment → Int) :
    TransitionSystem Connection Callback where
  step := fun connection callback =>
    match connection.call answer connection.app.enoughRounds callback with
    | .returns next => some next
    | .fatalError => none
    | .running => none

/-- A connection succeeds once. -/
def SucceedsOnce (connection : Connection) (callback : Callback) : Prop :=
  callback = .connectionSucceeded → connection.established = false

instance (connection : Connection) (callback : Callback) :
    Decidable (SucceedsOnce connection callback) :=
  inferInstanceAs (Decidable (_ → _))

/-- A `Send` takes all, some or none of the bytes. -/
def TakesOffered (answer : Nat → Segment → Int) : Prop :=
  ∀ number packet, 0 < packet.size →
    answer number packet = -1 ∨
      (0 < answer number packet ∧ answer number packet ≤ packet.size)

/-! ## One round of the loop -/

/-- The bytes that the socket took, in order. -/
def acceptedBytes (sends : List (Segment × Int)) : List Nat :=
  sends.flatMap fun send => send.1.taken send.2

/-- How many bytes the socket took. -/
def acceptedCount (sends : List (Segment × Int)) : Nat :=
  (sends.map fun send => send.2.toNat).sum

theorem acceptedBytes_append
    (sends : List (Segment × Int))
    (packet : Segment)
    (actual : Int) :
    acceptedBytes (sends ++ [(packet, actual)]) =
      acceptedBytes sends ++ packet.taken actual := by
  unfold acceptedBytes
  rw [List.flatMap_append, List.flatMap_singleton]

theorem length_acceptedBytes (sends : List (Segment × Int)) :
    (acceptedBytes sends).length = acceptedCount sends := by
  induction sends with
  | nil => rfl
  | cons send later inductionHypothesis =>
      unfold acceptedBytes acceptedCount at inductionHypothesis ⊢
      rw [List.flatMap_cons, List.length_append, inductionHypothesis,
        List.map_cons, List.sum_cons]
      exact congrArg (· + _) List.length_range'

theorem unsigned_of_nonneg
    {actual : Int}
    (nonneg : 0 ≤ actual)
    (small : actual < 2 ^ 32) :
    unsigned actual = actual.toNat := by
  unfold unsigned
  rw [Int.emod_eq_of_lt nonneg small]

variable
  {answer : Nat → Segment → Int}
  {n : Nat}
  {connection : Connection}
  {actual : Int}

/--
The bytes that were taken are the first ones of the flow, the saved packet is
what follows them, and nothing else has been created.
-/
structure Accounted (n : Nat) (connection : Connection) : Prop where
  n_lt : n < 2 ^ 64
  maxBytes : connection.app.maxBytes = n
  sendSize : connection.app.sendSize = 1024
  stream :
    acceptedBytes connection.sends = List.range connection.app.totBytes
  totBytes_le : connection.app.totBytes ≤ n
  saved :
    ∀ fragment, connection.app.unsentPacket = some fragment →
      fragment.first = connection.app.totBytes ∧
        0 < fragment.size ∧
        fragment.size ≤ 1024 ∧
        connection.app.totBytes + fragment.size ≤ n
  created :
    connection.created =
      connection.app.totBytes +
        connection.app.unsentPacket.elim 0 Segment.size

/-- The next packet holds the next bytes of the flow. -/
structure Follows (n : Nat) (connection : Connection) : Prop where
  first : connection.nextPacket.first = connection.app.totBytes
  size_pos : 0 < connection.nextPacket.size
  size_le : connection.nextPacket.size ≤ 1024
  fits : connection.app.totBytes + connection.nextPacket.size ≤ n
  created :
    connection.nextCreated =
      connection.app.totBytes + connection.nextPacket.size

namespace Connection

theorem nextPacket_of_saved
    {fragment : Segment}
    (saved : connection.app.unsentPacket = some fragment) :
    connection.nextPacket = fragment := by
  unfold nextPacket
  rw [saved]

theorem nextCreated_of_saved
    {fragment : Segment}
    (saved : connection.app.unsentPacket = some fragment) :
    connection.nextCreated = connection.created := by
  unfold nextCreated
  rw [saved]

theorem nextPacket_of_unsaved
    (unsaved : connection.app.unsentPacket = none) :
    connection.nextPacket =
      { first := connection.created
        size := connection.app.toSend } := by
  unfold nextPacket
  rw [unsaved]

theorem nextCreated_of_unsaved
    (unsaved : connection.app.unsentPacket = none) :
    connection.nextCreated =
      connection.created + connection.app.toSend := by
  unfold nextCreated
  rw [unsaved]

end Connection

namespace Accounted

/-- A new packet has at most 1024 bytes and no more than are left. -/
theorem toSend_eq
    (accounted : Accounted n connection)
    (unfinished : connection.app.totBytes < n) :
    connection.app.toSend =
      min 1024 (n - connection.app.totBytes) := by
  unfold toSend
  rw [accounted.maxBytes, accounted.sendSize]
  exact if_pos (Nat.zero_lt_of_lt unfinished)

theorem follows
    (accounted : Accounted n connection)
    (unfinished : connection.app.totBytes < n) :
    Follows n connection := by
  have created := accounted.created
  cases saved : connection.app.unsentPacket with
  | some fragment =>
      obtain ⟨first, size_pos, size_le, fits⟩ :=
        accounted.saved fragment saved
      rw [saved] at created
      rw [← Connection.nextPacket_of_saved saved] at first size_pos size_le fits
      refine
        { first := first
          size_pos := size_pos
          size_le := size_le
          fits := fits
          created := ?_ }
      rw [Connection.nextCreated_of_saved saved,
        Connection.nextPacket_of_saved saved]
      exact created
  | none =>
      have toSend := accounted.toSend_eq unfinished
      rw [saved, Option.elim_none, Nat.add_zero] at created
      refine
        { first := ?_
          size_pos := ?_
          size_le := ?_
          fits := ?_
          created := ?_ }
      · rw [Connection.nextPacket_of_unsaved saved]
        exact created
      · rw [Connection.nextPacket_of_unsaved saved, toSend]
        exact Nat.lt_min.mpr ⟨by decide, Nat.sub_pos_of_lt unfinished⟩
      · rw [Connection.nextPacket_of_unsaved saved, toSend]
        exact Nat.min_le_left _ _
      · rw [Connection.nextPacket_of_unsaved saved, toSend]
        exact
          Nat.add_le_of_le_sub' accounted.totBytes_le (Nat.min_le_right _ _)
      · rw [Connection.nextPacket_of_unsaved saved,
          Connection.nextCreated_of_unsaved saved, created]

end Accounted

theorem addTotal_of_nonneg
    (nonneg : 0 ≤ actual)
    (small : connection.app.totBytes + actual.toNat < 2 ^ 64) :
    connection.app.addTotal actual =
      connection.app.totBytes + actual.toNat := by
  unfold addTotal
  omega

namespace Accounted

/-- What the socket takes of the next packet continues the stream. -/
theorem acceptedBytes_offer
    (accounted : Accounted n connection)
    (follows : Follows n connection)
    (actual : Int) :
    acceptedBytes (connection.offer actual).sends =
      List.range (connection.app.totBytes + actual.toNat) := by
  have joined :
      List.range' 0 connection.app.totBytes ++
          List.range' (0 + connection.app.totBytes) actual.toNat =
        List.range' 0 (connection.app.totBytes + actual.toNat) :=
    List.range'_append_1
  rw [Nat.zero_add] at joined
  rw [List.range_eq_range', ← joined, ← List.range_eq_range',
    ← accounted.stream]
  unfold Connection.offer
  rw [acceptedBytes_append]
  unfold Segment.taken
  rw [follows.first]

theorem acceptAll
    (accounted : Accounted n connection)
    (follows : Follows n connection)
    (all : actual = connection.nextPacket.size) :
    Accounted n (connection.acceptAll actual) ∧
      (connection.acceptAll actual).app.totBytes =
        connection.app.totBytes + connection.nextPacket.size := by
  have n_lt := accounted.n_lt
  have fits := follows.fits
  have isSize : actual.toNat = connection.nextPacket.size := by
    rw [all]
    exact Int.toNat_natCast _
  have total :
      connection.app.addTotal actual =
        connection.app.totBytes + connection.nextPacket.size := by
    rw [← isSize]
    apply addTotal_of_nonneg
    · rw [all]
      exact Int.natCast_nonneg _
    · omega
  have stream := accounted.acceptedBytes_offer follows actual
  rw [isSize, ← total] at stream
  refine
    ⟨{ n_lt := n_lt
       maxBytes := accounted.maxBytes
       sendSize := accounted.sendSize
       stream := stream
       totBytes_le := Nat.le_trans (Nat.le_of_eq total) fits
       saved := fun fragment saved =>
        absurd saved.symm (Option.some_ne_none fragment)
       created := follows.created.trans total.symm },
      total⟩

theorem keepPacket
    (accounted : Accounted n connection)
    (follows : Follows n connection) :
    Accounted n (connection.keepPacket (-1)) where
  n_lt := accounted.n_lt
  maxBytes := accounted.maxBytes
  sendSize := accounted.sendSize
  stream := accounted.acceptedBytes_offer follows (-1)
  totBytes_le := accounted.totBytes_le
  saved := by
    intro fragment saved
    obtain rfl := Option.some.inj saved
    exact
      ⟨follows.first, follows.size_pos, follows.size_le, follows.fits⟩
  created := follows.created

theorem keepFragment
    (accounted : Accounted n connection)
    (follows : Follows n connection)
    (positive : 0 < actual)
    (less : actual < connection.nextPacket.size) :
    Accounted n (connection.keepFragment actual) := by
  have n_lt := accounted.n_lt
  have fits := follows.fits
  have size_le := follows.size_le
  have isUnsigned : unsigned actual = actual.toNat :=
    unsigned_of_nonneg (Int.le_of_lt positive) (by omega)
  have total :
      connection.app.addTotal actual =
        connection.app.totBytes + actual.toNat :=
    addTotal_of_nonneg (Int.le_of_lt positive) (by omega)
  have stream := accounted.acceptedBytes_offer follows actual
  rw [← total] at stream
  refine
    { n_lt := n_lt
      maxBytes := accounted.maxBytes
      sendSize := accounted.sendSize
      stream := stream
      totBytes_le := Nat.le_trans (Nat.le_of_eq total) (by omega)
      saved := ?_
      created := ?_ }
  · intro fragment saved
    obtain rfl := Option.some.inj saved
    have first := follows.first
    change
      connection.nextPacket.first + unsigned actual =
          connection.app.addTotal actual ∧
        0 < connection.nextPacket.size - unsigned actual ∧
        connection.nextPacket.size - unsigned actual ≤ 1024 ∧
        connection.app.addTotal actual +
            (connection.nextPacket.size - unsigned actual) ≤
          n
    omega
  · have created := follows.created
    change
      connection.nextCreated =
        connection.app.addTotal actual +
          (connection.nextPacket.size - unsigned actual)
    omega

end Accounted

/-- What a round does: it goes on, or it ends with a saved packet. -/
inductive Round
    (n : Nat)
    (answer : Nat → Segment → Int)
    (connection : Connection) : Prop where
  | finished
      (total : connection.app.totBytes = n)
      (result :
        ∀ rounds,
          connection.sendLoop answer (rounds + 1) = .returns connection)
  | all
      (actual : Int)
      (unfinished : connection.app.totBytes < n)
      (isSize : actual = connection.nextPacket.size)
      (result :
        ∀ rounds,
          connection.sendLoop answer (rounds + 1) =
            (connection.acceptAll actual).sendLoop answer rounds)
  | nothing
      (unfinished : connection.app.totBytes < n)
      (result :
        ∀ rounds,
          connection.sendLoop answer (rounds + 1) =
            .returns (connection.keepPacket (-1)))
  | part
      (actual : Int)
      (unfinished : connection.app.totBytes < n)
      (positive : 0 < actual)
      (less : actual < connection.nextPacket.size)
      (result :
        ∀ rounds,
          connection.sendLoop answer (rounds + 1) =
            .returns (connection.keepFragment actual))

/-- The last branch of the loop is not reached. -/
theorem round_of_accounted
    (takesOffered : TakesOffered answer)
    (n_pos : 0 < n)
    (accounted : Accounted n connection) :
    Round n answer connection := by
  by_cases unfinished : connection.app.totBytes < n
  · have follows := accounted.follows unfinished
    have size_pos := follows.size_pos
    have size_le := follows.size_le
    have more : connection.app.MoreToSend := by
      apply Or.inr
      rw [accounted.maxBytes]
      exact unfinished
    rcases takesOffered connection.sends.length connection.nextPacket
        size_pos with
      refused | ⟨positive, le_size⟩
    · have notAll : unsigned (-1) ≠ connection.nextPacket.size := by
        have isUnsigned : unsigned (-1) = 4294967295 := rfl
        omega
      apply Round.nothing unfinished
      intro rounds
      rw [Connection.sendLoop, if_pos more]
      dsimp only
      rw [refused, if_neg notAll, if_pos rfl]
    · have isUnsigned := unsigned_of_nonneg (Int.le_of_lt positive) (by omega)
      by_cases isSize :
          answer connection.sends.length connection.nextPacket =
            connection.nextPacket.size
      · apply Round.all _ unfinished isSize
        intro rounds
        rw [Connection.sendLoop, if_pos more]
        dsimp only
        rw [if_pos (by omega)]
      · have less := Int.lt_iff_le_and_ne.mpr ⟨le_size, isSize⟩
        apply Round.part _ unfinished positive less
        intro rounds
        rw [Connection.sendLoop, if_pos more]
        dsimp only
        rw [if_neg (by omega), if_neg (by omega), if_pos (by omega)]
  · have total : connection.app.totBytes = n :=
      Nat.le_antisymm accounted.totBytes_le (Nat.le_of_not_lt unfinished)
    have noMore : ¬ connection.app.MoreToSend := by
      unfold MoreToSend
      rw [accounted.maxBytes]
      exact not_or_intro (Nat.ne_of_gt n_pos) unfinished
    apply Round.finished total
    intro rounds
    rw [Connection.sendLoop, if_neg noMore]

/-! ## The whole loop -/

/-- What the loop makes of a connection. -/
structure Sent (n : Nat) (before after : Connection) : Prop where
  accounted : Accounted n after
  connected : after.app.connected = before.app.connected
  established : after.established = before.established
  closes : after.closes = before.closes
  continues : ∃ later, after.sends = before.sends ++ later
  offersNext :
    before.app.totBytes < n →
      ∃ actual later,
        after.sends = before.sends ++ (before.nextPacket, actual) :: later

namespace Sent

theorem refl
    (accounted : Accounted n connection)
    (total : connection.app.totBytes = n) :
    Sent n connection connection where
  accounted := accounted
  connected := rfl
  established := rfl
  closes := rfl
  continues := ⟨[], (List.append_nil _).symm⟩
  offersNext := fun unfinished =>
    absurd total (Nat.ne_of_lt unfinished)

/-- The last `Send` of a call. -/
theorem of_offer
    {after : Connection}
    (accounted : Accounted n after)
    (connected : after.app.connected = connection.app.connected)
    (offered : after.sends = (connection.offer actual).sends)
    (established : after.established = connection.established)
    (closes : after.closes = connection.closes) :
    Sent n connection after where
  accounted := accounted
  connected := connected
  established := established
  closes := closes
  continues := ⟨_, offered⟩
  offersNext := fun _ => ⟨actual, [], offered⟩

/-- A `Send` before the rest of the call. -/
theorem of_acceptAll
    {after : Connection}
    (sent : Sent n (connection.acceptAll actual) after) :
    Sent n connection after := by
  obtain ⟨later, continues⟩ := sent.continues
  have split :
      after.sends =
        connection.sends ++ (connection.nextPacket, actual) :: later :=
    continues.trans (List.append_assoc _ _ _)
  exact
    { accounted := sent.accounted
      connected := sent.connected
      established := sent.established
      closes := sent.closes
      continues := ⟨_, split⟩
      offersNext := fun _ => ⟨actual, later, split⟩ }

end Sent

/-- The loop ends, whatever the socket takes. -/
theorem sendLoop_returns
    (takesOffered : TakesOffered answer)
    (n_pos : 0 < n)
    (accounted : Accounted n connection) :
    ∃ after, Sent n connection after ∧
      ∀ rounds, n - connection.app.totBytes < rounds + 1 →
        connection.sendLoop answer (rounds + 1) = .returns after := by
  induction left : n - connection.app.totBytes
    using Nat.strongRecOn generalizing connection with
  | ind left inductionHypothesis =>
      subst left
      cases round_of_accounted takesOffered n_pos accounted with
      | finished total result =>
          exact
            ⟨connection, .refl accounted total, fun rounds _ => result rounds⟩
      | nothing unfinished result =>
          have kept := accounted.keepPacket (accounted.follows unfinished)
          exact
            ⟨_, .of_offer kept rfl rfl rfl rfl, fun rounds _ => result rounds⟩
      | part actual unfinished positive less result =>
          have kept :=
            accounted.keepFragment (accounted.follows unfinished) positive
              less
          exact
            ⟨_, .of_offer kept rfl rfl rfl rfl, fun rounds _ => result rounds⟩
      | all actual unfinished isSize result =>
          have follows := accounted.follows unfinished
          have size_pos := follows.size_pos
          obtain ⟨accepted, total⟩ := accounted.acceptAll follows isSize
          have fewer :
              n - (connection.acceptAll actual).app.totBytes <
                n - connection.app.totBytes := by
            omega
          obtain ⟨after, sent, returns⟩ :=
            inductionHypothesis _ fewer accepted rfl
          refine ⟨after, sent.of_acceptAll, fun rounds enough => ?_⟩
          rw [result]
          -- What is left is less than the rounds that remain.
          obtain ⟨fewerRounds, rfl⟩ : ∃ fewer, rounds = fewer + 1 :=
            Nat.exists_eq_succ_of_ne_zero (by omega)
          exact returns fewerRounds (by omega)

/-- No number of rounds reaches the last branch. -/
theorem sendLoop_ne_fatalError
    (takesOffered : TakesOffered answer)
    (n_pos : 0 < n)
    (accounted : Accounted n connection)
    (rounds : Nat) :
    connection.sendLoop answer rounds ≠ .fatalError := by
  induction rounds generalizing connection with
  | zero => exact SendResult.noConfusion
  | succ rounds inductionHypothesis =>
      cases round_of_accounted takesOffered n_pos accounted with
      | finished total result => rw [result]; exact SendResult.noConfusion
      | nothing unfinished result =>
          rw [result]
          exact SendResult.noConfusion
      | part actual unfinished positive less result =>
          rw [result]
          exact SendResult.noConfusion
      | all actual unfinished isSize result =>
          rw [result]
          exact
            inductionHypothesis
              (accounted.acceptAll (accounted.follows unfinished) isSize).1

/-! ## Every run -/

/-- The socket is open from its connection until everything is sent. -/
structure Kept (n : Nat) (connection : Connection) : Prop where
  accounted : Accounted n connection
  connected_iff :
    connection.app.connected = true ↔
      connection.established = true ∧ connection.app.totBytes ≠ n
  fresh :
    connection.established = false →
      connection.app.totBytes = 0 ∧ connection.app.unsentPacket = none
  closes :
    connection.closes = if connection.app.totBytes = n then 1 else 0

theorem kept_start
    (maxBytes : UInt32)
    (positive : 0 < maxBytes.toNat) :
    Kept maxBytes.toNat (.start maxBytes) where
  accounted :=
    { n_lt := Nat.lt_trans maxBytes.toNat_lt (by decide)
      maxBytes := rfl
      sendSize := rfl
      stream := rfl
      totBytes_le := Nat.zero_le _
      saved := fun fragment saved =>
        absurd saved.symm (Option.some_ne_none fragment)
      created := rfl }
  connected_iff :=
    iff_of_false Bool.false_ne_true fun both => Bool.false_ne_true both.1
  fresh := fun _ => ⟨rfl, rfl⟩
  closes := (if_neg (Nat.ne_of_lt positive)).symm

/-- A socket is closed by the call that sends the last byte. -/
theorem Sent.closeWhenSent
    {before after : Connection}
    (sent : Sent n before after)
    (connected : before.app.connected = true)
    (established : before.established = true)
    (closes : before.closes = 0) :
    Kept n after.closeWhenSent ∧
      after.closeWhenSent.sends = after.sends := by
  have accounted := sent.accounted
  have connectedAfter := sent.connected.trans connected
  have establishedAfter := sent.established.trans established
  have closesAfter := sent.closes.trans closes
  have notFresh : after.established = false → False := fun isFresh =>
    Bool.false_ne_true (isFresh.symm.trans establishedAfter)
  unfold Connection.closeWhenSent
  rw [accounted.maxBytes]
  by_cases total : after.app.totBytes = n
  · rw [if_pos ⟨total, connectedAfter⟩]
    refine
      ⟨{ accounted :=
          { n_lt := accounted.n_lt
            maxBytes := accounted.maxBytes
            sendSize := accounted.sendSize
            stream := accounted.stream
            totBytes_le := accounted.totBytes_le
            saved := accounted.saved
            created := accounted.created }
         connected_iff :=
          iff_of_false Bool.false_ne_true fun both => both.2 total
         fresh := fun isFresh => (notFresh isFresh).elim
         closes := ?_ },
        rfl⟩
    dsimp only
    rw [closesAfter, if_pos total]
  · rw [if_neg fun both => total both.1]
    refine
      ⟨{ accounted := accounted
         connected_iff :=
          iff_of_true connectedAfter ⟨establishedAfter, total⟩
         fresh := fun isFresh => (notFresh isFresh).elim
         closes := ?_ },
        rfl⟩
    rw [closesAfter, if_neg total]

/-- A call of `SendData` on an open socket. -/
theorem sendData_returns
    (takesOffered : TakesOffered answer)
    (n_pos : 0 < n)
    (accounted : Accounted n connection)
    (connected : connection.app.connected = true)
    (established : connection.established = true)
    (closes : connection.closes = 0) :
    ∃ next, Kept n next ∧
      (connection.app.totBytes < n →
        ∃ actual later,
          next.sends =
            connection.sends ++ (connection.nextPacket, actual) :: later) ∧
      ∀ rounds, n - connection.app.totBytes < rounds →
        connection.sendData answer rounds = .returns next := by
  obtain ⟨after, sent, returns⟩ :=
    sendLoop_returns takesOffered n_pos accounted
  obtain ⟨kept, sends⟩ := sent.closeWhenSent connected established closes
  refine ⟨after.closeWhenSent, kept, ?_, fun rounds enough => ?_⟩
  · intro unfinished
    rw [sends]
    exact sent.offersNext unfinished
  · obtain ⟨fewerRounds, rfl⟩ : ∃ fewer, rounds = fewer + 1 :=
      Nat.exists_eq_succ_of_ne_zero (Nat.ne_zero_of_lt enough)
    unfold Connection.sendData
    rw [returns fewerRounds enough]

theorem sendData_ne_fatalError
    (takesOffered : TakesOffered answer)
    (n_pos : 0 < n)
    (accounted : Accounted n connection)
    (rounds : Nat) :
    connection.sendData answer rounds ≠ .fatalError := by
  have loop :=
    sendLoop_ne_fatalError takesOffered n_pos accounted rounds
  unfold Connection.sendData
  generalize connection.sendLoop answer rounds = result at loop ⊢
  cases result with
  | returns after => exact SendResult.noConfusion
  | fatalError => exact absurd rfl loop
  | running => exact SendResult.noConfusion

namespace Kept

/-- Making the connection changes no byte. -/
theorem accounted_connect (kept : Kept n connection) :
    Accounted n connection.connect where
  n_lt := kept.accounted.n_lt
  maxBytes := kept.accounted.maxBytes
  sendSize := kept.accounted.sendSize
  stream := kept.accounted.stream
  totBytes_le := kept.accounted.totBytes_le
  saved := kept.accounted.saved
  created := kept.accounted.created

/-- A saved packet means that the socket is open. -/
theorem connected_of_saved
    (kept : Kept n connection)
    {fragment : Segment}
    (saved : connection.app.unsentPacket = some fragment) :
    connection.app.connected = true := by
  obtain ⟨_, size_pos, _, fits⟩ := kept.accounted.saved fragment saved
  have unfinished : connection.app.totBytes ≠ n :=
    Nat.ne_of_lt
      (Nat.lt_of_lt_of_le (Nat.lt_add_of_pos_right size_pos) fits)
  cases isEstablished : connection.established with
  | true => exact kept.connected_iff.mpr ⟨isEstablished, unfinished⟩
  | false =>
      have unsaved := (kept.fresh isEstablished).2
      rw [unsaved] at saved
      exact absurd saved.symm (Option.some_ne_none fragment)

/-- Every callback returns, and continues with the saved packet. -/
theorem call_returns
    (takesOffered : TakesOffered answer)
    (n_pos : 0 < n)
    (kept : Kept n connection)
    {callback : Callback}
    (once : SucceedsOnce connection callback) :
    ∃ next, Kept n next ∧
      (∀ fragment, connection.app.unsentPacket = some fragment →
        ∃ actual later,
          next.sends = connection.sends ++ (fragment, actual) :: later) ∧
      ∀ rounds, n - connection.app.totBytes < rounds →
        connection.call answer rounds callback = .returns next := by
  cases callback with
  | connectionSucceeded =>
      obtain ⟨nothing, unsaved⟩ := kept.fresh (once rfl)
      have stillOpen : connection.connect.closes = 0 := by
        apply kept.closes.trans
        rw [nothing]
        exact if_neg (Nat.ne_of_lt n_pos)
      obtain ⟨next, keptNext, _, returns⟩ :=
        sendData_returns takesOffered n_pos kept.accounted_connect rfl rfl
          stillOpen
      refine ⟨next, keptNext, fun fragment saved => ?_, returns⟩
      rw [unsaved] at saved
      exact absurd saved.symm (Option.some_ne_none fragment)
  | dataSend =>
      by_cases connected : connection.app.connected = true
      · obtain ⟨established, unfinished⟩ := kept.connected_iff.mp connected
        have closes : connection.closes = 0 :=
          kept.closes.trans (if_neg unfinished)
        obtain ⟨next, keptNext, offersNext, returns⟩ :=
          sendData_returns takesOffered n_pos kept.accounted connected
            established closes
        refine
          ⟨next, keptNext, fun fragment saved => ?_, fun rounds enough => ?_⟩
        · rw [← Connection.nextPacket_of_saved saved]
          apply offersNext
          exact Nat.lt_of_le_of_ne kept.accounted.totBytes_le unfinished
        · unfold Connection.call
          rw [if_pos connected]
          exact returns rounds enough
      · refine
          ⟨connection, kept, fun fragment saved => ?_, fun rounds _ => ?_⟩
        · exact absurd (kept.connected_of_saved saved) connected
        · unfold Connection.call
          rw [if_neg connected]

theorem call_ne_fatalError
    (takesOffered : TakesOffered answer)
    (n_pos : 0 < n)
    (kept : Kept n connection)
    (rounds : Nat)
    (callback : Callback) :
    connection.call answer rounds callback ≠ .fatalError := by
  cases callback with
  | connectionSucceeded =>
      exact
        sendData_ne_fatalError takesOffered n_pos kept.accounted_connect
          rounds
  | dataSend =>
      unfold Connection.call
      by_cases connected : connection.app.connected = true
      · rw [if_pos connected]
        exact
          sendData_ne_fatalError takesOffered n_pos kept.accounted rounds
      · rw [if_neg connected]
        exact SendResult.noConfusion

end Kept

/-- The bookkeeping is kept in every run. -/
theorem kept_of_reachable
    (takesOffered : TakesOffered answer)
    {maxBytes : UInt32}
    (positive : 0 < maxBytes.toNat)
    (reachable :
      (client answer).Reachable SucceedsOnce (.start maxBytes) connection) :
    Kept maxBytes.toNat connection := by
  apply reachable.invariant (Kept maxBytes.toNat)
  · exact kept_start maxBytes positive
  · intro connection callback next kept once stepped
    obtain ⟨result, keptResult, _, returns⟩ :=
      kept.call_returns takesOffered positive once
    have enough :
        maxBytes.toNat - connection.app.totBytes <
          connection.app.enoughRounds := by
      unfold enoughRounds
      rw [kept.accounted.maxBytes]
      exact Nat.lt_succ_self _
    unfold client at stepped
    dsimp only at stepped
    rw [returns _ enough] at stepped
    obtain rfl := Option.some.inj stepped
    exact keptResult

/-- The socket gets the bytes of the flow, each once and in order. -/
structure HandsOver
    (answer : Nat → Segment → Int)
    (n : Nat)
    (connection : Connection) : Prop where
  totBytes : connection.app.totBytes = acceptedCount connection.sends
  totBytes_le : connection.app.totBytes ≤ n
  stream :
    acceptedBytes connection.sends = List.range connection.app.totBytes
  saved :
    ∀ fragment, connection.app.unsentPacket = some fragment →
      connection.app.totBytes + fragment.size ≤ n
  continues :
    ∀ callback, SucceedsOnce connection callback →
      ∃ next,
        (∀ rounds, n - connection.app.totBytes < rounds →
          connection.call answer rounds callback = .returns next) ∧
        ∀ fragment, connection.app.unsentPacket = some fragment →
          ∃ actual later,
            next.sends = connection.sends ++ (fragment, actual) :: later
  noFatalError :
    ∀ rounds callback,
      connection.call answer rounds callback ≠ .fatalError
  closes :
    connection.closes = if connection.app.totBytes = n then 1 else 0

/--
For every flow size and whatever the socket takes, every state of a run hands
over a beginning of the flow, its calls return, and the socket is closed once
with the last byte.
-/
theorem handsOver_of_reachable
    (takesOffered : TakesOffered answer)
    {maxBytes : UInt32}
    (positive : 0 < maxBytes)
    (reachable :
      (client answer).Reachable SucceedsOnce (.start maxBytes) connection) :
    HandsOver answer maxBytes.toNat connection := by
  have n_pos : 0 < maxBytes.toNat := UInt32.lt_iff_toNat_lt.mp positive
  have kept := kept_of_reachable takesOffered n_pos reachable
  have accounted := kept.accounted
  refine
    { totBytes := ?_
      totBytes_le := accounted.totBytes_le
      stream := accounted.stream
      saved := fun fragment saved =>
        (accounted.saved fragment saved).2.2.2
      continues := fun callback once => ?_
      noFatalError := kept.call_ne_fatalError takesOffered n_pos
      closes := kept.closes }
  · rw [← length_acceptedBytes, accounted.stream, List.length_range]
  · obtain ⟨next, _, offered, returns⟩ :=
      kept.call_returns takesOffered n_pos once
    exact ⟨next, returns, offered⟩

/-- A socket that takes 600 bytes, then nothing, then all. -/
def hesitant (number : Nat) (packet : Segment) : Int :=
  if number = 0 then
    min 600 packet.size
  else if number = 1 then
    -1
  else
    packet.size

theorem takesOffered_hesitant : TakesOffered hesitant := by
  intro number packet size_pos
  unfold hesitant
  split
  · right
    omega
  · split
    · exact Or.inl rfl
    · right
      omega

/-- Three callbacks send a flow of 1500 bytes. -/
def hesitantlySent : Connection where
  app :=
    { connected := false
      maxBytes := 1500
      totBytes := 1500
      unsentPacket := none
      sendSize := 1024 }
  established := true
  created := 1500
  sends :=
    [({ first := 0, size := 1024 }, 600),
      ({ first := 600, size := 424 }, -1),
      ({ first := 600, size := 424 }, 424),
      ({ first := 1024, size := 476 }, 476)]
  closes := 1

theorem reachable_hesitantlySent :
    (client hesitant).Reachable SucceedsOnce (.start 1500)
      hesitantlySent := by
  have ran :
      (client hesitant).run? (.start 1500)
          [.connectionSucceeded, .dataSend, .dataSend] =
        some hesitantlySent := by
    decide
  exact
    TransitionSystem.reachable_of_run?
      (fun _ _ checked => of_decide_eq_true checked) (by decide) ran

theorem handsOver_hesitantlySent :
    HandsOver hesitant (1500 : UInt32).toNat hesitantlySent :=
  handsOver_of_reachable takesOffered_hesitant (by decide)
    reachable_hesitantlySent

end TcpClientApp

end SwitchV2P
