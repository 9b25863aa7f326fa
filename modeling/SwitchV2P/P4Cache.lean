import Mathlib.Logic.Function.Basic
import Mathlib.Tactic.Common

namespace SwitchV2P

/-!
# The direct-mapped switch cache

`P4Cache` is a direct-mapped table of key/value pairs with one access bit per
slot.  The hash is a parameter: `CRC32Calculate` is run over the key and a
second word that `Setup` fixes, so after `Setup` it is a function of the key.

An emptied slot holds the pair of zeros.  `Put` and `PutIfNotEvict` test the
key of a slot for zero, `Get` and `Find` test its value; the model keeps both
tests as they are.
-/

/-- The state of one `P4Cache<K, V>` after `Setup`. -/
structure P4Cache (K V : Type) where
  cacheSize : Nat
  cacheSize_pos : 0 < cacheSize
  /-- `CRC32Calculate` over `m_buffer`, as a function of the key. -/
  hash : K → Nat
  array : Fin cacheSize → K × V
  /-- `m_bits`, whose entries are only ever 0 or 1. -/
  bits : Fin cacheSize → Bool
  /-- False once an `NS_ASSERT` of `Remove` has failed. -/
  assertsHeld : Bool

namespace P4Cache

variable {K V : Type}

section Operations

variable [DecidableEq K] [DecidableEq V] [Zero K] [Zero V]

/-- `Setup`: every slot zero, every bit clear. -/
def setup
    (capacity : Nat)
    (capacity_pos : 0 < capacity)
    (hash : K → Nat) :
    P4Cache K V where
  cacheSize := capacity
  cacheSize_pos := capacity_pos
  hash := hash
  array := fun _ => (0, 0)
  bits := fun _ => false
  assertsHeld := true

/-- `GetIndex`: the hash of the key modulo the number of slots. -/
def getIndex
    (cache : P4Cache K V)
    (key : K) :
    Fin cache.cacheSize :=
  ⟨cache.hash key % cache.cacheSize,
    Nat.mod_lt _ cache.cacheSize_pos⟩

/-- The pair stored in the slot of a key. -/
def slot
    (cache : P4Cache K V)
    (key : K) :
    K × V :=
  cache.array (cache.getIndex key)

/-- Overwrite the slot of a key and its access bit. -/
def write
    (cache : P4Cache K V)
    (key : K)
    (entry : K × V)
    (bit : Bool) :
    P4Cache K V :=
  { cache with
    array := Function.update cache.array (cache.getIndex key) entry
    bits := Function.update cache.bits (cache.getIndex key) bit }

/-- Overwrite the access bit of the slot of a key. -/
def setBit
    (cache : P4Cache K V)
    (key : K)
    (bit : Bool) :
    P4Cache K V :=
  { cache with
    bits := Function.update cache.bits (cache.getIndex key) bit }

/-- `Find`. -/
def find
    (cache : P4Cache K V)
    (key : K) :
    Bool :=
  (cache.slot key).1 = key ∧ (cache.slot key).2 ≠ 0

/-- `GetBit`. -/
def getBit
    (cache : P4Cache K V)
    (key : K) :
    Bool :=
  cache.bits (cache.getIndex key)

/--
`Get (key, value)`: the value on a hit, and the cache with the access bit of
the slot set on a hit and cleared on a miss.
-/
def get
    (cache : P4Cache K V)
    (key : K) :
    Option V × P4Cache K V :=
  if (cache.slot key).1 = key ∧ (cache.slot key).2 ≠ 0 then
    (some (cache.slot key).2, cache.setBit key true)
  else
    (none, cache.setBit key false)

/--
`Get (key, value, bit)`: the value and the access bit before the call on a
hit, which sets the bit; a miss leaves it.
-/
def getWithBit
    (cache : P4Cache K V)
    (key : K) :
    Option (V × Bool) × P4Cache K V :=
  if (cache.slot key).1 = key ∧ (cache.slot key).2 ≠ 0 then
    (some ((cache.slot key).2, cache.getBit key), cache.setBit key true)
  else
    (none, cache)

/-- `PutIfNotEvict`: write unless another nonzero key occupies the slot. -/
def putIfNotEvict
    (cache : P4Cache K V)
    (key : K)
    (value : V) :
    Bool × P4Cache K V :=
  if (cache.slot key).1 ≠ 0 ∧ (cache.slot key).1 ≠ key then
    (false, cache)
  else
    (true,
      { cache with
        array :=
          Function.update cache.array (cache.getIndex key) (key, value) })

/-- `Put (key, value, evicted)`: the evicted pair, if any, and the new cache. -/
def put
    (cache : P4Cache K V)
    (key : K)
    (value : V) :
    Option (K × V) × P4Cache K V :=
  (if (cache.slot key).1 ≠ 0 ∧ (cache.slot key).1 ≠ key then
      some (cache.slot key)
    else
      none,
    cache.write key (key, value) false)

/-- `Remove`: zero the slot; the assertion is about the key it held. -/
def remove
    (cache : P4Cache K V)
    (key : K) :
    P4Cache K V :=
  { cache.write key (0, 0) false with
    assertsHeld := cache.assertsHeld && (cache.slot key).1 = key }

end Operations

/-! ## What the operations do to a slot -/

/-- Two keys share a slot. -/
def Collide
    (cache : P4Cache K V)
    (first second : K) : Prop :=
  cache.getIndex first = cache.getIndex second

instance (cache : P4Cache K V) (first second : K) :
    Decidable (cache.Collide first second) :=
  inferInstanceAs (Decidable (_ = _))

/-- The last value of a bit counts. -/
theorem setBit_setBit
    (cache : P4Cache K V)
    (key : K)
    (first second : Bool) :
    (cache.setBit key first).setBit key second =
      cache.setBit key second := by
  have bits :
      Function.update
          (Function.update cache.bits (cache.getIndex key) first)
          (cache.getIndex key) second =
        Function.update cache.bits (cache.getIndex key) second :=
    Function.update_idem _ _ _
  exact
    congrArg (fun bits => { cache with bits := bits }) bits

section Lookups

variable [DecidableEq K] [DecidableEq V] [Zero V]

/-- `Get` succeeds exactly on the value of a live slot of its key. -/
theorem get_eq_some_iff
    {cache : P4Cache K V}
    {key : K}
    {value : V} :
    (cache.get key).1 = some value ↔
      cache.slot key = (key, value) ∧ value ≠ 0 := by
  unfold get
  constructor
  · intro found
    split at found
    next hit =>
      simp only [Option.some.injEq] at found
      subst value
      exact ⟨Prod.ext hit.1 rfl, hit.2⟩
    next miss => simp at found
  · rintro ⟨occupied, nonzero⟩
    rw [if_pos] <;> simp [occupied, nonzero]

/-- `Find` and `Get` agree on what is cached. -/
theorem find_eq_isSome_get (cache : P4Cache K V) (key : K) :
    cache.find key = (cache.get key).1.isSome := by
  unfold find get
  split <;> simp_all

/-- A lookup changes no pair. -/
@[simp] theorem slot_get (cache : P4Cache K V) (key other : K) :
    (cache.get key).2.slot other = cache.slot other := by
  unfold get
  split <;> rfl

/-- A lookup sets or clears the bit of the slot it read. -/
theorem getBit_get (cache : P4Cache K V) (key other : K) :
    (cache.get key).2.getBit other =
      if cache.Collide other key then
        (cache.get key).1.isSome
      else
        cache.getBit other := by
  unfold get
  split <;>
    simp [getBit, setBit, getIndex, Collide, Function.update_apply]

@[simp] theorem collide_get (cache : P4Cache K V) (key first second : K) :
    (cache.get key).2.Collide first second ↔
      cache.Collide first second := by
  unfold get
  split <;> rfl

@[simp] theorem assertsHeld_get (cache : P4Cache K V) (key : K) :
    (cache.get key).2.assertsHeld = cache.assertsHeld := by
  unfold get
  split <;> rfl

@[simp] theorem slot_getWithBit (cache : P4Cache K V) (key other : K) :
    (cache.getWithBit key).2.slot other = cache.slot other := by
  unfold getWithBit
  split <;> rfl

@[simp] theorem collide_getWithBit
    (cache : P4Cache K V)
    (key first second : K) :
    (cache.getWithBit key).2.Collide first second ↔
      cache.Collide first second := by
  unfold getWithBit
  split <;> rfl

/-- A second lookup changes nothing. -/
theorem get_get (cache : P4Cache K V) (key : K) :
    ((cache.get key).2.get key).2 = (cache.get key).2 := by
  by_cases found : (cache.slot key).1 = key ∧ (cache.slot key).2 ≠ 0
  · have first (bit : Bool) :
        ((cache.setBit key bit).get key).2 =
          (cache.setBit key bit).setBit key true := by
      unfold get
      exact congrArg Prod.snd (if_pos found)
    have looked : (cache.get key).2 = cache.setBit key true := by
      unfold get
      rw [if_pos found]
    rw [looked, first, setBit_setBit]
  · have first (bit : Bool) :
        ((cache.setBit key bit).get key).2 =
          (cache.setBit key bit).setBit key false := by
      unfold get
      exact congrArg Prod.snd (if_neg found)
    have looked : (cache.get key).2 = cache.setBit key false := by
      unfold get
      rw [if_neg found]
    rw [looked, first, setBit_setBit]

end Lookups

section Insertions

variable [DecidableEq K] [Zero K]

@[simp] theorem slot_put (cache : P4Cache K V) (key other : K) (value : V) :
    (cache.put key value).2.slot other =
      if cache.Collide other key then (key, value) else cache.slot other := by
  simp [put, write, slot, getIndex, Collide, Function.update_apply]

@[simp] theorem getBit_put (cache : P4Cache K V) (key other : K) (value : V) :
    (cache.put key value).2.getBit other =
      if cache.Collide other key then false else cache.getBit other := by
  simp [put, write, getBit, getIndex, Collide, Function.update_apply]

@[simp] theorem collide_put
    (cache : P4Cache K V)
    (key first second : K)
    (value : V) :
    (cache.put key value).2.Collide first second ↔
      cache.Collide first second :=
  Iff.rfl

@[simp] theorem assertsHeld_put (cache : P4Cache K V) (key : K) (value : V) :
    (cache.put key value).2.assertsHeld = cache.assertsHeld :=
  rfl

/-- `Put` reports the pair of another nonzero key, and nothing else. -/
theorem put_evicted_eq_some_iff
    {cache : P4Cache K V}
    {key : K}
    {value : V}
    {evicted : K × V} :
    (cache.put key value).1 = some evicted ↔
      cache.slot key = evicted ∧ evicted.1 ≠ 0 ∧ evicted.1 ≠ key := by
  unfold put
  constructor
  · intro reported
    simp only [Option.ite_none_right_eq_some, Option.some.injEq] at reported
    obtain ⟨occupied, rfl⟩ := reported
    exact ⟨rfl, occupied⟩
  · rintro ⟨rfl, occupied⟩
    simp [occupied]

@[simp] theorem slot_putIfNotEvict
    (cache : P4Cache K V)
    (key other : K)
    (value : V) :
    (cache.putIfNotEvict key value).2.slot other =
      if cache.Collide other key ∧
          ((cache.slot key).1 = 0 ∨ (cache.slot key).1 = key) then
        (key, value)
      else
        cache.slot other := by
  unfold putIfNotEvict
  split
  next occupied =>
    have refused :
        ¬ (cache.Collide other key ∧
          ((cache.slot key).1 = 0 ∨ (cache.slot key).1 = key)) := by
      tauto
    rw [if_neg refused]
  next free =>
    have admitted :
        (cache.slot key).1 = 0 ∨ (cache.slot key).1 = key := by
      tauto
    simp only [admitted, and_true]
    simp [slot, getIndex, Collide, Function.update_apply]

@[simp] theorem getBit_putIfNotEvict
    (cache : P4Cache K V)
    (key other : K)
    (value : V) :
    (cache.putIfNotEvict key value).2.getBit other =
      cache.getBit other := by
  unfold putIfNotEvict
  split <;> rfl

@[simp] theorem collide_putIfNotEvict
    (cache : P4Cache K V)
    (key first second : K)
    (value : V) :
    (cache.putIfNotEvict key value).2.Collide first second ↔
      cache.Collide first second := by
  unfold putIfNotEvict
  split <;> rfl

@[simp] theorem assertsHeld_putIfNotEvict
    (cache : P4Cache K V)
    (key : K)
    (value : V) :
    (cache.putIfNotEvict key value).2.assertsHeld = cache.assertsHeld := by
  unfold putIfNotEvict
  split <;> rfl

end Insertions

section Removal

variable [DecidableEq K] [Zero K] [Zero V]

@[simp] theorem slot_remove (cache : P4Cache K V) (key other : K) :
    (cache.remove key).slot other =
      if cache.Collide other key then (0, 0) else cache.slot other := by
  simp [remove, write, slot, getIndex, Collide, Function.update_apply]

@[simp] theorem getBit_remove (cache : P4Cache K V) (key other : K) :
    (cache.remove key).getBit other =
      if cache.Collide other key then false else cache.getBit other := by
  simp [remove, write, getBit, getIndex, Collide, Function.update_apply]

@[simp] theorem collide_remove
    (cache : P4Cache K V)
    (key first second : K) :
    (cache.remove key).Collide first second ↔
      cache.Collide first second :=
  Iff.rfl

/-- The assertion holds for a key that its slot holds. -/
theorem assertsHeld_remove
    {cache : P4Cache K V}
    {key : K}
    (held : (cache.slot key).1 = key) :
    (cache.remove key).assertsHeld = cache.assertsHeld := by
  unfold remove
  dsimp only
  rw [decide_eq_true held, Bool.and_true]

/-- Then no entry of another key is lost. -/
theorem get_remove_of_ne
    [DecidableEq V]
    {cache : P4Cache K V}
    {key other : K}
    (held : (cache.slot key).1 = key)
    (different : other ≠ key) :
    ((cache.remove key).get other).1 = (cache.get other).1 := by
  apply Option.ext
  intro value
  rw [get_eq_some_iff, get_eq_some_iff, slot_remove]
  apply and_congr_left
  intro nonzero
  split
  next collide =>
    constructor
    · intro wiped
      exact absurd (congrArg Prod.snd wiped).symm nonzero
    · intro stored
      have sameSlot : cache.slot other = cache.slot key := by
        unfold slot
        rw [collide]
      rw [sameSlot] at stored
      rw [stored] at held
      exact absurd held different
  next apart => rfl

end Removal

/-! ## Invariants about every stored pair -/

section Invariants

variable [Zero K] [Zero V]

/-- Every slot is empty or stores a pair with the given property. -/
def Stores
    (holds : K → V → Prop)
    (cache : P4Cache K V) : Prop :=
  ∀ idx, cache.array idx = (0, 0) ∨
    holds (cache.array idx).1 (cache.array idx).2

namespace Stores

variable {holds : K → V → Prop}

theorem setup
    (capacity : Nat)
    (capacity_pos : 0 < capacity)
    (hash : K → Nat) :
    Stores holds (P4Cache.setup capacity capacity_pos hash) :=
  fun _ => Or.inl rfl

/-- A weaker property of the pairs is kept as well. -/
theorem mono
    {weaker : K → V → Prop}
    {cache : P4Cache K V}
    (stores : cache.Stores holds)
    (weakens : ∀ key value, holds key value → weaker key value) :
    cache.Stores weaker :=
  fun idx => (stores idx).imp_right (weakens _ _)

/-- A live pair has the property. -/
theorem of_live
    {cache : P4Cache K V}
    (stores : cache.Stores holds)
    (idx : Fin cache.cacheSize)
    (live : (cache.array idx).2 ≠ 0) :
    holds (cache.array idx).1 (cache.array idx).2 := by
  rcases stores idx with empty | stored
  · exact absurd (by rw [empty]) live
  · exact stored

/-- Overwriting one slot keeps the property of the others. -/
theorem write
    {cache : P4Cache K V}
    (stores : cache.Stores holds)
    (key : K)
    {entry : K × V}
    (new : entry = (0, 0) ∨ holds entry.1 entry.2)
    (bit : Bool) :
    (cache.write key entry bit).Stores holds := by
  intro (idx : Fin cache.cacheSize)
  by_cases same : idx = cache.getIndex key
  · simpa [P4Cache.write, same] using new
  · simpa [P4Cache.write, same] using stores idx

variable [DecidableEq K]

/-- What `Put` evicts has the property. -/
theorem of_evicted
    {cache : P4Cache K V}
    (stores : cache.Stores holds)
    {key : K}
    {value : V}
    {evicted : K × V}
    (reported : (cache.put key value).1 = some evicted) :
    holds evicted.1 evicted.2 := by
  obtain ⟨occupied, nonzero, _⟩ := put_evicted_eq_some_iff.mp reported
  subst occupied
  rcases stores (cache.getIndex key) with empty | stored
  · exact absurd (by simp [slot, empty]) nonzero
  · exact stored

theorem put
    {cache : P4Cache K V}
    (stores : cache.Stores holds)
    {key : K}
    {value : V}
    (new : holds key value) :
    (cache.put key value).2.Stores holds :=
  stores.write key (Or.inr new) false

theorem putIfNotEvict
    {cache : P4Cache K V}
    (stores : cache.Stores holds)
    {key : K}
    {value : V}
    (new : holds key value) :
    (cache.putIfNotEvict key value).2.Stores holds := by
  unfold P4Cache.putIfNotEvict
  split
  · exact stores
  · intro (idx : Fin cache.cacheSize)
    by_cases same : idx = cache.getIndex key
    · simpa [same] using Or.inr new
    · simpa [same] using stores idx

theorem remove
    {cache : P4Cache K V}
    (stores : cache.Stores holds)
    (key : K) :
    (cache.remove key).Stores holds :=
  stores.write key (Or.inl rfl) false

variable [DecidableEq V]

/-- What `Get` returns has the property. -/
theorem of_get
    {cache : P4Cache K V}
    (stores : cache.Stores holds)
    {key : K}
    {value : V}
    (found : (cache.get key).1 = some value) :
    holds key value := by
  obtain ⟨occupied, nonzero⟩ := get_eq_some_iff.mp found
  have live : (cache.array (cache.getIndex key)).2 ≠ 0 := by
    change (cache.slot key).2 ≠ 0
    simpa [occupied] using nonzero
  have stored := stores.of_live _ live
  change holds (cache.slot key).1 (cache.slot key).2 at stored
  simpa [occupied] using stored

theorem get
    {cache : P4Cache K V}
    (stores : cache.Stores holds)
    (key : K) :
    (cache.get key).2.Stores holds := by
  unfold P4Cache.get
  split <;> exact stores

theorem getWithBit
    {cache : P4Cache K V}
    (stores : cache.Stores holds)
    (key : K) :
    (cache.getWithBit key).2.Stores holds := by
  unfold P4Cache.getWithBit
  split <;> exact stores

end Stores

end Invariants

end P4Cache

end SwitchV2P
